import BuildChronicle.Proofs.Course

/-!
# Who writes the records

Every record that a call of a session writes comes from a logger of the library's own: that of
the session, of its report, of its dispatcher, or of the handler that builds a node. So there is
no record that the threshold of the log book does not apply to.

Attempts write what their steps write, so it takes one law for each way of putting steps
together, and then one statement for each function that builds elements.
-/

namespace BuildChronicle

/-- The record was written by a logger of the library's own. -/
def Record.IsOwn (record : Record) : Prop := isOwnLogger record.logger = true

/-- All these records were written by loggers of the library's own. -/
def AllOwn (records : List Record) : Prop := ∀ record ∈ records, record.IsOwn

/-- Where nothing was written, nobody else wrote anything. -/
theorem allOwn_nil : AllOwn [] := fun _ member => nomatch member

/-- One record of an own logger. -/
theorem allOwn_singleton (record : Record) (own : record.IsOwn) : AllOwn [record] := by
  intro other member
  rw [List.mem_singleton.mp member]
  exact own

/-- Records of own loggers, and more of them. -/
theorem allOwn_append (records later : List Record) (own : AllOwn records)
    (laterOwn : AllOwn later) : AllOwn (records ++ later) := by
  intro record member
  rcases List.mem_append.mp member with earlier | afterwards
  · exact own record earlier
  · exact laterOwn record afterwards

namespace Attempt

variable {ε α β : Type}

/-- A step and the next one write what both of them write. -/
theorem allOwn_bind (attempt : Attempt ε α) (next : α → Attempt ε β)
    (own : AllOwn attempt.records) (nextOwn : ∀ result, AllOwn (next result).records) :
    AllOwn (attempt >>= next).records := by
  cases outcome : attempt.outcome with
  | error error => simpa [bind, andThen, outcome] using own
  | ok result =>
    simpa [bind, andThen, outcome] using allOwn_append _ _ own (nextOwn result)

/-- A step followed by nothing but its result writes what the step writes. -/
theorem allOwn_map (attempt : Attempt ε α) (change : α → β) (own : AllOwn attempt.records) :
    AllOwn (attempt >>= fun result => pure (change result)).records :=
  allOwn_bind attempt _ own fun _ => allOwn_nil

/-- What is attempted for a value that may be missing. -/
theorem allOwn_forOption (act : α → Attempt Fault β) (own : ∀ a, AllOwn (act a).records)
    (value : Option α) : AllOwn (forOption act value).records := by
  cases value with
  | none => exact allOwn_nil
  | some a => exact allOwn_map (act a) some (own a)

/-- What is attempted for every item. -/
theorem allOwn_forEach (act : α → Attempt Fault β) (own : ∀ a, AllOwn (act a).records)
    (items : List α) : AllOwn (forEach act items).records := by
  induction items with
  | nil => exact allOwn_nil
  | cons a rest inductionHypothesis =>
    apply allOwn_bind _ _ (own a)
    intro result
    exact allOwn_map _ (result :: ·) inductionHypothesis

end Attempt

namespace Element

variable (files : FileSystem)

/-- Only an unexpected name of a descriptor is written about. -/
theorem allOwn_descriptor (logger : String) (project : Project) (file : Path)
    (own : isOwnLogger logger = true) : AllOwn (descriptor files logger project file).records := by
  apply Attempt.allOwn_bind _ _ allOwn_nil
  intro path
  dsimp only
  split
  · exact allOwn_nil
  · exact Attempt.allOwn_map _ _ (allOwn_singleton _ own)

/-- The element of a project is written about by the given logger. -/
theorem allOwn_project (logger name : String) (given : Option Project)
    (own : isOwnLogger logger = true) : AllOwn (project files logger name given).records := by
  cases given with
  | none => exact allOwn_nil
  | some given =>
    apply Attempt.allOwn_bind
    · exact Attempt.allOwn_forOption _ (fun _ => allOwn_nil) given.basedir
    · intro baseDirectory
      exact Attempt.allOwn_map _ _
        (Attempt.allOwn_forOption _ (fun file => allOwn_descriptor files logger given file own) _)

/-- Nothing is written about the element of a file. -/
theorem allOwn_file (name : String) (path : Option String) :
    AllOwn (file files name path).records :=
  Attempt.allOwn_map _ _ (Attempt.allOwn_forOption _ (fun _ => allOwn_nil) path)

/-- Nothing is written about the element of an artifact. -/
theorem allOwn_artifact (types : Option TypeRegistry) (name : String)
    (given : Option Artifact) : AllOwn (artifact types name given).records := by
  cases given with
  | none => exact allOwn_nil
  | some given => exact Attempt.allOwn_map _ _ allOwn_nil

/-- Nothing is written about the file of an artifact. -/
theorem allOwn_artifactFile (given : Option Artifact) :
    AllOwn (artifactFile files given).records := by
  apply Attempt.allOwn_map
  apply Attempt.allOwn_forOption
  intro path
  exact allOwn_file files "file" (some path.text)

/-- Nothing is written about an artifact and its file. -/
theorem allOwn_artifactWithFile (types : Option TypeRegistry) (name : String)
    (given : Option Artifact) : AllOwn (artifactWithFile files types name given).records := by
  apply Attempt.allOwn_bind _ _ (allOwn_artifact types name given)
  intro element
  exact Attempt.allOwn_map _ _ (allOwn_artifactFile files given)

/-- Nothing is written about a dependency. -/
theorem allOwn_dependency (types : Option TypeRegistry) (name : String) (given : Dependency) :
    AllOwn (dependency files types name given).records := by
  apply Attempt.allOwn_bind _ _ (allOwn_artifact types name (some given.artifact))
  intro element
  exact Attempt.allOwn_map _ _ (allOwn_artifactFile files (some given.artifact))

end Element

namespace Handler

/-- The loggers of handlers are the library's own. -/
theorem isOwnLogger_loggerName (name : String) : isOwnLogger (loggerName none name) = true := by
  have below : ("event_spy.handlers." ++ name).toList =
      "event_spy.".toList ++ ("handlers.".toList ++ name.toList) := by
    rw [String.toList_append]
    rfl
  have inside : (rootLogger ++ ".").toList.isPrefixOf (loggerName none name).toList = true := by
    rw [List.isPrefixOf_iff_prefix]
    exact ⟨_, below.symm⟩
  rw [isOwnLogger, isLoggerBelow, inside, Bool.or_true]

variable (logger : String) (surroundings : Surroundings)

/-- Nothing is written about the artifacts of a project that was built. -/
theorem allOwn_artifactDetails (event : ExecutionEvent) :
    AllOwn (artifactDetails logger surroundings event).records := by
  rw [artifactDetails]
  split
  · exact allOwn_nil
  · apply Attempt.allOwn_bind _ _ (Element.allOwn_artifactWithFile _ _ _ _)
    intro main
    exact Attempt.allOwn_map _ _
      (Attempt.allOwn_forEach _ (fun _ => Element.allOwn_artifactWithFile _ _ _ _) _)

/-- That there is no repository is written by the given logger. -/
theorem allOwn_deploymentDetails (event : ExecutionEvent) (own : isOwnLogger logger = true) :
    AllOwn (deploymentDetails logger surroundings event).records := by
  rw [deploymentDetails]
  split
  · exact allOwn_nil
  · dsimp only
    split
    · exact allOwn_nil
    · split
      · exact Attempt.allOwn_map _ _ (allOwn_singleton _ own)
      · exact allOwn_nil

/-- The node of an execution event is written about by the given logger, if what is written about
its details is. -/
theorem allOwn_executionNode (parameters : List String) (details : Details)
    (event : ExecutionEvent) (own : isOwnLogger logger = true)
    (detailsOwn : AllOwn (details logger surroundings event).records) :
    AllOwn (executionNode logger parameters details surroundings event).records := by
  apply Attempt.allOwn_bind _ _ (Element.allOwn_project _ _ _ _ own)
  intro project
  exact Attempt.allOwn_map _ _ detailsOwn

/-- Nothing is written about the request of the session. -/
theorem allOwn_requestNode (asked : ExecutionRequest) :
    AllOwn (requestNode surroundings asked).records := by
  have path (name : String) (given : Option Path) :
      AllOwn (Element.path surroundings.files name given).records :=
    Element.allOwn_file surroundings.files name _
  apply Attempt.allOwn_bind _ _ (Attempt.allOwn_forOption _ (fun _ => allOwn_nil) _)
  intro baseDirectory
  apply Attempt.allOwn_bind _ _ (path _ _)
  intro pom
  apply Attempt.allOwn_bind _ _ (path _ _)
  intro user
  apply Attempt.allOwn_bind _ _ (path _ _)
  intro installation
  exact Attempt.allOwn_map _ _ (path _ _)

/-- The result of the session is written about by the given logger. -/
theorem allOwn_resultNode (project : Option Project) (exceptions : List Thrown)
    (own : isOwnLogger logger = true) :
    AllOwn (resultNode logger surroundings project exceptions).records :=
  Attempt.allOwn_map _ _ (Element.allOwn_project _ _ _ _ own)

/-- The result of resolving dependencies is written about by the given logger. -/
theorem allOwn_resolutionNode (resolved : List Dependency) (errors : List Thrown)
    (own : isOwnLogger logger = true) :
    AllOwn (resolutionNode logger surroundings resolved errors).records := by
  apply Attempt.allOwn_bind _ _
    (Attempt.allOwn_forOption _ (fun _ => Element.allOwn_project _ _ _ _ own) _)
  intro project
  exact Attempt.allOwn_map _ _
    (Attempt.allOwn_forEach _ (fun _ => Element.allOwn_dependency _ _ _ _) _)

end Handler

/-- Whatever is received, only the loggers of the standard handlers write about its treatment. -/
theorem Event.allOwn_treatment (surroundings : Surroundings) (event : Event) :
    AllOwn (event.treatment surroundings).attempt.records := by
  have own := Handler.isOwnLogger_loggerName
  cases event with
  | execution event =>
    rw [treatment, ExecutionEvent.treatment]
    split
    · apply Attempt.allOwn_map
      apply Handler.allOwn_executionNode _ _ _ _ _ (own _)
      rw [ExecutionEvent.reportedDetails]
      split
      · exact Handler.allOwn_artifactDetails _ _ _
      · split
        · exact Handler.allOwn_deploymentDetails _ _ _ (own _)
        · exact allOwn_nil
    · split <;> exact allOwn_nil
  | request asked => exact Attempt.allOwn_map _ _ (Handler.allOwn_requestNode _ _)
  | result project exceptions =>
    exact Attempt.allOwn_map _ _ (Handler.allOwn_resultNode _ _ _ _ (own _))
  | resolutionRequest project => exact allOwn_nil
  | resolutionResult resolved errors =>
    exact Attempt.allOwn_map _ _ (Handler.allOwn_resolutionNode _ _ _ _ (own _))
  | lookalike claimed project mojo => exact allOwn_nil
  | text content => exact allOwn_nil
  | nothing => exact allOwn_nil

namespace Report

/-- The logger of reports is the library's own. -/
theorem isOwnLogger_logger : isOwnLogger logger = true := by decide

/-- Printing is written about by the report. -/
theorem allOwn_add (report : Report) (node : Node) : AllOwn (report.add node).records := by
  rw [add]
  split
  · exact allOwn_nil
  · exact allOwn_singleton _ isOwnLogger_logger

/-- Closing is written about by the report. -/
theorem allOwn_close (report : Report) (time : String) : AllOwn (report.close time).2 := by
  rw [close]
  split
  · exact allOwn_nil
  · exact allOwn_singleton _ isOwnLogger_logger

end Report

/-- The logger of the dispatcher is the library's own. -/
theorem Dispatcher.isOwnLogger_logger : isOwnLogger logger = true := by decide

namespace Desk

/-- Registrations are written about by the dispatcher. -/
theorem allOwn_enlistAll (desk : Desk) (handlers : List Handler) :
    AllOwn (desk.enlistAll handlers).records := by
  induction handlers generalizing desk with
  | nil => exact allOwn_nil
  | cons handler rest inductionHypothesis =>
    have first : AllOwn (desk.enlist handler).records := by
      rw [enlist]
      split
      · exact allOwn_nil
      · exact allOwn_singleton _ Dispatcher.isOwnLogger_logger
    rw [enlistAll]
    split
    · exact first
    · exact allOwn_append _ _ first (inductionHypothesis _)

/-- Carrying out a reaction is written about by the report. -/
theorem allOwn_react (report : Report) (reaction : Reaction) :
    AllOwn (react report reaction).records := by
  cases reaction with
  | answered answer => exact allOwn_nil
  | reported node =>
    have added := report.allOwn_add node
    rw [react]
    split <;> exact added

/-- Whatever is received at a standard desk, only own loggers write about it. -/
theorem allOwn_receive (types : TypeRegistry) (desk : Desk) (report : Report) (time : String)
    (files : FileSystem) (event : Event) (standard : desk.IsStandard types) :
    AllOwn (desk.receive report time files event).records := by
  have attempted := Event.allOwn_treatment (desk.knowledge types time files event) event
  rw [← attempt_standard types desk time files event standard] at attempted
  rw [receive, dispatch]
  dsimp only
  rw [conclude]
  split
  · exact attempted
  · exact allOwn_append _ _ attempted (allOwn_react report _)

end Desk

namespace Session

/-- The logger of sessions is the library's own. -/
theorem isOwnLogger_logger : isOwnLogger logger = true := by decide

/-- Only own loggers write about the start of a session. -/
theorem allOwn_start (session : Session) (time : String) (context : Table Value) :
    AllOwn (session.start time context).records := by
  rw [start]
  split
  · exact allOwn_singleton _ isOwnLogger_logger
  · dsimp only
    have registered : AllOwn (newDesk (session.types.getD TypeRegistry.stock)).2 :=
      Desk.allOwn_enlistAll _ _
    have added := (session.report?.getD (Report.openAt time)).allOwn_add (firstNode time context)
    have begun := allOwn_append _ _ registered added
    split
    · exact begun
    · exact allOwn_append _ _ begun (allOwn_singleton _ isOwnLogger_logger)

/-- Only own loggers write about what a session with a standard desk receives. -/
theorem allOwn_receive (session : Session) (time : String) (files : FileSystem) (event : Event)
    (types : TypeRegistry)
    (standard : ∀ report desk, session.stage = .wired report desk → desk.IsStandard types) :
    AllOwn (session.receive time files event).records := by
  rw [receive]
  split
  · exact allOwn_nil
  · split
    · exact allOwn_nil
    · rename_i report desk stage
      have received :=
        Desk.allOwn_receive types desk report time files event (standard report desk stage)
      dsimp only
      split
      · exact received
      · exact allOwn_append _ _ received (allOwn_singleton _ isOwnLogger_logger)

/-- Only the report writes about the end of a session. -/
theorem allOwn_close (session : Session) (time : String) :
    AllOwn (session.close time).records := by
  rw [close]
  split
  · exact allOwn_nil
  · split
    · exact allOwn_nil
    · exact Report.allOwn_close _ time
    · exact Report.allOwn_close _ time

/-- Only the report writes about what is printed to it past the session. -/
theorem allOwn_print (session : Session) (node : Node) : AllOwn (session.print node).records := by
  rw [print]
  split
  · exact allOwn_nil
  · rename_i report _
    have added := report.allOwn_add node
    dsimp only
    split <;> exact added

/-- Only the report writes about being closed past the session. -/
theorem allOwn_closeReport (session : Session) (time : String) :
    AllOwn (session.closeReport time).records := by
  rw [closeReport]
  split
  · exact allOwn_nil
  · exact Report.allOwn_close _ time

end Session

/-- Throughout a run, calls only write records of own loggers. -/
theorem Monitor.allOwn_perform {settings : Settings} {types : TypeRegistry} {monitor : Monitor}
    (call : Call) (regular : monitor.Regular settings types) :
    AllOwn (monitor.perform call).records := by
  cases call with
  | start time context =>
    rw [perform]
    dsimp only
    split
    · exact allOwn_nil
    · exact monitor.session.allOwn_start time context
  | receive time files event =>
    apply monitor.session.allOwn_receive time files event types
    intro report desk stage
    exact (regular.wired report desk stage).2.1
  | close time => exact monitor.session.allOwn_close time
  | print node => exact monitor.session.allOwn_print node
  | closeReport time => exact monitor.session.allOwn_closeReport time

end BuildChronicle
