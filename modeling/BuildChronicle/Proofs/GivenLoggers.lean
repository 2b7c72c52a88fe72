import Mathlib.Data.List.Forall2
import BuildChronicle.Proofs.StandardDesk

/-!
# Loggers that handlers are given

The standard handlers may be given a logger. What they write goes to this logger, but neither
which events they accept nor what they report depends on it. So a dispatcher that was made with
any logger treats every event in the same way, apart from the records.

Handlers that agree in everything but their records are compared one by one; from there it is
the same for shelves, for what comes of offering an event, and for the report of a desk.
-/

namespace BuildChronicle

namespace Attempt

variable {ε α β : Type}

/-- Attempts that end alike still do if next steps follow that end alike. -/
theorem outcome_bind_congr (first second : Attempt ε α) (next other : α → Attempt ε β)
    (same : first.outcome = second.outcome)
    (onwards : ∀ value, (next value).outcome = (other value).outcome) :
    (first >>= next).outcome = (second >>= other).outcome := by
  cases ended : second.outcome with
  | error fault => simp [bind, andThen, same, ended]
  | ok value => simp [bind, andThen, same, ended, onwards]

/-- What is attempted for a value that may be missing ends alike if it does for every value. -/
theorem outcome_forOption_congr (act other : α → Attempt Fault β) (value : Option α)
    (same : ∀ value, (act value).outcome = (other value).outcome) :
    (forOption act value).outcome = (forOption other value).outcome := by
  cases value with
  | none => rfl
  | some value => exact outcome_bind_congr _ _ _ _ (same value) fun _ => rfl

end Attempt

section Elements

variable (logger other : String) (surroundings : Surroundings)

/-- The descriptor that is reported does not depend on the logger. -/
theorem Element.outcome_descriptor (files : FileSystem) (project : Project) (file : Path) :
    (descriptor files logger project file).outcome =
      (descriptor files other project file).outcome := by
  apply Attempt.outcome_bind_congr _ _ _ _ rfl
  intro path
  dsimp only
  split <;> rfl

/-- The element of a project does not depend on the logger. -/
theorem Element.outcome_project (files : FileSystem) (name : String) (given : Option Project) :
    (project files logger name given).outcome = (project files other name given).outcome := by
  cases given with
  | none => rfl
  | some given =>
    apply Attempt.outcome_bind_congr _ _ _ _ rfl
    intro baseDirectory
    apply Attempt.outcome_bind_congr _ _ _ _ _ fun _ => rfl
    exact Attempt.outcome_forOption_congr _ _ _
      (Element.outcome_descriptor logger other files given)

namespace Handler

/-- Details that do not depend on the logger. -/
def Details.IsBlind (details : Details) : Prop :=
  ∀ logger other surroundings event,
    (details logger surroundings event).outcome = (details other surroundings event).outcome

/-- Adding nothing does not depend on the logger. -/
theorem isBlind_noDetails : Details.IsBlind noDetails := fun _ _ _ _ => rfl

/-- No more do the elements of artifacts. -/
theorem isBlind_artifactDetails : Details.IsBlind artifactDetails := fun _ _ _ _ => rfl

/-- The element of the repository does not depend on the logger that a missing one is noted
with. -/
theorem isBlind_deploymentDetails : Details.IsBlind deploymentDetails := by
  intro logger other surroundings event
  rw [deploymentDetails, deploymentDetails]
  cases event.project with
  | none => rfl
  | some project =>
    dsimp only
    split
    · rfl
    · split <;> rfl

/-- The node of an execution event does not depend on the logger. -/
theorem outcome_executionNode (parameters : List String) (details : Details)
    (event : ExecutionEvent) (blind : details.IsBlind) :
    (executionNode logger parameters details surroundings event).outcome =
      (executionNode other parameters details surroundings event).outcome := by
  apply Attempt.outcome_bind_congr _ _ _ _
    (Element.outcome_project logger other surroundings.files "project" event.project)
  intro project
  exact Attempt.outcome_bind_congr _ _ _ _ (blind logger other surroundings event) fun _ => rfl

/-- The node of a result does not depend on the logger. -/
theorem outcome_resultNode (project : Option Project) (exceptions : List Thrown) :
    (resultNode logger surroundings project exceptions).outcome =
      (resultNode other surroundings project exceptions).outcome :=
  Attempt.outcome_bind_congr _ _ _ _
    (Element.outcome_project logger other surroundings.files "project" project) fun _ => rfl

/-- The node of resolved dependencies does not depend on the logger. -/
theorem outcome_resolutionNode (resolved : List Dependency) (errors : List Thrown) :
    (resolutionNode logger surroundings resolved errors).outcome =
      (resolutionNode other surroundings resolved errors).outcome :=
  Attempt.outcome_bind_congr _ _ _ _
    (Attempt.outcome_forOption_congr _ _ _ fun given =>
      Element.outcome_project logger other surroundings.files "project" (some given))
    fun _ => rfl

end Handler

end Elements

namespace Handler

/-- Two handlers that agree in which events they are for and in what becomes of these. They may
differ in their records. -/
structure Agrees (handler other : Handler) : Prop where
  /-- They declare the same kind. -/
  kind : handler.kind = other.kind
  /-- They declare the same goal. -/
  goal : handler.goal = other.goal
  /-- They are for the same class. -/
  payload : handler.payload = other.payload
  /-- They choose events in the same way. -/
  matching : handler.matching = other.matching
  /-- Processing an event ends alike. -/
  process : ∀ surroundings event,
    (handler.process surroundings event).outcome = (other.process surroundings event).outcome

/-- Handlers that agree accept the same events. -/
theorem Agrees.accepts {handler other : Handler} (agrees : handler.Agrees other)
    (event : Event) : handler.accepts event = other.accepts event := by
  obtain ⟨sameKind, sameGoal, samePayload, sameMatching, -⟩ := agrees
  cases handler
  cases other
  cases sameKind
  cases sameGoal
  cases samePayload
  cases sameMatching
  rfl

variable (logger other : Option String)

/-- Reporting handlers agree if they differ in their logger only. -/
theorem agrees_reporting (name : String) (kind : Declared) (goal : Value)
    (parameters : Option (List String)) (details : Details) (blind : details.IsBlind) :
    (reporting logger name kind goal parameters details).Agrees
      (reporting other name kind goal parameters details) := by
  refine ⟨rfl, rfl, rfl, rfl, ?_⟩
  intro surroundings event
  rw [reporting, reporting]
  cases parameters with
  | none => rfl
  | some parameters =>
    cases event with
    | execution event =>
      exact Attempt.outcome_bind_congr _ _ _ _
        (outcome_executionNode _ _ surroundings parameters details event blind) fun _ => rfl
    | request | result | resolutionRequest | resolutionResult | lookalike | text | nothing => rfl

/-- So do handlers of requests and results. -/
theorem agrees_exchanging (name : String) (kind : Kind) (payload : EventClass) :
    (exchanging logger name kind payload).Agrees (exchanging other name kind payload) := by
  refine ⟨rfl, rfl, rfl, rfl, ?_⟩
  intro surroundings event
  rw [exchanging, exchanging]
  cases event with
  | result project exceptions =>
    exact Attempt.outcome_bind_congr _ _ _ _
      (outcome_resultNode _ _ surroundings project exceptions) fun _ => rfl
  | resolutionResult resolved errors =>
    exact Attempt.outcome_bind_congr _ _ _ _
      (outcome_resolutionNode _ _ surroundings resolved errors) fun _ => rfl
  | request | execution | resolutionRequest | lookalike | text | nothing => rfl

/-- The standard handlers agree, whichever loggers they were given. -/
theorem agree_standard :
    List.Forall₂ Agrees (standard logger) (standard other) := by
  have silent (handler : Handler) : handler.Agrees handler :=
    ⟨rfl, rfl, rfl, rfl, fun _ _ => rfl⟩
  have forKind (name : String) (kind : Kind) (details : Details) (blind : details.IsBlind) :=
    agrees_reporting logger other name (.kind kind) .null (some []) details blind
  have forGoal (name goal : String) (parameters : List String) (details : Details)
      (blind : details.IsBlind) :=
    agrees_reporting logger other name (.kind .mojoSucceeded) (.text goal) (some parameters)
      details blind
  have exchanging := agrees_exchanging logger other
  exact .cons (silent _) <| .cons (forKind _ _ _ isBlind_noDetails) <|
    .cons (forKind _ _ _ isBlind_artifactDetails) <| .cons (forKind _ _ _ isBlind_noDetails) <|
    .cons (forKind _ _ _ isBlind_noDetails) <| .cons (forKind _ _ _ isBlind_noDetails) <|
    .cons (forKind _ _ _ isBlind_noDetails) <| .cons (forGoal _ _ _ _ isBlind_noDetails) <|
    .cons (forGoal _ _ _ _ isBlind_noDetails) <|
    .cons (forGoal _ _ _ _ isBlind_deploymentDetails) <| .cons (exchanging _ _ _) <|
    .cons (exchanging _ _ _) <| .cons (silent _) <| .cons (exchanging _ _ _) .nil

/-- Numbering keeps handlers in agreement. -/
theorem agree_numbered (first : Nat) (handlers others : List Handler)
    (agree : List.Forall₂ Agrees handlers others) :
    List.Forall₂ Agrees (numbered first handlers) (numbered first others) := by
  induction agree generalizing first with
  | nil => exact .nil
  | cons agrees _ inductionHypothesis =>
    exact .cons ⟨agrees.kind, agrees.goal, agrees.payload, agrees.matching, agrees.process⟩
      (inductionHypothesis (first + 1))

/-- Handlers in agreement have the same keys. -/
theorem keys_of_agree (handlers others : List Handler)
    (agree : List.Forall₂ Agrees handlers others) : handlers.map key? = others.map key? := by
  induction agree with
  | nil => rfl
  | cons agrees _ inductionHypothesis =>
    rw [List.map_cons, List.map_cons, inductionHypothesis, key?, key?, goal?, goal?, agrees.kind,
      agrees.goal]

/-- Handlers in agreement with well-formed ones are well-formed. -/
theorem wellFormed_of_agree (handlers others : List Handler)
    (agree : List.Forall₂ Agrees handlers others)
    (wellFormed : ∀ other ∈ others, other.WellFormed) :
    ∀ handler ∈ handlers, handler.WellFormed := by
  induction agree with
  | nil => exact nofun
  | @cons handler other _ _ agrees _ inductionHypothesis =>
    rw [List.forall_mem_cons] at wellFormed ⊢
    refine ⟨?_, inductionHypothesis wellFormed.2⟩
    obtain ⟨kind, goal, payload⟩ := wellFormed.1
    constructor
    · rwa [agrees.kind]
    · rwa [goal?, agrees.goal]
    · rwa [agrees.payload]

end Handler

namespace Dispatcher

open Handler

/-- The dispatcher that the standard handlers make, with a logger if one is given. -/
def standard (logger : Option String) : Dispatcher :=
  (({} : Desk).enlistAll (Handler.standard logger)).state.dispatcher

/-- The standard handlers stand on its shelves. -/
theorem shelves_standard (logger : Option String) :
    (standard logger).Shelves (numbered 0 (Handler.standard logger)) := by
  have agree := agree_numbered 0 _ _ (agree_standard logger none)
  have wellFormed := wellFormed_of_agree _ _ agree wellFormed_standard
  have distinct : (([] ++ numbered 0 (Handler.standard logger)).map key?).Nodup := by
    rw [List.nil_append, keys_of_agree _ _ agree]
    exact distinct_standard
  have shelves := Desk.enlistAll_shelves {} [] (Handler.standard logger) 0 rfl wellFormed distinct
    shelves_empty
  rwa [List.nil_append] at shelves

/-- The dispatcher that enlisting leads to does not depend on what else is at the desk. -/
theorem enlistAll_dispatcher (desk other : Desk) (handlers : List Handler)
    (sameDispatcher : desk.dispatcher = other.dispatcher)
    (sameEnlisted : desk.enlisted = other.enlisted) :
    (desk.enlistAll handlers).state.dispatcher = (other.enlistAll handlers).state.dispatcher := by
  induction handlers generalizing desk other with
  | nil => exact sameDispatcher
  | cons handler rest inductionHypothesis =>
    rw [Desk.enlistAll, Desk.enlistAll, Desk.enlist, Desk.enlist, sameDispatcher, sameEnlisted]
    dsimp only
    cases other.dispatcher.register { handler with serial := other.enlisted.length } with
    | error error => exact sameDispatcher
    | ok dispatcher => exact inductionHypothesis _ _ rfl rfl

/-- A new desk of a session has this dispatcher, with handlers that were given no logger. -/
theorem dispatcher_newDesk (types : TypeRegistry) :
    (Session.newDesk types).1.dispatcher = standard none := by
  rw [Session.newDesk_eq]
  exact enlistAll_dispatcher { types := some types } {} (Handler.standard none) rfl rfl

/-- Handlers in agreement are arranged alike. -/
theorem agree_arranged (kind : Kind) (handlers others : List Handler)
    (agree : List.Forall₂ Agrees handlers others) :
    List.Forall₂ Agrees (arranged kind handlers) (arranged kind others) := by
  have sameKind (handler other : Handler) (agrees : handler.Agrees other) :
      handler.isOfKind kind = other.isOfKind kind := by
    rw [isOfKind, isOfKind, agrees.kind]
  have sameGoal (handler other : Handler) (agrees : handler.Agrees other) :
      handler.isGeneral = other.isGeneral := by
    rw [isGeneral, isGeneral, goal?, goal?, agrees.goal]
  apply List.rel_append
  · refine List.rel_filter ?_ agree
    intro handler other agrees
    dsimp only
    rw [sameKind handler other agrees, sameGoal handler other agrees]
  · refine List.rel_filter ?_ agree
    intro handler other agrees
    dsimp only
    rw [sameKind handler other agrees, sameGoal handler other agrees]

/-- Offering an event to handlers in agreement ends alike. -/
theorem outcome_offer (surroundings : Surroundings) (event : Event)
    (handlers others : List Handler) (agree : List.Forall₂ Agrees handlers others) :
    (offer surroundings event handlers).attempt.outcome =
      (offer surroundings event others).attempt.outcome := by
  induction agree with
  | nil => rfl
  | @cons handler other _ _ agrees _ inductionHypothesis =>
    have processed := agrees.process surroundings event
    rw [offer, offer, agrees.accepts event]
    split
    · rfl
    · exact inductionHypothesis
    · dsimp only
      rw [processed]
      cases ended : (other.process surroundings event).outcome with
      | error fault => exact processed
      | ok reaction =>
        cases settles : reaction.settles with
        | true => simpa [settles] using processed
        | false => simpa [settles] using inductionHypothesis

/-- Whatever logger the standard handlers were given, an event is treated in the way that can be
read off it. -/
theorem outcome_standard (logger : Option String) (surroundings : Surroundings) (event : Event) :
    ((standard logger).dispatch surroundings event).attempt.outcome =
      (event.treatment surroundings).attempt.outcome := by
  rw [← dispatch_standard (standard none) surroundings event (shelves_standard none)]
  cases ofKind : event.kind? with
  | none => rw [dispatch, dispatch, ofKind]
  | some kind =>
    rw [dispatch, dispatch, ofKind]
    dsimp only
    rw [shelves_standard logger kind, shelves_standard none kind]
    exact outcome_offer surroundings event _ _
      (agree_arranged kind _ _ (agree_numbered 0 _ _ (agree_standard logger none)))

end Dispatcher

/-- The finished node of a reported event is the one that building it ends with. -/
theorem Treatment.node?_reported_iff (building : Attempt Fault Node) (node : Node) :
    (reported building).node? = some node ↔ building.outcome = .ok node := by
  refine ⟨outcome_of_finished building node, fun built => ?_⟩
  rw [node?, built]
  rfl

namespace Desk

variable (desk : Desk) (report : Report) (time : String) (files : FileSystem) (event : Event)

/-- What becomes of a report depends on how an attempt ends only. -/
theorem conclude_congr (attempt other : Attempt Fault Reaction)
    (same : attempt.outcome = other.outcome) :
    (conclude report attempt).state = (conclude report other).state ∧
      (conclude report attempt).outcome = (conclude report other).outcome := by
  rw [conclude, conclude, same]
  cases other.outcome <;> exact ⟨rfl, rfl⟩

/-- Dispatching an event gives its finished node to the report, if there is one, and ends as its
treatment does. -/
theorem dispatch_given (logger : Option String)
    (standing : desk.dispatcher = Dispatcher.standard logger) :
    (desk.dispatch report time files event).state.2 =
        report.takes (event.treatment (desk.surroundings time files)).node? ∧
      (desk.dispatch report time files event).outcome =
        (event.treatment (desk.surroundings time files)).outcomeOn report := by
  have same := Dispatcher.outcome_standard logger (desk.surroundings time files) event
  rw [← standing] at same
  obtain ⟨state, outcome⟩ := conclude_congr report _ _ same
  obtain ⟨taken, ended⟩ :=
    Treatment.conclude_attempt report (event.treatment (desk.surroundings time files))
  rw [dispatch]
  dsimp only
  rw [state, outcome]
  exact ⟨taken, ended⟩

/-- Dispatching an event adds this node to the report, and no other. -/
def Reports (node : Node) : Prop :=
  (desk.dispatch report time files event).state.2.nodes = report.nodes ++ [node]

/-- Exactly the finished node of an event is added, and only to a report that is open. -/
theorem reports_iff (logger : Option String) (node : Node)
    (standing : desk.dispatcher = Dispatcher.standard logger) :
    desk.Reports report time files event node ↔
      report.isClosed = false ∧
        (event.treatment (desk.surroundings time files)).node? = some node := by
  rw [Reports, (desk.dispatch_given report time files event logger standing).1]
  cases (event.treatment (desk.surroundings time files)).node? with
  | none => simp [Report.takes]
  | some finished => cases closed : report.isClosed <;> simp [Report.takes, Report.taken, closed]

end Desk

end BuildChronicle
