import BuildChronicle.Proofs.Atomicity
import Mathlib.Data.List.Induction

/-!
# The ambient project

A result of resolving dependencies does not say which project it is about, so its node names
the project that was last delivered. This is all that a reported node ever owes to earlier
calls: other nodes depend on the event, the time, the file system and the artifact types alone.

The project last delivered is read off the calls since the session was last started. It counts
whatever it was delivered with, and whatever came of that.
-/

namespace BuildChronicle

namespace Call

/-- Is this the start of a session? -/
def isStart : Call → Bool
  | start _ _ => true
  | receive .. | close _ | print _ | closeReport _ => false

/-- The project that is delivered with a call. -/
def project? : Call → Option Project
  | receive _ _ event => event.project?
  | start .. | close _ | print _ | closeReport _ => none

end Call

/-- The project that was last delivered since the session was last started. -/
def lastProject (calls : List Call) : Option Project :=
  (calls.reverse.takeWhile fun call => !call.isStart).findSome? Call.project?

/-- A start forgets the project, a delivery with a project replaces it, and every other call
leaves it alone. -/
theorem lastProject_append (calls : List Call) (call : Call) :
    lastProject (calls ++ [call]) =
      if call.isStart then none else call.project?.or (lastProject calls) := by
  rw [lastProject, List.reverse_append, List.reverse_singleton, List.singleton_append]
  cases isStart : call.isStart with
  | true => simp [isStart]
  | false =>
    cases given : call.project? <;> simp [lastProject, isStart, given]

section Knowledge

variable (surroundings : Surroundings) (other : Option Project)

/-- The details of an execution event do not depend on the project last seen. -/
theorem reportedDetails_known (logger : String) (event : ExecutionEvent) :
    event.reportedDetails logger { surroundings with project := other } event =
      event.reportedDetails logger surroundings event := by
  rw [ExecutionEvent.reportedDetails]
  split
  · rfl
  · split <;> rfl

/-- Only results of resolving dependencies are treated with regard to the project last seen. -/
theorem treatment_known (event : Event)
    (otherwise : event.eventClass? ≠ some .resolutionResult) :
    event.treatment { surroundings with project := other } = event.treatment surroundings := by
  cases event with
  | execution event =>
    rw [Event.treatment, ExecutionEvent.treatment, ExecutionEvent.building, Handler.executionNode,
      reportedDetails_known]
    rfl
  | resolutionResult resolved errors => exact (otherwise rfl).elim
  | request | result | resolutionRequest | lookalike | text | nothing => rfl

end Knowledge

namespace Monitor

/-- Does the desk remember this project, while the report is open? -/
def Follows (seen : Option Project) (monitor : Monitor) : Prop :=
  ∀ report desk, monitor.session.stage = .wired report desk → report.isClosed = false →
    desk.project = seen

section Invariant

variable {settings : Settings} {types : TypeRegistry} {monitor : Monitor}

/-- Starting makes the desk forget the project. -/
theorem follows_start (time : String) (context : Table Value)
    (regular : monitor.Regular settings types) :
    (monitor.start time context).1.Follows none := by
  intro report desk stage _
  have started := monitor.session_start time context
  cases possible : monitor.canStart with
  | false =>
    rw [possible, if_neg Bool.false_ne_true] at started
    rw [started] at stage
    have wasPossible := canStart_wired regular report desk stage
    rw [possible] at wasPossible
    cases wasPossible
  | true =>
    rw [possible, if_pos rfl] at started
    rw [started] at stage
    cases stage
    exact (Session.newDesk_standard _).2

/-- Receiving makes the desk remember the project that was delivered, if any. -/
theorem follows_receive (time : String) (files : FileSystem) (event : Event)
    (seen : Option Project) (regular : monitor.Regular settings types)
    (follows : monitor.Follows seen) :
    (monitor.receive time files event).1.Follows (event.project?.or seen) := by
  intro report desk reached isOpen
  cases stage : monitor.session.stage with
  | fresh given =>
    have same := monitor.session.receive_fresh time files event given stage
    simp [receive, after, same, stage] at reached
  | wired before kept =>
    obtain ⟨enabled, standard, _⟩ := regular.wired before kept stage
    obtain ⟨_, next, received, _, project⟩ := monitor.session.receive_wired time files event
      before kept types (by rw [regular.sameSettings, enabled]) stage standard
    simp only [receive, after, received, Stage.wired.injEq] at reached
    obtain ⟨taken, rfl⟩ := reached
    rw [← taken, Report.isClosed_takes] at isOpen
    rw [project, follows before kept stage isOpen]

/-- Closing leaves no open report. -/
theorem follows_close (time : String) (seen : Option Project)
    (follows : monitor.Follows seen) : (monitor.close time).1.Follows seen := by
  intro report desk reached isOpen
  cases disabled : monitor.session.settings.disabled with
  | true =>
    simp only [close, after, Session.close, disabled, if_true] at reached
    exact follows report desk reached isOpen
  | false =>
    simp only [close, after, (monitor.session.close_enabled time disabled).1] at reached
    cases stage : monitor.session.stage with
    | fresh given => simp [stage] at reached
    | wired before kept =>
      simp only [stage, Stage.wired.injEq] at reached
      rw [← reached.1, Report.isClosed_ended] at isOpen
      cases isOpen

/-- What leaves the session as it is leaves the project alone. -/
theorem follows_unmoved (next : Monitor) (seen : Option Project)
    (same : next.session = monitor.session) (follows : monitor.Follows seen) :
    next.Follows seen := by
  intro report desk stage
  rw [same] at stage
  exact follows report desk stage

/-- What only puts the report in another state leaves the project alone, as long as it does not
open the report again. -/
theorem follows_withReport (next : Monitor) (report later : Report) (seen : Option Project)
    (given : monitor.session.report? = some report)
    (changed : next.session = monitor.session.withReport later)
    (stillClosed : later.isClosed = false → report.isClosed = false)
    (follows : monitor.Follows seen) : next.Follows seen := by
  intro reported desk reached isOpen
  cases stage : monitor.session.stage with
  | fresh before => simp [changed, Session.withReport, stage] at reached
  | wired before kept =>
    simp only [changed, Session.withReport, stage, Stage.wired.injEq] at reached
    rw [Session.report?, stage, Option.some.injEq] at given
    rw [← reached.1] at isOpen
    rw [← reached.2]
    exact follows before kept stage (given ▸ stillClosed isOpen)

/-- Every call but a start or a delivery leaves the project alone. -/
theorem follows_perform (call : Call) (seen : Option Project)
    (regular : monitor.Regular settings types) (follows : monitor.Follows seen) :
    (monitor.perform call).state.Follows
      (if call.isStart then none else call.project?.or seen) := by
  cases call with
  | start time context => exact follows_start time context regular
  | receive time files event => exact follows_receive time files event seen regular follows
  | close time => exact follows_close time seen follows
  | print node =>
    cases given : monitor.session.report? with
    | none => exact follows_unmoved _ seen (monitor.session.state_print_none node given) follows
    | some report =>
      exact follows_withReport _ report _ seen given
        (monitor.session.state_print node report given) (by simp) follows
  | closeReport time =>
    cases given : monitor.session.report? with
    | none =>
      exact follows_unmoved _ seen (monitor.session.state_closeReport_none time given) follows
    | some report =>
      exact follows_withReport _ report _ seen given
        (monitor.session.state_closeReport time report given) (by simp) follows

/-- After any calls, the desk remembers the project that was last delivered. -/
theorem follows_run (settings : Settings) (types : Option TypeRegistry)
    (report : Option Report) (book : LogBook) (calls : List Call) :
    ((new settings types report book).run calls).Follows (lastProject calls) := by
  induction calls using List.reverseRecOn with
  | nil => exact fun report desk stage => nomatch stage
  | append_singleton calls call inductionHypothesis =>
    rw [lastProject_append, run, List.foldl_append]
    exact follows_perform call (lastProject calls)
      (regular_run calls (regular_new settings types report book)) inductionHypothesis

/-- A node is only appended to an open report, and it is the one that the building of its event
ends with. -/
theorem finished_of_appended (time : String) (files : FileSystem) (event : Event) (node : Node)
    (seen : Option Project) (regular : monitor.Regular settings types)
    (follows : monitor.Follows seen)
    (appended : monitor.Receives time files event (.appended node)) :
    (event.treatment ⟨time, files, some types, event.project?.or seen⟩).node? = some node := by
  obtain ⟨desk, there, finished⟩ := finished_of_due time files event node regular
    (due_of_receives time files event regular (.appended node) appended)
  cases stage : monitor.session.stage with
  | fresh report =>
    rw [Session.desk?, stage] at there
    cases there
  | wired report wired =>
    rw [Session.desk?, stage, Option.some.injEq] at there
    subst there
    have prints : monitor.deed (.receive time files event) = .prints node := by
      simp [deed, treatment?, Session.desk?, stage, regular.sameTypes, finished]
    obtain ⟨ground, answer, found, outcome⟩ := outcome_prints _ node regular prints
    have same : report = ground := by
      rw [ground?, report?, Session.report?, stage] at found
      exact Option.some.inj found
    have isOpen : report.isClosed = false := by
      cases closed : report.isClosed with
      | false => rfl
      | true =>
        rw [← same, closed, if_pos rfl, appended.1] at outcome
        cases outcome
    rw [← follows report wired stage isOpen]
    exact finished

end Invariant

/-- The node of resolved dependencies begins with the element of the project last seen, and has
no other element of a project. -/
theorem project_of_resolution (surroundings : Surroundings) (resolved : List Dependency)
    (errors : List Thrown) (node : Node)
    (finished : ((Event.resolutionResult resolved errors).treatment surroundings).node? =
      some node) :
    (node.child? "project").isSome = surroundings.project.isSome ∧
      ∀ project, surroundings.project = some project →
        ∃ element, node.children.head? = some element ∧ node.child? "project" = some element ∧
          (Element.project surroundings.files
            (Handler.loggerName none "DependencyResolutionResultHandler") "project"
            (some project)).outcome = .ok element := by
  have built := Treatment.outcome_of_finished _ node finished
  obtain ⟨project, projectBuilt, built⟩ := (Attempt.bind_eq_ok _ _ _).mp built
  obtain ⟨dependencies, _, built⟩ := (Attempt.bind_eq_ok _ _ _).mp built
  cases built
  rw [Attempt.forOption_eq_ok] at projectBuilt
  cases known : surroundings.project with
  | none =>
    rw [known] at projectBuilt
    cases projectBuilt
    refine ⟨?_, fun project given => nomatch given⟩
    simp [Node.child?, Handler.exchangeHeader, Handler.exceptionElements, Element.name_exception]
  | some given =>
    rw [known] at projectBuilt
    cases projectBuilt with
    | @some _ element elementBuilt =>
      have elementName := Element.name_project _ _ _ _ element elementBuilt
      have first : ((Handler.exchangeHeader .resolutionResult surroundings.time).addAll
          ((some element).toList ++ [(Node.leaf "resolvedDependencies").addAll dependencies] ++
            Handler.exceptionElements errors)).child? "project" = some element := by
        simp [Node.child?, Handler.exchangeHeader, elementName]
      refine ⟨by rw [first]; rfl, ?_⟩
      intro project same
      cases same
      exact ⟨element, by simp [Handler.exchangeHeader], first, elementBuilt⟩

/-- Two runs with histories of their own, in which the same event is received at the same time,
with the same file system and the same artifact types, append the same node, unless the event
is a result of resolving dependencies. The node of such a result has the element of a project
exactly if a project was delivered since the latest start; it is the first child then, and the
element of the project that was delivered last. Apart from that project, such nodes do not
depend on the calls before either.

Proof: the desk remembers that project, and the treatment of an event with what the desk
knows decides the node. -/
theorem appended_alike (settings others : Settings) (types otherTypes : Option TypeRegistry)
    (report otherReport : Option Report) (book otherBook : LogBook)
    (calls otherCalls : List Call) (time : String) (files : FileSystem) (event : Event)
    (node otherNode : Node)
    (sameTypes : types.getD TypeRegistry.stock = otherTypes.getD TypeRegistry.stock)
    (appended : ((new settings types report book).run calls).Receives time files event
      (.appended node))
    (otherAppended : ((new others otherTypes otherReport otherBook).run otherCalls).Receives
      time files event (.appended otherNode)) :
    (event.eventClass? ≠ some .resolutionResult → node = otherNode) ∧
      (event.eventClass? = some .resolutionResult →
        (node.child? "project").isSome = (lastProject calls).isSome ∧
          (∀ project, lastProject calls = some project →
            ∃ element, node.children.head? = some element ∧
              node.child? "project" = some element ∧
              (Element.project files (Handler.loggerName none "DependencyResolutionResultHandler")
                "project" (some project)).outcome = .ok element) ∧
          (lastProject calls = lastProject otherCalls → node = otherNode)) := by
  have finished := finished_of_appended time files event node (lastProject calls)
    (regular_run calls (regular_new settings types report book))
    (follows_run settings types report book calls) appended
  have otherFinished := finished_of_appended time files event otherNode (lastProject otherCalls)
    (regular_run otherCalls (regular_new others otherTypes otherReport otherBook))
    (follows_run others otherTypes otherReport otherBook otherCalls) otherAppended
  rw [← sameTypes] at otherFinished
  constructor
  · intro otherwise
    have known := treatment_known
      ⟨time, files, some (types.getD TypeRegistry.stock), event.project?.or (lastProject calls)⟩
      (event.project?.or (lastProject otherCalls)) event otherwise
    rw [known, finished] at otherFinished
    exact Option.some.inj otherFinished
  · intro isResolution
    cases event with
    | resolutionResult resolved errors =>
      obtain ⟨present, element⟩ := project_of_resolution _ resolved errors node finished
      refine ⟨present, element, ?_⟩
      intro sameProject
      rw [← sameProject, finished] at otherFinished
      exact Option.some.inj otherFinished
    | execution | request | result | resolutionRequest | lookalike | text | nothing =>
      cases isResolution

/-- A project that was delivered with a mere lookalike is named like one that was delivered with
an event whose handling failed, because its artifact lacks the group. -/
theorem appended_alike_resolution :
    let project : Project :=
      { groupId := some "g", artifactId := some "a", version := some "1",
        artifact := some
          { groupId := none, artifactId := some "a", version := some "1", baseVersion := "1" } }
    let lookalike : Call := .receive "1" {} (.lookalike none (some project))
    let failing : Call := .receive "1" {}
      (.execution { kind := .projectSucceeded, isExecution := rfl, project := some project })
    let started := (new {} none none {}).run [.start "0" .empty]
    (started.perform failing).outcome = .error (.missingPart 0) ∧
      ∃ node,
        ((new {} none none {}).run [.start "0" .empty, lookalike]).Receives "2" {}
            (.resolutionResult [] []) (.appended node) ∧
          ((new {} none none {}).run [.start "0" .empty, failing]).Receives "2" {}
            (.resolutionResult [] []) (.appended node) ∧
          (node.child? "project").isSome = true := by
  intro project lookalike failing started
  have appended : ∃ node,
      ((new {} none none {}).run [.start "0" .empty, lookalike]).Receives "2" {}
        (.resolutionResult [] []) (.appended node) := ⟨_, rfl, _, rfl, rfl⟩
  have otherAppended : ∃ node,
      ((new {} none none {}).run [.start "0" .empty, failing]).Receives "2" {}
        (.resolutionResult [] []) (.appended node) := ⟨_, rfl, _, rfl, rfl⟩
  obtain ⟨node, appended⟩ := appended
  obtain ⟨otherNode, otherAppended⟩ := otherAppended
  obtain ⟨_, resolution⟩ := appended_alike {} {} none none none none {} {}
    [.start "0" .empty, lookalike] [.start "0" .empty, failing] "2" {} (.resolutionResult [] [])
    node otherNode rfl appended otherAppended
  obtain ⟨present, _, same⟩ := resolution rfl
  rw [← same rfl] at otherAppended
  exact ⟨rfl, node, appended, otherAppended, present⟩

end Monitor

end BuildChronicle
