import BuildChronicle.Proofs.Course

/-!
# What calls do with a report

To the report a call does one of three things: nothing, printing a node, or closing it. Only
the start of a session may open a report first. `report?_perform` says so of every call, and
`outcome_prints` says when printing succeeds; facts about reports are derived from these two.
-/

namespace BuildChronicle

/-- What a call does with the report. -/
inductive Deed where
  /-- It leaves the report alone. -/
  | nothing
  /-- It prints a node to the report. -/
  | prints (node : Node)
  /-- It closes the report. -/
  | closes (time : String)

/-- The report once a call has done this with it. -/
def Deed.on (report : Report) : Deed → Report
  | nothing => report
  | prints node => report.taken node
  | closes time => report.ended time

namespace Session

/-- Printing past the session fails where there is no report and where it is closed. -/
theorem outcome_print (session : Session) (node : Node) :
    (session.print node).outcome =
      match session.report? with
      | none => .error .notStarted
      | some report => if report.isClosed then .error .reportClosed else .ok () := by
  rw [print]
  cases session.report? with
  | none => rfl
  | some report =>
    have added := report.outcome_add node
    cases closed : report.isClosed <;> simp [added, closed]

end Session

namespace Monitor

/-- How an event is treated at the desk, if there is one. -/
def treatment? (monitor : Monitor) (time : String) (files : FileSystem) (event : Event) :
    Option Treatment :=
  monitor.session.desk?.map fun desk =>
    event.treatment
      (desk.knowledge (monitor.session.types.getD TypeRegistry.stock) time files event)

/-- What a call does with the report. -/
def deed (monitor : Monitor) : Call → Deed
  | .start time context =>
    if monitor.canStart then .prints (Session.firstNode time context) else .nothing
  | .receive time files event =>
    match (monitor.treatment? time files event).bind Treatment.node? with
    | some node => .prints node
    | none => .nothing
  | .close time =>
    if !monitor.session.settings.disabled && monitor.report?.isSome then .closes time
    else .nothing
  | .print node => if monitor.report?.isSome then .prints node else .nothing
  | .closeReport time => if monitor.report?.isSome then .closes time else .nothing

/-- The report that a call finds. A start opens one if there is none. -/
def ground? (monitor : Monitor) : Call → Option Report
  | .start time _ =>
    if monitor.canStart then some (monitor.report?.getD (Report.openAt time))
    else monitor.report?
  | .receive .. | .close _ | .print _ | .closeReport _ => monitor.report?

section Report

variable {settings : Settings} {types : TypeRegistry} {monitor : Monitor}

/-- Starting, seen from the report. -/
theorem report?_start (time : String) (context : Table Value) :
    (monitor.start time context).1.report? =
      (monitor.ground? (.start time context)).map (monitor.deed (.start time context)).on := by
  rw [ground?, deed, report?, session_start]
  cases monitor.canStart with
  | false => simp [Deed.on, report?]
  | true => simp [Deed.on, Session.report?]

/-- Receiving, seen from the report. -/
theorem report?_receive (time : String) (files : FileSystem) (event : Event)
    (regular : monitor.Regular settings types) :
    (monitor.receive time files event).1.report? =
      (monitor.ground? (.receive time files event)).map
        (monitor.deed (.receive time files event)).on := by
  rw [ground?, deed, treatment?, Session.desk?]
  cases stage : monitor.session.stage with
  | fresh report =>
    have same := monitor.session.receive_fresh time files event report stage
    simp [receive, after, report?, same, Deed.on]
  | wired report desk =>
    obtain ⟨enabled, standard, _⟩ := regular.wired report desk stage
    rw [← regular.sameSettings] at enabled
    obtain ⟨_, next, received, _⟩ := monitor.session.receive_wired time files event report desk
      types enabled stage standard
    rw [regular.sameTypes]
    cases finished : (event.treatment (desk.knowledge types time files event)).node? <;>
      simp [receive, after, report?, received, Session.report?, stage, finished, Deed.on,
        Report.takes]

/-- What a call does with the report it finds is all that happens to the report. -/
theorem report?_perform (call : Call) (regular : monitor.Regular settings types) :
    (monitor.perform call).state.report? =
      (monitor.ground? call).map (monitor.deed call).on := by
  cases call with
  | start time context => exact report?_start time context
  | receive time files event => exact report?_receive time files event regular
  | close time =>
    cases disabled : monitor.session.settings.disabled with
    | true =>
      simp [perform, close, after, report?, Session.close, ground?, deed, disabled, Deed.on]
    | false =>
      have closed := (monitor.session.close_enabled time disabled).1
      rcases stage : monitor.session.stage with (_ | report) | ⟨report, desk⟩ <;>
        simp [perform, close, after, report?, closed, ground?, deed, disabled, Session.report?,
          stage, Deed.on]
  | print node =>
    cases given : monitor.session.report? with
    | none =>
      have printed := monitor.session.state_print_none node given
      simp [perform, moved, after, report?, printed, ground?, deed, given]
    | some report =>
      have printed := monitor.session.state_print node report given
      simp [perform, moved, after, report?, printed, ground?, deed, given, Deed.on]
  | closeReport time =>
    cases given : monitor.session.report? with
    | none =>
      have closed := monitor.session.state_closeReport_none time given
      simp [perform, moved, after, report?, closed, ground?, deed, given]
    | some report =>
      have closed := monitor.session.state_closeReport time report given
      simp [perform, moved, after, report?, closed, ground?, deed, given, Deed.on]

/-- A call that finds a report finds the one that is there. -/
theorem ground?_some (call : Call) (report : Report) (given : monitor.report? = some report) :
    monitor.ground? call = some report := by
  cases call <;> simp [ground?, given]

/-- Where there is no report, a call finds none or opens one. -/
theorem ground?_none (call : Call) (given : monitor.report? = none) :
    monitor.ground? call = none ∨ ∃ time, monitor.ground? call = some (Report.openAt time) := by
  cases call with
  | start time context =>
    cases possible : monitor.canStart with
    | true => exact .inr ⟨time, by simp [ground?, possible, given]⟩
    | false => exact .inl (by simp [ground?, possible, given])
  | receive | close | print | closeReport => exact .inl given

/-- A start that gets past setting the log up prints the first node. -/
theorem outcome_start (time : String) (context : Table Value)
    (possible : monitor.canStart = true) :
    (monitor.start time context).2 =
      if (monitor.report?.getD (Report.openAt time)).isClosed then .error .reportClosed
      else .ok () := by
  rw [canStart, Bool.and_eq_true, Bool.not_eq_true'] at possible
  obtain ⟨enabled, setUp⟩ := possible
  rw [start]
  cases done : monitor.book.setUp monitor.session.settings with
  | mk book outcome =>
    cases outcome with
    | error error => simp [done, Except.toBool] at setUp
    | ok done => exact (monitor.session.start_enabled time context _ _ enabled rfl rfl).2

/-- Receiving what is reported prints its finished node. -/
theorem outcome_receive (time : String) (files : FileSystem) (event : Event) (node : Node)
    (regular : monitor.Regular settings types)
    (prints : monitor.deed (.receive time files event) = .prints node) :
    ∃ report, monitor.ground? (.receive time files event) = some report ∧
      (monitor.receive time files event).2 =
        if report.isClosed then .error .reportClosed else .ok true := by
  rw [deed, treatment?, Session.desk?] at prints
  cases stage : monitor.session.stage with
  | fresh report => simp [stage] at prints
  | wired report desk =>
    obtain ⟨enabled, standard, _⟩ := regular.wired report desk stage
    rw [← regular.sameSettings] at enabled
    obtain ⟨outcome, _⟩ := monitor.session.receive_wired time files event report desk types
      enabled stage standard
    rw [stage, regular.sameTypes] at prints
    cases finished : (event.treatment (desk.knowledge types time files event)).node? with
    | none => simp [finished] at prints
    | some node =>
      rw [Treatment.outcomeOn_finished report _ node finished] at outcome
      exact ⟨report, by simp [ground?, report?, Session.report?, stage], outcome⟩

/-- A call that prints a node succeeds exactly if the report it finds is open. -/
theorem outcome_prints (call : Call) (node : Node) (regular : monitor.Regular settings types)
    (prints : monitor.deed call = .prints node) :
    ∃ report answer, monitor.ground? call = some report ∧
      (monitor.perform call).outcome =
        if report.isClosed then .error .reportClosed else .ok answer := by
  cases call with
  | start time context =>
    cases possible : monitor.canStart with
    | false => simp [deed, possible] at prints
    | true =>
      refine ⟨monitor.report?.getD (Report.openAt time), .null, by simp [ground?, possible], ?_⟩
      rw [perform]
      dsimp only
      rw [outcome_start time context possible]
      split <;> rfl
  | receive time files event =>
    obtain ⟨report, found, outcome⟩ := outcome_receive time files event node regular prints
    refine ⟨report, .bool true, found, ?_⟩
    rw [perform]
    dsimp only
    rw [outcome]
    split <;> rfl
  | close time =>
    rw [deed] at prints
    split at prints <;> cases prints
  | print node =>
    have outcome := monitor.session.outcome_print node
    cases given : monitor.session.report? with
    | none => simp [deed, report?, given] at prints
    | some report =>
      rw [given] at outcome
      refine ⟨report, .null, by simp [ground?, report?, given], ?_⟩
      rw [perform, moved, outcome]
      dsimp only
      split <;> rfl
  | closeReport time =>
    rw [deed] at prints
    split at prints <;> cases prints

end Report

end Monitor

end BuildChronicle
