import BuildChronicle.Monitor
import BuildChronicle.Proofs.LogFile
import BuildChronicle.Proofs.StandardDesk

/-!
# The course of a session

Calls reach a session in any order, and whoever has its report may print to it and close it
past the session. A run makes calls one after the other, whether or not they succeed. What
is true of every run rests on an invariant: a session that was started has a standard desk,
and its log can be set up whenever it is started again.
-/

namespace BuildChronicle

/-- A call of a session, or of its report past the session. -/
inductive Call where
  /-- Start the session with what is known about the build. -/
  | start (time : String) (context : Table Value)
  /-- Deliver something to the session. -/
  | receive (time : String) (files : FileSystem) (event : Event)
  /-- Close the session. -/
  | close (time : String)
  /-- Print a node to the report. -/
  | print (node : Node)
  /-- Close the report. -/
  | closeReport (time : String)

namespace Session

/-- The session with its report in another state. -/
def withReport (session : Session) (report : Report) : Session :=
  match session.stage with
  | .fresh _ => { session with stage := .fresh (some report) }
  | .wired _ desk => { session with stage := .wired report desk }

/-- Print a node to the report of the session, past the session. -/
def print (session : Session) (node : Node) : Move Session Fault Unit :=
  match session.report? with
  | none => ⟨session, [], .error .notStarted⟩
  | some report =>
    let added := report.add node
    match added.outcome with
    | .error fault => ⟨session, added.records, .error fault⟩
    | .ok report => ⟨session.withReport report, added.records, .ok ()⟩

/-- Close the report of the session, past the session. -/
def closeReport (session : Session) (time : String) : Move Session Fault Unit :=
  match session.report? with
  | none => ⟨session, [], .error .notStarted⟩
  | some report =>
    let (report, records) := report.close time
    ⟨session.withReport report, records, .ok ()⟩

/-- The report of the session is the one it was put in the place of. -/
@[simp] theorem report?_withReport (session : Session) (report : Report) :
    (session.withReport report).report? = some report := by
  rw [withReport]
  cases session.stage <;> rfl

/-- Putting the report in the place of itself changes nothing. -/
theorem withReport_self (session : Session) (report : Report)
    (given : session.report? = some report) : session.withReport report = session := by
  obtain ⟨settings, types, stage⟩ := session
  rcases stage with (_ | before) | ⟨before, desk⟩ <;> cases given <;> rfl

/-- Printing past the session gives its report the node. -/
theorem state_print (session : Session) (node : Node) (report : Report)
    (given : session.report? = some report) :
    (session.print node).state = session.withReport (report.taken node) := by
  have added := report.outcome_add node
  cases closed : report.isClosed with
  | false => simp [print, given, added, closed]
  | true =>
    simp [print, given, added, closed, Report.taken_closed, withReport_self session report given]

/-- Without a report there is nothing to print to. -/
theorem state_print_none (session : Session) (node : Node) (missing : session.report? = none) :
    (session.print node).state = session := by
  simp [print, missing]

/-- Closing past the session closes its report. -/
theorem state_closeReport (session : Session) (time : String) (report : Report)
    (given : session.report? = some report) :
    (session.closeReport time).state = session.withReport (report.ended time) := by
  simp [closeReport, given, Report.ended]

/-- Without a report there is nothing to close. -/
theorem state_closeReport_none (session : Session) (time : String)
    (missing : session.report? = none) : (session.closeReport time).state = session := by
  simp [closeReport, missing]

end Session

namespace Monitor

/-- The monitor of a session that was not started, perhaps with artifact types and a report
of its own. -/
def new (settings : Settings) (types : Option TypeRegistry) (report : Option Report)
    (book : LogBook) : Monitor :=
  ⟨{ settings, types, stage := .fresh report }, book⟩

/-- A move of the session as one of its monitor, which hands the records to the book. -/
def moved {α : Type} (monitor : Monitor) (answer : α → Value) (move : Move Session Fault α) :
    Move Monitor Fault Value :=
  ⟨monitor.after move, move.records, move.outcome.map answer⟩

/-- Make a call. What answers nothing answers null. -/
def perform (monitor : Monitor) : Call → Move Monitor Fault Value
  | .start time context =>
    let (next, outcome) := monitor.start time context
    let records := match monitor.book.setUp monitor.session.settings with
      | (_, .error _) => []
      | (_, .ok ()) => (monitor.session.start time context).records
    ⟨next, records, outcome.map fun _ => .null⟩
  | .receive time files event =>
    let (next, outcome) := monitor.receive time files event
    ⟨next, (monitor.session.receive time files event).records, outcome.map .bool⟩
  | .close time =>
    let (next, outcome) := monitor.close time
    ⟨next, (monitor.session.close time).records, outcome.map fun _ => .null⟩
  | .print node => monitor.moved (fun _ => .null) (monitor.session.print node)
  | .closeReport time => monitor.moved (fun _ => .null) (monitor.session.closeReport time)

/-- Make calls one after the other, whatever comes of them. -/
def run (monitor : Monitor) (calls : List Call) : Monitor :=
  calls.foldl (fun reached call => (reached.perform call).state) monitor

/-- The report of the session, if there is one. -/
def report? (monitor : Monitor) : Option Report := monitor.session.report?

/-- The root of the report, if there is one. -/
def root? (monitor : Monitor) : Option Node := monitor.report?.map Report.root

/-- Can the session be started: is it enabled, and can its log be set up? -/
def canStart (monitor : Monitor) : Bool :=
  !monitor.session.settings.disabled &&
    (monitor.book.setUp monitor.session.settings).2.toBool

/-- What holds throughout a run with these settings and artifact types. -/
structure Regular (settings : Settings) (types : TypeRegistry) (monitor : Monitor) : Prop where
  /-- The settings are these. -/
  sameSettings : monitor.session.settings = settings
  /-- The artifact types are these. -/
  sameTypes : monitor.session.types.getD TypeRegistry.stock = types
  /-- Once it was started, the session is enabled, has a standard desk, and its log can be set
  up again. -/
  wired : ∀ report desk, monitor.session.stage = .wired report desk →
    settings.disabled = false ∧ desk.IsStandard types ∧ monitor.book.CanSetUp settings

/-- A session that can be started is enabled. -/
theorem enabled_of_canStart (monitor : Monitor) (possible : monitor.canStart = true) :
    monitor.session.settings.disabled = false := by
  rw [canStart, Bool.and_eq_true, Bool.not_eq_true'] at possible
  exact possible.1

/-- Starting a session that can be started gives it a new desk and prints the first node;
otherwise it stays what it is. -/
theorem session_start (monitor : Monitor) (time : String) (context : Table Value) :
    (monitor.start time context).1.session =
      if monitor.canStart then
        { monitor.session with
          types := some (monitor.session.types.getD TypeRegistry.stock)
          stage := .wired
            ((monitor.report?.getD (Report.openAt time)).taken (Session.firstNode time context))
            (Session.newDesk (monitor.session.types.getD TypeRegistry.stock)).1 }
      else monitor.session := by
  rw [start, canStart]
  cases monitor.book.setUp monitor.session.settings with
  | mk book outcome =>
    cases outcome with
    | error error => simp [Except.toBool]
    | ok done =>
      cases disabled : monitor.session.settings.disabled with
      | true => simp [Session.start, disabled, after]
      | false =>
        simpa [after, Except.toBool, report?] using
          (monitor.session.start_enabled time context _ _ disabled rfl rfl).1

/-- Once a session was started, its log can be set up again. -/
theorem canSetUp_start (monitor : Monitor) (time : String) (context : Table Value)
    (possible : monitor.canStart = true) :
    (monitor.start time context).1.book.CanSetUp monitor.session.settings := by
  have again := monitor.book.canSetUp_of_setUp monitor.session.settings
  rw [canStart, Bool.and_eq_true] at possible
  rw [start]
  cases done : monitor.book.setUp monitor.session.settings with
  | mk book outcome =>
    rw [done] at again possible
    cases outcome with
    | error error => cases possible.2
    | ok done =>
      exact book.canSetUp_receiveAll _ _ (again rfl)

section Invariant

variable {settings : Settings} {types : TypeRegistry} {monitor : Monitor}

/-- A move of the session keeps the invariant if it keeps settings and types and leaves, where
it ends with a session that was started, an enabled one with a standard desk. -/
theorem regular_after {ε α : Type} (move : Move Session ε α)
    (sameSettings : move.state.settings = settings)
    (sameTypes : move.state.types.getD TypeRegistry.stock = types)
    (wired : ∀ report desk, move.state.stage = .wired report desk →
      settings.disabled = false ∧ desk.IsStandard types ∧ monitor.book.CanSetUp settings) :
    (monitor.after move).Regular settings types := by
  refine ⟨sameSettings, sameTypes, ?_⟩
  intro report desk stage
  obtain ⟨enabled, standard, possible⟩ := wired report desk stage
  exact ⟨enabled, standard,
    monitor.book.canSetUp_receiveAll settings move.records possible⟩

/-- A move that leaves the session as it is keeps the invariant. -/
theorem regular_unmoved {ε α : Type} (move : Move Session ε α)
    (same : move.state = monitor.session) (regular : monitor.Regular settings types) :
    (monitor.after move).Regular settings types := by
  apply regular_after <;> rw [same]
  · exact regular.sameSettings
  · exact regular.sameTypes
  · exact regular.wired

/-- A move that only puts the report in another state keeps the invariant. -/
theorem regular_withReport {ε α : Type} (move : Move Session ε α) (report : Report)
    (changed : move.state = monitor.session.withReport report)
    (regular : monitor.Regular settings types) :
    (monitor.after move).Regular settings types := by
  have wired := regular.wired
  apply regular_after <;> rw [changed, Session.withReport]
  · cases monitor.session.stage <;> exact regular.sameSettings
  · cases monitor.session.stage <;> exact regular.sameTypes
  · intro other desk
    cases stage : monitor.session.stage with
    | fresh given => intro ended; cases ended
    | wired before kept =>
      intro ended
      cases ended
      exact wired before desk stage

/-- A new monitor satisfies the invariant. -/
theorem regular_new (settings : Settings) (types : Option TypeRegistry)
    (report : Option Report) (book : LogBook) :
    (new settings types report book).Regular settings (types.getD TypeRegistry.stock) :=
  ⟨rfl, rfl, fun _ _ stage => nomatch stage⟩

/-- A session that was started can be started again. -/
theorem canStart_wired (regular : monitor.Regular settings types) (report : Report)
    (desk : Desk) (stage : monitor.session.stage = .wired report desk) :
    monitor.canStart = true := by
  obtain ⟨enabled, _, possible⟩ := regular.wired report desk stage
  rw [canStart, regular.sameSettings, monitor.book.setUp_of_canSetUp settings possible, enabled]
  rfl

/-- Starting keeps the invariant. A session that cannot be started stays what it is, and then it
was not started before. -/
theorem regular_start (time : String) (context : Table Value)
    (regular : monitor.Regular settings types) :
    (monitor.start time context).1.Regular settings types := by
  have started := monitor.session_start time context
  cases possible : monitor.canStart with
  | false =>
    rw [possible, if_neg Bool.false_ne_true] at started
    refine ⟨by rw [started, regular.sameSettings], by rw [started, regular.sameTypes], ?_⟩
    intro report desk stage
    rw [started] at stage
    have wasPossible := canStart_wired regular report desk stage
    rw [possible] at wasPossible
    cases wasPossible
  | true =>
    rw [possible, if_pos rfl, regular.sameTypes] at started
    refine ⟨by rw [started, regular.sameSettings], by rw [started]; rfl, ?_⟩
    intro report desk stage
    rw [started] at stage
    cases stage
    have again := monitor.canSetUp_start time context possible
    have enabled := monitor.enabled_of_canStart possible
    rw [regular.sameSettings] at again enabled
    exact ⟨enabled, (Session.newDesk_standard types).1, again⟩

/-- Receiving keeps the invariant. -/
theorem regular_receive (time : String) (files : FileSystem) (event : Event)
    (regular : monitor.Regular settings types) :
    (monitor.receive time files event).1.Regular settings types := by
  cases stage : monitor.session.stage with
  | fresh report =>
    exact regular_unmoved _ (monitor.session.receive_fresh time files event report stage) regular
  | wired report desk =>
    obtain ⟨enabled, standard, possible⟩ := regular.wired report desk stage
    obtain ⟨_, next, received, kept, _⟩ := monitor.session.receive_wired time files event
      report desk types (by rw [regular.sameSettings, enabled]) stage standard
    apply regular_after <;> rw [received]
    · exact regular.sameSettings
    · exact regular.sameTypes
    · intro report desk stage
      cases stage
      exact ⟨enabled, kept, possible⟩

/-- Closing keeps the invariant. -/
theorem regular_close (time : String) (regular : monitor.Regular settings types) :
    (monitor.close time).1.Regular settings types := by
  cases disabled : settings.disabled with
  | true =>
    have same : (monitor.session.close time).state = monitor.session := by
      simp [Session.close, regular.sameSettings, disabled]
    exact regular_unmoved _ same regular
  | false =>
    have enabled : monitor.session.settings.disabled = false := by
      rw [regular.sameSettings, disabled]
    have wired := regular.wired
    apply regular_after <;> rw [(monitor.session.close_enabled time enabled).1]
    · exact regular.sameSettings
    · exact regular.sameTypes
    · intro report desk
      cases stage : monitor.session.stage with
      | fresh given => intro ended; cases ended
      | wired before kept =>
        intro ended
        cases ended
        obtain ⟨_, standard, possible⟩ := wired before kept stage
        exact ⟨disabled, ⟨standard.shelves, standard.types, standard.tells⟩, possible⟩

/-- Every call keeps the invariant. -/
theorem regular_perform (call : Call) (regular : monitor.Regular settings types) :
    (monitor.perform call).state.Regular settings types := by
  cases call with
  | start time context => exact regular_start time context regular
  | receive time files event => exact regular_receive time files event regular
  | close time => exact regular_close time regular
  | print node =>
    cases given : monitor.session.report? with
    | none => exact regular_unmoved _ (monitor.session.state_print_none node given) regular
    | some report =>
      exact regular_withReport _ _ (monitor.session.state_print node report given) regular
  | closeReport time =>
    cases given : monitor.session.report? with
    | none => exact regular_unmoved _ (monitor.session.state_closeReport_none time given) regular
    | some report =>
      exact regular_withReport _ _ (monitor.session.state_closeReport time report given) regular

/-- Every run keeps the invariant. -/
theorem regular_run (calls : List Call) (regular : monitor.Regular settings types) :
    (monitor.run calls).Regular settings types := by
  induction calls generalizing monitor with
  | nil => exact regular
  | cons call rest inductionHypothesis =>
    exact inductionHypothesis (regular_perform call regular)

end Invariant

end Monitor

end BuildChronicle
