import BuildChronicle.Proofs.Deeds
import Mathlib.Data.List.Induction

/-!
# Open reports grow, closed reports are frozen

The calls that were made determine the report. Its nodes are the ones that were printed
successfully, in order, and it was closed by the first call that closes it, at the time of that
call. Until then it only ever grows at its end; from then on nothing changes it, and printing
to it is a fault.

Starting a session again prints to its report, and so it fails once the report is closed. The
log is set up before, though, and if that fails the report is not looked at. This can only
happen to a session that was never started: a log that was set up once can be set up again.
-/

namespace BuildChronicle

namespace Report

/-- The children of the root are the nodes of the report. -/
@[simp] theorem children_root (report : Report) : report.root.children = report.nodes := by
  simp [root]

/-- The root tells when the report was closed. -/
theorem endTime_root (report : Report) :
    report.root.attributes.get? "_endTime" = report.closedAt := by
  cases closed : report.closedAt <;> simp [root, closed, Node.set?]
  rfl

/-- The attributes of the root do not depend on the nodes. -/
theorem attributes_taken (report : Report) (node : Node) :
    (report.taken node).root.attributes = report.root.attributes := by
  cases closed : report.isClosed with
  | true => rw [report.taken_closed node closed]
  | false => rw [report.root_taken node closed, Node.attributes_add]

/-- An open report takes the node. -/
theorem nodes_taken (report : Report) (node : Node) :
    (report.taken node).nodes =
      report.nodes ++ if report.isClosed then [] else [node] := by
  cases closed : report.isClosed <;> simp [taken, closed]

/-- Printing leaves the time of closing alone. -/
@[simp] theorem closedAt_taken (report : Report) (node : Node) :
    (report.taken node).closedAt = report.closedAt := by
  rw [taken]
  split <;> rfl

/-- Closing takes no node. -/
@[simp] theorem nodes_ended (report : Report) (time : String) :
    (report.ended time).nodes = report.nodes := by
  rw [ended, close]
  split <;> rfl

/-- Only the first time of closing counts. -/
theorem closedAt_ended (report : Report) (time : String) :
    (report.ended time).closedAt = report.closedAt.or (some time) := by
  cases closed : report.closedAt <;> simp [ended, close, isClosed, closed]

end Report

/-- Nothing that a call does changes a closed report. -/
theorem Deed.on_closed (report : Report) (deed : Deed) (closed : report.isClosed = true) :
    deed.on report = report := by
  cases deed with
  | nothing => rfl
  | prints node => exact report.taken_closed node closed
  | closes time => exact report.ended_closed time closed

/-- Whatever a call does, the nodes stay where they are. -/
theorem Deed.nodes_on (report : Report) (deed : Deed) :
    report.nodes <+: (deed.on report).nodes := by
  cases deed with
  | nothing => exact List.prefix_refl _
  | prints node =>
    rw [on, report.nodes_taken node]
    exact List.prefix_append _ _
  | closes time =>
    have kept : (report.ended time).nodes = report.nodes := report.nodes_ended time
    exact ⟨[], by rw [on, kept, List.append_nil]⟩

namespace Monitor

/-- The time at which a call closes the report, perhaps not for the first time. -/
def closing? (monitor : Monitor) (call : Call) : Option String :=
  match monitor.deed call with
  | .closes time => some time
  | .nothing | .prints _ => none

/-- The node that a call prints successfully. -/
def printing? (monitor : Monitor) (call : Call) : Option Node :=
  match monitor.deed call, (monitor.perform call).outcome with
  | .prints node, .ok _ => some node
  | _, _ => none

/-- The time of the first call that closes the report. -/
def firstClose? (monitor : Monitor) : List Call → Option String
  | [] => none
  | call :: rest => (monitor.closing? call).or (firstClose? (monitor.perform call).state rest)

/-- The nodes that calls print successfully, in order. -/
def printed (monitor : Monitor) : List Call → List Node
  | [] => []
  | call :: rest => (monitor.printing? call).toList ++ printed (monitor.perform call).state rest

/-- One more call closes the report only if none closed it before. -/
theorem firstClose?_append (monitor : Monitor) (calls : List Call) (call : Call) :
    monitor.firstClose? (calls ++ [call]) =
      (monitor.firstClose? calls).or ((monitor.run calls).closing? call) := by
  induction calls generalizing monitor with
  | nil => simp [firstClose?, run]
  | cons first rest inductionHypothesis =>
    rw [List.cons_append, firstClose?, firstClose?, inductionHypothesis, Option.or_assoc]
    rfl

/-- One more call adds the node that it prints successfully, if any. -/
theorem printed_append (monitor : Monitor) (calls : List Call) (call : Call) :
    monitor.printed (calls ++ [call]) =
      monitor.printed calls ++ ((monitor.run calls).printing? call).toList := by
  induction calls generalizing monitor with
  | nil => simp [printed, run]
  | cons first rest inductionHypothesis =>
    rw [List.cons_append, printed, printed, inductionHypothesis, List.append_assoc]
    rfl

section Account

variable {settings : Settings} {types : TypeRegistry} {monitor : Monitor}

/-- A report is closed by closing it, or by closing its session if that is enabled. -/
theorem closes_cases (call : Call) (time : String) (closes : monitor.deed call = .closes time) :
    (∃ report, monitor.report? = some report) ∧
      (call = .close time ∧ monitor.session.settings.disabled = false ∨
        call = .closeReport time) := by
  rw [← Option.isSome_iff_exists]
  cases call with
  | start | receive | print =>
    rw [deed] at closes
    split at closes <;> cases closes
  | close =>
    rw [deed] at closes
    split at closes
    · rename_i possible
      rw [Bool.and_eq_true, Bool.not_eq_true'] at possible
      cases closes
      exact ⟨possible.2, .inl ⟨rfl, possible.1⟩⟩
    · cases closes
  | closeReport =>
    rw [deed] at closes
    split at closes
    · rename_i there
      cases closes
      exact ⟨there, .inr rfl⟩
    · cases closes

/-- A report that is opened by a call is not closed and has no nodes. -/
theorem account_ground (monitor : Monitor) (call : Call) :
    (monitor.ground? call).bind Report.closedAt = monitor.report?.bind Report.closedAt ∧
      ((monitor.ground? call).map Report.nodes).getD [] =
        (monitor.report?.map Report.nodes).getD [] := by
  cases given : monitor.report? with
  | some report =>
    rw [ground?_some call report given]
    exact ⟨rfl, rfl⟩
  | none =>
    rcases ground?_none call given with missing | ⟨time, opened⟩
    · rw [missing]
      exact ⟨rfl, rfl⟩
    · rw [opened]
      exact ⟨rfl, rfl⟩

/-- What a call adds to the account of the report: the time at which it closes the report, and
the node that it prints successfully. -/
theorem account_perform (call : Call) (regular : monitor.Regular settings types) :
    (monitor.perform call).state.report?.bind Report.closedAt =
        (monitor.report?.bind Report.closedAt).or (monitor.closing? call) ∧
      ((monitor.perform call).state.report?.map Report.nodes).getD [] =
        (monitor.report?.map Report.nodes).getD [] ++ (monitor.printing? call).toList := by
  obtain ⟨sameClose, sameNodes⟩ := account_ground monitor call
  rw [← sameClose, ← sameNodes, report?_perform call regular, closing?, printing?]
  cases acted : monitor.deed call with
  | nothing => cases monitor.ground? call <;> simp [Deed.on]
  | prints node =>
    obtain ⟨report, answer, found, outcome⟩ := outcome_prints call node regular acted
    rw [found, outcome]
    cases closed : report.isClosed <;> simp [Deed.on, Report.nodes_taken, closed]
  | closes time =>
    obtain ⟨⟨report, given⟩, _⟩ := closes_cases call time acted
    rw [ground?_some call report given]
    simp [Deed.on, Report.closedAt_ended]

/-- After any calls, the report was closed by the first one that closes it, and has the nodes
that were printed successfully. -/
theorem account_run (calls : List Call) (regular : monitor.Regular settings types)
    (fresh : ∀ report, monitor.report? = some report →
      report.closedAt = none ∧ report.nodes = []) :
    (monitor.run calls).report?.bind Report.closedAt = monitor.firstClose? calls ∧
      ((monitor.run calls).report?.map Report.nodes).getD [] = monitor.printed calls := by
  induction calls using List.reverseRecOn with
  | nil =>
    cases given : monitor.report? with
    | none => simp [run, firstClose?, printed, given]
    | some report => simp [run, firstClose?, printed, given, fresh report given]
  | append_singleton calls call inductionHypothesis =>
    obtain ⟨closed, nodes⟩ := account_perform call (regular_run calls regular)
    have step : monitor.run (calls ++ [call]) = ((monitor.run calls).perform call).state := by
      rw [run, List.foldl_append]
      rfl
    rw [step, closed, nodes, inductionHypothesis.1, inductionHypothesis.2, firstClose?_append,
      printed_append]
    exact ⟨rfl, rfl⟩

/-- A closed report is not changed by any call. -/
theorem report?_closed (call : Call) (report : Report) (regular : monitor.Regular settings types)
    (given : monitor.report? = some report) (closed : report.isClosed = true) :
    (monitor.perform call).state.report? = some report := by
  rw [report?_perform call regular, ground?_some call report given, Option.map_some,
    Deed.on_closed report _ closed]

/-- A closed report is not changed by any calls. -/
theorem report?_run_closed (calls : List Call) (report : Report)
    (regular : monitor.Regular settings types) (given : monitor.report? = some report)
    (closed : report.isClosed = true) : (monitor.run calls).report? = some report := by
  induction calls generalizing monitor with
  | nil => exact given
  | cons call rest inductionHypothesis =>
    exact inductionHypothesis (regular_perform call regular)
      (report?_closed call report regular given closed)

/-- A node is printed to a report that is not closed. -/
theorem outcome_prints_open (call : Call) (node : Node) (regular : monitor.Regular settings types)
    (unclosed : monitor.report?.bind Report.closedAt = none)
    (prints : monitor.deed call = .prints node) :
    ∃ answer, (monitor.perform call).outcome = .ok answer := by
  obtain ⟨ground, answer, found, outcome⟩ := outcome_prints call node regular prints
  rw [← (account_ground monitor call).1, found, Option.bind_some] at unclosed
  have isOpen : ground.isClosed = false := by rw [Report.isClosed, unclosed]; rfl
  rw [isOpen, if_neg Bool.false_ne_true] at outcome
  exact ⟨answer, outcome⟩

/-- Nothing is printed to a closed report. -/
theorem outcome_prints_closed (call : Call) (node : Node) (report : Report)
    (regular : monitor.Regular settings types) (given : monitor.report? = some report)
    (closed : report.isClosed = true) (prints : monitor.deed call = .prints node) :
    (monitor.perform call).outcome = .error .reportClosed := by
  obtain ⟨ground, answer, found, outcome⟩ := outcome_prints call node regular prints
  rw [ground?_some call report given, Option.some.injEq] at found
  rw [outcome, ← found, closed, if_pos rfl]

/-- A session that cannot be started although it is enabled was never started, and starting it
fails with what the log file lacks. -/
theorem outcome_start_impossible (time : String) (context : Table Value)
    (regular : monitor.Regular settings types) (enabled : settings.disabled = false)
    (impossible : monitor.canStart = false) :
    monitor.session.desk? = none ∧
      ∃ error, (monitor.perform (.start time context)).outcome = .error (.logFile error) := by
  constructor
  · cases stage : monitor.session.stage with
    | fresh report => rw [Session.desk?, stage]
    | wired report desk =>
      rw [canStart_wired regular report desk stage] at impossible
      cases impossible
  · rw [canStart, regular.sameSettings, enabled] at impossible
    rw [perform, start, regular.sameSettings]
    cases done : monitor.book.setUp settings with
    | mk book outcome =>
      rw [done] at impossible
      cases outcome with
      | ok done => cases impossible
      | error error => exact ⟨error, rfl⟩

/-- The call that closes an open report records how many nodes it has. -/
theorem records_closes (call : Call) (time : String) (report : Report)
    (closes : monitor.deed call = .closes time) (given : monitor.report? = some report)
    (isOpen : report.isClosed = false) :
    (monitor.perform call).records = [report.closedRecord] := by
  rcases closes_cases call time closes with ⟨_, ⟨rfl, enabled⟩ | rfl⟩
  · rw [report?, Session.report?] at given
    cases stage : monitor.session.stage with
    | fresh there =>
      rw [stage] at given
      cases given
      simp [perform, Session.close, enabled, stage, Report.close, isOpen]
    | wired there desk =>
      rw [stage] at given
      cases given
      simp [perform, Session.close, enabled, stage, Report.close, isOpen]
  · rw [report?] at given
    simp [perform, moved, Session.closeReport, given, Report.close, isOpen]

end Account

/-- What calls have made of the report of a session, and what further calls can make of it. -/
structure Chronicle (first : Monitor) (calls : List Call) : Prop where
  /-- The root tells when the report was closed first, and nothing if it was not closed. -/
  endTime : (first.run calls).root?.bind (fun root => root.attributes.get? "_endTime") =
    first.firstClose? calls
  /-- The report is closed once a call has closed it. -/
  closed : ∀ report, (first.run calls).report? = some report →
    report.isClosed = (first.firstClose? calls).isSome
  /-- The children of the root are the nodes that were printed successfully, in order. -/
  children : ∀ root, (first.run calls).root? = some root → root.children = first.printed calls
  /-- Any call leaves the children where they are, and the attributes unless it closes the
  report. -/
  grows : ∀ call root, (first.run calls).root? = some root →
    ∃ next, ((first.run calls).perform call).state.root? = some next ∧
      root.children <+: next.children ∧
      ((first.run calls).closing? call = none → next.attributes = root.attributes)
  /-- Until the report is closed, every call that prints a node succeeds. -/
  accepted : first.firstClose? calls = none →
    ∀ call node, (first.run calls).deed call = .prints node →
      ∃ answer, ((first.run calls).perform call).outcome = .ok answer
  /-- No call changes the root once the report is closed. -/
  frozen : (first.firstClose? calls).isSome = true → ∀ call,
    ((first.run calls).perform call).state.root? = (first.run calls).root?
  /-- No call prints to a closed report: not from outside, nor when something is received. -/
  refused : (first.firstClose? calls).isSome = true →
    (∀ node, ((first.run calls).perform (.print node)).outcome = .error .reportClosed) ∧
      ∀ call node, (first.run calls).deed call = .prints node →
        ((first.run calls).perform call).outcome = .error .reportClosed
  /-- An enabled session whose report is closed cannot be started again. Only if it was never
  started, its log may fail it before the report does. -/
  restart : (first.firstClose? calls).isSome = true →
    (first.run calls).session.settings.disabled = false → ∀ time context,
      ((first.run calls).perform (.start time context)).outcome = .error .reportClosed ∨
        (first.run calls).session.desk? = none ∧
          ∃ error, ((first.run calls).perform (.start time context)).outcome =
            .error (.logFile error)
  /-- The call that closes the report first records the number of children that the root has
  from then on. -/
  recorded : first.firstClose? calls = none →
    ∀ call time, (first.run calls).closing? call = some time →
      ((first.run calls).perform call).records =
          [Record.of .info Report.logger
            ("Report closed with " ++ toString (first.printed calls).length ++ " entries")] ∧
        ∀ later root, (((first.run calls).perform call).state.run later).root? = some root →
          root.children.length = (first.printed calls).length

section Chronicle

variable {settings : Settings} {types : TypeRegistry} {first : Monitor} {calls : List Call}

/-- Where the first close is known, the report is there and closed. -/
theorem closed_of_firstClose
    (closedAt : (first.run calls).report?.bind Report.closedAt = first.firstClose? calls)
    (closed : (first.firstClose? calls).isSome = true) :
    ∃ report, (first.run calls).report? = some report ∧ report.isClosed = true := by
  rw [← closedAt] at closed
  cases given : (first.run calls).report? with
  | none =>
    rw [given] at closed
    cases closed
  | some report =>
    rw [given] at closed
    exact ⟨report, rfl, closed⟩

/-- Growing, for the root of a report. -/
theorem root_perform (call : Call) (regular : (first.run calls).Regular settings types)
    (root : Node) (given : (first.run calls).root? = some root) :
    ∃ next, ((first.run calls).perform call).state.root? = some next ∧
      root.children <+: next.children ∧
      ((first.run calls).closing? call = none → next.attributes = root.attributes) := by
  obtain ⟨report, there, rfl⟩ := Option.map_eq_some_iff.mp given
  have changed := report?_perform call regular
  rw [ground?_some call report there, Option.map_some] at changed
  refine ⟨(((first.run calls).deed call).on report).root, by rw [root?, changed]; rfl, ?_, ?_⟩
  · rw [Report.children_root, Report.children_root]
    exact Deed.nodes_on report _
  · intro stays
    rw [closing?] at stays
    cases acted : (first.run calls).deed call with
    | nothing => rfl
    | prints node => exact report.attributes_taken node
    | closes time =>
      rw [acted] at stays
      cases stays

/-- An enabled session whose report is closed cannot be started again, be it for the report or
for the log. -/
theorem restart_closed (time : String) (context : Table Value) (report : Report)
    (regular : (first.run calls).Regular settings types)
    (given : (first.run calls).report? = some report) (closed : report.isClosed = true)
    (enabled : settings.disabled = false) :
    ((first.run calls).perform (.start time context)).outcome = .error .reportClosed ∨
      (first.run calls).session.desk? = none ∧
        ∃ error, ((first.run calls).perform (.start time context)).outcome =
          .error (.logFile error) := by
  cases possible : (first.run calls).canStart with
  | true =>
    left
    apply outcome_prints_closed _ (Session.firstNode time context) report regular given closed
    rw [deed, possible, if_pos rfl]
  | false => exact .inr (outcome_start_impossible time context regular enabled possible)

/-- The number of nodes that the first close records is the number of children from then on. -/
theorem recorded_open (call : Call) (time : String)
    (regular : (first.run calls).Regular settings types)
    (unclosed : (first.run calls).report?.bind Report.closedAt = none)
    (nodes : ((first.run calls).report?.map Report.nodes).getD [] = first.printed calls)
    (closing : (first.run calls).closing? call = some time) :
    ((first.run calls).perform call).records =
        [Record.of .info Report.logger
          ("Report closed with " ++ toString (first.printed calls).length ++ " entries")] ∧
      ∀ later root, (((first.run calls).perform call).state.run later).root? = some root →
        root.children.length = (first.printed calls).length := by
  have closes : (first.run calls).deed call = .closes time := by
    rw [closing?] at closing
    split at closing <;> cases closing
    assumption
  obtain ⟨⟨report, given⟩, _⟩ := closes_cases call time closes
  rw [given, Option.bind_some] at unclosed
  rw [given] at nodes
  have isOpen : report.isClosed = false := by rw [Report.isClosed, unclosed]; rfl
  constructor
  · rw [records_closes call time report closes given isOpen, ← nodes]
    rfl
  · intro later root reached
    have ended : ((first.run calls).perform call).state.report? = some (report.ended time) := by
      rw [report?_perform call regular, ground?_some call report given, closes]
      rfl
    rw [root?, report?_run_closed later _ (regular_perform call regular) ended
      (report.isClosed_ended time)] at reached
    cases reached
    rw [Report.children_root, Report.nodes_ended, ← nodes]
    rfl

/-- The account of a report makes its chronicle. -/
theorem chronicle_of_account (regular : (first.run calls).Regular settings types)
    (closedAt : (first.run calls).report?.bind Report.closedAt = first.firstClose? calls)
    (nodes : ((first.run calls).report?.map Report.nodes).getD [] = first.printed calls) :
    Chronicle first calls := by
  have closed_report := closed_of_firstClose closedAt
  constructor
  case endTime =>
    rw [← closedAt, root?]
    cases (first.run calls).report? with
    | none => rfl
    | some report => exact report.endTime_root
  case closed =>
    intro report given
    rw [← closedAt, given]
    rfl
  case children =>
    intro root given
    obtain ⟨report, there, rfl⟩ := Option.map_eq_some_iff.mp given
    rw [Report.children_root, ← nodes, there]
    rfl
  case grows =>
    intro call root given
    exact root_perform call regular root given
  case accepted =>
    intro unclosed call node prints
    exact outcome_prints_open call node regular (closedAt.trans unclosed) prints
  case frozen =>
    intro closed call
    obtain ⟨report, given, isClosed⟩ := closed_report closed
    rw [root?, root?, report?_closed call report regular given isClosed, given]
  case refused =>
    intro closed
    obtain ⟨report, given, isClosed⟩ := closed_report closed
    constructor
    · intro node
      apply outcome_prints_closed (.print node) node report regular given isClosed
      rw [deed, given]
      rfl
    · intro call node prints
      exact outcome_prints_closed call node report regular given isClosed prints
  case restart =>
    intro closed enabled time context
    obtain ⟨report, given, isClosed⟩ := closed_report closed
    rw [regular.sameSettings] at enabled
    exact restart_closed time context report regular given isClosed enabled
  case recorded =>
    intro unclosed call time closing
    exact recorded_open call time regular (closedAt.trans unclosed) nodes closing

end Chronicle

/-- Whatever calls are made of a session that starts without a report or with a new one, the
report is their chronicle.

Proof: the account of the report is kept call by call; from it the report is known to be open
or closed, and each further call does one thing to a report in that state. -/
theorem report_chronicle (settings : Settings) (types : Option TypeRegistry)
    (opened : Option String) (book : LogBook) (calls : List Call) :
    Chronicle (new settings types (opened.map Report.openAt) book) calls := by
  have regular := regular_new settings types (opened.map Report.openAt) book
  have fresh : ∀ report,
      (new settings types (opened.map Report.openAt) book).report? = some report →
        report.closedAt = none ∧ report.nodes = [] := by
    intro report given
    cases opened with
    | none => cases given
    | some time =>
      cases given
      exact ⟨rfl, rfl⟩
  obtain ⟨closedAt, nodes⟩ := account_run calls regular fresh
  exact chronicle_of_account (regular_run calls regular) closedAt nodes

/-- A session with a report of its own is started, closed and started again. Where its log file
is a folder, the report is closed by then, and yet starting again does not fail for that. -/
theorem restart_without_log :
    let first := new { logFile := some "." } none (some (Report.openAt "0")) {}
    let calls : List Call := [.start "1" .empty, .close "2"]
    first.firstClose? calls = some "2" ∧
      (first.run calls).session.settings.disabled = false ∧
      (∃ error, ((first.run calls).perform (.start "3" .empty)).outcome =
        .error (.logFile error)) ∧
      ((first.run calls).perform (.start "3" .empty)).outcome ≠ .error .reportClosed := by
  intro first calls
  have failed : ∃ error, ((first.run calls).perform (.start "3" .empty)).outcome =
      .error (.logFile error) := ⟨_, rfl⟩
  refine ⟨rfl, rfl, failed, ?_⟩
  obtain ⟨error, outcome⟩ := failed
  rw [outcome]
  intro same
  cases same

/-- Where the log can be set up, starting again does fail because the report is closed, with the
first node and the time of the first close in it. -/
theorem restart_with_log :
    let first := new {} none none {}
    let calls : List Call := [.start "1" .empty, .close "2", .close "3"]
    ((first.run calls).perform (.start "4" .empty)).outcome = .error .reportClosed ∧
      (first.run calls).root?.bind (fun root => root.attributes.get? "_endTime") = some "2" ∧
      ∀ root, (first.run calls).root? = some root →
        root.children = [Session.firstNode "1" .empty] := by
  intro first calls
  obtain ⟨endTime, _, children, _, _, _, _, restart, _⟩ :=
    report_chronicle {} none none {} [.start "1" .empty, .close "2", .close "3"]
  refine ⟨?_, endTime, children⟩
  rcases restart rfl rfl "4" .empty with refused | ⟨missing, _⟩
  · exact refused
  · cases missing

end Monitor

end BuildChronicle
