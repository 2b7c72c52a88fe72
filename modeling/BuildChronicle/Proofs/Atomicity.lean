import BuildChronicle.Proofs.Completeness
import BuildChronicle.Proofs.Deeds

/-!
# All or nothing

Whatever is delivered, and whenever, exactly one of four things happens: the report gets one
complete node as its last child, or it stays what it was while the event is dealt with
silently, left alone, or given up with a fault. There is nothing in between: no half-built
node, no second one, and no trace of a failure.

Which of the four it is depends on the event alone once the session is started: the real
events of the reported kinds are reported or fail, two kinds are dealt with silently, and
everything else is left alone, whatever it looks like.
-/

namespace BuildChronicle

/-- What came of receiving something. -/
inductive Effect where
  /-- It was reported as this node. -/
  | appended (node : Node)
  /-- It was dealt with silently. -/
  | silent
  /-- It was left alone. -/
  | declined
  /-- It was given up. -/
  | failed (fault : Fault)

/-- Did this come of receiving something, given the root before and after and how it ended? -/
def Effect.Occurs (before after : Option Node) (outcome : Except Fault Value) : Effect → Prop
  | appended node =>
    outcome = .ok (.bool true) ∧ ∃ root, before = some root ∧ after = some (root.add node)
  | silent => outcome = .ok (.bool true) ∧ after = before
  | declined => outcome = .ok (.bool false) ∧ after = before
  | failed fault => outcome = .error fault ∧ after = before

/-- No two of these effects go together: the outcome tells them apart, or the root does. -/
theorem Effect.occurs_unique (before after : Option Node) (outcome : Except Fault Value)
    (effect other : Effect) (occurs : effect.Occurs before after outcome)
    (otherOccurs : other.Occurs before after outcome) : effect = other := by
  have grown (root node : Node) : root.add node ≠ root := by
    intro same
    have children := congrArg (fun root => root.children.length) same
    simp at children
  have last (root node other : Node) (same : root.add node = root.add other) : node = other := by
    have children := congrArg Node.children same
    simpa using children
  cases effect <;> cases other <;> simp only [Occurs] at occurs otherOccurs
  case appended.appended node other =>
    obtain ⟨_, root, rfl, rfl⟩ := occurs
    obtain ⟨_, _, same, ended⟩ := otherOccurs
    cases same
    rw [last root node other (Option.some.inj ended)]
  case appended.silent node =>
    obtain ⟨_, root, rfl, rfl⟩ := occurs
    exact (grown root node (Option.some.inj otherOccurs.2)).elim
  case silent.appended node =>
    obtain ⟨_, root, rfl, rfl⟩ := otherOccurs
    exact (grown root node (Option.some.inj occurs.2)).elim
  case silent.silent | declined.declined => rfl
  case failed.failed fault other =>
    rw [occurs.1] at otherOccurs
    cases otherOccurs.1
    rfl
  all_goals
    rw [occurs.1] at otherOccurs
    cases otherOccurs.1

namespace Event

/-- Is this a real event of a kind that is reported? -/
def IsReported (event : Event) : Prop :=
  event.eventClass?.isSome = true ∧ ∃ kind ∈ Kind.reportedKinds, event.kind? = some kind

/-- Is this a real event that is dealt with silently? -/
def IsSilent (event : Event) : Prop :=
  (event.eventClass? = some .execution ∧ event.kind? = some .sessionEnded) ∨
    event.eventClass? = some .resolutionRequest

/-- The execution kinds that are reported are the boundary kinds. -/
theorem reported_iff_boundary (event : ExecutionEvent) :
    (Event.execution event).IsReported ↔ event.kind ∈ Kind.boundaryKinds := by
  have listed (kind : Kind) (isExecution : kind.isExecution = true) :
      kind ∈ Kind.reportedKinds ↔ kind ∈ Kind.boundaryKinds := by
    revert isExecution
    cases kind <;> decide
  simp [IsReported, eventClass?, kind?, listed event.kind event.isExecution]

/-- An event is treated as its class and kind tell. -/
theorem treatment_cases (event : Event) (surroundings : Surroundings) :
    (event.IsReported ∧ ∃ building, event.treatment surroundings = .reported building) ∨
      (event.IsSilent ∧ ¬ event.IsReported ∧ event.treatment surroundings = .consumed) ∨
      (¬ event.IsReported ∧ event.treatment surroundings = .declined) := by
  cases event with
  | execution event =>
    rw [reported_iff_boundary, treatment, ExecutionEvent.treatment]
    by_cases boundary : event.kind ∈ Kind.boundaryKinds
    · exact .inl ⟨boundary, _, by rw [if_pos boundary]⟩
    · by_cases ended : event.kind = .sessionEnded
      · refine .inr (.inl ⟨.inl ⟨rfl, ?_⟩, boundary, ?_⟩)
        · rw [kind?, ended]
        · rw [if_neg boundary, if_pos ended]
      · exact .inr (.inr ⟨boundary, by rw [if_neg boundary, if_neg ended]⟩)
  | request request =>
    exact .inl ⟨⟨rfl, .executionRequest, by decide, rfl⟩, _, rfl⟩
  | result project exceptions =>
    exact .inl ⟨⟨rfl, .executionResult, by decide, rfl⟩, _, rfl⟩
  | resolutionRequest project =>
    refine .inr (.inl ⟨.inr rfl, ?_, rfl⟩)
    rintro ⟨_, kind, listed, same⟩
    cases same
    revert listed
    decide
  | resolutionResult resolved errors =>
    exact .inl ⟨⟨rfl, .dependencyResolutionResult, by decide, rfl⟩, _, rfl⟩
  | lookalike | text | nothing =>
    refine .inr (.inr ⟨?_, rfl⟩)
    rintro ⟨real, _⟩
    cases real

end Event

/-- Does this effect fit how an event is treated? -/
def Effect.Fits (event : Event) (treatment : Treatment) : Effect → Prop
  | appended node => event.IsReported ∧ treatment.node? = some node
  | silent => event.IsSilent ∧ ¬ event.IsReported
  | declined => ¬ event.IsReported
  | failed _ => event.IsReported

/-- Carrying out the treatment of an event has an effect that fits it. The cases are whether
the node can be built, and then whether the report is open. -/
theorem Effect.exists_fitting (event : Event) (surroundings : Surroundings) (report : Report) :
    let treatment := event.treatment surroundings
    ∃ effect : Effect,
      effect.Occurs (some report.root) (some (report.takes treatment.node?).root)
          ((treatment.outcomeOn report).map .bool) ∧
        effect.Fits event treatment := by
  intro treatment
  rcases event.treatment_cases surroundings with
    ⟨isReported, building, treated⟩ | ⟨isSilent, notReported, treated⟩ | ⟨notReported, treated⟩
  · rw [show treatment = .reported building from treated]
    cases built : building.outcome with
    | error fault =>
      refine ⟨.failed fault, ⟨?_, ?_⟩, isReported⟩
      · simp [Treatment.outcomeOn, built, Except.map]
      · simp [Treatment.node?, built, Except.toOption, Report.takes]
    | ok node =>
      have finished : (Treatment.reported building).node? = some node := by
        simp [Treatment.node?, built, Except.toOption]
      rw [Treatment.outcomeOn_finished report _ node finished, finished, Report.takes]
      cases closed : report.isClosed with
      | true =>
        refine ⟨.failed .reportClosed, ⟨rfl, ?_⟩, isReported⟩
        rw [report.taken_closed node closed]
      | false =>
        refine ⟨.appended node, ⟨rfl, report.root, rfl, ?_⟩, isReported, finished⟩
        rw [report.root_taken node closed]
  · rw [show treatment = .consumed from treated]
    exact ⟨.silent, ⟨rfl, rfl⟩, isSilent, notReported⟩
  · rw [show treatment = .declined from treated]
    exact ⟨.declined, ⟨rfl, rfl⟩, notReported⟩

/-- Is this effect due when the event is received? A disabled session leaves everything alone,
one that was not started gives everything up, and otherwise the effect fits the treatment. -/
def Effect.Due (monitor : Monitor) (time : String) (files : FileSystem) (event : Event)
    (effect : Effect) : Prop :=
  if monitor.session.settings.disabled then effect = declined
  else match monitor.treatment? time files event with
    | none => effect = failed .notStarted
    | some treatment => effect.Fits event treatment

namespace Monitor

section Receiving

variable {settings : Settings} {types : TypeRegistry} {monitor : Monitor}
  (time : String) (files : FileSystem) (event : Event)

/-- An effect of receiving something. -/
def Receives (monitor : Monitor) (time : String) (files : FileSystem) (event : Event)
    (effect : Effect) : Prop :=
  effect.Occurs monitor.root? (monitor.perform (.receive time files event)).state.root?
    (monitor.perform (.receive time files event)).outcome

/-- Something that is due happens whenever anything is received. -/
theorem receives_due (regular : monitor.Regular settings types) :
    ∃ effect, monitor.Receives time files event effect ∧
      effect.Due monitor time files event := by
  cases disabled : monitor.session.settings.disabled with
  | true =>
    refine ⟨.declined, ⟨?_, ?_⟩, by simp [Effect.Due, disabled]⟩
    · simp [perform, receive, Session.receive, disabled, Except.map]
    · simp [perform, receive, after, root?, report?, Session.receive, disabled]
  | false =>
    cases stage : monitor.session.stage with
    | fresh report =>
      refine ⟨.failed .notStarted, ⟨?_, ?_⟩, ?_⟩
      · simp [perform, receive, Session.receive, disabled, stage, Except.map]
      · simp [perform, receive, after, root?, report?, Session.receive, disabled, stage]
      · simp [Effect.Due, disabled, treatment?, Session.desk?, stage]
    | wired report desk =>
      obtain ⟨_, standard, _⟩ := regular.wired report desk stage
      obtain ⟨outcome, next, state, _⟩ := monitor.session.receive_wired time files event report
        desk types disabled stage standard
      obtain ⟨effect, occurs, fits⟩ :=
        Effect.exists_fitting event (desk.knowledge types time files event) report
      refine ⟨effect, ?_, ?_⟩
      · rw [Receives]
        simp only [perform, receive, after, root?, report?, state, outcome, Session.report?,
          stage, Option.map]
        exact occurs
      · simpa [Effect.Due, disabled, treatment?, Session.desk?, stage, regular.sameTypes]
          using fits

/-- An effect that occurs is due. -/
theorem due_of_receives (regular : monitor.Regular settings types) (effect : Effect)
    (occurs : monitor.Receives time files event effect) :
    effect.Due monitor time files event := by
  obtain ⟨other, otherOccurs, due⟩ := receives_due time files event regular
  rw [Effect.occurs_unique _ _ _ effect other occurs otherOccurs]
  exact due

/-- In an enabled session that was started, what is due fits the treatment of the event. -/
theorem fits_of_due (effect : Effect) (enabled : monitor.session.settings.disabled = false)
    (started : monitor.session.desk?.isSome = true)
    (due : effect.Due monitor time files event) :
    ∃ treatment, effect.Fits event treatment := by
  obtain ⟨desk, there⟩ := Option.isSome_iff_exists.mp started
  rw [Effect.Due, enabled, treatment?, there] at due
  exact ⟨_, due⟩

/-- Only events that are dealt with silently are due to be. -/
theorem silent_of_due (due : Effect.silent.Due monitor time files event) : event.IsSilent := by
  rw [Effect.Due] at due
  split at due
  · cases due
  · split at due
    · cases due
    · exact due.1

/-- A node that is due to be appended is what the building of its event ends with. -/
theorem finished_of_due (node : Node) (regular : monitor.Regular settings types)
    (due : (Effect.appended node).Due monitor time files event) :
    ∃ desk, monitor.session.desk? = some desk ∧
      (event.treatment (desk.knowledge types time files event)).node? = some node := by
  rw [Effect.Due] at due
  split at due
  · cases due
  · split at due
    · cases due
    · rename_i treatment treated
      rw [treatment?, regular.sameTypes] at treated
      obtain ⟨desk, there, rfl⟩ := Option.map_eq_some_iff.mp treated
      exact ⟨desk, there, due.2⟩

end Receiving

/-- Whatever is received after any calls has exactly one effect. A node that is appended is
complete and is what the building of its event ends with. Only the end of a session and
requests to resolve dependencies are dealt with silently. Once an enabled session was started,
exactly the real events of the reported kinds are appended or fail.

Proof: an effect that is due always occurs, and effects exclude each other, so that
everything that occurs is due. -/
theorem receive_atomic (settings : Settings) (types : Option TypeRegistry)
    (report : Option Report) (book : LogBook) (calls : List Call) (time : String)
    (files : FileSystem) (event : Event) :
    let monitor := (new settings types report book).run calls
    (∃! effect, monitor.Receives time files event effect) ∧
      (∀ node, monitor.Receives time files event (.appended node) →
        ∃ desk, monitor.session.desk? = some desk ∧
          (event.treatment (desk.knowledge (types.getD TypeRegistry.stock) time files
            event)).node? = some node ∧
          event.Complete time (event.project?.or desk.project) node) ∧
      (monitor.Receives time files event .silent → event.IsSilent) ∧
      (settings.disabled = false → monitor.session.desk?.isSome = true →
        (((∃ node, monitor.Receives time files event (.appended node)) ∨
            ∃ fault, monitor.Receives time files event (.failed fault)) ↔
          event.IsReported)) := by
  intro monitor
  have regular : monitor.Regular settings (types.getD TypeRegistry.stock) :=
    regular_run calls (regular_new settings types report book)
  obtain ⟨effect, occurs, due⟩ := receives_due time files event regular
  have isDue := due_of_receives time files event regular
  refine ⟨⟨effect, occurs, ?_⟩, ?_, ?_, ?_⟩
  · intro other otherOccurs
    exact Effect.occurs_unique _ _ _ other effect otherOccurs occurs
  · intro node appended
    obtain ⟨desk, there, finished⟩ :=
      finished_of_due time files event node regular (isDue (.appended node) appended)
    exact ⟨desk, there, finished, complete_finished _ event node finished⟩
  · intro silent
    exact silent_of_due time files event (isDue .silent silent)
  · intro enabled started
    rw [← regular.sameSettings] at enabled
    have fits := fun effect due => fits_of_due time files event effect enabled started due
    constructor
    · rintro (⟨node, appended⟩ | ⟨fault, failed⟩)
      · obtain ⟨treatment, isReported, _⟩ := fits _ (isDue (.appended node) appended)
        exact isReported
      · obtain ⟨treatment, isReported⟩ := fits _ (isDue (.failed fault) failed)
        exact isReported
    · intro isReported
      obtain ⟨treatment, fitting⟩ := fits effect due
      cases effect with
      | appended node => exact .inl ⟨node, occurs⟩
      | failed fault => exact .inr ⟨fault, occurs⟩
      | silent => exact (fitting.2 isReported).elim
      | declined => exact (fitting isReported).elim

/-- In a session that was just started, the start of a project is appended to the report, and
the end of the session is dealt with silently. -/
theorem receive_atomic_started :
    let monitor := (new {} none none {}).run [.start "0" .empty]
    let begun := Event.execution { kind := .projectStarted, isExecution := rfl }
    let ended := Event.execution { kind := .sessionEnded, isExecution := rfl }
    begun.IsReported ∧ ended.IsSilent ∧
      ∃ node desk, monitor.Receives "1" {} begun (.appended node) ∧
        monitor.session.desk? = some desk ∧ begun.Complete "1" desk.project node := by
  intro monitor begun ended
  have appended : monitor.Receives "1" {} begun (.appended
      ((Handler.executionHeader "1" { kind := .projectStarted, isExecution := rfl }).add
        (.leaf "project"))) :=
    ⟨rfl, _, rfl, rfl⟩
  obtain ⟨_, complete, _, exactly⟩ :=
    receive_atomic {} none none {} [.start "0" .empty] "1" {} begun
  obtain ⟨_, _, silent, _⟩ := receive_atomic {} none none {} [.start "0" .empty] "2" {} ended
  obtain ⟨desk, there, _, whole⟩ := complete _ appended
  exact ⟨(exactly rfl rfl).mp (.inl ⟨_, appended⟩), silent ⟨rfl, rfl⟩, _, desk, appended, there,
    whole⟩

end Monitor

end BuildChronicle
