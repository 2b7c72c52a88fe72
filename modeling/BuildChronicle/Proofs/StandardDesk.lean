import BuildChronicle.Session
import BuildChronicle.Proofs.Treatment

/-!
# The standard desk

A session sets up its desk with the standard handlers. At such a desk, what becomes of the
report when something is received can be read off the treatment of the event: the report
takes the finished node, if there is one, and nothing else ever happens to it. A closed report
takes no node; printing to it is a fault.

Both are said of reports first, then of desks, then of sessions. A report is only touched in
two ways, by taking a node and by being closed, and each has its own small laws.
-/

namespace BuildChronicle

namespace Report

/-- The report after a node was printed to it. A closed report takes none. -/
def taken (report : Report) (node : Node) : Report :=
  if report.isClosed then report else { report with nodes := report.nodes ++ [node] }

/-- The report after a node was printed to it, if there was one. -/
def takes (report : Report) : Option Node → Report
  | none => report
  | some node => report.taken node

/-- The report after it was closed, perhaps not for the first time. -/
def ended (report : Report) (time : String) : Report := (report.close time).1

/-- Printing succeeds exactly on an open report, which then has taken the node. -/
theorem outcome_add (report : Report) (node : Node) :
    (report.add node).outcome =
      if report.isClosed then .error .reportClosed else .ok (report.taken node) := by
  cases closed : report.isClosed <;> simp [add, taken, closed, Attempt.fail]

/-- An open report has the node as its last one. -/
theorem taken_open (report : Report) (node : Node) (isOpen : report.isClosed = false) :
    report.taken node = { report with nodes := report.nodes ++ [node] } := by
  simp [taken, isOpen]

/-- A closed report stays what it is. -/
theorem taken_closed (report : Report) (node : Node) (closed : report.isClosed = true) :
    report.taken node = report := by
  simp [taken, closed]

/-- Printing neither opens nor closes a report. -/
@[simp] theorem isClosed_taken (report : Report) (node : Node) :
    (report.taken node).isClosed = report.isClosed := by
  cases closed : report.isClosed <;> simp [taken, closed]
  exact closed

/-- No more does printing a node if there is one. -/
@[simp] theorem isClosed_takes (report : Report) (node : Option Node) :
    (report.takes node).isClosed = report.isClosed := by
  cases node with
  | none => rfl
  | some node => exact report.isClosed_taken node

/-- An open report remembers when it was closed. -/
theorem ended_open (report : Report) (time : String) (isOpen : report.isClosed = false) :
    report.ended time = { report with closedAt := some time } := by
  simp [ended, close, isOpen]

/-- Closing a closed report changes nothing. -/
theorem ended_closed (report : Report) (time : String) (closed : report.isClosed = true) :
    report.ended time = report := by
  simp [ended, close, closed]

/-- A report that was closed is closed. -/
@[simp] theorem isClosed_ended (report : Report) (time : String) :
    (report.ended time).isClosed = true := by
  cases closed : report.isClosed with
  | false => rw [ended_open report time closed]; rfl
  | true => rw [ended_closed report time closed, closed]

/-- The root of an open report gets the node as its last child. -/
theorem root_taken (report : Report) (node : Node) (isOpen : report.isClosed = false) :
    (report.taken node).root = report.root.add node := by
  rw [taken_open report node isOpen]
  simp [root, Node.addAll, Node.add, Node.name, Node.value, Node.attributes, Node.children]

end Report

namespace Treatment

/-- How it ends on a report: was the event dealt with? -/
def outcomeOn (report : Report) : Treatment → Except Fault Bool
  | declined => .ok false
  | consumed => .ok true
  | reported building =>
    match building.outcome with
    | .error fault => .error fault
    | .ok _ => if report.isClosed then .error .reportClosed else .ok true

/-- A treatment with a finished node succeeds exactly on an open report. -/
theorem outcomeOn_finished (report : Report) (treatment : Treatment) (node : Node)
    (finished : treatment.node? = some node) :
    treatment.outcomeOn report =
      if report.isClosed then .error .reportClosed else .ok true := by
  cases treatment with
  | declined => cases finished
  | consumed => cases finished
  | reported building =>
    cases built : building.outcome with
    | error fault => simp [node?, built, Except.toOption] at finished
    | ok node => simp [outcomeOn, built]

/-- Carrying out a treatment gives its finished node to the report, if there is one, and ends
as the treatment does. -/
theorem conclude_attempt (report : Report) (treatment : Treatment) :
    (Desk.conclude report treatment.attempt).state = report.takes treatment.node? ∧
      (Desk.conclude report treatment.attempt).outcome.map Reaction.settles =
        treatment.outcomeOn report := by
  cases treatment with
  | declined => exact ⟨rfl, rfl⟩
  | consumed => exact ⟨rfl, rfl⟩
  | reported building =>
    have outcome := outcome_reported building
    cases built : building.outcome with
    | error fault =>
      rw [built, Except.map] at outcome
      simp [Desk.conclude, outcome, node?, outcomeOn, built, Report.takes, Except.map,
        Except.toOption]
    | ok node =>
      rw [built, Except.map] at outcome
      have added := report.outcome_add node
      cases closed : report.isClosed with
      | false =>
        simp [Desk.conclude, Desk.react, outcome, added, closed, node?, outcomeOn, built,
          Report.takes, Except.map, Except.toOption, Reaction.settles, Reaction.answer,
          Value.truth]
      | true =>
        simp [Desk.conclude, Desk.react, outcome, added, closed, node?, outcomeOn, built,
          Report.takes, Report.taken_closed, Except.map, Except.toOption]

end Treatment

namespace Desk

/-- A desk with the standard handlers, artifact types and word of the project last seen. -/
structure IsStandard (types : TypeRegistry) (desk : Desk) : Prop where
  /-- The standard handlers stand on the shelves. -/
  shelves : desk.dispatcher.Shelves Handler.enlistedStandard
  /-- The artifact types are these. -/
  types : desk.types = some types
  /-- Handlers are told about the project. -/
  tells : desk.tellsProject = true

/-- Well-formed handlers with different keys are all enlisted, under their numbers, and take
their places on the shelves. -/
theorem enlistAll_shelves (desk : Desk) (registered handlers : List Handler)
    (first : Nat) (counted : desk.enlisted.length = first)
    (wellFormed : ∀ handler ∈ Handler.numbered first handlers, handler.WellFormed)
    (distinct : ((registered ++ Handler.numbered first handlers).map Handler.key?).Nodup)
    (shelves : desk.dispatcher.Shelves registered) :
    (desk.enlistAll handlers).state.dispatcher.Shelves
      (registered ++ Handler.numbered first handlers) := by
  induction handlers generalizing desk registered first with
  | nil => simpa [Handler.numbered, enlistAll] using shelves
  | cons handler rest inductionHypothesis =>
    rw [Handler.numbered] at wellFormed distinct ⊢
    have fresh : (handler.withSerial first).key? ∉ registered.map Handler.key? := by
      rw [List.map_append, List.map_cons] at distinct
      intro member
      exact (List.nodup_append.mp distinct).2.2 _ member _ List.mem_cons_self rfl
    obtain ⟨next, done, nextShelves⟩ := Dispatcher.register_fresh desk.dispatcher registered
      (handler.withSerial first) (wellFormed _ List.mem_cons_self) fresh shelves
    have enlisted : desk.enlist handler =
        ⟨{ desk with
            dispatcher := next
            enlisted := desk.enlisted ++ [handler.withSerial first] },
          [Dispatcher.registeredRecord (handler.withSerial first)], .ok ()⟩ := by
      rw [Handler.withSerial] at done ⊢
      simp only [enlist, counted, done]
    have later := inductionHypothesis
      { desk with
        dispatcher := next
        enlisted := desk.enlisted ++ [handler.withSerial first] }
      (registered ++ [handler.withSerial first]) (first + 1) (by simp [counted])
      (fun other member => wellFormed other (List.mem_cons_of_mem _ member))
      (by simpa using distinct) nextShelves
    rw [enlistAll, enlisted]
    simpa using later

/-- Enlisting handlers leaves everything else at the desk alone. -/
theorem enlistAll_frame (desk : Desk) (handlers : List Handler) :
    (desk.enlistAll handlers).state.types = desk.types ∧
      (desk.enlistAll handlers).state.project = desk.project ∧
      (desk.enlistAll handlers).state.tellsProject = desk.tellsProject := by
  induction handlers generalizing desk with
  | nil => exact ⟨rfl, rfl, rfl⟩
  | cons handler rest inductionHypothesis =>
    have kept : (desk.enlist handler).state.types = desk.types ∧
        (desk.enlist handler).state.project = desk.project ∧
        (desk.enlist handler).state.tellsProject = desk.tellsProject := by
      rw [enlist]
      split <;> exact ⟨rfl, rfl, rfl⟩
    rw [enlistAll]
    split
    · exact kept
    · obtain ⟨types, project, tells⟩ := inductionHypothesis (desk.enlist handler).state
      exact ⟨types.trans kept.1, project.trans kept.2.1, tells.trans kept.2.2⟩

/-- What is received leaves everything at the desk alone but the project and the work done. -/
theorem isStandard_receive (types : TypeRegistry) (desk : Desk) (report : Report)
    (time : String) (files : FileSystem) (event : Event) (standard : desk.IsStandard types) :
    (desk.receive report time files event).state.1.IsStandard types := by
  rw [receive, dispatch, observe]
  cases event.project? with
  | none => exact ⟨standard.shelves, standard.types, standard.tells⟩
  | some project => exact ⟨standard.shelves, standard.types, standard.tells⟩

/-- The project that is last seen once something was received. -/
theorem project_receive (desk : Desk) (report : Report) (time : String) (files : FileSystem)
    (event : Event) :
    (desk.receive report time files event).state.1.project =
      event.project?.or desk.project := by
  rw [receive, dispatch, observe]
  cases event.project? <;> rfl

/-- What the standard handlers know of when something is received. -/
def knowledge (types : TypeRegistry) (desk : Desk) (time : String) (files : FileSystem)
    (event : Event) : Surroundings where
  time
  files
  types := some types
  project := event.project?.or desk.project

/-- At a standard desk, what is received is attempted as its treatment says. -/
theorem attempt_standard (types : TypeRegistry) (desk : Desk) (time : String)
    (files : FileSystem) (event : Event) (standard : desk.IsStandard types) :
    ((desk.observe event).dispatcher.dispatch ((desk.observe event).surroundings time files)
        event).attempt =
      (event.treatment (desk.knowledge types time files event)).attempt := by
  have known : (desk.observe event).surroundings time files =
      desk.knowledge types time files event := by
    rw [surroundings, observe, knowledge]
    cases event.project? <;> simp [standard.types, standard.tells]
  have shelves : (desk.observe event).dispatcher.Shelves Handler.enlistedStandard := by
    rw [observe]
    cases event.project? <;> exact standard.shelves
  rw [Dispatcher.dispatch_standard _ _ event shelves, known]

/-- At a standard desk, what is received is treated as can be read off it. -/
theorem receive_standard (types : TypeRegistry) (desk : Desk) (report : Report) (time : String)
    (files : FileSystem) (event : Event) (standard : desk.IsStandard types) :
    (desk.receive report time files event).state.2 =
        report.takes (event.treatment (desk.knowledge types time files event)).node? ∧
      (desk.receive report time files event).outcome =
        (event.treatment (desk.knowledge types time files event)).outcomeOn report := by
  rw [receive, dispatch]
  dsimp only
  rw [attempt_standard types desk time files event standard]
  exact Treatment.conclude_attempt report _

end Desk

namespace Session

/-- A new desk is what enlisting the standard handlers leads to. -/
theorem newDesk_eq (types : TypeRegistry) :
    (newDesk types).1 =
      (({ types := some types } : Desk).enlistAll (Handler.standard none)).state := by
  rw [newDesk]

/-- A new desk is a standard desk that has not seen any project. -/
theorem newDesk_standard (types : TypeRegistry) :
    (newDesk types).1.IsStandard types ∧ (newDesk types).1.project = none := by
  have shelves := Desk.enlistAll_shelves { types := some types } [] (Handler.standard none) 0 rfl
    Dispatcher.wellFormed_standard Dispatcher.distinct_standard Dispatcher.shelves_empty
  rw [List.nil_append] at shelves
  have frame := Desk.enlistAll_frame { types := some types } (Handler.standard none)
  rw [newDesk_eq]
  exact ⟨⟨shelves, frame.1, frame.2.2⟩, frame.2.1⟩

/-- Starting an enabled session leads to a new desk and prints the first node to the report,
which is opened if there is none. It fails exactly if that report is closed. -/
theorem start_enabled (session : Session) (time : String) (context : Table Value)
    (report : Report) (types : TypeRegistry) (enabled : session.settings.disabled = false)
    (given : session.report?.getD (Report.openAt time) = report)
    (known : session.types.getD TypeRegistry.stock = types) :
    (session.start time context).state =
        { session with
          types := some types
          stage := .wired (report.taken (firstNode time context)) (newDesk types).1 } ∧
      (session.start time context).outcome =
        if report.isClosed then .error .reportClosed else .ok () := by
  have added := report.outcome_add (firstNode time context)
  rw [start, given, known]
  cases closed : report.isClosed with
  | false =>
    rw [closed] at added
    simp [enabled, added]
  | true =>
    rw [closed] at added
    simp [enabled, added, Report.taken_closed, closed]

/-- A session that was not started stays what it is, whatever is delivered to it. -/
theorem receive_fresh (session : Session) (time : String) (files : FileSystem) (event : Event)
    (report : Option Report) (stage : session.stage = .fresh report) :
    (session.receive time files event).state = session := by
  cases disabled : session.settings.disabled <;> simp [receive, disabled, stage]

/-- An enabled session that was started receives what is delivered at its desk: the report
takes the finished node, if there is one, and the desk remembers the project. -/
theorem receive_wired (session : Session) (time : String) (files : FileSystem) (event : Event)
    (report : Report) (desk : Desk) (types : TypeRegistry)
    (enabled : session.settings.disabled = false) (stage : session.stage = .wired report desk)
    (standard : desk.IsStandard types) :
    (session.receive time files event).outcome =
        (event.treatment (desk.knowledge types time files event)).outcomeOn report ∧
      ∃ next, (session.receive time files event).state =
          { session with
            stage := .wired
              (report.takes (event.treatment (desk.knowledge types time files event)).node?)
              next } ∧
        next.IsStandard types ∧ next.project = event.project?.or desk.project := by
  obtain ⟨taken, outcome⟩ := desk.receive_standard types report time files event standard
  have kept := desk.isStandard_receive types report time files event standard
  have seen := desk.project_receive report time files event
  have ended : (session.receive time files event).outcome =
      (desk.receive report time files event).outcome := by
    rw [receive, enabled, stage]
    cases failed : (desk.receive report time files event).outcome <;> simp [failed]
  have reached : (session.receive time files event).state =
      { session with
        stage := .wired (desk.receive report time files event).state.2
          (desk.receive report time files event).state.1 } := by
    rw [receive, enabled, stage]
    cases failed : (desk.receive report time files event).outcome <;> simp [failed]
  rw [taken] at reached
  exact ⟨ended.trans outcome, _, reached, kept, seen⟩

/-- Closing an enabled session closes its report, if there is one, and makes the desk forget
the project. -/
theorem close_enabled (session : Session) (time : String)
    (enabled : session.settings.disabled = false) :
    (session.close time).state =
        { session with
          stage := match session.stage with
            | .fresh report => .fresh (report.map fun report => report.ended time)
            | .wired report desk => .wired (report.ended time) desk.forget } ∧
      (session.close time).outcome = .ok () := by
  obtain ⟨settings, types, stage⟩ := session
  have isEnabled : settings.disabled = false := enabled
  rcases stage with (_ | report) | ⟨report, desk⟩ <;>
    simp [close, isEnabled, Report.ended]

end Session

end BuildChronicle
