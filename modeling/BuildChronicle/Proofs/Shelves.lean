import BuildChronicle.Dispatcher

/-!
# How shelves are filled

A well-formed handler is registered under a key: its kind and its goal, if it has one. After
handlers with different keys were registered, in whatever order, the shelf of a kind holds
the handlers of that kind and nothing else: first those with a goal, in the order of their
registration, then the one without goal.

The arrangement is stated for the list of registered handlers and proved by one step, a
single registration, and an induction over the list.
-/

namespace BuildChronicle

namespace Handler

/-- The kind and the goal that a handler declares, where both are proper. -/
def key? (handler : Handler) : Option (Kind × Option String) :=
  handler.kind.kind?.bind fun kind => handler.goal?.map fun goal => (kind, goal)

/-- Is the handler one for all goals? -/
def isGeneral (handler : Handler) : Bool := handler.goal? == some none

/-- Is the handler for events of this kind? -/
def isOfKind (kind : Kind) (handler : Handler) : Bool := handler.kind.kind? == some kind

/-- A well-formed handler declares a kind, a goal or none, and a class. -/
structure WellFormed (handler : Handler) : Prop where
  /-- The kind is a kind. -/
  kind : handler.kind.kind?.isSome = true
  /-- The goal is none or a text. -/
  goal : handler.goal?.isSome = true
  /-- There is a class. -/
  payload : handler.payload.isSome = true

/-- Whether a handler is well-formed can be decided. -/
instance decidableWellFormed (handler : Handler) : Decidable handler.WellFormed :=
  decidable_of_iff (handler.kind.kind?.isSome = true ∧ handler.goal?.isSome = true ∧
      handler.payload.isSome = true)
    ⟨fun ⟨kind, goal, payload⟩ => ⟨kind, goal, payload⟩,
      fun wellFormed => ⟨wellFormed.kind, wellFormed.goal, wellFormed.payload⟩⟩

/-- The key of a handler names its kind and its goal. -/
theorem key?_eq_some_iff (handler : Handler) (kind : Kind) (goal : Option String) :
    handler.key? = some (kind, goal) ↔
      handler.kind.kind? = some kind ∧ handler.goal? = some goal := by
  cases declared : handler.kind.kind? <;> cases wanted : handler.goal? <;>
    simp [key?, declared, wanted]

/-- A well-formed handler has a key. -/
theorem key?_of_wellFormed (handler : Handler) (wellFormed : handler.WellFormed) :
    ∃ kind goal, handler.key? = some (kind, goal) := by
  obtain ⟨kind, declared⟩ := Option.isSome_iff_exists.mp wellFormed.kind
  obtain ⟨goal, wanted⟩ := Option.isSome_iff_exists.mp wellFormed.goal
  exact ⟨kind, goal, (handler.key?_eq_some_iff kind goal).mpr ⟨declared, wanted⟩⟩

end Handler

namespace Dispatcher

/-- The handlers of a kind as they stand on its shelf: those with a goal in order, then those
without. -/
def arranged (kind : Kind) (handlers : List Handler) : List Handler :=
  handlers.filter (fun handler => handler.isOfKind kind && !handler.isGeneral) ++
    handlers.filter (fun handler => handler.isOfKind kind && handler.isGeneral)

/-- Every shelf holds the registered handlers of its kind in their arrangement. -/
def Shelves (dispatcher : Dispatcher) (registered : List Handler) : Prop :=
  ∀ kind, dispatcher.shelf kind = arranged kind registered

/-- Exactly the handlers of a kind are arranged for it. -/
theorem mem_arranged (kind : Kind) (handlers : List Handler) (handler : Handler) :
    handler ∈ arranged kind handlers ↔ handler ∈ handlers ∧ handler.isOfKind kind = true := by
  cases general : handler.isGeneral <;> simp [arranged, general]

/-- A handler is put behind all handlers with a goal and in front of the others. -/
theorem insertBeforeGeneral_append (handler : Handler) (qualified general : List Handler)
    (allQualified : ∀ other ∈ qualified, other.isGeneral = false)
    (allGeneral : ∀ other ∈ general, other.isGeneral = true) :
    insertBeforeGeneral handler (qualified ++ general) = qualified ++ handler :: general := by
  induction qualified with
  | nil =>
    cases general with
    | nil => rfl
    | cons first rest =>
      have firstGeneral : first.goal? = some none := by
        simpa [Handler.isGeneral] using allGeneral first (by simp)
      simp [insertBeforeGeneral, firstGeneral]
  | cons first rest inductionHypothesis =>
    have firstQualified : first.goal? ≠ some none := by
      simpa [Handler.isGeneral] using allQualified first (by simp)
    have later : ∀ other ∈ rest, other.isGeneral = false :=
      fun other member => allQualified other (List.mem_cons_of_mem first member)
    simp [insertBeforeGeneral, firstQualified, inductionHypothesis later]

/-- Placing a handler of the kind keeps the arrangement. -/
theorem place_arranged (kind : Kind) (handlers : List Handler) (handler : Handler)
    (sameKind : handler.isOfKind kind = true) :
    place handler (arranged kind handlers) = arranged kind (handlers ++ [handler]) := by
  cases general : handler.isGeneral with
  | true =>
    have goalless : handler.goal? = some none := by simpa [Handler.isGeneral] using general
    simp [place, goalless, arranged, sameKind, general]
  | false =>
    have goal : handler.goal? ≠ some none := by simpa [Handler.isGeneral] using general
    rw [place, if_neg goal, arranged, insertBeforeGeneral_append]
    · simp [arranged, sameKind, general]
    · intro other member
      have kept := (List.mem_filter.mp member).2
      simp only [Bool.and_eq_true, Bool.not_eq_true'] at kept
      exact kept.2
    · intro other member
      have kept := (List.mem_filter.mp member).2
      simp only [Bool.and_eq_true] at kept
      exact kept.2

/-- Placing a handler of another kind does not concern the arrangement. -/
theorem arranged_append_other (kind : Kind) (handlers : List Handler) (handler : Handler)
    (otherKind : handler.isOfKind kind = false) :
    arranged kind (handlers ++ [handler]) = arranged kind handlers := by
  simp [arranged, otherKind]

/-- Only the shelf of the handler's kind changes when a handler is placed. -/
theorem shelf_placeOn (kind other : Kind) (handler : Handler)
    (shelves : List (Kind × List Handler)) :
    ((placeOn kind handler shelves).lookup other).getD [] =
      if other = kind then place handler ((shelves.lookup kind).getD [])
      else (shelves.lookup other).getD [] := by
  induction shelves with
  | nil =>
    by_cases same : other = kind
    · subst same
      cases decide (handler.goal? = some none) <;> simp [placeOn, place, insertBeforeGeneral]
    · have absent : (other == kind) = false := beq_eq_false_iff_ne.mpr same
      simp [placeOn, List.lookup_cons, absent, same]
  | cons shelf rest inductionHypothesis =>
    obtain ⟨first, held⟩ := shelf
    by_cases found : first = kind
    · subst found
      by_cases same : other = first
      · subst same
        simp [placeOn]
      · have absent : (other == first) = false := beq_eq_false_iff_ne.mpr same
        simp [placeOn, List.lookup_cons, absent, same]
    · have passed : (kind == first) = false :=
        beq_eq_false_iff_ne.mpr fun equal => found equal.symm
      by_cases same : other = first
      · subst same
        simp [placeOn, found]
      · have absent : (other == first) = false := beq_eq_false_iff_ne.mpr same
        simp only [placeOn, if_neg found, List.lookup_cons, absent, passed, inductionHypothesis]

/-- A registration changes the shelf of its kind and no other. -/
theorem shelves_placeOn (dispatcher : Dispatcher) (registered : List Handler) (kind : Kind)
    (handler : Handler) (declared : handler.kind.kind? = some kind)
    (shelves : dispatcher.Shelves registered) :
    (Dispatcher.mk (placeOn kind handler dispatcher.shelves)).Shelves
      (registered ++ [handler]) := by
  intro other
  have held := shelf_placeOn kind other handler dispatcher.shelves
  by_cases same : other = kind
  · subst same
    have ofKind : handler.isOfKind other = true := by simp [Handler.isOfKind, declared]
    rw [if_pos rfl] at held
    exact held.trans ((congrArg (place handler) (shelves other)).trans
      (place_arranged other registered handler ofKind))
  · have ofKind : handler.isOfKind other = false := by
      simpa [Handler.isOfKind, declared] using fun equal => same equal.symm
    rw [if_neg same] at held
    exact held.trans ((shelves other).trans
      (arranged_append_other other registered handler ofKind).symm)

/-- Nothing on a shelf conflicts with a handler whose key is new. -/
theorem conflicting?_none (registered : List Handler) (handler : Handler) (kind : Kind)
    (goal : Option String) (key : handler.key? = some (kind, goal))
    (fresh : handler.key? ∉ registered.map Handler.key?) :
    conflicting? handler (arranged kind registered) = none := by
  obtain ⟨_, wanted⟩ := (handler.key?_eq_some_iff kind goal).mp key
  rw [conflicting?, List.find?_eq_none]
  intro other member sameGoal
  obtain ⟨present, ofKind⟩ := (mem_arranged kind registered other).mp member
  apply fresh
  rw [key, ← (other.key?_eq_some_iff kind goal).mpr
    ⟨by simpa [Handler.isOfKind] using ofKind, by simpa [wanted] using sameGoal⟩]
  exact List.mem_map_of_mem present

/-- A well-formed handler whose key is new is registered and takes its place. -/
theorem register_fresh (dispatcher : Dispatcher) (registered : List Handler)
    (handler : Handler) (wellFormed : handler.WellFormed)
    (fresh : handler.key? ∉ registered.map Handler.key?)
    (shelves : dispatcher.Shelves registered) :
    ∃ next, dispatcher.register handler = .ok next ∧
      next.Shelves (registered ++ [handler]) := by
  obtain ⟨kind, goal, key⟩ := handler.key?_of_wellFormed wellFormed
  obtain ⟨declared, wanted⟩ := (handler.key?_eq_some_iff kind goal).mp key
  obtain ⟨covers, payload⟩ := Option.isSome_iff_exists.mp wellFormed.payload
  have checked : checkedKind handler = .ok kind := by
    simp [checkedKind, declared, wanted, payload]
  have free : conflicting? handler (dispatcher.shelf kind) = none := by
    rw [shelves kind]
    exact conflicting?_none registered handler kind goal key fresh
  refine ⟨⟨placeOn kind handler dispatcher.shelves⟩, ?_, ?_⟩
  · simp [register, checked, free]
  · exact shelves_placeOn dispatcher registered kind handler declared shelves

/-- No shelf of a new dispatcher holds anything. -/
theorem shelves_empty : ({} : Dispatcher).Shelves [] := fun _ => rfl

end Dispatcher

end BuildChronicle
