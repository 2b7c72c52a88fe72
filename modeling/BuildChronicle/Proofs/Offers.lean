import BuildChronicle.Handler.Execution
import BuildChronicle.Proofs.Shelves

/-!
# Offers

An event is offered to handlers one after the other. Which of them accept it is told by their
class, kind and goal; what comes of the offer is told by those that do: they process the event
in order, until one fails or deals with it.

Handlers with a goal are taken to match by goal. They ask whatever belongs to their class and
kind for its plugin goal, so one of them that is offered something without a place for it fails
to decide.
-/

namespace BuildChronicle

/-- The goal that an event concerns: that of the plugin goal that it has, if it has one. -/
def Event.goal? (event : Event) : Option String :=
  event.mojoExecution?.join.map MojoExecution.key

/-- An execution event concerns its own plugin goal. -/
theorem Event.goal?_execution (event : ExecutionEvent) :
    (Event.execution event).goal? = event.mojoExecution.map MojoExecution.key := rfl

namespace Handler

/-- Does a handler that processes the event end the dispatch, by a failure or by dealing with
the event? -/
def isLast (surroundings : Surroundings) (event : Event) (handler : Handler) : Bool :=
  match (handler.process surroundings event).outcome with
  | .error _ => true
  | .ok reaction => reaction.settles

/-- Does every goal come with matching by goal? -/
def MatchesGoal (handler : Handler) : Prop :=
  handler.isGeneral = false → ∃ parameters, handler.matching = .byGoal parameters

/-- Whether every goal comes with matching by goal can be decided. -/
instance decidableMatchesGoal (handler : Handler) : Decidable handler.MatchesGoal :=
  match matched : handler.matching with
  | .byGoal parameters => isTrue fun _ => ⟨parameters, matched⟩
  | .byKind =>
    if general : handler.isGeneral = true then
      isTrue fun qualified => absurd general (Bool.eq_false_iff.mp qualified)
    else
      isFalse fun matchesGoal => by
        obtain ⟨parameters, other⟩ := matchesGoal (Bool.eq_false_iff.mpr general)
        rw [matched] at other
        cases other

end Handler

namespace Dispatcher

section Acceptance

variable (event : Event) (handler : Handler)

/-- A handler with a goal declares it as a text. -/
theorem goal_of_goal? (goal : String) (declared : handler.goal? = some (some goal)) :
    handler.goal = .text goal := by
  simp only [Handler.goal?] at declared
  split at declared <;> simp_all

/-- A handler for all goals decides by class and kind alone. -/
theorem accepts_general (general : handler.isGeneral = true) :
    handler.accepts event = .ok (handler.fitsKind event) := by
  have goalless : handler.goal = .null := by
    simp only [Handler.isGeneral, beq_iff_eq, Handler.goal?] at general
    split at general <;> simp_all
  cases fits : handler.fitsKind event <;> cases matched : handler.matching <;>
    simp [Handler.accepts, fits, matched, goalless]

/-- A handler with a goal decides by class, kind and goal, if the event can be asked for its
plugin goal. -/
theorem accepts_qualified (goal : String) (matchesGoal : handler.MatchesGoal)
    (declared : handler.goal? = some (some goal)) (mojo : Option MojoExecution)
    (asked : event.mojoExecution? = some mojo) :
    handler.accepts event =
      .ok (handler.fitsKind event && event.goal? == some goal) := by
  have text := goal_of_goal? handler goal declared
  obtain ⟨parameters, matched⟩ := matchesGoal (by simp [Handler.isGeneral, declared])
  have fitting : handler.fitsGoal mojo = (event.goal? == some goal) := by
    cases mojo <;> simp [Handler.fitsGoal, text, Event.goal?, asked]
  cases fits : handler.fitsKind event <;>
    simp [Handler.accepts, fits, matched, text, asked, fitting]

end Acceptance

section Offering

variable (surroundings : Surroundings) (event : Event)

/-- A handler that ends the dispatch decides what comes of the offer. -/
theorem offer_last (handler : Handler) (rest : List Handler)
    (accepted : handler.accepts event = .ok true)
    (last : handler.isLast surroundings event = true) :
    (offer surroundings event (handler :: rest)).attempt = handler.process surroundings event := by
  cases outcome : (handler.process surroundings event).outcome with
  | error fault => simp [offer, accepted, outcome]
  | ok reaction =>
    have settled : reaction.settles = true := by simpa [Handler.isLast, outcome] using last
    simp [offer, accepted, outcome, settled]

/-- A handler that does not accept the event is passed over. -/
theorem offer_declined (handler : Handler) (rest : List Handler)
    (declined : handler.accepts event = .ok false) :
    offer surroundings event (handler :: rest) = offer surroundings event rest := by
  simp [offer, declined]

/-- An offer that no handler accepts is declined. -/
theorem offer_unaccepted (handlers : List Handler)
    (declined : ∀ handler ∈ handlers, handler.accepts event = .ok false) :
    offer surroundings event handlers = ⟨[], Attempt.succeed Reaction.declined⟩ := by
  induction handlers with
  | nil => rfl
  | cons handler rest inductionHypothesis =>
    rw [offer_declined surroundings event handler rest (declined handler (by simp))]
    exact inductionHypothesis fun other member =>
      declined other (List.mem_cons_of_mem handler member)

end Offering

end Dispatcher

end BuildChronicle
