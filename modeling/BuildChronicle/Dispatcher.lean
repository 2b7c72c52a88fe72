import BuildChronicle.Handler

/-!
# The dispatcher

The dispatcher keeps handlers on shelves, one for each kind, in the order in which kinds
were first registered. On a shelf the handlers with a goal come first, in the order of
their registration, and the handler without goal comes last. No two handlers on a shelf
declare the same goal. A registration that would break these rules is refused and changes
nothing.

An event is offered to the handlers on the shelf of its kind, one after the other, until one
deals with it.
-/

namespace BuildChronicle

/-- Why a registration is refused. Handlers are named by how they are shown. -/
inductive RegistrationError where
  /-- The declared kind is not a kind. -/
  | noKind (handler : String)
  /-- The declared goal is neither missing nor a text. -/
  | badGoal (handler goal : String)
  /-- No class of events is declared. -/
  | noClass (handler : String)
  /-- Another handler has the same kind and goal. -/
  | conflict (handler other : String)
deriving DecidableEq

/-- What is said about a refused registration. -/
def RegistrationError.message : RegistrationError → String
  | noKind handler => handler ++ " does not declare a supported event kind"
  | badGoal handler goal => handler ++ " declares an invalid goal: " ++ goal
  | noClass handler => handler ++ " does not declare a supported event type"
  | conflict handler other => handler ++ " conflicts with " ++ other

/-- The declared goal of a handler, where it is none or a text. -/
def Handler.goal? (handler : Handler) : Option (Option String) :=
  match handler.goal with
  | .null => some none
  | .text goal => some (some goal)
  | _ => none

/-- Handlers by kind. -/
structure Dispatcher where
  /-- The shelves, in the order in which their kinds were first registered. -/
  shelves : List (Kind × List Handler) := []

namespace Dispatcher

instance : Inhabited Dispatcher := ⟨{}⟩

/-- The logger of the dispatcher. -/
def logger : String := "event_spy.dispatcher"

/-- The handlers on the shelf of a kind. -/
def shelf (dispatcher : Dispatcher) (kind : Kind) : List Handler :=
  (dispatcher.shelves.lookup kind).getD []

/-- All handlers, shelf by shelf. -/
def handlers (dispatcher : Dispatcher) : List Handler :=
  dispatcher.shelves.flatMap Prod.snd

/-- Put a handler with a goal in front of the handler without goal. -/
def insertBeforeGeneral (handler : Handler) : List Handler → List Handler
  | [] => [handler]
  | other :: rest =>
    if other.goal? = some none then handler :: other :: rest
    else other :: insertBeforeGeneral handler rest

/-- Put a handler on a shelf: at the end if it has no goal. -/
def place (handler : Handler) (shelf : List Handler) : List Handler :=
  if handler.goal? = some none then shelf ++ [handler] else insertBeforeGeneral handler shelf

/-- Put a handler on the shelf of a kind, setting up the shelf if there is none. -/
def placeOn (kind : Kind) (handler : Handler) :
    List (Kind × List Handler) → List (Kind × List Handler)
  | [] => [(kind, [handler])]
  | (other, shelf) :: rest =>
    if other = kind then (other, place handler shelf) :: rest
    else (other, shelf) :: placeOn kind handler rest

/-- The handler on a shelf that declares the same goal. -/
def conflicting? (handler : Handler) (shelf : List Handler) : Option Handler :=
  shelf.find? fun other => other.goal? == handler.goal?

/-- What a well-formed handler declares as its kind, or why it is refused. -/
def checkedKind (handler : Handler) : Except RegistrationError Kind :=
  match handler.kind.kind?, handler.goal?, handler.payload with
  | none, _, _ => .error (.noKind handler.describe)
  | some _, none, _ => .error (.badGoal handler.describe handler.goal.literal)
  | some _, some _, none => .error (.noClass handler.describe)
  | some kind, some _, some _ => .ok kind

/-- Register a handler, unless it is malformed or conflicts with another. -/
def register (dispatcher : Dispatcher) (handler : Handler) :
    Except RegistrationError Dispatcher :=
  match checkedKind handler with
  | .error error => .error error
  | .ok kind =>
    match conflicting? handler (dispatcher.shelf kind) with
    | some other => .error (.conflict handler.describe other.describe)
    | none => .ok ⟨placeOn kind handler dispatcher.shelves⟩

/-- The record of a registration. -/
def registeredRecord (handler : Handler) : Record :=
  Record.of .debug logger ("Registered " ++ handler.describe)

/-- What came of offering an event. -/
structure Dispatch where
  /-- The handlers that processed the event, in order. -/
  consulted : List Handler
  /-- What they wrote and how it ended. -/
  attempt : Attempt Fault Reaction

/-- Offer an event to handlers until one deals with it. -/
def offer (surroundings : Surroundings) (event : Event) : List Handler → Dispatch
  | [] => ⟨[], Attempt.succeed Reaction.declined⟩
  | handler :: rest =>
    match handler.accepts event with
    | .error fault => ⟨[], Attempt.fail fault⟩
    | .ok false => offer surroundings event rest
    | .ok true =>
      let processed := handler.process surroundings event
      match processed.outcome with
      | .error _ => ⟨[handler], processed⟩
      | .ok reaction =>
        if reaction.settles then ⟨[handler], processed⟩
        else
          let later := offer surroundings event rest
          ⟨handler :: later.consulted,
            ⟨processed.records ++ later.attempt.records, later.attempt.outcome⟩⟩

/-- Dispatch an event to the handlers of its kind. What has no kind is declined. -/
def dispatch (dispatcher : Dispatcher) (surroundings : Surroundings) (event : Event) :
    Dispatch :=
  match event.kind? with
  | none => ⟨[], Attempt.succeed Reaction.declined⟩
  | some kind => offer surroundings event (dispatcher.shelf kind)

end Dispatcher

end BuildChronicle
