import BuildChronicle.Proofs.Offers

/-!
# Dispatch as look-up

Registered handlers form a finite map from keys to handlers, and dispatching an event looks
at two entries of it. An event with a plugin goal concerns the handler registered under its
kind and that goal; every event concerns the handler registered under its kind alone. The
second is consulted only if the first is missing, does not accept the event or leaves it to
others. The order of registration plays no part.

Handlers with a goal are taken to match by goal. They ask whatever belongs to their class and
kind for its plugin goal, so they must be for events that have a place for one: delivered
anything else of their class and kind, they fail before any handler has processed it.
-/

namespace BuildChronicle

namespace Dispatcher

/-- The handler that is registered under a key. -/
def under (handlers : List Handler) (kind : Kind) (goal : Option String) : Option Handler :=
  handlers.find? fun handler => handler.key? == some (kind, goal)

section Keys

variable {α κ : Type} [BEq κ] [LawfulBEq κ] (key : α → κ)

end Keys

section Directed

variable (event : Event) (handler : Handler)

end Directed

section Registered

variable (handlers : List Handler) (kind : Kind) (event : Event)

end Registered

section Dispatching

variable (dispatcher : Dispatcher) (handlers : List Handler) (surroundings : Surroundings)
  (event : Event)

end Dispatching

end Dispatcher

end BuildChronicle
