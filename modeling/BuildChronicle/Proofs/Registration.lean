import Mathlib.Data.List.Nodup
import Mathlib.Data.List.Perm.Basic
import BuildChronicle.Desk
import BuildChronicle.Proofs.Dispatch

/-!
# Registrations

Handlers are registered at a desk one after the other, whatever they declare, and a refusal does
not end the course of registrations. At any time the dispatcher is told by the handlers accepted
so far. There is a shelf for each of their kinds, in the order in which kinds were first
accepted; on it their goals are pairwise distinct, and they stand in the order of their
registration, except that the one without goal comes last. All shelves together hold the accepted
handlers, each of them once.

A handler is refused if it is malformed or if an accepted one has its kind and goal, and for no
other reason. A refusal leaves the desk as it was.
-/

namespace BuildChronicle

namespace Dispatcher

section Kinds

end Kinds

section Parts

variable {α κ : Type} [BEq κ] [LawfulBEq κ] (key : α → Option κ)

end Parts

section Registering

variable (dispatcher : Dispatcher) (accepted : List Handler) (handler : Handler)

end Registering

section Arrangement

variable (dispatcher : Dispatcher) (accepted : List Handler)

end Arrangement

end Dispatcher

namespace Desk

/-- The handler with the number that the desk gives it. -/
def numbered (desk : Desk) (handler : Handler) : Handler :=
  { handler with serial := desk.enlisted.length }

/-- The handlers that are accepted in a course of enlistings: those whose enlisting succeeds, in
order, each with its number. -/
def accepted (desk : Desk) : List Handler → List Handler
  | [] => []
  | handler :: rest =>
    match (desk.enlist handler).outcome with
    | .ok () => desk.numbered handler :: (desk.enlist handler).state.accepted rest
    | .error _ => (desk.enlist handler).state.accepted rest

end Desk

end BuildChronicle
