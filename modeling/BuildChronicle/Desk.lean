import BuildChronicle.Dispatcher
import BuildChronicle.Report

/-!
# The desk

At the desk events are received on behalf of a report. The desk remembers the project that
was last delivered with anything, whether or not that was an event that anyone handled, and
offers events to its dispatcher. If a handler asks for a node to be reported, the desk adds
it to the report, and that is all that ever changes the report.
-/

namespace BuildChronicle

/-- A dispatcher with what its handlers know and what they have done. -/
structure Desk where
  /-- The registered handlers. -/
  dispatcher : Dispatcher := {}
  /-- The registered artifact types, if there is a registry. -/
  types : Option TypeRegistry := none
  /-- The project that was last delivered. -/
  project : Option Project := none
  /-- Are handlers told about that project? -/
  tellsProject : Bool := true
  /-- The handlers in the order of their registration. -/
  enlisted : List Handler := []
  /-- The handlers that processed an event, once for each event. -/
  worked : List Handler := []

/-- A new state, what was written on the way to it, and how that ended. -/
structure Move (σ ε α : Type) where
  /-- The state afterwards, also after a failure. -/
  state : σ
  /-- The records in order. -/
  records : List Record
  /-- The result, or why there is none. -/
  outcome : Except ε α

namespace Desk

instance : Inhabited Desk := ⟨{}⟩

/-- What the handlers of the desk know at a time. -/
def surroundings (desk : Desk) (time : String) (files : FileSystem) : Surroundings where
  time
  files
  types := desk.types
  project := if desk.tellsProject then desk.project else none

/-- Enlist a handler: register it and give it its number. -/
def enlist (desk : Desk) (handler : Handler) : Move Desk RegistrationError Unit :=
  let numbered := { handler with serial := desk.enlisted.length }
  match desk.dispatcher.register numbered with
  | .error error => ⟨desk, [], .error error⟩
  | .ok dispatcher =>
    ⟨{ desk with dispatcher, enlisted := desk.enlisted ++ [numbered] },
      [Dispatcher.registeredRecord numbered], .ok ()⟩

/-- Enlist handlers one after the other, up to the first that is refused. -/
def enlistAll (desk : Desk) : List Handler → Move Desk RegistrationError Unit
  | [] => ⟨desk, [], .ok ()⟩
  | handler :: rest =>
    let first := desk.enlist handler
    match first.outcome with
    | .error error => ⟨first.state, first.records, .error error⟩
    | .ok () =>
      let later := first.state.enlistAll rest
      ⟨later.state, first.records ++ later.records, later.outcome⟩

/-- Remember the project that was delivered, if any. -/
def observe (desk : Desk) (event : Event) : Desk :=
  match event.project? with
  | some project => { desk with project := some project }
  | none => desk

/-- Forget the project that was last delivered. -/
def forget (desk : Desk) : Desk := { desk with project := none }

/-- Carry out a reaction on the report. -/
def react (report : Report) : Reaction → Move Report Fault Reaction
  | .answered answer => ⟨report, [], .ok (.answered answer)⟩
  | .reported node =>
    let added := report.add node
    match added.outcome with
    | .ok report => ⟨report, added.records, .ok (.reported node)⟩
    | .error fault => ⟨report, added.records, .error fault⟩

/-- Carry out how an attempt ended on the report. -/
def conclude (report : Report) (attempt : Attempt Fault Reaction) :
    Move Report Fault Reaction :=
  match attempt.outcome with
  | .error fault => ⟨report, attempt.records, .error fault⟩
  | .ok reaction =>
    let move := react report reaction
    ⟨move.state, attempt.records ++ move.records, move.outcome⟩

/-- Dispatch an event and carry out what its handler asks for: was it dealt with? -/
def dispatch (desk : Desk) (report : Report) (time : String) (files : FileSystem)
    (event : Event) : Move (Desk × Report) Fault Bool :=
  let dispatched := desk.dispatcher.dispatch (desk.surroundings time files) event
  let move := conclude report dispatched.attempt
  ⟨({ desk with worked := desk.worked ++ dispatched.consulted }, move.state), move.records,
    move.outcome.map Reaction.settles⟩

/-- Receive whatever was delivered: remember its project, then dispatch it. -/
def receive (desk : Desk) (report : Report) (time : String) (files : FileSystem)
    (event : Event) : Move (Desk × Report) Fault Bool :=
  (desk.observe event).dispatch report time files event

/-- Hand an event to one handler of the desk, past the dispatcher: what does it answer? -/
def hand (desk : Desk) (report : Report) (time : String) (files : FileSystem)
    (handler : Handler) (event : Event) : Move (Desk × Report) Fault Value :=
  let processes := match handler.accepts event with
    | .ok accepted => accepted
    | .error _ => false
  let move := conclude report (handler.handle (desk.surroundings time files) event)
  ⟨({ desk with worked := if processes then desk.worked ++ [handler] else desk.worked },
    move.state), move.records, move.outcome.map Reaction.answer⟩

/-- How handlers are shown that accept an event, in the order of their registration. -/
def accepting (desk : Desk) (event : Event) : Except Fault (List String) := do
  let accepted ← desk.enlisted.filterM fun handler => handler.accepts event
  return accepted.map Handler.describe

/-- The counts that the handlers of the desk keep, in the order of their registration. -/
def counts (desk : Desk) : List (Option Nat) :=
  desk.enlisted.map fun handler =>
    match handler.tally with
    | .none => none
    | .idle => some 0
    | .counting => some (desk.worked.countP (·.serial == handler.serial))

end Desk

end BuildChronicle
