import BuildChronicle.Artifact
import BuildChronicle.Event
import BuildChronicle.Log.Fault

/-!
# Handlers

A handler declares the class and the kind of the events it is for, and perhaps a plugin
goal. Declarations may be anything; only the dispatcher insists on proper ones. Offered an
event, a handler first decides whether it accepts it and then processes it.

Processing is an attempt: it may write log records and it ends with an answer that says
whether the event is dealt with, or with one finished node to report. A handler never touches
the report itself, so a failing handler cannot leave half a node behind.
-/

namespace BuildChronicle

/-- What handlers know besides the event. -/
structure Surroundings where
  /-- The current time. -/
  time : String
  /-- The file system that paths are resolved in. -/
  files : FileSystem
  /-- The registered artifact types, if there is a registry. -/
  types : Option TypeRegistry
  /-- The project that was last seen, if handlers are told. -/
  project : Option Project

/-- How the processing of an event ends. -/
inductive Reaction where
  /-- There is nothing to report; the event is dealt with if the answer counts as true. -/
  | answered (answer : Value)
  /-- The event is dealt with by reporting this node. -/
  | reported (node : Node)

namespace Reaction

/-- The event is left to others. -/
def declined : Reaction := answered (.bool false)

/-- The event is dealt with silently. -/
def consumed : Reaction := answered (.bool true)

/-- The answer that a reaction gives. -/
def answer : Reaction → Value
  | answered answer => answer
  | reported _ => .bool true

/-- Is the event dealt with? -/
def settles (reaction : Reaction) : Bool := reaction.answer.truth

end Reaction

/-- How a handler chooses events. -/
inductive Matching where
  /-- By class and kind. -/
  | byKind
  /-- By class, kind and goal; the listed parameters of the goal are reported, and without a
  list the events are left to others. -/
  | byGoal (parameters : Option (List String))

/-- What a handler keeps of its work. -/
inductive Tally where
  /-- Nothing. -/
  | none
  /-- A count that is never raised. -/
  | idle
  /-- The number of events it processed. -/
  | counting
deriving DecidableEq

/-- A handler of events. -/
structure Handler where
  /-- The name of the handler. -/
  name : String
  /-- What distinguishes it from other handlers of the same desk. -/
  serial : Nat := 0
  /-- The declared kind. -/
  kind : Declared := .other .null
  /-- The declared goal; null for none. -/
  goal : Value := .null
  /-- The declared class, given by what belongs to it. -/
  payload : Option (Event → Bool) := none
  /-- How it chooses events. -/
  matching : Matching := .byKind
  /-- What it keeps of its work. -/
  tally : Tally := .none
  /-- What it does with an event it accepts. -/
  process : Surroundings → Event → Attempt Fault Reaction

namespace Handler

/-- The logger of a handler: the one it was given, else one named for it. -/
def loggerName (given : Option String) (name : String) : String :=
  given.getD ("event_spy.handlers." ++ name)

/-- How a handler is shown: its name with its declared kind and goal. -/
def describe (handler : Handler) : String :=
  handler.name ++ "[kind=" ++ handler.kind.display ++ ", goal=" ++ handler.goal.display ++ "]"

/-- Is the event of the declared class and kind? -/
def fitsKind (handler : Handler) (event : Event) : Bool :=
  match handler.payload, event.kind? with
  | some covers, some kind => covers event && handler.kind.denotes kind
  | _, _ => false

/-- Does a plugin goal fit the declared goal, if one is declared? -/
def fitsGoal (handler : Handler) (mojoExecution : Option MojoExecution) : Bool :=
  match handler.goal with
  | .null => true
  | .text goal => mojoExecution.any (·.key == goal)
  | _ => false

/-- Does the handler accept the event? If it has a goal, it asks the event for its plugin goal,
whatever the event is; one that has no place for a plugin goal is a fault. -/
def accepts (handler : Handler) (event : Event) : Except Fault Bool :=
  if handler.fitsKind event then
    match handler.matching, handler.goal with
    | .byKind, _ => .ok true
    | .byGoal _, .null => .ok true
    | .byGoal _, _ =>
      match event.mojoExecution? with
      | some mojoExecution => .ok (handler.fitsGoal mojoExecution)
      | none => .error (.noAttribute event.className "mojo_execution")
  else .ok false

/-- Process the event if the handler accepts it; decline it otherwise. -/
def handle (handler : Handler) (surroundings : Surroundings) (event : Event) :
    Attempt Fault Reaction :=
  match handler.accepts event with
  | .error fault => Attempt.fail fault
  | .ok false => Attempt.succeed Reaction.declined
  | .ok true => handler.process surroundings event

/-- The parameters that a handler reports. -/
def parametersToReport (handler : Handler) : Except Fault (Option (List String)) :=
  match handler.matching with
  | .byGoal parameters => .ok parameters
  | .byKind => .error (.noAttribute handler.name "configuration_parameters_to_report")

end Handler

end BuildChronicle
