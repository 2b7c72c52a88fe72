import BuildChronicle.Event.Kind
import BuildChronicle.Project
import BuildChronicle.Thrown

/-!
# Events

Five classes of events tell about a build. Whoever delivers events may also deliver other
things: an object that merely looks like an event because it has a kind, a project or a plugin
goal, a bare text, or nothing at all. Only these three can be asked of such a thing, as far as
it has them.
-/

namespace BuildChronicle

/-- The five classes of events. -/
inductive EventClass where
  | execution
  | request
  | result
  | resolutionRequest
  | resolutionResult
deriving DecidableEq, Repr

/-- The name of a class of events. -/
def EventClass.name : EventClass → String
  | execution => "ExecutionEvent"
  | request => "MavenExecutionRequest"
  | result => "MavenExecutionResult"
  | resolutionRequest => "DependencyResolutionRequest"
  | resolutionResult => "DependencyResolutionResult"

/-- All classes of events. -/
def EventClass.all : List EventClass :=
  [execution, request, result, resolutionRequest, resolutionResult]

/-- The class of the given name. -/
def EventClass.ofName? (name : String) : Option EventClass := all.find? (·.name == name)

/-- The name of a class of events together with where it is defined. -/
def EventClass.fullName (eventClass : EventClass) : String :=
  "event_spy.models.events." ++ eventClass.name

/-- A boundary in the life of the session, a project or a plugin goal. -/
structure ExecutionEvent where
  /-- What the boundary is. -/
  kind : Kind
  /-- Only execution kinds mark boundaries. -/
  isExecution : kind.isExecution = true
  /-- The project concerned. -/
  project : Option Project := none
  /-- The plugin goal concerned. -/
  mojoExecution : Option MojoExecution := none
  /-- What made it fail. -/
  exception : Option Thrown := none

/-- The execution event of a kind, unless the kind marks no boundary. -/
def ExecutionEvent.of (kind : Kind) (project : Option Project)
    (mojoExecution : Option MojoExecution) (exception : Option Thrown) :
    Except KindError ExecutionEvent :=
  if isExecution : kind.isExecution = true then
    .ok { kind, isExecution, project, mojoExecution, exception }
  else .error (.notExecution kind)

/-- What the session was asked to do. -/
structure ExecutionRequest where
  /-- The directory of the request. -/
  baseDirectory : Option Path := none
  /-- The descriptor to build. -/
  pom : Option Path := none
  /-- The goals to run. -/
  goals : List String := []
  /-- The settings of the user. -/
  userSettingsFile : Option Path := none
  /-- The settings of the installation. -/
  globalSettingsFile : Option Path := none
  /-- Where resolved artifacts are kept. -/
  localRepositoryPath : Option Path := none
  /-- May questions be asked? -/
  interactiveMode : Bool := true
  /-- Is the network left alone? -/
  offline : Bool := false
  /-- How many threads build. -/
  threadCount : Option String := some "1"

/-- A kind as an event or a handler declares it: a kind, or any other value. -/
inductive Declared where
  | kind (declared : Kind)
  | other (value : Value)

/-- The kind that was declared, if it is one. -/
def Declared.kind? : Declared → Option Kind
  | kind declared => some declared
  | other _ => none

/-- Does the declaration denote this kind? The text of a kind denotes it as well. -/
def Declared.denotes : Declared → Kind → Bool
  | kind declared, asked => declared == asked
  | other (.text text), asked => text == asked.text
  | other _, _ => false

/-- How a declaration is shown. -/
def Declared.display : Declared → String
  | kind declared => declared.text
  | other value => value.display

/-- Whatever is delivered as an event. -/
inductive Event where
  | execution (event : ExecutionEvent)
  | request (event : ExecutionRequest)
  | result (project : Option Project) (exceptions : List Thrown)
  | resolutionRequest (project : Option Project)
  | resolutionResult (resolved : List Dependency) (errors : List Thrown)
  /-- An object of another class that may have a kind, a project and a plugin goal. Like an
  execution event, it may have a place for a plugin goal and none in it. -/
  | lookalike (kind : Option Declared) (project : Option Project)
      (mojoExecution : Option (Option MojoExecution) := none)
  /-- A bare text. -/
  | text (text : String)
  /-- Nothing. -/
  | nothing

namespace Event

/-- The class of an event, if it is a real one. -/
def eventClass? : Event → Option EventClass
  | execution _ => some .execution
  | request _ => some .request
  | result _ _ => some .result
  | resolutionRequest _ => some .resolutionRequest
  | resolutionResult _ _ => some .resolutionResult
  | lookalike _ _ _ | text _ | nothing => none

/-- The name of the class of whatever was delivered. -/
def className (event : Event) : String :=
  match event.eventClass? with
  | some eventClass => eventClass.name
  | none =>
    match event with
    | text _ => "str"
    | nothing => "NoneType"
    | _ => "SimpleNamespace"

/-- The kind of whatever was delivered, if it has one that is a kind. -/
def kind? : Event → Option Kind
  | execution event => some event.kind
  | request _ => some .executionRequest
  | result _ _ => some .executionResult
  | resolutionRequest _ => some .dependencyResolutionRequest
  | resolutionResult _ _ => some .dependencyResolutionResult
  | lookalike kind _ _ => kind.bind Declared.kind?
  | text _ | nothing => none

/-- The project that was delivered along, if any. -/
def project? : Event → Option Project
  | execution event => event.project
  | result project _ => project
  | resolutionRequest project => project
  | lookalike _ project _ => project
  | request _ | resolutionResult _ _ | text _ | nothing => none

/-- What is found where the plugin goal of whatever was delivered is asked for; nothing if it has
no place for one. -/
def mojoExecution? : Event → Option (Option MojoExecution)
  | execution event => some event.mojoExecution
  | lookalike _ _ mojoExecution => mojoExecution
  | request _ | result _ _ | resolutionRequest _ | resolutionResult _ _ | text _ | nothing => none

end Event

/-- Does whatever was delivered belong to a class of events? -/
def EventClass.covers (eventClass : EventClass) (event : Event) : Bool :=
  event.eventClass? == some eventClass

end BuildChronicle
