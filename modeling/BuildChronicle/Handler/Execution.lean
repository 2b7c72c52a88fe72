import BuildChronicle.Element
import BuildChronicle.Handler

/-!
# Handlers of execution events

An execution event is reported as one node: the project, the plugin goal with the wanted
parameters, details that depend on the handler, and the exception. Details are the artifacts
of a project that was built, or the repository that a project was deployed to.
-/

namespace BuildChronicle.Handler

/-- What a handler adds to the report of an execution event, given its logger. -/
abbrev Details := String → Surroundings → ExecutionEvent → Attempt Fault (List Node)

/-- Add nothing. -/
def noDetails : Details := fun _ _ _ => Attempt.succeed []

/-- Add the main artifact and the attached artifacts of the project. -/
def artifactDetails : Details := fun _ surroundings event =>
  match event.project with
  | none => Attempt.succeed []
  | some project => do
    let element := Element.artifactWithFile surroundings.files surroundings.types "artifact"
    let main ← element project.artifact
    let attached ← Attempt.forEach (fun artifact => element (some artifact))
      project.attachedArtifacts
    return [main, (Node.leaf "attachedArtifacts").addAll attached]

/-- The record that a project has nowhere to be deployed to. -/
def noRepository (logger : String) (event : ExecutionEvent) (project : Project) : Record :=
  { Record.of .debug logger ("No distribution repository for " ++ project.id) with
    eventKind := some (.text event.kind.text) }

/-- Add the repository that the project was deployed to. Which one that is cannot be told of a
project without version. -/
def deploymentDetails : Details := fun logger _ event =>
  match event.project with
  | none => Attempt.succeed [Element.repository none]
  | some project => do
    if project.version.isNone then Attempt.fail (.noAttribute "NoneType" "endswith")
    let repository := project.deploymentRepository
    if repository.isNone then Attempt.note (noRepository logger event project)
    return [Element.repository repository]

/-- The node of an execution event before anything hangs below it. -/
def executionHeader (time : String) (event : ExecutionEvent) : Node :=
  (((Node.leaf "ExecutionEvent").set "type" event.kind.text).set
    "class" EventClass.execution.fullName).set "_time" time

/-- The element of the plugin goal with the wanted parameters. -/
def pluginElement (parameters : List String) (event : ExecutionEvent) (mojo : MojoExecution) :
    Node :=
  (Element.mojo "plugin" mojo).addAll (Element.parameters parameters event.project mojo)

/-- The report of an execution event. -/
def executionNode (logger : String) (parameters : List String) (details : Details)
    (surroundings : Surroundings) (event : ExecutionEvent) : Attempt Fault Node := do
  let project ← Element.project surroundings.files logger "project" event.project
  let details ← details logger surroundings event
  return (executionHeader surroundings.time event).addAll
    ([project] ++ (event.mojoExecution.map (pluginElement parameters event)).toList ++ details ++
      (event.exception.map fun thrown => Element.exception "exception" (some thrown)).toList)

/-- Report execution events, unless no parameters are given. -/
def reportExecution (logger : String) (parameters : Option (List String)) (details : Details)
    (surroundings : Surroundings) (event : Event) : Attempt Fault Reaction :=
  match parameters, event with
  | none, _ => Attempt.succeed Reaction.declined
  | some parameters, .execution event => do
    return .reported (← executionNode logger parameters details surroundings event)
  | some _, other => Attempt.fail (.noAttribute other.className "type")

/-- A handler that reports execution events of a kind, perhaps only those of a goal. -/
def reporting (logger : Option String) (name : String) (kind : Declared) (goal : Value)
    (parameters : Option (List String)) (details : Details) : Handler where
  name
  kind
  goal
  payload := some EventClass.execution.covers
  matching := .byGoal parameters
  process := reportExecution (loggerName logger name) parameters details

/-- A handler that counts the events it accepts and always gives the same answer. -/
def recording (name : String) (kind : Declared) (goal : Value) (payload : Option EventClass)
    (answer : Value) : Handler where
  name
  kind
  goal
  payload := payload.map EventClass.covers
  tally := .counting
  process := fun _ _ => Attempt.succeed (.answered answer)

end BuildChronicle.Handler
