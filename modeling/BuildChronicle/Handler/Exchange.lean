import BuildChronicle.Element
import BuildChronicle.Handler

/-!
# Handlers of requests and results

The request and the result of the session are each reported as a node of their own. Of the
resolution of dependencies only the result is reported: the dependencies that were found,
and the exceptions that stood in the way. It does not say which project it is about, so the
report names the project that was last seen.
-/

namespace BuildChronicle.Handler

/-- The node of an event that is no execution event, before anything hangs below it. -/
def exchangeHeader (eventClass : EventClass) (time : String) : Node :=
  ((Node.leaf eventClass.name).set "class" eventClass.fullName).set "_time" time

/-- The elements of exceptions. -/
def exceptionElements (exceptions : List Thrown) : List Node :=
  exceptions.map fun thrown => Element.exception "exception" (some thrown)

/-- What a request asks for. -/
def requestElement (baseDirectory : Option String) (request : ExecutionRequest) : Node :=
  (((((Node.leaf "request").set? "baseDirectory" baseDirectory).set
    "goals" (Text.interpose "," request.goals)).set
    "interactiveMode" (Element.truth request.interactiveMode)).set
    "offline" (Element.truth request.offline)).set?
    "threadCount" request.threadCount

/-- The report of the request of the session. -/
def requestNode (surroundings : Surroundings) (request : ExecutionRequest) :
    Attempt Fault Node := do
  let files := surroundings.files
  let baseDirectory ← Attempt.forOption (fun path : Path => Element.canonical files path.text)
    request.baseDirectory
  let pom ← Element.path files "pom" request.pom
  let user ← Element.path files "userSettingsFile" request.userSettingsFile
  let installation ← Element.path files "globalSettingsFile" request.globalSettingsFile
  let repository ← Element.path files "localRepository" request.localRepositoryPath
  return (exchangeHeader .request surroundings.time).addAll
    [requestElement baseDirectory request, pom, user, installation, repository]

/-- The report of the result of the session. -/
def resultNode (logger : String) (surroundings : Surroundings) (project : Option Project)
    (exceptions : List Thrown) : Attempt Fault Node := do
  let project ← Element.project surroundings.files logger "project" project
  return (exchangeHeader .result surroundings.time).addAll
    (project :: exceptionElements exceptions)

/-- The elements of the dependencies that were resolved to a file. -/
def dependencyElements (surroundings : Surroundings) (resolved : List Dependency) :
    Attempt Fault (List Node) :=
  Attempt.forEach (Element.dependency surroundings.files surroundings.types "dependency")
    (resolved.filter (·.artifact.file.isSome))

/-- The report of the result of resolving dependencies. -/
def resolutionNode (logger : String) (surroundings : Surroundings) (resolved : List Dependency)
    (errors : List Thrown) : Attempt Fault Node := do
  let project ← Attempt.forOption
    (fun project => Element.project surroundings.files logger "project" (some project))
    surroundings.project
  let dependencies ← dependencyElements surroundings resolved
  return (exchangeHeader .resolutionResult surroundings.time).addAll
    (project.toList ++ [(Node.leaf "resolvedDependencies").addAll dependencies] ++
      exceptionElements errors)

/-- Report the request and the results that are reported; leave everything else alone. -/
def reportExchange (logger : String) (surroundings : Surroundings) :
    Event → Attempt Fault Reaction
  | .request request => do return .reported (← requestNode surroundings request)
  | .result project exceptions => do
    return .reported (← resultNode logger surroundings project exceptions)
  | .resolutionResult resolved errors => do
    return .reported (← resolutionNode logger surroundings resolved errors)
  | _ => Attempt.succeed Reaction.declined

/-- A handler that reports a request or a result. -/
def exchanging (logger : Option String) (name : String) (kind : Kind) (payload : EventClass) :
    Handler where
  name
  kind := .kind kind
  payload := some payload.covers
  process := reportExchange (loggerName logger name)

/-- A handler that consumes events without reporting them. -/
def silent (name : String) (kind : Kind) (payload : EventClass) (matching : Matching) :
    Handler where
  name
  kind := .kind kind
  payload := some payload.covers
  matching
  process := fun _ _ => Attempt.succeed Reaction.consumed

end BuildChronicle.Handler
