import BuildChronicle.Handler.Exchange
import BuildChronicle.Handler.Execution

/-!
# The standard handlers

Fourteen handlers report a build. The end of the session and requests to resolve
dependencies are consumed silently. The start, the success and the failure of projects and
plugin goals are reported; a project that succeeded with its artifacts. Three goals are
reported in a way of their own: the two that run tests with the directory of their reports,
and the one that deploys with the repository.
-/

namespace BuildChronicle.Handler

/-- The goal that runs unit tests. -/
def unitTestGoal : String := "org.apache.maven.plugins:maven-surefire-plugin:test"

/-- The goal that runs integration tests. -/
def integrationTestGoal : String :=
  "org.apache.maven.plugins:maven-failsafe-plugin:integration-test"

/-- The goal that deploys a project. -/
def deployGoal : String := "org.apache.maven.plugins:maven-deploy-plugin:deploy"

/-- The parameter for the directory that test reports are written to. -/
def reportsDirectory : String := "reportsDirectory"

/-- A handler of all execution events of a kind. -/
def forKind (logger : Option String) (name : String) (kind : Kind) (details : Details) :
    Handler :=
  reporting logger name (.kind kind) .null (some []) details

/-- A handler of the successes of a plugin goal. -/
def forGoal (logger : Option String) (name goal : String) (parameters : List String)
    (details : Details) : Handler :=
  reporting logger name (.kind .mojoSucceeded) (.text goal) (some parameters) details

/-- The standard handlers in the order of their registration, with a logger if one is given. -/
def standard (logger : Option String) : List Handler := [
  silent "SessionEndedHandler" .sessionEnded .execution (.byGoal (some [])),
  forKind logger "ProjectStartedExecutionHandler" .projectStarted noDetails,
  forKind logger "ProjectSucceededExecutionHandler" .projectSucceeded artifactDetails,
  forKind logger "ProjectFailedExecutionHandler" .projectFailed noDetails,
  forKind logger "MojoStartedExecutionHandler" .mojoStarted noDetails,
  forKind logger "MojoSucceededExecutionHandler" .mojoSucceeded noDetails,
  forKind logger "MojoFailedExecutionHandler" .mojoFailed noDetails,
  forGoal logger "SurefireTestExecutionHandler" unitTestGoal [reportsDirectory] noDetails,
  forGoal logger "FailsafeTestExecutionHandler" integrationTestGoal [reportsDirectory] noDetails,
  forGoal logger "DeployDeployExecutionHandler" deployGoal [] deploymentDetails,
  exchanging logger "MavenExecutionRequestHandler" .executionRequest .request,
  exchanging logger "MavenExecutionResultHandler" .executionResult .result,
  silent "DependencyResolutionRequestHandler" .dependencyResolutionRequest .resolutionRequest
    .byKind,
  exchanging logger "DependencyResolutionResultHandler" .dependencyResolutionResult
    .resolutionResult]

/-- The standard handler of the given name. -/
def standard? (logger : Option String) (name : String) : Option Handler :=
  (standard logger).find? (·.name == name)

end BuildChronicle.Handler
