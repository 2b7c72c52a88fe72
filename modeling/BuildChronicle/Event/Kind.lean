import BuildChronicle.Value

/-!
# Kinds of events

Every event of a build has a kind. Most kinds mark a boundary in the life of the session, a
project or a plugin goal; these are the execution kinds. The other four belong to the
request and the result of the session and of the resolution of dependencies.
-/

namespace BuildChronicle

/-- The kind of an event. -/
inductive Kind where
  | projectDiscoveryStarted
  | sessionStarted
  | sessionEnded
  | projectSkipped
  | projectStarted
  | projectSucceeded
  | projectFailed
  | mojoSkipped
  | mojoStarted
  | mojoSucceeded
  | mojoFailed
  | forkStarted
  | forkSucceeded
  | forkFailed
  | forkedProjectStarted
  | forkedProjectSucceeded
  | forkedProjectFailed
  | executionRequest
  | executionResult
  | dependencyResolutionRequest
  | dependencyResolutionResult
deriving DecidableEq, Repr

namespace Kind

/-- All kinds, the execution kinds first. -/
def all : List Kind := [
  projectDiscoveryStarted, sessionStarted, sessionEnded, projectSkipped, projectStarted,
  projectSucceeded, projectFailed, mojoSkipped, mojoStarted, mojoSucceeded, mojoFailed,
  forkStarted, forkSucceeded, forkFailed, forkedProjectStarted, forkedProjectSucceeded,
  forkedProjectFailed, executionRequest, executionResult, dependencyResolutionRequest,
  dependencyResolutionResult]

/-- The text that denotes a kind. -/
def text : Kind → String
  | projectDiscoveryStarted => "ProjectDiscoveryStarted"
  | sessionStarted => "SessionStarted"
  | sessionEnded => "SessionEnded"
  | projectSkipped => "ProjectSkipped"
  | projectStarted => "ProjectStarted"
  | projectSucceeded => "ProjectSucceeded"
  | projectFailed => "ProjectFailed"
  | mojoSkipped => "MojoSkipped"
  | mojoStarted => "MojoStarted"
  | mojoSucceeded => "MojoSucceeded"
  | mojoFailed => "MojoFailed"
  | forkStarted => "ForkStarted"
  | forkSucceeded => "ForkSucceeded"
  | forkFailed => "ForkFailed"
  | forkedProjectStarted => "ForkedProjectStarted"
  | forkedProjectSucceeded => "ForkedProjectSucceeded"
  | forkedProjectFailed => "ForkedProjectFailed"
  | executionRequest => "ExecutionRequest"
  | executionResult => "ExecutionResult"
  | dependencyResolutionRequest => "DependencyResolutionRequest"
  | dependencyResolutionResult => "DependencyResolutionResult"

/-- The kinds that mark no boundary of an execution. -/
def exchangeKinds : List Kind :=
  [executionRequest, executionResult, dependencyResolutionRequest, dependencyResolutionResult]

/-- Does the kind mark a boundary of an execution? -/
def isExecution (kind : Kind) : Bool := !exchangeKinds.contains kind

/-- A word with an underscore in front of every capital but the first character. -/
def underscored : List Char → List Char
  | [] => []
  | first :: rest => first :: rest.flatMap fun c => if c.isUpper then ['_', c] else [c]

/-- The name of a kind as a constant: its words in capitals, joined by underscores. -/
def constantName (kind : Kind) : String :=
  String.ofList ((underscored kind.text.toList).map Char.toUpper)

/-- The kind that a text denotes. -/
def ofText? (text : String) : Option Kind := all.find? (·.text == text)

/-- Every kind is listed. -/
theorem mem_all (kind : Kind) : kind ∈ all := by
  cases kind <;> decide

/-- The text of a kind denotes that kind and no other. -/
theorem ofText?_text (kind : Kind) : ofText? kind.text = some kind := by
  cases kind <;> decide

end Kind

/-- Why no event can be made of a kind. -/
inductive KindError where
  /-- What is shown like this denotes no kind. -/
  | unknown (shown : String)
  /-- The kind is not an execution kind. -/
  | notExecution (kind : Kind)
deriving DecidableEq

/-- What is said about such a kind. -/
def KindError.message : KindError → String
  | unknown shown => shown ++ " is not a valid EventKind"
  | notExecution kind => kind.text ++ " is not an execution event type"

/-- The kind that a text denotes, or the error that it denotes none. -/
def Kind.ofText (text : String) : Except KindError Kind :=
  match ofText? text with
  | some kind => .ok kind
  | none => .error (.unknown (Text.quote text))

/-- The kind that a value denotes; only texts denote kinds. -/
def Kind.ofValue : Value → Except KindError Kind
  | .text text => ofText text
  | other => .error (.unknown other.literal)

end BuildChronicle
