import BuildChronicle.Settings

/-!
# Loading settings

The settings are read from three environment variables. An environment file is loaded before,
and it may set more variables. An empty level or file name counts as not given, an empty switch
does not.

How a file is loaded into an environment, and which words stand for a truth value, is left to
libraries. Loading settings relies on what they do and on nothing that they are made of.
-/

namespace BuildChronicle.Settings

/-- The variables of a process. -/
abbrev Environment := Table String

/-- The value of a variable, unless it is empty. -/
def nonEmpty? (environment : Environment) (name : String) : Option String :=
  (environment.get? name).filter (· != "")

/-- The values that an environment gives to the settings. -/
def given (environment : Environment) : Table Value :=
  Table.ofList (
    ((environment.get? "MAVEN_SPY_DISABLED").map fun value =>
      ("disabled", Value.text value)).toList ++
    ((nonEmpty? environment "LOG_LEVEL").map fun value =>
      ("log_level", Value.text value)).toList ++
    ((nonEmpty? environment "LOG_FILE").map fun value =>
      ("log_file", Value.text value)).toList)

/-- Why settings could not be loaded. -/
inductive LoadError where
  /-- The settings are not acceptable. -/
  | invalid (complaints : List Complaint)
  /-- A variable cannot have a name with an equals sign. -/
  | illegalName
  /-- Neither a name nor a value can hold the null character. -/
  | nullCharacter
deriving DecidableEq

/-- What is said about it. -/
def LoadError.message : LoadError → String
  | invalid complaints => complaintsMessage complaints
  | illegalName => "illegal environment variable name"
  | nullCharacter => "embedded null byte"

/-- What loading settings leaves to libraries. -/
structure Libraries where
  /-- Load an environment file, given by its text if there is one: the environment afterwards, and
  whether that succeeded. -/
  loadFile : Environment → Option String → Environment × Except LoadError Unit
  /-- The truth value that a word stands for, if it stands for one. -/
  truthOf? : String → Option Bool

/-- Load an environment file and read the settings: the environment afterwards, which keeps what
the file has set, and the settings. -/
def loadWith (libraries : Libraries) (environment : Environment) (file : Option String) :
    Environment × Except LoadError Settings :=
  match libraries.loadFile environment file with
  | (after, .error error) => (after, .error error)
  | (after, .ok ()) => (after, (readBy libraries.truthOf? (given after)).mapError .invalid)

end BuildChronicle.Settings
