import BuildChronicle.Settings.EnvFile
import BuildChronicle.Settings.Loading

/-!
# Settings from the environment

These are the libraries that settings are loaded with. A file is loaded by setting the
variables that it binds and that the environment lacks; those it has, even empty ones, stay.
A variable of the environment can say that files are to be left alone. Truth values are told
by one of a few words.

A process cannot have every variable. One that it cannot have is refused when it is to be set,
and those before it stay set.
-/

namespace BuildChronicle.Settings

/-- Can a process have this variable? -/
def checkVariable (name value : String) : Except LoadError Unit :=
  if name.toList.contains '\x00' || value.toList.contains '\x00' then .error .nullCharacter
  else if name.toList.contains '=' then .error .illegalName
  else .ok ()

/-- Set the variables that have a value in a list and that the environment lacks, one after the
other. -/
def adopt (environment : Environment) :
    List (String × Option String) → Environment × Except LoadError Unit
  | [] => (environment, .ok ())
  | (_, none) :: rest => adopt environment rest
  | (name, some value) :: rest =>
    if environment.contains name then adopt environment rest
    else
      match checkVariable name value with
      | .error error => (environment, .error error)
      | .ok () => adopt (environment.set name value) rest

/-- The variable that says whether environment files are left alone. Only newer readers of such
files ask for it. -/
def fileSwitch : String := "PYTHON_DOTENV_DISABLED"

/-- The words, in small letters, with which it says so. -/
def fileSwitchWords : List String := ["1", "true", "t", "yes", "y"]

/-- Are environment files left alone? -/
def ignoresFiles (environment : Environment) : Bool :=
  match environment.get? fileSwitch with
  | some word => fileSwitchWords.contains (Text.smalls word)
  | none => false

/-- The statements that count of a file, given by its text if there is one. -/
def statementsOf (environment : Environment) (file : Option String) : List EnvFile.Binding :=
  if ignoresFiles environment then [] else (file.map EnvFile.parse).getD []

/-- Set the variables that a file binds and that the environment lacks. -/
def loadFile (environment : Environment) (file : Option String) :
    Environment × Except LoadError Unit :=
  adopt environment (EnvFile.resolve environment (statementsOf environment file)).entries

/-- The libraries that settings are loaded with. -/
def Libraries.known : Libraries := ⟨Settings.loadFile, truthOfWord?⟩

/-- The settings of an environment and the text of an environment file, if there is one. -/
def loadFrom (environment : Environment) (file : Option String) : Except LoadError Settings :=
  (loadWith .known environment file).2

end BuildChronicle.Settings
