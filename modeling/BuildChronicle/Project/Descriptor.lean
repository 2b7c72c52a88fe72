import BuildChronicle.Project

/-!
# Project descriptors

A project is described by a file called `pom.xml`. Some build steps put a generated file in
its place under another name; the report names the descriptor that the project was written
with. The name of a flattened descriptor can be configured at the flatten plugin: by an
execution that runs its goal, or else for the whole plugin, the first setting in the order
of declaration counting. A setting without text ends the search as well.
-/

namespace BuildChronicle.Descriptor

/-- The usual name of a project descriptor. -/
def usualName : String := "pom.xml"

/-- Names under which build steps put generated descriptors. -/
def aliases : List String :=
  [".flattened-pom.xml", ".git-versioned-pom.xml", "dependency-reduced-pom.xml"]

/-- The key of the plugin that flattens descriptors. -/
def flattenPlugin : String := "org.codehaus.mojo:flatten-maven-plugin"

/-- The goal that flattens a descriptor. -/
def flattenGoal : String := "flatten"

/-- The setting for the name of the flattened descriptor. -/
def flattenSetting : String := "flattenedPomFilename"

/-- The setting in a configuration. -/
def settingIn? (configuration : Option Node) : Option Node :=
  configuration.bind (·.child? flattenSetting)

/-- The setting of an execution that runs the flattening goal. -/
def executionSetting? (execution : PluginExecution) : Option Node :=
  if flattenGoal ∈ execution.goals then settingIn? execution.configuration else none

/-- The setting of a plugin, its executions coming first. -/
def pluginSetting? (plugin : Plugin) : Option Node :=
  if plugin.key = flattenPlugin then
    plugin.executions.findSome? executionSetting? <|> settingIn? plugin.configuration
  else none

/-- The name that a project configures for its flattened descriptor. -/
def flattenedName? (project : Project) : Option String :=
  (project.plugins.findSome? pluginSetting?).bind Node.value

/-- The directory and the name of an absolute path: what stands before and after the last
slash. -/
def splitPath (path : String) : String × String :=
  let (name, rest) := path.toList.reverse.span (· != '/')
  (String.ofList (rest.drop 1).reverse, String.ofList name.reverse)

/-- What a descriptor's file is reported as, and whether its name was expected. -/
structure Normalized where
  /-- The path to report. -/
  path : String
  /-- Is the name a descriptor of this project can have? -/
  expected : Bool
deriving DecidableEq

/-- Report a known name for a descriptor as the usual one, in the same directory. -/
def normalize (project : Project) (path : String) : Normalized :=
  let (directory, name) := splitPath path
  if name = usualName then ⟨path, true⟩
  else if name ∈ aliases ∨ flattenedName? project = some name then
    ⟨directory ++ "/" ++ usualName, true⟩
  else ⟨path, false⟩

end BuildChronicle.Descriptor
