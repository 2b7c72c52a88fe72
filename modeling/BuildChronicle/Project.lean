import BuildChronicle.Artifact
import BuildChronicle.Node
import BuildChronicle.Table

/-!
# Projects

A project is a module of a build: its coordinates, where it lies, how it is built and where
it is deployed. Its build declares plugins; a plugin declares executions, each a list of
goals with a configuration of its own. Any coordinate may be missing; keys and identifiers
then show a word in its place.
-/

namespace BuildChronicle

/-- A declared run of some goals of a plugin. -/
structure PluginExecution where
  /-- The name of the execution. -/
  id : Option String := some "default"
  /-- The goals to run. -/
  goals : List String := []
  /-- The phase of the build to run them in. -/
  phase : Option String := none
  /-- The configuration for these goals. -/
  configuration : Option Node := none

/-- A plugin that a build declares. -/
structure Plugin where
  /-- The group that publishes the plugin. -/
  groupId : Option String
  /-- The name within the group. -/
  artifactId : Option String
  /-- The declared version. -/
  version : Option String := none
  /-- The configuration for all its goals. -/
  configuration : Option Node := none
  /-- The declared executions. -/
  executions : List PluginExecution := []

/-- Group and name joined by a colon. -/
def Plugin.key (plugin : Plugin) : String :=
  Text.orMissing plugin.groupId ++ ":" ++ Text.orMissing plugin.artifactId

/-- A plugin goal that is being executed. -/
structure MojoExecution where
  /-- The group that publishes the plugin. -/
  groupId : Option String
  /-- The plugin's name within the group. -/
  artifactId : Option String
  /-- The version of the plugin. -/
  version : Option String
  /-- The goal. -/
  goal : Option String
  /-- The name of the execution that asked for it. -/
  executionId : Option String := some "default"
  /-- The phase of the build it runs in. -/
  lifecyclePhase : Option String := none
  /-- The configuration it runs with. -/
  configuration : Option Node := none

/-- Group, plugin and goal joined by colons. -/
def MojoExecution.key (mojo : MojoExecution) : String :=
  Text.orMissing mojo.groupId ++ ":" ++ Text.orMissing mojo.artifactId ++ ":" ++
    Text.orMissing mojo.goal

/-- How a project is built. -/
structure Build where
  /-- Where build products go. -/
  directory : Option String := none
  /-- Where compiled sources go. -/
  outputDirectory : Option String := none
  /-- Where the sources are. -/
  sourceDirectory : Option String := none
  /-- Where compiled tests go. -/
  testOutputDirectory : Option String := none
  /-- The declared plugins. -/
  plugins : List Plugin := []

/-- A repository that artifacts are deployed to. -/
structure Repository where
  /-- The name of the repository. -/
  id : Option String
  /-- Its location. -/
  url : Option String

/-- A module of a build. -/
structure Project where
  /-- The group that publishes the project. -/
  groupId : Option String
  /-- The name within the group. -/
  artifactId : Option String
  /-- The version. -/
  version : Option String
  /-- A name for people. -/
  name : Option String := none
  /-- The type of artifact it builds. -/
  packaging : Option String := some "jar"
  /-- The directory of the project. -/
  basedir : Option Path := none
  /-- The descriptor of the project. -/
  file : Option Path := none
  /-- How it is built. -/
  build : Option Build := none
  /-- The main artifact. -/
  artifact : Option Artifact := none
  /-- Further artifacts. -/
  attachedArtifacts : List Artifact := []
  /-- Properties that expressions may refer to. -/
  properties : Table String := Table.empty
  /-- Where releases are deployed. -/
  distributionRepository : Option Repository := none
  /-- Where snapshots are deployed, if not with the releases. -/
  distributionSnapshotRepository : Option Repository := none

namespace Project

/-- The declared plugins; none without a build. -/
def plugins (project : Project) : List Plugin :=
  match project.build with
  | some build => build.plugins
  | none => []

/-- Group, name, packaging and version joined by colons. -/
def id (project : Project) : String :=
  Text.orMissing project.groupId ++ ":" ++ Text.orMissing project.artifactId ++ ":" ++
    Text.orMissing project.packaging ++ ":" ++ Text.orMissing project.version

/-- The repository the project is deployed to: a snapshot goes to the repository for
snapshots if there is one, anything else to the repository for releases. -/
def deploymentRepository (project : Project) : Option Repository :=
  if project.version.any Version.endsAsSnapshot then
    project.distributionSnapshotRepository <|> project.distributionRepository
  else project.distributionRepository

end Project

end BuildChronicle
