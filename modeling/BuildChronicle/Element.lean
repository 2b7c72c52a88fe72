import BuildChronicle.Event
import BuildChronicle.Log.Fault
import BuildChronicle.Project.Descriptor
import BuildChronicle.Project.Expression
import BuildChronicle.Text.Colour
import BuildChronicle.Thrown.Trace

/-!
# Elements of a report

Everything that events carry has its element: a node with attributes for the plain data and
children for the rest; data that is missing has no attribute. A missing project, artifact or
exception has an element that says nothing. Paths are reported in canonical form and
artifacts with their identifier, so elements of these are attempts that fail with the first
path that has no canonical form or the first identifier that lacks a coordinate. A project
whose descriptor has an unexpected name is warned about once its paths are known to be good.
-/

namespace BuildChronicle.Element

/-- The word for a truth value in a report. -/
def truth (value : Bool) : String := if value then "true" else "false"

/-- A path in canonical form. -/
def canonical (files : FileSystem) (given : String) : Attempt Fault String :=
  Attempt.ofExcept (match files.canonical given with
    | .ok path => .ok path
    | .error error => .error (.path error))

/-- What is said about a descriptor with an unexpected name. -/
def unexpectedName (file : Path) : String :=
  "[maven-event-spy] Unexpected Maven project file name '" ++ file.name ++
    "', problems may occur"

/-- The file to report for a project descriptor; an unexpected name is warned about. -/
def descriptor (files : FileSystem) (logger : String) (project : Project) (file : Path) :
    Attempt Fault String := do
  let path ← canonical files file.text
  let normalized := Descriptor.normalize project path
  if normalized.expected then return normalized.path
  else
    Attempt.note (Record.of .warning logger (unexpectedName file))
    return normalized.path

/-- The element of a build. -/
def build (build : Build) : Node :=
  ((Node.leaf "build").set? "directory" build.directory).set? "sourceDirectory"
    build.sourceDirectory

/-- The coordinates of a project as attributes of an element. -/
def projectCoordinates (name : String) (project : Project) : Node :=
  (((((Node.leaf name).set? "name" project.name).set?
    "groupId" project.groupId).set?
    "artifactId" project.artifactId).set?
    "version" project.version).set?
    "packaging" project.packaging

/-- The element of a project. -/
def project (files : FileSystem) (logger name : String) :
    Option Project → Attempt Fault Node
  | none => Attempt.succeed (Node.leaf name)
  | some project => do
    let baseDirectory ← Attempt.forOption (fun path : Path => canonical files path.text)
      project.basedir
    let file ← Attempt.forOption (descriptor files logger project) project.file
    let element := ((projectCoordinates name project).set? "baseDir" baseDirectory).set?
      "file" file
    return element.addAll (project.build.map build).toList

/-- The element of an exception, without colours. -/
def exception (name : String) : Option Thrown → Node
  | none => Node.leaf name
  | some thrown =>
    ((Node.leaf name).set "class" thrown.thrownClass.fullName).addAll
      [Node.text "message" (some (Text.withoutColour thrown.message)),
       Node.text "stackTrace" (some (Text.withoutColour thrown.trace))]

/-- The element of a file given as text. -/
def file (files : FileSystem) (name : String) (path : Option String) : Attempt Fault Node := do
  let value ← Attempt.forOption (canonical files) path
  return Node.text name value

/-- The element of a path. -/
def path (files : FileSystem) (name : String) (path : Option Path) : Attempt Fault Node :=
  file files name (path.map Path.text)

/-- The identifier of an artifact. -/
def artifactId (artifact : Artifact) : Attempt Fault String :=
  Attempt.ofExcept (match artifact.id with
    | .ok id => .ok id
    | .error position => .error (.missingPart position))

/-- The element of an artifact that has an identifier. -/
def identified (types : Option TypeRegistry) (name : String) (artifact : Artifact)
    (id : String) : Node :=
  (((((((((Node.leaf name).set? "groupId" artifact.groupId).set?
    "artifactId" artifact.artifactId).set
    "baseVersion" artifact.baseVersion).set?
    "version" artifact.version).set
    "snapshot" (truth artifact.isSnapshot)).set?
    "classifier" artifact.classifier).set?
    "type" artifact.type).set
    "id" id).set?
    "extension" (artifact.extension types)

/-- The element of an artifact. -/
def artifact (types : Option TypeRegistry) (name : String) :
    Option Artifact → Attempt Fault Node
  | none => Attempt.succeed (Node.leaf name)
  | some artifact => do return identified types name artifact (← artifactId artifact)

/-- The `file` element of an artifact that has a file. -/
def artifactFile (files : FileSystem) (artifact : Option Artifact) :
    Attempt Fault (List Node) := do
  let element ← Attempt.forOption (fun path => Element.path files "file" (some path))
    (artifact.bind Artifact.file)
  return element.toList

/-- The element of an artifact, with its file if it has one. -/
def artifactWithFile (files : FileSystem) (types : Option TypeRegistry) (name : String)
    (artifact : Option Artifact) : Attempt Fault Node := do
  let element ← Element.artifact types name artifact
  let file ← artifactFile files artifact
  return element.addAll file

/-- The element of a dependency, with its file if it has one. -/
def dependency (files : FileSystem) (types : Option TypeRegistry) (name : String)
    (dependency : Dependency) : Attempt Fault Node := do
  let element ← Element.artifact types name (some dependency.artifact)
  let file ← artifactFile files (some dependency.artifact)
  return ((element.set? "scope" dependency.scope).set
    "optional" (truth dependency.isOptional)).addAll file

/-- The element of a plugin goal. -/
def mojo (name : String) (mojo : MojoExecution) : Node :=
  ((((((Node.leaf name).set? "executionId" mojo.executionId).set?
    "goal" mojo.goal).set?
    "groupId" mojo.groupId).set?
    "artifactId" mojo.artifactId).set?
    "version" mojo.version).set?
    "lifecyclePhase" mojo.lifecyclePhase

/-- The parameters of a plugin goal that are to be reported and are configured. -/
def parameters (names : List String) (project : Option Project) (mojo : MojoExecution) :
    List Node :=
  names.filterMap fun name =>
    (mojo.configuration.bind (·.child? name)).map fun parameter =>
      Expression.evaluateConfiguration parameter project

/-- The element of a repository that was deployed to. -/
def repository : Option Repository → Node
  | none => Node.leaf "artifactRepository"
  | some repository =>
    (Node.leaf "artifactRepository").addAll
      [Node.text "id" repository.id, Node.text "url" repository.url]

end BuildChronicle.Element
