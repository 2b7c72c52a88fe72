import BuildChronicle.Artifact.Version
import BuildChronicle.Path
import BuildChronicle.Text.Missing

/-!
# Artifacts

An artifact is what a build produces or depends on: its coordinates, its file once there is
one, and how artifacts of its type are packaged. Its base version defaults to the one its
version has; without either there is no artifact. Any other coordinate may be missing. The
identifier joins the coordinates with colons, so it takes all of them; an empty classifier
counts as none.
-/

namespace BuildChronicle

/-- How artifacts of a type are packaged. -/
structure ArtifactType where
  /-- The name of the type. -/
  name : Option String
  /-- The extension of its files. -/
  extension : Option String
  /-- The classifier of its artifacts, if the type implies one. -/
  classifier : Option String := none
deriving DecidableEq, Repr

/-- The known artifact types, at most one of each name. -/
structure TypeRegistry where
  /-- The types. -/
  types : List ArtifactType := []

namespace TypeRegistry

/-- Enter a type, replacing the one of the same name. -/
def register (registry : TypeRegistry) (type : ArtifactType) : TypeRegistry :=
  ⟨registry.types.filter (·.name != type.name) ++ [type]⟩

/-- The type of the given name, if it is known. -/
def get? (registry : TypeRegistry) (name : Option String) : Option ArtifactType :=
  registry.types.find? (·.name == name)

/-- The registry of the given types, later ones replacing earlier ones of the same name. -/
def ofTypes (types : List ArtifactType) : TypeRegistry := types.foldl register {}

/-- A type with a name and an extension, and perhaps a classifier. -/
def stockType (name extension : String) (classifier : Option String := none) : ArtifactType :=
  ⟨some name, some extension, classifier⟩

/-- The types that every build knows. -/
def stockTypes : List ArtifactType := [
  stockType "pom" "pom",
  stockType "jar" "jar",
  stockType "test-jar" "jar" (some "tests"),
  stockType "maven-plugin" "jar",
  stockType "ejb" "jar",
  stockType "ejb-client" "jar" (some "client"),
  stockType "java-source" "jar" (some "sources"),
  stockType "javadoc" "jar" (some "javadoc"),
  stockType "war" "war",
  stockType "ear" "ear",
  stockType "rar" "rar"]

/-- The registry of the stock types. -/
def stock : TypeRegistry := ofTypes stockTypes

/-- Entering a type makes it the one of its name and changes no other. -/
theorem get?_register (registry : TypeRegistry) (type : ArtifactType) (name : Option String) :
    (registry.register type).get? name =
      if name = type.name then some type else registry.get? name := by
  by_cases same : name = type.name
  · subst same
    have absent : (registry.types.filter (·.name != type.name)).find? (·.name == type.name) =
        none := by
      simp [List.find?_eq_none]
    simp [register, get?, List.find?_append, absent]
  · have kept : (registry.types.filter (·.name != type.name)).find? (·.name == name) =
        registry.types.find? (·.name == name) := by
      rw [List.find?_filter]
      congr 1
      funext other
      by_cases found : other.name = name
      · simp [found, same]
      · simp [found]
    have other : (type.name == name) = false := beq_eq_false_iff_ne.mpr fun h => same h.symm
    simp [register, get?, List.find?_append, kept, other, same]

end TypeRegistry

/-- The coordinates, the file and the packaging of a build product. -/
structure Artifact where
  /-- The group that publishes the artifact. -/
  groupId : Option String
  /-- The name within the group. -/
  artifactId : Option String
  /-- The version, with a build time if it is an uploaded snapshot. -/
  version : Option String
  /-- The name of its type. -/
  type : Option String := some "jar"
  /-- What distinguishes it from other artifacts of the same project. -/
  classifier : Option String := none
  /-- The file that holds it. -/
  file : Option Path := none
  /-- How it is packaged, where that is known without looking up its type. -/
  packaging : Option ArtifactType := none
  /-- The version it shares with all builds of the same snapshot. -/
  baseVersion : String
deriving DecidableEq

/-- Why there is no artifact. -/
inductive ArtifactError where
  /-- There is neither a version nor a base version. -/
  | noVersion
deriving DecidableEq

/-- What is said about it. -/
def ArtifactError.message : ArtifactError → String
  | noVersion => "expected string or bytes-like object, got 'NoneType'"

namespace Artifact

/-- The base version of an artifact: the one it is given, else that of its version. -/
def baseFor (given version : Option String) : Except ArtifactError String :=
  match given, version with
  | some base, _ => .ok base
  | none, some version => .ok (Version.base version)
  | none, none => .error .noVersion

/-- Is the artifact under development? -/
def isSnapshot (artifact : Artifact) : Bool := Version.isSnapshot artifact.baseVersion

/-- The classifier, unless it is empty. -/
def effectiveClassifier (artifact : Artifact) : Option String :=
  artifact.classifier.filter (· != "")

/-- Group, name, type, classifier if any, and base version, joined by colons; or the position
of the first of them that is missing. -/
def id (artifact : Artifact) : Except Nat String :=
  (Text.allGiven ([artifact.groupId, artifact.artifactId, artifact.type] ++
    artifact.effectiveClassifier.toList.map some ++ [some artifact.baseVersion])).map
      (Text.interpose ":")

/-- The extension of its file: from its own packaging, else from its type where that is
registered, else the type itself. -/
def extension (artifact : Artifact) (types : Option TypeRegistry) : Option String :=
  match artifact.packaging with
  | some packaging => packaging.extension
  | none =>
    match types.bind (·.get? artifact.type) with
    | some type => type.extension
    | none => artifact.type

end Artifact

/-- An artifact that a project was found to need. -/
structure Dependency where
  /-- What is needed. -/
  artifact : Artifact
  /-- When it is needed. -/
  scope : Option String := some "compile"
  /-- May it be left out? -/
  isOptional : Bool := false
deriving DecidableEq

end BuildChronicle
