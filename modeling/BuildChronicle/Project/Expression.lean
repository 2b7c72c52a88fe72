import BuildChronicle.Project

/-!
# Expressions in configurations

Configuration texts may refer to properties of the project as `${name}`, the name being one
or more characters other than a closing brace. Evaluating a text replaces every reference
that is known and keeps the others; replaced text is not read again. References are found
from the left, and the name of a reference runs up to the first closing brace, whatever
stands in between.

Coordinates, the directory of the project and the directories of its build are known under
names of their own and come before properties of the same name.
-/

namespace BuildChronicle.Expression

/-- The characters up to the first closing brace, if there is one. -/
def nameUpToBrace? : List Char → Option (List Char)
  | [] => none
  | c :: rest => if c = '\x7d' then some [] else (nameUpToBrace? rest).map (c :: ·)

/-- The name in the reference that a text begins with. -/
def reference? : List Char → Option (List Char)
  | '$' :: c :: rest =>
    if c = '\x7b' then (nameUpToBrace? rest).filter (!·.isEmpty) else none
  | _ => none

/-- How a reference is written. -/
def written (name : List Char) : List Char := '$' :: '\x7b' :: name ++ ['\x7d']

/-- Leave out the given number of characters and evaluate the references after them. -/
def evaluateFrom (known : String → Option String) : Nat → List Char → List Char
  | _, [] => []
  | skip + 1, _ :: rest => evaluateFrom known skip rest
  | 0, c :: rest =>
    match reference? (c :: rest) with
    | none => c :: evaluateFrom known 0 rest
    | some name =>
      let replacement := match known (String.ofList name) with
        | some value => value.toList
        | none => written name
      replacement ++ evaluateFrom known (name.length + 2) rest

/-- A text with the references replaced whose names are known. -/
def evaluate (known : String → Option String) (text : String) : String :=
  String.ofList (evaluateFrom known 0 text.toList)

/-- The text that a configuration node stands for: its value unless that is empty or
missing, else the default it declares. -/
def source? (node : Node) : Option String :=
  match node.value.filter (· != "") with
  | some value => some value
  | none => node.attributes.get? "default-value"

mutual

/-- A configuration node with all references evaluated, in its children as well. -/
def evaluateNode (known : String → Option String) : Node → Node
  | .mk name value attributes children =>
    let evaluated := match source? (.mk name value attributes []) with
      | some text => some (evaluate known text)
      | none => value
    .mk name evaluated attributes (evaluateNodes known children)

/-- Several configuration nodes with all references evaluated. -/
def evaluateNodes (known : String → Option String) : List Node → List Node
  | [] => []
  | node :: rest => evaluateNode known node :: evaluateNodes known rest

end

/-- The names that a project gives to its own data, with their values where it has them. -/
def ownNames (project : Project) : List (String × Option String) :=
  let basedir := project.basedir.map Path.text
  [("project.groupId", project.groupId),
   ("project.artifactId", project.artifactId),
   ("project.version", project.version),
   ("project.name", project.name),
   ("project.packaging", project.packaging),
   ("project.basedir", basedir),
   ("basedir", basedir),
   ("project.build.directory", project.build.bind Build.directory),
   ("project.build.outputDirectory", project.build.bind Build.outputDirectory),
   ("project.build.sourceDirectory", project.build.bind Build.sourceDirectory),
   ("project.build.testOutputDirectory", project.build.bind Build.testOutputDirectory)]

/-- Everything that references can name in a project; nothing without a project. -/
def table : Option Project → Table String
  | none => Table.empty
  | some project =>
    project.properties.extend ((ownNames project).filterMap fun (name, value) =>
      value.map fun value => (name, value))

/-- A configuration node with its references evaluated for a project. -/
def evaluateConfiguration (node : Node) (project : Option Project) : Node :=
  evaluateNode (table project).get? node

end BuildChronicle.Expression
