import BuildChronicle.Text.Fields

/-!
# Paths

A path is kept in a form in which repeated slashes, components `.` and a slash at the end
have been dropped. Components `..` stay, because what they lead to depends on links. A path
begins with no slash, one slash or exactly two; more than two count as one. The path
without slash and components is written `.`.
-/

namespace BuildChronicle

/-- What a path starts from. -/
inductive Origin where
  /-- No slash: the working directory. -/
  | relative
  /-- One slash, or more than two. -/
  | root
  /-- Exactly two slashes. -/
  | doubleRoot
deriving DecidableEq, Repr

/-- The slashes of an origin. -/
def Origin.text : Origin → String
  | relative => ""
  | root => "/"
  | doubleRoot => "//"

/-- The origin of a written path. -/
def Origin.of : List Char → Origin
  | '/' :: '/' :: '/' :: _ => root
  | '/' :: '/' :: _ => doubleRoot
  | '/' :: _ => root
  | _ => relative

/-- The origin of a path that was cut into fields at its slashes. -/
def Origin.ofFields : List String → Origin
  | "" :: "" :: "" :: _ :: _ => root
  | "" :: "" :: _ :: _ => doubleRoot
  | "" :: _ :: _ => root
  | _ => relative

/-- A path in its kept form. -/
structure Path where
  /-- What the path starts from. -/
  origin : Origin
  /-- The components, none of them empty or `.`. -/
  components : List String
deriving DecidableEq, Repr

namespace Path

/-- Does a component say nothing? -/
def isVoid (component : String) : Bool := component == "" || component == "."

/-- The path of a written text. -/
def parse (text : String) : Path where
  origin := Origin.of text.toList
  components := (Text.fields '/' text).filter (!isVoid ·)

/-- How a path is written. -/
def text (path : Path) : String :=
  if path.origin = .relative ∧ path.components = [] then "."
  else path.origin.text ++ Text.interpose "/" path.components

/-- The last component; a path without components has an empty name. -/
def name (path : Path) : String := path.components.getLast?.getD ""

/-- Parsing keeps only components that say something. -/
theorem components_parse (text : String) :
    ∀ component ∈ (parse text).components, isVoid component = false := by
  intro component member
  have kept := (List.mem_filter.1 member).2
  simpa using kept

end Path

end BuildChronicle
