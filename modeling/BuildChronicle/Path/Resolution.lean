import BuildChronicle.Path
import BuildChronicle.Text.Quoted

/-!
# Canonical paths

A file system is known by its symbolic links and its working directory; every other place
is a directory. The canonical path of a place is the absolute path along which no link and
no `..` is left.

A path is resolved component by component. A link is resolved from the directory it stands
in, and what it resolves to is remembered. If a link is met again while it is still being
resolved, resolution stops: the components that no level has worked off are appended as
they are, and the outcome is checked by following it the way an operating system would,
through at most forty links. Only that check reports a loop, so a loop that later `..`
components undo is not reported. Components that begin with a slash of their own take the
place of what they would be appended to, and exactly two slashes stay two.
-/

namespace BuildChronicle

/-- Symbolic links at absolute places, and the working directory unless it was deleted. -/
structure FileSystem where
  /-- The steps from the root to each link, and the path it holds. -/
  links : List (List String × String) := []
  /-- The steps from the root to the working directory. -/
  workingDirectory : Option (List String) := none

/-- A place reached while a path is resolved, by the steps taken from the root or from the
working directory, the latest first. -/
structure Place where
  /-- Were the steps taken from the root? -/
  anchored : Bool
  /-- The steps, the latest first. -/
  trail : List String
deriving DecidableEq

namespace Place

/-- The root. -/
def root : Place := ⟨true, []⟩

/-- The working directory. -/
def here : Place := ⟨false, []⟩

/-- Enter a component of the place. -/
def down (place : Place) (component : String) : Place :=
  ⟨place.anchored, component :: place.trail⟩

/-- Leave for the directory above. Nothing is above the root; above the working directory
the step itself is kept. -/
def up : Place → Place
  | ⟨true, trail⟩ => ⟨true, trail.tail⟩
  | ⟨false, []⟩ => ⟨false, [".."]⟩
  | ⟨false, last :: trail⟩ =>
    if last = ".." then ⟨false, ".." :: last :: trail⟩ else ⟨false, trail⟩

end Place

/-- Steps from an origin that nothing has worked off. -/
structure Itinerary where
  /-- What the steps start from. -/
  origin : Origin
  /-- The steps in order. -/
  steps : List String
deriving DecidableEq

/-- Go on with further components; components that begin with a slash start again. -/
def Itinerary.append (itinerary : Itinerary) (components : List String) : Itinerary :=
  match Origin.ofFields components with
  | .relative => { itinerary with steps := itinerary.steps ++ components }
  | origin => ⟨origin, components⟩

/-- The itinerary that leads to a place. -/
def Place.itinerary (place : Place) : Itinerary :=
  ⟨if place.anchored then .root else .relative, place.trail.reverse⟩

/-- One step along a trail, the latest step first, without regard to links. -/
def normalStep (trail : List String) (component : String) : List String :=
  if Path.isVoid component then trail
  else if component = ".." then trail.tail
  else component :: trail

/-- The steps from the root that are left when `..` takes back the step before it. -/
def normalSteps (components : List String) : List String :=
  (components.foldl normalStep []).reverse

namespace FileSystem

/-- The steps from the root to a place, if it can be located. -/
def locate? (files : FileSystem) (place : Place) : Option (List String) :=
  if place.anchored then some place.trail.reverse
  else files.workingDirectory.map fun directory =>
    normalSteps (directory ++ place.trail.reverse)

/-- The path that a link at this place holds, if a link is there. -/
def target? (files : FileSystem) (place : Place) : Option String :=
  (files.locate? place).bind fun steps => files.links.lookup steps

end FileSystem

/-- What is remembered of the links met: where they led, or that they are still being
resolved. The latest entry of a place counts. -/
abbrev Memory := List (Place × Option Place)

/-- How the resolution of a path ends. -/
inductive Resolution where
  /-- All components were worked off. -/
  | settled (place : Place) (memory : Memory)
  /-- A link was met that is still being resolved; this much was left to do. -/
  | unfinished (itinerary : Itinerary)
  /-- Links led to links deeper than can be followed. -/
  | tooDeep
  /-- A component holds a character that no name can hold. -/
  | unnameable

namespace FileSystem

/-- The place from which the path in a link is resolved. -/
def startOf (place : Place) (target : String) : Place :=
  if Origin.of target.toList = .relative then place else Place.root

/-- Resolve components from a place, where `follow` resolves the path in a link. -/
def walk (files : FileSystem) (follow : Memory → Place → List String → Resolution) :
    Memory → Place → List String → Resolution
  | memory, place, [] => .settled place memory
  | memory, place, component :: rest =>
    if Path.isVoid component then walk files follow memory place rest
    else if component = ".." then walk files follow memory place.up rest
    else if component.toList.contains '\x00' then .unnameable
    else
      let next := place.down component
      match files.target? next with
      | none => walk files follow memory next rest
      | some target =>
        match memory.lookup next with
        | some (some known) => walk files follow memory known rest
        | some none => .unfinished (next.itinerary.append rest)
        | none =>
          match follow ((next, none) :: memory) (startOf place target) (Text.fields '/' target) with
          | .settled reached memory =>
            walk files follow ((next, some reached) :: memory) reached rest
          | .unfinished itinerary => .unfinished (itinerary.append rest)
          | .tooDeep => .tooDeep
          | .unnameable => .unnameable

/-- Resolve components from a place, following links within links to the given depth. -/
def resolve (files : FileSystem) : Nat → Memory → Place → List String → Resolution
  | 0, _, _, _ => .tooDeep
  | depth + 1, memory, place, components =>
    walk files (resolve files depth) memory place components

/-- How deep links within links are followed. In truth the interpreter sets this limit, and it is
lower the more calls are open when the resolution begins. This constant stands for it. -/
def greatestDepth : Nat := 1000

/-- The resolution of a path. -/
def resolution (files : FileSystem) (path : Path) : Resolution :=
  resolve files greatestDepth []
    (if path.origin = .relative then Place.here else Place.root) path.components

/-- Does following steps from the root, as an operating system does, come to an end? Here
`follow` goes on after one more link. -/
def reaches (files : FileSystem) (follow : List String → List String → Bool) :
    List String → List String → Bool
  | _, [] => true
  | trail, component :: rest =>
    if Path.isVoid component then reaches files follow trail rest
    else if component = ".." then reaches files follow trail.tail rest
    else match files.links.lookup (component :: trail).reverse with
      | none => reaches files follow (component :: trail) rest
      | some target =>
        let start := if Origin.of target.toList = .relative then trail else []
        follow start (Text.fields '/' target ++ rest)

/-- Does following steps from the root come to an end within the given number of links? -/
def reachesWithin (files : FileSystem) : Nat → List String → List String → Bool
  | 0 => reaches files fun _ _ => false
  | links + 1 => reaches files (reachesWithin files links)

/-- The number of links that an operating system follows for one path. -/
def mostLinks : Nat := 40

end FileSystem

/-- Why a path has no canonical form. -/
inductive PathTrouble where
  /-- Following the path never ends. -/
  | loop (path : String)
  /-- The path is relative and the working directory was deleted. -/
  | noWorkingDirectory
  /-- Links led to links deeper than can be followed. -/
  | tooDeep
deriving DecidableEq

/-- What is said about such a path. -/
def PathTrouble.message : PathTrouble → String
  | loop path => "Symlink loop from " ++ Text.quote path
  | noWorkingDirectory => "[Errno 2] No such file or directory"
  | tooDeep => "maximum recursion depth exceeded"

/-- The error of asking for a canonical path. -/
inductive PathError where
  /-- The path, as it was given, has no canonical form. -/
  | notCanonical (given : String) (trouble : PathTrouble)
  /-- A component holds a character that no name can hold. -/
  | unnameable
deriving DecidableEq

/-- What is said about the error. -/
def PathError.message : PathError → String
  | notCanonical given trouble => "Cannot canonicalize " ++ given ++ ": " ++ trouble.message
  | unnameable => "embedded null byte"

namespace FileSystem

/-- The absolute path without `..` that an itinerary amounts to. -/
def absolute (files : FileSystem) (itinerary : Itinerary) : Option Path :=
  if itinerary.origin = .relative then
    files.workingDirectory.map fun directory =>
      ⟨.root, normalSteps (directory ++ itinerary.steps)⟩
  else some ⟨itinerary.origin, normalSteps itinerary.steps⟩

/-- Finish an itinerary: make it absolute and check that it can be followed. -/
def finish (files : FileSystem) (given : String) (itinerary : Itinerary) :
    Except PathError String :=
  match files.absolute itinerary with
  | none => .error (.notCanonical given .noWorkingDirectory)
  | some path =>
    if path.components.any (·.toList.contains '\x00') then .error .unnameable
    else if files.reachesWithin mostLinks [] path.components then .ok path.text
    else .error (.notCanonical given (.loop path.text))

/-- The canonical path of a path given as text. -/
def canonical (files : FileSystem) (given : String) : Except PathError String :=
  match files.resolution (Path.parse given) with
  | .settled place _ => files.finish given place.itinerary
  | .unfinished itinerary => files.finish given itinerary
  | .tooDeep => .error (.notCanonical given .tooDeep)
  | .unnameable => .error .unnameable

end FileSystem

end BuildChronicle
