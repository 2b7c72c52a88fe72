import BuildChronicle.Log.Record
import BuildChronicle.Path.Resolution

/-!
# The folder of log files

Log files are kept in a folder that is empty in the beginning. A file may be asked for in
folders below it, which are made as they are needed, and outside of it as well. Nothing in
the folder is a link.

Asking for a file first makes the folders on the way to it. Here `..` is followed as an
operating system does, so a folder has to be there before it can be left again. Then the
file itself is opened, at the place that the path amounts to when each `..` takes back the
step before it. What was made on the way stays, even if the file cannot be opened.
-/

namespace BuildChronicle

/-- Why a step along a path fails. -/
inductive StepTrouble where
  /-- Nothing is there. -/
  | notFound
  /-- Something is there already. -/
  | occupied
  /-- What is there is a file. -/
  | notFolder
  /-- The name is too long for anything. -/
  | nameTooLong
deriving DecidableEq, Repr

/-- The number of a trouble, and what is said about it. -/
def StepTrouble.numbered : StepTrouble → Nat × String
  | notFound => (2, "No such file or directory")
  | occupied => (17, "File exists")
  | notFolder => (20, "Not a directory")
  | nameTooLong => (36, "File name too long")

/-- Why a log file cannot be had. -/
inductive LogFileError where
  /-- The path to its folder holds a character that no name can hold. -/
  | unnameable
  /-- A folder on the way cannot be made. -/
  | notMade (path : String) (trouble : StepTrouble)
  /-- The file itself cannot be opened. -/
  | notOpened
deriving DecidableEq

/-- What is said about it. -/
def LogFileError.message : LogFileError → String
  | unnameable => "embedded null byte"
  | notMade path trouble =>
    "[Errno " ++ toString trouble.numbered.1 ++ "] " ++ trouble.numbered.2 ++ ": " ++
      Text.quote path
  | notOpened => "Unable to configure handler 'file'"

/-- The folders that were made and the files that were opened, by place. -/
structure LogFolder where
  /-- The folders that were made. -/
  made : List Place := []
  /-- The files with the records written to them, in order. -/
  files : List (Place × List Record) := []

namespace LogFolder

instance : Inhabited LogFolder := ⟨{}⟩

/-- The greatest number of bytes of a name. -/
def longestName : Nat := 255

/-- The greatest number of bytes of a path. -/
def longestPath : Nat := 4095

/-- The place that a path starts from. -/
def startOf (path : Path) : Place :=
  if path.origin = .relative then Place.here else Place.root

/-- Is there a folder? The start of a path is one, and so is everything above it. -/
def hasFolder (folder : LogFolder) (place : Place) : Bool :=
  place.trail.head?.all (· == "..") || folder.made.contains place

/-- Is there a file? -/
def hasFile (folder : LogFolder) (place : Place) : Bool :=
  folder.files.any (·.1 == place)

/-- Enter a component of a folder, which has to be a folder again. -/
def enter (folder : LogFolder) (place : Place) (component : String) :
    Except StepTrouble Place :=
  if component = ".." then .ok place.up
  else if longestName < component.utf8ByteSize then .error .nameTooLong
  else if folder.hasFolder (place.down component) then .ok (place.down component)
  else if folder.hasFile (place.down component) then .error .notFolder
  else .error .notFound

/-- Follow components from folder to folder. -/
def reach (folder : LogFolder) (start : Place) (components : List String) :
    Except StepTrouble Place :=
  components.foldlM folder.enter start

/-- Make a single folder, its components given from the last one back. -/
def makeOne (folder : LogFolder) (path : Path) : List String → Except StepTrouble LogFolder
  | [] => .error .occupied
  | last :: above => do
    if longestPath < path.text.utf8ByteSize then throw .nameTooLong
    let parent ← folder.reach (startOf path) above.reverse
    if last = ".." then throw .occupied
    if longestName < last.utf8ByteSize then throw .nameTooLong
    if folder.hasFolder (parent.down last) || folder.hasFile (parent.down last) then
      throw .occupied
    return { folder with made := parent.down last :: folder.made }

/-- A folder that could not be made is as good as made if it is there already. -/
def settle (folder : LogFolder) (path : Path) :
    Except StepTrouble LogFolder → LogFolder × Except LogFileError Unit
  | .ok made => (made, .ok ())
  | .error trouble =>
    if trouble = .occupied ∧ (folder.reach (startOf path) path.components).toBool then
      (folder, .ok ())
    else (folder, .error (.notMade path.text trouble))

/-- Make a folder and, if they are missing, the folders above it; its components are given
from the last one back. -/
def make (origin : Origin) (folder : LogFolder) :
    List String → LogFolder × Except LogFileError Unit
  | [] => (folder, .ok ())
  | last :: above =>
    let path : Path := ⟨origin, (last :: above).reverse⟩
    match folder.makeOne path (last :: above) with
    | .error .notFound =>
      match make origin folder above with
      | (folder, .error error) => (folder, .error error)
      | (folder, .ok ()) => folder.settle path (folder.makeOne path (last :: above))
    | outcome => folder.settle path outcome

/-- The place that a path amounts to when each `..` takes back the step before it. -/
def placeOf (path : Path) : Place :=
  path.components.foldl (fun place component =>
    if component = ".." then place.up else place.down component) (startOf path)

/-- Can a file stand at the place that a path amounts to? -/
def admits (folder : LogFolder) (path : Path) : Bool :=
  !folder.hasFolder (placeOf path) && !path.text.toList.contains '\x00' &&
    (placeOf path).trail.all (·.utf8ByteSize ≤ longestName) &&
    path.text.utf8ByteSize ≤ longestPath

/-- Open a file; one that is not there yet is empty. -/
def openFile (folder : LogFolder) (path : Path) : LogFolder × Except LogFileError Place :=
  if folder.admits path then
    let place := placeOf path
    (if folder.hasFile place then folder
     else { folder with files := folder.files ++ [(place, [])] }, .ok place)
  else (folder, .error .notOpened)

/-- Have a file, making the folders on the way to it. -/
def request (folder : LogFolder) (path : Path) : LogFolder × Except LogFileError Place :=
  let above := path.components.reverse.drop 1
  if above.any (·.toList.contains '\x00') then (folder, .error .unnameable)
  else match make path.origin folder above with
    | (folder, .error error) => (folder, .error error)
    | (folder, .ok ()) => folder.openFile path

/-- Write a record at the end of a file. -/
def append (folder : LogFolder) (place : Place) (record : Record) : LogFolder :=
  { folder with files := folder.files.map fun (other, records) =>
      (other, if other = place then records ++ [record] else records) }

/-- Does a place lie in the folder? -/
def isInside (place : Place) : Bool := !place.anchored && !place.trail.contains ".."

/-- Does the first path come no later than the second, component by component? -/
def byComponents (first second : List String × List Record) : Bool :=
  !List.lex second.1 first.1 fun later earlier => decide (later < earlier)

/-- The files in the folder with their records, in the order of their paths. -/
def listing (folder : LogFolder) : List (String × List Record) :=
  let inside := folder.files.filter fun (place, _) => isInside place
  ((inside.map fun (place, records) => (place.trail.reverse, records)).mergeSort
    byComponents).map fun (steps, records) => (Text.interpose "/" steps, records)

end LogFolder

end BuildChronicle
