import BuildChronicle.Text.DecimalDigit

/-!
# Versions

A snapshot that was uploaded carries the time of its build and a build number in place of
the word `SNAPSHOT`: a dash, a date of eight digits, a point, a time of six digits, a dash
and the number. The base version of such a version ends in `SNAPSHOT` again; the base
version of any other version is the version itself. A line feed at the very end of a
version with a build time is ignored, and no other line feed may stand in one.
-/

namespace BuildChronicle.Version

/-- The word that marks a version under development. -/
def snapshotWord : String := "SNAPSHOT"

/-- The ending of versions under development. -/
def snapshotEnding : String := "-SNAPSHOT"

/-- Take exactly so many digits off the front. -/
def takeDigits : Nat → List Char → Option (List Char)
  | 0, text => some text
  | _ + 1, [] => none
  | count + 1, c :: rest => if Text.isDecimalDigit c then takeDigits count rest else none

/-- Take one expected character off the front. -/
def takeChar (expected : Char) : List Char → Option (List Char)
  | [] => none
  | c :: rest => if c = expected then some rest else none

/-- Take one or more digits off the front, as many as there are. -/
def takeNumber : List Char → Option (List Char)
  | [] => none
  | c :: rest =>
    if Text.isDecimalDigit c then some (rest.dropWhile Text.isDecimalDigit) else none

/-- Ignore one line feed at the front. -/
def skipLineFeed : List Char → List Char
  | '\n' :: rest => rest
  | text => text

/-- What stands before the build time, all read backwards: the version is given from its last
character, and so is the answer. -/
def beforeBuildTime? (version : List Char) : Option (List Char) := do
  let text ← takeNumber (skipLineFeed version)
  let text ← takeChar '-' text
  let text ← takeDigits 6 text
  let text ← takeChar '.' text
  let text ← takeDigits 8 text
  let text ← takeChar '-' text
  if text.contains '\n' then none else some text

/-- What stands before the build time of a version, if it has one. -/
def stem? (version : String) : Option String :=
  (beforeBuildTime? version.toList.reverse).map fun text => String.ofList text.reverse

/-- The version that all builds of a snapshot have in common. -/
def base (version : String) : String :=
  match stem? version with
  | some stem => stem ++ snapshotEnding
  | none => version

/-- Does a base version denote a snapshot? -/
def isSnapshot (base : String) : Bool := snapshotWord.toList.isSuffixOf base.toList

/-- Does a version end like those under development? -/
def endsAsSnapshot (version : String) : Bool := snapshotEnding.toList.isSuffixOf version.toList

end BuildChronicle.Version
