import BuildChronicle.Log.Record
import BuildChronicle.Number.Word
import BuildChronicle.Table
import BuildChronicle.Text.Capital

/-!
# Settings

Three settings say whether events are reported at all, which log records are shown, and
whether the log goes to a file as well. They are given as values of any kind. A truth value
may be given as a truth value, as zero or one, or as a word; which words stand for a truth value
is told by whoever reads the settings. The name of a level may be given in any case. Every
setting that is not acceptable is complained about, in the order of the settings; unknown
settings are ignored.
-/

namespace BuildChronicle

/-- What the reporting of a build is set to. -/
structure Settings where
  /-- Is nothing reported? -/
  disabled : Bool := false
  /-- The least severe level that is logged. -/
  logLevel : Level := .info
  /-- A file for the log besides the console. -/
  logFile : Option String := none
deriving DecidableEq

/-- What is wrong with a setting. -/
inductive Complaint where
  /-- The switch is given by a word or number that is no truth value. -/
  | notTruthWord
  /-- The switch is given by something that cannot be a truth value. -/
  | notTruthKind
  /-- The level is not given by a text. -/
  | levelNotText
  /-- No level has this name. -/
  | unknownLevel (given : String)
  /-- The file is not given by a text. -/
  | fileNotText
deriving DecidableEq

/-- What is said about a setting: its name, the rule it breaks, and what was expected. -/
def Complaint.message : Complaint → String
  | notTruthWord =>
    "disabled: bool_parsing: Input should be a valid boolean, unable to interpret input"
  | notTruthKind => "disabled: bool_type: Input should be a valid boolean"
  | levelNotText => "log_level: string_type: Input should be a valid string"
  | unknownLevel given => "log_level: value_error: Value error, unknown log level: " ++ given
  | fileNotText => "log_file: string_type: Input should be a valid string"

namespace Settings

/-- The words for false, in small letters. -/
def falseWords : List String := ["0", "off", "f", "false", "n", "no"]

/-- The words for true, in small letters. -/
def trueWords : List String := ["1", "on", "t", "true", "y", "yes"]

/-- The truth value of one of these words, in any case of ASCII letters. -/
def truthOfWord? (word : String) : Option Bool :=
  let small := String.ofList (word.toList.map Char.toLower)
  if small ∈ falseWords then some false
  else if small ∈ trueWords then some true
  else none

/-- The truth value of a whole number: zero and one have one, no other number has. -/
def truthOfWhole (number : Int) : Except Complaint Bool :=
  if number = 0 then .ok false
  else if number = 1 then .ok true
  else if Number.fitsWord number then .error .notTruthWord
  else .error .notTruthKind

/-- The truth value that a value stands for, given those of words. A fractional number without
fraction counts as a whole number. -/
def readTruth (truthOf? : String → Option Bool) : Value → Except Complaint Bool
  | .bool truth => .ok truth
  | .text word =>
    match truthOf? word with
    | some truth => .ok truth
    | none => .error .notTruthWord
  | .int number => truthOfWhole number
  | .real number =>
    match number.whole? with
    | some whole => truthOfWhole whole
    | none => .error .notTruthKind
  | _ => .error .notTruthKind

/-- The level that a value names. -/
def readLevel : Value → Except Complaint Level
  | .text given =>
    match Level.ofName? (Text.capitals given) with
    | some level => .ok level
    | none => .error (.unknownLevel given)
  | _ => .error .levelNotText

/-- The file that a value names; null names none. -/
def readFile : Value → Except Complaint (Option String)
  | .text file => .ok (some file)
  | .null => .ok none
  | _ => .error .fileNotText

/-- A setting that keeps its default where it is not given. -/
def readOr {α : Type} (default : α) (read : Value → Except Complaint α) :
    Option Value → Except Complaint α
  | none => .ok default
  | some value => read value

/-- The complaint about a setting, if there is one. -/
def complaint? {α : Type} : Except Complaint α → Option Complaint
  | .ok _ => none
  | .error complaint => some complaint

/-- Settings from the values they are given, or every complaint about them, given the truth values
of words. -/
def readBy (truthOf? : String → Option Bool) (given : Table Value) :
    Except (List Complaint) Settings :=
  let disabled := readOr false (readTruth truthOf?) (given.get? "disabled")
  let logLevel := readOr .info readLevel (given.get? "log_level")
  let logFile := readOr none readFile (given.get? "log_file")
  match disabled, logLevel, logFile with
  | .ok disabled, .ok logLevel, .ok logFile => .ok { disabled, logLevel, logFile }
  | _, _, _ =>
    .error ([complaint? disabled, complaint? logLevel, complaint? logFile].filterMap id)

/-- Settings from the values they are given, or every complaint about them. -/
def read : Table Value → Except (List Complaint) Settings := readBy truthOfWord?

end Settings

/-- All complaints in one message. -/
def complaintsMessage (complaints : List Complaint) : String :=
  Text.interpose "; " (complaints.map Complaint.message)

end BuildChronicle
