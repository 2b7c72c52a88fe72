import BuildChronicle.Number.Layout
import BuildChronicle.Text.Fields
import BuildChronicle.Text.Missing
import BuildChronicle.Text.Quoted

/-!
# Values of unknown kind

Arguments of exceptions, arguments of log messages, settings, context entries and the
declarations of handlers are given as data of any kind. A value has two texts: its
*literal*, in which strings are quoted, and its *display*, in which a string stands for
itself. Inside lists and records strings are always quoted.

Every value counts as true or as false: null, zero and whatever is empty count as false.
-/

namespace BuildChronicle

/-- Data of any kind. Whole numbers have any size; fractional numbers are a kind of their own,
even where nothing follows the point. -/
inductive Value where
  | null
  | bool (truth : Bool)
  | int (number : Int)
  | real (number : Binary64)
  | text (string : String)
  | list (items : List Value)
  | record (fields : List (String × Value))

namespace Value

instance : Inhabited Value := ⟨null⟩

/-- The word for a truth value. -/
def truthText (truth : Bool) : String := if truth then "True" else "False"

mutual

/-- The text of a value with its strings quoted. -/
def literal : Value → String
  | null => Text.missingWord
  | bool truth => truthText truth
  | int number => toString number
  | real number => number.text
  | text string => Text.quote string
  | list items => "[" ++ Text.interpose ", " (literals items) ++ "]"
  | record fields => "\x7b" ++ Text.interpose ", " (fieldLiterals fields) ++ "\x7d"

/-- The literals of the items of a list. -/
def literals : List Value → List String
  | [] => []
  | item :: rest => literal item :: literals rest

/-- The literals of the fields of a record, each after its quoted name. -/
def fieldLiterals : List (String × Value) → List String
  | [] => []
  | (name, value) :: rest => (Text.quote name ++ ": " ++ literal value) :: fieldLiterals rest

end

/-- The text of a value: a string as it is, anything else as its literal. -/
def display : Value → String
  | text string => string
  | other => other.literal

/-- The text of a value that is to be recorded; null is not recorded. -/
def recorded : Value → Option String
  | null => none
  | other => some other.display

/-- The literal of several values at once, as the arguments of one call. -/
def argumentsLiteral (values : List Value) : String :=
  "(" ++ Text.interpose ", " (literals values) ++ ")"

/-- The literal of a value with every character beyond ASCII escaped. -/
def asciiLiteral (value : Value) : String := Text.withNumbered value.literal

/-- Does a value count as true? -/
def truth : Value → Bool
  | null => false
  | bool truth => truth
  | int number => number != 0
  | real number => !number.isZero
  | text string => !string.isEmpty
  | list items => !items.isEmpty
  | record fields => !fields.isEmpty

/-- The integer that a value is, where truth values count as zero and one. -/
def integer? : Value → Option Int
  | int number => some number
  | bool truth => some (if truth then 1 else 0)
  | _ => none

/-- The items of a value that has some: those of a list, the characters of a string, the names
of the fields of a record. -/
def items? : Value → Option (List Value)
  | text string => some (string.toList.map fun c => text (String.ofList [c]))
  | list items => some items
  | record fields => some (fields.map fun field => text field.1)
  | _ => none

/-- The word for the kind of a value. -/
def kindName : Value → String
  | null => "NoneType"
  | bool _ => "bool"
  | int _ => "int"
  | real _ => "float"
  | text _ => "str"
  | list _ => "list"
  | record _ => "dict"

end Value

end BuildChronicle
