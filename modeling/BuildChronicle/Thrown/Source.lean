import BuildChronicle.Text.Blank
import BuildChronicle.Text.Fields
import BuildChronicle.Thrown.Refusal

/-!
# Places in source code

An exception about source code that is not well formed says what is wrong and may say where:
the file, the line, the column, the text of the line, and where the wrong part ends. The
facts are the items of a second argument, if there are exactly two arguments. A trace shows
the line and, underneath, marks the wrong part with carets.
-/

namespace BuildChronicle

/-- A place in source code. -/
structure SourcePlace where
  /-- The file. -/
  file : Value := .null
  /-- The number of the line. -/
  line : Value := .null
  /-- The line as it is shown. -/
  code : Option String := none
  /-- How many characters of the shown line stand before the wrong part, and how many carets
  mark it. -/
  carets : Option (Nat × Nat) := none

namespace SourcePlace

/-- The text of a line without the line feeds at its end. -/
def withoutLineEnd (text : String) : List Char :=
  (text.toList.reverse.dropWhile (· == '\n')).reverse

/-- Is the character left out in front of a line? -/
def isIndent (c : Char) : Bool := c == ' ' || c == '\n' || c == '\x0c'

/-- The integer that a column amounts to, if it amounts to one. -/
def integral? : Value → Option Int
  | .real number => number.whole?
  | value => value.integer?

/-- Does an end column say nothing? -/
def saysNothing (endColumn : Value) : Bool :=
  match endColumn with
  | .null => true
  | value => integral? value == some 0

/-- Are two columns the same? -/
def isSame (first second : Value) : Bool :=
  match first, second with
  | .text first, .text second => first == second
  | .real first, .real second => first == second
  | first, second => (integral? first).isSome && integral? first == integral? second

/-- The column after a column. -/
def columnAfter (column : Value) : Except Refusal Value :=
  match column with
  | .record _ => .error .columnRecord
  | .real number => .ok (.real number)
  | value =>
    match value.integer? with
    | some column => .ok (.int (column + 1))
    | none => .error (.columnSequence value.kindName)

/-- The column behind a wrong part: the one that follows its beginning where nothing else is
said. -/
def stopColumn (column endColumn : Value) : Except Refusal Value :=
  match endColumn with
  | .list _ | .record _ => .error (.endColumnChangeable endColumn.kindName)
  | _ =>
    if saysNothing endColumn || isSame column endColumn || integral? endColumn == some (-1) then
      columnAfter column
    else .ok endColumn

/-- The integer below a column. -/
def wholeColumn (column : Value) : Except Refusal Int :=
  match column with
  | .real number => .ok number.truncate
  | value =>
    match value.integer? with
    | some column => .ok column
    | none => .error (.columnNoNumber value.kindName)

/-- The carets for a wrong part of a line that is shown without the given number of characters
at its beginning; none for a part that begins among these. -/
def readCarets (indent : Nat) (column endColumn : Value) :
    Except Refusal (Option (Nat × Nat)) := do
  let stopColumn ← stopColumn column endColumn
  let start ← wholeColumn column
  let stop ← wholeColumn stopColumn
  if start - 1 - indent < 0 then return none
  else match column, stopColumn with
    | .real _, _ => throw .columnFraction
    | _, .real _ => throw .endColumnFraction
    | _, _ => return some ((start - 1 - indent).toNat, (stop - start).toNat)

/-- The place that facts describe. Columns are looked at only where there is a line to show. -/
def ofFacts (file line column text endColumn : Value) : Except Refusal SourcePlace :=
  match text with
  | .null => .ok { file, line }
  | .text text =>
    let whole := withoutLineEnd text
    let shown := whole.dropWhile isIndent
    let place : SourcePlace := { file, line, code := some (String.ofList shown) }
    match column with
    | .null => .ok place
    | column => do
      return { place with carets := ← readCarets (whole.length - shown.length) column endColumn }
  | other => .error (.lineNoText other.kindName)

/-- The place that the items of an argument describe. -/
def ofItems : List Value → Except Refusal SourcePlace
  | [file, line, column, text] => ofFacts file line column text .null
  | [_, _, _, _, _] => .error .noEndColumn
  | [file, line, column, text, _, endColumn] => ofFacts file line column text endColumn
  | items =>
    if items.length < 4 then .error (.tooFewFacts items.length)
    else .error (.tooManyFacts items.length)

/-- The place that the arguments of an exception describe. -/
def ofArguments : List Value → Except Refusal SourcePlace
  | [_, facts] =>
    match facts.items? with
    | some items => ofItems items
    | none => .error (.noFacts facts.kindName)
  | _ => .ok {}

/-- The last component of a file name. -/
def baseName (file : String) : String := ((Text.fields '/' file).getLast?).getD ""

/-- The number of a line as it is written behind a message; minus one where it does not fit a
machine word. -/
def lineText (line : Int) : String := toString (if Number.fitsWord line then line else -1)

/-- What a message says about the place: the file where it is a text, the line where it is an
integer. -/
def behindMessage (place : SourcePlace) : String :=
  match place.file, place.line with
  | .text file, .int line => " (" ++ baseName file ++ ", line " ++ lineText line ++ ")"
  | .text file, _ => " (" ++ baseName file ++ ")"
  | _, .int line => " (line " ++ lineText line ++ ")"
  | _, _ => ""

/-- The text of an exception with the given arguments. -/
def describe (place : SourcePlace) (arguments : List Value) : String :=
  (arguments.head?.getD .null).display ++ place.behindMessage

/-- The carets under a shown line. Tabs and other white space stay what they are in front of
the carets. -/
def caretLine (code : String) (start count : Nat) : String :=
  let front := (code.toList.take start).map fun c => if Text.isSpace c then c else ' '
  "    " ++ String.ofList (front ++ List.replicate count '^') ++ "\n"

/-- The lines that show the code. -/
def codeLines (place : SourcePlace) : String :=
  match place.code with
  | none => ""
  | some code =>
    "    " ++ code ++ "\n" ++
      match place.carets with
      | none => ""
      | some (start, count) => caretLine code start count

/-- The line that names file and line. -/
def whereLine (place : SourcePlace) : String :=
  match place.line with
  | .null => ""
  | line =>
    "  File \x22" ++ (if place.file.truth then place.file.display else "<string>") ++
      "\x22, line " ++ line.display ++ "\n"

/-- What stands behind the message in a trace: the file, if no line names it. -/
def behindTrace (place : SourcePlace) : String :=
  match place.line, place.file with
  | .null, .null => ""
  | .null, file => " (" ++ file.display ++ ")"
  | _, _ => ""

/-- The part of a trace for an exception of the named class with the given arguments. -/
def traceLines (place : SourcePlace) (name : String) (arguments : List Value) : String :=
  let message := arguments.head?.getD .null
  place.whereLine ++ place.codeLines ++ name ++ ": " ++
    (if message.truth then message.display else "<no detail available>") ++
    place.behindTrace ++ "\n"

end SourcePlace

end BuildChronicle
