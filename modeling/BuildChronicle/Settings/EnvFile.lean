import BuildChronicle.Table
import BuildChronicle.Text.Blank
import BuildChronicle.Text.Fields

/-!
# Files of environment variables

An environment file is a sequence of statements, usually one a line: a name, an equals sign
and a value. White space around them is ignored, the word `export` may stand in front, and
a comment may follow. A name may stand in single quotes, a value in single or double
quotes. A quoted value may have several lines; a quote after a backslash belongs to it, unless
it would never end then. A name without an equals sign is declared and has no value.

A statement that breaks these rules is dropped together with the rest of the line on which
it breaks them; reading goes on with the next line.

Values may refer to variables as `${NAME}` or `${NAME:-default}`. The environment comes
first, then earlier statements of the file, then the default.
-/

namespace BuildChronicle.EnvFile

/-- A part that was read and the text after it, or the text where reading failed. -/
abbrev Part (α : Type) := Except (List Char) (α × List Char)

/-- The text with every end of line written as a line feed, and without a byte order mark. -/
def normalLines : List Char → List Char
  | [] => []
  | '\r' :: '\n' :: rest => '\n' :: normalLines rest
  | '\r' :: rest => '\n' :: normalLines rest
  | c :: rest => c :: normalLines rest

/-- Drop the byte order mark that a file may begin with. -/
def withoutMark : List Char → List Char
  | c :: rest => if c = '\ufeff' then rest else c :: rest
  | [] => []

/-- Does a character end a line? -/
def isLineEnd (c : Char) : Bool := c == '\n' || c == '\r'

/-- The text after the blanks at its front. -/
def skipBlanks (text : List Char) : List Char := text.dropWhile Text.isBlank

/-- The text after the line that it begins with. -/
def skipLine (text : List Char) : List Char := (text.dropWhile (!isLineEnd ·)).drop 1

/-- The text after the word `export`, if the word and a blank are there. -/
def skipExport : List Char → List Char
  | 'e' :: 'x' :: 'p' :: 'o' :: 'r' :: 't' :: c :: rest =>
    if Text.isBlank c then skipBlanks rest else 'e' :: 'x' :: 'p' :: 'o' :: 'r' :: 't' :: c :: rest
  | text => text

/-- Can a character stand in a name without quotes? -/
def isNameChar (c : Char) : Bool := c != '=' && c != '#' && !Text.isSpace c

/-- A name; nothing where a comment begins. -/
def readName (text : List Char) : Part (Option (List Char)) :=
  match text with
  | '#' :: _ => .ok (none, text)
  | '\x27' :: rest =>
    match rest.span (· != '\x27') with
    | (_ :: _, []) | ([], _) => .error text
    | (name, _ :: after) => .ok (some name, after)
  | _ =>
    match text.span isNameChar with
    | ([], _) => .error text
    | (name, after) => .ok (some name, after)

/-- What a backslash and a character stand for between single quotes. -/
def singleEscape (c : Char) : List Char :=
  if c = '\\' || c = '\x27' then [c] else ['\\', c]

/-- What a backslash and a character stand for between double quotes. -/
def doubleEscape (c : Char) : List Char :=
  if c = '\\' || c = '\x27' || c = '\x22' then [c]
  else if c = 'a' then ['\x07']
  else if c = 'b' then ['\x08']
  else if c = 'f' then ['\x0c']
  else if c = 'n' then ['\n']
  else if c = 'r' then ['\r']
  else if c = 't' then ['\t']
  else if c = 'v' then ['\x0b']
  else ['\\', c]

/-- A text up to its closing quote, as it is written, and what is after it; nothing if the quote is
missing. A quote after a backslash is the closing one only if there is none behind it. -/
def readQuoted? (quote : Char) (escaped : Bool) : List Char → Option (List Char × List Char)
  | [] => none
  | c :: rest =>
    if c = quote then
      if escaped then
        match readQuoted? quote false rest with
        | some (text, after) => some (c :: text, after)
        | none => some ([], rest)
      else some ([], rest)
    else (readQuoted? quote (c == '\\') rest).map fun (text, after) => (c :: text, after)

/-- A text with its escapes resolved. -/
def unescape (resolve : Char → List Char) : List Char → List Char
  | '\\' :: c :: rest => resolve c ++ unescape resolve rest
  | c :: rest => c :: unescape resolve rest
  | [] => []

/-- A line without the comment that white space and a number sign begin. -/
def withoutComment : List Char → List Char
  | [] => []
  | c :: rest =>
    if Text.isSpace c && (rest.dropWhile Text.isSpace).head? == some '#' then []
    else c :: withoutComment rest

/-- A text without the white space at its end. -/
def trimEnd (text : List Char) : List Char :=
  (text.reverse.dropWhile Text.isSpace).reverse

/-- A value, from after the equals sign on. -/
def readValue (text : List Char) : Part (List Char) :=
  let start := skipBlanks text
  if start.head? == some '#' && start.length != text.length then .ok ([], start)
  else match start with
    | '\x27' :: rest =>
      match readQuoted? '\x27' false rest with
      | some (text, after) => .ok (unescape singleEscape text, after)
      | none => .error start
    | '\x22' :: rest =>
      match readQuoted? '\x22' false rest with
      | some (text, after) => .ok (unescape doubleEscape text, after)
      | none => .error start
    | _ =>
      let (line, after) := start.span (!isLineEnd ·)
      .ok (trimEnd (withoutComment line), after)

/-- The end of a line, perhaps after blanks and a comment. -/
def readLineEnd (text : List Char) : Part Unit :=
  let start := skipBlanks text
  let after := match start with
    | '#' :: _ => start.dropWhile (!isLineEnd ·)
    | _ => start
  match after with
  | [] => .ok ((), [])
  | c :: rest => if isLineEnd c then .ok ((), rest) else .error after

/-- A name with its value, if an equals sign follows it. -/
structure Binding where
  /-- The name. -/
  name : String
  /-- The value; none if the name is only declared. -/
  value : Option String
deriving DecidableEq

/-- A statement, from its first character on; nothing if it is only a comment. -/
def readStatement (text : List Char) : Except (List Char) (Option Binding × List Char) := do
  let (name, text) ← readName (skipExport text)
  let (value, text) ← match skipBlanks text with
    | '=' :: rest => (readValue rest).map fun (value, after) => (some value, after)
    | other => .ok (none, other)
  let (_, text) ← readLineEnd text
  return (name.map fun name => ⟨String.ofList name, value.map String.ofList⟩, text)

/-- The statements of a text, at most as many as the first argument says. -/
def readStatements : Nat → List Char → List Binding
  | 0, _ => []
  | count + 1, text =>
    match text.dropWhile Text.isSpace with
    | [] => []
    | start =>
      match readStatement start with
      | .ok (binding, rest) => binding.toList ++ readStatements count rest
      | .error rest => readStatements count (skipLine rest)

/-- The statements of a file in order. A statement takes at least one character. -/
def parse (file : String) : List Binding :=
  let text := normalLines (withoutMark file.toList)
  readStatements text.length text

/-- A reference within a value. -/
structure Reference where
  /-- The name referred to. -/
  name : String
  /-- What to use in its place if it has no value. -/
  default : Option String
  /-- The number of characters after the opening brace, the closing one included. -/
  length : Nat

/-- The default of a reference, from after the colon on, with its length and its brace. -/
def readDefault? (nameLength : Nat) (name : List Char) : List Char → Option Reference
  | '-' :: rest =>
    match rest.span (· != '\x7d') with
    | (default, _ :: _) =>
      some ⟨String.ofList name, some (String.ofList default), nameLength + default.length + 3⟩
    | (_, []) => none
  | _ => none

/-- The reference after an opening brace. -/
def reference? (text : List Char) : Option Reference :=
  match text.span fun c => c != '\x7d' && c != ':' with
  | (name, c :: rest) =>
    if c = ':' then readDefault? name.length name rest
    else some ⟨String.ofList name, none, name.length + 1⟩
  | (_, []) => none

/-- Leave out the given number of characters and resolve the references after them. -/
def interpolateFrom (known : String → Option (Option String)) : Nat → List Char → List Char
  | _, [] => []
  | skip + 1, _ :: rest => interpolateFrom known skip rest
  | 0, c :: rest =>
    let found := match c, rest with
      | '$', d :: after => if d = '\x7b' then reference? after else none
      | _, _ => none
    match found with
    | none => c :: interpolateFrom known 0 rest
    | some reference =>
      let value := match known reference.name with
        | some value => value.getD ""
        | none => reference.default.getD ""
      value.toList ++ interpolateFrom known (reference.length + 1) rest

/-- What a name refers to: its value in the environment, else what an earlier statement says,
which may be that it has no value. -/
def lookUp (environment : Table String) (earlier : Table (Option String)) (name : String) :
    Option (Option String) :=
  match environment.get? name with
  | some value => some (some value)
  | none => earlier.get? name

/-- The names of a file with their values, references resolved; the last statement of a name
counts. -/
def resolve (environment : Table String) (statements : List Binding) : Table (Option String) :=
  statements.foldl (fun earlier binding =>
    earlier.set binding.name (binding.value.map fun value =>
      String.ofList (interpolateFrom (lookUp environment earlier) 0 value.toList)))
    Table.empty

end BuildChronicle.EnvFile
