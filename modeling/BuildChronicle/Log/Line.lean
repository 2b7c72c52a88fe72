import BuildChronicle.Log.Record
import BuildChronicle.Log.Template
import BuildChronicle.Thrown.Trace

/-!
# Log lines

A log line is a JSON object on one line, in ASCII: the time, the level, the logger, the
message, where in the program the record was written, the trace of an exception if one was
handed over, and the event kind if one was. Characters outside printable ASCII are escaped
by their units of sixteen bits, two for characters beyond the first 65536.
-/

namespace BuildChronicle.Log

/-- The escape of one unit of sixteen bits. -/
def unitEscape (unit : Nat) : List Char := '\\' :: 'u' :: Text.hexadecimal 4 unit

/-- A character within a JSON string. -/
def jsonChar (c : Char) : List Char :=
  if c = '\x22' then ['\\', '\x22']
  else if c = '\\' then ['\\', '\\']
  else if c = '\n' then ['\\', 'n']
  else if c = '\r' then ['\\', 'r']
  else if c = '\t' then ['\\', 't']
  else if c = '\x0c' then ['\\', 'f']
  else if c = '\x08' then ['\\', 'b']
  else if ' ' ≤ c && c ≤ '~' then [c]
  else if c.toNat < 0x10000 then unitEscape c.toNat
  else
    let beyond := c.toNat - 0x10000
    unitEscape (0xD800 + beyond / 0x400) ++ unitEscape (0xDC00 + beyond % 0x400)

/-- A JSON string. -/
def jsonString (text : String) : String :=
  "\x22" ++ String.ofList (text.toList.flatMap jsonChar) ++ "\x22"

mutual

/-- A value as JSON. -/
def json : Value → String
  | .null => "null"
  | .bool truth => if truth then "true" else "false"
  | .int number => toString number
  | .real number => number.text
  | .text string => jsonString string
  | .list items => "[" ++ Text.interpose ", " (jsonItems items) ++ "]"
  | .record fields => "\x7b" ++ Text.interpose ", " (jsonFields fields) ++ "\x7d"

/-- The items of a list as JSON. -/
def jsonItems : List Value → List String
  | [] => []
  | item :: rest => json item :: jsonItems rest

/-- The fields of a record as JSON. -/
def jsonFields : List (String × Value) → List String
  | [] => []
  | (name, value) :: rest => (jsonString name ++ ": " ++ json value) :: jsonFields rest

end

/-- Everything that a log line is made of. -/
structure Entry where
  /-- The time of writing. -/
  time : String
  /-- How severe the matter is. -/
  severity : Int
  /-- The logger that wrote it. -/
  logger : String
  /-- The message, with places for the arguments. -/
  template : String
  /-- The arguments of the message. -/
  arguments : List Value := []
  /-- The file of the code that wrote it, where it is known. -/
  codeFile : Option String
  /-- The line of that code. -/
  codeLine : Value
  /-- The routine of that code. -/
  routine : Option String := none
  /-- The exception that was handed over. -/
  exception : Option Thrown := none
  /-- The event kind that was handed over. -/
  eventKind : Option Value := none

/-- A file name without its extension: what stands before the last point, unless nothing but
points does. -/
def withoutExtension (name : List Char) : List Char :=
  match name.reverse.span (· != '.') with
  | (_, []) => name
  | (_, _ :: stem) => if stem.any (· != '.') then stem.reverse else name

/-- The module of a code file: the last component of its path, without extension. -/
def moduleOf : Option String → String
  | none => "Unknown module"
  | some codeFile =>
    let name := (codeFile.toList.reverse.takeWhile (· != '/')).reverse
    String.ofList (withoutExtension name)

/-- A text without the line feed at its end, if one is there. -/
def withoutFinalLineFeed (text : String) : String :=
  match text.toList.reverse with
  | '\n' :: rest => String.ofList rest.reverse
  | _ => text

/-- The fields of a log line with a given message, in order. -/
def Entry.fields (entry : Entry) (message : String) : List (String × Value) :=
  [("timestamp", .text entry.time),
   ("level", .text (severityName entry.severity)),
   ("logger", .text entry.logger),
   ("message", .text message),
   ("module", .text (moduleOf entry.codeFile)),
   ("function", (entry.routine.map Value.text).getD .null),
   ("line", entry.codeLine)] ++
  (entry.exception.map fun thrown =>
    ("exception", Value.text (withoutFinalLineFeed thrown.trace))).toList ++
  (entry.eventKind.map fun kind => ("event_kind", kind)).toList

/-- The log line of an entry, unless the arguments do not fit the message. -/
def Entry.line (entry : Entry) : Except Template.TemplateError String :=
  (Template.fill entry.template entry.arguments).map fun message =>
    json (.record (entry.fields message))

end BuildChronicle.Log
