import BuildChronicle.Text.Hexadecimal
import BuildChronicle.Text.Printable

/-!
# Quoted text

Messages show a text between quotes, so that its ends and its invisible characters can be
seen. Single quotes are used unless the text has a single quote and no double quote. The
chosen quote and the backslash are escaped with a backslash, tab, line feed and carriage
return by letter, and every other character that does not show as itself by the number of
its code point.
-/

namespace BuildChronicle.Text

/-- The quote that needs the least escaping. -/
def quoteFor (text : List Char) : Char :=
  if text.contains '\x27' && !text.contains '\x22' then '\x22' else '\x27'

/-- The escape of a character by the number of its code point. -/
def numbered (c : Char) : List Char :=
  if c.toNat < 0x100 then '\\' :: 'x' :: hexadecimal 2 c.toNat
  else if c.toNat < 0x10000 then '\\' :: 'u' :: hexadecimal 4 c.toNat
  else '\\' :: 'U' :: hexadecimal 8 c.toNat

/-- A text with every character beyond ASCII escaped by its number. -/
def withNumbered (text : String) : String :=
  String.ofList (text.toList.flatMap fun c => if c.toNat < 0x80 then [c] else numbered c)

/-- How a character is written between two of the given quotes. -/
def quotedChar (quote c : Char) : List Char :=
  if c = quote || c = '\\' then ['\\', c]
  else if c = '\t' then ['\\', 't']
  else if c = '\n' then ['\\', 'n']
  else if c = '\r' then ['\\', 'r']
  else if isPrintable c then [c]
  else numbered c

/-- The text between quotes. -/
def quoted (text : List Char) : List Char :=
  quoteFor text :: text.flatMap (quotedChar (quoteFor text)) ++ [quoteFor text]

/-- A string between quotes. -/
def quote (text : String) : String := String.ofList (quoted text.toList)

end BuildChronicle.Text
