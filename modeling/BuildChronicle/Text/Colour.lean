import BuildChronicle.Text.DecimalDigit

/-!
# Colour sequences

Terminals take colours from sequences of an escape character, an opening bracket, digits
and semicolons, and the letter `m`. Removing them is one pass: at each position either a
sequence begins, and all of it is left out, or the character there is kept.
-/

namespace BuildChronicle.Text

/-- The character that opens a colour sequence. -/
def escape : Char := '\x1b'

/-- Is the character a parameter of a colour sequence? -/
def isColourParameter (c : Char) : Bool := isPlainDigit c || c == ';'

/-- The number of characters up to and with the letter `m` that ends a run of parameters. -/
def parametersLength? : List Char → Option Nat
  | [] => none
  | c :: rest =>
    if c = 'm' then some 1
    else if isColourParameter c then (parametersLength? rest).map (· + 1)
    else none

/-- The number of characters of the colour sequence that the text begins with, or zero. -/
def colourLength : List Char → Nat
  | c :: '[' :: rest =>
    if c = escape then ((parametersLength? rest).map (· + 2)).getD 0 else 0
  | _ => 0

/-- Leave out the given number of characters, and every colour sequence after them. -/
def dropColours : Nat → List Char → List Char
  | _, [] => []
  | skip + 1, _ :: rest => dropColours skip rest
  | 0, c :: rest =>
    match colourLength (c :: rest) with
    | 0 => c :: dropColours 0 rest
    | length + 1 => dropColours length rest

/-- The text without its colour sequences. -/
def withoutColour (text : String) : String := String.ofList (dropColours 0 text.toList)

end BuildChronicle.Text
