import BuildChronicle.Log.Template.Style
import BuildChronicle.Number.Word
import BuildChronicle.Text.DecimalDigit

/-!
# Places of a template

A place begins with a percent sign and ends with a mark that says what kind of argument it
takes. In between may stand, in this order and each only if it is wanted: the name of a field
in parentheses, signs for the style, a width, a precision behind a point, and a letter for
the size of numbers, which says nothing. A star stands for a width or precision that is taken
from the arguments. Two percent signs on end stand for one and take no argument.
-/

namespace BuildChronicle.Template

/-- What was read of a template, with the arguments and the text that are left. -/
abbrev Part (α : Type) := α × Supply × List Char

/-- The text up to the parenthesis that closes the given number of open ones, and the text
after it. -/
def keyUpTo? : Nat → List Char → Option (List Char × List Char)
  | _, [] => none
  | depth, c :: rest =>
    let deeper := if c = '(' then depth + 1 else if c = ')' then depth - 1 else depth
    if deeper = 0 then some ([], rest)
    else (keyUpTo? deeper rest).map fun (key, after) => (c :: key, after)

/-- Read the name of a field and ask for it. -/
def readKey (supply : Supply) : List Char → Except TemplateError (Part Unit)
  | '(' :: rest =>
    if supply.fields.isNone then .error .noFields
    else match keyUpTo? 1 rest with
      | none => .error .incompleteKey
      | some (key, after) => do
        let supply ← supply.select (String.ofList key)
        return ((), supply, after)
  | text => .ok ((), supply, text)

/-- Read the signs for the style. -/
def readSigns (style : Style) : List Char → Style × List Char
  | '-' :: rest => readSigns { style with leftAligned := true } rest
  | '+' :: rest => readSigns { style with signed := true } rest
  | ' ' :: rest => readSigns { style with spaced := true } rest
  | '#' :: rest => readSigns { style with alternate := true } rest
  | '0' :: rest => readSigns { style with zeroFilled := true } rest
  | text => (style, text)

/-- The number that digits denote. -/
def numberOf (digits : List Char) : Nat :=
  digits.foldl (fun number digit => 10 * number + (digit.toNat - '0'.toNat)) 0

/-- The next argument as a whole number. -/
def nextMeasure (supply : Supply) : Except TemplateError (Int × Supply) := do
  let (measure, supply) ← supply.next
  match measure.integer? with
  | some number => return (number, supply)
  | none => throw .measureNoInteger

/-- Read a width. A negative width from the arguments aligns to the left; the least machine
word, which has no positive counterpart, is no width at all. -/
def readWidth (style : Style) (supply : Supply) : List Char → Except TemplateError (Part Style)
  | '*' :: rest => do
    let (width, supply) ← nextMeasure supply
    if Number.fitsWord width then
      return ({ style with width := if Number.fitsWord (-width) then some width.natAbs else none
                           leftAligned := style.leftAligned || width < 0 }, supply, rest)
    else throw .widthOverflow
  | text =>
    match text.span Text.isPlainDigit with
    | ([], _) => .ok (style, supply, text)
    | (digits, after) =>
      if Number.fitsWord (numberOf digits) then
        .ok ({ style with width := some (numberOf digits) }, supply, after)
      else .error .widthTooBig

/-- Read a precision, from after the point on. A negative precision from the arguments counts
as zero, and so does a point with nothing behind it. -/
def readMeasure (style : Style) (supply : Supply) : List Char → Except TemplateError (Part Style)
  | '*' :: rest => do
    let (precision, supply) ← nextMeasure supply
    if Number.fitsHalfWord precision then
      return ({ style with precision := some precision.toNat }, supply, rest)
    else throw .precisionOverflow
  | text =>
    let (digits, after) := text.span Text.isPlainDigit
    if Number.fitsHalfWord (numberOf digits) then
      .ok ({ style with precision := some (numberOf digits) }, supply, after)
    else .error .precisionTooBig

/-- Read a precision, if there is one. -/
def readPrecision (style : Style) (supply : Supply) :
    List Char → Except TemplateError (Part Style)
  | '.' :: rest => readMeasure style supply rest
  | text => .ok (style, supply, text)

/-- Skip a letter for the size of numbers. -/
def skipSize : List Char → List Char
  | 'h' :: rest => rest
  | 'l' :: rest => rest
  | 'L' :: rest => rest
  | text => text

/-- A whole number at a place with the given mark; fractions are cut off. -/
def wholeNumber (mark : Char) : Value → Except TemplateError Int
  | .real number => .ok number.truncate
  | value =>
    match value.integer? with
    | some number => .ok number
    | none => .error (.noNumber mark value.kindName)

/-- An integer at a place with the given mark. -/
def integer (mark : Char) (value : Value) : Except TemplateError Int :=
  match value.integer? with
  | some number => .ok number
  | none => .error (.noInteger mark value.kindName)

/-- A fractional number. -/
def fraction : Value → Except TemplateError Binary64
  | .real number => .ok number
  | value =>
    match value.integer? with
    | none => .error (.noFraction value.kindName)
    | some number =>
      match Binary64.ofInt? number with
      | some number => .ok number
      | none => .error .fractionOverflow

/-- A character, given as itself or by its number. -/
def character (value : Value) : Except TemplateError Char :=
  match value with
  | .text string =>
    match string.toList with
    | [c] => .ok c
    | _ => .error .noCharacter
  | _ =>
    match value.integer? with
    | none => .error .noCharacter
    | some number =>
      if number < 0 || 0x10FFFF < number then .error .characterRange
      else .ok (Char.ofNat number.toNat)

/-- What an argument shows at a place with the given style and mark, the mark standing at the
given position. -/
def shown (style : Style) (mark : Char) (position : Nat) (argument : Value) :
    Except TemplateError String :=
  match mark with
  | 's' => .ok (style.ofText argument.display)
  | 'r' => .ok (style.ofText argument.literal)
  | 'a' => .ok (style.ofText argument.asciiLiteral)
  | 'd' | 'i' | 'u' => do style.ofWhole (← wholeNumber mark argument)
  | 'o' => do style.ofOctal (← integer mark argument)
  | 'x' => do style.ofHexadecimal false (← integer mark argument)
  | 'X' => do style.ofHexadecimal true (← integer mark argument)
  | 'e' => do return style.ofFraction Number.scientific false (← fraction argument)
  | 'E' => do return style.ofFraction Number.scientific true (← fraction argument)
  | 'f' => do return style.ofFraction Number.fixed false (← fraction argument)
  | 'F' => do return style.ofFraction Number.fixed true (← fraction argument)
  | 'g' => do return style.ofFraction Number.general false (← fraction argument)
  | 'G' => do return style.ofFraction Number.general true (← fraction argument)
  | 'c' => do return style.filled (String.ofList [← character argument])
  | _ => .error (.unknownPlace mark position)

/-- The greatest width that there is room for. -/
def greatestWidth : Nat := Nat.pow 2 32

/-- Check that there is room for a width. -/
def checkRoom (style : Style) : Except TemplateError Unit :=
  if greatestWidth < style.width.getD 0 then .error .noRoom else .ok ()

/-- Read a place that takes an argument, from after its percent sign on, and show its argument.
The length is that of the whole template. Whether there is room is found out last. -/
def readArgument (length : Nat) (supply : Supply) (text : List Char) :
    Except TemplateError (Part String) := do
  let ((), supply, text) ← readKey supply text
  let (style, text) := readSigns {} text
  let (style, supply, text) ← readWidth style supply text
  let (style, supply, text) ← readPrecision style supply text
  match skipSize text with
  | [] => throw .incomplete
  | mark :: after =>
    let (argument, supply) ← supply.next
    let write := fun style => shown style mark (length - after.length - 1) argument
    let _ ← write { style with width := none }
    checkRoom style
    return (← write style, supply, after)

/-- Read a place, from after its percent sign on. -/
def readPlace (length : Nat) (supply : Supply) (text : List Char) :
    Except TemplateError (Part String) :=
  match text with
  | '%' :: after => .ok ("%", supply, after)
  | text => readArgument length supply text

end BuildChronicle.Template
