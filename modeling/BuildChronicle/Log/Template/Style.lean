import BuildChronicle.Log.Template.Supply

/-!
# Styles of places

A place may say how its argument is shown: to which side, with which sign, with how many
characters at least and with which precision. The precision of a text is the greatest number
of characters that are shown of it, the precision of a whole number the least number of its
digits, and the precision of a fractional number the count of its places or digits. Numbers
may be filled up with zeros in place of blanks; zeros stand behind the sign and behind the
mark of a base.
-/

namespace BuildChronicle.Template

/-- How an argument is shown. -/
structure Style where
  /-- Do blanks come behind the argument? -/
  leftAligned : Bool := false
  /-- Do numbers have a sign even if they are not negative? -/
  signed : Bool := false
  /-- Do numbers have a blank where they have no sign? -/
  spaced : Bool := false
  /-- Do numbers have the mark of their base, or all of their digits and their point? -/
  alternate : Bool := false
  /-- Are numbers filled up with zeros? -/
  zeroFilled : Bool := false
  /-- The least number of characters. -/
  width : Option Nat := none
  /-- The precision. -/
  precision : Option Nat := none
deriving DecidableEq, Repr

namespace Style

/-- Fill a text up with blanks. -/
def filled (style : Style) (text : String) : String :=
  let blanks := String.ofList (List.replicate (style.width.getD 0 - text.length) ' ')
  if style.leftAligned then text ++ blanks else blanks ++ text

/-- A text, cut to the precision and filled up. -/
def ofText (style : Style) (text : String) : String :=
  match style.precision with
  | none => style.filled text
  | some precision => style.filled (String.ofList (text.toList.take precision))

/-- The sign in front of a number. -/
def sign (style : Style) (negative : Bool) : String :=
  if negative then "-" else if style.signed then "+" else if style.spaced then " " else ""

/-- A number with its sign and the mark of its base, filled up. -/
def ofNumber (style : Style) (negative : Bool) (base digits : String) : String :=
  let front := style.sign negative ++ base
  if style.zeroFilled && !style.leftAligned then
    front ++ Number.padded (style.width.getD 0 - front.length) digits
  else style.filled (front ++ digits)

/-- The greatest precision of whole numbers. -/
def mostDigits : Nat := 2147483644

/-- The digits of a whole number, as many as the precision demands. -/
def digits (style : Style) (base size : Nat) : Except TemplateError String :=
  let precision := style.precision.getD 0
  if mostDigits < precision then .error .precisionTooLarge
  else .ok (Number.padded precision (String.ofList (Nat.toDigits base size)))

/-- A whole number. -/
def ofWhole (style : Style) (number : Int) : Except TemplateError String :=
  (style.digits 10 number.natAbs).map (style.ofNumber (number < 0) "")

/-- The mark of a base. -/
def baseMark (style : Style) (mark : String) : String := if style.alternate then mark else ""

/-- A whole number in base eight. -/
def ofOctal (style : Style) (number : Int) : Except TemplateError String :=
  (style.digits 8 number.natAbs).map (style.ofNumber (number < 0) (style.baseMark "0o"))

/-- A whole number in base sixteen, with small or capital letters. -/
def ofHexadecimal (style : Style) (capital : Bool) (number : Int) :
    Except TemplateError String :=
  (style.digits 16 number.natAbs).map fun digits =>
    if capital then style.ofNumber (number < 0) (style.baseMark "0X") digits.toUpper
    else style.ofNumber (number < 0) (style.baseMark "0x") digits

/-- The precision of fractional numbers where none is asked for. -/
def usualPrecision : Nat := 6

/-- A fractional number, laid out by the given function of its size, the precision and whether
everything is kept. -/
def ofFraction (style : Style) (layout : Nat → Nat → Bool → String) (capital : Bool)
    (number : Binary64) : String :=
  let text := layout number.units (style.precision.getD usualPrecision) style.alternate
  style.ofNumber number.negative "" (if capital then text.toUpper else text)

end Style

end BuildChronicle.Template
