import BuildChronicle.Number.Binary64

/-!
# How numbers are laid out

A number is laid out with a point between its whole part and its fraction, or with a point
after its first digit and a power of ten behind it. Shown in full, a number has the fewest
digits that identify it; otherwise a count of places or of significant digits is asked for,
and the exact value of the number is rounded to it.
-/

namespace BuildChronicle.Number

/-- A text with so many zeros. -/
def zeros (count : Nat) : String := String.ofList (List.replicate count '0')

/-- A text filled up with zeros in front to a width. -/
def padded (width : Nat) (text : String) : String := zeros (width - text.length) ++ text

/-- Digits with a point before the last places, and more zeros behind them; the point is left
out where no digit would follow it, unless it is to be kept. -/
def pointed (digits places more : Nat) (keepPoint : Bool) : String :=
  let shown := (padded (places + 1) (toString digits)).toList
  let whole := String.ofList (shown.take (shown.length - places))
  let fraction := String.ofList (shown.drop (shown.length - places)) ++ zeros more
  if places + more = 0 then (if keepPoint then whole ++ "." else whole)
  else whole ++ "." ++ fraction

/-- A text without the zeros at the end of its fraction, and without the point if nothing is
left of the fraction. -/
def trimmed (text : String) : String :=
  if text.toList.contains '.' then
    match text.toList.reverse.dropWhile (· == '0') with
    | '.' :: rest => String.ofList rest.reverse
    | rest => String.ofList rest.reverse
  else text

/-- A power of ten with its sign, at least two digits wide. -/
def powerText (power : Int) : String :=
  (if power < 0 then "e-" else "e+") ++ padded 2 (toString power.natAbs)

/-- No number of the format has digits other than zero behind so many places, or so many
digits in all. -/
def exactPlaces : Nat := 1500

/-- The significant digits of a count of units, one more than there are places, and the power
of ten that the first of them stands for. -/
def significant (units places : Nat) : Nat × Int :=
  if units = 0 then (0, 0)
  else
    let power := decade units Binary64.unitsOfOne
    let digits := roundShifted units Binary64.unitsOfOne ((places : Int) - power)
    if places + 1 < digitCount digits then (digits / 10, power + 1) else (digits, power)

/-- A count of units with so many places after the point. -/
def fixed (units places : Nat) (keepPoint : Bool) : String :=
  let exact := min places exactPlaces
  pointed (roundQuotient (units * Nat.pow 10 exact) Binary64.unitsOfOne) exact (places - exact)
    keepPoint

/-- A count of units with one digit before the point, so many places after it, and a power of
ten. -/
def scientific (units places : Nat) (keepPoint : Bool) : String :=
  let exact := min places exactPlaces
  let (digits, power) := significant units exact
  pointed digits exact (places - exact) keepPoint ++ powerText power

/-- A count of units with so many significant digits: with a power of ten where its first digit
stands for less than ten to the minus four or lies beyond the digits asked for. Zeros at the
end of the fraction are dropped unless everything is to be kept. -/
def general (units precision : Nat) (keepAll : Bool) : String :=
  let count := max 1 precision
  let exact := min count exactPlaces
  let more := if keepAll then count - exact else 0
  let (digits, power) := significant units (exact - 1)
  let finish (text : String) : String := if keepAll then text else trimmed text
  if power < -4 ∨ (count : Int) ≤ power then
    finish (pointed digits (exact - 1) more keepAll) ++ powerText power
  else finish (pointed digits ((exact : Int) - 1 - power).toNat more keepAll)

end BuildChronicle.Number

namespace BuildChronicle.Binary64

/-- The sign of a number as text. -/
def signText (number : Binary64) : String := if number.negative then "-" else ""

/-- The text of digits whose first stands for the given power of ten: positional from ten to
the minus four up to ten to the fifteen, with a power of ten otherwise. There is a digit on
both sides of a point. -/
def laidOut (digits : String) (power : Int) : String :=
  let shown := digits.toList
  if power < -4 ∨ 16 ≤ power then
    let fraction := String.ofList (shown.drop 1)
    let point := if fraction.isEmpty then "" else "." ++ fraction
    String.ofList (shown.take 1) ++ point ++ Number.powerText power
  else if power < 0 then "0." ++ Number.zeros (power.natAbs - 1) ++ digits
  else
    let whole := power.natAbs + 1
    let fraction := String.ofList (shown.drop whole)
    String.ofList (shown.take whole) ++ Number.zeros (whole - shown.length) ++ "." ++
      (if fraction.isEmpty then "0" else fraction)

/-- The text of a number in full. -/
def text (number : Binary64) : String :=
  if number.isZero then number.signText ++ "0.0"
  else
    let decimal := shortest number.units
    let digits := toString decimal.digits
    number.signText ++ laidOut digits ((digits.length : Int) - 1 + decimal.power)

end BuildChronicle.Binary64
