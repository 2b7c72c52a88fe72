import BuildChronicle.Number.Rounding

/-!
# Fractional numbers

A fractional number is a finite number of the binary format of 64 bits: a sign and a whole
count of the smallest positive number of the format. A count has at most 53 significant bits
and stays below a fixed bound. Zero has a sign, too.

A decimal is read as the nearest number of the format. A number is shown with the fewest
digits that are read as the same number, and of several decimals with that many digits as
the nearest one.
-/

namespace BuildChronicle

/-- A finite number of the binary format of 64 bits. -/
structure Binary64 where
  /-- Is the number written with a minus sign? -/
  negative : Bool
  /-- The size of the number, counted in units of the smallest positive number. -/
  units : Nat
deriving DecidableEq, Repr

namespace Binary64

/-- How many units make one. -/
def unitsOfOne : Nat := Nat.pow 2 1074

/-- Counts of units from here on are too large for the format. -/
def unitsBound : Nat := Nat.pow 2 2098

/-- The distance of neighbouring numbers of the format at a count of units. -/
def gap (units : Nat) : Nat := Nat.pow 2 (units.log2 - 52)

/-- The count of units of the number nearest to a quotient. -/
def nearestUnits (numerator denominator : Nat) : Nat :=
  let units := numerator * unitsOfOne
  let step := gap (units / denominator)
  Number.roundQuotient units (denominator * step) * step

/-- The count of units nearest to whole digits times a power of ten. -/
def unitsOfDecimal (digits : Nat) (power : Int) : Nat :=
  nearestUnits (digits * Nat.pow 10 power.toNat) (Nat.pow 10 (-power).toNat)

/-- Powers of ten beyond this one, up or down, leave the format for every digit. -/
def greatestDecade : Int := 400

/-- The number nearest to a decimal; nothing if it is too large for the format. -/
def ofDecimal? (negative : Bool) (digits : Nat) (power : Int) : Option Binary64 :=
  let decade := (Number.digitCount digits : Int) + power
  if digits = 0 ∨ decade < -greatestDecade then some ⟨negative, 0⟩
  else if greatestDecade < decade then none
  else
    let units := unitsOfDecimal digits power
    if units < unitsBound then some ⟨negative, units⟩ else none

/-- The number nearest to an integer; nothing if it is too large for the format. -/
def ofInt? (number : Int) : Option Binary64 :=
  let units := nearestUnits number.natAbs 1
  if units < unitsBound then some ⟨number < 0, units⟩ else none

/-- Is the number zero, with either sign? -/
def isZero (number : Binary64) : Bool := number.units == 0

/-- The number without its fraction. -/
def truncate (number : Binary64) : Int :=
  let whole : Int := number.units / unitsOfOne
  if number.negative then -whole else whole

/-- The number as an integer, if it has no fraction. -/
def whole? (number : Binary64) : Option Int :=
  if number.units % unitsOfOne = 0 then some number.truncate else none

/-- Digits, and the power of ten that the last of them stands for. -/
structure Decimal where
  /-- The digits as one number. -/
  digits : Nat
  /-- The power of ten that the last digit stands for. -/
  power : Int
deriving DecidableEq, Repr

/-- Of the two decimals next to a count of units with so many digits the nearer one that is
read as the same count. -/
def decimalOf? (units : Nat) (count : Nat) : Option Decimal :=
  let power := Number.decade units unitsOfOne - count + 1
  let scaled := units * Nat.pow 10 (-power).toNat
  let scale := unitsOfOne * Nat.pow 10 power.toNat
  let near := Number.roundQuotient scaled scale
  let below := scaled / scale
  let far := if near = below then below + 1 else below
  ([near, far].find? fun digits => unitsOfDecimal digits power == units).map (⟨·, power⟩)

/-- The number of digits with which every number of the format can be told from its
neighbours. -/
def mostDigits : Nat := 17

/-- The exact decimal of a count of units. -/
def exactDecimal (units : Nat) : Decimal := ⟨units * Nat.pow 5 1074, -1074⟩

/-- The shortest decimal that is read as a count of units. -/
def shortest (units : Nat) : Decimal :=
  let found := ((List.range mostDigits).findSome? fun more => decimalOf? units (more + 1)).getD
    (exactDecimal units)
  let (digits, dropped) := Number.dropZeros (Number.digitCount found.digits) found.digits
  ⟨digits, found.power + dropped⟩

end Binary64

end BuildChronicle
