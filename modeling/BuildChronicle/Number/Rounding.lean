/-!
# Rounded quotients

A quotient of naturals is rounded to the nearest whole number, and to the even one of two
that are equally near. Every number that is shown with a limited count of digits is rounded
this way, and so is every number that is read.
-/

namespace BuildChronicle.Number

/-- The whole number nearest to a quotient; of two equally near ones the even one. -/
def roundQuotient (numerator denominator : Nat) : Nat :=
  let quotient := numerator / denominator
  let twice := 2 * (numerator % denominator)
  if twice < denominator then quotient
  else if denominator < twice then quotient + 1
  else quotient + quotient % 2

/-- The rounded quotient is at most half a unit away from the exact one. -/
theorem roundQuotient_near (numerator denominator : Nat) (positive : 0 < denominator) :
    2 * (roundQuotient numerator denominator * denominator) ≤ 2 * numerator + denominator ∧
      2 * numerator ≤ 2 * (roundQuotient numerator denominator * denominator) + denominator := by
  have exact : denominator * (numerator / denominator) + numerator % denominator = numerator :=
    Nat.div_add_mod numerator denominator
  have smaller : numerator % denominator < denominator := Nat.mod_lt _ positive
  simp only [roundQuotient]
  generalize numerator / denominator = quotient at *
  generalize numerator % denominator = remainder at *
  have next : (quotient + 1) * denominator = denominator * quotient + denominator := by
    rw [Nat.add_mul, Nat.mul_comm quotient, Nat.one_mul]
  have same : quotient * denominator = denominator * quotient := Nat.mul_comm ..
  split
  · omega
  · split
    · omega
    · rcases Nat.mod_two_eq_zero_or_one quotient with even | odd
      · rw [even, Nat.add_zero]
        omega
      · rw [odd]
        omega

/-- An exact quotient is kept. -/
theorem roundQuotient_exact (whole denominator : Nat) (positive : 0 < denominator) :
    roundQuotient (whole * denominator) denominator = whole := by
  simp [roundQuotient, Nat.mul_mod_left, Nat.mul_div_cancel _ positive, positive]

/-- The number of decimal digits of a natural. -/
def digitCount (n : Nat) : Nat := (Nat.toDigits 10 n).length

/-- The power of ten that the first digit of a positive quotient stands for. -/
def decade (numerator denominator : Nat) : Int :=
  if denominator ≤ numerator then (digitCount (numerator / denominator) : Int) - 1
  else -(digitCount ((denominator - 1) / numerator) : Int)

/-- A quotient times a power of ten, rounded. -/
def roundShifted (numerator denominator : Nat) (power : Int) : Nat :=
  roundQuotient (numerator * Nat.pow 10 power.toNat)
    (denominator * Nat.pow 10 (-power).toNat)

/-- Drop the zeros at the end of a number, counting them; at most as many as the first
argument says. -/
def dropZeros : Nat → Nat → Nat × Nat
  | 0, n => (n, 0)
  | limit + 1, n =>
    if n ≠ 0 ∧ n % 10 = 0 then
      let (digits, dropped) := dropZeros limit (n / 10)
      (digits, dropped + 1)
    else (n, 0)

end BuildChronicle.Number
