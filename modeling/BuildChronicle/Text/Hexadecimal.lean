/-!
# Hexadecimal numbers of a fixed width

Escapes write a code point with a fixed number of lower-case hexadecimal digits. Digits
beyond the width are dropped; callers choose a width that holds the number.
-/

namespace BuildChronicle.Text

/-- The lower-case digit of a number below sixteen. -/
def hexDigit (n : Nat) : Char :=
  if n < 10 then Char.ofNat ('0'.toNat + n) else Char.ofNat ('a'.toNat + (n - 10))

/-- The last digits of a number, as many as the width says. -/
def hexadecimal : Nat → Nat → List Char
  | 0, _ => []
  | width + 1, n => hexadecimal width (n / 16) ++ [hexDigit (n % 16)]

@[simp] theorem hexadecimal_length (width n : Nat) : (hexadecimal width n).length = width := by
  induction width generalizing n with
  | zero => rfl
  | succ width inductionHypothesis => simp [hexadecimal, inductionHypothesis]

end BuildChronicle.Text
