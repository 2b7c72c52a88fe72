/-!
# Machine words

Some numbers are kept in machine words, with a sign and 63 bits for the value, or in half
words, with a sign and 31 bits. Larger ones are refused.
-/

namespace BuildChronicle.Number

/-- Does a number fit a sign and the given count of bits? -/
def fits (bits : Nat) (number : Int) : Bool :=
  -(Int.pow 2 bits) ≤ number && number < Int.pow 2 bits

/-- Does a number fit a machine word? -/
def fitsWord (number : Int) : Bool := fits 63 number

/-- Does a number fit half a machine word? -/
def fitsHalfWord (number : Int) : Bool := fits 31 number

end BuildChronicle.Number
