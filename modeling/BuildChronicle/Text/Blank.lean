/-!
# White space

The white space of environment files: the ASCII blanks and separators, the line and
paragraph ends, and the spaces of other scripts. A line feed is white space too; a blank
is white space that does not end a line.
-/

namespace BuildChronicle.Text

/-- The ranges, both ends included, of white space. -/
def spaceRanges : List (Nat × Nat) := [
  (0x9, 0xD), (0x1C, 0x20), (0x85, 0x85), (0xA0, 0xA0), (0x1680, 0x1680), (0x2000, 0x200A),
  (0x2028, 0x2029), (0x202F, 0x202F), (0x205F, 0x205F), (0x3000, 0x3000)]

/-- Is the character white space? -/
def isSpace (c : Char) : Bool :=
  spaceRanges.any fun range => range.1 ≤ c.toNat && c.toNat ≤ range.2

/-- Is the character white space within a line? -/
def isBlank (c : Char) : Bool := isSpace c && c != '\n' && c != '\r'

end BuildChronicle.Text
