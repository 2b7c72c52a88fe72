/-!
# Capital and small letters

Some words are read in any case. Names of levels are put into capitals: every letter whose
capital is an ASCII letter counts as that capital. Apart from the small ASCII letters these
are the small letter i without its dot and the long s. Ligatures have several letters as their
capital, none of which follow each other in a name of a level; they are left as they are. Other
words are put into small letters: apart from the ASCII capitals, the sign for kelvin and the long
s count as small ASCII letters. All other characters are left as they are.
-/

namespace BuildChronicle.Text

/-- The ASCII capital of a letter that has one; any other character itself. -/
def capital (c : Char) : Char :=
  if c = '\u0131' then 'I' else if c = '\u017f' then 'S' else c.toUpper

/-- A string in capitals. -/
def capitals (text : String) : String := String.ofList (text.toList.map capital)

/-- The small ASCII letter that a letter counts as; any other character itself. -/
def small (c : Char) : Char :=
  if c = '\u212a' then 'k' else if c = '\u017f' then 's' else c.toLower

/-- A string in small letters. -/
def smalls (text : String) : String := String.ofList (text.toList.map small)

end BuildChronicle.Text
