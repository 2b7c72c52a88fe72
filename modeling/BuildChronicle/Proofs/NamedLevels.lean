import Mathlib
import BuildChronicle.Log.Record
import BuildChronicle.Text.Capital

/-!
# Texts that name levels

The name of a level may be given in any case. Which characters count as a letter of it is said
here by a rule: the letter itself, the small letter with this capital, and for two letters one
more character. So whether a text names a level can be told character by character, without
putting anything into capitals.
-/

namespace BuildChronicle

namespace Text

/-- This character counts as this letter where case plays no part. -/
inductive CountsAs : Char → Char → Prop where
  /-- Every letter counts as itself. -/
  | itself (letter : Char) : CountsAs letter letter
  /-- A small ASCII letter counts as its capital. -/
  | small (c : Char) (isSmall : c.isLower = true) : CountsAs c c.toUpper
  /-- So does the small letter i without its dot. -/
  | dotless : CountsAs '\u0131' 'I'
  /-- So does the long s. -/
  | long : CountsAs '\u017f' 'S'

/-- An ASCII letter has the capital of ASCII. -/
theorem capital_of_isAlpha (c : Char) (letter : c.isAlpha = true) : capital c = c.toUpper := by
  have notDotless : c ≠ '\u0131' := by
    rintro rfl
    cases letter
  have notLong : c ≠ '\u017f' := by
    rintro rfl
    cases letter
  rw [capital, if_neg notDotless, if_neg notLong]

/-- A letter is the capital of the characters that count as it, and of no others. -/
theorem capital_eq_iff (c letter : Char) (isCapital : letter.isUpper = true) :
    capital c = letter ↔ CountsAs c letter := by
  constructor
  · rintro rfl
    rw [capital]
    split
    case isTrue isDotless => exact isDotless ▸ .dotless
    case isFalse =>
      split
      case isTrue isLong => exact isLong ▸ .long
      case isFalse =>
        by_cases isSmall : c.isLower
        · exact .small c isSmall
        · rw [Char.toUpper_eq_of_not_isLower isSmall]
          exact .itself c
  · intro counts
    cases counts with
    | itself =>
      have large : ¬ c.isLower := Char.not_isLower_of_isUpper isCapital
      rw [capital_of_isAlpha c (by simp [Char.isAlpha, isCapital]),
        Char.toUpper_eq_of_not_isLower large]
    | small _ isSmall => exact capital_of_isAlpha c (by simp [Char.isAlpha, isSmall])
    | dotless => rfl
    | long => rfl

/-- A text in capitals is another one of capitals exactly if its characters count as the letters of
that one, each as the one in its place. -/
theorem capitals_eq_iff (text name : String)
    (allCapitals : ∀ letter ∈ name.toList, letter.isUpper = true) :
    capitals text = name ↔ List.Forall₂ CountsAs text.toList name.toList := by
  have letters (given wanted : List Char) (large : ∀ letter ∈ wanted, letter.isUpper = true) :
      given.map capital = wanted ↔ List.Forall₂ CountsAs given wanted := by
    induction wanted generalizing given with
    | nil => simp
    | cons letter rest inductionHypothesis =>
      rw [List.forall_mem_cons] at large
      cases given with
      | nil => simp
      | cons c others =>
        rw [List.map_cons, List.cons.injEq, List.forall₂_cons, capital_eq_iff c letter large.1,
          inductionHypothesis others large.2]
  rw [← letters _ _ allCapitals, capitals, ← String.toList_inj, String.toList_ofList]

end Text

namespace Level

/-- The text names the level, in any case. -/
def NamedBy (level : Level) (text : String) : Prop :=
  List.Forall₂ Text.CountsAs text.toList level.name.toList

/-- A name is that of the level it is looked up as, and of no other. -/
theorem ofName?_eq_some_iff (name : String) (level : Level) :
    ofName? name = some level ↔ name = level.name := by
  constructor
  · intro found
    have met := List.find?_some found
    exact (beq_iff_eq.mp met).symm
  · rintro rfl
    cases level <;> decide

/-- A text is read as the level that it names. -/
theorem ofName?_capitals_eq_some_iff (text : String) (level : Level) :
    ofName? (Text.capitals text) = some level ↔ level.NamedBy text := by
  have allCapitals : level.name.toList.all Char.isUpper = true := by
    cases level <;> decide
  rw [ofName?_eq_some_iff, NamedBy]
  exact Text.capitals_eq_iff text level.name (List.all_eq_true.mp allCapitals)

/-- A text is read as no level if it names none. -/
theorem ofName?_capitals_eq_none_iff (text : String) :
    ofName? (Text.capitals text) = none ↔ ∀ level : Level, ¬ level.NamedBy text := by
  simp only [Option.eq_none_iff_forall_ne_some, ne_eq, ofName?_capitals_eq_some_iff]

end Level

end BuildChronicle
