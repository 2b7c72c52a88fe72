import BuildChronicle.Element
import BuildChronicle.Proofs.ColourSequences

/-!
# Interrupted colour sequences

Leaving colour sequences out joins what stood around them. A colour sequence that others
interrupt is not found by the pass, since it is in pieces; once the others are gone, its pieces
stand together. So one pass leaves a colour sequence behind exactly in the texts that have an
interrupted one, and exactly on these texts a second pass changes anything. The message and the
trace of an exception are reported after a single pass, and the same is true of them.
-/

namespace BuildChronicle.Text

/-- The characters of a text in order, with colour sequences between some of them. Nothing stands
before the first character or after the last one. -/
inductive Spread : List Char → List Char → Prop where
  | last (c : Char) : Spread [c] [c]
  | next (c : Char) (whole between spread : List Char) (colours : Colours between)
      (tail : Spread whole spread) : Spread (c :: whole) (c :: between ++ spread)

/-- Has the text a colour sequence that other colour sequences interrupt? -/
def Interrupted (text : List Char) : Prop :=
  ∃ sequence spread, IsColour sequence ∧ Spread sequence spread ∧ spread ≠ sequence ∧
    spread <:+: text

section Pieces

/-- Where nothing is left, there were only colour sequences. -/
theorem colours_of_sheds (text left : List Char) (sheds : Sheds text left)
    (nothing : left = []) : Colours text := by
  induction sheds with
  | nothing => exact .nothing
  | kept c rest left plain _ _ => cases nothing
  | dropped sequence rest left colour _ inductionHypothesis =>
    exact .more sequence rest colour (inductionHypothesis nothing)

/-- What is left of a text in two parts is left of two parts of the text. A character that is kept
in front of more text is kept in front of less, because there is less to begin with. -/
theorem sheds_append (text left : List Char) (sheds : Sheds text left) (front back : List Char)
    (parted : left = front ++ back) :
    ∃ before after, text = before ++ after ∧ Sheds before front ∧ Sheds after back := by
  induction sheds generalizing front with
  | nothing =>
    obtain ⟨rfl, rfl⟩ := List.append_eq_nil_iff.mp parted.symm
    exact ⟨[], [], rfl, .nothing, .nothing⟩
  | kept c rest left plain tail inductionHypothesis =>
    cases front with
    | nil =>
      rw [List.nil_append] at parted
      rw [← parted]
      exact ⟨[], c :: rest, rfl, .nothing, .kept c rest left plain tail⟩
    | cons first front =>
      obtain ⟨rfl, later⟩ : c = first ∧ left = front ++ back := List.cons.inj parted
      obtain ⟨before, after, rfl, shedsFront, shedsBack⟩ := inductionHypothesis front later
      exact ⟨c :: before, after, rfl,
        .kept c before front (not_beginsColour_of_append _ after plain) shedsFront, shedsBack⟩
  | dropped sequence rest left colour _ inductionHypothesis =>
    obtain ⟨before, after, rfl, shedsFront, shedsBack⟩ := inductionHypothesis front parted
    exact ⟨sequence ++ before, after, (List.append_assoc ..).symm,
      .dropped sequence before front colour shedsFront, shedsBack⟩

/-- What is left of a text is spread over it, between colour sequences. -/
theorem spread_of_sheds (text left : List Char) (sheds : Sheds text left)
    (nonempty : left ≠ []) :
    ∃ before spread after, text = before ++ spread ++ after ∧ Colours before ∧
      Colours after ∧ Spread left spread := by
  induction sheds with
  | nothing => exact (nonempty rfl).elim
  | kept c rest left plain tail inductionHypothesis =>
    by_cases atEnd : left = []
    · have after := colours_of_sheds rest left tail atEnd
      rw [atEnd]
      exact ⟨[], [c], rest, rfl, .nothing, after, .last c⟩
    · obtain ⟨between, spread, after, rfl, colours, afterColours, spreads⟩ :=
        inductionHypothesis atEnd
      exact ⟨[], c :: between ++ spread, after, by simp, .nothing, afterColours,
        .next c left between spread colours spreads⟩
  | dropped sequence rest left colour _ inductionHypothesis =>
    obtain ⟨before, spread, after, rfl, colours, afterColours, spreads⟩ :=
      inductionHypothesis nonempty
    exact ⟨sequence ++ before, spread, after, by simp, .more sequence before colour colours,
      afterColours, spreads⟩

/-- If colour sequences stand between the characters of a text at all, the first of them follows a
part of the text that is neither empty nor all of it. -/
theorem spread_cut (whole spread : List Char) (spreads : Spread whole spread)
    (apart : spread ≠ whole) :
    ∃ front back rest, whole = front ++ back ∧ front ≠ [] ∧ back ≠ [] ∧
      spread = front ++ escape :: rest := by
  induction spreads with
  | last c => exact (apart rfl).elim
  | next c whole between spread colours tail inductionHypothesis =>
    cases colours with
    | nothing =>
      have later : spread ≠ whole := by
        rintro rfl
        exact apart (by simp)
      obtain ⟨front, back, rest, rfl, _, more, rfl⟩ := inductionHypothesis later
      exact ⟨c :: front, back, rest, rfl, by simp, more, by simp⟩
    | more sequence others colour _ =>
      obtain ⟨ending, rfl, _⟩ := colour_cons colour
      have more : whole ≠ [] := by cases tail <;> simp
      exact ⟨[c], whole, ending ++ (others ++ spread), rfl, by simp, more, by simp⟩

/-- Characters other than the escape character come together when the colour sequences between
them are dropped. -/
theorem dropColours_spread (whole spread rest : List Char) (spreads : Spread whole spread)
    (unescaped : escape ∉ whole) :
    dropColours 0 (spread ++ rest) = whole ++ dropColours 0 rest := by
  induction spreads with
  | last c =>
    have other : c ≠ escape := by
      rintro rfl
      simp at unescaped
    exact dropColours_kept c rest (not_beginsColour_of_ne c rest other)
  | next c whole between spread colours _ inductionHypothesis =>
    rw [List.mem_cons, not_or] at unescaped
    have kept := dropColours_kept c (between ++ (spread ++ rest))
      (not_beginsColour_of_ne c _ (Ne.symm unescaped.1))
    rw [List.cons_append, List.cons_append, List.append_assoc, kept,
      dropColours_colours between _ colours, inductionHypothesis unescaped.2, List.cons_append]

/-- An interrupted colour sequence comes together when those that interrupt it are dropped.

Proof: no colour sequence begins where it begins, since one that did would have to end in front
of the first interruption, and then it would be a part of the interrupted one. So its escape
character is kept, and with it all its other characters. -/
theorem dropColours_interrupted (sequence spread rest : List Char) (colour : IsColour sequence)
    (spreads : Spread sequence spread) (apart : spread ≠ sequence) :
    dropColours 0 (spread ++ rest) = sequence ++ dropColours 0 rest := by
  have plain : ¬ BeginsColour (spread ++ rest) := by
    rintro ⟨other, otherColour, begins⟩
    obtain ⟨front, back, later, rfl, nonempty, more, rfl⟩ :=
      spread_cut sequence spread spreads apart
    rw [List.append_assoc, List.cons_append] at begins
    have within := colour_prefix_of_escape otherColour front (later ++ rest) nonempty begins
    have same := colour_eq_of_prefix otherColour colour (within.trans (List.prefix_append _ _))
    rw [same] at within
    have length := within.length_le
    rw [List.length_append] at length
    have ending : back = [] := List.eq_nil_of_length_eq_zero (by omega)
    exact more ending
  obtain ⟨ending, rfl, unescaped⟩ := colour_cons colour
  cases spreads with
  | last => exact dropColours_kept escape rest plain
  | next _ _ between spread colours tail =>
    rw [List.cons_append, List.cons_append, List.append_assoc] at plain ⊢
    rw [dropColours_kept escape _ plain, dropColours_colours between _ colours,
      dropColours_spread ending spread rest tail unescaped, List.cons_append]

end Pieces

/-- One pass leaves a colour sequence behind exactly where one was interrupted. -/
theorem hasColour_dropColours_iff (text : List Char) :
    HasColour (dropColours 0 text) ↔ Interrupted text := by
  constructor
  · rintro ⟨sequence, colour, before, after, parted⟩
    obtain ⟨ending, escaped, _⟩ := colour_cons colour
    have nonempty : sequence ≠ [] := by simp [escaped]
    have sheds := (sheds_iff text _).mpr rfl
    obtain ⟨front, back, rfl, shedsFront, _⟩ := sheds_append text _ sheds _ after parted.symm
    obtain ⟨first, middle, rfl, _, shedsMiddle⟩ :=
      sheds_append front _ shedsFront before sequence rfl
    obtain ⟨outer, spread, inner, rfl, outerColours, innerColours, spreads⟩ :=
      spread_of_sheds middle sequence shedsMiddle nonempty
    refine ⟨sequence, spread, colour, spreads, ?_, ?_⟩
    · -- A sequence in one piece would have been dropped with everything around it.
      intro inOnePiece
      have left := dropColours_of_sheds _ _ shedsMiddle
      have right := dropColours_colours inner [] innerColours
      rw [List.append_nil] at right
      rw [inOnePiece, List.append_assoc, dropColours_colours outer _ outerColours,
        dropColours_colour sequence inner colour, right] at left
      exact nonempty left.symm
    · exact ⟨first ++ outer, inner ++ back, by simp⟩
  · rintro ⟨sequence, spread, colour, spreads, apart, before, after, rfl⟩
    have together := dropColours_interrupted sequence spread after colour spreads apart
    obtain ⟨front, _, rest, whole, nonempty, _, cut⟩ := spread_cut sequence spread spreads apart
    obtain ⟨ending, escaped, _⟩ := colour_cons colour
    obtain ⟨first, front, rfl⟩ := List.exists_cons_of_ne_nil nonempty
    obtain ⟨rfl, _⟩ : escape = first ∧ _ := List.cons.inj (escaped.symm.trans whole)
    have begins : spread ++ after = escape :: (front ++ escape :: rest ++ after) := by
      rw [cut, List.cons_append, List.cons_append]
    rw [List.append_assoc, begins, dropColours_append_escape, ← begins, together]
    exact ⟨sequence, colour, dropColours 0 before, dropColours 0 after, by simp⟩

/-- A text without its colour sequences has none exactly if none was interrupted in it. Exactly
then leaving them out once more changes nothing. Of an exception, the message and the trace are
reported without any colour sequence exactly if none is interrupted in them. -/
theorem withoutColour_colourless_iff (text name : String) (thrown : Thrown) :
    (¬ HasColour (withoutColour text).toList ↔ ¬ Interrupted text.toList) ∧
      (withoutColour (withoutColour text) = withoutColour text ↔ ¬ Interrupted text.toList) ∧
      ((∀ child ∈ (Element.exception name (some thrown)).children,
          ∀ value, child.value = some value → ¬ HasColour value.toList) ↔
        ¬ Interrupted thrown.message.toList ∧ ¬ Interrupted thrown.trace.toList) := by
  have once (text : String) : (withoutColour text).toList = dropColours 0 text.toList := by
    rw [withoutColour, String.toList_ofList]
  have left (text : String) : HasColour (withoutColour text).toList ↔ Interrupted text.toList := by
    rw [once, hasColour_dropColours_iff]
  have values : (Element.exception name (some thrown)).children.map Node.value =
      [some (withoutColour thrown.message), some (withoutColour thrown.trace)] := rfl
  refine ⟨not_congr (left text), ?_, ?_⟩
  · rw [← left, ← dropColours_eq_self_iff, ← once, String.toList_inj]
  · rw [← left, ← left]
    constructor
    · intro plain
      have reported (value : String)
          (member : some value ∈ (Element.exception name (some thrown)).children.map Node.value) :
          ¬ HasColour value.toList := by
        obtain ⟨child, among, same⟩ := List.mem_map.mp member
        exact plain child among value same
      exact ⟨reported _ (by simp [values]), reported _ (by simp [values])⟩
    · rintro ⟨plainMessage, plainTrace⟩ child among value given
      have member := List.mem_map_of_mem (f := Node.value) among
      rw [given, values] at member
      rcases (by simpa using member : value = _ ∨ value = _) with rfl | rfl
      · exact plainMessage
      · exact plainTrace

/-- The shortest colour sequence, interrupted by another one, is left behind by one pass and dropped
by the next. -/
theorem withoutColour_interrupted :
    let text := "\x1b[\x1b[mm"
    HasColour (withoutColour text).toList ∧
      withoutColour (withoutColour text) ≠ withoutColour text := by
  intro text
  have once : withoutColour text = "\x1b[m" := by decide
  have twice : withoutColour "\x1b[m" = "" := by decide
  refine ⟨⟨"\x1b[m".toList, ⟨[], by simp, rfl⟩, ?_⟩, ?_⟩
  · exact ⟨[], [], by simp [once]⟩
  · rw [once, twice]
    decide

end BuildChronicle.Text
