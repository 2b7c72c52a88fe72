import Mathlib.Data.List.Basic
import BuildChronicle.Element
import BuildChronicle.Proofs.ColourSequences

/-!
# Where colour sequences stand

A colour sequence stands in a text from one position up to another. Two of them never share a
position: an escape character begins each and stands nowhere else in one, and no sequence is part
of a longer one that begins with it. So the positions that belong to colour sequences say all
there is to say about the pass: the characters at these positions go, and all others stay, in
their order.

From this follows where a text can be cut. A colour sequence that the cut divides is the only one
that is found in the whole text and not in its parts. A line feed is no part of any colour
sequence, so behind every line feed a text can be cut, and a trace can be taken line by line.
-/

namespace BuildChronicle.Text

/-- A colour sequence stands in the text from the one position up to the other. -/
def Occurs (text : List Char) (start stop : Nat) : Prop :=
  ∃ before sequence after, text = before ++ sequence ++ after ∧ IsColour sequence ∧
    start = before.length ∧ stop = before.length + sequence.length

/-- Does the character at a position belong to a colour sequence? -/
def Coloured (text : List Char) (position : Nat) : Prop :=
  ∃ start stop, Occurs text start stop ∧ start ≤ position ∧ position < stop

/-- The characters of a text, in their order, but for those at certain positions. -/
def outside (text : List Char) (gone : Nat → Prop) [DecidablePred gone] : List Char :=
  (text.zipIdx.filter fun entry => !decide (gone entry.2)).map Prod.fst

/-- Does the text end with the beginning of a colour sequence and not with all of it? -/
def EndsWithin (text : List Char) : Prop :=
  ∃ ending sequence, ending ≠ [] ∧ ending <:+ text ∧
    IsColour sequence ∧ ending <+: sequence ∧ ending ≠ sequence

/-- A text cut behind every occurrence of a character. -/
def cutBehind (mark : Char) : List Char → List (List Char)
  | [] => []
  | c :: rest =>
    if c = mark then [c] :: cutBehind mark rest
    else match cutBehind mark rest with
      | [] => [[c]]
      | piece :: pieces => (c :: piece) :: pieces

/-- The lines of a text, each with the line feed that ends it. -/
def lines (text : String) : List String := (cutBehind '\n' text.toList).map String.ofList

section Decisions

/-- A text is a colour sequence if it begins with one that is as long. -/
theorem isColour_iff (text : List Char) :
    IsColour text ↔ text ≠ [] ∧ colourLength text = text.length := by
  constructor
  · intro colour
    have length := colourLength_append colour []
    obtain ⟨tail, rfl, _⟩ := colour_cons colour
    rw [List.append_nil] at length
    exact ⟨List.cons_ne_nil escape tail, length⟩
  · rintro ⟨nonempty, length⟩
    have positive : colourLength text ≠ 0 := by
      rw [length]
      exact Nat.ne_of_gt (List.length_pos_of_ne_nil nonempty)
    obtain ⟨sequence, rest, colour, rfl⟩ := colour_of_length text positive
    rw [colourLength_append colour rest, List.length_append] at length
    have nothing : rest = [] := List.eq_nil_of_length_eq_zero (by omega)
    rw [nothing, List.append_nil]
    exact colour

instance decidableIsColour (text : List Char) : Decidable (IsColour text) :=
  decidable_of_iff _ (isColour_iff text).symm

/-- Where a colour sequence stands, it is the part of the text between the two positions. -/
theorem occurs_iff (text : List Char) (start stop : Nat) :
    Occurs text start stop ↔
      start ≤ stop ∧ stop ≤ text.length ∧ IsColour ((text.take stop).drop start) := by
  constructor
  · rintro ⟨before, sequence, after, rfl, colour, rfl, rfl⟩
    refine ⟨by omega, by simp, ?_⟩
    rw [← List.length_append, List.take_left, List.drop_left]
    exact colour
  · rintro ⟨order, within, colour⟩
    have front : ((text.take stop).take start).length = start := by
      rw [List.length_take, List.length_take]
      omega
    have part : ((text.take stop).drop start).length = stop - start := by
      rw [List.length_drop, List.length_take]
      omega
    refine ⟨(text.take stop).take start, (text.take stop).drop start, text.drop stop, ?_, colour,
      front.symm, ?_⟩
    · rw [List.take_append_drop, List.take_append_drop]
    · rw [front, part]
      omega

instance decidableOccurs (text : List Char) (start stop : Nat) :
    Decidable (Occurs text start stop) :=
  decidable_of_iff _ (occurs_iff text start stop).symm

/-- No colour sequence reaches beyond the text. -/
theorem coloured_iff (text : List Char) (position : Nat) :
    Coloured text position ↔
      ∃ start < position + 1, ∃ stop < text.length + 1,
        Occurs text start stop ∧ position < stop := by
  constructor
  · rintro ⟨start, stop, occurs, order, inside⟩
    have within := ((occurs_iff text start stop).mp occurs).2.1
    exact ⟨start, by omega, stop, by omega, occurs, inside⟩
  · rintro ⟨start, order, stop, _, occurs, inside⟩
    exact ⟨start, stop, occurs, by omega, inside⟩

instance decidableColoured (text : List Char) : DecidablePred (Coloured text) :=
  fun position => decidable_of_iff _ (coloured_iff text position).symm

end Decisions

section Occurrences

variable {text rest sequence : List Char} {start stop : Nat}

/-- What stands in a text stands in a longer one as far behind as the text does. -/
theorem occurs_append (front text : List Char) (start stop : Nat) :
    Occurs (front ++ text) (front.length + start) (front.length + stop) ↔
      Occurs text start stop := by
  have order : front.length + start ≤ front.length + stop ↔ start ≤ stop := by omega
  have within : front.length + stop ≤ (front ++ text).length ↔ stop ≤ text.length := by
    rw [List.length_append]
    omega
  rw [occurs_iff, occurs_iff, order, within, List.take_length_add_append,
    List.drop_length_add_append]

/-- An escape character begins what stands in a text. -/
theorem Occurs.begins (occurs : Occurs text start stop) : text[start]? = some escape := by
  obtain ⟨before, sequence, after, rfl, colour, rfl, -⟩ := occurs
  obtain ⟨tail, rfl, -⟩ := colour_cons colour
  simp

/-- Behind it no other follows up to its end. -/
theorem Occurs.continues (occurs : Occurs text start stop) (position : Nat)
    (behind : start < position) (inside : position < stop) : text[position]? ≠ some escape := by
  obtain ⟨before, sequence, after, rfl, colour, rfl, rfl⟩ := occurs
  obtain ⟨tail, rfl, unescaped⟩ := colour_cons colour
  obtain ⟨offset, rfl⟩ := Nat.exists_eq_add_of_lt behind
  have within : offset < tail.length := by
    rw [List.length_cons] at inside
    omega
  have found :
      (before ++ escape :: tail ++ after)[before.length + offset + 1]? = tail[offset]? := by
    rw [List.append_assoc, List.getElem?_append_right (by omega)]
    have distance : before.length + offset + 1 - before.length = offset + 1 := by omega
    rw [distance, List.cons_append, List.getElem?_cons_succ, List.getElem?_append_left within]
  rw [found]
  intro escaped
  exact unescaped (List.mem_of_getElem? escaped)

/-- Of two colour sequences that begin at the same position neither is the longer one. -/
theorem Occurs.stop_unique {other : Nat} (occurs : Occurs text start stop)
    (occursToo : Occurs text start other) : stop = other := by
  obtain ⟨before, sequence, after, rfl, colour, rfl, rfl⟩ := occurs
  obtain ⟨front, sequenceToo, behind, same, colourToo, sameLength, rfl⟩ := occursToo
  rw [List.append_assoc, List.append_assoc] at same
  obtain ⟨rfl, sameRest⟩ := List.append_inj same sameLength
  have length := colourLength_append colour after
  rw [sameRest, colourLength_append colourToo behind] at length
  rw [length]

/-- Two colour sequences in a text are the same, or one ends before the other begins. -/
theorem Occurs.disjoint {otherStart otherStop : Nat} (occurs : Occurs text start stop)
    (occursToo : Occurs text otherStart otherStop) :
    (start = otherStart ∧ stop = otherStop) ∨ stop ≤ otherStart ∨ otherStop ≤ start := by
  rcases Nat.lt_trichotomy start otherStart with before | same | behind
  · by_cases apart : stop ≤ otherStart
    · exact .inr (.inl apart)
    · exact (occurs.continues otherStart before (by omega) occursToo.begins).elim
  · rw [← same] at occursToo
    exact .inl ⟨same, occurs.stop_unique occursToo⟩
  · by_cases apart : otherStop ≤ start
    · exact .inr (.inr apart)
    · exact (occursToo.continues start behind (by omega) occurs.begins).elim

/-- All positions of a colour sequence in front belong to it. -/
theorem coloured_of_lt (colour : IsColour sequence) (rest : List Char) (position : Nat)
    (inside : position < sequence.length) : Coloured (sequence ++ rest) position :=
  ⟨0, sequence.length, ⟨[], sequence, rest, rfl, colour, rfl, by simp⟩, Nat.zero_le _, inside⟩

/-- Behind it, the positions are coloured that are coloured in the rest. -/
theorem coloured_behind (colour : IsColour sequence) (rest : List Char) (position : Nat) :
    Coloured (sequence ++ rest) (sequence.length + position) ↔ Coloured rest position := by
  have first : Occurs (sequence ++ rest) 0 sequence.length :=
    ⟨[], sequence, rest, rfl, colour, rfl, by simp⟩
  constructor
  · rintro ⟨start, stop, occurs, order, inside⟩
    rcases first.disjoint occurs with ⟨_, _⟩ | behind | before
    · omega
    · obtain ⟨start, rfl⟩ := Nat.exists_eq_add_of_le behind
      obtain ⟨stop, rfl⟩ := Nat.exists_eq_add_of_le (by omega : sequence.length ≤ stop)
      exact ⟨start, stop, (occurs_append sequence rest start stop).mp occurs, by omega, by omega⟩
    · omega
  · rintro ⟨start, stop, occurs, order, inside⟩
    exact ⟨_, _, (occurs_append sequence rest start stop).mpr occurs, by omega, by omega⟩

/-- What stands at the very beginning begins the text. -/
theorem Occurs.beginsColour (occurs : Occurs text 0 stop) : BeginsColour text := by
  obtain ⟨before, sequence, after, rfl, colour, nothing, -⟩ := occurs
  rw [List.eq_nil_of_length_eq_zero nothing.symm, List.nil_append]
  exact ⟨sequence, colour, List.prefix_append sequence after⟩

/-- A position that no colour sequence begins at does not belong to one if it is the first. -/
theorem not_coloured_zero (plain : ¬ BeginsColour text) : ¬ Coloured text 0 := by
  rintro ⟨start, stop, occurs, order, _⟩
  obtain rfl := Nat.le_zero.mp order
  exact plain occurs.beginsColour

/-- Behind it, the positions are coloured that are coloured in the rest. -/
theorem coloured_succ (c : Char) (plain : ¬ BeginsColour (c :: rest)) (position : Nat) :
    Coloured (c :: rest) (1 + position) ↔ Coloured rest position := by
  constructor
  · rintro ⟨start, stop, occurs, order, inside⟩
    cases start with
    | zero => exact (plain occurs.beginsColour).elim
    | succ start =>
      obtain ⟨stop, rfl⟩ := Nat.exists_eq_add_of_le (by omega : 1 ≤ stop)
      rw [Nat.add_comm start 1] at occurs
      exact ⟨start, stop, (occurs_append [c] rest start stop).mp occurs, by omega, by omega⟩
  · rintro ⟨start, stop, occurs, order, inside⟩
    exact ⟨_, _, (occurs_append [c] rest start stop).mpr occurs, by simp; omega, by simp; omega⟩

end Occurrences

section Characters

/-- Of two parts of a text, each loses the characters at its own positions. -/
theorem outside_append (front back : List Char) (gone goneBehind : Nat → Prop)
    [DecidablePred gone] [DecidablePred goneBehind]
    (behind : ∀ position, gone (front.length + position) ↔ goneBehind position) :
    outside (front ++ back) gone = outside front gone ++ outside back goneBehind := by
  have shifted : ((back.zipIdx front.length).filter fun entry => !decide (gone entry.2)).map
      Prod.fst = outside back goneBehind := by
    rw [List.zipIdx_eq_map_add, List.filter_map, List.map_map, outside]
    congr 1
    apply List.filter_congr
    intro entry _
    simp [behind]
  rw [outside, List.zipIdx_append, List.filter_append, List.map_append, Nat.zero_add, shifted]
  rfl

/-- Nothing is left of a text that loses all its characters. -/
theorem outside_eq_nil (text : List Char) (gone : Nat → Prop) [DecidablePred gone]
    (all : ∀ position < text.length, gone position) : outside text gone = [] := by
  rw [outside, List.map_eq_nil_iff, List.filter_eq_nil_iff]
  rintro ⟨c, position⟩ member
  have within := (List.mem_zipIdx member).2.1
  simpa using all position (by simpa using within)

/-- The pass leaves the characters that belong to no colour sequence. -/
theorem outside_of_sheds (text left : List Char) (sheds : Sheds text left) :
    outside text (Coloured text) = left := by
  induction sheds with
  | nothing => rfl
  | kept c rest left plain _ inductionHypothesis =>
    have first := not_coloured_zero plain
    have parted := outside_append [c] rest (Coloured (c :: rest)) (Coloured rest)
      (coloured_succ c plain)
    have alone : outside [c] (Coloured (c :: rest)) = [c] := by simp [outside, first]
    rw [inductionHypothesis, alone] at parted
    exact parted
  | dropped sequence rest left colour _ inductionHypothesis =>
    rw [outside_append sequence rest _ (Coloured rest) (coloured_behind colour rest),
      outside_eq_nil sequence _ (coloured_of_lt colour rest), inductionHypothesis, List.nil_append]

end Characters

section Cuts

/-- Where a cut divides no colour sequence, both parts are passed over on their own. -/
theorem dropColours_append (text rest : List Char) (whole : ¬ EndsWithin text) :
    dropColours 0 (text ++ rest) = dropColours 0 text ++ dropColours 0 rest := by
  have sheds := (sheds_iff text _).mpr rfl
  generalize dropColours 0 text = left at sheds ⊢
  induction sheds with
  | nothing => rfl
  | kept c text left plain _ inductionHypothesis =>
    have still : ¬ BeginsColour (c :: text ++ rest) := by
      rintro ⟨sequence, colour, begins⟩
      rcases List.prefix_or_prefix_of_prefix begins (List.prefix_append _ rest) with within | beyond
      · exact plain ⟨sequence, colour, within⟩
      · refine whole ⟨c :: text, sequence, by simp, List.suffix_rfl, colour, beyond, ?_⟩
        rintro rfl
        exact plain ⟨_, colour, List.prefix_rfl⟩
    have later : ¬ EndsWithin text := by
      rintro ⟨ending, sequence, nonempty, ends, divided⟩
      exact whole ⟨ending, sequence, nonempty, ends.trans (List.suffix_cons c text), divided⟩
    rw [List.cons_append] at still ⊢
    rw [dropColours_kept c _ still, inductionHypothesis later, List.cons_append]
  | dropped sequence text left colour _ inductionHypothesis =>
    have later : ¬ EndsWithin text := by
      rintro ⟨ending, other, nonempty, ends, divided⟩
      exact whole ⟨ending, other, nonempty, ends.trans (List.suffix_append sequence text), divided⟩
    rw [List.append_assoc, dropColours_colour sequence _ colour, inductionHypothesis later]

/-- A beginning of a colour sequence ends with none but the characters in front of its letter. -/
theorem last_of_endsWithin (text : List Char) (last : Char)
    (divided : EndsWithin (text ++ [last])) :
    last = escape ∨ last = '[' ∨ isColourParameter last = true := by
  obtain ⟨ending, sequence, nonempty, ends, ⟨parameters, proper, rfl⟩, begins, apart⟩ := divided
  rcases ending.eq_nil_or_concat with rfl | ⟨front, c, rfl⟩
  · exact (nonempty rfl).elim
  rw [List.concat_eq_append] at ends begins apart
  obtain ⟨before, same⟩ := ends
  rw [← List.append_assoc] at same
  obtain ⟨-, sameLast⟩ := List.append_inj' same rfl
  obtain rfl : c = last := by simpa using sameLast
  have short : front ++ [c] <+: escape :: '[' :: parameters :=
    (List.prefix_concat_iff.mp begins).resolve_left apart
  have member : c ∈ escape :: '[' :: parameters := short.subset (by simp)
  rw [List.mem_cons, List.mem_cons] at member
  rcases member with first | second | parameter
  · exact .inl first
  · exact .inr (.inl second)
  · exact .inr (.inr (proper c parameter))

/-- Behind a line feed, nothing is cut that belongs together. -/
theorem not_endsWithin_lineFeed (content : List Char) : ¬ EndsWithin (content ++ ['\n']) := by
  intro divided
  have last := last_of_endsWithin content '\n' divided
  revert last
  decide

/-- Pieces are passed over one by one if only the last may end within a colour sequence. -/
theorem dropColours_flatten (pieces : List (List Char))
    (whole : ∀ piece ∈ pieces.dropLast, ¬ EndsWithin piece) :
    dropColours 0 pieces.flatten = (pieces.map (dropColours 0)).flatten := by
  induction pieces with
  | nil => rfl
  | cons piece pieces inductionHypothesis =>
    cases pieces with
    | nil => simp
    | cons other pieces =>
      rw [List.dropLast_cons_cons, List.forall_mem_cons] at whole
      rw [List.flatten_cons, dropColours_append piece _ whole.1, inductionHypothesis whole.2]
      rfl

/-- The pieces put together again are the text. -/
theorem flatten_cutBehind (mark : Char) (text : List Char) :
    (cutBehind mark text).flatten = text := by
  induction text with
  | nil => rfl
  | cons c rest inductionHypothesis =>
    by_cases atMark : c = mark
    · simp [cutBehind, atMark, inductionHypothesis]
    · rw [cutBehind, if_neg atMark]
      cases pieces : cutBehind mark rest with
      | nil =>
        rw [pieces] at inductionHypothesis
        simp [← inductionHypothesis]
      | cons piece pieces' =>
        rw [pieces] at inductionHypothesis
        simp [← inductionHypothesis]

/-- Every piece but the last ends with the character it was cut behind, which stands nowhere else
in it. -/
theorem ends_cutBehind (mark : Char) (text : List Char) :
    ∀ piece ∈ (cutBehind mark text).dropLast,
      ∃ content, mark ∉ content ∧ piece = content ++ [mark] := by
  induction text with
  | nil => simp [cutBehind]
  | cons c rest inductionHypothesis =>
    rw [cutBehind]
    cases pieces : cutBehind mark rest with
    | nil => split <;> simp
    | cons first others =>
      rw [pieces] at inductionHypothesis
      by_cases atMark : c = mark
      · rw [if_pos atMark, List.dropLast_cons_cons, List.forall_mem_cons]
        exact ⟨⟨[], List.not_mem_nil, by rw [atMark]; rfl⟩, inductionHypothesis⟩
      · rw [if_neg atMark]
        cases others with
        | nil => simp
        | cons other others =>
          rw [List.dropLast_cons_cons, List.forall_mem_cons] at inductionHypothesis ⊢
          obtain ⟨⟨content, unmarked, rfl⟩, later⟩ := inductionHypothesis
          refine ⟨⟨c :: content, ?_, rfl⟩, later⟩
          rw [List.mem_cons, not_or]
          exact ⟨Ne.symm atMark, unmarked⟩

/-- The lines put together again are the text. -/
theorem join_lines (text : String) : String.join (lines text) = text := by
  rw [← String.toList_inj, String.toList_join, lines, List.flatMap_map]
  simpa [List.flatMap_id'] using flatten_cutBehind '\n' text.toList

/-- The lines of a text are passed over one by one. -/
theorem withoutColour_lines (text : String) :
    withoutColour text = String.join ((lines text).map withoutColour) := by
  have whole : ∀ piece ∈ (cutBehind '\n' text.toList).dropLast, ¬ EndsWithin piece := by
    intro piece member
    obtain ⟨content, -, rfl⟩ := ends_cutBehind '\n' text.toList piece member
    exact not_endsWithin_lineFeed content
  have parted := dropColours_flatten (cutBehind '\n' text.toList) whole
  rw [flatten_cutBehind] at parted
  rw [← String.toList_inj, String.toList_join, toList_withoutColour, parted]
  simp [lines, toList_withoutColour, List.flatMap_def, Function.comp_def]

end Cuts

/-- Colour sequences in a text are pairwise disjoint, and leaving them out leaves exactly the
characters outside them, in their order. So a text in which there are none stays as it is; a text
that does not end within a colour sequence is passed over without regard to what follows; and a
text is passed over line by line, which is how the trace of an exception is reported. -/
theorem withoutColour_outside (text rest name : String) (thrown : Thrown) :
    (∀ start stop otherStart otherStop, Occurs text.toList start stop →
        Occurs text.toList otherStart otherStop →
        (start = otherStart ∧ stop = otherStop) ∨ stop ≤ otherStart ∨ otherStop ≤ start) ∧
      (withoutColour text).toList = outside text.toList (Coloured text.toList) ∧
      ((∀ start stop, ¬ Occurs text.toList start stop) → withoutColour text = text) ∧
      (¬ EndsWithin text.toList →
        withoutColour (text ++ rest) = withoutColour text ++ withoutColour rest) ∧
      String.join (lines text) = text ∧
      withoutColour text = String.join ((lines text).map withoutColour) ∧
      ((Element.exception name (some thrown)).child? "stackTrace").bind Node.value =
        some (String.join ((lines thrown.trace).map withoutColour)) := by
  have positions := outside_of_sheds text.toList _ ((sheds_iff text.toList _).mpr rfl)
  refine ⟨?_, ?_, ?_, ?_, join_lines text, withoutColour_lines text, ?_⟩
  · intro start stop otherStart otherStop occurs occursToo
    exact occurs.disjoint occursToo
  · rw [toList_withoutColour, positions]
  · intro nowhere
    rw [← String.toList_inj, toList_withoutColour, dropColours_eq_self_iff]
    rintro ⟨sequence, colour, before, after, same⟩
    exact nowhere _ _ ⟨before, sequence, after, same.symm, colour, rfl, rfl⟩
  · intro whole
    rw [← String.toList_inj, String.toList_append, toList_withoutColour, toList_withoutColour,
      toList_withoutColour, String.toList_append, dropColours_append text.toList rest.toList whole]
  · rw [← withoutColour_lines]
    rfl

/-- An interrupted sequence that is left behind and a whole one at the end: the cut behind them
divides neither. -/
theorem withoutColour_outside_red :
    let text := "\x1b[\x1b[1mred\x1b[0m"
    ¬ EndsWithin text.toList ∧
      withoutColour (text ++ "[0m") = withoutColour text ++ withoutColour "[0m" ∧
      withoutColour text = "\x1b[red" := by
  intro text
  have whole : ¬ EndsWithin text.toList := by
    have ends : text.toList = "\x1b[\x1b[1mred\x1b[0".toList ++ ['m'] := by decide
    rw [ends]
    intro divided
    have last := last_of_endsWithin _ 'm' divided
    revert last
    decide
  have law := withoutColour_outside text "[0m" "exception" default
  exact ⟨whole, law.2.2.2.1 whole, by decide⟩

end BuildChronicle.Text
