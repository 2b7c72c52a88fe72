import BuildChronicle.Text.Colour

/-!
# One pass over colour sequences

A colour sequence is said here by what it looks like, not by how it is found. The pass that
leaves colour sequences out is then described by a relation: where a colour sequence begins, all
of it goes, and everywhere else a single character stays. `sheds_iff` says that the pass does
just that.

Two facts about the shape carry most arguments. An escape character stands only at the
beginning of a colour sequence, so no sequence reaches across another escape character. And the
letter that ends a sequence stands only at its end, so no sequence is part of a longer one.
-/

namespace BuildChronicle.Text

/-- A colour sequence: an escape character, a bracket, parameters, and the letter `m`. -/
def IsColour (sequence : List Char) : Prop :=
  ∃ parameters : List Char, (∀ c ∈ parameters, isColourParameter c = true) ∧
    sequence = escape :: '[' :: parameters ++ ['m']

/-- Does a text begin with a colour sequence? -/
def BeginsColour (text : List Char) : Prop := ∃ sequence, IsColour sequence ∧ sequence <+: text

/-- Is there a colour sequence anywhere in a text? -/
def HasColour (text : List Char) : Prop := ∃ sequence, IsColour sequence ∧ sequence <:+: text

/-- Nothing but colour sequences, one after the other. -/
inductive Colours : List Char → Prop where
  | nothing : Colours []
  | more (sequence rest : List Char) (colour : IsColour sequence) (tail : Colours rest) :
      Colours (sequence ++ rest)

/-- What is left of a text after one pass: a colour sequence is dropped where one begins, and
everywhere else a single character is kept. -/
inductive Sheds : List Char → List Char → Prop where
  | nothing : Sheds [] []
  | kept (c : Char) (rest left : List Char) (plain : ¬ BeginsColour (c :: rest))
      (tail : Sheds rest left) : Sheds (c :: rest) (c :: left)
  | dropped (sequence rest left : List Char) (colour : IsColour sequence)
      (tail : Sheds rest left) : Sheds (sequence ++ rest) left

section Shape

variable {sequence other : List Char}

/-- The letter that ends a colour sequence is no parameter. -/
theorem isColourParameter_m : isColourParameter 'm' = false := by decide

/-- Neither is the escape character that begins one. -/
theorem isColourParameter_escape : isColourParameter escape = false := by decide

/-- Where a list of characters is cut in front of the first letter `m`, the rest begins with it. -/
theorem parametersLength?_append (parameters rest : List Char)
    (proper : ∀ c ∈ parameters, isColourParameter c = true) :
    parametersLength? (parameters ++ 'm' :: rest) = some (parameters.length + 1) := by
  induction parameters with
  | nil => simp [parametersLength?]
  | cons c parameters inductionHypothesis =>
    have parameter : isColourParameter c = true := proper c List.mem_cons_self
    have notEnd : c ≠ 'm' := by
      rintro rfl
      rw [isColourParameter_m] at parameter
      cases parameter
    have later := inductionHypothesis fun c member => proper c (List.mem_cons_of_mem _ member)
    simp [parametersLength?, notEnd, parameter, later]

/-- A length is found only where parameters and the letter stand. -/
theorem parameters_of_length (text : List Char) (length : Nat)
    (found : parametersLength? text = some length) :
    ∃ parameters rest, (∀ c ∈ parameters, isColourParameter c = true) ∧
      text = parameters ++ 'm' :: rest ∧ length = parameters.length + 1 := by
  induction text generalizing length with
  | nil => cases found
  | cons c text inductionHypothesis =>
    rw [parametersLength?] at found
    split at found
    · rename_i atEnd
      exact ⟨[], text, by simp, by rw [atEnd]; rfl, (Option.some.inj found).symm⟩
    split at found
    · rename_i parameter
      obtain ⟨later, foundLater, rfl⟩ := Option.map_eq_some_iff.mp found
      obtain ⟨parameters, rest, proper, rfl, rfl⟩ := inductionHypothesis later foundLater
      refine ⟨c :: parameters, rest, ?_, rfl, rfl⟩
      intro other member
      rcases List.mem_cons.mp member with rfl | member
      · exact parameter
      · exact proper other member
    · cases found

/-- The length of a colour sequence is found wherever one begins. -/
theorem colourLength_append (colour : IsColour sequence) (rest : List Char) :
    colourLength (sequence ++ rest) = sequence.length := by
  obtain ⟨parameters, proper, rfl⟩ := colour
  have found := parametersLength?_append parameters rest proper
  simp [colourLength, found]

/-- Where a length is found, a colour sequence of that length begins. -/
theorem colour_of_length (text : List Char) (positive : colourLength text ≠ 0) :
    ∃ sequence rest, IsColour sequence ∧ text = sequence ++ rest := by
  match text with
  | [] => exact (positive rfl).elim
  | [c] => exact (positive rfl).elim
  | c :: d :: text =>
    rw [colourLength.eq_def] at positive
    split at positive
    · rename_i c' rest same
      obtain ⟨rfl, rfl, rfl⟩ : c = c' ∧ d = '[' ∧ text = rest := by simpa using same
      split at positive
      · rename_i escaped
        cases found : parametersLength? text with
        | none => simp [found] at positive
        | some length =>
          obtain ⟨parameters, rest, proper, rfl, _⟩ := parameters_of_length text length found
          exact ⟨escape :: '[' :: parameters ++ ['m'], rest, ⟨parameters, proper, rfl⟩,
            by simp [escaped]⟩
      · exact (positive rfl).elim
    · exact (positive rfl).elim

/-- No length is found exactly where no colour sequence begins. -/
theorem colourLength_eq_zero_iff (text : List Char) :
    colourLength text = 0 ↔ ¬ BeginsColour text := by
  constructor
  · rintro missing ⟨sequence, colour, rest, rfl⟩
    rw [colourLength_append colour rest] at missing
    obtain ⟨parameters, _, rfl⟩ := colour
    simp at missing
  · intro plain
    by_cases missing : colourLength text = 0
    · exact missing
    · obtain ⟨sequence, rest, colour, rfl⟩ := colour_of_length text missing
      exact (plain ⟨sequence, colour, List.prefix_append _ _⟩).elim

/-- A colour sequence begins with an escape character and has no other. -/
theorem colour_cons (colour : IsColour sequence) :
    ∃ tail, sequence = escape :: tail ∧ escape ∉ tail := by
  obtain ⟨parameters, proper, rfl⟩ := colour
  refine ⟨'[' :: parameters ++ ['m'], rfl, ?_⟩
  intro member
  have among : escape ∈ parameters := by simpa [escape] using member
  have parameter := proper escape among
  rw [isColourParameter_escape] at parameter
  cases parameter

/-- No colour sequence is part of a longer one that begins with it. -/
theorem colour_eq_of_prefix (colour : IsColour sequence) (otherColour : IsColour other)
    (within : sequence <+: other) : sequence = other := by
  obtain ⟨rest, same⟩ := within
  have length := colourLength_append otherColour []
  rw [List.append_nil, ← same, colourLength_append colour rest, List.length_append] at length
  have nothing : rest = [] := List.eq_nil_of_length_eq_zero (by omega)
  rw [← same, nothing, List.append_nil]

/-- A colour sequence that begins in front of an escape character ends there too. -/
theorem colour_prefix_of_escape (colour : IsColour sequence) (front rest : List Char)
    (nonempty : front ≠ []) (begins : sequence <+: front ++ escape :: rest) :
    sequence <+: front := by
  rcases List.prefix_or_prefix_of_prefix begins (List.prefix_append front _) with within | beyond
  · exact within
  obtain ⟨surplus, rfl⟩ := beyond
  rw [List.prefix_append_right_inj] at begins
  cases surplus with
  | nil => exact ⟨[], by simp⟩
  | cons c surplus =>
    obtain ⟨rfl, _⟩ := List.cons_prefix_cons.mp begins
    obtain ⟨tail, same, unescaped⟩ := colour_cons colour
    obtain ⟨first, front, rfl⟩ := List.exists_cons_of_ne_nil nonempty
    obtain ⟨rfl, rfl⟩ : first = escape ∧ front ++ escape :: surplus = tail := by simpa using same
    exact (unescaped (by simp)).elim

/-- What does not begin with an escape character does not begin with a colour sequence. -/
theorem not_beginsColour_of_ne (c : Char) (rest : List Char) (unescaped : c ≠ escape) :
    ¬ BeginsColour (c :: rest) := by
  rintro ⟨sequence, colour, begins⟩
  obtain ⟨tail, rfl, _⟩ := colour_cons colour
  exact unescaped (List.cons_prefix_cons.mp begins).1.symm

/-- A text within which no colour sequence begins first has no such beginning when it is cut. -/
theorem not_beginsColour_of_append (text rest : List Char)
    (plain : ¬ BeginsColour (text ++ rest)) : ¬ BeginsColour text := by
  rintro ⟨sequence, colour, begins⟩
  exact plain ⟨sequence, colour, begins.trans (List.prefix_append _ _)⟩

end Shape

section Pass

/-- The characters to be left out are left out. -/
theorem dropColours_skip (skipped rest : List Char) :
    dropColours skipped.length (skipped ++ rest) = dropColours 0 rest := by
  induction skipped with
  | nil => rfl
  | cons c skipped inductionHypothesis =>
    rw [List.length_cons, List.cons_append, dropColours]
    exact inductionHypothesis

/-- A colour sequence is dropped where it begins. -/
theorem dropColours_colour (sequence rest : List Char) (colour : IsColour sequence) :
    dropColours 0 (sequence ++ rest) = dropColours 0 rest := by
  have length := colourLength_append colour rest
  obtain ⟨tail, rfl, _⟩ := colour_cons colour
  rw [List.cons_append] at length ⊢
  rw [dropColours, length, List.length_cons]
  exact dropColours_skip tail rest

/-- A character is kept where no colour sequence begins. -/
theorem dropColours_kept (c : Char) (rest : List Char) (plain : ¬ BeginsColour (c :: rest)) :
    dropColours 0 (c :: rest) = c :: dropColours 0 rest := by
  rw [dropColours, (colourLength_eq_zero_iff _).mpr plain]

/-- Colour sequences are dropped one after the other. -/
theorem dropColours_colours (colours rest : List Char) (only : Colours colours) :
    dropColours 0 (colours ++ rest) = dropColours 0 rest := by
  induction only with
  | nothing => rfl
  | more sequence colours colour _ inductionHypothesis =>
    rw [List.append_assoc, dropColours_colour sequence _ colour, inductionHypothesis]

/-- The pass leaves what the relation says is left. -/
theorem dropColours_of_sheds (text left : List Char) (sheds : Sheds text left) :
    dropColours 0 text = left := by
  induction sheds with
  | nothing => rfl
  | kept c rest left plain _ inductionHypothesis =>
    rw [dropColours_kept c rest plain, inductionHypothesis]
  | dropped sequence rest left colour _ inductionHypothesis =>
    rw [dropColours_colour sequence rest colour, inductionHypothesis]

/-- Something is left of every text. The induction is on its length, since a whole colour sequence
goes at once. -/
theorem exists_sheds (text : List Char) : ∃ left, Sheds text left := by
  induction size : text.length using Nat.strongRecOn generalizing text with
  | ind length inductionHypothesis =>
    cases text with
    | nil => exact ⟨[], .nothing⟩
    | cons c rest =>
      by_cases begins : BeginsColour (c :: rest)
      · obtain ⟨sequence, colour, rest, same⟩ := begins
        obtain ⟨tail, rfl, _⟩ := colour_cons colour
        have shorter : rest.length < length := by
          rw [← size, ← same, List.length_append, List.length_cons]
          omega
        obtain ⟨left, sheds⟩ := inductionHypothesis rest.length shorter rest rfl
        rw [← same]
        exact ⟨left, .dropped _ rest left colour sheds⟩
      · have shorter : rest.length < length := by
          rw [← size, List.length_cons]
          omega
        obtain ⟨left, sheds⟩ := inductionHypothesis rest.length shorter rest rfl
        exact ⟨c :: left, .kept c rest left begins sheds⟩

/-- The pass leaves exactly what the relation says is left. -/
theorem sheds_iff (text left : List Char) : Sheds text left ↔ dropColours 0 text = left := by
  constructor
  · exact dropColours_of_sheds text left
  · rintro rfl
    obtain ⟨left, sheds⟩ := exists_sheds text
    rw [dropColours_of_sheds text left sheds]
    exact sheds

/-- At an escape character a text can be cut: both parts are passed over on their own. -/
theorem dropColours_append_escape (text rest : List Char) :
    dropColours 0 (text ++ escape :: rest) =
      dropColours 0 text ++ dropColours 0 (escape :: rest) := by
  have sheds := (sheds_iff text _).mpr rfl
  generalize dropColours 0 text = left at sheds ⊢
  induction sheds with
  | nothing => rfl
  | kept c text left plain _ inductionHypothesis =>
    have still : ¬ BeginsColour (c :: text ++ escape :: rest) := by
      rintro ⟨sequence, colour, begins⟩
      exact plain ⟨sequence, colour,
        colour_prefix_of_escape colour (c :: text) rest (by simp) begins⟩
    rw [List.cons_append] at still ⊢
    rw [dropColours_kept c _ still, inductionHypothesis, List.cons_append]
  | dropped sequence text left colour _ inductionHypothesis =>
    rw [List.append_assoc, dropColours_colour sequence _ colour, inductionHypothesis]

/-- A pass never adds anything, and it takes something away where there is a colour sequence. -/
theorem length_of_sheds (text left : List Char) (sheds : Sheds text left) :
    left.length ≤ text.length ∧ (HasColour text → left.length < text.length) := by
  induction sheds with
  | nothing =>
    refine ⟨Nat.le_refl _, ?_⟩
    rintro ⟨sequence, colour, within⟩
    obtain ⟨tail, rfl, _⟩ := colour_cons colour
    cases List.infix_nil.mp within
  | kept c rest left plain _ inductionHypothesis =>
    obtain ⟨most, fewer⟩ := inductionHypothesis
    refine ⟨Nat.succ_le_succ most, ?_⟩
    rintro ⟨sequence, colour, within⟩
    rcases List.infix_cons_iff.mp within with begins | later
    · exact (plain ⟨sequence, colour, begins⟩).elim
    · exact Nat.succ_lt_succ (fewer ⟨sequence, colour, later⟩)
  | dropped sequence rest left colour _ inductionHypothesis =>
    obtain ⟨tail, rfl, _⟩ := colour_cons colour
    have most := inductionHypothesis.1
    constructor
    · rw [List.length_append]
      omega
    · intro _
      rw [List.length_append, List.length_cons]
      omega

/-- A text without colour sequences is left as it is. -/
theorem sheds_self (text : List Char) (plain : ¬ HasColour text) : Sheds text text := by
  induction text with
  | nil => exact .nothing
  | cons c rest inductionHypothesis =>
    apply Sheds.kept
    · rintro ⟨sequence, colour, begins⟩
      exact plain ⟨sequence, colour, begins.isInfix⟩
    · apply inductionHypothesis
      rintro ⟨sequence, colour, within⟩
      exact plain ⟨sequence, colour, List.infix_cons_iff.mpr (.inr within)⟩

/-- Exactly the texts without colour sequences stay what they are. -/
theorem dropColours_eq_self_iff (text : List Char) :
    dropColours 0 text = text ↔ ¬ HasColour text := by
  constructor
  · intro same coloured
    have fewer := (length_of_sheds text _ ((sheds_iff text _).mpr rfl)).2 coloured
    rw [same] at fewer
    exact Nat.lt_irrefl _ fewer
  · intro plain
    exact dropColours_of_sheds text text (sheds_self text plain)

/-- The characters of a text without its colour sequences. -/
theorem toList_withoutColour (text : String) :
    (withoutColour text).toList = dropColours 0 text.toList := by
  rw [withoutColour, String.toList_ofList]

end Pass

end BuildChronicle.Text
