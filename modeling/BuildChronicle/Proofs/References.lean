import BuildChronicle.Project.Expression

/-!
# Texts taken apart at their references

A text is split into references and the literal text around them. Many splits have the same
text, but only one of them is leftmost: no reference begins within its literal texts. Evaluating
a text amounts to replacing the references of that split and to keeping everything else.

All three facts are shown along the same induction, which follows the reading of a text: nothing
is left, a reference comes next, or a single literal character does.
-/

namespace BuildChronicle.Expression

/-- A name that can be referred to: at least one character, none of them a closing brace. -/
def IsName (name : List Char) : Prop := name ≠ [] ∧ '\x7d' ∉ name

/-- Does a text begin with a reference? -/
def BeginsReference (text : List Char) : Prop :=
  ∃ name rest, IsName name ∧ text = written name ++ rest

/-- A literal text, perhaps followed by a reference to a name and everything after it. -/
inductive Split where
  | plain (literal : List Char)
  | reference (literal name : List Char) (rest : Split)

/-- No reference begins within a literal text where this rest follows it. -/
def Barren (literal rest : List Char) : Prop :=
  ∀ before within, literal = before ++ within → within ≠ [] → ¬ BeginsReference (within ++ rest)

/-- What a reference is replaced by: the value of its name, or itself if that is not known. -/
def replacement (known : String → Option String) (name : List Char) : List Char :=
  match known (String.ofList name) with
  | some value => value.toList
  | none => written name

namespace Split

/-- The text that was split. -/
def text : Split → List Char
  | plain literal => literal
  | reference literal name rest => literal ++ written name ++ rest.text

/-- The references are proper ones, and none begins within a literal text. -/
def Leftmost : Split → Prop
  | plain literal => Barren literal []
  | reference literal name rest =>
    Barren literal (written name ++ rest.text) ∧ IsName name ∧ rest.Leftmost

/-- The text with every reference replaced. -/
def substituted (known : String → Option String) : Split → List Char
  | plain literal => literal
  | reference literal name rest => literal ++ replacement known name ++ rest.substituted known

/-- The split with one more character in front. -/
def prepend (c : Char) : Split → Split
  | plain literal => plain (c :: literal)
  | reference literal name rest => reference (c :: literal) name rest

end Split

section Reading

/-- A name is read up to the brace that closes its reference. -/
theorem nameUpToBrace?_append (name rest : List Char) (proper : '\x7d' ∉ name) :
    nameUpToBrace? (name ++ '\x7d' :: rest) = some name := by
  induction name with
  | nil => simp [nameUpToBrace?]
  | cons c name inductionHypothesis =>
    rw [List.mem_cons, not_or] at proper
    simp [nameUpToBrace?, Ne.symm proper.1, inductionHypothesis proper.2]

/-- A name is only read where a brace closes it. -/
theorem closed_of_nameUpToBrace? (text name : List Char) (found : nameUpToBrace? text = some name) :
    '\x7d' ∉ name ∧ ∃ rest, text = name ++ '\x7d' :: rest := by
  induction text generalizing name with
  | nil => cases found
  | cons c text inductionHypothesis =>
    rw [nameUpToBrace?] at found
    split at found
    · rename_i closing
      cases found
      exact ⟨List.not_mem_nil, text, by rw [closing]; rfl⟩
    · rename_i within
      obtain ⟨later, foundLater, rfl⟩ := Option.map_eq_some_iff.mp found
      obtain ⟨proper, rest, rfl⟩ := inductionHypothesis later foundLater
      refine ⟨?_, rest, rfl⟩
      rw [List.mem_cons, not_or]
      exact ⟨Ne.symm within, proper⟩

/-- A reference is found wherever one begins. -/
theorem reference?_written (name rest : List Char) (proper : IsName name) :
    reference? (written name ++ rest) = some name := by
  have found := nameUpToBrace?_append name rest proper.2
  simp [written, reference?, found, Option.filter, proper.1]

/-- A reference is found only where one begins. -/
theorem written_of_reference? (text name : List Char) (found : reference? text = some name) :
    IsName name ∧ ∃ rest, text = written name ++ rest := by
  rw [reference?.eq_def] at found
  split at found
  · rename_i c rest
    split at found
    · rename_i opening
      obtain ⟨read, nonempty⟩ := Option.filter_eq_some_iff.mp found
      obtain ⟨proper, after, rfl⟩ := closed_of_nameUpToBrace? rest name read
      refine ⟨⟨by simpa using nonempty, proper⟩, after, ?_⟩
      rw [opening]
      simp [written]
    · cases found
  · cases found

/-- No reference is found exactly where none begins. -/
theorem reference?_eq_none_iff (text : List Char) :
    reference? text = none ↔ ¬ BeginsReference text := by
  constructor
  · rintro missing ⟨name, rest, proper, rfl⟩
    rw [reference?_written name rest proper] at missing
    cases missing
  · intro plain
    cases found : reference? text with
    | none => rfl
    | some name =>
      obtain ⟨proper, rest, same⟩ := written_of_reference? text name found
      exact (plain ⟨name, rest, proper, same⟩).elim

/-- Two references at the beginning of the same text are the same. -/
theorem written_append_inj (name other rest others : List Char) (proper : IsName name)
    (otherProper : IsName other) (same : written name ++ rest = written other ++ others) :
    name = other ∧ rest = others := by
  have read := reference?_written name rest proper
  rw [same, reference?_written other others otherProper] at read
  have sameName : name = other := (Option.some.inj read).symm
  rw [sameName] at same
  exact ⟨sameName, List.append_cancel_left same⟩

end Reading

section Evaluating

variable (known : String → Option String)

/-- The characters to be left out are left out. -/
theorem evaluateFrom_skip (skipped rest : List Char) :
    evaluateFrom known skipped.length (skipped ++ rest) = evaluateFrom known 0 rest := by
  induction skipped with
  | nil => rfl
  | cons c skipped inductionHypothesis =>
    rw [List.length_cons, List.cons_append, evaluateFrom]
    exact inductionHypothesis

/-- A reference is replaced where it begins, and what replaces it is not read again. -/
theorem evaluateFrom_written (name rest : List Char) (proper : IsName name) :
    evaluateFrom known 0 (written name ++ rest) =
      replacement known name ++ evaluateFrom known 0 rest := by
  have found := reference?_written name rest proper
  have skipped := evaluateFrom_skip known ('\x7b' :: name ++ ['\x7d']) rest
  have length : ('\x7b' :: name ++ ['\x7d']).length = name.length + 2 := by simp
  rw [length] at skipped
  rw [written, List.cons_append, List.cons_append] at found ⊢
  rw [evaluateFrom, found]
  exact congrArg (replacement known name ++ ·) skipped

/-- A character is kept where no reference begins. -/
theorem evaluateFrom_kept (c : Char) (rest : List Char) (plain : ¬ BeginsReference (c :: rest)) :
    evaluateFrom known 0 (c :: rest) = c :: evaluateFrom known 0 rest := by
  rw [evaluateFrom, (reference?_eq_none_iff _).mpr plain]

end Evaluating

/-- A literal text is barren if no reference begins at its first character and its rest is. -/
theorem barren_cons (c : Char) (literal rest : List Char) :
    Barren (c :: literal) rest ↔
      ¬ BeginsReference (c :: (literal ++ rest)) ∧ Barren literal rest := by
  constructor
  · intro barren
    refine ⟨barren [] (c :: literal) rfl (by simp), ?_⟩
    intro before within parted nonempty
    exact barren (c :: before) within (by rw [parted]; rfl) nonempty
  · rintro ⟨plain, barren⟩ before within parted nonempty
    cases before with
    | nil =>
      rw [List.nil_append] at parted
      rw [← parted]
      exact plain
    | cons d before => exact barren before within (List.cons.inj parted).2 nonempty

/-- Within nothing, nothing begins. -/
theorem barren_nil (rest : List Char) : Barren [] rest := by
  intro before within parted nonempty
  exact (nonempty (List.append_eq_nil_iff.mp parted.symm).2).elim

namespace Split

@[simp] theorem text_prepend (c : Char) (split : Split) :
    (split.prepend c).text = c :: split.text := by
  cases split <;> rfl

@[simp] theorem substituted_prepend (known : String → Option String) (c : Char) (split : Split) :
    (split.prepend c).substituted known = c :: split.substituted known := by
  cases split <;> rfl

/-- A split is still leftmost with a character in front if no reference begins there. -/
theorem leftmost_prepend (c : Char) (split : Split) :
    (split.prepend c).Leftmost ↔ ¬ BeginsReference (c :: split.text) ∧ split.Leftmost := by
  cases split with
  | plain literal =>
    rw [prepend, Leftmost, barren_cons, text, Leftmost, List.append_nil]
  | reference literal name rest =>
    rw [prepend, Leftmost, barren_cons, text, Leftmost, List.append_assoc, and_assoc]

/-- Splits are put together from their end by references and single characters. -/
theorem reading {motive : Split → Prop} (nothing : motive (plain []))
    (reference : ∀ name rest, motive rest → motive (.reference [] name rest))
    (prepend : ∀ c split, motive split → motive (split.prepend c)) (split : Split) :
    motive split := by
  have literally (literal : List Char) (rest : Split) (ofRest : motive rest) :
      motive (literal.foldr Split.prepend rest) := by
    induction literal with
    | nil => exact ofRest
    | cons c literal inductionHypothesis => exact prepend c _ inductionHypothesis
  induction split with
  | plain literal =>
    have whole : literal.foldr Split.prepend (plain []) = plain literal := by
      induction literal with
      | nil => rfl
      | cons c literal inductionHypothesis => rw [List.foldr_cons, inductionHypothesis]; rfl
    rw [← whole]
    exact literally literal _ nothing
  | reference literal name rest inductionHypothesis =>
    have whole : literal.foldr Split.prepend (.reference [] name rest) =
        .reference literal name rest := by
      induction literal with
      | nil => rfl
      | cons c literal inductionHypothesis => rw [List.foldr_cons, inductionHypothesis]; rfl
    rw [← whole]
    exact literally literal _ (reference name rest inductionHypothesis)

/-- Evaluating a text replaces the references of its leftmost split and keeps everything else. -/
theorem evaluateFrom_text (known : String → Option String) (split : Split)
    (leftmost : split.Leftmost) :
    evaluateFrom known 0 split.text = split.substituted known := by
  induction split using reading with
  | nothing => rfl
  | reference name rest inductionHypothesis =>
    obtain ⟨_, proper, later⟩ := leftmost
    have evaluated := evaluateFrom_written known name rest.text proper
    rw [inductionHypothesis later] at evaluated
    exact evaluated
  | prepend c split inductionHypothesis =>
    obtain ⟨plain, later⟩ := (leftmost_prepend c split).mp leftmost
    rw [text_prepend, substituted_prepend, evaluateFrom_kept known c _ plain,
      inductionHypothesis later]

/-- A text has at most one leftmost split. -/
theorem leftmost_unique (split other : Split) (leftmost : split.Leftmost)
    (otherLeftmost : other.Leftmost) (same : split.text = other.text) : split = other := by
  induction split using reading generalizing other with
  | nothing =>
    induction other using reading with
    | nothing => rfl
    | reference name rest _ => cases same
    | prepend c other _ => simp [text] at same
  | reference name rest inductionHypothesis =>
    obtain ⟨_, proper, later⟩ := leftmost
    induction other using reading with
    | nothing => cases same
    | reference otherName otherRest _ =>
      obtain ⟨_, otherProper, otherLater⟩ := otherLeftmost
      obtain ⟨rfl, sameRest⟩ :=
        written_append_inj name otherName rest.text otherRest.text proper otherProper same
      rw [inductionHypothesis otherRest later otherLater sameRest]
    | prepend c other _ =>
      obtain ⟨plain, _⟩ := (leftmost_prepend c other).mp otherLeftmost
      rw [text_prepend] at same
      rw [← same] at plain
      exact (plain ⟨name, rest.text, proper, rfl⟩).elim
  | prepend c split inductionHypothesis =>
    obtain ⟨plain, later⟩ := (leftmost_prepend c split).mp leftmost
    rw [text_prepend] at same
    induction other using reading with
    | nothing => cases same
    | reference name rest _ =>
      rw [same] at plain
      exact (plain ⟨name, rest.text, otherLeftmost.2.1, rfl⟩).elim
    | prepend d other _ =>
      obtain ⟨_, otherLater⟩ := (leftmost_prepend d other).mp otherLeftmost
      rw [text_prepend] at same
      obtain ⟨rfl, sameText⟩ := List.cons.inj same
      rw [inductionHypothesis other later otherLater sameText]

/-- Every text has a leftmost split. The induction is on its length, since a whole reference is
split off at once. -/
theorem exists_leftmost (text : List Char) :
    ∃ split : Split, split.text = text ∧ split.Leftmost := by
  induction size : text.length using Nat.strongRecOn generalizing text with
  | ind length inductionHypothesis =>
    cases text with
    | nil => exact ⟨plain [], rfl, barren_nil []⟩
    | cons c rest =>
      by_cases begins : BeginsReference (c :: rest)
      · obtain ⟨name, later, proper, same⟩ := begins
        have shorter : later.length < length := by
          rw [← size, same, List.length_append, written, List.length_append, List.length_cons]
          omega
        obtain ⟨split, rfl, leftmost⟩ := inductionHypothesis later.length shorter later rfl
        exact ⟨.reference [] name split, same.symm, barren_nil _, proper, leftmost⟩
      · have shorter : rest.length < length := by
          rw [← size, List.length_cons]
          omega
        obtain ⟨split, rfl, leftmost⟩ := inductionHypothesis rest.length shorter rest rfl
        exact ⟨split.prepend c, text_prepend c split,
          (leftmost_prepend c split).mpr ⟨begins, leftmost⟩⟩

end Split

end BuildChronicle.Expression
