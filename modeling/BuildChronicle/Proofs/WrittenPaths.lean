import Mathlib.Data.List.Basic
import BuildChronicle.Path

/-!
# Written paths

Reading a path that was written gives the path back. Fields hold no separator, so cutting is
inverse to joining, and the components of a path are found again as long as each of them is a
name: not empty, not one of the two dots, and without a slash or the character that no name
can hold.

An absolute path written from names begins with its only leading slash and ends with one only if
it is the root.
-/

namespace BuildChronicle

namespace Text

/-- No field holds the separator it was cut at. -/
theorem separator_not_mem_split (separator : Char) (text : List Char) :
    ∀ field ∈ split separator text, separator ∉ field := by
  induction text with
  | nil => simp [split]
  | cons c rest inductionHypothesis =>
    by_cases same : c = separator
    · subst same
      simpa [split] using inductionHypothesis
    · simp only [split, if_neg same]
      cases fields : split separator rest with
      | nil => exact absurd fields (split_ne_nil separator rest)
      | cons first others =>
        rw [fields, List.forall_mem_cons] at inductionHypothesis
        rw [List.forall_mem_cons, List.mem_cons, not_or]
        exact ⟨⟨fun equal => same equal.symm, inductionHypothesis.1⟩, inductionHypothesis.2⟩

/-- The characters of a field are among those of the joined fields. -/
theorem mem_join (separator : Char) (fields : List (List Char)) :
    ∀ field ∈ fields, ∀ c ∈ field, c ∈ join separator fields := by
  induction fields with
  | nil => simp
  | cons first others inductionHypothesis =>
    cases others with
    | nil => simp [join]
    | cons other more =>
      intro field member c inside
      rw [join, List.mem_append, List.mem_cons]
      rcases List.mem_cons.mp member with rfl | member
      · exact .inl inside
      · exact .inr (.inr (inductionHypothesis field member c inside))

/-- The characters of a field are among those of the text it was cut from. -/
theorem mem_of_mem_split (separator : Char) (text : List Char) :
    ∀ field ∈ split separator text, ∀ c ∈ field, c ∈ text := by
  have inside := mem_join separator (split separator text)
  rwa [join_split] at inside

/-- Joined fields end with the last of them. -/
theorem suffix_join (separator : Char) (fields : List (List Char)) (last : List Char) :
    last <:+ join separator (fields ++ [last]) := by
  induction fields with
  | nil => exact List.suffix_rfl
  | cons first others inductionHypothesis =>
    cases others with
    | nil => exact (List.suffix_cons separator last).trans (List.suffix_append first _)
    | cons other more =>
      exact (inductionHypothesis.trans (List.suffix_cons separator _)).trans
        (List.suffix_append first _)

/-- A text without separator is its only field. -/
theorem split_unseparated (separator : Char) (text : List Char) (whole : separator ∉ text) :
    split separator text = [text] := by
  induction text with
  | nil => rfl
  | cons c rest inductionHypothesis =>
    rw [List.mem_cons, not_or] at whole
    have other : c ≠ separator := fun equal => whole.1 equal.symm
    simp [split, other, inductionHypothesis whole.2]

/-- What stands in front of the first separator is the first field. -/
theorem split_append (separator : Char) (field rest : List Char) (whole : separator ∉ field) :
    split separator (field ++ separator :: rest) = field :: split separator rest := by
  induction field with
  | nil => simp [split]
  | cons c others inductionHypothesis =>
    rw [List.mem_cons, not_or] at whole
    have other : c ≠ separator := fun equal => whole.1 equal.symm
    simp [split, other, inductionHypothesis whole.2]

/-- Fields that were joined are found again. -/
theorem split_join (separator : Char) (fields : List (List Char)) (some : fields ≠ [])
    (whole : ∀ field ∈ fields, separator ∉ field) :
    split separator (join separator fields) = fields := by
  induction fields with
  | nil => exact absurd rfl some
  | cons field others inductionHypothesis =>
    rw [List.forall_mem_cons] at whole
    cases others with
    | nil => exact split_unseparated separator field whole.1
    | cons other more =>
      rw [join, split_append separator field _ whole.1,
        inductionHypothesis (List.cons_ne_nil other more) whole.2]

/-- No field of a string holds the separator it was cut at. -/
theorem separator_not_mem_fields (separator : Char) (text : String) :
    ∀ field ∈ fields separator text, separator ∉ field.toList := by
  intro field member
  obtain ⟨characters, isField, rfl⟩ := List.mem_map.mp member
  simpa using separator_not_mem_split separator text.toList characters isField

/-- The characters of a field are among those of the string it was cut from. -/
theorem mem_of_mem_fields (separator : Char) (text : String) :
    ∀ field ∈ fields separator text, ∀ c ∈ field.toList, c ∈ text.toList := by
  intro field member c inside
  obtain ⟨characters, isField, rfl⟩ := List.mem_map.mp member
  exact mem_of_mem_split separator text.toList characters isField c (by simpa using inside)

/-- The characters of strings with one character between any two of them. -/
theorem toList_interpose (between : Char) (parts : List String) :
    (interpose (String.ofList [between]) parts).toList =
      join between (parts.map String.toList) := by
  induction parts with
  | nil => rfl
  | cons part others inductionHypothesis =>
    cases others with
    | nil => rfl
    | cons other more => simp_all [interpose, join]

end Text

namespace Path

/-- What can be the name of a directory. -/
structure IsName (component : String) : Prop where
  /-- It says something. -/
  speaks : isVoid component = false
  /-- It does not lead back. -/
  onward : component ≠ ".."
  /-- It is not itself a path of several components. -/
  whole : '/' ∉ component.toList
  /-- It holds only characters that a name can hold. -/
  nameable : '\x00' ∉ component.toList

/-- Whether a component is a name can be decided. -/
instance decidableIsName (component : String) : Decidable (IsName component) :=
  decidable_of_iff (isVoid component = false ∧ component ≠ ".." ∧ '/' ∉ component.toList ∧
      '\x00' ∉ component.toList)
    ⟨fun ⟨speaks, onward, whole, nameable⟩ => ⟨speaks, onward, whole, nameable⟩,
      fun name => ⟨name.speaks, name.onward, name.whole, name.nameable⟩⟩

/-- The components of a parsed path hold no slash. -/
theorem whole_parse (text : String) :
    ∀ component ∈ (parse text).components, '/' ∉ component.toList := by
  intro component member
  exact Text.separator_not_mem_fields '/' text component (List.mem_filter.mp member).1

/-- A name is not empty. -/
theorem IsName.ne_empty {component : String} (name : IsName component) : component ≠ "" := by
  rintro rfl
  exact absurd name.speaks (by decide)

/-- The characters of an absolute path: a slash, and the steps with slashes between them. -/
theorem toList_text_root (steps : List String) :
    (text ⟨.root, steps⟩).toList = '/' :: Text.join '/' (steps.map String.toList) := by
  have slash : "/" = String.ofList ['/'] := rfl
  rw [text, if_neg (by simp), String.toList_append, slash, Text.toList_interpose, Origin.text,
    slash, String.toList_ofList]
  rfl

/-- The characters of a name, the first of them told apart. It is no slash. -/
theorem IsName.begins {component : String} (name : IsName component) :
    ∃ first others, component.toList = first :: others ∧ first ≠ '/' := by
  cases characters : component.toList with
  | nil => exact absurd (String.toList_eq_nil_iff.mp characters) name.ne_empty
  | cons first others =>
    refine ⟨first, others, rfl, ?_⟩
    rintro rfl
    exact name.whole (characters ▸ List.mem_cons_self)

/-- An absolute path written from names is read back. -/
theorem parse_text_root (steps : List String) (names : ∀ step ∈ steps, IsName step) :
    parse (text ⟨.root, steps⟩) = ⟨.root, steps⟩ := by
  have characters := toList_text_root steps
  have whole : ∀ field ∈ steps.map String.toList, '/' ∉ field := by
    simpa using fun step member => (names step member).whole
  have kept : steps.filter (!isVoid ·) = steps := by
    rw [List.filter_eq_self]
    intro step member
    simp [(names step member).speaks]
  cases steps with
  | nil => decide
  | cons first others =>
    obtain ⟨c, rest, spelled, noSlash⟩ := (names first List.mem_cons_self).begins
    rw [parse, characters, Text.fields, characters]
    congr
    · cases others <;> simp [Text.join, spelled, Origin.of, noSlash]
    · have cut := Text.split_join '/' ((first :: others).map String.toList) (by simp) whole
      have empty : isVoid "" = true := rfl
      rw [← List.nil_append (_ :: _), Text.split_append '/' [] _ List.not_mem_nil, cut]
      simpa [empty, Function.comp_def] using kept

/-- An absolute path written from names ends with a slash only if it is the root. -/
theorem getLast?_text_root (steps : List String) (names : ∀ step ∈ steps, IsName step)
    (slash : (text ⟨.root, steps⟩).toList.getLast? = some '/') : steps = [] := by
  rcases steps.eq_nil_or_concat with rfl | ⟨front, last, rfl⟩
  · rfl
  · rw [List.concat_eq_append] at names slash
    have name := names last (by simp)
    have ends : last.toList <:+ (text ⟨.root, front ++ [last]⟩).toList := by
      rw [toList_text_root, List.map_append]
      exact (Text.suffix_join '/' _ last.toList).trans (List.suffix_cons '/' _)
    obtain ⟨before, written⟩ := ends
    obtain ⟨first, others, spelled, _⟩ := name.begins
    rw [← written, List.getLast?_append_of_ne_nil _ (by simp [spelled])] at slash
    exact absurd (List.mem_of_getLast? slash) name.whole

end Path

end BuildChronicle
