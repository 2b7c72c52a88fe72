/-!
# Fields between separators

Cutting a text at a separator yields one field more than there are separators, so the
fields joined again are the text. Paths are cut at slashes and notes at line feeds.
-/

namespace BuildChronicle.Text

/-- Cut a text at every occurrence of the separator. -/
def split (separator : Char) : List Char → List (List Char)
  | [] => [[]]
  | c :: rest =>
    if c = separator then [] :: split separator rest
    else match split separator rest with
      | [] => [[c]]
      | field :: fields => (c :: field) :: fields

/-- Put the separator between consecutive fields. -/
def join (separator : Char) : List (List Char) → List Char
  | [] => []
  | [field] => field
  | field :: other :: fields => field ++ separator :: join separator (other :: fields)

/-- There is always a first field, if only an empty one. -/
theorem split_ne_nil (separator : Char) (text : List Char) : split separator text ≠ [] := by
  induction text with
  | nil => simp [split]
  | cons c rest _ =>
    simp only [split]
    split
    · simp
    · split <;> simp

/-- Cutting loses nothing: the fields joined again are the text. -/
theorem join_split (separator : Char) (text : List Char) :
    join separator (split separator text) = text := by
  induction text with
  | nil => rfl
  | cons c rest inductionHypothesis =>
    by_cases same : c = separator
    · subst same
      simp only [split]
      cases fields : split c rest with
      | nil => exact absurd fields (split_ne_nil c rest)
      | cons field others =>
        rw [fields] at inductionHypothesis
        simp [join, inductionHypothesis]
    · simp only [split, if_neg same]
      cases fields : split separator rest with
      | nil => exact absurd fields (split_ne_nil separator rest)
      | cons field others =>
        rw [fields] at inductionHypothesis
        cases others with
        | nil => simpa [join] using inductionHypothesis
        | cons other others => simpa [join] using inductionHypothesis

/-- The fields of a string. -/
def fields (separator : Char) (text : String) : List String :=
  (split separator text.toList).map String.ofList

/-- The strings of a list with the same text between any two of them. -/
def interpose (between : String) : List String → String
  | [] => ""
  | [part] => part
  | part :: other :: parts => part ++ between ++ interpose between (other :: parts)

end BuildChronicle.Text
