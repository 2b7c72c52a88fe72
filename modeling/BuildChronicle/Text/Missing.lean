/-!
# Missing texts

Some texts may be missing. Where one has to be shown nevertheless, a word stands for it;
where texts are to be joined that all have to be there, the first missing one is named by
its position.
-/

namespace BuildChronicle.Text

/-- The word that stands for what is missing. -/
def missingWord : String := "None"

/-- A text, or the word for a missing one. -/
def orMissing (text : Option String) : String := text.getD missingWord

/-- The texts of a list, or the position of the first one that is missing. -/
def allGiven (texts : List (Option String)) : Except Nat (List String) :=
  match texts.findIdx? Option.isNone with
  | some position => .error position
  | none => .ok (texts.filterMap id)

/-- Texts that are all there are given as they are. -/
theorem allGiven_map_some (texts : List String) : allGiven (texts.map some) = .ok texts := by
  have absent : (texts.map some).findIdx? Option.isNone = none := by
    simp [List.findIdx?_eq_none_iff]
  simp [allGiven, absent, List.filterMap_map]

end BuildChronicle.Text
