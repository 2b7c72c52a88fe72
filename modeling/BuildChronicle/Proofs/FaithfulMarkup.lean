import BuildChronicle.Node.Markup

/-!
# Markup loses nothing

Two trees with the same markup are the same tree, apart from one thing that markup does not
show: a missing text value and an empty one look alike. This takes names that can be told from
what stands around them; any text at all may stand in values.

The proof reads markup from the left. A name ends at the first delimiter. An escaped text ends
at a mark that no escape begins with, and its characters can be read back one by one. An
attribute begins with a space and a name, so it is not taken for the end of a tag; a child
begins with an angle bracket and a name, so it is not taken for a closing tag. Everything that
is read leaves the rest of the markup as it is, which is what the induction over trees needs.
-/

namespace BuildChronicle.Node

/-- Characters that have a meaning of their own next to a name. Of all blanks only the space is
one. -/
def delimiters : List Char := [' ', '<', '>', '/', '=', '\x22', '&', '\x7b', '\x7d']

/-- A name that can be told from what stands around it. -/
structure ProperName (name : String) : Prop where
  /-- It is not empty. -/
  nonempty : name.toList ≠ []
  /-- No delimiter stands in it. -/
  undelimited : ∀ c ∈ name.toList, c ∉ delimiters

instance (name : String) : Decidable (ProperName name) :=
  -- The characters of the name are gone through, not all characters there are.
  let _ : Decidable (∀ c ∈ name.toList, c ∉ delimiters) :=
    List.decidableBAll (· ∉ delimiters) name.toList
  decidable_of_iff (name.toList ≠ [] ∧ ∀ c ∈ name.toList, c ∉ delimiters)
    ⟨fun ⟨nonempty, undelimited⟩ => ⟨nonempty, undelimited⟩,
      fun proper => ⟨proper.nonempty, proper.undelimited⟩⟩

/-- All names in a tree are proper ones, those of attributes as well. -/
def WellNamed (node : Node) : Prop := ∀ name ∈ namesWithin node, ProperName name

instance (node : Node) : Decidable node.WellNamed :=
  List.decidableBAll ProperName (namesWithin node)

mutual

/-- The tree without its empty text values. -/
def tidy : Node → Node
  | mk name value attributes children =>
    mk name (value.filter (· != "")) attributes (tidyAll children)

/-- Trees without their empty text values. -/
def tidyAll : List Node → List Node
  | [] => []
  | node :: rest => tidy node :: tidyAll rest

end

section Names

/-- What stands after a name begins with a delimiter. -/
def Delimited (rest : List Char) : Prop := ∃ c tail, rest = c :: tail ∧ c ∈ delimiters

/-- A name ends where the first delimiter stands. -/
theorem undelimited_append_inj (name other rest others : List Char)
    (undelimited : ∀ c ∈ name, c ∉ delimiters) (otherUndelimited : ∀ c ∈ other, c ∉ delimiters)
    (delimited : Delimited rest) (otherDelimited : Delimited others)
    (same : name ++ rest = other ++ others) : name = other ∧ rest = others := by
  induction name generalizing other with
  | nil =>
    cases other with
    | nil => exact ⟨rfl, same⟩
    | cons d other =>
      obtain ⟨c, tail, rfl, delimiter⟩ := delimited
      obtain ⟨rfl, _⟩ := List.cons.inj same
      exact (otherUndelimited c List.mem_cons_self delimiter).elim
  | cons c name inductionHypothesis =>
    cases other with
    | nil =>
      obtain ⟨d, tail, rfl, delimiter⟩ := otherDelimited
      obtain ⟨rfl, _⟩ := List.cons.inj same
      exact (undelimited c List.mem_cons_self delimiter).elim
    | cons d other =>
      obtain ⟨rfl, later⟩ := List.cons.inj same
      obtain ⟨rfl, sameRest⟩ := inductionHypothesis other
        (fun c member => undelimited c (List.mem_cons_of_mem _ member))
        (fun c member => otherUndelimited c (List.mem_cons_of_mem _ member)) later
      exact ⟨rfl, sameRest⟩

/-- A proper name does not open a namespace. -/
theorem nameForm_proper (name : String) (proper : ProperName name) :
    NameForm.of name.toList = .ok (.plain name.toList) := by
  cases letters : name.toList with
  | nil => exact (proper.nonempty letters).elim
  | cons c rest =>
    have plain : c ≠ '\x7b' := by
      rintro rfl
      exact proper.undelimited '\x7b' (by simp [letters]) (by decide)
    simp [NameForm.of, plain]

/-- Proper names need no short names. -/
theorem shortNames_wellNamed (node : Node) (named : node.WellNamed) :
    node.shortNames = .ok Table.empty := by
  have met (names : List String) (proper : ∀ name ∈ names, ProperName name) :
      names.foldlM ShortNames.meet Table.empty = .ok Table.empty := by
    induction names with
    | nil => rfl
    | cons name names inductionHypothesis =>
      have first : ShortNames.meet Table.empty name = .ok Table.empty := by
        rw [ShortNames.meet, nameForm_proper name (proper name List.mem_cons_self)]
        rfl
      rw [List.foldlM_cons, first]
      exact inductionHypothesis fun name member => proper name (List.mem_cons_of_mem _ member)
  exact met _ named

/-- A proper name is spelled as it is. -/
theorem spell_proper (known : ShortNames) (name : String) (proper : ProperName name) :
    known.spell name = name.toList := by
  rw [ShortNames.spell, nameForm_proper name proper]

/-- The children of a well-named tree are well-named. -/
theorem wellNamed_child (name : String) (value : Option String) (attributes : Table String)
    (children : List Node) (named : (mk name value attributes children).WellNamed) :
    ProperName name ∧ (∀ entry ∈ attributes.entries, ProperName entry.1) ∧
      ∀ below ∈ namesWithinAll children, ProperName below := by
  simp only [WellNamed, namesWithin, Table.names, List.mem_append, List.mem_cons] at named
  refine ⟨named name (.inl (.inl rfl)), ?_, fun below member => named below (.inr member)⟩
  intro entry member
  exact named entry.1 (.inl (.inr (List.mem_map_of_mem member)))

mutual

/-- A well-named tree is written with its names as they are. -/
theorem element_wellNamed (known : ShortNames) : (node : Node) → node.WellNamed →
    element known.spell [] node = element String.toList [] node
  | mk name value attributes children, named => by
    obtain ⟨proper, entries, below⟩ := wellNamed_child name value attributes children named
    have written : (attributes.entries.flatMap fun entry =>
          attributeMarkup (known.spell entry.1) entry.2) =
        attributes.entries.flatMap fun entry => attributeMarkup entry.1.toList entry.2 := by
      rw [List.flatMap_def, List.flatMap_def]
      congr 1
      apply List.map_congr_left
      intro entry member
      rw [spell_proper known entry.1 (entries entry member)]
    have nested := elements_wellNamed known children below
    simp only [element, spell_proper known name proper, nested]
    rw [written]

/-- So are well-named trees one after the other. -/
theorem elements_wellNamed (known : ShortNames) : (nodes : List Node) →
    (∀ name ∈ namesWithinAll nodes, ProperName name) →
    elements known.spell nodes = elements String.toList nodes
  | [], _ => rfl
  | node :: rest, named => by
    simp only [namesWithinAll, List.mem_append] at named
    have first := element_wellNamed known node fun name member => named name (.inl member)
    have later := elements_wellNamed known rest fun name member => named name (.inr member)
    rw [elements, elements, first, later]

end

/-- Well-named trees have markup. -/
theorem markup_wellNamed (node : Node) (named : node.WellNamed) :
    node.markup = .ok (String.ofList (element String.toList [] node)) := by
  have nothing : ShortNames.declarations Table.empty = [] := by
    simp [ShortNames.declarations, Table.empty]
  rw [markup, shortNames_wellNamed node named]
  change Except.ok (String.ofList (element _ (ShortNames.declarations Table.empty) node)) = _
  rw [nothing, element_wellNamed Table.empty node named]

end Names

section Escapes

/-- Read an escape, after its ampersand. -/
def readEscape : List Char → Option (Char × List Char)
  | 'a' :: 'm' :: 'p' :: ';' :: rest => some ('&', rest)
  | 'l' :: 't' :: ';' :: rest => some ('<', rest)
  | 'g' :: 't' :: ';' :: rest => some ('>', rest)
  | 'q' :: 'u' :: 'o' :: 't' :: ';' :: rest => some ('\x22', rest)
  | '#' :: '1' :: '3' :: ';' :: rest => some ('\r', rest)
  | '#' :: '1' :: '0' :: ';' :: rest => some ('\n', rest)
  | '#' :: '0' :: '9' :: ';' :: rest => some ('\t', rest)
  | _ => none

/-- Read one character of an escaped text. -/
def readCharacter : List Char → Option (Char × List Char)
  | [] => none
  | c :: rest => if c = '&' then readEscape rest else some (c, rest)

/-- A way to escape characters such that they can be read back, and a mark that no escaped
character begins with. -/
structure Legible (escape : Char → List Char) (mark : Char) : Prop where
  /-- Every escaped character is read back, whatever follows it. -/
  reads : ∀ c rest, readCharacter (escape c ++ rest) = some (c, rest)
  /-- No escaped character begins with the mark. -/
  unmarked : ∀ c rest, escape c ≠ mark :: rest

/-- Texts can be read back up to an angle bracket. -/
theorem legible_text : Legible escapeText '<' := by
  constructor
  · intro c rest
    by_cases ampersand : c = '&'
    · rw [ampersand]
      rfl
    by_cases less : c = '<'
    · rw [less]
      rfl
    by_cases greater : c = '>'
    · rw [greater]
      rfl
    simp [escapeText, readCharacter, ampersand, less, greater]
  · intro c rest same
    rw [escapeText] at same
    repeat' split at same
    all_goals simp_all

/-- Attribute values can be read back up to a double quote. -/
theorem legible_attribute : Legible escapeAttribute '\x22' := by
  constructor
  · intro c rest
    by_cases quote : c = '\x22'
    · rw [quote]
      rfl
    by_cases carriageReturn : c = '\r'
    · rw [carriageReturn]
      rfl
    by_cases lineFeed : c = '\n'
    · rw [lineFeed]
      rfl
    by_cases tab : c = '\t'
    · rw [tab]
      rfl
    have asText : escapeAttribute c = escapeText c := by
      simp [escapeAttribute, quote, carriageReturn, lineFeed, tab]
    rw [asText]
    exact legible_text.reads c rest
  · intro c rest same
    rw [escapeAttribute, escapeText] at same
    repeat' split at same
    all_goals simp_all

/-- An escaped text ends at the mark, and it is the text of no other characters. -/
theorem flatMap_escape_inj (escape : Char → List Char) (mark : Char)
    (legible : Legible escape mark) (text other rest others : List Char)
    (same : text.flatMap escape ++ mark :: rest = other.flatMap escape ++ mark :: others) :
    text = other ∧ rest = others := by
  have marked (c : Char) (tail left : List Char)
      (begins : mark :: tail = escape c ++ left) : False := by
    cases escaped : escape c with
    | nil =>
      have read := legible.reads c []
      rw [escaped] at read
      cases read
    | cons first later =>
      rw [escaped, List.cons_append] at begins
      exact legible.unmarked c later (by rw [escaped, (List.cons.inj begins).1])
  induction text generalizing other with
  | nil =>
    cases other with
    | nil => exact ⟨rfl, (List.cons.inj same).2⟩
    | cons c other =>
      rw [List.flatMap_cons, List.append_assoc] at same
      exact (marked c _ _ same).elim
  | cons c text inductionHypothesis =>
    cases other with
    | nil =>
      rw [List.flatMap_cons, List.append_assoc] at same
      exact (marked c _ _ same.symm).elim
    | cons d other =>
      rw [List.flatMap_cons, List.flatMap_cons, List.append_assoc, List.append_assoc] at same
      have read := legible.reads c (text.flatMap escape ++ mark :: rest)
      rw [same, legible.reads d] at read
      obtain ⟨rfl, later⟩ := Prod.mk.inj (Option.some.inj read)
      obtain ⟨rfl, sameRest⟩ := inductionHypothesis other later.symm
      exact ⟨rfl, sameRest⟩

end Escapes

section Tags

/-- The attributes of a tag. -/
def attributesMarkup (entries : List (String × String)) : List Char :=
  entries.flatMap fun entry => attributeMarkup entry.1.toList entry.2

/-- What stands after the attributes of a tag: its end, with or without content to follow. -/
def EndsTag (rest : List Char) : Prop :=
  (∃ tail, rest = '>' :: tail) ∨ ∃ tail, rest = ' ' :: '/' :: tail

/-- The end of a tag is no attribute. -/
theorem not_endsTag_attribute (entry : String × String) (entries : List (String × String))
    (rest : List Char) (proper : ProperName entry.1)
    (ends : EndsTag (attributesMarkup (entry :: entries) ++ rest)) : False := by
  obtain ⟨first, name, letters⟩ := List.exists_cons_of_ne_nil proper.nonempty
  have notSlash : first ≠ '/' := by
    rintro rfl
    exact proper.undelimited '/' (by simp [letters]) (by decide)
  rcases ends with ⟨tail, ended⟩ | ⟨tail, ended⟩
  · simp [attributesMarkup, attributeMarkup] at ended
  · simp [attributesMarkup, attributeMarkup, letters, notSlash] at ended

/-- The attributes of a tag can be read back up to its end. -/
theorem attributesMarkup_inj (entries otherEntries : List (String × String))
    (rest others : List Char) (proper : ∀ entry ∈ entries, ProperName entry.1)
    (otherProper : ∀ entry ∈ otherEntries, ProperName entry.1)
    (ends : EndsTag rest) (otherEnds : EndsTag others)
    (same : attributesMarkup entries ++ rest = attributesMarkup otherEntries ++ others) :
    entries = otherEntries ∧ rest = others := by
  induction entries generalizing otherEntries with
  | nil =>
    cases otherEntries with
    | nil => exact ⟨rfl, same⟩
    | cons entry otherEntries =>
      have ended : attributesMarkup [] ++ rest = rest := rfl
      rw [ended] at same
      rw [same] at ends
      exact (not_endsTag_attribute entry otherEntries others
        (otherProper entry List.mem_cons_self) ends).elim
  | cons entry entries inductionHypothesis =>
    cases otherEntries with
    | nil =>
      have ended : attributesMarkup [] ++ others = others := rfl
      rw [ended] at same
      rw [← same] at otherEnds
      exact (not_endsTag_attribute entry entries rest
        (proper entry List.mem_cons_self) otherEnds).elim
    | cons other otherEntries =>
      obtain ⟨key, value⟩ := entry
      obtain ⟨otherKey, otherValue⟩ := other
      have first := proper (key, value) List.mem_cons_self
      have otherFirst := otherProper (otherKey, otherValue) List.mem_cons_self
      have written : key.toList ++ '=' :: '\x22' :: (value.toList.flatMap escapeAttribute ++
            '\x22' :: (attributesMarkup entries ++ rest)) =
          otherKey.toList ++ '=' :: '\x22' :: (otherValue.toList.flatMap escapeAttribute ++
            '\x22' :: (attributesMarkup otherEntries ++ others)) := by
        simpa [attributesMarkup, attributeMarkup] using same
      obtain ⟨sameKey, sameValue⟩ := undelimited_append_inj _ _ _ _ first.undelimited
        otherFirst.undelimited ⟨'=', _, rfl, by decide⟩ ⟨'=', _, rfl, by decide⟩ written
      obtain ⟨sameText, later⟩ := flatMap_escape_inj escapeAttribute '\x22' legible_attribute
        _ _ _ _ (List.cons.inj (List.cons.inj sameValue).2).2
      obtain ⟨sameEntries, sameRest⟩ := inductionHypothesis otherEntries
        (fun entry member => proper entry (List.mem_cons_of_mem _ member))
        (fun entry member => otherProper entry (List.mem_cons_of_mem _ member)) later
      have keys : key = otherKey := String.toList_inj.mp sameKey
      have values : value = otherValue := String.toList_inj.mp sameText
      rw [keys, values, sameEntries]
      exact ⟨rfl, sameRest⟩

/-- What stands after the attributes of an element. -/
def ending (name value : String) (children : List Node) : List Char :=
  if value.isEmpty && children.isEmpty then [' ', '/', '>']
  else '>' :: (value.toList.flatMap escapeText ++ elements String.toList children) ++
    '<' :: '/' :: name.toList ++ ['>']

/-- An element is a name, attributes and an ending. -/
theorem element_eq (name : String) (value : Option String) (attributes : Table String)
    (children : List Node) :
    element String.toList [] (mk name value attributes children) =
      '<' :: (name.toList ++ (attributesMarkup attributes.entries ++
        ending name (value.getD "") children)) := by
  simp [element, attributesMarkup, ending]

/-- The ending of an element ends its tag. -/
theorem endsTag_ending (name value : String) (children : List Node) (rest : List Char) :
    EndsTag (ending name value children ++ rest) := by
  rw [ending]
  split
  · exact .inr ⟨_, rfl⟩
  · exact .inl ⟨_, rfl⟩

/-- Attributes and the end of a tag begin with a delimiter. -/
theorem delimited_attributes (entries : List (String × String)) (rest : List Char)
    (ends : EndsTag rest) : Delimited (attributesMarkup entries ++ rest) := by
  cases entries with
  | nil =>
    rcases ends with ⟨tail, rfl⟩ | ⟨tail, rfl⟩
    · exact ⟨'>', tail, rfl, by decide⟩
    · exact ⟨' ', _, rfl, by decide⟩
  | cons entry entries => exact ⟨' ', _, rfl, by decide⟩

/-- A tag can be read back: the name of its element and the attributes. -/
theorem tag_inj (name otherName value otherValue : String)
    (entries otherEntries : List (String × String)) (children otherChildren : List Node)
    (rest others : List Char) (proper : ProperName name) (otherProper : ProperName otherName)
    (properEntries : ∀ entry ∈ entries, ProperName entry.1)
    (otherProperEntries : ∀ entry ∈ otherEntries, ProperName entry.1)
    (same : name.toList ++ (attributesMarkup entries ++ (ending name value children ++ rest)) =
      otherName.toList ++ (attributesMarkup otherEntries ++
        (ending otherName otherValue otherChildren ++ others))) :
    name = otherName ∧ entries = otherEntries ∧
      ending name value children ++ rest =
        ending otherName otherValue otherChildren ++ others := by
  have ends := endsTag_ending name value children rest
  have otherEnds := endsTag_ending otherName otherValue otherChildren others
  obtain ⟨sameName, later⟩ := undelimited_append_inj _ _ _ _ proper.undelimited
    otherProper.undelimited (delimited_attributes entries _ ends)
    (delimited_attributes otherEntries _ otherEnds) same
  obtain ⟨sameEntries, sameEnding⟩ := attributesMarkup_inj entries otherEntries _ _ properEntries
    otherProperEntries ends otherEnds later
  exact ⟨String.toList_inj.mp sameName, sameEntries, sameEnding⟩

/-- An element begins with an angle bracket, and no slash follows it. -/
theorem element_begins (node : Node) (named : node.WellNamed) :
    ∃ c tail, element String.toList [] node = '<' :: c :: tail ∧ c ≠ '/' := by
  obtain ⟨name, value, attributes, children⟩ := node
  obtain ⟨proper, _, _⟩ := wellNamed_child name value attributes children named
  obtain ⟨first, letters, same⟩ := List.exists_cons_of_ne_nil proper.nonempty
  refine ⟨first, _, by rw [element_eq, same, List.cons_append], ?_⟩
  rintro rfl
  exact proper.undelimited '/' (by simp [same]) (by decide)

/-- Children and the closing tag after them begin with an angle bracket. -/
theorem elements_begin (nodes : List Node) (rest : List Char) :
    ∃ tail, elements String.toList nodes ++ '<' :: rest = '<' :: tail := by
  cases nodes with
  | nil => exact ⟨rest, rfl⟩
  | cons node nodes =>
    obtain ⟨name, value, attributes, children⟩ := node
    rw [elements, element_eq, List.cons_append, List.cons_append]
    exact ⟨_, rfl⟩

end Tags

section Trees

/-- Text values that are written alike are the same, but for empty ones. -/
theorem filter_eq_of_getD (value other : Option String) (same : value.getD "" = other.getD "") :
    value.filter (· != "") = other.filter (· != "") := by
  cases value <;> cases other <;> simp_all [Option.filter]

mutual

/-- Empty text values do not show. -/
theorem element_tidy (spell : String → List Char) (declarations : List Char) :
    (node : Node) → element spell declarations node.tidy = element spell declarations node
  | mk name value attributes children => by
    have shown : (value.filter (· != "")).getD "" = value.getD "" := by
      cases value with
      | none => rfl
      | some text => by_cases empty : text = "" <;> simp [Option.filter, empty]
    have still : (tidyAll children).isEmpty = children.isEmpty := by
      cases children <;> rfl
    rw [tidy, element, element, shown, still, elements_tidy spell children]

/-- Nor do they in the trees of a list. -/
theorem elements_tidy (spell : String → List Char) :
    (nodes : List Node) → elements spell (tidyAll nodes) = elements spell nodes
  | [] => rfl
  | node :: rest => by
    rw [tidyAll, elements, elements, element_tidy spell [] node, elements_tidy spell rest]

end

mutual

/-- An element can be read back, whatever follows it. -/
theorem element_inj : (node other : Node) → (rest others : List Char) → node.WellNamed →
    other.WellNamed →
    element String.toList [] node ++ rest = element String.toList [] other ++ others →
    node.tidy = other.tidy ∧ rest = others
  | mk name value attributes children, mk otherName otherValue otherAttributes otherChildren,
    rest, others, named, otherNamed, same => by
    obtain ⟨proper, properEntries, below⟩ :=
      wellNamed_child name value attributes children named
    obtain ⟨otherProper, otherProperEntries, otherBelow⟩ :=
      wellNamed_child otherName otherValue otherAttributes otherChildren otherNamed
    rw [element_eq, element_eq] at same
    simp only [List.cons_append, List.append_assoc] at same
    obtain ⟨rfl, sameEntries, sameEnding⟩ := tag_inj name otherName _ _ _ _ children
      otherChildren rest others proper otherProper properEntries otherProperEntries
      (List.cons.inj same).2
    have sameAttributes : attributes = otherAttributes := Table.ext_entries sameEntries
    rw [ending, ending] at sameEnding
    split at sameEnding <;> split at sameEnding
    · -- Neither has text or children.
      rename_i bare otherBare
      simp only [Bool.and_eq_true, List.isEmpty_iff, String.isEmpty_iff] at bare otherBare
      have sameValue := filter_eq_of_getD value otherValue (bare.1.trans otherBare.1.symm)
      rw [tidy, tidy, sameAttributes, sameValue, bare.2, otherBare.2]
      exact ⟨rfl, by simpa using sameEnding⟩
    · simp at sameEnding
    · simp at sameEnding
    · obtain ⟨tail, begins⟩ := elements_begin children ('/' :: name.toList ++ '>' :: rest)
      obtain ⟨otherTail, otherBegins⟩ :=
        elements_begin otherChildren ('/' :: name.toList ++ '>' :: others)
      have content : (value.getD "").toList.flatMap escapeText ++
            (elements String.toList children ++ '<' :: ('/' :: name.toList ++ '>' :: rest)) =
          (otherValue.getD "").toList.flatMap escapeText ++
            (elements String.toList otherChildren ++
              '<' :: ('/' :: name.toList ++ '>' :: others)) := by
        simpa using sameEnding
      rw [begins, otherBegins] at content
      obtain ⟨sameText, sameTail⟩ :=
        flatMap_escape_inj escapeText '<' legible_text _ _ _ _ content
      have nested : elements String.toList children ++
            '<' :: '/' :: (name.toList ++ '>' :: rest) =
          elements String.toList otherChildren ++
            '<' :: '/' :: (name.toList ++ '>' :: others) := by
        rw [sameTail, ← otherBegins] at begins
        exact begins
      obtain ⟨sameChildren, closing⟩ :=
        elements_inj children otherChildren _ _ below otherBelow nested
      have sameValue := filter_eq_of_getD value otherValue (String.toList_inj.mp sameText)
      rw [tidy, tidy, sameAttributes, sameValue, sameChildren]
      exact ⟨rfl, by simpa using closing⟩

/-- Elements one after the other can be read back up to a closing tag. -/
theorem elements_inj : (nodes others : List Node) → (rest rests : List Char) →
    (∀ name ∈ namesWithinAll nodes, ProperName name) →
    (∀ name ∈ namesWithinAll others, ProperName name) →
    elements String.toList nodes ++ '<' :: '/' :: rest =
      elements String.toList others ++ '<' :: '/' :: rests →
    tidyAll nodes = tidyAll others ∧ rest = rests
  | [], [], rest, rests, _, _, same => by
    simpa [elements, tidyAll] using same
  | [], other :: others, rest, rests, _, otherNamed, same => by
    simp only [namesWithinAll, List.mem_append] at otherNamed
    obtain ⟨c, tail, begins, notSlash⟩ :=
      element_begins other fun name member => otherNamed name (.inl member)
    rw [elements, elements, begins] at same
    exact (notSlash (List.cons.inj (List.cons.inj same).2).1.symm).elim
  | node :: nodes, [], rest, rests, named, _, same => by
    simp only [namesWithinAll, List.mem_append] at named
    obtain ⟨c, tail, begins, notSlash⟩ :=
      element_begins node fun name member => named name (.inl member)
    rw [elements, elements, begins] at same
    exact (notSlash (List.cons.inj (List.cons.inj same).2).1).elim
  | node :: nodes, other :: others, rest, rests, named, otherNamed, same => by
    simp only [namesWithinAll, List.mem_append] at named otherNamed
    rw [elements, elements, List.append_assoc, List.append_assoc] at same
    obtain ⟨sameFirst, later⟩ := element_inj node other _ _
      (fun name member => named name (.inl member))
      (fun name member => otherNamed name (.inl member)) same
    obtain ⟨sameLater, sameRest⟩ := elements_inj nodes others rest rests
      (fun name member => named name (.inr member))
      (fun name member => otherNamed name (.inr member)) later
    rw [tidyAll, tidyAll, sameFirst, sameLater]
    exact ⟨rfl, sameRest⟩

end

end Trees

/-- Trees with proper names have markup, and it is the same markup exactly if they are the same
trees once their empty text values are left out: the same names, the same attributes in the same
order, the same children in the same order and the same values.

Proof: markup that is the same is read back the same; the converse is that empty text values do
not show. -/
theorem markup_eq_iff (node other : Node) (named : node.WellNamed)
    (otherNamed : other.WellNamed) :
    (∃ text, node.markup = .ok text) ∧ (node.markup = other.markup ↔ node.tidy = other.tidy) := by
  rw [markup_wellNamed node named, markup_wellNamed other otherNamed]
  refine ⟨⟨_, rfl⟩, ?_⟩
  constructor
  · intro same
    have letters := String.ofList_inj.mp (Except.ok.inj same)
    exact (element_inj node other [] [] named otherNamed (by rw [letters])).1
  · intro same
    rw [← element_tidy String.toList [] node, same, element_tidy]

/-- A tree in which every character is escaped that can be has the markup of the one without its
empty text value, and not that of the one with an escape written out as text. -/
theorem markup_eq_iff_escapes :
    let report (note : String) (empty : Option String) :=
      ((leaf "report").set "path" "\x22a\x22\r\n\t&<>").addAll
        [text "note" (some note), text "empty" empty]
    (report "a<b & c>d" (some "")).WellNamed ∧ (report "a<b & c>d" none).WellNamed ∧
      (report "a&lt;b & c>d" none).WellNamed ∧
      (∃ text, (report "a<b & c>d" (some "")).markup = .ok text) ∧
      (report "a<b & c>d" (some "")).markup = (report "a<b & c>d" none).markup ∧
      (report "a<b & c>d" (some "")).markup ≠ (report "a&lt;b & c>d" none).markup := by
  intro report
  have named : (report "a<b & c>d" (some "")).WellNamed := by decide
  have bareNamed : (report "a<b & c>d" none).WellNamed := by decide
  have spelledNamed : (report "a&lt;b & c>d" none).WellNamed := by decide
  obtain ⟨written, alike⟩ := markup_eq_iff _ _ named bareNamed
  obtain ⟨_, different⟩ := markup_eq_iff _ _ named spelledNamed
  refine ⟨named, bareNamed, spelledNamed, written, alike.mpr rfl, ?_⟩
  intro same
  have notes := congrArg (fun node => node.children.map value) (different.mp same)
  revert notes
  decide

end BuildChronicle.Node
