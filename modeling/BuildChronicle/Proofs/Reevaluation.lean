import BuildChronicle.Proofs.Evaluation

/-!
# Evaluating once is enough

Evaluating puts values next to literal text, and where they meet a new reference might come
about. It never does if every value says something and holds neither a dollar sign nor an
opening brace: then the references of an evaluated text are those of the given text that had no
value, where they stood and as they were written. So evaluating again finds nothing to replace.

A reference begins with a dollar sign and an opening brace, and between that brace and some
closing brace there is a character. The proof looks at these three marks one after the other:
none of them appears where the given text had none.
-/

namespace BuildChronicle.Expression

/-- A value that cannot open a reference, nor bring together what does. -/
def IsInert (value : String) : Prop :=
  value ≠ "" ∧ '$' ∉ value.toList ∧ '\x7b' ∉ value.toList

instance decidableIsInert (value : String) : Decidable (IsInert value) :=
  inferInstanceAs (Decidable (_ ∧ _ ∧ _))

/-- All names that have a value have an inert one. -/
def AllInert (known : String → Option String) : Prop :=
  ∀ name value, known name = some value → IsInert value

namespace Split

/-- The split with literal text in front. -/
def preceded (literal : List Char) (split : Split) : Split := literal.foldr prepend split

/-- The split in which the references to known names have become literal text. -/
def settled (known : String → Option String) : Split → Split
  | plain literal => plain literal
  | reference literal name rest =>
    match known (String.ofList name) with
    | some value => (rest.settled known).preceded (literal ++ value.toList)
    | none => reference literal name (rest.settled known)

/-- The names that a split refers to, in order. -/
def names : Split → List (List Char)
  | plain _ => []
  | reference _ name rest => name :: rest.names

section Settling

variable (known : String → Option String)

@[simp] theorem text_preceded (literal : List Char) (split : Split) :
    (split.preceded literal).text = literal ++ split.text := by
  induction literal with
  | nil => rfl
  | cons c literal inductionHypothesis =>
    rw [preceded, List.foldr_cons, text_prepend, List.cons_append, ← inductionHypothesis]
    rfl

@[simp] theorem names_prepend (c : Char) (split : Split) :
    (split.prepend c).names = split.names := by
  cases split <;> rfl

@[simp] theorem names_preceded (literal : List Char) (split : Split) :
    (split.preceded literal).names = split.names := by
  induction literal with
  | nil => rfl
  | cons c literal inductionHypothesis =>
    rw [preceded, List.foldr_cons, names_prepend, ← inductionHypothesis]
    rfl

@[simp] theorem settled_prepend (c : Char) (split : Split) :
    (split.prepend c).settled known = (split.settled known).prepend c := by
  cases split with
  | plain literal => rfl
  | reference literal name rest =>
    rw [prepend, settled, settled]
    cases known (String.ofList name) <;> rfl

/-- What is settled reads like the evaluated text. -/
theorem text_settled (split : Split) : (split.settled known).text = split.substituted known := by
  induction split with
  | plain literal => rfl
  | reference literal name rest inductionHypothesis =>
    rw [settled, substituted, replacement]
    cases known (String.ofList name) with
    | some value => rw [text_preceded, inductionHypothesis]
    | none => rw [text, inductionHypothesis]

/-- The references to names without a value are left. -/
theorem names_settled (split : Split) :
    (split.settled known).names =
      split.names.filter fun name => (known (String.ofList name)).isNone := by
  induction split with
  | plain literal => rfl
  | reference literal name rest inductionHypothesis =>
    rw [settled, names, List.filter_cons]
    cases known (String.ofList name) with
    | some value => simpa using inductionHypothesis
    | none => simpa [names] using inductionHypothesis

/-- Where no name has a value, nothing is replaced. -/
theorem substituted_unknown (split : Split)
    (unknown : ∀ name ∈ split.names, known (String.ofList name) = none) :
    split.substituted known = split.text := by
  induction split with
  | plain literal => rfl
  | reference literal name rest inductionHypothesis =>
    rw [names, List.forall_mem_cons] at unknown
    rw [substituted, text, replacement, unknown.1, inductionHypothesis unknown.2]

/-- What is settled has nothing left to replace. -/
theorem substituted_settled (split : Split) :
    (split.settled known).substituted known = (split.settled known).text := by
  apply substituted_unknown
  intro name member
  rw [names_settled] at member
  simpa using (List.mem_filter.mp member).2

end Settling

section Joints

variable (known : String → Option String)

/-- A reference begins where the two opening characters stand and a closing brace follows, but
not at once. -/
theorem beginsReference_iff (text : List Char) :
    BeginsReference text ↔
      ∃ rest, text = '$' :: '\x7b' :: rest ∧ '\x7d' ∈ rest ∧ rest.head? ≠ some '\x7d' := by
  constructor
  · rintro ⟨name, rest, ⟨nonempty, proper⟩, rfl⟩
    refine ⟨name ++ '\x7d' :: rest, by simp [written], by simp, ?_⟩
    obtain ⟨c, name, rfl⟩ := List.exists_cons_of_ne_nil nonempty
    rintro first
    exact proper (by simp [Option.some.inj first])
  · rintro ⟨rest, rfl, closed, notAtOnce⟩
    obtain ⟨name, after, rfl, proper⟩ := List.eq_append_cons_of_mem closed
    refine ⟨name, after, ⟨?_, proper⟩, by simp [written]⟩
    rintro rfl
    exact notAtOnce rfl

/-- No opening brace comes to stand in front: values are not empty and hold none. -/
theorem prepend_of_settled_brace (split : Split) (rest : List Char) (inert : AllInert known)
    (brace : (split.settled known).text = '\x7b' :: rest) :
    ∃ later : Split, split = later.prepend '\x7b' ∧ (later.settled known).text = rest := by
  induction split using reading with
  | nothing => cases brace
  | reference name after _ =>
    rw [settled] at brace
    cases found : known (String.ofList name) with
    | none =>
      rw [found] at brace
      simp [text, written] at brace
    | some value =>
      obtain ⟨nonempty, _, unbraced⟩ := inert _ value found
      have characters : value.toList ≠ [] := by simpa using nonempty
      obtain ⟨first, others, spelled⟩ := List.exists_cons_of_ne_nil characters
      rw [found] at brace
      simp only [List.nil_append, text_preceded, spelled, List.cons_append] at brace
      rw [spelled, (List.cons.inj brace).1] at unbraced
      exact (unbraced List.mem_cons_self).elim
  | prepend c later _ =>
    rw [settled_prepend, text_prepend] at brace
    obtain ⟨rfl, same⟩ := List.cons.inj brace
    exact ⟨later, rfl, same⟩

/-- A text without closing brace has no references, so it is settled as it is. -/
theorem brace_of_settled (split : Split) (closed : '\x7d' ∈ (split.settled known).text) :
    '\x7d' ∈ split.text := by
  cases split with
  | plain literal => exact closed
  | reference literal name rest => simp [text, written]

/-- A closing brace that stands in front still does. -/
theorem settled_of_brace (split : Split) (first : split.text.head? = some '\x7d') :
    (split.settled known).text.head? = some '\x7d' := by
  induction split using reading with
  | nothing => cases first
  | reference name rest _ => simp [text, written] at first
  | prepend c later _ => simpa using first

/-- Settling a text opens no reference in front of it. -/
theorem not_beginsReference_settled (c : Char) (split : Split) (inert : AllInert known)
    (barren : ¬ BeginsReference (c :: split.text)) :
    ¬ BeginsReference (c :: (split.settled known).text) := by
  rw [beginsReference_iff] at barren ⊢
  rintro ⟨rest, same, closed, notAtOnce⟩
  obtain ⟨rfl, brace⟩ := List.cons.inj same
  obtain ⟨later, rfl, rfl⟩ := prepend_of_settled_brace known split rest inert brace
  refine barren ⟨later.text, by rw [text_prepend], brace_of_settled known later closed, ?_⟩
  intro first
  exact notAtOnce (settled_of_brace known later first)

/-- Text without dollar signs opens no reference. -/
theorem leftmost_preceded (literal : List Char) (split : Split) (plain : '$' ∉ literal)
    (leftmost : split.Leftmost) : (split.preceded literal).Leftmost := by
  induction literal with
  | nil => exact leftmost
  | cons c literal inductionHypothesis =>
    rw [List.mem_cons, not_or] at plain
    refine (leftmost_prepend c (split.preceded literal)).mpr ⟨?_, inductionHypothesis plain.2⟩
    rw [beginsReference_iff]
    rintro ⟨rest, same, _⟩
    exact plain.1 (List.cons.inj same).1.symm

/-- Settling a leftmost split of a text gives the leftmost split of the evaluated text. -/
theorem leftmost_settled (split : Split) (inert : AllInert known) (leftmost : split.Leftmost) :
    (split.settled known).Leftmost := by
  induction split using reading with
  | nothing => exact leftmost
  | reference name rest inductionHypothesis =>
    obtain ⟨_, proper, later⟩ := leftmost
    rw [settled]
    cases found : known (String.ofList name) with
    | some value =>
      exact leftmost_preceded _ _ (inert _ value found).2.1 (inductionHypothesis later)
    | none => exact ⟨barren_nil _, proper, inductionHypothesis later⟩
  | prepend c split inductionHypothesis =>
    obtain ⟨barren, later⟩ := (leftmost_prepend c split).mp leftmost
    rw [settled_prepend, leftmost_prepend]
    exact ⟨not_beginsReference_settled known c split inert barren, inductionHypothesis later⟩

/-- Nothing is evaluated to nothing but nothing. -/
theorem substituted_eq_nil (split : Split) (inert : AllInert known)
    (nothing : split.substituted known = []) : split.text = [] := by
  cases split with
  | plain literal => exact nothing
  | reference literal name rest =>
    have none : replacement known name = [] := by simp_all [substituted]
    rw [replacement] at none
    cases found : known (String.ofList name) with
    | none =>
      rw [found] at none
      cases none
    | some value =>
      rw [found] at none
      exact ((inert _ value found).1 (String.toList_eq_nil_iff.mp none)).elim

end Joints

end Split

section Again

variable (known : String → Option String)

/-- An evaluated text is the settled split of the given one. -/
theorem toList_evaluate (text : String) (split : Split) (same : split.text = text.toList)
    (leftmost : split.Leftmost) : (evaluate known text).toList = (split.settled known).text := by
  rw [evaluate, String.toList_ofList, ← same, Split.evaluateFrom_text known split leftmost,
    Split.text_settled]

/-- An evaluated text is left as it is when it is evaluated again. -/
theorem evaluate_evaluate (text : String) (inert : AllInert known) :
    evaluate known (evaluate known text) = evaluate known text := by
  obtain ⟨split, same, leftmost⟩ := Split.exists_leftmost text.toList
  have once := toList_evaluate known text split same leftmost
  have again := toList_evaluate known (evaluate known text) (split.settled known) once.symm
    (split.leftmost_settled known inert leftmost)
  rw [← String.toList_inj, again, once, Split.text_settled, Split.substituted_settled]

/-- Only the empty text is evaluated to the empty text. -/
theorem evaluate_eq_empty (text : String) (inert : AllInert known)
    (nothing : evaluate known text = "") : text = "" := by
  obtain ⟨split, same, leftmost⟩ := Split.exists_leftmost text.toList
  have evaluated := toList_evaluate known text split same leftmost
  rw [nothing, Split.text_settled] at evaluated
  rw [← String.toList_eq_nil_iff, ← same]
  exact split.substituted_eq_nil known inert evaluated.symm

/-- What a node stands for depends on its value and its attributes. -/
theorem source?_congr (node other : Node) (sameValue : node.value = other.value)
    (sameAttributes : node.attributes = other.attributes) : source? node = source? other := by
  rw [source?, source?, sameValue, sameAttributes]

/-- Evaluating leaves the attributes alone. -/
theorem attributes_evaluateNode (node : Node) :
    (evaluateNode known node).attributes = node.attributes := by
  cases node
  rfl

/-- The value of an evaluated node is the evaluated text that the node stands for. -/
theorem value_of_standsFor (node : Node) (text : String) (stands : StandsFor node text) :
    (evaluateNode known node).value = some (evaluate known text) := by
  rw [value_evaluateNode, (source?_eq_some_iff node text).mpr stands]

/-- An evaluated node keeps its value when it is evaluated again. If that value is empty, the node
falls back on its default once more; but then it stood for the empty text before, so the default
is empty as well. -/
theorem value_evaluateNode_again (node : Node) (inert : AllInert known) :
    (evaluateNode known (evaluateNode known node)).value = (evaluateNode known node).value := by
  cases found : source? node with
  | none =>
    have kept : (evaluateNode known node).value = node.value := by
      rw [value_evaluateNode, found]
    have still := source?_congr (evaluateNode known node) node kept
      (attributes_evaluateNode known node)
    rw [value_evaluateNode, still, found]
  | some text =>
    have stands := (source?_eq_some_iff node text).mp found
    have once := value_of_standsFor known node text stands
    by_cases empty : evaluate known text = ""
    · obtain rfl := evaluate_eq_empty known text inert empty
      rcases stands with ⟨_, nonempty⟩ | ⟨_, declared⟩
      · exact (nonempty rfl).elim
      · have bare : (evaluateNode known node).value = some "" := by rw [once, empty]
        rw [← attributes_evaluateNode known node] at declared
        rw [value_of_standsFor known _ "" (.byDefault (.inr bare) declared), once]
    · rw [value_of_standsFor known _ _ (.own once empty), evaluate_evaluate known text inert, once]

mutual

/-- An evaluated tree stays as it is when it is evaluated again. -/
theorem evaluateNode_evaluateNode (inert : AllInert known) :
    (node : Node) → evaluateNode known (evaluateNode known node) = evaluateNode known node
  | .mk name value attributes children => by
    have sameValue := value_evaluateNode_again known (.mk name value attributes children) inert
    have sameChildren := evaluateNodes_evaluateNodes inert children
    rw [evaluateNode] at sameValue ⊢
    rw [evaluateNode, sameChildren]
    exact congrArg (Node.mk name · attributes (evaluateNodes known children)) sameValue

/-- So do the trees of a list. -/
theorem evaluateNodes_evaluateNodes (inert : AllInert known) :
    (nodes : List Node) →
      evaluateNodes known (evaluateNodes known nodes) = evaluateNodes known nodes
  | [] => rfl
  | node :: rest => by
    rw [evaluateNodes, evaluateNodes, evaluateNode_evaluateNode inert node,
      evaluateNodes_evaluateNodes inert rest]

end

end Again

/-- Whatever has a value in a project has it from an entry of its table. -/
theorem allInert_table (project : Option Project)
    (inert : ∀ entry ∈ (table project).entries, IsInert entry.2) :
    AllInert (valueOf? project) := by
  intro name value known
  rw [← get?_table, Table.get?, List.lookup_eq_some_iff] at known
  obtain ⟨before, after, entries, _⟩ := known
  exact inert (name, value) (by rw [entries]; simp)

/-- If everything that references can name in a project is inert, a configuration that was
evaluated for it stays as it is when it is evaluated again. At every position, the leftmost split
of an evaluated text is the one of the given text, the references to known names having become
literal text: no reference comes about, and those to unknown names are left as they were. -/
theorem evaluateConfiguration_again (node : Node) (project : Option Project)
    (inert : ∀ entry ∈ (table project).entries, IsInert entry.2) :
    evaluateConfiguration (evaluateConfiguration node project) project =
        evaluateConfiguration node project ∧
      ∀ (path : List Nat) (given : Node) (text : String) (split : Split),
        node.descendant? path = some given → StandsFor given text →
        split.text = text.toList → split.Leftmost →
        ∃ result : Node, (evaluateConfiguration node project).descendant? path = some result ∧
          result.value = some (String.ofList (split.settled (valueOf? project)).text) ∧
          (split.settled (valueOf? project)).Leftmost ∧
          (split.settled (valueOf? project)).names =
            split.names.filter fun name => (valueOf? project (String.ofList name)).isNone := by
  have known := allInert_table project inert
  constructor
  · rw [evaluateConfiguration, evaluateConfiguration, get?_table]
    exact evaluateNode_evaluateNode (valueOf? project) known node
  · intro path given text split reached stands same leftmost
    refine ⟨evaluateNode (valueOf? project) given, ?_, ?_, ?_, ?_⟩
    · rw [evaluateConfiguration, get?_table, descendant?_evaluateNode, reached, Option.map_some]
    · rw [value_of_standsFor _ given text stands,
        ← toList_evaluate (valueOf? project) text split same leftmost, String.ofList_toList]
    · exact split.leftmost_settled (valueOf? project) known leftmost
    · exact split.names_settled (valueOf? project)

/-- A dollar sign stays apart from the opening brace that follows the reference between them, as
long as that reference is replaced by something. -/
theorem evaluateConfiguration_again_parted :
    let project : Project :=
      { groupId := some "org.example", artifactId := some "app", version := some "1.0",
        properties := ⟨[("closing", "x\x7dy")], by decide⟩ }
    let parameter : Node :=
      .mk "file" none
        ⟨[("default-value", "$$\x7bproject.version\x7d\x7b$\x7bother\x7d$\x7bclosing\x7d$\x7b")],
          by decide⟩ []
    let node : Node := .mk "configuration" (some "") Table.empty [parameter]
    let result : Node := evaluateConfiguration node (some project)
    (∀ entry ∈ (table (some project)).entries, IsInert entry.2) ∧
      evaluateConfiguration result (some project) = result ∧
      (result.descendant? [0]).bind Node.value =
        some "$1.0\x7b$\x7bother\x7dx\x7dy$\x7b" := by
  intro project parameter node result
  have inert : ∀ entry ∈ (table (some project)).entries, IsInert entry.2 := by decide +kernel
  exact ⟨inert, (evaluateConfiguration_again node (some project) inert).1, by decide +kernel⟩

end BuildChronicle.Expression
