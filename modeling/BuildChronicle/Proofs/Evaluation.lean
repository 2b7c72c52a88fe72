import BuildChronicle.Proofs.References

/-!
# Evaluated configurations

Evaluating a configuration changes text values and nothing else. What becomes of each value is
told here position by position, without following the recursion over the tree: the text that a
node stands for is split at its references, leftmost first, and each reference is replaced by
the value of its name.

What a name means in a project is told by a list of cases: data of the project have names of
their own, and where such a name has no value, or a name is none of them, it is a property.
-/

namespace BuildChronicle

/-- The node that a path of positions leads to, from child to child. -/
def Node.descendant? : Node → List Nat → Option Node
  | node, [] => some node
  | node, position :: path =>
    match node.children[position]? with
    | some child => child.descendant? path
    | none => none

namespace Table

variable {α : Type}

/-- A name that no entry has is not found. -/
theorem lookup_absent (entries : List (String × α)) (name : String)
    (absent : name ∉ entries.map Prod.fst) : entries.lookup name = none := by
  rw [List.lookup_eq_none_iff]
  intro entry member
  rw [bne_iff_ne]
  intro same
  apply absent
  rw [same]
  exact List.mem_map.mpr ⟨entry, member, rfl⟩

/-- Of entries with different names, each gives its name a value; all other names keep theirs. -/
theorem get?_extend (table : Table α) (entries : List (String × α)) (name : String)
    (distinct : (entries.map Prod.fst).Nodup) :
    (table.extend entries).get? name = (entries.lookup name).or (table.get? name) := by
  induction entries generalizing table with
  | nil => rfl
  | cons entry entries inductionHypothesis =>
    obtain ⟨first, value⟩ := entry
    rw [List.map_cons, List.nodup_cons] at distinct
    have later := inductionHypothesis (table.set first value) distinct.2
    rw [get?_set, extend] at later
    rw [extend, List.foldl_cons, later, List.lookup_cons]
    by_cases asked : name = first
    · have absent := lookup_absent entries first distinct.1
      rw [asked, absent, beq_self_eq_true, if_pos rfl]
      rfl
    · have other : (name == first) = false := beq_eq_false_iff_ne.mpr asked
      rw [if_neg asked, other]

end Table

namespace Expression

/-- The value that a project's own data give to a name. -/
def ownValue? (project : Project) : String → Option String
  | "project.groupId" => project.groupId
  | "project.artifactId" => project.artifactId
  | "project.version" => project.version
  | "project.name" => project.name
  | "project.packaging" => project.packaging
  | "project.basedir" => project.basedir.map Path.text
  | "basedir" => project.basedir.map Path.text
  | "project.build.directory" => project.build.bind Build.directory
  | "project.build.outputDirectory" => project.build.bind Build.outputDirectory
  | "project.build.sourceDirectory" => project.build.bind Build.sourceDirectory
  | "project.build.testOutputDirectory" => project.build.bind Build.testOutputDirectory
  | _ => none

/-- The value of a name: what the project's own data give to it, else the property. Without a
project no name has a value. -/
def valueOf? : Option Project → String → Option String
  | none, _ => none
  | some project, name => (ownValue? project name).or (project.properties.get? name)

/-- The text that a configuration node stands for. -/
inductive StandsFor (node : Node) (text : String) : Prop where
  /-- Its own value. -/
  | own (given : node.value = some text) (nonempty : text ≠ "")
  /-- Its declared default, if its value is missing or empty. -/
  | byDefault (bare : node.value = none ∨ node.value = some "")
      (declared : node.attributes.get? "default-value" = some text)

/-- What evaluating makes of a node, apart from its children. -/
structure Evaluated (known : String → Option String) (node result : Node) : Prop where
  /-- The name stays. -/
  name : result.name = node.name
  /-- The attributes stay, in their order. -/
  attributes : result.attributes = node.attributes
  /-- There are as many children as before. -/
  width : result.children.length = node.children.length
  /-- A node that stands for no text keeps its value. -/
  kept : (∀ text, ¬ StandsFor node text) → result.value = node.value
  /-- The text that the node stands for has a single leftmost split. The value is this split with
  every reference to a known name replaced by its value. -/
  value : ∀ text, StandsFor node text → ∃ split : Split,
    split.text = text.toList ∧ split.Leftmost ∧
      (∀ other : Split, other.text = text.toList → other.Leftmost → other = split) ∧
      result.value = some (String.ofList (split.substituted known))

section Names

/-- The names of a project's own data are different. -/
theorem distinct_ownNames (project : Project) : ((ownNames project).map Prod.fst).Nodup := by
  simp [ownNames]

/-- Entries without a value are left out; the others are found under their names. -/
theorem lookup_valued (entries : List (String × Option String)) (name : String)
    (distinct : (entries.map Prod.fst).Nodup) :
    (entries.filterMap fun (name, value) => value.map fun value => (name, value)).lookup name =
      (entries.lookup name).join := by
  induction entries with
  | nil => rfl
  | cons entry entries inductionHypothesis =>
    obtain ⟨first, value⟩ := entry
    rw [List.map_cons, List.nodup_cons] at distinct
    have later := inductionHypothesis distinct.2
    rw [List.filterMap_cons, List.lookup_cons]
    by_cases asked : name = first
    · have absent := Table.lookup_absent entries first distinct.1
      rw [← asked] at absent
      rw [absent] at later
      cases value <;> simp [← asked, later]
    · have other : (name == first) = false := beq_eq_false_iff_ne.mpr asked
      cases value <;> simp [other, later, List.lookup_cons]

/-- Leaving entries out leaves no name twice. -/
theorem distinct_valued (entries : List (String × Option String))
    (distinct : (entries.map Prod.fst).Nodup) :
    ((entries.filterMap fun (name, value) => value.map fun value => (name, value)).map
      Prod.fst).Nodup := by
  refine List.Nodup.sublist ?_ distinct
  clear distinct
  induction entries with
  | nil => exact List.Sublist.slnil
  | cons entry entries inductionHypothesis =>
    obtain ⟨first, value⟩ := entry
    cases value with
    | none => exact List.Sublist.cons first inductionHypothesis
    | some value => exact inductionHypothesis.cons_cons first

/-- A project's own data are found under the names they have. -/
theorem lookup_ownNames (project : Project) (name : String) :
    ((ownNames project).lookup name).join = ownValue? project name := by
  rw [ownValue?.eq_def]
  split
  case h_12 =>
    have absent : (ownNames project).lookup name = none := by
      apply Table.lookup_absent
      simp only [ownNames, List.map_cons, List.map_nil, List.mem_cons, List.not_mem_nil, not_or]
      and_intros <;> first | assumption | exact not_false
    rw [absent]
    rfl
  all_goals simp [ownNames, List.lookup_cons]

/-- References of a project's configurations are looked up as names of the project. -/
theorem get?_table (project : Option Project) : (table project).get? = valueOf? project := by
  funext name
  cases project with
  | none => rfl
  | some project =>
    have distinct := distinct_ownNames project
    rw [table, Table.get?_extend _ _ name (distinct_valued _ distinct),
      lookup_valued _ name distinct, lookup_ownNames]
    rfl

end Names

section Trees

variable (known : String → Option String)

/-- A node stands for the text that is evaluated in its place. -/
theorem source?_eq_some_iff (node : Node) (text : String) :
    source? node = some text ↔ StandsFor node text := by
  obtain ⟨name, value, attributes, children⟩ := node
  constructor
  · intro found
    rw [source?] at found
    split at found
    · rename_i given
      obtain ⟨given, nonempty⟩ := Option.filter_eq_some_iff.mp given
      cases found
      exact .own given (by simpa using nonempty)
    · rename_i bare
      refine .byDefault ?_ found
      rw [Option.filter_eq_none_iff] at bare
      cases given : Node.value (.mk name value attributes children) with
      | none => exact .inl rfl
      | some text =>
        have empty := bare text given
        exact .inr (by simpa using empty)
  · rintro (⟨given, nonempty⟩ | ⟨bare, declared⟩)
    · simp [source?, given, Option.filter, nonempty]
    · rcases bare with bare | bare <;> simp [source?, bare, Option.filter, declared]

/-- The children are evaluated one by one. -/
theorem evaluateNodes_eq_map (nodes : List Node) :
    evaluateNodes known nodes = nodes.map (evaluateNode known) := by
  induction nodes with
  | nil => rfl
  | cons node nodes inductionHypothesis =>
    rw [evaluateNodes, inductionHypothesis, List.map_cons]

/-- The children of an evaluated node are its evaluated children. -/
theorem children_evaluateNode (node : Node) :
    (evaluateNode known node).children = node.children.map (evaluateNode known) := by
  obtain ⟨name, value, attributes, children⟩ := node
  rw [evaluateNode]
  exact evaluateNodes_eq_map known children

/-- The value of an evaluated node is its evaluated text, if it stands for any. -/
theorem value_evaluateNode (node : Node) :
    (evaluateNode known node).value =
      match source? node with
      | some text => some (evaluate known text)
      | none => node.value := by
  obtain ⟨name, value, attributes, children⟩ := node
  rfl

/-- Evaluating a node makes of it what is told of one node. -/
theorem evaluated_evaluateNode (node : Node) :
    Evaluated known node (evaluateNode known node) := by
  constructor
  case name =>
    cases node
    rfl
  case attributes =>
    cases node
    rfl
  case width => rw [children_evaluateNode, List.length_map]
  case kept =>
    intro nothing
    have missing : source? node = none := by
      cases found : source? node with
      | none => rfl
      | some text => exact (nothing text ((source?_eq_some_iff node text).mp found)).elim
    rw [value_evaluateNode, missing]
  case value =>
    intro text stands
    obtain ⟨split, same, leftmost⟩ := Split.exists_leftmost text.toList
    refine ⟨split, same, leftmost, ?_, ?_⟩
    · intro other otherSame otherLeftmost
      exact Split.leftmost_unique other split otherLeftmost leftmost (otherSame.trans same.symm)
    · have found := (source?_eq_some_iff node text).mpr stands
      rw [value_evaluateNode, found]
      change some (evaluate known text) = _
      rw [evaluate, ← same, Split.evaluateFrom_text known split leftmost]

/-- A path leads to a node exactly if it leads to the evaluated one in the evaluated tree. -/
theorem descendant?_evaluateNode (node : Node) (path : List Nat) :
    (evaluateNode known node).descendant? path =
      (node.descendant? path).map (evaluateNode known) := by
  induction path generalizing node with
  | nil => rfl
  | cons position path inductionHypothesis =>
    rw [Node.descendant?, Node.descendant?, children_evaluateNode, List.getElem?_map]
    cases node.children[position]? with
    | none => rfl
    | some child => exact inductionHypothesis child

end Trees

/-- An evaluated configuration has the shape of the given one: the same paths lead to a node in
both. At each of them the name, the attributes and the number of children are the same, and the
value is the text that the node stands for, its references replaced by what their names mean in
the project. -/
theorem evaluateConfiguration_evaluated (node : Node) (project : Option Project)
    (path : List Nat) :
    Option.Rel (Evaluated (valueOf? project)) (node.descendant? path)
      ((evaluateConfiguration node project).descendant? path) := by
  rw [evaluateConfiguration, get?_table, descendant?_evaluateNode]
  cases node.descendant? path with
  | none => exact .none
  | some reached => exact .some (evaluated_evaluateNode (valueOf? project) reached)

end Expression

end BuildChronicle
