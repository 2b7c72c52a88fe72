/-!
# Tables in order of first mention

A table associates names with values. It keeps the order in which names were first
mentioned: writing a name again replaces its value and leaves its place alone. Every name
stands at most once, and that is part of the type.

Node attributes, project properties, environments, artifact types and context entries are
all tables. Reading a table never depends on the order; printing one always does.
-/

namespace BuildChronicle

/-- Values under distinct names, in order of first mention. -/
structure Table (α : Type) where
  /-- The entries in order of first mention. -/
  entries : List (String × α)
  /-- No name stands twice. -/
  distinct : (entries.map Prod.fst).Nodup

namespace Table

variable {α : Type}

/-- The table without entries. -/
def empty : Table α := ⟨[], List.nodup_nil⟩

instance : Inhabited (Table α) := ⟨empty⟩

/-- The names in order of first mention. -/
def names (table : Table α) : List String := table.entries.map Prod.fst

/-- Write one entry into a list: in place if the name is there, at the end otherwise. -/
def write (name : String) (value : α) : List (String × α) → List (String × α)
  | [] => [(name, value)]
  | (other, old) :: rest =>
    if other = name then (other, value) :: rest else (other, old) :: write name value rest

/-- A name stands in a written list exactly if it is the written one or stood there before. -/
theorem mem_names_write (name other : String) (value : α) (entries : List (String × α)) :
    other ∈ (write name value entries).map Prod.fst ↔
      other = name ∨ other ∈ entries.map Prod.fst := by
  induction entries with
  | nil => simp [write]
  | cons entry rest inductionHypothesis =>
    obtain ⟨first, old⟩ := entry
    by_cases same : first = name
    · subst same
      simp [write]
    · simp only [write, if_neg same, List.map_cons, List.mem_cons, inductionHypothesis]
      constructor
      · rintro (h | h | h) <;> simp [h]
      · rintro (h | h | h) <;> simp [h]

/-- Writing keeps names distinct: a name is added only where it did not stand. -/
theorem nodup_write (name : String) (value : α) (entries : List (String × α))
    (distinct : (entries.map Prod.fst).Nodup) :
    ((write name value entries).map Prod.fst).Nodup := by
  induction entries with
  | nil => simp [write]
  | cons entry rest inductionHypothesis =>
    obtain ⟨first, old⟩ := entry
    rw [List.map_cons, List.nodup_cons] at distinct
    by_cases same : first = name
    · simp only [write, if_pos same, List.map_cons, List.nodup_cons]
      exact distinct
    · simp only [write, if_neg same, List.map_cons, List.nodup_cons, mem_names_write]
      exact ⟨fun member => member.elim same distinct.1, inductionHypothesis distinct.2⟩

/-- Give a name its value, keeping the place of a name that is already there. -/
def set (table : Table α) (name : String) (value : α) : Table α :=
  ⟨write name value table.entries, nodup_write name value table.entries table.distinct⟩

/-- The value of a name, if the table has one. -/
def get? (table : Table α) (name : String) : Option α := table.entries.lookup name

/-- Does the table have this name? -/
def contains (table : Table α) (name : String) : Bool := (table.get? name).isSome

/-- Write entries one after the other into a table. -/
def extend (table : Table α) (entries : List (String × α)) : Table α :=
  entries.foldl (fun written entry => written.set entry.1 entry.2) table

/-- The table of a list of entries, the last entry of a name deciding its value. -/
def ofList (entries : List (String × α)) : Table α := empty.extend entries

/-- Does the first entry come no later than the second when names are put in order? -/
def byName (first second : String × α) : Bool := decide (first.1 ≤ second.1)

/-- The entries in the order of their names, compared character by character. -/
def sorted (table : Table α) : List (String × α) := table.entries.mergeSort byName

@[simp] theorem get?_empty (name : String) : (empty : Table α).get? name = none := rfl

/-- Looking up what was just written finds it, and finds every other name unchanged. -/
theorem lookup_write (name other : String) (value : α) (entries : List (String × α)) :
    (write name value entries).lookup other =
      if other = name then some value else entries.lookup other := by
  induction entries with
  | nil =>
    by_cases asked : other = name
    · simp [write, asked]
    · have absent : (other == name) = false := beq_eq_false_iff_ne.mpr asked
      simp [write, List.lookup_cons, absent, asked]
  | cons entry rest inductionHypothesis =>
    obtain ⟨first, old⟩ := entry
    by_cases same : first = name
    · subst same
      by_cases asked : other = first
      · simp [write, asked]
      · have absent : (other == first) = false := beq_eq_false_iff_ne.mpr asked
        simp [write, List.lookup_cons, absent, asked]
    · by_cases asked : other = first
      · subst asked
        simp [write, same]
      · have absent : (other == first) = false := beq_eq_false_iff_ne.mpr asked
        simp [write, if_neg same, List.lookup_cons, absent, inductionHypothesis]

@[simp] theorem get?_set (table : Table α) (name other : String) (value : α) :
    (table.set name value).get? other = if other = name then some value else table.get? other :=
  lookup_write name other value table.entries

/-- Tables with the same entries are equal: the distinctness of names carries no data. -/
theorem ext_entries {left right : Table α} (same : left.entries = right.entries) :
    left = right := by
  cases left
  cases right
  simp only at same
  subst same
  rfl

end Table

end BuildChronicle
