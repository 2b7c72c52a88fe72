import BuildChronicle.Proofs.Evaluation
import BuildChronicle.Settings.Environment

/-!
# Adopted variables

Loading an environment file sets exactly the variables that the environment lacks, and of several
bindings of a variable the last one counts. So a variable has the value of the environment if it
is set there, even to nothing, and else the value that it is bound to last. This is asked of any
library that loads files, and the known one keeps to it.

References within a file are resolved in the environment, so a file says something else once its
variables were adopted. Still nothing more is adopted when it is read again: whether a statement
binds a value does not depend on the environment, so whatever has a value then was adopted before.
-/

namespace BuildChronicle

namespace Table

variable {α : Type}

/-- Entries that are written one after the other give a name the value of its last entry; all
other names keep theirs. -/
theorem get?_extend_last (table : Table α) (entries : List (String × α)) (name : String) :
    (table.extend entries).get? name = (entries.reverse.lookup name).or (table.get? name) := by
  induction entries generalizing table with
  | nil => rfl
  | cons entry entries inductionHypothesis =>
    have later := inductionHypothesis (table.set entry.1 entry.2)
    rw [get?_set, extend] at later
    rw [extend, List.foldl_cons, later, List.reverse_cons, List.lookup_append, Option.or_assoc,
      List.lookup_cons]
    by_cases asked : name = entry.1
    · simp [asked]
    · simp [asked, beq_eq_false_iff_ne.mpr asked]

/-- In a table of entries, the last entry of a name decides its value. -/
theorem get?_ofList (entries : List (String × α)) (name : String) :
    (ofList entries).get? name = entries.reverse.lookup name := by
  rw [ofList, get?_extend_last, get?_empty, Option.or_none]

/-- Every entry of a table is found under its name. -/
theorem get?_of_mem (table : Table α) (name : String) (value : α)
    (member : (name, value) ∈ table.entries) : table.get? name = some value := by
  obtain ⟨entries, distinct⟩ := table
  change entries.lookup name = some value
  induction entries with
  | nil => cases member
  | cons entry rest inductionHypothesis =>
    rw [List.map_cons, List.nodup_cons] at distinct
    rw [List.lookup_cons]
    rcases List.mem_cons.mp member with rfl | member
    · simp
    · have other : (name == entry.1) = false := by
        rw [beq_eq_false_iff_ne]
        rintro rfl
        exact distinct.1 (List.mem_map.mpr ⟨_, member, rfl⟩)
      rw [other]
      exact inductionHypothesis distinct.2 member

/-- Changing the values of entries changes what is found in the same way. -/
theorem lookup_map {β : Type} (change : α → β) (entries : List (String × α)) (name : String) :
    (entries.map fun entry => (entry.1, change entry.2)).lookup name =
      (entries.lookup name).map change := by
  induction entries with
  | nil => rfl
  | cons entry rest inductionHypothesis =>
    rw [List.map_cons, List.lookup_cons, List.lookup_cons, inductionHypothesis]
    cases name == entry.1 <;> rfl

end Table

namespace Settings

/-- The value that bindings give a variable: that of its last binding, if this one has a value. -/
def bound? (bindings : List (String × Option String)) (name : String) : Option String :=
  (bindings.reverse.lookup name).join

/-- The value of a variable that counts: that of the environment, even an empty one, else the one
it is bound to. -/
def effective? (environment : Environment) (bindings : List (String × Option String))
    (name : String) : Option String :=
  (environment.get? name).or (bound? bindings name)

/-- Loading a file that binds variables like this adds to the environment the variables that it
lacks, as they are bound last, and leaves those it has as they are. This is asked of one call of
the library; neither the settings nor the words of the file are mentioned. -/
structure Libraries.Adds (libraries : Libraries) (environment : Environment)
    (file : Option String) (bindings : List (String × Option String)) : Prop where
  /-- The file is loaded. -/
  done : (libraries.loadFile environment file).2 = .ok ()
  /-- What the environment has, even an empty value, stays. -/
  kept : ∀ name value, environment.get? name = some value →
    (libraries.loadFile environment file).1.get? name = some value
  /-- What it lacks is what the file binds it to. -/
  added : ∀ name, environment.get? name = none →
    (libraries.loadFile environment file).1.get? name = bound? bindings name

/-- These bindings give values only to variables to which those give values, perhaps to fewer and
perhaps other values. -/
def BindsWithin (these those : List (String × Option String)) : Prop :=
  ∀ name value, bound? these name = some value → (bound? those name).isSome = true

/-- Once a file is loaded, every variable has the value that counts. -/
theorem Libraries.Adds.get?_after {libraries : Libraries} {environment : Environment}
    {file : Option String} {bindings : List (String × Option String)}
    (adds : libraries.Adds environment file bindings) (name : String) :
    (libraries.loadFile environment file).1.get? name = effective? environment bindings name := by
  rw [effective?]
  cases own : environment.get? name with
  | none => exact adds.added name own
  | some value => exact adds.kept name value own

/-- Nothing is set any more when a file is loaded again that gives values to no more variables than
it gave them to before. -/
theorem Libraries.Adds.get?_again {libraries : Libraries} {environment : Environment}
    {file : Option String} {bindings again : List (String × Option String)}
    (adds : libraries.Adds environment file bindings)
    (addsAgain : libraries.Adds (libraries.loadFile environment file).1 file again)
    (within : BindsWithin again bindings) (name : String) :
    (libraries.loadFile (libraries.loadFile environment file).1 file).1.get? name =
      (libraries.loadFile environment file).1.get? name := by
  rw [addsAgain.get?_after, effective?]
  cases after : (libraries.loadFile environment file).1.get? name with
  | some value => rfl
  | none =>
    rw [adds.get?_after, effective?, Option.or_eq_none_iff] at after
    rw [Option.none_or]
    cases bound : bound? again name with
    | none => rfl
    | some value =>
      have before := within name value bound
      rw [after.2] at before
      cases before

end Settings

namespace EnvFile

/-- What statements bind their names to, the references resolved in the environment and in what
was said before. -/
def resolvedFrom (environment : Table String) (earlier : Table (Option String)) :
    List Binding → List (String × Option String)
  | [] => []
  | binding :: rest =>
    let value := binding.value.map fun value =>
      String.ofList (interpolateFrom (lookUp environment earlier) 0 value.toList)
    (binding.name, value) :: resolvedFrom environment (earlier.set binding.name value) rest

/-- What the statements of a file bind their names to, one after the other. -/
def resolved (environment : Table String) (statements : List Binding) :
    List (String × Option String) :=
  resolvedFrom environment Table.empty statements

/-- The table of a file is that of its resolved statements. -/
theorem resolve_eq_ofList (environment : Table String) (statements : List Binding) :
    resolve environment statements = Table.ofList (resolved environment statements) := by
  have each (earlier : Table (Option String)) :
      statements.foldl (fun earlier binding =>
        earlier.set binding.name (binding.value.map fun value =>
          String.ofList (interpolateFrom (lookUp environment earlier) 0 value.toList))) earlier =
        earlier.extend (resolvedFrom environment earlier statements) := by
    induction statements generalizing earlier with
    | nil => rfl
    | cons binding rest inductionHypothesis => exact inductionHypothesis _
  exact each Table.empty

/-- Resolving references leaves the names as they are, and binds no name to a value that was
without one. -/
theorem map_resolvedFrom (environment : Table String) (earlier : Table (Option String))
    (statements : List Binding) :
    (resolvedFrom environment earlier statements).map (fun entry => (entry.1, entry.2.isSome)) =
      statements.map fun binding => (binding.name, binding.value.isSome) := by
  induction statements generalizing earlier with
  | nil => rfl
  | cons binding rest inductionHypothesis =>
    rw [resolvedFrom, List.map_cons, List.map_cons, inductionHypothesis, Option.isSome_map]

end EnvFile

namespace Settings

/-- What a file binds variables to in an environment. -/
def bindingsOf (environment : Environment) (file : Option String) :
    List (String × Option String) :=
  EnvFile.resolved environment (statementsOf environment file)

/-- Can this be the name and the value of a variable? -/
structure IsVariable (name value : String) : Prop where
  /-- A name has no equals sign, which is where its value begins. -/
  unsplit : '=' ∉ name.toList
  /-- A name has no null character, which is where texts end. -/
  name : '\x00' ∉ name.toList
  /-- Nor has a value. -/
  value : '\x00' ∉ value.toList

instance (name value : String) : Decidable (IsVariable name value) :=
  decidable_of_iff ('=' ∉ name.toList ∧ '\x00' ∉ name.toList ∧ '\x00' ∉ value.toList)
    ⟨fun ⟨unsplit, name, value⟩ => ⟨unsplit, name, value⟩,
      fun ⟨unsplit, name, value⟩ => ⟨unsplit, name, value⟩⟩

/-- Can an environment adopt all that a file gives to the variables it lacks? -/
def Adoptable (environment : Environment) (file : Option String) : Prop :=
  ∀ name value, environment.get? name = none →
    bound? (bindingsOf environment file) name = some value → IsVariable name value

section Files

variable (environment : Environment) (file : Option String)

/-- What cannot be a variable is refused, everything else is not. -/
theorem checkVariable_eq_ok_iff (name value : String) :
    checkVariable name value = .ok () ↔ IsVariable name value := by
  rw [checkVariable]
  split
  case isTrue nulls =>
    refine ⟨nofun, fun possible => ?_⟩
    simp [possible.name, possible.value] at nulls
  case isFalse nulls =>
    split
    case isTrue divided =>
      refine ⟨nofun, fun possible => ?_⟩
      simp [possible.unsplit] at divided
    case isFalse unsplit =>
      refine ⟨fun _ => ?_, fun _ => rfl⟩
      simp only [Bool.or_eq_true, List.contains_iff_mem, not_or] at nulls unsplit
      exact ⟨unsplit, nulls.1, nulls.2⟩

/-- An entry of a variable that is there already changes nothing. -/
theorem adopt_own (name value : String) (rest : List (String × Option String)) (own : String)
    (found : environment.get? name = some own) :
    adopt environment ((name, some value) :: rest) = adopt environment rest := by
  have there : environment.contains name = true := by
    rw [Table.contains, found]
    rfl
  rw [adopt, if_pos there]

/-- An entry of a variable that is lacking is set, if it can be a variable. -/
theorem adopt_lacking (name value : String) (rest : List (String × Option String))
    (lacking : environment.get? name = none) (possible : IsVariable name value) :
    adopt environment ((name, some value) :: rest) = adopt (environment.set name value) rest := by
  have absent : ¬ environment.contains name = true := by
    rw [Table.contains, lacking]
    exact Bool.false_ne_true
  rw [adopt, if_neg absent, (checkVariable_eq_ok_iff name value).mpr possible]

/-- A list of entries is adopted as a whole if those of missing names can be variables. The
environment then has its own variables and, of the others, those that have a value in the list. -/
theorem adopt_complete (entries : List (String × Option String))
    (distinct : (entries.map Prod.fst).Nodup)
    (possible : ∀ name value, environment.get? name = none → (name, some value) ∈ entries →
      IsVariable name value) :
    (adopt environment entries).2 = .ok () ∧
      ∀ name, (adopt environment entries).1.get? name =
        (environment.get? name).or (entries.lookup name).join := by
  induction entries generalizing environment with
  | nil => exact ⟨rfl, fun name => Option.or_none.symm⟩
  | cons entry rest inductionHypothesis =>
    obtain ⟨first, bound⟩ := entry
    rw [List.map_cons, List.nodup_cons] at distinct
    have absent := Table.lookup_absent rest first distinct.1
    have later := fun environment => inductionHypothesis environment distinct.2
    have possibleLater (name value : String) (lacking : environment.get? name = none)
        (member : (name, some value) ∈ rest) : IsVariable name value :=
      possible name value lacking (List.mem_cons_of_mem _ member)
    cases bound with
    | none =>
      -- A name that is only declared is not set, and nothing after it gives it a value.
      obtain ⟨done, values⟩ := later environment possibleLater
      refine ⟨done, fun name => ?_⟩
      rw [adopt, values, List.lookup_cons]
      by_cases asked : name = first
      · simp [asked, absent]
      · simp [beq_eq_false_iff_ne.mpr asked]
    | some value =>
      cases found : environment.get? first with
      | some own =>
        obtain ⟨done, values⟩ := later environment possibleLater
        rw [adopt_own environment first value rest own found]
        refine ⟨done, fun name => ?_⟩
        rw [values, List.lookup_cons]
        by_cases asked : name = first
        · simp [asked, found]
        · simp [beq_eq_false_iff_ne.mpr asked]
      | none =>
        have possibleAfter (name other : String)
            (lacking : (environment.set first value).get? name = none)
            (member : (name, some other) ∈ rest) : IsVariable name other := by
          rw [Table.get?_set] at lacking
          split at lacking
          · cases lacking
          · exact possibleLater name other lacking member
        obtain ⟨done, values⟩ := later (environment.set first value) possibleAfter
        rw [adopt_lacking environment first value rest found
          (possible first value found List.mem_cons_self)]
        refine ⟨done, fun name => ?_⟩
        rw [values, Table.get?_set, List.lookup_cons]
        by_cases asked : name = first
        · simp [asked, found]
        · simp [asked, beq_eq_false_iff_ne.mpr asked]

/-- The value that the table of a file has for a name is the one of its last binding. -/
theorem join_get?_resolve (statements : List EnvFile.Binding) (name : String) :
    ((EnvFile.resolve environment statements).get? name).join =
      bound? (EnvFile.resolved environment statements) name := by
  rw [EnvFile.resolve_eq_ofList, Table.get?_ofList, bound?]

/-- Whether the last binding of a name has a value is told by which bindings have one. -/
theorem isSome_bound? (bindings : List (String × Option String)) (name : String) :
    (bound? bindings name).isSome =
      ((bindings.map fun entry => (entry.1, entry.2.isSome)).reverse.lookup name).getD false := by
  rw [← List.map_reverse, Table.lookup_map, bound?]
  rcases bindings.reverse.lookup name with _ | _ | value <;> rfl

/-- The same statements give values to the same names in all environments. -/
theorem isSome_bound?_resolved (other : Environment) (statements : List EnvFile.Binding)
    (name : String) :
    (bound? (EnvFile.resolved environment statements) name).isSome =
      (bound? (EnvFile.resolved other statements) name).isSome := by
  simp only [isSome_bound?, EnvFile.resolved, EnvFile.map_resolvedFrom]

/-- If every single binding can be a variable, then they can be adopted. -/
theorem adoptable_of_forall
    (possible : ∀ entry ∈ bindingsOf environment file, ∀ value ∈ entry.2,
      IsVariable entry.1 value) :
    Adoptable environment file := by
  intro name value _ bound
  obtain ⟨later, earlier, split, _⟩ := List.lookup_eq_some_iff.mp (Option.join_eq_some_iff.mp bound)
  have member : (name, some value) ∈ bindingsOf environment file := by
    rw [← List.mem_reverse, split]
    exact List.mem_append_right later List.mem_cons_self
  exact possible _ member value rfl

/-- The known library adds what a file binds, if all of it can be adopted. -/
theorem known_adds (adoptable : Adoptable environment file) :
    Libraries.known.Adds environment file (bindingsOf environment file) := by
  let bindings := EnvFile.resolve environment (statementsOf environment file)
  have values (name : String) : (bindings.get? name).join =
      bound? (bindingsOf environment file) name :=
    join_get?_resolve environment (statementsOf environment file) name
  have possible : ∀ name value, environment.get? name = none →
      (name, some value) ∈ bindings.entries → IsVariable name value := by
    intro name value lacking member
    apply adoptable name value lacking
    rw [← values, Table.get?_of_mem bindings name (some value) member, Option.join_some]
  obtain ⟨done, after⟩ := adopt_complete environment bindings.entries bindings.distinct possible
  constructor
  case done => exact done
  case kept =>
    intro name value own
    exact (after name).trans (by rw [own, Option.some_or])
  case added =>
    intro name lacking
    exact (after name).trans (by rw [lacking, Option.none_or]; exact values name)

/-- When a file is read again, its statements are the same, unless files are left alone by then. -/
theorem statementsOf_again :
    statementsOf (loadFile environment file).1 file = [] ∨
      statementsOf (loadFile environment file).1 file = statementsOf environment file := by
  cases again : ignoresFiles (loadFile environment file).1 with
  | true =>
    -- The file may have said so itself.
    left
    rw [statementsOf, if_pos again]
  | false =>
    right
    cases ignored : ignoresFiles environment with
    | true =>
      have unchanged : (loadFile environment file).1 = environment := by
        rw [loadFile, statementsOf, if_pos ignored]
        rfl
      rw [unchanged]
    | false => rw [statementsOf, statementsOf, again, ignored]

/-- What a file gives a value to when it is read again, it gave a value to before. -/
theorem bindsWithin_again :
    BindsWithin (bindingsOf (loadFile environment file).1 file) (bindingsOf environment file) := by
  intro name value bound
  rw [bindingsOf] at bound
  rcases statementsOf_again environment file with nothing | same
  · rw [nothing] at bound
    cases bound
  · rw [same] at bound
    rw [bindingsOf, isSome_bound?_resolved _ (loadFile environment file).1, bound]
    rfl

/-- The known library adds what a file binds also when it is read again: nothing is left to add. -/
theorem known_adds_again (adoptable : Adoptable environment file) :
    Libraries.known.Adds (loadFile environment file).1 file
      (bindingsOf (loadFile environment file).1 file) := by
  apply known_adds
  intro name value lacking bound
  have counts : (loadFile environment file).1.get? name =
      effective? environment (bindingsOf environment file) name :=
    (known_adds environment file adoptable).get?_after name
  have before := bindsWithin_again environment file name value bound
  rw [counts, effective?, Option.or_eq_none_iff] at lacking
  rw [lacking.2] at before
  cases before

end Files

end Settings

end BuildChronicle
