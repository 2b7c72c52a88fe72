import BuildChronicle.Proofs.LinkResolution

/-!
# Canonical paths

A path whose resolution is not hindered has a canonical path: the plain way to the directory that
the path leads to. Nothing is left to be resolved in it, so it is its own canonical path.

Resolution is hindered by a link that leads back to itself, and by links that lead to links deeper
than can be followed.
-/

namespace BuildChronicle

namespace FileSystem

variable (files : FileSystem)

/-- The directory that a path starts from: the working directory, if there is one, or the root. -/
def start? (path : Path) : Option (List String) :=
  if path.origin = .relative then files.workingDirectory else some []

/-- The resolution of a path comes to its end. It meets no link that is still being resolved, and
links lead to links no deeper than can be followed. -/
structure Unhindered (path : Path) : Prop where
  /-- No link is met while it is being resolved. -/
  acyclic : ∀ itinerary, files.resolution path ≠ .unfinished itinerary
  /-- Links within links are followed. -/
  shallow : files.resolution path ≠ .tooDeep

/-- Whether the resolution of a path is hindered can be decided. -/
instance decidableUnhindered (path : Path) : Decidable (files.Unhindered path) :=
  match resolved : files.resolution path with
  | .settled _ _ => isTrue ⟨by rw [resolved]; exact nofun, by rw [resolved]; exact nofun⟩
  | .unfinished itinerary => isFalse fun unhindered => unhindered.acyclic itinerary resolved
  | .tooDeep => isFalse fun unhindered => unhindered.shallow resolved
  | .unnameable => isTrue ⟨by rw [resolved]; exact nofun, by rw [resolved]; exact nofun⟩

/-- A canonical path: a plain way from the root, written with a slash before each step. -/
structure IsCanonical (steps : List String) (path : String) : Prop where
  /-- It begins with a slash, and has single slashes between the steps. -/
  written : path = "/" ++ Text.interpose "/" steps
  /-- The steps are names, and no directory on the way is a link. -/
  plain : files.IsPlain steps
  /-- It does not end with a slash, unless it is the root. -/
  unended : path.toList.getLast? = some '/' → path = "/"

section Finishing

/-- The way to a place is what its itinerary amounts to. -/
theorem absolute_itinerary (place : Place) (steps : List String)
    (stands : files.Stands place steps) (names : ∀ step ∈ steps, Path.IsName step) :
    files.absolute place.itinerary = some ⟨.root, steps⟩ := by
  have located := stands.located
  rw [locate?] at located
  rw [absolute, Place.itinerary]
  cases anchored : place.anchored with
  | true =>
    rw [anchored, if_pos rfl] at located
    cases located
    simp [normalSteps_names _ names]
  | false =>
    rw [anchored, if_neg Bool.false_ne_true] at located
    obtain ⟨directory, working, rfl⟩ := Option.map_eq_some_iff.mp located
    simp [working]

/-- A plain way can be followed without following a link. The induction is on what is left of the
way; what was gone already is a front of it. -/
theorem reaches_plain (follow : List String → List String → Bool) (trail rest : List String)
    (plain : files.IsPlain (trail.reverse ++ rest)) : files.reaches follow trail rest = true := by
  induction rest generalizing trail with
  | nil => rfl
  | cons component rest inductionHypothesis =>
    have further : (component :: trail).reverse ++ rest = trail.reverse ++ component :: rest := by
      simp
    have name := plain.names component (by simp)
    have direct : files.links.lookup (component :: trail).reverse = none := by
      apply plain.direct _ _ (by simp)
      rw [← further]
      exact List.prefix_append _ rest
    rw [reaches, if_neg (by simp [name.speaks]), if_neg name.onward, direct]
    exact inductionHypothesis (component :: trail) (further ▸ plain)

/-- A plain way is finished as it is. -/
theorem finish_plain (given : String) (place : Place) (steps : List String)
    (stands : files.Stands place steps) (plain : files.IsPlain steps) :
    files.finish given place.itinerary = .ok (Path.text ⟨.root, steps⟩) := by
  have nameable : ∀ step ∈ steps, '\x00' ∉ step.toList :=
    fun step member => (plain.names step member).nameable
  have reached : files.reachesWithin mostLinks [] steps = true :=
    files.reaches_plain _ [] steps plain
  rw [finish, files.absolute_itinerary place steps stands plain.names]
  simpa [reached] using nameable

/-- Whatever is made absolute begins with a slash. -/
theorem absolute_begins (itinerary : Itinerary) (path : Path)
    (absolute : files.absolute itinerary = some path) : path.text.toList.head? = some '/' := by
  have rooted : path.origin ≠ .relative := by
    rw [FileSystem.absolute] at absolute
    split at absolute
    · obtain ⟨directory, _, rfl⟩ := Option.map_eq_some_iff.mp absolute
      exact nofun
    · cases absolute
      assumption
  rw [Path.text, if_neg (by simp [rooted]), String.toList_append]
  cases origin : path.origin with
  | relative => exact absurd origin rooted
  | root => rfl
  | doubleRoot => rfl

/-- A canonical path begins with a slash, also after a loop that was undone. -/
theorem canonical_begins (given path : String) (canonical : files.canonical given = .ok path) :
    path.toList.head? = some '/' := by
  have finished : ∃ itinerary, files.finish given itinerary = .ok path := by
    rw [FileSystem.canonical] at canonical
    split at canonical
    · exact ⟨_, canonical⟩
    · exact ⟨_, canonical⟩
    · cases canonical
    · cases canonical
  obtain ⟨itinerary, finished⟩ := finished
  rw [finish] at finished
  split at finished
  · cases finished
  · rename_i steps absolute
    split at finished
    · cases finished
    · split at finished
      · cases finished
        exact files.absolute_begins itinerary steps absolute
      · cases finished

end Finishing

section Canonical

/-- Walking along a plain way arrives at its end, and meets nothing to be remembered. -/
theorem walk_plain (follow : Memory → Place → List String → Resolution) (trail rest : List String)
    (plain : files.IsPlain (trail.reverse ++ rest)) :
    files.walk follow [] ⟨true, trail⟩ rest =
      .settled ⟨true, (trail.reverse ++ rest).reverse⟩ [] := by
  induction rest generalizing trail with
  | nil => simp [walk]
  | cons component rest inductionHypothesis =>
    have further : (component :: trail).reverse ++ rest = trail.reverse ++ component :: rest := by
      simp
    have name := plain.names component (by simp)
    have direct : files.target? (Place.down ⟨true, trail⟩ component) = none := by
      apply plain.direct _ _ (by simp [Place.down])
      rw [← further]
      exact List.prefix_append _ rest
    rw [files.walk_entered follow [] _ component rest name direct, Place.down,
      inductionHypothesis (component :: trail) (further ▸ plain), further]

/-- A plain way is its own canonical path. -/
theorem canonical_plain (steps : List String) (plain : files.IsPlain steps) :
    files.canonical (Path.text ⟨.root, steps⟩) = .ok (Path.text ⟨.root, steps⟩) := by
  have settled : files.resolution ⟨.root, steps⟩ = .settled ⟨true, steps.reverse⟩ [] :=
    files.walk_plain _ [] steps plain
  have stands : files.Stands ⟨true, steps.reverse⟩ steps := by
    refine ⟨by simp [locate?], ?_⟩
    intro step member
    exact (plain.names step (List.mem_reverse.mp member)).speaks
  rw [canonical, Path.parse_text_root steps plain.names, settled]
  exact files.finish_plain _ _ steps stands plain

/-- The path of a plain way is canonical. -/
theorem isCanonical_text (steps : List String) (plain : files.IsPlain steps) :
    files.IsCanonical steps (Path.text ⟨.root, steps⟩) where
  written := by rw [Path.text, if_neg (by simp)]; rfl
  plain := plain
  unended := by
    intro slash
    rw [Path.getLast?_text_root steps plain.names slash]
    rfl

/-- The place from which a path is resolved is the directory that the path starts from, and the way
to it is plain. -/
theorem stands_start (path : Path) (start : List String)
    (directories : ∀ directory ∈ files.workingDirectory, files.IsPlain directory)
    (starts : files.start? path = some start) :
    files.Stands (if path.origin = .relative then Place.here else Place.root) start ∧
      files.IsPlain start := by
  by_cases relative : path.origin = .relative
  · rw [start?, if_pos relative] at starts
    rw [if_pos relative]
    have plain := directories start starts
    exact ⟨files.stands_here start starts plain.names, plain⟩
  · rw [start?, if_neg relative] at starts
    cases starts
    rw [if_neg relative]
    exact ⟨files.stands_root, files.isPlain_root⟩

/-- A path that is settled leads to the place that it is settled on. -/
theorem leads_of_settled (given : String) (start : List String) (place : Place) (memory : Memory)
    (directories : ∀ directory ∈ files.workingDirectory, files.IsPlain directory)
    (starts : files.start? (Path.parse given) = some start)
    (settled : files.resolution (Path.parse given) = .settled place memory) :
    ∃ goal, files.Stands place goal ∧ files.IsPlain goal ∧
      files.Leads start (Path.parse given).components goal := by
  obtain ⟨begins, startPlain⟩ := files.stands_start _ start directories starts
  obtain ⟨_, goal, stands, leads⟩ := files.sound_resolve greatestDepth [] _ start _ place memory
    files.truthful_nil begins (Path.whole_parse given) settled
  exact ⟨goal, stands, files.isPlain_of_leads start _ goal leads startPlain, leads⟩

/-- A path that begins with a slash, or any path if there is a working directory, starts
somewhere. -/
theorem exists_start (given : String)
    (located : given.toList.head? = some '/' ∨ files.workingDirectory.isSome = true) :
    ∃ start, files.start? (Path.parse given) = some start := by
  rw [start?, Path.parse]
  rcases located with slash | working
  · have absolute : Origin.of given.toList ≠ .relative := by
      cases characters : given.toList with
      | nil => rw [characters] at slash; cases slash
      | cons first others =>
        rw [characters] at slash
        cases slash
        rw [Origin.of.eq_def]
        split <;> simp_all
    exact ⟨[], if_neg absolute⟩
  · split
    · exact Option.isSome_iff_exists.mp working
    · exact ⟨[], rfl⟩

/-- If its resolution is not hindered, a path has a canonical path. It is the plain way to the one
directory that the path leads to, and it is its own canonical path.

Proof: a resolution that neither is hindered nor meets a component that cannot be a name settles.
It settles where the path leads, and the way there is plain because the way to its start is. -/
theorem canonical_unhindered (given : String)
    (directories : ∀ directory ∈ files.workingDirectory, files.IsPlain directory)
    (targets : ∀ link ∈ files.links, '\x00' ∉ link.2.toList)
    (nameable : '\x00' ∉ given.toList)
    (located : given.toList.head? = some '/' ∨ files.workingDirectory.isSome = true)
    (unhindered : files.Unhindered (Path.parse given)) :
    ∃ start goal path, files.start? (Path.parse given) = some start ∧
      files.Leads start (Path.parse given).components goal ∧
      (∀ other, files.Leads start (Path.parse given).components other → other = goal) ∧
      files.canonical given = .ok path ∧ files.IsCanonical goal path ∧
      files.canonical path = .ok path := by
  obtain ⟨start, starts⟩ := files.exists_start given located
  have proper : ∀ component ∈ (Path.parse given).components,
      '/' ∉ component.toList ∧ '\x00' ∉ component.toList := by
    intro component member
    exact nameable_fields given nameable component (List.mem_filter.mp member).1
  cases resolved : files.resolution (Path.parse given) with
  | settled place memory =>
    obtain ⟨goal, stands, plain, leads⟩ :=
      files.leads_of_settled given start place memory directories starts resolved
    have finished : files.canonical given = .ok (Path.text ⟨.root, goal⟩) := by
      rw [canonical, resolved]
      exact files.finish_plain given place goal stands plain
    refine ⟨start, goal, Path.text ⟨.root, goal⟩, starts, leads, ?_, finished,
      files.isCanonical_text goal plain, files.canonical_plain goal plain⟩
    intro other otherwise
    exact files.leads_unique start _ goal other leads otherwise
  | unfinished itinerary => exact absurd resolved (unhindered.acyclic itinerary)
  | tooDeep => exact absurd resolved unhindered.shallow
  | unnameable =>
    exact absurd resolved (files.nameable_resolve targets greatestDepth [] _ _ proper)

end Canonical

/-- A working directory with a link to the latest of its releases. -/
def releases : FileSystem where
  links := [(["work", "current"], "./latest"), (["work", "latest"], "v2")]
  workingDirectory := some ["work"]

/-- A relative path through a link to a link, back again, and through the first link once more has
a canonical path. -/
theorem canonical_release :
    let given := "current/../current//lib/"
    (∀ directory ∈ releases.workingDirectory, releases.IsPlain directory) ∧
      (∀ link ∈ releases.links, '\x00' ∉ link.2.toList) ∧ '\x00' ∉ given.toList ∧
      releases.workingDirectory.isSome = true ∧ releases.Unhindered (Path.parse given) ∧
      ∃ goal, releases.Leads ["work"] ["current", "..", "current", "lib"] goal ∧
        releases.canonical given = .ok "/work/v2/lib" ∧
        releases.IsCanonical goal "/work/v2/lib" ∧
        releases.canonical "/work/v2/lib" = .ok "/work/v2/lib" := by
  intro given
  have directories : ∀ directory ∈ releases.workingDirectory, releases.IsPlain directory := by
    decide
  have targets : ∀ link ∈ releases.links, '\x00' ∉ link.2.toList := by decide
  have nameable : '\x00' ∉ given.toList := by decide
  have unhindered : releases.Unhindered (Path.parse given) := by decide +kernel
  have expected : releases.canonical given = .ok "/work/v2/lib" := by decide +kernel
  have components : (Path.parse given).components = ["current", "..", "current", "lib"] := by
    decide
  have begins : releases.start? (Path.parse given) = some ["work"] := by decide
  obtain ⟨start, goal, path, starts, leads, _, resolved, canonical, again⟩ :=
    releases.canonical_unhindered given directories targets nameable (.inr rfl) unhindered
  rw [expected] at resolved
  rw [begins] at starts
  cases resolved
  cases starts
  rw [components] at leads
  exact ⟨directories, targets, nameable, rfl, unhindered, goal, leads, expected, canonical, again⟩

end FileSystem

end BuildChronicle
