import Mathlib.Data.List.Induction
import Mathlib.Data.List.Infix
import BuildChronicle.Path.Resolution
import BuildChronicle.Proofs.WrittenPaths

/-!
# Where paths lead

Going along components from a directory, one enters directories, goes back and follows symbolic
links, each from the directory it stands in. Where this leads is told without any memory of
links that were met before. A resolution that settles has arrived there: what it remembers of
links is where they lead, and its places, whether the steps to them were taken from the root
or from the working directory, are the directories gone through.

Wherever one goes from a directory to which the way is plain, the way is plain again: it consists
of names, and none of the directories on it is a link.
-/

namespace BuildChronicle

namespace FileSystem

section Ways

variable (files : FileSystem)

/-- The directory from which the path in a link is followed, for a link in a directory. -/
def linkStart (steps : List String) (target : String) : List String :=
  if Origin.of target.toList = .relative then steps else []

/-- Going along components from a directory leads to a goal. Directories are given by the steps
to them from the root. A link is followed to where the path that it holds leads. -/
inductive Leads : List String → List String → List String → Prop where
  /-- Without components one stays where one is. -/
  | arrived (steps : List String) : Leads steps [] steps
  /-- Some components say nothing. -/
  | idle (steps : List String) (component : String) (rest goal : List String)
      (void : Path.isVoid component = true) (onward : Leads steps rest goal) :
      Leads steps (component :: rest) goal
  /-- One goes back to the directory above; nothing is above the root. -/
  | back (steps rest goal : List String) (onward : Leads steps.dropLast rest goal) :
      Leads steps (".." :: rest) goal
  /-- One enters what is no link. -/
  | entered (steps : List String) (component : String) (rest goal : List String)
      (name : Path.IsName component) (direct : files.links.lookup (steps ++ [component]) = none)
      (onward : Leads (steps ++ [component]) rest goal) : Leads steps (component :: rest) goal
  /-- One follows a link, and goes on from where it leads. -/
  | followed (steps : List String) (component target : String) (landing rest goal : List String)
      (name : Path.IsName component)
      (linked : files.links.lookup (steps ++ [component]) = some target)
      (landed : Leads (linkStart steps target) (Text.fields '/' target) landing)
      (onward : Leads landing rest goal) : Leads steps (component :: rest) goal

/-- The way from the root along these steps is plain. -/
structure IsPlain (steps : List String) : Prop where
  /-- Every step is a name. -/
  names : ∀ step ∈ steps, Path.IsName step
  /-- No directory on the way is a link. The root is no step, so nothing is asked of it. -/
  direct : ∀ front, front <+: steps → front ≠ [] → files.links.lookup front = none

/-- Whether a way is plain can be decided. -/
instance decidableIsPlain (steps : List String) : Decidable (files.IsPlain steps) :=
  decidable_of_iff ((∀ step ∈ steps, Path.IsName step) ∧
      ∀ front ∈ steps.inits, front ≠ [] → files.links.lookup front = none)
    ⟨fun ⟨names, direct⟩ =>
        ⟨names, fun front within => direct front ((List.mem_inits _ _).mpr within)⟩,
      fun plain =>
        ⟨plain.names, fun front member => plain.direct front ((List.mem_inits _ _).mp member)⟩⟩

/-- The way to the root is plain. -/
theorem isPlain_root : files.IsPlain [] where
  names := nofun
  direct := fun _ within nonempty => absurd (List.prefix_nil.mp within) nonempty

/-- A part of a plain way is plain. -/
theorem isPlain_of_prefix (steps front : List String) (plain : files.IsPlain steps)
    (within : front <+: steps) : files.IsPlain front where
  names := fun step member => plain.names step (within.subset member)
  direct := fun further inside => plain.direct further (inside.trans within)

/-- A plain way stays plain if one enters what is no link. -/
theorem isPlain_entered (steps : List String) (component : String) (plain : files.IsPlain steps)
    (name : Path.IsName component)
    (direct : files.links.lookup (steps ++ [component]) = none) :
    files.IsPlain (steps ++ [component]) where
  names := by
    intro step member
    rcases List.mem_append.mp member with earlier | last
    · exact plain.names step earlier
    · exact List.mem_singleton.mp last ▸ name
  direct := by
    intro front within nonempty
    rcases List.prefix_concat_iff.mp within with rfl | earlier
    · exact direct
    · exact plain.direct front earlier nonempty

/-- The path in a link is followed from a directory with a plain way to it, if the way to the link
is plain. -/
theorem isPlain_linkStart (steps : List String) (target : String)
    (plain : files.IsPlain steps) : files.IsPlain (linkStart steps target) := by
  rw [linkStart]
  split
  · exact plain
  · exact files.isPlain_root

/-- The way to wherever one is led from a plain way is plain. -/
theorem isPlain_of_leads (steps components goal : List String)
    (leads : files.Leads steps components goal) (plain : files.IsPlain steps) :
    files.IsPlain goal := by
  induction leads with
  | arrived => exact plain
  | idle _ _ _ _ _ _ inductionHypothesis => exact inductionHypothesis plain
  | back steps _ _ _ inductionHypothesis =>
    exact inductionHypothesis (files.isPlain_of_prefix _ _ plain (List.dropLast_prefix steps))
  | entered steps component _ _ name direct _ inductionHypothesis =>
    exact inductionHypothesis (files.isPlain_entered steps component plain name direct)
  | followed steps _ target _ _ _ _ _ _ _ landingPlain onwardPlain =>
    exact onwardPlain (landingPlain (files.isPlain_linkStart steps target plain))

/-- Going along components leads to one goal at most. -/
theorem leads_unique (steps components goal other : List String)
    (leads : files.Leads steps components goal) (otherwise : files.Leads steps components other) :
    other = goal := by
  induction leads generalizing other with
  | arrived =>
    cases otherwise
    rfl
  | idle _ _ _ _ void _ inductionHypothesis =>
    cases otherwise with
    | idle _ _ _ _ _ onward => exact inductionHypothesis other onward
    | back => exact absurd void (by decide)
    | entered _ _ _ _ name => rw [name.speaks] at void; cases void
    | followed _ _ _ _ _ _ name => rw [name.speaks] at void; cases void
  | back _ _ _ _ inductionHypothesis =>
    cases otherwise with
    | idle _ _ _ _ void => exact absurd void (by decide)
    | back _ _ _ onward => exact inductionHypothesis other onward
    | entered _ _ _ _ name => exact absurd rfl name.onward
    | followed _ _ _ _ _ _ name => exact absurd rfl name.onward
  | entered _ _ _ _ name direct _ inductionHypothesis =>
    cases otherwise with
    | idle _ _ _ _ void => rw [name.speaks] at void; cases void
    | back => exact absurd rfl name.onward
    | entered _ _ _ _ _ _ onward => exact inductionHypothesis other onward
    | followed _ _ _ _ _ _ _ linked => rw [direct] at linked; cases linked
  | followed _ _ _ _ _ _ name linked _ _ sameLanding sameGoal =>
    cases otherwise with
    | idle _ _ _ _ void => rw [name.speaks] at void; cases void
    | back => exact absurd rfl name.onward
    | entered _ _ _ _ _ direct => rw [direct] at linked; cases linked
    | followed _ _ _ landing _ _ _ sameLinked landed onward =>
      rw [linked] at sameLinked
      cases sameLinked
      cases sameLanding landing landed
      exact sameGoal other onward

end Ways

section Places

variable (files : FileSystem)

/-- One more component among those that are taken without regard to links. -/
theorem normalSteps_append (components : List String) (component : String) :
    normalSteps (components ++ [component]) =
      if Path.isVoid component then normalSteps components
      else if component = ".." then (normalSteps components).dropLast
      else normalSteps components ++ [component] := by
  simp only [normalSteps, List.foldl_append, List.foldl_cons, List.foldl_nil, normalStep]
  split
  · rfl
  · split <;> simp

/-- Names are all taken. -/
theorem normalSteps_names (steps : List String) (names : ∀ step ∈ steps, Path.IsName step) :
    normalSteps steps = steps := by
  induction steps using List.reverseRecOn with
  | nil => rfl
  | append_singleton steps last inductionHypothesis =>
    have name := names last (by simp)
    have earlier : ∀ step ∈ steps, Path.IsName step :=
      fun step member => names step (List.mem_append_left _ member)
    rw [normalSteps_append, if_neg (by simp [name.speaks]), if_neg name.onward,
      inductionHypothesis earlier]

/-- The place is the directory that these steps from the root lead to. -/
structure Stands (place : Place) (steps : List String) : Prop where
  /-- It is located there. -/
  located : files.locate? place = some steps
  /-- Every step that was taken to the place says something. -/
  spoken : ∀ step ∈ place.trail, Path.isVoid step = false

/-- The root is where no steps lead. -/
theorem stands_root : files.Stands Place.root [] := ⟨rfl, nofun⟩

/-- The place from which a relative path is resolved is the working directory. -/
theorem stands_here (directory : List String) (working : files.workingDirectory = some directory)
    (names : ∀ step ∈ directory, Path.IsName step) : files.Stands Place.here directory := by
  refine ⟨?_, nofun⟩
  simp [locate?, Place.here, working, normalSteps_names directory names]

/-- A step further from a place, and from the directory that it is. -/
theorem stands_down (place : Place) (steps : List String) (component : String)
    (stands : files.Stands place steps) (speaks : Path.isVoid component = false)
    (onward : component ≠ "..") : files.Stands (place.down component) (steps ++ [component]) := by
  obtain ⟨located, spoken⟩ := stands
  obtain ⟨anchored, trail⟩ := place
  constructor
  · cases anchored with
    | true =>
      cases located
      simp [locate?, Place.down]
    | false =>
      obtain ⟨directory, working, rfl⟩ := Option.map_eq_some_iff.mp located
      simp only [locate?, Place.down, working, Option.map_some, List.reverse_cons,
        Bool.false_eq_true, if_false, ← List.append_assoc, normalSteps_append, speaks,
        if_neg onward]
  · exact List.forall_mem_cons.mpr ⟨speaks, spoken⟩

/-- A step back from a place, and from the directory that it is. -/
theorem stands_up (place : Place) (steps : List String) (stands : files.Stands place steps) :
    files.Stands place.up steps.dropLast := by
  obtain ⟨located, spoken⟩ := stands
  obtain ⟨anchored, trail⟩ := place
  have backSpeaks : Path.isVoid ".." = false := by decide
  cases anchored with
  | true =>
    cases located
    refine ⟨by simp [locate?, Place.up], ?_⟩
    intro step member
    exact spoken step (List.mem_of_mem_tail member)
  | false =>
    obtain ⟨directory, working, rfl⟩ := Option.map_eq_some_iff.mp located
    cases trail with
    | nil =>
      refine ⟨?_, by simpa [Place.up] using backSpeaks⟩
      simp [locate?, Place.up, working, normalSteps_append, backSpeaks]
    | cons last trail =>
      rw [List.forall_mem_cons] at spoken
      by_cases back : last = ".."
      · subst back
        refine ⟨?_, by simpa [Place.up, backSpeaks] using spoken⟩
        simp [locate?, Place.up, working, normalSteps_append, backSpeaks, ← List.append_assoc]
      · refine ⟨?_, by simpa [Place.up, back] using spoken.2⟩
        simp [locate?, Place.up, back, working, normalSteps_append, spoken.1,
          ← List.append_assoc]

/-- The place from which the path in a link is resolved is the directory it is followed from. -/
theorem stands_startOf (place : Place) (steps : List String) (target : String)
    (stands : files.Stands place steps) :
    files.Stands (startOf place target) (linkStart steps target) := by
  rw [startOf, linkStart]
  split
  · exact stands
  · exact files.stands_root

/-- What is looked for below a place is looked for in the directory that it is. -/
theorem target?_down (place : Place) (steps : List String) (component : String)
    (stands : files.Stands place steps) (name : Path.IsName component) :
    files.target? (place.down component) = files.links.lookup (steps ++ [component]) := by
  have located := (files.stands_down place steps component stands name.speaks name.onward).located
  rw [target?, located, Option.bind_some]

end Places

section Walking

variable (files : FileSystem) (follow : Memory → Place → List String → Resolution)
  (memory : Memory) (place : Place) (component : String) (rest : List String)

/-- A component without slash says nothing, leads back, cannot name anything or is a name. -/
theorem component_cases (whole : '/' ∉ component.toList) :
    Path.isVoid component = true ∨ component = ".." ∨
      (Path.isVoid component = false ∧ component ≠ ".." ∧ '\x00' ∈ component.toList) ∨
      Path.IsName component := by
  cases speaks : Path.isVoid component with
  | true => exact .inl rfl
  | false =>
    by_cases back : component = ".."
    · exact .inr (.inl back)
    · by_cases unnameable : '\x00' ∈ component.toList
      · exact .inr (.inr (.inl ⟨rfl, back, unnameable⟩))
      · exact .inr (.inr (.inr ⟨speaks, back, whole, unnameable⟩))

/-- A component that says nothing is passed over. -/
theorem walk_idle (void : Path.isVoid component = true) :
    files.walk follow memory place (component :: rest) = files.walk follow memory place rest := by
  simp [walk, void]

/-- Two dots lead to the place above. -/
theorem walk_back :
    files.walk follow memory place (".." :: rest) = files.walk follow memory place.up rest := by
  have speaks : Path.isVoid ".." = false := by decide
  simp [walk, speaks]

/-- What cannot name anything ends the walk. -/
theorem walk_unnameable (speaks : Path.isVoid component = false) (onward : component ≠ "..")
    (unnameable : '\x00' ∈ component.toList) :
    files.walk follow memory place (component :: rest) = .unnameable := by
  simp [walk, speaks, onward, unnameable]

/-- What is no link is entered. -/
theorem walk_entered (name : Path.IsName component)
    (direct : files.target? (place.down component) = none) :
    files.walk follow memory place (component :: rest) =
      files.walk follow memory (place.down component) rest := by
  simp [walk, name.speaks, name.onward, name.nameable, direct]

/-- From a link that is remembered the walk goes on where the link led. -/
theorem walk_known (target : String) (known : Place) (name : Path.IsName component)
    (linked : files.target? (place.down component) = some target)
    (remembered : memory.lookup (place.down component) = some (some known)) :
    files.walk follow memory place (component :: rest) =
      files.walk follow memory known rest := by
  simp [walk, name.speaks, name.onward, name.nameable, linked, remembered]

/-- A link that is still being resolved ends the walk. -/
theorem walk_met (target : String) (name : Path.IsName component)
    (linked : files.target? (place.down component) = some target)
    (remembered : memory.lookup (place.down component) = some none) :
    files.walk follow memory place (component :: rest) =
      .unfinished ((place.down component).itinerary.append rest) := by
  simp [walk, name.speaks, name.onward, name.nameable, linked, remembered]

/-- A link that was not met before is resolved first. -/
theorem walk_new (target : String) (name : Path.IsName component)
    (linked : files.target? (place.down component) = some target)
    (unknown : memory.lookup (place.down component) = none) :
    files.walk follow memory place (component :: rest) =
      match follow ((place.down component, none) :: memory) (startOf place target)
        (Text.fields '/' target) with
      | .settled reached after =>
        files.walk follow ((place.down component, some reached) :: after) reached rest
      | .unfinished itinerary => .unfinished (itinerary.append rest)
      | .tooDeep => .tooDeep
      | .unnameable => .unnameable := by
  cases followed : follow ((place.down component, none) :: memory) (startOf place target)
      (Text.fields '/' target) <;>
    simp [walk, name.speaks, name.onward, name.nameable, linked, unknown, followed]

end Walking

section Settling

variable (files : FileSystem)

/-- What is remembered of links is where they lead. -/
def Truthful (memory : Memory) : Prop :=
  ∀ place steps component target known, files.Stands place steps → Path.IsName component →
    files.links.lookup (steps ++ [component]) = some target →
    memory.lookup (place.down component) = some (some known) →
    ∃ landing, files.Stands known landing ∧
      files.Leads (linkStart steps target) (Text.fields '/' target) landing

/-- A way of resolving components arrives where they lead, and keeps what is remembered true. -/
def Sound (follow : Memory → Place → List String → Resolution) : Prop :=
  ∀ memory place steps components goal later, files.Truthful memory → files.Stands place steps →
    (∀ component ∈ components, '/' ∉ component.toList) →
    follow memory place components = .settled goal later →
    files.Truthful later ∧
      ∃ landing, files.Stands goal landing ∧ files.Leads steps components landing

/-- Nothing is remembered at first. -/
theorem truthful_nil : files.Truthful [] := by
  intro place steps component target known _ _ _ remembered
  cases remembered

/-- That a link is being resolved says nothing about where it leads. -/
theorem truthful_begun (memory : Memory) (place : Place) (truthful : files.Truthful memory) :
    files.Truthful ((place, none) :: memory) := by
  intro other steps component target known stands name linked remembered
  rw [List.lookup_cons] at remembered
  split at remembered
  · cases remembered
  · exact truthful other steps component target known stands name linked remembered

/-- Where a link was found to lead may be remembered. -/
theorem truthful_settled (memory : Memory) (place known : Place) (steps landing : List String)
    (component target : String) (truthful : files.Truthful memory)
    (stands : files.Stands place steps)
    (linked : files.links.lookup (steps ++ [component]) = some target)
    (arrived : files.Stands known landing)
    (landed : files.Leads (linkStart steps target) (Text.fields '/' target) landing) :
    files.Truthful ((place.down component, some known) :: memory) := by
  intro other otherSteps otherComponent otherTarget otherKnown otherStands name otherLinked
    remembered
  rw [List.lookup_cons] at remembered
  split at remembered
  · -- The same place: its directory and its link are the same as well.
    rename_i same
    obtain ⟨sameAnchor, sameTrail⟩ := Place.mk.inj (beq_iff_eq.mp same)
    obtain ⟨rfl, sameTrail⟩ := List.cons.inj sameTrail
    have samePlace : other = place := by
      cases other
      cases place
      simp_all
    subst samePlace
    have sameSteps := stands.located
    rw [otherStands.located] at sameSteps
    cases sameSteps
    rw [linked] at otherLinked
    cases otherLinked
    cases remembered
    exact ⟨landing, arrived, landed⟩
  · exact truthful other otherSteps otherComponent otherTarget otherKnown otherStands name
      otherLinked remembered

/-- A walk that meets a link and settles goes on from where the link leads, whether that was
remembered or is found out now. -/
theorem walk_linked (follow : Memory → Place → List String → Resolution)
    (sound : files.Sound follow) (memory later : Memory) (place goal : Place)
    (steps rest : List String) (component target : String) (truthful : files.Truthful memory)
    (stands : files.Stands place steps) (name : Path.IsName component)
    (there : files.links.lookup (steps ++ [component]) = some target)
    (settled : files.walk follow memory place (component :: rest) = .settled goal later) :
    ∃ after reached landing, files.Truthful after ∧ files.Stands reached landing ∧
      files.Leads (linkStart steps target) (Text.fields '/' target) landing ∧
      files.walk follow after reached rest = .settled goal later := by
  have linked := (files.target?_down place steps component stands name).trans there
  cases remembered : memory.lookup (place.down component) with
  | some known =>
    cases known with
    | none =>
      rw [walk_met _ _ _ _ _ _ target name linked remembered] at settled
      cases settled
    | some known =>
      rw [walk_known _ _ _ _ _ _ target known name linked remembered] at settled
      obtain ⟨landing, arrived, landed⟩ :=
        truthful place steps component target known stands name there remembered
      exact ⟨memory, known, landing, truthful, arrived, landed, settled⟩
  | none =>
    rw [walk_new _ _ _ _ _ _ target name linked remembered] at settled
    cases followed : follow ((place.down component, none) :: memory)
        (startOf place target) (Text.fields '/' target) with
    | settled reached after =>
      rw [followed] at settled
      obtain ⟨afterTruthful, landing, arrived, landed⟩ :=
        sound _ _ _ _ reached after (files.truthful_begun memory _ truthful)
          (files.stands_startOf place steps target stands)
          (Text.separator_not_mem_fields '/' target) followed
      have kept := files.truthful_settled after place reached steps landing component target
        afterTruthful stands there arrived landed
      exact ⟨_, reached, landing, kept, arrived, landed, settled⟩
    | unfinished | tooDeep | unnameable =>
      rw [followed] at settled
      cases settled

/-- Walking along components is sound if links are followed soundly. The induction is on the
components; each of the ways that a component can be worked off is one of the ways to be led. -/
theorem sound_walk (follow : Memory → Place → List String → Resolution)
    (sound : files.Sound follow) : files.Sound (files.walk follow) := by
  intro memory place steps components
  induction components generalizing memory place steps with
  | nil =>
    intro goal later truthful stands _ settled
    cases settled
    exact ⟨truthful, steps, stands, .arrived steps⟩
  | cons component rest inductionHypothesis =>
    intro goal later truthful stands whole settled
    rw [List.forall_mem_cons] at whole
    rcases component_cases component whole.1 with void | rfl | ⟨speaks, onward, unnameable⟩ | name
    · rw [walk_idle _ _ _ _ _ _ void] at settled
      obtain ⟨laterTruthful, landing, arrived, leads⟩ :=
        inductionHypothesis memory place steps goal later truthful stands whole.2 settled
      exact ⟨laterTruthful, landing, arrived, .idle steps component rest landing void leads⟩
    · rw [walk_back] at settled
      obtain ⟨laterTruthful, landing, arrived, leads⟩ :=
        inductionHypothesis memory place.up steps.dropLast goal later truthful
          (files.stands_up place steps stands) whole.2 settled
      exact ⟨laterTruthful, landing, arrived, .back steps rest landing leads⟩
    · rw [walk_unnameable _ _ _ _ _ _ speaks onward unnameable] at settled
      cases settled
    · cases there : files.links.lookup (steps ++ [component]) with
      | none =>
        have direct := (files.target?_down place steps component stands name).trans there
        rw [walk_entered _ _ _ _ _ _ name direct] at settled
        obtain ⟨laterTruthful, landing, arrived, leads⟩ :=
          inductionHypothesis memory _ _ goal later truthful
            (files.stands_down place steps component stands name.speaks name.onward) whole.2
            settled
        exact ⟨laterTruthful, landing, arrived,
          .entered steps component rest landing name there leads⟩
      | some target =>
        obtain ⟨after, reached, landing, afterTruthful, landingStands, landed, onwards⟩ :=
          files.walk_linked follow sound memory later place goal steps rest component target
            truthful stands name there settled
        obtain ⟨laterTruthful, goalSteps, arrived, leads⟩ :=
          inductionHypothesis after reached landing goal later afterTruthful landingStands whole.2
            onwards
        exact ⟨laterTruthful, goalSteps, arrived,
          .followed steps component target landing rest goalSteps name there landed leads⟩

/-- Resolving components is sound, however deep links within links are followed. -/
theorem sound_resolve (depth : Nat) : files.Sound (files.resolve depth) := by
  induction depth with
  | zero =>
    intro memory place steps components goal later _ _ _ settled
    cases settled
  | succ depth inductionHypothesis => exact files.sound_walk _ inductionHypothesis

/-- Components that a way of resolving them can always work with: they are whole, and hold only
characters that names can hold. -/
def IsNameable (follow : Memory → Place → List String → Resolution) : Prop :=
  ∀ memory place components,
    (∀ component ∈ components, '/' ∉ component.toList ∧ '\x00' ∉ component.toList) →
    follow memory place components ≠ .unnameable

/-- The fields of a path can be worked with if its characters can. -/
theorem nameable_fields (text : String) (nameable : '\x00' ∉ text.toList) :
    ∀ field ∈ Text.fields '/' text, '/' ∉ field.toList ∧ '\x00' ∉ field.toList := by
  intro field member
  constructor
  · exact Text.separator_not_mem_fields '/' text field member
  · intro inside
    exact nameable (Text.mem_of_mem_fields '/' text field member _ inside)

/-- A link that is found is one of the links. -/
theorem link_of_target? (place : Place) (target : String)
    (linked : files.target? place = some target) : ∃ link ∈ files.links, link.2 = target := by
  obtain ⟨steps, _, found⟩ := Option.bind_eq_some_iff.mp linked
  obtain ⟨before, after, listed, _⟩ := List.lookup_eq_some_iff.mp found
  exact ⟨(steps, target), listed ▸ by simp, rfl⟩

/-- Where all names can be names, walking never ends at one that cannot. -/
theorem nameable_walk (follow : Memory → Place → List String → Resolution)
    (targets : ∀ link ∈ files.links, '\x00' ∉ link.2.toList)
    (nameable : IsNameable follow) : IsNameable (files.walk follow) := by
  intro memory place components
  induction components generalizing memory place with
  | nil =>
    intro _ ended
    cases ended
  | cons component rest inductionHypothesis =>
    intro proper
    rw [List.forall_mem_cons] at proper
    have onwards := fun memory place => inductionHypothesis memory place proper.2
    rcases component_cases component proper.1.1 with void | rfl | ⟨_, _, unnameable⟩ | name
    · rw [walk_idle _ _ _ _ _ _ void]
      exact onwards memory place
    · rw [walk_back]
      exact onwards memory place.up
    · exact absurd unnameable proper.1.2
    · cases linked : files.target? (place.down component) with
      | none =>
        rw [walk_entered _ _ _ _ _ _ name linked]
        exact onwards memory _
      | some target =>
        cases remembered : memory.lookup (place.down component) with
        | some known =>
          cases known with
          | none => simp [walk_met _ _ _ _ _ _ target name linked remembered]
          | some known =>
            rw [walk_known _ _ _ _ _ _ target known name linked remembered]
            exact onwards memory known
        | none =>
          rw [walk_new _ _ _ _ _ _ target name linked remembered]
          obtain ⟨link, member, rfl⟩ := files.link_of_target? _ target linked
          have followed := nameable ((place.down component, none) :: memory) (startOf place link.2)
            _ (nameable_fields link.2 (targets link member))
          split
          · exact onwards _ _
          · exact nofun
          · exact nofun
          · contradiction

/-- Where all names can be names, resolving never ends at one that cannot. -/
theorem nameable_resolve (targets : ∀ link ∈ files.links, '\x00' ∉ link.2.toList)
    (depth : Nat) : IsNameable (files.resolve depth) := by
  induction depth with
  | zero => exact nofun
  | succ depth inductionHypothesis =>
    exact files.nameable_walk _ targets inductionHypothesis

end Settling

end FileSystem

end BuildChronicle
