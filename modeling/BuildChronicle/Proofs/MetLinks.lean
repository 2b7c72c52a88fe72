import BuildChronicle.Proofs.CircularLinks

/-!
# Links that are met again

If resolving a path meets a link that is still being resolved, that link is circular: it is met
within the path that it holds. Resolution stops there, and what no level has worked off yet is
appended, level by level. Components `..` then take back the step before them, even if that step is
the circular link, and components that begin with a slash replace everything in front of them.

Which link is met, and what every level has left to do, is told without the memory of the
resolution.
-/

namespace BuildChronicle

section Continuing

variable (trail components : List String)

/-- A step that is left was there before or is one of the components. -/
theorem mem_foldl_normalStep (component : String)
    (member : component ∈ components.foldl normalStep trail) :
    component ∈ trail ∨ component ∈ components := by
  induction components generalizing trail with
  | nil => exact .inl member
  | cons first components inductionHypothesis =>
    rcases inductionHypothesis _ member with earlier | later
    · rw [normalStep] at earlier
      split at earlier
      · exact .inl earlier
      · split at earlier
        · exact .inl (List.mem_of_mem_tail earlier)
        · rcases List.mem_cons.mp earlier with rfl | earlier
          · exact .inr List.mem_cons_self
          · exact .inl earlier
    · exact .inr (List.mem_cons_of_mem first later)

/-- Components that do not lead back leave all earlier steps alone. -/
theorem suffix_foldl_normalStep (onward : ".." ∉ components) :
    trail <:+ components.foldl normalStep trail := by
  induction components generalizing trail with
  | nil => exact List.suffix_rfl
  | cons first components inductionHypothesis =>
    rw [List.mem_cons, not_or] at onward
    have step : trail <:+ normalStep trail first := by
      rw [normalStep]
      split
      · exact List.suffix_rfl
      · rw [if_neg fun back => onward.1 back.symm]
        exact List.suffix_cons first trail
    exact step.trans (inductionHypothesis _ onward.2)

/-- What further components make of a way: `..` takes back the step before it, and components that
begin with a slash start again. -/
def Path.continued (way : Path) (rest : List String) : Path :=
  match Origin.ofFields rest with
  | .relative => ⟨way.origin, (rest.foldl normalStep way.components.reverse).reverse⟩
  | origin => ⟨origin, normalSteps rest⟩

variable (way : Path) (rest : List String) (rests : List (List String))

/-- Every step of a continued way comes from the way or from what was appended. -/
theorem Path.mem_continued (component : String)
    (member : component ∈ (way.continued rest).components) :
    component ∈ way.components ∨ component ∈ rest := by
  rw [continued] at member
  split at member
  · simpa using mem_foldl_normalStep _ rest component (List.mem_reverse.mp member)
  · rw [normalSteps, List.mem_reverse] at member
    exact .inr ((mem_foldl_normalStep [] rest component member).resolve_left List.not_mem_nil)

/-- However often a way is continued, its steps come from somewhere. -/
theorem Path.mem_foldl_continued (component : String)
    (member : component ∈ (rests.foldl continued way).components) :
    component ∈ way.components ∨ ∃ rest ∈ rests, component ∈ rest := by
  induction rests generalizing way with
  | nil => exact .inl member
  | cons rest rests inductionHypothesis =>
    rcases inductionHypothesis _ member with earlier | ⟨other, listed, later⟩
    · rcases way.mem_continued rest component earlier with given | appended
      · exact .inl given
      · exact .inr ⟨rest, List.mem_cons_self, appended⟩
    · exact .inr ⟨other, List.mem_cons_of_mem rest listed, later⟩

/-- A way stays in front if nothing that is appended leads back or begins with a slash. -/
theorem Path.prefix_foldl_continued
    (onward : ∀ rest ∈ rests, ".." ∉ rest ∧ Origin.ofFields rest = .relative) :
    way.components <+: (rests.foldl continued way).components := by
  induction rests generalizing way with
  | nil => exact List.prefix_rfl
  | cons rest rests inductionHypothesis =>
    rw [List.forall_mem_cons] at onward
    obtain ⟨⟨forwards, relative⟩, later⟩ := onward
    have step : way.components <+: (way.continued rest).components := by
      rw [continued, relative, ← List.reverse_suffix, List.reverse_reverse]
      exact suffix_foldl_normalStep _ rest forwards
    exact step.trans (inductionHypothesis _ later)

end Continuing

namespace FileSystem

section Meeting

variable (files : FileSystem)

/-- Going along components from a directory, one meets a link that is being followed already. All
that is left to do is told level by level, the innermost level first. -/
inductive Meets : List (List String) → List String → List String → List String →
    List (List String) → Prop where
  /-- Some components say nothing. -/
  | idle (under : List (List String)) (steps : List String) (component : String)
      (rest loop : List String) (rests : List (List String))
      (void : Path.isVoid component = true) (onward : Meets under steps rest loop rests) :
      Meets under steps (component :: rest) loop rests
  /-- One goes back to the directory above. -/
  | back (under : List (List String)) (steps rest loop : List String) (rests : List (List String))
      (onward : Meets under steps.dropLast rest loop rests) :
      Meets under steps (".." :: rest) loop rests
  /-- One enters what is no link. -/
  | entered (under : List (List String)) (steps : List String) (component : String)
      (rest loop : List String) (rests : List (List String)) (name : Path.IsName component)
      (direct : files.links.lookup (steps ++ [component]) = none)
      (onward : Meets under (steps ++ [component]) rest loop rests) :
      Meets under steps (component :: rest) loop rests
  /-- One follows a link to an end, and goes on from there. -/
  | passed (under : List (List String)) (steps : List String) (component target : String)
      (landing rest loop : List String) (rests : List (List String))
      (name : Path.IsName component)
      (linked : files.links.lookup (steps ++ [component]) = some target)
      (landed : files.Leads (linkStart steps target) (Text.fields '/' target) landing)
      (onward : Meets under landing rest loop rests) :
      Meets under steps (component :: rest) loop rests
  /-- One meets a link that is being followed already. -/
  | again (under : List (List String)) (steps : List String) (component target : String)
      (rest : List String) (name : Path.IsName component)
      (linked : files.links.lookup (steps ++ [component]) = some target)
      (pending : steps ++ [component] ∈ under) :
      Meets under steps (component :: rest) (steps ++ [component]) [rest]
  /-- One meets it while following another link. -/
  | within (under : List (List String)) (steps : List String) (component target : String)
      (rest loop : List String) (rests : List (List String)) (name : Path.IsName component)
      (linked : files.links.lookup (steps ++ [component]) = some target)
      (inner : Meets ((steps ++ [component]) :: under) (linkStart steps target)
        (Text.fields '/' target) loop rests) :
      Meets under steps (component :: rest) loop (rests ++ [rest])

variable (under : List (List String)) (steps components loop : List String)
  (rests : List (List String))

/-- Passing along the components one comes to the link that is met. -/
theorem comes_of_meets (meets : files.Meets under steps components loop rests) :
    ∃ directory name, loop = directory ++ [name] ∧
      files.Comes steps components directory name := by
  induction meets with
  | idle under steps component rest loop rests void _ inductionHypothesis =>
    obtain ⟨directory, name, same, passes⟩ := inductionHypothesis
    refine ⟨directory, name, same, fun more => ?_⟩
    obtain ⟨links, left, passes⟩ := passes more
    exact ⟨links, left, .idle links steps component _ _ _ void passes⟩
  | back under steps rest loop rests _ inductionHypothesis =>
    obtain ⟨directory, name, same, passes⟩ := inductionHypothesis
    refine ⟨directory, name, same, fun more => ?_⟩
    obtain ⟨links, left, passes⟩ := passes more
    exact ⟨links, left, .back links steps _ _ _ passes⟩
  | entered under steps component rest loop rests isName direct _ inductionHypothesis =>
    obtain ⟨directory, name, same, passes⟩ := inductionHypothesis
    refine ⟨directory, name, same, fun more => ?_⟩
    obtain ⟨links, left, passes⟩ := passes more
    exact ⟨links, left, .entered links steps component _ _ _ isName direct passes⟩
  | passed under steps component target landing rest loop rests isName linked landed _
      inductionHypothesis =>
    obtain ⟨directory, name, same, passes⟩ := inductionHypothesis
    refine ⟨directory, name, same, fun more => ?_⟩
    obtain ⟨first, landed⟩ := files.passes_of_leads _ _ landing (rest ++ more) landed
    obtain ⟨second, left, passes⟩ := passes more
    exact ⟨first + second + 1, left, .followed _ steps component target _ _ _ isName linked
      (files.passes_trans first second _ _ _ _ _ _ landed passes)⟩
  | again under steps component target rest isName linked pending =>
    exact ⟨steps, component, rfl, fun more => ⟨0, rest ++ more, .here steps _⟩⟩
  | within under steps component target rest loop rests isName linked _ inductionHypothesis =>
    obtain ⟨directory, name, same, passes⟩ := inductionHypothesis
    refine ⟨directory, name, same, fun more => ?_⟩
    obtain ⟨links, left, passes⟩ := passes (rest ++ more)
    exact ⟨links + 1, left, .followed links steps component target _ _ _ isName linked passes⟩

/-- The link that is met is one of those that were being followed from the beginning, or it is
circular: it was followed on the way. -/
theorem circular_of_meets (meets : files.Meets under steps components loop rests)
    (plain : files.IsPlain steps) :
    loop ∈ under ∨ ∃ directory name target,
      loop = directory ++ [name] ∧ files.IsCircular directory name target := by
  induction meets with
  | idle _ _ _ _ _ _ _ _ inductionHypothesis => exact inductionHypothesis plain
  | back _ steps _ _ _ _ inductionHypothesis =>
    exact inductionHypothesis (files.isPlain_of_prefix _ _ plain (List.dropLast_prefix steps))
  | entered _ steps component _ _ _ isName direct _ inductionHypothesis =>
    exact inductionHypothesis (files.isPlain_entered steps component plain isName direct)
  | passed _ steps _ target _ _ _ _ _ _ landed _ inductionHypothesis =>
    exact inductionHypothesis
      (files.isPlain_of_leads _ _ _ landed (files.isPlain_linkStart steps target plain))
  | again _ _ _ _ _ _ _ pending => exact .inl pending
  | within under steps component target rest loop rests isName linked inner inductionHypothesis =>
    rcases inductionHypothesis (files.isPlain_linkStart steps target plain) with member | circular
    · rcases List.mem_cons.mp member with rfl | earlier
      · obtain ⟨directory, name, same, passes⟩ := files.comes_of_meets _ _ _ _ _ inner
        obtain ⟨rfl, rfl⟩ := List.append_singleton_inj.mp same
        exact .inr ⟨steps, component, target, rfl, plain, isName, linked, passes⟩
      · exact .inl earlier
    · exact .inr circular

end Meeting

section Finding

variable (files : FileSystem)

/-- Going on with an itinerary continues the way that it amounts to. -/
theorem absolute_append (itinerary : Itinerary) (rest : List String) (way : Path)
    (amounts : files.absolute itinerary = some way) :
    files.absolute (itinerary.append rest) = some (way.continued rest) := by
  have continuing (before : List String) : normalSteps (before ++ rest) =
      (rest.foldl normalStep (normalSteps before).reverse).reverse := by
    simp [normalSteps]
  cases begun : Origin.ofFields rest with
  | relative =>
    rw [absolute] at amounts
    rw [Itinerary.append, begun, Path.continued, begun, absolute]
    split at amounts
    · rename_i relative
      obtain ⟨directory, working, rfl⟩ := Option.map_eq_some_iff.mp amounts
      simp [relative, working, ← List.append_assoc, continuing]
    · rename_i anchored
      cases amounts
      simp [anchored, continuing]
  | root | doubleRoot => simp [Itinerary.append, Path.continued, begun, absolute]

/-- Only links among these are being resolved. -/
def Pending (memory : Memory) (under : List (List String)) : Prop :=
  ∀ place steps, files.Stands place steps → memory.lookup place = some none → steps ∈ under

/-- A way of resolving components leaves no link behind that is still being resolved, apart from
those that were being resolved before. -/
def Completes (follow : Memory → Place → List String → Resolution) : Prop :=
  ∀ memory place components goal later, (∀ component ∈ components, '/' ∉ component.toList) →
    follow memory place components = .settled goal later →
    ∀ other, later.lookup other = some none → memory.lookup other = some none

/-- Where a resolution stops unfinished, a link is met that is being followed, and the itinerary is
the way to this link, continued with what was left to do. -/
def Finds (follow : Memory → Place → List String → Resolution) : Prop :=
  ∀ memory place steps components itinerary under, files.Truthful memory →
    files.Pending memory under → files.Stands place steps → files.IsPlain steps →
    (∀ component ∈ components, '/' ∉ component.toList) →
    follow memory place components = .unfinished itinerary →
    ∃ loop rests, files.Meets under steps components loop rests ∧
      files.absolute itinerary = some (rests.foldl Path.continued ⟨.root, loop⟩)

/-- A link that begins to be resolved is one more of them. -/
theorem pending_begun (memory : Memory) (under : List (List String)) (place : Place)
    (steps : List String) (pending : files.Pending memory under)
    (stands : files.Stands place steps) :
    files.Pending ((place, none) :: memory) (steps :: under) := by
  intro other otherSteps otherStands remembered
  rw [List.lookup_cons] at remembered
  split at remembered
  · rename_i same
    obtain rfl := eq_of_beq same
    have located := stands.located
    rw [otherStands.located] at located
    cases located
    exact List.mem_cons_self
  · exact List.mem_cons_of_mem _ (pending other otherSteps otherStands remembered)

/-- A link that was resolved is no longer one of them. -/
theorem lookup_resolved (memory after : Memory) (place reached : Place)
    (completed : ∀ other, after.lookup other = some none →
      ((place, none) :: memory : Memory).lookup other = some none) :
    ∀ other, ((place, some reached) :: after : Memory).lookup other = some none →
      memory.lookup other = some none := by
  intro other remembered
  rw [List.lookup_cons] at remembered
  split at remembered
  · cases remembered
  · rename_i different
    have earlier := completed other remembered
    rwa [List.lookup_cons, different] at earlier

/-- Walking along components completes what it begins if links are followed so. -/
theorem completes_walk (follow : Memory → Place → List String → Resolution)
    (completes : Completes follow) : Completes (files.walk follow) := by
  intro memory place components
  induction components generalizing memory place with
  | nil =>
    intro goal later _ settled other remembered
    cases settled
    exact remembered
  | cons component rest inductionHypothesis =>
    intro goal later whole settled
    rw [List.forall_mem_cons] at whole
    have onwards := fun memory place =>
      inductionHypothesis memory place goal later whole.2
    rcases component_cases component whole.1 with void | rfl | ⟨speaks, onward, unnameable⟩ | name
    · rw [walk_idle _ _ _ _ _ _ void] at settled
      exact onwards memory place settled
    · rw [walk_back] at settled
      exact onwards memory place.up settled
    · rw [walk_unnameable _ _ _ _ _ _ speaks onward unnameable] at settled
      cases settled
    · cases linked : files.target? (place.down component) with
      | none =>
        rw [walk_entered _ _ _ _ _ _ name linked] at settled
        exact onwards memory _ settled
      | some target =>
        cases remembered : memory.lookup (place.down component) with
        | some known =>
          cases known with
          | none =>
            rw [walk_met _ _ _ _ _ _ target name linked remembered] at settled
            cases settled
          | some known =>
            rw [walk_known _ _ _ _ _ _ target known name linked remembered] at settled
            exact onwards memory known settled
        | none =>
          rw [walk_new _ _ _ _ _ _ target name linked remembered] at settled
          split at settled
          · rename_i reached after followed
            have completed := completes _ _ _ reached after
              (Text.separator_not_mem_fields '/' target) followed
            intro other later
            exact lookup_resolved memory after _ reached completed other
              (onwards _ reached settled other later)
          all_goals cases settled

/-- Resolving components completes what it begins, however deep links within links are followed. -/
theorem completes_resolve (depth : Nat) : Completes (files.resolve depth) := by
  induction depth with
  | zero =>
    intro memory place components goal later _ settled
    cases settled
  | succ depth inductionHypothesis => exact files.completes_walk _ inductionHypothesis

/-- A walk that meets a link and stops unfinished stops at this link or on the way that it is
followed, or else goes on from where the link leads and stops later. -/
theorem walk_stopped (follow : Memory → Place → List String → Resolution)
    (sound : files.Sound follow) (completes : Completes follow) (finds : files.Finds follow)
    (memory : Memory) (place : Place) (steps rest : List String) (component target : String)
    (itinerary : Itinerary) (under : List (List String)) (truthful : files.Truthful memory)
    (pending : files.Pending memory under) (stands : files.Stands place steps)
    (plain : files.IsPlain steps) (name : Path.IsName component)
    (there : files.links.lookup (steps ++ [component]) = some target)
    (stopped : files.walk follow memory place (component :: rest) = .unfinished itinerary) :
    (∃ loop rests, files.Meets under steps (component :: rest) loop rests ∧
      files.absolute itinerary = some (rests.foldl Path.continued ⟨.root, loop⟩)) ∨
    ∃ after reached landing, files.Truthful after ∧ files.Pending after under ∧
      files.Stands reached landing ∧
      files.Leads (linkStart steps target) (Text.fields '/' target) landing ∧
      files.walk follow after reached rest = .unfinished itinerary := by
  have linked := (files.target?_down place steps component stands name).trans there
  have below := files.stands_down place steps component stands name.speaks name.onward
  cases remembered : memory.lookup (place.down component) with
  | some known =>
    cases known with
    | none =>
      rw [walk_met _ _ _ _ _ _ target name linked remembered] at stopped
      cases stopped
      have names : ∀ step ∈ steps ++ [component], Path.IsName step := by
        intro step member
        rcases List.mem_append.mp member with earlier | last
        · exact plain.names step earlier
        · exact List.mem_singleton.mp last ▸ name
      have amounts := files.absolute_itinerary (place.down component) _ below names
      exact .inl ⟨steps ++ [component], [rest],
        .again under steps component target rest name there (pending _ _ below remembered),
        files.absolute_append _ rest _ amounts⟩
    | some known =>
      rw [walk_known _ _ _ _ _ _ target known name linked remembered] at stopped
      obtain ⟨landing, arrived, landed⟩ :=
        truthful place steps component target known stands name there remembered
      exact .inr ⟨memory, known, landing, truthful, pending, arrived, landed, stopped⟩
  | none =>
    rw [walk_new _ _ _ _ _ _ target name linked remembered] at stopped
    have begun := files.truthful_begun memory (place.down component) truthful
    have starts := files.stands_startOf place steps target stands
    have whole := Text.separator_not_mem_fields '/' target
    cases followed : follow ((place.down component, none) :: memory)
        (startOf place target) (Text.fields '/' target) with
    | settled reached after =>
      rw [followed] at stopped
      obtain ⟨afterTruthful, landing, arrived, landed⟩ :=
        sound _ _ _ _ reached after begun starts whole followed
      have kept := files.truthful_settled after place reached steps landing component target
        afterTruthful stands there arrived landed
      have completed := completes _ _ _ reached after whole followed
      refine .inr ⟨_, reached, landing, kept, ?_, arrived, landed, stopped⟩
      intro other otherSteps otherStands met
      exact pending other otherSteps otherStands
        (lookup_resolved memory after _ reached completed other met)
    | unfinished inner =>
      rw [followed] at stopped
      cases stopped
      obtain ⟨loop, rests, meets, amounts⟩ := finds _ _ _ _ inner _ begun
        (files.pending_begun memory under _ _ pending below) starts
        (files.isPlain_linkStart steps target plain) whole followed
      refine .inl ⟨loop, rests ++ [rest],
        .within under steps component target rest loop rests name there meets, ?_⟩
      rw [List.foldl_append]
      exact files.absolute_append inner rest _ amounts
    | tooDeep | unnameable =>
      rw [followed] at stopped
      cases stopped

/-- Walking along components finds the link that it stops at if links are followed so. The
induction is on the components, and each way of working one off is one of going on until a link is
met. -/
theorem finds_walk (follow : Memory → Place → List String → Resolution)
    (sound : files.Sound follow) (completes : Completes follow) (finds : files.Finds follow) :
    files.Finds (files.walk follow) := by
  intro memory place steps components
  induction components generalizing memory place steps with
  | nil =>
    intro itinerary under _ _ _ _ _ stopped
    cases stopped
  | cons component rest inductionHypothesis =>
    intro itinerary under truthful pending stands plain whole stopped
    rw [List.forall_mem_cons] at whole
    rcases component_cases component whole.1 with void | rfl | ⟨speaks, onward, unnameable⟩ | name
    · rw [walk_idle _ _ _ _ _ _ void] at stopped
      obtain ⟨loop, rests, meets, amounts⟩ := inductionHypothesis memory place steps itinerary
        under truthful pending stands plain whole.2 stopped
      exact ⟨loop, rests, .idle under steps component rest loop rests void meets, amounts⟩
    · rw [walk_back] at stopped
      obtain ⟨loop, rests, meets, amounts⟩ := inductionHypothesis memory place.up steps.dropLast
        itinerary under truthful pending (files.stands_up place steps stands)
        (files.isPlain_of_prefix _ _ plain (List.dropLast_prefix steps)) whole.2 stopped
      exact ⟨loop, rests, .back under steps rest loop rests meets, amounts⟩
    · rw [walk_unnameable _ _ _ _ _ _ speaks onward unnameable] at stopped
      cases stopped
    · cases there : files.links.lookup (steps ++ [component]) with
      | none =>
        have direct := (files.target?_down place steps component stands name).trans there
        rw [walk_entered _ _ _ _ _ _ name direct] at stopped
        obtain ⟨loop, rests, meets, amounts⟩ := inductionHypothesis memory _ _ itinerary under
          truthful pending (files.stands_down place steps component stands name.speaks name.onward)
          (files.isPlain_entered steps component plain name there) whole.2 stopped
        exact ⟨loop, rests, .entered under steps component rest loop rests name there meets,
          amounts⟩
      | some target =>
        rcases files.walk_stopped follow sound completes finds memory place steps rest component
            target itinerary under truthful pending stands plain name there stopped with
          found | ⟨after, reached, landing, kept, still, arrived, landed, onwards⟩
        · exact found
        · have landingPlain := files.isPlain_of_leads _ _ landing landed
            (files.isPlain_linkStart steps target plain)
          obtain ⟨loop, rests, meets, amounts⟩ := inductionHypothesis after reached landing
            itinerary under kept still arrived landingPlain whole.2 onwards
          exact ⟨loop, rests, .passed under steps component target landing rest loop rests name
            there landed meets, amounts⟩

/-- Resolving components finds the link that it stops at, however deep links within links are
followed. -/
theorem finds_resolve (depth : Nat) : files.Finds (files.resolve depth) := by
  induction depth with
  | zero =>
    intro memory place steps components itinerary under _ _ _ _ _ stopped
    cases stopped
  | succ depth inductionHypothesis =>
    exact files.finds_walk _ (files.sound_resolve depth) (files.completes_resolve depth)
      inductionHypothesis

end Finding

end FileSystem

end BuildChronicle
