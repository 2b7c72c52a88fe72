import BuildChronicle.Proofs.MetLinks

/-!
# How loops are reported

A path whose resolution meets a link that is still being resolved leads nowhere. Whether this is
reported is settled by another way: the way to the link, continued with what every level had left
to do. It cannot be followed if the circular link is still on it, and then the loop is reported.
Otherwise a path may be given for a path that leads nowhere.
-/

namespace BuildChronicle

namespace FileSystem

section Reporting

variable (files : FileSystem)

/-- Resolving the path meets a link that is still being resolved. -/
def Circles (path : Path) : Prop :=
  ∃ itinerary, files.resolution path = .unfinished itinerary

/-- Whether resolving a path meets such a link can be decided. -/
instance decidableCircles (path : Path) : Decidable (files.Circles path) :=
  match resolved : files.resolution path with
  | .unfinished itinerary => isTrue ⟨itinerary, resolved⟩
  | .settled _ _ => isFalse fun ⟨_, stopped⟩ => nomatch resolved.symm.trans stopped
  | .tooDeep => isFalse fun ⟨_, stopped⟩ => nomatch resolved.symm.trans stopped
  | .unnameable => isFalse fun ⟨_, stopped⟩ => nomatch resolved.symm.trans stopped

/-- Without a working directory no link is met from a place that is relative to it. -/
theorem walk_adrift (follow : Memory → Place → List String → Resolution) (memory : Memory)
    (place : Place) (components : List String) (itinerary : Itinerary)
    (adrift : files.workingDirectory = none) (relative : place.anchored = false)
    (whole : ∀ component ∈ components, '/' ∉ component.toList) :
    files.walk follow memory place components ≠ .unfinished itinerary := by
  induction components generalizing place with
  | nil => exact nofun
  | cons component rest inductionHypothesis =>
    rw [List.forall_mem_cons] at whole
    rcases component_cases component whole.1 with void | rfl | ⟨speaks, onward, unnameable⟩ | name
    · rw [walk_idle _ _ _ _ _ _ void]
      exact inductionHypothesis place relative whole.2
    · have above : place.up.anchored = false := by
        rw [Place.up.eq_def]
        split <;> grind
      rw [walk_back]
      exact inductionHypothesis place.up above whole.2
    · rw [walk_unnameable _ _ _ _ _ _ speaks onward unnameable]
      exact nofun
    · have direct : files.target? (place.down component) = none := by
        simp [target?, locate?, Place.down, relative, adrift]
      rw [walk_entered _ _ _ _ _ _ name direct]
      exact inductionHypothesis (place.down component) relative whole.2

/-- A path whose resolution meets a link that is still being resolved starts somewhere. -/
theorem start_of_unfinished (given : String) (itinerary : Itinerary)
    (stopped : files.resolution (Path.parse given) = .unfinished itinerary) :
    ∃ start, files.start? (Path.parse given) = some start := by
  rw [start?]
  split
  · rename_i relative
    cases working : files.workingDirectory with
    | some directory => exact ⟨directory, rfl⟩
    | none =>
      rw [resolution, if_pos relative] at stopped
      exact absurd stopped (files.walk_adrift _ _ _ _ itinerary working rfl
        (Path.whole_parse given))
  · exact ⟨[], rfl⟩

/-- If neither the components nor the paths in links hold a character that names cannot hold, nor
does what was left to do when a link was met. -/
theorem nameable_of_meets (under : List (List String)) (steps components loop : List String)
    (rests : List (List String)) (targets : ∀ link ∈ files.links, '\x00' ∉ link.2.toList)
    (nameable : ∀ component ∈ components, '\x00' ∉ component.toList)
    (meets : files.Meets under steps components loop rests) :
    ∀ rest ∈ rests, ∀ component ∈ rest, '\x00' ∉ component.toList := by
  induction meets with
  | idle _ _ _ _ _ _ _ _ inductionHypothesis
  | back _ _ _ _ _ _ inductionHypothesis
  | entered _ _ _ _ _ _ _ _ _ inductionHypothesis
  | passed _ _ _ _ _ _ _ _ _ _ _ _ inductionHypothesis =>
    exact inductionHypothesis (List.forall_mem_cons.mp nameable).2
  | again => exact List.forall_mem_singleton.mpr (List.forall_mem_cons.mp nameable).2
  | within _ steps component target _ _ _ _ linked _ inductionHypothesis =>
    obtain ⟨before, after, listed, _⟩ := List.lookup_eq_some_iff.mp linked
    have proper := targets (steps ++ [component], target) (by rw [listed]; simp)
    have inner := inductionHypothesis fun component member =>
      (nameable_fields target proper component member).2
    rw [List.forall_mem_append, List.forall_mem_singleton]
    exact ⟨inner, (List.forall_mem_cons.mp nameable).2⟩

/-- A way whose steps can be names is given as it is if it can be followed, and otherwise a loop is
reported. -/
theorem finish_followed (given : String) (itinerary : Itinerary) (way : Path)
    (amounts : files.absolute itinerary = some way)
    (nameable : ∀ component ∈ way.components, '\x00' ∉ component.toList) :
    files.finish given itinerary =
      if files.reachesWithin mostLinks [] way.components then .ok way.text
      else .error (.notCanonical given (.loop way.text)) := by
  have proper : way.components.any (·.toList.contains '\x00') = false := by
    simpa using nameable
  rw [finish, amounts]
  simp only [proper, Bool.false_eq_true, if_false]

/-- If resolving a path meets a link that is still being resolved, this link is circular and the
path leads nowhere. What is followed to find this out is another way: the way to the link,
continued with what each level had left to do. If it comes to an end, this way is given, and
otherwise the loop is reported. The loop is reported whenever the link is still on the way, in
particular if nothing that was left to do leads back or begins with a slash.

Proof: the link is met within the path that it holds, so that it is circular, and no number of
links suffices to follow a way on which it stands. -/
theorem canonical_circling (given : String)
    (directories : ∀ directory ∈ files.workingDirectory, files.IsPlain directory)
    (targets : ∀ link ∈ files.links, '\x00' ∉ link.2.toList)
    (nameable : '\x00' ∉ given.toList) (circles : files.Circles (Path.parse given)) :
    ∃ start directory name target rests,
      files.start? (Path.parse given) = some start ∧
      files.Meets [] start (Path.parse given).components (directory ++ [name]) rests ∧
      files.IsCircular directory name target ∧
      (∀ goal, ¬ files.Leads start (Path.parse given).components goal) ∧
      let way := rests.foldl Path.continued ⟨.root, directory ++ [name]⟩
      let loop := PathError.notCanonical given (.loop way.text)
      files.canonical given =
          (if files.reachesWithin mostLinks [] way.components then .ok way.text
          else .error loop) ∧
        (directory ++ [name] <+: way.components → files.canonical given = .error loop) ∧
        ((∀ rest ∈ rests, ".." ∉ rest ∧ Origin.ofFields rest = .relative) →
          files.canonical given = .error loop) := by
  obtain ⟨itinerary, stopped⟩ := circles
  obtain ⟨start, starts⟩ := files.start_of_unfinished given itinerary stopped
  obtain ⟨begins, startPlain⟩ := files.stands_start _ start directories starts
  have nothing : files.Pending [] [] := nofun
  obtain ⟨link, rests, meets, amounts⟩ := files.finds_resolve greatestDepth [] _ start _ itinerary
    [] files.truthful_nil nothing begins startPlain (Path.whole_parse given) stopped
  obtain ⟨directory, name, target, rfl, circular⟩ :=
    (files.circular_of_meets [] start _ link rests meets startPlain).resolve_left List.not_mem_nil
  obtain ⟨_, _, same, comes⟩ := files.comes_of_meets [] start _ _ rests meets
  obtain ⟨rfl, rfl⟩ := List.append_singleton_inj.mp same
  refine ⟨start, directory, name, target, rests, starts, meets, circular,
    fun goal => files.not_leads_of_comes directory name target start _ goal circular comes, ?_⟩
  intro way loop
  have proper : ∀ component ∈ way.components, '\x00' ∉ component.toList := by
    intro component member
    rcases Path.mem_foldl_continued _ rests component member with given | ⟨rest, listed, left⟩
    · rcases List.mem_append.mp given with earlier | last
      · exact (circular.plain.names component earlier).nameable
      · exact List.mem_singleton.mp last ▸ circular.isName.nameable
    · refine files.nameable_of_meets [] start _ _ rests targets ?_ meets rest listed component left
      intro component member
      exact (nameable_fields given nameable component (List.mem_filter.mp member).1).2
  have followed : files.canonical given =
      if files.reachesWithin mostLinks [] way.components then .ok way.text else .error loop := by
    rw [canonical, stopped]
    exact files.finish_followed given itinerary way amounts proper
  have reported : directory ++ [name] <+: way.components →
      files.canonical given = .error loop := by
    rintro ⟨rest, onWay⟩
    rw [List.append_assoc, List.singleton_append] at onWay
    have barred := files.reachesWithin_through directory name target mostLinks rest circular
    rw [followed, ← onWay, barred, if_neg Bool.false_ne_true]
  refine ⟨followed, reported, fun onward => reported ?_⟩
  exact Path.prefix_foldl_continued ⟨.root, directory ++ [name]⟩ rests onward

end Reporting

/-- Two links in a directory that lead into each other. -/
def ring : FileSystem where
  links := [(["project", "entry"], "ring/a"), (["project", "ring"], "entry/b")]

/-- A path through a ring of links leads nowhere, and the loop is reported with all that was left to
do. -/
theorem canonical_ring :
    let given := "/project/entry/src"
    (∀ directory ∈ ring.workingDirectory, ring.IsPlain directory) ∧
      (∀ link ∈ ring.links, '\x00' ∉ link.2.toList) ∧ '\x00' ∉ given.toList ∧
      ring.Circles (Path.parse given) ∧
      (∀ goal, ¬ ring.Leads [] ["project", "entry", "src"] goal) ∧
      ring.canonical given = .error (.notCanonical given (.loop "/project/entry/b/a/src")) := by
  intro given
  have directories : ∀ directory ∈ ring.workingDirectory, ring.IsPlain directory := nofun
  have targets : ∀ link ∈ ring.links, '\x00' ∉ link.2.toList := by decide
  have nameable : '\x00' ∉ given.toList := by decide
  have circles : ring.Circles (Path.parse given) := by decide +kernel
  have expected : ring.canonical given =
      .error (.notCanonical given (.loop "/project/entry/b/a/src")) := by
    decide +kernel
  have components : (Path.parse given).components = ["project", "entry", "src"] := by decide
  have begins : ring.start? (Path.parse given) = some [] := by decide
  obtain ⟨start, directory, name, target, rests, starts, _, _, nowhere, _⟩ :=
    ring.canonical_circling given directories targets nameable circles
  rw [begins] at starts
  cases starts
  rw [components] at nowhere
  exact ⟨directories, targets, nameable, circles, nowhere, expected⟩

/-- A directory with a link to itself. -/
def selfLink : FileSystem where
  links := [(["project", "loop"], "loop")]

/-- The link to itself is circular. -/
theorem isCircular_selfLink : selfLink.IsCircular ["project"] "loop" "loop" where
  plain := by decide
  isName := by decide
  linked := by decide
  returns := fun more => ⟨0, more, .here ["project"] _⟩

/-- A path back from a link to itself leads nowhere, and yet it is given a canonical path, because
the step back is taken before the link is followed. -/
theorem canonical_undone :
    let given := "/project/loop/../pom.xml"
    '\x00' ∉ given.toList ∧ selfLink.Circles (Path.parse given) ∧
      (∀ goal, ¬ selfLink.Leads [] ["project", "loop", "..", "pom.xml"] goal) ∧
      selfLink.canonical given = .ok "/project/pom.xml" := by
  have comes : selfLink.Comes [] ["project", "loop", "..", "pom.xml"] ["project"] "loop" := by
    intro more
    exact ⟨0, ".." :: "pom.xml" :: more,
      .entered 0 [] "project" _ _ _ (by decide) (by decide) (.here ["project"] _)⟩
  have nowhere := fun goal => selfLink.not_leads_of_comes ["project"] "loop" "loop" [] _ goal
    isCircular_selfLink comes
  exact ⟨by decide, by decide +kernel, nowhere, by decide +kernel⟩

end FileSystem

end BuildChronicle
