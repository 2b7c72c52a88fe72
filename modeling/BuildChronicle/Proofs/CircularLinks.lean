import BuildChronicle.Proofs.CanonicalPaths

/-!
# Circular links

An operating system follows a path link by link: the path in a link comes in front of what is left
to go, and after so many links it gives up. A link is circular if following the path in it comes to
the link again. Whatever stands behind it, no number of links suffices to follow it to an end, so
nothing leads anywhere that comes to such a link.
-/

namespace BuildChronicle

namespace FileSystem

section Passing

variable (files : FileSystem)

/-- Going along components as an operating system does, one passes from a directory with some
components to go to another one with others. As many links as are counted are followed: the path
in a link comes in front of the components that are left. -/
inductive Passes : Nat → List String → List String → List String → List String → Prop where
  /-- One may stay. -/
  | here (steps components : List String) : Passes 0 steps components steps components
  /-- Some components say nothing. -/
  | idle (links : Nat) (steps : List String) (component : String) (rest goal left : List String)
      (void : Path.isVoid component = true) (onward : Passes links steps rest goal left) :
      Passes links steps (component :: rest) goal left
  /-- One goes back to the directory above. -/
  | back (links : Nat) (steps rest goal left : List String)
      (onward : Passes links steps.dropLast rest goal left) :
      Passes links steps (".." :: rest) goal left
  /-- One enters what is no link. -/
  | entered (links : Nat) (steps : List String) (component : String) (rest goal left : List String)
      (name : Path.IsName component) (direct : files.links.lookup (steps ++ [component]) = none)
      (onward : Passes links (steps ++ [component]) rest goal left) :
      Passes links steps (component :: rest) goal left
  /-- One follows a link. -/
  | followed (links : Nat) (steps : List String) (component target : String)
      (rest goal left : List String) (name : Path.IsName component)
      (linked : files.links.lookup (steps ++ [component]) = some target)
      (onward : Passes links (linkStart steps target) (Text.fields '/' target ++ rest) goal left) :
      Passes (links + 1) steps (component :: rest) goal left

variable (links more : Nat) (steps components goal left : List String)

/-- Ways can be put together. -/
theorem passes_trans (last rest : List String)
    (first : files.Passes links steps components goal left)
    (second : files.Passes more goal left last rest) :
    files.Passes (links + more) steps components last rest := by
  induction first with
  | here => rwa [Nat.zero_add]
  | idle links steps component _ _ _ void _ inductionHypothesis =>
    exact .idle _ steps component _ _ _ void (inductionHypothesis second)
  | back links steps _ _ _ _ inductionHypothesis =>
    exact .back _ steps _ _ _ (inductionHypothesis second)
  | entered links steps component _ _ _ name direct _ inductionHypothesis =>
    exact .entered _ steps component _ _ _ name direct (inductionHypothesis second)
  | followed links steps component target _ _ _ name linked _ inductionHypothesis =>
    rw [Nat.add_right_comm]
    exact .followed _ steps component target _ _ _ name linked (inductionHypothesis second)

/-- Where components lead one comes by passing along them, whatever is to go behind them. -/
theorem passes_of_leads (rest : List String) (leads : files.Leads steps components goal) :
    ∃ links, files.Passes links steps (components ++ rest) goal rest := by
  induction leads generalizing rest with
  | arrived steps => exact ⟨0, .here steps rest⟩
  | idle steps component _ _ void _ inductionHypothesis =>
    obtain ⟨links, onward⟩ := inductionHypothesis rest
    exact ⟨links, .idle links steps component _ _ rest void onward⟩
  | back steps _ _ _ inductionHypothesis =>
    obtain ⟨links, onward⟩ := inductionHypothesis rest
    exact ⟨links, .back links steps _ _ rest onward⟩
  | entered steps component _ _ name direct _ inductionHypothesis =>
    obtain ⟨links, onward⟩ := inductionHypothesis rest
    exact ⟨links, .entered links steps component _ _ rest name direct onward⟩
  | followed steps component target landing later _ name linked _ _ landed onwards =>
    obtain ⟨first, landed⟩ := landed (later ++ rest)
    obtain ⟨second, onward⟩ := onwards rest
    exact ⟨first + second + 1, .followed _ steps component target _ _ rest name linked
      (files.passes_trans first second _ _ landing (later ++ rest) _ rest landed onward)⟩

/-- A plain way is passed along without following a link. -/
theorem passes_plain (rest : List String) (plain : files.IsPlain (steps ++ components)) :
    files.Passes 0 steps (components ++ rest) (steps ++ components) rest := by
  induction components generalizing steps with
  | nil => simpa using Passes.here steps rest
  | cons component components inductionHypothesis =>
    have further : steps ++ component :: components = (steps ++ [component]) ++ components := by
      simp
    have name := plain.names component (by simp)
    have direct : files.links.lookup (steps ++ [component]) = none := by
      apply plain.direct _ _ (by simp)
      rw [further]
      exact List.prefix_append _ components
    rw [further] at plain ⊢
    exact .entered 0 steps component _ _ rest name direct (inductionHypothesis _ plain)

end Passing

section Reaching

variable (files : FileSystem) (links : Nat) (steps : List String) (component : String)
  (rest : List String)

/-- Following within so many links goes along components like any other way of following. -/
theorem exists_reaches : ∃ follow, files.reachesWithin links = files.reaches follow := by
  cases links with
  | zero => exact ⟨_, rfl⟩
  | succ links => exact ⟨_, rfl⟩

/-- A component that says nothing is passed over. -/
theorem reachesWithin_idle (void : Path.isVoid component = true) :
    files.reachesWithin links steps.reverse (component :: rest) =
      files.reachesWithin links steps.reverse rest := by
  obtain ⟨follow, same⟩ := files.exists_reaches links
  rw [same, reaches, if_pos void]

/-- Two dots lead to the directory above. -/
theorem reachesWithin_back :
    files.reachesWithin links steps.reverse (".." :: rest) =
      files.reachesWithin links steps.dropLast.reverse rest := by
  have speaks : Path.isVoid ".." = false := by decide
  obtain ⟨follow, same⟩ := files.exists_reaches links
  rw [same, reaches, if_neg (by simp [speaks]), if_pos rfl, List.tail_reverse]

/-- What is no link is entered. -/
theorem reachesWithin_entered (name : Path.IsName component)
    (direct : files.links.lookup (steps ++ [component]) = none) :
    files.reachesWithin links steps.reverse (component :: rest) =
      files.reachesWithin links (steps ++ [component]).reverse rest := by
  obtain ⟨follow, same⟩ := files.exists_reaches links
  rw [same, reaches, if_neg (by simp [name.speaks]), if_neg name.onward, ← List.reverse_concat,
    List.reverse_reverse, direct]

/-- No link is followed if none may be. -/
theorem reachesWithin_barred (target : String) (name : Path.IsName component)
    (linked : files.links.lookup (steps ++ [component]) = some target) :
    files.reachesWithin 0 steps.reverse (component :: rest) = false := by
  rw [reachesWithin, reaches, if_neg (by simp [name.speaks]), if_neg name.onward,
    ← List.reverse_concat, List.reverse_reverse, linked]

/-- A link is followed if one more may be. -/
theorem reachesWithin_followed (target : String) (name : Path.IsName component)
    (linked : files.links.lookup (steps ++ [component]) = some target) :
    files.reachesWithin (links + 1) steps.reverse (component :: rest) =
      files.reachesWithin links (linkStart steps target).reverse
        (Text.fields '/' target ++ rest) := by
  have start : (linkStart steps target).reverse =
      if Origin.of target.toList = .relative then steps.reverse else [] := by
    rw [linkStart]
    split <;> rfl
  rw [reachesWithin, reaches, if_neg (by simp [name.speaks]), if_neg name.onward,
    ← List.reverse_concat, List.reverse_reverse, linked, start]

variable (components goal left : List String)

/-- From anywhere on the way the end is reached exactly if it is reached from its beginning with
the links that were followed in addition. -/
theorem reachesWithin_passed (more : Nat)
    (passes : files.Passes links steps components goal left) :
    files.reachesWithin (links + more) steps.reverse components =
      files.reachesWithin more goal.reverse left := by
  induction passes with
  | here => rw [Nat.zero_add]
  | idle links steps component _ _ _ void _ inductionHypothesis =>
    rw [reachesWithin_idle _ _ _ _ _ void, inductionHypothesis]
  | back links steps _ _ _ _ inductionHypothesis =>
    rw [reachesWithin_back, inductionHypothesis]
  | entered links steps component _ _ _ name direct _ inductionHypothesis =>
    rw [reachesWithin_entered _ _ _ _ _ name direct, inductionHypothesis]
  | followed links steps component target _ _ _ name linked _ inductionHypothesis =>
    rw [Nat.add_right_comm, reachesWithin_followed _ _ _ _ _ target name linked,
      inductionHypothesis]

/-- Fewer links than are followed on the way do not suffice. -/
theorem reachesWithin_fewer (few : Nat) (fewer : few < links)
    (passes : files.Passes links steps components goal left) :
    files.reachesWithin few steps.reverse components = false := by
  induction passes generalizing few with
  | here => cases fewer
  | idle links steps component _ _ _ void _ inductionHypothesis =>
    rw [reachesWithin_idle _ _ _ _ _ void, inductionHypothesis few fewer]
  | back links steps _ _ _ _ inductionHypothesis =>
    rw [reachesWithin_back, inductionHypothesis few fewer]
  | entered links steps component _ _ _ name direct _ inductionHypothesis =>
    rw [reachesWithin_entered _ _ _ _ _ name direct, inductionHypothesis few fewer]
  | followed links steps component target _ _ _ name linked _ inductionHypothesis =>
    cases few with
    | zero => exact files.reachesWithin_barred steps component _ target name linked
    | succ few =>
      rw [reachesWithin_followed _ _ _ _ _ target name linked,
        inductionHypothesis few (Nat.lt_of_succ_lt_succ fewer)]

/-- Where components lead is reached with some number of links. -/
theorem exists_reachesWithin (leads : files.Leads steps components goal) :
    ∃ links, files.reachesWithin links steps.reverse components = true := by
  obtain ⟨links, passes⟩ := files.passes_of_leads steps components goal [] leads
  refine ⟨links, ?_⟩
  rw [List.append_nil] at passes
  exact files.reachesWithin_passed links steps components goal [] 0 passes

end Reaching

section Circling

variable (files : FileSystem)

/-- Going along components one comes to where a name is to be entered in a directory, whatever is
to go behind these components. -/
def Comes (steps components directory : List String) (name : String) : Prop :=
  ∀ more, ∃ links left, files.Passes links steps (components ++ more) directory (name :: left)

/-- A circular link: following the path in it, one comes to the link again. -/
structure IsCircular (directory : List String) (name target : String) : Prop where
  /-- The way to the directory of the link is plain. -/
  plain : files.IsPlain directory
  /-- The link has a name. -/
  isName : Path.IsName name
  /-- It is a link. -/
  linked : files.links.lookup (directory ++ [name]) = some target
  /-- One comes to it again. -/
  returns : files.Comes (linkStart directory target) (Text.fields '/' target) directory name

variable (directory : List String) (name target : String)

/-- No number of links suffices to follow a circular link to an end. The induction is on this
number: whoever comes to the link again has followed it, so that less links are left. -/
theorem reachesWithin_circular (links : Nat) (rest : List String)
    (circular : files.IsCircular directory name target) :
    files.reachesWithin links directory.reverse (name :: rest) = false := by
  induction links using Nat.strong_induction_on generalizing rest with
  | _ links inductionHypothesis =>
    cases links with
    | zero =>
      exact files.reachesWithin_barred directory name rest target circular.isName circular.linked
    | succ links =>
      rw [reachesWithin_followed _ _ _ _ _ target circular.isName circular.linked]
      obtain ⟨round, left, passes⟩ := circular.returns rest
      rcases Nat.lt_or_ge links round with fewer | enough
      · exact files.reachesWithin_fewer _ _ _ _ _ links fewer passes
      · obtain ⟨more, rfl⟩ := Nat.exists_eq_add_of_le enough
        rw [files.reachesWithin_passed _ _ _ _ _ more passes]
        exact inductionHypothesis more (by omega) left

/-- No number of links suffices to follow a way on which a circular link stands. -/
theorem reachesWithin_through (links : Nat) (rest : List String)
    (circular : files.IsCircular directory name target) :
    files.reachesWithin links [] (directory ++ name :: rest) = false := by
  have passes := files.passes_plain [] directory (name :: rest) circular.plain
  have reached := files.reachesWithin_passed 0 [] _ _ _ links passes
  rw [Nat.zero_add] at reached
  exact reached.trans (files.reachesWithin_circular directory name target links rest circular)

/-- Components along which one comes to a circular link lead nowhere. -/
theorem not_leads_of_comes (steps components goal : List String)
    (circular : files.IsCircular directory name target)
    (comes : files.Comes steps components directory name) :
    ¬ files.Leads steps components goal := by
  intro leads
  obtain ⟨enough, reached⟩ := files.exists_reachesWithin steps components goal leads
  obtain ⟨links, left, passes⟩ := comes []
  rw [List.append_nil] at passes
  rcases Nat.lt_or_ge enough links with fewer | most
  · rw [files.reachesWithin_fewer _ _ _ _ _ enough fewer passes] at reached
    cases reached
  · obtain ⟨more, rfl⟩ := Nat.exists_eq_add_of_le most
    rw [files.reachesWithin_passed _ _ _ _ _ more passes,
      files.reachesWithin_circular directory name target more left circular] at reached
    cases reached

end Circling

end FileSystem

end BuildChronicle
