import BuildChronicle.Proofs.DeploymentTarget
import BuildChronicle.Proofs.DescriptorNames

/-!
# Presented artifacts

An artifact is presented by an element with its identifier, and with its file in canonical form
below it if it has a file. This fails if a coordinate is missing that the identifier takes, and else
if the file has no canonical path.

Several artifacts are presented one after the other. Either each of them has its element, or the
first that cannot be presented ends it.
-/

namespace BuildChronicle

namespace Attempt

variable {α β : Type}

/-- A step that fails after one that succeeded is a failure of both. -/
theorem bind_failed (attempt : Attempt Fault α) (next : α → Attempt Fault β) (value : α)
    (fault : Fault) (done : attempt.outcome = .ok value)
    (failed : (next value).outcome = .error fault) :
    (attempt >>= next).outcome = .error fault := by
  simp [bind, andThen, done, failed]

/-- A first step that fails is a failure of both. -/
theorem bind_failed_first (attempt : Attempt Fault α) (next : α → Attempt Fault β)
    (fault : Fault) (failed : attempt.outcome = .error fault) :
    (attempt >>= next).outcome = .error fault := by
  simp [bind, andThen, failed]

/-- What is attempted for a value that may be missing succeeds if it does for the value. -/
theorem forOption_done (act : α → Attempt Fault β) (value : Option α)
    (done : ∀ a ∈ value, ∃ result, (act a).outcome = .ok result) :
    ∃ result, (forOption act value).outcome = .ok result := by
  cases value with
  | none => exact ⟨none, rfl⟩
  | some a =>
    obtain ⟨result, acted⟩ := done a rfl
    exact ⟨some result, (forOption_eq_ok _ _ _).mpr (.some acted)⟩

/-- What is attempted for every item fails as it does for the first item for which it fails. -/
theorem forEach_failed (act : α → Attempt Fault β) (before after : List α) (item : α)
    (fault : Fault) (done : ∀ earlier ∈ before, ∃ result, (act earlier).outcome = .ok result)
    (failed : (act item).outcome = .error fault) :
    (forEach act (before ++ item :: after)).outcome = .error fault := by
  induction before with
  | nil => exact bind_failed_first _ _ fault failed
  | cons first rest inductionHypothesis =>
    rw [List.forall_mem_cons] at done
    obtain ⟨⟨result, firstDone⟩, restDone⟩ := done
    exact bind_failed _ _ result fault firstDone
      (bind_failed_first _ _ fault (inductionHypothesis restDone))

end Attempt

/-- The children that present a file: none without a file, and else one that holds its canonical
path. -/
inductive FileSystem.Holds (files : FileSystem) : Option Path → List Node → Prop where
  /-- There is no file. -/
  | nothing : Holds files none []
  /-- There is a file, and it has a canonical path. -/
  | file (path : Path) (canonical : String) (settled : files.canonical path.text = .ok canonical) :
      Holds files (some path) [Node.text "file" (some canonical)]

namespace Artifact

variable (files : FileSystem) (artifact : Artifact)

/-- An artifact that can be presented. -/
structure IsPresentable : Prop where
  /-- It has an identifier. -/
  identified : ∃ id, artifact.id = .ok id
  /-- Its file has a canonical path, if it has a file. -/
  settled : ∀ path ∈ artifact.file, ∃ canonical, files.canonical path.text = .ok canonical

/-- How presenting an artifact fails. -/
inductive Fails : Fault → Prop where
  /-- A coordinate is missing at this position of the identifier. -/
  | unidentified (position : Nat) (missing : artifact.id = .error position) :
      Fails (.missingPart position)
  /-- The artifact has an identifier, and a file without canonical path. -/
  | unsettled (id : String) (path : Path) (error : PathError) (identified : artifact.id = .ok id)
      (stored : artifact.file = some path) (trouble : files.canonical path.text = .error error) :
      Fails (.path error)

/-- The element presents the artifact under a name. -/
structure PresentedBy (name : String) (element : Node) : Prop where
  /-- It has this name. -/
  named : element.name = name
  /-- It tells the identifier of the artifact. -/
  identified : ∃ id, artifact.id = .ok id ∧ element.attributes.get? "id" = some id
  /-- It holds the file of the artifact, if there is one, and nothing else. -/
  file : files.Holds artifact.file element.children

/-- An artifact that cannot be presented fails in some way. -/
theorem exists_fails (unpresentable : ¬ artifact.IsPresentable files) :
    ∃ fault, artifact.Fails files fault := by
  cases told : artifact.id with
  | error position => exact ⟨_, .unidentified position told⟩
  | ok id =>
    by_contra sound
    refine unpresentable ⟨⟨id, told⟩, ?_⟩
    intro path stored
    cases settled : files.canonical path.text with
    | ok canonical => exact ⟨canonical, rfl⟩
    | error error => exact absurd ⟨_, .unsettled id path error told stored settled⟩ sound

/-- What can be presented does not fail. -/
theorem not_fails (fault : Fault) (presentable : artifact.IsPresentable files) :
    ¬ artifact.Fails files fault := by
  rintro (⟨position, missing⟩ | ⟨id, path, error, told, stored, trouble⟩)
  · obtain ⟨id, told⟩ := presentable.identified
    rw [missing] at told
    cases told
  · obtain ⟨canonical, settled⟩ := presentable.settled path stored
    rw [trouble] at settled
    cases settled

/-- If some of several artifacts cannot be presented, there is a first one. -/
theorem exists_first_failing (artifacts : List Artifact)
    (unpresentable : ∃ artifact ∈ artifacts, ¬ artifact.IsPresentable files) :
    ∃ before artifact after fault, artifacts = before ++ artifact :: after ∧
      (∀ earlier ∈ before, earlier.IsPresentable files) ∧ artifact.Fails files fault := by
  induction artifacts with
  | nil => simp at unpresentable
  | cons first rest inductionHypothesis =>
    by_cases presentable : first.IsPresentable files
    · have later : ∃ artifact ∈ rest, ¬ artifact.IsPresentable files := by
        simpa [presentable] using unpresentable
      obtain ⟨before, artifact, after, fault, rfl, earlier, fails⟩ := inductionHypothesis later
      exact ⟨first :: before, artifact, after, fault, rfl,
        List.forall_mem_cons.mpr ⟨presentable, earlier⟩, fails⟩
    · obtain ⟨fault, fails⟩ := first.exists_fails files presentable
      exact ⟨[], first, rest, fault, rfl, List.forall_mem_nil _, fails⟩

end Artifact

namespace Element

variable (files : FileSystem) (types : Option TypeRegistry) (name : String)

/-- The element of a path holds its canonical form. -/
theorem path_eq_ok (path : Path) (element : Node) :
    (Element.path files name (some path)).outcome = .ok element ↔
      ∃ canonical, files.canonical path.text = .ok canonical ∧
        element = Node.text name (some canonical) := by
  rw [Element.path, Option.map_some, file, Attempt.bind_eq_ok]
  constructor
  · rintro ⟨value, attempted, built⟩
    cases built
    cases (Attempt.forOption_eq_ok _ _ _).mp attempted with
    | some settled => exact ⟨_, (canonical_eq_ok files _ path.text).mp settled, rfl⟩
  · rintro ⟨canonical, settled, rfl⟩
    refine ⟨some canonical, (Attempt.forOption_eq_ok _ _ _).mpr (.some ?_), rfl⟩
    exact (canonical_eq_ok files canonical path.text).mpr settled

/-- The elements of the file that an artifact may have hold this file. -/
theorem artifactFile_eq_ok (given : Artifact) (children : List Node) :
    (artifactFile files (some given)).outcome = .ok children ↔
      files.Holds given.file children := by
  rw [artifactFile, Attempt.bind_eq_ok, Option.bind_some]
  cases given.file with
  | none =>
    constructor
    · rintro ⟨element, filed, built⟩
      cases filed
      cases built
      exact .nothing
    · rintro ⟨⟩
      exact ⟨none, rfl, rfl⟩
  | some path =>
    constructor
    · rintro ⟨element, filed, built⟩
      cases built
      cases (Attempt.forOption_eq_ok _ _ _).mp filed with
      | some found =>
        obtain ⟨canonical, settled, rfl⟩ := (path_eq_ok files "file" path _).mp found
        exact .file path canonical settled
    · rintro ⟨⟩
      rename_i canonical settled
      refine ⟨some _, (Attempt.forOption_eq_ok _ _ _).mpr (.some ?_), rfl⟩
      exact (path_eq_ok files "file" path _).mpr ⟨canonical, settled, rfl⟩

/-- The element of a file without canonical path cannot be had. -/
theorem artifactFile_failed (given : Artifact) (path : Path) (error : PathError)
    (stored : given.file = some path) (trouble : files.canonical path.text = .error error) :
    (artifactFile files (some given)).outcome = .error (.path error) := by
  have unsettled : (canonical files path.text).outcome = .error (.path error) := by
    simp [canonical, Attempt.ofExcept, trouble]
  rw [artifactFile, Option.bind_some, stored]
  iterate 4 apply Attempt.bind_failed_first
  exact unsettled

/-- Present an artifact, where it is left open how its identity and its file make up its
element. -/
def presenting (complete : Node → List Node → Node) (given : Artifact) : Attempt Fault Node := do
  let element ← artifact types name (some given)
  let file ← artifactFile files (some given)
  return complete element file

/-- An artifact with its file is presented. -/
theorem artifactWithFile_eq (given : Artifact) :
    artifactWithFile files types name (some given) =
      presenting files types name Node.addAll given := rfl

/-- A dependency is presented by its artifact, with what is said about the dependency. -/
theorem dependency_eq (given : Dependency) :
    dependency files types name given =
      presenting files types name
        (fun element file => ((element.set? "scope" given.scope).set
          "optional" (truth given.isOptional)).addAll file) given.artifact := rfl

variable (complete : Node → List Node → Node) (given : Artifact)

/-- The element of an artifact with an identifier. -/
theorem artifact_eq_ok (element : Node) :
    (artifact types name (some given)).outcome = .ok element ↔
      ∃ id, given.id = .ok id ∧ element = identified types name given id := by
  rw [artifact, Attempt.bind_eq_ok]
  cases told : given.id <;> simp [artifactId, Attempt.ofExcept, told, eq_comm]

/-- Presenting an artifact succeeds exactly with its identity and its file, made up. -/
theorem presenting_eq_ok (element : Node) :
    (presenting files types name complete given).outcome = .ok element ↔
      ∃ id children, given.id = .ok id ∧ files.Holds given.file children ∧
        element = complete (identified types name given id) children := by
  rw [presenting, Attempt.bind_eq_ok]
  constructor
  · rintro ⟨bare, told, built⟩
    obtain ⟨children, filed, built⟩ := (Attempt.bind_eq_ok _ _ _).mp built
    obtain ⟨id, isGiven, rfl⟩ := (artifact_eq_ok types name given bare).mp told
    cases built
    exact ⟨id, children, isGiven, (artifactFile_eq_ok files given children).mp filed, rfl⟩
  · rintro ⟨id, children, isGiven, holds, rfl⟩
    exact ⟨_, (artifact_eq_ok types name given _).mpr ⟨id, isGiven, rfl⟩,
      (Attempt.bind_eq_ok _ _ _).mpr
        ⟨children, (artifactFile_eq_ok files given children).mpr holds, rfl⟩⟩

/-- Every artifact that can be presented is. -/
theorem presenting_done (presentable : given.IsPresentable files) :
    ∃ element, (presenting files types name complete given).outcome = .ok element := by
  obtain ⟨id, told⟩ := presentable.identified
  have holds : ∃ children, files.Holds given.file children := by
    cases stored : given.file with
    | none => exact ⟨[], .nothing⟩
    | some path =>
      obtain ⟨canonical, settled⟩ := presentable.settled path stored
      exact ⟨_, .file path canonical settled⟩
  obtain ⟨children, holds⟩ := holds
  exact ⟨_, (presenting_eq_ok files types name complete given _).mpr
    ⟨id, children, told, holds, rfl⟩⟩

/-- Presenting an artifact fails as can be told from it. -/
theorem presenting_failed (fault : Fault) (fails : given.Fails files fault) :
    (presenting files types name complete given).outcome = .error fault := by
  cases fails with
  | unidentified position missing =>
    apply Attempt.bind_failed_first
    apply Attempt.bind_failed_first
    simp [artifactId, Attempt.ofExcept, missing]
  | unsettled id path error told stored trouble =>
    apply Attempt.bind_failed _ _ (identified types name given id)
    · exact (artifact_eq_ok types name given _).mpr ⟨id, told, rfl⟩
    · apply Attempt.bind_failed_first
      exact artifactFile_failed files given path error stored trouble

/-- The element of an artifact with its file presents the artifact. -/
theorem presentedBy_artifactWithFile (element : Node)
    (built : (artifactWithFile files types name (some given)).outcome = .ok element) :
    given.PresentedBy files name element := by
  rw [artifactWithFile_eq, presenting_eq_ok] at built
  obtain ⟨id, children, told, holds, rfl⟩ := built
  refine ⟨by simp [identified], ⟨id, told, ?_⟩, by simpa [identified] using holds⟩
  simp [identified, Node.get?_set?]

/-- The element of a dependency presents its artifact. -/
theorem presentedBy_dependency (dependency : Dependency) (element : Node)
    (built : (Element.dependency files types name dependency).outcome = .ok element) :
    dependency.artifact.PresentedBy files name element := by
  rw [dependency_eq, presenting_eq_ok] at built
  obtain ⟨id, children, told, holds, rfl⟩ := built
  refine ⟨by simp [identified], ⟨id, told, ?_⟩, by simpa [identified] using holds⟩
  simp [identified, Node.get?_set?]

end Element

end BuildChronicle
