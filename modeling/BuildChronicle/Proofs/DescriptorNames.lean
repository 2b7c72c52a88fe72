import BuildChronicle.Element
import BuildChronicle.Proofs.CanonicalPaths
import BuildChronicle.Proofs.Completeness

/-!
# Names of descriptors

The canonical path of a descriptor has a directory and a name, parted by its last slash. A name
that a descriptor of the project is known to have is reported as the usual one, in the same
directory; any other path is reported as it is. Exactly in the second case the name in the report
is not the usual one, and then it is warned about, once. Reporting what was reported changes
nothing.
-/

namespace BuildChronicle

namespace Descriptor

/-- A path consists of a directory and a name, parted by the last slash of the path. -/
structure Parted (path directory name : String) : Prop where
  /-- A slash parts them. -/
  written : path = directory ++ "/" ++ name
  /-- It is the last one. -/
  whole : '/' ∉ name.toList

/-- A name that a descriptor of the project is known to have. -/
def IsKnown (project : Project) (name : String) : Prop :=
  name = usualName ∨ name ∈ aliases ∨ flattenedName? project = some name

/-- Whether a name is known can be decided. -/
instance decidableIsKnown (project : Project) (name : String) :
    Decidable (IsKnown project name) :=
  inferInstanceAs (Decidable (_ ∨ _ ∨ _))

/-- The name under which a descriptor is reported. -/
def reportedName (project : Project) (name : String) : String :=
  if IsKnown project name then usualName else name

/-- A path with a slash has a last one. -/
theorem exists_parted (path : String) (slash : '/' ∈ path.toList) :
    ∃ directory name, Parted path directory name := by
  obtain ⟨after, before, backwards, absent⟩ :=
    List.eq_append_cons_of_mem (List.mem_reverse.mpr slash)
  have forwards : path.toList = before.reverse ++ '/' :: after.reverse := by
    rw [← List.reverse_reverse path.toList, backwards]
    simp
  refine ⟨String.ofList before.reverse, String.ofList after.reverse, ?_, by simpa using absent⟩
  rw [← String.toList_inj, forwards]
  simp

/-- A path is cut at its last slash. -/
theorem splitPath_parted (path directory name : String) (parted : Parted path directory name) :
    splitPath path = (directory, name) := by
  have backwards : path.toList.reverse =
      name.toList.reverse ++ '/' :: directory.toList.reverse := by
    rw [parted.written]
    simp
  have other : ∀ c ∈ name.toList.reverse, (c != '/') = true := by
    intro c member
    rw [bne_iff_ne]
    rintro rfl
    exact parted.whole (List.mem_reverse.mp member)
  simp only [splitPath, backwards, List.span_eq_takeWhile_dropWhile]
  rw [List.takeWhile_append_of_pos other, List.dropWhile_append_of_pos other]
  simp

/-- The usual name holds no slash. -/
theorem usualName_whole : '/' ∉ usualName.toList := by decide

section Normalizing

variable (project : Project) (path directory name : String)

/-- Only the name of a path is normalized. It was expected if it is known. -/
theorem normalize_parted (parted : Parted path directory name) :
    normalize project path =
      ⟨directory ++ "/" ++ reportedName project name, decide (IsKnown project name)⟩ := by
  rw [normalize, splitPath_parted path directory name parted, reportedName]
  by_cases usual : name = usualName
  · have known : IsKnown project name := .inl usual
    have kept : path = directory ++ "/" ++ usualName := by rw [parted.written, usual]
    simp [usual, kept, IsKnown]
  · by_cases generated : name ∈ aliases ∨ flattenedName? project = some name
    · have known : IsKnown project name := .inr generated
      simp [usual, known, generated]
    · have unknown : ¬ IsKnown project name := not_or.mpr ⟨usual, generated⟩
      simp [usual, unknown, generated, parted.written]

/-- A name that is not known is not the usual one, so the report tells which names are known. -/
theorem reportedName_usual_iff : reportedName project name = usualName ↔ IsKnown project name := by
  rw [reportedName]
  split
  · rename_i known
    exact iff_of_true rfl known
  · rename_i unknown
    exact iff_of_false (fun usual => unknown (.inl usual)) unknown

/-- A reported name holds no slash either. -/
theorem reportedName_whole (whole : '/' ∉ name.toList) :
    '/' ∉ (reportedName project name).toList := by
  rw [reportedName]
  split
  · exact usualName_whole
  · exact whole

/-- A name that was reported is known exactly if the name it was reported for is. -/
theorem isKnown_reportedName :
    IsKnown project (reportedName project name) ↔ IsKnown project name := by
  rw [reportedName]
  split
  · rename_i known
    exact iff_of_true (.inl rfl) known
  · exact Iff.rfl

/-- The reported name of a reported name is the same. -/
theorem reportedName_again :
    reportedName project (reportedName project name) = reportedName project name := by
  by_cases known : IsKnown project name
  · have usual : reportedName project name = usualName :=
      (reportedName_usual_iff project name).mpr known
    rw [usual]
    exact (reportedName_usual_iff project usualName).mpr (.inl rfl)
  · have same : reportedName project name = name := if_neg known
    rw [same, same]

/-- Normalizing a normalized path changes nothing, and it is expected exactly if the path that
was normalized is. -/
theorem normalize_again (whole : '/' ∉ name.toList) :
    normalize project (directory ++ "/" ++ reportedName project name) =
      ⟨directory ++ "/" ++ reportedName project name, decide (IsKnown project name)⟩ := by
  have parted : Parted (directory ++ "/" ++ reportedName project name) directory
      (reportedName project name) := ⟨rfl, reportedName_whole project name whole⟩
  rw [normalize_parted project _ directory _ parted, reportedName_again]
  simp only [isKnown_reportedName]

end Normalizing

end Descriptor

namespace Attempt

/-- A step that succeeds and the next one write what both of them write. -/
theorem records_bind {ε α β : Type} (attempt : Attempt ε α) (next : α → Attempt ε β) (result : α)
    (succeeded : attempt.outcome = .ok result) :
    (attempt >>= next).records = attempt.records ++ (next result).records := by
  simp [bind, andThen, succeeded]

/-- What is attempted for a value writes what the attempt writes. -/
theorem records_forOption {α β : Type} (act : α → Attempt Fault β) (value : α) :
    (forOption act (some value)).records = (act value).records := by
  cases outcome : (act value).outcome <;> simp [forOption, bind, andThen, outcome, pure, succeed]

end Attempt

namespace Element

open Descriptor

variable (files : FileSystem) (logger name : String) (project : Project) (file : Path)
variable (path directory found : String) (element : Node)

/-- The canonical form of a path is the one that the file system gives. -/
theorem canonical_eq_ok (given : String) :
    (Element.canonical files given).outcome = .ok path ↔ files.canonical given = .ok path := by
  cases outcome : files.canonical given <;>
    simp [Element.canonical, Attempt.ofExcept, outcome]

/-- What is reported for a descriptor with a canonical path, and what is written about it. -/
theorem descriptor_settled (settled : files.canonical file.text = .ok path)
    (parted : Parted path directory found) :
    descriptor files logger project file =
      ⟨if IsKnown project found then [] else [Record.of .warning logger (unexpectedName file)],
        .ok (directory ++ "/" ++ reportedName project found)⟩ := by
  have normalized := normalize_parted project path directory found parted
  by_cases known : IsKnown project found
  · simp [descriptor, Element.canonical, settled, normalized, known, Attempt.ofExcept, bind,
      Attempt.andThen]
  · simp [descriptor, Element.canonical, settled, normalized, known, Attempt.ofExcept, bind,
      Attempt.andThen, Attempt.note]

/-- The element of a project names the descriptor as it is reported, and only the descriptor is
written about. -/
theorem project_file (existing : project.file = some file)
    (succeeded : (Element.project files logger name (some project)).outcome = .ok element) :
    ∃ report, (descriptor files logger project file).outcome = .ok report ∧
      element.attributes.get? "file" = some report ∧
      (Element.project files logger name (some project)).records =
        (descriptor files logger project file).records := by
  obtain ⟨baseDirectory, based, succeeded⟩ := (Attempt.bind_eq_ok _ _ _).mp succeeded
  obtain ⟨reported, filed, succeeded⟩ := (Attempt.bind_eq_ok _ _ _).mp succeeded
  have silent : (Attempt.forOption (fun path : Path => canonical files path.text)
      project.basedir).records = [] := by
    cases project.basedir with
    | none => rfl
    | some given => exact Attempt.records_forOption _ given
  have written : (Element.project files logger name (some project)).records =
      (Attempt.forOption (descriptor files logger project) project.file).records := by
    rw [Element.project, Attempt.records_bind _ _ baseDirectory based, silent,
      Attempt.records_bind _ _ reported filed]
    simp
  rw [existing, Attempt.records_forOption] at written
  rw [existing, Attempt.forOption_eq_ok] at filed
  cases filed with
  | some found =>
    rename_i report
    refine ⟨report, found, ?_, written⟩
    cases succeeded
    simp [Node.set?]

/-- The descriptor of a project is reported in its own directory: under the usual name if its name
is known, and as it is otherwise. It is warned about, once, exactly if the name in the report is
not the usual one. Normalizing the report changes nothing. -/
theorem project_descriptor (existing : project.file = some file)
    (succeeded : (Element.project files logger name (some project)).outcome = .ok element) :
    ∃ path, files.canonical file.text = .ok path ∧
      (∃ directory found, Parted path directory found) ∧
      ∀ directory found, Parted path directory found →
        ∃ report last, element.attributes.get? "file" = some report ∧
          Parted report directory last ∧
          report = (if IsKnown project found then directory ++ "/" ++ usualName else path) ∧
          (Element.project files logger name (some project)).records =
            (if last = usualName then []
              else [Record.of .warning logger (unexpectedName file)]) ∧
          normalize project report = ⟨report, decide (IsKnown project found)⟩ := by
  obtain ⟨report, described, told, written⟩ :=
    project_file files logger name project file element existing succeeded
  obtain ⟨path, settled, -⟩ := (Attempt.bind_eq_ok _ _ _).mp described
  rw [canonical_eq_ok] at settled
  refine ⟨path, settled, ?_, ?_⟩
  · apply exists_parted
    exact List.mem_of_mem_head? (files.canonical_begins file.text path settled)
  · intro directory found parted
    have descriptorSettled := descriptor_settled files logger project file path directory found
      settled parted
    rw [descriptorSettled] at described written
    cases described
    refine ⟨_, reportedName project found, told,
      ⟨rfl, reportedName_whole project found parted.whole⟩, ?_, ?_,
      normalize_again project directory found parted.whole⟩
    · rw [reportedName]
      split
      · rfl
      · exact parted.written.symm
    · rw [written]
      simp only [reportedName_usual_iff]

/-- A project whose flatten plugin names the descriptor it generates. -/
def flattened : Project where
  groupId := some "org.example"
  artifactId := some "demo"
  version := some "1.0"
  file := some (Path.parse "/work/demo/flat.xml")
  build := some {
    plugins := [{
      groupId := some "org.codehaus.mojo"
      artifactId := some "flatten-maven-plugin"
      executions := [{
        goals := ["flatten"]
        configuration := some ((Node.leaf "configuration").add
          (Node.text flattenSetting (some "flat.xml"))) }] }] }

/-- The descriptor that the plugin generates is reported under the usual name, without a warning. -/
theorem project_descriptor_flattened :
    flattened.file = some (Path.parse "/work/demo/flat.xml") ∧
      ∃ element, (Element.project {} "log" "project" (some flattened)).outcome = .ok element ∧
        element.attributes.get? "file" = some "/work/demo/pom.xml" ∧
        (Element.project {} "log" "project" (some flattened)).records = [] := by
  have existing : flattened.file = some (Path.parse "/work/demo/flat.xml") := rfl
  have settled : ({} : FileSystem).canonical (Path.parse "/work/demo/flat.xml").text =
      .ok "/work/demo/flat.xml" := by decide +kernel
  have parted : Parted "/work/demo/flat.xml" "/work/demo" "flat.xml" :=
    ⟨by decide +kernel, by decide⟩
  have known : IsKnown flattened "flat.xml" := by decide +kernel
  have reported : (descriptor {} "log" flattened (Path.parse "/work/demo/flat.xml")).outcome =
      .ok "/work/demo/pom.xml" := by
    rw [descriptor_settled _ _ _ _ _ _ _ settled parted, reportedName, if_pos known]
    decide +kernel
  have succeeded : ∃ element,
      (Element.project {} "log" "project" (some flattened)).outcome = .ok element := by
    simp only [Element.project, Attempt.bind_eq_ok]
    exact ⟨_, none, rfl, some _, (Attempt.forOption_eq_ok _ _ _).mpr (.some reported), rfl⟩
  obtain ⟨element, succeeded⟩ := succeeded
  obtain ⟨path, canonical, -, law⟩ := project_descriptor {} "log" "project" flattened
    (Path.parse "/work/demo/flat.xml") element existing succeeded
  obtain rfl : "/work/demo/flat.xml" = path := Except.ok.inj (settled.symm.trans canonical)
  obtain ⟨report, last, told, ending, renamed, written, -⟩ := law "/work/demo" "flat.xml" parted
  rw [if_pos known] at renamed
  have usual : last = usualName := by
    have cut := splitPath_parted report "/work/demo" last ending
    rw [renamed, splitPath_parted _ _ _ ⟨rfl, usualName_whole⟩] at cut
    exact (congrArg Prod.snd cut).symm
  refine ⟨existing, element, succeeded, ?_, ?_⟩
  · rw [told, renamed]
    decide +kernel
  · rw [written, if_pos usual]

end Element

end BuildChronicle
