import BuildChronicle.Proofs.ExecutionOutlines
import BuildChronicle.Proofs.PresentedArtifacts

/-!
# Lists below reported nodes

Some events carry lists: the result of resolving dependencies, the dependencies that were resolved
and the errors that were collected; the result of a session, its exceptions; the success of a
project, the artifacts that are attached to it. In the report, every item of such a list stands in
its place. Only dependencies without a file are left out.

If the project itself can be reported, all of this is reported or nothing is: the first artifact
that cannot be presented decides how the event fails.
-/

namespace BuildChronicle

/-- The element tells of the exception. -/
structure Thrown.ToldBy (thrown : Thrown) (element : Node) : Prop where
  /-- It is named so. -/
  named : element.name = "exception"
  /-- It names the class of the exception, and nothing else. -/
  thrownClass : element.attributes.entries = [("class", thrown.thrownClass.fullName)]
  /-- It holds the message and the trace, both without colours. -/
  parts : ∃ message trace, element.children = [message, trace] ∧
    message.name = "message" ∧ message.value = some (Text.withoutColour thrown.message) ∧
    trace.name = "stackTrace" ∧ trace.value = some (Text.withoutColour thrown.trace)

namespace Node

variable (node : Node)

/-- The children of a node end in one that tells of each of these exceptions, in their order, and
no other child is named like these. -/
def EndsInExceptions (exceptions : List Thrown) : Prop :=
  ∃ front back, node.children = front ++ back ∧ List.Forall₂ Thrown.ToldBy exceptions back ∧
    ∀ child ∈ front, child.name ≠ "exception"

/-- A child among others that are named otherwise is the only one of its name. -/
theorem childrenNamed_only (name : String) (front back : List Node) (child : Node)
    (children : node.children = front ++ child :: back) (named : child.name = name)
    (before : ∀ other ∈ front, other.name ≠ name) (behind : ∀ other ∈ back, other.name ≠ name) :
    node.childrenNamed (some name) = [child] := by
  have noneBefore : front.filter (·.name == name) = [] := by simpa using before
  have noneBehind : back.filter (·.name == name) = [] := by simpa using behind
  simp [childrenNamed, children, noneBefore, noneBehind, named]

end Node

/-- The paths of a project have canonical forms. -/
structure Project.IsSettled (files : FileSystem) (project : Project) : Prop where
  /-- That of its directory, if it has one. -/
  basedir : ∀ path ∈ project.basedir, ∃ canonical, files.canonical path.text = .ok canonical
  /-- That of its descriptor, if it has one. -/
  file : ∀ path ∈ project.file, ∃ canonical, files.canonical path.text = .ok canonical

namespace Event

/-- The project that is reported with an event, given the one that was last seen. -/
def reportedProject (known : Option Project) : Event → Option Project
  | .execution event => event.project
  | .result project _ => project
  | .resolutionResult _ _ => known
  | _ => none

/-- The artifacts that are presented when an event is reported, in their order: the artifact of a
project that succeeded and those that are attached to it, or those of the dependencies that have a
file. -/
def presented : Event → List Artifact
  | .execution event =>
    if event.kind = .projectSucceeded then
      event.project.elim [] fun project => project.artifact.toList ++ project.attachedArtifacts
    else []
  | .resolutionResult resolved _ =>
    (resolved.filter (·.artifact.file.isSome)).map Dependency.artifact
  | _ => []

/-- The lists that an event carries stand below the node that reports it. -/
structure ListedBelow (files : FileSystem) (event : Event) (node : Node) : Prop where
  /-- Every dependency with a file is presented, in its place, and no other. -/
  dependencies : ∀ resolved errors, event = .resolutionResult resolved errors →
    ∃ list, node.childrenNamed (some "resolvedDependencies") = [list] ∧
      List.Forall₂
        (fun dependency element => dependency.artifact.PresentedBy files "dependency" element)
        (resolved.filter (·.artifact.file.isSome)) list.children
  /-- The errors that were collected stand at the end. -/
  errors : ∀ resolved errors, event = .resolutionResult resolved errors →
    node.EndsInExceptions errors
  /-- The exceptions of the session stand at the end. -/
  exceptions : ∀ project exceptions, event = .result project exceptions →
    node.EndsInExceptions exceptions
  /-- Every attached artifact is presented in its place. -/
  attached : ∀ success project, event = .execution success → success.kind = .projectSucceeded →
    success.project = some project →
    ∃ list, node.childrenNamed (some "attachedArtifacts") = [list] ∧
      List.Forall₂ (fun artifact element => artifact.PresentedBy files "artifact" element)
        project.attachedArtifacts list.children

end Event

section Complete

variable (surroundings : Surroundings)

/-- The elements of exceptions tell of them one by one. -/
theorem toldBy_exceptionElements (exceptions : List Thrown) :
    List.Forall₂ Thrown.ToldBy exceptions (Handler.exceptionElements exceptions) := by
  induction exceptions with
  | nil => exact .nil
  | cons thrown rest inductionHypothesis =>
    refine .cons ⟨Element.name_exception _ _, ?_, _, _, rfl, rfl, rfl, rfl, rfl⟩ inductionHypothesis
    rfl

/-- The elements of exceptions are named so. -/
theorem name_of_exceptionElements (exceptions : List Thrown) :
    ∀ child ∈ Handler.exceptionElements exceptions, child.name = "exception" := by
  intro child member
  obtain ⟨thrown, _, rfl⟩ := List.mem_map.mp member
  exact Element.name_exception _ _

/-- The node of resolved dependencies lists them, and ends in the errors. -/
theorem listed_resolution (logger : String) (resolved : List Dependency) (errors : List Thrown)
    (node : Node)
    (built : (Handler.resolutionNode logger surroundings resolved errors).outcome = .ok node) :
    (∃ list, node.childrenNamed (some "resolvedDependencies") = [list] ∧
      List.Forall₂ (fun dependency element =>
          dependency.artifact.PresentedBy surroundings.files "dependency" element)
        (resolved.filter (·.artifact.file.isSome)) list.children) ∧
    node.EndsInExceptions errors := by
  obtain ⟨project, projectBuilt, built⟩ := (Attempt.bind_eq_ok _ _ _).mp built
  obtain ⟨dependencies, dependenciesBuilt, built⟩ := (Attempt.bind_eq_ok _ _ _).mp built
  cases built
  have names := names_forOption _ "project" _ project
    (fun given => Element.name_project surroundings.files logger "project" (some given))
    projectBuilt
  have projectName : ∀ child ∈ project.toList, child.name = "project" := by
    intro child member
    rw [Option.mem_toList.mp member] at names
    cases known : surroundings.project with
    | none => simp [known] at names
    | some given => simpa [known] using names
  have items := ((Attempt.forEach_eq_ok _ _ _).mp dependenciesBuilt).imp
    (Element.presentedBy_dependency surroundings.files surroundings.types "dependency")
  constructor
  · refine ⟨(Node.leaf "resolvedDependencies").addAll dependencies, ?_, items⟩
    apply Node.childrenNamed_only _ _ project.toList (Handler.exceptionElements errors)
    · simp [Handler.exchangeHeader]
    · rfl
    · intro other member
      simp [projectName other member]
    · intro other member
      simp [name_of_exceptionElements errors other member]
  · refine ⟨project.toList ++ [(Node.leaf "resolvedDependencies").addAll dependencies], _, ?_,
      toldBy_exceptionElements errors, ?_⟩
    · simp [Handler.exchangeHeader]
    · intro child member
      rcases List.mem_append.mp member with isProject | isList
      · simp [projectName child isProject]
      · simp [List.mem_singleton.mp isList]

/-- The node of the result of a session ends in its exceptions. -/
theorem listed_result (logger : String) (given : Option Project) (exceptions : List Thrown)
    (node : Node)
    (built : (Handler.resultNode logger surroundings given exceptions).outcome = .ok node) :
    node.EndsInExceptions exceptions := by
  obtain ⟨project, projectBuilt, built⟩ := (Attempt.bind_eq_ok _ _ _).mp built
  cases built
  refine ⟨[project], _, by simp [Handler.exchangeHeader], toldBy_exceptionElements exceptions, ?_⟩
  simp [Element.name_project _ _ _ _ project projectBuilt]

/-- The node of a project that succeeded lists the artifacts that are attached to it. -/
theorem listed_success (event : ExecutionEvent) (project : Project) (node : Node)
    (succeeded : event.kind = .projectSucceeded) (given : event.project = some project)
    (built : (event.building surroundings).outcome = .ok node) :
    ∃ list, node.childrenNamed (some "attachedArtifacts") = [list] ∧
      List.Forall₂
        (fun artifact element => artifact.PresentedBy surroundings.files "artifact" element)
        project.attachedArtifacts list.children := by
  obtain ⟨element, added, projectBuilt, detailed, rfl⟩ :=
    (Handler.executionNode_eq_ok surroundings event _ _ _ node).mp built
  rw [ExecutionEvent.reportedDetails, if_pos succeeded, Handler.artifactDetails, given] at detailed
  obtain ⟨main, mainBuilt, detailed⟩ := (Attempt.bind_eq_ok _ _ _).mp detailed
  obtain ⟨attached, attachedBuilt, detailed⟩ := (Attempt.bind_eq_ok _ _ _).mp detailed
  cases detailed
  have elementName := Element.name_project _ _ _ _ element projectBuilt
  have mainName := Element.name_artifactWithFile _ _ _ _ main mainBuilt
  have items := ((Attempt.forEach_eq_ok _ _ _).mp attachedBuilt).imp
    (Element.presentedBy_artifactWithFile surroundings.files surroundings.types "artifact")
  refine ⟨(Node.leaf "attachedArtifacts").addAll attached, ?_, items⟩
  apply Node.childrenNamed_only _ _ ([element] ++
    (event.mojoExecution.map (Handler.pluginElement event.reportedParameters event)).toList ++
    [main]) (event.exception.map fun thrown => Element.exception "exception" (some thrown)).toList
  · simp [Handler.executionHeader]
  · rfl
  · cases event.mojoExecution <;>
      simp [elementName, mainName, Handler.pluginElement, Element.mojo]
  · cases event.exception <;> simp [Element.name_exception]

end Complete

section Failing

/-- A descriptor with a canonical form is reported, under whichever name. -/
theorem Element.descriptor_done (files : FileSystem) (logger : String) (project : Project)
    (file : Path) (settled : ∃ canonical, files.canonical file.text = .ok canonical) :
    ∃ report, (descriptor files logger project file).outcome = .ok report := by
  obtain ⟨path, settled⟩ := settled
  refine ⟨(Descriptor.normalize project path).path, (Attempt.bind_eq_ok _ _ _).mpr
    ⟨path, (canonical_eq_ok files path file.text).mpr settled, ?_⟩⟩
  dsimp only
  split <;> rfl

/-- A project whose paths have canonical forms has an element. -/
theorem Element.project_done (files : FileSystem) (logger name : String) (given : Option Project)
    (settled : ∀ project ∈ given, project.IsSettled files) :
    ∃ element, (project files logger name given).outcome = .ok element := by
  cases given with
  | none => exact ⟨_, rfl⟩
  | some given =>
    obtain ⟨baseSettled, fileSettled⟩ := settled given rfl
    obtain ⟨base, baseDone⟩ := Attempt.forOption_done
      (fun path : Path => canonical files path.text) given.basedir fun path isGiven => by
        obtain ⟨canonical, settled⟩ := baseSettled path isGiven
        exact ⟨canonical, (canonical_eq_ok files canonical path.text).mpr settled⟩
    obtain ⟨file, fileDone⟩ := Attempt.forOption_done (descriptor files logger given) given.file
      fun path isGiven => descriptor_done files logger given path (fileSettled path isGiven)
    exact ⟨_, (Attempt.bind_eq_ok _ _ _).mpr
      ⟨base, baseDone, (Attempt.bind_eq_ok _ _ _).mpr ⟨file, fileDone, rfl⟩⟩⟩

variable (surroundings : Surroundings) (before after : List Artifact) (artifact : Artifact)
  (fault : Fault)

/-- The details of a project that succeeded fail with the first of its artifacts that cannot be
presented. The main artifact comes before those that are attached. -/
theorem artifactDetails_failed (logger : String) (event : ExecutionEvent) (project : Project)
    (given : event.project = some project)
    (artifacts : project.artifact.toList ++ project.attachedArtifacts =
      before ++ artifact :: after)
    (earlier : ∀ artifact ∈ before, artifact.IsPresentable surroundings.files)
    (fails : artifact.Fails surroundings.files fault) :
    (Handler.artifactDetails logger surroundings event).outcome = .error fault := by
  have presented (artifact : Artifact) (presentable : artifact.IsPresentable surroundings.files) :=
    Element.presenting_done surroundings.files surroundings.types "artifact" Node.addAll artifact
      presentable
  have failed := Element.presenting_failed surroundings.files surroundings.types "artifact"
    Node.addAll artifact fault fails
  rw [Handler.artifactDetails, given]
  dsimp only
  cases main : project.artifact with
  | none =>
    rw [main, Option.toList_none, List.nil_append] at artifacts
    rw [artifacts]
    apply Attempt.bind_failed _ _ (Node.leaf "artifact") fault rfl
    apply Attempt.bind_failed_first
    exact Attempt.forEach_failed _ before after artifact fault
      (fun other member => presented other (earlier other member)) failed
  | some mainArtifact =>
    rw [main, Option.toList_some, List.singleton_append] at artifacts
    cases before with
    | nil =>
      obtain ⟨rfl, -⟩ := List.cons.inj artifacts
      exact Attempt.bind_failed_first _ _ fault failed
    | cons first rest =>
      obtain ⟨rfl, attached⟩ := List.cons.inj artifacts
      obtain ⟨mainPresentable, restPresentable⟩ := List.forall_mem_cons.mp earlier
      obtain ⟨element, mainDone⟩ := presented _ mainPresentable
      rw [attached]
      apply Attempt.bind_failed _ _ element fault mainDone
      apply Attempt.bind_failed_first
      exact Attempt.forEach_failed _ rest after artifact fault
        (fun other member => presented other (restPresentable other member)) failed

/-- The elements of dependencies fail with the first one with a file that cannot be presented. -/
theorem dependencyElements_failed (resolved : List Dependency)
    (artifacts : (resolved.filter (·.artifact.file.isSome)).map Dependency.artifact =
      before ++ artifact :: after)
    (earlier : ∀ artifact ∈ before, artifact.IsPresentable surroundings.files)
    (fails : artifact.Fails surroundings.files fault) :
    (Handler.dependencyElements surroundings resolved).outcome = .error fault := by
  obtain ⟨front, rest, listed, rfl, tail⟩ := List.map_eq_append_iff.mp artifacts
  obtain ⟨dependency, back, rfl, rfl, rfl⟩ := List.map_eq_cons_iff.mp tail
  rw [Handler.dependencyElements, listed]
  apply Attempt.forEach_failed
  · intro other member
    exact Element.presenting_done _ _ _ _ _ (earlier _ (List.mem_map_of_mem member))
  · exact Element.presenting_failed _ _ _ _ _ fault fails

/-- If the project that is reported has canonical paths, reporting an event fails with the first
artifact that cannot be presented. -/
theorem treatment_failed (event : Event)
    (settled : ∀ project ∈ event.reportedProject surroundings.project,
      project.IsSettled surroundings.files)
    (artifacts : event.presented = before ++ artifact :: after)
    (earlier : ∀ artifact ∈ before, artifact.IsPresentable surroundings.files)
    (fails : artifact.Fails surroundings.files fault) :
    ∃ building, event.treatment surroundings = .reported building ∧
      building.outcome = .error fault := by
  cases event with
  | execution event =>
    rw [Event.presented] at artifacts
    split at artifacts
    · rename_i succeeded
      cases given : event.project with
      | none =>
        rw [given, Option.elim_none] at artifacts
        simp at artifacts
      | some project =>
        rw [given, Option.elim_some] at artifacts
        refine ⟨event.building surroundings, ?_, ?_⟩
        · rw [Event.treatment, ExecutionEvent.treatment, succeeded, if_pos (by decide)]
        · obtain ⟨element, done⟩ := Element.project_done surroundings.files
            (Handler.loggerName none event.handlerName) "project" event.project settled
          have failed := artifactDetails_failed surroundings before after artifact fault
            (Handler.loggerName none event.handlerName) event project given artifacts earlier fails
          apply Attempt.bind_failed _ _ element fault done
          apply Attempt.bind_failed_first
          rwa [ExecutionEvent.reportedDetails, if_pos succeeded]
    · simp at artifacts
  | resolutionResult resolved errors =>
    refine ⟨_, rfl, ?_⟩
    obtain ⟨element, done⟩ := Attempt.forOption_done
      (fun project => Element.project surroundings.files
        (Handler.loggerName none "DependencyResolutionResultHandler") "project" (some project))
      surroundings.project fun project seen =>
        Element.project_done _ _ _ (some project) fun other same => by
          cases same
          exact settled project seen
    apply Attempt.bind_failed _ _ element fault done
    apply Attempt.bind_failed_first
    exact dependencyElements_failed surroundings before after artifact fault resolved artifacts
      earlier fails
  | request | result | resolutionRequest | lookalike | text | nothing =>
    simp [Event.presented] at artifacts

end Failing

namespace Desk

variable (desk : Desk) (report : Report) (time : String) (files : FileSystem) (event : Event)

/-- What the standard handlers report lists every item in its place. If the paths of the project
that is reported have canonical forms, but some artifact cannot be presented, dispatching the event
fails with the first such artifact, and nothing is reported. -/
theorem reported_lists (logger : Option String)
    (standing : desk.dispatcher = Dispatcher.standard logger) :
    (∀ node, desk.Reports report time files event node → event.ListedBelow files node) ∧
      ((∀ project ∈ event.reportedProject (desk.surroundings time files).project,
          project.IsSettled files) →
        (∃ artifact ∈ event.presented, ¬ artifact.IsPresentable files) →
        ∃ before artifact after fault, event.presented = before ++ artifact :: after ∧
          (∀ earlier ∈ before, earlier.IsPresentable files) ∧ artifact.Fails files fault ∧
          (desk.dispatch report time files event).outcome = .error fault ∧
          (desk.dispatch report time files event).state.2 = report) := by
  constructor
  · intro node reports
    obtain ⟨-, finished⟩ := (desk.reports_iff report time files event logger node standing).mp
      reports
    constructor
    · rintro resolved errors rfl
      have built := (Treatment.node?_reported_iff _ node).mp finished
      exact (listed_resolution _ _ resolved errors node built).1
    · rintro resolved errors rfl
      have built := (Treatment.node?_reported_iff _ node).mp finished
      exact (listed_resolution _ _ resolved errors node built).2
    · rintro project exceptions rfl
      have built := (Treatment.node?_reported_iff _ node).mp finished
      exact listed_result _ _ project exceptions node built
    · rintro success project rfl succeeded given
      obtain ⟨-, -, built⟩ :=
        (desk.reports_execution_iff report time files success logger node standing).mp reports
      exact listed_success _ success project node succeeded given built
  · intro settled unpresentable
    obtain ⟨before, artifact, after, fault, artifacts, earlier, fails⟩ :=
      Artifact.exists_first_failing files event.presented unpresentable
    obtain ⟨building, treated, failed⟩ := treatment_failed (desk.surroundings time files) before
      after artifact fault event settled artifacts earlier fails
    obtain ⟨state, outcome⟩ := desk.dispatch_given report time files event logger standing
    refine ⟨before, artifact, after, fault, artifacts, earlier, fails, ?_, ?_⟩
    · rw [outcome, treated, Treatment.outcomeOn, failed]
    · rw [state, treated, Treatment.node?, failed]
      rfl

/-- A repository in which one file is a link to itself. -/
def looped : FileSystem where
  links := [(["repo", "loop.jar"], "loop.jar")]

/-- A dependency that may have a file in the repository. -/
def stored (name : String) (file : Option String) : Dependency where
  artifact := {
    groupId := some "org.example"
    artifactId := some name
    version := some "1"
    file := file.map Path.parse
    baseVersion := "1" }

/-- What stood in the way of resolving another dependency. -/
def unresolved : Thrown :=
  .mk (.builtin "ValueError") [.text "no version"] [] [] none none false

/-- The result of resolving three dependencies, of which the second one has no file, and failing to
resolve another. -/
def resolvedThree (last : String) : Event :=
  .resolutionResult
    [stored "first" (some "/repo/first.jar"), stored "second" none, stored "last" (some last)]
    [unresolved]

/-- A dependency with a file that is no link can be presented. -/
theorem presentable_stored (name : String) (file : String)
    (settled : looped.canonical (Path.parse file).text = .ok file) :
    (stored name (some file)).artifact.IsPresentable looped := by
  refine ⟨⟨_, rfl⟩, ?_⟩
  intro path given
  cases given
  exact ⟨file, settled⟩

/-- The element that presents such a dependency holds its file. -/
theorem children_stored (name file : String) (element : Node)
    (settled : looped.canonical (Path.parse file).text = .ok file)
    (presented : (stored name (some file)).artifact.PresentedBy looped "dependency" element) :
    element.children.map Node.value = [some file] := by
  have holds : looped.Holds (some (Path.parse file)) element.children := presented.file
  generalize element.children = children at holds ⊢
  cases holds with
  | file _ canonical found =>
    rw [settled] at found
    cases found
    rfl

/-- Such a dependency can fail only because its file has no canonical path. -/
theorem failed_stored (name file : String) (fault : Fault) (error : PathError)
    (trouble : looped.canonical (Path.parse file).text = .error error)
    (fails : (stored name (some file)).artifact.Fails looped fault) : fault = .path error := by
  rcases fails with ⟨position, missing⟩ | ⟨id, path, found, told, given, unsettled⟩
  · have told : ∃ id, (stored name (some file)).artifact.id = .ok id := ⟨_, rfl⟩
    rw [missing] at told
    obtain ⟨id, told⟩ := told
    cases told
  · cases given
    rw [trouble] at unsettled
    cases unsettled
    rfl

/-- A node that ends in this exception tells of it in its last child, and in no other. -/
theorem told_unresolved (node : Node) (ends : node.EndsInExceptions [unresolved]) :
    ∃ told, node.childrenNamed (some "exception") = [told] ∧
      node.children.getLast? = some told ∧ told.attributes.entries = [("class", "ValueError")] ∧
      told.children.map Node.value = [some "no version", some "ValueError: no version\n"] := by
  obtain ⟨front, back, children, each, others⟩ := ends
  obtain ⟨told, rest, tells, ended, rfl⟩ := List.forall₂_cons_left_iff.mp each
  obtain rfl := List.forall₂_nil_left_iff.mp ended
  obtain ⟨message, trace, parts, -, messageTold, -, traceTold⟩ := tells.parts
  have spoken : Text.withoutColour unresolved.message = "no version" := by decide +kernel
  have traced : Text.withoutColour unresolved.trace = "ValueError: no version\n" := by
    decide +kernel
  refine ⟨told, ?_, by simp [children], ?_, ?_⟩
  · exact node.childrenNamed_only "exception" front [] told children tells.named others (by simp)
  · rw [tells.thrownClass]
    decide +kernel
  · rw [parts, List.map_cons, List.map_cons, List.map_nil, messageTold, traceTold, spoken, traced]

/-- The result is reported if no file is a link. -/
theorem reports_resolvedThree (last : String)
    (firstSettled : looped.canonical (Path.parse "/repo/first.jar").text = .ok "/repo/first.jar")
    (lastSettled : looped.canonical (Path.parse last).text = .ok last) :
    ∃ node, Reports { dispatcher := Dispatcher.standard none } (Report.openAt "") "" looped
      (resolvedThree last) node := by
  have built (name file : String)
      (settled : looped.canonical (Path.parse file).text = .ok file) :
      ∃ element, (Element.dependency looped none "dependency" (stored name (some file))).outcome =
        .ok element :=
    Element.presenting_done looped none "dependency" _ _ (presentable_stored name file settled)
  obtain ⟨firstElement, firstBuilt⟩ := built "first" _ firstSettled
  obtain ⟨lastElement, lastBuilt⟩ := built "last" last lastSettled
  have finished : ((resolvedThree last).treatment ⟨"", looped, none, none⟩).node? = some _ :=
    (Treatment.node?_reported_iff _ _).mpr ((Attempt.bind_eq_ok _ _ _).mpr
      ⟨none, rfl, (Attempt.bind_eq_ok _ _ _).mpr ⟨[firstElement, lastElement],
        (Attempt.forEach_eq_ok _ _ _).mpr (.cons firstBuilt (.cons lastBuilt .nil)), rfl⟩⟩)
  exact ⟨_, (reports_iff { dispatcher := Dispatcher.standard none } (Report.openAt "") "" looped
    (resolvedThree last) none _ rfl).mpr ⟨rfl, finished⟩⟩

/-- The files of the dependencies that have one are reported in order, and the exception after
them; if the last of the files is a link to itself, nothing is reported. -/
theorem reported_lists_repository :
    let desk : Desk := { dispatcher := Dispatcher.standard none }
    let report := Report.openAt ""
    (∃ node list, desk.Reports report "" looped (resolvedThree "/repo/last.jar") node ∧
      node.childrenNamed (some "resolvedDependencies") = [list] ∧
      list.children.map (·.children.map Node.value) =
        [[some "/repo/first.jar"], [some "/repo/last.jar"]] ∧
      ∃ told, node.childrenNamed (some "exception") = [told] ∧
        node.children.getLast? = some told ∧ told.attributes.entries = [("class", "ValueError")] ∧
        told.children.map Node.value = [some "no version", some "ValueError: no version\n"]) ∧
    (desk.dispatch report "" looped (resolvedThree "/repo/loop.jar")).outcome =
        .error (.path (.notCanonical "/repo/loop.jar" (.loop "/repo/loop.jar"))) ∧
      (desk.dispatch report "" looped (resolvedThree "/repo/loop.jar")).state.2 = report := by
  intro desk report
  have firstSettled : looped.canonical (Path.parse "/repo/first.jar").text =
      .ok "/repo/first.jar" := by decide +kernel
  have lastSettled : looped.canonical (Path.parse "/repo/last.jar").text =
      .ok "/repo/last.jar" := by decide +kernel
  have trouble : looped.canonical (Path.parse "/repo/loop.jar").text =
      .error (.notCanonical "/repo/loop.jar" (.loop "/repo/loop.jar")) := by decide +kernel
  constructor
  · obtain ⟨node, reports⟩ := reports_resolvedThree "/repo/last.jar" firstSettled lastSettled
    have listed := (desk.reported_lists report "" looped _ none rfl).1 node reports
    obtain ⟨list, only, items⟩ := listed.dependencies _ _ rfl
    refine ⟨node, list, reports, only, ?_, ?_⟩
    · generalize list.children = elements at items ⊢
      rcases items with _ | ⟨first, _ | ⟨last, ⟨⟩⟩⟩
      simp only [List.map_cons, List.map_nil, children_stored _ _ _ firstSettled first,
        children_stored _ _ _ lastSettled last]
    · exact told_unresolved node (listed.errors _ _ rfl)
  · have unpresentable :
        ¬ (stored "last" (some "/repo/loop.jar")).artifact.IsPresentable looped := by
      intro presentable
      obtain ⟨canonical, settled⟩ := presentable.settled _ rfl
      rw [trouble] at settled
      cases settled
    have noProject : (resolvedThree "/repo/loop.jar").reportedProject
        (desk.surroundings "" looped).project = none := rfl
    obtain ⟨before, artifact, after, fault, artifacts, earlier, fails, outcome, state⟩ :=
      (desk.reported_lists report "" looped (resolvedThree "/repo/loop.jar") none rfl).2
        (by simp [noProject]) ⟨_, List.mem_cons_of_mem _ List.mem_cons_self, unpresentable⟩
    have presentable := presentable_stored "first" "/repo/first.jar" firstSettled
    have listed : (resolvedThree "/repo/loop.jar").presented =
        [(stored "first" (some "/repo/first.jar")).artifact,
          (stored "last" (some "/repo/loop.jar")).artifact] := rfl
    rw [listed] at artifacts
    rcases before with _ | ⟨other, _ | ⟨another, rest⟩⟩
    · obtain ⟨rfl, -⟩ := List.cons.inj artifacts
      exact absurd fails (Artifact.not_fails looped _ fault presentable)
    · obtain ⟨rfl, -⟩ := List.cons.inj (List.cons.inj artifacts).2
      rw [failed_stored "last" "/repo/loop.jar" fault _ trouble fails] at outcome
      exact ⟨outcome, state⟩
    · simp at artifacts

end Desk

end BuildChronicle
