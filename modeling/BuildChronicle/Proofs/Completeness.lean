import Mathlib.Data.List.Forall2
import BuildChronicle.Proofs.Treatment

/-!
# Complete nodes

The node that reports an event is built step by step, and any step may fail. What a complete
node consists of can be told from the event alone: its name and time, the names of its
children in order, and how many items hang below a child that is a list. Whenever building
the node ends with a node at all, that node is complete.

Attempts are taken apart by three laws, one for each way of putting them together.
-/

namespace BuildChronicle

namespace Attempt

/-- An attempt with a next step succeeds exactly if both steps do. -/
theorem bind_eq_ok {ε α β : Type} (attempt : Attempt ε α) (next : α → Attempt ε β)
    (result : β) :
    (attempt >>= next).outcome = .ok result ↔
      ∃ value, attempt.outcome = .ok value ∧ (next value).outcome = .ok result := by
  cases outcome : attempt.outcome <;> simp [bind, andThen, outcome]

/-- What is attempted for a value that may be missing succeeds without it. -/
theorem forOption_eq_ok {α β : Type} (act : α → Attempt Fault β) (value : Option α)
    (result : Option β) :
    (forOption act value).outcome = .ok result ↔
      Option.Rel (fun value result => (act value).outcome = .ok result) value result := by
  cases value with
  | none =>
    cases result <;> simp [forOption, succeed]
  | some value =>
    rw [forOption, bind_eq_ok]
    cases result <;> simp [pure, succeed]

/-- What is attempted for every item succeeds exactly if it does for each of them. -/
theorem forEach_eq_ok {α β : Type} (act : α → Attempt Fault β) (items : List α)
    (results : List β) :
    (forEach act items).outcome = .ok results ↔
      List.Forall₂ (fun item result => (act item).outcome = .ok result) items results := by
  induction items generalizing results with
  | nil => simp [forEach, succeed, eq_comm]
  | cons item rest inductionHypothesis =>
    rw [forEach, bind_eq_ok, List.forall₂_cons_left_iff]
    constructor
    · rintro ⟨first, acted, later⟩
      obtain ⟨others, rested, same⟩ := (bind_eq_ok _ _ _).mp later
      cases same
      exact ⟨first, others, acted, (inductionHypothesis others).mp rested, rfl⟩
    · rintro ⟨first, others, acted, rested, rfl⟩
      exact ⟨first, acted, (bind_eq_ok _ _ _).mpr
        ⟨others, (inductionHypothesis others).mpr rested, rfl⟩⟩

end Attempt

namespace Element

/-- The element of a project has the name that was asked for. -/
theorem name_project (files : FileSystem) (logger name : String) (given : Option Project)
    (element : Node) (built : (project files logger name given).outcome = .ok element) :
    element.name = name := by
  cases given with
  | none =>
    cases built
    rfl
  | some given =>
    obtain ⟨baseDirectory, _, built⟩ := (Attempt.bind_eq_ok _ _ _).mp built
    obtain ⟨file, _, built⟩ := (Attempt.bind_eq_ok _ _ _).mp built
    cases built
    simp [projectCoordinates]

/-- The element of a path has the name that was asked for. -/
theorem name_path (files : FileSystem) (name : String) (given : Option Path) (element : Node)
    (built : (path files name given).outcome = .ok element) : element.name = name := by
  obtain ⟨value, _, built⟩ := (Attempt.bind_eq_ok _ _ _).mp built
  cases built
  rfl

/-- The element of an artifact has the name that was asked for. -/
theorem name_artifact (types : Option TypeRegistry) (name : String) (given : Option Artifact)
    (element : Node) (built : (artifact types name given).outcome = .ok element) :
    element.name = name := by
  cases given with
  | none =>
    cases built
    rfl
  | some given =>
    obtain ⟨id, _, built⟩ := (Attempt.bind_eq_ok _ _ _).mp built
    cases built
    simp [identified]

/-- So has the element of an artifact with its file. -/
theorem name_artifactWithFile (files : FileSystem) (types : Option TypeRegistry)
    (name : String) (given : Option Artifact) (element : Node)
    (built : (artifactWithFile files types name given).outcome = .ok element) :
    element.name = name := by
  obtain ⟨bare, named, built⟩ := (Attempt.bind_eq_ok _ _ _).mp built
  obtain ⟨file, _, built⟩ := (Attempt.bind_eq_ok _ _ _).mp built
  cases built
  exact name_artifact types name given bare named

/-- So has the element of a dependency. -/
theorem name_dependency (files : FileSystem) (types : Option TypeRegistry) (name : String)
    (given : Dependency) (element : Node)
    (built : (dependency files types name given).outcome = .ok element) :
    element.name = name := by
  obtain ⟨bare, named, built⟩ := (Attempt.bind_eq_ok _ _ _).mp built
  obtain ⟨file, _, built⟩ := (Attempt.bind_eq_ok _ _ _).mp built
  cases built
  simpa using name_artifact types name (some given.artifact) bare named

/-- The element of an exception has the name that was asked for. -/
theorem name_exception (name : String) (given : Option Thrown) :
    (exception name given).name = name := by
  cases given <;> rfl

end Element

/-- The names of what a project or a deployment adds to the node of an execution event. -/
def ExecutionEvent.detailNames (event : ExecutionEvent) : List String :=
  if event.kind = .projectSucceeded then
    if event.project.isSome then ["artifact", "attachedArtifacts"] else []
  else if event.isSuccessOf Handler.deployGoal then ["artifactRepository"]
  else []

namespace Event

/-- The names of the children of a complete node, given the project last seen. -/
def outline (known : Option Project) : Event → List String
  | .execution event =>
    ["project"] ++ (event.mojoExecution.map fun _ => "plugin").toList ++ event.detailNames ++
      (event.exception.map fun _ => "exception").toList
  | .request _ => ["request", "pom", "userSettingsFile", "globalSettingsFile", "localRepository"]
  | .result _ exceptions => "project" :: exceptions.map fun _ => "exception"
  | .resolutionRequest _ => []
  | .resolutionResult _ errors =>
    (known.map fun _ => "project").toList ++ ["resolvedDependencies"] ++
      errors.map fun _ => "exception"
  | .lookalike _ _ _ | .text _ | .nothing => []

/-- The names of the items below the child of a complete node that is a list: an item for each
attached artifact, and one for each dependency with a file. -/
def listing : Event → Option (String × List String)
  | .execution event =>
    if event.kind = .projectSucceeded then
      event.project.map fun project =>
        ("attachedArtifacts", project.attachedArtifacts.map fun _ => "artifact")
    else none
  | .resolutionResult resolved _ =>
    some ("resolvedDependencies",
      (resolved.filter (·.artifact.file.isSome)).map fun _ => "dependency")
  | _ => none

/-- A node that reports an event completely, given the time and the project last seen. -/
structure Complete (time : String) (known : Option Project) (event : Event) (node : Node) :
    Prop where
  /-- It is named for the class of the event. -/
  name : node.name = event.className
  /-- It tells the class. -/
  tellsClass : node.attributes.get? "class" = event.eventClass?.map EventClass.fullName
  /-- It tells the time. -/
  tellsTime : node.attributes.get? "_time" = some time
  /-- Its children are all there. -/
  outline : node.children.map Node.name = event.outline known
  /-- All items are there below the child that is a list. -/
  listing : ∀ name items, event.listing = some (name, items) →
    ∃ child, node.child? name = some child ∧ child.children.map Node.name = items

end Event

section Building

variable (surroundings : Surroundings)

/-- An element that was built under a name is there if there is something it is of. -/
theorem names_forOption {α : Type} (act : α → Attempt Fault Node) (name : String)
    (value : Option α) (element : Option Node)
    (named : ∀ value element, (act value).outcome = .ok element → element.name = name)
    (built : (Attempt.forOption act value).outcome = .ok element) :
    element.map Node.name = value.map fun _ => name := by
  rw [Attempt.forOption_eq_ok] at built
  cases built with
  | none => rfl
  | some acted => simp [named _ _ acted]

/-- Elements that were built under one name are as many as the items they are of. -/
theorem names_forEach {α : Type} (act : α → Attempt Fault Node) (name : String)
    (items : List α) (elements : List Node)
    (named : ∀ item element, (act item).outcome = .ok element → element.name = name)
    (built : (Attempt.forEach act items).outcome = .ok elements) :
    elements.map Node.name = items.map fun _ => name := by
  rw [Attempt.forEach_eq_ok] at built
  induction built with
  | nil => rfl
  | cons acted _ inductionHypothesis =>
    rw [List.map_cons, List.map_cons, named _ _ acted, inductionHypothesis]

/-- The elements of exceptions are all named alike. -/
theorem names_exceptionElements (exceptions : List Thrown) :
    (Handler.exceptionElements exceptions).map Node.name =
      exceptions.map fun _ => "exception" := by
  simp [Handler.exceptionElements, Element.name_exception, Function.comp_def]

/-- The details of a project that was built are its artifact and the list of its attached
artifacts, with an item for each of them. -/
theorem artifactDetails_complete (logger : String) (event : ExecutionEvent) (project : Project)
    (details : List Node) (given : event.project = some project)
    (built : (Handler.artifactDetails logger surroundings event).outcome = .ok details) :
    ∃ main attached, details = [main, attached] ∧ main.name = "artifact" ∧
      attached.name = "attachedArtifacts" ∧
      attached.children.map Node.name = project.attachedArtifacts.map fun _ => "artifact" := by
  have named (artifact : Option Artifact) (element : Node) :=
    Element.name_artifactWithFile surroundings.files surroundings.types "artifact" artifact element
  rw [Handler.artifactDetails, given] at built
  obtain ⟨main, mainBuilt, built⟩ := (Attempt.bind_eq_ok _ _ _).mp built
  obtain ⟨elements, attachedBuilt, built⟩ := (Attempt.bind_eq_ok _ _ _).mp built
  cases built
  refine ⟨main, _, rfl, named _ main mainBuilt, rfl, ?_⟩
  exact names_forEach _ "artifact" project.attachedArtifacts elements
    (fun artifact element => named (some artifact) element) attachedBuilt

/-- The details of a deployment are the element of a repository. -/
theorem deploymentDetails_complete (logger : String) (event : ExecutionEvent)
    (details : List Node)
    (built : (Handler.deploymentDetails logger surroundings event).outcome = .ok details) :
    details.map Node.name = ["artifactRepository"] := by
  have named (repository : Option Repository) :
      [Element.repository repository].map Node.name = ["artifactRepository"] := by
    cases repository <;> rfl
  rw [Handler.deploymentDetails] at built
  split at built
  · cases built
    rfl
  · dsimp only at built
    split at built
    · cases built
    · split at built <;> cases built <;> exact named _

/-- The details of an execution event are all there, with an item for each attached
artifact. -/
theorem details_complete (logger : String) (event : ExecutionEvent) (details : List Node)
    (built : (event.reportedDetails logger surroundings event).outcome = .ok details) :
    details.map Node.name = event.detailNames ∧
      ∀ name items, (Event.execution event).listing = some (name, items) →
        ∃ child, details.find? (·.name == name) = some child ∧
          child.children.map Node.name = items := by
  rw [ExecutionEvent.reportedDetails] at built
  rw [ExecutionEvent.detailNames, Event.listing]
  by_cases succeeded : event.kind = .projectSucceeded
  · rw [if_pos succeeded] at built ⊢
    rw [if_pos succeeded]
    cases given : event.project with
    | none =>
      rw [Handler.artifactDetails, given] at built
      cases built
      refine ⟨rfl, ?_⟩
      intro name items listed
      cases listed
    | some project =>
      obtain ⟨main, attached, rfl, mainName, attachedName, items⟩ :=
        artifactDetails_complete surroundings logger event project details given built
      refine ⟨by simp [mainName, attachedName], ?_⟩
      intro name items listed
      cases listed
      exact ⟨attached, by simp [mainName, attachedName], items⟩
  · rw [if_neg succeeded] at built ⊢
    rw [if_neg succeeded]
    constructor
    · cases deployment : event.isSuccessOf Handler.deployGoal with
      | false =>
        rw [deployment] at built
        cases built
        rfl
      | true =>
        rw [deployment] at built
        exact deploymentDetails_complete surroundings logger event details built
    · intro name items listed
      cases listed

/-- The node of an execution event is complete. -/
theorem complete_execution (event : ExecutionEvent) (node : Node)
    (built : (event.building surroundings).outcome = .ok node) :
    (Event.execution event).Complete surroundings.time surroundings.project node := by
  obtain ⟨project, projectBuilt, built⟩ := (Attempt.bind_eq_ok _ _ _).mp built
  obtain ⟨details, detailsBuilt, built⟩ := (Attempt.bind_eq_ok _ _ _).mp built
  cases built
  have projectName := Element.name_project _ _ _ _ project projectBuilt
  obtain ⟨names, items⟩ := details_complete surroundings _ event details detailsBuilt
  constructor
  · rfl
  · simp [Handler.executionHeader, Event.eventClass?]
  · simp [Handler.executionHeader]
  · cases mojo : event.mojoExecution <;> cases thrown : event.exception <;>
      simp [Handler.executionHeader, Event.outline, mojo, thrown, projectName, names,
        Handler.pluginElement, Element.mojo, Element.name_exception]
  · intro name listed given
    obtain ⟨child, found, below⟩ := items name listed given
    have isList : name = "attachedArtifacts" := by
      rw [Event.listing] at given
      split at given
      · cases project : event.project <;> rw [project] at given <;> cases given
        rfl
      · cases given
    subst isList
    refine ⟨child, ?_, below⟩
    cases event.mojoExecution <;>
      simp [Node.child?, Handler.executionHeader, projectName, found, Handler.pluginElement,
        Element.mojo]

/-- The node of a request is complete. -/
theorem complete_request (request : ExecutionRequest) (node : Node)
    (built : (Handler.requestNode surroundings request).outcome = .ok node) :
    (Event.request request).Complete surroundings.time surroundings.project node := by
  obtain ⟨baseDirectory, _, built⟩ := (Attempt.bind_eq_ok _ _ _).mp built
  obtain ⟨pom, pomBuilt, built⟩ := (Attempt.bind_eq_ok _ _ _).mp built
  obtain ⟨user, userBuilt, built⟩ := (Attempt.bind_eq_ok _ _ _).mp built
  obtain ⟨installation, installationBuilt, built⟩ := (Attempt.bind_eq_ok _ _ _).mp built
  obtain ⟨repository, repositoryBuilt, built⟩ := (Attempt.bind_eq_ok _ _ _).mp built
  cases built
  constructor
  · rfl
  · simp [Handler.exchangeHeader, Event.eventClass?]
  · simp [Handler.exchangeHeader]
  · simp [Handler.exchangeHeader, Event.outline, Handler.requestElement,
      Element.name_path _ _ _ pom pomBuilt, Element.name_path _ _ _ user userBuilt,
      Element.name_path _ _ _ installation installationBuilt,
      Element.name_path _ _ _ repository repositoryBuilt]
  · intro name items listed
    cases listed

/-- The node of the result of a session is complete. -/
theorem complete_result (logger : String) (given : Option Project) (exceptions : List Thrown)
    (node : Node)
    (built : (Handler.resultNode logger surroundings given exceptions).outcome = .ok node) :
    (Event.result given exceptions).Complete surroundings.time surroundings.project node := by
  obtain ⟨project, projectBuilt, built⟩ := (Attempt.bind_eq_ok _ _ _).mp built
  cases built
  constructor
  · rfl
  · simp [Handler.exchangeHeader, Event.eventClass?]
  · simp [Handler.exchangeHeader]
  · have projectName := Element.name_project _ _ _ _ project projectBuilt
    have exceptionNames := names_exceptionElements exceptions
    simp [Handler.exchangeHeader, Event.outline, projectName, exceptionNames]
  · intro name items listed
    cases listed

/-- The node of resolved dependencies is complete. -/
theorem complete_resolution (logger : String) (resolved : List Dependency)
    (errors : List Thrown) (node : Node)
    (built : (Handler.resolutionNode logger surroundings resolved errors).outcome = .ok node) :
    (Event.resolutionResult resolved errors).Complete surroundings.time surroundings.project
      node := by
  obtain ⟨project, projectBuilt, built⟩ := (Attempt.bind_eq_ok _ _ _).mp built
  obtain ⟨dependencies, dependenciesBuilt, built⟩ := (Attempt.bind_eq_ok _ _ _).mp built
  cases built
  have projectName := names_forOption _ "project" _ project
    (fun given => Element.name_project surroundings.files logger "project" (some given))
    projectBuilt
  have items := names_forEach _ "dependency" _ dependencies
    (Element.name_dependency surroundings.files surroundings.types "dependency")
    dependenciesBuilt
  constructor
  · rfl
  · simp [Handler.exchangeHeader, Event.eventClass?]
  · simp [Handler.exchangeHeader]
  · have exceptionNames := names_exceptionElements errors
    simp [Handler.exchangeHeader, Event.outline, exceptionNames, ← Option.toList_map, projectName]
  · intro name listed given
    cases given
    refine ⟨(Node.leaf "resolvedDependencies").addAll dependencies, ?_, by simpa using items⟩
    cases project with
    | none => simp [Node.child?, Handler.exchangeHeader]
    | some element =>
      have elementName : element.name = "project" := by
        cases known : surroundings.project with
        | none => simp [known] at projectName
        | some given => simpa [known] using projectName
      simp [Node.child?, Handler.exchangeHeader, elementName]

/-- Whenever building the node of an event ends with a node, that node is complete. -/
theorem complete_finished (event : Event) (node : Node)
    (finished : (event.treatment surroundings).node? = some node) :
    event.Complete surroundings.time surroundings.project node := by
  have built (building : Attempt Fault Node) :=
    Treatment.outcome_of_finished building node
  cases event with
  | execution event =>
    rw [Event.treatment, ExecutionEvent.treatment] at finished
    split at finished
    · exact complete_execution surroundings event node (built _ finished)
    · split at finished <;> cases finished
  | request request => exact complete_request surroundings request node (built _ finished)
  | result project exceptions =>
    exact complete_result surroundings _ project exceptions node (built _ finished)
  | resolutionResult resolved errors =>
    exact complete_resolution surroundings _ resolved errors node (built _ finished)
  | resolutionRequest | lookalike | text | nothing => cases finished

end Building

end BuildChronicle
