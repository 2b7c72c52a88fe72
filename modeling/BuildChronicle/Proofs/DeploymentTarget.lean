import BuildChronicle.Proofs.BuildTimes
import BuildChronicle.Proofs.Completeness

/-!
# Where projects are deployed

The report of a deployment names a repository: the one for snapshots, if there is one and the
version of the project ends in `-SNAPSHOT`, and the one for releases otherwise. Artifacts have a
test of their own: an artifact is a snapshot if its base version ends in `SNAPSHOT`.

Whatever passes the first test passes the second. The converse fails for two sorts of versions:
those of uploaded snapshots, which carry a build time in place of the word, and those that end in
the word without a dash before it. The artifact of such a version is a snapshot, yet its project
is reported as deployed with the releases. With every other version the two tests agree.
-/

namespace BuildChronicle

namespace Version

variable (version : String)

/-- A version of a snapshot that does not end like one: it carries a build time, or the word at its
end has no dash. -/
def IsUnmarked : Prop :=
  (stem? version).isSome = true ∨ isSnapshot version = true ∧ endsAsSnapshot version = false

/-- Whether a version is unmarked can be decided. -/
instance decidableIsUnmarked : Decidable (IsUnmarked version) :=
  inferInstanceAs (Decidable (_ ∨ _))

/-- The unmarked versions are those on which the two tests differ. -/
theorem isUnmarked_iff :
    IsUnmarked version ↔ isSnapshot (base version) = true ∧ endsAsSnapshot version = false := by
  rw [isSnapshot_base, Bool.or_eq_true, IsUnmarked]
  constructor
  · rintro (timed | unmarked)
    · refine ⟨.inl timed, ?_⟩
      rw [Bool.eq_false_iff]
      intro ends
      have untimed := isSnapshot_of_timed version timed
      rw [isSnapshot_of_ends version ends] at untimed
      cases untimed
    · exact ⟨.inr unmarked.1, unmarked.2⟩
  · rintro ⟨timed | snapshot, ends⟩
    · exact .inl timed
    · exact .inr ⟨snapshot, ends⟩

example : IsUnmarked "1.0-20240102.030405-7" ∧ IsUnmarked "1.0SNAPSHOT" ∧
    ¬ IsUnmarked "1.0-SNAPSHOT" := by decide +kernel

/-- On all other versions they agree. -/
theorem endsAsSnapshot_eq (marked : ¬ IsUnmarked version) :
    endsAsSnapshot version = isSnapshot (base version) := by
  rw [isUnmarked_iff] at marked
  cases ends : endsAsSnapshot version with
  | true =>
    rw [isSnapshot_base, isSnapshot_of_ends version ends, Bool.or_true]
  | false =>
    cases snapshot : isSnapshot (base version) with
    | true => exact absurd ⟨snapshot, ends⟩ marked
    | false => rfl

end Version

/-- The repository of a project for snapshots or for releases. Releases and snapshots share one if
there is none for snapshots. -/
def Project.repositoryFor (project : Project) (snapshot : Bool) : Option Repository :=
  if snapshot then project.distributionSnapshotRepository <|> project.distributionRepository
  else project.distributionRepository

/-- The repository that a project is deployed to is chosen by the end of its version. -/
theorem Project.deploymentRepository_eq (project : Project) (version : String)
    (versioned : project.version = some version) :
    project.deploymentRepository = project.repositoryFor (Version.endsAsSnapshot version) := by
  rw [deploymentRepository, versioned]
  rfl

/-- Writing an attribute, or none, leaves every other attribute alone. -/
theorem Node.get?_set? (node : Node) (name other : String) (value : Option String)
    (different : other ≠ name) :
    (node.set? name value).attributes.get? other = node.attributes.get? other := by
  cases value with
  | none => rfl
  | some value => simp [set?, different]

namespace Element

/-- What is reported of a repository. -/
def repositoryDetails : Option Repository → List Node
  | none => []
  | some repository => [Node.text "id" repository.id, Node.text "url" repository.url]

/-- The element of a repository holds its details, and nothing if there is none. -/
theorem children_repository (given : Option Repository) :
    (repository given).children = repositoryDetails given := by
  cases given <;> rfl

/-- The element of an artifact says whether the artifact is a snapshot. -/
theorem snapshot_artifact (types : Option TypeRegistry) (name : String) (given : Artifact)
    (element : Node) (built : (artifact types name (some given)).outcome = .ok element) :
    element.attributes.get? "snapshot" = some (truth given.isSnapshot) := by
  obtain ⟨id, _, built⟩ := (Attempt.bind_eq_ok _ _ _).mp built
  cases built
  simp [identified, Node.get?_set?]

end Element

namespace Handler

variable (logger : Option String) (surroundings : Surroundings) (event : ExecutionEvent)

/-- The standard handler of deployments. -/
def deploying : Handler :=
  forGoal logger "DeployDeployExecutionHandler" deployGoal [] deploymentDetails

/-- It is one of the standard handlers. -/
theorem standard_deploying :
    standard? logger "DeployDeployExecutionHandler" = some (deploying logger) := by
  simp [standard?, standard, forKind, forGoal, silent, exchanging, reporting, deploying]

/-- The details of a deployment are the repository of a project that has a version. -/
theorem deploymentDetails_eq_ok (name : String) (project : Project) (details : List Node)
    (given : event.project = some project) :
    (deploymentDetails name surroundings event).outcome = .ok details ↔
      project.version.isSome = true ∧
        details = [Element.repository project.deploymentRepository] := by
  rw [deploymentDetails, given]
  dsimp only
  cases project.version with
  | none =>
    constructor
    · intro built
      cases built
    · rintro ⟨versioned, -⟩
      cases versioned
  | some version =>
    -- The debug record about a missing repository changes nothing about the outcome.
    have settled (repository : Option Repository) :
        (if repository.isNone = true then do
            Attempt.note (noRepository name event project)
            pure [Element.repository repository]
          else pure [Element.repository repository] : Attempt Fault (List Node)).outcome =
          .ok [Element.repository repository] := by
      cases repository <;> rfl
    constructor
    · intro built
      exact ⟨rfl, (Except.ok.inj ((settled _).symm.trans built)).symm⟩
    · rintro ⟨-, rfl⟩
      exact settled _

/-- The handler of deployments reports the successes of its goal. -/
theorem handle_deploying (node : Node) :
    ((deploying logger).handle surroundings (.execution event)).outcome = .ok (.reported node) ↔
      event.isSuccessOf deployGoal = true ∧
        (executionNode (loggerName logger "DeployDeployExecutionHandler") [] deploymentDetails
          surroundings event).outcome = .ok node := by
  rw [handle, deploying, accepts_forGoal]
  cases event.isSuccessOf deployGoal with
  | false => simp [Attempt.succeed, Reaction.declined]
  | true =>
    have processed : (reportExecution (loggerName logger "DeployDeployExecutionHandler") (some [])
        deploymentDetails surroundings (.execution event)).outcome = .ok (.reported node) ↔
          (executionNode (loggerName logger "DeployDeployExecutionHandler") [] deploymentDetails
            surroundings event).outcome = .ok node := by
      rw [reportExecution, Attempt.bind_eq_ok]
      simp
    rw [← processed]
    simp [forGoal, reporting]

/-- The node of an execution event stands exactly if the element of the project and the details
do. -/
theorem executionNode_eq_ok (name : String) (parameters : List String) (details : Details)
    (node : Node) :
    (executionNode name parameters details surroundings event).outcome = .ok node ↔
      ∃ project added,
        (Element.project surroundings.files name "project" event.project).outcome = .ok project ∧
        (details name surroundings event).outcome = .ok added ∧
        node = (executionHeader surroundings.time event).addAll
          ([project] ++ (event.mojoExecution.map (pluginElement parameters event)).toList ++
            added ++
            (event.exception.map fun thrown =>
              Element.exception "exception" (some thrown)).toList) := by
  simp only [executionNode, Attempt.bind_eq_ok, Attempt.pure_eq, Except.ok.injEq]
  constructor
  · rintro ⟨project, projected, added, detailed, same⟩
    exact ⟨project, added, projected, detailed, same.symm⟩
  · rintro ⟨project, added, projected, detailed, same⟩
    exact ⟨project, projected, added, detailed, same.symm⟩

/-- The node of a deployment has the element of the repository that the project is deployed to. -/
theorem child_deployed (project : Project) (node : Node) (given : event.project = some project)
    (reported : ((deploying logger).handle surroundings (.execution event)).outcome =
      .ok (.reported node)) :
    project.version.isSome = true ∧
      node.child? "artifactRepository" =
        some (Element.repository project.deploymentRepository) := by
  obtain ⟨-, built⟩ := (handle_deploying logger surroundings event node).mp reported
  obtain ⟨element, added, projected, detailed, rfl⟩ :=
    (executionNode_eq_ok surroundings event _ _ _ node).mp built
  obtain ⟨versioned, rfl⟩ :=
    (deploymentDetails_eq_ok surroundings event _ project added given).mp detailed
  have elementName : element.name = "project" := Element.name_project _ _ _ _ element projected
  have repositoryName (repository : Option Repository) :
      (Element.repository repository).name = "artifactRepository" := by
    cases repository <;> rfl
  refine ⟨versioned, ?_⟩
  cases event.mojoExecution with
  | none => simp [Node.child?, executionHeader, elementName, repositoryName]
  | some mojo =>
    have mojoName : (pluginElement [] event mojo).name = "plugin" := by
      simp [pluginElement, Element.mojo]
    simp [Node.child?, executionHeader, elementName, mojoName, repositoryName]

/-- The repository that a deployment is reported with is chosen by the end of the version. Where
the version is not unmarked, that is the choice for the artifact of this version, which is a
snapshot exactly if its element says so. The artifact of an unmarked version is a snapshot, but its
project is reported as deployed with the releases. -/
theorem deployment_reported (handler : Handler) (project : Project) (node : Node)
    (standing : standard? logger "DeployDeployExecutionHandler" = some handler)
    (given : event.project = some project)
    (reported : (handler.handle surroundings (.execution event)).outcome = .ok (.reported node)) :
    ∃ version element, project.version = some version ∧
      node.child? "artifactRepository" = some element ∧
      element.children =
        Element.repositoryDetails (project.repositoryFor (Version.endsAsSnapshot version)) ∧
      ∀ artifact : Artifact, Artifact.baseFor none project.version = .ok artifact.baseVersion →
        (∀ types name rendered,
          (Element.artifact types name (some artifact)).outcome = .ok rendered →
            rendered.attributes.get? "snapshot" = some (Element.truth artifact.isSnapshot)) ∧
        (¬ Version.IsUnmarked version →
          element.children = Element.repositoryDetails
            (project.repositoryFor artifact.isSnapshot)) ∧
        (Version.IsUnmarked version →
          artifact.isSnapshot = true ∧
            element.children = Element.repositoryDetails project.distributionRepository) := by
  rw [standard_deploying, Option.some.injEq] at standing
  subst standing
  obtain ⟨versioned, child⟩ := child_deployed logger surroundings event project node given reported
  obtain ⟨version, versioned⟩ := Option.isSome_iff_exists.mp versioned
  have chosen := project.deploymentRepository_eq version versioned
  refine ⟨version, _, versioned, child, ?_, ?_⟩
  · rw [Element.children_repository, chosen]
  · intro artifact based
    have snapshot : artifact.isSnapshot = Version.isSnapshot (Version.base version) := by
      rw [versioned] at based
      rw [Artifact.isSnapshot, ← Except.ok.inj based]
    refine ⟨fun types name rendered => Element.snapshot_artifact types name artifact rendered,
      ?_, ?_⟩
    · intro marked
      rw [Element.children_repository, chosen, snapshot, Version.endsAsSnapshot_eq version marked]
    · intro unmarked
      obtain ⟨isSnapshot, ends⟩ := (Version.isUnmarked_iff version).mp unmarked
      refine ⟨snapshot.trans isSnapshot, ?_⟩
      rw [Element.children_repository, chosen, ends]
      rfl

section Deployment

/-- The plugin goal that deploys a project. -/
def deployMojo : MojoExecution where
  groupId := some "org.apache.maven.plugins"
  artifactId := some "maven-deploy-plugin"
  version := some "3.1.1"
  goal := some "deploy"

variable (version : String)

/-- A project with a repository for releases and one for snapshots. -/
def deployed : Project where
  groupId := some "com.example"
  artifactId := some "lib"
  version := some version
  distributionRepository := some ⟨some "releases", some "https://repo/releases"⟩
  distributionSnapshotRepository := some ⟨some "snapshots", some "https://repo/snapshots"⟩

/-- The event that it was deployed. -/
def deployment : ExecutionEvent where
  kind := .mojoSucceeded
  isExecution := rfl
  project := some (deployed version)
  mojoExecution := some deployMojo

/-- The event is reported, whatever the version. -/
theorem reported_deployment :
    ∃ node, ((deploying none).handle surroundings (.execution (deployment version))).outcome =
      .ok (.reported node) := by
  have key : deployMojo.key = deployGoal := by decide +kernel
  have goal : (Event.execution (deployment version)).goal? = some deployGoal := by
    rw [← key]
    rfl
  have success : (deployment version).isSuccessOf deployGoal = true := by
    rw [ExecutionEvent.isSuccessOf, goal]
    rfl
  have details : (deploymentDetails (loggerName none "DeployDeployExecutionHandler") surroundings
      (deployment version)).outcome =
        .ok [Element.repository (deployed version).deploymentRepository] :=
    (deploymentDetails_eq_ok surroundings _ _ (deployed version) _ rfl).mpr ⟨rfl, rfl⟩
  have built := (executionNode_eq_ok surroundings (deployment version)
    (loggerName none "DeployDeployExecutionHandler") [] deploymentDetails _).mpr
      ⟨_, _, rfl, details, rfl⟩
  exact ⟨_, (handle_deploying none surroundings (deployment version) _).mpr ⟨success, built⟩⟩

end Deployment

/-- A version that ends in the word after a dash is deployed with the snapshots. -/
theorem deployment_reported_snapshot :
    let surroundings : Surroundings := ⟨"", {}, none, none⟩
    ∃ handler node element,
      standard? none "DeployDeployExecutionHandler" = some handler ∧
      (handler.handle surroundings (.execution (deployment "1.0-SNAPSHOT"))).outcome =
        .ok (.reported node) ∧
      node.child? "artifactRepository" = some element ∧
      element.children =
        [Node.text "id" (some "snapshots"), Node.text "url" (some "https://repo/snapshots")] := by
  intro surroundings
  obtain ⟨node, reported⟩ := reported_deployment surroundings "1.0-SNAPSHOT"
  obtain ⟨version, element, versioned, child, details, -⟩ :=
    deployment_reported none surroundings (deployment "1.0-SNAPSHOT") (deploying none)
      (deployed "1.0-SNAPSHOT") node (standard_deploying none) rfl reported
  refine ⟨deploying none, node, element, standard_deploying none, reported, child, ?_⟩
  obtain rfl : "1.0-SNAPSHOT" = version := Option.some.inj versioned
  have ends : Version.endsAsSnapshot "1.0-SNAPSHOT" = true := by decide
  rw [details, ends]
  rfl

/-- The artifact of an uploaded snapshot is a snapshot and there is a repository for snapshots, but
the project is reported as deployed with the releases. -/
theorem deployment_uploaded :
    let project := deployed "1.0-20240102.030405-7"
    ∃ handler node element,
      standard? none "DeployDeployExecutionHandler" = some handler ∧
      (handler.handle ⟨"", {}, none, none⟩
        (.execution (deployment "1.0-20240102.030405-7"))).outcome = .ok (.reported node) ∧
      node.child? "artifactRepository" = some element ∧
      (∃ artifact : Artifact,
        Artifact.baseFor none project.version = .ok artifact.baseVersion ∧
        artifact.isSnapshot = true) ∧
      ∃ snapshots, project.distributionSnapshotRepository = some snapshots ∧
        element.children ≠ Element.repositoryDetails (some snapshots) ∧
        element.children = Element.repositoryDetails project.distributionRepository := by
  intro project
  obtain ⟨node, reported⟩ := reported_deployment ⟨"", {}, none, none⟩ "1.0-20240102.030405-7"
  obtain ⟨-, child⟩ := child_deployed none ⟨"", {}, none, none⟩
    (deployment "1.0-20240102.030405-7") project node rfl reported
  have chosen : project.deploymentRepository = project.distributionRepository := by
    have ends : Version.endsAsSnapshot "1.0-20240102.030405-7" = false := by decide
    rw [project.deploymentRepository_eq _ rfl, ends]
    rfl
  have base : Version.base "1.0-20240102.030405-7" = "1.0-SNAPSHOT" := by decide +kernel
  refine ⟨deploying none, node, _, standard_deploying none, reported, child, ?_, _, rfl, ?_, ?_⟩
  · refine ⟨⟨some "com.example", some "lib", project.version, none, none, none, none,
      "1.0-SNAPSHOT"⟩, congrArg Except.ok base, ?_⟩
    decide
  · rw [Element.children_repository, chosen]
    simp [Element.repositoryDetails, project, deployed, Node.text]
  · rw [Element.children_repository, chosen]

end Handler

end BuildChronicle
