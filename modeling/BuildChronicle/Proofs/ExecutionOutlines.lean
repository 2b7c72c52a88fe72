import BuildChronicle.Proofs.Completeness
import BuildChronicle.Proofs.DeploymentTarget
import BuildChronicle.Proofs.GivenLoggers

/-!
# Outlines of reported execution events

What stands below the node of an execution event is told by the event alone: by its kind, by
whether it comes with a project, a plugin goal and an exception, and by which goal that is. Below
the element of the plugin goal there is at most one child, the evaluated directory of test reports,
and that only if one of the two goals that run tests succeeded. A configuration may have the
parameter more than once; it is the first that counts.
-/

namespace BuildChronicle

namespace Node

variable (name : String) (parent child : Node)

/-- The first child of a name: no child in front of it has this name. -/
structure IsFirst : Prop where
  /-- It has the name. -/
  named : child.name = name
  /-- It is a child, and none in front of it has the name. -/
  stands : ∃ before after, parent.children = before ++ child :: after ∧
    ∀ earlier ∈ before, earlier.name ≠ name

/-- Looking for a child of a name finds the first one. -/
theorem child?_eq_some_iff : parent.child? name = some child ↔ IsFirst name parent child := by
  simp only [child?, List.find?_eq_some_iff_append, beq_iff_eq, Bool.not_eq_true',
    beq_eq_false_iff_ne]
  constructor
  · rintro ⟨named, stands⟩
    exact ⟨named, stands⟩
  · rintro ⟨named, stands⟩
    exact ⟨named, stands⟩

/-- Looking for a child of a name finds nothing exactly if there is none. -/
theorem child?_eq_none_iff :
    parent.child? name = none ↔ ∀ child ∈ parent.children, child.name ≠ name := by
  simp [child?]

end Node

namespace ExecutionEvent

variable (event : ExecutionEvent) (mojo : MojoExecution)

/-- The names of the children that report the event, in their order. -/
def childNames : List String :=
  ["project"] ++
    (if event.mojoExecution.isSome then ["plugin"] else []) ++
    (if event.kind = .projectSucceeded ∧ event.project.isSome then
      ["artifact", "attachedArtifacts"] else []) ++
    (if event.kind = .mojoSucceeded ∧
        event.mojoExecution.map MojoExecution.key = some Handler.deployGoal then
      ["artifactRepository"] else []) ++
    (if event.exception.isSome then ["exception"] else [])

/-- One of the goals that run tests succeeded. -/
def RanTests : Prop :=
  event.kind = .mojoSucceeded ∧
    (mojo.key = Handler.unitTestGoal ∨ mojo.key = Handler.integrationTestGoal)

/-- What stands below the element of the plugin goal of an event. -/
structure Describes (plugin : Node) : Prop where
  /-- Nothing, unless tests were run. -/
  untested : ¬ event.RanTests mojo → plugin.children = []
  /-- Nothing, if the directory of their reports is not configured. -/
  unconfigured : (∀ configuration ∈ mojo.configuration, ∀ child ∈ configuration.children,
    child.name ≠ Handler.reportsDirectory) → plugin.children = []
  /-- The first such parameter, evaluated for the project of the event. -/
  configured : event.RanTests mojo → ∀ configuration ∈ mojo.configuration, ∀ parameter,
    Node.IsFirst Handler.reportsDirectory configuration parameter →
      plugin.children = [Expression.evaluateConfiguration parameter event.project]

/-- An event with this plugin goal is the success of a goal exactly if that is its key. -/
theorem isSuccessOf_iff (goal : String) (given : event.mojoExecution = some mojo) :
    event.isSuccessOf goal = true ↔ event.kind = .mojoSucceeded ∧ mojo.key = goal := by
  simp [isSuccessOf, Event.goal?_execution, given]

/-- Parameters are reported exactly if tests were run, and then it is the directory of their
reports. -/
theorem reportedParameters_cases (given : event.mojoExecution = some mojo) :
    (event.RanTests mojo ∧ event.reportedParameters = [Handler.reportsDirectory]) ∨
      (¬ event.RanTests mojo ∧ event.reportedParameters = []) := by
  have tested : event.RanTests mojo ↔
      (event.isSuccessOf Handler.unitTestGoal ||
        event.isSuccessOf Handler.integrationTestGoal) = true := by
    rw [RanTests, Bool.or_eq_true, event.isSuccessOf_iff mojo _ given,
      event.isSuccessOf_iff mojo _ given, and_or_left]
  rw [reportedParameters]
  split
  · rename_i ran
    exact .inl ⟨tested.mpr ran, rfl⟩
  · rename_i ran
    exact .inr ⟨fun otherwise => ran (tested.mp otherwise), rfl⟩

/-- What is reported of a plugin goal is what should stand below its element. -/
theorem describes_pluginElement (given : event.mojoExecution = some mojo) :
    event.Describes mojo (Handler.pluginElement event.reportedParameters event mojo) := by
  have below (parameters : List String) :
      (Handler.pluginElement parameters event mojo).children =
        Element.parameters parameters event.project mojo := by
    simp [Handler.pluginElement, Element.mojo]
  rcases event.reportedParameters_cases mojo given with ⟨ran, parameters⟩ | ⟨ran, parameters⟩
  · rw [parameters]
    refine ⟨fun otherwise => absurd ran otherwise, ?_, ?_⟩
    · intro unconfigured
      have missing : (mojo.configuration.bind (·.child? Handler.reportsDirectory)) = none := by
        rw [Option.bind_eq_none_iff]
        intro configuration isGiven
        exact (Node.child?_eq_none_iff _ configuration).mpr (unconfigured configuration isGiven)
      rw [below, Element.parameters, List.filterMap_cons, missing]
      rfl
    · intro _ configuration isGiven parameter first
      have found : mojo.configuration.bind (·.child? Handler.reportsDirectory) =
          some parameter := by
        rw [isGiven]
        exact (Node.child?_eq_some_iff _ configuration parameter).mpr first
      rw [below, Element.parameters, List.filterMap_cons, found]
      rfl
  · rw [parameters]
    exact ⟨fun _ => below [], fun _ => below [], fun otherwise => absurd otherwise ran⟩

/-- The outline of a complete node names the children in their order. -/
theorem outline_eq (known : Option Project) :
    (Event.execution event).outline known = event.childNames := by
  have success : (event.kind = .mojoSucceeded ∧
        event.mojoExecution.map MojoExecution.key = some Handler.deployGoal) ↔
      event.isSuccessOf Handler.deployGoal = true := by
    simp [isSuccessOf, Event.goal?_execution]
  simp only [Event.outline, childNames, detailNames, success]
  by_cases succeeded : event.kind = .projectSucceeded
  · have other : event.isSuccessOf Handler.deployGoal = false := by
      simp [isSuccessOf, succeeded]
    cases event.mojoExecution <;> cases event.project <;> cases event.exception <;>
      simp [succeeded, other]
  · cases event.mojoExecution <;> cases event.exception <;> simp [succeeded]

end ExecutionEvent

namespace Desk

variable (desk : Desk) (report : Report) (time : String) (files : FileSystem)
  (event : ExecutionEvent)

/-- Exactly the execution events of some kinds are reported, each as the node that is built for
it. -/
theorem reports_execution_iff (logger : Option String) (node : Node)
    (standing : desk.dispatcher = Dispatcher.standard logger) :
    desk.Reports report time files (.execution event) node ↔
      report.isClosed = false ∧ event.kind ∈ Kind.boundaryKinds ∧
        (event.building (desk.surroundings time files)).outcome = .ok node := by
  rw [desk.reports_iff report time files _ logger node standing, Event.treatment,
    ExecutionEvent.treatment]
  by_cases boundary : event.kind ∈ Kind.boundaryKinds
  · simp [boundary, Treatment.node?_reported_iff]
  · have unfinished : (if event.kind = .sessionEnded then Treatment.consumed
        else .declined).node? = none := by
      split <;> rfl
    simp [boundary, unfinished]

/-- The node of an execution event that the standard handlers report has these children, in this
order and no others: the project; the plugin goal, if there is one; the artifacts of a project that
succeeded; the repository that a project was deployed to; and the exception, if there is one. Below
the plugin goal there is nothing but the evaluated directory of test reports, where tests were run
and the directory is configured. -/
theorem reported_execution (logger : Option String) (node : Node)
    (standing : desk.dispatcher = Dispatcher.standard logger)
    (reports : desk.Reports report time files (.execution event) node) :
    node.name = "ExecutionEvent" ∧
      node.children.map Node.name = event.childNames ∧
      ∀ mojo, event.mojoExecution = some mojo →
        ∃ project plugin rest, node.children = project :: plugin :: rest ∧
          event.Describes mojo plugin := by
  obtain ⟨-, -, built⟩ :=
    (desk.reports_execution_iff report time files event logger node standing).mp reports
  have complete := complete_execution (desk.surroundings time files) event node built
  refine ⟨complete.name, complete.outline.trans (event.outline_eq _), ?_⟩
  intro mojo given
  obtain ⟨project, added, -, -, rfl⟩ :=
    (Handler.executionNode_eq_ok (desk.surroundings time files) event _ _ _ node).mp built
  have standsSecond : ∃ rest, ([project] ++
      (event.mojoExecution.map (Handler.pluginElement event.reportedParameters event)).toList ++
      added ++ (event.exception.map fun thrown =>
        Element.exception "exception" (some thrown)).toList) =
      project :: Handler.pluginElement event.reportedParameters event mojo :: rest := by
    rw [given]
    exact ⟨_, rfl⟩
  obtain ⟨rest, children⟩ := standsSecond
  exact ⟨project, _, rest, children, event.describes_pluginElement mojo given⟩

/-- A plugin goal that runs tests, with two directories for their reports. -/
def testMojo : MojoExecution where
  groupId := some "org.apache.maven.plugins"
  artifactId := some "maven-surefire-plugin"
  version := some "3.1.2"
  goal := some "test"
  configuration := some ((Node.leaf "configuration").addAll
    [Node.text "skip" (some "false"),
     Node.text "reportsDirectory" (some "target/${project.artifactId}"),
     Node.text "reportsDirectory" (some "target/others")])

/-- The success of a plugin goal marks a boundary. -/
theorem isExecution_mojoSucceeded : Kind.mojoSucceeded.isExecution = true := rfl

/-- The event that it succeeded. -/
def testRun : ExecutionEvent where
  kind := .mojoSucceeded
  isExecution := isExecution_mojoSucceeded
  project := some { groupId := some "org.example", artifactId := some "demo", version := some "1" }
  mojoExecution := some testMojo

/-- Of two directories for test reports the first one is reported, for the project at hand. -/
theorem reported_execution_tests :
    let desk := (Session.newDesk TypeRegistry.stock).1
    ∃ node project plugin, desk.Reports (Report.openAt "") "" {} (.execution testRun) node ∧
      node.children = [project, plugin] ∧
      plugin.children.map Node.value = [some "target/demo"] := by
  intro desk
  have standing := Dispatcher.dispatcher_newDesk TypeRegistry.stock
  have key : testMojo.key = Handler.unitTestGoal := by decide +kernel
  have noDeployment : testRun.isSuccessOf Handler.deployGoal = false := by
    apply Dispatcher.isSuccessOf_other testRun Handler.unitTestGoal _ (by decide)
    exact (testRun.isSuccessOf_iff testMojo _ rfl).mpr ⟨rfl, key⟩
  have details (logger : String) (surroundings : Surroundings) :
      (testRun.reportedDetails logger surroundings testRun).outcome = .ok [] := by
    rw [ExecutionEvent.reportedDetails, if_neg (by decide), noDeployment]
    rfl
  have built := (Handler.executionNode_eq_ok (desk.surroundings "" {}) testRun
    (Handler.loggerName none testRun.handlerName) testRun.reportedParameters
    testRun.reportedDetails _).mpr ⟨_, [], rfl, details _ _, rfl⟩
  have reports := (desk.reports_execution_iff (Report.openAt "") "" {} testRun none _ standing).mpr
    ⟨rfl, by decide, built⟩
  obtain ⟨_, names, plugins⟩ :=
    desk.reported_execution (Report.openAt "") "" {} testRun none _ standing reports
  obtain ⟨project, plugin, rest, children, described⟩ := plugins testMojo rfl
  have ran : testRun.RanTests testMojo := ⟨rfl, .inl key⟩
  have evaluated := described.configured ran _ rfl _
    ⟨rfl, [Node.text "skip" (some "false")], [Node.text "reportsDirectory" (some "target/others")],
      rfl, by simp [Node.text, Node.name, Handler.reportsDirectory]⟩
  have expected : testRun.childNames = ["project", "plugin"] := by decide +kernel
  rw [children, expected] at names
  obtain ⟨-, -, rfl⟩ : project.name = "project" ∧ plugin.name = "plugin" ∧ rest = [] := by
    simpa using names
  refine ⟨_, project, plugin, reports, children, ?_⟩
  rw [evaluated]
  decide +kernel

end Desk

end BuildChronicle
