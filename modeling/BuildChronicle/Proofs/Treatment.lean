import BuildChronicle.Handler.Standard
import BuildChronicle.Proofs.Dispatch

/-!
# What becomes of an event

With the standard handlers registered, an event is left alone, consumed silently, or reported
as one node. Which of these it is, and how the node is built, is read off the event here,
without handlers, goals declared by handlers or shelves. The main statement says that the
dispatcher with the standard handlers treats every event in this way.

Whatever is no real event is left alone, whichever kind it claims to have. So are the
execution events of all kinds but seven, of which one, the end of the session, is consumed.
-/

namespace BuildChronicle

/-- How an event is treated. -/
inductive Treatment where
  /-- It is left alone. -/
  | declined
  /-- It is dealt with silently. -/
  | consumed
  /-- It is reported, if its node can be built. -/
  | reported (building : Attempt Fault Node)

/-- The attempt that a treatment amounts to. -/
def Treatment.attempt : Treatment → Attempt Fault Reaction
  | declined => Attempt.succeed Reaction.declined
  | consumed => Attempt.succeed Reaction.consumed
  | reported building => do return .reported (← building)

/-- The finished node, where an event is reported and its node can be built. -/
def Treatment.node? : Treatment → Option Node
  | declined | consumed => none
  | reported building => building.outcome.toOption

/-- The finished node is what building it ends with. -/
theorem Treatment.outcome_of_finished (building : Attempt Fault Node) (node : Node)
    (finished : (reported building).node? = some node) : building.outcome = .ok node := by
  cases built : building.outcome with
  | error fault => simp [node?, built, Except.toOption] at finished
  | ok other =>
    simp only [node?, built, Except.toOption, Option.some.injEq] at finished
    rw [finished]

/-- Reporting succeeds with the finished node, and fails as building it does. -/
theorem Treatment.outcome_reported (building : Attempt Fault Node) :
    (reported building).attempt.outcome = building.outcome.map Reaction.reported := by
  cases built : building.outcome <;>
    simp [attempt, bind, Attempt.andThen, built, Except.map]

/-- The kinds of execution events that are reported. -/
def Kind.boundaryKinds : List Kind :=
  [.projectStarted, .projectSucceeded, .projectFailed, .mojoStarted, .mojoSucceeded, .mojoFailed]

/-- The kinds of real events that are reported. -/
def Kind.reportedKinds : List Kind :=
  boundaryKinds ++ [.executionRequest, .executionResult, .dependencyResolutionResult]

namespace ExecutionEvent

/-- Did this plugin goal succeed? -/
def isSuccessOf (goal : String) (event : ExecutionEvent) : Bool :=
  event.kind == .mojoSucceeded && (Event.execution event).goal? == some goal

/-- The name of the standard handler of an execution event that is reported. -/
def handlerName (event : ExecutionEvent) : String :=
  if event.isSuccessOf Handler.unitTestGoal then "SurefireTestExecutionHandler"
  else if event.isSuccessOf Handler.integrationTestGoal then "FailsafeTestExecutionHandler"
  else if event.isSuccessOf Handler.deployGoal then "DeployDeployExecutionHandler"
  else event.kind.text ++ "ExecutionHandler"

/-- The parameters of its plugin goal that are reported: those of the goals that run tests. -/
def reportedParameters (event : ExecutionEvent) : List String :=
  if event.isSuccessOf Handler.unitTestGoal || event.isSuccessOf Handler.integrationTestGoal then
    [Handler.reportsDirectory]
  else []

/-- The details that are reported: the artifacts of a project that was built, or the
repository that one was deployed to. -/
def reportedDetails (event : ExecutionEvent) : Handler.Details :=
  if event.kind = .projectSucceeded then Handler.artifactDetails
  else if event.isSuccessOf Handler.deployGoal then Handler.deploymentDetails
  else Handler.noDetails

/-- The building of the node that reports an execution event. -/
def building (surroundings : Surroundings) (event : ExecutionEvent) : Attempt Fault Node :=
  Handler.executionNode (Handler.loggerName none event.handlerName) event.reportedParameters
    event.reportedDetails surroundings event

/-- How an execution event is treated. -/
def treatment (surroundings : Surroundings) (event : ExecutionEvent) : Treatment :=
  if event.kind ∈ Kind.boundaryKinds then .reported (event.building surroundings)
  else if event.kind = .sessionEnded then .consumed
  else .declined

end ExecutionEvent

/-- How an event is treated. -/
def Event.treatment (surroundings : Surroundings) : Event → Treatment
  | .execution event => event.treatment surroundings
  | .request asked => .reported (Handler.requestNode surroundings asked)
  | .result project exceptions =>
    .reported (Handler.resultNode
      (Handler.loggerName none "MavenExecutionResultHandler") surroundings project exceptions)
  | .resolutionRequest _ => .consumed
  | .resolutionResult resolved errors =>
    .reported (Handler.resolutionNode
      (Handler.loggerName none "DependencyResolutionResultHandler") surroundings resolved errors)
  | .lookalike _ _ _ | .text _ | .nothing => .declined

namespace Handler

/-- A handler with its number at a desk. -/
def withSerial (serial : Nat) (handler : Handler) : Handler := { handler with serial }

@[simp] theorem accepts_withSerial (serial : Nat) (handler : Handler) (event : Event) :
    (handler.withSerial serial).accepts event = handler.accepts event := rfl

@[simp] theorem process_withSerial (serial : Nat) (handler : Handler) :
    (handler.withSerial serial).process = handler.process := rfl

/-- Handlers with their numbers, counted from the given one on. -/
def numbered (first : Nat) : List Handler → List Handler
  | [] => []
  | handler :: rest => handler.withSerial first :: numbered (first + 1) rest

/-- The standard handlers as they are enlisted at a new desk. -/
def enlistedStandard : List Handler := numbered 0 (standard none)

/-- A reporting handler for all goals accepts the execution events of its kind. -/
theorem accepts_forKind (logger : Option String) (name : String) (kind : Kind)
    (details : Details) (event : ExecutionEvent) :
    (forKind logger name kind details).accepts (.execution event) = .ok (kind == event.kind) :=
  Dispatcher.accepts_general (.execution event) (forKind logger name kind details) rfl

/-- A handler of a goal accepts exactly the successes of that goal. -/
theorem accepts_forGoal (logger : Option String) (name goal : String) (parameters : List String)
    (details : Details) (event : ExecutionEvent) :
    (forGoal logger name goal parameters details).accepts (.execution event) =
      .ok (event.isSuccessOf goal) := by
  have fits : (forGoal logger name goal parameters details).fitsKind (.execution event) =
      (event.kind == .mojoSucceeded) := Bool.beq_comm
  rw [Dispatcher.accepts_qualified (.execution event)
    (forGoal logger name goal parameters details) goal (fun _ => ⟨some parameters, rfl⟩) rfl
    event.mojoExecution rfl, fits, ExecutionEvent.isSuccessOf]

/-- A handler does not accept what does not belong to its class. -/
theorem accepts_uncovered (handler : Handler) (event : Event) (covers : Event → Bool)
    (payload : handler.payload = some covers) (uncovered : covers event = false) :
    handler.accepts event = .ok false := by
  have unfit : handler.fitsKind event = false := by
    cases ofKind : event.kind? <;> simp [fitsKind, payload, ofKind, uncovered]
  simp [accepts, unfit]

/-- No standard handler accepts what is no real event. -/
theorem accepts_unreal (event : Event) (unreal : event.eventClass? = none) :
    ∀ handler ∈ enlistedStandard, handler.accepts event = .ok false := by
  have uncovered (eventClass : EventClass) : eventClass.covers event = false := by
    simp [EventClass.covers, unreal]
  intro handler member
  simp only [enlistedStandard, numbered, standard, List.mem_cons, List.not_mem_nil,
    or_false] at member
  rcases member with rfl | rfl | rfl | rfl | rfl | rfl | rfl | rfl | rfl | rfl | rfl | rfl |
    rfl | rfl <;> exact accepts_uncovered _ event _ rfl (uncovered _)

end Handler

namespace Dispatcher

open Handler

/-- All standard handlers are well-formed. -/
theorem wellFormed_standard : ∀ handler ∈ enlistedStandard, handler.WellFormed := by decide

/-- No two standard handlers have the same key. -/
theorem distinct_standard : (enlistedStandard.map Handler.key?).Nodup := by decide

/-- The shelf for the successes of plugin goals: three goals, then all others. -/
theorem arranged_success : arranged .mojoSucceeded enlistedStandard = [
    (forGoal none "SurefireTestExecutionHandler" unitTestGoal [reportsDirectory]
      noDetails).withSerial 7,
    (forGoal none "FailsafeTestExecutionHandler" integrationTestGoal [reportsDirectory]
      noDetails).withSerial 8,
    (forGoal none "DeployDeployExecutionHandler" deployGoal [] deploymentDetails).withSerial 9,
    (forKind none "MojoSucceededExecutionHandler" .mojoSucceeded noDetails).withSerial 5] := rfl

section Offering

variable (surroundings : Surroundings) (event : Event)

/-- A handler that reports ends the dispatch, whether or not the node can be built. -/
theorem offer_reported (handler : Handler) (rest : List Handler)
    (building : Attempt Fault Node) (accepted : handler.accepts event = .ok true)
    (processed : handler.process surroundings event = (Treatment.reported building).attempt) :
    (offer surroundings event (handler :: rest)).attempt =
      (Treatment.reported building).attempt := by
  rw [offer_last surroundings event handler rest accepted, processed]
  rw [Handler.isLast, processed, Treatment.outcome_reported]
  cases building.outcome <;> rfl

end Offering

section Standard

variable (surroundings : Surroundings) (event : ExecutionEvent)

/-- An event is the success of one goal at most. -/
theorem isSuccessOf_other (goal other : String) (different : goal ≠ other)
    (success : event.isSuccessOf goal = true) : event.isSuccessOf other = false := by
  simp only [ExecutionEvent.isSuccessOf, Bool.and_eq_true, beq_iff_eq] at success
  simp [ExecutionEvent.isSuccessOf, success, different]

/-- The success of a plugin goal is reported by the handler of that goal if there is one, and
else by the one for all goals. -/
theorem offer_success (succeeded : event.kind = .mojoSucceeded) :
    (offer surroundings (.execution event) (arranged .mojoSucceeded enlistedStandard)).attempt =
      (Treatment.reported (event.building surroundings)).attempt := by
  rw [arranged_success]
  cases unit : event.isSuccessOf unitTestGoal with
  | true =>
    have noDeployment := isSuccessOf_other event _ deployGoal (by decide) unit
    apply offer_reported
    · rw [accepts_withSerial, accepts_forGoal, unit]
    · simp [ExecutionEvent.building, ExecutionEvent.handlerName,
        ExecutionEvent.reportedParameters, ExecutionEvent.reportedDetails, unit, noDeployment,
        succeeded, Treatment.attempt, forGoal, reporting, reportExecution]
  | false =>
    rw [offer_declined _ _ _ _ (by rw [accepts_withSerial, accepts_forGoal, unit])]
    cases integration : event.isSuccessOf integrationTestGoal with
    | true =>
      have noDeployment := isSuccessOf_other event _ deployGoal (by decide) integration
      apply offer_reported
      · rw [accepts_withSerial, accepts_forGoal, integration]
      · simp [ExecutionEvent.building, ExecutionEvent.handlerName,
          ExecutionEvent.reportedParameters, ExecutionEvent.reportedDetails, unit, integration,
          noDeployment, succeeded, Treatment.attempt, forGoal, reporting, reportExecution]
    | false =>
      rw [offer_declined _ _ _ _ (by rw [accepts_withSerial, accepts_forGoal, integration])]
      cases deployment : event.isSuccessOf deployGoal with
      | true =>
        apply offer_reported
        · rw [accepts_withSerial, accepts_forGoal, deployment]
        · simp [ExecutionEvent.building, ExecutionEvent.handlerName,
            ExecutionEvent.reportedParameters, ExecutionEvent.reportedDetails, unit, integration,
            deployment, succeeded, Treatment.attempt, forGoal, reporting, reportExecution]
      | false =>
        rw [offer_declined _ _ _ _ (by rw [accepts_withSerial, accepts_forGoal, deployment])]
        apply offer_reported
        · rw [accepts_withSerial, accepts_forKind, succeeded]
          rfl
        · simp [ExecutionEvent.building, ExecutionEvent.handlerName,
            ExecutionEvent.reportedParameters, ExecutionEvent.reportedDetails, unit, integration,
            deployment, succeeded, Treatment.attempt, forKind, reporting, reportExecution]
          rfl

/-- Execution events are treated by the standard handlers as their kind and goal tell. The
cases are the kinds: one without a shelf, one with a single handler for all goals, or the one
that three goals are singled out of. -/
theorem offer_execution :
    (offer surroundings (.execution event) (arranged event.kind enlistedStandard)).attempt =
      (event.treatment surroundings).attempt := by
  obtain ⟨kind, isExecution, project, mojo, exception⟩ := event
  cases kind with
  | projectDiscoveryStarted | sessionStarted | projectSkipped | mojoSkipped | forkStarted
  | forkSucceeded | forkFailed | forkedProjectStarted | forkedProjectSucceeded
  | forkedProjectFailed => rfl
  | sessionEnded => rfl
  | projectStarted => exact offer_reported _ _ _ [] _ rfl rfl
  | projectSucceeded => exact offer_reported _ _ _ [] _ rfl rfl
  | projectFailed => exact offer_reported _ _ _ [] _ rfl rfl
  | mojoStarted => exact offer_reported _ _ _ [] _ rfl rfl
  | mojoFailed => exact offer_reported _ _ _ [] _ rfl rfl
  | mojoSucceeded => exact offer_success surroundings _ rfl
  | executionRequest | executionResult | dependencyResolutionRequest
  | dependencyResolutionResult => cases isExecution

end Standard

/-- The dispatcher with the standard handlers treats every event in the way that can be read
off it. -/
theorem dispatch_standard (dispatcher : Dispatcher) (surroundings : Surroundings)
    (event : Event) (shelves : dispatcher.Shelves enlistedStandard) :
    (dispatcher.dispatch surroundings event).attempt = (event.treatment surroundings).attempt := by
  have offered (kind : Kind) (ofKind : event.kind? = some kind) :
      dispatcher.dispatch surroundings event =
        offer surroundings event (arranged kind enlistedStandard) := by
    rw [dispatch, ofKind, ← shelves kind]
  cases event with
  | execution boundary =>
    rw [offered boundary.kind rfl]
    exact offer_execution surroundings boundary
  | request asked =>
    rw [offered .executionRequest rfl]
    exact offer_reported _ _ _ [] _ rfl rfl
  | result project exceptions =>
    rw [offered .executionResult rfl]
    exact offer_reported _ _ _ [] _ rfl rfl
  | resolutionRequest project =>
    rw [offered .dependencyResolutionRequest rfl]
    rfl
  | resolutionResult resolved errors =>
    rw [offered .dependencyResolutionResult rfl]
    exact offer_reported _ _ _ [] _ rfl rfl
  | lookalike claimed project mojo =>
    cases ofKind : Event.kind? (.lookalike claimed project mojo) with
    | none => rw [dispatch, ofKind]; rfl
    | some kind =>
      rw [offered kind ofKind, offer_unaccepted]
      · rfl
      · intro handler member
        exact accepts_unreal _ rfl handler ((mem_arranged kind _ handler).mp member).1
  | text content => rfl
  | nothing => rfl

end Dispatcher

end BuildChronicle
