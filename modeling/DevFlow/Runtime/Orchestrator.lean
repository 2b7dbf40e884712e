/-
# The single-task orchestrator

`runtime/orchestrator.py`: `SingleTaskOrchestrator.run`, with what it uses of
`runtime/state_machine.py`, `runtime/failure_classifier.py` and
`agents/reviewer.py`.

The agents and the verifier answer as they like: each is a function of
everything that has happened in the session, and may leave other files behind.
The session keeps what was called, in order.  The loop of `run` ends because
each further verification is paid by a repair attempt: `repairLoop` recurses on
the attempts that are left.
-/

import DevFlow.Library.Durable
import DevFlow.Models.Checkpoint
import DevFlow.Models.Dag
import DevFlow.Models.Integration
import DevFlow.Workspace.Worktree

namespace DevFlow

open Durable (Prog)

/-- `FailureType`. -/
inductive FailureType
  | modelTimeout
  | agentTimeLimit
  | rateLimit
  | invalidAgentOutput
  | invalidToolArguments
  | providerRequestRejected
  | toolFailure
  | scopeViolation
  | testFailure
  | lintFailure
  | reviewRejected
  | contextOverflow
  | mergeConflict
  | sandboxTimeout
  | verificationEnvUnavailable
  | tokenBudgetExhausted
  | workPackageBudgetAllocationBlocked
  | interfaceContractUnmet
deriving DecidableEq, Repr

/-- `FailureReport`, without the source and the evidence lines. -/
structure FailureReport where
  failureType : FailureType
  message : String
  retryable : Bool
deriving DecidableEq, Repr

/-- `CheckResult`: one check of the hard gate. -/
structure CheckResult where
  name : String
  passed : Bool
  failureType : Option FailureType
  /-- What `stderr` says is missing, of the two texts that are looked for. -/
  missing : Option String := none
deriving DecidableEq, Repr

/-- `_failure_message`. -/
def CheckResult.failureMessage (check : CheckResult) : FailureType → String
  | .scopeViolation =>
    if check.name = "git_scope_post_verification" then
      "Verification commands produced out-of-scope repository changes."
    else "Git scope integrity check failed before deterministic verification."
  | .testFailure =>
    if check.name = "custom" then "Deterministic custom verification failed."
    else "Deterministic pytest verification failed."
  | .lintFailure => "Deterministic Ruff verification failed."
  | .sandboxTimeout => "Docker verification sandbox exceeded its execution deadline."
  | .verificationEnvUnavailable =>
    if check.missing = some "Node.js" then "验证环境缺少 Node.js，无法执行当前 JavaScript 验证命令。"
    else if check.missing = some "Python" then "验证环境缺少 Python，无法执行当前验证命令。"
    else "验证环境不可用，无法安全执行当前验证命令。"
  | _ => "Deterministic verification could not complete safely."

/-- `VerificationResult` of the hard gate, by its checks. -/
structure HardGateResult where
  checks : List CheckResult
deriving DecidableEq, Repr

/-- `passed`, which must match all check results. -/
def HardGateResult.passed (result : HardGateResult) : Bool :=
  result.checks.all CheckResult.passed

/-- `DeterministicVerifier.failure_reports`. -/
def HardGateResult.failureReports (result : HardGateResult) : List FailureReport :=
  result.checks.filterMap fun check =>
    match check.passed, check.failureType with
    | false, some failureType => some
        { failureType
          message := check.failureMessage failureType
          retryable := failureType = .testFailure ∨ failureType = .lintFailure }
    | _, _ => none

/-- `ReviewOutcome`. -/
inductive ReviewOutcome
  | pass
  | changesRequested
deriving DecidableEq, Repr

/-- `ReviewDecision`, without its issues. -/
structure ReviewDecision where
  decision : ReviewOutcome
  summary : String
deriving DecidableEq, Repr

/-- `RepairStopReason`. -/
inductive RepairStopReason
  | modelStop
  | noProgress
  | explicitBlocker
  | iterationLimit
  | timeLimit
  | toolCallLimit
deriving DecidableEq, Repr

/-- `RepairRunResult`, with `progress.has_patch`. -/
structure RepairRunResult where
  attempt : ℕ
  stopReason : RepairStopReason
  hasPatch : Bool
deriving DecidableEq, Repr

/-- What the runtime uses of a `TaskContract`. -/
structure TaskWork where
  taskId : String
  maxRetries : ℕ
deriving DecidableEq, Repr

/-- A call of an agent or of the verifier; the verifier's with the files it saw. -/
inductive Action
  | developer
  | verify (files : Tree)
  | review
  | repair (attempt : ℕ)
deriving DecidableEq, Repr

/-- The variables of `run`, with the worktree and the calls so far. -/
structure TaskSession where
  workspace : TaskWorkspace
  actions : List Action
  /-- `machine.events`, oldest first. -/
  events : List TaskRunState
  developer : Option DeveloperRunResult
  verifications : List HardGateResult
  reviews : List ReviewDecision
  repairs : List RepairRunResult
  /-- `_latest_context_packet`, by the head it was built at. -/
  packet : Option String
deriving DecidableEq

/-- The session of a new run. -/
def TaskSession.start (workspace : TaskWorkspace) : TaskSession :=
  ⟨workspace, [], [.pending], none, [], [], [], none⟩

/-- `machine.state`. -/
def TaskSession.state (session : TaskSession) : TaskRunState :=
  session.events.getLastD .pending

/-- The value of the enumeration member. -/
def TaskRunState.value : TaskRunState → String
  | .pending => "PENDING"
  | .running => "RUNNING"
  | .verifying => "VERIFYING"
  | .reviewing => "REVIEWING"
  | .repairing => "REPAIRING"
  | .succeeded => "SUCCEEDED"
  | .failed => "FAILED"

/-- `_ALLOWED_TRANSITIONS`. -/
def allowedTransitions : TaskRunState → List TaskRunState
  | .pending => [.running, .failed]
  | .running => [.verifying, .failed]
  | .verifying => [.reviewing, .repairing, .failed]
  | .reviewing => [.succeeded, .repairing, .failed]
  | .repairing => [.repairing, .verifying, .failed]
  | .succeeded => []
  | .failed => []

/-- What an agent answers: a value, `AgentProviderError`, `ValueError`, an error of
its own with failures (`InvalidReviewerOutputError`, `RepairBudgetExhaustedError`),
or another exception. -/
inductive AgentReply (α : Type)
  | result (value : α)
  | providerError (failure : FailureReport)
  | valueError (message : String)
  | refused (failures : List FailureReport)
  | raises (failure : Failure)

/-- The agents, the verifier and the context builder: what they answer in a
session, and the files they leave. -/
structure Agents where
  /-- The text of the `ContextBuildError`, if there is one. -/
  buildContext : TaskSession → Option ContextContinuationState → Option String
  developer : TaskSession → AgentReply DeveloperRunResult × Tree
  verify : TaskSession → Except Failure HardGateResult × Tree
  review : TaskSession → AgentReply ReviewDecision × Tree
  repair : TaskSession → ℕ → AgentReply RepairStopReason × Tree

/-- `SingleTaskRunResult`, by the fields that the worker reads. -/
structure TaskRunResult where
  taskId : String
  status : TaskRunState
  events : List TaskRunState
  developer : Option DeveloperRunResult
  verifications : List HardGateResult
  reviews : List ReviewDecision
  repairs : List RepairRunResult
  failures : List FailureReport
  changedFiles : List String
  contextState : Option ContextContinuationState
  /-- `workflow_execution`, by its mode. -/
  workflow : Option WorkflowExecutionMode := none
  terminal : status = .succeeded ∨ status = .failed
deriving DecidableEq

/-- A program over the session. -/
abbrev Runtime (α : Type) := Prog TaskSession Failure α

namespace Orchestrator

/-- `machine.transition`. -/
def transition (next : TaskRunState) : Runtime Unit := do
  let session ← Durable.read
  Durable.raiseIf (next ∉ allowedTransitions session.state)
    ⟨.valueError, "invalid task-state transition: " ++ session.state.value ++ " -> " ++
      next.value⟩
  Durable.write fun session => { session with events := session.events ++ [next] }

/-- `_current_context_state`. -/
def currentContextState (session : TaskSession) : Option ContextContinuationState :=
  session.packet.map fun head => ⟨head, session.workspace.changedFiles⟩

/-- `_result`, with `validate_terminal_consistency`. -/
def result (task : TaskWork) (failures : List FailureReport) : Runtime TaskRunResult := do
  let session ← Durable.read
  if terminal : session.state = .succeeded ∨ session.state = .failed then
    Durable.raiseIf (session.state = .succeeded ∧ failures ≠ [])
      ⟨.valueError, "successful runs must not contain terminal failures"⟩
    Durable.raiseIf (session.state = .failed ∧ failures = [])
      ⟨.valueError, "failed runs require at least one terminal failure"⟩
    return {
      taskId := task.taskId
      status := session.state
      events := session.events
      developer := session.developer
      verifications := session.verifications
      reviews := session.reviews
      repairs := session.repairs
      failures
      changedFiles := session.workspace.changedFiles
      contextState := currentContextState session
      terminal }
  else
    Durable.lift (.error ⟨.valueError, "SingleTaskRunResult status must be terminal"⟩)

/-- The transition to FAILED and the result. -/
def fail (task : TaskWork) (failures : List FailureReport) : Runtime TaskRunResult := do
  transition .failed
  result task failures

/-- `_runtime_failure`. -/
def runtimeFailure (message : String) : FailureReport :=
  ⟨.toolFailure, message, false⟩

/-- `_context_failure`. -/
def contextFailure (stage : String) : FailureReport :=
  runtimeFailure (stage ++ " ContextPacket construction failed.")

/-- `_developer_stop_failure`. -/
def developerStopFailure (developer : DeveloperRunResult) : FailureReport :=
  match developer.stopReason with
  | .repeatedToolFailure => ⟨.invalidToolArguments,
      "开发智能体连续两次以无效参数调用同一仓库工具，已停止当前开发切片，未继续请求模型。", false⟩
  | .timeLimit => ⟨.agentTimeLimit, "开发智能体时间预算耗尽，未能在限制内完成代码修改。", false⟩
  | _ => ⟨.toolFailure, "Developer Agent did not reach a normal bounded completion.", false⟩

/-- `_build_context`: the text of the error, if there is one. -/
def buildContext (agents : Agents) (resume : Option ContextContinuationState) :
    Runtime (Option String) := do
  let session ← Durable.read
  match agents.buildContext session resume with
  | some error => return some error
  | none =>
    Durable.write fun session => { session with packet := some session.workspace.head }
    return none

/-- One call, with the files it leaves. -/
def call {α : Type} (action : Action) (answer : TaskSession → α × Tree) : Runtime α := do
  let session ← Durable.read
  let (reply, files) := answer session
  Durable.write fun session =>
    { session with
      actions := session.actions ++ [action]
      workspace := { session.workspace with files } }
  return reply

/-- What a call leaves and answers. -/
theorem call_apply {α : Type} (action : Action) (answer : TaskSession → α × Tree)
    (s : TaskSession) : call action answer s = ⟨.ok (answer s).1, [s],
      { s with
        actions := s.actions ++ [action]
        workspace := { s.workspace with files := (answer s).2 } }⟩ := rfl

/-- `FailureClassifier.repairable`. -/
def repairable (reports : List FailureReport) : List FailureReport :=
  if reports.any fun report => !report.retryable ||
      report.failureType ∉ [.testFailure, .lintFailure, .reviewRejected] then []
  else reports

/-- `FailureClassifier.from_review` of a decision that requests changes. -/
def fromReview : List FailureReport :=
  [⟨.reviewRejected, "Independent semantic review requested targeted changes.", true⟩]

/-- `FailureClassifier.terminalize`. -/
def terminalize (reports : List FailureReport) : List FailureReport :=
  reports.map fun report =>
    { report with
      retryable := false
      message := report.message ++ " Repair retry budget was exhausted." }

/-- The failures of `_finish_no_progress`. -/
def noProgress (reports : List FailureReport) : List FailureReport :=
  reports.map fun report =>
    { report with
      retryable := false
      message := report.message ++ " Repair Agent produced no candidate patch; " ++
        "downstream verification was not rerun." }

/-- `ReviewerAgent.review`: it needs a diff before it asks the model. -/
def review (agents : Agents) : Runtime (AgentReply ReviewDecision) := do
  let session ← Durable.read
  if session.workspace.changedFiles = [] then
    return .valueError "reviewer requires a non-empty Git diff"
  else call .review agents.review

/-- One round of the loop of `run` from the verification on; `onFailures` is
`_repair_until_patch` and the rounds after it. -/
def verifyThen (agents : Agents) (task : TaskWork)
    (onFailures : List FailureReport → Runtime TaskRunResult) : Runtime TaskRunResult := do
  let session ← Durable.read
  let answer ← call (.verify session.workspace.files) agents.verify
  let verification ← Durable.lift answer
  Durable.write fun session =>
    { session with verifications := session.verifications ++ [verification] }
  if verification.passed then
    transition .reviewing
    match ← buildContext agents none with
    | some _ => fail task [contextFailure "Reviewer"]
    | none =>
      match ← review agents with
      | .refused failures => fail task failures
      | .providerError failure => fail task [failure]
      | .valueError message => fail task [runtimeFailure message]
      | .raises failure => Durable.lift (.error failure)
      | .result decision =>
        Durable.write fun session => { session with reviews := session.reviews ++ [decision] }
        match decision.decision with
        | .pass =>
          transition .succeeded
          result task []
        | .changesRequested => onFailures fromReview
  else
    let failures := verification.failureReports
    match repairable failures with
    | [] => fail task (if failures = [] then
        [runtimeFailure "Verification failed without structured failure evidence."] else failures)
    | reports => onFailures reports

/-- `_repair_until_patch` and the rounds after it, by the repair attempts that are
left. -/
def repairLoop (agents : Agents) (task : TaskWork) :
    ℕ → List FailureReport → Runtime TaskRunResult
  | 0, failures => fail task (terminalize failures)
  | left + 1, failures => do
    transition .repairing
    let before ← Durable.read
    let attempt := before.repairs.length + 1
    match ← call (.repair attempt) fun session => agents.repair session attempt with
    | .refused failures => fail task failures
    | .providerError failure => fail task [failure]
    | .valueError message => fail task [runtimeFailure message]
    | .raises failure => Durable.lift (.error failure)
    | .result stopReason =>
      let after ← Durable.read
      -- the patch hash is that of the files on disk
      let hasPatch := before.workspace.files ≠ after.workspace.files
      Durable.write fun session =>
        { session with repairs := session.repairs ++ [⟨attempt, stopReason, hasPatch⟩] }
      if hasPatch then
        transition .verifying
        verifyThen agents task (repairLoop agents task left)
      else if stopReason = .explicitBlocker ∨ left = 0 then fail task (noProgress failures)
      else repairLoop agents task left failures

/-- The Developer's part of `run`: the result, if it ends the run. -/
def develop (agents : Agents) (task : TaskWork) (resume : Option ContextContinuationState) :
    Runtime (Option TaskRunResult) := do
  match ← buildContext agents resume with
  | some _ => some <$> fail task [contextFailure "Developer"]
  | none =>
    match ← call .developer agents.developer with
    | .refused failures => some <$> fail task failures
    | .providerError failure => some <$> fail task [failure]
    | .valueError message => some <$> fail task [runtimeFailure message]
    | .raises failure => Durable.lift (.error failure)
    | .result developer =>
      Durable.write fun session => { session with developer := some developer }
      let session ← Durable.read
      if session.workspace.changedFiles = [] then
        some <$> fail task [if developer.stopReason = .modelStop then
          runtimeFailure "Developer Agent completed without producing repository changes."
          else developerStopFailure developer]
      else
        transition .verifying
        return none

/-- `run`; `minimum` is `minimum_repair_attempts`. -/
def run (agents : Agents) (minimum : ℕ) (task : TaskWork)
    (resume : Option ContextContinuationState) (resumeVerificationFirst : Bool) :
    Runtime TaskRunResult := do
  Durable.write fun session =>
    { TaskSession.start session.workspace with actions := session.actions }
  transition .running
  let rounds := verifyThen agents task (repairLoop agents task (max task.maxRetries minimum))
  if resumeVerificationFirst then
    transition .verifying
    rounds
  else
    match ← develop agents task resume with
    | some result => return result
    | none => rounds

end Orchestrator

end DevFlow
