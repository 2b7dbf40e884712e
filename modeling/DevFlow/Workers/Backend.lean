/-
# Execution backends

`workers/executor.py` (`LocalQueuedTaskExecutionBackend`), `trace/worker.py`
(`TraceAwareLocalQueuedTaskExecutionBackend`) and `workflows/executor.py`
(`WorkflowAwareTaskRunner`): how one slice of a task is run, from the arguments
of the worker down to the orchestrator.

Each layer builds the keyword arguments of the next one, and Python refuses a
call with a keyword that the callee does not have.  What Git, the fence and the
agents answer are arguments.
-/

import DevFlow.Runtime.Orchestrator

namespace DevFlow

open Durable (Prog)

/-- The optional keywords of the two `execute` methods and the two `run` methods. -/
inductive Keyword
  | trace
  | continuationContext
  | resumeVerificationFirst
deriving DecidableEq, Repr

/-- The name of the keyword. -/
def Keyword.name : Keyword → String
  | .trace => "trace"
  | .continuationContext => "continuation_context"
  | .resumeVerificationFirst => "resume_verification_first"

/-- The call of a function with the keywords in `accepts`. -/
def checkKeywords (function : String) (accepts passed : List Keyword) : Except Failure Unit :=
  match passed.find? fun keyword => keyword ∉ accepts with
  | none => return ()
  | some keyword => throw ⟨.typeError,
      function ++ "() got an unexpected keyword argument '" ++ keyword.name ++ "'"⟩

/-! ### Runners -/

/-- The arguments of `runner.run`. -/
structure RunRequest where
  task : TaskWork
  trace : Bool
  continuationContext : Option ContextContinuationState
  resumeVerificationFirst : Bool

/-- `run_kwargs`, without the workspace. -/
def RunRequest.keywords (request : RunRequest) : List Keyword :=
  (if request.trace then [.trace] else []) ++
    (if request.continuationContext ≠ none then [.continuationContext] else []) ++
    (if request.resumeVerificationFirst then [.resumeVerificationFirst] else [])

/-- A task runner: the keywords of its `run`, and the body. -/
structure Runner where
  function : String
  accepts : List Keyword
  body : RunRequest → Runtime TaskRunResult

/-- `runner.run(task, **run_kwargs)`. -/
def Runner.run (runner : Runner) (request : RunRequest) : Runtime TaskRunResult := do
  Durable.lift (checkKeywords runner.function runner.accepts request.keywords)
  runner.body request

/-- `SingleTaskOrchestrator`. -/
def orchestratorRunner (agents : Agents) (minimum : ℕ) : Runner where
  function := "SingleTaskOrchestrator.run"
  accepts := [.trace, .continuationContext, .resumeVerificationFirst]
  body request := Orchestrator.run agents minimum request.task request.continuationContext
    request.resumeVerificationFirst

/-- `WorkflowActivationMode`. -/
inductive WorkflowActivationMode
  | workflowOnly
  | workflowFirst
  | agentOnly
deriving DecidableEq, Repr

/-- What a `WorkflowAwareTaskRunner` is built from: the mode that the matcher finds
in a worktree, the deterministic runner's `run`, and the agent runner. -/
structure WorkflowStack where
  matchTask : TaskSession → WorkflowExecutionMode
  activationMode : WorkflowActivationMode
  workflowRun : Runtime TaskRunResult
  agentRunner : Runner

namespace WorkflowStack

/-- `_run_agent`: the resume flag is no argument of it. -/
def runAgent (stack : WorkflowStack) (request : RunRequest) : Runtime TaskRunResult :=
  stack.agentRunner.run { request with resumeVerificationFirst := false }

/-- `_agent_result`. -/
def agentResult (stack : WorkflowStack) (request : RunRequest) (mode : WorkflowExecutionMode) :
    Runtime TaskRunResult := do
  let result ← stack.runAgent request
  return { result with workflow := some mode }

/-- `_workflow_only_result`. -/
def workflowOnlyResult (task : TaskWork) : TaskRunResult where
  taskId := task.taskId
  status := .failed
  events := [.pending, .failed]
  developer := none
  verifications := []
  reviews := []
  repairs := []
  failures := [⟨.toolFailure, "当前策略仅允许 Workflow，但该任务没有可安全执行的工作流。", false⟩]
  changedFiles := []
  contextState := none
  workflow := some .hybrid
  terminal := by simp

/-- `_requires_agent_escalation`. -/
def requiresAgentEscalation (result : TaskRunResult) : Bool :=
  result.failures.any fun failure =>
    failure.failureType = .testFailure ∨ failure.failureType = .lintFailure

/-- The WORKFLOW route of `run`: the template, one escalation to the agent, and
one last retry of the template. -/
def runWorkflow (stack : WorkflowStack) (request : RunRequest) : Runtime TaskRunResult := do
  let workflow ← stack.workflowRun
  if workflow.status = .succeeded ∨ stack.activationMode = .workflowOnly ∨
      requiresAgentEscalation workflow = false then
    return workflow
  else
    let agent ← stack.runAgent request
    if agent.status = .succeeded then
      return { agent with workflow := some .hybrid }
    else
      let recovery ← stack.workflowRun
      if recovery.status = .succeeded then
        return { recovery with
          developer := agent.developer
          repairs := agent.repairs
          workflow := some .hybrid }
      else return { agent with workflow := some .hybrid }

/-- `run`. -/
def run (stack : WorkflowStack) (request : RunRequest) : Runtime TaskRunResult := do
  let session ← Durable.read
  let mode := stack.matchTask session
  if stack.activationMode = .agentOnly then stack.agentResult request .agent
  else if stack.activationMode = .workflowOnly ∧ mode ≠ .workflow then
    return workflowOnlyResult request.task
  else if mode = .workflow then stack.runWorkflow request
  else stack.agentResult request mode

/-- `WorkflowAwareTaskRunner`. -/
def runner (stack : WorkflowStack) : Runner where
  function := "WorkflowAwareTaskRunner.run"
  accepts := [.trace, .continuationContext]
  body := stack.run

end WorkflowStack

/-! ### Evidence -/

/-- The rest of a `WorkerExecutionEvidence`. -/
structure ExecutionDetails where
  branchName : Option String
  checkpoint : Option TaskCheckpoint
  continuation : Option TaskContinuationSummary
  runResult : Option TaskRunResult
  failures : List FailureReport
deriving DecidableEq

/-- What the evidence rows of a queued task carry. -/
inductive WorkContent
  | execution (details : ExecutionDetails)
  | checkpoint (checkpoint : TaskCheckpoint)
  /-- A run result, or one of its state, developer, verification, review, repair,
  failure or workflow records. -/
  | runResult (result : TaskRunResult)
  | failure (report : FailureReport)
deriving DecidableEq

/-- The details of an execution. -/
def WorkerExecutionEvidence.details (execution : WorkerExecutionEvidence WorkContent) :
    Option ExecutionDetails :=
  match execution.content with
  | .execution details => some details
  | _ => none

/-- `execution.checkpoint`. -/
def WorkerExecutionEvidence.checkpoint (execution : WorkerExecutionEvidence WorkContent) :
    Option TaskCheckpoint :=
  execution.details.bind ExecutionDetails.checkpoint

/-- `execution.run_result`. -/
def WorkerExecutionEvidence.runResult (execution : WorkerExecutionEvidence WorkContent) :
    Option TaskRunResult :=
  execution.details.bind ExecutionDetails.runResult

/-! ### Backends -/

/-- The arguments of `backend.execute`. -/
structure ExecutionRequest where
  task : TaskWork
  runId : UUID
  dispatchId : UUID
  baseCommit : String
  continuationContext : Option ContextContinuationState
  resumeVerificationFirst : Bool

/-- The optional keywords among `execution_kwargs`. -/
def ExecutionRequest.keywords (request : ExecutionRequest) : List Keyword :=
  (if request.continuationContext ≠ none then [.continuationContext] else []) ++
    (if request.resumeVerificationFirst then [.resumeVerificationFirst] else [])

/-- What Git and the fence answer in one slice. -/
structure WorktreeAnswers where
  /-- Opening the project and creating the worktree under the fence. -/
  created : Except Failure Unit
  /-- The files of the base commit. -/
  tree : Tree
  branchName : String
  /-- The commands of `commit_task_changes` under the fence. -/
  commit : Except Failure String

/-- `_checkpoint_reason`. -/
def checkpointReason (result : TaskRunResult) : CheckpointReason :=
  if result.failures.any fun failure => failure.failureType = .tokenBudgetExhausted then
    .runTokenBudgetExhausted
  else match result.developer.map DeveloperRunResult.stopReason with
    | some .timeLimit => .timeLimit
    | some .iterationLimit => .iterationLimit
    | some .toolCallLimit => .toolCallLimit
    | _ => .verificationFailure

/-- `_checkpoint_failed_work`, with the field constraints of `TaskCheckpoint`. -/
def checkpointFailedWork (request : ExecutionRequest) (workspace : TaskWorkspace)
    (result : TaskRunResult) (answers : WorktreeAnswers) :
    Except Failure (Option TaskCheckpoint) :=
  let changedFiles := workspace.changedFiles
  if changedFiles = [] then return none
  else do
    let commitSha ← workspace.commitTaskChanges answers.commit
    Raising.raiseIf (isOid request.baseCommit = false ∨ isOid commitSha = false ∨
        512 < changedFiles.length)
      ⟨.valueError, "TaskCheckpoint failed validation"⟩
    return some {
      taskId := request.task.taskId
      baseCommit := request.baseCommit
      commitSha
      changedFiles
      reason := checkpointReason result
      contextState := result.contextState.map fun state =>
        { state with repositoryHead := commitSha } }

/-- `_failure_evidence`. -/
def failureEvidence (request : ExecutionRequest) (branchName : Option String)
    (runResult : Option TaskRunResult) (failures : List FailureReport)
    (checkpoint : Option TaskCheckpoint) : WorkerExecutionEvidence WorkContent where
  dispatchId := request.dispatchId
  runId := request.runId
  taskId := request.task.taskId
  status := .failed
  baseCommit := request.baseCommit
  commitSha := none
  content := .execution ⟨branchName, checkpoint, none, runResult, failures⟩
  success_commit := ExecutionStatus.failed_not_succeeded
  failure_commit := ExecutionStatus.failed_commit

/-- The SUCCEEDED evidence. -/
def successEvidence (request : ExecutionRequest) (branchName commitSha : String)
    (runResult : TaskRunResult) : WorkerExecutionEvidence WorkContent where
  dispatchId := request.dispatchId
  runId := request.runId
  taskId := request.task.taskId
  status := .succeeded
  baseCommit := request.baseCommit
  commitSha := some commitSha
  content := .execution ⟨some branchName, none, none, some runResult, []⟩
  success_commit := ExecutionStatus.succeeded_commit commitSha
  failure_commit := ExecutionStatus.succeeded_not_failed commitSha

/-- What `execute` makes of the runner's result. -/
def finishSlice (request : ExecutionRequest) (workspace : TaskWorkspace) (result : TaskRunResult)
    (answers : WorktreeAnswers) : Except Failure (WorkerExecutionEvidence WorkContent) :=
  if result.status = .failed then do
    let checkpoint ← checkpointFailedWork request workspace result answers
    return failureEvidence request (some answers.branchName) (some result) result.failures checkpoint
  else do
    Raising.raiseIf (result.status ≠ .succeeded)
      ⟨.runtimeError, "single-task runtime returned a non-terminal status"⟩
    let commitSha ← workspace.commitTaskChanges answers.commit
    Raising.raiseIf (isOid commitSha = false ∨ isOid request.baseCommit = false)
      ⟨.valueError, "WorkerExecutionEvidence failed validation"⟩
    return successEvidence request answers.branchName commitSha result

/-- The failure of the `except` clause. -/
def sliceFailure : FailureReport :=
  Orchestrator.runtimeFailure
    "Queued worker execution failed before fenced task-branch finalization."

/-- The body that the two backends share: the evidence, and what the agents and
the verifier were called for. -/
def runSlice (runner : Runner) (answers : WorktreeAnswers) (request : ExecutionRequest)
    (run : RunRequest) : WorkerExecutionEvidence WorkContent × List Action :=
  match answers.created with
  | .error _ => (failureEvidence request none none [sliceFailure] none, [])
  | .ok () =>
    let outcome := runner.run run
      (TaskSession.start (TaskWorkspace.fresh request.baseCommit answers.tree))
    let branch := some answers.branchName
    match outcome.result with
    | .error _ => (failureEvidence request branch none [sliceFailure] none, outcome.final.actions)
    | .ok result =>
      match finishSlice request outcome.final.workspace result answers with
      | .error _ =>
        (failureEvidence request branch (some result) [sliceFailure] none, outcome.final.actions)
      | .ok evidence => (evidence, outcome.final.actions)

/-- **The evidence of a slice** is that of a failure without a checkpoint, or what was
made of the runner's result. -/
theorem runSlice_evidence (runner : Runner) (answers : WorktreeAnswers)
    (request : ExecutionRequest) (run : RunRequest) :
    (∃ branch result failures, (runSlice runner answers request run).1 =
        failureEvidence request branch result failures none) ∨
      ∃ result, finishSlice request (runner.run run (TaskSession.start
        (TaskWorkspace.fresh request.baseCommit answers.tree))).final.workspace result answers =
          .ok (runSlice runner answers request run).1 := by
  unfold runSlice
  split
  · exact Or.inl ⟨_, _, _, rfl⟩
  · dsimp only
    split
    · exact Or.inl ⟨_, _, _, rfl⟩
    · split
      · exact Or.inl ⟨_, _, _, rfl⟩
      · rename_i hfinish
        exact Or.inr ⟨_, hfinish⟩

/-- **What a finished slice leaves**: a failure with the checkpoint of its worktree, or a
success. -/
theorem finishSlice_eq_ok {request : ExecutionRequest} {workspace : TaskWorkspace}
    {result : TaskRunResult} {answers : WorktreeAnswers}
    {evidence : WorkerExecutionEvidence WorkContent}
    (h : finishSlice request workspace result answers = .ok evidence) :
    (∃ checkpoint, checkpointFailedWork request workspace result answers = .ok checkpoint ∧
        evidence = failureEvidence request (some answers.branchName) (some result) result.failures
          checkpoint) ∨
      ∃ commitSha, workspace.commitTaskChanges answers.commit = .ok commitSha ∧
        evidence = successEvidence request answers.branchName commitSha result := by
  unfold finishSlice at h
  split_ifs at h
  · simp only [Raising.bind_eq_ok, Raising.pure_eq_ok] at h
    obtain ⟨checkpoint, hcheckpoint, rfl⟩ := h
    exact Or.inl ⟨checkpoint, hcheckpoint, rfl⟩
  · simp only [Raising.bind_eq_ok, Raising.pure_eq_ok] at h
    obtain ⟨_, -, commitSha, hcommit, _, -, rfl⟩ := h
    exact Or.inr ⟨commitSha, hcommit, rfl⟩

/-- The backend classes; the trace-aware one with `_TRACE_GENERATION`. -/
inductive Backend
  | plain
  | traceAware (generation : Option ℕ)
deriving DecidableEq, Repr

/-- The keywords of `execute`. -/
def Backend.accepts : Backend → List Keyword
  | .plain => [.continuationContext, .resumeVerificationFirst]
  | .traceAware _ => [.continuationContext]

/-- The name of `execute`. -/
def Backend.function : Backend → String
  | .plain => "LocalQueuedTaskExecutionBackend.execute"
  | .traceAware _ => "TraceAwareLocalQueuedTaskExecutionBackend.execute"

/-- `run_kwargs` of `execute`; the trace-aware one without a generation calls the
plain one, and passes no resume flag in either case. -/
def Backend.runRequest (backend : Backend) (request : ExecutionRequest) : RunRequest where
  task := request.task
  trace := match backend with
    | .traceAware (some _) => true
    | _ => false
  continuationContext := request.continuationContext
  resumeVerificationFirst := match backend with
    | .plain => request.resumeVerificationFirst
    | .traceAware _ => false

/-- `backend.execute(**execution_kwargs)`. -/
def Backend.execute (backend : Backend) (runner : Runner) (answers : WorktreeAnswers)
    (request : ExecutionRequest) :
    Except Failure (WorkerExecutionEvidence WorkContent × List Action) := do
  checkKeywords backend.function backend.accepts request.keywords
  return runSlice runner answers request (backend.runRequest request)

end DevFlow
