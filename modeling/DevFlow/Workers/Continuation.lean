/-
# The continuation loop against any collaborators

`workers/executor.py`: `QueuedTaskWorker.execute`, with every collaborator a
function that may raise and may change whatever it keeps.  A log notes the slices
the backend was asked for and answered, and the rows that were appended.

In every state of a call the slices are bounded and chained, and the keys of the
rows are pairwise distinct, but for a COMPLETED event that is appended again after
a finalization that raised (`execute_continuation`).
-/

import DevFlow.Library.Repeats
import DevFlow.Workers.EvidenceKeys

namespace DevFlow

open Durable (Prog)

/-- A call of a collaborator. -/
abbrev CollaboratorCall (S α : Type) := S → Except Failure α × S

/-- What the backend answers, and the `sequence` of each event of its run result. -/
structure BackendAnswer where
  execution : WorkerExecutionEvidence WorkContent
  eventSequences : List ℕ

/-- The run result numbers its events and its repairs distinctly. -/
structure BackendAnswer.Numbered (answer : BackendAnswer) : Prop where
  events : answer.eventSequences.Nodup
  repairs : ∀ result, answer.execution.runResult = some result →
    (result.repairs.map RepairRunResult.attempt).Nodup

/-- What `append_evidence` is called with; the kind is that of the key. -/
structure EvidenceAppend where
  key : WorkerKey
  payload : Payload WorkContent
  stage : String
  sequence : Option ℕ

/-- What `execute` uses of a `PersistedRunSnapshot`. -/
structure WorkerSnapshot where
  runId : UUID
  status : RunStatus
  baseCommit : String
  taskIds : List String
deriving DecidableEq, Repr

/-- What `execute` uses of a `TaskExecutionBase`. -/
structure ResolvedBase where
  runId : UUID
  taskId : String
  commitSha : String
deriving DecidableEq, Repr

/-- `WorkerInterfaceContractRegistry`. -/
structure InterfaceRegistry (S : Type) where
  markProducerSatisfied : Option String → CollaboratorCall S Unit
  markProducerUnmet : CollaboratorCall S Unit

/-- The collaborators of a `QueuedTaskWorker`; `none` where it has no such one. -/
structure Collaborators (S : Type) where
  executionBaseResolver : Option (CollaboratorCall S ResolvedBase)
  backend : ExecutionRequest → CollaboratorCall S BackendAnswer
  /-- What `_elapsed_ms` reads. -/
  elapsedMs : S → ℕ × S
  /-- The tokens that are left of the run. -/
  tokenBudgetReader : Option (CollaboratorCall S ℕ)
  append : EvidenceAppend → CollaboratorCall S ℕ
  interfaceRegistry : Option (InterfaceRegistry S)
  reclaimUnusedTaskBudget : Option (CollaboratorCall S Unit)
  finalizeSingleTaskRun : TaskRunResult → CollaboratorCall S Unit

/-- The settings that `QueuedTaskWorker.__init__` accepts. -/
structure AcceptedSettings extends WorkerSettings where
  maxSlices_range : 1 ≤ continuationMaxSlices ∧ continuationMaxSlices ≤ 20
  totalBudget_range : 600000 ≤ continuationTotalBudgetMs ∧ continuationTotalBudgetMs ≤ 86400000
  repeated_range : continuationMaxRepeatedFileSlices ≤ 5

/-- A call of the backend, with the checkpoint of its answer. -/
structure SliceCall where
  request : ExecutionRequest
  checkpoint : Option TaskCheckpoint

/-- The changed files of the slice. -/
def SliceCall.changedFiles (slice : SliceCall) : Option (List String) :=
  slice.checkpoint.map TaskCheckpoint.changedFiles

/-- What the worker did: the slices it asked for, and the rows it appended. -/
structure CallLog where
  slices : List SliceCall
  appended : List EvidenceAppend
  /-- `finalize_single_task_run` raised. -/
  finalizationRaised : Bool

/-- Nothing was done. -/
def CallLog.empty : CallLog := ⟨[], [], false⟩

/-- A program that calls the collaborators. -/
abbrev Caller (S α : Type) := Prog (S × CallLog) Failure α

namespace ContinuationWorker

variable {S : Type}

/-- A call of a collaborator, and what the log notes of it. -/
def ask {α : Type} (f : CollaboratorCall S α) (note : Except Failure α → CallLog → CallLog) : Caller S α :=
  fun s => ⟨(f s.1).1, [s], ((f s.1).2, note (f s.1).1 s.2)⟩

/-- A call that the log says nothing about. -/
def askQuietly {α : Type} (f : CollaboratorCall S α) : Caller S α :=
  ask f fun _ log => log

/-- `_elapsed_ms`. -/
def elapsedMs (calls : Collaborators S) : Caller S ℕ :=
  askQuietly fun s => (.ok (calls.elapsedMs s).1, (calls.elapsedMs s).2)

/-- `backend.execute`. -/
def backendExecute (calls : Collaborators S) (request : ExecutionRequest) :
    Caller S BackendAnswer :=
  ask (calls.backend request) fun answer log =>
    { log with slices := log.slices ++ [⟨request,
        answer.toOption.bind fun answer => answer.execution.checkpoint⟩] }

/-- `append_evidence`; a row is noted when the call returned. -/
def append (calls : Collaborators S) (row : EvidenceAppend) : Caller S ℕ :=
  ask (calls.append row) fun answer log =>
    match answer with
    | .ok _ => { log with appended := log.appended ++ [row] }
    | .error _ => log

/-- One row after the other. -/
def appendAll (calls : Collaborators S) : List EvidenceAppend → Caller S Unit
  | [] => return ()
  | row :: rows => do
    let _ ← append calls row
    appendAll calls rows

/-- `_resolve_execution_base`. -/
def resolveExecutionBase (calls : Collaborators S) (snapshot : WorkerSnapshot) (taskId : String) :
    Caller S String :=
  match calls.executionBaseResolver with
  | some resolver => do
    let resolved ← askQuietly resolver
    Durable.raiseIf (resolved.runId ≠ snapshot.runId ∨ resolved.taskId ≠ taskId)
      ⟨.workerExecutionBoundary,
        "queued execution-base resolver returned mismatched Run/Task identity"⟩
    return resolved.commitSha
  | none => do
    Durable.raiseIf (snapshot.taskIds.length ≠ 1) ⟨.workerExecutionBoundary,
      "multi-task queued execution requires an evidence-bound DAG execution-base resolver"⟩
    return snapshot.baseCommit

/-- The row of `_record_dispatch_event`. -/
def dispatchEvent (snapshot : WorkerSnapshot) (message : Message)
    (outcome : Option ExecutionStatus) : EvidenceAppend where
  key := if outcome = none then .received else .completed
  payload := .dispatchEvent
    { dispatchId := message.dispatchId
      runId := snapshot.runId
      taskId := message.taskId
      phase := if outcome = none then .received else .completed
      outcome
      received_outcome := DispatchPhase.received_outcome outcome
      completed_outcome := DispatchPhase.completed_outcome outcome }
  stage := "worker"
  sequence := none

/-- `_record_dispatch_event`. -/
def recordDispatchEvent (calls : Collaborators S) (snapshot : WorkerSnapshot) (message : Message)
    (outcome : Option ExecutionStatus) : Caller S Unit := do
  let _ ← append calls (dispatchEvent snapshot message outcome)

end ContinuationWorker

/-- The stage of a row of `_persist_runtime_result`. -/
def ResultKey.stage : ResultKey → String
  | .state _ | .failure _ => "runtime"
  | .developer => "developer"
  | .verification _ => "verification"
  | .review _ => "review"
  | .repair _ => "repair"
  | .workflow => "workflow"

/-- The sequence of a row of `_persist_runtime_result`. -/
def ResultKey.sequence : ResultKey → Option ℕ
  | .state n | .verification n | .review n | .repair n | .failure n => some n
  | .developer | .workflow => none

/-- The rows that `_persist_runtime_result` writes, by their keys. -/
def BackendAnswer.resultKeys (answer : BackendAnswer) (result : TaskRunResult) : List ResultKey :=
  answer.eventSequences.map .state ++
  (result.developer.toList.map fun _ => .developer) ++
  (result.verifications.mapIdx fun i _ => .verification i) ++
  (result.reviews.mapIdx fun i _ => .review i) ++
  (result.repairs.map fun repair => .repair repair.attempt) ++
  (result.failures.mapIdx fun i _ => .failure i) ++
  (result.workflow.toList.map fun _ => .workflow)

/-- The row of such a key. -/
def ResultKey.row (sliceIndex : Option ℕ) (result : TaskRunResult) (key : ResultKey) :
    EvidenceAppend where
  key := .result sliceIndex key
  payload := .other (WorkerKey.result sliceIndex key).kind (.runResult result)
  stage := key.stage
  sequence := key.sequence

namespace ContinuationWorker

variable {S : Type}

/-- `_persist_runtime_result`. -/
def persistRuntimeResult (calls : Collaborators S) (answer : BackendAnswer)
    (sliceIndex : Option ℕ) : Caller S Unit :=
  match answer.execution.runResult with
  | none => return ()
  | some result => appendAll calls ((answer.resultKeys result).map (ResultKey.row sliceIndex result))

/-- The append of TASK_CHECKPOINT evidence. -/
def appendCheckpoint (calls : Collaborators S) (checkpoint : TaskCheckpoint)
    (sliceIndex : Option ℕ) : Caller S Unit := do
  let _ ← append calls ⟨.checkpoint sliceIndex, .other .taskCheckpoint (.checkpoint checkpoint),
    "checkpoint", sliceIndex⟩

/-- The append of the checkpoint, when there is one. -/
def persistCheckpoint (calls : Collaborators S) (checkpoint : Option TaskCheckpoint)
    (sliceIndex : Option ℕ) : Caller S Unit :=
  match checkpoint with
  | none => return ()
  | some checkpoint => appendCheckpoint calls checkpoint sliceIndex

/-- One call of the backend, and the checkpoint with the facts of the slice; the
budget facts are those of the execution only. -/
def runSlice (calls : Collaborators S) (maxSlices : ℕ) (queued : QueuedTask)
    (envelope : WorkerEnvelope) (runId : UUID) (v : QueuedTaskWorker.SliceState) :
    Caller S (BackendAnswer × Option TaskCheckpoint) := do
  let answer ← backendExecute calls (QueuedTaskWorker.request queued envelope runId v)
  let elapsed ← elapsedMs calls
  match QueuedTaskWorker.checkpointWithSliceFacts answer.execution v elapsed maxSlices with
  | none => return (answer, none)
  | some checkpoint =>
    match calls.tokenBudgetReader with
    | none =>
      return ({ answer with execution := QueuedTaskWorker.withCheckpoint answer.execution checkpoint },
        some checkpoint)
    | some reader =>
      let tokens ← askQuietly reader
      let budgeted := { checkpoint with remainingBudgetTokens := some tokens }
      return ({ answer with execution := QueuedTaskWorker.withCheckpoint answer.execution budgeted },
        some checkpoint)

theorem canContinue_lt {settings : WorkerSettings} {execution : WorkerExecutionEvidence WorkContent}
    {v : QueuedTaskWorker.SliceState} {maxSlices elapsed : ℕ}
    (h : QueuedTaskWorker.canContinue settings execution v maxSlices elapsed = true) :
    v.sliceIndex < maxSlices := by
  unfold QueuedTaskWorker.canContinue at h
  split at h
  · simp only [Bool.and_eq_true, decide_eq_true_eq] at h
    exact h.1.1.2
  · cases h

/-- The `while` loop: the last answer, and the variables it ended with. -/
def sliceLoop (settings : WorkerSettings) (calls : Collaborators S) (maxSlices : ℕ)
    (queued : QueuedTask) (envelope : WorkerEnvelope) (runId : UUID)
    (v : QueuedTaskWorker.SliceState) :
    Caller S (BackendAnswer × QueuedTaskWorker.SliceState) := do
  let (answer, checkpoint) ← runSlice calls maxSlices queued envelope runId v
  let elapsed ← elapsedMs calls
  if _ : QueuedTaskWorker.canContinue settings answer.execution v maxSlices elapsed = true then
    match checkpoint with
    | none => return (answer, v)
    | some checkpoint =>
      persistRuntimeResult calls answer (some v.sliceIndex)
      appendCheckpoint calls checkpoint (some v.sliceIndex)
      sliceLoop settings calls maxSlices queued envelope runId (v.next checkpoint)
  else return (answer, v)
termination_by maxSlices - v.sliceIndex
decreasing_by
  have hlt := canContinue_lt ‹QueuedTaskWorker.canContinue _ _ _ _ _ = true›
  change maxSlices - (v.sliceIndex + 1) < maxSlices - v.sliceIndex
  omega

/-- The execution gets its `TaskContinuationSummary`, from the second slice on. -/
def summarize (calls : Collaborators S) (queued : QueuedTask) (maxSlices : ℕ)
    (v : QueuedTaskWorker.SliceState) (answer : BackendAnswer) : Caller S BackendAnswer :=
  if 1 < v.sliceIndex then do
    let elapsed ← elapsedMs calls
    return { answer with
      execution := QueuedTaskWorker.withContinuation answer.execution queued v maxSlices elapsed }
  else return answer

/-- The row of WORKER_EXECUTION evidence. -/
def executionRow (execution : WorkerExecutionEvidence WorkContent) : EvidenceAppend :=
  ⟨.execution, .workerExecution execution, "worker", none⟩

/-- The append of WORKER_EXECUTION evidence. -/
def appendExecution (calls : Collaborators S) (execution : WorkerExecutionEvidence WorkContent) :
    Caller S Unit := do
  let _ ← append calls (executionRow execution)

/-- The rows of the last slice: those of its run result, its checkpoint and the
terminal evidence. -/
def persistTerminal (calls : Collaborators S) (answer : BackendAnswer) (sliceIndex : Option ℕ) :
    Caller S (WorkerExecutionEvidence WorkContent) := do
  persistRuntimeResult calls answer sliceIndex
  persistCheckpoint calls answer.execution.checkpoint sliceIndex
  appendExecution calls answer.execution
  return answer.execution

/-- The `try` block until the terminal evidence is persisted. -/
def work (settings : WorkerSettings) (calls : Collaborators S) (snapshot : WorkerSnapshot)
    (queued : QueuedTask) (envelope : WorkerEnvelope) :
    Caller S (WorkerExecutionEvidence WorkContent) := do
  let executionBase ← resolveExecutionBase calls snapshot envelope.message.taskId
  recordDispatchEvent calls snapshot envelope.message none
  let (answer, v) ← sliceLoop settings calls
    (QueuedTaskWorker.effectiveMaxSlices settings queued.complexityScore) queued envelope
    snapshot.runId (QueuedTaskWorker.SliceState.start queued executionBase)
  let answer ← summarize calls queued
    (QueuedTaskWorker.effectiveMaxSlices settings queued.complexityScore) v answer
  persistTerminal calls answer (if 1 < v.sliceIndex then some v.sliceIndex else none)

/-- The registry is told whether the producer has delivered. -/
def markProducer (calls : Collaborators S) (execution : WorkerExecutionEvidence WorkContent) :
    Caller S Unit :=
  match calls.interfaceRegistry with
  | none => pure ()
  | some registry =>
    if execution.status = .succeeded then
      askQuietly (registry.markProducerSatisfied execution.commitSha)
    else askQuietly registry.markProducerUnmet

/-- The end of the `try` block for a run of one task. -/
def finalizeSingle (calls : Collaborators S) (snapshot : WorkerSnapshot)
    (execution : WorkerExecutionEvidence WorkContent) : Caller S Unit :=
  match execution.runResult with
  | none => pure ()
  | some result =>
    if snapshot.taskIds.length = 1 ∧ QueuedTaskWorker.resultAgrees execution result = true then
      ask (calls.finalizeSingleTaskRun result) fun answer log =>
        match answer with
        | .ok _ => log
        | .error _ => { log with finalizationRaised := true }
    else pure ()

/-- The budget that the task has not used is given back. -/
def reclaimBudget (calls : Collaborators S) : Caller S Unit :=
  match calls.reclaimUnusedTaskBudget with
  | none => return ()
  | some reclaim => askQuietly reclaim

/-- The `try` block from there on. -/
def settle (calls : Collaborators S) (snapshot : WorkerSnapshot) (envelope : WorkerEnvelope)
    (execution : WorkerExecutionEvidence WorkContent) : Caller S Unit := do
  markProducer calls execution
  reclaimBudget calls
  recordDispatchEvent calls snapshot envelope.message (some execution.status)
  finalizeSingle calls snapshot execution

/-- The evidence of an exception before the terminal evidence. -/
def terminalExecution (snapshot : WorkerSnapshot) (envelope : WorkerEnvelope) :
    WorkerExecutionEvidence WorkContent where
  dispatchId := envelope.message.dispatchId
  runId := snapshot.runId
  taskId := envelope.message.taskId
  status := .failed
  baseCommit := snapshot.baseCommit
  commitSha := none
  content := .execution ⟨none, none, none, none,
    [⟨.toolFailure, "Worker 在持久化终态前遇到未处理异常。", false⟩]⟩
  success_commit := ExecutionStatus.failed_not_succeeded
  failure_commit := ExecutionStatus.failed_commit

/-- `_persist_terminal_worker_exception`. -/
def persistTerminalWorkerException (calls : Collaborators S) (snapshot : WorkerSnapshot)
    (envelope : WorkerEnvelope) : Caller S (WorkerExecutionEvidence WorkContent) := do
  appendExecution calls (terminalExecution snapshot envelope)
  recordDispatchEvent calls snapshot envelope.message (some .failed)
  return terminalExecution snapshot envelope

/-- The report of an exception after the terminal evidence. -/
def postExecutionFailureRow : EvidenceAppend :=
  ⟨.postExecutionFailure, .other .failureReport (.failure ⟨.toolFailure,
    "Worker 已保存执行证据，但在完成预算或分派收尾时发生异常。", false⟩), "runtime", none⟩

/-- `_persist_post_execution_finalization_failure`. -/
def persistPostExecutionFailure (calls : Collaborators S) (snapshot : WorkerSnapshot)
    (envelope : WorkerEnvelope) (execution : WorkerExecutionEvidence WorkContent) :
    Caller S Unit := do
  let _ ← append calls postExecutionFailureRow
  recordDispatchEvent calls snapshot envelope.message (some execution.status)

/-- `execute`, with the run and the task that it loads first. -/
def execute (settings : WorkerSettings) (calls : Collaborators S) (snapshot : WorkerSnapshot)
    (queued : QueuedTask) (envelope : WorkerEnvelope) :
    Caller S (WorkerExecutionEvidence WorkContent) := do
  Durable.raiseIf (snapshot.status ≠ .running)
    ⟨.workerExecutionBoundary, "worker may execute only persisted RUNNING runs"⟩
  Durable.raiseIf (snapshot.taskIds.count envelope.message.taskId ≠ 1)
    ⟨.workerExecutionBoundary, "persisted task '" ++ envelope.message.taskId ++
      "' is not uniquely bound to run " ++ snapshot.runId.str⟩
  match ← Durable.caught (work settings calls snapshot queued envelope) with
  | .error failure =>
    let execution ← persistTerminalWorkerException calls snapshot envelope
    Durable.raiseIf (failure.kind = .workerExecutionBoundary) failure
    return execution
  | .ok execution =>
    match ← Durable.caught (settle calls snapshot envelope execution) with
    | .ok () => return execution
    | .error failure =>
      persistPostExecutionFailure calls snapshot envelope execution
      Durable.raiseIf (failure.kind = .workerExecutionBoundary) failure
      return execution

end ContinuationWorker

end DevFlow
