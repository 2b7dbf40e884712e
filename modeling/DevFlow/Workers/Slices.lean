/-
# The slices of a queued task

`workers/executor.py`: `QueuedTaskWorker.execute`.  A task is run in slices, each
by one call of the backend; a slice that stopped at one of the Developer's
limits leaves a checkpoint, and the next slice starts from its commit.  The
terminal evidence is that of the last slice.  Then the interfaces and the token
budget are settled, and a run of one task is finalized.

The store is the one of `Persistence`; what the resolver, the backend, the
interface registry and the token budget answer, and how long it takes, are
arguments.
-/

import DevFlow.Dispatch.Delivery
import DevFlow.Runtime.ConflictEvidence
import DevFlow.Workers.Backend

namespace DevFlow

open Durable (Prog)

/-- The store and the clock of the database. -/
structure WorkerState where
  db : Database WorkContent
  now : Timestamp

/-- A program of the worker. -/
abbrev Worker (α : Type) := Prog WorkerState Failure α

/-- What a worker is called with. -/
structure WorkerEnvelope where
  message : Message
  runToken : UUID
deriving DecidableEq, Repr

/-- The settings of a `QueuedTaskWorker`. -/
structure WorkerSettings where
  continuationMaxSlices : ℕ
  continuationTotalBudgetMs : ℕ
  continuationMaxRepeatedFileSlices : ℕ
deriving DecidableEq, Repr

/-- What `execute` reads before its `try`: the contract, the resume context of the
node and the complexity score. -/
structure QueuedTask where
  task : TaskWork
  resumeContext : Option TaskResumeContext
  complexityScore : ℕ

/-- The answers of the resolver, the backend, the registry and the budget store;
`none` where the worker has no such collaborator. -/
structure WorkerCalls where
  resolveBase : Except Failure String
  backend : ℕ → ExecutionRequest → Except Failure (WorkerExecutionEvidence WorkContent)
  /-- The clock after slice `k` has moved on by this. -/
  backendTime : ℕ → ℕ
  elapsedMs : ℕ → ℕ
  /-- The tokens that are left after slice `k`. -/
  remainingTokens : Option (ℕ → Except Failure ℕ)
  markProducer : Option (Except Failure Unit)
  reclaimBudget : Option (Except Failure Unit)
  cleanupTime : ℕ

namespace QueuedTaskWorker

/-- `_effective_max_slices`. -/
def effectiveMaxSlices (settings : WorkerSettings) (score : ℕ) : ℕ :=
  min settings.continuationMaxSlices
    (if score ≤ 1 then 2 else if score ≤ 3 then 3 else settings.continuationMaxSlices)

/-- An append of the worker under its token. -/
def append (envelope : WorkerEnvelope) (evidenceKey : String) (kind : EvidenceKind)
    (payload : Payload WorkContent) (stage : String) (sequence : Option ℤ) : Worker ℕ :=
  Durable.transact fun s =>
    (appendEvidence s.db s.now s.db.runId evidenceKey kind payload (some envelope.message.taskId)
      (some stage) sequence (some envelope.runToken)).map fun r => (r.1, { s with db := r.2 })

/-- `_record_dispatch_event`. -/
def recordDispatchEvent (envelope : WorkerEnvelope) (outcome : Option ExecutionStatus) :
    Worker Unit := do
  let s ← Durable.read
  let event := phaseEvent s.db envelope.message outcome
  let _ ← append envelope (workerEvidenceKey (envelope.message.dispatchId, some event.phase))
    .dispatchEvent (.dispatchEvent event) "worker" none

/-- The rows that `_persist_runtime_result` writes of a run result: key, kind,
stage and sequence. -/
def runtimeRecords (keyPrefix : String) (result : TaskRunResult) :
    List (String × EvidenceKind × String × Option ℤ) :=
  (result.events.mapIdx fun i _ =>
    (keyPrefix ++ ":state:" ++ pad4 i, .stateTransition, "runtime", some (i : ℤ))) ++
  (result.developer.toList.map fun _ =>
    (keyPrefix ++ ":developer", .developerRun, "developer", none)) ++
  (result.verifications.mapIdx fun i _ =>
    (keyPrefix ++ ":verification:" ++ pad4 i, .verificationResult, "verification",
      some (i : ℤ))) ++
  (result.reviews.mapIdx fun i _ =>
    (keyPrefix ++ ":review:" ++ pad4 i, .reviewDecision, "review", some (i : ℤ))) ++
  (result.repairs.map fun repair =>
    (keyPrefix ++ ":repair:" ++ pad4 repair.attempt, .repairRun, "repair",
      some (repair.attempt : ℤ))) ++
  (result.failures.mapIdx fun i _ =>
    (keyPrefix ++ ":failure:" ++ pad4 i, .failureReport, "runtime", some (i : ℤ))) ++
  (result.workflow.toList.map fun _ =>
    (keyPrefix ++ ":workflow", .workflowExecution, "workflow", none))

/-- The prefix of the keys of one dispatch. -/
def keyPrefix (envelope : WorkerEnvelope) : String :=
  "dispatch:" ++ envelope.message.dispatchId.str

/-- One row after the other. -/
def appendRecords (envelope : WorkerEnvelope) (result : TaskRunResult) :
    List (String × EvidenceKind × String × Option ℤ) → Worker Unit
  | [] => return ()
  | (evidenceKey, kind, stage, sequence) :: records => do
    let _ ← append envelope evidenceKey kind (.other kind (.runResult result)) stage sequence
    appendRecords envelope result records

/-- `_persist_runtime_result`. -/
def persistRuntimeResult (envelope : WorkerEnvelope) (result : Option TaskRunResult)
    (sliceIndex : Option ℕ) : Worker Unit :=
  match result with
  | none => return ()
  | some result =>
    appendRecords envelope result (runtimeRecords
      (match sliceIndex with
        | none => keyPrefix envelope
        | some i => keyPrefix envelope ++ ":slice:" ++ pad4 i) result)

/-- The append of TASK_CHECKPOINT evidence. -/
def appendCheckpoint (envelope : WorkerEnvelope) (checkpoint : TaskCheckpoint)
    (sliceIndex : Option ℕ) : Worker Unit := do
  let _ ← append envelope
    (match sliceIndex with
      | none => keyPrefix envelope ++ ":checkpoint"
      | some i => keyPrefix envelope ++ ":checkpoint:slice:" ++ pad4 i)
    .taskCheckpoint (.other .taskCheckpoint (.checkpoint checkpoint)) "checkpoint"
    (sliceIndex.map Int.ofNat)

/-- The variables of the loop. -/
structure SliceState where
  sliceIndex : ℕ
  executionBase : String
  continuationContext : Option ContextContinuationState
  resumeVerificationFirst : Bool
  previousChangedFiles : Option (List String)
  repeatedFileSlices : ℕ
  resumedFromCommits : List String
deriving DecidableEq

/-- The variables before the loop. -/
def SliceState.start (queued : QueuedTask) (executionBase : String) : SliceState where
  sliceIndex := 1
  executionBase := executionBase
  continuationContext := queued.resumeContext.bind TaskResumeContext.contextState
  resumeVerificationFirst :=
    queued.resumeContext.map TaskResumeContext.strategy = some .verifyThenRepair
  previousChangedFiles := none
  repeatedFileSlices := 0
  resumedFromCommits := []

/-- `execution_kwargs`. -/
def request (queued : QueuedTask) (envelope : WorkerEnvelope) (runId : UUID) (v : SliceState) :
    ExecutionRequest where
  task := queued.task
  runId := runId
  dispatchId := envelope.message.dispatchId
  baseCommit := v.executionBase
  continuationContext := v.continuationContext
  resumeVerificationFirst := v.resumeVerificationFirst

/-- The execution with another checkpoint; a successful one has none. -/
def withCheckpoint (execution : WorkerExecutionEvidence WorkContent)
    (checkpoint : TaskCheckpoint) : WorkerExecutionEvidence WorkContent :=
  match execution.content with
  | .execution details =>
    { execution with content := .execution { details with checkpoint := some checkpoint } }
  | _ => execution

/-- `_checkpoint_with_slice_facts`. -/
def checkpointWithSliceFacts (execution : WorkerExecutionEvidence WorkContent) (v : SliceState)
    (elapsedMs maxSlices : ℕ) : Option TaskCheckpoint :=
  execution.checkpoint.map fun checkpoint =>
    { checkpoint with
      sliceIndex := v.sliceIndex
      maxSlices
      elapsedMs
      resumeFromCommit := v.resumedFromCommits.getLast?
      remainingSummary := match execution.runResult.bind TaskRunResult.developer with
        | some developer => take 512 developer.content
        | none => "继续完成尚未满足的任务验收条件。"
      verificationSummary := match execution.runResult.map TaskRunResult.verifications with
        | none | some [] => "本切片尚未执行确定性验证。"
        | some verifications =>
          "本切片已执行 " ++ toString verifications.length ++ " 次确定性验证。"
      failureSummary := match execution.runResult.map TaskRunResult.failures with
        | some (failure :: _) => take 512 failure.message
        | _ => "" }

/-- `_can_continue`. -/
def canContinue (settings : WorkerSettings) (execution : WorkerExecutionEvidence WorkContent)
    (v : SliceState) (maxSlices elapsedMs : ℕ) : Bool :=
  match execution.status, execution.checkpoint with
  | .failed, some checkpoint =>
    checkpoint.reason ∈ [.timeLimit, .iterationLimit, .toolCallLimit] &&
      v.sliceIndex < maxSlices && elapsedMs < settings.continuationTotalBudgetMs &&
      (some checkpoint.changedFiles ≠ v.previousChangedFiles ||
        v.repeatedFileSlices < settings.continuationMaxRepeatedFileSlices)
  | _, _ => false

/-- The variables of the next slice. -/
def SliceState.next (v : SliceState) (checkpoint : TaskCheckpoint) : SliceState where
  sliceIndex := v.sliceIndex + 1
  executionBase := checkpoint.commitSha
  continuationContext := checkpoint.contextState
  resumeVerificationFirst := false
  previousChangedFiles := some checkpoint.changedFiles
  repeatedFileSlices :=
    if some checkpoint.changedFiles = v.previousChangedFiles then v.repeatedFileSlices + 1 else 0
  resumedFromCommits := v.resumedFromCommits ++ [checkpoint.commitSha]

/-- One call of the backend, with the facts that the worker adds to the
checkpoint. -/
def runSliceOnce (calls : WorkerCalls) (maxSlices : ℕ) (queued : QueuedTask)
    (envelope : WorkerEnvelope) (v : SliceState) :
    Worker (WorkerExecutionEvidence WorkContent) := do
  let s ← Durable.read
  let execution ← Durable.lift (calls.backend v.sliceIndex (request queued envelope s.db.runId v))
  Durable.write fun s => { s with now := s.now + calls.backendTime v.sliceIndex }
  match checkpointWithSliceFacts execution v (calls.elapsedMs v.sliceIndex) maxSlices with
  | none => return execution
  | some checkpoint =>
    match calls.remainingTokens with
    | none => return withCheckpoint execution checkpoint
    | some remaining =>
      let tokens ← Durable.lift (remaining v.sliceIndex)
      return withCheckpoint execution { checkpoint with remainingBudgetTokens := some tokens }

/-- The loop, by the slices that are left: the last execution, and the variables
it ended with. -/
def sliceLoop (settings : WorkerSettings) (calls : WorkerCalls) (maxSlices : ℕ)
    (queued : QueuedTask) (envelope : WorkerEnvelope) :
    ℕ → SliceState → Worker (WorkerExecutionEvidence WorkContent × SliceState)
  | 0, v => do
    let execution ← runSliceOnce calls maxSlices queued envelope v
    return (execution, v)
  | left + 1, v => do
    let execution ← runSliceOnce calls maxSlices queued envelope v
    match execution.checkpoint with
    | none => return (execution, v)
    | some checkpoint =>
      if canContinue settings execution v maxSlices (calls.elapsedMs v.sliceIndex) then
        persistRuntimeResult envelope execution.runResult (some v.sliceIndex)
        appendCheckpoint envelope checkpoint (some v.sliceIndex)
        sliceLoop settings calls maxSlices queued envelope left (v.next checkpoint)
      else return (execution, v)

/-- The execution with its `TaskContinuationSummary`, from the second slice on. -/
def withContinuation (execution : WorkerExecutionEvidence WorkContent) (queued : QueuedTask)
    (v : SliceState) (maxSlices elapsedMs : ℕ) : WorkerExecutionEvidence WorkContent :=
  match execution.content with
  | .execution details =>
    if 1 < v.sliceIndex then
      { execution with
        content := .execution { details with
          continuation := some
            ⟨v.sliceIndex, maxSlices, elapsedMs, queued.complexityScore, v.resumedFromCommits⟩ } }
    else execution
  | _ => execution

/-- The append of WORKER_EXECUTION evidence. -/
def appendExecution (envelope : WorkerEnvelope) (execution : WorkerExecutionEvidence WorkContent) :
    Worker Unit := do
  let _ ← append envelope (workerEvidenceKey (envelope.message.dispatchId, none))
    .workerExecution (.workerExecution execution) "worker" none

/-- The `try` block until the terminal evidence is persisted. -/
def work (settings : WorkerSettings) (calls : WorkerCalls) (queued : QueuedTask)
    (envelope : WorkerEnvelope) : Worker (WorkerExecutionEvidence WorkContent) := do
  let executionBase ← Durable.lift calls.resolveBase
  recordDispatchEvent envelope none
  let maxSlices := effectiveMaxSlices settings queued.complexityScore
  let (execution, v) ← sliceLoop settings calls maxSlices queued envelope (maxSlices - 1)
    (SliceState.start queued executionBase)
  let execution := withContinuation execution queued v maxSlices (calls.elapsedMs v.sliceIndex)
  let sliceIndex := if 1 < v.sliceIndex then some v.sliceIndex else none
  persistRuntimeResult envelope execution.runResult sliceIndex
  match execution.checkpoint with
  | none => pure ()
  | some checkpoint => appendCheckpoint envelope checkpoint sliceIndex
  appendExecution envelope execution
  return execution

section slices

variable {settings : WorkerSettings} {calls : WorkerCalls} {maxSlices : ℕ} {queued : QueuedTask}
  {envelope : WorkerEnvelope} {v v' : SliceState} {s : WorkerState}
  {execution : WorkerExecutionEvidence WorkContent}

/-- **What a slice returns is what the backend answered**, but for the facts that
the worker adds to a checkpoint. -/
theorem runSliceOnce_eq_ok
    (h : (runSliceOnce calls maxSlices queued envelope v s).result = .ok execution) :
    ∃ answer, calls.backend v.sliceIndex (request queued envelope s.db.runId v) = .ok answer ∧
      ((answer.checkpoint = none ∧ execution = answer) ∨
        ∃ checkpoint tokens, checkpointWithSliceFacts answer v (calls.elapsedMs v.sliceIndex)
            maxSlices = some checkpoint ∧
          execution = withCheckpoint answer { checkpoint with remainingBudgetTokens := tokens }) := by
  unfold runSliceOnce at h
  rw [Durable.read_bind, Durable.bind_result_eq_ok] at h
  obtain ⟨answer, hanswer, h⟩ := h
  refine ⟨answer, hanswer, ?_⟩
  rw [Durable.bind_result_eq_ok] at h
  obtain ⟨_, -, h⟩ := h
  cases hfacts : checkpointWithSliceFacts answer v (calls.elapsedMs v.sliceIndex) maxSlices with
  | none =>
    simp only [hfacts] at h
    exact Or.inl ⟨by simpa [checkpointWithSliceFacts] using hfacts, (Except.ok.inj h).symm⟩
  | some checkpoint =>
    simp only [hfacts] at h
    refine Or.inr ⟨checkpoint, ?_⟩
    cases hremaining : calls.remainingTokens with
    | none =>
      simp only [hremaining] at h
      exact ⟨checkpoint.remainingBudgetTokens, rfl, (Except.ok.inj h).symm⟩
    | some remaining =>
      simp only [hremaining, Durable.bind_result_eq_ok] at h
      obtain ⟨tokens, -, h⟩ := h
      exact ⟨some tokens, rfl, (Except.ok.inj h).symm⟩

/-- **The loop returns what its last slice returned**, and what every continued slice
keeps of the variables holds at the end, by induction on the slices that are left. -/
theorem sliceLoop_invariant {J : SliceState → Prop}
    (hnext : ∀ v s execution checkpoint, J v →
      (runSliceOnce calls maxSlices queued envelope v s).result = .ok execution →
      execution.checkpoint = some checkpoint → J (v.next checkpoint)) {left : ℕ} (hv : J v)
    (h : (sliceLoop settings calls maxSlices queued envelope left v s).result =
      .ok (execution, v')) :
    J v' ∧ ∃ t, (runSliceOnce calls maxSlices queued envelope v' t).result = .ok execution := by
  induction left generalizing v s with
  | zero =>
    rw [sliceLoop, Durable.bind_result_eq_ok] at h
    obtain ⟨answer, hanswer, h⟩ := h
    obtain ⟨rfl, rfl⟩ := Prod.mk.inj (Except.ok.inj h)
    exact ⟨hv, s, hanswer⟩
  | succ left ih =>
    rw [sliceLoop, Durable.bind_result_eq_ok] at h
    obtain ⟨answer, hanswer, h⟩ := h
    cases hcheckpoint : answer.checkpoint with
    | none =>
      simp only [hcheckpoint] at h
      obtain ⟨rfl, rfl⟩ := Prod.mk.inj (Except.ok.inj h)
      exact ⟨hv, s, hanswer⟩
    | some checkpoint =>
      simp only [hcheckpoint] at h
      split_ifs at h
      · simp only [Durable.bind_result_eq_ok] at h
        obtain ⟨_, -, _, -, h⟩ := h
        exact ih (hnext v s answer checkpoint hv hanswer hcheckpoint) h
      · obtain ⟨rfl, rfl⟩ := Prod.mk.inj (Except.ok.inj h)
        exact ⟨hv, s, hanswer⟩

/-- **The terminal evidence is that of the last slice**, with its summary. -/
theorem work_eq_ok (h : (work settings calls queued envelope s).result = .ok execution) :
    ∃ answer v t, 1 ≤ v.sliceIndex ∧
      (runSliceOnce calls (effectiveMaxSlices settings queued.complexityScore) queued envelope v
        t).result = .ok answer ∧
      execution = withContinuation answer queued v
        (effectiveMaxSlices settings queued.complexityScore) (calls.elapsedMs v.sliceIndex) := by
  unfold work at h
  rw [Durable.bind_result_eq_ok] at h
  obtain ⟨base, -, h⟩ := h
  rw [Durable.bind_result_eq_ok] at h
  obtain ⟨_, -, h⟩ := h
  dsimp only at h
  rw [Durable.bind_result_eq_ok] at h
  obtain ⟨⟨answer, v⟩, hloop, h⟩ := h
  obtain ⟨hle, t, hlast⟩ := sliceLoop_invariant (J := fun v => 1 ≤ v.sliceIndex)
    (fun v _ _ _ _ _ _ => Nat.le_add_left 1 v.sliceIndex) (Nat.le_refl 1) hloop
  refine ⟨answer, v, t, hle, hlast, ?_⟩
  dsimp only at h
  rw [Durable.bind_result_eq_ok] at h
  obtain ⟨_, -, h⟩ := h
  generalize withContinuation answer queued v _ _ = last at h ⊢
  cases hcheckpoint : last.checkpoint with
  | none =>
    simp only [hcheckpoint, Durable.bind_result_eq_ok] at h
    obtain ⟨_, -, h⟩ := h
    exact (Except.ok.inj h).symm
  | some checkpoint =>
    simp only [hcheckpoint, Durable.bind_result_eq_ok] at h
    obtain ⟨_, -, _, -, h⟩ := h
    exact (Except.ok.inj h).symm

end slices

/-- `SingleTaskRunResult`, as the store takes it. -/
def persistedResult (result : TaskRunResult) : SingleTaskRunResult WorkContent :=
  ⟨result.taskId, result.status, .runResult result, result.terminal⟩

/-- The condition of `finalize_single_task_run`: the run result has the status of
the evidence. -/
def resultAgrees (execution : WorkerExecutionEvidence WorkContent) (result : TaskRunResult) :
    Bool :=
  (execution.status = .succeeded && result.status = .succeeded) ||
    (execution.status = .failed && result.status = .failed)

/-- The end of the `try` block for a run of one task. -/
def finalizeSingle (envelope : WorkerEnvelope) (execution : WorkerExecutionEvidence WorkContent) :
    Worker Unit := do
  let s ← Durable.read
  match execution.runResult with
  | none => return ()
  | some result =>
    if s.db.taskIds.length = 1 ∧ resultAgrees execution result = true then
      Durable.transact fun s =>
        (finalizeSingleTaskRun s.db s.now s.db.runId (persistedResult result)
          (some envelope.runToken)).map fun db => ((), { s with db })
    else return ()

/-- The `try` block from there on: the registry, the budget, the COMPLETED event
and the finalization. -/
def settle (calls : WorkerCalls) (envelope : WorkerEnvelope)
    (execution : WorkerExecutionEvidence WorkContent) : Worker Unit := do
  match calls.markProducer with
  | none => pure ()
  | some answer => Durable.lift answer
  match calls.reclaimBudget with
  | none => pure ()
  | some answer => Durable.lift answer
  Durable.write fun s => { s with now := s.now + calls.cleanupTime }
  recordDispatchEvent envelope (some execution.status)
  finalizeSingle envelope execution

/-- `_persist_terminal_worker_exception`. -/
def persistTerminalWorkerException (queued : QueuedTask) (envelope : WorkerEnvelope)
    (runBase : String) : Worker (WorkerExecutionEvidence WorkContent) := do
  let s ← Durable.read
  let execution : WorkerExecutionEvidence WorkContent :=
    { dispatchId := envelope.message.dispatchId
      runId := s.db.runId
      taskId := queued.task.taskId
      status := .failed
      baseCommit := runBase
      commitSha := none
      content := .execution ⟨none, none, none, none,
        [⟨.toolFailure, "Worker 在持久化终态前遇到未处理异常。", false⟩]⟩
      success_commit := ExecutionStatus.failed_not_succeeded
      failure_commit := ExecutionStatus.failed_commit }
  appendExecution envelope execution
  recordDispatchEvent envelope (some .failed)
  return execution

/-- `_persist_post_execution_finalization_failure`. -/
def persistPostExecutionFailure (envelope : WorkerEnvelope)
    (execution : WorkerExecutionEvidence WorkContent) : Worker Unit := do
  let _ ← append envelope (keyPrefix envelope ++ ":post-execution-finalization-failure")
    .failureReport (.other .failureReport (.failure ⟨.toolFailure,
      "Worker 已保存执行证据，但在完成预算或分派收尾时发生异常。", false⟩)) "runtime" none
  recordDispatchEvent envelope (some execution.status)

/-- `execute`; `runBase` is `snapshot.base_commit`. -/
def execute (settings : WorkerSettings) (calls : WorkerCalls) (queued : QueuedTask)
    (envelope : WorkerEnvelope) (runBase : String) :
    Worker (WorkerExecutionEvidence WorkContent) := do
  let s ← Durable.read
  Durable.raiseIf (s.db.status ≠ .running)
    ⟨.workerExecutionBoundary, "worker may execute only persisted RUNNING runs"⟩
  Durable.raiseIf (envelope.message.taskId ∉ s.db.taskIds)
    ⟨.workerExecutionBoundary, "persisted task '" ++ envelope.message.taskId ++
      "' is not uniquely bound to run " ++ s.db.runId.str⟩
  match ← Durable.caught (work settings calls queued envelope) with
  | .error failure =>
    let execution ← persistTerminalWorkerException queued envelope runBase
    Durable.raiseIf (failure.kind = .workerExecutionBoundary) failure
    return execution
  | .ok execution =>
    match ← Durable.caught (settle calls envelope execution) with
    | .ok () => return execution
    | .error failure =>
      persistPostExecutionFailure envelope execution
      Durable.raiseIf (failure.kind = .workerExecutionBoundary) failure
      return execution

/-- The evidence of an exception before the terminal evidence. -/
theorem persistTerminalWorkerException_eq_ok {queued : QueuedTask} {envelope : WorkerEnvelope}
    {runBase : String} {s : WorkerState} {execution : WorkerExecutionEvidence WorkContent}
    (h : (persistTerminalWorkerException queued envelope runBase s).result = .ok execution) :
    execution.status = .failed ∧ execution.runResult = none ∧ execution.checkpoint = none := by
  unfold persistTerminalWorkerException at h
  rw [Durable.read_bind] at h
  simp only [Durable.bind_result_eq_ok] at h
  obtain ⟨_, -, _, -, h⟩ := h
  obtain rfl := Except.ok.inj h
  exact ⟨rfl, rfl, rfl⟩

/-- **How a call of `execute` returned**: an exception before the terminal evidence
was turned into FAILED evidence, or the evidence was there, and what came after it
went through or was turned into a report. -/
theorem execute_eq_ok {settings : WorkerSettings} {calls : WorkerCalls} {queued : QueuedTask}
    {envelope : WorkerEnvelope} {runBase : String} {s : WorkerState}
    {execution : WorkerExecutionEvidence WorkContent}
    (h : (execute settings calls queued envelope runBase s).result = .ok execution) :
    let attempt := work settings calls queued envelope s
    let settled := settle calls envelope execution attempt.final
    let final := (execute settings calls queued envelope runBase s).final
    s.db.status = .running ∧
      ((∃ failure, attempt.result = .error failure ∧
          (persistTerminalWorkerException queued envelope runBase attempt.final).result =
            .ok execution ∧
          final = (persistTerminalWorkerException queued envelope runBase attempt.final).final) ∨
        (attempt.result = .ok execution ∧ settled.result = .ok () ∧ final = settled.final) ∨
        (attempt.result = .ok execution ∧ ∃ failure, settled.result = .error failure ∧
          (persistPostExecutionFailure envelope execution settled.final).result = .ok () ∧
          final = (persistPostExecutionFailure envelope execution settled.final).final)) := by
  dsimp only
  revert h
  unfold execute
  rw [Durable.read_bind]
  intro h
  have hrunning := Durable.not_of_raiseIf_bind_result h
  rw [Durable.raiseIf_bind_of_not hrunning] at h ⊢
  have htask := Durable.not_of_raiseIf_bind_result h
  rw [Durable.raiseIf_bind_of_not htask] at h ⊢
  refine ⟨not_not.1 hrunning, ?_⟩
  rw [Durable.caught_bind_result] at h
  rw [Durable.caught_bind_final]
  cases hattempt : (work settings calls queued envelope s).result with
  | error failure =>
    rw [hattempt] at h
    dsimp only at h ⊢
    obtain ⟨answer, hanswer, hrest⟩ := Durable.bind_result_eq_ok.1 h
    have hkind := Durable.not_of_raiseIf_bind_result hrest
    rw [Durable.raiseIf_bind_of_not hkind] at hrest
    obtain rfl := Except.ok.inj hrest
    refine Or.inl ⟨failure, rfl, hanswer, ?_⟩
    rw [Durable.bind_final_of_ok hanswer, Durable.raiseIf_bind_of_not hkind, Durable.pure_apply]
  | ok answer =>
    rw [hattempt] at h
    dsimp only at h ⊢
    rw [Durable.caught_bind_result] at h
    rw [Durable.caught_bind_final]
    refine Or.inr ?_
    cases hsettled : (settle calls envelope answer
        (work settings calls queued envelope s).final).result with
    | ok u =>
      rw [hsettled] at h
      obtain rfl := Except.ok.inj h
      exact Or.inl ⟨rfl, hsettled, rfl⟩
    | error failure =>
      rw [hsettled] at h
      dsimp only at h ⊢
      obtain ⟨u, hreport, hrest⟩ := Durable.bind_result_eq_ok.1 h
      have hkind := Durable.not_of_raiseIf_bind_result hrest
      rw [Durable.raiseIf_bind_of_not hkind] at hrest
      obtain rfl := Except.ok.inj hrest
      refine Or.inr ⟨rfl, failure, hsettled, hreport, ?_⟩
      rw [Durable.bind_final_of_ok hreport, Durable.raiseIf_bind_of_not hkind, Durable.pure_apply]

end QueuedTaskWorker

end DevFlow
