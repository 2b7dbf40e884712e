/-
# Finalization of runs of several tasks

`persistence/multi_completion.py` with the overrides of
`persistence/repair_completion.py`: `finalize_multi_task_run` takes a result of
the controller only after it has derived the same facts again from the
persisted rows.  `dag` is the graph of the persisted task rows.
-/

import DevFlow.Models.DagOrder
import DevFlow.Persistence.Evidence
import DevFlow.Runtime.MergeQueue

namespace DevFlow

/-- A `PersistenceConflictError`. -/
def conflictError (message : String) : Failure :=
  ⟨.persistenceConflict, message⟩

/-- One round of the loop of `_worker_evidence`. -/
def addWorkerEvidence (runId : UUID) (decoded : List Execution) (row : EvidenceRow RunContent) :
    Except Failure (List Execution) :=
  if row.kind ≠ .workerExecution then return decoded
  else match row.payload with
    | .workerExecution item => do
      Raising.raiseIf (item.runId ≠ runId ∨ row.taskId ≠ some item.taskId)
        ⟨.persistenceCorruption,
          "worker execution evidence identity disagrees with persistence row"⟩
      match executionOf decoded item.taskId with
      | none => return decoded ++ [item]
      | some existing =>
        Raising.raiseIf (existing ≠ item)
          ⟨.persistenceCorruption,
            "task '" ++ item.taskId ++ "' has conflicting terminal worker evidence"⟩
        return decoded
    | _ => throw ⟨.persistenceCorruption,
        "worker execution evidence " ++ toString row.id ++ " failed validation"⟩

/-- `_worker_evidence`. -/
def workerEvidence (rows : List (EvidenceRow RunContent)) (runId : UUID) :
    Except Failure (List Execution) :=
  rows.foldlM (addWorkerEvidence runId) []

/-- The decisions that the rows of a task hold about one conflict; a row that is no
decision raises. -/
def decisionsOf (rows : List (EvidenceRow RunContent)) (taskId fingerprint : String) :
    Except Failure (List HumanIntegrationDecision) :=
  rows.foldlM (fun decisions row =>
    if row.kind ≠ .humanDecision ∨ row.taskId ≠ some taskId then return decisions
    else match row.payload with
      | .other .humanDecision (.decision decision) =>
        return if decision.evidenceFingerprint = fingerprint then decisions ++ [decision]
          else decisions
      | _ => throw ⟨.persistenceCorruption,
          "human decision evidence " ++ toString row.id ++ " failed validation"⟩) []

/-- The repairs that the rows of a task hold about one conflict. -/
def repairRowsOf (rows : List (EvidenceRow RunContent)) (taskId fingerprint : String) :
    Except Failure (List IntegrationConflictRepairEvidence) :=
  rows.foldlM (fun repairs row =>
    if row.kind ≠ .integrationRepair ∨ row.taskId ≠ some taskId then return repairs
    else match row.payload with
      | .other .integrationRepair (.repair repair) =>
        return if repair.conflictEvidenceFingerprint = fingerprint then repairs ++ [repair]
          else repairs
      | _ => throw ⟨.persistenceCorruption,
          "integration repair evidence " ++ toString row.id ++ " failed validation"⟩) []

/-- `_require_abort_decision`. -/
def requireAbortDecision (rows : List (EvidenceRow RunContent)) (taskId fingerprint : String) :
    Except Failure Unit := do
  match ← decisionsOf rows taskId fingerprint with
  | [decision] =>
    Raising.raiseIf (decision.decision ≠ .abort)
      (conflictError ("aborted DAG task '" ++ taskId ++ "' is not backed by an ABORT decision"))
  | _ => throw (conflictError
      ("aborted DAG task '" ++ taskId ++ "' requires exactly one bound human decision"))

/-- The first field of `expected_repair` that differs. -/
def terminalRepairMismatch (runId : UUID) (attempt : MergeQueueAttempt) (commit : String)
    (metadata : RepairMetadata) (repair : IntegrationConflictRepairEvidence) : Option String :=
  if repair.runId ≠ runId then some "run_id"
  else if repair.taskId ≠ attempt.taskId then some "task_id"
  else if repair.integrationHead ≠ attempt.previousIntegrationCommit then some "integration_head"
  else if repair.taskCommit ≠ attempt.taskCommit then some "task_commit"
  else if repair.conflictMarkerCommit ≠ metadata.conflictMarker then some "conflict_marker_commit"
  else if repair.conflictEvidenceFingerprint ≠ metadata.evidenceFingerprint then
    some "conflict_evidence_fingerprint"
  else if repair.policyFingerprint ≠ metadata.policyFingerprint then some "policy_fingerprint"
  else if repair.humanDecisionCommit ≠ metadata.humanDecisionCommit then
    some "human_decision_commit"
  else if repair.repairCommit ≠ commit then some "repair_commit"
  else none

/-- The first field of `expected_decision` that differs. -/
def terminalDecisionMismatch (metadata : RepairMetadata) (decision : HumanIntegrationDecision) :
    Option String :=
  if decision.decisionCommit ≠ metadata.humanDecisionCommit then some "decision_commit"
  else if decision.evidenceFingerprint ≠ metadata.evidenceFingerprint then
    some "evidence_fingerprint"
  else if decision.policyFingerprint ≠ metadata.policyFingerprint then some "policy_fingerprint"
  else if decision.conflictMarkerCommit ≠ metadata.conflictMarker then
    some "conflict_marker_commit"
  else none

/-- `_require_repair_authority`, for the attempts that are REPAIRED. -/
def requireRepairAuthority (rows : List (EvidenceRow RunContent)) (runId : UUID)
    (attempt : MergeQueueAttempt) : Except Failure Unit :=
  match attempt.outcome with
  | .repaired commit metadata => do
    let repairs ← repairRowsOf rows attempt.taskId metadata.evidenceFingerprint
    let decisions ← decisionsOf rows attempt.taskId metadata.evidenceFingerprint
    match repairs, decisions with
    | [repair], [decision] =>
      match terminalRepairMismatch runId attempt commit metadata repair with
      | some field => throw (conflictError ("terminal repair evidence binding changed: " ++ field))
      | none => pure ()
      Raising.raiseIf (decision.decision ≠ .authorizeRepair)
        (conflictError "repaired terminal integration is not backed by AUTHORIZE_REPAIR")
      match terminalDecisionMismatch metadata decision with
      | some field =>
        throw (conflictError ("terminal human repair decision binding changed: " ++ field))
      | none => pure ()
    | [_], _ => throw (conflictError
        ("repaired task '" ++ attempt.taskId ++ "' requires exactly one human decision"))
    | _, _ => throw (conflictError
        ("repaired task '" ++ attempt.taskId ++ "' requires exactly one typed repair evidence"))
  | _ => return ()

/-- `attempts.get(task_id)` of a dictionary in which the last attempt of a task
stays. -/
def lastAttempt (attempts : List MergeQueueAttempt) (taskId : String) :
    Option MergeQueueAttempt :=
  attempts.reverse.find? fun attempt => attempt.taskId = taskId

/-- The attempt integrates the commit of the execution. -/
def Integrates (attempts : List MergeQueueAttempt) (execution : Execution) : Prop :=
  ∃ attempt, lastAttempt attempts execution.taskId = some attempt ∧
    attempt.taskBaseCommit = execution.baseCommit ∧
    some attempt.taskCommit = execution.commitSha

instance (attempts : List MergeQueueAttempt) (execution : Execution) :
    Decidable (Integrates attempts execution) :=
  match h : lastAttempt attempts execution.taskId with
  | none => isFalse fun ⟨_, hlast, _⟩ => by simp [h] at hlast
  | some attempt =>
    decidable_of_iff (attempt.taskBaseCommit = execution.baseCommit ∧
      some attempt.taskCommit = execution.commitSha) (by simp [Integrates, h])

/-- `_validate_success`, with its override. -/
def validateSuccess (result : MultiTaskRunResult) (dag : TaskDAG)
    (rows : List (EvidenceRow RunContent)) (workers : List Execution) : Except Failure Unit := do
  Raising.raiseIf ((workers.map WorkerExecutionEvidence.taskId).toFinset ≠ dag.taskIds.toFinset)
    (conflictError "successful DAG finalization requires terminal worker evidence for every task")
  Raising.raiseIf (∃ item ∈ workers, item.status ≠ .succeeded)
    (conflictError "successful DAG finalization cannot include failed worker evidence")
  match result.mergeEvidenceId, result.mergeEvidence with
  | some id, some digest =>
    match (rows.find? fun row => row.id = id).filter fun row => row.kind = .mergeQueueSnapshot with
    | none => throw (conflictError
        "successful DAG finalization references unavailable merge evidence")
    | some row =>
      Raising.raiseIf (row.payload ≠ .other .mergeQueueSnapshot (.mergeQueue digest))
        (conflictError "successful DAG finalization merge digest does not match persistence")
      Raising.raiseIf (digest.stopped = true ∨
          digest.integratedTaskIds.toFinset ≠ dag.taskIds.toFinset)
        (conflictError "successful DAG finalization requires every task to be integrated")
      Raising.raiseIf (some digest.headCommit ≠ result.integrationHead)
        (conflictError "successful DAG finalization integration head changed")
      workers.forM fun item => Raising.raiseIf (¬Integrates digest.attempts item)
        (conflictError ("merge evidence for '" ++ item.taskId ++
          "' does not match worker terminal evidence"))
      digest.attempts.forM (requireRepairAuthority rows result.runId)
  | _, _ => throw (conflictError
      "successful DAG finalization requires merge evidence identity")

/-- The status of a task's terminal execution. -/
def statusOf (workers : List Execution) (taskId : String) : Option ExecutionStatus :=
  (executionOf workers taskId).map WorkerExecutionEvidence.status

/-- `_validate_failure`. -/
def validateFailure (result : MultiTaskRunResult) (dag : TaskDAG)
    (rows : List (EvidenceRow RunContent)) (workers : List Execution) : Except Failure Unit := do
  let blocked ← dag.blockedTaskIds (result.failedTaskIds ++ result.abortedTaskIds)
  Raising.raiseIf (blocked.toFinset ≠ result.blockedTaskIds.toFinset)
    (conflictError "failed DAG terminal result does not match dependency-derived blocked tasks")
  result.failedTaskIds.forM fun t => Raising.raiseIf (statusOf workers t ≠ some .failed)
    (conflictError ("failed DAG task '" ++ t ++ "' lacks failed worker evidence"))
  result.succeededTaskIds.forM fun t => Raising.raiseIf (statusOf workers t ≠ some .succeeded)
    (conflictError ("successful DAG task '" ++ t ++ "' lacks successful worker evidence"))
  result.blockedTaskIds.forM fun t => Raising.raiseIf (statusOf workers t ≠ none)
    (conflictError ("blocked DAG task '" ++ t ++ "' unexpectedly has worker terminal evidence"))
  (result.abortedTaskIds.zip result.abortEvidenceFingerprints).forM fun aborted => do
    Raising.raiseIf (statusOf workers aborted.1 ≠ some .succeeded)
      (conflictError ("human-aborted integration task '" ++ aborted.1 ++
        "' lacks successful worker evidence"))
    requireAbortDecision rows aborted.1 aborted.2

/-- The event of `finalize_multi_task_run`. -/
def multiRunFinalizedEvent (result : MultiTaskRunResult) (status : RunStatus) :
    RuntimeEventDraft RunContent where
  eventKey := .runFinalized
  kind := .runFinalized
  source := .persistence
  level := if status = .failed then .error else .info
  taskId := none
  dispatchId := none
  generation := none
  message := "Persisted DAG Run finalized as " ++ status.value ++ "."
  attributes := .finalized status (.multi (.multi result.toMultiTaskRunRecord))

/-- The validation that belongs to the status. -/
def validateTerminal (result : MultiTaskRunResult) (dag : TaskDAG)
    (rows : List (EvidenceRow RunContent)) (workers : List Execution) : Except Failure Unit :=
  if result.status = .succeeded then validateSuccess result dag rows workers
  else validateFailure result dag rows workers

/-- `finalize_multi_task_run`. -/
def finalizeMultiTaskRun (db : Database RunContent) (dag : TaskDAG) (result : MultiTaskRunResult) :
    Except Failure (Database RunContent) := do
  let persistedStatus ← RunStatus.fromTaskState result.status
  lockedRun db result.runId
  Raising.raiseIf (dag.tasks.length < 2)
    (conflictError "MultiTaskRunResult can finalize only a persisted multi-task Run")
  Raising.raiseIf (dag.topologicalOrder ≠ result.taskIds)
    (conflictError "multi-task terminal result does not match the persisted DAG identity")
  let terminal : TerminalRunResult RunContent := .multi (.multi result.toMultiTaskRunRecord)
  if db.status ≠ .running then
    Raising.raiseIf (¬(db.status = persistedStatus ∧ db.terminalResult = some terminal))
      (conflictError "persisted DAG Run was already finalized with different terminal evidence")
    return db
  let workers ← workerEvidence db.evidence result.runId
  validateTerminal result dag db.evidence workers
  let timeline ← appendRuntimeEvent db.timeline (multiRunFinalizedEvent result persistedStatus)
  return { db with status := persistedStatus, terminalResult := some terminal, timeline }

/-- **A finalization that returned found the same result, or closed a RUNNING run
with a result that the rows bear out.** -/
theorem finalizeMultiTaskRun_eq_ok {db db' : Database RunContent} {dag : TaskDAG}
    {result : MultiTaskRunResult} (h : finalizeMultiTaskRun db dag result = .ok db') :
    dag.topologicalOrder = result.taskIds ∧
      ((db.status ≠ .running ∧ db' = db ∧
          db.terminalResult = some (.multi (.multi result.toMultiTaskRunRecord))) ∨
        (db.status = .running ∧ ∃ workers status timeline,
          workerEvidence db.evidence db.runId = .ok workers ∧
          validateTerminal result dag db.evidence workers = .ok () ∧
          RunStatus.fromTaskState result.status = .ok status ∧
          db' = { db with
            status, timeline
            terminalResult := some (.multi (.multi result.toMultiTaskRunRecord)) })) := by
  simp only [finalizeMultiTaskRun, Raising.bind_eq_ok, Raising.raiseIf_eq_ok, lockedRun_eq_ok,
    not_not] at h
  obtain ⟨status, hstatus, _, hrun, _, -, _, horder, h⟩ := h
  refine ⟨horder, ?_⟩
  split_ifs at h with hrunning
  · simp only [Raising.bind_eq_ok, Raising.raiseIf_eq_ok, Raising.pure_eq_ok, not_not] at h
    obtain ⟨_, hsame, rfl⟩ := h
    exact Or.inl ⟨hrunning, rfl, hsame.2⟩
  · simp only [Raising.bind_eq_ok, Raising.pure_eq_ok] at h
    obtain ⟨workers, hworkers, _, hvalid, timeline, _, rfl⟩ := h
    exact Or.inr ⟨not_not.1 hrunning, workers, status, timeline, hrun ▸ hworkers, hvalid, hstatus,
      rfl⟩

/-- **A RUNNING run without a RUN_FINALIZED event takes a result that the rows bear
out.** -/
theorem finalizeMultiTaskRun_of_valid {db : Database RunContent} {dag : TaskDAG}
    {result : MultiTaskRunResult} {workers : List Execution} {status : RunStatus}
    (hrun : result.runId = db.runId) (hrunning : db.status = .running)
    (hopen : ∀ row ∈ db.timeline.rows, row.draft.eventKey ≠ .runFinalized)
    (hmulti : 2 ≤ dag.tasks.length) (horder : result.taskIds = dag.topologicalOrder)
    (hstatus : RunStatus.fromTaskState result.status = .ok status)
    (hworkers : workerEvidence db.evidence db.runId = .ok workers)
    (hvalid : validateTerminal result dag db.evidence workers = .ok ()) :
    ∃ timeline, finalizeMultiTaskRun db dag result = .ok { db with
      status, timeline
      terminalResult := some (.multi (.multi result.toMultiTaskRunRecord)) } := by
  refine ⟨{ sequence := db.timeline.sequence + 1
            rows := db.timeline.rows ++
              [⟨db.timeline.sequence + 1, multiRunFinalizedEvent result status⟩] }, ?_⟩
  unfold finalizeMultiTaskRun
  rw [hstatus, Raising.ok_bind, lockedRun, Raising.raiseIf_of_not (by simp [hrun]),
    Raising.ok_bind, Raising.raiseIf_of_not (by omega), Raising.ok_bind,
    Raising.raiseIf_of_not (by simp [horder]), Raising.ok_bind]
  dsimp only
  rw [if_neg (by simp [hrunning]), hrun, hworkers, Raising.ok_bind, hvalid, Raising.ok_bind,
    appendRuntimeEvent_of_new (by simpa [multiRunFinalizedEvent] using hopen), Raising.ok_bind]
  rfl

end DevFlow
