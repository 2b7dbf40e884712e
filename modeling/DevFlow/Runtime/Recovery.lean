/-
# Classification of the recovery state

`runtime/recovery.py` (`RecoveryStateClassifier`).  The classifier takes the
snapshot of a run, with its task ids and its evidence rows, and the leases that
were read after it.  It decodes the worker-side evidence of all tasks, checks it
against the leases, and gives each task the disposition that the planner and the
operator read.  It mutates nothing.
-/

import DevFlow.Runtime.RunReconciler

namespace DevFlow

variable {X : Type}

/-- The two dictionaries of `_decode_worker_side_evidence`: the row and the status
of the execution of each dispatch of a task, and the row of each of its phases. -/
structure DecodedEvidence where
  workers : List ((String × UUID) × (ℕ × ExecutionStatus))
  dispatches : List ((String × UUID × DispatchPhase) × ℕ)
deriving DecidableEq, Repr

/-- `worker_evidence.get(task_id) or dispatch_events.get(task_id)`. -/
def DecodedEvidence.mentions (decoded : DecodedEvidence) (taskId : String) : Bool :=
  decoded.workers.any (fun entry => entry.1.1 = taskId) ||
    decoded.dispatches.any (fun entry => entry.1.1 = taskId)

/-- `_validated_task_scope`; a row of the run has the run's id. -/
def validatedTaskScope (taskIds : List String) (row : EvidenceRow X) : Except Failure String :=
  match row.taskId.filter (· ∈ taskIds) with
  | some taskId => .ok taskId
  | none => .error ⟨.persistenceCorruption, "worker-side evidence " ++ toString row.id ++
      " is not bound to a known persisted task"⟩

/-- `_validate_payload_identity`. -/
def validatePayloadIdentity (runId : UUID) (row : EvidenceRow X) (payloadRunId : UUID)
    (payloadTaskId : String) : Except Failure Unit := do
  Raising.raiseIf (payloadRunId ≠ runId)
    ⟨.persistenceCorruption, "worker-side evidence " ++ toString row.id ++
      " payload Run identity mismatch"⟩
  Raising.raiseIf (some payloadTaskId ≠ row.taskId)
    ⟨.persistenceCorruption, "worker-side evidence " ++ toString row.id ++
      " payload Task identity mismatch"⟩

/-- One round of the loop of `_decode_worker_side_evidence`. -/
def decodeEvidenceRow (runId : UUID) (taskIds : List String) (decoded : DecodedEvidence)
    (row : EvidenceRow X) : Except Failure DecodedEvidence :=
  if row.kind ≠ .workerExecution ∧ row.kind ≠ .dispatchEvent then return decoded
  else do
    let taskId ← validatedTaskScope taskIds row
    match row.kind, row.payload with
    | .workerExecution, .workerExecution execution =>
      validatePayloadIdentity runId row execution.runId execution.taskId
      Raising.raiseIf ((taskId, execution.dispatchId) ∈ decoded.workers.map Prod.fst)
        ⟨.persistenceCorruption, "multiple terminal WORKER_EXECUTION evidence rows exist for " ++
          "one dispatch " ++ execution.dispatchId.str⟩
      return { decoded with workers :=
        decoded.workers ++ [((taskId, execution.dispatchId), (row.id, execution.status))] }
    | .dispatchEvent, .dispatchEvent event =>
      validatePayloadIdentity runId row event.runId event.taskId
      Raising.raiseIf ((taskId, event.dispatchId, event.phase) ∈ decoded.dispatches.map Prod.fst)
        ⟨.persistenceCorruption, "duplicate worker dispatch phase evidence exists for dispatch " ++
          event.dispatchId.str ++ ": " ++
            (if event.phase = .received then "RECEIVED" else "COMPLETED")⟩
      return { decoded with dispatches :=
        decoded.dispatches ++ [((taskId, event.dispatchId, event.phase), row.id)] }
    | _, _ => throw ⟨.valueError, "worker-side evidence payload failed validation"⟩

/-- The dispatches of `dispatches.items()`, task by task: a dictionary keeps the
order in which its keys were first set. -/
def DecodedEvidence.dispatchKeys (decoded : DecodedEvidence) : List (String × UUID) :=
  let keys := decoded.dispatches.map fun entry => (entry.1.1, entry.1.2.1)
  (keys.map Prod.fst).eraseDups.flatMap fun taskId =>
    (keys.filter fun key => key.1 = taskId).eraseDups

/-- `_decode_worker_side_evidence`. -/
def decodeWorkerSideEvidence (runId : UUID) (taskIds : List String)
    (evidence : List (EvidenceRow X)) : Except Failure DecodedEvidence := do
  let decoded ← evidence.foldlM (decodeEvidenceRow runId taskIds) ⟨[], []⟩
  match decoded.dispatchKeys.find? fun key =>
      (key.1, key.2, DispatchPhase.completed) ∈ decoded.dispatches.map Prod.fst ∧
        key ∉ decoded.workers.map Prod.fst with
  | some key => .error ⟨.persistenceCorruption,
      "COMPLETED dispatch evidence exists without terminal WORKER_EXECUTION " ++
        "evidence for dispatch " ++ key.2.str⟩
  | none => return decoded

/-- One round of the loop of `_validate_leases`; the state holds the leases that
were accepted before. -/
def validateLease (runId : UUID) (accepted : List TaskLeaseSnapshot) (lease : TaskLeaseSnapshot) :
    Except Failure (List TaskLeaseSnapshot) := do
  Raising.raiseIf (lease.runId ≠ runId)
    ⟨.persistenceCorruption, "recovery lease run identity disagrees with persisted Run"⟩
  Raising.raiseIf (lease.taskId ∈ accepted.map TaskLeaseSnapshot.taskId)
    ⟨.persistenceCorruption, "recovery snapshot contains duplicate lease for task '" ++
      lease.taskId ++ "'"⟩
  Raising.raiseIf (accepted.head?.any fun first => first.observedAt ≠ lease.observedAt)
    ⟨.persistenceCorruption, "recovery lease snapshots must share one database observation time"⟩
  return accepted ++ [lease]

/-- `_validate_leases`. -/
def validateLeases (runId : UUID) (taskIds : List String) (leases : List TaskLeaseSnapshot) :
    Except Failure (List TaskLeaseSnapshot) := do
  let leaseByTask ← leases.foldlM (validateLease runId) []
  let actual := leaseByTask.map TaskLeaseSnapshot.taskId
  let missing := (taskIds.filter fun t => t ∉ actual).dedup
  let unexpected := (actual.filter fun t => t ∉ taskIds).dedup
  Raising.raiseIf (missing ≠ [] ∨ unexpected ≠ [])
    ⟨.persistenceCorruption, "recovery lease/task identities disagree (missing=" ++
      toString (missing.insertionSort (· ≤ ·)) ++ ", unexpected=" ++
      toString (unexpected.insertionSort (· ≤ ·)) ++ ")"⟩
  return leaseByTask

/-- `_validate_unowned_worker_evidence`. -/
def validateUnownedWorkerEvidence (leases : List TaskLeaseSnapshot) (decoded : DecodedEvidence) :
    Except Failure Unit :=
  match leases.find? fun lease => lease.state = .unowned ∧ decoded.mentions lease.taskId with
  | some lease => .error ⟨.persistenceCorruption,
      "UNOWNED task '" ++ lease.taskId ++ "' contains worker-side evidence"⟩
  | none => return ()

/-- `_assessment`, without the reason. -/
def recoveryAssessment (lease : TaskLeaseSnapshot) (disposition : RecoveryDisposition)
    (worker : Option (ℕ × ExecutionStatus)) : TaskRecoveryAssessment where
  taskId := lease.taskId
  disposition := disposition
  leaseState := lease.state
  leaseGeneration := lease.generation
  leaseDispatchId := lease.dispatchId
  workerExecutionStatus := worker.map Prod.snd
  workerExecutionEvidenceId := worker.map Prod.fst

/-- `_classify_task`; that an UNOWNED task has no worker-side evidence was checked
before.  The validators of `TaskRecoveryAssessment` hold of every result. -/
def classifyTask (status : RunStatus) (decoded : DecodedEvidence) (lease : TaskLeaseSnapshot) :
    TaskRecoveryAssessment :=
  let currentWorker := lease.dispatchId.bind fun d => decoded.workers.lookup (lease.taskId, d)
  if status ≠ .running then recoveryAssessment lease .noActionRunTerminal none
  else match lease.state with
    | .unowned => recoveryAssessment lease .blockedUnownedDispatchAmbiguity none
    | .active => recoveryAssessment lease .waitActiveOwner currentWorker
    | .expired =>
      if currentWorker.isSome then
        recoveryAssessment lease .resumeFromTerminalEvidence currentWorker
      else recoveryAssessment lease .redispatchCandidateExpiredGeneration none
    | .released =>
      if currentWorker.isSome then
        recoveryAssessment lease .resumeFromTerminalEvidence currentWorker
      else recoveryAssessment lease .blockedReleasedEvidenceGap none

/-- The assessments of the snapshot's tasks, in their order. -/
def classifyTasks (status : RunStatus) (decoded : DecodedEvidence)
    (leases : List TaskLeaseSnapshot) : List String → Except Failure (List TaskRecoveryAssessment)
  | [] => return []
  | taskId :: taskIds =>
    match leases.find? fun lease => lease.taskId = taskId with
    | some lease => do
      return classifyTask status decoded lease ::
        (← classifyTasks status decoded leases taskIds)
    | none => .error ⟨.keyError, taskId⟩

/-- `classify`.  `next(iter(...))` of no lease raises `StopIteration`, which a
coroutine turns into a `RuntimeError`. -/
def classifyRecovery (runId : UUID) (status : RunStatus) (taskIds : List String)
    (evidence : List (EvidenceRow X)) (leases : List TaskLeaseSnapshot) :
    Except Failure RunRecoveryPlan := do
  let leaseByTask ← validateLeases runId taskIds leases
  match leaseByTask with
  | [] => .error ⟨.runtimeError, "coroutine raised StopIteration"⟩
  | first :: _ =>
    let decoded ← decodeWorkerSideEvidence runId taskIds evidence
    validateUnownedWorkerEvidence leaseByTask decoded
    let tasks ← classifyTasks status decoded leaseByTask taskIds
    Raising.raiseIf (¬(tasks.map TaskRecoveryAssessment.taskId).Nodup)
      ⟨.valueError, "recovery plan tasks must have unique task ids"⟩
    return { runId, runStatus := status, observedAt := first.observedAt, tasks }

section Facts

variable {runId : UUID} {status : RunStatus} {taskIds : List String} {decoded : DecodedEvidence}
  {leases : List TaskLeaseSnapshot} {lease : TaskLeaseSnapshot}

theorem classifyTask_eq : ∃ disposition worker,
    classifyTask status decoded lease = recoveryAssessment lease disposition worker := by
  simp only [classifyTask]
  repeat' split
  all_goals exact ⟨_, _, rfl⟩

/-- What an assessment repeats of its lease. -/
theorem classifyTask_lease : (classifyTask status decoded lease).taskId = lease.taskId ∧
    (classifyTask status decoded lease).leaseState = lease.state := by
  obtain ⟨disposition, worker, heq⟩ : ∃ disposition worker,
      classifyTask status decoded lease = recoveryAssessment lease disposition worker :=
    classifyTask_eq
  rw [heq]
  exact ⟨rfl, rfl⟩

/-- The accepted leases are the leases. -/
theorem validateLease_foldlM {accepted result : List TaskLeaseSnapshot}
    (h : leases.foldlM (validateLease runId) accepted = .ok result) :
    result = accepted ++ leases := by
  induction leases generalizing accepted with
  | nil =>
    rw [← Raising.pure_eq_ok.1 h, List.append_nil]
  | cons lease leases ih =>
    obtain ⟨accepted', hround, hrest⟩ := Raising.bind_eq_ok.1 h
    simp only [validateLease, Raising.bind_eq_ok, Raising.pure_eq_ok] at hround
    obtain ⟨_, _, _, _, _, _, rfl⟩ := hround
    rw [ih hrest, List.append_assoc, List.singleton_append]

/-- Each assessment is that of a lease, and they follow the tasks. -/
theorem classifyTasks_eq_ok {tasks : List TaskRecoveryAssessment}
    (h : classifyTasks status decoded leases taskIds = .ok tasks) :
    tasks.map TaskRecoveryAssessment.taskId = taskIds ∧
      ∀ item ∈ tasks, ∃ lease ∈ leases, item = classifyTask status decoded lease := by
  induction taskIds generalizing tasks with
  | nil =>
    obtain rfl := Raising.pure_eq_ok.1 h
    simp
  | cons taskId taskIds ih =>
    unfold classifyTasks at h
    split at h
    · rename_i lease hfind
      simp only [Raising.bind_eq_ok, Raising.pure_eq_ok] at h
      obtain ⟨rest, hrest, rfl⟩ := h
      obtain ⟨hids, hitems⟩ := ih hrest
      have htask : lease.taskId = taskId := by simpa using List.find?_some hfind
      constructor
      · rw [List.map_cons, classifyTask_lease.1, htask, hids]
      · intro item hitem
        rcases List.mem_cons.1 hitem with rfl | hitem
        · exact ⟨lease, List.mem_of_find?_eq_some hfind, rfl⟩
        · exact hitems item hitem
    · cases h

/-- **What a recovery plan says:** its assessments are those of the leases, with
the evidence of the snapshot. -/
theorem classifyRecovery_eq_ok {evidence : List (EvidenceRow X)} {recovery : RunRecoveryPlan}
    (h : classifyRecovery runId status taskIds evidence leases = .ok recovery) :
    ∃ decoded, decodeWorkerSideEvidence runId taskIds evidence = .ok decoded ∧
      recovery.runId = runId ∧ recovery.runStatus = status ∧
      recovery.tasks.map TaskRecoveryAssessment.taskId = taskIds ∧
      ∀ item ∈ recovery.tasks, ∃ lease ∈ leases, item = classifyTask status decoded lease := by
  simp only [classifyRecovery, validateLeases, Raising.bind_eq_ok, Raising.pure_eq_ok] at h
  obtain ⟨_, ⟨accepted, hfold, _, _, rfl⟩, h⟩ := h
  have haccepted : accepted = leases := validateLease_foldlM hfold
  subst haccepted
  cases accepted with
  | nil => cases h
  | cons first rest =>
    simp only [Raising.bind_eq_ok, Raising.pure_eq_ok] at h
    obtain ⟨decoded, hdecoded, _, _, tasks, htasks, _, _, rfl⟩ := h
    obtain ⟨hids, hitems⟩ := classifyTasks_eq_ok htasks
    exact ⟨decoded, hdecoded, rfl, rfl, hids, hitems⟩

end Facts

end DevFlow
