/-
# Preparing and publishing one recovery dispatch

`persistence/reconciliation.py` (`PostgresTaskReconciliationStore`,
`PreparedDispatchPublication`) and `models/reconciliation.py`.

`prepare_task` decides under the row locks of a task what recovery may do, and
writes at most one new REQUESTED attempt.  `guard_prepared_publication` checks
that attempt again and holds the locks across the call of the broker; the
outcome of that call is written in the same transaction.

Corruption errors are raised on histories that no sequence of operations should
produce; `Dispatch.Delivery` shows that none does.
-/

import DevFlow.Persistence.Dispatch
import DevFlow.Persistence.Evidence
import Mathlib.Data.List.Sort

namespace DevFlow

variable {X : Type}

/-- `_required_text` of the reconciliation store. -/
def boundedText (value label : String) (maxLength : ℕ) : Except Failure String := do
  let normalized := strip value
  Raising.raiseIf (normalized = "" ∨ maxLength < normalized.length)
    ⟨.valueError, label ++ " must contain 1-" ++ toString maxLength ++ " characters"⟩
  return normalized

theorem boundedText_eq_ok {value label text : String} {maxLength : ℕ} :
    boundedText value label maxLength = .ok text ↔
      text = strip value ∧ strip value ≠ "" ∧ (strip value).length ≤ maxLength := by
  simp only [boundedText, Raising.bind_eq_ok, Raising.raiseIf_eq_ok, Raising.pure_eq_ok, not_or,
    not_lt]
  constructor
  · rintro ⟨_, hfits, rfl⟩
    exact ⟨rfl, hfits⟩
  · rintro ⟨rfl, hfits⟩
    exact ⟨⟨⟩, hfits, rfl⟩

/-- `TaskReconciliationAction`. -/
inductive ReconciliationAction
  | noActionRunTerminal
  | waitActiveOwner
  | resumeTerminalEvidence
  | waitExistingDispatch
  | blockedPublishFailed
  | blockedReleasedEvidenceGap
  | preparedDispatch
deriving DecidableEq, Repr

/-- `TaskReconciliationDecision`.  Its validators hold of every decision below:
exactly a PREPARED_DISPATCH allows publication, and it has its own attempt. -/
structure ReconciliationDecision where
  runId : UUID
  taskId : String
  observedAt : Timestamp
  action : ReconciliationAction
  reason : String
  leaseGeneration : ℕ
  currentDispatchId : Option UUID
  terminalWorkerEvidenceId : Option ℕ := none
  dispatchAttempt : Option DispatchAttemptRow := none
  publishAllowed : Bool := false
  recoveryAttempt : Bool := false
deriving DecidableEq, Repr

/-- The value of the enumeration member. -/
def AttemptState.value : AttemptState → String
  | .requested => "REQUESTED"
  | .enqueued _ _ _ => "ENQUEUED"
  | .publishFailed _ _ _ => "PUBLISH_FAILED"

/-- The rows of one task, by attempt number (`_locked_attempt_rows`). -/
def attemptRows (db : Database X) (taskId : String) : List DispatchAttemptRow :=
  (db.attempts.filter fun row => row.taskId = taskId).insertionSort
    fun a b => a.attemptNumber ≤ b.attemptNumber

/-- `_decode` of each row in turn. -/
def decodeAttempts : List DispatchAttemptRow → Except Failure Unit
  | [] => return ()
  | row :: rows => do
    decodeAttempt row
    decodeAttempts rows

/-- `_validate_attempt_history`. -/
def validateAttemptHistory (attempts : List DispatchAttemptRow) : Except Failure Unit :=
  let actual := attempts.map DispatchAttemptRow.attemptNumber
  Raising.raiseIf (actual ≠ List.range' 1 attempts.length)
    ⟨.persistenceCorruption, "dispatch attempt numbers must be contiguous from one (actual=" ++
      toString actual ++ ")"⟩

/-- The worker-side evidence of a task: the row of the terminal execution of each
dispatch, and the rows of the phases of each dispatch. -/
structure WorkerSide where
  workers : List (UUID × ℕ)
  dispatches : List ((UUID × DispatchPhase) × ℕ)
deriving DecidableEq, Repr

/-- `dispatch_id in workers`. -/
def WorkerSide.hasWorker (side : WorkerSide) (dispatchId : UUID) : Prop :=
  dispatchId ∈ side.workers.map Prod.fst

instance (side : WorkerSide) (dispatchId : UUID) : Decidable (side.hasWorker dispatchId) :=
  inferInstanceAs (Decidable (_ ∈ _))

/-- `dispatch_id in dispatches`. -/
def WorkerSide.hasDispatch (side : WorkerSide) (dispatchId : UUID) : Prop :=
  dispatchId ∈ side.dispatches.map fun entry => entry.1.1

instance (side : WorkerSide) (dispatchId : UUID) : Decidable (side.hasDispatch dispatchId) :=
  inferInstanceAs (Decidable (_ ∈ _))

/-- `if worker_evidence or dispatch_events`. -/
def WorkerSide.nonempty (side : WorkerSide) : Prop :=
  side.workers ≠ [] ∨ side.dispatches ≠ []

instance (side : WorkerSide) : Decidable side.nonempty :=
  inferInstanceAs (Decidable (_ ∨ _))

/-- `_assert_worker_identity`. -/
def assertWorkerIdentity (payloadRunId : UUID) (payloadTaskId : String) (payloadDispatchId : UUID)
    (runId : UUID) (taskId : String) (knownDispatches : List UUID) : Except Failure Unit := do
  Raising.raiseIf (payloadRunId ≠ runId ∨ payloadTaskId ≠ taskId)
    ⟨.persistenceCorruption,
      "worker-side evidence payload identity disagrees with locked Run/Task"⟩
  Raising.raiseIf (payloadDispatchId ∉ knownDispatches)
    ⟨.persistenceCorruption,
      "worker-side evidence refers to a dispatch missing from the durable ledger"⟩

/-- One turn of the loop of `_validated_worker_side_evidence`. -/
def readWorkerRow (runId : UUID) (taskId : String) (knownDispatches : List UUID)
    (side : WorkerSide) (row : EvidenceRow X) : Except Failure WorkerSide :=
  let invalid : Failure := ⟨.persistenceCorruption, "worker-side evidence " ++ toString row.id ++
    " failed reconciliation validation"⟩
  match row.payload with
  | .workerExecution payload => do
    Raising.raiseIf (row.kind ≠ .workerExecution) invalid
    assertWorkerIdentity payload.runId payload.taskId payload.dispatchId runId taskId
      knownDispatches
    Raising.raiseIf (side.hasWorker payload.dispatchId)
      ⟨.persistenceCorruption, "multiple terminal WORKER_EXECUTION rows exist for one dispatch"⟩
    return { side with workers := side.workers ++ [(payload.dispatchId, row.id)] }
  | .dispatchEvent event => do
    Raising.raiseIf (row.kind ≠ .dispatchEvent) invalid
    assertWorkerIdentity event.runId event.taskId event.dispatchId runId taskId knownDispatches
    Raising.raiseIf ((event.dispatchId, event.phase) ∈ side.dispatches.map Prod.fst)
      ⟨.persistenceCorruption,
        "duplicate worker dispatch phase evidence exists for one dispatch"⟩
    return { side with
      dispatches := side.dispatches ++ [((event.dispatchId, event.phase), row.id)] }
  | .other _ _ => .error invalid

/-- The loop. -/
def readWorkerRows (runId : UUID) (taskId : String) (knownDispatches : List UUID) :
    WorkerSide → List (EvidenceRow X) → Except Failure WorkerSide
  | side, [] => return side
  | side, row :: rows => do
    let side ← readWorkerRow runId taskId knownDispatches side row
    readWorkerRows runId taskId knownDispatches side rows

/-- The `WORKER_EXECUTION` and `DISPATCH_EVENT` rows of one task, by id. -/
def workerSideRows (db : Database X) (taskId : String) : List (EvidenceRow X) :=
  db.evidence.filter fun row =>
    row.taskId = some taskId ∧ (row.kind = .workerExecution ∨ row.kind = .dispatchEvent)

/-- `_validated_worker_side_evidence`. -/
def validatedWorkerSideEvidence (db : Database X) (runId : UUID) (taskId : String)
    (attempts : List DispatchAttemptRow) : Except Failure WorkerSide := do
  let side ← readWorkerRows runId taskId (attempts.map DispatchAttemptRow.dispatchId) ⟨[], []⟩
    (workerSideRows db taskId)
  Raising.raiseIf (∃ entry ∈ side.dispatches,
      entry.1.2 = .completed ∧ ¬side.hasWorker entry.1.1)
    ⟨.persistenceCorruption,
      "COMPLETED dispatch evidence exists without terminal WORKER_EXECUTION evidence"⟩
  return side

/-- `_decision` with the fields that every decision has. -/
def decision (db : Database X) (taskId : String) (observedAt : Timestamp)
    (action : ReconciliationAction) (reason : String) : ReconciliationDecision where
  runId := db.runId
  taskId := taskId
  observedAt := observedAt
  action := action
  reason := reason
  leaseGeneration := db.generation taskId
  currentDispatchId := (db.lease taskId).map Lease.dispatchId

/-- `_existing_dispatch_decision`. -/
def existingDispatchDecision (db : Database X) (taskId : String) (observedAt : Timestamp)
    (attempt : DispatchAttemptRow) (reasonPrefix : String) : ReconciliationDecision :=
  match attempt.state with
  | .publishFailed _ _ _ =>
    { decision db taskId observedAt .blockedPublishFailed
        (reasonPrefix ++ "; PUBLISH_FAILED is an observed broker error, not proof of " ++
          "non-delivery, so automatic redispatch remains blocked.") with
      dispatchAttempt := some attempt }
  | state =>
    { decision db taskId observedAt .waitExistingDispatch
        (reasonPrefix ++ "; " ++ state.value ++ " must settle through the existing " ++
          "dispatch identity rather than another broker publication.") with
      dispatchAttempt := some attempt }

/-- `_insert_attempt` and the PREPARED_DISPATCH decision about it. -/
def prepareAttempt (db : Database X) (now : Timestamp) (freshId : UUID) (taskId : String)
    (attemptNumber : ℕ) (reason : String) (recovery : Bool) :
    Except Failure (ReconciliationDecision × Database X) := do
  let row := requestedAttempt freshId taskId attemptNumber now
  decodeAttempt row
  return ({ decision db taskId now .preparedDispatch reason with
      dispatchAttempt := some row, publishAllowed := true, recoveryAttempt := recovery },
    db.insertAttempt row)

/-- The part of `prepare_task` for an owned task. -/
def prepareOwned (db : Database X) (now : Timestamp) (freshId : UUID) (taskId : String)
    (attempts : List DispatchAttemptRow) (side : WorkerSide) (lease : Lease) :
    Except Failure (ReconciliationDecision × Database X) :=
  match attempts.find? (fun row => row.dispatchId = lease.dispatchId) with
  | none =>
    .error ⟨.persistenceCorruption,
      "owned V1.1 task lease refers to a dispatch missing from the durable ledger"⟩
  | some current =>
    match side.workers.find? (fun entry => entry.1 = lease.dispatchId) with
    | some (_, evidenceId) =>
      return ({ decision db taskId now .resumeTerminalEvidence
          ("Terminal WORKER_EXECUTION evidence exists for the current dispatch; " ++
            "reconciliation must resume downstream instead of rerunning the task.") with
        terminalWorkerEvidenceId := some evidenceId, dispatchAttempt := some current }, db)
    | none =>
      if lease.releasedAt ≠ none then
        return ({ decision db taskId now .blockedReleasedEvidenceGap
            ("Current lease generation is RELEASED without terminal worker evidence; " ++
              "reconciliation cannot silently reopen released ownership history.") with
          dispatchAttempt := some current }, db)
      else if now < lease.leaseUntil then
        return ({ decision db taskId now .waitActiveOwner
            ("Current lease generation is ACTIVE under fresh database time; " ++
              "reconciliation must not race the live owner.") with
          dispatchAttempt := some current }, db)
      else do
        let newer := attempts.filter fun row => current.attemptNumber < row.attemptNumber
        Raising.raiseIf (1 < newer.length)
          ⟨.persistenceCorruption,
            "multiple dispatch attempts exist beyond the current lease generation"⟩
        match newer with
        | attempt :: _ =>
          return (existingDispatchDecision db taskId now attempt
            "Expired generation already has a newer durable dispatch attempt", db)
        | [] =>
          prepareAttempt db now freshId taskId
            ((attempts.getLast?.map DispatchAttemptRow.attemptNumber).getD 0 + 1)
            ("Current lease generation is EXPIRED with no terminal worker evidence and no " ++
              "newer dispatch; locked reconciliation prepared one fresh recovery attempt.") true

/-- The part of `prepare_task` for a task that was never leased. -/
def prepareUnowned (db : Database X) (now : Timestamp) (freshId : UUID) (taskId : String)
    (attempts : List DispatchAttemptRow) (side : WorkerSide) :
    Except Failure (ReconciliationDecision × Database X) := do
  Raising.raiseIf side.nonempty
    ⟨.persistenceCorruption, "UNOWNED task '" ++ taskId ++ "' contains worker-side evidence"⟩
  match attempts.getLast? with
  | some attempt =>
    return (existingDispatchDecision db taskId now attempt
      "UNOWNED task already has durable dispatch intent", db)
  | none =>
    prepareAttempt db now freshId taskId 1
      ("UNOWNED task has no durable dispatch history; locked reconciliation " ++
        "prepared the first dispatch attempt.") false

/-- `prepare_task`; `freshId` is what `uuid4()` returns for a new attempt. -/
def prepareTask (db : Database X) (now : Timestamp) (freshId runId : UUID) (taskId : String) :
    Except Failure (ReconciliationDecision × Database X) := do
  let taskName ← boundedText taskId "task_id" 128
  lockedRun db runId
  let lease ← lockedTask db taskName
  if db.status ≠ .running then
    return (decision db taskName now .noActionRunTerminal
      "Persisted Run is terminal; reconciliation cannot reopen it.", db)
  let attempts := attemptRows db taskName
  decodeAttempts attempts
  validateAttemptHistory attempts
  let side ← validatedWorkerSideEvidence db runId taskName attempts
  match lease with
  | none => prepareUnowned db now freshId taskName attempts side
  | some lease => prepareOwned db now freshId taskName attempts side lease

theorem existingDispatchDecision_taskId {db : Database X} {taskId reasonPrefix : String}
    {observedAt : Timestamp} {attempt : DispatchAttemptRow} :
    (existingDispatchDecision db taskId observedAt attempt reasonPrefix).taskId = taskId := by
  unfold existingDispatchDecision
  split <;> rfl

theorem prepareAttempt_eq_ok {db db' : Database X} {now : Timestamp} {freshId : UUID}
    {taskId reason : String} {attemptNumber : ℕ} {recovery : Bool} {dec : ReconciliationDecision}
    (h : prepareAttempt db now freshId taskId attemptNumber reason recovery = .ok (dec, db')) :
    dec.taskId = taskId ∧ (db' = db ∨ ∃ row, db' = db.insertAttempt row) := by
  simp only [prepareAttempt, Raising.bind_eq_ok, Raising.pure_eq_ok, Prod.mk.injEq] at h
  obtain ⟨_, _, rfl, rfl⟩ := h
  exact ⟨rfl, Or.inr ⟨_, rfl⟩⟩

/-- **A decision names the task it was asked for**, and an attempt is all that is
written for it. -/
theorem prepareTask_eq_ok {db db' : Database X} {now : Timestamp} {freshId runId : UUID}
    {taskId : String} {dec : ReconciliationDecision}
    (h : prepareTask db now freshId runId taskId = .ok (dec, db')) :
    dec.taskId = strip taskId ∧ (db' = db ∨ ∃ row, db' = db.insertAttempt row) := by
  simp only [prepareTask, Raising.bind_eq_ok, boundedText_eq_ok] at h
  obtain ⟨_, ⟨rfl, _⟩, _, _, lease, _, h⟩ := h
  split at h
  · obtain ⟨rfl, rfl⟩ := Prod.mk.inj (Raising.pure_eq_ok.1 h)
    exact ⟨rfl, Or.inl rfl⟩
  simp only [Raising.bind_eq_ok] at h
  obtain ⟨_, _, _, _, side, _, h⟩ := h
  cases lease with
  | none =>
    simp only [prepareUnowned, Raising.bind_eq_ok] at h
    obtain ⟨_, _, h⟩ := h
    split at h
    · obtain ⟨rfl, rfl⟩ := Prod.mk.inj (Raising.pure_eq_ok.1 h)
      exact ⟨existingDispatchDecision_taskId, Or.inl rfl⟩
    · exact prepareAttempt_eq_ok h
  | some lease =>
    simp only [prepareOwned] at h
    split at h
    · cases h
    split at h
    · obtain ⟨rfl, rfl⟩ := Prod.mk.inj (Raising.pure_eq_ok.1 h)
      exact ⟨rfl, Or.inl rfl⟩
    split at h
    · obtain ⟨rfl, rfl⟩ := Prod.mk.inj (Raising.pure_eq_ok.1 h)
      exact ⟨rfl, Or.inl rfl⟩
    split at h
    · obtain ⟨rfl, rfl⟩ := Prod.mk.inj (Raising.pure_eq_ok.1 h)
      exact ⟨rfl, Or.inl rfl⟩
    simp only [Raising.bind_eq_ok] at h
    obtain ⟨_, _, h⟩ := h
    split at h
    · obtain ⟨rfl, rfl⟩ := Prod.mk.inj (Raising.pure_eq_ok.1 h)
      exact ⟨existingDispatchDecision_taskId, Or.inl rfl⟩
    · exact prepareAttempt_eq_ok h

/-- `guard_prepared_publication` up to its `yield`: the attempt that may now be
published. -/
def guardPreparedPublication (db : Database X) (now : Timestamp) (runId : UUID) (taskId : String)
    (dispatchId : UUID) : Except Failure DispatchAttemptRow := do
  let taskName ← boundedText taskId "task_id" 128
  lockedRun db runId
  let lease ← lockedTask db taskName
  Raising.raiseIf (db.status ≠ .running)
    ⟨.persistenceConflict,
      "prepared reconciliation became stale because the Run is no longer RUNNING"⟩
  let attempts := attemptRows db taskName
  decodeAttempts attempts
  validateAttemptHistory attempts
  match attempts.getLast? with
  | none =>
    .error ⟨.persistenceConflict,
      "prepared reconciliation is stale because a different latest dispatch exists"⟩
  | some target =>
    Raising.raiseIf (target.dispatchId ≠ dispatchId)
      ⟨.persistenceConflict,
        "prepared reconciliation is stale because a different latest dispatch exists"⟩
    Raising.raiseIf (target.state ≠ .requested)
      ⟨.persistenceConflict,
        "prepared reconciliation dispatch is no longer unresolved REQUESTED intent"⟩
    let side ← validatedWorkerSideEvidence db runId taskName attempts
    Raising.raiseIf (side.hasWorker target.dispatchId ∨ side.hasDispatch target.dispatchId)
      ⟨.persistenceConflict,
        "prepared dispatch already has worker-side evidence and cannot be published again"⟩
    match lease with
    | none =>
      Raising.raiseIf side.nonempty
        ⟨.persistenceCorruption,
          "UNOWNED task '" ++ taskName ++ "' contains worker-side evidence"⟩
      Raising.raiseIf (attempts.length ≠ 1 ∨ target.attemptNumber ≠ 1)
        ⟨.persistenceConflict,
          "UNOWNED publication guard requires the unique initial dispatch attempt"⟩
      return target
    | some lease =>
      match attempts.find? (fun row => row.dispatchId = lease.dispatchId) with
      | none =>
        .error ⟨.persistenceCorruption,
          "owned task lease refers to a dispatch missing from the durable ledger"⟩
      | some current =>
        Raising.raiseIf (side.hasWorker lease.dispatchId)
          ⟨.persistenceConflict,
            "terminal worker evidence arrived after recovery prepare; rerun is forbidden"⟩
        Raising.raiseIf (lease.releasedAt ≠ none)
          ⟨.persistenceConflict,
            "prepared recovery became stale because lease ownership is RELEASED"⟩
        Raising.raiseIf (now < lease.leaseUntil)
          ⟨.persistenceConflict,
            "prepared recovery became stale because the prior generation is ACTIVE"⟩
        Raising.raiseIf (target.attemptNumber ≠ current.attemptNumber + 1)
          ⟨.persistenceConflict,
            "prepared recovery attempt is not exactly one generation-attempt ahead"⟩
        Raising.raiseIf ((attempts.filter fun row =>
            current.attemptNumber < row.attemptNumber).map DispatchAttemptRow.dispatchId ≠
              [target.dispatchId])
          ⟨.persistenceConflict,
            "prepared recovery no longer uniquely represents the next dispatch attempt"⟩
        return target

/-- What the broker call inside the guard led to. -/
inductive PublicationOutcome
  /-- `mark_enqueued`. -/
  | enqueued (brokerMessageId queueName : String)
  /-- `mark_publish_failed`. -/
  | failed (errorCode errorMessage : String)
deriving DecidableEq, Repr

/-- The state that `PreparedDispatchPublication` writes. -/
def PublicationOutcome.resolve (outcome : PublicationOutcome) (observedAt : Timestamp) :
    Except Failure AttemptState :=
  match outcome with
  | .enqueued brokerMessageId queueName => do
    let messageId ← boundedText brokerMessageId "broker_message_id" 128
    let queue ← boundedText queueName "queue_name" 128
    return .enqueued messageId queue observedAt
  | .failed errorCode errorMessage => do
    let code ← boundedText errorCode "error_code" 64
    let message ← boundedText errorMessage "error_message" 512
    return .publishFailed code message observedAt

/-- `PreparedDispatchPublication.mark_enqueued` and `mark_publish_failed` on the
row that the guard yielded. -/
def markPublication (db : Database X) (observedAt : Timestamp) (target : DispatchAttemptRow)
    (outcome : PublicationOutcome) : Except Failure (Database X) := do
  let state ← outcome.resolve observedAt
  let update := fun row : DispatchAttemptRow => { row with state, updatedAt := observedAt }
  decodeAttempt (update target)
  return db.updateAttempt target.dispatchId update

end DevFlow
