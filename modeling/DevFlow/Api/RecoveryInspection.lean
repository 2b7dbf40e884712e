/-
# What a recovery inspection observes

`persistence/run_recovery.py` (`PostgresRunRecoveryStore`), `canonical_payload` of
`persistence/serialization.py` and the dump of the two models of
`models/dispatch.py`: the liveness of a run, as it is read off its rows.

`inspect` runs two statements in two transactions.  The first one aggregates the
worker evidence, the second one lists the tasks, so the rows may be older in the one
than in the other.  An optional field that is not set is dumped as a JSON `null`,
and `payload->'checkpoint'` is then that `null`, which `IS NOT NULL` does not take
for a missing value.

The verdict and the completed tasks are those that `recoverInterruptedRun` goes by
(`classify_defaultStore`, `mem_succeededRows`), and `inspect_sets_exact_iff` says when
the three sets of task ids are what their names say.  The completed and the
remaining tasks always are.
-/

import DevFlow.Api.DerivedRuns
import DevFlow.Library.Documents
import DevFlow.Persistence.RunLog
import Mathlib.Data.List.ReduceOption
import Mathlib.Logic.Relation

namespace DevFlow

open Documents (Json)

/-- `WorkerExecutionStatus`, the value of the member. -/
def ExecutionStatus.value : ExecutionStatus → String
  | .succeeded => "SUCCEEDED"
  | .failed => "FAILED"

/-- `WorkerDispatchPhase`, the value of the member. -/
def DispatchPhase.value : DispatchPhase → String
  | .received => "RECEIVED"
  | .completed => "COMPLETED"

/-! ## Payloads -/

/-- `model_dump(mode="json")` of the models that are nested in the payloads: the
members of the object, and the duration that no other function reads. -/
structure ModelDumps where
  checkpoint : TaskCheckpoint → List (String × Json)
  continuation : TaskContinuationSummary → List (String × Json)
  runResult : TaskRunResult → List (String × Json)
  failure : FailureReport → List (String × Json)
  durationMs : WorkerExecutionEvidence WorkContent → ℕ
  other : EvidenceKind → WorkContent → List (String × Json)

/-- The dump of a field that may be `None`. -/
def dumpOptional {α : Type} (dump : α → Json) : Option α → Json
  | none => .null
  | some value => dump value

/-- `execution.continuation`. -/
def WorkerExecutionEvidence.continuation (execution : WorkerExecutionEvidence WorkContent) :
    Option TaskContinuationSummary :=
  execution.details.bind ExecutionDetails.continuation

/-- `execution.failures`. -/
def WorkerExecutionEvidence.failures (execution : WorkerExecutionEvidence WorkContent) :
    List FailureReport :=
  execution.details.elim [] ExecutionDetails.failures

/-- `model_dump(mode="json")` of a `WorkerExecutionEvidence`: every field is there,
the optional ones as well. -/
def WorkerExecutionEvidence.modelDump (dumps : ModelDumps)
    (execution : WorkerExecutionEvidence WorkContent) : Json :=
  .obj [("base_commit", .str execution.baseCommit),
    ("branch_name", dumpOptional .str (execution.details.bind ExecutionDetails.branchName)),
    ("checkpoint", dumpOptional (fun value => .obj (dumps.checkpoint value)) execution.checkpoint),
    ("commit_sha", dumpOptional .str execution.commitSha),
    ("continuation",
      dumpOptional (fun value => .obj (dumps.continuation value)) execution.continuation),
    ("dispatch_id", .str execution.dispatchId.str),
    ("duration_ms", .num (dumps.durationMs execution)),
    ("failures", .arr (execution.failures.map fun report => .obj (dumps.failure report))),
    ("run_id", .str execution.runId.str),
    ("run_result", dumpOptional (fun value => .obj (dumps.runResult value)) execution.runResult),
    ("status", .str execution.status.value),
    ("task_id", .str execution.taskId)]

/-- `model_dump(mode="json")` of a `WorkerDispatchEvent`. -/
def WorkerDispatchEvent.modelDump (event : WorkerDispatchEvent) : Json :=
  .obj [("dispatch_id", .str event.dispatchId.str),
    ("outcome", dumpOptional (fun status => .str status.value) event.outcome),
    ("phase", .str event.phase.value),
    ("run_id", .str event.runId.str),
    ("task_id", .str event.taskId)]

/-- `canonical_payload`: the document in the JSONB column of an evidence row. -/
def Payload.canonicalPayload (dumps : ModelDumps) : Payload WorkContent → Json
  | .workerExecution execution => execution.modelDump dumps
  | .dispatchEvent event => event.modelDump
  | .other model content => .obj (dumps.other model content)

/-- `document->>'key'`: the SQL NULL for a member that is missing or a JSON `null`, the
text of a string without its quotes, the JSON text of any other value. -/
def jsonText (key : String) (document : Json) : Option String :=
  match document.get? key with
  | none | some .null => none
  | some (.str text) => some text
  | some value => some (String.ofList value.dumps)

section Dumps

variable {dumps : ModelDumps} {execution : WorkerExecutionEvidence WorkContent}

@[simp] theorem get?_status_modelDump :
    (execution.modelDump dumps).get? "status" = some (.str execution.status.value) :=
  rfl

/-- **The member `checkpoint` is there whether or not the field is set.** -/
@[simp] theorem get?_checkpoint_modelDump :
    (execution.modelDump dumps).get? "checkpoint" =
      some (dumpOptional (fun value => .obj (dumps.checkpoint value)) execution.checkpoint) :=
  rfl

theorem jsonText_status_eq_succeeded :
    jsonText "status" (execution.modelDump dumps) = some "SUCCEEDED" ↔
      execution.status = .succeeded := by
  rw [jsonText, get?_status_modelDump]
  cases execution.status <;> decide

end Dumps

/-! ## Rows -/

/-- `ORDER BY task_id`, in the collation of the database. -/
structure Collation where
  sort : List String → List String
  sort_perm : ∀ ids, (sort ids).Perm ids

/-- `array_agg(task_id ORDER BY task_id)`, with the NULLs at the end. -/
def Collation.arrayAgg (collation : Collation) (ids : List (Option String)) :
    List (Option String) :=
  (collation.sort ids.reduceOption).map some ++ ids.filter fun taskId => taskId = none

/-- `tuple(item for item in ids if item)`. -/
def truthyIds (ids : List (Option String)) : List String :=
  ids.reduceOption.filter fun taskId => taskId ≠ ""

theorem mem_truthyIds {ids : List (Option String)} {t : String} :
    t ∈ truthyIds ids ↔ some t ∈ ids ∧ t ≠ "" := by
  simp [truthyIds, List.reduceOption_mem_iff]

theorem Collation.mem_arrayAgg {collation : Collation} {ids : List (Option String)} {t : String} :
    some t ∈ collation.arrayAgg ids ↔ some t ∈ ids := by
  have hsort : t ∈ collation.sort ids.reduceOption ↔ some t ∈ ids := by
    rw [(collation.sort_perm _).mem_iff, List.reduceOption_mem_iff]
  simp [arrayAgg, hsort]

/-- The columns of `RunRow` that recovery reads and writes beside the status. -/
structure RecoveryColumns where
  startedAt : Timestamp
  baseCommit : String
  displayStatus : RunDisplayStatus
  recoveryReason : Option String
  recoveryCheckedAt : Option Timestamp
  recoveryRunId : Option UUID

/-- What the first statement reads: the rows of one run, and the time at which each
event was written. -/
structure RecoveryRows where
  db : Database WorkContent
  columns : RecoveryColumns
  createdAt : RuntimeEventRow WorkContent → Timestamp

variable {dumps : ModelDumps} {collation : Collation} {db before after : Database WorkContent}

/-- The rows of kind `WORKER_EXECUTION`. -/
def Database.workerExecutions (db : Database WorkContent) : List (EvidenceRow WorkContent) :=
  db.evidence.filter fun row => row.kind = .workerExecution

/-- `last_progress_at`. -/
def RecoveryRows.lastProgressAt (rows : RecoveryRows) : Option Timestamp :=
  ((rows.db.timeline.rows.filter fun row => row.draft.kind ≠ .leaseHeartbeat).map
    rows.createdAt).max?

/-- `has_active_lease`. -/
def Database.hasActiveLease (db : Database WorkContent) (now : Timestamp) : Bool :=
  db.taskIds.any fun taskId => (db.lease taskId).any fun lease => lease.Live now

/-- `has_released_evidence_gap`. -/
def Database.hasReleasedEvidenceGap (dumps : ModelDumps) (db : Database WorkContent) : Bool :=
  db.taskIds.any fun taskId => (db.lease taskId).any fun lease =>
    lease.releasedAt ≠ none && !db.workerExecutions.any fun row =>
      row.taskId = some taskId &&
        jsonText "dispatch_id" (row.payload.canonicalPayload dumps) = some lease.dispatchId.str

/-- `completed_task_ids` of the statement. -/
def Database.completedAgg (dumps : ModelDumps) (collation : Collation)
    (db : Database WorkContent) : List (Option String) :=
  collation.arrayAgg ((db.workerExecutions.filter fun row =>
    jsonText "status" (row.payload.canonicalPayload dumps) = some "SUCCEEDED").map
      EvidenceRow.taskId)

/-- `checkpointed_task_ids` of the statement: `payload->'checkpoint' IS NOT NULL`. -/
def Database.checkpointedAgg (dumps : ModelDumps) (collation : Collation)
    (db : Database WorkContent) : List (Option String) :=
  collation.arrayAgg ((db.workerExecutions.filter fun row =>
    ((row.payload.canonicalPayload dumps).get? "checkpoint").isSome).map EvidenceRow.taskId)

/-- `RunRecoveryObservation`. -/
structure RunRecoveryObservation where
  runId : UUID
  persistedStatus : RunStatus
  displayStatus : RunDisplayStatus
  reason : String
  observedAt : Timestamp
  startedAt : Timestamp
  baseCommit : String
  taskCount : ℕ
  dispatchCount : ℕ
  completedWorkerCount : ℕ
  completedTaskIds : List String
  checkpointedTaskIds : List String
  remainingTaskIds : List String
  lastProgressAt : Option Timestamp
  recoveryRunId : Option UUID

/-- `PostgresRunRecoveryStore`: its thresholds, both positive, in microseconds. -/
structure RunRecoveryStore where
  startupTimeout : ℤ := 120000000
  staleProgress : ℤ := 180000000
  startup_pos : 0 < startupTimeout
  stale_pos : 0 < staleProgress

namespace RunRecoveryStore

/-- `_classify`. -/
def classify (store : RunRecoveryStore) (persistedStatus : RunStatus)
    (startedAt observedAt : Timestamp) (dispatchCount : ℕ) (lastProgressAt : Option Timestamp)
    (hasActiveLease hasReleasedEvidenceGap : Bool) : RunDisplayStatus × String :=
  match persistedStatus with
  | .succeeded => (.succeeded, "运行已成功完成")
  | .failed => (.failed, "运行已失败")
  | .running =>
    let age := observedAt - startedAt
    let stale := lastProgressAt.all fun progress => store.staleProgress ≤ observedAt - progress
    if hasReleasedEvidenceGap then
      (.recoveryRequired, "租约已释放但没有终态 Worker 证据")
    else if store.startupTimeout ≤ age ∧ dispatchCount = 0 then
      (.recoveryRequired, "运行启动后超过阈值仍没有任务分派记录")
    else if store.staleProgress ≤ age ∧ stale ∧ hasActiveLease = false then
      (.recoveryRequired, "超过阈值没有有效开发、验证或修复进展")
    else if hasActiveLease ∧ stale then
      (.waitingExternal, "Worker 仍持有租约，但近期没有有效进展")
    else (.running, "任务正在根据持久化证据执行")

/-- `inspect`, up to the projection: the first statement reads `rows` at time `now`,
and `_task_ids` reads the tasks of `after`. -/
def inspect (store : RunRecoveryStore) (dumps : ModelDumps) (collation : Collation)
    (rows : RecoveryRows) (after : Database WorkContent) (now : Timestamp) (runId : UUID) :
    Except Failure RunRecoveryObservation := do
  lockedRun rows.db runId
  let completed := truthyIds (rows.db.completedAgg dumps collation)
  let checkpointed := (truthyIds (rows.db.checkpointedAgg dumps collation)).filter
    fun taskId => taskId ∉ completed
  let remaining := (collation.sort after.taskIds).filter fun taskId => taskId ∉ completed
  let verdict := store.classify rows.db.status rows.columns.startedAt now
    rows.db.attempts.length rows.lastProgressAt (rows.db.hasActiveLease now)
    (rows.db.hasReleasedEvidenceGap dumps)
  return {
    runId
    persistedStatus := rows.db.status
    displayStatus := verdict.1
    reason := verdict.2
    observedAt := now
    startedAt := rows.columns.startedAt
    baseCommit := rows.columns.baseCommit
    taskCount := rows.db.taskIds.length
    dispatchCount := rows.db.attempts.length
    completedWorkerCount := rows.db.workerExecutions.length
    completedTaskIds := completed
    checkpointedTaskIds := checkpointed
    remainingTaskIds := remaining
    lastProgressAt := rows.lastProgressAt
    recoveryRunId := rows.columns.recoveryRunId }

/-- `_persist_projection`. -/
def persistProjection (columns : RecoveryColumns) (observation : RunRecoveryObservation) :
    RecoveryColumns :=
  { columns with
    displayStatus := observation.displayStatus
    recoveryReason :=
      if observation.displayStatus ≠ .running then some observation.reason else none
    recoveryCheckedAt := some observation.observedAt }

theorem startup_default_pos : (0 : ℤ) < 120000000 := by decide

theorem stale_default_pos : (0 : ℤ) < 180000000 := by decide

/-- The store with the default thresholds. -/
def defaultStore : RunRecoveryStore where
  startup_pos := startup_default_pos
  stale_pos := stale_default_pos

/-- **The verdict on whole seconds**, which the recovery of a run is decided by. -/
theorem classify_defaultStore (status : RunStatus) (seen : Liveness) (startedAt : Timestamp) :
    (defaultStore.classify status startedAt (startedAt + 1000000 * seen.age) seen.dispatchCount
      (seen.sinceProgress.map fun seconds : ℕ => startedAt + 1000000 * seen.age - 1000000 * seconds)
      seen.hasActiveLease seen.hasReleasedEvidenceGap).1 = DevFlow.classify status seen := by
  cases status with
  | succeeded => rfl
  | failed => rfl
  | running =>
    have hstartup : defaultStore.startupTimeout ≤ startedAt + 1000000 * seen.age - startedAt ↔
        120 ≤ seen.age := by
      show (120000000 : ℤ) ≤ _ ↔ _
      omega
    have hage : defaultStore.staleProgress ≤ startedAt + 1000000 * seen.age - startedAt ↔
        180 ≤ seen.age := by
      show (180000000 : ℤ) ≤ _ ↔ _
      omega
    have hstale : ((seen.sinceProgress.map fun seconds : ℕ =>
        startedAt + 1000000 * seen.age - 1000000 * seconds).all fun progress =>
          defaultStore.staleProgress ≤ startedAt + 1000000 * seen.age - progress) =
        seen.sinceProgress.all fun seconds => 180 ≤ seconds := by
      cases seen.sinceProgress with
      | none => rfl
      | some seconds =>
        refine decide_eq_decide.2 ?_
        show (180000000 : ℤ) ≤ startedAt + 1000000 * seen.age -
          (startedAt + 1000000 * seen.age - 1000000 * seconds) ↔ 180 ≤ seconds
        omega
    simp only [classify, DevFlow.classify, hstartup, hage, hstale, apply_ite Prod.fst,
      Bool.not_eq_true]

end RunRecoveryStore

open RunRecoveryStore (defaultStore)

/-! ## The sets of task ids -/

/-- The run has worker evidence of the task with these contents. -/
def Database.WorkerEvidence (db : Database WorkContent) (taskId : String)
    (execution : WorkerExecutionEvidence WorkContent) : Prop :=
  ∃ row ∈ db.evidence, row.kind = .workerExecution ∧ row.taskId = some taskId ∧
    row.payload = .workerExecution execution

/-- The task has SUCCEEDED worker evidence. -/
def Database.Completed (db : Database WorkContent) (taskId : String) : Prop :=
  ∃ execution, db.WorkerEvidence taskId execution ∧ execution.status = .succeeded

/-- The task has worker evidence with a checkpoint. -/
def Database.Checkpointed (db : Database WorkContent) (taskId : String) : Prop :=
  ∃ execution, db.WorkerEvidence taskId execution ∧ execution.checkpoint ≠ none

/-- The rows that the stores write: a payload is of the model of its kind, and a task id
is that of a task and not empty. -/
def Database.Rowwise (db : Database WorkContent) : Prop :=
  ∀ row ∈ db.evidence, row.payload.isModelOf row.kind ∧
    ∀ taskId, row.taskId = some taskId → taskId ∈ db.taskIds ∧ taskId ≠ ""

theorem Database.LogsIntact.rowwise (h : db.LogsIntact) : db.Rowwise := fun row hrow =>
  have haccepted := h.accepted row hrow
  ⟨haccepted.model, fun taskId htask =>
    ⟨(haccepted.task taskId htask).1, (haccepted.task taskId htask).2.1⟩⟩

/-- A row of that kind carries an execution. -/
theorem exists_execution {row : EvidenceRow WorkContent} (hmodel : row.payload.isModelOf row.kind)
    (hkind : row.kind = .workerExecution) :
    ∃ execution, row.payload = .workerExecution execution := by
  cases hpayload : row.payload with
  | workerExecution execution => exact ⟨execution, rfl⟩
  | dispatchEvent event =>
    rw [hpayload, hkind] at hmodel
    cases hmodel
  | other model content =>
    rw [hpayload] at hmodel
    exact absurd hkind hmodel.2.1

/-- **What an aggregate over the worker evidence holds**: the tasks with a row that passes
the test. -/
theorem mem_truthyIds_arrayAgg (h : db.Rowwise) {test : Json → Bool} {t : String} :
    t ∈ truthyIds (collation.arrayAgg ((db.workerExecutions.filter fun row =>
        test (row.payload.canonicalPayload dumps)).map EvidenceRow.taskId)) ↔
      ∃ execution, db.WorkerEvidence t execution ∧ test (execution.modelDump dumps) := by
  simp only [mem_truthyIds, Collation.mem_arrayAgg, List.mem_map, List.mem_filter,
    Database.workerExecutions, decide_eq_true_eq]
  constructor
  · rintro ⟨⟨row, ⟨⟨hrow, hkind⟩, htest⟩, htask⟩, -⟩
    obtain ⟨execution, hpayload⟩ := exists_execution (h row hrow).1 hkind
    rw [hpayload] at htest
    exact ⟨execution, ⟨row, hrow, hkind, htask, hpayload⟩, htest⟩
  · rintro ⟨execution, ⟨row, hrow, hkind, htask, hpayload⟩, htest⟩
    refine ⟨⟨row, ⟨⟨hrow, hkind⟩, ?_⟩, htask⟩, ((h row hrow).2 t htask).2⟩
    rw [hpayload]
    exact htest

theorem mem_completedAgg (h : db.Rowwise) {t : String} :
    t ∈ truthyIds (db.completedAgg dumps collation) ↔ db.Completed t := by
  refine (@mem_truthyIds_arrayAgg _ _ _ h (fun document =>
    jsonText "status" document = some "SUCCEEDED") _).trans ?_
  simp only [decide_eq_true_eq, jsonText_status_eq_succeeded]
  exact Iff.rfl

/-- The rows that a recovery of the run reads. -/
theorem mem_succeededRows {t : String} :
    t ∈ succeededRows db ↔ db.Completed t := by
  simp only [succeededRows, List.mem_filterMap]
  constructor
  · rintro ⟨row, hrow, ht⟩
    split at ht
    · rename_i execution hpayload
      split_ifs at ht with hsucceeded
      exact ⟨execution, ⟨row, hrow, hsucceeded.1, ht, hpayload⟩, hsucceeded.2⟩
    · cases ht
  · rintro ⟨execution, ⟨row, hrow, hkind, htask, hpayload⟩, hstatus⟩
    refine ⟨row, hrow, ?_⟩
    rw [hpayload]
    exact (if_pos ⟨hkind, hstatus⟩).trans htask

/-- **Every task with worker evidence passes the test for a checkpoint.** -/
theorem mem_checkpointedAgg (h : db.Rowwise) {t : String} :
    t ∈ truthyIds (db.checkpointedAgg dumps collation) ↔
      ∃ execution, db.WorkerEvidence t execution := by
  refine (@mem_truthyIds_arrayAgg _ _ _ h (fun document =>
    (document.get? "checkpoint").isSome) _).trans ?_
  simp

/-- The three sets are what their names say, and the first and the last one partition
the tasks of the run. -/
structure RunRecoveryObservation.Exact (observation : RunRecoveryObservation)
    (before after : Database WorkContent) : Prop where
  completed : ∀ t, t ∈ observation.completedTaskIds ↔ before.Completed t
  checkpointed : ∀ t, t ∈ observation.checkpointedTaskIds ↔
    ¬before.Completed t ∧ before.Checkpointed t
  covers : ∀ t, t ∈ after.taskIds ↔
    t ∈ observation.completedTaskIds ∨ t ∈ observation.remainingTaskIds
  disjoint : ∀ t ∈ observation.completedTaskIds, t ∉ observation.remainingTaskIds

/-- Every task that has worker evidence, and none that succeeded, has some with a
checkpoint. -/
def Database.FailuresCheckpointed (db : Database WorkContent) : Prop :=
  ∀ t, (∃ execution, db.WorkerEvidence t execution) → ¬db.Completed t → db.Checkpointed t

variable {store : RunRecoveryStore} {rows : RecoveryRows} {now : Timestamp}

/-- **What `inspect` returns**, of rows that the stores wrote: the completed tasks, the other
tasks with worker evidence, and the other tasks of the later statement. -/
theorem inspect_sets (h : rows.db.Rowwise) :
    ∃ observation, store.inspect dumps collation rows after now rows.db.runId =
        .ok observation ∧
      (∀ t, t ∈ observation.completedTaskIds ↔ rows.db.Completed t) ∧
      (∀ t, t ∈ observation.checkpointedTaskIds ↔
        (∃ execution, rows.db.WorkerEvidence t execution) ∧ ¬rows.db.Completed t) ∧
      ∀ t, t ∈ observation.remainingTaskIds ↔ t ∈ after.taskIds ∧ ¬rows.db.Completed t := by
  refine ⟨_, Raising.bind_eq_ok.2 ⟨⟨⟩, lockedRun_eq_ok.2 rfl, rfl⟩, fun t => mem_completedAgg h,
    fun t => ?_, fun t => ?_⟩
  · simp only [List.mem_filter, decide_eq_true_eq, mem_checkpointedAgg h, mem_completedAgg h]
  · simp only [List.mem_filter, decide_eq_true_eq, mem_completedAgg h,
      (collation.sort_perm _).mem_iff]

/-- **The verdict and the completed tasks are those of the first statement.** -/
theorem inspect_first_statement {runId : UUID} {observation : RunRecoveryObservation}
    (h : store.inspect dumps collation rows before now runId = .ok observation) :
    ∃ observation', store.inspect dumps collation rows after now runId = .ok observation' ∧
      observation'.displayStatus = observation.displayStatus ∧
      observation'.completedTaskIds = observation.completedTaskIds := by
  obtain ⟨_, hlocked, heq⟩ := Raising.bind_eq_ok.1 h
  obtain rfl := Raising.pure_eq_ok.1 heq
  exact ⟨_, Raising.bind_eq_ok.2 ⟨_, hlocked, rfl⟩, rfl, rfl⟩

/-- Any number of transactions of the stores on one run. -/
abbrev Database.ExtendsMany : Database WorkContent → Database WorkContent → Prop :=
  Relation.ReflTransGen Database.Extends

theorem Database.LogsIntact.extendsMany (h : before.LogsIntact) (hmany : before.ExtendsMany after) :
    after.LogsIntact := by
  induction hmany with
  | refl => exact h
  | tail _ hstep ih => exact ih.step hstep

/-- The tasks of a run are those it was started with. -/
theorem Database.ExtendsMany.taskIds (h : before.ExtendsMany after) :
    after.taskIds = before.taskIds := by
  induction h with
  | refl => rfl
  | tail _ hstep ih => exact hstep.taskIds.trans ih

/-- The dumps of nested models without their members. -/
def bareDumps : ModelDumps where
  checkpoint := fun _ => []
  continuation := fun _ => []
  runResult := fun _ => []
  failure := fun _ => []
  durationMs := fun _ => 0
  other := fun _ _ => []

/-- The order of the code points. -/
def codePointCollation : Collation where
  sort := List.insertionSort (· ≤ ·)
  sort_perm := List.perm_insertionSort (· ≤ ·)

/-- A failed execution of task `a`. -/
def failedExecution (checkpoint : Option TaskCheckpoint) :
    WorkerExecutionEvidence WorkContent where
  dispatchId := ⟨11⟩
  runId := ⟨1⟩
  taskId := "a"
  status := .failed
  baseCommit := sampleOid '1'
  commitSha := none
  content := .execution
    { branchName := none
      checkpoint
      continuation := none
      runResult := none
      failures := [⟨.toolFailure, "tool failed", false⟩] }
  success_commit := ExecutionStatus.failed_not_succeeded
  failure_commit := ExecutionStatus.failed_commit

/-- The run of task `a`, started. -/
def startedOfA : Database WorkContent :=
  { Database.created WorkContent ⟨1⟩ ["a"] with
    timeline := Timeline.push ⟨0, []⟩ (runStartedEvent ⟨9⟩ (sampleOid '1') 1 none) }

theorem insertRun_startedOfA :
    insertRun [⟨9⟩] [] ⟨9⟩ ⟨1⟩ ["a"] (sampleOid '1') none "" = .ok startedOfA :=
  rfl

/-- The key of the terminal evidence of the dispatch. -/
def executionKeyOfA : String :=
  "dispatch:" ++ (UUID.mk 11).str ++ ":execution"

/-- The row of the failed execution. -/
def failedRow (checkpoint : Option TaskCheckpoint) : EvidenceRow WorkContent :=
  newEvidenceRow startedOfA executionKeyOfA .workerExecution
    (.workerExecution (failedExecution checkpoint)) (some "a") (some "worker") none

/-- The event of that row. -/
def failedRowEvent (checkpoint : Option TaskCheckpoint) : RuntimeEventDraft WorkContent where
  eventKey := .evidence 1
  kind := .evidenceRecorded
  source := .worker
  taskId := some "a"
  dispatchId := none
  generation := none
  message := "Accepted WORKER_EXECUTION evidence."
  attributes := .evidence (failedRow checkpoint)

/-- The run with that row. -/
def failedRows (checkpoint : Option TaskCheckpoint) : RecoveryRows where
  db := startedOfA.insertEvidence (failedRow checkpoint)
    (startedOfA.timeline.push (failedRowEvent checkpoint))
  columns :=
    { startedAt := 0
      baseCommit := sampleOid '1'
      displayStatus := .running
      recoveryReason := none
      recoveryCheckedAt := none
      recoveryRunId := none }
  createdAt := fun _ => 0

theorem strip_executionKeyOfA : requiredText executionKeyOfA "evidence_key" 255 =
    .ok executionKeyOfA := by
  decide +kernel

theorem appendEvidence_failedRow (checkpoint : Option TaskCheckpoint) :
    appendEvidence startedOfA 0 ⟨1⟩ executionKeyOfA .workerExecution
      (.workerExecution (failedExecution checkpoint)) (some "a") (some "worker") none
      none = .ok (1, (failedRows checkpoint).db) := by
  rw [appendEvidence, appendEvidenceWith, strip_executionKeyOfA]
  rfl

theorem startedOfA_extends (checkpoint : Option TaskCheckpoint) :
    startedOfA.ExtendsMany (failedRows checkpoint).db :=
  .single (appendEvidenceWith_extends evidenceEventDraft_refuses
    (appendEvidence_failedRow checkpoint))

/-- **The sets of an observation are exact exactly if every failed task has a checkpoint.**
The run was started, then any transactions took place, the first statement read its rows,
and after any further transactions the second one read its tasks. -/
theorem inspect_sets_exact_iff {projects runs : List UUID} {projectId runId : UUID}
    {taskIds : List String} {commit conflict : String} {dagSha256 : Option String}
    {started : Database WorkContent} (store : RunRecoveryStore) (dumps : ModelDumps)
    (collation : Collation) (rows : RecoveryRows) (after : Database WorkContent) (now : Timestamp)
    (hstart : insertRun projects runs projectId runId taskIds commit dagSha256 conflict =
      .ok started)
    (hbefore : started.ExtendsMany rows.db) (hafter : rows.db.ExtendsMany after) :
    ∃ observation, store.inspect dumps collation rows after now rows.db.runId =
        .ok observation ∧
      (observation.Exact rows.db after ↔ rows.db.FailuresCheckpointed) := by
  have hrowwise := ((insertRun_logs hstart).1.extendsMany hbefore).rowwise
  obtain ⟨observation, hinspect, hcompleted, hcheckpointed, hremaining⟩ :=
    @inspect_sets dumps collation after store _ now hrowwise
  refine ⟨observation, hinspect, ?_, fun hfailures => ⟨hcompleted, fun t => ?_, fun t => ?_, ?_⟩⟩
  · intro hexact t hevidence hfailed
    exact ((hexact.checkpointed t).1 ((hcheckpointed t).2 ⟨hevidence, hfailed⟩)).2
  · rw [hcheckpointed]
    constructor
    · rintro ⟨hevidence, hfailed⟩
      exact ⟨hfailed, hfailures t hevidence hfailed⟩
    · rintro ⟨hfailed, execution, hevidence, -⟩
      exact ⟨⟨execution, hevidence⟩, hfailed⟩
  · rw [hcompleted, hremaining, hafter.taskIds]
    constructor
    · intro ht
      by_cases hdone : rows.db.Completed t
      · exact Or.inl hdone
      · exact Or.inr ⟨ht, hdone⟩
    · rintro (⟨_, ⟨row, hrow, -, htask, -⟩, -⟩ | ⟨ht, -⟩)
      · exact ((hrowwise row hrow).2 t htask).1
      · exact ht
  · intro t ht hleft
    exact ((hremaining t).1 hleft).2 ((hcompleted t).1 ht)

/-- Worker evidence of the run with one failed task. -/
theorem workerEvidence_failedRows {checkpoint : Option TaskCheckpoint} {t : String}
    {execution : WorkerExecutionEvidence WorkContent} :
    (failedRows checkpoint).db.WorkerEvidence t execution ↔
      t = "a" ∧ execution = failedExecution checkpoint := by
  constructor
  · rintro ⟨row, hrow, -, htask, hpayload⟩
    obtain rfl := List.mem_singleton.1 hrow
    exact ⟨(Option.some.inj htask).symm, (Payload.workerExecution.inj hpayload).symm⟩
  · rintro ⟨rfl, rfl⟩
    exact ⟨failedRow checkpoint, List.mem_singleton_self _, rfl, rfl, rfl⟩

/-- A checkpoint of the failed task. -/
def checkpointOfA : TaskCheckpoint where
  taskId := "a"
  baseCommit := sampleOid '1'
  commitSha := sampleOid '2'
  changedFiles := ["a.py"]
  reason := .timeLimit
  contextState := none

/-- With a checkpoint in its evidence the sets are exact. -/
theorem inspect_sets_exact_checkpointed :
    ∃ observation, defaultStore.inspect bareDumps codePointCollation
        (failedRows (some checkpointOfA)) (failedRows (some checkpointOfA)).db 0 ⟨1⟩ =
          .ok observation ∧
      observation.Exact (failedRows (some checkpointOfA)).db
        (failedRows (some checkpointOfA)).db := by
  obtain ⟨observation, hinspect, hexact⟩ := inspect_sets_exact_iff defaultStore
    bareDumps codePointCollation (failedRows (some checkpointOfA))
    (failedRows (some checkpointOfA)).db 0 insertRun_startedOfA
    (startedOfA_extends (some checkpointOfA)) .refl
  refine ⟨observation, hinspect, hexact.2 fun t hevidence _ => ?_⟩
  obtain ⟨execution, hexecution⟩ := hevidence
  obtain ⟨-, rfl⟩ := workerEvidence_failedRows.1 hexecution
  exact ⟨_, hexecution, Option.some_ne_none _⟩

/-- Without one the failed task is among the checkpointed ones all the same. -/
theorem inspect_checkpointed_without_checkpoint :
    ∃ observation, defaultStore.inspect bareDumps codePointCollation
        (failedRows none) (failedRows none).db 0 ⟨1⟩ = .ok observation ∧
      insertRun [⟨9⟩] [] ⟨9⟩ ⟨1⟩ ["a"] (sampleOid '1') none "" = .ok startedOfA ∧
      appendEvidence startedOfA 0 ⟨1⟩ executionKeyOfA .workerExecution
        (.workerExecution (failedExecution none)) (some "a") (some "worker") none none =
          .ok (1, (failedRows none).db) ∧
      "a" ∈ observation.checkpointedTaskIds ∧ ¬(failedRows none).db.Checkpointed "a" ∧
      ¬observation.Exact (failedRows none).db (failedRows none).db := by
  have hrowwise := ((insertRun_logs insertRun_startedOfA).1.extendsMany
    (startedOfA_extends none)).rowwise
  obtain ⟨observation, hinspect, -, hcheckpointed, -⟩ := @inspect_sets bareDumps
    codePointCollation (failedRows none).db defaultStore _ 0 hrowwise
  have hevidence : (failedRows none).db.WorkerEvidence "a" (failedExecution none) :=
    workerEvidence_failedRows.2 ⟨rfl, rfl⟩
  have hfailed : ¬(failedRows none).db.Completed "a" := by
    rintro ⟨execution, hexecution, hstatus⟩
    obtain ⟨-, rfl⟩ := workerEvidence_failedRows.1 hexecution
    cases hstatus
  have hnone : ¬(failedRows none).db.Checkpointed "a" := by
    rintro ⟨execution, hexecution, hcheckpoint⟩
    obtain ⟨-, rfl⟩ := workerEvidence_failedRows.1 hexecution
    exact hcheckpoint rfl
  have hlisted : "a" ∈ observation.checkpointedTaskIds :=
    (hcheckpointed "a").2 ⟨⟨_, hevidence⟩, hfailed⟩
  exact ⟨observation, hinspect, insertRun_startedOfA, appendEvidence_failedRow none, hlisted, hnone,
    fun hexact => hnone ((hexact.checkpointed "a").1 hlisted).2⟩

end DevFlow
