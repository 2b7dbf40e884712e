/-
# Reconciliation of a run

`runtime/run_reconciler.py` and the models of `models/run_reconciliation.py`.
`DAGRunReconciliationPlanner.build_plan` derives the frontier of the task graph
from the accepted evidence; `DAGRunReconciler.reconcile_run` orders the
candidates by their complexity, drops what exceeds the HIGH slot or a contract
gate, takes as many as there are free slots, reconciles each of them, and builds
an outcome whose validator compares the reconciled tasks with the plan.
-/

import DevFlow.Models.Dag
import DevFlow.Persistence.Reconciliation
import Mathlib.Data.Finset.Dedup
import Mathlib.Data.Prod.Lex

namespace DevFlow

/-- `TaskExecutionBaseBasis`. -/
inductive TaskExecutionBaseBasis
  | runBase
  | mergeQueueSnapshot
deriving DecidableEq, Repr

theorem TaskExecutionBaseBasis.runBase_alone :
    runBase = runBase → (none : Option ℕ) = none ∧ (none : Option String) = none := by
  simp

theorem TaskExecutionBaseBasis.runBase_not_snapshot :
    runBase = mergeQueueSnapshot → (none : Option ℕ) ≠ none ∧ (none : Option String) ≠ none := by
  simp

/-- `TaskExecutionBase`, with `validate_provenance`; the digest of the source
row, which nothing here compares, is left out. -/
structure TaskExecutionBase where
  runId : UUID
  taskId : String
  commitSha : String
  basis : TaskExecutionBaseBasis
  sourceEvidenceId : Option ℕ
  integrationRef : Option String
  run_base : basis = .runBase → sourceEvidenceId = none ∧ integrationRef = none
  snapshot : basis = .mergeQueueSnapshot → sourceEvidenceId ≠ none ∧ integrationRef ≠ none
deriving DecidableEq

/-- `DAGTaskFrontierState`. -/
inductive FrontierState
  | runTerminal
  | succeeded
  | failed
  | blockedUpstreamFailure
  | waitDependencies
  | waitActiveOwner
  | blockedRecoveryGap
  | waitIntegrationBase
  | reconcileCandidate
deriving DecidableEq, Repr

/-- `RecoveryDisposition`. -/
inductive RecoveryDisposition
  | noActionRunTerminal
  | waitActiveOwner
  | resumeFromTerminalEvidence
  | redispatchCandidateExpiredGeneration
  | blockedUnownedDispatchAmbiguity
  | blockedReleasedEvidenceGap
deriving DecidableEq, Repr

/-- `TaskRecoveryAssessment`. -/
structure TaskRecoveryAssessment where
  taskId : String
  disposition : RecoveryDisposition
  leaseState : LeaseState
  leaseGeneration : ℕ
  leaseDispatchId : Option UUID
  workerExecutionStatus : Option ExecutionStatus
  workerExecutionEvidenceId : Option ℕ
deriving DecidableEq, Repr

/-- `RunRecoveryPlan`. -/
structure RunRecoveryPlan where
  runId : UUID
  runStatus : RunStatus
  observedAt : Timestamp
  tasks : List TaskRecoveryAssessment

/-- `DAGTaskReconciliationRecord`. -/
structure TaskReconciliationRecord where
  runId : UUID
  taskId : String
  dependsOn : List String
  topologicalIndex : ℕ
  frontierState : FrontierState
  leaseState : LeaseState
  leaseGeneration : ℕ
  leaseDispatchId : Option UUID
  workerExecutionStatus : Option ExecutionStatus
  workerExecutionEvidenceId : Option ℕ
  executionBase : Option TaskExecutionBase
  reason : String
deriving DecidableEq

/-- `DAGTaskReconciliationRecord.validate_record`. -/
def TaskReconciliationRecord.validate (record : TaskReconciliationRecord) :
    Except Failure Unit := do
  Raising.raiseIf (record.workerExecutionStatus.isNone ≠ record.workerExecutionEvidenceId.isNone)
    ⟨.valueError, "worker terminal status and evidence id must appear together"⟩
  Raising.raiseIf (record.executionBase.any fun base =>
      base.runId ≠ record.runId ∨ base.taskId ≠ record.taskId)
    ⟨.valueError, "execution-base identity must match the frontier task"⟩
  match record.frontierState with
  | .succeeded =>
    Raising.raiseIf (record.workerExecutionStatus ≠ some .succeeded)
      ⟨.valueError, "SUCCEEDED frontier tasks require successful worker evidence"⟩
  | .failed =>
    Raising.raiseIf (record.workerExecutionStatus ≠ some .failed)
      ⟨.valueError, "FAILED frontier tasks require failed worker evidence"⟩
  | .reconcileCandidate =>
    Raising.raiseIf (record.executionBase = none)
      ⟨.valueError, "reconcile candidates require an evidence-bound execution base"⟩
    Raising.raiseIf (record.workerExecutionStatus ≠ none)
      ⟨.valueError, "reconcile candidates must not already be terminal"⟩
  | _ => return ()

/-- `DAGRunReconciliationPlan`, without the digest and the source of the graph. -/
structure RunReconciliationPlan where
  runId : UUID
  runStatus : RunStatus
  observedAt : Timestamp
  topologicalOrder : List String
  completedTaskIds : List String
  failedTaskIds : List String
  blockedTaskIds : List String
  readyTaskIds : List String
  reconcileTaskIds : List String
  tasks : List TaskReconciliationRecord

/-- `DAGRunReconciliationPlan.validate_plan`. -/
def RunReconciliationPlan.validate (plan : RunReconciliationPlan) : Except Failure Unit := do
  let order := plan.topologicalOrder
  Raising.raiseIf (¬order.Nodup) ⟨.valueError, "topological_order must contain unique task ids"⟩
  Raising.raiseIf (plan.tasks.map TaskReconciliationRecord.taskId ≠ order)
    ⟨.valueError, "frontier task records must follow the complete topological order"⟩
  Raising.raiseIf (plan.tasks.any fun record => record.runId ≠ plan.runId)
    ⟨.valueError, "frontier task records must belong to the plan Run"⟩
  let named := [("completed", plan.completedTaskIds), ("failed", plan.failedTaskIds),
    ("blocked", plan.blockedTaskIds), ("ready", plan.readyTaskIds),
    ("reconcile", plan.reconcileTaskIds)]
  named.forM fun (label, taskIds) => do
    Raising.raiseIf (¬taskIds.Nodup) ⟨.valueError, label ++ " task ids must be unique"⟩
    Raising.raiseIf (taskIds.any fun t => t ∉ order)
      ⟨.valueError, label ++ " task ids are not present in the DAG"⟩
  Raising.raiseIf (plan.completedTaskIds.any fun t => t ∈ plan.failedTaskIds)
    ⟨.valueError, "completed and failed task ids must not overlap"⟩
  Raising.raiseIf (plan.reconcileTaskIds.any fun t => t ∉ plan.readyTaskIds)
    ⟨.valueError, "only DAG-ready tasks may become reconciliation candidates"⟩

/-- The position of one task, its reason, and the base of a candidate.  `resolve`
is the execution-base resolver; that a base is unavailable is the one error that
is caught. -/
def frontier (status : RunStatus) (completed failed blocked ready : List String)
    (resolve : String → Except Failure TaskExecutionBase) (assessment : TaskRecoveryAssessment) :
    Except Failure (FrontierState × String × Option TaskExecutionBase) :=
  let taskId := assessment.taskId
  if status ≠ .running then
    return (.runTerminal, "Persisted Run is terminal; DAG reconciliation cannot reopen it.", none)
  else if taskId ∈ completed then
    return (.succeeded, "Accepted successful WORKER_EXECUTION evidence is terminal task truth; " ++
      "reconciliation must not rerun it.", none)
  else if taskId ∈ failed then
    return (.failed, "Accepted failed WORKER_EXECUTION evidence is terminal task truth; " ++
      "recovery does not relabel semantic/runtime failure as crash retry.", none)
  else if taskId ∈ blocked then
    return (.blockedUpstreamFailure,
      "Validated DAG dependencies place this task downstream of failed work.", none)
  else if taskId ∉ ready then
    return (.waitDependencies,
      "One or more validated DAG dependencies lack successful terminal evidence.", none)
  else match assessment.leaseState with
    | .active => do
      Raising.raiseIf (assessment.disposition ≠ .waitActiveOwner)
        ⟨.persistenceCorruption, "ACTIVE task '" ++ taskId ++
          "' has inconsistent recovery disposition"⟩
      return (.waitActiveOwner, "Task is DAG-ready but its current fenced generation is still " ++
        "ACTIVE under database time.", none)
    | .released => do
      Raising.raiseIf (assessment.disposition ≠ .blockedReleasedEvidenceGap)
        ⟨.persistenceCorruption, "RELEASED task '" ++ taskId ++
          "' has inconsistent recovery disposition"⟩
      return (.blockedRecoveryGap, "Released ownership lacks terminal worker evidence; DAG " ++
        "recovery cannot silently reacquire it.", none)
    | .unowned | .expired =>
      match resolve taskId with
      | .ok base =>
        return (.reconcileCandidate, "DAG dependencies and execution base are accepted; Step 5.3 " ++
          "must freshly revalidate ownership and dispatch history before any broker publication.",
          some base)
      | .error failure =>
        if failure.kind = .taskExecutionBaseUnavailable then
          return (.waitIntegrationBase, failure.message, none)
        else .error failure

/-- The records of the tasks of `order`, the first of which has index `index`. -/
def frontierRecords (runId : UUID) (dag : TaskDAG) (recovery : RunRecoveryPlan)
    (place : TaskRecoveryAssessment →
      Except Failure (FrontierState × String × Option TaskExecutionBase)) :
    ℕ → List String → Except Failure (List TaskReconciliationRecord)
  | _, [] => return []
  | index, taskId :: order => do
    match recovery.tasks.find? (fun item => item.taskId = taskId), dag.node? taskId with
    | some assessment, some node =>
      let (state, reason, executionBase) ← place assessment
      let record : TaskReconciliationRecord :=
        { runId, taskId, reason, executionBase
          dependsOn := node.dependsOn
          topologicalIndex := index
          frontierState := state
          leaseState := assessment.leaseState
          leaseGeneration := assessment.leaseGeneration
          leaseDispatchId := assessment.leaseDispatchId
          workerExecutionStatus := assessment.workerExecutionStatus
          workerExecutionEvidenceId := assessment.workerExecutionEvidenceId }
      record.validate
      return record :: (← frontierRecords runId dag recovery place (index + 1) order)
    | _, _ => .error ⟨.keyError, "unknown task id: " ++ taskId⟩

/-- `build_plan`. -/
def buildPlan (runId : UUID) (status : RunStatus) (snapshotTaskIds : List String) (dag : TaskDAG)
    (recovery : RunRecoveryPlan) (resolve : String → Except Failure TaskExecutionBase) :
    Except Failure RunReconciliationPlan := do
  Raising.raiseIf (recovery.runId ≠ runId)
    ⟨.persistenceCorruption, "DAG reconciliation Run identities disagree"⟩
  Raising.raiseIf (recovery.runStatus ≠ status)
    ⟨.persistenceCorruption, "recovery plan Run status disagrees with persisted Run"⟩
  Raising.raiseIf (snapshotTaskIds.toFinset ≠ dag.taskIds.toFinset ∨
      snapshotTaskIds.toFinset ≠ (recovery.tasks.map TaskRecoveryAssessment.taskId).toFinset)
    ⟨.persistenceCorruption,
      "persisted Run, DAG, and recovery task identities must match exactly"⟩
  let order := dag.topologicalOrder
  let having := fun status => (recovery.tasks.filter fun item =>
    item.workerExecutionStatus = some status).map TaskRecoveryAssessment.taskId
  let completed := having .succeeded
  let failed := having .failed
  let corrupt := fun failure : Failure =>
    (⟨.persistenceCorruption, "persisted DAG terminal evidence is inconsistent: " ++
      failure.message⟩ : Failure)
  let blocked ← (dag.blockedTaskIds failed).mapError corrupt
  let ready ← (dag.readyTaskIds completed failed).mapError corrupt
  let advanced := blocked.filter fun t => recovery.tasks.any fun item =>
    item.taskId = t ∧ (item.workerExecutionStatus ≠ none ∨ item.leaseState ≠ .unowned)
  Raising.raiseIf (status = .running ∧ advanced ≠ [])
    ⟨.persistenceCorruption,
      "tasks downstream of accepted failure already contain execution ownership: " ++
        ", ".intercalate (advanced.insertionSort (· ≤ ·))⟩
  let records ← frontierRecords runId dag recovery
    (frontier status completed failed blocked ready resolve) 0 order
  let plan : RunReconciliationPlan :=
    { runId
      runStatus := status
      observedAt := recovery.observedAt
      topologicalOrder := order
      completedTaskIds := order.filter fun t => t ∈ completed
      failedTaskIds := order.filter fun t => t ∈ failed
      blockedTaskIds := order.filter fun t => t ∈ blocked
      readyTaskIds := order.filter fun t => t ∈ ready
      reconcileTaskIds := (records.filter fun record =>
        record.frontierState = .reconcileCandidate).map TaskReconciliationRecord.taskId
      tasks := records }
  plan.validate
  return plan

/-- The candidates of a plan are some of the graph's tasks, in topological
order, and that order has no task twice. -/
theorem buildPlan_eq_ok {runId : UUID} {status : RunStatus} {snapshotTaskIds : List String}
    {dag : TaskDAG} {recovery : RunRecoveryPlan}
    {resolve : String → Except Failure TaskExecutionBase} {plan : RunReconciliationPlan}
    (h : buildPlan runId status snapshotTaskIds dag recovery resolve = .ok plan) :
    plan.reconcileTaskIds.Sublist dag.topologicalOrder ∧ dag.topologicalOrder.Nodup := by
  simp only [buildPlan, Raising.bind_eq_ok, Raising.pure_eq_ok] at h
  obtain ⟨_, _, _, _, _, _, blocked, _, ready, _, _, _, records, _, _, hvalid, rfl⟩ := h
  simp only [RunReconciliationPlan.validate, Raising.bind_eq_ok, Raising.raiseIf_eq_ok, not_not]
    at hvalid
  obtain ⟨_, hnodup, _, hrecords, _⟩ := hvalid
  refine ⟨?_, hnodup⟩
  rw [← hrecords]
  exact List.filter_sublist.map _

/-- Where `frontier` places a candidate, and where a recovery gap. -/
theorem frontier_eq_ok {status : RunStatus} {completed failed blocked ready : List String}
    {resolve : String → Except Failure TaskExecutionBase} {assessment : TaskRecoveryAssessment}
    {state : FrontierState} {reason : String} {executionBase : Option TaskExecutionBase}
    (h : frontier status completed failed blocked ready resolve assessment =
      .ok (state, reason, executionBase)) :
    (state = .reconcileCandidate → status = .running ∧ assessment.taskId ∈ ready ∧
      (assessment.leaseState = .unowned ∨ assessment.leaseState = .expired)) ∧
    (state = .blockedRecoveryGap → status = .running ∧ assessment.taskId ∈ ready ∧
      assessment.leaseState = .released ∧
      assessment.disposition = .blockedReleasedEvidenceGap) := by
  simp only [frontier] at h
  split_ifs at h with hstatus hcompleted hfailed hblocked hready
  · obtain ⟨rfl, -⟩ := Prod.mk.inj (Raising.pure_eq_ok.1 h)
    simp
  · obtain ⟨rfl, -⟩ := Prod.mk.inj (Raising.pure_eq_ok.1 h)
    simp
  · obtain ⟨rfl, -⟩ := Prod.mk.inj (Raising.pure_eq_ok.1 h)
    simp
  · obtain ⟨rfl, -⟩ := Prod.mk.inj (Raising.pure_eq_ok.1 h)
    simp
  rotate_left
  · obtain ⟨rfl, -⟩ := Prod.mk.inj (Raising.pure_eq_ok.1 h)
    simp
  rw [not_not] at hstatus
  -- a ready task of a RUNNING run: the lease decides
  cases hlease : assessment.leaseState with
  | active =>
    simp only [hlease, Raising.bind_eq_ok, Raising.pure_eq_ok, Prod.mk.injEq] at h
    obtain ⟨_, _, rfl, -⟩ := h
    simp
  | released =>
    simp only [hlease, Raising.bind_eq_ok, Raising.pure_eq_ok, Prod.mk.injEq,
      Raising.raiseIf_eq_ok, not_not] at h
    obtain ⟨_, hdisposition, rfl, -⟩ := h
    simp [hstatus, hready, hdisposition]
  | unowned | expired =>
    simp only [hlease] at h
    cases hresolve : resolve assessment.taskId with
    | ok base =>
      simp only [hresolve, Raising.pure_eq_ok, Prod.mk.injEq] at h
      obtain ⟨rfl, -⟩ := h
      simp [hstatus, hready]
    | error failure =>
      simp only [hresolve] at h
      split_ifs at h
      obtain ⟨rfl, -⟩ := Prod.mk.inj (Raising.pure_eq_ok.1 h)
      simp

/-- Every record is about a task of the order and its assessment. -/
theorem frontierRecords_mem {runId : UUID} {dag : TaskDAG} {recovery : RunRecoveryPlan}
    {place : TaskRecoveryAssessment →
      Except Failure (FrontierState × String × Option TaskExecutionBase)}
    {index : ℕ} {order : List String} {records : List TaskReconciliationRecord}
    (h : frontierRecords runId dag recovery place index order = .ok records) :
    ∀ record ∈ records, ∃ assessment ∈ recovery.tasks, assessment.taskId = record.taskId ∧
      ∃ reason executionBase,
        place assessment = .ok (record.frontierState, reason, executionBase) := by
  induction order generalizing index records with
  | nil =>
    obtain rfl := Raising.pure_eq_ok.1 h
    simp
  | cons taskId order ih =>
    simp only [frontierRecords] at h
    split at h
    · rename_i assessment node hfind hnode
      simp only [Raising.bind_eq_ok, Raising.pure_eq_ok] at h
      obtain ⟨⟨state, reason, executionBase⟩, hplace, _, _, rest, hrest, rfl⟩ := h
      have htask : assessment.taskId = taskId := by simpa using List.find?_some hfind
      intro record hrecord
      rcases List.mem_cons.1 hrecord with rfl | hrecord
      · exact ⟨assessment, List.mem_of_find?_eq_some hfind, htask, reason, executionBase, hplace⟩
      · exact ih hrest record hrecord
    · cases h

/-- The tasks of the recovery plan whose accepted execution has the status. -/
def RunRecoveryPlan.having (recovery : RunRecoveryPlan) (status : ExecutionStatus) : List String :=
  (recovery.tasks.filter fun item => item.workerExecutionStatus = some status).map
    TaskRecoveryAssessment.taskId

/-- **What the records of a plan say.** -/
theorem buildPlan_record {runId : UUID} {status : RunStatus} {snapshotTaskIds : List String}
    {dag : TaskDAG} {recovery : RunRecoveryPlan}
    {resolve : String → Except Failure TaskExecutionBase} {plan : RunReconciliationPlan}
    (h : buildPlan runId status snapshotTaskIds dag recovery resolve = .ok plan) :
    ∃ ready, dag.readyTaskIds (recovery.having .succeeded) (recovery.having .failed) = .ok ready ∧
      ∀ record ∈ plan.tasks, ∃ assessment ∈ recovery.tasks, assessment.taskId = record.taskId ∧
        (record.frontierState = .reconcileCandidate → status = .running ∧ record.taskId ∈ ready ∧
          (assessment.leaseState = .unowned ∨ assessment.leaseState = .expired)) ∧
        (record.frontierState = .blockedRecoveryGap → status = .running ∧ record.taskId ∈ ready ∧
          assessment.leaseState = .released ∧
          assessment.disposition = .blockedReleasedEvidenceGap) := by
  simp only [buildPlan, Raising.bind_eq_ok, Raising.pure_eq_ok] at h
  obtain ⟨_, _, _, _, _, _, blocked, _, ready, hready, _, _, records, hrecords, _, _, rfl⟩ := h
  refine ⟨ready, Raising.mapError_eq_ok.1 hready, fun record hrecord => ?_⟩
  obtain ⟨assessment, hassessment, htask, reason, executionBase, hplace⟩ :=
    frontierRecords_mem hrecords record hrecord
  have hfrontier := frontier_eq_ok hplace
  rw [htask] at hfrontier
  exact ⟨assessment, hassessment, htask, hfrontier⟩

/-- The candidates are the tasks of the records that say so. -/
theorem buildPlan_candidates {runId : UUID} {status : RunStatus} {snapshotTaskIds : List String}
    {dag : TaskDAG} {recovery : RunRecoveryPlan}
    {resolve : String → Except Failure TaskExecutionBase} {plan : RunReconciliationPlan}
    (h : buildPlan runId status snapshotTaskIds dag recovery resolve = .ok plan) :
    plan.reconcileTaskIds = (plan.tasks.filter fun record =>
      record.frontierState = .reconcileCandidate).map TaskReconciliationRecord.taskId := by
  simp only [buildPlan, Raising.bind_eq_ok, Raising.pure_eq_ok] at h
  obtain ⟨_, _, _, _, _, _, blocked, _, ready, _, _, _, records, _, _, _, rfl⟩ := h
  rfl

/-- What `frontier` raises: the lease contradicts the disposition, or the resolver
raised. -/
theorem frontier_eq_error {status : RunStatus} {completed failed blocked ready : List String}
    {resolve : String → Except Failure TaskExecutionBase} {assessment : TaskRecoveryAssessment}
    {failure : Failure}
    (h : frontier status completed failed blocked ready resolve assessment = .error failure) :
    status = .running ∧ assessment.taskId ∉ completed ∧ assessment.taskId ∉ failed ∧
      ((assessment.leaseState = .active ∧ assessment.disposition ≠ .waitActiveOwner) ∨
        (assessment.leaseState = .released ∧
          assessment.disposition ≠ .blockedReleasedEvidenceGap) ∨
        (assessment.taskId ∈ ready ∧
          (assessment.leaseState = .unowned ∨ assessment.leaseState = .expired) ∧
          resolve assessment.taskId = .error failure)) := by
  simp only [frontier] at h
  split_ifs at h with hstatus hcompleted hfailed hblocked hready
  · cases h
  · cases h
  · cases h
  · cases h
  rotate_left
  · cases h
  refine ⟨not_not.1 hstatus, hcompleted, hfailed, ?_⟩
  cases hlease : assessment.leaseState with
  | active =>
    simp only [hlease, Raising.bind_eq_error, Raising.raiseIf_eq_error] at h
    rcases h with ⟨hdisposition, -⟩ | ⟨_, _, h⟩
    · exact Or.inl ⟨rfl, hdisposition⟩
    · cases h
  | released =>
    simp only [hlease, Raising.bind_eq_error, Raising.raiseIf_eq_error] at h
    rcases h with ⟨hdisposition, -⟩ | ⟨_, _, h⟩
    · exact Or.inr (Or.inl ⟨rfl, hdisposition⟩)
    · cases h
  | unowned | expired =>
    simp only [hlease] at h
    cases hresolve : resolve assessment.taskId with
    | ok base =>
      simp only [hresolve] at h
      cases h
    | error raised =>
      simp only [hresolve] at h
      split_ifs at h
      · cases h
      · refine Or.inr (Or.inr ⟨hready, by simp, ?_⟩)
        exact congrArg Except.error (Except.error.inj h)

/-- The models raise a `ValueError`, never a corruption error. -/
theorem TaskReconciliationRecord.validate_error {record : TaskReconciliationRecord}
    {failure : Failure} (h : record.validate = .error failure) : failure.kind = .valueError := by
  simp only [validate, Raising.bind_eq_error, Raising.raiseIf_eq_error] at h
  rcases h with ⟨-, rfl⟩ | ⟨_, -, ⟨-, rfl⟩ | ⟨_, -, h⟩⟩
  · rfl
  · rfl
  · cases hstate : record.frontierState with
    | succeeded | failed =>
      simp only [hstate, Raising.raiseIf_eq_error] at h
      obtain ⟨-, rfl⟩ := h
      rfl
    | reconcileCandidate =>
      simp only [hstate, Raising.bind_eq_error, Raising.raiseIf_eq_error] at h
      rcases h with ⟨-, rfl⟩ | ⟨_, -, -, rfl⟩
      · rfl
      · rfl
    | _ =>
      simp only [hstate] at h
      cases h

theorem frontierRecords_eq_error {runId : UUID} {dag : TaskDAG} {recovery : RunRecoveryPlan}
    {place : TaskRecoveryAssessment →
      Except Failure (FrontierState × String × Option TaskExecutionBase)}
    {index : ℕ} {order : List String} {failure : Failure}
    (h : frontierRecords runId dag recovery place index order = .error failure)
    (hkind : failure.kind = .persistenceCorruption) :
    ∃ assessment ∈ recovery.tasks, place assessment = .error failure := by
  induction order generalizing index with
  | nil => cases h
  | cons taskId order ih =>
    simp only [frontierRecords] at h
    split at h
    · rename_i assessment node hfind hnode
      rcases Raising.bind_eq_error.1 h with hplace | ⟨placed, -, h⟩
      · exact ⟨assessment, List.mem_of_find?_eq_some hfind, hplace⟩
      rcases Raising.bind_eq_error.1 h with hvalidate | ⟨_, -, h⟩
      · rw [TaskReconciliationRecord.validate_error hvalidate] at hkind
        cases hkind
      rcases Raising.bind_eq_error.1 h with hrest | ⟨_, -, h⟩
      · exact ih hrest
      · cases h
    · obtain rfl := Except.error.inj h
      cases hkind

theorem RunReconciliationPlan.validate_error {plan : RunReconciliationPlan} {failure : Failure}
    (h : plan.validate = .error failure) : failure.kind = .valueError := by
  simp only [validate, Raising.bind_eq_error, Raising.raiseIf_eq_error] at h
  rcases h with ⟨-, rfl⟩ | ⟨_, -, ⟨-, rfl⟩ | ⟨_, -, ⟨-, rfl⟩ | ⟨_, -, hnamed | ⟨_, -, h⟩⟩⟩⟩
  · rfl
  · rfl
  · rfl
  · obtain ⟨⟨label, taskIds⟩, -, hfail⟩ := Raising.forM_eq_error hnamed
    simp only [Raising.bind_eq_error, Raising.raiseIf_eq_error] at hfail
    rcases hfail with ⟨-, rfl⟩ | ⟨_, -, -, rfl⟩
    · rfl
    · rfl
  · rcases h with ⟨-, rfl⟩ | ⟨_, -, -, rfl⟩
    · rfl
    · rfl

/-- **When `build_plan` finds corruption.** -/
theorem buildPlan_eq_error {runId : UUID} {status : RunStatus} {snapshotTaskIds : List String}
    {dag : TaskDAG} {recovery : RunRecoveryPlan}
    {resolve : String → Except Failure TaskExecutionBase} {failure : Failure}
    (h : buildPlan runId status snapshotTaskIds dag recovery resolve = .error failure)
    (hkind : failure.kind = .persistenceCorruption) :
    recovery.runId ≠ runId ∨ recovery.runStatus ≠ status ∨
    (snapshotTaskIds.toFinset ≠ dag.taskIds.toFinset ∨ snapshotTaskIds.toFinset ≠
      (recovery.tasks.map TaskRecoveryAssessment.taskId).toFinset) ∨
    (∃ raised, dag.blockedTaskIds (recovery.having .failed) = .error raised) ∨
    (∃ raised, dag.readyTaskIds (recovery.having .succeeded) (recovery.having .failed) =
      .error raised) ∨
    (∃ blocked, dag.blockedTaskIds (recovery.having .failed) = .ok blocked ∧ status = .running ∧
      ∃ t ∈ blocked, ∃ item ∈ recovery.tasks, item.taskId = t ∧
        (item.workerExecutionStatus ≠ none ∨ item.leaseState ≠ .unowned)) ∨
    ∃ blocked ready,
      dag.readyTaskIds (recovery.having .succeeded) (recovery.having .failed) = .ok ready ∧
      ∃ assessment ∈ recovery.tasks, frontier status (recovery.having .succeeded)
        (recovery.having .failed) blocked ready resolve assessment = .error failure := by
  simp only [buildPlan, Raising.bind_eq_error, Raising.raiseIf_eq_error] at h
  rcases h with ⟨hrun, -⟩ | ⟨_, -, ⟨hstatus, -⟩ | ⟨_, -, ⟨hids, -⟩ | ⟨_, -, h⟩⟩⟩
  · exact Or.inl hrun
  · exact Or.inr (Or.inl hstatus)
  · exact Or.inr (Or.inr (Or.inl hids))
  refine Or.inr (Or.inr (Or.inr ?_))
  rcases h with hblocked | ⟨blocked, hblocked, h⟩
  · cases hraised : dag.blockedTaskIds (recovery.having .failed) with
    | error raised => exact Or.inl ⟨raised, rfl⟩
    | ok blocked =>
      rw [← RunRecoveryPlan.having, hraised] at hblocked
      cases hblocked
  refine Or.inr ?_
  rcases h with hready | ⟨ready, hready, h⟩
  · cases hraised : dag.readyTaskIds (recovery.having .succeeded) (recovery.having .failed) with
    | error raised => exact Or.inl ⟨raised, rfl⟩
    | ok ready =>
      rw [← RunRecoveryPlan.having, ← RunRecoveryPlan.having, hraised] at hready
      cases hready
  refine Or.inr ?_
  rcases h with ⟨⟨hrunning, hadvanced⟩, -⟩ | ⟨_, -, h⟩
  · obtain ⟨t, ht⟩ := List.exists_mem_of_ne_nil _ hadvanced
    obtain ⟨htblocked, hitem⟩ := List.mem_filter.1 ht
    obtain ⟨item, hitem, hstarted⟩ := List.any_eq_true.1 hitem
    exact Or.inl ⟨blocked, Raising.mapError_eq_ok.1 hblocked, hrunning, t, htblocked, item, hitem,
      of_decide_eq_true hstarted⟩
  refine Or.inr ?_
  rcases h with hrecords | ⟨records, -, h⟩
  · obtain ⟨assessment, hassessment, hplace⟩ := frontierRecords_eq_error hrecords hkind
    exact ⟨blocked, ready, Raising.mapError_eq_ok.1 hready, assessment, hassessment, hplace⟩
  · rcases h with hvalidate | ⟨_, -, h⟩
    · rw [RunReconciliationPlan.validate_error hvalidate] at hkind
      cases hkind
    · cases h

/-- `complexity_rank`. -/
def complexityRank : Option PlanningComplexity → ℕ
  | some .low => 1
  | some .medium => 2
  | some .high => 3
  | none => 2

namespace TaskDAG

/-- The first part of the key that candidates are sorted by.  Candidates and
leases are of tasks of the graph, so `node` raises no `KeyError`. -/
def rank (dag : TaskDAG) (taskId : String) : ℕ :=
  match dag.node? taskId with
  | some node => if node.executionMode = .workflow then 0 else complexityRank node.complexity
  | none => 2

/-- The task is a HIGH package. -/
def isHigh (dag : TaskDAG) (taskId : String) : Bool :=
  (dag.node? taskId).any fun node => node.complexity = some .high

/-- The key that candidates are sorted by. -/
def candidateKey (dag : TaskDAG) (taskId : String) : ℕ ×ₗ ℕ :=
  toLex (dag.rank taskId, dag.topologicalOrder.idxOf taskId)

end TaskDAG

/-- `active_tasks`. -/
def activeTasks (leases : List TaskLeaseSnapshot) : ℕ :=
  leases.countP fun lease => lease.state = .active

/-- `active_high`. -/
def activeHigh (dag : TaskDAG) (leases : List TaskLeaseSnapshot) : Bool :=
  leases.any fun lease => lease.state = .active ∧ dag.isHigh lease.taskId

/-- `available_slots` for `candidates` candidates. -/
def availableSlots (maxConcurrentTasks : Option ℕ) (leases : List TaskLeaseSnapshot)
    (candidates : ℕ) : ℕ :=
  match maxConcurrentTasks with
  | none => candidates
  | some limit => limit - activeTasks leases

/-- The loop that keeps the first HIGH candidate, unless one was seen. -/
def limitHigh (isHigh : String → Bool) : Bool → List String → List String
  | _, [] => []
  | highSeen, taskId :: candidates =>
    if isHigh taskId then
      if highSeen then limitHigh isHigh highSeen candidates
      else taskId :: limitHigh isHigh true candidates
    else taskId :: limitHigh isHigh highSeen candidates

/-- The candidates in the order in which they are admitted. -/
def sortedCandidates (dag : TaskDAG) (candidates : List String) : List String :=
  candidates.insertionSort fun a b => dag.candidateKey a ≤ dag.candidateKey b

/-- The candidates that the HIGH slot admits. -/
def highAdmitted (dag : TaskDAG) (leases : List TaskLeaseSnapshot) (candidates : List String) :
    List String :=
  if activeHigh dag leases then candidates.filter fun t => !dag.isHigh t
  else limitHigh dag.isHigh false candidates

/-- The candidates whose contract gate allows them; `none` without a registry. -/
def gateAdmitted (gates : Option (String → Bool)) (candidates : List String) : List String :=
  match gates with
  | none => candidates
  | some allowed => candidates.filter allowed

/-- The tasks that `reconcile_run` hands to the task reconciler. -/
def selectedTasks (dag : TaskDAG) (leases : List TaskLeaseSnapshot) (maxConcurrentTasks : Option ℕ)
    (gates : Option (String → Bool)) (plan : RunReconciliationPlan) : List String :=
  (gateAdmitted gates (highAdmitted dag leases (sortedCandidates dag plan.reconcileTaskIds))).take
    (availableSlots maxConcurrentTasks leases plan.reconcileTaskIds.length)

/-- `DAGRunReconciliationOutcome`; of the task outcomes the decision is kept. -/
structure RunReconciliationOutcome where
  plan : RunReconciliationPlan
  taskOutcomes : List ReconciliationDecision

/-- `validate_outcomes`. -/
def RunReconciliationOutcome.validate (outcome : RunReconciliationOutcome) :
    Except Failure RunReconciliationOutcome := do
  Raising.raiseIf (outcome.taskOutcomes.map ReconciliationDecision.taskId ≠
      outcome.plan.reconcileTaskIds)
    ⟨.valueError, "successful DAG reconciliation must return one Step 5.3 outcome per candidate"⟩
  return outcome

section

variable {σ : Type} (reconcile : σ → String → Except Failure ReconciliationDecision × σ)

/-- The loop over the selected tasks.  `reconcile` is the task reconciler with
whatever happens around its calls; `σ` is the state that it changes. -/
def reconcileEach : σ → List String → Except Failure (List ReconciliationDecision) × σ
  | s, [] => (.ok [], s)
  | s, taskId :: taskIds =>
    match reconcile s taskId with
    | (.error failure, s) => (.error failure, s)
    | (.ok decision, s) =>
      match reconcileEach s taskIds with
      | (.error failure, s) => (.error failure, s)
      | (.ok decisions, s) => (.ok (decision :: decisions), s)

/-- `reconcile_run` after the run, the graph and the leases were loaded and the
recovery state was classified. -/
def reconcileRun (runId : UUID) (status : RunStatus) (snapshotTaskIds : List String)
    (dag : TaskDAG) (leases : List TaskLeaseSnapshot) (recovery : RunRecoveryPlan)
    (resolve : String → Except Failure TaskExecutionBase) (maxConcurrentTasks : Option ℕ)
    (gates : Option (String → Bool)) (s : σ) : Except Failure RunReconciliationOutcome × σ :=
  match buildPlan runId status snapshotTaskIds dag recovery resolve with
  | .error failure => (.error failure, s)
  | .ok plan =>
    match reconcileEach reconcile s (selectedTasks dag leases maxConcurrentTasks gates plan) with
    | (.error failure, s) => (.error failure, s)
    | (.ok taskOutcomes, s) => (RunReconciliationOutcome.validate ⟨plan, taskOutcomes⟩, s)

end

/-- Two tasks that are both ready at the start. -/
def readyPair : TaskDAG where
  tasks := [{ taskId := "api", dependsOn := [], taskId_pattern := isTaskId_api },
    { taskId := "docs", dependsOn := [], taskId_pattern := isTaskId_docs }]

end DevFlow
