/-
# The controller of runs of several tasks

`runtime/product_controller.py`, with `persist_live_gate` of
`runtime/durable_human_gate.py`: one call of `advance` rebuilds the scheduler and
the merge queue from the rows and from Git, integrates what it can, persists
the snapshot, and then finalizes the run, goes through the Human Gate of a
stopped queue, or has new work dispatched.

What Git, the conflict classifier, the policy and the decision ref answer are
arguments, and so is the reconciler.  A repair ends with another pass;
`_advance_once` is modelled by its depth.
-/

import DevFlow.Persistence.MultiCompletion
import DevFlow.Runtime.ConflictEvidence
import DevFlow.Runtime.IntegrationRepair

namespace DevFlow

open Durable (Prog)

/-- The persisted facts of the run beside its rows. -/
structure PersistedRun where
  dag : TaskDAG
  runBase : String

/-- The store with its clock, the project, and what a repair uses beside them. -/
structure ControllerWorld where
  db : Database RunContent
  now : Timestamp
  project : Project
  contracts : List TaskContract
  repairWorktrees : List String

/-- A program of the controller. -/
abbrev Controller (α : Type) := Prog ControllerWorld Failure α

/-- What `IntegrationHumanGate` derives of a conflict: the fingerprints, the route
of the policy, and the decision that the decision ref holds. -/
structure GateReading where
  conflictMarkerCommit : String
  evidenceFingerprint : String
  policyFingerprint : String
  conflictingPaths : List String
  autoRepairCandidate : Bool
  humanDecision : Option HumanIntegrationDecision
  fingerprint : isSha256 evidenceFingerprint = true
  paths_nonempty : conflictingPaths ≠ []
  paths_nodup : conflictingPaths.Nodup
  decided : ∀ decision, humanDecision = some decision →
    decision.evidenceFingerprint = evidenceFingerprint ∧
      decision.policyFingerprint = policyFingerprint ∧
      decision.conflictMarkerCommit = conflictMarkerCommit

/-- The state of the gate. -/
def GateReading.state (reading : GateReading) : IntegrationGateState :=
  if reading.autoRepairCandidate then .autoRepairCandidate
  else match reading.humanDecision.map HumanIntegrationDecision.decision with
    | none => .awaitingHuman
    | some .authorizeRepair => .repairAuthorized
    | some .abort => .aborted

/-- `IntegrationHumanGate.snapshot`, for the last attempt of a stopped queue. -/
def GateReading.snapshot (reading : GateReading) (queue : MergeQueueSnapshot)
    (attempt : MergeQueueAttempt) (conflictRef : GitRef) : IntegrationGateSnapshot where
  taskId := attempt.taskId
  taskCommit := attempt.taskCommit
  integrationRef := queue.integrationRef
  integrationHead := queue.headCommit
  conflictRef := conflictRef
  conflictMarkerCommit := reading.conflictMarkerCommit
  evidenceFingerprint := reading.evidenceFingerprint
  policyFingerprint := reading.policyFingerprint
  conflictingPaths := reading.conflictingPaths
  state := reading.state
  humanDecision := reading.humanDecision
  repairMayStart := reading.state = .autoRepairCandidate ∨ reading.state = .repairAuthorized
  paths_nonempty := reading.paths_nonempty
  paths_nodup := reading.paths_nodup
  decided := reading.decided

/-- What is asked of others in a call of `advance`. -/
structure ControllerCalls where
  merge : String → String → MergeTree
  /-- The object id of the commit that integrating a task writes. -/
  oid : String → String
  /-- `GitMergeConflictClassifier.classify`. -/
  classify : Project → MergeQueueSnapshot → Except Failure MergeConflictEvidence
  /-- `IntegrationHumanGate` on the classified conflict. -/
  readGate : Project → MergeQueueSnapshot → MergeConflictEvidence → Except Failure GateReading
  /-- The answers that a repair gets; `none` without a repairer. -/
  repair : Option RepairAttempt
  /-- `reconcile_run`. -/
  reconcile : Controller Unit

/-- What a pass has found before it decides. -/
structure Pass where
  executions : List Execution
  scheduler : DAGScheduler
  snapshot : MergeQueueSnapshot
  mergeEvidenceId : Option ℕ

namespace Controller

/-- One round of the loop of `_terminal_executions`. -/
def addTerminalExecution (db : Database RunContent) (executions : List Execution)
    (row : EvidenceRow RunContent) : Except Failure (List Execution) :=
  if row.kind ≠ .workerExecution then return executions
  else match row.payload with
    | .workerExecution evidence => do
      Raising.raiseIf (evidence.runId ≠ db.runId ∨ evidence.taskId ∉ db.taskIds)
        ⟨.persistenceCorruption,
          "worker execution evidence identity disagrees with the persisted Run"⟩
      match executionOf executions evidence.taskId with
      | none => return executions ++ [evidence]
      | some existing =>
        Raising.raiseIf (existing ≠ evidence)
          ⟨.persistenceCorruption,
            "task '" ++ evidence.taskId ++ "' has conflicting terminal worker evidence"⟩
        return executions
    | _ => throw ⟨.persistenceCorruption,
        "worker execution evidence " ++ toString row.id ++ " failed typed validation"⟩

/-- `_terminal_executions`. -/
def terminalExecutions (db : Database RunContent) : Except Failure (List Execution) :=
  db.evidence.foldlM (addTerminalExecution db) []

/-- `integration_id`. -/
def integrationId (runId : UUID) : String :=
  "run-" ++ runId.hex

/-- The `integrate` call for one task. -/
def integrateTask (calls : ControllerCalls) (executions : List Execution) (queue : MergeQueue)
    (taskId : String) : Controller MergeQueue := do
  match executionOf executions taskId with
  | none => Durable.lift (.error ⟨.keyError, taskId⟩)
  | some execution =>
    let w ← Durable.read
    let record ← Durable.lift
      (recordFor executions w.project.worktrees taskId execution.baseCommit)
    Durable.transact fun w =>
      (queue.integrate calls.merge w.project
        { taskId
          worktreePath := record.path
          branchName := execution.branchName
          baseCommit := execution.baseCommit
          commitSha := execution.commitSha } (calls.oid taskId)).map fun r =>
        (r.1, { w with project := { w.project with git := r.2 } })

/-- `_integrate_available`, on what is left of the topological order. -/
def integrateAvailable (calls : ControllerCalls) (executions : List Execution) :
    List String → MergeQueue → Controller MergeQueue
  | [], queue => return queue
  | taskId :: rest, queue =>
    if taskId ∈ queue.integrated then integrateAvailable calls executions rest queue
    else match queue.scheduler.states taskId with
      | .failed | .blocked => integrateAvailable calls executions rest queue
      | .succeeded => do
        let queue ← integrateTask calls executions queue taskId
        if queue.stopped then return queue
        else integrateAvailable calls executions rest queue
      | _ => return queue

/-- `_persist_merge_snapshot`. -/
def persistMergeSnapshot (snapshot : MergeQueueSnapshot) : Controller ℕ :=
  Durable.transact fun w =>
    (appendEvidence w.db w.now w.db.runId
      ("integration:merge-queue:" ++ pad4 snapshot.attempts.length ++ ":" ++
        take 16 snapshot.headCommit)
      .mergeQueueSnapshot (.other .mergeQueueSnapshot (.mergeQueue snapshot)) none
      (some "integration") (some (snapshot.attempts.length : ℤ)) none).map fun r =>
        (r.1, { w with db := r.2 })

/-- The queue that a pass builds. -/
def openQueue (run : PersistedRun) (calls : ControllerCalls) (w : ControllerWorld) :
    Except Failure (List Execution × MergeQueue × GitRepository) := do
  let executions ← terminalExecutions w.db
  let scheduler ← reconstructScheduler run.dag (statusOf executions)
  let (queue, git) ← MergeQueue.create calls.merge w.project scheduler executions run.runBase
    (integrationId w.db.runId)
  return (executions, queue, git)

/-- The first part of a pass: integrate what is available, and persist the
snapshot. -/
def observe (run : PersistedRun) (calls : ControllerCalls) : Controller Pass := do
  let w ← Durable.read
  let (executions, queue, git) ← Durable.lift (openQueue run calls w)
  Durable.write fun w => { w with project := { w.project with git } }
  let queue ← integrateAvailable calls executions run.dag.topologicalOrder queue
  let snapshot ← Durable.lift queue.snapshot
  if snapshot.attempts = [] then return ⟨executions, queue.scheduler, snapshot, none⟩
  else
    let id ← persistMergeSnapshot snapshot
    return ⟨executions, queue.scheduler, snapshot, some id⟩

/-- The conflict of a stopped queue and its gate, persisted. -/
def persistConflict (calls : ControllerCalls) (pass : Pass) : Controller IntegrationGateSnapshot := do
  let w ← Durable.read
  let conflict ← Durable.lift (calls.classify w.project pass.snapshot)
  match pass.snapshot.attempts.getLast? with
  | none => Durable.lift (.error ⟨.runtimeError,
      "merge queue snapshot does not contain a terminal conflict"⟩)
  | some attempt =>
    let _ ← Durable.transact fun w =>
      (recordMergeConflict w.db w.now w.db.runId attempt.taskId attempt.sequence
        conflict.markerCommit (.conflict conflict)).map fun r => (r.1, { w with db := r.2 })
    let reading ← Durable.lift (calls.readGate w.project pass.snapshot conflict)
    let gate := reading.snapshot pass.snapshot attempt conflict.conflictRef
    let _ ← Durable.transact fun w =>
      (persistGate w.db w.now w.db.runId attempt.taskId attempt.sequence gate.evidenceFingerprint
        (if gate.humanDecision = none then "pending" else "decided") (.gate gate)).map fun r =>
          (r.1, { w with db := r.2 })
    return gate

/-- The tasks whose execution has a status. -/
def tasksWith (executions : List Execution) (status : ExecutionStatus) (order : List String) :
    List String :=
  order.filter fun t => statusOf executions t = some status

/-- Every task has an execution or is blocked. -/
def AllTerminal (order : List String) (executions : List Execution) (blocked : List String) :
    Prop :=
  ∀ t ∈ order, statusOf executions t ≠ none ∨ t ∈ blocked

instance (order : List String) (executions : List Execution) (blocked : List String) :
    Decidable (AllTerminal order executions blocked) :=
  inferInstanceAs (Decidable (∀ t ∈ order, _))

/-- The result of a run with a failed task, if the run is over. -/
def failureRecord (run : PersistedRun) (runId : UUID) (pass : Pass) :
    Except Failure (Option MultiTaskRunRecord) := do
  let order := run.dag.topologicalOrder
  let failed := tasksWith pass.executions .failed order
  let blocked ← run.dag.blockedTaskIds failed
  if failed ≠ [] ∧ AllTerminal order pass.executions blocked then
    return some {
      runId
      status := .failed
      taskIds := order
      succeededTaskIds := tasksWith pass.executions .succeeded order
      failedTaskIds := failed
      blockedTaskIds := order.filter fun t => t ∈ blocked
      integrationHead := if pass.snapshot.attempts = [] then none
        else some pass.snapshot.headCommit }
  else return none

/-- The result of a run in which every task succeeded and is integrated. -/
def successRecord (run : PersistedRun) (runId : UUID) (pass : Pass) :
    Except Failure (Option MultiTaskRunRecord) :=
  let order := run.dag.topologicalOrder
  if tasksWith pass.executions .failed order = [] ∧
      (∀ t ∈ order, statusOf pass.executions t ≠ none) ∧
      pass.snapshot.integratedTaskIds.toFinset = order.toFinset then
    match pass.mergeEvidenceId with
    | none => throw ⟨.persistenceCorruption,
        "complete integration lacks persisted merge snapshot identity"⟩
    | some id => return some {
        runId
        status := .succeeded
        taskIds := order
        succeededTaskIds := order
        integrationHead := some pass.snapshot.headCommit
        mergeEvidenceId := some id
        mergeEvidence := some pass.snapshot }
  else return none

/-- The result of a run whose gate was aborted, if the run is over. -/
def abortRecord (run : PersistedRun) (runId : UUID) (pass : Pass)
    (gate : IntegrationGateSnapshot) : Except Failure (Option MultiTaskRunRecord) := do
  let order := run.dag.topologicalOrder
  let failed := tasksWith pass.executions .failed order
  let blocked ← run.dag.blockedTaskIds (failed ++ [gate.taskId])
  if AllTerminal order pass.executions blocked then
    return some {
      runId
      status := .failed
      taskIds := order
      succeededTaskIds :=
        (tasksWith pass.executions .succeeded order).filter fun t => t ≠ gate.taskId
      failedTaskIds := failed
      abortedTaskIds := [gate.taskId]
      blockedTaskIds := order.filter fun t => t ∈ blocked
      abortEvidenceFingerprints := [gate.evidenceFingerprint]
      integrationHead := some pass.snapshot.headCommit }
  else return none

/-- The model's constructor and `finalize_multi_task_run`. -/
def finalize (run : PersistedRun) (record : MultiTaskRunRecord) : Controller Unit := do
  let result ← Durable.lift (MultiTaskRunResult.ofRecord record)
  Durable.transact fun w =>
    (finalizeMultiTaskRun w.db run.dag result).map fun db => ((), { w with db })

/-- The end of a pass whose queue is not stopped. -/
def conclude (run : PersistedRun) (calls : ControllerCalls) (pass : Pass) : Controller Unit := do
  let w ← Durable.read
  match ← Durable.lift (failureRecord run w.db.runId pass) with
  | some record => finalize run record
  | none =>
    match ← Durable.lift (successRecord run w.db.runId pass) with
    | some record => finalize run record
    | none => calls.reconcile

/-- `repair`, over the part of the world that it uses. -/
def repairConflict (attempt : RepairAttempt) (gate : IntegrationGateSnapshot)
    (snapshot : MergeQueueSnapshot) : Controller Unit := do
  let w ← Durable.read
  let _ ← Durable.zoom
    (fun w => (⟨w.db, w.contracts, w.project.git, w.project.changedFiles, w.repairWorktrees⟩ :
      RepairWorld))
    (fun w r => { w with
      db := r.db
      project := { w.project with git := r.git }
      repairWorktrees := r.worktrees })
    (repair attempt w.db.runId gate snapshot)

/-- `_advance_once`, by the depth of its recursion; the snapshot it returns, if
there is one. -/
def advanceOnce (run : PersistedRun) (calls : ControllerCalls) :
    ℕ → Controller (Option MergeQueueSnapshot)
  | 0 => Durable.lift (.error ⟨.runtimeError, "maximum recursion depth exceeded"⟩)
  | depth + 1 => do
    let w ← Durable.read
    if w.db.status ≠ .running then return none
    else if run.dag.tasks.length = 1 then return none
    else
      let pass ← observe run calls
      if pass.snapshot.stopped then
        let gate ← persistConflict calls pass
        match gate.state with
        | .aborted =>
          match ← Durable.lift (abortRecord run w.db.runId pass gate) with
          | some record =>
            finalize run record
            return some pass.snapshot
          | none => return some pass.snapshot
        | .repairAuthorized =>
          match calls.repair with
          | none => return some pass.snapshot
          | some attempt =>
            repairConflict attempt gate pass.snapshot
            advanceOnce run calls depth
        | _ => return some pass.snapshot
      else
        conclude run calls pass
        return some pass.snapshot

/-- `except (MergeQueueError, PersistenceConflictError)`. -/
def isRetried (failure : Failure) : Bool :=
  failure.kind = .mergeQueueError || failure.kind = .persistenceConflict

/-- `advance`: two attempts; `calls k` are the answers of attempt `k`. -/
def advance (run : PersistedRun) (calls : ℕ → ControllerCalls) (depth : ℕ) :
    Controller (Option MergeQueueSnapshot) := do
  match ← Durable.caught (advanceOnce run (calls 0) depth) with
  | .ok snapshot => return snapshot
  | .error failure =>
    if isRetried failure then advanceOnce run (calls 1) depth
    else Durable.lift (.error failure)

end Controller

end DevFlow
