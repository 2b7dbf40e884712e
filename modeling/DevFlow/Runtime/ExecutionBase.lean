/-
# The execution base of a task

`runtime/execution_base.py` with `runtime/repair_execution_base.py`: which commit
a task starts from, and the validation of the persisted merge-queue snapshots
that a dependent task's base is taken from.
-/

import DevFlow.Runtime.MergeQueue
import DevFlow.Runtime.RunReconciler

namespace DevFlow

/-- A `PersistenceCorruptionError`. -/
def corruption (message : String) : Failure :=
  ⟨.persistenceCorruption, message⟩

/-- `_MAX_MERGE_ATTEMPTS`. -/
def maxMergeAttempts : ℕ := 1024

/-- The dictionary of `_successful_worker_pairs`: base and commit of each task. -/
abbrev WorkerPairs := List (String × (String × String))

/-- One round of the loop of `_successful_worker_pairs`. -/
def addWorkerPair (runId : UUID) (known : List String) (pairs : WorkerPairs)
    (row : EvidenceRow RunContent) : Except Failure WorkerPairs :=
  if row.kind ≠ .workerExecution then return pairs
  else match row.taskId.filter (· ∈ known), row.payload with
    | none, _ =>
      throw (corruption "worker execution evidence is not bound to a known DAG task")
    | some taskId, .workerExecution execution => do
      Raising.raiseIf (execution.runId ≠ runId ∨ execution.taskId ≠ taskId)
        (corruption ("worker execution evidence " ++ toString row.id ++
          " has mismatched identity"))
      match execution.status, execution.commitSha with
      | .failed, _ => return pairs
      | .succeeded, none =>
        throw (corruption "successful worker evidence lacks task commit")
      | .succeeded, some commitSha =>
        requireOid execution.baseCommit "worker task base"
        requireOid commitSha "worker task commit"
        match pairs.lookup taskId with
        | some existing =>
          Raising.raiseIf (existing ≠ (execution.baseCommit, commitSha))
            (corruption ("successful worker evidence defines conflicting commits for '" ++
              taskId ++ "'"))
          return pairs
        | none => return pairs ++ [(taskId, (execution.baseCommit, commitSha))]
    | some _, _ => throw (corruption
        ("worker execution evidence " ++ toString row.id ++ " failed schema validation"))

/-- `_successful_worker_pairs`. -/
def successfulWorkerPairs (runId : UUID) (known : List String)
    (rows : List (EvidenceRow RunContent)) : Except Failure WorkerPairs :=
  rows.foldlM (addWorkerPair runId known) []

/-- One round of the loop of `_repair_evidence`. -/
def addRepairEvidence (runId : UUID) (known : List String)
    (repairs : List IntegrationConflictRepairEvidence) (row : EvidenceRow RunContent) :
    Except Failure (List IntegrationConflictRepairEvidence) :=
  if row.kind ≠ .integrationRepair then return repairs
  else match row.payload with
    | .other .integrationRepair (.repair repair) => do
      Raising.raiseIf (repair.runId ≠ runId ∨ repair.taskId ∉ known)
        (corruption "integration repair evidence identity mismatch")
      Raising.raiseIf (∃ existing ∈ repairs, existing.taskId = repair.taskId ∧
          existing.conflictEvidenceFingerprint = repair.conflictEvidenceFingerprint ∧
          existing ≠ repair)
        (corruption "one conflict contains conflicting integration repair evidence")
      return repairs ++ [repair]
    | _ => throw (corruption
        ("integration repair evidence " ++ toString row.id ++ " failed schema validation"))

/-- `_repair_evidence`. -/
def repairEvidence (runId : UUID) (known : List String) (rows : List (EvidenceRow RunContent)) :
    Except Failure (List IntegrationConflictRepairEvidence) :=
  rows.foldlM (addRepairEvidence runId known) []

/-- `_repair_decisions`: task, fingerprint and commit of the authorizations. -/
def repairDecisions (rows : List (EvidenceRow RunContent)) :
    Except Failure (List (String × String × String)) :=
  rows.foldlM (fun decisions row =>
    match row.kind, row.taskId, row.payload with
    | .humanDecision, some taskId, .other .humanDecision (.decision decision) =>
      return if decision.decision = .authorizeRepair then
        decisions ++ [(taskId, decision.evidenceFingerprint, decision.decisionCommit)]
      else decisions
    | .humanDecision, some _, _ => throw (corruption
        ("human decision evidence " ++ toString row.id ++ " failed schema validation"))
    | _, _, _ => return decisions) []

/-- What the history validation compares a snapshot with. -/
structure HistoryContext where
  dag : TaskDAG
  runBase : String
  workers : WorkerPairs
  repairs : List IntegrationConflictRepairEvidence
  decisions : List (String × String × String)

/-- The variables of the loop: `heads` has the latest entry first, and
`last_index` starts at -1. -/
structure HistoryState where
  integrated : List String
  heads : List (String × List String)
  lastIndex : ℤ
  pending : Option MergeQueueAttempt

namespace HistoryContext

/-- The variables before the loop. -/
def start (c : HistoryContext) : HistoryState :=
  ⟨[], [(c.runBase, [])], -1, none⟩

/-- `order_index`. -/
def index (c : HistoryContext) (taskId : String) : ℤ :=
  c.dag.topologicalOrder.idxOf taskId

/-- `dag.node(task_id).depends_on`. -/
def dependsOn (c : HistoryContext) (taskId : String) : List String :=
  ((c.dag.node? taskId).map TaskNode.dependsOn).getD []

/-- The checks that the attempt is of a known task with full lower-case ids. -/
def checkKnown (c : HistoryContext) (a : MergeQueueAttempt) : Except Failure Unit := do
  requireOid a.taskBaseCommit "merge task base"
  requireOid a.taskCommit "merge task commit"
  requireOid a.previousIntegrationCommit "previous integration commit"
  Raising.raiseIf (a.taskId ∉ c.dag.topologicalOrder)
    (corruption "merge queue snapshot references an unknown DAG task")

/-- The check against the worker's evidence. -/
def checkWorker (c : HistoryContext) (a : MergeQueueAttempt) : Except Failure Unit :=
  Raising.raiseIf (c.workers.lookup a.taskId ≠ some (a.taskBaseCommit, a.taskCommit))
    (corruption ("merge attempt for '" ++ a.taskId ++
      "' lacks matching successful worker evidence"))

/-- The check of the base: the Run base, or an integration head that contains the
dependencies. -/
def checkBase (c : HistoryContext) (s : HistoryState) (a : MergeQueueAttempt) (message : String) :
    Except Failure Unit :=
  if c.dependsOn a.taskId = [] then
    Raising.raiseIf (a.taskBaseCommit ≠ c.runBase)
      (corruption "dependency-free task commit must descend from the frozen Run base")
  else
    Raising.raiseIf (¬∃ contained, s.heads.lookup a.taskBaseCommit = some contained ∧
        c.dependsOn a.taskId ⊆ contained)
      (corruption message)

/-- The check of the dependencies. -/
def checkDependencies (c : HistoryContext) (s : HistoryState) (a : MergeQueueAttempt) :
    Except Failure Unit :=
  Raising.raiseIf (¬c.dependsOn a.taskId ⊆ s.integrated)
    (corruption ("merge attempt for '" ++ a.taskId ++ "' precedes integrated dependencies"))

/-- The variables after a successful attempt. -/
def advance (c : HistoryContext) (s : HistoryState) (a : MergeQueueAttempt) (commit : String) :
    HistoryState :=
  { integrated := s.integrated ++ [a.taskId]
    heads := (commit, s.integrated ++ [a.taskId]) :: s.heads
    lastIndex := c.index a.taskId
    pending := none }

/-- `_validate_repair_binding`: the first field that differs. -/
def bindingMismatch (a : MergeQueueAttempt) (commit : String) (metadata : RepairMetadata)
    (repair : IntegrationConflictRepairEvidence) : Option String :=
  if repair.taskId ≠ a.taskId then some "task_id"
  else if repair.integrationHead ≠ a.previousIntegrationCommit then some "integration_head"
  else if repair.taskCommit ≠ a.taskCommit then some "task_commit"
  else if repair.repairCommit ≠ commit then some "repair_commit"
  else if repair.conflictMarkerCommit ≠ metadata.conflictMarker then some "conflict_marker_commit"
  else if repair.conflictEvidenceFingerprint ≠ metadata.evidenceFingerprint then
    some "conflict_evidence_fingerprint"
  else if repair.policyFingerprint ≠ metadata.policyFingerprint then some "policy_fingerprint"
  else if repair.humanDecisionCommit ≠ metadata.humanDecisionCommit then
    some "human_decision_commit"
  else none

/-- `_validate_repair_binding`. -/
def validateRepairBinding (c : HistoryContext) (a : MergeQueueAttempt) (commit : String)
    (metadata : RepairMetadata) (repair : IntegrationConflictRepairEvidence) :
    Except Failure Unit := do
  match bindingMismatch a commit metadata repair with
  | some field => throw (corruption ("integration repair evidence binding changed: " ++ field))
  | none => pure ()
  Raising.raiseIf ((a.taskId, repair.conflictEvidenceFingerprint, repair.humanDecisionCommit) ∉
      c.decisions)
    (corruption "integration repair lacks matching AUTHORIZE_REPAIR human decision evidence")

/-- What `_validate_repair_aware_history` does with a REPAIRED attempt. -/
def checkRepaired (c : HistoryContext) (s : HistoryState) (a : MergeQueueAttempt)
    (commit : String) (metadata : RepairMetadata) : Except Failure HistoryState :=
  match s.pending.filter fun conflict => conflict.taskId = a.taskId with
  | none => throw (corruption "repaired merge attempt lacks its immediately preceding conflict")
  | some conflict => do
    Raising.raiseIf (c.index a.taskId ≤ s.lastIndex)
      (corruption "repaired merge attempt violates deterministic topological ordering")
    Raising.raiseIf (a.previousIntegrationCommit ≠ conflict.previousIntegrationCommit)
      (corruption "repair does not chain from the conflicted integration head")
    match c.repairs.find? fun repair => repair.taskId = a.taskId ∧
        repair.conflictEvidenceFingerprint = metadata.evidenceFingerprint with
    | none => throw (corruption
        "repaired merge attempt lacks matching typed integration-repair evidence")
    | some repair =>
      c.validateRepairBinding a commit metadata repair
      return c.advance s a commit

/-- One round of the loop of `_validate_repair_aware_history`. -/
def checkRepairAware (c : HistoryContext) (s : HistoryState) (a : MergeQueueAttempt) :
    Except Failure HistoryState := do
  c.checkKnown a
  c.checkWorker a
  c.checkBase s a "dependent task base is not a prior integration head containing dependencies"
  c.checkDependencies s a
  match a.outcome with
  | .conflict _ =>
    Raising.raiseIf (s.pending ≠ none ∨ c.index a.taskId ≤ s.lastIndex)
      (corruption "merge conflict violates deterministic topological ordering")
    return { s with pending := some a }
  | .repaired commit metadata => c.checkRepaired s a commit metadata
  | .integrated commit =>
    Raising.raiseIf (s.pending ≠ none)
      (corruption "naturally clean integration cannot skip an unresolved prior conflict")
    Raising.raiseIf (c.index a.taskId ≤ s.lastIndex)
      (corruption "merge queue snapshot violates deterministic topological task order")
    return c.advance s a commit

/-- `_validate_repair_aware_history`. -/
def validateRepairAwareHistory (c : HistoryContext) (attempts : List MergeQueueAttempt) :
    Except Failure HistoryState :=
  attempts.foldlM c.checkRepairAware c.start

/-- One round of the loop of `_validate_merge_history`, which knows no repairs. -/
def checkMerge (c : HistoryContext) (s : HistoryState) (a : MergeQueueAttempt) :
    Except Failure HistoryState := do
  c.checkKnown a
  Raising.raiseIf (c.index a.taskId ≤ s.lastIndex)
    (corruption "merge queue snapshot violates deterministic topological task order")
  c.checkDependencies s a
  c.checkWorker a
  c.checkBase s a
    "dependent task base is not a prior integration head containing its dependencies"
  match a.outcome with
  | .integrated commit =>
    requireOid commit "integration commit"
    return c.advance s a commit
  | _ => return { s with lastIndex := c.index a.taskId }

/-- `_validate_merge_history`. -/
def validateMergeHistory (c : HistoryContext) (attempts : List MergeQueueAttempt) :
    Except Failure HistoryState :=
  attempts.foldlM c.checkMerge c.start

end HistoryContext

/-- `_assert_stopped_history_resumed_by_repair`. -/
def assertResumedByRepair (previous current : MergeQueueSnapshot) : Except Failure Unit :=
  match previous.attempts.getLast?, current.attempts[previous.attempts.length]? with
  | some conflict, some firstNew =>
    Raising.raiseIf (¬(conflict.outcome.isConflict = true ∧
        firstNew.outcome.isRepaired = true ∧ firstNew.taskId = conflict.taskId ∧
        firstNew.previousIntegrationCommit = conflict.previousIntegrationCommit))
      (corruption "stopped merge queue history resumed without resolving its exact conflict")
  | _, _ => throw (corruption "stopped merge queue history advanced without a repair attempt")

/-- One round of the second loop of `_validated_merge_snapshots`. -/
def checkSuccessor (previous : Option MergeQueueSnapshot) (current : MergeQueueSnapshot) :
    Except Failure (Option MergeQueueSnapshot) :=
  match previous with
  | none => return some current
  | some previous => do
    Raising.raiseIf (current.integrationRef ≠ previous.integrationRef)
      (corruption "one Run contains conflicting integration-ref histories")
    Raising.raiseIf (current.attempts.length < previous.attempts.length)
      (corruption "merge queue snapshot history regressed")
    Raising.raiseIf (current.attempts.take previous.attempts.length ≠ previous.attempts)
      (corruption "merge queue snapshot history diverged")
    Raising.raiseIf (current.attempts.length = previous.attempts.length ∧ current ≠ previous)
      (corruption "merge queue snapshot changed without extending its attempt history")
    if previous.stopped = true ∧ current ≠ previous then
      assertResumedByRepair previous current
    return some current

/-- One round of the first loop of `_validated_merge_snapshots`. -/
def decodeSnapshot (c : HistoryContext)
    (decoded : List (EvidenceRow RunContent × MergeQueueSnapshot))
    (row : EvidenceRow RunContent) :
    Except Failure (List (EvidenceRow RunContent × MergeQueueSnapshot)) :=
  if row.kind ≠ .mergeQueueSnapshot then return decoded
  else match row.payload with
    | .other .mergeQueueSnapshot (.mergeQueue snapshot) => do
      Raising.raiseIf (snapshot.runBaseCommit ≠ c.runBase)
        (corruption "merge queue snapshot does not match the persisted Run base")
      Raising.raiseIf (maxMergeAttempts < snapshot.attempts.length)
        (corruption "merge queue evidence exceeds bounded attempt scan")
      let _ ← c.validateRepairAwareHistory snapshot.attempts
      return decoded ++ [(row, snapshot)]
    | _ => throw (corruption
        ("merge queue evidence " ++ toString row.id ++ " failed schema validation"))

/-- `_validated_merge_snapshots`. -/
def validatedMergeSnapshots (runId : UUID) (dag : TaskDAG) (runBase : String)
    (workers : WorkerPairs) (rows : List (EvidenceRow RunContent)) :
    Except Failure (List (EvidenceRow RunContent × MergeQueueSnapshot)) := do
  let repairs ← repairEvidence runId dag.taskIds rows
  let decisions ← repairDecisions rows
  let decoded ← rows.foldlM (decodeSnapshot ⟨dag, runBase, workers, repairs, decisions⟩) []
  let _ ← (decoded.map Prod.snd).foldlM checkSuccessor none
  return decoded

/-- `_select_base`. -/
def selectBase (db : Database RunContent) (dag : TaskDAG) (runBase taskId : String) :
    Except Failure TaskExecutionBase :=
  match dag.node? taskId with
  | none => throw ⟨.valueError, "task '" ++ taskId ++ "' does not belong to run " ++ db.runId.str⟩
  | some node =>
    if node.dependsOn = [] then do
      requireOid runBase "Run base commit"
      return {
        runId := db.runId, taskId, commitSha := runBase, basis := .runBase
        sourceEvidenceId := none, integrationRef := none
        run_base := TaskExecutionBaseBasis.runBase_alone
        snapshot := TaskExecutionBaseBasis.runBase_not_snapshot }
    else do
      let workers ← successfulWorkerPairs db.runId dag.taskIds db.evidence
      let snapshots ← validatedMergeSnapshots db.runId dag runBase workers db.evidence
      match snapshots.getLast? with
      | none => throw ⟨.taskExecutionBaseUnavailable,
          "dependent task '" ++ taskId ++ "' has no accepted integration history"⟩
      | some (row, latest) =>
        Raising.raiseIf (latest.stopped = true)
          ⟨.taskExecutionBaseUnavailable, "integration queue is stopped by unresolved conflict; " ++
            "downstream dispatch is blocked"⟩
        let missing := node.dependsOn.filter fun d => d ∉ latest.integratedTaskIds
        Raising.raiseIf (missing ≠ [])
          ⟨.taskExecutionBaseUnavailable, "dependent task '" ++ taskId ++
            "' is waiting for integrated dependencies: " ++
            ", ".intercalate (missing.insertionSort (· ≤ ·))⟩
        requireOid latest.headCommit "integration head"
        return {
          runId := db.runId, taskId, commitSha := latest.headCommit, basis := .mergeQueueSnapshot
          sourceEvidenceId := some row.id, integrationRef := some latest.integrationRef.name
          run_base := by simp
          snapshot := by simp }

end DevFlow
