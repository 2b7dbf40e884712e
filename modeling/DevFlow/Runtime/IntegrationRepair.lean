/-
# Repair of an integration conflict

`runtime/integration_repair.py`: `IntegrationConflictRepairService.repair`, as a
program over what a process crash leaves behind: the rows of the run, the Git
objects and refs, and the repair worktrees.

A first call adds a worktree, reproduces the conflict, lets the agent resolve
it and the verifier check it, writes the repair commit, protects it by the
staging ref, records the evidence, advances the integration ref, archives the
refs of the Human Gate and releases the staging ref.  A call that finds the
evidence goes on from there.  What Git, the agent and the verifier answer in
one call is a `RepairAttempt`.
-/

import DevFlow.Library.Durable
import DevFlow.Models.Integration
import DevFlow.Persistence.Evidence

namespace DevFlow

open Durable (Prog)

/-- What a stopped call leaves behind. -/
structure RepairWorld where
  db : Database RunContent
  /-- The contracts of the persisted tasks. -/
  tasks : List TaskContract
  git : GitRepository
  /-- `changed_files` of the base workspace. -/
  changedFiles : List String
  /-- The repair worktrees that exist. -/
  worktrees : List String

/-- A conflict path after the agent's run. -/
inductive ConflictFile
  | absent
  | notRegular
  | notText
  | text (content : String)
deriving DecidableEq, Repr

/-- The answers that one call gets from outside. -/
structure RepairAttempt where
  /-- `_repair_path`, with its `uuid4`. -/
  path : String
  /-- `git worktree add` exits with 0. -/
  worktreeAdded : Bool
  mergeReturncode : ℤ
  /-- `_unmerged_paths` after the merge, sorted. -/
  unresolved : List String
  developerRun : DeveloperRunResult
  files : String → ConflictFile
  /-- `_unmerged_paths` after `git add`. -/
  remaining : List String
  verification : VerificationResult
  /-- `changed_files` of the repair worktree: sorted, without duplicates. -/
  changedFiles : List String
  tree : String
  /-- The object id that `git commit-tree` prints. -/
  commit : String
  changedFiles_sorted : changedFiles.Pairwise (· < ·)

/-- `_validate_gate_shape`; the decision that it finds. -/
def validateGateShape (gate : IntegrationGateSnapshot) (queue : MergeQueueSnapshot) :
    Except Failure HumanIntegrationDecision := do
  Raising.raiseIf (gate.state ≠ .repairAuthorized)
    ⟨.runtimeError, "integration repair requires REPAIR_AUTHORIZED Human Gate"⟩
  match gate.repairMayStart, gate.humanDecision with
  | true, some decision =>
    Raising.raiseIf (decision.decision ≠ .authorizeRepair)
      ⟨.runtimeError, "Human Gate decision is not AUTHORIZE_REPAIR"⟩
    match queue.stopped, queue.attempts.getLast? with
    | true, some terminal =>
      Raising.raiseIf (terminal.taskId ≠ gate.taskId ∨ terminal.taskCommit ≠ gate.taskCommit ∨
          terminal.previousIntegrationCommit ≠ gate.integrationHead)
        ⟨.runtimeError, "Human Gate does not match the stopped merge queue"⟩
      return decision
    | _, _ => throw ⟨.runtimeError, "integration repair requires a stopped merge queue"⟩
  | _, _ => throw ⟨.runtimeError, "Human Gate does not authorize a repair stage"⟩

/-- `_task_contract`. -/
def taskContract (tasks : List TaskContract) (taskId : String) : Except Failure TaskContract :=
  match tasks.filter fun task => task.taskId = taskId with
  | [task] => return task
  | _ => throw ⟨.persistenceCorruption, "repair task identity is not unique in persisted Run"⟩

/-- What `repair` uses of the successful execution of the task. -/
structure SuccessfulWorker where
  branchName : String
  baseCommit : String
  commitSha : String
deriving DecidableEq, Repr

/-- The successful executions of one task; `load_run` has decoded each payload by
the kind of its row. -/
def successfulExecutions (rows : List (EvidenceRow RunContent)) (taskId : String) :
    List (WorkerExecutionEvidence RunContent) :=
  rows.filterMap fun row =>
    match row.payload with
    | .workerExecution evidence =>
      if row.kind = .workerExecution ∧ row.taskId = some taskId ∧ evidence.status = .succeeded then
        some evidence
      else none
    | _ => none

/-- `_successful_worker`. -/
def successfulWorker (rows : List (EvidenceRow RunContent)) (taskId : String) :
    Except Failure SuccessfulWorker :=
  let failure : Failure := ⟨.persistenceCorruption,
    "integration repair requires exactly one successful worker commit evidence"⟩
  match successfulExecutions rows taskId with
  | [evidence] =>
    match evidence.commitSha, evidence.content with
    | some commitSha, .execution (some branchName) _ =>
      if branchName = "" then throw failure
      else return ⟨branchName, evidence.baseCommit, commitSha⟩
    | _, _ => throw failure
  | _ => throw failure

/-- The repair evidence of one conflict. -/
def repairsOf (rows : List (EvidenceRow RunContent)) (gate : IntegrationGateSnapshot) :
    List IntegrationConflictRepairEvidence :=
  rows.filterMap fun row =>
    match row.payload with
    | .other .integrationRepair (.repair repair) =>
      if row.kind = .integrationRepair ∧ repair.taskId = gate.taskId ∧
          repair.conflictEvidenceFingerprint = gate.evidenceFingerprint then some repair
      else none
    | _ => none

/-- `_existing_repair`. -/
def existingRepair (rows : List (EvidenceRow RunContent)) (gate : IntegrationGateSnapshot) :
    Except Failure (Option IntegrationConflictRepairEvidence) :=
  match repairsOf rows gate with
  | [] => return none
  | [repair] => return some repair
  | _ => throw ⟨.persistenceCorruption,
      "one Human Gate conflict contains multiple integration repair results"⟩

/-- `_conflict_only_task`. -/
def conflictOnlyTask (task : TaskContract) (gate : IntegrationGateSnapshot) :
    Except Failure TaskContract :=
  TaskContract.validate
    { taskId := task.taskId
      objective := "Resolve only the already-classified Git integration conflicts for this task. " ++
        "Preserve the intended task behavior and both sides' compatible changes. Do not " ++
        "edit non-conflicting files. Original objective: " ++ task.objective
      readableFiles :=
        (task.readableFiles ++ task.writableFiles ++ gate.conflictingPaths).reverse.dedup.reverse
      writableFiles := gate.conflictingPaths
      readonlyFiles := task.readonlyFiles }

/-- `_CONFLICT_MARKERS`. -/
def conflictMarkers : List String :=
  ["<<<<<<<", "=======", ">>>>>>>"]

/-- `_assert_no_text_conflict_markers`, for one path. -/
def assertNoConflictMarkers (files : String → ConflictFile) (path : String) :
    Except Failure Unit :=
  match files path with
  | .absent => return ()
  | .notRegular =>
    throw ⟨.runtimeError, "conflict path is not a regular file after repair: " ++ path⟩
  | .notText => throw ⟨.runtimeError, "conflict path is not UTF-8 text after repair: " ++ path⟩
  | .text content =>
    Raising.raiseIf (∃ marker ∈ conflictMarkers, marker.toList <:+: content.toList)
      ⟨.runtimeError, "conflict marker remains after Agent repair: " ++ path⟩

/-- Everything between the worktree and the commit: the conflict is the one of
the gate, the agent resolves it and the verifier passes. -/
def RepairAttempt.check (a : RepairAttempt) (gate : IntegrationGateSnapshot) :
    Except Failure Unit := do
  Raising.raiseIf (a.mergeReturncode ≠ 1)
    ⟨.runtimeError, "authorized repair did not reproduce the exact Git merge conflict"⟩
  Raising.raiseIf (a.unresolved.insertionSort (· ≤ ·) ≠
      gate.conflictingPaths.insertionSort (· ≤ ·))
    ⟨.runtimeError, "reproduced conflict paths differ from the Human Gate evidence"⟩
  Raising.raiseIf (a.developerRun.stopReason ≠ .modelStop)
    ⟨.runtimeError, "integration repair Agent did not terminate within its bounded success path"⟩
  gate.conflictingPaths.forM (assertNoConflictMarkers a.files)
  Raising.raiseIf (a.remaining ≠ [])
    ⟨.runtimeError, "integration repair left unresolved Git index stages: " ++
      ", ".intercalate a.remaining⟩
  Raising.raiseIf (a.verification.passed = false)
    ⟨.runtimeError, "human-authorized integration repair failed deterministic verification"⟩
  Raising.raiseIf (a.changedFiles = [])
    ⟨.runtimeError, "integration repair produced no repository changes"⟩
  requireOid a.tree "repair tree"

/-- `_repair_message`. -/
def repairMessage (gate : IntegrationGateSnapshot) (decision : HumanIntegrationDecision)
    (worker : SuccessfulWorker) : List Trailer :=
  [⟨.task, gate.taskId⟩, ⟨.taskBranch, worker.branchName⟩, ⟨.taskBase, worker.baseCommit⟩,
    ⟨.taskCommit, gate.taskCommit⟩, ⟨.integrationRepair, "true"⟩,
    ⟨.conflictMarker, gate.conflictMarkerCommit⟩,
    ⟨.conflictEvidenceFingerprint, gate.evidenceFingerprint⟩,
    ⟨.policyFingerprint, gate.policyFingerprint⟩,
    ⟨.humanDecisionCommit, decision.decisionCommit⟩]

/-- The commit that `git commit-tree` writes. -/
def RepairAttempt.repairCommit (a : RepairAttempt) (gate : IntegrationGateSnapshot)
    (decision : HumanIntegrationDecision) (worker : SuccessfulWorker) : GitCommit where
  oid := a.commit
  tree := a.tree
  parents := [gate.integrationHead, gate.taskCommit]
  message := repairMessage gate decision worker

/-- The fields of the evidence. -/
def RepairAttempt.record (a : RepairAttempt) (runId : UUID) (gate : IntegrationGateSnapshot)
    (decision : HumanIntegrationDecision) : RepairRecord where
  runId := runId
  taskId := gate.taskId
  integrationHead := gate.integrationHead
  taskCommit := gate.taskCommit
  conflictMarkerCommit := gate.conflictMarkerCommit
  conflictEvidenceFingerprint := gate.evidenceFingerprint
  policyFingerprint := gate.policyFingerprint
  humanDecisionCommit := decision.decisionCommit
  conflictingPaths := gate.conflictingPaths
  repairCommit := a.commit
  changedFiles := a.changedFiles
  developerRun := a.developerRun
  verification := a.verification

/-- The lines that `_validate_repair_commit` looks for. -/
def expectedTrailers (evidence : IntegrationConflictRepairEvidence) (branchName : String) :
    List Trailer :=
  [⟨.task, evidence.taskId⟩, ⟨.taskBranch, branchName⟩, ⟨.taskCommit, evidence.taskCommit⟩,
    ⟨.integrationRepair, "true"⟩, ⟨.conflictMarker, evidence.conflictMarkerCommit⟩,
    ⟨.conflictEvidenceFingerprint, evidence.conflictEvidenceFingerprint⟩,
    ⟨.policyFingerprint, evidence.policyFingerprint⟩,
    ⟨.humanDecisionCommit, evidence.humanDecisionCommit⟩]

/-- `_validate_repair_commit`. -/
def validateRepairCommit (git : GitRepository) (evidence : IntegrationConflictRepairEvidence)
    (branchName : String) : Except Failure Unit :=
  match git.commit? evidence.repairCommit with
  | none => throw ⟨.runtimeError, "integration repair Git command failed: bad object"⟩
  | some commit => do
    Raising.raiseIf (commit.parents ≠ [evidence.integrationHead, evidence.taskCommit])
      ⟨.persistenceCorruption, "persisted integration repair commit parents changed"⟩
    Raising.raiseIf (¬expectedTrailers evidence branchName ⊆ commit.message)
      ⟨.persistenceCorruption, "persisted integration repair commit metadata changed"⟩

/-- `_resolve_optional_ref`. -/
def resolveOptionalRef (ref : GitRef) : Prog RepairWorld Failure (Option String) := do
  let w ← Durable.read
  match w.git.refs ref with
  | none => return none
  | some value =>
    Durable.lift (requireOid value "optional Git ref")
    return some value

/-- `_resolve_ref`. -/
def resolveRef (ref : GitRef) : Prog RepairWorld Failure String := do
  let w ← Durable.read
  match w.git.refs ref with
  | none => Durable.lift (.error ⟨.runtimeError, "integration repair Git command failed: bad ref"⟩)
  | some value =>
    Durable.lift (requireOid value "Git ref")
    return value

/-- A `git update-ref` with its exit code. -/
def updateGit (f : GitRepository → Option GitRepository) : Prog RepairWorld Failure Bool :=
  Durable.attempt fun w => (f w.git).map fun git => { w with git }

/-- `_anchor_repair_commit`. -/
def anchorRepairCommit (stagingRef : GitRef) (repairCommit : String) :
    Prog RepairWorld Failure Unit := do
  let current ← resolveOptionalRef stagingRef
  if current = some repairCommit then return ()
  else
    Durable.raiseIf (current ≠ none)
      ⟨.persistenceConflict, "integration repair staging ref already protects a different commit"⟩
    let created ← updateGit fun git => git.updateRef stagingRef repairCommit none
    Durable.raiseIf (created = false)
      ⟨.persistenceConflict, "could not create durable integration repair staging ref"⟩
    let resolved ← resolveRef stagingRef
    Durable.raiseIf (resolved ≠ repairCommit)
      ⟨.persistenceCorruption, "integration repair staging ref did not protect the expected commit"⟩

/-- `_release_repair_anchor`. -/
def releaseRepairAnchor (stagingRef : GitRef) (repairCommit : String) :
    Prog RepairWorld Failure Unit := do
  let current ← resolveOptionalRef stagingRef
  if current = none then return ()
  else
    Durable.raiseIf (current ≠ some repairCommit)
      ⟨.persistenceConflict, "integration repair staging ref changed before cleanup"⟩
    let deleted ← updateGit fun git => git.deleteRef stagingRef repairCommit
    Durable.raiseIf (deleted = false)
      ⟨.persistenceConflict, "could not release durable integration repair staging ref"⟩
    let remaining ← resolveOptionalRef stagingRef
    Durable.raiseIf (remaining ≠ none)
      ⟨.persistenceCorruption, "integration repair staging ref remained after cleanup"⟩

/-- `_advance_ref`. -/
def advanceRef (integrationRef : GitRef) (evidence : IntegrationConflictRepairEvidence) :
    Prog RepairWorld Failure Unit := do
  let current ← resolveRef integrationRef
  if current = evidence.repairCommit then return ()
  else
    Durable.raiseIf (current ≠ evidence.integrationHead)
      ⟨.persistenceConflict, "integration ref moved before the persisted repair could be applied"⟩
    let updated ← updateGit fun git =>
      git.updateRef integrationRef evidence.repairCommit (some evidence.integrationHead)
    Durable.raiseIf (updated = false)
      ⟨.persistenceConflict, "integration repair CAS update lost a concurrent race"⟩
    let resolved ← resolveRef integrationRef
    Durable.raiseIf (resolved ≠ evidence.repairCommit)
      ⟨.persistenceCorruption, "integration ref did not land on persisted repair commit"⟩

/-- The archive ref of a gate ref is created if it is not there. -/
def createArchive (archiveRef : GitRef) (expectedOid : String) (archive : Option String) :
    Prog RepairWorld Failure Unit :=
  if archive = none then do
    let created ← updateGit fun git => git.updateRef archiveRef expectedOid none
    Durable.raiseIf (created = false)
      ⟨.persistenceConflict, "could not archive durable Human Gate Git ref"⟩
  else return ()

/-- The live gate ref is deleted if it is there. -/
def deleteLive (liveRef : GitRef) (expectedOid : String) (live : Option String) :
    Prog RepairWorld Failure Unit :=
  if live = none then return ()
  else do
    Durable.raiseIf (live ≠ some expectedOid)
      ⟨.persistenceConflict, "live Human Gate Git ref changed before archival"⟩
    let deleted ← updateGit fun git => git.deleteRef liveRef expectedOid
    Durable.raiseIf (deleted = false)
      ⟨.persistenceConflict, "could not release live Human Gate Git ref"⟩

/-- One round of the loop of `_archive_live_gate_refs`. -/
def archiveLiveRef (liveRef : GitRef) (expectedOid : String) (archiveRef : GitRef) :
    Prog RepairWorld Failure Unit := do
  let live ← resolveOptionalRef liveRef
  let archive ← resolveOptionalRef archiveRef
  Durable.raiseIf (archive ≠ none ∧ archive ≠ some expectedOid)
    ⟨.persistenceCorruption, "integration repair archive ref changed unexpectedly"⟩
  createArchive archiveRef expectedOid archive
  deleteLive liveRef expectedOid live

/-- `_archive_live_gate_refs`. -/
def archiveLiveGateRefs (gate : IntegrationGateSnapshot) (decision : HumanIntegrationDecision) :
    Prog RepairWorld Failure Unit :=
  match gate.integrationRef with
  | .integration integrationId =>
    if integrationId = "" then
      Durable.lift (.error
        ⟨.persistenceCorruption, "Human Gate integration ref has unexpected namespace"⟩)
    else do
      archiveLiveRef gate.conflictRef gate.conflictMarkerCommit
        (.conflictHistory integrationId gate.conflictMarkerCommit)
      archiveLiveRef decision.decisionRef decision.decisionCommit
        (.decisionHistory integrationId gate.conflictMarkerCommit)
  | _ =>
    Durable.lift (.error
      ⟨.persistenceCorruption, "Human Gate integration ref has unexpected namespace"⟩)

/-- `_add_repair_worktree`. -/
def addRepairWorktree (a : RepairAttempt) : Prog RepairWorld Failure Unit := do
  let w ← Durable.read
  Durable.raiseIf (a.path ∈ w.worktrees)
    ⟨.runtimeError, "fresh integration repair path unexpectedly exists"⟩
  Durable.raiseIf (a.worktreeAdded = false)
    ⟨.runtimeError, "Git could not create isolated integration repair worktree"⟩
  Durable.write fun w => { w with worktrees := a.path :: w.worktrees }

/-- `_remove_repair_worktree`. -/
def removeRepairWorktree (a : RepairAttempt) : Prog RepairWorld Failure Unit :=
  Durable.write fun w => { w with worktrees := w.worktrees.filter (· ≠ a.path) }

/-- `record_integration_repair` as one transaction. -/
def recordRepair (evidence : IntegrationConflictRepairEvidence) :
    Prog RepairWorld Failure ℕ :=
  Durable.transact fun w =>
    (recordIntegrationRepair w.db evidence.runId evidence.taskId
      evidence.conflictEvidenceFingerprint (.repair evidence)).map fun r =>
        (r.1, { w with db := r.2 })

/-- The steps after the evidence is there, which both ways end with. -/
def applyRepair (queue : MergeQueueSnapshot) (gate : IntegrationGateSnapshot)
    (decision : HumanIntegrationDecision) (stagingRef : GitRef)
    (evidence : IntegrationConflictRepairEvidence) :
    Prog RepairWorld Failure IntegrationConflictRepairEvidence := do
  advanceRef queue.integrationRef evidence
  archiveLiveGateRefs gate decision
  releaseRepairAnchor stagingRef evidence.repairCommit
  return evidence

/-- The `try` block of a first call. -/
def makeRepair (a : RepairAttempt) (runId : UUID) (gate : IntegrationGateSnapshot)
    (queue : MergeQueueSnapshot) (decision : HumanIntegrationDecision) (worker : SuccessfulWorker) :
    Prog RepairWorld Failure IntegrationConflictRepairEvidence := do
  Durable.lift (a.check gate)
  Durable.write fun w => { w with git := w.git.commitTree (a.repairCommit gate decision worker) }
  Durable.lift (requireOid a.commit "integration repair commit")
  anchorRepairCommit (.repair runId gate.conflictMarkerCommit) a.commit
  let evidence ← Durable.lift
    (IntegrationConflictRepairEvidence.ofRecord (a.record runId gate decision))
  let _ ← recordRepair evidence
  applyRepair queue gate decision (.repair runId gate.conflictMarkerCommit) evidence

/-- `repair`. -/
def repair (a : RepairAttempt) (runId : UUID) (gate : IntegrationGateSnapshot)
    (queue : MergeQueueSnapshot) : Prog RepairWorld Failure IntegrationConflictRepairEvidence := do
  let decision ← Durable.lift (validateGateShape gate queue)
  let w ← Durable.read
  Durable.lift (lockedRun w.db runId)
  let task ← Durable.lift (taskContract w.tasks gate.taskId)
  let worker ← Durable.lift (successfulWorker w.db.evidence gate.taskId)
  Durable.raiseIf (worker.commitSha ≠ gate.taskCommit)
    ⟨.persistenceCorruption,
      "Human Gate task commit disagrees with accepted worker execution evidence"⟩
  Durable.raiseIf (w.changedFiles ≠ [])
    ⟨.runtimeError, "base workspace must remain clean before integration repair"⟩
  let stagingRef : GitRef := .repair runId gate.conflictMarkerCommit
  match ← Durable.lift (existingRepair w.db.evidence gate) with
  | some existing =>
    Durable.lift (validateRepairCommit w.git existing worker.branchName)
    anchorRepairCommit stagingRef existing.repairCommit
    applyRepair queue gate decision stagingRef existing
  | none =>
    let _ ← Durable.lift (conflictOnlyTask task gate)
    addRepairWorktree a
    Durable.ensuring (makeRepair a runId gate queue decision worker) (removeRepairWorktree a)

end DevFlow
