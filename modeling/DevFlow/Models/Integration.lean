/-
# Human-Gate and repair evidence

`models/integration_gate.py`, `models/integration_repair.py`, and of
`models/task.py` the contract that a repair builds; with them the content that
the evidence rows of an integrating run carry.
-/

import DevFlow.Models.MultiRun
import Mathlib.Data.List.Sort
import Mathlib.Data.String.Basic

namespace DevFlow

/-- `DeveloperStopReason`. -/
inductive DeveloperStopReason
  | modelStop
  | iterationLimit
  | timeLimit
  | toolCallLimit
  | repeatedToolFailure
deriving DecidableEq, Repr

/-- `DeveloperRunResult`: why the agent stopped, and the rest of the record. -/
structure DeveloperRunResult where
  stopReason : DeveloperStopReason
  content : String
deriving DecidableEq, Repr

/-- `VerificationResult`: the verdict, and the rest of the record. -/
structure VerificationResult where
  passed : Bool
  content : String
deriving DecidableEq, Repr

/-- `HumanGateDecision`. -/
inductive HumanGateDecision
  | authorizeRepair
  | abort
deriving DecidableEq, Repr

/-- `IntegrationGateState`. -/
inductive IntegrationGateState
  | autoRepairCandidate
  | awaitingHuman
  | repairAuthorized
  | aborted
deriving DecidableEq, Repr

/-- `HumanIntegrationDecision`, without the actor and the note. -/
structure HumanIntegrationDecision where
  decision : HumanGateDecision
  decisionRef : GitRef
  decisionCommit : String
  evidenceFingerprint : String
  policyFingerprint : String
  conflictMarkerCommit : String
deriving DecidableEq, Repr

/-- The path of a sample conflict. -/
theorem sharedFile_ne_nil : ["shared.py"] ≠ [] := by
  decide

theorem sharedFile_nodup : ["shared.py"].Nodup := by
  decide

/-- `IntegrationGateSnapshot`; of the policy decision the conflicting paths.  Of
`validate_state` the part about human decisions is carried by the type. -/
structure IntegrationGateSnapshot where
  taskId : String
  taskCommit : String
  integrationRef : GitRef
  integrationHead : String
  conflictRef : GitRef
  conflictMarkerCommit : String
  evidenceFingerprint : String
  policyFingerprint : String
  conflictingPaths : List String
  state : IntegrationGateState
  humanDecision : Option HumanIntegrationDecision
  repairMayStart : Bool
  paths_nonempty : conflictingPaths ≠ []
  paths_nodup : conflictingPaths.Nodup
  decided : ∀ decision, humanDecision = some decision →
    decision.evidenceFingerprint = evidenceFingerprint ∧
      decision.policyFingerprint = policyFingerprint ∧
      decision.conflictMarkerCommit = conflictMarkerCommit

/-- The fields of a snapshot that are not proofs. -/
def IntegrationGateSnapshot.data (gate : IntegrationGateSnapshot) :=
  ([gate.taskId, gate.taskCommit, gate.integrationHead, gate.conflictMarkerCommit,
    gate.evidenceFingerprint, gate.policyFingerprint], [gate.integrationRef, gate.conflictRef],
    gate.conflictingPaths, gate.state, gate.humanDecision, gate.repairMayStart)

theorem IntegrationGateSnapshot.data_injective : Function.Injective data := by
  intro gate other h
  cases gate
  cases other
  simp only [data, Prod.mk.injEq, List.cons.injEq, and_true] at h
  obtain ⟨⟨rfl, rfl, rfl, rfl, rfl, rfl⟩, ⟨rfl, rfl⟩, rfl, rfl, rfl, rfl⟩ := h
  rfl

instance : DecidableEq IntegrationGateSnapshot := fun gate other =>
  decidable_of_iff (gate.data = other.data) IntegrationGateSnapshot.data_injective.eq_iff

/-- `MergeConflictEvidence`, without the tree, the files and the messages. -/
structure MergeConflictEvidence where
  integrationHead : String
  taskCommit : String
  conflictRef : GitRef
  markerCommit : String
  conflictingPaths : List String
deriving DecidableEq, Repr

/-- The fields of `IntegrationConflictRepairEvidence`. -/
structure RepairRecord where
  runId : UUID
  taskId : String
  integrationHead : String
  taskCommit : String
  conflictMarkerCommit : String
  conflictEvidenceFingerprint : String
  policyFingerprint : String
  humanDecisionCommit : String
  conflictingPaths : List String
  repairCommit : String
  changedFiles : List String
  developerRun : DeveloperRunResult
  verification : VerificationResult
deriving DecidableEq, Repr

/-- The field constraints and `validate_repair_evidence`. -/
def RepairRecord.validate (record : RepairRecord) : Except Failure Unit := do
  Raising.raiseIf (¬(1 ≤ record.taskId.length ∧ record.taskId.length ≤ 128))
    ⟨.valueError, "task_id length is out of range"⟩
  Raising.raiseIf (¬([record.integrationHead, record.taskCommit, record.conflictMarkerCommit,
      record.humanDecisionCommit, record.repairCommit].all isOid = true))
    ⟨.valueError, "object id does not match its pattern"⟩
  Raising.raiseIf (¬([record.conflictEvidenceFingerprint, record.policyFingerprint].all isSha256 =
      true))
    ⟨.valueError, "fingerprint does not match its pattern"⟩
  Raising.raiseIf (record.conflictingPaths = [] ∨ record.changedFiles = [])
    ⟨.valueError, "list should have at least 1 item"⟩
  Raising.raiseIf (¬record.conflictingPaths.Nodup)
    ⟨.valueError, "integration repair conflicting paths must be unique"⟩
  Raising.raiseIf (¬record.changedFiles.Nodup)
    ⟨.valueError, "integration repair changed files must be unique"⟩
  Raising.raiseIf (record.changedFiles.insertionSort (· ≤ ·) ≠ record.changedFiles)
    ⟨.valueError, "integration repair changed files must be sorted"⟩
  Raising.raiseIf (record.verification.passed = false)
    ⟨.valueError, "accepted integration repair requires deterministic verification"⟩

/-- `IntegrationConflictRepairEvidence`. -/
structure IntegrationConflictRepairEvidence extends RepairRecord where
  valid : toRepairRecord.validate = .ok ()
deriving DecidableEq

/-- The model's constructor: the fields as given, or the `ValidationError`. -/
def IntegrationConflictRepairEvidence.ofRecord (record : RepairRecord) :
    Except Failure IntegrationConflictRepairEvidence :=
  match h : record.validate with
  | .ok () => .ok ⟨record, h⟩
  | .error failure => .error failure

theorem IntegrationConflictRepairEvidence.ofRecord_eq_ok {record : RepairRecord}
    {evidence : IntegrationConflictRepairEvidence} (h : ofRecord record = .ok evidence) :
    evidence.toRepairRecord = record := by
  unfold ofRecord at h
  split at h
  · obtain rfl := Except.ok.inj h
    rfl
  · cases h

theorem IntegrationConflictRepairEvidence.exists_ofRecord {record : RepairRecord}
    (h : record.validate = .ok ()) : ∃ evidence, ofRecord record = .ok evidence := by
  unfold ofRecord
  split
  · exact ⟨_, rfl⟩
  · rename_i hfailed
    rw [h] at hfailed
    cases hfailed

/-- `_normalize_scope_pattern`. -/
def normalizeScopePattern (value : String) : Except Failure String := do
  let pattern := strip value
  Raising.raiseIf (pattern = "") ⟨.valueError, "scope patterns must not be empty"⟩
  Raising.raiseIf (pattern.toList.head? = some '/' ∨ pattern.toList.head? = some '\\')
    ⟨.valueError, "scope patterns must be repository-relative"⟩
  Raising.raiseIf ('\\' ∈ pattern.toList)
    ⟨.valueError, "scope patterns must use POSIX-style '/' separators"⟩
  Raising.raiseIf (pattern.toList.tail.head? = some ':')
    ⟨.valueError, "scope patterns must not contain Windows drive prefixes"⟩
  Raising.raiseIf (['.', '.'] ∈ pattern.toList.splitOn '/')
    ⟨.valueError, "scope patterns must not traverse outside the repository"⟩
  Raising.raiseIf (pattern = ".")
    ⟨.valueError, "scope patterns must identify files or subdirectories"⟩
  return pattern

/-- `validate_scope_patterns`. -/
def validateScopePatterns (values : List String) : Except Failure (List String) := do
  let normalized ← values.mapM normalizeScopePattern
  Raising.raiseIf (¬normalized.Nodup)
    ⟨.valueError, "scope patterns must not contain duplicates"⟩
  return normalized

/-- `TaskContract`, without the acceptance criteria, the commands and the retry
count, which a repair passes on as they are. -/
structure TaskContract where
  taskId : String
  objective : String
  readableFiles : List String
  writableFiles : List String
  readonlyFiles : List String
deriving DecidableEq, Repr

/-- The validators of `TaskContract`. -/
def TaskContract.validate (task : TaskContract) : Except Failure TaskContract := do
  Raising.raiseIf (isTaskId task.taskId = false)
    ⟨.valueError, "task_id does not match its pattern"⟩
  Raising.raiseIf (task.objective.length < 1 ∨ 4000 < task.objective.length)
    ⟨.valueError, "objective length is out of range"⟩
  Raising.raiseIf (strip task.objective = "") ⟨.valueError, "value must not be empty"⟩
  let readable ← validateScopePatterns task.readableFiles
  Raising.raiseIf (task.writableFiles = []) ⟨.valueError, "list should have at least 1 item"⟩
  let writable ← validateScopePatterns task.writableFiles
  let readonlyFiles ← validateScopePatterns task.readonlyFiles
  let overlap := writable.filter fun path => path ∈ readonlyFiles
  Raising.raiseIf (overlap ≠ [])
    ⟨.valueError, "writable_files and readonly_files overlap: " ++
      ", ".intercalate (overlap.insertionSort (· ≤ ·))⟩
  return { task with
    objective := strip task.objective
    readableFiles := readable
    writableFiles := writable
    readonlyFiles := readonlyFiles }

/-- What the evidence rows of an integrating run carry beside the execution and
dispatch records. -/
inductive RunContent
  /-- The rest of a `WorkerExecutionEvidence`: the branch of its worktree, and
  `continuation.slices_started`, which is recorded from the second slice on. -/
  | execution (branchName : Option String) (slicesStarted : Option ℕ)
  | mergeQueue (snapshot : MergeQueueSnapshot)
  | repair (evidence : IntegrationConflictRepairEvidence)
  | decision (decision : HumanIntegrationDecision)
  | conflict (evidence : MergeConflictEvidence)
  | gate (gate : IntegrationGateSnapshot)
  | multi (result : MultiTaskRunRecord)
  | other (text : String)
deriving DecidableEq

end DevFlow
