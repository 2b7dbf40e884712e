/-
# The records of a repair

`models/repair.py`: what a repair session is given (`RepairHandoff`) and what it leaves
(`RepairRunResult` with its `RepairProgressEvidence`).  The handoff is bounded in every
list; a result is copied with its progress afterwards, and the copy is not validated again.
-/

import DevFlow.Models.AgentMessages
import DevFlow.Models.VerificationRecords

namespace DevFlow

/-! ### `RepairHandoff` -/

/-- `RepairFailureKind`. -/
inductive RepairFailureKind
  | importSymbolMissing
deriving DecidableEq, Repr

/-- The fields of `RepairFailureDigest`. -/
structure RepairFailureDigest where
  failureType : FailureType
  source : FailureSource
  message : String
  evidence : List String := []
deriving DecidableEq, Repr

/-- The validators of `RepairFailureDigest`. -/
def RepairFailureDigest.validate (digest : RepairFailureDigest) :
    Except Failure RepairFailureDigest := do
  Raising.raiseIf (digest.message.length < 1 ∨ 2000 < digest.message.length)
    (boundError "message has a wrong number of characters")
  Raising.raiseIf (8 < digest.evidence.length) (boundError "evidence has too many items")
  return digest

/-- The fields of `RepairHandoff`. -/
structure RepairHandoff where
  taskId : String
  objective : String
  repositoryHead : String
  acceptanceCriteria : List String
  verificationCommands : List String := []
  writableFiles : List String := []
  readonlyFiles : List String := []
  changedFiles : List String := []
  relevantPaths : List String := []
  failureKind : Option RepairFailureKind := none
  suspectedPath : Option String := none
  suspectedSymbol : Option String := none
  failures : List RepairFailureDigest
deriving DecidableEq, Repr

/-- What the fields of a `RepairHandoff` are bounded by. -/
structure RepairHandoff.Bounded (handoff : RepairHandoff) : Prop where
  task_id : 1 ≤ handoff.taskId.length ∧ handoff.taskId.length ≤ 128
  objective : 1 ≤ handoff.objective.length ∧ handoff.objective.length ≤ 4000
  repository_head : isOid handoff.repositoryHead = true
  acceptance_criteria :
    1 ≤ handoff.acceptanceCriteria.length ∧ handoff.acceptanceCriteria.length ≤ 32
  verification_commands : handoff.verificationCommands.length ≤ 32
  writable_files : handoff.writableFiles.length ≤ 256
  readonly_files : handoff.readonlyFiles.length ≤ 256
  changed_files : handoff.changedFiles.length ≤ 256
  relevant_paths : handoff.relevantPaths.length ≤ 16
  suspected_path : ∀ path ∈ handoff.suspectedPath, path.length ≤ 500
  /-- The pattern is that of the names of tools. -/
  suspected_symbol : ∀ symbol ∈ handoff.suspectedSymbol,
    isToolName symbol = true ∧ symbol.length ≤ 256
  failures : 1 ≤ handoff.failures.length ∧ handoff.failures.length ≤ 8

instance (handoff : RepairHandoff) : Decidable handoff.Bounded :=
  decidable_of_iff
    ((1 ≤ handoff.taskId.length ∧ handoff.taskId.length ≤ 128) ∧
      (1 ≤ handoff.objective.length ∧ handoff.objective.length ≤ 4000) ∧
      isOid handoff.repositoryHead = true ∧
      (1 ≤ handoff.acceptanceCriteria.length ∧ handoff.acceptanceCriteria.length ≤ 32) ∧
      handoff.verificationCommands.length ≤ 32 ∧ handoff.writableFiles.length ≤ 256 ∧
      handoff.readonlyFiles.length ≤ 256 ∧ handoff.changedFiles.length ≤ 256 ∧
      handoff.relevantPaths.length ≤ 16 ∧
      (∀ path ∈ handoff.suspectedPath, path.length ≤ 500) ∧
      (∀ symbol ∈ handoff.suspectedSymbol, isToolName symbol = true ∧ symbol.length ≤ 256) ∧
      (1 ≤ handoff.failures.length ∧ handoff.failures.length ≤ 8))
    ⟨fun ⟨h₁, h₂, h₃, h₄, h₅, h₆, h₇, h₈, h₉, h₁₀, h₁₁, h₁₂⟩ =>
        ⟨h₁, h₂, h₃, h₄, h₅, h₆, h₇, h₈, h₉, h₁₀, h₁₁, h₁₂⟩,
      fun ⟨h₁, h₂, h₃, h₄, h₅, h₆, h₇, h₈, h₉, h₁₀, h₁₁, h₁₂⟩ =>
        ⟨h₁, h₂, h₃, h₄, h₅, h₆, h₇, h₈, h₉, h₁₀, h₁₁, h₁₂⟩⟩

/-- The validators of `RepairHandoff`: only bounds. -/
def RepairHandoff.validate (handoff : RepairHandoff) : Except Failure RepairHandoff := do
  Raising.raiseIf (¬handoff.Bounded) (boundError "a field of RepairHandoff is out of its bounds")
  return handoff

/-! ### `RepairRunResult` -/

/-- The value of the enumeration member. -/
def RepairStopReason.value : RepairStopReason → String
  | .modelStop => "MODEL_STOP"
  | .noProgress => "NO_PROGRESS"
  | .explicitBlocker => "EXPLICIT_BLOCKER"
  | .iterationLimit => "ITERATION_LIMIT"
  | .timeLimit => "TIME_LIMIT"
  | .toolCallLimit => "TOOL_CALL_LIMIT"

/-- `RepairProgressStatus`. -/
inductive RepairProgressStatus
  | patchProduced
  | noPatchProduced
  | progressMade
  | repairIneffective
  | repaired
deriving DecidableEq, Repr

/-- The value of the enumeration member. -/
def RepairProgressStatus.value : RepairProgressStatus → String
  | .patchProduced => "PATCH_PRODUCED"
  | .noPatchProduced => "NO_PATCH_PRODUCED"
  | .progressMade => "PROGRESS_MADE"
  | .repairIneffective => "REPAIR_INEFFECTIVE"
  | .repaired => "REPAIRED"

/-- The fields of `RepairProgressEvidence`. -/
structure RepairProgressEvidence where
  status : RepairProgressStatus
  hasPatch : Bool
  filesChanged : List String := []
  patchHashBefore : String
  patchHashAfter : String
  failureSignatureBefore : Option String := none
  failureSignatureAfter : Option String := none
  validationExecuted : Bool := false
  validationCommands : List String := []
deriving DecidableEq, Repr

/-- The validators of `RepairProgressEvidence`. -/
def RepairProgressEvidence.validate (progress : RepairProgressEvidence) :
    Except Failure RepairProgressEvidence := do
  Raising.raiseIf (isSha256 progress.patchHashBefore = false)
    (boundError "patch_hash_before should match its pattern")
  Raising.raiseIf (isSha256 progress.patchHashAfter = false)
    (boundError "patch_hash_after should match its pattern")
  Raising.raiseIf (∃ signature ∈ progress.failureSignatureBefore, isSha256 signature = false)
    (boundError "failure_signature_before should match its pattern")
  Raising.raiseIf (∃ signature ∈ progress.failureSignatureAfter, isSha256 signature = false)
    (boundError "failure_signature_after should match its pattern")
  return progress

/-- The fields of `RepairRunResult`. -/
structure RepairRunResultFields where
  attempt : ℕ
  failureTypes : List FailureType
  stopReason : RepairStopReason
  iterations : ℕ
  toolCalls : ℕ
  finalMessage : String := ""
  changedFiles : List String := []
  progress : Option RepairProgressEvidence := none
  usage : TokenUsage := {}
  latencyMs : ℕ := 0
deriving DecidableEq, Repr

/-- The validators of `RepairRunResult`. -/
def RepairRunResultFields.validate (fields : RepairRunResultFields) :
    Except Failure RepairRunResultFields := do
  Raising.raiseIf (fields.attempt < 1)
    (boundError "Input should be greater than or equal to 1")
  Raising.raiseIf (fields.failureTypes = []) (boundError "List should have at least 1 item")
  match fields.progress with
  | none => return fields
  | some progress => do
    let progress ← progress.validate
    return { fields with progress := some progress }

/-! ### What the validators accept -/

theorem RepairFailureDigest.validate_eq_ok {a b : RepairFailureDigest} :
    a.validate = .ok b ↔ 1 ≤ a.message.length ∧ a.message.length ≤ 2000 ∧
      a.evidence.length ≤ 8 ∧ b = a := by
  simp only [validate, Raising.bind_eq_ok, Raising.raiseIf_eq_ok, Raising.pure_eq_ok, not_or,
    not_lt]
  constructor
  · rintro ⟨_, hmessage, _, hevidence, rfl⟩
    exact ⟨hmessage.1, hmessage.2, hevidence, rfl⟩
  · rintro ⟨hmessage, hmessage', hevidence, rfl⟩
    exact ⟨⟨⟩, ⟨hmessage, hmessage'⟩, ⟨⟩, hevidence, rfl⟩

theorem RepairHandoff.validate_eq_ok {a b : RepairHandoff} :
    a.validate = .ok b ↔ a.Bounded ∧ b = a := by
  simp only [validate, Raising.bind_eq_ok, Raising.raiseIf_eq_ok, Raising.pure_eq_ok, not_not]
  constructor
  · rintro ⟨_, hbounded, rfl⟩
    exact ⟨hbounded, rfl⟩
  · rintro ⟨hbounded, rfl⟩
    exact ⟨⟨⟩, hbounded, rfl⟩

end DevFlow
