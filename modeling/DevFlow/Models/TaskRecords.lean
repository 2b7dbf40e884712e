/-
# Tasks, nodes and graphs with all their fields

The models that a persisted task graph consists of, as `model_dump(mode="json")`
writes them and `model_validate` reads them: `TaskContract` of `models/task.py`,
`TaskBudgetAllocation` and `PlanningComplexityAssessment` of
`models/work_package.py`, `TaskResumeContext` of `models/checkpoint.py` with the
`ContextContinuationState` of `models/context.py`, and `TaskNode` and `TaskDAG`
of `models/dag.py`.  Where a model was embedded before without some fields, the
full one is its `Record`.

Each model's validators are a normalising check, and the values of a model are
what the check returns as it is (`Documents.Validated`).  So a check has to
accept what it returned (`validate_stable`), which rests on `strip_strip`.  A
payload is read at the types that a dump has: the conversions of other types
that Pydantic knows are not modelled.
-/

import DevFlow.Library.Documents
import DevFlow.Models.DagQueries
import DevFlow.Models.Integration
import DevFlow.Models.Texts
import DevFlow.Workspace.Git

namespace DevFlow

open Documents (Json Codec Validated)

/-- The `ValidationError` of a bound. -/
def boundError (text : String) : Failure :=
  ⟨.valueError, text⟩

/-- `_normalize_non_empty_text`. -/
def normalizeNonEmptyText (value : String) : Except Failure String := do
  let normalized := strip value
  Raising.raiseIf (normalized = "") ⟨.valueError, "value must not be empty"⟩
  return normalized

/-- `validate_non_empty_items`. -/
def validateNonEmptyItems (values : List String) : Except Failure (List String) := do
  let normalized ← values.mapM normalizeNonEmptyText
  Raising.raiseIf (¬normalized.Nodup) ⟨.valueError, "list items must not contain duplicates"⟩
  return normalized

theorem normalizeNonEmptyText_stable (a b : String) (h : normalizeNonEmptyText a = .ok b) :
    normalizeNonEmptyText b = .ok b := by
  simp only [normalizeNonEmptyText, Raising.bind_eq_ok, Raising.raiseIf_eq_ok,
    Raising.pure_eq_ok] at h ⊢
  obtain ⟨_, hne, rfl⟩ := h
  rw [strip_strip]
  exact ⟨⟨⟩, hne, rfl⟩

/-- A normalised text is within the bounds that the text was in. -/
theorem length_normalizeNonEmptyText {text normalized : String} {bound : ℕ}
    (h : normalizeNonEmptyText text = .ok normalized)
    (hlength : ¬(text.length < 1 ∨ bound < text.length)) :
    ¬(normalized.length < 1 ∨ bound < normalized.length) := by
  simp only [normalizeNonEmptyText, Raising.bind_eq_ok, Raising.raiseIf_eq_ok,
    Raising.pure_eq_ok] at h
  obtain ⟨_, hne, rfl⟩ := h
  have hle := length_strip_le text
  have hpos : (strip text).length ≠ 0 := by
    rw [← String.length_toList, Ne, List.length_eq_zero_iff, String.toList_eq_nil_iff]
    exact hne
  omega

theorem normalizeScopePattern_stable (a b : String) (h : normalizeScopePattern a = .ok b) :
    normalizeScopePattern b = .ok b := by
  simp only [normalizeScopePattern, Raising.bind_eq_ok, Raising.raiseIf_eq_ok,
    Raising.pure_eq_ok] at h ⊢
  obtain ⟨_, h₁, _, h₂, _, h₃, _, h₄, _, h₅, _, h₆, rfl⟩ := h
  rw [strip_strip]
  exact ⟨⟨⟩, h₁, ⟨⟩, h₂, ⟨⟩, h₃, ⟨⟩, h₄, ⟨⟩, h₅, ⟨⟩, h₆, rfl⟩

theorem validateScopePatterns_stable {values normalized : List String}
    (h : validateScopePatterns values = .ok normalized) :
    validateScopePatterns normalized = .ok normalized := by
  simp only [validateScopePatterns, Raising.bind_eq_ok, Raising.raiseIf_eq_ok,
    Raising.pure_eq_ok] at h ⊢
  obtain ⟨items, hitems, _, hnodup, rfl⟩ := h
  exact ⟨items, Raising.mapM_stable normalizeScopePattern_stable hitems, ⟨⟩, hnodup, rfl⟩

theorem validateNonEmptyItems_stable {values normalized : List String}
    (h : validateNonEmptyItems values = .ok normalized) :
    validateNonEmptyItems normalized = .ok normalized := by
  simp only [validateNonEmptyItems, Raising.bind_eq_ok, Raising.raiseIf_eq_ok,
    Raising.pure_eq_ok] at h ⊢
  obtain ⟨items, hitems, _, hnodup, rfl⟩ := h
  exact ⟨items, Raising.mapM_stable normalizeNonEmptyText_stable hitems, ⟨⟩, hnodup, rfl⟩

/-- A list that was normalised item by item is as long as it was. -/
theorem validateNonEmptyItems_ne_nil {values normalized : List String}
    (h : validateNonEmptyItems values = .ok normalized) (hne : values ≠ []) : normalized ≠ [] := by
  simp only [validateNonEmptyItems, Raising.bind_eq_ok, Raising.raiseIf_eq_ok,
    Raising.pure_eq_ok] at h
  obtain ⟨items, hitems, _, _, rfl⟩ := h
  rintro rfl
  rw [Raising.mapM_eq_ok, List.forall₂_nil_right_iff] at hitems
  exact hne hitems

theorem validateScopePatterns_ne_nil {values normalized : List String}
    (h : validateScopePatterns values = .ok normalized) (hne : values ≠ []) : normalized ≠ [] := by
  simp only [validateScopePatterns, Raising.bind_eq_ok, Raising.raiseIf_eq_ok,
    Raising.pure_eq_ok] at h
  obtain ⟨items, hitems, _, _, rfl⟩ := h
  rintro rfl
  rw [Raising.mapM_eq_ok, List.forall₂_nil_right_iff] at hitems
  exact hne hitems

/-! ### `TaskContract` -/

theorem TaskContract.validate_stable {a b : TaskContract} (h : a.validate = .ok b) :
    b.validate = .ok b := by
  simp only [TaskContract.validate, Raising.bind_eq_ok, Raising.raiseIf_eq_ok,
    Raising.pure_eq_ok] at h
  obtain ⟨_, hid, _, hlength, _, hobjective, readable, hreadable, _, hne, writable, hwritable,
    readonlyFiles, hreadonly, _, hoverlap, rfl⟩ := h
  have hlength' : ¬((strip a.objective).length < 1 ∨ 4000 < (strip a.objective).length) := by
    have hle := length_strip_le a.objective
    have hpos : (strip a.objective).length ≠ 0 := by
      rw [← String.length_toList, Ne, List.length_eq_zero_iff, String.toList_eq_nil_iff]
      exact hobjective
    omega
  simp only [TaskContract.validate, Raising.bind_eq_ok, Raising.raiseIf_eq_ok,
    Raising.pure_eq_ok, strip_strip]
  exact ⟨⟨⟩, hid, ⟨⟩, hlength', ⟨⟩, hobjective, readable, validateScopePatterns_stable hreadable,
    ⟨⟩, validateScopePatterns_ne_nil hwritable hne, writable,
    validateScopePatterns_stable hwritable, readonlyFiles,
    validateScopePatterns_stable hreadonly, ⟨⟩, hoverlap, rfl⟩

/-- The fields of `TaskContract`. -/
structure TaskContractFields extends TaskContract where
  acceptanceCriteria : List String
  verificationCommands : List String
  maxRetries : ℕ := 2

/-- The validators of `TaskContract`. -/
def TaskContractFields.validate (fields : TaskContractFields) :
    Except Failure TaskContractFields := do
  let task ← fields.toTaskContract.validate
  Raising.raiseIf (fields.acceptanceCriteria = [])
    (boundError "List should have at least 1 item after validation")
  let acceptanceCriteria ← validateNonEmptyItems fields.acceptanceCriteria
  Raising.raiseIf (fields.verificationCommands = [])
    (boundError "List should have at least 1 item after validation")
  let verificationCommands ← validateNonEmptyItems fields.verificationCommands
  Raising.raiseIf (5 < fields.maxRetries)
    (boundError "Input should be less than or equal to 5")
  return { task with acceptanceCriteria, verificationCommands, maxRetries := fields.maxRetries }

theorem TaskContractFields.validate_stable (a b : TaskContractFields) (h : a.validate = .ok b) :
    b.validate = .ok b := by
  simp only [TaskContractFields.validate, Raising.bind_eq_ok, Raising.raiseIf_eq_ok,
    Raising.pure_eq_ok] at h ⊢
  obtain ⟨task, htask, _, hcriteria, criteria, hcriteria', _, hcommands, commands, hcommands', _,
    hretries, rfl⟩ := h
  exact ⟨task, TaskContract.validate_stable htask, ⟨⟩,
    validateNonEmptyItems_ne_nil hcriteria' hcriteria, criteria,
    validateNonEmptyItems_stable hcriteria', ⟨⟩, validateNonEmptyItems_ne_nil hcommands' hcommands,
    commands, validateNonEmptyItems_stable hcommands', ⟨⟩, hretries, rfl⟩

/-- `TaskContract`. -/
abbrev TaskContractRecord := Validated TaskContractFields.validate

/-- The dump of `TaskContract`. -/
def TaskContractFields.codec : Codec TaskContractFields :=
  (Codec.record
    (.cons "acceptance_criteria" (.list .text) none <|
      .cons "max_retries" .nat (some (.num 2)) <|
      .cons "objective" .text none <|
      .cons "readable_files" (.list .text) (some (.arr [])) <|
      .cons "readonly_files" (.list .text) (some (.arr [])) <|
      .cons "task_id" .text none <|
      .cons "verification_commands" (.list .text) none <|
      .cons "writable_files" (.list .text) none .nil)).iso
    (fun fields => (fields.acceptanceCriteria, fields.maxRetries, fields.objective,
      fields.readableFiles, fields.readonlyFiles, fields.taskId, fields.verificationCommands,
      fields.writableFiles, ()))
    (fun (acceptanceCriteria, maxRetries, objective, readableFiles, readonlyFiles, taskId,
        verificationCommands, writableFiles, _) =>
      .ok
        { taskId, objective, readableFiles, writableFiles, readonlyFiles, acceptanceCriteria,
          verificationCommands, maxRetries })
    fun _ => rfl

def TaskContractRecord.codec : Codec TaskContractRecord :=
  TaskContractFields.codec.validated Failure.message TaskContractFields.validate_stable

/-- The id of a contract is one that the pattern admits. -/
theorem TaskContractRecord.isTaskId (task : TaskContractRecord) :
    DevFlow.isTaskId task.val.taskId = true := by
  have h := task.property
  simp only [TaskContractFields.validate, TaskContract.validate, Raising.bind_eq_ok,
    Raising.raiseIf_eq_ok, Bool.not_eq_false] at h
  obtain ⟨_, ⟨_, hid, _⟩, _⟩ := h
  exact hid

/-! ### The planning facts of a node -/

/-- The fields of `TaskBudgetAllocation`. -/
structure TaskBudgetAllocationFields where
  packageId : String
  recommendedTokenBudget : ℕ

/-- The bounds of `TaskBudgetAllocation`. -/
def TaskBudgetAllocationFields.validate (fields : TaskBudgetAllocationFields) :
    Except Failure TaskBudgetAllocationFields := do
  Raising.raiseIf (isTaskId fields.packageId = false)
    (boundError "package_id should match its pattern")
  Raising.raiseIf (fields.recommendedTokenBudget < 1000 ∨ 20000 < fields.recommendedTokenBudget)
    (boundError "recommended_token_budget is out of range")
  return fields

theorem TaskBudgetAllocationFields.validate_stable (a b : TaskBudgetAllocationFields)
    (h : a.validate = .ok b) : b.validate = .ok b := by
  have heq : a = b := by
    simp only [validate, Raising.bind_eq_ok, Raising.pure_eq_ok] at h
    obtain ⟨_, -, _, -, rfl⟩ := h
    rfl
  exact heq ▸ h

/-- `TaskBudgetAllocation`. -/
abbrev TaskBudgetAllocation := Validated TaskBudgetAllocationFields.validate

def TaskBudgetAllocationFields.codec : Codec TaskBudgetAllocationFields :=
  (Codec.record
    (.cons "package_id" .text none <| .cons "recommended_token_budget" .nat none .nil)).iso
    (fun fields => (fields.packageId, fields.recommendedTokenBudget, ()))
    (fun (packageId, recommendedTokenBudget, _) => .ok { packageId, recommendedTokenBudget })
    fun _ => rfl

def TaskBudgetAllocation.codec : Codec TaskBudgetAllocation :=
  TaskBudgetAllocationFields.codec.validated Failure.message
    TaskBudgetAllocationFields.validate_stable

/-- The value of the enumeration member. -/
def PlanningComplexity.value : PlanningComplexity → String
  | .low => "LOW"
  | .medium => "MEDIUM"
  | .high => "HIGH"

/-- `PlanningComplexity(value)`. -/
def PlanningComplexity.member : String → Option PlanningComplexity
  | "LOW" => some .low
  | "MEDIUM" => some .medium
  | "HIGH" => some .high
  | _ => none

def PlanningComplexity.codec : Codec PlanningComplexity :=
  .enumeration PlanningComplexity.value PlanningComplexity.member fun a => by cases a <;> rfl

/-- The fields of `PlanningComplexityAssessment`. -/
structure PlanningComplexityAssessmentFields where
  packageId : String
  complexity : PlanningComplexity
  score : ℕ
  reasons : List String

/-- The bounds of `PlanningComplexityAssessment`. -/
def PlanningComplexityAssessmentFields.validate (fields : PlanningComplexityAssessmentFields) :
    Except Failure PlanningComplexityAssessmentFields := do
  Raising.raiseIf (isTaskId fields.packageId = false)
    (boundError "package_id should match its pattern")
  Raising.raiseIf (100 < fields.score) (boundError "Input should be less than or equal to 100")
  Raising.raiseIf (fields.reasons.length < 1 ∨ 8 < fields.reasons.length)
    (boundError "reasons has a wrong number of items")
  return fields

theorem PlanningComplexityAssessmentFields.validate_stable
    (a b : PlanningComplexityAssessmentFields) (h : a.validate = .ok b) : b.validate = .ok b := by
  have heq : a = b := by
    simp only [validate, Raising.bind_eq_ok, Raising.pure_eq_ok] at h
    obtain ⟨_, -, _, -, _, -, rfl⟩ := h
    rfl
  exact heq ▸ h

/-- `PlanningComplexityAssessment`. -/
abbrev PlanningComplexityAssessment := Validated PlanningComplexityAssessmentFields.validate

def PlanningComplexityAssessmentFields.codec : Codec PlanningComplexityAssessmentFields :=
  (Codec.record
    (.cons "complexity" PlanningComplexity.codec none <|
      .cons "package_id" .text none <|
      .cons "reasons" (.list .text) none <|
      .cons "score" .nat none .nil)).iso
    (fun fields => (fields.complexity, fields.packageId, fields.reasons, fields.score, ()))
    (fun (complexity, packageId, reasons, score, _) => .ok { packageId, complexity, score, reasons })
    fun _ => rfl

def PlanningComplexityAssessment.codec : Codec PlanningComplexityAssessment :=
  PlanningComplexityAssessmentFields.codec.validated Failure.message
    PlanningComplexityAssessmentFields.validate_stable

/-- The value of the enumeration member. -/
def WorkflowExecutionMode.value : WorkflowExecutionMode → String
  | .workflow => "WORKFLOW"
  | .agent => "AGENT"
  | .hybrid => "HYBRID"

/-- `WorkflowExecutionMode(value)`. -/
def WorkflowExecutionMode.member : String → Option WorkflowExecutionMode
  | "WORKFLOW" => some .workflow
  | "AGENT" => some .agent
  | "HYBRID" => some .hybrid
  | _ => none

def WorkflowExecutionMode.codec : Codec WorkflowExecutionMode :=
  .enumeration WorkflowExecutionMode.value WorkflowExecutionMode.member fun a => by cases a <;> rfl

/-! ### `TaskResumeContext` -/

/-- `_normalize_repository_path` of `models/context.py`. -/
def normalizeContextPath (value : String) : Except Failure String := do
  let normalized := strip value
  let chars := normalized.toList
  Raising.raiseIf (normalized = "") ⟨.valueError, "repository path must not be empty"⟩
  Raising.raiseIf (chars.head? = some '/' ∨ '\\' ∈ chars)
    ⟨.valueError, "repository path must be repository-relative POSIX style"⟩
  Raising.raiseIf (chars.tail.head? = some ':')
    ⟨.valueError, "repository path must not use a Windows drive prefix"⟩
  Raising.raiseIf (['.', '.'] ∈ chars.splitOn '/')
    ⟨.valueError, "repository path must remain inside the repository"⟩
  Raising.raiseIf (['.', 'g', 'i', 't'] = (chars.splitOn '/').headD [])
    ⟨.valueError, "repository path must not expose .git internals"⟩
  return normalized

theorem normalizeContextPath_stable (a b : String) (h : normalizeContextPath a = .ok b) :
    normalizeContextPath b = .ok b := by
  simp only [normalizeContextPath, Raising.bind_eq_ok, Raising.raiseIf_eq_ok,
    Raising.pure_eq_ok] at h ⊢
  obtain ⟨_, h₁, _, h₂, _, h₃, _, h₄, _, h₅, rfl⟩ := h
  rw [strip_strip]
  exact ⟨⟨⟩, h₁, ⟨⟩, h₂, ⟨⟩, h₃, ⟨⟩, h₄, ⟨⟩, h₅, rfl⟩

/-- The fields of `ContextFileDigest`. -/
structure ContextFileDigestFields where
  path : String
  sourceSha256 : String

/-- The validators of `ContextFileDigest`. -/
def ContextFileDigestFields.validate (fields : ContextFileDigestFields) :
    Except Failure ContextFileDigestFields := do
  Raising.raiseIf (1000 < fields.path.length) (boundError "path is too long")
  let path ← normalizeContextPath fields.path
  Raising.raiseIf (isSha256 fields.sourceSha256 = false)
    (boundError "source_sha256 should match its pattern")
  return { fields with path }

theorem ContextFileDigestFields.validate_stable (a b : ContextFileDigestFields)
    (h : a.validate = .ok b) : b.validate = .ok b := by
  simp only [validate, Raising.bind_eq_ok, Raising.raiseIf_eq_ok, Raising.pure_eq_ok] at h ⊢
  obtain ⟨_, hlength, path, hpath, _, hsha, rfl⟩ := h
  have hle : path.length ≤ a.path.length := by
    simp only [normalizeContextPath, Raising.bind_eq_ok, Raising.pure_eq_ok] at hpath
    obtain ⟨_, -, _, -, _, -, _, -, _, -, rfl⟩ := hpath
    exact length_strip_le a.path
  refine ⟨⟨⟩, ?_, path, normalizeContextPath_stable _ _ hpath, ⟨⟩, hsha, rfl⟩
  dsimp only
  omega

/-- `ContextFileDigest`. -/
abbrev ContextFileDigest := Validated ContextFileDigestFields.validate

def ContextFileDigestFields.codec : Codec ContextFileDigestFields :=
  (Codec.record (.cons "path" .text none <| .cons "source_sha256" .text none .nil)).iso
    (fun fields => (fields.path, fields.sourceSha256, ()))
    (fun (path, sourceSha256, _) => .ok { path, sourceSha256 }) fun _ => rfl

def ContextFileDigest.codec : Codec ContextFileDigest :=
  ContextFileDigestFields.codec.validated Failure.message ContextFileDigestFields.validate_stable

/-- The fields of `ContextContinuationState`. -/
structure ContinuationStateFields where
  summaryVersion : String
  repositoryHead : String
  readFiles : List ContextFileDigest := []
  changedFiles : List String := []
  changedFileHashes : List ContextFileDigest := []
  completedSummary : String := ""
  remainingSummary : String := ""
  verificationSummary : String := ""
  failureSummary : String := ""

/-- The validators of `ContextContinuationState`. -/
def ContinuationStateFields.validate (fields : ContinuationStateFields) :
    Except Failure ContinuationStateFields := do
  Raising.raiseIf (fields.summaryVersion.length < 1 ∨ 64 < fields.summaryVersion.length)
    (boundError "summary_version length is out of range")
  Raising.raiseIf (isOid fields.repositoryHead = false)
    (boundError "repository_head should match its pattern")
  Raising.raiseIf (100 < fields.readFiles.length) (boundError "read_files has too many items")
  Raising.raiseIf (512 < fields.changedFiles.length)
    (boundError "changed_files has too many items")
  let changedFiles ← fields.changedFiles.mapM normalizeContextPath
  Raising.raiseIf (¬changedFiles.Pairwise (· < ·))
    ⟨.valueError, "continuation changed_files must be sorted and unique"⟩
  Raising.raiseIf (512 < fields.changedFileHashes.length)
    (boundError "changed_file_hashes has too many items")
  Raising.raiseIf (∃ text ∈ [fields.completedSummary, fields.remainingSummary,
      fields.verificationSummary, fields.failureSummary], 512 < text.length)
    (boundError "a summary is too long")
  Raising.raiseIf (¬(fields.readFiles.map fun item => item.val.path).Nodup)
    ⟨.valueError, "continuation read_files must not contain duplicate paths"⟩
  let changedHashPaths := fields.changedFileHashes.map fun item => item.val.path
  Raising.raiseIf (¬changedHashPaths.Nodup)
    ⟨.valueError, "continuation changed_file_hashes must not contain duplicate paths"⟩
  Raising.raiseIf (∃ path ∈ changedHashPaths, path ∉ changedFiles)
    ⟨.valueError, "continuation changed_file_hashes must describe changed_files only"⟩
  return { fields with changedFiles }

theorem ContinuationStateFields.validate_stable (a b : ContinuationStateFields)
    (h : a.validate = .ok b) : b.validate = .ok b := by
  simp only [validate, Raising.bind_eq_ok, Raising.raiseIf_eq_ok, Raising.pure_eq_ok] at h ⊢
  obtain ⟨_, h₁, _, h₂, _, h₃, _, h₄, changedFiles, hchanged, _, h₅, _, h₆, _, h₇, _, h₈, _, h₉, _,
    h₁₀, rfl⟩ := h
  have hlength := (Raising.mapM_eq_ok.1 hchanged).length_eq
  exact ⟨⟨⟩, h₁, ⟨⟩, h₂, ⟨⟩, h₃, ⟨⟩, by dsimp only; omega, changedFiles,
    Raising.mapM_stable normalizeContextPath_stable hchanged, ⟨⟩, h₅, ⟨⟩, h₆, ⟨⟩, h₇, ⟨⟩, h₈, ⟨⟩,
    h₉, ⟨⟩, h₁₀, rfl⟩

/-- `ContextContinuationState`. -/
abbrev ContinuationStateRecord := Validated ContinuationStateFields.validate

def ContinuationStateFields.codec : Codec ContinuationStateFields :=
  (Codec.record
    (.cons "changed_file_hashes" (.list ContextFileDigest.codec) (some (.arr [])) <|
      .cons "changed_files" (.list .text) (some (.arr [])) <|
      .cons "completed_summary" .text (some (.str "")) <|
      .cons "failure_summary" .text (some (.str "")) <|
      .cons "read_files" (.list ContextFileDigest.codec) (some (.arr [])) <|
      .cons "remaining_summary" .text (some (.str "")) <|
      .cons "repository_head" .text none <|
      .cons "summary_version" .text none <|
      .cons "verification_summary" .text (some (.str "")) .nil)).iso
    (fun fields => (fields.changedFileHashes, fields.changedFiles, fields.completedSummary,
      fields.failureSummary, fields.readFiles, fields.remainingSummary, fields.repositoryHead,
      fields.summaryVersion, fields.verificationSummary, ()))
    (fun (changedFileHashes, changedFiles, completedSummary, failureSummary, readFiles,
        remainingSummary, repositoryHead, summaryVersion, verificationSummary, _) =>
      .ok
        { summaryVersion, repositoryHead, readFiles, changedFiles, changedFileHashes,
          completedSummary, remainingSummary, verificationSummary, failureSummary })
    fun _ => rfl

def ContinuationStateRecord.codec : Codec ContinuationStateRecord :=
  ContinuationStateFields.codec.validated Failure.message ContinuationStateFields.validate_stable

/-- The value of the enumeration member. -/
def CheckpointResumeStrategy.value : CheckpointResumeStrategy → String
  | .continueDevelopment => "CONTINUE_DEVELOPMENT"
  | .verifyThenRepair => "VERIFY_THEN_REPAIR"

/-- `CheckpointResumeStrategy(value)`. -/
def CheckpointResumeStrategy.member : String → Option CheckpointResumeStrategy
  | "CONTINUE_DEVELOPMENT" => some .continueDevelopment
  | "VERIFY_THEN_REPAIR" => some .verifyThenRepair
  | _ => none

def CheckpointResumeStrategy.codec : Codec CheckpointResumeStrategy :=
  .enumeration CheckpointResumeStrategy.value CheckpointResumeStrategy.member
    fun a => by cases a <;> rfl

/-- A UUID as such: a number of 128 bits. -/
abbrev UUIDRecord := {u : UUID // u.int < 2 ^ 128}

def UUIDRecord.codec : Codec UUIDRecord :=
  Codec.text.iso (fun u => u.val.str)
    (fun text => match UUID.parse text with
      | some u =>
        if h : u.int < 2 ^ 128 then .ok ⟨u, h⟩ else .error "Input should be a valid UUID"
      | none => .error "Input should be a valid UUID")
    fun u => by
      rw [UUID.parse_str u.property]
      exact dif_pos u.property

/-- The fields of `TaskResumeContext`. -/
structure TaskResumeFields where
  sourceRunId : UUIDRecord
  checkpointCommitSha : String
  strategy : CheckpointResumeStrategy
  contextState : Option ContinuationStateRecord := none
  verificationSummary : String := ""
  failureSummary : String := ""
  remainingSummary : String := ""

/-- The bounds of `TaskResumeContext`. -/
def TaskResumeFields.validate (fields : TaskResumeFields) : Except Failure TaskResumeFields := do
  Raising.raiseIf (isOid fields.checkpointCommitSha = false)
    (boundError "checkpoint_commit_sha should match its pattern")
  Raising.raiseIf (∃ text ∈ [fields.verificationSummary, fields.failureSummary,
      fields.remainingSummary], 512 < text.length)
    (boundError "a summary is too long")
  return fields

theorem TaskResumeFields.validate_stable (a b : TaskResumeFields) (h : a.validate = .ok b) :
    b.validate = .ok b := by
  have heq : a = b := by
    simp only [validate, Raising.bind_eq_ok, Raising.pure_eq_ok] at h
    obtain ⟨_, -, _, -, rfl⟩ := h
    rfl
  exact heq ▸ h

/-- `TaskResumeContext`. -/
abbrev TaskResumeRecord := Validated TaskResumeFields.validate

def TaskResumeFields.codec : Codec TaskResumeFields :=
  (Codec.record
    (.cons "checkpoint_commit_sha" .text none <|
      .cons "context_state"
        (.optional ContinuationStateRecord.codec fun _ h => Json.noConfusion h) (some .null) <|
      .cons "failure_summary" .text (some (.str "")) <|
      .cons "remaining_summary" .text (some (.str "")) <|
      .cons "source_run_id" UUIDRecord.codec none <|
      .cons "strategy" CheckpointResumeStrategy.codec none <|
      .cons "verification_summary" .text (some (.str "")) .nil)).iso
    (fun fields => (fields.checkpointCommitSha, fields.contextState, fields.failureSummary,
      fields.remainingSummary, fields.sourceRunId, fields.strategy, fields.verificationSummary, ()))
    (fun (checkpointCommitSha, contextState, failureSummary, remainingSummary, sourceRunId,
        strategy, verificationSummary, _) =>
      .ok
        { sourceRunId, checkpointCommitSha, strategy, contextState, verificationSummary,
          failureSummary, remainingSummary })
    fun _ => rfl

def TaskResumeRecord.codec : Codec TaskResumeRecord :=
  TaskResumeFields.codec.validated Failure.message TaskResumeFields.validate_stable

end DevFlow
