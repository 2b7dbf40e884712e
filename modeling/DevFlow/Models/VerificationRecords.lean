/-
# Verification evidence with all its fields

`models/failure.py` and `models/verification.py`: `FailureReport`, `CheckResult` and
`VerificationResult`, with their validators.  A `FailureReport` and a `CheckResult` may be
copied with other fields, and a copy is not validated again; so what is read from a record
are its fields, and `Validated` values are what the constructors return.
-/

import DevFlow.Models.TaskRecords
import DevFlow.Runtime.Orchestrator

namespace DevFlow

open Documents (Validated)

/-- The value of the enumeration member. -/
def FailureType.value : FailureType → String
  | .modelTimeout => "MODEL_TIMEOUT"
  | .agentTimeLimit => "AGENT_TIME_LIMIT"
  | .rateLimit => "RATE_LIMIT"
  | .invalidAgentOutput => "INVALID_AGENT_OUTPUT"
  | .invalidToolArguments => "INVALID_TOOL_ARGUMENTS"
  | .providerRequestRejected => "PROVIDER_REQUEST_REJECTED"
  | .toolFailure => "TOOL_FAILURE"
  | .scopeViolation => "SCOPE_VIOLATION"
  | .testFailure => "TEST_FAILURE"
  | .lintFailure => "LINT_FAILURE"
  | .reviewRejected => "REVIEW_REJECTED"
  | .contextOverflow => "CONTEXT_OVERFLOW"
  | .mergeConflict => "MERGE_CONFLICT"
  | .sandboxTimeout => "SANDBOX_TIMEOUT"
  | .verificationEnvUnavailable => "VERIFICATION_ENV_UNAVAILABLE"
  | .tokenBudgetExhausted => "TOKEN_BUDGET_EXHAUSTED"
  | .workPackageBudgetAllocationBlocked => "WORK_PACKAGE_BUDGET_ALLOCATION_BLOCKED"
  | .interfaceContractUnmet => "INTERFACE_CONTRACT_UNMET"

/-- `FailureSource`. -/
inductive FailureSource
  | provider
  | tool
  | verification
  | review
  | runtime
deriving DecidableEq, Repr

/-- The value of the enumeration member. -/
def FailureSource.value : FailureSource → String
  | .provider => "provider"
  | .tool => "tool"
  | .verification => "verification"
  | .review => "review"
  | .runtime => "runtime"

/-! ### `FailureReport` -/

/-- The fields of `FailureReport`. -/
structure FailureReportFields where
  failureType : FailureType
  source : FailureSource
  message : String
  retryable : Bool
  evidence : List String := []
deriving DecidableEq, Repr

/-- The validators of `FailureReport`. -/
def FailureReportFields.validate (fields : FailureReportFields) :
    Except Failure FailureReportFields := do
  Raising.raiseIf (fields.message.length < 1 ∨ 4000 < fields.message.length)
    (boundError "message has a wrong number of characters")
  let message := strip fields.message
  Raising.raiseIf (message = "") ⟨.valueError, "failure message must not be empty"⟩
  let evidence := fields.evidence.map strip
  Raising.raiseIf ("" ∈ evidence) ⟨.valueError, "failure evidence entries must not be empty"⟩
  return { fields with message, evidence }

/-- **What `FailureReport` accepts**, and what it makes of it. -/
theorem FailureReportFields.validate_eq_ok {a b : FailureReportFields} :
    a.validate = .ok b ↔ a.message.length ≤ 4000 ∧ strip a.message ≠ "" ∧
      "" ∉ a.evidence.map strip ∧
      b = { a with message := strip a.message, evidence := a.evidence.map strip } := by
  simp only [validate, Raising.bind_eq_ok, Raising.raiseIf_eq_ok, Raising.pure_eq_ok, not_or,
    not_lt]
  constructor
  · rintro ⟨_, hlength, _, hne, _, hevidence, rfl⟩
    exact ⟨hlength.2, hne, hevidence, rfl⟩
  · rintro ⟨hlength, hne, hevidence, rfl⟩
    refine ⟨⟨⟩, ⟨?_, hlength⟩, ⟨⟩, hne, ⟨⟩, hevidence, rfl⟩
    by_contra hzero
    have hempty : a.message = "" := by
      rw [← String.length_eq_zero_iff]
      omega
    exact hne (by rw [hempty]; rfl)

theorem FailureReportFields.validate_stable (a b : FailureReportFields)
    (h : a.validate = .ok b) : b.validate = .ok b := by
  obtain ⟨hlength, hne, hevidence, rfl⟩ := validate_eq_ok.1 h
  have hitems : (a.evidence.map strip).map strip = a.evidence.map strip := by
    rw [List.map_map]
    exact List.map_congr_left fun item _ => strip_strip item
  refine validate_eq_ok.2 ⟨(length_strip_le _).trans hlength, ?_, ?_, ?_⟩
  · rwa [strip_strip]
  · rwa [hitems]
  · rw [strip_strip, hitems]

/-- `FailureReport`. -/
abbrev FailureReportRecord := Validated FailureReportFields.validate

/-- The constructor of `FailureReport`. -/
def FailureReportFields.make (fields : FailureReportFields) : Except Failure FailureReportRecord :=
  Validated.make FailureReportFields.validate_stable fields

/-! ### `CheckResult` and `VerificationResult` -/

/-- `CheckType`. -/
inductive CheckType
  | scope
  | test
  | lint
  | typeCheck
  | build
  | custom
deriving DecidableEq, Repr

/-- `VerificationBackend`. -/
inductive VerificationBackend
  | host
  | docker
deriving DecidableEq, Repr

/-- The value of the enumeration member. -/
def VerificationBackend.value : VerificationBackend → String
  | .host => "host"
  | .docker => "docker"

/-- The fields of `CheckResult`. -/
structure CheckResultFields where
  checkType : CheckType
  name : String
  command : Option String := none
  passed : Bool
  exitCode : Option ℤ := none
  stdout : String := ""
  stderr : String := ""
  durationMs : ℤ := 0
  failureType : Option FailureType := none
  executionBackend : Option VerificationBackend := none
  executionDetails : List String := []
deriving DecidableEq, Repr

/-- `validate_execution_details`. -/
def validateExecutionDetails (values : List String) : Except Failure (List String) := do
  let normalized := values.map strip
  Raising.raiseIf ("" ∈ normalized)
    ⟨.valueError, "execution details must not contain blank entries"⟩
  Raising.raiseIf (¬normalized.Nodup) ⟨.valueError, "execution details must be unique"⟩
  return normalized

/-- The validators of `CheckResult`. -/
def CheckResultFields.validate (fields : CheckResultFields) :
    Except Failure CheckResultFields := do
  Raising.raiseIf (fields.name.length < 1 ∨ 256 < fields.name.length)
    (boundError "name has a wrong number of characters")
  Raising.raiseIf (fields.durationMs < 0)
    (boundError "Input should be greater than or equal to 0")
  let executionDetails ← validateExecutionDetails fields.executionDetails
  Raising.raiseIf (fields.passed = true ∧ fields.exitCode ≠ none ∧ fields.exitCode ≠ some 0)
    ⟨.valueError, "passed checks cannot have a non-zero exit code"⟩
  Raising.raiseIf (fields.passed = true ∧ fields.failureType ≠ none)
    ⟨.valueError, "passed checks cannot have a failure_type"⟩
  Raising.raiseIf (fields.passed = false ∧ fields.failureType = none)
    ⟨.valueError, "failed checks require a failure_type"⟩
  Raising.raiseIf (fields.executionBackend = none ∧ executionDetails ≠ [])
    ⟨.valueError, "execution details require an execution backend"⟩
  return { fields with executionDetails }

theorem validateExecutionDetails_eq_ok {values normalized : List String} :
    validateExecutionDetails values = .ok normalized ↔
      "" ∉ values.map strip ∧ (values.map strip).Nodup ∧ normalized = values.map strip := by
  simp only [validateExecutionDetails, Raising.bind_eq_ok, Raising.raiseIf_eq_ok,
    Raising.pure_eq_ok, not_not]
  constructor
  · rintro ⟨_, hblank, _, hnodup, rfl⟩
    exact ⟨hblank, hnodup, rfl⟩
  · rintro ⟨hblank, hnodup, rfl⟩
    exact ⟨⟨⟩, hblank, ⟨⟩, hnodup, rfl⟩

/-- **What `CheckResult` accepts**, and what it makes of it. -/
theorem CheckResultFields.validate_eq_ok {a b : CheckResultFields} :
    a.validate = .ok b ↔ 1 ≤ a.name.length ∧ a.name.length ≤ 256 ∧ 0 ≤ a.durationMs ∧
      (∃ details, validateExecutionDetails a.executionDetails = .ok details) ∧
      (a.passed = true → (a.exitCode = none ∨ a.exitCode = some 0) ∧ a.failureType = none) ∧
      (a.passed = false → a.failureType ≠ none) ∧
      (a.executionBackend = none → a.executionDetails = []) ∧
      b = { a with executionDetails := a.executionDetails.map strip } := by
  simp only [validate, Raising.bind_eq_ok, Raising.raiseIf_eq_ok, Raising.pure_eq_ok, not_or,
    not_lt, not_and, not_not]
  constructor
  · rintro ⟨_, hname, _, hduration, details, hdetails, _, hexit, _, hnone, _, hfailed, _, hbackend,
      rfl⟩
    obtain rfl := (validateExecutionDetails_eq_ok.1 hdetails).2.2
    refine ⟨hname.1, hname.2, hduration, ⟨_, hdetails⟩, fun hpassed => ⟨?_, hnone hpassed⟩,
      hfailed, fun hnobackend => List.map_eq_nil_iff.1 (hbackend hnobackend), rfl⟩
    exact or_iff_not_imp_left.2 (hexit hpassed)
  · rintro ⟨hname, hname', hduration, ⟨details, hdetails⟩, hpassed, hfailed, hbackend, rfl⟩
    obtain rfl := (validateExecutionDetails_eq_ok.1 hdetails).2.2
    refine ⟨⟨⟩, ⟨hname, hname'⟩, ⟨⟩, hduration, _, hdetails, ⟨⟩, fun h => ?_, ⟨⟩,
      fun h => (hpassed h).2, ⟨⟩, hfailed, ⟨⟩, fun h => List.map_eq_nil_iff.2 (hbackend h), rfl⟩
    exact or_iff_not_imp_left.1 (hpassed h).1

/-- The fields of `VerificationResult`. -/
structure VerificationResultFields where
  passed : Bool
  checks : List CheckResultFields
deriving DecidableEq, Repr

/-- The validators of `VerificationResult`. -/
def VerificationResultFields.validate (fields : VerificationResultFields) :
    Except Failure VerificationResultFields := do
  Raising.raiseIf (fields.checks = []) (boundError "List should have at least 1 item")
  Raising.raiseIf (fields.passed ≠ fields.checks.all CheckResultFields.passed)
    ⟨.valueError, "verification passed flag must match all check results"⟩
  return fields

theorem VerificationResultFields.validate_eq_ok {a b : VerificationResultFields} :
    a.validate = .ok b ↔
      a.checks ≠ [] ∧ a.passed = a.checks.all CheckResultFields.passed ∧ b = a := by
  simp only [validate, Raising.bind_eq_ok, Raising.raiseIf_eq_ok, Raising.pure_eq_ok, ne_eq,
    not_not]
  constructor
  · rintro ⟨_, hne, _, hpassed, rfl⟩
    exact ⟨hne, hpassed, rfl⟩
  · rintro ⟨hne, hpassed, rfl⟩
    exact ⟨⟨⟩, hne, ⟨⟩, hpassed, rfl⟩

theorem VerificationResultFields.validate_stable (a b : VerificationResultFields)
    (h : a.validate = .ok b) : b.validate = .ok b := by
  obtain ⟨-, -, rfl⟩ := validate_eq_ok.1 h
  exact h

/-- `VerificationResult`. -/
abbrev VerificationResultRecord := Validated VerificationResultFields.validate

end DevFlow
