/-
# Workflow records

`models/workflow.py` and the validator of `SingleTaskRunResult` in `models/run.py`: what
the matcher recommends for a task, the steps of a deterministic workflow, and the
record of how a task was executed.  A record that its validator refuses is not built,
and `model_copy` does not ask the validator again.

Of a match the confidence, the matched rules and the supporting workflows are left
out: no runner reads them.
-/

import DevFlow.Library.Raising
import DevFlow.Runtime.Orchestrator

namespace DevFlow

/-- `WorkflowId`. -/
inductive WorkflowId
  | pythonScript
  | nodeScript
  | dependencyPreflight
  | verification
  | gitPublication
deriving DecidableEq, Repr

/-- `WorkflowRoute`. -/
inductive WorkflowRoute
  | workflowCandidate
  | agentFallback
deriving DecidableEq, Repr

/-- `WorkflowStepStatus`. -/
inductive WorkflowStepStatus
  | pending
  | succeeded
  | failed
  | skipped
deriving DecidableEq, Repr

/-- `WorkflowMatch`. -/
structure WorkflowMatch where
  taskId : String
  route : WorkflowRoute
  executionMode : WorkflowExecutionMode
  workflowId : Option WorkflowId
  fallbackReason : Option String
  candidate_shape : route = .workflowCandidate → workflowId ≠ none ∧ fallbackReason = none
  fallback_shape : route = .agentFallback → workflowId = none ∧ fallbackReason ≠ none
  reason_length : ∀ reason ∈ fallbackReason, 1 ≤ reason.length ∧ reason.length ≤ 512

/-- `WorkflowStepResult`; the bounds are those of its fields. -/
structure WorkflowStepResult where
  name : String
  status : WorkflowStepStatus
  detail : String
  attempt : ℕ
deriving DecidableEq, Repr

/-- The field constraints of `WorkflowStepResult`. -/
def WorkflowStepResult.validate (step : WorkflowStepResult) : Except Failure WorkflowStepResult := do
  Raising.raiseIf (step.name.length < 1 ∨ 64 < step.name.length)
    ⟨.valueError, "workflow step name length is out of range"⟩
  Raising.raiseIf (step.detail.length < 1 ∨ 512 < step.detail.length)
    ⟨.valueError, "workflow step detail length is out of range"⟩
  Raising.raiseIf (step.attempt < 1 ∨ 3 < step.attempt)
    ⟨.valueError, "workflow step attempt is out of range"⟩
  return step

/-- `WorkflowExecutionRecord`. -/
structure WorkflowExecutionRecord where
  taskId : String
  mode : WorkflowExecutionMode
  workflowId : Option WorkflowId := none
  attempts : ℕ := 0
  steps : List WorkflowStepResult := []
  fallbackReason : Option String := none
  estimatedTokensSaved : ℕ := 0
deriving DecidableEq, Repr

/-- `validate_execution_shape`, after the field constraints. -/
def WorkflowExecutionRecord.validate (record : WorkflowExecutionRecord) :
    Except Failure WorkflowExecutionRecord := do
  Raising.raiseIf (3 < record.attempts) ⟨.valueError, "workflow attempts are out of range"⟩
  Raising.raiseIf (record.fallbackReason.any fun reason => 512 < reason.length)
    ⟨.valueError, "workflow fallback reason is too long"⟩
  Raising.raiseIf (record.mode = .workflow ∧ record.workflowId = none)
    ⟨.valueError, "Workflow execution requires a workflow id"⟩
  Raising.raiseIf (record.mode = .agent ∧ record.workflowId ≠ none)
    ⟨.valueError, "Agent execution must not select a workflow id"⟩
  return record

/-- `SingleTaskRunResult` with its `repair_attempts` and its `workflow_execution`;
`result.workflow` is the mode of the latter. -/
structure SingleTaskRunRecord where
  result : TaskRunResult
  repairAttempts : ℕ
  execution : Option WorkflowExecutionRecord
deriving DecidableEq

namespace SingleTaskRunRecord

/-- A new `SingleTaskRunResult` without developer, reviews and repairs, with
`validate_terminal_consistency`. -/
def create (taskId : String) (status : TaskRunState) (events : List TaskRunState)
    (verifications : List HardGateResult) (failures : List FailureReport)
    (execution : WorkflowExecutionRecord) : Except Failure SingleTaskRunRecord := do
  Raising.raiseIf (events.length < 2) ⟨.valueError, "events should have at least 2 items"⟩
  if terminal : status = .succeeded ∨ status = .failed then
    Raising.raiseIf (events.getLast? ≠ some status)
      ⟨.valueError, "final run event must match terminal status"⟩
    Raising.raiseIf (status = .succeeded ∧ failures ≠ [])
      ⟨.valueError, "successful runs must not contain terminal failures"⟩
    Raising.raiseIf (status = .failed ∧ failures = [])
      ⟨.valueError, "failed runs require at least one terminal failure"⟩
    return {
      result := {
        taskId
        status
        events
        developer := none
        verifications
        reviews := []
        repairs := []
        failures
        changedFiles := []
        contextState := none
        workflow := some execution.mode
        terminal }
      repairAttempts := 0
      execution := some execution }
  else throw ⟨.valueError, "SingleTaskRunResult status must be terminal"⟩

/-- `model_copy(update={"workflow_execution": ...})`. -/
def withExecution (record : SingleTaskRunRecord) (execution : WorkflowExecutionRecord) :
    SingleTaskRunRecord :=
  { record with
    result := { record.result with workflow := some execution.mode }
    execution := some execution }

/-- The result of the agent runner, which its validator has passed. -/
def ofResult (result : TaskRunResult) : SingleTaskRunRecord :=
  ⟨result, result.repairs.length, none⟩

end SingleTaskRunRecord

end DevFlow
