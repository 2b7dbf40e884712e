/-
# Checkpoints

`models/checkpoint.py`, `models/continuation.py` and of `models/context.py` the
state that a continued agent session starts from: what a worker keeps of
unfinished work, and what a resumed run is told about it.
-/

import DevFlow.Persistence.Rows

namespace DevFlow

/-- `CheckpointReason`. -/
inductive CheckpointReason
  | timeLimit
  | iterationLimit
  | toolCallLimit
  | runTokenBudgetExhausted
  | verificationFailure
deriving DecidableEq, Repr

/-- `CheckpointResumeStrategy`. -/
inductive CheckpointResumeStrategy
  | continueDevelopment
  | verifyThenRepair
deriving DecidableEq, Repr

/-- `ContextContinuationState`: the head and the changed files it was taken at. -/
structure ContextContinuationState where
  repositoryHead : String
  changedFiles : List String
deriving DecidableEq, Repr

/-- `TaskResumeContext`. -/
structure TaskResumeContext where
  sourceRunId : UUID
  checkpointCommitSha : String
  strategy : CheckpointResumeStrategy
  contextState : Option ContextContinuationState
  verificationSummary : String := ""
  failureSummary : String := ""
  remainingSummary : String := ""
deriving DecidableEq

/-- `TaskCheckpoint`, without its two fixed summaries and the interfaces. -/
structure TaskCheckpoint where
  taskId : String
  baseCommit : String
  commitSha : String
  changedFiles : List String
  reason : CheckpointReason
  contextState : Option ContextContinuationState
  sliceIndex : ℕ := 1
  maxSlices : ℕ := 1
  elapsedMs : ℕ := 0
  resumeFromCommit : Option String := none
  remainingSummary : String := ""
  verificationSummary : String := ""
  failureSummary : String := ""
  remainingBudgetTokens : Option ℕ := none
deriving DecidableEq

/-- `TaskContinuationSummary`, without the time budget and the stop reason. -/
structure TaskContinuationSummary where
  slicesStarted : ℕ
  maxSlices : ℕ
  elapsedMs : ℕ
  complexityScore : ℕ
  resumedFromCommits : List String
deriving DecidableEq

end DevFlow
