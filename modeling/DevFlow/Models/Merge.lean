/-
# Merge-queue evidence

`models/merge.py`: one integration attempt, and the snapshot of an integration
ref that the controller persists.  What `validate_outcome_consistency` asks of
an attempt is carried by the constructors of `MergeAttemptOutcome`; what
`validate_snapshot_consistency` asks of a snapshot is `MergeQueueRecord.validate`,
and a `MergeQueueSnapshot` has passed it.
-/

import DevFlow.Workspace.Git

namespace DevFlow

/-- The MERGE_CONFLICT `FailureReport` of `_merge_conflict_failure`, by what it is
built from: the evidence lines and the truncated output of `git merge-tree`. -/
structure MergeConflictFailure where
  taskId : String
  integrationHead : String
  taskCommit : String
  conflictRef : GitRef
  markerCommit : String
  output : String
deriving DecidableEq, Repr

/-- The Human-Gate metadata of a repaired attempt. -/
structure RepairMetadata where
  conflictMarker : String
  evidenceFingerprint : String
  policyFingerprint : String
  humanDecisionCommit : String
deriving DecidableEq, Repr

/-- `MergeAttemptOutcome`, with the fields of the attempt that belong to it. -/
inductive MergeAttemptOutcome
  | integrated (integrationCommit : String)
  | conflict (failure : MergeConflictFailure)
  | repaired (integrationCommit : String) (metadata : RepairMetadata)
deriving DecidableEq, Repr

/-- `integration_commit`. -/
def MergeAttemptOutcome.integrationCommit : MergeAttemptOutcome → Option String
  | .integrated commit => some commit
  | .conflict _ => none
  | .repaired commit _ => some commit

/-- `outcome is MergeAttemptOutcome.CONFLICT`. -/
def MergeAttemptOutcome.isConflict : MergeAttemptOutcome → Bool
  | .conflict _ => true
  | _ => false

/-- `outcome is MergeAttemptOutcome.REPAIRED`. -/
def MergeAttemptOutcome.isRepaired : MergeAttemptOutcome → Bool
  | .repaired _ _ => true
  | _ => false

/-- `MergeQueueAttempt`. -/
structure MergeQueueAttempt where
  sequence : ℕ
  taskId : String
  taskBranch : String
  taskBaseCommit : String
  taskCommit : String
  previousIntegrationCommit : String
  outcome : MergeAttemptOutcome
deriving DecidableEq, Repr

/-- The fields of `MergeQueueSnapshot`. -/
structure MergeQueueRecord where
  integrationRef : GitRef
  runBaseCommit : String
  headCommit : String
  integratedTaskIds : List String
  attempts : List MergeQueueAttempt
  stopped : Bool
deriving DecidableEq, Repr

/-- The tasks of the successful attempts, in order. -/
def integratedTasks (attempts : List MergeQueueAttempt) : List String :=
  (attempts.filter fun a => !a.outcome.isConflict).map MergeQueueAttempt.taskId

/-- The first loop of `validate_snapshot_consistency`: the completed tasks and the
conflict that is still open. -/
def checkAttempt (state : List String × Option MergeQueueAttempt) (attempt : MergeQueueAttempt) :
    Except Failure (List String × Option MergeQueueAttempt) :=
  let (completed, pending) := state
  match attempt.outcome with
  | .conflict _ => do
    Raising.raiseIf (pending ≠ none)
      ⟨.valueError, "a second conflict cannot begin before the first is resolved"⟩
    Raising.raiseIf (attempt.taskId ∈ completed)
      ⟨.valueError, "an already integrated task cannot conflict again"⟩
    return (completed, some attempt)
  | .repaired _ _ => do
    match pending with
    | none => throw ⟨.valueError, "repaired integration must immediately resolve its task conflict"⟩
    | some conflict =>
      Raising.raiseIf (conflict.taskId ≠ attempt.taskId)
        ⟨.valueError, "repaired integration must immediately resolve its task conflict"⟩
      Raising.raiseIf
        (conflict.previousIntegrationCommit ≠ attempt.previousIntegrationCommit)
        ⟨.valueError, "repair must chain from the same pre-conflict integration head"⟩
    Raising.raiseIf (attempt.taskId ∈ completed)
      ⟨.valueError, "a task may be integrated only once"⟩
    return (completed ++ [attempt.taskId], none)
  | .integrated _ => do
    Raising.raiseIf (pending ≠ none)
      ⟨.valueError, "unresolved conflict must be repaired before another task integrates"⟩
    Raising.raiseIf (attempt.taskId ∈ completed)
      ⟨.valueError, "a task may be integrated only once"⟩
    return (completed ++ [attempt.taskId], none)

/-- The second loop: every attempt chains from the head before it. -/
def chainAttempt (head : String) (attempt : MergeQueueAttempt) : Except Failure String := do
  Raising.raiseIf (attempt.previousIntegrationCommit ≠ head)
    ⟨.valueError, "merge attempt must chain from the previous integration head"⟩
  return attempt.outcome.integrationCommit.getD head

/-- `validate_snapshot_consistency`. -/
def MergeQueueRecord.validate (record : MergeQueueRecord) : Except Failure Unit := do
  Raising.raiseIf (¬record.integratedTaskIds.Nodup)
    ⟨.valueError, "integrated_task_ids must be unique"⟩
  Raising.raiseIf (record.attempts.map MergeQueueAttempt.sequence ≠
      List.range record.attempts.length)
    ⟨.valueError, "merge queue attempt sequence must be contiguous from zero"⟩
  Raising.raiseIf (integratedTasks record.attempts ≠ record.integratedTaskIds)
    ⟨.valueError, "integrated task ids must match successful merge attempts"⟩
  let (_, pending) ← record.attempts.foldlM checkAttempt ([], none)
  Raising.raiseIf (record.stopped ≠ pending.isSome)
    ⟨.valueError, "merge queue stopped flag must match unresolved terminal conflict"⟩
  Raising.raiseIf (pending ≠ none ∧ record.attempts.getLast? ≠ pending)
    ⟨.valueError, "unresolved merge conflict must be the final queue attempt"⟩
  let head ← record.attempts.foldlM chainAttempt record.runBaseCommit
  Raising.raiseIf (record.headCommit ≠ head)
    ⟨.valueError, "snapshot head must match the last successful integration commit"⟩

/-- `MergeQueueSnapshot`. -/
structure MergeQueueSnapshot extends MergeQueueRecord where
  consistent : toMergeQueueRecord.validate = .ok ()
deriving DecidableEq

/-- The model's constructor: the fields as given, or the `ValidationError`. -/
def MergeQueueSnapshot.ofRecord (record : MergeQueueRecord) :
    Except Failure MergeQueueSnapshot :=
  match h : record.validate with
  | .ok () => .ok ⟨record, h⟩
  | .error failure => .error failure

/-- A validated snapshot has the fields it was built from. -/
theorem MergeQueueSnapshot.ofRecord_eq_ok {record : MergeQueueRecord}
    {snapshot : MergeQueueSnapshot} (h : MergeQueueSnapshot.ofRecord record = .ok snapshot) :
    snapshot.toMergeQueueRecord = record := by
  unfold ofRecord at h
  split at h
  · obtain rfl := Except.ok.inj h
    rfl
  · cases h

end DevFlow
