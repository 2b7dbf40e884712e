/-
# The terminal result of a run of several tasks

`models/multi_run.py`: `MultiTaskRunResult` with `validate_terminal_shape`.  The
digest of the merge-queue evidence is kept as the snapshot it is the digest of.
-/

import DevFlow.Models.Merge
import Mathlib.Data.Finset.Basic

namespace DevFlow

/-- `_SHA256_PATTERN`: `[0-9a-f]{64}`. -/
def isSha256 (s : String) : Bool :=
  isOid s && s.length = 64

/-- The fields of `MultiTaskRunResult`. -/
structure MultiTaskRunRecord where
  runId : UUID
  status : TaskRunState
  taskIds : List String
  succeededTaskIds : List String := []
  failedTaskIds : List String := []
  abortedTaskIds : List String := []
  blockedTaskIds : List String := []
  abortEvidenceFingerprints : List String := []
  integrationHead : Option String := none
  mergeEvidenceId : Option ℕ := none
  mergeEvidence : Option MergeQueueSnapshot := none
deriving DecidableEq

namespace MultiTaskRunRecord

/-- The terminal groups, in the order of `groups`. -/
def groups (record : MultiTaskRunRecord) : List (List String) :=
  [record.succeededTaskIds, record.failedTaskIds, record.abortedTaskIds, record.blockedTaskIds]

/-- **The groups partition the tasks**: no task twice in a group, none in two
groups, and each in one. -/
structure Partition (record : MultiTaskRunRecord) : Prop where
  nodup : ∀ group ∈ record.groups, group.Nodup
  disjoint : record.groups.Pairwise List.Disjoint
  cover : ∀ t, t ∈ record.taskIds ↔ ∃ group ∈ record.groups, t ∈ group

/-- The check that two of the groups have a task in common. -/
def overlap (groups : List (List String)) : Bool :=
  !decide (groups.Pairwise fun left right => left.all fun t => t ∉ right)

/-- The field constraints and `validate_terminal_shape`. -/
def validate (record : MultiTaskRunRecord) : Except Failure Unit := do
  Raising.raiseIf (record.taskIds = []) ⟨.valueError, "task_ids should have at least 1 item"⟩
  Raising.raiseIf (record.integrationHead.any fun head => !isOid head)
    ⟨.valueError, "integration_head does not match its pattern"⟩
  Raising.raiseIf (record.mergeEvidenceId.any fun id => id = 0)
    ⟨.valueError, "merge_evidence_id should be greater than or equal to 1"⟩
  Raising.raiseIf (record.status ≠ .succeeded ∧ record.status ≠ .failed)
    ⟨.valueError, "MultiTaskRunResult status must be terminal"⟩
  Raising.raiseIf (¬record.taskIds.Nodup) ⟨.valueError, "task_ids must be unique"⟩
  Raising.raiseIf (∃ group ∈ record.groups, ¬group.Nodup)
    ⟨.valueError, "terminal task groups must not contain duplicates"⟩
  Raising.raiseIf (overlap record.groups = true)
    ⟨.valueError, "terminal task groups must be disjoint"⟩
  Raising.raiseIf (record.groups.flatten.toFinset ≠ record.taskIds.toFinset)
    ⟨.valueError, "terminal task groups must cover the complete DAG"⟩
  Raising.raiseIf (record.abortEvidenceFingerprints.length ≠ record.abortedTaskIds.length)
    ⟨.valueError, "each aborted task requires one human-decision evidence fingerprint"⟩
  Raising.raiseIf (¬record.abortEvidenceFingerprints.Nodup)
    ⟨.valueError, "abort evidence fingerprints must be unique"⟩
  Raising.raiseIf (record.abortEvidenceFingerprints.any fun value => !isSha256 value)
    ⟨.valueError, "abort evidence fingerprints must be lowercase SHA-256 values"⟩
  Raising.raiseIf (record.mergeEvidenceId.isNone ≠ record.mergeEvidence.isNone)
    ⟨.valueError, "merge evidence id and digest must be present together"⟩
  if record.status = .succeeded then
    Raising.raiseIf (record.failedTaskIds ≠ [] ∨ record.abortedTaskIds ≠ [] ∨
        record.blockedTaskIds ≠ [] ∨ record.succeededTaskIds.toFinset ≠ record.taskIds.toFinset)
      ⟨.valueError, "successful DAG Runs require every task to succeed"⟩
    Raising.raiseIf (record.abortEvidenceFingerprints ≠ [])
      ⟨.valueError, "successful DAG Runs cannot contain human abort evidence"⟩
    Raising.raiseIf (record.integrationHead = none ∨ record.mergeEvidenceId = none)
      ⟨.valueError, "successful DAG Runs require complete integration evidence"⟩
  else
    Raising.raiseIf (record.failedTaskIds = [] ∧ record.abortedTaskIds = [])
      ⟨.valueError, "failed DAG Runs require a failed worker or explicit human abort"⟩

end MultiTaskRunRecord

/-- `MultiTaskRunResult`. -/
structure MultiTaskRunResult extends MultiTaskRunRecord where
  valid : toMultiTaskRunRecord.validate = .ok ()
deriving DecidableEq

/-- The model's constructor: the fields as given, or the `ValidationError`. -/
def MultiTaskRunResult.ofRecord (record : MultiTaskRunRecord) :
    Except Failure MultiTaskRunResult :=
  match h : record.validate with
  | .ok () => .ok ⟨record, h⟩
  | .error failure => .error failure

theorem MultiTaskRunResult.ofRecord_eq_ok {record : MultiTaskRunRecord}
    {result : MultiTaskRunResult} (h : MultiTaskRunResult.ofRecord record = .ok result) :
    result.toMultiTaskRunRecord = record := by
  unfold ofRecord at h
  split at h
  · obtain rfl := Except.ok.inj h
    rfl
  · cases h

theorem MultiTaskRunResult.ofRecord_of_valid {record : MultiTaskRunRecord}
    (h : record.validate = .ok ()) : MultiTaskRunResult.ofRecord record = .ok ⟨record, h⟩ := by
  unfold ofRecord
  split
  · rfl
  · rename_i hfailed
    rw [h] at hfailed
    cases hfailed

theorem MultiTaskRunRecord.overlap_eq_false {groups : List (List String)} :
    overlap groups = false ↔ groups.Pairwise List.Disjoint := by
  have hdisjoint : ∀ left right : List String,
      ((left.all fun t => t ∉ right) = true) ↔ left.Disjoint right := by
    intro left right
    simp [List.disjoint_left]
  simp only [overlap, Bool.not_eq_false', decide_eq_true_eq, hdisjoint]

/-- **A validated result partitions its tasks.** -/
theorem MultiTaskRunRecord.partition_of_validate {record : MultiTaskRunRecord}
    (h : record.validate = .ok ()) : record.Partition := by
  simp only [validate, Raising.bind_eq_ok, Raising.raiseIf_eq_ok] at h
  obtain ⟨_, -, _, -, _, -, _, -, _, -, _, hnodup, _, hoverlap, _, hcover, -⟩ := h
  refine ⟨?_, ?_, ?_⟩
  · intro group hgroup
    by_contra hdup
    exact hnodup ⟨group, hgroup, hdup⟩
  · exact overlap_eq_false.1 (by simpa using hoverlap)
  · intro t
    have hmem := Finset.ext_iff.1 (not_not.1 hcover) t
    rw [List.mem_toFinset, List.mem_toFinset, List.mem_flatten] at hmem
    exact hmem.symm

end DevFlow
