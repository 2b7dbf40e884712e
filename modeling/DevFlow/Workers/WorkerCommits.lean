/-
# The commits of a worker

A slice commits on the base it started from, and what it commits is the accepted
commit of its evidence or the commit of its checkpoint.  The next slice starts
from the checkpoint.  So when Git makes each commit with the base of its slice as
the only parent, every commit that the terminal evidence names descends from the
base that was resolved for the execution, and with it from the base of the run.
-/

import DevFlow.Workers.EvidenceRows
import DevFlow.Workers.ResumeStrategy
import DevFlow.Workspace.Ancestry

namespace DevFlow

/-- The commits that an execution names: the accepted one, and that of its checkpoint. -/
def WorkerExecutionEvidence.commits (execution : WorkerExecutionEvidence WorkContent) :
    List String :=
  execution.commitSha.toList ++ (execution.checkpoint.map TaskCheckpoint.commitSha).toList

/-- The execution of a task from a base, in which `commit` was answered by Git. -/
structure WorkerExecutionEvidence.MadeFrom (taskId base : String) (commit : Except Failure String)
    (execution : WorkerExecutionEvidence WorkContent) : Prop where
  of_task : execution.taskId = taskId
  on_base : execution.baseCommit = base
  accepted : ∀ c, execution.commitSha = some c → commit = .ok c
  checkpoint : ∀ checkpoint, execution.checkpoint = some checkpoint →
    checkpoint.taskId = taskId ∧ checkpoint.baseCommit = base ∧ commit = .ok checkpoint.commitSha

theorem WorkerExecutionEvidence.MadeFrom.of_mem_commits {taskId base c : String}
    {commit : Except Failure String} {execution : WorkerExecutionEvidence WorkContent}
    (h : execution.MadeFrom taskId base commit) (hc : c ∈ execution.commits) :
    commit = .ok c := by
  rcases List.mem_append.1 hc with haccepted | hcheckpoint
  · exact h.accepted c (Option.mem_toList.1 haccepted)
  · obtain ⟨checkpoint, hsome, rfl⟩ := Option.map_eq_some_iff.1 (Option.mem_toList.1 hcheckpoint)
    exact (h.checkpoint checkpoint hsome).2.2

/-- **What a stack answers is made from its request.** -/
theorem ExecutionStack.execute_madeFrom {stack : ExecutionStack} {answers : WorktreeAnswers}
    {request : ExecutionRequest} {evidence : WorkerExecutionEvidence WorkContent}
    {actions : List Action} (h : stack.execute answers request = .ok (evidence, actions)) :
    evidence.MadeFrom request.task.taskId request.baseCommit answers.commit := by
  rw [ExecutionStack.execute_eq_ok h]
  rcases runSlice_evidence stack.runner answers request (stack.backend.runRequest request) with
    ⟨_, _, _, hfailed⟩ | ⟨result, hfinish⟩
  · rw [hfailed]
    exact ⟨rfl, rfl, fun _ hnone => (by cases hnone), fun _ hnone => (by cases hnone)⟩
  · rcases finishSlice_eq_ok hfinish with ⟨found, hfound, heq⟩ | ⟨commitSha, hcommit, heq⟩
    · rw [heq]
      refine ⟨rfl, rfl, fun _ hnone => (by cases hnone), fun checkpoint hcheckpoint => ?_⟩
      obtain rfl : found = some checkpoint := hcheckpoint
      unfold checkpointFailedWork at hfound
      dsimp only at hfound
      split_ifs at hfound
      · cases hfound
      · simp only [Raising.bind_eq_ok, Raising.pure_eq_ok, Option.some.injEq] at hfound
        obtain ⟨commit, hcommit, _, -, rfl⟩ := hfound
        exact ⟨rfl, rfl, (TaskWorkspace.commitTaskChanges_eq_ok hcommit).2⟩
    · rw [heq]
      refine ⟨rfl, rfl, fun c hc => ?_, fun _ hnone => by cases hnone⟩
      obtain rfl := Option.some.inj hc
      exact (TaskWorkspace.commitTaskChanges_eq_ok hcommit).2

namespace QueuedTaskWorker

section commits

variable {settings : WorkerSettings} {calls : WorkerCalls} {maxSlices : ℕ} {queued : QueuedTask}
  {envelope : WorkerEnvelope} {v v' : SliceState} {s : WorkerState}
  {execution : WorkerExecutionEvidence WorkContent} {stack : ℕ → ExecutionStack}
  {answers : ℕ → WorktreeAnswers} {runBase : String}

/-- **What a slice over a stack returns**, with the facts that the worker adds. -/
theorem runSliceOnce_madeFrom
    (h : (runSliceOnce (calls.through stack answers) maxSlices queued envelope v s).result =
      .ok execution) :
    execution.MadeFrom queued.task.taskId v.executionBase (answers v.sliceIndex).commit ∧
      ∃ details, execution.content = .execution details ∧ details.continuation = none := by
  obtain ⟨answer, hanswer, hfacts⟩ := runSliceOnce_eq_ok h
  obtain ⟨⟨answer, actions⟩, hexecute, rfl⟩ : ∃ r, (stack v.sliceIndex).execute
      (answers v.sliceIndex) (request queued envelope s.db.runId v) = .ok r ∧ r.1 = answer := by
    exact Raising.map_eq_ok.1 hanswer
  obtain ⟨details, hdetails, hnone⟩ := ExecutionStack.execute_details hexecute
  have hmade := ExecutionStack.execute_madeFrom hexecute
  rcases hfacts with ⟨-, rfl⟩ | ⟨found, tokens, hfound, rfl⟩
  · exact ⟨hmade, details, hdetails, hnone⟩
  · obtain ⟨original, horiginal, rfl⟩ := Option.map_eq_some_iff.1 hfound
    have hfrom := hmade.checkpoint original horiginal
    simp only [withCheckpoint, hdetails]
    refine ⟨⟨hmade.of_task, hmade.on_base, hmade.accepted, fun checkpoint hcheckpoint => ?_⟩, _, rfl,
      hnone⟩
    obtain rfl := Option.some.inj hcheckpoint
    exact hfrom

/-- The summary changes nothing of that. -/
theorem withContinuation_madeFrom {taskId base : String} {commit : Except Failure String}
    (queued : QueuedTask) (v : SliceState) (maxSlices elapsedMs : ℕ)
    (h : execution.MadeFrom taskId base commit) :
    (withContinuation execution queued v maxSlices elapsedMs).MadeFrom taskId base commit := by
  unfold withContinuation
  split
  · rename_i details hdetails
    split_ifs
    · refine ⟨h.of_task, h.on_base, h.accepted, fun checkpoint hcheckpoint => h.checkpoint checkpoint ?_⟩
      simpa [WorkerExecutionEvidence.checkpoint, WorkerExecutionEvidence.details, hdetails] using
        hcheckpoint
    · exact h
  · exact h

/-- The base of slice `k`: the resolved base, and then the commit of the slice before. -/
def sliceBase (resolved : String) (answers : ℕ → WorktreeAnswers) : ℕ → String
  | k + 2 => ((answers (k + 1)).commit.toOption).getD resolved
  | _ => resolved

/-- The variables are those of the slice they name. -/
def SliceState.Based (resolved : String) (answers : ℕ → WorktreeAnswers) (v : SliceState) : Prop :=
  1 ≤ v.sliceIndex ∧ v.executionBase = sliceBase resolved answers v.sliceIndex

theorem SliceState.Based.next {resolved : String} {checkpoint : TaskCheckpoint}
    (hv : v.Based resolved answers)
    (hcommit : (answers v.sliceIndex).commit = .ok checkpoint.commitSha) :
    (v.next checkpoint).Based resolved answers := by
  obtain ⟨k, hk⟩ : ∃ k, v.sliceIndex = k + 1 := ⟨v.sliceIndex - 1, by have := hv.1; omega⟩
  rw [hk] at hcommit
  refine ⟨Nat.le_add_left 1 _, ?_⟩
  change checkpoint.commitSha = sliceBase resolved answers (v.sliceIndex + 1)
  rw [hk, sliceBase, hcommit]
  rfl

/-- **The loop returns evidence that is made from the base of some slice.** -/
theorem sliceLoop_madeFrom {resolved : String} {left : ℕ}
    (h : (sliceLoop settings (calls.through stack answers) maxSlices queued envelope left
      (SliceState.start queued resolved) s).result = .ok (execution, v)) :
    ∃ k, 1 ≤ k ∧ execution.MadeFrom queued.task.taskId (sliceBase resolved answers k)
      (answers k).commit := by
  obtain ⟨⟨hpos, hbase⟩, t, hslice⟩ := sliceLoop_invariant (J := SliceState.Based resolved answers)
    (fun v s answer checkpoint hv hanswer hcheckpoint =>
      hv.next ((runSliceOnce_madeFrom hanswer).1.checkpoint checkpoint hcheckpoint).2.2)
    ⟨Nat.le_refl 1, rfl⟩ h
  exact ⟨v.sliceIndex, hpos, hbase ▸ (runSliceOnce_madeFrom hslice).1⟩

end commits

/-- What Git does for one call: the base is resolved to one that contains the base of the
run, and each commit is a new object on the base of its slice. -/
structure WorkerCommits (old new : List GitCommit) (runBase : String)
    (resolveBase : Except Failure String) (answers : ℕ → WorktreeAnswers) : Prop where
  kept : old ⊆ new
  resolved : ∀ base, resolveBase = .ok base → Contains old base runBase
  made : ∀ base k c, resolveBase = .ok base → 1 ≤ k → (answers k).commit = .ok c →
    c ∉ old.map GitCommit.oid ∧ ∃ object ∈ new, object.oid = c ∧
      object.parents = [sliceBase base answers k]

theorem WorkerCommits.contains {old new : List GitCommit} {runBase base : String}
    {resolveBase : Except Failure String} {answers : ℕ → WorktreeAnswers}
    (h : WorkerCommits old new runBase resolveBase answers) (hbase : resolveBase = .ok base)
    (k : ℕ) : Contains new (sliceBase base answers k) runBase := by
  have hresolved : Contains new base runBase := (h.resolved base hbase).mono h.kept
  induction k with
  | zero => exact hresolved
  | succ k ih =>
    cases k with
    | zero => exact hresolved
    | succ k =>
      rw [sliceBase]
      cases hcommit : (answers (k + 1)).commit with
      | error failure => exact hresolved
      | ok c =>
        obtain ⟨-, object, hobject, rfl, hparents⟩ := h.made base (k + 1) c hbase (by omega) hcommit
        refine (Contains.of_parent hobject ?_).trans ih
        rw [hparents]
        exact List.mem_singleton.2 rfl

end QueuedTaskWorker

/-- The commits that an execution of a run names are objects on its base, and the base
contains that of the run. -/
structure WorkerExecutionEvidence.Made (commits : List GitCommit) (runBase : String)
    (row : Option String) (execution : WorkerExecutionEvidence WorkContent) : Prop where
  row_task : row = some execution.taskId
  checkpoint : ∀ checkpoint, execution.checkpoint = some checkpoint →
    checkpoint.taskId = execution.taskId ∧ checkpoint.baseCommit = execution.baseCommit
  commit : ∀ c ∈ execution.commits, Contains commits execution.baseCommit runBase ∧
    ∃ object ∈ commits, object.oid = c ∧ object.parents = [execution.baseCommit]

theorem WorkerExecutionEvidence.Made.mono {old new : List GitCommit} {runBase : String}
    {row : Option String} {execution : WorkerExecutionEvidence WorkContent} (hsub : old ⊆ new)
    (h : execution.Made old runBase row) : execution.Made new runBase row := by
  refine ⟨h.row_task, h.checkpoint, fun c hc => ?_⟩
  obtain ⟨hbase, object, hobject, hoid, hparents⟩ := h.commit c hc
  exact ⟨hbase.mono hsub, object, hsub hobject, hoid, hparents⟩

/-- Every commit that it names contains the base of the run. -/
theorem WorkerExecutionEvidence.Made.contains {commits : List GitCommit} {runBase c : String}
    {row : Option String} {execution : WorkerExecutionEvidence WorkContent}
    (h : execution.Made commits runBase row) (hc : c ∈ execution.commits) :
    Contains commits c runBase := by
  obtain ⟨hbase, object, hobject, rfl, hparents⟩ := h.commit c hc
  refine (Contains.of_parent hobject ?_).trans hbase
  rw [hparents]
  exact List.mem_singleton.2 rfl

/-- What a call adds to the rows: made commits that were not there before. -/
def WorkerExecutionEvidence.Added (old new : List GitCommit) (runBase taskId : String)
    (row : Option String) (execution : WorkerExecutionEvidence WorkContent) : Prop :=
  execution.Made new runBase row ∧ execution.taskId = taskId ∧
    ∀ c ∈ execution.commits, c ∉ old.map GitCommit.oid

/-- **Every row that a call of `execute` writes is of commits that it made.** -/
theorem QueuedTaskWorker.execute_keeps_made {settings : WorkerSettings} {calls : WorkerCalls}
    {stack : ℕ → ExecutionStack} {answers : ℕ → WorktreeAnswers} {queued : QueuedTask}
    {envelope : WorkerEnvelope} {runBase : String} {old new : List GitCommit}
    {before : Option String → WorkerExecutionEvidence WorkContent → Prop}
    (htask : queued.task.taskId = envelope.message.taskId)
    (hid : isTaskId envelope.message.taskId = true)
    (hgit : WorkerCommits old new runBase calls.resolveBase answers) :
    Durable.Keeps (RowsOf fun row execution => before row execution ∨
        execution.Added old new runBase envelope.message.taskId row)
      (execute settings (calls.through stack answers) queued envelope runBase) := by
  have hstrip : strip envelope.message.taskId = envelope.message.taskId := strip_of_isTaskId hid
  refine execute_keeps_rows ?_ ?_
  · intro base s execution v hbase hloop
    obtain ⟨k, hk, hslice⟩ := sliceLoop_madeFrom hloop
    have hmade := withContinuation_madeFrom queued v
      (effectiveMaxSlices settings queued.complexityScore)
      ((calls.through stack answers).elapsedMs v.sliceIndex) hslice
    refine Or.inr ⟨⟨?_, fun checkpoint hcheckpoint => ?_, fun c hc => ?_⟩, ?_, fun c hc => ?_⟩
    · rw [hstrip, hmade.of_task, htask]
    · obtain ⟨htask', hfrom, -⟩ := hmade.checkpoint checkpoint hcheckpoint
      exact ⟨htask'.trans hmade.of_task.symm, hfrom.trans hmade.on_base.symm⟩
    · rw [hmade.on_base]
      exact ⟨hgit.contains hbase k, (hgit.made base k c hbase hk (hmade.of_mem_commits hc)).2⟩
    · rw [hmade.of_task, htask]
    · exact (hgit.made base k c hbase hk (hmade.of_mem_commits hc)).1
  · intro execution htask' hfailed hnone
    have hcommits : execution.commits = [] := by
      simp [WorkerExecutionEvidence.commits, hnone, execution.failure_commit hfailed]
    refine Or.inr ⟨⟨?_, fun checkpoint hcheckpoint => ?_, ?_⟩, ?_, ?_⟩
    · rw [hstrip, htask', htask]
    · rw [hnone] at hcheckpoint
      cases hcheckpoint
    · simp [hcommits]
    · rw [htask', htask]
    · simp [hcommits]

end DevFlow
