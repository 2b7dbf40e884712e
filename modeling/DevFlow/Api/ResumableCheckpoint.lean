/-
# The checkpoint a failed run is resumed from

`_resumable_task_checkpoint` of `api/autonomous.py` takes the one checkpoint that
the terminal evidence of a failed run carries, and compares its base with the
base of the run.  The checkpoint has the base of the slice that left it: the
execution base of the task in the first slice, and the commit of the checkpoint
before it in every later one.  So it is returned exactly when the execution had
one slice and started from the base of the run.
-/

import DevFlow.Library.Runs
import DevFlow.Workers.WorkerCommits

namespace DevFlow

/-- `WorkerExecutionEvidence.model_validate` of a row's payload. -/
def validatedExecution (row : EvidenceRow WorkContent) :
    Except Failure (WorkerExecutionEvidence WorkContent) :=
  match row.payload with
  | .workerExecution execution => return execution
  | _ => throw ⟨.valueError, "WorkerExecutionEvidence failed validation"⟩

/-- The terminal evidence of a run. -/
def executionsOf (db : Database WorkContent) :
    Except Failure (List (WorkerExecutionEvidence WorkContent)) :=
  (db.evidence.filter fun row => row.kind = .workerExecution).mapM validatedExecution

/-- `_resumable_task_checkpoint`; `runBase` is `snapshot.base_commit`. -/
def resumableTaskCheckpoint (db : Database WorkContent) (runBase : String) :
    Except Failure (Option TaskCheckpoint) :=
  if db.status ≠ .failed then return none
  else do
    let executions ← executionsOf db
    match executions.filterMap WorkerExecutionEvidence.checkpoint with
    | [checkpoint] =>
      Raising.raiseIf (checkpoint.baseCommit ≠ runBase)
        ⟨.persistenceCorruption, "checkpoint does not descend from the persisted Run base"⟩
      return some checkpoint
    | _ => return none

/-! ### The checkpoints of a worker -/

/-- A checkpoint starts where its execution does, and that is a checkpoint of the same
execution, never the base of the run, from the second slice on. -/
def WorkerExecutionEvidence.Grounded (runBase : String)
    (execution : WorkerExecutionEvidence WorkContent) : Prop :=
  ∀ checkpoint, execution.checkpoint = some checkpoint →
    checkpoint.baseCommit = execution.baseCommit ∧
      (DevFlow.slicesStarted execution ≠ 1 → execution.baseCommit ≠ runBase)

namespace QueuedTaskWorker

section grounded

variable {settings : WorkerSettings} {calls : WorkerCalls} {maxSlices : ℕ} {queued : QueuedTask}
  {envelope : WorkerEnvelope} {v v' : SliceState} {s : WorkerState}
  {execution : WorkerExecutionEvidence WorkContent} {stack : ℕ → ExecutionStack}
  {answers : ℕ → WorktreeAnswers} {runBase : String}

/-- The variables of a loop over commits that Git made: a later slice does not start at
the base of the run. -/
def SliceState.Moved (runBase : String) (v : SliceState) : Prop :=
  1 ≤ v.sliceIndex ∧ (1 < v.sliceIndex → v.executionBase ≠ runBase)

/-- **The loop keeps that.** -/
theorem sliceLoop_moved (hcommits : ∀ k, (answers k).commit ≠ .ok runBase) {left : ℕ}
    (hv : v.Moved runBase)
    (h : (sliceLoop settings (calls.through stack answers) maxSlices queued envelope left v
      s).result = .ok (execution, v')) :
    v'.Moved runBase ∧ ∃ t, (runSliceOnce (calls.through stack answers) maxSlices queued envelope v'
      t).result = .ok execution := by
  refine sliceLoop_invariant (fun v s answer checkpoint _ hanswer hcheckpoint => ?_) hv h
  refine ⟨Nat.le_add_left 1 _, fun _ hbase => ?_⟩
  obtain ⟨-, -, hcommit⟩ := (runSliceOnce_madeFrom hanswer).1.checkpoint checkpoint hcheckpoint
  exact hcommits _ (hcommit.trans (congrArg Except.ok hbase))

/-- **The terminal evidence of a worker is grounded.** -/
theorem withContinuation_grounded (elapsedMs : ℕ) (hv : v.Moved runBase)
    (h : (runSliceOnce (calls.through stack answers) maxSlices queued envelope v s).result =
      .ok execution) :
    (withContinuation execution queued v maxSlices elapsedMs).Grounded runBase := by
  intro checkpoint hcheckpoint
  obtain ⟨hmade, details, hdetails, hnone⟩ := runSliceOnce_madeFrom h
  have hlast := withContinuation_madeFrom queued v maxSlices elapsedMs hmade
  obtain ⟨-, hfrom, -⟩ := hlast.checkpoint checkpoint hcheckpoint
  rw [hlast.on_base]
  refine ⟨hfrom, fun hslices => hv.2 ?_⟩
  by_contra hfirst
  simp [withContinuation, hdetails, hfirst, slicesStarted, WorkerExecutionEvidence.details,
    hnone] at hslices

/-! ### Every row that a worker writes -/

/-- The rows are of their kinds, and the terminal evidence among them is grounded. -/
def RowsGrounded (runBase : String) (s : WorkerState) : Prop :=
  ∀ row ∈ s.db.evidence, row.payload.isModelOf row.kind ∧
    ∀ execution, row.payload = .workerExecution execution → execution.Grounded runBase

/-- **Every row that a call of `execute` writes keeps the evidence grounded**, wherever
the call is stopped. -/
theorem execute_keeps (hcommits : ∀ k, (answers k).commit ≠ .ok runBase) :
    Durable.Keeps (RowsGrounded runBase)
      (execute settings (calls.through stack answers) queued envelope runBase) := by
  refine execute_keeps_rows (P := fun _ execution => execution.Grounded runBase) ?_ ?_
  · intro base s execution v _ hloop
    obtain ⟨hmoved, t, hslice⟩ :=
      sliceLoop_moved hcommits ⟨le_rfl, by simp [SliceState.start]⟩ hloop
    exact withContinuation_grounded _ hmoved hslice
  · intro execution _ _ hnone checkpoint hcheckpoint
    rw [hnone] at hcheckpoint
    cases hcheckpoint

end grounded

end QueuedTaskWorker

/-! ### Reachable runs -/

/-- What writes the rows of a run. -/
inductive RunWriter
  /-- A worker over stacks. -/
  | worker (settings : WorkerSettings) (calls : WorkerCalls) (stack : ℕ → ExecutionStack)
      (answers : ℕ → WorktreeAnswers) (queued : QueuedTask) (envelope : WorkerEnvelope)
  /-- The leases, the controller and the API. -/
  | other

/-- One step of a run.  A worker may be stopped anywhere, and Git makes new commits,
which are not the base of the run; the others write no terminal evidence, but may
finalize the run. -/
def writerStep (runBase : String) (s : WorkerState) (writer : RunWriter) (_ : Unit)
    (t : WorkerState) : Prop :=
  match writer with
  | .worker settings calls stack answers queued envelope =>
    (∀ k, (answers k).commit ≠ .ok runBase) ∧
      t ∈ (QueuedTaskWorker.execute settings (calls.through stack answers) queued envelope runBase
        s).states
  | .other => ∀ row ∈ t.db.evidence, row ∈ s.db.evidence ∨
    row.payload.isModelOf row.kind ∧ ∀ execution, row.payload ≠ .workerExecution execution

/-- The run with another status. -/
def WorkerState.closed (s : WorkerState) (status : RunStatus) : WorkerState :=
  { s with db := { s.db with status } }

/-- The controller may finalize the run. -/
theorem writerStep_closed (runBase : String) (s : WorkerState) (status : RunStatus) :
    writerStep runBase s .other () (s.closed status) :=
  fun _ hrow => Or.inl hrow

/-- **Every step keeps the terminal evidence grounded.** -/
theorem writerStep_grounded {runBase : String} (s : WorkerState) (writer : RunWriter) (o : Unit)
    (t : WorkerState) (hs : QueuedTaskWorker.RowsGrounded runBase s)
    (h : writerStep runBase s writer o t) : QueuedTaskWorker.RowsGrounded runBase t := by
  cases writer with
  | worker settings calls stack answers queued envelope =>
    exact QueuedTaskWorker.execute_keeps h.1 s hs t h.2
  | other =>
    intro row hrow
    rcases h row hrow with hold | ⟨hmodel, hother⟩
    · exact hs row hold
    · exact ⟨hmodel, fun execution heq => absurd heq (hother execution)⟩

/-- The terminal evidence among the rows. -/
def terminalEvidence (db : Database WorkContent) : List (WorkerExecutionEvidence WorkContent) :=
  db.evidence.filterMap fun row =>
    match row.payload with
    | .workerExecution execution => some execution
    | _ => none

/-- Rows of their kinds are all validated, by induction on the rows. -/
theorem executionsOf_eq {db : Database WorkContent}
    (h : ∀ row ∈ db.evidence, row.payload.isModelOf row.kind) :
    executionsOf db = .ok (terminalEvidence db) := by
  unfold executionsOf terminalEvidence
  generalize db.evidence = rows at h
  induction rows with
  | nil => rfl
  | cons row rows ih =>
    obtain ⟨hrow, hrows⟩ := List.forall_mem_cons.1 h
    have hrest := ih hrows
    cases hpayload : row.payload with
    | workerExecution execution =>
      rw [hpayload] at hrow
      have hkind : row.kind = .workerExecution := hrow
      simp only [List.filter_cons, hkind, decide_true, if_true, List.mapM_cons, hrest,
        List.filterMap_cons, hpayload, validatedExecution]
      rfl
    | dispatchEvent event =>
      rw [hpayload] at hrow
      have hkind : row.kind = .dispatchEvent := hrow
      simp only [List.filter_cons, hkind, List.filterMap_cons, hpayload]
      exact hrest
    | other model content =>
      rw [hpayload] at hrow
      have hkind : row.kind ≠ .workerExecution := hrow.2.1
      simp only [List.filter_cons, hkind, decide_false, Bool.false_eq_true, if_false,
        List.filterMap_cons, hpayload]
      exact hrest

/-- The one checkpoint of the evidence. -/
theorem filterMap_checkpoint {executions : List (WorkerExecutionEvidence WorkContent)} :
    executions.filterMap WorkerExecutionEvidence.checkpoint =
      (executions.filter fun execution => execution.checkpoint.isSome).filterMap
        WorkerExecutionEvidence.checkpoint := by
  induction executions with
  | nil => rfl
  | cons execution executions ih =>
    cases hcheckpoint : execution.checkpoint with
    | none => simp [hcheckpoint, ih]
    | some checkpoint => simp [hcheckpoint, ih]

/-- No checkpoint has been left yet. -/
def WithoutCheckpoint (s : WorkerState) : Prop :=
  ∀ row ∈ s.db.evidence, row.payload.isModelOf row.kind ∧
    ∀ execution, row.payload = .workerExecution execution → execution.checkpoint = none

theorem WithoutCheckpoint.grounded {s : WorkerState} (h : WithoutCheckpoint s) (runBase : String) :
    QueuedTaskWorker.RowsGrounded runBase s := by
  intro row hrow
  refine ⟨(h row hrow).1, fun execution hpayload checkpoint hcheckpoint => ?_⟩
  rw [(h row hrow).2 execution hpayload] at hcheckpoint
  cases hcheckpoint

/-- What is returned for the one checkpoint of a failed run. -/
theorem resumableTaskCheckpoint_eq {db : Database WorkContent}
    (hmodels : ∀ row ∈ db.evidence, row.payload.isModelOf row.kind) (hfailed : db.status = .failed)
    {execution : WorkerExecutionEvidence WorkContent} {checkpoint : TaskCheckpoint}
    (hsole : (terminalEvidence db).filter (fun other => other.checkpoint.isSome) = [execution])
    (hcheckpoint : execution.checkpoint = some checkpoint) (runBase : String) :
    resumableTaskCheckpoint db runBase = .ok (some checkpoint) ↔
      checkpoint.baseCommit = runBase := by
  have hfound : (terminalEvidence db).filterMap WorkerExecutionEvidence.checkpoint =
      [checkpoint] := by
    rw [filterMap_checkpoint, hsole]
    simp [hcheckpoint]
  rw [resumableTaskCheckpoint, if_neg (not_not.2 hfailed), executionsOf_eq hmodels,
    Raising.ok_bind, hfound]
  simp [Raising.bind_eq_ok, Raising.raiseIf_eq_ok, pure, Except.pure]

/-- **When the checkpoint of a failed run is resumable.**  In every reachable FAILED run
in which exactly one terminal evidence carries a checkpoint, the checkpoint is
returned exactly when that execution took one slice and started from the base of
the run. -/
theorem checkpoint_resumable_iff {runBase : String} {s₀ s : WorkerState}
    {es : List (Runs.Event WorkerState RunWriter Unit)} (h₀ : WithoutCheckpoint s₀)
    (h : Runs.Run (writerStep runBase) s₀ es s) (hfailed : s.db.status = .failed)
    {execution : WorkerExecutionEvidence WorkContent} {checkpoint : TaskCheckpoint}
    (hsole : (terminalEvidence s.db).filter (fun other => other.checkpoint.isSome) = [execution])
    (hcheckpoint : execution.checkpoint = some checkpoint) :
    resumableTaskCheckpoint s.db runBase = .ok (some checkpoint) ↔
      slicesStarted execution = 1 ∧ execution.baseCommit = runBase := by
  have hrows : QueuedTaskWorker.RowsGrounded runBase s :=
    h.invariant writerStep_grounded (h₀.grounded runBase)
  have hmem : execution ∈ terminalEvidence s.db :=
    List.mem_of_mem_filter (hsole ▸ List.mem_singleton.2 rfl)
  obtain ⟨row, hrow, hpayload⟩ := List.mem_filterMap.1 hmem
  have hgrounded : execution.Grounded runBase := by
    refine (hrows row hrow).2 execution ?_
    split at hpayload
    · rename_i found hfound
      rw [hfound, Option.some.inj hpayload]
    · cases hpayload
  obtain ⟨hbase, hslices⟩ := hgrounded checkpoint hcheckpoint
  rw [resumableTaskCheckpoint_eq (fun row hrow => (hrows row hrow).1) hfailed hsole hcheckpoint,
    hbase]
  exact ⟨fun hrun => ⟨by_contra fun hmany => hslices hmany hrun, hrun⟩, fun hboth => hboth.2⟩

/-! ### A dependent task -/

/-- A Developer that fails after it has changed a file. -/
def brokenAgents : Agents :=
  { contentAgents with developer := fun _ => (.valueError "no answer", [("app.py", "part")]) }

/-- The worktree at the integration head. -/
def dependentAnswers : WorktreeAnswers where
  created := .ok ()
  tree := [("app.py", "")]
  branchName := "devflow/a"
  commit := .ok (sampleOid '6')

/-- The task on which the other one depends has succeeded. -/
def libExecution : WorkerExecutionEvidence WorkContent where
  dispatchId := ⟨9⟩
  runId := ⟨7⟩
  taskId := "lib"
  status := .succeeded
  baseCommit := sampleOid '0'
  commitSha := some (sampleOid '1')
  content := .execution ⟨some "devflow/lib", none, none, none, []⟩
  success_commit := succeeded_sampleOid_one
  failure_commit := succeeded_not_failed_sampleOid_one

/-- The run when the dependent task is dispatched. -/
def dependentWorker : WorkerState where
  db :=
    { (Database.created WorkContent ⟨7⟩ ["lib", "a"]).setLease "a"
        ⟨"worker", ⟨1⟩, 1, ⟨2⟩, 0, 0, 1000, none, Lease.firstGeneration⟩ with
      evidence := [⟨1, some "lib", workerEvidenceKey (⟨9⟩, none), .workerExecution, some "worker",
        none, 1, .workerExecution libExecution⟩]
      evidenceSequence := 1 }
  now := 1

/-- A worker for it, from the head at which the other one was integrated. -/
def dependentCall : RunWriter :=
  .worker ⟨3, 1000, 1⟩ { plainCalls with resolveBase := .ok (sampleOid '5') }
    (fun _ => ⟨.plain, brokenAgents, 0, none⟩) (fun _ => dependentAnswers) ⟨⟨"a", 0⟩, none, 0⟩
    resumedEnvelope

/-- What the worker leaves. -/
def dependentOutcome : Durable.Outcome WorkerState Failure (WorkerExecutionEvidence WorkContent) :=
  QueuedTaskWorker.execute ⟨3, 1000, 1⟩
    ({ plainCalls with resolveBase := .ok (sampleOid '5') }.through
      (fun _ => ⟨.plain, brokenAgents, 0, none⟩) fun _ => dependentAnswers)
    ⟨⟨"a", 0⟩, none, 0⟩ resumedEnvelope (sampleOid '0') dependentWorker

/-- The run after its finalization. -/
def failedRun : WorkerState :=
  dependentOutcome.final.closed .failed

theorem failedRun_facts :
    ((terminalEvidence failedRun.db).map fun execution =>
      execution.checkpoint.map TaskCheckpoint.baseCommit) = [none, some (sampleOid '5')] := by
  decide +kernel

theorem dependentWorker_withoutCheckpoint : WithoutCheckpoint dependentWorker := by
  intro row hrow
  obtain rfl := List.mem_singleton.1 hrow
  refine ⟨rfl, fun execution hpayload => ?_⟩
  obtain rfl := Payload.workerExecution.inj hpayload
  rfl

/-- The worker, and then the finalization by the controller. -/
theorem failedRun_run : ∃ es, Runs.Run (writerStep (sampleOid '0')) dependentWorker es failedRun := by
  have hcommits : dependentAnswers.commit ≠ .ok (sampleOid '0') := by
    intro h
    exact absurd (Except.ok.inj h) (sampleOid_ne (by decide))
  have hworker : writerStep (sampleOid '0') dependentWorker dependentCall ()
      dependentOutcome.final :=
    ⟨fun _ => hcommits, Durable.final_mem_states dependentOutcome⟩
  exact ⟨_, Runs.Run.cons hworker (Runs.Run.cons (writerStep_closed _ _ _) (Runs.Run.nil _))⟩

/-- The one checkpoint of the run. -/
theorem failedRun_sole : ∃ execution checkpoint,
    (terminalEvidence failedRun.db).filter (fun other => other.checkpoint.isSome) = [execution] ∧
      execution.checkpoint = some checkpoint ∧ checkpoint.baseCommit = sampleOid '5' := by
  obtain ⟨first, rest, heq, hfirst, hrest⟩ := List.map_eq_cons_iff.1 failedRun_facts
  obtain ⟨second, rfl, hsecond⟩ := List.map_eq_singleton_iff.1 hrest
  obtain ⟨checkpoint, hcheckpoint, hbase⟩ := Option.map_eq_some_iff.1 hsecond
  have hnone := Option.map_eq_none_iff.1 hfirst
  refine ⟨second, checkpoint, ?_, hcheckpoint, hbase⟩
  rw [heq]
  simp [hnone, hcheckpoint]

theorem dependent_checkpoint_refused : ∃ execution checkpoint,
    (terminalEvidence failedRun.db).filter (fun other => other.checkpoint.isSome) = [execution] ∧
      execution.checkpoint = some checkpoint ∧
      (resumableTaskCheckpoint failedRun.db (sampleOid '0') = .ok (some checkpoint) ↔
        slicesStarted execution = 1 ∧ execution.baseCommit = sampleOid '0') := by
  obtain ⟨execution, checkpoint, hsole, hcheckpoint, -⟩ := failedRun_sole
  obtain ⟨es, hrun⟩ := failedRun_run
  exact ⟨execution, checkpoint, hsole, hcheckpoint,
    checkpoint_resumable_iff dependentWorker_withoutCheckpoint hrun rfl hsole hcheckpoint⟩

/-- **The checkpoint of a dependent task is called corrupt.** -/
theorem dependent_checkpoint_not_resumable :
    ¬∀ (runBase : String) (s₀ s : WorkerState)
        (es : List (Runs.Event WorkerState RunWriter Unit))
        (execution : WorkerExecutionEvidence WorkContent) (checkpoint : TaskCheckpoint),
      WithoutCheckpoint s₀ → Runs.Run (writerStep runBase) s₀ es s → s.db.status = .failed →
      (terminalEvidence s.db).filter (fun other => other.checkpoint.isSome) = [execution] →
      execution.checkpoint = some checkpoint →
        resumableTaskCheckpoint s.db runBase = .ok (some checkpoint) := by
  intro hclaim
  obtain ⟨execution, checkpoint, hsole, hcheckpoint, hbase⟩ := failedRun_sole
  obtain ⟨es, hrun⟩ := failedRun_run
  have hmodels := (hrun.invariant writerStep_grounded
    (dependentWorker_withoutCheckpoint.grounded (sampleOid '0')))
  have hresumed := hclaim (sampleOid '0') dependentWorker failedRun es execution checkpoint
    dependentWorker_withoutCheckpoint hrun rfl hsole hcheckpoint
  rw [resumableTaskCheckpoint_eq (fun row hrow => (hmodels row hrow).1) rfl hsole hcheckpoint,
    hbase] at hresumed
  exact absurd hresumed (by decide +kernel)

end DevFlow
