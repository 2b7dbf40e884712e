/-
# How a run of one task ends

`QueuedTaskWorker.execute` finalizes a run of one task at the very end of its
`try` block, and the controller leaves such runs alone.  What the worker has the
store take depends on the answers of the resolver, the backend, the registry and
the token budget, and on nothing in the store: it is a plan
(`Library.Plans`).  So the run is finalized exactly when all of them answer, the
store takes every row of the plan, and the evidence has a run result of its own
status; an exception anywhere leaves terminal evidence in a run that stays
RUNNING.
-/

import DevFlow.Library.Plans
import DevFlow.Runtime.ProductController
import DevFlow.Workers.ResumeStrategy

namespace DevFlow

open Durable (Plan)

/-- A write of the worker: a row, the time that passes, or the finalization. -/
inductive WorkerWrite
  | row (evidenceKey : String) (kind : EvidenceKind) (payload : Payload WorkContent)
      (stage : String) (sequence : Option ℤ)
  | wait (time : ℕ)
  | finalize (result : TaskRunResult)

/-- The writes and the value of a part of the worker. -/
abbrev WorkerPlan (α : Type) := Plan WorkerWrite Failure α

/-- The status of a run that is finalized with an execution. -/
def ExecutionStatus.runStatus : ExecutionStatus → RunStatus
  | .succeeded => .succeeded
  | .failed => .failed

namespace QueuedTaskWorker

/-- The store takes a write under the token of the worker. -/
def take (envelope : WorkerEnvelope) (s : WorkerState) : WorkerWrite → Except Failure WorkerState
  | .row evidenceKey kind payload stage sequence =>
    (appendEvidence s.db s.now s.db.runId evidenceKey kind payload (some envelope.message.taskId)
      (some stage) sequence (some envelope.runToken)).map fun r => { s with db := r.2 }
  | .wait time => .ok { s with now := s.now + time }
  | .finalize result =>
    (finalizeSingleTaskRun s.db s.now s.db.runId (persistedResult result)
      (some envelope.runToken)).map fun db => { s with db }

/-! ### The plan -/

/-- The row of a dispatch event. -/
def eventRow (db : Database WorkContent) (envelope : WorkerEnvelope)
    (outcome : Option ExecutionStatus) : WorkerWrite :=
  .row (workerEvidenceKey (envelope.message.dispatchId,
      some (phaseEvent db envelope.message outcome).phase))
    .dispatchEvent (.dispatchEvent (phaseEvent db envelope.message outcome)) "worker" none

/-- The rows of a run result. -/
def runtimeRows (envelope : WorkerEnvelope) (result : Option TaskRunResult)
    (sliceIndex : Option ℕ) : List WorkerWrite :=
  match result with
  | none => []
  | some result =>
    (runtimeRecords
      (match sliceIndex with
        | none => keyPrefix envelope
        | some i => keyPrefix envelope ++ ":slice:" ++ pad4 i) result).map
      fun record => .row record.1 record.2.1 (.other record.2.1 (.runResult result)) record.2.2.1
        record.2.2.2

/-- The row of a checkpoint. -/
def checkpointRow (envelope : WorkerEnvelope) (checkpoint : TaskCheckpoint)
    (sliceIndex : Option ℕ) : WorkerWrite :=
  .row
    (match sliceIndex with
      | none => keyPrefix envelope ++ ":checkpoint"
      | some i => keyPrefix envelope ++ ":checkpoint:slice:" ++ pad4 i)
    .taskCheckpoint (.other .taskCheckpoint (.checkpoint checkpoint)) "checkpoint"
    (sliceIndex.map Int.ofNat)

/-- One slice. -/
def planSlice (calls : WorkerCalls) (maxSlices : ℕ) (queued : QueuedTask)
    (envelope : WorkerEnvelope) (runId : UUID) (v : SliceState) :
    WorkerPlan (WorkerExecutionEvidence WorkContent) := do
  let execution ← Plan.ask (calls.backend v.sliceIndex (request queued envelope runId v))
  Plan.writes [.wait (calls.backendTime v.sliceIndex)]
  match checkpointWithSliceFacts execution v (calls.elapsedMs v.sliceIndex) maxSlices with
  | none => return execution
  | some checkpoint =>
    match calls.remainingTokens with
    | none => return withCheckpoint execution checkpoint
    | some remaining =>
      let tokens ← Plan.ask (remaining v.sliceIndex)
      return withCheckpoint execution { checkpoint with remainingBudgetTokens := some tokens }

/-- The slices, by those that are left. -/
def planLoop (settings : WorkerSettings) (calls : WorkerCalls) (maxSlices : ℕ)
    (queued : QueuedTask) (envelope : WorkerEnvelope) (runId : UUID) :
    ℕ → SliceState → WorkerPlan (WorkerExecutionEvidence WorkContent × SliceState)
  | 0, v => do
    let execution ← planSlice calls maxSlices queued envelope runId v
    return (execution, v)
  | left + 1, v => do
    let execution ← planSlice calls maxSlices queued envelope runId v
    match execution.checkpoint with
    | none => return (execution, v)
    | some checkpoint =>
      if canContinue settings execution v maxSlices (calls.elapsedMs v.sliceIndex) then
        Plan.writes (runtimeRows envelope execution.runResult (some v.sliceIndex))
        Plan.writes [checkpointRow envelope checkpoint (some v.sliceIndex)]
        planLoop settings calls maxSlices queued envelope runId left (v.next checkpoint)
      else return (execution, v)

/-- What the worker has the store take until the terminal evidence, with that
evidence. -/
def planWork (settings : WorkerSettings) (calls : WorkerCalls) (queued : QueuedTask)
    (envelope : WorkerEnvelope) (db : Database WorkContent) :
    WorkerPlan (WorkerExecutionEvidence WorkContent) := do
  let executionBase ← Plan.ask calls.resolveBase
  Plan.writes [eventRow db envelope none]
  let maxSlices := effectiveMaxSlices settings queued.complexityScore
  let (execution, v) ← planLoop settings calls maxSlices queued envelope db.runId (maxSlices - 1)
    (SliceState.start queued executionBase)
  let execution := withContinuation execution queued v maxSlices (calls.elapsedMs v.sliceIndex)
  let sliceIndex := if 1 < v.sliceIndex then some v.sliceIndex else none
  Plan.writes (runtimeRows envelope execution.runResult sliceIndex)
  Plan.writes (execution.checkpoint.toList.map fun checkpoint =>
    checkpointRow envelope checkpoint sliceIndex)
  Plan.writes [.row (workerEvidenceKey (envelope.message.dispatchId, none)) .workerExecution
    (.workerExecution execution) "worker" none]
  return execution

/-- The finalization of a run of one task. -/
def planFinalize (db : Database WorkContent) (execution : WorkerExecutionEvidence WorkContent) :
    WorkerPlan Unit :=
  match execution.runResult with
  | none => return ()
  | some result =>
    if db.taskIds.length = 1 ∧ resultAgrees execution result = true then
      Plan.writes [.finalize result]
    else return ()

/-- What comes after the terminal evidence. -/
def planSettle (calls : WorkerCalls) (envelope : WorkerEnvelope) (db : Database WorkContent)
    (execution : WorkerExecutionEvidence WorkContent) : WorkerPlan Unit := do
  Plan.ask (calls.markProducer.getD (.ok ()))
  Plan.ask (calls.reclaimBudget.getD (.ok ()))
  Plan.writes [.wait calls.cleanupTime]
  Plan.writes [eventRow db envelope (some execution.status)]
  planFinalize db execution

/-- The whole of the `try` block. -/
def planExecution (settings : WorkerSettings) (calls : WorkerCalls) (queued : QueuedTask)
    (envelope : WorkerEnvelope) (db : Database WorkContent) :
    WorkerPlan (WorkerExecutionEvidence WorkContent) := do
  let execution ← planWork settings calls queued envelope db
  planSettle calls envelope db execution
  return execution

/-! ### The worker follows its plan -/

/-- What no write of the worker changes. -/
def OfRun (db : Database WorkContent) (s : WorkerState) : Prop :=
  s.db.runId = db.runId ∧ s.db.taskIds = db.taskIds

/-- An append changes nothing but the rows. -/
theorem appended_columns {db db' : Database WorkContent} {evidenceKey : String}
    {kind : EvidenceKind} {payload : Payload WorkContent} {taskId stage : Option String}
    {sequence : Option ℤ} {id : ℕ}
    (h : Appended db evidenceKey kind payload taskId stage sequence id db') :
    db'.runId = db.runId ∧ db'.taskIds = db.taskIds ∧ db'.status = db.status := by
  rcases h with ⟨_, _, _, _, _, rfl⟩ | ⟨_, _, _, rfl⟩
  · exact ⟨rfl, rfl, rfl⟩
  · exact ⟨rfl, rfl, rfl⟩

section follows

variable {settings : WorkerSettings} {calls : WorkerCalls} {maxSlices : ℕ} {queued : QueuedTask}
  {envelope : WorkerEnvelope} {db : Database WorkContent}

theorem take_ofRun (s : WorkerState) (write : WorkerWrite) (t : WorkerState) (hs : OfRun db s)
    (h : take envelope s write = .ok t) : OfRun db t := by
  cases write with
  | row evidenceKey kind payload stage sequence =>
    obtain ⟨⟨id, db'⟩, happend, rfl⟩ := Raising.map_eq_ok.1 h
    obtain ⟨hid, htasks, -⟩ := appended_columns (appendEvidence_eq_ok happend).2.2.2
    exact ⟨hid.trans hs.1, htasks.trans hs.2⟩
  | wait time =>
    obtain rfl := Except.ok.inj h
    exact hs
  | finalize result =>
    obtain ⟨db', hfinalize, rfl⟩ := Raising.map_eq_ok.1 h
    obtain ⟨-, -, ⟨-, rfl⟩ | ⟨-, _, _, -, rfl⟩⟩ := finalizeSingleTaskRun_eq_ok hfinalize
    · exact hs
    · exact hs

/-- A part of the worker and its plan. -/
abbrev Follows {α : Type} (envelope : WorkerEnvelope) (db : Database WorkContent)
    (p : Worker α) (x : WorkerPlan α) : Prop :=
  Durable.Follows (take envelope) (OfRun db) p x

theorem Follows.then {α β : Type} {p : Worker α} {x : WorkerPlan α} {f : α → Worker β}
    {g : α → WorkerPlan β} (hp : Follows envelope db p x)
    (hf : ∀ a, Follows envelope db (f a) (g a)) : Follows envelope db (p >>= f) (x >>= g) :=
  Durable.Follows.bind take_ofRun hp hf

variable (envelope db) in
theorem append_follows (evidenceKey : String) (kind : EvidenceKind)
    (payload : Payload WorkContent) (stage : String) (sequence : Option ℤ) :
    Follows envelope db
      (append envelope evidenceKey kind payload stage sequence >>= fun _ => pure PUnit.unit)
      (Plan.writes [.row evidenceKey kind payload stage sequence]) := by
  refine Durable.Follows.write fun s _ t => ?_
  simp only [Durable.bind_apply, Durable.Prog.andThen, append, Durable.transact, take]
  cases appendEvidence s.db s.now s.db.runId evidenceKey kind payload
      (some envelope.message.taskId) (some stage) sequence (some envelope.runToken) with
  | error failure => simp [Except.map]
  | ok r => simp [Except.map]

theorem wait_follows (time : ℕ) : Follows envelope db
    (Durable.write fun s => { s with now := s.now + time }) (Plan.writes [.wait time]) :=
  Durable.Follows.write fun s _ t => by simp [Durable.write, take]

theorem recordDispatchEvent_follows (outcome : Option ExecutionStatus) :
    Follows envelope db (recordDispatchEvent envelope outcome)
      (Plan.writes [eventRow db envelope outcome]) := by
  refine Durable.Follows.read_bind fun s hs => ?_
  have hevent : phaseEvent s.db envelope.message outcome =
      phaseEvent db envelope.message outcome := by
    simp only [phaseEvent, hs.1]
  rw [hevent]
  exact append_follows _ _ _ _ _ _ _

theorem appendCheckpoint_follows (checkpoint : TaskCheckpoint) (sliceIndex : Option ℕ) :
    Follows envelope db (appendCheckpoint envelope checkpoint sliceIndex)
      (Plan.writes [checkpointRow envelope checkpoint sliceIndex]) :=
  append_follows _ _ _ _ _ _ _

theorem persistRuntimeResult_follows (result : Option TaskRunResult) (sliceIndex : Option ℕ) :
    Follows envelope db (persistRuntimeResult envelope result sliceIndex)
      (Plan.writes (runtimeRows envelope result sliceIndex)) := by
  cases result with
  | none => exact Durable.Follows.pure ()
  | some result =>
    unfold persistRuntimeResult runtimeRows
    dsimp only
    generalize runtimeRecords _ result = records
    induction records with
    | nil => exact Durable.Follows.pure ()
    | cons record records ih =>
      have hrest := (append_follows envelope db record.1 record.2.1
        (.other record.2.1 (.runResult result)) record.2.2.1 record.2.2.2).then fun _ => ih
      rw [Durable.discard_bind] at hrest
      exact hrest

theorem runSliceOnce_follows (v : SliceState) :
    Follows envelope db (runSliceOnce calls maxSlices queued envelope v)
      (planSlice calls maxSlices queued envelope db.runId v) := by
  refine Durable.Follows.read_bind fun s hs => ?_
  rw [hs.1]
  refine Follows.then (Durable.Follows.ask _) fun execution => (wait_follows _).then fun _ => ?_
  cases checkpointWithSliceFacts execution v (calls.elapsedMs v.sliceIndex) maxSlices with
  | none => exact Durable.Follows.pure _
  | some checkpoint =>
    cases calls.remainingTokens with
    | none => exact Durable.Follows.pure _
    | some remaining => exact Follows.then (Durable.Follows.ask _) fun _ => Durable.Follows.pure _

/-- The loop, by induction on the slices that are left. -/
theorem sliceLoop_follows (left : ℕ) (v : SliceState) :
    Follows envelope db (sliceLoop settings calls maxSlices queued envelope left v)
      (planLoop settings calls maxSlices queued envelope db.runId left v) := by
  induction left generalizing v with
  | zero => exact (runSliceOnce_follows v).then fun _ => Durable.Follows.pure _
  | succ left ih =>
    refine (runSliceOnce_follows v).then fun execution => ?_
    cases execution.checkpoint with
    | none => exact Durable.Follows.pure _
    | some checkpoint =>
      dsimp only
      split_ifs
      · exact (persistRuntimeResult_follows _ _).then fun _ =>
          (appendCheckpoint_follows _ _).then fun _ => ih _
      · exact Durable.Follows.pure _

theorem work_follows : Follows envelope db (work settings calls queued envelope)
    (planWork settings calls queued envelope db) := by
  refine Follows.then (Durable.Follows.ask _) fun executionBase =>
    (recordDispatchEvent_follows none).then fun _ => (sliceLoop_follows _ _).then fun last => ?_
  obtain ⟨answer, v⟩ := last
  dsimp only
  refine (persistRuntimeResult_follows _ _).then fun _ => ?_
  generalize withContinuation answer queued v _ _ = execution
  have htail : Follows envelope db
      (do
        appendExecution envelope execution
        return execution)
      (do
        Plan.writes [.row (workerEvidenceKey (envelope.message.dispatchId, none)) .workerExecution
          (.workerExecution execution) "worker" none]
        return execution) :=
    Follows.then (append_follows _ _ _ _ _ _ _) fun _ => Durable.Follows.pure _
  cases execution.checkpoint with
  | none =>
    simp only [Option.toList_none, List.map_nil, Plan.writes_nil_bind]
    exact htail
  | some checkpoint => exact Follows.then (appendCheckpoint_follows _ _) fun _ => htail

theorem work_ofRun {s : WorkerState} {execution : WorkerExecutionEvidence WorkContent}
    (h : (work settings calls queued envelope s).result = .ok execution) :
    OfRun s.db (work settings calls queued envelope s).final := by
  obtain ⟨writes, -, htakes⟩ := (work_follows s ⟨rfl, rfl⟩ execution _).1 ⟨h, rfl⟩
  exact Raising.foldlM_invariant take_ofRun (⟨rfl, rfl⟩ : OfRun s.db s) htakes

theorem finalizeSingle_follows (execution : WorkerExecutionEvidence WorkContent) :
    Follows envelope db (finalizeSingle envelope execution)
      (planFinalize db execution) := by
  refine Durable.Follows.read_bind fun s hs => ?_
  unfold planFinalize
  cases execution.runResult with
  | none => exact Durable.Follows.pure ()
  | some result =>
    dsimp only
    rw [hs.2]
    split_ifs
    · refine Durable.Follows.write fun s _ t => ?_
      simp only [Durable.transact, take]
      cases finalizeSingleTaskRun s.db s.now s.db.runId (persistedResult result)
          (some envelope.runToken) with
      | error failure => simp [Except.map]
      | ok r => simp [Except.map]
    · exact Durable.Follows.pure ()

theorem settle_follows (execution : WorkerExecutionEvidence WorkContent) :
    Follows envelope db (settle calls envelope execution)
      (planSettle calls envelope db execution) := by
  have htail : Follows envelope db
      (do
        Durable.write fun s => { s with now := s.now + calls.cleanupTime }
        recordDispatchEvent envelope (some execution.status)
        finalizeSingle envelope execution)
      (do
        Plan.writes [.wait calls.cleanupTime]
        Plan.writes [eventRow db envelope (some execution.status)]
        planFinalize db execution) :=
    (wait_follows _).then fun _ => (recordDispatchEvent_follows _).then fun _ =>
      finalizeSingle_follows _
  unfold settle planSettle
  cases calls.markProducer with
  | none =>
    simp only [Option.getD_none, Plan.ask_ok_bind]
    cases calls.reclaimBudget with
    | none =>
      simp only [Option.getD_none, Plan.ask_ok_bind]
      exact htail
    | some answer => exact Follows.then (Durable.Follows.ask answer) fun _ => htail
  | some answer =>
    refine Follows.then (Durable.Follows.ask answer) fun _ => ?_
    cases calls.reclaimBudget with
    | none =>
      simp only [Option.getD_none, Plan.ask_ok_bind]
      exact htail
    | some answer => exact Follows.then (Durable.Follows.ask answer) fun _ => htail

/-- **The `try` block follows its plan.** -/
theorem try_follows : Follows envelope db
    (do
      let execution ← work settings calls queued envelope
      settle calls envelope execution
      return execution) (planExecution settings calls queued envelope db) :=
  work_follows.then fun execution => (settle_follows execution).then fun _ =>
    Durable.Follows.pure execution

end follows

/-! ### The status of the run -/

section status

variable {calls : WorkerCalls} {envelope : WorkerEnvelope} {s : WorkerState}
  {execution : WorkerExecutionEvidence WorkContent}

/-- A row is taken by a RUNNING run, which stays as it is. -/
theorem take_row {t : WorkerState} {evidenceKey : String} {kind : EvidenceKind}
    {payload : Payload WorkContent} {stage : String} {sequence : Option ℤ}
    (h : take envelope s (.row evidenceKey kind payload stage sequence) = .ok t) :
    t.db.status = .running := by
  obtain ⟨⟨id, db'⟩, happend, rfl⟩ := Raising.map_eq_ok.1 h
  obtain ⟨hrunning, -, -, happended⟩ := appendEvidence_eq_ok happend
  exact (appended_columns happended).2.2.trans hrunning

/-- So the run is RUNNING after a dispatch event. -/
theorem recordDispatchEvent_running {outcome : Option ExecutionStatus}
    (h : (recordDispatchEvent envelope outcome s).result = .ok ()) :
    (recordDispatchEvent envelope outcome s).final.db.status = .running := by
  obtain ⟨writes, hplan, htakes⟩ :=
    (recordDispatchEvent_follows outcome s ⟨rfl, rfl⟩ () _).1 ⟨h, rfl⟩
  obtain ⟨rfl, -⟩ := Prod.mk.inj (Except.ok.inj hplan)
  rw [Durable.takes_singleton] at htakes
  exact take_row htakes

/-- An exception before the terminal evidence leaves the run RUNNING. -/
theorem persistTerminalWorkerException_running {queued : QueuedTask} {runBase : String}
    (h : (persistTerminalWorkerException queued envelope runBase s).result = .ok execution) :
    (persistTerminalWorkerException queued envelope runBase s).final.db.status = .running := by
  unfold persistTerminalWorkerException at h ⊢
  rw [Durable.read_bind] at h ⊢
  obtain ⟨⟨⟩, happend, h⟩ := Durable.bind_result_eq_ok.1 h
  rw [Durable.bind_final_of_ok happend]
  obtain ⟨⟨⟩, hevent, -⟩ := Durable.bind_result_eq_ok.1 h
  rw [Durable.bind_final_of_ok hevent, Durable.pure_apply]
  dsimp only
  exact recordDispatchEvent_running hevent

/-- An exception after it does so too. -/
theorem persistPostExecutionFailure_running
    (h : (persistPostExecutionFailure envelope execution s).result = .ok ()) :
    (persistPostExecutionFailure envelope execution s).final.db.status = .running := by
  unfold persistPostExecutionFailure at h ⊢
  obtain ⟨_, happend, h⟩ := Durable.bind_result_eq_ok.1 h
  rw [Durable.bind_final_of_ok happend]
  exact recordDispatchEvent_running h

/-- A finalization with an agreeing result gives the run the status of the
evidence. -/
theorem finalizeSingleTaskRun_status {db db' : Database WorkContent} {now : Timestamp}
    {result : TaskRunResult} (hrunning : db.status = .running)
    (hagrees : resultAgrees execution result = true)
    (h : finalizeSingleTaskRun db now db.runId (persistedResult result) (some envelope.runToken) =
      .ok db') : db'.status = execution.status.runStatus := by
  simp only [finalizeSingleTaskRun, Raising.bind_eq_ok, hrunning, ne_eq, not_true_eq_false,
    if_false, Raising.pure_eq_ok] at h
  obtain ⟨status, hstatus, _, -, _, -, _, -, _, -, rfl⟩ := h
  change RunStatus.fromTaskState result.status = .ok status at hstatus
  simp only [resultAgrees, Bool.or_eq_true, Bool.and_eq_true, decide_eq_true_eq] at hagrees
  rcases hagrees with ⟨hexecution, hresult⟩ | ⟨hexecution, hresult⟩
  · rw [hresult] at hstatus
    rw [hexecution]
    exact (Except.ok.inj hstatus).symm
  · rw [hresult] at hstatus
    rw [hexecution]
    exact (Except.ok.inj hstatus).symm

/-- **A settled run has the status of the evidence when the run result agrees with it,
and is RUNNING otherwise.** -/
theorem settle_status (hone : s.db.taskIds.length = 1)
    (h : (settle calls envelope execution s).result = .ok ()) :
    (settle calls envelope execution s).final.db.status =
      if ∃ result, execution.runResult = some result ∧ resultAgrees execution result = true then
        execution.status.runStatus
      else .running := by
  obtain ⟨writes, hplan, htakes⟩ := (settle_follows execution s ⟨rfl, rfl⟩ () _).1 ⟨h, rfl⟩
  generalize (settle calls envelope execution s).final = final at htakes ⊢
  simp only [planSettle, Plan.bind_eq_ok] at hplan
  obtain ⟨first, _, _, hfirst, ⟨second, _, _, hsecond, ⟨wait, _, _, hwait, ⟨event, _, last, hevent,
    hlast, rfl⟩, rfl⟩, rfl⟩, rfl⟩ := hplan
  obtain rfl := Plan.writes_of_ask hfirst
  obtain rfl := Plan.writes_of_ask hsecond
  obtain ⟨rfl, -⟩ := Prod.mk.inj (Except.ok.inj hwait)
  obtain ⟨rfl, -⟩ := Prod.mk.inj (Except.ok.inj hevent)
  simp only [List.nil_append, Durable.takes_append, Durable.takes_singleton] at htakes
  obtain ⟨t, htime, u, hevent, htakes⟩ := htakes
  have hrunning : u.db.status = .running := take_row hevent
  unfold planFinalize at hlast
  cases hresult : execution.runResult with
  | none =>
    rw [hresult] at hlast
    obtain ⟨rfl, -⟩ := Prod.mk.inj (Except.ok.inj hlast)
    obtain rfl := Except.ok.inj htakes
    simpa using hrunning
  | some result =>
    rw [hresult] at hlast
    dsimp only at hlast
    by_cases hagrees : resultAgrees execution result = true
    · rw [if_pos ⟨hone, hagrees⟩] at hlast
      obtain ⟨rfl, -⟩ := Prod.mk.inj (Except.ok.inj hlast)
      rw [Durable.takes_singleton] at htakes
      obtain ⟨db', hfinalize, rfl⟩ := Raising.map_eq_ok.1 htakes
      rw [if_pos ⟨result, rfl, hagrees⟩]
      exact finalizeSingleTaskRun_status hrunning hagrees hfinalize
    · rw [if_neg fun hboth => hagrees hboth.2] at hlast
      obtain ⟨rfl, -⟩ := Prod.mk.inj (Except.ok.inj hlast)
      obtain rfl := Except.ok.inj htakes
      rw [if_neg (by simpa using hagrees)]
      exact hrunning

end status

/-- **What finalizes the run**: everyone who is asked answers, the evidence of the last
slice has a run result of its status, and the store takes the rows and the
finalization, one after the other. -/
def Finalizes (settings : WorkerSettings) (calls : WorkerCalls) (queued : QueuedTask)
    (envelope : WorkerEnvelope) (s : WorkerState) : Prop :=
  ∃ writes execution result,
    planExecution settings calls queued envelope s.db = .ok (writes, execution) ∧
      execution.runResult = some result ∧ resultAgrees execution result = true ∧
      ∃ t, Durable.takes (take envelope) writes s = .ok t

end QueuedTaskWorker

/-- The controller leaves a run of one task alone. -/
theorem Controller.advance_of_single {run : PersistedRun} (hone : run.dag.tasks.length = 1)
    (calls : ℕ → ControllerCalls) (depth : ℕ) (w : ControllerWorld) :
    (advance run calls depth w).final = w := by
  have honce : ∀ k, (advanceOnce run (calls k) depth w).final = w := by
    intro k
    cases depth with
    | zero => rfl
    | succ depth =>
      rw [advanceOnce, Durable.read_bind]
      split_ifs
      · rfl
      · rfl
  rw [advance, Durable.caught_bind_final, honce 0]
  cases (advanceOnce run (calls 0) depth w).result with
  | ok snapshot => rfl
  | error failure =>
    dsimp only
    split_ifs
    · exact honce 1
    · rfl

/-- A run of one task is finalized with a status, or some later call of `advance` on it
finalizes it so. -/
def Ended (db : Database WorkContent) (status : RunStatus) : Prop :=
  db.status = status ∨ ∃ (run : PersistedRun) (calls : ℕ → ControllerCalls) (depth : ℕ)
      (w : ControllerWorld), run.dag.tasks.length = 1 ∧ w.db.runId = db.runId ∧
    w.db.status = db.status ∧ (Controller.advance run calls depth w).final.db.status = status

/-- What is not finalized is not going to be. -/
theorem ended_iff {db : Database WorkContent} {status : RunStatus} :
    Ended db status ↔ db.status = status := by
  refine ⟨?_, Or.inl⟩
  rintro (h | ⟨run, calls, depth, w, hone, -, hstatus, hfinal⟩)
  · exact h
  · rw [Controller.advance_of_single hone, hstatus] at hfinal
    exact hfinal

section ends

open QueuedTaskWorker

variable {settings : WorkerSettings} {calls : WorkerCalls} {queued : QueuedTask}
  {envelope : WorkerEnvelope} {runBase : String} {s : WorkerState}
  {execution : WorkerExecutionEvidence WorkContent}

/-- A plan that is carried out gets through to the evidence and what follows it. -/
theorem QueuedTaskWorker.Finalizes.settled (h : Finalizes settings calls queued envelope s) :
    ∃ answer result, (work settings calls queued envelope s).result = .ok answer ∧
      (settle calls envelope answer (work settings calls queued envelope s).final).result =
        .ok () ∧
      answer.runResult = some result ∧ resultAgrees answer result = true := by
  obtain ⟨writes, answer, result, hplan, hresult, hagrees, t, htakes⟩ := h
  obtain ⟨htry, -⟩ := (try_follows s ⟨rfl, rfl⟩ answer t).2 ⟨writes, hplan, htakes⟩
  obtain ⟨answer', hwork, htry⟩ := Durable.bind_result_eq_ok.1 htry
  obtain ⟨⟨⟩, hsettle, htry⟩ := Durable.bind_result_eq_ok.1 htry
  obtain rfl := Except.ok.inj htry
  exact ⟨_, result, hwork, hsettle, hresult, hagrees⟩

/-- A backend that returns the evidence of a success. -/
def succeedingCalls : WorkerCalls where
  resolveBase := .ok (sampleOid '0')
  backend _ request := .ok
    { dispatchId := request.dispatchId
      runId := request.runId
      taskId := request.task.taskId
      status := .succeeded
      baseCommit := request.baseCommit
      commitSha := some (sampleOid '1')
      content := .execution ⟨some "devflow/a", none, none,
        some ⟨"a", .succeeded, [], none, [], [], [], [], ["app.py"], none, none, Or.inl rfl⟩, []⟩
      success_commit := succeeded_sampleOid_one
      failure_commit := succeeded_not_failed_sampleOid_one }
  backendTime _ := 0
  elapsedMs _ := 0
  remainingTokens := none
  markProducer := some (.ok ())
  reclaimBudget := some (.ok ())
  cleanupTime := 0

/-- The call, and the status that the run then has. -/
theorem succeedingCalls_facts :
    ((execute ⟨3, 1000, 1⟩ succeedingCalls resumedTask resumedEnvelope (sampleOid '0')
        resumedWorker).result.map fun execution => execution.status) = .ok .succeeded ∧
      (execute ⟨3, 1000, 1⟩ succeedingCalls resumedTask resumedEnvelope (sampleOid '0')
        resumedWorker).final.db.status = .succeeded := by
  decide +kernel

end ends

end DevFlow
