/-
# Concurrent recoveries of one run

`api/operator.py` (`get_run_recovery_preview`, `recover_interrupted_run`,
`_existing_recovery_launch`) with the stores it calls: any number of calls on one source
run, whose transactions interleave with those of the workers of that run and with other
requests.  A call that crashes loses its connection and with it the advisory lock.

`recoverInterruptedRun` of `DerivedRuns` is one call on its own up to the link; here its
reads are the transactions of the source, and the dispatches that follow are there as
well.  The tasks that `asyncio.gather` hands to the dispatcher at once are taken in their order.

| source | here |
| --- | --- |
| `recovery_lock` | `acquireLock`, `releaseLock` |
| `inspect` | `inspectRun`: two statements and the projection |
| `get_run_recovery_preview` | `recoveryObservation`, `existingRecovery` |
| `recover_interrupted_run` | `recoverRun` |

Two facts about any run of such calls follow from what one transaction may do
(`Respects`): a recovery that was linked stays the only one, and the tasks that are
dispatched again were left over by an inspection.
-/

import DevFlow.Api.ProductInvariant
import DevFlow.Api.RecoveryInspection
import DevFlow.Library.Interleaving
import DevFlow.Models.DagQueries

namespace DevFlow

open Interleaving (Script)

/-- The runs of a project, what recovery reads and writes of the source run beside them, the
tokens and the Git mutation of its leases, the call that holds the advisory lock, and the
tasks that calls handed to the dispatcher.  `claimed` records the tasks that an inspection
left to a recovery; no code reads it. -/
structure RecoveryWorld where
  product : ProductWorld
  columns : RecoveryColumns
  createdAt : RuntimeEventRow WorkContent → Timestamp
  installed : List (String × UUID)
  mutation : Option (String × UUID)
  lock : Option ℕ
  dispatched : List (UUID × String)
  claimed : List String

/-- The configuration of the service and the run that is recovered. -/
structure RecoveryService where
  store : RunRecoveryStore
  dumps : ModelDumps
  collation : Collation
  /-- A development session store is configured. -/
  hasSessions : Bool
  sourceRunId : UUID

/-- One call of `recover_interrupted_run`: the ids it draws, and what others answer. -/
structure RecoveryCall where
  answers : LaunchAnswers
  /-- The project and its workspace are found. -/
  workspace : Except Failure Unit
  newSessionId : UUID
  newRunId : UUID
  /-- The dispatcher, where it raises no broker error: these are caught. -/
  dispatch : String → Except Failure Unit

/-- The rows of the source run that an inspection reads. -/
def RecoveryWorld.rows (w : RecoveryWorld) (run : ProductRun) : RecoveryRows where
  db := run.rows.db
  columns := { w.columns with baseCommit := run.baseCommit, recoveryRunId := run.recoveryRunId }
  createdAt := w.createdAt

/-- A transaction on the runs and sessions. -/
def onProduct {α : Type} (p : Durable.Prog ProductWorld Failure α) :
    Script RecoveryWorld Failure α :=
  .atomic (Durable.zoom RecoveryWorld.product (fun w product => { w with product }) p)

/-- A read of one run. -/
def readRun {α : Type} (runId : UUID) (f : ProductRun → α) : Script RecoveryWorld Failure α :=
  .read fun w => (w.product.loadRun runId).map f

/-- `recovery_lock`, entered. -/
def acquireLock (call : ℕ) : Script RecoveryWorld Failure Unit :=
  .await (fun w => w.lock = none) fun w => { w with lock := some call }

/-- `recovery_lock`, left, or its connection lost. -/
def releaseLock (call : ℕ) (w : RecoveryWorld) : RecoveryWorld :=
  if w.lock = some call then { w with lock := none } else w

/-- `_dispatch_initial_task`. -/
def dispatchInitialTask (runId : UUID) (taskId : String) : Script RecoveryWorld Failure Unit :=
  .await (fun _ => true) fun w => { w with dispatched := w.dispatched ++ [(runId, taskId)] }

namespace RecoveryService

variable (service : RecoveryService)

/-- The tasks that an inspection at this moment leaves to a recovery. -/
def left (w : RecoveryWorld) : List String :=
  match w.product.loadRun service.sourceRunId with
  | .error _ => []
  | .ok run =>
    match service.store.inspect service.dumps service.collation (w.rows run) run.rows.db
        run.rows.now service.sourceRunId with
    | .error _ => []
    | .ok observation =>
      if observation.displayStatus = .recoveryRequired then
        run.dag.taskIds.filter fun taskId => taskId ∉ observation.completedTaskIds
      else []

/-- The first statement of `inspect`, with the time at which it runs. -/
def readRows : Script RecoveryWorld Failure (RecoveryRows × Timestamp) :=
  .transact (fun w => { w with claimed := w.claimed ++ service.left w }) fun w =>
    (w.product.loadRun service.sourceRunId).map fun run => (w.rows run, run.rows.now)

/-- `inspect`. -/
def inspectRun : Script RecoveryWorld Failure RunRecoveryObservation := do
  let (rows, now) ← service.readRows
  let after ← readRun service.sourceRunId fun run => run.rows.db
  let observation ← Script.lift
    (service.store.inspect service.dumps service.collation rows after now service.sourceRunId)
  Script.await (fun _ => true) fun w =>
    { w with columns := RunRecoveryStore.persistProjection w.columns observation }
  return observation

/-- `get_run_recovery_preview` up to the link that it reads last: the observation and
`current_commit`. -/
def recoveryObservation (call : RecoveryCall) :
    Script RecoveryWorld Failure (RunRecoveryObservation × String) := do
  let observation ← service.inspectRun
  let previous ← readRun service.sourceRunId id
  Script.raiseIf (previous.dag.tasks.length ≠ observation.taskCount)
    ⟨.persistenceConflict, "旧运行的持久化任务图不完整，不能安全恢复"⟩
  Script.lift call.workspace
  let (currentCommit, commits) ← Script.read fun w => .ok (w.product.head, w.product.commits)
  Script.raiseIf (observation.baseCommit ∉ commits.map GitCommit.oid)
    ⟨.persistenceConflict, "旧运行的基线提交已不在当前仓库，不能安全恢复"⟩
  Script.lift call.answers.preflight
  return (observation, currentCommit)

/-- `recovered_run_id`. -/
def existingRecovery : Script RecoveryWorld Failure (Option UUID) :=
  .read fun w => .ok ((w.product.runs.find? fun run => run.runId = service.sourceRunId).bind
    ProductRun.recoveryRunId)

/-- `_existing_recovery_launch`. -/
def existingRecoveryLaunch (recoveredRunId : UUID) : Script RecoveryWorld Failure UUID := do
  let dag ← readRun recoveredRunId ProductRun.dag
  let _ ← Script.lift (dag.readyTaskIds [] [])
  return recoveredRunId

/-- The session that the recovery is attached to: that of the source run, brought up to
date, or a new one with the remaining graph as its plan. -/
def recoverySession (call : RecoveryCall) (previous : ProductRun) (dag : TaskDAG) :
    Script RecoveryWorld Failure (Option UUID) := do
  if service.hasSessions then
    match ← readRun service.sourceRunId ProductRun.sessionId with
    | some sessionId =>
      onProduct (captureRunProgress sessionId previous)
      return some sessionId
    | none =>
      onProduct (createSession call.newSessionId previous.baseCommit)
      onProduct (recordPlan call.newSessionId dag)
      return some call.newSessionId
  else return none

/-- `attach_run`, or `set_resumed_from` of a column that nothing here reads. -/
def attachRecovery (call : RecoveryCall) (sessionId : Option UUID) :
    Script RecoveryWorld Failure Unit :=
  match sessionId with
  | some sessionId => onProduct (attachRun sessionId call.newRunId)
  | none => readRun call.newRunId fun _ => ()

/-- `recover_interrupted_run` from the remaining graph on. -/
def launchRecovery (call : RecoveryCall) (previous : ProductRun) (dag : TaskDAG)
    (currentCommit : String) : Script RecoveryWorld Failure UUID := do
  let sessionId ← service.recoverySession call previous dag
  onProduct (startRun call.answers call.newRunId dag currentCommit)
  Script.lift call.answers.initializeBudget
  attachRecovery call sessionId
  onProduct (linkRecovery service.sourceRunId call.newRunId)
  let _ ← readRun call.newRunId ProductRun.dag
  let ready ← Script.lift (dag.readyTaskIds [] [])
  Script.raiseIf (ready = [])
    ⟨.persistenceCorruption, "persisted TaskDAG has no initial READY task"⟩
  Script.each (dispatchInitialTask call.newRunId) ready
  Script.lift (ready.forM call.dispatch)
  return call.newRunId

/-- `recover_interrupted_run`, under the lock. -/
def recoverLocked (call : RecoveryCall) : Script RecoveryWorld Failure UUID := do
  let (observation, currentCommit) ← service.recoveryObservation call
  match ← service.existingRecovery with
  | some existing => existingRecoveryLaunch existing
  | none =>
    Script.raiseIf (observation.displayStatus ≠ .recoveryRequired)
      ⟨.persistenceConflict, "该运行当前不满足新建恢复运行条件"⟩
    let previous ← readRun service.sourceRunId id
    match ← Script.lift (previous.dag.remaining observation.completedTaskIds) with
    | none => Script.lift (.error ⟨.persistenceConflict, "该运行没有未完成工作包可恢复"⟩)
    | some dag => service.launchRecovery call previous dag currentCommit

/-- `recover_interrupted_run`. -/
def recoverRun (i : ℕ) (call : RecoveryCall) : Script RecoveryWorld Failure UUID := do
  acquireLock i
  (service.recoverLocked call).ensuring (releaseLock i)

end RecoveryService

/-! ## What one transaction may do -/

/-- The source run is linked to that recovery. -/
def RecoveryWorld.Linked (w : RecoveryWorld) (sourceRunId recoveredRunId : UUID) : Prop :=
  ∃ run ∈ w.product.runs, run.runId = sourceRunId ∧ run.recoveryRunId = some recoveredRunId

/-- The task holds a live lease in the source run. -/
def RecoveryWorld.Leased (w : RecoveryWorld) (sourceRunId : UUID) (taskId : String) : Prop :=
  ∃ run ∈ w.product.runs, run.runId = sourceRunId ∧
    ∃ lease, run.rows.db.lease taskId = some lease ∧ lease.Live run.rows.now

/-- The run has no task but those that an inspection left over. -/
def RecoveryWorld.Leftover (w : RecoveryWorld) (runId : UUID) : Prop :=
  ∃ run ∈ w.product.runs, run.runId = runId ∧ ∀ t ∈ run.dag.taskIds, t ∈ w.claimed

/-- Run ids are unique. -/
def RecoveryWorld.Keyed (w : RecoveryWorld) : Prop :=
  Tables.Keyed ProductRun.runId w.product.runs

/-- The runs stay, with their graphs. -/
def RunsKept (w w' : ProductWorld) : Prop :=
  ∀ run ∈ w.runs, ∃ run' ∈ w'.runs, run'.runId = run.runId ∧ run'.dag = run.dag

/-- **What any transaction may do**, of a call, of a worker or of another request: the
link stays once it is there, and only tasks of the linked recovery are dispatched, all
of which were left over. -/
structure Respects (sourceRunId : UUID) (w w' : RecoveryWorld) : Prop where
  keyed : w.Keyed → w'.Keyed
  kept : RunsKept w.product w'.product
  claimed : w.claimed ⊆ w'.claimed
  linked : ∀ r, w.Keyed → w.Linked sourceRunId r → w'.Linked sourceRunId r
  dispatched : ∀ d ∈ w'.dispatched, d ∈ w.dispatched ∨
    w'.Linked sourceRunId d.1 ∧ w'.Leftover d.1

/-- What a transaction of a call does beside: it gives no task of the source run a lease. -/
structure Guards (service : RecoveryService) (w w' : RecoveryWorld) : Prop
    extends Respects service.sourceRunId w w' where
  leased : ∀ t, w'.Leased service.sourceRunId t → w.Leased service.sourceRunId t
  installed : w'.installed = w.installed

section Transactions

variable {service : RecoveryService} {w : RecoveryWorld} {sourceRunId : UUID}

theorem Guards.refl (service : RecoveryService) (w : RecoveryWorld) : Guards service w w where
  keyed := id
  kept := fun run hrun => ⟨run, hrun, rfl, rfl⟩
  claimed := List.Subset.refl _
  linked := fun _ _ hlinked => hlinked
  dispatched := fun _ hd => Or.inl hd
  leased := fun _ hleased => hleased
  installed := rfl

/-- Only the runs of the product matter. -/
theorem Guards.congr_runs {product product' : ProductWorld}
    (h : Guards service w { w with product }) (hruns : product'.runs = product.runs) :
    Guards service w { w with product := product' } where
  keyed := by
    intro hkeyed
    show Tables.Keyed _ product'.runs
    rw [hruns]
    exact h.keyed hkeyed
  kept := by
    intro run hrun
    show ∃ run' ∈ product'.runs, _
    rw [hruns]
    exact h.kept run hrun
  claimed := List.Subset.refl _
  linked := by
    intro r hkeyed hlinked
    show ∃ run ∈ product'.runs, _
    rw [hruns]
    exact h.linked r hkeyed hlinked
  dispatched := fun _ hd => Or.inl hd
  leased := by
    rintro t ⟨run, hrun, hleased⟩
    exact h.leased t ⟨run, hruns ▸ hrun, hleased⟩
  installed := rfl

/-- A change of one run that keeps its id, its graph and a link of the source run. -/
theorem Respects.mapRun {runId : UUID} {change : ProductRun → ProductRun}
    (hid : ∀ run, (change run).runId = run.runId) (hdag : ∀ run, (change run).dag = run.dag)
    (hlink : w.Keyed → ∀ run ∈ w.product.runs, run.runId = runId → run.runId = sourceRunId →
      ∀ r, run.recoveryRunId = some r → (change run).recoveryRunId = some r) :
    Respects sourceRunId w { w with product := w.product.mapRun runId change } where
  keyed := by
    intro hkeyed
    show ((w.product.mapRun runId change).runs.map ProductRun.runId).Nodup
    rwa [ProductWorld.mapRun_ids hid]
  kept := by
    intro run hrun
    refine ⟨_, List.mem_map_of_mem hrun, ?_⟩
    split_ifs
    · exact ⟨hid run, hdag run⟩
    · exact ⟨rfl, rfl⟩
  claimed := List.Subset.refl _
  linked := by
    rintro r hkeyed ⟨run, hrun, hsource, hlinked⟩
    refine ⟨_, List.mem_map_of_mem hrun, ?_⟩
    split_ifs with hchanged
    · exact ⟨(hid run).trans hsource, hlink hkeyed run hrun hchanged hsource r hlinked⟩
    · exact ⟨hsource, hlinked⟩
  dispatched := fun _ hd => Or.inl hd

/-- A change that also keeps the rows of the source run. -/
theorem Guards.mapRun {runId : UUID} {change : ProductRun → ProductRun}
    (hid : ∀ run, (change run).runId = run.runId) (hdag : ∀ run, (change run).dag = run.dag)
    (hrows : ∀ run, run.runId = runId → run.runId = service.sourceRunId →
      (change run).rows = run.rows)
    (hlink : w.Keyed → ∀ run ∈ w.product.runs, run.runId = runId →
      run.runId = service.sourceRunId → ∀ r, run.recoveryRunId = some r →
        (change run).recoveryRunId = some r) :
    Guards service w { w with product := w.product.mapRun runId change } where
  toRespects := .mapRun hid hdag hlink
  leased := by
    rintro t ⟨run, hrun, hsource, lease, hlease, hlive⟩
    obtain ⟨old, hold, rfl⟩ := ProductWorld.mem_mapRun hrun
    refine ⟨old, hold, ?_⟩
    split_ifs at hsource hlease hlive with hchanged
    · rw [hid] at hsource
      rw [hrows old hchanged hsource] at hlease hlive
      exact ⟨hsource, lease, hlease, hlive⟩
    · exact ⟨hsource, lease, hlease, hlive⟩
  installed := rfl

/-- A new run, in which nothing is leased. -/
theorem Guards.addRun {run : ProductRun} (hfresh : run.runId ∉ w.product.runs.map ProductRun.runId)
    (hidle : ∀ t, run.rows.db.lease t = none) :
    Guards service w { w with product := w.product.addRun run } where
  keyed := fun hkeyed => List.nodup_cons.2 ⟨hfresh, hkeyed⟩
  kept := fun old hold => ⟨old, List.mem_cons_of_mem _ hold, rfl, rfl⟩
  claimed := List.Subset.refl _
  linked := by
    rintro r - ⟨old, hold, hlinked⟩
    exact ⟨old, List.mem_cons_of_mem _ hold, hlinked⟩
  dispatched := fun _ hd => Or.inl hd
  leased := by
    rintro t ⟨old, hold, hsource, lease, hlease, hlive⟩
    rcases List.mem_cons.1 hold with rfl | hold
    · rw [hidle] at hlease
      cases hlease
    · exact ⟨old, hold, hsource, lease, hlease, hlive⟩
  installed := rfl

/-- Nothing is written but the lock, the projection or the claims. -/
theorem Guards.of_product_eq {w' : RecoveryWorld} (hproduct : w'.product = w.product)
    (hdispatched : w'.dispatched = w.dispatched) (hclaimed : w.claimed ⊆ w'.claimed)
    (hinstalled : w'.installed = w.installed) : Guards service w w' where
  keyed := by
    intro hkeyed
    show Tables.Keyed _ w'.product.runs
    rwa [hproduct]
  kept := by
    rw [hproduct]
    exact (Guards.refl service w).kept
  claimed := hclaimed
  linked := by
    rintro r - hlinked
    show ∃ run ∈ w'.product.runs, _
    rwa [hproduct]
  dispatched := fun d hd => Or.inl (hdispatched ▸ hd)
  leased := by
    rintro t hleased
    show ∃ run ∈ w.product.runs, _
    rwa [← hproduct]
  installed := hinstalled

theorem releaseLock_guards (i : ℕ) (w : RecoveryWorld) : Guards service w (releaseLock i w) := by
  unfold releaseLock
  split_ifs
  · exact .of_product_eq rfl rfl (List.Subset.refl _) rfl
  · exact .refl service w

end Transactions

end DevFlow
