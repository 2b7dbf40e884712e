/-
# Planning from torn reads

`DAGRunReconciler.reconcile_run` and the operator's planner read the run row, the
evidence and then the leases, each in a statement of its own, while workers
acquire, write evidence and release.  The plan is built from facts of different
moments.

Evidence is never taken back and a task that is UNOWNED was never leased, so what
an older snapshot says of an execution is still so when the leases are read, and
an attempt exists only for a task whose dependencies have succeeded.  What an old
snapshot does not say may have changed: a lease that is RELEASED by now may have
the terminal evidence that the snapshot does not show.
-/

import DevFlow.Models.DagOrder
import DevFlow.Runtime.Classification
import DevFlow.Runtime.ReconcileProgress

namespace DevFlow

open Ledger (OfWorker)

variable {X : Type}

/-- What `load_run` returns of a run. -/
structure RunSnapshot (X : Type) where
  status : RunStatus
  evidence : List (EvidenceRow X)
deriving DecidableEq

/-- The run with its graph, and what the planners in progress have read. -/
structure ReadWorld (X : Type) where
  delivery : DeliveryWorld X
  dag : TaskDAG
  /-- Run rows of calls of `load_run` that have not read the evidence yet. -/
  rows : List RunStatus
  /-- Snapshots of planners that have not read the leases yet. -/
  snapshots : List (RunSnapshot X)
  /-- Tasks that a plan has named as candidates. -/
  candidates : List String

/-- A step of the workers, the dispatchers and the planners. -/
inductive Read (X : Type)
  /-- `_dispatch_initial_task` for one of the tasks that are ready at the start. -/
  | dispatchInitial (taskId : String) (dispatchId : UUID)
  /-- The first statement of `load_run`. -/
  | readRun
  /-- Its last statement. -/
  | readEvidence (status : RunStatus)
  /-- `list_task_leases`, the classification and `build_plan`. -/
  | plan (snapshot : RunSnapshot X) (resolve : String → Except Failure TaskExecutionBase)
  /-- `reconcile` of a candidate up to its prepared attempt. -/
  | reconcile (taskId : String) (freshId : UUID)
  /-- Somebody finalizes the run. -/
  | finalize (status : RunStatus)
  /-- Any other step of the dispatchers, the broker and the workers. -/
  | other (d : Delivery X)

/-- The plan that is built from a snapshot and the leases as they are now. -/
def planFrom (w : ReadWorld X) (s : RunSnapshot X)
    (resolve : String → Except Failure TaskExecutionBase) :
    Except Failure RunReconciliationPlan := do
  let leases ← listTaskLeases w.delivery.db w.delivery.now
  let recovery ← classifyRecovery w.delivery.db.runId s.status (snapshotTaskIds w.delivery.db)
    s.evidence leases
  buildPlan w.delivery.db.runId s.status (snapshotTaskIds w.delivery.db) w.dag recovery resolve

/-- `dispatch` and `prepare` have steps of their own. -/
def Delivery.isWork : Delivery X → Bool
  | .dispatch _ _ | .prepare _ _ => false
  | _ => true

variable [DecidableEq X]

/-- A step of `Delivery` in the larger world. -/
def ReadWorld.lift (w : ReadWorld X) (d : Delivery X) :
    Option (Except Failure Unit × ReadWorld X) :=
  (d.perform w.delivery).map fun r => (r.1, { w with delivery := r.2 })

/-- One step. -/
def Read.perform (w : ReadWorld X) : Read X → Option (Except Failure Unit × ReadWorld X)
  | .dispatchInitial taskId dispatchId =>
    if taskId ∈ w.dag.initialReady then w.lift (.dispatch taskId dispatchId) else none
  | .readRun => some (.ok (), { w with rows := w.delivery.db.status :: w.rows })
  | .readEvidence status =>
    if status ∉ w.rows then none
    else some (.ok (), { w with
      rows := w.rows.erase status
      snapshots := ⟨status, w.delivery.db.evidence⟩ :: w.snapshots })
  | .plan s resolve =>
    if s ∉ w.snapshots then none
    else match planFrom w s resolve with
      | .ok built => some (.ok (), { w with candidates := w.candidates ++ built.reconcileTaskIds })
      | .error failure => some (.error failure, w)
  | .reconcile taskId freshId =>
    if taskId ∈ w.candidates then
      { w with candidates := w.candidates.erase taskId }.lift (.prepare taskId freshId)
    else none
  | .finalize status =>
    if w.delivery.db.status ≠ .running ∨ status = .running then none
    else some (.ok (), { w with
      delivery := { w.delivery with db := { w.delivery.db with status } } })
  | .other d => if d.isWork then w.lift d else none

/-- The transition system. -/
def readStep (w : ReadWorld X) (r : Read X) (answer : Except Failure Unit) (w' : ReadWorld X) :
    Prop :=
  r.perform w = some (answer, w')

omit [DecidableEq X]

/-- The world of a run that has just been created. -/
def ReadWorld.created (X : Type) (runId : UUID) (dag : TaskDAG) (now : Timestamp) :
    ReadWorld X where
  delivery := DeliveryWorld.created X runId dag.taskIds now
  dag := dag
  rows := []
  snapshots := []
  candidates := []

/-- The task has accepted SUCCEEDED worker evidence. -/
def Succeeded (db : Database X) (t : String) : Prop :=
  ∃ row ∈ workerSideRows db t, ∃ execution, row.payload = .workerExecution execution ∧
    execution.status = .succeeded

/-- All dependencies of the task have. -/
def DependenciesSucceeded (dag : TaskDAG) (db : Database X) (t : String) : Prop :=
  ∀ node ∈ dag.tasks, node.taskId = t → ∀ d ∈ node.dependsOn, Succeeded db d

/-- **A right plan:** planning finds no corruption; every candidate is a task
without a live lease whose dependencies have succeeded; and a recovery gap is
reported only of a released lease without terminal evidence. -/
structure RightPlan (w : ReadWorld X) (s : RunSnapshot X)
    (resolve : String → Except Failure TaskExecutionBase) : Prop where
  sound : ∀ failure, planFrom w s resolve = .error failure → failure.kind ≠ .persistenceCorruption
  candidates : ∀ plan, planFrom w s resolve = .ok plan → ∀ t ∈ plan.reconcileTaskIds,
    leaseState (w.delivery.db.lease t) w.delivery.now ≠ .active ∧
      DependenciesSucceeded w.dag w.delivery.db t
  gaps : ∀ plan, planFrom w s resolve = .ok plan → ∀ record ∈ plan.tasks,
    record.frontierState = .blockedRecoveryGap →
      ∃ lease, w.delivery.db.lease record.taskId = some lease ∧ lease.releasedAt ≠ none ∧
        ¬Executed w.delivery.db record.taskId lease.dispatchId

/-- **Nothing was missed:** the snapshot shows the terminal evidence of every lease
that is RELEASED now, and the resolver finds no corruption in it for a task that
may be dispatched. -/
structure NothingMissed (w : ReadWorld X) (s : RunSnapshot X)
    (resolve : String → Except Failure TaskExecutionBase) : Prop where
  evidence : ∀ t lease, w.delivery.db.lease t = some lease → lease.releasedAt ≠ none →
    ∀ row ∈ workerSideRows w.delivery.db t, row.workerKey = some (lease.dispatchId, none) →
      row ∈ s.evidence
  resolver : ∀ t ∈ w.dag.taskIds, DependenciesSucceeded w.dag w.delivery.db t →
    leaseState (w.delivery.db.lease t) w.delivery.now = .unowned ∨
      leaseState (w.delivery.db.lease t) w.delivery.now = .expired →
    ∀ failure, resolve t = .error failure → failure.kind ≠ .persistenceCorruption

/-- What an older state of the tables still tells of the present one. -/
structure Since (db db' : Database X) : Prop where
  runId : db'.runId = db.runId
  taskIds : db'.taskIds = db.taskIds
  evidence : ∀ row ∈ db.evidence, row ∈ db'.evidence
  unowned : ∀ t, db'.lease t = none → db.lease t = none

namespace Since

variable {db db' db'' : Database X}

theorem refl (db : Database X) : Since db db :=
  ⟨rfl, rfl, fun _ hrow => hrow, fun _ hnone => hnone⟩

theorem trans (h : Since db db') (h' : Since db' db'') : Since db db'' :=
  ⟨h'.runId.trans h.runId, h'.taskIds.trans h.taskIds,
    fun row hrow => h'.evidence row (h.evidence row hrow),
    fun t hnone => h.unowned t (h'.unowned t hnone)⟩

theorem of_writes {w : DeliveryWorld X} (h : StepWrites w db') : Since w.db db' := by
  refine ⟨?_, taskIds_of_writes h, (Keeps.of_writes h).evidence, fun t hnone => ?_⟩
  · cases h <;> rfl
  · cases h with
    | acquired t' lease timeline =>
      by_cases ht : t = t'
      · subst ht
        simp [Database.setLease] at hnone
      · rwa [← w.db.setLease_lease_of_ne lease ht]
    | touched t' lease lease' timeline =>
      by_cases ht : t = t'
      · subst ht
        simp [Database.setLease] at hnone
      · rwa [← w.db.setLease_lease_of_ne lease' ht]
    | _ => exact hnone

theorem succeeded (h : Since db db') {t : String} (hsucceeded : Succeeded db t) :
    Succeeded db' t := by
  obtain ⟨row, hrow, hexecution⟩ := hsucceeded
  obtain ⟨hmem, hof⟩ := mem_workerSideRows.1 hrow
  exact ⟨row, mem_workerSideRows.2 ⟨h.evidence row hmem, hof⟩, hexecution⟩

theorem dependenciesSucceeded (h : Since db db') {dag : TaskDAG} {t : String}
    (hdeps : DependenciesSucceeded dag db t) : DependenciesSucceeded dag db' t :=
  fun node hnode htask d hd => h.succeeded (hdeps node hnode htask d hd)

end Since

/-- Worker-side rows are of tasks of the run. -/
def EvidenceScoped (db : Database X) : Prop :=
  ∀ row ∈ db.evidence, row.kind = .workerExecution ∨ row.kind = .dispatchEvent →
    ∃ t ∈ db.taskIds, row.taskId = some t

/-- Which rows a step of `Delivery` may add: attempts of the task that it dispatches
or prepares, and worker-side evidence of a task of the run. -/
structure RowsFrom (db : Database X) (d : Delivery X) (db' : Database X) : Prop where
  attempts : ∀ row ∈ db'.attempts, (∃ old ∈ db.attempts, old.taskId = row.taskId) ∨
    ∃ t id, (d = .dispatch t id ∨ d = .prepare t id) ∧ row.taskId = strip t
  evidence : ∀ row ∈ db'.evidence, row ∈ db.evidence ∨
    (row.kind = .workerExecution ∨ row.kind = .dispatchEvent →
      ∃ t ∈ db.taskIds, row.taskId = some (strip t))

namespace RowsFrom

variable {db db' : Database X} {d : Delivery X}

theorem of_eq (hattempts : db'.attempts = db.attempts) (hevidence : db'.evidence = db.evidence) :
    RowsFrom db d db' :=
  ⟨fun row hrow => Or.inl ⟨row, hattempts ▸ hrow, rfl⟩, fun _ hrow => Or.inl (hevidence ▸ hrow)⟩

/-- The step writes a new attempt of its own task. -/
theorem insertAttempt {row : DispatchAttemptRow} {t : String} {id : UUID}
    (hd : d = .dispatch t id ∨ d = .prepare t id) (hrow : row.taskId = strip t) :
    RowsFrom db d (db.insertAttempt row) := by
  refine ⟨fun row' hrow' => ?_, fun _ hrow => Or.inl hrow⟩
  rcases List.mem_append.1 hrow' with hold | hnew
  · exact Or.inl ⟨row', hold, rfl⟩
  · obtain rfl := List.mem_singleton.1 hnew
    exact Or.inr ⟨t, id, hd, hrow⟩

theorem updateAttempt (dispatchId : UUID) (state : AttemptState) (updatedAt : Timestamp) :
    RowsFrom db d (db.updateAttempt dispatchId fun row => { row with state, updatedAt }) := by
  refine ⟨fun row hrow => ?_, fun _ hrow => Or.inl hrow⟩
  obtain ⟨old, hold, rfl⟩ := List.mem_map.1 hrow
  refine Or.inl ⟨old, hold, ?_⟩
  split_ifs <;> rfl

theorem of_appended {evidenceKey : String} {kind : EvidenceKind} {payload : Payload X}
    {taskId stage : Option String} {sequence : Option ℤ} {id : ℕ}
    (h : Appended db evidenceKey kind payload (taskId.map strip) stage sequence id db')
    (hscope : kind = .workerExecution ∨ kind = .dispatchEvent →
      ∃ t ∈ db.taskIds, taskId = some t) : RowsFrom db d db' := by
  rcases h with ⟨_, -, -, -, -, rfl⟩ | ⟨-, timeline, -, rfl⟩
  · exact of_eq rfl rfl
  · refine ⟨fun row hrow => Or.inl ⟨row, hrow, rfl⟩, fun row hrow => ?_⟩
    rcases List.mem_append.1 hrow with hold | hnew
    · exact Or.inl hold
    · obtain rfl := List.mem_singleton.1 hnew
      refine Or.inr fun hkind => ?_
      obtain ⟨t, ht, rfl⟩ := hscope hkind
      exact ⟨t, ht, rfl⟩

variable [DecidableEq X] {w w' : DeliveryWorld X} {answer : Except Failure Unit}

theorem of_workerAppend {holder : Holder} {phase : Option DispatchPhase} {kind : EvidenceKind}
    {payload : Payload X} (hmember : holder.message.taskId ∈ w.db.taskIds)
    (h : workerAppend w.db w.now holder phase kind payload = .ok db') : RowsFrom w.db d db' := by
  obtain ⟨id, happend⟩ := Raising.map_snd_eq_ok.1 h
  exact of_appended (appendEvidence_eq_ok happend).2.2.2 fun _ => ⟨_, hmember, rfl⟩

omit [DecidableEq X] in
theorem of_commit {w₁ : DeliveryWorld X} {outcome : Except Failure (Database X)}
    (hdb : w₁.db = w.db) (h : ∀ db, outcome = .ok db → RowsFrom w.db d db) :
    RowsFrom w.db d (w₁.commit outcome).2.db := by
  cases outcome with
  | ok db => exact h db rfl
  | error failure =>
    show RowsFrom w.db d w₁.db
    rw [hdb]
    exact of_eq rfl rfl

omit [DecidableEq X] in
theorem of_resolve {dispatchId runId : UUID} {taskName : String}
    {repeats : AttemptState → Option Bool} {differs rewrites : String} {resolved : AttemptState}
    (h : resolveAttempt w.db w.now dispatchId runId taskName repeats differs rewrites resolved =
      .ok db') : RowsFrom w.db d db' := by
  rcases resolveAttempt_eq_ok h with rfl | ⟨row, -, -, -, -, rfl⟩
  · exact of_eq rfl rfl
  · exact updateAttempt _ _ _

/-- **The rows that a step may add.** -/
theorem of_step (hsafe : w.Safe) (hstep : deliveryStep w d answer w') : RowsFrom w.db d w'.db := by
  unfold deliveryStep at hstep
  cases d with
  | dispatch taskId dispatchId =>
    have hrows : ∀ created db, dispatchTask w.db w.now dispatchId taskId = .ok (created, db) →
        RowsFrom w.db (.dispatch taskId dispatchId) db := by
      intro created db h
      simp only [dispatchTask, Raising.bind_eq_ok, Raising.pure_eq_ok, Prod.mk.injEq] at h
      obtain ⟨_, _, _, _, ⟨⟨row, created⟩, db'⟩, hbegin, _, _, rfl, rfl⟩ := h
      rcases beginInitialAttempt_eq_ok hbegin with ⟨-, rfl⟩ | ⟨-, -, -, -, -, rfl, -, rfl⟩
      · exact of_eq rfl rfl
      · exact insertAttempt (Or.inl rfl) rfl
    simp only [Delivery.perform] at hstep
    split at hstep
    · rename_i db hdispatch
      obtain ⟨-, rfl⟩ := Prod.mk.inj (Option.some.inj hstep)
      exact hrows _ _ hdispatch
    · rename_i db hdispatch
      obtain ⟨-, rfl⟩ := Prod.mk.inj (Option.some.inj hstep)
      exact hrows _ _ hdispatch
    · obtain ⟨-, rfl⟩ := Prod.mk.inj (Option.some.inj hstep)
      exact of_eq rfl rfl
  | send message result =>
    simp only [Delivery.perform] at hstep
    split at hstep
    · cases hstep
    rcases result with _ | ⟨accepted, _ | outcome⟩ <;>
      obtain ⟨-, rfl⟩ := Prod.mk.inj (Option.some.inj hstep) <;> exact of_eq rfl rfl
  | record message outcome =>
    simp only [Delivery.perform] at hstep
    split at hstep
    · cases hstep
    obtain rfl := congrArg Prod.snd (Option.some.inj hstep)
    refine of_commit rfl fun db hdb => ?_
    cases outcome with
    | enqueued brokerMessageId queueName =>
      simp only [markEnqueued, Raising.bind_eq_ok] at hdb
      obtain ⟨_, _, _, _, _, _, hresolve⟩ := hdb
      exact of_resolve hresolve
    | failed errorCode errorMessage =>
      simp only [markPublishFailed, Raising.bind_eq_ok] at hdb
      obtain ⟨_, _, _, _, _, _, hresolve⟩ := hdb
      exact of_resolve hresolve
  | prepare taskId freshId =>
    simp only [Delivery.perform] at hstep
    split at hstep
    · cases hstep
    split at hstep
    · rename_i dec db hprepare
      obtain ⟨-, rfl⟩ := Prod.mk.inj (Option.some.inj hstep)
      rcases prepareTask_spec w.db.runId w.now freshId (hsafe.ledger.history (strip taskId)) with
        ⟨failure, hfail, -⟩ | ⟨dec', db', hok, hdecided⟩
      · cases hfail.symm.trans hprepare
      obtain ⟨rfl, rfl⟩ := Prod.mk.inj (Except.ok.inj (hok.symm.trans hprepare))
      rcases hdecided with ⟨-, rfl⟩ | ⟨-, hprepared⟩
      · exact of_eq rfl rfl
      · rw [hprepared.inserted]
        exact insertAttempt (Or.inr rfl) rfl
    · obtain ⟨-, rfl⟩ := Prod.mk.inj (Option.some.inj hstep)
      exact of_eq rfl rfl
  | publish message result elapsed =>
    simp only [Delivery.perform] at hstep
    split at hstep
    · cases hstep
    split at hstep
    · obtain ⟨-, rfl⟩ := Prod.mk.inj (Option.some.inj hstep)
      exact of_eq rfl rfl
    rcases result with _ | ⟨accepted, _ | outcome⟩
    · obtain ⟨-, rfl⟩ := Prod.mk.inj (Option.some.inj hstep)
      exact of_eq rfl rfl
    · obtain ⟨-, rfl⟩ := Prod.mk.inj (Option.some.inj hstep)
      exact of_eq rfl rfl
    · obtain rfl := congrArg Prod.snd (Option.some.inj hstep)
      refine of_commit rfl fun db hdb => ?_
      simp only [markPublication, Raising.bind_eq_ok, Raising.pure_eq_ok] at hdb
      obtain ⟨state, -, _, -, rfl⟩ := hdb
      exact updateAttempt _ _ _
  | acquire message ownerId token leaseSeconds =>
    simp only [Delivery.perform] at hstep
    split at hstep
    · cases hstep
    split at hstep
    · rename_i grant db hacquire
      obtain ⟨-, rfl⟩ := Prod.mk.inj (Option.some.inj hstep)
      obtain ⟨lease, timeline, -, -, -, rfl⟩ := acquireTaskLease_eq_ok hacquire
      refine of_eq ?_ ?_ <;> rfl
    · obtain ⟨-, rfl⟩ := Prod.mk.inj (Option.some.inj hstep)
      exact of_eq rfl rfl
  | renew holder leaseSeconds =>
    simp only [Delivery.perform] at hstep
    split at hstep
    · cases hstep
    obtain rfl := congrArg Prod.snd (Option.some.inj hstep)
    refine of_commit rfl fun db hdb => ?_
    obtain ⟨shown, hrenew⟩ := Raising.map_snd_eq_ok.1 hdb
    obtain ⟨lease, until', timeline, -, -, -, -, -, rfl⟩ := renewTaskLease_eq_ok hrenew
    refine of_eq ?_ ?_ <;> rfl
  | release holder =>
    simp only [Delivery.perform] at hstep
    split at hstep
    · cases hstep
    obtain rfl := congrArg Prod.snd (Option.some.inj hstep)
    refine of_commit rfl fun db hdb => ?_
    obtain ⟨shown, hrelease⟩ := Raising.map_snd_eq_ok.1 hdb
    obtain ⟨lease, -, -, -, ⟨-, rfl⟩ | ⟨-, timeline, rfl⟩⟩ := releaseTaskLease_eq_ok hrelease
    · exact of_eq rfl rfl
    · refine of_eq ?_ ?_ <;> rfl
  | receive holder =>
    simp only [Delivery.perform] at hstep
    split at hstep
    · cases hstep
    rename_i hcond
    obtain rfl := congrArg Prod.snd (Option.some.inj hstep)
    exact of_commit rfl fun db hdb => of_workerAppend (not_not.1 (not_or.1 hcond).2) hdb
  | execute holder evidence =>
    simp only [Delivery.perform] at hstep
    split at hstep
    · cases hstep
    rename_i hcond
    simp only [not_or, not_not, ne_eq] at hcond
    split at hstep
    · rename_i db happend
      obtain ⟨-, rfl⟩ := Prod.mk.inj (Option.some.inj hstep)
      exact of_workerAppend hcond.2.1 happend
    · obtain ⟨-, rfl⟩ := Prod.mk.inj (Option.some.inj hstep)
      exact of_eq rfl rfl
  | complete holder outcome =>
    simp only [Delivery.perform] at hstep
    split at hstep
    · cases hstep
    rename_i hcond
    simp only [not_or, not_not] at hcond
    obtain rfl := congrArg Prod.snd (Option.some.inj hstep)
    exact of_commit rfl fun db hdb => of_workerAppend hcond.2.1 hdb
  | append evidenceKey kind payload taskId stage sequence runToken =>
    simp only [Delivery.perform] at hstep
    split at hstep
    · cases hstep
    rename_i hkind
    obtain rfl := congrArg Prod.snd (Option.some.inj hstep)
    refine of_commit rfl fun db hdb => ?_
    obtain ⟨id, happend⟩ := Raising.map_snd_eq_ok.1 hdb
    exact of_appended (appendEvidence_eq_ok happend).2.2.2 fun h => absurd h hkind
  | tick elapsed =>
    obtain ⟨-, rfl⟩ := Prod.mk.inj (Option.some.inj hstep)
    exact of_eq rfl rfl
  | otherRuns ids =>
    obtain ⟨-, rfl⟩ := Prod.mk.inj (Option.some.inj hstep)
    exact of_eq rfl rfl

end RowsFrom

/-- The snapshot was taken from consistent tables of which the present ones are a
later state. -/
def Taken (db : Database X) (s : RunSnapshot X) : Prop :=
  ∃ old, (∀ t, History old t) ∧ EvidenceScoped old ∧ s.evidence = old.evidence ∧ Since old db

/-- **The invariant of the system.** -/
structure ReadWorld.Sound (w : ReadWorld X) : Prop where
  safe : w.delivery.Safe
  ids : w.delivery.db.taskIds = w.dag.taskIds
  scope : EvidenceScoped w.delivery.db
  /-- Only tasks whose dependencies have succeeded are dispatched or planned. -/
  started : ∀ t, attemptsOf w.delivery.db t ≠ [] → DependenciesSucceeded w.dag w.delivery.db t
  planned : ∀ t ∈ w.candidates, t ∈ w.dag.taskIds ∧
    DependenciesSucceeded w.dag w.delivery.db t
  taken : ∀ s ∈ w.snapshots, Taken w.delivery.db s

section Planning

variable {w : ReadWorld X} {s : RunSnapshot X} {leases : List TaskLeaseSnapshot}
  {recovery : RunRecoveryPlan}

theorem mem_snapshotTaskIds {db : Database X} {t : String} :
    t ∈ snapshotTaskIds db ↔ t ∈ db.taskIds :=
  List.mem_insertionSort _

theorem Taken.consistent (h : Taken w.delivery.db s) :
    ConsistentEvidence w.delivery.db.runId (snapshotTaskIds w.delivery.db) s.evidence := by
  obtain ⟨old, hhistory, hscope, hevidence, hsince⟩ := h
  rw [hevidence, hsince.runId]
  refine ConsistentEvidence.of_history hhistory fun row hrow hkind => ?_
  obtain ⟨t, ht, htask⟩ := hscope row hrow hkind
  exact ⟨t, mem_snapshotTaskIds.2 (hsince.taskIds ▸ ht), htask⟩

variable (hsound : w.Sound) (htaken : Taken w.delivery.db s)
  (hleases : listTaskLeases w.delivery.db w.delivery.now = .ok leases)

include hsound htaken hleases

/-- **The classification does not fail.** -/
theorem classify_of_taken : ∃ recovery, classifyRecovery w.delivery.db.runId s.status
    (snapshotTaskIds w.delivery.db) s.evidence leases = .ok recovery := by
  obtain ⟨hids, hshown⟩ := listTaskLeases_eq_ok hleases
  have hperm : (snapshotTaskIds w.delivery.db).Perm w.dag.taskIds :=
    hsound.ids ▸ List.perm_insertionSort _ _
  have hne : snapshotTaskIds w.delivery.db ≠ [] := by
    intro hnil
    have hlength := hperm.length_eq
    rw [hnil, TaskDAG.taskIds, List.length_map] at hlength
    exact w.dag.tasks_nonempty (List.length_eq_zero_iff.1 hlength.symm)
  refine htaken.consistent.classify hids (hperm.nodup_iff.2 w.dag.ids_nodup) hne
    (fun lease hlease => (hshown lease hlease).1) (fun lease hlease => (hshown lease hlease).2.1) ?_
  intro lease hlease hstate row hrow hof
  obtain ⟨old, hhistory, -, hevidence, hsince⟩ := htaken
  have hnone : w.delivery.db.lease lease.taskId = none := by
    have hshows := (hshown lease hlease).2.2.2.1
    rw [hstate] at hshows
    cases hl : w.delivery.db.lease lease.taskId with
    | none => rfl
    | some owned =>
      rw [hl, leaseState] at hshows
      split_ifs at hshows
  have hempty := (hhistory lease.taskId).unowned (hsince.unowned _ hnone)
  have hmem : row ∈ workerSideRows old lease.taskId :=
    mem_workerSideRows.2 ⟨hevidence ▸ hrow, hof⟩
  rw [hempty] at hmem
  cases hmem

variable (hrecovery : classifyRecovery w.delivery.db.runId s.status
  (snapshotTaskIds w.delivery.db) s.evidence leases = .ok recovery)

include hrecovery

omit hsound in
/-- An assessment is that of the present lease of its task, with the evidence of
the snapshot. -/
theorem assessment_of_taken {item : TaskRecoveryAssessment} (hitem : item ∈ recovery.tasks) :
    ∃ shown, shown.taskId = item.taskId ∧
      shown.state = leaseState (w.delivery.db.lease item.taskId) w.delivery.now ∧
      shown.dispatchId = (w.delivery.db.lease item.taskId).map Lease.dispatchId ∧
      item.taskId ∈ w.delivery.db.taskIds ∧
      item = classifyTask s.status ⟨s.evidence.filterMap EvidenceRow.workerEntry,
        s.evidence.filterMap EvidenceRow.dispatchEntry⟩ shown := by
  obtain ⟨decoded, hdecoded, -, -, -, hitems⟩ := classifyRecovery_eq_ok hrecovery
  obtain rfl := Except.ok.inj (htaken.consistent.decode.symm.trans hdecoded)
  obtain ⟨shown, hshown, rfl⟩ := hitems item hitem
  obtain ⟨-, -, hmember, hstate, hdispatch⟩ := (listTaskLeases_eq_ok hleases).2 shown hshown
  rw [classifyTask_lease.1]
  exact ⟨shown, rfl, hstate, hdispatch, hmember, rfl⟩

omit hsound in
/-- An execution that the assessment reports is a row of the snapshot, about the
dispatch that owns the task now. -/
theorem assessment_execution {item : TaskRecoveryAssessment} (hitem : item ∈ recovery.tasks)
    {status : ExecutionStatus} (hstatus : item.workerExecutionStatus = some status) :
    ∃ lease, w.delivery.db.lease item.taskId = some lease ∧
      ∃ row ∈ workerSideRows w.delivery.db item.taskId, ∃ execution,
        row.payload = .workerExecution execution ∧ execution.dispatchId = lease.dispatchId ∧
        execution.status = status := by
  obtain ⟨shown, htask, -, hdispatch, -, heq⟩ :=
    assessment_of_taken htaken hleases hrecovery hitem
  have hrunning : s.status = .running := by
    by_contra hne
    rw [heq] at hstatus
    simp [classifyTask, hne, recoveryAssessment] at hstatus
  rw [hrunning] at heq
  obtain ⟨d, id, hd, hlookup⟩ := classifyTask_running.2.2.2.2 status (heq ▸ hstatus)
  rw [hdispatch] at hd
  obtain ⟨lease, hlease, rfl⟩ := Option.map_eq_some_iff.1 hd
  obtain ⟨l₁, l₂, hsplit, -⟩ := List.lookup_eq_some_iff.1 hlookup
  have hmem : ((shown.taskId, lease.dispatchId), (id, status)) ∈
      s.evidence.filterMap EvidenceRow.workerEntry := by
    have hin : ((shown.taskId, lease.dispatchId), (id, status)) ∈
        l₁ ++ ((shown.taskId, lease.dispatchId), (id, status)) :: l₂ := by simp
    rw [← hsplit] at hin
    exact hin
  obtain ⟨row, hrow, hof, -, execution, hpayload, hid, hrowStatus⟩ :=
    htaken.consistent.mem_workers.1 hmem
  obtain ⟨old, -, -, hevidence, hsince⟩ := htaken
  refine ⟨lease, hlease, row, ?_, execution, hpayload, hid, hrowStatus⟩
  exact mem_workerSideRows.2 ⟨hsince.evidence row (hevidence ▸ hrow), htask ▸ hof⟩

omit hsound in
theorem succeeded_of_having {t : String} (ht : t ∈ recovery.having .succeeded) :
    Succeeded w.delivery.db t := by
  obtain ⟨item, hitem, rfl⟩ := List.mem_map.1 ht
  obtain ⟨hitem, hstatus⟩ := List.mem_filter.1 hitem
  obtain ⟨-, -, row, hrow, execution, hpayload, -, hsucceeded⟩ :=
    assessment_execution htaken hleases hrecovery hitem (of_decide_eq_true hstatus)
  exact ⟨row, hrow, execution, hpayload, hsucceeded⟩

/-- A task whose current dispatch failed has no successful execution: terminal
evidence is of the current generation, and there is one row for each dispatch. -/
theorem not_succeeded_of_having {t : String} (ht : t ∈ recovery.having .failed) :
    ¬Succeeded w.delivery.db t := by
  obtain ⟨item, hitem, rfl⟩ := List.mem_map.1 ht
  obtain ⟨hitem, hstatus⟩ := List.mem_filter.1 hitem
  obtain ⟨lease, hlease, row, hrow, execution, hpayload, hid, hfailed⟩ :=
    assessment_execution htaken hleases hrecovery hitem (of_decide_eq_true hstatus)
  rintro ⟨row', hrow', execution', hpayload', hsucceeded⟩
  have hkey : row.workerKey = some (lease.dispatchId, none) := by
    simp [EvidenceRow.workerKey, hpayload, hid]
  have hkey' : row'.workerKey = some (execution'.dispatchId, none) := by
    simp [EvidenceRow.workerKey, hpayload']
  obtain ⟨lease', hlease', hid', -⟩ :=
    hsound.safe.ledger.terminal item.taskId execution'.dispatchId ⟨row', hrow', hkey'⟩
  obtain rfl := Option.some.inj (hlease.symm.trans hlease')
  have hnodup : ((workerSideRows w.delivery.db item.taskId).map EvidenceRow.workerKey).Nodup :=
    List.pairwise_map.2 (hsound.safe.ledger.history item.taskId).distinct
  have hsame : row = row' := by
    refine List.inj_on_of_nodup_map hnodup hrow hrow' ?_
    rw [hkey, hkey', hid']
  subst hsame
  obtain rfl := Payload.workerExecution.inj (hpayload.symm.trans hpayload')
  rw [hfailed] at hsucceeded
  cases hsucceeded

end Planning

section Plan

variable {w : ReadWorld X} {s : RunSnapshot X} {leases : List TaskLeaseSnapshot}
  {recovery : RunRecoveryPlan} {resolve : String → Except Failure TaskExecutionBase}

/-- What was never dispatched has no successful execution. -/
theorem not_succeeded_of_attempts (hsound : w.Sound) {t : String}
    (ht : attemptsOf w.delivery.db t = []) : ¬Succeeded w.delivery.db t := by
  rintro ⟨row, hrow, execution, hpayload, -⟩
  have hkey : row.workerKey = some (execution.dispatchId, none) := by
    simp [EvidenceRow.workerKey, hpayload]
  obtain ⟨lease, -, -, hlength⟩ := hsound.safe.ledger.terminal t _ ⟨row, hrow, hkey⟩
  rw [ht, List.length_nil] at hlength
  have hpos := lease.generation_pos
  omega

/-- A dependent of a task that has not succeeded was never dispatched. -/
theorem attempts_of_dependents (hsound : w.Sound) {x t : String}
    (hx : ¬Succeeded w.delivery.db x) (ht : t ∈ dependents w.dag.tasks x) :
    attemptsOf w.delivery.db t = [] := by
  obtain ⟨node, hnode, hdepends, rfl⟩ := mem_dependents.1 ht
  by_contra hstarted
  exact hx (hsound.started _ hstarted node hnode rfl x hdepends)

/-- A ready task has the successful dependencies that it needs. -/
theorem TaskDAG.readyTaskIds_eq_ok {dag : TaskDAG} {completed failed ready : List String}
    (h : dag.readyTaskIds completed failed = .ok ready) {t : String} (ht : t ∈ ready) :
    t ∈ dag.taskIds ∧ ∀ node ∈ dag.tasks, node.taskId = t → node.dependsOn ⊆ completed := by
  simp only [TaskDAG.readyTaskIds, Raising.bind_eq_ok, Raising.pure_eq_ok] at h
  obtain ⟨_, _, _, _, _, _, blocked, _, _, _, rfl⟩ := h
  obtain ⟨horder, hready⟩ := List.mem_filter.1 ht
  obtain ⟨-, -, -, hdeps⟩ := of_decide_eq_true hready
  obtain ⟨found, hfound, hall⟩ := Option.any_eq_true _ _ |>.1 hdeps
  refine ⟨dag.mem_topologicalOrder.1 horder, fun node hnode htask d hd => ?_⟩
  have hid : found.taskId = t := by simpa using List.find?_some hfound
  have hsame : node = found := List.inj_on_of_nodup_map dag.ids_nodup hnode
    (List.mem_of_find?_eq_some hfound) (htask.trans hid.symm)
  subst hsame
  simpa using List.all_eq_true.1 hall d hd

end Plan

theorem TaskDAG.validateRuntimeIds_of_subset {dag : TaskDAG} {taskIds : List String}
    (h : ∀ t ∈ taskIds, t ∈ dag.taskIds) (label : String) :
    dag.validateRuntimeIds taskIds label = .ok () := by
  simpa [TaskDAG.validateRuntimeIds] using h

/-- **The terminal evidence is consistent with the graph**, as far as `blocked` and
`ready` ask. -/
theorem TaskDAG.readyTaskIds_of_disjoint {dag : TaskDAG} {completed failed : List String}
    (hcompleted : ∀ t ∈ completed, t ∈ dag.taskIds) (hfailed : ∀ t ∈ failed, t ∈ dag.taskIds)
    (hdisjoint : ∀ t ∈ completed, t ∉ failed)
    (hblocked : ∀ blocked, dag.blockedTaskIds failed = .ok blocked →
      ∀ t ∈ completed, t ∉ blocked) :
    (∃ blocked, dag.blockedTaskIds failed = .ok blocked) ∧
      ∃ ready, dag.readyTaskIds completed failed = .ok ready := by
  obtain ⟨blocked, hok⟩ : ∃ blocked, dag.blockedTaskIds failed = .ok blocked := by
    simp only [TaskDAG.blockedTaskIds, TaskDAG.validateRuntimeIds_of_subset hfailed,
      Raising.ok_bind]
    exact ⟨_, rfl⟩
  have hoverlap : (completed.filter fun t => t ∈ failed) = [] :=
    List.filter_eq_nil_iff.2 fun t ht => by simpa using hdisjoint t ht
  have hinconsistent : (completed.filter fun t => t ∈ blocked) = [] :=
    List.filter_eq_nil_iff.2 fun t ht => by simpa using hblocked blocked hok t ht
  refine ⟨⟨blocked, hok⟩, ?_⟩
  simp only [TaskDAG.readyTaskIds, TaskDAG.validateRuntimeIds_of_subset hcompleted,
    TaskDAG.validateRuntimeIds_of_subset hfailed, Raising.ok_bind, hoverlap, hok, hinconsistent,
    ne_eq, not_true_eq_false, Raising.raiseIf_of_not not_false]
  exact ⟨_, rfl⟩

section Right

variable {w : ReadWorld X} {s : RunSnapshot X} {leases : List TaskLeaseSnapshot}
  {recovery : RunRecoveryPlan} {resolve : String → Except Failure TaskExecutionBase}
  (hsound : w.Sound) (htaken : Taken w.delivery.db s)
  (hleases : listTaskLeases w.delivery.db w.delivery.now = .ok leases)
  (hrecovery : classifyRecovery w.delivery.db.runId s.status
    (snapshotTaskIds w.delivery.db) s.evidence leases = .ok recovery)

include hsound htaken hleases hrecovery

omit hsound in
/-- The ready tasks of the plan have successful dependencies by now. -/
theorem ready_of_taken {ready : List String}
    (hready : w.dag.readyTaskIds (recovery.having .succeeded) (recovery.having .failed) =
      .ok ready) {t : String} (ht : t ∈ ready) :
    t ∈ w.dag.taskIds ∧ DependenciesSucceeded w.dag w.delivery.db t := by
  obtain ⟨hmember, hdeps⟩ := TaskDAG.readyTaskIds_eq_ok hready ht
  exact ⟨hmember, fun node hnode htask d hd =>
    succeeded_of_having htaken hleases hrecovery (hdeps node hnode htask hd)⟩

/-- **Planning finds no corruption of its own:** what it raises as such, the
resolver has raised. -/
theorem buildPlan_sound (hmissed : NothingMissed w s resolve) {failure : Failure}
    (hfail : buildPlan w.delivery.db.runId s.status (snapshotTaskIds w.delivery.db) w.dag recovery
      resolve = .error failure) : failure.kind ≠ .persistenceCorruption := by
  intro hkind
  obtain ⟨-, -, hrunId, hstatus, hids, -⟩ := classifyRecovery_eq_ok hrecovery
  have hknown : ∀ status, ∀ t ∈ recovery.having status, t ∈ w.dag.taskIds := by
    intro status t ht
    obtain ⟨item, hitem, rfl⟩ := List.mem_map.1 ht
    obtain ⟨-, -, -, -, hmember, -⟩ :=
      assessment_of_taken htaken hleases hrecovery (List.mem_filter.1 hitem).1
    exact hsound.ids ▸ hmember
  have hstarted : ∀ blocked, w.dag.blockedTaskIds (recovery.having .failed) = .ok blocked →
      ∀ t ∈ blocked, attemptsOf w.delivery.db t = [] := by
    intro blocked hblocked
    refine TaskDAG.blockedTaskIds_forall (Q := fun t => ¬Succeeded w.delivery.db t)
      (fun t ht => not_succeeded_of_attempts hsound ht)
      (fun x t hx ht => attempts_of_dependents hsound hx ht) (fun x hx => ?_) hblocked
    exact not_succeeded_of_having hsound htaken hleases hrecovery hx
  have hsucceeded : ∀ t ∈ recovery.having .succeeded, Succeeded w.delivery.db t :=
    fun t ht => succeeded_of_having htaken hleases hrecovery ht
  obtain ⟨⟨blocked, hblocked⟩, ready, hready⟩ := TaskDAG.readyTaskIds_of_disjoint
    (hknown .succeeded) (hknown .failed)
    (fun t ht hfailed => not_succeeded_of_having hsound htaken hleases hrecovery hfailed
      (hsucceeded t ht))
    (fun blocked hblocked t ht hmem => not_succeeded_of_attempts hsound
      (hstarted blocked hblocked t hmem) (hsucceeded t ht))
  rcases buildPlan_eq_error hfail hkind with hrun | hrunStatus | hsets | ⟨raised, hraised⟩ |
    ⟨raised, hraised⟩ | ⟨blocked', hblocked', hrunning, t, ht, item, hitem, rfl, hadvanced⟩ |
    ⟨blocked', ready', hready', item, hitem, hplace⟩
  · exact hrun hrunId
  · exact hrunStatus hstatus
  · have hperm : (snapshotTaskIds w.delivery.db).Perm w.dag.taskIds :=
      hsound.ids ▸ List.perm_insertionSort _ _
    rcases hsets with hgraph | hrecoveryIds
    · exact hgraph (List.toFinset_eq_of_perm _ _ hperm)
    · exact hrecoveryIds (by rw [hids])
  · cases hblocked.symm.trans hraised
  · cases hready.symm.trans hraised
  · -- downstream of a failure nothing was dispatched, so nothing is owned
    have hnone : w.delivery.db.lease item.taskId = none :=
      hsound.safe.lease_eq_none (hstarted blocked' hblocked' _ ht)
    obtain ⟨shown, -, hstate, -, -, heq⟩ :=
      assessment_of_taken htaken hleases hrecovery hitem
    have hunowned : shown.state = .unowned := by rw [hstate, hnone]; rfl
    rw [heq, hrunning, classifyTask_lease.2, hunowned, classifyTask_running.1 hunowned] at hadvanced
    simp at hadvanced
  · obtain ⟨shown, -, hstate, -, -, heq⟩ :=
      assessment_of_taken htaken hleases hrecovery hitem
    obtain ⟨hrunning, hcompleted, hfailed, hraise⟩ := frontier_eq_error hplace
    rw [hrunning] at heq
    have hshown : item.leaseState = shown.state := by rw [heq, classifyTask_lease.2]
    rcases hraise with ⟨hactive, hdisposition⟩ | ⟨hreleased, hdisposition⟩ |
      ⟨hmemReady, hvacant, hresolve⟩
    · refine hdisposition ?_
      rw [heq]
      exact classifyTask_running.2.1 (hshown ▸ hactive)
    · refine hdisposition ?_
      have hopen : item.workerExecutionStatus = none := by
        cases hexecution : item.workerExecutionStatus with
        | none => rfl
        | some status =>
          exfalso
          cases status with
          | succeeded =>
            exact hcompleted (List.mem_map.2 ⟨item, List.mem_filter.2 ⟨hitem, by simp [hexecution]⟩,
              rfl⟩)
          | failed =>
            exact hfailed (List.mem_map.2 ⟨item, List.mem_filter.2 ⟨hitem, by simp [hexecution]⟩,
              rfl⟩)
      rw [heq] at hopen ⊢
      exact classifyTask_running.2.2.1 (hshown ▸ hreleased) hopen
    · obtain ⟨hmember, hdeps⟩ := ready_of_taken htaken hleases hrecovery hready' hmemReady
      rw [hshown, hstate] at hvacant
      exact hmissed.resolver _ hmember hdeps hvacant failure hresolve hkind

end Right

section Parts

variable {w : ReadWorld X} {s : RunSnapshot X} (htaken : Taken w.delivery.db s)
  {resolve : String → Except Failure TaskExecutionBase} {plan : RunReconciliationPlan}
  (hplan : planFrom w s resolve = .ok plan)

include htaken hplan

/-- **The candidates are right whatever the snapshot missed.** -/
theorem planFrom_candidates {t : String} (ht : t ∈ plan.reconcileTaskIds) :
    t ∈ w.dag.taskIds ∧ leaseState (w.delivery.db.lease t) w.delivery.now ≠ .active ∧
      DependenciesSucceeded w.dag w.delivery.db t := by
  obtain ⟨leases, hleases, hplan⟩ := Raising.bind_eq_ok.1 hplan
  obtain ⟨recovery, hrecovery, hplan⟩ := Raising.bind_eq_ok.1 hplan
  rw [buildPlan_candidates hplan, List.mem_map] at ht
  obtain ⟨record, hrecord, rfl⟩ := ht
  obtain ⟨hrecord, hstate⟩ := List.mem_filter.1 hrecord
  obtain ⟨ready, hready, hrecords⟩ := buildPlan_record hplan
  obtain ⟨item, hitem, htask, hcandidate, -⟩ := hrecords record hrecord
  obtain ⟨-, hmemReady, hvacant⟩ := hcandidate (of_decide_eq_true hstate)
  obtain ⟨shown, -, hshown, -, -, heq⟩ := assessment_of_taken htaken hleases hrecovery hitem
  have hlease : item.leaseState = shown.state := by rw [heq, classifyTask_lease.2]
  rw [hlease, hshown, htask] at hvacant
  obtain ⟨hmember, hdeps⟩ := ready_of_taken htaken hleases hrecovery hready hmemReady
  refine ⟨hmember, ?_, hdeps⟩
  rcases hvacant with hvacant | hvacant <;> rw [hvacant] <;> decide

/-- A recovery gap is a released lease whose execution the snapshot does not show. -/
theorem planFrom_gap {record : TaskReconciliationRecord} (hrecord : record ∈ plan.tasks)
    (hstate : record.frontierState = .blockedRecoveryGap) :
    ∃ lease, w.delivery.db.lease record.taskId = some lease ∧ lease.releasedAt ≠ none ∧
      ∀ row ∈ s.evidence, OfWorker row record.taskId →
        row.workerKey ≠ some (lease.dispatchId, none) := by
  obtain ⟨leases, hleases, hplan⟩ := Raising.bind_eq_ok.1 hplan
  obtain ⟨recovery, hrecovery, hplan⟩ := Raising.bind_eq_ok.1 hplan
  obtain ⟨ready, -, hrecords⟩ := buildPlan_record hplan
  obtain ⟨item, hitem, htask, -, hgap⟩ := hrecords record hrecord
  obtain ⟨hrunning, -, hreleased, hdisposition⟩ := hgap hstate
  obtain ⟨shown, hname, hshown, hdispatch, -, heq⟩ :=
    assessment_of_taken htaken hleases hrecovery hitem
  rw [hrunning] at heq
  rw [htask] at hname hshown hdispatch
  have hlease : item.leaseState = shown.state := by rw [heq, classifyTask_lease.2]
  have hshownReleased : shown.state = .released := hlease ▸ hreleased
  obtain ⟨lease, howned, hreleasedAt⟩ : ∃ lease,
      w.delivery.db.lease record.taskId = some lease ∧ lease.releasedAt ≠ none := by
    rw [hshown] at hshownReleased
    cases howned : w.delivery.db.lease record.taskId with
    | none =>
      rw [howned] at hshownReleased
      cases hshownReleased
    | some lease =>
      refine ⟨lease, rfl, fun hnone => ?_⟩
      rw [howned, leaseState, if_neg (not_not.2 hnone)] at hshownReleased
      split_ifs at hshownReleased
  refine ⟨lease, howned, hreleasedAt, fun row hrow hof hkey => ?_⟩
  have hlookup := classifyTask_running.2.2.2.1 hshownReleased (heq ▸ hdisposition)
    lease.dispatchId (by rw [hdispatch, howned]; rfl)
  unfold EvidenceRow.workerKey at hkey
  split at hkey
  · rename_i execution hpayload
    have hid : execution.dispatchId = lease.dispatchId := by simpa using hkey
    have hentry : ((record.taskId, lease.dispatchId), (row.id, execution.status)) ∈
        s.evidence.filterMap EvidenceRow.workerEntry :=
      htaken.consistent.mem_workers.2 ⟨row, hrow, hof, rfl, execution, hpayload, hid, rfl⟩
    have hmiss := List.lookup_eq_none_iff.1 hlookup _ hentry
    simp [hname] at hmiss
  · simp at hkey
  · cases hkey

end Parts

/-- **A plan from a snapshot that missed nothing is right.** -/
theorem ReadWorld.Sound.rightPlan {w : ReadWorld X} (hsound : w.Sound) {s : RunSnapshot X}
    (htaken : Taken w.delivery.db s) {resolve : String → Except Failure TaskExecutionBase}
    (hmissed : NothingMissed w s resolve) : RightPlan w s resolve := by
  constructor
  · intro failure hfail
    rcases Raising.bind_eq_error.1 hfail with hleases | ⟨leases, hleases, hfail⟩
    · rw [listTaskLeases_eq_error hleases]
      decide
    obtain ⟨recovery, hrecovery⟩ := classify_of_taken hsound htaken hleases
    rw [hrecovery, Raising.ok_bind] at hfail
    exact buildPlan_sound hsound htaken hleases hrecovery hmissed hfail
  · intro plan hplan t ht
    exact (planFrom_candidates htaken hplan ht).2
  · intro plan hplan record hrecord hstate
    obtain ⟨lease, howned, hreleased, hmissing⟩ := planFrom_gap htaken hplan hrecord hstate
    refine ⟨lease, howned, hreleased, ?_⟩
    rintro ⟨row, hrow, hkey⟩
    exact hmissing row (hmissed.evidence _ lease howned hreleased row hrow hkey)
      (mem_workerSideRows.1 hrow).2 hkey

section Runs

variable [DecidableEq X] {w w' : ReadWorld X} {answer : Except Failure Unit}

/-- A step of `Delivery` keeps the invariant when it dispatches only tasks whose
dependencies have succeeded. -/
theorem ReadWorld.Sound.lift (h : w.Sound) {d : Delivery X} {v : DeliveryWorld X}
    (hstep : deliveryStep w.delivery d answer v)
    (hstart : ∀ t id, d = .dispatch t id ∨ d = .prepare t id →
      DependenciesSucceeded w.dag w.delivery.db (strip t)) :
    ({ w with delivery := v } : ReadWorld X).Sound := by
  have hsince : Since w.delivery.db v.db := .of_writes (deliveryStep_effect hstep).writes
  have hrows := RowsFrom.of_step h.safe hstep
  refine ⟨h.safe.step hstep, hsince.taskIds.trans h.ids, ?_, ?_, ?_, ?_⟩
  · intro row hrow hkind
    rcases hrows.evidence row hrow with hold | hnew
    · obtain ⟨t, ht, htask⟩ := h.scope row hold hkind
      exact ⟨t, hsince.taskIds ▸ ht, htask⟩
    · obtain ⟨t, ht, htask⟩ := hnew hkind
      rw [h.safe.names t ht] at htask
      exact ⟨t, hsince.taskIds ▸ ht, htask⟩
  · intro t hstarted
    refine hsince.dependenciesSucceeded ?_
    obtain ⟨row, hrow⟩ := List.exists_mem_of_ne_nil _ hstarted
    obtain ⟨hmem, rfl⟩ := mem_attemptsOf.1 hrow
    rcases hrows.attempts row hmem with ⟨old, hold, htask⟩ | ⟨t', id, hd, htask⟩
    · refine h.started _ (List.ne_nil_of_mem (mem_attemptsOf.2 ⟨hold, htask⟩))
    · rw [htask]
      exact hstart t' id hd
  · intro t ht
    obtain ⟨hmember, hdeps⟩ := h.planned t ht
    exact ⟨hmember, hsince.dependenciesSucceeded hdeps⟩
  · intro s hs
    obtain ⟨old, hhistory, hscope, hevidence, hold⟩ := h.taken s hs
    exact ⟨old, hhistory, hscope, hevidence, hold.trans hsince⟩

omit [DecidableEq X] in
/-- The status of the run is no part of the invariant. -/
theorem ReadWorld.Sound.finalize (h : w.Sound) (status : RunStatus) :
    ({ w with delivery := { w.delivery with db := { w.delivery.db with status } } } :
      ReadWorld X).Sound := by
  have hhistory : ∀ t, History { w.delivery.db with status } t := by
    intro t
    obtain ⟨hvalid, hnumbers, hids, hahead, hbehind, howner, hrows, hdistinct, hcompleted,
      hunowned⟩ := h.safe.ledger.history t
    exact ⟨hvalid, hnumbers, hids, hahead, hbehind, howner, hrows, hdistinct, hcompleted, hunowned⟩
  obtain ⟨hsafe, hids, hscope, hstarted, hplanned, htaken⟩ := h
  obtain ⟨⟨-, hledgerIds, hclock, hoverdue, hrowKeys, hterminal⟩, hnames, hnext, hpending, hsent,
    hunsent, hknown, htoken, hexecuted, htokens⟩ := hsafe
  refine ⟨⟨⟨hhistory, hledgerIds, hclock, hoverdue, hrowKeys, hterminal⟩, hnames, hnext, hpending,
    hsent, hunsent, hknown, htoken, hexecuted, htokens⟩, hids, hscope, hstarted, hplanned, ?_⟩
  intro s hs
  obtain ⟨old, hold, hscopeOld, hevidence, hsince⟩ := htaken s hs
  exact ⟨old, hold, hscopeOld, hevidence, hsince.runId, hsince.taskIds, hsince.evidence,
    hsince.unowned⟩

/-- **Every step keeps the invariant.** -/
theorem ReadWorld.Sound.step {r : Read X} (h : w.Sound) (hstep : readStep w r answer w') :
    w'.Sound := by
  have hname : ∀ t ∈ w.dag.taskIds, strip t = t := fun t ht => h.safe.names t (h.ids ▸ ht)
  unfold readStep at hstep
  cases r with
  | dispatchInitial taskId dispatchId =>
    simp only [Read.perform] at hstep
    split_ifs at hstep with hinitial
    obtain ⟨⟨answer', v⟩, hperform, heq⟩ := Option.map_eq_some_iff.1 hstep
    obtain ⟨rfl, rfl⟩ := Prod.mk.inj heq
    refine h.lift hperform ?_
    rintro t id (hd | hd)
    · obtain ⟨rfl, rfl⟩ := Delivery.dispatch.inj hd
      unfold TaskDAG.initialReady at hinitial
      split at hinitial
      · rename_i ready hready
        obtain ⟨hmember, hdeps⟩ := TaskDAG.readyTaskIds_eq_ok hready hinitial
        rw [hname _ hmember]
        exact fun node hnode htask d hd => absurd (hdeps node hnode htask hd) (by simp)
      · cases hinitial
    · cases hd
  | readRun =>
    obtain ⟨-, rfl⟩ := Prod.mk.inj (Option.some.inj hstep)
    exact ⟨h.safe, h.ids, h.scope, h.started, h.planned, h.taken⟩
  | readEvidence status =>
    simp only [Read.perform] at hstep
    split_ifs at hstep
    obtain ⟨-, rfl⟩ := Prod.mk.inj (Option.some.inj hstep)
    refine ⟨h.safe, h.ids, h.scope, h.started, h.planned, List.forall_mem_cons.2 ⟨?_, h.taken⟩⟩
    exact ⟨w.delivery.db, h.safe.ledger.history, h.scope, rfl, Since.refl _⟩
  | plan s resolve =>
    simp only [Read.perform] at hstep
    split_ifs at hstep with hmem
    split at hstep
    · rename_i built hbuilt
      obtain ⟨-, rfl⟩ := Prod.mk.inj (Option.some.inj hstep)
      refine ⟨h.safe, h.ids, h.scope, h.started, fun t ht => ?_, h.taken⟩
      rcases List.mem_append.1 ht with ht | ht
      · exact h.planned t ht
      · obtain ⟨hmember, -, hdeps⟩ := planFrom_candidates (h.taken s hmem) hbuilt ht
        exact ⟨hmember, hdeps⟩
    · obtain ⟨-, rfl⟩ := Prod.mk.inj (Option.some.inj hstep)
      exact h
  | reconcile taskId freshId =>
    simp only [Read.perform] at hstep
    split_ifs at hstep with hcandidate
    obtain ⟨⟨answer', v⟩, hperform, heq⟩ := Option.map_eq_some_iff.1 hstep
    obtain ⟨rfl, rfl⟩ := Prod.mk.inj heq
    have herased : ({ w with candidates := w.candidates.erase taskId } : ReadWorld X).Sound :=
      ⟨h.safe, h.ids, h.scope, h.started,
        fun t ht => h.planned t (List.mem_of_mem_erase ht), h.taken⟩
    refine herased.lift hperform ?_
    rintro t id (hd | hd)
    · cases hd
    · obtain ⟨rfl, rfl⟩ := Delivery.prepare.inj hd
      obtain ⟨hmember, hdeps⟩ := h.planned _ hcandidate
      rw [hname _ hmember]
      exact hdeps
  | finalize status =>
    simp only [Read.perform] at hstep
    split_ifs at hstep
    obtain ⟨-, rfl⟩ := Prod.mk.inj (Option.some.inj hstep)
    exact h.finalize status
  | other d =>
    simp only [Read.perform] at hstep
    split_ifs at hstep with hwork
    obtain ⟨⟨answer', v⟩, hperform, heq⟩ := Option.map_eq_some_iff.1 hstep
    obtain ⟨rfl, rfl⟩ := Prod.mk.inj heq
    refine h.lift hperform ?_
    rintro t id (rfl | rfl) <;> cases hwork

omit [DecidableEq X] in
theorem ReadWorld.created_sound (runId : UUID) (dag : TaskDAG) (now : Timestamp) :
    (ReadWorld.created X runId dag now).Sound := by
  have hpattern : ∀ t ∈ dag.taskIds, isTaskId t = true := by
    intro t ht
    obtain ⟨node, -, rfl⟩ := List.mem_map.1 ht
    exact node.taskId_pattern
  refine ⟨DeliveryWorld.created_safe hpattern, rfl, ?_, ?_, ?_, ?_⟩
  · intro row hrow
    cases hrow
  · intro t ht
    exact absurd rfl ht
  · intro t ht
    cases ht
  · intro s hs
    cases hs

end Runs

/-- The execution that the worker of `tornReads` reports. -/
def apiExecution : WorkerExecutionEvidence Unit where
  dispatchId := ⟨11⟩
  runId := ⟨1⟩
  taskId := "api"
  status := .succeeded
  baseCommit := "base"
  commitSha := some "done"
  content := ()
  success_commit := ExecutionStatus.succeeded_commit _
  failure_commit := ExecutionStatus.succeeded_not_failed _

/-- A worker acquires its task. -/
def apiAcquired : List (Read Unit) :=
  [.dispatchInitial "api" ⟨11⟩, .other (.send ⟨"api", ⟨11⟩⟩ (.called true none)),
    .other (.acquire ⟨"api", ⟨11⟩⟩ "worker-a" ⟨101⟩ 30)]

/-- It writes its terminal evidence and releases. -/
def apiFinished : List (Read Unit) :=
  [.other (.execute ⟨⟨"api", ⟨11⟩⟩, "worker-a", ⟨101⟩, false⟩ apiExecution),
    .other (.release ⟨⟨"api", ⟨11⟩⟩, "worker-a", ⟨101⟩, true⟩)]

/-- A planner reads the run and its evidence. -/
def runRead : List (Read Unit) :=
  [.readRun, .readEvidence .running]

/-- A planning step from a snapshot that was read. -/
theorem readStep_plan [DecidableEq X] {w : ReadWorld X} {s : RunSnapshot X} (hs : s ∈ w.snapshots)
    (resolve : String → Except Failure TaskExecutionBase) :
    ∃ answer w', readStep w (.plan s resolve) answer w' := by
  unfold readStep
  simp only [Read.perform, hs, not_true_eq_false, if_false]
  cases planFrom w s resolve with
  | ok plan => exact ⟨_, _, rfl⟩
  | error failure => exact ⟨_, _, rfl⟩

end DevFlow
