/-
# Concurrency limits over whole runs

The initial dispatch of `create_requirement_run` (`api/hardened.py`), any number
of `reconcile_run` calls, and the workers, over the world of `Dispatch`.  The
broker may deliver what it accepted late, in any order and more than once.

`reconcile_run` computes its slots from the leases that are ACTIVE when it looks,
and the initial dispatch from nothing at all.  What decides the limits is the
moment of a publication: the ACTIVE tasks, the tasks that some accepted message
can still make ACTIVE, and the task that is now published must together fit.
-/

import DevFlow.Dispatch.Delivery
import DevFlow.Runtime.RunReconciler

namespace DevFlow

variable {X : Type}

/-- The run with its graph, the configured limit, and the tasks that the
`reconcile_run` calls in progress have selected and not reconciled yet. -/
structure AdmissionWorld (X : Type) where
  delivery : DeliveryWorld X
  dag : TaskDAG
  maxConcurrentTasks : Option ℕ
  selected : List String

/-- The world of a run that has just been created. -/
def AdmissionWorld.created (X : Type) (runId : UUID) (dag : TaskDAG)
    (maxConcurrentTasks : Option ℕ) (now : Timestamp) : AdmissionWorld X where
  delivery :=
    { db := Database.created X runId dag.taskIds
      now, dispatching := [], prepared := [], inFlight := [], sent := [], observed := []
      holders := [], tokens := [] }
  dag := dag
  maxConcurrentTasks := maxConcurrentTasks
  selected := []

/-- A step of the dispatchers, reconcilers, broker and workers. -/
inductive Admission (X : Type)
  /-- `_dispatch_initial_task` for one of the tasks that are ready at the start. -/
  | dispatchInitial (taskId : String) (dispatchId : UUID)
  /-- `reconcile_run` up to its selection, for the plan it has built. -/
  | reconcileRun (plan : RunReconciliationPlan) (gates : Option (String → Bool))
  /-- `reconcile` of a selected task up to its prepared attempt. -/
  | reconcile (taskId : String) (freshId : UUID)
  /-- A delivery of any accepted message. -/
  | deliver (message : Message) (ownerId : String) (token : UUID) (leaseSeconds : ℚ)
  /-- Any other step of the dispatchers, the reconcilers and the workers. -/
  | other (d : Delivery X)

/-- `list_task_leases`. -/
def listTaskLeases (db : Database X) (now : Timestamp) : Except Failure (List TaskLeaseSnapshot) :=
  (db.taskIds.insertionSort (· ≤ ·)).mapM fun t => snapshot db.runId t (db.lease t) now

/-- What the listed leases show. -/
theorem listTaskLeases_eq_ok {db : Database X} {now : Timestamp} {leases : List TaskLeaseSnapshot}
    (h : listTaskLeases db now = .ok leases) :
    leases.map TaskLeaseSnapshot.taskId = db.taskIds.insertionSort (· ≤ ·) ∧
      ∀ shown ∈ leases, shown.runId = db.runId ∧ shown.observedAt = now ∧
        shown.taskId ∈ db.taskIds ∧ shown.state = leaseState (db.lease shown.taskId) now ∧
        shown.dispatchId = (db.lease shown.taskId).map Lease.dispatchId := by
  have hsnapshot : ∀ t shown, snapshot db.runId t (db.lease t) now = .ok shown →
      shown.taskId = t ∧ shown.runId = db.runId ∧ shown.observedAt = now ∧
        shown.state = leaseState (db.lease t) now ∧
        shown.dispatchId = (db.lease t).map Lease.dispatchId := by
    intro t shown hshown
    cases hlease : db.lease t with
    | none =>
      simp only [snapshot, hlease, Raising.pure_eq_ok] at hshown
      subst hshown
      simp
    | some lease =>
      simp only [snapshot, hlease, Raising.bind_eq_ok, Raising.pure_eq_ok] at hshown
      obtain ⟨_, _, rfl⟩ := hshown
      simp
  have hmem : ∀ t ∈ db.taskIds.insertionSort (· ≤ ·), t ∈ db.taskIds :=
    fun t ht => (List.mem_insertionSort _).1 ht
  have hall := Raising.mapM_eq_ok.1 h
  clear h
  generalize db.taskIds.insertionSort (· ≤ ·) = taskIds at hmem hall ⊢
  induction hall with
  | nil => simp
  | cons hshown _ ih =>
    obtain ⟨htask, hrest⟩ := hsnapshot _ _ hshown
    obtain ⟨hids, hleases⟩ := ih fun t ht => hmem t (List.mem_cons_of_mem _ ht)
    refine ⟨by rw [List.map_cons, htask, hids], List.forall_mem_cons.2 ⟨?_, hleases⟩⟩
    rw [htask]
    exact ⟨hrest.1, hrest.2.1, hmem _ List.mem_cons_self, hrest.2.2⟩

/-- A lease row that cannot be shown is a `ValueError`. -/
theorem listTaskLeases_eq_error {db : Database X} {now : Timestamp} {failure : Failure}
    (h : listTaskLeases db now = .error failure) : failure.kind = .valueError := by
  obtain ⟨t, -, hfail⟩ := Raising.mapM_eq_error h
  cases hlease : db.lease t with
  | none =>
    simp only [snapshot, hlease] at hfail
    cases hfail
  | some lease =>
    simp only [snapshot, hlease, validateShape, Raising.bind_eq_error,
      Raising.raiseIf_eq_error] at hfail
    rcases hfail with (⟨-, rfl⟩ | ⟨_, -, ⟨-, rfl⟩ | ⟨_, -, hreleased⟩⟩) | ⟨_, -, hfail⟩
    · rfl
    · rfl
    · cases hr : lease.releasedAt with
      | none =>
        rw [hr] at hreleased
        cases hreleased
      | some releasedAt =>
        simp only [hr, Raising.raiseIf_eq_error] at hreleased
        obtain ⟨-, rfl⟩ := hreleased
        rfl
    · cases hfail

/-- The tasks of `dispatchInitial`. -/
def TaskDAG.initialReady (dag : TaskDAG) : List String :=
  match dag.readyTaskIds [] [] with
  | .ok taskIds => taskIds
  | .error _ => []

/-- `dispatch`, `prepare` and `acquire` have steps of their own. -/
def Delivery.isOther : Delivery X → Bool
  | .dispatch _ _ | .prepare _ _ | .acquire _ _ _ _ => false
  | _ => true

variable [DecidableEq X]

/-- A step of `Delivery` in the larger world. -/
def AdmissionWorld.lift (w : AdmissionWorld X) (d : Delivery X) :
    Option (Except Failure Unit × AdmissionWorld X) :=
  (d.perform w.delivery).map fun r => (r.1, { w with delivery := r.2 })

/-- One step. -/
def Admission.perform (w : AdmissionWorld X) :
    Admission X → Option (Except Failure Unit × AdmissionWorld X)
  | .dispatchInitial taskId dispatchId =>
    if taskId ∈ w.dag.initialReady then w.lift (.dispatch taskId dispatchId) else none
  | .reconcileRun plan gates =>
    match listTaskLeases w.delivery.db w.delivery.now with
    | .error failure => some (.error failure, w)
    | .ok leases =>
      some (.ok (), { w with
        selected := w.selected ++ selectedTasks w.dag leases w.maxConcurrentTasks gates plan })
  | .reconcile taskId freshId =>
    if taskId ∈ w.selected then
      { w with selected := w.selected.erase taskId }.lift (.prepare taskId freshId)
    else none
  | .deliver message ownerId token leaseSeconds =>
    if message ∉ w.delivery.inFlight ∨ token ∈ w.delivery.tokens then none
    else match acquireTaskLease w.delivery.db w.delivery.now token w.delivery.db.runId
        message.taskId ownerId message.dispatchId leaseSeconds with
      | .ok (_, db) =>
        some (.ok (), { w with delivery := { w.delivery with
          db
          holders := w.delivery.holders ++ [⟨message, ownerId, token, false⟩]
          tokens := token :: w.delivery.tokens } })
      | .error failure => some (.error failure, w)
  | .other d => if d.isOther then w.lift d else none

/-- The transition system. -/
def admissionStep (w : AdmissionWorld X) (a : Admission X) (answer : Except Failure Unit)
    (w' : AdmissionWorld X) : Prop :=
  a.perform w = some (answer, w')

omit [DecidableEq X]

/-- The task holds an ACTIVE lease. -/
def DeliveryWorld.isActive (w : DeliveryWorld X) (t : String) : Bool :=
  leaseState (w.db.lease t) w.now = .active

/-- Some accepted message would acquire the task once it is not ACTIVE. -/
def DeliveryWorld.isAcquirable (w : DeliveryWorld X) (t : String) : Bool :=
  w.inFlight.any fun m => strip m.taskId = t ∧
    ((w.db.lease t).all fun lease =>
      lease.releasedAt = none ∧ lease.dispatchId ≠ m.dispatchId) = true

/-- The task is ACTIVE or can become so without a further publication. -/
def DeliveryWorld.isOccupied (w : DeliveryWorld X) (t : String) : Bool :=
  w.isActive t || w.isAcquirable t

/-- The tasks fit the configured limit, and at most one of them is HIGH. -/
def AdmissionWorld.LimitsHold (w : AdmissionWorld X) (tasks : List String) : Prop :=
  (∀ limit, w.maxConcurrentTasks = some limit → tasks.length ≤ limit) ∧
    tasks.countP w.dag.isHigh ≤ 1

instance (w : AdmissionWorld X) (tasks : List String) : Decidable (w.LimitsHold tasks) :=
  decidable_of_iff ((w.maxConcurrentTasks.all fun limit => tasks.length ≤ limit) = true ∧
    tasks.countP w.dag.isHigh ≤ 1) (by simp [AdmissionWorld.LimitsHold, Option.all_eq_true])

/-- The tasks that hold an ACTIVE lease. -/
def AdmissionWorld.activeTaskIds (w : AdmissionWorld X) : List String :=
  w.delivery.db.taskIds.filter w.delivery.isActive

/-- The message that the broker accepts in the step. -/
def Admission.publishes : Admission X → Option Message
  | .other d => d.publishes
  | _ => none

/-- **A publication that keeps the limits:** the occupied tasks and the published
one fit together. -/
def Admission.KeepsLimits (a : Admission X) (w : AdmissionWorld X) : Prop :=
  ∀ m, a.publishes = some m → w.LimitsHold
    (w.delivery.db.taskIds.filter fun t => strip m.taskId = t || w.delivery.isOccupied t)

namespace AdmissionWorld

variable {w w' : AdmissionWorld X}

theorem LimitsHold.sublist {tasks tasks' : List String} (h : w.LimitsHold tasks)
    (hsub : tasks'.Sublist tasks) : w.LimitsHold tasks' :=
  ⟨fun limit hlimit => hsub.length_le.trans (h.1 limit hlimit),
    (hsub.countP_le).trans h.2⟩

/-- A predicate that is stronger on the tasks keeps fewer of them. -/
theorem LimitsHold.filter {p q : String → Bool} {tasks : List String}
    (h : w.LimitsHold (tasks.filter p)) (hpq : ∀ t, q t = true → p t = true) :
    w.LimitsHold (tasks.filter q) :=
  h.sublist (List.monotone_filter_right tasks hpq)

end AdmissionWorld

section Occupied

variable {w w' : DeliveryWorld X} {t : String}

theorem isActive_eq_true : w.isActive t = true ↔
    ∃ lease, w.db.lease t = some lease ∧ lease.Live w.now := by
  rw [DeliveryWorld.isActive, decide_eq_true_eq, leaseState_eq_active]

theorem isAcquirable_eq_true : w.isAcquirable t = true ↔
    ∃ m ∈ w.inFlight, strip m.taskId = t ∧ ∀ lease, w.db.lease t = some lease →
      lease.releasedAt = none ∧ lease.dispatchId ≠ m.dispatchId := by
  simp only [DeliveryWorld.isAcquirable, List.any_eq_true, decide_eq_true_eq,
    Option.all_eq_true]

theorem isOccupied_eq_true : w.isOccupied t = true ↔
    w.isActive t = true ∨ w.isAcquirable t = true := by
  rw [DeliveryWorld.isOccupied, Bool.or_eq_true]

/-- While the lease of a task stays as it is, only a new message can make the
task occupied. -/
theorem isOccupied_of_lease_eq (hclock : w.now ≤ w'.now) (hlease : w'.db.lease t = w.db.lease t)
    (h : w'.isOccupied t = true) :
    w.isOccupied t = true ∨ ∃ m ∈ w'.inFlight, m ∉ w.inFlight ∧ strip m.taskId = t := by
  rcases isOccupied_eq_true.1 h with hactive | hacquirable
  · left
    obtain ⟨lease, hl, hreleased, huntil⟩ := isActive_eq_true.1 hactive
    refine isOccupied_eq_true.2 (Or.inl (isActive_eq_true.2 ⟨lease, hlease ▸ hl, hreleased, ?_⟩))
    exact lt_of_le_of_lt hclock huntil
  · obtain ⟨m, hm, htask, hvacant⟩ := isAcquirable_eq_true.1 hacquirable
    by_cases hold : m ∈ w.inFlight
    · left
      rw [hlease] at hvacant
      exact isOccupied_eq_true.2 (Or.inr (isAcquirable_eq_true.2 ⟨m, hold, htask, hvacant⟩))
    · exact Or.inr ⟨m, hm, hold, htask⟩

/-- **A write makes no task occupied that was not.** -/
theorem isOccupied_of_writes (hwrites : StepWrites w w'.db) (hclock : w.now ≤ w'.now)
    (h : w'.isOccupied t = true) :
    w.isOccupied t = true ∨ ∃ m ∈ w'.inFlight, m ∉ w.inFlight ∧ strip m.taskId = t := by
  generalize hdb : w'.db = db at hwrites
  cases hwrites with
  | nothing => exact isOccupied_of_lease_eq hclock (by rw [hdb]) h
  | attempt row => exact isOccupied_of_lease_eq hclock (by rw [hdb]; rfl) h
  | outcome d state updatedAt => exact isOccupied_of_lease_eq hclock (by rw [hdb]; rfl) h
  | evidence row timeline => exact isOccupied_of_lease_eq hclock (by rw [hdb]; rfl) h
  | ids n => exact isOccupied_of_lease_eq hclock (by rw [hdb]) h
  | acquired t' lease timeline hmessage =>
    by_cases ht : t = t'
    · subst ht
      exact Or.inl (isOccupied_eq_true.2 (Or.inr (isAcquirable_eq_true.2 hmessage)))
    · refine isOccupied_of_lease_eq hclock ?_ h
      rw [hdb]
      exact w.db.setLease_lease_of_ne lease ht
  | touched t' lease lease' timeline hlease hlive hdispatch =>
    by_cases ht : t = t'
    · subst ht
      exact Or.inl (isOccupied_eq_true.2 (Or.inl (isActive_eq_true.2 ⟨lease, hlease, hlive⟩)))
    · refine isOccupied_of_lease_eq hclock ?_ h
      rw [hdb]
      exact w.db.setLease_lease_of_ne lease' ht

/-- No write adds a task. -/
theorem taskIds_of_writes {db : Database X} (hwrites : StepWrites w db) :
    db.taskIds = w.db.taskIds := by
  cases hwrites <;> rfl

end Occupied

section Runs

variable [DecidableEq X] {w w' : AdmissionWorld X} {a : Admission X}
  {answer : Except Failure Unit}

/-- What a step does to the graph, the limit, the tables, the clock and the
broker. -/
structure AdmissionEffect (w : AdmissionWorld X) (a : Admission X) (w' : AdmissionWorld X) :
    Prop where
  dag : w'.dag = w.dag
  limit : w'.maxConcurrentTasks = w.maxConcurrentTasks
  writes : StepWrites w.delivery w'.delivery.db
  clock : w.delivery.now ≤ w'.delivery.now
  messages : ∀ m ∈ w'.delivery.inFlight, m ∈ w.delivery.inFlight ∨ a.publishes = some m

/-- A lifted step has the effect of the step. -/
theorem AdmissionEffect.of_lift {w₁ : AdmissionWorld X} {d : Delivery X}
    (hw₁ : w₁.delivery = w.delivery ∧ w₁.dag = w.dag ∧
      w₁.maxConcurrentTasks = w.maxConcurrentTasks)
    (hpublishes : d.publishes = a.publishes) (h : w₁.lift d = some (answer, w')) :
    AdmissionEffect w a w' := by
  obtain ⟨hdelivery, hdag, hlimit⟩ := hw₁
  obtain ⟨⟨answer', v⟩, hperform, heq⟩ := Option.map_eq_some_iff.1 h
  obtain ⟨rfl, rfl⟩ := Prod.mk.inj heq
  rw [hdelivery] at hperform
  have heffect := deliveryStep_effect hperform
  exact ⟨hdag, hlimit, heffect.writes, heffect.clock, hpublishes ▸ heffect.messages⟩

theorem admissionStep_effect (hstep : admissionStep w a answer w') : AdmissionEffect w a w' := by
  have hold : ∀ m ∈ w.delivery.inFlight, m ∈ w.delivery.inFlight ∨ a.publishes = some m :=
    fun _ hm => Or.inl hm
  unfold admissionStep at hstep
  cases a with
  | dispatchInitial taskId dispatchId =>
    simp only [Admission.perform] at hstep
    split at hstep
    · exact .of_lift ⟨rfl, rfl, rfl⟩ rfl hstep
    · cases hstep
  | reconcileRun plan gates =>
    simp only [Admission.perform] at hstep
    split at hstep <;> obtain ⟨-, rfl⟩ := Prod.mk.inj (Option.some.inj hstep) <;>
      exact ⟨rfl, rfl, .nothing, le_rfl, hold⟩
  | reconcile taskId freshId =>
    simp only [Admission.perform] at hstep
    split at hstep
    · refine AdmissionEffect.of_lift (d := .prepare taskId freshId) ?_ rfl hstep
      exact ⟨rfl, rfl, rfl⟩
    · cases hstep
  | deliver message ownerId token leaseSeconds =>
    simp only [Admission.perform] at hstep
    split at hstep
    · cases hstep
    rename_i hcond
    have hmessage := not_not.1 (not_or.1 hcond).1
    split at hstep
    · rename_i grant db hacquire
      obtain ⟨-, rfl⟩ := Prod.mk.inj (Option.some.inj hstep)
      obtain ⟨lease, timeline, hacquired, -, -, rfl⟩ := acquireTaskLease_eq_ok hacquire
      refine ⟨rfl, rfl, .acquired _ _ _ ⟨message, hmessage, rfl, fun old hlease => ?_⟩, le_rfl,
        hold⟩
      obtain ⟨hreleased, -, hdispatch⟩ := hacquired.vacant old hlease
      exact ⟨hreleased, hdispatch⟩
    · obtain ⟨-, rfl⟩ := Prod.mk.inj (Option.some.inj hstep)
      exact ⟨rfl, rfl, .nothing, le_rfl, hold⟩
  | other d =>
    simp only [Admission.perform] at hstep
    split at hstep
    · exact .of_lift ⟨rfl, rfl, rfl⟩ rfl hstep
    · cases hstep

/-- **A step whose publication keeps the limits keeps them for the occupied
tasks.** -/
theorem admissionStep_limits
    (h : w.LimitsHold (w.delivery.db.taskIds.filter w.delivery.isOccupied))
    (hkeeps : a.KeepsLimits w) (hstep : admissionStep w a answer w') :
    w'.LimitsHold (w'.delivery.db.taskIds.filter w'.delivery.isOccupied) := by
  obtain ⟨hdag, hlimit, hwrites, hclock, hmessages⟩ := admissionStep_effect hstep
  have hsame : ∀ tasks, w.LimitsHold tasks → w'.LimitsHold tasks := by
    intro tasks hlimits
    rw [AdmissionWorld.LimitsHold, hdag, hlimit]
    exact hlimits
  refine hsame _ ?_
  rw [taskIds_of_writes hwrites]
  cases hpublishes : a.publishes with
  | none =>
    refine h.filter fun t ht => ?_
    rcases isOccupied_of_writes hwrites hclock ht with ht | ⟨m, hm, hnew, -⟩
    · exact ht
    · rcases hmessages m hm with hm | hm
      · exact absurd hm hnew
      · cases hpublishes.symm.trans hm
  | some published =>
    refine (hkeeps published hpublishes).filter fun t ht => ?_
    rw [Bool.or_eq_true, decide_eq_true_eq]
    rcases isOccupied_of_writes hwrites hclock ht with ht | ⟨m, hm, hnew, htask⟩
    · exact Or.inr ht
    · rcases hmessages m hm with hm | hm
      · exact absurd hm hnew
      · obtain rfl := Option.some.inj (hpublishes.symm.trans hm)
        exact Or.inl htask

/-- **When the concurrency limits hold over whole runs.**  In every interleaving
in which each publication finds the ACTIVE tasks, the tasks that an accepted
message can still make ACTIVE and the published task within the limits, the
ACTIVE tasks are within the limits at every moment. -/
theorem concurrency_limits_of_publications {runId : UUID} {dag : TaskDAG}
    {maxConcurrentTasks : Option ℕ} {now : Timestamp}
    {es : List (Runs.Event (AdmissionWorld X) (Admission X) (Except Failure Unit))}
    (hrun : Runs.Run admissionStep (AdmissionWorld.created X runId dag maxConcurrentTasks now) es w)
    (hkeeps : ∀ e ∈ es, e.input.KeepsLimits e.before) :
    w.dag = dag ∧ w.maxConcurrentTasks = maxConcurrentTasks ∧ w.LimitsHold w.activeTaskIds := by
  have hinvariant : (w.dag = dag ∧ w.maxConcurrentTasks = maxConcurrentTasks) ∧
      w.LimitsHold (w.delivery.db.taskIds.filter w.delivery.isOccupied) := by
    refine hrun.invariant_of_forall (I := fun w => (w.dag = dag ∧
      w.maxConcurrentTasks = maxConcurrentTasks) ∧
      w.LimitsHold (w.delivery.db.taskIds.filter w.delivery.isOccupied)) ?_ hkeeps ?_
    · rintro w a answer w' ⟨⟨hdag, hlimit⟩, hlimits⟩ hkeep hstep
      have heffect := admissionStep_effect hstep
      exact ⟨⟨heffect.dag.trans hdag, heffect.limit.trans hlimit⟩,
        admissionStep_limits hlimits hkeep hstep⟩
    · have hnone : (AdmissionWorld.created X runId dag maxConcurrentTasks
          now).delivery.db.taskIds.filter (AdmissionWorld.created X runId dag maxConcurrentTasks
          now).delivery.isOccupied = [] :=
        List.filter_eq_nil_iff.2 fun t _ => Bool.false_ne_true
      refine ⟨⟨rfl, rfl⟩, ?_⟩
      rw [hnone]
      exact ⟨fun _ _ => Nat.zero_le _, Nat.zero_le _⟩
  obtain ⟨⟨hdag, hlimit⟩, hlimits⟩ := hinvariant
  refine ⟨hdag, hlimit, hlimits.filter fun t ht => ?_⟩
  exact isOccupied_eq_true.2 (Or.inl ht)

end Runs

/-- Both tasks are dispatched at the start and their messages delivered. -/
def initialDeliveries : List (Admission Unit) :=
  [.dispatchInitial "api" ⟨11⟩, .other (.send ⟨"api", ⟨11⟩⟩ (.called true none)),
    .dispatchInitial "docs" ⟨12⟩, .other (.send ⟨"docs", ⟨12⟩⟩ (.called true none)),
    .deliver ⟨"api", ⟨11⟩⟩ "worker-a" ⟨101⟩ 30, .deliver ⟨"docs", ⟨12⟩⟩ "worker-b" ⟨102⟩ 30]

/-- **With a limit of one, two tasks are ACTIVE:** the initial dispatch publishes
every ready task. -/
theorem initial_dispatch_exceeds_limit :
    ¬∀ (w : AdmissionWorld Unit)
      (es : List (Runs.Event (AdmissionWorld Unit) (Admission Unit) (Except Failure Unit))),
      Runs.Run admissionStep (AdmissionWorld.created Unit ⟨1⟩ readyPair (some 1) 0) es w →
        w.LimitsHold w.activeTaskIds := by
  intro hclaim
  have hfacts : (Runs.exec Admission.perform (AdmissionWorld.created Unit ⟨1⟩ readyPair (some 1) 0)
      initialDeliveries).map (fun r => (r.2.maxConcurrentTasks, r.2.activeTaskIds)) =
        some (some 1, ["api", "docs"]) := by
    decide +kernel
  obtain ⟨⟨es, w⟩, hexec, hw⟩ := Option.map_eq_some_iff.1 hfacts
  obtain ⟨hlimit, hactive⟩ := Prod.mk.inj hw
  have hle := (hclaim w es (Runs.run_of_exec hexec)).1 1 hlimit
  rw [hactive] at hle
  simp at hle

/-- With a limit of two the same deliveries keep the limits at each publication. -/
theorem concurrency_limits_readyPair :
    ∃ es w, Runs.Run admissionStep (AdmissionWorld.created Unit ⟨1⟩ readyPair (some 2) 0) es w ∧
      w.activeTaskIds = ["api", "docs"] ∧ w.LimitsHold w.activeTaskIds := by
  have hfacts : (Runs.exec Admission.perform (AdmissionWorld.created Unit ⟨1⟩ readyPair (some 2) 0)
      initialDeliveries).map (fun r => (r.2.activeTaskIds, r.1.all fun e =>
        e.input.publishes.all fun m => e.before.LimitsHold (e.before.delivery.db.taskIds.filter
          fun t => strip m.taskId = t || e.before.delivery.isOccupied t))) =
        some (["api", "docs"], true) := by
    decide +kernel
  obtain ⟨⟨es, w⟩, hexec, hw⟩ := Option.map_eq_some_iff.1 hfacts
  obtain ⟨hactive, hkeeps⟩ := Prod.mk.inj hw
  have hrun := Runs.run_of_exec hexec
  refine ⟨es, w, hrun, hactive, (concurrency_limits_of_publications hrun fun e he m hm => ?_).2.2⟩
  have hall := List.all_eq_true.1 hkeeps e he
  rw [hm, Option.all_some] at hall
  exact of_decide_eq_true hall

end DevFlow
