/-
# Whether a reconciliation dispatches waiting work

`runtime/reconciler.py` (`IdempotentTaskReconciler.reconcile`) under one whole
`reconcile_run`: the leases are read, the run is classified and planned, and the
admitted prefix is reconciled task by task.

The prefix is cut before anybody asks `prepare_task` what it would do.  A
candidate whose latest attempt is settled some other way keeps its place at the
front and is answered without a dispatch, so a call dispatches exactly when some
candidate that `prepare_task` prepares has few enough candidates before it.
-/

import DevFlow.Dispatch.Consistency
import DevFlow.Runtime.Concurrency
import DevFlow.Runtime.ReconcileOutcome
import DevFlow.Runtime.Recovery

namespace DevFlow

variable {X : Type}

/-- What `uuid4()`, the clock and the broker do during one `reconcile`: the id of
a new attempt, the time until the task is locked, until the guard is entered and
until the broker has answered, and its answer; `none` is a `BrokerConnectionError`. -/
structure ReconcileCall where
  freshId : UUID
  waited : ℕ
  guarded : ℕ
  elapsed : ℕ
  sent : Option (String × String)

/-- The part of `reconcile` under `guard_prepared_publication`. -/
def publishPrepared (call : ReconcileCall) (db : Database X) (now : Timestamp) (taskId : String)
    (attempt : DispatchAttemptRow) (decision : ReconciliationDecision) :
    Except Failure ReconciliationDecision × (Database X × Timestamp) :=
  match guardPreparedPublication db (now + call.guarded) db.runId taskId attempt.dispatchId with
  | .error failure => (.error failure, (db, now + call.guarded))
  | .ok target =>
    let observedAt := now + call.guarded + call.elapsed
    match call.sent with
    | some (messageId, queueName) =>
      match markPublication db observedAt target (.enqueued messageId queueName) with
      | .error failure => (.error failure, (db, observedAt))
      | .ok db => (.ok decision, (db, observedAt))
    | none =>
      match markPublication db observedAt target (.failed "BROKER_CONNECTION_ERROR"
          "Dramatiq broker could not accept reconciliation dispatch") with
      | .error failure => (.error failure, (db, observedAt))
      | .ok db => (.error ⟨.operationalError,
          "Dramatiq broker could not accept reconciliation dispatch"⟩, (db, observedAt))

/-- `IdempotentTaskReconciler.reconcile`. -/
def reconcileTask (calls : String → ReconcileCall) (s : Database X × Timestamp) (taskId : String) :
    Except Failure ReconciliationDecision × (Database X × Timestamp) :=
  let now := s.2 + (calls taskId).waited
  match prepareTask s.1 now (calls taskId).freshId s.1.runId taskId with
  | .error failure => (.error failure, (s.1, now))
  | .ok (decision, db) =>
    if decision.action ≠ .preparedDispatch then (.ok decision, (db, now))
    else match decision.dispatchAttempt.filter fun _ => decision.publishAllowed with
      | some attempt => publishPrepared (calls taskId) db now taskId attempt decision
      | none => (.error ⟨.runtimeError,
          "prepared reconciliation is missing durable publication authority"⟩, (db, now))

/-- The task ids of a snapshot. -/
def snapshotTaskIds (db : Database X) : List String :=
  db.taskIds.insertionSort (· ≤ ·)

/-- A whole `reconcile_run` on tables that nobody else writes meanwhile. -/
def reconcileRunOn (calls : String → ReconcileCall) (dag : TaskDAG)
    (resolve : String → Except Failure TaskExecutionBase) (maxConcurrentTasks : Option ℕ)
    (gates : Option (String → Bool)) (db : Database X) (now : Timestamp) :
    Except Failure RunReconciliationOutcome × (Database X × Timestamp) :=
  match listTaskLeases db now with
  | .error failure => (.error failure, (db, now))
  | .ok leases =>
    match classifyRecovery db.runId db.status (snapshotTaskIds db) db.evidence leases with
    | .error failure => (.error failure, (db, now))
    | .ok recovery => reconcileRun (reconcileTask calls) db.runId db.status (snapshotTaskIds db) dag
        leases recovery resolve maxConcurrentTasks gates (db, now)

/-- The gate-admitted candidates of a plan, in the order of admission. -/
def admittedTasks (dag : TaskDAG) (leases : List TaskLeaseSnapshot) (gates : Option (String → Bool))
    (plan : RunReconciliationPlan) : List String :=
  gateAdmitted gates (highAdmitted dag leases (sortedCandidates dag plan.reconcileTaskIds))

/-- The published attempts whose owner has not acquired yet. -/
def publishedAhead (db : Database X) : ℕ :=
  db.attempts.countP fun row =>
    row.state.value = "ENQUEUED" ∧ db.generation row.taskId < row.attemptNumber

/-- Fewer tasks are in flight than the limit allows. -/
def CapacityFree (db : Database X) (leases : List TaskLeaseSnapshot)
    (maxConcurrentTasks : Option ℕ) : Prop :=
  ∀ limit, maxConcurrentTasks = some limit → activeTasks leases + publishedAhead db < limit

/-- Some admitted candidate was never dispatched. -/
def WorkWaits (db : Database X) (admitted : List String) : Prop :=
  ∃ t ∈ admitted, db.lease t = none ∧ attemptsOf db t = []

/-- **A free slot reaches work:** some admitted candidate is one that
`prepare_task` dispatches, and with the candidates before it and the ACTIVE tasks
it is within the limit. -/
def SlotReachesWork (dag : TaskDAG) (db : Database X) (now : Timestamp)
    (leases : List TaskLeaseSnapshot) (maxConcurrentTasks : Option ℕ) (admitted : List String) :
    Prop :=
  ∃ t ∈ admitted, Idle db now t ∧ ∀ limit, maxConcurrentTasks = some limit →
    activeTasks leases + admitted.countP (fun u => dag.candidateKey u < dag.candidateKey t) < limit

section Calls

variable {calls : String → ReconcileCall} {db : Database X} {now : Timestamp} {taskId : String}

/-- Recording a publication adds no attempt. -/
theorem publishPrepared_length (call : ReconcileCall) (attempt : DispatchAttemptRow)
    (decision : ReconciliationDecision) :
    (publishPrepared call db now taskId attempt decision).2.1.attempts.length =
      db.attempts.length := by
  have hmark : ∀ observedAt target outcome db',
      markPublication db observedAt target outcome = .ok db' →
        db'.attempts.length = db.attempts.length := by
    intro observedAt target outcome db' h
    simp only [markPublication, Raising.bind_eq_ok, Raising.pure_eq_ok] at h
    obtain ⟨_, _, _, _, rfl⟩ := h
    simp [Database.updateAttempt]
  simp only [publishPrepared]
  split
  · rfl
  split <;> split
  · rfl
  · rename_i h
    exact hmark _ _ _ _ h
  · rfl
  · rename_i h
    exact hmark _ _ _ _ h

variable (calls taskId) in
/-- **No call takes an attempt back.** -/
theorem reconcileTask_le (s : Database X × Timestamp) :
    s.1.attempts.length ≤ (reconcileTask calls s taskId).2.1.attempts.length := by
  simp only [reconcileTask]
  split
  · rfl
  rename_i decision db hprepare
  have hle : s.1.attempts.length ≤ db.attempts.length := by
    rcases (prepareTask_eq_ok hprepare).2 with rfl | ⟨row, rfl⟩
    · rfl
    · simp [Database.insertAttempt]
  split_ifs
  · exact hle
  split
  · rw [publishPrepared_length]
    exact hle
  · exact hle

variable (hhistory : History db (strip taskId)) (hfits : textFits (strip taskId) 128)
  (hmember : strip taskId ∈ db.taskIds) (hrunning : db.status = .running)

include hhistory hfits hmember hrunning

variable (calls now) in
/-- A call for a task that is not idle returns and writes nothing. -/
theorem reconcileTask_of_not_idle
    (hidle : ¬Idle db (now + (calls taskId).waited) (strip taskId)) :
    ∃ decision, reconcileTask calls (db, now) taskId =
      (.ok decision, (db, now + (calls taskId).waited)) := by
  obtain ⟨dec, db', hprepare, haction, hdecided⟩ := prepareTask_action_iff
    (now + (calls taskId).waited) (calls taskId).freshId hhistory hfits hmember hrunning
  have hother : dec.action ≠ .preparedDispatch := fun h => hidle (haction.1 h)
  rcases hdecided with ⟨-, rfl⟩ | ⟨hprepared, -⟩
  · refine ⟨dec, ?_⟩
    simp only [reconcileTask, hprepare, if_pos hother]
  · exact absurd hprepared hother

variable (calls now) in
/-- A call for an idle task writes a new attempt. -/
theorem reconcileTask_of_idle (hidle : Idle db (now + (calls taskId).waited) (strip taskId)) :
    db.attempts.length < (reconcileTask calls (db, now) taskId).2.1.attempts.length := by
  obtain ⟨dec, db', hprepare, haction, hdecided⟩ := prepareTask_action_iff
    (now + (calls taskId).waited) (calls taskId).freshId hhistory hfits hmember hrunning
  have hprepared := haction.2 hidle
  have hlt : db.attempts.length < db'.attempts.length := by
    rcases hdecided with ⟨hother, -⟩ | ⟨-, hprep⟩
    · exact absurd hprepared hother
    · simp [hprep.inserted, Database.insertAttempt]
  simp only [reconcileTask, hprepare, hprepared, ne_eq, not_true_eq_false, if_false]
  split
  · rw [publishPrepared_length]
    exact hlt
  · exact hlt

end Calls

/-- A task that the loop is called for, in tables at a clock reading: it belongs to
the RUNNING run, its history is consistent and its lease is not live. -/
structure Candidate (db : Database X) (now : Timestamp) (t : String) : Prop where
  name : strip t = t
  fits : textFits t 128
  member : t ∈ db.taskIds
  running : db.status = .running
  history : History db t
  vacant : ∀ lease, db.lease t = some lease → lease.releasedAt = none → lease.leaseUntil ≤ now

/-- Time does not make a candidate idle. -/
theorem Candidate.idle_iff {db : Database X} {now now' : Timestamp} {t : String}
    (h : Candidate db now t) (hle : now ≤ now') : Idle db now' t ↔ Idle db now t := by
  unfold Idle
  refine or_congr_right (exists_congr fun lease => ?_)
  constructor
  · rintro ⟨hlease, hreleased, -, hrest⟩
    exact ⟨hlease, hreleased, h.vacant lease hlease hreleased, hrest⟩
  · rintro ⟨hlease, hreleased, huntil, hrest⟩
    exact ⟨hlease, hreleased, huntil.trans hle, hrest⟩

section Loop

variable {calls : String → ReconcileCall} {db : Database X} {now now' : Timestamp}
  {taskIds : List String}

/-- The state after the loop is the state after its last call. -/
theorem reconcileEach_cons_state {σ : Type}
    (reconcile : σ → String → Except Failure ReconciliationDecision × σ) (s : σ) (t : String) :
    (reconcileEach reconcile s (t :: taskIds)).2 =
      match reconcile s t with
      | (.error _, s') => s'
      | (.ok _, s') => (reconcileEach reconcile s' taskIds).2 := by
  rcases hcall : reconcile s t with ⟨failure | decision, s'⟩
  · simp only [reconcileEach, hcall]
  · rcases hrest : reconcileEach reconcile s' taskIds with ⟨failure | decisions, s''⟩
    · simp only [reconcileEach, hcall, hrest]
    · simp only [reconcileEach, hcall, hrest]

theorem reconcileEach_le (s : Database X × Timestamp) :
    s.1.attempts.length ≤
      (reconcileEach (reconcileTask calls) s taskIds).2.1.attempts.length := by
  induction taskIds generalizing s with
  | nil => exact le_rfl
  | cons t taskIds ih =>
    have hle := reconcileTask_le calls t s
    rw [reconcileEach_cons_state]
    split
    · rename_i heq
      rwa [heq] at hle
    · rename_i s' heq
      rw [heq] at hle
      exact hle.trans (ih s')

/-- **The loop writes a new attempt exactly when one of its tasks is idle.** -/
theorem reconcileEach_lt_iff (hcandidates : ∀ t ∈ taskIds, Candidate db now t)
    (hle : now ≤ now') :
    db.attempts.length <
        (reconcileEach (reconcileTask calls) (db, now') taskIds).2.1.attempts.length ↔
      ∃ t ∈ taskIds, Idle db now t := by
  induction taskIds generalizing now' with
  | nil => simp [reconcileEach]
  | cons t taskIds ih =>
    rw [List.forall_mem_cons] at hcandidates
    obtain ⟨ht, hrest⟩ := hcandidates
    have hlater : now ≤ now' + (calls t).waited :=
      le_add_of_le_of_nonneg hle (Int.natCast_nonneg _)
    have hidle : Idle db (now' + (calls t).waited) (strip t) ↔ Idle db now t := by
      rw [ht.name]
      exact ht.idle_iff hlater
    have hhistory : History db (strip t) := ht.name.symm ▸ ht.history
    have hfits : textFits (strip t) 128 := ht.name.symm ▸ ht.fits
    have hmember : strip t ∈ db.taskIds := ht.name.symm ▸ ht.member
    rw [reconcileEach_cons_state, List.exists_mem_cons_iff]
    by_cases hfirst : Idle db now t
    · -- the first task is dispatched, and no later call takes that back
      have hlt := reconcileTask_of_idle calls now' hhistory hfits hmember ht.running
        (hidle.2 hfirst)
      refine iff_of_true ?_ (Or.inl hfirst)
      split
      · rename_i heq
        rwa [heq] at hlt
      · rename_i s' heq
        rw [heq] at hlt
        exact hlt.trans_le (reconcileEach_le s')
    · obtain ⟨decision, hcall⟩ := reconcileTask_of_not_idle calls now' hhistory hfits hmember
        ht.running (fun h => hfirst (hidle.1 h))
      simp only [hcall, hfirst, false_or]
      exact ih hrest hlater

end Loop

/-- A prefix of a list with increasing keys holds what has few keys below it. -/
theorem mem_take_iff_countP_lt {α κ : Type} [LinearOrder κ] (key : α → κ) {l : List α} {t : α}
    (hstrict : l.Pairwise fun a b => key a < key b) (ht : t ∈ l) (n : ℕ) :
    t ∈ l.take n ↔ l.countP (fun u => key u < key t) < n := by
  induction l generalizing n with
  | nil => cases ht
  | cons a l ih =>
    obtain ⟨hfirst, hl⟩ := List.pairwise_cons.1 hstrict
    cases n with
    | zero => simp
    | succ n =>
      rw [List.take_succ_cons, List.mem_cons]
      rcases List.mem_cons.1 ht with rfl | hmem
      · have hzero : (t :: l).countP (fun u => key u < key t) = 0 := by
          rw [List.countP_eq_zero]
          intro u hu
          rcases List.mem_cons.1 hu with rfl | hu
          · simp
          · simpa using (hfirst u hu).le
        simp [hzero]
      · have hlt : key a < key t := hfirst t hmem
        have hne : t ≠ a := fun heq => absurd (heq ▸ hlt) (lt_irrefl _)
        rw [List.countP_cons_of_pos (by simpa using hlt), ih hl hmem]
        simp only [hne, false_or]
        omega

theorem textFits_of_isTaskId {t : String} (h : isTaskId t = true) : textFits t 128 := by
  unfold isTaskId at h
  split at h
  · cases h
  · rename_i first rest hchars
    simp only [Bool.and_eq_true, decide_eq_true_eq] at h
    refine ⟨?_, h.2⟩
    rw [← String.length_toList, hchars, List.length_cons]
    omega

section Progress

variable [DecidableEq X] {runId : UUID} {dag : TaskDAG} {start : Timestamp}
  {es : List (Runs.Event (DeliveryWorld X) (Delivery X) (Except Failure Unit))}
  {w : DeliveryWorld X} {leases : List TaskLeaseSnapshot} {recovery : RunRecoveryPlan}
  {resolve : String → Except Failure TaskExecutionBase} {plan : RunReconciliationPlan}
  {maxConcurrentTasks : Option ℕ} {gates : Option (String → Bool)}
  (hrun : Runs.Run deliveryStep (DeliveryWorld.created X runId dag.taskIds start) es w)
  (hleases : listTaskLeases w.db w.now = .ok leases)
  (hrecovery : classifyRecovery w.db.runId w.db.status (snapshotTaskIds w.db) w.db.evidence leases =
    .ok recovery)
  (hplan : buildPlan w.db.runId w.db.status (snapshotTaskIds w.db) dag recovery resolve = .ok plan)

include hrun hleases hrecovery hplan

/-- The candidates of the plan are candidates of the tables. -/
theorem candidate_of_plan {t : String} (ht : t ∈ plan.reconcileTaskIds) :
    Candidate w.db w.now t := by
  have hids : w.db.taskIds = dag.taskIds := by
    refine hrun.invariant (I := fun w => w.db.taskIds = dag.taskIds) ?_ rfl
    intro w d answer w' hids hstep
    rw [taskIds_of_writes (deliveryStep_effect hstep).writes, hids]
  have hpattern : ∀ t ∈ dag.taskIds, isTaskId t = true := by
    intro t ht
    obtain ⟨node, -, rfl⟩ := List.mem_map.1 ht
    exact node.taskId_pattern
  have hsafe : w.Safe :=
    hrun.invariant (fun _ _ _ _ h hstep => h.step hstep) (DeliveryWorld.created_safe hpattern)
  rw [buildPlan_candidates hplan, List.mem_map] at ht
  obtain ⟨record, hrecord, rfl⟩ := ht
  obtain ⟨hrecord, hstate⟩ := List.mem_filter.1 hrecord
  obtain ⟨ready, -, hrecords⟩ := buildPlan_record hplan
  obtain ⟨assessment, hassessment, htask, hcandidate, -⟩ := hrecords record hrecord
  obtain ⟨hrunning, -, hvacant⟩ := hcandidate (by simpa using hstate)
  obtain ⟨decoded, -, -, -, -, hitems⟩ := classifyRecovery_eq_ok hrecovery
  obtain ⟨shown, hshown, rfl⟩ := hitems assessment hassessment
  obtain ⟨-, -, hmember, hshownState, -⟩ := (listTaskLeases_eq_ok hleases).2 shown hshown
  rw [classifyTask_lease.1] at htask
  rw [classifyTask_lease.2, hshownState, htask] at hvacant
  rw [htask] at hmember
  have hpattern := hpattern _ (hids ▸ hmember)
  refine ⟨strip_of_isTaskId hpattern, textFits_of_isTaskId hpattern, hmember, hrunning,
    hsafe.ledger.history _, fun lease hlease hreleased => ?_⟩
  by_contra hlive
  simp [leaseState, hlease, hreleased, hlive] at hvacant

/-- **When a reconciliation dispatches waiting work.**  In every reachable state
of the run, with any plan and any limit: while capacity is free and some admitted
candidate was never dispatched, one `reconcile_run` prepares a new dispatch
exactly when a free slot reaches a candidate that `prepare_task` dispatches. -/
theorem reconcile_run_progress_iff (calls : String → ReconcileCall) :
    (CapacityFree w.db leases maxConcurrentTasks →
      WorkWaits w.db (admittedTasks dag leases gates plan) →
        w.db.attempts.length < (reconcileRunOn calls dag resolve maxConcurrentTasks gates w.db
          w.now).2.1.attempts.length) ↔
    (CapacityFree w.db leases maxConcurrentTasks →
      WorkWaits w.db (admittedTasks dag leases gates plan) →
        SlotReachesWork dag w.db w.now leases maxConcurrentTasks
          (admittedTasks dag leases gates plan)) := by
  obtain ⟨hsub, hnodup⟩ := buildPlan_eq_ok hplan
  set admitted := admittedTasks dag leases gates plan with hadmitted
  have hwithin : admitted.Sublist (sortedCandidates dag plan.reconcileTaskIds) :=
    gateAdmitted_sublist.trans highAdmitted_sublist
  have hstrict : admitted.Pairwise fun a b => dag.candidateKey a < dag.candidateKey b :=
    (sortedCandidates_strict hsub hnodup).sublist hwithin
  have hmem : ∀ t ∈ admitted, t ∈ plan.reconcileTaskIds :=
    fun t ht => (List.mem_insertionSort _).1 (hwithin.subset ht)
  have hstate : (reconcileRunOn calls dag resolve maxConcurrentTasks gates w.db w.now).2 =
      (reconcileEach (reconcileTask calls) (w.db, w.now)
        (selectedTasks dag leases maxConcurrentTasks gates plan)).2 := by
    simp only [reconcileRunOn, hleases, hrecovery, reconcileRun, hplan]
    rcases reconcileEach (reconcileTask calls) (w.db, w.now)
      (selectedTasks dag leases maxConcurrentTasks gates plan) with ⟨failure | decisions, s⟩ <;> rfl
  have hselected : selectedTasks dag leases maxConcurrentTasks gates plan =
      admitted.take (availableSlots maxConcurrentTasks leases plan.reconcileTaskIds.length) := rfl
  have hcandidates : ∀ t ∈ selectedTasks dag leases maxConcurrentTasks gates plan,
      Candidate w.db w.now t := by
    intro t ht
    rw [hselected] at ht
    exact candidate_of_plan hrun hleases hrecovery hplan (hmem t (List.mem_of_mem_take ht))
  -- the slots as a bound on the candidates before a task
  have hslots : ∀ t ∈ admitted, (t ∈ selectedTasks dag leases maxConcurrentTasks gates plan ↔
      ∀ limit, maxConcurrentTasks = some limit → activeTasks leases +
        admitted.countP (fun u => dag.candidateKey u < dag.candidateKey t) < limit) := by
    intro t ht
    rw [hselected, mem_take_iff_countP_lt dag.candidateKey hstrict ht]
    cases maxConcurrentTasks with
    | none =>
      have hcount : admitted.countP (fun u => dag.candidateKey u < dag.candidateKey t) <
          admitted.length := by
        refine lt_of_le_of_ne List.countP_le_length fun hall => ?_
        simpa using List.countP_eq_length.1 hall t ht
      have hlength : admitted.length ≤ plan.reconcileTaskIds.length :=
        hwithin.length_le.trans_eq (List.length_insertionSort _ _)
      simpa [availableSlots] using hcount.trans_le hlength
    | some limit =>
      simp only [availableSlots, Option.some.injEq, forall_eq']
      omega
  refine imp_congr_right fun _ => imp_congr_right fun _ => ?_
  rw [hstate, reconcileEach_lt_iff hcandidates le_rfl, SlotReachesWork]
  constructor
  · rintro ⟨t, ht, hidle⟩
    have htadmitted : t ∈ admitted := List.mem_of_mem_take (hselected ▸ ht)
    exact ⟨t, htadmitted, hidle, (hslots t htadmitted).1 ht⟩
  · rintro ⟨t, ht, hidle, hfits⟩
    exact ⟨t, (hslots t ht).2 hfits, hidle⟩

end Progress

/-- The broker refuses the first dispatch of one of two independent tasks. -/
def refusedDispatch : List (Delivery Unit) :=
  [.dispatch "api" ⟨11⟩,
    .send ⟨"api", ⟨11⟩⟩ (.called false
      (some (.failed "BROKER_CONNECTION_ERROR" "Dramatiq broker is unavailable"))),
    .record ⟨"api", ⟨11⟩⟩ (.failed "BROKER_CONNECTION_ERROR" "Dramatiq broker is unavailable")]

/-- A broker that answers, with a fresh id for each task. -/
def answeringCalls (taskId : String) : ReconcileCall :=
  ⟨⟨20 + taskId.length⟩, 0, 0, 0, some ("message-" ++ taskId, "devflow")⟩

/-- What `reconcile_run` finds after `refusedDispatch`: capacity, the admitted
candidates, that the second of them was never dispatched, and the number of
attempts before and after it with a limit of one. -/
theorem refusedDispatch_facts :
    ∃ es w leases recovery plan,
      Runs.Run deliveryStep (DeliveryWorld.created Unit ⟨1⟩ readyPair.taskIds 0) es w ∧
      listTaskLeases w.db w.now = .ok leases ∧
      classifyRecovery w.db.runId w.db.status (snapshotTaskIds w.db) w.db.evidence leases =
        .ok recovery ∧
      buildPlan w.db.runId w.db.status (snapshotTaskIds w.db) readyPair recovery runBaseOf =
        .ok plan ∧
      activeTasks leases + publishedAhead w.db = 0 ∧
      admittedTasks readyPair leases none plan = ["api", "docs"] ∧
      (w.db.lease "docs" = none ∧ attemptsOf w.db "docs" = []) ∧ w.db.attempts.length = 1 ∧
      (reconcileRunOn answeringCalls readyPair runBaseOf (some 1) none w.db
        w.now).2.1.attempts.length = 1 := by
  have hfacts : (Runs.exec Delivery.perform
      (DeliveryWorld.created Unit ⟨1⟩ readyPair.taskIds 0) refusedDispatch).bind (fun r =>
        (listTaskLeases r.2.db r.2.now).toOption.bind fun leases =>
          (classifyRecovery r.2.db.runId r.2.db.status (snapshotTaskIds r.2.db) r.2.db.evidence
              leases).toOption.bind fun recovery =>
            (buildPlan r.2.db.runId r.2.db.status (snapshotTaskIds r.2.db) readyPair recovery
                runBaseOf).toOption.map fun plan =>
              (activeTasks leases + publishedAhead r.2.db,
                admittedTasks readyPair leases none plan, (r.2.db.lease "docs").isNone,
                (attemptsOf r.2.db "docs").length, r.2.db.attempts.length,
                (reconcileRunOn answeringCalls readyPair runBaseOf (some 1) none r.2.db
                  r.2.now).2.1.attempts.length)) =
      some (0, ["api", "docs"], true, 0, 1, 1) := by
    decide +kernel
  obtain ⟨⟨es, w⟩, hexec, hw⟩ := Option.bind_eq_some_iff.1 hfacts
  simp only [Option.bind_eq_some_iff, Option.map_eq_some_iff, Raising.toOption_eq_some,
    Prod.mk.injEq] at hw
  obtain ⟨leases, hleases, recovery, hrecovery, plan, hplan, hcapacity, hadmitted, hlease, hattempts,
    hbefore, hafter⟩ := hw
  exact ⟨es, w, leases, recovery, plan, Runs.run_of_exec hexec, hleases, hrecovery, hplan,
    hcapacity, hadmitted,
    ⟨Option.isNone_iff_eq_none.1 hlease, List.length_eq_zero_iff.1 hattempts⟩, hbefore, hafter⟩

/-- **The refused task starves the other one:** with one slot the call reconciles
the task whose publication failed, and dispatches nothing. -/
theorem refused_dispatch_starves :
    ¬∀ (w : DeliveryWorld Unit)
      (es : List (Runs.Event (DeliveryWorld Unit) (Delivery Unit) (Except Failure Unit)))
      (leases : List TaskLeaseSnapshot) (recovery : RunRecoveryPlan)
      (plan : RunReconciliationPlan),
      Runs.Run deliveryStep (DeliveryWorld.created Unit ⟨1⟩ readyPair.taskIds 0) es w →
      listTaskLeases w.db w.now = .ok leases →
      classifyRecovery w.db.runId w.db.status (snapshotTaskIds w.db) w.db.evidence leases =
        .ok recovery →
      buildPlan w.db.runId w.db.status (snapshotTaskIds w.db) readyPair recovery runBaseOf =
        .ok plan →
      CapacityFree w.db leases (some 1) → WorkWaits w.db (admittedTasks readyPair leases none plan) →
        w.db.attempts.length < (reconcileRunOn answeringCalls readyPair runBaseOf (some 1) none w.db
          w.now).2.1.attempts.length := by
  intro hclaim
  obtain ⟨es, w, leases, recovery, plan, hrun, hleases, hrecovery, hplan, hcapacity, hadmitted,
    hdocs, hbefore, hafter⟩ := refusedDispatch_facts
  have hfree : CapacityFree w.db leases (some 1) := by
    rintro limit hlimit
    obtain rfl := Option.some.inj hlimit
    omega
  have hlt := hclaim w es leases recovery plan hrun hleases hrecovery hplan hfree
    ⟨"docs", by rw [hadmitted]; decide, hdocs⟩
  omega

/-- With two slots the second one reaches the waiting task. -/
theorem reconcile_run_progress_two_slots :
    ∃ es w leases recovery plan,
      Runs.Run deliveryStep (DeliveryWorld.created Unit ⟨1⟩ readyPair.taskIds 0) es w ∧
      listTaskLeases w.db w.now = .ok leases ∧
      classifyRecovery w.db.runId w.db.status (snapshotTaskIds w.db) w.db.evidence leases =
        .ok recovery ∧
      buildPlan w.db.runId w.db.status (snapshotTaskIds w.db) readyPair recovery runBaseOf =
        .ok plan ∧
      CapacityFree w.db leases (some 2) ∧ WorkWaits w.db (admittedTasks readyPair leases none plan) ∧
      w.db.attempts.length < (reconcileRunOn answeringCalls readyPair runBaseOf (some 2) none w.db
        w.now).2.1.attempts.length := by
  obtain ⟨es, w, leases, recovery, plan, hrun, hleases, hrecovery, hplan, hcapacity, hadmitted,
    hdocs, -, -⟩ := refusedDispatch_facts
  have hfree : CapacityFree w.db leases (some 2) := by
    rintro limit hlimit
    obtain rfl := Option.some.inj hlimit
    omega
  have hwaits : WorkWaits w.db (admittedTasks readyPair leases none plan) :=
    ⟨"docs", by rw [hadmitted]; decide, hdocs⟩
  have hreaches : SlotReachesWork readyPair w.db w.now leases (some 2)
      (admittedTasks readyPair leases none plan) := by
    refine ⟨"docs", by rw [hadmitted]; decide, Or.inl hdocs, ?_⟩
    rintro limit hlimit
    obtain rfl := Option.some.inj hlimit
    have hbefore : (admittedTasks readyPair leases none plan).countP (fun u =>
        readyPair.candidateKey u < readyPair.candidateKey "docs") = 1 := by
      rw [hadmitted]
      decide +kernel
    omega
  exact ⟨es, w, leases, recovery, plan, hrun, hleases, hrecovery, hplan, hfree, hwaits,
    (reconcile_run_progress_iff hrun hleases hrecovery hplan answeringCalls).2
      (fun _ _ => hreaches) hfree hwaits⟩

end DevFlow
