/-
# Ledger, lease and evidence agree in every reachable world

Attempts keep their identity and evidence is never taken back (`Keeps`), so that
what the invariant says about a dispatch with terminal evidence stays so: its
attempt is the last one and its generation the current one, from then on.
-/

import DevFlow.Dispatch.DeliveryRuns

namespace DevFlow

variable {X : Type}

/-- What was recorded stays recorded. -/
structure Keeps (db db' : Database X) : Prop where
  attempts : ∀ t, ∀ a ∈ attemptsOf db t, ∃ a' ∈ attemptsOf db' t, a'.identity = a.identity
  evidence : ∀ row ∈ db.evidence, row ∈ db'.evidence

namespace Keeps

variable {db db' : Database X}

theorem of_eq (hattempts : db'.attempts = db.attempts) (hevidence : db'.evidence = db.evidence) :
    Keeps db db' := by
  refine ⟨fun t a ha => ⟨a, ?_, rfl⟩, fun row hrow => hevidence ▸ hrow⟩
  rwa [attemptsOf, hattempts]

theorem insertAttempt (row : DispatchAttemptRow) : Keeps db (db.insertAttempt row) := by
  refine ⟨fun t a ha => ⟨a, ?_, rfl⟩, fun _ hrow => hrow⟩
  rw [Ledger.attemptsOf_insert]
  exact List.mem_append_left _ ha

theorem updateAttempt (d : UUID) (state : AttemptState) (updatedAt : Timestamp) :
    Keeps db (db.updateAttempt d fun row => { row with state, updatedAt }) := by
  refine ⟨fun t a ha => ?_, fun _ hrow => hrow⟩
  refine ⟨if a.dispatchId = d then { a with state, updatedAt } else a, ?_, ?_⟩
  · rw [Ledger.attemptsOf_update _ _ (fun row => { row with state, updatedAt }) fun _ => rfl]
    exact List.mem_map_of_mem ha
  · by_cases hid : a.dispatchId = d
    · rw [if_pos hid]
      rfl
    · rw [if_neg hid]

theorem insertEvidence (row : EvidenceRow X) (timeline : Timeline X) :
    Keeps db (db.insertEvidence row timeline) :=
  ⟨fun _ a ha => ⟨a, ha, rfl⟩, fun _ hrow => List.mem_append_left _ hrow⟩

/-- No write takes back an attempt or an evidence row. -/
theorem of_writes {w : DeliveryWorld X} (h : StepWrites w db') : Keeps w.db db' := by
  cases h with
  | nothing => exact of_eq rfl rfl
  | attempt row => exact insertAttempt row
  | outcome d state updatedAt => exact updateAttempt d state updatedAt
  | acquired t lease timeline hfresh =>
    refine of_eq ?_ ?_
    · rfl
    · rfl
  | touched t lease lease' timeline hlease hlive hdispatch =>
    refine of_eq ?_ ?_
    · rfl
    · rfl
  | evidence row timeline => exact insertEvidence row timeline
  | ids n => exact of_eq rfl rfl

theorem executed (h : Keeps db db') {t : String} {d : UUID} (hexecuted : Executed db t d) :
    Executed db' t d := by
  obtain ⟨row, hrow, hkey⟩ := hexecuted
  refine ⟨row, ?_, hkey⟩
  rw [workerSideRows, List.mem_filter] at hrow ⊢
  exact ⟨h.evidence row hrow.1, hrow.2⟩

end Keeps

variable [DecidableEq X]

/-- The world of a run that `create_run` has just written. -/
def DeliveryWorld.created (X : Type) (runId : UUID) (taskIds : List String) (now : Timestamp) :
    DeliveryWorld X where
  db := Database.created X runId taskIds
  now := now
  dispatching := []
  prepared := []
  inFlight := []
  sent := []
  observed := []
  holders := []
  tokens := []

omit [DecidableEq X] in
theorem DeliveryWorld.created_safe {runId : UUID} {taskIds : List String} {now : Timestamp}
    (hnames : ∀ t ∈ taskIds, isTaskId t = true) :
    (DeliveryWorld.created X runId taskIds now).Safe := by
  have hrows : ∀ t, workerSideRows (Database.created X runId taskIds) t = [] := fun _ => rfl
  have hattempts : ∀ t, attemptsOf (Database.created X runId taskIds) t = [] := fun _ => rfl
  have hlease : ∀ t, (Database.created X runId taskIds).lease t = none := fun _ => rfl
  have hexecuted : ∀ t d, ¬Executed (Database.created X runId taskIds) t d := by
    rintro t d ⟨row, hrow, -⟩
    cases hrow
  constructor
  · refine ⟨fun t => ?_, List.nodup_nil, by simp [created, Database.created], ?_, ?_, ?_⟩
    · constructor <;> simp [created, hrows, hattempts, hlease, Database.generation]
    · intro t lease hlease
      cases hlease
    · intro t row hrow
      cases hrow
    · intro t d hrow
      exact absurd hrow (hexecuted t d)
  · exact fun t ht => strip_of_isTaskId (hnames t ht)
  all_goals simp [created, pending, Database.created]

/-- A dispatch whose terminal evidence is in: its attempt is the last, and its
generation the current one. -/
structure Settled (w : DeliveryWorld X) (t : String) (a : DispatchAttemptRow) : Prop where
  safe : w.Safe
  executed : Executed w.db t a.dispatchId
  attempt : ∃ a' ∈ attemptsOf w.db t, a'.identity = a.identity

omit [DecidableEq X] in
theorem Settled.counts {w : DeliveryWorld X} {t : String} {a : DispatchAttemptRow}
    (h : Settled w t a) :
    w.db.generation t = a.attemptNumber ∧ (attemptsOf w.db t).length = a.attemptNumber := by
  obtain ⟨lease, hlease, hdispatch, hlength⟩ := h.safe.ledger.terminal t _ h.executed
  have hhistory := h.safe.ledger.history t
  obtain ⟨owner, howner, hid, hnumber⟩ := hhistory.owner lease hlease
  obtain ⟨a', ha', hidentity⟩ := h.attempt
  obtain ⟨hid', hnumber'⟩ := Prod.mk.inj hidentity
  have hsame : a' = owner := by
    refine List.inj_on_of_nodup_map hhistory.ids ha' howner ?_
    rw [hid', hid, hdispatch]
  have hgeneration : lease.generation = a.attemptNumber := by
    rw [← hnumber, ← hsame]
    exact hnumber'
  exact ⟨(hhistory.generation_eq hlease).trans hgeneration, hlength.trans hgeneration⟩

/-- **A settled dispatch stays settled.** -/
theorem Settled.step {w w' : DeliveryWorld X} {t : String} {a : DispatchAttemptRow} {d : Delivery X}
    {answer : Except Failure Unit} (h : Settled w t a) (hstep : deliveryStep w d answer w') :
    Settled w' t a := by
  have hkeeps := Keeps.of_writes (deliveryStep_effect hstep).writes
  refine ⟨h.safe.step hstep, hkeeps.executed h.executed, ?_⟩
  obtain ⟨a', ha', hidentity⟩ := h.attempt
  obtain ⟨a'', ha'', hidentity'⟩ := hkeeps.attempts t a' ha'
  exact ⟨a'', ha'', hidentity'.trans hidentity⟩

/-- **The dispatch ledger, the lease and the evidence of a task agree in every
reachable world**, under a broker that delivers what it accepted at most once. -/
theorem dispatch_ledger_consistent {runId : UUID} {taskIds : List String} {now : Timestamp}
    (hnames : ∀ t ∈ taskIds, isTaskId t = true)
    {es : List (Runs.Event (DeliveryWorld X) (Delivery X) (Except Failure Unit))}
    {w : DeliveryWorld X}
    (hrun : Runs.Run deliveryStep (DeliveryWorld.created X runId taskIds now) es w)
    (taskId : String) :
    -- attempts are numbered 1, …, n
    (attemptsOf w.db taskId).map DispatchAttemptRow.attemptNumber =
      List.range' 1 (attemptsOf w.db taskId).length ∧
    -- n - 1 ≤ g ≤ n, and the lease belongs to attempt g
    (attemptsOf w.db taskId).length ≤ w.db.generation taskId + 1 ∧
    w.db.generation taskId ≤ (attemptsOf w.db taskId).length ∧
    (∀ lease, w.db.lease taskId = some lease →
      ∃ a ∈ attemptsOf w.db taskId, a.dispatchId = lease.dispatchId ∧
        a.attemptNumber = w.db.generation taskId) ∧
    -- a dispatch is handed to the broker at most once
    (w.sent.map Message.dispatchId).Nodup ∧
    -- terminal evidence is of an attempt that was acquired
    (∀ d, Executed w.db taskId d →
      ∃ a ∈ attemptsOf w.db taskId, a.dispatchId = d ∧
        a.attemptNumber ≤ w.db.generation taskId) ∧
    -- after the terminal evidence of the current attempt nothing is prepared or acquired
    (∀ lease, w.db.lease taskId = some lease → Executed w.db taskId lease.dispatchId →
      ∀ es' w', Runs.Run deliveryStep w es' w' →
        (attemptsOf w'.db taskId).length = (attemptsOf w.db taskId).length ∧
          w'.db.generation taskId = w.db.generation taskId) ∧
    -- `prepare_task` finds no corruption
    (∀ freshId requestedRun requestedTask failure,
      prepareTask w.db w.now freshId requestedRun requestedTask = .error failure →
        failure.kind ≠ .persistenceCorruption) := by
  have hsafe : w.Safe :=
    hrun.invariant (fun _ _ _ _ h hstep => h.step hstep) (DeliveryWorld.created_safe hnames)
  have hhistory := hsafe.ledger.history taskId
  have howner : ∀ lease, w.db.lease taskId = some lease →
      ∃ a ∈ attemptsOf w.db taskId, a.dispatchId = lease.dispatchId ∧
        a.attemptNumber = w.db.generation taskId := by
    intro lease hlease
    rw [hhistory.generation_eq hlease]
    exact hhistory.owner lease hlease
  refine ⟨hhistory.numbers, hhistory.ahead, hhistory.behind, howner, hsafe.sentOnce, ?_, ?_, ?_⟩
  · intro d hexecuted
    obtain ⟨lease, hlease, rfl, -⟩ := hsafe.ledger.terminal taskId d hexecuted
    obtain ⟨a, ha, hid, hnumber⟩ := howner lease hlease
    exact ⟨a, ha, hid, hnumber.le⟩
  · intro lease hlease hexecuted es' w' hrun'
    obtain ⟨a, ha, hid, -⟩ := howner lease hlease
    have hsettled : Settled w taskId a := ⟨hsafe, hid ▸ hexecuted, a, ha, rfl⟩
    have hsettled' : Settled w' taskId a :=
      hrun'.invariant (I := fun w => Settled w taskId a) (fun _ _ _ _ h hstep => h.step hstep)
        hsettled
    rw [hsettled.counts.1, hsettled.counts.2, hsettled'.counts.1, hsettled'.counts.2]
    exact ⟨rfl, rfl⟩
  · intro freshId requestedRun requestedTask failure hfail
    rcases prepareTask_spec requestedRun w.now freshId
        (hsafe.ledger.history (strip requestedTask)) with ⟨failure', hfail', hkind⟩ | ⟨_, _, hok, -⟩
    · obtain rfl := Except.error.inj (hfail'.symm.trans hfail)
      rw [hkind]
      exact fun heq => by cases heq
    · cases hok.symm.trans hfail

/-- The execution that the second worker of `recoveredDeliveries` reports. -/
def recoveredExecution : WorkerExecutionEvidence Unit where
  dispatchId := ⟨12⟩
  runId := ⟨1⟩
  taskId := "build"
  status := .failed
  baseCommit := "base"
  commitSha := none
  content := ()
  success_commit := ExecutionStatus.failed_not_succeeded
  failure_commit := ExecutionStatus.failed_commit

/-- The first worker lets its lease expire; the reconciler publishes attempt 2
and stops before it records the broker's answer; the second worker executes. -/
def recoveredDeliveries : List (Delivery Unit) :=
  [.dispatch "build" ⟨11⟩,
    .send ⟨"build", ⟨11⟩⟩ (.called true (some (.enqueued "message-1" "devflow"))),
    .record ⟨"build", ⟨11⟩⟩ (.enqueued "message-1" "devflow"),
    .acquire ⟨"build", ⟨11⟩⟩ "worker-a" ⟨101⟩ 30, .tick 40000000, .prepare "build" ⟨12⟩,
    .publish ⟨"build", ⟨12⟩⟩ (.called true none) 0,
    .acquire ⟨"build", ⟨12⟩⟩ "worker-b" ⟨102⟩ 30,
    .execute ⟨⟨"build", ⟨12⟩⟩, "worker-b", ⟨102⟩, false⟩ recoveredExecution,
    .release ⟨⟨"build", ⟨12⟩⟩, "worker-b", ⟨102⟩, true⟩]

/-- A run with a takeover and a terminal execution, and what the general theorem
says of its end. -/
theorem dispatch_ledger_consistent_recovered :
    ∃ es w, Runs.Run deliveryStep (DeliveryWorld.created Unit ⟨1⟩ ["build"] 0) es w ∧
      w.db.generation "build" = 2 ∧ w.sent.length = 2 ∧ w.db.evidence.length = 1 ∧
      (attemptsOf w.db "build").map DispatchAttemptRow.attemptNumber =
        List.range' 1 (attemptsOf w.db "build").length := by
  have hfacts : (Runs.exec Delivery.perform (DeliveryWorld.created Unit ⟨1⟩ ["build"] 0)
      recoveredDeliveries).map
        (fun r => (r.2.db.generation "build", r.2.sent.length, r.2.db.evidence.length)) =
      some (2, 2, 1) := by
    decide +kernel
  obtain ⟨⟨es, w⟩, hexec, hw⟩ := Option.map_eq_some_iff.1 hfacts
  obtain ⟨hgeneration, hrest⟩ := Prod.mk.inj hw
  obtain ⟨hsent, hevidence⟩ := Prod.mk.inj hrest
  have hrun := Runs.run_of_exec hexec
  exact ⟨es, w, hrun, hgeneration, hsent, hevidence,
    (dispatch_ledger_consistent (by decide +kernel) hrun "build").1⟩

end DevFlow
