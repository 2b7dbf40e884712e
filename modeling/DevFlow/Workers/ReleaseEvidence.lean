/-
# A released lease and its terminal evidence

In `QueuedTaskWorker.execute` terminal evidence comes before the release on the
paths that the two handlers cover.  Three ways out are not covered: a failure
before the `try`, a cancellation before the terminal append has committed, and
an append of the failure handler that does not commit.  In every run in which no
worker leaves on one of these while it holds its live lease, a RELEASED lease
has the WORKER_EXECUTION evidence of the dispatch that owned it.
-/

import DevFlow.Workers.Executor

namespace DevFlow

variable {X : Type}

instance (db : Database X) (t : String) (d : UUID) : Decidable (Executed db t d) :=
  inferInstanceAs (Decidable (∃ row ∈ workerSideRows db t, row.workerKey = some (d, none)))

/-- The worker's own token is that of the live lease of its task. -/
def WorkerWorld.HoldsLive (w : WorkerWorld X) (p : WorkerProcess) : Prop :=
  ∃ lease, w.db.lease (strip p.message.taskId) = some lease ∧ lease.runToken = p.token ∧
    lease.Live w.now

/-- The worker's execution is recorded, or it does not hold its lease any more. -/
def WorkerWorld.Covered (w : WorkerWorld X) (p : WorkerProcess) : Prop :=
  Executed w.db (strip p.message.taskId) p.message.dispatchId ∨ ¬w.HoldsLive p

/-- The phases after the terminal evidence, or after a way out that bypassed it. -/
def WorkerPhase.isLeaving : WorkerPhase → Bool
  | .persisted | .handled | .returned | .raised => true
  | _ => false

/-- **Every released lease has the terminal evidence of its dispatch.** -/
def WorkerWorld.ReleasedExecuted (w : WorkerWorld X) : Prop :=
  ∀ t lease, w.db.lease t = some lease → lease.releasedAt ≠ none →
    Executed w.db t lease.dispatchId

/-- The invariant. -/
structure WorkerWorld.Recorded (w : WorkerWorld X) : Prop where
  released : w.ReleasedExecuted
  tokens : ∀ t lease, w.db.lease t = some lease → lease.runToken ∈ w.tokens
  /-- The token of a worker is the token of its own dispatch. -/
  owner : ∀ p ∈ w.workers, p.token ∈ w.tokens ∧
    ∀ lease, w.db.lease (strip p.message.taskId) = some lease → lease.runToken = p.token →
      lease.dispatchId = p.message.dispatchId
  covered : ∀ p ∈ w.workers, p.phase.isLeaving = true → w.Covered p

/-- What a lease of `w'` comes from: the lease of the task in `w`, which was live
if this one is, or a new token. -/
def LeaseFrom (w w' : WorkerWorld X) (t : String) (lease' : Lease) : Prop :=
  (∃ lease, w.db.lease t = some lease ∧ lease'.runToken = lease.runToken ∧
    lease'.dispatchId = lease.dispatchId ∧ (lease'.Live w'.now → lease.Live w.now) ∧
    (lease'.releasedAt ≠ none →
      lease.releasedAt ≠ none ∨ Executed w.db t lease.dispatchId)) ∨
  (lease'.runToken ∉ w.tokens ∧ lease'.runToken ∈ w'.tokens ∧ lease'.releasedAt = none)

/-- How the tables of a world develop in a step. -/
structure Develops (w w' : WorkerWorld X) : Prop where
  executed : ∀ t d, Executed w.db t d → Executed w'.db t d
  tokens : ∀ τ ∈ w.tokens, τ ∈ w'.tokens
  lease : ∀ t lease', w'.db.lease t = some lease' → LeaseFrom w w' t lease'

namespace Develops

variable {w w' : WorkerWorld X}

theorem covered (h : Develops w w') {p p' : WorkerProcess} (hp : p.token ∈ w.tokens)
    (hmessage : p'.message = p.message) (htoken : p'.token = p.token) (hcovered : w.Covered p) :
    w'.Covered p' := by
  unfold WorkerWorld.Covered WorkerWorld.HoldsLive
  rw [hmessage, htoken]
  rcases hcovered with hexecuted | hdead
  · exact Or.inl (h.executed _ _ hexecuted)
  · right
    rintro ⟨lease', hlease', htoken', hlive⟩
    rcases h.lease _ _ hlease' with ⟨lease, hlease, hsame, -, hback, -⟩ | ⟨hfresh, -⟩
    · exact hdead ⟨lease, hlease, hsame ▸ htoken', hback hlive⟩
    · exact hfresh (htoken' ▸ hp)

/-- The leases are as they were: evidence, a status or time was written. -/
theorem of_lease_eq (hexecuted : ∀ t d, Executed w.db t d → Executed w'.db t d)
    (htokens : w'.tokens = w.tokens) (hlease : w'.db.lease = w.db.lease)
    (hclock : w.now ≤ w'.now) : Develops w w' where
  executed := hexecuted
  tokens := fun τ hτ => htokens ▸ hτ
  lease := by
    intro t lease' hlease'
    rw [hlease] at hlease'
    refine Or.inl ⟨lease', hlease', rfl, rfl, fun hlive => ?_, Or.inl⟩
    exact ⟨hlive.1, lt_of_le_of_lt hclock hlive.2⟩

/-- A live lease is rewritten by its owner. -/
theorem of_touched {t : String} {lease lease' : Lease} {timeline : Timeline X}
    (hdb : w'.db = { w.db.setLease t lease' with timeline }) (hclock : w'.now = w.now)
    (htokens : w'.tokens = w.tokens) (hlease : w.db.lease t = some lease)
    (hlive : lease.Live w.now) (htoken : lease'.runToken = lease.runToken)
    (hdispatch : lease'.dispatchId = lease.dispatchId)
    (hreleased : lease'.releasedAt = none ∨ Executed w.db t lease.dispatchId) :
    Develops w w' where
  executed := by
    intro t d hexecuted
    have hevidence : w'.db.evidence = w.db.evidence := by rw [hdb]; rfl
    rwa [Executed, workerSideRows, hevidence]
  tokens := fun τ hτ => htokens ▸ hτ
  lease := by
    intro t' l hl
    have hrows : w'.db.lease = (w.db.setLease t lease').lease := by rw [hdb]
    rw [hrows] at hl
    by_cases ht : t' = t
    · subst ht
      rw [Database.setLease_lease_self] at hl
      obtain rfl := Option.some.inj hl
      refine Or.inl ⟨lease, hlease, htoken, hdispatch, fun _ => hlive, fun hne => ?_⟩
      exact hreleased.elim (fun hnone => absurd hnone hne) Or.inr
    · rw [w.db.setLease_lease_of_ne lease' ht] at hl
      exact Or.inl ⟨l, hl, rfl, rfl, fun hlive => hclock ▸ hlive, Or.inl⟩

/-- A new generation. -/
theorem of_acquired {t : String} {lease : Lease} {timeline : Timeline X}
    (hdb : w'.db = { w.db.setLease t lease with timeline }) (hclock : w'.now = w.now)
    (htokens : w'.tokens = lease.runToken :: w.tokens) (hfresh : lease.runToken ∉ w.tokens)
    (hreleased : lease.releasedAt = none) : Develops w w' where
  executed := by
    intro t d hexecuted
    have hevidence : w'.db.evidence = w.db.evidence := by rw [hdb]; rfl
    rwa [Executed, workerSideRows, hevidence]
  tokens := fun τ hτ => htokens ▸ List.mem_cons_of_mem _ hτ
  lease := by
    intro t' l hl
    have hrows : w'.db.lease = (w.db.setLease t lease).lease := by rw [hdb]
    rw [hrows] at hl
    by_cases ht : t' = t
    · subst ht
      rw [Database.setLease_lease_self] at hl
      obtain rfl := Option.some.inj hl
      exact Or.inr ⟨hfresh, htokens ▸ List.mem_cons_self, hreleased⟩
    · rw [w.db.setLease_lease_of_ne lease ht] at hl
      exact Or.inl ⟨l, hl, rfl, rfl, fun hlive => hclock ▸ hlive, Or.inl⟩

end Develops

namespace WorkerWorld.Recorded

variable {w w' : WorkerWorld X}

/-- **What a step has to show:** how the tables develop, and that a worker that
starts to leave is covered. -/
theorem of_develops (h : w.Recorded) (hdevelops : Develops w w')
    (hworkers : ∀ p' ∈ w'.workers,
      (∃ p ∈ w.workers, p'.message = p.message ∧ p'.token = p.token ∧
        (p'.phase.isLeaving = true → p.phase.isLeaving = true ∨ w'.Covered p')) ∨
      (p'.token ∉ w.tokens ∧ p'.token ∈ w'.tokens ∧ p'.phase.isLeaving = false ∧
        ∀ lease, w'.db.lease (strip p'.message.taskId) = some lease → lease.runToken = p'.token →
          lease.dispatchId = p'.message.dispatchId)) : w'.Recorded where
  released := by
    intro t lease' hlease' hreleased
    rcases hdevelops.lease t lease' hlease' with
      ⟨lease, hlease, -, hdispatch, -, hback⟩ | ⟨-, -, hnone⟩
    · rw [hdispatch]
      refine hdevelops.executed _ _ ?_
      exact (hback hreleased).elim (h.released t lease hlease) id
    · exact absurd hnone hreleased
  tokens := by
    intro t lease' hlease'
    rcases hdevelops.lease t lease' hlease' with ⟨lease, hlease, htoken, -⟩ | ⟨-, hnew, -⟩
    · rw [htoken]
      exact hdevelops.tokens _ (h.tokens t lease hlease)
    · exact hnew
  owner := by
    intro p' hp'
    rcases hworkers p' hp' with ⟨p, hp, hmessage, htoken, -⟩ | ⟨-, hnew, -, howner⟩
    · obtain ⟨hknown, howner⟩ := h.owner p hp
      rw [hmessage, htoken]
      refine ⟨hdevelops.tokens _ hknown, fun lease' hlease' htoken' => ?_⟩
      rcases hdevelops.lease _ lease' hlease' with
        ⟨lease, hlease, hsame, hdispatch, -⟩ | ⟨hfresh, -⟩
      · rw [hdispatch]
        exact howner lease hlease (hsame ▸ htoken')
      · exact absurd (htoken' ▸ hknown) hfresh
    · exact ⟨hnew, howner⟩
  covered := by
    intro p' hp' hleaving
    rcases hworkers p' hp' with ⟨p, hp, hmessage, htoken, hphase⟩ | ⟨-, -, hnot, -⟩
    · rcases hphase hleaving with hwas | hcovered
      · exact hdevelops.covered (h.owner p hp).1 hmessage htoken (h.covered p hp hwas)
      · exact hcovered
    · rw [hnot] at hleaving
      cases hleaving

/-- A worker moves, and the tables develop. -/
theorem move (h : w.Recorded) {p : WorkerProcess} {phase : WorkerPhase}
    {db : Database X} (hdevelops : Develops w (w.move p phase db))
    (hphase : phase.isLeaving = true → p.phase.isLeaving = true ∨
      Executed db (strip p.message.taskId) p.message.dispatchId ∨ w.Covered p)
    (hp : p ∈ w.workers) : (w.move p phase db).Recorded := by
  refine h.of_develops hdevelops fun p' hp' => ?_
  obtain ⟨q, hq, rfl⟩ := List.mem_map.1 hp'
  by_cases heq : q = p
  · subst heq
    rw [if_pos rfl]
    refine Or.inl ⟨q, hq, rfl, rfl, fun hleaving => ?_⟩
    rcases hphase hleaving with hwas | hexecuted | hcovered
    · exact Or.inl hwas
    · exact Or.inr (Or.inl hexecuted)
    · exact Or.inr (hdevelops.covered (h.owner q hp).1 rfl rfl hcovered)
  · rw [if_neg heq]
    exact Or.inl ⟨q, hq, rfl, rfl, Or.inl⟩

/-- The tables develop and no worker moves. -/
theorem same_workers (h : w.Recorded) (hdevelops : Develops w w') (hworkers : w'.workers = w.workers) :
    w'.Recorded := by
  refine h.of_develops hdevelops fun p hp => ?_
  rw [hworkers] at hp
  exact Or.inl ⟨p, hp, rfl, rfl, Or.inl⟩

end WorkerWorld.Recorded

/-- What a transaction leaves, whatever its fate. -/
theorem Fault.apply_cases {fault : Fault} {db db' : Database X}
    {outcome : Except Failure (Database X)} {answer : Except Failure Unit}
    (h : fault.apply db outcome = (answer, db')) :
    (db' = db ∨ outcome = .ok db') ∧ (answer = .ok () → outcome = .ok db') := by
  cases fault <;> cases outcome <;> obtain ⟨rfl, rfl⟩ := Prod.mk.inj h <;> simp

/-- The transaction commits. -/
def Fault.commits (fault : Fault) (outcome : Except Failure (Database X)) : Bool :=
  outcome.isOk && fault ≠ .lost

theorem Fault.eq_ok_of_commits {fault : Fault} {db db' : Database X}
    {outcome : Except Failure (Database X)} {answer : Except Failure Unit}
    (h : fault.apply db outcome = (answer, db')) (hcommits : fault.commits outcome = true) :
    outcome = .ok db' := by
  cases fault <;> cases outcome <;> obtain ⟨rfl, rfl⟩ := Prod.mk.inj h <;>
    simp [Fault.commits, Except.isOk, Except.toBool] at hcommits ⊢

theorem executed_of_appended {db db' : Database X} {evidenceKey : String} {kind : EvidenceKind}
    {payload : Payload X} {taskId stage : Option String} {sequence : Option ℤ} {id : ℕ}
    (h : Appended db evidenceKey kind payload taskId stage sequence id db') :
    db'.lease = db.lease ∧ ∀ t d, Executed db t d → Executed db' t d := by
  rcases h with ⟨_, -, -, -, -, rfl⟩ | ⟨-, timeline, -, rfl⟩
  · exact ⟨rfl, fun _ _ hexecuted => hexecuted⟩
  · exact ⟨rfl, fun t d hexecuted => Ledger.executed_insert.2 (Or.inl hexecuted)⟩

variable [DecidableEq X]

/-- **The worker leaves before its terminal evidence:** its setup fails, it is
cancelled, or the append of its failure handler does not commit. -/
def WorkerStep.leavesEarly (w : WorkerWorld X) : WorkerStep X → Option WorkerProcess
  | .setup worker false => some worker
  | .cancel worker =>
    if worker.phase = .setup ∨ worker.phase = .body ∨ worker.phase = .handler then some worker
    else none
  | .handle worker evidence fault =>
    if fault.commits (worker.appendExecution w evidence) then none else some worker
  | _ => none

/-- **No worker leaves early while it holds its live lease**, unless its evidence
is there already. -/
def WorkerStep.Orderly (s : WorkerStep X) (w : WorkerWorld X) : Prop :=
  ∀ p, s.leavesEarly w = some p → w.Covered p

section Steps

variable {w w' : WorkerWorld X} {p : WorkerProcess} {phase : WorkerPhase} {db : Database X}
  {fault : Fault} {answer : Except Failure Unit}

omit [DecidableEq X] in
theorem develops_refl (w : WorkerWorld X) (p : WorkerProcess) (phase : WorkerPhase) :
    Develops w (w.move p phase w.db) :=
  .of_lease_eq (fun _ _ => id) rfl rfl le_rfl

theorem develops_append {evidenceKey : String} {kind : EvidenceKind} {payload : Payload X}
    {stage : Option String} {sequence : Option ℤ}
    (h : fault.apply w.db (p.append w evidenceKey kind payload stage sequence) = (answer, db)) :
    Develops w (w.move p phase db) := by
  rcases (Fault.apply_cases h).1 with rfl | hok
  · exact develops_refl w p phase
  · obtain ⟨id, happend⟩ := Raising.map_snd_eq_ok.1 hok
    obtain ⟨hlease, hexecuted⟩ := executed_of_appended (appendEvidence_eq_ok happend).2.2.2
    exact .of_lease_eq hexecuted rfl hlease le_rfl

theorem develops_appendExecution {evidence : WorkerExecutionEvidence X}
    (h : fault.apply w.db (p.appendExecution w evidence) = (answer, db)) :
    Develops w (w.move p phase db) := by
  rw [WorkerProcess.appendExecution] at h
  exact develops_append h

/-- A committed execution is there. -/
theorem executed_of_appendExecution {evidence : WorkerExecutionEvidence X}
    (howns : p.owns w.db evidence) (hok : p.appendExecution w evidence = .ok db) :
    Executed db (strip p.message.taskId) p.message.dispatchId := by
  rw [WorkerProcess.appendExecution, WorkerProcess.append] at hok
  obtain ⟨id, happend⟩ := Raising.map_snd_eq_ok.1 hok
  obtain ⟨-, -, -, happended⟩ := appendEvidence_eq_ok happend
  rcases happended with ⟨row, hrow, -, hsame, -, rfl⟩ | ⟨-, timeline, -, rfl⟩
  · obtain ⟨htask, hkind, -, -, -, hpayload⟩ := hsame
    refine ⟨row, ?_, ?_⟩
    · rw [workerSideRows, List.mem_filter]
      exact ⟨hrow, by simp [htask, hkind]⟩
    · rw [EvidenceRow.workerKey, hpayload, ← howns.1]
  · refine Ledger.executed_insert.2 (Or.inr ⟨⟨rfl, Or.inl rfl⟩, ?_⟩)
    rw [← howns.1]
    rfl

theorem develops_heartbeat {leaseSeconds : ℚ}
    (h : fault.apply w.db ((renewTaskLease w.db w.now w.db.runId p.message.taskId p.ownerId
      p.message.dispatchId p.token leaseSeconds).map Prod.snd) = (answer, db)) :
    Develops w (w.move p phase db) := by
  rcases (Fault.apply_cases h).1 with rfl | hok
  · exact develops_refl w p phase
  · obtain ⟨shown, hrenew⟩ := Raising.map_snd_eq_ok.1 hok
    obtain ⟨lease, until', timeline, hlease, -, -, hlive, -, hdb⟩ := renewTaskLease_eq_ok hrenew
    exact .of_touched hdb rfl rfl hlease hlive rfl rfl (Or.inl hlive.1)

/-- **A release by a covered worker.**  A worker without its live lease releases
nothing. -/
theorem develops_release (hcovered : w.Covered p)
    (h : fault.apply w.db ((releaseTaskLease w.db w.now w.db.runId p.message.taskId p.ownerId
      p.message.dispatchId p.token).map Prod.snd) = (answer, db)) :
    Develops w (w.move p phase db) := by
  rcases (Fault.apply_cases h).1 with rfl | hok
  · exact develops_refl w p phase
  · obtain ⟨shown, hrelease⟩ := Raising.map_snd_eq_ok.1 hok
    obtain ⟨lease, hlease, htoken, hdispatch, ⟨-, rfl⟩ | ⟨hlive, timeline, hdb⟩⟩ :=
      releaseTaskLease_eq_ok hrelease
    · exact develops_refl w p phase
    · refine .of_touched hdb rfl rfl hlease hlive rfl rfl (Or.inr ?_)
      rw [hdispatch]
      exact hcovered.resolve_right fun hdead => hdead ⟨lease, hlease, htoken, hlive⟩

theorem develops_finalize {result : SingleTaskRunResult X}
    (h : fault.apply w.db (finalizeSingleTaskRun w.db w.now w.db.runId result (some p.token)) =
      (answer, db)) : Develops w (w.move p phase db) := by
  rcases (Fault.apply_cases h).1 with rfl | hok
  · exact develops_refl w p phase
  · obtain ⟨-, -, ⟨-, rfl⟩ | ⟨-, status, timeline, -, rfl⟩⟩ := finalizeSingleTaskRun_eq_ok hok
    · exact develops_refl w p phase
    · exact .of_lease_eq (fun _ _ => id) rfl rfl le_rfl

/-- **Every orderly step keeps the invariant.** -/
theorem workerStep_recorded {s : WorkerStep X} (h : w.Recorded) (horderly : s.Orderly w)
    (hstep : workerStep w s answer w') : w'.Recorded := by
  unfold workerStep at hstep
  cases s with
  | acquire message ownerId token leaseSeconds =>
    simp only [WorkerStep.perform] at hstep
    split at hstep
    · cases hstep
    rename_i hfresh
    split at hstep
    · rename_i grant db' hacquire
      obtain ⟨-, rfl⟩ := Prod.mk.inj (Option.some.inj hstep)
      obtain ⟨lease, timeline, hacquired, -, -, hdb⟩ := acquireTaskLease_eq_ok hacquire
      rw [← hacquired.runToken] at hfresh ⊢
      refine h.of_develops (.of_acquired hdb rfl rfl hfresh hacquired.unreleased) ?_
      intro p hp
      rcases List.mem_append.1 hp with hp | hp
      · exact Or.inl ⟨p, hp, rfl, rfl, Or.inl⟩
      · obtain rfl := List.mem_singleton.1 hp
        refine Or.inr ⟨hfresh, List.mem_cons_self, rfl, fun lease' hlease' _ => ?_⟩
        have hrows : db'.lease = (w.db.setLease (strip message.taskId) lease).lease := by rw [hdb]
        simp only [hrows, Database.setLease_lease_self] at hlease'
        rw [← Option.some.inj hlease']
        exact hacquired.dispatch
    · obtain ⟨-, rfl⟩ := Prod.mk.inj (Option.some.inj hstep)
      exact h
  | setup p passes =>
    simp only [WorkerStep.perform] at hstep
    split at hstep
    · cases hstep
    rename_i hcond
    have hp := not_not.1 (not_or.1 hcond).1
    cases passes with
    | true =>
      rw [if_pos rfl] at hstep
      split at hstep
      · obtain ⟨-, rfl⟩ := Prod.mk.inj (Option.some.inj hstep)
        exact h.move (develops_refl w p _) (fun hleaving => by cases hleaving) hp
      · cases hstep
    | false =>
      rw [if_neg Bool.false_ne_true] at hstep
      obtain ⟨-, rfl⟩ := Prod.mk.inj (Option.some.inj hstep)
      exact h.move (develops_refl w p _) (fun _ => Or.inr (Or.inr (horderly p rfl))) hp
  | append p evidenceKey kind payload stage sequence fault =>
    simp only [WorkerStep.perform] at hstep
    split at hstep
    · cases hstep
    rename_i hcond
    have hp := not_not.1 (not_or.1 hcond).1
    generalize hfault : fault.apply w.db (p.append w evidenceKey kind payload stage sequence) = r
      at hstep
    obtain ⟨answer', db'⟩ := r
    obtain ⟨-, rfl⟩ := Prod.mk.inj (Option.some.inj hstep)
    refine h.move (develops_append hfault) (fun hleaving => ?_) hp
    split at hleaving
    · cases hleaving
    · exact Or.inl hleaving
  | throws p =>
    simp only [WorkerStep.perform] at hstep
    split at hstep
    · cases hstep
    rename_i hcond
    have hp := not_not.1 (not_or.1 hcond).1
    obtain ⟨-, rfl⟩ := Prod.mk.inj (Option.some.inj hstep)
    exact h.move (develops_refl w p _) (fun hleaving => by cases hleaving) hp
  | terminal p evidence fault =>
    simp only [WorkerStep.perform] at hstep
    split at hstep
    · cases hstep
    rename_i hcond
    simp only [not_or, not_not] at hcond
    obtain ⟨hp, -, howns⟩ := hcond
    generalize hfault : fault.apply w.db (p.appendExecution w evidence) = r at hstep
    obtain ⟨answer', db'⟩ := r
    obtain ⟨-, rfl⟩ := Prod.mk.inj (Option.some.inj hstep)
    refine h.move (develops_appendExecution hfault) (fun hleaving => ?_) hp
    split at hleaving
    · rename_i hok
      exact Or.inr (Or.inl (executed_of_appendExecution howns ((Fault.apply_cases hfault).2 hok)))
    · cases hleaving
  | handle p evidence fault =>
    have hleaves : ¬fault.commits (p.appendExecution w evidence) = true → w.Covered p := by
      intro hlost
      refine horderly p ?_
      rw [WorkerStep.leavesEarly, if_neg hlost]
    simp only [WorkerStep.perform] at hstep
    split at hstep
    · cases hstep
    rename_i hcond
    simp only [not_or, not_not] at hcond
    obtain ⟨hp, -, howns, -⟩ := hcond
    generalize hfault : fault.apply w.db (p.appendExecution w evidence) = r at hstep
    obtain ⟨answer', db'⟩ := r
    obtain ⟨-, rfl⟩ := Prod.mk.inj (Option.some.inj hstep)
    refine h.move (develops_appendExecution hfault) (fun _ => Or.inr ?_) hp
    by_cases hcommits : fault.commits (p.appendExecution w evidence) = true
    · exact Or.inl (executed_of_appendExecution howns (Fault.eq_ok_of_commits hfault hcommits))
    · exact Or.inr (hleaves hcommits)
  | finalize p result fault =>
    simp only [WorkerStep.perform] at hstep
    split at hstep
    · cases hstep
    rename_i hcond
    obtain ⟨hp, hphase⟩ := not_or.1 hcond
    generalize hfault : fault.apply w.db (finalizeSingleTaskRun w.db w.now w.db.runId result
      (some p.token)) = r at hstep
    obtain ⟨answer', db'⟩ := r
    obtain ⟨-, rfl⟩ := Prod.mk.inj (Option.some.inj hstep)
    refine h.move (develops_finalize hfault) (fun _ => Or.inl ?_) (not_not.1 hp)
    rw [not_not.1 hphase]
    rfl
  | finish p raises =>
    simp only [WorkerStep.perform] at hstep
    split at hstep
    · cases hstep
    rename_i hcond
    obtain ⟨hp, hphase⟩ := not_or.1 hcond
    obtain ⟨-, rfl⟩ := Prod.mk.inj (Option.some.inj hstep)
    refine h.move (develops_refl w p _) (fun _ => Or.inl ?_) (not_not.1 hp)
    simp only [not_not, List.mem_cons, List.not_mem_nil, or_false] at hphase
    rcases hphase with hphase | hphase <;> rw [hphase] <;> rfl
  | cancel p =>
    have hleaves : (p.phase = .setup ∨ p.phase = .body ∨ p.phase = .handler) → w.Covered p := by
      intro hearly
      refine horderly p ?_
      rw [WorkerStep.leavesEarly, if_pos hearly]
    simp only [WorkerStep.perform] at hstep
    split at hstep
    · cases hstep
    rename_i hcond
    obtain ⟨hp, hphase⟩ := not_or.1 hcond
    obtain ⟨-, rfl⟩ := Prod.mk.inj (Option.some.inj hstep)
    refine h.move (develops_refl w p _) (fun _ => ?_) (not_not.1 hp)
    cases hpc : p.phase with
    | setup => exact Or.inr (Or.inr (hleaves (Or.inl hpc)))
    | body => exact Or.inr (Or.inr (hleaves (Or.inr (Or.inl hpc))))
    | handler => exact Or.inr (Or.inr (hleaves (Or.inr (Or.inr hpc))))
    | stopped => exact absurd hpc hphase
    | persisted => exact Or.inl rfl
    | handled => exact Or.inl rfl
    | returned => exact Or.inl rfl
    | raised => exact Or.inl rfl
  | heartbeat p leaseSeconds fault =>
    simp only [WorkerStep.perform] at hstep
    split at hstep
    · cases hstep
    rename_i hcond
    have hp := not_not.1 (not_or.1 hcond).1
    generalize hfault : fault.apply w.db ((renewTaskLease w.db w.now w.db.runId p.message.taskId
      p.ownerId p.message.dispatchId p.token leaseSeconds).map Prod.snd) = r at hstep
    obtain ⟨answer', db'⟩ := r
    obtain ⟨-, rfl⟩ := Prod.mk.inj (Option.some.inj hstep)
    refine h.move (develops_heartbeat hfault) (fun hleaving => Or.inl ?_) hp
    split at hleaving
    · exact hleaving
    split at hleaving
    · rename_i hdone
      rcases hdone with hdone | hdone <;> rw [hdone] <;> rfl
    · cases hleaving
  | release p fault =>
    simp only [WorkerStep.perform] at hstep
    split at hstep
    · cases hstep
    rename_i hcond
    obtain ⟨hp, hphase⟩ := not_or.1 hcond
    simp only [not_not, List.mem_cons, List.not_mem_nil, or_false] at hphase
    have hleaving : p.phase.isLeaving = true := by
      rcases hphase with hphase | hphase <;> rw [hphase] <;> rfl
    have hcovered := h.covered p (not_not.1 hp) hleaving
    generalize hfault : fault.apply w.db ((releaseTaskLease w.db w.now w.db.runId p.message.taskId
      p.ownerId p.message.dispatchId p.token).map Prod.snd) = r at hstep
    obtain ⟨answer', db'⟩ := r
    obtain ⟨-, rfl⟩ := Prod.mk.inj (Option.some.inj hstep)
    exact h.move (develops_release hcovered hfault) (fun _ => Or.inl hleaving) (not_not.1 hp)
  | crash p =>
    simp only [WorkerStep.perform] at hstep
    split at hstep
    · cases hstep
    rename_i hp
    obtain ⟨-, rfl⟩ := Prod.mk.inj (Option.some.inj hstep)
    exact h.move (develops_refl w p _) (fun hleaving => by cases hleaving) (not_not.1 hp)
  | appendOther evidenceKey kind payload taskId stage sequence runToken =>
    simp only [WorkerStep.perform] at hstep
    split at hstep
    · rename_i id db' happend
      obtain ⟨-, rfl⟩ := Prod.mk.inj (Option.some.inj hstep)
      obtain ⟨hlease, hexecuted⟩ := executed_of_appended (appendEvidence_eq_ok happend).2.2.2
      exact h.same_workers (.of_lease_eq hexecuted rfl hlease le_rfl) rfl
    · obtain ⟨-, rfl⟩ := Prod.mk.inj (Option.some.inj hstep)
      exact h
  | finalizeRun status result =>
    simp only [WorkerStep.perform] at hstep
    split at hstep
    · cases hstep
    obtain ⟨-, rfl⟩ := Prod.mk.inj (Option.some.inj hstep)
    exact h.same_workers (.of_lease_eq (fun _ _ => id) rfl rfl le_rfl) rfl
  | tick elapsed =>
    obtain ⟨-, rfl⟩ := Prod.mk.inj (Option.some.inj hstep)
    exact h.same_workers (.of_lease_eq (fun _ _ => id) rfl rfl (by simp)) rfl

end Steps

/-- The world of a run that `create_run` has just written. -/
def WorkerWorld.created (X : Type) (runId : UUID) (taskIds : List String) (now : Timestamp) :
    WorkerWorld X where
  db := Database.created X runId taskIds
  now := now
  workers := []
  tokens := []

omit [DecidableEq X] in
theorem WorkerWorld.created_recorded (runId : UUID) (taskIds : List String) (now : Timestamp) :
    (WorkerWorld.created X runId taskIds now).Recorded where
  released := fun _ _ hlease => nomatch hlease
  tokens := fun _ _ hlease => nomatch hlease
  owner := fun _ hp => nomatch hp
  covered := fun _ hp => nomatch hp

/-- **When a released lease has its terminal evidence.**  In every interleaving
of workers, faults and clock in which no worker leaves early while it holds its
live lease, every RELEASED lease has the WORKER_EXECUTION evidence of the
dispatch that owned it. -/
theorem released_lease_has_evidence {runId : UUID} {taskIds : List String} {now : Timestamp}
    {es : List (Runs.Event (WorkerWorld X) (WorkerStep X) (Except Failure Unit))}
    {w : WorkerWorld X}
    (hrun : Runs.Run workerStep (WorkerWorld.created X runId taskIds now) es w)
    (horderly : ∀ e ∈ es, e.input.Orderly e.before) : w.ReleasedExecuted := by
  have hrecorded : w.Recorded :=
    hrun.invariant_of_forall (P := fun e => e.input.Orderly e.before)
      (fun _ _ _ _ h horderly hstep => workerStep_recorded h horderly hstep) horderly
      (WorkerWorld.created_recorded runId taskIds now)
  exact hrecorded.released

/-- The worker of the runs below, in a phase. -/
def buildWorker (phase : WorkerPhase) : WorkerProcess :=
  ⟨⟨"build", ⟨11⟩⟩, "worker-a", ⟨101⟩, phase⟩

/-- The project's Git identity has changed after the dispatch: the worker raises
before its `try`, and its lease is released. -/
def refusedSetup : List (WorkerStep Unit) :=
  [.acquire ⟨"build", ⟨11⟩⟩ "worker-a" ⟨101⟩ 30, .setup (buildWorker .setup) false,
    .release (buildWorker .raised) .none]

/-- **A lease is released without terminal evidence.** -/
theorem refused_setup_releases_without_evidence :
    ¬∀ (w : WorkerWorld Unit)
      (es : List (Runs.Event (WorkerWorld Unit) (WorkerStep Unit) (Except Failure Unit))),
      Runs.Run workerStep (WorkerWorld.created Unit ⟨1⟩ ["build"] 0) es w →
        w.ReleasedExecuted := by
  intro hclaim
  have hfacts : (Runs.exec WorkerStep.perform (WorkerWorld.created Unit ⟨1⟩ ["build"] 0)
      refusedSetup).map (fun r => ((r.2.db.lease "build").map fun lease =>
        (lease.releasedAt, lease.dispatchId), decide (Executed r.2.db "build" ⟨11⟩))) =
      some (some (some 0, ⟨11⟩), false) := by
    decide +kernel
  obtain ⟨⟨es, w⟩, hexec, hw⟩ := Option.map_eq_some_iff.1 hfacts
  obtain ⟨hlease, hnone⟩ := Prod.mk.inj hw
  obtain ⟨lease, hlease, hfields⟩ := Option.map_eq_some_iff.1 hlease
  obtain ⟨hreleased, hdispatch⟩ := Prod.mk.inj hfields
  have hexecuted := hclaim w es (Runs.run_of_exec hexec) "build" lease hlease (by simp [hreleased])
  rw [hdispatch] at hexecuted
  exact of_decide_eq_false hnone hexecuted

/-- A worker whose backend fails once and whose handler records it. -/
def handledFailure : List (WorkerStep Unit) :=
  [.acquire ⟨"build", ⟨11⟩⟩ "worker-a" ⟨101⟩ 30, .setup (buildWorker .setup) true,
    .throws (buildWorker .body),
    .handle (buildWorker .handler)
      { dispatchId := ⟨11⟩, runId := ⟨1⟩, taskId := "build", status := .failed,
        baseCommit := "base", commitSha := none, content := (), success_commit := ExecutionStatus.failed_not_succeeded,
        failure_commit := ExecutionStatus.failed_commit } .none,
    .finish (buildWorker .handled) false, .release (buildWorker .returned) .none]

/-- The handled failure is orderly, and its released lease has the evidence. -/
theorem released_lease_has_evidence_handledFailure :
    ∃ es w, Runs.Run workerStep (WorkerWorld.created Unit ⟨1⟩ ["build"] 0) es w ∧
      (∃ lease, w.db.lease "build" = some lease ∧ lease.releasedAt ≠ none) ∧
      w.ReleasedExecuted := by
  have hfacts : (Runs.exec WorkerStep.perform (WorkerWorld.created Unit ⟨1⟩ ["build"] 0)
      handledFailure).map (fun r => ((r.2.db.lease "build").map Lease.releasedAt,
        r.1.all fun e => (e.input.leavesEarly e.before).isNone)) =
      some (some (some 0), true) := by
    decide +kernel
  obtain ⟨⟨es, w⟩, hexec, hw⟩ := Option.map_eq_some_iff.1 hfacts
  obtain ⟨hlease, horderly⟩ := Prod.mk.inj hw
  obtain ⟨lease, hlease, hreleased⟩ := Option.map_eq_some_iff.1 hlease
  have hrun := Runs.run_of_exec hexec
  refine ⟨es, w, hrun, ⟨lease, hlease, by simp [hreleased]⟩,
    released_lease_has_evidence hrun fun e he p hp => ?_⟩
  have hnone := List.all_eq_true.1 horderly e he
  rw [hp] at hnone
  cases hnone

end DevFlow
