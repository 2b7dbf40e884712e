/-
# The ledger invariant

What the tables of a run satisfy between transactions, and that each kind of
write keeps it: a new attempt, a recorded broker outcome, a new generation, a
renewal or release, and an evidence row.  Each lemma asks of the write exactly
what the operation that makes it has checked.
-/

import DevFlow.Persistence.History

namespace DevFlow

variable {X : Type}

/-- The evidence key that a worker uses for a row. -/
def workerEvidenceKey : UUID × Option DispatchPhase → String
  | (dispatchId, none) => "dispatch:" ++ dispatchId.str ++ ":execution"
  | (dispatchId, some .received) => "dispatch:" ++ dispatchId.str ++ ":received"
  | (dispatchId, some .completed) => "dispatch:" ++ dispatchId.str ++ ":completed"

/-- The invariant of the tables at a clock reading. -/
structure Ledger (db : Database X) (now : Timestamp) : Prop where
  history : ∀ taskId, History db taskId
  ids : (db.attempts.map DispatchAttemptRow.dispatchId).Nodup
  clock : ∀ a ∈ db.attempts, a.requestedAt ≤ now
  /-- An attempt is ahead of the lease only when the lease has expired. -/
  overdue : ∀ taskId lease, db.lease taskId = some lease →
    (attemptsOf db taskId).length = lease.generation + 1 →
      lease.releasedAt = none ∧ lease.leaseUntil ≤ now
  rowKeys : ∀ taskId, ∀ row ∈ workerSideRows db taskId, ∀ key, row.workerKey = some key →
    row.evidenceKey = strip (workerEvidenceKey key)
  /-- Terminal evidence is of the current generation, and then no attempt is
  ahead. -/
  terminal : ∀ taskId d, Executed db taskId d → ∃ lease, db.lease taskId = some lease ∧
    lease.dispatchId = d ∧ (attemptsOf db taskId).length = lease.generation

/-- The columns of an attempt that are never rewritten. -/
def DispatchAttemptRow.identity (row : DispatchAttemptRow) : UUID × ℕ :=
  (row.dispatchId, row.attemptNumber)

/-- A history is a matter of the identities of the task's attempts, of its lease
and of its rows. -/
theorem History.congr {db db' : Database X} {taskId : String} (h : History db taskId)
    (hvalid : ∀ a ∈ attemptsOf db' taskId, a.Valid)
    (hattempts : (attemptsOf db' taskId).map DispatchAttemptRow.identity =
      (attemptsOf db taskId).map DispatchAttemptRow.identity)
    (hlease : db'.lease taskId = db.lease taskId)
    (hrows : workerSideRows db' taskId = workerSideRows db taskId)
    (hrun : db'.runId = db.runId) : History db' taskId := by
  have hgeneration : db'.generation taskId = db.generation taskId := by
    simp [Database.generation, hlease]
  have hlength : (attemptsOf db' taskId).length = (attemptsOf db taskId).length := by
    simpa using congrArg List.length hattempts
  have hids : (attemptsOf db' taskId).map DispatchAttemptRow.dispatchId =
      (attemptsOf db taskId).map DispatchAttemptRow.dispatchId := by
    simpa [DispatchAttemptRow.identity, Function.comp_def] using
      congrArg (List.map Prod.fst) hattempts
  have hnumbers : (attemptsOf db' taskId).map DispatchAttemptRow.attemptNumber =
      (attemptsOf db taskId).map DispatchAttemptRow.attemptNumber := by
    simpa [DispatchAttemptRow.identity, Function.comp_def] using
      congrArg (List.map Prod.snd) hattempts
  constructor
  · exact hvalid
  · rw [hnumbers, hlength]; exact h.numbers
  · rw [hids]; exact h.ids
  · rw [hlength, hgeneration]; exact h.ahead
  · rw [hlength, hgeneration]; exact h.behind
  · intro lease hlease'
    obtain ⟨a, ha, hid, hnumber⟩ := h.owner lease (hlease ▸ hlease')
    have hmem : a.identity ∈ (attemptsOf db' taskId).map DispatchAttemptRow.identity :=
      hattempts ▸ List.mem_map_of_mem ha
    obtain ⟨a', ha', heq⟩ := List.mem_map.1 hmem
    obtain ⟨hid', hnumber'⟩ := Prod.mk.inj heq
    exact ⟨a', ha', hid'.trans hid, hnumber'.trans hnumber⟩
  · rw [hids, hrows, hrun]; exact h.rows
  · rw [hrows]; exact h.distinct
  · rw [hrows]; exact h.completed
  · rw [hrows, hlease]; exact h.unowned

theorem Executed.congr {db db' : Database X} {taskId : String} {d : UUID}
    (hrows : workerSideRows db' taskId = workerSideRows db taskId)
    (h : Executed db' taskId d) : Executed db taskId d := by
  unfold Executed at h ⊢
  rwa [hrows] at h

namespace Ledger

variable {db db' : Database X} {now now' : Timestamp} {taskId : String}

/-- Time passes. -/
theorem tick (h : Ledger db now) (hle : now ≤ now') : Ledger db now' where
  history := h.history
  ids := h.ids
  clock := fun a ha => (h.clock a ha).trans hle
  overdue := by
    intro taskId lease hlease hlength
    obtain ⟨hreleased, huntil⟩ := h.overdue taskId lease hlease hlength
    exact ⟨hreleased, huntil.trans hle⟩
  rowKeys := h.rowKeys
  terminal := h.terminal

/-- While the lease is live no attempt is ahead of it. -/
theorem length_eq_of_live (h : Ledger db now) {lease : Lease}
    (hlease : db.lease taskId = some lease) (hlive : lease.Live now) :
    (attemptsOf db taskId).length = lease.generation := by
  have hahead := (h.history taskId).ahead
  have hbehind := (h.history taskId).behind
  rw [(h.history taskId).generation_eq hlease] at hahead hbehind
  by_contra hne
  have hlength : (attemptsOf db taskId).length = lease.generation + 1 := by omega
  have hexpired := (h.overdue taskId lease hlease hlength).2
  exact absurd hlive.2 (not_lt.2 hexpired)

/-- Evidence ids and events do not matter to the ledger. -/
theorem congr (h : Ledger db now) (hattempts : db'.attempts = db.attempts)
    (hlease : db'.lease = db.lease) (hevidence : db'.evidence = db.evidence)
    (hrun : db'.runId = db.runId) : Ledger db' now := by
  have hof : ∀ taskId, attemptsOf db' taskId = attemptsOf db taskId := by
    simp [attemptsOf, hattempts]
  have hrows : ∀ taskId, workerSideRows db' taskId = workerSideRows db taskId := by
    simp [workerSideRows, hevidence]
  constructor
  · intro taskId
    refine (h.history taskId).congr ?_ (by rw [hof]) (by rw [hlease]) (hrows taskId) hrun
    rw [hof]
    exact (h.history taskId).valid
  · rw [hattempts]; exact h.ids
  · rw [hattempts]; exact h.clock
  · intro taskId lease
    rw [hlease, hof]
    exact h.overdue taskId lease
  · intro taskId row hrow
    rw [hrows] at hrow
    exact h.rowKeys taskId row hrow
  · intro taskId d hexecuted
    rw [hlease, hof]
    exact h.terminal taskId d (hexecuted.congr (hrows taskId))

theorem attemptsOf_insert (row : DispatchAttemptRow) (t : String) :
    attemptsOf (db.insertAttempt row) t =
      attemptsOf db t ++ if row.taskId = t then [row] else [] := by
  by_cases htask : row.taskId = t <;>
    simp [attemptsOf, Database.insertAttempt, List.filter_append, htask]

/-- The row of the task's next attempt. -/
def nextAttempt (db : Database X) (now : Timestamp) (d : UUID) (taskId : String) :
    DispatchAttemptRow :=
  requestedAttempt d taskId ((attemptsOf db taskId).length + 1) now

theorem attemptsOf_next_self (d : UUID) :
    attemptsOf (db.insertAttempt (nextAttempt db now d taskId)) taskId =
      attemptsOf db taskId ++ [nextAttempt db now d taskId] := by
  rw [attemptsOf_insert]
  exact congrArg _ (if_pos rfl)

theorem attemptsOf_next_of_ne (d : UUID) {t : String} (ht : t ≠ taskId) :
    attemptsOf (db.insertAttempt (nextAttempt db now d taskId)) t = attemptsOf db t := by
  rw [attemptsOf_insert]
  exact (congrArg _ (if_neg fun heq : taskId = t => ht heq.symm)).trans (List.append_nil _)

/-- The task's own history with its next attempt. -/
theorem next_history (h : History db taskId) {d : UUID} (hfits : textFits taskId 128)
    (hfresh : d ∉ (attemptsOf db taskId).map DispatchAttemptRow.dispatchId)
    (hlength : (attemptsOf db taskId).length = db.generation taskId) :
    History (db.insertAttempt (nextAttempt db now d taskId)) taskId := by
  have hself : attemptsOf (db.insertAttempt (nextAttempt db now d taskId)) taskId =
      attemptsOf db taskId ++ [nextAttempt db now d taskId] := attemptsOf_next_self d
  constructor
  · intro a ha
    rw [hself] at ha
    rcases List.mem_append.1 ha with ha | ha
    · exact h.valid a ha
    · obtain rfl := List.mem_singleton.1 ha
      exact requestedAttempt_valid hfits (by omega)
  · rw [hself, List.map_append, h.numbers, List.length_append, List.length_singleton,
      List.range'_concat]
    simp [nextAttempt, requestedAttempt, Nat.add_comm]
  · rw [hself, List.map_append, List.nodup_append]
    refine ⟨h.ids, by simp, ?_⟩
    rintro x hx y hy rfl
    obtain rfl : x = d := by simpa [nextAttempt, requestedAttempt] using hy
    exact hfresh hx
  · rw [hself, List.length_append, List.length_singleton, hlength]
    exact le_rfl
  · rw [hself, List.length_append, List.length_singleton]
    exact h.behind.trans (Nat.le_succ _)
  · intro lease hlease
    obtain ⟨a, ha, hid, hnumber⟩ := h.owner lease hlease
    exact ⟨a, by rw [hself]; exact List.mem_append_left _ ha, hid, hnumber⟩
  · intro row hrow
    have hworker := h.rows row hrow
    unfold EvidenceRow.WorkerRow at hworker ⊢
    rw [hself, List.map_append]
    revert hworker
    cases row.payload <;> simp only [List.mem_append] <;> tauto
  · exact h.distinct
  · exact h.completed
  · exact h.unowned

/-- **A new attempt** of a task that nobody works on. -/
theorem insertAttempt (h : Ledger db now) {d : UUID} (hfits : textFits taskId 128)
    (hfresh : d ∉ db.attempts.map DispatchAttemptRow.dispatchId)
    (hidle : (db.lease taskId = none ∧ attemptsOf db taskId = []) ∨
      ∃ lease, db.lease taskId = some lease ∧ lease.releasedAt = none ∧ lease.leaseUntil ≤ now ∧
        ¬Executed db taskId lease.dispatchId ∧
        (attemptsOf db taskId).length = lease.generation) :
    Ledger (db.insertAttempt (nextAttempt db now d taskId)) now := by
  have hlength : (attemptsOf db taskId).length = db.generation taskId := by
    rcases hidle with ⟨hnone, hnil⟩ | ⟨lease, hlease, -, -, -, hlength⟩
    · simp [Database.generation, hnone, hnil]
    · rw [hlength, (h.history taskId).generation_eq hlease]
  have hother : ∀ t, t ≠ taskId →
      attemptsOf (db.insertAttempt (nextAttempt db now d taskId)) t = attemptsOf db t :=
    fun t ht => attemptsOf_next_of_ne d ht
  constructor
  · intro t
    by_cases ht : t = taskId
    · subst ht
      refine next_history (h.history t) hfits (fun hmem => hfresh ?_) hlength
      exact (List.filter_sublist.map _).subset hmem
    · refine (h.history t).congr ?_ (by rw [hother t ht]) rfl rfl rfl
      rw [hother t ht]
      exact (h.history t).valid
  · rw [Database.insertAttempt, List.map_append, List.nodup_append]
    refine ⟨h.ids, by simp, ?_⟩
    rintro x hx y hy rfl
    obtain rfl : x = d := by simpa [nextAttempt, requestedAttempt] using hy
    exact hfresh hx
  · intro a ha
    rcases List.mem_append.1 ha with ha | ha
    · exact h.clock a ha
    · obtain rfl := List.mem_singleton.1 ha
      exact le_rfl
  · intro t lease hlease hahead
    by_cases ht : t = taskId
    · subst ht
      rcases hidle with ⟨hnone, -⟩ | ⟨lease', hlease', hreleased, huntil, -⟩
      · simp [Database.insertAttempt, hnone] at hlease
      · obtain rfl : lease' = lease := Option.some.inj (hlease'.symm.trans hlease)
        exact ⟨hreleased, huntil⟩
    · rw [hother t ht] at hahead
      exact h.overdue t lease hlease hahead
  · exact h.rowKeys
  · intro t d' hexecuted
    obtain ⟨lease, hlease, hd, hlen⟩ := h.terminal t d' hexecuted
    by_cases ht : t = taskId
    · subst ht
      rcases hidle with ⟨hnone, -⟩ | ⟨lease', hlease', -, -, hnot, -⟩
      · simp [hnone] at hlease
      · obtain rfl : lease' = lease := Option.some.inj (hlease'.symm.trans hlease)
        exact absurd (hd ▸ hexecuted) hnot
    · exact ⟨lease, hlease, hd, by rw [hother t ht]; exact hlen⟩

theorem attemptsOf_update (db : Database X) (d : UUID)
    (update : DispatchAttemptRow → DispatchAttemptRow)
    (htask : ∀ row, (update row).taskId = row.taskId) (t : String) :
    attemptsOf (db.updateAttempt d update) t =
      (attemptsOf db t).map fun row => if row.dispatchId = d then update row else row := by
  simp only [attemptsOf, Database.updateAttempt, List.filter_map]
  congr 2
  funext row
  by_cases hrow : row.dispatchId = d <;> simp [hrow, htask]

/-- **A recorded broker outcome** on the attempt of one dispatch. -/
theorem updateAttempt (h : Ledger db now) {target : DispatchAttemptRow}
    (htarget : target ∈ db.attempts) {state : AttemptState} {observedAt : Timestamp}
    (hvalid : { target with state := state, updatedAt := observedAt : DispatchAttemptRow }.Valid) :
    Ledger (db.updateAttempt target.dispatchId fun row =>
      { row with state := state, updatedAt := observedAt }) now := by
  set update : DispatchAttemptRow → DispatchAttemptRow :=
    fun row => { row with state := state, updatedAt := observedAt }
  have hof := attemptsOf_update db target.dispatchId update fun _ => rfl
  have hidentity : ∀ rows : List DispatchAttemptRow,
      (rows.map fun row => if row.dispatchId = target.dispatchId then update row else row).map
        DispatchAttemptRow.identity = rows.map DispatchAttemptRow.identity := by
    intro rows
    rw [List.map_map]
    refine List.map_congr_left fun row _ => ?_
    by_cases hrow : row.dispatchId = target.dispatchId <;>
      simp [hrow, update, DispatchAttemptRow.identity]
  have hlength : ∀ t, (attemptsOf (db.updateAttempt target.dispatchId update) t).length =
      (attemptsOf db t).length := by
    intro t
    rw [hof, List.length_map]
  constructor
  · intro t
    refine (h.history t).congr ?_ (by rw [hof, hidentity]) rfl rfl rfl
    intro a ha
    rw [hof] at ha
    obtain ⟨row, hrow, rfl⟩ := List.mem_map.1 ha
    by_cases hid : row.dispatchId = target.dispatchId
    · have hmem := (mem_attemptsOf.1 hrow).1
      have heq : row = target := List.inj_on_of_nodup_map h.ids hmem htarget hid
      rw [if_pos hid, heq]
      exact hvalid
    · rw [if_neg hid]
      exact (h.history t).valid row hrow
  · have := congrArg (List.map Prod.fst) (hidentity db.attempts)
    simp only [List.map_map, DispatchAttemptRow.identity, Function.comp_def] at this
    have hids := h.ids
    rw [← this] at hids
    simpa [Database.updateAttempt, Function.comp_def] using hids
  · intro a ha
    obtain ⟨row, hrow, rfl⟩ := List.mem_map.1 ha
    by_cases hid : row.dispatchId = target.dispatchId
    · rw [if_pos hid]
      exact h.clock row hrow
    · rw [if_neg hid]
      exact h.clock row hrow
  · intro t lease hlease hahead
    rw [hlength] at hahead
    exact h.overdue t lease hlease hahead
  · exact h.rowKeys
  · intro t d hexecuted
    obtain ⟨lease, hlease, hd, hlen⟩ := h.terminal t d hexecuted
    exact ⟨lease, hlease, hd, by rw [hlength]; exact hlen⟩

/-- **A new generation**, by the attempt that is one ahead. -/
theorem acquire (h : Ledger db now) {lease : Lease} {timeline : Timeline X}
    (hgeneration : lease.generation = db.generation taskId + 1)
    (hattempt : ∃ a ∈ attemptsOf db taskId, a.dispatchId = lease.dispatchId ∧
      a.attemptNumber = db.generation taskId + 1) :
    Ledger { db.setLease taskId lease with timeline } now := by
  obtain ⟨a, ha, hid, hnumber⟩ := hattempt
  have hlength : (attemptsOf db taskId).length = lease.generation := by
    have hle := (h.history taskId).number_le ha
    have hahead := (h.history taskId).ahead
    omega
  have hself : (db.setLease taskId lease).lease taskId = some lease :=
    db.setLease_lease_self taskId lease
  constructor
  · intro t
    by_cases ht : t = taskId
    · subst ht
      have hold := h.history t
      have hgen : ({ db.setLease t lease with timeline } : Database X).generation t =
          lease.generation := by
        simp [Database.generation]
      refine ⟨hold.valid, hold.numbers, hold.ids, ?_, ?_, ?_, hold.rows, hold.distinct,
        hold.completed, ?_⟩
      · rw [hgen]
        exact hlength.le.trans (Nat.le_succ _)
      · rw [hgen]
        exact hlength.ge
      · intro lease' hlease'
        obtain rfl : lease = lease' := Option.some.inj (hself.symm.trans hlease')
        exact ⟨a, ha, hid, hnumber.trans hgeneration.symm⟩
      · intro hnone
        cases hself.symm.trans hnone
    · exact (h.history t).congr (h.history t).valid rfl (db.setLease_lease_of_ne lease ht) rfl rfl
  · exact h.ids
  · exact h.clock
  · intro t lease' hlease' hahead
    by_cases ht : t = taskId
    · subst ht
      obtain rfl : lease = lease' := Option.some.inj (hself.symm.trans hlease')
      have hsame : (attemptsOf db t).length = lease.generation + 1 := hahead
      omega
    · exact h.overdue t lease' ((db.setLease_lease_of_ne lease ht).symm.trans hlease') hahead
  · exact h.rowKeys
  · intro t d hexecuted
    obtain ⟨old, hold, hd, hlen⟩ := h.terminal t d hexecuted
    by_cases ht : t = taskId
    · subst ht
      have := (h.history t).generation_eq hold
      omega
    · exact ⟨old, (db.setLease_lease_of_ne lease ht).trans hold, hd, hlen⟩

/-- **A renewal or a release** of a live lease. -/
theorem touchLease (h : Ledger db now) {lease lease' : Lease} {timeline : Timeline X}
    (hlease : db.lease taskId = some lease) (hlive : lease.Live now)
    (hgeneration : lease'.generation = lease.generation)
    (hdispatch : lease'.dispatchId = lease.dispatchId) :
    Ledger { db.setLease taskId lease' with timeline } now := by
  have hlength := h.length_eq_of_live hlease hlive
  have hself : (db.setLease taskId lease').lease taskId = some lease' :=
    db.setLease_lease_self taskId lease'
  constructor
  · intro t
    by_cases ht : t = taskId
    · subst ht
      have hold := h.history t
      have hgen : ({ db.setLease t lease' with timeline } : Database X).generation t =
          db.generation t := by
        simp [Database.generation, hlease, hgeneration]
      refine ⟨hold.valid, hold.numbers, hold.ids, by rw [hgen]; exact hold.ahead,
        by rw [hgen]; exact hold.behind, ?_, hold.rows, hold.distinct, hold.completed, ?_⟩
      · intro l hl
        obtain rfl : lease' = l := Option.some.inj (hself.symm.trans hl)
        obtain ⟨a, ha, hid, hnumber⟩ := hold.owner lease hlease
        exact ⟨a, ha, hid.trans hdispatch.symm, hnumber.trans hgeneration.symm⟩
      · intro hnone
        cases hself.symm.trans hnone
    · exact (h.history t).congr (h.history t).valid rfl (db.setLease_lease_of_ne lease' ht) rfl rfl
  · exact h.ids
  · exact h.clock
  · intro t l hl hahead
    by_cases ht : t = taskId
    · subst ht
      obtain rfl : lease' = l := Option.some.inj (hself.symm.trans hl)
      have hsame : (attemptsOf db t).length = lease'.generation + 1 := hahead
      omega
    · exact h.overdue t l ((db.setLease_lease_of_ne lease' ht).symm.trans hl) hahead
  · exact h.rowKeys
  · intro t d hexecuted
    obtain ⟨old, hold, hd, hlen⟩ := h.terminal t d hexecuted
    by_cases ht : t = taskId
    · subst ht
      obtain rfl : lease = old := Option.some.inj (hlease.symm.trans hold)
      exact ⟨lease', hself, hdispatch.trans hd, hlen.trans hgeneration.symm⟩
    · exact ⟨old, (db.setLease_lease_of_ne lease' ht).trans hold, hd, hlen⟩

/-- The row is worker-side evidence of the task. -/
def OfWorker (row : EvidenceRow X) (t : String) : Prop :=
  row.taskId = some t ∧ (row.kind = .workerExecution ∨ row.kind = .dispatchEvent)

instance (row : EvidenceRow X) (t : String) : Decidable (OfWorker row t) :=
  inferInstanceAs (Decidable (_ ∧ _))

theorem workerSideRows_insert (row : EvidenceRow X) (timeline : Timeline X) (t : String) :
    workerSideRows (db.insertEvidence row timeline) t =
      workerSideRows db t ++ if OfWorker row t then [row] else [] := by
  by_cases hrow : OfWorker row t
  · simp [workerSideRows, Database.insertEvidence, List.filter_append, hrow, hrow.1, hrow.2]
  · rw [if_neg hrow]
    simp only [workerSideRows, Database.insertEvidence, List.filter_append, List.append_cancel_left_eq]
    exact List.filter_eq_nil_iff.2 fun r hr => by
      obtain rfl := List.mem_singleton.1 hr
      simpa [OfWorker] using hrow

theorem mem_workerSideRows_insert {row r : EvidenceRow X} {timeline : Timeline X} {t : String} :
    r ∈ workerSideRows (db.insertEvidence row timeline) t ↔
      r ∈ workerSideRows db t ∨ (OfWorker row t ∧ r = row) := by
  rw [workerSideRows_insert]
  by_cases hrow : OfWorker row t <;> simp [hrow]

theorem executed_insert {row : EvidenceRow X} {timeline : Timeline X} {t : String} {d : UUID} :
    Executed (db.insertEvidence row timeline) t d ↔
      Executed db t d ∨ (OfWorker row t ∧ row.workerKey = some (d, none)) := by
  unfold Executed
  constructor
  · rintro ⟨r, hr, hkey⟩
    rcases mem_workerSideRows_insert.1 hr with hr | ⟨hrow, rfl⟩
    · exact Or.inl ⟨r, hr, hkey⟩
    · exact Or.inr ⟨hrow, hkey⟩
  · rintro (⟨r, hr, hkey⟩ | ⟨hrow, hkey⟩)
    · exact ⟨r, mem_workerSideRows_insert.2 (Or.inl hr), hkey⟩
    · exact ⟨row, mem_workerSideRows_insert.2 (Or.inr ⟨hrow, rfl⟩), hkey⟩

/-- What a worker writes for its task: a row under its own key, about its own
dispatch, while it holds the live lease; a completion only after the terminal
execution. -/
structure WrittenByOwner (db : Database X) (now : Timestamp) (row : EvidenceRow X) (t : String)
    (lease : Lease) (phase : Option DispatchPhase) : Prop where
  current : db.lease t = some lease
  live : lease.Live now
  key : row.workerKey = some (lease.dispatchId, phase)
  evidenceKey : row.evidenceKey = strip (workerEvidenceKey (lease.dispatchId, phase))
  identity : row.WorkerRow db.runId t [lease.dispatchId]
  completed : phase = some .completed → Executed db t lease.dispatchId

theorem workerRow_mono {row : EvidenceRow X} {runId : UUID} {t : String} {known known' : List UUID}
    (h : row.WorkerRow runId t known) (hsub : known ⊆ known') : row.WorkerRow runId t known' := by
  unfold EvidenceRow.WorkerRow at h ⊢
  revert h
  cases row.payload with
  | workerExecution payload => exact fun ⟨hkind, hrun, htask, hknown⟩ =>
      ⟨hkind, hrun, htask, hsub hknown⟩
  | dispatchEvent event => exact fun ⟨hkind, hrun, htask, hknown⟩ =>
      ⟨hkind, hrun, htask, hsub hknown⟩
  | other model content => exact False.elim

/-- The task's own history with a row of its owner. -/
theorem written_history (h : Ledger db now) {row : EvidenceRow X} {timeline : Timeline X}
    {lease : Lease} {phase : Option DispatchPhase}
    (hnew : ∀ r ∈ db.evidence, r.evidenceKey ≠ row.evidenceKey) (hrow : OfWorker row taskId)
    (hwritten : WrittenByOwner db now row taskId lease phase) :
    History (db.insertEvidence row timeline) taskId := by
  have hold := h.history taskId
  have hrows : workerSideRows (db.insertEvidence row timeline) taskId =
      workerSideRows db taskId ++ [row] := by
    rw [workerSideRows_insert, if_pos hrow]
  refine ⟨hold.valid, hold.numbers, hold.ids, hold.ahead, hold.behind, hold.owner, ?_, ?_, ?_, ?_⟩
  · intro r hr
    rcases mem_workerSideRows_insert.1 hr with hr | ⟨-, rfl⟩
    · exact hold.rows r hr
    · obtain ⟨a, ha, hid, -⟩ := hold.owner lease hwritten.current
      refine workerRow_mono hwritten.identity fun d hd => ?_
      obtain rfl := List.mem_singleton.1 hd
      exact List.mem_map.2 ⟨a, ha, hid⟩
  · rw [hrows, List.pairwise_append]
    refine ⟨hold.distinct, List.pairwise_singleton _ _, ?_⟩
    intro r hr r' hr' hkey
    obtain rfl := List.mem_singleton.1 hr'
    have hsame := h.rowKeys taskId r hr _ (hkey.trans hwritten.key)
    exact hnew r (List.mem_of_mem_filter hr) (hsame.trans hwritten.evidenceKey.symm)
  · intro r hr d hkey
    rcases mem_workerSideRows_insert.1 hr with hr | ⟨-, rfl⟩
    · obtain ⟨r', hr', hkey'⟩ := hold.completed r hr d hkey
      exact ⟨r', mem_workerSideRows_insert.2 (Or.inl hr'), hkey'⟩
    · obtain ⟨rfl, rfl⟩ := Prod.mk.inj (Option.some.inj (hwritten.key.symm.trans hkey))
      obtain ⟨r', hr', hkey'⟩ := hwritten.completed rfl
      exact ⟨r', mem_workerSideRows_insert.2 (Or.inl hr'), hkey'⟩
  · intro hnone
    cases hwritten.current.symm.trans hnone

/-- **An evidence row.**  Rows that are not worker-side evidence are free; a
worker-side row must be written by the owner of the live lease. -/
theorem insertEvidence (h : Ledger db now) {row : EvidenceRow X} {timeline : Timeline X}
    (hnew : ∀ r ∈ db.evidence, r.evidenceKey ≠ row.evidenceKey)
    (hworker : ∀ t, OfWorker row t → ∃ lease phase, WrittenByOwner db now row t lease phase) :
    Ledger (db.insertEvidence row timeline) now := by
  constructor
  · intro t
    by_cases hrow : OfWorker row t
    · obtain ⟨lease, phase, hwritten⟩ := hworker t hrow
      exact written_history h hnew hrow hwritten
    · refine (h.history t).congr (h.history t).valid rfl rfl ?_ rfl
      rw [workerSideRows_insert, if_neg hrow, List.append_nil]
  · exact h.ids
  · exact h.clock
  · exact h.overdue
  · intro t r hr key hkey
    rcases mem_workerSideRows_insert.1 hr with hr | ⟨hrow, rfl⟩
    · exact h.rowKeys t r hr key hkey
    · obtain ⟨lease, phase, hwritten⟩ := hworker t hrow
      obtain rfl := Option.some.inj (hwritten.key.symm.trans hkey)
      exact hwritten.evidenceKey
  · intro t d hexecuted
    rcases executed_insert.1 hexecuted with hexecuted | ⟨hrow, hkey⟩
    · exact h.terminal t d hexecuted
    · obtain ⟨lease, phase, hwritten⟩ := hworker t hrow
      obtain ⟨hd, -⟩ := Prod.mk.inj (Option.some.inj (hwritten.key.symm.trans hkey))
      exact ⟨lease, hwritten.current, hd, h.length_eq_of_live hwritten.current hwritten.live⟩

end Ledger

end DevFlow
