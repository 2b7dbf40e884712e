/-
# Consistent histories

The dispatch ledger, the lease and the worker-side evidence of a task are
written by different parties.  `History` says how they fit together: attempts
are numbered from one without a gap, the lease belongs to the attempt of its
generation, at most one attempt is ahead of it, and every worker-side row is
about one known dispatch.  On a history of this kind `prepare_task` raises no
corruption error, and `prepareTask_spec` says what it may write.
-/

import DevFlow.Persistence.Reconciliation

namespace DevFlow

variable {X : Type}

/-- The rows of one task in the order they were written. -/
def attemptsOf (db : Database X) (taskId : String) : List DispatchAttemptRow :=
  db.attempts.filter fun row => row.taskId = taskId

theorem mem_attemptsOf {db : Database X} {taskId : String} {a : DispatchAttemptRow} :
    a ∈ attemptsOf db taskId ↔ a ∈ db.attempts ∧ a.taskId = taskId := by
  simp [attemptsOf]

theorem decodeAttempts_eq_ok {rows : List DispatchAttemptRow} {u : Unit} :
    decodeAttempts rows = .ok u ↔ ∀ a ∈ rows, a.Valid := by
  induction rows with
  | nil => simp [decodeAttempts, pure, Except.pure]
  | cons row rows ih =>
    simp only [decodeAttempts, Raising.bind_eq_ok, decodeAttempt_eq_ok, ih, List.forall_mem_cons]
    constructor
    · rintro ⟨-, hrow, hrows⟩
      exact ⟨hrow, hrows⟩
    · rintro ⟨hrow, hrows⟩
      exact ⟨⟨⟩, hrow, hrows⟩

/-- The dispatch of a worker-side row, with its phase when it is a dispatch
event. -/
def EvidenceRow.workerKey (row : EvidenceRow X) : Option (UUID × Option DispatchPhase) :=
  match row.payload with
  | .workerExecution payload => some (payload.dispatchId, none)
  | .dispatchEvent event => some (event.dispatchId, some event.phase)
  | .other _ _ => none

/-- A worker-side row that the reconciler accepts for a task: it has the model of
its kind, and names the run, the task and a known dispatch. -/
def EvidenceRow.WorkerRow (row : EvidenceRow X) (runId : UUID) (taskId : String)
    (knownDispatches : List UUID) : Prop :=
  match row.payload with
  | .workerExecution payload => row.kind = .workerExecution ∧ payload.runId = runId ∧
      payload.taskId = taskId ∧ payload.dispatchId ∈ knownDispatches
  | .dispatchEvent event => row.kind = .dispatchEvent ∧ event.runId = runId ∧
      event.taskId = taskId ∧ event.dispatchId ∈ knownDispatches
  | .other _ _ => False

/-- What the reconciler has read so far: an execution of the dispatch, or a phase
of it. -/
def WorkerSide.records (side : WorkerSide) : UUID × Option DispatchPhase → Prop
  | (dispatchId, none) => side.hasWorker dispatchId
  | (dispatchId, some phase) => (dispatchId, phase) ∈ side.dispatches.map Prod.fst

variable {runId : UUID} {taskId : String} {known : List UUID} {side : WorkerSide}

/-- A new well-formed row is read, and its key with it. -/
theorem readWorkerRow_eq_ok {row : EvidenceRow X} (hrow : row.WorkerRow runId taskId known)
    (hnew : ∀ key, row.workerKey = some key → ¬side.records key) :
    ∃ side', readWorkerRow runId taskId known side row = .ok side' ∧
      ∀ key, side'.records key ↔ side.records key ∨ row.workerKey = some key := by
  unfold EvidenceRow.WorkerRow at hrow
  unfold EvidenceRow.workerKey at hnew ⊢
  unfold readWorkerRow
  cases hpayload : row.payload with
  | workerExecution payload =>
    simp only [hpayload] at hrow hnew
    obtain ⟨hkind, hrun, htask, hknown⟩ := hrow
    have hnot : ¬side.hasWorker payload.dispatchId := hnew (payload.dispatchId, none) rfl
    refine ⟨{ side with workers := side.workers ++ [(payload.dispatchId, row.id)] }, ?_, ?_⟩
    · simp [assertWorkerIdentity, Raising.raiseIf, hkind, hrun, htask, hknown, hnot, bind,
        Except.bind, pure, Except.pure]
    · rintro ⟨d, _ | phase⟩
      · simp [WorkerSide.records, WorkerSide.hasWorker, eq_comm]
      · simp [WorkerSide.records]
  | dispatchEvent event =>
    simp only [hpayload] at hrow hnew
    obtain ⟨hkind, hrun, htask, hknown⟩ := hrow
    have hnot : (event.dispatchId, event.phase) ∉ side.dispatches.map Prod.fst :=
      hnew (event.dispatchId, some event.phase) rfl
    refine ⟨{ side with
      dispatches := side.dispatches ++ [((event.dispatchId, event.phase), row.id)] }, ?_, ?_⟩
    · simp only [assertWorkerIdentity, Raising.raiseIf, hkind, hrun, htask, hknown, hnot, bind,
        Except.bind, pure, Except.pure, ne_eq, not_true_eq_false, or_self, if_false]
    · rintro ⟨d, _ | phase⟩
      · simp [WorkerSide.records, WorkerSide.hasWorker]
      · simp [WorkerSide.records, eq_comm]
  | other model content => simp [hpayload] at hrow

/-- Well-formed rows with different keys are all read. -/
theorem readWorkerRows_eq_ok {rows : List (EvidenceRow X)}
    (hrows : ∀ row ∈ rows, row.WorkerRow runId taskId known)
    (hdistinct : rows.Pairwise fun a b => a.workerKey ≠ b.workerKey)
    (hnew : ∀ row ∈ rows, ∀ key, row.workerKey = some key → ¬side.records key) :
    ∃ side', readWorkerRows runId taskId known side rows = .ok side' ∧
      ∀ key, side'.records key ↔ side.records key ∨ ∃ row ∈ rows, row.workerKey = some key := by
  induction rows generalizing side with
  | nil => exact ⟨side, rfl, by simp⟩
  | cons row rows ih =>
    rw [List.forall_mem_cons] at hrows hnew
    rw [List.pairwise_cons] at hdistinct
    obtain ⟨side₁, hread, hside₁⟩ := readWorkerRow_eq_ok hrows.1 hnew.1
    have hnew₁ : ∀ row' ∈ rows, ∀ key, row'.workerKey = some key → ¬side₁.records key := by
      intro row' hrow' key hkey hrecorded
      rcases (hside₁ key).1 hrecorded with hold | hsame
      · exact hnew.2 row' hrow' key hkey hold
      · exact hdistinct.1 row' hrow' (hsame.trans hkey.symm)
    obtain ⟨side₂, hreads, hside₂⟩ := ih hrows.2 hdistinct.2 hnew₁
    refine ⟨side₂, ?_, fun key => ?_⟩
    · simp only [readWorkerRows, hread, Raising.ok_bind, hreads]
    · rw [hside₂, hside₁, List.exists_mem_cons_iff, or_assoc]

/-- **A consistent history of a task**, as the ledger, the lease and the
worker-side evidence of `db` record it. -/
structure History (db : Database X) (taskId : String) : Prop where
  /-- Attempts are well formed and numbered from one without a gap. -/
  valid : ∀ a ∈ attemptsOf db taskId, a.Valid
  numbers : (attemptsOf db taskId).map DispatchAttemptRow.attemptNumber =
    List.range' 1 (attemptsOf db taskId).length
  /-- No dispatch has two attempts. -/
  ids : ((attemptsOf db taskId).map DispatchAttemptRow.dispatchId).Nodup
  /-- At most one attempt is ahead of the generation, and none is behind it. -/
  ahead : (attemptsOf db taskId).length ≤ db.generation taskId + 1
  behind : db.generation taskId ≤ (attemptsOf db taskId).length
  /-- The current generation belongs to the attempt of its number. -/
  owner : ∀ lease, db.lease taskId = some lease →
    ∃ a ∈ attemptsOf db taskId, a.dispatchId = lease.dispatchId ∧
      a.attemptNumber = lease.generation
  /-- Worker-side rows are well formed, one for each dispatch and phase. -/
  rows : ∀ row ∈ workerSideRows db taskId,
    row.WorkerRow db.runId taskId ((attemptsOf db taskId).map DispatchAttemptRow.dispatchId)
  distinct : (workerSideRows db taskId).Pairwise fun a b => a.workerKey ≠ b.workerKey
  /-- A completed dispatch has its terminal execution. -/
  completed : ∀ row ∈ workerSideRows db taskId, ∀ d,
    row.workerKey = some (d, some .completed) →
      ∃ row' ∈ workerSideRows db taskId, row'.workerKey = some (d, none)
  /-- Nothing was written for a task that was never leased. -/
  unowned : db.lease taskId = none → workerSideRows db taskId = []

/-- Terminal evidence exists for the dispatch. -/
def Executed (db : Database X) (taskId : String) (dispatchId : UUID) : Prop :=
  ∃ row ∈ workerSideRows db taskId, row.workerKey = some (dispatchId, none)

namespace History

variable {db : Database X}

theorem attemptRows_eq (h : History db taskId) : attemptRows db taskId = attemptsOf db taskId := by
  refine List.Pairwise.insertionSort_eq ?_
  have hpair : ((attemptsOf db taskId).map DispatchAttemptRow.attemptNumber).Pairwise (· ≤ ·) := by
    rw [h.numbers]
    exact (List.pairwise_lt_range' (s := 1)).imp fun hlt => hlt.le
  exact List.pairwise_map.1 hpair

/-- The worker-side evidence of a consistent history is accepted. -/
theorem validated (h : History db taskId) :
    ∃ side, validatedWorkerSideEvidence db db.runId taskId (attemptsOf db taskId) = .ok side ∧
      (∀ key, side.records key ↔ ∃ row ∈ workerSideRows db taskId, row.workerKey = some key) := by
  have hempty : ∀ row ∈ workerSideRows db taskId, ∀ key, row.workerKey = some key →
      ¬WorkerSide.records ⟨[], []⟩ key := by
    rintro row - ⟨d, _ | phase⟩ - <;> simp [WorkerSide.records, WorkerSide.hasWorker]
  obtain ⟨side, hread, hside⟩ := readWorkerRows_eq_ok h.rows h.distinct hempty
  have hside' : ∀ key, side.records key ↔
      ∃ row ∈ workerSideRows db taskId, row.workerKey = some key := by
    intro key
    rw [hside]
    refine or_iff_right ?_
    obtain ⟨d, _ | phase⟩ := key <;> simp [WorkerSide.records, WorkerSide.hasWorker]
  refine ⟨side, ?_, hside'⟩
  have hcompleted : ¬∃ entry ∈ side.dispatches,
      entry.1.2 = .completed ∧ ¬side.hasWorker entry.1.1 := by
    rintro ⟨⟨⟨d, phase⟩, id⟩, hentry, rfl, hnone⟩
    have hrecorded : side.records (d, some .completed) := List.mem_map_of_mem (f := Prod.fst) hentry
    obtain ⟨row, hrow, hkey⟩ := (hside' _).1 hrecorded
    obtain ⟨row', hrow', hkey'⟩ := h.completed row hrow d hkey
    exact hnone ((hside' (d, none)).2 ⟨row', hrow', hkey'⟩)
  simp only [validatedWorkerSideEvidence, hread, Raising.ok_bind, Raising.raiseIf_of_not hcompleted]
  rfl

/-- The attempt of the current generation is the one that the lease names. -/
theorem find_owner (h : History db taskId) {lease : Lease} (hlease : db.lease taskId = some lease) :
    ∃ current, (attemptsOf db taskId).find? (fun row => row.dispatchId = lease.dispatchId) =
      some current ∧ current.attemptNumber = lease.generation := by
  obtain ⟨a, ha, hid, hnumber⟩ := h.owner lease hlease
  cases hfind : (attemptsOf db taskId).find? (fun row => row.dispatchId = lease.dispatchId) with
  | none =>
    have := List.find?_eq_none.1 hfind a ha
    simp [hid] at this
  | some current =>
    have hmem := List.mem_of_find?_eq_some hfind
    have hsame : current.dispatchId = lease.dispatchId := by simpa using List.find?_some hfind
    have heq : current = a := List.inj_on_of_nodup_map h.ids hmem ha (hsame.trans hid.symm)
    exact ⟨current, rfl, heq ▸ hnumber⟩

theorem generation_eq (_h : History db taskId) {lease : Lease}
    (hlease : db.lease taskId = some lease) : db.generation taskId = lease.generation := by
  simp [Database.generation, hlease]

/-- Attempt numbers run up to the number of attempts. -/
theorem number_le (h : History db taskId) {a : DispatchAttemptRow}
    (ha : a ∈ attemptsOf db taskId) : a.attemptNumber ≤ (attemptsOf db taskId).length := by
  have hmem : a.attemptNumber ∈ List.range' 1 (attemptsOf db taskId).length :=
    h.numbers ▸ List.mem_map_of_mem (f := DispatchAttemptRow.attemptNumber) ha
  rw [List.mem_range'_1] at hmem
  omega

/-- The last attempt has the number of attempts as its number. -/
theorem last_number (h : History db taskId) :
    ((attemptsOf db taskId).getLast?.map DispatchAttemptRow.attemptNumber).getD 0 =
      (attemptsOf db taskId).length := by
  rw [← List.getLast?_map, h.numbers]
  cases hn : (attemptsOf db taskId).length with
  | zero => simp
  | succ n => simp [List.getLast?_range']

/-- At most one attempt is newer than the current generation. -/
theorem newer_length_le (h : History db taskId) {lease : Lease}
    (hlease : db.lease taskId = some lease) :
    ((attemptsOf db taskId).filter fun row => lease.generation < row.attemptNumber).length ≤ 1 := by
  have hnodup : ((attemptsOf db taskId).map DispatchAttemptRow.attemptNumber).Nodup := by
    rw [h.numbers]
    exact List.nodup_range'
  have hsub : (((attemptsOf db taskId).filter fun row =>
      lease.generation < row.attemptNumber).map DispatchAttemptRow.attemptNumber).Nodup :=
    hnodup.sublist (List.filter_sublist.map _)
  have hall : ∀ n ∈ ((attemptsOf db taskId).filter fun row =>
      lease.generation < row.attemptNumber).map DispatchAttemptRow.attemptNumber,
      n = lease.generation + 1 := by
    intro n hn
    obtain ⟨a, ha, rfl⟩ := List.mem_map.1 hn
    rw [List.mem_filter] at ha
    have hle := h.number_le ha.1
    have hahead := h.ahead
    rw [h.generation_eq hlease] at hahead
    have hlt : lease.generation < a.attemptNumber := by simpa using ha.2
    omega
  rw [List.eq_replicate_of_mem hall] at hsub
  simpa using List.nodup_replicate.1 hsub

/-- When no attempt is newer, the attempts end with the current generation. -/
theorem length_eq_of_newer_nil (h : History db taskId) {lease : Lease}
    (hlease : db.lease taskId = some lease)
    (hnewer : ((attemptsOf db taskId).filter fun row => lease.generation < row.attemptNumber) = []) :
    (attemptsOf db taskId).length = lease.generation := by
  have hbehind := h.behind
  rw [h.generation_eq hlease] at hbehind
  refine le_antisymm ?_ hbehind
  have hpos : 1 ≤ (attemptsOf db taskId).length := lease.generation_pos.trans hbehind
  have hmem : (attemptsOf db taskId).length ∈
      (attemptsOf db taskId).map DispatchAttemptRow.attemptNumber := by
    rw [h.numbers, List.mem_range'_1]
    omega
  obtain ⟨a, ha, hnumber⟩ := List.mem_map.1 hmem
  have hnot := List.filter_eq_nil_iff.1 hnewer a ha
  simp only [decide_eq_true_eq, not_lt] at hnot
  omega

end History

/-- What a PREPARED_DISPATCH decision has checked and written. -/
structure Prepared (db : Database X) (now : Timestamp) (freshId : UUID) (taskId : String)
    (dec : ReconciliationDecision) (db' : Database X) : Prop where
  running : db.status = .running
  member : taskId ∈ db.taskIds
  fits : textFits taskId 128
  attempt : dec.dispatchAttempt =
    some (requestedAttempt freshId taskId ((attemptsOf db taskId).length + 1) now)
  inserted : db' =
    db.insertAttempt (requestedAttempt freshId taskId ((attemptsOf db taskId).length + 1) now)
  /-- The task was never dispatched, or its last attempt's generation is expired
  without terminal evidence. -/
  idle : (db.lease taskId = none ∧ attemptsOf db taskId = []) ∨
    ∃ lease, db.lease taskId = some lease ∧ lease.releasedAt = none ∧ lease.leaseUntil ≤ now ∧
      ¬Executed db taskId lease.dispatchId ∧ (attemptsOf db taskId).length = lease.generation

theorem textFits_strip {value : String} {maxLength : ℕ} (hne : strip value ≠ "")
    (hle : (strip value).length ≤ maxLength) : textFits (strip value) maxLength := by
  refine ⟨?_, hle⟩
  by_contra hlt
  have hzero : (strip value).length = 0 := by omega
  exact hne (String.length_eq_zero_iff.1 hzero)

variable {db db' : Database X} {now : Timestamp} {freshId : UUID}

theorem existingDispatchDecision_action (taskId : String) (attempt : DispatchAttemptRow)
    (reasonPrefix : String) :
    (existingDispatchDecision db taskId now attempt reasonPrefix).action ≠ .preparedDispatch := by
  unfold existingDispatchDecision
  split <;> simp [decision]

/-- The two ends of a decision: nothing is written, or an attempt is. -/
def Decided (db : Database X) (now : Timestamp) (freshId : UUID) (taskId : String)
    (dec : ReconciliationDecision) (db' : Database X) : Prop :=
  (dec.action ≠ .preparedDispatch ∧ db' = db) ∨
    (dec.action = .preparedDispatch ∧ Prepared db now freshId taskId dec db')

theorem prepareAttempt_spec {attemptNumber : ℕ} {reason : String} {recovery : Bool}
    (hfits : textFits taskId 128) (hrunning : db.status = .running)
    (hmember : taskId ∈ db.taskIds) (hnumber : attemptNumber = (attemptsOf db taskId).length + 1)
    (hidle : (db.lease taskId = none ∧ attemptsOf db taskId = []) ∨
      ∃ lease, db.lease taskId = some lease ∧ lease.releasedAt = none ∧ lease.leaseUntil ≤ now ∧
        ¬Executed db taskId lease.dispatchId ∧
        (attemptsOf db taskId).length = lease.generation) :
    ∃ dec db', prepareAttempt db now freshId taskId attemptNumber reason recovery =
      .ok (dec, db') ∧ Decided db now freshId taskId dec db' := by
  subst hnumber
  have hvalid : (requestedAttempt freshId taskId ((attemptsOf db taskId).length + 1) now).Valid :=
    requestedAttempt_valid hfits (by omega)
  simp only [prepareAttempt, decodeAttempt, Raising.raiseIf_of_not (not_not.2 hvalid),
    Raising.ok_bind]
  exact ⟨_, _, rfl, Or.inr ⟨rfl, ⟨hrunning, hmember, hfits, rfl, rfl, hidle⟩⟩⟩

/-- The decision about an owned task. -/
theorem prepareOwned_spec (h : History db taskId) (hfits : textFits taskId 128)
    (hrunning : db.status = .running) (hmember : taskId ∈ db.taskIds) {lease : Lease}
    (hlease : db.lease taskId = some lease)
    (hside : ∀ key, side.records key ↔
      ∃ row ∈ workerSideRows db taskId, row.workerKey = some key) :
    ∃ dec db', prepareOwned db now freshId taskId (attemptsOf db taskId) side lease =
      .ok (dec, db') ∧ Decided db now freshId taskId dec db' := by
  obtain ⟨current, hfind, hnumber⟩ := h.find_owner hlease
  unfold prepareOwned
  rw [hfind]
  cases hworker : side.workers.find? (fun entry => entry.1 = lease.dispatchId) with
  | some entry => exact ⟨_, db, rfl, Or.inl ⟨by simp [decision], rfl⟩⟩
  | none =>
    by_cases hreleased : lease.releasedAt ≠ none
    · exact ⟨_, db, (if_pos hreleased).trans rfl, Or.inl ⟨by simp [decision], rfl⟩⟩
    by_cases hactive : now < lease.leaseUntil
    · exact ⟨_, db, (if_neg hreleased).trans ((if_pos hactive).trans rfl),
        Or.inl ⟨by simp [decision], rfl⟩⟩
    have hcount : ¬1 < ((attemptsOf db taskId).filter fun row =>
        current.attemptNumber < row.attemptNumber).length := by
      rw [hnumber]
      exact not_lt.2 (h.newer_length_le hlease)
    simp only [if_neg hreleased, if_neg hactive, Raising.raiseIf_of_not hcount, Raising.ok_bind]
    cases hnewer : (attemptsOf db taskId).filter fun row =>
        current.attemptNumber < row.attemptNumber with
    | cons attempt rest =>
      exact ⟨_, db, rfl, Or.inl ⟨existingDispatchDecision_action taskId attempt _, rfl⟩⟩
    | nil =>
      have hlength := h.length_eq_of_newer_nil hlease (hnumber ▸ hnewer)
      have hexecuted : ¬Executed db taskId lease.dispatchId := by
        intro hrow
        have hmem : lease.dispatchId ∈ side.workers.map Prod.fst :=
          (hside (lease.dispatchId, none)).2 hrow
        obtain ⟨entry, hentry, hid⟩ := List.mem_map.1 hmem
        have := List.find?_eq_none.1 hworker entry hentry
        simp [hid] at this
      exact prepareAttempt_spec hfits hrunning hmember (by rw [h.last_number])
        (Or.inr ⟨lease, hlease, not_not.1 hreleased, not_lt.1 hactive, hexecuted, hlength⟩)

/-- The decision about a task that was never leased. -/
theorem prepareUnowned_spec (h : History db taskId) (hfits : textFits taskId 128)
    (hrunning : db.status = .running) (hmember : taskId ∈ db.taskIds)
    (hlease : db.lease taskId = none)
    (hside : ∀ key, side.records key ↔
      ∃ row ∈ workerSideRows db taskId, row.workerKey = some key) :
    ∃ dec db', prepareUnowned db now freshId taskId (attemptsOf db taskId) side =
      .ok (dec, db') ∧ Decided db now freshId taskId dec db' := by
  have hempty : ¬side.nonempty := by
    rintro (hne | hne)
    · obtain ⟨entry, hentry⟩ := List.exists_mem_of_ne_nil _ hne
      have hrecorded : side.records (entry.1, none) := List.mem_map_of_mem (f := Prod.fst) hentry
      simp [hside, h.unowned hlease] at hrecorded
    · obtain ⟨entry, hentry⟩ := List.exists_mem_of_ne_nil _ hne
      have hrecorded : side.records (entry.1.1, some entry.1.2) :=
        List.mem_map_of_mem (f := Prod.fst) hentry
      simp [hside, h.unowned hlease] at hrecorded
  simp only [prepareUnowned, Raising.raiseIf_of_not hempty, Raising.ok_bind]
  cases hlast : (attemptsOf db taskId).getLast? with
  | some attempt =>
    exact ⟨_, db, rfl, Or.inl ⟨existingDispatchDecision_action taskId attempt _, rfl⟩⟩
  | none =>
    have hnil : attemptsOf db taskId = [] := List.getLast?_eq_none_iff.1 hlast
    exact prepareAttempt_spec hfits hrunning hmember (by simp [hnil]) (Or.inl ⟨hlease, hnil⟩)

variable (now freshId) in
/-- On a consistent history, `prepare_task` of a task of the RUNNING run comes to
its decision about the lease. -/
theorem prepareTask_of_running (h : History db (strip taskId)) (hfits : textFits (strip taskId) 128)
    (hmember : strip taskId ∈ db.taskIds) (hrunning : db.status = .running) :
    ∃ side : WorkerSide, (∀ key, side.records key ↔
        ∃ row ∈ workerSideRows db (strip taskId), row.workerKey = some key) ∧
      prepareTask db now freshId db.runId taskId =
        match db.lease (strip taskId) with
        | none => prepareUnowned db now freshId (strip taskId) (attemptsOf db (strip taskId)) side
        | some lease =>
          prepareOwned db now freshId (strip taskId) (attemptsOf db (strip taskId)) side lease := by
  have hbounded : boundedText taskId "task_id" 128 = .ok (strip taskId) := by
    refine boundedText_eq_ok.2 ⟨rfl, ?_, hfits.2⟩
    rintro hempty
    have hlength := hfits.1
    rw [hempty] at hlength
    exact absurd hlength (by decide)
  have hlocked : lockedTask db (strip taskId) = .ok (db.lease (strip taskId)) :=
    lockedTask_eq_ok.2 ⟨hmember, rfl⟩
  have hdecoded : decodeAttempts (attemptsOf db (strip taskId)) = .ok () :=
    decodeAttempts_eq_ok.2 h.valid
  have hhistory : validateAttemptHistory (attemptsOf db (strip taskId)) = .ok () := by
    simp [validateAttemptHistory, h.numbers]
  obtain ⟨side, hvalidated, hside⟩ := h.validated
  refine ⟨side, hside, ?_⟩
  unfold prepareTask
  generalize db.lease (strip taskId) = lease at hlocked ⊢
  cases lease <;>
    simp only [hbounded, lockedRun, hlocked, Raising.raiseIf_of_not (not_not.2 rfl),
      Raising.ok_bind, if_neg (not_not.2 hrunning), h.attemptRows_eq, hdecoded, hhistory,
      hvalidated]

variable (runId now freshId) in
/-- **On a consistent history `prepare_task` raises no corruption error:** it
refuses its arguments, or returns a decision and writes one attempt or nothing. -/
theorem prepareTask_spec (h : History db (strip taskId)) :
    (∃ failure, prepareTask db now freshId runId taskId = .error failure ∧
      failure.kind = .valueError) ∨
    ∃ dec db', prepareTask db now freshId runId taskId = .ok (dec, db') ∧
      Decided db now freshId (strip taskId) dec db' := by
  by_cases htext : strip taskId = "" ∨ 128 < (strip taskId).length
  · left
    simp only [prepareTask, boundedText, Raising.raiseIf_of htext, Raising.error_bind]
    exact ⟨_, rfl, rfl⟩
  have hbounded : boundedText taskId "task_id" 128 = .ok (strip taskId) :=
    boundedText_eq_ok.2 ⟨rfl, by simpa using htext⟩
  have hfits : textFits (strip taskId) 128 :=
    textFits_strip (not_or.1 htext).1 (not_lt.1 (not_or.1 htext).2)
  by_cases hrun : runId ≠ db.runId
  · left
    simp only [prepareTask, hbounded, lockedRun, Raising.raiseIf_of hrun, Raising.ok_bind,
      Raising.error_bind]
    exact ⟨_, rfl, rfl⟩
  obtain rfl := not_not.1 hrun
  by_cases hmember : strip taskId ∉ db.taskIds
  · left
    simp only [prepareTask, hbounded, lockedRun, lockedTask, Raising.raiseIf_of_not hrun,
      Raising.raiseIf_of hmember, Raising.ok_bind, Raising.error_bind]
    exact ⟨_, rfl, rfl⟩
  rw [not_not] at hmember
  have hlocked : lockedTask db (strip taskId) = .ok (db.lease (strip taskId)) :=
    lockedTask_eq_ok.2 ⟨hmember, rfl⟩
  right
  by_cases hrunning : db.status ≠ .running
  · simp only [prepareTask, hbounded, lockedRun, hlocked, Raising.raiseIf_of_not hrun,
      Raising.ok_bind]
    exact ⟨_, db, (if_pos hrunning).trans rfl, Or.inl ⟨by simp [decision], rfl⟩⟩
  rw [not_not] at hrunning
  obtain ⟨side, hside, hprepare⟩ := prepareTask_of_running now freshId h hfits hmember hrunning
  rw [hprepare]
  cases hlease : db.lease (strip taskId) with
  | none => exact prepareUnowned_spec h hfits hrunning hmember hlease hside
  | some lease => exact prepareOwned_spec h hfits hrunning hmember hlease hside

/-- **A task that `prepare_task` dispatches:** it was never dispatched, or its last
attempt's generation is expired without terminal evidence. -/
def Idle (db : Database X) (now : Timestamp) (taskId : String) : Prop :=
  (db.lease taskId = none ∧ attemptsOf db taskId = []) ∨
    ∃ lease, db.lease taskId = some lease ∧ lease.releasedAt = none ∧ lease.leaseUntil ≤ now ∧
      ¬Executed db taskId lease.dispatchId ∧ (attemptsOf db taskId).length = lease.generation

theorem prepareAttempt_action {attemptNumber : ℕ} {reason : String} {recovery : Bool}
    {dec : ReconciliationDecision}
    (h : prepareAttempt db now freshId taskId attemptNumber reason recovery = .ok (dec, db')) :
    dec.action = .preparedDispatch := by
  simp only [prepareAttempt, Raising.bind_eq_ok, Raising.pure_eq_ok, Prod.mk.injEq] at h
  obtain ⟨_, _, rfl, -⟩ := h
  rfl

/-- An idle owned task is prepared. -/
theorem prepareOwned_idle (h : History db taskId) {lease : Lease}
    (hlease : db.lease taskId = some lease) (hreleased : lease.releasedAt = none)
    (hexpired : lease.leaseUntil ≤ now) (hexecuted : ¬Executed db taskId lease.dispatchId)
    (hlength : (attemptsOf db taskId).length = lease.generation)
    (hside : ∀ key, side.records key ↔
      ∃ row ∈ workerSideRows db taskId, row.workerKey = some key) {dec : ReconciliationDecision}
    (hprepare : prepareOwned db now freshId taskId (attemptsOf db taskId) side lease =
      .ok (dec, db')) :
    dec.action = .preparedDispatch := by
  obtain ⟨current, hfind, hnumber⟩ := h.find_owner hlease
  have hworker : side.workers.find? (fun entry => entry.1 = lease.dispatchId) = none := by
    refine List.find?_eq_none.2 fun entry hentry hid => hexecuted ?_
    have hrecorded : side.records (lease.dispatchId, none) :=
      List.mem_map.2 ⟨entry, hentry, by simpa using hid⟩
    exact (hside _).1 hrecorded
  have hnewer : ((attemptsOf db taskId).filter fun row =>
      current.attemptNumber < row.attemptNumber) = [] := by
    refine List.filter_eq_nil_iff.2 fun a ha => ?_
    have hle := h.number_le ha
    rw [hnumber, decide_eq_true_eq]
    omega
  unfold prepareOwned at hprepare
  simp only [hfind, hworker, hreleased, ne_eq, not_true_eq_false, if_false,
    if_neg (not_lt.2 hexpired), hnewer, Raising.bind_eq_ok] at hprepare
  obtain ⟨_, _, hprepare⟩ := hprepare
  exact prepareAttempt_action hprepare

variable (now freshId) in
/-- **`prepare_task` prepares a dispatch exactly for an idle task.** -/
theorem prepareTask_action_iff (h : History db (strip taskId))
    (hfits : textFits (strip taskId) 128) (hmember : strip taskId ∈ db.taskIds)
    (hrunning : db.status = .running) :
    ∃ dec db', prepareTask db now freshId db.runId taskId = .ok (dec, db') ∧
      (dec.action = .preparedDispatch ↔ Idle db now (strip taskId)) ∧
      Decided db now freshId (strip taskId) dec db' := by
  obtain ⟨side, hside, hprepare⟩ := prepareTask_of_running now freshId h hfits hmember hrunning
  rw [hprepare]
  cases hlease : db.lease (strip taskId) with
  | none =>
    obtain ⟨dec, db', hok, hdecided⟩ : ∃ dec db', prepareUnowned db now freshId (strip taskId)
        (attemptsOf db (strip taskId)) side = .ok (dec, db') ∧
        Decided db now freshId (strip taskId) dec db' :=
      prepareUnowned_spec h hfits hrunning hmember hlease hside
    refine ⟨dec, db', hok, ⟨fun haction => ?_, ?_⟩, hdecided⟩
    · rcases hdecided with ⟨hother, -⟩ | ⟨-, hprepared⟩
      · exact absurd haction hother
      · exact hprepared.idle
    · rintro (⟨-, hnil⟩ | ⟨lease, hsome, -⟩)
      · simp only [prepareUnowned, hnil, List.getLast?_nil, Raising.bind_eq_ok] at hok
        obtain ⟨_, _, hok⟩ := hok
        exact prepareAttempt_action hok
      · rw [hlease] at hsome
        cases hsome
  | some lease =>
    obtain ⟨dec, db', hok, hdecided⟩ : ∃ dec db', prepareOwned db now freshId (strip taskId)
        (attemptsOf db (strip taskId)) side lease = .ok (dec, db') ∧
        Decided db now freshId (strip taskId) dec db' :=
      prepareOwned_spec h hfits hrunning hmember hlease hside
    refine ⟨dec, db', hok, ⟨fun haction => ?_, ?_⟩, hdecided⟩
    · rcases hdecided with ⟨hother, -⟩ | ⟨-, hprepared⟩
      · exact absurd haction hother
      · exact hprepared.idle
    · rintro (⟨hnone, -⟩ | ⟨lease', hsome, hreleased, hexpired, hexecuted, hlength⟩)
      · rw [hlease] at hnone
        cases hnone
      · rw [hlease] at hsome
        obtain rfl := Option.some.inj hsome
        exact prepareOwned_idle h hlease hreleased hexpired hexecuted hlength hside hok

end DevFlow
