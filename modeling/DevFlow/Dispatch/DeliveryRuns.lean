/-
# Every delivery run is consistent

Each step of `Delivery.perform` keeps `DeliveryWorld.Safe`, one lemma for each
sort of step, and so every reachable world has contiguous attempts, a lease that
belongs to the attempt of its generation, dispatches that the broker saw at most
once, and a `prepare_task` that finds nothing to complain about.
-/

import DevFlow.Dispatch.Safety

namespace DevFlow

variable {X : Type}

/-- The guard yields a row of the ledger. -/
theorem guardPreparedPublication_mem {db : Database X} {now : Timestamp} {runId dispatchId : UUID}
    {taskId : String} {target : DispatchAttemptRow}
    (h : guardPreparedPublication db now runId taskId dispatchId = .ok target) :
    target ∈ db.attempts := by
  simp only [guardPreparedPublication, Raising.bind_eq_ok] at h
  obtain ⟨taskName, -, _, -, lease, -, _, -, _, -, _, -, h⟩ := h
  cases hlast : (attemptRows db taskName).getLast? with
  | none =>
    rw [hlast] at h
    cases h
  | some row =>
    have hmem : row ∈ attemptsOf db taskName := by
      have hrow := List.mem_of_getLast? hlast
      rwa [attemptRows, List.mem_insertionSort] at hrow
    rw [hlast] at h
    simp only [Raising.bind_eq_ok] at h
    obtain ⟨_, -, _, -, side, -, _, -, h⟩ := h
    have hrow : row = target := by
      cases lease with
      | none =>
        simp only [Raising.bind_eq_ok, Raising.pure_eq_ok] at h
        obtain ⟨_, -, _, -, rfl⟩ := h
        rfl
      | some lease =>
        dsimp only at h
        split at h
        · cases h
        · simp only [Raising.bind_eq_ok, Raising.pure_eq_ok] at h
          obtain ⟨_, -, _, -, _, -, _, -, _, -, rfl⟩ := h
          rfl
    rw [← hrow]
    exact (mem_attemptsOf.1 hmem).1

namespace DeliveryWorld.Safe

variable {w w' : DeliveryWorld X}

theorem commit (h : w.Safe) {outcome : Except Failure (Database X)}
    (hok : ∀ db, outcome = .ok db → { w with db }.Safe) : (w.commit outcome).2.Safe := by
  cases outcome with
  | ok db => exact hok db rfl
  | error failure => exact h

/-- A task without attempts was never leased. -/
theorem lease_eq_none (h : w.Safe) {t : String} (hnil : attemptsOf w.db t = []) :
    w.db.lease t = none := by
  have hbehind := (h.ledger.history t).behind
  rw [hnil, List.length_nil] at hbehind
  cases hlease : w.db.lease t with
  | none => rfl
  | some lease =>
    have hpos := lease.generation_pos
    rw [(h.ledger.history t).generation_eq hlease] at hbehind
    omega

/-- The first attempt of a task, with its dispatcher. -/
theorem dispatch (h : w.Safe) {taskId : String} {dispatchId : UUID} {db : Database X}
    (hdispatch : dispatchTask w.db w.now dispatchId taskId = .ok (true, db)) :
    ({ w with db, dispatching := w.dispatching ++ [⟨taskId, dispatchId⟩] } : DeliveryWorld X).Safe := by
  simp only [dispatchTask, Raising.bind_eq_ok, Raising.pure_eq_ok, Prod.mk.injEq] at hdispatch
  obtain ⟨_, _, _, _, ⟨⟨row, created⟩, db'⟩, hbegin, _, _, rfl, rfl⟩ := hdispatch
  rcases beginInitialAttempt_eq_ok hbegin with ⟨hfalse, -⟩ | ⟨-, -, -, hnew, hnone, rfl, hvalid, rfl⟩
  · cases hfalse
  have hnil : attemptsOf w.db (strip taskId) = [] :=
    List.filter_eq_nil_iff.2 fun a ha => by simpa using hnone a ha
  refine h.insertAttempt (m := ⟨taskId, dispatchId⟩) hvalid.1 ?_ (Or.inl ⟨h.lease_eq_none hnil, hnil⟩)
    ?_ ?_ ?_ ⟨rfl, rfl, rfl, rfl⟩
  · intro hmem
    obtain ⟨a, ha, hid⟩ := List.mem_map.1 hmem
    exact hnew a ha hid
  · rw [Ledger.nextAttempt, hnil]
    rfl
  · simp only [DeliveryWorld.pending, List.append_assoc, List.cons_append, List.nil_append]
    exact List.perm_middle
  · intro m' hm'
    simp only [List.mem_append, List.mem_singleton] at hm' ⊢
    tauto

/-- A dispatch that found its own attempt. -/
theorem dispatchAgain (h : w.Safe) {taskId : String} {dispatchId : UUID} {db : Database X}
    (hdispatch : dispatchTask w.db w.now dispatchId taskId = .ok (false, db)) :
    ({ w with db } : DeliveryWorld X).Safe := by
  simp only [dispatchTask, Raising.bind_eq_ok, Raising.pure_eq_ok, Prod.mk.injEq] at hdispatch
  obtain ⟨_, _, _, _, ⟨⟨row, created⟩, db'⟩, hbegin, _, _, rfl, rfl⟩ := hdispatch
  rcases beginInitialAttempt_eq_ok hbegin with ⟨-, rfl⟩ | ⟨htrue, -⟩
  · exact h
  · cases htrue

/-- A decision of the reconciler, with its prepared message. -/
theorem prepare (h : w.Safe) {taskId : String} {freshId : UUID} {db : Database X}
    {dec : ReconciliationDecision}
    (hfresh : freshId ∉ w.db.attempts.map DispatchAttemptRow.dispatchId)
    (hprepare : prepareTask w.db w.now freshId w.db.runId taskId = .ok (dec, db)) :
    ({ w with
      db
      prepared := if dec.action = .preparedDispatch then w.prepared ++ [⟨taskId, freshId⟩]
        else w.prepared } : DeliveryWorld X).Safe := by
  have hdecided : Decided w.db w.now freshId (strip taskId) dec db := by
    rcases prepareTask_spec w.db.runId w.now freshId
        (h.ledger.history (strip taskId)) with ⟨failure, hfail, -⟩ | ⟨dec', db', hok, hdecided⟩
    · cases hfail.symm.trans hprepare
    · obtain ⟨rfl, rfl⟩ := Prod.mk.inj (Except.ok.inj (hok.symm.trans hprepare))
      exact hdecided
  rcases hdecided with ⟨haction, rfl⟩ | ⟨haction, hprepared⟩
  · rw [if_neg haction]
    exact h
  · rw [if_pos haction]
    refine h.insertAttempt (m := ⟨taskId, freshId⟩) hprepared.fits hfresh hprepared.idle
      hprepared.inserted ?_ ?_ ⟨rfl, rfl, rfl, rfl⟩
    · simp only [DeliveryWorld.pending, List.append_assoc, List.cons_append, List.nil_append]
      exact (List.perm_middle.append_left w.dispatching).trans List.perm_middle
    · intro m' hm'
      simp only [List.mem_append, List.mem_singleton] at hm' ⊢
      tauto

/-- The dispatcher's record of the broker's answer. -/
theorem record (h : w.Safe) {message : Message} {outcome : PublicationOutcome} {db : Database X}
    (hrecord : (match outcome with
      | .enqueued brokerMessageId queueName =>
        markEnqueued w.db w.now message.dispatchId w.db.runId message.taskId brokerMessageId
          queueName
      | .failed errorCode errorMessage =>
        markPublishFailed w.db w.now message.dispatchId w.db.runId message.taskId errorCode
          errorMessage) = .ok db) : { w with db }.Safe := by
  have hresolved : db = w.db ∨ ∃ row ∈ w.db.attempts, row.dispatchId = message.dispatchId ∧
      ∃ resolved, { row with state := resolved, updatedAt := w.now : DispatchAttemptRow }.Valid ∧
        db = w.db.updateAttempt message.dispatchId fun row =>
          { row with state := resolved, updatedAt := w.now } := by
    cases outcome with
    | enqueued brokerMessageId queueName =>
      simp only [markEnqueued, Raising.bind_eq_ok] at hrecord
      obtain ⟨_, _, _, _, _, _, hresolve⟩ := hrecord
      rcases resolveAttempt_eq_ok hresolve with rfl | ⟨row, hrow, hid, -, hvalid, rfl⟩
      · exact Or.inl rfl
      · exact Or.inr ⟨row, hrow, hid, _, hvalid, rfl⟩
    | failed errorCode errorMessage =>
      simp only [markPublishFailed, Raising.bind_eq_ok] at hrecord
      obtain ⟨_, _, _, _, _, _, hresolve⟩ := hrecord
      rcases resolveAttempt_eq_ok hresolve with rfl | ⟨row, hrow, hid, -, hvalid, rfl⟩
      · exact Or.inl rfl
      · exact Or.inr ⟨row, hrow, hid, _, hvalid, rfl⟩
  rcases hresolved with rfl | ⟨row, hrow, hid, resolved, hvalid, rfl⟩
  · exact h
  · rw [← hid]
    exact h.updateAttempt hrow hvalid

/-- The record of a guarded publication. -/
theorem markPublication (h : w.Safe) {target : DispatchAttemptRow} {outcome : PublicationOutcome}
    {db : Database X} (htarget : target ∈ w.db.attempts)
    (hmark : DevFlow.markPublication w.db w.now target outcome = .ok db) : { w with db }.Safe := by
  simp only [DevFlow.markPublication, Raising.bind_eq_ok, Raising.pure_eq_ok,
    decodeAttempt_eq_ok] at hmark
  obtain ⟨state, -, _, hvalid, rfl⟩ := hmark
  exact h.updateAttempt htarget hvalid

/-- What processes have observed and not recorded is no part of the invariant. -/
theorem observe (h : w.Safe) (observed : List (Message × PublicationOutcome)) :
    ({ w with observed } : DeliveryWorld X).Safe :=
  h.of_pending rfl le_rfl (List.Subperm.refl _) (fun _ hm => Or.inl hm) h.sentOnce h.unsent rfl rfl

/-- The dispatcher calls the broker. -/
theorem send (h : w.Safe) {message : Message} (hmessage : message ∈ w.dispatching)
    (accepted : Bool) :
    (({ w with dispatching := w.dispatching.erase message } : DeliveryWorld X).handOver message
      accepted).Safe := by
  refine h.handOver accepted ⟨rfl, rfl, rfl, rfl, rfl, rfl⟩ (List.Perm.subperm ?_)
  exact ((List.perm_cons_erase hmessage).append_right w.prepared).symm

/-- The reconciler calls the broker. -/
theorem sendPrepared (h : w.Safe) {message : Message} (hmessage : message ∈ w.prepared)
    (accepted : Bool) :
    (({ w with prepared := w.prepared.erase message } : DeliveryWorld X).handOver message
      accepted).Safe := by
  refine h.handOver accepted ⟨rfl, rfl, rfl, rfl, rfl, rfl⟩ (List.Perm.subperm ?_)
  have hperm := (List.perm_cons_erase hmessage).append_left w.dispatching
  exact (hperm.trans List.perm_middle).symm

variable [DecidableEq X]

/-- **A worker's row is about the dispatch that owns the task.** -/
theorem workerAppend (h : w.Safe) {holder : Holder} (hholder : holder ∈ w.holders)
    (hmember : holder.message.taskId ∈ w.db.taskIds) {phase : Option DispatchPhase}
    {kind : EvidenceKind} {payload : Payload X} {db : Database X}
    (hkey : ∀ row : EvidenceRow X, row.payload = payload →
      row.workerKey = some (holder.message.dispatchId, phase))
    (hrow : ∀ row : EvidenceRow X, row.payload = payload → row.kind = kind →
      row.WorkerRow w.db.runId holder.message.taskId [holder.message.dispatchId])
    (hcompleted : phase = some .completed → holder.executed = true)
    (happend : DevFlow.workerAppend w.db w.now holder phase kind payload = .ok db) :
    { w with db }.Safe := by
  obtain ⟨id, happend⟩ := Raising.map_snd_eq_ok.1 happend
  obtain ⟨-, hmodel, hadmits, happended⟩ := appendEvidence_eq_ok happend
  have hname : strip holder.message.taskId = holder.message.taskId := h.names _ hmember
  rcases happended with ⟨row, -, -, -, -, rfl⟩ | ⟨hnew, timeline, -, rfl⟩
  · exact h
  refine h.insertEvidence hnew fun t ht => ?_
  have htask : strip holder.message.taskId = t := Option.some.inj ht.1
  rcases hadmits _ rfl with ⟨-, hnone⟩ | ⟨lease, hlease, htoken, hlive⟩
  · cases hnone
  have hown : lease.dispatchId = holder.message.dispatchId :=
    (h.holderToken holder hholder).2 lease hlease (Option.some.inj htoken).symm
  refine ⟨lease, phase, ?_⟩
  rw [← htask]
  refine ⟨hlease, hlive, ?_, ?_, ?_, ?_⟩
  · rw [hown]
    exact hkey _ rfl
  · rw [hown]
    rfl
  · rw [hown, hname]
    exact hrow _ rfl rfl
  · intro hphase
    rw [hown]
    exact h.holderExecuted holder hholder (hcompleted hphase)

/-- A terminal execution that was appended is there. -/
theorem executed_of_append {holder : Holder} {evidence : WorkerExecutionEvidence X}
    {db : Database X} (hdispatch : evidence.dispatchId = holder.message.dispatchId)
    (happend : DevFlow.workerAppend w.db w.now holder none .workerExecution
      (.workerExecution evidence) = .ok db) :
    Executed db (strip holder.message.taskId) holder.message.dispatchId := by
  obtain ⟨id, happend⟩ := Raising.map_snd_eq_ok.1 happend
  obtain ⟨-, -, -, happended⟩ := appendEvidence_eq_ok happend
  rcases happended with ⟨row, hrow, -, hsame, -, rfl⟩ | ⟨-, timeline, -, rfl⟩
  · obtain ⟨htask, hkind, -, -, -, hpayload⟩ := hsame
    refine ⟨row, ?_, ?_⟩
    · rw [workerSideRows, List.mem_filter]
      exact ⟨hrow, by simp [htask, hkind]⟩
    · rw [EvidenceRow.workerKey, hpayload, ← hdispatch]
  · refine Ledger.executed_insert.2 (Or.inr ⟨⟨rfl, Or.inl rfl⟩, ?_⟩)
    rw [← hdispatch]
    rfl

/-- The evidence that the holder of a dispatch writes is accepted under its own
dispatch only, and marks it as executed. -/
theorem execute (h : w.Safe) {holder : Holder} (hholder : holder ∈ w.holders)
    (hmember : holder.message.taskId ∈ w.db.taskIds) {evidence : WorkerExecutionEvidence X}
    (hdispatch : evidence.dispatchId = holder.message.dispatchId)
    (hrun : evidence.runId = w.db.runId) (htask : evidence.taskId = holder.message.taskId)
    {db : Database X}
    (happend : DevFlow.workerAppend w.db w.now holder none .workerExecution
      (.workerExecution evidence) = .ok db) :
    ({ w with
      db
      holders := w.holders.map fun h => if h = holder then { h with executed := true } else h }
      : DeliveryWorld X).Safe := by
  have hsafe : ({ w with db } : DeliveryWorld X).Safe := by
    refine h.workerAppend hholder hmember ?_ ?_ (by simp) happend
    · intro row hrow
      rw [EvidenceRow.workerKey, hrow, ← hdispatch]
    · intro row hrow hkind
      rw [EvidenceRow.WorkerRow, hrow]
      exact ⟨hkind, hrun, htask, by simp [hdispatch]⟩
  have hexecuted := executed_of_append hdispatch happend
  have hold : ∀ h' ∈ w.holders.map fun h => if h = holder then { h with executed := true } else h,
      ∃ old ∈ w.holders, h'.message = old.message ∧ h'.token = old.token ∧
        (h'.executed = true → old.executed = true ∨ old = holder) := by
    intro h' hh'
    obtain ⟨old, hmem, rfl⟩ := List.mem_map.1 hh'
    by_cases heq : old = holder
    · rw [if_pos heq]
      exact ⟨old, hmem, rfl, rfl, fun _ => Or.inr heq⟩
    · rw [if_neg heq]
      exact ⟨old, hmem, rfl, rfl, Or.inl⟩
  refine ⟨hsafe.ledger, hsafe.names, hsafe.next, hsafe.pendingOnce, hsafe.sentOnce, hsafe.unsent,
    hsafe.sentKnown, ?_, ?_, hsafe.tokens⟩
  · intro h' hh'
    obtain ⟨old, hmem, hmessage, htoken, -⟩ := hold h' hh'
    rw [hmessage, htoken]
    exact hsafe.holderToken old hmem
  · intro h' hh' hdone
    obtain ⟨old, hmem, hmessage, -, hcases⟩ := hold h' hh'
    rw [hmessage]
    rcases hcases hdone with hdone | rfl
    · exact hsafe.holderExecuted old hmem hdone
    · exact hexecuted

/-- The `RECEIVED` or `COMPLETED` event of a worker. -/
theorem event (h : w.Safe) {holder : Holder} (outcome : Option ExecutionStatus)
    (hholder : holder ∈ w.holders) (hmember : holder.message.taskId ∈ w.db.taskIds)
    {phase : DispatchPhase} (hphase : phase = if outcome = none then .received else .completed)
    (hdone : outcome ≠ none → holder.executed = true) {db : Database X}
    (happend : DevFlow.workerAppend w.db w.now holder (some phase) .dispatchEvent
      (.dispatchEvent (phaseEvent w.db holder.message outcome)) = .ok db) :
    ({ w with db } : DeliveryWorld X).Safe := by
  refine h.workerAppend hholder hmember ?_ ?_ ?_ happend
  · intro row hrow
    rw [EvidenceRow.workerKey, hrow, hphase]
    rfl
  · intro row hrow hkind
    rw [EvidenceRow.WorkerRow, hrow]
    exact ⟨hkind, rfl, rfl, by simp [phaseEvent]⟩
  · intro hcompleted
    refine hdone fun hnone => ?_
    rw [hnone, if_pos rfl] at hphase
    rw [hphase] at hcompleted
    cases hcompleted

/-- Evidence of another kind is no worker-side row. -/
theorem appendOther (h : w.Safe) {evidenceKey : String} {kind : EvidenceKind} {payload : Payload X}
    {taskId stage : Option String} {sequence : Option ℤ} {runToken : Option UUID} {id : ℕ}
    {db : Database X} (hkind : ¬(kind = .workerExecution ∨ kind = .dispatchEvent))
    (happend : appendEvidence w.db w.now w.db.runId evidenceKey kind payload taskId stage sequence
      runToken = .ok (id, db)) : ({ w with db } : DeliveryWorld X).Safe := by
  obtain ⟨-, -, -, happended⟩ := appendEvidence_eq_ok happend
  rcases happended with ⟨row, -, -, -, -, rfl⟩ | ⟨hnew, timeline, -, rfl⟩
  · exact h
  · exact h.insertEvidence hnew fun t ht => absurd ht.2 hkind

/-- **Every step keeps the invariant.** -/
theorem step {d : Delivery X} {answer : Except Failure Unit} (h : w.Safe)
    (hstep : deliveryStep w d answer w') : w'.Safe := by
  unfold deliveryStep at hstep
  cases d with
  | dispatch taskId dispatchId =>
    simp only [Delivery.perform] at hstep
    split at hstep
    · rename_i db hdispatch
      obtain ⟨rfl, rfl⟩ := Prod.mk.inj (Option.some.inj hstep)
      exact h.dispatch hdispatch
    · rename_i db hdispatch
      obtain ⟨rfl, rfl⟩ := Prod.mk.inj (Option.some.inj hstep)
      exact h.dispatchAgain hdispatch
    · obtain ⟨rfl, rfl⟩ := Prod.mk.inj (Option.some.inj hstep)
      exact h
  | send message result =>
    simp only [Delivery.perform] at hstep
    split at hstep
    · cases hstep
    rename_i hmessage
    have hmessage := not_not.1 hmessage
    cases result with
    | stopped =>
      obtain ⟨rfl, rfl⟩ := Prod.mk.inj (Option.some.inj hstep)
      exact h.dropDispatching message
    | called accepted outcome =>
      cases outcome with
      | none =>
        obtain ⟨rfl, rfl⟩ := Prod.mk.inj (Option.some.inj hstep)
        exact h.send hmessage accepted
      | some outcome =>
        obtain ⟨rfl, rfl⟩ := Prod.mk.inj (Option.some.inj hstep)
        exact (h.send hmessage accepted).observe _
  | record message outcome =>
    simp only [Delivery.perform] at hstep
    split at hstep
    · cases hstep
    · obtain rfl := congrArg Prod.snd (Option.some.inj hstep)
      exact (h.observe _).commit fun db hdb => (h.observe _).record hdb
  | prepare taskId freshId =>
    simp only [Delivery.perform] at hstep
    split at hstep
    · cases hstep
    rename_i hfresh
    split at hstep
    · rename_i dec db hprepare
      obtain ⟨-, rfl⟩ := Prod.mk.inj (Option.some.inj hstep)
      exact h.prepare hfresh hprepare
    · obtain ⟨-, rfl⟩ := Prod.mk.inj (Option.some.inj hstep)
      exact h
  | publish message result elapsed =>
    simp only [Delivery.perform] at hstep
    split at hstep
    · cases hstep
    rename_i hmessage
    have hmessage := not_not.1 hmessage
    split at hstep
    · obtain ⟨-, rfl⟩ := Prod.mk.inj (Option.some.inj hstep)
      exact h.dropPrepared message
    rename_i target hguard
    have htarget := guardPreparedPublication_mem hguard
    cases result with
    | stopped =>
      obtain ⟨-, rfl⟩ := Prod.mk.inj (Option.some.inj hstep)
      exact h.dropPrepared message
    | called accepted outcome =>
      have hsent := h.sendPrepared hmessage accepted
      cases outcome with
      | none =>
        obtain ⟨-, rfl⟩ := Prod.mk.inj (Option.some.inj hstep)
        exact hsent
      | some outcome =>
        obtain rfl := congrArg Prod.snd (Option.some.inj hstep)
        exact (hsent.tick elapsed).commit fun db hdb =>
          (hsent.tick elapsed).markPublication htarget hdb
  | acquire message ownerId token leaseSeconds =>
    simp only [Delivery.perform] at hstep
    split at hstep
    · cases hstep
    rename_i hcond
    obtain ⟨hmessage, htoken⟩ := not_or.1 hcond
    have hmessage := not_not.1 hmessage
    split at hstep
    · rename_i grant db hacquire
      obtain ⟨-, rfl⟩ := Prod.mk.inj (Option.some.inj hstep)
      obtain ⟨lease, timeline, hacquired, -, -, rfl⟩ := acquireTaskLease_eq_ok hacquire
      rw [← hacquired.runToken] at htoken
      refine h.acquire ownerId hmessage hacquired.generation hacquired.dispatch htoken
        rfl ⟨rfl, rfl, rfl, rfl⟩ ⟨rfl, ?_, ?_⟩ <;> rw [hacquired.runToken]
    · obtain ⟨-, rfl⟩ := Prod.mk.inj (Option.some.inj hstep)
      exact h.dropInFlight message
  | renew holder leaseSeconds =>
    simp only [Delivery.perform] at hstep
    split at hstep
    · cases hstep
    obtain rfl := congrArg Prod.snd (Option.some.inj hstep)
    refine h.commit fun db hdb => ?_
    obtain ⟨shown, hrenew⟩ := Raising.map_snd_eq_ok.1 hdb
    obtain ⟨lease, until', timeline, hlease, -, -, hlive, -, rfl⟩ := renewTaskLease_eq_ok hrenew
    exact h.touchLease hlease hlive rfl rfl rfl
  | release holder =>
    simp only [Delivery.perform] at hstep
    split at hstep
    · cases hstep
    obtain rfl := congrArg Prod.snd (Option.some.inj hstep)
    refine h.commit fun db hdb => ?_
    obtain ⟨shown, hrelease⟩ := Raising.map_snd_eq_ok.1 hdb
    obtain ⟨lease, hlease, -, -, ⟨-, rfl⟩ | ⟨hlive, timeline, rfl⟩⟩ :=
      releaseTaskLease_eq_ok hrelease
    · exact h
    · exact h.touchLease hlease hlive rfl rfl rfl
  | receive holder =>
    simp only [Delivery.perform] at hstep
    split at hstep
    · cases hstep
    rename_i hcond
    obtain ⟨hholder, hmember⟩ := not_or.1 hcond
    obtain rfl := congrArg Prod.snd (Option.some.inj hstep)
    exact h.commit fun db hdb =>
      h.event none (not_not.1 hholder) (not_not.1 hmember) (if_pos rfl).symm
        (fun hne => absurd rfl hne) hdb
  | execute holder evidence =>
    simp only [Delivery.perform] at hstep
    split at hstep
    · cases hstep
    rename_i hcond
    simp only [not_or, not_not, ne_eq] at hcond
    obtain ⟨hholder, hmember, hdispatch, hrun, htask⟩ := hcond
    split at hstep
    · rename_i db happend
      obtain ⟨-, rfl⟩ := Prod.mk.inj (Option.some.inj hstep)
      exact h.execute hholder hmember hdispatch hrun htask happend
    · obtain ⟨-, rfl⟩ := Prod.mk.inj (Option.some.inj hstep)
      exact h
  | complete holder outcome =>
    simp only [Delivery.perform] at hstep
    split at hstep
    · cases hstep
    rename_i hcond
    simp only [not_or, not_not, Bool.not_eq_false] at hcond
    obtain ⟨hholder, hmember, hdone⟩ := hcond
    obtain rfl := congrArg Prod.snd (Option.some.inj hstep)
    exact h.commit fun db hdb =>
      h.event (some outcome) hholder hmember (if_neg (by simp)).symm (fun _ => hdone) hdb
  | append evidenceKey kind payload taskId stage sequence runToken =>
    simp only [Delivery.perform] at hstep
    split at hstep
    · cases hstep
    rename_i hkind
    obtain rfl := congrArg Prod.snd (Option.some.inj hstep)
    refine h.commit fun db hdb => ?_
    obtain ⟨id, happend⟩ := Raising.map_snd_eq_ok.1 hdb
    exact h.appendOther hkind happend
  | tick elapsed =>
    obtain ⟨-, rfl⟩ := Prod.mk.inj (Option.some.inj hstep)
    exact h.tick elapsed
  | otherRuns ids =>
    obtain ⟨-, rfl⟩ := Prod.mk.inj (Option.some.inj hstep)
    exact h.of_db (h.ledger.congr rfl rfl rfl rfl) rfl (fun _ => rfl) rfl (fun _ => rfl)
      (fun _ _ => id)

end DeliveryWorld.Safe

end DevFlow
