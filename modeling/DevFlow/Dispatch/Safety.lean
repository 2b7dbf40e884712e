/-
# The dispatch invariant

What holds between the tables, the broker and the processes in every state that
`Delivery.perform` reaches.  A message that is not acquired yet, wherever it is
(with its dispatcher, with its reconciler, at the broker), is the message of the
attempt one ahead of the lease, and no dispatch has two; a dispatch was handed to
the broker at most once; and a token belongs to one dispatch.
-/

import DevFlow.Dispatch.Delivery

namespace DevFlow

variable {X : Type}

/-- The messages that are not acquired yet. -/
def DeliveryWorld.pending (w : DeliveryWorld X) : List Message :=
  w.dispatching ++ w.prepared ++ w.inFlight

/-- The attempt of the message is the one after the current generation. -/
def NextInLine (db : Database X) (message : Message) : Prop :=
  ∃ a ∈ attemptsOf db (strip message.taskId), a.dispatchId = message.dispatchId ∧
    a.attemptNumber = db.generation (strip message.taskId) + 1

/-- The invariant. -/
structure DeliveryWorld.Safe (w : DeliveryWorld X) : Prop where
  ledger : Ledger w.db w.now
  /-- Task ids match the pattern of `TaskContract`: they have no white space. -/
  names : ∀ t ∈ w.db.taskIds, strip t = t
  next : ∀ m ∈ w.pending, NextInLine w.db m
  pendingOnce : (w.pending.map Message.dispatchId).Nodup
  sentOnce : (w.sent.map Message.dispatchId).Nodup
  unsent : ∀ m ∈ w.dispatching ++ w.prepared, m.dispatchId ∉ w.sent.map Message.dispatchId
  sentKnown : ∀ m ∈ w.sent, m.dispatchId ∈ w.db.attempts.map DispatchAttemptRow.dispatchId
  /-- The token of a worker is the token of its own dispatch. -/
  holderToken : ∀ h ∈ w.holders, h.token ∈ w.tokens ∧
    ∀ lease, w.db.lease (strip h.message.taskId) = some lease → lease.runToken = h.token →
      lease.dispatchId = h.message.dispatchId
  holderExecuted : ∀ h ∈ w.holders, h.executed = true →
    Executed w.db (strip h.message.taskId) h.message.dispatchId
  tokens : ∀ t lease, w.db.lease t = some lease → lease.runToken ∈ w.tokens

namespace DeliveryWorld.Safe

variable {w w' : DeliveryWorld X}

/-- Processes that let go of messages, or pass them on, while the tables stay. -/
theorem of_pending (h : w.Safe) (hdb : w'.db = w.db) (hnow : w.now ≤ w'.now)
    (hpending : w'.pending.Subperm w.pending)
    (hsent : ∀ m ∈ w'.sent, m ∈ w.sent ∨ m ∈ w.pending)
    (hsentOnce : (w'.sent.map Message.dispatchId).Nodup)
    (hunsent : ∀ m ∈ w'.dispatching ++ w'.prepared, m.dispatchId ∉ w'.sent.map Message.dispatchId)
    (hholders : w'.holders = w.holders) (htokens : w'.tokens = w.tokens) : w'.Safe where
  ledger := hdb ▸ h.ledger.tick hnow
  names := hdb ▸ h.names
  next := fun m hm => hdb ▸ h.next m (hpending.subset hm)
  pendingOnce := by
    obtain ⟨l, hperm, hsublist⟩ := hpending
    have hl : (l.map Message.dispatchId).Nodup := h.pendingOnce.sublist (hsublist.map _)
    exact (hperm.map Message.dispatchId).nodup_iff.1 hl
  sentOnce := hsentOnce
  unsent := hunsent
  sentKnown := by
    intro m hm
    rw [hdb]
    rcases hsent m hm with hm | hm
    · exact h.sentKnown m hm
    · obtain ⟨a, ha, hid, -⟩ := h.next m hm
      exact List.mem_map.2 ⟨a, (mem_attemptsOf.1 ha).1, hid⟩
  holderToken := by
    rw [hdb, hholders, htokens]
    exact h.holderToken
  holderExecuted := by
    rw [hdb, hholders]
    exact h.holderExecuted
  tokens := by
    rw [hdb, htokens]
    exact h.tokens

/-- Time passes. -/
theorem tick (h : w.Safe) (elapsed : ℕ) : { w with now := w.now + elapsed }.Safe :=
  h.of_pending rfl (by simp) (List.Subperm.refl _) (fun _ hm => Or.inl hm) h.sentOnce h.unsent rfl
    rfl

/-- A dispatcher stops. -/
theorem dropDispatching (h : w.Safe) (m : Message) :
    { w with dispatching := w.dispatching.erase m }.Safe := by
  refine h.of_pending rfl le_rfl ?_ (fun _ hm => Or.inl hm) h.sentOnce ?_ rfl rfl
  · exact ((List.erase_sublist.append_right _).append_right _).subperm
  · intro m' hm'
    exact h.unsent m' ((List.erase_sublist.append_right _).subset hm')

/-- A reconciler stops. -/
theorem dropPrepared (h : w.Safe) (m : Message) :
    { w with prepared := w.prepared.erase m }.Safe := by
  refine h.of_pending rfl le_rfl ?_ (fun _ hm => Or.inl hm) h.sentOnce ?_ rfl rfl
  · exact ((List.erase_sublist.append_left _).append_right _).subperm
  · intro m' hm'
    exact h.unsent m' ((List.erase_sublist.append_left _).subset hm')

/-- A delivery that came to nothing. -/
theorem dropInFlight (h : w.Safe) (m : Message) :
    { w with inFlight := w.inFlight.erase m }.Safe :=
  h.of_pending rfl le_rfl (List.erase_sublist.append_left _).subperm (fun _ hm => Or.inl hm)
    h.sentOnce h.unsent rfl rfl

/-- The messages that wait to be sent are different from each other. -/
theorem waiting_ne (h : w.Safe) {m m' : Message} {waiting : List Message}
    (hwaiting : (m :: waiting).Subperm (w.dispatching ++ w.prepared)) (hm' : m' ∈ waiting) :
    m'.dispatchId ≠ m.dispatchId := by
  have hall : (m :: waiting).Subperm w.pending :=
    hwaiting.trans (List.sublist_append_left _ _).subperm
  obtain ⟨l, hperm, hsublist⟩ := hall
  have hnodup : ((m :: waiting).map Message.dispatchId).Nodup :=
    (hperm.map Message.dispatchId).nodup_iff.1 (h.pendingOnce.sublist (hsublist.map _))
  rw [List.map_cons, List.nodup_cons] at hnodup
  exact fun heq => hnodup.1 (heq ▸ List.mem_map_of_mem hm')

/-- **A call of the broker** by the process that holds the message. -/
theorem handOver (h : w.Safe) {w₁ : DeliveryWorld X} {m : Message} (accepted : Bool)
    (hw₁ : w₁.db = w.db ∧ w₁.now = w.now ∧ w₁.inFlight = w.inFlight ∧ w₁.sent = w.sent ∧
      w₁.holders = w.holders ∧ w₁.tokens = w.tokens)
    (hwaiting : (m :: (w₁.dispatching ++ w₁.prepared)).Subperm (w.dispatching ++ w.prepared)) :
    (w₁.handOver m accepted).Safe := by
  obtain ⟨hdb, hnow, hinFlight, hsent, hholders, htokens⟩ := hw₁
  have hm : m ∈ w.dispatching ++ w.prepared := hwaiting.subset List.mem_cons_self
  refine h.of_pending hdb hnow.ge ?_ ?_ ?_ ?_ hholders htokens
  · have hsub : (w₁.dispatching ++ w₁.prepared ++ (w.inFlight ++ [m])).Subperm w.pending := by
      have hperm : (w₁.dispatching ++ w₁.prepared ++ (w.inFlight ++ [m])).Perm
          ((m :: (w₁.dispatching ++ w₁.prepared)) ++ w.inFlight) := by
        rw [← List.append_assoc]
        exact List.perm_append_singleton m _
      exact hperm.subperm.trans ((List.subperm_append_right w.inFlight).2 hwaiting)
    cases accepted with
    | true => simpa [DeliveryWorld.pending, DeliveryWorld.handOver, hinFlight] using hsub
    | false =>
      refine List.Subperm.trans ?_ hsub
      refine List.Sublist.subperm ?_
      simp only [DeliveryWorld.pending, DeliveryWorld.handOver, hinFlight, Bool.false_eq_true,
        if_false]
      exact (List.sublist_append_left _ _).append_left _
  · intro m' hm'
    simp only [DeliveryWorld.handOver, hsent, List.mem_append, List.mem_singleton] at hm'
    rcases hm' with hm' | rfl
    · exact Or.inl hm'
    · exact Or.inr (List.mem_append_left _ hm)
  · simp only [DeliveryWorld.handOver, hsent, List.map_append, List.map_cons, List.map_nil]
    rw [List.nodup_append]
    refine ⟨h.sentOnce, by simp, ?_⟩
    rintro x hx y hy rfl
    obtain rfl := List.mem_singleton.1 hy
    exact h.unsent m hm hx
  · intro m' hm'
    have hne := h.waiting_ne hwaiting hm'
    have hwas : m' ∈ w.dispatching ++ w.prepared :=
      hwaiting.subset (List.mem_cons_of_mem _ hm')
    simp only [DeliveryWorld.handOver, hsent, List.map_append, List.mem_append, List.map_cons,
      List.map_nil, List.mem_singleton, not_or]
    exact ⟨h.unsent m' hwas, hne⟩

/-- **A write that keeps the identities** of attempts, generations and owners. -/
theorem of_db (h : w.Safe) {db' : Database X} (hledger : Ledger db' w.now)
    (htasks : db'.taskIds = w.db.taskIds)
    (hattempts : ∀ t, (attemptsOf db' t).map DispatchAttemptRow.identity =
      (attemptsOf w.db t).map DispatchAttemptRow.identity)
    (hids : db'.attempts.map DispatchAttemptRow.dispatchId =
      w.db.attempts.map DispatchAttemptRow.dispatchId)
    (hlease : ∀ t, (db'.lease t).map (fun l => (l.generation, l.runToken, l.dispatchId)) =
      (w.db.lease t).map fun l => (l.generation, l.runToken, l.dispatchId))
    (hexecuted : ∀ t d, Executed w.db t d → Executed db' t d) : { w with db := db' }.Safe where
  ledger := hledger
  names := by
    rw [htasks]
    exact h.names
  next := by
    intro m hm
    obtain ⟨a, ha, hid, hnumber⟩ := h.next m hm
    have hmem : a.identity ∈ (attemptsOf db' (strip m.taskId)).map DispatchAttemptRow.identity := by
      rw [hattempts]
      exact List.mem_map_of_mem ha
    obtain ⟨a', ha', heq⟩ := List.mem_map.1 hmem
    obtain ⟨hid', hnumber'⟩ := Prod.mk.inj heq
    have hgeneration : db'.generation (strip m.taskId) = w.db.generation (strip m.taskId) := by
      have := congrArg (Option.map Prod.fst) (hlease (strip m.taskId))
      simp only [Option.map_map, Function.comp_def] at this
      unfold Database.generation
      exact congrArg (fun o : Option ℕ => o.getD 0) this
    exact ⟨a', ha', hid'.trans hid, by rw [hnumber', hnumber, hgeneration]⟩
  pendingOnce := h.pendingOnce
  sentOnce := h.sentOnce
  unsent := h.unsent
  sentKnown := by
    rw [hids]
    exact h.sentKnown
  holderToken := by
    intro holder hholder
    refine ⟨(h.holderToken holder hholder).1, fun lease' hlease' htoken => ?_⟩
    have heq := hlease (strip holder.message.taskId)
    rw [hlease', Option.map_some] at heq
    obtain ⟨lease, hl, hfields⟩ := Option.map_eq_some_iff.1 heq.symm
    simp only [Prod.mk.injEq] at hfields
    rw [← hfields.2.2]
    exact (h.holderToken holder hholder).2 lease hl (hfields.2.1.trans htoken)
  holderExecuted := fun holder hholder hdone =>
    hexecuted _ _ (h.holderExecuted holder hholder hdone)
  tokens := by
    intro t lease' hlease'
    have heq := hlease t
    rw [hlease', Option.map_some] at heq
    obtain ⟨lease, hl, hfields⟩ := Option.map_eq_some_iff.1 heq.symm
    simp only [Prod.mk.injEq] at hfields
    rw [← hfields.2.1]
    exact h.tokens t lease hl

/-- A message that waits for a task means that an attempt is ahead. -/
theorem pending_ahead (h : w.Safe) {m : Message} (hm : m ∈ w.pending) :
    w.db.generation (strip m.taskId) + 1 ≤ (attemptsOf w.db (strip m.taskId)).length := by
  obtain ⟨a, ha, -, hnumber⟩ := h.next m hm
  rw [← hnumber]
  exact (h.ledger.history _).number_le ha

/-- **A new attempt, with the process that holds its message.** -/
theorem insertAttempt (h : w.Safe) {m : Message} (hfits : textFits (strip m.taskId) 128)
    (hfresh : m.dispatchId ∉ w.db.attempts.map DispatchAttemptRow.dispatchId)
    (hidle : (w.db.lease (strip m.taskId) = none ∧ attemptsOf w.db (strip m.taskId) = []) ∨
      ∃ lease, w.db.lease (strip m.taskId) = some lease ∧ lease.releasedAt = none ∧
        lease.leaseUntil ≤ w.now ∧ ¬Executed w.db (strip m.taskId) lease.dispatchId ∧
        (attemptsOf w.db (strip m.taskId)).length = lease.generation)
    (hw' : w'.db = w.db.insertAttempt
      (Ledger.nextAttempt w.db w.now m.dispatchId (strip m.taskId)))
    (hpending : w'.pending.Perm (m :: w.pending))
    (hwaiting : ∀ m' ∈ w'.dispatching ++ w'.prepared, m' = m ∨ m' ∈ w.dispatching ++ w.prepared)
    (hrest : w'.now = w.now ∧ w'.sent = w.sent ∧ w'.holders = w.holders ∧ w'.tokens = w.tokens) :
    w'.Safe := by
  obtain ⟨hnow, hsent, hholders, htokens⟩ := hrest
  have hlength : (attemptsOf w.db (strip m.taskId)).length = w.db.generation (strip m.taskId) := by
    rcases hidle with ⟨hnone, hnil⟩ | ⟨lease, hlease, -, -, -, hlength⟩
    · simp [Database.generation, hnone, hnil]
    · rw [hlength, (h.ledger.history _).generation_eq hlease]
  have hknown : ∀ m' ∈ w.pending, m'.dispatchId ∈
      w.db.attempts.map DispatchAttemptRow.dispatchId := by
    intro m' hm'
    obtain ⟨a, ha, hid, -⟩ := h.next m' hm'
    exact List.mem_map.2 ⟨a, (mem_attemptsOf.1 ha).1, hid⟩
  constructor
  · rw [hw', hnow]
    exact h.ledger.insertAttempt hfits hfresh hidle
  · rw [hw']
    exact h.names
  · intro m' hm'
    rw [hw']
    rcases List.mem_cons.1 (hpending.subset hm') with rfl | hm'
    · refine ⟨Ledger.nextAttempt w.db w.now m'.dispatchId (strip m'.taskId), ?_, rfl, ?_⟩
      · rw [Ledger.attemptsOf_next_self]
        simp
      · exact congrArg (· + 1) hlength
    · have hne : strip m'.taskId ≠ strip m.taskId := by
        intro heq
        have := h.pending_ahead hm'
        rw [heq] at this
        omega
      obtain ⟨a, ha, hid, hnumber⟩ := h.next m' hm'
      exact ⟨a, by rwa [Ledger.attemptsOf_next_of_ne _ hne], hid, hnumber⟩
  · rw [(hpending.map _).nodup_iff, List.map_cons, List.nodup_cons]
    refine ⟨fun hmem => ?_, h.pendingOnce⟩
    obtain ⟨m', hm', heq⟩ := List.mem_map.1 hmem
    exact hfresh (heq ▸ hknown m' hm')
  · rw [hsent]
    exact h.sentOnce
  · intro m' hm'
    rw [hsent]
    rcases hwaiting m' hm' with rfl | hm'
    · intro hmem
      obtain ⟨m', hm', heq⟩ := List.mem_map.1 hmem
      exact hfresh (heq ▸ h.sentKnown m' hm')
    · exact h.unsent m' hm'
  · intro m' hm'
    rw [hsent] at hm'
    rw [hw', Database.insertAttempt, List.map_append]
    exact List.mem_append_left _ (h.sentKnown m' hm')
  · rw [hw', hholders, htokens]
    exact h.holderToken
  · rw [hw', hholders]
    exact h.holderExecuted
  · rw [hw', htokens]
    exact h.tokens

/-- No other message waits for the task of a waiting message. -/
theorem alone (h : w.Safe) {m m' : Message} (hm : m ∈ w.inFlight)
    (hm' : m' ∈ w.dispatching ++ w.prepared ++ w.inFlight.erase m) :
    strip m'.taskId ≠ strip m.taskId := by
  intro heq
  obtain ⟨a, ha, hid, hnumber⟩ := h.next m (List.mem_append_right _ hm)
  obtain ⟨a', ha', hid', hnumber'⟩ := (h.dropInFlight m).next m' hm'
  have hnumbers : ((attemptsOf w.db (strip m.taskId)).map
      DispatchAttemptRow.attemptNumber).Nodup := by
    rw [(h.ledger.history _).numbers]
    exact List.nodup_range'
  rw [heq] at ha' hnumber'
  have hsame : a' = a := List.inj_on_of_nodup_map hnumbers ha' ha (hnumber'.trans hnumber.symm)
  have hids : m'.dispatchId = m.dispatchId := by rw [← hid', hsame, hid]
  have hperm : w.pending.Perm (m :: (w.dispatching ++ w.prepared ++ w.inFlight.erase m)) :=
    ((List.perm_cons_erase hm).append_left _).trans List.perm_middle
  have hnodup := h.pendingOnce
  rw [(hperm.map _).nodup_iff, List.map_cons, List.nodup_cons] at hnodup
  exact hnodup.1 (hids ▸ List.mem_map_of_mem hm')

/-- **A delivery that was accepted.** -/
theorem acquire (h : w.Safe) {m : Message} (ownerId : String) (hm : m ∈ w.inFlight)
    {lease : Lease} {timeline : Timeline X}
    (hgeneration : lease.generation = w.db.generation (strip m.taskId) + 1)
    (hdispatch : lease.dispatchId = m.dispatchId) (hfresh : lease.runToken ∉ w.tokens)
    (hdb : w'.db = { w.db.setLease (strip m.taskId) lease with timeline })
    (hmessages : w'.dispatching = w.dispatching ∧ w'.prepared = w.prepared ∧
      w'.inFlight = w.inFlight.erase m ∧ w'.sent = w.sent)
    (hrest : w'.now = w.now ∧ w'.holders = w.holders ++ [⟨m, ownerId, lease.runToken, false⟩] ∧
      w'.tokens = lease.runToken :: w.tokens) : w'.Safe := by
  obtain ⟨hdispatching, hprepared, hinFlight, hsent⟩ := hmessages
  obtain ⟨hnow, hholders, htokens⟩ := hrest
  have hdrop := h.dropInFlight m
  have hpending : w'.pending = w.dispatching ++ w.prepared ++ w.inFlight.erase m := by
    rw [DeliveryWorld.pending, hdispatching, hprepared, hinFlight]
  have hattempts : w'.db.attempts = w.db.attempts := by rw [hdb]; rfl
  have hevidence : w'.db.evidence = w.db.evidence := by rw [hdb]; rfl
  have htasks : w'.db.taskIds = w.db.taskIds := by rw [hdb]; rfl
  have hrows : w'.db.lease = (w.db.setLease (strip m.taskId) lease).lease := by rw [hdb]
  have hself : w'.db.lease (strip m.taskId) = some lease := by
    rw [hrows, Database.setLease_lease_self]
  have hother : ∀ t, t ≠ strip m.taskId → w'.db.lease t = w.db.lease t := by
    intro t ht
    rw [hrows, w.db.setLease_lease_of_ne lease ht]
  have hnewest : ∀ lease', w'.db.lease (strip m.taskId) = some lease' → lease' = lease :=
    fun lease' hlease' => Option.some.inj (hlease'.symm.trans hself)
  constructor
  · rw [hdb, hnow]
    obtain ⟨a, ha, hid, hnumber⟩ := h.next m (List.mem_append_right _ hm)
    exact h.ledger.acquire hgeneration ⟨a, ha, hid.trans hdispatch.symm, hnumber⟩
  · rw [htasks]
    exact h.names
  · intro m' hm'
    rw [hpending] at hm'
    obtain ⟨a', ha', hid', hnumber'⟩ := hdrop.next m' hm'
    refine ⟨a', by rwa [attemptsOf, hattempts], hid', hnumber'.trans ?_⟩
    rw [Database.generation, Database.generation, hother _ (h.alone hm hm')]
  · rw [hpending]
    exact hdrop.pendingOnce
  · rw [hsent]
    exact h.sentOnce
  · rw [hdispatching, hprepared, hsent]
    exact h.unsent
  · rw [hsent, hattempts]
    exact h.sentKnown
  · intro holder hholder
    rw [hholders] at hholder
    rw [htokens]
    rcases List.mem_append.1 hholder with hholder | hholder
    · obtain ⟨htoken, howner⟩ := h.holderToken holder hholder
      refine ⟨List.mem_cons_of_mem _ htoken, fun lease' hlease' htoken' => ?_⟩
      by_cases ht : strip holder.message.taskId = strip m.taskId
      · rw [ht] at hlease'
        rw [hnewest lease' hlease'] at htoken'
        exact absurd (htoken' ▸ htoken) hfresh
      · rw [hother _ ht] at hlease'
        exact howner lease' hlease' htoken'
    · obtain rfl := List.mem_singleton.1 hholder
      refine ⟨List.mem_cons_self, fun lease' hlease' _ => ?_⟩
      rw [hnewest lease' hlease']
      exact hdispatch
  · intro holder hholder hdone
    rw [hholders] at hholder
    rw [Executed, workerSideRows, hevidence]
    rcases List.mem_append.1 hholder with hholder | hholder
    · exact h.holderExecuted holder hholder hdone
    · obtain rfl := List.mem_singleton.1 hholder
      cases hdone
  · intro t lease' hlease'
    rw [htokens]
    by_cases ht : t = strip m.taskId
    · subst ht
      rw [hnewest lease' hlease']
      exact List.mem_cons_self
    · rw [hother t ht] at hlease'
      exact List.mem_cons_of_mem _ (h.tokens t lease' hlease')

/-- **A renewal or a release.** -/
theorem touchLease (h : w.Safe) {taskId : String} {lease lease' : Lease} {timeline : Timeline X}
    (hlease : w.db.lease taskId = some lease) (hlive : lease.Live w.now)
    (hgeneration : lease'.generation = lease.generation)
    (htoken : lease'.runToken = lease.runToken)
    (hdispatch : lease'.dispatchId = lease.dispatchId) :
    { w with db := { w.db.setLease taskId lease' with timeline } }.Safe := by
  refine h.of_db (h.ledger.touchLease hlease hlive hgeneration hdispatch) rfl (fun _ => rfl) rfl
    (fun t => ?_) (fun _ _ => id)
  by_cases ht : t = taskId
  · subst ht
    simp [hlease, hgeneration, htoken, hdispatch]
  · exact congrArg _ (w.db.setLease_lease_of_ne lease' ht)

/-- **A recorded broker outcome.** -/
theorem updateAttempt (h : w.Safe) {target : DispatchAttemptRow} (htarget : target ∈ w.db.attempts)
    {state : AttemptState} {observedAt : Timestamp}
    (hvalid : { target with state := state, updatedAt := observedAt : DispatchAttemptRow }.Valid) :
    { w with db := w.db.updateAttempt target.dispatchId fun row =>
      { row with state := state, updatedAt := observedAt } }.Safe := by
  have hledger := h.ledger.updateAttempt htarget hvalid
  set update : DispatchAttemptRow → DispatchAttemptRow :=
    fun row => { row with state := state, updatedAt := observedAt }
  have hof := Ledger.attemptsOf_update w.db target.dispatchId update fun _ => rfl
  have hidentity : ∀ rows : List DispatchAttemptRow,
      (rows.map fun row => if row.dispatchId = target.dispatchId then update row else row).map
        DispatchAttemptRow.identity = rows.map DispatchAttemptRow.identity := by
    intro rows
    rw [List.map_map]
    refine List.map_congr_left fun row _ => ?_
    by_cases hrow : row.dispatchId = target.dispatchId <;>
      simp [hrow, update, DispatchAttemptRow.identity]
  refine h.of_db hledger rfl (fun t => ?_) ?_ (fun _ => rfl) (fun _ _ => id)
  · rw [hof, hidentity]
  · have := congrArg (List.map Prod.fst) (hidentity w.db.attempts)
    simpa [Database.updateAttempt, DispatchAttemptRow.identity, Function.comp_def] using this

/-- **An evidence row.** -/
theorem insertEvidence (h : w.Safe) {row : EvidenceRow X} {timeline : Timeline X}
    (hnew : ∀ r ∈ w.db.evidence, r.evidenceKey ≠ row.evidenceKey)
    (hworker : ∀ t, Ledger.OfWorker row t →
      ∃ lease phase, Ledger.WrittenByOwner w.db w.now row t lease phase) :
    { w with db := w.db.insertEvidence row timeline }.Safe :=
  h.of_db (h.ledger.insertEvidence hnew hworker) rfl (fun _ => rfl) rfl (fun _ => rfl)
    (fun _ _ hexecuted => Ledger.executed_insert.2 (Or.inl hexecuted))

end DeliveryWorld.Safe

end DevFlow
