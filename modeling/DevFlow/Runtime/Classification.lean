/-
# Classification of consistent evidence

On evidence that the stores wrote, the classifier finds no corruption: every
worker-side row is of a known task and about one of its dispatches, no dispatch
has two executions or a phase twice, and a completed dispatch has its execution.
Then the two dictionaries are the rows themselves, one entry for each, and an
execution is found exactly when its row is there.
-/

import DevFlow.Persistence.Ledger
import DevFlow.Runtime.Recovery

namespace DevFlow

open Ledger (OfWorker)

variable {X : Type}

/-- The entry of `workers` that a row becomes. -/
def EvidenceRow.workerEntry (row : EvidenceRow X) :
    Option ((String × UUID) × (ℕ × ExecutionStatus)) :=
  match row.kind, row.taskId, row.payload with
  | .workerExecution, some taskId, .workerExecution execution =>
    some ((taskId, execution.dispatchId), (row.id, execution.status))
  | _, _, _ => none

/-- The entry of `dispatches` that a row becomes. -/
def EvidenceRow.dispatchEntry (row : EvidenceRow X) :
    Option ((String × UUID × DispatchPhase) × ℕ) :=
  match row.kind, row.taskId, row.payload with
  | .dispatchEvent, some taskId, .dispatchEvent event =>
    some ((taskId, event.dispatchId, event.phase), row.id)
  | _, _, _ => none

/-- **Consistent evidence** of a run with the given tasks. -/
structure ConsistentEvidence (runId : UUID) (taskIds : List String) (rows : List (EvidenceRow X)) :
    Prop where
  /-- Worker-side rows are of a known task and well formed. -/
  scope : ∀ row ∈ rows, row.kind = .workerExecution ∨ row.kind = .dispatchEvent →
    ∃ t ∈ taskIds, row.taskId = some t ∧ ∃ known, row.WorkerRow runId t known
  /-- No dispatch of a task has two executions or one phase twice. -/
  distinct : rows.Pairwise fun a b => ∀ t, OfWorker a t → OfWorker b t → a.workerKey ≠ b.workerKey
  /-- A completed dispatch has its terminal execution. -/
  completed : ∀ row ∈ rows, ∀ t d, OfWorker row t → row.workerKey = some (d, some .completed) →
    ∃ row' ∈ rows, OfWorker row' t ∧ row'.workerKey = some (d, none)

theorem mem_workerSideRows {db : Database X} {t : String} {row : EvidenceRow X} :
    row ∈ workerSideRows db t ↔ row ∈ db.evidence ∧ OfWorker row t := by
  simp [workerSideRows, OfWorker]

/-- The histories of all tasks make the evidence consistent, once its rows are of
tasks of the run. -/
theorem ConsistentEvidence.of_history {db : Database X} {taskIds : List String}
    (h : ∀ t, History db t)
    (hscope : ∀ row ∈ db.evidence, row.kind = .workerExecution ∨ row.kind = .dispatchEvent →
      ∃ t ∈ taskIds, row.taskId = some t) :
    ConsistentEvidence db.runId taskIds db.evidence where
  scope := by
    intro row hrow hkind
    obtain ⟨t, ht, htask⟩ := hscope row hrow hkind
    exact ⟨t, ht, htask, _, (h t).rows row (mem_workerSideRows.2 ⟨hrow, htask, hkind⟩)⟩
  distinct := by
    rw [List.pairwise_iff_getElem]
    intro i j hi hj hij t
    have hpair := (h t).distinct
    rw [workerSideRows, List.pairwise_filter, List.pairwise_iff_getElem] at hpair
    simpa [OfWorker] using hpair i j hi hj hij
  completed := by
    intro row hrow t d hof hkey
    obtain ⟨row', hrow', hkey'⟩ :=
      (h t).completed row (mem_workerSideRows.2 ⟨hrow, hof⟩) d hkey
    obtain ⟨hmem, hof'⟩ := mem_workerSideRows.1 hrow'
    exact ⟨row', hmem, hof', hkey'⟩

section Entries

variable {row : EvidenceRow X} {t : String} {d : UUID}

theorem workerEntry_eq_some {entry : (String × UUID) × (ℕ × ExecutionStatus)} :
    row.workerEntry = some entry ↔ ∃ t execution, row.kind = .workerExecution ∧
      row.taskId = some t ∧ row.payload = .workerExecution execution ∧
      entry = ((t, execution.dispatchId), (row.id, execution.status)) := by
  unfold EvidenceRow.workerEntry
  split
  · rename_i hkind htask hpayload
    simp [hkind, htask, hpayload, eq_comm]
  · rename_i hother
    constructor
    · intro h
      cases h
    · rintro ⟨t, execution, hkind, htask, hpayload, -⟩
      exact absurd hpayload (hother t execution hkind htask)

theorem dispatchEntry_eq_some {entry : (String × UUID × DispatchPhase) × ℕ} :
    row.dispatchEntry = some entry ↔ ∃ t event, row.kind = .dispatchEvent ∧
      row.taskId = some t ∧ row.payload = .dispatchEvent event ∧
      entry = ((t, event.dispatchId, event.phase), row.id) := by
  unfold EvidenceRow.dispatchEntry
  split
  · rename_i hkind htask hpayload
    simp [hkind, htask, hpayload, eq_comm]
  · rename_i hother
    constructor
    · intro h
      cases h
    · rintro ⟨t, event, hkind, htask, hpayload, -⟩
      exact absurd hpayload (hother t event hkind htask)

/-- A well-formed row with a new key is read. -/
theorem decodeEvidenceRow_eq_ok {runId : UUID} {taskIds : List String} {decoded : DecodedEvidence}
    (hrow : row.kind = .workerExecution ∨ row.kind = .dispatchEvent →
      ∃ t ∈ taskIds, row.taskId = some t ∧ ∃ known, row.WorkerRow runId t known)
    (hworker : ∀ entry, row.workerEntry = some entry → entry.1 ∉ decoded.workers.map Prod.fst)
    (hdispatch : ∀ entry, row.dispatchEntry = some entry →
      entry.1 ∉ decoded.dispatches.map Prod.fst) :
    decodeEvidenceRow runId taskIds decoded row =
      .ok ⟨decoded.workers ++ row.workerEntry.toList,
        decoded.dispatches ++ row.dispatchEntry.toList⟩ := by
  by_cases hkind : row.kind = .workerExecution ∨ row.kind = .dispatchEvent
  · obtain ⟨t, ht, htask, known, hform⟩ := hrow hkind
    have hscope : validatedTaskScope taskIds row = .ok t := by
      simp [validatedTaskScope, htask, Option.filter, ht]
    have hnot : ¬(row.kind ≠ .workerExecution ∧ row.kind ≠ .dispatchEvent) := by tauto
    rw [decodeEvidenceRow, if_neg hnot, hscope, Raising.ok_bind]
    unfold EvidenceRow.WorkerRow at hform
    cases hpayload : row.payload with
    | workerExecution execution =>
      simp only [hpayload] at hform
      obtain ⟨hexecution, hrun, hname, -⟩ := hform
      have hentry : row.workerEntry =
          some ((t, execution.dispatchId), (row.id, execution.status)) :=
        workerEntry_eq_some.2 ⟨t, execution, hexecution, htask, hpayload, rfl⟩
      have hnone : row.dispatchEntry = none := by
        simp [EvidenceRow.dispatchEntry, hexecution]
      have hidentity : validatePayloadIdentity runId row execution.runId execution.taskId =
          .ok () := by
        simp [validatePayloadIdentity, hrun, hname, htask]
      simp only [hexecution, hidentity, Raising.ok_bind,
        Raising.raiseIf_of_not (hworker _ hentry), hentry, hnone, Option.toList_some,
        Option.toList_none, List.append_nil]
      rfl
    | dispatchEvent event =>
      simp only [hpayload] at hform
      obtain ⟨hevent, hrun, hname, -⟩ := hform
      have hentry : row.dispatchEntry = some ((t, event.dispatchId, event.phase), row.id) :=
        dispatchEntry_eq_some.2 ⟨t, event, hevent, htask, hpayload, rfl⟩
      have hnone : row.workerEntry = none := by
        simp [EvidenceRow.workerEntry, hevent]
      have hidentity : validatePayloadIdentity runId row event.runId event.taskId = .ok () := by
        simp [validatePayloadIdentity, hrun, hname, htask]
      simp only [hevent, hidentity, Raising.ok_bind, Raising.raiseIf_of_not (hdispatch _ hentry),
        hentry, hnone, Option.toList_some, Option.toList_none, List.append_nil]
      rfl
    | other model content =>
      simp only [hpayload] at hform
  · rw [not_or] at hkind
    have hworkerNone : row.workerEntry = none := by
      refine Option.eq_none_iff_forall_ne_some.2 fun entry hentry => ?_
      obtain ⟨-, -, hexecution, -⟩ := workerEntry_eq_some.1 hentry
      exact hkind.1 hexecution
    have hdispatchNone : row.dispatchEntry = none := by
      refine Option.eq_none_iff_forall_ne_some.2 fun entry hentry => ?_
      obtain ⟨-, -, hevent, -⟩ := dispatchEntry_eq_some.1 hentry
      exact hkind.2 hevent
    rw [decodeEvidenceRow, if_pos hkind, hworkerNone, hdispatchNone]
    simp [pure, Except.pure]

end Entries

section Decoding

variable {runId : UUID} {taskIds : List String} {rows : List (EvidenceRow X)}

theorem filterMap_cons_toList {α β : Type} (f : α → Option β) (a : α) (l : List α) :
    (a :: l).filterMap f = (f a).toList ++ l.filterMap f := by
  cases h : f a <;> simp [h]

/-- The loop reads well-formed rows with different keys. -/
theorem decodeEvidenceRow_foldlM {decoded : DecodedEvidence}
    (hrows : ∀ row ∈ rows, row.kind = .workerExecution ∨ row.kind = .dispatchEvent →
      ∃ t ∈ taskIds, row.taskId = some t ∧ ∃ known, row.WorkerRow runId t known)
    (hworkers : ((decoded.workers ++ rows.filterMap EvidenceRow.workerEntry).map Prod.fst).Nodup)
    (hdispatches :
      ((decoded.dispatches ++ rows.filterMap EvidenceRow.dispatchEntry).map Prod.fst).Nodup) :
    rows.foldlM (decodeEvidenceRow runId taskIds) decoded =
      .ok ⟨decoded.workers ++ rows.filterMap EvidenceRow.workerEntry,
        decoded.dispatches ++ rows.filterMap EvidenceRow.dispatchEntry⟩ := by
  induction rows generalizing decoded with
  | nil => simp [pure, Except.pure]
  | cons row rows ih =>
    rw [List.forall_mem_cons] at hrows
    rw [filterMap_cons_toList, ← List.append_assoc] at hworkers hdispatches
    have hworker : ∀ entry, row.workerEntry = some entry →
        entry.1 ∉ decoded.workers.map Prod.fst := by
      intro entry hentry hmem
      rw [hentry, List.map_append, List.map_append] at hworkers
      have hleft := (List.nodup_append.1 hworkers).1
      exact (List.nodup_append.1 hleft).2.2 _ hmem _ (by simp) rfl
    have hdispatch : ∀ entry, row.dispatchEntry = some entry →
        entry.1 ∉ decoded.dispatches.map Prod.fst := by
      intro entry hentry hmem
      rw [hentry, List.map_append, List.map_append] at hdispatches
      have hleft := (List.nodup_append.1 hdispatches).1
      exact (List.nodup_append.1 hleft).2.2 _ hmem _ (by simp) rfl
    rw [List.foldlM_cons, decodeEvidenceRow_eq_ok hrows.1 hworker hdispatch, Raising.ok_bind,
      ih hrows.2 hworkers hdispatches, filterMap_cons_toList, filterMap_cons_toList,
      List.append_assoc, List.append_assoc]

variable (h : ConsistentEvidence runId taskIds rows)

include h

/-- **An execution is found exactly when its row is there.** -/
theorem ConsistentEvidence.mem_workers {t : String} {d : UUID} {id : ℕ} {status : ExecutionStatus} :
    ((t, d), (id, status)) ∈ rows.filterMap EvidenceRow.workerEntry ↔
      ∃ row ∈ rows, OfWorker row t ∧ row.id = id ∧ ∃ execution,
        row.payload = .workerExecution execution ∧ execution.dispatchId = d ∧
        execution.status = status := by
  simp only [List.mem_filterMap, workerEntry_eq_some]
  constructor
  · rintro ⟨row, hrow, t', execution, hkind, htask, hpayload, heq⟩
    obtain ⟨⟨rfl, rfl⟩, rfl, rfl⟩ := by simpa only [Prod.mk.injEq] using heq
    exact ⟨row, hrow, ⟨htask, Or.inl hkind⟩, rfl, execution, hpayload, rfl, rfl⟩
  · rintro ⟨row, hrow, ⟨htask, hkind⟩, rfl, execution, hpayload, rfl, rfl⟩
    obtain ⟨_, _, _, known, hform⟩ := h.scope row hrow hkind
    simp only [EvidenceRow.WorkerRow, hpayload] at hform
    exact ⟨row, hrow, t, execution, hform.1, htask, hpayload, rfl⟩

/-- No task has an execution of a dispatch twice, and none a phase. -/
theorem ConsistentEvidence.keys_nodup :
    ((rows.filterMap EvidenceRow.workerEntry).map Prod.fst).Nodup ∧
      ((rows.filterMap EvidenceRow.dispatchEntry).map Prod.fst).Nodup := by
  constructor
  · rw [List.Nodup, List.pairwise_map, List.pairwise_filterMap]
    refine h.distinct.imp fun {a b} hab entry hentry entry' hentry' heq => ?_
    obtain ⟨t, execution, hkind, htask, hpayload, rfl⟩ := workerEntry_eq_some.1 hentry
    obtain ⟨t', execution', hkind', htask', hpayload', rfl⟩ := workerEntry_eq_some.1 hentry'
    obtain ⟨rfl, hid⟩ := Prod.mk.inj heq
    refine hab t ⟨htask, Or.inl hkind⟩ ⟨htask', Or.inl hkind'⟩ ?_
    simp [EvidenceRow.workerKey, hpayload, hpayload', hid]
  · rw [List.Nodup, List.pairwise_map, List.pairwise_filterMap]
    refine h.distinct.imp fun {a b} hab entry hentry entry' hentry' heq => ?_
    obtain ⟨t, event, hkind, htask, hpayload, rfl⟩ := dispatchEntry_eq_some.1 hentry
    obtain ⟨t', event', hkind', htask', hpayload', rfl⟩ := dispatchEntry_eq_some.1 hentry'
    obtain ⟨rfl, hids⟩ := Prod.mk.inj heq
    obtain ⟨hid, hphase⟩ := Prod.mk.inj hids
    refine hab t ⟨htask, Or.inr hkind⟩ ⟨htask', Or.inr hkind'⟩ ?_
    simp [EvidenceRow.workerKey, hpayload, hpayload', hid, hphase]

/-- **Consistent evidence is decoded**, and the dictionaries hold its rows. -/
theorem ConsistentEvidence.decode : decodeWorkerSideEvidence runId taskIds rows =
    .ok ⟨rows.filterMap EvidenceRow.workerEntry, rows.filterMap EvidenceRow.dispatchEntry⟩ := by
  have hfold : rows.foldlM (decodeEvidenceRow runId taskIds) ⟨[], []⟩ =
      .ok ⟨rows.filterMap EvidenceRow.workerEntry, rows.filterMap EvidenceRow.dispatchEntry⟩ :=
    decodeEvidenceRow_foldlM h.scope h.keys_nodup.1 h.keys_nodup.2
  unfold decodeWorkerSideEvidence
  rw [hfold, Raising.ok_bind]
  have hnone : (DecodedEvidence.dispatchKeys ⟨rows.filterMap EvidenceRow.workerEntry,
      rows.filterMap EvidenceRow.dispatchEntry⟩).find? (fun key =>
        (key.1, key.2, DispatchPhase.completed) ∈
            (rows.filterMap EvidenceRow.dispatchEntry).map Prod.fst ∧
          key ∉ (rows.filterMap EvidenceRow.workerEntry).map Prod.fst) = none := by
    refine List.find?_eq_none.2 ?_
    rintro ⟨t, d⟩ - hkey
    obtain ⟨hcompleted, hmissing⟩ := of_decide_eq_true hkey
    obtain ⟨⟨key, id⟩, hentry, hkeyEq⟩ := List.mem_map.1 hcompleted
    obtain ⟨row, hrow, hentry⟩ := List.mem_filterMap.1 hentry
    obtain ⟨t', event, hkind, htask, hpayload, heq⟩ := dispatchEntry_eq_some.1 hentry
    obtain ⟨rfl, rfl⟩ := Prod.mk.inj heq
    simp only [Prod.mk.injEq] at hkeyEq
    obtain ⟨rfl, rfl, hphase⟩ := hkeyEq
    have hrowKey : row.workerKey = some (event.dispatchId, some .completed) := by
      simp [EvidenceRow.workerKey, hpayload, hphase]
    obtain ⟨row', hrow', hof', hkey'⟩ := h.completed row hrow t' event.dispatchId
      ⟨htask, Or.inr hkind⟩ hrowKey
    refine hmissing ?_
    unfold EvidenceRow.workerKey at hkey'
    split at hkey'
    · rename_i execution hpayload'
      have hid : execution.dispatchId = event.dispatchId := by simpa using hkey'
      exact List.mem_map.2 ⟨_, h.mem_workers.2 ⟨row', hrow', hof', rfl, execution, hpayload', hid, rfl⟩,
        rfl⟩
    · simp at hkey'
    · cases hkey'
  simp only [hnone]
  rfl

end Decoding

section Classified

variable {runId : UUID} {status : RunStatus} {taskIds : List String} {now : Timestamp}
  {leases : List TaskLeaseSnapshot}

/-- Leases of different tasks that share their run and their time are accepted. -/
theorem validateLease_foldlM_eq_ok {accepted : List TaskLeaseSnapshot}
    (hnodup : ((accepted ++ leases).map TaskLeaseSnapshot.taskId).Nodup)
    (hrun : ∀ lease ∈ leases, lease.runId = runId)
    (htime : ∀ lease ∈ accepted ++ leases, lease.observedAt = now) :
    leases.foldlM (validateLease runId) accepted = .ok (accepted ++ leases) := by
  induction leases generalizing accepted with
  | nil => simp [pure, Except.pure]
  | cons lease leases ih =>
    rw [List.forall_mem_cons] at hrun
    rw [← List.singleton_append, ← List.append_assoc] at hnodup htime
    have hnew : lease.taskId ∉ accepted.map TaskLeaseSnapshot.taskId := by
      intro hmem
      rw [List.map_append, List.map_append] at hnodup
      exact (List.nodup_append.1 (List.nodup_append.1 hnodup).1).2.2 _ hmem _ (by simp) rfl
    have hsame : ¬(accepted.head?.any fun first => first.observedAt ≠ lease.observedAt) = true := by
      rw [Option.any_eq_true]
      rintro ⟨first, hfirst, hne⟩
      have hfirstTime := htime first (by simp [List.mem_of_head? hfirst])
      have hleaseTime := htime lease (by simp)
      simp [hfirstTime, hleaseTime] at hne
    have hround : validateLease runId accepted lease = .ok (accepted ++ [lease]) := by
      simp only [validateLease, Raising.raiseIf_of_not (not_not.2 hrun.1),
        Raising.raiseIf_of_not hnew, Raising.raiseIf_of_not hsame, Raising.ok_bind]
      rfl
    rw [List.foldlM_cons, hround, Raising.ok_bind, ih hnodup hrun.2 htime, List.append_assoc,
      List.singleton_append]

theorem classifyTasks_of_mem {decoded : DecodedEvidence}
    (h : ∀ t ∈ taskIds, t ∈ leases.map TaskLeaseSnapshot.taskId) :
    ∃ tasks, classifyTasks status decoded leases taskIds = .ok tasks := by
  induction taskIds with
  | nil => exact ⟨[], rfl⟩
  | cons t taskIds ih =>
    rw [List.forall_mem_cons] at h
    obtain ⟨tasks, htasks⟩ := ih h.2
    obtain ⟨lease, hlease, htask⟩ := List.mem_map.1 h.1
    obtain ⟨found, hfound⟩ := Option.isSome_iff_exists.1
      (List.find?_isSome.2 ⟨lease, hlease, by simpa using htask⟩ :
        (leases.find? fun lease => lease.taskId = t).isSome)
    refine ⟨classifyTask status decoded found :: tasks, ?_⟩
    simp only [classifyTasks, hfound, htasks, Raising.ok_bind]
    rfl

/-- **Consistent evidence and the leases of the run are classified**, when no task
that is shown as UNOWNED has worker-side evidence. -/
theorem ConsistentEvidence.classify {rows : List (EvidenceRow X)}
    (h : ConsistentEvidence runId taskIds rows)
    (hids : leases.map TaskLeaseSnapshot.taskId = taskIds) (hnodup : taskIds.Nodup)
    (hne : taskIds ≠ []) (hrun : ∀ lease ∈ leases, lease.runId = runId)
    (htime : ∀ lease ∈ leases, lease.observedAt = now)
    (hunowned : ∀ lease ∈ leases, lease.state = .unowned →
      ∀ row ∈ rows, ¬OfWorker row lease.taskId) :
    ∃ recovery, classifyRecovery runId status taskIds rows leases = .ok recovery := by
  have hfold : leases.foldlM (validateLease runId) [] = .ok leases :=
    validateLease_foldlM_eq_ok (by rw [List.nil_append, hids]; exact hnodup) hrun
      (by simpa using htime)
  have hleases : validateLeases runId taskIds leases = .ok leases := by
    have hmissing : (taskIds.filter fun t => t ∉ leases.map TaskLeaseSnapshot.taskId) = [] := by
      rw [hids]
      exact List.filter_eq_nil_iff.2 fun t ht => by simpa using ht
    have hunexpected : ((leases.map TaskLeaseSnapshot.taskId).filter fun t => t ∉ taskIds) = [] := by
      rw [hids]
      exact List.filter_eq_nil_iff.2 fun t ht => by simpa using ht
    simp only [validateLeases, hfold, Raising.ok_bind, hmissing, hunexpected, List.dedup_nil,
      ne_eq, not_true_eq_false, or_self]
    rfl
  have hquiet : validateUnownedWorkerEvidence leases ⟨rows.filterMap EvidenceRow.workerEntry,
      rows.filterMap EvidenceRow.dispatchEntry⟩ = .ok () := by
    have hnone : (leases.find? fun lease => lease.state = .unowned ∧
        DecodedEvidence.mentions ⟨rows.filterMap EvidenceRow.workerEntry,
          rows.filterMap EvidenceRow.dispatchEntry⟩ lease.taskId) = none := by
      refine List.find?_eq_none.2 fun lease hlease hfound => ?_
      obtain ⟨hstate, hmentions⟩ := of_decide_eq_true hfound
      simp only [DecodedEvidence.mentions, Bool.or_eq_true, List.any_eq_true,
        List.mem_filterMap, decide_eq_true_eq] at hmentions
      rcases hmentions with ⟨entry, ⟨row, hrow, hentry⟩, htask⟩ | ⟨entry, ⟨row, hrow, hentry⟩, htask⟩
      · obtain ⟨t, execution, hkind, hscope, -, rfl⟩ := workerEntry_eq_some.1 hentry
        obtain rfl : t = lease.taskId := htask
        exact hunowned lease hlease hstate row hrow ⟨hscope, Or.inl hkind⟩
      · obtain ⟨t, event, hkind, hscope, -, rfl⟩ := dispatchEntry_eq_some.1 hentry
        obtain rfl : t = lease.taskId := htask
        exact hunowned lease hlease hstate row hrow ⟨hscope, Or.inr hkind⟩
    rw [validateUnownedWorkerEvidence, hnone]
    rfl
  obtain ⟨tasks, htasks⟩ : ∃ tasks, classifyTasks status
      ⟨rows.filterMap EvidenceRow.workerEntry, rows.filterMap EvidenceRow.dispatchEntry⟩ leases
      taskIds = .ok tasks := classifyTasks_of_mem fun t ht => hids.symm ▸ ht
  have hunique : ¬¬(tasks.map TaskRecoveryAssessment.taskId).Nodup := by
    rw [not_not, (classifyTasks_eq_ok htasks).1]
    exact hnodup
  cases leases with
  | nil => exact absurd hids.symm hne
  | cons first rest =>
    simp only [classifyRecovery, hleases, Raising.ok_bind, h.decode, hquiet, htasks,
      Raising.raiseIf_of_not hunique]
    exact ⟨_, rfl⟩

/-- What an assessment in a RUNNING run says of the execution of the lease's
dispatch. -/
theorem classifyTask_running {decoded : DecodedEvidence} {lease : TaskLeaseSnapshot} :
    (lease.state = .unowned → (classifyTask .running decoded lease).workerExecutionStatus = none) ∧
    (lease.state = .active →
      (classifyTask .running decoded lease).disposition = .waitActiveOwner) ∧
    (lease.state = .released →
      (classifyTask .running decoded lease).workerExecutionStatus = none →
        (classifyTask .running decoded lease).disposition = .blockedReleasedEvidenceGap) ∧
    (lease.state = .released →
      (classifyTask .running decoded lease).disposition = .blockedReleasedEvidenceGap →
        ∀ d, lease.dispatchId = some d → decoded.workers.lookup (lease.taskId, d) = none) ∧
    (∀ status, (classifyTask .running decoded lease).workerExecutionStatus = some status →
      ∃ d id, lease.dispatchId = some d ∧
        decoded.workers.lookup (lease.taskId, d) = some (id, status)) := by
  have hfound : ∀ status, ((lease.dispatchId.bind fun d =>
      decoded.workers.lookup (lease.taskId, d)).map Prod.snd) = some status →
      ∃ d id, lease.dispatchId = some d ∧
        decoded.workers.lookup (lease.taskId, d) = some (id, status) := by
    intro status hstatus
    obtain ⟨⟨id, status'⟩, hworker, rfl⟩ := Option.map_eq_some_iff.1 hstatus
    obtain ⟨d, hd, hlookup⟩ := Option.bind_eq_some_iff.1 hworker
    exact ⟨d, id, hd, hlookup⟩
  cases hstate : lease.state with
  | unowned => simp [classifyTask, hstate, recoveryAssessment]
  | active =>
    refine ⟨by simp, fun _ => ?_, by simp, by simp, ?_⟩
    · simp [classifyTask, hstate, recoveryAssessment]
    · simpa [classifyTask, hstate, recoveryAssessment] using hfound
  | expired =>
    cases hworker : lease.dispatchId.bind fun d => decoded.workers.lookup (lease.taskId, d) with
    | none => simp [classifyTask, hstate, hworker, recoveryAssessment]
    | some worker =>
      rw [hworker] at hfound
      simpa [classifyTask, hstate, hworker, recoveryAssessment] using hfound
  | released =>
    cases hworker : lease.dispatchId.bind fun d => decoded.workers.lookup (lease.taskId, d) with
    | none =>
      have hlookup : ∀ d, lease.dispatchId = some d →
          decoded.workers.lookup (lease.taskId, d) = none := by
        intro d hd
        rwa [hd, Option.bind_some] at hworker
      simpa [classifyTask, hstate, hworker, recoveryAssessment] using hlookup
    | some worker =>
      rw [hworker] at hfound
      simpa [classifyTask, hstate, hworker, recoveryAssessment] using hfound

end Classified

end DevFlow
