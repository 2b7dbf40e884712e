/-
# The rows of a call

`QueuedTaskWorker.execute`: the keys of the rows that a call appends are pairwise
distinct, because each phase appends keys that no phase before it has (`Keyed`
bounds the rows so far from both sides).  There is one exception.  The COMPLETED
event stands before the finalization of the run, and when that raises, the handler
records the event again: the same row is appended twice (`Replayed`).
-/

import Mathlib.Data.Set.Insert
import DevFlow.Workers.ContinuationSlices

namespace DevFlow

/-- The keys of the rows so far. -/
def CallLog.keys (log : CallLog) : List WorkerKey :=
  log.appended.map EvidenceAppend.key

/-- The log with another row. -/
def CallLog.add (log : CallLog) (row : EvidenceAppend) : CallLog :=
  { log with appended := log.appended ++ [row] }

theorem CallLog.keys_add (log : CallLog) (row : EvidenceAppend) :
    (log.add row).keys = log.keys ++ [row.key] :=
  List.map_append

/-- The finalization raised, and the COMPLETED event was recorded again: but for that
row the keys are pairwise distinct. -/
def CallLog.Replayed (log : CallLog) : Prop :=
  log.finalizationRaised = true ∧ ∃ rows event, log.appended = rows ++ [event] ∧
    event.key = .completed ∧ event ∈ rows ∧ (rows.map EvidenceAppend.key).Nodup

namespace ContinuationWorker

variable {S : Type}

/-- The rows in `lower` are there, the keys are in `upper`, and no key is there
twice. -/
structure Keyed (lower : Set EvidenceAppend) (upper : Set WorkerKey) (log : CallLog) : Prop where
  distinct : log.keys.Nodup
  has : ∀ row ∈ lower, row ∈ log.appended
  within : ∀ key ∈ log.keys, key ∈ upper

/-- No key is there twice, but for a replay. -/
def Distinct (log : CallLog) : Prop :=
  log.keys.Nodup ∨ log.Replayed

section keyed

variable {lower lower' : Set EvidenceAppend} {upper upper' : Set WorkerKey} {log : CallLog}
  {row : EvidenceAppend}

theorem Keyed.mono (h : Keyed lower upper log) (hlower : lower' ⊆ lower) (hupper : upper ⊆ upper') :
    Keyed lower' upper' log :=
  ⟨h.distinct, fun row hrow => h.has row (hlower hrow), fun key hkey => hupper (h.within key hkey)⟩

/-- **A row with a new key.** -/
theorem Keyed.add (h : Keyed lower upper log) (hnew : row.key ∉ upper) :
    Keyed (insert row lower) (insert row.key upper) (log.add row) := by
  refine ⟨?_, fun other hother => ?_, fun key hkey => ?_⟩
  · rw [CallLog.keys_add]
    refine List.nodup_append.2 ⟨h.distinct, List.nodup_singleton _, fun key hkey other hother => ?_⟩
    obtain rfl := List.mem_singleton.1 hother
    exact fun hsame => hnew (hsame ▸ h.within key hkey)
  · rcases hother with rfl | hother
    · exact List.mem_append_right _ (List.mem_singleton.2 rfl)
    · exact List.mem_append_left _ (h.has other hother)
  · rw [CallLog.keys_add, List.mem_append, List.mem_singleton] at hkey
    rcases hkey with hkey | rfl
    · exact Set.mem_insert_of_mem _ (h.within key hkey)
    · exact Set.mem_insert _ _

/-- The same event once more. -/
theorem Keyed.replayed (h : Keyed lower upper log) (hrow : row ∈ lower) (hkey : row.key = .completed)
    (hraised : log.finalizationRaised = true) : (log.add row).Replayed :=
  ⟨hraised, log.appended, row, rfl, hkey, h.has row hrow, h.distinct⟩

end keyed

section appends

variable {calls : Collaborators S} {lower : Set EvidenceAppend} {upper : Set WorkerKey}

theorem append_spec {P : CallLog → Prop} {Q : Except Failure ℕ → CallLog → Prop}
    {C : CallLog → Prop} (row : EvidenceAppend) (hC : ∀ log, P log → C log)
    (hok : ∀ log id, P log → C (log.add row) ∧ Q (.ok id) (log.add row))
    (herror : ∀ log failure, P log → Q (.error failure) log) :
    LogSpec P (append calls row) C Q := by
  refine LogSpec.ask hC (fun s log h => ?_) fun s log h => ?_
  · cases hanswer : (calls.append row s).1 with
    | ok id => exact (hok log id h).1
    | error failure => exact hC log h
  · cases hanswer : (calls.append row s).1 with
    | ok id => exact (hok log id h).2
    | error failure => exact herror log failure h

/-- **The append of a row with a new key.** -/
theorem append_keyed (row : EvidenceAppend) (hnew : row.key ∉ upper) :
    LogSpec (Keyed lower upper) (append calls row) Distinct
      (Ends (fun _ => Keyed (insert row lower) (insert row.key upper)) (Keyed lower upper)) :=
  append_spec row (fun _ h => Or.inl h.distinct)
    (fun _ _ h => ⟨Or.inl (h.add hnew).distinct, h.add hnew⟩) fun _ _ h => h

/-- **Rows with pairwise distinct new keys**, by induction on the rows. -/
theorem appendAll_keyed {rows : List EvidenceAppend} (hnodup : (rows.map EvidenceAppend.key).Nodup)
    (hnew : ∀ row ∈ rows, row.key ∉ upper) :
    LogSpec (Keyed lower upper) (appendAll calls rows) Distinct
      fun _ => Keyed lower (upper ∪ {key | key ∈ rows.map EvidenceAppend.key}) := by
  induction rows generalizing upper with
  | nil =>
    exact LogSpec.pure (fun _ h => Or.inl h.distinct)
      fun _ h => h.mono subset_rfl Set.subset_union_left
  | cons row rows ih =>
    rw [List.map_cons, List.nodup_cons] at hnodup
    have hfresh : ∀ other ∈ rows, other.key ∉ insert row.key upper := by
      rintro other hother (hsame | hmem)
      · exact hnodup.1 (hsame ▸ List.mem_map_of_mem hother)
      · exact hnew other (List.mem_cons_of_mem _ hother) hmem
    refine LogSpec.bind (append_keyed row (hnew row List.mem_cons_self)) (fun _ => ?_)
      fun _ _ h => h.mono subset_rfl Set.subset_union_left
    refine (ih hnodup.2 hfresh).weaken (fun _ h => h.mono (Set.subset_insert _ _) subset_rfl)
      fun _ _ h => h.mono subset_rfl ?_
    rintro key ((rfl | hkey) | hkey)
    · exact Or.inr List.mem_cons_self
    · exact Or.inl hkey
    · exact Or.inr (List.mem_cons_of_mem _ hkey)

theorem nodup_mapIdx {α : Type} (f : ℕ → ResultKey) (hf : Function.Injective f) (l : List α) :
    (l.mapIdx fun i _ => f i).Nodup := by
  have hrange : (l.mapIdx fun i _ => f i) = (List.range l.length).map f :=
    List.ext_getElem (by simp) fun i _ _ => by simp
  rw [hrange]
  exact List.nodup_range.map hf

/-- The keys of a run result are pairwise distinct. -/
theorem resultKeys_nodup {answer : BackendAnswer} {result : TaskRunResult} (h : answer.Numbered)
    (hresult : answer.execution.runResult = some result) : (answer.resultKeys result).Nodup := by
  have hstates : (answer.eventSequences.map ResultKey.state).Nodup :=
    h.events.map fun _ _ => ResultKey.state.inj
  have hrepairs : (result.repairs.map fun repair => ResultKey.repair repair.attempt).Nodup := by
    have hmap := (h.repairs result hresult).map (f := ResultKey.repair) fun _ _ =>
      ResultKey.repair.inj
    rwa [List.map_map] at hmap
  have hverifications := nodup_mapIdx _ (fun _ _ => ResultKey.verification.inj) result.verifications
  have hreviews := nodup_mapIdx _ (fun _ _ => ResultKey.review.inj) result.reviews
  have hfailures := nodup_mapIdx _ (fun _ _ => ResultKey.failure.inj) result.failures
  unfold BackendAnswer.resultKeys
  -- keys of different kinds are different
  simp only [List.nodup_append, List.mem_append]
  refine ⟨⟨⟨⟨⟨⟨hstates, ?_, ?_⟩, hverifications, ?_⟩, hreviews, ?_⟩, hrepairs, ?_⟩, hfailures, ?_⟩,
    ?_, ?_⟩
  all_goals grind

theorem persistRuntimeResult_keyed {answer : BackendAnswer} {sliceIndex : Option ℕ}
    (hnumbered : answer.Numbered) (hnew : ∀ key, WorkerKey.result sliceIndex key ∉ upper) :
    LogSpec (Keyed lower upper) (persistRuntimeResult calls answer sliceIndex) Distinct
      fun _ => Keyed lower (upper ∪ Set.range (WorkerKey.result sliceIndex)) := by
  unfold persistRuntimeResult
  cases hresult : answer.execution.runResult with
  | none =>
    exact LogSpec.pure (fun _ h => Or.inl h.distinct)
      fun _ h => h.mono subset_rfl Set.subset_union_left
  | some result =>
    have hkeys : ((answer.resultKeys result).map (ResultKey.row sliceIndex result)).map
        EvidenceAppend.key = (answer.resultKeys result).map (WorkerKey.result sliceIndex) := by
      rw [List.map_map]
      rfl
    have hnodup : (((answer.resultKeys result).map (ResultKey.row sliceIndex result)).map
        EvidenceAppend.key).Nodup := by
      rw [hkeys]
      exact (resultKeys_nodup hnumbered hresult).map fun _ _ h => (WorkerKey.result.inj h).2
    refine (appendAll_keyed hnodup fun row hrow => ?_).weaken (fun _ h => h) fun _ _ h => ?_
    · obtain ⟨key, -, rfl⟩ := List.mem_map.1 hrow
      exact hnew key
    · refine h.mono subset_rfl (Set.union_subset_union_right _ fun key hkey => ?_)
      rw [Set.mem_ofPred_eq, hkeys] at hkey
      obtain ⟨own, -, rfl⟩ := List.mem_map.1 hkey
      exact ⟨own, rfl⟩

/-- An append whose row identifier is thrown away. -/
theorem append_discard_keyed (row : EvidenceAppend) (hnew : row.key ∉ upper) :
    LogSpec (Keyed lower upper) (do let _ ← append calls row) Distinct
      (Ends (fun _ => Keyed (insert row lower) (insert row.key upper)) (Keyed lower upper)) :=
  LogSpec.bind (append_keyed row hnew) (fun _ => LogSpec.pure (fun _ h => Or.inl h.distinct)
    fun _ h => h) fun _ _ h => h

theorem persistCheckpoint_keyed {checkpoint : Option TaskCheckpoint} {sliceIndex : Option ℕ}
    (hnew : WorkerKey.checkpoint sliceIndex ∉ upper) :
    LogSpec (Keyed lower upper) (persistCheckpoint calls checkpoint sliceIndex) Distinct
      fun _ => Keyed lower (insert (.checkpoint sliceIndex) upper) := by
  cases checkpoint with
  | none =>
    exact LogSpec.pure (fun _ h => Or.inl h.distinct)
      fun _ h => h.mono subset_rfl (Set.subset_insert _ _)
  | some checkpoint =>
    refine (append_discard_keyed _ hnew).weaken (fun _ h => h) fun r _ h => ?_
    cases r with
    | ok _ => exact h.mono (Set.subset_insert _ _) subset_rfl
    | error _ => exact h.mono subset_rfl (Set.subset_insert _ _)

/-- **The rows of one slice**: its run result, and its checkpoint. -/
theorem persistRows_keyed {answer : BackendAnswer} {checkpoint : Option TaskCheckpoint}
    {sliceIndex : Option ℕ} (hnumbered : answer.Numbered)
    (hresult : ∀ key, WorkerKey.result sliceIndex key ∉ upper)
    (hcheckpoint : WorkerKey.checkpoint sliceIndex ∉ upper) :
    LogSpec (Keyed lower upper) (do
      persistRuntimeResult calls answer sliceIndex
      persistCheckpoint calls checkpoint sliceIndex) Distinct
      fun _ => Keyed lower (insert (.checkpoint sliceIndex)
        (upper ∪ Set.range (WorkerKey.result sliceIndex))) := by
  refine LogSpec.bind (persistRuntimeResult_keyed hnumbered hresult) (fun _ => ?_)
    fun _ _ h => h.mono subset_rfl (Set.subset_insert _ _)
  refine persistCheckpoint_keyed ?_
  rintro (hmem | ⟨_, hkey⟩)
  · exact hcheckpoint hmem
  · cases hkey

end appends

/-- The keys of the slices before `i`. -/
def beforeSlice (i : ℕ) : Set WorkerKey
  | .received => True
  | .result (some j) _ | .checkpoint (some j) => j < i
  | _ => False

/-- The keys of the rows before the terminal evidence. -/
def beforeTerminal : Set WorkerKey
  | .received | .result _ _ | .checkpoint _ => True
  | _ => False

theorem beforeSlice_subset (i : ℕ) : beforeSlice i ⊆ beforeTerminal := by
  rintro (- | - | ⟨- | j, key⟩ | ⟨- | j⟩ | - | -) h
  all_goals first
    | exact trivial
    | exact h

/-- The keys of a slice are behind those of the slices before it. -/
theorem beforeSlice_succ (i : ℕ) : insert (.checkpoint (some i))
    (beforeSlice i ∪ Set.range (WorkerKey.result (some i))) ⊆ beforeSlice (i + 1) := by
  rintro key (rfl | hbefore | ⟨key, rfl⟩)
  · exact Nat.lt_succ_self i
  · rcases key with - | - | ⟨- | j, key⟩ | ⟨- | j⟩ | - | -
    all_goals first
      | exact hbefore
      | exact Nat.lt_succ_of_lt hbefore
  · exact Nat.lt_succ_self i

section run

variable {settings : WorkerSettings} {calls : Collaborators S} {snapshot : WorkerSnapshot}
  {queued : QueuedTask} {envelope : WorkerEnvelope} {maxSlices : ℕ} {runId : UUID}
  {execution : WorkerExecutionEvidence WorkContent}
  (hnumbered : ∀ request s answer, (calls.backend request s).1 = .ok answer → answer.Numbered)

include hnumbered in
/-- **The rows of the loop** are about the slices that went on. -/
theorem sliceLoop_keyed (v : QueuedTaskWorker.SliceState) :
    LogSpec (Keyed ∅ (beforeSlice v.sliceIndex))
      (sliceLoop settings calls maxSlices queued envelope runId v) Distinct
      (Ends (fun last log => Keyed ∅ (beforeSlice last.2.sliceIndex) log ∧ last.1.Numbered)
        (Keyed ∅ beforeTerminal)) := by
  let After (v : QueuedTaskWorker.SliceState) (answer : BackendAnswer)
      (_ : Option TaskCheckpoint) (log : CallLog) : Prop :=
    Keyed ∅ (beforeSlice v.sliceIndex) log ∧ answer.Numbered
  have hslice : ∀ v, LogSpec (Keyed ∅ (beforeSlice v.sliceIndex))
      (runSlice calls maxSlices queued envelope runId v) Distinct
      (Ends (fun outcome => After v outcome.1 outcome.2) (Keyed ∅ beforeTerminal)) := by
    intro v
    refine runSlice_spec (fun _ h => Or.inl h.distinct) (fun _ _ h => Or.inl h.distinct)
      (fun log _ _ h => ?_) fun log s original answer checkpoint h hanswer hof => ?_
    · have hbefore := h.mono subset_rfl (beforeSlice_subset _)
      exact ⟨hbefore.distinct, hbefore.has, hbefore.within⟩
    · exact ⟨⟨h.distinct, h.has, h.within⟩, hof.numbered (hnumbered _ s original hanswer)⟩
  have hended : ∀ v answer checkpoint log, After v answer checkpoint log →
      Distinct log ∧ Keyed ∅ beforeTerminal log :=
    fun v _ _ _ h => ⟨Or.inl h.1.distinct, h.1.mono subset_rfl (beforeSlice_subset _)⟩
  have hcontinue : ∀ v answer checkpoint elapsed,
      QueuedTaskWorker.canContinue settings answer.execution v maxSlices elapsed = true →
      LogSpec (After v answer (some checkpoint)) (do
        persistRuntimeResult calls answer (some v.sliceIndex)
        appendCheckpoint calls checkpoint (some v.sliceIndex)) Distinct
        (Ends (fun _ => Keyed ∅ (beforeSlice (v.next checkpoint).sliceIndex))
          (Keyed ∅ beforeTerminal)) := by
    intro v answer checkpoint elapsed _
    refine LogSpec.of_fact fun hanswer => ?_
    have hrows : LogSpec (S := S) (Keyed ∅ (beforeSlice v.sliceIndex)) (do
        persistRuntimeResult calls answer (some v.sliceIndex)
        persistCheckpoint calls (some checkpoint) (some v.sliceIndex)) Distinct _ :=
      persistRows_keyed hanswer (fun _ => Nat.lt_irrefl v.sliceIndex) (Nat.lt_irrefl v.sliceIndex)
    have hnext : ∀ log, Keyed ∅ _ log → Keyed ∅ (beforeSlice (v.next checkpoint).sliceIndex) log :=
      fun log h => h.mono subset_rfl (beforeSlice_succ v.sliceIndex)
    exact hrows.weaken (fun _ h => h) (Ends.of_always (fun _ log h => hnext log h)
      fun log h => (hnext log h).mono subset_rfl (beforeSlice_subset _))
  refine (sliceLoop_spec hslice hended hcontinue v).weaken (fun _ h => h) fun r log h => ?_
  cases r with
  | ok last =>
    obtain ⟨_, h⟩ := h
    exact h
  | error _ => exact h

theorem runResult_withContinuation (execution : WorkerExecutionEvidence WorkContent)
    (v : QueuedTaskWorker.SliceState) (elapsed : ℕ) :
    (QueuedTaskWorker.withContinuation execution queued v maxSlices elapsed).runResult =
      execution.runResult := by
  unfold QueuedTaskWorker.withContinuation
  split
  · rename_i details hcontent
    split_ifs
    · simp [WorkerExecutionEvidence.runResult, WorkerExecutionEvidence.details, hcontent]
    · rfl
  · rfl

/-- The summary changes nothing of what the keys are made of. -/
theorem summarize_keyed {upper : Set WorkerKey} {v : QueuedTaskWorker.SliceState}
    {answer : BackendAnswer} (hanswer : answer.Numbered) :
    LogSpec (Keyed ∅ upper) (summarize calls queued maxSlices v answer) Distinct
      (Ends (fun answer log => Keyed ∅ upper log ∧ answer.Numbered) (Keyed ∅ upper)) := by
  unfold summarize
  split_ifs
  · refine LogSpec.bind (Q := fun _ => Keyed ∅ upper)
      (LogSpec.askQuietly (fun _ h => Or.inl h.distinct) fun _ _ h => h) (fun elapsed => ?_)
      fun _ _ h => h
    refine LogSpec.pure (fun _ h => Or.inl h.distinct) fun _ h => ⟨h, hanswer.events, ?_⟩
    intro result hresult
    rw [runResult_withContinuation] at hresult
    exact hanswer.repairs result hresult
  · exact LogSpec.pure (fun _ h => Or.inl h.distinct) fun _ h => ⟨h, hanswer⟩

end run

end ContinuationWorker

end DevFlow
