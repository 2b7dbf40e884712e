/-
# The evidence of a call

`QueuedTaskWorker.execute` from the loop to its end: the rows of the last slice, the
terminal evidence, what is settled after it, and the two handlers.  Together with
the slices this is the invariant of every state of a call
(`execute_continuation`); a call that returns has appended one WORKER_EXECUTION
row.
-/

import Mathlib.Data.Finset.Dedup
import DevFlow.Workers.ContinuationKeys

namespace DevFlow

/-- The changed files of the slice, as a set. -/
def SliceCall.fileSet (slice : SliceCall) : Option (Finset String) :=
  slice.changedFiles.map List.toFinset

namespace ContinuationWorker

variable {S : Type}

/-- The keys are distinct, but for a replay, and one row is WORKER_EXECUTION evidence. -/
def Finished (log : CallLog) : Prop :=
  Distinct log ∧ (log.appended.map fun row => row.key.kind).count .workerExecution = 1

/-- The COMPLETED event of an execution. -/
def completedRow (snapshot : WorkerSnapshot) (envelope : WorkerEnvelope)
    (execution : WorkerExecutionEvidence WorkContent) : EvidenceAppend :=
  dispatchEvent snapshot envelope.message (some execution.status)

theorem count_kind (rows : List EvidenceAppend) :
    (rows.map fun row => row.key.kind).count .workerExecution =
      (rows.map EvidenceAppend.key).count .execution := by
  induction rows with
  | nil => rfl
  | cons row rows ih =>
    simp only [List.map_cons, List.count_cons, ih, beq_iff_eq, WorkerKey.kind_eq_workerExecution_iff]

section finished

variable {lower : Set EvidenceAppend} {upper : Set WorkerKey} {log : CallLog}
  {execution : WorkerExecutionEvidence WorkContent} {row : EvidenceAppend}

/-- **The terminal evidence is there once.** -/
theorem Keyed.finished (h : Keyed lower upper log) (hrow : executionRow execution ∈ lower) :
    Finished log := by
  have hmem : WorkerKey.execution ∈ log.keys := List.mem_map.2 ⟨_, h.has _ hrow, rfl⟩
  exact ⟨Or.inl h.distinct, (count_kind _).trans (List.count_eq_one_of_mem h.distinct hmem)⟩

/-- The same event once more is no other terminal evidence. -/
theorem Keyed.finished_replay (h : Keyed lower upper log) (hrow : executionRow execution ∈ lower)
    (hevent : row ∈ lower) (hkey : row.key = .completed) (hraised : log.finalizationRaised = true) :
    Finished (log.add row) := by
  refine ⟨Or.inr (h.replayed hevent hkey hraised), ?_⟩
  change ((log.appended ++ [row]).map fun row => row.key.kind).count EvidenceKind.workerExecution = 1
  rw [List.map_append, List.count_append, (h.finished hrow).2, List.map_singleton, hkey]
  rfl

end finished

section run

variable {settings : WorkerSettings} {calls : Collaborators S} {snapshot : WorkerSnapshot}
  {queued : QueuedTask} {envelope : WorkerEnvelope} {lower : Set EvidenceAppend}
  {upper : Set WorkerKey} {execution : WorkerExecutionEvidence WorkContent}

/-- **The rows of the last slice** and the terminal evidence. -/
theorem persistTerminal_keyed {answer : BackendAnswer} (hanswer : answer.Numbered) (i : ℕ) :
    LogSpec (Keyed ∅ (beforeSlice i))
      (persistTerminal calls answer (if 1 < i then some i else none)) Distinct
      (Ends (fun execution => Keyed {executionRow execution} (insert .execution beforeTerminal))
        (Keyed ∅ beforeTerminal)) := by
  generalize hsliceIndex : (if 1 < i then some i else none) = sliceIndex
  have hnew : ∀ j, sliceIndex = some j → ¬j < i := by
    intro j hj
    rw [hj] at hsliceIndex
    split_ifs at hsliceIndex
    obtain rfl := Option.some.inj hsliceIndex
    exact Nat.lt_irrefl i
  have hresult : ∀ key, WorkerKey.result sliceIndex key ∉ beforeSlice i := by
    intro key hmem
    cases sliceIndex with
    | none => exact hmem
    | some j => exact hnew j rfl hmem
  have hcheckpoint : WorkerKey.checkpoint sliceIndex ∉ beforeSlice i := by
    intro hmem
    cases sliceIndex with
    | none => exact hmem
    | some j => exact hnew j rfl hmem
  have hwithin : insert (WorkerKey.checkpoint sliceIndex)
      (beforeSlice i ∪ Set.range (WorkerKey.result sliceIndex)) ⊆ beforeTerminal := by
    rintro key (rfl | hbefore | ⟨key, rfl⟩)
    · exact trivial
    · exact beforeSlice_subset i hbefore
    · exact trivial
  have hrows : LogSpec (S := S) (Keyed ∅ (beforeSlice i)) (do
      persistRuntimeResult calls answer sliceIndex
      persistCheckpoint calls answer.execution.checkpoint sliceIndex) Distinct
      fun _ => Keyed ∅ beforeTerminal :=
    (persistRows_keyed hanswer hresult hcheckpoint).weaken (fun _ h => h)
      fun _ _ h => h.mono subset_rfl hwithin
  have hlast : LogSpec (S := S) (Keyed ∅ beforeTerminal) (do
      appendExecution calls answer.execution
      return answer.execution) Distinct
      (Ends (fun execution => Keyed {executionRow execution} (insert .execution beforeTerminal))
        (Keyed ∅ beforeTerminal)) := by
    refine LogSpec.bind (append_discard_keyed _ fun h => h) (fun _ => ?_) fun _ _ h => h
    refine LogSpec.pure (fun _ h => Or.inl h.distinct) fun _ h => h.mono ?_ subset_rfl
    exact Set.singleton_subset_iff.2 (Set.mem_insert _ _)
  have hall := LogSpec.bind hrows (fun _ => hlast) fun _ _ h => h
  rwa [Durable.bind_assoc] at hall

theorem resolveExecutionBase_spec {P : CallLog → Prop} (hP : ∀ log, P log → Distinct log)
    (taskId : String) :
    LogSpec P (resolveExecutionBase calls snapshot taskId) Distinct fun _ => P := by
  unfold resolveExecutionBase
  cases calls.executionBaseResolver with
  | none =>
    exact LogSpec.raiseIf_bind hP (fun _ => LogSpec.pure hP fun _ h => h) fun _ h => h
  | some resolver =>
    refine LogSpec.bind (Q := fun _ => P) (LogSpec.askQuietly hP fun _ _ h => h) (fun _ => ?_)
      fun _ _ h => h
    exact LogSpec.raiseIf_bind hP (fun _ => LogSpec.pure hP fun _ h => h) fun _ h => h

/-- **The rows of the `try` block** until the terminal evidence is persisted. -/
theorem work_keyed (hnumbered : ∀ request s answer,
      (calls.backend request s).1 = .ok answer → answer.Numbered) :
    LogSpec (Keyed ∅ ∅) (work settings calls snapshot queued envelope) Distinct
      (Ends (fun execution => Keyed {executionRow execution} (insert .execution beforeTerminal))
        (Keyed ∅ beforeTerminal)) := by
  have hreceived : insert WorkerKey.received ∅ ⊆ beforeSlice 1 := by
    rintro key (rfl | hkey)
    · exact trivial
    · exact hkey.elim
  refine LogSpec.bind (resolveExecutionBase_spec (fun _ h => Or.inl h.distinct) _) (fun base => ?_)
    fun _ _ h => h.mono subset_rfl (Set.empty_subset _)
  refine LogSpec.bind (append_discard_keyed (dispatchEvent snapshot envelope.message none)
    (Set.notMem_empty _)) (fun _ => ?_) fun _ _ h => h.mono subset_rfl (Set.empty_subset _)
  refine LogSpec.bind ((sliceLoop_keyed hnumbered
    (QueuedTaskWorker.SliceState.start queued base)).weaken
    (fun _ h => h.mono (Set.empty_subset _) hreceived) fun _ _ h => h) (fun last => ?_) fun _ _ h => h
  refine LogSpec.of_fact fun hanswer => ?_
  refine LogSpec.bind (summarize_keyed hanswer) (fun answer => ?_)
    fun _ _ h => h.mono subset_rfl (beforeSlice_subset _)
  exact LogSpec.of_fact fun hanswer => persistTerminal_keyed hanswer _

/-- What a quiet call keeps. -/
theorem askQuietly_keyed {α : Type} {f : CollaboratorCall S α} :
    LogSpec (Keyed lower upper) (askQuietly f) Distinct fun _ => Keyed lower upper :=
  LogSpec.askQuietly (fun _ h => Or.inl h.distinct) fun _ _ h => h

theorem markProducer_keyed : LogSpec (Keyed lower upper) (markProducer calls execution) Distinct
    fun _ => Keyed lower upper := by
  unfold markProducer
  cases calls.interfaceRegistry with
  | none => exact LogSpec.pure (fun _ h => Or.inl h.distinct) fun _ h => h
  | some registry =>
    dsimp only
    split_ifs
    · exact askQuietly_keyed
    · exact askQuietly_keyed

theorem reclaimBudget_keyed :
    LogSpec (Keyed lower upper) (reclaimBudget calls) Distinct fun _ => Keyed lower upper := by
  unfold reclaimBudget
  cases calls.reclaimUnusedTaskBudget with
  | none => exact LogSpec.pure (fun _ h => Or.inl h.distinct) fun _ h => h
  | some reclaim => exact askQuietly_keyed

/-- A finalization that raised is noted. -/
theorem finalizeSingle_keyed :
    LogSpec (Keyed lower upper) (finalizeSingle calls snapshot execution) Distinct
      (Ends (fun _ => Keyed lower upper)
        fun log => log.finalizationRaised = true ∧ Keyed lower upper log) := by
  unfold finalizeSingle
  cases execution.runResult with
  | none => exact LogSpec.pure (fun _ h => Or.inl h.distinct) fun _ h => h
  | some result =>
    dsimp only
    split_ifs
    · refine LogSpec.ask (fun _ h => Or.inl h.distinct) (fun s log h => ?_) fun s log h => ?_
      · cases (calls.finalizeSingleTaskRun result s).1 with
        | ok _ => exact Or.inl h.distinct
        | error _ => exact Or.inl h.distinct
      · cases (calls.finalizeSingleTaskRun result s).1 with
        | ok _ => exact h
        | error _ => exact ⟨rfl, h.distinct, h.has, h.within⟩
    · exact LogSpec.pure (fun _ h => Or.inl h.distinct) fun _ h => h

/-- The rows when something raised after the terminal evidence: the COMPLETED event is
not there yet, or the finalization raised. -/
def Unsettled (snapshot : WorkerSnapshot) (envelope : WorkerEnvelope)
    (execution : WorkerExecutionEvidence WorkContent) (log : CallLog) : Prop :=
  Keyed {executionRow execution} (insert .execution beforeTerminal) log ∨
    (log.finalizationRaised = true ∧
      Keyed {completedRow snapshot envelope execution, executionRow execution}
        (insert .completed (insert .execution beforeTerminal)) log)

theorem settle_keyed :
    LogSpec (Keyed {executionRow execution} (insert .execution beforeTerminal))
      (settle calls snapshot envelope execution) Distinct
      (Ends (fun _ => Finished) (Unsettled snapshot envelope execution)) := by
  refine LogSpec.bind markProducer_keyed (fun _ => ?_) fun _ _ h => Or.inl h
  refine LogSpec.bind reclaimBudget_keyed (fun _ => ?_) fun _ _ h => Or.inl h
  refine LogSpec.bind (append_discard_keyed (completedRow snapshot envelope execution) ?_)
    (fun _ => ?_) fun _ _ h => Or.inl h
  · rintro (hkey | hkey)
    · cases hkey
    · exact hkey
  · refine finalizeSingle_keyed.weaken (fun _ h => h) fun r log h => ?_
    cases r with
    | ok _ => exact h.finished (Set.mem_insert_of_mem _ rfl)
    | error _ => exact Or.inr h

/-- **The handler after the terminal evidence.** -/
theorem persistPostExecutionFailure_keyed :
    LogSpec (Unsettled snapshot envelope execution)
      (persistPostExecutionFailure calls snapshot envelope execution) Distinct
      (Ends (fun _ => Finished) fun _ => True) := by
  refine LogSpec.or ?_ ?_
  · refine LogSpec.bind (append_keyed _ ?_) (fun _ => ?_) fun _ _ _ => trivial
    · rintro (hkey | hkey)
      · cases hkey
      · exact hkey
    · refine (append_discard_keyed (completedRow snapshot envelope execution) ?_).weaken
        (fun _ h => h) fun r log h => ?_
      · rintro (hkey | hkey | hkey)
        · cases hkey
        · cases hkey
        · exact hkey
      · cases r with
        | ok _ => exact h.finished (Set.mem_insert_of_mem _ (Set.mem_insert_of_mem _ rfl))
        | error _ => exact trivial
  · -- the COMPLETED event is there, and the handler appends it again
    let Raised (lower : Set EvidenceAppend) (upper : Set WorkerKey) (log : CallLog) : Prop :=
      log.finalizationRaised = true ∧ Keyed lower upper log
    have hreport : LogSpec (S := S) (Raised {completedRow snapshot envelope execution,
        executionRow execution} (insert .completed (insert .execution beforeTerminal)))
        (append calls (postExecutionFailureRow)) Distinct
        (Ends (fun _ => Raised (insert postExecutionFailureRow
          {completedRow snapshot envelope execution, executionRow execution})
          (insert .postExecutionFailure (insert .completed (insert .execution beforeTerminal))))
          fun _ => True) := by
      have hnew : postExecutionFailureRow.key ∉
          insert WorkerKey.completed (insert .execution beforeTerminal) := by
        rintro (hkey | hkey | hkey)
        · cases hkey
        · cases hkey
        · exact hkey
      exact append_spec _ (fun _ h => Or.inl h.2.distinct)
        (fun _ _ h => ⟨Or.inl (h.2.add hnew).distinct, h.1, h.2.add hnew⟩) fun _ _ _ => trivial
    refine LogSpec.bind hreport (fun _ => ?_) fun _ _ h => h
    refine LogSpec.bind (append_spec (Q := Ends (fun _ => Finished) fun _ => True)
      (completedRow snapshot envelope execution) (fun _ h => Or.inl h.2.distinct)
      (fun log _ h => ?_) fun _ _ _ => trivial)
      (fun _ => LogSpec.pure (fun _ h => h.1) fun _ h => h) fun _ _ h => h
    have hfinished : Finished (log.add (completedRow snapshot envelope execution)) :=
      h.2.finished_replay (Set.mem_insert_of_mem _ (Set.mem_insert_of_mem _ rfl))
        (Set.mem_insert_of_mem _ (Set.mem_insert _ _)) rfl h.1
    exact ⟨hfinished.1, hfinished⟩

/-- **The handler before the terminal evidence.** -/
theorem persistTerminalWorkerException_keyed :
    LogSpec (Keyed ∅ beforeTerminal) (persistTerminalWorkerException calls snapshot envelope)
      Distinct (Ends (fun _ => Finished) fun _ => True) := by
  refine LogSpec.bind (append_discard_keyed (executionRow _) fun h => h) (fun _ => ?_)
    fun _ _ _ => trivial
  refine LogSpec.bind (append_discard_keyed (dispatchEvent snapshot envelope.message (some .failed)) ?_) (fun _ => ?_)
    fun _ _ _ => trivial
  · rintro (hkey | hkey)
    · cases hkey
    · exact hkey
  · exact LogSpec.pure (fun _ h => Or.inl h.distinct)
      fun _ h => h.finished (Set.mem_insert_of_mem _ (Set.mem_insert _ _))

/-- **The rows of a call.** -/
theorem execute_keyed (hnumbered : ∀ request s answer,
      (calls.backend request s).1 = .ok answer → answer.Numbered) :
    LogSpec (Keyed ∅ ∅) (execute settings calls snapshot queued envelope) Distinct
      (Ends (fun _ => Finished) fun _ => True) := by
  refine LogSpec.raiseIf_bind (fun _ h => Or.inl h.distinct) (fun _ => ?_) fun _ _ => trivial
  refine LogSpec.raiseIf_bind (fun _ h => Or.inl h.distinct) (fun _ => ?_) fun _ _ => trivial
  refine LogSpec.caught_bind (work_keyed hnumbered) fun outcome => ?_
  cases outcome with
  | error failure =>
    refine LogSpec.bind persistTerminalWorkerException_keyed (fun _ => ?_) fun _ _ h => h
    exact LogSpec.raiseIf_bind (fun _ h => h.1)
      (fun _ => LogSpec.pure (fun _ h => h.1) fun _ h => h) fun _ _ => trivial
  | ok execution =>
    refine LogSpec.caught_bind settle_keyed fun settled => ?_
    cases settled with
    | ok _ => exact LogSpec.pure (fun _ h => h.1) fun _ h => h
    | error failure =>
      refine LogSpec.bind persistPostExecutionFailure_keyed (fun _ => ?_) fun _ _ h => h
      exact LogSpec.raiseIf_bind (fun _ h => h.1)
        (fun _ => LogSpec.pure (fun _ h => h.1) fun _ h => h) fun _ _ => trivial

end run

/-! ### Every state of a call -/

/-- What holds of the log in every state of a call. -/
structure Invariant (maxSlices maxRepeated : ℕ) (dispatchId : UUID) (log : CallLog) : Prop where
  bounded : log.slices.length ≤ maxSlices
  chained : log.slices.IsChain Follows
  repeated : ∀ n files, List.replicate n files <:+: log.slices.dropLast.map SliceCall.changedFiles →
    n ≤ maxRepeated + 1
  /-- The same for the sets of files, when they are listed in order, as
  `changed_files` does. -/
  repeated_sets : ∀ block, block <:+: log.slices.dropLast →
    (∀ slice ∈ block, ∀ files, slice.changedFiles = some files → files.Pairwise (· < ·)) →
    (∀ slice ∈ block, ∀ other ∈ block, slice.fileSet = other.fileSet) →
    block.length ≤ maxRepeated + 1
  keys : (log.appended.map fun row => row.key.text dispatchId).Nodup ∨
    (log.finalizationRaised = true ∧ ∃ rows event, log.appended = rows ++ [event] ∧
      event.key = .completed ∧ event ∈ rows ∧
      (rows.map fun row => row.key.text dispatchId).Nodup)

/-- Lists in order are told apart by their sets. -/
theorem eq_of_fileSet_eq {files files' : List String} (h : files.Pairwise (· < ·))
    (h' : files'.Pairwise (· < ·)) (hset : files.toFinset = files'.toFinset) : files = files' := by
  have hnodup : files.Nodup := h.imp ne_of_lt
  have hnodup' : files'.Nodup := h'.imp ne_of_lt
  have hperm : files.Perm files' := List.perm_of_nodup_nodup_toFinset_eq hnodup hnodup' hset
  exact hperm.eq_of_pairwise (fun a b _ _ hab hba => absurd (hab.trans hba) (lt_irrefl a)) h h'

theorem BoundedChain.length_le {maxSlices maxRepeated : ℕ} {slices block : List SliceCall}
    (h : BoundedChain maxSlices maxRepeated slices) (hblock : block <:+: slices.dropLast)
    (hsorted : ∀ slice ∈ block, ∀ files, slice.changedFiles = some files → files.Pairwise (· < ·))
    (hsame : ∀ slice ∈ block, ∀ other ∈ block, slice.fileSet = other.fileSet) :
    block.length ≤ maxRepeated + 1 := by
  have hfiles := h.repeated.length_le (f := Option.map List.toFinset)
    (hblock.map SliceCall.changedFiles) ?_ ?_
  · rwa [List.length_map] at hfiles
  · intro a ha b hb hab
    obtain ⟨slice, hslice, rfl⟩ := List.mem_map.1 ha
    obtain ⟨other, hother, rfl⟩ := List.mem_map.1 hb
    cases hfiles : slice.changedFiles with
    | none =>
      rw [hfiles] at hab
      exact (Option.map_eq_none_iff.1 hab.symm).symm
    | some files =>
      rw [hfiles] at hab
      obtain ⟨files', hfiles', hset⟩ := Option.map_eq_some_iff.1 hab.symm
      rw [hfiles', eq_of_fileSet_eq (hsorted slice hslice files hfiles)
        (hsorted other hother files' hfiles') hset.symm]
  · intro a ha b hb
    obtain ⟨slice, hslice, rfl⟩ := List.mem_map.1 ha
    obtain ⟨other, hother, rfl⟩ := List.mem_map.1 hb
    exact hsame slice hslice other hother

/-- Distinct keys are distinct texts. -/
theorem nodup_text (dispatchId : UUID) {rows : List EvidenceAppend}
    (h : (rows.map EvidenceAppend.key).Nodup) :
    (rows.map fun row => row.key.text dispatchId).Nodup := by
  have htext := h.map (WorkerKey.text_injective dispatchId)
  rwa [List.map_map] at htext

/-- **The continuation loop is bounded and chained**, in every state of a call and
whatever the collaborators answer; and a call that returns has appended one
WORKER_EXECUTION row. -/
theorem execute_continuation (settings : AcceptedSettings) (calls : Collaborators S)
    (snapshot : WorkerSnapshot) (queued : QueuedTask) (envelope : WorkerEnvelope) (s : S)
    (hnumbered : ∀ request s answer,
      (calls.backend request s).1 = .ok answer → answer.Numbered) :
    let run := execute settings.toWorkerSettings calls snapshot queued envelope (s, CallLog.empty)
    (∀ t ∈ run.states, Invariant
      (QueuedTaskWorker.effectiveMaxSlices settings.toWorkerSettings queued.complexityScore)
      settings.continuationMaxRepeatedFileSlices envelope.message.dispatchId t.2) ∧
    ∀ execution, run.result = .ok execution →
      (run.final.2.appended.map fun row => row.key.kind).count .workerExecution = 1 := by
  have hempty : Keyed ∅ ∅ CallLog.empty :=
    ⟨List.nodup_nil, fun _ hrow => hrow.elim, fun _ hkey => by cases hkey⟩
  have hslices : LogSpec (S := S) (fun log => log.slices = [])
      (execute settings.toWorkerSettings calls snapshot queued envelope) _ fun _ _ => True :=
    execute_slices settings.maxSlices_range.1
  have hrows : LogSpec (Keyed ∅ ∅)
      (execute settings.toWorkerSettings calls snapshot queued envelope) Distinct
      (Ends (fun _ => Finished) fun _ => True) := execute_keyed hnumbered
  obtain ⟨hchains, -⟩ := hslices (s, CallLog.empty) rfl
  obtain ⟨hkeys, hend⟩ := hrows (s, CallLog.empty) hempty
  refine ⟨fun t ht => ?_, fun execution hresult => ?_⟩
  · have hchain := hchains t ht
    refine ⟨hchain.bounded, hchain.chained, hchain.repeated, fun _ => hchain.length_le, ?_⟩
    rcases hkeys t ht with hdistinct | ⟨hraised, rows, event, happended, hkey, hevent, hnodup⟩
    · exact Or.inl (nodup_text _ hdistinct)
    · exact Or.inr ⟨hraised, rows, event, happended, hkey, hevent, nodup_text _ hnodup⟩
  · revert hend
    rw [show (execute settings.toWorkerSettings calls snapshot queued envelope
      (s, CallLog.empty)).result = .ok execution from hresult]
    exact fun hfinished => hfinished.2

/-- Settings that admit one slice. -/
def oneSlice : AcceptedSettings where
  continuationMaxSlices := 1
  continuationTotalBudgetMs := 3600000
  continuationMaxRepeatedFileSlices := 1
  maxSlices_range := by decide
  totalBudget_range := by decide
  repeated_range := by decide

/-- A FAILED execution of the task. -/
def failedAnswer (taskId : String) : BackendAnswer where
  execution :=
    { dispatchId := ⟨1⟩
      runId := ⟨2⟩
      taskId
      status := .failed
      baseCommit := "b"
      commitSha := none
      content := .execution
        ⟨none, none, none, some (WorkflowStack.workflowOnlyResult ⟨taskId, 0⟩), []⟩
      success_commit := ExecutionStatus.failed_not_succeeded
      failure_commit := ExecutionStatus.failed_commit }
  eventSequences := [0, 1]

theorem failedAnswer_numbered (taskId : String) : (failedAnswer taskId).Numbered where
  events := by simp [failedAnswer]
  repairs := by
    intro result hresult
    obtain rfl := Option.some.inj hresult
    exact List.nodup_nil

/-- A backend that fails with a result for the task `answered`, and a store that
finalizes the run of the task `"T"` only. -/
def failingCalls (answered : String) : Collaborators Unit where
  executionBaseResolver := none
  backend := fun _ s => (.ok (failedAnswer answered), s)
  elapsedMs := fun s => (0, s)
  tokenBudgetReader := none
  append := fun _ s => (.ok 0, s)
  interfaceRegistry := none
  reclaimUnusedTaskBudget := none
  finalizeSingleTaskRun := fun result s =>
    (if result.taskId = "T" then .ok () else .error ⟨.persistenceConflict,
      "SingleTaskRunResult can finalize only a run containing exactly that task"⟩, s)

/-- A call for the task `"T"` of a run of one task. -/
def oneTaskRun (answered : String) :
    Durable.Outcome (Unit × CallLog) Failure (WorkerExecutionEvidence WorkContent) :=
  execute oneSlice.toWorkerSettings (failingCalls answered) ⟨⟨2⟩, .running, "b", ["T"]⟩
    ⟨⟨"T", 0⟩, none, 0⟩ ⟨⟨"T", ⟨1⟩⟩, ⟨3⟩⟩ ((), CallLog.empty)

theorem oneTaskRun_continuation :
    (∀ t ∈ (oneTaskRun "T").states, Invariant 1 1 ⟨1⟩ t.2) ∧
      ∀ execution, (oneTaskRun "T").result = .ok execution →
        ((oneTaskRun "T").final.2.appended.map fun row => row.key.kind).count .workerExecution = 1 :=
  execute_continuation oneSlice (failingCalls "T") ⟨⟨2⟩, .running, "b", ["T"]⟩
    ⟨⟨"T", 0⟩, none, 0⟩ ⟨⟨"T", ⟨1⟩⟩, ⟨3⟩⟩ () (by
      intro _ _ answer hanswer
      obtain rfl := Except.ok.inj hanswer
      exact failedAnswer_numbered "T")

theorem keys_oneTaskRun : (oneTaskRun "U").final.2.keys =
    [.received, .result none (.state 0), .result none (.state 1), .result none (.failure 0),
      .result none .workflow, .execution, .completed, .postExecutionFailure, .completed] := by
  have hloop : ∀ base, sliceLoop oneSlice.toWorkerSettings (failingCalls "U")
      (QueuedTaskWorker.effectiveMaxSlices oneSlice.toWorkerSettings 0) ⟨⟨"T", 0⟩, none, 0⟩
      ⟨⟨"T", ⟨1⟩⟩, ⟨3⟩⟩ ⟨2⟩
      (QueuedTaskWorker.SliceState.start ⟨⟨"T", 0⟩, none, 0⟩ base) = _ :=
    fun _ => sliceLoop_of_le (Nat.le_refl 1)
  unfold oneTaskRun execute work
  simp only [hloop]
  rfl

/-- The keys of the calls are not distinct when the finalization raises. -/
theorem execute_keys_repeat :
    (∀ request s answer, ((failingCalls "U").backend request s).1 = .ok answer → answer.Numbered) ∧
      ¬((oneTaskRun "U").final.2.appended.map fun row => row.key.text ⟨1⟩).Nodup := by
  refine ⟨fun _ _ answer hanswer => ?_, fun hnodup => ?_⟩
  · obtain rfl := Except.ok.inj hanswer
    exact failedAnswer_numbered "U"
  · have hkeys : ((oneTaskRun "U").final.2.keys.map (WorkerKey.text ⟨1⟩)).Nodup := by
      rwa [CallLog.keys, List.map_map]
    rw [keys_oneTaskRun] at hkeys
    exact absurd (hkeys.of_map _) (by decide)

end ContinuationWorker

end DevFlow
