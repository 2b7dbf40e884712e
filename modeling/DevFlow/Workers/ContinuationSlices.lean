/-
# The slices of a call

`QueuedTaskWorker.execute`: the slices that a call asks the backend for are no more
than the limit, each starts at the checkpoint of the one before it, and no more than
`max_repeated + 1` in a row go on with the same changed files
(`execute_boundedChain`).  The invariant of the loop is `Continued`: its variables
are those of the slices so far.
-/

import Mathlib.Data.List.Chain
import DevFlow.Workers.ContinuationRuns

namespace DevFlow

namespace ContinuationWorker

variable {S : Type}

/-! ### The slices -/

/-- The second slice starts at the checkpoint of the first one. -/
def Follows (slice next : SliceCall) : Prop :=
  ∃ checkpoint, slice.checkpoint = some checkpoint ∧
    next.request.baseCommit = checkpoint.commitSha

/-- The slices are bounded and chained, and those that another one followed repeat
their changed files a bounded number of times. -/
structure BoundedChain (maxSlices maxRepeated : ℕ) (slices : List SliceCall) : Prop where
  bounded : slices.length ≤ maxSlices
  chained : slices.IsChain Follows
  repeated : Repeats.AtMost (maxRepeated + 1) (slices.dropLast.map SliceCall.changedFiles)

/-- The variables of the loop belong to the slices so far, which all go on. -/
structure Continued (maxSlices maxRepeated : ℕ) (v : QueuedTaskWorker.SliceState)
    (slices : List SliceCall) : Prop where
  index : v.sliceIndex = slices.length + 1
  room : v.sliceIndex ≤ maxSlices
  chained : slices.IsChain Follows
  base : ∀ slice, slices.getLast? = some slice →
    ∃ checkpoint, slice.checkpoint = some checkpoint ∧ v.executionBase = checkpoint.commitSha
  previous : (slices.map SliceCall.changedFiles).getLast? =
    v.previousChangedFiles.map some
  repeated : Repeats.AtMost (maxRepeated + 1) (slices.map SliceCall.changedFiles)
  block : ∀ files, v.previousChangedFiles = some files →
    Repeats.Block (v.repeatedFileSlices + 1) (some files) (slices.map SliceCall.changedFiles)

theorem one_le_effectiveMaxSlices {settings : WorkerSettings}
    (h : 1 ≤ settings.continuationMaxSlices) (score : ℕ) :
    1 ≤ QueuedTaskWorker.effectiveMaxSlices settings score := by
  unfold QueuedTaskWorker.effectiveMaxSlices
  split_ifs <;> omega

section slices

variable {maxSlices maxRepeated : ℕ} {v : QueuedTaskWorker.SliceState} {slices : List SliceCall}
  {queued : QueuedTask} {envelope : WorkerEnvelope} {runId : UUID}

theorem Continued.start {base : String} (h : 1 ≤ maxSlices) :
    Continued maxSlices maxRepeated (QueuedTaskWorker.SliceState.start queued base) [] where
  index := rfl
  room := h
  chained := List.isChain_nil
  base := fun _ hslice => by cases hslice
  previous := rfl
  repeated := Repeats.AtMost.nil
  block := fun _ hfiles => by cases hfiles

theorem Continued.boundedChain (h : Continued maxSlices maxRepeated v slices) :
    BoundedChain maxSlices maxRepeated slices where
  bounded := by
    have hindex := h.index
    have hroom := h.room
    omega
  chained := h.chained
  repeated := h.repeated.of_infix ((List.dropLast_prefix slices).map _).isInfix

/-- The next slice starts at the base of the variables. -/
theorem Continued.isChain_concat (h : Continued maxSlices maxRepeated v slices)
    (checkpoint : Option TaskCheckpoint) :
    List.IsChain Follows
      (slices ++ [⟨QueuedTaskWorker.request queued envelope runId v, checkpoint⟩]) := by
  refine List.isChain_append.2 ⟨h.chained, List.isChain_singleton _, ?_⟩
  intro slice hslice next hnext
  obtain ⟨own, hown, hbase⟩ := h.base slice hslice
  obtain rfl := Option.some.inj hnext
  exact ⟨own, hown, hbase⟩

/-- **Another slice.** -/
theorem Continued.concat (h : Continued maxSlices maxRepeated v slices)
    (checkpoint : Option TaskCheckpoint) : BoundedChain maxSlices maxRepeated
      (slices ++ [⟨QueuedTaskWorker.request queued envelope runId v, checkpoint⟩]) where
  bounded := by
    have hindex := h.index
    have hroom := h.room
    rw [List.length_append, List.length_singleton]
    omega
  chained := h.isChain_concat checkpoint
  repeated := by
    rw [List.dropLast_concat]
    exact h.repeated

/-- What `_can_continue` has checked. -/
theorem canContinue_spec {settings : WorkerSettings}
    {execution : WorkerExecutionEvidence WorkContent} {elapsed : ℕ}
    (h : QueuedTaskWorker.canContinue settings execution v maxSlices elapsed = true) :
    v.sliceIndex < maxSlices ∧ ∃ checkpoint, execution.checkpoint = some checkpoint ∧
      (v.previousChangedFiles = some checkpoint.changedFiles →
        v.repeatedFileSlices < settings.continuationMaxRepeatedFileSlices) := by
  unfold QueuedTaskWorker.canContinue at h
  split at h
  · rename_i checkpoint _ hcheckpoint
    simp only [Bool.and_eq_true, Bool.or_eq_true, decide_eq_true_eq] at h
    obtain ⟨⟨⟨-, hlt⟩, -⟩, hrepeated⟩ := h
    refine ⟨hlt, checkpoint, hcheckpoint, fun hprevious => ?_⟩
    rcases hrepeated with hne | hrepeated
    · exact absurd hprevious.symm hne
    · exact hrepeated
  · cases h

/-- **A slice that goes on**: the variables of the next one belong to the slices with
this one. -/
theorem Continued.next {settings : WorkerSettings} {original answer : BackendAnswer}
    {checkpoint : TaskCheckpoint} {elapsed : ℕ}
    (h : Continued maxSlices settings.continuationMaxRepeatedFileSlices v slices)
    (hslice : SliceOf original answer (some checkpoint))
    (hcan : QueuedTaskWorker.canContinue settings answer.execution v maxSlices elapsed = true) :
    Continued maxSlices settings.continuationMaxRepeatedFileSlices (v.next checkpoint)
      (slices ++ [⟨QueuedTaskWorker.request queued envelope runId v,
        original.execution.checkpoint⟩]) := by
  obtain ⟨hlt, seen, hseen, hrepeated⟩ := canContinue_spec hcan
  obtain ⟨own, hown, hcommit, hfiles, hanswer⟩ := hslice.checkpoint checkpoint rfl
  have hseenFiles : seen.changedFiles = checkpoint.changedFiles := by
    rw [hseen, Option.map_some] at hanswer
    rw [hfiles, Option.some.inj hanswer]
  rw [hseenFiles] at hrepeated
  have hmap : (slices ++ [(⟨QueuedTaskWorker.request queued envelope runId v,
      original.execution.checkpoint⟩ : SliceCall)]).map SliceCall.changedFiles =
      slices.map SliceCall.changedFiles ++ [some checkpoint.changedFiles] := by
    rw [List.map_append, List.map_singleton, SliceCall.changedFiles, hown, Option.map_some, hfiles]
  -- the files are those of the slice before, or they begin a new block
  have hblock : Repeats.Block ((v.next checkpoint).repeatedFileSlices + 1)
      (some checkpoint.changedFiles)
      (slices.map SliceCall.changedFiles ++ [some checkpoint.changedFiles]) := by
    by_cases hsame : some checkpoint.changedFiles = v.previousChangedFiles
    · rw [show (v.next checkpoint).repeatedFileSlices = v.repeatedFileSlices + 1 from if_pos hsame]
      exact (h.block _ hsame.symm).concat
    · rw [show (v.next checkpoint).repeatedFileSlices = 0 from if_neg hsame]
      refine Repeats.Block.concat_of_ne fun files hlast hfiles => hsame ?_
      rw [h.previous, hfiles] at hlast
      obtain ⟨files', hprevious, hfiles'⟩ := Option.map_eq_some_iff.1 hlast
      rw [hprevious, hfiles']
  have hle : (v.next checkpoint).repeatedFileSlices + 1 ≤
      settings.continuationMaxRepeatedFileSlices + 1 := by
    by_cases hsame : some checkpoint.changedFiles = v.previousChangedFiles
    · rw [show (v.next checkpoint).repeatedFileSlices = v.repeatedFileSlices + 1 from if_pos hsame]
      have hbound := hrepeated hsame.symm
      omega
    · rw [show (v.next checkpoint).repeatedFileSlices = 0 from if_neg hsame]
      omega
  refine ⟨?_, hlt, h.isChain_concat _, fun slice hlast => ?_, ?_, ?_, fun files hprevious => ?_⟩
  · rw [List.length_append, List.length_singleton, ← h.index]
    rfl
  · rw [List.getLast?_concat] at hlast
    obtain rfl := Option.some.inj hlast
    exact ⟨own, hown, hcommit⟩
  · rw [hmap, List.getLast?_concat]
    rfl
  · rw [hmap]
    exact h.repeated.concat hblock hle
  · obtain rfl := Option.some.inj hprevious
    rw [hmap]
    exact hblock

end slices

/-- The program asks the backend for no slice. -/
def KeepsSlices {α : Type} (p : Caller S α) : Prop :=
  ∀ slices, Durable.Keeps (fun s : S × CallLog => s.2.slices = slices) p

section keepsSlices

variable {α β : Type} {calls : Collaborators S} {snapshot : WorkerSnapshot} {envelope : WorkerEnvelope}
  {execution : WorkerExecutionEvidence WorkContent}

theorem KeepsSlices.spec {J J' : List SliceCall → Prop} {p : Caller S α} (h : KeepsSlices p)
    (hJ : ∀ slices, J slices → J' slices) : LogSpec (fun log => J log.slices) p
      (fun log => J' log.slices) fun _ log => J log.slices := by
  intro s hs
  have hkeep := h s.2.slices s rfl
  refine ⟨fun t ht => ?_, ?_⟩
  · change J' t.2.slices
    rw [hkeep t ht]
    exact hJ _ hs
  · change J (p s).final.2.slices
    rw [hkeep _ (Durable.final_mem_states _)]
    exact hs

theorem KeepsSlices.ask {f : CollaboratorCall S α} {note : Except Failure α → CallLog → CallLog}
    (hnote : ∀ r log, (note r log).slices = log.slices) : KeepsSlices (ask f note) := by
  intro slices s hs t ht
  rcases List.mem_cons.1 ht with rfl | ht
  · exact hs
  · obtain rfl := List.mem_singleton.1 ht
    exact (hnote _ _).trans hs

theorem KeepsSlices.askQuietly {f : CollaboratorCall S α} : KeepsSlices (askQuietly f) :=
  KeepsSlices.ask fun _ _ => rfl

theorem KeepsSlices.pure {a : α} : KeepsSlices (pure a : Caller S α) :=
  fun _ => Durable.Keeps.pure a

theorem KeepsSlices.bind {x : Caller S α} {f : α → Caller S β} (hx : KeepsSlices x)
    (hf : ∀ a, KeepsSlices (f a)) : KeepsSlices (x >>= f) :=
  fun slices => Durable.Keeps.bind (hx slices) fun _ a _ _ => hf a slices

theorem KeepsSlices.raiseIf {condition : Prop} [Decidable condition] {error : Failure} :
    KeepsSlices (Durable.raiseIf condition error : Caller S Unit) :=
  fun _ => Durable.Keeps.raiseIf condition error

theorem KeepsSlices.caught {p : Caller S α} (h : KeepsSlices p) :
    KeepsSlices (Durable.caught p) :=
  h

theorem append_keepsSlices (row : EvidenceAppend) : KeepsSlices (append calls row) :=
  KeepsSlices.ask fun r _ => by cases r <;> rfl

theorem appendAll_keepsSlices (rows : List EvidenceAppend) : KeepsSlices (appendAll calls rows) := by
  induction rows with
  | nil => exact KeepsSlices.pure
  | cons row rows ih => exact KeepsSlices.bind (append_keepsSlices row) fun _ => ih

theorem recordDispatchEvent_keepsSlices (message : Message) (outcome : Option ExecutionStatus) :
    KeepsSlices (recordDispatchEvent calls snapshot message outcome) :=
  KeepsSlices.bind (append_keepsSlices _) fun _ => KeepsSlices.pure

theorem persistRuntimeResult_keepsSlices (answer : BackendAnswer) (sliceIndex : Option ℕ) :
    KeepsSlices (persistRuntimeResult calls answer sliceIndex) := by
  unfold persistRuntimeResult
  cases answer.execution.runResult with
  | none => exact KeepsSlices.pure
  | some result => exact appendAll_keepsSlices _

theorem appendCheckpoint_keepsSlices (checkpoint : TaskCheckpoint) (sliceIndex : Option ℕ) :
    KeepsSlices (appendCheckpoint calls checkpoint sliceIndex) :=
  KeepsSlices.bind (append_keepsSlices _) fun _ => KeepsSlices.pure

theorem resolveExecutionBase_keepsSlices (taskId : String) :
    KeepsSlices (resolveExecutionBase calls snapshot taskId) := by
  unfold resolveExecutionBase
  cases calls.executionBaseResolver with
  | none => exact KeepsSlices.bind KeepsSlices.raiseIf fun _ => KeepsSlices.pure
  | some resolver =>
    exact KeepsSlices.bind KeepsSlices.askQuietly fun _ =>
      KeepsSlices.bind KeepsSlices.raiseIf fun _ => KeepsSlices.pure

theorem markProducer_keepsSlices : KeepsSlices (markProducer calls execution) := by
  unfold markProducer
  cases calls.interfaceRegistry with
  | none => exact KeepsSlices.pure
  | some registry =>
    dsimp only
    split_ifs
    · exact KeepsSlices.askQuietly
    · exact KeepsSlices.askQuietly

theorem finalizeSingle_keepsSlices : KeepsSlices (finalizeSingle calls snapshot execution) := by
  unfold finalizeSingle
  cases execution.runResult with
  | none => exact KeepsSlices.pure
  | some result =>
    dsimp only
    split_ifs
    · exact KeepsSlices.ask fun r _ => by cases r <;> rfl
    · exact KeepsSlices.pure

theorem reclaimBudget_keepsSlices : KeepsSlices (reclaimBudget calls) := by
  unfold reclaimBudget
  cases calls.reclaimUnusedTaskBudget with
  | none => exact KeepsSlices.pure
  | some reclaim => exact KeepsSlices.askQuietly

theorem settle_keepsSlices : KeepsSlices (settle calls snapshot envelope execution) :=
  KeepsSlices.bind markProducer_keepsSlices fun _ =>
    KeepsSlices.bind reclaimBudget_keepsSlices fun _ =>
    KeepsSlices.bind (recordDispatchEvent_keepsSlices _ _) fun _ => finalizeSingle_keepsSlices

theorem summarize_keepsSlices (queued : QueuedTask) (maxSlices : ℕ)
    (v : QueuedTaskWorker.SliceState) (answer : BackendAnswer) :
    KeepsSlices (summarize calls queued maxSlices v answer) := by
  unfold summarize
  split_ifs
  · exact KeepsSlices.bind KeepsSlices.askQuietly fun _ => KeepsSlices.pure
  · exact KeepsSlices.pure

theorem persistCheckpoint_keepsSlices (checkpoint : Option TaskCheckpoint)
    (sliceIndex : Option ℕ) : KeepsSlices (persistCheckpoint calls checkpoint sliceIndex) := by
  cases checkpoint with
  | none => exact KeepsSlices.pure
  | some checkpoint => exact appendCheckpoint_keepsSlices _ _

theorem appendExecution_keepsSlices : KeepsSlices (appendExecution calls execution) :=
  KeepsSlices.bind (append_keepsSlices _) fun _ => KeepsSlices.pure

theorem persistTerminal_keepsSlices (answer : BackendAnswer) (sliceIndex : Option ℕ) :
    KeepsSlices (persistTerminal calls answer sliceIndex) :=
  KeepsSlices.bind (persistRuntimeResult_keepsSlices _ _) fun _ =>
    KeepsSlices.bind (persistCheckpoint_keepsSlices _ _) fun _ =>
    KeepsSlices.bind appendExecution_keepsSlices fun _ => KeepsSlices.pure

theorem persistTerminalWorkerException_keepsSlices :
    KeepsSlices (persistTerminalWorkerException calls snapshot envelope) :=
  KeepsSlices.bind appendExecution_keepsSlices fun _ =>
    KeepsSlices.bind (recordDispatchEvent_keepsSlices _ _) fun _ => KeepsSlices.pure

theorem persistPostExecutionFailure_keepsSlices :
    KeepsSlices (persistPostExecutionFailure calls snapshot envelope execution) :=
  KeepsSlices.bind (append_keepsSlices _) fun _ => recordDispatchEvent_keepsSlices _ _

end keepsSlices

section run

variable {settings : WorkerSettings} {calls : Collaborators S} {snapshot : WorkerSnapshot}
  {queued : QueuedTask} {envelope : WorkerEnvelope} {maxSlices : ℕ} {runId : UUID}

/-- **The slices of the loop.** -/
theorem sliceLoop_slices (v : QueuedTaskWorker.SliceState) :
    LogSpec
      (fun log => Continued maxSlices settings.continuationMaxRepeatedFileSlices v log.slices)
      (sliceLoop settings calls maxSlices queued envelope runId v)
      (fun log => BoundedChain maxSlices settings.continuationMaxRepeatedFileSlices log.slices)
      (fun _ log => BoundedChain maxSlices settings.continuationMaxRepeatedFileSlices log.slices) := by
  -- after a slice that may go on, the slices are those before it and its own call
  let After (v : QueuedTaskWorker.SliceState) (answer : BackendAnswer)
      (checkpoint : Option TaskCheckpoint) (slices : List SliceCall) : Prop :=
    ∃ before original, Continued maxSlices settings.continuationMaxRepeatedFileSlices v before ∧
      SliceOf original answer checkpoint ∧
      slices = before ++ [⟨QueuedTaskWorker.request queued envelope runId v,
        original.execution.checkpoint⟩]
  have hafter : ∀ v answer checkpoint slices, After v answer checkpoint slices →
      BoundedChain maxSlices settings.continuationMaxRepeatedFileSlices slices := by
    rintro v answer checkpoint slices ⟨before, original, hbefore, -, rfl⟩
    exact hbefore.concat _
  let Bounded (log : CallLog) : Prop :=
    BoundedChain maxSlices settings.continuationMaxRepeatedFileSlices log.slices
  have hslice : ∀ v, LogSpec (S := S)
      (fun log => Continued maxSlices settings.continuationMaxRepeatedFileSlices v log.slices)
      (runSlice calls maxSlices queued envelope runId v) Bounded
      (Ends (fun outcome log => After v outcome.1 outcome.2 log.slices) Bounded) :=
    fun v => runSlice_spec (fun _ h => h.boundedChain) (fun _ checkpoint h => h.concat checkpoint)
      (fun _ checkpoint _ h => h.concat checkpoint)
      fun log _ original _ _ h _ hslice => ⟨log.slices, original, h, hslice, rfl⟩
  have hcontinue : ∀ v answer checkpoint elapsed,
      QueuedTaskWorker.canContinue settings answer.execution v maxSlices elapsed = true →
      LogSpec (S := S) (fun log => After v answer (some checkpoint) log.slices) (do
        persistRuntimeResult calls answer (some v.sliceIndex)
        appendCheckpoint calls checkpoint (some v.sliceIndex)) Bounded
        (Ends (fun _ log => Continued maxSlices settings.continuationMaxRepeatedFileSlices
          (v.next checkpoint) log.slices) Bounded) := by
    intro v answer checkpoint elapsed hcan
    have hkeeps : KeepsSlices (S := S) (do
        persistRuntimeResult calls answer (some v.sliceIndex)
        appendCheckpoint calls checkpoint (some v.sliceIndex)) :=
      KeepsSlices.bind (persistRuntimeResult_keepsSlices _ _) fun _ =>
        appendCheckpoint_keepsSlices _ _
    refine (hkeeps.spec (hafter v answer (some checkpoint))).weaken (fun _ h => h) fun r log h => ?_
    obtain ⟨before, original, hbefore, hslice, hslices⟩ := h
    cases r with
    | ok _ =>
      change Continued maxSlices _ (v.next checkpoint) log.slices
      rw [hslices]
      exact hbefore.next hslice hcan
    | error _ => exact hafter v answer _ _ ⟨before, original, hbefore, hslice, hslices⟩
  have hended : ∀ v answer checkpoint (log : CallLog), After v answer checkpoint log.slices →
      Bounded log ∧ Bounded log :=
    fun v answer checkpoint log h => ⟨hafter _ _ _ _ h, hafter _ _ _ _ h⟩
  have hloop := sliceLoop_spec hslice hended hcontinue v
  refine hloop.weaken (fun _ h => h) fun r log h => ?_
  cases r with
  | ok last =>
    obtain ⟨checkpoint, h⟩ := h
    exact hafter _ _ _ _ h
  | error failure => exact h

theorem work_slices (hsettings : 1 ≤ settings.continuationMaxSlices) :
    LogSpec (S := S) (fun log => log.slices = [])
      (work settings calls snapshot queued envelope)
      (fun log => BoundedChain (QueuedTaskWorker.effectiveMaxSlices settings queued.complexityScore)
        settings.continuationMaxRepeatedFileSlices log.slices)
      (fun _ log => BoundedChain
        (QueuedTaskWorker.effectiveMaxSlices settings queued.complexityScore)
        settings.continuationMaxRepeatedFileSlices log.slices) := by
  have hone := one_le_effectiveMaxSlices hsettings queued.complexityScore
  have hstart : ∀ base, Continued
      (QueuedTaskWorker.effectiveMaxSlices settings queued.complexityScore)
      settings.continuationMaxRepeatedFileSlices
      (QueuedTaskWorker.SliceState.start queued base) [] := fun _ => Continued.start hone
  have hempty : ∀ slices : List SliceCall, slices = [] → BoundedChain
      (QueuedTaskWorker.effectiveMaxSlices settings queued.complexityScore)
      settings.continuationMaxRepeatedFileSlices slices := by
    rintro _ rfl
    exact (hstart "").boundedChain
  refine LogSpec.bind ((resolveExecutionBase_keepsSlices _).spec hempty) (fun base => ?_)
    fun _ log h => hempty _ h
  refine LogSpec.bind ((recordDispatchEvent_keepsSlices _ _).spec hempty) (fun _ => ?_)
    fun _ log h => hempty _ h
  refine LogSpec.bind ((sliceLoop_slices (QueuedTaskWorker.SliceState.start queued base)).weaken
    (fun log hlog => ?_) fun _ _ h => h) (fun last => ?_) fun _ _ h => h
  · rw [hlog]
    exact hstart base
  · refine KeepsSlices.spec (J := BoundedChain _ _) ?_ fun _ h => h
    exact KeepsSlices.bind (summarize_keepsSlices _ _ _ _) fun _ => persistTerminal_keepsSlices _ _

/-- **The slices of a call are bounded and chained.** -/
theorem execute_slices (hsettings : 1 ≤ settings.continuationMaxSlices) :
    LogSpec (S := S) (fun log => log.slices = [])
      (execute settings calls snapshot queued envelope)
      (fun log => BoundedChain (QueuedTaskWorker.effectiveMaxSlices settings queued.complexityScore)
        settings.continuationMaxRepeatedFileSlices log.slices) fun _ _ => True := by
  have hempty : ∀ log : CallLog, log.slices = [] → BoundedChain
      (QueuedTaskWorker.effectiveMaxSlices settings queued.complexityScore)
      settings.continuationMaxRepeatedFileSlices log.slices := by
    intro log hlog
    rw [hlog]
    have hone := one_le_effectiveMaxSlices hsettings queued.complexityScore
    have hstart : Continued _ settings.continuationMaxRepeatedFileSlices
        (QueuedTaskWorker.SliceState.start queued "") [] := Continued.start hone
    exact hstart.boundedChain
  refine LogSpec.raiseIf_bind hempty (fun _ => ?_) fun _ _ => trivial
  refine LogSpec.raiseIf_bind hempty (fun _ => ?_) fun _ _ => trivial
  refine LogSpec.caught_bind (work_slices hsettings) fun outcome => ?_
  -- the handlers and what follows the terminal evidence ask for no slice
  refine (KeepsSlices.spec (J := BoundedChain _ _) ?_ fun _ h => h).weaken (fun _ h => h)
    fun _ _ _ => trivial
  cases outcome with
  | error failure =>
    exact KeepsSlices.bind persistTerminalWorkerException_keepsSlices fun _ =>
      KeepsSlices.bind KeepsSlices.raiseIf fun _ => KeepsSlices.pure
  | ok execution =>
    refine KeepsSlices.bind settle_keepsSlices.caught fun settled => ?_
    cases settled with
    | ok _ => exact KeepsSlices.pure
    | error failure =>
      exact KeepsSlices.bind persistPostExecutionFailure_keepsSlices fun _ =>
        KeepsSlices.bind KeepsSlices.raiseIf fun _ => KeepsSlices.pure

end run

end ContinuationWorker

end DevFlow
