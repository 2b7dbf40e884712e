/-
# What a call of the worker leaves behind

Triples about the log of a call: `LogSpec P p C Q` says that from a log of `P`
every state that `p` goes through has a log of `C`.  One rule for the loop
(`sliceLoop_spec`) takes what one slice does to what the slices together do; it is
used for the slices, which are bounded and chained, and for the keys of the rows.
-/

import DevFlow.Workers.Continuation

namespace DevFlow

open Durable (Prog)

namespace ContinuationWorker

variable {S α β : Type}

/-- A triple about the log. -/
def LogSpec (P : CallLog → Prop) (p : Caller S α) (C : CallLog → Prop)
    (Q : Except Failure α → CallLog → Prop) : Prop :=
  Durable.Spec (fun s => P s.2) p (fun s => C s.2) fun r s => Q r s.2

/-- The postcondition of a call that may raise. -/
def Ends (Returned : α → CallLog → Prop) (Raised : CallLog → Prop) :
    Except Failure α → CallLog → Prop
  | .ok a, log => Returned a log
  | .error _, log => Raised log

/-- What holds however the call ends. -/
theorem Ends.of_always {P : CallLog → Prop} {Returned : α → CallLog → Prop}
    {Raised : CallLog → Prop} (hreturned : ∀ a log, P log → Returned a log)
    (hraised : ∀ log, P log → Raised log) (r : Except Failure α) (log : CallLog) (h : P log) :
    Ends Returned Raised r log := by
  cases r with
  | ok a => exact hreturned a log h
  | error _ => exact hraised log h

section rules

variable {P P' C : CallLog → Prop} {Q : Except Failure α → CallLog → Prop}
  {R : Except Failure β → CallLog → Prop}

theorem LogSpec.ask {f : CollaboratorCall S α} {note : Except Failure α → CallLog → CallLog}
    (hC : ∀ log, P log → C log) (hnote : ∀ s log, P log → C (note (f s).1 log))
    (hQ : ∀ s log, P log → Q (f s).1 (note (f s).1 log)) : LogSpec P (ask f note) C Q := by
  intro s hs
  refine ⟨fun t ht => ?_, hQ s.1 s.2 hs⟩
  rcases List.mem_cons.1 ht with rfl | ht
  · exact hC _ hs
  · obtain rfl := List.mem_singleton.1 ht
    exact hnote s.1 s.2 hs

theorem LogSpec.askQuietly {f : CollaboratorCall S α} (hC : ∀ log, P log → C log)
    (hQ : ∀ r log, P log → Q r log) : LogSpec P (askQuietly f) C Q :=
  LogSpec.ask hC (fun _ => hC) fun _ => hQ _

theorem LogSpec.pure {a : α} (hC : ∀ log, P log → C log) (hQ : ∀ log, P log → Q (.ok a) log) :
    LogSpec P (pure a : Caller S α) C Q :=
  Durable.Spec.pure (fun s => hC s.2) fun s => hQ s.2

theorem LogSpec.bind {x : Caller S α} {f : α → Caller S β} (hx : LogSpec P x C Q)
    (hok : ∀ a, LogSpec (Q (.ok a)) (f a) C R)
    (herror : ∀ e log, Q (.error e) log → R (.error e) log) : LogSpec P (x >>= f) C R :=
  Durable.Spec.bind hx hok fun e s => herror e s.2

theorem LogSpec.raiseIf_bind {condition : Prop} [Decidable condition] {error : Failure}
    {f : Unit → Caller S β} (hC : ∀ log, P log → C log) (hok : ¬condition → LogSpec P (f ()) C R)
    (herror : ∀ log, P log → R (.error error) log) :
    LogSpec P (Durable.raiseIf condition error >>= f) C R :=
  Durable.Spec.raiseIf_bind (fun s => hC s.2) hok fun _ s => herror s.2

/-- What an `except` clause goes on with. -/
theorem LogSpec.caught_bind {p : Caller S α} {f : Except Failure α → Caller S β}
    (h : LogSpec P p C Q) (hf : ∀ r, LogSpec (Q r) (f r) C R) :
    LogSpec P (Durable.caught p >>= f) C R := by
  have hcaught : LogSpec P (Durable.caught p) C (Ends Q fun _ => False) :=
    fun s hs => ⟨(h s hs).1, (h s hs).2⟩
  exact LogSpec.bind hcaught hf fun _ _ hfalse => hfalse.elim

theorem LogSpec.weaken {Q' : Except Failure α → CallLog → Prop} {p : Caller S α}
    (h : LogSpec P p C Q) (hP : ∀ log, P' log → P log) (hQ : ∀ r log, Q r log → Q' r log) :
    LogSpec P' p C Q' :=
  Durable.Spec.weaken h (fun s => hP s.2) fun r s => hQ r s.2

theorem LogSpec.or {p : Caller S α} (h : LogSpec P p C Q) (h' : LogSpec P' p C Q) :
    LogSpec (fun log => P log ∨ P' log) p C Q :=
  fun s hs => hs.elim (h s) (h' s)

/-- A fact about the values at hand. -/
theorem LogSpec.of_fact {φ : Prop} {p : Caller S α} (h : φ → LogSpec P p C Q) :
    LogSpec (fun log => P log ∧ φ) p C Q :=
  fun s hs => h hs.2 s hs.1

end rules

/-! ### A slice -/

/-- What a slice makes of the answer of the backend: the checkpoints have the commit
and the files of its own. -/
structure SliceOf (original answer : BackendAnswer) (checkpoint : Option TaskCheckpoint) : Prop where
  sequences : answer.eventSequences = original.eventSequences
  runResult : answer.execution.runResult = original.execution.runResult
  checkpoint : ∀ c, checkpoint = some c → ∃ own, original.execution.checkpoint = some own ∧
    c.commitSha = own.commitSha ∧ c.changedFiles = own.changedFiles ∧
    answer.execution.checkpoint.map TaskCheckpoint.changedFiles = some own.changedFiles

theorem SliceOf.numbered {original answer : BackendAnswer} {checkpoint : Option TaskCheckpoint}
    (h : SliceOf original answer checkpoint) (hnumbered : original.Numbered) : answer.Numbered := by
  refine ⟨h.sequences ▸ hnumbered.events, fun result hresult => ?_⟩
  exact hnumbered.repairs result (h.runResult ▸ hresult)

theorem runResult_withCheckpoint (execution : WorkerExecutionEvidence WorkContent)
    (checkpoint : TaskCheckpoint) :
    (QueuedTaskWorker.withCheckpoint execution checkpoint).runResult = execution.runResult := by
  unfold QueuedTaskWorker.withCheckpoint
  split
  · rename_i details hcontent
    simp [WorkerExecutionEvidence.runResult, WorkerExecutionEvidence.details, hcontent]
  · rfl

theorem checkpoint_withCheckpoint {execution : WorkerExecutionEvidence WorkContent}
    {own : TaskCheckpoint} (checkpoint : TaskCheckpoint) (h : execution.checkpoint = some own) :
    (QueuedTaskWorker.withCheckpoint execution checkpoint).checkpoint = some checkpoint := by
  unfold QueuedTaskWorker.withCheckpoint
  split
  · simp [WorkerExecutionEvidence.checkpoint, WorkerExecutionEvidence.details]
  · rename_i hcontent
    cases hother : execution.content <;>
      simp [WorkerExecutionEvidence.checkpoint, WorkerExecutionEvidence.details, hother] at h
    rename_i details
    exact absurd hother (hcontent details)

theorem sliceOf_withCheckpoint {original : BackendAnswer} {v : QueuedTaskWorker.SliceState}
    {elapsed maxSlices : ℕ} {checkpoint budgeted : TaskCheckpoint}
    (hfacts : QueuedTaskWorker.checkpointWithSliceFacts original.execution v elapsed maxSlices =
      some checkpoint) (hfiles : budgeted.changedFiles = checkpoint.changedFiles) :
    SliceOf original { original with
      execution := QueuedTaskWorker.withCheckpoint original.execution budgeted } (some checkpoint) := by
  obtain ⟨own, hown, rfl⟩ := Option.map_eq_some_iff.1 hfacts
  refine ⟨rfl, runResult_withCheckpoint _ _, fun c hc => ⟨own, hown, ?_⟩⟩
  obtain rfl := Option.some.inj hc
  refine ⟨rfl, rfl, ?_⟩
  rw [checkpoint_withCheckpoint budgeted hown, Option.map_some, hfiles]

section loop

variable {settings : WorkerSettings} {calls : Collaborators S} {maxSlices : ℕ} {queued : QueuedTask}
  {envelope : WorkerEnvelope} {runId : UUID} {P C : CallLog → Prop}

/-- The log after the backend was asked. -/
def CallLog.asked (log : CallLog) (request : ExecutionRequest) (checkpoint : Option TaskCheckpoint) :
    CallLog :=
  { log with slices := log.slices ++ [⟨request, checkpoint⟩] }

/-- **A slice asks the backend once.** -/
theorem runSlice_spec {v : QueuedTaskWorker.SliceState}
    {Q : Except Failure (BackendAnswer × Option TaskCheckpoint) → CallLog → Prop}
    (hC : ∀ log, P log → C log)
    (hasked : ∀ log checkpoint, P log →
      C (CallLog.asked log (QueuedTaskWorker.request queued envelope runId v) checkpoint))
    (hraised : ∀ log checkpoint failure, P log → Q (.error failure)
      (CallLog.asked log (QueuedTaskWorker.request queued envelope runId v) checkpoint))
    (hanswered : ∀ log s original answer checkpoint, P log →
      (calls.backend (QueuedTaskWorker.request queued envelope runId v) s).1 = .ok original →
      SliceOf original answer checkpoint → Q (.ok (answer, checkpoint))
        (CallLog.asked log (QueuedTaskWorker.request queued envelope runId v)
          original.execution.checkpoint)) :
    LogSpec P (runSlice calls maxSlices queued envelope runId v) C Q := by
  -- the state after the backend's answer
  let Answered (r : Except Failure BackendAnswer) (log : CallLog) : Prop :=
    ∃ before s, P before ∧
      (calls.backend (QueuedTaskWorker.request queued envelope runId v) s).1 = r ∧
      log = CallLog.asked before (QueuedTaskWorker.request queued envelope runId v)
        (r.toOption.bind fun answer => answer.execution.checkpoint)
  have hansweredC : ∀ r log, Answered r log → C log := by
    rintro r log ⟨before, s, hbefore, -, rfl⟩
    exact hasked before _ hbefore
  refine LogSpec.bind (Q := Answered) (LogSpec.ask hC (fun s log hlog => hasked log _ hlog)
    fun s log hlog => ⟨log, s, hlog, rfl, rfl⟩) (fun original => ?_) ?_
  · refine LogSpec.bind (Q := fun _ => Answered (.ok original))
      (LogSpec.askQuietly (hansweredC _) fun _ _ h => h) (fun elapsed => ?_) ?_
    · cases hfacts : QueuedTaskWorker.checkpointWithSliceFacts original.execution v elapsed
          maxSlices with
      | none =>
        refine LogSpec.pure (hansweredC _) ?_
        rintro log ⟨before, s, hbefore, hs, rfl⟩
        exact hanswered before s original original none hbefore hs ⟨rfl, rfl, fun c hc => by cases hc⟩
      | some checkpoint =>
        cases hreader : calls.tokenBudgetReader with
        | none =>
          refine LogSpec.pure (hansweredC _) ?_
          rintro log ⟨before, s, hbefore, hs, rfl⟩
          exact hanswered before s original _ _ hbefore hs (sliceOf_withCheckpoint hfacts rfl)
        | some reader =>
          refine LogSpec.bind (Q := fun _ => Answered (.ok original))
            (LogSpec.askQuietly (hansweredC _) fun _ _ h => h) (fun tokens => ?_) ?_
          · refine LogSpec.pure (hansweredC _) ?_
            rintro log ⟨before, s, hbefore, hs, rfl⟩
            exact hanswered before s original _ _ hbefore hs (sliceOf_withCheckpoint hfacts rfl)
          · rintro failure log ⟨before, s, hbefore, -, rfl⟩
            exact hraised before _ failure hbefore
    · rintro failure log ⟨before, s, hbefore, -, rfl⟩
      exact hraised before _ failure hbefore
  · rintro failure log ⟨before, s, hbefore, -, rfl⟩
    exact hraised before _ failure hbefore

/-- **What one slice does, the slices do together**, by induction on the slices that
are left. -/
theorem sliceLoop_spec {I : QueuedTaskWorker.SliceState → CallLog → Prop}
    {After : QueuedTaskWorker.SliceState → BackendAnswer → Option TaskCheckpoint → CallLog → Prop}
    {Raised : CallLog → Prop}
    (hslice : ∀ v, LogSpec (I v) (runSlice calls maxSlices queued envelope runId v) C
      (Ends (fun outcome => After v outcome.1 outcome.2) Raised))
    (hafter : ∀ v answer checkpoint log, After v answer checkpoint log → C log ∧ Raised log)
    (hcontinue : ∀ v answer checkpoint elapsed,
      QueuedTaskWorker.canContinue settings answer.execution v maxSlices elapsed = true →
      LogSpec (After v answer (some checkpoint)) (do
        persistRuntimeResult calls answer (some v.sliceIndex)
        appendCheckpoint calls checkpoint (some v.sliceIndex)) C
        (Ends (fun _ => I (v.next checkpoint)) Raised))
    (v : QueuedTaskWorker.SliceState) :
    LogSpec (I v) (sliceLoop settings calls maxSlices queued envelope runId v) C
      (Ends (fun last log => ∃ checkpoint, After last.2 last.1 checkpoint log) Raised) := by
  induction hleft : maxSlices - v.sliceIndex using Nat.strong_induction_on generalizing v with
  | h left ih =>
    rw [sliceLoop]
    refine LogSpec.bind (hslice v) (fun outcome => ?_) fun _ _ h => h
    obtain ⟨answer, checkpoint⟩ := outcome
    refine LogSpec.bind (Q := fun _ => After v answer checkpoint)
      (LogSpec.askQuietly (fun log h => (hafter _ _ _ log h).1) fun _ _ h => h) (fun elapsed => ?_)
      fun _ log h => (hafter _ _ _ log h).2
    split
    · rename_i hcan
      cases checkpoint with
      | none => exact LogSpec.pure (fun log h => (hafter _ _ _ log h).1) fun _ h => ⟨_, h⟩
      | some checkpoint =>
        have hlt := canContinue_lt hcan
        have hrest := ih (maxSlices - (v.next checkpoint).sliceIndex)
          (by change maxSlices - (v.sliceIndex + 1) < left; omega) (v.next checkpoint) rfl
        have hbetween := LogSpec.bind (hcontinue v answer checkpoint elapsed hcan)
          (fun _ => hrest) fun _ _ h => h
        rwa [Durable.bind_assoc] at hbetween
    · exact LogSpec.pure (fun log h => (hafter _ _ _ log h).1) fun _ h => ⟨_, h⟩

/-- **The last slice that the limit admits** is not followed by another one. -/
theorem sliceLoop_of_le {v : QueuedTaskWorker.SliceState} (h : maxSlices ≤ v.sliceIndex) :
    sliceLoop settings calls maxSlices queued envelope runId v = do
      let (answer, _) ← runSlice calls maxSlices queued envelope runId v
      let _ ← elapsedMs calls
      return (answer, v) := by
  rw [sliceLoop]
  have hstop : ∀ execution elapsed,
      ¬QueuedTaskWorker.canContinue settings execution v maxSlices elapsed = true := by
    intro execution elapsed hcan
    have hlt := canContinue_lt hcan
    omega
  simp only [hstop, Bool.false_eq_true, dite_false]

end loop

end ContinuationWorker

end DevFlow
