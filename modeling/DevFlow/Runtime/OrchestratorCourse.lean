/-
# The course of a single-task run

What a run of `SingleTaskOrchestrator` may put on record, whoever answers it
(`runtime/orchestrator.py`, `runtime/state_machine.py`): the states it enters,
the calls it makes and the results it keeps, in order.  `Deed.Allows` is the
discipline, one line for each way to go on; a `Course` is a record that obeys it
from the first deed.

A course says on its own what a run is worth.  The machine is only asked for
transitions it has (`Course.transitions`), each verification after the first is
paid by a repair that changed the files (`Course.verifications_le`), the reviewer
is called on a verification that passed and on no other
(`Course.reviewer_called`), and a course that ends in success ends in a
verification and a review that passed with nothing between them
(`Course.succeeded`).  `Runtime.OrchestratorRuns` shows that `run` follows a
course.
-/

import DevFlow.Runtime.Orchestrator
import Mathlib.Data.List.Chain

namespace DevFlow

namespace Orchestrator

/-- What is put on record in a run. -/
inductive Deed
  | entered (state : TaskRunState)
  | called (action : Action)
  | developed (result : DeveloperRunResult)
  | verified (result : HardGateResult)
  | reviewed (decision : ReviewDecision)
  | repaired (result : RepairRunResult)

namespace Deed

def entered? : Deed → Option TaskRunState
  | entered state => some state
  | _ => none

def called? : Deed → Option Action
  | called action => some action
  | _ => none

def developed? : Deed → Option DeveloperRunResult
  | developed result => some result
  | _ => none

def verified? : Deed → Option HardGateResult
  | verified result => some result
  | _ => none

def reviewed? : Deed → Option ReviewDecision
  | reviewed decision => some decision
  | _ => none

def repaired? : Deed → Option RepairRunResult
  | repaired result => some result
  | _ => none

/-- The deeds that one deed may be followed by.  A resumed run starts with the
verification; any other with the developer. -/
inductive Allows (resumed : Bool) : Deed → Deed → Prop
  | begin : Allows resumed (entered .pending) (entered .running)
  | askDeveloper (h : resumed = false) : Allows resumed (entered .running) (called .developer)
  | noContext : Allows resumed (entered .running) (entered .failed)
  | resume (h : resumed = true) : Allows resumed (entered .running) (entered .verifying)
  | developed (result : DeveloperRunResult) :
      Allows resumed (called .developer) (developed result)
  | developerFailed : Allows resumed (called .developer) (entered .failed)
  | changed (result : DeveloperRunResult) :
      Allows resumed (developed result) (entered .verifying)
  | unchanged (result : DeveloperRunResult) :
      Allows resumed (developed result) (entered .failed)
  | askVerifier (files : Tree) : Allows resumed (entered .verifying) (called (.verify files))
  | verified (files : Tree) (result : HardGateResult) :
      Allows resumed (called (.verify files)) (verified result)
  | review {result : HardGateResult} (h : result.passed) :
      Allows resumed (verified result) (entered .reviewing)
  | repair {result : HardGateResult} (h : result.passed = false)
      (hrepairable : repairable result.failureReports ≠ []) :
      Allows resumed (verified result) (entered .repairing)
  | rejected {result : HardGateResult} (h : result.passed = false) :
      Allows resumed (verified result) (entered .failed)
  | askReviewer : Allows resumed (entered .reviewing) (called .review)
  | noReview : Allows resumed (entered .reviewing) (entered .failed)
  | reviewed (decision : ReviewDecision) : Allows resumed (called .review) (reviewed decision)
  | reviewerFailed : Allows resumed (called .review) (entered .failed)
  | succeed {decision : ReviewDecision} (h : decision.decision = .pass) :
      Allows resumed (reviewed decision) (entered .succeeded)
  | changesRequested {decision : ReviewDecision} (h : decision.decision = .changesRequested) :
      Allows resumed (reviewed decision) (entered .repairing)
  | notChanged {decision : ReviewDecision} (h : decision.decision = .changesRequested) :
      Allows resumed (reviewed decision) (entered .failed)
  | askRepair (attempt : ℕ) : Allows resumed (entered .repairing) (called (.repair attempt))
  | repaired (result : RepairRunResult) :
      Allows resumed (called (.repair result.attempt)) (repaired result)
  | repairFailed (attempt : ℕ) : Allows resumed (called (.repair attempt)) (entered .failed)
  | patched {result : RepairRunResult} (h : result.hasPatch) :
      Allows resumed (repaired result) (entered .verifying)
  | again {result : RepairRunResult} (h : result.hasPatch = false)
      (hblocker : result.stopReason ≠ .explicitBlocker) :
      Allows resumed (repaired result) (entered .repairing)
  | noProgress {result : RepairRunResult} (h : result.hasPatch = false) :
      Allows resumed (repaired result) (entered .failed)

/-- The state of the machine while a deed is done. -/
def during : Deed → TaskRunState
  | entered state => state
  | called .developer => .running
  | called (.verify _) => .verifying
  | called .review => .reviewing
  | called (.repair _) => .repairing
  | developed _ => .running
  | verified _ => .verifying
  | reviewed _ => .reviewing
  | repaired _ => .repairing

/-- The machine has every transition that a deed allows. -/
theorem Allows.transition {resumed : Bool} {deed : Deed} {next : TaskRunState}
    (h : Allows resumed deed (entered next)) : next ∈ allowedTransitions deed.during := by
  cases h <;> simp [during, allowedTransitions]

/-- A deed that enters no state is done in the state at hand. -/
theorem Allows.stays {resumed : Bool} {deed next : Deed} (h : Allows resumed deed next)
    (hnext : next.entered? = none) : next.during = deed.during := by
  cases h <;> first | rfl | cases hnext

/-- Whether a verification may still be due before the next repair. -/
def due : Deed → ℕ
  | verified _ => 0
  | reviewed _ => 0
  | called .review => 0
  | called (.repair _) => 0
  | entered .reviewing => 0
  | entered .repairing => 0
  | entered .succeeded => 0
  | entered .failed => 0
  | repaired result => if result.hasPatch then 1 else 0
  | _ => 1

end Deed

open Deed

/-- The records that obey the discipline from the first deed, with the last one. -/
inductive Course (resumed : Bool) : List Deed → Deed → Prop
  | start : Course resumed [entered .pending] (entered .pending)
  | step {record : List Deed} {last next : Deed} :
      Course resumed record last → Allows resumed last next → Course resumed (record ++ [next]) next

namespace Course

variable {resumed : Bool} {record : List Deed} {last : Deed}

/-- The record ends in the last deed. -/
theorem eq_append (h : Course resumed record last) : ∃ earlier, record = earlier ++ [last] := by
  cases h with
  | start => exact ⟨[], rfl⟩
  | step _ _ => exact ⟨_, rfl⟩

/-- **A course may be cut at any deed**: what is before it is a course, whose last
deed allows it. -/
theorem cut (h : Course resumed record last) :
    ∀ {before : List Deed} {deed : Deed} {after : List Deed}, record = before ++ deed :: after →
      before = [] ∧ deed = entered .pending ∨
        ∃ previous, Course resumed before previous ∧ Allows resumed previous deed := by
  induction h with
  | start =>
    intro before deed after heq
    rcases List.append_eq_singleton_iff.1 heq.symm with ⟨rfl, hcons⟩ | ⟨_, hcons⟩
    · obtain ⟨rfl, -⟩ := List.cons.inj hcons
      exact .inl ⟨rfl, rfl⟩
    · cases hcons
  | @step record last next hcourse hallows ih =>
    intro before deed after heq
    rcases List.eq_nil_or_concat after with rfl | ⟨rest, final, rfl⟩
    · obtain ⟨rfl, hlast⟩ := List.append_inj' heq rfl
      obtain rfl := List.singleton_inj.1 hlast
      exact .inr ⟨last, hcourse, hallows⟩
    · have hrecord : record ++ [next] = (before ++ deed :: rest) ++ [final] := by simpa using heq
      exact ih (List.append_inj' hrecord rfl).1

/-- The deed before one that is not the first. -/
theorem before (h : Course resumed record last) {before : List Deed} {deed : Deed}
    {after : List Deed} (heq : record = before ++ deed :: after) (hdeed : deed ≠ entered .pending) :
    ∃ earlier previous, before = earlier ++ [previous] ∧ Course resumed before previous ∧
      Allows resumed previous deed := by
  rcases h.cut heq with ⟨_, hpending⟩ | ⟨previous, hcourse, hallows⟩
  · exact absurd hpending hdeed
  · obtain ⟨earlier, hearlier⟩ := hcourse.eq_append
    exact ⟨earlier, previous, hearlier, hcourse, hallows⟩

/-- The machine is in the state of the last deed. -/
theorem state (h : Course resumed record last) :
    (record.filterMap entered?).getLast? = some last.during := by
  induction h with
  | start => rfl
  | @step record last next _ hallows ih =>
    rw [List.filterMap_append, List.filterMap_cons, List.filterMap_nil]
    cases hnext : next.entered? with
    | none => simpa [hallows.stays hnext] using ih
    | some state =>
      cases next <;> simp_all [entered?, during]

/-- **The machine is only asked for transitions that it has.** -/
theorem transitions (h : Course resumed record last) :
    (record.filterMap entered?).IsChain fun state next => next ∈ allowedTransitions state := by
  induction h with
  | start => exact List.IsChain.singleton _
  | @step record last next hcourse hallows ih =>
    rw [List.filterMap_append, List.filterMap_cons, List.filterMap_nil]
    cases hnext : next.entered? with
    | none => simpa using ih
    | some state =>
      refine List.isChain_append.2 ⟨ih, List.IsChain.singleton _, ?_⟩
      intro current hcurrent other hother
      obtain rfl : last.during = current := by simpa [hcourse.state] using hcurrent
      obtain rfl : state = other := by simpa using hother
      cases next <;> simp_all [entered?]
      exact hallows.transition

/-- **Each verification after the first is paid by a repair that changed the
files.** -/
theorem verifications_le (h : Course resumed record last) :
    (record.filterMap verified?).length + last.due ≤
      ((record.filterMap repaired?).filter RepairRunResult.hasPatch).length + 1 := by
  induction h with
  | start => decide
  | step _ hallows ih =>
    cases hallows with
    | repaired result =>
      cases hpatch : result.hasPatch <;>
        simp_all [List.filterMap_cons, verified?, repaired?, due]
    | _ => simp_all [List.filterMap_cons, verified?, repaired?, due] <;> omega

/-- A run that is resumed asks no developer, and any other asks it first and once. -/
theorem developer_called (h : Course resumed record last) {earlier after : List Deed}
    (heq : record = earlier ++ called .developer :: after) :
    resumed = false ∧ earlier = [entered .pending, entered .running] := by
  obtain ⟨start, previous, rfl, hcourse, hallows⟩ := h.before heq (by simp)
  cases hallows with
  | askDeveloper hresumed =>
    obtain ⟨start, previous, rfl, hstart, hallows⟩ :=
      @before _ _ _ hcourse _ _ [] rfl (by simp)
    cases hallows with
    | begin =>
      refine ⟨hresumed, ?_⟩
      rcases @cut _ _ _ hstart _ _ [] rfl with ⟨rfl, -⟩ | ⟨previous, -, hallows⟩
      · rfl
      · cases hallows

/-- **The reviewer is called on a verification that passed**, with nothing but the
transition between them. -/
theorem reviewer_called (h : Course resumed record last) {earlier after : List Deed}
    (heq : record = earlier ++ called .review :: after) :
    ∃ start files verification, verification.passed ∧ earlier = start ++
      [called (.verify files), verified verification, entered .reviewing] := by
  obtain ⟨_, _, rfl, hcourse, hallows⟩ := h.before heq (by simp)
  cases hallows with
  | askReviewer =>
    obtain ⟨_, _, rfl, hcourse, hallows⟩ := @before _ _ _ hcourse _ _ [] rfl (by simp)
    cases hallows with
    | @review verification hpassed =>
      obtain ⟨start, _, rfl, _, hallows⟩ := @before _ _ _ hcourse _ _ [] rfl (by simp)
      cases hallows with
      | verified files =>
        exact ⟨start, files, verification, hpassed, by simp⟩

/-- **A course that ends in success ends in a verification and a review that
passed.** -/
theorem succeeded (h : Course resumed record (entered .succeeded)) :
    ∃ start files verification review, verification.passed ∧ review.decision = .pass ∧
      record = start ++ [called (.verify files), verified verification, entered .reviewing,
        called .review, reviewed review, entered .succeeded] := by
  obtain ⟨earlier, rfl⟩ := h.eq_append
  obtain ⟨_, _, rfl, hcourse, hallows⟩ := @before _ _ _ h _ _ [] rfl (by simp)
  cases hallows with
  | @succeed review hpass =>
    obtain ⟨_, _, rfl, hcourse, hallows⟩ := @before _ _ _ hcourse _ _ [] rfl (by simp)
    cases hallows with
    | reviewed =>
      obtain ⟨start, files, verification, hpassed, rfl⟩ :=
        @reviewer_called _ _ _ hcourse _ [] rfl
      exact ⟨start, files, verification, review, hpassed, hpass, by simp⟩

/-- After a review that passed there is nothing but success. -/
theorem passed_review (h : Course resumed record last) {review : ReviewDecision}
    (hreview : (record.filterMap reviewed?).getLast? = some review)
    (hpass : review.decision = .pass) :
    last = reviewed review ∨ last = entered .succeeded := by
  induction h with
  | start => cases hreview
  | @step record last next _ hallows ih =>
    rw [List.filterMap_append, List.filterMap_cons, List.filterMap_nil] at hreview
    cases hnext : next.reviewed? with
    | none =>
      rw [hnext] at hreview
      rcases ih (by simpa using hreview) with rfl | rfl
      · cases hallows with
        | succeed => exact .inr rfl
        | changesRequested hchanges => simp [hpass] at hchanges
        | notChanged hchanges => simp [hpass] at hchanges
      · cases hallows
    | some decision =>
      rw [hnext] at hreview
      obtain rfl : decision = review := by simpa using hreview
      cases next with
      | reviewed decision => exact .inl (by simpa [reviewed?] using hnext)
      | _ => cases hnext

end Course

end Orchestrator

end DevFlow
