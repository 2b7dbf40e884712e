/-
# A single-task run follows its course

`SingleTaskOrchestrator.run` (`runtime/orchestrator.py`) against agents, a
verifier and a context builder that answer as they like.  `At` says where a
session stands: it holds what a course says (`Runtime.OrchestratorCourse`), with
its repairs numbered from one.  Each statement of `run` that puts something on
record is one step of the course (`transition_bind`, `call_bind`,
`put_bind`); the rounds follow by induction on the attempts that are left
(`repairLoop_spec`), and `run_sound` is the whole run.
-/

import DevFlow.Runtime.OrchestratorCourse

namespace DevFlow

open Durable (Prog Spec)

namespace Orchestrator

open Deed

/-- The session holds what the record says, and the calls made before. -/
structure Holds (made : List Action) (record : List Deed) (session : TaskSession) : Prop where
  events : session.events = record.filterMap entered?
  actions : session.actions = made ++ record.filterMap called?
  developer : session.developer.toList = record.filterMap developed?
  verifications : session.verifications = record.filterMap verified?
  reviews : session.reviews = record.filterMap reviewed?
  repairs : session.repairs = record.filterMap repaired?

/-- One deed is put on record. -/
structure Puts (deed : Deed) (s t : TaskSession) : Prop where
  events : t.events = s.events ++ deed.entered?.toList
  actions : t.actions = s.actions ++ deed.called?.toList
  developer : t.developer.toList = s.developer.toList ++ deed.developed?.toList
  verifications : t.verifications = s.verifications ++ deed.verified?.toList
  reviews : t.reviews = s.reviews ++ deed.reviewed?.toList
  repairs : t.repairs = s.repairs ++ deed.repaired?.toList

/-- A list with one more deed, read by one of the six readings. -/
theorem filterMap_concat {α : Type} (reading : Deed → Option α) (record : List Deed) (deed : Deed) :
    (record ++ [deed]).filterMap reading = record.filterMap reading ++ (reading deed).toList := by
  rw [List.filterMap_append, List.filterMap_cons, List.filterMap_nil]
  cases reading deed <;> rfl

theorem Holds.put {made : List Action} {record : List Deed} {deed : Deed} {s t : TaskSession}
    (h : Holds made record s) (hputs : Puts deed s t) : Holds made (record ++ [deed]) t where
  events := by rw [hputs.events, h.events, filterMap_concat]
  actions := by rw [hputs.actions, h.actions, filterMap_concat, List.append_assoc]
  developer := by rw [hputs.developer, h.developer, filterMap_concat]
  verifications := by rw [hputs.verifications, h.verifications, filterMap_concat]
  reviews := by rw [hputs.reviews, h.reviews, filterMap_concat]
  repairs := by rw [hputs.repairs, h.repairs, filterMap_concat]

/-- The session stands at the deed `last` of a course, after `repairs` repairs. -/
structure At (made : List Action) (resumed : Bool) (last : Deed) (repairs : ℕ) (session : TaskSession) : Prop where
  course : ∃ record, Course resumed record last ∧ Holds made record session
  numbered : session.repairs.map RepairRunResult.attempt = List.range' 1 repairs

/-- The session stands somewhere on a course, within the budget of repairs. -/
def Underway (made : List Action) (resumed : Bool) (budget : ℕ) (session : TaskSession) : Prop :=
  ∃ last repairs, repairs ≤ budget ∧ At made resumed last repairs session

/-- What the agents and the verifier may raise; a failure is also raised for an
error without failures, of which no result can be made. -/
inductive Raises (agents : Agents) : Failure → Prop
  | developer {session : TaskSession} {failure : Failure}
      (h : (agents.developer session).1 = .raises failure) : Raises agents failure
  | verify {session : TaskSession} {failure : Failure}
      (h : (agents.verify session).1 = .error failure) : Raises agents failure
  | review {session : TaskSession} {failure : Failure}
      (h : (agents.review session).1 = .raises failure) : Raises agents failure
  | repair {session : TaskSession} {attempt : ℕ} {failure : Failure}
      (h : (agents.repair session attempt).1 = .raises failure) : Raises agents failure
  | noFailures {session : TaskSession} {attempt : ℕ}
      (h : (agents.developer session).1 = .refused [] ∨ (agents.review session).1 = .refused [] ∨
        (agents.repair session attempt).1 = .refused []) :
      Raises agents ⟨.valueError, "failed runs require at least one terminal failure"⟩

/-- The result says what is on record. -/
structure Reports (result : TaskRunResult) (session : TaskSession) : Prop where
  status : result.status = session.state
  events : result.events = session.events
  developer : result.developer = session.developer
  verifications : result.verifications = session.verifications
  reviews : result.reviews = session.reviews
  repairs : result.repairs = session.repairs
  changedFiles : result.changedFiles = session.workspace.changedFiles
  failures : result.failures = [] ↔ session.state = .succeeded

/-- How a run ends: with a result at the end of a course, or with what the agents
raise. -/
def Ends (made : List Action) (agents : Agents) (resumed : Bool) (budget : ℕ) :
    Except Failure TaskRunResult → TaskSession → Prop
  | .ok result, session => Reports result session ∧ ∃ last repairs, repairs ≤ budget ∧
      (last = entered .succeeded ∨ last = entered .failed) ∧ At made resumed last repairs session
  | .error failure, _ => Raises agents failure

/-- How the developer's part ends: with the verification ahead, or as a run does. -/
def Develops (made : List Action) (agents : Agents) (resumed : Bool) (budget n : ℕ) :
    Except Failure (Option TaskRunResult) → TaskSession → Prop
  | .ok none, session => At made resumed (entered .verifying) n session
  | .ok (some result), session => Ends made agents resumed budget (.ok result) session
  | .error failure, session => Ends made agents resumed budget (.error failure) session

section course

variable {made : List Action} {resumed : Bool} {last next : Deed} {n : ℕ} {s t : TaskSession}

theorem At.put (h : At made resumed last n s) (hallows : Allows resumed last next)
    (hputs : Puts next s t) (hnext : next.repaired? = none) : At made resumed next n t := by
  obtain ⟨record, hcourse, hholds⟩ := h.course
  refine ⟨⟨record ++ [next], hcourse.step hallows, hholds.put hputs⟩, ?_⟩
  rw [hputs.repairs, hnext, Option.toList_none, List.append_nil, h.numbered]

/-- What is not on record may change. -/
theorem At.other (h : At made resumed last n s) (hputs : ∀ record, Holds made record s → Holds made record t) :
    At made resumed last n t := by
  obtain ⟨record, hcourse, hholds⟩ := h.course
  have ht := hputs record hholds
  refine ⟨⟨record, hcourse, ht⟩, ?_⟩
  rw [ht.repairs, ← hholds.repairs, h.numbered]

/-- A repair is put on record under the next number. -/
theorem At.repaired {result : RepairRunResult} (h : At made resumed last n s)
    (hallows : Allows resumed last (Deed.repaired result)) (hattempt : result.attempt = n + 1) :
    At made resumed (Deed.repaired result) (n + 1) { s with repairs := s.repairs ++ [result] } := by
  obtain ⟨record, hcourse, hholds⟩ := h.course
  refine ⟨⟨_, hcourse.step hallows, hholds.put ⟨?_, ?_, ?_, ?_, ?_, rfl⟩⟩, ?_⟩
  any_goals simp [entered?, called?, developed?, verified?, reviewed?]
  rw [h.numbered, hattempt, List.range'_concat]
  simp [Nat.add_comm]

theorem At.length_repairs (h : At made resumed last n s) : s.repairs.length = n := by
  simpa using congrArg List.length h.numbered

theorem At.state (h : At made resumed last n s) : s.state = last.during := by
  obtain ⟨record, hcourse, hholds⟩ := h.course
  rw [TaskSession.state, hholds.events, List.getLastD_eq_getLast?, hcourse.state]
  rfl

/-- The developer is asked before it has answered. -/
theorem At.noDeveloper (h : At made resumed (called .developer) n s) : s.developer = none := by
  obtain ⟨record, hcourse, hholds⟩ := h.course
  obtain ⟨earlier, rfl⟩ := hcourse.eq_append
  obtain ⟨-, rfl⟩ := @Course.developer_called _ _ _ hcourse _ [] rfl
  have hdeveloper := hholds.developer
  simpa [List.filterMap_cons, developed?] using hdeveloper

end course

section specs

variable {made : List Action} {agents : Agents} {task : TaskWork} {resumed : Bool}
variable {budget n : ℕ} {last : Deed}
variable {α β : Type} {R : Except Failure β → TaskSession → Prop}

theorem At.underway {s : TaskSession} (hn : n ≤ budget) (h : At made resumed last n s) :
    Underway made resumed budget s :=
  ⟨last, n, hn, h⟩

/-- A transition that the course allows is made. -/
theorem transition_bind {next : TaskRunState} {f : Unit → Runtime β} (hn : n ≤ budget)
    (hallows : Allows resumed last (entered next))
    (hf : Spec (At made resumed (entered next) n) (f ()) (Underway made resumed budget) R) :
    Spec (At made resumed last n) (transition next >>= f) (Underway made resumed budget) R := by
  simp only [transition, Durable.bind_assoc]
  refine Spec.read_keep fun s hs => ?_
  refine Spec.raiseIf_bind (fun t => At.underway hn) (fun _ => ?_) fun hforbidden => ?_
  · refine Spec.write_bind _ (fun t => At.underway hn) (fun t ht => ?_) hf
    exact ht.put hallows ⟨rfl, by simp [called?], by simp [developed?], by simp [verified?],
      by simp [reviewed?], by simp [repaired?]⟩ rfl
  · rw [hs.state] at hforbidden
    exact absurd hallows.transition hforbidden

/-- A call that the course allows is made, and answered. -/
theorem call_bind {action : Action} {answer : TaskSession → α × Tree} {f : α → Runtime β}
    (hn : n ≤ budget) (hallows : Allows resumed last (called action))
    (hf : ∀ s, Spec (At made resumed (called action) n) (f (answer s).1) (Underway made resumed budget) R) :
    Spec (At made resumed last n) (call action answer >>= f) (Underway made resumed budget) R := by
  intro s hs
  have hcalled : At made resumed (called action) n
      { s with
        actions := s.actions ++ [action]
        workspace := { s.workspace with files := (answer s).2 } } :=
    hs.put hallows ⟨by simp [entered?], rfl, by simp [developed?], by simp [verified?],
      by simp [reviewed?], by simp [repaired?]⟩ rfl
  obtain ⟨hstates, hend⟩ := hf s _ hcalled
  refine ⟨?_, hend⟩
  intro t ht
  rcases List.mem_cons.1 ht with rfl | ht
  · exact hs.underway hn
  · exact hstates t ht

theorem buildContext_bind {resume : Option ContextContinuationState}
    {f : Option String → Runtime β} (hn : n ≤ budget)
    (hf : ∀ error, Spec (At made resumed last n) (f error) (Underway made resumed budget) R) :
    Spec (At made resumed last n) (buildContext agents resume >>= f) (Underway made resumed budget) R := by
  simp only [buildContext, Durable.bind_assoc]
  refine Spec.read_keep fun s _ => ?_
  cases agents.buildContext s resume with
  | some error => exact hf (some error)
  | none =>
    rw [Durable.bind_assoc]
    refine Spec.write_bind _ (fun t => At.underway hn) (fun t ht => ?_) (hf none)
    exact ht.other fun record h =>
      ⟨h.events, h.actions, h.developer, h.verifications, h.reviews, h.repairs⟩

/-- The reviewer is called, or refuses before it is. -/
theorem review_bind {f : AgentReply ReviewDecision → Runtime β} (hn : n ≤ budget)
    (hrefused : ∀ message, Spec (At made resumed (entered .reviewing) n) (f (.valueError message))
      (Underway made resumed budget) R)
    (hcalled : ∀ s, Spec (At made resumed (called .review) n) (f (agents.review s).1)
      (Underway made resumed budget) R) :
    Spec (At made resumed (entered .reviewing) n) (review agents >>= f)
      (Underway made resumed budget) R := by
  simp only [review, Durable.bind_assoc]
  refine Spec.read_keep fun s _ => ?_
  split
  · exact hrefused _
  · exact call_bind hn .askReviewer hcalled

/-- The result at the end of a course. -/
theorem result_spec {failures : List FailureReport} (hn : n ≤ budget)
    (hlast : last = entered .succeeded ∧ failures = [] ∨ last = entered .failed ∧ (failures = [] →
      Raises agents ⟨.valueError, "failed runs require at least one terminal failure"⟩)) :
    Spec (At made resumed last n) (result task failures) (Underway made resumed budget)
      (Ends made agents resumed budget) := by
  refine Spec.read_bind fun s hs => ?_
  have hstate := hs.state
  have hunderway := hs.underway hn
  rcases hlast with ⟨rfl, rfl⟩ | ⟨rfl, hfailures⟩
  · have hsucceeded : s.state = .succeeded := hstate
    rw [dif_pos (.inl hsucceeded)]
    refine Spec.raiseIf_bind (by rintro _ rfl; exact hunderway) (fun _ => ?_) fun h => ?_
    · refine Spec.raiseIf_bind (by rintro _ rfl; exact hunderway) (fun _ => ?_) fun h => ?_
      · refine Spec.pure (by rintro _ rfl; exact hunderway) ?_
        rintro _ rfl
        exact ⟨⟨rfl, rfl, rfl, rfl, rfl, rfl, rfl, by simp [hsucceeded]⟩, _, n, hn, .inl rfl, hs⟩
      · rw [hsucceeded] at h
        cases h.1
    · exact absurd rfl h.2
  · have hfailed : s.state = .failed := hstate
    rw [dif_pos (.inr hfailed)]
    refine Spec.raiseIf_bind (by rintro _ rfl; exact hunderway) (fun _ => ?_) fun h => ?_
    · refine Spec.raiseIf_bind (by rintro _ rfl; exact hunderway) (fun hsome => ?_) fun h => ?_
      · refine Spec.pure (by rintro _ rfl; exact hunderway) ?_
        rintro _ rfl
        have hne : failures ≠ [] := fun hnil => hsome ⟨hfailed, hnil⟩
        exact ⟨⟨rfl, rfl, rfl, rfl, rfl, rfl, rfl, by simp [hfailed, hne]⟩, _, n, hn, .inr rfl, hs⟩
      · exact fun _ _ => hfailures h.2
    · rw [hfailed] at h
      cases h.1

/-- A run fails where the course allows it. -/
theorem fail_spec {failures : List FailureReport} (hn : n ≤ budget)
    (hallows : Allows resumed last (entered .failed)) (hfailures : failures = [] →
      Raises agents ⟨.valueError, "failed runs require at least one terminal failure"⟩) :
    Spec (At made resumed last n) (fail task failures) (Underway made resumed budget)
      (Ends made agents resumed budget) :=
  transition_bind hn hallows (result_spec hn (.inr ⟨rfl, hfailures⟩))

/-- A run fails with the failures at hand. -/
theorem fail_spec_of_ne {failures : List FailureReport} (hn : n ≤ budget)
    (hallows : Allows resumed last (entered .failed)) (hfailures : failures ≠ []) :
    Spec (At made resumed last n) (fail task failures) (Underway made resumed budget)
      (Ends made agents resumed budget) :=
  fail_spec hn hallows fun hnil => absurd hnil hfailures

/-- What the rounds after a failure need: a course that may go on to a repair, and
may fail. -/
def Repairs (made : List Action) (agents : Agents) (resumed : Bool) (budget n : ℕ)
    (onFailures : List FailureReport → Runtime TaskRunResult) : Prop :=
  ∀ last failures, failures ≠ [] → Allows resumed last (entered .repairing) →
    Allows resumed last (entered .failed) →
    Spec (At made resumed last n) (onFailures failures) (Underway made resumed budget) (Ends made agents resumed budget)

/-- **A round follows the course** when the rounds after a failure do. -/
theorem verifyThen_spec {onFailures : List FailureReport → Runtime TaskRunResult} (hn : n ≤ budget)
    (hrest : Repairs made agents resumed budget n onFailures) :
    Spec (At made resumed (entered .verifying) n) (verifyThen agents task onFailures)
      (Underway made resumed budget) (Ends made agents resumed budget) := by
  refine Spec.read_keep fun s _ => ?_
  refine call_bind hn (.askVerifier _) fun s => ?_
  refine Spec.lift_bind (fun t => At.underway hn) (fun verification _ => ?_)
    fun failure hfailure _ _ => .verify hfailure
  refine Spec.write_bind (At made resumed (Deed.verified verification) n)
    (fun t => At.underway hn) (fun t ht => ?_) ?_
  · exact ht.put (.verified _ _) ⟨by simp [entered?], by simp [called?], by simp [developed?], rfl,
      by simp [reviewed?], by simp [repaired?]⟩ rfl
  split
  · rename_i hpassed
    refine transition_bind hn (.review hpassed) (buildContext_bind hn fun error => ?_)
    cases error with
    | some error => exact fail_spec_of_ne hn .noReview (List.cons_ne_nil _ _)
    | none =>
      refine review_bind hn (fun message => ?_) fun s => ?_
      · exact fail_spec_of_ne hn .noReview (List.cons_ne_nil _ _)
      cases hreply : (agents.review s).1 with
      | refused failures =>
        refine fail_spec hn .reviewerFailed fun hnil => ?_
        exact @Raises.noFailures _ _ 0 (.inr (.inl (hnil ▸ hreply)))
      | providerError failure => exact fail_spec_of_ne hn .reviewerFailed (List.cons_ne_nil _ _)
      | valueError message => exact fail_spec_of_ne hn .reviewerFailed (List.cons_ne_nil _ _)
      | raises failure => exact Spec.lift (fun t => At.underway hn) fun _ _ => .review hreply
      | result decision =>
        refine Spec.write_bind (At made resumed (Deed.reviewed decision) n)
          (fun t => At.underway hn) (fun t ht => ?_) ?_
        · exact ht.put (.reviewed _) ⟨by simp [entered?], by simp [called?], by simp [developed?],
            by simp [verified?], rfl, by simp [repaired?]⟩ rfl
        cases hdecision : decision.decision with
        | pass =>
          exact transition_bind hn (.succeed hdecision) (result_spec hn (.inl ⟨rfl, rfl⟩))
        | changesRequested =>
          exact hrest _ _ (List.cons_ne_nil _ _) (.changesRequested hdecision)
            (.notChanged hdecision)
  · rename_i hfailed
    rw [Bool.not_eq_true] at hfailed
    dsimp only
    split
    · refine fail_spec_of_ne hn (.rejected hfailed) ?_
      split_ifs with h
      · exact List.cons_ne_nil _ _
      · exact h
    · rename_i hreports
      have hne : repairable verification.failureReports ≠ [] := hreports
      exact hrest _ _ hne (.repair hfailed hne) (.rejected hfailed)

/-- **Every further round follows the course**, by induction on the attempts that
are left. -/
theorem repairLoop_spec : ∀ {left n : ℕ}, n + left = budget →
    Repairs made agents resumed budget n (repairLoop agents task left) := by
  intro left
  induction left with
  | zero =>
    intro n hn last failures hne _ hfail
    exact fail_spec_of_ne (Nat.le_of_eq hn) hfail (by simpa [terminalize] using hne)
  | succ left ih =>
    intro n hn last failures hne hrepair _
    have hbudget : n ≤ budget := by omega
    have hnext : n + 1 ≤ budget := by omega
    refine transition_bind hbudget hrepair (Spec.read_keep fun before hbefore => ?_)
    have hattempt : before.repairs.length + 1 = n + 1 := by rw [hbefore.length_repairs]
    dsimp only
    rw [hattempt]
    refine call_bind hbudget (.askRepair _) fun s => ?_
    cases hreply : (agents.repair s (n + 1)).1 with
    | refused failures =>
      refine fail_spec hbudget (.repairFailed _) fun hnil => ?_
      exact .noFailures (.inr (.inr (hnil ▸ hreply)))
    | providerError failure => exact fail_spec_of_ne hbudget (.repairFailed _) (List.cons_ne_nil _ _)
    | valueError message => exact fail_spec_of_ne hbudget (.repairFailed _) (List.cons_ne_nil _ _)
    | raises failure => exact Spec.lift (fun t => At.underway hbudget) fun _ _ => .repair hreply
    | result stopReason =>
      refine Spec.read_keep fun after _ => ?_
      let repair : RepairRunResult :=
        ⟨n + 1, stopReason, before.workspace.files ≠ after.workspace.files⟩
      refine Spec.write_bind (At made resumed (Deed.repaired repair) (n + 1))
        (fun t => At.underway hbudget) (fun t ht => ht.repaired (.repaired repair) rfl) ?_
      split_ifs with hpatch hstop
      · have hpatched : repair.hasPatch := decide_eq_true hpatch
        exact transition_bind hnext (.patched hpatched) (verifyThen_spec hnext (ih (by omega)))
      · have hidle : repair.hasPatch = false := decide_eq_false hpatch
        exact fail_spec_of_ne hnext (.noProgress hidle) (by simpa [noProgress] using hne)
      · have hidle : repair.hasPatch = false := decide_eq_false hpatch
        refine ih (by omega) _ _ hne (.again hidle fun h => hstop (.inl h)) (.noProgress hidle)

/-- The developer's part ends the run, or leaves it to be verified. -/
theorem develop_spec {resume : Option ContextContinuationState} (hn : n ≤ budget)
    (hresumed : resumed = false) :
    Spec (At made resumed (entered .running) n) (develop agents task resume) (Underway made resumed budget)
      (Develops made agents resumed budget n) := by
  have hmap : ∀ {last : Deed} {failures : List FailureReport},
      Spec (At made resumed last n) (fail task failures) (Underway made resumed budget)
        (Ends made agents resumed budget) →
      Spec (At made resumed last n) (some <$> fail task failures) (Underway made resumed budget)
        (Develops made agents resumed budget n) := by
    intro last failures hspec
    refine Spec.map hspec fun ended s hends => ?_
    cases ended with
    | ok result => exact hends
    | error failure => exact hends
  refine buildContext_bind hn fun error => ?_
  cases error with
  | some error => exact hmap (fail_spec_of_ne hn .noContext (List.cons_ne_nil _ _))
  | none =>
    refine call_bind hn (.askDeveloper hresumed) fun s => ?_
    cases hreply : (agents.developer s).1 with
    | refused failures =>
      refine hmap (fail_spec hn .developerFailed fun hnil => ?_)
      exact @Raises.noFailures _ _ 0 (.inl (hnil ▸ hreply))
    | providerError failure =>
      exact hmap (fail_spec_of_ne hn .developerFailed (List.cons_ne_nil _ _))
    | valueError message =>
      exact hmap (fail_spec_of_ne hn .developerFailed (List.cons_ne_nil _ _))
    | raises failure => exact Spec.lift (fun t => At.underway hn) fun _ _ => .developer hreply
    | result developer =>
      refine Spec.write_bind (At made resumed (Deed.developed developer) n)
        (fun t => At.underway hn) (fun t ht => ?_) ?_
      · exact ht.put (.developed _) ⟨by simp [entered?], by simp [called?],
          by simp [ht.noDeveloper, developed?], by simp [verified?], by simp [reviewed?],
          by simp [repaired?]⟩ rfl
      refine Spec.read_keep fun s _ => ?_
      split
      · exact hmap (fail_spec_of_ne hn (.unchanged _) (List.cons_ne_nil _ _))
      · refine transition_bind hn (.changed _) ?_
        exact Spec.pure (fun t => At.underway hn) fun t ht => ht

end specs

/-- A run starts at the first deed, with the calls that were made before. -/
theorem at_start (resumed : Bool) (session : TaskSession) :
    At session.actions resumed (entered .pending) 0
      { TaskSession.start session.workspace with actions := session.actions } :=
  ⟨⟨_, .start, ⟨rfl, (List.append_nil _).symm, rfl, rfl, rfl, rfl⟩⟩, rfl⟩

theorem run_spec (agents : Agents) (minimum : ℕ) (task : TaskWork)
    (resume : Option ContextContinuationState) (resumed : Bool) (session : TaskSession) :
    Spec (· = session) (run agents minimum task resume resumed)
      (fun t => t = session ∨ Underway session.actions resumed (max task.maxRetries minimum) t)
      (Ends session.actions agents resumed (max task.maxRetries minimum)) := by
  have hn : 0 ≤ max task.maxRetries minimum := Nat.zero_le _
  have hrounds := @verifyThen_spec session.actions _ task _ _ _ _ hn
    (@repairLoop_spec _ agents task resumed _ _ _ (Nat.zero_add _))
  refine Spec.write_bind (At session.actions resumed (entered .pending) 0) ?_ ?_ ?_
  · rintro _ rfl
    exact .inl rfl
  · rintro _ rfl
    exact at_start resumed _
  refine Spec.mono (transition_bind hn .begin ?_) fun t ht => .inr ht
  cases resumed with
  | true => exact transition_bind hn (.resume rfl) hrounds
  | false =>
    refine Spec.bind (develop_spec hn rfl) (fun ended => ?_) fun failure s h => h
    cases ended with
    | none => exact hrounds
    | some result =>
      refine Spec.pure ?_ fun s h => h
      rintro s ⟨-, last, repairs, hrepairs, -, hlast⟩
      exact hlast.underway hrepairs

/-- What holds of a session at any moment of a run; `made` are the calls before
the run. -/
structure Sound (made : List Action) (resumed : Bool) (budget : ℕ) (session : TaskSession) :
    Prop where
  transitions : session.events.IsChain fun state next => next ∈ allowedTransitions state
  numbered : session.repairs.map RepairRunResult.attempt = List.range' 1 session.repairs.length
  bounded : session.repairs.length ≤ budget
  paid : session.verifications.length ≤
    (session.repairs.filter RepairRunResult.hasPatch).length + 1
  /-- The reviewer is called on a verification that passed. -/
  course : ∃ record last, Course resumed record last ∧ Holds made record session ∧
    ∀ earlier after, record = earlier ++ called .review :: after →
      ∃ start files verification, verification.passed ∧ earlier = start ++
        [called (.verify files), verified verification, entered .reviewing]

/-- What holds of the session that a result was made of. -/
structure Settled (made : List Action) (resumed : Bool) (result : TaskRunResult)
    (session : TaskSession) : Prop where
  reports : Reports result session
  succeeded_iff : result.status = .succeeded ↔
    ∃ review, result.reviews.getLast? = some review ∧ review.decision = .pass
  /-- Success ends a course with a verification and a review that passed. -/
  course : result.status = .succeeded → ∃ start files verification review,
    verification.passed ∧ review.decision = .pass ∧
    Course resumed (start ++ [called (.verify files), verified verification, entered .reviewing,
      called .review, reviewed review, entered .succeeded]) (entered .succeeded) ∧
    Holds made (start ++ [called (.verify files), verified verification, entered .reviewing,
      called .review, reviewed review, entered .succeeded]) session

theorem Underway.sound {made : List Action} {resumed : Bool} {budget : ℕ} {session : TaskSession}
    (h : Underway made resumed budget session) : Sound made resumed budget session := by
  obtain ⟨last, repairs, hrepairs, hat⟩ := h
  have hlength := hat.length_repairs
  obtain ⟨record, hcourse, hholds⟩ := hat.course
  refine ⟨?_, ?_, ?_, ?_, record, last, hcourse, hholds, fun _ _ => hcourse.reviewer_called⟩
  · rw [hholds.events]
    exact hcourse.transitions
  · rw [hat.numbered, hlength]
  · omega
  · have hle := hcourse.verifications_le
    rw [hholds.verifications, hholds.repairs]
    omega

theorem Ends.settled {made : List Action} {agents : Agents} {resumed : Bool} {budget : ℕ}
    {result : TaskRunResult} {session : TaskSession}
    (h : Ends made agents resumed budget (.ok result) session) :
    Settled made resumed result session := by
  obtain ⟨hreports, last, repairs, -, hlast, hat⟩ := h
  have hstate : result.status = last.during := by rw [hreports.status, hat.state]
  obtain ⟨record, hcourse, hholds⟩ := hat.course
  rcases hlast with rfl | rfl
  · obtain ⟨start, files, verification, review, hpassed, hpass, rfl⟩ := hcourse.succeeded
    refine ⟨hreports, ⟨fun _ => ⟨review, ?_, hpass⟩, fun _ => hstate⟩, fun _ =>
      ⟨start, files, verification, review, hpassed, hpass, hcourse, hholds⟩⟩
    rw [hreports.reviews, hholds.reviews, List.filterMap_append]
    simp [List.filterMap_cons, reviewed?]
  · have hfailed : result.status ≠ .succeeded := by simp [hstate, during]
    refine ⟨hreports, ⟨fun h => absurd h hfailed, ?_⟩, fun h => absurd h hfailed⟩
    rintro ⟨review, hreview, hpass⟩
    rw [hreports.reviews, hholds.reviews] at hreview
    rcases hcourse.passed_review hreview hpass with h | h
    · cases h
    · cases h

end Orchestrator

end DevFlow
