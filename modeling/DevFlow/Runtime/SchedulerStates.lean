/-
# The states of a scheduler

What the states of `DAGScheduler` say about the graph.  A task that was ever READY
has all its dependencies SUCCEEDED, and so all its ancestors; a task is BLOCKED
when an ancestor has FAILED, and PENDING when no ancestor has and a dependency is
still to succeed.  Every operation keeps this, and while it holds none of the
scheduler's own consistency checks can fail: an operation is refused only for the
state of the task that it names.

`_refresh_ready` is what restores the third part.  Between the transition to
SUCCEEDED and the refresh only the first two hold (`Settled`).
-/

import DevFlow.Models.DagClosure
import DevFlow.Runtime.Scheduler

namespace DevFlow

/-- The states of a task that was READY at some time. -/
def TaskScheduleState.released : TaskScheduleState → Bool
  | .ready | .running | .succeeded | .failed => true
  | .pending | .blocked => false

namespace DAGScheduler

/-- Some proper ancestor of the task has failed. -/
def FailedAbove (s : DAGScheduler) (t : String) : Prop :=
  ∃ a, s.dag.Ancestor a t ∧ s.states a = .failed

/-- What holds between a transition and the refresh. -/
structure Settled (s : DAGScheduler) : Prop where
  released : ∀ t ∈ s.dag.taskIds, (s.states t).released = true →
    ∀ d, s.dag.Edge d t → s.states d = .succeeded
  blocked : ∀ t ∈ s.dag.taskIds, s.states t = .blocked ↔ s.FailedAbove t

/-- **The invariant of the scheduler.** -/
structure Consistent (s : DAGScheduler) : Prop extends s.Settled where
  pending : ∀ t ∈ s.dag.taskIds, s.states t = .pending ↔
    (∃ d, s.dag.Edge d t ∧ s.states d ≠ .succeeded) ∧ ¬s.FailedAbove t

/-- The tasks of `ready` that are PENDING become READY. -/
def markReady (s : DAGScheduler) (ready : List String) : DAGScheduler :=
  { s with states := fun t =>
      if t ∈ ready ∧ s.states t = .pending then .ready else s.states t }

/-- The task becomes FAILED, and the tasks of `blocked` become BLOCKED. -/
def markFailed (s : DAGScheduler) (taskId : String) (blocked : List String) : DAGScheduler :=
  { s with states := fun t =>
      if t = taskId then .failed else if t ∈ blocked then .blocked else s.states t }

variable {s s' : DAGScheduler} {t : String}

theorem mem_taskIdsWithState {state : TaskScheduleState} :
    t ∈ s.taskIdsWithState state ↔ t ∈ s.dag.taskIds ∧ s.states t = state := by
  simp [taskIdsWithState]

/-- All ancestors of a released task have succeeded. -/
theorem Settled.ancestors (hs : s.Settled) {a : String} (hpath : s.dag.Ancestor a t)
    (ht : (s.states t).released = true) : s.states a = .succeeded := by
  induction hpath using Relation.TransGen.head_induction_on with
  | single hedge => exact hs.released t hedge.mem_right ht _ hedge
  | head hedge hrest ih => exact hs.released _ hedge.mem_right (by rw [ih]; rfl) _ hedge

theorem Settled.not_failedAbove (hs : s.Settled) (ht : (s.states t).released = true) :
    ¬s.FailedAbove t := by
  rintro ⟨a, hpath, hfailed⟩
  rw [hs.ancestors hpath ht] at hfailed
  cases hfailed

/-- The states are consistent for `ready_task_ids`. -/
theorem Settled.not_inconsistent (hs : s.Settled) :
    ¬s.dag.Inconsistent (s.taskIdsWithState .succeeded) (s.taskIdsWithState .failed) := by
  rintro ⟨t, ht, hfailed⟩
  obtain ⟨-, hsucceeded⟩ := mem_taskIdsWithState.1 ht
  rcases hfailed with hfailed | ⟨a, ha, hpath⟩
  · rw [(mem_taskIdsWithState.1 hfailed).2] at hsucceeded
    cases hsucceeded
  · exact hs.not_failedAbove (by rw [hsucceeded]; rfl)
      ⟨a, hpath, (mem_taskIdsWithState.1 ha).2⟩

/-- A task that `ready_task_ids` returns is pending, or was released before; one that
is pending is returned when its dependencies have succeeded. -/
theorem Settled.mem_ready (hs : s.Settled) {ready : List String}
    (h : s.dag.readyTaskIds (s.taskIdsWithState .succeeded) (s.taskIdsWithState .failed) =
      .ok ready) (ht : t ∈ s.dag.taskIds) (hpending : s.states t = .pending) :
    t ∈ ready ↔ ∀ d, s.dag.Edge d t → s.states d = .succeeded := by
  have habove : ¬s.FailedAbove t := by
    rw [← hs.blocked t ht, hpending]
    simp
  rw [TaskDAG.mem_readyTaskIds h]
  simp only [mem_taskIdsWithState]
  constructor
  · rintro ⟨-, -, -, -, hdeps⟩ d hedge
    exact (hdeps d hedge).2
  · intro hdeps
    refine ⟨ht, by simp [hpending], by simp [hpending], ?_, fun d hedge =>
      ⟨hedge.mem_left, hdeps d hedge⟩⟩
    rintro ⟨a, ⟨-, hfailed⟩, hpath⟩
    exact habove ⟨a, hpath, hfailed⟩

/-- **`_refresh_ready` never raises, and restores the invariant.** -/
theorem Settled.refreshReady (hs : s.Settled) :
    ∃ ready, s.dag.readyTaskIds (s.taskIdsWithState .succeeded) (s.taskIdsWithState .failed) =
        .ok ready ∧ s.refreshReady = .ok (s.markReady ready) ∧ (s.markReady ready).Consistent := by
  obtain ⟨ready, hready⟩ := TaskDAG.exists_readyTaskIds
    (fun t ht => (mem_taskIdsWithState.1 ht).1) (fun t ht => (mem_taskIdsWithState.1 ht).1)
    hs.not_inconsistent
  refine ⟨ready, hready, ?_, ?_⟩
  · rw [DAGScheduler.refreshReady, hready]
    rfl
  -- the states that decide about a task are not touched
  have hsame : ∀ x state, state ≠ .ready → state ≠ .pending →
      ((s.markReady ready).states x = state ↔ s.states x = state) := by
    intro x state hne hne'
    dsimp only [markReady]
    split_ifs with hif
    · rw [hif.2]
      exact ⟨fun h => absurd h.symm hne, fun h => absurd h.symm hne'⟩
    · rfl
  have habove : ∀ x, (s.markReady ready).FailedAbove x ↔ s.FailedAbove x := fun x =>
    exists_congr fun a => and_congr_right fun _ => hsame a .failed (by simp) (by simp)
  have hmem : ∀ x ∈ s.dag.taskIds, s.states x = .pending →
      (x ∈ ready ↔ ∀ d, s.dag.Edge d x → s.states d = .succeeded) :=
    fun x hx hpending => hs.mem_ready hready hx hpending
  refine ⟨⟨fun x hx hreleased d hedge => ?_, fun x hx => ?_⟩, fun x hx => ?_⟩
  · refine (hsame d .succeeded (by simp) (by simp)).2 ?_
    dsimp only [markReady] at hreleased
    split_ifs at hreleased with hif
    · exact (hmem x hx hif.2).1 hif.1 d hedge
    · exact hs.released x hx hreleased d hedge
  · rw [habove, ← hs.blocked x hx]
    exact hsame x .blocked (by simp) (by simp)
  · have hdeps : (∃ d, s.dag.Edge d x ∧ (s.markReady ready).states d ≠ .succeeded) ↔
        ¬∀ d, s.dag.Edge d x → s.states d = .succeeded := by
      push Not
      exact exists_congr fun d => and_congr_right fun _ =>
        not_congr (hsame d .succeeded (by simp) (by simp))
    rw [habove]
    refine Iff.trans ?_ (and_congr_left fun _ => hdeps.symm)
    dsimp only [markReady]
    by_cases hpending : s.states x = .pending
    · have hfree : ¬s.FailedAbove x := by
        rw [← hs.blocked x hx, hpending]
        simp
      rw [← hmem x hx hpending]
      by_cases hin : x ∈ ready <;> simp [hin, hpending, hfree]
    · rw [if_neg (fun hif => hpending hif.2)]
      refine iff_of_false hpending ?_
      rintro ⟨hopen, hfree⟩
      rw [← hs.blocked x hx] at hfree
      refine hopen fun d hedge => hs.released x hx ?_ d hedge
      revert hpending hfree
      cases s.states x <;> simp [TaskScheduleState.released]

/-- **The constructor never raises.** -/
theorem exists_create (dag : TaskDAG) :
    ∃ s, create dag = .ok s ∧ s.Consistent ∧ s.dag = dag := by
  have hfresh : DAGScheduler.Settled { dag, states := fun _ => .pending } :=
    ⟨fun _ _ h => (nomatch h), fun _ _ => ⟨fun h => (nomatch h), fun ⟨_, _, h⟩ => (nomatch h)⟩⟩
  obtain ⟨ready, -, hrefresh, hconsistent⟩ := hfresh.refreshReady
  exact ⟨_, hrefresh, hconsistent, rfl⟩

/-- **`_require_state` refuses any other state.** -/
theorem requireState_of_eq {expected : TaskScheduleState} (ht : t ∈ s.dag.taskIds)
    (h : s.states t = expected) : s.requireState t expected = .ok () := by
  unfold requireState
  rw [Raising.raiseIf_of_not (by simp [ht]), Raising.ok_bind, Raising.raiseIf_of_not (by simp [h])]

theorem mem_of_requireState {expected : TaskScheduleState} {u : Unit}
    (h : s.requireState t expected = .ok u) : t ∈ s.dag.taskIds := by
  simp only [requireState, Raising.bind_eq_ok, Raising.raiseIf_eq_ok, not_not] at h
  obtain ⟨_, hmem, _⟩ := h
  exact hmem

/-- A state is written that changes nothing for the other tasks: the task was
released and has not succeeded, and has not failed before or after. -/
theorem Settled.set (hs : s.Settled) {state : TaskScheduleState} (ht : t ∈ s.dag.taskIds)
    (hreleased : (s.states t).released = true) (hold : s.states t ≠ .succeeded)
    (hold' : s.states t ≠ .failed) (hstate : state.released = true) (hfailed : state ≠ .failed) :
    (s.set t state).Settled := by
  have hsame : ∀ x, x ≠ t → (s.set t state).states x = s.states x := fun x hx => by
    simp [DAGScheduler.set, hx]
  have hself : (s.set t state).states t = state := by simp [DAGScheduler.set]
  have hkeeps : ∀ d, s.states d = .succeeded → (s.set t state).states d = .succeeded := by
    intro d hd
    rw [hsame d (fun heq => hold (heq ▸ hd)), hd]
  have habove : ∀ x, (s.set t state).FailedAbove x ↔ s.FailedAbove x := by
    refine fun x => exists_congr fun a => and_congr_right fun _ => ?_
    by_cases ha : a = t
    · subst ha
      rw [hself]
      exact iff_of_false hfailed hold'
    · rw [hsame a ha]
  refine ⟨fun x hx hrel d hedge => ?_, fun x hx => ?_⟩
  · by_cases hxt : x = t
    · subst hxt
      exact hkeeps d (hs.released x ht hreleased d hedge)
    · rw [hsame x hxt] at hrel
      exact hkeeps d (hs.released x hx hrel d hedge)
  · rw [habove]
    by_cases hxt : x = t
    · subst hxt
      rw [hself]
      refine iff_of_false (fun h => ?_) (hs.not_failedAbove hreleased)
      rw [h] at hstate
      cases hstate
    · rw [hsame x hxt]
      exact hs.blocked x hx

/-- **`start`** of a READY task. -/
theorem Consistent.start (hs : s.Consistent) (ht : t ∈ s.dag.taskIds)
    (hready : s.states t = .ready) :
    s.start t = .ok (s.set t .running) ∧ (s.set t .running).Consistent := by
  refine ⟨?_, ?_⟩
  · rw [DAGScheduler.start, requireState_of_eq ht hready]
    rfl
  have hsame : ∀ x state, state ≠ .ready → state ≠ .running →
      ((s.set t .running).states x = state ↔ s.states x = state) := by
    intro x state hne hne'
    by_cases hx : x = t
    · subst hx
      rw [hready]
      simp only [DAGScheduler.set, Function.update_self]
      exact iff_of_false (fun h => hne' h.symm) (fun h => hne h.symm)
    · simp [DAGScheduler.set, hx]
  have habove : ∀ x, (s.set t .running).FailedAbove x ↔ s.FailedAbove x := fun x =>
    exists_congr fun a => and_congr_right fun _ => hsame a .failed (by simp) (by simp)
  refine ⟨hs.toSettled.set ht (by rw [hready]; rfl) (by simp [hready]) (by simp [hready]) rfl
    (by simp), fun x hx => ?_⟩
  rw [habove, hsame x .pending (by simp) (by simp), hs.pending x hx]
  refine and_congr_left fun _ => exists_congr fun d => and_congr_right fun _ => ?_
  exact not_congr (hsame d .succeeded (by simp) (by simp)).symm

/-- **`succeed`** of a RUNNING task. -/
theorem Consistent.succeed (hs : s.Consistent) (ht : t ∈ s.dag.taskIds)
    (hrunning : s.states t = .running) :
    ∃ ready, (s.set t .succeeded).dag.readyTaskIds
          ((s.set t .succeeded).taskIdsWithState .succeeded)
          ((s.set t .succeeded).taskIdsWithState .failed) = .ok ready ∧
      s.succeed t = .ok ((s.set t .succeeded).markReady ready) ∧
      ((s.set t .succeeded).markReady ready).Consistent := by
  have hset : (s.set t .succeeded).Settled := hs.toSettled.set ht (by rw [hrunning]; rfl)
    (by simp [hrunning]) (by simp [hrunning]) rfl (by simp)
  obtain ⟨ready, hready, hrefresh, hconsistent⟩ := hset.refreshReady
  refine ⟨ready, hready, ?_, hconsistent⟩
  rw [DAGScheduler.succeed, requireState_of_eq ht hrunning, Raising.ok_bind, hrefresh]

/-- A descendant of a RUNNING task is PENDING or BLOCKED. -/
theorem Settled.descendant (hs : s.Settled) (hrunning : s.states t = .running) {x : String}
    (hpath : s.dag.Ancestor t x) : s.states x = .pending ∨ s.states x = .blocked := by
  have hnot : ¬(s.states x).released = true := by
    intro hreleased
    rw [hs.ancestors hpath hreleased] at hrunning
    cases hrunning
  revert hnot
  cases s.states x <;> simp [TaskScheduleState.released]

/-- **`_assert_blockable` never raises.** -/
theorem Settled.assertBlockable (hs : s.Settled) (hrunning : s.states t = .running)
    {blocked : List String}
    (h : s.dag.blockedTaskIds (t :: s.taskIdsWithState .failed) = .ok blocked) :
    s.assertBlockable blocked = .ok () := by
  unfold DAGScheduler.assertBlockable
  rw [Raising.raiseIf_of_not]
  rintro ⟨x, hx, hpending, hblocked⟩
  obtain ⟨-, a, ha, hpath⟩ := (TaskDAG.mem_blockedTaskIds h).1 hx
  rcases List.mem_cons.1 ha with rfl | ha
  · exact (hs.descendant hrunning hpath).elim hpending hblocked
  · exact hblocked ((hs.blocked x hpath.mem_right).2 ⟨a, hpath, (mem_taskIdsWithState.1 ha).2⟩)

/-- **`fail`** of a RUNNING task. -/
theorem Consistent.fail (hs : s.Consistent) (ht : t ∈ s.dag.taskIds)
    (hrunning : s.states t = .running) :
    ∃ blocked, s.dag.blockedTaskIds (t :: s.taskIdsWithState .failed) = .ok blocked ∧
      s.assertBlockable blocked = .ok () ∧ s.fail t = .ok (s.markFailed t blocked) ∧
      (s.markFailed t blocked).Consistent := by
  have hmem : ∀ x ∈ t :: s.taskIdsWithState .failed, x ∈ s.dag.taskIds := by
    intro x hx
    rcases List.mem_cons.1 hx with rfl | hx
    · exact ht
    · exact (mem_taskIdsWithState.1 hx).1
  obtain ⟨blocked, hblocked⟩ := TaskDAG.exists_blockedTaskIds hmem
  have hassert := hs.toSettled.assertBlockable hrunning hblocked
  refine ⟨blocked, hblocked, hassert, ?_, ?_⟩
  · rw [DAGScheduler.fail, requireState_of_eq ht hrunning, Raising.ok_bind, hblocked,
      Raising.ok_bind, hassert]
    rfl
  -- who is blocked now: a descendant of the failed task, or one that was blocked before
  have hin : ∀ x, x ∈ blocked ↔ x ≠ t ∧ s.states x ≠ .failed ∧
      (s.dag.Ancestor t x ∨ s.FailedAbove x) := by
    intro x
    rw [TaskDAG.mem_blockedTaskIds hblocked]
    simp only [List.mem_cons, mem_taskIdsWithState, not_or]
    constructor
    · rintro ⟨⟨hne, hfailed⟩, a, ha, hpath⟩
      refine ⟨hne, fun h => hfailed ⟨hpath.mem_right, h⟩, ?_⟩
      rcases ha with rfl | ⟨-, ha⟩
      · exact Or.inl hpath
      · exact Or.inr ⟨a, hpath, ha⟩
    · rintro ⟨hne, hfailed, hpath | ⟨a, hpath, ha⟩⟩
      · exact ⟨⟨hne, fun h => hfailed h.2⟩, t, Or.inl rfl, hpath⟩
      · refine ⟨⟨hne, fun h => hfailed h.2⟩, a, Or.inr ⟨?_, ha⟩, hpath⟩
        rcases hpath.to_reflTransGen.cases_head with heq | ⟨_, hedge, -⟩
        · exact heq ▸ hpath.mem_right
        · exact hedge.mem_left
  have hwas : ∀ x ∈ blocked, s.states x = .pending ∨ s.states x = .blocked := by
    intro x hx
    obtain ⟨-, -, hpath | ⟨a, hpath, ha⟩⟩ := (hin x).1 hx
    · exact hs.toSettled.descendant hrunning hpath
    · exact Or.inr ((hs.blocked x hpath.mem_right).2 ⟨a, hpath, ha⟩)
  have hsucceeded : ∀ x, (s.markFailed t blocked).states x = .succeeded ↔
      s.states x = .succeeded := by
    intro x
    dsimp only [markFailed]
    split_ifs with hx hb
    · rw [hx, hrunning]
      simp
    · rcases hwas x hb with h | h <;> simp [h]
    · rfl
  have hfailed : ∀ x, (s.markFailed t blocked).states x = .failed ↔
      x = t ∨ s.states x = .failed := by
    intro x
    dsimp only [markFailed]
    split_ifs with hx hb
    · simp [hx]
    · rcases hwas x hb with h | h <;> simp [hx, h]
    · simp [hx]
  have habove : ∀ x, (s.markFailed t blocked).FailedAbove x ↔
      s.dag.Ancestor t x ∨ s.FailedAbove x := by
    intro x
    unfold FailedAbove
    simp only [hfailed]
    show (∃ a, s.dag.Ancestor a x ∧ (a = t ∨ s.states a = .failed)) ↔ _
    constructor
    · rintro ⟨a, hpath, rfl | ha⟩
      · exact Or.inl hpath
      · exact Or.inr ⟨a, hpath, ha⟩
    · rintro (hpath | ⟨a, hpath, ha⟩)
      · exact ⟨t, hpath, Or.inl rfl⟩
      · exact ⟨a, hpath, Or.inr ha⟩
  -- a released task, the failed one among them, has no failed ancestor
  have hnone : ∀ x, (s.states x).released = true → ¬(s.dag.Ancestor t x ∨ s.FailedAbove x) := by
    rintro x hreleased (hpath | habove)
    · rw [hs.toSettled.ancestors hpath hreleased] at hrunning
      cases hrunning
    · exact hs.toSettled.not_failedAbove hreleased habove
  refine ⟨⟨fun x hx hreleased d hedge => (hsucceeded d).2 ?_, fun x hx => ?_⟩, fun x hx => ?_⟩
  · refine hs.released x hx ?_ d hedge
    dsimp only [markFailed] at hreleased
    split_ifs at hreleased with hxt hb
    · rw [hxt, hrunning]
      rfl
    · cases hreleased
    · exact hreleased
  · rw [habove]
    dsimp only [markFailed]
    split_ifs with hxt hb
    · refine iff_of_false (by simp) (hnone x ?_)
      rw [hxt, hrunning]
      rfl
    · exact iff_of_true rfl ((hin x).1 hb).2.2
    · rw [hs.blocked x hx]
      refine ⟨Or.inr, fun h => ?_⟩
      by_contra hnot
      refine hb ((hin x).2 ⟨hxt, fun hfail => ?_, h⟩)
      exact hnone x (by rw [hfail]; rfl) h
  · rw [habove]
    simp only [ne_eq, hsucceeded]
    dsimp only [markFailed]
    split_ifs with hxt hb
    · refine iff_of_false (by simp) ?_
      rintro ⟨⟨d, hedge, hd⟩, -⟩
      exact hd (hs.released x hx (by rw [hxt, hrunning]; rfl) d hedge)
    · exact iff_of_false (by simp) fun h => h.2 ((hin x).1 hb).2.2
    · rw [hs.pending x hx]
      refine and_congr_right fun _ => not_congr ⟨Or.inr, fun h => ?_⟩
      by_contra hnot
      refine hb ((hin x).2 ⟨hxt, fun hfail => ?_, h⟩)
      exact hnone x (by rw [hfail]; rfl) h

end DAGScheduler

end DevFlow
