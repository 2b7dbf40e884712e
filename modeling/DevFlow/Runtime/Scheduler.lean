/-
# The scheduler that the controller reconstructs

`runtime/scheduler.py`, and `_reconstruct_scheduler` of
`runtime/product_controller.py`: the states of the tasks of one graph, replayed
from their terminal executions in topological order.  The event list, which
nothing reads, is left out.

Two readings of the states are independent of the order of the replay.  A task
is *doomed* when it has failed or depends on a doomed one, and *grounded* when
it belongs to a set of succeeded tasks that is closed under dependencies.  The
scheduler calls only doomed tasks FAILED or BLOCKED and only grounded tasks
SUCCEEDED, both are kept by further evidence, and no task is both.
-/

import DevFlow.Models.DagOrder
import Mathlib.Data.List.Dedup
import Mathlib.Data.Set.Basic

namespace DevFlow

/-- `TaskScheduleState`. -/
inductive TaskScheduleState
  | pending
  | ready
  | running
  | succeeded
  | failed
  | blocked
deriving DecidableEq, Repr

/-- The value of the enumeration member. -/
def TaskScheduleState.value : TaskScheduleState → String
  | .pending => "PENDING"
  | .ready => "READY"
  | .running => "RUNNING"
  | .succeeded => "SUCCEEDED"
  | .failed => "FAILED"
  | .blocked => "BLOCKED"

/-- `DAGScheduler`: the state of each task of the graph. -/
structure DAGScheduler where
  dag : TaskDAG
  states : String → TaskScheduleState

namespace DAGScheduler

/-- `_task_ids_with_state`. -/
def taskIdsWithState (s : DAGScheduler) (state : TaskScheduleState) : List String :=
  s.dag.taskIds.filter fun t => s.states t = state

/-- The scheduler with one state written. -/
def set (s : DAGScheduler) (taskId : String) (state : TaskScheduleState) : DAGScheduler :=
  { s with states := Function.update s.states taskId state }

/-- `_require_state`. -/
def requireState (s : DAGScheduler) (taskId : String) (expected : TaskScheduleState) :
    Except Failure Unit := do
  Raising.raiseIf (taskId ∉ s.dag.taskIds) ⟨.keyError, "unknown task id: " ++ taskId⟩
  Raising.raiseIf (s.states taskId ≠ expected)
    ⟨.valueError, "task " ++ taskId ++ " must be " ++ expected.value ++
      " before this transition; current state is " ++ (s.states taskId).value⟩

/-- `_refresh_ready`. -/
def refreshReady (s : DAGScheduler) : Except Failure DAGScheduler := do
  let ready ← s.dag.readyTaskIds (s.taskIdsWithState .succeeded) (s.taskIdsWithState .failed)
  return { s with states := fun t =>
    if t ∈ ready ∧ s.states t = .pending then .ready else s.states t }

/-- The constructor. -/
def create (dag : TaskDAG) : Except Failure DAGScheduler :=
  refreshReady { dag, states := fun _ => .pending }

/-- `start`. -/
def start (s : DAGScheduler) (taskId : String) : Except Failure DAGScheduler := do
  s.requireState taskId .ready
  return s.set taskId .running

/-- `succeed`. -/
def succeed (s : DAGScheduler) (taskId : String) : Except Failure DAGScheduler := do
  s.requireState taskId .running
  (s.set taskId .succeeded).refreshReady

/-- `_assert_blockable`. -/
def assertBlockable (s : DAGScheduler) (blocked : List String) : Except Failure Unit :=
  Raising.raiseIf (∃ t ∈ blocked, s.states t ≠ .pending ∧ s.states t ≠ .blocked)
    ⟨.runtimeError, "scheduler invariant violation: failed dependency would block " ++
      "a ready/active/terminal task: " ++ ", ".intercalate
        (((blocked.filter fun t => s.states t ≠ .pending ∧ s.states t ≠ .blocked).insertionSort
          (· ≤ ·)).map fun t => t ++ "=" ++ (s.states t).value)⟩

/-- `fail`. -/
def fail (s : DAGScheduler) (taskId : String) : Except Failure DAGScheduler := do
  s.requireState taskId .running
  let blocked ← s.dag.blockedTaskIds (taskId :: s.taskIdsWithState .failed)
  s.assertBlockable blocked
  return { s with states := fun t =>
    if t = taskId then .failed else if t ∈ blocked then .blocked else s.states t }

end DAGScheduler

/-- One round of the loop of `_reconstruct_scheduler`. -/
def replayExecution (executions : String → Option ExecutionStatus) (s : DAGScheduler)
    (taskId : String) : Except Failure DAGScheduler :=
  match executions taskId with
  | none => return s
  | some status => do
    Raising.raiseIf (s.states taskId ≠ .ready)
      ⟨.persistenceCorruption,
        "terminal evidence exists for non-runnable DAG task '" ++ taskId ++ "'"⟩
    let s ← s.start taskId
    match status with
    | .succeeded => s.succeed taskId
    | .failed => s.fail taskId

/-- `_reconstruct_scheduler`, by the status of each task's terminal execution. -/
def reconstructScheduler (dag : TaskDAG) (executions : String → Option ExecutionStatus) :
    Except Failure DAGScheduler := do
  let s ← DAGScheduler.create dag
  dag.topologicalOrder.foldlM (replayExecution executions) s

/-! ### Doomed and grounded tasks -/

/-- A failed task, or one that depends on a doomed task. -/
inductive Doomed (dag : TaskDAG) (executions : String → Option ExecutionStatus) : String → Prop
  | failed {t : String} : executions t = some .failed → Doomed dag executions t
  | blocked {node : TaskNode} {d : String} : node ∈ dag.tasks → d ∈ node.dependsOn →
      Doomed dag executions d → Doomed dag executions node.taskId

/-- A member of a set of succeeded tasks with all their dependencies. -/
def Grounded (dag : TaskDAG) (executions : String → Option ExecutionStatus) (t : String) : Prop :=
  ∃ S : Set String, t ∈ S ∧ ∀ x ∈ S, executions x = some .succeeded ∧
    ∀ node ∈ dag.tasks, node.taskId = x → ∀ d ∈ node.dependsOn, d ∈ S

section readings

variable {dag : TaskDAG} {executions executions' : String → Option ExecutionStatus} {t : String}

theorem Doomed.mono (h : Doomed dag executions t)
    (hle : ∀ x status, executions x = some status → executions' x = some status) :
    Doomed dag executions' t := by
  induction h with
  | failed hfailed => exact .failed (hle _ _ hfailed)
  | blocked hnode hdep _ ih => exact .blocked hnode hdep ih

theorem Grounded.mono (h : Grounded dag executions t)
    (hle : ∀ x status, executions x = some status → executions' x = some status) :
    Grounded dag executions' t := by
  obtain ⟨S, ht, hS⟩ := h
  exact ⟨S, ht, fun x hx => ⟨hle _ _ (hS x hx).1, (hS x hx).2⟩⟩

/-- **No task is doomed and grounded.** -/
theorem Grounded.not_doomed (h : Grounded dag executions t) : ¬Doomed dag executions t := by
  obtain ⟨S, ht, hS⟩ := h
  intro hdoomed
  induction hdoomed with
  | failed hfailed =>
    rw [(hS _ ht).1] at hfailed
    cases hfailed
  | blocked hnode hdep _ ih => exact ih ((hS _ ht).2 _ hnode rfl _ hdep)

end readings

/-! ### What the scheduler's states mean -/

/-- A task is ready when its dependencies are completed. -/
theorem TaskDAG.dependsOn_of_mem_readyTaskIds {dag : TaskDAG} {completed failed ready : List String}
    (h : dag.readyTaskIds completed failed = .ok ready) {node : TaskNode} (hnode : node ∈ dag.tasks)
    (hready : node.taskId ∈ ready) : ∀ d ∈ node.dependsOn, d ∈ completed := by
  simp only [readyTaskIds, Raising.bind_eq_ok, Raising.pure_eq_ok] at h
  obtain ⟨_, _, _, _, _, _, blocked, _, _, _, rfl⟩ := h
  have hall := (List.mem_filter.1 hready).2
  simp only [node?_of_mem hnode, decide_eq_true_eq, Option.any_some, List.all_eq_true] at hall
  exact hall.2.2.2

/-- Every task that the loop blocks depends on a doomed one. -/
theorem doomed_of_mem_blockedLoop {dag : TaskDAG}
    {executions : String → Option ExecutionStatus} {failed : List String} {fuel : ℕ}
    {queue blocked : List String} (hqueue : ∀ t ∈ queue, Doomed dag executions t)
    (hblocked : ∀ t ∈ blocked, Doomed dag executions t) :
    ∀ t ∈ TaskDAG.blockedLoop dag.tasks failed fuel queue blocked, Doomed dag executions t := by
  induction fuel generalizing queue blocked with
  | zero => exact hblocked
  | succ fuel ih =>
    cases queue with
    | nil => exact hblocked
    | cons taskId queue =>
      have hfound : ∀ t ∈ (dependents dag.tasks taskId).filter
          fun t => t ∉ failed ∧ t ∉ blocked, Doomed dag executions t := by
        intro t ht
        have ht := List.mem_of_mem_filter ht
        rw [dependents, List.mem_insertionSort, List.mem_map] at ht
        obtain ⟨node, hnode, rfl⟩ := ht
        obtain ⟨hnode, hdep⟩ := List.mem_filter.1 hnode
        exact .blocked hnode (by simpa using hdep) (hqueue taskId List.mem_cons_self)
      refine ih ?_ ?_
      · intro t ht
        rcases List.mem_append.1 ht with ht | ht
        · exact hqueue t (List.mem_cons_of_mem _ ht)
        · exact hfound t ht
      · intro t ht
        rcases List.mem_append.1 ht with ht | ht
        · exact hblocked t ht
        · exact hfound t ht

theorem TaskDAG.doomed_of_mem_blockedTaskIds {dag : TaskDAG}
    {executions : String → Option ExecutionStatus} {failed blocked : List String}
    (h : dag.blockedTaskIds failed = .ok blocked)
    (hfailed : ∀ t ∈ failed, Doomed dag executions t) :
    ∀ t ∈ blocked, Doomed dag executions t := by
  simp only [blockedTaskIds, Raising.bind_eq_ok, Raising.pure_eq_ok] at h
  obtain ⟨_, _, rfl⟩ := h
  intro t ht
  have ht : t ∈ blockedLoop dag.tasks failed (failed.length + dag.tasks.length)
      (failed.dedup.insertionSort (· ≤ ·)) [] := by
    simpa using (List.mem_filter.1 ht).2
  have hsorted : ∀ x ∈ failed.dedup.insertionSort (· ≤ ·), Doomed dag executions x := by
    intro x hx
    rw [List.mem_insertionSort, List.mem_dedup] at hx
    exact hfailed x hx
  exact doomed_of_mem_blockedLoop hsorted (by simp) t ht

/-- **What the states of a replay mean.** -/
structure DAGScheduler.Sound (s : DAGScheduler) (executions : String → Option ExecutionStatus) :
    Prop where
  succeeded : ∀ t, s.states t = .succeeded → executions t = some .succeeded
  failed : ∀ t, s.states t = .failed → executions t = some .failed
  blocked : ∀ t, s.states t = .blocked → Doomed s.dag executions t
  closed : ∀ node ∈ s.dag.tasks, s.states node.taskId ≠ .pending →
    s.states node.taskId ≠ .blocked → ∀ d ∈ node.dependsOn, s.states d = .succeeded

namespace DAGScheduler

variable {s s' : DAGScheduler} {executions : String → Option ExecutionStatus} {t : String}

theorem requireState_eq_ok {expected : TaskScheduleState} {u : Unit}
    (h : s.requireState t expected = .ok u) : s.states t = expected := by
  simp only [requireState, Raising.bind_eq_ok, Raising.raiseIf_eq_ok, not_not] at h
  obtain ⟨_, _, hstate⟩ := h
  exact hstate

theorem Sound.refreshReady (hs : s.Sound executions) (h : s.refreshReady = .ok s') :
    s'.Sound executions ∧ s'.dag = s.dag := by
  simp only [DAGScheduler.refreshReady, Raising.bind_eq_ok, Raising.pure_eq_ok] at h
  obtain ⟨ready, hready, rfl⟩ := h
  refine ⟨⟨?_, ?_, ?_, ?_⟩, rfl⟩
  · intro t ht
    dsimp only at ht
    split_ifs at ht
    exact hs.succeeded t ht
  · intro t ht
    dsimp only at ht
    split_ifs at ht
    exact hs.failed t ht
  · intro t ht
    dsimp only at ht
    split_ifs at ht
    exact hs.blocked t ht
  · intro node hnode hpending hblocked d hd
    have hold : s.states d = .succeeded := by
      dsimp only at hpending hblocked
      split_ifs at hpending hblocked with hif
      · have hcompleted := TaskDAG.dependsOn_of_mem_readyTaskIds hready hnode hif.1 d hd
        simpa [taskIdsWithState] using (List.mem_filter.1 hcompleted).2
      · exact hs.closed node hnode hpending hblocked d hd
    simp [hold]

/-- One state is written, of a task that is not pending and not blocked: its
dependencies have succeeded. -/
theorem Sound.set (hs : s.Sound executions) {state : TaskScheduleState}
    (hactive : s.states t = .ready ∨ s.states t = .running)
    (hstate : state ≠ .blocked) (hsucceeded : state = .succeeded → executions t = some .succeeded)
    (hfailed : state = .failed → executions t = some .failed) :
    (s.set t state).Sound executions := by
  have hnot : s.states t ≠ .succeeded := by rcases hactive with h | h <;> simp [h]
  refine ⟨?_, ?_, ?_, ?_⟩
  · intro x hx
    by_cases heq : x = t
    · subst heq
      exact hsucceeded (by simpa [DAGScheduler.set] using hx)
    · exact hs.succeeded x (by simpa [DAGScheduler.set, heq] using hx)
  · intro x hx
    by_cases heq : x = t
    · subst heq
      exact hfailed (by simpa [DAGScheduler.set] using hx)
    · exact hs.failed x (by simpa [DAGScheduler.set, heq] using hx)
  · intro x hx
    by_cases heq : x = t
    · subst heq
      exact absurd (by simpa [DAGScheduler.set] using hx) hstate
    · exact hs.blocked x (by simpa [DAGScheduler.set, heq] using hx)
  · intro node hnode hpending hblocked d hd
    have hold : s.states d = .succeeded := by
      by_cases heq : node.taskId = t
      · refine hs.closed node hnode ?_ ?_ d hd <;> rw [heq] <;>
          rcases hactive with h | h <;> simp [h]
      · simp only [DAGScheduler.set, Function.update_of_ne heq] at hpending hblocked
        exact hs.closed node hnode hpending hblocked d hd
    have hne : d ≠ t := fun heq => hnot (heq ▸ hold)
    simp [DAGScheduler.set, hne, hold]

theorem Sound.start (hs : s.Sound executions) (h : s.start t = .ok s') :
    s'.Sound executions ∧ s'.dag = s.dag := by
  simp only [DAGScheduler.start, Raising.bind_eq_ok, Raising.pure_eq_ok] at h
  obtain ⟨_, hready, rfl⟩ := h
  exact ⟨hs.set (Or.inl (requireState_eq_ok hready)) (by simp) (by simp) (by simp), rfl⟩

theorem Sound.succeed (hs : s.Sound executions) (h : s.succeed t = .ok s')
    (ht : executions t = some .succeeded) : s'.Sound executions ∧ s'.dag = s.dag := by
  simp only [DAGScheduler.succeed, Raising.bind_eq_ok] at h
  obtain ⟨_, hrunning, hrefresh⟩ := h
  exact (hs.set (Or.inr (requireState_eq_ok hrunning)) (by simp) (fun _ => ht)
    (by simp)).refreshReady hrefresh

theorem Sound.fail (hs : s.Sound executions) (h : s.fail t = .ok s')
    (ht : executions t = some .failed) : s'.Sound executions ∧ s'.dag = s.dag := by
  simp only [DAGScheduler.fail, Raising.bind_eq_ok, Raising.pure_eq_ok, assertBlockable,
    Raising.raiseIf_eq_ok] at h
  obtain ⟨_, hrunning, blocked, hblocked, _, hblockable, rfl⟩ := h
  have hrunning := requireState_eq_ok hrunning
  have hdoomed : ∀ x ∈ blocked, Doomed s.dag executions x := by
    refine TaskDAG.doomed_of_mem_blockedTaskIds hblocked fun x hx => ?_
    rcases List.mem_cons.1 hx with rfl | hx
    · exact .failed ht
    · exact .failed (hs.failed x (by simpa [taskIdsWithState] using (List.mem_filter.1 hx).2))
  refine ⟨⟨?_, ?_, ?_, ?_⟩, rfl⟩
  · intro x hx
    dsimp only at hx
    split_ifs at hx
    exact hs.succeeded x hx
  · intro x hx
    dsimp only at hx
    split_ifs at hx with heq
    · exact heq ▸ ht
    · exact hs.failed x hx
  · intro x hx
    dsimp only at hx
    split_ifs at hx with _ hmem
    · exact hdoomed x hmem
    · exact hs.blocked x hx
  · intro node hnode hpending hnotblocked d hd
    have hold : s.states d = .succeeded := by
      dsimp only at hpending hnotblocked
      split_ifs at hpending hnotblocked with heq hmem
      · exact hs.closed node hnode (by rw [heq, hrunning]; simp) (by rw [heq, hrunning]; simp) d hd
      · exact absurd rfl hnotblocked
      · exact hs.closed node hnode hpending hnotblocked d hd
    have hne : d ≠ t := by
      rintro rfl
      rw [hold] at hrunning
      cases hrunning
    have hfree : d ∉ blocked := fun hmem => hblockable ⟨d, hmem, by simp [hold], by simp [hold]⟩
    simp [hne, hfree, hold]

theorem Sound.replayExecution (hs : s.Sound executions)
    (h : DevFlow.replayExecution executions s t = .ok s') :
    s'.Sound executions ∧ s'.dag = s.dag := by
  unfold DevFlow.replayExecution at h
  split at h
  · obtain rfl := Raising.pure_eq_ok.1 h
    exact ⟨hs, rfl⟩
  · rename_i status hstatus
    simp only [Raising.bind_eq_ok] at h
    obtain ⟨_, _, s₁, hstart, h⟩ := h
    obtain ⟨hs₁, hdag₁⟩ := hs.start hstart
    cases status with
    | succeeded =>
      obtain ⟨hs', hdag⟩ := hs₁.succeed h hstatus
      exact ⟨hs', hdag.trans hdag₁⟩
    | failed =>
      obtain ⟨hs', hdag⟩ := hs₁.fail h hstatus
      exact ⟨hs', hdag.trans hdag₁⟩

end DAGScheduler

/-- **A reconstructed scheduler is sound.** -/
theorem reconstructScheduler_sound {dag : TaskDAG}
    {executions : String → Option ExecutionStatus} {s : DAGScheduler}
    (h : reconstructScheduler dag executions = .ok s) : s.Sound executions ∧ s.dag = dag := by
  simp only [reconstructScheduler, Raising.bind_eq_ok] at h
  obtain ⟨s₀, hcreate, hreplay⟩ := h
  have hinit : DAGScheduler.Sound { dag, states := fun _ => .pending } executions :=
    ⟨by simp, by simp, by simp, by simp⟩
  obtain ⟨hs₀, hdag⟩ := hinit.refreshReady hcreate
  refine Raising.foldlM_invariant (P := fun s => s.Sound executions ∧ s.dag = dag) ?_
    ⟨hs₀, hdag⟩ hreplay
  rintro s₁ t s₂ ⟨hs₁, hdag₁⟩ hround
  obtain ⟨hs₂, hdag₂⟩ := hs₁.replayExecution hround
  exact ⟨hs₂, hdag₂.trans hdag₁⟩

/-- FAILED and BLOCKED tasks are doomed. -/
theorem DAGScheduler.Sound.doomed {s : DAGScheduler}
    {executions : String → Option ExecutionStatus} (hs : s.Sound executions) {t : String}
    (h : s.states t = .failed ∨ s.states t = .blocked) : Doomed s.dag executions t := by
  rcases h with h | h
  · exact .failed (hs.failed t h)
  · exact hs.blocked t h

/-- SUCCEEDED tasks are grounded. -/
theorem DAGScheduler.Sound.grounded {s : DAGScheduler}
    {executions : String → Option ExecutionStatus} (hs : s.Sound executions) {t : String}
    (h : s.states t = .succeeded) : Grounded s.dag executions t := by
  refine ⟨{x | s.states x = .succeeded}, h, fun x hx => ⟨hs.succeeded x hx, ?_⟩⟩
  rintro node hnode rfl d hd
  exact hs.closed node hnode (by rw [show s.states node.taskId = _ from hx]; simp)
    (by rw [show s.states node.taskId = _ from hx]; simp) d hd

/-! ### Every execution is replayed -/

/-- The state that a terminal execution leaves its task in. -/
def ExecutionStatus.scheduleState : ExecutionStatus → TaskScheduleState
  | .succeeded => .succeeded
  | .failed => .failed

namespace DAGScheduler

variable {s s' : DAGScheduler} {executions : String → Option ExecutionStatus} {t x : String}

theorem refreshReady_states (h : s.refreshReady = .ok s') (ht : s.states t ≠ .pending) :
    s'.states t = s.states t := by
  simp only [refreshReady, Raising.bind_eq_ok, Raising.pure_eq_ok] at h
  obtain ⟨ready, -, rfl⟩ := h
  simp [ht]

/-- A replayed execution leaves its task in its state. -/
theorem replayExecution_self {status : ExecutionStatus}
    (h : replayExecution executions s t = .ok s') (ht : executions t = some status) :
    s'.states t = status.scheduleState := by
  simp only [replayExecution, ht, Raising.bind_eq_ok] at h
  obtain ⟨_, -, s₁, -, h⟩ := h
  cases status with
  | succeeded =>
    simp only [succeed, Raising.bind_eq_ok] at h
    obtain ⟨_, -, h⟩ := h
    rw [refreshReady_states h (by simp [set])]
    simp [set, ExecutionStatus.scheduleState]
  | failed =>
    simp only [fail, Raising.bind_eq_ok, Raising.pure_eq_ok] at h
    obtain ⟨_, -, blocked, -, _, -, rfl⟩ := h
    simp [ExecutionStatus.scheduleState]

/-- A terminal state stays. -/
theorem replayExecution_of_terminal {status : ExecutionStatus}
    (h : replayExecution executions s x = .ok s') (ht : s.states t = status.scheduleState) :
    s'.states t = status.scheduleState := by
  have hpending : s.states t ≠ .pending ∧ s.states t ≠ .ready ∧ s.states t ≠ .blocked := by
    rw [ht]
    cases status <;> simp [ExecutionStatus.scheduleState]
  cases hx : executions x with
  | none =>
    simp only [replayExecution, hx, Raising.pure_eq_ok] at h
    exact h ▸ ht
  | some outcome =>
    simp only [replayExecution, hx, Raising.bind_eq_ok, start, Raising.pure_eq_ok] at h
    obtain ⟨_, -, s₁, ⟨_, hready, rfl⟩, h⟩ := h
    have hne : t ≠ x := by
      rintro rfl
      exact hpending.2.1 (requireState_eq_ok hready)
    have hkept : ∀ state, (s.set x state).states t = status.scheduleState := by
      intro state
      simp [set, hne, ht]
    cases outcome with
    | succeeded =>
      simp only [succeed, Raising.bind_eq_ok] at h
      obtain ⟨_, -, h⟩ := h
      have hset : ((s.set x .running).set x .succeeded).states t = s.states t := by
        simp [set, hne]
      rw [refreshReady_states h (by rw [hset]; exact hpending.1), hset, ht]
    | failed =>
      simp only [fail, Raising.bind_eq_ok, Raising.pure_eq_ok, assertBlockable,
        Raising.raiseIf_eq_ok] at h
      obtain ⟨_, -, blocked, -, _, hblockable, rfl⟩ := h
      have hfree : t ∉ blocked := by
        intro hmem
        refine hblockable ⟨t, hmem, ?_, ?_⟩
        · simp [set, hne, hpending.1]
        · simp [set, hne, hpending.2.2]
      simp [hne, hfree, hkept]

/-- The replay of a list of tasks, by induction on the list. -/
theorem foldlM_replayExecution {l : List String}
    (h : l.foldlM (replayExecution executions) s = .ok s') {status : ExecutionStatus}
    (ht : executions t = some status) (hmem : t ∈ l ∨ s.states t = status.scheduleState) :
    s'.states t = status.scheduleState := by
  induction l generalizing s with
  | nil =>
    rw [List.foldlM_nil, Raising.pure_eq_ok] at h
    exact h ▸ hmem.resolve_left (by simp)
  | cons x l ih =>
    rw [List.foldlM_cons, Raising.bind_eq_ok] at h
    obtain ⟨s₁, hround, hrest⟩ := h
    refine ih hrest ?_
    by_cases hx : t = x
    · subst hx
      exact Or.inr (replayExecution_self hround ht)
    · rcases hmem with hmem | hstate
      · exact Or.inl ((List.mem_cons.1 hmem).resolve_left hx)
      · exact Or.inr (replayExecution_of_terminal hround hstate)

end DAGScheduler

/-- **A reconstructed scheduler has every terminal execution in its state.** -/
theorem reconstructScheduler_complete {dag : TaskDAG}
    {executions : String → Option ExecutionStatus} {s : DAGScheduler} {t : String}
    {status : ExecutionStatus} (h : reconstructScheduler dag executions = .ok s)
    (hmember : t ∈ dag.taskIds) (ht : executions t = some status) :
    s.states t = status.scheduleState := by
  simp only [reconstructScheduler, Raising.bind_eq_ok] at h
  obtain ⟨s₀, -, hreplay⟩ := h
  exact DAGScheduler.foldlM_replayExecution hreplay ht
    (Or.inl ((TaskDAG.mem_topologicalOrder dag).2 hmember))

end DevFlow
