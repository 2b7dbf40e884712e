/-
# The scheduler and the planner agree

`_reconstruct_scheduler` of `runtime/product_controller.py` replays the terminal
executions through the scheduler, in topological order; `build_plan` of
`runtime/run_reconciler.py` computes the sets of completed, failed, blocked and
ready tasks from the graph at once.

A map of executions is *dependency closed* when every task with an execution has
only SUCCEEDED dependencies.  After the replay of a part of the order the
scheduler is consistent, and SUCCEEDED and FAILED are exactly the executions of
that part (`ReplayedTo`); so the next task with an execution is READY when the map
is closed, and the invariant of the scheduler gives the other two sets.
-/

import DevFlow.Runtime.ProductController
import DevFlow.Runtime.RunReconciler
import DevFlow.Runtime.SchedulerStates

namespace DevFlow

variable {dag : TaskDAG} {executions : String → Option ExecutionStatus} {s s' : DAGScheduler}

/-- Each task with an execution has all its dependencies SUCCEEDED. -/
def DependencyClosed (dag : TaskDAG) (executions : String → Option ExecutionStatus) : Prop :=
  ∀ t ∈ dag.taskIds, executions t ≠ none → ∀ d, dag.Edge d t → executions d = some .succeeded

/-- The executions of `done` are replayed, and nothing else. -/
structure ReplayedTo (dag : TaskDAG) (executions : String → Option ExecutionStatus)
    (done : List String) (s : DAGScheduler) : Prop where
  graph : s.dag = dag
  consistent : s.Consistent
  succeeded : ∀ t ∈ dag.taskIds, s.states t = .succeeded ↔
    t ∈ done ∧ executions t = some .succeeded
  failed : ∀ t ∈ dag.taskIds, s.states t = .failed ↔ t ∈ done ∧ executions t = some .failed
  running : ∀ t ∈ dag.taskIds, s.states t ≠ .running

/-- In a closed map every ancestor of a task with an execution has succeeded. -/
theorem DependencyClosed.ancestor (hclosed : DependencyClosed dag executions) {a t : String}
    (hpath : dag.Ancestor a t) (ht : executions t ≠ none) : executions a = some .succeeded := by
  induction hpath using Relation.TransGen.head_induction_on with
  | single hedge => exact hclosed t hedge.mem_right ht _ hedge
  | head hedge _ ih => exact hclosed _ hedge.mem_right (by simp [ih]) _ hedge

/-- The constructor has replayed nothing. -/
theorem exists_create_replayed (dag : TaskDAG) (executions : String → Option ExecutionStatus) :
    ∃ s, DAGScheduler.create dag = .ok s ∧ ReplayedTo dag executions [] s := by
  obtain ⟨s, hcreate, hconsistent, hdag⟩ := DAGScheduler.exists_create dag
  have hstates : ∀ t, s.states t = .pending ∨ s.states t = .ready := by
    simp only [DAGScheduler.create, DAGScheduler.refreshReady, Raising.bind_eq_ok,
      Raising.pure_eq_ok] at hcreate
    obtain ⟨ready, -, rfl⟩ := hcreate
    intro t
    dsimp only
    split_ifs
    · exact Or.inr rfl
    · exact Or.inl rfl
  refine ⟨s, hcreate, hdag, hconsistent, fun t _ => ?_, fun t _ => ?_, fun t _ => ?_⟩ <;>
    rcases hstates t with h | h <;> simp [h]

namespace ReplayedTo

variable {done : List String} {t : String}

/-- A task without an execution. -/
theorem skip (h : ReplayedTo dag executions done s) (ht : executions t = none) :
    ReplayedTo dag executions (done ++ [t]) s := by
  have hmem : ∀ x status, x ∈ done ++ [t] ∧ executions x = some status ↔
      x ∈ done ∧ executions x = some status := by
    intro x status
    by_cases hx : x = t
    · subst hx
      simp [ht]
    · simp [hx]
  refine ⟨h.graph, h.consistent, fun x hx => ?_, fun x hx => ?_, h.running⟩
  · rw [hmem]
    exact h.succeeded x hx
  · rw [hmem]
    exact h.failed x hx

/-- **The next task of the order is READY** when the map is closed. -/
theorem ready (h : ReplayedTo dag executions done s) (hclosed : DependencyClosed dag executions)
    (hmem : t ∈ dag.taskIds) (hnew : t ∉ done) (hbefore : ∀ d, dag.Edge d t → d ∈ done)
    (ht : executions t ≠ none) : s.states t = .ready := by
  have hdag := h.graph
  have habove : ¬s.FailedAbove t := by
    rintro ⟨a, hpath, hfailed⟩
    rw [hdag] at hpath
    have ha : a ∈ dag.taskIds := by
      rcases Relation.TransGen.head'_iff.1 hpath with ⟨_, hedge, -⟩
      exact hedge.mem_left
    rw [h.failed a ha, hclosed.ancestor hpath ht] at hfailed
    exact absurd hfailed.2 (by simp)
  have hpending : s.states t ≠ .pending := by
    rw [Ne, h.consistent.pending t (hdag ▸ hmem)]
    rintro ⟨⟨d, hedge, hd⟩, -⟩
    rw [hdag] at hedge
    exact hd ((h.succeeded d hedge.mem_left).2 ⟨hbefore d hedge, hclosed t hmem ht d hedge⟩)
  have hblocked : s.states t ≠ .blocked := by
    rw [Ne, h.consistent.blocked t (hdag ▸ hmem)]
    exact habove
  have hsucceeded : s.states t ≠ .succeeded := fun hs => hnew ((h.succeeded t hmem).1 hs).1
  have hfailed : s.states t ≠ .failed := fun hs => hnew ((h.failed t hmem).1 hs).1
  have hrunning := h.running t hmem
  revert hpending hblocked hsucceeded hfailed hrunning
  cases s.states t <;> simp

/-- **One execution is replayed.** -/
theorem replay (h : ReplayedTo dag executions done s) (hmem : t ∈ dag.taskIds) (hnew : t ∉ done)
    (hready : s.states t = .ready) {status : ExecutionStatus} (ht : executions t = some status) :
    ∃ s', replayExecution executions s t = .ok s' ∧
      ReplayedTo dag executions (done ++ [t]) s' := by
  obtain ⟨hdag, hconsistent, hsucceeded, hfailed, hrunning⟩ := h
  subst hdag
  obtain ⟨hstart, hstarted⟩ := hconsistent.start hmem hready
  have hself : (s.set t .running).states t = .running := by simp [DAGScheduler.set]
  have hother : ∀ x, x ≠ t → (s.set t .running).states x = s.states x := fun x hx => by
    simp [DAGScheduler.set, hx]
  have hdone : ∀ x status', x ≠ t → (x ∈ done ++ [t] ∧ executions x = some status' ↔
      x ∈ done ∧ executions x = some status') := fun x status' hx => by simp [hx]
  have hcheck : (Raising.raiseIf (s.states t ≠ .ready)
      ⟨.persistenceCorruption, "terminal evidence exists for non-runnable DAG task '" ++ t ++ "'"⟩ :
      Except Failure Unit) = .ok () := Raising.raiseIf_of_not (by simp [hready]) _
  simp only [replayExecution, ht, hcheck, hstart, Raising.ok_bind]
  cases status with
  | succeeded =>
    obtain ⟨ready, -, hsucceed, hconsistent'⟩ := hstarted.succeed hmem hself
    refine ⟨_, hsucceed, rfl, hconsistent', fun x hx => ?_, fun x hx => ?_, fun x hx => ?_⟩ <;>
      by_cases hxt : x = t
    · subst hxt
      simp [DAGScheduler.markReady, DAGScheduler.set, ht]
    · rw [hdone x _ hxt, ← hsucceeded x hx]
      by_cases hif : x ∈ ready ∧ s.states x = .pending
      · simp [DAGScheduler.markReady, DAGScheduler.set, hxt, hif]
      · simp [DAGScheduler.markReady, DAGScheduler.set, hxt, hif]
    · subst hxt
      simp [DAGScheduler.markReady, DAGScheduler.set, ht]
    · rw [hdone x _ hxt, ← hfailed x hx]
      by_cases hif : x ∈ ready ∧ s.states x = .pending
      · simp [DAGScheduler.markReady, DAGScheduler.set, hxt, hif]
      · simp [DAGScheduler.markReady, DAGScheduler.set, hxt, hif]
    · subst hxt
      simp [DAGScheduler.markReady, DAGScheduler.set]
    · have hold := hrunning x hx
      by_cases hif : x ∈ ready ∧ s.states x = .pending
      · simp [DAGScheduler.markReady, DAGScheduler.set, hxt, hif]
      · simp [DAGScheduler.markReady, DAGScheduler.set, hxt, hif, hold]
  | failed =>
    obtain ⟨blocked, -, hassert, hfail, hconsistent'⟩ := hstarted.fail hmem hself
    have hwas : ∀ x ∈ blocked, x ≠ t → s.states x = .pending ∨ s.states x = .blocked := by
      rw [DAGScheduler.assertBlockable, Raising.raiseIf_eq_ok] at hassert
      intro x hx hxt
      by_contra hnot
      rw [not_or] at hnot
      exact hassert ⟨x, hx, by rw [hother x hxt]; exact hnot.1, by rw [hother x hxt]; exact hnot.2⟩
    refine ⟨_, hfail, rfl, hconsistent', fun x hx => ?_, fun x hx => ?_, fun x hx => ?_⟩ <;>
      by_cases hxt : x = t
    · subst hxt
      simp [DAGScheduler.markFailed, ht]
    · rw [hdone x _ hxt, ← hsucceeded x hx]
      by_cases hb : x ∈ blocked
      · rcases hwas x hb hxt with h | h <;> simp [DAGScheduler.markFailed, hxt, hb, h]
      · simp [DAGScheduler.markFailed, DAGScheduler.set, hxt, hb]
    · subst hxt
      simp [DAGScheduler.markFailed, ht]
    · rw [hdone x _ hxt, ← hfailed x hx]
      by_cases hb : x ∈ blocked
      · rcases hwas x hb hxt with h | h <;> simp [DAGScheduler.markFailed, hxt, hb, h]
      · simp [DAGScheduler.markFailed, DAGScheduler.set, hxt, hb]
    · subst hxt
      simp [DAGScheduler.markFailed]
    · have hold := hrunning x hx
      by_cases hb : x ∈ blocked
      · simp [DAGScheduler.markFailed, hxt, hb]
      · simp [DAGScheduler.markFailed, DAGScheduler.set, hxt, hb, hold]

/-- **The rest of the order**, by induction on it. -/
theorem foldlM (hclosed : DependencyClosed dag executions) (rest : List String)
    (h : ReplayedTo dag executions done s) (horder : dag.topologicalOrder = done ++ rest) :
    ∃ s', rest.foldlM (replayExecution executions) s = .ok s' ∧
      ReplayedTo dag executions dag.topologicalOrder s' := by
  induction rest generalizing done s with
  | nil =>
    rw [List.append_nil] at horder
    exact ⟨s, rfl, horder ▸ h⟩
  | cons t rest ih =>
    have hmem : t ∈ dag.taskIds := (TaskDAG.mem_topologicalOrder dag).1 (by simp [horder])
    have hnew : t ∉ done := by
      have hnodup := dag.topologicalOrder_nodup
      rw [horder] at hnodup
      exact fun hin => (List.nodup_append.1 hnodup).2.2 t hin t List.mem_cons_self rfl
    have hsplit : dag.topologicalOrder = (done ++ [t]) ++ rest := by simp [horder]
    rw [List.foldlM_cons]
    cases ht : executions t with
    | none =>
      rw [replayExecution, ht]
      exact ih (h.skip ht) hsplit
    | some status =>
      have hready := h.ready hclosed hmem hnew
        (fun d hedge => TaskDAG.topologicalOrder_edge horder hedge) (by simp [ht])
      obtain ⟨s', hround, hs'⟩ := h.replay hmem hnew hready ht
      rw [hround, Raising.ok_bind]
      exact ih hs' hsplit

end ReplayedTo

/-- **A closed map is replayed.** -/
theorem DependencyClosed.reconstruct (hclosed : DependencyClosed dag executions) :
    ∃ s, reconstructScheduler dag executions = .ok s ∧
      ReplayedTo dag executions dag.topologicalOrder s := by
  obtain ⟨s₀, hcreate, hs₀⟩ := exists_create_replayed dag executions
  obtain ⟨s, hfold, hs⟩ := hs₀.foldlM hclosed dag.topologicalOrder rfl
  refine ⟨s, ?_, hs⟩
  rw [reconstructScheduler, hcreate, Raising.ok_bind, hfold]

/-- A replay that returns had a closed map. -/
theorem dependencyClosed_of_reconstruct (h : reconstructScheduler dag executions = .ok s) :
    DependencyClosed dag executions := by
  obtain ⟨hsound, hdag⟩ := reconstructScheduler_sound h
  rintro t hmem ht d ⟨node, hnode, rfl, hdep⟩
  obtain ⟨status, hstatus⟩ := Option.ne_none_iff_exists'.1 ht
  have hstate := reconstructScheduler_complete h hmem hstatus
  refine hsound.succeeded d (hsound.closed node (hdag ▸ hnode) ?_ ?_ d hdep) <;> rw [hstate] <;>
    cases status <;> simp [ExecutionStatus.scheduleState]

/-- What a replay of any map raises. -/
theorem replayExecution_eq_error {t : String} {failure : Failure} (hs : s.Consistent)
    (hmem : t ∈ s.dag.taskIds) (h : replayExecution executions s t = .error failure) :
    failure.kind = .persistenceCorruption := by
  cases ht : executions t with
  | none =>
    rw [replayExecution, ht] at h
    cases h
  | some status =>
    simp only [replayExecution, ht] at h
    rcases Raising.bind_eq_error.1 h with hnot | ⟨_, hready, hrest⟩
    · obtain ⟨-, rfl⟩ := Raising.raiseIf_eq_error.1 hnot
      rfl
    · rw [Raising.raiseIf_eq_ok, not_not] at hready
      obtain ⟨hstart, hstarted⟩ := hs.start hmem hready
      have hself : (s.set t .running).states t = .running := by simp [DAGScheduler.set]
      rw [hstart, Raising.ok_bind] at hrest
      cases status with
      | succeeded =>
        obtain ⟨_, -, hsucceed, -⟩ := hstarted.succeed hmem hself
        rw [hsucceed] at hrest
        cases hrest
      | failed =>
        obtain ⟨_, -, -, hfail, -⟩ := hstarted.fail hmem hself
        rw [hfail] at hrest
        cases hrest

/-- A round keeps the invariant of the scheduler. -/
theorem replayExecution_consistent {t : String} (hs : s.Consistent) (hmem : t ∈ s.dag.taskIds)
    (h : replayExecution executions s t = .ok s') : s'.Consistent ∧ s'.dag = s.dag := by
  cases ht : executions t with
  | none =>
    rw [replayExecution, ht] at h
    obtain rfl := Raising.pure_eq_ok.1 h
    exact ⟨hs, rfl⟩
  | some status =>
    simp only [replayExecution, ht, Raising.bind_eq_ok, Raising.raiseIf_eq_ok, not_not] at h
    obtain ⟨_, hready, s₁, hstart', hrest⟩ := h
    obtain ⟨hstart, hstarted⟩ := hs.start hmem hready
    obtain rfl := Except.ok.inj (hstart.symm.trans hstart')
    have hself : (s.set t .running).states t = .running := by simp [DAGScheduler.set]
    cases status with
    | succeeded =>
      obtain ⟨_, -, hsucceed, hconsistent⟩ := hstarted.succeed hmem hself
      obtain rfl := Except.ok.inj (hsucceed.symm.trans hrest)
      exact ⟨hconsistent, rfl⟩
    | failed =>
      obtain ⟨_, -, -, hfail, hconsistent⟩ := hstarted.fail hmem hself
      obtain rfl := Except.ok.inj (hfail.symm.trans hrest)
      exact ⟨hconsistent, rfl⟩

/-- **A reconstruction that is rejected is rejected as corruption.** -/
theorem reconstructScheduler_eq_error {failure : Failure}
    (h : reconstructScheduler dag executions = .error failure) :
    failure.kind = .persistenceCorruption := by
  obtain ⟨s₀, hcreate, hconsistent, hdag⟩ := DAGScheduler.exists_create dag
  rw [reconstructScheduler, hcreate, Raising.ok_bind] at h
  have hknown : ∀ t ∈ dag.topologicalOrder, t ∈ dag.taskIds :=
    fun t => (TaskDAG.mem_topologicalOrder dag).1
  generalize dag.topologicalOrder = rest at h hknown
  clear hcreate
  induction rest generalizing s₀ with
  | nil => cases h
  | cons t rest ih =>
    rw [List.foldlM_cons] at h
    obtain ⟨ht, hknown⟩ := List.forall_mem_cons.1 hknown
    rcases Raising.bind_eq_error.1 h with hround | ⟨s₁, hround, hrest⟩
    · exact replayExecution_eq_error hconsistent (hdag ▸ ht) hround
    · obtain ⟨hconsistent₁, hdag₁⟩ :=
        replayExecution_consistent hconsistent (hdag ▸ ht) hround
      exact ih s₁ hconsistent₁ (hdag₁.trans hdag) hrest hknown

/-! ### The sets of the planner -/

/-- The recovery plan assesses every task of the graph, and no other, with its
execution. -/
structure Assesses (dag : TaskDAG) (executions : String → Option ExecutionStatus)
    (recovery : RunRecoveryPlan) : Prop where
  status : ∀ item ∈ recovery.tasks, item.taskId ∈ dag.taskIds ∧
    item.workerExecutionStatus = executions item.taskId
  covers : ∀ t ∈ dag.taskIds, ∃ item ∈ recovery.tasks, item.taskId = t

theorem Assesses.mem_having {recovery : RunRecoveryPlan} (h : Assesses dag executions recovery)
    {status : ExecutionStatus} {t : String} :
    t ∈ recovery.having status ↔ t ∈ dag.taskIds ∧ executions t = some status := by
  rw [RunRecoveryPlan.having, List.mem_map]
  constructor
  · rintro ⟨item, hitem, rfl⟩
    obtain ⟨hitem, hstatus⟩ := List.mem_filter.1 hitem
    obtain ⟨hmem, heq⟩ := h.status item hitem
    exact ⟨hmem, heq ▸ of_decide_eq_true hstatus⟩
  · rintro ⟨hmem, hstatus⟩
    obtain ⟨item, hitem, rfl⟩ := h.covers t hmem
    exact ⟨item, List.mem_filter.2 ⟨hitem, by simp [(h.status item hitem).2, hstatus]⟩, rfl⟩

/-- The four sets of tasks of the scheduler are those given. -/
structure SameSets (s : DAGScheduler) (completed failed blocked ready : List String) : Prop where
  succeeded : ∀ t ∈ s.dag.taskIds, s.states t = .succeeded ↔ t ∈ completed
  failed : ∀ t ∈ s.dag.taskIds, s.states t = .failed ↔ t ∈ failed
  blocked : ∀ t ∈ s.dag.taskIds, s.states t = .blocked ↔ t ∈ blocked
  ready : ∀ t ∈ s.dag.taskIds, s.states t = .ready ↔ t ∈ ready

/-- **The planner derives the sets of the scheduler.** -/
theorem ReplayedTo.sameSets (h : ReplayedTo dag executions dag.topologicalOrder s)
    {recovery : RunRecoveryPlan} (hassesses : Assesses dag executions recovery) :
    ∃ blocked ready, dag.blockedTaskIds (recovery.having .failed) = .ok blocked ∧
      dag.readyTaskIds (recovery.having .succeeded) (recovery.having .failed) = .ok ready ∧
      SameSets s (recovery.having .succeeded) (recovery.having .failed) blocked ready := by
  obtain ⟨hdag, hs, hsucceeded, hfailed, hrunning⟩ := h
  subst hdag
  have hin : ∀ t ∈ s.dag.taskIds, t ∈ s.dag.topologicalOrder :=
    fun t => (TaskDAG.mem_topologicalOrder s.dag).2
  have hcompleted : ∀ t, t ∈ recovery.having .succeeded ↔
      t ∈ s.dag.taskIds ∧ s.states t = .succeeded := by
    intro t
    rw [hassesses.mem_having]
    exact and_congr_right fun ht => by simp [hsucceeded t ht, hin t ht]
  have hfails : ∀ t, t ∈ recovery.having .failed ↔ t ∈ s.dag.taskIds ∧ s.states t = .failed := by
    intro t
    rw [hassesses.mem_having]
    exact and_congr_right fun ht => by simp [hfailed t ht, hin t ht]
  have habove : ∀ t, (∃ a ∈ recovery.having .failed, s.dag.Ancestor a t) ↔ s.FailedAbove t := by
    intro t
    constructor
    · rintro ⟨a, ha, hpath⟩
      exact ⟨a, hpath, ((hfails a).1 ha).2⟩
    · rintro ⟨a, hpath, ha⟩
      rcases Relation.TransGen.head'_iff.1 hpath with ⟨_, hedge, -⟩
      exact ⟨a, (hfails a).2 ⟨hedge.mem_left, ha⟩, hpath⟩
  have hconsistent : ¬s.dag.Inconsistent (recovery.having .succeeded) (recovery.having .failed) := by
    rintro ⟨t, ht, hfailed' | hfailed'⟩
    · have hboth := ((hcompleted t).1 ht).2.symm.trans ((hfails t).1 hfailed').2
      cases hboth
    · refine hs.toSettled.not_failedAbove (t := t) ?_ ((habove t).1 hfailed')
      rw [((hcompleted t).1 ht).2]
      rfl
  obtain ⟨blocked, hblocked⟩ := TaskDAG.exists_blockedTaskIds
    fun t ht => ((hfails t).1 ht).1
  obtain ⟨ready, hready⟩ := TaskDAG.exists_readyTaskIds (fun t ht => ((hcompleted t).1 ht).1)
    (fun t ht => ((hfails t).1 ht).1) hconsistent
  refine ⟨blocked, ready, hblocked, hready, fun t ht => ?_, fun t ht => ?_, fun t ht => ?_,
    fun t ht => ?_⟩
  · rw [hcompleted]
    simp [ht]
  · rw [hfails]
    simp [ht]
  · rw [TaskDAG.mem_blockedTaskIds hblocked, habove, hs.blocked t ht]
    refine ⟨fun h => ⟨fun hfail => ?_, h⟩, fun h => h.2⟩
    exact hs.toSettled.not_failedAbove (by rw [((hfails t).1 hfail).2]; rfl) h
  · rw [TaskDAG.mem_readyTaskIds hready, habove]
    constructor
    · intro hstate
      refine ⟨ht, fun h => ?_, fun h => ?_, hs.toSettled.not_failedAbove (by rw [hstate]; rfl),
        fun d hedge => ?_⟩
      · rw [((hcompleted t).1 h).2] at hstate
        cases hstate
      · rw [((hfails t).1 h).2] at hstate
        cases hstate
      · exact (hcompleted d).2 ⟨hedge.mem_left, hs.released t ht (by rw [hstate]; rfl) d hedge⟩
    · rintro ⟨-, hnot, hnot', hfree, hdeps⟩
      have hpending : s.states t ≠ .pending := by
        rw [Ne, hs.pending t ht]
        rintro ⟨⟨d, hedge, hd⟩, -⟩
        exact hd ((hcompleted d).1 (hdeps d hedge)).2
      have hblocked' : s.states t ≠ .blocked := by
        rw [Ne, hs.blocked t ht]
        exact hfree
      have hsucceeded' : s.states t ≠ .succeeded := fun h => hnot ((hcompleted t).2 ⟨ht, h⟩)
      have hfailed' : s.states t ≠ .failed := fun h => hnot' ((hfails t).2 ⟨ht, h⟩)
      have hrunning' := hrunning t ht
      revert hpending hblocked' hsucceeded' hfailed' hrunning'
      cases s.states t <;> simp

/-! ### The order of the evidence -/

namespace Controller

/-- The row is accepted WORKER_EXECUTION evidence of the run. -/
def Accepts (db : Database RunContent) (row : EvidenceRow RunContent) (evidence : Execution) :
    Prop :=
  row.kind = .workerExecution ∧ row.payload = .workerExecution evidence ∧
    evidence.runId = db.runId ∧ evidence.taskId ∈ db.taskIds

/-- **One round of `_terminal_executions`.** -/
theorem addTerminalExecution_eq_ok {db : Database RunContent} {known known' : List Execution}
    {row : EvidenceRow RunContent} : addTerminalExecution db known row = .ok known' ↔
      (row.kind ≠ .workerExecution ∧ known' = known) ∨
      ∃ evidence, Accepts db row evidence ∧
        ((executionOf known evidence.taskId = none ∧ known' = known ++ [evidence]) ∨
          (executionOf known evidence.taskId = some evidence ∧ known' = known)) := by
  unfold addTerminalExecution Accepts
  by_cases hkind : row.kind = .workerExecution
  · rw [if_neg (not_not.2 hkind)]
    cases hpayload : row.payload with
    | workerExecution evidence =>
      simp only [Raising.bind_eq_ok, Raising.raiseIf_eq_ok, not_or, not_not, hkind, true_and,
        ne_eq, not_true_eq_false, false_and, false_or, Payload.workerExecution.injEq]
      constructor
      · rintro ⟨_, hidentity, h⟩
        refine ⟨evidence, ⟨rfl, hidentity⟩, ?_⟩
        cases hfind : executionOf known evidence.taskId with
        | none =>
          rw [hfind] at h
          exact Or.inl ⟨rfl, (Raising.pure_eq_ok.1 h).symm⟩
        | some existing =>
          rw [hfind] at h
          simp only [Raising.bind_eq_ok, Raising.raiseIf_eq_ok, not_not, Raising.pure_eq_ok] at h
          obtain ⟨_, rfl, rfl⟩ := h
          exact Or.inr ⟨rfl, rfl⟩
      · rintro ⟨_, ⟨rfl, hidentity⟩, ⟨hfind, rfl⟩ | ⟨hfind, rfl⟩⟩
        · exact ⟨(), hidentity, by rw [hfind]; rfl⟩
        · refine ⟨(), hidentity, ?_⟩
          rw [hfind]
          dsimp only
          rw [Raising.raiseIf_of_not (by simp), Raising.ok_bind]
          rfl
    | dispatchEvent event => simp [hkind]
    | other model content => simp [hkind]
  · rw [if_pos hkind, Raising.pure_eq_ok]
    simp [hkind, eq_comm]

/-- The executions that were read are those of the rows. -/
def Shows (db : Database RunContent) (rows : List (EvidenceRow RunContent))
    (known : List Execution) : Prop :=
  ∀ t evidence, executionOf known t = some evidence ↔
    evidence.taskId = t ∧ ∃ row ∈ rows, Accepts db row evidence

/-- What `_terminal_executions` asks of the rows: all of them are of the run, and
those of one task carry the same evidence. -/
structure Fits (db : Database RunContent) (rows : List (EvidenceRow RunContent)) : Prop where
  accepts : ∀ row ∈ rows, row.kind = .workerExecution → ∃ evidence, Accepts db row evidence
  agrees : ∀ row ∈ rows, ∀ row' ∈ rows, ∀ evidence evidence', Accepts db row evidence →
    Accepts db row' evidence' → evidence.taskId = evidence'.taskId → evidence = evidence'

theorem Accepts.unique {db : Database RunContent} {row : EvidenceRow RunContent}
    {evidence evidence' : Execution} (h : Accepts db row evidence)
    (h' : Accepts db row evidence') : evidence = evidence' := by
  have heq := h.2.1.symm.trans h'.2.1
  exact Payload.workerExecution.inj heq

theorem executionOf_taskId {known : List Execution} {t : String} {evidence : Execution}
    (h : executionOf known t = some evidence) : evidence.taskId = t := by
  simpa using List.find?_some h

theorem executionOf_append {known : List Execution} {new : Execution} {t : String}
    (h : executionOf known new.taskId = none) : executionOf (known ++ [new]) t =
      if new.taskId = t then some new else executionOf known t := by
  unfold executionOf at h ⊢
  rw [List.find?_append]
  by_cases ht : new.taskId = t
  · subst ht
    simp [h]
  · simp [ht]

/-- A round that returns shows one row more. -/
theorem Shows.add {db : Database RunContent} {rows : List (EvidenceRow RunContent)}
    {known known' : List Execution} {row : EvidenceRow RunContent} (h : Shows db rows known)
    (hround : addTerminalExecution db known row = .ok known') : Shows db (rows ++ [row]) known' := by
  intro t evidence
  rcases addTerminalExecution_eq_ok.1 hround with ⟨hkind, rfl⟩ | ⟨new, hnew, hcase⟩
  · rw [h t evidence]
    refine and_congr_right fun _ => ⟨fun ⟨old, hold, hacc⟩ => ⟨old, by simp [hold], hacc⟩, ?_⟩
    rintro ⟨old, hold, hacc⟩
    rcases List.mem_append.1 hold with hold | hold
    · exact ⟨old, hold, hacc⟩
    · obtain rfl := List.mem_singleton.1 hold
      exact absurd hacc.1 hkind
  · have hrows : (∃ old ∈ rows ++ [row], Accepts db old evidence) ↔
        (∃ old ∈ rows, Accepts db old evidence) ∨ evidence = new := by
      constructor
      · rintro ⟨old, hold, hacc⟩
        rcases List.mem_append.1 hold with hold | hold
        · exact Or.inl ⟨old, hold, hacc⟩
        · obtain rfl := List.mem_singleton.1 hold
          exact Or.inr (hacc.unique hnew)
      · rintro (⟨old, hold, hacc⟩ | rfl)
        · exact ⟨old, by simp [hold], hacc⟩
        · exact ⟨row, by simp, hnew⟩
    rw [hrows]
    rcases hcase with ⟨hfind, rfl⟩ | ⟨hfind, rfl⟩
    · rw [executionOf_append hfind]
      split_ifs with ht
      · subst ht
        constructor
        · rintro ⟨⟩
          exact ⟨rfl, Or.inr rfl⟩
        · rintro ⟨ht, hold | rfl⟩
          · rw [(h new.taskId evidence).2 ⟨ht, hold⟩] at hfind
            cases hfind
          · rfl
      · rw [h t evidence]
        refine and_congr_right fun hid => ⟨Or.inl, fun hor => hor.resolve_right ?_⟩
        rintro rfl
        exact ht hid
    · rw [h t evidence]
      refine and_congr_right fun _ => ⟨Or.inl, fun hor => hor.elim id ?_⟩
      rintro rfl
      exact ((h evidence.taskId evidence).1 hfind).2

/-- A round on rows that fit returns. -/
theorem Shows.exists_add {db : Database RunContent} {rows : List (EvidenceRow RunContent)}
    {known : List Execution} {row : EvidenceRow RunContent} (h : Shows db rows known)
    (hfits : Fits db (rows ++ [row])) :
    ∃ known', addTerminalExecution db known row = .ok known' := by
  by_cases hkind : row.kind = .workerExecution
  · obtain ⟨evidence, hacc⟩ := hfits.accepts row (by simp) hkind
    cases hfind : executionOf known evidence.taskId with
    | none =>
      exact ⟨_, addTerminalExecution_eq_ok.2 (Or.inr ⟨evidence, hacc, Or.inl ⟨hfind, rfl⟩⟩)⟩
    | some existing =>
      obtain ⟨hid, old, hold, hacc'⟩ := (h evidence.taskId existing).1 hfind
      obtain rfl := hfits.agrees old (by simp [hold]) row (by simp) existing evidence hacc' hacc hid
      exact ⟨_, addTerminalExecution_eq_ok.2 (Or.inr ⟨existing, hacc, Or.inr ⟨hfind, rfl⟩⟩)⟩
  · exact ⟨known, addTerminalExecution_eq_ok.2 (Or.inl ⟨hkind, rfl⟩)⟩

/-- **The loop on rows that fit**, by induction on the rows that are left. -/
theorem exists_foldlM_add {db : Database RunContent} (rest : List (EvidenceRow RunContent))
    {rows : List (EvidenceRow RunContent)} {known : List Execution} (h : Shows db rows known) (hfits : Fits db (rows ++ rest)) :
    ∃ known', rest.foldlM (addTerminalExecution db) known = .ok known' ∧
      Shows db (rows ++ rest) known' := by
  induction rest generalizing rows known with
  | nil => exact ⟨known, rfl, by simpa using h⟩
  | cons row rest ih =>
    have hsplit : rows ++ row :: rest = (rows ++ [row]) ++ rest := by simp
    have hpart : Fits db (rows ++ [row]) := by
      rw [hsplit] at hfits
      exact ⟨fun r hr => hfits.accepts r (List.mem_append_left _ hr), fun r hr r' hr' =>
        hfits.agrees r (List.mem_append_left _ hr) r' (List.mem_append_left _ hr')⟩
    obtain ⟨known₁, hround⟩ := h.exists_add hpart
    obtain ⟨known', hfold, hshows⟩ := ih (h.add hround) (hsplit ▸ hfits)
    refine ⟨known', ?_, hsplit ▸ hshows⟩
    rw [List.foldlM_cons, hround, Raising.ok_bind, hfold]

/-- Rows on which the loop returned fit. -/
theorem fits_of_foldlM {db : Database RunContent} {rest rows : List (EvidenceRow RunContent)}
    {known known' : List Execution} (h : Shows db rows known) (hfits : Fits db rows)
    (hfold : rest.foldlM (addTerminalExecution db) known = .ok known') :
    Fits db (rows ++ rest) ∧ Shows db (rows ++ rest) known' := by
  induction rest generalizing rows known with
  | nil =>
    rw [List.foldlM_nil, Raising.pure_eq_ok] at hfold
    subst hfold
    exact ⟨by simpa using hfits, by simpa using h⟩
  | cons row rest ih =>
    have hsplit : rows ++ row :: rest = (rows ++ [row]) ++ rest := by simp
    rw [List.foldlM_cons, Raising.bind_eq_ok] at hfold
    obtain ⟨known₁, hround, hfold⟩ := hfold
    rw [hsplit]
    have hshows := h.add hround
    refine ih hshows ⟨fun r hr hkind => ?_, fun r hr r' hr' e e' he he' hid => ?_⟩ hfold
    · rcases List.mem_append.1 hr with hr | hr
      · exact hfits.accepts r hr hkind
      · obtain rfl := List.mem_singleton.1 hr
        rcases addTerminalExecution_eq_ok.1 hround with ⟨hnot, -⟩ | ⟨evidence, hacc, -⟩
        · exact absurd hkind hnot
        · exact ⟨evidence, hacc⟩
    · have hfind := (hshows e.taskId e).2 ⟨rfl, r, hr, he⟩
      have hfind' := (hshows e.taskId e').2 ⟨hid.symm, r', hr', he'⟩
      exact Option.some.inj (hfind.symm.trans hfind')

/-- **The statuses do not depend on the order of the rows.** -/
theorem terminalExecutions_perm {db db' : Database RunContent}
    (hrun : db'.runId = db.runId) (htasks : db'.taskIds = db.taskIds)
    (hperm : db'.evidence.Perm db.evidence) {known : List Execution}
    (h : terminalExecutions db = .ok known) :
    ∃ known', terminalExecutions db' = .ok known' ∧ statusOf known' = statusOf known := by
  have hempty : ∀ db : Database RunContent, Shows db [] [] := by
    intro db t evidence
    simp [executionOf]
  have hnone : Fits db [] := ⟨by simp, by simp⟩
  obtain ⟨hfits, hshows⟩ := fits_of_foldlM (hempty db) hnone h
  rw [List.nil_append] at hfits hshows
  have haccepts : ∀ row evidence, Accepts db' row evidence ↔ Accepts db row evidence := by
    intro row evidence
    unfold Accepts
    rw [hrun, htasks]
  have hfits' : Fits db' db'.evidence := by
    refine ⟨fun row hrow hkind => ?_, fun row hrow row' hrow' e e' he he' hid => ?_⟩
    · obtain ⟨evidence, hacc⟩ := hfits.accepts row (hperm.mem_iff.1 hrow) hkind
      exact ⟨evidence, (haccepts row evidence).2 hacc⟩
    · exact hfits.agrees row (hperm.mem_iff.1 hrow) row' (hperm.mem_iff.1 hrow') e e'
        ((haccepts row e).1 he) ((haccepts row' e').1 he') hid
  obtain ⟨known', hfold, hshows'⟩ := exists_foldlM_add db'.evidence (hempty db') hfits'
  rw [List.nil_append] at hshows'
  refine ⟨known', hfold, funext fun t => ?_⟩
  have hsame : executionOf known' t = executionOf known t := by
    refine Option.ext fun evidence => ?_
    rw [hshows' t evidence, hshows t evidence]
    refine and_congr_right fun _ => exists_congr fun row => ?_
    rw [hperm.mem_iff, haccepts]
  rw [statusOf, statusOf, hsame]

end Controller

/-- **The scheduler and the planner agree.**  A dependency-closed map of executions is
replayed, and the SUCCEEDED, FAILED, BLOCKED and READY tasks are the sets that
`build_plan` derives from the graph and the same map, and shows in its plan; a map
that is not closed is rejected as corruption; and the order of the evidence rows
does not matter. -/
theorem scheduler_agrees_with_planner (dag : TaskDAG)
    (executions : String → Option ExecutionStatus) :
    (DependencyClosed dag executions → ∃ s, reconstructScheduler dag executions = .ok s ∧
      s.dag = dag ∧ ∀ recovery, Assesses dag executions recovery →
        (∃ blocked ready, dag.blockedTaskIds (recovery.having .failed) = .ok blocked ∧
          dag.readyTaskIds (recovery.having .succeeded) (recovery.having .failed) = .ok ready ∧
          SameSets s (recovery.having .succeeded) (recovery.having .failed) blocked ready) ∧
        ∀ runId status snapshotTaskIds resolve plan,
          buildPlan runId status snapshotTaskIds dag recovery resolve = .ok plan →
          SameSets s plan.completedTaskIds plan.failedTaskIds plan.blockedTaskIds
            plan.readyTaskIds) ∧
    (¬DependencyClosed dag executions → ∃ failure,
      reconstructScheduler dag executions = .error failure ∧
        failure.kind = .persistenceCorruption) ∧
    ∀ db db' : Database RunContent, db'.runId = db.runId → db'.taskIds = db.taskIds →
      db'.evidence.Perm db.evidence → ∀ known, Controller.terminalExecutions db = .ok known →
      ∃ known', Controller.terminalExecutions db' = .ok known' ∧
        reconstructScheduler dag (statusOf known') = reconstructScheduler dag (statusOf known) := by
  refine ⟨fun hclosed => ?_, fun hopen => ?_, fun db db' hrun htasks hperm known hknown => ?_⟩
  · obtain ⟨s, hs, hreplayed⟩ := hclosed.reconstruct
    refine ⟨s, hs, hreplayed.graph, fun recovery hassesses => ?_⟩
    obtain ⟨blocked, ready, hblocked, hready, hsets⟩ := hreplayed.sameSets hassesses
    refine ⟨⟨blocked, ready, hblocked, hready, hsets⟩, ?_⟩
    intro runId status snapshotTaskIds resolve plan hplan
    simp only [buildPlan, Raising.bind_eq_ok, Raising.pure_eq_ok, Raising.mapError_eq_ok] at hplan
    obtain ⟨_, -, _, -, _, -, blocked', hblocked', ready', hready', _, -, records, -, _, -, rfl⟩ :=
      hplan
    obtain rfl := Except.ok.inj (hblocked.symm.trans hblocked')
    obtain rfl := Except.ok.inj (hready.symm.trans hready')
    have hin : ∀ t ∈ s.dag.taskIds, t ∈ dag.topologicalOrder := fun t ht =>
      (TaskDAG.mem_topologicalOrder dag).2 (hreplayed.graph ▸ ht)
    have hkeep : ∀ (l : List String), ∀ t ∈ s.dag.taskIds,
        (t ∈ dag.topologicalOrder.filter (fun t => t ∈ l) ↔ t ∈ l) := by
      intro l t ht
      simp [hin t ht]
    refine ⟨fun t ht => ?_, fun t ht => ?_, fun t ht => ?_, fun t ht => ?_⟩ <;> dsimp only
    · rw [hkeep _ t ht]
      exact hsets.succeeded t ht
    · rw [hkeep _ t ht]
      exact hsets.failed t ht
    · rw [hkeep _ t ht]
      exact hsets.blocked t ht
    · rw [hkeep _ t ht]
      exact hsets.ready t ht
  · cases h : reconstructScheduler dag executions with
    | ok s => exact absurd (dependencyClosed_of_reconstruct h) hopen
    | error failure => exact ⟨failure, rfl, reconstructScheduler_eq_error h⟩
  · obtain ⟨known', hknown', hstatus⟩ := Controller.terminalExecutions_perm hrun htasks hperm hknown
    exact ⟨known', hknown', by rw [hstatus]⟩

end DevFlow
