/-
# What is left of a graph behaves like the rest of it

`_remaining_session_dag` of `api/autonomous.py` drops the completed tasks and the
dependencies on them.  With `completed` closed under dependencies no path leads from a
remaining task through a completed one, so a remaining task has the same remaining
ancestors (`ancestor_left_iff`), and the queries of both graphs agree.

When the order of the graph has the completed tasks first, what follows is greedy in
what is left: a remaining task is available there as soon as it is in the graph.
-/

import DevFlow.Models.DagQueries
import DevFlow.Models.RemainingDag

namespace DevFlow

namespace TaskDAG

variable {dag left : TaskDAG} {completed done failed : List String}

/-- With a task its dependencies are completed. -/
def DependencyClosed (dag : TaskDAG) (completed : List String) : Prop :=
  ∀ d t, dag.Edge d t → t ∈ completed → d ∈ completed

/-- The nodes of what is left. -/
def pendingTasks (dag : TaskDAG) (completed : List String) : List TaskNode :=
  (dag.tasks.filter fun node => node.taskId ∉ completed).map
    fun node => node.withoutDependencies completed

theorem map_taskId_pendingTasks (dag : TaskDAG) (completed : List String) :
    (dag.pendingTasks completed).map TaskNode.taskId = dag.taskIds.filter (· ∉ completed) := by
  rw [pendingTasks, taskIds, List.map_map, List.filter_map]
  rfl

/-- **The edges of what is left** are those between remaining tasks. -/
theorem dependsOn_pendingTasks_iff {d t : String} :
    DependsOn (dag.pendingTasks completed) d t ↔
      dag.Edge d t ∧ d ∉ completed ∧ t ∉ completed := by
  constructor
  · rintro ⟨_, hnode, rfl, hdep⟩
    obtain ⟨original, horiginal, rfl⟩ := List.mem_map.1 hnode
    obtain ⟨hmem, hopen⟩ := List.mem_filter.1 horiginal
    obtain ⟨hdep, hd⟩ := List.mem_filter.1 hdep
    exact ⟨⟨original, hmem, rfl, hdep⟩, of_decide_eq_true hd, of_decide_eq_true hopen⟩
  · rintro ⟨⟨node, hnode, rfl, hdep⟩, hd, ht⟩
    refine ⟨node.withoutDependencies completed, List.mem_map_of_mem ?_, rfl, ?_⟩
    · exact List.mem_filter.2 ⟨hnode, decide_eq_true ht⟩
    · exact List.mem_filter.2 ⟨hdep, decide_eq_true hd⟩

theorem dependsOn_pendingTasks (dag : TaskDAG) (completed : List String) :
    DependsOn (dag.pendingTasks completed) =
      fun d t => dag.Edge d t ∧ d ∉ completed ∧ t ∉ completed :=
  funext fun _ => funext fun _ => propext dependsOn_pendingTasks_iff

theorem referencesValid_pendingTasks (dag : TaskDAG) (completed : List String) :
    ReferencesValid (dag.pendingTasks completed) := by
  have hids := map_taskId_pendingTasks dag completed
  refine ⟨hids ▸ dag.ids_nodup.filter _, fun node hnode d hd => ?_⟩
  obtain ⟨hedge, hopen, -⟩ := dependsOn_pendingTasks_iff.1 ⟨node, hnode, rfl, hd⟩
  rw [hids]
  exact List.mem_filter.2 ⟨hedge.mem_left, decide_eq_true hopen⟩

/-- What is left has no cycle, since it has no edge that the graph does not have. -/
theorem acyclic_pendingTasks (dag : TaskDAG) (completed : List String) :
    Orders.Acyclic (DependsOn (dag.pendingTasks completed)) := by
  have hacyclic := (length_kahnOrder_iff dag.referencesValid).1 dag.acyclic
  intro t hpath
  rw [dependsOn_pendingTasks] at hpath
  exact hacyclic t (Relation.TransGen.mono (fun _ _ hedge => hedge.1) t t hpath)

/-- **What is left is a graph** when a task is left. -/
theorem exists_remaining (hopen : ∃ t ∈ dag.taskIds, t ∉ completed) :
    ∃ left, dag.remaining completed = .ok (some left) ∧
      left.tasks = dag.pendingTasks completed := by
  have hvalid := referencesValid_pendingTasks dag completed
  have hpending : dag.tasks.filter (fun node => node.taskId ∉ completed) ≠ [] := by
    obtain ⟨t, ht, hfresh⟩ := hopen
    obtain ⟨node, hnode, rfl⟩ := List.mem_map.1 ht
    exact List.ne_nil_of_mem (List.mem_filter.2 ⟨hnode, decide_eq_true hfresh⟩)
  have hne : dag.pendingTasks completed ≠ [] :=
    fun h => hpending (List.map_eq_nil_iff.1 h)
  have hlength := (length_kahnOrder_iff hvalid).2 (acyclic_pendingTasks dag completed)
  refine ⟨⟨dag.pendingTasks completed, hne, hvalid.ids_nodup, hvalid.known, hlength⟩, ?_, rfl⟩
  unfold remaining
  dsimp only
  rw [if_neg hpending]
  have hall : dag.pendingTasks completed ≠ [] ∧
      ((dag.pendingTasks completed).map TaskNode.taskId).Nodup ∧
      (∀ node ∈ dag.pendingTasks completed, ∀ dependency ∈ node.dependsOn,
        dependency ∈ (dag.pendingTasks completed).map TaskNode.taskId) ∧
      (kahnOrder (dag.pendingTasks completed)).length = (dag.pendingTasks completed).length :=
    ⟨hne, hvalid.ids_nodup, hvalid.known, hlength⟩
  rw [← pendingTasks, ofTasks, dif_pos hall]
  rfl

/-! ### The queries -/

section left

variable (hleft : left.tasks = dag.pendingTasks completed)
include hleft

theorem taskIds_left : left.taskIds = dag.taskIds.filter (· ∉ completed) := by
  rw [taskIds, hleft, map_taskId_pendingTasks]

theorem mem_taskIds_left {t : String} : t ∈ left.taskIds ↔ t ∈ dag.taskIds ∧ t ∉ completed := by
  rw [taskIds_left hleft, List.mem_filter, decide_eq_true_eq]

theorem edge_left_iff {d t : String} :
    left.Edge d t ↔ dag.Edge d t ∧ d ∉ completed ∧ t ∉ completed := by
  rw [← dependsOn_pendingTasks_iff, ← hleft]
  rfl

/-- **A remaining task has the same remaining ancestors.** -/
theorem ancestor_left_iff (hclosed : dag.DependencyClosed completed) {a t : String}
    (ha : a ∉ completed) : left.Ancestor a t ↔ dag.Ancestor a t := by
  have hedge : left.Edge = fun d t => dag.Edge d t ∧ d ∉ completed ∧ t ∉ completed :=
    funext fun _ => funext fun _ => propext (edge_left_iff hleft)
  rw [Ancestor, hedge]
  exact Orders.transGen_outside_iff hclosed ha

/-- The same tasks are blocked. -/
theorem blocked_left_iff (hclosed : dag.DependencyClosed completed)
    (hfailed : ∀ t ∈ failed, t ∈ left.taskIds) (t : String) :
    Blocked left.tasks failed t ↔ Blocked dag.tasks failed t := by
  refine and_congr_right fun _ => exists_congr fun a => and_congr_right fun ha => ?_
  exact ancestor_left_iff hleft hclosed ((mem_taskIds_left hleft).1 (hfailed a ha)).2

/-- **`blocked_task_ids` returns the same set.** -/
theorem blockedTaskIds_left (hclosed : dag.DependencyClosed completed)
    (hfailed : ∀ t ∈ failed, t ∈ left.taskIds) :
    ∃ blocked blocked', left.blockedTaskIds failed = .ok blocked ∧
      dag.blockedTaskIds failed = .ok blocked' ∧ ∀ t, t ∈ blocked ↔ t ∈ blocked' := by
  obtain ⟨blocked, hblocked⟩ := exists_blockedTaskIds hfailed
  obtain ⟨blocked', hblocked'⟩ : ∃ blocked', dag.blockedTaskIds failed = .ok blocked' :=
    exists_blockedTaskIds fun t ht => ((mem_taskIds_left hleft).1 (hfailed t ht)).1
  refine ⟨blocked, blocked', hblocked, hblocked', fun t => ?_⟩
  rw [mem_blockedTaskIds hblocked, mem_blockedTaskIds hblocked']
  exact blocked_left_iff hleft hclosed hfailed t

theorem filter_failed (hfailed : ∀ t ∈ failed, t ∈ left.taskIds) :
    (completed ++ done).filter (fun t => t ∈ failed) = done.filter fun t => t ∈ failed := by
  have hnone : completed.filter (fun t => t ∈ failed) = [] := by
    rw [List.filter_eq_nil_iff]
    intro t ht hmem
    exact ((mem_taskIds_left hleft).1 (hfailed t (of_decide_eq_true hmem))).2 ht
  rw [List.filter_append, hnone, List.nil_append]

/-- No completed task is blocked, so both graphs find the same inconsistent tasks. -/
theorem filter_blocked (hclosed : dag.DependencyClosed completed)
    (hfailed : ∀ t ∈ failed, t ∈ left.taskIds) {blocked blocked' : List String}
    (hblocked' : dag.blockedTaskIds failed = .ok blocked')
    (hsame : ∀ t, t ∈ blocked ↔ t ∈ blocked') :
    (completed ++ done).filter (fun t => t ∈ blocked') = done.filter fun t => t ∈ blocked := by
  have hnone : completed.filter (fun t => t ∈ blocked') = [] := by
    rw [List.filter_eq_nil_iff]
    intro t ht hmem
    obtain ⟨-, a, ha, hpath⟩ := (mem_blockedTaskIds hblocked').1 (of_decide_eq_true hmem)
    have hopen := ((mem_taskIds_left hleft).1 (hfailed a ha)).2
    exact Orders.outside_of_transGen hclosed hopen hpath ht
  rw [List.filter_append, hnone, List.nil_append]
  exact List.filter_congr fun t _ => by rw [decide_eq_decide]; exact (hsame t).symm

/-- **`ready_task_ids` returns the same set, or raises the same error.** -/
theorem readyTaskIds_left (hclosed : dag.DependencyClosed completed)
    (hknown : ∀ t ∈ completed, t ∈ dag.taskIds) (hdone : ∀ t ∈ done, t ∈ left.taskIds)
    (hfailed : ∀ t ∈ failed, t ∈ left.taskIds) :
    List.toFinset <$> left.readyTaskIds done failed =
      List.toFinset <$> dag.readyTaskIds (completed ++ done) failed := by
  obtain ⟨blocked, blocked', hblocked, hblocked', hsame⟩ :=
    blockedTaskIds_left hleft hclosed hfailed
  have hall : ∀ t ∈ completed ++ done, t ∈ dag.taskIds := by
    intro t ht
    rcases List.mem_append.1 ht with ht | ht
    · exact hknown t ht
    · exact ((mem_taskIds_left hleft).1 (hdone t ht)).1
  have hfailed' : ∀ t ∈ failed, t ∈ dag.taskIds :=
    fun t ht => ((mem_taskIds_left hleft).1 (hfailed t ht)).1
  have hready : ∀ ready ready', left.readyTaskIds done failed = .ok ready →
      dag.readyTaskIds (completed ++ done) failed = .ok ready' →
      ready.toFinset = ready'.toFinset := by
    intro ready ready' h h'
    ext t
    rw [List.mem_toFinset, List.mem_toFinset, mem_readyTaskIds h, mem_readyTaskIds h',
      mem_taskIds_left hleft, List.mem_append, not_or]
    have hancestors : (∃ a ∈ failed, left.Ancestor a t) ↔ ∃ a ∈ failed, dag.Ancestor a t :=
      exists_congr fun a => and_congr_right fun ha =>
        ancestor_left_iff hleft hclosed ((mem_taskIds_left hleft).1 (hfailed a ha)).2
    have hdependencies : t ∉ completed → ((∀ d, left.Edge d t → d ∈ done) ↔
        ∀ d, dag.Edge d t → d ∈ completed ++ done) := by
      intro hopen
      refine forall_congr' fun d => ?_
      rw [edge_left_iff hleft, List.mem_append]
      tauto
    rw [hancestors]
    constructor
    · rintro ⟨⟨hmem, hopen⟩, hnew, hnot, hpath, hdeps⟩
      exact ⟨hmem, ⟨hopen, hnew⟩, hnot, hpath, (hdependencies hopen).1 hdeps⟩
    · rintro ⟨hmem, ⟨hopen, hnew⟩, hnot, hpath, hdeps⟩
      exact ⟨⟨hmem, hopen⟩, hnew, hnot, hpath, (hdependencies hopen).2 hdeps⟩
  unfold readyTaskIds at hready ⊢
  rw [validateRuntimeIds_eq_ok (u := ()).2 hdone, validateRuntimeIds_eq_ok (u := ()).2 hfailed,
    validateRuntimeIds_eq_ok (u := ()).2 hall, validateRuntimeIds_eq_ok (u := ()).2 hfailed']
    at hready ⊢
  simp only [Raising.ok_bind, filter_failed hleft hfailed, hblocked, hblocked',
    filter_blocked hleft hclosed hfailed hblocked' hsame] at hready ⊢
  by_cases hoverlap : done.filter (fun t => t ∈ failed) = []
  · by_cases hinconsistent : done.filter (fun t => t ∈ blocked) = []
    · simp only [Raising.raiseIf_of_not (not_not.2 hoverlap),
        Raising.raiseIf_of_not (not_not.2 hinconsistent), Raising.ok_bind] at hready ⊢
      exact congrArg Except.ok (hready _ _ rfl rfl)
    · simp only [Raising.raiseIf_of_not (not_not.2 hoverlap), Raising.raiseIf_of hinconsistent,
        Raising.ok_bind, Raising.error_bind]
  · simp only [Raising.raiseIf_of hoverlap, Raising.error_bind]

/-! ### The order -/

/-- What is available in the graph after the completed tasks is what is available in
what is left. -/
theorem available_left_iff {front : List String}
    (hfront : ∀ t, t ∈ front ↔ t ∈ dag.taskIds ∧ t ∈ completed) (taken : List String) (t : String) :
    Orders.Available (DependsOn dag.tasks) (dag.tasks.map TaskNode.taskId) (front ++ taken) t ↔
      Orders.Available (DependsOn left.tasks) (left.tasks.map TaskNode.taskId) taken t := by
  have hids : ∀ u, u ∈ left.tasks.map TaskNode.taskId ↔ u ∈ dag.taskIds ∧ u ∉ completed :=
    fun u => mem_taskIds_left hleft
  have hedges : ∀ d u, DependsOn left.tasks d u ↔ dag.Edge d u ∧ d ∉ completed ∧ u ∉ completed :=
    fun d u => edge_left_iff hleft
  constructor
  · rintro ⟨hmem, hfresh, hsettled⟩
    rw [List.mem_append, not_or] at hfresh
    have hopen : t ∉ completed := fun ht => hfresh.1 ((hfront t).2 ⟨hmem, ht⟩)
    refine ⟨(hids t).2 ⟨hmem, hopen⟩, hfresh.2, fun d hd => ?_⟩
    obtain ⟨hedge, hdopen, -⟩ := (hedges d t).1 hd
    exact (List.mem_append.1 (hsettled d hedge)).resolve_left fun h => hdopen ((hfront d).1 h).2
  · rintro ⟨hmem, hfresh, hsettled⟩
    obtain ⟨hmem, hopen⟩ := (hids t).1 hmem
    refine ⟨hmem, ?_, fun d hd => ?_⟩
    · rw [List.mem_append, not_or]
      exact ⟨fun h => hopen ((hfront t).1 h).2, hfresh⟩
    · rw [List.mem_append]
      by_cases hdone : d ∈ completed
      · exact Or.inl ((hfront d).2 ⟨TaskDAG.Edge.mem_left hd, hdone⟩)
      · exact Or.inr (hsettled d ((hedges d t).2 ⟨hd, hdone, hopen⟩))

/-- **The order of what is left** is what follows in the order of the graph, when the
completed tasks come first there. -/
theorem topologicalOrder_left
    (hfirst : dag.topologicalOrder.Pairwise fun s t => t ∈ completed → s ∈ completed) :
    left.topologicalOrder = dag.topologicalOrder.filter (· ∉ completed) := by
  have hsplit : dag.topologicalOrder = dag.topologicalOrder.filter (· ∈ completed) ++
      dag.topologicalOrder.filter (· ∉ completed) :=
    Orders.filter_append_filter hfirst
  have hgreedy := kahnOrder_greedy dag.ids_nodup
  change Orders.Greedy _ _ _ dag.topologicalOrder at hgreedy
  rw [hsplit] at hgreedy
  have hfront : ∀ t, t ∈ dag.topologicalOrder.filter (· ∈ completed) ↔
      t ∈ dag.taskIds ∧ t ∈ completed := by
    intro t
    rw [List.mem_filter, mem_topologicalOrder, decide_eq_true_eq]
  have hrest : Orders.Greedy (DependsOn left.tasks) (left.tasks.map TaskNode.taskId) []
      (dag.topologicalOrder.filter (· ∉ completed)) := by
    refine Orders.Greedy.shift (available_left_iff hleft hfront) ?_
    simpa using hgreedy.of_append
  have hlength : (dag.topologicalOrder.filter (· ∉ completed)).length =
      (left.tasks.map TaskNode.taskId).length := by
    have hperm := dag.topologicalOrder_perm.filter (· ∉ completed)
    rw [← taskIds_left hleft] at hperm
    exact hperm.length_eq
  have hleast := hrest.isLeast left.ids_nodup hlength
  exact (kahnOrder_isLeast left.ids_nodup left.acyclic).unique hleast

end left

/-- **What is left of a graph is a graph that behaves like the rest of it.** -/
theorem remaining_behaves (dag : TaskDAG) (completed : List String)
    (hclosed : dag.DependencyClosed completed) (hknown : ∀ t ∈ completed, t ∈ dag.taskIds)
    (hopen : ∃ t ∈ dag.taskIds, t ∉ completed) :
    ∃ left, dag.remaining completed = .ok (some left) ∧
      left.taskIds = dag.taskIds.filter (· ∉ completed) ∧
      (∀ done failed, (∀ t ∈ done, t ∈ left.taskIds) → (∀ t ∈ failed, t ∈ left.taskIds) →
        List.toFinset <$> left.readyTaskIds done failed =
          List.toFinset <$> dag.readyTaskIds (completed ++ done) failed ∧
        List.toFinset <$> left.blockedTaskIds failed =
          List.toFinset <$> dag.blockedTaskIds failed) ∧
      ((dag.topologicalOrder.Pairwise fun s t => t ∈ completed → s ∈ completed) →
        left.topologicalOrder = dag.topologicalOrder.filter (· ∉ completed)) := by
  obtain ⟨left, hremaining, hleft⟩ := exists_remaining hopen
  refine ⟨left, hremaining, taskIds_left hleft, fun done failed hdone hfailed => ⟨?_, ?_⟩,
    topologicalOrder_left hleft⟩
  · exact readyTaskIds_left hleft hclosed hknown hdone hfailed
  · obtain ⟨blocked, blocked', hblocked, hblocked', hsame⟩ :=
      blockedTaskIds_left hleft hclosed hfailed
    rw [hblocked, hblocked']
    have hsets : blocked.toFinset = blocked'.toFinset := by
      ext t
      rw [List.mem_toFinset, List.mem_toFinset, hsame]
    exact congrArg Except.ok hsets

/-! ### A chain -/

/-- Three tasks, each with the one before it as its dependency. -/
def chainDag : TaskDAG where
  tasks := [{ taskId := "a", dependsOn := [], taskId_pattern := isTaskId_a },
    { taskId := "b", dependsOn := ["a"], taskId_pattern := isTaskId_b },
    { taskId := "c", dependsOn := ["b"], dependsOn_nodup := nodup_b }]

theorem dependencyClosed_chainDag : chainDag.DependencyClosed ["a"] := by
  rintro d t ⟨node, hnode, rfl, hdep⟩ ht
  simp only [chainDag, List.mem_cons, List.not_mem_nil, or_false] at hnode
  rcases hnode with rfl | rfl | rfl
  · cases hdep
  · exact absurd ht (by decide)
  · exact absurd ht (by decide)

theorem remaining_behaves_chainDag :
    ∃ left, chainDag.remaining ["a"] = .ok (some left) ∧
      left.taskIds = chainDag.taskIds.filter (· ∉ ["a"]) ∧
      (∀ done failed, (∀ t ∈ done, t ∈ left.taskIds) → (∀ t ∈ failed, t ∈ left.taskIds) →
        List.toFinset <$> left.readyTaskIds done failed =
          List.toFinset <$> chainDag.readyTaskIds (["a"] ++ done) failed ∧
        List.toFinset <$> left.blockedTaskIds failed =
          List.toFinset <$> chainDag.blockedTaskIds failed) ∧
      ((chainDag.topologicalOrder.Pairwise fun s t => t ∈ ["a"] → s ∈ ["a"]) →
        left.topologicalOrder = chainDag.topologicalOrder.filter (· ∉ ["a"])) :=
  remaining_behaves chainDag ["a"] dependencyClosed_chainDag (by decide) ⟨"b", by decide, by decide⟩

end TaskDAG

end DevFlow
