/-
# The topological order is a permutation of the tasks

`topological_order` of `models/dag.py` counts open dependencies.  At the head of
its loop a task is ordered, in the heap, or has as many open dependencies as
its counter says (`OrderState.Valid`); inside the loop over the dependents of
the task that was just ordered, those that are still to be released have one
more (`OrderState.Releasing`).  So no task is ordered twice, and a validated
graph, whose order is as long as its list of tasks, orders every task once.
-/

import DevFlow.Models.Dag
import Mathlib.Data.List.Dedup

namespace DevFlow

variable {tasks : List TaskNode} {done rest : List String} {state : OrderState}

/-- The dependencies that are not ordered yet. -/
def openDependencies (done : List String) (node : TaskNode) : List String :=
  node.dependsOn.filter (· ∉ done)

/-- The loop over the dependents: `rest` are those to be released. -/
structure OrderState.Releasing (tasks : List TaskNode) (done rest : List String)
    (state : OrderState) : Prop where
  nodup : (done ++ state.ready).Nodup
  known : ∀ t ∈ state.ready, t ∈ tasks.map TaskNode.taskId
  settled : ∀ node ∈ tasks, node.taskId ∈ done ∨ node.taskId ∈ state.ready →
    node.dependsOn ⊆ done
  rest_nodup : rest.Nodup
  rest_open : ∀ t ∈ rest, t ∈ tasks.map TaskNode.taskId ∧ t ∉ done ∧ t ∉ state.ready
  waiting : ∀ node ∈ tasks, node.taskId ∉ done → node.taskId ∉ state.ready →
    state.indegree node.taskId =
        (openDependencies done node).length + (if node.taskId ∈ rest then 1 else 0) ∧
      (node.taskId ∉ rest → openDependencies done node ≠ [])

/-- The head of the loop. -/
def OrderState.Valid (tasks : List TaskNode) (done : List String) (state : OrderState) : Prop :=
  state.Releasing tasks done []

theorem openDependencies_eq_nil {node : TaskNode} :
    openDependencies done node = [] ↔ node.dependsOn ⊆ done := by
  simp [openDependencies, List.filter_eq_nil_iff, List.subset_def]

theorem OrderState.mem_release_ready {t x : String} :
    x ∈ (state.release t).ready ↔
      x ∈ state.ready ∨ (x = t ∧ state.indegree t - 1 = 0) := by
  unfold OrderState.release
  dsimp only
  split_ifs with hzero
  · rw [List.mem_orderedInsert]
    simp [hzero, or_comm]
  · simp [hzero]

theorem OrderState.release_ready_nodup {t : String} (h : (done ++ state.ready).Nodup)
    (hdone : t ∉ done) (hready : t ∉ state.ready) : (done ++ (state.release t).ready).Nodup := by
  unfold OrderState.release
  dsimp only
  split_ifs
  · rw [List.Perm.nodup_iff ((List.perm_orderedInsert _ _ _).append_left done),
      List.Perm.nodup_iff List.perm_middle, List.nodup_cons]
    exact ⟨by simp [hdone, hready], h⟩
  · exact h

/-- One dependent is released. -/
theorem OrderState.Releasing.release (hids : (tasks.map TaskNode.taskId).Nodup) {t : String}
    (h : state.Releasing tasks done (t :: rest)) :
    (state.release t).Releasing tasks done rest := by
  obtain ⟨ht, htdone, htready⟩ := h.rest_open t List.mem_cons_self
  obtain ⟨htrest, hrest⟩ := List.nodup_cons.1 h.rest_nodup
  obtain ⟨node, hnode, rfl⟩ := List.mem_map.1 ht
  obtain ⟨hdegree, -⟩ := h.waiting node hnode htdone htready
  have hdegree : state.indegree node.taskId - 1 = (openDependencies done node).length := by
    simp only [List.mem_cons_self, if_true] at hdegree
    omega
  have hsame : ∀ other ∈ tasks, other.taskId = node.taskId → other = node :=
    fun other hother heq => List.inj_on_of_nodup_map hids hother hnode heq
  refine ⟨release_ready_nodup h.nodup htdone htready, ?_, ?_, hrest, ?_, ?_⟩
  · intro t ht
    rcases mem_release_ready.1 ht with ht | ⟨rfl, -⟩
    · exact h.known t ht
    · exact List.mem_map.2 ⟨node, hnode, rfl⟩
  · rintro other hother (hmem | hmem)
    · exact h.settled other hother (Or.inl hmem)
    · rcases mem_release_ready.1 hmem with hmem | ⟨heq, hzero⟩
      · exact h.settled other hother (Or.inr hmem)
      · obtain rfl := hsame other hother heq
        rw [hdegree, List.length_eq_zero_iff] at hzero
        exact openDependencies_eq_nil.1 hzero
  · intro t ht
    obtain ⟨hknown, hdone, hfree⟩ := h.rest_open t (List.mem_cons_of_mem _ ht)
    refine ⟨hknown, hdone, fun hmem => ?_⟩
    rcases mem_release_ready.1 hmem with hmem | ⟨rfl, -⟩
    · exact hfree hmem
    · exact htrest ht
  · intro other hother hdone hfree
    rw [mem_release_ready, not_or] at hfree
    obtain ⟨heq, hpositive⟩ := h.waiting other hother hdone hfree.1
    by_cases hid : other.taskId = node.taskId
    · obtain rfl := hsame other hother hid
      have hopen : (openDependencies done other).length ≠ 0 :=
        fun hzero => hfree.2 ⟨rfl, by rw [hdegree, hzero]⟩
      refine ⟨?_, fun _ hnil => hopen (by rw [hnil]; rfl)⟩
      simp [OrderState.release, hdegree, htrest]
    · refine ⟨?_, fun hnot => hpositive (by simp [hid, hnot])⟩
      simpa [OrderState.release, Function.update_of_ne hid, hid] using heq

/-- All dependents are released. -/
theorem OrderState.Releasing.foldl (hids : (tasks.map TaskNode.taskId).Nodup)
    (h : state.Releasing tasks done rest) :
    (rest.foldl OrderState.release state).Valid tasks done := by
  induction rest generalizing state with
  | nil => exact h
  | cons t rest ih => exact ih (h.release hids)

theorem mem_dependents {t x : String} :
    x ∈ dependents tasks t ↔ ∃ node ∈ tasks, t ∈ node.dependsOn ∧ node.taskId = x := by
  simp [dependents, List.mem_insertionSort, and_assoc]

/-- A task that is ordered is one open dependency less for its dependents. -/
theorem length_openDependencies {t : String} (htdone : t ∉ done) (node : TaskNode) :
    (openDependencies done node).length =
      (openDependencies (done ++ [t]) node).length + if t ∈ node.dependsOn then 1 else 0 := by
  have hnodup : (openDependencies done node).Nodup := node.dependsOn_nodup.filter _
  have herase : openDependencies (done ++ [t]) node = (openDependencies done node).erase t := by
    rw [hnodup.erase_eq_filter, openDependencies, openDependencies, List.filter_filter]
    refine List.filter_congr fun d _ => ?_
    by_cases hd : d = t <;> simp [hd]
  have hmem : t ∈ openDependencies done node ↔ t ∈ node.dependsOn := by
    simp [openDependencies, htdone]
  rw [herase]
  split_ifs with ht
  · have hlength := List.length_erase_of_mem (hmem.2 ht)
    have hpos := List.length_pos_of_mem (hmem.2 ht)
    omega
  · rw [List.erase_of_not_mem (mt hmem.1 ht), Nat.add_zero]

/-- A task leaves the heap, and its dependents have one open dependency less. -/
theorem OrderState.Valid.pop (hids : (tasks.map TaskNode.taskId).Nodup) {t : String}
    {ready : List String} (h : state.Valid tasks done) (hready : state.ready = t :: ready) :
    ({ state with ready } : OrderState).Releasing tasks (done ++ [t]) (dependents tasks t) := by
  have hnodup : (done ++ t :: ready).Nodup := hready ▸ h.nodup
  have htdone : t ∉ done := fun hmem =>
    (List.nodup_append.1 hnodup).2.2 t hmem t List.mem_cons_self rfl
  have hdependent : ∀ node ∈ tasks, t ∈ node.dependsOn →
      node.taskId ∉ done ∧ node.taskId ∉ state.ready := by
    intro node hnode hdep
    constructor
    · exact fun hmem => htdone (h.settled node hnode (Or.inl hmem) hdep)
    · exact fun hmem => htdone (h.settled node hnode (Or.inr hmem) hdep)
  refine ⟨?_, ?_, ?_, ?_, ?_, ?_⟩
  · simpa using hnodup
  · intro x hx
    exact h.known x (hready ▸ List.mem_cons_of_mem _ hx)
  · intro node hnode hmem
    have hold : node.taskId ∈ done ∨ node.taskId ∈ state.ready := by
      rw [hready]
      simp only [List.mem_append, List.mem_cons] at hmem ⊢
      tauto
    exact List.Subset.trans (h.settled node hnode hold) (List.subset_append_left _ _)
  · rw [dependents, List.Perm.nodup_iff (List.perm_insertionSort _ _)]
    exact (List.Sublist.map TaskNode.taskId List.filter_sublist).nodup hids
  · intro x hx
    obtain ⟨node, hnode, hdep, rfl⟩ := mem_dependents.1 hx
    obtain ⟨hdone, hfree⟩ := hdependent node hnode hdep
    rw [hready, List.mem_cons, not_or] at hfree
    exact ⟨List.mem_map.2 ⟨node, hnode, rfl⟩, by simp [hdone, hfree.1], hfree.2⟩
  · intro node hnode hdone hfree
    rw [List.mem_append, List.mem_singleton, not_or] at hdone
    have hnot : node.taskId ∉ state.ready := by
      rw [hready, List.mem_cons, not_or]
      exact ⟨hdone.2, hfree⟩
    obtain ⟨hdegree, hpositive⟩ := h.waiting node hnode hdone.1 hnot
    have hmem : node.taskId ∈ dependents tasks t ↔ t ∈ node.dependsOn := by
      rw [mem_dependents]
      constructor
      · rintro ⟨other, hother, hdep, heq⟩
        obtain rfl := List.inj_on_of_nodup_map hids hother hnode heq
        exact hdep
      · exact fun hdep => ⟨node, hnode, hdep, rfl⟩
    have hlength := length_openDependencies htdone node
    refine ⟨?_, fun hnot hnil => ?_⟩
    · simp only [hmem]
      simpa [hlength] using hdegree
    · rw [hmem] at hnot
      rw [if_neg hnot, hnil, List.length_nil] at hlength
      exact hpositive (by simp) (List.length_eq_zero_iff.1 hlength)

/-- **No task is ordered twice.** -/
theorem orderLoop_nodup (hids : (tasks.map TaskNode.taskId).Nodup) {fuel : ℕ}
    (h : state.Valid tasks done) :
    (done ++ orderLoop tasks fuel state).Nodup ∧
      ∀ t ∈ orderLoop tasks fuel state, t ∈ tasks.map TaskNode.taskId := by
  induction fuel generalizing done state with
  | zero => exact ⟨by simpa [orderLoop] using (List.nodup_append.1 h.nodup).1, by simp [orderLoop]⟩
  | succ fuel ih =>
    cases hready : state.ready with
    | nil =>
      simp only [orderLoop, hready]
      exact ⟨by simpa using (List.nodup_append.1 h.nodup).1, by simp⟩
    | cons t ready =>
      simp only [orderLoop, hready]
      obtain ⟨hnodup, hknown⟩ := ih ((h.pop hids hready).foldl hids)
      refine ⟨by simpa using hnodup, ?_⟩
      intro x hx
      rcases List.mem_cons.1 hx with rfl | hx
      · exact h.known x (hready ▸ List.mem_cons_self)
      · exact hknown x hx

/-- Before the loop: the counters are the numbers of dependencies. -/
theorem kahnOrder_start (hids : (tasks.map TaskNode.taskId).Nodup) :
    OrderState.Valid tasks []
      { indegree := fun taskId => ((tasks.find? fun node => node.taskId = taskId).map
          fun node => node.dependsOn.length).getD 0
        ready := ((tasks.filter fun node => node.dependsOn = []).map
          TaskNode.taskId).insertionSort (· ≤ ·) } := by
  have hready : ∀ node ∈ tasks, node.taskId ∈ ((tasks.filter fun node => node.dependsOn = []).map
      TaskNode.taskId).insertionSort (· ≤ ·) ↔ node.dependsOn = [] := by
    intro node hnode
    rw [List.mem_insertionSort, List.mem_map]
    constructor
    · rintro ⟨other, hother, heq⟩
      obtain ⟨hother, hnil⟩ := List.mem_filter.1 hother
      obtain rfl := List.inj_on_of_nodup_map hids hother hnode heq
      simpa using hnil
    · exact fun hnil => ⟨node, List.mem_filter.2 ⟨hnode, by simpa using hnil⟩, rfl⟩
  refine ⟨?_, ?_, ?_, List.nodup_nil, by simp, ?_⟩
  · rw [List.nil_append, List.Perm.nodup_iff (List.perm_insertionSort _ _)]
    exact (List.Sublist.map TaskNode.taskId List.filter_sublist).nodup hids
  · intro t ht
    rw [List.mem_insertionSort] at ht
    exact (List.Sublist.map TaskNode.taskId List.filter_sublist).subset ht
  · rintro node hnode (hmem | hmem)
    · cases hmem
    · rw [(hready node hnode).1 hmem]
      exact List.nil_subset _
  · intro node hnode _ hwaiting
    rw [hready node hnode] at hwaiting
    have hfind : tasks.find? (fun other => other.taskId = node.taskId) = some node := by
      have hsome : (tasks.find? fun other => other.taskId = node.taskId).isSome :=
        List.find?_isSome.2 ⟨node, hnode, by simp⟩
      obtain ⟨found, hfound⟩ := Option.isSome_iff_exists.1 hsome
      have hid : found.taskId = node.taskId := by simpa using List.find?_some hfound
      rw [hfound, List.inj_on_of_nodup_map hids (List.mem_of_find?_eq_some hfound) hnode hid]
    have hopen : openDependencies [] node = node.dependsOn := by simp [openDependencies]
    rw [hopen]
    exact ⟨by simp [hfind], fun _ => hwaiting⟩

namespace TaskDAG

variable (dag : TaskDAG)

/-- **The topological order has no duplicates.** -/
theorem topologicalOrder_nodup : dag.topologicalOrder.Nodup :=
  (orderLoop_nodup dag.ids_nodup (kahnOrder_start dag.ids_nodup)).1

/-- **The topological order is a permutation of the task ids.** -/
theorem topologicalOrder_perm : dag.topologicalOrder.Perm dag.taskIds := by
  have hsubset : dag.topologicalOrder ⊆ dag.taskIds :=
    (orderLoop_nodup dag.ids_nodup (kahnOrder_start dag.ids_nodup)).2
  have hlength : dag.taskIds.length ≤ dag.topologicalOrder.length := by
    rw [topologicalOrder, dag.acyclic, taskIds, List.length_map]
  exact (List.subperm_of_subset dag.topologicalOrder_nodup hsubset).perm_of_length_le hlength

variable {dag} in
theorem node?_of_mem {node : TaskNode} (h : node ∈ dag.tasks) :
    dag.node? node.taskId = some node := by
  have hsome : (dag.node? node.taskId).isSome :=
    List.find?_isSome.2 ⟨node, h, by simp⟩
  obtain ⟨found, hfound⟩ := Option.isSome_iff_exists.1 hsome
  have hid : found.taskId = node.taskId := by simpa using List.find?_some hfound
  have heq := List.inj_on_of_nodup_map dag.ids_nodup (List.mem_of_find?_eq_some hfound) h hid
  rw [hfound, heq]

theorem mem_topologicalOrder {t : String} : t ∈ dag.topologicalOrder ↔ t ∈ dag.taskIds :=
  dag.topologicalOrder_perm.mem_iff

end TaskDAG

/-- What passes from the failed tasks to their dependents, and on from them, holds of
every blocked task. -/
theorem blockedLoop_forall {tasks : List TaskNode} {failed : List String} {P Q : String → Prop}
    (hblocks : ∀ t, P t → Q t) (hstep : ∀ x t, Q x → t ∈ dependents tasks x → P t) (fuel : ℕ)
    {queue blocked : List String} (hqueue : ∀ x ∈ queue, Q x) (hblocked : ∀ t ∈ blocked, P t) :
    ∀ t ∈ TaskDAG.blockedLoop tasks failed fuel queue blocked, P t := by
  induction fuel generalizing queue blocked with
  | zero => exact hblocked
  | succ fuel ih =>
    cases queue with
    | nil => exact hblocked
    | cons x queue =>
      obtain ⟨hx, hqueue⟩ := List.forall_mem_cons.1 hqueue
      have hfound : ∀ t ∈ (dependents tasks x).filter (fun t => t ∉ failed ∧ t ∉ blocked), P t :=
        fun t ht => hstep x t hx (List.mem_of_mem_filter ht)
      refine ih (fun t ht => ?_) (fun t ht => ?_)
      · rcases List.mem_append.1 ht with ht | ht
        · exact hqueue t ht
        · exact hblocks t (hfound t ht)
      · rcases List.mem_append.1 ht with ht | ht
        · exact hblocked t ht
        · exact hfound t ht

/-- The same for `blocked_task_ids`. -/
theorem TaskDAG.blockedTaskIds_forall {dag : TaskDAG} {failed blocked : List String}
    {P Q : String → Prop} (hblocks : ∀ t, P t → Q t)
    (hstep : ∀ x t, Q x → t ∈ dependents dag.tasks x → P t) (hfailed : ∀ x ∈ failed, Q x)
    (h : dag.blockedTaskIds failed = .ok blocked) : ∀ t ∈ blocked, P t := by
  simp only [TaskDAG.blockedTaskIds, Raising.bind_eq_ok, Raising.pure_eq_ok] at h
  obtain ⟨_, _, rfl⟩ := h
  intro t ht
  have hloop := of_decide_eq_true (List.mem_filter.1 ht).2
  refine blockedLoop_forall hblocks hstep _ (fun x hx => hfailed x ?_) (by simp) t hloop
  exact List.mem_dedup.1 ((List.mem_insertionSort _).1 hx)

end DevFlow
