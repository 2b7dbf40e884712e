/-
# The queries of the graph are exact

`blocked_task_ids` and `ready_task_ids` of `models/dag.py`, and the place of a
task in `topological_order`.

The breadth-first loop of `blocked_task_ids` expands each task of its queue once.
At the head of the loop every task that was met and is not in the queue has all
its dependents met (`Expanded`), and each task that is added to the queue leaves
the tasks that are not met; so the loop runs as long as its fuel lasts, and ends
with the proper descendants of the failed tasks.
-/

import DevFlow.Models.DagOrder
import Mathlib.Logic.Relation

namespace DevFlow

namespace TaskDAG

variable (dag : TaskDAG)

/-- `d` is a dependency of `t`. -/
def Edge (d t : String) : Prop :=
  ∃ node ∈ dag.tasks, node.taskId = t ∧ d ∈ node.dependsOn

/-- `a` is a proper ancestor of `t`. -/
def Ancestor : String → String → Prop :=
  Relation.TransGen dag.Edge

variable {dag}

theorem mem_dependents_iff {d t : String} : t ∈ dependents dag.tasks d ↔ dag.Edge d t := by
  rw [mem_dependents, Edge]
  constructor
  · rintro ⟨node, hnode, hdep, hid⟩
    exact ⟨node, hnode, hid, hdep⟩
  · rintro ⟨node, hnode, hid, hdep⟩
    exact ⟨node, hnode, hdep, hid⟩

theorem Edge.mem_left {d t : String} (h : dag.Edge d t) : d ∈ dag.taskIds := by
  obtain ⟨node, hnode, -, hdep⟩ := h
  exact dag.dependencies_known node hnode d hdep

theorem Edge.mem_right {d t : String} (h : dag.Edge d t) : t ∈ dag.taskIds := by
  obtain ⟨node, hnode, rfl, -⟩ := h
  exact List.mem_map_of_mem hnode

theorem Ancestor.mem_right {a t : String} (h : dag.Ancestor a t) : t ∈ dag.taskIds := by
  cases h with
  | single hedge => exact hedge.mem_right
  | tail _ hedge => exact hedge.mem_right

theorem dependents_nodup (t : String) : (dependents dag.tasks t).Nodup := by
  rw [dependents, List.Perm.nodup_iff (List.perm_insertionSort _ _)]
  exact (List.Sublist.map TaskNode.taskId List.filter_sublist).nodup dag.ids_nodup

/-! ### The breadth-first loop -/

/-- Every task that was met has its dependents met, or is still in the queue. -/
def Expanded (dag : TaskDAG) (failed queue blocked : List String) : Prop :=
  ∀ x, x ∈ failed ∨ x ∈ blocked → x ∈ queue ∨
    ∀ t, dag.Edge x t → t ∈ failed ∨ t ∈ blocked

/-- The tasks that are not blocked yet. -/
def unblocked (dag : TaskDAG) (blocked : List String) : List String :=
  dag.taskIds.filter (· ∉ blocked)

/-- Tasks that are newly blocked leave the others. -/
theorem length_unblocked_append {blocked : List String} (found : List String) (hnodup : found.Nodup)
    (hfound : ∀ t ∈ found, t ∈ dag.taskIds ∧ t ∉ blocked) :
    (dag.unblocked (blocked ++ found)).length + found.length ≤ (dag.unblocked blocked).length := by
  have hsplit : dag.unblocked (blocked ++ found) =
      (dag.unblocked blocked).filter fun t => ¬t ∈ found := by
    rw [unblocked, unblocked, List.filter_filter]
    refine List.filter_congr fun t _ => ?_
    by_cases hb : t ∈ blocked <;> by_cases hf : t ∈ found <;> simp [hb, hf]
  have hsub : found ⊆ (dag.unblocked blocked).filter fun t => t ∈ found := by
    intro t ht
    obtain ⟨hmem, hnot⟩ := hfound t ht
    simp [unblocked, hmem, hnot, ht]
  have hle := (List.subperm_of_subset hnodup hsub).length_le
  have hlength := List.length_eq_length_filter_add (l := dag.unblocked blocked)
    (fun t => decide (t ∈ found))
  rw [hsplit]
  simp only [decide_not] at hlength ⊢
  omega

/-- What a round of the loop adds. -/
theorem Expanded.round {failed queue blocked : List String} {x : String}
    (h : dag.Expanded failed (x :: queue) blocked) :
    dag.Expanded failed
      (queue ++ (dependents dag.tasks x).filter fun t => t ∉ failed ∧ t ∉ blocked)
      (blocked ++ (dependents dag.tasks x).filter fun t => t ∉ failed ∧ t ∉ blocked) := by
  have hkeep : ∀ t, t ∈ failed ∨ t ∈ blocked → t ∈ failed ∨
      t ∈ blocked ++ (dependents dag.tasks x).filter fun t => t ∉ failed ∧ t ∉ blocked := by
    rintro t (ht | ht)
    · exact Or.inl ht
    · exact Or.inr (List.mem_append_left _ ht)
  have hmet : ∀ t, dag.Edge x t → t ∈ failed ∨
      t ∈ blocked ++ (dependents dag.tasks x).filter fun t => t ∉ failed ∧ t ∉ blocked := by
    intro t hedge
    by_cases hold : t ∈ failed ∨ t ∈ blocked
    · exact hkeep t hold
    · rw [not_or] at hold
      exact Or.inr (List.mem_append_right _
        (List.mem_filter.2 ⟨mem_dependents_iff.2 hedge, by simp [hold.1, hold.2]⟩))
  intro y hy
  by_cases hyx : y = x
  · exact Or.inr (hyx ▸ hmet)
  · have hold : (y ∈ failed ∨ y ∈ blocked) ∨ y ∈ queue ++
        (dependents dag.tasks x).filter fun t => t ∉ failed ∧ t ∉ blocked := by
      rcases hy with hy | hy
      · exact Or.inl (Or.inl hy)
      · rcases List.mem_append.1 hy with hy | hy
        · exact Or.inl (Or.inr hy)
        · exact Or.inr (List.mem_append_right _ hy)
    rcases hold with hold | hnew
    · rcases h y hold with hqueue | hdependents
      · exact Or.inl (List.mem_append_left _ ((List.mem_cons.1 hqueue).resolve_left hyx))
      · exact Or.inr fun t hedge => hkeep t (hdependents t hedge)
    · exact Or.inl hnew

/-- **The loop ends with every dependent of a met task met**, when its fuel covers
the queue and the tasks that are not blocked. -/
theorem blockedLoop_expanded {failed : List String} (fuel : ℕ) {queue blocked : List String}
    (h : dag.Expanded failed queue blocked)
    (hfuel : queue.length + (dag.unblocked blocked).length ≤ fuel) :
    dag.Expanded failed [] (blockedLoop dag.tasks failed fuel queue blocked) := by
  induction fuel generalizing queue blocked with
  | zero =>
    have hnil : queue = [] := List.length_eq_zero_iff.1 (by omega)
    subst hnil
    exact h
  | succ fuel ih =>
    cases queue with
    | nil => exact h
    | cons x queue =>
      rw [blockedLoop]
      refine ih h.round ?_
      have hlength := TaskDAG.length_unblocked_append
        ((dependents dag.tasks x).filter fun t => t ∉ failed ∧ t ∉ blocked)
        ((dependents_nodup x).filter _) (by
          intro t ht
          obtain ⟨hdep, hnot⟩ := List.mem_filter.1 ht
          exact ⟨(mem_dependents_iff.1 hdep).mem_right, (of_decide_eq_true hnot).2⟩)
      rw [List.length_append]
      rw [List.length_cons] at hfuel
      omega

/-- No failed task is blocked. -/
theorem blockedLoop_not_failed {tasks : List TaskNode} {failed : List String} {fuel : ℕ}
    {queue blocked : List String} (h : ∀ t ∈ blocked, t ∉ failed) :
    ∀ t ∈ blockedLoop tasks failed fuel queue blocked, t ∉ failed := by
  induction fuel generalizing queue blocked with
  | zero => exact h
  | succ fuel ih =>
    cases queue with
    | nil => exact h
    | cons x queue =>
      rw [blockedLoop]
      refine ih fun t ht => ?_
      rcases List.mem_append.1 ht with ht | ht
      · exact h t ht
      · exact (of_decide_eq_true (List.mem_filter.1 ht).2).1

/-! ### `blocked_task_ids` and `ready_task_ids` -/

theorem validateRuntimeIds_eq_ok {taskIds : List String} {label : String} {u : Unit} :
    dag.validateRuntimeIds taskIds label = .ok u ↔ ∀ t ∈ taskIds, t ∈ dag.taskIds := by
  rw [validateRuntimeIds, Raising.raiseIf_eq_ok, not_not, List.dedup_eq_nil,
    List.filter_eq_nil_iff]
  simp

theorem exists_blockedTaskIds {failed : List String} (h : ∀ t ∈ failed, t ∈ dag.taskIds) :
    ∃ blocked, dag.blockedTaskIds failed = .ok blocked := by
  unfold blockedTaskIds
  rw [validateRuntimeIds_eq_ok (u := ()).2 h]
  exact ⟨_, rfl⟩

theorem mem_of_blockedTaskIds {failed blocked : List String}
    (h : dag.blockedTaskIds failed = .ok blocked) : ∀ t ∈ failed, t ∈ dag.taskIds := by
  simp only [blockedTaskIds, Raising.bind_eq_ok] at h
  obtain ⟨_, hvalid, _⟩ := h
  exact validateRuntimeIds_eq_ok.1 hvalid

/-- **`blocked_task_ids` returns the proper descendants of the failed tasks that have
not failed themselves.** -/
theorem mem_blockedTaskIds {failed blocked : List String}
    (h : dag.blockedTaskIds failed = .ok blocked) {t : String} :
    t ∈ blocked ↔ t ∉ failed ∧ ∃ a ∈ failed, dag.Ancestor a t := by
  constructor
  · intro ht
    refine ⟨?_, ?_⟩
    · simp only [blockedTaskIds, Raising.bind_eq_ok, Raising.pure_eq_ok] at h
      obtain ⟨_, _, rfl⟩ := h
      exact blockedLoop_not_failed (by simp) t (of_decide_eq_true (List.mem_filter.1 ht).2)
    · refine blockedTaskIds_forall (P := fun t => ∃ a ∈ failed, dag.Ancestor a t)
        (Q := fun x => ∃ a ∈ failed, Relation.ReflTransGen dag.Edge a x) ?_ ?_ ?_ h t ht
      · rintro t ⟨a, ha, hpath⟩
        exact ⟨a, ha, hpath.to_reflTransGen⟩
      · rintro x t ⟨a, ha, hpath⟩ hdep
        exact ⟨a, ha, Relation.TransGen.tail' hpath (mem_dependents_iff.1 hdep)⟩
      · exact fun x hx => ⟨x, hx, .refl⟩
  · rintro ⟨hnot, a, ha, hpath⟩
    simp only [blockedTaskIds, Raising.bind_eq_ok, Raising.pure_eq_ok] at h
    obtain ⟨_, _, rfl⟩ := h
    have hstart : dag.Expanded failed (failed.dedup.insertionSort (· ≤ ·)) [] := by
      rintro x (hx | hx)
      · exact Or.inl ((List.mem_insertionSort _).2 (List.mem_dedup.2 hx))
      · cases hx
    have hclosed := blockedLoop_expanded (failed.length + dag.tasks.length) hstart (by
      have hqueue : (failed.dedup.insertionSort (· ≤ ·)).length ≤ failed.length := by
        rw [List.length_insertionSort]
        exact (List.dedup_sublist failed).length_le
      have hall : (dag.unblocked []).length ≤ dag.tasks.length := by
        rw [unblocked, ← List.length_map (f := TaskNode.taskId)]
        exact List.length_filter_le _ _
      omega)
    have hmet : ∀ x, dag.Ancestor a x → x ∈ failed ∨
        x ∈ blockedLoop dag.tasks failed (failed.length + dag.tasks.length)
          (failed.dedup.insertionSort (· ≤ ·)) [] := by
      intro x hx
      induction hx with
      | single hedge => exact ((hclosed a (Or.inl ha)).resolve_left (by simp)) _ hedge
      | tail _ hedge ih => exact ((hclosed _ ih).resolve_left (by simp)) _ hedge
    refine List.mem_filter.2 ⟨(mem_topologicalOrder dag).2 hpath.mem_right, ?_⟩
    exact decide_eq_true ((hmet t hpath).resolve_left hnot)

/-- The tasks that `ready_task_ids` refuses to work with: completed ones that have
failed or have a failed ancestor. -/
def Inconsistent (dag : TaskDAG) (completed failed : List String) : Prop :=
  ∃ t ∈ completed, t ∈ failed ∨ ∃ a ∈ failed, dag.Ancestor a t

/-- **`ready_task_ids` returns** for known ids that are consistent. -/
theorem exists_readyTaskIds {completed failed : List String}
    (hcompleted : ∀ t ∈ completed, t ∈ dag.taskIds) (hfailed : ∀ t ∈ failed, t ∈ dag.taskIds)
    (hconsistent : ¬dag.Inconsistent completed failed) :
    ∃ ready, dag.readyTaskIds completed failed = .ok ready := by
  obtain ⟨blocked, hblocked⟩ := exists_blockedTaskIds hfailed
  unfold readyTaskIds
  rw [validateRuntimeIds_eq_ok (u := ()).2 hcompleted, Raising.ok_bind,
    validateRuntimeIds_eq_ok (u := ()).2 hfailed, Raising.ok_bind]
  dsimp only
  rw [Raising.raiseIf_of_not, Raising.ok_bind, hblocked, Raising.ok_bind, Raising.raiseIf_of_not]
  · exact ⟨_, rfl⟩
  · rw [not_not, List.filter_eq_nil_iff]
    intro t ht hmem
    exact hconsistent ⟨t, ht, Or.inr ((mem_blockedTaskIds hblocked).1 (by simpa using hmem)).2⟩
  · rw [not_not, List.filter_eq_nil_iff]
    intro t ht hmem
    exact hconsistent ⟨t, ht, Or.inl (by simpa using hmem)⟩

/-- **`ready_task_ids` returns the tasks that are neither completed nor failed, have no
failed ancestor, and whose dependencies are completed.** -/
theorem mem_readyTaskIds {completed failed ready : List String}
    (h : dag.readyTaskIds completed failed = .ok ready) {t : String} :
    t ∈ ready ↔ t ∈ dag.taskIds ∧ t ∉ completed ∧ t ∉ failed ∧
      (¬∃ a ∈ failed, dag.Ancestor a t) ∧ ∀ d, dag.Edge d t → d ∈ completed := by
  simp only [readyTaskIds, Raising.bind_eq_ok, Raising.pure_eq_ok] at h
  obtain ⟨_, _, _, _, _, _, blocked, hblocked, _, _, rfl⟩ := h
  rw [List.mem_filter, mem_topologicalOrder, decide_eq_true_eq]
  have hdeps : t ∈ dag.taskIds →
      (((dag.node? t).any fun node => node.dependsOn.all fun d => d ∈ completed) = true ↔
        ∀ d, dag.Edge d t → d ∈ completed) := by
    intro ht
    obtain ⟨node, hnode, rfl⟩ := List.mem_map.1 ht
    rw [node?_of_mem hnode]
    simp only [Option.any_some, List.all_eq_true, decide_eq_true_eq]
    constructor
    · rintro hall d ⟨other, hother, hid, hdep⟩
      obtain rfl := List.inj_on_of_nodup_map dag.ids_nodup hother hnode hid
      exact hall d hdep
    · exact fun hall d hd => hall d ⟨node, hnode, rfl, hd⟩
  constructor
  · rintro ⟨ht, hcompleted, hfailed, hnot, hall⟩
    rw [mem_blockedTaskIds hblocked, not_and] at hnot
    exact ⟨ht, hcompleted, hfailed, hnot hfailed, (hdeps ht).1 hall⟩
  · rintro ⟨ht, hcompleted, hfailed, hnot, hall⟩
    refine ⟨ht, hcompleted, hfailed, ?_, (hdeps ht).2 hall⟩
    rw [mem_blockedTaskIds hblocked, not_and]
    exact fun _ => hnot

end TaskDAG

/-! ### The place of a task in the order -/

/-- A task is ordered after its dependencies, by induction on the rounds. -/
theorem orderLoop_settled {tasks : List TaskNode} (hids : (tasks.map TaskNode.taskId).Nodup)
    {fuel : ℕ} {done : List String} {state : OrderState} (h : state.Valid tasks done)
    {before after : List String} {node : TaskNode} (hnode : node ∈ tasks)
    (hsplit : orderLoop tasks fuel state = before ++ node.taskId :: after) :
    node.dependsOn ⊆ done ++ before := by
  induction fuel generalizing done state before with
  | zero => simp [orderLoop] at hsplit
  | succ fuel ih =>
    cases hready : state.ready with
    | nil => simp [orderLoop, hready] at hsplit
    | cons t ready =>
      simp only [orderLoop, hready] at hsplit
      cases before with
      | nil =>
        obtain ⟨rfl, -⟩ := List.cons.inj hsplit
        rw [List.append_nil]
        exact h.settled node hnode (Or.inr (hready ▸ List.mem_cons_self))
      | cons x before =>
        rw [List.cons_append] at hsplit
        obtain ⟨rfl, htail⟩ := List.cons.inj hsplit
        have hrest := ih ((h.pop hids hready).foldl hids) htail
        simpa using hrest

/-- **Every dependency of a task stands before it in the topological order.** -/
theorem TaskDAG.topologicalOrder_edge {dag : TaskDAG} {before after : List String} {t : String}
    (h : dag.topologicalOrder = before ++ t :: after) {d : String} (hedge : dag.Edge d t) :
    d ∈ before := by
  obtain ⟨node, hnode, rfl, hdep⟩ := hedge
  simpa using orderLoop_settled dag.ids_nodup (kahnOrder_start dag.ids_nodup) hnode h hdep

end DevFlow
