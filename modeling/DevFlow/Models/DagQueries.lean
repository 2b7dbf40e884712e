/-
# The deterministic order of a task graph

`topological_order` of `models/dag.py` on a list of nodes that passes the checks
of ids and references, and `validate_graph` as a whole.

At the head of the loop the heap holds the tasks that are available
(`OrderState.Valid.mem_ready_iff`), in ascending order.  So the loop takes the
least available task each time, which makes its result the lexicographically
least topological permutation, and without a cycle it does not end before every
task is ordered (`kahnOrder_complete`).  The least permutation depends on the
ids and the dependencies alone, so the order of the input does not matter.
-/

import DevFlow.Library.Orders
import DevFlow.Models.DagClosure

namespace DevFlow

variable {tasks tasks' : List TaskNode} {done : List String} {state : OrderState}

/-- `d` is a dependency of `t`. -/
def DependsOn (tasks : List TaskNode) (d t : String) : Prop :=
  ∃ node ∈ tasks, node.taskId = t ∧ d ∈ node.dependsOn

/-- What `validate_graph` checks before it orders the tasks: no id twice, and every
dependency is a task. -/
structure ReferencesValid (tasks : List TaskNode) : Prop where
  ids_nodup : (tasks.map TaskNode.taskId).Nodup
  known : ∀ node ∈ tasks, ∀ d ∈ node.dependsOn, d ∈ tasks.map TaskNode.taskId

/-- The counters of open dependencies when the loop of `topological_order` ends. -/
def degreesLeft (tasks : List TaskNode) : ℕ → OrderState → String → ℕ
  | 0, state => state.indegree
  | fuel + 1, state =>
    match state.ready with
    | [] => state.indegree
    | taskId :: ready =>
      degreesLeft tasks fuel ((dependents tasks taskId).foldl OrderState.release { state with ready })

/-- The state before the loop of `topological_order`. -/
def orderStart (tasks : List TaskNode) : OrderState where
  indegree := fun taskId =>
    ((tasks.find? fun node => node.taskId = taskId).map fun node => node.dependsOn.length).getD 0
  ready := ((tasks.filter fun node => node.dependsOn = []).map TaskNode.taskId).insertionSort
    (· ≤ ·)

/-- `topological_order`, with its check for a cycle. -/
def topologicalOrderOf (tasks : List TaskNode) : Except Failure (List String) := do
  let ordered := kahnOrder tasks
  let unresolved := (tasks.map TaskNode.taskId).filter fun taskId =>
    0 < degreesLeft tasks tasks.length (orderStart tasks) taskId
  Raising.raiseIf (ordered.length ≠ tasks.length)
    ⟨.valueError, "task DAG contains a dependency cycle involving: " ++
      ", ".intercalate (unresolved.insertionSort (· ≤ ·))⟩
  return ordered

/-- `validate_graph`, after the bound of the field. -/
def validateGraph (tasks : List TaskNode) : Except Failure Unit := do
  Raising.raiseIf (tasks = []) ⟨.valueError, "Tuple should have at least 1 item after validation"⟩
  let taskIds := tasks.map TaskNode.taskId
  Raising.raiseIf (¬taskIds.Nodup) ⟨.valueError, "task DAG must not contain duplicate task ids"⟩
  let missing := ((tasks.flatMap TaskNode.dependsOn).filter fun d => d ∉ taskIds).dedup
  Raising.raiseIf (missing ≠ [])
    ⟨.valueError, "task DAG references unknown dependencies: " ++
      ", ".intercalate (missing.insertionSort (· ≤ ·))⟩
  let _ ← topologicalOrderOf tasks
  return ()

theorem topologicalOrderOf_eq_ok {order : List String} :
    topologicalOrderOf tasks = .ok order ↔
      (kahnOrder tasks).length = tasks.length ∧ kahnOrder tasks = order := by
  simp only [topologicalOrderOf, Raising.bind_eq_ok, Raising.raiseIf_eq_ok, Raising.pure_eq_ok,
    ne_eq, not_not]
  constructor
  · rintro ⟨-, hlength, heq⟩
    exact ⟨hlength, heq⟩
  · rintro ⟨hlength, heq⟩
    exact ⟨⟨⟩, hlength, heq⟩

/-- **The graphs that `validate_graph` accepts are the task graphs.** -/
theorem validateGraph_eq_ok {u : Unit} :
    validateGraph tasks = .ok u ↔
      tasks ≠ [] ∧ ReferencesValid tasks ∧ (kahnOrder tasks).length = tasks.length := by
  have hmissing : ((tasks.flatMap TaskNode.dependsOn).filter
      fun d => d ∉ tasks.map TaskNode.taskId).dedup = [] ↔
      ∀ node ∈ tasks, ∀ d ∈ node.dependsOn, d ∈ tasks.map TaskNode.taskId := by
    rw [List.dedup_eq_nil, List.filter_eq_nil_iff]
    simp only [List.mem_flatMap, decide_eq_true_eq, not_not, forall_exists_index, and_imp]
    exact ⟨fun h node hnode d hd => h d node hnode hd, fun h d node hnode hd => h node hnode d hd⟩
  simp only [validateGraph, Raising.bind_eq_ok, Raising.raiseIf_eq_ok, Raising.pure_eq_ok, not_not,
    hmissing, topologicalOrderOf_eq_ok]
  constructor
  · rintro ⟨_, hne, _, hids, _, hknown, _, ⟨hlength, -⟩, -⟩
    exact ⟨hne, ⟨hids, hknown⟩, hlength⟩
  · rintro ⟨hne, ⟨hids, hknown⟩, hlength⟩
    exact ⟨⟨⟩, hne, ⟨⟩, hids, ⟨⟩, hknown, _, ⟨hlength, rfl⟩, trivial⟩

/-- The constructor of `TaskDAG`. -/
def TaskDAG.ofNodes (tasks : List TaskNode) : Except Failure TaskDAG :=
  match h : validateGraph tasks with
  | .ok _ =>
    have hvalid := validateGraph_eq_ok.1 h
    .ok
      { tasks
        tasks_nonempty := hvalid.1
        ids_nodup := hvalid.2.1.ids_nodup
        dependencies_known := hvalid.2.1.known
        acyclic := hvalid.2.2 }
  | .error failure => .error failure

theorem TaskDAG.referencesValid (dag : TaskDAG) : ReferencesValid dag.tasks :=
  ⟨dag.ids_nodup, dag.dependencies_known⟩

theorem TaskDAG.validateGraph (dag : TaskDAG) : DevFlow.validateGraph dag.tasks = .ok () :=
  validateGraph_eq_ok.2 ⟨dag.tasks_nonempty, dag.referencesValid, dag.acyclic⟩

theorem TaskDAG.ofNodes_eq_ok {dag : TaskDAG} : ofNodes tasks = .ok dag ↔ dag.tasks = tasks := by
  unfold ofNodes
  constructor
  · intro h
    split at h
    · obtain rfl := Except.ok.inj h
      rfl
    · cases h
  · rintro rfl
    split
    · rfl
    · rename_i failure hfailed
      rw [dag.validateGraph] at hfailed
      cases hfailed

theorem exists_ofNodes (h : DevFlow.validateGraph tasks = .ok ()) :
    ∃ dag : TaskDAG, dag.tasks = tasks := by
  obtain ⟨hne, hrefs, hlength⟩ := validateGraph_eq_ok.1 h
  exact ⟨⟨tasks, hne, hrefs.ids_nodup, hrefs.known, hlength⟩, rfl⟩

/-! ### The loop is greedy -/

/-- **The heap holds the available tasks.** -/
theorem OrderState.Valid.mem_ready_iff (h : state.Valid tasks done) {t : String} :
    t ∈ state.ready ↔
      Orders.Available (DependsOn tasks) (tasks.map TaskNode.taskId) done t := by
  constructor
  · intro ht
    refine ⟨h.known t ht, fun hdone => ?_, ?_⟩
    · exact (List.nodup_append.1 h.nodup).2.2 t hdone t ht rfl
    · rintro d ⟨node, hnode, rfl, hd⟩
      exact h.settled node hnode (Or.inr ht) hd
  · rintro ⟨hmem, hfresh, hsettled⟩
    obtain ⟨node, hnode, rfl⟩ := List.mem_map.1 hmem
    by_contra hnot
    refine (h.waiting node hnode hfresh hnot).2 List.not_mem_nil (openDependencies_eq_nil.2 ?_)
    exact fun d hd => hsettled d ⟨node, hnode, rfl, hd⟩

theorem OrderState.release_sorted {t : String} (h : state.ready.Pairwise (· ≤ ·)) :
    (state.release t).ready.Pairwise (· ≤ ·) := by
  unfold OrderState.release
  dsimp only
  split_ifs
  · exact List.Pairwise.orderedInsert t state.ready h
  · exact h

theorem OrderState.foldl_release_sorted (rest : List String)
    (h : state.ready.Pairwise (· ≤ ·)) :
    (rest.foldl OrderState.release state).ready.Pairwise (· ≤ ·) := by
  induction rest generalizing state with
  | nil => exact h
  | cons t rest ih => exact ih (OrderState.release_sorted h)

/-- **The loop takes the least available task in each round.** -/
theorem orderLoop_greedy (hids : (tasks.map TaskNode.taskId).Nodup) {fuel : ℕ}
    (h : state.Valid tasks done) (hsorted : state.ready.Pairwise (· ≤ ·)) :
    Orders.Greedy (DependsOn tasks) (tasks.map TaskNode.taskId) done
      (orderLoop tasks fuel state) := by
  induction fuel generalizing done state with
  | zero => trivial
  | succ fuel ih =>
    cases hready : state.ready with
    | nil =>
      simp only [orderLoop, hready]
      trivial
    | cons t ready =>
      simp only [orderLoop, hready]
      rw [hready, List.pairwise_cons] at hsorted
      refine ⟨⟨h.mem_ready_iff.1 (hready ▸ List.mem_cons_self), fun u hu => ?_⟩, ?_⟩
      · have hmem : u ∈ t :: ready := hready ▸ h.mem_ready_iff.2 hu
        rcases List.mem_cons.1 hmem with rfl | hmem
        · exact le_rfl
        · exact hsorted.1 u hmem
      · exact ih ((h.pop hids hready).foldl hids)
          (OrderState.foldl_release_sorted _ (by exact hsorted.2))

/-- **Without a cycle the loop does not end before every task is ordered.** -/
theorem orderLoop_complete (hvalid : ReferencesValid tasks)
    (hacyclic : Orders.Acyclic (DependsOn tasks)) {fuel : ℕ} (h : state.Valid tasks done)
    (hdone : done ⊆ tasks.map TaskNode.taskId) (hfuel : tasks.length ≤ done.length + fuel) :
    tasks.length ≤ (done ++ orderLoop tasks fuel state).length := by
  induction fuel generalizing done state with
  | zero => simpa [orderLoop] using hfuel
  | succ fuel ih =>
    cases hready : state.ready with
    | nil =>
      simp only [orderLoop, hready, List.append_nil]
      have hall : tasks.map TaskNode.taskId ⊆ done := by
        intro t ht
        by_contra hnot
        obtain ⟨u, hu⟩ := Orders.exists_available (fun d t hedge => by
          obtain ⟨node, hnode, -, hd⟩ := hedge
          exact hvalid.known node hnode d hd) hacyclic ht hnot
        have hmem := h.mem_ready_iff.2 hu
        rw [hready] at hmem
        cases hmem
      have hle := (List.subperm_of_subset hvalid.ids_nodup hall).length_le
      simpa using hle
    | cons t ready =>
      simp only [orderLoop, hready]
      have ht := h.known t (hready ▸ List.mem_cons_self)
      have hrest := ih ((h.pop hvalid.ids_nodup hready).foldl hvalid.ids_nodup)
        (List.append_subset.2 ⟨hdone, List.cons_subset.2 ⟨ht, List.nil_subset _⟩⟩)
        (by rw [List.length_append, List.length_singleton]; omega)
      simpa using hrest

/-! ### The order of a graph -/

theorem kahnOrder_greedy (hids : (tasks.map TaskNode.taskId).Nodup) :
    Orders.Greedy (DependsOn tasks) (tasks.map TaskNode.taskId) [] (kahnOrder tasks) :=
  orderLoop_greedy hids (kahnOrder_start hids) (List.pairwise_insertionSort _ _)

theorem DependsOn.mem_right {d t : String} (h : DependsOn tasks d t) :
    t ∈ tasks.map TaskNode.taskId := by
  obtain ⟨node, hnode, rfl, -⟩ := h
  exact List.mem_map_of_mem hnode

/-- **The order is the least topological permutation**, when it has all tasks. -/
theorem kahnOrder_isLeast (hids : (tasks.map TaskNode.taskId).Nodup)
    (hlength : (kahnOrder tasks).length = tasks.length) :
    IsLeast {l | Orders.Topological (DependsOn tasks) (tasks.map TaskNode.taskId) l}
      (kahnOrder tasks) :=
  (kahnOrder_greedy hids).isLeast hids (by rw [hlength, List.length_map])

/-- **The order has all tasks exactly when the graph has no cycle.** -/
theorem length_kahnOrder_iff (hvalid : ReferencesValid tasks) :
    (kahnOrder tasks).length = tasks.length ↔ Orders.Acyclic (DependsOn tasks) := by
  constructor
  · intro hlength
    exact (kahnOrder_isLeast hvalid.ids_nodup hlength).1.acyclic hvalid.ids_nodup
      fun _ _ => DependsOn.mem_right
  · intro hacyclic
    have hle : tasks.length ≤ ([] ++ kahnOrder tasks).length :=
      orderLoop_complete hvalid hacyclic (kahnOrder_start hvalid.ids_nodup) (List.nil_subset _)
        (by simp)
    have hnodup : ([] ++ kahnOrder tasks).Nodup ∧
        ∀ t ∈ kahnOrder tasks, t ∈ tasks.map TaskNode.taskId :=
      orderLoop_nodup hvalid.ids_nodup (kahnOrder_start hvalid.ids_nodup)
    have hge := (List.subperm_of_subset hnodup.1 hnodup.2).length_le
    rw [List.nil_append] at hle hge
    rw [List.length_map] at hge
    exact Nat.le_antisymm hge hle

/-! ### The order of the input -/

/-- The same tasks in another order, each with the same dependencies in another order. -/
def Reordered (tasks tasks' : List TaskNode) : Prop :=
  ∃ listed, tasks.Perm listed ∧ List.Forall₂
    (fun node node' => node.taskId = node'.taskId ∧ node.dependsOn.Perm node'.dependsOn)
    listed tasks'

theorem Reordered.ids_perm (h : Reordered tasks tasks') :
    (tasks.map TaskNode.taskId).Perm (tasks'.map TaskNode.taskId) := by
  obtain ⟨listed, hperm, hsame⟩ := h
  have hids : listed.map TaskNode.taskId = tasks'.map TaskNode.taskId := by
    rw [← List.forall₂_eq_eq_eq, List.forall₂_map_left_iff, List.forall₂_map_right_iff]
    exact hsame.imp fun _ _ h => h.1
  exact hids ▸ hperm.map TaskNode.taskId

theorem dependsOn_cons {node : TaskNode} {d t : String} :
    DependsOn (node :: tasks) d t ↔
      (node.taskId = t ∧ d ∈ node.dependsOn) ∨ DependsOn tasks d t := by
  simp [DependsOn]

theorem Reordered.dependsOn_iff (h : Reordered tasks tasks') (d t : String) :
    DependsOn tasks d t ↔ DependsOn tasks' d t := by
  obtain ⟨listed, hperm, hsame⟩ := h
  have hlisted : DependsOn tasks d t ↔ DependsOn listed d t :=
    exists_congr fun node => and_congr_left' hperm.mem_iff
  rw [hlisted]
  clear hlisted hperm
  induction hsame with
  | nil => exact Iff.rfl
  | cons hnode _ ih =>
    rw [dependsOn_cons, dependsOn_cons, hnode.1, hnode.2.mem_iff]
    exact or_congr_right ih

theorem Reordered.referencesValid (h : Reordered tasks tasks') (hvalid : ReferencesValid tasks) :
    ReferencesValid tasks' := by
  refine ⟨h.ids_perm.nodup_iff.1 hvalid.ids_nodup, fun node hnode d hd => ?_⟩
  obtain ⟨node', hnode', -, hd'⟩ := (h.dependsOn_iff d node.taskId).2 ⟨node, hnode, rfl, hd⟩
  exact h.ids_perm.mem_iff.1 (hvalid.known node' hnode' d hd')

/-- **The order of the nodes and of their dependencies does not matter.** -/
theorem Reordered.topologicalOrderOf_eq_ok (h : Reordered tasks tasks')
    (hvalid : ReferencesValid tasks) {order : List String}
    (horder : topologicalOrderOf tasks = .ok order) : topologicalOrderOf tasks' = .ok order := by
  have hvalid' := h.referencesValid hvalid
  obtain ⟨hlength, rfl⟩ := DevFlow.topologicalOrderOf_eq_ok.1 horder
  have hacyclic : Orders.Acyclic (DependsOn tasks') := by
    have hrelation : DependsOn tasks = DependsOn tasks' :=
      funext fun d => funext fun t => propext (h.dependsOn_iff d t)
    exact hrelation ▸ (length_kahnOrder_iff hvalid).1 hlength
  have hlength' := (length_kahnOrder_iff hvalid').2 hacyclic
  have hleast := kahnOrder_isLeast hvalid.ids_nodup hlength
  have hleast' := kahnOrder_isLeast hvalid'.ids_nodup hlength'
  refine DevFlow.topologicalOrderOf_eq_ok.2 ⟨hlength', le_antisymm ?_ ?_⟩
  · exact hleast'.2 (hleast.1.congr h.ids_perm h.dependsOn_iff)
  · exact hleast.2 (hleast'.1.congr h.ids_perm.symm fun d t => (h.dependsOn_iff d t).symm)

/-! ### The queries of a graph -/

/-- The tasks that failed tasks block: their proper descendants that have not failed. -/
def Blocked (tasks : List TaskNode) (failed : List String) (t : String) : Prop :=
  t ∉ failed ∧ ∃ a ∈ failed, Relation.TransGen (DependsOn tasks) a t

namespace TaskDAG

variable {dag : TaskDAG} {completed failed : List String}

theorem ancestor_iff {a t : String} :
    dag.Ancestor a t ↔ Relation.TransGen (DependsOn dag.tasks) a t :=
  Iff.rfl

/-- `blocked_task_ids` rejects unknown ids and nothing else. -/
theorem exists_blockedTaskIds_iff :
    (∃ blocked, dag.blockedTaskIds failed = .ok blocked) ↔ ∀ t ∈ failed, t ∈ dag.taskIds :=
  ⟨fun ⟨_, h⟩ => mem_of_blockedTaskIds h, exists_blockedTaskIds⟩

/-- **`ready_task_ids` rejects unknown ids, tasks of both kinds and completed tasks that
are blocked**, and nothing else. -/
theorem exists_readyTaskIds_iff :
    (∃ ready, dag.readyTaskIds completed failed = .ok ready) ↔
      (∀ t ∈ completed, t ∈ dag.taskIds) ∧ (∀ t ∈ failed, t ∈ dag.taskIds) ∧
        (∀ t ∈ completed, t ∉ failed) ∧ ∀ t ∈ completed, ¬Blocked dag.tasks failed t := by
  constructor
  · rintro ⟨ready, h⟩
    simp only [readyTaskIds, Raising.bind_eq_ok, Raising.raiseIf_eq_ok, ne_eq, not_not,
      List.filter_eq_nil_iff, decide_eq_true_eq] at h
    obtain ⟨_, hcompleted, _, hfailed, _, hdisjoint, blocked, hblocked, _, hconsistent, -⟩ := h
    refine ⟨validateRuntimeIds_eq_ok.1 hcompleted, validateRuntimeIds_eq_ok.1 hfailed, hdisjoint,
      fun t ht hblock => hconsistent t ht ?_⟩
    exact (mem_blockedTaskIds hblocked).2 hblock
  · rintro ⟨hcompleted, hfailed, hdisjoint, hconsistent⟩
    refine exists_readyTaskIds hcompleted hfailed ?_
    rintro ⟨t, ht, hmem | hpath⟩
    · exact hdisjoint t ht hmem
    · exact hconsistent t ht ⟨hdisjoint t ht, hpath⟩

end TaskDAG

/-- A call that does not return raises. -/
theorem exists_error_iff {α : Type} {x : Except Failure α} :
    (∃ e, x = .error e) ↔ ¬∃ a, x = .ok a := by
  cases x <;> simp

/-- **The order and the queries of a task graph are exact.**  For nodes that pass the
checks of ids and references, `topological_order` returns when there is no cycle, and
then the least topological permutation for every order of the input; a graph can be
built when there is a node and no cycle; `blocked_task_ids` returns the tasks that the
failed ones block, and `ready_task_ids` raises for unknown ids, overlapping sets or a
completed task that is blocked, and returns otherwise the open tasks that are not
blocked and whose dependencies are completed. -/
theorem taskGraph_queries (hvalid : ReferencesValid tasks) :
    ((∃ order, topologicalOrderOf tasks = .ok order) ↔ Orders.Acyclic (DependsOn tasks)) ∧
    (∀ order, topologicalOrderOf tasks = .ok order →
      IsLeast {l | Orders.Topological (DependsOn tasks) (tasks.map TaskNode.taskId) l} order ∧
      ∀ tasks', Reordered tasks tasks' → topologicalOrderOf tasks' = .ok order) ∧
    ((∃ dag, TaskDAG.ofNodes tasks = .ok dag) ↔
      tasks ≠ [] ∧ Orders.Acyclic (DependsOn tasks)) ∧
    ∀ dag, TaskDAG.ofNodes tasks = .ok dag → ∀ failed,
      ((∃ blocked, dag.blockedTaskIds failed = .ok blocked) ↔
        ∀ t ∈ failed, t ∈ tasks.map TaskNode.taskId) ∧
      (∀ blocked, dag.blockedTaskIds failed = .ok blocked →
        ∀ t, t ∈ blocked ↔ Blocked tasks failed t) ∧
      ∀ completed,
        ((∃ e, dag.readyTaskIds completed failed = .error e) ↔
          (∃ t, (t ∈ completed ∨ t ∈ failed) ∧ t ∉ tasks.map TaskNode.taskId) ∨
            (∃ t ∈ completed, t ∈ failed) ∨ ∃ t ∈ completed, Blocked tasks failed t) ∧
        ∀ ready, dag.readyTaskIds completed failed = .ok ready → ∀ t, t ∈ ready ↔
          t ∈ tasks.map TaskNode.taskId ∧ t ∉ completed ∧ t ∉ failed ∧ ¬Blocked tasks failed t ∧
            ∀ d, DependsOn tasks d t → d ∈ completed := by
  have horder : (∃ order, topologicalOrderOf tasks = .ok order) ↔
      Orders.Acyclic (DependsOn tasks) := by
    rw [← length_kahnOrder_iff hvalid]
    constructor
    · rintro ⟨order, h⟩
      exact (topologicalOrderOf_eq_ok.1 h).1
    · exact fun hlength => ⟨_, topologicalOrderOf_eq_ok.2 ⟨hlength, rfl⟩⟩
  refine ⟨horder, fun order h => ⟨?_, fun tasks' hsame => ?_⟩, ?_, ?_⟩
  · obtain ⟨hlength, rfl⟩ := topologicalOrderOf_eq_ok.1 h
    exact kahnOrder_isLeast hvalid.ids_nodup hlength
  · exact hsame.topologicalOrderOf_eq_ok hvalid h
  · rw [← length_kahnOrder_iff hvalid]
    constructor
    · rintro ⟨dag, h⟩
      obtain rfl := TaskDAG.ofNodes_eq_ok.1 h
      exact ⟨dag.tasks_nonempty, dag.acyclic⟩
    · rintro ⟨hne, hlength⟩
      obtain ⟨dag, hdag⟩ := exists_ofNodes (validateGraph_eq_ok.2 ⟨hne, hvalid, hlength⟩)
      exact ⟨dag, TaskDAG.ofNodes_eq_ok.2 hdag⟩
  · intro dag h failed
    obtain rfl := TaskDAG.ofNodes_eq_ok.1 h
    refine ⟨TaskDAG.exists_blockedTaskIds_iff, fun blocked hblocked t =>
      TaskDAG.mem_blockedTaskIds hblocked, fun completed => ⟨?_, fun ready hready t => ?_⟩⟩
    · rw [exists_error_iff, TaskDAG.exists_readyTaskIds_iff]
      constructor
      · intro hrejected
        by_contra hall
        simp only [not_or, not_exists, not_and, not_not] at hall
        exact hrejected ⟨fun t ht => hall.1 t (Or.inl ht), fun t ht => hall.1 t (Or.inr ht),
          hall.2.1, hall.2.2⟩
      · rintro (⟨t, ht | ht, hunknown⟩ | ⟨t, ht, hfailed⟩ | ⟨t, ht, hblocked⟩) hall
        · exact hunknown (hall.1 t ht)
        · exact hunknown (hall.2.1 t ht)
        · exact hall.2.2.1 t ht hfailed
        · exact hall.2.2.2 t ht hblocked
    · have hmem := TaskDAG.mem_readyTaskIds hready (t := t)
      rw [hmem]
      refine and_congr_right fun _ => and_congr_right fun _ => and_congr_right fun hfailed =>
        and_congr_left' ?_
      rw [Blocked, not_and]
      exact ⟨fun hpath _ => hpath, fun hpath => hpath hfailed⟩

/-- A task that is listed before its dependency. -/
def dependentFirst : List TaskNode :=
  [{ taskId := "a", dependsOn := ["b"], taskId_pattern := isTaskId_a, dependsOn_nodup := nodup_b },
    { taskId := "b", dependsOn := [], taskId_pattern := isTaskId_b }]

theorem dependentFirst_valid : ReferencesValid dependentFirst :=
  ⟨by decide, by decide⟩

theorem taskGraph_queries_dependentFirst :
    IsLeast {l | Orders.Topological (DependsOn dependentFirst)
      (dependentFirst.map TaskNode.taskId) l} ["b", "a"] :=
  ((taskGraph_queries dependentFirst_valid).2.1 ["b", "a"]
    (topologicalOrderOf_eq_ok.2 ⟨by decide, by decide⟩)).1

end DevFlow
