/-
# Task graphs with all fields of their nodes

`TaskNode` and `TaskDAG` of `models/dag.py` with every field, and
`normalize_task_dag` of `persistence/dag.py`.  The graph of ids and dependencies
that a `TaskDAGRecord` has underneath is a `TaskDAG`, so its order is the one
proved about there.

Normalising builds the graph anew through the validators.  They accept it, since
it has the same ids and dependencies (`normalizeTaskDag_eq`), and its result
depends on the nodes up to their order and the order of their dependencies alone
(`TaskDAGRecord.Reordered.normalized_eq`).
-/

import DevFlow.Library.Tables
import DevFlow.Models.TaskRecords

namespace DevFlow

open Documents (Json Codec Validated)

/-! ### `TaskNode` -/

/-- The fields of `TaskNode`. -/
structure TaskNodeFields where
  task : TaskContractRecord
  dependsOn : List String := []
  executionMode : WorkflowExecutionMode := .agent
  produces : List String := []
  consumes : List String := []
  complexity : Option PlanningComplexity := none
  budgetAllocation : Option TaskBudgetAllocation := none
  complexityAssessment : Option PlanningComplexityAssessment := none
  resumeContext : Option TaskResumeRecord := none

/-- The loop of `validate_dependencies`, for one value. -/
def normalizeDependency (value : String) : Except Failure String := do
  let dependency := strip value
  Raising.raiseIf (dependency = "") ⟨.valueError, "dependency task ids must not be empty"⟩
  Raising.raiseIf (isTaskId dependency = false)
    ⟨.valueError, "dependency task ids must use the TaskContract task_id format"⟩
  return dependency

/-- `validate_dependencies`. -/
def validateDependencies (values : List String) : Except Failure (List String) := do
  let normalized ← values.mapM normalizeDependency
  Raising.raiseIf (¬normalized.Nodup)
    ⟨.valueError, "depends_on must not contain duplicate task ids"⟩
  return normalized

/-- The validators of `TaskNode`. -/
def TaskNodeFields.validate (fields : TaskNodeFields) : Except Failure TaskNodeFields := do
  let taskId := fields.task.val.taskId
  let dependsOn ← validateDependencies fields.dependsOn
  Raising.raiseIf (16 < fields.produces.length) (boundError "produces has too many items")
  Raising.raiseIf (16 < fields.consumes.length) (boundError "consumes has too many items")
  Raising.raiseIf (taskId ∈ dependsOn)
    ⟨.valueError, "task '" ++ taskId ++ "' must not depend on itself"⟩
  Raising.raiseIf (¬fields.produces.Nodup)
    ⟨.valueError, "produced interfaces must not contain duplicates"⟩
  Raising.raiseIf (¬fields.consumes.Nodup)
    ⟨.valueError, "consumed interfaces must not contain duplicates"⟩
  Raising.raiseIf (∃ allocation ∈ fields.budgetAllocation, allocation.val.packageId ≠ taskId)
    ⟨.valueError, "task budget allocation must belong to this task"⟩
  Raising.raiseIf (∃ assessment ∈ fields.complexityAssessment, assessment.val.packageId ≠ taskId)
    ⟨.valueError, "task complexity assessment must belong to this task"⟩
  Raising.raiseIf (∃ complexity ∈ fields.complexity, ∃ assessment ∈ fields.complexityAssessment,
      complexity ≠ assessment.val.complexity)
    ⟨.valueError, "task complexity and assessment complexity must agree"⟩
  return { fields with dependsOn }

theorem normalizeDependency_eq_ok {value dependency : String} :
    normalizeDependency value = .ok dependency ↔
      strip value = dependency ∧ isTaskId dependency = true := by
  simp only [normalizeDependency, Raising.bind_eq_ok, Raising.raiseIf_eq_ok, Raising.pure_eq_ok,
    Bool.not_eq_false]
  constructor
  · rintro ⟨_, -, _, hid, rfl⟩
    exact ⟨rfl, hid⟩
  · rintro ⟨rfl, hid⟩
    refine ⟨⟨⟩, fun hempty => ?_, ⟨⟩, hid, rfl⟩
    rw [hempty] at hid
    cases hid

/-- **The lists of dependencies that the check keeps.** -/
theorem validateDependencies_eq_self_iff {values : List String} :
    validateDependencies values = .ok values ↔
      (∀ d ∈ values, isTaskId d = true) ∧ values.Nodup := by
  simp only [validateDependencies, Raising.bind_eq_ok, Raising.raiseIf_eq_ok, Raising.pure_eq_ok,
    Raising.mapM_eq_ok, not_not]
  constructor
  · rintro ⟨normalized, hitems, _, hnodup, rfl⟩
    exact ⟨fun d hd => (normalizeDependency_eq_ok.1 (List.forall₂_same.1 hitems d hd)).2, hnodup⟩
  · rintro ⟨hids, hnodup⟩
    refine ⟨values, List.forall₂_same.2 fun d hd => ?_, ⟨⟩, hnodup, rfl⟩
    exact normalizeDependency_eq_ok.2 ⟨strip_of_isTaskId (hids d hd), hids d hd⟩

theorem validateDependencies_stable {values normalized : List String}
    (h : validateDependencies values = .ok normalized) :
    validateDependencies normalized = .ok normalized := by
  simp only [validateDependencies, Raising.bind_eq_ok, Raising.raiseIf_eq_ok,
    Raising.pure_eq_ok] at h ⊢
  obtain ⟨items, hitems, _, hnodup, rfl⟩ := h
  refine ⟨items, Raising.mapM_stable (fun a b hab => ?_) hitems, ⟨⟩, hnodup, rfl⟩
  obtain ⟨rfl, hid⟩ := normalizeDependency_eq_ok.1 hab
  exact normalizeDependency_eq_ok.2 ⟨strip_strip a, hid⟩

theorem TaskNodeFields.validate_stable (a b : TaskNodeFields) (h : a.validate = .ok b) :
    b.validate = .ok b := by
  simp only [validate, Raising.bind_eq_ok, Raising.raiseIf_eq_ok, Raising.pure_eq_ok] at h ⊢
  obtain ⟨dependsOn, hdeps, _, h₁, _, h₂, _, h₃, _, h₄, _, h₅, _, h₆, _, h₇, _, h₈, rfl⟩ := h
  exact ⟨dependsOn, validateDependencies_stable hdeps, ⟨⟩, h₁, ⟨⟩, h₂, ⟨⟩, h₃, ⟨⟩, h₄, ⟨⟩, h₅, ⟨⟩,
    h₆, ⟨⟩, h₇, ⟨⟩, h₈, rfl⟩

/-- `TaskNode`. -/
abbrev TaskNodeRecord := Validated TaskNodeFields.validate

/-- The constructor of `TaskNode`. -/
def TaskNodeFields.make (fields : TaskNodeFields) : Except Failure TaskNodeRecord :=
  Validated.make TaskNodeFields.validate_stable fields

/-- Another list of the same dependencies is as valid. -/
theorem TaskNodeFields.validate_perm {fields : TaskNodeFields} {dependsOn : List String}
    (hperm : fields.dependsOn.Perm dependsOn) (h : fields.validate = .ok fields) :
    ({ fields with dependsOn } : TaskNodeFields).validate = .ok { fields with dependsOn } := by
  simp only [validate, Raising.bind_eq_ok, Raising.raiseIf_eq_ok, Raising.pure_eq_ok] at h ⊢
  obtain ⟨normalized, hdeps, _, h₁, _, h₂, _, h₃, _, h₄, _, h₅, _, h₆, _, h₇, _, h₈, heq⟩ := h
  have hself : normalized = fields.dependsOn := by rw [← heq]
  subst hself
  obtain ⟨hids, hnodup⟩ := validateDependencies_eq_self_iff.1 hdeps
  refine ⟨dependsOn, validateDependencies_eq_self_iff.2 ⟨fun d hd => hids d (hperm.mem_iff.2 hd),
    hperm.nodup_iff.1 hnodup⟩, ⟨⟩, h₁, ⟨⟩, h₂, ⟨⟩, fun hmem => h₃ (hperm.mem_iff.2 hmem), ⟨⟩, h₄,
    ⟨⟩, h₅, ⟨⟩, h₆, ⟨⟩, h₇, ⟨⟩, h₈, rfl⟩

namespace TaskNodeRecord

/-- What the validators say of the lists of a node. -/
theorem facts (node : TaskNodeRecord) :
    node.val.dependsOn.Nodup ∧ node.val.task.val.taskId ∉ node.val.dependsOn ∧
      node.val.produces.Nodup ∧ node.val.consumes.Nodup := by
  have h := node.property
  simp only [TaskNodeFields.validate, Raising.bind_eq_ok, Raising.raiseIf_eq_ok,
    Raising.pure_eq_ok, not_not] at h
  obtain ⟨normalized, hdeps, _, -, _, -, _, hself, _, hproduces, _, hconsumes, _, -, _, -, _, -,
    heq⟩ := h
  have hdependsOn : normalized = node.val.dependsOn := by rw [← heq]
  subst hdependsOn
  exact ⟨(validateDependencies_eq_self_iff.1 hdeps).2, hself, hproduces, hconsumes⟩

/-- The node as the graph queries see it. -/
def toTaskNode (node : TaskNodeRecord) : TaskNode where
  taskId := node.val.task.val.taskId
  dependsOn := node.val.dependsOn
  executionMode := node.val.executionMode
  produces := node.val.produces
  consumes := node.val.consumes
  complexity := node.val.complexity
  resumeContext := node.val.resumeContext.map fun context =>
    { sourceRunId := context.val.sourceRunId.val
      checkpointCommitSha := context.val.checkpointCommitSha
      strategy := context.val.strategy
      contextState := context.val.contextState.map fun state =>
        { repositoryHead := state.val.repositoryHead, changedFiles := state.val.changedFiles }
      verificationSummary := context.val.verificationSummary
      failureSummary := context.val.failureSummary
      remainingSummary := context.val.remainingSummary }
  taskId_pattern := node.val.task.isTaskId
  dependsOn_nodup := node.facts.1
  no_self_dependency := node.facts.2.1
  produces_nodup := node.facts.2.2.1
  consumes_nodup := node.facts.2.2.2

/-- The id of the node's task. -/
def taskId (node : TaskNodeRecord) : String :=
  node.val.task.val.taskId

@[simp] theorem toTaskNode_taskId (node : TaskNodeRecord) : node.toTaskNode.taskId = node.taskId :=
  rfl

@[simp] theorem toTaskNode_dependsOn (node : TaskNodeRecord) :
    node.toTaskNode.dependsOn = node.val.dependsOn :=
  rfl

/-- The node with its dependencies sorted. -/
def sorted (node : TaskNodeRecord) : TaskNodeRecord :=
  ⟨{ node.val with dependsOn := node.val.dependsOn.insertionSort (· ≤ ·) },
    TaskNodeFields.validate_perm (List.perm_insertionSort _ _).symm node.property⟩

@[simp] theorem sorted_taskId (node : TaskNodeRecord) : node.sorted.taskId = node.taskId :=
  rfl

/-- The constructor accepts the sorted node. -/
theorem make_sorted (node : TaskNodeRecord) :
    ({ node.val with dependsOn := node.val.dependsOn.insertionSort (· ≤ ·) } :
      TaskNodeFields).make = .ok node.sorted :=
  Validated.make_val node.sorted

/-- Two nodes that differ in the order of their dependencies at most. -/
def SameButOrder (node node' : TaskNodeRecord) : Prop :=
  node.val.dependsOn.Perm node'.val.dependsOn ∧
    node'.val = { node.val with dependsOn := node'.val.dependsOn }

theorem sameButOrder_sorted (node : TaskNodeRecord) : SameButOrder node node.sorted :=
  ⟨(List.perm_insertionSort _ _).symm, rfl⟩

theorem SameButOrder.taskId_eq {node node' : TaskNodeRecord} (h : SameButOrder node node') :
    node.taskId = node'.taskId := by
  rw [taskId, taskId, h.2]

/-- **Sorting forgets the order of the dependencies.** -/
theorem SameButOrder.sorted_eq {node node' : TaskNodeRecord} (h : SameButOrder node node') :
    node.sorted = node'.sorted := by
  have hlists : node.val.dependsOn.insertionSort (· ≤ ·) =
      node'.val.dependsOn.insertionSort (· ≤ ·) :=
    (((List.perm_insertionSort _ _).trans h.1).trans
      (List.perm_insertionSort _ _).symm).eq_of_pairwise
        (fun _ _ _ _ hab hba => le_antisymm hab hba)
        (List.pairwise_insertionSort _ _) (List.pairwise_insertionSort _ _)
  refine Subtype.ext ?_
  dsimp only [sorted]
  rw [← hlists, h.2]

end TaskNodeRecord

/-! ### `TaskDAG` -/

/-- `TaskDAG`. -/
structure TaskDAGRecord where
  tasks : List TaskNodeRecord
  valid : validateGraph (tasks.map TaskNodeRecord.toTaskNode) = .ok ()

namespace TaskDAGRecord

variable {dag dag' : TaskDAGRecord}

/-- The constructor of `TaskDAG`. -/
def ofNodes (tasks : List TaskNodeRecord) : Except Failure TaskDAGRecord :=
  match h : validateGraph (tasks.map TaskNodeRecord.toTaskNode) with
  | .ok _ => .ok ⟨tasks, h⟩
  | .error failure => .error failure

/-- The nodes as the graph queries see them. -/
def nodes (dag : TaskDAGRecord) : List TaskNode :=
  dag.tasks.map TaskNodeRecord.toTaskNode

/-- `topological_order`. -/
def topologicalOrder (dag : TaskDAGRecord) : Except Failure (List String) :=
  topologicalOrderOf dag.nodes

/-- The node of an id. -/
def node? (dag : TaskDAGRecord) (taskId : String) : Option TaskNodeRecord :=
  dag.tasks.find? fun node => node.taskId = taskId

/-- `node`. -/
def node (dag : TaskDAGRecord) (taskId : String) : Except Failure TaskNodeRecord :=
  (dag.node? taskId).elim (.error ⟨.keyError, "unknown task id: " ++ taskId⟩) .ok

theorem ofNodes_tasks (dag : TaskDAGRecord) : ofNodes dag.tasks = .ok dag := by
  unfold ofNodes
  split
  · rfl
  · rename_i failure hfailed
    rw [dag.valid] at hfailed
    cases hfailed

theorem ofNodes_eq_ok {tasks : List TaskNodeRecord} : ofNodes tasks = .ok dag ↔ dag.tasks = tasks := by
  constructor
  · intro h
    unfold ofNodes at h
    split at h
    · obtain rfl := Except.ok.inj h
      rfl
    · cases h
  · rintro rfl
    exact dag.ofNodes_tasks

theorem references (dag : TaskDAGRecord) : ReferencesValid dag.nodes :=
  (validateGraph_eq_ok.1 dag.valid).2.1

/-- The topological order of the graph. -/
def order (dag : TaskDAGRecord) : List String :=
  kahnOrder dag.nodes

theorem topologicalOrder_eq (dag : TaskDAGRecord) : dag.topologicalOrder = .ok dag.order :=
  topologicalOrderOf_eq_ok.2 ⟨(validateGraph_eq_ok.1 dag.valid).2.2, rfl⟩

theorem map_nodes_taskId (dag : TaskDAGRecord) :
    dag.nodes.map TaskNode.taskId = dag.tasks.map TaskNodeRecord.taskId := by
  rw [nodes, List.map_map]
  rfl

theorem keyed (dag : TaskDAGRecord) : Tables.Keyed TaskNodeRecord.taskId dag.tasks := by
  have h := dag.references.ids_nodup
  rw [map_nodes_taskId] at h
  exact h

theorem node?_eq_some {node : TaskNodeRecord} {taskId : String} :
    dag.node? taskId = some node ↔ node ∈ dag.tasks ∧ node.taskId = taskId := by
  constructor
  · intro h
    exact ⟨List.mem_of_find?_eq_some h, by simpa using List.find?_some h⟩
  · rintro ⟨hmem, rfl⟩
    exact dag.keyed.find?_of_mem hmem

/-- The order is a permutation of the ids. -/
theorem order_perm (dag : TaskDAGRecord) :
    dag.order.Perm (dag.tasks.map TaskNodeRecord.taskId) := by
  have hleast := kahnOrder_isLeast dag.references.ids_nodup (validateGraph_eq_ok.1 dag.valid).2.2
  rw [← map_nodes_taskId]
  exact hleast.1.perm

/-- The nodes in the order of the graph. -/
def ordered (dag : TaskDAGRecord) : List TaskNodeRecord :=
  dag.order.filterMap dag.node?

theorem ordered_perm (dag : TaskDAGRecord) : dag.ordered.Perm dag.tasks := by
  refine (dag.order_perm.filterMap dag.node?).trans (List.Perm.of_eq ?_)
  rw [List.filterMap_map]
  refine (List.filterMap_congr fun node hnode => ?_).trans (List.filterMap_some (l := dag.tasks))
  exact node?_eq_some.2 ⟨hnode, rfl⟩

/-! ### Graphs that differ in their order at most -/

/-- The same nodes in another order, each with its dependencies in another order. -/
def Reordered (dag dag' : TaskDAGRecord) : Prop :=
  ∃ listed, dag.tasks.Perm listed ∧ List.Forall₂ TaskNodeRecord.SameButOrder listed dag'.tasks

theorem Reordered.nodes (h : Reordered dag dag') : DevFlow.Reordered dag.nodes dag'.nodes := by
  obtain ⟨listed, hperm, hsame⟩ := h
  refine ⟨listed.map TaskNodeRecord.toTaskNode, hperm.map _, ?_⟩
  rw [TaskDAGRecord.nodes, List.forall₂_map_left_iff, List.forall₂_map_right_iff]
  exact hsame.imp fun _ _ hnode => ⟨hnode.taskId_eq, hnode.1⟩

theorem Reordered.order_eq (h : Reordered dag dag') : dag.order = dag'.order := by
  have horder := h.nodes.topologicalOrderOf_eq_ok dag.references dag.topologicalOrder_eq
  exact Except.ok.inj (horder.symm.trans dag'.topologicalOrder_eq)

/-- The nodes of an id are the same, up to the order of their dependencies. -/
theorem Reordered.node?_eq (h : Reordered dag dag') (taskId : String) :
    (dag.node? taskId).map TaskNodeRecord.sorted = (dag'.node? taskId).map TaskNodeRecord.sorted := by
  cases hfound : dag.node? taskId with
  | some node =>
    obtain ⟨hmem, hid⟩ := node?_eq_some.1 hfound
    obtain ⟨listed, hperm, hsame⟩ := h
    obtain ⟨node', hmem', hnode⟩ := Raising.exists_of_forall₂_left hsame (hperm.mem_iff.1 hmem)
    rw [node?_eq_some.2 ⟨hmem', hnode.taskId_eq.symm.trans hid⟩, Option.map_some, Option.map_some,
      hnode.sorted_eq]
  | none =>
    have hids : (dag.nodes.map TaskNode.taskId).Perm (dag'.nodes.map TaskNode.taskId) :=
      h.nodes.ids_perm
    rw [map_nodes_taskId, map_nodes_taskId] at hids
    have hnone : dag'.node? taskId = none := by
      refine Tables.find?_eq_none.2 fun node' hmem' hid => ?_
      obtain ⟨node, hmem, hid'⟩ := List.mem_map.1 (hids.mem_iff.2 (List.mem_map_of_mem hmem'))
      rw [node?_eq_some.2 ⟨hmem, hid'.trans hid⟩] at hfound
      cases hfound
    rw [hnone]

/-- **The graph of the same nodes in another order is as valid.** -/
theorem valid_of_reordered (dag : TaskDAGRecord) {nodes : List TaskNode}
    (h : DevFlow.Reordered dag.nodes nodes) : validateGraph nodes = .ok () := by
  obtain ⟨hne, hrefs, -⟩ := validateGraph_eq_ok.1 dag.valid
  have horder := h.topologicalOrderOf_eq_ok hrefs dag.topologicalOrder_eq
  refine validateGraph_eq_ok.2 ⟨?_, h.referencesValid hrefs, (topologicalOrderOf_eq_ok.1 horder).1⟩
  rintro rfl
  have hids := h.ids_perm
  rw [List.map_nil, List.perm_nil, List.map_eq_nil_iff] at hids
  exact hne hids

/-- The same nodes in another order are a graph. -/
theorem exists_of_perm {tasks : List TaskNodeRecord} (h : dag.tasks.Perm tasks) :
    ∃ dag' : TaskDAGRecord, dag'.tasks = tasks ∧ dag.Reordered dag' := by
  have hvalid : validateGraph (tasks.map TaskNodeRecord.toTaskNode) = .ok () :=
    dag.valid_of_reordered ⟨_, h.map TaskNodeRecord.toTaskNode,
      List.forall₂_same.2 fun node _ => ⟨rfl, List.Perm.refl _⟩⟩
  exact ⟨⟨tasks, hvalid⟩, rfl, tasks, h, List.forall₂_same.2 fun node _ => ⟨List.Perm.refl _, rfl⟩⟩

/-! ### `normalize_task_dag` -/

/-- `normalize_task_dag`. -/
def normalizeTaskDag (dag : TaskDAGRecord) : Except Failure TaskDAGRecord := do
  let order ← dag.topologicalOrder
  let tasks ← order.mapM fun taskId => do
    let node ← dag.node taskId
    ({ node.val with dependsOn := node.val.dependsOn.insertionSort (· ≤ ·) } : TaskNodeFields).make
  ofNodes tasks

/-- The nodes of the normalized graph. -/
def sortedNodes (dag : TaskDAGRecord) : List TaskNodeRecord :=
  dag.ordered.map TaskNodeRecord.sorted

theorem sortedNodes_valid (dag : TaskDAGRecord) :
    validateGraph (dag.sortedNodes.map TaskNodeRecord.toTaskNode) = .ok () := by
  refine dag.valid_of_reordered ⟨dag.ordered.map TaskNodeRecord.toTaskNode,
    (dag.ordered_perm.map _).symm, ?_⟩
  rw [sortedNodes, List.forall₂_map_left_iff, List.forall₂_map_right_iff,
    List.forall₂_map_right_iff]
  exact List.forall₂_same.2 fun node _ => ⟨rfl, (List.perm_insertionSort _ _).symm⟩

/-- The normalized graph. -/
def normalized (dag : TaskDAGRecord) : TaskDAGRecord :=
  ⟨dag.sortedNodes, dag.sortedNodes_valid⟩

theorem reordered_normalized (dag : TaskDAGRecord) : Reordered dag dag.normalized := by
  refine ⟨dag.ordered, dag.ordered_perm.symm, ?_⟩
  show List.Forall₂ _ dag.ordered (dag.ordered.map TaskNodeRecord.sorted)
  rw [List.forall₂_map_right_iff]
  exact List.forall₂_same.2 fun node _ => node.sameButOrder_sorted

theorem sortedNodes_eq (dag : TaskDAGRecord) :
    dag.sortedNodes =
      dag.order.filterMap fun taskId => (dag.node? taskId).map TaskNodeRecord.sorted :=
  List.map_filterMap ..

/-- **The normalized graph forgets the order of nodes and of dependencies.** -/
theorem Reordered.normalized_eq (h : Reordered dag dag') : dag.normalized = dag'.normalized := by
  have hnodes : dag.sortedNodes = dag'.sortedNodes := by
    rw [sortedNodes_eq, sortedNodes_eq, h.order_eq]
    exact List.filterMap_congr fun taskId _ => h.node?_eq taskId
  simp only [normalized, hnodes]

theorem normalized_normalized (dag : TaskDAGRecord) : dag.normalized.normalized = dag.normalized :=
  dag.reordered_normalized.normalized_eq.symm

/-- The ids of the order are ids of nodes. -/
theorem exists_node? (dag : TaskDAGRecord) {taskId : String} (h : taskId ∈ dag.order) :
    ∃ node, dag.node? taskId = some node := by
  obtain ⟨node, hnode, hid⟩ := List.mem_map.1 (dag.order_perm.mem_iff.1 h)
  exact ⟨node, node?_eq_some.2 ⟨hnode, hid⟩⟩

/-- A loop over the order that does something with the node of each id. -/
theorem mapM_order {α : Type} (dag : TaskDAGRecord) {f : TaskNodeRecord → Except Failure α}
    {g : TaskNodeRecord → α} (hf : ∀ node, f node = .ok (g node)) :
    dag.order.mapM (fun taskId => dag.node taskId >>= f) = .ok (dag.ordered.map g) := by
  rw [Raising.mapM_eq_ok, ordered]
  have hall : ∀ taskId ∈ dag.order, ∃ node, dag.node? taskId = some node :=
    fun _ => dag.exists_node?
  generalize dag.order = order at hall
  induction order with
  | nil => exact List.Forall₂.nil
  | cons taskId order ih =>
    obtain ⟨⟨node, hnode⟩, hrest⟩ := List.forall_mem_cons.1 hall
    rw [List.filterMap_cons_some hnode, List.map_cons]
    refine List.Forall₂.cons ?_ (ih hrest)
    rw [TaskDAGRecord.node, hnode]
    exact hf node

/-- **`normalize_task_dag` returns the normalized graph.** -/
theorem normalizeTaskDag_eq (dag : TaskDAGRecord) : dag.normalizeTaskDag = .ok dag.normalized := by
  rw [normalizeTaskDag, topologicalOrder_eq, Raising.ok_bind,
    dag.mapM_order TaskNodeRecord.make_sorted, Raising.ok_bind]
  exact dag.normalized.ofNodes_tasks

end TaskDAGRecord

end DevFlow
