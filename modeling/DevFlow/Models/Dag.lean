/-
# The task graph

`models/dag.py`: `TaskNode` and `TaskDAG` with its deterministic queries.  The
heap of `topological_order` is the sorted list of its elements, so that
`heappop` takes the head and `heappush` inserts in order; texts are ordered by
code points, as in the source.  A `TaskDAG` carries what `validate_graph`
checks.  Of a node only the fields that the modelled code reads are kept.
-/

import DevFlow.Models.Checkpoint
import Mathlib.Data.List.Sort
import Mathlib.Data.String.Basic

namespace DevFlow

/-- `WorkflowExecutionMode`. -/
inductive WorkflowExecutionMode
  | workflow
  | agent
  | hybrid
deriving DecidableEq, Repr

/-- `PlanningComplexity`. -/
inductive PlanningComplexity
  | low
  | medium
  | high
deriving DecidableEq, Repr

theorem nodup_b : ["b"].Nodup := by
  decide

/-- `TaskNode`: the task's id, its dependencies and the planning facts. -/
structure TaskNode where
  taskId : String
  dependsOn : List String
  executionMode : WorkflowExecutionMode := .agent
  /-- The interfaces that the task exports, and those that it needs. -/
  produces : List String := []
  consumes : List String := []
  complexity : Option PlanningComplexity := none
  /-- Only on the nodes of a recovery DAG. -/
  resumeContext : Option TaskResumeContext := none
  taskId_pattern : isTaskId taskId = true := by decide +kernel
  dependsOn_nodup : dependsOn.Nodup := by first | exact List.nodup_nil | decide
  no_self_dependency : taskId ∉ dependsOn := by first | exact List.not_mem_nil | decide
  produces_nodup : produces.Nodup := by first | exact List.nodup_nil | decide
  consumes_nodup : consumes.Nodup := by first | exact List.nodup_nil | decide
deriving DecidableEq

/-- `_dependents()[task_id]`, sorted. -/
def dependents (tasks : List TaskNode) (taskId : String) : List String :=
  ((tasks.filter fun node => taskId ∈ node.dependsOn).map TaskNode.taskId).insertionSort (· ≤ ·)

/-- The state of the loop of `topological_order`: open dependencies, and the
heap of tasks without any. -/
structure OrderState where
  indegree : String → ℕ
  ready : List String

/-- One dependent of the task that was just ordered. -/
def OrderState.release (state : OrderState) (dependent : String) : OrderState :=
  let degree := state.indegree dependent - 1
  { indegree := Function.update state.indegree dependent degree
    ready := if degree = 0 then state.ready.orderedInsert (· ≤ ·) dependent else state.ready }

/-- The `while` loop of `topological_order`.  A task enters the heap when its
last dependency is ordered, so once, and `tasks.length` rounds are enough. -/
def orderLoop (tasks : List TaskNode) : ℕ → OrderState → List String
  | 0, _ => []
  | fuel + 1, state =>
    match state.ready with
    | [] => []
    | taskId :: ready =>
      taskId :: orderLoop tasks fuel
        ((dependents tasks taskId).foldl OrderState.release { state with ready })

/-- `topological_order` before its check for a cycle. -/
def kahnOrder (tasks : List TaskNode) : List String :=
  orderLoop tasks tasks.length
    { indegree := fun taskId =>
        ((tasks.find? fun node => node.taskId = taskId).map fun node => node.dependsOn.length).getD 0
      ready := ((tasks.filter fun node => node.dependsOn = []).map TaskNode.taskId).insertionSort
        (· ≤ ·) }

/-- `TaskDAG`, with `validate_graph`. -/
structure TaskDAG where
  tasks : List TaskNode
  tasks_nonempty : tasks ≠ [] := by decide
  ids_nodup : (tasks.map TaskNode.taskId).Nodup := by decide
  dependencies_known : ∀ node ∈ tasks, ∀ dependency ∈ node.dependsOn,
    dependency ∈ tasks.map TaskNode.taskId := by decide
  acyclic : (kahnOrder tasks).length = tasks.length := by decide +kernel

namespace TaskDAG

/-- `task_ids`. -/
def taskIds (dag : TaskDAG) : List String :=
  dag.tasks.map TaskNode.taskId

/-- `node`, without the `KeyError` for an unknown id. -/
def node? (dag : TaskDAG) (taskId : String) : Option TaskNode :=
  dag.tasks.find? fun node => node.taskId = taskId

/-- `topological_order`; a validated graph has no cycle to report. -/
def topologicalOrder (dag : TaskDAG) : List String :=
  kahnOrder dag.tasks

/-- `_validate_runtime_ids`. -/
def validateRuntimeIds (dag : TaskDAG) (taskIds : List String) (label : String) :
    Except Failure Unit :=
  let unknown := (taskIds.filter fun t => t ∉ dag.taskIds).dedup
  Raising.raiseIf (unknown ≠ [])
    ⟨.valueError, "unknown " ++ label ++ " task ids: " ++
      ", ".intercalate (unknown.insertionSort (· ≤ ·))⟩

/-- The breadth-first loop of `blocked_task_ids`; each task enters the queue at
most once, after the failed ones. -/
def blockedLoop (tasks : List TaskNode) (failed : List String) :
    ℕ → (queue blocked : List String) → List String
  | 0, _, blocked => blocked
  | _ + 1, [], blocked => blocked
  | fuel + 1, taskId :: queue, blocked =>
    let found := (dependents tasks taskId).filter fun t => t ∉ failed ∧ t ∉ blocked
    blockedLoop tasks failed fuel (queue ++ found) (blocked ++ found)

/-- `blocked_task_ids`: the descendants of failed tasks, in topological order. -/
def blockedTaskIds (dag : TaskDAG) (failed : List String) : Except Failure (List String) := do
  dag.validateRuntimeIds failed "failed"
  let blocked := blockedLoop dag.tasks failed (failed.length + dag.tasks.length)
    (failed.dedup.insertionSort (· ≤ ·)) []
  return dag.topologicalOrder.filter fun t => t ∈ blocked

/-- `ready_task_ids`: the tasks whose dependencies are completed and which are
neither completed, failed nor blocked. -/
def readyTaskIds (dag : TaskDAG) (completed failed : List String) :
    Except Failure (List String) := do
  dag.validateRuntimeIds completed "completed"
  dag.validateRuntimeIds failed "failed"
  let overlap := completed.filter fun t => t ∈ failed
  Raising.raiseIf (overlap ≠ [])
    ⟨.valueError, "task ids cannot be both completed and failed: " ++
      ", ".intercalate (overlap.dedup.insertionSort (· ≤ ·))⟩
  let blocked ← dag.blockedTaskIds failed
  let inconsistent := completed.filter fun t => t ∈ blocked
  Raising.raiseIf (inconsistent ≠ [])
    ⟨.valueError, "completed tasks cannot be downstream of failed tasks: " ++
      ", ".intercalate (inconsistent.dedup.insertionSort (· ≤ ·))⟩
  return dag.topologicalOrder.filter fun t =>
    t ∉ completed ∧ t ∉ failed ∧ t ∉ blocked ∧
      ((dag.node? t).any fun node => node.dependsOn.all fun d => d ∈ completed) = true

end TaskDAG

end DevFlow
