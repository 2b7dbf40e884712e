/-
# The task graph of a derived run

Of `api/autonomous.py` and `persistence/dag.py` what a graph goes through before a
derived run is started with it: the tasks with SUCCEEDED evidence are left out, a
checkpoint is bound to its task, and the graph is normalized.  Each of these keeps
the resume contexts of the nodes that it keeps.
-/

import DevFlow.Models.Dag

namespace DevFlow

namespace TaskNode

/-- `model_copy` with the dependencies that are not completed. -/
def withoutDependencies (node : TaskNode) (completed : List String) : TaskNode :=
  { node with
    dependsOn := node.dependsOn.filter fun dependency => dependency ∉ completed
    dependsOn_nodup := node.dependsOn_nodup.filter _
    no_self_dependency := fun h => node.no_self_dependency (List.mem_of_mem_filter h) }

/-- The node with its dependencies sorted. -/
def sorted (node : TaskNode) : TaskNode :=
  { node with
    dependsOn := node.dependsOn.insertionSort (· ≤ ·)
    dependsOn_nodup :=
      (List.perm_insertionSort (· ≤ ·) node.dependsOn).nodup_iff.2 node.dependsOn_nodup
    no_self_dependency := fun h =>
      node.no_self_dependency ((List.mem_insertionSort (· ≤ ·)).1 h) }

/-- `model_copy` with a resume context. -/
def resuming (node : TaskNode) (context : TaskResumeContext) : TaskNode :=
  { node with resumeContext := some context }

/-- The commit of the checkpoint that the node resumes from. -/
def checkpointCommit (node : TaskNode) : Option String :=
  node.resumeContext.map TaskResumeContext.checkpointCommitSha

end TaskNode

/-- The resume context of a checkpoint. -/
def TaskCheckpoint.resumeContext (checkpoint : TaskCheckpoint) (sourceRunId : UUID) :
    TaskResumeContext where
  sourceRunId := sourceRunId
  checkpointCommitSha := checkpoint.commitSha
  strategy := if checkpoint.reason = .verificationFailure then .verifyThenRepair
    else .continueDevelopment
  contextState := checkpoint.contextState
  verificationSummary := checkpoint.verificationSummary
  failureSummary := checkpoint.failureSummary
  remainingSummary := checkpoint.remainingSummary

namespace TaskDAG

/-- `TaskDAG(tasks=tasks)`. -/
def ofTasks (tasks : List TaskNode) : Except Failure TaskDAG :=
  if h : tasks ≠ [] ∧ (tasks.map TaskNode.taskId).Nodup ∧
      (∀ node ∈ tasks, ∀ dependency ∈ node.dependsOn, dependency ∈ tasks.map TaskNode.taskId) ∧
      (kahnOrder tasks).length = tasks.length then
    return ⟨tasks, h.1, h.2.1, h.2.2.1, h.2.2.2⟩
  else throw ⟨.valueError, "TaskDAG failed validation"⟩

/-- The commits of the checkpoints that the nodes resume from. -/
def checkpointCommits (dag : TaskDAG) : List String :=
  dag.tasks.filterMap TaskNode.checkpointCommit

/-- `normalize_task_dag`. -/
def normalize (dag : TaskDAG) : Except Failure TaskDAG :=
  ofTasks (dag.topologicalOrder.filterMap fun taskId => (dag.node? taskId).map TaskNode.sorted)

/-- `_remaining_session_dag`. -/
def remaining (dag : TaskDAG) (completed : List String) : Except Failure (Option TaskDAG) :=
  let pending := dag.tasks.filter fun node => node.taskId ∉ completed
  if pending = [] then return none
  else some <$> ofTasks (pending.map fun node => node.withoutDependencies completed)

/-- `_with_checkpoint_resume_context`. -/
def withCheckpointResumeContext (dag : TaskDAG) (checkpoint : TaskCheckpoint)
    (sourceRunId : UUID) : Except Failure TaskDAG := do
  Raising.raiseIf (checkpoint.taskId ∉ dag.taskIds)
    ⟨.persistenceCorruption, "checkpoint task is absent from resumed DAG"⟩
  ofTasks (dag.tasks.map fun node =>
    if node.taskId = checkpoint.taskId then node.resuming (checkpoint.resumeContext sourceRunId)
    else node)

section contexts

variable {dag dag' : TaskDAG} {tasks : List TaskNode} {completed : List String} {commit : String}

theorem ofTasks_eq_ok (h : ofTasks tasks = .ok dag) : dag.tasks = tasks := by
  unfold ofTasks at h
  split_ifs at h
  rw [← Except.ok.inj h]

theorem mem_checkpointCommits : commit ∈ dag.checkpointCommits ↔
    ∃ node ∈ dag.tasks, node.checkpointCommit = some commit :=
  List.mem_filterMap

/-- **A normalized graph has the tasks and the contexts of the graph.** -/
theorem normalize_eq_ok (h : dag.normalize = .ok dag') :
    dag'.taskIds ⊆ dag.taskIds ∧ dag'.checkpointCommits ⊆ dag.checkpointCommits := by
  have hnode : ∀ node ∈ dag'.tasks, ∃ original ∈ dag.tasks, node = original.sorted := by
    intro node hnode
    rw [ofTasks_eq_ok h] at hnode
    obtain ⟨taskId, -, hfound⟩ := List.mem_filterMap.1 hnode
    obtain ⟨original, hfind, rfl⟩ := Option.map_eq_some_iff.1 hfound
    exact ⟨original, List.mem_of_find?_eq_some hfind, rfl⟩
  constructor
  · intro taskId htask
    obtain ⟨node, hmem, rfl⟩ := List.mem_map.1 htask
    obtain ⟨original, horiginal, rfl⟩ := hnode node hmem
    exact List.mem_map.2 ⟨original, horiginal, rfl⟩
  · intro commit hcommit
    obtain ⟨node, hmem, hcontext⟩ := mem_checkpointCommits.1 hcommit
    obtain ⟨original, horiginal, rfl⟩ := hnode node hmem
    exact mem_checkpointCommits.2 ⟨original, horiginal, hcontext⟩

/-- **What is left of a graph**: nodes that are not completed, with their contexts. -/
theorem remaining_eq_ok (h : dag.remaining completed = .ok (some dag')) :
    (∀ taskId ∈ dag'.taskIds, taskId ∉ completed) ∧
      ∀ commit ∈ dag'.checkpointCommits, ∃ node ∈ dag.tasks, node.taskId ∉ completed ∧
        node.checkpointCommit = some commit := by
  unfold remaining at h
  dsimp only at h
  split_ifs at h
  · cases h
  · obtain ⟨dag'', hvalid, heq⟩ := Raising.map_eq_ok.1 h
    obtain rfl := Option.some.inj heq
    have hnode : ∀ node ∈ dag''.tasks, ∃ original ∈ dag.tasks, original.taskId ∉ completed ∧
        node = original.withoutDependencies completed := by
      intro node hnode
      rw [ofTasks_eq_ok hvalid] at hnode
      obtain ⟨original, hpending, rfl⟩ := List.mem_map.1 hnode
      obtain ⟨hmem, hopen⟩ := List.mem_filter.1 hpending
      exact ⟨original, hmem, by simpa using hopen, rfl⟩
    constructor
    · intro taskId htask
      obtain ⟨node, hmem, rfl⟩ := List.mem_map.1 htask
      obtain ⟨original, -, hopen, rfl⟩ := hnode node hmem
      exact hopen
    · intro commit hcommit
      obtain ⟨node, hmem, hcontext⟩ := mem_checkpointCommits.1 hcommit
      obtain ⟨original, horiginal, hopen, rfl⟩ := hnode node hmem
      exact ⟨original, horiginal, hopen, hcontext⟩

theorem remaining_checkpointCommits (h : dag.remaining completed = .ok (some dag')) :
    dag'.checkpointCommits ⊆ dag.checkpointCommits := by
  intro commit hcommit
  obtain ⟨node, hnode, -, hcontext⟩ := (remaining_eq_ok h).2 commit hcommit
  exact mem_checkpointCommits.2 ⟨node, hnode, hcontext⟩

/-- **Binding a checkpoint** to one of the tasks adds the commit of the checkpoint. -/
theorem withCheckpointResumeContext_eq_ok {checkpoint : TaskCheckpoint} {sourceRunId : UUID}
    (h : dag.withCheckpointResumeContext checkpoint sourceRunId = .ok dag') :
    checkpoint.taskId ∈ dag.taskIds ∧ dag'.taskIds = dag.taskIds ∧
      ∀ commit ∈ dag'.checkpointCommits,
        commit = checkpoint.commitSha ∨ commit ∈ dag.checkpointCommits := by
  simp only [withCheckpointResumeContext, Raising.bind_eq_ok, Raising.raiseIf_eq_ok, not_not] at h
  obtain ⟨_, hknown, hvalid⟩ := h
  have htasks := ofTasks_eq_ok hvalid
  refine ⟨hknown, ?_, fun commit hcommit => ?_⟩
  · rw [taskIds, taskIds, htasks, List.map_map]
    refine List.map_congr_left fun node _ => ?_
    dsimp only [Function.comp]
    split_ifs
    · rfl
    · rfl
  · obtain ⟨node, hnode, hcontext⟩ := mem_checkpointCommits.1 hcommit
    rw [htasks] at hnode
    obtain ⟨original, horiginal, rfl⟩ := List.mem_map.1 hnode
    split_ifs at hcontext with hsame
    · exact Or.inl (Option.some.inj hcontext).symm
    · exact Or.inr (mem_checkpointCommits.2 ⟨original, horiginal, hcontext⟩)

end contexts

end TaskDAG

end DevFlow
