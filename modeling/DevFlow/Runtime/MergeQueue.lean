/-
# The merge queue

`runtime/merge_queue.py` with `runtime/repair_merge_queue.py`: the queue that a
controller rebuilds from the integration ref and the conflict ref, and that
integrates one successful result after the other; and the view of
`runtime/generation_worktrees.py` on the worktrees of the executions.

`git merge-tree` is a parameter: a function of the two commits.  The object id
that `git commit-tree` prints is an argument of the call.
-/

import DevFlow.Models.Integration
import DevFlow.Runtime.Scheduler

namespace DevFlow

/-- What `git merge-tree --write-tree` answers: exit code 0, 1 or another. -/
inductive MergeTree
  | clean (tree : String)
  | conflict (output : String)
  | failed (exitCode : ℕ)
deriving DecidableEq, Repr

/-- An entry of `git worktree list`. -/
structure RegisteredWorktree where
  path : String
  head : Option String
  branchRef : Option GitRef
  /-- The path is there on disk. -/
  present : Bool
deriving DecidableEq, Repr

/-- A managed project: its objects and refs, its worktrees, and `changed_files` of
the base workspace. -/
structure Project where
  git : GitRepository
  worktrees : List RegisteredWorktree
  changedFiles : List String

/-- `WorkerExecutionEvidence`, with the contents that an integrating run has. -/
abbrev Execution := WorkerExecutionEvidence RunContent

/-- `execution.branch_name`. -/
def WorkerExecutionEvidence.branchName (execution : Execution) : Option String :=
  match execution.content with
  | .execution branchName _ => branchName
  | _ => none

/-- `execution.continuation.slices_started`, if the execution was continued. -/
def WorkerExecutionEvidence.slicesStarted (execution : Execution) : Option ℕ :=
  match execution.content with
  | .execution _ slices => slices
  | _ => none

/-- `executions.get(task_id)`. -/
def executionOf (executions : List Execution) (taskId : String) : Option Execution :=
  executions.find? fun execution => execution.taskId = taskId

/-- `TaskWorktreeRecord`. -/
structure TaskWorktreeRecord where
  branchName : String
  path : String
deriving DecidableEq, Repr

/-- `GenerationBoundWorktreeView.record_for`; the view has the successful
executions. -/
def recordFor (executions : List Execution) (worktrees : List RegisteredWorktree)
    (taskId baseCommit : String) : Except Failure TaskWorktreeRecord :=
  match (executionOf executions taskId).filter fun execution => execution.status = .succeeded with
  | none => throw ⟨.persistenceCorruption,
      "integration requested unavailable worker evidence for task '" ++ taskId ++ "'"⟩
  | some execution =>
    match execution.branchName, execution.commitSha with
    | some branchName, some commitSha => do
      Raising.raiseIf (baseCommit ≠ execution.baseCommit)
        ⟨.persistenceCorruption,
          "integration base for '" ++ taskId ++ "' disagrees with worker evidence"⟩
      match worktrees.filter fun item => item.branchRef = some (.heads branchName) with
      | [registered] =>
        Raising.raiseIf (registered.head ≠ some commitSha)
          ⟨.persistenceCorruption,
            "registered worktree HEAD for '" ++ taskId ++ "' moved after terminal evidence"⟩
        Raising.raiseIf (registered.present = false)
          ⟨.persistenceCorruption,
            "registered generation worktree for '" ++ taskId ++ "' is missing on disk"⟩
        return ⟨branchName, registered.path⟩
      | matching => throw ⟨.persistenceCorruption,
          "expected exactly one registered generation worktree for '" ++ taskId ++ "'; found " ++
            toString matching.length⟩
    | _, _ => throw ⟨.persistenceCorruption,
        "successful worker evidence for '" ++ taskId ++ "' lacks Git identity"⟩

/-! ### Reading Git -/

/-- A `MergeQueueError`. -/
def queueError (message : String) : Failure :=
  ⟨.mergeQueueError, message⟩

/-- `_require_full_oid`. -/
def requireFullOid (value label : String) : Except Failure Unit :=
  Raising.raiseIf (isFullOid value = false)
    (queueError (label ++ " must be a full 40-64 character hexadecimal id"))

/-- `_resolve_commit` of an object id. -/
def resolveCommit (git : GitRepository) (oid : Option String) (label : String) :
    Except Failure GitCommit :=
  match oid.bind git.commit? with
  | none => throw (queueError (label ++ " does not resolve to a full commit id"))
  | some commit => do
    Raising.raiseIf (isFullOid commit.oid = false)
      (queueError (label ++ " does not resolve to a full commit id"))
    return commit

/-- `_commit_parents`. -/
def commitParents (git : GitRepository) (oid : String) : Except Failure (List String) :=
  match git.commit? oid with
  | none => throw (queueError
      "git integration command failed: exit_code=128, operation=rev-list")
  | some commit => return commit.parents

/-- `_resolve_tree`. -/
def resolveTree (git : GitRepository) (oid : String) : Except Failure String :=
  match git.commit? oid with
  | none => throw (queueError "Git reference does not resolve to a full tree id")
  | some commit => return commit.tree

/-- The trailer lines of one key. -/
def trailers (message : List Trailer) (key : TrailerKey) : List String :=
  (message.filter fun line => line.key = key).map Trailer.value

/-- The loop of `_parse_metadata`: each key once, and its value stripped. -/
def parseMetadata (message : List Trailer) (keys : List TrailerKey) (label : String) :
    Except Failure (TrailerKey → String) := do
  Raising.raiseIf (∃ key ∈ keys, 1 < (trailers message key).length)
    (queueError (label ++ " contains duplicate DevFlow metadata"))
  Raising.raiseIf (∃ key ∈ keys, trailers message key = [])
    (queueError (label ++ " is missing required DevFlow metadata"))
  return fun key => strip ((trailers message key).headD "")

/-- The task identity that integration commits and conflict markers carry. -/
structure TaskMetadata where
  task : String
  branch : String
  base : String
  commit : String
deriving DecidableEq, Repr

/-- `_parse_integration_message`. -/
def parseIntegrationMessage (message : List Trailer) : Except Failure TaskMetadata := do
  let value ← parseMetadata message [.task, .taskBranch, .taskBase, .taskCommit]
    "integration commit"
  requireFullOid (value .taskBase) "recorded task base"
  requireFullOid (value .taskCommit) "recorded task commit"
  return ⟨value .task, value .taskBranch, value .taskBase, value .taskCommit⟩

/-- `_parse_conflict_message`: the task and the integration head. -/
def parseConflictMessage (message : List Trailer) : Except Failure (TaskMetadata × String) := do
  let value ← parseMetadata message
    [.conflictTask, .conflictBranch, .conflictBase, .conflictCommit, .conflictIntegrationHead]
    "integration conflict marker"
  requireFullOid (value .conflictBase) "recorded task base"
  requireFullOid (value .conflictCommit) "recorded task commit"
  requireFullOid (value .conflictIntegrationHead) "recorded integration head"
  return (⟨value .conflictTask, value .conflictBranch, value .conflictBase, value .conflictCommit⟩,
    value .conflictIntegrationHead)

/-- `_REPAIR_PREFIXES`. -/
def repairKeys : List TrailerKey :=
  [.conflictMarker, .conflictEvidenceFingerprint, .policyFingerprint, .humanDecisionCommit]

/-- `_parse_repair_metadata`. -/
def parseRepairMetadata (message : List Trailer) : Except Failure (Option RepairMetadata) :=
  if ⟨.integrationRepair, "true"⟩ ∉ message then do
    Raising.raiseIf (∃ key ∈ repairKeys, trailers message key ≠ [])
      (queueError "integration commit contains incomplete repair metadata")
    return none
  else do
    Raising.raiseIf (∃ key ∈ repairKeys, 1 < (trailers message key).length)
      (queueError "integration repair commit contains duplicate metadata")
    Raising.raiseIf (∃ key ∈ repairKeys, trailers message key = [])
      (queueError "integration repair commit is missing required metadata")
    let value := fun key => strip ((trailers message key).headD "")
    return some ⟨value .conflictMarker, value .conflictEvidenceFingerprint,
      value .policyFingerprint, value .humanDecisionCommit⟩

/-! ### The queue -/

/-- `WorkerTaskResult`, with the state SUCCEEDED. -/
structure WorkerTaskResult where
  taskId : String
  worktreePath : String
  branchName : Option String
  baseCommit : String
  commitSha : Option String
deriving DecidableEq, Repr

/-- `RepairAwareTopologicalMergeQueue`.  Of the executions the worktree view has
the successful ones. -/
structure MergeQueue where
  scheduler : DAGScheduler
  executions : List Execution
  runBase : String
  integrationId : String
  attempts : List MergeQueueAttempt
  integrated : List String
  stopped : Bool
  head : String

namespace MergeQueue

/-- `_integration_ref`. -/
def integrationRef (queue : MergeQueue) : GitRef :=
  .integration queue.integrationId

/-- `_conflict_ref`. -/
def conflictRef (queue : MergeQueue) : GitRef :=
  .conflict queue.integrationId

/-- `_order`. -/
def order (queue : MergeQueue) : List String :=
  queue.scheduler.dag.topologicalOrder

/-- `scheduler.dag.node(task_id).depends_on`. -/
def dependsOn (queue : MergeQueue) (taskId : String) : List String :=
  ((queue.scheduler.dag.node? taskId).map TaskNode.dependsOn).getD []

/-- The attempt that a task's identity and an outcome make. -/
def attempt (sequence : ℕ) (metadata : TaskMetadata) (previous : String)
    (outcome : MergeAttemptOutcome) : MergeQueueAttempt where
  sequence := sequence
  taskId := metadata.task
  taskBranch := metadata.branch
  taskBaseCommit := metadata.base
  taskCommit := metadata.commit
  previousIntegrationCommit := previous
  outcome := outcome

/-- `_merge_conflict_failure`. -/
def mergeConflictFailure (integrationId : String) (metadata : TaskMetadata)
    (integrationHead markerCommit output : String) : MergeConflictFailure where
  taskId := metadata.task
  integrationHead := integrationHead
  taskCommit := metadata.commit
  conflictRef := .conflict integrationId
  markerCommit := markerCommit
  output := output

/-- `_integration_message`. -/
def integrationMessage (metadata : TaskMetadata) : List Trailer :=
  [⟨.task, metadata.task⟩, ⟨.taskBranch, metadata.branch⟩, ⟨.taskBase, metadata.base⟩,
    ⟨.taskCommit, metadata.commit⟩]

/-- `_conflict_message`. -/
def conflictMessage (metadata : TaskMetadata) (integrationHead : String) : List Trailer :=
  [⟨.conflictTask, metadata.task⟩, ⟨.conflictBranch, metadata.branch⟩,
    ⟨.conflictBase, metadata.base⟩, ⟨.conflictCommit, metadata.commit⟩,
    ⟨.conflictIntegrationHead, integrationHead⟩]

/-- `_assert_global_topological_gate`. -/
def assertTopologicalGate (queue : MergeQueue) (taskId : String) (integrated : List String) :
    Except Failure Unit :=
  match (queue.order.take (queue.order.idxOf taskId)).find? fun earlier =>
      earlier ∉ integrated ∧ queue.scheduler.states earlier ≠ .failed ∧
        queue.scheduler.states earlier ≠ .blocked with
  | none => return ()
  | some earlier => throw (queueError
      ("task " ++ taskId ++ " cannot integrate before earlier topological task " ++ earlier ++
        " is integrated or reaches FAILED/BLOCKED"))

/-- `_assert_ref_head`. -/
def assertRefHead (queue : MergeQueue) (git : GitRepository) : Except Failure Unit := do
  let current ← resolveCommit git (git.refs queue.integrationRef) "integration ref"
  Raising.raiseIf (current.oid ≠ queue.head)
    (queueError "integration ref moved outside the merge queue")

/-- `snapshot`. -/
def snapshot (queue : MergeQueue) : Except Failure MergeQueueSnapshot :=
  MergeQueueSnapshot.ofRecord
    { integrationRef := queue.integrationRef
      runBaseCommit := queue.runBase
      headCommit := queue.head
      integratedTaskIds := queue.integrated
      attempts := queue.attempts
      stopped := queue.stopped }

/-- `_verify_integration_commit`. -/
def verifyIntegrationCommit (merge : String → String → MergeTree) (commit : GitCommit)
    (previousHead taskCommit : String) : Except Failure Unit := do
  Raising.raiseIf (commit.parents ≠ [previousHead, taskCommit])
    (queueError "integration commit does not preserve the expected two-parent history")
  match merge previousHead taskCommit with
  | .clean tree =>
    Raising.raiseIf (commit.tree ≠ tree)
      (queueError "integration commit tree does not match deterministic Git merge")
  | _ => throw (queueError "integration commit cannot reproduce a clean deterministic merge")

/-- The checks of a recovered task identity that integration commits and conflict
markers share. -/
def checkIdentity (queue : MergeQueue) (project : Project) (metadata : TaskMetadata)
    (branchError commitError dependencyError : String) (integrated : List String) :
    Except Failure Unit := do
  let record ← recordFor queue.executions project.worktrees metadata.task metadata.base
  Raising.raiseIf (metadata.branch ≠ record.branchName) (queueError branchError)
  let parents ← commitParents project.git metadata.commit
  Raising.raiseIf (parents ≠ [metadata.base]) (queueError commitError)
  Raising.raiseIf (∃ d ∈ queue.dependsOn metadata.task, d ∉ integrated)
    (queueError dependencyError)

/-- The first key of `expected_marker` whose value is another. -/
def metadataMismatch (found expected : TaskMetadata × String) : Option String :=
  if found.1.task ≠ expected.1.task then some "task"
  else if found.1.branch ≠ expected.1.branch then some "branch"
  else if found.1.base ≠ expected.1.base then some "base"
  else if found.1.commit ≠ expected.1.commit then some "commit"
  else if found.2 ≠ expected.2 then some "integration_head"
  else none

/-- `_recover_repaired_attempt`: the conflict and its repair. -/
def recoverRepairedAttempt (merge : String → String → MergeTree) (queue : MergeQueue)
    (git : GitRepository) (commit : GitCommit) (metadata : TaskMetadata) (previousHead : String)
    (repair : RepairMetadata) : Except Failure (List MergeQueueAttempt) :=
  match merge previousHead metadata.commit with
  | .conflict output => do
    requireFullOid repair.conflictMarker "repair conflict marker"
    let markerParents ← commitParents git repair.conflictMarker
    Raising.raiseIf (markerParents ≠ [previousHead])
      (queueError "repair conflict marker has an unexpected parent")
    let markerTree ← resolveTree git repair.conflictMarker
    let previousTree ← resolveTree git previousHead
    Raising.raiseIf (markerTree ≠ previousTree)
      (queueError "repair conflict marker unexpectedly changes repository tree")
    let marker ← resolveCommit git (some repair.conflictMarker) "repair conflict marker"
    let markerMetadata ← parseConflictMessage marker.message
    match metadataMismatch markerMetadata (metadata, previousHead) with
    | some key => throw (queueError ("repair conflict marker metadata mismatch: " ++ key))
    | none => pure ()
    Raising.raiseIf (isSha256 repair.evidenceFingerprint = false)
      (queueError "conflict evidence fingerprint is not a lowercase SHA-256 digest")
    Raising.raiseIf (isSha256 repair.policyFingerprint = false)
      (queueError "policy fingerprint is not a lowercase SHA-256 digest")
    requireFullOid repair.humanDecisionCommit "human decision commit"
    let decisionParents ← commitParents git repair.humanDecisionCommit
    Raising.raiseIf (decisionParents ≠ [repair.conflictMarker])
      (queueError "repair human decision commit is not bound to the conflict marker")
    let decisionTree ← resolveTree git repair.humanDecisionCommit
    Raising.raiseIf (decisionTree ≠ markerTree)
      (queueError "repair human decision commit unexpectedly changes tree state")
    let sequence := queue.attempts.length
    return [attempt sequence metadata previousHead
        (.conflict (mergeConflictFailure queue.integrationId metadata previousHead
          repair.conflictMarker output)),
      attempt (sequence + 1) metadata previousHead (.repaired commit.oid repair)]
  | _ => throw (queueError
      "repair-marked integration no longer reproduces the conflict it claims to repair")

/-- The attempts that one commit stands for. -/
def recoverAttempts (merge : String → String → MergeTree) (queue : MergeQueue)
    (git : GitRepository) (commit : GitCommit) (metadata : TaskMetadata) :
    Option RepairMetadata → Except Failure (List MergeQueueAttempt)
  | none => do
    verifyIntegrationCommit merge commit queue.head metadata.commit
    return [attempt queue.attempts.length metadata queue.head (.integrated commit.oid)]
  | some repair => recoverRepairedAttempt merge queue git commit metadata queue.head repair

/-- One round of the loop of `_recover_successful_history`.  The queue holds the
attempts and tasks recovered so far, `head` is `expected_previous`, and
`lastIndex` starts at -1. -/
def recoverCommit (merge : String → String → MergeTree) (project : Project)
    (state : MergeQueue × ℤ) (commit : GitCommit) : Except Failure (MergeQueue × ℤ) := do
  let (queue, lastIndex) := state
  Raising.raiseIf (commit.parents.length ≠ 2 ∨ commit.parents.head? ≠ some queue.head)
    (queueError "existing integration history has an unexpected parent chain")
  let metadata ← parseIntegrationMessage commit.message
  Raising.raiseIf (metadata.task ∉ queue.order)
    (queueError "existing integration history references an unknown DAG task")
  Raising.raiseIf (metadata.task ∈ queue.integrated)
    (queueError "existing integration history integrates a task more than once")
  let index : ℤ := queue.order.idxOf metadata.task
  Raising.raiseIf (index ≤ lastIndex)
    (queueError "existing integration history violates deterministic DAG order")
  Raising.raiseIf (commit.parents ≠ [queue.head, metadata.commit])
    (queueError "existing integration history task parent does not match metadata")
  queue.checkIdentity project metadata
    "existing integration history records an unexpected task branch"
    "recovered task commit does not match its recorded task base"
    "existing integration history violates task dependencies" queue.integrated
  let repair ← parseRepairMetadata commit.message
  let attempts ← recoverAttempts merge queue project.git commit metadata repair
  return ({ queue with
    attempts := queue.attempts ++ attempts
    integrated := queue.integrated ++ [metadata.task]
    head := commit.oid }, index)

/-- `_initialize_or_recover_ref`, with the ref that it may create. -/
def initializeOrRecoverRef (merge : String → String → MergeTree) (queue : MergeQueue)
    (project : Project) : Except Failure (MergeQueue × GitRepository) :=
  match project.git.refs queue.integrationRef with
  | none =>
    return ({ queue with head := queue.runBase },
      project.git.setRef queue.integrationRef (some queue.runBase))
  | some oid => do
    let head ← resolveCommit project.git (some oid) "existing integration ref"
    Raising.raiseIf (project.git.isAncestor queue.runBase head.oid = false)
      (queueError "existing integration ref does not descend from the frozen run base")
    let commits := if head.oid = queue.runBase then []
      else project.git.firstParents queue.runBase head.oid
    let (recovered, _) ← commits.foldlM (recoverCommit merge project)
      ({ queue with head := queue.runBase }, -1)
    Raising.raiseIf (recovered.head ≠ head.oid)
      (queueError "existing integration history could not recover its final head")
    return (recovered, project.git)

/-- `_recover_conflict_marker`: the marker of a repaired conflict is left alone. -/
def recoverConflictMarker (merge : String → String → MergeTree) (queue : MergeQueue)
    (project : Project) : Except Failure MergeQueue :=
  match project.git.refs queue.conflictRef with
  | none => return queue
  | some oid => do
    let marker ← resolveCommit project.git (some oid) "integration conflict marker"
    match queue.attempts.reverse.find? fun a =>
        match a.outcome with
        | .repaired _ metadata => metadata.conflictMarker = marker.oid
        | _ => false with
    | some repaired =>
      Raising.raiseIf (marker.parents ≠ [repaired.previousIntegrationCommit])
        (queueError "resolved conflict marker parent changed after repair")
      let tree ← resolveTree project.git repaired.previousIntegrationCommit
      Raising.raiseIf (marker.tree ≠ tree)
        (queueError "resolved conflict marker tree changed after repair")
      return queue
    | none =>
      Raising.raiseIf (marker.parents ≠ [queue.head])
        (queueError "integration conflict marker has an unexpected parent")
      let tree ← resolveTree project.git queue.head
      Raising.raiseIf (marker.tree ≠ tree)
        (queueError "integration conflict marker unexpectedly changes repository tree")
      let (metadata, integrationHead) ← parseConflictMessage marker.message
      Raising.raiseIf (integrationHead ≠ queue.head)
        (queueError "integration conflict marker references an unexpected head")
      Raising.raiseIf (metadata.task ∉ queue.order ∨ metadata.task ∈ queue.integrated)
        (queueError "integration conflict marker references an invalid task")
      queue.checkIdentity project metadata
        "integration conflict marker records an unexpected task branch"
        "conflicted task commit does not match its recorded task base"
        "integration conflict marker violates task dependencies" queue.integrated
      queue.assertTopologicalGate metadata.task queue.integrated
      match merge queue.head metadata.commit with
      | .conflict output =>
        return { queue with
          attempts := queue.attempts ++ [attempt queue.attempts.length metadata queue.head
            (.conflict (mergeConflictFailure queue.integrationId metadata queue.head marker.oid
              output))]
          stopped := true }
      | _ => throw (queueError "integration conflict marker cannot reproduce a Git conflict")

/-- The constructor. -/
def create (merge : String → String → MergeTree) (project : Project) (scheduler : DAGScheduler)
    (executions : List Execution) (runBase integrationId : String) :
    Except Failure (MergeQueue × GitRepository) := do
  Raising.raiseIf (isTaskId integrationId = false)
    ⟨.valueError, "integration_id must start with an alphanumeric character and contain only " ++
      "letters, digits, '.', '_', or '-'"⟩
  Raising.raiseIf (project.changedFiles ≠ [])
    (queueError "base workspace must be clean before integration starts")
  let _ ← resolveCommit project.git (some runBase) "frozen run base"
  let (queue, git) ← initializeOrRecoverRef merge
    { scheduler
      executions := executions.filter fun execution => execution.status = .succeeded
      runBase
      integrationId
      attempts := []
      integrated := []
      stopped := false
      head := runBase } project
  let queue ← queue.recoverConflictMarker merge { project with git }
  return (queue, git)

/-- `_validate_worker_result`. -/
def validateWorkerResult (queue : MergeQueue) (project : Project) (result : WorkerTaskResult) :
    Except Failure TaskMetadata := do
  Raising.raiseIf (queue.scheduler.states result.taskId ≠ .succeeded)
    (queueError ("scheduler task must still be SUCCEEDED before integration: " ++ result.taskId))
  match result.branchName, result.commitSha with
  | some branchName, some commitSha =>
    Raising.raiseIf (branchName = "" ∨ result.baseCommit = "" ∨ commitSha = "")
      (queueError ("successful worker result lacks branch/base/commit evidence: " ++
        result.taskId))
    Raising.raiseIf (result.worktreePath = "")
      (queueError ("successful worker result lacks deterministic worktree identity: " ++
        result.taskId))
    requireFullOid result.baseCommit "task base commit"
    requireFullOid commitSha "task commit"
    let record ← recordFor queue.executions project.worktrees result.taskId result.baseCommit
    Raising.raiseIf (branchName ≠ record.branchName)
      (queueError ("worker branch does not match the manager-owned task branch: " ++
        result.taskId))
    Raising.raiseIf (result.worktreePath ≠ record.path)
      (queueError ("worker path does not match the manager-owned task worktree: " ++
        result.taskId))
    let branchCommit ← resolveCommit project.git (project.git.refs (.heads record.branchName))
      ("task branch for " ++ result.taskId)
    Raising.raiseIf (branchCommit.oid ≠ commitSha)
      (queueError ("task branch moved after worker finalization: " ++ result.taskId))
    let parents ← commitParents project.git commitSha
    Raising.raiseIf (parents ≠ [result.baseCommit])
      (queueError ("task commit must have exactly its assigned task base as parent: " ++
        result.taskId))
    return ⟨result.taskId, branchName, result.baseCommit, commitSha⟩
  | _, _ => throw (queueError
      ("successful worker result lacks branch/base/commit evidence: " ++ result.taskId))

/-- `_persist_conflict_marker`. -/
def persistConflictMarker (queue : MergeQueue) (git : GitRepository) (metadata : TaskMetadata)
    (marker : String) : Except Failure GitRepository := do
  Raising.raiseIf (git.refs queue.conflictRef ≠ none)
    (queueError "integration conflict marker already exists")
  let tree ← resolveTree git queue.head
  requireFullOid marker "integration conflict marker"
  return (git.commitTree
    { oid := marker
      tree := tree
      parents := [queue.head]
      message := conflictMessage metadata queue.head }).setRef queue.conflictRef (some marker)

/-- `_integrate_one`, with the object id of the commit that it writes. -/
def integrateOne (merge : String → String → MergeTree) (queue : MergeQueue) (project : Project)
    (result : WorkerTaskResult) (oid : String) : Except Failure (MergeQueue × GitRepository) := do
  let metadata ← queue.validateWorkerResult project result
  queue.assertRefHead project.git
  match merge queue.head metadata.commit with
  | .conflict output =>
    let git ← queue.persistConflictMarker project.git metadata oid
    return ({ queue with
      attempts := queue.attempts ++ [attempt queue.attempts.length metadata queue.head
        (.conflict (mergeConflictFailure queue.integrationId metadata queue.head oid output))]
      stopped := true }, git)
  | .failed exitCode => throw (queueError
      ("git merge-tree failed before producing a trustworthy integration result: exit_code=" ++
        toString exitCode))
  | .clean tree =>
    requireFullOid oid "integration commit"
    let git := project.git.commitTree
      { oid := oid
        tree := tree
        parents := [queue.head, metadata.commit]
        message := integrationMessage metadata }
    match git.updateRef queue.integrationRef oid (some queue.head) with
    | none => throw (queueError
        "integration ref changed concurrently or could not be atomically advanced")
    | some git =>
      return ({ queue with
        attempts := queue.attempts ++ [attempt queue.attempts.length metadata queue.head
          (.integrated oid)]
        integrated := queue.integrated ++ [metadata.task]
        head := oid }, git)

/-- `integrate` of one result. -/
def integrate (merge : String → String → MergeTree) (queue : MergeQueue) (project : Project)
    (result : WorkerTaskResult) (oid : String) : Except Failure (MergeQueue × GitRepository) := do
  Raising.raiseIf (queue.stopped = true)
    (queueError "merge queue is stopped after an unresolved integration conflict")
  Raising.raiseIf (project.changedFiles ≠ [])
    (queueError "base workspace became dirty before integration")
  queue.assertRefHead project.git
  Raising.raiseIf (result.taskId ∉ queue.order)
    ⟨.valueError, "worker result references unknown DAG task: " ++ result.taskId⟩
  let _ ← queue.validateWorkerResult project result
  Raising.raiseIf (result.taskId ∈ queue.integrated)
    (queueError ("task is already integrated: " ++ result.taskId))
  let missing := (queue.dependsOn result.taskId).filter fun d => d ∉ queue.integrated
  Raising.raiseIf (missing ≠ [])
    (queueError ("task " ++ result.taskId ++ " cannot integrate before dependencies: " ++
      ", ".intercalate (missing.insertionSort (· ≤ ·))))
  queue.assertTopologicalGate result.taskId queue.integrated
  queue.integrateOne merge project result oid

end MergeQueue

end DevFlow
