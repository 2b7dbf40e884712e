/-
# A stopped queue stops the controller

A merge queue that is rebuilt from a live conflict ref is stopped, and its
conflicting task has SUCCEEDED and is not integrated.  `_integrate_available`
does not look at that: it goes on to the first task of the topological order
that is neither integrated nor FAILED nor BLOCKED, which is the conflicting one,
and `integrate` of a stopped queue raises.  So no call of `advance` gets to the
Human Gate of a conflict that an earlier call recorded
(`advance_of_stopped`), whatever was decided there.
-/

import DevFlow.Runtime.ProductController

namespace DevFlow

/-! ### What the constructor of the queue recovers -/

namespace MergeQueue

variable {merge : String → String → MergeTree} {queue queue' : MergeQueue} {project : Project}
  {git : GitRepository}

/-- What the recovery of the ref leaves as it was. -/
structure SameRun (queue queue' : MergeQueue) : Prop where
  scheduler : queue'.scheduler = queue.scheduler
  executions : queue'.executions = queue.executions
  runBase : queue'.runBase = queue.runBase
  integrationId : queue'.integrationId = queue.integrationId
  stopped : queue'.stopped = queue.stopped

theorem SameRun.refl (queue : MergeQueue) : SameRun queue queue :=
  ⟨rfl, rfl, rfl, rfl, rfl⟩

theorem SameRun.trans {queue'' : MergeQueue} (h : SameRun queue queue')
    (h' : SameRun queue' queue'') : SameRun queue queue'' :=
  ⟨h'.scheduler.trans h.scheduler, h'.executions.trans h.executions, h'.runBase.trans h.runBase,
    h'.integrationId.trans h.integrationId, h'.stopped.trans h.stopped⟩

theorem recoverCommit_sameRun {commit : GitCommit} {state state' : MergeQueue × ℤ}
    (h : recoverCommit merge project state commit = .ok state') :
    SameRun state.1 state'.1 := by
  obtain ⟨queue, lastIndex⟩ := state
  simp only [recoverCommit, Raising.bind_eq_ok, Raising.pure_eq_ok] at h
  obtain ⟨_, -, metadata, -, _, -, _, -, _, -, _, -, _, -, repair, -, attempts, -, rfl⟩ := h
  exact ⟨rfl, rfl, rfl, rfl, rfl⟩

theorem initializeOrRecoverRef_sameRun
    (h : initializeOrRecoverRef merge queue project = .ok (queue', git)) :
    SameRun queue queue' := by
  unfold initializeOrRecoverRef at h
  split at h
  · obtain ⟨rfl, -⟩ := Prod.mk.inj (Raising.pure_eq_ok.1 h)
    exact ⟨rfl, rfl, rfl, rfl, rfl⟩
  · simp only [Raising.bind_eq_ok, Raising.pure_eq_ok] at h
    obtain ⟨head, -, _, -, ⟨recovered, index⟩, hfold, _, -, heq⟩ := h
    obtain ⟨rfl, -⟩ := Prod.mk.inj heq
    exact Raising.foldlM_invariant (P := fun state : MergeQueue × ℤ => SameRun queue state.1)
      (fun _ _ _ hstate hround => hstate.trans (recoverCommit_sameRun hround))
      ⟨rfl, rfl, rfl, rfl, rfl⟩ hfold

/-- **A queue is rebuilt stopped by the task of the conflict marker**: a task of the
graph with a successful execution, which is not integrated and whose turn it is. -/
theorem recoverConflictMarker_stopped
    (h : queue.recoverConflictMarker merge project = .ok queue') (hqueue : queue.stopped = false)
    (hstopped : queue'.stopped = true) :
    ∃ metadata : TaskMetadata, metadata.task ∈ queue.order ∧ metadata.task ∉ queue.integrated ∧
      (∃ record, recordFor queue.executions project.worktrees metadata.task metadata.base =
        .ok record) ∧
      queue.assertTopologicalGate metadata.task queue.integrated = .ok () ∧
      queue'.scheduler = queue.scheduler ∧ queue'.integrated = queue.integrated := by
  unfold recoverConflictMarker at h
  split at h
  · obtain rfl := Raising.pure_eq_ok.1 h
    rw [hqueue] at hstopped
    cases hstopped
  · simp only [Raising.bind_eq_ok] at h
    obtain ⟨marker, -, h⟩ := h
    split at h
    · simp only [Raising.bind_eq_ok, Raising.pure_eq_ok] at h
      obtain ⟨_, -, _, -, _, -, rfl⟩ := h
      rw [hqueue] at hstopped
      cases hstopped
    · simp only [Raising.bind_eq_ok, Raising.raiseIf_eq_ok, not_or, not_not] at h
      obtain ⟨_, -, tree, -, _, -, ⟨metadata, integrationHead⟩, -, _, -, _, hmember, _, hidentity,
        _, hgate, h⟩ := h
      split at h
      · obtain rfl := Raising.pure_eq_ok.1 h
        simp only [checkIdentity, Raising.bind_eq_ok] at hidentity
        obtain ⟨record, hrecord, -⟩ := hidentity
        exact ⟨metadata, hmember.1, hmember.2, ⟨record, hrecord⟩, hgate, rfl, rfl⟩
      · cases h

/-- What the constructor found, when it found a conflict. -/
theorem create_stopped {scheduler : DAGScheduler} {executions : List Execution}
    {runBase integrationId : String}
    (h : create merge project scheduler executions runBase integrationId = .ok (queue, git))
    (hstopped : queue.stopped = true) :
    queue.scheduler = scheduler ∧ ∃ t, t ∈ queue.order ∧ t ∉ queue.integrated ∧
      (∃ base record, recordFor (executions.filter fun execution => execution.status = .succeeded)
        project.worktrees t base = .ok record) ∧
      queue.assertTopologicalGate t queue.integrated = .ok () := by
  simp only [create, Raising.bind_eq_ok, Raising.pure_eq_ok] at h
  obtain ⟨_, -, _, -, _, -, ⟨recovered, git'⟩, hrecover, queue', hmarker, heq⟩ := h
  obtain ⟨rfl, rfl⟩ := Prod.mk.inj heq
  have hsame := initializeOrRecoverRef_sameRun hrecover
  obtain ⟨metadata, hmember, hfresh, ⟨record, hrecord⟩, hgate, hscheduler, hintegrated⟩ :=
    recoverConflictMarker_stopped hmarker hsame.stopped hstopped
  have horder : queue'.order = recovered.order := by
    rw [MergeQueue.order, MergeQueue.order, hscheduler]
  rw [hsame.executions] at hrecord
  refine ⟨hscheduler.trans hsame.scheduler, metadata.task, horder ▸ hmember,
    hintegrated ▸ hfresh, ⟨metadata.base, record, hrecord⟩, ?_⟩
  unfold assertTopologicalGate at hgate ⊢
  rw [horder, hscheduler, hintegrated]
  exact hgate

/-- The constructor leaves Git alone when the integration ref is there. -/
theorem create_git {scheduler : DAGScheduler} {executions : List Execution}
    {runBase integrationId oid : String}
    (h : create merge project scheduler executions runBase integrationId = .ok (queue, git))
    (href : project.git.refs (.integration integrationId) = some oid) : git = project.git := by
  simp only [create, Raising.bind_eq_ok, Raising.pure_eq_ok] at h
  obtain ⟨_, -, _, -, _, -, ⟨recovered, git'⟩, hrecover, queue', -, heq⟩ := h
  obtain ⟨-, rfl⟩ := Prod.mk.inj heq
  simp only [initializeOrRecoverRef, integrationRef, href, Raising.bind_eq_ok,
    Raising.pure_eq_ok] at hrecover
  obtain ⟨_, -, _, -, _, -, _, -, heq⟩ := hrecover
  exact (Prod.mk.inj heq).2.symm

/-- The tasks before the one whose turn it is are integrated, FAILED or BLOCKED. -/
theorem assertTopologicalGate_eq_ok {t : String}
    (h : queue.assertTopologicalGate t queue.integrated = .ok ()) :
    ∀ earlier ∈ queue.order.take (queue.order.idxOf t), earlier ∈ queue.integrated ∨
      queue.scheduler.states earlier = .failed ∨ queue.scheduler.states earlier = .blocked := by
  unfold assertTopologicalGate at h
  split at h
  · rename_i hnone
    intro earlier hearlier
    have hnot := List.find?_eq_none.1 hnone earlier hearlier
    simp only [decide_eq_true_eq] at hnot
    tauto
  · cases h

end MergeQueue

namespace Controller

/-- The executions of a pass are of different tasks. -/
theorem terminalExecutions_nodup {db : Database RunContent} {executions : List Execution}
    (h : terminalExecutions db = .ok executions) :
    (executions.map WorkerExecutionEvidence.taskId).Nodup := by
  refine Raising.foldlM_invariant
    (P := fun executions : List Execution =>
      (executions.map WorkerExecutionEvidence.taskId).Nodup) (a := []) ?_ List.nodup_nil h
  intro executions row executions' hnodup hround
  unfold addTerminalExecution at hround
  split_ifs at hround
  · exact Raising.pure_eq_ok.1 hround ▸ hnodup
  · split at hround
    · rename_i evidence _
      simp only [Raising.bind_eq_ok] at hround
      obtain ⟨_, -, hround⟩ := hround
      cases hfind : executionOf executions evidence.taskId with
      | none =>
        rw [hfind] at hround
        obtain rfl := Raising.pure_eq_ok.1 hround
        have hfresh : ∀ other ∈ executions, other.taskId ≠ evidence.taskId := by
          intro other hother
          simpa using List.find?_eq_none.1 hfind other hother
        rw [List.map_append, List.nodup_append]
        refine ⟨hnodup, by simp, ?_⟩
        simp only [List.map_cons, List.map_nil, List.mem_singleton, List.mem_map]
        rintro _ ⟨other, hother, rfl⟩ _ rfl
        exact hfresh other hother
      | some existing =>
        rw [hfind] at hround
        simp only [Raising.bind_eq_ok, Raising.pure_eq_ok] at hround
        obtain ⟨_, -, rfl⟩ := hround
        exact hnodup
    · cases hround

/-- A task that the worktree view knows has a successful execution. -/
theorem statusOf_of_recordFor {executions : List Execution} {worktrees : List RegisteredWorktree}
    {t base : String} {record : TaskWorktreeRecord}
    (hnodup : (executions.map WorkerExecutionEvidence.taskId).Nodup)
    (h : recordFor (executions.filter fun execution => execution.status = .succeeded) worktrees t
      base = .ok record) : statusOf executions t = some .succeeded := by
  unfold recordFor at h
  split at h
  · cases h
  · rename_i execution hexecution
    obtain ⟨hfind, hstatus⟩ := Option.filter_eq_some_iff.1 hexecution
    have hmem : execution ∈ executions := List.mem_of_mem_filter (List.mem_of_find?_eq_some hfind)
    have hid : execution.taskId = t := by simpa using List.find?_some hfind
    have hsome : (executionOf executions t).isSome :=
      List.find?_isSome.2 ⟨execution, hmem, by simpa using hid⟩
    obtain ⟨found, hfound⟩ := Option.isSome_iff_exists.1 hsome
    have hsame : found = execution :=
      List.inj_on_of_nodup_map hnodup (List.mem_of_find?_eq_some hfound) hmem
        (by rw [hid]; simpa using List.find?_some hfound)
    rw [statusOf, hfound, hsame]
    simpa using hstatus

section stopped

variable (calls : ControllerCalls) (executions : List Execution) {queue : MergeQueue}

/-- A stopped queue integrates nothing. -/
theorem integrateTask_of_stopped (hstopped : queue.stopped = true) (t : String)
    (w : ControllerWorld) :
    ∃ failure, integrateTask calls executions queue t w = ⟨.error failure, [], w⟩ := by
  unfold integrateTask
  cases executionOf executions t with
  | none => exact ⟨_, rfl⟩
  | some execution =>
    dsimp only
    rw [Durable.read_bind]
    cases recordFor executions w.project.worktrees t execution.baseCommit with
    | error failure => exact ⟨failure, rfl⟩
    | ok record =>
      rw [Durable.lift_ok_bind]
      refine ⟨queueError "merge queue is stopped after an unresolved integration conflict", ?_⟩
      rw [Durable.transact, MergeQueue.integrate, Raising.raiseIf_of hstopped,
        Raising.error_bind]
      rfl

/-- **The loop gets to the conflicting task**, by induction on what is left of the
order. -/
theorem integrateAvailable_of_stopped (hstopped : queue.stopped = true) {t : String}
    (hfresh : t ∉ queue.integrated) (hsucceeded : queue.scheduler.states t = .succeeded)
    (w : ControllerWorld) {order : List String} (hmem : t ∈ order)
    (hearlier : ∀ earlier ∈ order.take (order.idxOf t), earlier ∈ queue.integrated ∨
      queue.scheduler.states earlier = .failed ∨ queue.scheduler.states earlier = .blocked) :
    ∃ failure, integrateAvailable calls executions order queue w = ⟨.error failure, [], w⟩ := by
  induction order with
  | nil => cases hmem
  | cons x rest ih =>
    by_cases hx : x = t
    · subst hx
      rw [integrateAvailable, if_neg hfresh, hsucceeded]
      obtain ⟨failure, hfailure⟩ := integrateTask_of_stopped calls executions hstopped x w
      refine ⟨failure, ?_⟩
      simp [Durable.bind_apply, Durable.Prog.andThen, hfailure]
    · have hidx : (x :: rest).idxOf t = rest.idxOf t + 1 := by
        rw [List.idxOf_cons_ne _ hx]
      rw [hidx, List.take_succ_cons] at hearlier
      have hrest := ih ((List.mem_cons.1 hmem).resolve_left (Ne.symm hx))
        fun earlier he => hearlier earlier (List.mem_cons_of_mem _ he)
      rw [integrateAvailable]
      split_ifs with hintegrated
      · exact hrest
      · rcases hearlier x List.mem_cons_self with hin | hfailed | hblocked
        · exact absurd hin hintegrated
        · rw [hfailed]
          exact hrest
        · rw [hblocked]
          exact hrest

/-- **A pass that rebuilds a stopped queue raises**, and leaves the rows alone. -/
theorem observe_of_stopped {calls executions} {run : PersistedRun} {w : ControllerWorld} {git : GitRepository}
    (h : openQueue run calls w = .ok (executions, queue, git)) (hstopped : queue.stopped = true) :
    ∃ failure, (observe run calls w).result = .error failure ∧
      (observe run calls w).final = { w with project := { w.project with git } } := by
  have hopen := h
  simp only [openQueue, Raising.bind_eq_ok, Raising.pure_eq_ok] at h
  obtain ⟨executions', hexecutions, scheduler, hscheduler, ⟨queue', git'⟩, hcreate, heq⟩ := h
  simp only [Prod.mk.injEq] at heq
  obtain ⟨rfl, rfl, rfl⟩ := heq
  obtain ⟨hsame, t, hmem, hfresh, ⟨base, record, hrecord⟩, hgate⟩ :=
    MergeQueue.create_stopped hcreate hstopped
  have hdag : queue'.scheduler.dag = run.dag := by
    rw [hsame, (reconstructScheduler_sound hscheduler).2]
  have horder : queue'.order = run.dag.topologicalOrder := by
    rw [MergeQueue.order, hdag]
  have hsucceeded : queue'.scheduler.states t = .succeeded := by
    rw [hsame]
    exact reconstructScheduler_complete hscheduler
      (run.dag.mem_topologicalOrder.1 (horder ▸ hmem))
      (statusOf_of_recordFor (terminalExecutions_nodup hexecutions) hrecord)
  obtain ⟨failure, hfailure⟩ := integrateAvailable_of_stopped calls executions' hstopped hfresh
    hsucceeded
    { w with project := { w.project with git := git' } } (horder ▸ hmem)
    (horder ▸ MergeQueue.assertTopologicalGate_eq_ok hgate)
  have hobserve : observe run calls w =
      ⟨.error failure, [w], { w with project := { w.project with git := git' } }⟩ := by
    unfold observe
    rw [Durable.read_bind, hopen, Durable.lift_ok_bind]
    simp [Durable.bind_apply, Durable.Prog.andThen, Durable.write, hfailure]
  rw [hobserve]
  exact ⟨failure, rfl, rfl⟩

end stopped

/-- **The gate of the run's conflict is ABORTED**: the queue that is rebuilt from
the refs is stopped, and its gate reads so. -/
def GateAborted (run : PersistedRun) (calls : ControllerCalls) (w : ControllerWorld) : Prop :=
  ∃ executions queue snapshot conflict reading,
    openQueue run calls w = .ok (executions, queue, w.project.git) ∧ queue.stopped = true ∧
      queue.snapshot = .ok snapshot ∧ calls.classify w.project snapshot = .ok conflict ∧
      calls.readGate w.project snapshot conflict = .ok reading ∧ reading.state = .aborted

/-- No task has a live lease, and every dispatched task has terminal evidence. -/
structure Quiescent (w : ControllerWorld) : Prop where
  leases : ∀ t lease, w.db.lease t = some lease → ¬lease.Live w.now
  dispatches : ∀ attempt ∈ w.db.attempts, ∃ row ∈ w.db.evidence, ∃ execution,
    row.payload = .workerExecution execution ∧ execution.taskId = attempt.taskId

/-- A pass over a stopped queue raises, and changes nothing. -/
theorem advanceOnce_of_gateAborted {run : PersistedRun} {calls : ControllerCalls}
    {w : ControllerWorld} (hrunning : w.db.status = .running)
    (hseveral : run.dag.tasks.length ≠ 1) (hgate : GateAborted run calls w) (depth : ℕ) :
    ∃ failure, (advanceOnce run calls depth w).result = .error failure ∧
      (advanceOnce run calls depth w).final = w := by
  cases depth with
  | zero => exact ⟨_, rfl, rfl⟩
  | succ depth =>
    obtain ⟨executions, queue, snapshot, conflict, reading, hopen, hstopped, -⟩ := hgate
    obtain ⟨failure, hresult, hfinal⟩ := observe_of_stopped hopen hstopped
    refine ⟨failure, ?_, ?_⟩
    · rw [advanceOnce, Durable.read_bind, if_neg (not_not.2 hrunning), if_neg hseveral,
        Durable.bind_apply, Durable.Prog.andThen, hresult]
    · rw [advanceOnce, Durable.read_bind, if_neg (not_not.2 hrunning), if_neg hseveral,
        Durable.bind_apply, Durable.Prog.andThen, hresult]
      exact hfinal

/-- Both attempts of a call over a stopped queue raise, and change nothing. -/
theorem advance_of_gateAborted {run : PersistedRun} {calls : ℕ → ControllerCalls}
    {w : ControllerWorld} (hrunning : w.db.status = .running)
    (hseveral : run.dag.tasks.length ≠ 1) (hgate : ∀ k, GateAborted run (calls k) w) (depth : ℕ) :
    (∃ failure, (advance run calls depth w).result = .error failure) ∧
      (advance run calls depth w).final = w := by
  obtain ⟨failure, hresult, hfinal⟩ :=
    advanceOnce_of_gateAborted hrunning hseveral (hgate 0) depth
  obtain ⟨failure', hresult', hfinal'⟩ :=
    advanceOnce_of_gateAborted hrunning hseveral (hgate 1) depth
  rw [advance, Durable.caught_bind_result, Durable.caught_bind_final, hresult, hfinal]
  dsimp only
  split_ifs
  · exact ⟨⟨failure', hresult'⟩, hfinal'⟩
  · exact ⟨⟨failure, rfl⟩, rfl⟩

end Controller

/-- Two independent tasks. -/
def twoTasks : TaskDAG where
  tasks := [{ taskId := "api", dependsOn := [], taskId_pattern := isTaskId_api },
    { taskId := "ui", dependsOn := [] }]

/-- The successful execution of a task of the run, from its first commit. -/
def sampleExecution (dispatch : ℕ) (task branch : String) (commit : Char) : Execution where
  dispatchId := ⟨dispatch⟩
  runId := ⟨1⟩
  taskId := task
  status := .succeeded
  baseCommit := sampleOid '0'
  commitSha := some (sampleOid commit)
  content := .execution (some branch) none
  success_commit := by simp
  failure_commit := by simp

/-- The row of an execution. -/
def executionRow (id : ℕ) (execution : Execution) : EvidenceRow RunContent where
  id := id
  taskId := some execution.taskId
  evidenceKey := "dispatch:" ++ execution.dispatchId.str ++ ":execution"
  kind := .workerExecution
  stage := some "worker"
  sequence := none
  schemaVersion := 1
  payload := .workerExecution execution

/-- The lease of a worker that has left. -/
def releasedLease (dispatch : ℕ) : Lease where
  owner := "worker-a"
  dispatchId := ⟨dispatch⟩
  generation := 1
  runToken := ⟨dispatch + 100⟩
  acquiredAt := 0
  heartbeatAt := 1
  leaseUntil := 60
  releasedAt := some 2
  generation_pos := le_rfl

/-- The attempt to dispatch a task. -/
def enqueuedAttempt (dispatch : ℕ) (task : String) : DispatchAttemptRow :=
  ⟨⟨dispatch⟩, task, 1, .enqueued "message" "tasks" 0, 0, 0⟩

/-- `integration_id` of the run. -/
def sampleIntegrationId : String :=
  Controller.integrationId ⟨1⟩

/-- The task whose commit conflicts with the integrated one. -/
def uiMetadata : TaskMetadata :=
  ⟨"ui", "task/ui", sampleOid '0', sampleOid '3'⟩

/-- The objects and refs after the conflict was found and the human aborted. -/
def abortedGit : GitRepository where
  commits :=
    [⟨sampleOid '5', sampleOid 'd', [sampleOid '4'], []⟩,
      ⟨sampleOid '4', sampleOid 'd', [sampleOid '2'],
        MergeQueue.conflictMessage uiMetadata (sampleOid '2')⟩,
      ⟨sampleOid '2', sampleOid 'd', [sampleOid '0', sampleOid '1'],
        MergeQueue.integrationMessage ⟨"api", "task/api", sampleOid '0', sampleOid '1'⟩⟩,
      ⟨sampleOid '3', sampleOid 'c', [sampleOid '0'], []⟩,
      ⟨sampleOid '1', sampleOid 'b', [sampleOid '0'], []⟩,
      ⟨sampleOid '0', sampleOid 'a', [], []⟩]
  refs := fun ref =>
    if ref = .integration sampleIntegrationId then some (sampleOid '2')
    else if ref = .conflict sampleIntegrationId then some (sampleOid '4')
    else if ref = .decision sampleIntegrationId then some (sampleOid '5')
    else if ref = .heads "task/api" then some (sampleOid '1')
    else if ref = .heads "task/ui" then some (sampleOid '3')
    else none

/-- The run: both workers have succeeded and left, the first task is integrated,
and the second conflicts with it. -/
def abortedWorld : ControllerWorld where
  db :=
    { Database.created RunContent ⟨1⟩ ["api", "ui"] with
      lease := fun t => if t = "api" then some (releasedLease 11)
        else if t = "ui" then some (releasedLease 12) else none
      evidence := [executionRow 1 (sampleExecution 11 "api" "task/api" '1'),
        executionRow 2 (sampleExecution 12 "ui" "task/ui" '3')]
      evidenceSequence := 2
      attempts := [enqueuedAttempt 11 "api", enqueuedAttempt 12 "ui"] }
  now := 10
  project :=
    { git := abortedGit
      worktrees := [⟨"worktrees/api", some (sampleOid '1'), some (.heads "task/api"), true⟩,
        ⟨"worktrees/ui", some (sampleOid '3'), some (.heads "task/ui"), true⟩]
      changedFiles := [] }
  contracts := []
  repairWorktrees := []

/-- The gate with the human's decision. -/
def abortReading : GateReading where
  conflictMarkerCommit := sampleOid '4'
  evidenceFingerprint := String.ofList (List.replicate 64 'e')
  policyFingerprint := String.ofList (List.replicate 64 'f')
  conflictingPaths := ["shared.py"]
  autoRepairCandidate := false
  humanDecision := some
    { decision := .abort
      decisionRef := .decision sampleIntegrationId
      decisionCommit := sampleOid '5'
      evidenceFingerprint := String.ofList (List.replicate 64 'e')
      policyFingerprint := String.ofList (List.replicate 64 'f')
      conflictMarkerCommit := sampleOid '4' }
  fingerprint := by decide +kernel
  paths_nonempty := sharedFile_ne_nil
  paths_nodup := sharedFile_nodup
  decided := by
    rintro _ ⟨⟩
    exact ⟨rfl, rfl, rfl⟩

/-- Git's answers: only the first task merges. -/
def abortCalls : ControllerCalls where
  merge := fun head _ => if head = sampleOid '0' then .clean (sampleOid 'd')
    else .conflict "CONFLICT (content): shared.py"
  oid := fun _ => sampleOid '6'
  classify := fun _ snapshot => .ok ⟨snapshot.headCommit, sampleOid '3',
    .conflict sampleIntegrationId, sampleOid '4', ["shared.py"]⟩
  readGate := fun _ _ _ => .ok abortReading
  repair := none
  reconcile := pure ()

/-- The persisted run. -/
def twoTaskRun : PersistedRun :=
  ⟨twoTasks, sampleOid '0'⟩

theorem abortedWorld_quiescent : Controller.Quiescent abortedWorld where
  leases := by
    intro t lease hlease
    simp only [abortedWorld] at hlease
    split_ifs at hlease <;> obtain rfl := Option.some.inj hlease <;> decide
  dispatches := by
    intro attempt hattempt
    simp only [abortedWorld, List.mem_cons, List.not_mem_nil, or_false] at hattempt
    rcases hattempt with rfl | rfl
    · exact ⟨_, List.mem_cons_self, _, rfl, rfl⟩
    · exact ⟨_, List.mem_cons_of_mem _ List.mem_cons_self, _, rfl, rfl⟩

theorem abortedWorld_facts :
    ((Controller.openQueue twoTaskRun abortCalls abortedWorld).map fun r =>
      (r.2.1.stopped, r.2.1.snapshot.isOk)) = .ok (true, true) := by
  decide +kernel

/-- **The gate of the run is ABORTED.** -/
theorem abortedWorld_gate : Controller.GateAborted twoTaskRun abortCalls abortedWorld := by
  obtain ⟨⟨executions, queue, git⟩, hopen, hfacts⟩ := Raising.map_eq_ok.1 abortedWorld_facts
  obtain ⟨hstopped, hsnapshot⟩ := Prod.mk.inj hfacts
  obtain ⟨snapshot, hsnapshot⟩ := Raising.exists_of_isOk hsnapshot
  have hgit : git = abortedWorld.project.git := by
    simp only [Controller.openQueue, Raising.bind_eq_ok, Raising.pure_eq_ok] at hopen
    obtain ⟨_, -, _, -, ⟨_, _⟩, hcreate, heq⟩ := hopen
    simp only [Prod.mk.injEq] at heq
    obtain ⟨-, -, rfl⟩ := heq
    have href : abortedWorld.project.git.refs
        (.integration (Controller.integrationId abortedWorld.db.runId)) = some (sampleOid '2') := by
      simp [abortedWorld, abortedGit, sampleIntegrationId, Database.created]
    exact MergeQueue.create_git hcreate href
  exact ⟨executions, queue, snapshot, _, abortReading, hgit ▸ hopen, hstopped, hsnapshot, rfl, rfl,
    rfl⟩

end DevFlow
