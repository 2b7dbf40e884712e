/-
# Runs that are derived from earlier runs

Of `api/hardened.py`, `api/autonomous.py` and `api/operator.py` the five entry points
that start a run of one project: `create_requirement_run`, `retry_run`,
`resume_run`, `continue_development_session` and `recover_interrupted_run`; of
`persistence/dag.py`, `persistence/development_session.py` and
`persistence/run_recovery.py` what they read and write.  Each is a program that
writes one transaction after the other, so that a request that dies leaves one
of the states it went through.  The checks of the workspace, the dependencies and
the budget are answers from outside, and the dispatches after the last write are
left out.  Requests are taken one after the other, and a work package keeps what
`_continue_development_session_locked` reads.
-/

import DevFlow.Api.ResumableCheckpoint
import DevFlow.Models.RemainingDag

namespace DevFlow

open Durable (Prog)

/-- `DevelopmentSessionState`. -/
inductive SessionState
  | planning
  | pausedPlanning
  | planningFailed
  | readyToRun
  | running
  | completed
deriving DecidableEq, Repr

/-- `DevelopmentWorkPackageState`. -/
inductive WorkPackageState
  | pending
  | running
  | succeeded
  | checkpointed
  | failed
  | blocked
deriving DecidableEq, Repr

/-- `DevelopmentWorkPackageProgress`. -/
structure WorkPackage where
  taskId : String
  state : WorkPackageState := .pending
  sourceRunId : Option UUID := none
  commitSha : Option String := none
deriving DecidableEq

/-- `DevelopmentSession`. -/
structure DevelopmentSession where
  sessionId : UUID
  baseCommit : String
  state : SessionState := .planning
  dag : Option TaskDAG := none
  latestRunId : Option UUID := none
  workPackages : List WorkPackage := []

/-- A run with its rows, its graph and its base; `sessionId` is
`development_session_id`. -/
structure ProductRun where
  runId : UUID
  rows : WorkerState
  dag : TaskDAG
  baseCommit : String
  sessionId : Option UUID := none
  recoveryRunId : Option UUID := none

/-- The runs and sessions of one project, the objects of its repository and the HEAD
of its managed workspace. -/
structure ProductWorld where
  runs : List ProductRun
  sessions : List DevelopmentSession
  commits : List GitCommit
  head : String

/-- `snapshot.status`. -/
def ProductRun.status (run : ProductRun) : RunStatus :=
  run.rows.db.status

/-- The terminal evidence of the run. -/
def ProductRun.executions (run : ProductRun) : List (WorkerExecutionEvidence WorkContent) :=
  terminalEvidence run.rows.db

/-- A request of the API. -/
abbrev Request := Prog ProductWorld Failure UUID

/-- What the workspace, the dependency check and the budget answer to one request. -/
structure LaunchAnswers where
  /-- `_synchronize_project`: the commit of the remote branch.  HEAD stays where it is. -/
  synchronize : Except Failure String
  preflight : Except Failure Unit
  budgetPlan : TaskDAG → Except Failure Unit
  initializeBudget : Except Failure Unit
  now : Timestamp

namespace ProductWorld

/-- `load_run` and `load_dag`. -/
def loadRun (w : ProductWorld) (runId : UUID) : Except Failure ProductRun :=
  match w.runs.find? fun run => run.runId = runId with
  | some run => return run
  | none => throw ⟨.valueError, "unknown persistence run: " ++ runId.str⟩

/-- `snapshot` of a session. -/
def snapshot (w : ProductWorld) (sessionId : UUID) : Except Failure DevelopmentSession :=
  match w.sessions.find? fun session => session.sessionId = sessionId with
  | some session => return session
  | none => throw ⟨.valueError, "unknown development session: " ++ sessionId.str⟩

/-- The world with one session changed. -/
def mapSession (w : ProductWorld) (sessionId : UUID)
    (change : DevelopmentSession → DevelopmentSession) : ProductWorld :=
  { w with sessions := w.sessions.map fun session =>
      if session.sessionId = sessionId then change session else session }

/-- The world with one run changed. -/
def mapRun (w : ProductWorld) (runId : UUID) (change : ProductRun → ProductRun) : ProductWorld :=
  { w with runs := w.runs.map fun run => if run.runId = runId then change run else run }

/-- What `attach_run` writes. -/
def attach (w : ProductWorld) (sessionId runId : UUID) : ProductWorld :=
  (w.mapSession sessionId fun session =>
    { session with state := .running, latestRunId := some runId }).mapRun runId fun run =>
      { run with sessionId := some sessionId }

/-- The world with one more run. -/
def addRun (w : ProductWorld) (run : ProductRun) : ProductWorld :=
  { w with runs := run :: w.runs }

end ProductWorld

/-! ### The stores -/

/-- The run that `start_run` writes. -/
def ProductRun.started (runId : UUID) (now : Timestamp) (dag : TaskDAG) (baseCommit : String) :
    ProductRun where
  runId := runId
  rows := ⟨Database.created WorkContent runId dag.taskIds, now⟩
  dag := dag
  baseCommit := baseCommit

/-- `start_run`; an object id is in lower case already. -/
def startRun (answers : LaunchAnswers) (runId : UUID) (dag : TaskDAG) (baseCommit : String) :
    Prog ProductWorld Failure Unit :=
  Durable.transact fun w => do
    Raising.raiseIf (isOid baseCommit = false)
      ⟨.valueError, "base_commit must be a 40-64 character lowercase Git object id"⟩
    let normalized ← dag.normalize
    Raising.raiseIf (runId ∈ w.runs.map ProductRun.runId)
      ⟨.persistenceConflict, "run identity already exists or violates DAG persistence constraints: " ++
        runId.str⟩
    return ((), w.addRun (ProductRun.started runId answers.now normalized baseCommit))

/-- `create` of a session. -/
def createSession (sessionId : UUID) (baseCommit : String) : Prog ProductWorld Failure Unit :=
  Durable.transact fun w => do
    Raising.raiseIf (sessionId ∈ w.sessions.map DevelopmentSession.sessionId)
      ⟨.operationalError, "duplicate key value violates unique constraint"⟩
    return ((), { w with sessions := { sessionId, baseCommit } :: w.sessions })

/-- What `record_plan` makes of a session. -/
def DevelopmentSession.planned (session : DevelopmentSession) (dag : TaskDAG) :
    DevelopmentSession :=
  { session with
    state := .readyToRun
    dag := some dag
    workPackages := session.workPackages ++
      (dag.taskIds.filter fun taskId => taskId ∉ session.workPackages.map WorkPackage.taskId).map
        fun taskId => { taskId } }

/-- A statement that updates exactly one session. -/
def updateSession (sessionId : UUID) (change : DevelopmentSession → DevelopmentSession) :
    Prog ProductWorld Failure Unit :=
  Durable.transact fun w => do
    Raising.raiseIf (sessionId ∉ w.sessions.map DevelopmentSession.sessionId)
      ⟨.valueError, "unknown development session: " ++ sessionId.str⟩
    return ((), w.mapSession sessionId change)

/-- `record_plan`. -/
def recordPlan (sessionId : UUID) (dag : TaskDAG) : Prog ProductWorld Failure Unit :=
  updateSession sessionId fun session => session.planned dag

/-- `mark_planning_problem`. -/
def markPlanningProblem (sessionId : UUID) (reusablePlan : Bool) :
    Prog ProductWorld Failure Unit :=
  updateSession sessionId fun session =>
    { session with state := if reusablePlan then .pausedPlanning else .planningFailed }

/-- `mark_completed`. -/
def markCompleted (sessionId : UUID) : Prog ProductWorld Failure Unit :=
  updateSession sessionId fun session => { session with state := .completed }

/-- `attach_run`. -/
def attachRun (sessionId runId : UUID) : Prog ProductWorld Failure Unit :=
  Durable.transact fun w => do
    Raising.raiseIf (sessionId ∉ w.sessions.map DevelopmentSession.sessionId)
      ⟨.valueError, "unknown development session: " ++ sessionId.str⟩
    return ((), w.attach sessionId runId)

/-- One round of the loop of `capture_run_progress`. -/
def recordLatest (latest : List (String × WorkerExecutionEvidence WorkContent))
    (row : EvidenceRow WorkContent) :
    Except Failure (List (String × WorkerExecutionEvidence WorkContent)) :=
  match row.taskId with
  | none => return latest
  | some taskId => do
    let execution ← validatedExecution row
    return (taskId, execution) :: latest.filter fun entry => entry.1 ≠ taskId

/-- `latest` of `capture_run_progress`: a dictionary by the task of the row. -/
def latestExecutions (db : Database WorkContent) :
    Except Failure (List (String × WorkerExecutionEvidence WorkContent)) :=
  (db.evidence.filter fun row => row.kind = .workerExecution).foldlM recordLatest []

/-- The package after the UPDATE for one execution. -/
def WorkPackage.captured (package : WorkPackage) (runId : UUID)
    (execution : WorkerExecutionEvidence WorkContent) : WorkPackage :=
  { package with
    state := if execution.status = .succeeded then .succeeded
      else if execution.checkpoint.isSome then .checkpointed else .failed
    sourceRunId := some runId
    commitSha := if execution.status = .succeeded then execution.commitSha
      else execution.checkpoint.map TaskCheckpoint.commitSha }

/-- The session after `capture_run_progress`: only packages that are there are updated. -/
def DevelopmentSession.captured (session : DevelopmentSession) (runId : UUID)
    (latest : List (String × WorkerExecutionEvidence WorkContent)) : DevelopmentSession :=
  { session with
    workPackages := session.workPackages.map fun package =>
      match latest.lookup package.taskId with
      | none => package
      | some execution => package.captured runId execution }

/-- `capture_run_progress`. -/
def captureRunProgress (sessionId : UUID) (run : ProductRun) : Prog ProductWorld Failure Unit := do
  let latest ← Durable.lift (latestExecutions run.rows.db)
  Durable.write fun w => w.mapSession sessionId fun session => session.captured run.runId latest

/-- `link_recovery`: the column is written once. -/
def linkRecovery (sourceRunId recoveredRunId : UUID) : Prog ProductWorld Failure Unit :=
  Durable.transact fun w =>
    if w.runs.any fun run => run.runId = sourceRunId ∧ run.recoveryRunId = none then
      return ((), w.mapRun sourceRunId fun run => { run with recoveryRunId := some recoveredRunId })
    else do
      Raising.raiseIf ((w.runs.find? fun run => run.runId = sourceRunId).bind
          ProductRun.recoveryRunId ≠ some recoveredRunId)
        ⟨.persistenceConflict, "该运行已经创建了另一个恢复运行"⟩
      return ((), w)

/-- `_completed_task_ids`. -/
def completedTaskIds (db : Database WorkContent) : Except Failure (List String) := do
  let executions ← executionsOf db
  return (executions.filter fun execution => execution.status = .succeeded).map
    WorkerExecutionEvidence.taskId

/-- `completed_task_ids` of `inspect`, by the SQL over the rows. -/
def succeededRows (db : Database WorkContent) : List String :=
  db.evidence.filterMap fun row =>
    match row.payload with
    | .workerExecution execution =>
      if row.kind = .workerExecution ∧ execution.status = .succeeded then row.taskId else none
    | _ => none

/-! ### The entry points -/

/-- A graph of the planner, the workflow matcher or the browser: resume contexts are
"present only on a server-created recovery DAG". -/
structure PlannedDag where
  dag : TaskDAG
  no_context : ∀ node ∈ dag.tasks, node.resumeContext = none

/-- What the workflow matcher and the planner answer. -/
structure PlanningAnswers where
  matched : Option PlannedDag
  planned : Except Failure PlannedDag
  replanned : Except Failure PlannedDag

/-- The end of `create_requirement_run`. -/
def launchPlanned (answers : LaunchAnswers) (sessionId : Option UUID) (runId : UUID)
    (plan : PlannedDag) (baseCommit : String) : Request := do
  match sessionId with
  | none =>
    startRun answers runId plan.dag baseCommit
    Durable.lift answers.initializeBudget
    return runId
  | some sessionId =>
    recordPlan sessionId plan.dag
    startRun answers runId plan.dag baseCommit
    attachRun sessionId runId
    Durable.lift answers.initializeBudget
    return runId

/-- `create_requirement_run`. -/
def createRequirementRun (answers : LaunchAnswers) (planning : PlanningAnswers)
    (newSessionId newRunId : UUID) : Request := do
  let baseCommit ← Durable.lift answers.synchronize
  Durable.lift answers.preflight
  match planning.matched with
  | some plan =>
    Durable.lift (answers.budgetPlan plan.dag)
    launchPlanned answers none newRunId plan baseCommit
  | none =>
    createSession newSessionId baseCommit
    match planning.planned with
    | .error failure =>
      markPlanningProblem newSessionId false
      Durable.lift (.error failure)
    | .ok plan =>
      Durable.lift answers.preflight
      match answers.budgetPlan plan.dag with
      | .ok () => launchPlanned answers (some newSessionId) newRunId plan baseCommit
      | .error _ =>
        markPlanningProblem newSessionId true
        match planning.replanned with
        | .error failure =>
          markPlanningProblem newSessionId true
          Durable.lift (.error failure)
        | .ok plan =>
          Durable.lift answers.preflight
          Durable.lift (answers.budgetPlan plan.dag)
          launchPlanned answers (some newSessionId) newRunId plan baseCommit

/-- `retry_run`. -/
def retryRun (answers : LaunchAnswers) (runId newRunId : UUID) : Request := do
  let w ← Durable.read
  let previous ← Durable.lift (w.loadRun runId)
  Durable.raiseIf (previous.status ≠ .failed)
    ⟨.persistenceConflict, "only a failed Run can be started again"⟩
  let baseCommit ← Durable.lift answers.synchronize
  Durable.lift answers.preflight
  Durable.lift (answers.budgetPlan previous.dag)
  startRun answers newRunId previous.dag baseCommit
  Durable.lift answers.initializeBudget
  return newRunId

/-- The end of `resume_run` for a run of a session. -/
def attachResumed (previous : ProductRun) (newRunId : UUID) : Request := do
  match previous.sessionId with
  | none => return newRunId
  | some sessionId =>
    captureRunProgress sessionId previous
    attachRun sessionId newRunId
    return newRunId

/-- `resume_run`. -/
def resumeRun (answers : LaunchAnswers) (runId newRunId : UUID) : Request := do
  let w ← Durable.read
  let previous ← Durable.lift (w.loadRun runId)
  Durable.raiseIf (previous.status ≠ .failed)
    ⟨.persistenceConflict, "only a failed Run can continue from a checkpoint"⟩
  match ← Durable.lift (resumableTaskCheckpoint previous.rows.db previous.baseCommit) with
  | none =>
    Durable.lift (.error ⟨.persistenceConflict,
      "this failed Run has no unambiguous continuation checkpoint"⟩)
  | some checkpoint =>
    let _ ← Durable.lift answers.synchronize
    Durable.lift answers.preflight
    let completed ← Durable.lift (completedTaskIds previous.rows.db)
    match ← Durable.lift (previous.dag.remaining completed) with
    | none =>
      Durable.lift (.error ⟨.persistenceConflict,
        "this failed Run has no remaining task to continue"⟩)
    | some remaining =>
      let dag ← Durable.lift (remaining.withCheckpointResumeContext checkpoint runId)
      Durable.lift (answers.budgetPlan dag)
      startRun answers newRunId dag checkpoint.commitSha
      Durable.lift answers.initializeBudget
      attachResumed previous newRunId

/-- `DevelopmentSessionContinuationMode`. -/
inductive ContinuationMode
  | auto
  | oldBase
deriving DecidableEq, Repr

/-- The tasks of the packages that SUCCEEDED. -/
def DevelopmentSession.completed (session : DevelopmentSession) : List String :=
  (session.workPackages.filter fun package => package.state = .succeeded).map WorkPackage.taskId

/-- `completed_commits`. -/
def DevelopmentSession.completedCommits (session : DevelopmentSession) : List String :=
  ((session.workPackages.filter fun package => package.taskId ∈ session.completed).filterMap
    WorkPackage.commitSha).dedup

/-- `_continue_development_session_locked` from `completed = …` on. -/
def continueWith (answers : LaunchAnswers) (mode : ContinuationMode) (sessionId newRunId : UUID)
    (session : DevelopmentSession) (plan : TaskDAG) : Request := do
  match ← Durable.lift (plan.remaining session.completed) with
  | none =>
    markCompleted sessionId
    Durable.lift (.error ⟨.persistenceConflict,
      "开发会话的所有工作包均已有成功验证证据，无需再次调用 Developer。"⟩)
  | some remaining =>
    Durable.raiseIf (1 < session.completedCommits.length)
      ⟨.persistenceConflict,
        "已完成工作包来自多个未整合提交，无法安全跳过它们；请先完成集成或重新规划。"⟩
    let w ← Durable.read
    Durable.raiseIf (w.head ≠ session.baseCommit ∧ mode ≠ .oldBase)
      ⟨.persistenceConflict,
        "仓库基线已变化。请先查看恢复预览，并明确选择基于旧基线继续或重新规划。"⟩
    Durable.lift (answers.budgetPlan remaining)
    Durable.lift answers.preflight
    startRun answers newRunId remaining (session.completedCommits.headD session.baseCommit)
    Durable.lift answers.initializeBudget
    attachRun sessionId newRunId
    return newRunId

/-- `continue_development_session`. -/
def continueDevelopmentSession (answers : LaunchAnswers) (mode : ContinuationMode)
    (sessionId newRunId : UUID) : Request := do
  let w ← Durable.read
  let session ← Durable.lift (w.snapshot sessionId)
  match session.dag with
  | none =>
    Durable.lift (.error ⟨.persistenceConflict,
      "该开发会话没有可复用的规划草案；请重新规划，不会伪造恢复路径。"⟩)
  | some plan =>
    Durable.raiseIf (session.state ∉ [.pausedPlanning, .readyToRun, .running])
      ⟨.persistenceConflict, "该开发会话当前不能继续执行"⟩
    match session.latestRunId with
    | none => continueWith answers mode sessionId newRunId session plan
    | some latestRunId =>
      let latest ← Durable.lift (w.loadRun latestRunId)
      if latest.status = .running then return latestRunId
      else
        captureRunProgress sessionId latest
        let w ← Durable.read
        let session ← Durable.lift (w.snapshot sessionId)
        continueWith answers mode sessionId newRunId session plan

/-- The observed facts that `_classify` is called with; `age` and `sinceProgress` are
in seconds. -/
structure Liveness where
  age : ℕ
  dispatchCount : ℕ
  sinceProgress : Option ℕ
  hasActiveLease : Bool
  hasReleasedEvidenceGap : Bool
deriving DecidableEq, Repr

/-- `RunDisplayStatus`. -/
inductive RunDisplayStatus
  | running
  | waitingExternal
  | recoveryRequired
  | succeeded
  | failed
deriving DecidableEq, Repr

/-- `_classify`, with the default thresholds and without the texts. -/
def classify (status : RunStatus) (seen : Liveness) : RunDisplayStatus :=
  match status with
  | .succeeded => .succeeded
  | .failed => .failed
  | .running =>
    let stale := seen.sinceProgress.all fun seconds => 180 ≤ seconds
    if seen.hasReleasedEvidenceGap then .recoveryRequired
    else if 120 ≤ seen.age ∧ seen.dispatchCount = 0 then .recoveryRequired
    else if 180 ≤ seen.age ∧ stale ∧ ¬seen.hasActiveLease then .recoveryRequired
    else if seen.hasActiveLease ∧ stale then .waitingExternal
    else .running

/-- `ProductRunRecoveryPreview`: what `recover_interrupted_run` reads of it. -/
structure RecoveryPreview where
  currentCommit : String
  reusableTaskIds : List String
  existingRecoveryRunId : Option UUID
  recoveryAvailable : Bool

/-- `get_run_recovery_preview`. -/
def recoveryPreview (answers : LaunchAnswers) (seen : Liveness) (w : ProductWorld)
    (previous : ProductRun) : Except Failure RecoveryPreview := do
  Raising.raiseIf (previous.dag.tasks.length ≠ previous.rows.db.taskIds.length)
    ⟨.persistenceConflict, "旧运行的持久化任务图不完整，不能安全恢复"⟩
  Raising.raiseIf (previous.baseCommit ∉ w.commits.map GitCommit.oid)
    ⟨.persistenceConflict, "旧运行的基线提交已不在当前仓库，不能安全恢复"⟩
  answers.preflight
  return {
    currentCommit := w.head
    reusableTaskIds := succeededRows previous.rows.db
    existingRecoveryRunId := previous.recoveryRunId
    recoveryAvailable := classify previous.status seen = .recoveryRequired }

/-- The session that a recovered run is attached to: that of the source, brought up to
date, or a new one with the remaining graph as its plan. -/
def recoverySession (previous : ProductRun) (newSessionId : UUID) (dag : TaskDAG) : Request := do
  match previous.sessionId with
  | some sessionId =>
    captureRunProgress sessionId previous
    return sessionId
  | none =>
    createSession newSessionId previous.baseCommit
    recordPlan newSessionId dag
    return newSessionId

/-- `recover_interrupted_run`. -/
def recoverInterruptedRun (answers : LaunchAnswers) (seen : Liveness)
    (runId newSessionId newRunId : UUID) : Request := do
  let w ← Durable.read
  let previous ← Durable.lift (w.loadRun runId)
  let preview ← Durable.lift (recoveryPreview answers seen w previous)
  match preview.existingRecoveryRunId with
  | some existing => return existing
  | none =>
    Durable.raiseIf (preview.recoveryAvailable = false)
      ⟨.persistenceConflict, "该运行当前不满足新建恢复运行条件"⟩
    match ← Durable.lift (previous.dag.remaining preview.reusableTaskIds) with
    | none =>
      Durable.lift (.error ⟨.persistenceConflict, "该运行没有未完成工作包可恢复"⟩)
    | some dag =>
      let sessionId ← recoverySession previous newSessionId dag
      startRun answers newRunId dag preview.currentCommit
      Durable.lift answers.initializeBudget
      attachRun sessionId newRunId
      linkRecovery runId newRunId
      return newRunId

/-- The timeline and the recovery preview of a session bring it up to date. -/
def refreshSession (sessionId : UUID) : Request := do
  let w ← Durable.read
  let session ← Durable.lift (w.snapshot sessionId)
  match session.latestRunId with
  | none => return sessionId
  | some latestRunId =>
    let latest ← Durable.lift (w.loadRun latestRunId)
    captureRunProgress sessionId latest
    return sessionId

end DevFlow
