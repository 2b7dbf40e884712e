/-
# Queued workers

`workers/lease.py` (`LeasedQueuedTaskWorker.execute`) around
`workers/executor.py` (`QueuedTaskWorker.execute`), with the wrapper of
`workers/project_identity.py`, as processes over the stores of `Persistence`.

A worker acquires the task of its message, loads what it needs (`setup`: all of
it before the `try`), works inside the `try` (`body`), appends its terminal
WORKER_EXECUTION evidence (`persisted`), and its execution task returns or
raises.  An `Exception` of the body goes to the handler that appends a FAILED
execution in its place; a cancellation is no `Exception` and passes it by.  The
wrapper then releases the lease, unless the heartbeat failed first.

Every call of the store may also raise before it has committed, or after.
-/

import DevFlow.Dispatch.Delivery

namespace DevFlow

variable {X : Type}

/-- Where a worker is. -/
inductive WorkerPhase
  /-- The lease is acquired; identity, run, task and graph are still to be read. -/
  | setup
  /-- Inside the `try`, `execution_evidence_persisted` is false. -/
  | body
  /-- `_persist_terminal_worker_exception` is to append. -/
  | handler
  /-- `execution_evidence_persisted` is true. -/
  | persisted
  /-- The handler's append has returned. -/
  | handled
  /-- The execution task has a result; `_release` is next. -/
  | returned
  /-- The execution task, or `_release`, has raised; `_release_after_failure` is
  next. -/
  | raised
  | stopped
deriving DecidableEq, Repr

/-- A worker that has acquired a lease. -/
structure WorkerProcess where
  message : Message
  ownerId : String
  token : UUID
  phase : WorkerPhase
deriving DecidableEq, Repr

/-- The database, the clock, the workers, and every token so far. -/
structure WorkerWorld (X : Type) where
  db : Database X
  now : Timestamp
  workers : List WorkerProcess
  tokens : List UUID

/-- What becomes of a transaction: it is as the store decides, it never reaches
the database, or its commit is not acknowledged. -/
inductive Fault
  | none
  | lost
  | unacknowledged
deriving DecidableEq, Repr

/-- The database after a transaction, and what the caller sees. -/
def Fault.apply (fault : Fault) (db : Database X) (outcome : Except Failure (Database X)) :
    Except Failure Unit × Database X :=
  match fault, outcome with
  | .none, .ok db' => (.ok (), db')
  | .none, .error failure => (.error failure, db)
  | .lost, _ => (.error ⟨.operationalError, "connection lost"⟩, db)
  | .unacknowledged, .ok db' => (.error ⟨.operationalError, "connection lost"⟩, db')
  | .unacknowledged, .error failure => (.error failure, db)

/-- A step of a worker, of its environment or of the clock. -/
inductive WorkerStep (X : Type)
  | acquire (message : Message) (ownerId : String) (token : UUID) (leaseSeconds : ℚ)
  /-- Everything before the `try`: the project identity, `load_run`, the RUNNING
  check, the task lookup and `load_dag`. -/
  | setup (worker : WorkerProcess) (passes : Bool)
  /-- Any append of the body or of the finalization but the terminal one. -/
  | append (worker : WorkerProcess) (evidenceKey : String) (kind : EvidenceKind)
      (payload : Payload X) (stage : Option String) (sequence : Option ℤ) (fault : Fault)
  /-- An exception of the backend, the resolver or the registry. -/
  | throws (worker : WorkerProcess)
  /-- The append of the terminal WORKER_EXECUTION evidence. -/
  | terminal (worker : WorkerProcess) (evidence : WorkerExecutionEvidence X) (fault : Fault)
  /-- The append of `_persist_terminal_worker_exception`. -/
  | handle (worker : WorkerProcess) (evidence : WorkerExecutionEvidence X) (fault : Fault)
  | finalize (worker : WorkerProcess) (result : SingleTaskRunResult X) (fault : Fault)
  /-- The execution task ends after its terminal evidence. -/
  | finish (worker : WorkerProcess) (raises : Bool)
  | cancel (worker : WorkerProcess)
  | heartbeat (worker : WorkerProcess) (leaseSeconds : ℚ) (fault : Fault)
  | release (worker : WorkerProcess) (fault : Fault)
  | crash (worker : WorkerProcess)
  /-- An append of anybody else. -/
  | appendOther (evidenceKey : String) (kind : EvidenceKind) (payload : Payload X)
      (taskId stage : Option String) (sequence : Option ℤ) (runToken : Option UUID)
  /-- A controller finalizes the run. -/
  | finalizeRun (status : RunStatus) (result : TerminalRunResult X)
  | tick (elapsed : ℕ)

/-- The worker goes to another phase, with what it wrote. -/
def WorkerWorld.move (w : WorkerWorld X) (worker : WorkerProcess) (phase : WorkerPhase)
    (db : Database X) : WorkerWorld X :=
  { w with
    db
    workers := w.workers.map fun p => if p = worker then { p with phase } else p }

variable [DecidableEq X]

/-- An append of the worker under its token. -/
def WorkerProcess.append (worker : WorkerProcess) (w : WorkerWorld X) (evidenceKey : String)
    (kind : EvidenceKind) (payload : Payload X) (stage : Option String) (sequence : Option ℤ) :
    Except Failure (Database X) :=
  (appendEvidence w.db w.now w.db.runId evidenceKey kind payload (some worker.message.taskId) stage
    sequence (some worker.token)).map Prod.snd

/-- The append of WORKER_EXECUTION evidence, by the body or by its handler. -/
def WorkerProcess.appendExecution (worker : WorkerProcess) (w : WorkerWorld X)
    (evidence : WorkerExecutionEvidence X) : Except Failure (Database X) :=
  worker.append w (workerEvidenceKey (worker.message.dispatchId, none)) .workerExecution
    (.workerExecution evidence) (some "worker") none

/-- The evidence is about the worker's own dispatch. -/
def WorkerProcess.owns (worker : WorkerProcess) (db : Database X)
    (evidence : WorkerExecutionEvidence X) : Prop :=
  evidence.dispatchId = worker.message.dispatchId ∧ evidence.runId = db.runId ∧
    evidence.taskId = worker.message.taskId

instance (worker : WorkerProcess) (db : Database X) (evidence : WorkerExecutionEvidence X) :
    Decidable (worker.owns db evidence) :=
  inferInstanceAs (Decidable (_ ∧ _))

/-- One step. -/
def WorkerStep.perform (w : WorkerWorld X) :
    WorkerStep X → Option (Except Failure Unit × WorkerWorld X)
  | .acquire message ownerId token leaseSeconds =>
    if token ∈ w.tokens then none
    else match acquireTaskLease w.db w.now token w.db.runId message.taskId ownerId
        message.dispatchId leaseSeconds with
      | .ok (_, db) =>
        some (.ok (), { w with
          db
          workers := w.workers ++ [⟨message, ownerId, token, .setup⟩]
          tokens := token :: w.tokens })
      | .error failure => some (.error failure, w)
  | .setup worker passes =>
    if worker ∉ w.workers ∨ worker.phase ≠ .setup then none
    else if passes then
      if w.db.status = .running ∧ worker.message.taskId ∈ w.db.taskIds then
        some (.ok (), w.move worker .body w.db)
      else none
    else some (.ok (), w.move worker .raised w.db)
  | .append worker evidenceKey kind payload stage sequence fault =>
    if worker ∉ w.workers ∨ worker.phase ∉ [.body, .persisted, .handled] ∨
        kind = .workerExecution then none
    else
      let (answer, db) := fault.apply w.db (worker.append w evidenceKey kind payload stage sequence)
      some (answer, w.move worker
        (if worker.phase = .body ∧ answer ≠ .ok () then .handler else worker.phase) db)
  | .throws worker =>
    if worker ∉ w.workers ∨ worker.phase ≠ .body then none
    else some (.ok (), w.move worker .handler w.db)
  | .terminal worker evidence fault =>
    if worker ∉ w.workers ∨ worker.phase ≠ .body ∨ ¬worker.owns w.db evidence then none
    else
      let (answer, db) := fault.apply w.db (worker.appendExecution w evidence)
      some (answer, w.move worker (if answer = .ok () then .persisted else .handler) db)
  | .handle worker evidence fault =>
    if worker ∉ w.workers ∨ worker.phase ≠ .handler ∨ ¬worker.owns w.db evidence ∨
        evidence.status ≠ .failed then none
    else
      let (answer, db) := fault.apply w.db (worker.appendExecution w evidence)
      some (answer, w.move worker (if answer = .ok () then .handled else .raised) db)
  | .finalize worker result fault =>
    if worker ∉ w.workers ∨ worker.phase ≠ .persisted then none
    else
      let (answer, db) := fault.apply w.db
        (finalizeSingleTaskRun w.db w.now w.db.runId result (some worker.token))
      some (answer, w.move worker .persisted db)
  | .finish worker raises =>
    if worker ∉ w.workers ∨ worker.phase ∉ [.persisted, .handled] then none
    else some (.ok (), w.move worker (if raises then .raised else .returned) w.db)
  | .cancel worker =>
    if worker ∉ w.workers ∨ worker.phase = .stopped then none
    else some (.ok (), w.move worker
      (if worker.phase = .raised then .stopped else .raised) w.db)
  | .heartbeat worker leaseSeconds fault =>
    if worker ∉ w.workers ∨ worker.phase = .stopped then none
    else
      let (answer, db) := fault.apply w.db
        ((renewTaskLease w.db w.now w.db.runId worker.message.taskId worker.ownerId
          worker.message.dispatchId worker.token leaseSeconds).map Prod.snd)
      -- a heartbeat that fails before the execution is done ends the worker without a release
      let phase := if answer = .ok () then worker.phase
        else if worker.phase = .returned ∨ worker.phase = .raised then .raised else .stopped
      some (answer, w.move worker phase db)
  | .release worker fault =>
    if worker ∉ w.workers ∨ worker.phase ∉ [.returned, .raised] then none
    else
      let (answer, db) := fault.apply w.db
        ((releaseTaskLease w.db w.now w.db.runId worker.message.taskId worker.ownerId
          worker.message.dispatchId worker.token).map Prod.snd)
      -- a `_release` that raises is tried again by `_release_after_failure`
      some (answer, w.move worker
        (if worker.phase = .returned ∧ answer ≠ .ok () then .raised else .stopped) db)
  | .crash worker =>
    if worker ∉ w.workers then none else some (.ok (), w.move worker .stopped w.db)
  | .appendOther evidenceKey kind payload taskId stage sequence runToken =>
    match appendEvidence w.db w.now w.db.runId evidenceKey kind payload taskId stage sequence
        runToken with
    | .ok (_, db) => some (.ok (), { w with db })
    | .error failure => some (.error failure, w)
  | .finalizeRun status result =>
    if w.db.status ≠ .running ∨ status = .running then none
    else some (.ok (), { w with db := { w.db with status, terminalResult := some result } })
  | .tick elapsed => some (.ok (), { w with now := w.now + elapsed })

/-- The transition system. -/
def workerStep (w : WorkerWorld X) (s : WorkerStep X) (answer : Except Failure Unit)
    (w' : WorkerWorld X) : Prop :=
  s.perform w = some (answer, w')

end DevFlow
