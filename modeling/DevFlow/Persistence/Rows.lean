/-
# The persisted rows of one run

`persistence/models.py`, `persistence/types.py`, `persistence/errors.py` and the
Pydantic models of `models/events.py`, `models/dispatch.py` and
`models/dispatch_attempt.py`: what PostgreSQL holds of one run, restricted to
the columns that the leases, the evidence store, the dispatch ledger and the
reconciler read or write.

| source | here |
| --- | --- |
| `RunRow` | `Database.runId`, `status`, `terminalResult`, `timeline.sequence` |
| `TaskRow` | `Database.taskIds`, `Database.lease` |
| `EvidenceRow` | `EvidenceRow`, in the order of their ids |
| `RuntimeEventRow` | `RuntimeEventRow` |
| `DispatchAttemptRow` | `DispatchAttemptRow` |

The CHECK `ck_tasks_lease_shape` says that the lease columns of a task are
either all null with generation zero or all set with a positive generation;
`Option Lease` is that constraint.  Times are microseconds since the epoch, and
the payload of an evidence row is compared as a value where the source compares
its SHA-256.
-/

import DevFlow.Library.Raising
import Mathlib.Algebra.Ring.Nat
import Mathlib.Data.List.Nodup
import Mathlib.Data.Int.Order.Basic
import Mathlib.Logic.Function.Basic

namespace DevFlow

/-- A `uuid.UUID`, by its integer value. -/
structure UUID where
  int : ℕ
deriving DecidableEq, Repr

/-- The characters of the hexadecimal text at positions `i, …, i + n - 1`. -/
def hexGroup (digits : List Char) (i n : ℕ) : List Char :=
  (digits.drop i).take n

/-- `str(uuid)`: 32 lower-case hexadecimal digits in groups of 8-4-4-4-12. -/
def UUID.str (u : UUID) : String :=
  let hex := Nat.toDigits 16 u.int
  let digits := List.replicate (32 - hex.length) '0' ++ hex
  String.ofList (hexGroup digits 0 8 ++ '-' :: hexGroup digits 8 4 ++ '-' :: hexGroup digits 12 4 ++
    '-' :: hexGroup digits 16 4 ++ '-' :: hexGroup digits 20 12)

/-- A timezone-aware `datetime`: microseconds since the epoch. -/
abbrev Timestamp := ℤ

/-- The exception classes that the modelled code raises. -/
inductive ErrorKind
  | valueError
  | keyError
  | runtimeError
  | persistenceConflict
  | persistenceCorruption
  | taskLeaseConflict
  | taskLeaseExpired
  | staleRunToken
  | taskDispatchRejected
  | taskExecutionBaseUnavailable
  | taskWorktreeError
  | typeError
  | workerExecutionBoundary
  | mergeQueueError
  | runBudgetExhausted
  | planningTokenBudgetReservation
  /-- A driver exception of the database, of the broker or of Git. -/
  | operationalError
deriving DecidableEq, Repr

/-- `except TaskLeaseConflictError`: the class and its subclass
`TaskLeaseExpiredError`; `StaleRunTokenError` is no subclass of it. -/
def ErrorKind.isTaskLeaseConflict : ErrorKind → Bool
  | .taskLeaseConflict | .taskLeaseExpired => true
  | _ => false

/-- A raised exception: its class and its text. -/
structure Failure where
  kind : ErrorKind
  message : String
deriving DecidableEq, Repr

/-- The white space of `str.strip`. -/
def isSpace (c : Char) : Bool :=
  (9 ≤ c.toNat && c.toNat ≤ 13) || (28 ≤ c.toNat && c.toNat ≤ 32) || c.toNat = 0x85 ||
    c.toNat = 0xA0 || c.toNat = 0x1680 || (0x2000 ≤ c.toNat && c.toNat ≤ 0x200A) ||
    c.toNat = 0x2028 || c.toNat = 0x2029 || c.toNat = 0x202F || c.toNat = 0x205F ||
    c.toNat = 0x3000

instance lawfulBEq_chars : LawfulBEq (List Char) :=
  inferInstance

/-- `str.strip`. -/
def strip (s : String) : String :=
  String.ofList (((s.toList.dropWhile isSpace).reverse.dropWhile isSpace).reverse)

theorem strip_eq_self {s : String} (h : ∀ c ∈ s.toList, isSpace c = false) : strip s = s := by
  have hkeep : ∀ l : List Char, (∀ c ∈ l, isSpace c = false) → l.dropWhile isSpace = l := by
    intro l hl
    cases l with
    | nil => rfl
    | cons c l => rw [List.dropWhile_cons, hl c List.mem_cons_self, if_neg Bool.false_ne_true]
  have hrev : ∀ c ∈ s.toList.reverse, isSpace c = false :=
    fun c hc => h c (List.mem_reverse.1 hc)
  rw [strip, hkeep _ h, hkeep _ hrev, List.reverse_reverse, String.ofList_toList]

/-- The characters of a task id after the first. -/
def isTaskIdChar (c : Char) : Bool :=
  c.isAlphanum || c == '.' || c == '_' || c == '-'

/-- `TaskContract.task_id`: at most 128 characters of the pattern
`[A-Za-z0-9][A-Za-z0-9._-]*`. -/
def isTaskId (s : String) : Bool :=
  match s.toList with
  | [] => false
  | c :: cs => c.isAlphanum && cs.all isTaskIdChar && s.length ≤ 128

theorem isTaskId_a : isTaskId "a" = true := by decide +kernel

theorem isTaskId_b : isTaskId "b" = true := by decide +kernel

theorem isTaskId_api : isTaskId "api" = true := by decide +kernel

theorem isTaskId_docs : isTaskId "docs" = true := by decide +kernel

/-- The letters and digits of ASCII. -/
theorem isAlphanum_iff {c : Char} : c.isAlphanum = true ↔ 65 ≤ c.toNat ∧ c.toNat ≤ 90 ∨
    97 ≤ c.toNat ∧ c.toNat ≤ 122 ∨ 48 ≤ c.toNat ∧ c.toNat ≤ 57 := by
  change (decide (c.val ≥ 'A'.val ∧ c.val ≤ 'Z'.val) ||
    (decide (c.val ≥ 'a'.val) && decide (c.val ≤ 'z'.val)) ||
      (decide (c.val ≥ '0'.val) && decide (c.val ≤ '9'.val))) = true ↔ _
  simp only [Bool.or_eq_true, Bool.and_eq_true, decide_eq_true_eq, ge_iff_le,
    UInt32.le_iff_toNat_le, or_assoc]
  exact Iff.rfl

theorem isSpace_of_isTaskIdChar {c : Char} (h : isTaskIdChar c = true) : isSpace c = false := by
  have hrange : 45 ≤ c.toNat ∧ c.toNat ≤ 122 := by
    simp only [isTaskIdChar, Bool.or_eq_true, isAlphanum_iff, beq_iff_eq] at h
    rcases h with ((h | rfl) | rfl) | rfl
    · omega
    all_goals decide
  simp only [isSpace, Bool.or_eq_false_iff, Bool.and_eq_false_iff, decide_eq_false_iff_not]
  omega

/-- **Task ids have no white space.** -/
theorem strip_of_isTaskId {s : String} (h : isTaskId s = true) : strip s = s := by
  refine strip_eq_self fun c hc => isSpace_of_isTaskIdChar ?_
  unfold isTaskId at h
  split at h
  · cases h
  · rename_i first rest hchars
    rw [hchars, List.mem_cons] at hc
    simp only [Bool.and_eq_true, List.all_eq_true] at h
    rcases hc with rfl | hc
    · simp [isTaskIdChar, h.1.1]
    · exact h.1.2 c hc

/-- `_required_text` of the lease, evidence and dispatch stores. -/
def requiredText (value name : String) (maxLength : ℕ) : Except Failure String := do
  let normalized := strip value
  Raising.raiseIf (normalized = "") ⟨.valueError, s!"{name} must not be empty"⟩
  Raising.raiseIf (maxLength < normalized.length)
    ⟨.valueError, s!"{name} exceeds maximum length {maxLength}"⟩
  return normalized

/-- An accepted text is the stripped one, within its length. -/
theorem requiredText_eq_ok {value name text : String} {maxLength : ℕ} :
    requiredText value name maxLength = .ok text ↔
      text = strip value ∧ strip value ≠ "" ∧ (strip value).length ≤ maxLength := by
  simp only [requiredText, Raising.bind_eq_ok, Raising.raiseIf_eq_ok, Raising.pure_eq_ok, Nat.not_lt]
  constructor
  · rintro ⟨_, hne, _, hle, rfl⟩
    exact ⟨rfl, hne, hle⟩
  · rintro ⟨rfl, hne, hle⟩
    exact ⟨⟨⟩, hne, ⟨⟩, hle, rfl⟩

/-- `_optional_text` of the evidence store. -/
def optionalText (value : Option String) (name : String) (maxLength : ℕ) :
    Except Failure (Option String) :=
  match value with
  | none => return none
  | some text => return some (← requiredText text name maxLength)

/-- `PersistedRunStatus`. -/
inductive RunStatus
  | running
  | succeeded
  | failed
deriving DecidableEq, Repr

/-- The value of the enumeration member. -/
def RunStatus.value : RunStatus → String
  | .running => "RUNNING"
  | .succeeded => "SUCCEEDED"
  | .failed => "FAILED"

/-- `PersistenceEvidenceKind`. -/
inductive EvidenceKind
  | stateTransition
  | developerRun
  | verificationResult
  | reviewDecision
  | repairRun
  | failureReport
  | mergeQueueSnapshot
  | mergeConflict
  | integrationGate
  | humanDecision
  | integrationRepair
  | contextReference
  | dispatchEvent
  | workerExecution
  | traceBatch
  | operatorAction
  | taskCheckpoint
  | workflowMatch
  | workflowExecution
deriving DecidableEq, Repr

/-- The value of the enumeration member. -/
def EvidenceKind.value : EvidenceKind → String
  | .stateTransition => "STATE_TRANSITION"
  | .developerRun => "DEVELOPER_RUN"
  | .verificationResult => "VERIFICATION_RESULT"
  | .reviewDecision => "REVIEW_DECISION"
  | .repairRun => "REPAIR_RUN"
  | .failureReport => "FAILURE_REPORT"
  | .mergeQueueSnapshot => "MERGE_QUEUE_SNAPSHOT"
  | .mergeConflict => "MERGE_CONFLICT"
  | .integrationGate => "INTEGRATION_GATE"
  | .humanDecision => "HUMAN_DECISION"
  | .integrationRepair => "INTEGRATION_REPAIR"
  | .contextReference => "CONTEXT_REFERENCE"
  | .dispatchEvent => "DISPATCH_EVENT"
  | .workerExecution => "WORKER_EXECUTION"
  | .traceBatch => "TRACE_BATCH"
  | .operatorAction => "OPERATOR_ACTION"
  | .taskCheckpoint => "TASK_CHECKPOINT"
  | .workflowMatch => "WORKFLOW_MATCH"
  | .workflowExecution => "WORKFLOW_EXECUTION"

/-- `WorkerExecutionStatus`. -/
inductive ExecutionStatus
  | succeeded
  | failed
deriving DecidableEq, Repr

theorem ExecutionStatus.succeeded_commit (commit : String) :
    succeeded = succeeded → some commit ≠ none := by
  simp

theorem ExecutionStatus.succeeded_not_failed (commit : String) :
    succeeded = failed → some commit = none := by
  simp

theorem ExecutionStatus.failed_not_succeeded :
    failed = succeeded → (none : Option String) ≠ none := by
  simp

theorem ExecutionStatus.failed_commit : failed = failed → (none : Option String) = none := by
  simp

/-- `WorkerDispatchPhase`. -/
inductive DispatchPhase
  | received
  | completed
deriving DecidableEq, Repr

theorem DispatchPhase.received_outcome (outcome : Option ExecutionStatus) :
    (if outcome = none then received else completed) = received → outcome = none := by
  by_cases houtcome : outcome = none <;> simp [houtcome]

theorem DispatchPhase.completed_outcome (outcome : Option ExecutionStatus) :
    (if outcome = none then received else completed) = completed → outcome ≠ none := by
  by_cases houtcome : outcome = none <;> simp [houtcome]

/-- `TaskRunState`. -/
inductive TaskRunState
  | pending
  | running
  | verifying
  | reviewing
  | repairing
  | succeeded
  | failed
deriving DecidableEq, Repr

/-- `SingleTaskRunResult`: a terminal result of one task.  `content` stands for
the evidence bundle, which no modelled function looks into. -/
structure SingleTaskRunResult (X : Type) where
  taskId : String
  status : TaskRunState
  content : X
  terminal : status = .succeeded ∨ status = .failed

instance {X : Type} [DecidableEq X] : DecidableEq (SingleTaskRunResult X) := fun result other =>
  decidable_of_iff
    (result.taskId = other.taskId ∧ result.status = other.status ∧ result.content = other.content)
    (by
      cases result
      cases other
      simp)

/-- `WorkerExecutionEvidence`.  Of `validate_terminal_shape` the part about
`commit_sha` is carried by the type; `content` stands for the checkpoint, the
run result, the failures and the other details. -/
structure WorkerExecutionEvidence (X : Type) where
  dispatchId : UUID
  runId : UUID
  taskId : String
  status : ExecutionStatus
  baseCommit : String
  commitSha : Option String
  content : X
  success_commit : status = .succeeded → commitSha ≠ none
  failure_commit : status = .failed → commitSha = none
deriving DecidableEq

/-- `WorkerDispatchEvent`, with `validate_phase_shape`. -/
structure WorkerDispatchEvent where
  dispatchId : UUID
  runId : UUID
  taskId : String
  phase : DispatchPhase
  outcome : Option ExecutionStatus
  received_outcome : phase = .received → outcome = none
  completed_outcome : phase = .completed → outcome ≠ none
deriving DecidableEq

/-- A typed evidence payload: the two models that the reconciler reads back, and
any other by the evidence kind whose model it is and its content. -/
inductive Payload (X : Type)
  | workerExecution (evidence : WorkerExecutionEvidence X)
  | dispatchEvent (event : WorkerDispatchEvent)
  | other (model : EvidenceKind) (content : X)
deriving DecidableEq

/-- `TerminalRunResult`. -/
inductive TerminalRunResult (X : Type)
  | single (result : SingleTaskRunResult X)
  | multi (content : X)
deriving DecidableEq

/-- `EvidenceRow`. -/
structure EvidenceRow (X : Type) where
  id : ℕ
  taskId : Option String
  evidenceKey : String
  kind : EvidenceKind
  stage : Option String
  sequence : Option ℤ
  schemaVersion : ℕ
  payload : Payload X
deriving DecidableEq

/-- The lease columns of an owned `TaskRow`. -/
structure Lease where
  owner : String
  dispatchId : UUID
  generation : ℕ
  runToken : UUID
  acquiredAt : Timestamp
  heartbeatAt : Timestamp
  leaseUntil : Timestamp
  releasedAt : Option Timestamp
  generation_pos : 1 ≤ generation
deriving DecidableEq, Repr

/-- The first generation of a lease. -/
theorem Lease.firstGeneration : 1 ≤ 1 :=
  le_rfl

/-- `RuntimeEventLevel`. -/
inductive EventLevel
  | info
  | warning
  | error
deriving DecidableEq, Repr

/-- `RuntimeEventSource`. -/
inductive EventSource
  | persistence
  | lease
  | dispatch
  | worker
  | runtime
  | agent
  | verification
  | review
  | repair
  | integration
deriving DecidableEq, Repr

/-- `RuntimeEventKind`. -/
inductive EventKind
  | runStarted
  | runFinalized
  | leaseAcquired
  | leaseTakenOver
  | leaseHeartbeat
  | leaseReleased
  | evidenceRecorded
deriving DecidableEq, Repr

/-- The event keys that the stores build: `run:started`,
`lease:{task}:generation:{n}:acquired`, `…:heartbeat:{time}`, `…:released`,
`evidence:{id}` and `run:finalized`.  A task id has no colon, so two keys are equal
as texts exactly if they are equal here. -/
inductive EventKey
  | runStarted
  | acquired (taskId : String) (generation : ℕ)
  | heartbeat (taskId : String) (generation : ℕ) (observedAt : Timestamp)
  | released (taskId : String) (generation : ℕ)
  | evidence (id : ℕ)
  | runFinalized
deriving DecidableEq, Repr

/-- The attributes of those events. -/
inductive EventAttributes (X : Type)
  | started (projectId : UUID) (baseCommit : String) (taskCount : ℕ) (dagSha256 : Option String)
  | acquired (ownerId : String) (previousGeneration : Option ℕ) (leaseUntil : Timestamp)
  | heartbeat (ownerId : String) (leaseUntil : Timestamp)
  | released (ownerId : String) (releasedAt : Timestamp)
  | evidence (row : EvidenceRow X)
  | finalized (status : RunStatus) (result : TerminalRunResult X)
deriving DecidableEq

/-- `RuntimeEventDraft`. -/
structure RuntimeEventDraft (X : Type) where
  eventKey : EventKey
  kind : EventKind
  source : EventSource
  level : EventLevel := .info
  taskId : Option String
  dispatchId : Option UUID
  generation : Option ℕ
  message : String
  attributes : EventAttributes X
deriving DecidableEq

/-- `RuntimeEventRow`: a draft with its sequence number in the run. -/
structure RuntimeEventRow (X : Type) where
  sequence : ℕ
  draft : RuntimeEventDraft X
deriving DecidableEq

/-- `RunRow.event_sequence` and the run's events. -/
structure Timeline (X : Type) where
  sequence : ℕ
  rows : List (RuntimeEventRow X)
deriving DecidableEq

/-- `DispatchAttemptState` with the columns that belong to each state, as the
CHECK `ck_dispatch_attempts_state_shape` requires. -/
inductive AttemptState
  | requested
  | enqueued (brokerMessageId queueName : String) (resolvedAt : Timestamp)
  | publishFailed (errorCode errorMessage : String) (resolvedAt : Timestamp)
deriving DecidableEq, Repr

/-- `DispatchAttemptRow`. -/
structure DispatchAttemptRow where
  dispatchId : UUID
  taskId : String
  attemptNumber : ℕ
  state : AttemptState
  requestedAt : Timestamp
  updatedAt : Timestamp
deriving DecidableEq, Repr

/-- What PostgreSQL holds of one run.  `evidenceSequence` is the last value that
the identity column of the evidence table handed out, to this run or another. -/
structure Database (X : Type) where
  runId : UUID
  status : RunStatus
  terminalResult : Option (TerminalRunResult X)
  taskIds : List String
  lease : String → Option Lease
  evidence : List (EvidenceRow X)
  evidenceSequence : ℕ
  attempts : List DispatchAttemptRow
  timeline : Timeline X

/-- The rows that `start_run` inserts, before it appends its event. -/
def Database.created (X : Type) (runId : UUID) (taskIds : List String) : Database X where
  runId := runId
  status := .running
  terminalResult := none
  taskIds := taskIds
  lease := fun _ => none
  evidence := []
  evidenceSequence := 0
  attempts := []
  timeline := ⟨0, []⟩

variable {X : Type}

/-- The database with the lease columns of one task written. -/
def Database.setLease (db : Database X) (taskId : String) (lease : Lease) : Database X :=
  { db with lease := Function.update db.lease taskId (some lease) }

@[simp] theorem Database.setLease_lease_self (db : Database X) (taskId : String) (lease : Lease) :
    (db.setLease taskId lease).lease taskId = some lease := by
  simp [setLease]

theorem Database.setLease_lease_of_ne (db : Database X) {taskId other : String} (lease : Lease)
    (h : other ≠ taskId) : (db.setLease taskId lease).lease other = db.lease other := by
  simp [setLease, h]

/-- `TaskRow.lease_generation`: zero while the task is unowned. -/
def Database.generation (db : Database X) (taskId : String) : ℕ :=
  ((db.lease taskId).map Lease.generation).getD 0

/-- `_locked_run`. -/
def lockedRun (db : Database X) (runId : UUID) : Except Failure Unit :=
  Raising.raiseIf (runId ≠ db.runId) ⟨.valueError, "unknown persistence run: " ++ runId.str⟩

/-- `_locked_task` of the lease, dispatch and reconciliation stores; the evidence
store has its own text. -/
def lockedTask (db : Database X) (taskId : String) : Except Failure (Option Lease) := do
  Raising.raiseIf (taskId ∉ db.taskIds)
    ⟨.valueError, "unknown persisted task '" ++ taskId ++ "' for run " ++ db.runId.str⟩
  return db.lease taskId

@[simp] theorem lockedRun_eq_ok {db : Database X} {runId : UUID} {u : Unit} :
    lockedRun db runId = .ok u ↔ runId = db.runId := by
  simp [lockedRun]

@[simp] theorem lockedTask_eq_ok {db : Database X} {taskId : String} {lease : Option Lease} :
    lockedTask db taskId = .ok lease ↔ taskId ∈ db.taskIds ∧ lease = db.lease taskId := by
  simp only [lockedTask, Raising.bind_eq_ok, Raising.raiseIf_eq_ok, Raising.pure_eq_ok, not_not]
  constructor
  · rintro ⟨-, hmember, heq⟩
    exact ⟨hmember, heq.symm⟩
  · rintro ⟨hmember, heq⟩
    exact ⟨⟨⟩, hmember, heq.symm⟩

/-- `_same_event`. -/
def sameEvent (row : RuntimeEventRow X) (draft : RuntimeEventDraft X) : Prop :=
  row.draft = draft

instance [DecidableEq X] (row : RuntimeEventRow X) (draft : RuntimeEventDraft X) :
    Decidable (sameEvent row draft) :=
  inferInstanceAs (Decidable (row.draft = draft))

/-- `append_runtime_event`: a key that is there already must carry the same
event, and the sequence number then stays. -/
def appendRuntimeEvent [DecidableEq X] (timeline : Timeline X) (draft : RuntimeEventDraft X) :
    Except Failure (Timeline X) :=
  match timeline.rows.find? (fun row => row.draft.eventKey = draft.eventKey) with
  | some row => do
    Raising.raiseIf (¬sameEvent row draft)
      ⟨.persistenceConflict, "runtime event key was reused for different event data"⟩
    return timeline
  | none =>
    return { sequence := timeline.sequence + 1
             rows := timeline.rows ++ [⟨timeline.sequence + 1, draft⟩] }

end DevFlow
