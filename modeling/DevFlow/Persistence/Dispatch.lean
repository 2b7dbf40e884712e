/-
# The dispatch ledger

`persistence/dispatch.py` (`PostgresDispatchAttemptStore`) and
`models/dispatch_attempt.py`: the intent to dispatch a task is written before the
broker is called (`begin_initial_attempt`), and what was observed of the broker
after it (`mark_enqueued`, `mark_publish_failed`).  Recovery attempts are written
by the reconciler.
-/

import DevFlow.Persistence.Leases

namespace DevFlow

variable {X : Type}

/-- A text column of the ledger holds one to `maxLength` characters. -/
def textFits (text : String) (maxLength : ℕ) : Prop :=
  1 ≤ text.length ∧ text.length ≤ maxLength

instance (text : String) (maxLength : ℕ) : Decidable (textFits text maxLength) :=
  inferInstanceAs (Decidable (_ ∧ _))

/-- The bounds of the columns that belong to a state, and the order of the
timestamps. -/
def AttemptState.Valid (state : AttemptState) (requestedAt : Timestamp) : Prop :=
  match state with
  | .requested => True
  | .enqueued brokerMessageId queueName resolvedAt =>
    requestedAt ≤ resolvedAt ∧ textFits brokerMessageId 128 ∧ textFits queueName 128
  | .publishFailed errorCode errorMessage resolvedAt =>
    requestedAt ≤ resolvedAt ∧ textFits errorCode 64 ∧ textFits errorMessage 512

instance (state : AttemptState) (requestedAt : Timestamp) :
    Decidable (state.Valid requestedAt) :=
  match state with
  | .requested => inferInstanceAs (Decidable True)
  | .enqueued _ _ _ => inferInstanceAs (Decidable (_ ∧ _ ∧ _))
  | .publishFailed _ _ _ => inferInstanceAs (Decidable (_ ∧ _ ∧ _))

/-- The fields of `PersistedDispatchAttempt` and its `validate_state_shape`. -/
def DispatchAttemptRow.Valid (row : DispatchAttemptRow) : Prop :=
  textFits row.taskId 128 ∧ 1 ≤ row.attemptNumber ∧ row.requestedAt ≤ row.updatedAt ∧
    row.state.Valid row.requestedAt

instance (row : DispatchAttemptRow) : Decidable row.Valid :=
  inferInstanceAs (Decidable (_ ∧ _ ∧ _ ∧ _))

/-- `_decode`. -/
def decodeAttempt (row : DispatchAttemptRow) : Except Failure Unit :=
  Raising.raiseIf (¬row.Valid)
    ⟨.persistenceCorruption, "dispatch attempt " ++ row.dispatchId.str ++
      " failed durable validation"⟩

/-- A REQUESTED attempt. -/
def requestedAttempt (dispatchId : UUID) (taskId : String) (attemptNumber : ℕ)
    (observedAt : Timestamp) : DispatchAttemptRow where
  dispatchId := dispatchId
  taskId := taskId
  attemptNumber := attemptNumber
  state := .requested
  requestedAt := observedAt
  updatedAt := observedAt

theorem requestedAttempt_valid {dispatchId : UUID} {taskId : String} {attemptNumber : ℕ}
    {observedAt : Timestamp} (htask : textFits taskId 128) (hnumber : 1 ≤ attemptNumber) :
    (requestedAttempt dispatchId taskId attemptNumber observedAt).Valid :=
  ⟨htask, hnumber, le_rfl, trivial⟩

/-- The database with one more attempt. -/
def Database.insertAttempt (db : Database X) (row : DispatchAttemptRow) : Database X :=
  { db with attempts := db.attempts ++ [row] }

/-- The database with the attempt of one dispatch rewritten. -/
def Database.updateAttempt (db : Database X) (dispatchId : UUID)
    (update : DispatchAttemptRow → DispatchAttemptRow) : Database X :=
  { db with attempts := db.attempts.map fun row =>
      if row.dispatchId = dispatchId then update row else row }

/-- `begin_initial_attempt`: the attempt and whether this call created it. -/
def beginInitialAttempt (db : Database X) (now : Timestamp) (dispatchId runId : UUID)
    (taskId : String) : Except Failure ((DispatchAttemptRow × Bool) × Database X) := do
  let taskName ← requiredText taskId "task_id" 128
  lockedRun db runId
  Raising.raiseIf (db.status ≠ .running)
    ⟨.persistenceConflict, "dispatch attempts may be created only for RUNNING persisted Runs"⟩
  let _ ← lockedTask db taskName
  match db.attempts.find? (fun row => row.dispatchId = dispatchId) with
  | some existing =>
    decodeAttempt existing
    Raising.raiseIf (existing.taskId ≠ taskName)
      ⟨.persistenceConflict, "dispatch_id is already bound to a different persisted Run/Task"⟩
    Raising.raiseIf (existing.attemptNumber ≠ 1)
      ⟨.persistenceCorruption, "ordinary dispatch_id unexpectedly refers to a recovery attempt"⟩
    return ((existing, false), db)
  | none =>
    Raising.raiseIf (db.attempts.any fun row => row.taskId = taskName)
      ⟨.persistenceConflict,
        "task already has a durable dispatch attempt; recovery must decide any retry"⟩
    let row := requestedAttempt dispatchId taskName 1 now
    decodeAttempt row
    return ((row, true), db.insertAttempt row)

/-- The lock, the identity check and the transition that `mark_enqueued` and
`mark_publish_failed` share.  `repeats` tells of a stored outcome whether it is
of the same sort and then whether it has the same facts. -/
def resolveAttempt (db : Database X) (now : Timestamp) (dispatchId runId : UUID)
    (taskName : String) (repeats : AttemptState → Option Bool) (differs rewrites : String)
    (resolved : AttemptState) : Except Failure (Database X) :=
  match db.attempts.find? (fun row => row.dispatchId = dispatchId) with
  | none =>
    .error ⟨.persistenceConflict,
      "dispatch attempt must be durably REQUESTED before recording broker outcome"⟩
  | some row => do
    decodeAttempt row
    Raising.raiseIf (runId ≠ db.runId ∨ row.taskId ≠ taskName)
      ⟨.persistenceConflict,
        "dispatch publication result does not match durable Run/Task identity"⟩
    match repeats row.state with
    | some sameFacts =>
      Raising.raiseIf (¬sameFacts) ⟨.persistenceConflict, differs⟩
      return db
    | none =>
      Raising.raiseIf (row.state ≠ .requested) ⟨.persistenceConflict, rewrites⟩
      let update := fun row : DispatchAttemptRow => { row with state := resolved, updatedAt := now }
      decodeAttempt (update row)
      return db.updateAttempt dispatchId update

/-- `mark_enqueued`. -/
def markEnqueued (db : Database X) (now : Timestamp) (dispatchId runId : UUID) (taskId : String)
    (brokerMessageId queueName : String) : Except Failure (Database X) := do
  let messageId ← requiredText brokerMessageId "broker_message_id" 128
  let queue ← requiredText queueName "queue_name" 128
  let taskName ← requiredText taskId "task_id" 128
  resolveAttempt db now dispatchId runId taskName
    (fun state => match state with
      | .enqueued storedId storedQueue _ => some (storedId = messageId ∧ storedQueue = queue)
      | _ => none)
    "ENQUEUED dispatch acknowledgement cannot be replaced by different facts"
    "PUBLISH_FAILED dispatch attempts cannot be rewritten as ENQUEUED"
    (.enqueued messageId queue now)

/-- `mark_publish_failed`. -/
def markPublishFailed (db : Database X) (now : Timestamp) (dispatchId runId : UUID)
    (taskId : String) (errorCode errorMessage : String) : Except Failure (Database X) := do
  let code ← requiredText errorCode "error_code" 64
  let message ← requiredText errorMessage "error_message" 512
  let taskName ← requiredText taskId "task_id" 128
  resolveAttempt db now dispatchId runId taskName
    (fun state => match state with
      | .publishFailed storedCode storedMessage _ =>
        some (storedCode = code ∧ storedMessage = message)
      | _ => none)
    "PUBLISH_FAILED dispatch observation cannot be replaced by different facts"
    "ENQUEUED dispatch attempts cannot be rewritten as PUBLISH_FAILED"
    (.publishFailed code message now)

@[simp] theorem decodeAttempt_eq_ok {row : DispatchAttemptRow} {u : Unit} :
    decodeAttempt row = .ok u ↔ row.Valid := by
  simp [decodeAttempt]

/-- **Initial dispatch writes the first attempt of a task or nothing.** -/
theorem beginInitialAttempt_eq_ok {db db' : Database X} {now : Timestamp}
    {dispatchId runId : UUID} {taskId : String} {row : DispatchAttemptRow} {created : Bool}
    (h : beginInitialAttempt db now dispatchId runId taskId = .ok ((row, created), db')) :
    (created = false ∧ db' = db) ∨
      (created = true ∧ db.status = .running ∧ strip taskId ∈ db.taskIds ∧
        (∀ a ∈ db.attempts, a.dispatchId ≠ dispatchId) ∧
        (∀ a ∈ db.attempts, a.taskId ≠ strip taskId) ∧
        row = requestedAttempt dispatchId (strip taskId) 1 now ∧ row.Valid ∧
        db' = db.insertAttempt row) := by
  simp only [beginInitialAttempt, Raising.bind_eq_ok, Raising.raiseIf_eq_ok, requiredText_eq_ok,
    lockedRun_eq_ok, lockedTask_eq_ok, not_not] at h
  obtain ⟨_, ⟨rfl, _⟩, _, _, _, hrunning, _, ⟨hmember, _⟩, h⟩ := h
  split at h
  · simp only [Raising.bind_eq_ok, Raising.pure_eq_ok, Prod.mk.injEq] at h
    obtain ⟨_, _, _, _, _, _, ⟨rfl, rfl⟩, rfl⟩ := h
    exact Or.inl ⟨rfl, rfl⟩
  · rename_i hfind
    simp only [Raising.bind_eq_ok, Raising.raiseIf_eq_ok, Raising.pure_eq_ok, Prod.mk.injEq,
      decodeAttempt_eq_ok] at h
    obtain ⟨_, hnone, _, hvalid, ⟨rfl, rfl⟩, rfl⟩ := h
    refine Or.inr ⟨rfl, hrunning, hmember, fun a ha => ?_, fun a ha htask => ?_, rfl, hvalid, rfl⟩
    · simpa using List.find?_eq_none.1 hfind a ha
    · exact hnone (List.any_eq_true.2 ⟨a, ha, by simpa using htask⟩)

/-- What a recorded broker outcome did: it resolved the REQUESTED attempt of the
dispatch, or was recorded already. -/
theorem resolveAttempt_eq_ok {db db' : Database X} {now : Timestamp} {dispatchId runId : UUID}
    {taskName : String} {repeats : AttemptState → Option Bool} {differs rewrites : String}
    {resolved : AttemptState}
    (h : resolveAttempt db now dispatchId runId taskName repeats differs rewrites resolved =
      .ok db') :
    db' = db ∨ (∃ row ∈ db.attempts, row.dispatchId = dispatchId ∧ row.state = .requested ∧
      { row with state := resolved, updatedAt := now : DispatchAttemptRow }.Valid ∧
      db' = db.updateAttempt dispatchId fun row =>
        { row with state := resolved, updatedAt := now }) := by
  unfold resolveAttempt at h
  split at h
  · cases h
  · rename_i row hfind
    simp only [Raising.bind_eq_ok] at h
    obtain ⟨_, _, _, _, h⟩ := h
    split at h
    · simp only [Raising.bind_eq_ok, Raising.pure_eq_ok] at h
      obtain ⟨_, _, rfl⟩ := h
      exact Or.inl rfl
    · simp only [Raising.bind_eq_ok, Raising.raiseIf_eq_ok, Raising.pure_eq_ok,
        decodeAttempt_eq_ok, not_not] at h
      obtain ⟨_, hrequested, _, hvalid, rfl⟩ := h
      exact Or.inr ⟨row, List.mem_of_find?_eq_some hfind,
        by simpa using List.find?_some hfind, hrequested, hvalid, rfl⟩

end DevFlow
