/-
# The evidence store

`persistence/repository.py` (`PostgresEvidenceStore.append_evidence` and
`finalize_single_task_run`), the parts of `persistence/serialization.py` they
call, and `record_integration_repair` of `persistence/multi_completion.py`.

Evidence that names a task is *fenced* as soon as that task has had a lease: it
needs the token of the current generation, live.  A key that is there already
must carry the same evidence, and nothing is written then.
-/

import DevFlow.Persistence.Leases

namespace DevFlow

variable {X : Type}

/-- `evidence_schema_version`. -/
def evidenceSchemaVersion : EvidenceKind → ℕ
  | .developerRun => 2
  | _ => 1

/-- `_EVIDENCE_EVENT_SOURCES`: the table has no entry for `INTEGRATION_REPAIR`,
`TRACE_BATCH` and `OPERATOR_ACTION`. -/
def evidenceEventSource : EvidenceKind → Option EventSource
  | .stateTransition => some .runtime
  | .developerRun => some .agent
  | .verificationResult => some .verification
  | .reviewDecision => some .review
  | .repairRun => some .repair
  | .failureReport => some .runtime
  | .mergeQueueSnapshot => some .integration
  | .mergeConflict => some .integration
  | .integrationGate => some .integration
  | .humanDecision => some .integration
  | .contextReference => some .runtime
  | .dispatchEvent => some .dispatch
  | .workerExecution => some .worker
  | .taskCheckpoint => some .runtime
  | .workflowMatch => some .runtime
  | .workflowExecution => some .runtime
  | .integrationRepair | .traceBatch | .operatorAction => none

/-- The payload is of the model that `_EVIDENCE_MODELS` has for the kind. -/
def Payload.isModelOf (payload : Payload X) (kind : EvidenceKind) : Prop :=
  match payload with
  | .workerExecution _ => kind = .workerExecution
  | .dispatchEvent _ => kind = .dispatchEvent
  | .other model _ => kind = model ∧ kind ≠ .workerExecution ∧ kind ≠ .dispatchEvent

instance (payload : Payload X) (kind : EvidenceKind) : Decidable (payload.isModelOf kind) :=
  match payload with
  | .workerExecution _ => inferInstanceAs (Decidable (kind = .workerExecution))
  | .dispatchEvent _ => inferInstanceAs (Decidable (kind = .dispatchEvent))
  | .other model _ =>
    inferInstanceAs (Decidable (kind = model ∧ kind ≠ .workerExecution ∧ kind ≠ .dispatchEvent))

/-- `decode_evidence` at the current schema version. -/
def decodeEvidence (kind : EvidenceKind) (payload : Payload X) : Except Failure Unit :=
  Raising.raiseIf (¬payload.isModelOf kind)
    ⟨.persistenceCorruption, "persisted " ++ kind.value ++ " payload failed typed validation"⟩

/-- The fence of a task-scoped write: once the task has had a lease, or when a
token is given, the token must be that of the live lease. -/
def fence (lease : Option Lease) (runToken : Option UUID) (now : Timestamp) :
    Except Failure Unit := do
  if runToken ≠ none ∨ lease ≠ none then
    let _ ← assertLiveCurrentRunToken lease runToken now

/-- The fence lets a write through: the task was never leased and no token is
given, or the token is that of the task's live lease. -/
def Admits (lease : Option Lease) (runToken : Option UUID) (now : Timestamp) : Prop :=
  (lease = none ∧ runToken = none) ∨
    ∃ l, lease = some l ∧ runToken = some l.runToken ∧ l.Live now

/-- **What the fence of the evidence store lets through.** -/
theorem fence_eq_ok {lease : Option Lease} {runToken : Option UUID} {now : Timestamp} {u : Unit} :
    fence lease runToken now = .ok u ↔ Admits lease runToken now := by
  unfold fence Admits
  by_cases hfree : lease = none ∧ runToken = none
  · simp [hfree, pure, Except.pure]
  · have hcond : runToken ≠ none ∨ lease ≠ none := by
      by_contra h
      push Not at h
      exact hfree ⟨h.2, h.1⟩
    simp only [hfree, hcond, if_true, false_or, Raising.bind_eq_ok,
      assertLiveCurrentRunToken_eq_ok, Raising.pure_eq_ok, and_true]

/-- `_locked_task` of the evidence store and the fence, for the task an append
names, if it names one. -/
def fencedTask (db : Database X) (task : Option String) (runToken : Option UUID)
    (now : Timestamp) : Except Failure (Option Lease) :=
  match task with
  | none => return none
  | some name => do
    Raising.raiseIf (name ∉ db.taskIds)
      ⟨.valueError, "evidence task '" ++ name ++ "' does not belong to run " ++ db.runId.str⟩
    fence (db.lease name) runToken now
    return db.lease name

theorem fencedTask_eq_ok {db : Database X} {task : Option String} {runToken : Option UUID}
    {now : Timestamp} {lease : Option Lease} :
    fencedTask db task runToken now = .ok lease ↔
      (∀ name, task = some name → name ∈ db.taskIds ∧ Admits (db.lease name) runToken now) ∧
        task.bind db.lease = lease := by
  cases task with
  | none => simp [fencedTask, pure, Except.pure]
  | some name =>
    simp only [fencedTask, Raising.bind_eq_ok, Raising.raiseIf_eq_ok, fence_eq_ok,
      Raising.pure_eq_ok, Option.some.injEq, forall_eq', Option.bind_some, not_not]
    constructor
    · rintro ⟨-, hmember, -, hadmits, heq⟩
      exact ⟨⟨hmember, hadmits⟩, heq⟩
    · rintro ⟨⟨hmember, hadmits⟩, heq⟩
      exact ⟨⟨⟩, hmember, ⟨⟩, hadmits, heq⟩

/-- `_same_evidence`. -/
def sameEvidence (row : EvidenceRow X) (taskId : Option String) (kind : EvidenceKind)
    (stage : Option String) (sequence : Option ℤ) (payload : Payload X) : Prop :=
  row.taskId = taskId ∧ row.kind = kind ∧ row.stage = stage ∧ row.sequence = sequence ∧
    row.schemaVersion = evidenceSchemaVersion kind ∧ row.payload = payload

instance [DecidableEq X] (row : EvidenceRow X) (taskId : Option String) (kind : EvidenceKind)
    (stage : Option String) (sequence : Option ℤ) (payload : Payload X) :
    Decidable (sameEvidence row taskId kind stage sequence payload) :=
  inferInstanceAs (Decidable (_ ∧ _ ∧ _ ∧ _ ∧ _ ∧ _))

/-- `_evidence_event_draft`. -/
def evidenceEventDraft (row : EvidenceRow X) (lease : Option Lease) :
    Except Failure (RuntimeEventDraft X) :=
  match evidenceEventSource row.kind with
  | none => .error ⟨.keyError, row.kind.value⟩
  | some source => return {
      eventKey := .evidence row.id
      kind := .evidenceRecorded
      source := source
      level := match row.kind with
        | .failureReport => .error
        | .mergeConflict => .warning
        | _ => .info
      taskId := row.taskId
      dispatchId := lease.map Lease.dispatchId
      generation := lease.map Lease.generation
      message := "Accepted " ++ row.kind.value ++ " evidence."
      attributes := .evidence row }

/-- The row that an append writes. -/
def newEvidenceRow (db : Database X) (evidenceKey : String) (kind : EvidenceKind)
    (payload : Payload X) (taskId stage : Option String) (sequence : Option ℤ) :
    EvidenceRow X where
  id := db.evidenceSequence + 1
  taskId := taskId
  evidenceKey := evidenceKey
  kind := kind
  stage := stage
  sequence := sequence
  schemaVersion := evidenceSchemaVersion kind
  payload := payload

/-- The database with one more evidence row and its event. -/
def Database.insertEvidence (db : Database X) (row : EvidenceRow X) (timeline : Timeline X) :
    Database X :=
  { db with evidence := db.evidence ++ [row], evidenceSequence := row.id, timeline }

/-- `PersistedRunStatus.from_task_state`. -/
def RunStatus.fromTaskState : TaskRunState → Except Failure RunStatus
  | .succeeded => return .succeeded
  | .failed => return .failed
  | _ => .error ⟨.valueError, "only terminal task states can finalize a persisted run"⟩

/-- The event of `finalize_single_task_run`. -/
def runFinalizedEvent (result : SingleTaskRunResult X) (status : RunStatus)
    (lease : Option Lease) : RuntimeEventDraft X where
  eventKey := .runFinalized
  kind := .runFinalized
  source := .persistence
  level := if status = .failed then .error else .info
  taskId := some result.taskId
  dispatchId := lease.map Lease.dispatchId
  generation := lease.map Lease.generation
  message := "Persisted run finalized as " ++ status.value ++ "."
  attributes := .finalized status (.single result)

variable [DecidableEq X]

/-- `append_evidence` of a store whose `_evidence_event_draft` is `eventDraft`. -/
def appendEvidenceWith (eventDraft : EvidenceRow X → Option Lease →
      Except Failure (RuntimeEventDraft X)) (db : Database X) (now : Timestamp) (runId : UUID)
    (evidenceKey : String) (kind : EvidenceKind) (payload : Payload X)
    (taskId stage : Option String) (sequence : Option ℤ) (runToken : Option UUID) :
    Except Failure (ℕ × Database X) := do
  let key ← requiredText evidenceKey "evidence_key" 255
  let task ← optionalText taskId "task_id" 128
  let stage ← optionalText stage "stage" 64
  Raising.raiseIf (sequence.any (· < 0)) ⟨.valueError, "evidence sequence must be non-negative"⟩
  decodeEvidence kind payload
  lockedRun db runId
  Raising.raiseIf (db.status ≠ .running)
    ⟨.persistenceConflict, "terminal persisted runs are append-closed"⟩
  let lease ← fencedTask db task runToken now
  match db.evidence.find? (fun row => row.evidenceKey = key) with
  | some existing =>
    Raising.raiseIf (¬sameEvidence existing task kind stage sequence payload)
      ⟨.persistenceConflict, "evidence key '" ++ key ++ "' was reused for different evidence"⟩
    return (existing.id, db)
  | none =>
    let row := newEvidenceRow db key kind payload task stage sequence
    let draft ← eventDraft row lease
    let timeline ← appendRuntimeEvent db.timeline draft
    return (row.id, db.insertEvidence row timeline)

/-- `PostgresEvidenceStore.append_evidence`. -/
def appendEvidence (db : Database X) (now : Timestamp) (runId : UUID) (evidenceKey : String)
    (kind : EvidenceKind) (payload : Payload X) (taskId stage : Option String)
    (sequence : Option ℤ) (runToken : Option UUID) : Except Failure (ℕ × Database X) :=
  appendEvidenceWith evidenceEventDraft db now runId evidenceKey kind payload taskId stage sequence
    runToken

/-- What an append that returned did: the same evidence was there under the key,
or the key was new and a row was added. -/
def Appended (db : Database X) (evidenceKey : String) (kind : EvidenceKind) (payload : Payload X)
    (taskId stage : Option String) (sequence : Option ℤ) (id : ℕ) (db' : Database X) : Prop :=
  (∃ row ∈ db.evidence, row.evidenceKey = evidenceKey ∧
      sameEvidence row taskId kind stage sequence payload ∧ id = row.id ∧ db' = db) ∨
    ((∀ row ∈ db.evidence, row.evidenceKey ≠ evidenceKey) ∧ ∃ timeline,
      id = db.evidenceSequence + 1 ∧ db' = db.insertEvidence
        (newEvidenceRow db evidenceKey kind payload taskId stage sequence) timeline)

omit [DecidableEq X] in
theorem optionalText_eq_ok {value text : Option String} {name : String} {maxLength : ℕ}
    (h : optionalText value name maxLength = .ok text) : text = value.map strip := by
  cases value with
  | none => simpa [optionalText] using (Raising.pure_eq_ok.1 h).symm
  | some value =>
    simp only [optionalText, Raising.bind_eq_ok, requiredText_eq_ok, Raising.pure_eq_ok] at h
    obtain ⟨_, ⟨rfl, _⟩, rfl⟩ := h
    rfl

/-- **An append that returned passed the fence of a RUNNING run.** -/
theorem appendEvidence_eq_ok {db db' : Database X} {now : Timestamp} {runId : UUID}
    {evidenceKey : String} {kind : EvidenceKind} {payload : Payload X}
    {taskId stage : Option String} {sequence : Option ℤ} {runToken : Option UUID} {id : ℕ}
    (h : appendEvidence db now runId evidenceKey kind payload taskId stage sequence runToken =
      .ok (id, db')) :
    db.status = .running ∧ payload.isModelOf kind ∧
      (∀ name, taskId = some name → Admits (db.lease (strip name)) runToken now) ∧
      Appended db (strip evidenceKey) kind payload (taskId.map strip) (stage.map strip) sequence
        id db' := by
  simp only [appendEvidence, appendEvidenceWith, Raising.bind_eq_ok, Raising.raiseIf_eq_ok, requiredText_eq_ok,
    lockedRun_eq_ok, fencedTask_eq_ok, decodeEvidence, not_not] at h
  obtain ⟨_, ⟨rfl, _⟩, task, htask, stage', hstage, _, _, _, hmodel, _, _, _, hrunning, lease,
    ⟨hfenced, _⟩, h⟩ := h
  obtain rfl := optionalText_eq_ok htask
  obtain rfl := optionalText_eq_ok hstage
  refine ⟨hrunning, hmodel, fun name hname => (hfenced (strip name) (by simp [hname])).2, ?_⟩
  split at h
  · rename_i existing hfind
    simp only [Raising.bind_eq_ok, Raising.raiseIf_eq_ok, not_not, Raising.pure_eq_ok,
      Prod.mk.injEq] at h
    obtain ⟨_, hsame, rfl, rfl⟩ := h
    exact Or.inl ⟨existing, List.mem_of_find?_eq_some hfind, by simpa using List.find?_some hfind,
      hsame, rfl, rfl⟩
  · rename_i hfind
    simp only [Raising.bind_eq_ok, Raising.pure_eq_ok, Prod.mk.injEq] at h
    obtain ⟨_, _, timeline, _, rfl, rfl⟩ := h
    refine Or.inr ⟨fun row hrow => ?_, timeline, rfl, rfl⟩
    simpa using List.find?_eq_none.1 hfind row hrow

/-- `finalize_single_task_run`. -/
def finalizeSingleTaskRun (db : Database X) (now : Timestamp) (runId : UUID)
    (result : SingleTaskRunResult X) (runToken : Option UUID) :
    Except Failure (Database X) := do
  let persistedStatus ← RunStatus.fromTaskState result.status
  lockedRun db runId
  Raising.raiseIf (db.taskIds ≠ [result.taskId])
    ⟨.persistenceConflict,
      "SingleTaskRunResult can finalize only a run containing exactly that task"⟩
  let lease := db.lease result.taskId
  fence lease runToken now
  if db.status ≠ .running then
    Raising.raiseIf
      (¬(db.status = persistedStatus ∧ db.terminalResult = some (.single result)))
      ⟨.persistenceConflict,
        "persisted run was already finalized with different terminal evidence"⟩
    return db
  let timeline ← appendRuntimeEvent db.timeline (runFinalizedEvent result persistedStatus lease)
  return { db with
    status := persistedStatus, terminalResult := some (.single result), timeline }

/-- **A finalization that returned passed the fence of the run's only task**,
and closed a RUNNING run or changed nothing. -/
theorem finalizeSingleTaskRun_eq_ok {db db' : Database X} {now : Timestamp} {runId : UUID}
    {result : SingleTaskRunResult X} {runToken : Option UUID}
    (h : finalizeSingleTaskRun db now runId result runToken = .ok db') :
    db.taskIds = [result.taskId] ∧ Admits (db.lease result.taskId) runToken now ∧
      ((db.status ≠ .running ∧ db' = db) ∨
        (db.status = .running ∧ ∃ status timeline, status ≠ .running ∧
          db' = { db with status, terminalResult := some (.single result), timeline })) := by
  simp only [finalizeSingleTaskRun, Raising.bind_eq_ok, Raising.raiseIf_eq_ok, lockedRun_eq_ok,
    fence_eq_ok, not_not] at h
  obtain ⟨status, hstatus, _, _, _, htasks, _, hadmits, h⟩ := h
  refine ⟨htasks, hadmits, ?_⟩
  split_ifs at h with hrunning
  · simp only [Raising.bind_eq_ok, Raising.raiseIf_eq_ok, Raising.pure_eq_ok] at h
    obtain ⟨_, _, rfl⟩ := h
    exact Or.inl ⟨hrunning, rfl⟩
  · simp only [Raising.bind_eq_ok, Raising.pure_eq_ok] at h
    obtain ⟨timeline, _, rfl⟩ := h
    refine Or.inr ⟨not_not.1 hrunning, status, timeline, ?_, rfl⟩
    rintro rfl
    revert hstatus
    cases result.status <;> simp [RunStatus.fromTaskState, pure, Except.pure]

/-- The key under which the repair of one conflict is recorded. -/
def integrationRepairKey (taskId fingerprint : String) : String :=
  "integration:repair:" ++ taskId ++ ":" ++ fingerprint

omit [DecidableEq X] in
/-- The event of `record_integration_repair`. -/
def integrationRepairEvent (row : EvidenceRow X) : RuntimeEventDraft X where
  eventKey := .evidence row.id
  kind := .evidenceRecorded
  source := .integration
  taskId := row.taskId
  dispatchId := none
  generation := none
  message := "Accepted human-authorized integration repair evidence recorded."
  attributes := .evidence row

/-- `record_integration_repair`: the row is locked as by `append_evidence`, and no
token is asked for. -/
def recordIntegrationRepair (db : Database X) (runId : UUID) (taskId fingerprint : String)
    (evidence : X) : Except Failure (ℕ × Database X) := do
  let payload : Payload X := .other .integrationRepair evidence
  let key := integrationRepairKey taskId fingerprint
  lockedRun db runId
  Raising.raiseIf (db.status ≠ .running)
    ⟨.persistenceConflict, "terminal persisted runs are append-closed"⟩
  Raising.raiseIf (taskId ∉ db.taskIds)
    ⟨.valueError, "evidence task '" ++ taskId ++ "' does not belong to run " ++ db.runId.str⟩
  match db.evidence.find? (fun row => row.evidenceKey = key) with
  | some existing =>
    Raising.raiseIf (¬(existing.kind = .integrationRepair ∧ existing.taskId = some taskId ∧
        existing.payload = payload))
      ⟨.persistenceConflict,
        "integration repair idempotency key was reused for different evidence"⟩
    return (existing.id, db)
  | none =>
    let row := newEvidenceRow db key .integrationRepair payload (some taskId)
      (some "integration_repair") none
    let timeline ← appendRuntimeEvent db.timeline (integrationRepairEvent row)
    return (row.id, db.insertEvidence row timeline)

omit [DecidableEq X] in
/-- The events of evidence rows have ids that the identity column has handed out. -/
def Database.EventIdsIssued (db : Database X) : Prop :=
  ∀ row ∈ db.timeline.rows, ∀ id, row.draft.eventKey = .evidence id → id ≤ db.evidenceSequence

/-- An event under a new key is appended. -/
theorem appendRuntimeEvent_of_new {timeline : Timeline X} {draft : RuntimeEventDraft X}
    (h : ∀ row ∈ timeline.rows, row.draft.eventKey ≠ draft.eventKey) :
    appendRuntimeEvent timeline draft = .ok
      { sequence := timeline.sequence + 1
        rows := timeline.rows ++ [⟨timeline.sequence + 1, draft⟩] } := by
  have hfind : timeline.rows.find? (fun row => row.draft.eventKey = draft.eventKey) = none :=
    List.find?_eq_none.2 fun row hrow => by simpa using h row hrow
  rw [appendRuntimeEvent, hfind]
  rfl

/-- **A new repair of a RUNNING run is recorded.** -/
theorem recordIntegrationRepair_of_new {db : Database X} {taskId fingerprint : String}
    (evidence : X) (hrunning : db.status = .running) (htask : taskId ∈ db.taskIds)
    (hissued : db.EventIdsIssued)
    (hnew : ∀ row ∈ db.evidence, row.evidenceKey ≠ integrationRepairKey taskId fingerprint) :
    ∃ timeline, recordIntegrationRepair db db.runId taskId fingerprint evidence =
        .ok (db.evidenceSequence + 1, db.insertEvidence (newEvidenceRow db
          (integrationRepairKey taskId fingerprint) .integrationRepair
          (.other .integrationRepair evidence) (some taskId) (some "integration_repair") none)
          timeline) ∧
      ∀ row ∈ timeline.rows, ∀ id, row.draft.eventKey = .evidence id →
        id ≤ db.evidenceSequence + 1 := by
  have hfind : db.evidence.find?
      (fun row => row.evidenceKey = integrationRepairKey taskId fingerprint) = none :=
    List.find?_eq_none.2 fun row hrow => by simpa using hnew row hrow
  obtain ⟨timeline, happend, hids⟩ : ∃ timeline, appendRuntimeEvent db.timeline
      (integrationRepairEvent (newEvidenceRow db (integrationRepairKey taskId fingerprint)
        .integrationRepair (.other .integrationRepair evidence) (some taskId)
        (some "integration_repair") none)) = .ok timeline ∧
      ∀ row ∈ timeline.rows, ∀ id, row.draft.eventKey = .evidence id →
        id ≤ db.evidenceSequence + 1 := by
    refine ⟨_, appendRuntimeEvent_of_new ?_, ?_⟩
    · intro row hrow heq
      have := hissued row hrow _ heq
      simp [newEvidenceRow] at this
    · intro row hrow id hid
      rcases List.mem_append.1 hrow with hrow | hrow
      · exact Nat.le_succ_of_le (hissued row hrow id hid)
      · obtain rfl := List.mem_singleton.1 hrow
        obtain rfl := EventKey.evidence.inj hid
        exact Nat.le_refl _
  refine ⟨timeline, ?_, hids⟩
  unfold recordIntegrationRepair lockedRun
  rw [Raising.raiseIf_of_not (by simp), Raising.ok_bind,
    Raising.raiseIf_of_not (by simp [hrunning]), Raising.ok_bind,
    Raising.raiseIf_of_not (by simp [htask]), Raising.ok_bind, hfind]
  simp only [happend, Raising.ok_bind]
  rfl

end DevFlow
