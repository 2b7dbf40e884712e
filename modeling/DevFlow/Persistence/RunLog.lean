/-
# The event log and the evidence log of one run

`append_runtime_event` of `persistence/events.py` is called from inside the
transactions of five stores: the run and evidence store, the DAG store, the
lease store, the operator store and the completion store.  Each of them locks
the run row first, so the transactions of one run take effect one after the
other, and a raised error rolls the whole of one back.

| source | here |
| --- | --- |
| `PostgresEvidenceStore.start_run`, `PostgresDAGStore.start_run` | `EvidenceStore.startRun`, `DAGStore.startRun` |
| `append_evidence`, also of `OperatorAwarePostgresEvidenceStore` | `Call.append`, `operatorAppend` |
| `acquire_task_lease`, `renew_task_lease`, `release_task_lease` | `Call.acquire`, … |
| `finalize_single_task_run`, `finalize_multi_task_run` | `Call.finalize`, `finalizeMulti` |
| `record_integration_repair` | `recordConflictRepair` |

What one transaction can do to the two logs is said once, by `Database.Extends`;
that the logs stay intact over whole runs follows from it alone.
-/

import DevFlow.Library.Tables
import DevFlow.Models.RemainingDag
import DevFlow.Persistence.LeaseRuns
import DevFlow.Persistence.MultiCompletion

namespace DevFlow

variable {X : Type}

/-- **An intact event log**: the counter is the number of events, they are
numbered 1, 2, … in the order they were appended, and no key is there twice. -/
structure Timeline.Intact (timeline : Timeline X) : Prop where
  count : timeline.sequence = timeline.rows.length
  numbered : timeline.rows.map RuntimeEventRow.sequence = List.range' 1 timeline.rows.length
  keys : Tables.Keyed (fun row : RuntimeEventRow X => row.draft.eventKey) timeline.rows

/-- The log with one more event. -/
def Timeline.push (timeline : Timeline X) (draft : RuntimeEventDraft X) : Timeline X where
  sequence := timeline.sequence + 1
  rows := timeline.rows ++ [⟨timeline.sequence + 1, draft⟩]

/-- What a transaction does to the event log: nothing, or one event under a new
key. -/
inductive Timeline.Grows (timeline : Timeline X) : Timeline X → Prop
  | same : Grows timeline timeline
  | event (draft : RuntimeEventDraft X)
      (new : ∀ row ∈ timeline.rows, row.draft.eventKey ≠ draft.eventKey) :
      Grows timeline (timeline.push draft)

namespace Timeline

variable {timeline timeline' : Timeline X} {draft : RuntimeEventDraft X}

theorem Grows.rows_prefix (h : timeline.Grows timeline') : timeline.rows <+: timeline'.rows := by
  cases h with
  | same => exact List.prefix_refl _
  | event draft _ => exact List.prefix_append _ _

/-- **A transaction keeps the event log intact.** -/
theorem Intact.grows (h : timeline.Intact) (hgrows : timeline.Grows timeline') :
    timeline'.Intact := by
  cases hgrows with
  | same => exact h
  | event draft hnew =>
    refine ⟨?_, ?_, h.keys.append hnew⟩
    · show timeline.sequence + 1 = (timeline.rows ++ [_]).length
      rw [h.count, List.length_append, List.length_singleton]
    · show (timeline.rows ++ [_]).map _ = List.range' 1 (timeline.rows ++ [_]).length
      rw [List.map_append, h.numbered, List.length_append, List.length_singleton,
        List.range'_1_concat, List.map_singleton, h.count, Nat.add_comm 1]

variable [DecidableEq X]

/-- **What `append_runtime_event` returns**: the log as it was, or with one event
under a new key. -/
theorem grows_of_append (h : appendRuntimeEvent timeline draft = .ok timeline') :
    timeline.Grows timeline' := by
  unfold appendRuntimeEvent at h
  split at h
  · simp only [Raising.bind_eq_ok, Raising.raiseIf_eq_ok, Raising.pure_eq_ok] at h
    obtain ⟨_, _, rfl⟩ := h
    exact .same
  · rename_i hfind
    obtain rfl := Raising.pure_eq_ok.1 h
    exact .event draft (Tables.find?_eq_none.1 hfind)

/-- **An event key in use**: the same event is accepted again and changes nothing,
another one is refused. -/
theorem Intact.append_of_key (h : timeline.Intact) {row : RuntimeEventRow X}
    (hrow : row ∈ timeline.rows) (hkey : draft.eventKey = row.draft.eventKey) :
    appendRuntimeEvent timeline draft = if row.draft = draft then .ok timeline else
      .error ⟨.persistenceConflict, "runtime event key was reused for different event data"⟩ := by
  have hfind : timeline.rows.find? (fun r => r.draft.eventKey = draft.eventKey) = some row := by
    rw [hkey]
    exact h.keys.find?_of_mem hrow
  unfold appendRuntimeEvent
  rw [hfind]
  split_ifs with hsame
  · have hsame' : sameEvent row draft := hsame
    simp only [Raising.raiseIf_of_not (not_not.2 hsame'), Raising.ok_bind]
    rfl
  · have hother : ¬sameEvent row draft := hsame
    simp only [Raising.raiseIf_of hother, Raising.error_bind]

end Timeline

/-- What an evidence row was checked for before it was written. -/
structure EvidenceRow.Accepted (row : EvidenceRow X) (taskIds : List String) : Prop where
  key : row.evidenceKey ≠ "" ∧ row.evidenceKey.length ≤ 255
  task : ∀ name, row.taskId = some name → name ∈ taskIds ∧ name ≠ "" ∧ name.length ≤ 128
  stage : ∀ name, row.stage = some name → name ≠ "" ∧ name.length ≤ 64
  sequence : ∀ n, row.sequence = some n → 0 ≤ n
  model : row.payload.isModelOf row.kind
  version : row.schemaVersion = evidenceSchemaVersion row.kind
  /-- Only `record_integration_repair` writes repairs. -/
  repair : row.kind = .integrationRepair →
    row.stage = some "integration_repair" ∧ row.sequence = none

/-- **What a transaction of the stores may do to the logs of its run**: at most one
event, and at most one accepted evidence row under a new key. -/
structure Database.Extends (db db' : Database X) : Prop where
  runId : db'.runId = db.runId
  taskIds : db'.taskIds = db.taskIds
  timeline : db.timeline.Grows db'.timeline
  evidence : db'.evidence = db.evidence ∨ ∃ row : EvidenceRow X, row.Accepted db.taskIds ∧
    (∀ r ∈ db.evidence, r.evidenceKey ≠ row.evidenceKey) ∧ db'.evidence = db.evidence ++ [row]

/-- The logs of a run are intact. -/
structure Database.LogsIntact (db : Database X) : Prop where
  timeline : db.timeline.Intact
  keys : Tables.Keyed EvidenceRow.evidenceKey db.evidence
  accepted : ∀ row ∈ db.evidence, row.Accepted db.taskIds

theorem Database.Extends.refl (db : Database X) : db.Extends db :=
  ⟨rfl, rfl, .same, Or.inl rfl⟩

/-- **A transaction keeps the logs intact.** -/
theorem Database.LogsIntact.step {db db' : Database X} (h : db.LogsIntact)
    (hstep : db.Extends db') : db'.LogsIntact := by
  refine ⟨h.timeline.grows hstep.timeline, ?_, ?_⟩
  · rcases hstep.evidence with heq | ⟨row, -, hnew, heq⟩
    · rw [heq]
      exact h.keys
    · rw [heq]
      exact h.keys.append hnew
  · rw [hstep.taskIds]
    rcases hstep.evidence with heq | ⟨row, hrow, -, heq⟩
    · rw [heq]
      exact h.accepted
    · rw [heq]
      intro r hr
      rcases List.mem_append.1 hr with hr | hr
      · exact h.accepted r hr
      · rw [List.mem_singleton.1 hr]
        exact hrow

/-! ## The transactions -/

section Transactions

variable [DecidableEq X]
variable {db db' : Database X} {now : Timestamp} {token runId dispatchId runToken : UUID}
  {taskId ownerId : String} {leaseSeconds : ℚ}

theorem acquireTaskLease_extends {grant : TaskLeaseGrant}
    (h : acquireTaskLease db now token runId taskId ownerId dispatchId leaseSeconds =
      .ok (grant, db')) : db.Extends db' := by
  simp only [acquireTaskLease, Raising.bind_eq_ok, Raising.pure_eq_ok, Prod.mk.injEq] at h
  obtain ⟨_, -, _, -, _, -, _, -, _, -, _, -, _, -, timeline, hevent, _, -, -, rfl⟩ := h
  exact ⟨rfl, rfl, Timeline.grows_of_append hevent, Or.inl rfl⟩

theorem renewTaskLease_extends {shown : TaskLeaseSnapshot}
    (h : renewTaskLease db now runId taskId ownerId dispatchId runToken leaseSeconds =
      .ok (shown, db')) : db.Extends db' := by
  simp only [renewTaskLease, Raising.bind_eq_ok, Raising.pure_eq_ok, Prod.mk.injEq] at h
  obtain ⟨_, -, _, -, _, -, _, -, _, -, _, -, _, -, _, -, timeline, hevent, _, -, -, rfl⟩ := h
  exact ⟨rfl, rfl, Timeline.grows_of_append hevent, Or.inl rfl⟩

theorem releaseTaskLease_extends {shown : TaskLeaseSnapshot}
    (h : releaseTaskLease db now runId taskId ownerId dispatchId runToken = .ok (shown, db')) :
    db.Extends db' := by
  simp only [releaseTaskLease, Raising.bind_eq_ok] at h
  obtain ⟨_, -, _, -, _, -, _, -, _, -, h⟩ := h
  split_ifs at h
  · simp only [Raising.bind_eq_ok, Raising.pure_eq_ok, Prod.mk.injEq] at h
    obtain ⟨_, -, -, rfl⟩ := h
    exact .refl db
  · simp only [Raising.bind_eq_ok, Raising.pure_eq_ok, Prod.mk.injEq] at h
    obtain ⟨_, -, timeline, hevent, _, -, -, rfl⟩ := h
    exact ⟨rfl, rfl, Timeline.grows_of_append hevent, Or.inl rfl⟩

/-- A text that the store accepted is within its bounds. -/
theorem optionalText_bounds {value text : Option String} {name : String} {maxLength : ℕ}
    (h : optionalText value name maxLength = .ok text) :
    ∀ t, text = some t → t ≠ "" ∧ t.length ≤ maxLength := by
  intro t ht
  cases value with
  | none =>
    obtain rfl := Raising.pure_eq_ok.1 h
    cases ht
  | some value =>
    simp only [optionalText, Raising.bind_eq_ok, requiredText_eq_ok, Raising.pure_eq_ok] at h
    obtain ⟨_, ⟨rfl, hne, hlen⟩, rfl⟩ := h
    obtain rfl := Option.some.inj ht
    exact ⟨hne, hlen⟩

/-- The store has no event for a repair, so that an append of one is rolled back. -/
def RefusesRepairs
    (eventDraft : EvidenceRow X → Option Lease → Except Failure (RuntimeEventDraft X)) : Prop :=
  ∀ row lease draft, eventDraft row lease = .ok draft → row.kind ≠ .integrationRepair

omit [DecidableEq X] in
theorem evidenceEventDraft_refuses : RefusesRepairs (evidenceEventDraft (X := X)) := by
  intro row lease draft hdraft hkind
  simp [evidenceEventDraft, hkind, evidenceEventSource] at hdraft

/-- **An append writes one accepted row under a new key and its event, or
nothing.** -/
theorem appendEvidenceWith_extends
    {eventDraft : EvidenceRow X → Option Lease → Except Failure (RuntimeEventDraft X)}
    (hrefuses : RefusesRepairs eventDraft)
    {evidenceKey : String} {kind : EvidenceKind} {payload : Payload X}
    {taskId stage : Option String} {sequence : Option ℤ} {runToken : Option UUID} {id : ℕ}
    (h : appendEvidenceWith eventDraft db now runId evidenceKey kind payload taskId stage sequence
      runToken = .ok (id, db')) : db.Extends db' := by
  simp only [appendEvidenceWith, Raising.bind_eq_ok, Raising.raiseIf_eq_ok, requiredText_eq_ok,
    fencedTask_eq_ok, decodeEvidence, not_not] at h
  obtain ⟨_, ⟨rfl, hne, hlen⟩, task, htask, stage', hstage, _, hsequence, _, hmodel, _, -, _, -,
    lease, ⟨hfenced, -⟩, h⟩ := h
  split at h
  · simp only [Raising.bind_eq_ok, Raising.pure_eq_ok, Prod.mk.injEq] at h
    obtain ⟨_, -, -, rfl⟩ := h
    exact .refl db
  · rename_i hfind
    have hnew := Tables.find?_eq_none.1 hfind
    simp only [Raising.bind_eq_ok, Raising.pure_eq_ok, Prod.mk.injEq] at h
    obtain ⟨_, hdraft, timeline, hevent, -, rfl⟩ := h
    refine ⟨rfl, rfl, Timeline.grows_of_append hevent, Or.inr ⟨_, ?_, hnew, rfl⟩⟩
    refine ⟨⟨hne, hlen⟩, fun name hname => ⟨(hfenced name hname).1, ?_⟩,
      optionalText_bounds hstage, ?_, hmodel, rfl,
      fun hkind => absurd hkind (hrefuses _ _ _ hdraft)⟩
    · exact optionalText_bounds htask name hname
    · intro n hn
      have hn' : sequence = some n := hn
      simpa [hn'] using hsequence

theorem finalizeSingleTaskRun_extends {result : SingleTaskRunResult X} {runToken : Option UUID}
    (h : finalizeSingleTaskRun db now runId result runToken = .ok db') : db.Extends db' := by
  simp only [finalizeSingleTaskRun, Raising.bind_eq_ok] at h
  obtain ⟨_, -, _, -, _, -, _, -, h⟩ := h
  split_ifs at h
  · simp only [Raising.bind_eq_ok, Raising.pure_eq_ok] at h
    obtain ⟨_, -, rfl⟩ := h
    exact .refl db
  · simp only [Raising.bind_eq_ok, Raising.pure_eq_ok] at h
    obtain ⟨timeline, hevent, rfl⟩ := h
    exact ⟨rfl, rfl, Timeline.grows_of_append hevent, Or.inl rfl⟩

end Transactions

theorem finalizeMultiTaskRun_extends {db db' : Database RunContent} {dag : TaskDAG}
    {result : MultiTaskRunResult} (h : finalizeMultiTaskRun db dag result = .ok db') :
    db.Extends db' := by
  simp only [finalizeMultiTaskRun, Raising.bind_eq_ok] at h
  obtain ⟨_, -, _, -, _, -, _, -, h⟩ := h
  split_ifs at h
  · simp only [Raising.bind_eq_ok, Raising.pure_eq_ok] at h
    obtain ⟨_, -, rfl⟩ := h
    exact .refl db
  · simp only [Raising.bind_eq_ok, Raising.pure_eq_ok] at h
    obtain ⟨_, -, _, -, timeline, hevent, rfl⟩ := h
    exact ⟨rfl, rfl, Timeline.grows_of_append hevent, Or.inl rfl⟩

/-- `record_integration_repair` of a typed repair. -/
def recordConflictRepair (db : Database RunContent) (evidence : IntegrationConflictRepairEvidence) :
    Except Failure (ℕ × Database RunContent) :=
  recordIntegrationRepair db evidence.runId evidence.taskId evidence.conflictEvidenceFingerprint
    (.repair evidence)

theorem integrationRepairKey_length (taskId fingerprint : String) :
    (integrationRepairKey taskId fingerprint).length =
      20 + taskId.length + fingerprint.length := by
  have htext : "integration:repair:".length = 19 := rfl
  have hcolon : ":".length = 1 := rfl
  unfold integrationRepairKey
  simp only [String.length_append]
  omega

/-- The key of a valid repair fits its column. -/
theorem integrationRepairKey_bounds (evidence : IntegrationConflictRepairEvidence) :
    integrationRepairKey evidence.taskId evidence.conflictEvidenceFingerprint ≠ "" ∧
      (integrationRepairKey evidence.taskId evidence.conflictEvidenceFingerprint).length ≤ 255 := by
  have hvalid := evidence.valid
  simp only [RepairRecord.validate, Raising.bind_eq_ok, Raising.raiseIf_eq_ok, not_not,
    List.all_cons, List.all_nil, Bool.and_true, Bool.and_eq_true, isSha256,
    decide_eq_true_eq] at hvalid
  obtain ⟨_, ⟨-, htask⟩, _, -, _, ⟨⟨-, hfingerprint⟩, -⟩, -⟩ := hvalid
  have hlength := integrationRepairKey_length evidence.taskId evidence.conflictEvidenceFingerprint
  rw [hfingerprint] at hlength
  constructor
  · intro hempty
    rw [hempty, String.length_empty] at hlength
    omega
  · omega

theorem recordConflictRepair_extends {db db' : Database RunContent}
    {evidence : IntegrationConflictRepairEvidence} {id : ℕ}
    (h : recordConflictRepair db evidence = .ok (id, db')) : db.Extends db' := by
  simp only [recordConflictRepair, recordIntegrationRepair, Raising.bind_eq_ok, Raising.raiseIf_eq_ok,
    not_not] at h
  obtain ⟨_, -, _, -, _, htask, h⟩ := h
  split at h
  · simp only [Raising.bind_eq_ok, Raising.pure_eq_ok, Prod.mk.injEq] at h
    obtain ⟨_, -, -, rfl⟩ := h
    exact .refl db
  · rename_i hfind
    have hnew := Tables.find?_eq_none.1 hfind
    simp only [Raising.bind_eq_ok, Raising.pure_eq_ok, Prod.mk.injEq] at h
    obtain ⟨timeline, hevent, -, rfl⟩ := h
    refine ⟨rfl, rfl, Timeline.grows_of_append hevent, Or.inr ⟨newEvidenceRow db _ _ _ _ _ _, ?_,
      hnew, rfl⟩⟩
    refine ⟨integrationRepairKey_bounds evidence, ?_, ?_, ?_, ?_, rfl, fun _ => ⟨rfl, rfl⟩⟩
    · intro name hname
      obtain rfl := Option.some.inj hname
      have hvalid := evidence.valid
      simp only [RepairRecord.validate, Raising.bind_eq_ok, Raising.raiseIf_eq_ok,
        not_not] at hvalid
      obtain ⟨_, ⟨hpos, hlen⟩, -⟩ := hvalid
      refine ⟨htask, ?_, hlen⟩
      rintro hempty
      rw [hempty] at hpos
      simp at hpos
    · intro name hname
      obtain rfl := Option.some.inj hname
      decide
    · intro n hn
      cases hn
    · simp [newEvidenceRow, Payload.isModelOf]

/-! ## Any order of transactions -/

/-- The event of `start_run`. -/
def runStartedEvent (projectId : UUID) (baseCommit : String) (taskCount : ℕ)
    (dagSha256 : Option String) : RuntimeEventDraft X where
  eventKey := .runStarted
  kind := .runStarted
  source := .persistence
  taskId := none
  dispatchId := none
  generation := none
  message := "Persisted run started."
  attributes := .started projectId baseCommit taskCount dagSha256

/-- The transaction of both `start_run`s, on the projects and the runs that are
there; `conflict` is the text of the `IntegrityError`. -/
def insertRun [DecidableEq X] (projects runs : List UUID) (projectId runId : UUID)
    (taskIds : List String) (commit : String) (dagSha256 : Option String) (conflict : String) :
    Except Failure (Database X) := do
  Raising.raiseIf (projectId ∉ projects)
    ⟨.valueError, "unknown persistence project: " ++ projectId.str⟩
  let db := Database.created X runId taskIds
  Raising.raiseIf (runId ∈ runs) ⟨.persistenceConflict, conflict ++ runId.str⟩
  let timeline ← appendRuntimeEvent db.timeline
    (runStartedEvent projectId commit taskIds.length dagSha256)
  return { db with timeline }

/-- `PostgresEvidenceStore.start_run`. -/
def EvidenceStore.startRun [DecidableEq X] (projects runs : List UUID) (projectId runId : UUID)
    (taskIds : List String) (baseCommit : String) : Except Failure (Database X) := do
  let commit := (strip baseCommit).toLower
  Raising.raiseIf (isOid commit = false)
    ⟨.valueError, "base_commit must be a 40-64 character lowercase Git object id"⟩
  Raising.raiseIf (taskIds = [])
    ⟨.valueError, "persisted runs require at least one TaskContract"⟩
  Raising.raiseIf (¬taskIds.Nodup) ⟨.valueError, "persisted run task ids must be unique"⟩
  insertRun projects runs projectId runId taskIds commit none
    "run identity already exists or violates persistence constraints: "

/-- `PostgresDAGStore.start_run`; `digest` is the SHA-256 of the normalized DAG. -/
def DAGStore.startRun [DecidableEq X] (projects runs : List UUID) (projectId runId : UUID)
    (dag : TaskDAG) (digest baseCommit : String) : Except Failure (Database X) := do
  let commit := (strip baseCommit).toLower
  Raising.raiseIf (isOid commit = false)
    ⟨.valueError, "base_commit must be a 40-64 character lowercase Git object id"⟩
  let normalized ← dag.normalize
  insertRun projects runs projectId runId normalized.topologicalOrder commit (some digest)
    "run identity already exists or violates DAG persistence constraints: "

/-- **A started run has one event, RUN_STARTED, and no evidence.** -/
theorem insertRun_logs [DecidableEq X] {projects runs : List UUID} {projectId runId : UUID}
    {taskIds : List String} {commit conflict : String} {dagSha256 : Option String}
    {db : Database X}
    (h : insertRun projects runs projectId runId taskIds commit dagSha256 conflict = .ok db) :
    db.LogsIntact ∧ db.timeline.sequence = 1 := by
  simp only [insertRun, Raising.bind_eq_ok, Raising.pure_eq_ok] at h
  obtain ⟨_, -, _, -, timeline, hevent, rfl⟩ := h
  have hempty : (Database.created X runId taskIds).timeline.Intact :=
    ⟨rfl, rfl, List.nodup_nil⟩
  refine ⟨⟨hempty.grows (Timeline.grows_of_append hevent), List.nodup_nil,
    fun row hrow => absurd hrow List.not_mem_nil⟩, ?_⟩
  rw [appendRuntimeEvent_of_new fun row hrow => absurd hrow List.not_mem_nil] at hevent
  obtain rfl := Except.ok.inj hevent
  rfl

/-- The event of an operator request; any other kind has the event of the base
class. -/
def operatorEventDraft (row : EvidenceRow X) (lease : Option Lease) :
    Except Failure (RuntimeEventDraft X) :=
  if row.kind ≠ .operatorAction then evidenceEventDraft row lease
  else return {
    eventKey := .evidence row.id
    kind := .evidenceRecorded
    source := .runtime
    taskId := none
    dispatchId := none
    generation := none
    message := "Accepted OPERATOR_ACTION request evidence."
    attributes := .evidence row }

theorem operatorEventDraft_refuses : RefusesRepairs (operatorEventDraft (X := X)) := by
  intro row lease draft hdraft hkind
  have hkind' : row.kind ≠ .operatorAction := by
    rw [hkind]
    decide
  rw [operatorEventDraft, if_pos hkind'] at hdraft
  exact evidenceEventDraft_refuses row lease draft hdraft hkind

/-- A transaction on one run that appends an event or evidence, or one of the
steps around them. -/
inductive StoreCall
  | worker (call : Call RunContent)
  | operatorAppend (runId : UUID) (evidenceKey : String) (kind : EvidenceKind)
      (payload : Payload RunContent) (taskId stage : Option String) (sequence : Option ℤ)
      (runToken : Option UUID)
  | recordRepair (evidence : IntegrationConflictRepairEvidence)
  | finalizeMulti (dag : TaskDAG) (result : MultiTaskRunResult)

/-- The largest value of an INTEGER column. -/
def maxInteger : ℕ := 2147483647

/-- The flush of `event_sequence`, an INTEGER column: a value out of its range
raises, and the transaction is rolled back. -/
def LeaseWorld.flush (w : LeaseWorld X) :
    Except Failure Unit × LeaseWorld X → Except Failure Unit × LeaseWorld X
  | (answer, w') =>
    if maxInteger < w'.db.timeline.sequence then
      (.error ⟨.operationalError, "integer out of range"⟩, w)
    else (answer, w')

/-- One step; a transaction waits while a Git mutation holds the run row. -/
def StoreCall.perform (w : LeaseWorld RunContent) :
    StoreCall → Option (Except Failure Unit × LeaseWorld RunContent)
  | .worker call => (call.perform w).map w.flush
  | .operatorAppend runId evidenceKey kind payload taskId stage sequence runToken =>
    if w.mutation ≠ none then none
    else some (w.flush (w.commit ((appendEvidenceWith operatorEventDraft w.db w.now runId
      evidenceKey kind payload taskId stage sequence runToken).map Prod.snd)))
  | .recordRepair evidence =>
    if w.mutation ≠ none then none
    else some (w.flush (w.commit ((recordConflictRepair w.db evidence).map Prod.snd)))
  | .finalizeMulti dag result =>
    if w.mutation ≠ none then none
    else some (w.flush (w.commit (finalizeMultiTaskRun w.db dag result)))

/-- The transition system. -/
def storeStep (w : LeaseWorld RunContent) (call : StoreCall) (answer : Except Failure Unit)
    (w' : LeaseWorld RunContent) : Prop :=
  call.perform w = some (answer, w')

/-- A run that `start_run` of the evidence store or of the DAG store has just
committed. -/
def LeaseWorld.Started (w : LeaseWorld RunContent) : Prop :=
  ((∃ projects runs projectId taskIds baseCommit,
      EvidenceStore.startRun projects runs projectId w.db.runId taskIds baseCommit = .ok w.db) ∨
    ∃ projects runs projectId dag digest baseCommit,
      DAGStore.startRun projects runs projectId w.db.runId dag digest baseCommit = .ok w.db) ∧
  w.installed = [] ∧ w.mutation = none

theorem LeaseWorld.Started.logs {w : LeaseWorld RunContent} (h : w.Started) :
    w.db.LogsIntact ∧ w.db.timeline.sequence = 1 := by
  obtain ⟨⟨_, _, _, _, _, hstart⟩ | ⟨_, _, _, _, _, _, hstart⟩, -, -⟩ := h
  · simp only [EvidenceStore.startRun, Raising.bind_eq_ok] at hstart
    obtain ⟨_, -, _, -, _, -, hstart⟩ := hstart
    exact insertRun_logs hstart
  · simp only [DAGStore.startRun, Raising.bind_eq_ok] at hstart
    obtain ⟨_, -, _, -, hstart⟩ := hstart
    exact insertRun_logs hstart

/-- What one step does: it is refused and changes nothing, or it extends the
logs. -/
def LogEffect (w : LeaseWorld X) (answer : Except Failure Unit) (w' : LeaseWorld X) : Prop :=
  w.db.Extends w'.db ∧ ∀ failure, answer = .error failure → w' = w

theorem LogEffect.refused (w : LeaseWorld X) (answer : Except Failure Unit) :
    LogEffect w answer w :=
  ⟨.refl _, fun _ _ => rfl⟩

theorem LogEffect.of_commit {w w' : LeaseWorld X} {outcome : Except Failure (Database X)}
    {answer : Except Failure Unit} (hcommit : w.commit outcome = (answer, w'))
    (hextends : ∀ db, outcome = .ok db → w.db.Extends db) : LogEffect w answer w' := by
  cases outcome with
  | ok db =>
    obtain ⟨rfl, rfl⟩ := Prod.mk.inj hcommit
    exact ⟨hextends db rfl, fun _ hfail => by cases hfail⟩
  | error failure =>
    obtain ⟨rfl, rfl⟩ := Prod.mk.inj hcommit
    exact .refused _ _

theorem LogEffect.of_flush {w w' : LeaseWorld X} {step : Except Failure Unit × LeaseWorld X}
    {answer : Except Failure Unit} (hflush : w.flush step = (answer, w'))
    (heffect : LogEffect w step.1 step.2) : LogEffect w answer w' := by
  obtain ⟨answer₁, w₁⟩ := step
  simp only [LeaseWorld.flush] at hflush
  split_ifs at hflush
  · obtain ⟨rfl, rfl⟩ := Prod.mk.inj hflush
    exact .refused _ _
  · obtain ⟨rfl, rfl⟩ := Prod.mk.inj hflush
    exact heffect

/-- The same for the pair that `commit` returns. -/
theorem LogEffect.of_commit_flush {w w' : LeaseWorld X}
    {outcome : Except Failure (Database X)} {answer : Except Failure Unit}
    (h : w.flush (w.commit outcome) = (answer, w'))
    (hextends : ∀ db, outcome = .ok db → w.db.Extends db) : LogEffect w answer w' :=
  LogEffect.of_flush h (LogEffect.of_commit rfl hextends)

section Effects

variable [DecidableEq X]

/-- **A call of a worker is refused and changes nothing, or extends the logs.** -/
theorem Call.perform_logEffect {w w' : LeaseWorld X} {call : Call X}
    {answer : Except Failure Unit} (h : call.perform w = some (answer, w')) :
    LogEffect w answer w' := by
  cases call with
  | acquire token runId taskId ownerId dispatchId leaseSeconds =>
    simp only [Call.perform] at h
    split_ifs at h
    split at h
    · rename_i db hacquire
      obtain ⟨rfl, rfl⟩ := Prod.mk.inj (Option.some.inj h)
      exact ⟨acquireTaskLease_extends hacquire, fun _ hfail => by cases hfail⟩
    · obtain ⟨rfl, rfl⟩ := Prod.mk.inj (Option.some.inj h)
      exact .refused _ _
  | renew runId taskId ownerId dispatchId runToken leaseSeconds =>
    simp only [Call.perform] at h
    split_ifs at h
    refine .of_commit (Option.some.inj h) fun db hdb => ?_
    obtain ⟨shown, hrenew⟩ := Raising.map_snd_eq_ok.1 hdb
    exact renewTaskLease_extends hrenew
  | release runId taskId ownerId dispatchId runToken =>
    simp only [Call.perform] at h
    split_ifs at h
    refine .of_commit (Option.some.inj h) fun db hdb => ?_
    obtain ⟨shown, hrelease⟩ := Raising.map_snd_eq_ok.1 hdb
    exact releaseTaskLease_extends hrelease
  | append runId evidenceKey kind payload taskId stage sequence runToken =>
    simp only [Call.perform] at h
    split_ifs at h
    refine .of_commit (Option.some.inj h) fun db hdb => ?_
    obtain ⟨id, happend⟩ := Raising.map_snd_eq_ok.1 hdb
    exact appendEvidenceWith_extends evidenceEventDraft_refuses happend
  | finalize runId result runToken =>
    simp only [Call.perform] at h
    split_ifs at h
    exact .of_commit (Option.some.inj h) fun db hdb => finalizeSingleTaskRun_extends hdb
  | enterGitMutation runId taskId dispatchId runToken =>
    simp only [Call.perform] at h
    split_ifs at h
    split at h
    · obtain ⟨rfl, rfl⟩ := Prod.mk.inj (Option.some.inj h)
      exact ⟨.refl _, fun _ hfail => by cases hfail⟩
    · obtain ⟨rfl, rfl⟩ := Prod.mk.inj (Option.some.inj h)
      exact .refused _ _
  | exitGitMutation =>
    simp only [Call.perform] at h
    split_ifs at h
    obtain ⟨rfl, rfl⟩ := Prod.mk.inj (Option.some.inj h)
    exact ⟨.refl _, fun _ hfail => by cases hfail⟩
  | tick elapsed =>
    obtain ⟨rfl, rfl⟩ := Prod.mk.inj (Option.some.inj h)
    exact ⟨.refl _, fun _ hfail => by cases hfail⟩
  | otherRuns ids =>
    obtain ⟨rfl, rfl⟩ := Prod.mk.inj (Option.some.inj h)
    exact ⟨⟨rfl, rfl, .same, Or.inl rfl⟩, fun _ hfail => by cases hfail⟩

end Effects

/-- **Every step is refused and changes nothing, or extends the logs.** -/
theorem storeStep_effect {w w' : LeaseWorld RunContent} {call : StoreCall}
    {answer : Except Failure Unit} (h : storeStep w call answer w') : LogEffect w answer w' := by
  unfold storeStep at h
  cases call with
  | worker call =>
    obtain ⟨⟨answer₁, w₁⟩, hcall, hflush⟩ := Option.map_eq_some_iff.1 h
    exact .of_flush hflush (Call.perform_logEffect hcall)
  | operatorAppend runId evidenceKey kind payload taskId stage sequence runToken =>
    simp only [StoreCall.perform] at h
    split_ifs at h
    refine .of_commit_flush (Option.some.inj h) fun db hdb => ?_
    obtain ⟨id, happend⟩ := Raising.map_snd_eq_ok.1 hdb
    exact appendEvidenceWith_extends operatorEventDraft_refuses happend
  | recordRepair evidence =>
    simp only [StoreCall.perform] at h
    split_ifs at h
    refine .of_commit_flush (Option.some.inj h) fun db hdb => ?_
    obtain ⟨id, hrecord⟩ := Raising.map_snd_eq_ok.1 hdb
    exact recordConflictRepair_extends hrecord
  | finalizeMulti dag result =>
    simp only [StoreCall.perform] at h
    split_ifs at h
    exact .of_commit_flush (Option.some.inj h) fun db hdb => finalizeMultiTaskRun_extends hdb

/-- A flushed counter is within the range of its column. -/
theorem LeaseWorld.flush_sequence {w w' : LeaseWorld X}
    {step : Except Failure Unit × LeaseWorld X} {answer : Except Failure Unit}
    (h : w.flush step = (answer, w')) (hw : w.db.timeline.sequence ≤ maxInteger) :
    w'.db.timeline.sequence ≤ maxInteger := by
  obtain ⟨answer₁, w₁⟩ := step
  simp only [LeaseWorld.flush] at h
  split_ifs at h with hmax
  · obtain ⟨rfl, rfl⟩ := Prod.mk.inj h
    exact hw
  · obtain ⟨rfl, rfl⟩ := Prod.mk.inj h
    exact Nat.not_lt.1 hmax

theorem storeStep_sequence {w w' : LeaseWorld RunContent} {call : StoreCall}
    {answer : Except Failure Unit} (h : storeStep w call answer w')
    (hw : w.db.timeline.sequence ≤ maxInteger) : w'.db.timeline.sequence ≤ maxInteger := by
  unfold storeStep at h
  cases call with
  | worker call =>
    obtain ⟨_, -, hflush⟩ := Option.map_eq_some_iff.1 h
    exact LeaseWorld.flush_sequence hflush hw
  | operatorAppend runId evidenceKey kind payload taskId stage sequence runToken =>
    simp only [StoreCall.perform] at h
    split_ifs at h
    exact LeaseWorld.flush_sequence (Option.some.inj h) hw
  | recordRepair evidence =>
    simp only [StoreCall.perform] at h
    split_ifs at h
    exact LeaseWorld.flush_sequence (Option.some.inj h) hw
  | finalizeMulti dag result =>
    simp only [StoreCall.perform] at h
    split_ifs at h
    exact LeaseWorld.flush_sequence (Option.some.inj h) hw

/-- **The logs of a started run stay intact, in any order of transactions.** -/
theorem logsIntact_run {w₀ w : LeaseWorld RunContent}
    {es : List (Runs.Event (LeaseWorld RunContent) StoreCall (Except Failure Unit))}
    (h₀ : w₀.Started) (hrun : Runs.Run storeStep w₀ es w) : w.db.LogsIntact :=
  hrun.invariant (I := fun w => w.db.LogsIntact)
    (fun _ _ _ _ hI hstep => hI.step (storeStep_effect hstep).1) h₀.logs.1

/-! ## Keys in use -/

section Reuse

variable [DecidableEq X] {db : Database X} {now : Timestamp}

/-- A text that was accepted once is accepted again. -/
theorem optionalText_of_bounds {value : Option String} {name : String} {maxLength : ℕ}
    (h : ∀ t, value.map strip = some t → t ≠ "" ∧ t.length ≤ maxLength) :
    optionalText value name maxLength = .ok (value.map strip) := by
  cases value with
  | none => rfl
  | some text =>
    have hbounds := h (strip text) rfl
    have hrequired : requiredText text name maxLength = .ok (strip text) :=
      requiredText_eq_ok.2 ⟨rfl, hbounds.1, hbounds.2⟩
    simp only [optionalText, hrequired, Raising.ok_bind]
    rfl

/-- **The same evidence is accepted again**: while the run is RUNNING and the fence
accepts the caller, the id is that of the row and nothing is written. -/
theorem Database.LogsIntact.reappend (h : db.LogsIntact)
    (eventDraft : EvidenceRow X → Option Lease → Except Failure (RuntimeEventDraft X))
    {row : EvidenceRow X} (hrow : row ∈ db.evidence) {evidenceKey : String}
    {taskId stage : Option String} {runToken : Option UUID}
    (hkey : strip evidenceKey = row.evidenceKey) (htask : taskId.map strip = row.taskId)
    (hstage : stage.map strip = row.stage) (hrunning : db.status = .running)
    (hfence : ∀ name, row.taskId = some name → Admits (db.lease name) runToken now) :
    appendEvidenceWith eventDraft db now db.runId evidenceKey row.kind row.payload taskId stage
      row.sequence runToken = .ok (row.id, db) := by
  have haccepted := h.accepted row hrow
  have hkey' : requiredText evidenceKey "evidence_key" 255 = .ok row.evidenceKey :=
    requiredText_eq_ok.2 ⟨hkey.symm, by rw [hkey]; exact haccepted.key.1,
      by rw [hkey]; exact haccepted.key.2⟩
  have htask' : optionalText taskId "task_id" 128 = .ok row.taskId := by
    rw [optionalText_of_bounds (by rw [htask]; exact fun t ht => (haccepted.task t ht).2), htask]
  have hstage' : optionalText stage "stage" 64 = .ok row.stage := by
    rw [optionalText_of_bounds (by rw [hstage]; exact haccepted.stage), hstage]
  have hsequence : ¬(row.sequence.any (· < 0)) = true := by
    cases hseq : row.sequence with
    | none => simp
    | some n => simpa using haccepted.sequence n hseq
  have hmodel : decodeEvidence row.kind row.payload = .ok () := by
    simp [decodeEvidence, haccepted.model]
  have hfenced : fencedTask db row.taskId runToken now = .ok (row.taskId.bind db.lease) :=
    fencedTask_eq_ok.2 ⟨fun name hname => ⟨(haccepted.task name hname).1, hfence name hname⟩, rfl⟩
  have hfind := h.keys.find?_of_mem hrow
  have hsame : sameEvidence row row.taskId row.kind row.stage row.sequence row.payload :=
    ⟨rfl, rfl, rfl, rfl, haccepted.version, rfl⟩
  unfold appendEvidenceWith lockedRun
  simp only [hkey', htask', hstage', hmodel, hfenced, hfind, Raising.ok_bind,
    Raising.raiseIf_of_not hsequence, Raising.raiseIf_of_not (not_not.2 hrunning),
    Raising.raiseIf_of_not (not_not.2 (rfl : db.runId = db.runId)),
    Raising.raiseIf_of_not (not_not.2 hsame)]
  rfl

/-- **A key in use is refused for other evidence**, whatever the caller and
whichever check is the first to fail. -/
theorem Database.LogsIntact.reuse (h : db.LogsIntact)
    (eventDraft : EvidenceRow X → Option Lease → Except Failure (RuntimeEventDraft X))
    {row : EvidenceRow X} (hrow : row ∈ db.evidence) {runId : UUID} {evidenceKey : String}
    {kind : EvidenceKind} {payload : Payload X} {taskId stage : Option String}
    {sequence : Option ℤ} (runToken : Option UUID) (hkey : strip evidenceKey = row.evidenceKey)
    (hother : ¬(taskId.map strip = row.taskId ∧ kind = row.kind ∧ stage.map strip = row.stage ∧
      sequence = row.sequence ∧ payload = row.payload)) :
    ∃ failure, appendEvidenceWith eventDraft db now runId evidenceKey kind payload taskId stage
      sequence runToken = .error failure := by
  cases hresult : appendEvidenceWith eventDraft db now runId evidenceKey kind payload taskId stage
      sequence runToken with
  | error failure => exact ⟨failure, rfl⟩
  | ok result =>
    exfalso
    simp only [appendEvidenceWith, Raising.bind_eq_ok, requiredText_eq_ok] at hresult
    obtain ⟨_, ⟨rfl, -⟩, task, htask, stage', hstage, _, -, _, -, _, -, _, -, _, -, hresult⟩ :=
      hresult
    obtain rfl := optionalText_eq_ok htask
    obtain rfl := optionalText_eq_ok hstage
    rw [hkey, h.keys.find?_of_mem hrow] at hresult
    simp only [Raising.bind_eq_ok, Raising.raiseIf_eq_ok, not_not] at hresult
    obtain ⟨_, ⟨htask', hkind, hstage', hsequence, -, hpayload⟩, -⟩ := hresult
    exact hother ⟨htask'.symm, hkind.symm, hstage'.symm, hsequence.symm, hpayload.symm⟩

end Reuse

/-- The row holds what `record_integration_repair` writes for this repair. -/
def RecordsRepair (row : EvidenceRow RunContent) (evidence : IntegrationConflictRepairEvidence) :
    Prop :=
  row.taskId = some evidence.taskId ∧ row.kind = .integrationRepair ∧
    row.stage = some "integration_repair" ∧ row.sequence = none ∧
    row.payload = .other .integrationRepair (.repair evidence)

/-- **The same repair is recorded once.** -/
theorem Database.LogsIntact.rerecord {db : Database RunContent} (h : db.LogsIntact)
    {row : EvidenceRow RunContent} (hrow : row ∈ db.evidence)
    {evidence : IntegrationConflictRepairEvidence} (hrun : evidence.runId = db.runId)
    (hrunning : db.status = .running)
    (hkey : integrationRepairKey evidence.taskId evidence.conflictEvidenceFingerprint =
      row.evidenceKey) (hsame : RecordsRepair row evidence) :
    recordConflictRepair db evidence = .ok (row.id, db) := by
  obtain ⟨hrowTask, hkind, -, -, hpayload⟩ := hsame
  have htask := ((h.accepted row hrow).task _ hrowTask).1
  have hfind := h.keys.find?_of_mem hrow
  rw [← hkey] at hfind
  unfold recordConflictRepair recordIntegrationRepair lockedRun
  simp only [hfind, Raising.ok_bind, Raising.raiseIf_of_not (not_not.2 hrun),
    Raising.raiseIf_of_not (not_not.2 hrunning), Raising.raiseIf_of_not (not_not.2 htask)]
  rw [Raising.raiseIf_of_not (not_not.2 ⟨hkind, hrowTask, hpayload⟩)]
  rfl

/-- **The key of a repair in use is refused for another one.** -/
theorem Database.LogsIntact.rerecord_other {db : Database RunContent} (h : db.LogsIntact)
    {row : EvidenceRow RunContent} (hrow : row ∈ db.evidence)
    {evidence : IntegrationConflictRepairEvidence}
    (hkey : integrationRepairKey evidence.taskId evidence.conflictEvidenceFingerprint =
      row.evidenceKey) (hother : ¬RecordsRepair row evidence) :
    ∃ failure, recordConflictRepair db evidence = .error failure := by
  cases hresult : recordConflictRepair db evidence with
  | error failure => exact ⟨failure, rfl⟩
  | ok result =>
    exfalso
    have hfind := h.keys.find?_of_mem hrow
    rw [← hkey] at hfind
    simp only [recordConflictRepair, recordIntegrationRepair, Raising.bind_eq_ok, hfind,
      Raising.raiseIf_eq_ok, not_not] at hresult
    obtain ⟨_, -, _, -, _, -, _, ⟨hkind, htask, hpayload⟩, -⟩ := hresult
    obtain ⟨hstage, hsequence⟩ := (h.accepted row hrow).repair hkind
    exact hother ⟨htask, hkind, hstage, hsequence, hpayload⟩

/-- **The logs of a run are intact in every reachable state.**  Whatever
transactions were applied in whatever order since the run was started, with
whatever of them refused: `event_sequence` is the number of events, these are
numbered 1, …, n in the order of the appends, no event key and no evidence key is
there twice, and no event was ever changed or removed.  Evidence that is appended
again is answered with its row's id and writes nothing, a key in use is refused for
anything else, and a refused call has changed nothing. -/
theorem run_logs_integrity {w₀ w : LeaseWorld RunContent}
    {es : List (Runs.Event (LeaseWorld RunContent) StoreCall (Except Failure Unit))}
    (h₀ : w₀.Started) (hrun : Runs.Run storeStep w₀ es w) :
    w.db.timeline.sequence = w.db.timeline.rows.length ∧
    w.db.timeline.rows.map RuntimeEventRow.sequence =
      List.range' 1 w.db.timeline.rows.length ∧
    (w.db.timeline.rows.map fun row => row.draft.eventKey).Nodup ∧
    (w.db.evidence.map EvidenceRow.evidenceKey).Nodup ∧
    (∀ e ∈ es, e.before.db.timeline.rows <+: e.after.db.timeline.rows ∧
      ∀ failure, e.output = .error failure → e.after = e.before) ∧
    (∀ row ∈ w.db.evidence, ∀ eventDraft evidenceKey taskId stage runToken,
      strip evidenceKey = row.evidenceKey → taskId.map strip = row.taskId →
      stage.map strip = row.stage → w.db.status = .running →
      (∀ name, row.taskId = some name → Admits (w.db.lease name) runToken w.now) →
      appendEvidenceWith eventDraft w.db w.now w.db.runId evidenceKey row.kind row.payload taskId
        stage row.sequence runToken = .ok (row.id, w.db)) ∧
    (∀ row ∈ w.db.evidence, ∀ eventDraft runId evidenceKey kind payload taskId stage sequence
        runToken, strip evidenceKey = row.evidenceKey →
      ¬(taskId.map strip = row.taskId ∧ kind = row.kind ∧ stage.map strip = row.stage ∧
        sequence = row.sequence ∧ payload = row.payload) →
      ∃ failure, appendEvidenceWith eventDraft w.db w.now runId evidenceKey kind payload taskId
        stage sequence runToken = .error failure) ∧
    (∀ row ∈ w.db.evidence, ∀ evidence : IntegrationConflictRepairEvidence,
      integrationRepairKey evidence.taskId evidence.conflictEvidenceFingerprint =
        row.evidenceKey →
      (RecordsRepair row evidence → evidence.runId = w.db.runId → w.db.status = .running →
        recordConflictRepair w.db evidence = .ok (row.id, w.db)) ∧
      (¬RecordsRepair row evidence →
        ∃ failure, recordConflictRepair w.db evidence = .error failure)) ∧
    ∀ row ∈ w.db.timeline.rows, ∀ draft, draft.eventKey = row.draft.eventKey →
      appendRuntimeEvent w.db.timeline draft = if row.draft = draft then .ok w.db.timeline else
        .error ⟨.persistenceConflict,
          "runtime event key was reused for different event data"⟩ := by
  have hlogs := logsIntact_run h₀ hrun
  refine ⟨hlogs.timeline.count, hlogs.timeline.numbered, hlogs.timeline.keys, hlogs.keys, ?_, ?_,
    ?_, ?_, ?_⟩
  · intro e he
    have heffect := storeStep_effect (hrun.event_step e he)
    exact ⟨heffect.1.timeline.rows_prefix, heffect.2⟩
  · intro row hrow eventDraft evidenceKey taskId stage runToken hkey htask hstage hrunning hfence
    exact hlogs.reappend eventDraft hrow hkey htask hstage hrunning hfence
  · intro row hrow eventDraft runId evidenceKey kind payload taskId stage sequence runToken hkey
      hother
    exact hlogs.reuse eventDraft hrow runToken hkey hother
  · intro row hrow evidence hkey
    exact ⟨fun hsame hrun hrunning => hlogs.rerecord hrow hrun hrunning hkey hsame,
      hlogs.rerecord_other hrow hkey⟩
  · intro row hrow draft hkey
    exact hlogs.timeline.append_of_key hrow hkey

/-- A started run of one task. -/
def startedRun : LeaseWorld RunContent where
  db := { Database.created RunContent ⟨1⟩ ["build"] with
    timeline := Timeline.push ⟨0, []⟩
      (runStartedEvent ⟨9⟩ "0123456789abcdef0123456789abcdef01234567" 1 none) }
  now := 0
  installed := []
  mutation := none

theorem startedRun_started : startedRun.Started := by
  refine ⟨Or.inl ⟨[⟨9⟩], [], ⟨9⟩, ["build"], "0123456789abcdef0123456789abcdef01234567", ?_⟩,
    rfl, rfl⟩
  have hlower : (strip "0123456789abcdef0123456789abcdef01234567").toLower =
      "0123456789abcdef0123456789abcdef01234567" := by decide +kernel
  have hoid : ¬isOid "0123456789abcdef0123456789abcdef01234567" = false := by decide +kernel
  simp only [EvidenceStore.startRun, hlower, Raising.raiseIf_of_not hoid, Raising.ok_bind]
  rfl

/-- A worker acquires the task and appends the same evidence twice, and then other
evidence under the same key. -/
def retriedCalls : List StoreCall :=
  [.worker (.acquire ⟨101⟩ ⟨1⟩ "build" "worker-a" ⟨11⟩ 30),
    .worker (.append ⟨1⟩ "plan" .humanDecision (.other .humanDecision (.other "a")) none none none
      none),
    .worker (.append ⟨1⟩ " plan " .humanDecision (.other .humanDecision (.other "a")) none none
      none none),
    .worker (.append ⟨1⟩ "plan" .humanDecision (.other .humanDecision (.other "b")) none none none
      none)]

/-- The retry is a run with three events: the start, the lease and the evidence. -/
theorem run_logs_integrity_retry :
    startedRun.Started ∧ ∃ es w, Runs.Run storeStep startedRun es w ∧
      w.db.timeline.rows.length = 3 ∧ w.db.timeline.sequence = 3 ∧ w.db.evidence.length = 1 := by
  have hlengths : (Runs.exec StoreCall.perform startedRun retriedCalls).map
      (fun r => (r.2.db.timeline.rows.length, r.2.db.evidence.length)) = some (3, 1) := by
    decide +kernel
  obtain ⟨⟨es, w⟩, hexec, hw⟩ := Option.map_eq_some_iff.1 hlengths
  obtain ⟨hevents, hevidence⟩ := Prod.mk.inj hw
  have hrun := Runs.run_of_exec hexec
  exact ⟨startedRun_started, es, w, hrun, hevents,
    (run_logs_integrity startedRun_started hrun).1.trans hevents, hevidence⟩

end DevFlow
