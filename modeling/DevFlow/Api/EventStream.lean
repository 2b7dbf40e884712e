/-
# The event stream of one run

`api/sse.py` and the endpoint `stream_run_events` of `api/app.py`, over
`list_runtime_events` of `persistence/repository.py`: a browser follows the event
log of a run while transactions append to it.

A transaction that appends holds the row lock of its run until it commits, and a
poll reads what is committed; so between the two a state has at most one
transaction in flight, whose events nobody sees.  A message that was sent is on the
wire until it is received, and a disconnect loses whatever is still there.  The
browser reconnects to the same URL with the id of the last message it received.

Comment lines (the heartbeat) and the `retry` field carry no event and are left
out, and so is `decode_runtime_event`, whose checks every row that
`append_runtime_event` wrote passes.
-/

import DevFlow.Library.Cursors
import DevFlow.Persistence.RunLog

namespace DevFlow

/-- `PersistedRuntimeEvent`. -/
structure PersistedRuntimeEvent where
  runId : UUID
  row : RuntimeEventRow RunContent

/-- `PersistedRuntimeEvent.sequence`. -/
def PersistedRuntimeEvent.sequence (event : PersistedRuntimeEvent) : ℕ :=
  event.row.sequence

/-- The optional arguments of `list_runtime_events`. -/
structure EventFilters where
  taskId : Option String := none
  dispatchId : Option UUID := none
  kind : Option EventKind := none
  source : Option EventSource := none

/-- The optional `WHERE` clauses. -/
def EventFilters.admits (filters : EventFilters) (row : RuntimeEventRow RunContent) : Bool :=
  filters.taskId.all (fun taskId => row.draft.taskId = some taskId) &&
    filters.dispatchId.all (fun dispatchId => row.draft.dispatchId = some dispatchId) &&
    filters.kind.all (fun kind => row.draft.kind = kind) &&
    filters.source.all (fun source => row.draft.source = source)

/-- `list_runtime_events`. -/
def listRuntimeEvents (db : Database RunContent) (runId : UUID) (filters : EventFilters)
    (afterSequence limit : ℤ) : Except Failure (List PersistedRuntimeEvent) := do
  Raising.raiseIf (afterSequence < 0) ⟨.valueError, "after_sequence must be non-negative"⟩
  Raising.raiseIf (limit < 1 ∨ 1000 < limit)
    ⟨.valueError, "runtime event query limit must be between 1 and 1000"⟩
  let taskId ← optionalText filters.taskId "task_id" 128
  Raising.raiseIf (runId ≠ db.runId) ⟨.valueError, "unknown persistence run: " ++ runId.str⟩
  let rows := db.timeline.rows.filter fun row => afterSequence < row.sequence
  let rows := rows.filter { filters with taskId }.admits
  let rows := rows.insertionSort fun row row' => row.sequence ≤ row'.sequence
  return (rows.take limit.toNat).map fun row => ⟨db.runId, row⟩

/-- `ProductService.get_runtime_events`. -/
def getRuntimeEvents (db : Database RunContent) (runId : UUID) (afterSequence limit : ℤ) :
    Except Failure (List PersistedRuntimeEvent) :=
  listRuntimeEvents db runId {} afterSequence limit

/-- `_MAX_SEQUENCE_CURSOR`. -/
def maxSequenceCursor : ℕ := 2 ^ 63 - 1

/-- `resolve_event_cursor`. -/
def resolveEventCursor (afterSequence : ℤ) (lastEventId : Option String) : Except Failure ℕ := do
  Raising.raiseIf (afterSequence < 0 ∨ maxSequenceCursor < afterSequence)
    ⟨.valueError, "after_sequence is outside the supported sequence range"⟩
  let raw := (lastEventId.map strip).getD ""
  if raw = "" then
    return afterSequence.toNat
  Raising.raiseIf (¬raw.toList.all Char.isDigit)
    ⟨.valueError, "Last-Event-ID must be a non-negative decimal runtime sequence"⟩
  let parsed := Nat.ofDigitChars 10 raw.toList 0
  Raising.raiseIf (maxSequenceCursor < parsed)
    ⟨.valueError, "Last-Event-ID is outside the supported sequence range"⟩
  return max afterSequence.toNat parsed

/-- What the stream asks of an event: whether `_assert_browser_safe_attributes`
accepts its attributes, and its `model_dump_json`. -/
structure EventRendering where
  browserSafe : EventAttributes RunContent → Bool
  payload : PersistedRuntimeEvent → String

/-- One message of the stream: its `id` and its `data` field. -/
structure SseMessage where
  id : String
  data : String
deriving DecidableEq, Repr

/-- The message of an event. -/
def EventRendering.message (rendering : EventRendering) (event : PersistedRuntimeEvent) :
    SseMessage :=
  ⟨toString event.sequence, rendering.payload event⟩

/-- A `RuntimeEventStreamSafetyError`. -/
def streamSafetyError (message : String) : Failure :=
  ⟨.runtimeError, message⟩

/-- `_assert_browser_safe_attributes`. -/
def assertBrowserSafe (rendering : EventRendering) (event : PersistedRuntimeEvent) :
    Except Failure Unit :=
  Raising.raiseIf (rendering.browserSafe event.row.draft.attributes = false)
    (streamSafetyError "runtime event attribute is not browser-safe")

/-- The body of the loop of `validate_runtime_event_batch`. -/
def validateNext (rendering : EventRendering) (runId : UUID) (cursor : ℕ)
    (event : PersistedRuntimeEvent) : Except Failure ℕ := do
  Raising.raiseIf (event.runId ≠ runId)
    (streamSafetyError "runtime event belongs to a different Run")
  Raising.raiseIf (event.sequence ≤ cursor)
    (streamSafetyError "runtime event sequence is not strictly monotonic")
  assertBrowserSafe rendering event
  return event.sequence

/-- `validate_runtime_event_batch`. -/
def validateRuntimeEventBatch (rendering : EventRendering) (events : List PersistedRuntimeEvent)
    (runId : UUID) (afterSequence : ℕ) : Except Failure ℕ :=
  events.foldlM (validateNext rendering runId) afterSequence

/-- `_MAX_SSE_EVENT_BYTES`. -/
def maxSseEventBytes : ℕ := 32768

/-- `encode_runtime_event`. -/
def encodeRuntimeEvent (rendering : EventRendering) (event : PersistedRuntimeEvent) :
    Except Failure SseMessage := do
  assertBrowserSafe rendering event
  Raising.raiseIf (maxSseEventBytes < (rendering.payload event).utf8ByteSize)
    (streamSafetyError "runtime event exceeds the SSE payload bound")
  return rendering.message event

/-- The request: the URL, the `Last-Event-ID` header of the first connection, and
the limits of the first read and of the polls. -/
structure StreamRequest where
  runId : UUID
  afterSequence : ℤ
  lastEventId : Option String
  initialLimit : ℤ
  batchLimit : ℤ
  rendering : EventRendering

/-- A connection: the variables of `runtime_event_stream`, and the messages that
it has sent and the browser has not received. -/
structure EventStream where
  cursor : ℕ
  pending : List PersistedRuntimeEvent
  wire : List SseMessage

/-- `stream_run_events` up to the first message, with the checks at the start of
`runtime_event_stream`. -/
def openStream (req : StreamRequest) (db : Database RunContent) (lastEventId : Option String) :
    Except Failure EventStream := do
  let cursor ← resolveEventCursor req.afterSequence lastEventId
  let initialEvents ← getRuntimeEvents db req.runId cursor req.initialLimit
  let _ ← validateRuntimeEventBatch req.rendering initialEvents req.runId cursor
  Raising.raiseIf (req.batchLimit < 1 ∨ 1000 < req.batchLimit)
    ⟨.valueError, "SSE batch_limit must be between 1 and 1000"⟩
  let _ ← validateRuntimeEventBatch req.rendering initialEvents req.runId cursor
  return ⟨cursor, initialEvents, []⟩

/-- One turn of the loop over the pending events: the message of the first one. -/
def EventStream.send (req : StreamRequest) (stream : EventStream) (event : PersistedRuntimeEvent)
    (rest : List PersistedRuntimeEvent) : Except Failure EventStream := do
  Raising.raiseIf (event.sequence ≤ stream.cursor)
    (streamSafetyError "runtime event stream attempted to replay a non-monotonic event")
  let message ← encodeRuntimeEvent req.rendering event
  return ⟨event.sequence, rest, stream.wire ++ [message]⟩

/-- One poll of the loop. -/
def EventStream.poll (req : StreamRequest) (stream : EventStream) (db : Database RunContent) :
    Except Failure EventStream := do
  let pending ← getRuntimeEvents db req.runId stream.cursor req.batchLimit
  let _ ← validateRuntimeEventBatch req.rendering pending req.runId stream.cursor
  return { stream with pending }

/-- The committed rows, the transaction in flight with what it would commit, the
messages that the browser has received, and its connection. -/
structure StreamWorld where
  store : LeaseWorld RunContent
  transaction : Option (Except Failure Unit × LeaseWorld RunContent)
  delivered : List SseMessage
  stream : Option EventStream

/-- What can happen next. -/
inductive StreamAction
  | begin (call : StoreCall)
  | commit
  | rollback
  | connect
  | poll
  | send
  | receive
  | disconnect

/-- A step of the stream or of the browser that does not disconnect. -/
def StreamAction.byReader : StreamAction → Bool
  | .connect | .poll | .send | .receive => true
  | _ => false

/-- The header with which the browser connects: the id of the last message. -/
def StreamWorld.lastEventId (req : StreamRequest) (w : StreamWorld) : Option String :=
  match w.delivered.getLast? with
  | some message => some message.id
  | none => req.lastEventId

/-- The connection goes on with what its loop returned, or ends. -/
def StreamWorld.continue (w : StreamWorld) (outcome : Except Failure EventStream) :
    Except Failure Unit × StreamWorld :=
  match outcome with
  | .ok stream => (.ok (), { w with stream := some stream })
  | .error failure => (.error failure, { w with stream := none })

/-- One step.  A transaction waits for the one that holds the run row. -/
def StreamAction.perform (req : StreamRequest) (w : StreamWorld) :
    StreamAction → Option (Except Failure Unit × StreamWorld)
  | .begin call =>
    match w.transaction with
    | some _ => none
    | none => (call.perform w.store).map fun result => (.ok (), { w with transaction := some result })
  | .commit => w.transaction.map fun result =>
      (result.1, { w with store := result.2, transaction := none })
  | .rollback => w.transaction.map fun _ =>
      (.error ⟨.operationalError, "transaction rolled back"⟩, { w with transaction := none })
  | .connect =>
    match w.stream with
    | some _ => none
    | none => some (w.continue (openStream req w.store.db (w.lastEventId req)))
  | .poll =>
    match w.stream with
    | some ⟨cursor, [], wire⟩ =>
      some (w.continue (EventStream.poll req ⟨cursor, [], wire⟩ w.store.db))
    | _ => none
  | .send =>
    match w.stream with
    | some ⟨cursor, event :: rest, wire⟩ =>
      some (w.continue (EventStream.send req ⟨cursor, event :: rest, wire⟩ event rest))
    | _ => none
  | .receive =>
    match w.stream with
    | some ⟨cursor, pending, message :: wire⟩ =>
      some (.ok (), { w with
        delivered := w.delivered ++ [message], stream := some ⟨cursor, pending, wire⟩ })
    | _ => none
  | .disconnect =>
    match w.stream with
    | some _ => some (.ok (), { w with stream := none })
    | none => none

/-- The transition system. -/
def streamStep (req : StreamRequest) (w : StreamWorld) (action : StreamAction)
    (answer : Except Failure Unit) (w' : StreamWorld) : Prop :=
  action.perform req w = some (answer, w')

/-- Nothing was delivered from the run so far, which was just started. -/
structure StreamWorld.Fresh (w : StreamWorld) : Prop where
  store : w.store.Started
  transaction : w.transaction = none
  delivered : w.delivered = []
  stream : w.stream = none

/-- The committed event log. -/
def StreamWorld.log (w : StreamWorld) : List (RuntimeEventRow RunContent) :=
  w.store.db.timeline.rows

/-- The message of a row of the run. -/
def StreamRequest.message (req : StreamRequest) (row : RuntimeEventRow RunContent) : SseMessage :=
  req.rendering.message ⟨req.runId, row⟩

/-- The event is browser-safe and within the size bound. -/
def StreamRequest.Safe (req : StreamRequest) (row : RuntimeEventRow RunContent) : Prop :=
  req.rendering.browserSafe row.draft.attributes = true ∧
    (req.rendering.payload ⟨req.runId, row⟩).utf8ByteSize ≤ maxSseEventBytes

/-! ## The cursor -/

theorem isSpace_of_isDigit {c : Char} (h : c.isDigit = true) : isSpace c = false := by
  refine isSpace_of_isTaskIdChar ?_
  simp [isTaskIdChar, Char.isAlphanum, h]

/-- **The id of a message resolves to its sequence number.** -/
theorem resolveEventCursor_toString {afterSequence : ℤ} {n : ℕ} (hnonneg : 0 ≤ afterSequence)
    (hle : afterSequence ≤ n) (hmax : n ≤ maxSequenceCursor) :
    resolveEventCursor afterSequence (some (toString n)) = .ok n := by
  have hdigits : (toString n).toList = Nat.toDigits 10 n := by
    rw [Nat.toString_eq_repr, Nat.toList_repr]
  have hisDigit : ∀ c ∈ (toString n).toList, c.isDigit = true := by
    intro c hc
    rw [hdigits] at hc
    exact Nat.isDigit_of_mem_toDigits (by decide) (by decide) hc
  have hstrip : strip (toString n) = toString n :=
    strip_eq_self fun c hc => isSpace_of_isDigit (hisDigit c hc)
  have hne : toString n ≠ "" := by
    intro hempty
    rw [hempty] at hdigits
    exact Nat.toDigits_ne_nil hdigits.symm
  have hrange : ¬(afterSequence < 0 ∨ (maxSequenceCursor : ℤ) < afterSequence) := by omega
  have hall : ¬¬((toString n).toList.all Char.isDigit = true) := by
    rw [not_not, List.all_eq_true]
    exact hisDigit
  have hparsed : Nat.ofDigitChars 10 (toString n).toList 0 = n := by
    rw [hdigits, Nat.ofDigitChars_ten_toDigits]
  have hvalue : max afterSequence.toNat n = n := by omega
  unfold resolveEventCursor
  simp only [Raising.raiseIf_of_not hrange, Raising.ok_bind, Option.map_some, Option.getD_some,
    hstrip, if_neg hne, Raising.raiseIf_of_not hall, hparsed,
    Raising.raiseIf_of_not (Nat.not_lt.2 hmax), hvalue]
  rfl

/-- A cursor that was resolved is in the range, and not before the URL's. -/
theorem resolveEventCursor_eq_ok {afterSequence : ℤ} {lastEventId : Option String} {c : ℕ}
    (h : resolveEventCursor afterSequence lastEventId = .ok c) :
    0 ≤ afterSequence ∧ afterSequence ≤ c ∧ c ≤ maxSequenceCursor := by
  simp only [resolveEventCursor, Raising.bind_eq_ok, Raising.raiseIf_eq_ok, not_or, not_lt] at h
  obtain ⟨_, ⟨hnonneg, hle⟩, h⟩ := h
  split_ifs at h
  · obtain rfl := Raising.pure_eq_ok.1 h
    omega
  · simp only [Raising.bind_eq_ok, Raising.raiseIf_eq_ok, Raising.pure_eq_ok] at h
    obtain ⟨_, -, _, hparsed, rfl⟩ := h
    omega

/-! ## What a read returns -/

/-- An intact log is in strictly increasing order. -/
theorem Timeline.Intact.sorted {X : Type} {timeline : Timeline X} (h : timeline.Intact) :
    Cursors.Sorted RuntimeEventRow.sequence timeline.rows := by
  have hrange : (List.range' 1 timeline.rows.length).Pairwise (· < ·) := List.pairwise_lt_range'
  rw [← h.numbered, List.pairwise_map] at hrange
  exact hrange

/-- No event is numbered past the counter. -/
theorem Timeline.Intact.sequence_le {X : Type} {timeline : Timeline X} (h : timeline.Intact)
    {row : RuntimeEventRow X} (hrow : row ∈ timeline.rows) : row.sequence ≤ timeline.sequence := by
  have hmem : row.sequence ∈ timeline.rows.map RuntimeEventRow.sequence :=
    List.mem_map_of_mem hrow
  rw [h.numbered, List.mem_range'_1] at hmem
  rw [h.count]
  omega

/-- The entries of the log after a cursor. -/
def logAfter (c : ℕ) (log : List (RuntimeEventRow RunContent)) :
    List (RuntimeEventRow RunContent) :=
  Cursors.after RuntimeEventRow.sequence c log

/-- **A read returns a page of the log after the cursor.** -/
theorem getRuntimeEvents_eq {db : Database RunContent} (h : db.timeline.Intact) (c : ℕ)
    {limit : ℤ} (hlimit : 1 ≤ limit ∧ limit ≤ 1000) :
    getRuntimeEvents db db.runId c limit = .ok (((logAfter c db.timeline.rows).take limit.toNat).map
      fun row => ⟨db.runId, row⟩) := by
  have hcursor : ¬(c : ℤ) < 0 := by omega
  have hrange : ¬(limit < 1 ∨ 1000 < limit) := by omega
  have hfilter : ∀ rows : List (RuntimeEventRow RunContent),
      rows.filter (EventFilters.admits { taskId := none }) = rows := fun rows =>
    List.filter_eq_self.2 fun row _ => rfl
  have hsorted : (logAfter c db.timeline.rows).insertionSort
      (fun row row' => row.sequence ≤ row'.sequence) = logAfter c db.timeline.rows := by
    refine List.Pairwise.insertionSort_eq ?_
    exact List.Pairwise.imp (fun hlt => Nat.le_of_lt hlt) (h.sorted.after c)
  have hafter : (db.timeline.rows.filter fun row => decide ((c : ℤ) < row.sequence)) =
      logAfter c db.timeline.rows :=
    List.filter_congr fun row _ => by simp only [Nat.cast_lt]
  unfold getRuntimeEvents listRuntimeEvents
  simp only [Raising.raiseIf_of_not hcursor, Raising.raiseIf_of_not hrange, optionalText,
    Raising.raiseIf_of_not (not_not.2 (rfl : db.runId = db.runId)), hafter]
  show Except.ok _ = Except.ok _
  rw [hfilter, hsorted]

/-- What a read that returned has read. -/
theorem getRuntimeEvents_eq_ok {db : Database RunContent} (h : db.timeline.Intact) {runId : UUID}
    {c : ℕ} {limit : ℤ} {events : List PersistedRuntimeEvent}
    (hread : getRuntimeEvents db runId c limit = .ok events) :
    runId = db.runId ∧ (1 ≤ limit ∧ limit ≤ 1000) ∧
      events = ((logAfter c db.timeline.rows).take limit.toNat).map fun row => ⟨db.runId, row⟩ := by
  have hchecks := hread
  simp only [getRuntimeEvents, listRuntimeEvents, Raising.bind_eq_ok, Raising.raiseIf_eq_ok,
    not_not] at hchecks
  obtain ⟨_, -, _, hlimit, _, -, _, rfl, -⟩ := hchecks
  have hlimit' : 1 ≤ limit ∧ limit ≤ 1000 := by omega
  rw [getRuntimeEvents_eq h c hlimit'] at hread
  exact ⟨rfl, hlimit', (Except.ok.inj hread).symm⟩

/-- **A page of safe events passes the validation.** -/
theorem validateRuntimeEventBatch_ok {req : StreamRequest} {c : ℕ}
    {page : List (RuntimeEventRow RunContent)}
    (hsorted : Cursors.Sorted RuntimeEventRow.sequence page)
    (hafter : ∀ row ∈ page, c < row.sequence) (hsafe : ∀ row ∈ page, req.Safe row) :
    ∃ c', validateRuntimeEventBatch req.rendering (page.map fun row => ⟨req.runId, row⟩)
      req.runId c = .ok c' := by
  induction page generalizing c with
  | nil => exact ⟨c, rfl⟩
  | cons row page ih =>
    rw [List.forall_mem_cons] at hafter hsafe
    have hnext : validateNext req.rendering req.runId c ⟨req.runId, row⟩ = .ok row.sequence := by
      have hrun : ¬(req.runId ≠ req.runId) := not_not.2 rfl
      have hmonotone : ¬((⟨req.runId, row⟩ : PersistedRuntimeEvent).sequence ≤ c) :=
        Nat.not_le.2 hafter.1
      simp only [validateNext, assertBrowserSafe, Raising.raiseIf_of_not hrun,
        Raising.raiseIf_of_not hmonotone, hsafe.1.1, Raising.ok_bind]
      rfl
    obtain ⟨c', hrest⟩ := ih hsorted.of_cons
      (fun r hr => List.rel_of_pairwise_cons hsorted hr) hsafe.2
    refine ⟨c', ?_⟩
    unfold validateRuntimeEventBatch at hrest ⊢
    rw [List.map_cons, List.foldlM_cons, hnext, Raising.ok_bind, hrest]

/-! ## What a connection knows -/

/-- A log that a transaction extends keeps every reading. -/
theorem reads_of_grows {timeline timeline' : Timeline RunContent} (h : timeline.Intact)
    (hgrows : timeline.Grows timeline') {c c' : ℕ} {seen : List (RuntimeEventRow RunContent)}
    (hreads : Cursors.Reads RuntimeEventRow.sequence timeline.rows c seen c') :
    Cursors.Reads RuntimeEventRow.sequence timeline'.rows c seen c' := by
  cases hgrows with
  | same => exact hreads
  | event draft _ =>
    refine hreads.grow fun row hrow new hnew => ?_
    rw [List.mem_singleton.1 hnew]
    exact Nat.lt_succ_of_le (h.sequence_le hrow)

/-- What is after a cursor only gets longer. -/
theorem prefix_of_logAfter {log log' : List (RuntimeEventRow RunContent)} (h : log <+: log') (c : ℕ) :
    logAfter c log <+: logAfter c log' :=
  h.filter _

/-- A connection whose browser stands at `position`: the messages on the wire lead
from there to the cursor, and what is pending comes next. -/
def EventStream.Ahead (req : StreamRequest) (log : List (RuntimeEventRow RunContent))
    (position : ℕ) (stream : EventStream) : Prop :=
  ∃ flying batch, stream.wire = flying.map req.message ∧
    Cursors.Reads RuntimeEventRow.sequence log position flying stream.cursor ∧
    stream.pending = batch.map (fun row => ⟨req.runId, row⟩) ∧ batch <+: logAfter stream.cursor log

/-- **What holds of the store and its reader at any time**: the messages that were
received are the log from the initial cursor to the browser's position. -/
structure StreamWorld.Follows (req : StreamRequest) (c₀ : ℕ) (w : StreamWorld) : Prop where
  logs : w.store.db.LogsIntact
  bound : w.store.db.timeline.sequence ≤ maxInteger
  inFlight : ∀ result, w.transaction = some result →
    w.store.db.Extends result.2.db ∧ result.2.db.timeline.sequence ≤ maxInteger
  read : ∃ seen position, w.delivered = seen.map req.message ∧
    Cursors.Reads RuntimeEventRow.sequence w.log c₀ seen position ∧
    ∀ stream, w.stream = some stream → stream.Ahead req w.log position

namespace StreamWorld

variable {req : StreamRequest} {c₀ : ℕ} {w w' : StreamWorld} {answer : Except Failure Unit}

theorem Follows.sorted (h : w.Follows req c₀) :
    Cursors.Sorted RuntimeEventRow.sequence w.log :=
  h.logs.timeline.sorted

/-- **The browser reconnects at its position.** -/
theorem lastEventId_resolves (hcursor : resolveEventCursor req.afterSequence req.lastEventId =
      .ok c₀) (h : w.Follows req c₀) {seen : List (RuntimeEventRow RunContent)} {position : ℕ}
    (hdelivered : w.delivered = seen.map req.message)
    (hreads : Cursors.Reads RuntimeEventRow.sequence w.log c₀ seen position) :
    resolveEventCursor req.afterSequence (w.lastEventId req) = .ok position := by
  obtain ⟨hnonneg, hle, -⟩ := resolveEventCursor_eq_ok hcursor
  rcases List.eq_nil_or_concat seen with rfl | ⟨front, row, rfl⟩
  · have hposition : position = c₀ := hreads.cursor
    have hlast : w.lastEventId req = req.lastEventId := by
      rw [lastEventId, hdelivered]
      rfl
    rw [hlast, hcursor, hposition]
  · have hposition : position = row.sequence := by
      rw [hreads.cursor]
      simp
    have hlast : w.lastEventId req = some (toString position) := by
      rw [lastEventId, hdelivered]
      simp [StreamRequest.message, EventRendering.message, PersistedRuntimeEvent.sequence,
        hposition]
    have hrow : row ∈ w.log := (hreads.mem (by simp)).1
    have hsmall : position ≤ maxSequenceCursor := by
      have hsequence := h.logs.timeline.sequence_le hrow
      have hbound := h.bound
      unfold maxInteger at hbound
      unfold maxSequenceCursor
      omega
    have hstart := hreads.le
    rw [hlast]
    exact resolveEventCursor_toString hnonneg (by omega) hsmall

/-- A stream that was opened stands at the browser's position. -/
theorem openStream_ahead (hcursor : resolveEventCursor req.afterSequence req.lastEventId = .ok c₀)
    (h : w.Follows req c₀) {seen : List (RuntimeEventRow RunContent)} {position : ℕ}
    (hdelivered : w.delivered = seen.map req.message)
    (hreads : Cursors.Reads RuntimeEventRow.sequence w.log c₀ seen position) {stream : EventStream}
    (hopen : openStream req w.store.db (w.lastEventId req) = .ok stream) :
    stream.Ahead req w.log position := by
  simp only [openStream, lastEventId_resolves hcursor h hdelivered hreads, Raising.ok_bind,
    Raising.bind_eq_ok, Raising.pure_eq_ok] at hopen
  obtain ⟨events, hread, _, -, _, -, _, -, rfl⟩ := hopen
  obtain ⟨hrun, -, rfl⟩ := getRuntimeEvents_eq_ok h.logs.timeline hread
  rw [← hrun]
  exact ⟨[], _, rfl, .refl _ _ _, rfl, List.take_prefix _ _⟩

/-- A poll leaves the connection where it is. -/
theorem poll_ahead (h : w.Follows req c₀) {position : ℕ} {stream stream' : EventStream}
    (hahead : stream.Ahead req w.log position)
    (hpoll : stream.poll req w.store.db = .ok stream') : stream'.Ahead req w.log position := by
  obtain ⟨flying, -, hwire, hreads, -, -⟩ := hahead
  simp only [EventStream.poll, Raising.bind_eq_ok, Raising.pure_eq_ok] at hpoll
  obtain ⟨events, hread, _, -, rfl⟩ := hpoll
  obtain ⟨hrun, -, rfl⟩ := getRuntimeEvents_eq_ok h.logs.timeline hread
  rw [← hrun]
  exact ⟨flying, _, hwire, hreads, rfl, List.take_prefix _ _⟩

/-- **Sending the first pending event takes the cursor to it.** -/
theorem send_ahead (h : w.Follows req c₀) {position cursor : ℕ} {event : PersistedRuntimeEvent}
    {rest : List PersistedRuntimeEvent} {wire : List SseMessage} {stream' : EventStream}
    (hahead : EventStream.Ahead req w.log position ⟨cursor, event :: rest, wire⟩)
    (hsend : EventStream.send req ⟨cursor, event :: rest, wire⟩ event rest = .ok stream') :
    stream'.Ahead req w.log position := by
  obtain ⟨flying, batch, hwire, hreads, hpending, hbatch⟩ := hahead
  obtain ⟨row, batch, rfl, rfl, rfl⟩ : ∃ row batch', batch = row :: batch' ∧
      event = ⟨req.runId, row⟩ ∧ rest = batch'.map fun row => ⟨req.runId, row⟩ := by
    cases batch with
    | nil => cases hpending
    | cons row batch =>
      obtain ⟨hevent, hrest⟩ := List.cons.inj hpending
      exact ⟨row, batch, rfl, hevent, hrest⟩
  simp only [EventStream.send, encodeRuntimeEvent, Raising.bind_eq_ok, Raising.pure_eq_ok] at hsend
  obtain ⟨_, -, _, ⟨_, -, _, -, rfl⟩, rfl⟩ := hsend
  obtain ⟨others, hothers⟩ := hbatch
  have hhead : logAfter cursor w.log = row :: (batch ++ others) := hothers.symm
  refine ⟨flying ++ [row], batch, ?_, hreads.trans (.next h.sorted hhead), rfl, ?_⟩
  · rw [List.map_append, ← show wire = flying.map req.message from hwire]
    rfl
  · have hrest : logAfter row.sequence w.log = batch ++ others := h.sorted.after_head hhead
    show batch <+: logAfter row.sequence w.log
    rw [hrest]
    exact List.prefix_append _ _

/-- A state that differs in the connection only. -/
theorem Follows.withStream (h : w.Follows req c₀) {stream : Option EventStream}
    (hstream : ∀ seen position, w.delivered = seen.map req.message →
      Cursors.Reads RuntimeEventRow.sequence w.log c₀ seen position →
      (∀ old, w.stream = some old → old.Ahead req w.log position) →
      ∀ new, stream = some new → new.Ahead req w.log position) :
    ({ w with stream } : StreamWorld).Follows req c₀ := by
  obtain ⟨seen, position, hdelivered, hreads, hahead⟩ := h.read
  exact ⟨h.logs, h.bound, h.inFlight, seen, position, hdelivered, hreads,
    hstream seen position hdelivered hreads hahead⟩

/-- A connection that ended. -/
theorem Follows.closed (h : w.Follows req c₀) :
    ({ w with stream := none } : StreamWorld).Follows req c₀ :=
  h.withStream fun _ _ _ _ _ _ hnew => by cases hnew

/-- A turn of the loop that keeps the connection ahead, or ends it. -/
theorem Follows.continue (h : w.Follows req c₀) {outcome : Except Failure EventStream}
    (hcontinue : w.continue outcome = (answer, w'))
    (hahead : ∀ seen position, w.delivered = seen.map req.message →
      Cursors.Reads RuntimeEventRow.sequence w.log c₀ seen position →
      (∀ old, w.stream = some old → old.Ahead req w.log position) →
      ∀ new, outcome = .ok new → new.Ahead req w.log position) : w'.Follows req c₀ := by
  cases outcome with
  | ok stream =>
    obtain ⟨-, rfl⟩ := Prod.mk.inj hcontinue
    refine h.withStream fun seen position hdelivered hreads hold new hnew => ?_
    obtain rfl := Option.some.inj hnew
    exact hahead seen position hdelivered hreads hold stream rfl
  | error failure =>
    obtain ⟨-, rfl⟩ := Prod.mk.inj hcontinue
    exact h.closed

/-- **Every step keeps the reader on the log.** -/
theorem Follows.step (hcursor : resolveEventCursor req.afterSequence req.lastEventId = .ok c₀)
    (h : w.Follows req c₀) {action : StreamAction} (hstep : streamStep req w action answer w') :
    w'.Follows req c₀ := by
  unfold streamStep at hstep
  cases action with
  | begin call =>
    simp only [StreamAction.perform] at hstep
    split at hstep
    · cases hstep
    · obtain ⟨⟨outcome, store⟩, hcall, heq⟩ := Option.map_eq_some_iff.1 hstep
      obtain ⟨-, rfl⟩ := Prod.mk.inj heq
      refine ⟨h.logs, h.bound, fun result hresult => ?_, h.read⟩
      obtain rfl := Option.some.inj hresult
      exact ⟨(storeStep_effect hcall).1, storeStep_sequence hcall h.bound⟩
  | commit =>
    obtain ⟨result, hresult, heq⟩ := Option.map_eq_some_iff.1 hstep
    obtain ⟨-, rfl⟩ := Prod.mk.inj heq
    obtain ⟨hextends, hbound⟩ := h.inFlight result hresult
    obtain ⟨seen, position, hdelivered, hreads, hahead⟩ := h.read
    have hgrows := hextends.timeline
    refine ⟨h.logs.step hextends, hbound, fun result hnone => (by cases hnone), seen, position,
      hdelivered, reads_of_grows h.logs.timeline hgrows hreads, fun stream hstream => ?_⟩
    obtain ⟨flying, batch, hwire, hflying, hpending, hbatch⟩ := hahead stream hstream
    exact ⟨flying, batch, hwire, reads_of_grows h.logs.timeline hgrows hflying, hpending,
      hbatch.trans (prefix_of_logAfter hgrows.rows_prefix _)⟩
  | rollback =>
    obtain ⟨result, -, heq⟩ := Option.map_eq_some_iff.1 hstep
    obtain ⟨-, rfl⟩ := Prod.mk.inj heq
    exact ⟨h.logs, h.bound, fun result hnone => (by cases hnone), h.read⟩
  | connect =>
    simp only [StreamAction.perform] at hstep
    split at hstep
    · cases hstep
    · exact h.continue (Option.some.inj hstep) fun seen position hdelivered hreads _ new hnew =>
        openStream_ahead hcursor h hdelivered hreads hnew
  | poll =>
    simp only [StreamAction.perform] at hstep
    split at hstep
    · rename_i cursor wire hstream
      exact h.continue (Option.some.inj hstep) fun seen position _ _ hold new hnew =>
        poll_ahead h (hold _ hstream) hnew
    · cases hstep
  | send =>
    simp only [StreamAction.perform] at hstep
    split at hstep
    · rename_i cursor event rest wire hstream
      exact h.continue (Option.some.inj hstep) fun seen position _ _ hold new hnew =>
        send_ahead h (hold _ hstream) hnew
    · cases hstep
  | receive =>
    simp only [StreamAction.perform] at hstep
    split at hstep
    · rename_i cursor pending message wire hstream
      obtain ⟨-, rfl⟩ := Prod.mk.inj (Option.some.inj hstep)
      obtain ⟨seen, position, hdelivered, hreads, hahead⟩ := h.read
      obtain ⟨flying, batch, hwire, hflying, hpending, hbatch⟩ := hahead _ hstream
      cases flying with
      | nil => cases hwire
      | cons row flying =>
        obtain ⟨rfl, hrest⟩ := List.cons.inj hwire
        obtain ⟨hfirst, hothers⟩ := hflying.uncons h.sorted
        refine ⟨h.logs, h.bound, h.inFlight, seen ++ [row], row.sequence, ?_,
          hreads.trans hfirst, fun stream hnew => ?_⟩
        · show w.delivered ++ [req.message row] = _
          rw [hdelivered, List.map_append, List.map_singleton]
        · obtain rfl := Option.some.inj hnew
          exact ⟨flying, batch, hrest, hothers, hpending, hbatch⟩
    · cases hstep
  | disconnect =>
    simp only [StreamAction.perform] at hstep
    split at hstep
    · obtain ⟨-, rfl⟩ := Prod.mk.inj (Option.some.inj hstep)
      exact h.closed
    · cases hstep

theorem Fresh.follows (h : w.Fresh) : w.Follows req c₀ := by
  obtain ⟨hlogs, hsequence⟩ := h.store.logs
  refine ⟨hlogs, ?_, ?_, [], c₀, h.delivered, .refl _ _ _, ?_⟩
  · rw [hsequence]
    decide
  · intro result hresult
    rw [h.transaction] at hresult
    cases hresult
  · intro stream hstream
    rw [h.stream] at hstream
    cases hstream

/-! ## Everything is delivered -/

/-- The request is one that the endpoint accepts on this run: the run exists and
the limits are in range. -/
structure Accepts (req : StreamRequest) (w : StreamWorld) : Prop where
  run : req.runId = w.store.db.runId
  initial : 1 ≤ req.initialLimit ∧ req.initialLimit ≤ 1000
  batch : 1 ≤ req.batchLimit ∧ req.batchLimit ≤ 1000
  safe : ∀ row ∈ w.log, req.Safe row

/-- A read of the request's run passes. -/
theorem Accepts.page (ha : w.Accepts req) (h : w.Follows req c₀) (c : ℕ) {limit : ℤ}
    (hlimit : 1 ≤ limit ∧ limit ≤ 1000) :
    ∃ c' page, page = (logAfter c w.log).take limit.toNat ∧
      getRuntimeEvents w.store.db req.runId c limit =
        .ok (page.map fun row => ⟨req.runId, row⟩) ∧
      validateRuntimeEventBatch req.rendering (page.map fun row => ⟨req.runId, row⟩) req.runId c =
        .ok c' := by
  have hpage : ∀ row ∈ (logAfter c w.log).take limit.toNat, row ∈ w.log ∧ c < row.sequence :=
    fun row hrow => Cursors.mem_after.1 (List.mem_of_mem_take hrow)
  have hsorted : Cursors.Sorted RuntimeEventRow.sequence ((logAfter c w.log).take limit.toNat) :=
    (h.sorted.after c).sublist (List.take_sublist _ _)
  obtain ⟨c', hvalid⟩ := validateRuntimeEventBatch_ok hsorted (fun row hrow => (hpage row hrow).2)
    fun row hrow => ha.safe row (hpage row hrow).1
  refine ⟨c', _, rfl, ?_, hvalid⟩
  rw [ha.run]
  exact getRuntimeEvents_eq h.logs.timeline c hlimit

/-- The stream and the browser alone lead from one state to another. -/
def ReadsOn (req : StreamRequest) (w w' : StreamWorld) : Prop :=
  w'.store = w.store ∧ ∃ es, Runs.Run (streamStep req) w es w' ∧
    ∀ e ∈ es, e.input.byReader = true

theorem ReadsOn.refl (req : StreamRequest) (w : StreamWorld) : ReadsOn req w w :=
  ⟨rfl, [], .nil w, by simp⟩

theorem ReadsOn.trans {w'' : StreamWorld} (h : ReadsOn req w w') (h' : ReadsOn req w' w'') :
    ReadsOn req w w'' := by
  obtain ⟨hstore, es, hrun, hreader⟩ := h
  obtain ⟨hstore', es', hrun', hreader'⟩ := h'
  refine ⟨hstore'.trans hstore, es ++ es', hrun.append hrun', fun e he => ?_⟩
  rcases List.mem_append.1 he with he | he
  · exact hreader e he
  · exact hreader' e he

theorem ReadsOn.step {action : StreamAction} (hstep : streamStep req w action answer w')
    (hreader : action.byReader = true) (hstore : w'.store = w.store) : ReadsOn req w w' :=
  ⟨hstore, _, .cons hstep (.nil w'), by simpa using hreader⟩

theorem ReadsOn.follows (hcursor : resolveEventCursor req.afterSequence req.lastEventId = .ok c₀)
    (h : ReadsOn req w w') (hw : w.Follows req c₀) : w'.Follows req c₀ := by
  obtain ⟨-, es, hrun, -⟩ := h
  exact hrun.invariant (fun _ _ _ _ hI hstep => hI.step hcursor hstep) hw

theorem ReadsOn.accepts (h : ReadsOn req w w') (ha : w.Accepts req) : w'.Accepts req := by
  obtain ⟨hstore, -⟩ := h
  refine ⟨?_, ha.initial, ha.batch, ?_⟩
  · rw [hstore]
    exact ha.run
  · show ∀ row ∈ w'.store.db.timeline.rows, _
    rw [hstore]
    exact ha.safe

/-- The messages on the wire arrive. -/
theorem receives {cursor : ℕ} {pending : List PersistedRuntimeEvent} {wire : List SseMessage}
    (hstream : w.stream = some ⟨cursor, pending, wire⟩) :
    ReadsOn req w { w with
      delivered := w.delivered ++ wire, stream := some ⟨cursor, pending, []⟩ } := by
  induction wire generalizing w with
  | nil =>
    have hsame : ({ w with
        delivered := w.delivered ++ [], stream := some ⟨cursor, pending, []⟩ } : StreamWorld) =
        w := by
      rw [List.append_nil, ← hstream]
    rw [hsame]
    exact .refl req w
  | cons message wire ih =>
    have hstep : streamStep req w .receive (.ok ()) { w with
        delivered := w.delivered ++ [message], stream := some ⟨cursor, pending, wire⟩ } := by
      simp only [streamStep, StreamAction.perform, hstream]
    refine (ReadsOn.step hstep rfl rfl).trans ?_
    have hrest := ih (w := { w with
      delivered := w.delivered ++ [message], stream := some ⟨cursor, pending, wire⟩ }) rfl
    simpa using hrest

/-- **The first pending event is sent and received.** -/
theorem delivers {cursor : ℕ} {row : RuntimeEventRow RunContent}
    {rest : List PersistedRuntimeEvent}
    (hstream : w.stream = some ⟨cursor, ⟨req.runId, row⟩ :: rest, []⟩)
    (hnew : cursor < row.sequence) (hsafe : req.Safe row) :
    ReadsOn req w { w with
      delivered := w.delivered ++ [req.message row], stream := some ⟨row.sequence, rest, []⟩ } := by
  have hmonotone : ¬((⟨req.runId, row⟩ : PersistedRuntimeEvent).sequence ≤ cursor) :=
    Nat.not_le.2 hnew
  have hsend : EventStream.send req ⟨cursor, ⟨req.runId, row⟩ :: rest, []⟩ ⟨req.runId, row⟩ rest =
      .ok ⟨row.sequence, rest, [req.message row]⟩ := by
    simp only [EventStream.send, encodeRuntimeEvent, assertBrowserSafe,
      Raising.raiseIf_of_not hmonotone, Raising.raiseIf_of_not (Nat.not_lt.2 hsafe.2), hsafe.1,
      Raising.ok_bind]
    rfl
  have hstep : streamStep req w .send (.ok ())
      { w with stream := some ⟨row.sequence, rest, [req.message row]⟩ } := by
    simp only [streamStep, StreamAction.perform, hstream, hsend, StreamWorld.continue]
  exact (ReadsOn.step hstep rfl rfl).trans (receives rfl)

/-- **While something is left, the reader gets one more event.** -/
theorem one_more (h : w.Follows req c₀) (ha : w.Accepts req) {cursor : ℕ}
    {pending : List PersistedRuntimeEvent} (hstream : w.stream = some ⟨cursor, pending, []⟩)
    {row : RuntimeEventRow RunContent} {others : List (RuntimeEventRow RunContent)}
    (hleft : logAfter cursor w.log = row :: others) :
    ∃ w' rest, ReadsOn req w w' ∧ w'.stream = some ⟨row.sequence, rest, []⟩ := by
  have hrow : row ∈ w.log ∧ cursor < row.sequence :=
    Cursors.mem_after.1 (show row ∈ logAfter cursor w.log by rw [hleft]; exact List.mem_cons_self)
  cases pending with
  | cons event rest =>
    obtain ⟨seen, position, -, -, hahead⟩ := h.read
    obtain ⟨flying, batch, -, -, hpending, hbatch⟩ := hahead _ hstream
    cases batch with
    | nil => cases hpending
    | cons first batch =>
      rw [show logAfter cursor w.log = row :: others from hleft, List.cons_prefix_cons] at hbatch
      obtain ⟨hevent, -⟩ := List.cons.inj hpending
      rw [hevent, hbatch.1] at hstream
      exact ⟨_, rest, delivers hstream hrow.2 (ha.safe row hrow.1), rfl⟩
  | nil =>
    obtain ⟨c', page, hpage, hread, hvalid⟩ := ha.page h cursor ha.batch
    have hpositive : ∃ n, req.batchLimit.toNat = n + 1 :=
      ⟨req.batchLimit.toNat - 1, by have := ha.batch.1; omega⟩
    obtain ⟨n, hn⟩ := hpositive
    have hcons : page = row :: others.take n := by
      rw [hpage, hleft, hn, List.take_succ_cons]
    have hpoll : EventStream.poll req ⟨cursor, [], []⟩ w.store.db = .ok
        ⟨cursor, page.map fun row => ⟨req.runId, row⟩, []⟩ := by
      simp only [EventStream.poll, hread, hvalid, Raising.ok_bind]
      rfl
    have hstep : streamStep req w .poll (.ok ())
        { w with stream := some ⟨cursor, page.map fun row => ⟨req.runId, row⟩, []⟩ } := by
      simp only [streamStep, StreamAction.perform, hstream, hpoll, StreamWorld.continue]
    rw [hcons, List.map_cons] at hstep
    exact ⟨_, _, (ReadsOn.step hstep rfl rfl).trans
      (delivers rfl hrow.2 (ha.safe row hrow.1)), rfl⟩

/-- The log after the initial cursor has been delivered. -/
def Complete (req : StreamRequest) (c₀ : ℕ) (w : StreamWorld) : Prop :=
  w.delivered = (logAfter c₀ w.log).map req.message

/-- **A connection that has nothing to send and nothing to read has delivered
everything.** -/
theorem Follows.complete (h : w.Follows req c₀) {cursor : ℕ}
    {pending : List PersistedRuntimeEvent} (hstream : w.stream = some ⟨cursor, pending, []⟩)
    (hnone : logAfter cursor w.log = []) : w.Complete req c₀ := by
  obtain ⟨seen, position, hdelivered, hreads, hahead⟩ := h.read
  obtain ⟨flying, batch, hwire, hflying, -, -⟩ := hahead _ hstream
  have hempty : flying = [] := List.map_eq_nil_iff.1 hwire.symm
  subst hempty
  have hposition : cursor = position := hflying.cursor
  rw [Complete, hdelivered, hreads.complete (hposition ▸ hnone)]
  rfl

/-- **An open connection delivers everything.** -/
theorem drains (hcursor : resolveEventCursor req.afterSequence req.lastEventId = .ok c₀)
    (h : w.Follows req c₀) (ha : w.Accepts req) {cursor : ℕ}
    {pending : List PersistedRuntimeEvent} (hstream : w.stream = some ⟨cursor, pending, []⟩) :
    ∃ w', ReadsOn req w w' ∧ w'.Complete req c₀ := by
  -- The induction is on the number of events after the cursor.
  induction hleft : logAfter cursor w.log generalizing w cursor pending with
  | nil => exact ⟨w, .refl req w, h.complete hstream hleft⟩
  | cons row others ih =>
    obtain ⟨w', rest, hmore, hstream'⟩ := one_more h ha hstream hleft
    have hlog : w'.log = w.log := by
      show w'.store.db.timeline.rows = _
      rw [hmore.1]
      rfl
    have hothers : logAfter row.sequence w'.log = others := by
      rw [hlog]
      exact h.sorted.after_head hleft
    obtain ⟨w'', hdrain, hcomplete⟩ := ih (hmore.follows hcursor h) (hmore.accepts ha) hstream'
      hothers
    exact ⟨w'', hmore.trans hdrain, hcomplete⟩

/-- **Whatever happened, the stream and the browser alone can deliver everything.** -/
theorem Follows.delivers_all
    (hcursor : resolveEventCursor req.afterSequence req.lastEventId = .ok c₀)
    (h : w.Follows req c₀) (ha : w.Accepts req) : ∃ w', ReadsOn req w w' ∧ w'.Complete req c₀ := by
  cases hstream : w.stream with
  | some stream =>
    obtain ⟨cursor, pending, wire⟩ := stream
    have hreceived : ReadsOn req w _ := receives hstream
    obtain ⟨w', hdrain, hcomplete⟩ := drains hcursor (hreceived.follows hcursor h)
      (hreceived.accepts ha) rfl
    exact ⟨w', hreceived.trans hdrain, hcomplete⟩
  | none =>
    obtain ⟨seen, position, hdelivered, hreads, -⟩ := h.read
    obtain ⟨c', page, -, hread, hvalid⟩ := ha.page h position ha.initial
    have hbatch : ¬(req.batchLimit < 1 ∨ 1000 < req.batchLimit) := by
      have := ha.batch
      omega
    have hopen : openStream req w.store.db (w.lastEventId req) =
        .ok ⟨position, page.map fun row => ⟨req.runId, row⟩, []⟩ := by
      simp only [openStream, lastEventId_resolves hcursor h hdelivered hreads, hread, hvalid,
        Raising.raiseIf_of_not hbatch, Raising.ok_bind]
      rfl
    have hstep : streamStep req w .connect (.ok ())
        { w with stream := some ⟨position, page.map fun row => ⟨req.runId, row⟩, []⟩ } := by
      simp only [streamStep, StreamAction.perform, hstream, hopen, StreamWorld.continue]
    have hconnected : ReadsOn req w _ := ReadsOn.step hstep rfl rfl
    obtain ⟨w', hdrain, hcomplete⟩ := drains hcursor (hconnected.follows hcursor h)
      (hconnected.accepts ha) rfl
    exact ⟨w', hconnected.trans hdrain, hcomplete⟩

end StreamWorld

/-- **The stream neither misses nor repeats an event.**  Transactions begin, commit
and roll back in any order, the stream polls and sends whenever it likes, with any
limits, and the browser loses its connection and comes back any number of times.
At every moment the events of the run are numbered without a gap, and the messages
that were received are, in order, the events after the initial cursor up to some
point.  When a poll of a connection with nothing in transit comes back empty they
are all of them; and from every state the stream and the browser alone lead to
that. -/
theorem runtime_event_stream_exact {req : StreamRequest} {c₀ : ℕ} {w₀ w : StreamWorld}
    {es : List (Runs.Event StreamWorld StreamAction (Except Failure Unit))} (h₀ : w₀.Fresh)
    (hcursor : resolveEventCursor req.afterSequence req.lastEventId = .ok c₀)
    (hrun : Runs.Run (streamStep req) w₀ es w) :
    w.log.map RuntimeEventRow.sequence = List.range' 1 w.log.length ∧
    (∃ seen rest, logAfter c₀ w.log = seen ++ rest ∧ w.delivered = seen.map req.message) ∧
    (∀ cursor, w.stream = some ⟨cursor, [], []⟩ →
      getRuntimeEvents w.store.db req.runId cursor req.batchLimit = .ok [] →
      w.delivered = (logAfter c₀ w.log).map req.message) ∧
    (w.Accepts req → ∃ w', StreamWorld.ReadsOn req w w' ∧ w'.log = w.log ∧
      w'.delivered = (logAfter c₀ w.log).map req.message) := by
  have h : w.Follows req c₀ :=
    hrun.invariant (fun _ _ _ _ hI hstep => hI.step hcursor hstep) h₀.follows
  refine ⟨h.logs.timeline.numbered, ?_, ?_, ?_⟩
  · obtain ⟨seen, position, hdelivered, hreads, -⟩ := h.read
    exact ⟨seen, logAfter position w.log, hreads.split, hdelivered⟩
  · intro cursor hstream hpoll
    obtain ⟨-, hlimit, hpage⟩ := getRuntimeEvents_eq_ok h.logs.timeline hpoll
    refine h.complete hstream ?_
    have htake := List.map_eq_nil_iff.1 hpage.symm
    rcases List.take_eq_nil_iff.1 htake with hzero | hnone
    · omega
    · exact hnone
  · intro ha
    obtain ⟨w', hreads, hcomplete⟩ := h.delivers_all hcursor ha
    have hlog : w'.log = w.log := by
      show w'.store.db.timeline.rows = _
      rw [hreads.1]
      rfl
    rw [StreamWorld.Complete, hlog] at hcomplete
    exact ⟨w', hreads, hlog, hcomplete⟩

/-- A stream of the whole log that reads one event at a time. -/
def narrowStream : StreamRequest where
  runId := ⟨1⟩
  afterSequence := 0
  lastEventId := none
  initialLimit := 1
  batchLimit := 1
  rendering := {
    browserSafe := fun _ => true
    payload := fun event => "\x7b\"sequence\":" ++ toString event.sequence ++ "\x7d" }

/-- The browser of a run that was just started, before it connects. -/
def unreadRun : StreamWorld where
  store := startedRun
  transaction := none
  delivered := []
  stream := none

/-- A lease is acquired while the browser reads; the message of that event is lost
with the first connection. -/
def reconnectActions : List StreamAction :=
  [.connect, .send, .begin (.worker (.acquire ⟨101⟩ ⟨1⟩ "build" "worker-a" ⟨11⟩ 30)), .receive,
    .poll, .commit, .poll, .send, .disconnect, .connect, .send, .receive]

/-- After the reconnect the browser has received the messages 1 and 2. -/
theorem runtime_event_stream_exact_reconnect :
    unreadRun.Fresh ∧ ∃ es w, Runs.Run (streamStep narrowStream) unreadRun es w ∧
      w.delivered.map SseMessage.id = ["1", "2"] ∧
      w.log.map RuntimeEventRow.sequence = List.range' 1 w.log.length := by
  have hstarted : startedRun.Started := startedRun_started
  have hfresh : unreadRun.Fresh := ⟨hstarted, rfl, rfl, rfl⟩
  have hids : (Runs.exec (StreamAction.perform narrowStream) unreadRun reconnectActions).map
      (fun r => r.2.delivered.map SseMessage.id) = some ["1", "2"] := by
    decide +kernel
  obtain ⟨⟨es, w⟩, hexec, hw⟩ := Option.map_eq_some_iff.1 hids
  have hrun := Runs.run_of_exec hexec
  have hcursor : resolveEventCursor narrowStream.afterSequence narrowStream.lastEventId =
      .ok 0 := by
    decide +kernel
  exact ⟨hfresh, es, w, hrun, hw, (runtime_event_stream_exact hfresh hcursor hrun).1⟩

end DevFlow
