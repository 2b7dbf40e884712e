/-
# Dispatch, delivery and execution of tasks

`dispatch/durable.py` (`DurableDramatiqTaskDispatcher`), `runtime/reconciler.py`
(`IdempotentTaskReconciler`) and the workers that take the messages, over the
stores of `Persistence`.

Everybody is a process of its own: a dispatcher writes the first attempt of a
task and then calls the broker, a reconciler prepares an attempt and publishes
it inside the guard, and each may stop before the call of the broker, after it,
or before it has recorded the outcome.  The broker may accept a message it
reports as failed, and delivers what it accepted at most once, at any time.  A
worker acquires the task of its message, renews, writes its evidence and
releases.  `Delivery.perform` is one step of any of them.
-/

import DevFlow.Library.Runs
import DevFlow.Persistence.Ledger

namespace DevFlow

variable {X : Type}

/-- `TaskDispatchEnvelope` of the run. -/
structure Message where
  taskId : String
  dispatchId : UUID
deriving DecidableEq, Repr

/-- A worker whose acquire returned; `executed` when its terminal evidence was
accepted. -/
structure Holder where
  message : Message
  ownerId : String
  token : UUID
  executed : Bool
deriving DecidableEq, Repr

/-- The state of the database, of the broker and of the processes. -/
structure DeliveryWorld (X : Type) where
  db : Database X
  now : Timestamp
  /-- First attempts whose dispatcher has not called the broker yet. -/
  dispatching : List Message
  /-- Prepared attempts whose reconciler has not entered the guard yet. -/
  prepared : List Message
  /-- Messages that the broker accepted and has not delivered. -/
  inFlight : List Message
  /-- Every call of the broker so far. -/
  sent : List Message
  /-- Outcomes of a dispatcher's call that are not recorded yet. -/
  observed : List (Message × PublicationOutcome)
  holders : List Holder
  /-- Every token that was installed. -/
  tokens : List UUID

/-- What becomes of a process that is to call `actor.send`: it stops before the
call, or it calls, and then observes an outcome or stops. -/
inductive SendResult
  | stopped
  | called (accepted : Bool) (outcome : Option PublicationOutcome)
deriving DecidableEq, Repr

/-- A step of one of the processes. -/
inductive Delivery (X : Type)
  /-- `dispatch` up to `begin_initial_attempt`. -/
  | dispatch (taskId : String) (dispatchId : UUID)
  /-- The dispatcher's call of the broker. -/
  | send (message : Message) (result : SendResult)
  /-- `mark_enqueued` or `mark_publish_failed` of the dispatcher. -/
  | record (message : Message) (outcome : PublicationOutcome)
  /-- `prepare_task`. -/
  | prepare (taskId : String) (freshId : UUID)
  /-- The guarded publication; the call of the broker takes `elapsed`. -/
  | publish (message : Message) (result : SendResult) (elapsed : ℕ)
  /-- A delivery, with the acquire of the worker. -/
  | acquire (message : Message) (ownerId : String) (token : UUID) (leaseSeconds : ℚ)
  | renew (holder : Holder) (leaseSeconds : ℚ)
  | release (holder : Holder)
  | receive (holder : Holder)
  | execute (holder : Holder) (evidence : WorkerExecutionEvidence X)
  | complete (holder : Holder) (outcome : ExecutionStatus)
  /-- Any other evidence. -/
  | append (evidenceKey : String) (kind : EvidenceKind) (payload : Payload X)
      (taskId stage : Option String) (sequence : Option ℤ) (runToken : Option UUID)
  | tick (elapsed : ℕ)
  | otherRuns (ids : ℕ)

/-- `DurableDramatiqTaskDispatcher.dispatch` up to the call of the broker. -/
def dispatchTask (db : Database X) (now : Timestamp) (dispatchId : UUID) (taskId : String) :
    Except Failure (Bool × Database X) := do
  Raising.raiseIf (db.status ≠ .running)
    ⟨.taskDispatchRejected, "only persisted RUNNING runs may dispatch tasks"⟩
  Raising.raiseIf (taskId ∉ db.taskIds)
    ⟨.taskDispatchRejected, "task '" ++ taskId ++ "' does not belong to persisted run " ++
      db.runId.str⟩
  let ((attempt, created), db') ← beginInitialAttempt db now dispatchId db.runId taskId
  Raising.raiseIf (created = false ∧ attempt.state.value ≠ "ENQUEUED")
    ⟨.taskDispatchRejected,
      "durable dispatch attempt is unresolved or failed; recovery must decide any retry"⟩
  return (created, db')

/-- The broker is called with `message`. -/
def DeliveryWorld.handOver (w : DeliveryWorld X) (message : Message) (accepted : Bool) :
    DeliveryWorld X :=
  { w with
    sent := w.sent ++ [message]
    inFlight := if accepted then w.inFlight ++ [message] else w.inFlight }

/-- The `RECEIVED` and `COMPLETED` events of `_record_dispatch_event`. -/
def phaseEvent (db : Database X) (message : Message) (outcome : Option ExecutionStatus) :
    WorkerDispatchEvent where
  dispatchId := message.dispatchId
  runId := db.runId
  taskId := message.taskId
  phase := if outcome = none then .received else .completed
  outcome := outcome
  received_outcome := DispatchPhase.received_outcome outcome
  completed_outcome := DispatchPhase.completed_outcome outcome

/-- A transaction of the run: the database is replaced, or nothing is. -/
def DeliveryWorld.commit (w : DeliveryWorld X) (outcome : Except Failure (Database X)) :
    Except Failure Unit × DeliveryWorld X :=
  match outcome with
  | .ok db => (.ok (), { w with db })
  | .error failure => (.error failure, w)

variable [DecidableEq X]

/-- A worker's append under its token. -/
def workerAppend (db : Database X) (now : Timestamp) (holder : Holder)
    (phase : Option DispatchPhase) (kind : EvidenceKind) (payload : Payload X) :
    Except Failure (Database X) :=
  (appendEvidence db now db.runId (workerEvidenceKey (holder.message.dispatchId, phase)) kind
    payload (some holder.message.taskId) (some "worker") none (some holder.token)).map Prod.snd

/-- One step.  `uuid4()` returns no id of an attempt and no token that was there
before; a worker writes evidence only for a task that its run has, which
`_task_from_snapshot` checks. -/
def Delivery.perform (w : DeliveryWorld X) :
    Delivery X → Option (Except Failure Unit × DeliveryWorld X)
  | .dispatch taskId dispatchId =>
    match dispatchTask w.db w.now dispatchId taskId with
    | .ok (true, db) =>
      some (.ok (), { w with db, dispatching := w.dispatching ++ [⟨taskId, dispatchId⟩] })
    | .ok (false, db) => some (.ok (), { w with db })
    | .error failure => some (.error failure, w)
  | .send message result =>
    if message ∉ w.dispatching then none
    else
      let w := { w with dispatching := w.dispatching.erase message }
      match result with
      | .stopped => some (.ok (), w)
      | .called accepted none => some (.ok (), w.handOver message accepted)
      | .called accepted (some outcome) =>
        some (.ok (), { w.handOver message accepted with
          observed := w.observed ++ [(message, outcome)] })
  | .record message outcome =>
    if (message, outcome) ∉ w.observed then none
    else
      let w := { w with observed := w.observed.erase (message, outcome) }
      some (w.commit (match outcome with
        | .enqueued brokerMessageId queueName =>
          markEnqueued w.db w.now message.dispatchId w.db.runId message.taskId brokerMessageId
            queueName
        | .failed errorCode errorMessage =>
          markPublishFailed w.db w.now message.dispatchId w.db.runId message.taskId errorCode
            errorMessage))
  | .prepare taskId freshId =>
    if freshId ∈ w.db.attempts.map DispatchAttemptRow.dispatchId then none
    else match prepareTask w.db w.now freshId w.db.runId taskId with
      | .ok (decision, db) =>
        some (.ok (), { w with
          db
          prepared := if decision.action = .preparedDispatch then
              w.prepared ++ [⟨taskId, freshId⟩]
            else w.prepared })
      | .error failure => some (.error failure, w)
  | .publish message result elapsed =>
    if message ∉ w.prepared then none
    else
      let w := { w with prepared := w.prepared.erase message }
      match guardPreparedPublication w.db w.now w.db.runId message.taskId message.dispatchId with
      | .error failure => some (.error failure, w)
      | .ok target =>
        match result with
        | .stopped => some (.ok (), w)
        | .called accepted none => some (.ok (), w.handOver message accepted)
        | .called accepted (some outcome) =>
          let w := { w.handOver message accepted with now := w.now + elapsed }
          some (w.commit (markPublication w.db w.now target outcome))
  | .acquire message ownerId token leaseSeconds =>
    if message ∉ w.inFlight ∨ token ∈ w.tokens then none
    else
      let w := { w with inFlight := w.inFlight.erase message }
      match acquireTaskLease w.db w.now token w.db.runId message.taskId ownerId message.dispatchId
          leaseSeconds with
      | .ok (_, db) =>
        some (.ok (), { w with
          db
          holders := w.holders ++ [⟨message, ownerId, token, false⟩]
          tokens := token :: w.tokens })
      | .error failure => some (.error failure, w)
  | .renew holder leaseSeconds =>
    if holder ∉ w.holders then none
    else some (w.commit ((renewTaskLease w.db w.now w.db.runId holder.message.taskId
      holder.ownerId holder.message.dispatchId holder.token leaseSeconds).map Prod.snd))
  | .release holder =>
    if holder ∉ w.holders then none
    else some (w.commit ((releaseTaskLease w.db w.now w.db.runId holder.message.taskId
      holder.ownerId holder.message.dispatchId holder.token).map Prod.snd))
  | .receive holder =>
    if holder ∉ w.holders ∨ holder.message.taskId ∉ w.db.taskIds then none
    else some (w.commit (workerAppend w.db w.now holder (some .received) .dispatchEvent
      (.dispatchEvent (phaseEvent w.db holder.message none))))
  | .execute holder evidence =>
    if holder ∉ w.holders ∨ holder.message.taskId ∉ w.db.taskIds ∨
        evidence.dispatchId ≠ holder.message.dispatchId ∨ evidence.runId ≠ w.db.runId ∨
        evidence.taskId ≠ holder.message.taskId then none
    else match workerAppend w.db w.now holder none .workerExecution (.workerExecution evidence) with
      | .ok db =>
        some (.ok (), { w with
          db
          holders := w.holders.map fun h => if h = holder then { h with executed := true } else h })
      | .error failure => some (.error failure, w)
  | .complete holder outcome =>
    if holder ∉ w.holders ∨ holder.message.taskId ∉ w.db.taskIds ∨ holder.executed = false then
      none
    else some (w.commit (workerAppend w.db w.now holder (some .completed) .dispatchEvent
      (.dispatchEvent (phaseEvent w.db holder.message (some outcome)))))
  | .append evidenceKey kind payload taskId stage sequence runToken =>
    if kind = .workerExecution ∨ kind = .dispatchEvent then none
    else some (w.commit ((appendEvidence w.db w.now w.db.runId evidenceKey kind payload taskId
      stage sequence runToken).map Prod.snd))
  | .tick elapsed => some (.ok (), { w with now := w.now + elapsed })
  | .otherRuns ids =>
    some (.ok (), { w with
      db := { w.db with evidenceSequence := w.db.evidenceSequence + ids } })

/-- The transition system. -/
def deliveryStep (w : DeliveryWorld X) (d : Delivery X) (answer : Except Failure Unit)
    (w' : DeliveryWorld X) : Prop :=
  d.perform w = some (answer, w')

/-- **What one step may write.** -/
inductive StepWrites (w : DeliveryWorld X) : Database X → Prop
  | nothing : StepWrites w w.db
  | attempt (row : DispatchAttemptRow) : StepWrites w (w.db.insertAttempt row)
  | outcome (d : UUID) (state : AttemptState) (updatedAt : Timestamp) :
      StepWrites w (w.db.updateAttempt d fun row => { row with state, updatedAt })
  | acquired (t : String) (lease : Lease) (timeline : Timeline X)
      (hdispatch : ∃ m ∈ w.inFlight, strip m.taskId = t ∧ ∀ old, w.db.lease t = some old →
        old.releasedAt = none ∧ old.dispatchId ≠ m.dispatchId) :
      StepWrites w { w.db.setLease t lease with timeline }
  | touched (t : String) (lease lease' : Lease) (timeline : Timeline X)
      (hlease : w.db.lease t = some lease) (hlive : lease.Live w.now)
      (hdispatch : lease'.dispatchId = lease.dispatchId) :
      StepWrites w { w.db.setLease t lease' with timeline }
  | evidence (row : EvidenceRow X) (timeline : Timeline X) :
      StepWrites w (w.db.insertEvidence row timeline)
  | ids (n : ℕ) : StepWrites w { w.db with evidenceSequence := w.db.evidenceSequence + n }

/-- The message that the broker accepts in the step. -/
def Delivery.publishes : Delivery X → Option Message
  | .send message (.called true _) => some message
  | .publish message (.called true _) _ => some message
  | _ => none

/-- What one step does to the tables, the clock and the broker. -/
structure StepEffect (w : DeliveryWorld X) (d : Delivery X) (w' : DeliveryWorld X) : Prop where
  writes : StepWrites w w'.db
  clock : w.now ≤ w'.now
  messages : ∀ m ∈ w'.inFlight, m ∈ w.inFlight ∨ d.publishes = some m

section Effect

variable {w w' : DeliveryWorld X} {answer : Except Failure Unit}

omit [DecidableEq X] in
theorem StepWrites.of_appended {evidenceKey : String} {kind : EvidenceKind} {payload : Payload X}
    {taskId stage : Option String} {sequence : Option ℤ} {id : ℕ} {db : Database X}
    (h : Appended w.db evidenceKey kind payload taskId stage sequence id db) : StepWrites w db := by
  rcases h with ⟨_, -, -, -, -, rfl⟩ | ⟨-, timeline, -, rfl⟩
  · exact .nothing
  · exact .evidence _ _

theorem StepWrites.of_workerAppend {holder : Holder} {phase : Option DispatchPhase}
    {kind : EvidenceKind} {payload : Payload X} {db : Database X}
    (h : workerAppend w.db w.now holder phase kind payload = .ok db) : StepWrites w db := by
  obtain ⟨id, happend⟩ := Raising.map_snd_eq_ok.1 h
  exact .of_appended (appendEvidence_eq_ok happend).2.2.2

omit [DecidableEq X] in
theorem StepWrites.of_resolve {dispatchId runId : UUID} {taskName : String}
    {repeats : AttemptState → Option Bool} {differs rewrites : String} {resolved : AttemptState}
    {db : Database X}
    (h : resolveAttempt w.db w.now dispatchId runId taskName repeats differs rewrites resolved =
      .ok db) : StepWrites w db := by
  rcases resolveAttempt_eq_ok h with rfl | ⟨row, -, -, -, -, rfl⟩
  · exact .nothing
  · exact .outcome _ _ _

omit [DecidableEq X] in
/-- What the broker has accepted after a call. -/
theorem handOver_messages {d : Delivery X} {message : Message} {accepted : Bool}
    (hpublishes : d.publishes = if accepted then some message else none) :
    ∀ m ∈ (w.handOver message accepted).inFlight, m ∈ w.inFlight ∨ d.publishes = some m := by
  intro m hm
  cases accepted with
  | false => exact Or.inl hm
  | true =>
    rcases List.mem_append.1 hm with hm | hm
    · exact Or.inl hm
    · obtain rfl := List.mem_singleton.1 hm
      exact Or.inr hpublishes

omit [DecidableEq X] in
/-- A transaction that writes what a step may write. -/
theorem StepEffect.of_commit {w₁ : DeliveryWorld X} {d : Delivery X}
    {outcome : Except Failure (Database X)} (hdb : w₁.db = w.db) (hclock : w.now ≤ w₁.now)
    (hmessages : ∀ m ∈ w₁.inFlight, m ∈ w.inFlight ∨ d.publishes = some m)
    (hwrites : ∀ db, outcome = .ok db → StepWrites w db) : StepEffect w d (w₁.commit outcome).2 := by
  cases outcome with
  | ok db => exact ⟨hwrites db rfl, hclock, hmessages⟩
  | error failure => exact ⟨hdb ▸ .nothing, hclock, hmessages⟩

omit [DecidableEq X] in
theorem dispatchTask_writes {dispatchId : UUID} {taskId : String} {created : Bool}
    {db : Database X} (h : dispatchTask w.db w.now dispatchId taskId = .ok (created, db)) :
    StepWrites w db := by
  simp only [dispatchTask, Raising.bind_eq_ok, Raising.pure_eq_ok, Prod.mk.injEq] at h
  obtain ⟨_, _, _, _, ⟨⟨row, created⟩, db'⟩, hbegin, _, _, rfl, rfl⟩ := h
  rcases beginInitialAttempt_eq_ok hbegin with ⟨-, rfl⟩ | ⟨-, -, -, -, -, -, -, rfl⟩
  · exact .nothing
  · exact .attempt _

/-- **Every step has such an effect.** -/
theorem deliveryStep_effect {d : Delivery X} (hstep : deliveryStep w d answer w') :
    StepEffect w d w' := by
  have hold : ∀ m ∈ w.inFlight, m ∈ w.inFlight ∨ d.publishes = some m := fun _ hm => Or.inl hm
  unfold deliveryStep at hstep
  cases d with
  | dispatch taskId dispatchId =>
    simp only [Delivery.perform] at hstep
    split at hstep
    · rename_i db hdispatch
      obtain ⟨-, rfl⟩ := Prod.mk.inj (Option.some.inj hstep)
      exact ⟨dispatchTask_writes hdispatch, le_rfl, hold⟩
    · rename_i db hdispatch
      obtain ⟨-, rfl⟩ := Prod.mk.inj (Option.some.inj hstep)
      exact ⟨dispatchTask_writes hdispatch, le_rfl, hold⟩
    · obtain ⟨-, rfl⟩ := Prod.mk.inj (Option.some.inj hstep)
      exact ⟨.nothing, le_rfl, hold⟩
  | send message result =>
    simp only [Delivery.perform] at hstep
    split at hstep
    · cases hstep
    rcases result with _ | ⟨accepted, outcome⟩
    · obtain ⟨-, rfl⟩ := Prod.mk.inj (Option.some.inj hstep)
      exact ⟨.nothing, le_rfl, hold⟩
    · have hmessages : ∀ m ∈ (w.handOver message accepted).inFlight, m ∈ w.inFlight ∨
          (Delivery.send message (.called accepted outcome) : Delivery X).publishes = some m :=
        handOver_messages (by cases accepted <;> rfl)
      rcases outcome with _ | outcome <;>
        obtain ⟨-, rfl⟩ := Prod.mk.inj (Option.some.inj hstep) <;>
        exact ⟨.nothing, le_rfl, hmessages⟩
  | record message outcome =>
    simp only [Delivery.perform] at hstep
    split at hstep
    · cases hstep
    · obtain rfl := congrArg Prod.snd (Option.some.inj hstep)
      refine StepEffect.of_commit rfl le_rfl hold fun db hdb => ?_
      cases outcome with
      | enqueued brokerMessageId queueName =>
        simp only [markEnqueued, Raising.bind_eq_ok] at hdb
        obtain ⟨_, _, _, _, _, _, hresolve⟩ := hdb
        exact .of_resolve hresolve
      | failed errorCode errorMessage =>
        simp only [markPublishFailed, Raising.bind_eq_ok] at hdb
        obtain ⟨_, _, _, _, _, _, hresolve⟩ := hdb
        exact .of_resolve hresolve
  | prepare taskId freshId =>
    simp only [Delivery.perform] at hstep
    split at hstep
    · cases hstep
    split at hstep
    · rename_i dec db hprepare
      obtain ⟨-, rfl⟩ := Prod.mk.inj (Option.some.inj hstep)
      refine ⟨?_, le_rfl, hold⟩
      rcases (prepareTask_eq_ok hprepare).2 with rfl | ⟨row, rfl⟩
      · exact .nothing
      · exact .attempt row
    · obtain ⟨-, rfl⟩ := Prod.mk.inj (Option.some.inj hstep)
      exact ⟨.nothing, le_rfl, hold⟩
  | publish message result elapsed =>
    simp only [Delivery.perform] at hstep
    split at hstep
    · cases hstep
    split at hstep
    · obtain ⟨-, rfl⟩ := Prod.mk.inj (Option.some.inj hstep)
      exact ⟨.nothing, le_rfl, hold⟩
    rcases result with _ | ⟨accepted, outcome⟩
    · obtain ⟨-, rfl⟩ := Prod.mk.inj (Option.some.inj hstep)
      exact ⟨.nothing, le_rfl, hold⟩
    · have hmessages : ∀ m ∈ (w.handOver message accepted).inFlight, m ∈ w.inFlight ∨
          (Delivery.publish message (.called accepted outcome) elapsed :
            Delivery X).publishes = some m := handOver_messages (by cases accepted <;> rfl)
      rcases outcome with _ | outcome
      · obtain ⟨-, rfl⟩ := Prod.mk.inj (Option.some.inj hstep)
        exact ⟨.nothing, le_rfl, hmessages⟩
      · obtain rfl := congrArg Prod.snd (Option.some.inj hstep)
        refine StepEffect.of_commit rfl (by simp) hmessages
          fun db hdb => ?_
        simp only [markPublication, Raising.bind_eq_ok, Raising.pure_eq_ok] at hdb
        obtain ⟨state, -, _, -, rfl⟩ := hdb
        exact .outcome _ _ _
  | acquire message ownerId token leaseSeconds =>
    simp only [Delivery.perform] at hstep
    split at hstep
    · cases hstep
    rename_i hcond
    have hmessage := not_not.1 (not_or.1 hcond).1
    have herase : ∀ m ∈ w.inFlight.erase message, m ∈ w.inFlight ∨
        (Delivery.acquire message ownerId token leaseSeconds : Delivery X).publishes = some m :=
      fun m hm => Or.inl (List.mem_of_mem_erase hm)
    split at hstep
    · rename_i grant db hacquire
      obtain ⟨-, rfl⟩ := Prod.mk.inj (Option.some.inj hstep)
      obtain ⟨lease, timeline, hacquired, -, -, rfl⟩ := acquireTaskLease_eq_ok hacquire
      refine ⟨.acquired _ _ _ ⟨message, hmessage, rfl, fun old hlease => ?_⟩, le_rfl, herase⟩
      obtain ⟨hreleased, -, hdispatch⟩ := hacquired.vacant old hlease
      exact ⟨hreleased, hdispatch⟩
    · obtain ⟨-, rfl⟩ := Prod.mk.inj (Option.some.inj hstep)
      exact ⟨.nothing, le_rfl, herase⟩
  | renew holder leaseSeconds =>
    simp only [Delivery.perform] at hstep
    split at hstep
    · cases hstep
    obtain rfl := congrArg Prod.snd (Option.some.inj hstep)
    refine StepEffect.of_commit rfl le_rfl hold fun db hdb => ?_
    obtain ⟨shown, hrenew⟩ := Raising.map_snd_eq_ok.1 hdb
    obtain ⟨lease, until', timeline, hlease, -, -, hlive, -, rfl⟩ := renewTaskLease_eq_ok hrenew
    exact .touched _ lease _ _ hlease hlive rfl
  | release holder =>
    simp only [Delivery.perform] at hstep
    split at hstep
    · cases hstep
    obtain rfl := congrArg Prod.snd (Option.some.inj hstep)
    refine StepEffect.of_commit rfl le_rfl hold fun db hdb => ?_
    obtain ⟨shown, hrelease⟩ := Raising.map_snd_eq_ok.1 hdb
    obtain ⟨lease, hlease, -, -, ⟨-, rfl⟩ | ⟨hlive, timeline, rfl⟩⟩ :=
      releaseTaskLease_eq_ok hrelease
    · exact .nothing
    · exact .touched _ lease _ _ hlease hlive rfl
  | receive holder =>
    simp only [Delivery.perform] at hstep
    split at hstep
    · cases hstep
    obtain rfl := congrArg Prod.snd (Option.some.inj hstep)
    exact StepEffect.of_commit rfl le_rfl hold fun db hdb => .of_workerAppend hdb
  | execute holder evidence =>
    simp only [Delivery.perform] at hstep
    split at hstep
    · cases hstep
    split at hstep
    · rename_i db happend
      obtain ⟨-, rfl⟩ := Prod.mk.inj (Option.some.inj hstep)
      exact ⟨.of_workerAppend happend, le_rfl, hold⟩
    · obtain ⟨-, rfl⟩ := Prod.mk.inj (Option.some.inj hstep)
      exact ⟨.nothing, le_rfl, hold⟩
  | complete holder outcome =>
    simp only [Delivery.perform] at hstep
    split at hstep
    · cases hstep
    obtain rfl := congrArg Prod.snd (Option.some.inj hstep)
    exact StepEffect.of_commit rfl le_rfl hold fun db hdb => .of_workerAppend hdb
  | append evidenceKey kind payload taskId stage sequence runToken =>
    simp only [Delivery.perform] at hstep
    split at hstep
    · cases hstep
    obtain rfl := congrArg Prod.snd (Option.some.inj hstep)
    refine StepEffect.of_commit rfl le_rfl hold fun db hdb => ?_
    obtain ⟨id, happend⟩ := Raising.map_snd_eq_ok.1 hdb
    exact .of_appended (appendEvidence_eq_ok happend).2.2.2
  | tick elapsed =>
    obtain ⟨-, rfl⟩ := Prod.mk.inj (Option.some.inj hstep)
    exact ⟨.nothing, by simp, hold⟩
  | otherRuns ids =>
    obtain ⟨-, rfl⟩ := Prod.mk.inj (Option.some.inj hstep)
    exact ⟨.ids ids, le_rfl, hold⟩

end Effect

end DevFlow
