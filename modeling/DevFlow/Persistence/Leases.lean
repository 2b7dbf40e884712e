/-
# Task leases and the fence

`persistence/leases.py` (`PostgresTaskLeaseStore`), `persistence/fencing.py` and
`models/lease.py`.

Each operation is one transaction: it locks the run row, then the task row, then
reads the database clock.  The model is a function of the database and of that
clock reading, and a raised error is a rolled-back transaction.  The random
choice of `uuid4()` is an argument.

For each operation one lemma (`…_eq_ok`) says what a call that returned has
checked and written.
-/

import DevFlow.Persistence.Rows
import Mathlib.Data.Rat.Floor
import Mathlib.Algebra.Order.Round

namespace DevFlow

variable {X : Type}

/-- `TaskLeaseState`. -/
inductive LeaseState
  | unowned
  | active
  | expired
  | released
deriving DecidableEq, Repr

/-- The state of a lease row under a clock reading, as `_snapshot` derives it. -/
def leaseState (lease : Option Lease) (observedAt : Timestamp) : LeaseState :=
  match lease with
  | none => .unowned
  | some lease =>
    if lease.releasedAt ≠ none then .released
    else if lease.leaseUntil ≤ observedAt then .expired
    else .active

/-- `TaskLeaseSnapshot`; the token of the lease is not shown. -/
structure TaskLeaseSnapshot where
  runId : UUID
  taskId : String
  state : LeaseState
  generation : ℕ
  ownerId : Option String
  dispatchId : Option UUID
  acquiredAt : Option Timestamp
  heartbeatAt : Option Timestamp
  leaseUntil : Option Timestamp
  releasedAt : Option Timestamp
  observedAt : Timestamp
deriving DecidableEq, Repr

/-- `TaskLeaseSnapshot.validate_shape` on the timestamps of an owned lease.  The
checks on absent fields and on the state hold by construction of `snapshot`. -/
def validateShape (lease : Lease) : Except Failure Unit := do
  Raising.raiseIf (lease.heartbeatAt < lease.acquiredAt)
    ⟨.valueError, "lease heartbeat cannot precede acquisition"⟩
  Raising.raiseIf (lease.leaseUntil ≤ lease.heartbeatAt)
    ⟨.valueError, "lease expiry must follow the latest heartbeat"⟩
  match lease.releasedAt with
  | none => return ()
  | some releasedAt =>
    Raising.raiseIf (releasedAt < lease.acquiredAt)
      ⟨.valueError, "lease release cannot precede acquisition"⟩

/-- `_snapshot`. -/
def snapshot (runId : UUID) (taskId : String) (lease : Option Lease) (observedAt : Timestamp) :
    Except Failure TaskLeaseSnapshot := do
  match lease with
  | none => pure ()
  | some lease => validateShape lease
  return { runId, taskId, state := leaseState lease observedAt
           generation := (lease.map Lease.generation).getD 0
           ownerId := lease.map Lease.owner
           dispatchId := lease.map Lease.dispatchId
           acquiredAt := lease.map Lease.acquiredAt
           heartbeatAt := lease.map Lease.heartbeatAt
           leaseUntil := lease.map Lease.leaseUntil
           releasedAt := lease.bind Lease.releasedAt
           observedAt }

/-- The shape that a stored lease must have to be shown. -/
theorem validateShape_eq_ok {lease : Lease} {u : Unit} :
    validateShape lease = .ok u ↔
      lease.acquiredAt ≤ lease.heartbeatAt ∧ lease.heartbeatAt < lease.leaseUntil ∧
        ∀ t, lease.releasedAt = some t → lease.acquiredAt ≤ t := by
  cases hr : lease.releasedAt <;> simp [validateShape, hr]

/-- What a snapshot of an owned lease shows. -/
theorem snapshot_some_eq_ok {runId : UUID} {taskId : String} {lease : Lease} {now : Timestamp}
    {s : TaskLeaseSnapshot} (h : snapshot runId taskId (some lease) now = .ok s) :
    validateShape lease = .ok () ∧ s.state = leaseState (some lease) now ∧
      s.generation = lease.generation := by
  simp only [snapshot, Raising.bind_eq_ok, Raising.pure_eq_ok] at h
  obtain ⟨_, hshape, rfl⟩ := h
  exact ⟨hshape, rfl, rfl⟩

/-- `TaskLeaseGrant`. -/
structure TaskLeaseGrant where
  snapshot : TaskLeaseSnapshot
  runToken : UUID
deriving DecidableEq, Repr

/-- Rounding to the nearest integer, ties to the even one. -/
def roundHalfEven (q : ℚ) : ℤ :=
  let floor := ⌊q⌋
  if q - floor < 1 / 2 then floor
  else if 1 / 2 < q - floor then floor + 1
  else if floor % 2 = 0 then floor else floor + 1

/-- `_lease_duration`: `timedelta(seconds=value)` in microseconds. -/
def leaseDuration (value : ℚ) : Except Failure ℤ := do
  Raising.raiseIf (value ≤ 0 ∨ 86400 < value)
    ⟨.valueError, "lease_seconds must be greater than zero and at most 86400"⟩
  return roundHalfEven (value * 1000000)

/-- `assert_current_run_token`. -/
def assertCurrentRunToken (lease : Option Lease) (runToken : Option UUID) :
    Except Failure Lease :=
  match lease with
  | none => .error ⟨.staleRunToken, "task does not have a fenced execution generation"⟩
  | some lease => do
    Raising.raiseIf (runToken = none)
      ⟨.staleRunToken, "current run_token is required for this task write"⟩
    Raising.raiseIf (runToken ≠ some lease.runToken)
      ⟨.staleRunToken, "run_token is stale for the current task execution generation"⟩
    return lease

/-- `assert_live_current_run_token`. -/
def assertLiveCurrentRunToken (lease : Option Lease) (runToken : Option UUID)
    (observedAt : Timestamp) : Except Failure Lease := do
  let lease ← assertCurrentRunToken lease runToken
  Raising.raiseIf (lease.releasedAt ≠ none)
    ⟨.staleRunToken, "released task generations cannot authorize mutable writes"⟩
  Raising.raiseIf (lease.leaseUntil ≤ observedAt)
    ⟨.staleRunToken, "expired task generations cannot authorize mutable writes"⟩
  return lease

/-- The lease is neither released nor past its deadline. -/
def Lease.Live (lease : Lease) (observedAt : Timestamp) : Prop :=
  lease.releasedAt = none ∧ observedAt < lease.leaseUntil

instance (lease : Lease) (observedAt : Timestamp) : Decidable (lease.Live observedAt) :=
  inferInstanceAs (Decidable (_ ∧ _))

/-- **A lease is ACTIVE exactly while it is live.** -/
theorem leaseState_eq_active {lease : Option Lease} {observedAt : Timestamp} :
    leaseState lease observedAt = .active ↔ ∃ l, lease = some l ∧ l.Live observedAt := by
  cases lease with
  | none => simp [leaseState]
  | some l =>
    simp only [leaseState, Lease.Live, Option.some.injEq, exists_eq_left']
    split_ifs with hreleased hexpired
    · simp [hreleased]
    · simp [hexpired]
    · simpa [not_not.1 hreleased] using hexpired

/-- **A lease is EXPIRED when it was not released and its deadline has passed.** -/
theorem leaseState_eq_expired {lease : Option Lease} {observedAt : Timestamp} :
    leaseState lease observedAt = .expired ↔
      ∃ l, lease = some l ∧ l.releasedAt = none ∧ l.leaseUntil ≤ observedAt := by
  cases lease with
  | none => simp [leaseState]
  | some l =>
    simp only [leaseState, Option.some.injEq, exists_eq_left']
    split_ifs with hreleased hexpired
    · simp [hreleased]
    · simp [not_not.1 hreleased, hexpired]
    · simp [hexpired]

/-- **What the fence lets through:** the token of the current lease, live. -/
theorem assertLiveCurrentRunToken_eq_ok {lease : Option Lease} {runToken : Option UUID}
    {observedAt : Timestamp} {l : Lease} :
    assertLiveCurrentRunToken lease runToken observedAt = .ok l ↔
      lease = some l ∧ runToken = some l.runToken ∧ l.Live observedAt := by
  cases lease with
  | none => simp [assertLiveCurrentRunToken, assertCurrentRunToken]
  | some l' =>
    simp only [assertLiveCurrentRunToken, assertCurrentRunToken, Raising.bind_eq_ok,
      Raising.raiseIf_eq_ok, Raising.pure_eq_ok, Lease.Live, Option.some.injEq, not_not, not_le]
    constructor
    · rintro ⟨_, ⟨_, _, _, htoken, rfl⟩, _, hreleased, _, hlive, rfl⟩
      exact ⟨rfl, htoken, hreleased, hlive⟩
    · rintro ⟨rfl, htoken, hreleased, hlive⟩
      exact ⟨l', ⟨⟨⟩, by simp [htoken], ⟨⟩, htoken, rfl⟩, ⟨⟩, hreleased, ⟨⟩, hlive, rfl⟩

/-- The event of a lease operation. -/
def leaseEvent (key : EventKey) (kind : EventKind) (taskId : String) (lease : Lease)
    (message : String) (attributes : EventAttributes X) : RuntimeEventDraft X where
  eventKey := key
  kind := kind
  source := .lease
  taskId := some taskId
  dispatchId := some lease.dispatchId
  generation := some lease.generation
  message := message
  attributes := attributes

/-- The ownership checks of `acquire_task_lease`: the generation that is taken
over, if there is one. -/
def takeoverGeneration (runId : UUID) (taskId : String) (lease : Option Lease) (dispatchId : UUID)
    (observedAt : Timestamp) : Except Failure (Option ℕ) :=
  match lease with
  | none => return none
  | some lease => do
    let existing ← snapshot runId taskId (some lease) observedAt
    Raising.raiseIf (existing.state = .active)
      ⟨.taskLeaseConflict, "task already has an ACTIVE execution generation (generation=" ++
        toString lease.generation ++ ", owner=" ++ lease.owner ++ ")"⟩
    Raising.raiseIf (existing.state = .released)
      ⟨.taskLeaseConflict,
        "released task generations are terminal ownership history and cannot be reused"⟩
    Raising.raiseIf (existing.state ≠ .expired)
      ⟨.taskLeaseConflict, "task lease state cannot be safely acquired"⟩
    Raising.raiseIf (lease.dispatchId = dispatchId)
      ⟨.taskLeaseConflict, "expired-owner takeover requires a fresh dispatch_id"⟩
    return some lease.generation

/-- Only an expired generation of another dispatch is taken over. -/
theorem takeoverGeneration_eq_ok {runId : UUID} {taskId : String} {lease : Option Lease}
    {dispatchId : UUID} {now : Timestamp} {previous : Option ℕ}
    (h : takeoverGeneration runId taskId lease dispatchId now = .ok previous) :
    previous = lease.map Lease.generation ∧ ∀ old, lease = some old →
      old.releasedAt = none ∧ old.leaseUntil ≤ now ∧ old.dispatchId ≠ dispatchId := by
  cases lease with
  | none =>
    obtain rfl : none = previous := Raising.pure_eq_ok.1 h
    exact ⟨rfl, fun old hold => by simp at hold⟩
  | some lease =>
    simp only [takeoverGeneration, Raising.bind_eq_ok, Raising.raiseIf_eq_ok,
      Raising.pure_eq_ok, not_not] at h
    obtain ⟨existing, hexisting, _, _, _, _, _, hexpired, _, hdispatch, rfl⟩ := h
    rw [(snapshot_some_eq_ok hexisting).2.1, leaseState_eq_expired] at hexpired
    obtain ⟨l, hl, hreleased, huntil⟩ := hexpired
    obtain rfl := Option.some.inj hl
    refine ⟨rfl, fun old hold => ?_⟩
    obtain rfl := Option.some.inj hold
    exact ⟨hreleased, huntil, hdispatch⟩

/-- The lease that `acquire_task_lease` writes. -/
def acquiredLease (previous : Option ℕ) (owner : String) (dispatchId token : UUID)
    (observedAt : Timestamp) (duration : ℤ) : Lease where
  owner := owner
  dispatchId := dispatchId
  generation := previous.getD 0 + 1
  runToken := token
  acquiredAt := observedAt
  heartbeatAt := observedAt
  leaseUntil := observedAt + duration
  releasedAt := none
  generation_pos := by omega

/-- What `acquire_task_lease` has checked and written when it returns. -/
structure Acquired (db : Database X) (now : Timestamp) (token : UUID) (taskId ownerId : String)
    (dispatchId : UUID) (lease : Lease) : Prop where
  running : db.status = .running
  member : taskId ∈ db.taskIds
  /-- The task was unowned, or its generation expired under another dispatch. -/
  vacant : ∀ old, db.lease taskId = some old →
    old.releasedAt = none ∧ old.leaseUntil ≤ now ∧ old.dispatchId ≠ dispatchId
  generation : lease.generation = db.generation taskId + 1
  runToken : lease.runToken = token
  owner : lease.owner = ownerId
  dispatch : lease.dispatchId = dispatchId
  unreleased : lease.releasedAt = none
  deadline : now < lease.leaseUntil

variable [DecidableEq X]
variable {db db' : Database X} {now : Timestamp} {token runId dispatchId runToken : UUID}
  {taskId ownerId : String} {leaseSeconds : ℚ}

/-- `acquire_task_lease`; `token` is what `uuid4()` returns. -/
def acquireTaskLease (db : Database X) (now : Timestamp) (token runId : UUID)
    (taskId ownerId : String) (dispatchId : UUID) (leaseSeconds : ℚ) :
    Except Failure (TaskLeaseGrant × Database X) := do
  let taskName ← requiredText taskId "task_id" 128
  let owner ← requiredText ownerId "owner_id" 255
  let duration ← leaseDuration leaseSeconds
  lockedRun db runId
  Raising.raiseIf (db.status ≠ .running)
    ⟨.taskLeaseConflict, "task leases can be acquired only for RUNNING runs"⟩
  let task ← lockedTask db taskName
  let previous ← takeoverGeneration runId taskName task dispatchId now
  let lease := acquiredLease previous owner dispatchId token now duration
  let timeline ← appendRuntimeEvent db.timeline
    (leaseEvent (.acquired taskName lease.generation)
      (if previous ≠ none then .leaseTakenOver else .leaseAcquired) taskName lease
      (if previous ≠ none then "Expired task generation was replaced by a new fenced owner."
        else "Task lease generation acquired.")
      (.acquired owner previous lease.leaseUntil))
  let snapshot ← snapshot runId taskName (some lease) now
  return (⟨snapshot, token⟩, { db.setLease taskName lease with timeline })

/-- **A returned acquire installed one new generation under its own token.** -/
theorem acquireTaskLease_eq_ok {grant : TaskLeaseGrant}
    (h : acquireTaskLease db now token runId taskId ownerId dispatchId leaseSeconds =
      .ok (grant, db')) :
    ∃ lease timeline,
      Acquired db now token (strip taskId) (strip ownerId) dispatchId lease ∧
      grant.runToken = token ∧ grant.snapshot.generation = lease.generation ∧
      db' = { db.setLease (strip taskId) lease with timeline } := by
  simp only [acquireTaskLease, Raising.bind_eq_ok, Raising.raiseIf_eq_ok, Raising.pure_eq_ok,
    requiredText_eq_ok, lockedRun_eq_ok, lockedTask_eq_ok, not_not, Prod.mk.injEq] at h
  obtain ⟨_, ⟨rfl, _⟩, _, ⟨rfl, _⟩, duration, _, _, _, _, hrunning, _, ⟨hmember, rfl⟩, previous,
    hprevious, timeline, _, shown, hshown, rfl, rfl⟩ := h
  obtain ⟨rfl, hvacant⟩ := takeoverGeneration_eq_ok hprevious
  obtain ⟨hshape, _, hgeneration⟩ := snapshot_some_eq_ok hshown
  exact ⟨_, timeline, ⟨hrunning, hmember, hvacant, rfl, rfl, rfl, rfl, rfl,
    (validateShape_eq_ok.1 hshape).2.1⟩, rfl, hgeneration, rfl⟩

/-- `_assert_identity`. -/
def assertIdentity (lease : Option Lease) (ownerId : String) (dispatchId runToken : UUID) :
    Except Failure Lease := do
  Raising.raiseIf (lease = none) ⟨.taskLeaseConflict, "task does not have an acquired lease"⟩
  let lease ← assertCurrentRunToken lease (some runToken)
  Raising.raiseIf (lease.owner ≠ ownerId ∨ lease.dispatchId ≠ dispatchId)
    ⟨.taskLeaseConflict, "task lease is owned by a different worker or dispatch"⟩
  return lease

omit [DecidableEq X] in
/-- The identity that renewal and release require. -/
theorem assertIdentity_eq_ok {lease : Option Lease} {l : Lease} :
    assertIdentity lease ownerId dispatchId runToken = .ok l ↔
      lease = some l ∧ l.runToken = runToken ∧ l.owner = ownerId ∧ l.dispatchId = dispatchId := by
  cases lease with
  | none => simp [assertIdentity, assertCurrentRunToken]
  | some l' =>
    simp only [assertIdentity, assertCurrentRunToken, Raising.bind_eq_ok, Raising.raiseIf_eq_ok,
      Raising.pure_eq_ok, reduceCtorEq, not_false_eq_true, true_and, not_not, not_or,
      Option.some.injEq]
    constructor
    · rintro ⟨_, _, ⟨_, _, rfl, rfl⟩, _, ⟨howner, hdispatch⟩, rfl⟩
      exact ⟨rfl, rfl, howner, hdispatch⟩
    · rintro ⟨rfl, rfl, howner, hdispatch⟩
      exact ⟨⟨⟩, l', ⟨⟨⟩, ⟨⟩, rfl, rfl⟩, ⟨⟩, ⟨howner, hdispatch⟩, rfl⟩

/-- `renew_task_lease`. -/
def renewTaskLease (db : Database X) (now : Timestamp) (runId : UUID) (taskId ownerId : String)
    (dispatchId runToken : UUID) (leaseSeconds : ℚ) :
    Except Failure (TaskLeaseSnapshot × Database X) := do
  let taskName ← requiredText taskId "task_id" 128
  let owner ← requiredText ownerId "owner_id" 255
  let duration ← leaseDuration leaseSeconds
  lockedRun db runId
  let task ← lockedTask db taskName
  let lease ← assertIdentity task owner dispatchId runToken
  Raising.raiseIf (lease.releasedAt ≠ none)
    ⟨.taskLeaseConflict, "released task leases cannot be renewed"⟩
  Raising.raiseIf (lease.leaseUntil ≤ now)
    ⟨.taskLeaseExpired, "expired task generations cannot be resurrected by heartbeat"⟩
  let renewed := { lease with heartbeatAt := now, leaseUntil := now + duration }
  let timeline ← appendRuntimeEvent db.timeline
    (leaseEvent (.heartbeat taskName renewed.generation now) .leaseHeartbeat taskName renewed
      "Task lease heartbeat renewed." (.heartbeat owner renewed.leaseUntil))
  let snapshot ← snapshot runId taskName (some renewed) now
  return (snapshot, { db.setLease taskName renewed with timeline })

/-- **A returned renewal moved the deadline of a live lease, by its own token.** -/
theorem renewTaskLease_eq_ok {shown : TaskLeaseSnapshot}
    (h : renewTaskLease db now runId taskId ownerId dispatchId runToken leaseSeconds =
      .ok (shown, db')) :
    ∃ lease until' timeline, db.lease (strip taskId) = some lease ∧
      lease.runToken = runToken ∧ lease.dispatchId = dispatchId ∧ lease.Live now ∧ now < until' ∧
      db' = { db.setLease (strip taskId) { lease with heartbeatAt := now, leaseUntil := until' }
        with timeline } := by
  simp only [renewTaskLease, Raising.bind_eq_ok, Raising.raiseIf_eq_ok, Raising.pure_eq_ok,
    requiredText_eq_ok, lockedRun_eq_ok, lockedTask_eq_ok, assertIdentity_eq_ok, not_not, not_le,
    Prod.mk.injEq] at h
  obtain ⟨_, ⟨rfl, _⟩, _, ⟨rfl, _⟩, duration, _, _, _, _, ⟨hmember, rfl⟩, lease,
    ⟨hlease, htoken, _, hdispatch⟩, _, hreleased, _, huntil, timeline, _, shown, hshown, rfl, rfl⟩
    := h
  obtain ⟨hshape, _⟩ := snapshot_some_eq_ok hshown
  exact ⟨lease, _, timeline, hlease, htoken, hdispatch, ⟨hreleased, huntil⟩,
    (validateShape_eq_ok.1 hshape).2.1, rfl⟩

/-- `release_task_lease`; a lease that is released already is only shown. -/
def releaseTaskLease (db : Database X) (now : Timestamp) (runId : UUID) (taskId ownerId : String)
    (dispatchId runToken : UUID) : Except Failure (TaskLeaseSnapshot × Database X) := do
  let taskName ← requiredText taskId "task_id" 128
  let owner ← requiredText ownerId "owner_id" 255
  lockedRun db runId
  let task ← lockedTask db taskName
  let lease ← assertIdentity task owner dispatchId runToken
  if lease.releasedAt ≠ none then
    return (← snapshot runId taskName (some lease) now, db)
  Raising.raiseIf (lease.leaseUntil ≤ now)
    ⟨.taskLeaseExpired,
      "expired task generations remain EXPIRED and cannot be rewritten as RELEASED"⟩
  let released := { lease with releasedAt := some now }
  let timeline ← appendRuntimeEvent db.timeline
    (leaseEvent (.released taskName released.generation) .leaseReleased taskName released
      "Task lease generation released." (.released owner now))
  let snapshot ← snapshot runId taskName (some released) now
  return (snapshot, { db.setLease taskName released with timeline })

/-- **A returned release ended a live lease, by its own token, or changed
nothing.** -/
theorem releaseTaskLease_eq_ok {shown : TaskLeaseSnapshot}
    (h : releaseTaskLease db now runId taskId ownerId dispatchId runToken = .ok (shown, db')) :
    ∃ lease, db.lease (strip taskId) = some lease ∧ lease.runToken = runToken ∧
      lease.dispatchId = dispatchId ∧
      ((lease.releasedAt ≠ none ∧ db' = db) ∨
        (lease.Live now ∧ ∃ timeline,
          db' = { db.setLease (strip taskId) { lease with releasedAt := some now }
            with timeline })) := by
  simp only [releaseTaskLease, Raising.bind_eq_ok, 
    requiredText_eq_ok, lockedRun_eq_ok, lockedTask_eq_ok, assertIdentity_eq_ok] at h
  obtain ⟨_, ⟨rfl, _⟩, _, ⟨rfl, _⟩, _, _, _, ⟨hmember, rfl⟩, lease,
    ⟨hlease, htoken, _, hdispatch⟩, h⟩ := h
  refine ⟨lease, hlease, htoken, hdispatch, ?_⟩
  split_ifs at h with hreleased
  · simp only [Raising.bind_eq_ok, Raising.pure_eq_ok, Prod.mk.injEq] at h
    obtain ⟨_, _, rfl, rfl⟩ := h
    exact Or.inl ⟨hreleased, rfl⟩
  · simp only [Raising.bind_eq_ok, Raising.raiseIf_eq_ok, Raising.pure_eq_ok, Prod.mk.injEq,
      not_le] at h
    obtain ⟨_, huntil, timeline, _, _, _, rfl, rfl⟩ := h
    exact Or.inr ⟨⟨not_not.1 hreleased, huntil⟩, timeline, rfl⟩

/-- `guard_task_git_mutation` up to its `yield`: what is checked before the
caller's Git mutation runs under the row locks. -/
def guardTaskGitMutation (db : Database X) (now : Timestamp) (runId : UUID) (taskId : String)
    (dispatchId runToken : UUID) : Except Failure TaskLeaseSnapshot := do
  let taskName ← requiredText taskId "task_id" 128
  lockedRun db runId
  Raising.raiseIf (db.status ≠ .running)
    ⟨.taskLeaseConflict, "Git mutation requires a RUNNING persisted run"⟩
  let task ← lockedTask db taskName
  let lease ← assertLiveCurrentRunToken task (some runToken) now
  Raising.raiseIf (lease.dispatchId ≠ dispatchId)
    ⟨.taskLeaseConflict, "Git mutation dispatch does not own this task"⟩
  snapshot runId taskName (some lease) now

omit [DecidableEq X] in
/-- **A Git mutation runs only under the live token of its own dispatch.** -/
theorem guardTaskGitMutation_eq_ok {shown : TaskLeaseSnapshot}
    (h : guardTaskGitMutation db now runId taskId dispatchId runToken = .ok shown) :
    db.status = .running ∧ ∃ lease, db.lease (strip taskId) = some lease ∧
      lease.runToken = runToken ∧ lease.dispatchId = dispatchId ∧ lease.Live now := by
  simp only [guardTaskGitMutation, Raising.bind_eq_ok, Raising.raiseIf_eq_ok, requiredText_eq_ok,
    lockedRun_eq_ok, lockedTask_eq_ok, assertLiveCurrentRunToken_eq_ok, not_not] at h
  obtain ⟨_, ⟨rfl, _⟩, _, _, _, hrunning, _, ⟨_, rfl⟩, lease, ⟨hlease, htoken, hlive⟩, _,
    hdispatch, _⟩ := h
  exact ⟨hrunning, lease, hlease, (Option.some.inj htoken).symm, hdispatch, hlive⟩

end DevFlow
