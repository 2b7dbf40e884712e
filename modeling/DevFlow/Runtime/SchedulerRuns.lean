/-
# Every run of a scheduler

`runtime/scheduler.py` with its event list.  The object is changed one transition
at a time, and a raised exception leaves it as it is by then: `succeed` writes
SUCCEEDED before it refreshes the ready tasks, and `fail` writes FAILED before it
blocks the descendants.  In every state that a sequence of calls reaches the
checks that come later cannot fail (`Runtime/SchedulerStates`), so a call either
goes through or is refused by `_require_state` before its first write.

The events are the transitions in the order in which they were made.
-/

import DevFlow.Library.Durable
import DevFlow.Library.Runs
import DevFlow.Runtime.SchedulerStates

namespace DevFlow

open Durable (Prog)

/-- `_ALLOWED_TRANSITIONS`. -/
def TaskScheduleState.allows : TaskScheduleState → TaskScheduleState → Bool
  | .pending, .ready | .pending, .blocked => true
  | .ready, .running => true
  | .running, .succeeded | .running, .failed => true
  | _, _ => false

/-- `SchedulerEvent`. -/
structure SchedulerEvent where
  sequence : ℕ
  taskId : String
  fromState : TaskScheduleState
  toState : TaskScheduleState
  detail : String
deriving DecidableEq, Repr

/-- The object: the states and the events so far. -/
structure SchedulerObject extends DAGScheduler where
  events : List SchedulerEvent

namespace SchedulerObject

/-- The two writes of `_transition`. -/
def record (s : SchedulerObject) (taskId : String) (next : TaskScheduleState) (detail : String) :
    SchedulerObject where
  toDAGScheduler := s.set taskId next
  events := s.events ++ [⟨s.events.length, taskId, s.states taskId, next, detail⟩]

/-- `_transition`. -/
def transition (taskId : String) (next : TaskScheduleState) (detail : String) :
    Prog SchedulerObject Failure Unit := do
  let s ← Durable.read
  Durable.raiseIf (taskId ∉ s.dag.taskIds) ⟨.keyError, "unknown task id: " ++ taskId⟩
  Durable.raiseIf ((s.states taskId).allows next = false)
    ⟨.valueError, "invalid DAG scheduler transition: " ++ (s.states taskId).value ++ " -> " ++
      next.value ++ " for " ++ taskId⟩
  Durable.write fun s => s.record taskId next detail

/-- The loop of `_refresh_ready`. -/
def readyLoop (detail : String) : List String → Prog SchedulerObject Failure Unit
  | [] => return ()
  | taskId :: ready => do
    let s ← Durable.read
    if s.states taskId = .pending then
      transition taskId .ready detail
      readyLoop detail ready
    else readyLoop detail ready

/-- `_refresh_ready`. -/
def refreshReady (detail : String) : Prog SchedulerObject Failure Unit := do
  let s ← Durable.read
  let ready ← Durable.lift
    (s.dag.readyTaskIds (s.taskIdsWithState .succeeded) (s.taskIdsWithState .failed))
  readyLoop detail ready

/-- The constructor. -/
def create (dag : TaskDAG) : Durable.Outcome SchedulerObject Failure Unit :=
  refreshReady "All dependencies are satisfied at scheduler initialization."
    ⟨⟨dag, fun _ => .pending⟩, []⟩

/-- `start`. -/
def start (taskId : String) : Prog SchedulerObject Failure Unit := do
  let s ← Durable.read
  Durable.lift (s.requireState taskId .ready)
  transition taskId .running "Task execution started."

/-- `succeed`. -/
def succeed (taskId : String) : Prog SchedulerObject Failure Unit := do
  let s ← Durable.read
  Durable.lift (s.requireState taskId .running)
  transition taskId .succeeded "Task execution completed successfully."
  refreshReady ("Dependencies satisfied after " ++ taskId ++ " succeeded.")

/-- The loop of `fail` over the topological order. -/
def blockLoop (blocked : List String) : List String → Prog SchedulerObject Failure Unit
  | [] => return ()
  | taskId :: order => do
    let s ← Durable.read
    if taskId ∈ blocked ∧ s.states taskId ≠ .blocked then
      transition taskId .blocked "Blocked by a failed upstream dependency."
      blockLoop blocked order
    else blockLoop blocked order

/-- `fail`. -/
def fail (taskId : String) : Prog SchedulerObject Failure Unit := do
  let s ← Durable.read
  Durable.lift (s.requireState taskId .running)
  let blocked ← Durable.lift (s.dag.blockedTaskIds (taskId :: s.taskIdsWithState .failed))
  Durable.lift (s.assertBlockable blocked)
  transition taskId .failed "Task execution failed."
  blockLoop blocked s.dag.topologicalOrder

/-! ### The event list -/

/-- The states after the events; `none` when one of them starts in another state. -/
def replay (states : String → TaskScheduleState) :
    List SchedulerEvent → Option (String → TaskScheduleState)
  | [] => some states
  | event :: events =>
    if states event.taskId = event.fromState then
      replay (Function.update states event.taskId event.toState) events
    else none

/-- **The events are numbered from 0 on, and their replay gives the states.** -/
structure Logged (s : SchedulerObject) : Prop where
  sequences : s.events.map SchedulerEvent.sequence = List.range s.events.length
  replayed : replay (fun _ => .pending) s.events = some s.states

theorem replay_append {states : String → TaskScheduleState} {events rest : List SchedulerEvent} :
    replay states (events ++ rest) = (replay states events).bind fun states => replay states rest := by
  induction events generalizing states with
  | nil => rfl
  | cons event events ih =>
    rw [List.cons_append, replay, replay]
    split_ifs
    · exact ih
    · rfl

variable {s : SchedulerObject} {t : String}

theorem Logged.record (hs : s.Logged) (next : TaskScheduleState) (detail : String) :
    (s.record t next detail).Logged := by
  constructor
  · show (s.events ++ [_]).map SchedulerEvent.sequence = List.range (s.events ++ [_]).length
    rw [List.map_append, hs.sequences, List.length_append, List.length_singleton,
      List.range_succ]
    rfl
  · show replay _ (s.events ++ [_]) = some (Function.update s.states t next)
    rw [replay_append, hs.replayed]
    simp [replay]

/-- A transition that is allowed. -/
theorem transition_of_allows {next : TaskScheduleState} (detail : String)
    (ht : t ∈ s.dag.taskIds) (hallows : (s.states t).allows next = true) :
    (transition t next detail s).result = .ok () ∧
      (transition t next detail s).final = s.record t next detail := by
  unfold transition
  rw [Durable.read_bind, Durable.raiseIf_bind_of_not (by simp [ht]),
    Durable.raiseIf_bind_of_not (by simp [hallows])]
  exact ⟨rfl, rfl⟩

/-- What follows an allowed transition. -/
theorem transition_bind {next : TaskScheduleState} (detail : String)
    {f : Unit → Prog SchedulerObject Failure Unit} (ht : t ∈ s.dag.taskIds)
    (hallows : (s.states t).allows next = true) :
    ((transition t next detail >>= f) s).result = (f () (s.record t next detail)).result ∧
      ((transition t next detail >>= f) s).final = (f () (s.record t next detail)).final := by
  obtain ⟨hresult, hfinal⟩ := transition_of_allows detail ht hallows
  rw [Durable.bind_apply]
  unfold Prog.andThen
  rw [hresult, hfinal]
  exact ⟨rfl, rfl⟩

/-- What a part of an operation did: it returned, its states are those of the
scheduler `s'`, and the events are still a log. -/
structure Ends (p : Prog SchedulerObject Failure Unit) (s : SchedulerObject)
    (s' : DAGScheduler) : Prop where
  result : (p s).result = .ok ()
  states : (p s).final.toDAGScheduler = s'
  logged : s.Logged → (p s).final.Logged

theorem Ends.congr {p q : Prog SchedulerObject Failure Unit} {s' : DAGScheduler}
    (heq : p s = q s) (h : Ends q s s') : Ends p s s' :=
  ⟨heq ▸ h.result, heq ▸ h.states, heq ▸ h.logged⟩

theorem Ends.transition (next : TaskScheduleState) (detail : String) (ht : t ∈ s.dag.taskIds)
    (hallows : (s.states t).allows next = true) :
    Ends (SchedulerObject.transition t next detail) s (s.set t next) := by
  obtain ⟨hresult, hfinal⟩ := transition_of_allows detail ht hallows
  refine ⟨hresult, by rw [hfinal]; rfl, fun hs => ?_⟩
  rw [hfinal]
  exact hs.record next detail

theorem Ends.transition_bind {next : TaskScheduleState} {detail : String} {s' : DAGScheduler}
    {f : Unit → Prog SchedulerObject Failure Unit} (ht : t ∈ s.dag.taskIds)
    (hallows : (s.states t).allows next = true) (h : Ends (f ()) (s.record t next detail) s') :
    Ends (SchedulerObject.transition t next detail >>= f) s s' := by
  obtain ⟨hresult, hfinal⟩ := SchedulerObject.transition_bind (f := f) detail ht hallows
  refine ⟨hresult.trans h.result, by rw [hfinal]; exact h.states, fun hs => ?_⟩
  rw [hfinal]
  exact h.logged (hs.record next detail)

/-- The loop of `_refresh_ready`, by induction on the tasks that are left. -/
theorem Ends.readyLoop (detail : String) {ready : List String} (hnodup : ready.Nodup)
    (hknown : ∀ t ∈ ready, t ∈ s.dag.taskIds) :
    Ends (SchedulerObject.readyLoop detail ready) s (s.markReady ready) := by
  induction ready generalizing s with
  | nil =>
    refine ⟨rfl, ?_, fun hs => hs⟩
    show s.toDAGScheduler = _
    simp [DAGScheduler.markReady]
  | cons t ready ih =>
    obtain ⟨hnot, hnodup⟩ := List.nodup_cons.1 hnodup
    obtain ⟨ht, hknown⟩ := List.forall_mem_cons.1 hknown
    by_cases hpending : s.states t = .pending
    · have hrest := ih (s := s.record t .ready detail) hnodup hknown
      have hstates : (s.record t .ready detail).markReady ready = s.markReady (t :: ready) := by
        show DAGScheduler.mk s.dag _ = DAGScheduler.mk s.dag _
        congr 1
        funext x
        by_cases hx : x = t
        · subst hx
          simp [DAGScheduler.set, record, hnot, hpending]
        · simp [DAGScheduler.set, record, hx]
      rw [hstates] at hrest
      have hbind := Ends.transition_bind (f := fun _ => SchedulerObject.readyLoop detail ready) ht
        (by rw [hpending]; rfl) hrest
      refine hbind.congr ?_
      rw [SchedulerObject.readyLoop, Durable.read_bind, if_pos hpending]
    · have hrest := ih (s := s) hnodup hknown
      have hstates : s.markReady ready = s.markReady (t :: ready) := by
        show DAGScheduler.mk s.dag _ = DAGScheduler.mk s.dag _
        congr 1
        funext x
        by_cases hx : x = t
        · subst hx
          simp [hpending]
        · simp [hx]
      rw [hstates] at hrest
      refine hrest.congr ?_
      rw [SchedulerObject.readyLoop, Durable.read_bind, if_neg hpending]

/-- The loop of `fail`. -/
theorem Ends.blockLoop (blocked order : List String) (hnodup : order.Nodup)
    (hknown : ∀ t ∈ order, t ∈ s.dag.taskIds)
    (hblockable : ∀ t ∈ order, t ∈ blocked → s.states t = .pending ∨ s.states t = .blocked) :
    Ends (SchedulerObject.blockLoop blocked order) s
      { s.toDAGScheduler with states := fun t =>
          if t ∈ order ∧ t ∈ blocked then .blocked else s.states t } := by
  induction order generalizing s with
  | nil =>
    refine ⟨rfl, ?_, fun hs => hs⟩
    show s.toDAGScheduler = _
    simp
  | cons t order ih =>
    obtain ⟨hnot, hnodup⟩ := List.nodup_cons.1 hnodup
    obtain ⟨ht, hknown⟩ := List.forall_mem_cons.1 hknown
    obtain ⟨hblock, hblockable⟩ := List.forall_mem_cons.1 hblockable
    by_cases hmarks : t ∈ blocked ∧ s.states t ≠ .blocked
    · have hpending := (hblock hmarks.1).resolve_right hmarks.2
      have hrest := ih (s := s.record t .blocked "Blocked by a failed upstream dependency.")
        hnodup hknown (by
          intro x hx hmem
          have hne : x ≠ t := fun heq => hnot (heq ▸ hx)
          simpa [record, DAGScheduler.set, hne] using hblockable x hx hmem)
      have hstates : ∀ x, (if x ∈ order ∧ x ∈ blocked then TaskScheduleState.blocked
          else (s.record t .blocked "Blocked by a failed upstream dependency.").states x) =
          if x ∈ t :: order ∧ x ∈ blocked then .blocked else s.states x := by
        intro x
        by_cases hx : x = t
        · subst hx
          simp [record, DAGScheduler.set, hnot, hmarks.1]
        · simp [record, DAGScheduler.set, hx]
      simp only [hstates] at hrest
      have hbind := Ends.transition_bind (f := fun _ => SchedulerObject.blockLoop blocked order) ht
        (by rw [hpending]; rfl) hrest
      refine hbind.congr ?_
      rw [SchedulerObject.blockLoop, Durable.read_bind, if_pos hmarks]
    · have hrest := ih (s := s) hnodup hknown hblockable
      have hstates : ∀ x, (if x ∈ order ∧ x ∈ blocked then TaskScheduleState.blocked
          else s.states x) = if x ∈ t :: order ∧ x ∈ blocked then .blocked else s.states x := by
        intro x
        by_cases hx : x = t
        · subst hx
          rw [not_and, not_not] at hmarks
          by_cases hmem : x ∈ blocked
          · simp [hmem, hmarks hmem]
          · simp [hmem]
        · simp [hx]
      simp only [hstates] at hrest
      refine hrest.congr ?_
      rw [SchedulerObject.blockLoop, Durable.read_bind, if_neg hmarks]

/-! ### The operations -/

theorem readyTaskIds_nodup {dag : TaskDAG} {completed failed ready : List String}
    (h : dag.readyTaskIds completed failed = .ok ready) : ready.Nodup := by
  simp only [TaskDAG.readyTaskIds, Raising.bind_eq_ok, Raising.pure_eq_ok] at h
  obtain ⟨_, _, _, _, _, _, _, _, _, _, rfl⟩ := h
  exact dag.topologicalOrder_nodup.filter _

/-- `_refresh_ready` of a settled scheduler. -/
theorem Ends.refreshReady (detail : String) {ready : List String}
    (h : s.dag.readyTaskIds (s.taskIdsWithState .succeeded) (s.taskIdsWithState .failed) =
      .ok ready) : Ends (SchedulerObject.refreshReady detail) s (s.markReady ready) := by
  have hloop := Ends.readyLoop (s := s) detail (readyTaskIds_nodup h)
    fun t ht => ((TaskDAG.mem_readyTaskIds h).1 ht).1
  refine hloop.congr ?_
  rw [SchedulerObject.refreshReady, Durable.read_bind, h, Durable.lift_ok_bind]

/-- **What an operation on a consistent scheduler does**: it is refused by
`_require_state` and writes nothing, or it returns and the scheduler is consistent
again. -/
def Sound (p : Prog SchedulerObject Failure Unit) (taskId : String)
    (expected : TaskScheduleState) (s : SchedulerObject) : Prop :=
  (∃ failure, s.requireState taskId expected = .error failure ∧
      (p s).result = .error failure ∧ (p s).final = s) ∨
    ((p s).result = .ok () ∧ (p s).final.Consistent ∧ (p s).final.dag = s.dag ∧
      (s.Logged → (p s).final.Logged))

theorem Ends.sound {p : Prog SchedulerObject Failure Unit} {expected : TaskScheduleState}
    {s' : DAGScheduler} (h : Ends p s s') (hconsistent : s'.Consistent) (hdag : s'.dag = s.dag) :
    Sound p t expected s :=
  Or.inr ⟨h.result, h.states ▸ hconsistent, by rw [h.states, hdag], h.logged⟩

theorem start_sound (hs : s.Consistent) (t : String) : Sound (start t) t .ready s := by
  cases hrequire : s.requireState t .ready with
  | error failure =>
    refine Or.inl ⟨failure, hrequire, ?_⟩
    unfold start
    rw [Durable.read_bind, hrequire, Durable.lift_error_bind]
    exact ⟨rfl, rfl⟩
  | ok u =>
    have ht := DAGScheduler.mem_of_requireState hrequire
    have hready := DAGScheduler.requireState_eq_ok hrequire
    have hends := Ends.transition (s := s) .running "Task execution started."
      ht (by rw [hready]; rfl)
    refine (hends.congr (p := start t) ?_).sound (hs.start ht hready).2 rfl
    rw [start, Durable.read_bind, hrequire, Durable.lift_ok_bind]

theorem succeed_sound (hs : s.Consistent) (t : String) : Sound (succeed t) t .running s := by
  cases hrequire : s.requireState t .running with
  | error failure =>
    refine Or.inl ⟨failure, hrequire, ?_⟩
    unfold succeed
    rw [Durable.read_bind, hrequire, Durable.lift_error_bind]
    exact ⟨rfl, rfl⟩
  | ok u =>
    have ht := DAGScheduler.mem_of_requireState hrequire
    have hrunning := DAGScheduler.requireState_eq_ok hrequire
    obtain ⟨ready, hready, -, hconsistent⟩ := hs.succeed ht hrunning
    have hrest := Ends.refreshReady
      (s := s.record t .succeeded "Task execution completed successfully.")
      ("Dependencies satisfied after " ++ t ++ " succeeded.") hready
    have hbind := Ends.transition_bind (f := fun _ => refreshReady
      ("Dependencies satisfied after " ++ t ++ " succeeded.")) ht (by rw [hrunning]; rfl) hrest
    refine (hbind.congr (p := succeed t) ?_).sound hconsistent rfl
    rw [succeed, Durable.read_bind, hrequire, Durable.lift_ok_bind]

theorem fail_sound (hs : s.Consistent) (t : String) : Sound (fail t) t .running s := by
  cases hrequire : s.requireState t .running with
  | error failure =>
    refine Or.inl ⟨failure, hrequire, ?_⟩
    unfold fail
    rw [Durable.read_bind, hrequire, Durable.lift_error_bind]
    exact ⟨rfl, rfl⟩
  | ok u =>
    have ht := DAGScheduler.mem_of_requireState hrequire
    have hrunning := DAGScheduler.requireState_eq_ok hrequire
    obtain ⟨blocked, hblocked, hassert, -, hconsistent⟩ := hs.fail ht hrunning
    have hself : t ∉ blocked := fun hmem =>
      ((TaskDAG.mem_blockedTaskIds hblocked).1 hmem).1 List.mem_cons_self
    have hwas : ∀ x ∈ blocked, s.states x = .pending ∨ s.states x = .blocked := by
      rw [DAGScheduler.assertBlockable, Raising.raiseIf_eq_ok] at hassert
      intro x hx
      by_contra hnot
      rw [not_or] at hnot
      exact hassert ⟨x, hx, hnot⟩
    have hrest := Ends.blockLoop (s := s.record t .failed "Task execution failed.")
      blocked s.dag.topologicalOrder s.dag.topologicalOrder_nodup
      (fun x hx => (TaskDAG.mem_topologicalOrder s.dag).1 hx) (by
        intro x _ hx
        have hne : x ≠ t := fun heq => hself (heq ▸ hx)
        simpa [record, DAGScheduler.set, hne] using hwas x hx)
    have hstates : ∀ x, (if x ∈ s.dag.topologicalOrder ∧ x ∈ blocked then
        TaskScheduleState.blocked else (s.record t .failed "Task execution failed.").states x) =
        (s.markFailed t blocked).states x := by
      intro x
      by_cases hx : x = t
      · subst hx
        simp [DAGScheduler.markFailed, record, DAGScheduler.set, hself]
      · have hmem : x ∈ blocked → x ∈ s.dag.topologicalOrder := fun hx =>
          (TaskDAG.mem_topologicalOrder s.dag).2
            ((TaskDAG.mem_blockedTaskIds hblocked).1 hx).2.choose_spec.2.mem_right
        by_cases hb : x ∈ blocked
        · simp [DAGScheduler.markFailed, hx, hb, hmem hb]
        · simp [DAGScheduler.markFailed, record, DAGScheduler.set, hx, hb]
    simp only [hstates] at hrest
    have hbind := Ends.transition_bind (f := fun _ => blockLoop blocked s.dag.topologicalOrder) ht
      (by rw [hrunning]; rfl) hrest
    refine (hbind.congr (p := fail t) ?_).sound hconsistent rfl
    rw [fail, Durable.read_bind, hrequire, Durable.lift_ok_bind, hblocked, Durable.lift_ok_bind,
      hassert, Durable.lift_ok_bind]

end SchedulerObject

/-! ### Runs -/

/-- A call on the scheduler. -/
inductive SchedulerCall
  | start (taskId : String)
  | succeed (taskId : String)
  | fail (taskId : String)
deriving DecidableEq, Repr

namespace SchedulerCall

/-- The operation. -/
def run : SchedulerCall → Prog SchedulerObject Failure Unit
  | .start taskId => SchedulerObject.start taskId
  | .succeed taskId => SchedulerObject.succeed taskId
  | .fail taskId => SchedulerObject.fail taskId

def taskId : SchedulerCall → String
  | .start taskId | .succeed taskId | .fail taskId => taskId

/-- The state that the operation asks of its task. -/
def expects : SchedulerCall → TaskScheduleState
  | .start _ => .ready
  | .succeed _ | .fail _ => .running

theorem sound {s : SchedulerObject} (hs : s.Consistent) (call : SchedulerCall) :
    SchedulerObject.Sound call.run call.taskId call.expects s := by
  cases call with
  | start t => exact SchedulerObject.start_sound hs t
  | succeed t => exact SchedulerObject.succeed_sound hs t
  | fail t => exact SchedulerObject.fail_sound hs t

end SchedulerCall

/-- One call, whatever comes of it. -/
def SchedulerCall.perform (s : SchedulerObject) (call : SchedulerCall) :
    Option (Except Failure Unit × SchedulerObject) :=
  some ((call.run s).result, (call.run s).final)

/-- The transition system. -/
def schedulerStep (s : SchedulerObject) (call : SchedulerCall) (answer : Except Failure Unit)
    (s' : SchedulerObject) : Prop :=
  call.perform s = some (answer, s')

/-- A call is refused by the check of its own task's state, and changes nothing. -/
def RefusedUnchanged
    (e : Runs.Event SchedulerObject SchedulerCall (Except Failure Unit)) : Prop :=
  ∀ failure, e.output = .error failure →
    e.after = e.before ∧ e.before.requireState e.input.taskId e.input.expects = .error failure

/-- **The invariant of the scheduler, with its event list.** -/
structure SchedulerObject.Invariant (dag : TaskDAG) (s : SchedulerObject) : Prop where
  dag : s.dag = dag
  consistent : s.Consistent
  logged : s.Logged

/-- The constructor returns a scheduler in the invariant. -/
theorem SchedulerObject.create_invariant (dag : TaskDAG) :
    (create dag).result = .ok () ∧ (create dag).final.Invariant dag := by
  have hsettled : DAGScheduler.Settled { dag, states := fun _ => .pending } :=
    ⟨fun _ _ h => (nomatch h), fun _ _ => ⟨fun h => (nomatch h), fun ⟨_, _, h⟩ => (nomatch h)⟩⟩
  obtain ⟨ready, hready, -, hconsistent⟩ := hsettled.refreshReady
  have hends := Ends.refreshReady (s := ⟨⟨dag, fun _ => .pending⟩, []⟩)
    "All dependencies are satisfied at scheduler initialization." hready
  refine ⟨hends.result, ?_, ?_, hends.logged ⟨rfl, rfl⟩⟩
  · show (create dag).final.toDAGScheduler.dag = dag
    rw [create, hends.states]
    rfl
  · show (create dag).final.toDAGScheduler.Consistent
    rw [create, hends.states]
    exact hconsistent

/-- One call keeps the invariant. -/
theorem SchedulerObject.Invariant.step {dag : TaskDAG} {s s' : SchedulerObject}
    {call : SchedulerCall} {answer : Except Failure Unit} (hs : s.Invariant dag)
    (hstep : schedulerStep s call answer s') : s'.Invariant dag := by
  obtain ⟨rfl, rfl⟩ := Prod.mk.inj (Option.some.inj hstep)
  rcases call.sound hs.consistent with ⟨failure, -, -, hsame⟩ | ⟨-, hconsistent, hdag, hlogged⟩
  · rw [hsame]
    exact hs
  · exact ⟨hdag.trans hs.dag, hconsistent, hlogged hs.logged⟩

/-- **The scheduler over every sequence of calls.**  The constructor returns; in
every state that calls in any order reach, accepted or refused, the states
characterise the graph and the events replay to them; and every refused call is
refused by the check of its own task's state and changes nothing. -/
theorem scheduler_invariant (dag : TaskDAG) :
    (SchedulerObject.create dag).result = .ok () ∧
    ∀ (es : List (Runs.Event SchedulerObject SchedulerCall (Except Failure Unit)))
      (s : SchedulerObject), Runs.Run schedulerStep (SchedulerObject.create dag).final es s →
      s.Invariant dag ∧ ∀ e ∈ es, RefusedUnchanged e := by
  obtain ⟨hresult, hinit⟩ := SchedulerObject.create_invariant dag
  refine ⟨hresult, fun es s hrun => ?_⟩
  have hkeep : ∀ s call answer s', SchedulerObject.Invariant dag s →
      schedulerStep s call answer s' → s'.Invariant dag := fun _ _ _ _ hs hstep => hs.step hstep
  refine ⟨hrun.invariant hkeep hinit, hrun.forall_event hkeep ?_ hinit⟩
  intro s call answer s' hs hstep failure hfailure
  obtain ⟨rfl, rfl⟩ := Prod.mk.inj (Option.some.inj hstep)
  rcases call.sound hs.consistent with ⟨refusal, hrequire, hanswer, hsame⟩ | ⟨hok, -⟩
  · dsimp only at hfailure
    rw [hanswer] at hfailure
    obtain rfl := Except.error.inj hfailure
    exact ⟨hsame, hrequire⟩
  · dsimp only at hfailure
    rw [hok] at hfailure
    cases hfailure

/-- A task and one that depends on it. -/
def apiThenDocs : TaskDAG where
  tasks := [{ taskId := "api", dependsOn := [], taskId_pattern := isTaskId_api },
    { taskId := "docs", dependsOn := ["api"], taskId_pattern := isTaskId_docs }]

/-- A run in which the second call is refused and the third fails the first task. -/
theorem scheduler_invariant_api_fails : ∃ es s,
    Runs.Run schedulerStep (SchedulerObject.create apiThenDocs).final es s ∧
      es.map Runs.Event.input = [.start "api", .start "docs", .fail "api"] ∧
      s.Invariant apiThenDocs := by
  obtain ⟨⟨es, s⟩, hexec⟩ : ∃ r, Runs.exec SchedulerCall.perform
      (SchedulerObject.create apiThenDocs).final [.start "api", .start "docs", .fail "api"] =
      some r := ⟨_, rfl⟩
  have hrun := Runs.run_of_exec hexec
  refine ⟨es, s, hrun, ?_, ((scheduler_invariant apiThenDocs).2 es s hrun).1⟩
  obtain ⟨rfl, -⟩ := Prod.mk.inj (Option.some.inj hexec).symm
  rfl

end DevFlow
