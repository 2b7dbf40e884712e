/-
# Takeovers and the dispatch that owns a generation

`acquire_task_lease` refuses the takeover of an expired generation by the
dispatch that owns it ("expired-owner takeover requires a fresh dispatch_id").
It compares with the dispatch of the current row only, and nothing else is kept
of the earlier owners.  So a message of a dispatch that was itself taken over is
accepted again once its successor has expired, and owns a second generation.

The runs are those of `LeaseRuns`: a delivery of a message is an acquire call
with its dispatch id, as often and as late as the broker likes.
-/

import DevFlow.Persistence.LeaseRuns

namespace DevFlow

variable {X : Type}

/-- The task and the dispatch of a delivered message. -/
def Call.delivers : Call X → Option (String × UUID)
  | .acquire _ _ taskId _ dispatchId _ => some (strip taskId, dispatchId)
  | _ => none

/-- The event is a delivery that was accepted: from here on the dispatch owns a
generation of the task. -/
def Owns (e : LeaseEvent X) (t : String) (d : UUID) : Prop :=
  e.output = .ok () ∧ e.input.delivers = some (t, d)

/-- **No dispatch owns two generations of a task.** -/
def DispatchFresh (es : List (LeaseEvent X)) (t : String) : Prop :=
  es.Pairwise fun e e' => ∀ d, Owns e t d → ¬Owns e' t d

/-- The dispatch of a message that arrives while the task's lease is expired and
belongs to another dispatch. -/
def arrivesAfterSuccessor (e : LeaseEvent X) (t : String) : Option UUID :=
  match e.input.delivers, e.before.db.lease t with
  | some (taskId, d), some lease =>
    if taskId = t ∧ leaseState (some lease) e.before.now = .expired ∧ lease.dispatchId ≠ d then
      some d
    else none
  | _, _ => none

/-- No message of a dispatch that has owned the task arrives while the lease of
the task is expired under another dispatch. -/
def NoLateRedelivery (es : List (LeaseEvent X)) (t : String) : Prop :=
  es.Pairwise fun e e' => ∀ d, Owns e t d → arrivesAfterSuccessor e' t ≠ some d

variable [DecidableEq X]
variable {w w' : LeaseWorld X} {es : List (LeaseEvent X)} {t : String}

/-- A task that has had a lease has one for ever. -/
theorem leased_step {call : Call X} {answer : Except Failure Unit} (hw : w.db.lease t ≠ none)
    (h : leaseStep w call answer w') : w'.db.lease t ≠ none := by
  cases leaseStep_effect h t with
  | acquired new _ _ _ _ _ row => simp [row]
  | used old new _ _ _ row => simp [row]
  | untouched row => rwa [row]

/-- An accepted delivery leaves a lease of its dispatch, and found the task
unowned or expired under another one. -/
theorem owns_spec {e : LeaseEvent X} {d : UUID}
    (hstep : leaseStep e.before e.input e.output e.after) (h : Owns e t d) :
    e.after.db.lease t ≠ none ∧
      (e.before.db.lease t ≠ none → arrivesAfterSuccessor e t = some d) := by
  obtain ⟨w, call, answer, w'⟩ := e
  obtain ⟨hok, hdelivers⟩ := h
  simp only at hstep hok hdelivers
  subst hok
  cases call with
  | acquire token runId taskId ownerId dispatchId leaseSeconds =>
    obtain ⟨rfl, rfl⟩ := Prod.mk.inj (Option.some.inj hdelivers)
    unfold leaseStep at hstep
    simp only [Call.perform] at hstep
    split_ifs at hstep
    split at hstep
    · rename_i grant db hacquire
      obtain ⟨-, rfl⟩ := Prod.mk.inj (Option.some.inj hstep)
      obtain ⟨lease, timeline, hacq, -, -, rfl⟩ := acquireTaskLease_eq_ok hacquire
      refine ⟨by simp, fun hleased => ?_⟩
      obtain ⟨old, hold⟩ : ∃ old, w.db.lease (strip taskId) = some old :=
        Option.ne_none_iff_exists'.1 hleased
      obtain ⟨hreleased, huntil, hdispatch⟩ := hacq.vacant old hold
      have hexpired := leaseState_eq_expired.2 ⟨old, rfl, hreleased, huntil⟩
      simp [arrivesAfterSuccessor, Call.delivers, hold, hexpired, hdispatch]
    · simp at hstep
  | _ => simp [Call.delivers] at hdelivers

/-- **When every dispatch keeps to one generation.**  In every interleaving in
which no message of a dispatch that has owned the task arrives while the task's
lease is expired under another dispatch, no dispatch owns two generations. -/
theorem dispatch_fresh_of_no_late_redelivery {w₀ : LeaseWorld X}
    (h : Runs.Run leaseStep w₀ es w) (hdelivery : NoLateRedelivery es t) :
    DispatchFresh es t := by
  refine Runs.pairwise_of_cuts fun es₁ e' es₂ hcut e he d howns howns' => ?_
  subst hcut
  refine (List.pairwise_append.1 hdelivery).2.2 e he e' List.mem_cons_self d howns ?_
  obtain ⟨u, h₁, h₂⟩ := h.split
  -- the earlier owner left a lease, and a leased task stays leased up to the second delivery
  have hleased : u.db.lease t ≠ none := by
    obtain ⟨es₃, es₄, rfl⟩ := List.append_of_mem he
    obtain ⟨v, -, h₄⟩ := h₁.split
    cases h₄ with
    | cons hstep hrun =>
      exact hrun.invariant (I := fun s => s.db.lease t ≠ none)
        (fun _ _ _ _ hs hst => leased_step hs hst) (owns_spec hstep howns).1
  cases h₂ with
  | cons hstep hrun => exact (owns_spec hstep howns').2 hleased

/-- Three deliveries of two messages: the message of dispatch 11 comes back after
dispatch 12, which took over from it, has expired as well. -/
def lateRedeliveryCalls : List (Call Unit) :=
  [.acquire ⟨101⟩ ⟨1⟩ "build" "worker-a" ⟨11⟩ 30, .tick 40000000,
    .acquire ⟨102⟩ ⟨1⟩ "build" "worker-b" ⟨12⟩ 30, .tick 40000000,
    .acquire ⟨103⟩ ⟨1⟩ "build" "worker-c" ⟨11⟩ 30]

/-- The dispatch that an event makes an owner. -/
def ownerOf (e : LeaseEvent X) : Option (String × UUID) :=
  match e.output with
  | .ok _ => e.input.delivers
  | .error _ => none

omit [DecidableEq X] in
theorem owns_iff_ownerOf {e : LeaseEvent X} {d : UUID} : Owns e t d ↔ ownerOf e = some (t, d) := by
  unfold Owns ownerOf
  cases e.output <;> simp

/-- **A dispatch can own two generations.**  After the late redelivery dispatch 11
owns generations 1 and 3 of its task. -/
theorem late_redelivery_owns_twice :
    ¬∀ (w₀ w : LeaseWorld Unit) (es : List (LeaseEvent Unit)) (t : String), w₀.Initial →
      Runs.Run leaseStep w₀ es w → DispatchFresh es t := by
  intro hclaim
  have howners : (Runs.exec Call.perform (LeaseWorld.created Unit ⟨1⟩ ["build"] 0)
      lateRedeliveryCalls).map (fun r => r.1.map ownerOf) =
        some [some ("build", ⟨11⟩), none, some ("build", ⟨12⟩), none, some ("build", ⟨11⟩)] := by
    decide +kernel
  obtain ⟨⟨es, w⟩, hexec, hes⟩ := Option.map_eq_some_iff.1 howners
  have hfresh := hclaim _ w es "build" (LeaseWorld.created_initial Unit ⟨1⟩ ["build"] 0)
    (Runs.run_of_exec hexec)
  simp only [DispatchFresh, owns_iff_ownerOf] at hfresh
  have howners := (List.pairwise_map (f := ownerOf)
    (R := fun a b => ∀ d, a = some ("build", d) → ¬b = some ("build", d))).2 hfresh
  simp [hes] at howners

/-- Two messages, the first of them delivered twice: the second delivery finds
the successor active. -/
def earlyRedeliveryCalls : List (Call Unit) :=
  [.acquire ⟨101⟩ ⟨1⟩ "build" "worker-a" ⟨11⟩ 30, .tick 40000000,
    .acquire ⟨102⟩ ⟨1⟩ "build" "worker-b" ⟨12⟩ 30,
    .acquire ⟨103⟩ ⟨1⟩ "build" "worker-c" ⟨11⟩ 30]

/-- The condition of `dispatch_fresh_of_no_late_redelivery` is met by a run with a
takeover and a redelivery. -/
theorem dispatch_fresh_early_redelivery :
    ∃ es w, Runs.Run leaseStep (LeaseWorld.created Unit ⟨1⟩ ["build"] 0) es w ∧
      w.db.generation "build" = 2 ∧ DispatchFresh es "build" := by
  have hfacts : (Runs.exec Call.perform (LeaseWorld.created Unit ⟨1⟩ ["build"] 0)
      earlyRedeliveryCalls).map (fun r => (r.2.db.generation "build",
        r.1.map fun e => (ownerOf e, arrivesAfterSuccessor e "build"))) =
      some (2, [(some ("build", ⟨11⟩), none), (none, none),
        (some ("build", ⟨12⟩), some ⟨12⟩), (none, none)]) := by
    decide +kernel
  obtain ⟨⟨es, w⟩, hexec, hes⟩ := Option.map_eq_some_iff.1 hfacts
  obtain ⟨hw, hes⟩ := Prod.mk.inj hes
  have hdelivery : NoLateRedelivery es "build" := by
    simp only [NoLateRedelivery, owns_iff_ownerOf]
    refine (List.pairwise_map (f := fun e => (ownerOf e, arrivesAfterSuccessor e "build"))
      (R := fun a b => ∀ d, a.1 = some ("build", d) → b.2 ≠ some d)).1 ?_
    simp [hes]
  exact ⟨es, w, Runs.run_of_exec hexec, hw,
    dispatch_fresh_of_no_late_redelivery (Runs.run_of_exec hexec) hdelivery⟩

end DevFlow
