/-
# Runs of a labelled transition system

A system is a relation `step s i o u`: in state `s` the input `i` was answered
by `o` and left state `u`.  A `Run` is a finite sequence of steps, each starting
where the one before ended, and keeps every one of them as an `Event`.  A
statement about every run is a statement about every interleaving of whatever
the inputs stand for.

Five rules do the inductions once.  `Run.invariant` carries a state predicate
from the first state to the last, and `Run.invariant_of_forall` does so in runs
whose events satisfy a condition; `Run.history` carries one that also speaks of
the events so far; `Run.forall_event` says what holds of each
event; `Run.pairwise` says what an earlier event imposes on a later one, through
a predicate that the earlier one establishes and every step keeps.  `Run.map`
is forward simulation: a map of states and inputs that takes steps to steps
takes runs to runs, event by event.
-/

import Mathlib.Data.List.Induction

namespace Runs

universe u v w u' v' w'

/-- One step of a run: the input, its answer, and the states around it. -/
@[ext] structure Event (σ : Type u) (ι : Type v) (ω : Type w) where
  before : σ
  input : ι
  output : ω
  after : σ

variable {σ : Type u} {ι : Type v} {ω : Type w} {σ' : Type u'} {ι' : Type v'} {ω' : Type w'}
variable {step : σ → ι → ω → σ → Prop} {step' : σ' → ι' → ω' → σ' → Prop}
variable {s t : σ} {es fs : List (Event σ ι ω)}

/-- The runs of `step` from one state to another, with their events. -/
inductive Run (step : σ → ι → ω → σ → Prop) : σ → List (Event σ ι ω) → σ → Prop
  | nil (s : σ) : Run step s [] s
  | cons {s u t : σ} {i : ι} {o : ω} {es : List (Event σ ι ω)} :
      step s i o u → Run step u es t → Run step s (⟨s, i, o, u⟩ :: es) t

/-- **A state predicate that every step keeps holds at the end of every run
that starts in it.** -/
theorem Run.invariant {I : σ → Prop} (keep : ∀ s i o u, I s → step s i o u → I u)
    (h : Run step s es t) (hs : I s) : I t := by
  induction h with
  | nil => exact hs
  | cons hstep _ ih => exact ih (keep _ _ _ _ hs hstep)

/-- **The same for the runs whose events all satisfy `P`**, when it is only these
steps that keep the predicate. -/
theorem Run.invariant_of_forall {I : σ → Prop} {P : Event σ ι ω → Prop}
    (keep : ∀ s i o u, I s → P ⟨s, i, o, u⟩ → step s i o u → I u)
    (h : Run step s es t) (hP : ∀ e ∈ es, P e) (hs : I s) : I t := by
  induction h with
  | nil => exact hs
  | cons hstep _ ih =>
    rw [List.forall_mem_cons] at hP
    exact ih hP.2 (keep _ _ _ _ hs hP.1 hstep)

/-- **What a step does in a state of the invariant holds of every event.** -/
theorem Run.forall_event {I : σ → Prop} {P : Event σ ι ω → Prop}
    (keep : ∀ s i o u, I s → step s i o u → I u)
    (each : ∀ s i o u, I s → step s i o u → P ⟨s, i, o, u⟩)
    (h : Run step s es t) (hs : I s) : ∀ e ∈ es, P e := by
  induction h with
  | nil => simp
  | cons hstep _ ih =>
    intro e he
    rcases List.mem_cons.1 he with rfl | he
    · exact each _ _ _ _ hs hstep
    · exact ih (keep _ _ _ _ hs hstep) e he

/-- **A predicate of the events so far and the state**, which every step extends by
its own event. -/
theorem Run.history {H : List (Event σ ι ω) → σ → Prop}
    (keep : ∀ es s i o u, H es s → step s i o u → H (es ++ [⟨s, i, o, u⟩]) u)
    (h : Run step s fs t) (hs : H es s) : H (es ++ fs) t := by
  induction h generalizing es with
  | nil => simpa using hs
  | cons hstep _ ih => simpa using ih (keep _ _ _ _ _ hs hstep)

/-- Every event of a run is a step. -/
theorem Run.event_step (h : Run step s es t) :
    ∀ e ∈ es, step e.before e.input e.output e.after :=
  h.forall_event (I := fun _ => True) (fun _ _ _ _ _ _ => trivial) (fun _ _ _ _ _ hstep => hstep)
    trivial

/-- **What one event imposes on every later one.**  `Q e` is established by the
event `e`, kept by every later step, and gives `R e e'` for the step it meets. -/
theorem Run.pairwise {I : σ → Prop} {Q : Event σ ι ω → σ → Prop}
    {R : Event σ ι ω → Event σ ι ω → Prop}
    (keep : ∀ s i o u, I s → step s i o u → I u)
    (establish : ∀ s i o u, I s → step s i o u → Q ⟨s, i, o, u⟩ u)
    (keepQ : ∀ e s i o u, I s → Q e s → step s i o u → Q e u)
    (impose : ∀ e s i o u, I s → Q e s → step s i o u → R e ⟨s, i, o, u⟩)
    (h : Run step s es t) (hs : I s) : es.Pairwise R := by
  induction h with
  | nil => exact List.Pairwise.nil
  | cons hstep hrun ih =>
    have hu := keep _ _ _ _ hs hstep
    refine List.pairwise_cons.2 ⟨?_, ih hu⟩
    exact hrun.forall_event (I := fun s => I s ∧ Q _ s)
      (fun s i o u hI hst => ⟨keep s i o u hI.1 hst, keepQ _ s i o u hI.1 hI.2 hst⟩)
      (fun s i o u hI hst => impose _ s i o u hI.1 hI.2 hst)
      ⟨hu, establish _ _ _ _ hs hstep⟩

/-- A run and a run from where it ended are one run. -/
theorem Run.append {u : σ} (h : Run step s es u) (h' : Run step u fs t) :
    Run step s (es ++ fs) t := by
  induction h with
  | nil => exact h'
  | cons hstep _ ih => exact Run.cons hstep (ih h')

/-- A run cut anywhere is two runs. -/
theorem Run.split (h : Run step s (es ++ fs) t) :
    ∃ u, Run step s es u ∧ Run step u fs t := by
  induction es generalizing s with
  | nil => exact ⟨s, Run.nil s, h⟩
  | cons e es ih =>
    cases h with
    | cons hstep hrun =>
      obtain ⟨u, h₁, h₂⟩ := ih hrun
      exact ⟨u, Run.cons hstep h₁, h₂⟩

/-- What every event imposes on the one event after a cut is imposed pairwise. -/
theorem pairwise_of_cuts {α : Type*} {R : α → α → Prop} {l : List α}
    (h : ∀ l₁ b l₂, l = l₁ ++ b :: l₂ → ∀ a ∈ l₁, R a b) : l.Pairwise R := by
  induction l using List.reverseRecOn with
  | nil => exact List.Pairwise.nil
  | append_singleton l b ih =>
    refine List.pairwise_append.2 ⟨ih fun l₁ c l₂ hl a ha => ?_, List.pairwise_singleton R b, ?_⟩
    · exact h l₁ c (l₂ ++ [b]) (by simp [hl]) a ha
    · intro a ha c hc
      obtain rfl := List.mem_singleton.1 hc
      exact h l c [] rfl a ha

/-- **Forward simulation.**  If `f` takes every step of `step` from a state of
the invariant to a step of `step'`, with inputs and answers read off the event,
it takes every run to a run. -/
theorem Run.map {I : σ → Prop} (f : σ → σ') (gi : Event σ ι ω → ι') (go : Event σ ι ω → ω')
    (keep : ∀ s i o u, I s → step s i o u → I u)
    (sim : ∀ s i o u, I s → step s i o u →
      step' (f s) (gi ⟨s, i, o, u⟩) (go ⟨s, i, o, u⟩) (f u))
    (h : Run step s es t) (hs : I s) :
    Run step' (f s) (es.map fun e => ⟨f e.before, gi e, go e, f e.after⟩) (f t) := by
  induction h with
  | nil => exact Run.nil _
  | cons hstep _ ih =>
    exact Run.cons (sim _ _ _ _ hs hstep) (ih (keep _ _ _ _ hs hstep))

/-- The steps of an executable system on a list of inputs; `none` when one of
them is not enabled. -/
def exec (perform : σ → ι → Option (ω × σ)) : σ → List ι → Option (List (Event σ ι ω) × σ)
  | s, [] => some ([], s)
  | s, i :: is =>
    match perform s i with
    | none => none
    | some (o, u) => (exec perform u is).map fun r => (⟨s, i, o, u⟩ :: r.1, r.2)

/-- **An executed list of inputs is a run.** -/
theorem run_of_exec {perform : σ → ι → Option (ω × σ)} {is : List ι}
    (h : exec perform s is = some (es, t)) :
    Run (fun s i o u => perform s i = some (o, u)) s es t := by
  induction is generalizing s es with
  | nil =>
    obtain ⟨rfl, rfl⟩ := Prod.mk.inj (Option.some.inj h)
    exact Run.nil _
  | cons i is ih =>
    unfold exec at h
    split at h
    · cases h
    · rename_i o u hstep
      obtain ⟨⟨fs, v⟩, hrest, heq⟩ := Option.map_eq_some_iff.1 h
      obtain ⟨rfl, rfl⟩ := Prod.mk.inj heq
      exact Run.cons hstep (ih hrest)

/-- The inputs of an executed run are the ones it was given. -/
theorem input_mem_of_exec {perform : σ → ι → Option (ω × σ)} {is : List ι}
    (h : exec perform s is = some (es, t)) : ∀ e ∈ es, e.input ∈ is := by
  induction is generalizing s es with
  | nil =>
    obtain ⟨rfl, rfl⟩ := Prod.mk.inj (Option.some.inj h)
    exact fun e he => absurd he List.not_mem_nil
  | cons i is ih =>
    unfold exec at h
    split at h
    · cases h
    · obtain ⟨⟨fs, v⟩, hrest, heq⟩ := Option.map_eq_some_iff.1 h
      obtain ⟨rfl, rfl⟩ := Prod.mk.inj heq
      intro e he
      rcases List.mem_cons.1 he with rfl | he
      · exact List.mem_cons_self
      · exact List.mem_cons_of_mem _ (ih hrest e he)

end Runs
