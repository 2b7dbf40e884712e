/-
# Fencing tokens

A resource is owned by one *generation* at a time.  Every generation has a token
of its own, handed to the owner when it takes the resource, and an operation is
*fenced* when it is accepted only with the token of the current generation while
that generation is alive.  A generation dies once (it is given up, its deadline
passes, or another generation takes over) and is never revived.

`Fence.Step` says this of a `Register`, whatever the deadline is made of.  The
two results are what fencing is for: accepted operations come in the order of
their generations (`run_generation_mono`), and a token whose generation is dead
is refused for ever (`run_dead_refused`).
-/

import DevFlow.Library.Runs
import Mathlib.Data.Set.Insert

namespace Fence

universe u

variable {T : Type u}

/-- The current generation (`0` before the first), its token, whether it is
alive, and the tokens of the generations before it. -/
@[ext] structure Register (T : Type u) where
  generation : ℕ
  holder : Option T
  alive : Prop
  retired : Set T

/-- What a step does to the register. -/
inductive Action (T : Type u)
  | take (token : T)
  | use (token : T)
  | other

variable {r r' : Register T} {a : Action T} {τ : T}

/-- A fresh token takes a resource that nobody alive owns; a living generation
uses its own token, and may give up by doing so; anything else leaves the owner
and can only let it die. -/
inductive Step : Register T → Action T → Register T → Prop
  | take {r r' : Register T} (token : T) (dead : ¬r.alive) (new : r.holder ≠ some token)
      (fresh : token ∉ r.retired) (generation : r'.generation = r.generation + 1)
      (holder : r'.holder = some token)
      (retired : ∀ τ, τ ∈ r'.retired ↔ τ ∈ r.retired ∨ r.holder = some τ) :
      Step r (.take token) r'
  | use {r r' : Register T} (token : T) (current : r.holder = some token) (alive : r.alive)
      (generation : r'.generation = r.generation) (holder : r'.holder = r.holder)
      (retired : r'.retired = r.retired) : Step r (.use token) r'
  | other {r r' : Register T} (generation : r'.generation = r.generation)
      (holder : r'.holder = r.holder) (retired : r'.retired = r.retired)
      (alive : r'.alive → r.alive) : Step r .other r'

/-- The generation of `τ` was taken over, or is the current one and not alive. -/
def Dead (r : Register T) (τ : T) : Prop :=
  τ ∈ r.retired ∨ (r.holder = some τ ∧ ¬r.alive)

/-- **Generations never go back.** -/
theorem Step.generation_le (h : Step r a r') : r.generation ≤ r'.generation := by
  cases h with
  | take _ _ _ _ generation => omega
  | use _ _ _ generation => omega
  | other generation => omega

/-- The holder's token is not among the retired ones. -/
def Clean (r : Register T) : Prop :=
  ∀ τ, r.holder = some τ → τ ∉ r.retired

theorem Step.clean (h : Step r a r') (hr : Clean r) : Clean r' := by
  intro τ hτ hmem
  cases h with
  | take token dead new fresh generation holder retired =>
    obtain rfl : token = τ := Option.some.inj (holder.symm.trans hτ)
    rcases (retired token).1 hmem with hmem | hmem
    · exact fresh hmem
    · exact new hmem
  | use token current alive generation holder retired =>
    exact hr τ (holder ▸ hτ) (retired ▸ hmem)
  | other generation holder retired => exact hr τ (holder ▸ hτ) (retired ▸ hmem)

/-- **A dead generation stays dead.** -/
theorem Dead.step (hd : Dead r τ) (h : Step r a r') : Dead r' τ := by
  cases h with
  | take token dead new fresh generation holder retired =>
    refine Or.inl ((retired τ).2 ?_)
    exact hd.imp id fun hd => hd.1
  | use token current alive generation holder retired =>
    rcases hd with hd | ⟨_, hdead⟩
    · exact Or.inl (retired ▸ hd)
    · exact absurd alive hdead
  | other generation holder retired alive =>
    rcases hd with hd | ⟨hd, hdead⟩
    · exact Or.inl (retired ▸ hd)
    · exact Or.inr ⟨holder ▸ hd, fun h => hdead (alive h)⟩

/-- A dead generation's token is refused. -/
theorem Dead.refused (hd : Dead r τ) (hr : Clean r) (h : Step r a r') : a ≠ .use τ := by
  rintro rfl
  cases h with
  | use _ current alive =>
    rcases hd with hd | ⟨_, hdead⟩
    · exact hr τ current hd
    · exact hdead alive

/-- The register as a transition system; its steps have no answer. -/
def step (r : Register T) (a : Action T) (_ : Unit) (r' : Register T) : Prop :=
  Step r a r'

variable {es : List (Runs.Event (Register T) (Action T) Unit)}

/-- **In every run a later step belongs to no earlier generation.** -/
theorem run_generation_mono (h : Runs.Run step r es r') :
    es.Pairwise fun e e' => e.after.generation ≤ e'.after.generation :=
  h.pairwise (I := fun _ => True) (Q := fun e s => e.after.generation ≤ s.generation)
    (fun _ _ _ _ _ _ => trivial)
    (fun _ _ _ _ _ _ => le_rfl)
    (fun _ _ _ _ _ _ hQ hstep => hQ.trans (Step.generation_le hstep))
    (fun _ _ _ _ _ _ hQ hstep => hQ.trans (Step.generation_le hstep))
    trivial

/-- **Once a generation is dead its token is refused in every continuation.** -/
theorem run_dead_refused (h : Runs.Run step r es r') (hr : Clean r) (hd : Dead r τ) :
    ∀ e ∈ es, e.input ≠ .use τ :=
  h.forall_event (I := fun s => Clean s ∧ Dead s τ)
    (fun _ _ _ _ hI hstep => ⟨Step.clean hstep hI.1, hI.2.step hstep⟩)
    (fun _ _ _ _ hI hstep => hI.2.refused hI.1 hstep)
    ⟨hr, hd⟩

end Fence
