/-
# Programs whose writes are known in advance

A program that asks others and writes, but lets nothing of its state decide what
to write, is a plan: the list of its writes and its value, or the error of the
first that was asked and raised.  `Follows` says that a program returns, and in
which state, exactly when its plan is there and the state takes the writes one
after the other.
-/

import DevFlow.Library.Durable
import DevFlow.Library.Raising

namespace Durable

variable {σ ω ε α β : Type}

/-- The writes and the value, or an error. -/
def Plan (ω ε α : Type) : Type :=
  Except ε (List ω × α)

/-- The writes of `x` and then those of what follows. -/
def Plan.andThen (x : Except ε (List ω × α)) (f : α → Except ε (List ω × β)) :
    Except ε (List ω × β) := do
  let (writes, a) ← x
  let (more, b) ← f a
  return (writes ++ more, b)

instance : Monad (Plan ω ε) where
  pure a := .ok ([], a)
  bind := Plan.andThen

/-- Writes, one after the other. -/
def Plan.writes (xs : List ω) : Plan ω ε Unit :=
  .ok (xs, ())

/-- What somebody else answers. -/
def Plan.ask (x : Except ε α) : Plan ω ε α :=
  x.map fun a => ([], a)

theorem Plan.andThen_eq_ok {x : Except ε (List ω × α)} {f : α → Except ε (List ω × β)}
    {writes : List ω} {b : β} :
    Plan.andThen x f = .ok (writes, b) ↔ ∃ first a more, x = .ok (first, a) ∧
      f a = .ok (more, b) ∧ writes = first ++ more := by
  simp only [Plan.andThen, Raising.bind_eq_ok, Raising.pure_eq_ok]
  constructor
  · rintro ⟨⟨first, a⟩, hx, ⟨more, b'⟩, hf, heq⟩
    obtain ⟨rfl, rfl⟩ := Prod.mk.inj heq
    exact ⟨first, a, more, hx, hf, rfl⟩
  · rintro ⟨first, a, more, hx, hf, rfl⟩
    exact ⟨(first, a), hx, (more, b), hf, rfl⟩

theorem Plan.bind_eq_ok {x : Plan ω ε α} {f : α → Plan ω ε β} {writes : List ω} {b : β} :
    (x >>= f) = .ok (writes, b) ↔ ∃ first a more, x = .ok (first, a) ∧ f a = .ok (more, b) ∧
      writes = first ++ more :=
  Plan.andThen_eq_ok

theorem Plan.andThen_of_empty {a : α} {f : α → Except ε (List ω × β)} :
    Plan.andThen (.ok ([], a)) f = f a := by
  unfold Plan.andThen
  cases hf : f a with
  | error e => simp [hf]
  | ok q => simp [hf, pure, Except.pure]

/-- Who is asked writes nothing. -/
theorem Plan.writes_of_ask {x : Except ε α} {writes : List ω} {a : α}
    (h : (Plan.ask x : Plan ω ε α) = .ok (writes, a)) : writes = [] := by
  cases x with
  | error e => cases h
  | ok b => exact (Prod.mk.inj (Except.ok.inj h)).1.symm

@[simp] theorem Plan.ask_ok_bind {a : α} {f : α → Plan ω ε β} :
    ((Plan.ask (.ok a) : Plan ω ε α) >>= f) = f a :=
  Plan.andThen_of_empty

@[simp] theorem Plan.writes_nil_bind {f : Unit → Plan ω ε β} :
    ((Plan.writes [] : Plan ω ε Unit) >>= f) = f () :=
  Plan.andThen_of_empty

/-- The state takes one write after the other. -/
def takes (take : σ → ω → Except ε σ) (writes : List ω) (s : σ) : Except ε σ :=
  writes.foldlM take s

theorem takes_singleton {take : σ → ω → Except ε σ} {x : ω} {s : σ} :
    takes take [x] s = take s x := by
  simp [takes]

theorem takes_append {take : σ → ω → Except ε σ} {writes more : List ω} {s t : σ} :
    takes take (writes ++ more) s = .ok t ↔
      ∃ u, takes take writes s = .ok u ∧ takes take more u = .ok t := by
  rw [takes, List.foldlM_append, Raising.bind_eq_ok]
  rfl

/-- **The program is the plan**: on the states of `I` it returns exactly what the plan
says, when the state takes the writes. -/
def Follows (take : σ → ω → Except ε σ) (I : σ → Prop) (p : Prog σ ε α) (x : Plan ω ε α) : Prop :=
  ∀ s, I s → ∀ a t, (p s).result = .ok a ∧ (p s).final = t ↔
    ∃ writes, x = .ok (writes, a) ∧ takes take writes s = .ok t

section rules

variable {take : σ → ω → Except ε σ} {I : σ → Prop}

theorem Follows.pure (a : α) : Follows take I (pure a : Prog σ ε α) (pure a) := by
  intro s _ b t
  constructor
  · rintro ⟨hb, ht⟩
    obtain rfl := Except.ok.inj hb
    exact ⟨[], rfl, congrArg Except.ok ht⟩
  · rintro ⟨writes, hplan, htakes⟩
    obtain ⟨rfl, rfl⟩ := Prod.mk.inj (Except.ok.inj hplan)
    exact ⟨rfl, Except.ok.inj htakes⟩

theorem Follows.ask (x : Except ε α) : Follows take I (lift x : Prog σ ε α) (Plan.ask x) := by
  intro s _ a t
  cases x with
  | error e => simp [Plan.ask, Except.map]
  | ok b =>
    constructor
    · rintro ⟨hb, ht⟩
      obtain rfl := Except.ok.inj hb
      exact ⟨[], rfl, congrArg Except.ok ht⟩
    · rintro ⟨writes, hplan, htakes⟩
      obtain ⟨rfl, rfl⟩ := Prod.mk.inj (Except.ok.inj hplan)
      exact ⟨rfl, Except.ok.inj htakes⟩

/-- A program that is one write. -/
theorem Follows.write {p : Prog σ ε Unit} {x : ω}
    (h : ∀ s, I s → ∀ t, (p s).result = .ok () ∧ (p s).final = t ↔ take s x = .ok t) :
    Follows take I p (Plan.writes [x]) := by
  intro s hs a t
  rw [h s hs t]
  constructor
  · intro htake
    exact ⟨[x], rfl, takes_singleton.trans htake⟩
  · rintro ⟨writes, hplan, htakes⟩
    obtain ⟨rfl, -⟩ := Prod.mk.inj (Except.ok.inj hplan)
    exact takes_singleton.symm.trans htakes

/-- **Sequential composition.** -/
theorem Follows.bind (keep : ∀ s w t, I s → take s w = .ok t → I t) {p : Prog σ ε α}
    {x : Plan ω ε α} {f : α → Prog σ ε β} {g : α → Plan ω ε β} (hp : Follows take I p x)
    (hf : ∀ a, Follows take I (f a) (g a)) : Follows take I (p >>= f) (x >>= g) := by
  intro s hs b t
  have hkept : ∀ {writes u}, takes take writes s = .ok u → I u := fun htakes =>
    Raising.foldlM_invariant (fun s w t => keep s w t) hs htakes
  constructor
  · rintro ⟨hresult, hfinal⟩
    obtain ⟨a, ha, hb⟩ := bind_result_eq_ok.1 hresult
    rw [bind_final_of_ok ha] at hfinal
    obtain ⟨writes, hx, htakes⟩ := (hp s hs a _).1 ⟨ha, rfl⟩
    obtain ⟨more, hg, hmore⟩ := (hf a _ (hkept htakes) b t).1 ⟨hb, hfinal⟩
    exact ⟨writes ++ more, Plan.bind_eq_ok.2 ⟨writes, a, more, hx, hg, rfl⟩,
      takes_append.2 ⟨_, htakes, hmore⟩⟩
  · rintro ⟨all, hplan, htakes⟩
    obtain ⟨writes, a, more, hx, hg, rfl⟩ := Plan.bind_eq_ok.1 hplan
    obtain ⟨u, hfirst, hmore⟩ := takes_append.1 htakes
    obtain ⟨ha, rfl⟩ := (hp s hs a u).2 ⟨writes, hx, hfirst⟩
    obtain ⟨hb, rfl⟩ := (hf a _ (hkept hfirst) b t).2 ⟨more, hg, hmore⟩
    exact ⟨bind_result_eq_ok.2 ⟨a, ha, hb⟩, bind_final_of_ok ha⟩

/-- A program that reads what is the same in all states of `I`. -/
theorem Follows.read_bind {f : σ → Prog σ ε β} {x : Plan ω ε β}
    (h : ∀ s, I s → Follows take I (f s) x) : Follows take I (read >>= f) x :=
  fun s hs => h s hs s hs

end rules

end Durable
