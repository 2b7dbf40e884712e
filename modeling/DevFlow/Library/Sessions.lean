/-
# Programs among components that they do not control

A program calls components that answer as they like, raise as they like and keep a
state of their own that every call may change.  The program keeps a log of what it
asked for and what it was told, oldest first; a component cannot write in it.

`Ensures p log Q` says that `p`, started with the log `log`, ends with a result and a
log of `Q`, whatever the components do.  There is one rule for each way to build a
program, and `Ensures.each` does the induction over a loop once.
-/

import Mathlib.Data.List.Basic
import Mathlib.Tactic.SplitIfs

namespace Sessions

variable {σ ν ε α β γ : Type}

/-- The state of the components, and the log of the program. -/
structure World (σ ν : Type) where
  outside : σ
  log : List ν := []

/-- A program that returns an `α` or raises an `ε`. -/
def Session (σ ν ε α : Type) : Type :=
  World σ ν → Except ε α × World σ ν

/-- The statements after `p`. -/
def Session.andThen (p : Session σ ν ε α) (f : α → Session σ ν ε β) : Session σ ν ε β := fun w =>
  match p w with
  | (.ok a, w) => f a w
  | (.error e, w) => (.error e, w)

instance : Monad (Session σ ν ε) where
  pure a := fun w => (.ok a, w)
  bind := Session.andThen

/-- An entry of the log. -/
def emit (event : ν) : Session σ ν ε Unit := fun w =>
  (.ok (), { w with log := w.log ++ [event] })

/-- A call of a component. -/
def ask (answer : σ → α × σ) : Session σ ν ε α := fun w =>
  (.ok (answer w.outside).1, { w with outside := (answer w.outside).2 })

/-- A computation of the program itself. -/
def lift (x : Except ε α) : Session σ ν ε α := fun w => (x, w)

/-- A call of a component that may raise. -/
def invoke (answer : σ → Except ε α × σ) : Session σ ν ε α := do
  lift (← ask answer)

/-- `try: p except Exception`: the value or the error, to go on with. -/
def caught (p : Session σ ν ε α) : Session σ ν ε (Except ε α) := fun w =>
  (.ok (p w).1, (p w).2)

/-- `for item in items:` with a body that goes on with a state or leaves the loop with a
value. -/
def each (body : γ → β → Session σ ν ε (α ⊕ β)) : List γ → β → Session σ ν ε (α ⊕ β)
  | [], state => pure (.inr state)
  | item :: items, state => do
    match ← body item state with
    | .inl a => return .inl a
    | .inr state => each body items state

/-- **Whatever the components do, the program ends in `Q`.** -/
def Ensures (p : Session σ ν ε α) (log : List ν) (Q : Except ε α → List ν → Prop) : Prop :=
  ∀ outside, Q (p ⟨outside, log⟩).1 (p ⟨outside, log⟩).2.log

variable {log : List ν} {p : Session σ ν ε α} {f : α → Session σ ν ε β}
variable {Q R : Except ε α → List ν → Prop} {S : Except ε β → List ν → Prop}

theorem Ensures.weaken (h : Ensures p log R) (hQ : ∀ r log', R r log' → Q r log') :
    Ensures p log Q :=
  fun outside => hQ _ _ (h outside)

theorem Ensures.pure {a : α} (h : Q (.ok a) log) : Ensures (pure a : Session σ ν ε α) log Q :=
  fun _ => h

theorem Ensures.lift {x : Except ε α} (h : Q x log) : Ensures (lift x : Session σ ν ε α) log Q :=
  fun _ => h

theorem Ensures.ask {answer : σ → α × σ} (h : ∀ a, Q (.ok a) log) :
    Ensures (ask answer : Session σ ν ε α) log Q :=
  fun outside => h (answer outside).1

/-- **Sequencing**: `R` stands between the two parts. -/
theorem Ensures.bind (hp : Ensures p log R) (hf : ∀ a log', R (.ok a) log' → Ensures (f a) log' S)
    (hraise : ∀ e log', R (.error e) log' → S (.error e) log') : Ensures (p >>= f) log S := by
  intro outside
  have h := hp outside
  change S (Session.andThen p f ⟨outside, log⟩).1 (Session.andThen p f ⟨outside, log⟩).2.log
  unfold Session.andThen
  rcases hrun : p ⟨outside, log⟩ with ⟨e | a, w⟩
  · rw [hrun] at h
    exact hraise e w.log h
  · rw [hrun] at h
    exact hf a w.log h w.outside

theorem Ensures.emit_bind {event : ν} {f : Unit → Session σ ν ε β}
    (h : Ensures (f ()) (log ++ [event]) S) : Ensures (emit event >>= f) log S :=
  fun outside => h outside

theorem Ensures.ask_bind {answer : σ → α × σ} (h : ∀ a, Ensures (f a) log S) :
    Ensures (Sessions.ask answer >>= f) log S :=
  fun outside => h (answer outside).1 (answer outside).2

theorem Ensures.lift_bind {x : Except ε α} (h : ∀ a, x = .ok a → Ensures (f a) log S)
    (hraise : ∀ e, x = .error e → S (.error e) log) : Ensures (Sessions.lift x >>= f) log S :=
  Ensures.bind (Ensures.lift (Q := fun r log' => r = x ∧ log' = log) ⟨rfl, rfl⟩)
    (fun a _ h' => by obtain ⟨h', rfl⟩ := h'; exact h a h'.symm)
    (fun e _ h' => by obtain ⟨h', rfl⟩ := h'; exact hraise e h'.symm)

/-- What is caught may be anything that the body may end with. -/
theorem Ensures.caught_bind {f : Except ε α → Session σ ν ε β} (hp : Ensures p log R)
    (hf : ∀ r log', R r log' → Ensures (f r) log' S) : Ensures (caught p >>= f) log S := by
  intro outside
  exact hf _ _ (hp outside) _

/-- **The rule of the loop.**  `I items state log` holds before the items that are left;
the body keeps it, and what leaves the loop, by a value, an error or at its end, is in
`Q`. -/
theorem Ensures.each {body : γ → β → Session σ ν ε (α ⊕ β)}
    {I : List γ → β → List ν → Prop} {Q : Except ε (α ⊕ β) → List ν → Prop}
    (step : ∀ item items state log, I (item :: items) state log →
      Ensures (body item state) log fun r log' =>
        match r with
        | .ok (.inr state') => I items state' log'
        | other => Q other log')
    (done : ∀ state log, I [] state log → Q (.ok (.inr state)) log) {items : List γ} {state : β}
    (h : I items state log) : Ensures (each body items state) log Q := by
  induction items generalizing state log with
  | nil => exact Ensures.pure (done state log h)
  | cons item items ih =>
    refine Ensures.bind (step item items state log h) ?_ fun e log' h' => h'
    rintro (a | state') log' h'
    · exact Ensures.pure h'
    · exact ih h'

/-! ### Programs that keep the log as it is -/

/-- The program leaves the log as it is, whatever it returns. -/
def Silent (p : Session σ ν ε α) : Prop :=
  ∀ log, Ensures p log fun _ log' => log' = log

theorem Silent.pure (a : α) : Silent (pure a : Session σ ν ε α) := fun _ => Ensures.pure rfl

theorem Silent.lift (x : Except ε α) : Silent (Sessions.lift x : Session σ ν ε α) :=
  fun _ => Ensures.lift rfl

theorem Silent.ask (answer : σ → α × σ) : Silent (Sessions.ask answer : Session σ ν ε α) :=
  fun _ => Ensures.ask fun _ => rfl

theorem Silent.invoke (answer : σ → Except ε α × σ) :
    Silent (Sessions.invoke answer : Session σ ν ε α) :=
  fun _ => Ensures.ask_bind fun _ => Ensures.lift rfl

/-- **The statements after a silent program** start with the log that it started with. -/
theorem Ensures.silent_bind (hp : Silent p) (hf : ∀ a, Ensures (f a) log S)
    (hraise : ∀ e, S (.error e) log) : Ensures (p >>= f) log S := by
  refine Ensures.bind (hp log) ?_ ?_
  · rintro a _ rfl
    exact hf a
  · rintro e _ rfl
    exact hraise e

theorem Silent.bind (hp : Silent p) (hf : ∀ a, Silent (f a)) : Silent (p >>= f) :=
  fun log => Ensures.silent_bind hp (fun a => hf a log) fun _ => rfl

/-- What is ensured of a program holds of every run of it. -/
theorem Ensures.run (h : Ensures p log Q) (w : World σ ν) (hlog : w.log = log) :
    Q (p w).1 (p w).2.log := by
  obtain ⟨outside, log'⟩ := w
  obtain rfl : log' = log := hlog
  exact h outside

end Sessions
