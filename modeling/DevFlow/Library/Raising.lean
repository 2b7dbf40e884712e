/-
# Code that raises

Python functions of the kind

    if condition: raise error
    value = callee(...)
    ...

are `do` blocks of `Except ε`.  What a caller needs of such a block is what a
*successful* call tells: which conditions were false and which values the
callees returned.  `bind_eq_ok` and `raiseIf_eq_ok` say exactly that, one
statement of the block at a time, and as simp lemmas they turn
`f x = .ok y` into the conjunction of everything `f` checked.  A `for` loop that
may raise is `foldlM`, and `foldlM_invariant` is its rule.
-/

import Mathlib.Data.List.Forall2
import Mathlib.Tactic.SplitIfs

namespace Raising

universe u v w

variable {ε : Type u} {α : Type v} {β : Type v}

/-- `if condition: raise error`. -/
def raiseIf (condition : Prop) [Decidable condition] (error : ε) : Except ε PUnit.{v + 1} :=
  if condition then .error error else .ok ⟨⟩

/-- **A check that was passed is false.** -/
@[simp] theorem raiseIf_eq_ok {condition : Prop} [Decidable condition] {error : ε}
    {x : PUnit.{v + 1}} : raiseIf condition error = .ok x ↔ ¬condition := by
  unfold raiseIf
  split_ifs with h <;> simp [h]

/-- A check whose condition holds raises its own error. -/
theorem raiseIf_of {condition : Prop} [Decidable condition] (h : condition) (error : ε) :
    (raiseIf condition error : Except ε PUnit.{v + 1}) = .error error := by
  simp [raiseIf, h]

/-- A check whose condition fails lets the block go on. -/
theorem raiseIf_of_not {condition : Prop} [Decidable condition] (h : ¬condition) (error : ε) :
    (raiseIf condition error : Except ε PUnit.{v + 1}) = .ok ⟨⟩ := by
  simp [raiseIf, h]

/-- **A block succeeds when its first statement does and the rest does on
what that returned.** -/
@[simp] theorem bind_eq_ok {x : Except ε α} {f : α → Except ε β} {b : β} :
    (x >>= f) = .ok b ↔ ∃ a, x = .ok a ∧ f a = .ok b := by
  cases x <;> simp [bind, Except.bind]

/-- A block returns when its first statement does and the rest does on what that returned. -/
theorem exists_bind_eq_ok {x : Except ε α} {f : α → Except ε β} (hx : ∃ a, x = .ok a)
    (hf : ∀ a, x = .ok a → ∃ b, f a = .ok b) : ∃ b, (x >>= f) = .ok b := by
  obtain ⟨a, ha⟩ := hx
  obtain ⟨b, hb⟩ := hf a ha
  exact ⟨b, bind_eq_ok.2 ⟨a, ha, hb⟩⟩

/-- **A block raises when its first statement does, or the rest on what that returned.** -/
theorem bind_eq_error {x : Except ε α} {f : α → Except ε β} {e : ε} :
    (x >>= f) = .error e ↔ x = .error e ∨ ∃ a, x = .ok a ∧ f a = .error e := by
  cases x <;> simp [bind, Except.bind]

theorem raiseIf_eq_error {condition : Prop} [Decidable condition] {error e : ε} :
    (raiseIf condition error : Except ε PUnit.{v + 1}) = .error e ↔ condition ∧ error = e := by
  unfold raiseIf
  split_ifs with h <;> simp [h]

/-- A block whose first statement raises raises the same error. -/
@[simp] theorem error_bind {e : ε} {f : α → Except ε β} : (.error e >>= f) = .error e := rfl

/-- A block whose first statement returns goes on with what it returned. -/
@[simp] theorem ok_bind {a : α} {f : α → Except ε β} : (.ok a >>= f) = f a := rfl

@[simp] theorem pure_eq_ok {a b : α} : (pure a : Except ε α) = .ok b ↔ a = b := by
  simp [pure, Except.pure]

@[simp] theorem throw_ne_ok {e : ε} {b : α} : (throw e : Except ε α) = .ok b ↔ False := by
  simp [throw, throwThe, MonadExceptOf.throw]

theorem toOption_eq_some {x : Except ε α} {a : α} : x.toOption = some a ↔ x = .ok a := by
  cases x <;> simp [Except.toOption]

theorem map_eq_ok {f : α → β} {x : Except ε α} {b : β} :
    f <$> x = .ok b ↔ ∃ a, x = .ok a ∧ f a = b := by
  cases x with
  | error e => simp [Functor.map, Except.map]
  | ok a => simp [Functor.map, Except.map]

/-- A returned pair, read at its second component. -/
theorem map_snd_eq_ok {x : Except ε (α × β)} {b : β} :
    x.map Prod.snd = .ok b ↔ ∃ a, x = .ok (a, b) := by
  cases x with
  | ok p => simp [Except.map, Prod.ext_iff]
  | error e => simp [Except.map]

/-- `except ... raise ... from`: a renamed error does not change what is returned. -/
theorem mapError_eq_ok {ε' : Type w} {f : ε → ε'} {x : Except ε α} {a : α} :
    x.mapError f = .ok a ↔ x = .ok a := by
  cases x <;> simp [Except.mapError]

/-- **A loop of checks passes when each of them does.** -/
@[simp] theorem forM_eq_ok {γ : Type w} {f : γ → Except ε PUnit.{v + 1}} {l : List γ}
    {x : PUnit.{v + 1}} : l.forM f = .ok x ↔ ∀ c ∈ l, f c = .ok ⟨⟩ := by
  induction l with
  | nil => simp [pure, Except.pure]
  | cons c l ih =>
    rw [List.forM, bind_eq_ok, List.forall_mem_cons, ih]
    exact ⟨fun ⟨_, hc, hl⟩ => ⟨hc, hl⟩, fun ⟨hc, hl⟩ => ⟨⟨⟩, hc, hl⟩⟩

/-- A loop of checks raises what one of them raises. -/
theorem forM_eq_error {γ : Type w} {f : γ → Except ε PUnit.{v + 1}} {l : List γ} {e : ε}
    (h : l.forM f = .error e) : ∃ c ∈ l, f c = .error e := by
  induction l with
  | nil => cases h
  | cons c l ih =>
    rcases bind_eq_error.1 h with hc | ⟨_, -, hl⟩
    · exact ⟨c, List.mem_cons_self, hc⟩
    · obtain ⟨c', hc', hfail⟩ := ih hl
      exact ⟨c', List.mem_cons_of_mem _ hc', hfail⟩

/-- **A comprehension returns when each of its calls does.** -/
theorem mapM_eq_ok {γ : Type w} {f : γ → Except ε α} {l : List γ} {r : List α} :
    l.mapM f = .ok r ↔ List.Forall₂ (fun c a => f c = .ok a) l r := by
  induction l generalizing r with
  | nil => simp [pure, Except.pure, eq_comm]
  | cons c l ih =>
    rw [List.mapM_cons, bind_eq_ok]
    simp only [bind_eq_ok, pure_eq_ok, ih, List.forall₂_cons_left_iff]
    constructor
    · rintro ⟨a, hc, r', hl, rfl⟩
      exact ⟨a, r', hc, hl, rfl⟩
    · rintro ⟨a, r', hc, hl, rfl⟩
      exact ⟨a, hc, r', hl, rfl⟩

/-- What stands in the first list has a partner in the second. -/
theorem exists_of_forall₂_left {γ : Type w} {R : α → γ → Prop} {l : List α} {r : List γ}
    (h : List.Forall₂ R l r) {a : α} (ha : a ∈ l) : ∃ c ∈ r, R a c := by
  induction h with
  | nil => cases ha
  | cons hac _ ih =>
    rcases List.mem_cons.1 ha with rfl | ha
    · exact ⟨_, List.mem_cons_self, hac⟩
    · obtain ⟨c, hc, hR⟩ := ih ha
      exact ⟨c, List.mem_cons_of_mem _ hc, hR⟩

/-- **A comprehension returns what its calls return.** -/
theorem mem_iff_of_mapM_eq_ok {γ : Type w} {f : γ → Except ε α} {l : List γ} {r : List α}
    (h : l.mapM f = .ok r) {a : α} : a ∈ r ↔ ∃ c ∈ l, f c = .ok a := by
  rw [mapM_eq_ok] at h
  induction h with
  | nil => simp
  | @cons c b l r hcb _ ih =>
    have hhead : a = b ↔ f c = .ok a := by
      rw [hcb, Except.ok.injEq]
      exact eq_comm
    simp only [List.mem_cons, ih, hhead, exists_eq_or_imp]

/-- A comprehension returns when all of its calls do. -/
theorem exists_mapM_eq_ok {γ : Type w} {f : γ → Except ε α} {l : List γ} :
    (∃ r, l.mapM f = .ok r) ↔ ∀ c ∈ l, ∃ a, f c = .ok a := by
  constructor
  · rintro ⟨r, h⟩ c hc
    obtain ⟨a, -, ha⟩ := exists_of_forall₂_left (mapM_eq_ok.1 h) hc
    exact ⟨a, ha⟩
  · intro h
    induction l with
    | nil => exact ⟨[], rfl⟩
    | cons c l ih =>
      obtain ⟨a, ha⟩ := h c List.mem_cons_self
      obtain ⟨r, hr⟩ := ih fun c' hc' => h c' (List.mem_cons_of_mem _ hc')
      exact ⟨a :: r, mapM_eq_ok.2 (.cons ha (mapM_eq_ok.1 hr))⟩

/-- A normalising comprehension accepts what it returned. -/
theorem mapM_stable {f : α → Except ε α} (stable : ∀ a b, f a = .ok b → f b = .ok b)
    {l r : List α} (h : l.mapM f = .ok r) : r.mapM f = .ok r := by
  rw [mapM_eq_ok] at h ⊢
  induction h with
  | nil => exact List.Forall₂.nil
  | cons hab _ ih => exact List.Forall₂.cons (stable _ _ hab) ih

/-- A comprehension raises what one of its calls raises. -/
theorem mapM_eq_error {γ : Type w} {f : γ → Except ε α} {l : List γ} {e : ε}
    (h : l.mapM f = .error e) : ∃ c ∈ l, f c = .error e := by
  induction l with
  | nil => cases h
  | cons c l ih =>
    rw [List.mapM_cons] at h
    rcases bind_eq_error.1 h with hc | ⟨_, -, h⟩
    · exact ⟨c, List.mem_cons_self, hc⟩
    rcases bind_eq_error.1 h with hl | ⟨_, -, h⟩
    · obtain ⟨c', hc', hfail⟩ := ih hl
      exact ⟨c', List.mem_cons_of_mem _ hc', hfail⟩
    · cases h

/-- **What every round of a loop keeps holds after the loop.** -/
theorem foldlM_invariant_mem {γ : Type w} {P : α → Prop} {f : α → γ → Except ε α} {l : List γ}
    (keep : ∀ a, ∀ c ∈ l, ∀ b, P a → f a c = .ok b → P b) {a b : α} (ha : P a)
    (h : l.foldlM f a = .ok b) : P b := by
  induction l generalizing a with
  | nil => exact pure_eq_ok.1 h ▸ ha
  | cons c l ih =>
    obtain ⟨a', hround, hrest⟩ := bind_eq_ok.1 h
    exact ih (fun a d hd => keep a d (List.mem_cons_of_mem c hd))
      (keep a c List.mem_cons_self a' ha hround) hrest

/-- The same for a loop over anything. -/
theorem foldlM_invariant {γ : Type w} {P : α → Prop} {f : α → γ → Except ε α}
    (keep : ∀ a c b, P a → f a c = .ok b → P b) {l : List γ} {a b : α} (ha : P a)
    (h : l.foldlM f a = .ok b) : P b :=
  foldlM_invariant_mem (fun a c _ b => keep a c b) ha h

/-- One more round after a loop that went through. -/
theorem foldlM_concat {γ : Type w} {f : α → γ → Except ε α} {l : List γ} {c : γ} {a b b' : α}
    (h : l.foldlM f a = .ok b) (hround : f b c = .ok b') : (l ++ [c]).foldlM f a = .ok b' := by
  simp [List.foldlM_append, h, hround]

/-- **A loop goes through in another setting** when each of its rounds does, in the
states that the loop can be in. -/
theorem foldlM_map {γ : Type w} {α' : Type v} {P : α → Prop} {f : α → γ → Except ε α}
    {f' : α' → γ → Except ε α'} (g : α → α')
    (round : ∀ a c b, P a → f a c = .ok b → P b ∧ f' (g a) c = .ok (g b)) {l : List γ} {a b : α}
    (ha : P a) (h : l.foldlM f a = .ok b) : l.foldlM f' (g a) = .ok (g b) := by
  induction l generalizing a with
  | nil => exact congrArg (fun x => Except.ok (g x)) (pure_eq_ok.1 h)
  | cons c l ih =>
    obtain ⟨a', hround, hrest⟩ := bind_eq_ok.1 h
    obtain ⟨ha', hround'⟩ := round a c a' ha hround
    exact bind_eq_ok.2 ⟨g a', hround', ih ha' hrest⟩

/-- A value that was checked to be there. -/
theorem exists_of_isOk {x : Except ε α} (h : x.isOk = true) : ∃ a, x = .ok a := by
  cases x with
  | ok a => exact ⟨a, rfl⟩
  | error e => cases h

end Raising
