/-
# Programs that may be stopped between two writes

A program over a durable state reads it, raises, and writes it one change at a
time; between two changes the process may die, and the state stays as it is.
`Outcome` keeps every state a call goes through, so that what a stopped call can
leave behind is a member of `Outcome.states` and what a completed call returns
is `Outcome.result` in `Outcome.final`.

`Spec P p C Q` is a triple with a crash condition: from a state of `P` every
state that `p` goes through satisfies `C`, and when `p` ends, its result and
the last state satisfy `Q`.  There is one rule for each way to build a program.
-/

import Mathlib.Data.List.Basic
import Mathlib.Tactic.SplitIfs

namespace Durable

variable {σ ε α β : Type}

/-- What a call did: the states it went through before the last one, oldest
first, the last one, and the value or the error. -/
structure Outcome (σ ε α : Type) where
  result : Except ε α
  passed : List σ
  final : σ

/-- Every state that the call may leave behind when it is stopped. -/
def Outcome.states (o : Outcome σ ε α) : List σ :=
  o.passed ++ [o.final]

/-- A program over the state. -/
def Prog (σ ε α : Type) : Type :=
  σ → Outcome σ ε α

/-- The statements after `x`, in the state and with the value it left. -/
def Prog.andThen (x : Prog σ ε α) (f : α → Prog σ ε β) : Prog σ ε β := fun s =>
  match (x s).result with
  | .error e => ⟨.error e, (x s).passed, (x s).final⟩
  | .ok a =>
    let rest := f a (x s).final
    ⟨rest.result, (x s).passed ++ rest.passed, rest.final⟩

instance : Monad (Prog σ ε) where
  pure a := fun s => ⟨.ok a, [], s⟩
  bind := Prog.andThen

/-- The state. -/
def read : Prog σ ε σ := fun s => ⟨.ok s, [], s⟩

/-- A computation that does not write. -/
def lift (x : Except ε α) : Prog σ ε α := fun s => ⟨x, [], s⟩

/-- `if condition: raise error`. -/
def raiseIf (condition : Prop) [Decidable condition] (error : ε) : Prog σ ε Unit :=
  lift (if condition then .error error else .ok ())

/-- One change of the state. -/
def write (f : σ → σ) : Prog σ ε Unit := fun s => ⟨.ok (), [s], f s⟩

/-- A change that is made or refused as a whole, and whether it was made. -/
def attempt (f : σ → Option σ) : Prog σ ε Bool := fun s =>
  match f s with
  | some t => ⟨.ok true, [s], t⟩
  | none => ⟨.ok false, [], s⟩

/-- A transaction: it commits as a whole or raises. -/
def transact (f : σ → Except ε (α × σ)) : Prog σ ε α := fun s =>
  match f s with
  | .ok (a, t) => ⟨.ok a, [s], t⟩
  | .error e => ⟨.error e, [], s⟩

/-- `try: p finally: q`, with a `q` that does not raise. -/
def ensuring (p : Prog σ ε α) (q : Prog σ ε Unit) : Prog σ ε α := fun s =>
  let rest := q (p s).final
  ⟨(p s).result, (p s).passed ++ rest.passed, rest.final⟩

/-- `try: p except Exception`: the value or the error, to go on with. -/
def caught (p : Prog σ ε α) : Prog σ ε (Except ε α) := fun s =>
  ⟨.ok (p s).result, (p s).passed, (p s).final⟩

/-- A program over a part of the state. -/
def zoom {τ : Type} (get : σ → τ) (put : σ → τ → σ) (p : Prog τ ε α) : Prog σ ε α := fun s =>
  ⟨(p (get s)).result, (p (get s)).passed.map (put s), put s (p (get s)).final⟩

section outcomes

variable {s : σ}

@[simp] theorem pure_apply {a : α} : (pure a : Prog σ ε α) s = ⟨.ok a, [], s⟩ := rfl

theorem bind_apply {x : Prog σ ε α} {f : α → Prog σ ε β} : (x >>= f) s = Prog.andThen x f s := rfl

@[simp] theorem read_bind {f : σ → Prog σ ε β} : ((read : Prog σ ε σ) >>= f) s = f s s := rfl

@[simp] theorem lift_apply {x : Except ε α} : (lift x : Prog σ ε α) s = ⟨x, [], s⟩ := rfl

@[simp] theorem lift_ok_bind {a : α} {f : α → Prog σ ε β} :
    ((lift (.ok a) : Prog σ ε α) >>= f) s = f a s := rfl

@[simp] theorem lift_error_bind {e : ε} {f : α → Prog σ ε β} :
    ((lift (.error e) : Prog σ ε α) >>= f) s = ⟨.error e, [], s⟩ := rfl

@[simp] theorem pure_bind_apply {a : α} {f : α → Prog σ ε β} :
    ((pure a : Prog σ ε α) >>= f) s = f a s := rfl

/-- **What a call that returned did**: its first part returned, and then the rest
did. -/
theorem bind_result_eq_ok {x : Prog σ ε α} {f : α → Prog σ ε β} {b : β} :
    ((x >>= f) s).result = .ok b ↔
      ∃ a, (x s).result = .ok a ∧ (f a (x s).final).result = .ok b := by
  change (Prog.andThen x f s).result = .ok b ↔ _
  unfold Prog.andThen
  cases (x s).result with
  | error e => simp
  | ok a => simp

/-- The last state of a call whose first part returned. -/
theorem bind_final_of_ok {x : Prog σ ε α} {f : α → Prog σ ε β} {a : α}
    (h : (x s).result = .ok a) : ((x >>= f) s).final = (f a (x s).final).final := by
  change (Prog.andThen x f s).final = _
  unfold Prog.andThen
  rw [h]

/-- Sequences are read from the left. -/
theorem bind_assoc {γ : Type} {x : Prog σ ε α} {f : α → Prog σ ε β} {h : β → Prog σ ε γ} :
    ((x >>= f) >>= h) = (x >>= fun a => f a >>= h) := by
  funext s
  simp only [bind_apply, Prog.andThen]
  cases (x s).result with
  | error e => rfl
  | ok a =>
    dsimp only
    cases (f a (x s).final).result with
    | error e => rfl
    | ok b => simp [List.append_assoc]

/-- A value that is thrown away. -/
theorem discard_bind {x : Prog σ ε α} {f : Prog σ ε β} :
    ((x >>= fun _ => pure PUnit.unit) >>= fun _ => f) = (x >>= fun _ => f) := by
  funext s
  simp only [bind_apply, Prog.andThen]
  cases (x s).result with
  | error e => rfl
  | ok a => simp

/-- A check that is passed. -/
theorem raiseIf_bind_of_not {condition : Prop} [Decidable condition] {error : ε}
    {f : Unit → Prog σ ε β} (h : ¬condition) : (raiseIf condition error >>= f) s = f () s := by
  rw [raiseIf, if_neg h, lift_ok_bind]

/-- A check that raises. -/
theorem raiseIf_bind_of {condition : Prop} [Decidable condition] {error : ε}
    {f : Unit → Prog σ ε β} (h : condition) :
    (raiseIf condition error >>= f) s = ⟨.error error, [], s⟩ := by
  rw [raiseIf, if_pos h, lift_error_bind]

/-- A call that returned passed its first check. -/
theorem not_of_raiseIf_bind_result {condition : Prop} [Decidable condition] {error : ε}
    {f : Unit → Prog σ ε β} {b : β} (h : ((raiseIf condition error >>= f) s).result = .ok b) :
    ¬condition := by
  intro hcondition
  rw [raiseIf_bind_of hcondition] at h
  cases h

@[simp] theorem caught_bind_result {p : Prog σ ε α} {f : Except ε α → Prog σ ε β} :
    ((caught p >>= f) s).result = (f (p s).result (p s).final).result := rfl

@[simp] theorem caught_bind_final {p : Prog σ ε α} {f : Except ε α → Prog σ ε β} :
    ((caught p >>= f) s).final = (f (p s).result (p s).final).final := rfl

/-- What follows a change that is made. -/
theorem attempt_bind_of_some {f : σ → Option σ} {t : σ} {g : Bool → Prog σ ε β}
    (h : f s = some t) : (attempt f >>= g) s =
      ⟨(g true t).result, s :: (g true t).passed, (g true t).final⟩ := by
  simp [bind_apply, Prog.andThen, attempt, h]

end outcomes

/-- **The triple with a crash condition.** -/
def Spec (P : σ → Prop) (p : Prog σ ε α) (C : σ → Prop) (Q : Except ε α → σ → Prop) : Prop :=
  ∀ s, P s → (∀ t ∈ (p s).states, C t) ∧ Q (p s).result (p s).final

section rules

variable {P P' C : σ → Prop} {Q Q' : Except ε α → σ → Prop} {R : Except ε β → σ → Prop}

theorem Spec.weaken {p : Prog σ ε α} (h : Spec P p C Q) (hP : ∀ s, P' s → P s)
    (hQ : ∀ r s, Q r s → Q' r s) : Spec P' p C Q' :=
  fun s hs => ⟨(h s (hP s hs)).1, hQ _ _ (h s (hP s hs)).2⟩

theorem Spec.pure {a : α} (hC : ∀ s, P s → C s) (hQ : ∀ s, P s → Q (.ok a) s) :
    Spec P (pure a : Prog σ ε α) C Q := by
  intro s hs
  refine ⟨?_, hQ s hs⟩
  intro t ht
  obtain rfl := List.mem_singleton.1 ht
  exact hC _ hs

theorem Spec.lift {x : Except ε α} (hC : ∀ s, P s → C s) (hQ : ∀ s, P s → Q x s) :
    Spec P (lift x : Prog σ ε α) C Q := by
  intro s hs
  refine ⟨?_, hQ s hs⟩
  intro t ht
  obtain rfl := List.mem_singleton.1 ht
  exact hC _ hs

theorem Spec.write {f : σ → σ} {Q : Except ε Unit → σ → Prop} (hC : ∀ s, P s → C s)
    (hC' : ∀ s, P s → C (f s)) (hQ : ∀ s, P s → Q (.ok ()) (f s)) :
    Spec P (write f : Prog σ ε Unit) C Q := by
  intro s hs
  refine ⟨?_, hQ s hs⟩
  intro t ht
  rcases List.mem_cons.1 ht with rfl | ht
  · exact hC _ hs
  · obtain rfl := List.mem_singleton.1 ht
    exact hC' _ hs

theorem Spec.transact {f : σ → Except ε (α × σ)} (hC : ∀ s, P s → C s)
    (hok : ∀ s a t, P s → f s = .ok (a, t) → C t ∧ Q (.ok a) t)
    (herror : ∀ s e, P s → f s = .error e → Q (.error e) s) :
    Spec P (transact f) C Q := by
  intro s hs
  unfold Durable.transact Outcome.states
  split
  · rename_i a t hf
    obtain ⟨ht, hQ⟩ := hok s a t hs hf
    refine ⟨?_, hQ⟩
    simp [hC s hs, ht]
  · rename_i e hf
    refine ⟨?_, herror s e hs hf⟩
    simp [hC s hs]

/-- **Sequential composition.** -/
theorem Spec.bind {x : Prog σ ε α} {f : α → Prog σ ε β} (hx : Spec P x C Q)
    (hok : ∀ a, Spec (Q (.ok a)) (f a) C R) (herror : ∀ e s, Q (.error e) s → R (.error e) s) :
    Spec P (x >>= f) C R := by
  intro s hs
  obtain ⟨hstates, hend⟩ := hx s hs
  have hpassed : ∀ t ∈ (x s).passed, C t := fun t ht => hstates t (List.mem_append_left _ ht)
  change (∀ t ∈ (Prog.andThen x f s).states, C t) ∧
    R (Prog.andThen x f s).result (Prog.andThen x f s).final
  unfold Prog.andThen
  cases hresult : (x s).result with
  | error e =>
    rw [hresult] at hend
    exact ⟨hstates, herror e _ hend⟩
  | ok a =>
    rw [hresult] at hend
    obtain ⟨hrest, hR⟩ := hok a _ hend
    refine ⟨?_, hR⟩
    intro t ht
    simp only [Outcome.states, List.append_assoc, List.mem_append] at ht
    rcases ht with ht | ht
    · exact hpassed t ht
    · exact hrest t (List.mem_append.2 ht)

/-- Sequential composition after a computation that does not write. -/
theorem Spec.lift_bind {x : Except ε α} {f : α → Prog σ ε β} (hC : ∀ s, P s → C s)
    (hok : ∀ a, x = .ok a → Spec P (f a) C R)
    (herror : ∀ e, x = .error e → ∀ s, P s → R (.error e) s) :
    Spec P (Durable.lift x >>= f) C R := by
  refine Spec.bind (Q := fun r s => r = x ∧ P s)
    (Spec.lift hC fun s hs => ⟨rfl, hs⟩) (fun a => ?_) fun e s ⟨hx, hs⟩ => herror e hx.symm s hs
  intro s ⟨hx, hs⟩
  exact hok a hx.symm s hs

/-- Sequential composition after a check. -/
theorem Spec.raiseIf_bind {condition : Prop} [Decidable condition] {error : ε}
    {f : Unit → Prog σ ε β} (hC : ∀ s, P s → C s) (hok : ¬condition → Spec P (f ()) C R)
    (herror : condition → ∀ s, P s → R (.error error) s) :
    Spec P (Durable.raiseIf condition error >>= f) C R := by
  refine Spec.lift_bind hC (fun a ha => ?_) fun e he => ?_
  · split_ifs at ha with h
    exact hok h
  · split_ifs at he with h
    obtain rfl := Except.error.inj he
    exact herror h

/-- The state at hand may be read at any point. -/
theorem Spec.read_bind {f : σ → Prog σ ε β} (h : ∀ s, P s → Spec (· = s) (f s) C R) :
    Spec P (read >>= f) C R :=
  fun s hs => h s hs s rfl

/-- What is read need not be kept apart from what holds of it. -/
theorem Spec.read_keep {f : σ → Prog σ ε β} (h : ∀ s, P s → Spec P (f s) C R) :
    Spec P (read >>= f) C R :=
  fun s hs => h s hs s hs

/-- Sequential composition after a computation that returns. -/
theorem Spec.lift_bind_of_ok {x : Except ε α} {a : α} {f : α → Prog σ ε β} (hx : x = .ok a)
    (hf : Spec P (f a) C R) : Spec P (Durable.lift x >>= f) C R := by
  intro s hs
  rw [hx, lift_ok_bind]
  exact hf s hs

/-- The crash condition may be weakened as well. -/
theorem Spec.mono {C' : σ → Prop} {p : Prog σ ε α} (h : Spec P p C Q) (hC : ∀ s, C s → C' s) :
    Spec P p C' Q :=
  fun s hs => ⟨fun t ht => hC t ((h s hs).1 t ht), (h s hs).2⟩

/-- What is known apart from the state. -/
theorem Spec.given {K : Prop} {p : Prog σ ε α} (h : K → Spec P p C Q) :
    Spec (fun s => P s ∧ K) p C Q :=
  fun s hs => h hs.2 s hs.1

/-- A change that is made before the rest. -/
theorem Spec.write_bind {g : σ → σ} {f : Unit → Prog σ ε β} (M : σ → Prop)
    (hC : ∀ s, P s → C s) (hg : ∀ s, P s → M (g s)) (hf : Spec M (f ()) C R) :
    Spec P (Durable.write g >>= f) C R := by
  intro s hs
  obtain ⟨hstates, hend⟩ := hf (g s) (hg s hs)
  refine ⟨?_, hend⟩
  intro t ht
  rcases List.mem_cons.1 ht with rfl | ht
  · exact hC _ hs
  · exact hstates t ht

/-- The value of a call put into another form. -/
theorem Spec.map {g : α → β} {p : Prog σ ε α} (hp : Spec P p C Q)
    (hR : ∀ r s, Q r s → R (r.map g) s) : Spec P (g <$> p) C R := by
  intro s hs
  obtain ⟨hstates, hend⟩ := hp s hs
  have hrest := hR _ _ hend
  change (∀ t ∈ (Prog.andThen p (fun a => Pure.pure (g a)) s).states, C t) ∧
    R (Prog.andThen p (fun a => Pure.pure (g a)) s).result
      (Prog.andThen p (fun a => Pure.pure (g a)) s).final
  unfold Prog.andThen
  cases hresult : (p s).result with
  | error e =>
    rw [hresult] at hrest
    exact ⟨hstates, hrest⟩
  | ok a =>
    rw [hresult] at hrest
    refine ⟨?_, hrest⟩
    simpa [Outcome.states] using hstates

/-- A program over a part of the state. -/
theorem Spec.zoom {τ : Type} {get : σ → τ} {put : σ → τ → σ} {p : Prog τ ε α}
    (h : ∀ s, P s → (∀ t, C (put s t)) ∧ Q (p (get s)).result (put s (p (get s)).final)) :
    Spec P (zoom get put p) C Q := by
  intro s hs
  obtain ⟨hC, hQ⟩ := h s hs
  refine ⟨?_, hQ⟩
  intro t ht
  rcases List.mem_append.1 ht with ht | ht
  · obtain ⟨u, -, rfl⟩ := List.mem_map.1 ht
    exact hC u
  · obtain rfl := List.mem_singleton.1 ht
    exact hC _

theorem Spec.ensuring {p : Prog σ ε α} {q : Prog σ ε Unit} {S : Except ε α → σ → Prop}
    (hp : Spec P p C Q) (hq : ∀ r, Spec (Q r) q C fun _ s => S r s) :
    Spec P (ensuring p q) C S := by
  intro s hs
  obtain ⟨hstates, hend⟩ := hp s hs
  obtain ⟨hrest, hS⟩ := hq _ _ hend
  refine ⟨?_, hS⟩
  intro t ht
  simp only [Durable.ensuring, Outcome.states, List.append_assoc, List.mem_append] at ht
  rcases ht with ht | ht
  · exact hstates t (List.mem_append_left _ ht)
  · exact hrest t (List.mem_append.2 ht)

end rules

/-- A call leads from a state to a related one, whatever it returns. -/
def Leads (R : σ → σ → Prop) (p : Prog σ ε α) : Prop :=
  ∀ s, R s (p s).final

section leads

variable {R : σ → σ → Prop}

theorem Leads.lift (refl : ∀ s, R s s) (x : Except ε α) : Leads R (lift x : Prog σ ε α) :=
  fun s => refl s

theorem Leads.pure (refl : ∀ s, R s s) (a : α) : Leads R (pure a : Prog σ ε α) :=
  fun s => refl s

theorem Leads.raiseIf (refl : ∀ s, R s s) (condition : Prop) [Decidable condition] (error : ε) :
    Leads R (raiseIf condition error : Prog σ ε Unit) :=
  Leads.lift refl _

theorem Leads.write {f : σ → σ} (h : ∀ s, R s (f s)) : Leads R (write f : Prog σ ε Unit) := h

theorem Leads.transact {f : σ → Except ε (α × σ)} (refl : ∀ s, R s s)
    (h : ∀ s a t, f s = .ok (a, t) → R s t) : Leads R (transact f) := by
  intro s
  unfold Durable.transact
  split
  · rename_i a t hf
    exact h s a t hf
  · exact refl s

theorem Leads.bind {x : Prog σ ε α} {f : α → Prog σ ε β}
    (trans : ∀ {s t u}, R s t → R t u → R s u) (hx : Leads R x) (hf : ∀ a, Leads R (f a)) :
    Leads R (x >>= f) := by
  intro s
  change R s (Prog.andThen x f s).final
  unfold Prog.andThen
  split
  · exact hx s
  · exact trans (hx s) (hf _ _)

/-- What follows a call that returned leads on from the state it left. -/
theorem Leads.after {x : Prog σ ε α} {f : α → Prog σ ε β} {s t : σ} {a : α} {passed : List σ}
    (hx : x s = ⟨.ok a, passed, t⟩) (hf : Leads R (f a)) : R t ((x >>= f) s).final := by
  change R t (Prog.andThen x f s).final
  unfold Prog.andThen
  rw [hx]
  exact hf t

/-- The state at hand may be read at any point. -/
theorem Leads.read_bind {f : σ → Prog σ ε β} (h : ∀ s, Leads R (f s)) :
    Leads R (read >>= f) :=
  fun s => h s s

theorem Leads.map {g : α → β} {x : Prog σ ε α} (hx : Leads R x) : Leads R (g <$> x) := by
  intro s
  change R s (Prog.andThen x (fun a => Pure.pure (g a)) s).final
  unfold Prog.andThen
  split <;> exact hx s

theorem Leads.caught {p : Prog σ ε α} (hp : Leads R p) : Leads R (caught p) := hp

end leads

/-- A call keeps a predicate in every state it goes through. -/
def Keeps (I : σ → Prop) (p : Prog σ ε α) : Prop :=
  ∀ s, I s → ∀ t ∈ (p s).states, I t

section keeps

variable {I : σ → Prop}

theorem final_mem_states (o : Outcome σ ε α) : o.final ∈ o.states :=
  List.mem_append_right _ (List.mem_singleton.2 rfl)

theorem Keeps.final {p : Prog σ ε α} (h : Keeps I p) {s : σ} (hs : I s) : I (p s).final :=
  h s hs _ (final_mem_states _)

theorem Keeps.lift (x : Except ε α) : Keeps I (lift x : Prog σ ε α) := by
  intro s hs t ht
  obtain rfl := List.mem_singleton.1 ht
  exact hs

theorem Keeps.pure (a : α) : Keeps I (pure a : Prog σ ε α) :=
  Keeps.lift (.ok a)

theorem Keeps.raiseIf (condition : Prop) [Decidable condition] (error : ε) :
    Keeps I (raiseIf condition error : Prog σ ε Unit) :=
  Keeps.lift _

theorem Keeps.write {f : σ → σ} (h : ∀ s, I s → I (f s)) : Keeps I (write f : Prog σ ε Unit) := by
  intro s hs t ht
  rcases List.mem_cons.1 ht with rfl | ht
  · exact hs
  · obtain rfl := List.mem_singleton.1 ht
    exact h s hs

theorem Keeps.transact {f : σ → Except ε (α × σ)}
    (h : ∀ s a t, I s → f s = .ok (a, t) → I t) : Keeps I (transact f) := by
  intro s hs t ht
  unfold Durable.transact Outcome.states at ht
  split at ht
  · rename_i a u hf
    simp only [List.cons_append, List.nil_append, List.mem_cons, List.not_mem_nil, or_false] at ht
    rcases ht with rfl | rfl
    · exact hs
    · exact h s a _ hs hf
  · obtain rfl := List.mem_singleton.1 ht
    exact hs

/-- **Sequential composition**: the rest is only asked about values that the first part
returned. -/
theorem Keeps.bind {x : Prog σ ε α} {f : α → Prog σ ε β} (hx : Keeps I x)
    (hf : ∀ s a, I s → (x s).result = .ok a → Keeps I (f a)) : Keeps I (x >>= f) := by
  intro s hs t ht
  change t ∈ (Prog.andThen x f s).states at ht
  unfold Prog.andThen at ht
  cases hresult : (x s).result with
  | error e =>
    rw [hresult] at ht
    exact hx s hs t ht
  | ok a =>
    rw [hresult] at ht
    simp only [Outcome.states, List.append_assoc, List.mem_append] at ht
    rcases ht with ht | ht
    · exact hx s hs t (List.mem_append_left _ ht)
    · exact hf s a hs hresult _ (hx.final hs) t (List.mem_append.2 ht)

theorem Keeps.read_bind {f : σ → Prog σ ε β} (h : ∀ s, I s → Keeps I (f s)) :
    Keeps I (read >>= f) :=
  fun s hs => h s hs s hs

theorem Keeps.caught {p : Prog σ ε α} (hp : Keeps I p) : Keeps I (caught p) := hp

end keeps

/-- Every state that the call goes through from `s` satisfies `C`. -/
def Visits (C : σ → Prop) (p : Prog σ ε α) (s : σ) : Prop :=
  ∀ t ∈ (p s).states, C t

section visits

variable {C : σ → Prop} {s : σ}

theorem Visits.lift {x : Except ε α} (hs : C s) : Visits C (lift x : Prog σ ε α) s := by
  intro t ht
  obtain rfl := List.mem_singleton.1 ht
  exact hs

theorem Visits.pure {a : α} (hs : C s) : Visits C (pure a : Prog σ ε α) s :=
  Visits.lift hs

/-- **Sequential composition**, from the state that the first part left. -/
theorem Visits.bind {x : Prog σ ε α} {f : α → Prog σ ε β} (hx : ∀ t ∈ (x s).passed, C t)
    (herror : ∀ e, (x s).result = .error e → C (x s).final)
    (hf : ∀ a, (x s).result = .ok a → Visits C (f a) (x s).final) : Visits C (x >>= f) s := by
  intro t ht
  change t ∈ (Prog.andThen x f s).states at ht
  unfold Prog.andThen at ht
  cases hresult : (x s).result with
  | error e =>
    rw [hresult] at ht
    rcases List.mem_append.1 ht with hpassed | hfinal
    · exact hx t hpassed
    · obtain rfl := List.mem_singleton.1 hfinal
      exact herror e hresult
  | ok a =>
    rw [hresult] at ht
    simp only [Outcome.states, List.append_assoc, List.mem_append] at ht
    rcases ht with ht | ht
    · exact hx t ht
    · exact hf a hresult t (List.mem_append.2 ht)

theorem Visits.lift_bind {x : Except ε α} {f : α → Prog σ ε β} (hs : C s)
    (hf : ∀ a, x = .ok a → Visits C (f a) s) : Visits C (Durable.lift x >>= f) s :=
  Visits.bind (fun _ ht => by cases ht) (fun _ _ => hs) hf

theorem Visits.pure_bind {a : α} {f : α → Prog σ ε β} (h : Visits C (f a) s) :
    Visits C ((Pure.pure a : Prog σ ε α) >>= f) s := h

theorem Visits.raiseIf_bind {condition : Prop} [Decidable condition] {error : ε}
    {f : Unit → Prog σ ε β} (hs : C s) (hf : ¬condition → Visits C (f ()) s) :
    Visits C (Durable.raiseIf condition error >>= f) s := by
  refine Visits.lift_bind hs fun a ha => ?_
  split_ifs at ha with h
  exact hf h

theorem Visits.write_bind {g : σ → σ} {f : Unit → Prog σ ε β} (hs : C s)
    (hf : Visits C (f ()) (g s)) : Visits C (Durable.write g >>= f) s := by
  refine Visits.bind (fun t ht => ?_) (fun e he => by cases he) fun _ _ => hf
  obtain rfl := List.mem_singleton.1 ht
  exact hs

/-- What follows a transaction follows what it committed. -/
theorem Visits.transact_bind {g : σ → Except ε (α × σ)} {f : α → Prog σ ε β} (hs : C s)
    (hf : ∀ a t, g s = .ok (a, t) → Visits C (f a) t) :
    Visits C (Durable.transact g >>= f) s := by
  cases hg : g s with
  | error e =>
    refine Visits.bind (fun t ht => ?_) (fun _ _ => ?_) fun a ha => ?_
    · simp [Durable.transact, hg] at ht
    · simpa [Durable.transact, hg] using hs
    · simp [Durable.transact, hg] at ha
  | ok r =>
    obtain ⟨a, t⟩ := r
    refine Visits.bind (fun u hu => ?_) (fun e he => ?_) fun b hb => ?_
    · simp only [Durable.transact, hg, List.mem_singleton] at hu
      exact hu ▸ hs
    · simp [Durable.transact, hg] at he
    · simp only [Durable.transact, hg, Except.ok.injEq] at hb ⊢
      exact hb ▸ hf a t hg

end visits

/-- The call returned a value and left a state. -/
def Returns (p : Prog σ ε α) (s : σ) (a : α) (t : σ) : Prop :=
  (p s).result = .ok a ∧ (p s).final = t

section returns

variable {s t : σ} {a : α} {b : β}

/-- **A call that returned is read from the left**: its first part returned, and then
the rest did. -/
@[simp] theorem returns_bind {x : Prog σ ε α} {f : α → Prog σ ε β} :
    Returns (x >>= f) s b t ↔ ∃ a u, Returns x s a u ∧ Returns (f a) u b t := by
  constructor
  · rintro ⟨hresult, rfl⟩
    obtain ⟨a, hx, hf⟩ := bind_result_eq_ok.1 hresult
    exact ⟨a, _, ⟨hx, rfl⟩, hf, (bind_final_of_ok hx).symm⟩
  · rintro ⟨a, _, ⟨hx, rfl⟩, hf, rfl⟩
    exact ⟨bind_result_eq_ok.2 ⟨a, hx, hf⟩, bind_final_of_ok hx⟩

@[simp] theorem returns_pure {a' : α} :
    Returns (pure a' : Prog σ ε α) s a t ↔ a' = a ∧ s = t := by
  simp [Returns]

@[simp] theorem returns_read {r : σ} : Returns (read : Prog σ ε σ) s r t ↔ s = r ∧ s = t := by
  simp [Returns, read]

@[simp] theorem returns_lift {x : Except ε α} :
    Returns (lift x : Prog σ ε α) s a t ↔ x = .ok a ∧ s = t := by
  simp [Returns]

@[simp] theorem returns_raiseIf {condition : Prop} [Decidable condition] {error : ε} {u : Unit} :
    Returns (raiseIf condition error : Prog σ ε Unit) s u t ↔ ¬condition ∧ s = t := by
  by_cases h : condition <;> simp [raiseIf, h]

@[simp] theorem returns_write {f : σ → σ} {u : Unit} :
    Returns (write f : Prog σ ε Unit) s u t ↔ f s = t := by
  simp [Returns, write]

/-- A change that was made, or was refused. -/
theorem returns_attempt {f : σ → Option σ} {made : Bool} :
    Returns (attempt f : Prog σ ε Bool) s made t ↔
      f s = some t ∧ made = true ∨ f s = none ∧ made = false ∧ s = t := by
  unfold Returns attempt
  cases hf : f s <;> cases made <;> simp

@[simp] theorem returns_transact {f : σ → Except ε (α × σ)} :
    Returns (transact f : Prog σ ε α) s a t ↔ f s = .ok (a, t) := by
  unfold Returns transact
  cases hf : f s <;> simp [Prod.ext_iff]

theorem returns_ensuring {p : Prog σ ε α} {q : Prog σ ε Unit} :
    Returns (ensuring p q) s a t ↔ ∃ u, Returns p s a u ∧ (q u).final = t := by
  simp [Returns, ensuring]

end returns

end Durable
