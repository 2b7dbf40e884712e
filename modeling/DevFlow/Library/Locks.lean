/-
# Transactions that take exclusive locks

A transaction takes its locks one by one, in the order of its program, and holds
them until it ends; a lock that another transaction holds makes it wait.  It can
end at any time, by its commit or by a rollback.  The transactions are named by an
arbitrary type, so that a statement is about any number of them.

Two transactions are stuck when each waits for a lock that the other holds.  Some
run gets there if and only if two programs are crossed (`stuck_iff_crossed`), which
is a property of the two lists alone; and for programs that take at most one lock
before a common gate, it comes down to one lock that one program takes before the
gate and the other after it (`crossed_gate_iff`).
-/

import Mathlib.Logic.Function.Basic
import DevFlow.Library.Runs

namespace Locks

variable {ι L : Type*}

/-- What each transaction holds, and what it still has to take. -/
structure State (ι L : Type*) where
  held : ι → List L
  rest : ι → List L

/-- Nothing has been taken. -/
def State.start (programs : ι → List L) : State ι L where
  held := fun _ => []
  rest := programs

/-- The transaction `i` waits for a lock that `j` holds. -/
def State.WaitsFor (s : State ι L) (i j : ι) : Prop :=
  ∃ a rest, s.rest i = a :: rest ∧ a ∈ s.held j

/-- Two transactions wait for each other. -/
def State.Stuck (s : State ι L) : Prop :=
  ∃ i j, i ≠ j ∧ s.WaitsFor i j ∧ s.WaitsFor j i

/-- What a transaction does next. -/
inductive Move (ι : Type*)
  | take (i : ι)
  | finish (i : ι)

variable [DecidableEq ι]

/-- One step: the next lock, if no other transaction holds it, or the end. -/
inductive Step (s : State ι L) : Move ι → Unit → State ι L → Prop
  | take {i : ι} {a : L} {rest : List L} (next : s.rest i = a :: rest)
      (free : ∀ j, j ≠ i → a ∉ s.held j) :
      Step s (.take i) ⟨⟩ ⟨Function.update s.held i (s.held i ++ [a]),
        Function.update s.rest i rest⟩
  | finish {i : ι} : Step s (.finish i) ⟨⟩ ⟨Function.update s.held i [],
      Function.update s.rest i []⟩

/-- **Two programs that are crossed**: each can come to wait for a lock that the
other has taken by then, with no lock taken by both. -/
def Crossed (p q : List L) : Prop :=
  ∃ p₁ a p₂ q₁ b q₂, p = p₁ ++ a :: p₂ ∧ q = q₁ ++ b :: q₂ ∧ a ∈ q₁ ∧ b ∈ p₁ ∧
    ∀ x ∈ p₁, x ∉ q₁

omit [DecidableEq ι] in
theorem Crossed.symm {p q : List L} (h : Crossed p q) : Crossed q p := by
  obtain ⟨p₁, a, p₂, q₁, b, q₂, hp, hq, ha, hb, hdisjoint⟩ := h
  exact ⟨q₁, b, q₂, p₁, a, p₂, hq, hp, hb, ha, fun x hx hx' => hdisjoint x hx' hx⟩

/-- **The invariant**: a lock has one holder, and a transaction that is still to take
a lock holds what stands before it. -/
structure Exclusive (programs : ι → List L) (s : State ι L) : Prop where
  once : ∀ i j a, a ∈ s.held i → a ∈ s.held j → i = j
  taken : ∀ i, s.rest i = [] ∨ programs i = s.held i ++ s.rest i

theorem Exclusive.step {programs : ι → List L} {s t : State ι L} {move : Move ι} {answer : Unit}
    (h : Exclusive programs s) (hstep : Step s move answer t) : Exclusive programs t := by
  cases hstep with
  | @take i a rest next free =>
    have hmem : ∀ j x, x ∈ Function.update s.held i (s.held i ++ [a]) j →
        x ∈ s.held j ∨ (j = i ∧ x = a) := by
      intro j x hx
      by_cases hj : j = i
      · subst hj
        rw [Function.update_self] at hx
        rcases List.mem_append.1 hx with hold | hnew
        · exact Or.inl hold
        · exact Or.inr ⟨rfl, List.mem_singleton.1 hnew⟩
      · rw [Function.update_of_ne hj] at hx
        exact Or.inl hx
    refine ⟨fun j k x hj hk => ?_, fun j => ?_⟩
    · rcases hmem j x hj with hold | ⟨rfl, rfl⟩ <;> rcases hmem k x hk with hold' | ⟨rfl, hx⟩
      · exact h.once j k x hold hold'
      · by_contra hne
        exact free j hne (hx ▸ hold)
      · by_contra hne
        exact free k (Ne.symm hne) hold'
      · rfl
    · by_cases hj : j = i
      · subst hj
        simp only [Function.update_self]
        rcases h.taken j with hnil | hsplit
        · rw [hnil] at next
          cases next
        · refine Or.inr ?_
          rw [hsplit, next, List.append_assoc, List.singleton_append]
      · simp only [Function.update_of_ne hj]
        exact h.taken j
  | @finish i =>
    refine ⟨fun j k x hj hk => ?_, fun j => ?_⟩
    · have hother : ∀ k, x ∈ Function.update s.held i [] k → x ∈ s.held k := by
        intro k hk
        by_cases hki : k = i
        · subst hki
          rw [Function.update_self] at hk
          exact absurd hk List.not_mem_nil
        · rwa [Function.update_of_ne hki] at hk
      exact h.once j k x (hother j hj) (hother k hk)
    · by_cases hj : j = i
      · subst hj
        exact Or.inl (Function.update_self ..)
      · simp only [Function.update_of_ne hj]
        exact h.taken j

/-- **A transaction takes the next locks of its program one after the other**, when
no other transaction holds any of them. -/
theorem run_take {s : State ι L} {i : ι} {next rest : List L} (hrest : s.rest i = next ++ rest)
    (hfree : ∀ j, j ≠ i → ∀ x ∈ next, x ∉ s.held j) :
    ∃ es t, Runs.Run Step s es t ∧ t.held = Function.update s.held i (s.held i ++ next) ∧
      t.rest = Function.update s.rest i rest := by
  induction next generalizing s with
  | nil =>
    refine ⟨[], s, Runs.Run.nil s, ?_, ?_⟩
    · rw [List.append_nil, Function.update_eq_self]
    · rw [← hrest.trans (List.nil_append rest), Function.update_eq_self]
  | cons a next ih =>
    have hstep : Step s (.take i) ⟨⟩ ⟨Function.update s.held i (s.held i ++ [a]),
        Function.update s.rest i (next ++ rest)⟩ :=
      .take hrest fun j hj => hfree j hj a List.mem_cons_self
    obtain ⟨es, t, hrun, hheld, hrest'⟩ := ih (s := ⟨Function.update s.held i (s.held i ++ [a]),
        Function.update s.rest i (next ++ rest)⟩) (Function.update_self ..) fun j hj x hx => by
      simp only [Function.update_of_ne hj]
      exact hfree j hj x (List.mem_cons_of_mem a hx)
    refine ⟨_, t, Runs.Run.cons hstep hrun, ?_, ?_⟩
    · rw [hheld]
      simp only [Function.update_self, Function.update_idem, List.append_assoc,
        List.singleton_append]
    · rw [hrest']
      simp only [Function.update_idem]

/-- **Two transactions can get stuck if and only if two programs are crossed.** -/
theorem stuck_iff_crossed {programs : ι → List L} :
    (∃ es s, Runs.Run Step (State.start programs) es s ∧ s.Stuck) ↔
      ∃ i j, i ≠ j ∧ Crossed (programs i) (programs j) := by
  constructor
  · rintro ⟨es, s, hrun, i, j, hij, ⟨a, p₂, hi, ha⟩, b, q₂, hj, hb⟩
    have hstart : Exclusive programs (State.start programs) :=
      ⟨fun _ _ _ h => absurd h List.not_mem_nil, fun _ => Or.inr rfl⟩
    have hexclusive : Exclusive programs s :=
      hrun.invariant (fun _ _ _ _ hI hstep => hI.step hstep) hstart
    have hsplit : ∀ {k x r}, s.rest k = x :: r → programs k = s.held k ++ x :: r := by
      intro k x r hk
      rcases hexclusive.taken k with hnil | hsplit
      · rw [hnil] at hk
        cases hk
      · rw [hsplit, hk]
    exact ⟨i, j, hij, s.held i, a, p₂, s.held j, b, q₂, hsplit hi, hsplit hj, ha, hb,
      fun x hx hx' => hij (hexclusive.once i j x hx hx')⟩
  · rintro ⟨i, j, hij, p₁, a, p₂, q₁, b, q₂, hp, hq, ha, hb, hdisjoint⟩
    -- one transaction goes up to its wait, and then the other
    obtain ⟨es, s, hrun, hheld, hrest⟩ := run_take (s := State.start programs) hp
      fun _ _ _ _ => List.not_mem_nil
    have hfree : ∀ k, k ≠ j → ∀ x ∈ q₁, x ∉ s.held k := by
      intro k _ x hx
      rw [hheld]
      by_cases hki : k = i
      · subst hki
        rw [Function.update_self]
        exact fun hx' => hdisjoint x hx' hx
      · rw [Function.update_of_ne hki]
        exact List.not_mem_nil
    have hnext : s.rest j = q₁ ++ b :: q₂ := by
      rw [hrest, Function.update_of_ne hij.symm]
      exact hq
    obtain ⟨fs, t, hrun', hheld', hrest'⟩ := run_take hnext hfree
    refine ⟨es ++ fs, t, hrun.append hrun', i, j, hij, ⟨a, p₂, ?_, ?_⟩, b, q₂, ?_, ?_⟩
    · rw [hrest', Function.update_of_ne hij, hrest, Function.update_self]
    · rw [hheld', Function.update_self]
      exact List.mem_append_right _ ha
    · rw [hrest', Function.update_self]
    · rw [hheld', Function.update_of_ne hij, hheld, Function.update_self]
      exact List.mem_append_right _ hb

omit [DecidableEq ι]

/-- Where a program with a gate is cut: after the gate, or at it, or before it. -/
theorem cut_gate {g a : L} {pre post p₁ p₂ : List L} (h : pre ++ g :: post = p₁ ++ a :: p₂) :
    (∃ r, p₁ = pre ++ g :: r ∧ a ∈ post) ∨ (p₁ = pre ∧ a = g) ∨ ∃ r, pre = p₁ ++ a :: r := by
  rcases List.append_eq_append_iff.1 h with ⟨r, hp, hr⟩ | ⟨r, hp, hr⟩
  · cases r with
    | nil =>
      rw [List.append_nil] at hp
      exact Or.inr (Or.inl ⟨hp, (List.cons.inj hr).1.symm⟩)
    | cons y r =>
      obtain ⟨rfl, hpost⟩ := List.cons.inj hr
      refine Or.inl ⟨r, hp, ?_⟩
      rw [hpost]
      exact List.mem_append_right _ List.mem_cons_self
  · cases r with
    | nil =>
      rw [List.append_nil] at hp
      exact Or.inr (Or.inl ⟨hp.symm, (List.cons.inj hr).1⟩)
    | cons y r =>
      obtain ⟨rfl, -⟩ := List.cons.inj hr
      exact Or.inr (Or.inr ⟨r, hp⟩)

/-- A lock that one program takes before the gate and the other after it crosses
them. -/
theorem crossed_of_gate {g x : L} {pre post post' : List L} (hg : g ≠ x) (hpost : x ∈ post)
    (hpre : x ∉ pre) : Crossed (pre ++ g :: post) ([x] ++ g :: post') := by
  obtain ⟨r, r', rfl, hr⟩ := List.eq_append_cons_of_mem hpost
  refine ⟨pre ++ g :: r, x, r', [x], g, post', by simp, rfl, List.mem_singleton_self x,
    by simp, fun y hy hyx => ?_⟩
  rw [List.mem_singleton] at hyx
  subst hyx
  rcases List.mem_append.1 hy with hy | hy
  · exact hpre hy
  · rcases List.mem_cons.1 hy with hy | hy
    · exact hg hy.symm
    · exact hr hy

/-- A crossing in which the first program has passed the gate. -/
theorem gate_of_crossed {g a : L} {pre pre' post post' q₁ q₂ : List L} {b : L} {r : List L}
    (hq : pre' ++ g :: post' = q₁ ++ b :: q₂) (ha : a ∈ q₁) (hpost : a ∈ post)
    (hdisjoint : ∀ x ∈ pre ++ g :: r, x ∉ q₁) : ∃ x ∈ pre', x ∈ post ∧ x ∉ pre := by
  have hfresh : a ∉ pre := fun hpre => hdisjoint a (List.mem_append_left _ hpre) ha
  rcases cut_gate hq with ⟨r', rfl, -⟩ | ⟨rfl, -⟩ | ⟨r', rfl⟩
  · exact absurd (by simp) (hdisjoint g (by simp))
  · exact ⟨a, ha, hpost, hfresh⟩
  · exact ⟨a, List.mem_append_left _ ha, hpost, hfresh⟩

/-- **Programs that take at most one lock before a common gate** are crossed if and
only if one of them takes before the gate what the other, without holding it, takes
after the gate. -/
theorem crossed_gate_iff {g : L} {pre post pre' post' : List L} (hpre : pre.length ≤ 1)
    (hpre' : pre'.length ≤ 1) (hg : g ∉ pre) (hg' : g ∉ pre') :
    Crossed (pre ++ g :: post) (pre' ++ g :: post') ↔
      (∃ x ∈ pre, x ∈ post' ∧ x ∉ pre') ∨ ∃ x ∈ pre', x ∈ post ∧ x ∉ pre := by
  have hsingle : ∀ {l : List L} {x : L}, l.length ≤ 1 → x ∈ l → l = [x] := by
    intro l x hl hx
    match l, hl, hx with
    | [y], _, hx => rw [List.mem_singleton.1 hx]
  constructor
  · rintro ⟨p₁, a, p₂, q₁, b, q₂, hp, hq, ha, hb, hdisjoint⟩
    rcases cut_gate hp with ⟨r, rfl, hpost⟩ | ⟨rfl, rfl⟩ | ⟨r, rfl⟩
    · exact Or.inr (gate_of_crossed hq ha hpost hdisjoint)
    · -- the first program waits at the gate, so that the second has passed it
      rcases cut_gate hq with ⟨r, rfl, hpost'⟩ | ⟨rfl, rfl⟩ | ⟨r, rfl⟩
      · exact Or.inl (gate_of_crossed hp hb hpost' fun x hx hx' => hdisjoint x hx' hx)
      · exact absurd hb hg
      · exact absurd (List.mem_append_left _ ha) hg'
    · have hlength := List.length_pos_of_mem hb
      simp only [List.length_append, List.length_cons] at hpre
      omega
  · rintro (⟨x, hx, hpost', hnew⟩ | ⟨x, hx, hpost, hnew⟩)
    · have hne : g ≠ x := fun heq => hg (heq ▸ hx)
      rw [hsingle hpre hx]
      exact (crossed_of_gate hne hpost' hnew).symm
    · have hne : g ≠ x := fun heq => hg' (heq ▸ hx)
      rw [hsingle hpre' hx]
      exact crossed_of_gate hne hpost hnew

/-- A program of at most one lock is not crossed with any other. -/
theorem not_crossed_of_length {p q : List L} (hp : p.length ≤ 1) : ¬Crossed p q := by
  rintro ⟨p₁, a, p₂, q₁, b, q₂, rfl, -, -, hb, -⟩
  have hlength := List.length_pos_of_mem hb
  simp only [List.length_append, List.length_cons] at hp
  omega

end Locks
