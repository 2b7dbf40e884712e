/-
# Regular expressions over character classes

The regular expressions that are made of character classes, runs of a class,
optional parts and sequences, with the language of each.  `run` is a backtracking
matcher in continuation style: it looks for a beginning of the text in the
language of the expression after which the continuation accepts what is left
(`run_iff`).  So `fullmatch` decides the language (`fullmatch_iff`).

A product of languages is the set of texts that have a *reading*: one part for
each language, in order (`mem_prod_iff`).
-/

import Mathlib.Computability.Language

namespace Regex

universe u

variable {α : Type u}

/-- Expressions over an alphabet. -/
inductive Expr (α : Type u)
  | empty
  | one (p : α → Bool)
  | many (p : α → Bool)
  | optional (e : Expr α)
  | seq (e f : Expr α)

namespace Expr

/-- The texts that an expression describes. -/
def language : Expr α → Language α
  | empty => 1
  | one p => {s | ∃ a, p a = true ∧ s = [a]}
  | many p => {s | ∀ a ∈ s, p a = true}
  | optional e => e.language + 1
  | seq e f => e.language * f.language

/-- The longest-first search for the end of a run. -/
def runMany (p : α → Bool) (k : List α → Bool) : List α → Bool
  | [] => k []
  | a :: s => (p a && runMany p k s) || k (a :: s)

/-- The matcher: `k` is asked about what is left after a beginning that matches. -/
def run : Expr α → (List α → Bool) → List α → Bool
  | empty, k, s => k s
  | one _, _, [] => false
  | one p, k, a :: s => p a && k s
  | many p, k, s => runMany p k s
  | optional e, k, s => e.run k s || k s
  | seq e f, k, s => e.run (f.run k) s

/-- `re.fullmatch`. -/
def fullmatch (e : Expr α) (s : List α) : Bool :=
  e.run List.isEmpty s

theorem runMany_iff {p : α → Bool} {k : List α → Bool} {s : List α} :
    runMany p k s = true ↔ ∃ a b, (∀ x ∈ a, p x = true) ∧ a ++ b = s ∧ k b = true := by
  induction s with
  | nil =>
    constructor
    · exact fun h => ⟨[], [], by simp, rfl, h⟩
    · rintro ⟨a, b, -, hsplit, hk⟩
      obtain ⟨rfl, rfl⟩ := List.append_eq_nil_iff.1 hsplit
      exact hk
  | cons x s ih =>
    rw [runMany, Bool.or_eq_true, Bool.and_eq_true, ih]
    constructor
    · rintro (⟨hx, a, b, ha, rfl, hk⟩ | hk)
      · exact ⟨x :: a, b, List.forall_mem_cons.2 ⟨hx, ha⟩, rfl, hk⟩
      · exact ⟨[], x :: s, by simp, rfl, hk⟩
    · rintro ⟨a, b, ha, hsplit, hk⟩
      cases a with
      | nil =>
        rw [List.nil_append] at hsplit
        exact Or.inr (hsplit ▸ hk)
      | cons y a =>
        obtain ⟨rfl, rfl⟩ := List.cons.inj hsplit
        obtain ⟨hy, ha⟩ := List.forall_mem_cons.1 ha
        exact Or.inl ⟨hy, a, b, ha, rfl, hk⟩

/-- **The matcher finds a beginning of the language after which `k` accepts.** -/
theorem run_iff {e : Expr α} {k : List α → Bool} {s : List α} :
    e.run k s = true ↔ ∃ a ∈ e.language, ∃ b, a ++ b = s ∧ k b = true := by
  induction e generalizing k s with
  | empty =>
    constructor
    · exact fun h => ⟨[], Language.nil_mem_one, s, rfl, h⟩
    · rintro ⟨a, ha, b, rfl, hk⟩
      rw [(Language.mem_one a).1 ha]
      exact hk
  | one p =>
    constructor
    · intro h
      cases s with
      | nil => cases h
      | cons x s =>
        rw [run, Bool.and_eq_true] at h
        exact ⟨[x], ⟨x, h.1, rfl⟩, s, rfl, h.2⟩
    · rintro ⟨a, ⟨x, hx, rfl⟩, b, rfl, hk⟩
      rw [List.singleton_append, run, hx, hk]
      rfl
  | many p =>
    rw [run, runMany_iff]
    exact ⟨fun ⟨a, b, ha, hsplit, hk⟩ => ⟨a, ha, b, hsplit, hk⟩,
      fun ⟨a, ha, b, hsplit, hk⟩ => ⟨a, b, ha, hsplit, hk⟩⟩
  | optional e ih =>
    rw [run, Bool.or_eq_true, ih]
    constructor
    · rintro (⟨a, ha, b, hsplit, hk⟩ | hk)
      · exact ⟨a, Or.inl ha, b, hsplit, hk⟩
      · exact ⟨[], Or.inr rfl, s, rfl, hk⟩
    · rintro ⟨a, ha | ha, b, hsplit, hk⟩
      · exact Or.inl ⟨a, ha, b, hsplit, hk⟩
      · rw [(Language.mem_one a).1 ha, List.nil_append] at hsplit
        exact Or.inr (hsplit ▸ hk)
  | seq e f ihe ihf =>
    rw [run, ihe]
    constructor
    · rintro ⟨a, ha, b, rfl, hrest⟩
      obtain ⟨c, hc, d, rfl, hk⟩ := ihf.1 hrest
      exact ⟨a ++ c, Language.append_mem_mul ha hc, d, List.append_assoc .., hk⟩
    · rintro ⟨-, ⟨a, ha, c, hc, rfl⟩, d, rfl, hk⟩
      exact ⟨a, ha, c ++ d, (List.append_assoc ..).symm, ihf.2 ⟨c, hc, d, rfl, hk⟩⟩

/-- **`fullmatch` decides the language.** -/
theorem fullmatch_iff {e : Expr α} {s : List α} : e.fullmatch s = true ↔ s ∈ e.language := by
  rw [fullmatch, run_iff]
  constructor
  · rintro ⟨a, ha, b, rfl, hk⟩
    rw [List.isEmpty_iff.1 hk, List.append_nil]
    exact ha
  · exact fun h => ⟨s, h, [], List.append_nil s, rfl⟩

/-- The sequence of a list of expressions. -/
def sequence : List (Expr α) → Expr α
  | [] => empty
  | e :: es => seq e (sequence es)

theorem language_sequence (es : List (Expr α)) :
    (sequence es).language = (es.map language).prod := by
  induction es with
  | nil => rfl
  | cons e es ih => rw [sequence, language, ih, List.map_cons, List.prod_cons]

end Expr

theorem forall₂_and {β γ : Type u} {R S : β → γ → Prop} {l : List β} {r : List γ} :
    List.Forall₂ (fun b c => R b c ∧ S b c) l r ↔ List.Forall₂ R l r ∧ List.Forall₂ S l r := by
  constructor
  · exact fun h => ⟨h.imp fun _ _ h => h.1, h.imp fun _ _ h => h.2⟩
  · rintro ⟨hR, hS⟩
    induction hR with
    | nil => exact .nil
    | cons hbc _ ih =>
      cases hS with
      | cons hbc' hrest => exact .cons ⟨hbc, hbc'⟩ (ih hrest)

/-- **A product of languages has the texts with a reading**: a part for each language. -/
theorem mem_prod_iff {ls : List (Language α)} {s : List α} :
    s ∈ ls.prod ↔ ∃ parts, List.Forall₂ (fun l part => part ∈ l) ls parts ∧ parts.flatten = s := by
  induction ls generalizing s with
  | nil =>
    rw [List.prod_nil, Language.mem_one]
    constructor
    · rintro rfl
      exact ⟨[], .nil, rfl⟩
    · rintro ⟨parts, hparts, rfl⟩
      cases hparts
      rfl
  | cons l ls ih =>
    rw [List.prod_cons, Language.mem_mul]
    constructor
    · rintro ⟨a, ha, b, hb, rfl⟩
      obtain ⟨parts, hparts, rfl⟩ := ih.1 hb
      exact ⟨a :: parts, .cons ha hparts, rfl⟩
    · rintro ⟨parts, hparts, rfl⟩
      cases hparts with
      | cons ha hrest => exact ⟨_, ha, _, ih.2 ⟨_, hrest, rfl⟩, rfl⟩

end Regex
