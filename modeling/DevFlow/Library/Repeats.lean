/-
# Repeated elements of a list

`AtMost k l`: no element stands more than `k` times in a row in `l`.  A list is
built at its end, and a new element that is not the last one begins a new block;
one that is the last one makes the block at the end (`Block`) longer by one.
-/

import Mathlib.Data.List.Infix
import Mathlib.Tactic.Common

namespace Repeats

universe u v

variable {α : Type u} {β : Type v} {k m : ℕ} {l : List α} {a b : α}

/-- No more than `k` equal elements in a row. -/
def AtMost (k : ℕ) (l : List α) : Prop :=
  ∀ n a, List.replicate n a <:+: l → n ≤ k

/-- The list ends in no more than `m` elements `a`. -/
def Block (m : ℕ) (a : α) (l : List α) : Prop :=
  ∀ n, List.replicate n a <:+ l → n ≤ m

theorem AtMost.nil : AtMost k ([] : List α) := by
  intro n a h
  have hnil : List.replicate n a = [] := List.infix_nil.1 h
  have hn : n = 0 := by simpa using hnil
  omega

theorem AtMost.of_infix {l' : List α} (h : AtMost k l) (hsub : l' <:+: l) : AtMost k l' :=
  fun n a hn => h n a (hn.trans hsub)

theorem replicate_suffix_concat {n : ℕ} (h : List.replicate (n + 1) a <:+ l ++ [b]) :
    a = b ∧ List.replicate n a <:+ l := by
  rcases List.suffix_concat_iff.1 h with hnil | ⟨rest, hrest, hsuffix⟩
  · cases hnil
  · rw [List.replicate_succ'] at hrest
    obtain ⟨rfl, hlast⟩ := List.append_inj' hrest rfl
    exact ⟨List.singleton_inj.1 hlast, hsuffix⟩

/-- A repeated element. -/
theorem Block.concat (h : Block m a l) : Block (m + 1) a (l ++ [a]) := by
  intro n hn
  cases n with
  | zero => omega
  | succ n =>
    have hle : n ≤ m := h n (replicate_suffix_concat hn).2
    omega

/-- Another element. -/
theorem Block.concat_of_ne (h : ∀ b, l.getLast? = some b → b ≠ a) : Block 1 a (l ++ [a]) := by
  intro n hn
  rcases n with - | - | n
  · omega
  · omega
  · obtain ⟨rest, hrest⟩ := (replicate_suffix_concat hn).2
    refine absurd rfl (h a ?_)
    rw [← hrest, List.replicate_succ', ← List.append_assoc, List.getLast?_append]
    rfl

theorem AtMost.concat (h : AtMost k l) (hblock : Block m a (l ++ [a])) (hm : m ≤ k) :
    AtMost k (l ++ [a]) := by
  intro n b hn
  rcases List.infix_concat_iff.1 hn with hsuffix | hinfix
  · cases n with
    | zero => omega
    | succ n =>
      obtain ⟨rfl, -⟩ := replicate_suffix_concat hsuffix
      exact (hblock (n + 1) hsuffix).trans hm
  · exact h n b hinfix

/-- **Elements in a row that are the same under a map** are no more than `k`, when the
map tells them apart. -/
theorem AtMost.length_le {f : α → β} (h : AtMost k l)
    {block : List α} (hblock : block <:+: l) (hf : ∀ a ∈ block, ∀ b ∈ block, f a = f b → a = b)
    (hsame : ∀ a ∈ block, ∀ b ∈ block, f a = f b) : block.length ≤ k := by
  cases block with
  | nil => exact Nat.zero_le k
  | cons a rest =>
    have hreplicate : a :: rest = List.replicate (rest.length + 1) a := by
      refine List.eq_replicate_iff.2 ⟨rfl, fun b hb => ?_⟩
      have ha : a ∈ a :: rest := List.mem_cons_self
      exact hf b hb a ha (hsame b hb a ha)
    exact h (rest.length + 1) a (hreplicate ▸ hblock)

end Repeats
