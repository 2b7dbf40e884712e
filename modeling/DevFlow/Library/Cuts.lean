/-
# Texts that are cut to a budget

A budget has room for a number of letters and for a weight.  A text is cut to the longest
prefix that fits (`fit_isGreatest`), several texts one after the other, each to what the
ones before it leave.  Together they stay within the budget (`length_cuts_le`,
`total_cuts_le`), and all of them are whole exactly when they fit together
(`cuts_eq_iff`).
-/

import Mathlib.Algebra.BigOperators.Group.List.Basic
import Mathlib.Algebra.Order.BigOperators.Group.List
import Mathlib.Algebra.Order.Group.Nat
import Mathlib.Algebra.Ring.Nat
import Mathlib.Order.Bounds.Basic

namespace Cuts

universe u

variable {α : Type u} (weight : α → ℕ)

/-- The weight of a text. -/
def total (text : List α) : ℕ :=
  (text.map weight).sum

/-- The longest prefix that fits. -/
def fit : ℕ → ℕ → List α → List α
  | _, _, [] => []
  | 0, _, _ :: _ => []
  | letters + 1, room, a :: text =>
    if weight a ≤ room then a :: fit letters (room - weight a) text else []

/-- Texts cut one after the other. -/
def cuts : ℕ → ℕ → List (List α) → List (List α)
  | _, _, [] => []
  | letters, room, text :: texts =>
    let cut := fit weight letters room text
    cut :: cuts (letters - cut.length) (room - total weight cut) texts

variable {weight} {letters room k : ℕ} {text text' : List α} {texts : List (List α)}

@[simp] theorem total_nil : total weight [] = 0 := rfl

@[simp] theorem total_cons (a : α) : total weight (a :: text) = weight a + total weight text := by
  simp [total]

@[simp] theorem total_append : total weight (text ++ text') = total weight text + total weight text' := by
  simp [total]

theorem total_le_of_sublist (h : text.Sublist text') : total weight text ≤ total weight text' :=
  (h.map weight).sum_le_sum fun _ _ => Nat.zero_le _

/-! ### One text -/

@[simp] theorem fit_nil : fit weight letters room [] = [] := by
  rw [fit]

@[simp] theorem cuts_nil : cuts weight letters room [] = [] := rfl

@[simp] theorem cuts_singleton : cuts weight letters room [text] = [fit weight letters room text] :=
  rfl

theorem fit_isPrefix : fit weight letters room text <+: text := by
  fun_induction fit weight letters room text with
  | case1 => exact List.prefix_rfl
  | case2 => exact List.nil_prefix
  | case3 letters room a text hle ih => exact List.cons_prefix_cons.2 ⟨rfl, ih⟩
  | case4 => exact List.nil_prefix

theorem length_fit_le : (fit weight letters room text).length ≤ letters := by
  fun_induction fit weight letters room text with
  | case1 => exact Nat.zero_le _
  | case2 => exact Nat.zero_le _
  | case3 letters room a text hle ih => exact Nat.succ_le_succ ih
  | case4 => exact Nat.zero_le _

theorem total_fit_le : total weight (fit weight letters room text) ≤ room := by
  fun_induction fit weight letters room text with
  | case1 => exact Nat.zero_le _
  | case2 => exact Nat.zero_le _
  | case3 letters room a text hle ih =>
    rw [total_cons]
    omega
  | case4 => exact Nat.zero_le _

/-- No longer prefix fits. -/
theorem le_length_fit (hk : k ≤ text.length) (hletters : k ≤ letters)
    (hroom : total weight (text.take k) ≤ room) : k ≤ (fit weight letters room text).length := by
  induction text generalizing letters room k with
  | nil => exact hk.trans (Nat.zero_le _)
  | cons a text ih =>
    cases k with
    | zero => exact Nat.zero_le _
    | succ k =>
      obtain ⟨letters, rfl⟩ : ∃ n, letters = n + 1 := ⟨letters - 1, by omega⟩
      rw [List.take_succ_cons, total_cons] at hroom
      rw [fit, if_pos (by omega), List.length_cons]
      exact Nat.succ_le_succ (ih (Nat.le_of_succ_le_succ hk) (Nat.le_of_succ_le_succ hletters)
        (by omega))

theorem take_length_fit : text.take (fit weight letters room text).length =
    fit weight letters room text :=
  (List.prefix_iff_eq_take.1 fit_isPrefix).symm

/-- **The length of the longest prefix that fits.** -/
theorem fit_isGreatest : IsGreatest
    {k | k ≤ text.length ∧ k ≤ letters ∧ total weight (text.take k) ≤ room}
    (fit weight letters room text).length := by
  refine ⟨⟨fit_isPrefix.length_le, length_fit_le, ?_⟩, fun k hk => le_length_fit hk.1 hk.2.1 hk.2.2⟩
  rw [take_length_fit]
  exact total_fit_le

/-- **A text is whole when it fits**, and only then. -/
theorem fit_eq_iff : fit weight letters room text = text ↔
    text.length ≤ letters ∧ total weight text ≤ room := by
  constructor
  · intro h
    rw [← h]
    exact ⟨length_fit_le, total_fit_le⟩
  · rintro ⟨hletters, hroom⟩
    refine fit_isPrefix.eq_of_length_le (le_length_fit le_rfl hletters ?_)
    rwa [List.take_length]

/-! ### Several texts -/

/-- **The cuts have no more letters than there is room for.** -/
theorem length_cuts_le : (cuts weight letters room texts).flatten.length ≤ letters := by
  induction texts generalizing letters room with
  | nil => exact Nat.zero_le _
  | cons text texts ih =>
    have hfit : (fit weight letters room text).length ≤ letters := length_fit_le
    have hrest := @ih (letters - (fit weight letters room text).length)
      (room - total weight (fit weight letters room text))
    rw [cuts, List.flatten_cons, List.length_append]
    omega

/-- **The cuts have no more weight than there is room for.** -/
theorem total_cuts_le : total weight (cuts weight letters room texts).flatten ≤ room := by
  induction texts generalizing letters room with
  | nil => exact Nat.zero_le _
  | cons text texts ih =>
    have hfit : total weight (fit weight letters room text) ≤ room := total_fit_le
    have hrest := @ih (letters - (fit weight letters room text).length)
      (room - total weight (fit weight letters room text))
    rw [cuts, List.flatten_cons, total_append]
    omega

theorem sublist_flatten_cuts :
    (cuts weight letters room texts).flatten.Sublist texts.flatten := by
  induction texts generalizing letters room with
  | nil => exact List.Sublist.refl _
  | cons text texts ih =>
    rw [cuts, List.flatten_cons, List.flatten_cons]
    exact fit_isPrefix.sublist.append ih

/-- **All texts are whole when they fit together**, and only then. -/
theorem cuts_eq_iff : cuts weight letters room texts = texts ↔
    texts.flatten.length ≤ letters ∧ total weight texts.flatten ≤ room := by
  constructor
  · intro h
    have hletters : (cuts weight letters room texts).flatten.length ≤ letters := length_cuts_le
    have hroom : total weight (cuts weight letters room texts).flatten ≤ room := total_cuts_le
    rw [h] at hletters hroom
    exact ⟨hletters, hroom⟩
  · induction texts generalizing letters room with
    | nil => exact fun _ => rfl
    | cons text texts ih =>
      rw [List.flatten_cons, List.length_append, total_append]
      rintro ⟨hletters, hroom⟩
      have hfit : fit weight letters room text = text := fit_eq_iff.2 ⟨by omega, by omega⟩
      rw [cuts, hfit, ih ⟨by omega, by omega⟩]

end Cuts
