/-
# Search by halving

A loop that looks for the largest number that passes a test, between a number that
stands for none and a bound.  It halves the range and tests the upper middle.  It finds
the largest such number (`bisect_isGreatest`) when a number passes as soon as a larger
one does.
-/

import Mathlib.Order.Bounds.Basic
import Mathlib.Tactic.Common

namespace Bisection

variable {p : ℕ → Bool} {low high k : ℕ}

/-- The loop. -/
def bisect (p : ℕ → Bool) (low high : ℕ) : ℕ :=
  if _ : low < high then
    let middle := (low + high + 1) / 2
    if p middle then bisect p middle high else bisect p low (middle - 1)
  else low
termination_by high - low
decreasing_by all_goals omega

theorem le_bisect (p : ℕ → Bool) (low high : ℕ) : low ≤ bisect p low high := by
  fun_induction bisect p low high with
  | case1 low high hlt middle hpass ih => omega
  | case2 low high hlt middle hfail ih => exact ih
  | case3 low high hge => exact le_rfl

theorem bisect_le (h : low ≤ high) : bisect p low high ≤ high := by
  fun_induction bisect p low high with
  | case1 low high hlt middle hpass ih => exact ih (by omega)
  | case2 low high hlt middle hfail ih => exact (ih (by omega)).trans (by omega)
  | case3 low high hge => exact h

/-- What the loop returns has passed, unless it is what it started from. -/
theorem bisect_passes : bisect p low high = low ∨ p (bisect p low high) = true := by
  fun_induction bisect p low high with
  | case1 low high hlt middle hpass ih =>
    rcases ih with h | h
    · exact .inr (by rwa [h])
    · exact .inr h
  | case2 low high hlt middle hfail ih => exact ih
  | case3 low high hge => exact .inl rfl

/-- **Nothing larger passes**, when what is below a number that passes does as well. -/
theorem le_bisect_of_passes (hdown : ∀ i j, i ≤ j → p j = true → p i = true) (hle : k ≤ high)
    (hpass : p k = true) : k ≤ bisect p low high := by
  fun_induction bisect p low high with
  | case1 low high hlt middle hpassed ih => exact ih hle
  | case2 low high hlt middle hfail ih =>
    refine ih ?_
    by_contra hgt
    exact hfail (hdown middle k (by omega) hpass)
  | case3 low high hge => omega

/-- **The loop finds the largest number that passes**, if zero does. -/
theorem bisect_isGreatest (hdown : ∀ i j, i ≤ j → p j = true → p i = true) (hzero : p 0 = true) :
    IsGreatest {k | k ≤ high ∧ p k = true} (bisect p 0 high) := by
  refine ⟨⟨bisect_le (Nat.zero_le _), ?_⟩, fun k hk => le_bisect_of_passes hdown hk.1 hk.2⟩
  have hpasses : bisect p 0 high = 0 ∨ p (bisect p 0 high) = true := bisect_passes
  rcases hpasses with h | h
  · rwa [h]
  · exact h

end Bisection
