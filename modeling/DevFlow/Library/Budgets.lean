/-
# Shares of a budget

Requests are granted in order, each as far as the budget that is left allows.  What
is spent in all is what was asked for, or the whole budget (`sum_grants`); every
request is granted in full exactly when they fit together (`grants_eq_iff`).
-/

import Mathlib.Algebra.Ring.Nat
import Mathlib.Order.MinMax

namespace Budgets

/-- What each request is granted of the budget. -/
def grants : ℕ → List ℕ → List ℕ
  | _, [] => []
  | budget, request :: requests =>
    min request budget :: grants (budget - min request budget) requests

@[simp] theorem grants_nil (budget : ℕ) : grants budget [] = [] := rfl

@[simp] theorem grants_cons (budget request : ℕ) (requests : List ℕ) :
    grants budget (request :: requests) =
      min request budget :: grants (budget - min request budget) requests := rfl

/-- **What is spent in all.** -/
theorem sum_grants (budget : ℕ) (requests : List ℕ) :
    (grants budget requests).sum = min requests.sum budget := by
  induction requests generalizing budget with
  | nil => simp
  | cons request requests ih =>
    rw [grants_cons, List.sum_cons, List.sum_cons, ih]
    omega

/-- **Every request is granted in full when they fit together**, and only then. -/
theorem grants_eq_iff {budget : ℕ} {requests : List ℕ} :
    grants budget requests = requests ↔ requests.sum ≤ budget := by
  constructor
  · intro h
    have hsum := sum_grants budget requests
    rw [h] at hsum
    omega
  · induction requests generalizing budget with
    | nil => simp
    | cons request requests ih =>
      intro h
      rw [List.sum_cons] at h
      have hmin : min request budget = request := by omega
      rw [grants_cons, hmin, ih (by omega)]

end Budgets
