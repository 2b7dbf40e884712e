/-
# Loops that stop at a limit

A loop that collects what it finds can return as soon as it has a number of
findings (`push`), or leave out what comes later and note that there was more
(`keep`).  Both collect the first findings (`foldlM_push`, `foldl_keep`), and
they raise their flags one finding apart.

A loop of the first kind that looks at a part of the items only says whether a
finding is missing exactly when the limit is not met exactly, and all findings
are in that part or the limit is met in it (`flag_exact_iff`).
-/

import Mathlib.Data.List.Basic
import Mathlib.Tactic.Common

namespace Scans

universe u v

variable {α : Type u} {β : Type v} {limit : ℕ} {found : List α}

/-- A finding is collected; the loop returns when the limit is met. -/
def push (limit : ℕ) (found : List α) (a : α) : Except (List α) (List α) :=
  if limit ≤ (found ++ [a]).length then .error (found ++ [a]) else .ok (found ++ [a])

/-- A finding is collected; once the limit is met, it is noted instead. -/
def keep (limit : ℕ) (state : List α × Bool) (a : α) : List α × Bool :=
  if limit ≤ state.1.length then (state.1, true) else (state.1 ++ [a], state.2)

/-- The findings of a part of the items, and those of the others, tell whether a finding
is missing. -/
def Decided (limit : ℕ) (scanned later : List α) : Prop :=
  (scanned ++ later).length ≠ limit ∧ (later = [] ∨ limit ≤ scanned.length)

/-- **A loop that returns at its limit** has collected the first findings. -/
theorem foldlM_push (items : List α) (h : found.length < limit) :
    items.foldlM (push limit) found =
      if limit ≤ (found ++ items).length then .error ((found ++ items).take limit)
      else .ok (found ++ items) := by
  induction items generalizing found with
  | nil =>
    have hopen : ¬limit ≤ (found ++ []).length := by
      rw [List.append_nil]
      omega
    rw [if_neg hopen, List.append_nil]
    rfl
  | cons a items ih =>
    have hlength : (found ++ [a]).length = found.length + 1 := List.length_append
    have hsplit : found ++ a :: items = found ++ [a] ++ items := by
      rw [List.append_assoc, List.singleton_append]
    rw [List.foldlM_cons, push, hsplit]
    by_cases hlimit : limit ≤ (found ++ [a]).length
    · have hmet : limit ≤ (found ++ [a] ++ items).length := by
        rw [List.length_append]
        omega
      have hexact : limit = (found ++ [a]).length := by omega
      rw [if_pos hlimit, if_pos hmet, hexact, List.take_left]
      rfl
    · rw [if_neg hlimit]
      exact ih (by omega)

/-- **A loop over groups of findings** is the loop over the findings. -/
theorem foldlM_flatMap {σ ε : Type u} (group : β → List α) (step : σ → α → Except ε σ)
    (items : List β) (state : σ) :
    (items.flatMap group).foldlM step state =
      items.foldlM (fun state item => (group item).foldlM step state) state := by
  induction items generalizing state with
  | nil => rfl
  | cons item items ih =>
    rw [List.flatMap_cons, List.foldlM_append, List.foldlM_cons]
    exact congrArg _ (funext ih)

/-- **A loop that notes what it leaves out** has collected the first findings. -/
theorem foldl_keep (items : List α) (h : found.length ≤ limit) (more : Bool)
    (hmore : more = true → found.length = limit) :
    items.foldl (keep limit) (found, more) =
      ((found ++ items).take limit, more || decide (limit < (found ++ items).length)) := by
  induction items generalizing found more with
  | nil =>
    have hopen : ¬limit < (found ++ []).length := by
      rw [List.append_nil]
      omega
    rw [List.foldl_nil, decide_eq_false hopen, Bool.or_false, List.append_nil,
      List.take_of_length_le h]
  | cons a items ih =>
    have hsplit : found ++ a :: items = found ++ [a] ++ items := by
      rw [List.append_assoc, List.singleton_append]
    rw [List.foldl_cons, keep]
    by_cases hlimit : limit ≤ found.length
    · have hexact : found.length = limit := Nat.le_antisymm h hlimit
      have hover : limit < (found ++ a :: items).length := by
        rw [List.length_append, List.length_cons]
        omega
      rw [if_pos hlimit, ih h true fun _ => hexact, decide_eq_true hover, Bool.or_true,
        Bool.true_or, ← hexact, List.take_left, List.take_left]
    · have hnot : more = false := Bool.eq_false_iff.2 fun htrue =>
        hlimit (Nat.le_of_eq (hmore htrue).symm)
      rw [if_neg hlimit, hsplit]
      have hnext : (found ++ [a]).length ≤ limit := by
        rw [List.length_append, List.length_singleton]
        omega
      exact ih hnext more fun htrue => absurd htrue (Bool.eq_false_iff.1 hnot)

/-- A step on every state of a list takes each of them on its own. -/
theorem foldl_map {σ : Type u} (step : β → σ → σ) (items : List β) (states : List σ) :
    items.foldl (fun states item => states.map (step item)) states =
      states.map fun state => items.foldl (fun state item => step item state) state := by
  induction items generalizing states with
  | nil => exact (List.map_id states).symm
  | cons item items ih =>
    rw [List.foldl_cons, ih, List.map_map]
    rfl

/-- **When the flag tells whether a finding is missing.** -/
theorem flag_exact_iff (limit : ℕ) (scanned later : List α) :
    (decide (limit ≤ scanned.length) = false ↔ scanned.take limit = scanned ++ later) ↔
      Decided limit scanned later := by
  have hall : scanned.take limit = scanned ++ later ↔ later = [] ∧ scanned.length ≤ limit := by
    constructor
    · intro h
      have hlength := congrArg List.length h
      rw [List.length_take, List.length_append] at hlength
      exact ⟨List.length_eq_zero_iff.1 (by omega), by omega⟩
    · rintro ⟨rfl, hle⟩
      rw [List.take_of_length_le hle, List.append_nil]
  rw [decide_eq_false_iff_not, hall, Decided, List.length_append, ← List.length_eq_zero_iff]
  omega

end Scans
