/-
# Reading a growing log by its sequence numbers

A log is a list whose keys increase strictly.  A reader keeps a cursor, the key
of the last entry it has read, and asks for the entries after it: `after key c`.

`Reads key log c seen c'` says that a reader who starts at `c` and reads `seen`
stands at `c'`, and that what it read is exactly the log between the two.  Readings
compose (`Reads.trans`) and can be cut (`Reads.uncons`), and a log that grows at
its end keeps them (`Reads.grow`): that is all a reader needs never to miss and
never to repeat an entry, however it pages and however often it starts over.
-/

import Mathlib.Data.List.Basic

namespace Cursors

universe u

variable {α : Type u} {key : α → ℕ} {log seen rest new : List α} {e : α} {c c' c'' : ℕ}

/-- The entries after the cursor. -/
def after (key : α → ℕ) (c : ℕ) (log : List α) : List α :=
  log.filter fun e => c < key e

/-- A log in strictly increasing order. -/
def Sorted (key : α → ℕ) (log : List α) : Prop :=
  log.Pairwise fun a b => key a < key b

@[simp] theorem mem_after : e ∈ after key c log ↔ e ∈ log ∧ c < key e := by
  simp [after]

theorem Sorted.after (h : Sorted key log) (c : ℕ) : Sorted key (after key c log) :=
  List.Pairwise.filter _ h

/-- Entries behind a cursor that moves on stay behind it. -/
theorem after_after (h : c ≤ c') : after key c' (after key c log) = after key c' log := by
  rw [after, after, List.filter_filter]
  refine List.filter_congr fun e _ => ?_
  rw [Bool.and_eq_left_iff_imp]
  simp only [decide_eq_true_eq]
  omega

/-- **The first entry after a cursor moves it by one**: what is after that entry is
the rest. -/
theorem Sorted.after_head (h : Sorted key log) (hhead : Cursors.after key c log = e :: rest) :
    Cursors.after key (key e) log = rest := by
  have hsorted : Sorted key (e :: rest) := hhead ▸ h.after c
  have he : c < key e := (mem_after.1 (hhead ▸ List.mem_cons_self)).2
  rw [← after_after (Nat.le_of_lt he), hhead, Cursors.after, List.filter_cons_of_neg (by simp),
    List.filter_eq_self]
  intro a ha
  simpa using List.rel_of_pairwise_cons hsorted ha

/-- **A reading**: from `c` the entries `seen` lead to `c'`, and what is left is what
is after `c'`. -/
structure Reads (key : α → ℕ) (log : List α) (c : ℕ) (seen : List α) (c' : ℕ) : Prop where
  split : after key c log = seen ++ after key c' log
  cursor : c' = (seen.getLast?.map key).getD c

namespace Reads

theorem refl (key : α → ℕ) (log : List α) (c : ℕ) : Reads key log c [] c :=
  ⟨rfl, rfl⟩

/-- Readings compose. -/
theorem trans {seen' : List α} (h : Reads key log c seen c') (h' : Reads key log c' seen' c'') :
    Reads key log c (seen ++ seen') c'' := by
  refine ⟨?_, ?_⟩
  · rw [h.split, h'.split, List.append_assoc]
  · rw [h'.cursor, List.getLast?_append]
    cases seen'.getLast? with
    | none => simpa using h.cursor
    | some e => rfl

/-- The next entry is a reading. -/
theorem next (hsorted : Sorted key log) (h : after key c log = e :: rest) :
    Reads key log c [e] (key e) :=
  ⟨by rw [hsorted.after_head h, h]; rfl, rfl⟩

/-- **A reading can be cut after its first entry.** -/
theorem uncons (hsorted : Sorted key log) (h : Reads key log c (e :: seen) c') :
    Reads key log c [e] (key e) ∧ Reads key log (key e) seen c' := by
  have hhead : after key c log = e :: (seen ++ after key c' log) := h.split
  refine ⟨next hsorted hhead, hsorted.after_head hhead, ?_⟩
  rw [h.cursor, List.getLast?_cons]
  cases seen.getLast? <;> rfl

theorem mem (h : Reads key log c seen c') (he : e ∈ seen) : e ∈ log ∧ c < key e := by
  rw [← mem_after, h.split]
  exact List.mem_append_left _ he

/-- A reading ends where it started or at an entry of the log. -/
theorem cursor_cases (h : Reads key log c seen c') :
    (seen = [] ∧ c' = c) ∨ ∃ e ∈ seen, c' = key e := by
  rcases List.eq_nil_or_concat seen with rfl | ⟨front, e, rfl⟩
  · exact Or.inl ⟨rfl, h.cursor⟩
  · refine Or.inr ⟨e, by simp, ?_⟩
    rw [h.cursor]
    simp

theorem le (h : Reads key log c seen c') : c ≤ c' := by
  rcases h.cursor_cases with ⟨-, rfl⟩ | ⟨e, he, rfl⟩
  · exact Nat.le_refl _
  · exact Nat.le_of_lt (h.mem he).2

/-- **A log that grows at its end keeps every reading.** -/
theorem grow (h : Reads key log c seen c') (hnew : ∀ e ∈ log, ∀ a ∈ new, key e < key a) :
    Reads key (log ++ new) c seen c' := by
  refine ⟨?_, h.cursor⟩
  have hsame : after key c new = after key c' new := by
    rcases h.cursor_cases with ⟨-, rfl⟩ | ⟨e, he, rfl⟩
    · rfl
    · refine List.filter_congr fun a ha => ?_
      have hlt := hnew e (h.mem he).1 a ha
      have hc := (h.mem he).2
      simp only [decide_eq_decide]
      omega
  unfold after at hsame ⊢
  rw [List.filter_append, List.filter_append, hsame]
  have hsplit := h.split
  unfold after at hsplit
  rw [hsplit, List.append_assoc]

/-- **Nothing after the cursor is unread, nothing is read twice**: a reading that has
nothing left has read the whole log after its start. -/
theorem complete (h : Reads key log c seen c') (hnone : after key c' log = []) :
    seen = after key c log := by
  rw [h.split, hnone, List.append_nil]

end Reads

end Cursors
