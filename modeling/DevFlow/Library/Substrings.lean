/-
# Occurrences of a text in a text

`str.count` and `str.replace(old, new, 1)` scan a text from the left and go on
behind each occurrence they find, so they see no occurrence that overlaps one
they have counted.  A count of one therefore means that the text occurs once
exactly when no two of its occurrences overlap (`occursOnce_iff_apart`).
-/

import Mathlib.Data.List.Infix

namespace Substrings

universe u

variable {α : Type u} {pattern text : List α}

/-- The pattern starts at a position of the text. -/
def OccursAt (pattern text : List α) (i : ℕ) : Prop :=
  pattern <+: text.drop i

/-- No two occurrences overlap. -/
def Apart (pattern text : List α) : Prop :=
  ∀ i j, OccursAt pattern text i → OccursAt pattern text j → i < j → i + pattern.length ≤ j

/-- One text is the other with its only occurrence of a pattern replaced. -/
def ReplacesOnly (old new text text' : List α) : Prop :=
  ∃ before after, text = before ++ old ++ after ∧ text' = before ++ new ++ after ∧
    ∀ i, OccursAt old text i → i = before.length

theorem occursAt_zero : OccursAt pattern text 0 ↔ pattern <+: text := by
  rw [OccursAt, List.drop_zero]

theorem occursAt_succ {c : α} {i : ℕ} :
    OccursAt pattern (c :: text) (i + 1) ↔ OccursAt pattern text i := by
  rw [OccursAt, OccursAt, List.drop_succ_cons]

theorem occursAt_append (front : List α) {i : ℕ} :
    OccursAt pattern (front ++ text) (front.length + i) ↔ OccursAt pattern text i := by
  rw [OccursAt, OccursAt, ← List.drop_drop, List.drop_left]

theorem occursAt_split (before after : List α) :
    OccursAt pattern (before ++ pattern ++ after) before.length := by
  rw [OccursAt, List.append_assoc, List.drop_left]
  exact List.prefix_append _ _

variable [DecidableEq α]

/-- The count behind the next `skip` elements. -/
def countFrom (pattern : List α) : ℕ → List α → ℕ
  | _, [] => 0
  | skip + 1, _ :: text => countFrom pattern skip text
  | 0, c :: text =>
    if pattern <+: c :: text then countFrom pattern (pattern.length - 1) text + 1
    else countFrom pattern 0 text

/-- `text.count(pattern)`, of a pattern that is not empty. -/
def count (pattern text : List α) : ℕ :=
  countFrom pattern 0 text

/-- `text.replace(old, new, 1)`. -/
def replaceFirst (old new : List α) : List α → List α
  | [] => []
  | c :: text =>
    if old <+: c :: text then new ++ (c :: text).drop old.length
    else c :: replaceFirst old new text

theorem countFrom_eq (pattern : List α) (skip : ℕ) (text : List α) :
    countFrom pattern skip text = count pattern (text.drop skip) := by
  induction skip generalizing text with
  | zero => rfl
  | succ skip ih =>
    cases text with
    | nil => rfl
    | cons c text => exact ih text

theorem count_of_occursHere (hne : pattern ≠ []) (h : pattern <+: text) :
    count pattern text = count pattern (text.drop pattern.length) + 1 := by
  cases text with
  | nil => exact absurd (List.prefix_nil.1 h) hne
  | cons c text =>
    have hlength : pattern.length = pattern.length - 1 + 1 := by
      have hpos := List.length_pos_of_ne_nil hne
      omega
    rw [count, countFrom, if_pos h, countFrom_eq, hlength, List.drop_succ_cons]
    rfl

theorem count_cons_of_not {c : α} (h : ¬pattern <+: c :: text) :
    count pattern (c :: text) = count pattern text := by
  rw [count, countFrom, if_neg h]
  rfl

/-- **The first occurrence** is counted, and what is behind it is counted on; it is the
one that is replaced. -/
theorem exists_first (hne : pattern ≠ []) (h : count pattern text ≠ 0) :
    ∃ before after, text = before ++ pattern ++ after ∧
      (∀ i < before.length, ¬OccursAt pattern text i) ∧
      count pattern text = count pattern after + 1 ∧
      ∀ new, replaceFirst pattern new text = before ++ new ++ after := by
  induction text with
  | nil => exact absurd rfl h
  | cons c text ih =>
    by_cases hhere : pattern <+: c :: text
    · obtain ⟨after, hafter⟩ := hhere
      refine ⟨[], after, hafter.symm, nofun, ?_, fun new => ?_⟩
      · rw [count_of_occursHere hne ⟨after, hafter⟩, ← hafter, List.drop_left]
      · rw [replaceFirst, if_pos ⟨after, hafter⟩, ← hafter, List.drop_left]
        rfl
    · rw [count_cons_of_not hhere] at h ⊢
      obtain ⟨before, after, rfl, hfirst, hcount, hreplace⟩ := ih h
      refine ⟨c :: before, after, rfl, fun i hi => ?_, hcount, fun new => ?_⟩
      · cases i with
        | zero => exact fun hocc => hhere (occursAt_zero.1 hocc)
        | succ i =>
          rw [occursAt_succ]
          exact hfirst i (by simpa using hi)
      · rw [replaceFirst, if_neg hhere, hreplace]
        rfl

/-- **The count is zero when the pattern does not occur.** -/
theorem count_eq_zero_iff (hne : pattern ≠ []) :
    count pattern text = 0 ↔ ∀ i, ¬OccursAt pattern text i := by
  constructor
  · intro h
    induction text with
    | nil =>
      intro i hocc
      rw [OccursAt, List.drop_nil, List.prefix_nil] at hocc
      exact hne hocc
    | cons c text ih =>
      by_cases hhere : pattern <+: c :: text
      · rw [count_of_occursHere hne hhere] at h
        exact absurd h (Nat.succ_ne_zero _)
      · rw [count_cons_of_not hhere] at h
        intro i
        cases i with
        | zero => exact fun hocc => hhere (occursAt_zero.1 hocc)
        | succ i =>
          rw [occursAt_succ]
          exact ih h i
  · intro h
    by_contra hcount
    obtain ⟨before, after, htext, -⟩ := exists_first hne hcount
    exact h before.length (htext ▸ occursAt_split before after)

/-- **A text counted once occurs once exactly when its occurrences are apart.** -/
theorem occursOnce_iff_apart (hne : pattern ≠ []) (h : count pattern text = 1) :
    (∀ i j, OccursAt pattern text i → OccursAt pattern text j → i = j) ↔ Apart pattern text := by
  constructor
  · intro honce i j hi hj hlt
    exact absurd (honce i j hi hj) hlt.ne
  · intro hapart
    have hfound : count pattern text ≠ 0 := by omega
    obtain ⟨before, after, htext, hfirst, hcount, -⟩ := exists_first hne hfound
    have hafter : ∀ i, ¬OccursAt pattern after i :=
      (count_eq_zero_iff hne).1 (by omega)
    have hbefore : OccursAt pattern text before.length := htext ▸ occursAt_split before after
    have hall : ∀ i, OccursAt pattern text i → i = before.length := by
      intro i hi
      rcases lt_trichotomy i before.length with hlt | heq | hgt
      · exact absurd hi (hfirst i hlt)
      · exact heq
      · obtain ⟨k, rfl⟩ := Nat.exists_eq_add_of_le (hapart _ i hbefore hi hgt)
        rw [htext, ← List.length_append, occursAt_append] at hi
        exact absurd hi (hafter k)
    intro i j hi hj
    rw [hall i hi, hall j hj]

/-- **A text counted once is replaced where it occurs**, and only there when its
occurrences are apart. -/
theorem replacesOnly_replaceFirst (hne : pattern ≠ []) (h : count pattern text = 1)
    (hapart : Apart pattern text) (new : List α) :
    ReplacesOnly pattern new text (replaceFirst pattern new text) := by
  have hfound : count pattern text ≠ 0 := by omega
  obtain ⟨before, after, htext, -, -, hreplace⟩ := exists_first hne hfound
  refine ⟨before, after, htext, hreplace new, fun i hi => ?_⟩
  exact (occursOnce_iff_apart hne h).2 hapart i _ hi (htext ▸ occursAt_split before after)

end Substrings
