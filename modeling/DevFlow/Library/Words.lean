/-
# The words of a text

`str.split()` and `" ".join(text.split())`: the words between white space, and the text with
one blank between its words.  `squeeze_cons` reads the second off character by character, so
what it does to a text behind a label needs no splitting (`squeeze_append`).
-/

import DevFlow.Library.Joins

namespace Words

universe u

variable {α : Type u} {isSpace : α → Bool} {blank : α}

section
variable (isSpace)

/-- `text.split()`. -/
def split (text : List α) : List (List α) :=
  (text.splitOnP isSpace).filter fun word => !word.isEmpty

variable (blank)

/-- `" ".join(text.split())`. -/
def squeeze (text : List α) : List α :=
  [blank].intercalate (split isSpace text)

/-- A squeezed text behind a character that is not white space: a blank is kept before the
first word. -/
def squeezeBehind (text : List α) : List α :=
  if text.head?.any isSpace = true ∧ squeeze isSpace blank text ≠ [] then
    blank :: squeeze isSpace blank text
  else squeeze isSpace blank text

end

/-! ### Reading off the words -/

theorem split_nil : split isSpace ([] : List α) = [] := rfl

theorem split_cons_space {c : α} {text : List α} (h : isSpace c = true) :
    split isSpace (c :: text) = split isSpace text := by
  rw [split, List.splitOnP_cons_eq_if_modifyHead, if_pos h, List.filter_cons_of_neg (by simp)]
  rfl

theorem split_cons_visible {c : α} {text : List α} (h : isSpace c = false) :
    split isSpace (c :: text) =
      if text.head?.all isSpace = true then [c] :: split isSpace text
      else (split isSpace text).modifyHead (c :: ·) := by
  have hc : ¬isSpace c = true := by
    rw [h]
    exact Bool.false_ne_true
  rw [split, List.splitOnP_cons_eq_if_modifyHead, if_neg hc]
  cases text with
  | nil => rfl
  | cons d rest =>
    rw [split, List.splitOnP_cons_eq_if_modifyHead]
    by_cases hd : isSpace d = true
    · rw [if_pos hd, if_pos (by simpa using hd)]
      rfl
    · obtain ⟨first, others, hsplit⟩ :=
        List.exists_cons_of_ne_nil (List.splitOnP_ne_nil isSpace rest)
      rw [if_neg hd, if_neg (by simpa using hd), hsplit]
      rfl

theorem split_eq_nil_iff {text : List α} :
    split isSpace text = [] ↔ ∀ c ∈ text, isSpace c = true := by
  induction text with
  | nil => simp [split_nil]
  | cons c text ih =>
    rw [List.forall_mem_cons]
    cases hc : isSpace c with
    | true => rw [split_cons_space hc, ih, and_iff_right rfl]
    | false =>
      rw [split_cons_visible hc]
      refine ⟨fun hnil => ?_, fun hall => absurd hall.1 Bool.false_ne_true⟩
      split_ifs at hnil with hhead
      -- a word was begun
      rw [List.modifyHead_eq_nil_iff, ih] at hnil
      exfalso
      cases text with
      | nil => exact hhead rfl
      | cons d rest => exact hhead (hnil d List.mem_cons_self)

theorem ne_nil_of_mem_split {text word : List α} (h : word ∈ split isSpace text) : word ≠ [] := by
  have hfilter := (List.mem_filter.1 h).2
  rintro rfl
  exact Bool.false_ne_true hfilter

/-- A word, white space, and the words after it. -/
theorem split_append_cons {word rest : List α} {c : α} (hword : ∀ d ∈ word, isSpace d = false)
    (hne : word ≠ []) (hc : isSpace c = true) :
    split isSpace (word ++ c :: rest) = word :: split isSpace rest := by
  rw [split, List.splitOnP_append_cons_of_forall_mem hword c hc, List.filter_cons_of_pos]
  · rfl
  · simpa using hne

theorem split_eq_singleton {word : List α} (hword : ∀ d ∈ word, isSpace d = false)
    (hne : word ≠ []) : split isSpace word = [word] := by
  rw [split, List.splitOnP_eq_singleton hword, List.filter_cons_of_pos (by simpa using hne),
    List.filter_nil]

/-! ### Squeezed texts -/

theorem squeeze_eq_nil_iff {text : List α} :
    squeeze isSpace blank text = [] ↔ ∀ c ∈ text, isSpace c = true := by
  rw [← split_eq_nil_iff]
  constructor
  · intro hnil
    by_contra hne
    obtain ⟨word, hword⟩ := List.exists_mem_of_ne_nil _ hne
    exact Joins.intercalate_ne_nil hword (ne_nil_of_mem_split hword) hnil
  · intro hnil
    rw [squeeze, hnil]
    rfl

theorem squeeze_cons_space {c : α} {text : List α} (h : isSpace c = true) :
    squeeze isSpace blank (c :: text) = squeeze isSpace blank text := by
  rw [squeeze, split_cons_space h, squeeze]

/-- **A squeezed text, character by character.** -/
theorem squeeze_cons {c : α} {text : List α} (h : isSpace c = false) :
    squeeze isSpace blank (c :: text) = c :: squeezeBehind isSpace blank text := by
  rw [squeeze, split_cons_visible h, squeezeBehind]
  by_cases hall : split isSpace text = []
  · -- nothing but white space comes behind the character
    have hsqueeze : squeeze isSpace blank text = [] :=
      squeeze_eq_nil_iff.2 (split_eq_nil_iff.1 hall)
    have hhead : text.head?.all isSpace = true := by
      cases text with
      | nil => rfl
      | cons d rest => exact split_eq_nil_iff.1 hall d List.mem_cons_self
    rw [if_pos hhead, if_neg (fun hbehind => hbehind.2 hsqueeze), hall, hsqueeze]
    rfl
  · have hsqueeze : squeeze isSpace blank text ≠ [] := fun hnil =>
      hall (split_eq_nil_iff.2 (squeeze_eq_nil_iff.1 hnil))
    cases text with
    | nil => exact absurd split_nil hall
    | cons d rest =>
      by_cases hd : isSpace d = true
      · rw [if_pos (by simpa using hd), if_pos ⟨by simpa using hd, hsqueeze⟩,
          List.intercalate_cons_of_ne_nil hall]
        rfl
      · obtain ⟨word, others, hsplit⟩ := List.exists_cons_of_ne_nil hall
        rw [if_neg (by simpa using hd), if_neg (fun hbehind => hd (by simpa using hbehind.1)),
          squeeze, hsplit]
        exact List.intercalate_cons_cons_left

/-- **A squeezed text behind a label.** -/
theorem squeeze_append {label text : List α} (hne : label ≠ [])
    (hlabel : ∀ c ∈ label, isSpace c = false) :
    squeeze isSpace blank (label ++ text) = label ++ squeezeBehind isSpace blank text := by
  induction label with
  | nil => exact absurd rfl hne
  | cons c label ih =>
    rw [List.forall_mem_cons] at hlabel
    rw [List.cons_append, squeeze_cons hlabel.1, List.cons_append]
    cases label with
    | nil => rfl
    | cons d label =>
      have hd : ¬isSpace d = true := by
        rw [hlabel.2 d List.mem_cons_self]
        exact Bool.false_ne_true
      rw [squeezeBehind, if_neg (fun hbehind => hd (by simpa using hbehind.1)),
        ih (List.cons_ne_nil d label) hlabel.2]

theorem squeeze_append_left {space text : List α} (h : ∀ c ∈ space, isSpace c = true) :
    squeeze isSpace blank (space ++ text) = squeeze isSpace blank text := by
  induction space with
  | nil => rfl
  | cons c space ih =>
    rw [List.forall_mem_cons] at h
    rw [List.cons_append, squeeze_cons_space h.1, ih h.2]

theorem squeeze_append_right {text space : List α} (h : ∀ c ∈ space, isSpace c = true) :
    squeeze isSpace blank (text ++ space) = squeeze isSpace blank text := by
  induction text with
  | nil => rw [List.nil_append, squeeze_eq_nil_iff.2 h, squeeze_eq_nil_iff.2 (by simp)]
  | cons c text ih =>
    cases hc : isSpace c with
    | true => rw [List.cons_append, squeeze_cons_space hc, squeeze_cons_space hc, ih]
    | false =>
      rw [List.cons_append, squeeze_cons hc, squeeze_cons hc, squeezeBehind, squeezeBehind, ih]
      cases text with
      | cons d text => rfl
      | nil =>
        have hnil : squeeze isSpace blank ([] : List α) = [] := rfl
        rw [hnil]
        simp

/-- A squeezed text has no white space but blanks. -/
theorem mem_squeeze {text : List α} {c : α} (h : c ∈ squeeze isSpace blank text) :
    c = blank ∨ isSpace c = false ∧ c ∈ text := by
  induction text with
  | nil => cases h
  | cons d text ih =>
    cases hd : isSpace d with
    | true =>
      rw [squeeze_cons_space hd] at h
      exact (ih h).imp_right fun h => ⟨h.1, List.mem_cons_of_mem d h.2⟩
    | false =>
      rw [squeeze_cons hd, List.mem_cons] at h
      rcases h with rfl | h
      · exact Or.inr ⟨hd, List.mem_cons_self⟩
      have hbehind : c = blank ∨ c ∈ squeeze isSpace blank text := by
        rw [squeezeBehind] at h
        split_ifs at h
        · exact List.mem_cons.1 h
        · exact Or.inr h
      rcases hbehind with rfl | h
      · exact Or.inl rfl
      · exact (ih h).imp_right fun h => ⟨h.1, List.mem_cons_of_mem d h.2⟩

/-- A squeezed text does not begin with white space. -/
theorem head?_squeeze {text : List α} {c : α}
    (h : (squeeze isSpace blank text).head? = some c) : isSpace c = false := by
  induction text with
  | nil => cases h
  | cons d text ih =>
    cases hd : isSpace d with
    | true =>
      rw [squeeze_cons_space hd] at h
      exact ih h
    | false =>
      rw [squeeze_cons hd, List.head?_cons, Option.some.injEq] at h
      rwa [← h]

/-- A text without white space is kept. -/
theorem squeeze_eq_self {text : List α} (h : ∀ c ∈ text, isSpace c = false) :
    squeeze isSpace blank text = text := by
  rcases eq_or_ne text [] with rfl | hne
  · rfl
  · have happend := @squeeze_append _ isSpace blank text [] hne h
    rw [List.append_nil] at happend
    rw [happend]
    simp [squeezeBehind, squeeze, split_nil]

end Words
