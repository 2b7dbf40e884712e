/-
# Joined blocks of lines

A text that is joined of blocks, with an empty line between them, can be taken apart again
when no line of a block is empty and none has a line break (`joinBlocks_injective`): the
line breaks give the lines, and the empty lines give the blocks.
-/

import Mathlib.Data.List.Perm.Basic
import Mathlib.Logic.Function.Basic

namespace Joins

universe u v w

variable {α : Type u}

theorem intercalate_append (sep : List α) {front back : List (List α)} (hfront : front ≠ [])
    (hback : back ≠ []) :
    sep.intercalate (front ++ back) = sep.intercalate front ++ sep ++ sep.intercalate back := by
  induction front with
  | nil => exact absurd rfl hfront
  | cons item front ih =>
    cases front with
    | nil =>
      rw [List.singleton_append, List.intercalate_cons_of_ne_nil hback, List.intercalate_singleton]
    | cons next front =>
      have hnext : next :: front ≠ [] := List.cons_ne_nil _ _
      have happend : next :: front ++ back ≠ [] := List.append_ne_nil_of_left_ne_nil hnext back
      rw [List.cons_append, List.intercalate_cons_of_ne_nil happend, ih hnext,
        List.intercalate_cons_of_ne_nil hnext]
      simp only [List.append_assoc]

theorem mem_intercalate {sep : List α} {items : List (List α)} {a : α}
    (h : a ∈ sep.intercalate items) : a ∈ sep ∨ ∃ item ∈ items, a ∈ item := by
  induction items with
  | nil => cases h
  | cons item rest ih =>
    rcases eq_or_ne rest [] with rfl | hrest
    · rw [List.intercalate_singleton] at h
      exact Or.inr ⟨item, List.mem_cons_self, h⟩
    · rw [List.intercalate_cons_of_ne_nil hrest, List.mem_append, List.mem_append] at h
      rcases h with (h | h) | h
      · exact Or.inr ⟨item, List.mem_cons_self, h⟩
      · exact Or.inl h
      · rcases ih h with h | ⟨item', hitem', h⟩
        · exact Or.inl h
        · exact Or.inr ⟨item', List.mem_cons_of_mem _ hitem', h⟩

theorem intercalate_ne_nil {sep : List α} {items : List (List α)} {item : List α}
    (hmem : item ∈ items) (hitem : item ≠ []) : sep.intercalate items ≠ [] := by
  induction items with
  | nil => cases hmem
  | cons first rest ih =>
    cases rest with
    | nil =>
      rw [List.mem_singleton] at hmem
      rwa [List.intercalate_singleton, ← hmem]
    | cons next rest =>
      rw [List.intercalate_cons_cons]
      intro hnil
      obtain ⟨hfirst, hnil⟩ := List.append_eq_nil_iff.1 hnil
      rcases List.mem_cons.1 hmem with rfl | hmem
      · exact hitem (List.append_eq_nil_iff.1 hfirst).1
      · exact ih hmem hnil

/-- Joined texts are taken apart at the separator. -/
theorem intercalate_injective [DecidableEq α] {c : α} {parts parts' : List (List α)}
    (hne : parts ≠ []) (hne' : parts' ≠ []) (hparts : ∀ part ∈ parts, c ∉ part)
    (hparts' : ∀ part ∈ parts', c ∉ part)
    (h : [c].intercalate parts = [c].intercalate parts') : parts = parts' := by
  rw [← List.splitOn_intercalate c hparts hne, h, List.splitOn_intercalate c hparts' hne']

/-- The lines of the blocks, and line breaks between them: two between the blocks. -/
def joinBlocks (c : α) (blocks : List (List (List α))) : List α :=
  [c, c].intercalate (blocks.map fun lines => [c].intercalate lines)

/-- Two line breaks are one empty line. -/
theorem joinBlocks_eq (c : α) {blocks : List (List (List α))} (h : ∀ lines ∈ blocks, lines ≠ []) :
    joinBlocks c blocks = [c].intercalate ([[]].intercalate blocks) := by
  unfold joinBlocks
  induction blocks with
  | nil => rfl
  | cons lines rest ih =>
    rw [List.forall_mem_cons] at h
    cases rest with
    | nil => simp only [List.map_cons, List.map_nil, List.intercalate_singleton]
    | cons next rest =>
      have hrest : [[]].intercalate (next :: rest) ≠ [] :=
        intercalate_ne_nil List.mem_cons_self (h.2 next List.mem_cons_self)
      rw [List.map_cons, List.intercalate_cons_of_ne_nil (by simp), ih h.2,
        List.intercalate_cons_cons, intercalate_append [c] (by simp) hrest,
        intercalate_append [c] h.1 (by simp), List.intercalate_singleton]
      simp

/-- What is joined of blocks, if there are any. -/
structure Blocks (c : α) (blocks : List (List (List α))) : Prop where
  lines : ∀ lines ∈ blocks, lines ≠ []
  line : ∀ lines ∈ blocks, ∀ line ∈ lines, line ≠ [] ∧ c ∉ line

theorem joinBlocks_ne_nil {c : α} {blocks : List (List (List α))} (h : Blocks c blocks)
    (hne : blocks ≠ []) : joinBlocks c blocks ≠ [] := by
  obtain ⟨lines, hlines⟩ := List.exists_mem_of_ne_nil blocks hne
  obtain ⟨line, hline⟩ := List.exists_mem_of_ne_nil lines (h.lines lines hlines)
  exact intercalate_ne_nil (List.mem_map_of_mem hlines)
    (intercalate_ne_nil hline (h.line lines hlines line hline).1)

/-- **Joined blocks can be taken apart.** -/
theorem joinBlocks_injective [DecidableEq α] {c : α} {blocks blocks' : List (List (List α))}
    (h : Blocks c blocks) (h' : Blocks c blocks')
    (heq : joinBlocks c blocks = joinBlocks c blocks') : blocks = blocks' := by
  rcases eq_or_ne blocks [] with rfl | hne
  · by_contra hne'
    exact joinBlocks_ne_nil h' (Ne.symm hne') heq.symm
  rcases eq_or_ne blocks' [] with rfl | hne'
  · exact absurd heq (joinBlocks_ne_nil h hne)
  have hlines : ∀ {blocks : List (List (List α))}, Blocks c blocks → blocks ≠ [] →
      [[]].intercalate blocks ≠ [] ∧ ∀ line ∈ [[]].intercalate blocks, c ∉ line := by
    intro blocks h hne
    obtain ⟨lines, hlines⟩ := List.exists_mem_of_ne_nil blocks hne
    refine ⟨intercalate_ne_nil hlines (h.lines lines hlines), fun line hline => ?_⟩
    rcases mem_intercalate hline with hempty | ⟨lines', hlines', hmem⟩
    · rw [List.mem_singleton.1 hempty]
      exact List.not_mem_nil
    · exact (h.line lines' hlines' line hmem).2
  rw [joinBlocks_eq c h.lines, joinBlocks_eq c h'.lines] at heq
  have hsame := intercalate_injective (hlines h hne).1 (hlines h' hne').1 (hlines h hne).2
    (hlines h' hne').2 heq
  exact intercalate_injective hne hne' (fun lines hmem hempty => (h.line lines hmem [] hempty).1 rfl)
    (fun lines hmem hempty => (h'.line lines hmem [] hempty).1 rfl) hsame

/-- A list in another order is a list of values in another order. -/
theorem exists_perm_of_perm_map {β : Type v} {f : α → β} {l : List β} {l' : List α}
    (h : l.Perm (l'.map f)) : ∃ m : List α, m.Perm l' ∧ l = m.map f := by
  have hcomp := congrFun (congrFun (List.eq_map_comp_perm f) l) l'
  rw [← iff_iff_eq] at hcomp
  obtain ⟨m, heq, hperm⟩ := hcomp.2 h
  exact ⟨m, hperm, heq⟩

/-- Lists agree up to their order in a view when their elements can be paired off. -/
theorem perm_map_iff_exists {β : Type v} {f : α → β} {l l' : List α} :
    (l.map f).Perm (l'.map f) ↔ ∃ m, List.Forall₂ (fun a b => f a = f b) l m ∧ m.Perm l' := by
  have hmap : ∀ m : List α, l.map f = m.map f ↔ List.Forall₂ (fun a b => f a = f b) l m := by
    intro m
    rw [← List.forall₂_eq_eq_eq]
    exact List.forall₂_map_left_iff.trans List.forall₂_map_right_iff
  constructor
  · intro h
    obtain ⟨m, hperm, heq⟩ := exists_perm_of_perm_map h
    exact ⟨m, (hmap m).1 heq, hperm⟩
  · rintro ⟨m, hpairs, hperm⟩
    rw [(hmap m).2 hpairs]
    exact hperm.map f

/-- **Lists that agree up to their order in one view** agree in every view that tells the
same elements apart. -/
theorem perm_map_iff {β : Type v} {γ : Type w} {f : α → β} {g : α → γ} {l l' : List α}
    (h : ∀ a b, f a = f b ↔ g a = g b) : (l.map f).Perm (l'.map f) ↔ (l.map g).Perm (l'.map g) := by
  simp only [perm_map_iff_exists, h]

end Joins
