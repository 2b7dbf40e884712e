/-
# Groups of a list

The values of a list of pairs, key by key in the order in which the keys come up:
what a loop of `table.setdefault(key, []).append(value)` builds over an
insertion-ordered dictionary.  `groups_concat` is one round of that loop.
-/

import DevFlow.Library.Tables
import Mathlib.Data.List.Induction

namespace Groups

universe u v

variable {α : Type u} {κ : Type v} [DecidableEq κ]

/-- The values of a key. -/
def valuesOf (items : List (κ × α)) (k : κ) : List α :=
  (items.filter fun item => item.1 = k).map Prod.snd

/-- The values of every key. -/
def groups (items : List (κ × α)) : List (κ × List α) :=
  (items.map Prod.fst).eraseDups.map fun k => (k, valuesOf items k)

/-- `table.setdefault(key, []).append(value)`. -/
def push (table : List (κ × List α)) (item : κ × α) : List (κ × List α) :=
  Tables.upsert Prod.fst (item.1, [item.2]) (fun row => (row.1, row.2 ++ [item.2])) table

/-! ### Keys that come up again -/

section Keys

variable {β : Type u} [BEq β] [LawfulBEq β] {l : List β} {b : β}

/-- An element that is there already stays out. -/
theorem eraseDups_concat_of_mem (h : b ∈ l) : (l ++ [b]).eraseDups = l.eraseDups := by
  have hnone : [b].removeAll l = [] := by simp [List.removeAll, h]
  rw [List.eraseDups_append, hnone, List.eraseDups_nil, List.append_nil]

/-- A new element comes last. -/
theorem eraseDups_concat_of_not_mem (h : b ∉ l) : (l ++ [b]).eraseDups = l.eraseDups ++ [b] := by
  have hnew : [b].removeAll l = [b] := by simp [List.removeAll, h]
  rw [List.eraseDups_append, hnew, List.eraseDups_cons, List.filter_nil, List.eraseDups_nil]

theorem nodup_eraseDups (l : List β) : l.eraseDups.Nodup := by
  induction l using List.reverseRecOn with
  | nil => rw [List.eraseDups_nil]; exact List.nodup_nil
  | append_singleton l b ih =>
    by_cases h : b ∈ l
    · rw [eraseDups_concat_of_mem h]
      exact ih
    · rw [eraseDups_concat_of_not_mem h]
      refine List.nodup_append.2 ⟨ih, List.nodup_singleton b, ?_⟩
      intro a ha b' hb' hab
      rw [List.mem_singleton.1 hb'] at hab
      exact h (List.mem_eraseDups.1 (hab ▸ ha))

end Keys

/-! ### The table -/

theorem map_fst_groups (items : List (κ × α)) :
    (groups items).map Prod.fst = (items.map Prod.fst).eraseDups := by
  rw [groups, List.map_map]
  exact List.map_id _

/-- No key has two groups. -/
theorem keyed_groups (items : List (κ × α)) : Tables.Keyed Prod.fst (groups items) := by
  rw [Tables.Keyed, map_fst_groups]
  exact nodup_eraseDups _

theorem mem_groups {items : List (κ × α)} {row : κ × List α} :
    row ∈ groups items ↔ row.1 ∈ items.map Prod.fst ∧ row.2 = valuesOf items row.1 := by
  simp only [groups, List.mem_map, List.mem_eraseDups, Prod.ext_iff]
  constructor
  · rintro ⟨k, hk, hkey, hitems⟩
    subst hkey
    exact ⟨hk, hitems.symm⟩
  · rintro ⟨hk, hitems⟩
    exact ⟨row.1, hk, rfl, hitems.symm⟩

theorem groups_eq_nil_iff {items : List (κ × α)} : groups items = [] ↔ items = [] := by
  constructor
  · intro hnil
    by_contra hne
    obtain ⟨item, hitem⟩ := List.exists_mem_of_ne_nil _ hne
    have hmem : (item.1, valuesOf items item.1) ∈ groups items :=
      mem_groups.2 ⟨List.mem_map_of_mem hitem, rfl⟩
    rw [hnil] at hmem
    cases hmem
  · rintro rfl
    rfl

theorem valuesOf_concat (items : List (κ × α)) (item : κ × α) (k : κ) :
    valuesOf (items ++ [item]) k = valuesOf items k ++ if item.1 = k then [item.2] else [] := by
  rw [valuesOf, valuesOf, List.filter_append, List.map_append]
  by_cases h : item.1 = k <;> simp [h]

theorem valuesOf_eq_nil_iff {items : List (κ × α)} {k : κ} :
    valuesOf items k = [] ↔ k ∉ items.map Prod.fst := by
  rw [valuesOf, List.map_eq_nil_iff, List.filter_eq_nil_iff, List.mem_map]
  constructor
  · rintro h ⟨item, hitem, hkey⟩
    exact h item hitem (decide_eq_true hkey)
  · intro h item hitem hkey
    exact h ⟨item, hitem, of_decide_eq_true hkey⟩

/-- A value of a key. -/
theorem mem_valuesOf {items : List (κ × α)} {k : κ} {a : α} :
    a ∈ valuesOf items k ↔ (k, a) ∈ items := by
  simp [valuesOf]

/-- **One round of the loop.** -/
theorem groups_concat (items : List (κ × α)) (item : κ × α) :
    groups (items ++ [item]) = push (groups items) item := by
  have hmem : (∃ row ∈ groups items, row.1 = item.1) ↔ item.1 ∈ items.map Prod.fst := by
    rw [← List.mem_eraseDups, ← map_fst_groups, List.mem_map]
  rw [groups, List.map_append, List.map_singleton, push, Tables.upsert]
  simp only [hmem]
  split_ifs with h
  · -- the group of the key grows
    rw [eraseDups_concat_of_mem h, Tables.amend, groups, List.map_map]
    refine List.map_congr_left fun k _ => ?_
    rw [valuesOf_concat, Function.comp_apply]
    by_cases hk : item.1 = k
    · rw [if_pos hk, if_pos hk.symm]
    · rw [if_neg hk, if_neg (Ne.symm hk), List.append_nil]
  · rw [eraseDups_concat_of_not_mem h, List.map_append, List.map_singleton, valuesOf_concat,
      valuesOf_eq_nil_iff.2 h, if_pos rfl, List.nil_append, groups]
    congr 1
    refine List.map_congr_left fun k hk => ?_
    have hne : item.1 ≠ k := fun heq => h (heq ▸ List.mem_eraseDups.1 hk)
    rw [valuesOf_concat, if_neg hne, List.append_nil]

/-- A group of a new key comes last. -/
theorem groups_append {items : List (κ × α)} {k : κ} {group : List α}
    (hnew : k ∉ items.map Prod.fst) (hne : group ≠ []) :
    groups (items ++ group.map (k, ·)) = groups items ++ [(k, group)] := by
  have hother : ∀ row ∈ groups items, row.1 ≠ k := by
    rintro row hrow rfl
    exact hnew (mem_groups.1 hrow).1
  induction group using List.reverseRecOn with
  | nil => exact absurd rfl hne
  | append_singleton group a ih =>
    rw [List.map_append, List.map_singleton, ← List.append_assoc, groups_concat, push]
    cases group with
    | nil =>
      rw [List.map_nil, List.append_nil, Tables.upsert, if_neg, List.nil_append]
      rintro ⟨row, hrow, hfst⟩
      exact hother row hrow hfst
    | cons b group =>
      rw [ih (List.cons_ne_nil b group), Tables.upsert,
        if_pos ⟨_, List.mem_append_right _ (List.mem_singleton_self _), rfl⟩, Tables.amend,
        List.map_append, List.map_singleton, if_pos rfl]
      congr 1
      conv_rhs => rw [← List.map_id (groups items)]
      refine List.map_congr_left fun row hrow => ?_
      rw [if_neg (hother row hrow), id]

/-- **A list that is in groups already** keeps its groups. -/
theorem groups_flatMap {table : List (κ × List α)} (hkeys : (table.map Prod.fst).Nodup)
    (hrows : ∀ row ∈ table, row.2 ≠ []) :
    groups (table.flatMap fun row => row.2.map (row.1, ·)) = table := by
  induction table using List.reverseRecOn with
  | nil => rfl
  | append_singleton table row ih =>
    rw [List.map_append, List.nodup_append] at hkeys
    rw [List.flatMap_append, List.flatMap_singleton,
      groups_append ?_ (hrows row (List.mem_append_right _ (List.mem_singleton_self row))),
      ih hkeys.1 fun r hr => hrows r (List.mem_append_left _ hr)]
    rw [List.mem_map]
    rintro ⟨item, hitem, hfst⟩
    obtain ⟨r, hr, hmem⟩ := List.mem_flatMap.1 hitem
    obtain ⟨a, -, rfl⟩ := List.mem_map.1 hmem
    exact hkeys.2.2 r.1 (List.mem_map_of_mem hr) row.1 (List.mem_singleton_self _) hfst

end Groups
