/-
# Tables with a unique key

A table is the list of its rows, in the order they were inserted.  `Keyed key`
says that no two rows have one key, which is what a UNIQUE constraint says, and
what a lookup followed by an insert under a row lock establishes.  `amend` is
`UPDATE … WHERE key = k`.

What a column adds up to is what a program that keeps totals beside its rows
relies on.  `total p g` is the sum of `g` over the rows that satisfy `p`, and each
of the operations comes with the lemma that says how far it moves a total.
-/

import Mathlib.Algebra.BigOperators.Group.List.Basic
import Mathlib.Algebra.Ring.Nat
import Mathlib.Data.List.Induction
import Mathlib.Data.List.Nodup

namespace Tables

universe u v

variable {α : Type u} {κ : Type v} {key : α → κ} {rows : List α} {row row' : α} {k : κ}

/-- No two rows have one key. -/
def Keyed (key : α → κ) (rows : List α) : Prop :=
  (rows.map key).Nodup

theorem Keyed.eq_of_key (h : Keyed key rows) (hrow : row ∈ rows) (hrow' : row' ∈ rows)
    (heq : key row = key row') : row = row' :=
  List.inj_on_of_nodup_map h hrow hrow' heq

/-- A row whose key is new goes in. -/
theorem Keyed.append (h : Keyed key rows) (hnew : ∀ r ∈ rows, key r ≠ key row) :
    Keyed key (rows ++ [row]) := by
  unfold Keyed
  rw [List.map_append, List.map_singleton, List.nodup_append]
  refine ⟨h, List.nodup_singleton _, ?_⟩
  intro a ha b hb hab
  obtain ⟨r, hr, rfl⟩ := List.mem_map.1 ha
  rw [List.mem_singleton.1 hb] at hab
  exact hnew r hr hab

section Lookup

variable [DecidableEq κ]

/-- **A key finds the row that carries it.** -/
theorem Keyed.find?_of_mem (h : Keyed key rows) (hrow : row ∈ rows) :
    rows.find? (fun r => key r = key row) = some row := by
  have hsome : (rows.find? fun r => key r = key row).isSome :=
    List.find?_isSome.2 ⟨row, hrow, by simp⟩
  obtain ⟨found, hfound⟩ := Option.isSome_iff_exists.1 hsome
  have hkey : key found = key row := by simpa using List.find?_some hfound
  rw [hfound, h.eq_of_key (List.mem_of_find?_eq_some hfound) hrow hkey]

theorem find?_eq_none : rows.find? (fun r => key r = k) = none ↔ ∀ r ∈ rows, key r ≠ k := by
  simp [List.find?_eq_none]

/-- `UPDATE … WHERE key = k`. -/
def amend (key : α → κ) (k : κ) (f : α → α) (rows : List α) : List α :=
  rows.map fun r => if key r = k then f r else r

variable {f : α → α}

theorem mem_amend {r : α} : r ∈ amend key k f rows ↔
    ∃ r₀ ∈ rows, (key r₀ = k ∧ r = f r₀) ∨ (key r₀ ≠ k ∧ r = r₀) := by
  simp only [amend, List.mem_map]
  constructor
  · rintro ⟨r₀, hr₀, rfl⟩
    by_cases hk : key r₀ = k
    · exact ⟨r₀, hr₀, Or.inl ⟨hk, if_pos hk⟩⟩
    · exact ⟨r₀, hr₀, Or.inr ⟨hk, if_neg hk⟩⟩
  · rintro ⟨r₀, hr₀, ⟨hk, rfl⟩ | ⟨hk, rfl⟩⟩
    · exact ⟨r₀, hr₀, if_pos hk⟩
    · exact ⟨r, hr₀, if_neg hk⟩

/-- An update that keeps the keys keeps the table keyed. -/
theorem map_key_amend (hf : ∀ r ∈ rows, key (f r) = key r) :
    (amend key k f rows).map key = rows.map key := by
  rw [amend, List.map_map]
  refine List.map_congr_left fun r hr => ?_
  show key (if key r = k then f r else r) = key r
  split_ifs
  · exact hf r hr
  · rfl

theorem Keyed.amend (h : Keyed key rows) (hf : ∀ r ∈ rows, key (f r) = key r) :
    Keyed key (amend key k f rows) := by
  unfold Keyed
  rw [map_key_amend hf]
  exact h

/-- An update under a key that no row has changes nothing. -/
theorem amend_of_not_mem (h : ∀ r ∈ rows, key r ≠ k) : Tables.amend key k f rows = rows := by
  have hsame : ∀ r ∈ rows, (if key r = k then f r else r) = r := fun r hr => if_neg (h r hr)
  rw [Tables.amend, List.map_congr_left hsame, List.map_id']

/-- **One update moves a sum by what it does to its own row.** -/
theorem Keyed.sum_amend (h : Keyed key rows) (hrow : row ∈ rows) (g : α → ℕ) :
    ((Tables.amend key (key row) f rows).map g).sum + g row = (rows.map g).sum + g (f row) := by
  induction rows with
  | nil => cases hrow
  | cons first rest ih =>
    rw [Keyed, List.map_cons, List.nodup_cons] at h
    obtain ⟨hfirst, hrest⟩ := h
    rcases List.mem_cons.1 hrow with rfl | hmem
    · have hothers : ∀ r ∈ rest, key r ≠ key row := fun r hr heq =>
        hfirst (heq ▸ List.mem_map_of_mem hr)
      have htail : Tables.amend key (key row) f rest = rest := amend_of_not_mem hothers
      rw [Tables.amend, List.map_cons, if_pos rfl, ← Tables.amend, htail]
      simp only [List.map_cons, List.sum_cons]
      omega
    · have hne : key first ≠ key row := fun heq => hfirst (heq ▸ List.mem_map_of_mem hmem)
      rw [Tables.amend, List.map_cons, if_neg hne, ← Tables.amend]
      simp only [List.map_cons, List.sum_cons]
      have := ih hrest hmem
      omega

/-- `INSERT … ON CONFLICT (key) DO UPDATE`. -/
def upsert (key : α → κ) (row : α) (f : α → α) (rows : List α) : List α :=
  if ∃ r ∈ rows, key r = key row then amend key (key row) f rows else rows ++ [row]

@[simp] theorem upsert_nil : upsert key row f [] = [row] := by
  simp [upsert]

theorem Keyed.upsert (h : Keyed key rows) (hf : ∀ r ∈ rows, key (f r) = key r) :
    Keyed key (Tables.upsert key row f rows) := by
  unfold Tables.upsert
  split_ifs with hmem
  · exact h.amend hf
  · exact h.append fun r hr heq => hmem ⟨r, hr, heq⟩

/-- **An upsert that adds its row to the one that is there moves a sum by the row.** -/
theorem Keyed.sum_upsert (h : Keyed key rows) (g : α → ℕ) (hf : ∀ r, g (f r) = g r + g row) :
    ((Tables.upsert key row f rows).map g).sum = (rows.map g).sum + g row := by
  unfold Tables.upsert
  split_ifs with hmem
  · obtain ⟨r, hr, hkey⟩ := hmem
    have hsum := h.sum_amend hr g (f := f)
    rw [hkey, hf r] at hsum
    omega
  · rw [List.map_append, List.sum_append]
    simp

/-- `d[key] = row`, the keys in the order in which they came. -/
def put (key : α → κ) (rows : List α) (row : α) : List α :=
  upsert key row (fun _ => row) rows

theorem mem_put {r : α} : r ∈ put key rows row ↔ r = row ∨ r ∈ rows ∧ key r ≠ key row := by
  unfold put upsert
  split_ifs with hmem
  · rw [mem_amend]
    constructor
    · rintro ⟨r₀, hr₀, ⟨-, rfl⟩ | ⟨hne, rfl⟩⟩
      · exact Or.inl rfl
      · exact Or.inr ⟨hr₀, hne⟩
    · rintro (rfl | ⟨hr, hne⟩)
      · obtain ⟨r₀, hr₀, hkey⟩ := hmem
        exact ⟨r₀, hr₀, Or.inl ⟨hkey, rfl⟩⟩
      · exact ⟨r, hr, Or.inr ⟨hne, rfl⟩⟩
  · rw [List.mem_append, List.mem_singleton, or_comm]
    exact or_congr_right ⟨fun hr => ⟨hr, fun heq => hmem ⟨r, hr, heq⟩⟩, And.left⟩

theorem Keyed.put (h : Keyed key rows) (row : α) : Keyed key (Tables.put key rows row) := by
  unfold Tables.put Tables.upsert
  split_ifs with hmem
  · have hkeys : (Tables.amend key (key row) (fun _ => row) rows).map key = rows.map key := by
      rw [Tables.amend, List.map_map]
      refine List.map_congr_left fun r _ => ?_
      show key (if key r = key row then row else r) = key r
      split_ifs with heq
      · exact heq.symm
      · rfl
    unfold Keyed
    rw [hkeys]
    exact h
  · exact h.append fun r hr heq => hmem ⟨r, hr, heq⟩

theorem Keyed.foldl_put (h : Keyed key rows) (new : List α) :
    Keyed key (new.foldl (Tables.put key) rows) := by
  induction new generalizing rows with
  | nil => exact h
  | cons row new ih => exact ih (h.put row)

/-- **Of the entries with one key the last one stays.** -/
theorem mem_foldl_put {entries : List α} {r : α} :
    r ∈ entries.foldl (put key) [] ↔
      (entries.filter fun entry => key entry = key r).getLast? = some r := by
  induction entries using List.reverseRecOn with
  | nil => simp
  | append_singleton entries entry ih =>
    rw [List.foldl_append, List.foldl_cons, List.foldl_nil, mem_put, ih, List.filter_append]
    by_cases hkey : key entry = key r
    · have hlast : [entry].filter (fun entry => key entry = key r) = [entry] := by simp [hkey]
      rw [hlast, List.getLast?_append_of_ne_nil _ (List.cons_ne_nil _ _), List.getLast?_singleton,
        Option.some_inj]
      constructor
      · rintro (rfl | ⟨-, hne⟩)
        · rfl
        · exact absurd hkey.symm hne
      · rintro rfl
        exact Or.inl rfl
    · have hnone : [entry].filter (fun entry => key entry = key r) = [] := by simp [hkey]
      rw [hnone, List.append_nil]
      constructor
      · rintro (rfl | ⟨h, -⟩)
        · exact absurd rfl hkey
        · exact h
      · exact fun h => Or.inr ⟨h, fun heq => hkey heq.symm⟩

/-- `INSERT … ON CONFLICT (key) DO NOTHING`. -/
def insertNew (key : α → κ) (rows : List α) (row : α) : List α :=
  if ∃ r ∈ rows, key r = key row then rows else rows ++ [row]

theorem Keyed.insertNew (h : Keyed key rows) (row : α) :
    Keyed key (insertNew key rows row) := by
  unfold Tables.insertNew
  split_ifs with hmem
  · exact h
  · exact h.append fun r hr heq => hmem ⟨r, hr, heq⟩

theorem mem_insertNew {r : α} (h : r ∈ insertNew key rows row) :
    r ∈ rows ∨ r = row ∧ ∀ r' ∈ rows, key r' ≠ key row := by
  unfold insertNew at h
  split_ifs at h with hmem
  · exact Or.inl h
  · rcases List.mem_append.1 h with h | h
    · exact Or.inl h
    · exact Or.inr ⟨List.mem_singleton.1 h, fun r' hr' heq => hmem ⟨r', hr', heq⟩⟩

/-- The same for several rows, one after the other. -/
theorem Keyed.foldl_insertNew (h : Keyed key rows) (new : List α) :
    Keyed key (new.foldl (Tables.insertNew key) rows) := by
  induction new generalizing rows with
  | nil => exact h
  | cons row new ih => exact ih (h.insertNew row)

theorem mem_insertNew_of_mem {r : α} (h : r ∈ rows) : r ∈ insertNew key rows row := by
  unfold insertNew
  split_ifs
  · exact h
  · exact List.mem_append_left _ h

theorem mem_foldl_insertNew {new : List α} {r : α}
    (h : r ∈ new.foldl (insertNew key) rows) :
    r ∈ rows ∨ r ∈ new ∧ ∀ r' ∈ rows, key r' ≠ key r := by
  induction new generalizing rows with
  | nil => exact Or.inl h
  | cons row new ih =>
    rcases ih h with hold | ⟨hnew, hkeys⟩
    · rcases mem_insertNew hold with hrows | ⟨rfl, hkeys⟩
      · exact Or.inl hrows
      · exact Or.inr ⟨List.mem_cons_self, hkeys⟩
    · exact Or.inr ⟨List.mem_cons_of_mem _ hnew, fun r' hr' => hkeys r' (mem_insertNew_of_mem hr')⟩

/-- `DELETE … WHERE key = k`. -/
def delete (key : α → κ) (k : κ) (rows : List α) : List α :=
  rows.filter fun r => key r ≠ k

@[simp] theorem mem_delete {r : α} : r ∈ delete key k rows ↔ r ∈ rows ∧ key r ≠ k := by
  simp [delete]

theorem Keyed.delete (h : Keyed key rows) (k : κ) : Keyed key (delete key k rows) :=
  List.Nodup.sublist (List.filter_sublist.map key) h

end Lookup

/-- The sum of `g` over the rows that satisfy `p`. -/
def total (p : α → Prop) [DecidablePred p] (g : α → ℕ) (rows : List α) : ℕ :=
  ((rows.filter fun r => p r).map g).sum

section Total

variable {p : α → Prop} [DecidablePred p] {g : α → ℕ}

@[simp] theorem total_nil : total p g [] = 0 := rfl

theorem total_cons (first : α) (rest : List α) :
    total p g (first :: rest) = (if p first then g first else 0) + total p g rest := by
  unfold total
  by_cases hp : p first
  · rw [List.filter_cons_of_pos (by simpa using hp), if_pos hp, List.map_cons, List.sum_cons]
  · rw [List.filter_cons_of_neg (by simpa using hp), if_neg hp, Nat.zero_add]

/-- An insert adds its row, if the total counts it. -/
theorem total_append : total p g (rows ++ [row]) = total p g rows + if p row then g row else 0 := by
  induction rows with
  | nil => simp [total_cons]
  | cons first rest ih =>
    rw [List.cons_append, total_cons, total_cons, ih]
    omega

/-- No row is more than a total that counts it. -/
theorem le_total (hrow : row ∈ rows) (hp : p row) : g row ≤ total p g rows := by
  induction rows with
  | nil => cases hrow
  | cons first rest ih =>
    rw [total_cons]
    rcases List.mem_cons.1 hrow with rfl | hmem
    · rw [if_pos hp]
      omega
    · have := ih hmem
      omega

/-- **A delete takes its row off every total that counts it.** -/
theorem Keyed.total_delete [DecidableEq κ] (h : Keyed key rows) (hrow : row ∈ rows) :
    total p g (Tables.delete key (key row) rows) + (if p row then g row else 0) =
      total p g rows := by
  induction rows with
  | nil => cases hrow
  | cons first rest ih =>
    rw [Keyed, List.map_cons, List.nodup_cons] at h
    obtain ⟨hfirst, hrest⟩ := h
    rcases List.mem_cons.1 hrow with rfl | hmem
    · have hothers : ∀ r ∈ rest, key r ≠ key row := fun r hr heq =>
        hfirst (heq ▸ List.mem_map_of_mem hr)
      have htail : Tables.delete key (key row) (row :: rest) = rest := by
        unfold Tables.delete
        rw [List.filter_cons_of_neg (by simp), List.filter_eq_self.2]
        intro r hr
        simpa using hothers r hr
      rw [htail, total_cons]
      omega
    · have hne : key first ≠ key row := fun heq => hfirst (heq ▸ List.mem_map_of_mem hmem)
      have htail : Tables.delete key (key row) (first :: rest) =
          first :: Tables.delete key (key row) rest := by
        unfold Tables.delete
        rw [List.filter_cons_of_pos (by simpa using hne)]
      have := ih hrest hmem
      rw [htail, total_cons, total_cons]
      omega

theorem total_true : total (fun _ => True) g rows = (rows.map g).sum := by
  simp [total]

/-- A total that counts no row is zero. -/
theorem total_eq_zero (h : ∀ r ∈ rows, ¬p r) : total p g rows = 0 := by
  unfold total
  rw [List.filter_eq_nil_iff.2 (by simpa using h)]
  rfl

end Total

end Tables
