/-
# Topological orders

A finite list `ids` of elements and a relation `edge d t`: `d` has to come
before `t`.  An order is built from left to right out of elements that are
`Available`, which is to say that all that has to come before them was taken.
`Legal` says that every element is available when it is taken and `Greedy` that
it is the least available one besides.

A legal order of all elements is a topological permutation and the other way
round (`topological_iff`).  A greedy one is lexicographically the least of them
(`Greedy.isLeast`): the first place where another order differs from it takes an
element that was available, so a greater one.  Without a cycle some element is
always available (`exists_available`), and a topological permutation rules a
cycle out (`Topological.acyclic`).
-/

import Mathlib.Data.Set.Finite.Basic
import Mathlib.Data.List.Induction
import Mathlib.Data.List.Lex
import Mathlib.Data.List.Perm.Basic
import Mathlib.Data.List.Sort
import Mathlib.Order.Bounds.Basic
import Mathlib.Order.WellFounded

namespace Orders

universe u

variable {α : Type u} {edge edge' : α → α → Prop} {ids ids' done order other : List α}

/-- All that has to come before `t` was taken, and `t` was not. -/
structure Available (edge : α → α → Prop) (ids done : List α) (t : α) : Prop where
  mem : t ∈ ids
  fresh : t ∉ done
  settled : ∀ d, edge d t → d ∈ done

/-- Every element of the order is available when it is taken. -/
def Legal (edge : α → α → Prop) (ids : List α) : (done order : List α) → Prop
  | _, [] => True
  | done, t :: rest => Available edge ids done t ∧ Legal edge ids (done ++ [t]) rest

/-- Every element of the order is the least available one when it is taken. -/
def Greedy [LE α] (edge : α → α → Prop) (ids : List α) : (done order : List α) → Prop
  | _, [] => True
  | done, t :: rest => (Available edge ids done t ∧ ∀ u, Available edge ids done u → t ≤ u) ∧
      Greedy edge ids (done ++ [t]) rest

/-- A permutation of the elements in which each comes after all that has to come
before it. -/
structure Topological (edge : α → α → Prop) (ids order : List α) : Prop where
  perm : order.Perm ids
  sorted : ∀ before t after, order = before ++ t :: after → ∀ d, edge d t → d ∈ before

/-- No element has to come before itself. -/
def Acyclic (edge : α → α → Prop) : Prop :=
  ∀ t, ¬Relation.TransGen edge t t

theorem Available.congr {t : α} (hids : ids.Perm ids') (hedge : ∀ d t, edge d t ↔ edge' d t) :
    Available edge ids done t ↔ Available edge' ids' done t := by
  constructor
  · exact fun h => ⟨hids.mem_iff.1 h.mem, h.fresh, fun d hd => h.settled d ((hedge d t).2 hd)⟩
  · exact fun h => ⟨hids.mem_iff.2 h.mem, h.fresh, fun d hd => h.settled d ((hedge d t).1 hd)⟩

/-- Topological permutations depend on the elements and the relation alone. -/
theorem Topological.congr (hids : ids.Perm ids') (hedge : ∀ d t, edge d t ↔ edge' d t)
    (h : Topological edge ids order) : Topological edge' ids' order :=
  ⟨h.perm.trans hids, fun before t after hsplit d hd =>
    h.sorted before t after hsplit d ((hedge d t).2 hd)⟩

theorem Greedy.legal [LE α] (h : Greedy edge ids done order) : Legal edge ids done order := by
  induction order generalizing done with
  | nil => trivial
  | cons t rest ih => exact ⟨h.1.1, ih h.2⟩

theorem Legal.nodup (h : Legal edge ids done order) (hdone : done.Nodup) :
    (done ++ order).Nodup := by
  induction order generalizing done with
  | nil => simpa using hdone
  | cons t rest ih =>
    have hnext : (done ++ [t]).Nodup := by
      simpa [List.nodup_append] using
        And.intro hdone (fun a ha hat => h.1.fresh (hat ▸ ha) : ∀ a ∈ done, ¬a = t)
    simpa using ih h.2 hnext

theorem Legal.subset (h : Legal edge ids done order) : order ⊆ ids := by
  induction order generalizing done with
  | nil => exact List.nil_subset _
  | cons t rest ih => exact List.cons_subset.2 ⟨h.1.mem, ih h.2⟩

/-- What has to come before an element of a legal order was taken before it. -/
theorem Legal.sorted (h : Legal edge ids done order) {before after : List α} {t : α}
    (hsplit : order = before ++ t :: after) {d : α} (hd : edge d t) : d ∈ done ++ before := by
  induction before generalizing done order with
  | nil =>
    subst hsplit
    simpa using h.1.settled d hd
  | cons u before ih =>
    subst hsplit
    simpa using ih h.2 rfl

/-- A list in which everything comes in order is legal. -/
theorem legal_of_sorted (hnodup : (done ++ order).Nodup) (hsubset : order ⊆ ids)
    (hsorted : ∀ before t after, order = before ++ t :: after → ∀ d, edge d t →
      d ∈ done ++ before) : Legal edge ids done order := by
  induction order generalizing done with
  | nil => trivial
  | cons t rest ih =>
    obtain ⟨ht, hrest⟩ := List.cons_subset.1 hsubset
    have hfresh : t ∉ done := fun hmem =>
      (List.nodup_append.1 hnodup).2.2 t hmem t List.mem_cons_self rfl
    refine ⟨⟨ht, hfresh, fun d hd => ?_⟩, ih (by simpa using hnodup) hrest ?_⟩
    · simpa using hsorted [] t rest rfl d hd
    · intro before u after hsplit d hd
      simpa using hsorted (t :: before) u after (by rw [hsplit]; rfl) d hd

/-- **The topological permutations are the legal orders of all elements.** -/
theorem topological_iff (hids : ids.Nodup) :
    Topological edge ids order ↔ Legal edge ids [] order ∧ order.length = ids.length := by
  constructor
  · intro h
    refine ⟨legal_of_sorted ?_ h.perm.subset ?_, h.perm.length_eq⟩
    · simpa using h.perm.nodup_iff.2 hids
    · simpa using h.sorted
  · rintro ⟨hlegal, hlength⟩
    have hnodup : order.Nodup := by simpa using hlegal.nodup List.nodup_nil
    refine ⟨(List.subperm_of_subset hnodup hlegal.subset).perm_of_length_le hlength.ge, ?_⟩
    intro before t after hsplit d hd
    simpa using hlegal.sorted hsplit hd

/-- A greedy order is not greater than a legal one of its length. -/
theorem Greedy.le [LinearOrder α] (h : Greedy edge ids done order)
    (hother : Legal edge ids done other) (hlength : order.length = other.length) :
    order ≤ other := by
  induction order generalizing done other with
  | nil =>
    rw [List.length_nil, eq_comm, List.length_eq_zero_iff] at hlength
    rw [hlength]
  | cons t rest ih =>
    cases other with
    | nil => cases hlength
    | cons u other =>
      rcases (h.1.2 u hother.1).lt_or_eq with hlt | rfl
      · have hlex : t :: rest < u :: other := List.Lex.rel hlt
        exact hlex.le
      · exact List.cons_le_cons t (ih h.2 hother.2 (Nat.succ.inj hlength))

/-- **A greedy order of all elements is the least topological permutation.** -/
theorem Greedy.isLeast [LinearOrder α] (hids : ids.Nodup) (h : Greedy edge ids [] order)
    (hlength : order.length = ids.length) : IsLeast {l | Topological edge ids l} order := by
  refine ⟨(topological_iff hids).2 ⟨h.legal, hlength⟩, fun other hother => ?_⟩
  obtain ⟨hlegal, hall⟩ := (topological_iff hids).1 hother
  exact h.le hlegal (hlength.trans hall.symm)

/-- What has to come before an element stands before it. -/
theorem Topological.mem_before (h : Topological edge ids order) {d t : α}
    (hpath : Relation.TransGen edge d t) {before after : List α}
    (hsplit : order = before ++ t :: after) : d ∈ before := by
  induction hpath generalizing before after with
  | single hedge => exact h.sorted before _ after hsplit _ hedge
  | tail _ hedge ih =>
    have hmem := h.sorted before _ after hsplit _ hedge
    obtain ⟨front, back, rfl⟩ := List.append_of_mem hmem
    have hfront := @ih front (back ++ _ :: after) (by simpa using hsplit)
    exact List.mem_append_left _ hfront

/-- **A topological permutation rules a cycle out.** -/
theorem Topological.acyclic (hids : ids.Nodup) (hknown : ∀ d t, edge d t → t ∈ ids)
    (h : Topological edge ids order) : Acyclic edge := by
  intro t hpath
  have hmem : t ∈ order := by
    obtain ⟨_, _, hedge⟩ := Relation.TransGen.tail'_iff.1 hpath
    exact h.perm.mem_iff.2 (hknown _ _ hedge)
  obtain ⟨before, after, hsplit⟩ := List.append_of_mem hmem
  have hnodup : (before ++ t :: after).Nodup := hsplit ▸ h.perm.nodup_iff.2 hids
  exact (List.nodup_append.1 hnodup).2.2 t (h.mem_before hpath hsplit) t List.mem_cons_self rfl

/-- **Without a cycle some element is available** as long as not all were taken. -/
theorem exists_available (hknown : ∀ d t, edge d t → d ∈ ids) (hacyclic : Acyclic edge) {t : α}
    (ht : t ∈ ids) (hfresh : t ∉ done) : ∃ u, Available edge ids done u := by
  classical
  let open' : Type u := {u // u ∈ ids.filter (· ∉ done)}
  let path : open' → open' → Prop := fun d t => Relation.TransGen edge d.1 t.1
  have : Finite open' := List.finite_toSet _
  have : IsTrans open' path := ⟨fun _ _ _ h h' => h.trans h'⟩
  have : Std.Irrefl path := ⟨fun u h => hacyclic u.1 h⟩
  obtain ⟨⟨u, hu⟩, -, hleast⟩ :=
    (Finite.wellFounded_of_trans_of_irrefl path).has_min Set.univ ⟨⟨t, by simp [ht, hfresh]⟩, trivial⟩
  obtain ⟨hmem, hnot⟩ := List.mem_filter.1 hu
  refine ⟨u, hmem, of_decide_eq_true hnot, fun d hd => ?_⟩
  by_contra hopen
  exact hleast ⟨d, by simp [hknown d u hd, hopen]⟩ trivial (Relation.TransGen.single hd)

/-! ### The rest of an order -/

/-- The elements of a greedy order after a front that was taken. -/
theorem Greedy.of_append [LE α] {front : List α} (h : Greedy edge ids done (front ++ order)) :
    Greedy edge ids (done ++ front) order := by
  induction front generalizing done with
  | nil => simpa using h
  | cons t front ih => simpa using ih h.2

/-- A greedy order after a front is a greedy order of another problem in which the same
elements are available. -/
theorem Greedy.shift [LE α] {front : List α}
    (havailable : ∀ done t, Available edge ids (front ++ done) t ↔ Available edge' ids' done t)
    (h : Greedy edge ids (front ++ done) order) : Greedy edge' ids' done order := by
  induction order generalizing done with
  | nil => trivial
  | cons t rest ih =>
    refine ⟨⟨(havailable done t).1 h.1.1, fun u hu => ?_⟩, ih ?_⟩
    · exact h.1.2 u ((havailable done u).2 hu)
    · rw [← List.append_assoc]
      exact h.2

/-- A list in which those of a kind come first. -/
theorem filter_append_filter {p : α → Prop} [DecidablePred p] {l : List α}
    (hfirst : l.Pairwise fun s t => p t → p s) :
    l = l.filter (fun t => p t) ++ l.filter fun t => ¬p t := by
  induction l with
  | nil => rfl
  | cons a l ih =>
    obtain ⟨ha, hrest⟩ := List.pairwise_cons.1 hfirst
    by_cases hpa : p a
    · rw [List.filter_cons_of_pos (by simpa using hpa), List.filter_cons_of_neg (by simpa using hpa),
        List.cons_append, ← ih hrest]
    · have hnone : ∀ t ∈ l, ¬p t := fun t ht hpt => hpa (ha t ht hpt)
      have hempty : (a :: l).filter (fun t => p t) = [] := by
        simpa [List.filter_eq_nil_iff] using And.intro hpa hnone
      have hall : (a :: l).filter (fun t => ¬p t) = a :: l := by
        simpa [List.filter_eq_self] using And.intro hpa hnone
      rw [hempty, hall, List.nil_append]

/-- A path from outside a closed set stays outside. -/
theorem outside_of_transGen {inside : α → Prop} (hclosed : ∀ d t, edge d t → inside t → inside d)
    {a t : α} (ha : ¬inside a) (h : Relation.TransGen edge a t) : ¬inside t := by
  induction h with
  | single hedge => exact fun ht => ha (hclosed _ _ hedge ht)
  | tail _ hedge ih => exact fun ht => ih (hclosed _ _ hedge ht)

/-- **The paths from outside a closed set** are those along edges outside of it. -/
theorem transGen_outside_iff {inside : α → Prop}
    (hclosed : ∀ d t, edge d t → inside t → inside d) {a t : α} (ha : ¬inside a) :
    Relation.TransGen (fun d t => edge d t ∧ ¬inside d ∧ ¬inside t) a t ↔
      Relation.TransGen edge a t := by
  constructor
  · exact fun h => Relation.TransGen.mono (fun _ _ hedge => hedge.1) a t h
  · intro h
    induction h with
    | single hedge =>
      exact Relation.TransGen.single ⟨hedge, ha, fun ht => ha (hclosed _ _ hedge ht)⟩
    | tail hpath hedge ih =>
      have hout := outside_of_transGen hclosed ha hpath
      exact ih.tail ⟨hedge, hout, fun ht => hout (hclosed _ _ hedge ht)⟩

end Orders
