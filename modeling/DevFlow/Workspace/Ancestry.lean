/-
# Ancestors

What `git merge-base --is-ancestor` answers is the closure of the parent relation
(`isAncestor_iff`), in a repository in which the parents of a commit are older
than it.  So containment is transitive, is kept when commits are added, and no
commit is contained in one that it descends from.  The walk along first parents
from a new commit is the walk from its first parent, and the commit
(`firstParentsIn_child`).
-/

import DevFlow.Workspace.Git
import Mathlib.Logic.Relation

namespace DevFlow

/-- The commits, newest first: no object twice, and every parent is older. -/
def Ordered : List GitCommit → Prop
  | [] => True
  | c :: older => c.oid ∉ older.map GitCommit.oid ∧
      (∀ p ∈ c.parents, p ∈ older.map GitCommit.oid) ∧ Ordered older

/-- The parent relation. -/
def ParentIn (commits : List GitCommit) (child parent : String) : Prop :=
  ∃ c ∈ commits, c.oid = child ∧ parent ∈ c.parents

/-- The closure of the parent relation. -/
def Contains (commits : List GitCommit) (descendant ancestor : String) : Prop :=
  Relation.ReflTransGen (ParentIn commits) descendant ancestor

section closure

variable {commits older newer : List GitCommit} {c : GitCommit} {a b d : String}

theorem Contains.refl (commits : List GitCommit) (a : String) : Contains commits a a :=
  Relation.ReflTransGen.refl

theorem Contains.trans (h : Contains commits a b) (h' : Contains commits b d) :
    Contains commits a d :=
  Relation.ReflTransGen.trans h h'

theorem Contains.of_parent (hc : c ∈ commits) (hp : a ∈ c.parents) : Contains commits c.oid a :=
  Relation.ReflTransGen.single ⟨c, hc, rfl, hp⟩

theorem Contains.mono (hsub : commits ⊆ newer) (h : Contains commits a b) : Contains newer a b :=
  Relation.ReflTransGen.mono (fun _ _ ⟨c, hc, hparent⟩ => ⟨c, hsub hc, hparent⟩) _ _ h

/-- What a commit contains beside itself its parents contain. -/
theorem Contains.cases (h : Contains commits a b) :
    a = b ∨ ∃ c ∈ commits, c.oid = a ∧ ∃ p ∈ c.parents, Contains commits p b := by
  rcases Relation.ReflTransGen.cases_head h with rfl | ⟨p, ⟨c, hc, rfl, hp⟩, hrest⟩
  · exact Or.inl rfl
  · exact Or.inr ⟨c, hc, rfl, p, hp, hrest⟩

theorem Ordered.of_suffix (newer : List GitCommit) (h : Ordered (newer ++ older)) :
    Ordered older := by
  induction newer with
  | nil => exact h
  | cons c newer ih => exact ih h.2.2

theorem Ordered.eq_of_oid (h : Ordered commits) {c' : GitCommit} (hc : c ∈ commits)
    (hc' : c' ∈ commits) (hoid : c.oid = c'.oid) : c = c' := by
  induction commits with
  | nil => cases hc
  | cons first rest ih =>
    rcases List.mem_cons.1 hc with hfirst | hold
    · rcases List.mem_cons.1 hc' with hfirst' | hold'
      · rw [hfirst, hfirst']
      · rw [hfirst] at hoid
        exact absurd (List.mem_map.2 ⟨c', hold', hoid.symm⟩) h.1
    · rcases List.mem_cons.1 hc' with hfirst' | hold'
      · rw [hfirst'] at hoid
        exact absurd (List.mem_map.2 ⟨c, hold, hoid⟩) h.1
      · exact ih h.2.2 hold hold'

/-- Whatever an old commit contains is old. -/
theorem Contains.mem_suffix (h : Ordered (newer ++ older)) (hd : d ∈ older.map GitCommit.oid)
    (hcontains : Contains (newer ++ older) d a) : a ∈ older.map GitCommit.oid := by
  induction hcontains with
  | refl => exact hd
  | tail _ hparent ih =>
    obtain ⟨c, hc, rfl, hp⟩ := hparent
    obtain ⟨c', hc', hoid⟩ := List.mem_map.1 ih
    obtain rfl := h.eq_of_oid (List.mem_append_right _ hc') hc hoid
    obtain ⟨before, after, rfl⟩ := List.append_of_mem hc'
    have hsuffix : Ordered (c' :: after) :=
      Ordered.of_suffix (newer ++ before) (by simpa using h)
    have := hsuffix.2.1 _ hp
    simp only [List.map_append, List.map_cons, List.mem_append, List.mem_cons]
    exact Or.inr (Or.inr this)

/-- **No commit is contained in what its parents contain.** -/
theorem Contains.not_of_parent (h : Ordered commits) (hc : c ∈ commits) (hp : a ∈ c.parents)
    (hcontains : Contains commits a b) : ¬Contains commits b c.oid := by
  intro hcycle
  obtain ⟨newer, older, rfl⟩ := List.append_of_mem hc
  have hsuffix : Ordered (c :: older) := Ordered.of_suffix newer h
  have hall : Ordered ((newer ++ [c]) ++ older) := by simpa using h
  have hold : Contains ((newer ++ [c]) ++ older) a c.oid := by
    simpa using hcontains.trans hcycle
  exact hsuffix.1 (Contains.mem_suffix hall (hsuffix.2.1 a hp) hold)

/-! ### The walk -/

theorem subset_reachableIn (commits : List GitCommit) (frontier : List String) :
    frontier ⊆ GitRepository.reachableIn commits frontier := by
  induction commits generalizing frontier with
  | nil => exact List.Subset.refl _
  | cons c older ih =>
    rw [GitRepository.reachableIn]
    refine List.Subset.trans ?_ (ih _)
    split_ifs
    · exact List.subset_append_left _ _
    · exact List.Subset.refl _

/-- The walk finds only what the frontier contains. -/
theorem contains_of_reachableIn {frontier : List String}
    (h : a ∈ GitRepository.reachableIn commits frontier) :
    ∃ d ∈ frontier, Contains commits d a := by
  induction commits generalizing frontier with
  | nil => exact ⟨a, h, Contains.refl [] a⟩
  | cons c older ih =>
    rw [GitRepository.reachableIn] at h
    obtain ⟨d, hd, hcontains⟩ := ih h
    have hlater : Contains (c :: older) d a := hcontains.mono (List.subset_cons_self _ _)
    split_ifs at hd with hc
    · rcases List.mem_append.1 hd with hd | hparent
      · exact ⟨d, hd, hlater⟩
      · exact ⟨c.oid, hc, (Contains.of_parent List.mem_cons_self hparent).trans hlater⟩
    · exact ⟨d, hd, hlater⟩

/-- The parents of what the walk passes are found, for they are older. -/
theorem parent_mem_reachableIn (h : Ordered commits) {frontier : List String} (hc : c ∈ commits)
    (hfound : c.oid ∈ GitRepository.reachableIn commits frontier) (hp : a ∈ c.parents) :
    a ∈ GitRepository.reachableIn commits frontier := by
  induction commits generalizing frontier with
  | nil => cases hc
  | cons first older ih =>
    rw [GitRepository.reachableIn] at hfound ⊢
    rcases List.mem_cons.1 hc with rfl | hold
    · refine subset_reachableIn _ _ ?_
      by_cases hin : c.oid ∈ frontier
      · rw [if_pos hin]
        exact List.mem_append_right _ hp
      · -- an older commit does not lead back to this one
        rw [if_neg hin] at hfound
        obtain ⟨d, hd, hcontains⟩ := contains_of_reachableIn hfound
        rcases Relation.ReflTransGen.cases_tail hcontains with heq | ⟨b, -, c', hc', -, hparent⟩
        · exact absurd (heq ▸ hd) hin
        · obtain ⟨newer, rest, rfl⟩ := List.append_of_mem hc'
          have hrest := (Ordered.of_suffix newer h.2.2).2.1 _ hparent
          refine absurd ?_ h.1
          simp only [List.map_append, List.map_cons, List.mem_append, List.mem_cons]
          exact Or.inr (Or.inr hrest)
    · exact ih h.2.2 hold hfound

/-- **`git merge-base --is-ancestor` decides containment.** -/
theorem isAncestor_iff {git : GitRepository} (h : Ordered git.commits) :
    git.isAncestor a d = true ↔ Contains git.commits d a := by
  rw [GitRepository.isAncestor, decide_eq_true_iff]
  constructor
  · intro hfound
    obtain ⟨d', hd', hcontains⟩ := contains_of_reachableIn hfound
    obtain rfl := List.mem_singleton.1 hd'
    exact hcontains
  · intro hcontains
    induction hcontains with
    | refl => exact subset_reachableIn _ _ (List.mem_singleton.2 rfl)
    | tail _ hparent ih =>
      obtain ⟨c, hc, rfl, hp⟩ := hparent
      exact parent_mem_reachableIn h hc ih hp

theorem Ordered.nodup (h : Ordered commits) : (commits.map GitCommit.oid).Nodup := by
  induction commits with
  | nil => exact List.nodup_nil
  | cons c older ih => exact List.nodup_cons.2 ⟨h.1, ih h.2.2⟩

/-- An object is found by its id. -/
theorem Ordered.commit?_eq {git : GitRepository} (h : Ordered git.commits)
    (hc : c ∈ git.commits) : git.commit? c.oid = some c := by
  cases hfound : git.commit? c.oid with
  | none => exact absurd (List.find?_eq_none.1 hfound c hc) (by simp)
  | some c' =>
    have hoid : c'.oid = c.oid := by simpa using List.find?_some hfound
    rw [h.eq_of_oid (List.mem_of_find?_eq_some hfound) hc hoid]

theorem mem_of_commit? {git : GitRepository} (h : git.commit? a = some c) :
    c ∈ git.commits ∧ c.oid = a :=
  ⟨List.mem_of_find?_eq_some h, by simpa using List.find?_some h⟩

/-- `git commit-tree` adds an object, or nothing, in front. -/
theorem commitTree_commits (git : GitRepository) (commit : GitCommit) :
    ∃ newer, (git.commitTree commit).commits = newer ++ git.commits := by
  unfold GitRepository.commitTree
  split_ifs
  · exact ⟨[], rfl⟩
  · exact ⟨[commit], rfl⟩

theorem Ordered.commitTree {git : GitRepository} (h : Ordered git.commits)
    (hparents : ∀ p ∈ c.parents, p ∈ git.commits.map GitCommit.oid) :
    Ordered (git.commitTree c).commits := by
  unfold GitRepository.commitTree
  split_ifs with hnew
  · exact h
  · refine ⟨fun hin => ?_, hparents, h⟩
    obtain ⟨c', hc', hoid⟩ := List.mem_map.1 hin
    rw [← hoid, h.commit?_eq hc'] at hnew
    exact hnew rfl

/-! ### First parents -/

theorem firstParentsIn_self (commits : List GitCommit) (base : String) :
    GitRepository.firstParentsIn base commits base = [] := by
  cases commits with
  | nil => rfl
  | cons c older => rw [GitRepository.firstParentsIn, if_pos rfl]

/-- The walk passes over the objects that are newer than where it starts. -/
theorem firstParentsIn_append (base : String) (h : a ∉ newer.map GitCommit.oid) :
    GitRepository.firstParentsIn base (newer ++ older) a =
      GitRepository.firstParentsIn base older a := by
  by_cases hbase : a = base
  · rw [hbase, firstParentsIn_self, firstParentsIn_self]
  · induction newer with
    | nil => rfl
    | cons c newer ih =>
      rw [List.map_cons, List.mem_cons, not_or] at h
      rw [List.cons_append, GitRepository.firstParentsIn, if_neg hbase, if_neg (Ne.symm h.1),
        ih h.2]

/-- **The walk from a commit** is the walk from its first parent, and the commit. -/
theorem firstParentsIn_child {base prev : String} {rest : List String} (h : Ordered commits)
    (hc : c ∈ commits) (hne : c.oid ≠ base) (hparents : c.parents = prev :: rest) :
    GitRepository.firstParentsIn base commits c.oid =
      GitRepository.firstParentsIn base commits prev ++ [c] := by
  obtain ⟨newer, older, rfl⟩ := List.append_of_mem hc
  have hnodup := h.nodup
  rw [List.map_append, List.map_cons, List.nodup_append] at hnodup
  have hprev : prev ∈ older.map GitCommit.oid :=
    (Ordered.of_suffix newer h).2.1 prev (hparents ▸ List.mem_cons_self)
  have hfresh : c.oid ∉ newer.map GitCommit.oid :=
    fun hin => hnodup.2.2 _ hin _ List.mem_cons_self rfl
  have hnewer : prev ∉ (newer ++ [c]).map GitCommit.oid := by
    rw [List.map_append, List.map_singleton, List.mem_append, List.mem_singleton]
    rintro (hin | heq)
    · exact hnodup.2.2 _ hin _ (List.mem_cons_of_mem _ hprev) rfl
    · exact (Ordered.of_suffix newer h).1 (heq ▸ hprev)
  rw [firstParentsIn_append base hfresh, GitRepository.firstParentsIn, if_neg hne, if_pos rfl,
    hparents, List.headD_cons, List.append_cons newer c older, firstParentsIn_append base hnewer]

end closure

end DevFlow
