/-
# The base that a synchronization returns

The managed HEAD is where the repository was cloned, and a frozen base has to be an
ancestor or a descendant of it.  So the commit that `synchronize` returns gets a
worktree exactly when it is related to that HEAD (`synchronized_base_usable_iff`):
always while the remote branch is missing or only moves forward, and never after
history was replaced, by a rewritten branch or by a first push that does not start
from the commit the workspace was initialized with.
-/

import DevFlow.Workspace.Provision

namespace DevFlow

/-- What happens to a project. -/
inductive RemoteInput
  | push
  | commit
  | provision (bootstrap : GitCommit)
  | synchronize

/-- The repository that Git leaves after it has fetched a commit. -/
structure Fetched (objects old : List GitCommit) (tip : String) (git : GitRepository) : Prop where
  ordered : Ordered git.commits
  kept : old ⊆ git.commits
  known : git.commits ⊆ objects
  tip : tip ∈ git.commits.map GitCommit.oid

/-- One step of a project; what `synchronize` returns is the answer.  A push moves or
deletes the branch as it likes, and DevFlow commits to the managed repository. -/
def remoteStep (p : RemoteProject) (input : RemoteInput) (answer : Option String)
    (q : RemoteProject) : Prop :=
  match input with
  | .push => ∃ objects remoteHead branch, Ordered objects ∧ p.objects ⊆ objects ∧
      (∀ c ∈ objects, isOid c.oid = true) ∧
      (∀ tip, branch = some tip → tip ∈ objects.map GitCommit.oid) ∧
      q = { p with objects, remoteHead, branch }
  | .commit => ∃ workspace, p.workspace = some workspace ∧ ∃ objects git, Ordered objects ∧
      p.objects ⊆ objects ∧ (∀ c ∈ objects, isOid c.oid = true) ∧ Ordered git.commits ∧
      workspace.git.commits ⊆ git.commits ∧ git.commits ⊆ objects ∧
      q = { p with objects, workspace := some { workspace with git } }
  | .provision bootstrap => bootstrap.parents = [] ∧ isOid bootstrap.oid = true ∧
      bootstrap.oid ∉ p.objects.map GitCommit.oid ∧ ∃ cloned,
      (∀ tip, p.branch = some tip → Fetched p.objects [] tip cloned) ∧
      p.provision bootstrap cloned = .ok q
  | .synchronize => ∃ commit fetched, answer = some commit ∧
      (∀ workspace tip, p.workspace = some workspace → p.branch = some tip →
        Fetched p.objects workspace.git.commits tip fetched) ∧
      p.synchronize fetched = .ok (commit, q)

/-- The managed repository holds commits that exist, and its HEAD. -/
structure ManagedWorkspace.Sound (objects : List GitCommit) (workspace : ManagedWorkspace) :
    Prop where
  ordered : Ordered workspace.git.commits
  known : workspace.git.commits ⊆ objects
  head : workspace.head ∈ workspace.git.commits.map GitCommit.oid

/-- The commits of a project. -/
structure RemoteProject.Sound (p : RemoteProject) : Prop where
  ordered : Ordered p.objects
  oids : ∀ c ∈ p.objects, isOid c.oid = true
  tip : ∀ tip, p.branch = some tip → tip ∈ p.objects.map GitCommit.oid
  workspace : ∀ workspace, p.workspace = some workspace → workspace.Sound p.objects

theorem ManagedWorkspace.Sound.mono {objects objects' : List GitCommit}
    {workspace : ManagedWorkspace} (hsub : objects ⊆ objects') (h : workspace.Sound objects) :
    workspace.Sound objects' :=
  ⟨h.ordered, List.Subset.trans h.known hsub, h.head⟩

section steps

variable {p q : RemoteProject} {commit : String} {fetched : GitRepository}

/-- What `provision` leaves: the old workspace, a first commit, or a clone. -/
theorem RemoteProject.provision_eq_ok {bootstrap : GitCommit} {cloned : GitRepository}
    (h : p.provision bootstrap cloned = .ok q) :
    q = p ∨ (p.workspace = none ∧ q = { p with
        objects := bootstrap :: p.objects
        workspace := some ⟨⟨[bootstrap], fun _ => none⟩, bootstrap.oid⟩ }) ∨
      (p.workspace = none ∧ ∃ tip, p.branch = some tip ∧
        q = { p with workspace := some ⟨cloned, tip⟩ }) := by
  unfold provision at h
  split at h
  · exact Or.inl (Raising.pure_eq_ok.1 h).symm
  · rename_i hnone
    split at h
    · exact Or.inr (Or.inl ⟨hnone, (Raising.pure_eq_ok.1 h).symm⟩)
    · split at h
      · cases h
      · rename_i tip htip
        exact Or.inr (Or.inr ⟨hnone, tip, htip, (Raising.pure_eq_ok.1 h).symm⟩)

/-- What `synchronize` returns and leaves: HEAD, or the commit of the branch, which was
fetched. -/
theorem RemoteProject.synchronize_eq_ok (h : p.synchronize fetched = .ok (commit, q)) :
    ∃ workspace, p.workspace = some workspace ∧
      ((p.branch = none ∧ commit = workspace.head ∧ q = p) ∨
        (p.branch = some commit ∧
          q = { p with workspace := some { workspace with git := fetched } })) := by
  unfold synchronize at h
  split at h
  · cases h
  · rename_i workspace hworkspace
    refine ⟨workspace, hworkspace, ?_⟩
    split at h
    · rename_i hbranch
      obtain ⟨rfl, rfl⟩ := Prod.mk.inj (Raising.pure_eq_ok.1 h)
      exact Or.inl ⟨hbranch, rfl, rfl⟩
    · rename_i tip hbranch
      simp only [Raising.bind_eq_ok, Raising.pure_eq_ok, Prod.mk.injEq] at h
      obtain ⟨_, -, rfl, rfl⟩ := h
      exact Or.inr ⟨hbranch, rfl⟩

/-- **Every step keeps the commits sound.** -/
theorem remoteStep_sound (p : RemoteProject) (input : RemoteInput) (answer : Option String)
    (q : RemoteProject) (hp : p.Sound) (h : remoteStep p input answer q) : q.Sound := by
  cases input with
  | push =>
    obtain ⟨objects, remoteHead, branch, hordered, hsub, hoids, htip, rfl⟩ := h
    exact ⟨hordered, hoids, htip, fun workspace hworkspace =>
      (hp.workspace workspace hworkspace).mono hsub⟩
  | commit =>
    obtain ⟨workspace, hworkspace, objects, git, hordered, hsub, hoids, hgit, hkept, hknown, rfl⟩ := h
    refine ⟨hordered, hoids, fun tip htip => ?_, fun found hfound => ?_⟩
    · exact List.map_subset _ hsub (hp.tip tip htip)
    · obtain rfl := Option.some.inj hfound
      exact ⟨hgit, hknown, List.map_subset _ hkept (hp.workspace workspace hworkspace).head⟩
  | provision bootstrap =>
    obtain ⟨hroot, hoid, hnew, cloned, hcloned, hprovision⟩ := h
    rcases RemoteProject.provision_eq_ok hprovision with rfl | ⟨-, rfl⟩ | ⟨-, tip, htip, rfl⟩
    · exact hp
    · refine ⟨⟨hnew, ?_, hp.ordered⟩, ?_, fun tip htip => ?_, fun workspace hworkspace => ?_⟩
      · rw [hroot]
        simp
      · exact List.forall_mem_cons.2 ⟨hoid, hp.oids⟩
      · exact List.mem_cons_of_mem _ (hp.tip tip htip)
      · obtain rfl := Option.some.inj hworkspace
        refine ⟨?_, ?_, List.mem_singleton.2 rfl⟩
        · simp [Ordered, hroot]
        · exact List.cons_subset_cons _ (List.nil_subset _)
    · refine ⟨hp.ordered, hp.oids, hp.tip, fun workspace hworkspace => ?_⟩
      obtain rfl := Option.some.inj hworkspace
      exact ⟨(hcloned tip htip).ordered, (hcloned tip htip).known, (hcloned tip htip).tip⟩
  | synchronize =>
    obtain ⟨commit, fetched, -, hfetched, hsync⟩ := h
    obtain ⟨workspace, hworkspace, ⟨-, -, rfl⟩ | ⟨hbranch, rfl⟩⟩ :=
      RemoteProject.synchronize_eq_ok hsync
    · exact hp
    · have hgit := hfetched workspace commit hworkspace hbranch
      refine ⟨hp.ordered, hp.oids, hp.tip, fun found hfound => ?_⟩
      obtain rfl := Option.some.inj hfound
      exact ⟨hgit.ordered, hgit.known,
        List.map_subset _ hgit.kept (hp.workspace workspace hworkspace).head⟩

end steps

/-- The commit is accepted as a frozen base, and as the base of a task of the run. -/
def ManagedWorkspace.Usable (workspace : ManagedWorkspace) (commit : String) : Prop :=
  freezeBaseCommit workspace.git workspace.head (some commit) = .ok commit ∧
    resolveTaskBase workspace.git commit (some commit) = .ok commit

section usable

variable {workspace : ManagedWorkspace} {objects : List GitCommit} {commit : String}

/-- A lower-case object id is the name of its commit. -/
theorem toLower_of_isOid {s : String} (h : isOid s = true) :
    String.ofList (s.toList.map Char.toLower) = s := by
  have hchars : ∀ c ∈ s.toList, c.toLower = c := by
    intro c hc
    have hall := List.all_eq_true.1 (Bool.and_eq_true_iff.1 (Bool.and_eq_true_iff.1 h).1).1 c hc
    simp only [Char.isDigit, Bool.or_eq_true, Bool.and_eq_true, decide_eq_true_eq, Char.le_def,
      ge_iff_le, UInt32.le_iff_toNat_le] at hall
    have hupper : ¬('A'.val ≤ c.val ∧ c.val ≤ 'Z'.val) := by
      rw [UInt32.le_iff_toNat_le, UInt32.le_iff_toNat_le]
      have hA : 'A'.val.toNat = 65 := rfl
      have hZ : 'Z'.val.toNat = 90 := rfl
      have ha : 'a'.val.toNat = 97 := rfl
      have hnine : '9'.val.toNat = 57 := rfl
      rcases hall with ⟨-, hle⟩ | ⟨hge, -⟩
      · omega
      · omega
    unfold Char.toLower
    split
    · rename_i hcase
      exact absurd hcase hupper
    · rfl
  rw [List.map_congr_left hchars, List.map_id', String.ofList_toList]

/-- A commit that is there is found. -/
theorem GitRepository.revParse_of_mem {git : GitRepository} (hoid : isOid commit = true)
    (h : commit ∈ git.commits.map GitCommit.oid) : git.revParse commit = some commit := by
  rw [revParse, toLower_of_isOid hoid, commit?]
  cases hfound : git.commits.find? fun c => c.oid = commit with
  | none =>
    obtain ⟨c, hc, hname⟩ := List.mem_map.1 h
    exact absurd hname (by simpa using List.find?_eq_none.1 hfound c hc)
  | some c =>
    have hname := List.find?_some hfound
    rw [decide_eq_true_iff] at hname
    rw [Option.map_some, hname]

/-- The commit and HEAD are on one line of history. -/
def RelatedIn (objects : List GitCommit) (commit head : String) : Prop :=
  Contains objects head commit ∨ Contains objects commit head

/-- **A commit of the repository is usable exactly when it is related to HEAD.** -/
theorem ManagedWorkspace.Sound.usable_iff (h : workspace.Sound objects) (hobjects : Ordered objects)
    (hoid : isOid commit = true) (hcommit : commit ∈ workspace.git.commits.map GitCommit.oid) :
    workspace.Usable commit ↔ RelatedIn objects commit workspace.head := by
  have hparse := GitRepository.revParse_of_mem hoid hcommit
  have hfull : ¬isFullOid commit = false := by simp [isFullOid_of_isOid hoid]
  have hself : workspace.git.isAncestor commit commit = true :=
    (isAncestor_iff h.ordered).2 (Contains.refl _ _)
  have htask : resolveTaskBase workspace.git commit (some commit) = .ok commit := by
    simp only [resolveTaskBase, Raising.raiseIf_of_not hfull, Raising.ok_bind, hparse, hself, if_pos]
    rfl
  have hfreeze : freezeBaseCommit workspace.git workspace.head (some commit) = .ok commit ↔
      workspace.git.isAncestor commit workspace.head = true ∨
        workspace.git.isAncestor workspace.head commit = true := by
    simp only [freezeBaseCommit, Raising.raiseIf_of_not hfull, Raising.ok_bind, hparse]
    split_ifs with hold hnew
    · simp [hold]
    · simp [hnew]
    · simp [hold, hnew]
  rw [Usable, and_iff_left htask, hfreeze, isAncestor_iff h.ordered, isAncestor_iff h.ordered]
  constructor
  · rintro (hold | hnew)
    · exact Or.inl (hold.mono h.known)
    · exact Or.inr (hnew.mono h.known)
  · rintro (hold | hnew)
    · exact Or.inl (hold.of_subset h.ordered hobjects h.known h.head)
    · exact Or.inr (hnew.of_subset h.ordered hobjects h.known hcommit)

end usable

/-- A project before it is provisioned. -/
structure RemoteProject.Unprovisioned (p : RemoteProject) : Prop where
  workspace : p.workspace = none
  ordered : Ordered p.objects
  oids : ∀ c ∈ p.objects, isOid c.oid = true
  tip : ∀ tip, p.branch = some tip → tip ∈ p.objects.map GitCommit.oid

/-- **When a synchronized base is usable.**  After any history of the managed repository
and any pushes, the commit that `synchronize` returns is accepted as a frozen base
exactly when the remote has no branch, or its commit is an ancestor or a descendant
of the managed HEAD. -/
theorem synchronized_base_usable_iff {p₀ p q : RemoteProject} {commit : String}
    {es : List (Runs.Event RemoteProject RemoteInput (Option String))} (h₀ : p₀.Unprovisioned)
    (h : Runs.Run remoteStep p₀ es p) (hsync : remoteStep p .synchronize (some commit) q) :
    ∃ workspace, q.workspace = some workspace ∧ (workspace.Usable commit ↔
      ∀ tip, p.branch = some tip → RelatedIn p.objects tip workspace.head) := by
  have hstart : p₀.Sound :=
    ⟨h₀.ordered, h₀.oids, h₀.tip, fun workspace hsome => by rw [h₀.workspace] at hsome; cases hsome⟩
  have hp : p.Sound := h.invariant remoteStep_sound hstart
  have hq : q.Sound := remoteStep_sound _ _ _ _ hp hsync
  obtain ⟨found, fetched, hanswer, hfetched, hresult⟩ := hsync
  obtain rfl := Option.some.inj hanswer
  obtain ⟨workspace, hworkspace, ⟨hbranch, rfl, rfl⟩ | ⟨hbranch, rfl⟩⟩ :=
    RemoteProject.synchronize_eq_ok hresult
  · have hsound := hp.workspace workspace hworkspace
    obtain ⟨c, hc, hoid⟩ := List.mem_map.1 hsound.head
    refine ⟨workspace, hworkspace, ?_⟩
    rw [hsound.usable_iff hp.ordered (hoid ▸ hp.oids c (hsound.known hc)) hsound.head]
    refine ⟨fun _ tip htip => ?_, fun _ => Or.inl (Contains.refl _ _)⟩
    rw [hbranch] at htip
    cases htip
  · have hsound := hq.workspace _ rfl
    have htip := (hfetched workspace commit hworkspace hbranch).tip
    obtain ⟨c, hc, hoid⟩ := List.mem_map.1 (hp.tip commit hbranch)
    refine ⟨_, rfl, ?_⟩
    rw [hsound.usable_iff hp.ordered (hoid ▸ hp.oids c hc) htip]
    refine ⟨fun hrelated tip heq => ?_, fun hall => hall commit hbranch⟩
    obtain rfl := Option.some.inj (hbranch.symm.trans heq)
    exact hrelated

/-! ### A remote that was empty -/

/-- A remote without any commit. -/
def emptyRemote : RemoteProject := ⟨[], none, none, none⟩

theorem emptyRemote_unprovisioned : emptyRemote.Unprovisioned :=
  ⟨rfl, trivial, by simp [emptyRemote], by simp [emptyRemote]⟩

/-- The commit that the workspace is initialized with. -/
def bootstrapCommit : GitCommit := ⟨sampleOid 'b', "empty", [], []⟩

/-- The first commit that is pushed to the remote. -/
def pushedCommit (parents : List String) : GitCommit := ⟨sampleOid 'c', "readme", parents, []⟩

/-- The repository after the first push is fetched. -/
def fetchedRepository (parents : List String) : GitRepository :=
  ⟨[pushedCommit parents, bootstrapCommit], fun _ => none⟩

/-- The project after the workspace was initialized and the remote was pushed to. -/
def pushedProject (parents : List String) : RemoteProject where
  objects := [pushedCommit parents, bootstrapCommit]
  remoteHead := some (sampleOid 'c')
  branch := some (sampleOid 'c')
  workspace := some ⟨⟨[bootstrapCommit], fun _ => none⟩, sampleOid 'b'⟩

theorem ordered_fetched {parents : List String} (hparents : parents ⊆ [sampleOid 'b']) :
    Ordered [pushedCommit parents, bootstrapCommit] := by
  refine ⟨?_, hparents, ?_, ?_, trivial⟩
  · show sampleOid 'c' ∉ [sampleOid 'b']
    exact fun hmem => sampleOid_ne (by decide) (List.mem_singleton.1 hmem)
  · simp
  · simp [bootstrapCommit]

theorem pushedProject_run (parents : List String) (hparents : parents ⊆ [sampleOid 'b']) :
    ∃ es, Runs.Run remoteStep emptyRemote es (pushedProject parents) := by
  have hprovision : remoteStep emptyRemote (.provision bootstrapCommit) none
      { emptyRemote with
        objects := [bootstrapCommit]
        workspace := some ⟨⟨[bootstrapCommit], fun _ => none⟩, sampleOid 'b'⟩ } :=
    ⟨rfl, isOid_sampleOid rfl, by simp [emptyRemote], ⟨[], fun _ => none⟩,
      fun tip htip => (by cases htip), rfl⟩
  have hoids : ∀ c ∈ [pushedCommit parents, bootstrapCommit], isOid c.oid = true := by
    intro c hc
    rcases List.mem_cons.1 hc with rfl | hc
    · exact isOid_sampleOid rfl
    · rw [List.mem_singleton.1 hc]
      exact isOid_sampleOid rfl
  have hpush : remoteStep { emptyRemote with
        objects := [bootstrapCommit]
        workspace := some ⟨⟨[bootstrapCommit], fun _ => none⟩, sampleOid 'b'⟩ } .push none
      (pushedProject parents) := by
    refine ⟨_, _, some (sampleOid 'c'), ordered_fetched hparents, List.subset_cons_self _ _, hoids,
      fun tip htip => ?_, rfl⟩
    obtain rfl := Option.some.inj htip
    exact List.mem_cons_self
  exact ⟨_, Runs.Run.cons hprovision (Runs.Run.cons hpush (Runs.Run.nil _))⟩

/-- The project after the push is fetched. -/
def syncedProject (parents : List String) : RemoteProject :=
  { pushedProject parents with workspace := some ⟨fetchedRepository parents, sampleOid 'b'⟩ }

theorem syncedProject_step {parents : List String} (hparents : parents ⊆ [sampleOid 'b']) :
    remoteStep (pushedProject parents) .synchronize (some (sampleOid 'c'))
      (syncedProject parents) := by
  refine ⟨sampleOid 'c', fetchedRepository parents, rfl, fun workspace tip hworkspace htip => ?_, ?_⟩
  · obtain rfl := Option.some.inj hworkspace
    obtain rfl := Option.some.inj htip
    exact ⟨ordered_fetched hparents, List.subset_cons_self _ _, List.Subset.refl _,
      List.mem_cons_self⟩
  · have hoid : ¬isOid (sampleOid 'c') = false := by simp [isOid_sampleOid]
    simp only [RemoteProject.synchronize, pushedProject, Raising.raiseIf_of_not hoid,
      Raising.ok_bind]
    rfl

theorem descending_push_usable_iff : ∃ workspace,
    (syncedProject [sampleOid 'b']).workspace = some workspace ∧
      (workspace.Usable (sampleOid 'c') ↔ ∀ tip, (pushedProject [sampleOid 'b']).branch = some tip →
        RelatedIn (pushedProject [sampleOid 'b']).objects tip workspace.head) := by
  obtain ⟨es, hes⟩ := pushedProject_run [sampleOid 'b'] (List.Subset.refl _)
  exact synchronized_base_usable_iff emptyRemote_unprovisioned hes
    (syncedProject_step (List.Subset.refl _))

/-- **A first push to a remote that was empty is not usable.**  The workspace was
initialized with a commit of its own, and the pushed commit does not descend from
it. -/
theorem first_push_not_usable :
    (∃ es, Runs.Run remoteStep emptyRemote es (pushedProject [])) ∧
      remoteStep (pushedProject []) .synchronize (some (sampleOid 'c')) (syncedProject []) ∧
      ∀ workspace, (syncedProject []).workspace = some workspace →
        ¬workspace.Usable (sampleOid 'c') := by
  refine ⟨pushedProject_run [] (List.nil_subset _), syncedProject_step (List.nil_subset _), ?_⟩
  rintro workspace hworkspace ⟨hfreeze, -⟩
  obtain rfl := Option.some.inj hworkspace
  revert hfreeze
  decide +kernel

end DevFlow
