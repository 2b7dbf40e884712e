/-
# Stopped repairs and the call that resumes them

What a call of `repair` leaves behind when it is stopped between two of its
writes, and when the next call completes.
-/

import DevFlow.Library.Runs
import DevFlow.Runtime.IntegrationRepair

namespace DevFlow

open Durable (Prog Spec)

/-! ### What each helper does -/

section helpers

variable {w : RepairWorld} {ref : GitRef} {commit other : String}

/-- The world with one ref written. -/
def RepairWorld.setRef (w : RepairWorld) (ref : GitRef) (oid : Option String) : RepairWorld :=
  { w with git := w.git.setRef ref oid }

theorem resolveOptionalRef_of_none (h : w.git.refs ref = none) :
    resolveOptionalRef ref w = ⟨.ok none, [], w⟩ := by
  simp [resolveOptionalRef, h]

theorem resolveOptionalRef_of_some (h : w.git.refs ref = some commit) (hoid : isOid commit = true) :
    resolveOptionalRef ref w = ⟨.ok (some commit), [], w⟩ := by
  simp [resolveOptionalRef, h, requireOid_of_isOid hoid]

theorem resolveRef_of_some (h : w.git.refs ref = some commit) (hoid : isOid commit = true) :
    resolveRef ref w = ⟨.ok commit, [], w⟩ := by
  simp [resolveRef, h, requireOid_of_isOid hoid]

theorem bind_of_outcome {α β : Type} {p : Prog RepairWorld Failure α}
    {f : α → Prog RepairWorld Failure β} {a : α} (h : p w = ⟨.ok a, [], w⟩) :
    (p >>= f) w = f a w := by
  simp [Durable.bind_apply, Prog.andThen, h]

theorem RepairWorld.setRef_self {oid : Option String} (h : w.git.refs ref = oid) :
    w.setRef ref oid = w := by
  subst h
  simp [setRef, GitRepository.setRef]

@[simp] theorem RepairWorld.setRef_refs_self {oid : Option String} :
    (w.setRef ref oid).git.refs ref = oid :=
  GitRepository.setRef_refs_self

theorem RepairWorld.setRef_refs_of_ne {oid : Option String} {ref' : GitRef} (h : ref' ≠ ref) :
    (w.setRef ref oid).git.refs ref' = w.git.refs ref' :=
  GitRepository.setRef_refs_of_ne h

/-- The program returns and leaves `t`; the states before are among `ws`. -/
def Leaves (p : Prog RepairWorld Failure Unit) (ws : List RepairWorld) (w t : RepairWorld) :
    Prop :=
  ∃ passed, p w = ⟨.ok (), passed, t⟩ ∧ passed ⊆ ws

theorem Leaves.spec {p : Prog RepairWorld Failure Unit} {ws : List RepairWorld} {t : RepairWorld}
    {C : RepairWorld → Prop} (h : Leaves p ws w t) (hws : ∀ s ∈ ws, C s) (ht : C t) :
    (∀ s ∈ (p w).states, C s) ∧ (p w).result = .ok () ∧ (p w).final = t := by
  obtain ⟨passed, hrun, hpassed⟩ := h
  rw [hrun]
  refine ⟨?_, rfl, rfl⟩
  intro s hs
  rcases List.mem_append.1 hs with hs | hs
  · exact hws s (hpassed hs)
  · obtain rfl := List.mem_singleton.1 hs
    exact ht

/-- **The staging ref protects another commit.** -/
theorem anchorRepairCommit_of_other (h : w.git.refs ref = some other) (hoid : isOid other = true)
    (hne : other ≠ commit) : anchorRepairCommit ref commit w = ⟨.error ⟨.persistenceConflict,
      "integration repair staging ref already protects a different commit"⟩, [], w⟩ := by
  rw [anchorRepairCommit, bind_of_outcome (resolveOptionalRef_of_some h hoid),
    if_neg (by simpa using hne), Durable.raiseIf_bind_of (by simp)]

/-- A staging ref that is free, or protects the commit already, protects it. -/
theorem anchorRepairCommit_leaves
    (h : w.git.refs ref = none ∨ w.git.refs ref = some commit) (hoid : isOid commit = true) :
    Leaves (anchorRepairCommit ref commit) [w] w (w.setRef ref (some commit)) := by
  rcases h with h | h
  · refine ⟨[w], ?_, List.Subset.refl _⟩
    rw [anchorRepairCommit, bind_of_outcome (resolveOptionalRef_of_none h), if_neg (by simp),
      Durable.raiseIf_bind_of_not (by simp), updateGit,
      Durable.attempt_bind_of_some (t := w.setRef ref (some commit))
        (by simp [GitRepository.updateRef, h, RepairWorld.setRef]),
      Durable.raiseIf_bind_of_not (by simp),
      bind_of_outcome (resolveRef_of_some RepairWorld.setRef_refs_self hoid)]
    simp [Durable.raiseIf]
  · refine ⟨[], ?_, List.nil_subset _⟩
    rw [anchorRepairCommit, bind_of_outcome (resolveOptionalRef_of_some h hoid), if_pos rfl,
      RepairWorld.setRef_self h]
    rfl

/-- A staging ref that is free, or protects the commit, is free afterwards. -/
theorem releaseRepairAnchor_leaves
    (h : w.git.refs ref = none ∨ w.git.refs ref = some commit) (hoid : isOid commit = true) :
    Leaves (releaseRepairAnchor ref commit) [w] w (w.setRef ref none) := by
  rcases h with h | h
  · refine ⟨[], ?_, List.nil_subset _⟩
    rw [releaseRepairAnchor, bind_of_outcome (resolveOptionalRef_of_none h), if_pos rfl,
      RepairWorld.setRef_self h]
    rfl
  · refine ⟨[w], ?_, List.Subset.refl _⟩
    rw [releaseRepairAnchor, bind_of_outcome (resolveOptionalRef_of_some h hoid),
      if_neg (by simp), Durable.raiseIf_bind_of_not (by simp), updateGit,
      Durable.attempt_bind_of_some (t := w.setRef ref none)
        (by simp [GitRepository.deleteRef, h, RepairWorld.setRef]),
      Durable.raiseIf_bind_of_not (by simp),
      bind_of_outcome (resolveOptionalRef_of_none RepairWorld.setRef_refs_self)]
    simp [Durable.raiseIf]

/-- An integration ref at the conflicted head, or at the repair already, ends at
the repair. -/
theorem advanceRef_leaves {evidence : IntegrationConflictRepairEvidence}
    (h : w.git.refs ref = some evidence.integrationHead ∨
      w.git.refs ref = some evidence.repairCommit)
    (hhead : isOid evidence.integrationHead = true) (hoid : isOid evidence.repairCommit = true) :
    Leaves (advanceRef ref evidence) [w] w (w.setRef ref (some evidence.repairCommit)) := by
  by_cases hsame : w.git.refs ref = some evidence.repairCommit
  · refine ⟨[], ?_, List.nil_subset _⟩
    rw [advanceRef, bind_of_outcome (resolveRef_of_some hsame hoid), if_pos rfl,
      RepairWorld.setRef_self hsame]
    rfl
  · have h := h.resolve_right hsame
    refine ⟨[w], ?_, List.Subset.refl _⟩
    rw [advanceRef, bind_of_outcome (resolveRef_of_some h hhead),
      if_neg fun heq => hsame (by rw [h, heq]), Durable.raiseIf_bind_of_not (by simp), updateGit,
      Durable.attempt_bind_of_some (t := w.setRef ref (some evidence.repairCommit))
        (by simp [GitRepository.updateRef, h, RepairWorld.setRef]),
      Durable.raiseIf_bind_of_not (by simp),
      bind_of_outcome (resolveRef_of_some RepairWorld.setRef_refs_self hoid)]
    simp [Durable.raiseIf]

theorem createArchive_leaves (h : w.git.refs ref = none ∨ w.git.refs ref = some commit) :
    Leaves (createArchive ref commit (w.git.refs ref)) [w] w (w.setRef ref (some commit)) := by
  rcases h with h | h
  · refine ⟨[w], ?_, List.Subset.refl _⟩
    rw [createArchive, if_pos h, updateGit,
      Durable.attempt_bind_of_some (t := w.setRef ref (some commit))
        (by simp [GitRepository.updateRef, h, RepairWorld.setRef])]
    simp [Durable.raiseIf]
  · refine ⟨[], ?_, List.nil_subset _⟩
    rw [createArchive, if_neg (by simp [h]), RepairWorld.setRef_self h]
    rfl

theorem deleteLive_leaves (h : w.git.refs ref = none ∨ w.git.refs ref = some commit) :
    Leaves (deleteLive ref commit (w.git.refs ref)) [w] w (w.setRef ref none) := by
  rcases h with h | h
  · refine ⟨[], ?_, List.nil_subset _⟩
    rw [deleteLive, if_pos h, RepairWorld.setRef_self h]
    rfl
  · refine ⟨[w], ?_, List.Subset.refl _⟩
    rw [deleteLive, if_neg (by simp [h]), Durable.raiseIf_bind_of_not (by simp [h]), updateGit,
      Durable.attempt_bind_of_some (t := w.setRef ref none)
        (by simp [GitRepository.deleteRef, h, RepairWorld.setRef])]
    simp [Durable.raiseIf]

theorem Leaves.bind {p q : Prog RepairWorld Failure Unit} {ws vs : List RepairWorld}
    {u t : RepairWorld} (hp : Leaves p ws w u) (hq : Leaves q vs u t) :
    Leaves (p >>= fun _ => q) (ws ++ vs) w t := by
  obtain ⟨passed, hp, hws⟩ := hp
  obtain ⟨passed', hq, hvs⟩ := hq
  refine ⟨passed ++ passed', ?_, ?_⟩
  · simp [Durable.bind_apply, Prog.andThen, hp, hq]
  · exact List.append_subset.2 ⟨List.Subset.trans hws (List.subset_append_left _ _),
      List.Subset.trans hvs (List.subset_append_right _ _)⟩

/-- A gate ref that is live or gone, with an archive that is there or not, ends in
the archive. -/
theorem archiveLiveRef_leaves {live archive : GitRef} (hne : live ≠ archive)
    (hlive : w.git.refs live = none ∨ w.git.refs live = some commit)
    (harchive : w.git.refs archive = none ∨ w.git.refs archive = some commit)
    (hoid : isOid commit = true) :
    Leaves (archiveLiveRef live commit archive) [w, w.setRef archive (some commit)] w
      ((w.setRef archive (some commit)).setRef live none) := by
  have hread : ∀ r, (w.git.refs r = none ∨ w.git.refs r = some commit) →
      resolveOptionalRef r w = ⟨.ok (w.git.refs r), [], w⟩ := by
    rintro r (h | h)
    · rw [h, resolveOptionalRef_of_none h]
    · rw [h, resolveOptionalRef_of_some h hoid]
  have hcheck : ¬(w.git.refs archive ≠ none ∧ w.git.refs archive ≠ some commit) :=
    fun hbad => harchive.elim hbad.1 hbad.2
  have hkept : (w.setRef archive (some commit)).git.refs live = w.git.refs live :=
    RepairWorld.setRef_refs_of_ne hne
  have hdelete := deleteLive_leaves (w := w.setRef archive (some commit)) (hkept ▸ hlive)
  rw [hkept] at hdelete
  obtain ⟨passed, hrun, hpassed⟩ := (createArchive_leaves harchive).bind hdelete
  refine ⟨passed, ?_, hpassed⟩
  rw [archiveLiveRef, bind_of_outcome (hread live hlive), bind_of_outcome (hread archive harchive),
    Durable.raiseIf_bind_of_not hcheck]
  exact hrun

theorem addRepairWorktree_of {a : RepairAttempt} (hfresh : a.path ∉ w.worktrees)
    (hadded : a.worktreeAdded = true) :
    addRepairWorktree a w = ⟨.ok (), [w], { w with worktrees := a.path :: w.worktrees }⟩ := by
  rw [addRepairWorktree, Durable.read_bind, Durable.raiseIf_bind_of_not hfresh,
    Durable.raiseIf_bind_of_not (by simp [hadded])]
  rfl

theorem addRepairWorktree_of_not {a : RepairAttempt}
    (h : ¬(a.path ∉ w.worktrees ∧ a.worktreeAdded = true)) :
    ∃ failure, addRepairWorktree a w = ⟨.error failure, [], w⟩ := by
  by_cases hfresh : a.path ∈ w.worktrees
  · exact ⟨_, by rw [addRepairWorktree, Durable.read_bind, Durable.raiseIf_bind_of hfresh]⟩
  · exact ⟨_, by rw [addRepairWorktree, Durable.read_bind, Durable.raiseIf_bind_of_not hfresh,
      Durable.raiseIf_bind_of (by simpa using fun hadded => h ⟨hfresh, hadded⟩)]⟩

end helpers

/-! ### The states that stopped calls leave behind -/

/-- A Human Gate that authorizes the repair of a stopped queue: refs and object
ids are those that `IntegrationHumanGate` derives from the queue's integration
ref and reads from Git. -/
structure AuthorizedGate where
  runId : UUID
  gate : IntegrationGateSnapshot
  queue : MergeQueueSnapshot
  decision : HumanIntegrationDecision
  integrationId : String
  shape : validateGateShape gate queue = .ok decision
  integrationId_ne : integrationId ≠ ""
  gate_ref : gate.integrationRef = .integration integrationId
  queue_ref : queue.integrationRef = .integration integrationId
  conflict_ref : gate.conflictRef = .conflict integrationId
  decision_ref : decision.decisionRef = .decision integrationId
  taskId_length : 1 ≤ gate.taskId.length ∧ gate.taskId.length ≤ 128
  head_oid : isOid gate.integrationHead = true
  task_oid : isOid gate.taskCommit = true
  marker_oid : isOid gate.conflictMarkerCommit = true
  decision_oid : isOid decision.decisionCommit = true
  fingerprints : isSha256 gate.evidenceFingerprint = true ∧ isSha256 gate.policyFingerprint = true

namespace AuthorizedGate

variable (site : AuthorizedGate)

/-- `_repair_staging_ref`. -/
def stagingRef : GitRef :=
  .repair site.runId site.gate.conflictMarkerCommit

/-- The evidence is about this conflict. -/
def Binds (e : IntegrationConflictRepairEvidence) : Prop :=
  ∃ a : RepairAttempt, e.toRepairRecord = a.record site.runId site.gate site.decision

/-- What a ref of the conflict may hold before the repair is recorded, and after. -/
def AllowedRef (recorded : Option IntegrationConflictRepairEvidence) :
    GitRef → Option String → Prop
  | .integration id, oid => id = site.integrationId → oid = some site.gate.integrationHead ∨
      ∃ e, recorded = some e ∧ oid = some e.repairCommit
  | .conflict id, oid => id = site.integrationId →
      oid = none ∨ oid = some site.gate.conflictMarkerCommit
  | .conflictHistory id marker, oid => id = site.integrationId →
      marker = site.gate.conflictMarkerCommit →
        oid = none ∨ oid = some site.gate.conflictMarkerCommit
  | .decision id, oid => id = site.integrationId →
      oid = none ∨ oid = some site.decision.decisionCommit
  | .decisionHistory id marker, oid => id = site.integrationId →
      marker = site.gate.conflictMarkerCommit →
        oid = none ∨ oid = some site.decision.decisionCommit
  | .repair runId marker, oid => runId = site.runId → marker = site.gate.conflictMarkerCommit →
      ∀ c, oid = some c → isOid c = true ∧ ∀ e, recorded = some e → c = e.repairCommit
  | .heads _, _ => True

/-- **The invariant of stopped calls**: the repair is recorded or not, and every
ref is where some prefix of a call puts it. -/
structure State (worker : SuccessfulWorker) (recorded : Option IntegrationConflictRepairEvidence)
    (w : RepairWorld) : Prop where
  run : w.db.runId = site.runId
  running : w.db.status = .running
  issued : w.db.EventIdsIssued
  known : site.gate.taskId ∈ w.db.taskIds
  contract : ∃ task, taskContract w.tasks site.gate.taskId = .ok task
  worker_eq : successfulWorker w.db.evidence site.gate.taskId = .ok worker
  worker_commit : worker.commitSha = site.gate.taskCommit
  clean : w.changedFiles = []
  repairs : repairsOf w.db.evidence site.gate = recorded.toList
  unused : recorded = none → ∀ row ∈ w.db.evidence,
    row.evidenceKey ≠ integrationRepairKey site.gate.taskId site.gate.evidenceFingerprint
  binds : ∀ e, recorded = some e → site.Binds e
  object : ∀ e, recorded = some e → isOid e.repairCommit = true ∧
    validateRepairCommit w.git e worker.branchName = .ok ()
  refs : ∀ ref, site.AllowedRef recorded ref (w.git.refs ref)

variable {site} {worker : SuccessfulWorker} {recorded : Option IntegrationConflictRepairEvidence}
  {w : RepairWorld} {e : IntegrationConflictRepairEvidence}

/-- A ref may be set to what it is allowed to hold. -/
theorem State.setRef (h : site.State worker recorded w) {ref : GitRef} {oid : Option String}
    (hallowed : site.AllowedRef recorded ref oid) :
    site.State worker recorded (w.setRef ref oid) :=
  { h with
    refs := by
      intro ref'
      by_cases heq : ref' = ref
      · subst heq
        rwa [RepairWorld.setRef_refs_self]
      · rw [RepairWorld.setRef_refs_of_ne heq]
        exact h.refs ref' }

/-- Worktrees are not part of it. -/
theorem State.setWorktrees (h : site.State worker recorded w) (worktrees : List String) :
    site.State worker recorded { w with worktrees } :=
  { h with }

/-- A new commit object changes nothing that is there. -/
theorem State.commitTree (h : site.State worker recorded w) (commit : GitCommit) :
    site.State worker recorded { w with git := w.git.commitTree commit } :=
  { h with
    object := by
      intro e he
      refine ⟨(h.object e he).1, ?_⟩
      have hvalid := (h.object e he).2
      unfold validateRepairCommit at hvalid ⊢
      cases hcommit : w.git.commit? e.repairCommit with
      | none => simp [hcommit] at hvalid
      | some c =>
        rw [hcommit] at hvalid
        rw [GitRepository.commitTree_commit?_of_some hcommit]
        exact hvalid
    refs := by
      intro ref
      rw [GitRepository.commitTree_refs]
      exact h.refs ref }

theorem Binds.integrationHead (h : site.Binds e) : e.integrationHead = site.gate.integrationHead := by
  obtain ⟨a, ha⟩ := h
  rw [ha]
  rfl

/-- The evidence found is the evidence recorded. -/
theorem State.existing (h : site.State worker recorded w) :
    existingRepair w.db.evidence site.gate = .ok recorded := by
  unfold existingRepair
  rw [h.repairs]
  cases recorded <;> rfl

/-- The recorded repair is at the integration ref. -/
def Applied (site : AuthorizedGate) (worker : SuccessfulWorker)
    (e : IntegrationConflictRepairEvidence) (w : RepairWorld) : Prop :=
  site.State worker (some e) w ∧
    w.git.refs (.integration site.integrationId) = some e.repairCommit

/-- Any other ref may be set. -/
theorem Applied.setRef (h : site.Applied worker e w) {ref : GitRef} {oid : Option String}
    (hne : ref ≠ .integration site.integrationId) (hallowed : site.AllowedRef (some e) ref oid) :
    site.Applied worker e (w.setRef ref oid) :=
  ⟨h.1.setRef hallowed, by rw [RepairWorld.setRef_refs_of_ne hne.symm, h.2]⟩

/-- The staging ref of a recorded repair is free or protects it. -/
theorem State.staging (h : site.State worker (some e) w) :
    w.git.refs site.stagingRef = none ∨ w.git.refs site.stagingRef = some e.repairCommit := by
  cases hstaging : w.git.refs site.stagingRef with
  | none => exact Or.inl rfl
  | some c =>
    have hc := (h.refs site.stagingRef rfl rfl c hstaging).2 e rfl
    exact Or.inr (by rw [hc])

theorem advanceRef_spec : Spec (site.State worker (some e))
    (advanceRef site.queue.integrationRef e) (site.State worker (some e))
    fun r s => r = .ok () ∧ site.Applied worker e s := by
  intro w h
  rw [site.queue_ref]
  have hhead := (h.binds e rfl).integrationHead
  have hallowed : w.git.refs (.integration site.integrationId) = some e.integrationHead ∨
      w.git.refs (.integration site.integrationId) = some e.repairCommit := by
    rcases h.refs (.integration site.integrationId) rfl with hat | ⟨_, heq, hat⟩
    · exact Or.inl (by rw [hat, hhead])
    · obtain rfl := Option.some.inj heq
      exact Or.inr hat
  have hnext : site.State worker (some e)
      (w.setRef (.integration site.integrationId) (some e.repairCommit)) :=
    h.setRef fun _ => Or.inr ⟨e, rfl, rfl⟩
  obtain ⟨hstates, hresult, hfinal⟩ := (advanceRef_leaves hallowed
    (by rw [hhead]; exact site.head_oid) (h.object e rfl).1).spec
    (C := site.State worker (some e)) (by simpa using h) hnext
  exact ⟨hstates, hresult, by rw [hfinal]; exact ⟨hnext, RepairWorld.setRef_refs_self⟩⟩

/-- One gate ref goes to its archive. -/
theorem archiveLiveRef_spec {live archive : GitRef} {commit : String} (hne : live ≠ archive)
    (hlive : live ≠ .integration site.integrationId)
    (harchive : archive ≠ .integration site.integrationId) (hoid : isOid commit = true)
    (hallowed : ∀ oid, oid = none ∨ oid = some commit ↔ site.AllowedRef (some e) live oid)
    (hallowed' : ∀ oid, oid = none ∨ oid = some commit ↔ site.AllowedRef (some e) archive oid) :
    Spec (site.Applied worker e) (archiveLiveRef live commit archive) (site.State worker (some e))
      fun r s => r = .ok () ∧ site.Applied worker e s := by
  intro w h
  have hcreated : site.Applied worker e (w.setRef archive (some commit)) :=
    h.setRef harchive ((hallowed' _).1 (Or.inr rfl))
  have hdeleted : site.Applied worker e ((w.setRef archive (some commit)).setRef live none) :=
    hcreated.setRef hlive ((hallowed _).1 (Or.inl rfl))
  obtain ⟨hstates, hresult, hfinal⟩ := (archiveLiveRef_leaves hne
    ((hallowed _).2 (h.1.refs live)) ((hallowed' _).2 (h.1.refs archive)) hoid).spec
    (C := site.State worker (some e)) (by simpa using ⟨h.1, hcreated.1⟩) hdeleted.1
  exact ⟨hstates, hresult, by rw [hfinal]; exact hdeleted⟩

theorem archiveLiveGateRefs_spec : Spec (site.Applied worker e)
    (archiveLiveGateRefs site.gate site.decision) (site.State worker (some e))
    fun r s => r = .ok () ∧ site.Applied worker e s := by
  unfold archiveLiveGateRefs
  rw [site.gate_ref, site.conflict_ref, site.decision_ref]
  simp only [if_neg site.integrationId_ne]
  refine Spec.bind (archiveLiveRef_spec (by simp) (by simp) (by simp) site.marker_oid ?_ ?_)
    (fun _ => (archiveLiveRef_spec (by simp) (by simp) (by simp) site.decision_oid ?_ ?_).weaken
      (fun _ hs => hs.2) fun _ _ hs => hs) fun _ _ hs => by cases hs.1
  all_goals simp [AllowedRef]

theorem releaseRepairAnchor_spec : Spec (site.Applied worker e)
    (releaseRepairAnchor site.stagingRef e.repairCommit) (site.State worker (some e))
    fun r s => r = .ok () ∧ site.Applied worker e s := by
  intro w h
  have hnext : site.Applied worker e (w.setRef site.stagingRef none) :=
    h.setRef (by simp [stagingRef]) fun _ _ c hc => by cases hc
  obtain ⟨hstates, hresult, hfinal⟩ := (releaseRepairAnchor_leaves h.1.staging
    (h.1.object e rfl).1).spec (C := site.State worker (some e)) (by simpa using h.1) hnext.1
  exact ⟨hstates, hresult, by rw [hfinal]; exact hnext⟩

/-- **A recorded repair is applied, from wherever an earlier call stopped.** -/
theorem applyRepair_spec : Spec (site.State worker (some e))
    (applyRepair site.queue site.gate site.decision site.stagingRef e)
    (site.State worker (some e)) fun r s => r = .ok e ∧ site.Applied worker e s := by
  unfold applyRepair
  refine Spec.bind advanceRef_spec (fun _ => ?_) fun _ _ hs => by cases hs.1
  refine Spec.bind (archiveLiveGateRefs_spec.weaken (fun _ hs => hs.2) fun _ _ hs => hs)
    (fun _ => ?_) fun _ _ hs => by cases hs.1
  refine Spec.bind (releaseRepairAnchor_spec.weaken (fun _ hs => hs.2) fun _ _ hs => hs)
    (fun _ => ?_) fun _ _ hs => by cases hs.1
  exact Spec.pure (fun _ hs => hs.2.1) fun _ hs => ⟨rfl, hs.2⟩

/-- What a checked attempt returns makes valid evidence. -/
theorem record_validate {a : RepairAttempt} (hcheck : a.check site.gate = .ok ())
    (hoid : isOid a.commit = true) :
    (a.record site.runId site.gate site.decision).validate = .ok () := by
  simp only [RepairAttempt.check, Raising.bind_eq_ok, Raising.raiseIf_eq_ok] at hcheck
  obtain ⟨_, _, _, _, _, _, _, _, _, _, _, hpassed, _, hchanged, _⟩ := hcheck
  have hsorted : a.changedFiles.insertionSort (· ≤ ·) = a.changedFiles :=
    (a.changedFiles_sorted.imp fun h => le_of_lt h).insertionSort_eq
  have hnodup : a.changedFiles.Nodup := a.changedFiles_sorted.imp fun h => ne_of_lt h
  simp only [RepairRecord.validate, RepairAttempt.record, Raising.bind_eq_ok]
  simp [site.taskId_length, site.head_oid, site.task_oid, site.marker_oid, site.decision_oid, hoid,
    site.fingerprints, site.gate.paths_nonempty, site.gate.paths_nodup, hchanged, hsorted, hnodup,
    hpassed]

/-- **Recording takes an unrecorded state with a protected commit to a recorded
one.** -/
theorem State.record {a : RepairAttempt} (h : site.State worker none w)
    (hobject : w.git.commit? a.commit = some (a.repairCommit site.gate site.decision worker))
    (hoid : isOid a.commit = true) (hstaging : w.git.refs site.stagingRef = some a.commit)
    (he : e.toRepairRecord = a.record site.runId site.gate site.decision) :
    ∃ id db, recordIntegrationRepair w.db e.runId e.taskId e.conflictEvidenceFingerprint
        (.repair e) = .ok (id, db) ∧ site.State worker (some e) { w with db } := by
  have hrun : e.runId = site.runId := by rw [he]; rfl
  have htask : e.taskId = site.gate.taskId := by rw [he]; rfl
  have hprint : e.conflictEvidenceFingerprint = site.gate.evidenceFingerprint := by rw [he]; rfl
  have hcommit : e.repairCommit = a.commit := by rw [he]; rfl
  obtain ⟨timeline, hrecord, hids⟩ := recordIntegrationRepair_of_new (.repair e)
    h.running h.known h.issued (h.unused rfl)
  rw [h.run] at hrecord
  refine ⟨_, _, by rw [hrun, htask, hprint]; exact hrecord, ?_⟩
  exact
    { h with
      issued := hids
      worker_eq := by
        rw [← h.worker_eq]
        simp [Database.insertEvidence, successfulWorker, successfulExecutions, newEvidenceRow]
      repairs := by
        have hnone := h.repairs
        simp only [repairsOf, Option.toList_none] at hnone
        simp [Database.insertEvidence, repairsOf, newEvidenceRow, hnone, htask, hprint]
      unused := by simp
      binds := by
        rintro _ ⟨⟩
        exact ⟨a, he⟩
      object := by
        rintro _ ⟨⟩
        refine ⟨by rw [hcommit]; exact hoid, ?_⟩
        unfold validateRepairCommit
        rw [hcommit, hobject]
        simp [RepairAttempt.repairCommit, repairMessage, expectedTrailers, he, RepairAttempt.record]
      refs := by
        intro ref
        have hold := h.refs ref
        cases ref with
        | integration id => exact fun hid => Or.inl ((hold hid).resolve_right (by simp))
        | repair runId marker =>
          rintro rfl rfl c hc
          refine ⟨(hold rfl rfl c hc).1, ?_⟩
          rintro _ ⟨⟩
          rw [hcommit]
          exact Option.some.inj (hc.symm.trans hstaging)
        | _ => exact hold }

/-- A state of stopped calls. -/
def Known (site : AuthorizedGate) (worker : SuccessfulWorker) (w : RepairWorld) : Prop :=
  ∃ recorded, site.State worker recorded w

/-- The call returned the repair, which is recorded and at the integration ref. -/
def Completes (site : AuthorizedGate) (worker : SuccessfulWorker)
    (r : Except Failure IntegrationConflictRepairEvidence) (w : RepairWorld) : Prop :=
  ∃ e, r = .ok e ∧ site.Applied worker e w

theorem Completes.known {r : Except Failure IntegrationConflictRepairEvidence}
    (h : site.Completes worker r w) : site.Known worker w := by
  obtain ⟨e, -, hstate, -⟩ := h
  exact ⟨some e, hstate⟩

/-- Worktrees do not matter for it. -/
theorem completes_setWorktrees {r : Except Failure IntegrationConflictRepairEvidence}
    {worktrees : List String} :
    site.Completes worker r { w with worktrees } ↔ site.Completes worker r w := by
  constructor
  · rintro ⟨e, hr, hstate, href⟩
    exact ⟨e, hr, hstate.setWorktrees w.worktrees, href⟩
  · rintro ⟨e, hr, hstate, href⟩
    exact ⟨e, hr, hstate.setWorktrees worktrees, href⟩

/-- In a state of stopped calls, what the call is asked for. -/
theorem completes_iff {r : Except Failure IntegrationConflictRepairEvidence}
    (hknown : site.Known worker w) :
    site.Completes worker r w ↔ ∃ e, r = .ok e ∧
      existingRepair w.db.evidence site.gate = .ok (some e) ∧
      w.git.refs site.queue.integrationRef = some e.repairCommit := by
  rw [site.queue_ref]
  constructor
  · rintro ⟨e, hr, hstate, href⟩
    exact ⟨e, hr, hstate.existing, href⟩
  · rintro ⟨e, hr, hexisting, href⟩
    obtain ⟨recorded, hstate⟩ := hknown
    obtain rfl := Except.ok.inj (hstate.existing.symm.trans hexisting)
    exact ⟨e, hr, hstate, href⟩

theorem not_completes_error {failure : Failure} : ¬site.Completes worker (.error failure) w := by
  rintro ⟨e, h, -⟩
  cases h

theorem Known.setWorktrees (h : site.Known worker w) (worktrees : List String) :
    site.Known worker { w with worktrees } := by
  obtain ⟨recorded, hstate⟩ := h
  exact ⟨recorded, hstate.setWorktrees worktrees⟩

/-- The staging ref is set in a state where nothing is recorded. -/
theorem State.anchor (h : site.State worker none w) {commit : String} (hoid : isOid commit = true) :
    site.State worker none (w.setRef site.stagingRef (some commit)) :=
  h.setRef fun _ _ c hc => ⟨by obtain rfl := Option.some.inj hc; exact hoid, by simp⟩

/-- The repair commit is written, and the staging ref holds `v`. -/
def Written (site : AuthorizedGate) (worker : SuccessfulWorker) (a : RepairAttempt)
    (v : Option String) (w : RepairWorld) : Prop :=
  site.State worker none w ∧
    w.git.commit? a.commit = some (a.repairCommit site.gate site.decision worker) ∧
    w.git.refs site.stagingRef = v

/-- The anchor of a written commit, when the staging ref is free for it. -/
theorem anchorRepairCommit_spec {a : RepairAttempt} {v : Option String}
    (hoid : isOid a.commit = true) (hfree : v = none ∨ v = some a.commit) :
    Spec (site.Written worker a v) (anchorRepairCommit site.stagingRef a.commit)
      (site.Known worker)
      fun r s => r = .ok () ∧ site.Written worker a (some a.commit) s := by
  intro s ⟨hs, hobject, hv⟩
  obtain ⟨hstates, hresult, hfinal⟩ := (anchorRepairCommit_leaves (by rw [hv]; exact hfree)
    hoid).spec (C := site.Known worker) (by simpa using ⟨none, hs⟩) ⟨none, hs.anchor hoid⟩
  refine ⟨hstates, hresult, ?_⟩
  rw [hfinal]
  exact ⟨hs.anchor hoid, hobject, RepairWorld.setRef_refs_self⟩

/-- The anchor of a written commit, when the staging ref protects another. -/
theorem anchorRepairCommit_spec_of_taken {a : RepairAttempt} {v : Option String}
    (htaken : ¬(v = none ∨ v = some a.commit)) :
    Spec (site.Written worker a v) (anchorRepairCommit site.stagingRef a.commit)
      (site.Known worker) fun r s => (∃ failure, r = .error failure) ∧ site.Known worker s := by
  rintro s ⟨hs, -, hv⟩
  obtain ⟨other, rfl⟩ := Option.ne_none_iff_exists'.1 fun h => htaken (Or.inl h)
  have hother := (hs.refs site.stagingRef rfl rfl other hv).1
  rw [anchorRepairCommit_of_other hv hother fun h => htaken (Or.inr (by rw [h]))]
  exact ⟨by simpa [Durable.Outcome.states] using ⟨none, hs⟩, ⟨_, rfl⟩, none, hs⟩

/-- **A protected commit is recorded and applied.** -/
theorem recordRepair_spec {a : RepairAttempt} (hoid : isOid a.commit = true)
    (he : e.toRepairRecord = a.record site.runId site.gate site.decision) :
    Spec (site.Written worker a (some a.commit))
      (recordRepair e >>= fun _ =>
        applyRepair site.queue site.gate site.decision site.stagingRef e)
      (site.Known worker) (site.Completes worker) := by
  refine Spec.bind (Q := fun r s => (∃ id, r = .ok id) ∧ site.State worker (some e) s)
    (Spec.transact (fun s hs => ⟨none, hs.1⟩) ?_ ?_) (fun _ s hs => ?_) fun _ _ hs => by
      obtain ⟨_, hs⟩ := hs.1
      cases hs
  · intro s id t ⟨hs, hobject, hv⟩ hrecord
    obtain ⟨_, db, hok, hstate⟩ := hs.record hobject hoid hv he
    rw [hok] at hrecord
    obtain ⟨rfl, rfl⟩ := Prod.mk.inj (Except.ok.inj hrecord)
    exact ⟨⟨_, hstate⟩, ⟨_, rfl⟩, hstate⟩
  · intro s failure ⟨hs, hobject, hv⟩ hrecord
    obtain ⟨_, db, hok, -⟩ := hs.record hobject hoid hv he
    rw [hok] at hrecord
    cases hrecord
  · obtain ⟨hstates, hresult, hfinal⟩ := applyRepair_spec s hs.2
    exact ⟨fun t ht => ⟨_, hstates t ht⟩, e, hresult, hfinal⟩

/-- **The `try` block of a first call.**  Whatever `v` the staging ref holds, every
state on the way is one of stopped calls, and the block completes the repair
when the attempt passes its checks and `v` is nothing or the attempt's commit. -/
theorem makeRepair_spec (a : RepairAttempt) (v : Option String) :
    Spec (fun s => site.State worker none s ∧
        s.git.Addresses (a.repairCommit site.gate site.decision worker) ∧
        s.git.refs site.stagingRef = v)
      (makeRepair a site.runId site.gate site.queue site.decision worker) (site.Known worker)
      fun r s => site.Known worker s ∧ (site.Completes worker r s ↔
        a.check site.gate = .ok () ∧ isOid a.commit = true ∧ (v = none ∨ v = some a.commit)) := by
  refine Spec.lift_bind (fun s hs => ⟨none, hs.1⟩) (fun _ hcheck => ?_) fun failure hfailed s hs =>
    ⟨⟨none, hs.1⟩, by simp [not_completes_error, hfailed]⟩
  refine Spec.bind (Q := fun r s => r = .ok () ∧ site.Written worker a v s)
    (Spec.write (fun s hs => ⟨none, hs.1⟩) (fun s hs => ⟨none, hs.1.commitTree _⟩) fun s hs =>
      ⟨rfl, hs.1.commitTree _, GitRepository.commitTree_commit?_self hs.2.1,
        by rw [GitRepository.commitTree_refs]; exact hs.2.2⟩)
    (fun _ => ?_) fun _ _ hs => by cases hs.1
  by_cases hoid : isOid a.commit = true
  swap
  · refine Spec.lift_bind (fun s hs => ⟨none, hs.2.1⟩) (fun _ hrequired => ?_)
      fun failure hfailed s hs => ⟨⟨none, hs.2.1⟩, by simp [not_completes_error, hoid]⟩
    exact absurd (by simpa [requireOid] using hrequired) hoid
  rw [requireOid_of_isOid hoid]
  refine Spec.lift_bind (fun s hs => ⟨none, hs.2.1⟩) (fun _ _ => ?_) fun failure hfailed => by
    cases hfailed
  by_cases hfree : v = none ∨ v = some a.commit
  swap
  · refine Spec.bind ((anchorRepairCommit_spec_of_taken hfree).weaken (fun s hs => hs.2)
      fun _ _ hs => hs) (fun _ s hs => ?_) fun failure s hs =>
        ⟨hs.2, iff_of_false not_completes_error fun h => hfree h.2.2⟩
    obtain ⟨_, hs⟩ := hs.1
    cases hs
  refine Spec.bind ((anchorRepairCommit_spec hoid hfree).weaken (fun s hs => hs.2)
    fun _ _ hs => hs) (fun _ => ?_) fun _ _ hs => by cases hs.1
  refine Spec.lift_bind (fun s hs => ⟨none, hs.2.1⟩) (fun e he => ?_) fun failure hfailed => ?_
  · have he := IntegrationConflictRepairEvidence.ofRecord_eq_ok he
    exact (recordRepair_spec hoid he).weaken (fun s hs => hs.2)
      fun r s hs => ⟨hs.known, iff_of_true hs ⟨hcheck, hoid, hfree⟩⟩
  · obtain ⟨e, he⟩ := IntegrationConflictRepairEvidence.exists_ofRecord (record_validate hcheck hoid)
    rw [he] at hfailed
    cases hfailed

/-- The call up to its choice between the two ways. -/
theorem repair_eq (h : site.State worker recorded w) (a : RepairAttempt) {task : TaskContract}
    (htask : taskContract w.tasks site.gate.taskId = .ok task) :
    repair a site.runId site.gate site.queue w =
      (match recorded with
      | some existing => do
        Durable.lift (validateRepairCommit w.git existing worker.branchName)
        anchorRepairCommit site.stagingRef existing.repairCommit
        applyRepair site.queue site.gate site.decision site.stagingRef existing
      | none => do
        let _ ← Durable.lift (conflictOnlyTask task site.gate)
        addRepairWorktree a
        Durable.ensuring (makeRepair a site.runId site.gate site.queue site.decision worker)
          (removeRepairWorktree a) :
        Prog RepairWorld Failure IntegrationConflictRepairEvidence) w := by
  rw [repair, site.shape, Durable.lift_ok_bind, Durable.read_bind,
    show lockedRun w.db site.runId = .ok () from lockedRun_eq_ok.2 h.run.symm,
    Durable.lift_ok_bind, htask, Durable.lift_ok_bind, h.worker_eq, Durable.lift_ok_bind,
    Durable.raiseIf_bind_of_not (by simp [h.worker_commit]),
    Durable.raiseIf_bind_of_not (by simp [h.clean]), h.existing, Durable.lift_ok_bind]
  cases recorded <;> rfl

/-- **A call that finds the repair recorded completes it.** -/
theorem repair_of_recorded (h : site.State worker (some e) w) (a : RepairAttempt) :
    (∀ t ∈ (repair a site.runId site.gate site.queue w).states, site.Known worker t) ∧
      site.Completes worker (repair a site.runId site.gate site.queue w).result
        (repair a site.runId site.gate site.queue w).final := by
  obtain ⟨task, htask⟩ := h.contract
  rw [repair_eq h a htask]
  obtain ⟨hoid, hvalid⟩ := h.object e rfl
  refine Spec.lift_bind (P := (· = w)) (C := site.Known worker) (R := site.Completes worker)
    ?_ (fun _ _ => ?_) ?_ w rfl
  · rintro _ rfl
    exact ⟨_, h⟩
  · refine Spec.bind (Q := fun r s => r = .ok () ∧ site.State worker (some e) s) ?_
      (fun _ => ?_) fun _ _ hs => by cases hs.1
    · intro s hs
      rw [show s = w from hs]
      have hnext : site.State worker (some e) (w.setRef site.stagingRef (some e.repairCommit)) := by
        refine h.setRef fun _ _ c hc => ?_
        obtain rfl := Option.some.inj hc
        exact ⟨hoid, by simp⟩
      obtain ⟨hstates, hresult, hfinal⟩ := (anchorRepairCommit_leaves h.staging hoid).spec
        (C := site.Known worker) (by simpa using ⟨_, h⟩) ⟨_, hnext⟩
      exact ⟨hstates, hresult, by rw [hfinal]; exact hnext⟩
    · intro s hs
      obtain ⟨hstates, hresult, hfinal⟩ := applyRepair_spec s hs.2
      exact ⟨fun t ht => ⟨_, hstates t ht⟩, e, hresult, hfinal⟩
  · intro failure hfailed
    rw [hvalid] at hfailed
    cases hfailed

/-- The call gets through to its commit: the contract of the repair is valid, the
worktree is fresh, Git reproduces the conflict, the agent and the verifier
succeed. -/
structure Succeeds (site : AuthorizedGate) (a : RepairAttempt) (w : RepairWorld) : Prop where
  contract : ∃ task contract, taskContract w.tasks site.gate.taskId = .ok task ∧
    conflictOnlyTask task site.gate = .ok contract
  fresh : a.path ∉ w.worktrees
  added : a.worktreeAdded = true
  checked : a.check site.gate = .ok ()
  oid : isOid a.commit = true

/-- **A call that finds nothing recorded** stays among the states of stopped
calls, and completes when it succeeds and the staging ref is free for its
commit. -/
theorem repair_of_unrecorded (h : site.State worker none w) (a : RepairAttempt)
    (haddress : w.git.Addresses (a.repairCommit site.gate site.decision worker)) :
    (∀ t ∈ (repair a site.runId site.gate site.queue w).states, site.Known worker t) ∧
      (site.Completes worker (repair a site.runId site.gate site.queue w).result
          (repair a site.runId site.gate site.queue w).final ↔
        site.Succeeds a w ∧ (w.git.refs site.stagingRef = none ∨
          w.git.refs site.stagingRef = some a.commit)) := by
  obtain ⟨task, htask⟩ := h.contract
  rw [repair_eq h a htask]
  refine Spec.lift_bind (P := (· = w)) (C := site.Known worker) (R := fun r s =>
    site.Completes worker r s ↔ site.Succeeds a w ∧ (w.git.refs site.stagingRef = none ∨
      w.git.refs site.stagingRef = some a.commit)) ?_ (fun contract hcontract => ?_) ?_ w rfl
  · rintro _ rfl
    exact ⟨_, h⟩
  swap
  · intro failure hfailed s _
    refine iff_of_false not_completes_error fun hboth => ?_
    obtain ⟨task', contract, htask', hcontract⟩ := hboth.1.contract
    obtain rfl := Except.ok.inj (htask.symm.trans htask')
    rw [hfailed] at hcontract
    cases hcontract
  by_cases hadd : a.path ∉ w.worktrees ∧ a.worktreeAdded = true
  swap
  · intro s hs
    obtain ⟨failure, hrun⟩ := addRepairWorktree_of_not hadd
    rw [show s = w from hs, Durable.bind_apply, Prog.andThen, hrun]
    exact ⟨by simpa [Durable.Outcome.states] using ⟨_, h⟩,
      iff_of_false not_completes_error fun hboth => hadd ⟨hboth.1.fresh, hboth.1.added⟩⟩
  refine Spec.bind (Q := fun r s => r = .ok () ∧
    s = { w with worktrees := a.path :: w.worktrees }) ?_ (fun _ => ?_) fun _ _ hs => by cases hs.1
  · intro s hs
    rw [show s = w from hs, addRepairWorktree_of hadd.1 hadd.2]
    refine ⟨?_, rfl, rfl⟩
    simpa [Durable.Outcome.states] using ⟨⟨_, h⟩, _, h.setWorktrees _⟩
  refine (Spec.ensuring ((makeRepair_spec a (w.git.refs site.stagingRef)).weaken
    (fun s hs => by rw [hs.2]; exact ⟨h.setWorktrees _, haddress, rfl⟩) fun _ _ hs => hs)
    fun r => Spec.write (Q := fun _ s => site.Known worker s ∧ (site.Completes worker r s ↔
      a.check site.gate = .ok () ∧ isOid a.commit = true ∧ (w.git.refs site.stagingRef = none ∨
        w.git.refs site.stagingRef = some a.commit)))
      (fun s hs => hs.1) (fun s hs => hs.1.setWorktrees _) fun s hs => ?_).weaken (fun _ hs => hs)
    fun r s hs => ?_
  · exact ⟨hs.1.setWorktrees _, completes_setWorktrees.trans hs.2⟩
  · rw [hs.2]
    constructor
    · rintro ⟨hcheck, hoid, hfree⟩
      exact ⟨⟨⟨task, contract, htask, hcontract⟩, hadd.1, hadd.2, hcheck, hoid⟩, hfree⟩
    · rintro ⟨hsucceeds, hfree⟩
      exact ⟨hsucceeds.checked, hsucceeds.oid, hfree⟩

/-- A call is stopped: the process is killed between two writes, or something
raises there and the worktree is removed on the way out.  Git's object ids are
content addresses. -/
def stopStep (site : AuthorizedGate) (worker : SuccessfulWorker) (w : RepairWorld)
    (a : RepairAttempt) (_ : Unit) (w' : RepairWorld) : Prop :=
  w.git.Addresses (a.repairCommit site.gate site.decision worker) ∧
    ∃ t ∈ (repair a site.runId site.gate site.queue w).states,
      w' = t ∨ w' = { t with worktrees := t.worktrees.filter (· ≠ a.path) }

/-- The state in which the first call is made: nothing is recorded, archived or
staged, and the refs of the gate are live. -/
structure Ready (site : AuthorizedGate) (worker : SuccessfulWorker) (w : RepairWorld) : Prop
    extends site.State worker none w where
  live : w.git.refs (.conflict site.integrationId) = some site.gate.conflictMarkerCommit ∧
    w.git.refs (.decision site.integrationId) = some site.decision.decisionCommit
  head : w.git.refs (.integration site.integrationId) = some site.gate.integrationHead
  archives : ∀ marker, w.git.refs (.conflictHistory site.integrationId marker) = none ∧
    w.git.refs (.decisionHistory site.integrationId marker) = none
  free : w.git.refs site.stagingRef = none

/-- One stopped call keeps the invariant. -/
theorem stopStep_known {a : RepairAttempt} {o : Unit} {w' : RepairWorld}
    (h : site.Known worker w) (hstop : site.stopStep worker w a o w') : site.Known worker w' := by
  obtain ⟨recorded, hstate⟩ := h
  obtain ⟨haddress, t, ht, hw'⟩ := hstop
  have hknown : site.Known worker t := by
    cases recorded with
    | none => exact (repair_of_unrecorded hstate a haddress).1 t ht
    | some e => exact (repair_of_recorded hstate a).1 t ht
  rcases hw' with rfl | rfl
  · exact hknown
  · exact hknown.setWorktrees _

/-- **Any number of stopped calls keep it.** -/
theorem known_of_stops {w₀ : RepairWorld} {es : List (Runs.Event RepairWorld RepairAttempt Unit)}
    (h₀ : site.Ready worker w₀) (h : Runs.Run (site.stopStep worker) w₀ es w) :
    site.Known worker w :=
  h.invariant (fun _ _ _ _ => stopStep_known) ⟨none, h₀.toState⟩

end AuthorizedGate

/-- **When an interrupted repair is resumed.**  From every state that stopped
calls leave behind, an uninterrupted call whose agent and verifier succeed
records the repair and leaves the integration ref at the recorded commit exactly
when the repair is recorded already, or the staging ref is free, or it protects
the very commit that this call produces. -/
theorem repair_completes_iff {site : AuthorizedGate} {worker : SuccessfulWorker}
    {w₀ w : RepairWorld} {es : List (Runs.Event RepairWorld RepairAttempt Unit)}
    (h₀ : site.Ready worker w₀) (h : Runs.Run (site.stopStep worker) w₀ es w) {a : RepairAttempt}
    (hsucceeds : site.Succeeds a w)
    (haddress : w.git.Addresses (a.repairCommit site.gate site.decision worker)) :
    (∃ e, (repair a site.runId site.gate site.queue w).result = .ok e ∧
        existingRepair (repair a site.runId site.gate site.queue w).final.db.evidence site.gate =
          .ok (some e) ∧
        (repair a site.runId site.gate site.queue w).final.git.refs site.queue.integrationRef =
          some e.repairCommit) ↔
      (∃ e, existingRepair w.db.evidence site.gate = .ok (some e)) ∨
        w.git.refs site.stagingRef = none ∨ w.git.refs site.stagingRef = some a.commit := by
  obtain ⟨recorded, hstate⟩ := AuthorizedGate.known_of_stops h₀ h
  have hlast : (repair a site.runId site.gate site.queue w).final ∈
      (repair a site.runId site.gate site.queue w).states := by
    simp [Durable.Outcome.states]
  cases recorded with
  | none =>
    obtain ⟨hstates, hcompletes⟩ := AuthorizedGate.repair_of_unrecorded hstate a haddress
    rw [← AuthorizedGate.completes_iff (hstates _ hlast), hcompletes, hstate.existing]
    simp [hsucceeds]
  | some e =>
    obtain ⟨hstates, hcompletes⟩ := AuthorizedGate.repair_of_recorded hstate a
    rw [← AuthorizedGate.completes_iff (hstates _ hlast)]
    exact iff_of_true hcompletes (Or.inl ⟨e, hstate.existing⟩)

/-- A queue that stopped on the second of two tasks. -/
def stoppedQueue : MergeQueueSnapshot where
  integrationRef := .integration "run-1"
  runBaseCommit := sampleOid '0'
  headCommit := sampleOid '2'
  integratedTaskIds := ["api"]
  attempts :=
    [⟨0, "api", "task/api", sampleOid '0', sampleOid '1', sampleOid '0',
        .integrated (sampleOid '2')⟩,
      ⟨1, "ui", "task/ui", sampleOid '0', sampleOid '3', sampleOid '2',
        .conflict ⟨"ui", sampleOid '2', sampleOid '3', .conflict "run-1", sampleOid '4',
          "CONFLICT (content): shared.py"⟩⟩]
  stopped := true
  consistent := by decide +kernel

/-- The decision on its conflict. -/
def repairDecision : HumanIntegrationDecision where
  decision := .authorizeRepair
  decisionRef := .decision "run-1"
  decisionCommit := sampleOid '5'
  evidenceFingerprint := String.ofList (List.replicate 64 'e')
  policyFingerprint := String.ofList (List.replicate 64 'f')
  conflictMarkerCommit := sampleOid '4'

/-- The gate that the decision opens. -/
def sharedFileGate : AuthorizedGate where
  runId := ⟨1⟩
  gate :=
    { taskId := "ui"
      taskCommit := sampleOid '3'
      integrationRef := .integration "run-1"
      integrationHead := sampleOid '2'
      conflictRef := .conflict "run-1"
      conflictMarkerCommit := sampleOid '4'
      evidenceFingerprint := String.ofList (List.replicate 64 'e')
      policyFingerprint := String.ofList (List.replicate 64 'f')
      conflictingPaths := ["shared.py"]
      state := .repairAuthorized
      humanDecision := some repairDecision
      repairMayStart := true
      paths_nonempty := sharedFile_ne_nil
      paths_nodup := sharedFile_nodup
      decided := by
        rintro _ ⟨⟩
        exact ⟨rfl, rfl, rfl⟩ }
  queue := stoppedQueue
  decision := repairDecision
  integrationId := "run-1"
  shape := by rfl
  integrationId_ne := by decide
  gate_ref := rfl
  queue_ref := rfl
  conflict_ref := rfl
  decision_ref := rfl
  taskId_length := by decide
  head_oid := isOid_sampleOid rfl
  task_oid := isOid_sampleOid rfl
  marker_oid := isOid_sampleOid rfl
  decision_oid := isOid_sampleOid rfl
  fingerprints := by decide +kernel

/-- The execution whose commit conflicts. -/
def uiWorker : SuccessfulWorker :=
  ⟨"task/ui", sampleOid '0', sampleOid '3'⟩

/-- The rows of the run: the execution of the second task. -/
def conflictedDatabase : Database RunContent :=
  { Database.created RunContent ⟨1⟩ ["api", "ui"] with
    evidence :=
      [{ id := 1
         taskId := some "ui"
         evidenceKey := "dispatch:12:execution"
         kind := .workerExecution
         stage := some "worker"
         sequence := none
         schemaVersion := 1
         payload := .workerExecution
          { dispatchId := ⟨12⟩
            runId := ⟨1⟩
            taskId := "ui"
            status := .succeeded
            baseCommit := sampleOid '0'
            commitSha := some (sampleOid '3')
            content := .execution (some "task/ui") none
            success_commit := by simp
            failure_commit := by simp } }]
    evidenceSequence := 1 }

/-- The world in which the repair is first called. -/
def conflictedWorld : RepairWorld where
  db := conflictedDatabase
  tasks := [⟨"api", "serve", [], ["api.py"], []⟩, ⟨"ui", "render", [], ["shared.py"], []⟩]
  git :=
    { commits := []
      refs := fun ref =>
        if ref = .integration "run-1" then some (sampleOid '2')
        else if ref = .conflict "run-1" then some (sampleOid '4')
        else if ref = .decision "run-1" then some (sampleOid '5')
        else none }
  changedFiles := []
  worktrees := []

/-- A call in which the agent resolves the conflict, with the commit it leads to. -/
def resolvingAttempt (path : String) (commit : String) : RepairAttempt where
  path := path
  worktreeAdded := true
  mergeReturncode := 1
  unresolved := ["shared.py"]
  developerRun := ⟨.modelStop, "resolved"⟩
  files := fun _ => .text "VALUE = 'resolved'"
  remaining := []
  verification := ⟨true, "passed"⟩
  changedFiles := ["shared.py"]
  tree := sampleOid '9'
  commit := commit
  changedFiles_sorted := by simp

theorem conflictedWorld_ready : sharedFileGate.Ready uiWorker conflictedWorld where
  run := rfl
  running := rfl
  issued := by
    intro row hrow
    cases hrow
  known := by decide
  contract := ⟨_, rfl⟩
  worker_eq := rfl
  worker_commit := rfl
  clean := rfl
  repairs := rfl
  unused := by decide +kernel
  binds := by simp
  object := by simp
  refs := by
    intro ref
    cases ref <;> simp_all [AuthorizedGate.AllowedRef, conflictedWorld, sharedFileGate,
      repairDecision]
  live := by decide +kernel
  head := by decide +kernel
  archives := by simp [conflictedWorld]
  free := by decide +kernel

/-- The first call. -/
def firstAttempt : RepairAttempt :=
  resolvingAttempt "repairs/ui-1" (sampleOid 'c')

/-- What the first call has left behind after `n` writes. -/
def stoppedAfter (n : ℕ) : RepairWorld :=
  ((repair firstAttempt sharedFileGate.runId sharedFileGate.gate sharedFileGate.queue
    conflictedWorld).states[n]?).getD conflictedWorld

theorem stoppedAfter_run (n : ℕ) : ∃ es, Runs.Run (sharedFileGate.stopStep uiWorker)
    conflictedWorld es (stoppedAfter n) := by
  unfold stoppedAfter
  cases hn : (repair firstAttempt sharedFileGate.runId sharedFileGate.gate sharedFileGate.queue
      conflictedWorld).states[n]? with
  | none => exact ⟨[], Runs.Run.nil _⟩
  | some w =>
    exact ⟨_, Runs.Run.cons (i := firstAttempt) (o := ())
      ⟨GitRepository.addresses_of_new rfl, w, List.mem_of_getElem? hn, Or.inl rfl⟩ (Runs.Run.nil _)⟩

/-- The second call, in which the agent and the verifier succeed as well. -/
def secondAttempt : RepairAttempt :=
  resolvingAttempt "repairs/ui-2" (sampleOid 'd')

/-- How the first call goes: after three writes its commit is staged, after four it
is recorded; and in both states the second call gets through to its commit. -/
theorem stoppedAfter_facts :
    ((conflictOnlyTask ⟨"ui", "render", [], ["shared.py"], []⟩ sharedFileGate.gate).isOk ∧
      (secondAttempt.check sharedFileGate.gate).isOk ∧ isOid secondAttempt.commit) ∧
    (∀ n ∈ [3, 4], (stoppedAfter n).tasks = conflictedWorld.tasks ∧
      secondAttempt.path ∉ (stoppedAfter n).worktrees ∧
      (stoppedAfter n).git.commit? secondAttempt.commit = none ∧
      (stoppedAfter n).git.refs (.integration "run-1") = some (sampleOid '2') ∧
      (stoppedAfter n).git.refs sharedFileGate.stagingRef = some (sampleOid 'c') ∧
      (repairsOf (stoppedAfter n).db.evidence sharedFileGate.gate).length = n - 3) := by
  decide +kernel

theorem secondAttempt_succeeds {n : ℕ} (hn : n ∈ [3, 4]) :
    sharedFileGate.Succeeds secondAttempt (stoppedAfter n) := by
  obtain ⟨⟨hcontract, hcheck, hoid⟩, hstopped⟩ := stoppedAfter_facts
  obtain ⟨htasks, hfresh, -⟩ := hstopped n hn
  obtain ⟨contract, hcontract⟩ := Raising.exists_of_isOk hcontract
  obtain ⟨_, hcheck⟩ := Raising.exists_of_isOk hcheck
  exact ⟨⟨_, contract, by rw [htasks]; rfl, hcontract⟩, hfresh, rfl, hcheck, hoid⟩

/-- **An unrecorded repair commit blocks every later one.**  The first call is
stopped between the staging ref and the evidence, and the second produces
another commit. -/
theorem interrupted_repair_not_resumable :
    ¬∀ (site : AuthorizedGate) (worker : SuccessfulWorker) (w₀ w : RepairWorld)
        (es : List (Runs.Event RepairWorld RepairAttempt Unit)) (a : RepairAttempt),
      site.Ready worker w₀ → Runs.Run (site.stopStep worker) w₀ es w → site.Succeeds a w →
      w.git.Addresses (a.repairCommit site.gate site.decision worker) →
        ∃ e, (repair a site.runId site.gate site.queue w).result = .ok e ∧
          existingRepair (repair a site.runId site.gate site.queue w).final.db.evidence site.gate =
            .ok (some e) ∧
          (repair a site.runId site.gate site.queue w).final.git.refs site.queue.integrationRef =
            some e.repairCommit := by
  intro hclaim
  obtain ⟨-, -, hnew, -, hstaging, hnone⟩ := stoppedAfter_facts.2 3 (by simp)
  obtain ⟨es, hrun⟩ := stoppedAfter_run 3
  have haddress : (stoppedAfter 3).git.Addresses (secondAttempt.repairCommit sharedFileGate.gate
      sharedFileGate.decision uiWorker) := GitRepository.addresses_of_new hnew
  have hcompletes := hclaim sharedFileGate uiWorker conflictedWorld (stoppedAfter 3) es
    secondAttempt conflictedWorld_ready hrun (secondAttempt_succeeds (by simp)) haddress
  obtain ⟨recorded, hstate⟩ := AuthorizedGate.known_of_stops conflictedWorld_ready hrun
  obtain rfl : recorded = none := by
    have := hstate.repairs ▸ hnone
    cases recorded <;> simp_all
  obtain ⟨hstates, hiff⟩ := AuthorizedGate.repair_of_unrecorded hstate secondAttempt haddress
  rw [← AuthorizedGate.completes_iff (hstates _ (by simp [Durable.Outcome.states])), hiff, hstaging]
    at hcompletes
  exact absurd hcompletes.2 (by decide +kernel)

/-- Stopped after the evidence, the first call's repair is taken up by the second. -/
theorem repair_completes_after_record :
    ∃ w es, Runs.Run (sharedFileGate.stopStep uiWorker) conflictedWorld es w ∧
      w.git.refs (.integration "run-1") = some (sampleOid '2') ∧
      ∃ e, (repair secondAttempt sharedFileGate.runId sharedFileGate.gate sharedFileGate.queue
          w).result = .ok e ∧
        existingRepair (repair secondAttempt sharedFileGate.runId sharedFileGate.gate
          sharedFileGate.queue w).final.db.evidence sharedFileGate.gate = .ok (some e) ∧
        (repair secondAttempt sharedFileGate.runId sharedFileGate.gate sharedFileGate.queue
          w).final.git.refs sharedFileGate.queue.integrationRef = some e.repairCommit := by
  obtain ⟨-, -, hnew, hhead, -, hone⟩ := stoppedAfter_facts.2 4 (by simp)
  obtain ⟨es, hrun⟩ := stoppedAfter_run 4
  obtain ⟨e, he⟩ := List.length_eq_one_iff.1 hone
  refine ⟨stoppedAfter 4, es, hrun, hhead, ?_⟩
  exact (repair_completes_iff conflictedWorld_ready hrun (secondAttempt_succeeds (by simp))
    (GitRepository.addresses_of_new hnew)).2 (Or.inl ⟨e, by rw [existingRepair, he]; rfl⟩)

end DevFlow
