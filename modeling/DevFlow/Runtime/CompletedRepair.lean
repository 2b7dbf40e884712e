/-
# What a completed repair leaves in Git

A call of `repair` that returns has validated the repair commit that is recorded, or
has written and recorded one itself; it has moved the integration ref to it and the
refs of the conflict and of the decision to their archives.
-/

import DevFlow.Library.Runs
import DevFlow.Runtime.RepairRecovery

namespace DevFlow

open Durable (Prog Returns)

section returned

variable {w t : RepairWorld} {ref : GitRef} {u : Unit}

theorem resolveRef_returns {value : String} (h : Returns (resolveRef ref) w value t) :
    w.git.refs ref = some value ∧ w = t := by
  simp only [resolveRef, Durable.returns_bind, Durable.returns_read] at h
  obtain ⟨_, _, ⟨rfl, rfl⟩, h⟩ := h
  cases hvalue : w.git.refs ref with
  | none => simp [hvalue] at h
  | some found =>
    simp only [hvalue, Durable.returns_bind, Durable.returns_lift, Durable.returns_pure] at h
    obtain ⟨_, _, ⟨-, rfl⟩, rfl, rfl⟩ := h
    exact ⟨rfl, rfl⟩

theorem resolveOptionalRef_returns {value : Option String}
    (h : Returns (resolveOptionalRef ref) w value t) : w.git.refs ref = value ∧ w = t := by
  simp only [resolveOptionalRef, Durable.returns_bind, Durable.returns_read] at h
  obtain ⟨_, _, ⟨rfl, rfl⟩, h⟩ := h
  cases hvalue : w.git.refs ref with
  | none =>
    simp only [hvalue, Durable.returns_pure] at h
    exact h
  | some found =>
    simp only [hvalue, Durable.returns_bind, Durable.returns_lift, Durable.returns_pure] at h
    obtain ⟨_, _, ⟨-, rfl⟩, rfl, rfl⟩ := h
    exact ⟨rfl, rfl⟩

theorem updateGit_returns {f : GitRepository → Option GitRepository}
    (h : Returns (updateGit f) w true t) : ∃ git, f w.git = some git ∧ t = { w with git } := by
  rcases Durable.returns_attempt.1 h with ⟨hmade, -⟩ | ⟨-, hfalse, -⟩
  · obtain ⟨git, hgit, rfl⟩ := Option.map_eq_some_iff.1 hmade
    exact ⟨git, hgit, rfl⟩
  · cases hfalse

theorem updateRef_returns {new : String} {old : Option String}
    (h : Returns (updateGit fun git => git.updateRef ref new old) w true t) :
    t = w.setRef ref (some new) := by
  obtain ⟨git, hgit, rfl⟩ := updateGit_returns h
  unfold GitRepository.updateRef at hgit
  split_ifs at hgit
  obtain rfl := Option.some.inj hgit
  rfl

theorem deleteRef_returns {old : String}
    (h : Returns (updateGit fun git => git.deleteRef ref old) w true t) :
    t = w.setRef ref none := by
  obtain ⟨git, hgit, rfl⟩ := updateGit_returns h
  unfold GitRepository.deleteRef at hgit
  split_ifs at hgit
  obtain rfl := Option.some.inj hgit
  rfl

/-- The anchored commit is protected. -/
theorem anchorRepairCommit_returns {commit : String}
    (h : Returns (anchorRepairCommit ref commit) w u t) : t = w.setRef ref (some commit) := by
  simp only [anchorRepairCommit, Durable.returns_bind] at h
  obtain ⟨current, _, hcurrent, h⟩ := h
  obtain ⟨hvalue, rfl⟩ := resolveOptionalRef_returns hcurrent
  split_ifs at h with hsame
  · rw [hsame] at hvalue
    rw [RepairWorld.setRef_self hvalue]
    exact (Durable.returns_pure.1 h).2.symm
  · simp only [Durable.returns_bind, Durable.returns_raiseIf] at h
    obtain ⟨_, _, ⟨-, rfl⟩, created, s, hupdate, _, _, ⟨hcreated, rfl⟩, _, _, hresolved, -, rfl⟩ := h
    obtain rfl := Bool.eq_true_of_not_eq_false hcreated
    obtain ⟨-, rfl⟩ := resolveRef_returns hresolved
    exact updateRef_returns hupdate

theorem releaseRepairAnchor_returns {commit : String}
    (h : Returns (releaseRepairAnchor ref commit) w u t) : t = w.setRef ref none := by
  simp only [releaseRepairAnchor, Durable.returns_bind] at h
  obtain ⟨current, _, hcurrent, h⟩ := h
  obtain ⟨hvalue, rfl⟩ := resolveOptionalRef_returns hcurrent
  split_ifs at h with hnone
  · rw [hnone] at hvalue
    rw [RepairWorld.setRef_self hvalue]
    exact (Durable.returns_pure.1 h).2.symm
  · simp only [Durable.returns_bind, Durable.returns_raiseIf] at h
    obtain ⟨_, _, ⟨-, rfl⟩, deleted, s, hdelete, _, _, ⟨hdeleted, rfl⟩, _, _, hremaining, -, rfl⟩ := h
    obtain rfl := Bool.eq_true_of_not_eq_false hdeleted
    obtain ⟨-, rfl⟩ := resolveOptionalRef_returns hremaining
    exact deleteRef_returns hdelete

/-- The integration ref is at the recorded repair. -/
theorem advanceRef_returns {e : IntegrationConflictRepairEvidence}
    (h : Returns (advanceRef ref e) w u t) : t = w.setRef ref (some e.repairCommit) := by
  simp only [advanceRef, Durable.returns_bind] at h
  obtain ⟨current, _, hcurrent, h⟩ := h
  obtain ⟨hvalue, rfl⟩ := resolveRef_returns hcurrent
  split_ifs at h with hsame
  · rw [hsame] at hvalue
    rw [RepairWorld.setRef_self hvalue]
    exact (Durable.returns_pure.1 h).2.symm
  · simp only [Durable.returns_bind, Durable.returns_raiseIf] at h
    obtain ⟨_, _, ⟨-, rfl⟩, updated, s, hupdate, _, _, ⟨hupdated, rfl⟩, _, _, hresolved, -, rfl⟩ := h
    obtain rfl := Bool.eq_true_of_not_eq_false hupdated
    obtain ⟨-, rfl⟩ := resolveRef_returns hresolved
    exact updateRef_returns hupdate

/-- A live gate ref is gone, and its archive holds what it held. -/
theorem archiveLiveRef_returns {archive : GitRef} {oid : String} (hne : ref ≠ archive)
    (h : Returns (archiveLiveRef ref oid archive) w u t) :
    t = (w.setRef archive (some oid)).setRef ref none := by
  simp only [archiveLiveRef, Durable.returns_bind, Durable.returns_raiseIf] at h
  obtain ⟨live, _, hread, archived, _, hread', _, _, ⟨hcheck, rfl⟩, _, s, hcreate, hdelete⟩ := h
  obtain ⟨hlive, rfl⟩ := resolveOptionalRef_returns hread
  obtain ⟨harchived, rfl⟩ := resolveOptionalRef_returns hread'
  have hcreated : s = w.setRef archive (some oid) := by
    unfold createArchive at hcreate
    split_ifs at hcreate with hnone
    · simp only [Durable.returns_bind, Durable.returns_raiseIf] at hcreate
      obtain ⟨created, _, hupdate, hmade, rfl⟩ := hcreate
      obtain rfl := Bool.eq_true_of_not_eq_false hmade
      exact updateRef_returns hupdate
    · have hthere : archived = some oid := by
        by_contra hother
        exact hcheck ⟨hnone, hother⟩
      rw [hthere] at harchived
      rw [RepairWorld.setRef_self harchived]
      exact (Durable.returns_pure.1 hcreate).2.symm
  subst hcreated
  unfold deleteLive at hdelete
  split_ifs at hdelete with hnone
  · rw [hnone] at hlive
    obtain ⟨-, rfl⟩ := Durable.returns_pure.1 hdelete
    exact (RepairWorld.setRef_self (by rw [RepairWorld.setRef_refs_of_ne hne, hlive])).symm
  · simp only [Durable.returns_bind, Durable.returns_raiseIf] at hdelete
    obtain ⟨_, _, ⟨-, rfl⟩, deleted, _, hdeleted, hmade, rfl⟩ := hdelete
    obtain rfl := Bool.eq_true_of_not_eq_false hmade
    exact deleteRef_returns hdeleted

end returned

/-! ### The whole call -/

/-- The refs that a completed repair leaves. -/
def RepairWorld.applied (w : RepairWorld) (gate : IntegrationGateSnapshot)
    (decision : HumanIntegrationDecision) (integrationId : String) (runId : UUID)
    (repairCommit : String) : RepairWorld :=
  (((((w.setRef (.integration integrationId) (some repairCommit)).setRef
    (.conflictHistory integrationId gate.conflictMarkerCommit)
      (some gate.conflictMarkerCommit)).setRef (.conflict integrationId) none).setRef
    (.decisionHistory integrationId gate.conflictMarkerCommit)
      (some decision.decisionCommit)).setRef (.decision integrationId) none).setRef
    (.repair runId gate.conflictMarkerCommit) none

section completed

variable {a : RepairAttempt} {runId : UUID} {gate : IntegrationGateSnapshot}
  {queue : MergeQueueSnapshot} {decision : HumanIntegrationDecision} {worker : SuccessfulWorker}
  {integrationId : String} {e evidence : IntegrationConflictRepairEvidence} {w t : RepairWorld}

/-- The refs of a gate, as `IntegrationHumanGate` derives them from the integration
ref. -/
structure GateRefs (gate : IntegrationGateSnapshot) (queue : MergeQueueSnapshot)
    (decision : HumanIntegrationDecision) (integrationId : String) : Prop where
  gate_ref : gate.integrationRef = .integration integrationId
  queue_ref : queue.integrationRef = .integration integrationId
  conflict_ref : gate.conflictRef = .conflict integrationId
  decision_ref : decision.decisionRef = .decision integrationId

theorem applyRepair_returns (h : GateRefs gate queue decision integrationId)
    (hreturns : Returns (applyRepair queue gate decision (.repair runId gate.conflictMarkerCommit)
      evidence) w e t) :
    e = evidence ∧ t = w.applied gate decision integrationId runId evidence.repairCommit := by
  simp only [applyRepair, archiveLiveGateRefs, h.gate_ref, h.queue_ref, h.conflict_ref,
    h.decision_ref, Durable.returns_bind, Durable.returns_pure] at hreturns
  obtain ⟨_, _, hadvance, _, _, harchive, _, _, hrelease, rfl, rfl⟩ := hreturns
  split_ifs at harchive with hempty
  · simp at harchive
  · simp only [Durable.returns_bind] at harchive
    obtain ⟨_, _, hconflict, hdecision⟩ := harchive
    refine ⟨rfl, ?_⟩
    rw [releaseRepairAnchor_returns hrelease, archiveLiveRef_returns (by simp) hdecision,
      archiveLiveRef_returns (by simp) hconflict, advanceRef_returns hadvance]
    rfl

/-- What recovery and integration see of a completed repair. -/
structure RepairedRefs (integrationId repairCommit : String) (git git' : GitRepository) : Prop where
  commits : git'.commits = git.commits
  integration : git'.refs (.integration integrationId) = some repairCommit
  conflict : git'.refs (.conflict integrationId) = none
  heads : ∀ branch, git'.refs (.heads branch) = git.refs (.heads branch)

theorem repairedRefs_applied {repairCommit : String} :
    RepairedRefs integrationId repairCommit w.git
      (w.applied gate decision integrationId runId repairCommit).git where
  commits := rfl
  integration := by simp [RepairWorld.applied, RepairWorld.setRef, GitRepository.setRef]
  conflict := by simp [RepairWorld.applied, RepairWorld.setRef, GitRepository.setRef]
  heads := by simp [RepairWorld.applied, RepairWorld.setRef, GitRepository.setRef]

/-- A repair that is applied once its commit is anchored. -/
theorem applyRepair_anchored (h : GateRefs gate queue decision integrationId) {s : RepairWorld}
    (hs : s.git = w.git.setRef (.repair runId gate.conflictMarkerCommit)
      (some evidence.repairCommit))
    (hreturns : Returns (applyRepair queue gate decision (.repair runId gate.conflictMarkerCommit)
      evidence) s e t) :
    e = evidence ∧ RepairedRefs integrationId e.repairCommit w.git t.git := by
  obtain ⟨rfl, rfl⟩ := applyRepair_returns h hreturns
  have happlied : RepairedRefs integrationId e.repairCommit s.git
      (s.applied gate decision integrationId runId e.repairCommit).git := repairedRefs_applied
  rw [hs] at happlied
  exact ⟨rfl, happlied.commits, happlied.integration, happlied.conflict, fun branch => by
    rw [happlied.heads, GitRepository.setRef_refs_of_ne (by simp)]⟩

/-- What a first call has checked and written. -/
theorem makeRepair_returns (h : GateRefs gate queue decision integrationId)
    (hreturns : Returns (makeRepair a runId gate queue decision worker) w e t) :
    isOid a.commit = true ∧ e.toRepairRecord = a.record runId gate decision ∧
      RepairedRefs integrationId a.commit (w.git.commitTree (a.repairCommit gate decision worker))
        t.git := by
  simp only [makeRepair, Durable.returns_bind, Durable.returns_lift, Durable.returns_write,
    recordRepair, Durable.returns_transact] at hreturns
  obtain ⟨_, _, ⟨-, rfl⟩, _, w', rfl, _, _, ⟨hoid, rfl⟩, _, _, hanchor, evidence, s,
    ⟨hevidence, rfl⟩, _, _, hrecord, hreturns⟩ := hreturns
  have hfields := IntegrationConflictRepairEvidence.ofRecord_eq_ok hevidence
  have hcommit : evidence.repairCommit = a.commit := by rw [hfields]; rfl
  obtain ⟨_, -, hs⟩ := Raising.map_eq_ok.1 hrecord
  obtain ⟨-, rfl⟩ := Prod.mk.inj hs
  obtain ⟨rfl, hrefs⟩ := applyRepair_anchored
    (w := { w with git := w.git.commitTree (a.repairCommit gate decision worker) }) h
    (by rw [anchorRepairCommit_returns hanchor, hcommit]; rfl) hreturns
  refine ⟨?_, hfields, hcommit ▸ hrefs⟩
  rw [requireOid, Raising.raiseIf_eq_ok] at hoid
  simpa using hoid

/-- **What a completed call of `repair` leaves in Git**: the refs of a repair that was
recorded before, or of one that it has written itself. -/
theorem repair_returns (h : GateRefs gate queue decision integrationId)
    (hshape : validateGateShape gate queue = .ok decision)
    (hreturns : Returns (repair a runId gate queue) w e t) :
    ∃ worker, successfulWorker w.db.evidence gate.taskId = .ok worker ∧
      worker.commitSha = gate.taskCommit ∧
      (existingRepair w.db.evidence gate = .ok (some e) ∧
          RepairedRefs integrationId e.repairCommit w.git t.git ∨
        isOid a.commit = true ∧ e.toRepairRecord = a.record runId gate decision ∧
          RepairedRefs integrationId a.commit
            (w.git.commitTree (a.repairCommit gate decision worker)) t.git) := by
  simp only [repair, hshape, Durable.returns_bind, Durable.returns_lift, Durable.returns_read,
    Durable.returns_raiseIf] at hreturns
  obtain ⟨_, _, ⟨hdecision, rfl⟩, _, _, ⟨rfl, rfl⟩, _, _, ⟨-, rfl⟩, task, _, ⟨-, rfl⟩, worker, _,
    ⟨hworker, rfl⟩, _, _, ⟨hcommit, rfl⟩, _, _, ⟨-, rfl⟩, existing, _, ⟨hexisting, rfl⟩,
    hreturns⟩ := hreturns
  obtain rfl := Except.ok.inj hdecision
  refine ⟨worker, hworker, not_not.1 hcommit, ?_⟩
  cases existing with
  | some recorded =>
    simp only [Durable.returns_bind, Durable.returns_lift] at hreturns
    obtain ⟨_, _, ⟨-, rfl⟩, _, s, hanchor, hreturns⟩ := hreturns
    obtain ⟨rfl, hrefs⟩ := applyRepair_anchored h
      (by rw [anchorRepairCommit_returns hanchor]; rfl) hreturns
    exact Or.inl ⟨hexisting, hrefs⟩
  | none =>
    simp only [Durable.returns_bind, Durable.returns_lift, Durable.returns_ensuring, addRepairWorktree,
      Durable.returns_read, Durable.returns_raiseIf, Durable.returns_write] at hreturns
    obtain ⟨_, _, ⟨-, rfl⟩, _, s, ⟨_, _, ⟨rfl, rfl⟩, _, _, ⟨-, rfl⟩, _, _, ⟨-, rfl⟩, rfl⟩, s', hmade,
      rfl⟩ := hreturns
    obtain ⟨hoid, hrecord, hrefs⟩ := makeRepair_returns h hmade
    exact Or.inr ⟨hoid, hrecord, hrefs⟩

end completed

end DevFlow
