/-
# The history of an integration ref

What `_recover_successful_history` makes of the commits of an integration ref,
oldest first: attempts that pass the validation of a snapshot, and tasks in
topological order with their dependencies before them (`Replayed`).  A round of its
loop finds the same in a later process (`recoverCommit_kept`), for objects, worktree
records and the graph stay.
-/

import DevFlow.Runtime.AbortedGate
import DevFlow.Workspace.Ancestry

namespace DevFlow

namespace MergeQueue

variable {merge : String → String → MergeTree} {queue queue' : MergeQueue}
  {project project' : Project} {commit : GitCommit} {lastIndex lastIndex' : ℤ}

/-! ### What the loop makes -/

/-- **The attempts and tasks of a recovered history**, whose last task is at
`lastIndex`. -/
structure Replayed (queue : MergeQueue) (lastIndex : ℤ) : Prop where
  sequences : queue.attempts.map MergeQueueAttempt.sequence = List.range queue.attempts.length
  outcomes : queue.attempts.foldlM checkAttempt ([], none) = .ok (queue.integrated, none)
  successes : integratedTasks queue.attempts = queue.integrated
  chain : queue.attempts.foldlM chainAttempt queue.runBase = .ok queue.head
  known : ∀ t ∈ queue.integrated, t ∈ queue.order
  increasing : queue.integrated.Pairwise fun t t' => queue.order.idxOf t < queue.order.idxOf t'
  last : ∀ t ∈ queue.integrated, (queue.order.idxOf t : ℤ) ≤ lastIndex
  dependencies : ∀ earlier t later, queue.integrated = earlier ++ t :: later →
    ∀ d ∈ queue.dependsOn t, d ∈ earlier
  running : queue.stopped = false

/-- The queue before its history is recovered. -/
def start (queue : MergeQueue) : MergeQueue :=
  { queue with attempts := [], integrated := [], stopped := false, head := queue.runBase }

theorem replayed_start (queue : MergeQueue) : Replayed queue.start (-1) where
  sequences := rfl
  outcomes := rfl
  successes := rfl
  chain := rfl
  known := by simp [start]
  increasing := List.Pairwise.nil
  last := by simp [start]
  dependencies := by simp [start]
  running := rfl

/-- The queue after one more commit of its history. -/
def extend (queue : MergeQueue) (attempts : List MergeQueueAttempt) (t head : String) :
    MergeQueue :=
  { queue with
    attempts := queue.attempts ++ attempts
    integrated := queue.integrated ++ [t]
    head := head }

theorem sequences_append {attempts new : List MergeQueueAttempt}
    (h : attempts.map MergeQueueAttempt.sequence = List.range attempts.length)
    (hnew : new.map MergeQueueAttempt.sequence = (List.range new.length).map (attempts.length + ·)) :
    (attempts ++ new).map MergeQueueAttempt.sequence = List.range (attempts ++ new).length := by
  rw [List.map_append, h, hnew, List.length_append, List.range_add]

theorem integratedTasks_append (attempts new : List MergeQueueAttempt) :
    integratedTasks (attempts ++ new) = integratedTasks attempts ++ integratedTasks new := by
  simp [integratedTasks]

/-- What one more commit asks for. -/
theorem Replayed.extend (h : Replayed queue lastIndex) {attempts : List MergeQueueAttempt}
    {t head : String}
    (hsequences : attempts.map MergeQueueAttempt.sequence =
      (List.range attempts.length).map (queue.attempts.length + ·))
    (houtcomes : attempts.foldlM checkAttempt (queue.integrated, none) =
      .ok (queue.integrated ++ [t], none))
    (hsuccesses : integratedTasks attempts = [t])
    (hchain : attempts.foldlM chainAttempt queue.head = .ok head)
    (hknown : t ∈ queue.order) (hlast : lastIndex < queue.order.idxOf t)
    (hdependencies : ∀ d ∈ queue.dependsOn t, d ∈ queue.integrated) :
    Replayed (queue.extend attempts t head) (queue.order.idxOf t) where
  sequences := sequences_append h.sequences hsequences
  outcomes := by
    show (queue.attempts ++ attempts).foldlM checkAttempt ([], none) = _
    rw [List.foldlM_append, h.outcomes]
    exact houtcomes
  successes := by
    show integratedTasks (queue.attempts ++ attempts) = queue.integrated ++ [t]
    rw [integratedTasks_append, h.successes, hsuccesses]
  chain := by
    show (queue.attempts ++ attempts).foldlM chainAttempt queue.runBase = _
    rw [List.foldlM_append, h.chain]
    exact hchain
  known := by
    intro t' ht'
    rcases List.mem_append.1 ht' with hold | hnew
    · exact h.known t' hold
    · exact List.mem_singleton.1 hnew ▸ hknown
  increasing := by
    refine List.pairwise_append.2 ⟨h.increasing, List.pairwise_singleton _ _, ?_⟩
    intro t' ht' last hnew
    have := h.last t' ht'
    rw [List.mem_singleton.1 hnew]
    show queue.order.idxOf t' < queue.order.idxOf t
    omega
  last := by
    intro t' ht'
    show (queue.order.idxOf t' : ℤ) ≤ queue.order.idxOf t
    rcases List.mem_append.1 ht' with hold | hnew
    · have := h.last t' hold
      omega
    · rw [List.mem_singleton.1 hnew]
  dependencies := by
    intro earlier t' later heq d hd
    have heq : queue.integrated ++ [t] = earlier ++ t' :: later := heq
    rcases List.eq_nil_or_concat later with rfl | ⟨later, last, rfl⟩
    · obtain ⟨rfl, hlast⟩ := List.append_inj' heq rfl
      obtain rfl := (List.cons.inj hlast).1
      exact hdependencies d hd
    · rw [List.concat_eq_append, ← List.cons_append, ← List.append_assoc] at heq
      exact h.dependencies earlier t' later (List.append_inj' heq rfl).1 d hd
  running := h.running

/-- A successful attempt of the loop. -/
theorem Replayed.integrate (h : Replayed queue lastIndex) (metadata : TaskMetadata) (oid : String)
    (hfresh : metadata.task ∉ queue.integrated) (hknown : metadata.task ∈ queue.order)
    (hlast : lastIndex < queue.order.idxOf metadata.task)
    (hdependencies : ∀ d ∈ queue.dependsOn metadata.task, d ∈ queue.integrated) :
    Replayed (queue.extend [attempt queue.attempts.length metadata queue.head (.integrated oid)]
      metadata.task oid) (queue.order.idxOf metadata.task) := by
  refine h.extend (by simp [attempt]) ?_ rfl ?_ hknown hlast hdependencies
  · simp [checkAttempt, attempt, hfresh, Raising.raiseIf]
  · simp [chainAttempt, attempt, MergeAttemptOutcome.integrationCommit, Raising.raiseIf]

/-- A conflict and its repair. -/
theorem Replayed.repair (h : Replayed queue lastIndex) (metadata : TaskMetadata) (oid : String)
    (failure : MergeConflictFailure) (repair : RepairMetadata)
    (hfresh : metadata.task ∉ queue.integrated) (hknown : metadata.task ∈ queue.order)
    (hlast : lastIndex < queue.order.idxOf metadata.task)
    (hdependencies : ∀ d ∈ queue.dependsOn metadata.task, d ∈ queue.integrated) :
    Replayed (queue.extend [attempt queue.attempts.length metadata queue.head (.conflict failure),
        attempt (queue.attempts.length + 1) metadata queue.head (.repaired oid repair)]
      metadata.task oid) (queue.order.idxOf metadata.task) := by
  refine h.extend (by simp [attempt, List.range_succ]) ?_ rfl ?_ hknown hlast hdependencies
  · simp [checkAttempt, attempt, hfresh, Raising.raiseIf]
  · simp [chainAttempt, attempt, MergeAttemptOutcome.integrationCommit, Raising.raiseIf]

/-- **The objects of a repaired conflict**: the marker on the head before it, with the
identity of the task, and the decision on the marker. -/
structure RepairObjects (git : GitRepository) (metadata : TaskMetadata) (previousHead : String)
    (repair : RepairMetadata) (marker previous decision : GitCommit) : Prop where
  marker_object : git.commit? repair.conflictMarker = some marker
  previous_object : git.commit? previousHead = some previous
  decision_object : git.commit? repair.humanDecisionCommit = some decision
  marker_oid : isFullOid repair.conflictMarker = true
  marker_parents : marker.parents = [previousHead]
  marker_tree : marker.tree = previous.tree
  marker_message : parseConflictMessage marker.message = .ok (metadata, previousHead)
  fingerprints : isSha256 repair.evidenceFingerprint = true ∧
    isSha256 repair.policyFingerprint = true
  decision_oid : isFullOid repair.humanDecisionCommit = true
  decision_parents : decision.parents = [repair.conflictMarker]
  decision_tree : decision.tree = marker.tree

theorem metadataMismatch_eq_none {found expected : TaskMetadata × String} :
    metadataMismatch found expected = none ↔ found = expected := by
  obtain ⟨⟨task, branch, base, commit⟩, head⟩ := found
  obtain ⟨⟨task', branch', base', commit'⟩, head'⟩ := expected
  unfold metadataMismatch
  split_ifs <;> simp_all

theorem requireFullOid_eq_ok {value label : String} {u : Unit} :
    requireFullOid value label = .ok u ↔ isFullOid value = true := by
  simp [requireFullOid]

theorem commitParents_eq_ok {git : GitRepository} {oid : String} {parents : List String} :
    commitParents git oid = .ok parents ↔ ∃ c, git.commit? oid = some c ∧ c.parents = parents := by
  unfold commitParents
  cases git.commit? oid <;> simp

theorem resolveTree_eq_ok {git : GitRepository} {oid tree : String} :
    resolveTree git oid = .ok tree ↔ ∃ c, git.commit? oid = some c ∧ c.tree = tree := by
  unfold resolveTree
  cases git.commit? oid <;> simp

theorem resolveCommit_eq_ok {git : GitRepository} {oid : Option String} {label : String}
    {c : GitCommit} :
    resolveCommit git oid label = .ok c ↔ oid.bind git.commit? = some c ∧ isFullOid c.oid = true := by
  unfold resolveCommit
  cases oid.bind git.commit? with
  | none => simp
  | some found =>
    simp only [Raising.bind_eq_ok, Raising.raiseIf_eq_ok, Raising.pure_eq_ok, Option.some.injEq]
    constructor
    · rintro ⟨_, hoid, rfl⟩
      exact ⟨rfl, by simpa using hoid⟩
    · rintro ⟨rfl, hoid⟩
      exact ⟨(), by simpa using hoid, rfl⟩

/-- **What `_recover_repaired_attempt` asks for**, and what it appends. -/
theorem recoverRepairedAttempt_eq_ok {git : GitRepository} {metadata : TaskMetadata}
    {previousHead : String} {repair : RepairMetadata} {attempts : List MergeQueueAttempt} :
    recoverRepairedAttempt merge queue git commit metadata previousHead repair = .ok attempts ↔
      ∃ output, merge previousHead metadata.commit = .conflict output ∧
        (∃ marker previous decision,
          RepairObjects git metadata previousHead repair marker previous decision) ∧
        attempts = [attempt queue.attempts.length metadata previousHead
            (.conflict (mergeConflictFailure queue.integrationId metadata previousHead
              repair.conflictMarker output)),
          attempt (queue.attempts.length + 1) metadata previousHead
            (.repaired commit.oid repair)] := by
  unfold recoverRepairedAttempt
  cases hmerge : merge previousHead metadata.commit with
  | clean tree => simp
  | failed exitCode => simp
  | conflict output =>
    simp only [Raising.bind_eq_ok, Raising.raiseIf_eq_ok, requireFullOid_eq_ok,
      commitParents_eq_ok, resolveTree_eq_ok, resolveCommit_eq_ok, not_not]
    constructor
    · rintro ⟨_, hoid, _, ⟨marker, hmarker, hparents⟩, _, rfl, _, ⟨_, hmarker', rfl⟩, _,
        ⟨previous, hprevious, rfl⟩, _, htree, _, ⟨hmarker'', -⟩, found, hmessage, h⟩
      obtain rfl := Option.some.inj (hmarker.symm.trans hmarker')
      obtain rfl := Option.some.inj (hmarker.symm.trans hmarker'')
      cases hmismatch : metadataMismatch found (metadata, previousHead) with
      | some key => simp [hmismatch] at h
      | none =>
        obtain rfl := metadataMismatch_eq_none.1 hmismatch
        simp only [hmismatch, Raising.bind_eq_ok, Raising.raiseIf_eq_ok, Raising.pure_eq_ok,
          requireFullOid_eq_ok, commitParents_eq_ok, resolveTree_eq_ok, not_not] at h
        obtain ⟨_, hevidence, _, hpolicy, _, hdecision, _, ⟨decision, hobject, rfl⟩, _, hon, _,
          ⟨_, hobject', rfl⟩, _, hsame, rfl⟩ := h
        obtain rfl := Option.some.inj (hobject.symm.trans hobject')
        exact ⟨output, rfl, ⟨marker, previous, decision, hmarker, hprevious, hobject, hoid, hparents,
          htree, hmessage, ⟨by simpa using hevidence, by simpa using hpolicy⟩, hdecision, hon,
          hsame⟩, rfl⟩
    · rintro ⟨_, houtput, ⟨marker, previous, decision, h⟩, rfl⟩
      obtain rfl := MergeTree.conflict.inj houtput
      have hoid : marker.oid = repair.conflictMarker := (mem_of_commit? h.marker_object).2
      refine ⟨(), h.marker_oid, _, ⟨marker, h.marker_object, rfl⟩, (), h.marker_parents, _,
        ⟨marker, h.marker_object, rfl⟩, _, ⟨previous, h.previous_object, rfl⟩, (), h.marker_tree,
        marker, ⟨h.marker_object, hoid ▸ h.marker_oid⟩, _, h.marker_message, ?_⟩
      rw [metadataMismatch_eq_none.2 rfl]
      simp only [Raising.bind_eq_ok, Raising.raiseIf_eq_ok, Raising.pure_eq_ok,
        requireFullOid_eq_ok, commitParents_eq_ok, resolveTree_eq_ok, not_not]
      exact ⟨(), by simp [h.fingerprints.1], (), by simp [h.fingerprints.2], (), h.decision_oid, _,
        ⟨decision, h.decision_object, rfl⟩, (), h.decision_parents, _,
        ⟨decision, h.decision_object, rfl⟩, (), h.decision_tree, trivial⟩

/-- **One round of the loop.** -/
theorem recoverCommit_replayed (h : Replayed queue lastIndex)
    (hround : recoverCommit merge project (queue, lastIndex) commit = .ok (queue', lastIndex')) :
    Replayed queue' lastIndex' := by
  simp only [recoverCommit, Raising.bind_eq_ok, Raising.pure_eq_ok, Raising.raiseIf_eq_ok,
    Prod.mk.injEq, not_not, not_le] at hround
  obtain ⟨_, -, metadata, -, _, hknown, _, hfresh, _, hlast, _, -, _, hidentity, repair, -,
    attempts, hattempts, rfl, rfl⟩ := hround
  simp only [checkIdentity, Raising.bind_eq_ok, Raising.raiseIf_eq_ok, not_exists, not_and,
    not_not] at hidentity
  obtain ⟨_, -, _, -, _, -, _, -, hdependencies⟩ := hidentity
  cases repair with
  | none =>
    simp only [recoverAttempts, Raising.bind_eq_ok, Raising.pure_eq_ok] at hattempts
    obtain ⟨_, -, rfl⟩ := hattempts
    exact h.integrate metadata commit.oid hfresh hknown hlast hdependencies
  | some repair =>
    obtain ⟨output, -, -, rfl⟩ := recoverRepairedAttempt_eq_ok.1 hattempts
    exact h.repair metadata commit.oid _ repair hfresh hknown hlast hdependencies

/-- **A recovered history is replayed.** -/
theorem replayed_of_recover {commits : List GitCommit}
    (h : commits.foldlM (recoverCommit merge project) (queue.start, -1) =
      .ok (queue', lastIndex)) : Replayed queue' lastIndex :=
  Raising.foldlM_invariant (P := fun state : MergeQueue × ℤ => Replayed state.1 state.2)
    (fun _ _ _ hstate hround => recoverCommit_replayed hstate hround) (replayed_start queue) h

/-! ### Its snapshot -/

/-- The queue once a task conflicts. -/
def withConflict (queue : MergeQueue) (conflict : MergeQueueAttempt) : MergeQueue :=
  { queue with attempts := queue.attempts ++ [conflict], stopped := true }

theorem exists_snapshot (h : MergeQueueRecord.validate
    { integrationRef := queue.integrationRef
      runBaseCommit := queue.runBase
      headCommit := queue.head
      integratedTaskIds := queue.integrated
      attempts := queue.attempts
      stopped := queue.stopped } = .ok ()) : ∃ snapshot, queue.snapshot = .ok snapshot := by
  unfold snapshot MergeQueueSnapshot.ofRecord
  split
  · exact ⟨_, rfl⟩
  · rename_i hfailed
    rw [h] at hfailed
    cases hfailed

theorem Replayed.nodup (h : Replayed queue lastIndex) : queue.integrated.Nodup :=
  h.increasing.imp fun {t t'} hlt heq => by simp [heq] at hlt

/-- **The snapshot of a recovered queue passes its validation.** -/
theorem Replayed.snapshot (h : Replayed queue lastIndex) :
    ∃ snapshot, queue.snapshot = .ok snapshot := by
  refine exists_snapshot ?_
  simp [MergeQueueRecord.validate, h.nodup, h.sequences, h.successes, h.outcomes, h.chain,
    h.running, Raising.raiseIf]

/-- **So does that of a queue that stopped on a task that is not integrated.** -/
theorem Replayed.snapshot_withConflict (h : Replayed queue lastIndex) {metadata : TaskMetadata}
    {failure : MergeConflictFailure} (hfresh : metadata.task ∉ queue.integrated) :
    ∃ snapshot, (queue.withConflict (attempt queue.attempts.length metadata queue.head
      (.conflict failure))).snapshot = .ok snapshot := by
  refine exists_snapshot ?_
  have hsequences : (queue.attempts ++ [attempt queue.attempts.length metadata queue.head
      (.conflict failure)]).map MergeQueueAttempt.sequence = List.range (queue.attempts ++
        [attempt queue.attempts.length metadata queue.head (.conflict failure)]).length :=
    sequences_append h.sequences (by simp [attempt])
  have hsuccesses := integratedTasks_append queue.attempts [attempt queue.attempts.length metadata
    queue.head (.conflict failure)]
  rw [h.successes] at hsuccesses
  have houtcomes : (queue.attempts ++ [attempt queue.attempts.length metadata queue.head
      (.conflict failure)]).foldlM checkAttempt ([], none) = .ok (queue.integrated,
        some (attempt queue.attempts.length metadata queue.head (.conflict failure))) := by
    rw [List.foldlM_append, h.outcomes]
    simp [checkAttempt, attempt, hfresh, Raising.raiseIf]
  have hchain : (queue.attempts ++ [attempt queue.attempts.length metadata queue.head
      (.conflict failure)]).foldlM chainAttempt queue.runBase = .ok queue.head := by
    rw [List.foldlM_append, h.chain]
    simp [chainAttempt, attempt, MergeAttemptOutcome.integrationCommit, Raising.raiseIf]
  simp only [withConflict, MergeQueueRecord.validate, hsequences, hsuccesses, houtcomes, hchain]
  simp [h.nodup, attempt, integratedTasks, MergeAttemptOutcome.isConflict, Raising.raiseIf]

/-! ### A later process -/

/-- The same queue, with what another process has reconstructed. -/
def inProcess (queue : MergeQueue) (scheduler : DAGScheduler) (executions : List Execution) :
    MergeQueue :=
  { queue with scheduler, executions }

/-- **What a later process finds again**: the objects, the worktree records, the graph,
and the tasks that have ended without success. -/
structure Continues (project project' : Project) (scheduler scheduler' : DAGScheduler)
    (executions executions' : List Execution) : Prop where
  objects : ∃ newer, project'.git.commits = newer ++ project.git.commits
  ordered : Ordered project'.git.commits
  records : ∀ t base record, recordFor executions project.worktrees t base = .ok record →
    recordFor executions' project'.worktrees t base = .ok record
  dag : scheduler'.dag = scheduler.dag
  ended : ∀ t, scheduler.states t = .failed ∨ scheduler.states t = .blocked →
    scheduler'.states t = .failed ∨ scheduler'.states t = .blocked

section kept

variable {scheduler scheduler' : DAGScheduler} {executions executions' : List Execution}

theorem Continues.commit? (h : Continues project project' scheduler scheduler' executions
    executions') {oid : String} {c : GitCommit} (hc : project.git.commit? oid = some c) :
    project'.git.commit? oid = some c := by
  obtain ⟨newer, hnewer⟩ := h.objects
  obtain ⟨hmem, rfl⟩ := mem_of_commit? hc
  exact h.ordered.commit?_eq (hnewer ▸ List.mem_append_right newer hmem)

theorem Continues.repairObjects (h : Continues project project' scheduler scheduler' executions
    executions') {metadata : TaskMetadata} {previousHead : String} {repair : RepairMetadata}
    {marker previous decision : GitCommit}
    (hobjects : RepairObjects project.git metadata previousHead repair marker previous decision) :
    RepairObjects project'.git metadata previousHead repair marker previous decision :=
  { hobjects with
    marker_object := h.commit? hobjects.marker_object
    previous_object := h.commit? hobjects.previous_object
    decision_object := h.commit? hobjects.decision_object }

variable (h : Continues project project' queue.scheduler scheduler' queue.executions executions')

include h

theorem order_inProcess : (queue.inProcess scheduler' executions').order = queue.order := by
  rw [MergeQueue.order, MergeQueue.order, inProcess, h.dag]

theorem dependsOn_inProcess (t : String) :
    (queue.inProcess scheduler' executions').dependsOn t = queue.dependsOn t := by
  rw [dependsOn, dependsOn, inProcess, h.dag]

theorem checkIdentity_kept {metadata : TaskMetadata} {a b c : String} {integrated : List String}
    (hcheck : queue.checkIdentity project metadata a b c integrated = .ok ()) :
    (queue.inProcess scheduler' executions').checkIdentity project' metadata a b c integrated =
      .ok () := by
  simp only [checkIdentity, Raising.bind_eq_ok, Raising.raiseIf_eq_ok, commitParents_eq_ok,
    dependsOn_inProcess h] at hcheck ⊢
  obtain ⟨record, hrecord, _, hbranch, _, ⟨task, htask, hparents⟩, rest⟩ := hcheck
  exact ⟨record, h.records _ _ _ hrecord, (), hbranch, _, ⟨task, h.commit? htask, hparents⟩, rest⟩

theorem recoverAttempts_kept {metadata : TaskMetadata} {repair : Option RepairMetadata}
    {attempts : List MergeQueueAttempt}
    (hattempts : recoverAttempts merge queue project.git commit metadata repair = .ok attempts) :
    recoverAttempts merge (queue.inProcess scheduler' executions') project'.git commit metadata
      repair = .ok attempts := by
  cases repair with
  | none => exact hattempts
  | some repair =>
    obtain ⟨output, hmerge, ⟨marker, previous, decision, hobjects⟩, rfl⟩ :=
      recoverRepairedAttempt_eq_ok.1 hattempts
    exact recoverRepairedAttempt_eq_ok.2 ⟨output, hmerge,
      ⟨marker, previous, decision, h.repairObjects hobjects⟩, rfl⟩

/-- **A round of the loop goes through in a later process.** -/
theorem recoverCommit_kept
    (hround : recoverCommit merge project (queue, lastIndex) commit = .ok (queue', lastIndex')) :
    recoverCommit merge project' (queue.inProcess scheduler' executions', lastIndex) commit =
      .ok (queue'.inProcess scheduler' executions', lastIndex') := by
  simp only [recoverCommit, Raising.bind_eq_ok, Raising.pure_eq_ok, Prod.mk.injEq,
    order_inProcess h] at hround ⊢
  obtain ⟨_, hparents, metadata, hmetadata, _, hknown, _, hfresh, _, hlast, _, hparent, _, hidentity,
    repair, hrepair, attempts, hattempts, rfl, rfl⟩ := hround
  exact ⟨_, hparents, metadata, hmetadata, _, hknown, _, hfresh, _, hlast, _, hparent, (),
    checkIdentity_kept h hidentity, repair, hrepair, attempts, recoverAttempts_kept h hattempts,
    rfl, rfl⟩

end kept

/-- **A history is recovered the same in a later process.** -/
theorem recover_kept {scheduler' : DAGScheduler} {executions' : List Execution}
    (h : Continues project project' queue.scheduler scheduler' queue.executions executions')
    {commits : List GitCommit}
    (hrecover : commits.foldlM (recoverCommit merge project) (queue.start, -1) =
      .ok (queue', lastIndex)) :
    commits.foldlM (recoverCommit merge project')
        ((queue.inProcess scheduler' executions').start, -1) =
      .ok (queue'.inProcess scheduler' executions', lastIndex) := by
  refine Raising.foldlM_map (P := fun state : MergeQueue × ℤ => SameRun queue.start state.1)
    (fun state => (state.1.inProcess scheduler' executions', state.2)) ?_ (SameRun.refl _) hrecover
  rintro ⟨a, i⟩ c ⟨b, j⟩ hstate hround
  have hcontinues : Continues project project' a.scheduler scheduler' a.executions executions' := by
    rw [hstate.scheduler, hstate.executions]
    exact h
  exact ⟨hstate.trans (recoverCommit_sameRun hround), recoverCommit_kept hcontinues hround⟩

end MergeQueue

end DevFlow
