/-
# Workers on one run, in any order

Any number of workers call the lease store and the evidence store on the tasks
of one run, while the database clock moves on.  Every one of these transactions
locks the run row first, so they take effect one after the other; a Git mutation
holds that lock from its checks to the end of the mutation, and meanwhile only
time passes.

`Call.perform` is one such step, and a run of it is any interleaving.  The state
keeps, beside the database, which tokens were installed so far: `uuid4()` is
modelled as a draw outside of them.
-/

import DevFlow.Library.Fence
import DevFlow.Persistence.Evidence

namespace DevFlow

variable {X : Type}

/-- The database, its clock, the tokens that were installed with their tasks, and
the Git mutation that holds the row locks, if there is one. -/
structure LeaseWorld (X : Type) where
  db : Database X
  now : Timestamp
  installed : List (String × UUID)
  mutation : Option (String × UUID)

/-- A call of a worker, the end of a Git mutation, or something that happens by
itself: time passes, and other runs draw evidence ids. -/
inductive Call (X : Type)
  | acquire (token runId : UUID) (taskId ownerId : String) (dispatchId : UUID) (leaseSeconds : ℚ)
  | renew (runId : UUID) (taskId ownerId : String) (dispatchId runToken : UUID)
      (leaseSeconds : ℚ)
  | release (runId : UUID) (taskId ownerId : String) (dispatchId runToken : UUID)
  | append (runId : UUID) (evidenceKey : String) (kind : EvidenceKind) (payload : Payload X)
      (taskId stage : Option String) (sequence : Option ℤ) (runToken : Option UUID)
  | finalize (runId : UUID) (result : SingleTaskRunResult X) (runToken : Option UUID)
  | enterGitMutation (runId : UUID) (taskId : String) (dispatchId runToken : UUID)
  | exitGitMutation
  | tick (elapsed : ℕ)
  | otherRuns (ids : ℕ)

/-- The task that a call is about and the token that it carries. -/
def Call.carries : Call X → Option (String × UUID)
  | .renew _ taskId _ _ runToken _ => some (strip taskId, runToken)
  | .release _ taskId _ _ runToken => some (strip taskId, runToken)
  | .append _ _ _ _ (some taskId) _ _ (some runToken) => some (strip taskId, runToken)
  | .finalize _ result (some runToken) => some (result.taskId, runToken)
  | .enterGitMutation _ taskId _ runToken => some (strip taskId, runToken)
  | _ => none

/-- The task and the token that an acquire asks to install. -/
def Call.installs : Call X → Option (String × UUID)
  | .acquire token _ taskId _ _ _ => some (strip taskId, token)
  | _ => none

theorem Call.installs_of_carries {call : Call X} {p : String × UUID}
    (h : call.carries = some p) : call.installs = none := by
  cases call <;> first | rfl | simp [Call.carries] at h

/-- The task that an evidence append or a finalization without a token writes
for. -/
def Call.unfenced : Call X → Option String
  | .append _ _ _ _ (some taskId) _ _ none => some (strip taskId)
  | .finalize _ result none => some result.taskId
  | _ => none

/-- A committed transaction replaces the database, a raised error rolls back. -/
def LeaseWorld.commit (w : LeaseWorld X) (outcome : Except Failure (Database X)) :
    Except Failure Unit × LeaseWorld X :=
  match outcome with
  | .ok db => (.ok (), { w with db })
  | .error failure => (.error failure, w)

section Steps

variable [DecidableEq X]

/-- One step.  A transaction waits while a Git mutation holds the run row, and
`uuid4()` returns no token that was installed before. -/
def Call.perform (w : LeaseWorld X) : Call X → Option (Except Failure Unit × LeaseWorld X)
  | .acquire token runId taskId ownerId dispatchId leaseSeconds =>
    if w.mutation ≠ none ∨ token ∈ w.installed.map Prod.snd then none
    else match acquireTaskLease w.db w.now token runId taskId ownerId dispatchId leaseSeconds with
      | .ok (_, db) =>
        some (.ok (), { w with db, installed := (strip taskId, token) :: w.installed })
      | .error failure => some (.error failure, w)
  | .renew runId taskId ownerId dispatchId runToken leaseSeconds =>
    if w.mutation ≠ none then none
    else some (w.commit ((renewTaskLease w.db w.now runId taskId ownerId dispatchId runToken
      leaseSeconds).map Prod.snd))
  | .release runId taskId ownerId dispatchId runToken =>
    if w.mutation ≠ none then none
    else some (w.commit ((releaseTaskLease w.db w.now runId taskId ownerId dispatchId
      runToken).map Prod.snd))
  | .append runId evidenceKey kind payload taskId stage sequence runToken =>
    if w.mutation ≠ none then none
    else some (w.commit ((appendEvidence w.db w.now runId evidenceKey kind payload taskId stage
      sequence runToken).map Prod.snd))
  | .finalize runId result runToken =>
    if w.mutation ≠ none then none
    else some (w.commit (finalizeSingleTaskRun w.db w.now runId result runToken))
  | .enterGitMutation runId taskId dispatchId runToken =>
    if w.mutation ≠ none then none
    else match guardTaskGitMutation w.db w.now runId taskId dispatchId runToken with
      | .ok _ => some (.ok (), { w with mutation := some (strip taskId, runToken) })
      | .error failure => some (.error failure, w)
  | .exitGitMutation =>
    if w.mutation = none then none else some (.ok (), { w with mutation := none })
  | .tick elapsed => some (.ok (), { w with now := w.now + elapsed })
  | .otherRuns ids =>
    some (.ok (), { w with
      db := { w.db with evidenceSequence := w.db.evidenceSequence + ids } })

/-- The transition system. -/
def leaseStep (w : LeaseWorld X) (call : Call X) (answer : Except Failure Unit)
    (w' : LeaseWorld X) : Prop :=
  call.perform w = some (answer, w')

end Steps

/-- A run that was just created: no task has ever been leased. -/
def LeaseWorld.Initial (w : LeaseWorld X) : Prop :=
  (∀ taskId, w.db.lease taskId = none) ∧ w.installed = [] ∧ w.mutation = none

/-- A run of the given tasks, created at time `now`. -/
def LeaseWorld.created (X : Type) (runId : UUID) (taskIds : List String) (now : Timestamp) :
    LeaseWorld X where
  db := Database.created X runId taskIds
  now := now
  installed := []
  mutation := none

theorem LeaseWorld.created_initial (X : Type) (runId : UUID) (taskIds : List String)
    (now : Timestamp) : (LeaseWorld.created X runId taskIds now).Initial :=
  ⟨fun _ => rfl, rfl, rfl⟩

/-- The lease of the task, live. -/
def LeaseWorld.LiveLease (w : LeaseWorld X) (taskId : String) (lease : Lease) : Prop :=
  w.db.lease taskId = some lease ∧ lease.Live w.now

/-- What a step does to one task: it installs a generation, it is an accepted
write under the live token of that task, or it leaves the lease of that task as
it is and is no accepted write under a token of it. -/
inductive TaskEffect (t : String) (w : LeaseWorld X) (call : Call X)
    (answer : Except Failure Unit) (w' : LeaseWorld X) : Prop
  | acquired (lease : Lease) (answered : answer = .ok ())
      (installs : call.installs = some (t, lease.runToken))
      (free : ∀ old, w.db.lease t = some old → ¬old.Live w.now)
      (fresh : lease.runToken ∉ w.installed.map Prod.snd)
      (generation : lease.generation = w.db.generation t + 1)
      (row : w'.db.lease t = some lease) (live : lease.Live w'.now)
      (installed : w'.installed = (t, lease.runToken) :: w.installed)
  | used (lease lease' : Lease) (answered : answer = .ok ())
      (carries : call.carries = some (t, lease.runToken)) (before : w.LiveLease t lease)
      (row : w'.db.lease t = some lease') (token : lease'.runToken = lease.runToken)
      (generation : lease'.generation = lease.generation) (installed : w'.installed = w.installed)
  | untouched (row : w'.db.lease t = w.db.lease t)
      (installed : ∀ τ, (t, τ) ∈ w'.installed ↔ (t, τ) ∈ w.installed) (clock : w.now ≤ w'.now)
      (quiet : answer = .ok () → ∀ τ, call.installs ≠ some (t, τ))
      (silent : answer = .ok () → w' ≠ w → ∀ τ, call.carries ≠ some (t, τ))

/-- A step that did nothing. -/
theorem TaskEffect.refl (t : String) (w : LeaseWorld X) {call : Call X}
    {answer : Except Failure Unit} (quiet : answer = .ok () → call.installs = none) :
    TaskEffect t w call answer w :=
  .untouched rfl (fun _ => Iff.rfl) le_rfl (fun hok τ => by simp [quiet hok])
    fun _ h => absurd rfl h

/-- A write of one lease row and the timeline, seen from any task. -/
theorem TaskEffect.of_setLease {t taskId : String} {w : LeaseWorld X} {call : Call X}
    {lease lease' : Lease} {timeline : Timeline X}
    (carries : call.carries = some (taskId, lease.runToken)) (before : w.LiveLease taskId lease)
    (token : lease'.runToken = lease.runToken) (generation : lease'.generation = lease.generation) :
    TaskEffect t w call (.ok ())
      { w with db := { w.db.setLease taskId lease' with timeline } } := by
  by_cases ht : t = taskId
  · subst ht
    exact .used lease lease' rfl carries before (by simp) token generation rfl
  · refine .untouched (w.db.setLease_lease_of_ne lease' ht) (fun _ => Iff.rfl) le_rfl
      (fun _ τ => by simp [Call.installs_of_carries carries]) ?_
    intro _ _ τ hτ
    rw [carries] at hτ
    exact ht (congrArg Prod.fst (Option.some.inj hτ)).symm

/-- A fenced write that leaves the leases alone, seen from any task. -/
theorem TaskEffect.of_fenced {t : String} {w w' : LeaseWorld X} {call : Call X}
    (row : w'.db.lease = w.db.lease) (installed : w'.installed = w.installed)
    (clock : w'.now = w.now) (quiet : call.installs = none)
    (fenced : ∀ τ, call.carries = some (t, τ) → ∃ lease, w.LiveLease t lease ∧ lease.runToken = τ) :
    TaskEffect t w call (.ok ()) w' := by
  by_cases hcarries : ∃ τ, call.carries = some (t, τ)
  · obtain ⟨τ, hτ⟩ := hcarries
    obtain ⟨lease, hlive, rfl⟩ := fenced τ hτ
    exact .used lease lease rfl hτ hlive (by rw [row]; exact hlive.1) rfl rfl installed
  · exact .untouched (by rw [row]) (fun τ => by rw [installed]) clock.ge
      (fun _ τ => by simp [quiet]) fun _ _ τ hτ => hcarries ⟨τ, hτ⟩

/-- A committed transaction changed the database, or nothing. -/
theorem LeaseWorld.commit_eq {w w' : LeaseWorld X} {outcome : Except Failure (Database X)}
    {answer : Except Failure Unit} (h : w.commit outcome = (answer, w')) :
    (∃ db, outcome = .ok db ∧ answer = .ok () ∧ w' = { w with db }) ∨ w' = w := by
  cases outcome with
  | ok db =>
    obtain ⟨rfl, rfl⟩ := Prod.mk.inj h
    exact Or.inl ⟨db, rfl, rfl, rfl⟩
  | error failure => exact Or.inr (Prod.mk.inj h).2.symm

/-- A transaction that returned was committed. -/
theorem LeaseWorld.commit_ok {w w' : LeaseWorld X} {outcome : Except Failure (Database X)}
    (h : w.commit outcome = (.ok (), w')) : ∃ db, outcome = .ok db ∧ w' = { w with db } := by
  cases outcome with
  | ok db => exact ⟨db, rfl, (Prod.mk.inj h).2.symm⟩
  | error failure => cases (Prod.mk.inj h).1

variable [DecidableEq X]
variable {w w' : LeaseWorld X} {db' : Database X} {answer : Except Failure Unit}
variable {token runId dispatchId runToken : UUID} {taskId ownerId : String} {leaseSeconds : ℚ}

theorem acquire_effect {grant : TaskLeaseGrant} (t : String)
    (hfresh : token ∉ w.installed.map Prod.snd)
    (hok : acquireTaskLease w.db w.now token runId taskId ownerId dispatchId leaseSeconds =
      .ok (grant, db')) :
    TaskEffect t w (.acquire token runId taskId ownerId dispatchId leaseSeconds) (.ok ())
      { w with db := db', installed := (strip taskId, token) :: w.installed } := by
  obtain ⟨lease, timeline, hacq, -, -, rfl⟩ := acquireTaskLease_eq_ok hok
  by_cases ht : t = strip taskId
  · subst ht
    refine .acquired lease rfl (by simp [Call.installs, hacq.runToken]) (fun old hold hlive => ?_) (hacq.runToken ▸ hfresh)
      hacq.generation (by simp) ⟨hacq.unreleased, hacq.deadline⟩ (by simp [hacq.runToken])
    exact absurd hlive.2 (not_lt.2 (hacq.vacant old hold).2.1)
  · refine .untouched (w.db.setLease_lease_of_ne lease ht) (fun τ => by simp [ht]) le_rfl ?_ ?_
    · intro _ τ hτ
      exact ht (congrArg Prod.fst (Option.some.inj hτ)).symm
    · intro _ _ τ hτ
      simp [Call.carries] at hτ

theorem renew_effect {shown : TaskLeaseSnapshot} (t : String)
    (hok : renewTaskLease w.db w.now runId taskId ownerId dispatchId runToken leaseSeconds =
      .ok (shown, db')) :
    TaskEffect t w (.renew runId taskId ownerId dispatchId runToken leaseSeconds) (.ok ())
      { w with db := db' } := by
  obtain ⟨lease, until', timeline, hlease, rfl, _, hlive, _, rfl⟩ := renewTaskLease_eq_ok hok
  exact .of_setLease rfl ⟨hlease, hlive⟩ rfl rfl

theorem release_effect {shown : TaskLeaseSnapshot} (t : String)
    (hok : releaseTaskLease w.db w.now runId taskId ownerId dispatchId runToken =
      .ok (shown, db')) :
    TaskEffect t w (.release runId taskId ownerId dispatchId runToken) (.ok ())
      { w with db := db' } := by
  obtain ⟨lease, hlease, rfl, _, ⟨_, rfl⟩ | ⟨hlive, timeline, rfl⟩⟩ := releaseTaskLease_eq_ok hok
  · exact .refl t w fun _ => rfl
  · exact .of_setLease rfl ⟨hlease, hlive⟩ rfl rfl

omit [DecidableEq X] in
/-- An admitted token is the live one. -/
theorem LeaseWorld.live_of_admits {t : String} {τ : UUID}
    (h : Admits (w.db.lease t) (some τ) w.now) : ∃ lease, w.LiveLease t lease ∧ lease.runToken = τ := by
  rcases h with ⟨_, hnone⟩ | ⟨lease, hlease, htoken, hlive⟩
  · cases hnone
  · exact ⟨lease, ⟨hlease, hlive⟩, (Option.some.inj htoken).symm⟩

theorem append_effect {evidenceKey : String} {kind : EvidenceKind} {payload : Payload X}
    {taskId stage : Option String} {sequence : Option ℤ} {runToken : Option UUID} {id : ℕ}
    (t : String)
    (hok : appendEvidence w.db w.now runId evidenceKey kind payload taskId stage sequence
      runToken = .ok (id, db')) :
    TaskEffect t w (.append runId evidenceKey kind payload taskId stage sequence runToken)
      (.ok ()) { w with db := db' } := by
  obtain ⟨_, _, hadmits, happended⟩ := appendEvidence_eq_ok hok
  have hrow : db'.lease = w.db.lease := by
    rcases happended with ⟨_, _, _, _, _, rfl⟩ | ⟨_, _, _, rfl⟩ <;> rfl
  refine .of_fenced hrow rfl rfl rfl fun τ hτ => ?_
  cases taskId with
  | none => simp [Call.carries] at hτ
  | some name =>
    cases runToken with
    | none => simp [Call.carries] at hτ
    | some runToken =>
      obtain ⟨rfl, rfl⟩ := Prod.mk.inj (Option.some.inj hτ)
      exact LeaseWorld.live_of_admits (hadmits name rfl)

theorem finalize_effect {result : SingleTaskRunResult X} {runToken : Option UUID} (t : String)
    (hok : finalizeSingleTaskRun w.db w.now runId result runToken = .ok db') :
    TaskEffect t w (.finalize runId result runToken) (.ok ()) { w with db := db' } := by
  obtain ⟨_, hadmits, hdb⟩ := finalizeSingleTaskRun_eq_ok hok
  have hrow : db'.lease = w.db.lease := by
    rcases hdb with ⟨_, rfl⟩ | ⟨_, _, _, _, rfl⟩ <;> rfl
  refine .of_fenced hrow rfl rfl rfl fun τ hτ => ?_
  cases runToken with
  | none => simp [Call.carries] at hτ
  | some runToken =>
    obtain ⟨rfl, rfl⟩ := Prod.mk.inj (Option.some.inj hτ)
    exact LeaseWorld.live_of_admits hadmits

omit [DecidableEq X] in
theorem enterGitMutation_effect {shown : TaskLeaseSnapshot} (t : String)
    (hok : guardTaskGitMutation w.db w.now runId taskId dispatchId runToken = .ok shown) :
    TaskEffect t w (.enterGitMutation runId taskId dispatchId runToken) (.ok ())
      { w with mutation := some (strip taskId, runToken) } := by
  obtain ⟨_, lease, hlease, htoken, _, hlive⟩ := guardTaskGitMutation_eq_ok hok
  refine .of_fenced rfl rfl rfl rfl fun τ hτ => ?_
  obtain ⟨rfl, rfl⟩ := Prod.mk.inj (Option.some.inj hτ)
  exact ⟨lease, ⟨hlease, hlive⟩, htoken⟩

/-- **Every step has one of the three effects on every task.** -/
theorem leaseStep_effect {call : Call X} (h : leaseStep w call answer w') (t : String) :
    TaskEffect t w call answer w' := by
  unfold leaseStep at h
  cases call with
  | acquire token runId taskId ownerId dispatchId leaseSeconds =>
    simp only [Call.perform] at h
    split_ifs at h with hblocked
    split at h
    · rename_i grant db hok
      obtain ⟨rfl, rfl⟩ := Prod.mk.inj (Option.some.inj h)
      exact acquire_effect t (not_or.1 hblocked).2 hok
    · obtain ⟨rfl, rfl⟩ := Prod.mk.inj (Option.some.inj h)
      exact .refl t w fun hok => by cases hok
  | renew runId taskId ownerId dispatchId runToken leaseSeconds =>
    simp only [Call.perform] at h
    split_ifs at h
    obtain ⟨db, hok, rfl, rfl⟩ | rfl := LeaseWorld.commit_eq (Option.some.inj h)
    · obtain ⟨shown, hok⟩ := Raising.map_snd_eq_ok.1 hok
      exact renew_effect t hok
    · exact .refl t _ fun _ => rfl
  | release runId taskId ownerId dispatchId runToken =>
    simp only [Call.perform] at h
    split_ifs at h
    obtain ⟨db, hok, rfl, rfl⟩ | rfl := LeaseWorld.commit_eq (Option.some.inj h)
    · obtain ⟨shown, hok⟩ := Raising.map_snd_eq_ok.1 hok
      exact release_effect t hok
    · exact .refl t _ fun _ => rfl
  | append runId evidenceKey kind payload taskId stage sequence runToken =>
    simp only [Call.perform] at h
    split_ifs at h
    obtain ⟨db, hok, rfl, rfl⟩ | rfl := LeaseWorld.commit_eq (Option.some.inj h)
    · obtain ⟨id, hok⟩ := Raising.map_snd_eq_ok.1 hok
      exact append_effect t hok
    · exact .refl t _ fun _ => rfl
  | finalize runId result runToken =>
    simp only [Call.perform] at h
    split_ifs at h
    obtain ⟨db, hok, rfl, rfl⟩ | rfl := LeaseWorld.commit_eq (Option.some.inj h)
    · exact finalize_effect t hok
    · exact .refl t _ fun _ => rfl
  | enterGitMutation runId taskId dispatchId runToken =>
    simp only [Call.perform] at h
    split_ifs at h
    split at h
    · rename_i shown hok
      obtain ⟨rfl, rfl⟩ := Prod.mk.inj (Option.some.inj h)
      exact enterGitMutation_effect t hok
    · obtain ⟨rfl, rfl⟩ := Prod.mk.inj (Option.some.inj h)
      exact .refl t w fun hok => by cases hok
  | exitGitMutation =>
    simp only [Call.perform] at h
    split_ifs at h
    obtain ⟨rfl, rfl⟩ := Prod.mk.inj (Option.some.inj h)
    exact .untouched rfl (fun _ => Iff.rfl) le_rfl (fun _ _ => by simp [Call.installs])
      fun _ _ _ => by simp [Call.carries]
  | tick elapsed =>
    obtain ⟨rfl, rfl⟩ := Prod.mk.inj (Option.some.inj h)
    exact .untouched rfl (fun _ => Iff.rfl) (by simp) (fun _ _ => by simp [Call.installs])
      fun _ _ _ => by simp [Call.carries]
  | otherRuns ids =>
    obtain ⟨rfl, rfl⟩ := Prod.mk.inj (Option.some.inj h)
    exact .untouched rfl (fun _ => Iff.rfl) le_rfl (fun _ _ => by simp [Call.installs])
      fun _ _ _ => by simp [Call.carries]

/-- One step of a run, with the states around it. -/
abbrev LeaseEvent (X : Type) := Runs.Event (LeaseWorld X) (Call X) (Except Failure Unit)

omit [DecidableEq X] in
/-- The event is an acquire that returned, and installed `τ` on the task. -/
def Installs (e : LeaseEvent X) (t : String) (τ : UUID) : Prop :=
  e.output = .ok () ∧ e.input.installs = some (t, τ)

omit [DecidableEq X] in
/-- The event is an accepted operation that changed the state and carried the
token `τ` for the task. -/
def Writes (e : LeaseEvent X) (t : String) (τ : UUID) : Prop :=
  e.output = .ok () ∧ e.after ≠ e.before ∧ e.input.carries = some (t, τ)

omit [DecidableEq X] in
/-- The fence of one task: its generation and token, alive while the lease is,
and the tokens of its earlier generations. -/
def LeaseWorld.register (t : String) (w : LeaseWorld X) : Fence.Register UUID where
  generation := w.db.generation t
  holder := (w.db.lease t).map Lease.runToken
  alive := ∃ lease, w.LiveLease t lease
  retired := { τ | (t, τ) ∈ w.installed ∧ (w.db.lease t).map Lease.runToken ≠ some τ }

omit [DecidableEq X] in
open Classical in
/-- What an event is to the fence of one task. -/
noncomputable def fenceAction (t : String) (e : LeaseEvent X) : Fence.Action UUID :=
  if h : ∃ τ, Installs e t τ then .take h.choose
  else if h : ∃ τ, Writes e t τ then .use h.choose
  else .other

omit [DecidableEq X] in
theorem fenceAction_of_installs {e : LeaseEvent X} {t : String} {τ : UUID}
    (h : Installs e t τ) : fenceAction t e = .take τ := by
  have hex : ∃ τ, Installs e t τ := ⟨τ, h⟩
  have heq : hex.choose = τ := by
    simpa [h.2] using hex.choose_spec.2.symm
  simp [fenceAction, hex, heq]

omit [DecidableEq X] in
theorem fenceAction_of_writes {e : LeaseEvent X} {t : String} {τ : UUID}
    (h : Writes e t τ) : fenceAction t e = .use τ := by
  have hnot : ¬∃ τ, Installs e t τ := by
    rintro ⟨τ', -, hinst⟩
    simp [Call.installs_of_carries h.2.2] at hinst
  have hex : ∃ τ, Writes e t τ := ⟨τ, h⟩
  have heq : hex.choose = τ := by
    simpa [h.2.2] using hex.choose_spec.2.2.symm
  simp only [fenceAction, hnot, hex, heq, dite_false, dite_true]

omit [DecidableEq X] in
theorem fenceAction_of_not {e : LeaseEvent X} {t : String} (hinst : ∀ τ, ¬Installs e t τ)
    (hwrite : ∀ τ, ¬Writes e t τ) : fenceAction t e = .other := by
  simp [fenceAction, hinst, hwrite]

omit [DecidableEq X] in
/-- Every current token is among the installed ones. -/
def LeaseWorld.Recorded (t : String) (w : LeaseWorld X) : Prop :=
  ∀ lease, w.db.lease t = some lease → (t, lease.runToken) ∈ w.installed

theorem recorded_step {call : Call X} (t : String) (hw : w.Recorded t)
    (h : leaseStep w call answer w') : w'.Recorded t := by
  intro lease hlease
  cases leaseStep_effect h t with
  | acquired new _ _ _ _ _ row _ installed =>
    obtain rfl := Option.some.inj (row.symm.trans hlease)
    simp [installed]
  | used old new _ _ before row token _ installed =>
    obtain rfl := Option.some.inj (row.symm.trans hlease)
    rw [installed, token]
    exact hw old before.1
  | untouched row installed =>
    exact (installed _).2 (hw lease (row ▸ hlease))

/-- **The lease store is a fence.**  Each step of the workers is a step of the
register of every task. -/
theorem leaseStep_simulates {call : Call X} (t : String) (hw : w.Recorded t)
    (h : leaseStep w call answer w') :
    Fence.step (w.register t) (fenceAction t ⟨w, call, answer, w'⟩) () (w'.register t) := by
  cases leaseStep_effect h t with
  | acquired new answered installs free fresh generation row live installed =>
    rw [fenceAction_of_installs (τ := new.runToken) ⟨answered, installs⟩]
    have hfresh : (t, new.runToken) ∉ w.installed := fun hmem =>
      fresh (List.mem_map_of_mem (f := Prod.snd) hmem)
    refine .take _ ?_ ?_ (fun hmem => hfresh hmem.1) ?_ ?_ ?_
    · rintro ⟨old, hold, hlive⟩
      exact free old hold hlive
    · intro hholder
      obtain ⟨old, hold, htoken⟩ := Option.map_eq_some_iff.1 hholder
      exact hfresh (htoken ▸ hw old hold)
    · simp [LeaseWorld.register, Database.generation, row, generation]
    · simp [LeaseWorld.register, row]
    · intro τ
      have hcurrent : (w.db.lease t).map Lease.runToken = some τ → (t, τ) ∈ w.installed := by
        intro hholder
        obtain ⟨old, hold, rfl⟩ := Option.map_eq_some_iff.1 hholder
        exact hw old hold
      have hne : (t, τ) ∈ w.installed → new.runToken ≠ τ := by
        rintro hmem rfl
        exact hfresh hmem
      simp only [LeaseWorld.register, row, installed, Set.mem_ofPred_eq, List.mem_cons,
        Option.map_some, Prod.mk.injEq, true_and]
      grind
  | used old new answered carries before row token generation installed =>
    have hgeneration : (w'.register t).generation = (w.register t).generation := by
      simp [LeaseWorld.register, Database.generation, row, before.1, generation]
    have hholder : (w'.register t).holder = (w.register t).holder := by
      simp [LeaseWorld.register, row, before.1, token]
    have hretired : (w'.register t).retired = (w.register t).retired := by
      simp [LeaseWorld.register, row, before.1, token, installed]
    by_cases hchanged : w' = w
    · rw [fenceAction_of_not]
      · exact .other hgeneration hholder hretired (by rw [hchanged]; exact id)
      · rintro τ ⟨-, hinst⟩
        simp [Call.installs_of_carries carries] at hinst
      · rintro τ ⟨-, hne, -⟩
        exact hne hchanged
    · rw [fenceAction_of_writes (τ := old.runToken) ⟨answered, hchanged, carries⟩]
      exact .use _ (by simp [LeaseWorld.register, before.1]) ⟨old, before⟩ hgeneration hholder
        hretired
  | untouched row installed clock quiet silent =>
    rw [fenceAction_of_not]
    · refine .other ?_ ?_ ?_ ?_
      · simp [LeaseWorld.register, Database.generation, row]
      · simp [LeaseWorld.register, row]
      · simp [LeaseWorld.register, row, installed]
      · rintro ⟨lease, hlease, hlive⟩
        exact ⟨lease, row ▸ hlease, hlive.1, clock.trans_lt hlive.2⟩
    · rintro τ ⟨hok, hinst⟩
      exact quiet hok τ hinst
    · rintro τ ⟨hok, hne, hcarries⟩
      exact silent hok hne τ hcarries


variable {es : List (LeaseEvent X)} {t : String}

omit [DecidableEq X] in
theorem LeaseWorld.Initial.recorded (h : w.Initial) (t : String) : w.Recorded t := by
  intro lease hlease
  simp [h.1 t] at hlease

omit [DecidableEq X] in
theorem LeaseWorld.register_clean (t : String) (w : LeaseWorld X) : Fence.Clean (w.register t) :=
  fun _ hholder hmem => hmem.2 hholder

/-- The run of the fence of one task under a run of the workers. -/
theorem run_register (h : Runs.Run leaseStep w es w') (hw : w.Recorded t) :
    Runs.Run Fence.step (w.register t)
      (es.map fun e => ⟨e.before.register t, fenceAction t e, (), e.after.register t⟩)
      (w'.register t) :=
  h.map (I := LeaseWorld.Recorded t) (LeaseWorld.register t) (fenceAction t) (fun _ => ())
    (fun _ _ _ _ => recorded_step t) (fun _ _ _ _ => leaseStep_simulates t) hw

/-- A returned acquire installs the next generation, under a token that was never
installed before. -/
theorem installs_spec {e : LeaseEvent X} {τ : UUID}
    (hstep : leaseStep e.before e.input e.output e.after) (h : Installs e t τ) :
    e.after.db.generation t = e.before.db.generation t + 1 ∧
      (∃ lease, e.after.LiveLease t lease ∧ lease.runToken = τ) ∧
      τ ∉ e.before.installed.map Prod.snd ∧ (t, τ) ∈ e.after.installed := by
  cases leaseStep_effect hstep t with
  | acquired new answered installs free fresh generation row live installed =>
    obtain rfl : new.runToken = τ := by simpa [h.2] using installs.symm
    refine ⟨?_, ⟨new, ⟨row, live⟩, rfl⟩, fresh, by simp [installed]⟩
    simp [Database.generation, row, generation]
  | used old new answered carries =>
    have := h.2
    simp [Call.installs_of_carries carries] at this
  | untouched row installed clock quiet => exact absurd h.2 (quiet h.1 τ)

/-- An accepted write carries the token of the live lease. -/
theorem writes_spec {e : LeaseEvent X} {τ : UUID}
    (hstep : leaseStep e.before e.input e.output e.after) (h : Writes e t τ) :
    ∃ lease, e.before.LiveLease t lease ∧ lease.runToken = τ ∧
      lease.generation = e.after.db.generation t := by
  cases leaseStep_effect hstep t with
  | acquired new answered installs =>
    have := Call.installs_of_carries h.2.2
    simp [this] at installs
  | used old new answered carries before row token generation =>
    obtain rfl : old.runToken = τ := by simpa [h.2.2] using carries.symm
    exact ⟨old, before, rfl, by simp [Database.generation, row, generation]⟩
  | untouched row installed clock quiet silent => exact absurd h.2.2 (silent h.1 h.2.1 τ)

/-- A write without a token is accepted only on a task that was never leased. -/
theorem unfenced_spec {e : LeaseEvent X}
    (hstep : leaseStep e.before e.input e.output e.after) (hok : e.output = .ok ())
    (h : e.input.unfenced = some t) : e.before.db.generation t = 0 := by
  have hnone : e.before.db.lease t = none := by
    obtain ⟨w, call, answer, w'⟩ := e
    simp only at hstep hok h
    subst hok
    unfold leaseStep at hstep
    cases call with
    | append runId evidenceKey kind payload taskId stage sequence runToken =>
      match taskId, runToken, h with
      | some name, none, h =>
        obtain rfl := Option.some.inj h
        simp only [Call.perform] at hstep
        split_ifs at hstep
        obtain ⟨db, hrun, -⟩ := LeaseWorld.commit_ok (Option.some.inj hstep)
        obtain ⟨id, hrun⟩ := Raising.map_snd_eq_ok.1 hrun
        rcases (appendEvidence_eq_ok hrun).2.2.1 name rfl with ⟨hnone, -⟩ | ⟨_, _, htoken, _⟩
        · exact hnone
        · cases htoken
    | finalize runId result runToken =>
      match runToken, h with
      | none, h =>
        obtain rfl := Option.some.inj h
        simp only [Call.perform] at hstep
        split_ifs at hstep
        obtain ⟨db, hrun, -⟩ := LeaseWorld.commit_ok (Option.some.inj hstep)
        rcases (finalizeSingleTaskRun_eq_ok hrun).2.1 with ⟨hnone, -⟩ | ⟨_, _, htoken, _⟩
        · exact hnone
        · cases htoken
    | _ => simp [Call.unfenced] at h
  simp [Database.generation, hnone]

/-- **A token that was installed and whose lease is no longer live is refused in
every continuation.** -/
theorem dead_token_refused {τ : UUID} (h : Runs.Run leaseStep w es w') (hw : w.Recorded t)
    (hinstalled : (t, τ) ∈ w.installed)
    (hdead : ¬∃ lease, w.LiveLease t lease ∧ lease.runToken = τ) :
    ∀ e ∈ es, ¬Writes e t τ := by
  intro e he hwrite
  have hτ : Fence.Dead (w.register t) τ := by
    by_cases hholder : (w.db.lease t).map Lease.runToken = some τ
    · refine Or.inr ⟨hholder, ?_⟩
      rintro ⟨lease, hlive⟩
      exact hdead ⟨lease, hlive, by simpa [hlive.1] using hholder⟩
    · exact Or.inl ⟨hinstalled, hholder⟩
  have hrefused := Fence.run_dead_refused (run_register h hw) (w.register_clean t) hτ
  exact hrefused _ (List.mem_map_of_mem he) (fenceAction_of_writes hwrite)

/-- Installed tokens stay installed. -/
theorem installed_step {call : Call X} {τ : UUID} (hmem : (t, τ) ∈ w.installed)
    (h : leaseStep w call answer w') : (t, τ) ∈ w'.installed := by
  cases leaseStep_effect h t with
  | acquired new _ _ _ _ _ _ _ installed => simp [installed, hmem]
  | used _ _ _ _ _ _ _ _ installed => rwa [installed]
  | untouched _ installed => exact (installed τ).2 hmem

/-- **Lease fencing is monotone.**  In every interleaving of the workers' calls
on a run, for every task: a returned acquire raises the generation by one under
a token that no other acquire installs; an accepted write carries the token of
the generation that is current, unreleased and unexpired then, and without a
token it is accepted only before the first lease; accepted operations come in
the order of their generations; and a token whose generation was released, has
expired or was superseded is never accepted again. -/
theorem lease_fencing_monotone {w₀ : LeaseWorld X} (h₀ : w₀.Initial)
    (h : Runs.Run leaseStep w₀ es w) (t : String) :
    (∀ e ∈ es, ∀ τ, Installs e t τ →
      e.after.db.generation t = e.before.db.generation t + 1 ∧
        ∃ lease, e.after.LiveLease t lease ∧ lease.runToken = τ) ∧
    (es.Pairwise fun e e' => ∀ τ, Installs e t τ → ¬Installs e' t τ) ∧
    (∀ e ∈ es, ∀ τ, Writes e t τ → ∃ lease, e.before.LiveLease t lease ∧ lease.runToken = τ ∧
      lease.generation = e.after.db.generation t) ∧
    (∀ e ∈ es, e.output = .ok () → e.input.unfenced = some t → e.before.db.generation t = 0) ∧
    (es.Pairwise fun e e' => ∀ τ τ', Installs e t τ ∨ Writes e t τ →
      Installs e' t τ' ∨ Writes e' t τ' → e.after.db.generation t ≤ e'.after.db.generation t) ∧
    (∀ es₁ es₂ u, es = es₁ ++ es₂ → Runs.Run leaseStep w₀ es₁ u → Runs.Run leaseStep u es₂ w →
      ∀ τ, (∃ e ∈ es₁, Installs e t τ) → (¬∃ lease, u.LiveLease t lease ∧ lease.runToken = τ) →
        ∀ e ∈ es₂, ¬Writes e t τ) := by
  have hsteps := h.event_step
  refine ⟨fun e he τ hinst => ?_, ?_, fun e he τ => writes_spec (hsteps e he),
    fun e he => unfenced_spec (hsteps e he), ?_, ?_⟩
  · obtain ⟨hgeneration, hlease, -⟩ := installs_spec (hsteps e he) hinst
    exact ⟨hgeneration, hlease⟩
  · refine h.pairwise (I := fun _ => True) (Q := fun e s => ∀ τ, Installs e t τ → (t, τ) ∈ s.installed)
      (fun _ _ _ _ _ _ => trivial) ?_ ?_ ?_ trivial
    · intro s i o u _ hstep τ hinst
      exact (installs_spec (e := ⟨s, i, o, u⟩) hstep hinst).2.2.2
    · intro e s i o u _ hQ hstep τ hinst
      exact installed_step (hQ τ hinst) hstep
    · intro e s i o u _ hQ hstep τ hinst hinst'
      have hfresh := (installs_spec (e := ⟨s, i, o, u⟩) hstep hinst').2.2.1
      exact hfresh (List.mem_map_of_mem (f := Prod.snd) (hQ τ hinst))
  · have hmono := Fence.run_generation_mono (run_register h (h₀.recorded t))
    rw [List.pairwise_map] at hmono
    exact hmono.imp fun hle _ _ _ _ => hle
  · rintro es₁ es₂ u - h₁ h₂ τ ⟨e, he, hinst⟩ hdead
    have hu : u.Recorded t := h₁.invariant (fun _ _ _ _ => recorded_step t) (h₀.recorded t)
    refine dead_token_refused h₂ hu ?_ hdead
    obtain ⟨es₃, es₄, rfl⟩ := List.append_of_mem he
    obtain ⟨v, -, h₄⟩ := h₁.split
    cases h₄ with
    | cons hstep hrun =>
      exact hrun.invariant (I := fun s => (t, τ) ∈ s.installed)
        (fun _ _ _ _ hmem hst => installed_step hmem hst)
        (installs_spec hstep hinst).2.2.2

/-- A worker acquires and dies, its lease expires, and a second delivery takes
the task over and renews. -/
def takeoverCalls : List (Call Unit) :=
  [.acquire ⟨101⟩ ⟨1⟩ "build" "worker-a" ⟨11⟩ 30, .tick 40000000,
    .acquire ⟨102⟩ ⟨1⟩ "build" "worker-b" ⟨12⟩ 30, .renew ⟨1⟩ "build" "worker-b" ⟨12⟩ ⟨102⟩ 30]

/-- The takeover is a run, it reaches generation 2, and fencing holds of it. -/
theorem lease_fencing_monotone_takeover :
    ∃ es w, Runs.Run leaseStep (LeaseWorld.created Unit ⟨1⟩ ["build"] 0) es w ∧
      w.db.generation "build" = 2 ∧
      (es.Pairwise fun e e' => ∀ τ τ', Installs e "build" τ ∨ Writes e "build" τ →
        Installs e' "build" τ' ∨ Writes e' "build" τ' →
          e.after.db.generation "build" ≤ e'.after.db.generation "build") := by
  have hgeneration : (Runs.exec Call.perform (LeaseWorld.created Unit ⟨1⟩ ["build"] 0)
      takeoverCalls).map (fun r => r.2.db.generation "build") = some 2 := by
    decide +kernel
  obtain ⟨⟨es, w⟩, hexec, hw⟩ := Option.map_eq_some_iff.1 hgeneration
  have hrun := Runs.run_of_exec hexec
  exact ⟨es, w, hrun, hw, (lease_fencing_monotone
    (LeaseWorld.created_initial Unit ⟨1⟩ ["build"] 0) hrun "build").2.2.2.2.1⟩

end DevFlow
