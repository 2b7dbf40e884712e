/-
# Every order of derivations

The steps of a project: a request that is stopped anywhere, a worker or another
writer of the rows of a run, objects that Git fetches and a HEAD that moves.  Each
request is executed once, write by write (`ApiCall.visits`): every state it goes
through keeps the invariant, and says of a run that it started which base and
which tasks it was given.  So does every other step (`productStep_inv`).
-/

import DevFlow.Api.ProductInvariant

namespace DevFlow

open QueuedTaskWorker (RowsOf RowOf WorkerCommits)

/-- A request, with what is answered to it and the ids that it draws. -/
inductive ApiCall
  | create (answers : LaunchAnswers) (planning : PlanningAnswers) (newSessionId newRunId : UUID)
  | retry (answers : LaunchAnswers) (runId newRunId : UUID)
  | resume (answers : LaunchAnswers) (runId newRunId : UUID)
  | continueSession (answers : LaunchAnswers) (mode : ContinuationMode)
      (sessionId newRunId : UUID)
  | recover (answers : LaunchAnswers) (seen : Liveness) (runId newSessionId newRunId : UUID)
  | refresh (sessionId : UUID)

/-- The program of a request. -/
def ApiCall.request : ApiCall → Request
  | .create answers planning newSessionId newRunId =>
    createRequirementRun answers planning newSessionId newRunId
  | .retry answers runId newRunId => retryRun answers runId newRunId
  | .resume answers runId newRunId => resumeRun answers runId newRunId
  | .continueSession answers mode sessionId newRunId =>
    continueDevelopmentSession answers mode sessionId newRunId
  | .recover answers seen runId newSessionId newRunId =>
    recoverInterruptedRun answers seen runId newSessionId newRunId
  | .refresh sessionId => refreshSession sessionId

/-- What happens in a project. -/
inductive ProductInput
  | call (call : ApiCall)
  | write (runId : UUID) (writer : RunWriter)
  | fetch
  | checkout

/-- What a writer of a run does to the objects of the repository and to the rows: a
worker commits, and the others take no row away. -/
def WriterGit (old new : List GitCommit) (runBase : String) (before after : WorkerState) :
    RunWriter → Prop
  | .worker _ calls _ answers queued envelope =>
    queued.task.taskId = envelope.message.taskId ∧ isTaskId envelope.message.taskId = true ∧
      WorkerCommits old new runBase calls.resolveBase answers
  | .other => old ⊆ new ∧ before.db.evidence ⊆ after.db.evidence

/-- One step of a project. -/
def productStep (w : ProductWorld) (input : ProductInput) (_ : Unit) (t : ProductWorld) : Prop :=
  match input with
  | .call call => t ∈ (call.request w).states
  | .write runId writer => ∃ run ∈ w.runs, run.runId = runId ∧ ∃ rows commits, Ordered commits ∧
      writerStep run.baseCommit run.rows writer () rows ∧
      WriterGit w.commits commits run.baseCommit run.rows rows writer ∧
      t = { (w.mapRun runId fun run => { run with rows }) with commits }
  | .fetch => ∃ commits, Ordered commits ∧ w.commits ⊆ commits ∧ t = { w with commits }
  | .checkout => ∃ head, t = { w with head }

/-- What a run that the request started was given. -/
def ApiCall.Launched (call : ApiCall) (w t : ProductWorld) (run : ProductRun) : Prop :=
  match call with
  | .resume _ runId _ => ∃ previous ∈ w.runs, previous.runId = runId ∧ ∃ checkpoint completed,
      resumableTaskCheckpoint previous.rows.db previous.baseCommit = .ok (some checkpoint) ∧
      completedTaskIds previous.rows.db = .ok completed ∧
      run.baseCommit = checkpoint.commitSha ∧ checkpoint.taskId ∉ completed ∧
      ∀ taskId ∈ run.dag.taskIds, taskId ∉ completed
  | .continueSession _ _ sessionId _ => ∃ session ∈ t.sessions, session.sessionId = sessionId ∧
      session.completedCommits.length ≤ 1 ∧
      run.baseCommit = session.completedCommits.headD session.baseCommit ∧
      ∀ taskId ∈ run.dag.taskIds, taskId ∉ session.completed
  | .recover _ _ runId _ _ => ∃ previous ∈ w.runs, previous.runId = runId ∧
      run.baseCommit = w.head ∧ ∀ taskId ∈ run.dag.taskIds, taskId ∉ succeededRows previous.rows.db
  | _ => True

/-- The commit that a retried or recovered run is based on, the synchronized one or the
HEAD, contains the checkpoints that the run resumes from. -/
def ApiCall.BaseContains (call : ApiCall) (w : ProductWorld) : Prop :=
  match call with
  | .retry answers runId _ => ∀ previous ∈ w.runs, previous.runId = runId →
      ∀ commit, answers.synchronize = .ok commit →
        ∀ c ∈ previous.dag.checkpointCommits, Contains w.commits commit c
  | .recover _ _ runId _ _ => ∀ previous ∈ w.runs, previous.runId = runId →
      (∀ node ∈ previous.dag.tasks, node.taskId ∉ succeededRows previous.rows.db →
        ∀ c, node.checkpointCommit = some c → Contains w.commits w.head c) ∧
      ∀ session ∈ w.sessions, previous.sessionId = some session.sessionId → ∀ plan,
        session.dag = some plan → ∀ c ∈ plan.checkpointCommits, Contains w.commits w.head c
  | _ => True

/-- What holds in every state of a request. -/
structure ApiCall.Visited (call : ApiCall) (g : Prop) (w t : ProductWorld) : Prop where
  inv : t.Inv g
  commits : t.commits = w.commits
  launched : ∀ run ∈ t.runs, run.runId ∉ w.runs.map ProductRun.runId → call.Launched w t run

/-! ### The transactions, one by one -/

section transactions

variable {C : ProductWorld → Prop} {w : ProductWorld} {α : Type}

theorem startRun_visits {answers : LaunchAnswers} {runId : UUID} {dag : TaskDAG}
    {baseCommit : String} {f : Unit → Durable.Prog ProductWorld Failure α} (hC : C w)
    (hf : ∀ normalized, dag.normalize = .ok normalized → runId ∉ w.runs.map ProductRun.runId →
      Durable.Visits C (f ())
        (w.addRun (ProductRun.started runId answers.now normalized baseCommit))) :
    Durable.Visits C (startRun answers runId dag baseCommit >>= f) w := by
  refine Durable.Visits.transact_bind hC fun _ t h => ?_
  simp only [Raising.bind_eq_ok, Raising.raiseIf_eq_ok, Raising.pure_eq_ok, Prod.mk.injEq] at h
  obtain ⟨_, -, normalized, hnormalized, _, hfresh, -, rfl⟩ := h
  exact hf normalized hnormalized hfresh

theorem createSession_visits {sessionId : UUID} {baseCommit : String}
    {f : Unit → Durable.Prog ProductWorld Failure α} (hC : C w)
    (hf : sessionId ∉ w.sessions.map DevelopmentSession.sessionId → Durable.Visits C (f ())
      { w with sessions := { sessionId, baseCommit } :: w.sessions }) :
    Durable.Visits C (createSession sessionId baseCommit >>= f) w := by
  refine Durable.Visits.transact_bind hC fun _ t h => ?_
  simp only [Raising.bind_eq_ok, Raising.raiseIf_eq_ok, Raising.pure_eq_ok, Prod.mk.injEq] at h
  obtain ⟨_, hfresh, -, rfl⟩ := h
  exact hf hfresh

theorem updateSession_visits {sessionId : UUID}
    {change : DevelopmentSession → DevelopmentSession}
    {f : Unit → Durable.Prog ProductWorld Failure α} (hC : C w)
    (hf : Durable.Visits C (f ()) (w.mapSession sessionId change)) :
    Durable.Visits C (updateSession sessionId change >>= f) w := by
  refine Durable.Visits.transact_bind hC fun _ t h => ?_
  simp only [Raising.bind_eq_ok, Raising.raiseIf_eq_ok, Raising.pure_eq_ok, Prod.mk.injEq] at h
  obtain ⟨_, -, -, rfl⟩ := h
  exact hf

theorem attachRun_visits {sessionId runId : UUID}
    {f : Unit → Durable.Prog ProductWorld Failure α} (hC : C w)
    (hf : sessionId ∈ w.sessions.map DevelopmentSession.sessionId →
      Durable.Visits C (f ()) (w.attach sessionId runId)) :
    Durable.Visits C (attachRun sessionId runId >>= f) w := by
  refine Durable.Visits.transact_bind hC fun _ t h => ?_
  simp only [Raising.bind_eq_ok, Raising.raiseIf_eq_ok, Raising.pure_eq_ok, Prod.mk.injEq,
    not_not] at h
  obtain ⟨_, hknown, -, rfl⟩ := h
  exact hf hknown

theorem captureRunProgress_visits {sessionId : UUID} {run : ProductRun}
    {f : Unit → Durable.Prog ProductWorld Failure α} (hC : C w)
    (hf : ∀ latest, latestExecutions run.rows.db = .ok latest → Durable.Visits C (f ())
      (w.mapSession sessionId fun session => session.captured run.runId latest)) :
    Durable.Visits C (captureRunProgress sessionId run >>= f) w := by
  rw [captureRunProgress, Durable.bind_assoc]
  exact Durable.Visits.lift_bind hC fun latest hlatest =>
    Durable.Visits.write_bind hC (hf latest hlatest)

end transactions

/-! ### The requests -/

section requests

variable {g : Prop} {w t : ProductWorld} {call : ApiCall}

namespace ApiCall.Visited

theorem start (h : w.Inv g) : call.Visited g w w :=
  ⟨h, rfl, fun _ hrun hnew => absurd (List.mem_map_of_mem hrun) hnew⟩

/-- A write to the sessions or the HEAD, before a run is started. -/
theorem of_runs (hinv : t.Inv g) (hcommits : t.commits = w.commits) (hruns : t.runs = w.runs) :
    call.Visited g w t :=
  ⟨hinv, hcommits, fun _ hrun hnew => absurd (List.mem_map_of_mem (hruns ▸ hrun)) hnew⟩

end ApiCall.Visited

/-- The contexts of a graph without any. -/
theorem PlannedDag.checkpointCommits_eq (plan : PlannedDag) : plan.dag.checkpointCommits = [] := by
  rw [TaskDAG.checkpointCommits, List.filterMap_eq_nil_iff]
  intro node hnode
  simp [TaskNode.checkpointCommit, plan.no_context node hnode]

/-- A run of a planned graph may be started anywhere. -/
theorem ProductWorld.Inv.addPlanned (h : w.Inv g) {plan : PlannedDag} {normalized : TaskDAG}
    (hnormalized : plan.dag.normalize = .ok normalized) {runId : UUID}
    (hfresh : runId ∉ w.runs.map ProductRun.runId) (now : Timestamp) (baseCommit : String) :
    (w.addRun (ProductRun.started runId now normalized baseCommit)).Inv g := by
  refine h.addRun (.started runId now normalized baseCommit) hfresh rfl rfl fun _ c hc => ?_
  have hnone := (TaskDAG.normalize_eq_ok hnormalized).2 hc
  rw [plan.checkpointCommits_eq] at hnone
  cases hnone

/-- A plan without contexts may be recorded anywhere. -/
theorem ProductWorld.Inv.plan (h : w.Inv g) (sessionId : UUID) (plan : PlannedDag) :
    (w.mapSession sessionId fun session => session.planned plan.dag).Inv g := by
  refine h.mapSession (fun _ => rfl) (fun _ => rfl) (fun _ => rfl)
    (fun session hsession hid package hpackage => ?_) fun _ found hfound => Or.inr ?_
  · rcases List.mem_append.1 hpackage with hold | hnew
    · exact hid ▸ h.recorded session hsession package hold
    · obtain ⟨taskId, -, rfl⟩ := List.mem_map.1 hnew
      exact ⟨fun hstate => (by cases hstate), fun c hc => (by cases hc)⟩
  · obtain rfl := Option.some.inj hfound
    exact plan.checkpointCommits_eq

/-- The state of a session is not part of the invariant. -/
theorem ProductWorld.Inv.setState (h : w.Inv g) (sessionId : UUID) (state : SessionState) :
    (w.mapSession sessionId fun session => { session with state }).Inv g :=
  h.mapSession (fun _ => rfl) (fun _ => rfl) (fun _ => rfl)
    (fun session hsession hid package hpackage => hid ▸ h.recorded session hsession package hpackage)
    fun _ _ hplan => Or.inl hplan

/-- The end of `create_requirement_run`. -/
theorem launchPlanned_visits {C : ProductWorld → Prop} {u : ProductWorld} (hu : u.Inv g)
    (hC : ∀ t : ProductWorld, t.Inv g → t.commits = u.commits → C t) (answers : LaunchAnswers)
    (sessionId : Option UUID) (runId : UUID) (plan : PlannedDag) (baseCommit : String) :
    Durable.Visits C (launchPlanned answers sessionId runId plan baseCommit) u := by
  unfold launchPlanned
  cases sessionId with
  | none =>
    refine startRun_visits (hC u hu rfl) fun normalized hnormalized hfresh => ?_
    have hstarted := hC _ (hu.addPlanned hnormalized hfresh answers.now baseCommit) rfl
    exact Durable.Visits.lift_bind hstarted fun _ _ => Durable.Visits.pure hstarted
  | some sessionId =>
    refine updateSession_visits (hC u hu rfl) ?_
    have hplan := hu.plan sessionId plan
    refine startRun_visits (hC _ hplan rfl) fun normalized hnormalized hfresh => ?_
    have hstarted := hplan.addPlanned hnormalized hfresh answers.now baseCommit
    refine attachRun_visits (hC _ hstarted rfl) fun hknown => ?_
    have hattached := hC _ (hstarted.attach hknown List.mem_cons_self rfl rfl ?_) rfl
    · exact Durable.Visits.lift_bind hattached fun _ _ => Durable.Visits.pure hattached
    · intro _ session hsession hid found hfound c hc
      rcases ProductWorld.mem_mapSession hsession with ⟨-, hother⟩ | ⟨old, -, -, rfl⟩
      · exact absurd hid hother
      · obtain rfl := Option.some.inj hfound
        rw [plan.checkpointCommits_eq] at hc
        cases hc

/-- What was launched stays what it is when a run is attached. -/
theorem ApiCall.Visited.attach {u : ProductWorld} {sessionId runId : UUID}
    (hu : call.Visited g w u) (hinv : (u.attach sessionId runId).Inv g) :
    call.Visited g w (u.attach sessionId runId) := by
  refine ⟨hinv, hu.commits, fun run hrun hnew => ?_⟩
  have hold : ∃ old ∈ u.runs, old.runId = run.runId ∧ old.baseCommit = run.baseCommit ∧
      old.dag = run.dag := by
    obtain ⟨old, hold, rfl⟩ := ProductWorld.mem_mapRun hrun
    refine ⟨old, hold, ?_⟩
    split_ifs
    · exact ⟨rfl, rfl, rfl⟩
    · exact ⟨rfl, rfl, rfl⟩
  obtain ⟨old, hold, hid, hbase, hdag⟩ := hold
  have hlaunched := hu.launched old hold (hid ▸ hnew)
  unfold ApiCall.Launched at hlaunched ⊢
  rw [← hbase, ← hdag]
  split at hlaunched
  · exact hlaunched
  · obtain ⟨session, hsession, hrest⟩ := hlaunched
    refine ⟨_, List.mem_map.2 ⟨session, hsession, rfl⟩, ?_⟩
    split_ifs
    · exact hrest
    · exact hrest
  · exact hlaunched
  · exact hlaunched

theorem createRequirementRun_visits (h : w.Inv g) (answers : LaunchAnswers)
    (planning : PlanningAnswers) (newSessionId newRunId : UUID) :
    Durable.Visits ((ApiCall.create answers planning newSessionId newRunId).Visited g w)
      (createRequirementRun answers planning newSessionId newRunId) w := by
  have hC : ∀ t : ProductWorld, t.Inv g → t.commits = w.commits →
      (ApiCall.create answers planning newSessionId newRunId).Visited g w t :=
    fun t hinv hcommits => ⟨hinv, hcommits, fun _ _ _ => trivial⟩
  refine Durable.Visits.lift_bind (hC w h rfl) fun commit _ => ?_
  refine Durable.Visits.lift_bind (hC w h rfl) fun _ _ => ?_
  cases planning.matched with
  | some plan =>
    exact Durable.Visits.lift_bind (hC w h rfl) fun _ _ =>
      launchPlanned_visits h hC answers none newRunId plan commit
  | none =>
    refine createSession_visits (hC w h rfl) fun hfresh => ?_
    have hcreated := h.addSession { sessionId := newSessionId, baseCommit := commit } hfresh
      (fun _ hpackage => by cases hpackage) rfl fun _ _ hplan => by cases hplan
    cases planning.planned with
    | error failure =>
      refine updateSession_visits (hC _ hcreated rfl) ?_
      exact Durable.Visits.lift (hC _ (hcreated.setState newSessionId _) rfl)
    | ok plan =>
      refine Durable.Visits.lift_bind (hC _ hcreated rfl) fun _ _ => ?_
      cases answers.budgetPlan plan.dag with
      | ok _ => exact launchPlanned_visits hcreated hC answers _ newRunId plan commit
      | error _ =>
        refine updateSession_visits (hC _ hcreated rfl) ?_
        have hpaused := hcreated.setState newSessionId .pausedPlanning
        cases planning.replanned with
        | error failure =>
          refine updateSession_visits (hC _ hpaused rfl) ?_
          exact Durable.Visits.lift (hC _ (hpaused.setState newSessionId _) rfl)
        | ok replanned =>
          refine Durable.Visits.lift_bind (hC _ hpaused rfl) fun _ _ =>
            Durable.Visits.lift_bind (hC _ hpaused rfl) fun _ _ => ?_
          exact launchPlanned_visits hpaused hC answers _ newRunId replanned commit

theorem retryRun_visits (h : w.Inv g) (answers : LaunchAnswers) (runId newRunId : UUID)
    (hhead : g → (ApiCall.retry answers runId newRunId).BaseContains w) :
    Durable.Visits ((ApiCall.retry answers runId newRunId).Visited g w)
      (retryRun answers runId newRunId) w := by
  have hC : ∀ t : ProductWorld, t.Inv g → t.commits = w.commits →
      (ApiCall.retry answers runId newRunId).Visited g w t :=
    fun t hinv hcommits => ⟨hinv, hcommits, fun _ _ _ => trivial⟩
  refine Durable.Visits.lift_bind (hC w h rfl) fun previous hprevious => ?_
  obtain ⟨hmem, hid⟩ := ProductWorld.loadRun_eq_ok hprevious
  refine Durable.Visits.raiseIf_bind (hC w h rfl) fun _ => ?_
  refine Durable.Visits.lift_bind (hC w h rfl) fun commit hcommit => ?_
  refine Durable.Visits.lift_bind (hC w h rfl) fun _ _ =>
    Durable.Visits.lift_bind (hC w h rfl) fun _ _ => ?_
  refine startRun_visits (hC w h rfl) fun normalized hnormalized hfresh => ?_
  have hstarted := hC _ (h.addRun (.started newRunId answers.now normalized commit) hfresh rfl
    rfl fun hg c hc => ?_) rfl
  · exact Durable.Visits.lift_bind hstarted fun _ _ => Durable.Visits.pure hstarted
  · exact hhead hg previous hmem hid commit hcommit c ((TaskDAG.normalize_eq_ok hnormalized).2 hc)

/-- The checkpoint of a failed run is one of its executions, on the base of the run. -/
theorem resumableTaskCheckpoint_eq_ok {db : Database WorkContent} {runBase : String}
    {checkpoint : TaskCheckpoint} (hmodels : ∀ row ∈ db.evidence, row.payload.isModelOf row.kind)
    (h : resumableTaskCheckpoint db runBase = .ok (some checkpoint)) :
    checkpoint.baseCommit = runBase ∧
      ∃ e ∈ terminalEvidence db, e.checkpoint = some checkpoint := by
  unfold resumableTaskCheckpoint at h
  split_ifs at h
  · cases h
  · rw [executionsOf_eq hmodels, Raising.ok_bind] at h
    split at h
    · rename_i found hfound
      simp only [Raising.bind_eq_ok, Raising.raiseIf_eq_ok, Raising.pure_eq_ok,
        Option.some.injEq, not_not] at h
      obtain ⟨_, hbase, rfl⟩ := h
      exact ⟨hbase, List.mem_filterMap.1 (hfound ▸ List.mem_singleton.2 rfl)⟩
    · cases h

/-- The tasks that are left out are those with SUCCEEDED evidence. -/
theorem completedTaskIds_eq {db : Database WorkContent}
    (hmodels : ∀ row ∈ db.evidence, row.payload.isModelOf row.kind) :
    completedTaskIds db = .ok (((terminalEvidence db).filter fun e => e.status = .succeeded).map
      WorkerExecutionEvidence.taskId) := by
  rw [completedTaskIds, executionsOf_eq hmodels]
  rfl

theorem resumeRun_visits (h : w.Inv g) (answers : LaunchAnswers) (runId newRunId : UUID) :
    Durable.Visits ((ApiCall.resume answers runId newRunId).Visited g w)
      (resumeRun answers runId newRunId) w := by
  have hstart : (ApiCall.resume answers runId newRunId).Visited g w w := .start h
  refine Durable.Visits.lift_bind hstart fun previous hprevious => ?_
  obtain ⟨hmem, hid⟩ := ProductWorld.loadRun_eq_ok hprevious
  refine Durable.Visits.raiseIf_bind hstart fun _ => ?_
  refine Durable.Visits.lift_bind hstart fun found hfound => ?_
  cases found with
  | none => exact Durable.Visits.lift hstart
  | some checkpoint =>
    refine Durable.Visits.lift_bind hstart fun _ _ => Durable.Visits.lift_bind hstart fun _ _ =>
      Durable.Visits.lift_bind hstart fun completed hcompleted =>
      Durable.Visits.lift_bind hstart fun left hleft => ?_
    cases left with
    | none => exact Durable.Visits.lift hstart
    | some remaining =>
      refine Durable.Visits.lift_bind hstart fun dag hdag =>
        Durable.Visits.lift_bind hstart fun _ _ => ?_
      refine startRun_visits hstart fun normalized hnormalized hfresh => ?_
      obtain ⟨hopen, -⟩ := TaskDAG.remaining_eq_ok hleft
      obtain ⟨hbound, htasks, hcontexts⟩ := TaskDAG.withCheckpointResumeContext_eq_ok hdag
      obtain ⟨htasks', hcontexts'⟩ := TaskDAG.normalize_eq_ok hnormalized
      -- the commit of the checkpoint contains the base of the run it was left by
      have hcontains : Contains w.commits checkpoint.commitSha previous.baseCommit := by
        obtain ⟨-, e, he, hcheckpoint⟩ := resumableTaskCheckpoint_eq_ok
          (fun row hrow => (h.made previous hmem row hrow).1) hfound
        obtain ⟨row, hrow, hpayload⟩ := mem_terminalEvidence.1 he
        refine ((h.made previous hmem row hrow).2 e hpayload).contains ?_
        exact List.mem_append_right _ (Option.mem_toList.2 (by rw [hcheckpoint]; rfl))
      have hinv := h.addRun
        (.started newRunId answers.now normalized checkpoint.commitSha) hfresh rfl rfl
        fun hg c hc => by
          rcases hcontexts c (hcontexts' hc) with rfl | hold
          · exact Contains.refl _ _
          · exact hcontains.trans (h.runContexts hg previous hmem c
              (TaskDAG.remaining_checkpointCommits hleft hold))
      have hstarted : (ApiCall.resume answers runId newRunId).Visited g w (w.addRun
          (.started newRunId answers.now normalized checkpoint.commitSha)) := by
        refine ⟨hinv, rfl, fun run hrun hnew => ?_⟩
        rcases List.mem_cons.1 hrun with rfl | hold
        · exact ⟨previous, hmem, hid, checkpoint, completed, hfound, hcompleted, rfl,
            hopen _ hbound, fun taskId htask => hopen taskId (htasks ▸ htasks' htask)⟩
        · exact absurd (List.mem_map_of_mem hold) hnew
      refine Durable.Visits.lift_bind hstarted fun _ _ => ?_
      unfold attachResumed
      cases hsession : previous.sessionId with
      | none => exact Durable.Visits.pure hstarted
      | some sessionId =>
        refine captureRunProgress_visits hstarted fun latest hlatest => ?_
        have hcaptured := hinv.capture (List.mem_cons_of_mem _ hmem) hsession hlatest
        have hvisited : (ApiCall.resume answers runId newRunId).Visited g w _ :=
          ⟨hcaptured, rfl, hstarted.launched⟩
        refine attachRun_visits hvisited fun hknown => ?_
        refine Durable.Visits.pure (hvisited.attach
          (hcaptured.attach hknown List.mem_cons_self rfl rfl ?_))
        intro hg session hmemSession hsessionId plan hplan c hc
        have hold := (hcaptured.planContexts hg session hmemSession plan hplan c hc).2 previous
          (List.mem_cons_of_mem _ hmem) (hsessionId ▸ hsession)
        exact hcontains.trans hold

/-- The base that a session continues from contains what its plan resumes from. -/
theorem ProductWorld.Inv.continued_contains (h : w.Inv g) (hg : g) {session : DevelopmentSession}
    (hsession : session ∈ w.sessions) {plan : TaskDAG} (hplan : session.dag = some plan)
    {c : String} (hc : c ∈ plan.checkpointCommits) :
    Contains w.commits (session.completedCommits.headD session.baseCommit) c := by
  cases hcommits : session.completedCommits with
  | nil => exact (h.planContexts hg session hsession plan hplan c hc).1
  | cons commit rest =>
    have hmem : commit ∈ session.completedCommits := hcommits ▸ List.mem_cons_self
    obtain ⟨package, hpackage, hcommit⟩ := List.mem_filterMap.1 (List.mem_dedup.1 hmem)
    exact h.package_contains hg hsession hplan (List.mem_of_mem_filter hpackage) hcommit hc

theorem continueWith_visits {u : ProductWorld} (hu : u.Inv g) (hruns : u.runs = w.runs)
    (hcommits : u.commits = w.commits) (answers : LaunchAnswers) (mode : ContinuationMode)
    {sessionId newRunId : UUID} {session : DevelopmentSession} (hsession : session ∈ u.sessions)
    (hid : session.sessionId = sessionId) {plan : TaskDAG} (hplan : session.dag = some plan) :
    Durable.Visits ((ApiCall.continueSession answers mode sessionId newRunId).Visited g w)
      (continueWith answers mode sessionId newRunId session plan) u := by
  have hstart : (ApiCall.continueSession answers mode sessionId newRunId).Visited g w u :=
    .of_runs hu hcommits hruns
  refine Durable.Visits.lift_bind hstart fun left hleft => ?_
  cases left with
  | none =>
    refine updateSession_visits hstart ?_
    exact Durable.Visits.lift (.of_runs (hu.setState sessionId .completed) hcommits hruns)
  | some remaining =>
    refine Durable.Visits.raiseIf_bind hstart fun hsole => ?_
    refine Durable.Visits.raiseIf_bind hstart fun _ => ?_
    refine Durable.Visits.lift_bind hstart fun _ _ => Durable.Visits.lift_bind hstart fun _ _ => ?_
    refine startRun_visits hstart fun normalized hnormalized hfresh => ?_
    obtain ⟨htasks, hcontexts⟩ := TaskDAG.normalize_eq_ok hnormalized
    have hinv := hu.addRun (.started newRunId answers.now normalized
      (session.completedCommits.headD session.baseCommit)) hfresh rfl rfl fun hg c hc =>
        hu.continued_contains hg hsession hplan
          (TaskDAG.remaining_checkpointCommits hleft (hcontexts hc))
    have hstarted : (ApiCall.continueSession answers mode sessionId newRunId).Visited g w
        (u.addRun (.started newRunId answers.now normalized
          (session.completedCommits.headD session.baseCommit))) := by
      refine ⟨hinv, hcommits, fun run hrun hnew => ?_⟩
      rcases List.mem_cons.1 hrun with rfl | hold
      · exact ⟨session, hsession, hid, Nat.le_of_not_lt hsole, rfl, fun taskId htask =>
          (TaskDAG.remaining_eq_ok hleft).1 taskId (htasks htask)⟩
      · exact absurd (List.mem_map_of_mem (hruns ▸ hold)) hnew
    refine Durable.Visits.lift_bind hstarted fun _ _ => ?_
    refine attachRun_visits hstarted fun hknown => ?_
    refine Durable.Visits.pure (hstarted.attach
      (hinv.attach hknown List.mem_cons_self rfl rfl ?_))
    intro hg other hother hotherId found hfound c hc
    obtain rfl := hu.session_unique hother hsession (hotherId.trans hid.symm)
    obtain rfl := Option.some.inj (hfound.symm.trans hplan)
    exact hu.continued_contains hg hsession hplan hc

/-- The latest run of a session is one of its runs. -/
theorem ProductWorld.Inv.latest_attached (h : w.Inv g) {session : DevelopmentSession}
    (hsession : session ∈ w.sessions) {runId : UUID} (hlatest : session.latestRunId = some runId)
    {run : ProductRun} (hrun : run ∈ w.runs) (hid : run.runId = runId) :
    run.sessionId = some session.sessionId := by
  obtain ⟨latest, hmem, hlatestId, hattached⟩ := h.latest session hsession runId hlatest
  rw [h.run_unique hrun hmem (hid.trans hlatestId.symm)]
  exact hattached

theorem continueDevelopmentSession_visits (h : w.Inv g) (answers : LaunchAnswers)
    (mode : ContinuationMode) (sessionId newRunId : UUID) :
    Durable.Visits ((ApiCall.continueSession answers mode sessionId newRunId).Visited g w)
      (continueDevelopmentSession answers mode sessionId newRunId) w := by
  have hstart : (ApiCall.continueSession answers mode sessionId newRunId).Visited g w w := .start h
  refine Durable.Visits.lift_bind hstart fun session hsnapshot => ?_
  obtain ⟨hsession, hid⟩ := ProductWorld.snapshot_eq_ok hsnapshot
  cases hplan : session.dag with
  | none => exact Durable.Visits.lift hstart
  | some plan =>
    refine Durable.Visits.raiseIf_bind hstart fun _ => ?_
    cases hlatestRun : session.latestRunId with
    | none => exact continueWith_visits h rfl rfl answers mode hsession hid hplan
    | some latestRunId =>
      refine Durable.Visits.lift_bind hstart fun latest hlatest => ?_
      obtain ⟨hmem, hrunId⟩ := ProductWorld.loadRun_eq_ok hlatest
      split_ifs
      · exact Durable.Visits.pure hstart
      · refine captureRunProgress_visits hstart fun captured hcaptured => ?_
        have hinv := h.capture hmem (hid ▸ h.latest_attached hsession hlatestRun hmem hrunId)
          hcaptured
        refine Durable.Visits.lift_bind (.of_runs hinv rfl rfl) fun session' hsnapshot' => ?_
        obtain ⟨hsession', hid'⟩ := ProductWorld.snapshot_eq_ok hsnapshot'
        have hplan' : session'.dag = some plan := by
          rcases ProductWorld.mem_mapSession hsession' with ⟨-, hother⟩ | ⟨old, hold, holdId, rfl⟩
          · exact absurd hid' hother
          · obtain rfl := h.session_unique hold hsession (holdId.trans hid.symm)
            exact hplan
        exact continueWith_visits (w := w) hinv rfl rfl answers mode hsession' hid' hplan'

theorem refreshSession_visits (h : w.Inv g) (sessionId : UUID) :
    Durable.Visits ((ApiCall.refresh sessionId).Visited g w) (refreshSession sessionId) w := by
  have hstart : (ApiCall.refresh sessionId).Visited g w w := .start h
  refine Durable.Visits.lift_bind hstart fun session hsnapshot => ?_
  obtain ⟨hsession, hid⟩ := ProductWorld.snapshot_eq_ok hsnapshot
  cases hlatestRun : session.latestRunId with
  | none => exact Durable.Visits.pure hstart
  | some latestRunId =>
    refine Durable.Visits.lift_bind hstart fun latest hlatest => ?_
    obtain ⟨hmem, hrunId⟩ := ProductWorld.loadRun_eq_ok hlatest
    refine captureRunProgress_visits hstart fun captured hcaptured => ?_
    have hinv := h.capture hmem (hid ▸ h.latest_attached hsession hlatestRun hmem hrunId) hcaptured
    exact Durable.Visits.pure (.of_runs hinv rfl rfl)

/-- A session that was just created is planned in its place. -/
theorem ProductWorld.mapSession_cons {session : DevelopmentSession}
    (hfresh : session.sessionId ∉ w.sessions.map DevelopmentSession.sessionId)
    (change : DevelopmentSession → DevelopmentSession) :
    ProductWorld.mapSession { w with sessions := session :: w.sessions } session.sessionId change =
      { w with sessions := change session :: w.sessions } := by
  have hrest : (w.sessions.map fun other =>
      if other.sessionId = session.sessionId then change other else other) = w.sessions := by
    refine (List.map_congr_left fun other hother => ?_).trans (List.map_id _)
    have hother' : other.sessionId ≠ session.sessionId := by
      intro hsame
      exact hfresh (hsame ▸ List.mem_map_of_mem hother)
    rw [if_neg hother']
    rfl
  simp [ProductWorld.mapSession, hrest]

/-- The end of `recover_interrupted_run`, once the session is there. -/
theorem launchRecovered_visits {u : ProductWorld} (hu : u.Inv g) (hruns : u.runs = w.runs)
    (hcommits : u.commits = w.commits) (answers : LaunchAnswers) (seen : Liveness)
    {runId newSessionId newRunId sessionId : UUID} {previous : ProductRun}
    (hmem : previous ∈ w.runs) (hid : previous.runId = runId) {dag : TaskDAG}
    (hleft : previous.dag.remaining (succeededRows previous.rows.db) = .ok (some dag))
    (hcontexts : g → ∀ c ∈ dag.checkpointCommits, Contains w.commits w.head c)
    (hplans : g → ∀ session ∈ u.sessions, session.sessionId = sessionId → ∀ plan,
      session.dag = some plan → ∀ c ∈ plan.checkpointCommits, Contains w.commits w.head c) :
    Durable.Visits ((ApiCall.recover answers seen runId newSessionId newRunId).Visited g w) (do
      startRun answers newRunId dag w.head
      Durable.lift answers.initializeBudget
      attachRun sessionId newRunId
      linkRecovery runId newRunId
      return newRunId) u := by
  have hstart : (ApiCall.recover answers seen runId newSessionId newRunId).Visited g w u :=
    .of_runs hu hcommits hruns
  refine startRun_visits hstart fun normalized hnormalized hfresh => ?_
  obtain ⟨htasks, hcontexts'⟩ := TaskDAG.normalize_eq_ok hnormalized
  have hinv := hu.addRun (.started newRunId answers.now normalized w.head) hfresh rfl rfl
    fun hg c hc => hcommits ▸ hcontexts hg c (hcontexts' hc)
  have hstarted : (ApiCall.recover answers seen runId newSessionId newRunId).Visited g w
      (u.addRun (.started newRunId answers.now normalized w.head)) := by
    refine ⟨hinv, hcommits, fun run hrun hnew => ?_⟩
    rcases List.mem_cons.1 hrun with rfl | hold
    · exact ⟨previous, hmem, hid, rfl, fun taskId htask =>
        (TaskDAG.remaining_eq_ok hleft).1 taskId (htasks htask)⟩
    · exact absurd (List.mem_map_of_mem (hruns ▸ hold)) hnew
  refine Durable.Visits.lift_bind hstarted fun _ _ => ?_
  refine attachRun_visits hstarted fun hknown => ?_
  have hattached := hinv.attach hknown List.mem_cons_self rfl rfl
    fun hg session hsession hsessionId plan hplan c hc =>
      hcommits ▸ hplans hg session hsession hsessionId plan hplan c hc
  have hvisited := hstarted.attach hattached
  refine Durable.Visits.transact_bind hvisited fun _ t ht => ?_
  split_ifs at ht
  · obtain ⟨-, rfl⟩ := Prod.mk.inj (Except.ok.inj ht)
    refine Durable.Visits.pure ⟨hattached.mapRun (fun _ => rfl) (fun _ => rfl) (fun _ => rfl)
      (fun _ => rfl) fun _ => rfl, hvisited.commits, fun run hrun hnew => ?_⟩
    obtain ⟨old, hold, rfl⟩ := ProductWorld.mem_mapRun hrun
    split_ifs at hnew ⊢
    · exact hvisited.launched old hold hnew
    · exact hvisited.launched old hold hnew
  · simp only [Raising.bind_eq_ok, Raising.raiseIf_eq_ok, Raising.pure_eq_ok,
      Prod.mk.injEq] at ht
    obtain ⟨_, -, -, rfl⟩ := ht
    exact Durable.Visits.pure hvisited

theorem recoverInterruptedRun_visits (h : w.Inv g) (answers : LaunchAnswers) (seen : Liveness)
    (runId newSessionId newRunId : UUID)
    (hhead : g → (ApiCall.recover answers seen runId newSessionId newRunId).BaseContains w) :
    Durable.Visits ((ApiCall.recover answers seen runId newSessionId newRunId).Visited g w)
      (recoverInterruptedRun answers seen runId newSessionId newRunId) w := by
  have hstart : (ApiCall.recover answers seen runId newSessionId newRunId).Visited g w w :=
    .start h
  refine Durable.Visits.lift_bind hstart fun previous hprevious => ?_
  obtain ⟨hmem, hid⟩ := ProductWorld.loadRun_eq_ok hprevious
  refine Durable.Visits.lift_bind hstart fun preview hpreview => ?_
  simp only [recoveryPreview, Raising.bind_eq_ok, Raising.raiseIf_eq_ok,
    Raising.pure_eq_ok] at hpreview
  obtain ⟨_, -, _, -, _, -, rfl⟩ := hpreview
  cases hexisting : previous.recoveryRunId with
  | some existing => exact Durable.Visits.pure hstart
  | none =>
    dsimp only
    refine Durable.Visits.raiseIf_bind hstart fun _ => ?_
    refine Durable.Visits.lift_bind hstart fun left hleft => ?_
    cases left with
    | none => exact Durable.Visits.lift hstart
    | some dag =>
      have hcontexts : g → ∀ c ∈ dag.checkpointCommits, Contains w.commits w.head c := by
        intro hg c hc
        obtain ⟨node, hnode, hopen, hcontext⟩ := (TaskDAG.remaining_eq_ok hleft).2 c hc
        exact (hhead hg previous hmem hid).1 node hnode hopen c hcontext
      unfold recoverySession
      cases hsession : previous.sessionId with
      | some sessionId =>
        dsimp only
        rw [Durable.bind_assoc]
        refine captureRunProgress_visits hstart fun latest hlatest => ?_
        have hcaptured := h.capture hmem hsession hlatest
        refine Durable.Visits.pure_bind ?_
        refine launchRecovered_visits (w := w) hcaptured rfl rfl answers seen hmem hid hleft hcontexts
          fun hg session hmemSession hsessionId plan hplan c hc => ?_
        rcases ProductWorld.mem_mapSession hmemSession with ⟨-, hother⟩ | ⟨old, hold, holdId, rfl⟩
        · exact absurd hsessionId hother
        · exact (hhead hg previous hmem hid).2 old hold (hsession.trans (by rw [holdId])) plan hplan
            c hc
      | none =>
        dsimp only
        rw [Durable.bind_assoc]
        refine createSession_visits hstart fun hfresh => ?_
        have hcreated := h.addSession
          { sessionId := newSessionId, baseCommit := previous.baseCommit } hfresh
          (fun _ hpackage => by cases hpackage) rfl fun _ _ hplan => by cases hplan
        rw [Durable.bind_assoc]
        refine updateSession_visits (.of_runs hcreated rfl rfl) ?_
        rw [ProductWorld.mapSession_cons hfresh]
        have hplanned := h.addSession (DevelopmentSession.planned
            { sessionId := newSessionId, baseCommit := previous.baseCommit } dag) hfresh
          (fun package hpackage => by
            obtain ⟨taskId, -, rfl⟩ := List.mem_map.1 hpackage
            exact ⟨rfl, rfl⟩) rfl fun hg plan hplan c hc => by
            obtain rfl := Option.some.inj hplan
            exact h.runContexts hg previous hmem c (TaskDAG.remaining_checkpointCommits hleft hc)
        refine Durable.Visits.pure_bind ?_
        refine launchRecovered_visits (w := w) hplanned rfl rfl answers seen hmem hid hleft hcontexts
          fun hg session hmemSession hsessionId plan hplan c hc => ?_
        rcases List.mem_cons.1 hmemSession with rfl | hold
        · obtain rfl := Option.some.inj hplan
          exact hcontexts hg c hc
        · exact absurd (hsessionId ▸ List.mem_map_of_mem hold) hfresh

/-- **Every state of a request keeps the invariant**, when the base that it takes is one
that contains the checkpoints. -/
theorem ApiCall.visits (h : w.Inv g) (call : ApiCall) (hhead : g → call.BaseContains w) :
    Durable.Visits (call.Visited g w) call.request w := by
  cases call with
  | create answers planning newSessionId newRunId =>
    exact createRequirementRun_visits h answers planning newSessionId newRunId
  | retry answers runId newRunId => exact retryRun_visits h answers runId newRunId hhead
  | resume answers runId newRunId => exact resumeRun_visits h answers runId newRunId
  | continueSession answers mode sessionId newRunId =>
    exact continueDevelopmentSession_visits h answers mode sessionId newRunId
  | recover answers seen runId newSessionId newRunId =>
    exact recoverInterruptedRun_visits h answers seen runId newSessionId newRunId hhead
  | refresh sessionId => exact refreshSession_visits h sessionId

end requests

/-! ### The other steps -/

/-- What was there before a call of the worker, or what the call added. -/
def WrittenRow (old new : List GitCommit) (runBase taskId : String)
    (before : Database WorkContent) (row : Option String)
    (execution : WorkerExecutionEvidence WorkContent) : Prop :=
  (execution.Made old runBase row ∧ execution ∈ terminalEvidence before) ∨
    execution.Added old new runBase taskId row

/-- **What a writer leaves in the rows of a run.** -/
theorem writer_rows {old new : List GitCommit} {run : ProductRun} {rows : WorkerState}
    {writer : RunWriter} (hmade : run.Made old) (hapart : run.Apart)
    (hstep : writerStep run.baseCommit run.rows writer () rows)
    (hgit : WriterGit old new run.baseCommit run.rows rows writer) :
    old ⊆ new ∧ run.executions ⊆ terminalEvidence rows.db ∧
      ({ run with rows } : ProductRun).Made new ∧ ({ run with rows } : ProductRun).Apart := by
  cases writer with
  | worker settings calls stack answers queued envelope =>
    obtain ⟨-, hstates⟩ := hstep
    obtain ⟨htask, hid, hcommits⟩ := hgit
    have hrows : RowsOf (WrittenRow old new run.baseCommit envelope.message.taskId run.rows.db)
        rows := by
      refine QueuedTaskWorker.execute_keeps_made htask hid hcommits run.rows (fun row hrow => ?_)
        rows hstates
      exact ⟨(hmade row hrow).1, fun execution hpayload => Or.inl
        ⟨(hmade row hrow).2 execution hpayload, mem_terminalEvidence.2 ⟨row, hrow, hpayload⟩⟩⟩
    have hold : run.rows.db.evidence ⊆ rows.db.evidence :=
      QueuedTaskWorker.execute_keeps_old _ run.rows (List.Subset.refl _) rows hstates
    refine ⟨hcommits.kept, fun e he => ?_, fun row hrow => ⟨(hrows row hrow).1, fun e he => ?_⟩,
      fun e he e' he' hne c hc hc' => ?_⟩
    · obtain ⟨row, hrow, hpayload⟩ := mem_terminalEvidence.1 he
      exact mem_terminalEvidence.2 ⟨row, hold hrow, hpayload⟩
    · rcases (hrows row hrow).2 e he with ⟨hbefore, -⟩ | ⟨hadded, -⟩
      · exact hbefore.mono hcommits.kept
      · exact hadded
    · obtain ⟨row, hrow, hpayload⟩ := mem_terminalEvidence.1 he
      obtain ⟨row', hrow', hpayload'⟩ := mem_terminalEvidence.1 he'
      -- an old commit is an object of the repository, and a new one was not
      have hknown : ∀ {row : Option String} {e : WorkerExecutionEvidence WorkContent},
          e.Made old run.baseCommit row → c ∈ e.commits → c ∈ old.map GitCommit.oid := by
        intro row e hmade hmem
        obtain ⟨-, object, hobject, hoid, -⟩ := hmade.commit c hmem
        exact List.mem_map.2 ⟨object, hobject, hoid⟩
      rcases (hrows row hrow).2 e hpayload with ⟨hbefore, hmem⟩ | ⟨-, htaskId, hnew⟩
      · rcases (hrows row' hrow').2 e' hpayload' with ⟨-, hmem'⟩ | ⟨-, -, hnew'⟩
        · exact hapart e hmem e' hmem' hne c hc hc'
        · exact hnew' c hc' (hknown hbefore hc)
      · rcases (hrows row' hrow').2 e' hpayload' with ⟨hbefore', -⟩ | ⟨-, htaskId', -⟩
        · exact hnew c hc (hknown hbefore' hc')
        · exact hne (htaskId.trans htaskId'.symm)
  | other =>
    obtain ⟨hsub, hkept⟩ := hgit
    have hback : terminalEvidence rows.db ⊆ run.executions := by
      intro e he
      obtain ⟨row, hrow, hpayload⟩ := mem_terminalEvidence.1 he
      rcases hstep row hrow with hold | ⟨-, hother⟩
      · exact mem_terminalEvidence.2 ⟨row, hold, hpayload⟩
      · exact absurd hpayload (hother e)
    refine ⟨hsub, fun e he => ?_, fun row hrow => ?_, fun e he e' he' =>
      hapart e (hback he) e' (hback he')⟩
    · obtain ⟨row, hrow, hpayload⟩ := mem_terminalEvidence.1 he
      exact mem_terminalEvidence.2 ⟨row, hkept hrow, hpayload⟩
    · rcases hstep row hrow with hold | ⟨hmodel, hother⟩
      · obtain ⟨hmodel, hrowMade⟩ := hmade row hold
        exact ⟨hmodel, fun e he => (hrowMade e he).mono hsub⟩
      · exact ⟨hmodel, fun e he => absurd he (hother e)⟩

/-- **Every step keeps the invariant.** -/
theorem productStep_inv {g : Prop} {w t : ProductWorld} {input : ProductInput} {o : Unit}
    (h : w.Inv g) (hhead : g → ∀ call, input = .call call → call.BaseContains w)
    (hstep : productStep w input o t) : t.Inv g := by
  cases input with
  | call call => exact (ApiCall.visits h call (fun hg => hhead hg call rfl) t hstep).inv
  | write runId writer =>
    obtain ⟨run, hrun, hid, rows, commits, hordered, hwriter, hgit, rfl⟩ := hstep
    obtain ⟨hsub, hfacts⟩ := writer_rows (h.made run hrun) (h.apart run hrun) hwriter hgit
    refine h.setRows hordered hsub (fun _ => rfl) (fun _ => rfl) (fun _ => rfl) (fun _ => rfl)
      fun other hother hotherId => ?_
    obtain rfl := h.run_unique hother hrun (hotherId.trans hid.symm)
    exact hfacts
  | fetch =>
    obtain ⟨commits, hordered, hsub, rfl⟩ := hstep
    exact h.addCommits hordered hsub
  | checkout =>
    obtain ⟨head, rfl⟩ := hstep
    exact h.setHead head

/-- A project before its first request. -/
def ProductWorld.Empty (w : ProductWorld) : Prop :=
  w.runs = [] ∧ w.sessions = [] ∧ Ordered w.commits

theorem ProductWorld.Empty.inv {w : ProductWorld} (h : w.Empty) (g : Prop) : w.Inv g := by
  obtain ⟨hruns, hsessions, hordered⟩ := h
  refine ⟨hordered, ?_, ?_, ?_, ?_, ?_, ?_, ?_, ?_, ?_⟩ <;> simp [hruns, hsessions]

end DevFlow
