/-
# Completed work and resume contexts of derived runs

Two facts about the base of a derived run.  A run leaves out the tasks that have
SUCCEEDED evidence, and its base should contain their accepted commits: the one
that a session continues from does, the HEAD that a recovered run starts from
does when it happens to contain them, and the checkpoint that a run is resumed
from never does, for it stands on the base of the failed run beside them
(`completed_work_kept_iff`).  A run takes over resume contexts with the graph of
its source, and its base contains the commits of their checkpoints as long as
every commit that a retried or recovered run is based on does
(`resume_contexts_grounded`).
-/

import DevFlow.Api.Derivations

namespace DevFlow

open QueuedTaskWorker (WorkerCommits)

/-- The accepted commit of a task that a request may leave out: that of SUCCEEDED
evidence of the source run, or of the evidence that a SUCCEEDED package of the
session was captured from. -/
def ApiCall.Reused (call : ApiCall) (w t : ProductWorld) (taskId commit : String) : Prop :=
  match call with
  | .resume _ runId _ | .recover _ _ runId _ _ => ∃ previous ∈ w.runs, previous.runId = runId ∧
      taskId ∈ previous.dag.taskIds ∧ ∃ e ∈ previous.executions, e.taskId = taskId ∧
        e.status = .succeeded ∧ e.commitSha = some commit
  | .continueSession _ _ sessionId _ => ∃ session ∈ t.sessions, session.sessionId = sessionId ∧
      ∃ package ∈ session.workPackages, package.taskId = taskId ∧ package.state = .succeeded ∧
        package.commitSha = some commit ∧ ∃ source ∈ t.runs,
          package.sourceRunId = some source.runId ∧ ∃ e ∈ source.executions, e.taskId = taskId ∧
            e.status = .succeeded ∧ e.commitSha = some commit
  | _ => False

/-- When the base of the new run contains every accepted commit that is left out: no task
of a resumed run has SUCCEEDED evidence, and the HEAD contains the accepted commits
of a recovered one. -/
def ApiCall.CarriesCompleted (call : ApiCall) (w : ProductWorld) : Prop :=
  match call with
  | .resume _ runId _ => ∀ previous ∈ w.runs, previous.runId = runId →
      ∀ e ∈ previous.executions, e.status = .succeeded → e.taskId ∉ previous.dag.taskIds
  | .recover _ _ runId _ _ => ∀ previous ∈ w.runs, previous.runId = runId →
      ∀ e ∈ previous.executions, e.status = .succeeded → e.taskId ∈ previous.dag.taskIds →
        ∀ commit, e.commitSha = some commit → Contains w.commits w.head commit
  | _ => True

section completed

variable {g : Prop} {w : ProductWorld} {run : ProductRun}
  {e e' : WorkerExecutionEvidence WorkContent}

/-- What the evidence of a run says of its commits. -/
theorem ProductWorld.Inv.made_of_mem (h : w.Inv g) (hrun : run ∈ w.runs) (he : e ∈ run.executions) :
    e.Made w.commits run.baseCommit (some e.taskId) := by
  obtain ⟨row, hrow, hpayload⟩ := mem_terminalEvidence.1 he
  have hmade := (h.made run hrun row hrow).2 e hpayload
  rw [hmade.row_task] at hmade
  exact hmade

/-- **A checkpoint on the base of a run does not contain the accepted commit of another
task**: its only parent is the base, and the accepted commit descends from the base. -/
theorem ProductWorld.Inv.checkpoint_not_contains (h : w.Inv g) (hrun : run ∈ w.runs)
    (he : e ∈ run.executions) (he' : e' ∈ run.executions) (htasks : e.taskId ≠ e'.taskId)
    {checkpoint : TaskCheckpoint} (hcheckpoint : e.checkpoint = some checkpoint)
    (hbase : checkpoint.baseCommit = run.baseCommit) {commit : String}
    (hcommit : e'.commitSha = some commit) :
    ¬Contains w.commits checkpoint.commitSha commit := by
  intro hcontains
  have hmem : checkpoint.commitSha ∈ e.commits :=
    List.mem_append_right _ (Option.mem_toList.2 (by rw [hcheckpoint]; rfl))
  have hmem' : commit ∈ e'.commits := List.mem_append_left _ (Option.mem_toList.2 hcommit)
  obtain ⟨-, object, hobject, hoid, hparents⟩ := (h.made_of_mem hrun he).commit _ hmem
  obtain ⟨hdescends, object', hobject', hoid', hparents'⟩ :=
    (h.made_of_mem hrun he').commit _ hmem'
  have hon : e.baseCommit = run.baseCommit :=
    ((h.made_of_mem hrun he).checkpoint checkpoint hcheckpoint).2.symm.trans hbase
  rcases hcontains.cases with hsame | ⟨found, hfound, hfoundOid, parent, hparent, hrest⟩
  · rw [hsame] at hmem
    exact h.apart run hrun e he e' he' htasks commit hmem hmem'
  · obtain rfl := h.ordered.eq_of_oid hfound hobject (hfoundOid.trans hoid.symm)
    rw [hparents, List.mem_singleton, hon] at hparent
    rw [hparent, ← hoid'] at hrest
    refine Contains.not_of_parent h.ordered hobject' ?_ hdescends hrest
    rw [hparents']
    exact List.mem_singleton.2 rfl

/-- The rows with SUCCEEDED evidence are those of the executions. -/
theorem ProductWorld.Inv.mem_succeededRows (h : w.Inv g) (hrun : run ∈ w.runs)
    (he : e ∈ run.executions) (hsucceeded : e.status = .succeeded) :
    e.taskId ∈ succeededRows run.rows.db := by
  obtain ⟨row, hrow, hpayload⟩ := mem_terminalEvidence.1 he
  obtain ⟨hmodel, hmade⟩ := h.made run hrun row hrow
  have hkind : row.kind = .workerExecution := by
    rw [hpayload] at hmodel
    exact hmodel
  refine List.mem_filterMap.2 ⟨row, hrow, ?_⟩
  simp [hpayload, hkind, hsucceeded, (hmade e hpayload).row_task]

/-- Every SUCCEEDED package of a session has an accepted commit. -/
theorem ProductWorld.Inv.package_reused (h : w.Inv g) {session : DevelopmentSession}
    (hsession : session ∈ w.sessions) {package : WorkPackage}
    (hpackage : package ∈ session.workPackages) (hsucceeded : package.state = .succeeded)
    (answers : LaunchAnswers) (mode : ContinuationMode) (newRunId : UUID) (before : ProductWorld) :
    ∃ commit, (ApiCall.continueSession answers mode session.sessionId newRunId).Reused before w
      package.taskId commit := by
  have hrecorded := h.recorded session hsession package hpackage
  obtain ⟨commit, hcommit⟩ := Option.ne_none_iff_exists'.1 (hrecorded.commit hsucceeded)
  obtain ⟨source, hsource, hid, -, e, he, htask, -, haccepted⟩ := hrecorded.source commit hcommit
  obtain ⟨hstatus, hsha⟩ := haccepted hsucceeded
  exact ⟨commit, session, hsession, rfl, package, hpackage, rfl, hsucceeded, hcommit, source,
    hsource, hid, e, he, htask, hstatus, hsha⟩

end completed

/-- **When a derived run keeps completed work.**  In every reachable state, whatever
request started a run: its base contains the accepted commit of every task that it
leaves out because of SUCCEEDED evidence exactly under `CarriesCompleted`, so always
for a continued session. -/
theorem completed_work_kept_iff {w₀ w t : ProductWorld}
    {es : List (Runs.Event ProductWorld ProductInput Unit)} (h₀ : w₀.Empty)
    (h : Runs.Run productStep w₀ es w) (call : ApiCall) (ht : t ∈ (call.request w).states)
    {run : ProductRun} (hrun : run ∈ t.runs) (hnew : run.runId ∉ w.runs.map ProductRun.runId) :
    (∀ taskId commit, call.Reused w t taskId commit → taskId ∉ run.dag.taskIds →
        Contains t.commits run.baseCommit commit) ↔ call.CarriesCompleted w := by
  have hinv : w.Inv False :=
    h.invariant (fun _ _ _ _ hs hstep => productStep_inv hs (fun hfalse => hfalse.elim) hstep)
      (h₀.inv False)
  have hvisited := ApiCall.visits hinv call (fun hfalse => hfalse.elim) t ht
  have hlaunched := hvisited.launched run hrun hnew
  rw [hvisited.commits]
  cases call with
  | create _ _ _ _ => exact ⟨fun _ => trivial, fun _ _ _ hreused => hreused.elim⟩
  | retry _ _ _ => exact ⟨fun _ => trivial, fun _ _ _ hreused => hreused.elim⟩
  | refresh _ => exact ⟨fun _ => trivial, fun _ _ _ hreused => hreused.elim⟩
  | resume answers runId newRunId =>
    obtain ⟨previous, hmem, hid, checkpoint, completed, hfound, hcompleted, hbase, hopen, htasks⟩ :=
      hlaunched
    have hmodels := fun row hrow => (hinv.made previous hmem row hrow).1
    rw [completedTaskIds_eq hmodels] at hcompleted
    obtain rfl := Except.ok.inj hcompleted
    obtain ⟨hon, e, he, hcheckpoint⟩ := resumableTaskCheckpoint_eq_ok hmodels hfound
    constructor
    · intro hkept other hother hotherId e' he' hsucceeded hknown
      obtain rfl := hinv.run_unique hother hmem (hotherId.trans hid.symm)
      obtain ⟨commit, hcommit⟩ := Option.ne_none_iff_exists'.1 (e'.success_commit hsucceeded)
      have hdone : e'.taskId ∈ ((terminalEvidence other.rows.db).filter fun e =>
          e.status = .succeeded).map WorkerExecutionEvidence.taskId :=
        List.mem_map_of_mem (List.mem_filter.2 ⟨he', by simpa using hsucceeded⟩)
      have hcontains := hkept e'.taskId commit
        ⟨other, hmem, hid, hknown, e', he', rfl, hsucceeded, hcommit⟩
        fun htask => htasks _ htask hdone
      rw [hbase] at hcontains
      refine hinv.checkpoint_not_contains hmem he he' ?_ hcheckpoint hon hcommit hcontains
      intro hsame
      rw [((hinv.made_of_mem hmem he).checkpoint checkpoint hcheckpoint).1, hsame] at hopen
      exact hopen hdone
    · rintro hnone taskId commit ⟨other, hother, hotherId, hknown, e', he', rfl, hsucceeded, -⟩ -
      exact absurd hknown (hnone other hother hotherId e' he' hsucceeded)
  | continueSession answers mode sessionId newRunId =>
    refine ⟨fun _ => trivial, fun _ taskId commit hreused _ => ?_⟩
    obtain ⟨session, hsession, hid, hsole, hbase, -⟩ := hlaunched
    obtain ⟨other, hother, hotherId, package, hpackage, rfl, hsucceeded, hcommit, -⟩ := hreused
    obtain rfl := hvisited.inv.session_unique hother hsession (hotherId.trans hid.symm)
    have hcompleted : commit ∈ other.completedCommits := by
      refine List.mem_dedup.2 (List.mem_filterMap.2 ⟨package, List.mem_filter.2 ⟨hpackage, ?_⟩,
        hcommit⟩)
      rw [decide_eq_true_iff]
      exact List.mem_map_of_mem (List.mem_filter.2 ⟨hpackage, by simpa using hsucceeded⟩)
    -- at most one commit is completed, so it is the base
    have hhead : other.completedCommits.headD other.baseCommit = commit := by
      cases hcommits : other.completedCommits with
      | nil =>
        rw [hcommits] at hcompleted
        cases hcompleted
      | cons first rest =>
        rw [hcommits] at hcompleted hsole
        rw [List.length_cons] at hsole
        have hrest : rest = [] := List.eq_nil_of_length_eq_zero (by omega)
        rw [hrest] at hcompleted
        exact (List.mem_singleton.1 hcompleted).symm
    rw [hbase, hhead]
    exact Contains.refl _ _
  | recover answers seen runId newSessionId newRunId =>
    obtain ⟨previous, hmem, hid, hbase, htasks⟩ := hlaunched
    rw [hbase]
    constructor
    · intro hkept other hother hotherId e he hsucceeded hknown commit hcommit
      obtain rfl := hinv.run_unique hother hmem (hotherId.trans hid.symm)
      exact hkept e.taskId commit ⟨other, hmem, hid, hknown, e, he, rfl, hsucceeded, hcommit⟩
        fun htask => htasks _ htask (hinv.mem_succeededRows hmem he hsucceeded)
    · rintro hcontained taskId commit
        ⟨other, hother, hotherId, hknown, e, he, rfl, hsucceeded, hcommit⟩ -
      exact hcontained other hother hotherId e he hsucceeded hknown commit hcommit

/-! ### A project with two tasks -/

/-- A plan of two tasks that do not depend on each other. -/
def twoPackages : PlannedDag where
  dag :=
    { tasks := [{ taskId := "a", dependsOn := [], taskId_pattern := isTaskId_a },
        { taskId := "lib", dependsOn := [] }] }
  no_context := by simp

/-- Every check passes, and the remote branch is at the first commit. -/
def readyAnswers : LaunchAnswers where
  synchronize := .ok (sampleOid '0')
  preflight := .ok ()
  budgetPlan _ := .ok ()
  initializeBudget := .ok ()
  now := 0

/-- The first commit of the repository. -/
def rootCommit : GitCommit := ⟨sampleOid '0', "root", [], []⟩

/-- A commit on the first one. -/
def taskCommit (digit : Char) : GitCommit := ⟨sampleOid digit, "task", [sampleOid '0'], []⟩

/-- The project before its first request. -/
def emptyProject : ProductWorld := ⟨[], [], [rootCommit], sampleOid '0'⟩

theorem emptyProject_empty : emptyProject.Empty :=
  ⟨rfl, rfl, by simp [emptyProject, Ordered, rootCommit]⟩

/-- The request that starts the run with both tasks. -/
def createCall : ApiCall :=
  .create readyAnswers ⟨some twoPackages, .error ⟨.runtimeError, ""⟩, .error ⟨.runtimeError, ""⟩⟩
    ⟨20⟩ ⟨7⟩

/-- The rows of the run once a task is leased. -/
def leasedRows (taskId : String) : WorkerState where
  db := (Database.created WorkContent ⟨7⟩ ["a", "lib"]).setLease taskId
    ⟨"worker", ⟨1⟩, 1, ⟨2⟩, 0, 0, 1000, none, Lease.firstGeneration⟩
  now := 1

/-- The worktree of the first slice; there is no second one. -/
def sliceAnswers (digit : Char) : ℕ → WorktreeAnswers
  | 1 => ⟨.ok (), [("app.py", "")], "devflow/task", .ok (sampleOid digit)⟩
  | _ => ⟨.ok (), [("app.py", "")], "devflow/task", .error ⟨.operationalError, "git"⟩⟩

/-- Agents that change a file and pass the checks and the review. -/
def diligentAgents : Agents :=
  { contentAgents with developer := fun _ => (.result ⟨.modelStop, "done"⟩, [("app.py", "done")]) }

/-- A worker for the task, from the base of the run. -/
def taskWriter (taskId : String) (agents : Agents) (digit : Char) : RunWriter :=
  .worker ⟨3, 1000, 1⟩ { plainCalls with resolveBase := .ok (sampleOid '0') }
    (fun _ => ⟨.plain, agents, 0, none⟩) (sliceAnswers digit) ⟨⟨taskId, 0⟩, none, 0⟩
    ⟨⟨taskId, ⟨1⟩⟩, ⟨2⟩⟩

/-- The rows that it leaves. -/
def workedRows (taskId : String) (agents : Agents) (digit : Char) : WorkerState :=
  (QueuedTaskWorker.execute ⟨3, 1000, 1⟩ ({ plainCalls with resolveBase := .ok (sampleOid '0') }.through
    (fun _ => ⟨.plain, agents, 0, none⟩) (sliceAnswers digit)) ⟨⟨taskId, 0⟩, none, 0⟩
    ⟨⟨taskId, ⟨1⟩⟩, ⟨2⟩⟩ (sampleOid '0') (leasedRows taskId)).final

/-- The project with other rows of a run. -/
def ProductWorld.setRows (w : ProductWorld) (runId : UUID) (rows : WorkerState)
    (commits : List GitCommit) : ProductWorld :=
  { (w.mapRun runId fun run => { run with rows }) with commits }

theorem ProductWorld.mem_setRows {w : ProductWorld} (run : ProductRun) {runId : UUID}
    {rows : WorkerState} {commits : List GitCommit} (hrun : run ∈ w.runs) (hid : run.runId = runId) :
    { run with rows } ∈ (w.setRows runId rows commits).runs := by
  refine List.mem_map.2 ⟨run, hrun, ?_⟩
  rw [if_pos hid]

/-- The project after a request. -/
def ProductWorld.after (w : ProductWorld) (call : ApiCall) : ProductWorld := (call.request w).final

theorem productStep_after (w : ProductWorld) (call : ApiCall) :
    productStep w (.call call) () (w.after call) :=
  Durable.final_mem_states _

/-- The project after the first request. -/
def createdProject : ProductWorld := emptyProject.after createCall

/-- The project after a worker. -/
def workedProject (taskId : String) (agents : Agents) (digit : Char) : ProductWorld :=
  (createdProject.setRows ⟨7⟩ (leasedRows taskId) [rootCommit]).setRows ⟨7⟩
    (workedRows taskId agents digit) [taskCommit digit, rootCommit]

theorem createdProject_facts :
    createdProject.runs.map (fun run => (run.runId, run.baseCommit,
      run.rows.db.evidence.length)) = [(⟨7⟩, sampleOid '0', 0)] ∧
      createdProject.commits = [rootCommit] := by
  decide +kernel

theorem ordered_taskCommit {digit : Char} (hnew : sampleOid digit ≠ sampleOid '0') :
    Ordered [taskCommit digit, rootCommit] := by
  simp [Ordered, taskCommit, rootCommit, hnew]

/-- The other writers may replace rows without evidence by such rows. -/
theorem productStep_other (w : ProductWorld) {run : ProductRun} {runId : UUID}
    {commits : List GitCommit} (rows : WorkerState) (hrun : run ∈ w.runs)
    (hid : run.runId = runId) (hcommits : w.commits = commits) (hordered : Ordered commits)
    (hsame : rows.db.evidence = run.rows.db.evidence) :
    productStep w (.write runId .other) () (w.setRows runId rows commits) :=
  ⟨run, hrun, hid, rows, commits, hordered, fun _ hrow => Or.inl (hsame ▸ hrow),
    ⟨hcommits ▸ List.Subset.refl _, fun _ hrow => hsame ▸ hrow⟩, rfl⟩

/-- The controller may finalize the run that was written last. -/
theorem productStep_closed {w : ProductWorld} {run : ProductRun} {runId : UUID}
    {rows : WorkerState} {commits : List GitCommit} {status : RunStatus} (hrun : run ∈ w.runs)
    (hid : run.runId = runId) (hordered : Ordered commits) :
    productStep (w.setRows runId rows commits) (.write runId .other) ()
      ((w.setRows runId rows commits).setRows runId (rows.closed status) commits) :=
  productStep_other _ (rows.closed status) (ProductWorld.mem_setRows run hrun hid) hid rfl hordered
    rfl

/-- What Git does for the first slice. -/
theorem sliceAnswers_commits {digit : Char} (hnew : sampleOid digit ≠ sampleOid '0') :
    WorkerCommits [rootCommit] [taskCommit digit, rootCommit] (sampleOid '0') (.ok (sampleOid '0'))
      (sliceAnswers digit) := by
  refine ⟨List.subset_cons_self _ _, fun base hbase => ?_, fun base k c hbase hk hcommit => ?_⟩
  · rw [← Except.ok.inj hbase]
    exact Contains.refl _ _
  · obtain rfl := Except.ok.inj hbase
    obtain rfl : k = 1 := by
      rcases k with _ | _ | k
      · omega
      · rfl
      · cases hcommit
    obtain rfl := Except.ok.inj hcommit
    refine ⟨?_, taskCommit digit, List.mem_cons_self, rfl, rfl⟩
    show sampleOid digit ∉ [sampleOid '0']
    rw [List.mem_singleton]
    exact hnew

/-- No slice commits the base of the run. -/
theorem sliceAnswers_ne {digit : Char} (hnew : sampleOid digit ≠ sampleOid '0') (k : ℕ) :
    (sliceAnswers digit k).commit ≠ .ok (sampleOid '0') := by
  intro hcommit
  rcases k with _ | _ | k
  · cases hcommit
  · exact hnew (Except.ok.inj hcommit)
  · cases hcommit

/-- **A worker may do its task first.** -/
theorem workedProject_run (taskId : String) (agents : Agents) (digit : Char)
    (hid : isTaskId taskId = true) (hnew : sampleOid digit ≠ sampleOid '0') :
    ∃ es, Runs.Run productStep emptyProject es (workedProject taskId agents digit) ∧
      ∀ e ∈ es, ∀ call, e.input = .call call → call.BaseContains e.before := by
  obtain ⟨hruns, hcommits⟩ := createdProject_facts
  obtain ⟨run, hrun, hfacts⟩ := List.map_eq_singleton_iff.1 hruns
  simp only [Prod.mk.injEq] at hfacts
  obtain ⟨hrunId, hbase, hevidence⟩ := hfacts
  have hmem : run ∈ createdProject.runs := hrun ▸ List.mem_singleton.2 rfl
  have hroot : Ordered [rootCommit] := by simp [Ordered, rootCommit]
  have hcreate : productStep emptyProject (.call createCall) () createdProject :=
    productStep_after emptyProject createCall
  have hlease : productStep createdProject (.write ⟨7⟩ .other) ()
      (createdProject.setRows ⟨7⟩ (leasedRows taskId) [rootCommit]) :=
    productStep_other createdProject (leasedRows taskId) hmem hrunId hcommits hroot
      (List.eq_nil_of_length_eq_zero hevidence).symm
  have hwork : productStep (createdProject.setRows ⟨7⟩ (leasedRows taskId) [rootCommit])
      (.write ⟨7⟩ (taskWriter taskId agents digit)) () (workedProject taskId agents digit) := by
    refine ⟨{ run with rows := leasedRows taskId }, ?_, hrunId, workedRows taskId agents digit,
      [taskCommit digit, rootCommit], ordered_taskCommit hnew, ?_, ?_, rfl⟩
    · exact ProductWorld.mem_setRows run hmem hrunId
    · show writerStep run.baseCommit _ _ _ _
      rw [hbase]
      exact ⟨sliceAnswers_ne hnew, Durable.final_mem_states _⟩
    · show WriterGit _ _ run.baseCommit _ _ _
      rw [hbase]
      exact ⟨rfl, hid, sliceAnswers_commits hnew⟩
  refine ⟨_, Runs.Run.cons hcreate (Runs.Run.cons hlease (Runs.Run.cons hwork (Runs.Run.nil _))),
    fun e he call hcall => ?_⟩
  simp only [List.mem_cons, List.not_mem_nil, or_false] at he
  rcases he with rfl | rfl | rfl
  · obtain rfl := ProductInput.call.inj hcall
    trivial
  · cases hcall
  · cases hcall

/-- A recovery of the run once it is old and has no lease. -/
def recoverCall : ApiCall :=
  .recover readyAnswers ⟨1000, 1, none, false, false⟩ ⟨7⟩ ⟨20⟩ ⟨8⟩

/-- The project after one task SUCCEEDED and the run was recovered. -/
def recoveredProject : ProductWorld :=
  (workedProject "lib" diligentAgents '1').after recoverCall

/-- The project before and after the recovery. -/
theorem recoveredProject_facts :
    ((workedProject "lib" diligentAgents '1').runs.map (fun run =>
        (run.runId, run.dag.taskIds)) = [(⟨7⟩, ["a", "lib"])] ∧
      (workedProject "lib" diligentAgents '1').runs.map (fun run =>
        run.executions.map fun e => (e.taskId, e.status, e.commitSha)) =
          [[("lib", .succeeded, some (sampleOid '1'))]]) ∧
    (recoveredProject.runs.map fun run => (run.runId, run.dag.taskIds, run.baseCommit)) =
        [(⟨8⟩, ["a"], sampleOid '0'), (⟨7⟩, ["a", "lib"], sampleOid '0')] ∧
      recoveredProject.commits = [taskCommit '1', rootCommit] := by
  decide +kernel

/-- The recovered run, and what it leaves out. -/
theorem recovered_run_facts : ∃ run ∈ recoveredProject.runs,
    run.runId ∉ (workedProject "lib" diligentAgents '1').runs.map ProductRun.runId ∧
      run.baseCommit = sampleOid '0' ∧ "lib" ∉ run.dag.taskIds ∧
      recoverCall.Reused (workedProject "lib" diligentAgents '1') recoveredProject "lib"
        (sampleOid '1') := by
  obtain ⟨previous, hprevious, hfacts⟩ := List.map_eq_singleton_iff.1 recoveredProject_facts.1.1
  have hexecutions := recoveredProject_facts.1.2
  rw [hprevious, List.map_singleton, List.singleton_inj] at hexecutions
  obtain ⟨run, rest, hruns, hrun, -⟩ := List.map_eq_cons_iff.1 recoveredProject_facts.2.1
  simp only [Prod.mk.injEq] at hfacts hrun
  obtain ⟨hid, htasks⟩ := hfacts
  obtain ⟨hnewId, hnewTasks, hbase⟩ := hrun
  obtain ⟨e, he, hevidence⟩ := List.map_eq_singleton_iff.1 hexecutions
  simp only [Prod.mk.injEq] at hevidence
  obtain ⟨htask, hstatus, hcommit⟩ := hevidence
  refine ⟨run, by simp [hruns], ?_, hbase, ?_, ?_⟩
  · rw [hprevious, hnewId, List.map_singleton, hid]
    decide
  · rw [hnewTasks]
    decide
  · refine ⟨previous, by simp [hprevious], hid, ?_, e, by simp [he], htask, hstatus, hcommit⟩
    rw [htasks]
    decide

theorem recovered_work_kept_iff :
    (∃ es, Runs.Run productStep emptyProject es (workedProject "lib" diligentAgents '1')) ∧
      ∃ run ∈ recoveredProject.runs,
        run.runId ∉ (workedProject "lib" diligentAgents '1').runs.map ProductRun.runId ∧
        ((∀ taskId commit, recoverCall.Reused (workedProject "lib" diligentAgents '1')
            recoveredProject taskId commit → taskId ∉ run.dag.taskIds →
              Contains recoveredProject.commits run.baseCommit commit) ↔
          recoverCall.CarriesCompleted (workedProject "lib" diligentAgents '1')) := by
  obtain ⟨es, hes, -⟩ := workedProject_run "lib" diligentAgents '1' rfl (sampleOid_ne (by decide))
  obtain ⟨run, hrun, hnew, -⟩ := recovered_run_facts
  exact ⟨⟨es, hes⟩, run, hrun, hnew, completed_work_kept_iff emptyProject_empty hes recoverCall
    (productStep_after _ recoverCall) hrun hnew⟩

/-- **A recovered run starts from the HEAD without the work it leaves out.**  One of two
tasks has an accepted commit, which is not integrated, and the recovered run has
only the other task and starts from the first commit. -/
theorem recovery_drops_completed_work :
    (∃ es, Runs.Run productStep emptyProject es (workedProject "lib" diligentAgents '1')) ∧
      recoveredProject ∈ (recoverCall.request (workedProject "lib" diligentAgents '1')).states ∧
      ∃ run ∈ recoveredProject.runs,
        run.runId ∉ (workedProject "lib" diligentAgents '1').runs.map ProductRun.runId ∧
        recoverCall.Reused (workedProject "lib" diligentAgents '1') recoveredProject "lib"
          (sampleOid '1') ∧
        "lib" ∉ run.dag.taskIds ∧
        ¬Contains recoveredProject.commits run.baseCommit (sampleOid '1') := by
  obtain ⟨es, hes, -⟩ := workedProject_run "lib" diligentAgents '1' rfl (sampleOid_ne (by decide))
  obtain ⟨run, hrun, hnew, hbase, hleft, hreused⟩ := recovered_run_facts
  refine ⟨⟨es, hes⟩, productStep_after _ recoverCall, run, hrun, hnew, hreused, hleft, ?_⟩
  rw [hbase, recoveredProject_facts.2.2]
  exact Contains.not_of_parent (ordered_taskCommit (sampleOid_ne (by decide))) List.mem_cons_self
    (List.mem_singleton.2 rfl) (Contains.refl _ _)

/-- **Resume contexts are grounded** in every run of the steps in which the commit that a
retried or recovered run is based on contains the checkpoints it takes over. -/
theorem resume_contexts_grounded {w₀ w : ProductWorld}
    {es : List (Runs.Event ProductWorld ProductInput Unit)} (h₀ : w₀.Empty)
    (h : Runs.Run productStep w₀ es w)
    (hhead : ∀ e ∈ es, ∀ call, e.input = .call call → call.BaseContains e.before) :
    ∀ run ∈ w.runs, ∀ node ∈ run.dag.tasks, ∀ context, node.resumeContext = some context →
      Contains w.commits run.baseCommit context.checkpointCommitSha := by
  have hinv : w.Inv True :=
    h.invariant_of_forall (P := fun e => ∀ call, e.input = .call call → call.BaseContains e.before)
      (fun _ _ _ _ hs hP hstep => productStep_inv hs (fun _ => hP) hstep) hhead (h₀.inv True)
  intro run hrun node hnode context hcontext
  refine hinv.runContexts trivial run hrun _ (TaskDAG.mem_checkpointCommits.2 ⟨node, hnode, ?_⟩)
  rw [TaskNode.checkpointCommit, hcontext]
  rfl

/-! ### A chain of derivations -/

/-- The project once the worker has left a checkpoint and the run is FAILED. -/
def failedProject : ProductWorld :=
  (workedProject "a" brokenAgents '6').setRows ⟨7⟩ ((workedRows "a" brokenAgents '6').closed .failed)
    [taskCommit '6', rootCommit]

/-- The request that resumes it. -/
def resumeCall : ApiCall :=
  .resume readyAnswers ⟨7⟩ ⟨8⟩

/-- The project after it. -/
def resumedProject : ProductWorld := failedProject.after resumeCall

/-- The project once the resumed run is FAILED too. -/
def abandonedProject : ProductWorld :=
  resumedProject.setRows ⟨8⟩ (WorkerState.closed ⟨Database.created WorkContent ⟨8⟩ ["a", "lib"], 0⟩
    .failed) [taskCommit '6', rootCommit]

/-- The request that starts it again. -/
def retryCall : ApiCall :=
  .retry readyAnswers ⟨8⟩ ⟨9⟩

/-- The project after it. -/
def retriedProject : ProductWorld := abandonedProject.after retryCall

/-- The project after the two requests. -/
theorem retriedProject_facts :
    ((resumedProject.runs.map fun run => (run.runId, run.baseCommit, run.dag.checkpointCommits)) =
        [(⟨8⟩, sampleOid '6', [sampleOid '6']), (⟨7⟩, sampleOid '0', [])] ∧
        resumedProject.commits = [taskCommit '6', rootCommit] ∧
        (resumedProject.runs.head?.map fun run => run.rows.db.evidence.length) = some 0) ∧
    (retriedProject.runs.map fun run => (run.runId, run.baseCommit, run.dag.checkpointCommits)) =
        [(⟨9⟩, sampleOid '0', [sampleOid '6']), (⟨8⟩, sampleOid '6', [sampleOid '6']),
          (⟨7⟩, sampleOid '0', [])] ∧
      retriedProject.commits = [taskCommit '6', rootCommit] := by
  decide +kernel

/-- The resumed project is reached by steps that meet the condition. -/
theorem resumedProject_run :
    ∃ es, Runs.Run productStep emptyProject es resumedProject ∧
      ∀ e ∈ es, ∀ call, e.input = .call call → call.BaseContains e.before := by
  obtain ⟨es, hes, hall⟩ := workedProject_run "a" brokenAgents '6' rfl (sampleOid_ne (by decide))
  obtain ⟨run, hrun, hfacts⟩ := List.map_eq_singleton_iff.1 createdProject_facts.1
  have hid : run.runId = ⟨7⟩ := (Prod.mk.inj hfacts).1
  have hmem : run ∈ createdProject.runs := hrun ▸ List.mem_singleton.2 rfl
  have hleased : { run with rows := leasedRows "a" } ∈
      (createdProject.setRows ⟨7⟩ (leasedRows "a") [rootCommit]).runs :=
    ProductWorld.mem_setRows run hmem hid
  have hfail : productStep (workedProject "a" brokenAgents '6') (.write ⟨7⟩ .other) ()
      failedProject :=
    productStep_closed hleased hid (ordered_taskCommit (sampleOid_ne (by decide)))
  have hresume : productStep failedProject (.call resumeCall) () resumedProject :=
    productStep_after failedProject resumeCall
  have hrest := Runs.Run.cons hfail (Runs.Run.cons hresume (Runs.Run.nil resumedProject))
  refine ⟨_, hes.append hrest, fun e he call hcall => ?_⟩
  simp only [List.mem_append, List.mem_cons, List.not_mem_nil, or_false] at he
  rcases he with he | rfl | rfl
  · exact hall e he call hcall
  · cases hcall
  · obtain rfl := ProductInput.call.inj hcall
    trivial

theorem resumed_contexts_grounded :
    (∃ run ∈ resumedProject.runs, run.dag.checkpointCommits = [sampleOid '6']) ∧
      ∀ run ∈ resumedProject.runs, ∀ node ∈ run.dag.tasks, ∀ context,
        node.resumeContext = some context →
          Contains resumedProject.commits run.baseCommit context.checkpointCommitSha := by
  obtain ⟨es, hes, hall⟩ := resumedProject_run
  obtain ⟨run, rest, hruns, hrun, -⟩ := List.map_eq_cons_iff.1 retriedProject_facts.1.1
  simp only [Prod.mk.injEq] at hrun
  exact ⟨⟨run, by simp [hruns], hrun.2.2⟩,
    resume_contexts_grounded emptyProject_empty hes hall⟩

/-- **A run that is started again keeps the contexts of its source and not its base**: the
resumed run is retried from the remote branch, which does not contain the
checkpoint. -/
theorem retried_context_not_grounded :
    (∃ es, Runs.Run productStep emptyProject es retriedProject) ∧
      ∃ run ∈ retriedProject.runs, ∃ node ∈ run.dag.tasks, ∃ context,
        node.resumeContext = some context ∧
          ¬Contains retriedProject.commits run.baseCommit context.checkpointCommitSha := by
  constructor
  · obtain ⟨es, hes, -⟩ := resumedProject_run
    obtain ⟨run, rest, hruns, hrun, -⟩ := List.map_eq_cons_iff.1 retriedProject_facts.1.1
    obtain ⟨-, hcommits, hevidence⟩ := retriedProject_facts.1
    rw [hruns, List.head?_cons, Option.map_some, Option.some.injEq] at hevidence
    simp only [Prod.mk.injEq] at hrun
    obtain ⟨hid, -⟩ := hrun
    have hmem : run ∈ resumedProject.runs := by
      rw [hruns]
      exact List.mem_cons_self
    have hfail : productStep resumedProject (.write ⟨8⟩ .other) () abandonedProject :=
      productStep_other resumedProject _ hmem hid hcommits
        (ordered_taskCommit (sampleOid_ne (by decide))) (List.eq_nil_of_length_eq_zero hevidence).symm
    have hretry : productStep abandonedProject (.call retryCall) () retriedProject :=
      productStep_after abandonedProject retryCall
    exact ⟨_, hes.append (Runs.Run.cons hfail (Runs.Run.cons hretry (Runs.Run.nil _)))⟩
  · obtain ⟨run, rest, hruns, hrun, -⟩ := List.map_eq_cons_iff.1 retriedProject_facts.2.1
    simp only [Prod.mk.injEq] at hrun
    obtain ⟨-, hbase, hcontexts⟩ := hrun
    have hmem : sampleOid '6' ∈ run.dag.checkpointCommits := by
      rw [hcontexts]
      exact List.mem_singleton.2 rfl
    obtain ⟨node, hnode, hcommit⟩ := TaskDAG.mem_checkpointCommits.1 hmem
    obtain ⟨context, hcontext, hsha⟩ := Option.map_eq_some_iff.1 hcommit
    have hrun : run ∈ retriedProject.runs := by
      rw [hruns]
      exact List.mem_cons_self
    refine ⟨run, hrun, node, hnode, context, hcontext, ?_⟩
    rw [hbase, hsha, retriedProject_facts.2.2]
    exact Contains.not_of_parent (ordered_taskCommit (sampleOid_ne (by decide))) List.mem_cons_self
      (List.mem_singleton.2 rfl) (Contains.refl _ _)

end DevFlow
