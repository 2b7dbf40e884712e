/-
# What holds of the runs and sessions of a project

One invariant of the runs, the sessions and the objects of a project
(`ProductWorld.Inv`), and what each write of the stores keeps of it.  The commits
that the evidence names are objects on the base of their run; a work package that
was captured names a commit of a run of its session; and, as long as `g` holds,
the checkpoints that the graphs resume from are contained in the bases.
-/

import DevFlow.Api.DerivedRuns

namespace DevFlow

open QueuedTaskWorker (RowsOf RowOf)

/-- The terminal evidence is that of the rows. -/
theorem mem_terminalEvidence {db : Database WorkContent}
    {execution : WorkerExecutionEvidence WorkContent} :
    execution ∈ terminalEvidence db ↔
      ∃ row ∈ db.evidence, row.payload = .workerExecution execution := by
  rw [terminalEvidence, List.mem_filterMap]
  constructor
  · rintro ⟨row, hrow, hsome⟩
    refine ⟨row, hrow, ?_⟩
    split at hsome
    · rename_i found hfound
      rw [hfound, Option.some.inj hsome]
    · cases hsome
  · rintro ⟨row, hrow, hpayload⟩
    exact ⟨row, hrow, by simp [hpayload]⟩

/-- Executions of different tasks name different commits. -/
def ProductRun.Apart (run : ProductRun) : Prop :=
  ∀ e ∈ run.executions, ∀ e' ∈ run.executions, e.taskId ≠ e'.taskId →
    ∀ c ∈ e.commits, c ∉ e'.commits

/-- The evidence of the run is of commits that were made for it. -/
def ProductRun.Made (commits : List GitCommit) (run : ProductRun) : Prop :=
  RowsOf (fun row execution => execution.Made commits run.baseCommit row) run.rows

theorem ProductRun.Made.mono {old new : List GitCommit} (hsub : old ⊆ new) {run : ProductRun}
    (h : run.Made old) : run.Made new :=
  fun row hrow => ⟨(h row hrow).1, fun execution hpayload =>
    ((h row hrow).2 execution hpayload).mono hsub⟩

/-- A package without a commit is not SUCCEEDED, and its commit is one of an execution of
a run of the session; for a SUCCEEDED one it is the accepted commit. -/
structure WorkPackage.Recorded (runs : List ProductRun) (sessionId : UUID) (package : WorkPackage) :
    Prop where
  commit : package.state = .succeeded → package.commitSha ≠ none
  source : ∀ c, package.commitSha = some c → ∃ run ∈ runs, package.sourceRunId = some run.runId ∧
    run.sessionId = some sessionId ∧ ∃ e ∈ run.executions, e.taskId = package.taskId ∧
      c ∈ e.commits ∧
      (package.state = .succeeded → e.status = .succeeded ∧ e.commitSha = some c)

/-- A package stays recorded when the runs that it may name are kept. -/
theorem WorkPackage.Recorded.mono {runs runs' : List ProductRun} {sessionId : UUID}
    {package : WorkPackage} (h : package.Recorded runs sessionId)
    (hkept : ∀ run ∈ runs, run.sessionId = some sessionId → ∃ run' ∈ runs',
      run'.runId = run.runId ∧ run'.sessionId = some sessionId ∧
        run.executions ⊆ run'.executions) :
    package.Recorded runs' sessionId := by
  refine ⟨h.commit, fun c hc => ?_⟩
  obtain ⟨run, hrun, hsource, hattached, e, he, hrest⟩ := h.source c hc
  obtain ⟨run', hrun', hid, hattached', hexecutions⟩ := hkept run hrun hattached
  exact ⟨run', hrun', hid ▸ hsource, hattached', e, hexecutions he, hrest⟩

namespace ProductWorld

/-- **The invariant**; the last two fields hold as long as `g` does. -/
structure Inv (g : Prop) (w : ProductWorld) : Prop where
  ordered : Ordered w.commits
  runIds : (w.runs.map ProductRun.runId).Nodup
  sessionIds : (w.sessions.map DevelopmentSession.sessionId).Nodup
  made : ∀ run ∈ w.runs, run.Made w.commits
  apart : ∀ run ∈ w.runs, run.Apart
  recorded : ∀ session ∈ w.sessions, ∀ package ∈ session.workPackages,
    package.Recorded w.runs session.sessionId
  attached : ∀ run ∈ w.runs, ∀ sessionId, run.sessionId = some sessionId →
    sessionId ∈ w.sessions.map DevelopmentSession.sessionId
  latest : ∀ session ∈ w.sessions, ∀ runId, session.latestRunId = some runId →
    ∃ run ∈ w.runs, run.runId = runId ∧ run.sessionId = some session.sessionId
  runContexts : g → ∀ run ∈ w.runs, ∀ c ∈ run.dag.checkpointCommits,
    Contains w.commits run.baseCommit c
  planContexts : g → ∀ session ∈ w.sessions, ∀ plan, session.dag = some plan →
    ∀ c ∈ plan.checkpointCommits, Contains w.commits session.baseCommit c ∧
      ∀ run ∈ w.runs, run.sessionId = some session.sessionId → Contains w.commits run.baseCommit c

section lookups

variable {g : Prop} {w : ProductWorld} {run run' : ProductRun} {runId sessionId : UUID}
  {session session' : DevelopmentSession}

theorem loadRun_eq_ok (h : w.loadRun runId = .ok run) : run ∈ w.runs ∧ run.runId = runId := by
  unfold loadRun at h
  split at h
  · rename_i found hfound
    obtain rfl := Except.ok.inj h
    exact ⟨List.mem_of_find?_eq_some hfound, by simpa using List.find?_some hfound⟩
  · cases h

theorem snapshot_eq_ok (h : w.snapshot sessionId = .ok session) :
    session ∈ w.sessions ∧ session.sessionId = sessionId := by
  unfold snapshot at h
  split at h
  · rename_i found hfound
    obtain rfl := Except.ok.inj h
    exact ⟨List.mem_of_find?_eq_some hfound, by simpa using List.find?_some hfound⟩
  · cases h

theorem Inv.run_unique (h : w.Inv g) (hrun : run ∈ w.runs) (hrun' : run' ∈ w.runs)
    (hid : run.runId = run'.runId) : run = run' :=
  List.inj_on_of_nodup_map h.runIds hrun hrun' hid

theorem Inv.session_unique (h : w.Inv g) (hsession : session ∈ w.sessions)
    (hsession' : session' ∈ w.sessions) (hid : session.sessionId = session'.sessionId) :
    session = session' :=
  List.inj_on_of_nodup_map h.sessionIds hsession hsession' hid

/-- The commits of the packages of a session contain what the plan resumes from. -/
theorem Inv.package_contains (h : w.Inv g) (hg : g) (hsession : session ∈ w.sessions)
    {plan : TaskDAG} (hplan : session.dag = some plan) {package : WorkPackage}
    (hpackage : package ∈ session.workPackages) {commit c : String}
    (hcommit : package.commitSha = some commit) (hc : c ∈ plan.checkpointCommits) :
    Contains w.commits commit c := by
  obtain ⟨run, hrun, -, hattached, e, he, -, hmem, -⟩ :=
    (h.recorded session hsession package hpackage).source commit hcommit
  obtain ⟨row, hrow, hpayload⟩ := mem_terminalEvidence.1 he
  have hbase := ((h.made run hrun row hrow).2 e hpayload).contains hmem
  exact hbase.trans ((h.planContexts hg session hsession plan hplan c hc).2 run hrun hattached)

end lookups

/-! ### The writes -/

section writes

variable {g : Prop} {w : ProductWorld}

theorem Inv.setHead (h : w.Inv g) (commit : String) : Inv g { w with head := commit } :=
  ⟨h.ordered, h.runIds, h.sessionIds, h.made, h.apart, h.recorded, h.attached, h.latest,
    h.runContexts, h.planContexts⟩

/-- **Objects are added to the repository.** -/
theorem Inv.addCommits (h : w.Inv g) {commits : List GitCommit} (hordered : Ordered commits)
    (hsub : w.commits ⊆ commits) : Inv g { w with commits } where
  ordered := hordered
  runIds := h.runIds
  sessionIds := h.sessionIds
  made := fun run hrun => (h.made run hrun).mono hsub
  apart := h.apart
  recorded := h.recorded
  attached := h.attached
  latest := h.latest
  runContexts := fun hg run hrun c hc => (h.runContexts hg run hrun c hc).mono hsub
  planContexts := fun hg session hsession plan hplan c hc => by
    obtain ⟨hbase, hruns⟩ := h.planContexts hg session hsession plan hplan c hc
    exact ⟨hbase.mono hsub, fun run hrun hattached => (hruns run hrun hattached).mono hsub⟩

/-- **A run is started**, without evidence. -/
theorem Inv.addRun (h : w.Inv g) (run : ProductRun)
    (hfresh : run.runId ∉ w.runs.map ProductRun.runId)
    (hrows : run.rows.db.evidence = []) (hdetached : run.sessionId = none)
    (hcontexts : g → ∀ c ∈ run.dag.checkpointCommits, Contains w.commits run.baseCommit c) :
    Inv g (w.addRun run) where
  ordered := h.ordered
  runIds := List.nodup_cons.2 ⟨hfresh, h.runIds⟩
  sessionIds := h.sessionIds
  made := by
    refine List.forall_mem_cons.2 ⟨fun row hrow => ?_, h.made⟩
    rw [hrows] at hrow
    cases hrow
  apart := by
    refine List.forall_mem_cons.2 ⟨fun e he => ?_, h.apart⟩
    obtain ⟨row, hrow, -⟩ := mem_terminalEvidence.1 he
    rw [hrows] at hrow
    cases hrow
  recorded := fun session hsession package hpackage =>
    (h.recorded session hsession package hpackage).mono fun run' hrun' hattached =>
      ⟨run', List.mem_cons_of_mem _ hrun', rfl, hattached, fun _ he => he⟩
  attached := by
    refine List.forall_mem_cons.2 ⟨fun sessionId hsome => ?_, h.attached⟩
    rw [hdetached] at hsome
    cases hsome
  latest := fun session hsession runId hlatest => by
    obtain ⟨run', hrun', hrest⟩ := h.latest session hsession runId hlatest
    exact ⟨run', List.mem_cons_of_mem _ hrun', hrest⟩
  runContexts := fun hg => List.forall_mem_cons.2 ⟨hcontexts hg, h.runContexts hg⟩
  planContexts := fun hg session hsession plan hplan c hc => by
    obtain ⟨hbase, hruns⟩ := h.planContexts hg session hsession plan hplan c hc
    refine ⟨hbase, List.forall_mem_cons.2 ⟨fun hsome => ?_, hruns⟩⟩
    rw [hdetached] at hsome
    cases hsome

/-- **A session is created**, with packages that are pending. -/
theorem Inv.addSession (h : w.Inv g) (session : DevelopmentSession)
    (hfresh : session.sessionId ∉ w.sessions.map DevelopmentSession.sessionId)
    (hpackages : ∀ package ∈ session.workPackages, package.state = .pending ∧
      package.commitSha = none) (hlatest : session.latestRunId = none)
    (hcontexts : g → ∀ plan, session.dag = some plan → ∀ c ∈ plan.checkpointCommits,
      Contains w.commits session.baseCommit c) :
    Inv g { w with sessions := session :: w.sessions } where
  ordered := h.ordered
  runIds := h.runIds
  sessionIds := List.nodup_cons.2 ⟨hfresh, h.sessionIds⟩
  made := h.made
  apart := h.apart
  recorded := by
    refine List.forall_mem_cons.2 ⟨fun package hpackage => ?_, h.recorded⟩
    obtain ⟨hpending, hnone⟩ := hpackages package hpackage
    refine ⟨fun hstate => ?_, fun c hc => ?_⟩
    · rw [hpending] at hstate
      cases hstate
    · rw [hnone] at hc
      cases hc
  attached := fun run hrun sessionId hsome =>
    List.mem_cons_of_mem _ (h.attached run hrun sessionId hsome)
  latest := by
    refine List.forall_mem_cons.2 ⟨fun runId hsome => ?_, h.latest⟩
    rw [hlatest] at hsome
    cases hsome
  runContexts := h.runContexts
  planContexts := fun hg => by
    refine List.forall_mem_cons.2 ⟨fun plan hplan c hc => ?_, h.planContexts hg⟩
    refine ⟨hcontexts hg plan hplan c hc, fun run hrun hsome => ?_⟩
    exact absurd (h.attached run hrun _ hsome) hfresh

theorem mem_mapSession {sessionId : UUID} {change : DevelopmentSession → DevelopmentSession}
    {session : DevelopmentSession} (hsession : session ∈ (w.mapSession sessionId change).sessions) :
    (session ∈ w.sessions ∧ session.sessionId ≠ sessionId) ∨
      ∃ old ∈ w.sessions, old.sessionId = sessionId ∧ session = change old := by
  obtain ⟨old, hold, rfl⟩ := List.mem_map.1 hsession
  by_cases hid : old.sessionId = sessionId
  · rw [if_pos hid]
    exact Or.inr ⟨old, hold, hid, rfl⟩
  · rw [if_neg hid]
    exact Or.inl ⟨hold, hid⟩

theorem mapSession_ids {sessionId : UUID} {change : DevelopmentSession → DevelopmentSession}
    (hid : ∀ session, (change session).sessionId = session.sessionId) :
    (w.mapSession sessionId change).sessions.map DevelopmentSession.sessionId =
      w.sessions.map DevelopmentSession.sessionId := by
  rw [mapSession, List.map_map]
  refine List.map_congr_left fun session _ => ?_
  dsimp only [Function.comp]
  split_ifs
  · exact hid session
  · rfl

/-- **A session is changed**: its identity, its base and its latest run stay, its
packages are recorded, and a new plan resumes from nothing. -/
theorem Inv.mapSession (h : w.Inv g) {sessionId : UUID}
    {change : DevelopmentSession → DevelopmentSession}
    (hid : ∀ session, (change session).sessionId = session.sessionId)
    (hbase : ∀ session, (change session).baseCommit = session.baseCommit)
    (hlatest : ∀ session, (change session).latestRunId = session.latestRunId)
    (hpackages : ∀ session ∈ w.sessions, session.sessionId = sessionId →
      ∀ package ∈ (change session).workPackages, package.Recorded w.runs sessionId)
    (hplan : ∀ session plan, (change session).dag = some plan →
      session.dag = some plan ∨ plan.checkpointCommits = []) :
    Inv g (w.mapSession sessionId change) where
  ordered := h.ordered
  runIds := h.runIds
  sessionIds := by
    rw [mapSession_ids hid]
    exact h.sessionIds
  made := h.made
  apart := h.apart
  recorded := fun session hsession package hpackage => by
    rcases mem_mapSession hsession with ⟨hold, -⟩ | ⟨old, hold, hold_id, rfl⟩
    · exact h.recorded session hold package hpackage
    · rw [hid, hold_id]
      exact hpackages old hold hold_id package hpackage
  attached := by
    rw [mapSession_ids hid]
    exact h.attached
  latest := fun session hsession runId hsome => by
    rcases mem_mapSession hsession with ⟨hold, -⟩ | ⟨old, hold, -, rfl⟩
    · exact h.latest session hold runId hsome
    · rw [hlatest] at hsome
      rw [hid]
      exact h.latest old hold runId hsome
  runContexts := h.runContexts
  planContexts := fun hg session hsession plan hsome c hc => by
    rcases mem_mapSession hsession with ⟨hold, -⟩ | ⟨old, hold, -, rfl⟩
    · exact h.planContexts hg session hold plan hsome c hc
    · rcases hplan old plan hsome with hsame | hempty
      · rw [hid, hbase]
        exact h.planContexts hg old hold plan hsame c hc
      · rw [hempty] at hc
        cases hc

/-- The executions that are captured are those of the rows, by the loop over the rows. -/
theorem latestExecutions_mem {db : Database WorkContent}
    {latest : List (String × WorkerExecutionEvidence WorkContent)}
    (h : latestExecutions db = .ok latest) :
    ∀ entry ∈ latest, ∃ row ∈ db.evidence, row.taskId = some entry.1 ∧
      row.payload = .workerExecution entry.2 := by
  refine Raising.foldlM_invariant_mem (P := fun latest => ∀ entry ∈ latest, ∃ row ∈ db.evidence,
    row.taskId = some entry.1 ∧ row.payload = .workerExecution entry.2)
    (fun start row hrow next hstart hround => ?_) (fun _ hentry => by cases hentry) h
  unfold recordLatest at hround
  cases htask : row.taskId with
  | none =>
    simp only [htask] at hround
    obtain rfl := Except.ok.inj hround
    exact hstart
  | some taskId =>
    simp only [htask, Raising.bind_eq_ok, Raising.pure_eq_ok] at hround
    obtain ⟨execution, hvalid, rfl⟩ := hround
    refine List.forall_mem_cons.2 ⟨⟨row, List.mem_of_mem_filter hrow, htask, ?_⟩,
      fun entry hentry => hstart entry (List.mem_of_mem_filter hentry)⟩
    unfold validatedExecution at hvalid
    split at hvalid
    · rename_i found hfound
      rw [hfound, Except.ok.inj hvalid]
    · cases hvalid

/-- The package after the capture of an execution of a run of the session. -/
theorem captured_recorded {run : ProductRun} (hmade : run.Made w.commits) (hrun : run ∈ w.runs)
    {sessionId : UUID} (hattached : run.sessionId = some sessionId) {package : WorkPackage}
    {row : EvidenceRow WorkContent} (hrow : row ∈ run.rows.db.evidence)
    (htask : row.taskId = some package.taskId)
    {execution : WorkerExecutionEvidence WorkContent}
    (hpayload : row.payload = .workerExecution execution) :
    (package.captured run.runId execution).Recorded w.runs sessionId := by
  have hsame : execution.taskId = package.taskId := by
    have hrowTask := ((hmade row hrow).2 execution hpayload).row_task
    rw [htask] at hrowTask
    exact (Option.some.inj hrowTask).symm
  have hmem : execution ∈ run.executions := mem_terminalEvidence.2 ⟨row, hrow, hpayload⟩
  by_cases hsucceeded : execution.status = .succeeded
  · refine ⟨fun _ => ?_, fun c hc => ?_⟩
    · simpa [WorkPackage.captured, hsucceeded] using execution.success_commit hsucceeded
    · have hcommit : execution.commitSha = some c := by
        simpa [WorkPackage.captured, hsucceeded] using hc
      exact ⟨run, hrun, rfl, hattached, execution, hmem, hsame,
        List.mem_append_left _ (Option.mem_toList.2 hcommit), fun _ => ⟨hsucceeded, hcommit⟩⟩
  · have hstate : (package.captured run.runId execution).state ≠ .succeeded := by
      simp only [WorkPackage.captured, if_neg hsucceeded]
      split_ifs
      · decide
      · decide
    refine ⟨fun h => absurd h hstate, fun c hc => ?_⟩
    have hcommit : execution.checkpoint.map TaskCheckpoint.commitSha = some c := by
      simpa [WorkPackage.captured, hsucceeded] using hc
    exact ⟨run, hrun, rfl, hattached, execution, hmem, hsame,
      List.mem_append_right _ (Option.mem_toList.2 hcommit), fun h => absurd h hstate⟩

/-- **The progress of a run is captured** by its session. -/
theorem Inv.capture (h : w.Inv g) {run : ProductRun} (hrun : run ∈ w.runs) {sessionId : UUID}
    (hattached : run.sessionId = some sessionId)
    {latest : List (String × WorkerExecutionEvidence WorkContent)}
    (hlatest : latestExecutions run.rows.db = .ok latest) :
    Inv g (w.mapSession sessionId fun session => session.captured run.runId latest) := by
  refine h.mapSession (fun _ => rfl) (fun _ => rfl) (fun _ => rfl)
    (fun session hsession hid package hpackage => ?_) fun _ _ hplan => Or.inl hplan
  obtain ⟨old, hold, rfl⟩ := List.mem_map.1 hpackage
  cases hlookup : latest.lookup old.taskId with
  | none => exact hid ▸ h.recorded session hsession old hold
  | some execution =>
    have hentry : (old.taskId, execution) ∈ latest := by
      obtain ⟨before, after, rfl, -⟩ := List.lookup_eq_some_iff.1 hlookup
      exact List.mem_append_right _ List.mem_cons_self
    obtain ⟨row, hrow, htask, hpayload⟩ := latestExecutions_mem hlatest _ hentry
    exact captured_recorded (h.made run hrun) hrun hattached hrow htask hpayload

theorem mem_mapRun {runId : UUID} {change : ProductRun → ProductRun} {run : ProductRun}
    (hrun : run ∈ (w.mapRun runId change).runs) :
    ∃ old ∈ w.runs, run = if old.runId = runId then change old else old := by
  obtain ⟨old, hold, rfl⟩ := List.mem_map.1 hrun
  exact ⟨old, hold, rfl⟩

theorem mapRun_ids {runId : UUID} {change : ProductRun → ProductRun}
    (hid : ∀ run, (change run).runId = run.runId) :
    (w.mapRun runId change).runs.map ProductRun.runId = w.runs.map ProductRun.runId := by
  rw [mapRun, List.map_map]
  refine List.map_congr_left fun run _ => ?_
  dsimp only [Function.comp]
  split_ifs
  · exact hid run
  · rfl

/-- **The rows of a run are written**, and objects are added to the repository. -/
theorem Inv.setRows (h : w.Inv g) {commits : List GitCommit} (hordered : Ordered commits)
    (hsub : w.commits ⊆ commits) {runId : UUID} {change : ProductRun → ProductRun}
    (hid : ∀ run, (change run).runId = run.runId) (hdag : ∀ run, (change run).dag = run.dag)
    (hbase : ∀ run, (change run).baseCommit = run.baseCommit)
    (hsession : ∀ run, (change run).sessionId = run.sessionId)
    (hrows : ∀ run ∈ w.runs, run.runId = runId → run.executions ⊆ (change run).executions ∧
      (change run).Made commits ∧ (change run).Apart) :
    Inv g { (w.mapRun runId change) with commits } := by
  have hfacts : ∀ run ∈ (w.mapRun runId change).runs, ∃ old ∈ w.runs, run.runId = old.runId ∧
      run.dag = old.dag ∧ run.baseCommit = old.baseCommit ∧ run.sessionId = old.sessionId ∧
      run.Made commits ∧ run.Apart := by
    intro run hrun
    obtain ⟨old, hold, rfl⟩ := mem_mapRun hrun
    refine ⟨old, hold, ?_⟩
    split_ifs with hsame
    · obtain ⟨-, hmade, hapart⟩ := hrows old hold hsame
      exact ⟨hid old, hdag old, hbase old, hsession old, hmade, hapart⟩
    · exact ⟨rfl, rfl, rfl, rfl, (h.made old hold).mono hsub, h.apart old hold⟩
  have hkept : ∀ run ∈ w.runs, ∃ run' ∈ (w.mapRun runId change).runs, run'.runId = run.runId ∧
      run'.sessionId = run.sessionId ∧ run.executions ⊆ run'.executions := by
    intro run hrun
    refine ⟨_, List.mem_map.2 ⟨run, hrun, rfl⟩, ?_⟩
    split_ifs with hsame
    · exact ⟨hid run, hsession run, (hrows run hrun hsame).1⟩
    · exact ⟨rfl, rfl, fun _ he => he⟩
  exact {
    ordered := hordered
    runIds := by
      rw [mapRun_ids hid]
      exact h.runIds
    sessionIds := h.sessionIds
    made := fun run hrun => (hfacts run hrun).choose_spec.2.2.2.2.2.1
    apart := fun run hrun => (hfacts run hrun).choose_spec.2.2.2.2.2.2
    recorded := fun session hmem package hpackage =>
      (h.recorded session hmem package hpackage).mono fun run hrun hattached => by
        obtain ⟨run', hrun', hid', hsession', hexecutions⟩ := hkept run hrun
        exact ⟨run', hrun', hid', hsession'.trans hattached, hexecutions⟩
    attached := fun run hrun sessionId hsome => by
      obtain ⟨old, hold, -, -, -, hsession', -⟩ := hfacts run hrun
      exact h.attached old hold sessionId (hsession'.symm.trans hsome)
    latest := fun session hmem id hsome => by
      obtain ⟨run, hrun, hrunId, hattached⟩ := h.latest session hmem id hsome
      obtain ⟨run', hrun', hid', hsession', -⟩ := hkept run hrun
      exact ⟨run', hrun', hid'.trans hrunId, hsession'.trans hattached⟩
    runContexts := fun hg run hrun c hc => by
      obtain ⟨old, hold, -, hdag', hbase', -⟩ := hfacts run hrun
      rw [hdag'] at hc
      rw [hbase']
      exact (h.runContexts hg old hold c hc).mono hsub
    planContexts := fun hg session hmem plan hplan c hc => by
      obtain ⟨hold, hruns⟩ := h.planContexts hg session hmem plan hplan c hc
      refine ⟨hold.mono hsub, fun run hrun hattached => ?_⟩
      obtain ⟨old, hmemOld, -, -, hbase', hsession', -⟩ := hfacts run hrun
      rw [hbase']
      exact (hruns old hmemOld (hsession'.symm.trans hattached)).mono hsub }

/-- **A column is written** that is not part of the invariant. -/
theorem Inv.mapRun (h : w.Inv g) {runId : UUID} {change : ProductRun → ProductRun}
    (hid : ∀ run, (change run).runId = run.runId) (hdag : ∀ run, (change run).dag = run.dag)
    (hbase : ∀ run, (change run).baseCommit = run.baseCommit)
    (hsession : ∀ run, (change run).sessionId = run.sessionId)
    (hrows : ∀ run, (change run).rows = run.rows) : Inv g (w.mapRun runId change) := by
  refine h.setRows h.ordered (List.Subset.refl _) hid hdag hbase hsession fun run hrun _ => ?_
  have hsame : (change run).executions = run.executions := by
    rw [ProductRun.executions, hrows]
    rfl
  refine ⟨fun _ he => hsame ▸ he, ?_, ?_⟩
  · intro row hrow
    rw [hrows] at hrow
    rw [hbase]
    exact h.made run hrun row hrow
  · unfold ProductRun.Apart
    rw [hsame]
    exact h.apart run hrun

/-- **A run is attached to a session**, when it is in none yet and its base contains
what the plan of the session resumes from. -/
theorem Inv.attach (h : w.Inv g) {sessionId runId : UUID}
    (hsession : sessionId ∈ w.sessions.map DevelopmentSession.sessionId) {run : ProductRun}
    (hrun : run ∈ w.runs) (hid : run.runId = runId) (hdetached : run.sessionId = none)
    (hcontexts : g → ∀ session ∈ w.sessions, session.sessionId = sessionId → ∀ plan,
      session.dag = some plan → ∀ c ∈ plan.checkpointCommits,
        Contains w.commits run.baseCommit c) :
    Inv g (w.attach sessionId runId) := by
  have hruns : ∀ other ∈ (w.attach sessionId runId).runs, ∃ old ∈ w.runs,
      other.runId = old.runId ∧ other.dag = old.dag ∧ other.baseCommit = old.baseCommit ∧
      other.rows = old.rows ∧
      ((old = run ∧ other.sessionId = some sessionId) ∨ other.sessionId = old.sessionId) := by
    intro other hother
    obtain ⟨old, hold, rfl⟩ := mem_mapRun hother
    refine ⟨old, hold, ?_⟩
    split_ifs with hsame
    · exact ⟨rfl, rfl, rfl, rfl, Or.inl ⟨h.run_unique hold hrun (hsame.trans hid.symm), rfl⟩⟩
    · exact ⟨rfl, rfl, rfl, rfl, Or.inr rfl⟩
  have hrunIds : (w.attach sessionId runId).runs.map ProductRun.runId =
      w.runs.map ProductRun.runId := mapRun_ids fun _ => rfl
  have hsessionIds : (w.attach sessionId runId).sessions.map DevelopmentSession.sessionId =
      w.sessions.map DevelopmentSession.sessionId := mapSession_ids fun _ => rfl
  -- a run that is in a session is another one, and stays as it is
  have hother : ∀ old ∈ w.runs, old.sessionId ≠ none → old ∈ (w.attach sessionId runId).runs := by
    intro old hold hsome
    refine List.mem_map.2 ⟨old, hold, if_neg fun hsame => hsome ?_⟩
    rw [h.run_unique hold hrun (hsame.trans hid.symm)]
    exact hdetached
  have hnew : { run with sessionId := some sessionId } ∈ (w.attach sessionId runId).runs :=
    List.mem_map.2 ⟨run, hrun, if_pos hid⟩
  exact {
    ordered := h.ordered
    runIds := by
      rw [hrunIds]
      exact h.runIds
    sessionIds := by
      rw [hsessionIds]
      exact h.sessionIds
    made := fun other hmem => by
      obtain ⟨old, hold, -, -, hbase, hrows, -⟩ := hruns other hmem
      unfold ProductRun.Made
      rw [hbase, hrows]
      exact h.made old hold
    apart := fun other hmem => by
      obtain ⟨old, hold, -, -, -, hrows, -⟩ := hruns other hmem
      unfold ProductRun.Apart ProductRun.executions
      rw [hrows]
      exact h.apart old hold
    recorded := fun session hmem package hpackage => by
      have hold : ∃ old ∈ w.sessions, old.sessionId = session.sessionId ∧
          package ∈ old.workPackages := by
        rcases mem_mapSession hmem with ⟨hold, -⟩ | ⟨old, hold, -, rfl⟩
        · exact ⟨session, hold, rfl, hpackage⟩
        · exact ⟨old, hold, rfl, hpackage⟩
      obtain ⟨old, hold, hsame, hpackageOld⟩ := hold
      rw [← hsame]
      refine (h.recorded old hold package hpackageOld).mono fun other hmemOther hattached => ?_
      exact ⟨other, hother other hmemOther (by rw [hattached]; exact Option.some_ne_none _), rfl,
        hattached, fun _ he => he⟩
    attached := fun other hmem id hsome => by
      rw [hsessionIds]
      obtain ⟨old, hold, -, -, -, -, ⟨-, hattached⟩ | hsame⟩ := hruns other hmem
      · obtain rfl := Option.some.inj (hattached.symm.trans hsome)
        exact hsession
      · exact h.attached old hold id (hsame.symm.trans hsome)
    latest := fun session hmem id hsome => by
      rcases mem_mapSession hmem with ⟨hold, -⟩ | ⟨old, hold, hsessionId, rfl⟩
      · obtain ⟨other, hmemOther, hotherId, hattached⟩ := h.latest session hold id hsome
        exact ⟨other, hother other hmemOther (by rw [hattached]; exact Option.some_ne_none _),
          hotherId, hattached⟩
      · obtain rfl := Option.some.inj hsome
        exact ⟨_, hnew, hid, by rw [← hsessionId]⟩
    runContexts := fun hg other hmem c hc => by
      obtain ⟨old, hold, -, hdag, hbase, -, -⟩ := hruns other hmem
      rw [hdag] at hc
      rw [hbase]
      exact h.runContexts hg old hold c hc
    planContexts := fun hg session hmem plan hplan c hc => by
      have hold : ∃ old ∈ w.sessions, old.sessionId = session.sessionId ∧
          old.baseCommit = session.baseCommit ∧ old.dag = session.dag := by
        rcases mem_mapSession hmem with ⟨hold, -⟩ | ⟨old, hold, -, rfl⟩
        · exact ⟨session, hold, rfl, rfl, rfl⟩
        · exact ⟨old, hold, rfl, rfl, rfl⟩
      obtain ⟨old, hold, hsame, hbase, hdag⟩ := hold
      obtain ⟨hcontained, hattachedRuns⟩ :=
        h.planContexts hg old hold plan (hdag.trans hplan) c hc
      refine ⟨hbase ▸ hcontained, fun other hmemOther hsome => ?_⟩
      obtain ⟨oldRun, holdRun, -, -, hbaseRun, -, ⟨rfl, hattached⟩ | hsameSession⟩ :=
        hruns other hmemOther
      · obtain rfl := Option.some.inj (hattached.symm.trans hsome)
        rw [hbaseRun]
        exact hcontexts hg old hold hsame plan (hdag.trans hplan) c hc
      · rw [hbaseRun]
        exact hattachedRuns oldRun holdRun (hsameSession.symm.trans (hsome.trans (by rw [hsame]))) }

end writes

end ProductWorld

end DevFlow
