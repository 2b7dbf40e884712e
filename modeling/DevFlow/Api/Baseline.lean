/-
# The baseline of a development session

The base of a session is the commit that a synchronization returned, the commit of
the remote branch.  The recovery preview and an AUTO continuation compare it with
the HEAD of the managed workspace, and no request moves that HEAD
(`ApiCall.request_head`): it is the commit the workspace was provisioned with.  So a
change of the remote is detected exactly when the last synchronization returned
that commit, or when neither of the two is the base (`baseline_detection_iff`).
-/

import DevFlow.Api.CompletedWork
import DevFlow.Workspace.Provision

namespace DevFlow

open Durable (Prog)

/-- `DevelopmentSessionBaselineState`. -/
inductive BaselineState
  | unchanged
  | changed
deriving DecidableEq, Repr

/-- `baseline_state` of the preview. -/
def DevelopmentSession.baselineState (session : DevelopmentSession) (currentCommit : String) :
    BaselineState :=
  if currentCommit = session.baseCommit then .unchanged else .changed

/-- `get_development_session_recovery`: what it writes to the session, and the baseline
state that it reports. -/
def getDevelopmentSessionRecovery (sessionId : UUID) : Prog ProductWorld Failure BaselineState := do
  let w ← Durable.read
  let session ← Durable.lift (w.snapshot sessionId)
  match session.latestRunId with
  | none => return session.baselineState w.head
  | some latestRunId =>
    let latest ← Durable.lift (w.loadRun latestRunId)
    captureRunProgress sessionId latest
    let w ← Durable.read
    let session ← Durable.lift (w.snapshot sessionId)
    return session.baselineState w.head

/-- The refusal of a continuation whose baseline has changed. -/
def baselineChanged : Failure :=
  ⟨.persistenceConflict,
    "仓库基线已变化。请先查看恢复预览，并明确选择基于旧基线继续或重新规划。"⟩

/-! ### HEAD -/

section head

variable {head : String}

theorem startRun_head (answers : LaunchAnswers) (runId : UUID) (dag : TaskDAG)
    (baseCommit : String) :
    Durable.Keeps (fun t : ProductWorld => t.head = head)
      (startRun answers runId dag baseCommit) := by
  refine Durable.Keeps.transact fun s a t hs h => ?_
  simp only [Raising.bind_eq_ok, Raising.raiseIf_eq_ok, Raising.pure_eq_ok, Prod.mk.injEq] at h
  obtain ⟨_, -, _, -, _, -, -, rfl⟩ := h
  exact hs

theorem createSession_head (sessionId : UUID) (baseCommit : String) :
    Durable.Keeps (fun t : ProductWorld => t.head = head) (createSession sessionId baseCommit) := by
  refine Durable.Keeps.transact fun s a t hs h => ?_
  simp only [Raising.bind_eq_ok, Raising.raiseIf_eq_ok, Raising.pure_eq_ok, Prod.mk.injEq] at h
  obtain ⟨_, -, -, rfl⟩ := h
  exact hs

theorem updateSession_head (sessionId : UUID) (change : DevelopmentSession → DevelopmentSession) :
    Durable.Keeps (fun t : ProductWorld => t.head = head) (updateSession sessionId change) := by
  refine Durable.Keeps.transact fun s a t hs h => ?_
  simp only [Raising.bind_eq_ok, Raising.raiseIf_eq_ok, Raising.pure_eq_ok, Prod.mk.injEq] at h
  obtain ⟨_, -, -, rfl⟩ := h
  exact hs

theorem attachRun_head (sessionId runId : UUID) :
    Durable.Keeps (fun t : ProductWorld => t.head = head) (attachRun sessionId runId) := by
  refine Durable.Keeps.transact fun s a t hs h => ?_
  simp only [Raising.bind_eq_ok, Raising.raiseIf_eq_ok, Raising.pure_eq_ok, Prod.mk.injEq] at h
  obtain ⟨_, -, -, rfl⟩ := h
  exact hs

theorem linkRecovery_head (sourceRunId recoveredRunId : UUID) :
    Durable.Keeps (fun t : ProductWorld => t.head = head)
      (linkRecovery sourceRunId recoveredRunId) := by
  refine Durable.Keeps.transact fun s a t hs h => ?_
  split_ifs at h
  · obtain ⟨-, rfl⟩ := Prod.mk.inj (Raising.pure_eq_ok.1 h)
    exact hs
  · simp only [Raising.bind_eq_ok, Raising.raiseIf_eq_ok, Raising.pure_eq_ok, Prod.mk.injEq] at h
    obtain ⟨_, -, -, rfl⟩ := h
    exact hs

theorem captureRunProgress_head (sessionId : UUID) (run : ProductRun) :
    Durable.Keeps (fun t : ProductWorld => t.head = head) (captureRunProgress sessionId run) := by
  unfold captureRunProgress
  exact Durable.Keeps.bind (Durable.Keeps.lift _) fun _ _ _ _ => Durable.Keeps.write fun _ hs => hs

/-- A check or an answer from outside, and then the rest. -/
theorem keeps_lift_bind {I : ProductWorld → Prop} {α β : Type} {x : Except Failure α}
    {f : α → Prog ProductWorld Failure β} (hf : ∀ a, Durable.Keeps I (f a)) :
    Durable.Keeps I (Durable.lift x >>= f) :=
  Durable.Keeps.bind (Durable.Keeps.lift x) fun _ a _ _ => hf a

theorem keeps_bind {I : ProductWorld → Prop} {α β : Type} {x : Prog ProductWorld Failure α}
    {f : α → Prog ProductWorld Failure β} (hx : Durable.Keeps I x)
    (hf : ∀ a, Durable.Keeps I (f a)) : Durable.Keeps I (x >>= f) :=
  Durable.Keeps.bind hx fun _ a _ _ => hf a

theorem launchPlanned_head (answers : LaunchAnswers) (sessionId : Option UUID) (runId : UUID)
    (plan : PlannedDag) (baseCommit : String) :
    Durable.Keeps (fun t : ProductWorld => t.head = head)
      (launchPlanned answers sessionId runId plan baseCommit) := by
  unfold launchPlanned
  cases sessionId with
  | none =>
    exact keeps_bind (startRun_head _ _ _ _) fun _ => keeps_lift_bind fun _ => Durable.Keeps.pure _
  | some sessionId =>
    exact keeps_bind (updateSession_head _ _) fun _ => keeps_bind (startRun_head _ _ _ _) fun _ =>
      keeps_bind (attachRun_head _ _) fun _ => keeps_lift_bind fun _ => Durable.Keeps.pure _

theorem continueWith_head (answers : LaunchAnswers) (mode : ContinuationMode)
    (sessionId newRunId : UUID) (session : DevelopmentSession) (plan : TaskDAG) :
    Durable.Keeps (fun t : ProductWorld => t.head = head)
      (continueWith answers mode sessionId newRunId session plan) := by
  unfold continueWith
  refine keeps_lift_bind fun remaining => ?_
  cases remaining with
  | none => exact keeps_bind (updateSession_head _ _) fun _ => Durable.Keeps.lift _
  | some remaining =>
    refine keeps_lift_bind fun _ => Durable.Keeps.read_bind fun w _ => keeps_lift_bind fun _ =>
      keeps_lift_bind fun _ => keeps_lift_bind fun _ =>
        keeps_bind (startRun_head _ _ _ _) fun _ => ?_
    exact keeps_lift_bind fun _ => keeps_bind (attachRun_head _ _) fun _ => Durable.Keeps.pure _

theorem createRequirementRun_head (answers : LaunchAnswers) (planning : PlanningAnswers)
    (newSessionId newRunId : UUID) : Durable.Keeps (fun t : ProductWorld => t.head = head)
      (createRequirementRun answers planning newSessionId newRunId) := by
  unfold createRequirementRun
  refine keeps_lift_bind fun baseCommit => keeps_lift_bind fun _ => ?_
  cases planning.matched with
  | some plan => exact keeps_lift_bind fun _ => launchPlanned_head _ _ _ _ _
  | none =>
    refine keeps_bind (createSession_head _ _) fun _ => ?_
    cases planning.planned with
    | error failure => exact keeps_bind (updateSession_head _ _) fun _ => Durable.Keeps.lift _
    | ok plan =>
      refine keeps_lift_bind fun _ => ?_
      cases answers.budgetPlan plan.dag with
      | ok => exact launchPlanned_head _ _ _ _ _
      | error =>
        refine keeps_bind (updateSession_head _ _) fun _ => ?_
        cases planning.replanned with
        | error failure => exact keeps_bind (updateSession_head _ _) fun _ => Durable.Keeps.lift _
        | ok plan =>
          exact keeps_lift_bind fun _ => keeps_lift_bind fun _ => launchPlanned_head _ _ _ _ _

theorem resumeRun_head (answers : LaunchAnswers) (runId newRunId : UUID) :
    Durable.Keeps (fun t : ProductWorld => t.head = head) (resumeRun answers runId newRunId) := by
  unfold resumeRun
  refine Durable.Keeps.read_bind fun w _ => keeps_lift_bind fun previous => keeps_lift_bind fun _ =>
    keeps_lift_bind fun found => ?_
  cases found with
  | none => exact Durable.Keeps.lift _
  | some checkpoint =>
    refine keeps_lift_bind fun _ => keeps_lift_bind fun _ => keeps_lift_bind fun completed =>
      keeps_lift_bind fun remaining => ?_
    cases remaining with
    | none => exact Durable.Keeps.lift _
    | some remaining =>
      refine keeps_lift_bind fun dag => keeps_lift_bind fun _ =>
        keeps_bind (startRun_head _ _ _ _) fun _ => keeps_lift_bind fun _ => ?_
      unfold attachResumed
      cases previous.sessionId with
      | none => exact Durable.Keeps.pure _
      | some sessionId =>
        exact keeps_bind (captureRunProgress_head _ _) fun _ =>
          keeps_bind (attachRun_head _ _) fun _ => Durable.Keeps.pure _

theorem continueDevelopmentSession_head (answers : LaunchAnswers) (mode : ContinuationMode)
    (sessionId newRunId : UUID) : Durable.Keeps (fun t : ProductWorld => t.head = head)
      (continueDevelopmentSession answers mode sessionId newRunId) := by
  unfold continueDevelopmentSession
  refine Durable.Keeps.read_bind fun w _ => keeps_lift_bind fun session => ?_
  cases session.dag with
  | none => exact Durable.Keeps.lift _
  | some plan =>
    refine keeps_lift_bind fun _ => ?_
    cases session.latestRunId with
    | none => exact continueWith_head _ _ _ _ _ _
    | some latestRunId =>
      refine keeps_lift_bind fun latest => ?_
      split_ifs
      · exact Durable.Keeps.pure _
      · exact keeps_bind (captureRunProgress_head _ _) fun _ => Durable.Keeps.read_bind fun w _ =>
          keeps_lift_bind fun session => continueWith_head _ _ _ _ _ _

theorem recoverInterruptedRun_head (answers : LaunchAnswers) (seen : Liveness)
    (runId newSessionId newRunId : UUID) : Durable.Keeps (fun t : ProductWorld => t.head = head)
      (recoverInterruptedRun answers seen runId newSessionId newRunId) := by
  unfold recoverInterruptedRun
  refine Durable.Keeps.read_bind fun w _ => keeps_lift_bind fun previous =>
    keeps_lift_bind fun preview => ?_
  cases preview.existingRecoveryRunId with
  | some existing => exact Durable.Keeps.pure _
  | none =>
    refine keeps_lift_bind fun _ => keeps_lift_bind fun remaining => ?_
    cases remaining with
    | none => exact Durable.Keeps.lift _
    | some dag =>
      have hsession : Durable.Keeps (fun t : ProductWorld => t.head = head)
          (recoverySession previous newSessionId dag) := by
        unfold recoverySession
        cases previous.sessionId with
        | some sessionId =>
          exact keeps_bind (captureRunProgress_head _ _) fun _ => Durable.Keeps.pure _
        | none =>
          exact keeps_bind (createSession_head _ _) fun _ =>
            keeps_bind (updateSession_head _ _) fun _ => Durable.Keeps.pure _
      refine keeps_bind hsession fun sessionId => keeps_bind (startRun_head _ _ _ _) fun _ =>
        keeps_lift_bind fun _ => keeps_bind (attachRun_head _ _) fun _ => ?_
      exact keeps_bind (linkRecovery_head _ _) fun _ => Durable.Keeps.pure _

/-- **No request moves HEAD**, wherever it is stopped. -/
theorem ApiCall.request_head (call : ApiCall) :
    Durable.Keeps (fun t : ProductWorld => t.head = head) call.request := by
  cases call with
  | create => exact createRequirementRun_head _ _ _ _
  | retry answers runId newRunId =>
    exact Durable.Keeps.read_bind fun w _ => keeps_lift_bind fun previous =>
      keeps_lift_bind fun _ => keeps_lift_bind fun _ => keeps_lift_bind fun _ =>
        keeps_lift_bind fun _ =>
        keeps_bind (startRun_head _ _ _ _) fun _ => keeps_lift_bind fun _ => Durable.Keeps.pure _
  | resume => exact resumeRun_head _ _ _
  | continueSession => exact continueDevelopmentSession_head _ _ _ _
  | recover => exact recoverInterruptedRun_head _ _ _ _ _
  | refresh sessionId =>
    refine Durable.Keeps.read_bind fun w _ => keeps_lift_bind fun session => ?_
    cases session.latestRunId with
    | none => exact Durable.Keeps.pure _
    | some latestRunId =>
      exact keeps_lift_bind fun latest => keeps_bind (captureRunProgress_head _ _) fun _ =>
        Durable.Keeps.pure _

end head

/-! ### What is reported -/

section reported

variable {g : Prop} {w : ProductWorld} {session : DevelopmentSession}

/-- A session is found by its id. -/
theorem ProductWorld.Inv.snapshot_eq (h : w.Inv g) (hsession : session ∈ w.sessions) :
    w.snapshot session.sessionId = .ok session := by
  unfold ProductWorld.snapshot
  cases hfound : w.sessions.find? fun other => other.sessionId = session.sessionId with
  | none => simpa using List.find?_eq_none.1 hfound session hsession
  | some other =>
    have hid := List.find?_some hfound
    rw [decide_eq_true_iff] at hid
    rw [h.session_unique (List.mem_of_find?_eq_some hfound) hsession hid]
    rfl

/-- A run is found by its id. -/
theorem ProductWorld.Inv.loadRun_eq (h : w.Inv g) {run : ProductRun} (hrun : run ∈ w.runs) :
    w.loadRun run.runId = .ok run := by
  unfold ProductWorld.loadRun
  cases hfound : w.runs.find? fun other => other.runId = run.runId with
  | none => simpa using List.find?_eq_none.1 hfound run hrun
  | some other =>
    have hid := List.find?_some hfound
    rw [decide_eq_true_iff] at hid
    rw [h.run_unique (List.mem_of_find?_eq_some hfound) hrun hid]
    rfl

/-- Rows of their kinds are captured without an error, by induction on the rows. -/
theorem exists_latestExecutions {db : Database WorkContent}
    (hmodels : ∀ row ∈ db.evidence, row.payload.isModelOf row.kind) :
    ∃ latest, latestExecutions db = .ok latest := by
  have hloop : ∀ rows : List (EvidenceRow WorkContent), (∀ row ∈ rows, row.kind = .workerExecution ∧
      row.payload.isModelOf row.kind) → ∀ start, ∃ latest,
        rows.foldlM recordLatest start = .ok latest := by
    intro rows hrows
    induction rows with
    | nil => exact fun start => ⟨start, rfl⟩
    | cons row rows ih =>
      intro start
      obtain ⟨⟨hkind, hmodel⟩, hrest⟩ := List.forall_mem_cons.1 hrows
      obtain ⟨execution, hexecution⟩ : ∃ execution, validatedExecution row = .ok execution := by
        unfold validatedExecution
        rw [hkind] at hmodel
        cases hpayload : row.payload with
        | workerExecution execution => exact ⟨execution, rfl⟩
        | dispatchEvent event =>
          rw [hpayload] at hmodel
          cases hmodel
        | other model content =>
          rw [hpayload] at hmodel
          exact absurd rfl hmodel.2.1
      obtain ⟨next, hnext⟩ : ∃ next, recordLatest start row = .ok next := by
        unfold recordLatest
        cases row.taskId with
        | none => exact ⟨start, rfl⟩
        | some taskId => exact ⟨_, by simp [hexecution]; rfl⟩
      obtain ⟨latest, hlatest⟩ := ih hrest next
      exact ⟨latest, by rw [List.foldlM_cons, hnext]; exact hlatest⟩
  refine hloop _ (fun row hrow => ?_) []
  obtain ⟨hmem, hkind⟩ := List.mem_filter.1 hrow
  exact ⟨by simpa using hkind, hmodels row hmem⟩

/-- The session after its latest run was captured. -/
theorem ProductWorld.captured_mem (hsession : session ∈ w.sessions) (runId : UUID)
    (latest : List (String × WorkerExecutionEvidence WorkContent)) :
    session.captured runId latest ∈ (w.mapSession session.sessionId fun other =>
      other.captured runId latest).sessions := by
  refine List.mem_map.2 ⟨session, hsession, ?_⟩
  rw [if_pos rfl]

/-- **The preview compares the base with HEAD.** -/
theorem getDevelopmentSessionRecovery_result (h : w.Inv g) (hsession : session ∈ w.sessions) :
    (getDevelopmentSessionRecovery session.sessionId w).result =
      .ok (session.baselineState w.head) := by
  unfold getDevelopmentSessionRecovery
  simp only [Durable.read_bind, h.snapshot_eq hsession, Durable.lift_ok_bind]
  cases hlatest : session.latestRunId with
  | none => rfl
  | some latestRunId =>
    obtain ⟨run, hrun, rfl, hattached⟩ := h.latest session hsession latestRunId hlatest
    obtain ⟨latest, hcaptured⟩ :=
      exists_latestExecutions fun row hrow => (h.made run hrun row hrow).1
    have hinv := h.capture hrun hattached hcaptured
    have hmem := ProductWorld.captured_mem hsession run.runId latest
    have hsnapshot : (w.mapSession session.sessionId fun other =>
        other.captured run.runId latest).snapshot session.sessionId =
          .ok (session.captured run.runId latest) := hinv.snapshot_eq hmem
    simp only [h.loadRun_eq hrun, Durable.lift_ok_bind, captureRunProgress, hcaptured,
      Durable.bind_assoc]
    simp only [Durable.bind_apply, Durable.Prog.andThen, Durable.write, Durable.read, hsnapshot,
      Durable.lift]
    rfl

/-- A continuation either ends in the same way whatever is answered and in both modes,
before it compares the base with HEAD, or it does compare them. -/
structure ComparesBaseline (w : ProductWorld) (session : DevelopmentSession) : Prop where
  refused : w.head ≠ session.baseCommit → ∀ answers newRunId,
    (continueDevelopmentSession answers .auto session.sessionId newRunId w).result =
      .error baselineChanged
  passed : ∀ mode, w.head = session.baseCommit ∨ mode = .oldBase → ∀ answers newRunId failure,
    (∀ dag, answers.budgetPlan dag = .error failure) →
      (continueDevelopmentSession answers mode session.sessionId newRunId w).result =
        .error failure

/-- The same from `completed = …` on. -/
theorem continueWith_cases (w : ProductWorld) (sessionId : UUID) (session : DevelopmentSession)
    (plan : TaskDAG) :
    (∃ result, ∀ answers mode newRunId,
      (continueWith answers mode sessionId newRunId session plan w).result = result) ∨
    ((w.head ≠ session.baseCommit → ∀ answers newRunId,
        (continueWith answers .auto sessionId newRunId session plan w).result =
          .error baselineChanged) ∧
      ∀ mode, w.head = session.baseCommit ∨ mode = .oldBase → ∀ answers newRunId failure,
        (∀ dag, answers.budgetPlan dag = .error failure) →
          (continueWith answers mode sessionId newRunId session plan w).result =
            .error failure) := by
  unfold continueWith
  cases hremaining : plan.remaining session.completed with
  | error failure => exact Or.inl ⟨.error failure, fun _ _ _ => rfl⟩
  | ok remaining =>
    cases remaining with
    | none =>
      refine Or.inl ⟨((markCompleted sessionId >>= fun _ =>
        (Durable.lift (.error ⟨.persistenceConflict,
        "开发会话的所有工作包均已有成功验证证据，无需再次调用 Developer。"⟩) : Request)) w).result,
        fun _ _ _ => rfl⟩
    | some remaining =>
      simp only [Durable.lift_ok_bind]
      by_cases hmany : 1 < session.completedCommits.length
      · refine Or.inl ⟨.error ⟨.persistenceConflict,
          "已完成工作包来自多个未整合提交，无法安全跳过它们；请先完成集成或重新规划。"⟩,
          fun answers mode newRunId => ?_⟩
        rw [Durable.raiseIf_bind_of hmany]
      · refine Or.inr ⟨fun hhead answers newRunId => ?_,
          fun mode hmode answers newRunId failure hbudget => ?_⟩
        · rw [Durable.raiseIf_bind_of_not hmany, Durable.read_bind,
            Durable.raiseIf_bind_of ⟨hhead, by decide⟩]
          rfl
        · have hsame : ¬(w.head ≠ session.baseCommit ∧ mode ≠ .oldBase) := by
            rcases hmode with hhead | hold
            · exact fun hboth => hboth.1 hhead
            · exact fun hboth => hboth.2 hold
          rw [Durable.raiseIf_bind_of_not hmany, Durable.read_bind,
            Durable.raiseIf_bind_of_not hsame, hbudget remaining]
          rfl

/-- **What a continuation does about the baseline.** -/
theorem continueDevelopmentSession_cases (h : w.Inv g) (hsession : session ∈ w.sessions) :
    (∃ result, ∀ answers mode newRunId, (continueDevelopmentSession answers mode session.sessionId
      newRunId w).result = result) ∨ ComparesBaseline w session := by
  -- what is left of the call once it goes on from some state with some session
  have hpoint : ∀ (t : ProductWorld) (current : DevelopmentSession) (plan : TaskDAG),
      t.head = w.head → current.baseCommit = session.baseCommit →
      (∀ answers mode newRunId, (continueDevelopmentSession answers mode session.sessionId newRunId
        w).result = (continueWith answers mode session.sessionId newRunId current plan t).result) →
      (∃ result, ∀ answers mode newRunId, (continueDevelopmentSession answers mode session.sessionId
        newRunId w).result = result) ∨ ComparesBaseline w session := by
    intro t current plan hhead hbase hsame
    rcases continueWith_cases t session.sessionId current plan with
      ⟨result, hresult⟩ | ⟨hrefused, hpassed⟩
    · exact Or.inl ⟨result, fun answers mode newRunId =>
        (hsame answers mode newRunId).trans (hresult answers mode newRunId)⟩
    · rw [hhead, hbase] at hrefused hpassed
      exact Or.inr ⟨fun hne answers newRunId => (hsame _ _ _).trans (hrefused hne answers newRunId),
        fun mode hmode answers newRunId failure hbudget =>
          (hsame _ _ _).trans (hpassed mode hmode answers newRunId failure hbudget)⟩
  cases hplan : session.dag with
  | none =>
    refine Or.inl ⟨.error ⟨.persistenceConflict,
      "该开发会话没有可复用的规划草案；请重新规划，不会伪造恢复路径。"⟩, fun answers mode newRunId => ?_⟩
    simp only [continueDevelopmentSession, Durable.read_bind, h.snapshot_eq hsession,
      Durable.lift_ok_bind, hplan, Durable.lift_apply]
  | some plan =>
    by_cases hstate : session.state ∉ [.pausedPlanning, .readyToRun, .running]
    · refine Or.inl ⟨.error ⟨.persistenceConflict, "该开发会话当前不能继续执行"⟩,
        fun answers mode newRunId => ?_⟩
      simp only [continueDevelopmentSession, Durable.read_bind, h.snapshot_eq hsession,
        Durable.lift_ok_bind, hplan, Durable.raiseIf_bind_of hstate]
    · cases hlatest : session.latestRunId with
      | none =>
        refine hpoint w session plan rfl rfl fun answers mode newRunId => ?_
        simp only [continueDevelopmentSession, Durable.read_bind, h.snapshot_eq hsession,
          Durable.lift_ok_bind, hplan, Durable.raiseIf_bind_of_not hstate, hlatest]
      | some latestRunId =>
        obtain ⟨run, hrun, rfl, hattached⟩ := h.latest session hsession latestRunId hlatest
        by_cases hrunning : run.status = .running
        · refine Or.inl ⟨.ok run.runId, fun answers mode newRunId => ?_⟩
          simp only [continueDevelopmentSession, Durable.read_bind, h.snapshot_eq hsession,
            Durable.lift_ok_bind, hplan, Durable.raiseIf_bind_of_not hstate, hlatest,
            h.loadRun_eq hrun, if_pos hrunning, Durable.pure_apply]
        · obtain ⟨latest, hcaptured⟩ :=
            exists_latestExecutions fun row hrow => (h.made run hrun row hrow).1
          have hinv := h.capture hrun hattached hcaptured
          have hmem := ProductWorld.captured_mem hsession run.runId latest
          have hsnapshot : (w.mapSession session.sessionId fun other =>
              other.captured run.runId latest).snapshot session.sessionId =
                .ok (session.captured run.runId latest) := hinv.snapshot_eq hmem
          refine hpoint
            (w.mapSession session.sessionId fun other => other.captured run.runId latest)
            (session.captured run.runId latest) plan rfl rfl fun answers mode newRunId => ?_
          simp only [continueDevelopmentSession, Durable.read_bind, h.snapshot_eq hsession,
            Durable.lift_ok_bind, hplan, Durable.raiseIf_bind_of_not hstate, hlatest,
            h.loadRun_eq hrun, if_neg hrunning, captureRunProgress, hcaptured, Durable.bind_assoc]
          simp only [Durable.bind_apply, Durable.Prog.andThen, Durable.write, Durable.read,
            hsnapshot, Durable.lift]

/-- An OLD_BASE continuation gets as far as the budget of what remains. -/
def ReachesBaseline (w : ProductWorld) (sessionId : UUID) : Prop :=
  ∀ answers newRunId failure, (∀ dag, answers.budgetPlan dag = .error failure) →
    (continueDevelopmentSession answers .oldBase sessionId newRunId w).result = .error failure

/-- An AUTO continuation is refused because of the baseline, whatever is answered. -/
def RefusesBaseline (w : ProductWorld) (sessionId : UUID) : Prop :=
  ∀ answers newRunId, (continueDevelopmentSession answers .auto sessionId newRunId w).result =
    .error baselineChanged

/-- Answers of which the budget refuses. -/
def refusingAnswers (failure : Failure) : LaunchAnswers where
  synchronize := .error failure
  preflight := .error failure
  budgetPlan _ := .error failure
  initializeBudget := .error failure
  now := 0

/-- **An AUTO continuation that gets so far is refused when HEAD is not the base.** -/
theorem refusesBaseline_iff (h : w.Inv g) (hsession : session ∈ w.sessions)
    (hreaches : ReachesBaseline w session.sessionId) :
    RefusesBaseline w session.sessionId ↔ w.head ≠ session.baseCommit := by
  rcases continueDevelopmentSession_cases h hsession with ⟨result, hresult⟩ | hcompares
  · -- one result cannot be every refusal of the budget
    have hfirst := hreaches (refusingAnswers ⟨.valueError, ""⟩) ⟨0⟩ ⟨.valueError, ""⟩ fun _ => rfl
    have hsecond := hreaches (refusingAnswers ⟨.keyError, ""⟩) ⟨0⟩ ⟨.keyError, ""⟩ fun _ => rfl
    rw [hresult] at hfirst hsecond
    rw [hfirst] at hsecond
    cases hsecond
  · refine ⟨fun hrefuses hhead => ?_, fun hhead => hcompares.refused hhead⟩
    have hpassed := hcompares.passed .auto (Or.inl hhead) (refusingAnswers ⟨.valueError, ""⟩) ⟨0⟩
      ⟨.valueError, ""⟩ fun _ => rfl
    rw [hrefuses] at hpassed
    cases hpassed

end reported

/-! ### The remote -/

/-- A project, the commit of the remote branch, and `projects.last_synced_commit`. -/
structure BaselineWorld where
  product : ProductWorld
  branch : Option String
  lastSynced : Option String

/-- The managed repository and its remote. -/
def BaselineWorld.remote (w : BaselineWorld) : RemoteProject where
  objects := w.product.commits
  remoteHead := w.branch
  branch := w.branch
  workspace := some ⟨⟨w.product.commits, fun _ => none⟩, w.product.head⟩

/-- What happens to the project. -/
inductive BaselineInput
  | push
  | synchronize
  | product (input : ProductInput)

/-- One step: the remote branch moves, `_synchronize_project` fetches and records the
commit, or a step of the project, in which nobody checks out another commit. -/
def baselineStep (w : BaselineWorld) (input : BaselineInput) (_ : Unit) (t : BaselineWorld) :
    Prop :=
  match input with
  | .push => ∃ branch, t = { w with branch }
  | .synchronize => ∃ fetched commit q, w.remote.synchronize fetched = .ok (commit, q) ∧
      Ordered fetched.commits ∧ w.product.commits ⊆ fetched.commits ∧
      t = { w with
        product := { w.product with commits := fetched.commits }
        lastSynced := some commit }
  | .product input => input ≠ .checkout ∧ ∃ product, productStep w.product input () product ∧
      t = { w with product }

/-- A step of the project keeps HEAD. -/
theorem productStep_head {w t : ProductWorld} {input : ProductInput} (hinput : input ≠ .checkout)
    (h : productStep w input () t) : t.head = w.head := by
  cases input with
  | call call => exact call.request_head w rfl t h
  | write runId writer =>
    obtain ⟨run, -, -, rows, commits, -, -, -, rfl⟩ := h
    rfl
  | fetch =>
    obtain ⟨commits, -, -, rfl⟩ := h
    rfl
  | checkout => exact absurd rfl hinput

/-- **Every step keeps HEAD and the invariant of the project.** -/
theorem baselineStep_keeps {head : String} (w : BaselineWorld) (input : BaselineInput) (o : Unit)
    (t : BaselineWorld) (hw : w.product.head = head ∧ w.product.Inv False)
    (h : baselineStep w input o t) : t.product.head = head ∧ t.product.Inv False := by
  cases input with
  | push =>
    obtain ⟨branch, rfl⟩ := h
    exact hw
  | synchronize =>
    obtain ⟨fetched, commit, q, -, hordered, hsub, rfl⟩ := h
    have hfetch : productStep w.product .fetch () { w.product with commits := fetched.commits } :=
      ⟨fetched.commits, hordered, hsub, rfl⟩
    exact ⟨hw.1, productStep_inv hw.2 (fun hfalse => hfalse.elim) hfetch⟩
  | product input =>
    obtain ⟨hinput, product, hstep, rfl⟩ := h
    exact ⟨(productStep_head hinput hstep).trans hw.1,
      productStep_inv hw.2 (fun hfalse => hfalse.elim) hstep⟩

/-- **When baseline detection is exact.**  After any pushes, synchronizations, requests
and work: the preview of a session reports CHANGED, and an AUTO continuation is
refused for that reason, exactly when the last synchronization returned another
commit than the base of the session, if and only if that synchronization returned
the commit the workspace was provisioned with, or neither of the two is the base. -/
theorem baseline_detection_iff {w₀ w : BaselineWorld}
    {es : List (Runs.Event BaselineWorld BaselineInput Unit)} (h₀ : w₀.product.Empty)
    (h : Runs.Run baselineStep w₀ es w) {session : DevelopmentSession}
    (hsession : session ∈ w.product.sessions) {last : String} (hlast : w.lastSynced = some last) :
    (((getDevelopmentSessionRecovery session.sessionId w.product).result = .ok .changed ↔
        last ≠ session.baseCommit) ∧
      (ReachesBaseline w.product session.sessionId →
        (RefusesBaseline w.product session.sessionId ↔ last ≠ session.baseCommit))) ↔
      last = w₀.product.head ∨
        (last ≠ session.baseCommit ∧ w₀.product.head ≠ session.baseCommit) := by
  obtain ⟨hhead, hinv⟩ := h.invariant (I := fun t => t.product.head = w₀.product.head ∧
    t.product.Inv False) baselineStep_keeps ⟨rfl, h₀.inv False⟩
  have hpreview : (getDevelopmentSessionRecovery session.sessionId w.product).result =
      .ok .changed ↔ w₀.product.head ≠ session.baseCommit := by
    rw [getDevelopmentSessionRecovery_result hinv hsession, Except.ok.injEq, hhead,
      DevelopmentSession.baselineState]
    split_ifs with hbase
    · simp [hbase]
    · simp [hbase]
  have hrefuses : ReachesBaseline w.product session.sessionId →
      (RefusesBaseline w.product session.sessionId ↔ w₀.product.head ≠ session.baseCommit) := by
    intro hreaches
    rw [refusesBaseline_iff hinv hsession hreaches, hhead]
  rw [hpreview]
  constructor
  · rintro ⟨hexact, -⟩
    by_cases hbase : last = session.baseCommit
    · have hsame : w₀.product.head = session.baseCommit :=
        not_not.1 fun hne => hexact.1 hne hbase
      exact Or.inl (hbase.trans hsame.symm)
    · exact Or.inr ⟨hbase, hexact.2 hbase⟩
  · rintro (rfl | ⟨hlastNe, hheadNe⟩)
    · exact ⟨Iff.rfl, hrefuses⟩
    · exact ⟨⟨fun _ => hlastNe, fun _ => hheadNe⟩, fun hreaches =>
        ⟨fun _ => hlastNe, fun _ => (hrefuses hreaches).2 hheadNe⟩⟩

/-! ### A push that is not detected -/

/-- The project once it is provisioned at the commit of the remote branch. -/
def provisionedProject : BaselineWorld := ⟨emptyProject, some (sampleOid '0'), none⟩

/-- A request that plans a session. -/
def planCall : ApiCall :=
  .create readyAnswers ⟨none, .ok twoPackages, .error ⟨.runtimeError, ""⟩⟩ ⟨20⟩ ⟨7⟩

/-- The project with its session. -/
def plannedProject : ProductWorld := emptyProject.after planCall

/-- The project after another commit was pushed and fetched. -/
def advancedProject : BaselineWorld where
  product := { plannedProject with commits := [taskCommit '1', rootCommit] }
  branch := some (sampleOid '1')
  lastSynced := some (sampleOid '1')

theorem plannedProject_facts :
    (plannedProject.sessions.map fun session => (session.sessionId, session.baseCommit)) =
        [(⟨20⟩, sampleOid '0')] ∧
      plannedProject.commits = [rootCommit] := by
  decide +kernel

/-- A branch that is there is synchronized to. -/
theorem baselineStep_synchronize {w : BaselineWorld} {commit : String} (commits : List GitCommit)
    (hbranch : w.branch = some commit) (hoid : isOid commit = true) (hordered : Ordered commits)
    (hsub : w.product.commits ⊆ commits) :
    baselineStep w .synchronize () { w with
      product := { w.product with commits }
      lastSynced := some commit } := by
  refine ⟨⟨commits, fun _ => none⟩, commit, { w.remote with
    workspace := some ⟨⟨commits, fun _ => none⟩, w.product.head⟩ }, ?_, hordered, hsub, rfl⟩
  have hvalid : ¬isOid commit = false := by simp [hoid]
  simp only [RemoteProject.synchronize, BaselineWorld.remote, hbranch,
    Raising.raiseIf_of_not hvalid, Raising.ok_bind]
  rfl

theorem advancedProject_run :
    ∃ es, Runs.Run baselineStep provisionedProject es advancedProject := by
  have hfirst : baselineStep provisionedProject .synchronize ()
      { provisionedProject with lastSynced := some (sampleOid '0') } :=
    baselineStep_synchronize [rootCommit] rfl (isOid_sampleOid rfl)
      (by simp [Ordered, rootCommit]) (List.Subset.refl _)
  have hplan : baselineStep { provisionedProject with lastSynced := some (sampleOid '0') }
      (.product (.call planCall)) ()
      ⟨plannedProject, some (sampleOid '0'), some (sampleOid '0')⟩ :=
    ⟨by simp, plannedProject, productStep_after emptyProject planCall, rfl⟩
  have hpush : baselineStep ⟨plannedProject, some (sampleOid '0'), some (sampleOid '0')⟩ .push ()
      ⟨plannedProject, some (sampleOid '1'), some (sampleOid '0')⟩ :=
    ⟨some (sampleOid '1'), rfl⟩
  have hsecond : baselineStep ⟨plannedProject, some (sampleOid '1'), some (sampleOid '0')⟩
      .synchronize () advancedProject := by
    refine baselineStep_synchronize _ rfl (isOid_sampleOid rfl)
      (ordered_taskCommit (sampleOid_ne (by decide))) ?_
    rw [plannedProject_facts.2]
    exact List.subset_cons_self _ _
  exact ⟨_, Runs.Run.cons hfirst (Runs.Run.cons hplan (Runs.Run.cons hpush
    (Runs.Run.cons hsecond (Runs.Run.nil _))))⟩

/-- The session of the project. -/
theorem advancedProject_session : ∃ session ∈ advancedProject.product.sessions,
    session.sessionId = ⟨20⟩ ∧ session.baseCommit = sampleOid '0' := by
  obtain ⟨session, hsession, hfacts⟩ := List.map_eq_singleton_iff.1 plannedProject_facts.1
  simp only [Prod.mk.injEq] at hfacts
  refine ⟨session, ?_, hfacts⟩
  show session ∈ plannedProject.sessions
  rw [hsession]
  exact List.mem_singleton.2 rfl

theorem advanced_detection_iff : ∃ session ∈ advancedProject.product.sessions,
    ((((getDevelopmentSessionRecovery session.sessionId advancedProject.product).result =
          .ok .changed ↔ sampleOid '1' ≠ session.baseCommit) ∧
        (ReachesBaseline advancedProject.product session.sessionId →
          (RefusesBaseline advancedProject.product session.sessionId ↔
            sampleOid '1' ≠ session.baseCommit))) ↔
      sampleOid '1' = sampleOid '0' ∨
        (sampleOid '1' ≠ session.baseCommit ∧ sampleOid '0' ≠ session.baseCommit)) := by
  obtain ⟨es, hes⟩ := advancedProject_run
  obtain ⟨session, hsession, -⟩ := advancedProject_session
  have hempty : provisionedProject.product.Empty := emptyProject_empty
  exact ⟨session, hsession, baseline_detection_iff hempty hes hsession rfl⟩

/-- **A push after the session was planned is not detected.**  The last synchronization
returned the new commit, and the preview reports that nothing has changed. -/
theorem advanced_baseline_not_detected :
    (∃ es, Runs.Run baselineStep provisionedProject es advancedProject) ∧
      advancedProject.lastSynced = some (sampleOid '1') ∧
      ∃ session ∈ advancedProject.product.sessions, sampleOid '1' ≠ session.baseCommit ∧
        (getDevelopmentSessionRecovery session.sessionId advancedProject.product).result =
          .ok .unchanged := by
  obtain ⟨session, hsession, hid, hbase⟩ := advancedProject_session
  refine ⟨advancedProject_run, rfl, session, hsession, ?_, ?_⟩
  · rw [hbase]
    decide +kernel
  · rw [hid]
    decide +kernel

end DevFlow
