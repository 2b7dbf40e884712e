/-
# Resumed work through the execution stacks

What becomes of a resume context on its way from `QueuedTaskWorker.execute` to
the orchestrator (`workers/executor.py`, `trace/worker.py`,
`workflows/executor.py`), and of a checkpoint at which nothing is left to do.

The orchestrator only adds to the calls it has made, and only the agents change
the worktree: both are cases of `Orchestrator.Kept`, a relation between
sessions that every part of `run` respects.  So the first call of a slice is
the one that `run` starts with (`verifier_called_first_iff`), and a slice in
which no agent changes a file ends in a clean worktree, of which no commit can be
made (`unchanged_work_fails`).
-/

import DevFlow.Workers.Slices

namespace DevFlow

open Durable (Prog Leads)

namespace Orchestrator

/-- The files that a call of an agent or of the verifier leaves in a session. -/
inductive Leaves (agents : Agents) (session : TaskSession) : Tree → Prop
  | developer : Leaves agents session (agents.developer session).2
  | verify : Leaves agents session (agents.verify session).2
  | review : Leaves agents session (agents.review session).2
  | repair (attempt : ℕ) : Leaves agents session (agents.repair session attempt).2

/-- A relation between sessions that bookkeeping keeps and each call satisfies. -/
structure Kept (agents : Agents) (R : TaskSession → TaskSession → Prop) : Prop where
  trans : ∀ {s t u}, R s t → R t u → R s u
  record : ∀ {s t : TaskSession}, t.workspace = s.workspace → t.actions = s.actions → R s t
  call : ∀ s action files, Leaves agents s files → R s
    { s with actions := s.actions ++ [action], workspace := { s.workspace with files } }

namespace Kept

variable {agents : Agents} {R : TaskSession → TaskSession → Prop} (kept : Kept agents R)
include kept

theorem refl (s : TaskSession) : R s s :=
  kept.record rfl rfl

theorem transition (next : TaskRunState) : Leads R (transition next) := by
  refine Leads.read_bind fun s => Leads.bind kept.trans (Leads.raiseIf kept.refl _ _) fun _ => ?_
  exact Leads.write fun s => kept.record rfl rfl

theorem result (task : TaskWork) (failures : List FailureReport) :
    Leads R (result task failures) := by
  refine Leads.read_bind fun s => ?_
  split
  · refine Leads.bind kept.trans (Leads.raiseIf kept.refl _ _) fun _ => ?_
    exact Leads.bind kept.trans (Leads.raiseIf kept.refl _ _) fun _ => Leads.pure kept.refl _
  · exact Leads.lift kept.refl _

theorem fail (task : TaskWork) (failures : List FailureReport) : Leads R (fail task failures) :=
  Leads.bind kept.trans (kept.transition _) fun _ => kept.result task failures

theorem buildContext (resume : Option ContextContinuationState) :
    Leads R (buildContext agents resume) := by
  refine Leads.read_bind fun s => ?_
  split
  · exact Leads.pure kept.refl _
  · refine Leads.bind kept.trans (Leads.write fun s => kept.record rfl rfl) fun _ => ?_
    exact Leads.pure kept.refl _

theorem answer {α : Type} (action : Action) {answer : TaskSession → α × Tree}
    (h : ∀ s, Leaves agents s (answer s).2) : Leads R (Orchestrator.call action answer) :=
  fun s => kept.call s action _ (h s)

theorem review : Leads R (review agents) := by
  refine Leads.read_bind fun s => ?_
  split
  · exact Leads.pure kept.refl _
  · exact kept.answer .review fun s => .review

/-- After the verifier's call a round keeps the relation when what follows its
failures does. -/
theorem verified (task : TaskWork) {onFailures : List FailureReport → Runtime TaskRunResult}
    (hrest : ∀ failures, Leads R (onFailures failures)) (s : TaskSession) :
    R { s with
        actions := s.actions ++ [.verify s.workspace.files]
        workspace := { s.workspace with files := (agents.verify s).2 } }
      (verifyThen agents task onFailures s).final := by
  unfold Orchestrator.verifyThen
  rw [Durable.read_bind]
  refine Leads.after (call_apply (.verify s.workspace.files) agents.verify s) ?_
  refine Leads.bind kept.trans (Leads.lift kept.refl _) fun verification => ?_
  refine Leads.bind kept.trans (Leads.write fun s => kept.record rfl rfl) fun _ => ?_
  split
  · refine Leads.bind kept.trans (kept.transition _) fun _ => ?_
    refine Leads.bind kept.trans (kept.buildContext none) fun context => ?_
    split
    · exact kept.fail task _
    · refine Leads.bind kept.trans kept.review fun reply => ?_
      split
      · exact kept.fail task _
      · exact kept.fail task _
      · exact kept.fail task _
      · exact Leads.lift kept.refl _
      · refine Leads.bind kept.trans (Leads.write fun s => kept.record rfl rfl) fun _ => ?_
        split
        · exact Leads.bind kept.trans (kept.transition _) fun _ => kept.result task _
        · exact hrest _
  · dsimp only
    split
    · exact kept.fail task _
    · exact hrest _

/-- A round keeps the relation when what follows its failures does. -/
theorem verifyThen (task : TaskWork) {onFailures : List FailureReport → Runtime TaskRunResult}
    (hrest : ∀ failures, Leads R (onFailures failures)) :
    Leads R (verifyThen agents task onFailures) :=
  fun s => kept.trans (kept.call s _ _ .verify) (kept.verified task hrest s)

/-- **Every further round keeps the relation**, by induction on the attempts left. -/
theorem repairLoop (task : TaskWork) (left : ℕ) :
    ∀ failures, Leads R (repairLoop agents task left failures) := by
  induction left with
  | zero => exact fun failures => kept.fail task _
  | succ left ih =>
    intro failures
    refine Leads.bind kept.trans (kept.transition _) fun _ => ?_
    refine Leads.read_bind fun before => ?_
    refine Leads.bind kept.trans (kept.answer _ fun s => .repair _) fun reply => ?_
    split
    · exact kept.fail task _
    · exact kept.fail task _
    · exact kept.fail task _
    · exact Leads.lift kept.refl _
    · refine Leads.read_bind fun after => ?_
      refine Leads.bind kept.trans (Leads.write fun s => kept.record rfl rfl) fun _ => ?_
      split
      · exact Leads.bind kept.trans (kept.transition _) fun _ => kept.verifyThen task ih
      · split
        · exact kept.fail task _
        · exact ih failures

theorem rounds (task : TaskWork) (left : ℕ) :
    Leads R (Orchestrator.verifyThen agents task (Orchestrator.repairLoop agents task left)) :=
  kept.verifyThen task (kept.repairLoop task left)

theorem develop (task : TaskWork) (resume : Option ContextContinuationState) :
    Leads R (develop agents task resume) := by
  refine Leads.bind kept.trans (kept.buildContext resume) fun context => ?_
  split
  · exact (kept.fail task _).map
  · refine Leads.bind kept.trans (kept.answer _ fun s => .developer) fun reply => ?_
    split
    · exact (kept.fail task _).map
    · exact (kept.fail task _).map
    · exact (kept.fail task _).map
    · exact Leads.lift kept.refl _
    · refine Leads.bind kept.trans (Leads.write fun s => kept.record rfl rfl) fun _ => ?_
      refine Leads.read_bind fun s => ?_
      split
      · exact (kept.fail task _).map
      · exact Leads.bind kept.trans (kept.transition _) fun _ => Leads.pure kept.refl _

/-- **A whole run keeps the relation.** -/
theorem run (minimum : ℕ) (task : TaskWork) (resume : Option ContextContinuationState)
    (resumeVerificationFirst : Bool) :
    Leads R (run agents minimum task resume resumeVerificationFirst) := by
  refine Leads.bind kept.trans (Leads.write fun s => kept.record rfl rfl) fun _ => ?_
  refine Leads.bind kept.trans (kept.transition _) fun _ => ?_
  split
  · exact Leads.bind kept.trans (kept.transition _) fun _ => kept.rounds task _
  · refine Leads.bind kept.trans (kept.develop task resume) fun ended => ?_
    split
    · exact Leads.pure kept.refl _
    · exact kept.rounds task _

end Kept

/-- Calls are only added. -/
theorem kept_actions (agents : Agents) : Kept agents fun s t => s.actions <+: t.actions where
  trans := List.IsPrefix.trans
  record _ hactions := hactions ▸ List.prefix_rfl
  call _ _ _ _ := List.prefix_append _ _

/-- **A run that verifies first calls the verifier first**, on the files it finds. -/
theorem run_verification_first (agents : Agents) (minimum : ℕ) (task : TaskWork)
    (resume : Option ContextContinuationState) (session : TaskSession) :
    session.actions ++ [.verify session.workspace.files] <+:
      (run agents minimum task resume true session).final.actions := by
  have hkept := kept_actions agents
  exact hkept.verified task (hkept.repairLoop task (max task.maxRetries minimum))
    { TaskSession.start session.workspace with
      actions := session.actions, events := [.pending, .running, .verifying] }

/-- The agents and the verifier leave the files as they are. -/
def Quiet (agents : Agents) : Prop :=
  ∀ session files, Leaves agents session files → files = session.workspace.files

/-- Quiet agents leave the worktree as it is. -/
theorem kept_workspace {agents : Agents} (h : Quiet agents) :
    Kept agents fun s t => t.workspace = s.workspace where
  trans hst htu := htu.trans hst
  record hworkspace _ := hworkspace
  call s _ files hleft := by
    obtain rfl := h s files hleft
    rfl

end Orchestrator

/-! ### The stacks -/

/-- A production stack: a backend over the orchestrator, alone or wrapped by the
workflow-aware runner. -/
structure ExecutionStack where
  backend : Backend
  agents : Agents
  minimumRepairAttempts : ℕ
  /-- The matcher, the activation mode and the deterministic runner. -/
  workflow : Option ((TaskSession → WorkflowExecutionMode) × WorkflowActivationMode ×
    Runtime TaskRunResult)

namespace ExecutionStack

/-- The runner of the stack. -/
def runner (stack : ExecutionStack) : Runner :=
  let orchestrator := orchestratorRunner stack.agents stack.minimumRepairAttempts
  match stack.workflow with
  | none => orchestrator
  | some (matchTask, activationMode, workflowRun) =>
    WorkflowStack.runner ⟨matchTask, activationMode, workflowRun, orchestrator⟩

/-- One slice through the stack. -/
def execute (stack : ExecutionStack) (answers : WorktreeAnswers) (request : ExecutionRequest) :
    Except Failure (WorkerExecutionEvidence WorkContent × List Action) :=
  stack.backend.execute stack.runner answers request

/-- What the agents and the verifier are called for in a slice; none of them is
called when the call of the backend is refused. -/
def actions (stack : ExecutionStack) (answers : WorktreeAnswers) (request : ExecutionRequest) :
    List Action :=
  match stack.execute answers request with
  | .ok (_, actions) => actions
  | .error _ => []

/-- The plain backend over the plain orchestrator. -/
def Plain (stack : ExecutionStack) : Prop :=
  stack.backend = .plain ∧ stack.workflow = none

end ExecutionStack

/-- A call with one of the keywords that the callee does not have is refused. -/
theorem checkKeywords_refused (function : String) {accepts passed : List Keyword}
    {keyword : Keyword} (hpassed : keyword ∈ passed) (haccepts : keyword ∉ accepts) :
    ∃ failure, checkKeywords function accepts passed = .error failure := by
  unfold checkKeywords
  cases hfind : passed.find? fun keyword => keyword ∉ accepts with
  | none =>
    have := List.find?_eq_none.1 hfind keyword hpassed
    simp [haccepts] at this
  | some refused => exact ⟨_, rfl⟩

/-- A call with keywords of the callee only goes through. -/
theorem checkKeywords_accepted (function : String) {accepts passed : List Keyword}
    (h : ∀ keyword ∈ passed, keyword ∈ accepts) :
    checkKeywords function accepts passed = .ok () := by
  have hfind : passed.find? (fun keyword => keyword ∉ accepts) = none :=
    List.find?_eq_none.2 fun keyword hkeyword => by simpa using h keyword hkeyword
  rw [checkKeywords, hfind]
  rfl

/-- A runner that is called with a keyword it does not have calls nobody. -/
theorem Runner.run_refused {runner : Runner} {request : RunRequest} {keyword : Keyword}
    {session : TaskSession} (hpassed : keyword ∈ request.keywords)
    (haccepts : keyword ∉ runner.accepts) : (runner.run request session).final = session := by
  obtain ⟨failure, hfailure⟩ := checkKeywords_refused runner.function hpassed haccepts
  rw [Runner.run, hfailure, Durable.lift_error_bind]

theorem runSlice_actions_of_error {runner : Runner} {answers : WorktreeAnswers}
    {request : ExecutionRequest} {run : RunRequest} {failure : Failure}
    (h : answers.created = .error failure) : (runSlice runner answers request run).2 = [] := by
  rw [runSlice, h]

/-- The calls of a slice are those of the runner in the fresh worktree. -/
theorem runSlice_actions {runner : Runner} {answers : WorktreeAnswers}
    {request : ExecutionRequest} {run : RunRequest} (h : answers.created = .ok ()) :
    (runSlice runner answers request run).2 =
      (runner.run run (TaskSession.start
        (TaskWorkspace.fresh request.baseCommit answers.tree))).final.actions := by
  unfold runSlice
  rw [h]
  dsimp only
  split
  · rfl
  · split <;> rfl

namespace ExecutionStack

variable {stack : ExecutionStack} {answers : WorktreeAnswers} {request : ExecutionRequest}

/-- The trace-aware backend refuses the resume flag. -/
theorem actions_of_traceAware {generation : Option ℕ} (hflag : request.resumeVerificationFirst)
    (hbackend : stack.backend = .traceAware generation) : stack.actions answers request = [] := by
  have hpassed : Keyword.resumeVerificationFirst ∈ request.keywords := by
    simp [ExecutionRequest.keywords, hflag]
  have haccepts : Keyword.resumeVerificationFirst ∉ stack.backend.accepts := by
    simp [hbackend, Backend.accepts]
  obtain ⟨failure, hfailure⟩ := checkKeywords_refused stack.backend.function hpassed haccepts
  have hexecute : stack.execute answers request = .error failure := by
    rw [execute, Backend.execute, hfailure]
    rfl
  rw [actions, hexecute]

/-- The plain backend passes the resume flag on. -/
theorem actions_of_plain (hbackend : stack.backend = .plain) :
    stack.actions answers request = (runSlice stack.runner answers request
      ⟨request.task, false, request.continuationContext, request.resumeVerificationFirst⟩).2 := by
  have haccepted : checkKeywords stack.backend.function stack.backend.accepts request.keywords =
      .ok () := by
    refine checkKeywords_accepted _ fun keyword _ => ?_
    cases keyword with
    | trace => simp_all [ExecutionRequest.keywords]
    | continuationContext => simp [hbackend, Backend.accepts]
    | resumeVerificationFirst => simp [hbackend, Backend.accepts]
  have hexecute : stack.execute answers request =
      .ok (runSlice stack.runner answers request (stack.backend.runRequest request)) := by
    rw [execute, Backend.execute, haccepted]
    rfl
  rw [actions, hexecute, hbackend]
  rfl

/-- The workflow-aware runner refuses the resume flag. -/
theorem actions_of_workflow (hflag : request.resumeVerificationFirst)
    (hbackend : stack.backend = .plain) (hworkflow : stack.workflow ≠ none) :
    stack.actions answers request = [] := by
  have haccepts : Keyword.resumeVerificationFirst ∉ stack.runner.accepts := by
    obtain ⟨⟨matchTask, activationMode, workflowRun⟩, hsome⟩ := Option.ne_none_iff_exists'.1 hworkflow
    simp [runner, hsome, WorkflowStack.runner]
  rw [actions_of_plain hbackend]
  cases hcreated : answers.created with
  | error failure => exact runSlice_actions_of_error hcreated
  | ok u =>
    rw [runSlice_actions hcreated,
      Runner.run_refused (by simp [RunRequest.keywords, hflag]) haccepts]
    rfl

/-- The orchestrator under the plain backend verifies first. -/
theorem head_actions_of_plain (hflag : request.resumeVerificationFirst) (hplain : stack.Plain)
    (hcreated : answers.created = .ok ()) :
    (stack.actions answers request).head? = some (.verify answers.tree) := by
  have hrunner : stack.runner = orchestratorRunner stack.agents stack.minimumRepairAttempts := by
    rw [runner, hplain.2]
  rw [actions_of_plain hplain.1, runSlice_actions hcreated, hrunner, hflag]
  have haccepted : checkKeywords "SingleTaskOrchestrator.run"
      [.trace, .continuationContext, .resumeVerificationFirst]
      (RunRequest.keywords ⟨request.task, false, request.continuationContext, true⟩) = .ok () :=
    checkKeywords_accepted _ fun keyword _ => by cases keyword <;> simp
  obtain ⟨rest, hrest⟩ := Orchestrator.run_verification_first stack.agents
    stack.minimumRepairAttempts request.task request.continuationContext
    (TaskSession.start (TaskWorkspace.fresh request.baseCommit answers.tree))
  rw [Runner.run, orchestratorRunner, haccepted, Durable.lift_ok_bind, ← hrest]
  rfl

end ExecutionStack

/-- **The first slice of a task that is to be verified first calls the verifier
first, on the tree of its base, exactly when its worktree was created and the
stack is the plain backend over the plain orchestrator.**  The other stacks have no
such keyword, and the call fails before anything is run. -/
theorem verifier_called_first_iff (stack : ExecutionStack) (answers : WorktreeAnswers)
    (queued : QueuedTask) (envelope : WorkerEnvelope) (runId : UUID) (executionBase : String)
    (hresume : queued.resumeContext.map TaskResumeContext.strategy = some .verifyThenRepair) :
    (stack.actions answers (QueuedTaskWorker.request queued envelope runId
        (QueuedTaskWorker.SliceState.start queued executionBase))).head? =
        some (.verify answers.tree) ↔
      answers.created = .ok () ∧ stack.Plain := by
  have hflag : (QueuedTaskWorker.request queued envelope runId
      (QueuedTaskWorker.SliceState.start queued executionBase)).resumeVerificationFirst := by
    simp [QueuedTaskWorker.request, QueuedTaskWorker.SliceState.start, hresume]
  constructor
  · intro hhead
    have hcalled : stack.actions answers (QueuedTaskWorker.request queued envelope runId
        (QueuedTaskWorker.SliceState.start queued executionBase)) ≠ [] := by
      intro hnil
      simp [hnil] at hhead
    cases hbackend : stack.backend with
    | traceAware generation =>
      exact absurd (ExecutionStack.actions_of_traceAware hflag hbackend) hcalled
    | plain =>
      refine ⟨?_, hbackend, ?_⟩
      · cases hcreated : answers.created with
        | ok u => rfl
        | error failure =>
          rw [ExecutionStack.actions_of_plain hbackend] at hcalled
          exact absurd (runSlice_actions_of_error hcreated) hcalled
      · by_contra hworkflow
        exact hcalled (ExecutionStack.actions_of_workflow hflag hbackend hworkflow)
  · rintro ⟨hcreated, hplain⟩
    exact ExecutionStack.head_actions_of_plain hflag hplain hcreated

/-- Agents that find nothing to do: the checks pass, the review passes, and no file
changes. -/
def contentAgents : Agents where
  buildContext _ _ := none
  developer session := (.result ⟨.modelStop, "nothing to do"⟩, session.workspace.files)
  verify session := (.ok ⟨[⟨"pytest", true, none, none⟩]⟩, session.workspace.files)
  review session := (.result ⟨.pass, "ok"⟩, session.workspace.files)
  repair session _ := (.result .modelStop, session.workspace.files)

/-- A task that a resumed run is to verify first. -/
def resumedTask : QueuedTask where
  task := ⟨"a", 0⟩
  resumeContext := some ⟨⟨7⟩, "0123456789012345678901234567890123456789", .verifyThenRepair, none,
    "", "", ""⟩
  complexityScore := 0

/-- Its delivery. -/
def resumedEnvelope : WorkerEnvelope := ⟨⟨"a", ⟨1⟩⟩, ⟨2⟩⟩

/-- The worktree at the checkpoint. -/
def checkpointAnswers : WorktreeAnswers where
  created := .ok ()
  tree := [("app.py", "done")]
  branchName := "devflow/a"
  commit := .ok "1123456789012345678901234567890123456789"

theorem verifier_called_first_plain :
    (ExecutionStack.actions ⟨.plain, contentAgents, 0, none⟩ checkpointAnswers
      (QueuedTaskWorker.request resumedTask resumedEnvelope ⟨7⟩
        (QueuedTaskWorker.SliceState.start resumedTask
          "0123456789012345678901234567890123456789"))).head? =
      some (.verify [("app.py", "done")]) :=
  (verifier_called_first_iff ⟨.plain, contentAgents, 0, none⟩ checkpointAnswers resumedTask
    resumedEnvelope ⟨7⟩ "0123456789012345678901234567890123456789" rfl).2 ⟨rfl, rfl, rfl⟩

/-- The stack that a worker process runs: the trace-aware backend over the
workflow-aware runner. -/
theorem trace_aware_stack_never_verifies :
    resumedTask.resumeContext.map TaskResumeContext.strategy = some .verifyThenRepair ∧
      checkpointAnswers.created.isOk ∧
      (ExecutionStack.actions ⟨.traceAware (some 1), contentAgents, 0,
          some (fun _ => .agent, .workflowFirst, Durable.lift (.error ⟨.valueError, ""⟩))⟩
        checkpointAnswers (QueuedTaskWorker.request resumedTask resumedEnvelope ⟨7⟩
          (QueuedTaskWorker.SliceState.start resumedTask
            "0123456789012345678901234567890123456789"))).head? ≠
        some (.verify checkpointAnswers.tree) := by
  decide

/-! ### Work that is finished already -/

/-- Nothing in the stack changes a file. -/
def ExecutionStack.Quiet (stack : ExecutionStack) : Prop :=
  Orchestrator.Quiet stack.agents ∧ ∀ w ∈ stack.workflow,
    Leads (fun s t : TaskSession => t.workspace = s.workspace) w.2.2

section quiet

variable {stack : ExecutionStack} (hquiet : stack.Quiet)
include hquiet

theorem orchestratorRunner_workspace (request : RunRequest) :
    Leads (fun s t : TaskSession => t.workspace = s.workspace)
      ((orchestratorRunner stack.agents stack.minimumRepairAttempts).run request) := by
  have hkept := Orchestrator.kept_workspace hquiet.1
  exact Leads.bind hkept.trans (Leads.lift hkept.refl _) fun _ => hkept.run _ _ _ _

/-- **A quiet stack ends in the worktree it started in.** -/
theorem runner_workspace (request : RunRequest) :
    Leads (fun s t : TaskSession => t.workspace = s.workspace) (stack.runner.run request) := by
  have htrans : ∀ {s t u : TaskSession}, t.workspace = s.workspace → u.workspace = t.workspace →
      u.workspace = s.workspace := fun hst htu => htu.trans hst
  have hrefl : ∀ s : TaskSession, s.workspace = s.workspace := fun _ => rfl
  have hagent := orchestratorRunner_workspace hquiet
  cases hworkflow : stack.workflow with
  | none =>
    rw [ExecutionStack.runner, hworkflow]
    exact hagent request
  | some w =>
    obtain ⟨matchTask, activationMode, workflowRun⟩ := w
    have hworkflowRun : Leads (fun s t : TaskSession => t.workspace = s.workspace) workflowRun :=
      hquiet.2 _ hworkflow
    rw [ExecutionStack.runner, hworkflow]
    refine Leads.bind htrans (Leads.lift hrefl _) fun _ => Leads.read_bind fun s => ?_
    dsimp only
    split_ifs
    · exact Leads.bind htrans (hagent _) fun _ => Leads.pure hrefl _
    · exact Leads.pure hrefl _
    · refine Leads.bind htrans hworkflowRun fun workflow => ?_
      split_ifs
      · exact Leads.pure hrefl _
      · refine Leads.bind htrans (hagent _) fun agent => ?_
        split_ifs
        · exact Leads.pure hrefl _
        · refine Leads.bind htrans hworkflowRun fun recovery => ?_
          split_ifs
          · exact Leads.pure hrefl _
          · exact Leads.pure hrefl _
    · exact Leads.bind htrans (hagent _) fun _ => Leads.pure hrefl _

end quiet

/-- Of a clean worktree nothing can be committed: no success, and no checkpoint. -/
theorem finishSlice_of_clean {request : ExecutionRequest} {workspace : TaskWorkspace}
    {result : TaskRunResult} {answers : WorktreeAnswers}
    {evidence : WorkerExecutionEvidence WorkContent} (hclean : workspace.changedFiles = [])
    (h : finishSlice request workspace result answers = .ok evidence) :
    evidence.status = .failed ∧ evidence.checkpoint = none := by
  rcases finishSlice_eq_ok h with ⟨checkpoint, hcheckpoint, rfl⟩ | ⟨commit, hcommit, rfl⟩
  · rw [checkpointFailedWork, if_pos hclean] at hcheckpoint
    obtain rfl := Except.ok.inj hcheckpoint
    exact ⟨rfl, rfl⟩
  · exact absurd hclean (TaskWorkspace.commitTaskChanges_eq_ok hcommit).1

/-- What a stack answers is the evidence of a slice. -/
theorem ExecutionStack.execute_eq_ok {stack : ExecutionStack} {answers : WorktreeAnswers}
    {request : ExecutionRequest} {evidence : WorkerExecutionEvidence WorkContent}
    {actions : List Action} (h : stack.execute answers request = .ok (evidence, actions)) :
    evidence = (runSlice stack.runner answers request (stack.backend.runRequest request)).1 := by
  rw [ExecutionStack.execute, Backend.execute] at h
  simp only [Raising.bind_eq_ok, Raising.pure_eq_ok] at h
  obtain ⟨_, -, h⟩ := h
  rw [h]

/-- **A slice in which nothing changes a file fails, and leaves no checkpoint.** -/
theorem ExecutionStack.execute_of_quiet {stack : ExecutionStack} {answers : WorktreeAnswers}
    {request : ExecutionRequest} {evidence : WorkerExecutionEvidence WorkContent}
    {actions : List Action} (hquiet : stack.Quiet)
    (h : stack.execute answers request = .ok (evidence, actions)) :
    evidence.status = .failed ∧ evidence.checkpoint = none := by
  have hend := runner_workspace hquiet (stack.backend.runRequest request)
    (TaskSession.start (TaskWorkspace.fresh request.baseCommit answers.tree))
  have hclean : (stack.runner.run (stack.backend.runRequest request) (TaskSession.start
      (TaskWorkspace.fresh request.baseCommit answers.tree))).final.workspace.changedFiles = [] := by
    rw [hend]
    exact TaskWorkspace.changedFiles_of_unchanged rfl
  rw [ExecutionStack.execute_eq_ok h]
  rcases runSlice_evidence stack.runner answers request (stack.backend.runRequest request) with
    ⟨_, _, _, hfailed⟩ | ⟨result, hfinish⟩
  · rw [hfailed]
    exact ⟨rfl, rfl⟩
  · exact finishSlice_of_clean hclean hfinish

/-- The collaborators of a worker whose slice `k` runs through the stack `stack k`. -/
def WorkerCalls.through (calls : WorkerCalls) (stack : ℕ → ExecutionStack)
    (answers : ℕ → WorktreeAnswers) : WorkerCalls :=
  { calls with
    backend := fun k request => Prod.fst <$> (stack k).execute (answers k) request }

/-- How many slices were started, by the evidence. -/
def slicesStarted (execution : WorkerExecutionEvidence WorkContent) : ℕ :=
  ((execution.details.bind ExecutionDetails.continuation).map
    TaskContinuationSummary.slicesStarted).getD 1

/-- The evidence of a slice is an execution without a summary. -/
theorem ExecutionStack.execute_details {stack : ExecutionStack} {answers : WorktreeAnswers}
    {request : ExecutionRequest} {evidence : WorkerExecutionEvidence WorkContent}
    {actions : List Action} (h : stack.execute answers request = .ok (evidence, actions)) :
    ∃ details, evidence.content = .execution details ∧ details.continuation = none := by
  rw [ExecutionStack.execute_eq_ok h]
  rcases runSlice_evidence stack.runner answers request (stack.backend.runRequest request) with
    ⟨_, _, _, hfailed⟩ | ⟨result, hfinish⟩
  · rw [hfailed]
    exact ⟨_, rfl, rfl⟩
  · rcases finishSlice_eq_ok hfinish with ⟨_, -, heq⟩ | ⟨_, -, heq⟩
    · rw [heq]
      exact ⟨_, rfl, rfl⟩
    · rw [heq]
      exact ⟨_, rfl, rfl⟩

open QueuedTaskWorker in
/-- The terminal evidence of a worker over stacks: the number of slices it names is
at most that of the last slice, and it failed if nothing changed a file in that
slice. -/
theorem work_through_eq_ok {settings : WorkerSettings} {calls : WorkerCalls}
    {stack : ℕ → ExecutionStack} {answers : ℕ → WorktreeAnswers} {queued : QueuedTask}
    {envelope : WorkerEnvelope} {s : WorkerState}
    {execution : WorkerExecutionEvidence WorkContent}
    (h : (work settings (calls.through stack answers) queued envelope s).result = .ok execution) :
    ∃ last, slicesStarted execution ≤ last ∧
      ((stack last).Quiet → execution.status = .failed) := by
  obtain ⟨slice, v, t, hindex, hslice, rfl⟩ := work_eq_ok h
  obtain ⟨answer, hanswer, hcheckpoint⟩ := runSliceOnce_eq_ok hslice
  obtain ⟨⟨answer, actions⟩, hexecute, rfl⟩ : ∃ r, (stack v.sliceIndex).execute
      (answers v.sliceIndex) (request queued envelope t.db.runId v) = .ok r ∧ r.1 = answer := by
    exact Raising.map_eq_ok.1 hanswer
  obtain ⟨details, hdetails, hnone⟩ := ExecutionStack.execute_details hexecute
  have hslice : slice.status = answer.status ∧
      ∃ details, slice.content = .execution details ∧ details.continuation = none := by
    rcases hcheckpoint with ⟨-, rfl⟩ | ⟨checkpoint, tokens, -, rfl⟩
    · exact ⟨rfl, details, hdetails, hnone⟩
    · simp only [withCheckpoint, hdetails]
      exact ⟨trivial, _, rfl, hnone⟩
  obtain ⟨hstatus, details', hdetails', hnone'⟩ := hslice
  refine ⟨v.sliceIndex, ?_, fun hquiet => ?_⟩
  · simp only [withContinuation, hdetails']
    split_ifs
    · simp [slicesStarted, WorkerExecutionEvidence.details]
    · simpa [slicesStarted, WorkerExecutionEvidence.details, hdetails', hnone'] using hindex
  · have hfailed := (ExecutionStack.execute_of_quiet hquiet hexecute).1
    simp only [withContinuation, hdetails']
    split_ifs
    · exact hstatus.trans hfailed
    · exact hstatus.trans hfailed

open QueuedTaskWorker in
/-- **Work that nobody touches any more never ends with SUCCEEDED evidence.**
Through every stack, from any slice on and from any resume context: if nothing
changes a file from slice `k` on, an execution that got to slice `k` has no SUCCEEDED
evidence, whatever the verifier and the reviewer say of the tree. -/
theorem unchanged_work_fails (settings : WorkerSettings) (calls : WorkerCalls)
    (stack : ℕ → ExecutionStack) (answers : ℕ → WorktreeAnswers) (queued : QueuedTask)
    (envelope : WorkerEnvelope) (runBase : String) (s : WorkerState) (k : ℕ)
    (hquiet : ∀ j, k ≤ j → (stack j).Quiet) :
    ¬∃ execution, (execute settings (calls.through stack answers) queued envelope runBase
        s).result = .ok execution ∧
      k ≤ slicesStarted execution ∧ execution.status = .succeeded := by
  rintro ⟨execution, hexecute, hreached, hsucceeded⟩
  have hfailed : execution.status = .failed := by
    rcases (execute_eq_ok hexecute).2 with ⟨_, -, hterminal, -⟩ | ⟨hwork, -⟩ | ⟨hwork, -⟩
    · exact (persistTerminalWorkerException_eq_ok hterminal).1
    · obtain ⟨last, hlast, hfails⟩ := work_through_eq_ok hwork
      exact hfails (hquiet last (hreached.trans hlast))
    · obtain ⟨last, hlast, hfails⟩ := work_through_eq_ok hwork
      exact hfails (hquiet last (hreached.trans hlast))
  rw [hfailed] at hsucceeded
  cases hsucceeded

theorem contentAgents_quiet : Orchestrator.Quiet contentAgents := by
  intro session files hleft
  cases hleft <;> rfl

/-- A worker with the lease of the resumed task. -/
def resumedWorker : WorkerState where
  db := (Database.created WorkContent ⟨7⟩ ["a"]).setLease "a"
    ⟨"worker", ⟨1⟩, 1, ⟨2⟩, 0, 0, 1000, none, Lease.firstGeneration⟩
  now := 1

/-- A worker without a registry and a token budget, whose clock stands still. -/
def plainCalls : WorkerCalls where
  resolveBase := .ok "0123456789012345678901234567890123456789"
  backend _ _ := .error ⟨.runtimeError, ""⟩
  backendTime _ := 0
  elapsedMs _ := 0
  remainingTokens := none
  markProducer := none
  reclaimBudget := none
  cleanupTime := 0

open QueuedTaskWorker in
theorem unchanged_work_fails_plain :
    ¬∃ execution, (execute ⟨3, 1000, 1⟩ (plainCalls.through
        (fun _ => ⟨.plain, contentAgents, 0, none⟩) fun _ => checkpointAnswers) resumedTask
        resumedEnvelope "0123456789012345678901234567890123456789" resumedWorker).result =
        .ok execution ∧
      1 ≤ slicesStarted execution ∧ execution.status = .succeeded :=
  unchanged_work_fails _ _ _ _ _ _ _ _ _ fun _ _ => ⟨contentAgents_quiet, by simp⟩

open QueuedTaskWorker in
/-- A resumed task whose checkpoint passes the checks and would pass the review ends
with FAILED evidence: the reviewer is not asked without a diff. -/
theorem finished_checkpoint_fails :
    (∀ session, ∃ gate, (contentAgents.verify session).1 = .ok gate ∧ gate.passed = true) ∧
      (∀ session, ∃ decision, (contentAgents.review session).1 = .result decision ∧
        decision.decision = .pass) ∧
      (∀ session files, Orchestrator.Leaves contentAgents session files →
        files = session.workspace.files) ∧
      ((execute ⟨3, 1000, 1⟩ (plainCalls.through (fun _ => ⟨.plain, contentAgents, 0, none⟩)
        fun _ => checkpointAnswers) resumedTask resumedEnvelope
        "0123456789012345678901234567890123456789" resumedWorker).result.toOption.map
          WorkerExecutionEvidence.status) = some .failed := by
  refine ⟨fun session => ⟨_, rfl, rfl⟩, fun session => ⟨_, rfl, rfl⟩, contentAgents_quiet, ?_⟩
  decide +kernel

end DevFlow
