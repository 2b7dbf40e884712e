/-
# Workflow runs with an agent behind them

What `WorkflowAwareTaskRunner.run` (`workflows/executor.py`) makes of a template run, an
agent runner and a second template run, whatever they answer.  `Tried` says which
trials a whole run may have made, in order, and `workflow_run_sound` is the run: the
fields it copies from one result into another leave a record that is in order, and a
success is one of the last run, whose last verification passed.
-/

import DevFlow.Workflows.ExecutorRuns

namespace DevFlow

open Durable (Prog Spec)

namespace WorkflowAwareTaskRunner

/-- The trials of a whole run: templates, then the agent runner, then templates
again. -/
inductive Tried (mode : WorkflowActivationMode) (maxAttempts : ℕ) : List WorkflowTrial → Prop
  | templates {n : ℕ} (hn : n ≤ maxAttempts) (hmode : mode = .agentOnly → n = 0) :
      Tried mode maxAttempts (templates n)
  | agent (hmode : mode ≠ .workflowOnly) : Tried mode maxAttempts [.agent]
  | escalated {n : ℕ} (hn : n ≤ maxAttempts) (hmode : mode = .workflowFirst) :
      Tried mode maxAttempts (DevFlow.templates n ++ [.agent])
  | recovered {n m : ℕ} (hn : n ≤ maxAttempts) (hm : m ≤ maxAttempts)
      (hmode : mode = .workflowFirst) :
      Tried mode maxAttempts (DevFlow.templates n ++ [.agent] ++ DevFlow.templates m)

theorem not_agent_of_mem_templates {n : ℕ} {trial : WorkflowTrial} (h : trial ∈ templates n) :
    trial ≠ .agent := by
  obtain ⟨attempt, -, rfl⟩ := List.mem_map.1 h
  simp

@[simp] theorem length_templates (n : ℕ) : (templates n).length = n := by
  simp [templates]

@[simp] theorem count_agent_templates (n : ℕ) : (templates n).count .agent = 0 :=
  List.count_eq_zero.2 fun h => not_agent_of_mem_templates h rfl

/-- The agent runner is called at most once. -/
theorem Tried.count_agent_le {mode : WorkflowActivationMode} {maxAttempts : ℕ}
    {trials : List WorkflowTrial} (h : Tried mode maxAttempts trials) :
    trials.count .agent ≤ 1 := by
  cases h <;> simp

/-- Templates are tried at most twice the bound of one run. -/
theorem Tried.length_le {mode : WorkflowActivationMode} {maxAttempts : ℕ}
    {trials : List WorkflowTrial} (h : Tried mode maxAttempts trials) :
    trials.length ≤ 2 * maxAttempts + trials.count .agent := by
  cases h <;> simp <;> omega

/-- What a run may raise. -/
inductive Raises (runner : WorkflowAwareTaskRunner) (task : TaskContractFields) : Failure → Prop
  | workflow {failure : Failure} (h : runner.workflowRunner.Raises task failure) :
      Raises runner task failure
  | agent {session : TaskSession} {failure : Failure}
      (h : (runner.agentRun session).result = .error failure) : Raises runner task failure

/-- How a run ends. -/
def Ends (runner : WorkflowAwareTaskRunner) (task : TaskContractFields) :
    Except Failure SingleTaskRunRecord → WorkflowSession → Prop
  | .ok record, s => Returned record s.session
  | .error failure, _ => runner.Raises task failure

/-- The trials of a run at any moment. -/
def Trying (runner : WorkflowAwareTaskRunner) (s : WorkflowSession) : Prop :=
  Tried runner.activationMode runner.workflowRunner.maxAttempts s.trials

/-- How the call of the agent runner ends. -/
def AgentEnds (runner : WorkflowAwareTaskRunner) (task : TaskContractFields)
    (trials : List WorkflowTrial) : Except Failure SingleTaskRunRecord → WorkflowSession → Prop
  | .ok record, s => s.trials = trials ++ [.agent] ∧ Returned record s.session
  | .error failure, _ => runner.Raises task failure

theorem returned_withExecution {record : SingleTaskRunRecord} {session : TaskSession}
    (h : Returned record session) (execution : WorkflowExecutionRecord) :
    Returned (record.withExecution execution) session :=
  ⟨⟨h.legal.events, h.legal.repairAttempts⟩, fun hsucceeded =>
    ⟨(h.verified hsucceeded).passed, (h.verified hsucceeded).last⟩⟩

section specs

variable {runner : WorkflowAwareTaskRunner} {task : TaskContractFields} {found : WorkflowMatch}
variable {trials : List WorkflowTrial}

/-- The agent runner is called. -/
theorem runAgent_spec (hagent : SoundAgent runner.agentRun) :
    Spec (fun s => s.trials = trials) runner.runAgent
      (fun s => s.trials = trials ∨ s.trials = trials ++ [.agent])
      (runner.AgentEnds task trials) := by
  refine Spec.write_bind (fun s => s.trials = trials ++ [.agent]) (fun s hs => .inl hs)
    (fun s hs => by rw [← hs]) ?_
  refine Spec.bind (Q := fun answer s => s.trials = trials ++ [.agent] ∧
      ∃ session, (runner.agentRun session).result = answer ∧
        (runner.agentRun session).final = s.session)
    (Spec.zoom fun s hs => ⟨fun t => .inr hs, hs, s.session, rfl, rfl⟩) (fun result => ?_) ?_
  · refine Spec.pure (fun s hs => .inr hs.1) fun s hs => ⟨hs.1, ?_⟩
    obtain ⟨-, session, hresult, hfinal⟩ := hs
    exact hfinal ▸ hagent session result hresult
  · rintro failure s ⟨-, session, hresult, -⟩
    exact .agent hresult

/-- The record of an agent run. -/
theorem validate_eq {execution : WorkflowExecutionRecord} (hattempts : execution.attempts ≤ 3)
    (hreason : ∀ reason ∈ execution.fallbackReason, reason.length ≤ 512)
    (hworkflow : execution.mode ≠ .workflow)
    (hagent : execution.mode = .agent → execution.workflowId = none) :
    execution.validate = .ok execution := by
  have hreason' : ¬execution.fallbackReason.any fun reason => 512 < reason.length := by
    cases hfound : execution.fallbackReason with
    | none => simp
    | some reason => simpa using hreason reason hfound
  rw [WorkflowExecutionRecord.validate, Raising.raiseIf_of_not (Nat.not_lt.2 hattempts),
    Raising.raiseIf_of_not hreason', Raising.raiseIf_of_not fun h => hworkflow h.1,
    Raising.raiseIf_of_not fun h => h.2 (hagent h.1)]
  rfl

/-- The agent runner alone. -/
theorem agentResult_spec (hagent : SoundAgent runner.agentRun) {mode : WorkflowExecutionMode}
    {reason : Option String} (hmode : runner.activationMode ≠ .workflowOnly)
    (hworkflow : mode ≠ .workflow) (hreason : ∀ text ∈ reason, text.length ≤ 512) :
    Spec (fun s => s.trials = []) (runner.agentResult task found mode reason) runner.Trying
      (runner.Ends task) := by
  have htried : ∀ s : WorkflowSession, s.trials = [] ++ [.agent] → runner.Trying s :=
    fun s hs => by
      rw [Trying, hs]
      exact Tried.agent hmode
  refine Spec.bind ((@runAgent_spec _ task _ hagent).mono ?_) (fun record => ?_)
    fun failure s hs => hs
  · rintro s (hs | hs)
    · rw [Trying, hs]
      exact Tried.templates (n := 0) (Nat.zero_le _) fun _ => rfl
    · exact htried s hs
  refine Spec.lift_bind_of_ok (validate_eq (Nat.zero_le _) hreason hworkflow ?_) ?_
  · rintro rfl
    rfl
  · exact Spec.pure (fun s hs => htried s hs.1) fun s hs => returned_withExecution hs.2 _

/-- The record of a run that used both runners. -/
theorem hybridExecution_eq {prior : SingleTaskRunRecord} {reason : String}
    (hprior : ∀ execution ∈ prior.execution, execution.attempts ≤ 3)
    (hreason : reason.length ≤ 512) :
    ∃ execution, hybridExecution task found prior reason = .ok execution := by
  refine ⟨_, validate_eq ?_ ?_ (by simp) (by simp)⟩
  · cases hexecution : prior.execution with
    | none => exact Nat.zero_le _
    | some execution => exact hprior execution hexecution
  · rintro _ ⟨⟩
    exact hreason

/-- The second template run, after the agent runner has failed. -/
theorem recover_spec {agent : SingleTaskRunRecord} {n : ℕ} (hlegal : agent.Legal)
    (hfailed : agent.result.status ≠ .succeeded) (hmode : runner.activationMode = .workflowFirst)
    (hn : n ≤ runner.workflowRunner.maxAttempts) :
    Spec (fun s => s.trials = templates n ++ [.agent]) (do
        let recovery ← runner.workflowRunner.run task
        let execution ← Durable.lift (hybridExecution task found recovery recoveryReason)
        if recovery.result.status = .succeeded then
          return { recovery.withExecution execution with
            result.developer := agent.result.developer
            result.repairs := agent.result.repairs
            repairAttempts := agent.repairAttempts }
        else return agent.withExecution execution)
      runner.Trying (runner.Ends task) := by
  have htried : ∀ s, runner.workflowRunner.Trying (templates n ++ [.agent]) s →
      runner.Trying s := by
    rintro s ⟨m, hm, hs⟩
    rw [Trying, hs]
    exact .recovered hn hm hmode
  refine Spec.bind (DeterministicWorkflowRunner.run_spec.mono htried) (fun recovery => ?_)
    fun failure s hs => .workflow hs
  rintro s ⟨htrying, hreturned, hattempts⟩
  obtain ⟨execution, hexecution⟩ :=
    @hybridExecution_eq task found _ recoveryReason hattempts
      (by decide +kernel)
  refine Spec.lift_bind_of_ok (P := (· = s)) hexecution ?_ s rfl
  split_ifs with hsucceeded
  · refine Spec.pure (by rintro _ rfl; exact htried _ htrying) ?_
    rintro _ rfl
    exact ⟨⟨hreturned.legal.events, hlegal.repairAttempts⟩, fun h =>
      ⟨(hreturned.verified h).passed, (hreturned.verified h).last⟩⟩
  · refine Spec.pure (by rintro _ rfl; exact htried _ htrying) ?_
    rintro _ rfl
    exact ⟨⟨hlegal.events, hlegal.repairAttempts⟩, fun h => absurd h hfailed⟩

/-- The agent runner after a template run, and what follows it. -/
theorem escalate_spec {workflow : SingleTaskRunRecord} {n : ℕ} (hagent : SoundAgent runner.agentRun)
    (hmode : runner.activationMode = .workflowFirst) (hn : n ≤ runner.workflowRunner.maxAttempts)
    (hattempts : ∀ execution ∈ workflow.execution, execution.attempts ≤ 3) :
    Spec (fun s => s.trials = templates n) (do
        let agent ← runner.runAgent
        if agent.result.status = .succeeded then
          let execution ← Durable.lift (hybridExecution task found workflow escalationReason)
          return agent.withExecution execution
        else
          let recovery ← runner.workflowRunner.run task
          let execution ← Durable.lift (hybridExecution task found recovery recoveryReason)
          if recovery.result.status = .succeeded then
            return { recovery.withExecution execution with
              result.developer := agent.result.developer
              result.repairs := agent.result.repairs
              repairAttempts := agent.repairAttempts }
          else return agent.withExecution execution)
      runner.Trying (runner.Ends task) := by
  have hescalated : ∀ s : WorkflowSession, s.trials = templates n ++ [.agent] →
      runner.Trying s := by
    intro s hs
    rw [Trying, hs]
    exact .escalated hn hmode
  refine Spec.bind ((@runAgent_spec _ task _ hagent).mono ?_) (fun agent => ?_)
    fun failure s hs => hs
  · rintro s (hs | hs)
    · rw [Trying, hs]
      exact .templates hn fun h => absurd (hmode.symm.trans h) (by simp)
    · exact hescalated s hs
  split_ifs with hsucceeded
  · obtain ⟨execution, hexecution⟩ := @hybridExecution_eq task found _
      escalationReason hattempts (by decide)
    refine Spec.lift_bind_of_ok hexecution ?_
    exact Spec.pure (fun s hs => hescalated s hs.1) fun s hs => returned_withExecution hs.2 _
  · rintro s ⟨hs, hreturned⟩
    exact recover_spec hreturned.legal hsucceeded hmode hn s hs

/-- **A run that starts with a template.** -/
theorem runWorkflow_spec (hagent : SoundAgent runner.agentRun)
    (hmode : runner.activationMode ≠ .agentOnly) :
    Spec (fun s => s.trials = []) (runner.runWorkflow task found) runner.Trying
      (runner.Ends task) := by
  have hfirst : ∀ s n, n ≤ runner.workflowRunner.maxAttempts → s.trials = [] ++ templates n →
      runner.Trying s := fun s n hn hs => by
    rw [Trying, hs]
    exact Tried.templates hn fun h => absurd h hmode
  refine Spec.bind ((@DeterministicWorkflowRunner.run_spec _ _ []).mono ?_)
    (fun workflow => ?_) fun failure s hs => .workflow hs
  · rintro s ⟨n, hn, hs⟩
    exact hfirst s n hn hs
  split_ifs with hend
  · refine Spec.pure ?_ fun s hs => hs.2.1
    rintro s ⟨⟨n, hn, hs⟩, -⟩
    exact hfirst s n hn hs
  rw [not_or, not_or] at hend
  have hworkflowFirst : runner.activationMode = .workflowFirst := by
    cases hactivation : runner.activationMode with
    | workflowFirst => rfl
    | workflowOnly => exact absurd hactivation hend.2.1
    | agentOnly => exact absurd hactivation hmode
  rintro s ⟨⟨n, hn, hs⟩, -, hattempts⟩
  exact escalate_spec hagent hworkflowFirst hn hattempts s hs

/-- The result of a task that the policy rejects. -/
theorem workflowOnlyResult_eq (found : WorkflowMatch) :
    ∃ record, workflowOnlyResult task found = .ok record ∧ record.Legal ∧
      record.result.status = .failed := by
  have hlegal := @LegalEvents.next _ _ .failed legalEvents_start (by decide)
  obtain ⟨record, hcreate, hrecord, hstatus, -⟩ := @create_eq
    task.taskId _ _ [] _ ⟨task.taskId, .hybrid, found.workflowId, 0, [], found.fallbackReason, 0⟩
    hlegal
    (.inr ⟨rfl, List.cons_ne_nil
      ⟨.toolFailure, "当前策略仅允许 Workflow，但该任务没有可安全执行的工作流。", false⟩ []⟩)
  refine ⟨record, ?_, hrecord, hstatus⟩
  rw [workflowOnlyResult, WorkflowProgress.transition_eq legalEvents_start (by decide)]
  rw [Raising.ok_bind, validate_eq (Nat.zero_le _)
    (fun reason hreason => (found.reason_length reason hreason).2) (by simp) (by simp)]
  exact hcreate

theorem run_spec (hagent : SoundAgent runner.agentRun) :
    Spec (fun s => s.trials = []) (runner.run task) runner.Trying (runner.Ends task) := by
  refine Spec.read_keep fun session _ => ?_
  dsimp only
  split_ifs with hagentOnly hworkflowOnly hworkflow
  · refine agentResult_spec hagent (by simp [hagentOnly]) (by simp) ?_
    rintro _ ⟨⟩
    decide
  · obtain ⟨record, hresult, hlegal, hstatus⟩ :=
      @workflowOnlyResult_eq task (runner.matchTask session)
    rw [hresult]
    refine Spec.lift (fun s hs => ?_) fun s _ => ⟨hlegal, fun h => ?_⟩
    · rw [Trying, hs]
      exact .templates (n := 0) (Nat.zero_le _) fun _ => rfl
    · rw [hstatus] at h
      cases h
  · exact runWorkflow_spec hagent hagentOnly
  · exact agentResult_spec hagent (fun h => hworkflowOnly ⟨h, hworkflow⟩) hworkflow
      fun reason hreason => ((runner.matchTask session).reason_length reason hreason).2

end specs

end WorkflowAwareTaskRunner

/-- **The workflow-aware runner is sound and bounded**, in every activation mode and
whatever the matcher, the file system, the verifier and a sound agent runner
answer.  At every moment it has tried templates, or templates and then the agent
runner, or these and then templates again: never the agent runner when only
workflows are allowed, no template when only agents are, and no more than the bound
of one run in either place.  A result that it returns has a legal history and as many
repair attempts as repairs, and if it is a success its last verification passed and
nobody but the reviewer was called since; an error is one of the verifier's, the file
system's or the agent runner's, or a detail that no step record can hold. -/
theorem workflow_run_sound (runner : WorkflowAwareTaskRunner) (task : TaskContractFields)
    (session : TaskSession) (hagent : SoundAgent runner.agentRun) :
    (∀ s ∈ (runner.run task ⟨session, []⟩).states,
      WorkflowAwareTaskRunner.Tried runner.activationMode runner.workflowRunner.maxAttempts
        s.trials ∧
      s.trials.count .agent ≤ 1 ∧
      s.trials.length ≤ 2 * runner.workflowRunner.maxAttempts + s.trials.count .agent) ∧
    (∀ record, (runner.run task ⟨session, []⟩).result = .ok record →
      (record.result.status = .succeeded ∨ record.result.status = .failed) ∧
      Returned record (runner.run task ⟨session, []⟩).final.session) ∧
    ∀ failure, (runner.run task ⟨session, []⟩).result = .error failure →
      runner.Raises task failure := by
  obtain ⟨hstates, hend⟩ := @WorkflowAwareTaskRunner.run_spec _ task hagent
    ⟨session, []⟩ rfl
  refine ⟨fun s hs => ?_, fun record hrecord => ?_, fun failure hfailure => ?_⟩
  · have htried := hstates s hs
    exact ⟨htried, htried.count_agent_le, htried.length_le⟩
  · rw [hrecord] at hend
    exact ⟨record.result.terminal, hend⟩
  · rw [hfailure] at hend
    exact hend

/-- A task that the Python template is made for. -/
def helloTask : TaskContractFields :=
  ⟨⟨"hello", "Hello World", [], ["hello.py"], []⟩, ["prints hello world"], ["python hello.py"], 2⟩

theorem helloMatch_candidate : WorkflowRoute.workflowCandidate = .workflowCandidate →
    some WorkflowId.pythonScript ≠ none ∧ (none : Option String) = none :=
  fun _ => ⟨by simp, rfl⟩

theorem helloMatch_fallback : WorkflowRoute.workflowCandidate = .agentFallback →
    some WorkflowId.pythonScript = none ∧ (none : Option String) ≠ none := by
  simp

theorem helloMatch_reason : ∀ reason ∈ (none : Option String),
    1 ≤ reason.length ∧ reason.length ≤ 512 := by
  simp

/-- What the matcher says of it. -/
def helloMatch : WorkflowMatch :=
  ⟨"hello", .workflowCandidate, .workflow, some .pythonScript, none, helloMatch_candidate,
    helloMatch_fallback, helloMatch_reason⟩

theorem one_le_one : 1 ≤ 1 := le_rfl

theorem one_le_three : 1 ≤ 3 := by decide

/-- A template runner whose file is written and whose verification fails. -/
def helloWorkflow : DeterministicWorkflowRunner where
  text := ⟨fun c => c.isAlphanum, fun s => s⟩
  matchTask _ := helloMatch
  writeFile s _ _ := (.written false, s.session.workspace.files)
  verify s := (.ok ⟨[⟨"pytest", false, some .testFailure, none⟩]⟩, s.session.workspace.files)
  maxAttempts := 1
  estimatedTokensSaved := 0
  one_le_maxAttempts := one_le_one
  maxAttempts_le := one_le_three

/-- Agents of which the developer's model provider fails. -/
def helloAgents : Agents where
  buildContext _ _ := none
  developer s := (.providerError ⟨.rateLimit, "rate limited", false⟩, s.workspace.files)
  verify s := (.ok ⟨[]⟩, s.workspace.files)
  review s := (.result ⟨.pass, "fine"⟩, s.workspace.files)
  repair s _ := (.result .modelStop, s.workspace.files)

/-- The template first, then the orchestrator. -/
def helloRunner : WorkflowAwareTaskRunner where
  matchTask _ := helloMatch
  workflowRunner := helloWorkflow
  agentRun := Orchestrator.run helloAgents 0 ⟨"hello", 2⟩ none false
  activationMode := .workflowFirst

def helloSession : TaskSession :=
  TaskSession.start (TaskWorkspace.fresh "head" [])

/-- The template is tried, the agent runner is called, and the template is tried
again. -/
theorem workflow_run_sound_hello :
    (helloRunner.run helloTask ⟨helloSession, []⟩).final.trials =
        [.template 1, .agent, .template 1] ∧
      WorkflowAwareTaskRunner.Tried .workflowFirst 1 [.template 1, .agent, .template 1] := by
  have htrials : (helloRunner.run helloTask ⟨helloSession, []⟩).final.trials =
      [.template 1, .agent, .template 1] := by
    decide +kernel
  have hsound := workflow_run_sound helloRunner helloTask helloSession
    (orchestrator_soundAgent helloAgents 0 ⟨"hello", 2⟩ none false)
  exact ⟨htrials, htrials ▸ (hsound.1 _ (Durable.final_mem_states _)).1⟩

end DevFlow
