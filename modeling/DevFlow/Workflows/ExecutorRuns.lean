/-
# Template runs are bounded and sound

What `DeterministicWorkflowRunner.run` (`workflows/executor.py`) does, whatever the
matcher, the file system and the verifier answer: `attemptLoop_spec` is the loop, by
induction on the attempts that are left, and `run_spec` the run.  `Returned` says of
any runner that the record it returned is in order and that a success was verified;
`orchestrator_soundAgent` says it of the orchestrator.
-/

import DevFlow.Runtime.OrchestratorRuns
import DevFlow.Workflows.Executor

namespace DevFlow

open Durable (Prog Spec)

/-- The templates of one run. -/
def templates (n : ℕ) : List WorkflowTrial :=
  (List.range' 1 n).map .template

theorem templates_succ (n : ℕ) : templates (n + 1) = templates n ++ [.template (n + 1)] := by
  rw [templates, List.range'_concat, List.map_append, templates]
  simp [Nat.add_comm]

/-- A history of transitions from the start to a state. -/
structure LegalEvents (events : List TaskRunState) (state : TaskRunState) : Prop where
  transitions : events.IsChain fun state next => next ∈ allowedTransitions state
  first : events.head? = some .pending
  last : events.getLast? = some state

/-- A record whose events and repairs are in order. -/
structure SingleTaskRunRecord.Legal (record : SingleTaskRunRecord) : Prop where
  events : LegalEvents record.result.events record.result.status
  repairAttempts : record.repairAttempts = record.result.repairs.length

/-- The last verification passed, and since then nobody but the reviewer was
called. -/
structure Verified (result : TaskRunResult) (session : TaskSession) : Prop where
  passed : ∃ verification, result.verifications.getLast? = some verification ∧ verification.passed
  last : ∃ earlier files, session.actions = earlier ++ [.verify files] ∨
    session.actions = earlier ++ [.verify files, .review]

/-- The records that a runner may return in a session. -/
structure Returned (record : SingleTaskRunRecord) (session : TaskSession) : Prop where
  legal : record.Legal
  verified : record.result.status = .succeeded → Verified record.result session

/-- An agent runner whose results are in order, and a success of which was
verified. -/
def SoundAgent (agentRun : Runtime TaskRunResult) : Prop :=
  ∀ session result, (agentRun session).result = .ok result →
    Returned (SingleTaskRunRecord.ofResult result) (agentRun session).final

/-! ### The orchestrator is sound -/

theorem Orchestrator.Course.first {resumed : Bool} {record : List Orchestrator.Deed}
    {last : Orchestrator.Deed} (h : Orchestrator.Course resumed record last) :
    (record.filterMap Orchestrator.Deed.entered?).head? = some .pending := by
  induction h with
  | start => rfl
  | step _ _ ih => rw [List.filterMap_append, List.head?_append, ih, Option.some_or]

/-- **The orchestrator is a sound agent runner.** -/
theorem orchestrator_soundAgent (agents : Agents) (minimum : ℕ) (task : TaskWork)
    (resume : Option ContextContinuationState) (resumed : Bool) :
    SoundAgent (Orchestrator.run agents minimum task resume resumed) := by
  intro session result hresult
  have hend := (Orchestrator.run_spec agents minimum task resume resumed session _ rfl).2
  rw [hresult] at hend
  have hsettled := hend.settled
  obtain ⟨hreports, last, repairs, -, -, hat⟩ := hend
  obtain ⟨record, hcourse, hholds⟩ := hat.course
  refine ⟨⟨⟨?_, ?_, ?_⟩, rfl⟩, fun hsucceeded => ?_⟩
  · change result.events.IsChain _
    rw [hreports.events, hholds.events]
    exact hcourse.transitions
  · change result.events.head? = _
    rw [hreports.events, hholds.events, hcourse.first]
  · change result.events.getLast? = some result.status
    rw [hreports.events, hholds.events, hcourse.state, hreports.status, hat.state]
  · obtain ⟨start, files, verification, review, hpassed, -, -, hholds⟩ :=
      hsettled.course hsucceeded
    refine ⟨⟨verification, ?_, hpassed⟩,
      session.actions ++ start.filterMap Orchestrator.Deed.called?, files, .inr ?_⟩
    · change result.verifications.getLast? = _
      rw [hreports.verifications, hholds.verifications, List.filterMap_append]
      simp [List.filterMap_cons, Orchestrator.Deed.verified?]
    · rw [hholds.actions, List.filterMap_append, ← List.append_assoc]
      simp [List.filterMap_cons, Orchestrator.Deed.called?]

/-! ### One template run -/

namespace WorkflowProgress

variable {progress : WorkflowProgress} {state next : TaskRunState}

theorem state_eq (h : LegalEvents progress.events state) : progress.state = state := by
  rw [WorkflowProgress.state, List.getLastD_eq_getLast?, h.last]
  rfl

/-- A transition that the machine has. -/
theorem transition_eq (h : LegalEvents progress.events state)
    (hnext : next ∈ allowedTransitions state) :
    progress.transition next = .ok { progress with events := progress.events ++ [next] } := by
  rw [transition, state_eq h, Raising.raiseIf_of_not (by simpa using hnext)]
  rfl

end WorkflowProgress

theorem LegalEvents.next {events : List TaskRunState} {state next : TaskRunState}
    (h : LegalEvents events state) (hnext : next ∈ allowedTransitions state) :
    LegalEvents (events ++ [next]) next := by
  refine ⟨List.isChain_append.2 ⟨h.transitions, List.isChain_singleton _, ?_⟩, ?_, ?_⟩
  · intro current hcurrent other hother
    obtain rfl : state = current := by simpa [h.last] using hcurrent
    obtain rfl : next = other := by simpa using hother
    exact hnext
  · rw [List.head?_append, h.first, Option.some_or]
  · simp

/-- The first state. -/
theorem legalEvents_start : LegalEvents [.pending] .pending :=
  ⟨List.isChain_singleton _, rfl, rfl⟩

theorem LegalEvents.two_le {events : List TaskRunState} {state : TaskRunState}
    (h : LegalEvents events state) (hstate : state ≠ .pending) : ¬events.length < 2 := by
  intro hlength
  have hfirst := h.first
  have hlast := h.last
  rcases events with _ | ⟨event, _ | ⟨other, rest⟩⟩
  · cases hfirst
  · simp only [List.head?_cons, List.getLast?_singleton, Option.some.injEq] at hfirst hlast
    exact hstate (hlast.symm.trans hfirst)
  · simp only [List.length_cons] at hlength
    omega

/-- A record with events that end in a terminal state, and the failures of that
state. -/
theorem create_eq {taskId : String} {status : TaskRunState} {events : List TaskRunState}
    {verifications : List HardGateResult} {failures : List FailureReport}
    {execution : WorkflowExecutionRecord} (h : LegalEvents events status)
    (hstatus : status = .succeeded ∧ failures = [] ∨ status = .failed ∧ failures ≠ []) :
    ∃ record, SingleTaskRunRecord.create taskId status events verifications failures execution =
      .ok record ∧ record.Legal ∧ record.result.status = status ∧
      record.result.verifications = verifications ∧ record.execution = some execution := by
  have hterminal : status = .succeeded ∨ status = .failed := by
    rcases hstatus with ⟨h, -⟩ | ⟨h, -⟩
    · exact .inl h
    · exact .inr h
  have hpending : status ≠ .pending := by
    rcases hterminal with rfl | rfl <;> simp
  have hsucceeded : ¬(status = .succeeded ∧ failures ≠ []) := by
    rintro ⟨rfl, hne⟩
    rcases hstatus with ⟨-, hnil⟩ | ⟨hfailed, -⟩
    · exact hne hnil
    · cases hfailed
  have hfailed : ¬(status = .failed ∧ failures = []) := by
    rintro ⟨rfl, hnil⟩
    rcases hstatus with ⟨hsucceeded, -⟩ | ⟨-, hne⟩
    · cases hsucceeded
    · exact hne hnil
  rw [SingleTaskRunRecord.create, Raising.raiseIf_of_not (h.two_le hpending), dif_pos hterminal,
    Raising.raiseIf_of_not (not_not.2 h.last), Raising.raiseIf_of_not hsucceeded,
    Raising.raiseIf_of_not hfailed]
  exact ⟨_, rfl, ⟨h, rfl⟩, rfl, rfl, rfl⟩

namespace DeterministicWorkflowRunner

variable {runner : DeterministicWorkflowRunner} {task : TaskContractFields}
variable {workflowId : WorkflowId} {progress : WorkflowProgress} {state : TaskRunState}

/-- The result of a run at its end. -/
theorem result_eq {attempts saved : ℕ} {failures : List FailureReport}
    (h : LegalEvents progress.events state) (hattempts : attempts ≤ 3)
    (hstate : state = .succeeded ∧ failures = [] ∨ state = .failed ∧ failures ≠ []) :
    ∃ record, result task progress workflowId attempts failures saved = .ok record ∧
      record.Legal ∧ record.result.status = state ∧
      record.result.verifications = progress.verifications ∧
      ∀ execution ∈ record.execution, execution.attempts ≤ 3 := by
  obtain ⟨record, hcreate, hlegal, hstatus, hverifications, hexecution⟩ :=
    @create_eq task.taskId _ _ progress.verifications _
      ⟨task.taskId, .workflow, some workflowId, attempts, progress.steps, none, saved⟩ h hstate
  refine ⟨record, ?_, hlegal, hstatus, hverifications, ?_⟩
  · rw [result, WorkflowProgress.state_eq h]
    simp only [WorkflowExecutionRecord.validate, Raising.raiseIf_of_not (Nat.not_lt.2 hattempts)]
    exact hcreate
  · rw [hexecution]
    rintro _ ⟨⟩
    exact hattempts

/-- What the file system and the verifier raise, and the detail of a step that is too
long or empty. -/
inductive Raises (runner : DeterministicWorkflowRunner) (task : TaskContractFields) : Failure → Prop
  | file {session : WorkflowSession} {path source : String} {failure : Failure}
      (h : (runner.writeFile session path source).1 = .raises failure) : Raises runner task failure
  | verify {session : WorkflowSession} {failure : Failure}
      (h : (runner.verify session).1 = .error failure) : Raises runner task failure
  | refusal {session : WorkflowSession} {path source message : String}
      (h : (runner.writeFile session path source).1 = .refused message)
      (hlength : message.length < 1 ∨ 512 < message.length) :
      Raises runner task ⟨.valueError, "workflow step detail length is out of range"⟩
  | detail {path : String} (reused : Bool) (hpath : path ∈ task.writableFiles)
      (hlength : 512 < (templateDetail reused path).length) :
      Raises runner task ⟨.valueError, "workflow step detail length is out of range"⟩

/-- A step is added, or its detail is too long or empty. -/
theorem addStep_cases {name detail : String} {status : WorkflowStepStatus} {attempt : ℕ}
    (hname : 1 ≤ name.length ∧ name.length ≤ 64) (hattempt : 1 ≤ attempt ∧ attempt ≤ 3) :
    progress.addStep ⟨name, status, detail, attempt⟩ =
        .ok { progress with steps := progress.steps ++ [⟨name, status, detail, attempt⟩] } ∨
      (detail.length < 1 ∨ 512 < detail.length) ∧
        progress.addStep ⟨name, status, detail, attempt⟩ =
          .error ⟨.valueError, "workflow step detail length is out of range"⟩ := by
  have hname' : ¬(name.length < 1 ∨ 64 < name.length) := by omega
  have hattempt' : ¬(attempt < 1 ∨ 3 < attempt) := by omega
  simp only [WorkflowProgress.addStep, WorkflowStepResult.validate, Raising.raiseIf_of_not hname',
    Raising.raiseIf_of_not hattempt']
  by_cases hdetail : detail.length < 1 ∨ 512 < detail.length
  · rw [Raising.raiseIf_of hdetail]
    exact .inr ⟨hdetail, rfl⟩
  · rw [Raising.raiseIf_of_not hdetail]
    exact .inl rfl

/-- What `_write_template` answers. -/
def Answers (runner : DeterministicWorkflowRunner) (task : TaskContractFields) :
    Except Failure (Except String String) → Prop
  | .ok (.ok detail) => ∃ reused, ∃ path ∈ task.writableFiles, detail = templateDetail reused path
  | .ok (.error message) => (1 ≤ message.length ∧ message.length ≤ 512) ∨
      ∃ session path source, (runner.writeFile session path source).1 = .refused message
  | .error failure => runner.Raises task failure

theorem template_error {text : PythonText} {message : String}
    (h : template text task workflowId = .error message) :
    1 ≤ message.length ∧ message.length ≤ 512 := by
  unfold template at h
  split at h
  · split at h
    · obtain rfl := Except.error.inj h
      decide
    · cases h
  · obtain rfl := Except.error.inj h
    decide

theorem template_ok {text : PythonText} {path source : String}
    (h : template text task workflowId = .ok (path, source)) : path ∈ task.writableFiles := by
  unfold template at h
  split at h
  · rename_i candidate hfilter
    have hmem : candidate ∈ task.writableFiles.filter
        fun path => workflowId.extension.toList.isSuffixOf path.toList := by
      rw [hfilter]
      exact List.mem_singleton_self _
    split at h
    · cases h
    · obtain ⟨rfl, -⟩ := Prod.mk.inj (Except.ok.inj h)
      exact (List.mem_filter.1 hmem).1
  · cases h

section specs

variable {trials : List WorkflowTrial} {attempt : ℕ}

/-- One template is tried. -/
theorem writeTemplate_spec : Spec (fun s => s.trials = trials)
    (runner.writeTemplate task workflowId attempt)
    (fun s => s.trials = trials ∨ s.trials = trials ++ [.template attempt])
    fun answer s => s.trials = trials ++ [.template attempt] ∧ Answers runner task answer := by
  refine Spec.write_bind (fun s => s.trials = trials ++ [.template attempt])
    (fun s hs => .inl hs) (fun s hs => by rw [← hs]) ?_
  cases htemplate : template runner.text task workflowId with
  | error message =>
    exact Spec.pure (fun s hs => .inr hs) fun s hs => ⟨hs, .inl (template_error htemplate)⟩
  | ok written =>
    refine Spec.read_keep fun session _ => ?_
    refine Spec.write_bind (fun s => s.trials = trials ++ [.template attempt])
      (fun s hs => .inr hs) (fun s hs => hs) ?_
    cases hanswer : (runner.writeFile session written.1 written.2).1 with
    | raises failure => exact Spec.lift (fun s hs => .inr hs) fun s hs => ⟨hs, .file hanswer⟩
    | refused message =>
      exact Spec.pure (fun s hs => .inr hs) fun s hs => ⟨hs, .inr ⟨_, _, _, hanswer⟩⟩
    | written reused =>
      exact Spec.pure (fun s hs => .inr hs) fun s hs =>
        ⟨hs, reused, written.1, template_ok htemplate, rfl⟩

/-- What the call of the verifier leaves. -/
def Verifies (runner : DeterministicWorkflowRunner) (task : TaskContractFields)
    (trials : List WorkflowTrial) : Except Failure HardGateResult → WorkflowSession → Prop
  | .ok _, s => s.trials = trials ∧ ∃ earlier files, s.session.actions = earlier ++ [.verify files]
  | .error failure, _ => runner.Raises task failure

/-- The verifier is called last. -/
theorem verifyFiles_spec : Spec (fun s => s.trials = trials) runner.verifyFiles
    (fun s => s.trials = trials) (Verifies runner task trials) := by
  refine Spec.read_keep fun session _ => ?_
  refine Spec.write_bind (fun s => s.trials = trials ∧
    ∃ earlier files, s.session.actions = earlier ++ [.verify files]) (fun s hs => hs)
    (fun s hs => ⟨hs, _, _, rfl⟩) ?_
  refine Spec.lift (fun s hs => hs.1) fun s hs => ?_
  cases hanswer : (runner.verify session).1 with
  | ok verification => exact hs
  | error failure => exact .verify hanswer

/-- How a template run ends. -/
def Ends (runner : DeterministicWorkflowRunner) (task : TaskContractFields)
    (trials : List WorkflowTrial) : Except Failure SingleTaskRunRecord → WorkflowSession → Prop
  | .ok record, s => (∃ n, n ≤ runner.maxAttempts ∧ s.trials = trials ++ templates n) ∧
      Returned record s.session ∧ ∀ execution ∈ record.execution, execution.attempts ≤ 3
  | .error failure, _ => runner.Raises task failure

/-- The trials of a template run at any moment. -/
def Trying (runner : DeterministicWorkflowRunner) (trials : List WorkflowTrial)
    (s : WorkflowSession) : Prop :=
  ∃ n, n ≤ runner.maxAttempts ∧ s.trials = trials ++ templates n

/-- A step of the run is recorded, unless its detail is too long or empty. -/
theorem addStep_bind {P C : WorkflowSession → Prop} {name detail : String}
    {status : WorkflowStepStatus} {f : WorkflowProgress → WorkflowProgram SingleTaskRunRecord}
    (hC : ∀ s, P s → C s) (hname : 1 ≤ name.length ∧ name.length ≤ 64)
    (hattempt : 1 ≤ attempt ∧ attempt ≤ 3)
    (hraise : detail.length < 1 ∨ 512 < detail.length →
      runner.Raises task ⟨.valueError, "workflow step detail length is out of range"⟩)
    (hf : Spec P (f { progress with steps := progress.steps ++ [⟨name, status, detail, attempt⟩] })
      C (Ends runner task trials)) :
    Spec P (Durable.lift (progress.addStep ⟨name, status, detail, attempt⟩) >>= f) C
      (Ends runner task trials) := by
  rcases @addStep_cases progress _ detail status _ hname hattempt
    with hok | ⟨hdetail, herror⟩
  · exact Spec.lift_bind_of_ok hok hf
  · refine Spec.lift_bind hC (fun a ha => ?_) fun failure hfailure _ _ => ?_
    · rw [herror] at ha
      cases ha
    · rw [herror] at hfailure
      obtain rfl := Except.error.inj hfailure
      exact hraise hdetail

/-- The machine makes a transition that it has. -/
theorem lift_transition_bind {P C : WorkflowSession → Prop} (next : TaskRunState)
    {f : WorkflowProgress → WorkflowProgram SingleTaskRunRecord}
    (h : LegalEvents progress.events state) (hnext : next ∈ allowedTransitions state)
    (hf : Spec P (f { progress with events := progress.events ++ [next] }) C
      (Ends runner task trials)) :
    Spec P (Durable.lift (progress.transition next) >>= f) C (Ends runner task trials) :=
  Spec.lift_bind_of_ok (WorkflowProgress.transition_eq h hnext) hf

/-- The end of a template run. -/
theorem lift_result_spec {P : WorkflowSession → Prop} {attempts saved : ℕ}
    {failures : List FailureReport} (h : LegalEvents progress.events state)
    (hattempts : attempts ≤ 3)
    (hstate : state = .succeeded ∧ failures = [] ∨ state = .failed ∧ failures ≠ [])
    (hP : ∀ s, P s → Trying runner trials s) (hverified : state = .succeeded → ∀ s, P s →
      (∃ verification, progress.verifications.getLast? = some verification ∧
        verification.passed) ∧
      ∃ earlier files, s.session.actions = earlier ++ [.verify files]) :
    Spec P (Durable.lift (result task progress workflowId attempts failures saved))
      (Trying runner trials) (Ends runner task trials) := by
  obtain ⟨record, hresult, hlegal, hstatus, hverifications, hexecution⟩ :=
    @result_eq task workflowId _ _ _ saved _ h hattempts hstate
  rw [hresult]
  refine Spec.lift hP fun s hs => ⟨hP s hs, ⟨hlegal, fun hsucceeded => ?_⟩, hexecution⟩
  obtain ⟨⟨verification, hlast, hpassed⟩, earlier, files, hactions⟩ :=
    hverified (hstatus.symm.trans hsucceeded) s hs
  exact ⟨⟨verification, hverifications ▸ hlast, hpassed⟩, earlier, files, .inl hactions⟩

/-- Where the loop stands before an attempt, and after the last one. -/
def Before (progress : WorkflowProgress) (left : ℕ) : Prop :=
  if left = 0 then LegalEvents progress.events .verifying
  else LegalEvents progress.events .running ∨ LegalEvents progress.events .repairing

theorem exhaustedFailures_ne_nil (verification : HardGateResult) :
    exhaustedFailures verification ≠ [] := by
  unfold exhaustedFailures
  split_ifs with h
  · exact List.cons_ne_nil _ _
  · exact h

/-- **A template run tries its template a bounded number of times**, by induction on
the attempts that are left. -/
theorem attemptLoop_spec : ∀ (left : ℕ) (progress : WorkflowProgress), left ≤ runner.maxAttempts →
    Before progress left →
    Spec (fun s => s.trials = trials ++ templates (runner.maxAttempts - left))
      (runner.attemptLoop task workflowId left progress) (Trying runner trials)
      (Ends runner task trials) := by
  intro left
  have hmax := runner.maxAttempts_le
  induction left with
  | zero =>
    intro progress hle hbefore
    have hverifying : LegalEvents progress.events .verifying := hbefore
    refine lift_transition_bind _ hverifying (by decide) ?_
    exact lift_result_spec (hverifying.next (by decide)) hmax
      (.inr ⟨rfl, exhaustedFailures_ne_nil _⟩) (fun s hs => ⟨_, le_rfl, hs⟩) (by simp)
  | succ left ih =>
    intro progress hle hbefore
    obtain ⟨k, hk⟩ : ∃ k, runner.maxAttempts = left + (k + 1) :=
      ⟨runner.maxAttempts - (left + 1), by omega⟩
    have hattempt : runner.maxAttempts - left = k + 1 := by omega
    have hstart : runner.maxAttempts - (left + 1) = k := by omega
    have htrying : ∀ s : WorkflowSession, s.trials = trials ++ templates (k + 1) →
        Trying runner trials s := fun s hs => ⟨k + 1, by omega, hs⟩
    have hbounds : 1 ≤ k + 1 ∧ k + 1 ≤ 3 := by omega
    obtain ⟨state, hnow, hfailed, hverifying⟩ : ∃ state, LegalEvents progress.events state ∧
        .failed ∈ allowedTransitions state ∧ .verifying ∈ allowedTransitions state := by
      rcases hbefore with hrunning | hrepairing
      · exact ⟨.running, hrunning, by decide, by decide⟩
      · exact ⟨.repairing, hrepairing, by decide, by decide⟩
    rw [hstart, attemptLoop]
    simp only [hattempt]
    refine Spec.bind ((@writeTemplate_spec _ _ _ (trials ++ templates k) _).mono ?_)
      (fun answer => Spec.given fun hanswer => ?_) fun failure s hs => hs.2
    · rintro s (hs | hs)
      · exact ⟨k, by omega, hs⟩
      · exact htrying s (by rw [hs, List.append_assoc, ← templates_succ])
    rw [List.append_assoc, ← templates_succ]
    cases answer with
    | error message =>
      refine addStep_bind htrying (by decide) hbounds (fun hlength => ?_) ?_
      · rcases hanswer with ⟨hone, hmost⟩ | ⟨session, path, source, hrefused⟩
        · omega
        · exact .refusal hrefused hlength
      refine lift_transition_bind _ hnow hfailed ?_
      exact lift_result_spec (hnow.next hfailed) hbounds.2 (.inr ⟨rfl, List.cons_ne_nil _ _⟩)
        htrying (by simp)
    | ok detail =>
      obtain ⟨reused, path, hpath, rfl⟩ := hanswer
      refine addStep_bind htrying (by decide) hbounds (fun hlength => ?_) ?_
      · refine .detail reused hpath (hlength.resolve_left ?_)
        simp [templateDetail, String.length_append]
      refine lift_transition_bind _ hnow hverifying ?_
      refine Spec.bind (verifyFiles_spec.mono htrying) (fun verification => ?_)
        fun failure s hs => hs
      have hverified := hnow.next hverifying
      have hnext : ∀ progress, Before progress left → Spec (fun s => s.trials =
          trials ++ templates (k + 1) ∧ ∃ earlier files, s.session.actions =
            earlier ++ [.verify files]) (runner.attemptLoop task workflowId left progress)
          (Trying runner trials) (Ends runner task trials) := by
        intro progress hbefore
        refine (ih progress (by omega) hbefore).weaken (fun s hs => ?_) fun r s h => h
        rw [hattempt]
        exact hs.1
      split_ifs with hpassed hmore
      · refine addStep_bind (fun s hs => htrying s hs.1) (by decide) hbounds
          (fun hlength => absurd hlength (by decide)) ?_
        refine lift_transition_bind .reviewing hverified (by decide) ?_
        refine lift_transition_bind .succeeded (hverified.next (by decide)) (by decide) ?_
        refine lift_result_spec ((hverified.next (by decide)).next (by decide)) hbounds.2
          (.inl ⟨rfl, rfl⟩) (fun s hs => htrying s hs.1) fun _ s hs => ⟨?_, hs.2⟩
        exact ⟨verification, by simp, hpassed⟩
      · refine addStep_bind (fun s hs => htrying s hs.1) (by decide) hbounds
          (fun hlength => absurd hlength (by decide)) ?_
        refine lift_transition_bind .repairing hverified (by decide) (hnext _ ?_)
        rw [Before, if_neg (by omega)]
        exact .inr (hverified.next (by decide))
      · refine addStep_bind (fun s hs => htrying s hs.1) (by decide) hbounds
          (fun hlength => absurd hlength (by decide)) (hnext _ ?_)
        rw [Before, if_pos (by omega)]
        exact hverified

/-- The result of a route that the runner does not have. -/
theorem unsupportedResult_eq (found : WorkflowMatch) :
    ∃ record, unsupportedResult task found = .ok record ∧ record.Legal ∧
      record.result.status = .failed ∧ ∀ execution ∈ record.execution, execution.attempts ≤ 3 := by
  have hlegal := @LegalEvents.next _ _ .failed legalEvents_start (by decide)
  obtain ⟨record, hcreate, hrecord, hstatus, -, hexecution⟩ := @create_eq
    task.taskId _ _ [] _ ⟨task.taskId, .hybrid, found.workflowId, 0, [],
      some (found.fallbackReason.getD "Workflow executor does not support route."), 0⟩ hlegal
    (.inr ⟨rfl, List.cons_ne_nil
      ⟨.toolFailure, "Workflow route is not executable; Agent fallback is required.", false⟩ []⟩)
  have hreason : ¬(some (found.fallbackReason.getD
      "Workflow executor does not support route.")).any fun reason => 512 < reason.length := by
    cases hfound : found.fallbackReason with
    | none => decide
    | some reason => simpa using (found.reason_length reason hfound).2
  refine ⟨record, ?_, hrecord, hstatus, ?_⟩
  · rw [unsupportedResult, WorkflowProgress.transition_eq legalEvents_start (by decide)]
    simp only [WorkflowExecutionRecord.validate]
    rw [Raising.raiseIf_of_not hreason]
    exact hcreate
  · rw [hexecution]
    rintro _ ⟨⟩
    exact Nat.zero_le _

/-- **A template run is bounded and sound.** -/
theorem run_spec : Spec (fun s => s.trials = trials) (runner.run task) (Trying runner trials)
    (Ends runner task trials) := by
  have hnone : ∀ s : WorkflowSession, s.trials = trials → Trying runner trials s :=
    fun s hs => ⟨0, Nat.zero_le _, by simpa [templates] using hs⟩
  refine Spec.read_keep fun session _ => ?_
  have hunsupported : Spec (fun s => s.trials = trials)
      (Durable.lift (unsupportedResult task (runner.matchTask session))) (Trying runner trials)
      (Ends runner task trials) := by
    obtain ⟨record, hresult, hlegal, hstatus, hexecution⟩ :=
      @unsupportedResult_eq task (runner.matchTask session)
    rw [hresult]
    refine Spec.lift hnone fun s hs => ⟨hnone s hs, ⟨hlegal, fun hsucceeded => ?_⟩, hexecution⟩
    rw [hstatus] at hsucceeded
    cases hsucceeded
  dsimp only
  split
  · split_ifs
    · refine lift_transition_bind _ legalEvents_start (by decide) ?_
      refine (attemptLoop_spec runner.maxAttempts _ le_rfl ?_).weaken (fun s hs => ?_)
        fun r s h => h
      · rw [Before, if_neg (Nat.ne_of_gt runner.one_le_maxAttempts)]
        exact .inl (legalEvents_start.next (by decide))
      · simpa [templates] using hs
    · exact hunsupported
  · exact hunsupported

end specs

end DeterministicWorkflowRunner

end DevFlow
