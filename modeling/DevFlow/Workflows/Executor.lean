/-
# Deterministic workflows and the runner above them

`workflows/executor.py`: `DeterministicWorkflowRunner` writes the one program that a
task of its kind asks for and verifies it, a bounded number of times;
`WorkflowAwareTaskRunner` chooses between it and an agent runner, and when the
program does not pass goes from one to the other and back once.

The matcher, the file system, the verifier and the agent runner answer as they
like: each is asked with all that has happened.  The session keeps what was tried,
in order.
-/

import DevFlow.Library.Documents
import DevFlow.Models.TaskRecords
import DevFlow.Models.WorkflowRecords
import DevFlow.Planning.Compilation
import DevFlow.Workers.Backend

namespace DevFlow

open Durable (Prog)

/-- A template that was tried, by its number in one run, or the agent runner. -/
inductive WorkflowTrial
  | template (attempt : ℕ)
  | agent
deriving DecidableEq, Repr

/-- The worktree with its calls, and what was tried. -/
structure WorkflowSession where
  session : TaskSession
  trials : List WorkflowTrial
deriving DecidableEq

/-- A program over the session. -/
abbrev WorkflowProgram (α : Type) := Prog WorkflowSession Failure α

/-- What the file system answers to `_write_template`: whether the file was there as
it is written, an `OSError` or `ValueError` by its text, or another exception. -/
inductive FileReply
  | written (reused : Bool)
  | refused (message : String)
  | raises (failure : Failure)
deriving DecidableEq, Repr

/-! ### The template -/

/-- `extensions`, of the two script workflows. -/
def WorkflowId.extension : WorkflowId → String
  | .pythonScript => ".py"
  | .nodeScript => ".js"
  | _ => ""

/-- A word of `_HELLO_OUTPUT` at the beginning of the text. -/
def spells (word text : List Char) : Bool :=
  (text.take word.length).length = word.length &&
    (word.zip text).all fun pair => ignoresCase pair.1 pair.2

/-- `[\s,，]`. -/
def isHelloGap (c : Char) : Bool :=
  isSpace c || c = ',' || c = '，'

/-- `_HELLO_OUTPUT` at the beginning of `rest`, after `before`: what it matches. -/
def helloAt (text : PythonText) (before : Option Char) (rest : List Char) : Option (List Char) :=
  let gap := (rest.drop 5).takeWhile isHelloGap
  let world := (rest.drop 5).dropWhile isHelloGap
  if isBoundary text before rest.head? && spells ['h', 'e', 'l', 'l', 'o'] rest && gap ≠ [] &&
      spells ['w', 'o', 'r', 'l', 'd'] world then
    some (rest.take 5 ++ gap ++ world.take 5 ++ ((world.drop 5).take 1).filter (· = '!'))
  else none

/-- `_HELLO_OUTPUT.search`, in what is left of the text after `before`. -/
def searchHello (text : PythonText) : Option Char → List Char → Option (List Char)
  | before, rest =>
    match helloAt text before rest, rest with
    | some found, _ => some found
    | none, [] => none
    | none, c :: rest => searchHello text (some c) rest

/-- `_expected_output`. -/
def expectedOutput (text : PythonText) (task : TaskContractFields) : Option String :=
  (searchHello text none
    ("\n".intercalate (task.acceptanceCriteria ++ [task.objective])).toList).map String.ofList

/-- The program that prints the output. -/
def templateSource (text : PythonText) (workflowId : WorkflowId) (output : String) : String :=
  if workflowId = .pythonScript then "print(" ++ text.repr output ++ ")\n"
  else "console.log(" ++ String.ofList (Documents.dumpsString output) ++ ");\n"

/-- `_write_template` up to its file operations: the path and the program. -/
def template (text : PythonText) (task : TaskContractFields) (workflowId : WorkflowId) :
    Except String (String × String) :=
  match task.writableFiles.filter fun path =>
      workflowId.extension.toList.isSuffixOf path.toList with
  | [path] =>
    match expectedOutput text task with
    | none => .error "Workflow cannot derive the required program output from this task."
    | some output => .ok (path, templateSource text workflowId output)
  | _ => .error "Workflow requires exactly one writable source file for its template."

/-- What `_write_template` returns. -/
def templateDetail (reused : Bool) (path : String) : String :=
  "Workflow " ++ (if reused then "reused" else "created") ++ " " ++ path ++
    " with a deterministic Hello World template."

/-! ### `DeterministicWorkflowRunner` -/

/-- `DeterministicWorkflowRunner`, with the file operations of `_write_template`. -/
structure DeterministicWorkflowRunner where
  text : PythonText
  matchTask : WorkflowSession → WorkflowMatch
  writeFile : WorkflowSession → (path source : String) → FileReply × Tree
  verify : WorkflowSession → Except Failure HardGateResult × Tree
  maxAttempts : ℕ
  estimatedTokensSaved : ℕ
  one_le_maxAttempts : 1 ≤ maxAttempts
  maxAttempts_le : maxAttempts ≤ 3

/-- What one run has recorded. -/
structure WorkflowProgress where
  events : List TaskRunState
  steps : List WorkflowStepResult
  verifications : List HardGateResult

/-- `machine.state`. -/
def WorkflowProgress.state (progress : WorkflowProgress) : TaskRunState :=
  progress.events.getLastD .pending

namespace WorkflowProgress

/-- `machine.transition`. -/
def transition (progress : WorkflowProgress) (next : TaskRunState) :
    Except Failure WorkflowProgress := do
  Raising.raiseIf (next ∉ allowedTransitions progress.state)
    ⟨.valueError, "invalid task-state transition: " ++ progress.state.value ++ " -> " ++
      next.value⟩
  return { progress with events := progress.events ++ [next] }

/-- `steps.append`. -/
def addStep (progress : WorkflowProgress) (step : WorkflowStepResult) :
    Except Failure WorkflowProgress := do
  let step ← step.validate
  return { progress with steps := progress.steps ++ [step] }

end WorkflowProgress

namespace DeterministicWorkflowRunner

/-- `_template_failure`. -/
def templateFailure : FailureReport :=
  ⟨.toolFailure, "Workflow 无法从任务契约安全生成确定性代码。", false⟩

/-- `_result`. -/
def result (task : TaskContractFields) (progress : WorkflowProgress) (workflowId : WorkflowId)
    (attempts : ℕ) (failures : List FailureReport) (estimatedTokensSaved : ℕ) :
    Except Failure SingleTaskRunRecord := do
  let execution ← WorkflowExecutionRecord.validate {
    taskId := task.taskId
    mode := .workflow
    workflowId := some workflowId
    attempts
    steps := progress.steps
    estimatedTokensSaved }
  SingleTaskRunRecord.create task.taskId progress.state progress.events progress.verifications
    failures execution

/-- `_unsupported_result`. -/
def unsupportedResult (task : TaskContractFields) (found : WorkflowMatch) :
    Except Failure SingleTaskRunRecord := do
  let progress ← WorkflowProgress.transition ⟨[.pending], [], []⟩ .failed
  let execution ← WorkflowExecutionRecord.validate {
    taskId := task.taskId
    mode := .hybrid
    workflowId := found.workflowId
    fallbackReason := some (found.fallbackReason.getD "Workflow executor does not support route.") }
  SingleTaskRunRecord.create task.taskId .failed progress.events []
    [⟨.toolFailure, "Workflow route is not executable; Agent fallback is required.", false⟩]
    execution

/-- The failures of a run whose last verification did not pass. -/
def exhaustedFailures (verification : HardGateResult) : List FailureReport :=
  if verification.failureReports = [] then
    [⟨.toolFailure, "Workflow deterministic verification failed without diagnostic evidence.",
      false⟩]
  else verification.failureReports

/-- `_write_template`: what it returns, or the text of its `OSError` or
`ValueError`. -/
def writeTemplate (runner : DeterministicWorkflowRunner) (task : TaskContractFields)
    (workflowId : WorkflowId) (attempt : ℕ) : WorkflowProgram (Except String String) := do
  Durable.write fun session => { session with trials := session.trials ++ [.template attempt] }
  match template runner.text task workflowId with
  | .error message => return .error message
  | .ok (path, source) =>
    let session ← Durable.read
    let answer := runner.writeFile session path source
    Durable.write fun session =>
      { session with session.workspace.files := answer.2 }
    match answer.1 with
    | .raises failure => Durable.lift (.error failure)
    | .refused message => return .error message
    | .written reused => return .ok (templateDetail reused path)

/-- `self._verifier.verify`. -/
def verifyFiles (runner : DeterministicWorkflowRunner) : WorkflowProgram HardGateResult := do
  let session ← Durable.read
  let answer := runner.verify session
  Durable.write fun session =>
    { session with
      session.actions := session.session.actions ++ [.verify session.session.workspace.files]
      session.workspace.files := answer.2 }
  Durable.lift answer.1

/-- The attempts of `run` that are left. -/
def attemptLoop (runner : DeterministicWorkflowRunner) (task : TaskContractFields)
    (workflowId : WorkflowId) : ℕ → WorkflowProgress → WorkflowProgram SingleTaskRunRecord
  | 0, progress => do
    let progress ← Durable.lift (progress.transition .failed)
    -- there is a last verification, since there is an attempt
    Durable.lift (result task progress workflowId runner.maxAttempts
      (exhaustedFailures (progress.verifications.getLastD ⟨[]⟩)) 0)
  | left + 1, progress => do
    let attempt := runner.maxAttempts - left
    match ← runner.writeTemplate task workflowId attempt with
    | .error message =>
      let progress ← Durable.lift (progress.addStep ⟨"create_files", .failed, message, attempt⟩)
      let progress ← Durable.lift (progress.transition .failed)
      Durable.lift (result task progress workflowId attempt [templateFailure] 0)
    | .ok detail =>
      let progress ← Durable.lift (progress.addStep ⟨"create_files", .succeeded, detail, attempt⟩)
      let progress ← Durable.lift (progress.transition .verifying)
      let verification ← runner.verifyFiles
      let progress :=
        { progress with verifications := progress.verifications ++ [verification] }
      if verification.passed then
        let progress ← Durable.lift (progress.addStep
          ⟨"verification", .succeeded, "All task verification commands passed.", attempt⟩)
        let progress ← Durable.lift (progress.transition .reviewing)
        let progress ← Durable.lift (progress.transition .succeeded)
        Durable.lift (result task progress workflowId attempt [] runner.estimatedTokensSaved)
      else
        let progress ← Durable.lift (progress.addStep ⟨"verification", .failed,
          "Verification failed; Workflow will retry its deterministic template.", attempt⟩)
        if attempt < runner.maxAttempts then
          let progress ← Durable.lift (progress.transition .repairing)
          runner.attemptLoop task workflowId left progress
        else runner.attemptLoop task workflowId left progress

/-- `run`. -/
def run (runner : DeterministicWorkflowRunner) (task : TaskContractFields) :
    WorkflowProgram SingleTaskRunRecord := do
  let session ← Durable.read
  let found := runner.matchTask session
  match found.route, found.executionMode, found.workflowId with
  | .workflowCandidate, .workflow, some workflowId =>
    if workflowId = .pythonScript ∨ workflowId = .nodeScript then
      let progress ← Durable.lift (WorkflowProgress.transition ⟨[.pending], [], []⟩ .running)
      runner.attemptLoop task workflowId runner.maxAttempts progress
    else Durable.lift (unsupportedResult task found)
  | _, _, _ => Durable.lift (unsupportedResult task found)

end DeterministicWorkflowRunner

/-! ### `WorkflowAwareTaskRunner` -/

/-- `WorkflowAwareTaskRunner`; `agentRun` is the run of the agent runner of the
factory. -/
structure WorkflowAwareTaskRunner where
  matchTask : WorkflowSession → WorkflowMatch
  workflowRunner : DeterministicWorkflowRunner
  agentRun : Runtime TaskRunResult
  activationMode : WorkflowActivationMode

namespace WorkflowAwareTaskRunner

/-- `escalation_reason`. -/
def escalationReason : String :=
  "Workflow deterministic retries exhausted a code verification failure; " ++
    "escalated once to the Developer Agent."

/-- `recovery_reason`. -/
def recoveryReason : String :=
  escalationReason ++ " Developer Agent failed; the deterministic Workflow " ++
    "was retried once as the final recovery path."

/-- `_requires_agent_escalation`. -/
def requiresAgentEscalation (record : SingleTaskRunRecord) : Bool :=
  WorkflowStack.requiresAgentEscalation record.result

/-- `_run_agent`. -/
def runAgent (runner : WorkflowAwareTaskRunner) : WorkflowProgram SingleTaskRunRecord := do
  Durable.write fun session => { session with trials := session.trials ++ [.agent] }
  let result ← Durable.zoom WorkflowSession.session
    (fun session task => { session with session := task }) runner.agentRun
  return SingleTaskRunRecord.ofResult result

/-- `_agent_result`. -/
def agentResult (runner : WorkflowAwareTaskRunner) (task : TaskContractFields)
    (found : WorkflowMatch) (mode : WorkflowExecutionMode) (fallbackReason : Option String) :
    WorkflowProgram SingleTaskRunRecord := do
  let record ← runner.runAgent
  let execution ← Durable.lift (WorkflowExecutionRecord.validate {
    taskId := task.taskId
    mode
    workflowId := if mode = .agent then none else found.workflowId
    fallbackReason })
  return record.withExecution execution

/-- `_workflow_only_result`. -/
def workflowOnlyResult (task : TaskContractFields) (found : WorkflowMatch) :
    Except Failure SingleTaskRunRecord := do
  let progress ← WorkflowProgress.transition ⟨[.pending], [], []⟩ .failed
  let execution ← WorkflowExecutionRecord.validate {
    taskId := task.taskId
    mode := .hybrid
    workflowId := found.workflowId
    fallbackReason := found.fallbackReason }
  SingleTaskRunRecord.create task.taskId .failed progress.events []
    [⟨.toolFailure, "当前策略仅允许 Workflow，但该任务没有可安全执行的工作流。", false⟩] execution

/-- The record of a run that used both runners: the attempts and the steps of the
last template run. -/
def hybridExecution (task : TaskContractFields) (found : WorkflowMatch)
    (prior : SingleTaskRunRecord) (reason : String) : Except Failure WorkflowExecutionRecord :=
  WorkflowExecutionRecord.validate {
    taskId := task.taskId
    mode := .hybrid
    workflowId := found.workflowId
    attempts := (prior.execution.map WorkflowExecutionRecord.attempts).getD 0
    steps := (prior.execution.map WorkflowExecutionRecord.steps).getD []
    fallbackReason := some reason }

/-- The WORKFLOW route of `run`. -/
def runWorkflow (runner : WorkflowAwareTaskRunner) (task : TaskContractFields)
    (found : WorkflowMatch) : WorkflowProgram SingleTaskRunRecord := do
  let workflow ← runner.workflowRunner.run task
  if workflow.result.status = .succeeded ∨ runner.activationMode = .workflowOnly ∨
      requiresAgentEscalation workflow = false then
    return workflow
  else
    let agent ← runner.runAgent
    if agent.result.status = .succeeded then
      let execution ← Durable.lift (hybridExecution task found workflow escalationReason)
      return agent.withExecution execution
    else
      let recovery ← runner.workflowRunner.run task
      let execution ← Durable.lift (hybridExecution task found recovery recoveryReason)
      if recovery.result.status = .succeeded then
        return { recovery.withExecution execution with
          result.developer := agent.result.developer
          result.repairs := agent.result.repairs
          repairAttempts := agent.repairAttempts }
      else return agent.withExecution execution

/-- `run`. -/
def run (runner : WorkflowAwareTaskRunner) (task : TaskContractFields) :
    WorkflowProgram SingleTaskRunRecord := do
  let session ← Durable.read
  let found := runner.matchTask session
  if runner.activationMode = .agentOnly then
    runner.agentResult task found .agent (some "当前运行策略为 agent_only，已跳过确定性 Workflow。")
  else if runner.activationMode = .workflowOnly ∧ found.executionMode ≠ .workflow then
    Durable.lift (workflowOnlyResult task found)
  else if found.executionMode = .workflow then runner.runWorkflow task found
  else runner.agentResult task found found.executionMode found.fallbackReason

end WorkflowAwareTaskRunner

end DevFlow
