/-
# The deterministic verifier

`DeterministicVerifier.verify` of `verification/verifier.py`.  What the command runner
answers, and which files are changed, is up to the runs before: both are functions of the
commands that were run, in order, so that a runner may behave as it likes.  Beside its
result `verify` returns the runs it made.
-/

import DevFlow.Verification.Commands
import DevFlow.Workspace.Scope
import DevFlow.Tools.Toolbox

namespace DevFlow

/-- `VerificationExecution`. -/
structure VerificationExecution where
  exitCode : Option ℤ
  stdout : String
  stderr : String
  durationMs : ℤ
  backend : VerificationBackend
  details : List String := []
  failureType : Option FailureType := none
deriving DecidableEq, Repr

/-- A command that was run, and how. -/
structure CommandRun where
  command : String
  spec : CommandSpec
  execution : VerificationExecution
deriving DecidableEq, Repr

/-- The command runner and the worktree, as they answer after some runs. -/
structure VerificationWorld where
  isSandboxed : Bool
  run : List CommandRun → List String → Except Failure VerificationExecution
  changedFiles : List CommandRun → List String

/-- `_PreparedCommand`. -/
structure PreparedCommand where
  command : String
  spec : CommandSpec
  stage : VerificationStage
deriving DecidableEq, Repr

/-- What is known in the loop of `verify`. -/
structure VerifyState where
  checks : List CheckResultFields
  runs : List CommandRun := []

namespace Verifier

/-- `_MAX_OUTPUT_CHARS`. -/
def maxOutputChars : ℕ := 20000

/-- `_clip_output`. -/
def clipOutput (value : String) : String :=
  if value.length ≤ maxOutputChars then value
  else String.ofList (value.toList.take maxOutputChars) ++ "\n...[truncated by DevFlow]"

/-- `str.rstrip("\r\n")`. -/
def rstripBreaks (text : String) : String :=
  String.ofList (text.toList.rdropWhile fun c => c = '\r' ∨ c = '\n')

/-- `_scope_error`. -/
def scopeError (result : ScopeCheckResult) : String :=
  "; ".intercalate (result.violations.map fun violation =>
    violation.kind.value ++ ":" ++ violation.path ++
      (violation.matchedPattern.elim "" fun pattern => ":matched=" ++ pattern))

/-- `_scope_check`. -/
def scopeCheckResult (name : String) (result : ScopeCheckResult) : CheckResultFields where
  checkType := .scope
  name := name
  passed := result.passed
  failureType := if result.passed then none else some .scopeViolation
  stderr := scopeError result

/-- The check of too many commands. -/
def commandBudgetCheck (requested maxCommands : ℕ) : CheckResultFields where
  checkType := .custom
  name := "verification_command_budget"
  passed := false
  stderr := "Task requested more verification commands than the runtime budget: " ++
    toString requested ++ " > " ++ toString maxCommands ++ "."
  failureType := some .toolFailure

/-- The check of a command that was not classified. -/
def unsupportedCheck (command : String) (failure : Failure) : CheckResultFields where
  checkType := .custom
  name := "unsupported_verification_command"
  command := some command
  passed := false
  stderr := failure.message
  failureType := some .toolFailure

/-- The check of a command that needs a sandbox. -/
def sandboxRequiredCheck (command : String) : CheckResultFields where
  checkType := .custom
  name := "sandbox_required"
  command := some command
  passed := false
  stderr := "Project-specific verification commands require the Docker sandbox; host execution " ++
    "is refused."
  failureType := some .toolFailure

/-- `passed` in `_run_command`: the runner reports no failure, the command ends with zero,
and prints what it is to print. -/
def runPassed (spec : CommandSpec) (execution : VerificationExecution) : Bool :=
  (execution.failureType = none ∧ execution.exitCode = some 0) ∧
    ∀ expected ∈ spec.expectedStdout, rstripBreaks execution.stdout = expected

/-- `_is_sandbox_enforcement_failure`.  Of `str.lower` only the ASCII letters matter: what
else becomes one (`İ` with a dot above it, and the Kelvin sign) is not in the text. -/
def isSandboxEnforcementFailure (stderr : String) : Bool :=
  "read-only file system".toList <:+: stderr.toList.map Char.toLower

/-- `failure_type` in `_run_command`. -/
def runFailureType (spec : CommandSpec) (execution : VerificationExecution) : Option FailureType :=
  let failureType :=
    if runPassed spec execution then none
    else some (execution.failureType.getD spec.failureType)
  if failureType = some .testFailure ∧ spec.checkType = .custom ∧
      isSandboxEnforcementFailure execution.stderr = true then some .toolFailure
  else failureType

/-- `stderr` in `_run_command`; `repr` is the built-in. -/
def runStderr (repr : String → String) (spec : CommandSpec) (execution : VerificationExecution) :
    String :=
  match spec.expectedStdout with
  | none => execution.stderr
  | some expected =>
    if execution.failureType = none ∧ execution.exitCode = some 0 ∧
        rstripBreaks execution.stdout ≠ expected then
      "Program stdout did not match the expected value. expected=" ++ repr expected ++
        "; actual=" ++ repr (rstripBreaks execution.stdout)
    else execution.stderr

end Verifier

/-- `DeterministicVerifier`, with the built-in `repr` of texts. -/
structure DeterministicVerifier where
  maxCommands : ℕ := 8
  repr : String → String
  maxCommands_bounds : 1 ≤ maxCommands ∧ maxCommands ≤ 32 := by decide

namespace DeterministicVerifier

open Verifier

/-- What `_run_command` makes of an execution. -/
def runCheck (verifier : DeterministicVerifier) (command : String) (spec : CommandSpec)
    (execution : VerificationExecution) : CheckResultFields where
  checkType := spec.checkType
  name := spec.name
  command := some command
  passed := runPassed spec execution
  exitCode := execution.exitCode
  stdout := clipOutput execution.stdout
  stderr := clipOutput (runStderr verifier.repr spec execution)
  durationMs := execution.durationMs
  failureType := runFailureType spec execution
  executionBackend := some execution.backend
  executionDetails := execution.details

/-- The loop over the prepared commands. -/
def runPrepared (verifier : DeterministicVerifier) (world : VerificationWorld) :
    List PreparedCommand → VerifyState → Except Failure VerifyState
  | [], state => return state
  | item :: rest, state =>
    if item.spec.requiresSandbox = true ∧ world.isSandboxed = false then
      runPrepared verifier world rest
        { state with checks := state.checks ++ [sandboxRequiredCheck item.command] }
    else do
      let execution ← world.run state.runs item.spec.argv
      let commandCheck ← (verifier.runCheck item.command item.spec execution).validate
      -- a copy, so it is not validated again
      let check := { commandCheck with
        executionDetails := commandCheck.executionDetails ++
          ["verification_stage=" ++ item.stage.value] }
      let state : VerifyState :=
        { checks := state.checks ++ [check]
          runs := state.runs ++ [⟨item.command, item.spec, execution⟩] }
      if item.stage = .fast ∧ check.passed = false then return state
      else runPrepared verifier world rest state

/-- The loop that classifies the commands: the checks of those that are refused, and the
others. -/
def prepare : List String → List CheckResultFields × List PreparedCommand
  | [] => ([], [])
  | command :: rest =>
    let (checks, prepared) := prepare rest
    match classifyCommand command with
    | .error failure => (unsupportedCheck command failure :: checks, prepared)
    | .ok spec => (checks, ⟨command, spec, spec.verificationStage⟩ :: prepared)

/-- `sorted(prepared, key=lambda value: value.stage != "fast")`: the sort is stable. -/
def sortedByStage (prepared : List PreparedCommand) : List PreparedCommand :=
  prepared.filter (·.stage = .fast) ++ prepared.filter (·.stage ≠ .fast)

/-- `verify`. -/
def verify (verifier : DeterministicVerifier) (world : VerificationWorld)
    (task : TaskContractRecord) :
    Except Failure (VerificationResultFields × List CommandRun) := do
  let commands := task.val.verificationCommands
  let scopeResult ← scopeCheck task.val.toTaskContract (world.changedFiles [])
  let checks := [scopeCheckResult "git_scope" scopeResult]
  if scopeResult.passed = false then
    let result ← (⟨false, checks⟩ : VerificationResultFields).validate
    return (result, [])
  else if verifier.maxCommands < commands.length then
    let result ← (⟨false, checks ++ [commandBudgetCheck commands.length verifier.maxCommands]⟩ :
      VerificationResultFields).validate
    return (result, [])
  else
    let (refused, prepared) := prepare commands
    let state ← runPrepared verifier world (sortedByStage prepared) { checks := checks ++ refused }
    let postScope ← scopeCheck task.val.toTaskContract (world.changedFiles state.runs)
    let checks :=
      if postScope.passed = false then
        state.checks ++ [scopeCheckResult "git_scope_post_verification" postScope]
      else state.checks
    let result ← (⟨checks.all CheckResultFields.passed, checks⟩ :
      VerificationResultFields).validate
    return (result, state.runs)

end DeterministicVerifier

end DevFlow
