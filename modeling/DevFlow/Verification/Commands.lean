/-
# The commands that a verification may run

`_classify_command` and `_verification_stage` of `verification/verifier.py`.  A command is
an assertion about what a Python program prints, or words as a shell splits them: pytest
and Ruff have checks of their own, anything else is a custom check.  A command is refused
when its words are malformed or when an argument may leave the workspace.
-/

import DevFlow.Library.ShellWords
import DevFlow.Models.VerificationRecords

namespace DevFlow

/-- `_CommandSpec`. -/
structure CommandSpec where
  argv : List String
  checkType : CheckType
  failureType : FailureType
  name : String
  requiresSandbox : Bool := false
  expectedStdout : Option String := none
deriving DecidableEq, Repr

/-- `str.startswith`. -/
def startsWith (text lead : String) : Bool :=
  lead.toList.isPrefixOf text.toList

/-- `candidates` for an argument: itself, and what an option assigns. -/
def candidates (argument : String) : List (List Char) :=
  let text := argument.toList
  if '=' ∈ text then [text, (text.dropWhile (· ≠ '=')).tail] else [text]

/-- `_assert_workspace_bound_arguments`, for one candidate. -/
def assertWorkspaceBound (candidate : List Char) : Except Failure Unit := do
  let normalized := (strip (String.ofList candidate)).toList.map fun c => if c = '\\' then '/' else c
  if normalized = [] then return ()
  Raising.raiseIf (normalized.head? = some '/')
    ⟨.valueError, "Verification command arguments must remain inside workspace."⟩
  Raising.raiseIf (normalized[1]? = some ':')
    ⟨.valueError, "Verification command arguments must not use drive paths."⟩
  Raising.raiseIf (['.', '.'] ∈ normalized.splitOn '/')
    ⟨.valueError, "Verification command arguments must not traverse workspace."⟩

/-- `_assert_workspace_bound_arguments`. -/
def assertWorkspaceBoundArguments (arguments : List String) : Except Failure Unit :=
  arguments.forM fun argument => (candidates argument).forM assertWorkspaceBound

/-- `_assert_non_mutating_ruff`. -/
def assertNonMutatingRuff (arguments : List String) : Except Failure Unit :=
  arguments.forM fun argument => do
    Raising.raiseIf (argument ∈ ["--fix", "--fix-only"])
      ⟨.valueError, "Verification Ruff commands must not mutate the workspace."⟩
    Raising.raiseIf (startsWith argument "--fix=" = true ∨ startsWith argument "--fix-only=" = true)
      ⟨.valueError, "Verification Ruff commands must not mutate the workspace."⟩

/-- `shlex.split`, on texts. -/
def shellSplit (text : String) : Except Failure (List String) :=
  match ShellWords.split text.toList with
  | .ok words => .ok (words.map String.ofList)
  | .error message => .error ⟨.valueError, message⟩

/-- What stands after a text that has to come first. -/
def after? (lead text : List Char) : Option (List Char) :=
  if lead.isPrefixOf text then some (text.drop lead.length) else none

/-- What stands after a quote. -/
def afterQuote? : List Char → Option (List Char)
  | c :: rest => if ShellWords.isQuote c then some rest else none
  | [] => none

/-- `_PYTHON_OUTPUT_ASSERTION.fullmatch`: the command and the text that it is to print.
Each part ends where a character stands that it may not have, so there is one reading at
most. -/
def outputAssertion (text : List Char) : Option (List Char × List Char) := do
  let rest ← after? "test".toList text
  guard ((rest.takeWhile isSpace) ≠ [])
  let rest ← afterQuote? (rest.dropWhile isSpace)
  let rest ← after? "$(".toList rest
  let inner := rest.takeWhile fun c => c ≠ '(' ∧ c ≠ ')'
  let arguments ← (after? "python3".toList inner).orElse fun _ => after? "python".toList inner
  guard (2 ≤ arguments.length ∧ (arguments.takeWhile isSpace) ≠ [])
  let rest ← after? [')'] (rest.drop inner.length)
  let rest ← afterQuote? rest
  let rest ← after? ['='] (rest.dropWhile isSpace)
  let rest ← afterQuote? (rest.dropWhile isSpace)
  let expected := rest.takeWhile fun c => !ShellWords.isQuote c
  let rest ← afterQuote? (rest.drop expected.length)
  guard (rest = [])
  return (inner, expected)

/-- The check of pytest. -/
def pytestSpec (arguments : List String) : Except Failure CommandSpec := do
  assertWorkspaceBoundArguments arguments
  return {
    argv := ["python", "-m", "pytest", "-p", "no:cacheprovider"] ++ arguments
    checkType := .test
    failureType := .testFailure
    name := "pytest" }

/-- The check of Ruff; `arguments` starts with `check`. -/
def ruffSpec (arguments : List String) : Except Failure CommandSpec := do
  assertWorkspaceBoundArguments arguments
  assertNonMutatingRuff arguments
  return {
    argv := ["python", "-m", "ruff", "check", "--no-cache"] ++ arguments.drop 1
    checkType := .lint
    failureType := .lintFailure
    name := "ruff" }

/-- A custom check. -/
def customSpec (argv : List String) : Except Failure CommandSpec := do
  assertWorkspaceBoundArguments (argv.drop 1)
  return {
    argv
    checkType := .custom
    failureType := .testFailure
    name := "custom"
    requiresSandbox := true }

/-- `_classify_command`. -/
def classifyCommand (command : String) : Except Failure CommandSpec :=
  match outputAssertion (strip command).toList with
  | some (inner, expected) => do
    let argv ← shellSplit (String.ofList inner)
    assertWorkspaceBoundArguments (argv.drop 1)
    return {
      argv
      checkType := .test
      failureType := .testFailure
      name := "python_stdout"
      requiresSandbox := true
      expectedStdout := some (String.ofList expected) }
  | none => do
    let argv ← (shellSplit command).mapError fun failure =>
      { failure with message := "Invalid verification command syntax: " ++ failure.message }
    match argv with
    | [] => .error ⟨.valueError, "Verification command must not be empty."⟩
    | executable :: arguments =>
      Raising.raiseIf (startsWith executable "-" = true)
        ⟨.valueError, "Verification executable must not begin with an option prefix."⟩
      if executable ∈ ["pytest", "py.test"] then pytestSpec arguments
      else if executable = "ruff" ∧ arguments.head? = some "check" then ruffSpec arguments
      else if executable ∈ ["python", "python3"] ∧ arguments.take 2 = ["-m", "pytest"] then
        pytestSpec (arguments.drop 2)
      else if executable ∈ ["python", "python3"] ∧ arguments.take 3 = ["-m", "ruff", "check"] then
        ruffSpec (arguments.drop 2)
      else customSpec (executable :: arguments)

/-- The stages of a verification. -/
inductive VerificationStage
  | fast
  | full
deriving DecidableEq, Repr

/-- The text of a stage. -/
def VerificationStage.value : VerificationStage → String
  | .fast => "fast"
  | .full => "full"

/-- `_verification_stage`. -/
def CommandSpec.verificationStage (spec : CommandSpec) : VerificationStage :=
  if spec.checkType = .custom ∨ spec.expectedStdout ≠ none then .fast
  else if spec.checkType = .test ∨ spec.checkType = .lint then
    if (spec.argv.drop 5).any fun argument =>
        argument ≠ "" && !startsWith argument "-" && argument ≠ "." then .fast
    else .full
  else .full

example : (classifyCommand "pytest tests/test_app.py -q").toOption.map
    (fun spec => (spec.argv, spec.verificationStage)) =
    some (["python", "-m", "pytest", "-p", "no:cacheprovider", "tests/test_app.py", "-q"], .fast) := by
  decide +kernel

example : (classifyCommand "test \"$(python app.py)\" = 'ok'").toOption.map
    (fun spec => (spec.argv, spec.expectedStdout)) = some (["python", "app.py"], some "ok") := by
  decide +kernel

end DevFlow
