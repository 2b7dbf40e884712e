/-
# The developer agent

`DeveloperAgent.run` of `agents/developer.py`: the loop that asks a model for the next
step, runs the tool calls of its response, and stops when the model does, when a limit is
reached, or when one tool call fails twice in a row.

The driver, the handlers of the tools, the clock, Git and whoever watches the run are
`DeveloperOutside`: they answer, raise and stall as they like, and every call may change
them.  The log has the requests that were sent, the responses that arrived, and the tool
calls that were started and that completed.
-/

import DevFlow.Agents.ToolFailures
import DevFlow.Context.RequestEstimates
import DevFlow.Context.Retention
import DevFlow.Library.Sessions

namespace DevFlow

open Sessions

/-! ### The records -/

/-- `LivenessCredit`. -/
inductive LivenessCredit
  | normal
  | initialStartup
  | toolRecovery
  | verifiedProgress
  | checkpointResume
deriving DecidableEq, Repr

/-- `AgentResponse`: what the agents read of it, with its validator. -/
structure AgentResponse where
  content : String := ""
  toolCalls : List ToolCall := []
  usage : TokenUsage := {}
  latencyMs : ℕ := 0
  payload : content ≠ "" ∨ toolCalls ≠ []

/-- The `AgentRequest` of a developer turn: its messages are the conversation and, in a
recovery turn, a correction. -/
structure DeveloperRequest where
  model : String
  conversation : List AgentMessage
  correction : Option AgentMessage := none
  maxOutputTokens : ℕ
  budgetProgress : Bool
  contextEstimatedTokens : ℕ
  executionIteration : ℕ
  livenessCredit : LivenessCredit
  tools : List ToolDefinition

/-- `request_messages`. -/
def DeveloperRequest.messages (request : DeveloperRequest) : List AgentMessage :=
  request.conversation ++ request.correction.toList

/-- The validators of `AgentRequest`. -/
def DeveloperRequest.validate (request : DeveloperRequest) : Except Failure DeveloperRequest := do
  let model ← normalizeBoundedText 256 request.model
  Raising.raiseIf (request.messages = [])
    (boundError "List should have at least 1 item after validation")
  Raising.raiseIf (request.maxOutputTokens < 64 ∨ 32768 < request.maxOutputTokens)
    (boundError "max_output_tokens is out of range")
  Raising.raiseIf (100 < request.executionIteration)
    (boundError "Input should be less than or equal to 100")
  Raising.raiseIf (¬(request.tools.map (·.name)).Nodup)
    ⟨.valueError, "tool definitions must have unique names"⟩
  return { request with model }

/-- `DeveloperExecutionBudget`. -/
structure DeveloperExecutionBudget where
  maxIterations : ℕ
  maxDurationSeconds : ℚ
  maxModelTurnSeconds : ℚ
deriving DecidableEq, Repr

/-- The fields of `DeveloperRunResult`. -/
structure DeveloperRunResultFields where
  stopReason : DeveloperStopReason
  iterations : ℕ
  toolCalls : ℕ
  finalMessage : String := ""
  changedFiles : List String := []
  usage : TokenUsage := {}
  latencyMs : ℕ := 0
  executionBudget : Option DeveloperExecutionBudget := none
  toolFailureEvidence : List String := []
deriving DecidableEq, Repr

/-- What the agent reads of a `ContextPacket`. -/
structure DeveloperPacket where
  taskId : String
  objective : String
  acceptanceCriteria : List String
  readableFiles : List String
  writableFiles : List String
  readonlyFiles : List String
  resumes : Bool
  billablePromptTokens : ℕ

namespace DeveloperAgent

/-- The parameters of the constructor, with its checks. -/
structure Settings where
  model : String
  maxIterations : ℕ := 12
  maxDurationSeconds : ℚ := 300
  maxModelTurnSeconds : ℚ := 120
  maxToolCallsPerTurn : ℕ := 8
  maxOutputTokens : ℕ := 1400
  invalidToolRetryMaxOutputTokens : ℕ := 3200
  contextCompactionEnabled : Bool := true
  roleContextProjectionEnabled : Bool := true
  maxRetainedToolGroups : ℕ := 1
  maxSingleToolResultTokens : ℕ := 800
  maxToolResultsPerTurnTokens : ℕ := 1600
  model_normalized : strip model = model ∧ model ≠ ""
  duration_bounds : 1 ≤ maxDurationSeconds ∧ maxDurationSeconds ≤ 600 := by decide
  turn_bounds : 1 ≤ maxModelTurnSeconds ∧ maxModelTurnSeconds ≤ 600 := by decide
  iterations_bounds : 1 ≤ maxIterations ∧ maxIterations ≤ 20 := by decide
  toolCalls_bounds : 1 ≤ maxToolCallsPerTurn ∧ maxToolCallsPerTurn ≤ 32 := by decide
  output_bounds : 64 ≤ maxOutputTokens ∧ maxOutputTokens ≤ invalidToolRetryMaxOutputTokens ∧
    invalidToolRetryMaxOutputTokens ≤ 32768 := by decide

/-- What became of something that was awaited. -/
inductive Awaited (α : Type)
  | done (a : α)
  | timedOut
  | raised (failure : Failure)

/-- The components around a run. -/
structure DeveloperOutside (σ : Type) where
  clock : σ → ℚ × σ
  changedFiles : σ → Except Failure (List String) × σ
  /-- `driver.complete` with the seconds that it has. -/
  complete : ℚ → DeveloperRequest → σ → Awaited AgentResponse × σ
  /-- Whether the thread of a tool call ends within the seconds that it has. -/
  inTime : ℚ → ToolCall → σ → Bool × σ
  /-- The handler of a tool; the outer error is an exception that `execute` does not catch. -/
  handle : ToolCall → σ → Except Failure (Except ToolFailure String) × σ
  recordAgentTurn : DeveloperRequest → AgentResponse → σ → Except Failure Unit × σ
  recordToolCall : ToolExecutionResult → σ → Except Failure Unit × σ
  /-- `record_tool_outcome` of the driver, with `has_real_progress` and
  `compacted_code_mutation`; a driver need not have it. -/
  recordToolOutcome : Option
    (List ToolCall → List ToolExecutionResult → Bool → Bool → σ → Except Failure Unit × σ)
  /-- `str(exc)` of what `json.loads` raised. -/
  loadErrorText : String → JsonReader.LoadError → String

/-- What a run asks for and is told. -/
inductive DeveloperEvent
  | requested (request : DeveloperRequest)
  | responded (response : AgentResponse)
  | toolStarted (call : ToolCall)
  | toolReturned (call : ToolCall) (result : ToolExecutionResult)

/-- The local variables of `run`. -/
structure Progress (S : Type) where
  promptTokens : ℕ := 0
  completionTokens : ℕ := 0
  totalTokens : ℕ := 0
  totalLatencyMs : ℕ := 0
  toolCallCount : ℕ := 0
  successfulToolProgress : Bool
  lastToolFailure : Option (String × ToolErrorCode × String) := none
  repeatedToolFailureCount : ℕ := 0
  toolRecoveryInstruction : Option String := none
  toolRecoveryCreditPending : Bool := false
  toolRecoveryCreditUsed : Bool := false
  messages : List AgentMessage
  retention : Retention S

/-- The totals with a response. -/
def Progress.add {S : Type} (progress : Progress S) (response : AgentResponse) : Progress S :=
  { progress with
    promptTokens := progress.promptTokens + response.usage.promptTokens
    completionTokens := progress.completionTokens + response.usage.completionTokens
    totalTokens := progress.totalTokens + response.usage.totalTokens
    totalLatencyMs := progress.totalLatencyMs + response.latencyMs }

/-! ### Single decisions -/

/-- `_validate_context_packet`. -/
def validateContextPacket (task : TaskContractFields) : Option DeveloperPacket → Except Failure Unit
  | none => return ()
  | some packet => do
    Raising.raiseIf (packet.taskId ≠ task.taskId)
      ⟨.valueError, "Developer ContextPacket task_id does not match TaskContract"⟩
    Raising.raiseIf (packet.objective ≠ task.objective)
      ⟨.valueError, "Developer ContextPacket objective does not match TaskContract"⟩
    Raising.raiseIf (packet.acceptanceCriteria ≠ task.acceptanceCriteria)
      ⟨.valueError, "Developer ContextPacket acceptance criteria mismatch"⟩
    Raising.raiseIf (packet.readableFiles ≠ task.readableFiles)
      ⟨.valueError, "Developer ContextPacket readable scope does not match TaskContract"⟩
    Raising.raiseIf (packet.writableFiles ≠ task.writableFiles)
      ⟨.valueError, "Developer ContextPacket writable scope does not match TaskContract"⟩
    Raising.raiseIf (packet.readonlyFiles ≠ task.readonlyFiles)
      ⟨.valueError, "Developer ContextPacket read-only scope does not match TaskContract"⟩

/-- `_liveness_credit_for_turn`. -/
def livenessCreditForTurn (iteration : ℕ) (packet : Option DeveloperPacket)
    (hasVerifiedProgress toolRecoveryPending : Bool) : LivenessCredit :=
  if toolRecoveryPending then .toolRecovery
  else if iteration = 1 ∧ packet.any (·.resumes) then .checkpointResume
  else if iteration = 1 then .initialStartup
  else if hasVerifiedProgress then .verifiedProgress
  else .normal

/-- `_tool_recovery_instruction`. -/
def toolRecoveryInstruction (call : ToolCall) (result : ToolExecutionResult) : String :=
  if call.val.name = "write_file" ∧ result.val.errorCode = some .invalidArguments then
    "The previous write_file call was rejected because its function arguments were " ++
    "not a complete JSON object. Retry write_file exactly once using only valid JSON " ++
    "with the required keys path and content; do not wrap JSON in Markdown and do not " ++
    "add commentary. If the intended file is long, write only a small runnable " ++
    "skeleton now and add the rest later with bounded apply_patch calls."
  else
    "The previous repository-tool call was rejected. Correct its JSON arguments exactly " ++
    "once according to the tool schema. Return a tool call, not Markdown or prose."

/-- `_is_recoverable_tool_error`. -/
def isRecoverableToolError (result : ToolExecutionResult) : Bool :=
  result.val.errorCode = some .invalidArguments || result.val.errorCode = some .ambiguousPatch ||
    result.val.errorCode = some .ioError

/-- The result of a call that failed; it has the id and the name of the call. -/
def errorResult (call : ToolCall) (code : ToolErrorCode) (message : String) :
    Except Failure ToolExecutionResult :=
  ToolExecutionResult.make
    { toolCallId := call.val.id, name := call.val.name, ok := false, content := message
      errorCode := some code }

/-- The names of `_handlers`. -/
def toolNames : List String :=
  ["list_files", "read_file", "read_files", "read_range", "read_symbol", "search_code",
    "search_code_many", "write_file", "apply_patch"]

/-! ### The loop -/

section Run

variable {σ S : Type} (settings : Settings) (interpreter : Interpreter) (memory : WorkingMemory S)
variable (outside : DeveloperOutside σ)

/-- A part of a run. -/
abbrev DeveloperSession (σ α : Type) : Type :=
  Session σ DeveloperEvent Failure α

/-- `RepositoryToolbox.execute`. -/
def execute (call : ToolCall) : DeveloperSession σ ToolExecutionResult :=
  if call.val.name ∉ toolNames then
    lift (errorResult call .unknownTool ("Unknown repository tool: " ++ call.val.name))
  else
    match loadArguments interpreter call.val.arguments with
    | .error .recursion => lift (.error ⟨.runtimeError, "maximum recursion depth exceeded"⟩)
    | .error fault =>
      lift (errorResult call .invalidArguments (outside.loadErrorText call.val.arguments fault))
    | .ok none =>
      lift (errorResult call .invalidArguments "tool arguments must be a JSON object")
    | .ok (some _) => do
      match ← invoke (outside.handle call) with
      | .error failure => lift (errorResult call failure.code failure.message)
      | .ok content => lift (ToolExecutionResult.make
          { toolCallId := call.val.id, name := call.val.name, ok := true, content })

/-- `_result`. -/
def result (stopReason : DeveloperStopReason) (iterations : ℕ) (progress : Progress S)
    (finalMessage : String) (toolFailureEvidence : List String) :
    DeveloperSession σ DeveloperRunResultFields := do
  let changedFiles ← invoke outside.changedFiles
  return {
    stopReason
    iterations
    toolCalls := progress.toolCallCount
    finalMessage
    changedFiles
    usage := ⟨progress.promptTokens, progress.completionTokens, progress.totalTokens⟩
    latencyMs := progress.totalLatencyMs
    executionBudget := some ⟨settings.maxIterations, settings.maxDurationSeconds,
      min settings.maxModelTurnSeconds settings.maxDurationSeconds⟩
    toolFailureEvidence }

/-- `_bounded_completion_after_changes` where there are changes, and `_result` with the
final message where there are none. -/
def boundedStop (reason : String) (stopReason : DeveloperStopReason) (iterations : ℕ)
    (progress : Progress S) (finalMessage : String) :
    DeveloperSession σ DeveloperRunResultFields := do
  let changedFiles ← invoke outside.changedFiles
  if changedFiles ≠ [] then
    result settings outside stopReason iterations progress
      ("Developer " ++ reason ++ " after repository changes; " ++
        "continuing to deterministic verification.") []
  else result settings outside stopReason iterations progress finalMessage []

/-- `successful_tool_progress or bool(workspace.changed_files())`. -/
def hasProgress (progress : Progress S) : DeveloperSession σ Bool :=
  if progress.successfulToolProgress then pure true
  else do
    let changedFiles ← invoke outside.changedFiles
    return decide (changedFiles ≠ [])

/-- `_record_tool_cost_outcome`. -/
def recordToolCostOutcome (calls : List ToolCall) (results : List ToolExecutionResult)
    (compactedCodeMutation : Bool) : DeveloperSession σ Unit :=
  match outside.recordToolOutcome with
  | none => pure ()
  | some observer => do
    let hasRealProgress ←
      if results.any (·.val.ok) then pure true
      else do
        let changedFiles ← invoke outside.changedFiles
        pure (decide (changedFiles ≠ []))
    invoke (observer calls results hasRealProgress compactedCodeMutation)

/-- The end of a call that failed: the run stops, or goes on with the failure noted. -/
def noteFailure (iteration : ℕ) (calls : List ToolCall) (call : ToolCall)
    (result : ToolExecutionResult) (code : ToolErrorCode)
    (state : Progress S × List ToolExecutionResult) :
    DeveloperSession σ (DeveloperRunResultFields ⊕ Progress S × List ToolExecutionResult) := do
  let (progress, results) := state
  let signature := (result.val.name, code, ← lift (toolFailureSignature interpreter call result))
  let progress := { progress with
    repeatedToolFailureCount :=
      if some signature = progress.lastToolFailure then progress.repeatedToolFailureCount + 1 else 1
    lastToolFailure := some signature }
  if 2 ≤ progress.repeatedToolFailureCount then
    recordToolCostOutcome outside calls results false
    let evidence ← lift (safeToolFailureEvidence interpreter call result)
    let stopped ← DeveloperAgent.result settings outside .repeatedToolFailure iteration progress
      ("Developer stopped after repeated invalid repository-tool calls; " ++
        "no additional model request was made.") [evidence]
    return .inl stopped
  else if progress.toolRecoveryCreditUsed = false ∧ isRecoverableToolError result = true then
    return .inr ({ progress with
      toolRecoveryInstruction := some (toolRecoveryInstruction call result)
      toolRecoveryCreditPending := true }, results)
  else return .inr (progress, results)

/-- The body of `for call in response.tool_calls`. -/
def runTool (iteration : ℕ) (remaining : ℚ) (calls : List ToolCall) (call : ToolCall)
    (state : Progress S × List ToolExecutionResult) :
    DeveloperSession σ (DeveloperRunResultFields ⊕ Progress S × List ToolExecutionResult) := do
  emit (.toolStarted call)
  let inTime ← ask (outside.inTime (min remaining 30) call)
  if inTime = false then
    let stopped ← boundedStop settings outside "repository tool execution timed out" .timeLimit
      iteration state.1 ""
    return .inl stopped
  else
    let toolResult ← execute interpreter outside call
    emit (.toolReturned call toolResult)
    let progress := { state.1 with toolCallCount := state.1.toolCallCount + 1 }
    invoke (outside.recordToolCall toolResult)
    let results := state.2 ++ [toolResult]
    if toolResult.val.ok then
      return .inr ({ progress with
        successfulToolProgress := true
        lastToolFailure := none
        repeatedToolFailureCount := 0 }, results)
    else
      match toolResult.val.errorCode with
      | none => return .inr ({ progress with
          lastToolFailure := none
          repeatedToolFailureCount := 0 }, results)
      | some code =>
        noteFailure settings interpreter outside iteration calls call toolResult code
          (progress, results)

/-- What follows the tool calls of a turn. -/
def finishTurn (startedAt : ℚ) (iteration : ℕ) (assistant : AgentMessage) (calls : List ToolCall)
    (state : Progress S × List ToolExecutionResult) :
    DeveloperSession σ (DeveloperRunResultFields ⊕ Progress S) := do
  let (progress, results) := state
  let progress ←
    if settings.contextCompactionEnabled then do
      let (retention, compacted) := progress.retention.addGroup memory assistant calls results
      let compacted ← lift compacted
      recordToolCostOutcome outside calls results compacted
      pure { progress with retention, messages := retention.messages memory }
    else do
      recordToolCostOutcome outside calls results false
      pure { progress with
        messages := progress.messages ++ assistant ::
          results.map fun result => result.message result.val.content }
  let now ← ask outside.clock
  if settings.maxDurationSeconds ≤ Doubles.round (now - startedAt) then
    let stopped ← boundedStop settings outside "time budget elapsed" .timeLimit iteration progress ""
    return .inl stopped
  else return .inr progress

/-- A turn from the response on. -/
def receive (startedAt : ℚ) (iteration : ℕ) (remaining : ℚ) (progress : Progress S)
    (response : AgentResponse) : DeveloperSession σ (DeveloperRunResultFields ⊕ Progress S) := do
  let progress := progress.add response
  let assistant ← lift (AgentMessage.make
    { role := .assistant, content := response.content, toolCalls := response.toolCalls })
  if response.toolCalls = [] then
    let stopped ← result settings outside .modelStop iteration progress response.content []
    return .inl stopped
  else if settings.maxToolCallsPerTurn < response.toolCalls.length then
    let stopped ← boundedStop settings outside "per-turn tool-call budget was exceeded"
      .toolCallLimit iteration progress response.content
    return .inl stopped
  else
    match ← each (runTool settings interpreter outside iteration remaining response.toolCalls)
        response.toolCalls (progress, []) with
    | .inl stopped => return .inl stopped
    | .inr state =>
      finishTurn settings memory outside startedAt iteration assistant response.toolCalls state

/-- The request of a turn, and the variables after it: a recovery instruction is used once. -/
def nextRequest (tools : List ToolDefinition) (packet : Option DeveloperPacket) (iteration : ℕ)
    (progress : Progress S) : DeveloperSession σ (DeveloperRequest × Progress S) := do
  let hasVerifiedProgress ← hasProgress outside progress
  let livenessCredit := livenessCreditForTurn iteration packet hasVerifiedProgress
    progress.toolRecoveryCreditPending
  let correction ← lift (progress.toolRecoveryInstruction.mapM fun instruction =>
    AgentMessage.make { role := .user, content := instruction })
  let budgetProgress ← hasProgress outside progress
  let request ← lift (DeveloperRequest.validate {
    model := settings.model
    conversation := progress.messages
    correction
    maxOutputTokens :=
      if progress.toolRecoveryInstruction.isSome then settings.invalidToolRetryMaxOutputTokens
      else settings.maxOutputTokens
    budgetProgress
    contextEstimatedTokens :=
      if settings.roleContextProjectionEnabled then 0
      else (packet.map (·.billablePromptTokens)).getD 0
    executionIteration := iteration
    livenessCredit
    tools })
  if progress.toolRecoveryInstruction.isSome then
    return (request, { progress with
      toolRecoveryInstruction := none
      toolRecoveryCreditPending := false
      toolRecoveryCreditUsed := true })
  else return (request, progress)

/-- The body of `for iteration in range(1, self._max_iterations + 1)`. -/
def turn (tools : List ToolDefinition) (packet : Option DeveloperPacket) (startedAt : ℚ)
    (iteration : ℕ) (progress : Progress S) :
    DeveloperSession σ (DeveloperRunResultFields ⊕ Progress S) := do
  let now ← ask outside.clock
  let remaining := Doubles.round (settings.maxDurationSeconds - Doubles.round (now - startedAt))
  if remaining ≤ 0 then
    let stopped ← boundedStop settings outside "time budget elapsed" .timeLimit (iteration - 1)
      progress ""
    return .inl stopped
  else
    let (request, progress) ← nextRequest settings outside tools packet iteration progress
    emit (.requested request)
    let seconds := min remaining (min settings.maxModelTurnSeconds settings.maxDurationSeconds)
    match ← ask (outside.complete seconds request) with
    | .raised failure => lift (.error failure)
    | .timedOut =>
      let stopped ← boundedStop settings outside "provider response timed out" .timeLimit
        (iteration - 1) progress ""
      return .inl stopped
    | .done response =>
      emit (.responded response)
      invoke (outside.recordAgentTurn request response)
      receive settings interpreter memory outside startedAt iteration remaining progress response

/-- `DeveloperAgent.run`; `initialMessages` are those of `_initial_messages`. -/
def run (emptyMemory : S) (initialMessages : List AgentMessage) (tools : List ToolDefinition)
    (task : TaskContractFields) (packet : Option DeveloperPacket) :
    DeveloperSession σ DeveloperRunResultFields := do
  lift (validateContextPacket task packet)
  let limits ← lift (RetentionLimits.make settings.maxRetainedToolGroups
    settings.maxSingleToolResultTokens settings.maxToolResultsPerTurnTokens)
  let retention : Retention S :=
    { limits, baseMessages := initialMessages, state := emptyMemory }
  let startedAt ← ask outside.clock
  let changedFiles ← invoke outside.changedFiles
  match ← each (turn settings interpreter memory outside tools packet startedAt)
      (List.range' 1 settings.maxIterations)
      { successfulToolProgress := decide (changedFiles ≠ [])
        messages := retention.messages memory
        retention } with
  | .inl stopped => return stopped
  | .inr progress =>
    boundedStop settings outside "iteration budget was reached" .iterationLimit
      settings.maxIterations progress ""

end Run

end DeveloperAgent

end DevFlow
