/-
# The retention of tool groups

`AgentContextRetention` of `context/retention.py`: the turns of an agent that are
recorded, what of the results of their tool calls is shown, and the messages that a
provider gets.

What an observation leaves in the working state, and what the state says in its
message, is the part of a `WorkingMemory` here, which may do anything: `_observe` can
raise in the middle of a turn with the state half changed.  A turn that raises leaves
the groups as they were.
-/

import DevFlow.Context.TokenEstimator
import DevFlow.Library.Bisection
import DevFlow.Models.AgentMessages

namespace DevFlow

/-- `_StateBuilder`, with `_observe` and `snapshot().model_dump_json`. -/
structure WorkingMemory (S : Type) where
  /-- The state after an observation, and what it raised. -/
  observe : S → ToolCall → ToolExecutionResult → S × Option Failure
  describe : S → String

/-- `ToolCallGroup`. -/
structure ToolCallGroup where
  assistant : AgentMessage
  results : List AgentMessage

/-- The limits of the constructor. -/
structure RetentionLimits where
  maxRetainedToolGroups : ℕ := 2
  maxSingleToolResultTokens : ℕ := 1200
  maxToolResultsPerTurnTokens : ℕ := 2400
  retained_bounds : 1 ≤ maxRetainedToolGroups ∧ maxRetainedToolGroups ≤ 4 := by decide
  single_bound : 128 ≤ maxSingleToolResultTokens := by decide
  perTurn_bound : maxSingleToolResultTokens ≤ maxToolResultsPerTurnTokens := by decide

/-- The checks of the constructor. -/
def RetentionLimits.make (maxRetainedToolGroups maxSingleToolResultTokens
    maxToolResultsPerTurnTokens : ℕ) : Except Failure RetentionLimits :=
  if hretained : 1 ≤ maxRetainedToolGroups ∧ maxRetainedToolGroups ≤ 4 then
    if hsingle : 128 ≤ maxSingleToolResultTokens then
      if hperTurn : maxSingleToolResultTokens ≤ maxToolResultsPerTurnTokens then
        .ok ⟨maxRetainedToolGroups, maxSingleToolResultTokens, maxToolResultsPerTurnTokens,
          hretained, hsingle, hperTurn⟩
      else .error ⟨.valueError, "per-turn tool-result budget must cover one tool result"⟩
    else .error ⟨.valueError, "max_single_tool_result_tokens must be at least 128"⟩
  else .error ⟨.valueError, "max_retained_tool_groups must be between 1 and 4"⟩

/-- `AgentContextRetention`. -/
structure Retention (S : Type) where
  limits : RetentionLimits
  baseMessages : List AgentMessage
  groups : List ToolCallGroup := []
  compactedCodeMutationGroupCount : ℕ := 0
  compactedToolResultGroupCount : ℕ := 0
  toolResultTruncationCount : ℕ := 0
  state : S

namespace Retention

/-! ### The results that are shown -/

/-- `suffix`. -/
def previewSuffix : String :=
  "\n[DevFlow truncated this tool result for the Agent context; use a scoped read/search command for more detail.]"

/-- What stands for a result once the budget of the turn is used up. -/
def omissionNotice : String :=
  "[DevFlow omitted this tool result from the Agent context because the per-turn result budget is exhausted; use a scoped read/search command.]"

/-- `self._token_estimator`. -/
def tokenEstimator : TokenEstimator :=
  .default

/-- The tokens of a message. -/
def messageTokens (message : AgentMessage) : ℕ :=
  tokenEstimator.billableTokenEstimate message.val.content.toList

/-- `_bounded_preview`. -/
def boundedPreview (content : List Char) (limit : ℕ) : List Char :=
  let candidateFits middle :=
    tokenEstimator.billableTokenEstimate (content.take middle ++ previewSuffix.toList) ≤ limit
  let low := Bisection.bisect (fun middle => candidateFits middle) 0 content.length
  if low = 0 then previewSuffix.toList else content.take low ++ previewSuffix.toList

/-- `content_limit`. -/
def contentLimit (limits : RetentionLimits) (result : ToolExecutionResult) (remainingTokens : ℕ) :
    ℕ :=
  let envelopeTokens := tokenEstimator.billableTokenEstimate { result.val with content := "" }.dumps
  min limits.maxSingleToolResultTokens (remainingTokens - envelopeTokens)

/-- What is shown of a result, and whether it is shortened. -/
def shownContent (original : String) (contentLimit : ℕ) : String × Bool :=
  if contentLimit < 128 then (omissionNotice, true)
  else if contentLimit < tokenEstimator.billableTokenEstimate original.toList then
    (String.ofList (boundedPreview original.toList contentLimit), true)
  else (original, false)

/-- The loop over the results of a turn: the messages of `_bounded_tool_result_message`,
and how many of them are shortened. -/
def boundedMessages (limits : RetentionLimits) :
    ℕ → List ToolExecutionResult → List AgentMessage × ℕ
  | _, [] => ([], 0)
  | remainingTokens, result :: results =>
    let shown := shownContent result.val.content (contentLimit limits result remainingTokens)
    let message := result.message shown.1
    let rest := boundedMessages limits (remainingTokens - messageTokens message) results
    (message :: rest.1, rest.2 + if shown.2 then 1 else 0)

/-! ### Recording a turn -/

section Memory

variable {S : Type} (memory : WorkingMemory S)

/-- The loop of the observations; it ends where one raises. -/
def observeAll : S → List (ToolCall × ToolExecutionResult) → S × Option Failure
  | state, [] => (state, none)
  | state, (call, result) :: rest =>
    match memory.observe state call result with
    | (state, some failure) => (state, some failure)
    | (state, none) => observeAll state rest

/-- `_is_successful_code_mutation`. -/
def isSuccessfulCodeMutation (calls : List ToolCall) (results : List ToolExecutionResult) : Bool :=
  (calls.zip results).any fun (call, result) =>
    (call.val.name = "write_file" || call.val.name = "apply_patch") && result.val.ok

/-- `add_group`: the retention after the call, and what it returns or raises. -/
def addGroup (retention : Retention S) (assistant : AgentMessage) (calls : List ToolCall)
    (results : List ToolExecutionResult) : Retention S × Except Failure Bool :=
  if assistant.val.role ≠ .assistant ∨ assistant.val.toolCalls = [] then
    (retention, .error ⟨.valueError,
      "a tool group must start with an assistant tool-call message"⟩)
  else if calls.map (·.val.id) ≠ assistant.val.toolCalls.map (·.val.id) then
    (retention, .error ⟨.valueError, "tool group calls must match assistant tool calls"⟩)
  else if results.map (·.val.toolCallId) ≠ calls.map (·.val.id) then
    (retention, .error ⟨.valueError, "tool group results must match calls in order"⟩)
  else
    let perTurn := retention.limits.maxToolResultsPerTurnTokens
    let bounded := boundedMessages retention.limits perTurn results
    let observed := observeAll memory retention.state (calls.zip results)
    let retention :=
      { retention with
        toolResultTruncationCount := retention.toolResultTruncationCount + bounded.2
        state := observed.1 }
    match observed.2 with
    | some failure => (retention, .error failure)
    | none =>
      if perTurn < (bounded.1.map messageTokens).sum then
        ({ retention with
            compactedToolResultGroupCount := retention.compactedToolResultGroupCount + 1 },
          .ok true)
      else if isSuccessfulCodeMutation calls results then
        ({ retention with
            compactedCodeMutationGroupCount := retention.compactedCodeMutationGroupCount + 1 },
          .ok true)
      else ({ retention with groups := retention.groups ++ [⟨assistant, bounded.1⟩] }, .ok false)

/-! ### The messages -/

/-- `compacted_group_count`. -/
def compactedGroupCount (retention : Retention S) : ℕ :=
  retention.compactedCodeMutationGroupCount + retention.compactedToolResultGroupCount +
    (retention.groups.length - retention.limits.maxRetainedToolGroups)

/-- `self._groups[-self._max_retained_tool_groups :]`. -/
def retained (retention : Retention S) : List ToolCallGroup :=
  retention.groups.drop (retention.groups.length - retention.limits.maxRetainedToolGroups)

/-- What the message of the working state begins with. -/
def stateHeading : String :=
  "DevFlow compact working state (runtime metadata, not evidence):\n"

theorem strip_stateHeading_ne (text : String) : strip (stateHeading ++ text) ≠ "" := by
  have hhead : stateHeading.toList.head? = some 'D' := by
    simp only [stateHeading, String.reduceToList]
    rfl
  exact strip_append_ne_empty hhead (by decide)

/-- The message of the working state. -/
def stateMessage (retention : Retention S) : AgentMessage :=
  .ofText .user (stateHeading ++ memory.describe retention.state) MessageRole.user_plain
    (strip_stateHeading_ne _)

/-- `messages`. -/
def messages (retention : Retention S) : List AgentMessage :=
  retention.baseMessages ++
    (if retention.compactedGroupCount = 0 then [] else [stateMessage memory retention]) ++
    retention.retained.flatMap fun group => group.assistant :: group.results

/-! ### Runs -/

/-- A turn to be recorded. -/
structure Turn where
  assistant : AgentMessage
  calls : List ToolCall
  results : List ToolExecutionResult

/-- The retention after the turns were recorded; a turn may raise. -/
def run (retention : Retention S) (turns : List Turn) : Retention S :=
  turns.foldl
    (fun retention turn => (addGroup memory retention turn.assistant turn.calls turn.results).1)
    retention

end Memory

end Retention

end DevFlow
