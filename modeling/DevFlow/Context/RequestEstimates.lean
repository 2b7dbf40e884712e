/-
# The estimate of a request

`estimate_agent_request` of `context/token_estimator.py`: the estimate of the text that
the parts of a request make when they are joined, a line each.

With the default factors the estimate of a text is decided by its weight, 21 for a CJK
character and 5 for any other (`billableTokenEstimate_eq_weight`), and weights add up
where texts are put together.
-/

import DevFlow.Context.TokenEstimator
import DevFlow.Models.AgentMessages

namespace DevFlow

/-! ### Weights -/

/-- The weight of a character. -/
def charWeight (c : Char) : ℕ :=
  if isCjk c then 21 else 5

/-- The weight of a text. -/
def textWeight (text : List Char) : ℕ :=
  (text.map charWeight).sum

@[simp] theorem textWeight_nil : textWeight [] = 0 := rfl

@[simp] theorem textWeight_cons (c : Char) (text : List Char) :
    textWeight (c :: text) = charWeight c + textWeight text := by
  simp [textWeight]

@[simp] theorem textWeight_append (left right : List Char) :
    textWeight (left ++ right) = textWeight left + textWeight right := by
  simp [textWeight]

/-- A literal is weighed character by character. -/
theorem textWeight_ofList {text : List Char} {n : ℕ} (h : textWeight text = n) :
    textWeight (String.ofList text).toList = n := by
  rw [String.toList_ofList, h]

theorem textWeight_toList_append {left right : String} {n m : ℕ}
    (hleft : textWeight left.toList = n) (hright : textWeight right.toList = m) :
    textWeight (left ++ right).toList = n + m := by
  rw [String.toList_append, textWeight_append, hleft, hright]

theorem textWeight_replicate (n : ℕ) (c : Char) :
    textWeight (List.replicate n c) = n * charWeight c := by
  simp [textWeight]

/-- A text that is repeated. -/
theorem textWeight_flatten_replicate (n : ℕ) (text : List Char) :
    textWeight (List.replicate n text).flatten = n * textWeight text := by
  induction n with
  | zero => simp
  | succ n ih =>
    rw [List.replicate_succ, List.flatten_cons, textWeight_append, ih]
    ring

theorem textWeight_le (text : List Char) : textWeight text ≤ 21 * text.length := by
  induction text with
  | nil => simp
  | cons c text ih =>
    have hc : charWeight c ≤ 21 := by
      unfold charWeight
      split_ifs <;> omega
    rw [textWeight_cons, List.length_cons]
    omega

theorem five_mul_length_le (text : List Char) : 5 * text.length ≤ textWeight text := by
  induction text with
  | nil => simp
  | cons c text ih =>
    have hc : 5 ≤ charWeight c := by
      unfold charWeight
      split_ifs <;> omega
    rw [textWeight_cons, List.length_cons]
    omega

/-- The weight by the numbers of characters. -/
theorem textWeight_eq (text : List Char) :
    textWeight text = 21 * text.countP isCjk + 5 * (text.length - text.countP isCjk) := by
  induction text with
  | nil => simp
  | cons c text ih =>
    have hle : text.countP isCjk ≤ text.length := List.countP_le_length
    rw [textWeight_cons, List.countP_cons, List.length_cons, charWeight, ih]
    split_ifs <;> omega

/-- **The estimate of a text is decided by its weight.** -/
theorem billableTokenEstimate_eq_weight {text : List Char} (hpos : text ≠ [])
    (hsmall : textWeight text ≤ 2 ^ 32) :
    TokenEstimator.default.billableTokenEstimate text = (23 * textWeight text + 349) / 350 := by
  have hlength := five_mul_length_le text
  rw [TokenEstimator.billableTokenEstimate_eq (List.length_pos_iff.2 hpos) (by omega),
    ← textWeight_eq]

/-! ### Requests -/

/-- The value of the enumeration member. -/
def AgentRole.value : AgentRole → String
  | .planner => "planner"
  | .developer => "developer"
  | .reviewer => "reviewer"
  | .repair => "repair"

/-- The value of the enumeration member. -/
def MessageRole.value : MessageRole → String
  | .system => "system"
  | .user => "user"
  | .assistant => "assistant"
  | .tool => "tool"

/-- `ToolDefinition`, with the text that `json.dumps` makes of its parameters. -/
structure ToolDefinition where
  name : String
  description : String
  parameters : String

/-- What an estimate reads of an `AgentRequest`, and its output limit. -/
structure AgentRequest where
  role : AgentRole
  model : String
  messages : List AgentMessage
  maxOutputTokens : ℕ
  tools : List ToolDefinition := []

/-- `metadata_parts`. -/
def AgentRequest.metadataParts (request : AgentRequest) : List String :=
  ["role=" ++ request.role.value, "model=" ++ request.model]

/-- `message_parts`. -/
def AgentRequest.messageParts (request : AgentRequest) : List String :=
  request.messages.flatMap fun message =>
    ["message_role=" ++ message.val.role.value, "message_content=" ++ message.val.content,
      "tool_call_id=" ++ message.val.toolCallId.getD ""]

/-- `historical_tool_call_parts`. -/
def AgentRequest.historicalToolCallParts (request : AgentRequest) : List String :=
  request.messages.flatMap fun message => message.val.toolCalls.flatMap fun call =>
    ["tool_call_id=" ++ call.val.id, "tool_call_name=" ++ call.val.name,
      "tool_call_arguments=" ++ call.val.arguments]

/-- `tool_definition_parts`. -/
def AgentRequest.toolDefinitionParts (request : AgentRequest) : List String :=
  request.tools.flatMap fun tool =>
    ["tool_name=" ++ tool.name, "tool_description=" ++ tool.description,
      "tool_parameters=" ++ tool.parameters]

/-- `"\n".join(combined)`. -/
def AgentRequest.combinedText (request : AgentRequest) : List Char :=
  ['\n'].intercalate ((request.metadataParts ++ request.messageParts ++
    request.historicalToolCallParts ++ request.toolDefinitionParts).map String.toList)

/-- `estimate_agent_request`. -/
def TokenEstimator.estimateAgentRequest (estimator : TokenEstimator) (request : AgentRequest) : ℕ :=
  estimator.billableTokenEstimate request.combinedText

end DevFlow
