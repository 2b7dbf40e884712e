/-
# The messages of an agent

`ToolCall` and `ToolExecutionResult` of `models/tools.py`, and `AgentMessage` of
`models/agent.py`, with their validators.  As with the other models, the values of a
model are what its validators return as they are.
-/

import DevFlow.Models.TaskRecords
import DevFlow.Tools.Toolbox

namespace DevFlow

open Documents (Validated)

/-- `TokenUsage`; nothing says that the total is the sum of the other two. -/
structure TokenUsage where
  promptTokens : ℕ := 0
  completionTokens : ℕ := 0
  totalTokens : ℕ := 0
deriving DecidableEq, Repr

/-! ### `ToolCall` -/

/-- The fields of `ToolCall`. -/
structure ToolCallFields where
  id : String
  name : String
  arguments : String := "\x7b\x7d"
deriving DecidableEq

/-- The pattern `^[A-Za-z_][A-Za-z0-9_]*$`. -/
def isToolName (s : String) : Bool :=
  match s.toList with
  | [] => false
  | c :: cs => (c.isAlpha || c = '_') && cs.all fun c => c.isAlphanum || c = '_'

/-- `normalize_required_text` and `normalize_identity`, after the bounds of the field. -/
def normalizeBoundedText (bound : ℕ) (value : String) : Except Failure String := do
  Raising.raiseIf (value.length < 1 ∨ bound < value.length)
    (boundError "String length is out of range")
  normalizeNonEmptyText value

theorem normalizeBoundedText_stable {bound : ℕ} {value normalized : String}
    (h : normalizeBoundedText bound value = .ok normalized) :
    normalizeBoundedText bound normalized = .ok normalized := by
  simp only [normalizeBoundedText, Raising.bind_eq_ok, Raising.raiseIf_eq_ok] at h ⊢
  obtain ⟨_, hlength, hnormalized⟩ := h
  exact ⟨⟨⟩, length_normalizeNonEmptyText hnormalized hlength,
    normalizeNonEmptyText_stable _ _ hnormalized⟩

/-- The validators of `ToolCall`. -/
def ToolCallFields.validate (fields : ToolCallFields) : Except Failure ToolCallFields := do
  let id ← normalizeBoundedText 256 fields.id
  Raising.raiseIf (isToolName fields.name = false) (boundError "String should match pattern")
  let name ← normalizeBoundedText 128 fields.name
  return { fields with id, name }

/-- `ToolCall`. -/
abbrev ToolCall := Validated ToolCallFields.validate

/-! ### `ToolExecutionResult` -/

/-- The value of the enumeration member. -/
def ToolErrorCode.value : ToolErrorCode → String
  | .invalidArguments => "INVALID_ARGUMENTS"
  | .pathDenied => "PATH_DENIED"
  | .notFound => "NOT_FOUND"
  | .ambiguousPatch => "AMBIGUOUS_PATCH"
  | .ioError => "IO_ERROR"
  | .unknownTool => "UNKNOWN_TOOL"

/-- The fields of `ToolExecutionResult`. -/
structure ToolExecutionResultFields where
  toolCallId : String
  name : String
  ok : Bool
  content : String := ""
  errorCode : Option ToolErrorCode := none
deriving DecidableEq

/-- The validators of `ToolExecutionResult`. -/
def ToolExecutionResultFields.validate (fields : ToolExecutionResultFields) :
    Except Failure ToolExecutionResultFields := do
  let toolCallId ← normalizeBoundedText 256 fields.toolCallId
  let name ← normalizeBoundedText 128 fields.name
  return { fields with toolCallId, name }

/-- `ToolExecutionResult`. -/
abbrev ToolExecutionResult := Validated ToolExecutionResultFields.validate

theorem ToolExecutionResultFields.validate_stable (fields normalized : ToolExecutionResultFields)
    (h : fields.validate = .ok normalized) : normalized.validate = .ok normalized := by
  simp only [ToolExecutionResultFields.validate, Raising.bind_eq_ok, Raising.pure_eq_ok] at h ⊢
  obtain ⟨toolCallId, hid, name, hname, rfl⟩ := h
  exact ⟨toolCallId, normalizeBoundedText_stable hid, name, normalizeBoundedText_stable hname, rfl⟩

/-- `ToolExecutionResult(...)`. -/
def ToolExecutionResult.make (fields : ToolExecutionResultFields) :
    Except Failure ToolExecutionResult :=
  Validated.make ToolExecutionResultFields.validate_stable fields

/-- The payload of `model_dump(mode="json")`, as `json.dumps` with
`ensure_ascii=False` and the separators `,` and `:` writes it. -/
def ToolExecutionResultFields.dumps (payload : ToolExecutionResultFields) : List Char :=
  let key (name : String) := '"' :: name.toList ++ ['"', ':']
  '\x7b' :: key "tool_call_id" ++ Documents.dumpsString payload.toolCallId ++
    ',' :: key "name" ++ Documents.dumpsString payload.name ++
    ',' :: key "ok" ++ (if payload.ok then "true" else "false").toList ++
    ',' :: key "content" ++ Documents.dumpsString payload.content ++
    ',' :: key "error_code" ++
      (match payload.errorCode with
      | none => "null".toList
      | some code => Documents.dumpsString code.value) ++ ['\x7d']

/-! ### `AgentMessage` -/

/-- `AgentRole`. -/
inductive AgentRole
  | planner
  | developer
  | reviewer
  | repair
deriving DecidableEq, Repr

/-- `MessageRole`. -/
inductive MessageRole
  | system
  | user
  | assistant
  | tool
deriving DecidableEq, Repr

/-- The fields of `AgentMessage`. -/
structure AgentMessageFields where
  role : MessageRole
  content : String := ""
  toolCallId : Option String := none
  toolCalls : List ToolCall := []
deriving DecidableEq

/-- `normalize_tool_call_id`. -/
def normalizeToolCallId : Option String → Except Failure (Option String)
  | none => return none
  | some value => do
    Raising.raiseIf (strip value = "") ⟨.valueError, "tool_call_id must not be empty"⟩
    return some (strip value)

/-- `validate_role_payload`. -/
def AgentMessageFields.validateRolePayload (fields : AgentMessageFields) : Except Failure Unit :=
  match fields.role with
  | .system | .user => do
    Raising.raiseIf (fields.content = "")
      ⟨.valueError, "system and user messages require content"⟩
    Raising.raiseIf (fields.toolCallId ≠ none ∨ fields.toolCalls ≠ [])
      ⟨.valueError, "system and user messages cannot contain tool metadata"⟩
  | .assistant => do
    Raising.raiseIf (fields.toolCallId ≠ none)
      ⟨.valueError, "assistant messages cannot contain tool_call_id"⟩
    Raising.raiseIf (fields.content = "" ∧ fields.toolCalls = [])
      ⟨.valueError, "assistant messages require content or tool_calls"⟩
  | .tool => do
    Raising.raiseIf (fields.toolCallId = none)
      ⟨.valueError, "tool messages require tool_call_id"⟩
    Raising.raiseIf (fields.content = "") ⟨.valueError, "tool messages require content"⟩
    Raising.raiseIf (fields.toolCalls ≠ [])
      ⟨.valueError, "tool messages cannot contain nested tool_calls"⟩

/-- The validators of `AgentMessage`. -/
def AgentMessageFields.validate (fields : AgentMessageFields) : Except Failure AgentMessageFields := do
  let toolCallId ← normalizeToolCallId fields.toolCallId
  let normalized := { fields with content := strip fields.content, toolCallId }
  normalized.validateRolePayload
  return normalized

/-- `AgentMessage`. -/
abbrev AgentMessage := Validated AgentMessageFields.validate

/-- A message that was accepted is accepted as it is. -/
theorem AgentMessageFields.validate_stable (fields normalized : AgentMessageFields)
    (h : fields.validate = .ok normalized) : normalized.validate = .ok normalized := by
  simp only [AgentMessageFields.validate, Raising.bind_eq_ok, Raising.pure_eq_ok] at h
  obtain ⟨toolCallId, hid, _, hpayload, rfl⟩ := h
  have hstable : normalizeToolCallId toolCallId = .ok toolCallId := by
    cases hfields : fields.toolCallId with
    | none =>
      rw [hfields] at hid
      cases hid
      rfl
    | some value =>
      rw [hfields] at hid
      simp only [normalizeToolCallId, Raising.bind_eq_ok, Raising.raiseIf_eq_ok,
        Raising.pure_eq_ok] at hid
      obtain ⟨_, hne, rfl⟩ := hid
      simp only [normalizeToolCallId, strip_strip, Raising.bind_eq_ok, Raising.raiseIf_eq_ok,
        Raising.pure_eq_ok]
      exact ⟨⟨⟩, hne, trivial⟩
  simp only [AgentMessageFields.validate, hstable, strip_strip, Raising.bind_eq_ok,
    Raising.pure_eq_ok, Except.ok.injEq]
  exact ⟨toolCallId, rfl, _, hpayload, rfl⟩

/-- `AgentMessage(...)`. -/
def AgentMessage.make (fields : AgentMessageFields) : Except Failure AgentMessage :=
  Validated.make AgentMessageFields.validate_stable fields

theorem MessageRole.system_plain : system = system ∨ system = user :=
  .inl rfl

theorem MessageRole.user_plain : user = system ∨ user = user :=
  .inr rfl

/-- The message of a system or a user with a content, which the constructor strips. -/
def AgentMessage.ofText (role : MessageRole) (content : String)
    (hrole : role = .system ∨ role = .user) (hne : strip content ≠ "") : AgentMessage :=
  ⟨{ role, content := strip content }, by
    rcases hrole with rfl | rfl <;>
      simp only [AgentMessageFields.validate, AgentMessageFields.validateRolePayload,
        normalizeToolCallId, strip_strip, Raising.bind_eq_ok, Raising.raiseIf_eq_ok,
        Raising.pure_eq_ok] <;>
      exact ⟨_, rfl, ⟨⟩, ⟨⟨⟩, hne, by simp⟩, rfl⟩⟩

/-- A result has the id of a call as a message has it. -/
theorem normalizeToolCallId_of_result (result : ToolExecutionResult) :
    normalizeToolCallId (some result.val.toolCallId) = .ok (some result.val.toolCallId) := by
  have h := result.property
  simp only [ToolExecutionResultFields.validate, normalizeBoundedText, normalizeNonEmptyText,
    Raising.bind_eq_ok, Raising.raiseIf_eq_ok, Raising.pure_eq_ok] at h
  obtain ⟨id, ⟨_, -, _, hne, hid⟩, _, -, heq⟩ := h
  have hself : id = result.val.toolCallId := by rw [← heq]
  rw [hself] at hid
  simp only [normalizeToolCallId, Raising.bind_eq_ok, Raising.raiseIf_eq_ok, Raising.pure_eq_ok]
  exact ⟨⟨⟩, hne, congrArg some hid⟩

/-- A payload stands between braces. -/
theorem exists_dumps_eq (payload : ToolExecutionResultFields) :
    ∃ body, payload.dumps = '\x7b' :: body ++ ['\x7d'] :=
  ⟨_, rfl⟩

/-- A payload has no white space at its ends. -/
theorem strip_dumps (payload : ToolExecutionResultFields) :
    strip (String.ofList payload.dumps) = String.ofList payload.dumps := by
  obtain ⟨body, hbody⟩ := exists_dumps_eq payload
  rw [strip_eq_self_iff, String.toList_ofList, hbody]
  constructor
  · intro c hc
    obtain rfl : '\x7b' = c := Option.some.inj hc
    decide
  · intro c hc
    rw [List.getLast?_concat] at hc
    obtain rfl : '\x7d' = c := Option.some.inj hc
    decide

theorem dumps_ne_empty (payload : ToolExecutionResultFields) : String.ofList payload.dumps ≠ "" := by
  obtain ⟨body, hbody⟩ := exists_dumps_eq payload
  rw [hbody, Ne, ← String.toList_inj, String.toList_ofList]
  exact List.cons_ne_nil _ _

/-- The message of a result with another content.  The constructor of `AgentMessage`
keeps its fields as they are. -/
def ToolExecutionResult.message (result : ToolExecutionResult) (content : String) : AgentMessage :=
  ⟨{ role := .tool
     content := String.ofList { result.val with content }.dumps
     toolCallId := some result.val.toolCallId }, by
    have hpayload := strip_dumps { result.val with content }
    have hne := dumps_ne_empty { result.val with content }
    simp only [AgentMessageFields.validate, AgentMessageFields.validateRolePayload, hpayload,
      normalizeToolCallId_of_result, Raising.bind_eq_ok, Raising.raiseIf_eq_ok,
      Raising.pure_eq_ok, Except.ok.injEq]
    exact ⟨_, rfl, ⟨⟩, ⟨⟨⟩, by simp, ⟨⟩, hne, by simp⟩, rfl⟩⟩

end DevFlow
