/-
# What is kept of a failed tool call

`_safe_tool_failure_evidence` and `_tool_failure_signature` of `agents/developer.py`.  Of the
arguments of a call the evidence keeps their shape: that they are no JSON, or JSON but no
object, or an object with certain keys.  The signature of a failure is the part of its
evidence that comes after the error code, and `toolFailureSignature_eq_iff` says that it
keeps the shape and nothing else.
-/

import DevFlow.Library.Joins
import DevFlow.Library.JsonReader
import DevFlow.Models.AgentMessages

namespace DevFlow

namespace DeveloperAgent

/-- What the interpreter decides: which characters outside ASCII `str.isalnum` accepts, and
how deep `json.loads` goes before it raises a `RecursionError`. -/
structure Interpreter where
  isAlnum : Char → Bool := fun _ => false
  nestingLimit : ℕ := 990

/-- `str.isalnum` of one character. -/
def Interpreter.isAlphanumeric (interpreter : Interpreter) (c : Char) : Bool :=
  if c.toNat < 128 then c.isAlphanum else interpreter.isAlnum c

/-- The shape of the arguments of a call. -/
inductive ArgumentShape
  | invalidJson
  | jsonObject (fields : List String)
  | jsonNonObject
deriving DecidableEq, Repr

/-- `argument_state`. -/
def ArgumentShape.state : ArgumentShape → String
  | .invalidJson => "invalid_json"
  | .jsonObject _ => "json_object"
  | .jsonNonObject => "json_non_object"

/-- `fields`. -/
def ArgumentShape.fields : ArgumentShape → String
  | .jsonObject fields => ",".intercalate fields
  | _ => ""

section Evidence

variable (interpreter : Interpreter)

/-- `key.replace("_", "").isalnum()`. -/
def isFieldName (key : String) : Bool :=
  let letters := key.toList.filter (· ≠ '_')
  letters ≠ [] && letters.all interpreter.isAlphanumeric

/-- The keys of the payload that the evidence shows. -/
def fieldNames (keys : List String) : List String :=
  (((keys.filter fun key => isFieldName interpreter key).map fun key =>
    String.ofList (key.toList.take 64)).insertionSort (· ≤ ·)).take 8

/-- `json.loads(call.arguments or "{}")`. -/
def loadArguments (arguments : String) : Except JsonReader.LoadError (Option (List String)) :=
  JsonReader.loads interpreter.nestingLimit
    (if arguments = "" then "\x7b\x7d" else arguments).toList

/-- The shape of the payload; only a `JSONDecodeError` is caught. -/
def argumentShape (arguments : String) : Except Failure ArgumentShape :=
  match loadArguments interpreter arguments with
  | .ok (some keys) => .ok (.jsonObject (fieldNames interpreter keys))
  | .ok none => .ok .jsonNonObject
  | .error .malformed => .ok .invalidJson
  | .error .digits => .error ⟨.valueError,
      "Exceeds the limit (4300 digits) for integer string conversion"⟩
  | .error .recursion => .error ⟨.runtimeError, "maximum recursion depth exceeded"⟩

/-- `fields or '-'`. -/
def orHyphen (fields : String) : String :=
  if fields = "" then "-" else fields

/-- The text of a shape in the evidence. -/
def ArgumentShape.text (shape : ArgumentShape) : String :=
  shape.state ++ ";fields=" ++ orHyphen shape.fields

/-- `error_code`. -/
def errorCodeText (errorCode : Option ToolErrorCode) : String :=
  match errorCode with
  | some code => code.value
  | none => "UNKNOWN"

/-- `_safe_tool_failure_evidence`. -/
def safeToolFailureEvidence (call : ToolCall) (result : ToolExecutionResult) :
    Except Failure String := do
  let shape ← argumentShape interpreter call.val.arguments
  return "tool=" ++ result.val.name ++ ";error_code=" ++ errorCodeText result.val.errorCode ++
    ";arguments=" ++ shape.text

/-- `text.partition(separator)[2]`. -/
def partitionTail (separator : List Char) : List Char → List Char
  | [] => []
  | c :: rest =>
    if separator <+: c :: rest then (c :: rest).drop separator.length
    else partitionTail separator rest

/-- `_tool_failure_signature`. -/
def toolFailureSignature (call : ToolCall) (result : ToolExecutionResult) :
    Except Failure String := do
  let evidence ← safeToolFailureEvidence interpreter call result
  let tail := partitionTail ";arguments=".toList evidence.toList
  return if tail = [] then evidence else String.ofList tail

end Evidence

/-! ### What the signature keeps -/

section Signature

variable {interpreter : Interpreter}

/-- A separator that begins with `;` does not begin in a text without it. -/
theorem partitionTail_append {separator front rest : List Char} (h : ';' ∉ front) :
    partitionTail (';' :: separator) (front ++ rest) = partitionTail (';' :: separator) rest := by
  induction front with
  | nil => rfl
  | cons c front ih =>
    rw [List.mem_cons, not_or] at h
    have hprefix : ¬(';' :: separator) <+: c :: (front ++ rest) := fun hprefix =>
      h.1 (List.cons_prefix_cons.1 hprefix).1
    rw [List.cons_append, partitionTail, if_neg hprefix]
    exact ih h.2

theorem partitionTail_self {separator rest : List Char} (hne : separator ≠ []) :
    partitionTail separator (separator ++ rest) = rest := by
  obtain ⟨c, separator, rfl⟩ := List.exists_cons_of_ne_nil hne
  rw [List.cons_append, partitionTail, if_pos (by rw [← List.cons_append]; exact List.prefix_append _ _)]
  rw [← List.cons_append, List.drop_left]

theorem not_mem_errorCodeText (errorCode : Option ToolErrorCode) :
    ';' ∉ (errorCodeText errorCode).toList := by
  rcases errorCode with _ | code
  · decide
  · cases code <;> decide

theorem text_ne_nil (shape : ArgumentShape) : shape.text.toList ≠ [] := by
  cases shape <;> simp [ArgumentShape.text, ArgumentShape.state]

/-- **The signature is the text of the shape.**  The name of a tool has no `;`. -/
theorem toolFailureSignature_eq {call : ToolCall} {result : ToolExecutionResult}
    (hname : ';' ∉ result.val.name.toList) :
    toolFailureSignature interpreter call result =
      ArgumentShape.text <$> argumentShape interpreter call.val.arguments := by
  unfold toolFailureSignature safeToolFailureEvidence
  cases argumentShape interpreter call.val.arguments with
  | error failure => rfl
  | ok shape =>
    have hfront : ';' ∉ ("tool=".toList ++ result.val.name.toList) := by
      rw [List.mem_append, not_or]
      exact ⟨by decide, hname⟩
    have hcode : ';' ∉ "error_code=".toList ++ (errorCodeText result.val.errorCode).toList := by
      rw [List.mem_append, not_or]
      exact ⟨by decide, not_mem_errorCodeText _⟩
    have htext : ("tool=" ++ result.val.name ++ ";error_code=" ++
        errorCodeText result.val.errorCode ++ ";arguments=" ++ shape.text).toList =
        ("tool=".toList ++ result.val.name.toList) ++ (';' ::
          (("error_code=".toList ++ (errorCodeText result.val.errorCode).toList) ++
            (";arguments=".toList ++ shape.text.toList))) := by
      have hcode : ";error_code=".toList = ';' :: "error_code=".toList := by decide
      simp only [String.toList_append, hcode, List.append_assoc, List.cons_append]
    have hseparator : ";arguments=".toList = ';' :: "arguments=".toList := by decide
    have hskip (rest : List Char) : partitionTail (';' :: "arguments=".toList)
        (';' :: ("error_code=".toList ++ rest)) =
        partitionTail (';' :: "arguments=".toList) ("error_code=".toList ++ rest) := by
      have hnot : ¬(';' :: "arguments=".toList) <+: ';' :: ("error_code=".toList ++ rest) := by
        simp
      rw [partitionTail, if_neg hnot]
    have htail : partitionTail ";arguments=".toList ("tool=" ++ result.val.name ++ ";error_code=" ++
        errorCodeText result.val.errorCode ++ ";arguments=" ++ shape.text).toList =
        shape.text.toList := by
      rw [htext, hseparator, partitionTail_append hfront]
      rw [List.append_assoc, hskip, ← List.append_assoc, partitionTail_append hcode]
      exact partitionTail_self (List.cons_ne_nil _ _)
    simp only [pure, Except.pure, bind, Except.bind, htail, if_neg (text_ne_nil shape),
      String.ofList_toList]
    rfl

/-- The characters of a field name. -/
theorem isFieldName_chars {key : String} (h : isFieldName interpreter key = true) :
    key.toList ≠ [] ∧ ∀ c ∈ key.toList, c = '_' ∨ interpreter.isAlphanumeric c = true := by
  simp only [isFieldName, Bool.and_eq_true, decide_eq_true_eq, List.all_eq_true, List.mem_filter] at h
  obtain ⟨hne, hall⟩ := h
  constructor
  · intro hnil
    rw [hnil] at hne
    exact hne rfl
  · intro c hc
    by_cases hunderscore : c = '_'
    · exact .inl hunderscore
    · exact .inr (hall c ⟨hc, by simpa using hunderscore⟩)

/-- The field names of the evidence are not empty, and have no comma and no hyphen. -/
theorem fieldNames_chars {keys : List String} {name : String}
    (h : name ∈ fieldNames interpreter keys) :
    name.toList ≠ [] ∧ ',' ∉ name.toList ∧ '-' ∉ name.toList := by
  have hsorted := List.mem_of_mem_take h
  rw [List.mem_insertionSort, List.mem_map] at hsorted
  obtain ⟨key, hkey, rfl⟩ := hsorted
  obtain ⟨hne, hchars⟩ := isFieldName_chars (List.mem_filter.1 hkey).2
  rw [String.toList_ofList]
  refine ⟨?_, ?_, ?_⟩
  · rw [Ne, List.take_eq_nil_iff]
    simpa using hne
  all_goals
    intro hmem
    rcases hchars _ (List.mem_of_mem_take hmem) with h | h
    · exact absurd h (by decide)
    · exact absurd h (by rw [Interpreter.isAlphanumeric, if_pos (by decide)]; decide)

/-- The fields of the shape of some arguments. -/
theorem argumentShape_fields {arguments : String} {fields : List String}
    (h : argumentShape interpreter arguments = .ok (.jsonObject fields)) :
    ∀ name ∈ fields, name.toList ≠ [] ∧ ',' ∉ name.toList ∧ '-' ∉ name.toList := by
  unfold argumentShape at h
  split at h <;> cases h
  exact fun name hname => fieldNames_chars hname

/-- A hyphen stands for no fields only. -/
theorem orHyphen_injective {fields fields' : String} (h : fields ≠ "-") (h' : fields' ≠ "-")
    (heq : orHyphen fields = orHyphen fields') : fields = fields' := by
  unfold orHyphen at heq
  split_ifs at heq with hnil hnil' hnil'
  · rw [hnil, hnil']
  · exact absurd heq.symm h'
  · exact absurd heq h
  · exact heq

/-- The shown fields, `-` for none, are those of one list of field names. -/
theorem shownFields_injective {fields fields' : List String}
    (h : ∀ name ∈ fields, name.toList ≠ [] ∧ ',' ∉ name.toList ∧ '-' ∉ name.toList)
    (h' : ∀ name ∈ fields', name.toList ≠ [] ∧ ',' ∉ name.toList ∧ '-' ∉ name.toList)
    (heq : ArgumentShape.text (.jsonObject fields) = ArgumentShape.text (.jsonObject fields')) :
    fields = fields' := by
  have hjoined (names : List String) : (",".intercalate names).toList =
      [','].intercalate (names.map String.toList) := by
    rw [String.toList_intercalate]
    rfl
  have hempty {names : List String} (hnames : ∀ name ∈ names, name.toList ≠ []) :
      ",".intercalate names = "" ↔ names = [] := by
    rw [← String.toList_eq_nil_iff, hjoined]
    constructor
    · intro hnil
      by_contra hne
      obtain ⟨name, rest, rfl⟩ := List.exists_cons_of_ne_nil hne
      exact Joins.intercalate_ne_nil (List.mem_map_of_mem List.mem_cons_self)
        (hnames name List.mem_cons_self) hnil
    · rintro rfl
      rfl
  -- a hyphen stands for no field, and no field has one
  have hhyphen {names : List String} (hnames : ∀ name ∈ names, '-' ∉ name.toList) :
      ",".intercalate names ≠ "-" := by
    intro hname
    have hmem : '-' ∈ [','].intercalate (names.map String.toList) := by
      rw [← hjoined, hname]
      decide
    rcases Joins.mem_intercalate hmem with hmem | ⟨item, hitem, hmem⟩
    · exact absurd hmem (by decide)
    · obtain ⟨name, hname, rfl⟩ := List.mem_map.1 hitem
      exact hnames name hname hmem
  have hne := hempty fun name hname => (h name hname).1
  have hne' := hempty fun name hname => (h' name hname).1
  have hshown : ",".intercalate fields = ",".intercalate fields' :=
    orHyphen_injective (hhyphen fun name hname => (h name hname).2.2)
      (hhyphen fun name hname => (h' name hname).2.2) (String.append_right_inj _ |>.1 heq)
  by_cases hnil : fields = []
  · rw [hnil, eq_comm]
    rw [← hne', ← hshown, hne]
    exact hnil
  · have hsome : fields.map String.toList ≠ [] := by simpa using hnil
    have hsome' : fields'.map String.toList ≠ [] := by
      rw [Ne, List.map_eq_nil_iff, ← hne', ← hshown, hne]
      exact hnil
    have hlists : [','].intercalate (fields.map String.toList) =
        [','].intercalate (fields'.map String.toList) := by rw [← hjoined, ← hjoined, hshown]
    have hcomma {names : List String} (hnames : ∀ name ∈ names, ',' ∉ name.toList) :
        ∀ part ∈ names.map String.toList, ',' ∉ part := by
      simpa using hnames
    have hparts := Joins.intercalate_injective hsome hsome'
      (hcomma fun name hname => (h name hname).2.1) (hcomma fun name hname => (h' name hname).2.1)
      hlists
    exact List.map_injective_iff.2 (fun _ _ => String.toList_inj.1) hparts

/-- The state of a shape is its text up to the semicolon. -/
theorem takeWhile_text (shape : ArgumentShape) :
    shape.text.toList.takeWhile (· ≠ ';') = shape.state.toList := by
  have hfields : ";fields=".toList = ';' :: "fields=".toList := by decide
  have hstate : ∀ c ∈ shape.state.toList, c ≠ ';' := by
    have hall : shape.state.toList.all (· ≠ ';') = true := by
      cases shape <;> simp only [ArgumentShape.state] <;> decide
    simpa using hall
  rw [ArgumentShape.text, String.toList_append, String.toList_append, hfields, List.append_assoc,
    List.takeWhile_append_of_pos (by simpa using hstate)]
  simp

/-- **The text of a shape determines it.** -/
theorem text_injective {arguments arguments' : String} {shape shape' : ArgumentShape}
    (h : argumentShape interpreter arguments = .ok shape)
    (h' : argumentShape interpreter arguments' = .ok shape') (heq : shape.text = shape'.text) :
    shape = shape' := by
  have hstate : shape.state.toList = shape'.state.toList := by
    rw [← takeWhile_text, ← takeWhile_text, heq]
  cases shape <;> cases shape' <;> simp only [ArgumentShape.state] at hstate
  case jsonObject.jsonObject fields fields' =>
    rw [shownFields_injective (argumentShape_fields h) (argumentShape_fields h') heq]
  all_goals
    first
    | rfl
    | exact absurd hstate (by decide)

/-- **Two failures have one signature if and only if their arguments have one shape.** -/
theorem toolFailureSignature_eq_iff {call call' : ToolCall} {result result' : ToolExecutionResult}
    (hname : ';' ∉ result.val.name.toList) (hname' : ';' ∉ result'.val.name.toList)
    {signature signature' : String}
    (h : toolFailureSignature interpreter call result = .ok signature)
    (h' : toolFailureSignature interpreter call' result' = .ok signature') :
    signature = signature' ↔
      argumentShape interpreter call.val.arguments = argumentShape interpreter call'.val.arguments := by
  rw [toolFailureSignature_eq hname, Raising.map_eq_ok] at h
  rw [toolFailureSignature_eq hname', Raising.map_eq_ok] at h'
  obtain ⟨shape, hshape, rfl⟩ := h
  obtain ⟨shape', hshape', rfl⟩ := h'
  rw [hshape, hshape', Except.ok.injEq]
  exact ⟨text_injective hshape hshape', congrArg ArgumentShape.text⟩

end Signature

end DeveloperAgent

end DevFlow
