/-
# Context packets

`models/context.py`: the files of a repository that an agent starts from, what is shown
of each and what was left out, and the packet of them with the usage of its budget.

The validators of a model are a check that returns what it accepts, so a snippet, a file
or a packet of this development is one that its model can be built with
(`Documents.Validated`).  What a packet is dumped as is a parameter: its fingerprint is
the digest of that text, and the check computes it again from the paths as it normalises
them.
-/

import DevFlow.Library.Sha256
import DevFlow.Library.Utf8
import DevFlow.Models.MultiRun
import DevFlow.Models.TaskRecords
import Mathlib.Algebra.Ring.Nat

namespace DevFlow

open Documents (Validated)

/-- `ContextScopeKind`. -/
inductive ContextScopeKind
  | readable
  | writable
  | readOnly
deriving DecidableEq, Repr

/-- `ContextSelectionReason`. -/
inductive ContextSelectionReason
  | changed
  | writableScope
  | readOnlyScope
  | readableScope
deriving DecidableEq, Repr

/-- `ContextTruncationReason`. -/
inductive ContextTruncationReason
  | perFileCharLimit
  | totalCharLimit
  | tokenBudget
  | fileCountLimit
  | sourceFileTooLarge
  | nonUtf8
  | pathUnavailable
deriving DecidableEq, Repr

/-- `ContextScopeMatch`. -/
structure ContextScopeMatch where
  kind : ContextScopeKind
  pattern : String
  bounds : 1 ≤ pattern.length ∧ pattern.length ≤ 500
deriving DecidableEq

/-- The constructor of `ContextScopeMatch`. -/
def ContextScopeMatch.make (kind : ContextScopeKind) (pattern : String) :
    Except Failure ContextScopeMatch :=
  if bounds : 1 ≤ pattern.length ∧ pattern.length ≤ 500 then .ok ⟨kind, pattern, bounds⟩
  else .error (boundError "pattern length is out of range")

/-! ### Snippets -/

/-- The fields of `ContextSnippet`. -/
structure ContextSnippetFields where
  startLine : ℕ
  endLine : ℕ
  content : List Char
  charCount : ℕ
  estimatedTokens : ℕ
  billableTokenEstimate : ℕ := 0
deriving DecidableEq

/-- The validators of `ContextSnippet`. -/
def ContextSnippetFields.validate (fields : ContextSnippetFields) :
    Except Failure ContextSnippetFields := do
  Raising.raiseIf (fields.startLine < 1 ∨ fields.endLine < 1)
    (boundError "Input should be greater than or equal to 1")
  Raising.raiseIf (fields.endLine < fields.startLine)
    ⟨.valueError, "snippet end_line must be greater than or equal to start_line"⟩
  Raising.raiseIf (fields.charCount ≠ fields.content.length)
    ⟨.valueError, "snippet char_count must equal the selected content length"⟩
  Raising.raiseIf (fields.estimatedTokens ≠ (Utf8.encode fields.content).length)
    ⟨.valueError, "snippet estimated_tokens must use the utf8_bytes_upper_bound estimator"⟩
  return fields

theorem ContextSnippetFields.validate_eq_ok {fields fields' : ContextSnippetFields} :
    fields.validate = .ok fields' ↔
      (1 ≤ fields.startLine ∧ fields.startLine ≤ fields.endLine ∧
        fields.charCount = fields.content.length ∧
        fields.estimatedTokens = (Utf8.encode fields.content).length) ∧ fields = fields' := by
  simp only [validate, Raising.bind_eq_ok, Raising.raiseIf_eq_ok, Raising.pure_eq_ok, not_not,
    exists_const]
  constructor
  · rintro ⟨hpos, hle, hchars, htokens, heq⟩
    exact ⟨⟨by omega, by omega, hchars, htokens⟩, heq⟩
  · rintro ⟨⟨hpos, hle, hchars, htokens⟩, heq⟩
    exact ⟨by omega, by omega, hchars, htokens, heq⟩

/-- `ContextSnippet`. -/
abbrev ContextSnippet := Validated ContextSnippetFields.validate

theorem ContextSnippetFields.validate_stable (a b : ContextSnippetFields)
    (h : a.validate = .ok b) : b.validate = .ok b := by
  have heq := (validate_eq_ok.1 h).2
  exact heq ▸ h

/-- The constructor of `ContextSnippet`. -/
def ContextSnippet.make (fields : ContextSnippetFields) : Except Failure ContextSnippet :=
  Validated.make ContextSnippetFields.validate_stable fields

/-! ### Files -/

/-- The fields of `ContextFile`. -/
structure ContextFileFields where
  path : String
  tracked : Bool
  changed : Bool
  scopeMatches : List ContextScopeMatch
  selectionReasons : List ContextSelectionReason
  sourceSha256 : String
  sourceChars : ℕ
  sourceBytes : ℕ
  snippets : List ContextSnippet
  selectedChars : ℕ
  estimatedTokens : ℕ
  billableTokenEstimate : ℕ := 0
  truncated : Bool := false

/-- The sums that `validate_aggregate_usage` compares. -/
structure ContextFileFields.Aggregated (fields : ContextFileFields) : Prop where
  selectedChars : fields.selectedChars = (fields.snippets.map (·.val.charCount)).sum
  estimatedTokens : fields.estimatedTokens = (fields.snippets.map (·.val.estimatedTokens)).sum
  billable : fields.billableTokenEstimate =
    (fields.snippets.map (·.val.billableTokenEstimate)).sum
  chars_le : fields.selectedChars ≤ fields.sourceChars
  tokens_le : fields.estimatedTokens ≤ fields.sourceBytes

/-- The validators of `ContextFile`. -/
def ContextFileFields.validate (fields : ContextFileFields) : Except Failure ContextFileFields := do
  Raising.raiseIf (fields.path.length < 1 ∨ 1000 < fields.path.length)
    (boundError "path length is out of range")
  Raising.raiseIf (fields.scopeMatches = [] ∨ fields.selectionReasons = [] ∨ fields.snippets = [])
    (boundError "List should have at least 1 item after validation")
  Raising.raiseIf (isSha256 fields.sourceSha256 = false)
    (boundError "source_sha256 should match its pattern")
  let path ← normalizeContextPath fields.path
  Raising.raiseIf (fields.selectedChars ≠ (fields.snippets.map (·.val.charCount)).sum)
    ⟨.valueError, "selected_chars must equal the sum of snippet char counts"⟩
  Raising.raiseIf (fields.estimatedTokens ≠ (fields.snippets.map (·.val.estimatedTokens)).sum)
    ⟨.valueError, "estimated_tokens must equal the sum of snippet token estimates"⟩
  Raising.raiseIf (fields.billableTokenEstimate ≠
      (fields.snippets.map (·.val.billableTokenEstimate)).sum)
    ⟨.valueError, "billable_token_estimate must equal the sum of snippet estimates"⟩
  Raising.raiseIf (fields.sourceChars < fields.selectedChars)
    ⟨.valueError, "selected_chars cannot exceed source_chars"⟩
  Raising.raiseIf (fields.sourceBytes < fields.estimatedTokens)
    ⟨.valueError, "selected token estimate cannot exceed source bytes"⟩
  return { fields with path }

theorem ContextFileFields.validate_eq_ok {fields fields' : ContextFileFields} :
    fields.validate = .ok fields' ↔
      (1 ≤ fields.path.length ∧ fields.path.length ≤ 1000) ∧
      (fields.scopeMatches ≠ [] ∧ fields.selectionReasons ≠ [] ∧ fields.snippets ≠ []) ∧
      isSha256 fields.sourceSha256 = true ∧ fields.Aggregated ∧
      ∃ path, normalizeContextPath fields.path = .ok path ∧ fields' = { fields with path } := by
  simp only [validate, Raising.bind_eq_ok, Raising.raiseIf_eq_ok, Raising.pure_eq_ok, not_not,
    exists_const, not_or, Bool.not_eq_false, Nat.not_lt]
  constructor
  · rintro ⟨hlength, hnonempty, hsha, path, hpath, hchars, htokens, hbillable, hle, hle', rfl⟩
    exact ⟨hlength, hnonempty, hsha, ⟨hchars, htokens, hbillable, hle, hle'⟩, path, hpath, rfl⟩
  · rintro ⟨hlength, hnonempty, hsha, hsums, path, hpath, rfl⟩
    exact ⟨hlength, hnonempty, hsha, path, hpath, hsums.selectedChars, hsums.estimatedTokens,
      hsums.billable, hsums.chars_le, hsums.tokens_le, rfl⟩

/-- A normalised path is not empty, and no longer than it was. -/
theorem length_normalizeContextPath {value path : String}
    (h : normalizeContextPath value = .ok path) : 1 ≤ path.length ∧ path.length ≤ value.length := by
  simp only [normalizeContextPath, Raising.bind_eq_ok, Raising.raiseIf_eq_ok,
    Raising.pure_eq_ok] at h
  obtain ⟨_, hne, _, -, _, -, _, -, _, -, rfl⟩ := h
  exact ⟨one_le_length hne, length_strip_le value⟩

theorem ContextFileFields.validate_stable (a b : ContextFileFields) (h : a.validate = .ok b) :
    b.validate = .ok b := by
  obtain ⟨hlength, hnonempty, hsha, hsums, path, hpath, rfl⟩ := validate_eq_ok.1 h
  have hle := length_normalizeContextPath hpath
  exact validate_eq_ok.2 ⟨⟨hle.1, hle.2.trans hlength.2⟩, hnonempty, hsha,
    ⟨hsums.selectedChars, hsums.estimatedTokens, hsums.billable, hsums.chars_le, hsums.tokens_le⟩,
    path, normalizeContextPath_stable _ _ hpath, rfl⟩

/-- `ContextFile`. -/
abbrev ContextFile := Validated ContextFileFields.validate

/-- The constructor of `ContextFile`. -/
def ContextFile.make (fields : ContextFileFields) : Except Failure ContextFile :=
  Validated.make ContextFileFields.validate_stable fields

/-! ### Truncations -/

/-- The fields of `ContextTruncation`. -/
structure ContextTruncationFields where
  reason : ContextTruncationReason
  path : Option String := none
  detail : String
  omittedChars : ℕ := 0
  omittedFiles : ℕ := 0

/-- The validators of `ContextTruncation`. -/
def ContextTruncationFields.validate (fields : ContextTruncationFields) :
    Except Failure ContextTruncationFields := do
  Raising.raiseIf (1000 < (fields.path.getD "").length) (boundError "path is too long")
  Raising.raiseIf (fields.detail.length < 1 ∨ 2000 < fields.detail.length)
    (boundError "detail length is out of range")
  let path ← fields.path.mapM normalizeContextPath
  return { fields with path }

theorem ContextTruncationFields.validate_eq_ok {fields fields' : ContextTruncationFields} :
    fields.validate = .ok fields' ↔
      (fields.path.getD "").length ≤ 1000 ∧
      (1 ≤ fields.detail.length ∧ fields.detail.length ≤ 2000) ∧
      ∃ path, fields.path.mapM normalizeContextPath = .ok path ∧
        fields' = { fields with path } := by
  simp only [validate, Raising.bind_eq_ok, Raising.raiseIf_eq_ok, Raising.pure_eq_ok,
    exists_const, not_or, Nat.not_lt]
  constructor
  · rintro ⟨hlength, hdetail, path, hpath, rfl⟩
    exact ⟨hlength, hdetail, path, hpath, rfl⟩
  · rintro ⟨hlength, hdetail, path, hpath, rfl⟩
    exact ⟨hlength, hdetail, path, hpath, rfl⟩

theorem mapM_normalizeContextPath {value path : Option String}
    (h : value.mapM normalizeContextPath = .ok path) :
    path.mapM normalizeContextPath = .ok path ∧ (path.getD "").length ≤ (value.getD "").length := by
  cases value with
  | none =>
    obtain rfl := Except.ok.inj h
    exact ⟨rfl, le_rfl⟩
  | some value =>
    obtain ⟨path', hpath, rfl⟩ := Raising.map_eq_ok.1 h
    refine ⟨?_, (length_normalizeContextPath hpath).2⟩
    exact Raising.map_eq_ok.2 ⟨path', normalizeContextPath_stable _ _ hpath, rfl⟩

theorem ContextTruncationFields.validate_stable (a b : ContextTruncationFields)
    (h : a.validate = .ok b) : b.validate = .ok b := by
  obtain ⟨hlength, hdetail, path, hpath, rfl⟩ := validate_eq_ok.1 h
  obtain ⟨hsame, hle⟩ := mapM_normalizeContextPath hpath
  exact validate_eq_ok.2 ⟨hle.trans hlength, hdetail, path, hsame, rfl⟩

/-- `ContextTruncation`. -/
abbrev ContextTruncation := Validated ContextTruncationFields.validate

/-- The constructor of `ContextTruncation`. -/
def ContextTruncation.make (fields : ContextTruncationFields) : Except Failure ContextTruncation :=
  Validated.make ContextTruncationFields.validate_stable fields

/-! ### The budget and its usage -/

/-- `ContextBudget`. -/
structure ContextBudget where
  maxFiles : ℕ := 12
  maxCharsPerFile : ℕ := 8000
  maxTotalChars : ℕ := 24000
  maxEstimatedTokens : ℕ := 32000
  maxSourceFileBytes : ℕ := 1000000
  files_bounds : 1 ≤ maxFiles ∧ maxFiles ≤ 100 := by decide
  perFile_bounds : 100 ≤ maxCharsPerFile ∧ maxCharsPerFile ≤ 100000 := by decide
  total_bounds : 100 ≤ maxTotalChars ∧ maxTotalChars ≤ 500000 := by decide
  tokens_bounds : 100 ≤ maxEstimatedTokens ∧ maxEstimatedTokens ≤ 500000 := by decide
  bytes_bounds : 1024 ≤ maxSourceFileBytes ∧ maxSourceFileBytes ≤ 10000000 := by decide

/-- The fields of `ContextUsage`. -/
structure ContextUsageFields where
  candidateFiles : ℕ
  selectedFiles : ℕ
  selectedChars : ℕ
  estimatedTokens : ℕ
  truncatedFiles : ℕ
  omittedFiles : ℕ
  reusedFiles : ℕ := 0
  trimmedFiles : ℕ := 0
  contextWindowUnits : ℕ := 0
  billableContentTokens : ℕ := 0
  billablePromptTokens : ℕ := 0
  promptEstimatedTokens : ℕ := 0
deriving DecidableEq, Repr

/-- `validate_prompt_estimate`. -/
def ContextUsageFields.validate (fields : ContextUsageFields) :
    Except Failure ContextUsageFields := do
  Raising.raiseIf (fields.contextWindowUnits ≠ 0 ∧
      fields.contextWindowUnits ≠ fields.estimatedTokens)
    ⟨.valueError, "context_window_units must match the safety estimate"⟩
  Raising.raiseIf (fields.billablePromptTokens < fields.billableContentTokens)
    ⟨.valueError, "billable prompt estimate cannot be smaller than selected content"⟩
  return fields

theorem ContextUsageFields.validate_stable (a b : ContextUsageFields) (h : a.validate = .ok b) :
    b.validate = .ok b := by
  have heq : a = b := by
    simp only [validate, Raising.bind_eq_ok, Raising.pure_eq_ok] at h
    obtain ⟨_, -, _, -, rfl⟩ := h
    rfl
  exact heq ▸ h

/-- `ContextUsage`. -/
abbrev ContextUsage := Validated ContextUsageFields.validate

/-- The constructor of `ContextUsage`. -/
def ContextUsage.make (fields : ContextUsageFields) : Except Failure ContextUsage :=
  Validated.make ContextUsageFields.validate_stable fields

/-! ### Packets -/

/-- What the fingerprint of a packet is about. -/
structure ContextPacketPayload where
  taskId : String
  objective : String
  acceptanceCriteria : List String
  readableFiles : List String := []
  writableFiles : List String
  readonlyFiles : List String := []
  repositoryHead : String
  repositorySummaryVersion : String := "repository_summary_v1"
  repositorySummary : String := ""
  resume : Option ContinuationStateRecord := none
  changedFiles : List String := []
  repositoryMap : List String := []
  selectedFiles : List ContextFile := []
  truncations : List ContextTruncation := []
  budget : ContextBudget
  usage : ContextUsage
  selectionStrategy : String := "changed>writable>read_only>readable>path"
  snippetStrategy : String := "deterministic_prefix"
  tokenEstimator : String := "utf8_bytes_upper_bound"

/-- `json.dumps(payload, ensure_ascii=False, sort_keys=True, separators=(",", ":"))`. -/
abbrev PacketDump := ContextPacketPayload → List Char

/-- `_canonical_fingerprint`. -/
def ContextPacketPayload.canonicalFingerprint (dump : PacketDump) (payload : ContextPacketPayload) :
    String :=
  Sha256.digest (dump payload)

/-- The fields of `ContextPacket`. -/
structure ContextPacketFields extends ContextPacketPayload where
  fingerprint : String

/-- `validate_changed_paths` and `validate_repository_map`. -/
def normalizeSortedPaths (name : String) (values : List String) : Except Failure (List String) := do
  let normalized ← values.mapM normalizeContextPath
  Raising.raiseIf (¬normalized.Pairwise (· < ·))
    ⟨.valueError, name ++ " must be sorted and unique"⟩
  return normalized

/-- What `validate_packet_usage_and_fingerprint` compares. -/
def ContextPacketFields.checkUsage (dump : PacketDump) (fields : ContextPacketFields) :
    Except Failure Unit := do
  let files := fields.selectedFiles.map (·.val)
  let usage := fields.usage.val
  Raising.raiseIf (¬(files.map ContextFileFields.path).Nodup)
    ⟨.valueError, "selected_files must not contain duplicate paths"⟩
  Raising.raiseIf (usage.selectedFiles ≠ files.length)
    ⟨.valueError, "usage.selected_files must match selected_files length"⟩
  Raising.raiseIf (usage.selectedChars ≠ (files.map ContextFileFields.selectedChars).sum)
    ⟨.valueError, "usage.selected_chars must match selected file usage"⟩
  Raising.raiseIf (usage.estimatedTokens ≠ (files.map ContextFileFields.estimatedTokens).sum)
    ⟨.valueError, "usage.estimated_tokens must match selected file usage"⟩
  Raising.raiseIf (fields.budget.maxTotalChars < usage.selectedChars)
    ⟨.valueError, "packet exceeds max_total_chars"⟩
  Raising.raiseIf (fields.budget.maxEstimatedTokens < usage.estimatedTokens)
    ⟨.valueError, "packet exceeds max_estimated_tokens"⟩
  Raising.raiseIf (fields.budget.maxFiles < usage.selectedFiles)
    ⟨.valueError, "packet exceeds max_files"⟩
  Raising.raiseIf (usage.trimmedFiles ≠ usage.truncatedFiles)
    ⟨.valueError, "trimmed_files must match truncated_files"⟩
  Raising.raiseIf (fields.fingerprint ≠ fields.toContextPacketPayload.canonicalFingerprint dump)
    ⟨.valueError, "ContextPacket fingerprint does not match its canonical payload"⟩

/-- The validators of `ContextPacket`. -/
def ContextPacketFields.validate (dump : PacketDump) (fields : ContextPacketFields) :
    Except Failure ContextPacketFields := do
  Raising.raiseIf (isTaskId fields.taskId = false) (boundError "task_id should match its pattern")
  Raising.raiseIf (fields.objective.length < 1 ∨ 4000 < fields.objective.length)
    (boundError "objective length is out of range")
  Raising.raiseIf (fields.acceptanceCriteria = [] ∨ fields.writableFiles = [])
    (boundError "List should have at least 1 item after validation")
  Raising.raiseIf (isOid fields.repositoryHead = false)
    (boundError "repository_head should match its pattern")
  Raising.raiseIf (fields.repositorySummaryVersion.length < 1 ∨
      64 < fields.repositorySummaryVersion.length)
    (boundError "repository_summary_version length is out of range")
  Raising.raiseIf (16000 < fields.repositorySummary.length)
    (boundError "repository_summary is too long")
  Raising.raiseIf (80 < fields.repositoryMap.length)
    (boundError "repository_map has too many items")
  Raising.raiseIf (isSha256 fields.fingerprint = false)
    (boundError "fingerprint should match its pattern")
  let changedFiles ← normalizeSortedPaths "changed_files" fields.changedFiles
  let repositoryMap ← normalizeSortedPaths "repository_map" fields.repositoryMap
  let packet := { fields with changedFiles, repositoryMap }
  packet.checkUsage dump
  return packet

/-- `ContextPacket`. -/
abbrev ContextPacket (dump : PacketDump) := Validated (ContextPacketFields.validate dump)

theorem normalizeSortedPaths_eq_ok {name : String} {values normalized : List String} :
    normalizeSortedPaths name values = .ok normalized ↔
      values.mapM normalizeContextPath = .ok normalized ∧ normalized.Pairwise (· < ·) := by
  simp only [normalizeSortedPaths, Raising.bind_eq_ok, Raising.raiseIf_eq_ok, not_not,
    Raising.pure_eq_ok, exists_const]
  constructor
  · rintro ⟨_, hmap, hsorted, rfl⟩
    exact ⟨hmap, hsorted⟩
  · rintro ⟨hmap, hsorted⟩
    exact ⟨normalized, hmap, hsorted, rfl⟩

theorem ContextPacketFields.validate_stable (dump : PacketDump) (a b : ContextPacketFields)
    (h : a.validate dump = .ok b) : b.validate dump = .ok b := by
  simp only [validate, Raising.bind_eq_ok, Raising.raiseIf_eq_ok, Raising.pure_eq_ok,
    normalizeSortedPaths_eq_ok] at h ⊢
  obtain ⟨_, h₁, _, h₂, _, h₃, _, h₄, _, h₅, _, h₆, _, h₇, _, h₈, changed, ⟨hchanged, hsorted⟩, map,
    ⟨hmap, hsorted'⟩, _, husage, rfl⟩ := h
  have hlength := (Raising.mapM_eq_ok.1 hmap).length_eq
  exact ⟨⟨⟩, h₁, ⟨⟩, h₂, ⟨⟩, h₃, ⟨⟩, h₄, ⟨⟩, h₅, ⟨⟩, h₆, ⟨⟩, by dsimp only; omega, ⟨⟩, h₈, changed,
    ⟨Raising.mapM_stable normalizeContextPath_stable hchanged, hsorted⟩, map,
    ⟨Raising.mapM_stable normalizeContextPath_stable hmap, hsorted'⟩, ⟨⟩, husage, rfl⟩

/-- The constructor of `ContextPacket`. -/
def ContextPacket.make (dump : PacketDump) (fields : ContextPacketFields) :
    Except Failure (ContextPacket dump) :=
  Validated.make (ContextPacketFields.validate_stable dump) fields

/-! ### Digests -/

theorem isHex_digitChar {n : ℕ} (h : n < 16) :
    ((Nat.digitChar n).isDigit || ('a' ≤ Nat.digitChar n && Nat.digitChar n ≤ 'f')) = true := by
  revert n
  decide

theorem length_hexWord (word : ℕ) : (Sha256.hexWord word).length = 8 := by
  simp [Sha256.hexWord]

theorem isHex_of_mem_hexWord {word : ℕ} {c : Char} (h : c ∈ Sha256.hexWord word) :
    (c.isDigit || ('a' ≤ c && c ≤ 'f')) = true := by
  obtain ⟨i, -, rfl⟩ := List.mem_map.1 h
  exact isHex_digitChar (Nat.mod_lt _ (by decide))

/-- **A digest has the form that the models ask for.** -/
theorem isSha256_hex (state : Sha256.State) : isSha256 state.hex = true := by
  have hlength : state.hex.length = 64 := by
    rw [← String.length_toList, Sha256.State.hex, String.toList_ofList]
    simp [length_hexWord]
  simp only [isSha256, isOid, Bool.and_eq_true, decide_eq_true_eq, List.all_eq_true, hlength]
  refine ⟨⟨⟨fun c hc => ?_, by decide⟩, by decide⟩, trivial⟩
  rw [Sha256.State.hex, String.toList_ofList] at hc
  simp only [List.mem_append, or_assoc] at hc
  rcases hc with h | h | h | h | h | h | h | h <;> exact isHex_of_mem_hexWord h

end DevFlow
