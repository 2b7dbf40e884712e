/-
# Integration, conflict and repair commit messages

The texts of the messages that the merge queue and the repair service write, and
the loops over `splitlines()` that read them back: `_integration_message`,
`_conflict_message` and `_parse_metadata` of `runtime/merge_queue.py`,
`_parse_repair_metadata` of `runtime/repair_merge_queue.py`, `_repair_message` of
`runtime/integration_repair.py` and `_parse_marker_metadata` of
`runtime/conflict_classifier.py`.  `GitCommit.message` has a message as its
trailer lines; the readers of the text are the readers of these lines
(`readIntegrationMessage_shown` and the theorems behind it).

The queue runs Git in text mode, the classifier decodes the bytes itself.  Git
keeps a message as it is written, up to the line feeds at its end.

A commit of the integration history is read by two readers.  A repair commit has
the task's trailers as well, so the first takes it like any other; the second
reader tells a repair from a clean integration.
-/

import DevFlow.Library.Sha256
import DevFlow.Library.Trailers
import DevFlow.Models.TaskRecords
import DevFlow.Runtime.IntegrationRepair
import DevFlow.Runtime.MergeQueue

namespace DevFlow

open Lines (bare isLineBreak universalNewlines)

/-! ### Texts that stay on their line -/

theorem isSpace_of_isLineBreak {c : Char} (h : isLineBreak c = true) : isSpace c = true := by
  have hmem : c ∈ ['\n', '\r', '\x0b', '\x0c', '\x1c', '\x1d', '\x1e', '\x85', '\u2028',
      '\u2029'] := by
    simpa [isLineBreak] using h
  have hall : ['\n', '\r', '\x0b', '\x0c', '\x1c', '\x1d', '\x1e', '\x85', '\u2028',
      '\u2029'].all isSpace = true := by decide
  exact List.all_eq_true.1 hall c hmem

/-- A text that a trailer line keeps: it has no line break, and nothing to strip. -/
structure OnLine (text : String) : Prop where
  unbroken : ∀ c ∈ text.toList, isLineBreak c = false
  stripped : strip text = text

theorem OnLine.of_forall {text : String} (h : ∀ c ∈ text.toList, isSpace c = false) :
    OnLine text where
  unbroken c hc := by
    by_contra hbreak
    have hspace := isSpace_of_isLineBreak (by simpa using hbreak)
    rw [h c hc] at hspace
    cases hspace
  stripped := strip_eq_self h

/-- A text that is known, character by character. -/
theorem OnLine.of_all {text : String} (h : text.toList.all (fun c => !isSpace c) = true) :
    OnLine text :=
  .of_forall fun c hc => by simpa using List.all_eq_true.1 h c hc

/-- The printable characters of ASCII. -/
theorem isSpace_of_visible {c : Char} (h : 33 ≤ c.toNat ∧ c.toNat ≤ 126) : isSpace c = false := by
  simp only [isSpace, Bool.or_eq_false_iff, Bool.and_eq_false_iff, decide_eq_false_iff_not]
  omega

theorem isTaskIdChar_of_isTaskId {s : String} (h : isTaskId s = true) :
    ∀ c ∈ s.toList, isTaskIdChar c = true := by
  intro c hc
  unfold isTaskId at h
  cases hs : s.toList with
  | nil => simp [hs] at hc
  | cons d rest =>
    simp only [hs, Bool.and_eq_true] at h
    rw [hs] at hc
    rcases List.mem_cons.1 hc with rfl | hc
    · simp [isTaskIdChar, h.1.1]
    · exact List.all_eq_true.1 h.1.2 c hc

theorem OnLine.of_isTaskId {s : String} (h : isTaskId s = true) : OnLine s :=
  .of_forall fun c hc => isSpace_of_isTaskIdChar (isTaskIdChar_of_isTaskId h c hc)

theorem OnLine.of_isFullOid {s : String} (h : isFullOid s = true) : OnLine s := by
  simp only [isFullOid, Bool.and_eq_true, List.all_eq_true] at h
  refine .of_forall fun c hc => isSpace_of_visible ?_
  have hhex := h.1.1 c hc
  simp only [Char.isDigit, Bool.or_eq_true, Bool.and_eq_true, decide_eq_true_eq, ge_iff_le,
    UInt32.le_iff_toNat_le, Char.le_def] at hhex
  rcases hhex with (hhex | hhex) | hhex
  all_goals
    simp at hhex
    omega

/-- An object id as `_COMMIT_PATTERN` asks for it. -/
def ObjectId := {s : String // isFullOid s = true}

/-- A SHA-256 fingerprint. -/
def Fingerprint := {s : String // isSha256 s = true}

theorem ObjectId.onLine (id : ObjectId) : OnLine id.val :=
  .of_isFullOid id.property

theorem Fingerprint.onLine (fingerprint : Fingerprint) : OnLine fingerprint.val := by
  have h := fingerprint.property
  rw [isSha256, Bool.and_eq_true] at h
  exact .of_isFullOid (isFullOid_of_isOid h.1)

/-! ### The branch of a task -/

/-- `[A-Za-z0-9_-]`. -/
def isSlugChar (c : Char) : Bool :=
  c.isAlphanum || c == '_' || c == '-'

/-- `re.sub(r"[^A-Za-z0-9_-]+", "-", …)`: a run of other characters is one hyphen. -/
def dashRuns (inRun : Bool) : List Char → List Char
  | [] => []
  | c :: rest =>
    if isSlugChar c then c :: dashRuns false rest
    else if inRun then dashRuns true rest
    else '-' :: dashRuns true rest

/-- `.strip("-_")`. -/
def stripDashes (text : List Char) : List Char :=
  ((text.dropWhile fun c => c = '-' ∨ c = '_').reverse.dropWhile fun c => c = '-' ∨ c = '_').reverse

/-- `slug` of `TaskWorktreeManager.record_for`, before it is cut. -/
def slugText (taskId : String) : List Char :=
  match (stripDashes (dashRuns false taskId.toList)).map Char.toLower with
  | [] => "task".toList
  | slug => slug

/-- `branch_name` of `TaskWorktreeManager.record_for`. -/
def taskBranchName (taskId : String) : String :=
  String.ofList ("devflow/task/".toList ++ (slugText taskId).take 48 ++ '-' ::
    (Sha256.digest taskId.toList).toList.take 12)

theorem isSlugChar_of_mem_dashRuns {inRun : Bool} {text : List Char} {c : Char}
    (h : c ∈ dashRuns inRun text) : isSlugChar c = true := by
  induction text generalizing inRun with
  | nil => cases h
  | cons d rest ih =>
    unfold dashRuns at h
    split_ifs at h with hslug hrun
    · rcases List.mem_cons.1 h with rfl | h
      · exact hslug
      · exact ih h
    · exact ih h
    · rcases List.mem_cons.1 h with rfl | h
      · decide
      · exact ih h

theorem mem_of_mem_stripDashes {text : List Char} {c : Char} (h : c ∈ stripDashes text) :
    c ∈ text := by
  have h := (List.dropWhile_sublist _).subset (List.mem_reverse.1 h)
  exact (List.dropWhile_sublist _).subset (List.mem_reverse.1 h)

theorem visible_of_isSlugChar {c : Char} (h : isSlugChar c = true) :
    33 ≤ c.toNat ∧ c.toNat ≤ 126 := by
  simp only [isSlugChar, Bool.or_eq_true, isAlphanum_iff, beq_iff_eq] at h
  rcases h with (h | rfl) | rfl
  · omega
  all_goals decide

theorem visible_toLower {c : Char} (h : 33 ≤ c.toNat ∧ c.toNat ≤ 126) :
    33 ≤ c.toLower.toNat ∧ c.toLower.toNat ≤ 126 := by
  have hall : ∀ n < 127, 33 ≤ n →
      33 ≤ (Char.ofNat n).toLower.toNat ∧ (Char.ofNat n).toLower.toNat ≤ 126 := by
    decide +kernel
  have hlower := hall c.toNat (by omega) h.1
  rwa [Char.ofNat_toNat] at hlower

theorem visible_slugText (taskId : String) {c : Char} (h : c ∈ slugText taskId) :
    33 ≤ c.toNat ∧ c.toNat ≤ 126 := by
  unfold slugText at h
  split at h
  · have hall : "task".toList.all (fun c => decide (33 ≤ c.toNat ∧ c.toNat ≤ 126)) = true := by
      decide
    exact of_decide_eq_true (List.all_eq_true.1 hall c h)
  · obtain ⟨d, hd, rfl⟩ := List.mem_map.1 h
    exact visible_toLower
      (visible_of_isSlugChar (isSlugChar_of_mem_dashRuns (mem_of_mem_stripDashes hd)))

theorem visible_hexWord {word : ℕ} {c : Char} (h : c ∈ Sha256.hexWord word) :
    33 ≤ c.toNat ∧ c.toNat ≤ 126 := by
  obtain ⟨i, -, rfl⟩ := List.mem_map.1 h
  have hdigit : ∀ n < 16, 33 ≤ (Nat.digitChar n).toNat ∧ (Nat.digitChar n).toNat ≤ 126 := by
    decide
  exact hdigit _ (Nat.mod_lt _ (by norm_num))

theorem visible_hex (state : Sha256.State) {c : Char} (h : c ∈ state.hex.toList) :
    33 ≤ c.toNat ∧ c.toNat ≤ 126 := by
  have hwords : state.hex.toList = [state.a, state.b, state.c, state.d, state.e, state.f, state.g,
      state.h].flatMap Sha256.hexWord := by
    rw [Sha256.State.hex, String.toList_ofList]
    simp [List.append_assoc]
  rw [hwords, List.mem_flatMap] at h
  obtain ⟨word, -, hword⟩ := h
  exact visible_hexWord hword

theorem toList_taskBranchName (taskId : String) : (taskBranchName taskId).toList =
    "devflow/task/".toList ++ (slugText taskId).take 48 ++ '-' ::
      (Sha256.digest taskId.toList).toList.take 12 :=
  String.toList_ofList

/-- **The branch of a task stays on its line.** -/
theorem onLine_taskBranchName (taskId : String) : OnLine (taskBranchName taskId) := by
  have hnamespace : "devflow/task/".toList.all (fun c => !isSpace c) = true := by
    simp only [String.reduceToList]
    rfl
  refine .of_forall fun c hc => ?_
  rw [toList_taskBranchName] at hc
  simp only [List.mem_append, List.mem_cons] at hc
  rcases hc with (hc | hc) | rfl | hc
  · simpa using List.all_eq_true.1 hnamespace c hc
  · exact isSpace_of_visible (visible_slugText taskId (List.mem_of_mem_take hc))
  · decide
  · exact isSpace_of_visible (visible_hex (Sha256.hash _) (List.mem_of_mem_take hc))

/-- The name of a branch: a text that a trailer line keeps. -/
def BranchName := {s : String // OnLine s}

/-- The branch that the worktree manager names. -/
def BranchName.ofTask (taskId : String) : BranchName :=
  ⟨taskBranchName taskId, onLine_taskBranchName taskId⟩

/-! ### Messages -/

/-- The name of a key, as it stands in a line. -/
def TrailerKey.label : TrailerKey → String
  | .task => "DevFlow-Task"
  | .taskBranch => "DevFlow-Task-Branch"
  | .taskBase => "DevFlow-Task-Base"
  | .taskCommit => "DevFlow-Task-Commit"
  | .integrationRepair => "DevFlow-Integration-Repair"
  | .conflictMarker => "DevFlow-Conflict-Marker"
  | .conflictEvidenceFingerprint => "DevFlow-Conflict-Evidence-Fingerprint"
  | .policyFingerprint => "DevFlow-Policy-Fingerprint"
  | .humanDecisionCommit => "DevFlow-Human-Decision-Commit"
  | .conflictTask => "DevFlow-Conflict-Task"
  | .conflictBranch => "DevFlow-Conflict-Branch"
  | .conflictBase => "DevFlow-Conflict-Base"
  | .conflictCommit => "DevFlow-Conflict-Commit"
  | .conflictIntegrationHead => "DevFlow-Conflict-Integration-Head"

/-- The characters of the name. -/
def TrailerKey.name (key : TrailerKey) : List Char :=
  key.label.toList

/-- All keys. -/
def TrailerKey.all : List TrailerKey :=
  [.task, .taskBranch, .taskBase, .taskCommit, .integrationRepair, .conflictMarker,
    .conflictEvidenceFingerprint, .policyFingerprint, .humanDecisionCommit, .conflictTask,
    .conflictBranch, .conflictBase, .conflictCommit, .conflictIntegrationHead]

theorem TrailerKey.mem_all (key : TrailerKey) : key ∈ all := by
  cases key <;> decide

theorem TrailerKey.names : Trailers.Names TrailerKey.name where
  injective a b h := by
    have hnodup : (all.map label).Nodup := by decide +kernel
    exact List.inj_on_of_nodup_map hnodup (mem_all a) (mem_all b) (String.toList_injective h)
  colon key := by
    cases key <;> simp [TrailerKey.name, TrailerKey.label]
  free key := by
    have hall : key.name.all (fun c => !isLineBreak c) = true := by
      cases key <;> simp only [TrailerKey.name, TrailerKey.label, String.reduceToList] <;> rfl
    intro c hc
    simpa using List.all_eq_true.1 hall c hc

/-- The fields of a message. -/
def fieldsOf (message : List Trailer) : List (TrailerKey × List Char) :=
  message.map fun line => (line.key, line.value.toList)

/-- The text of a message. -/
def messageText (subject : String) (message : List Trailer) : List Char :=
  Trailers.text TrailerKey.name subject.toList (fieldsOf message)

/-- What `git show -s --format=%B` prints of a message: the message and line feeds. -/
def shown (text : List Char) (feeds : ℕ) : List Char :=
  text ++ List.replicate feeds '\n'

/-- `_integration_message`. -/
def integrationText (metadata : TaskMetadata) : List Char :=
  messageText ("DevFlow integrate " ++ metadata.task) (MergeQueue.integrationMessage metadata)

/-- `_conflict_message`. -/
def conflictText (metadata : TaskMetadata) (integrationHead : String) : List Char :=
  messageText ("DevFlow integration conflict for " ++ metadata.task)
    (MergeQueue.conflictMessage metadata integrationHead)

/-- The trailer lines of a repair. -/
def repairTrailers (metadata : TaskMetadata) (repair : RepairMetadata) : List Trailer :=
  [⟨.task, metadata.task⟩, ⟨.taskBranch, metadata.branch⟩, ⟨.taskBase, metadata.base⟩,
    ⟨.taskCommit, metadata.commit⟩, ⟨.integrationRepair, "true"⟩,
    ⟨.conflictMarker, repair.conflictMarker⟩,
    ⟨.conflictEvidenceFingerprint, repair.evidenceFingerprint⟩,
    ⟨.policyFingerprint, repair.policyFingerprint⟩,
    ⟨.humanDecisionCommit, repair.humanDecisionCommit⟩]

/-- `_repair_message`. -/
def repairText (metadata : TaskMetadata) (repair : RepairMetadata) : List Char :=
  messageText ("DevFlow repair integration conflict for " ++ metadata.task)
    (repairTrailers metadata repair)

/-- What the repair service writes. -/
theorem repairMessage_eq (gate : IntegrationGateSnapshot) (decision : HumanIntegrationDecision)
    (worker : SuccessfulWorker) :
    repairMessage gate decision worker =
      repairTrailers ⟨gate.taskId, worker.branchName, worker.baseCommit, gate.taskCommit⟩
        ⟨gate.conflictMarkerCommit, gate.evidenceFingerprint, gate.policyFingerprint,
          decision.decisionCommit⟩ :=
  rfl

/-! ### The readers -/

/-- `str.strip` on characters. -/
def strippedText (text : List Char) : List Char :=
  (strip (String.ofList text)).toList

/-- `message.splitlines()` in text mode. -/
def messageLines (stdout : List Char) : List (List Char) :=
  bare isLineBreak (universalNewlines stdout)

/-- The loop of `_parse_metadata`. -/
def readMetadata (stdout : List Char) (keys : List TrailerKey) (label : String) :
    Except Failure (TrailerKey → List Char) :=
  Trailers.parse TrailerKey.name strippedText keys
    (queueError (label ++ " contains duplicate DevFlow metadata"))
    (queueError (label ++ " is missing required DevFlow metadata")) (messageLines stdout)

/-- `_parse_integration_message`, on what Git prints. -/
def readIntegrationMessage (stdout : List Char) : Except Failure TaskMetadata := do
  let value ← readMetadata stdout [.task, .taskBranch, .taskBase, .taskCommit]
    "integration commit"
  let text := fun key => String.ofList (value key)
  requireFullOid (text .taskBase) "recorded task base"
  requireFullOid (text .taskCommit) "recorded task commit"
  return ⟨text .task, text .taskBranch, text .taskBase, text .taskCommit⟩

/-- `_parse_conflict_message`, on what Git prints. -/
def readConflictMessage (stdout : List Char) : Except Failure (TaskMetadata × String) := do
  let value ← readMetadata stdout
    [.conflictTask, .conflictBranch, .conflictBase, .conflictCommit, .conflictIntegrationHead]
    "integration conflict marker"
  let text := fun key => String.ofList (value key)
  requireFullOid (text .conflictBase) "recorded task base"
  requireFullOid (text .conflictCommit) "recorded task commit"
  requireFullOid (text .conflictIntegrationHead) "recorded integration head"
  return (⟨text .conflictTask, text .conflictBranch, text .conflictBase, text .conflictCommit⟩,
    text .conflictIntegrationHead)

/-- `_REPAIR_FLAG`. -/
def repairFlag : List Char :=
  Trailers.render TrailerKey.name (.integrationRepair, "true".toList)

/-- `_parse_repair_metadata`, on what Git prints. -/
def readRepairMetadata (stdout : List Char) : Except Failure (Option RepairMetadata) :=
  let lines := messageLines stdout
  if repairFlag ∉ lines then do
    Raising.raiseIf (∃ line ∈ lines, ∃ key ∈ repairKeys, Trailers.prefixOf TrailerKey.name key <+: line)
      (queueError "integration commit contains incomplete repair metadata")
    return none
  else do
    let value ← Trailers.parse TrailerKey.name strippedText repairKeys
      (queueError "integration repair commit contains duplicate metadata")
      (queueError "integration repair commit is missing required metadata") lines
    let text := fun key => String.ofList (value key)
    return some ⟨text .conflictMarker, text .conflictEvidenceFingerprint,
      text .policyFingerprint, text .humanDecisionCommit⟩

/-- What `_recover_existing_history` reads of a commit: whose it is, and whether it is
a repair. -/
def readHistoryMessage (stdout : List Char) :
    Except Failure (TaskMetadata × Option RepairMetadata) := do
  let metadata ← readIntegrationMessage stdout
  let repair ← readRepairMetadata stdout
  return (metadata, repair)

/-- A `MergeConflictClassificationError`. -/
def classificationError (message : String) : Failure :=
  ⟨.runtimeError, message⟩

/-- `_require_oid` of the classifier. -/
def requireMarkerOid (value label : String) : Except Failure Unit :=
  Raising.raiseIf (isFullOid value = false)
    (classificationError (label ++ " is not a full Git object id"))

/-- `_parse_marker_metadata` of the classifier, which decodes the bytes itself. -/
def readMarkerMetadata (stdout : List Char) : Except Failure (TaskMetadata × String) := do
  let value ← Trailers.parse TrailerKey.name strippedText
    [.conflictTask, .conflictBranch, .conflictBase, .conflictCommit, .conflictIntegrationHead]
    (classificationError "conflict marker contains duplicate DevFlow metadata")
    (classificationError "conflict marker is missing required DevFlow metadata")
    (bare isLineBreak stdout)
  let text := fun key => String.ofList (value key)
  requireMarkerOid (text .conflictBase) "conflict marker task base"
  requireMarkerOid (text .conflictCommit) "conflict marker task commit"
  requireMarkerOid (text .conflictIntegrationHead) "conflict marker integration head"
  return (⟨text .conflictTask, text .conflictBranch, text .conflictBase, text .conflictCommit⟩,
    text .conflictIntegrationHead)

/-! ### The readers of a text are the readers of its trailer lines -/

/-- A subject that starts with `DevFlow` and a blank is no line of a key. -/
theorem not_prefixOf_subject {κ : Type} {name : κ → List Char} {subject : List Char} (key : κ)
    (hname : (name key).take 8 = "DevFlow-".toList) (hsubject : subject.take 8 = "DevFlow ".toList) :
    ¬Trailers.prefixOf name key <+: subject := by
  rintro ⟨rest, hrest⟩
  have hlength : 8 ≤ (name key).length := by
    have h := congrArg List.length hname
    rw [List.length_take] at h
    simp only [String.reduceToList, List.length_cons, List.length_nil] at h
    omega
  have hsame := congrArg (List.take 8) hrest
  rw [Trailers.prefixOf, List.append_assoc, List.take_append_of_le_length hlength, hname,
    hsubject] at hsame
  simp at hsame

/-- **A message that is written in lines**: the subject starts like no trailer, and the
values stay on their lines. -/
theorem written_messageText {verb task : String} {message : List Trailer}
    (hverb : verb.toList.take 8 = "DevFlow ".toList)
    (hfree : verb.toList.all (fun c => !isLineBreak c) = true) (htask : OnLine task)
    (hvalues : ∀ line ∈ message, OnLine line.value) (hne : message ≠ []) :
    Trailers.Written TrailerKey.name (verb ++ task).toList (fieldsOf message) where
  names := TrailerKey.names
  subject_free c hc := by
    rw [String.toList_append, List.mem_append] at hc
    rcases hc with hc | hc
    · simpa using List.all_eq_true.1 hfree c hc
    · exact htask.unbroken c hc
  subject_plain key := by
    have hlength : 8 ≤ verb.toList.length := by
      have h := congrArg List.length hverb
      rw [List.length_take] at h
      simp only [String.reduceToList, List.length_cons, List.length_nil] at h
      omega
    refine not_prefixOf_subject key (by cases key <;> simp [TrailerKey.name, TrailerKey.label]) ?_
    rw [String.toList_append, List.take_append_of_le_length hlength, hverb]
  values_free field hfield := by
    obtain ⟨line, hline, rfl⟩ := List.mem_map.1 hfield
    exact (hvalues line hline).unbroken
  nonempty := by simpa [fieldsOf] using hne

section Shown

variable {subject : String} {message : List Trailer}

/-- Text mode keeps what Git prints of a message. -/
theorem messageLines_shown (h : Trailers.Written TrailerKey.name subject.toList (fieldsOf message))
    (feeds : ℕ) :
    messageLines (shown (messageText subject message) feeds) =
      bare isLineBreak (shown (messageText subject message) feeds) := by
  have hfree : '\r' ∉ shown (messageText subject message) feeds := by
    rw [shown, List.mem_append, not_or]
    refine ⟨h.not_mem_text (by decide) (by decide), fun hmem => ?_⟩
    exact absurd (List.eq_of_mem_replicate hmem) (by decide)
  rw [messageLines, Lines.universalNewlines_of_not_mem hfree]

/-- **The lines of a key** are the trailer lines, stripped. -/
theorem values_shown (h : Trailers.Written TrailerKey.name subject.toList (fieldsOf message))
    (key : TrailerKey) (feeds : ℕ) :
    Trailers.values TrailerKey.name strippedText key
        (bare isLineBreak (shown (messageText subject message) feeds)) =
      (trailers message key).map fun value => (strip value).toList := by
  rw [shown, messageText, Trailers.values_text h, fieldsOf, List.filter_map, List.map_map,
    trailers, List.map_map]
  simp [Function.comp_def, strippedText]

/-- **What a reader does with a message:** it counts the trailer lines of its keys. -/
theorem parse_shown (h : Trailers.Written TrailerKey.name subject.toList (fieldsOf message))
    {keys : List TrailerKey} (hkeys : keys.Nodup) (duplicate missing : Failure) (feeds : ℕ) :
    Trailers.parse TrailerKey.name strippedText keys duplicate missing
        (bare isLineBreak (shown (messageText subject message) feeds)) = (do
      Raising.raiseIf (∃ key ∈ keys, 1 < (trailers message key).length) duplicate
      Raising.raiseIf (∃ key ∈ keys, trailers message key = []) missing
      return fun key =>
        if key ∈ keys then (strip ((trailers message key).headD "")).toList else []) := by
  have hhead : ∀ values : List String,
      (values.map fun value => (strip value).toList).headD [] =
        (strip (values.headD "")).toList := by
    intro values
    cases values <;> rfl
  rw [Trailers.parse_eq hkeys]
  simp only [values_shown h, List.length_map, List.map_eq_nil_iff, hhead]

/-- `_parse_integration_message`. -/
theorem readIntegrationMessage_shown
    (h : Trailers.Written TrailerKey.name subject.toList (fieldsOf message)) (feeds : ℕ) :
    readIntegrationMessage (shown (messageText subject message) feeds) =
      parseIntegrationMessage message := by
  rw [readIntegrationMessage, readMetadata, messageLines_shown h, parse_shown h (by decide),
    parseIntegrationMessage, parseMetadata]
  simp

/-- `_parse_conflict_message`. -/
theorem readConflictMessage_shown
    (h : Trailers.Written TrailerKey.name subject.toList (fieldsOf message)) (feeds : ℕ) :
    readConflictMessage (shown (messageText subject message) feeds) =
      parseConflictMessage message := by
  rw [readConflictMessage, readMetadata, messageLines_shown h, parse_shown h (by decide),
    parseConflictMessage, parseMetadata]
  simp

/-- The flag of a repair is one of the trailer lines. -/
theorem repairFlag_mem_iff
    (h : Trailers.Written TrailerKey.name subject.toList (fieldsOf message)) (feeds : ℕ) :
    repairFlag ∈ bare isLineBreak (shown (messageText subject message) feeds) ↔
      (⟨.integrationRepair, "true"⟩ : Trailer) ∈ message := by
  have hsubject : repairFlag ≠ subject.toList := by
    intro heq
    exact h.subject_plain .integrationRepair (heq ▸ List.prefix_append _ _)
  have hempty : repairFlag ≠ [] := Trailers.render_ne_nil _
  rw [shown, messageText, Trailers.bare_text h]
  simp only [List.cons_append, List.mem_cons, List.mem_append, hsubject, hempty, false_or,
    List.mem_replicate, and_false, or_false, List.mem_map]
  constructor
  · rintro ⟨field, hfield, hrender⟩
    obtain rfl := Trailers.render_injective TrailerKey.names hrender
    obtain ⟨line, hline, hsame⟩ := List.mem_map.1 hfield
    have hkey : line.key = .integrationRepair := congrArg Prod.fst hsame
    have hvalue : line.value = "true" := String.toList_injective (congrArg Prod.snd hsame)
    rw [← hkey, ← hvalue]
    exact hline
  · intro hline
    exact ⟨_, List.mem_map.2 ⟨_, hline, rfl⟩, rfl⟩

/-- `_parse_repair_metadata`. -/
theorem readRepairMetadata_shown
    (h : Trailers.Written TrailerKey.name subject.toList (fieldsOf message)) (feeds : ℕ) :
    readRepairMetadata (shown (messageText subject message) feeds) =
      parseRepairMetadata message := by
  have hincomplete : (∃ line ∈ bare isLineBreak (shown (messageText subject message) feeds),
      ∃ key ∈ repairKeys, Trailers.prefixOf TrailerKey.name key <+: line) ↔
        ∃ key ∈ repairKeys, trailers message key ≠ [] := by
    constructor
    · rintro ⟨line, hline, key, hkey, hstart⟩
      refine ⟨key, hkey, fun hnone => ?_⟩
      have hvalues := values_shown h key feeds
      rw [hnone, List.map_nil] at hvalues
      exact Trailers.values_ne_nil_iff.2 ⟨line, hline, hstart⟩ hvalues
    · rintro ⟨key, hkey, hsome⟩
      have hvalues : Trailers.values TrailerKey.name strippedText key
          (bare isLineBreak (shown (messageText subject message) feeds)) ≠ [] := by
        rw [values_shown h]
        simpa using hsome
      obtain ⟨line, hline, hstart⟩ := Trailers.values_ne_nil_iff.1 hvalues
      exact ⟨line, hline, key, hkey, hstart⟩
  unfold readRepairMetadata parseRepairMetadata
  simp only [messageLines_shown h, repairFlag_mem_iff h, hincomplete]
  rw [parse_shown h (by decide)]
  simp [repairKeys]

/-- `_parse_marker_metadata` reads what `_parse_conflict_message` reads. -/
theorem readMarkerMetadata_shown
    (h : Trailers.Written TrailerKey.name subject.toList (fieldsOf message)) (feeds : ℕ)
    {metadata : TaskMetadata × String} :
    readMarkerMetadata (shown (messageText subject message) feeds) = .ok metadata ↔
      parseConflictMessage message = .ok metadata := by
  rw [readMarkerMetadata, parse_shown h (by decide), parseConflictMessage, parseMetadata]
  simp [requireMarkerOid, requireFullOid, Raising.map_eq_ok]

end Shown

/-! ### Round trips -/

/-- The identity of a task: a contract, its branch and its commits. -/
structure TaskIdentity where
  task : TaskContractRecord
  branch : BranchName
  base : ObjectId
  commit : ObjectId

/-- What the messages say of the task. -/
def TaskIdentity.metadata (identity : TaskIdentity) : TaskMetadata where
  task := identity.task.val.taskId
  branch := identity.branch.val
  base := identity.base.val
  commit := identity.commit.val

/-- What a repair refers to. -/
structure RepairIdentity where
  marker : ObjectId
  evidence : Fingerprint
  policy : Fingerprint
  decision : ObjectId

/-- What the message of a repair says of it. -/
def RepairIdentity.metadata (repair : RepairIdentity) : RepairMetadata where
  conflictMarker := repair.marker.val
  evidenceFingerprint := repair.evidence.val
  policyFingerprint := repair.policy.val
  humanDecisionCommit := repair.decision.val

namespace TaskIdentity

variable (identity : TaskIdentity) (repair : RepairIdentity) (head : ObjectId)

theorem onLine_task : OnLine identity.metadata.task :=
  .of_isTaskId identity.task.isTaskId

theorem onLine_branch : OnLine identity.metadata.branch :=
  identity.branch.property

theorem onLine_base : OnLine identity.metadata.base :=
  identity.base.onLine

theorem onLine_commit : OnLine identity.metadata.commit :=
  identity.commit.onLine

theorem written_integration : Trailers.Written TrailerKey.name
    ("DevFlow integrate " ++ identity.metadata.task).toList
    (fieldsOf (MergeQueue.integrationMessage identity.metadata)) := by
  refine written_messageText (by simp) (by simp only [String.reduceToList]; rfl)
    identity.onLine_task ?_ (List.cons_ne_nil _ _)
  simp only [MergeQueue.integrationMessage, List.forall_mem_cons, List.not_mem_nil,
    IsEmpty.forall_iff, implies_true, and_true]
  exact ⟨identity.onLine_task, identity.onLine_branch, identity.onLine_base,
    identity.onLine_commit⟩

theorem written_conflict : Trailers.Written TrailerKey.name
    ("DevFlow integration conflict for " ++ identity.metadata.task).toList
    (fieldsOf (MergeQueue.conflictMessage identity.metadata head.val)) := by
  refine written_messageText (by simp) (by simp only [String.reduceToList]; rfl)
    identity.onLine_task ?_ (List.cons_ne_nil _ _)
  simp only [MergeQueue.conflictMessage, List.forall_mem_cons, List.not_mem_nil,
    IsEmpty.forall_iff, implies_true, and_true]
  exact ⟨identity.onLine_task, identity.onLine_branch, identity.onLine_base,
    identity.onLine_commit, head.onLine⟩

theorem onLine_true : OnLine "true" :=
  .of_all (by decide)

theorem written_repair : Trailers.Written TrailerKey.name
    ("DevFlow repair integration conflict for " ++ identity.metadata.task).toList
    (fieldsOf (repairTrailers identity.metadata repair.metadata)) := by
  refine written_messageText (by simp) (by simp only [String.reduceToList]; rfl)
    identity.onLine_task ?_ (List.cons_ne_nil _ _)
  simp only [repairTrailers, List.forall_mem_cons, List.not_mem_nil, IsEmpty.forall_iff,
    implies_true, and_true]
  exact ⟨identity.onLine_task, identity.onLine_branch, identity.onLine_base,
    identity.onLine_commit, onLine_true,
    repair.marker.onLine, repair.evidence.onLine, repair.policy.onLine, repair.decision.onLine⟩

theorem requireFullOid_base (label : String) :
    requireFullOid identity.metadata.base label = .ok () :=
  Raising.raiseIf_of_not (by simp [metadata, identity.base.property]) _

theorem requireFullOid_commit (label : String) :
    requireFullOid identity.metadata.commit label = .ok () :=
  Raising.raiseIf_of_not (by simp [metadata, identity.commit.property]) _

/-- The trailer lines of a task's identity are read back, whatever else is there of other
keys. -/
theorem parseIntegrationMessage_of_trailers {message : List Trailer}
    (htask : trailers message .task = [identity.metadata.task])
    (hbranch : trailers message .taskBranch = [identity.metadata.branch])
    (hbase : trailers message .taskBase = [identity.metadata.base])
    (hcommit : trailers message .taskCommit = [identity.metadata.commit]) :
    parseIntegrationMessage message = .ok identity.metadata := by
  rw [parseIntegrationMessage, parseMetadata]
  simp [htask, hbranch, hbase, hcommit, identity.onLine_task.stripped,
    identity.onLine_branch.stripped, identity.onLine_base.stripped,
    identity.onLine_commit.stripped, identity.requireFullOid_base,
    identity.requireFullOid_commit, Raising.raiseIf_of_not]

theorem parseIntegrationMessage_integration :
    parseIntegrationMessage (MergeQueue.integrationMessage identity.metadata) =
      .ok identity.metadata :=
  identity.parseIntegrationMessage_of_trailers rfl rfl rfl rfl

theorem parseIntegrationMessage_repair :
    parseIntegrationMessage (repairTrailers identity.metadata repair.metadata) =
      .ok identity.metadata :=
  identity.parseIntegrationMessage_of_trailers rfl rfl rfl rfl

theorem parseRepairMetadata_integration :
    parseRepairMetadata (MergeQueue.integrationMessage identity.metadata) = .ok none := by
  simp [parseRepairMetadata, MergeQueue.integrationMessage, repairKeys, trailers,
    Raising.raiseIf_of_not, pure, Except.pure]

theorem parseRepairMetadata_repair :
    parseRepairMetadata (repairTrailers identity.metadata repair.metadata) =
      .ok (some repair.metadata) := by
  simp [parseRepairMetadata, repairTrailers, repairKeys, trailers, Raising.raiseIf_of_not,
    RepairIdentity.metadata, repair.marker.onLine.stripped, repair.evidence.onLine.stripped,
    repair.policy.onLine.stripped, repair.decision.onLine.stripped, pure, Except.pure]

theorem parseConflictMessage_conflict :
    parseConflictMessage (MergeQueue.conflictMessage identity.metadata head.val) =
      .ok (identity.metadata, head.val) := by
  have hhead : requireFullOid head.val "recorded integration head" = .ok () :=
    Raising.raiseIf_of_not (by simp [head.property]) _
  rw [parseConflictMessage, parseMetadata]
  simp [MergeQueue.conflictMessage, trailers, identity.onLine_task.stripped,
    identity.onLine_branch.stripped, identity.onLine_base.stripped,
    identity.onLine_commit.stripped, head.onLine.stripped, identity.requireFullOid_base,
    identity.requireFullOid_commit, hhead, Raising.raiseIf_of_not]

/-- A message without the trailer lines of a conflict is none. -/
theorem parseConflictMessage_eq_error {message : List Trailer}
    (h : ∀ line ∈ message, line.key ∉ [TrailerKey.conflictTask, .conflictBranch, .conflictBase,
      .conflictCommit, .conflictIntegrationHead]) :
    parseConflictMessage message =
      .error (queueError "integration conflict marker is missing required DevFlow metadata") := by
  have hnone : ∀ key ∈ [TrailerKey.conflictTask, .conflictBranch, .conflictBase,
      .conflictCommit, .conflictIntegrationHead], trailers message key = [] := by
    intro key hkey
    rw [trailers, List.map_eq_nil_iff, List.filter_eq_nil_iff]
    intro line hline heq
    exact h line hline (of_decide_eq_true heq ▸ hkey)
  rw [parseConflictMessage, parseMetadata, Raising.raiseIf_of_not, Raising.raiseIf_of]
  · rfl
  · exact ⟨.conflictTask, List.mem_cons_self, hnone _ List.mem_cons_self⟩
  · rintro ⟨key, hkey, hlength⟩
    rw [hnone key hkey] at hlength
    exact absurd hlength (by decide)

theorem parseIntegrationMessage_conflict :
    parseIntegrationMessage (MergeQueue.conflictMessage identity.metadata head.val) =
      .error (queueError "integration commit is missing required DevFlow metadata") := by
  rw [parseIntegrationMessage, parseMetadata]
  simp [MergeQueue.conflictMessage, trailers, Raising.raiseIf]

end TaskIdentity

/-- **Commit messages are read back and told apart.** A clean integration is read as one,
and a repair as one, each with what was written; a conflict marker is read back by the
queue and by the classifier; and no marker is read as an integration, nor a commit of the
history as a marker. -/
theorem commit_messages_round_trip (identity : TaskIdentity) (repair : RepairIdentity)
    (head : ObjectId) (feeds : ℕ) :
    readHistoryMessage (shown (integrationText identity.metadata) feeds) =
        .ok (identity.metadata, none) ∧
      readHistoryMessage (shown (repairText identity.metadata repair.metadata) feeds) =
        .ok (identity.metadata, some repair.metadata) ∧
      readConflictMessage (shown (conflictText identity.metadata head.val) feeds) =
        .ok (identity.metadata, head.val) ∧
      readMarkerMetadata (shown (conflictText identity.metadata head.val) feeds) =
        .ok (identity.metadata, head.val) ∧
      (∀ metadata repaired, readHistoryMessage
        (shown (conflictText identity.metadata head.val) feeds) ≠ .ok (metadata, repaired)) ∧
      (∀ marker, readConflictMessage (shown (integrationText identity.metadata) feeds) ≠
        .ok marker) ∧
      ∀ marker, readConflictMessage (shown (repairText identity.metadata repair.metadata) feeds) ≠
        .ok marker := by
  have hintegration := identity.written_integration
  have hrepair := identity.written_repair repair
  have hconflict := identity.written_conflict head
  refine ⟨?_, ?_, ?_, ?_, fun metadata repaired hread => ?_, fun marker hread => ?_,
    fun marker hread => ?_⟩
  · rw [readHistoryMessage, integrationText, readIntegrationMessage_shown hintegration,
      readRepairMetadata_shown hintegration, identity.parseIntegrationMessage_integration,
      identity.parseRepairMetadata_integration]
    rfl
  · rw [readHistoryMessage, repairText, readIntegrationMessage_shown hrepair,
      readRepairMetadata_shown hrepair, identity.parseIntegrationMessage_repair,
      identity.parseRepairMetadata_repair]
    rfl
  · rw [conflictText, readConflictMessage_shown hconflict, identity.parseConflictMessage_conflict]
  · rw [conflictText, readMarkerMetadata_shown hconflict, identity.parseConflictMessage_conflict]
  · rw [readHistoryMessage, conflictText, readIntegrationMessage_shown hconflict,
      identity.parseIntegrationMessage_conflict] at hread
    cases hread
  · rw [integrationText, readConflictMessage_shown hintegration,
      TaskIdentity.parseConflictMessage_eq_error (by simp [MergeQueue.integrationMessage])]
      at hread
    cases hread
  · rw [repairText, readConflictMessage_shown hrepair,
      TaskIdentity.parseConflictMessage_eq_error (by simp [repairTrailers])] at hread
    cases hread

end DevFlow
