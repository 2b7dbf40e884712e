/-
# What `git merge-tree` says of a conflict

`_parse_conflicted_merge_output` of `runtime/conflict_classifier.py` with what it
calls, and the records of `models/conflict.py` that it builds.  The output is a
sequence of fields, each with a zero byte behind it: the tree, a field for every
conflicted stage, an empty field, and then every message as the number of its
paths, the paths, a type and a text.

A path is kept as `os.fsdecode` has it.  Whether the validator of a bounded string
takes a lone surrogate is a matter of the library that validates; it is a
parameter, and what is proved holds of both answers.
-/

import DevFlow.Library.DecodeErrors
import DevFlow.Library.Groups
import DevFlow.Library.Numerals
import DevFlow.Library.Words
import DevFlow.Models.AgentMessages
import DevFlow.Runtime.CommitMessages

namespace DevFlow

open Utf8 (NameChar)

/-! ### The records -/

/-- `MergeConflictStageSide`. -/
inductive MergeConflictStageSide
  | base
  | integration
  | task
deriving DecidableEq, Repr

/-- The stage of a side. -/
def MergeConflictStageSide.stage : MergeConflictStageSide → ℕ
  | .base => 1
  | .integration => 2
  | .task => 3

/-- `_STAGE_SIDES`. -/
def stageSide (stage : ℤ) : Option MergeConflictStageSide :=
  [.base, .integration, .task].find? fun side => (side.stage : ℤ) = stage

/-- `[0-7]{6}`. -/
def isFileMode (s : String) : Bool :=
  s.toList.all (fun c => '0' ≤ c && c ≤ '7') && s.length = 6

/-- `MergeConflictStage`, whose `stage` is that of the side. -/
@[ext]
structure MergeConflictStage where
  side : MergeConflictStageSide
  mode : String
  objectId : ObjectId
  isFileMode : isFileMode mode = true

/-- The order of the stages of a file. -/
def MergeConflictStage.number (stage : MergeConflictStage) : ℕ :=
  stage.side.stage

/-- `MergeConflictFile`. -/
structure MergeConflictFile where
  path : List NameChar
  stages : List MergeConflictStage
  path_length : 1 ≤ path.length ∧ path.length ≤ 4096
  stages_ne : stages ≠ []
  /-- Unique, and in the order of their numbers. -/
  ordered : (stages.map MergeConflictStage.number).Pairwise (· < ·)

/-- `MergeConflictMessage`. -/
structure MergeConflictMessage where
  conflictType : List Char
  paths : List (List NameChar)
  message : List Char
  type_length : 1 ≤ conflictType.length ∧ conflictType.length ≤ 256
  message_length : 1 ≤ message.length ∧ message.length ≤ 4096

/-- What the evidence is about: the arguments of the parser that `classify` has checked. -/
structure ConflictOrigin where
  integrationHead : ObjectId
  taskCommit : ObjectId
  conflictRef : String
  markerCommit : ObjectId
  ref_length : 1 ≤ conflictRef.length ∧ conflictRef.length ≤ 512

/-- The fields of `MergeConflictEvidence`. -/
structure MergeConflictFields extends ConflictOrigin where
  conflictedTree : ObjectId
  conflictingPaths : List (List NameChar)
  conflictTypes : List (List Char)
  files : List MergeConflictFile
  messages : List MergeConflictMessage
  rawGitEvidence : List Char
  rawGitEvidenceTruncated : Bool

/-- `validate_evidence_consistency`, with the bounds of the fields. -/
structure MergeConflictFields.Consistent (fields : MergeConflictFields) : Prop where
  files_ne : fields.files ≠ []
  distinct : (fields.files.map MergeConflictFile.path).Nodup
  paths_eq : fields.conflictingPaths = fields.files.map MergeConflictFile.path
  types_distinct : fields.conflictTypes.Nodup
  types_backed : ∀ conflictType ∈ fields.conflictTypes,
    conflictType ∈ fields.messages.map MergeConflictMessage.conflictType
  raw_length : 1 ≤ fields.rawGitEvidence.length ∧ fields.rawGitEvidence.length ≤ 16000

instance (fields : MergeConflictFields) : Decidable fields.Consistent :=
  decidable_of_iff
    (fields.files ≠ [] ∧ (fields.files.map MergeConflictFile.path).Nodup ∧
      fields.conflictingPaths = fields.files.map MergeConflictFile.path ∧
      fields.conflictTypes.Nodup ∧
      (∀ conflictType ∈ fields.conflictTypes,
        conflictType ∈ fields.messages.map MergeConflictMessage.conflictType) ∧
      (1 ≤ fields.rawGitEvidence.length ∧ fields.rawGitEvidence.length ≤ 16000))
    ⟨fun ⟨h₁, h₂, h₃, h₄, h₅, h₆⟩ => ⟨h₁, h₂, h₃, h₄, h₅, h₆⟩,
      fun ⟨h₁, h₂, h₃, h₄, h₅, h₆⟩ => ⟨h₁, h₂, h₃, h₄, h₅, h₆⟩⟩

/-- `MergeConflictEvidence`, with all of its fields. -/
def MergeConflictRecord :=
  {fields : MergeConflictFields // fields.Consistent}

/-- The `ValidationError` of a record. -/
def recordError (model : String) : Failure :=
  ⟨.valueError, "validation error for " ++ model⟩

/-- A classifier, by its `raw_evidence_limit`, and whether a bounded string may hold a lone
surrogate. -/
structure MergeConflictClassifier where
  rawEvidenceLimit : ℕ
  limit_bounds : 256 ≤ rawEvidenceLimit ∧ rawEvidenceLimit ≤ 16000
  loneSurrogates : Bool

namespace MergeConflictClassifier

variable (classifier : MergeConflictClassifier)

/-- The validators of `MergeConflictFile`. -/
def makeFile (path : List NameChar) (stages : List MergeConflictStage) :
    Except Failure MergeConflictFile :=
  if hpath : 1 ≤ path.length ∧ path.length ≤ 4096 then
    if classifier.loneSurrogates = true ∨ Utf8.plain path = true then
      if hstages : stages ≠ [] then
        if hordered : (stages.map MergeConflictStage.number).Pairwise (· < ·) then
          .ok ⟨path, stages, hpath, hstages, hordered⟩
        else .error (recordError "MergeConflictFile")
      else .error (recordError "MergeConflictFile")
    else .error (recordError "MergeConflictFile")
  else .error (recordError "MergeConflictFile")

/-- The validators of `MergeConflictMessage`. -/
def makeMessage (conflictType : List Char) (paths : List (List NameChar)) (message : List Char) :
    Except Failure MergeConflictMessage :=
  if htype : 1 ≤ conflictType.length ∧ conflictType.length ≤ 256 then
    if hmessage : 1 ≤ message.length ∧ message.length ≤ 4096 then
      .ok ⟨conflictType, paths, message, htype, hmessage⟩
    else .error (recordError "MergeConflictMessage")
  else .error (recordError "MergeConflictMessage")

/-! ### The fields -/

/-- `bytes.decode("ascii")`. -/
def decodeAscii (bytes : List UInt8) : Option (List Char) :=
  if bytes.all (· < 128) then Utf8.decode bytes else none

/-- The white space of `bytes.split()`. -/
def isBlankByte (b : UInt8) : Bool :=
  b = 32 || (9 ≤ b && b ≤ 13)

/-- A name as an error shows it: a lone surrogate by its escape. -/
def shownName (name : List NameChar) : String :=
  String.ofList (name.flatMap fun
    | .char c => [c]
    | .surrogate b =>
      "\\udc".toList ++ [Utf8.hexDigit (b.toNat / 16), Utf8.hexDigit (b.toNat % 16)])

/-- `_decode_oid`. -/
def decodeOid (value : List UInt8) (label : String) : Except Failure ObjectId :=
  match decodeAscii value with
  | none => .error (classificationError (label ++ " is not ASCII"))
  | some decoded =>
    if h : isFullOid (String.ofList decoded) = true then .ok ⟨String.ofList decoded, h⟩
    else .error (classificationError (label ++ " is not a full Git object id"))

/-- `_decode_text`, stripped. -/
def decodeText (value : List UInt8) : List Char :=
  (strip (String.ofList (Utf8.decodeReplace value))).toList

/-- `_decode_count`. -/
def decodeCount (value : List UInt8) : Except Failure ℕ := do
  match (decodeAscii value).bind Numerals.int with
  | none => .error (classificationError "merge-tree message path count is malformed")
  | some count =>
    Raising.raiseIf (count < 0 ∨ 1000 < count)
      (classificationError "merge-tree message path count is outside the supported bound")
    return count.toNat

/-- The last checks of `_parse_stage_record`, in the order in which they are made. -/
def makeStage (number : ℤ) (mode objectId : String) : Except Failure MergeConflictStage :=
  match stageSide number with
  | none => .error
      (classificationError ("merge-tree returned unsupported conflict stage: " ++ toString number))
  | some side =>
    if hmode : DevFlow.isFileMode mode = true then
      if hoid : isFullOid objectId = true then .ok ⟨side, mode, ⟨objectId, hoid⟩, hmode⟩
      else .error (classificationError "merge-tree returned an invalid stage object id")
    else .error (classificationError "merge-tree returned an invalid file mode")

/-- `_parse_stage_record`. -/
def parseStageRecord (record : List UInt8) :
    Except Failure (List NameChar × MergeConflictStage) := do
  let metadata := record.takeWhile (· ≠ 9)
  let rawPath := record.drop (metadata.length + 1)
  Raising.raiseIf (9 ∉ record ∨ rawPath = [])
    (classificationError "merge-tree conflict stage record has an invalid path boundary")
  match Words.split isBlankByte metadata with
  | [mode, objectId, number] =>
    match decodeAscii mode, decodeAscii objectId, (decodeAscii number).bind Numerals.int with
    | some mode, some objectId, some number =>
      let stage ← makeStage number (String.ofList mode) (String.ofList objectId)
      return (Utf8.fsdecode rawPath, stage)
    | _, _, _ =>
      .error (classificationError "merge-tree conflict stage metadata is malformed")
  | _ =>
    .error (classificationError
      "merge-tree conflict stage record must contain mode, object, and stage")

/-- One round of the loop over the stage records. -/
def addStage (grouped : List (List NameChar × List MergeConflictStage)) (record : List UInt8) :
    Except Failure (List (List NameChar × List MergeConflictStage)) := do
  let parsed ← parseStageRecord record
  Raising.raiseIf (∃ row ∈ grouped, row.1 = parsed.1 ∧ ∃ item ∈ row.2, item.side = parsed.2.side)
    (classificationError ("merge-tree returned duplicate stage " ++
      toString parsed.2.number ++ " for " ++ shownName parsed.1))
  return Groups.push grouped parsed

/-- The message of a record, by its paths and its texts. -/
def readMessage (paths : List (List UInt8)) (conflictType message : List Char) :
    Except Failure MergeConflictMessage := do
  Raising.raiseIf (conflictType = [] ∨ message = [])
    (classificationError "merge-tree message record is missing type or message")
  makeMessage conflictType (paths.map Utf8.fsdecode) message

/-- The loop over the message records; `fields` is `parts[index:]`. -/
def parseMessages (fields : List (List UInt8)) : Except Failure (List MergeConflictMessage) :=
  if fields.length < 2 then .ok []
  else if fields.headD [] = [] then
    if fields.any (· ≠ []) then .error
      (classificationError "merge-tree output contains unexpected empty message records")
    else .ok []
  else
    match decodeCount (fields.headD []) with
    | .error failure => .error failure
    | .ok count =>
      if fields.tail.length < count + 2 then
        .error (classificationError "merge-tree message record is truncated")
      else do
        let message ← readMessage (fields.tail.take count)
          (decodeText (fields.tail.getD count [])) (decodeText (fields.tail.getD (count + 1) []))
        let rest ← parseMessages (fields.tail.drop (count + 2))
        return message :: rest
termination_by fields.length
decreasing_by
  simp only [List.length_drop, List.length_tail] at *
  omega

/-- `_conflict_types`. -/
def conflictTypes (messages : List MergeConflictMessage) : List (List Char) :=
  let types := messages.map MergeConflictMessage.conflictType
  let conflicts := (types.filter ("CONFLICT".toList.isPrefixOf ·)).eraseDups
  if conflicts ≠ [] then conflicts
  else (types.filter (· ≠ "Auto-merging".toList)).eraseDups

/-- `_raw_text`. -/
def rawText (value : List UInt8) : List Char :=
  (Utf8.decodeBackslash value).flatMap fun c => if c = '\x00' then ['\\', '0'] else [c]

/-- The text that stands for what was cut off. -/
def truncatedMark : List Char :=
  "\n...[truncated]".toList

/-- `_bounded_raw_evidence`. -/
def boundedRawEvidence (stdout stderr : List UInt8) : List Char × Bool :=
  let raw := "stdout=".toList ++ rawText stdout ++
    if rawText stderr = [] then [] else "\nstderr=".toList ++ rawText stderr
  if raw.length ≤ classifier.rawEvidenceLimit then (raw, false)
  else (raw.take (classifier.rawEvidenceLimit - truncatedMark.length) ++ truncatedMark, true)

/-- The stages of a file in their order. -/
def sortStages (stages : List MergeConflictStage) : List MergeConflictStage :=
  stages.insertionSort fun stage stage' => stage.number ≤ stage'.number

/-- `validate_evidence_consistency`. -/
def makeEvidence (fields : MergeConflictFields) : Except Failure MergeConflictRecord :=
  if h : fields.Consistent then .ok ⟨fields, h⟩
  else .error (recordError "MergeConflictEvidence")

/-- `_parse_conflicted_merge_output`. -/
def parseConflictedMergeOutput (origin : ConflictOrigin) (stdout stderr : List UInt8) :
    Except Failure MergeConflictRecord := do
  let parts := stdout.splitOn 0
  Raising.raiseIf (parts.length < 3 ∨ parts.getLast? ≠ some [])
    (classificationError "merge-tree -z output is not NUL terminated")
  let conflictedTree ← decodeOid (parts.headD []) "conflicted tree"
  let grouped ← (parts.tail.takeWhile (· ≠ [])).foldlM addStage []
  let rest := parts.tail.dropWhile (· ≠ [])
  Raising.raiseIf (rest = [])
    (classificationError "merge-tree output is missing the conflict-message separator")
  let messages ← parseMessages rest.tail
  Raising.raiseIf (grouped = [])
    (classificationError "merge-tree reported a conflict without staged conflict paths")
  let files ← grouped.mapM fun row => classifier.makeFile row.1 (sortStages row.2)
  let raw := classifier.boundedRawEvidence stdout stderr
  makeEvidence
    { origin with
      conflictedTree
      conflictingPaths := files.map MergeConflictFile.path
      conflictTypes := conflictTypes messages
      files
      messages
      rawGitEvidence := raw.1
      rawGitEvidenceTruncated := raw.2 }

end MergeConflictClassifier

end DevFlow
