/-
# Bounded commit diffs

`workspace/diff.py`: `ReadOnlyCommitDiffReader.read` lists what changed between two
commits, and of each file as much of its patch as the bounds allow.

What Git writes for a command line is an argument; a command that cannot be run
raises.  Texts are decoded as `subprocess` does it: UTF-8 with replacement
characters, and every line end a newline.  `int` is the built-in.
-/

import DevFlow.Library.DecodeErrors
import DevFlow.Library.Lines
import DevFlow.Library.Raising
import DevFlow.Library.Sha256
import DevFlow.Workspace.Git
import Mathlib.Algebra.Ring.Nat
import Mathlib.Data.Int.Notation
import Mathlib.Data.List.Sort
import Mathlib.Data.List.SplitOn
import Mathlib.Data.String.Basic

namespace DevFlow

/-- `CommitDiffFileStatus`. -/
inductive CommitDiffFileStatus
  | added
  | modified
  | deleted
  | typeChanged
deriving DecidableEq, Repr

/-- `CommitDiffOmissionReason`. -/
inductive CommitDiffOmissionReason
  | binary
  | blobLimit
  | totalPatchLimit
deriving DecidableEq, Repr

/-- `CommitDiffFile`. -/
structure CommitDiffFile where
  path : String
  status : CommitDiffFileStatus
  additions : Option ℤ
  deletions : Option ℤ
  binary : Bool
  patch : Option (List Char)
  patchBytes : ℕ
  patchSha256 : Option String
  patchTruncated : Bool
  patchOmittedReason : Option CommitDiffOmissionReason
deriving DecidableEq, Repr

/-- `CommitDiffError`. -/
def commitDiffError (message : String) : Failure :=
  ⟨.runtimeError, message⟩

/-- The error of a record that its model refuses. -/
def diffRecordError (message : String) : Failure :=
  ⟨.valueError, message⟩

/-- `validate_patch_shape`, after the field constraints. -/
def CommitDiffFile.validate (file : CommitDiffFile) : Except Failure CommitDiffFile := do
  Raising.raiseIf (file.path = "") (diffRecordError "path should have at least 1 character")
  Raising.raiseIf (file.additions.any fun n => decide (n < 0))
    (diffRecordError "additions should be greater than or equal to 0")
  Raising.raiseIf (file.deletions.any fun n => decide (n < 0))
    (diffRecordError "deletions should be greater than or equal to 0")
  Raising.raiseIf (file.binary ∧ (file.additions ≠ none ∨ file.deletions ≠ none))
    (diffRecordError "binary diff entries must not claim text line counts")
  if file.patch = none then
    Raising.raiseIf (file.patchBytes ≠ 0 ∨ file.patchSha256 ≠ none)
      (diffRecordError "omitted patches must not carry patch bytes or hash")
    Raising.raiseIf (file.patchOmittedReason = none)
      (diffRecordError "omitted patches require an omission reason")
  else
    Raising.raiseIf (file.patchOmittedReason ≠ none)
      (diffRecordError "rendered patches must not carry an omission reason")
  return file

/-- `CommitDiffSnapshot`. -/
structure CommitDiffSnapshot where
  baseCommit : String
  headCommit : String
  changedFileCount : ℕ
  additions : ℤ
  deletions : ℤ
  files : List CommitDiffFile
  omittedFileCount : ℕ
  patchBytes : ℕ
  truncated : Bool
deriving DecidableEq, Repr

/-- `validate_counts`, after the field constraints. -/
def CommitDiffSnapshot.validate (snapshot : CommitDiffSnapshot) :
    Except Failure CommitDiffSnapshot := do
  Raising.raiseIf (isOid snapshot.baseCommit = false ∨ isOid snapshot.headCommit = false)
    (diffRecordError "commit should match its pattern")
  Raising.raiseIf (snapshot.additions < 0 ∨ snapshot.deletions < 0)
    (diffRecordError "line counts should be greater than or equal to 0")
  Raising.raiseIf
    (snapshot.changedFileCount ≠ snapshot.files.length + snapshot.omittedFileCount)
    (diffRecordError "diff file counts must match rendered plus omitted files")
  Raising.raiseIf (snapshot.truncated ≠ (decide (0 < snapshot.omittedFileCount) ||
      snapshot.files.any CommitDiffFile.patchTruncated))
    (diffRecordError "diff truncated flag must match bounded output")
  return snapshot

/-! ### Commands -/

/-- What `subprocess.run` does: a completed process, `FileNotFoundError` or
`TimeoutExpired`. -/
inductive GitAnswer
  | completed (returncode : ℤ) (stdout stderr : List UInt8)
  | notFound
  | timedOut
deriving DecidableEq, Repr

/-- `text=True, encoding="utf-8", errors="replace"`. -/
def decodeOutput (bytes : List UInt8) : List Char :=
  Lines.universalNewlines (Utf8.decodeReplace bytes)

/-- `ReadOnlyCommitDiffReader`: the answers of Git by the arguments of the command,
and the bounds, which `__init__` checks. -/
structure CommitDiffReader where
  git : List String → GitAnswer
  int : List Char → Option ℤ
  maxFiles : ℕ
  maxFilePatchBytes : ℕ
  maxTotalPatchBytes : ℕ
  maxBlobBytes : ℕ
  maxFiles_pos : 0 < maxFiles
  maxFilePatchBytes_pos : 0 < maxFilePatchBytes
  maxTotalPatchBytes_pos : 0 < maxTotalPatchBytes
  maxBlobBytes_pos : 0 < maxBlobBytes

namespace CommitDiffReader

/-- The text of a command's error, or its replacement. -/
def errorText (stderr : List Char) : String :=
  let text := strip (String.ofList stderr)
  if text = "" then "unknown git error" else text

/-- `_run_text`: the return code and the output. -/
def runText (reader : CommitDiffReader) (arguments : List String) (check : Bool) :
    Except Failure (ℤ × List Char) :=
  match reader.git arguments with
  | .notFound => .error (commitDiffError "git executable is not available")
  | .timedOut => .error (commitDiffError "git diff command exceeded the read-only timeout")
  | .completed returncode stdout stderr =>
    if check ∧ returncode ≠ 0 then
      .error (commitDiffError ("read-only git command failed: " ++ errorText (decodeOutput stderr)))
    else .ok (returncode, decodeOutput stdout)

/-- `_git_text`. -/
def gitText (reader : CommitDiffReader) (arguments : List String) (check : Bool := true) :
    Except Failure (List Char) := do
  let completed ← reader.runText arguments check
  return completed.2

/-- `_git_bytes`. -/
def gitBytes (reader : CommitDiffReader) (arguments : List String) : Except Failure (List UInt8) :=
  match reader.git arguments with
  | .notFound => .error (commitDiffError "git executable is not available")
  | .timedOut => .error (commitDiffError "git diff command exceeded the read-only timeout")
  | .completed returncode stdout stderr =>
    if returncode ≠ 0 then
      .error (commitDiffError
        ("read-only git diff failed: " ++ errorText (Utf8.decodeReplace stderr)))
    else .ok stdout

/-- `_resolve_commit`. -/
def resolveCommit (reader : CommitDiffReader) (commit : String) : Except Failure String := do
  Raising.raiseIf (isOid commit = false)
    (commitDiffError "commit evidence must be a full lowercase Git object id")
  let text ← reader.gitText ["rev-parse", "--verify", commit ++ "^\x7bcommit\x7d"] false
  Raising.raiseIf (strip (String.ofList text) ≠ commit)
    (commitDiffError "persisted commit evidence does not resolve to the expected commit")
  return commit

/-- `[item for item in value.split("\0") if item]`. -/
def records (value : List Char) : List (List Char) :=
  (value.splitOn '\x00').filter (· ≠ [])

/-- `mapping`. -/
def statusMapping (rawStatus : List Char) : Option CommitDiffFileStatus :=
  if rawStatus = ['A'] then some .added
  else if rawStatus = ['M'] then some .modified
  else if rawStatus = ['D'] then some .deleted
  else if rawStatus = ['T'] then some .typeChanged
  else none

/-- `not path or path.startswith(".git/") or path == ".git"`. -/
def isInvalidPath (path : List Char) : Bool :=
  path = [] || ['.', 'g', 'i', 't', '/'].isPrefixOf path || path = ['.', 'g', 'i', 't']

/-- The loop of `_name_status`, with the dictionary in the order of its keys. -/
def readStatuses : List (String × CommitDiffFileStatus) → List (List Char) →
    Except Failure (List (String × CommitDiffFileStatus))
  | result, rawStatus :: path :: tokens =>
    match statusMapping rawStatus with
    | none => .error (commitDiffError
        ("unsupported Git diff status: " ++ String.ofList rawStatus))
    | some status =>
      if isInvalidPath path then
        .error (commitDiffError "Git diff returned an invalid repository path")
      else if String.ofList path ∈ result.map Prod.fst then
        .error (commitDiffError "Git diff returned a duplicate repository path")
      else readStatuses (result ++ [(String.ofList path, status)]) tokens
  | result, _ => .ok result

/-- The options that `_name_status` and `_numstat` share. -/
def diffArguments (options : List String) (base head : String) : List String :=
  ["diff", "--no-ext-diff", "--no-textconv", "--no-renames"] ++ options ++ [base, head, "--"]

/-- `_name_status`. -/
def nameStatus (reader : CommitDiffReader) (base head : String) :
    Except Failure (List (String × CommitDiffFileStatus)) := do
  let value ← reader.gitText (diffArguments ["--name-status", "-z"] base head)
  let tokens := records value
  Raising.raiseIf (tokens.length % 2 ≠ 0)
    (commitDiffError "Git returned malformed name-status output")
  readStatuses [] tokens

/-- The line counts of a file; `none` for a binary one. -/
abbrev LineCounts := Option (ℤ × ℤ)

/-- `record.split("\t", 2)`, when it has three parts. -/
def splitRecord (record : List Char) : Option (List Char × List Char × List Char) :=
  let additions := record.takeWhile (· ≠ '\t')
  match record.dropWhile (· ≠ '\t') with
  | [] => none
  | _ :: rest =>
    let deletions := rest.takeWhile (· ≠ '\t')
    match rest.dropWhile (· ≠ '\t') with
    | [] => none
    | _ :: path => some (additions, deletions, path)

/-- The loop of `_numstat`, with the dictionary in the order of its keys. -/
def readCounts (int : List Char → Option ℤ) : List (String × LineCounts) → List (List Char) →
    Except Failure (List (String × LineCounts))
  | result, [] => .ok result
  | result, record :: rest =>
    match splitRecord record with
    | none => .error (commitDiffError "Git returned malformed numstat output")
    | some (additions, deletions, path) =>
      if String.ofList path ∈ result.map Prod.fst then
        .error (commitDiffError "Git numstat returned a duplicate repository path")
      else if additions = ['-'] ∧ deletions = ['-'] then
        readCounts int (result ++ [(String.ofList path, none)]) rest
      else
        match int additions, int deletions with
        | some added, some deleted =>
          readCounts int (result ++ [(String.ofList path, some (added, deleted))]) rest
        | _, _ => .error (commitDiffError "Git returned non-numeric text diff statistics")

/-- `_numstat`. -/
def numstat (reader : CommitDiffReader) (base head : String) :
    Except Failure (List (String × LineCounts)) := do
  let value ← reader.gitText (diffArguments ["--numstat", "-z"] base head)
  readCounts reader.int [] (records value)

/-- `_blob_size`. -/
def blobSize (reader : CommitDiffReader) (commit path : String) : Except Failure (Option ℤ) := do
  let completed ← reader.runText ["cat-file", "-s", commit ++ ":" ++ path] false
  if completed.1 ≠ 0 then return none
  else
    match reader.int (strip (String.ofList completed.2)).toList with
    | none => throw (commitDiffError "Git returned an invalid blob size")
    | some size => return some size

/-- `_blob_too_large`. -/
def blobTooLarge (reader : CommitDiffReader) (base head path : String) : Except Failure Bool := do
  let before ← reader.blobSize base path
  let after ← reader.blobSize head path
  return [before, after].any fun size => size.any fun n => decide ((reader.maxBlobBytes : ℤ) < n)

/-- The patch of a file. -/
def fullPatch (reader : CommitDiffReader) (base head path : String) :
    Except Failure (List UInt8) :=
  reader.gitBytes (["diff", "--no-ext-diff", "--no-textconv", "--no-renames", "--no-color",
    "--unified=3"] ++ [base, head, "--", path])

/-- `hashlib.sha256(...).hexdigest()`. -/
def sha256Hex (bytes : List UInt8) : String :=
  (Sha256.hash (bytes.map UInt8.toNat)).hex

/-- A file whose patch is not shown. -/
def omittedFile (path : String) (status : CommitDiffFileStatus) (counts : LineCounts)
    (reason : CommitDiffOmissionReason) (truncated : Bool) : CommitDiffFile where
  path
  status
  additions := counts.map Prod.fst
  deletions := counts.map Prod.snd
  binary := counts.isNone
  patch := none
  patchBytes := 0
  patchSha256 := none
  patchTruncated := truncated
  patchOmittedReason := some reason

/-- A text file with the first `allowed` bytes of its patch. -/
def shownFile (path : String) (status : CommitDiffFileStatus) (counts : LineCounts)
    (full : List UInt8) (allowed : ℕ) : CommitDiffFile where
  path
  status
  additions := counts.map Prod.fst
  deletions := counts.map Prod.snd
  binary := counts.isNone
  patch := some (Utf8.decodeReplace (full.take allowed))
  patchBytes := (full.take allowed).length
  patchSha256 := some (sha256Hex full)
  patchTruncated := allowed < full.length
  patchOmittedReason := none

/-- One round of the loop of `read`, with the bytes that are left of the total. -/
def renderFile (reader : CommitDiffReader) (base head : String) (remaining : ℕ) (path : String)
    (status : CommitDiffFileStatus) (counts : LineCounts) : Except Failure CommitDiffFile := do
  if counts = none then (omittedFile path status counts .binary false).validate
  else if remaining = 0 then (omittedFile path status counts .totalPatchLimit true).validate
  else
    let tooLarge ← reader.blobTooLarge base head path
    if tooLarge then (omittedFile path status counts .blobLimit true).validate
    else
      let full ← reader.fullPatch base head path
      (shownFile path status counts full (min reader.maxFilePatchBytes remaining)).validate

/-- The loop of `read`; a path without an entry raises `KeyError`. -/
def renderFiles (reader : CommitDiffReader) (base head : String)
    (statuses : List (String × CommitDiffFileStatus)) (numstats : List (String × LineCounts)) :
    ℕ → List String → Except Failure (List CommitDiffFile)
  | _, [] => .ok []
  | remaining, path :: paths =>
    match statuses.lookup path, numstats.lookup path with
    | some status, some counts => do
      let file ← reader.renderFile base head remaining path status counts
      let files ← renderFiles reader base head statuses numstats (remaining - file.patchBytes) paths
      return file :: files
    | _, _ => .error ⟨.keyError, path⟩

/-- The sum of one of the two counts, `None` being zero. -/
def totalOf (count : ℤ × ℤ → ℤ) (numstats : List (String × LineCounts)) : ℤ :=
  numstats.foldl (fun total entry => total + (entry.2.map count).getD 0) 0

/-- `read`. -/
def read (reader : CommitDiffReader) (baseCommit headCommit : String) :
    Except Failure CommitDiffSnapshot := do
  let base ← reader.resolveCommit baseCommit
  let head ← reader.resolveCommit headCommit
  let statuses ← reader.nameStatus base head
  let numstats ← reader.numstat base head
  let paths := statuses.map Prod.fst
  let counted := numstats.map Prod.fst
  Raising.raiseIf ((paths.all fun path => counted.contains path) = false ∨
      (counted.all fun path => paths.contains path) = false)
    (commitDiffError "Git name-status and numstat paths disagree")
  let allPaths := paths.insertionSort (· ≤ ·)
  let selected := allPaths.take reader.maxFiles
  let omitted := allPaths.length - selected.length
  let rendered ← reader.renderFiles base head statuses numstats reader.maxTotalPatchBytes selected
  CommitDiffSnapshot.validate {
    baseCommit := base
    headCommit := head
    changedFileCount := allPaths.length
    additions := totalOf Prod.fst numstats
    deletions := totalOf Prod.snd numstats
    files := rendered
    omittedFileCount := omitted
    patchBytes := (rendered.map CommitDiffFile.patchBytes).sum
    truncated := decide (0 < omitted) || rendered.any CommitDiffFile.patchTruncated }

end CommitDiffReader

end DevFlow
