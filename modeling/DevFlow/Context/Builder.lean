/-
# The builder of context packets

`ContextPacketBuilder.build` of `context/builder.py`: the visible files of a task in the
order of their selection, each read once, cut to what is left of the budget and recorded
with what was left out.  A file with regions shows these one after the other, any other
file a prefix; both cut with `_fit_prefix`.

What Git and the file system answer is a `ContextWorkspace`.  A packet is made with the
validators of `ContextRecords`, which may raise in the middle of a build.
-/

import DevFlow.Context.Selection
import DevFlow.Context.TokenEstimator
import DevFlow.Library.Bisection
import DevFlow.Workspace.Scope

namespace DevFlow

/-! ### Sources -/

/-- How the file system answers for a visible path. -/
inductive PathReading
  /-- `resolve_path` raises. -/
  | rejected (text : String)
  | notFile
  /-- `stat` raises. -/
  | noMetadata (text : String)
  /-- The size of a file, and its bytes when they are read. -/
  | file (size : ℕ) (bytes : Except String (List UInt8))

/-- `_LoadedSource`. -/
structure LoadedSource where
  raw : List UInt8
  text : List Char

/-- `_SourceFailure`. -/
structure SourceFailure where
  reason : ContextTruncationReason
  detail : String

/-- The failure of a file that is too large. -/
def SourceFailure.tooLarge (budget : ContextBudget) (size : ℕ) : SourceFailure where
  reason := .sourceFileTooLarge
  detail := "Source file size " ++ toString size ++ " bytes exceeds the inspection limit of " ++
    toString budget.maxSourceFileBytes ++ " bytes."

/-- `_read_source`. -/
def readSource (budget : ContextBudget) : PathReading → Except SourceFailure LoadedSource
  | .rejected text => .error ⟨.pathUnavailable,
      "Visible path was rejected by the trusted workspace boundary: " ++ text⟩
  | .notFile => .error ⟨.pathUnavailable,
      "Visible Git path is not a regular readable file in the current worktree."⟩
  | .noMetadata text => .error ⟨.pathUnavailable,
      "Visible file metadata could not be read: " ++ text⟩
  | .file size bytes =>
    if budget.maxSourceFileBytes < size then .error (.tooLarge budget size)
    else match bytes with
      | .error text => .error ⟨.pathUnavailable,
          "Visible file bytes could not be read: " ++ text⟩
      | .ok raw =>
        if budget.maxSourceFileBytes < raw.length then .error (.tooLarge budget raw.length)
        else match Utf8.decode raw with
          | none => .error ⟨.nonUtf8,
              "Visible file is not valid UTF-8 text and was omitted from model context."⟩
          | some text => .ok ⟨raw, Lines.universalNewlines text⟩

/-- `sha256(raw).hexdigest()`. -/
def sourceSha256 (raw : List UInt8) : String :=
  (Sha256.hash (raw.map UInt8.toNat)).hex

/-- `sorted(set(values))`. -/
def sortedSet (values : List String) : List String :=
  values.dedup.insertionSort (· ≤ ·)

/-- The workspace: the answers of Git, and of the file system for each path. -/
structure ContextWorkspace where
  headCommit : Except String String
  cached : Except String (List String)
  others : Except String (List String)
  differing : Except String (List String)
  reading : String → PathReading

namespace ContextWorkspace

/-- `tracked_files`. -/
def trackedFiles (workspace : ContextWorkspace) : Except String (List String) :=
  workspace.cached.map sortedSet

/-- `repository_files`. -/
def repositoryFiles (workspace : ContextWorkspace) : Except String (List String) := do
  let tracked ← workspace.trackedFiles
  let untracked ← workspace.others
  return sortedSet (tracked ++ untracked)

/-- `changed_files`. -/
def changedFiles (workspace : ContextWorkspace) : Except String (List String) := do
  let tracked ← workspace.differing
  let untracked ← workspace.others
  return sortedSet (tracked ++ untracked)

end ContextWorkspace

/-! ### Candidates -/

/-- `_Candidate`. -/
structure PacketCandidate where
  path : String
  tracked : Bool
  changed : Bool
  scopeMatches : List ContextScopeMatch
  selectionReasons : List ContextSelectionReason
  priority : ℕ
  relevanceScore : ℕ := 0
  regions : List RelevantCodeRegion := []

/-- `_scope_matches`. -/
def contextScopeMatches (task : TaskContractFields) (path : String) :
    Except Failure (List ContextScopeMatch) :=
  let scopes := task.writableFiles.map (Prod.mk ContextScopeKind.writable) ++
    task.readonlyFiles.map (Prod.mk ContextScopeKind.readOnly) ++
    task.readableFiles.map (Prod.mk ContextScopeKind.readable)
  (scopes.filter fun scope => scopeMatches path scope.2).mapM fun scope =>
    ContextScopeMatch.make scope.1 scope.2

/-- `_selection_reasons`. -/
def selectionReasons (path : String) (scopes : List ContextScopeMatch) (changed : List String) :
    List ContextSelectionReason :=
  let kinds := scopes.map ContextScopeMatch.kind
  (if path ∈ changed then [.changed] else []) ++
    (if ContextScopeKind.writable ∈ kinds then [.writableScope] else []) ++
    (if ContextScopeKind.readOnly ∈ kinds then [.readOnlyScope] else []) ++
    (if ContextScopeKind.readable ∈ kinds then [.readableScope] else [])

/-- `_priority`. -/
def contextPriority (path : String) (scopes : List ContextScopeMatch) (changed : List String) : ℕ :=
  let kinds := scopes.map ContextScopeMatch.kind
  if path ∈ changed then 0
  else if ContextScopeKind.writable ∈ kinds then 1
  else if ContextScopeKind.readOnly ∈ kinds then 2
  else 3

/-- The candidate of a path, if it is visible. -/
def baseCandidate (task : TaskContractFields) (tracked changed : List String) (path : String) :
    Except Failure (Option PacketCandidate) := do
  let scopes ← contextScopeMatches task path
  if scopes = [] then return none
  return some
    { path
      tracked := path ∈ tracked
      changed := path ∈ changed
      scopeMatches := scopes
      selectionReasons := selectionReasons path scopes changed
      priority := contextPriority path scopes changed }

/-- The order of the candidates: by priority, then by path. -/
def candidateLe (left right : PacketCandidate) : Prop :=
  left.priority < right.priority ∨ left.priority = right.priority ∧ left.path ≤ right.path

instance : DecidableRel candidateLe :=
  fun _ _ => inferInstanceAs (Decidable (_ ∨ _))

/-- `_base_candidates`. -/
def baseCandidates (task : TaskContractFields) (inventory tracked changed : List String) :
    Except Failure (List PacketCandidate) := do
  let candidates ← inventory.mapM (baseCandidate task tracked changed)
  return (candidates.filterMap id).insertionSort candidateLe

/-- The constructor of `ContextPacketBuilder`. -/
structure ContextPacketBuilder where
  budget : ContextBudget := {}
  relevance : RelevanceLimits := {}
  parser : PythonParser
  estimator : TokenEstimator := .default

namespace ContextPacketBuilder

variable (builder : ContextPacketBuilder)

/-- `_source_text`. -/
def sourceText (workspace : ContextWorkspace) (path : String) : Option (List Char) :=
  match readSource builder.budget (workspace.reading path) with
  | .ok source => some source.text
  | .error _ => none

/-- The candidate as `RelevanceCandidate`. -/
def relevanceCandidate (candidate : PacketCandidate) : RelevanceCandidate where
  path := candidate.path
  changed := candidate.changed
  scopeKinds := (candidate.scopeMatches.map ContextScopeMatch.kind).dedup

/-- `_rank_candidates`. -/
def rankCandidates (task : TaskContractFields) (workspace : ContextWorkspace)
    (candidates : List PacketCandidate) : List PacketCandidate :=
  (select builder.parser builder.relevance task (candidates.map relevanceCandidate)
    (builder.sourceText workspace)).filterMap fun selection =>
      (candidates.find? fun candidate => candidate.path = selection.path).map fun candidate =>
        { candidate with relevanceScore := selection.score, regions := selection.regions }

/-! ### What is shown of a source -/

/-- `context_window_units`. -/
def contextWindowUnits (content : List Char) : ℕ :=
  (Utf8.encode content).length

/-- `_fit_prefix`. -/
def fitPrefix (text : List Char) (maxChars maxTokenUnits : ℕ) : List Char :=
  if text = [] ∨ maxChars = 0 ∨ maxTokenUnits = 0 then []
  else
    let candidate := text.take maxChars
    if contextWindowUnits candidate ≤ maxTokenUnits then candidate
    else candidate.take (Bisection.bisect
      (fun middle => contextWindowUnits (candidate.take middle) ≤ maxTokenUnits) 0
      candidate.length)

/-- `reason_omissions`. -/
structure RegionOmissions where
  perFile : Option ℕ := none
  total : Option ℕ := none
  token : Option ℕ := none
deriving DecidableEq

/-- `_record_region_budget_limits`. -/
def RegionOmissions.record (omissions : RegionOmissions) (regionText : List Char)
    (omittedChars perFileRemaining totalRemaining tokenRemaining : ℕ) : RegionOmissions where
  perFile :=
    if perFileRemaining < regionText.length then some (omissions.perFile.getD 0 + omittedChars)
    else omissions.perFile
  total :=
    if totalRemaining < regionText.length then some (omissions.total.getD 0 + omittedChars)
    else omissions.total
  token :=
    if tokenRemaining < (Utf8.encode regionText).length then
      some (omissions.token.getD 0 + omittedChars)
    else omissions.token

/-- `_region_truncations`. -/
def regionTruncations (path : String) (omissions : RegionOmissions) :
    Except Failure (List ContextTruncation) :=
  let found (reason : ContextTruncationReason) (detail : String) (omitted : Option ℕ) :=
    omitted.toList.map fun omittedChars =>
      ({ reason, path := some path, detail, omittedChars } : ContextTruncationFields)
  (found .perFileCharLimit
      "Selected AST code regions were truncated by the per-file character budget."
      omissions.perFile ++
    found .totalCharLimit
      "Selected AST code regions were truncated by the remaining total character budget."
      omissions.total ++
    found .tokenBudget
      "Selected AST code regions were truncated by the remaining conservative token budget."
      omissions.token).mapM ContextTruncation.make

/-- The state of the loop over the regions. -/
structure RegionState where
  snippets : List ContextSnippet := []
  omissions : RegionOmissions := {}
  perFileRemaining : ℕ
  totalRemaining : ℕ
  tokenRemaining : ℕ

/-- The snippet of what is shown from a line on. -/
def makeSnippet (startLine endLine : ℕ) (selected : List Char) : Except Failure ContextSnippet :=
  ContextSnippet.make
    { startLine
      endLine
      content := selected
      charCount := selected.length
      estimatedTokens := contextWindowUnits selected
      billableTokenEstimate := builder.estimator.billableTokenEstimate selected }

/-- One turn of the loop over the regions. -/
def regionStep (lines : List (List Char)) (state : RegionState) (region : RelevantCodeRegion) :
    Except Failure RegionState := do
  let text := regionText lines region
  if text = [] then return state
  let selected := fitPrefix text (min state.perFileRemaining state.totalRemaining)
    state.tokenRemaining
  let omittedChars := text.length - selected.length
  let omissions :=
    if omittedChars = 0 then state.omissions
    else state.omissions.record text omittedChars state.perFileRemaining state.totalRemaining
      state.tokenRemaining
  if selected = [] then return { state with omissions }
  let lineCount := max 1 (Lines.splitlines selected).length
  let snippet ← builder.makeSnippet region.startLine
    (min region.endLine (region.startLine + lineCount - 1)) selected
  return {
    snippets := state.snippets ++ [snippet]
    omissions
    perFileRemaining := state.perFileRemaining - selected.length
    totalRemaining := state.totalRemaining - selected.length
    tokenRemaining := state.tokenRemaining - contextWindowUnits selected }

/-- The file of a candidate with its snippets. -/
def makeFile (candidate : PacketCandidate) (source : LoadedSource) (snippets : List ContextSnippet)
    (truncated : Bool) : Except Failure ContextFile :=
  ContextFile.make
    { path := candidate.path
      tracked := candidate.tracked
      changed := candidate.changed
      scopeMatches := candidate.scopeMatches
      selectionReasons := candidate.selectionReasons
      sourceSha256 := sourceSha256 source.raw
      sourceChars := source.text.length
      sourceBytes := source.raw.length
      snippets
      selectedChars := (snippets.map (·.val.charCount)).sum
      estimatedTokens := (snippets.map (·.val.estimatedTokens)).sum
      billableTokenEstimate := (snippets.map (·.val.billableTokenEstimate)).sum
      truncated }

/-- What `_load_candidate` returns: a file with its truncations, or a truncation. -/
abbrev LoadedCandidate := (ContextFile × List ContextTruncation) ⊕ ContextTruncation

/-- `_load_region_candidate`. -/
def loadRegionCandidate (candidate : PacketCandidate) (source : LoadedSource)
    (remainingChars remainingTokens : ℕ) : Except Failure LoadedCandidate := do
  let lines := Lines.splitlines source.text
  let state ← candidate.regions.foldlM (builder.regionStep lines)
    { perFileRemaining := builder.budget.maxCharsPerFile
      totalRemaining := remainingChars
      tokenRemaining := remainingTokens }
  if state.snippets = [] then
    let truncation ← ContextTruncation.make
      { reason := .tokenBudget
        path := some candidate.path
        detail :=
          "No selected AST code region fit inside the remaining conservative context budget."
        omittedChars := (candidate.regions.map fun region =>
          (regionText lines region).length).sum
        omittedFiles := 1 }
    return .inr truncation
  let file ← makeFile candidate source state.snippets (state.omissions ≠ {})
  let truncations ← regionTruncations candidate.path state.omissions
  return .inl (file, truncations)

/-- The limits that cut a prefix. -/
def prefixTruncations (path : String) (source : LoadedSource) (omittedChars remainingChars
    remainingTokens : ℕ) : List ContextTruncationFields :=
  (if builder.budget.maxCharsPerFile < source.text.length then
    [{ reason := .perFileCharLimit
       path := some path
       detail := "File content was truncated by the per-file character budget of " ++
         toString builder.budget.maxCharsPerFile ++ "."
       omittedChars }]
    else []) ++
  (if remainingChars < source.text.length then
    [{ reason := .totalCharLimit
       path := some path
       detail := "File content was truncated by the remaining total character budget."
       omittedChars }]
    else []) ++
  (if remainingTokens < source.raw.length then
    [{ reason := .tokenBudget
       path := some path
       detail := "File content was truncated by the remaining conservative token budget."
       omittedChars }]
    else [])

/-- `_load_prefix_candidate`. -/
def loadPrefixCandidate (candidate : PacketCandidate) (source : LoadedSource)
    (remainingChars remainingTokens : ℕ) : Except Failure LoadedCandidate := do
  let selected := fitPrefix source.text (min builder.budget.maxCharsPerFile remainingChars)
    remainingTokens
  if source.text ≠ [] ∧ selected = [] then
    let truncation ← ContextTruncation.make
      { reason := .tokenBudget
        path := some candidate.path
        detail := "No complete UTF-8 character from this file fit inside the remaining " ++
          "conservative token budget."
        omittedChars := source.text.length
        omittedFiles := 1 }
    return .inr truncation
  let snippet ← builder.makeSnippet 1 (max 1 (Lines.splitlines selected).length) selected
  let omittedChars := source.text.length - selected.length
  let file ← makeFile candidate source [snippet] (omittedChars ≠ 0)
  let truncations ←
    (if omittedChars = 0 then []
      else builder.prefixTruncations candidate.path source omittedChars remainingChars
        remainingTokens).mapM ContextTruncation.make
  return .inl (file, truncations)

/-- `_load_candidate`. -/
def loadCandidate (workspace : ContextWorkspace) (candidate : PacketCandidate)
    (remainingChars remainingTokens : ℕ) : Except Failure LoadedCandidate :=
  match readSource builder.budget (workspace.reading candidate.path) with
  | .error failure => .inr <$> ContextTruncation.make
      { reason := failure.reason
        path := some candidate.path
        detail := failure.detail
        omittedFiles := 1 }
  | .ok source =>
    if candidate.regions = [] then
      builder.loadPrefixCandidate candidate source remainingChars remainingTokens
    else builder.loadRegionCandidate candidate source remainingChars remainingTokens

/-! ### The loop over the candidates -/

/-- `_can_reuse_candidate`. -/
def canReuseCandidate (workspace : ContextWorkspace) (resume : Option ContinuationStateRecord)
    (changed : List String) (candidate : PacketCandidate) : Bool :=
  match resume with
  | none => false
  | some resume =>
    if candidate.path ∈ resume.val.changedFiles then true
    else if candidate.path ∈ changed then false
    else match resume.val.readFiles.find? fun item => item.val.path = candidate.path with
      | none => false
      | some item =>
        match readSource builder.budget (workspace.reading candidate.path) with
        | .ok source => sourceSha256 source.raw = item.val.sourceSha256
        | .error _ => false

/-- The variables of the loop. -/
structure PacketState where
  selectedFiles : List ContextFile := []
  truncations : List ContextTruncation := []
  omittedFiles : ℕ := 0
  reusedFiles : ℕ := 0
  remainingChars : ℕ
  remainingTokens : ℕ

/-- The end of the loop: the candidates that are left are omitted. -/
def PacketState.stop (state : PacketState) (reason : ContextTruncationReason) (detail : String)
    (remainingCandidates : ℕ) : Except Failure PacketState := do
  let truncation ← ContextTruncation.make { reason, detail, omittedFiles := remainingCandidates }
  return { state with
    omittedFiles := state.omittedFiles + remainingCandidates
    truncations := state.truncations ++ [truncation] }

/-- What a loaded candidate does to the variables. -/
def PacketState.add (state : PacketState) : LoadedCandidate → PacketState
  | .inl (file, truncations) => { state with
    selectedFiles := state.selectedFiles ++ [file]
    truncations := state.truncations ++ truncations
    remainingChars := state.remainingChars - file.val.selectedChars
    remainingTokens := state.remainingTokens - file.val.estimatedTokens }
  | .inr truncation => { state with
    omittedFiles := state.omittedFiles + 1
    truncations := state.truncations ++ [truncation] }

/-- The loop of `build`. -/
def buildLoop (workspace : ContextWorkspace) (resume : Option ContinuationStateRecord)
    (changed : List String) :
    List PacketCandidate → PacketState → Except Failure PacketState
  | [], state => .ok state
  | candidate :: rest, state =>
    if builder.budget.maxFiles ≤ state.selectedFiles.length then
      state.stop .fileCountLimit
        ("Remaining visible files were omitted because the context file-count budget of " ++
          toString builder.budget.maxFiles ++ " was exhausted.") (rest.length + 1)
    else if builder.canReuseCandidate workspace resume changed candidate then
      buildLoop workspace resume changed rest { state with reusedFiles := state.reusedFiles + 1 }
    else if state.remainingChars = 0 then
      state.stop .totalCharLimit
        ("Remaining visible files were omitted because the total context character budget was " ++
          "exhausted.") (rest.length + 1)
    else if state.remainingTokens = 0 then
      state.stop .tokenBudget
        ("Remaining visible files were omitted because the conservative token budget was " ++
          "exhausted.") (rest.length + 1)
    else do
      let loaded ← builder.loadCandidate workspace candidate state.remainingChars
        state.remainingTokens
      buildLoop workspace resume changed rest (state.add loaded)

/-! ### The summary of the repository -/

/-- `Path(path).name`. -/
def fileName (path : String) : String :=
  String.ofList
    (((path.toList.splitOn '/').filter fun part => part ≠ [] ∧ part ≠ ['.']).getLast?.getD [])

/-- `",".join(paths[:12]) or default`. -/
def firstPaths (default : String) (paths : List String) : String :=
  let joined := ",".intercalate (paths.take 12)
  if joined = "" then default else joined

/-- `_repository_summary`. -/
def repositorySummary (repositoryHead : String) (inventory : List String) : String :=
  let dependencyFiles := inventory.filter fun path =>
    fileName path ∈ ["pyproject.toml", "requirements.txt", "package.json", "package-lock.json",
      "pnpm-lock.yaml", "yarn.lock", "go.mod", "Cargo.toml"]
  let entryFiles := inventory.filter fun path =>
    fileName path ∈ ["main.py", "app.py", "server.py", "index.js", "index.ts", "main.ts",
      "main.tsx"]
  let testFiles := inventory.filter fun path =>
    "/test".toList <:+: '/' :: path.toList.map Char.toLower ∨
      "test_".toList <+: (fileName path).toList
  let names := inventory.map fileName
  let technologies :=
    (if "pyproject.toml" ∈ names ∨ "requirements.txt" ∈ names then ["Python"] else []) ++
      (if "package.json" ∈ names ∨ "package-lock.json" ∈ names then ["Node.js"] else []) ++
      (if "go.mod" ∈ names then ["Go"] else []) ++
      (if "Cargo.toml" ∈ names then ["Rust"] else [])
  "\n".intercalate
    ["summary_version=repository_summary_v1",
      "repository_head=" ++ repositoryHead,
      "technology=" ++ firstPaths "unknown" technologies,
      "entry_files=" ++ firstPaths "unknown" entryFiles,
      "dependency_files=" ++ firstPaths "none" dependencyFiles,
      "test_file_count=" ++ toString testFiles.length,
      "directory_index=" ++ ",".intercalate ((inventory.insertionSort (· ≤ ·)).take 80)]

/-! ### `build` -/

/-- The text of a continuation that is estimated. -/
def resumeText (resume : ContinuationStateRecord) : List Char :=
  ("\n".intercalate [resume.val.completedSummary, resume.val.remainingSummary,
    resume.val.verificationSummary, resume.val.failureSummary]).toList

/-- `_resume_estimated_tokens`. -/
def resumeEstimatedTokens (resume : Option ContinuationStateRecord) : ℕ :=
  resume.elim 0 fun resume => contextWindowUnits (resumeText resume)

/-- `_resume_billable_tokens`. -/
def resumeBillableTokens (resume : Option ContinuationStateRecord) : ℕ :=
  resume.elim 0 fun resume => builder.estimator.billableTokenEstimate (resumeText resume)

/-- The usage of a packet. -/
def packetUsage (candidates : ℕ) (state : PacketState) (repositorySummary : String)
    (resume : Option ContinuationStateRecord) : ContextUsageFields :=
  let files := state.selectedFiles.map (·.val)
  let tokens := (files.map ContextFileFields.estimatedTokens).sum
  let billable := (files.map ContextFileFields.billableTokenEstimate).sum
  { candidateFiles := candidates
    selectedFiles := files.length
    selectedChars := (files.map ContextFileFields.selectedChars).sum
    estimatedTokens := tokens
    contextWindowUnits := tokens
    billableContentTokens := billable
    billablePromptTokens := billable +
      builder.estimator.billableTokenEstimate repositorySummary.toList +
      builder.resumeBillableTokens resume
    truncatedFiles := files.countP ContextFileFields.truncated
    omittedFiles := state.omittedFiles
    reusedFiles := state.reusedFiles
    trimmedFiles := files.countP ContextFileFields.truncated
    promptEstimatedTokens := tokens + contextWindowUnits repositorySummary.toList +
      resumeEstimatedTokens resume }

/-- What Git answers `build`. -/
structure RepositoryReading where
  repositoryHead : String
  tracked : List String
  inventory : List String
  changedFiles : List String

/-- The calls of Git, one after the other. -/
def gitAnswers (workspace : ContextWorkspace) : Except String RepositoryReading := do
  let repositoryHead ← workspace.headCommit
  let tracked ← workspace.trackedFiles
  let inventory ← workspace.repositoryFiles
  let changedFiles ← workspace.changedFiles
  return { repositoryHead, tracked, inventory, changedFiles }

/-- The `ContextBuildError` of `build`. -/
def readRepository (workspace : ContextWorkspace) : Except Failure RepositoryReading :=
  (gitAnswers workspace).mapError fun text =>
    ⟨.runtimeError, "Unable to read trusted Git state: " ++ text⟩

/-- `changed`. -/
def RepositoryReading.changed (repository : RepositoryReading)
    (resume : Option ContinuationStateRecord) : List String :=
  sortedSet (repository.changedFiles ++ resume.elim [] fun resume => resume.val.changedFiles)

/-- `build` behind the calls of Git. -/
def buildFrom (dump : PacketDump) (task : TaskContractRecord) (workspace : ContextWorkspace)
    (resume : Option ContinuationStateRecord) (repository : RepositoryReading) :
    Except Failure (ContextPacket dump) := do
  let changed := repository.changed resume
  let candidates ← baseCandidates task.val repository.inventory repository.tracked changed
  let ranked := builder.rankCandidates task.val workspace candidates
  let state ← builder.buildLoop workspace resume changed ranked
    { remainingChars := builder.budget.maxTotalChars
      remainingTokens := builder.budget.maxEstimatedTokens }
  let summary := repositorySummary repository.repositoryHead repository.inventory
  let usage ← ContextUsage.make (builder.packetUsage ranked.length state summary resume)
  let payload : ContextPacketPayload :=
    { taskId := task.val.taskId
      objective := task.val.objective
      acceptanceCriteria := task.val.acceptanceCriteria
      readableFiles := task.val.readableFiles
      writableFiles := task.val.writableFiles
      readonlyFiles := task.val.readonlyFiles
      repositoryHead := repository.repositoryHead
      repositorySummary := summary
      resume
      changedFiles := changed
      repositoryMap := ((candidates.map PacketCandidate.path).insertionSort (· ≤ ·)).take 80
      selectedFiles := state.selectedFiles
      truncations := state.truncations
      budget := builder.budget
      usage
      selectionStrategy := "python_ast_import_relevance_v1>changed>writable>read_only>readable>path"
      snippetStrategy := "python_ast_symbol_regions_v1+deterministic_prefix_fallback"
      tokenEstimator := "utf8_bytes_upper_bound+provider_neutral_billable_v1" }
  ContextPacket.make dump { payload with fingerprint := payload.canonicalFingerprint dump }

/-- `build`. -/
def build (dump : PacketDump) (task : TaskContractRecord) (workspace : ContextWorkspace)
    (resume : Option ContinuationStateRecord) : Except Failure (ContextPacket dump) := do
  let repository ← readRepository workspace
  builder.buildFrom dump task workspace resume repository

end ContextPacketBuilder

end DevFlow
