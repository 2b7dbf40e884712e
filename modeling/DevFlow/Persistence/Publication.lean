/-
# The audit row of a GitHub publication

`models/publication.py` and `persistence/publication.py`: the intent of a
publication, the facts of the pull request, the row of a run and the three
operations on it.  Each operation is one transaction on the locked row, so it is
a function from the tables to the tables or to the exception that rolls it back.

The payload of the intent is the record that it is dumped to, with its ids and
its basis as values, and SHA-256 is a function of the payload with 64 hexadecimal
digits.  The text of a `ValidationError` of a field is left out.
-/

import DevFlow.Models.MultiRun

namespace DevFlow

/-- `GitHubPublicationSourceBasis`. -/
inductive GitHubPublicationSourceBasis
  | integration
  | singleTask
deriving DecidableEq, Repr

/-- `GitHubPublicationState`. -/
inductive GitHubPublicationState
  | ready
  | publishing
  | failed
  | published
deriving DecidableEq, Repr

/-- `[A-Za-z0-9_.-]+/[A-Za-z0-9_.-]+`. -/
def isRepositorySlug (s : String) : Bool :=
  match s.toList.span isTaskIdChar with
  | (owner, '/' :: name) => owner ≠ [] && name ≠ [] && name.all isTaskIdChar
  | _ => false

/-- `devflow/run-[0-9a-f-]{36}`. -/
def isPublicationBranch (s : String) : Bool :=
  s.toList.take 12 = "devflow/run-".toList && s.length = 48 &&
    (s.toList.drop 12).all fun c => c.isDigit || ('a' ≤ c && c ≤ 'f') || c == '-'

/-- The fields of `GitHubPublicationIntent`, and its JSON payload. -/
structure GitHubPublicationPayload where
  runId : UUID
  projectId : UUID
  repositoryUrl : String
  repositorySlug : String
  baseBranch : String
  branchName : String
  sourceBasis : GitHubPublicationSourceBasis
  sourceCommit : String
  sourceEvidenceId : ℕ
  sourceEvidenceSha256 : String
deriving DecidableEq, Repr

/-- The field constraints and `validate_branch_boundary`. -/
def GitHubPublicationPayload.validate (payload : GitHubPublicationPayload) :
    Except Failure Unit := do
  Raising.raiseIf (¬(1 ≤ payload.repositoryUrl.length ∧ payload.repositoryUrl.length ≤ 2000))
    ⟨.valueError, "repository_url"⟩
  Raising.raiseIf (isRepositorySlug payload.repositorySlug = false)
    ⟨.valueError, "repository_slug"⟩
  Raising.raiseIf (¬(1 ≤ payload.baseBranch.length ∧ payload.baseBranch.length ≤ 255))
    ⟨.valueError, "base_branch"⟩
  Raising.raiseIf (isPublicationBranch payload.branchName = false) ⟨.valueError, "branch_name"⟩
  Raising.raiseIf (isOid payload.sourceCommit = false) ⟨.valueError, "source_commit"⟩
  Raising.raiseIf (payload.sourceEvidenceId = 0) ⟨.valueError, "source_evidence_id"⟩
  Raising.raiseIf (isSha256 payload.sourceEvidenceSha256 = false)
    ⟨.valueError, "source_evidence_sha256"⟩
  Raising.raiseIf (payload.branchName = payload.baseBranch)
    ⟨.valueError, "DevFlow publication branch must differ from the default branch"⟩

/-- `GitHubPublicationIntent`. -/
structure GitHubPublicationIntent extends GitHubPublicationPayload where
  valid : toGitHubPublicationPayload.validate = .ok ()
deriving DecidableEq

/-- `GitHubPublicationIntent.model_validate`. -/
def GitHubPublicationIntent.modelValidate (payload : GitHubPublicationPayload) :
    Except Failure GitHubPublicationIntent :=
  match h : payload.validate with
  | .ok () => .ok ⟨payload, h⟩
  | .error failure => .error failure

/-- **An intent is validated back from its payload.** -/
theorem GitHubPublicationIntent.modelValidate_payload (intent : GitHubPublicationIntent) :
    modelValidate intent.toGitHubPublicationPayload = .ok intent := by
  unfold modelValidate
  split
  · rfl
  · rename_i hfailed
    rw [intent.valid] at hfailed
    cases hfailed

/-- `GitHubRemotePullRequest`. -/
structure GitHubRemotePullRequest where
  number : ℕ
  htmlUrl : String
  state : String
  draft : Bool
  headBranch : String
  headCommit : String
  baseBranch : String
  number_pos : 1 ≤ number
  url_length : 1 ≤ htmlUrl.length ∧ htmlUrl.length ≤ 2000
  state_pattern : state = "open" ∨ state = "closed"
  branch_length : 1 ≤ headBranch.length ∧ headBranch.length ≤ 255
  commit_pattern : isOid headCommit = true
  base_length : 1 ≤ baseBranch.length ∧ baseBranch.length ≤ 255

/-- `hashlib.sha256(...).hexdigest()` of a payload. -/
structure PayloadDigest where
  sha256 : GitHubPublicationPayload → String
  pattern : ∀ payload, isSha256 (sha256 payload) = true

/-- `GitHubPublicationRow`; its run is the key of the table. -/
structure GitHubPublicationRow where
  intent : GitHubPublicationPayload
  intentSha256 : String
  state : GitHubPublicationState
  attemptCount : ℕ
  attemptToken : Option UUID
  attemptExpiresAt : Option Timestamp
  pullRequestNumber : Option ℕ := none
  pullRequestUrl : Option String := none
  pullRequestState : Option String := none
  pullRequestDraft : Option Bool := none
  lastErrorCode : Option String := none
  lastErrorMessage : Option String := none
  createdAt : Timestamp
  updatedAt : Timestamp
deriving DecidableEq

/-- The fields of `PersistedGitHubPublication`. -/
structure GitHubPublicationRecord where
  intent : GitHubPublicationIntent
  intentSha256 : String
  state : GitHubPublicationState
  attemptCount : ℕ
  pullRequestNumber : Option ℕ
  pullRequestUrl : Option String
  pullRequestState : Option String
  pullRequestDraft : Option Bool
  lastErrorCode : Option String
  lastErrorMessage : Option String
  createdAt : Timestamp
  updatedAt : Timestamp
deriving DecidableEq

namespace GitHubPublicationRecord

/-- `any(value is None for value in pr_fields)`. -/
def lacksPullRequest (record : GitHubPublicationRecord) : Bool :=
  record.pullRequestNumber.isNone || record.pullRequestUrl.isNone ||
    record.pullRequestState.isNone || record.pullRequestDraft.isNone

/-- `any(value is not None for value in pr_fields)`. -/
def hasPullRequest (record : GitHubPublicationRecord) : Bool :=
  record.pullRequestNumber.isSome || record.pullRequestUrl.isSome ||
    record.pullRequestState.isSome || record.pullRequestDraft.isSome

/-- The field constraints of `PersistedGitHubPublication`. -/
def validateFields (record : GitHubPublicationRecord) : Except Failure Unit := do
  Raising.raiseIf (isSha256 record.intentSha256 = false) ⟨.valueError, "intent_sha256"⟩
  Raising.raiseIf (record.pullRequestNumber.any fun number => number = 0)
    ⟨.valueError, "pull_request_number"⟩
  Raising.raiseIf (record.pullRequestUrl.any fun url => 2000 < url.length)
    ⟨.valueError, "pull_request_url"⟩
  Raising.raiseIf (record.pullRequestState.any fun state => state ≠ "open" ∧ state ≠ "closed")
    ⟨.valueError, "pull_request_state"⟩
  Raising.raiseIf (record.lastErrorCode.any fun code => 64 < code.length)
    ⟨.valueError, "last_error_code"⟩
  Raising.raiseIf (record.lastErrorMessage.any fun message => 512 < message.length)
    ⟨.valueError, "last_error_message"⟩

/-- `validate_state_shape`. -/
def validateStateShape (record : GitHubPublicationRecord) : Except Failure Unit := do
  if record.state = .published then
    Raising.raiseIf (record.lacksPullRequest = true)
      ⟨.valueError, "published GitHub publication requires Pull Request facts"⟩
    Raising.raiseIf (record.lastErrorCode ≠ none ∨ record.lastErrorMessage ≠ none)
      ⟨.valueError, "published GitHub publication must not retain failure state"⟩
  else
    Raising.raiseIf (record.hasPullRequest = true)
      ⟨.valueError, "non-published GitHub publication must not contain Pull Request facts"⟩
    if record.state = .failed then
      Raising.raiseIf (record.lastErrorCode = none ∨ record.lastErrorMessage = none)
        ⟨.valueError, "failed GitHub publication requires bounded failure evidence"⟩
    else
      Raising.raiseIf (record.lastErrorCode ≠ none ∨ record.lastErrorMessage ≠ none)
        ⟨.valueError, "active/ready GitHub publication must not contain failure evidence"⟩

end GitHubPublicationRecord

/-- `PersistedGitHubPublication`. -/
structure PersistedGitHubPublication extends GitHubPublicationRecord where
  fields : toGitHubPublicationRecord.validateFields = .ok ()
  shape : toGitHubPublicationRecord.validateStateShape = .ok ()

/-- The model's constructor. -/
def PersistedGitHubPublication.ofRecord (record : GitHubPublicationRecord) :
    Except Failure PersistedGitHubPublication :=
  match hfields : record.validateFields, hshape : record.validateStateShape with
  | .ok (), .ok () => .ok ⟨record, hfields, hshape⟩
  | .error failure, _ => .error failure
  | .ok (), .error failure => .error failure

namespace GitHubPublicationRow

/-- The arguments of `PersistedGitHubPublication` in `_decode`. -/
def record (row : GitHubPublicationRow) (intent : GitHubPublicationIntent) :
    GitHubPublicationRecord where
  intent := intent
  intentSha256 := row.intentSha256
  state := row.state
  attemptCount := row.attemptCount
  pullRequestNumber := row.pullRequestNumber
  pullRequestUrl := row.pullRequestUrl
  pullRequestState := row.pullRequestState
  pullRequestDraft := row.pullRequestDraft
  lastErrorCode := row.lastErrorCode
  lastErrorMessage := row.lastErrorMessage
  createdAt := row.createdAt
  updatedAt := row.updatedAt

/-- The claim data of the row. -/
def validateClaim (row : GitHubPublicationRow) : Except Failure Unit :=
  if row.state = .publishing then
    Raising.raiseIf (row.attemptToken = none ∨ row.attemptExpiresAt = none)
      ⟨.valueError, "publishing GitHub audit row lacks an active claim"⟩
  else
    Raising.raiseIf (row.attemptToken ≠ none ∨ row.attemptExpiresAt ≠ none)
      ⟨.valueError, "inactive GitHub audit row retains publication claim data"⟩

/-- The `try` block of `_decode`. -/
def validated (row : GitHubPublicationRow) : Except Failure PersistedGitHubPublication := do
  let intent ← GitHubPublicationIntent.modelValidate row.intent
  row.validateClaim
  PersistedGitHubPublication.ofRecord (row.record intent)

/-- `_decode`. -/
def decode (digest : PayloadDigest) (runId : UUID) (row : GitHubPublicationRow) :
    Except Failure PersistedGitHubPublication := do
  Raising.raiseIf (digest.sha256 row.intent ≠ row.intentSha256)
    ⟨.persistenceCorruption, "GitHub publication intent for Run " ++ runId.str ++
      " payload hash mismatch: expected " ++ row.intentSha256 ++ ", got " ++
      digest.sha256 row.intent⟩
  match row.validated with
  | .ok publication => return publication
  | .error failure => throw ⟨.persistenceCorruption,
      "GitHub publication audit row failed validation for Run " ++ runId.str ++ ": " ++
        failure.message⟩

/-- The text columns of the row. -/
def texts (row : GitHubPublicationRow) : List String :=
  [row.intent.repositoryUrl, row.intent.repositorySlug, row.intent.baseBranch,
    row.intent.branchName] ++ row.pullRequestUrl.toList ++ row.pullRequestState.toList ++
    row.lastErrorCode.toList ++ row.lastErrorMessage.toList

/-- `flush`: PostgreSQL has 32-bit integers and no NUL in a text. -/
def flush (row : GitHubPublicationRow) : Except Failure Unit := do
  Raising.raiseIf (2 ^ 31 ≤ row.attemptCount ∨
      row.pullRequestNumber.any fun number => 2 ^ 31 ≤ number)
    ⟨.operationalError, "integer out of range"⟩
  Raising.raiseIf (row.texts.any fun text => text.toList.any fun c => c.toNat = 0)
    ⟨.operationalError, "invalid byte sequence"⟩

end GitHubPublicationRow

/-- What the operations read of a `RunRow`. -/
structure PublicationRun where
  projectId : UUID
  status : RunStatus
deriving DecidableEq, Repr

/-- The tables `runs` and `github_publications`. -/
structure PublicationTables where
  runs : UUID → Option PublicationRun
  rows : UUID → Option GitHubPublicationRow

/-- What an operation returns; only `begin_attempt` returns a token. -/
structure PublicationAnswer where
  publication : PersistedGitHubPublication
  attemptToken : Option UUID := none

/-- `_PUBLICATION_CLAIM_SECONDS`, in microseconds. -/
def publicationClaim : Timestamp := 300 * 1000000

namespace PublicationTables

/-- The tables with another row of the run. -/
def setRow (w : PublicationTables) (runId : UUID) (row : GitHubPublicationRow) :
    PublicationTables :=
  { w with rows := Function.update w.rows runId (some row) }

/-- `flush`, `refresh` and the `_decode` of the answer, then the commit. -/
def commit (digest : PayloadDigest) (w : PublicationTables) (runId : UUID)
    (row : GitHubPublicationRow) (attemptToken : Option UUID) :
    Except Failure (PublicationAnswer × PublicationTables) := do
  row.flush
  let publication ← row.decode digest runId
  return (⟨publication, attemptToken⟩, w.setRow runId row)

/-- `_locked_row`. -/
def lockedRow (w : PublicationTables) (runId : UUID) : Except Failure GitHubPublicationRow :=
  match w.rows runId with
  | some row => return row
  | none => throw ⟨.persistenceConflict,
      "GitHub publication audit row must exist before recording an external result"⟩

end PublicationTables

namespace GitHubPublicationRow

/-- The row of a first attempt. -/
def started (intent : GitHubPublicationIntent) (sha256 : String) (attemptToken : UUID)
    (observedAt : Timestamp) : GitHubPublicationRow where
  intent := intent.toGitHubPublicationPayload
  intentSha256 := sha256
  state := .publishing
  attemptCount := 1
  attemptToken := some attemptToken
  attemptExpiresAt := some (observedAt + publicationClaim)
  createdAt := observedAt
  updatedAt := observedAt

/-- The row of another attempt. -/
def restarted (row : GitHubPublicationRow) (attemptToken : UUID) (observedAt : Timestamp) :
    GitHubPublicationRow :=
  { row with
    state := .publishing
    attemptCount := row.attemptCount + 1
    attemptToken := some attemptToken
    attemptExpiresAt := some (observedAt + publicationClaim)
    pullRequestNumber := none
    pullRequestUrl := none
    pullRequestState := none
    pullRequestDraft := none
    lastErrorCode := none
    lastErrorMessage := none
    updatedAt := observedAt }

/-- The row with the facts of the pull request. -/
def published (row : GitHubPublicationRow) (remote : GitHubRemotePullRequest)
    (observedAt : Timestamp) : GitHubPublicationRow :=
  { row with
    state := .published
    attemptToken := none
    attemptExpiresAt := none
    pullRequestNumber := some remote.number
    pullRequestUrl := some remote.htmlUrl
    pullRequestState := some remote.state
    pullRequestDraft := some remote.draft
    lastErrorCode := none
    lastErrorMessage := none
    updatedAt := observedAt }

/-- The row with a failure. -/
def failed (row : GitHubPublicationRow) (code message : String) (observedAt : Timestamp) :
    GitHubPublicationRow :=
  { row with
    state := .failed
    attemptToken := none
    attemptExpiresAt := none
    pullRequestNumber := none
    pullRequestUrl := none
    pullRequestState := none
    pullRequestDraft := none
    lastErrorCode := some code
    lastErrorMessage := some message
    updatedAt := observedAt }

/-- `_assert_active_attempt`. -/
def assertActiveAttempt (row : GitHubPublicationRow) (current : PersistedGitHubPublication)
    (attemptToken : UUID) (observedAt : Timestamp) : Except Failure Unit :=
  Raising.raiseIf (current.state ≠ .publishing ∨ row.attemptToken ≠ some attemptToken ∨
      row.attemptExpiresAt.all fun expires => expires ≤ observedAt)
    ⟨.persistenceConflict, "GitHub publication result belongs to a stale or expired attempt"⟩

end GitHubPublicationRow

/-- `_assert_intent_digest`. -/
def PersistedGitHubPublication.assertIntentDigest (current : PersistedGitHubPublication)
    (intentSha256 : String) : Except Failure Unit :=
  Raising.raiseIf (current.intentSha256 ≠ intentSha256)
    ⟨.persistenceConflict, "GitHub publication result does not match the immutable intent hash"⟩

/-- `begin_attempt`; `attemptToken` is the `uuid4()` that it may draw. -/
def beginAttempt (digest : PayloadDigest) (intent : GitHubPublicationIntent)
    (attemptToken : UUID) (observedAt : Timestamp) (w : PublicationTables) :
    Except Failure (PublicationAnswer × PublicationTables) := do
  let sha256 := digest.sha256 intent.toGitHubPublicationPayload
  match w.runs intent.runId with
  | none => throw ⟨.valueError, "unknown persistence run: " ++ intent.runId.str⟩
  | some run =>
    Raising.raiseIf (run.projectId ≠ intent.projectId)
      ⟨.persistenceCorruption,
        "GitHub publication project identity disagrees with the persisted Run"⟩
    Raising.raiseIf (run.status ≠ .succeeded)
      ⟨.persistenceConflict,
        "GitHub publication attempts require an already-SUCCEEDED persisted Run"⟩
    match w.rows intent.runId with
    | none =>
      w.commit digest intent.runId (.started intent sha256 attemptToken observedAt)
        (some attemptToken)
    | some row =>
      let current ← row.decode digest intent.runId
      Raising.raiseIf (current.intentSha256 ≠ sha256)
        ⟨.persistenceConflict,
          "GitHub publication intent is immutable and differs from the accepted audit row"⟩
      if current.state = .published then
        return (⟨current, none⟩, w)
      else
        Raising.raiseIf (current.state = .publishing ∧
            row.attemptExpiresAt.any fun expires => observedAt < expires)
          ⟨.persistenceConflict,
            "GitHub publication attempt is already in progress for this Run"⟩
        w.commit digest intent.runId (row.restarted attemptToken observedAt) (some attemptToken)

/-- `mark_published`. -/
def markPublished (digest : PayloadDigest) (runId : UUID) (intentSha256 : String)
    (attemptToken : UUID) (remote : GitHubRemotePullRequest) (observedAt : Timestamp)
    (w : PublicationTables) : Except Failure (PublicationAnswer × PublicationTables) := do
  let row ← w.lockedRow runId
  let current ← row.decode digest runId
  current.assertIntentDigest intentSha256
  if current.state = .published then
    Raising.raiseIf (current.pullRequestNumber ≠ some remote.number ∨
        current.pullRequestUrl ≠ some remote.htmlUrl ∨
        current.pullRequestState ≠ some remote.state ∨
        current.pullRequestDraft ≠ some remote.draft)
      ⟨.persistenceConflict,
        "published GitHub audit facts cannot be replaced by different remote facts"⟩
    return (⟨current, none⟩, w)
  else
    row.assertActiveAttempt current attemptToken observedAt
    Raising.raiseIf (remote.headBranch ≠ current.intent.branchName ∨
        remote.headCommit ≠ current.intent.sourceCommit ∨
        remote.baseBranch ≠ current.intent.baseBranch)
      ⟨.persistenceConflict,
        "GitHub Pull Request facts do not match the immutable publication intent"⟩
    w.commit digest runId (row.published remote observedAt) none

/-- `text.strip()[:length]`. -/
def boundedStrip (text : String) (length : ℕ) : String :=
  String.ofList ((strip text).toList.take length)

/-- `mark_failed`. -/
def markFailed (digest : PayloadDigest) (runId : UUID) (intentSha256 : String)
    (attemptToken : UUID) (errorCode errorMessage : String) (observedAt : Timestamp)
    (w : PublicationTables) : Except Failure (PublicationAnswer × PublicationTables) := do
  let code := boundedStrip errorCode 64
  let message := boundedStrip errorMessage 512
  Raising.raiseIf (code = "" ∨ message = "")
    ⟨.valueError, "GitHub publication failure requires bounded code and message"⟩
  let row ← w.lockedRow runId
  let current ← row.decode digest runId
  current.assertIntentDigest intentSha256
  if current.state = .published then
    return (⟨current, none⟩, w)
  else
    row.assertActiveAttempt current attemptToken observedAt
    w.commit digest runId (row.failed code message observedAt) none

end DevFlow
