/-
# Every order of publication attempts

Any number of callers begin attempts and report their results, each with a clock
reading of its own, while the runs are written by others.  Every operation that
changes the row of a run starts an attempt or records the result of the last one
(`PublicationInput.perform_cases`), and leaves a row that can be decoded.  What a
row says of the past is an invariant of the history: the attempts are counted, a
PUBLISHING row is that of the last attempt begun, and a PUBLISHED row has the
facts that matched its intent.
-/

import DevFlow.Library.Runs
import DevFlow.Persistence.Publication

namespace DevFlow

/-! ### Decoding -/

namespace GitHubPublicationRow

variable {digest : PayloadDigest} {runId : UUID} {row : GitHubPublicationRow}
  {publication : PersistedGitHubPublication}

/-- **What `_decode` accepts**: the digest of the payload, and a row that is validated. -/
theorem decode_eq_ok : row.decode digest runId = .ok publication ↔
    digest.sha256 row.intent = row.intentSha256 ∧ row.validated = .ok publication := by
  simp only [decode, Raising.bind_eq_ok, Raising.raiseIf_eq_ok, not_not]
  cases row.validated with
  | ok found => simp
  | error failure => simp

/-- What is validated of a row. -/
theorem validated_eq_ok (h : row.validated = .ok publication) :
    row.validateClaim = .ok () ∧
      publication.intent.toGitHubPublicationPayload = row.intent ∧
      publication.toGitHubPublicationRecord = row.record publication.intent := by
  simp only [validated, Raising.bind_eq_ok] at h
  obtain ⟨intent, hintent, _, hclaim, hrecord⟩ := h
  have hsame : intent.toGitHubPublicationPayload = row.intent := by
    unfold GitHubPublicationIntent.modelValidate at hintent
    split at hintent
    · obtain rfl := Except.ok.inj hintent
      rfl
    · cases hintent
  unfold PersistedGitHubPublication.ofRecord at hrecord
  split at hrecord
  · obtain rfl := Except.ok.inj hrecord
    exact ⟨hclaim, hsame, rfl⟩
  · cases hrecord
  · cases hrecord

/-- What is enough to validate a row. -/
theorem exists_validated (intent : GitHubPublicationIntent)
    (hintent : intent.toGitHubPublicationPayload = row.intent) (hclaim : row.validateClaim = .ok ())
    (hfields : (row.record intent).validateFields = .ok ())
    (hshape : (row.record intent).validateStateShape = .ok ()) :
    ∃ publication, row.validated = .ok publication := by
  refine ⟨⟨row.record intent, hfields, hshape⟩, ?_⟩
  simp only [validated, Raising.bind_eq_ok]
  refine ⟨intent, hintent ▸ intent.modelValidate_payload, (), hclaim, ?_⟩
  unfold PersistedGitHubPublication.ofRecord
  split
  · rfl
  · rename_i hfailed
    rw [hfields] at hfailed
    cases hfailed
  · rename_i hfailed
    rw [hshape] at hfailed
    cases hfailed

/-- The row can be decoded. -/
def Decodes (digest : PayloadDigest) (row : GitHubPublicationRow) : Prop :=
  digest.sha256 row.intent = row.intentSha256 ∧ ∃ publication, row.validated = .ok publication

theorem Decodes.of_decode (h : row.decode digest runId = .ok publication) : row.Decodes digest :=
  ⟨(decode_eq_ok.1 h).1, publication, (decode_eq_ok.1 h).2⟩

theorem Decodes.exists_decode (h : row.Decodes digest) (runId : UUID) :
    ∃ publication, row.decode digest runId = .ok publication := by
  obtain ⟨publication, hvalidated⟩ := h.2
  exact ⟨publication, decode_eq_ok.2 ⟨h.1, hvalidated⟩⟩

/-- **The four rows that are written can be decoded.** -/
theorem started_decodes (digest : PayloadDigest) (intent : GitHubPublicationIntent) (token : UUID)
    (now : Timestamp) :
    (started intent (digest.sha256 intent.toGitHubPublicationPayload) token now).Decodes digest := by
  refine ⟨rfl, exists_validated intent rfl rfl ?_ rfl⟩
  simp [GitHubPublicationRecord.validateFields, record, started, digest.pattern]

theorem Decodes.restarted (h : row.Decodes digest) (token : UUID) (now : Timestamp) :
    (row.restarted token now).Decodes digest := by
  obtain ⟨hdigest, publication, hvalidated⟩ := h
  obtain ⟨-, hintent, -⟩ := validated_eq_ok hvalidated
  refine ⟨hdigest, exists_validated publication.intent hintent rfl ?_ rfl⟩
  simp [GitHubPublicationRecord.validateFields, record, GitHubPublicationRow.restarted, ← hdigest,
    digest.pattern]

theorem Decodes.published (h : row.Decodes digest) (remote : GitHubRemotePullRequest)
    (now : Timestamp) : (row.published remote now).Decodes digest := by
  obtain ⟨hdigest, publication, hvalidated⟩ := h
  obtain ⟨-, hintent, -⟩ := validated_eq_ok hvalidated
  refine ⟨hdigest, exists_validated publication.intent hintent rfl ?_ rfl⟩
  have hnumber := remote.number_pos
  have hurl := remote.url_length.2
  simp only [GitHubPublicationRecord.validateFields, record, GitHubPublicationRow.published,
    Raising.bind_eq_ok, Raising.raiseIf_eq_ok, ← hdigest, digest.pattern, Option.any_some,
    Option.any_none, decide_eq_true_eq]
  refine ⟨(), by simp, (), by omega, (), by omega, (), ?_, (), by simp, by simp⟩
  rcases remote.state_pattern with hstate | hstate
  · simp [hstate]
  · simp [hstate]

theorem Decodes.failed (h : row.Decodes digest) {code message : String} (hcode : code.length ≤ 64)
    (hmessage : message.length ≤ 512) (now : Timestamp) :
    (row.failed code message now).Decodes digest := by
  obtain ⟨hdigest, publication, hvalidated⟩ := h
  obtain ⟨-, hintent, -⟩ := validated_eq_ok hvalidated
  refine ⟨hdigest, exists_validated publication.intent hintent rfl ?_ rfl⟩
  simp only [GitHubPublicationRecord.validateFields, record, GitHubPublicationRow.failed,
    Raising.bind_eq_ok, Raising.raiseIf_eq_ok, ← hdigest, digest.pattern, Option.any_some,
    Option.any_none, decide_eq_true_eq]
  exact ⟨(), by simp, (), by simp, (), by simp, (), by simp, (), by omega, by omega⟩

end GitHubPublicationRow

theorem boundedStrip_length (text : String) (length : ℕ) :
    (boundedStrip text length).length ≤ length := by
  rw [boundedStrip, String.length_ofList, List.length_take]
  omega

/-! ### The operations -/

/-- What happens to the tables; `attemptToken` of `begin` is the one that may be drawn,
and `other` is a write to the runs. -/
inductive PublicationInput
  | begin (intent : GitHubPublicationIntent) (attemptToken : UUID) (observedAt : Timestamp)
  | markPublished (runId : UUID) (intentSha256 : String) (attemptToken : UUID)
      (remote : GitHubRemotePullRequest) (observedAt : Timestamp)
  | markFailed (runId : UUID) (intentSha256 : String) (attemptToken : UUID)
      (errorCode errorMessage : String) (observedAt : Timestamp)
  | other (runs : UUID → Option PublicationRun)

/-- The operation of an input; a write to the runs answers nothing. -/
def PublicationInput.perform (digest : PayloadDigest) (w : PublicationTables) :
    PublicationInput → Except Failure (Option PublicationAnswer × PublicationTables)
  | .begin intent attemptToken observedAt =>
    Prod.map some id <$> beginAttempt digest intent attemptToken observedAt w
  | .markPublished runId intentSha256 attemptToken remote observedAt =>
    Prod.map some id <$> DevFlow.markPublished digest runId intentSha256 attemptToken remote
      observedAt w
  | .markFailed runId intentSha256 attemptToken errorCode errorMessage observedAt =>
    Prod.map some id <$> DevFlow.markFailed digest runId intentSha256 attemptToken errorCode
      errorMessage observedAt w
  | .other runs => .ok (none, { w with runs })

/-- One step: the transaction commits, or is rolled back. -/
def publicationStep (digest : PayloadDigest) (w : PublicationTables) (input : PublicationInput)
    (output : Except Failure (Option PublicationAnswer)) (t : PublicationTables) : Prop :=
  (∃ answer, input.perform digest w = .ok (answer, t) ∧ output = .ok answer) ∨
    ∃ failure, input.perform digest w = .error failure ∧ output = .error failure ∧ t = w

section operations

variable {digest : PayloadDigest} {w t : PublicationTables} {row : GitHubPublicationRow}
  {answer : PublicationAnswer} {intent : GitHubPublicationIntent} {runId token : UUID}
  {now : Timestamp} {sha256 : String}

/-- What is committed. -/
theorem PublicationTables.commit_eq_ok {attemptToken : Option UUID}
    (h : w.commit digest runId row attemptToken = .ok (answer, t)) :
    row.Decodes digest ∧ answer.attemptToken = attemptToken ∧ t = w.setRow runId row := by
  simp only [commit, Raising.bind_eq_ok, Raising.pure_eq_ok, Prod.mk.injEq] at h
  obtain ⟨_, -, publication, hdecode, rfl, rfl⟩ := h
  exact ⟨.of_decode hdecode, rfl, rfl⟩

theorem PublicationTables.lockedRow_eq_ok (h : w.lockedRow runId = .ok row) :
    w.rows runId = some row := by
  unfold lockedRow at h
  split at h
  · rename_i found hfound
    rw [hfound, Raising.pure_eq_ok.1 h]
  · cases h

/-- The answer of a row is that of its columns. -/
theorem GitHubPublicationRow.decode_record {publication : PersistedGitHubPublication}
    (h : row.decode digest runId = .ok publication) :
    publication.intent.toGitHubPublicationPayload = row.intent ∧
      publication.toGitHubPublicationRecord = row.record publication.intent :=
  (validated_eq_ok (decode_eq_ok.1 h).2).2

/-- **What `begin_attempt` does**: nothing for a PUBLISHED row, or it starts an attempt,
the first one or one after the last has ended. -/
theorem beginAttempt_eq_ok (h : beginAttempt digest intent token now w = .ok (answer, t)) :
    (t = w ∧ answer.attemptToken = none) ∨
      answer.attemptToken = some token ∧
        ((w.rows intent.runId = none ∧ t = w.setRow intent.runId
            (.started intent (digest.sha256 intent.toGitHubPublicationPayload) token now)) ∨
          ∃ row, w.rows intent.runId = some row ∧ row.state ≠ .published ∧
            t = w.setRow intent.runId (row.restarted token now)) := by
  unfold beginAttempt at h
  dsimp only at h
  cases hrun : w.runs intent.runId with
  | none =>
    simp only [hrun] at h
    cases h
  | some run =>
    simp only [hrun, Raising.bind_eq_ok] at h
    obtain ⟨_, -, _, -, h⟩ := h
    cases hrow : w.rows intent.runId with
    | none =>
      simp only [hrow] at h
      obtain ⟨-, hanswer, ht⟩ := PublicationTables.commit_eq_ok h
      exact Or.inr ⟨hanswer, Or.inl ⟨rfl, ht⟩⟩
    | some row =>
      simp only [hrow, Raising.bind_eq_ok] at h
      obtain ⟨current, hcurrent, _, -, h⟩ := h
      obtain ⟨-, hrecord⟩ := row.decode_record hcurrent
      have hstate : current.state = row.state :=
        congrArg GitHubPublicationRecord.state hrecord
      rw [hstate] at h
      split_ifs at h with hpublished
      · rw [Raising.pure_eq_ok, Prod.mk.injEq] at h
        obtain ⟨rfl, rfl⟩ := h
        exact Or.inl ⟨rfl, rfl⟩
      · rw [Raising.bind_eq_ok] at h
        obtain ⟨_, -, h⟩ := h
        obtain ⟨-, hanswer, ht⟩ := PublicationTables.commit_eq_ok h
        exact Or.inr ⟨hanswer, Or.inr ⟨row, rfl, hpublished, ht⟩⟩

/-- The attempt of the token is the current one and has not expired. -/
structure GitHubPublicationRow.Active (row : GitHubPublicationRow) (token : UUID)
    (now : Timestamp) : Prop where
  publishing : row.state = .publishing
  current : row.attemptToken = some token
  unexpired : ∃ expires, row.attemptExpiresAt = some expires ∧ now < expires

theorem GitHubPublicationRow.assertActiveAttempt_eq_ok {current : PersistedGitHubPublication}
    (hstate : current.state = row.state)
    (h : row.assertActiveAttempt current token now = .ok ()) : row.Active token now := by
  rw [assertActiveAttempt, Raising.raiseIf_eq_ok, hstate, not_or, not_or, not_not, not_not] at h
  obtain ⟨hpublishing, hcurrent, hexpires⟩ := h
  refine ⟨hpublishing, hcurrent, ?_⟩
  cases hat : row.attemptExpiresAt with
  | none => simp [hat] at hexpires
  | some expires => exact ⟨expires, rfl, by simpa [hat] using hexpires⟩

/-- The facts of the pull request are those of the intent. -/
def GitHubRemotePullRequest.Matches (remote : GitHubRemotePullRequest)
    (intent : GitHubPublicationPayload) : Prop :=
  remote.headBranch = intent.branchName ∧ remote.headCommit = intent.sourceCommit ∧
    remote.baseBranch = intent.baseBranch

/-- **What `mark_published` does**: nothing for a PUBLISHED row, or it records facts that
match the intent, for the current attempt while it has not expired. -/
theorem markPublished_eq_ok {remote : GitHubRemotePullRequest}
    (h : markPublished digest runId sha256 token remote now w = .ok (answer, t)) :
    answer.attemptToken = none ∧ (t = w ∨ ∃ row, w.rows runId = some row ∧ row.Active token now ∧
      remote.Matches row.intent ∧ t = w.setRow runId (row.published remote now)) := by
  simp only [markPublished, Raising.bind_eq_ok] at h
  obtain ⟨row, hrow, current, hcurrent, _, -, h⟩ := h
  have hfound := PublicationTables.lockedRow_eq_ok hrow
  obtain ⟨hintent, hrecord⟩ := row.decode_record hcurrent
  have hstate : current.state = row.state := congrArg GitHubPublicationRecord.state hrecord
  split_ifs at h with hpublished
  · simp only [Raising.bind_eq_ok, Raising.pure_eq_ok, Prod.mk.injEq] at h
    obtain ⟨_, -, rfl, rfl⟩ := h
    exact ⟨rfl, Or.inl rfl⟩
  · simp only [Raising.bind_eq_ok, Raising.raiseIf_eq_ok, not_or, not_not] at h
    obtain ⟨_, hactive, _, hfacts, h⟩ := h
    obtain ⟨-, hanswer, ht⟩ := PublicationTables.commit_eq_ok h
    rw [hintent] at hfacts
    exact ⟨hanswer, Or.inr ⟨row, hfound, row.assertActiveAttempt_eq_ok hstate hactive, hfacts, ht⟩⟩

/-- **What `mark_failed` does**: nothing for a PUBLISHED row, or it records the failure of
the current attempt while it has not expired. -/
theorem markFailed_eq_ok {errorCode errorMessage : String}
    (h : markFailed digest runId sha256 token errorCode errorMessage now w = .ok (answer, t)) :
    answer.attemptToken = none ∧ (t = w ∨ ∃ row, w.rows runId = some row ∧ row.Active token now ∧
      t = w.setRow runId (row.failed (boundedStrip errorCode 64) (boundedStrip errorMessage 512)
        now)) := by
  simp only [markFailed, Raising.bind_eq_ok] at h
  obtain ⟨_, -, row, hrow, current, hcurrent, _, -, h⟩ := h
  have hfound := PublicationTables.lockedRow_eq_ok hrow
  obtain ⟨hintent, hrecord⟩ := row.decode_record hcurrent
  have hstate : current.state = row.state := congrArg GitHubPublicationRecord.state hrecord
  split_ifs at h with hpublished
  · rw [Raising.pure_eq_ok, Prod.mk.injEq] at h
    obtain ⟨rfl, rfl⟩ := h
    exact ⟨rfl, Or.inl rfl⟩
  · rw [Raising.bind_eq_ok] at h
    obtain ⟨_, hactive, h⟩ := h
    obtain ⟨-, hanswer, ht⟩ := PublicationTables.commit_eq_ok h
    exact ⟨hanswer, Or.inr ⟨row, hfound, row.assertActiveAttempt_eq_ok hstate hactive, ht⟩⟩

/-! ### Corruption is never reported -/

/-- What a decodable row cannot raise when it is written. -/
theorem PublicationTables.commit_eq_error {attemptToken : Option UUID} {failure : Failure}
    (hrow : row.Decodes digest) (h : w.commit digest runId row attemptToken = .error failure) :
    failure.kind ≠ .persistenceCorruption := by
  obtain ⟨publication, hdecode⟩ := hrow.exists_decode runId
  simp only [commit, GitHubPublicationRow.flush, Raising.bind_eq_error, Raising.raiseIf_eq_error,
    hdecode, pure, Except.pure] at h
  rcases h with (⟨-, rfl⟩ | ⟨_, -, -, rfl⟩) | ⟨_, -, h⟩
  · decide
  · decide
  · rcases h with h | ⟨_, -, h⟩
    · cases h
    · cases h

theorem PublicationTables.lockedRow_eq_error {failure : Failure}
    (h : w.lockedRow runId = .error failure) : failure.kind = .persistenceConflict := by
  unfold lockedRow at h
  split at h
  · cases h
  · obtain rfl := Except.error.inj h
    rfl

/-- Every row of the tables can be decoded. -/
def PublicationTables.Decode (digest : PayloadDigest) (w : PublicationTables) : Prop :=
  ∀ runId row, w.rows runId = some row → row.Decodes digest

theorem beginAttempt_eq_error {failure : Failure} (hw : w.Decode digest)
    (h : beginAttempt digest intent token now w = .error failure)
    (hkind : failure.kind = .persistenceCorruption) :
    ∃ run, w.runs intent.runId = some run ∧ run.projectId ≠ intent.projectId := by
  unfold beginAttempt at h
  dsimp only at h
  cases hrun : w.runs intent.runId with
  | none =>
    simp only [hrun] at h
    obtain rfl := Except.error.inj h
    cases hkind
  | some run =>
    simp only [hrun, Raising.bind_eq_error, Raising.raiseIf_eq_error] at h
    rcases h with ⟨hproject, -⟩ | ⟨_, -, ⟨-, rfl⟩ | ⟨_, -, h⟩⟩
    · exact ⟨run, rfl, hproject⟩
    · cases hkind
    · exfalso
      cases hrow : w.rows intent.runId with
      | none =>
        simp only [hrow] at h
        exact PublicationTables.commit_eq_error (GitHubPublicationRow.started_decodes digest intent
          token now) h hkind
      | some row =>
        obtain ⟨current, hcurrent⟩ := (hw _ row hrow).exists_decode intent.runId
        simp only [hrow, hcurrent, Raising.ok_bind, Raising.bind_eq_error,
          Raising.raiseIf_eq_error] at h
        rcases h with ⟨-, rfl⟩ | ⟨_, -, h⟩
        · cases hkind
        · split_ifs at h
          · cases h
          · rcases Raising.bind_eq_error.1 h with h | ⟨_, -, h⟩
            · obtain ⟨-, rfl⟩ := Raising.raiseIf_eq_error.1 h
              cases hkind
            · exact PublicationTables.commit_eq_error ((hw _ row hrow).restarted token now) h hkind

theorem markPublished_eq_error {remote : GitHubRemotePullRequest} {failure : Failure}
    (hw : w.Decode digest)
    (h : markPublished digest runId sha256 token remote now w = .error failure) :
    failure.kind ≠ .persistenceCorruption := by
  intro hkind
  simp only [markPublished, Raising.bind_eq_error] at h
  rcases h with h | ⟨row, hrow, h⟩
  · rw [PublicationTables.lockedRow_eq_error h] at hkind
    cases hkind
  · have hdecodes := hw _ row (PublicationTables.lockedRow_eq_ok hrow)
    obtain ⟨current, hcurrent⟩ := hdecodes.exists_decode runId
    simp only [hcurrent, reduceCtorEq, false_or, Except.ok.injEq, exists_eq_left',
      PersistedGitHubPublication.assertIntentDigest, Raising.raiseIf_eq_error] at h
    rcases h with ⟨-, rfl⟩ | ⟨_, -, h⟩
    · cases hkind
    · split_ifs at h
      · simp only [Raising.bind_eq_error, Raising.raiseIf_eq_error, pure, Except.pure] at h
        rcases h with ⟨-, rfl⟩ | ⟨_, -, h⟩
        · cases hkind
        · cases h
      · simp only [Raising.bind_eq_error, GitHubPublicationRow.assertActiveAttempt,
          Raising.raiseIf_eq_error] at h
        rcases h with ⟨-, rfl⟩ | ⟨_, -, ⟨-, rfl⟩ | ⟨_, -, h⟩⟩
        · cases hkind
        · cases hkind
        · exact PublicationTables.commit_eq_error (hdecodes.published remote now) h hkind

theorem markFailed_eq_error {errorCode errorMessage : String} {failure : Failure}
    (hw : w.Decode digest)
    (h : markFailed digest runId sha256 token errorCode errorMessage now w = .error failure) :
    failure.kind ≠ .persistenceCorruption := by
  intro hkind
  simp only [markFailed, Raising.bind_eq_error, Raising.raiseIf_eq_error] at h
  rcases h with ⟨-, rfl⟩ | ⟨_, -, h | ⟨row, hrow, h⟩⟩
  · cases hkind
  · rw [PublicationTables.lockedRow_eq_error h] at hkind
    cases hkind
  · have hdecodes := hw _ row (PublicationTables.lockedRow_eq_ok hrow)
    obtain ⟨current, hcurrent⟩ := hdecodes.exists_decode runId
    simp only [hcurrent, reduceCtorEq, false_or, Except.ok.injEq, exists_eq_left',
      PersistedGitHubPublication.assertIntentDigest, Raising.raiseIf_eq_error] at h
    rcases h with ⟨-, rfl⟩ | ⟨_, -, h⟩
    · cases hkind
    · split_ifs at h
      · cases h
      · simp only [Raising.bind_eq_error, GitHubPublicationRow.assertActiveAttempt,
          Raising.raiseIf_eq_error] at h
        rcases h with ⟨-, rfl⟩ | ⟨_, -, h⟩
        · cases hkind
        · exact PublicationTables.commit_eq_error (hdecodes.failed (boundedStrip_length _ _)
            (boundedStrip_length _ _) now) h hkind

end operations

/-! ### One row, step by step -/

/-- An event of the tables. -/
abbrev PublicationEvent :=
  Runs.Event PublicationTables PublicationInput (Except Failure (Option PublicationAnswer))

/-- The event began an attempt of the run: `begin_attempt` returned a token. -/
def PublicationEvent.begins (runId : UUID) (e : PublicationEvent) : Bool :=
  match e.input, e.output with
  | .begin intent _ _, .ok (some answer) => intent.runId = runId && answer.attemptToken.isSome
  | _, _ => false

/-- The event began an attempt of the run with this token at this time. -/
structure PublicationEvent.BeganWith (e : PublicationEvent) (runId token : UUID)
    (now : Timestamp) : Prop where
  begins : PublicationEvent.begins runId e = true
  input : ∃ intent, e.input = .begin intent token now

/-- **What an event does to the row of a run.** -/
inductive RowStep (digest : PayloadDigest) (runId : UUID) (e : PublicationEvent) :
    Option GitHubPublicationRow → Option GitHubPublicationRow → Prop
  | same (row : Option GitHubPublicationRow) (quiet : e.begins runId = false) :
      RowStep digest runId e row row
  | started {intent : GitHubPublicationIntent} {token : UUID} {now : Timestamp}
      (began : e.BeganWith runId token now) : RowStep digest runId e none
        (some (.started intent (digest.sha256 intent.toGitHubPublicationPayload) token now))
  | restarted {row : GitHubPublicationRow} {token : UUID} {now : Timestamp}
      (began : e.BeganWith runId token now) (open' : row.state ≠ .published) :
      RowStep digest runId e (some row) (some (row.restarted token now))
  | published {row : GitHubPublicationRow} {sha256 : String} {token : UUID}
      {remote : GitHubRemotePullRequest} {now : Timestamp}
      (input : e.input = .markPublished runId sha256 token remote now)
      (active : row.Active token now) (facts : remote.Matches row.intent) :
      RowStep digest runId e (some row) (some (row.published remote now))
  | failed {row : GitHubPublicationRow} {sha256 : String} {token : UUID}
      {errorCode errorMessage : String} {now : Timestamp}
      (input : e.input = .markFailed runId sha256 token errorCode errorMessage now)
      (active : row.Active token now) : RowStep digest runId e (some row)
        (some (row.failed (boundedStrip errorCode 64) (boundedStrip errorMessage 512) now))

section steps

variable {digest : PayloadDigest} {w t : PublicationTables} {input : PublicationInput}
  {output : Except Failure (Option PublicationAnswer)} {runId : UUID}

@[simp] theorem PublicationTables.setRow_self (w : PublicationTables) (runId : UUID)
    (row : GitHubPublicationRow) : (w.setRow runId row).rows runId = some row := by
  simp [setRow]

theorem PublicationTables.setRow_of_ne (w : PublicationTables) {runId other : UUID}
    (row : GitHubPublicationRow) (h : runId ≠ other) :
    (w.setRow other row).rows runId = w.rows runId := by
  simp [setRow, Function.update_of_ne h]

/-- **Every step is one of these for every run**, by the operation. -/
theorem publicationStep_row (h : publicationStep digest w input output t) (runId : UUID) :
    RowStep digest runId ⟨w, input, output, t⟩ (w.rows runId) (t.rows runId) := by
  rcases h with ⟨answer, hperform, rfl⟩ | ⟨failure, -, rfl, rfl⟩
  · cases input with
    | other runs =>
      obtain ⟨-, rfl⟩ := Prod.mk.inj (Except.ok.inj hperform)
      exact .same _ rfl
    | begin intent token now =>
      obtain ⟨⟨found, t'⟩, hbegin, heq⟩ := Raising.map_eq_ok.1 hperform
      obtain ⟨rfl, rfl⟩ := Prod.mk.inj heq
      rcases beginAttempt_eq_ok hbegin with ⟨rfl, hnone⟩ | ⟨hsome, hcases⟩
      · exact .same _ (by simp [PublicationEvent.begins, hnone])
      · by_cases hid : runId = intent.runId
        · subst hid
          have hbegan : PublicationEvent.BeganWith
              ⟨w, .begin intent token now, .ok (some found), t'⟩ intent.runId token now :=
            ⟨by simp [PublicationEvent.begins, hsome], intent, rfl⟩
          rcases hcases with ⟨hrow, rfl⟩ | ⟨row, hrow, hopen, rfl⟩
          · rw [hrow, id, PublicationTables.setRow_self]
            exact .started hbegan
          · rw [hrow, id, PublicationTables.setRow_self]
            exact .restarted hbegan hopen
        · have hsame : t'.rows runId = w.rows runId := by
            rcases hcases with ⟨-, rfl⟩ | ⟨row, -, -, rfl⟩
            · exact PublicationTables.setRow_of_ne _ _ hid
            · exact PublicationTables.setRow_of_ne _ _ hid
          rw [id, hsame]
          exact .same _ (by simp [PublicationEvent.begins, Ne.symm hid])
    | markPublished other sha256 token remote now =>
      obtain ⟨⟨found, t'⟩, hmark, heq⟩ := Raising.map_eq_ok.1 hperform
      obtain ⟨rfl, rfl⟩ := Prod.mk.inj heq
      obtain ⟨-, rfl | ⟨row, hrow, hactive, hfacts, rfl⟩⟩ := markPublished_eq_ok hmark
      · exact .same _ rfl
      · by_cases hid : runId = other
        · subst hid
          rw [hrow, id, PublicationTables.setRow_self]
          exact .published rfl hactive hfacts
        · rw [id, PublicationTables.setRow_of_ne _ _ hid]
          exact .same _ rfl
    | markFailed other sha256 token errorCode errorMessage now =>
      obtain ⟨⟨found, t'⟩, hmark, heq⟩ := Raising.map_eq_ok.1 hperform
      obtain ⟨rfl, rfl⟩ := Prod.mk.inj heq
      obtain ⟨-, rfl | ⟨row, hrow, hactive, rfl⟩⟩ := markFailed_eq_ok hmark
      · exact .same _ rfl
      · by_cases hid : runId = other
        · subst hid
          rw [hrow, id, PublicationTables.setRow_self]
          exact .failed rfl hactive
        · rw [id, PublicationTables.setRow_of_ne _ _ hid]
          exact .same _ rfl
  · refine .same _ ?_
    unfold PublicationEvent.begins
    split
    · rename_i heq
      cases heq
    · rfl

end steps

/-! ### What a row says of the past -/

/-- The last attempt of the run that the events began, its token and its time. -/
def LastAttempt (es : List PublicationEvent) (runId token : UUID) (now : Timestamp) : Prop :=
  ∃ before e after, es = before ++ e :: after ∧ e.BeganWith runId token now ∧
    ∀ e' ∈ after, e'.begins runId = false

/-- The columns have the facts of the pull request. -/
def GitHubPublicationRow.HasFacts (row : GitHubPublicationRow)
    (remote : GitHubRemotePullRequest) : Prop :=
  row.pullRequestNumber = some remote.number ∧ row.pullRequestUrl = some remote.htmlUrl ∧
    row.pullRequestState = some remote.state ∧ row.pullRequestDraft = some remote.draft

/-- A PUBLISHED row has facts that were reported and match its intent. -/
def PublishedBy (es : List PublicationEvent) (runId : UUID) (row : GitHubPublicationRow) : Prop :=
  ∃ e ∈ es, ∃ sha256 token remote now, e.input = .markPublished runId sha256 token remote now ∧
    row.HasFacts remote ∧ remote.Matches row.intent

/-- The row after the events. -/
structure RowHistory (digest : PayloadDigest) (es : List PublicationEvent) (runId : UUID)
    (row : GitHubPublicationRow) : Prop where
  decodes : row.Decodes digest
  count : row.attemptCount = es.countP (PublicationEvent.begins runId)
  last : row.state = .publishing → ∃ token now, LastAttempt es runId token now ∧
    row.attemptToken = some token ∧ row.attemptExpiresAt = some (now + publicationClaim)
  facts : row.state = .published → PublishedBy es runId row

/-- A run without a row has no attempt. -/
def RowPast (digest : PayloadDigest) (es : List PublicationEvent) (runId : UUID) :
    Option GitHubPublicationRow → Prop
  | none => es.countP (PublicationEvent.begins runId) = 0
  | some row => RowHistory digest es runId row

/-- The tables after the events. -/
def TablesHistory (digest : PayloadDigest) (es : List PublicationEvent) (w : PublicationTables) :
    Prop :=
  ∀ runId, RowPast digest es runId (w.rows runId)

section history

variable {digest : PayloadDigest} {es : List PublicationEvent} {e : PublicationEvent}
  {runId token : UUID} {now : Timestamp} {row : GitHubPublicationRow}

theorem LastAttempt.append (h : LastAttempt es runId token now) (he : e.begins runId = false) :
    LastAttempt (es ++ [e]) runId token now := by
  obtain ⟨before, b, after, rfl, hbegan, hafter⟩ := h
  refine ⟨before, b, after ++ [e], by simp, hbegan, fun e' he' => ?_⟩
  rcases List.mem_append.1 he' with hold | hnew
  · exact hafter e' hold
  · rw [List.mem_singleton.1 hnew]
    exact he

theorem LastAttempt.of_began (es : List PublicationEvent) (h : e.BeganWith runId token now) :
    LastAttempt (es ++ [e]) runId token now :=
  ⟨es, e, [], rfl, h, fun _ he' => by cases he'⟩

theorem PublishedBy.append (h : PublishedBy es runId row) (e : PublicationEvent) :
    PublishedBy (es ++ [e]) runId row := by
  obtain ⟨found, hfound, hrest⟩ := h
  exact ⟨found, List.mem_append_left _ hfound, hrest⟩

/-- The attempts that the events began, with one event more. -/
theorem countP_append_of_begins {b : Bool} (h : e.begins runId = b) :
    (es ++ [e]).countP (PublicationEvent.begins runId) =
      es.countP (PublicationEvent.begins runId) + if b then 1 else 0 := by
  rw [List.countP_append, List.countP_singleton, h]

/-- An event that begins nothing keeps what the row says. -/
theorem RowHistory.append (h : RowHistory digest es runId row) (he : e.begins runId = false) :
    RowHistory digest (es ++ [e]) runId row := by
  refine ⟨h.decodes, ?_, fun hstate => ?_, fun hstate => (h.facts hstate).append e⟩
  · rw [countP_append_of_begins he, h.count]
    rfl
  · obtain ⟨token, now, hlast, hclaim⟩ := h.last hstate
    exact ⟨token, now, hlast.append he, hclaim⟩

/-- **Every step keeps the history of a row.** -/
theorem RowStep.history {old new : Option GitHubPublicationRow}
    (h : RowStep digest runId e old new) (hold : RowPast digest es runId old) :
    RowPast digest (es ++ [e]) runId new := by
  cases h with
  | same _ quiet =>
    cases old with
    | none =>
      show (es ++ [e]).countP (PublicationEvent.begins runId) = 0
      rw [countP_append_of_begins quiet]
      exact hold
    | some row => exact RowHistory.append hold quiet
  | started began =>
    refine ⟨GitHubPublicationRow.started_decodes digest _ _ _, ?_, fun _ => ?_, fun hstate => ?_⟩
    · rw [countP_append_of_begins began.begins, show es.countP _ = 0 from hold]
      rfl
    · exact ⟨_, _, .of_began es began, rfl, rfl⟩
    · cases hstate
  | restarted began =>
    refine ⟨hold.decodes.restarted _ _, ?_, fun _ => ?_, fun hstate => ?_⟩
    · rw [countP_append_of_begins began.begins, ← hold.count]
      rfl
    · exact ⟨_, _, .of_began es began, rfl, rfl⟩
    · cases hstate
  | published input active facts =>
    have quiet : e.begins runId = false := by simp [PublicationEvent.begins, input]
    refine ⟨hold.decodes.published _ _, ?_, fun hstate => ?_, fun _ => ?_⟩
    · rw [countP_append_of_begins quiet, ← hold.count]
      rfl
    · cases hstate
    · exact ⟨e, List.mem_append_right _ (List.mem_singleton.2 rfl), _, _, _, _, input,
        ⟨rfl, rfl, rfl, rfl⟩, facts⟩
  | failed input active =>
    have quiet : e.begins runId = false := by simp [PublicationEvent.begins, input]
    refine ⟨hold.decodes.failed (boundedStrip_length _ _) (boundedStrip_length _ _) _, ?_,
      fun hstate => ?_, fun hstate => ?_⟩
    · rw [countP_append_of_begins quiet, ← hold.count]
      rfl
    · cases hstate
    · cases hstate

/-- **Every step keeps the history of the tables.** -/
theorem publicationStep_history {w t : PublicationTables} {input : PublicationInput}
    {output : Except Failure (Option PublicationAnswer)} (hw : TablesHistory digest es w)
    (h : publicationStep digest w input output t) :
    TablesHistory digest (es ++ [⟨w, input, output, t⟩]) t :=
  fun runId => (publicationStep_row h runId).history (hw runId)

theorem TablesHistory.decode {w : PublicationTables} (h : TablesHistory digest es w) :
    w.Decode digest := by
  intro runId row hrow
  have hrows := h runId
  rw [hrow] at hrows
  exact hrows.decodes

/-- **A row is never removed and its intent never changes, and a PUBLISHED row never
changes at all.** -/
theorem RowStep.keeps {old new : Option GitHubPublicationRow} (h : RowStep digest runId e old new)
    (hold : old = some row) : ∃ row', new = some row' ∧ row'.intent = row.intent ∧
      row'.intentSha256 = row.intentSha256 ∧ (row.state = .published → row' = row) := by
  cases h with
  | same => exact ⟨row, hold, rfl, rfl, fun _ => rfl⟩
  | started => cases hold
  | restarted began hopen =>
    obtain rfl := Option.some.inj hold
    exact ⟨_, rfl, rfl, rfl, fun hstate => absurd hstate hopen⟩
  | published input active =>
    obtain rfl := Option.some.inj hold
    refine ⟨_, rfl, rfl, rfl, fun hstate => ?_⟩
    rw [active.publishing] at hstate
    cases hstate
  | failed input active =>
    obtain rfl := Option.some.inj hold
    refine ⟨_, rfl, rfl, rfl, fun hstate => ?_⟩
    rw [active.publishing] at hstate
    cases hstate

end history

/-! ### The audit -/

/-- The event recorded a result: the row of the run became PUBLISHED or FAILED. -/
def PublicationEvent.Records (runId : UUID) (e : PublicationEvent) : Prop :=
  e.after.rows runId ≠ e.before.rows runId ∧
    ∃ row, e.after.rows runId = some row ∧ (row.state = .published ∨ row.state = .failed)

/-- The input reports a result of the run with this token at this time. -/
def PublicationInput.Reports (runId token : UUID) (now : Timestamp) : PublicationInput → Prop
  | .markPublished reported _ presented _ observedAt =>
    reported = runId ∧ presented = token ∧ observedAt = now
  | .markFailed reported _ presented _ _ observedAt =>
    reported = runId ∧ presented = token ∧ observedAt = now
  | _ => False

/-- **A result is that of the current attempt before its deadline.** -/
theorem RowStep.reports {digest : PayloadDigest} {runId : UUID} {e : PublicationEvent}
    {old new : Option GitHubPublicationRow} (h : RowStep digest runId e old new)
    (hchanged : new ≠ old) {row : GitHubPublicationRow} (hnew : new = some row)
    (hstate : row.state = .published ∨ row.state = .failed) :
    ∃ before token now, old = some before ∧ before.Active token now ∧
      e.input.Reports runId token now := by
  cases h with
  | same => exact absurd rfl hchanged
  | started =>
    obtain rfl := Option.some.inj hnew
    rcases hstate with hstate | hstate <;> cases hstate
  | restarted =>
    obtain rfl := Option.some.inj hnew
    rcases hstate with hstate | hstate <;> cases hstate
  | published input active => exact ⟨_, _, _, rfl, active, by rw [input]; exact ⟨rfl, rfl, rfl⟩⟩
  | failed input active => exact ⟨_, _, _, rfl, active, by rw [input]; exact ⟨rfl, rfl, rfl⟩⟩

/-- **What the audit guarantees** after the events `es` that led from `w₀` to `w`. -/
structure PublicationAudit (digest : PayloadDigest) (w₀ : PublicationTables)
    (es : List PublicationEvent) (w : PublicationTables) : Prop where
  /-- The intent never changes, and a PUBLISHED row never changes. -/
  immutable : ∀ es₁ es₂ u, es = es₁ ++ es₂ → Runs.Run (publicationStep digest) w₀ es₁ u →
    Runs.Run (publicationStep digest) u es₂ w → ∀ runId row, u.rows runId = some row →
      ∃ row', w.rows runId = some row' ∧ row'.intent = row.intent ∧
        row'.intentSha256 = row.intentSha256 ∧ (row.state = .published → row' = row)
  /-- The facts of a PUBLISHED row match its intent. -/
  facts : ∀ runId row, w.rows runId = some row → row.state = .published →
    PublishedBy es runId row
  /-- A result is recorded for the last attempt begun, before its deadline. -/
  results : ∀ es₁ e es₂ runId, es = es₁ ++ e :: es₂ → e.Records runId →
    ∃ token began now, e.input.Reports runId token now ∧ LastAttempt es₁ runId token began ∧
      now < began + publicationClaim
  /-- The attempts are counted. -/
  count : ∀ runId, (w.rows runId).elim 0 GitHubPublicationRow.attemptCount =
    es.countP (PublicationEvent.begins runId)
  /-- Every row is decoded. -/
  decoded : ∀ runId row, w.rows runId = some row →
    ∃ publication, row.decode digest runId = .ok publication
  /-- No operation reports a corrupt row: what `begin_attempt` may report is a project
  that is not that of the run. -/
  uncorrupted : ∀ e ∈ es, ∀ failure, e.output = .error failure →
    failure.kind = .persistenceCorruption → ∃ intent token now run,
      e.input = .begin intent token now ∧ e.before.runs intent.runId = some run ∧
        run.projectId ≠ intent.projectId

/-- What a step may report of corruption. -/
theorem publicationStep_eq_error {digest : PayloadDigest} {w t : PublicationTables}
    {input : PublicationInput} {output : Except Failure (Option PublicationAnswer)}
    {failure : Failure} (hw : w.Decode digest) (h : publicationStep digest w input output t)
    (houtput : output = .error failure) (hkind : failure.kind = .persistenceCorruption) :
    ∃ intent token now run, input = .begin intent token now ∧
      w.runs intent.runId = some run ∧ run.projectId ≠ intent.projectId := by
  have herror : ∀ {x : Except Failure (PublicationAnswer × PublicationTables)},
      Prod.map some id <$> x = .error failure → x = .error failure := by
    intro x hx
    cases x with
    | ok r => cases hx
    | error found =>
      obtain rfl := Except.error.inj hx
      rfl
  rcases h with ⟨answer, -, rfl⟩ | ⟨found, hperform, rfl, -⟩
  · cases houtput
  · obtain rfl := Except.error.inj houtput
    cases input with
    | begin intent token now =>
      obtain ⟨run, hrun, hproject⟩ := beginAttempt_eq_error hw (herror hperform) hkind
      exact ⟨intent, token, now, run, rfl, hrun, hproject⟩
    | markPublished => exact absurd hkind (markPublished_eq_error hw (herror hperform))
    | markFailed => exact absurd hkind (markFailed_eq_error hw (herror hperform))
    | other => cases hperform

/-- **The publication audit**, after any order of operations with any clock readings. -/
theorem publication_audit_sound (digest : PayloadDigest) {w₀ w : PublicationTables}
    {es : List PublicationEvent} (h₀ : ∀ runId, w₀.rows runId = none)
    (h : Runs.Run (publicationStep digest) w₀ es w) : PublicationAudit digest w₀ es w := by
  have hstart : TablesHistory digest [] w₀ := by
    intro runId
    rw [h₀ runId]
    rfl
  have hpast : ∀ {fs : List PublicationEvent} {u : PublicationTables},
      Runs.Run (publicationStep digest) w₀ fs u → TablesHistory digest ([] ++ fs) u := fun hrun =>
    hrun.history (fun _ _ _ _ _ hs hstep => publicationStep_history hs hstep) hstart
  have hrow : ∀ {runId : UUID} {row : GitHubPublicationRow}, w.rows runId = some row →
      RowHistory digest es runId row := by
    intro runId row hfound
    have hall := hpast h runId
    rw [hfound] at hall
    exact hall
  constructor
  case immutable =>
    intro es₁ es₂ u _ _ hafter runId row hfound
    exact hafter.invariant
      (I := fun t => ∃ row', t.rows runId = some row' ∧ row'.intent = row.intent ∧
        row'.intentSha256 = row.intentSha256 ∧ (row.state = .published → row' = row))
      (fun s i o t ⟨row', hs, hintent, hsha, hsame⟩ hstep => by
        obtain ⟨new, hnew, hintent', hsha', hsame'⟩ := (publicationStep_row hstep runId).keeps hs
        refine ⟨new, hnew, hintent'.trans hintent, hsha'.trans hsha, fun hstate => ?_⟩
        obtain rfl := hsame hstate
        exact hsame' hstate) ⟨row, hfound, rfl, rfl, fun _ => rfl⟩
  case facts => exact fun runId row hfound hstate => (hrow hfound).facts hstate
  case results =>
    intro es₁ e es₂ runId hes hrecords
    obtain ⟨hchanged, row, hafter, hstate⟩ := hrecords
    obtain ⟨u, hbefore, hrest⟩ := (hes ▸ h).split
    cases hrest with
    | cons hstep _ =>
      obtain ⟨old, token, now, hold, hactive, hreports⟩ :=
        (publicationStep_row hstep runId).reports hchanged hafter hstate
      have hall := hpast hbefore runId
      rw [hold] at hall
      obtain ⟨last, began, hlast, htoken, hexpires⟩ := hall.last hactive.publishing
      obtain rfl := Option.some.inj (htoken.symm.trans hactive.current)
      obtain ⟨expires, hdeadline, hnow⟩ := hactive.unexpired
      obtain rfl := Option.some.inj (hexpires.symm.trans hdeadline)
      exact ⟨last, began, now, hreports, hlast, hnow⟩
  case count =>
    intro runId
    have hall := hpast h runId
    cases hfound : w.rows runId with
    | none =>
      rw [hfound] at hall
      exact hall.symm
    | some row => exact (hrow hfound).count
  case decoded => exact fun runId row hfound => (hrow hfound).decodes.exists_decode runId
  case uncorrupted =>
    intro e he failure houtput hkind
    obtain ⟨es₁, es₂, rfl⟩ := List.append_of_mem he
    obtain ⟨u, hbefore, hrest⟩ := h.split
    cases hrest with
    | cons hstep _ => exact publicationStep_eq_error (hpast hbefore).decode hstep houtput hkind

/-! ### A publication -/

/-- What a step leaves. -/
def PublicationInput.outcome (digest : PayloadDigest) (w : PublicationTables)
    (input : PublicationInput) : Except Failure (Option PublicationAnswer) × PublicationTables :=
  match input.perform digest w with
  | .ok (answer, t) => (.ok answer, t)
  | .error failure => (.error failure, w)

theorem publicationStep_outcome (digest : PayloadDigest) (w : PublicationTables)
    (input : PublicationInput) :
    publicationStep digest w input (input.outcome digest w).1 (input.outcome digest w).2 := by
  unfold PublicationInput.outcome
  cases hperform : input.perform digest w with
  | ok r => exact Or.inl ⟨r.1, hperform, rfl⟩
  | error failure => exact Or.inr ⟨failure, hperform, rfl, rfl⟩

/-- The intent of a run of one task. -/
def samplePayload : GitHubPublicationPayload where
  runId := ⟨7⟩
  projectId := ⟨1⟩
  repositoryUrl := "https://github.com/o/r"
  repositorySlug := "o/r"
  baseBranch := "main"
  branchName := "devflow/run-00000000-0000-0000-0000-000000000007"
  sourceBasis := .singleTask
  sourceCommit := sampleOid '1'
  sourceEvidenceId := 3
  sourceEvidenceSha256 := "2222222222222222222222222222222222222222222222222222222222222222"

def sampleIntent : GitHubPublicationIntent := ⟨samplePayload, by decide +kernel⟩

/-- A digest that is SHA-256 at that payload. -/
def sampleDigest : PayloadDigest where
  sha256 _ := "e03beee765b7394766ce2edf314b64fd9edc55fdf378ad82ddb82482a023acb5"
  pattern _ := by decide +kernel

/-- The pull request of the intent. -/
def samplePullRequest : GitHubRemotePullRequest where
  number := 12
  htmlUrl := "https://github.com/o/r/pull/12"
  state := "open"
  draft := true
  headBranch := "devflow/run-00000000-0000-0000-0000-000000000007"
  headCommit := sampleOid '1'
  baseBranch := "main"
  number_pos := by decide
  url_length := by decide +kernel
  state_pattern := Or.inl rfl
  branch_length := by decide +kernel
  commit_pattern := by decide +kernel
  base_length := by decide +kernel

/-- A SUCCEEDED run without a publication. -/
def unpublished : PublicationTables where
  runs runId := if runId = ⟨7⟩ then some ⟨⟨1⟩, .succeeded⟩ else none
  rows _ := none

/-- The attempt, and its result a second later. -/
def beginInput : PublicationInput := .begin sampleIntent ⟨9⟩ 0

def publishInput : PublicationInput :=
  .markPublished ⟨7⟩ "e03beee765b7394766ce2edf314b64fd9edc55fdf378ad82ddb82482a023acb5" ⟨9⟩
    samplePullRequest 1000000

def begunTables : PublicationTables := (beginInput.outcome sampleDigest unpublished).2

def publishedTables : PublicationTables := (publishInput.outcome sampleDigest begunTables).2

theorem published_audit_sound :
    ((publishedTables.rows ⟨7⟩).map fun row => (row.state, row.attemptCount,
        row.pullRequestNumber)) = some (.published, 1, some 12) ∧
      ∃ es, PublicationAudit sampleDigest unpublished es publishedTables := by
  refine ⟨by decide +kernel, _, publication_audit_sound sampleDigest (fun _ => rfl)
    (Runs.Run.cons (publicationStep_outcome sampleDigest unpublished beginInput)
      (Runs.Run.cons (publicationStep_outcome sampleDigest begunTables publishInput)
        (Runs.Run.nil _)))⟩

end DevFlow
