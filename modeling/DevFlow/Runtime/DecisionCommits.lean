/-
# Human decisions as commits

`runtime/integration_gate.py`: `record_human_decision` writes a decision into the
message of a commit and creates the decision ref; `_recover_human_decision` reads
it back from there, on every later call of the gate.

The actor and the note stand in the message as JSON strings with
`ensure_ascii=False`.  This escapes the control characters, and keeps U+0085,
U+2028 and U+2029, at which `splitlines()` cuts the line.  A cut string has no
closing quote, so a decision with one of these characters is recorded and not
recovered (`recover_eq_error`); every other decision is (`recover_written`).
-/

import DevFlow.Library.JsonStrings
import DevFlow.Persistence.DagStore
import DevFlow.Runtime.CommitMessages

namespace DevFlow

open Documents (dumpsString loadsString)
open Lines (bare isLineBreak)

/-- `IntegrationPolicyRoute`. -/
inductive IntegrationPolicyRoute
  | autoRepairCandidate
  | humanRequired
deriving DecidableEq, Repr

/-- The value of a route. -/
def IntegrationPolicyRoute.value : IntegrationPolicyRoute → String
  | .autoRepairCandidate => "AUTO_REPAIR_CANDIDATE"
  | .humanRequired => "HUMAN_REQUIRED"

/-- The value of a decision. -/
def HumanGateDecision.value : HumanGateDecision → String
  | .authorizeRepair => "AUTHORIZE_REPAIR"
  | .abort => "ABORT"

/-- `HumanGateDecision(value)`. -/
def HumanGateDecision.ofValue? (value : String) : Option HumanGateDecision :=
  if value = HumanGateDecision.authorizeRepair.value then some .authorizeRepair
  else if value = HumanGateDecision.abort.value then some .abort
  else none

theorem IntegrationPolicyRoute.onLine_value (route : IntegrationPolicyRoute) :
    OnLine route.value := by
  refine .of_all ?_
  cases route <;> simp only [value, String.reduceToList] <;> rfl

theorem HumanGateDecision.onLine_value (decision : HumanGateDecision) : OnLine decision.value := by
  refine .of_all ?_
  cases decision <;> simp only [value, String.reduceToList] <;> rfl

theorem HumanGateDecision.ofValue?_value (decision : HumanGateDecision) :
    ofValue? decision.value = some decision := by
  cases decision <;> simp [ofValue?, value]

/-- The keys of a decision message. -/
inductive DecisionKey
  | decision
  | actorJson
  | noteJson
  | evidenceFingerprint
  | policyFingerprint
  | policyRoute
  | conflictMarker
  | conflictRef
  | integrationHead
  | task
  | taskBranch
  | taskCommit
deriving DecidableEq, Repr

namespace DecisionKey

/-- The name of a key in a line. -/
def label : DecisionKey → String
  | .decision => "DevFlow-Human-Decision"
  | .actorJson => "DevFlow-Decision-Actor-JSON"
  | .noteJson => "DevFlow-Decision-Note-JSON"
  | .evidenceFingerprint => "DevFlow-Evidence-Fingerprint"
  | .policyFingerprint => "DevFlow-Policy-Fingerprint"
  | .policyRoute => "DevFlow-Policy-Route"
  | .conflictMarker => "DevFlow-Conflict-Marker"
  | .conflictRef => "DevFlow-Conflict-Ref"
  | .integrationHead => "DevFlow-Integration-Head"
  | .task => "DevFlow-Task"
  | .taskBranch => "DevFlow-Task-Branch"
  | .taskCommit => "DevFlow-Task-Commit"

/-- The characters of the name. -/
def name (key : DecisionKey) : List Char :=
  key.label.toList

/-- The name of a key in the dictionary. -/
def field : DecisionKey → String
  | .decision => "decision"
  | .actorJson => "actor_json"
  | .noteJson => "note_json"
  | .evidenceFingerprint => "evidence_fingerprint"
  | .policyFingerprint => "policy_fingerprint"
  | .policyRoute => "policy_route"
  | .conflictMarker => "conflict_marker"
  | .conflictRef => "conflict_ref"
  | .integrationHead => "integration_head"
  | .task => "task"
  | .taskBranch => "task_branch"
  | .taskCommit => "task_commit"

/-- The keys, in the order of the lines. -/
def all : List DecisionKey :=
  [.decision, .actorJson, .noteJson, .evidenceFingerprint, .policyFingerprint, .policyRoute,
    .conflictMarker, .conflictRef, .integrationHead, .task, .taskBranch, .taskCommit]

theorem mem_all (key : DecisionKey) : key ∈ all := by
  cases key <;> decide

theorem nodup_all : all.Nodup := by
  decide

theorem names : Trailers.Names name where
  injective a b h := by
    have hnodup : (all.map label).Nodup := by decide +kernel
    exact List.inj_on_of_nodup_map hnodup (mem_all a) (mem_all b) (String.toList_injective h)
  colon key := by
    cases key <;> simp [name, label]
  free key := by
    have hall : key.name.all (fun c => !isLineBreak c) = true := by
      cases key <;> simp only [name, label, String.reduceToList] <;> rfl
    intro c hc
    simpa using List.all_eq_true.1 hall c hc

end DecisionKey

/-- An `IntegrationHumanGateError`. -/
def gateError (message : String) : Failure :=
  ⟨.runtimeError, message⟩

/-- `HumanIntegrationDecision`, with the actor and the note. -/
structure HumanDecisionRecord extends HumanIntegrationDecision where
  actor : String
  note : String
deriving DecidableEq, Repr

/-- `_validate_human_metadata`. -/
def validateHumanMetadata (actor note : String) : Except Failure Unit := do
  Raising.raiseIf (actor = "" ∨ 128 < actor.length)
    ⟨.valueError, "actor must contain between 1 and 128 characters"⟩
  Raising.raiseIf (512 < note.length) ⟨.valueError, "note must contain at most 512 characters"⟩
  Raising.raiseIf (['\n', '\r'].any fun value => value ∈ actor.toList ∨ value ∈ note.toList)
    ⟨.valueError, "human decision metadata must be single-line"⟩

/-- The validators of `HumanIntegrationDecision` for the actor and the note. -/
def HumanDecisionRecord.validate (record : HumanDecisionRecord) :
    Except Failure HumanDecisionRecord := do
  Raising.raiseIf (record.actor.length < 1 ∨ 128 < record.actor.length)
    (boundError "String should have between 1 and 128 characters")
  Raising.raiseIf (512 < record.note.length)
    (boundError "String should have at most 512 characters")
  Raising.raiseIf (['\n', '\r'].any fun value =>
      value ∈ record.actor.toList ∨ value ∈ record.note.toList)
    ⟨.valueError, "human decision metadata must be single-line"⟩
  return record

/-- `IntegrationHumanGate`: what its constructor has checked and keeps.  The pattern of
an integration id is the one of a task id. -/
structure HumanGate where
  integrationId : String
  integrationId_fits : isTaskId integrationId = true
  task : TaskContractRecord
  branch : BranchName
  taskCommit : ObjectId
  marker : ObjectId
  head : ObjectId
  evidence : Fingerprint
  policy : Fingerprint
  route : IntegrationPolicyRoute
  authorizable : Bool

/-- The commit of the decision ref, as the commands of the gate show it. -/
structure DecisionCommit where
  oid : String
  parents : List String
  tree : String
  /-- What `git show -s --format=%B` prints. -/
  stdout : List Char

/-- What the gate sees of Git: the tree of the conflict marker, and the commit of the
decision ref. -/
structure GateGit where
  markerTree : String
  decision : Option DecisionCommit

namespace HumanGate

/-- `_decision_ref`. -/
def decisionRef (gate : HumanGate) : GitRef :=
  .decision gate.integrationId

/-- The lines of `_decision_message`: the value of each key. -/
def messageValue (gate : HumanGate) (decision : HumanGateDecision) (actor note : String) :
    DecisionKey → List Char
  | .decision => decision.value.toList
  | .actorJson => dumpsString actor
  | .noteJson => dumpsString note
  | .evidenceFingerprint => gate.evidence.val.toList
  | .policyFingerprint => gate.policy.val.toList
  | .policyRoute => gate.route.value.toList
  | .conflictMarker => gate.marker.val.toList
  | .conflictRef => (GitRef.conflict gate.integrationId).name.toList
  | .integrationHead => gate.head.val.toList
  | .task => gate.task.val.taskId.toList
  | .taskBranch => gate.branch.val.toList
  | .taskCommit => gate.taskCommit.val.toList

/-- The subject of `_decision_message`. -/
def messageSubject (decision : HumanGateDecision) : String :=
  "DevFlow human integration decision: " ++ decision.value

/-- `_decision_message`. -/
def decisionText (gate : HumanGate) (decision : HumanGateDecision) (actor note : String) :
    List Char :=
  Trailers.text DecisionKey.name (messageSubject decision).toList
    (DecisionKey.all.map fun key => (key, gate.messageValue decision actor note key))

/-- `_require_oid`. -/
def requireOid (value label : String) : Except Failure Unit :=
  Raising.raiseIf (isFullOid value = false) (gateError (label ++ " must be a full Git object id"))

/-- `_parse_decision_metadata`. -/
def parseDecisionMetadata (stdout : List Char) : Except Failure (DecisionKey → String) := do
  let value ← Trailers.parse DecisionKey.name strippedText DecisionKey.all
    (gateError "human decision commit contains duplicate DevFlow metadata")
    (gateError "human decision commit is missing required DevFlow metadata")
    (messageLines stdout)
  let text := fun key => String.ofList (value key)
  requireOid (text .conflictMarker) "recorded conflict marker"
  requireOid (text .integrationHead) "recorded integration head"
  requireOid (text .taskCommit) "recorded task commit"
  Raising.raiseIf (isSha256 (text .evidenceFingerprint) = false)
    (gateError "recorded evidence fingerprint is malformed")
  Raising.raiseIf (isSha256 (text .policyFingerprint) = false)
    (gateError "recorded policy fingerprint is malformed")
  return text

/-- `expected`, in the order of the dictionary. -/
def expected (gate : HumanGate) : List (DecisionKey × String) :=
  [(.evidenceFingerprint, gate.evidence.val), (.policyFingerprint, gate.policy.val),
    (.policyRoute, IntegrationPolicyRoute.humanRequired.value),
    (.conflictMarker, gate.marker.val),
    (.conflictRef, (GitRef.conflict gate.integrationId).name), (.integrationHead, gate.head.val),
    (.task, gate.task.val.taskId), (.taskBranch, gate.branch.val),
    (.taskCommit, gate.taskCommit.val)]

/-- `_decode_json_text`; `isDocument` says whether a text that is no JSON string is
another JSON document. -/
def decodeJsonText (isDocument : String → Bool) (value label : String) : Except Failure String :=
  match loadsString value.toList with
  | some decoded => return decoded
  | none =>
    if isDocument value then throw (gateError (label ++ " metadata must decode to a string"))
    else throw (gateError (label ++ " metadata is not valid JSON"))

/-- `_recover_human_decision`. -/
def recover (isDocument : String → Bool) (gate : HumanGate) (git : GateGit) :
    Except Failure (Option HumanDecisionRecord) :=
  match git.decision with
  | none => return none
  | some commit => do
    Raising.raiseIf (gate.route ≠ .humanRequired)
      (gateError "unexpected human decision ref exists for an automatic-repair candidate")
    Raising.raiseIf (isFullOid commit.oid = false)
      (gateError "human decision ref does not resolve to a full commit id")
    Raising.raiseIf (commit.parents ≠ [gate.marker.val])
      (gateError "human decision commit must have the exact conflict marker as its sole parent")
    Raising.raiseIf (commit.tree ≠ git.markerTree)
      (gateError "human decision commit unexpectedly changes repository tree state")
    let metadata ← parseDecisionMetadata commit.stdout
    gate.expected.forM fun (key, value) =>
      Raising.raiseIf (metadata key ≠ value)
        (gateError ("human decision metadata does not match current gate evidence: " ++ key.field))
    match HumanGateDecision.ofValue? (metadata .decision) with
    | none => throw (gateError "human decision marker contains an unsupported decision")
    | some decision =>
      Raising.raiseIf (decision = .authorizeRepair ∧ gate.authorizable = false)
        (gateError "recorded human authorization violates current hard repair boundaries")
      let actor ← decodeJsonText isDocument (metadata .actorJson) "decision actor"
      let note ← decodeJsonText isDocument (metadata .noteJson) "decision note"
      let record ← HumanDecisionRecord.validate
        { decision
          decisionRef := gate.decisionRef
          decisionCommit := commit.oid
          evidenceFingerprint := gate.evidence.val
          policyFingerprint := gate.policy.val
          conflictMarkerCommit := gate.marker.val
          actor
          note }
      validateHumanMetadata record.actor record.note
      return some record

/-- What the live checks and Git answer in one call. -/
structure Answers where
  /-- `_assert_current_evidence` and the two comparisons of the policy. -/
  current : Except Failure Unit
  /-- The object id that `git commit-tree` prints. -/
  commit : String
  /-- `_create_decision_ref_transactionally`. -/
  refCreated : Except Failure Unit
  /-- The line feeds that Git shows behind a message. -/
  feeds : ℕ
  /-- `_assert_authoritative_refs`, `_assert_base_clean` and the checks of `snapshot`. -/
  afterwards : Except Failure Unit

/-- `record_human_decision` up to the decision ref: the commit that the ref has then. -/
def createDecision (isDocument : String → Bool) (gate : HumanGate) (answers : Answers)
    (git : GateGit) (decision : HumanGateDecision) (actor note : String) :
    Except Failure DecisionCommit := do
  Raising.raiseIf (gate.route ≠ .humanRequired)
    (gateError "human decision is not accepted for an automatic-repair policy candidate")
  Raising.raiseIf (decision = .authorizeRepair ∧ gate.authorizable = false)
    (gateError "human authorization cannot bypass hard Agent Repair boundaries")
  let recorded ← gate.recover isDocument git
  Raising.raiseIf (recorded ≠ none)
    (gateError "a human integration decision is already recorded")
  validateHumanMetadata (strip actor) (strip note)
  answers.current
  Raising.raiseIf (git.decision.isSome) (gateError "a human integration decision already exists")
  requireOid answers.commit "human decision commit"
  answers.refCreated
  return {
    oid := answers.commit
    parents := [gate.marker.val]
    tree := git.markerTree
    stdout := shown (gate.decisionText decision (strip actor) (strip note)) answers.feeds }

/-- `record_human_decision`: what it returns, and Git behind the call. -/
def recordHumanDecision (isDocument : String → Bool) (gate : HumanGate) (answers : Answers)
    (git : GateGit) (decision : HumanGateDecision) (actor note : String) :
    Except Failure (Option HumanDecisionRecord) × GateGit :=
  match gate.createDecision isDocument answers git decision actor note with
  | .error failure => (.error failure, git)
  | .ok commit =>
    let git := { git with decision := some commit }
    (do
      let recovered ← gate.recover isDocument git
      Raising.raiseIf (recovered = none)
        (gateError "human decision was not durably recoverable")
      answers.afterwards
      gate.recover isDocument git, git)

end HumanGate

/-! ### JSON strings in a line -/

/-- The line breaks that `json.dumps` keeps. -/
def separators : List Char :=
  ['\x85', '\u2028', '\u2029']

/-- A text without them. -/
def Unseparated (text : String) : Prop :=
  ∀ c ∈ text.toList, c ∉ separators

instance (text : String) : Decidable (Unseparated text) :=
  List.decidableBAll (fun c => c ∉ separators) text.toList

theorem isLineBreak_of_mem_separators {c : Char} (h : c ∈ separators) : isLineBreak c = true := by
  have hall : separators.all isLineBreak = true := by decide
  exact List.all_eq_true.1 hall c h

theorem escape_of_mem_separators {c : Char} (h : c ∈ separators) : Documents.escape c = [c] := by
  have hall : separators.all (fun c => decide (Documents.escape c = [c])) = true := by decide
  exact of_decide_eq_true (List.all_eq_true.1 hall c h)

theorem mem_separators_of_isLineBreak {c : Char} (h : isLineBreak c = true) (hc : 32 ≤ c.toNat) :
    c ∈ separators := by
  have hall : ['\n', '\r', '\x0b', '\x0c', '\x1c', '\x1d', '\x1e', '\x85', '\u2028',
      '\u2029'].all (fun c => decide (32 ≤ c.toNat → c ∈ separators)) = true := by decide
  exact of_decide_eq_true (List.all_eq_true.1 hall c (by simpa [isLineBreak] using h)) hc

/-- An escape has no line break, and no white space at its end. -/
theorem escape_cases (c : Char) :
    Documents.escape c = [c] ∧ 32 ≤ c.toNat ∨
      ∃ front last, Documents.escape c = front ++ [last] ∧ isSpace last = false ∧
        ∀ d ∈ front ++ [last], isLineBreak d = false := by
  have hends (front : List Char) (last : Char)
      (h : (!isSpace last && (front ++ [last]).all fun d => !isLineBreak d) = true) :
      isSpace last = false ∧ ∀ d ∈ front ++ [last], isLineBreak d = false := by
    simpa only [Bool.and_eq_true, Bool.not_eq_true', List.all_eq_true] using h
  have hletter (last : Char) := hends ['\\'] last
  have hcontrol : ∀ n < 32, (!isSpace (Documents.hexDigit (n % 16)) &&
      (['\\', 'u', '0', '0', Documents.hexDigit (n / 16)] ++ [Documents.hexDigit (n % 16)]).all
        fun d => !isLineBreak d) = true := by
    decide
  unfold Documents.escape
  split_ifs with h₁ h₂ h₃ h₄ h₅ h₆ h₇ h₈
  · exact .inr ⟨['\\'], '"', rfl, hletter _ (by decide)⟩
  · exact .inr ⟨['\\'], '\\', rfl, hletter _ (by decide)⟩
  · exact .inr ⟨['\\'], 'n', rfl, hletter _ (by decide)⟩
  · exact .inr ⟨['\\'], 'r', rfl, hletter _ (by decide)⟩
  · exact .inr ⟨['\\'], 't', rfl, hletter _ (by decide)⟩
  · exact .inr ⟨['\\'], 'b', rfl, hletter _ (by decide)⟩
  · exact .inr ⟨['\\'], 'f', rfl, hletter _ (by decide)⟩
  · exact .inr ⟨['\\', 'u', '0', '0', Documents.hexDigit (c.toNat / 16)], _, rfl,
      hends _ _ (hcontrol c.toNat h₈)⟩
  · exact .inl ⟨rfl, by omega⟩

/-- **The line breaks of an escaped text** are its separators. -/
theorem mem_separators_of_mem_escape {c d : Char} (h : d ∈ Documents.escape c)
    (hbreak : isLineBreak d = true) : d = c ∧ c ∈ separators := by
  rcases escape_cases c with ⟨hsame, hc⟩ | ⟨front, last, hsame, -, hfree⟩
  · rw [hsame, List.mem_singleton] at h
    subst h
    exact ⟨rfl, mem_separators_of_isLineBreak hbreak hc⟩
  · rw [hsame] at h
    rw [hfree d h] at hbreak
    cases hbreak

theorem mem_of_mem_dumpsString {text : String} {c : Char} (h : c ∈ dumpsString text)
    (hbreak : isLineBreak c = true) : c ∈ text.toList ∧ c ∈ separators := by
  rw [dumpsString, List.mem_append, List.mem_cons, List.mem_singleton] at h
  rcases h with (rfl | h) | rfl
  · exact absurd hbreak (by decide)
  · obtain ⟨d, hd, hc⟩ := List.mem_flatMap.1 h
    obtain ⟨rfl, hsep⟩ := mem_separators_of_mem_escape hc hbreak
    exact ⟨hd, hsep⟩
  · exact absurd hbreak (by decide)

theorem strippedText_eq (text : List Char) :
    strippedText text = (text.dropWhile isSpace).rdropWhile isSpace := by
  rw [strippedText, strip, String.toList_ofList, String.toList_ofList, List.rdropWhile]

/-- The quotes keep the text of a JSON string. -/
theorem strippedText_dumpsString (text : String) :
    strippedText (dumpsString text) = dumpsString text := by
  rw [strippedText_eq, dumpsString, List.cons_append, List.dropWhile_cons_of_neg (by decide),
    ← List.cons_append, List.rdropWhile_concat_neg _ _ _ (by decide)]

/-- Stripping a string without its closing quote takes characters of its content. -/
theorem strippedText_cut (content : List Char) :
    ∃ content' : List Char, strippedText ('"' :: content.flatMap Documents.escape) =
      '"' :: content'.flatMap Documents.escape := by
  rw [strippedText_eq, List.dropWhile_cons_of_neg (by decide)]
  induction content using List.reverseRecOn with
  | nil => exact ⟨[], rfl⟩
  | append_singleton content c ih =>
    have hsplit : '"' :: (content ++ [c]).flatMap Documents.escape =
        ('"' :: content.flatMap Documents.escape) ++ Documents.escape c := by
      simp
    rw [hsplit]
    by_cases hspace : isSpace c = true ∧ Documents.escape c = [c]
    · rw [hspace.2, List.rdropWhile_concat_pos _ _ _ hspace.1]
      exact ih
    · obtain ⟨front, last, hescape, hlast⟩ : ∃ front last, Documents.escape c = front ++ [last] ∧
          ¬isSpace last = true := by
        rcases escape_cases c with ⟨hsame, -⟩ | ⟨front, last, hsame, hlast, -⟩
        · exact ⟨[], c, hsame, fun h => hspace ⟨h, hsame⟩⟩
        · exact ⟨front, last, hsame, by simp [hlast]⟩
      refine ⟨content ++ [c], ?_⟩
      rw [hsplit, hescape, ← List.append_assoc, List.rdropWhile_concat_neg _ _ _ hlast]

/-- **A separator cuts a JSON string** before its closing quote. -/
theorem takeWhile_dumpsString {text : String} (h : ¬Unseparated text) :
    ∃ content : List Char, (dumpsString text).takeWhile (fun c => !isLineBreak c) =
      '"' :: content.flatMap Documents.escape := by
  have hcut : ∀ content : List Char, (∃ c ∈ content, c ∈ separators) → ∀ rest,
      ∃ front : List Char,
      (content.flatMap Documents.escape ++ rest).takeWhile (fun c => !isLineBreak c) =
        front.flatMap Documents.escape := by
    intro content
    induction content with
    | nil => simp
    | cons c content ih =>
      intro hsome rest
      rw [List.flatMap_cons, List.append_assoc]
      by_cases hc : c ∈ separators
      · refine ⟨[], ?_⟩
        rw [escape_of_mem_separators hc, List.singleton_append, List.takeWhile_cons,
          isLineBreak_of_mem_separators hc]
        rfl
      · have hfree : ∀ d ∈ Documents.escape c, isLineBreak d = false := by
          intro d hd
          by_contra hbreak
          exact hc (mem_separators_of_mem_escape hd (by simpa using hbreak)).2
        obtain ⟨front, hfront⟩ := ih (by simpa [hc] using hsome) rest
        exact ⟨c :: front, by rw [Lines.takeWhile_of_free hfree, hfront, List.flatMap_cons]⟩
  unfold Unseparated at h
  push Not at h
  obtain ⟨front, hfront⟩ := hcut text.toList h ['"']
  exact ⟨front, by
    rw [dumpsString, List.cons_append, List.takeWhile_cons, if_pos (by decide), hfront]⟩

/-! ### What is recovered -/

namespace HumanGate

variable {isDocument : String → Bool} {gate : HumanGate} {decision : HumanGateDecision}
  {actor note : String}

theorem toList_conflictName (id : String) : (GitRef.conflict id).name.toList =
    "refs/devflow/integration-conflicts/".toList ++ id.toList :=
  String.toList_append

theorem toList_messageSubject : (messageSubject decision).toList =
    "DevFlow human integration decision: ".toList ++ decision.value.toList :=
  String.toList_append

/-- The values but the two JSON strings stay on their lines. -/
theorem onLine_messageValue {key : DecisionKey} (hactor : key ≠ .actorJson)
    (hnote : key ≠ .noteJson) :
    OnLine (String.ofList (gate.messageValue decision actor note key)) := by
  cases key with
  | decision => simpa [messageValue] using decision.onLine_value
  | actorJson => exact absurd rfl hactor
  | noteJson => exact absurd rfl hnote
  | evidenceFingerprint => simpa [messageValue] using gate.evidence.onLine
  | policyFingerprint => simpa [messageValue] using gate.policy.onLine
  | policyRoute => simpa [messageValue] using gate.route.onLine_value
  | conflictMarker => simpa [messageValue] using gate.marker.onLine
  | conflictRef =>
    have hspace : "refs/devflow/integration-conflicts/".toList.all (fun c => !isSpace c) = true := by
      simp only [String.reduceToList]
      rfl
    have hname : gate.messageValue decision actor note .conflictRef =
        (GitRef.conflict gate.integrationId).name.toList := rfl
    refine .of_forall fun c hc => ?_
    rw [hname, String.ofList_toList, toList_conflictName, List.mem_append] at hc
    rcases hc with hc | hc
    · simpa using List.all_eq_true.1 hspace c hc
    · exact isSpace_of_isTaskIdChar (isTaskIdChar_of_isTaskId gate.integrationId_fits c hc)
  | integrationHead => simpa [messageValue] using gate.head.onLine
  | task => simpa [messageValue] using OnLine.of_isTaskId gate.task.isTaskId
  | taskBranch => simpa [messageValue] using gate.branch.property
  | taskCommit => simpa [messageValue] using gate.taskCommit.onLine

/-- **The line breaks of a decision message** that are not its own are separators of the
actor or of the note. -/
theorem mem_separators_of_mem_messageValue {key : DecisionKey} {c : Char}
    (h : c ∈ gate.messageValue decision actor note key) (hbreak : isLineBreak c = true) :
    (c ∈ actor.toList ∨ c ∈ note.toList) ∧ c ∈ separators := by
  by_cases hactor : key = .actorJson
  · subst hactor
    obtain ⟨hmem, hsep⟩ := mem_of_mem_dumpsString h hbreak
    exact ⟨.inl hmem, hsep⟩
  by_cases hnote : key = .noteJson
  · subst hnote
    obtain ⟨hmem, hsep⟩ := mem_of_mem_dumpsString h hbreak
    exact ⟨.inr hmem, hsep⟩
  have honline : OnLine (String.ofList (gate.messageValue decision actor note key)) :=
    onLine_messageValue hactor hnote
  have hfree := honline.unbroken c (by simpa using h)
  rw [hfree] at hbreak
  cases hbreak

theorem strippedText_messageValue (key : DecisionKey) :
    strippedText (gate.messageValue decision actor note key) =
      gate.messageValue decision actor note key := by
  by_cases hactor : key = .actorJson
  · subst hactor
    exact strippedText_dumpsString actor
  by_cases hnote : key = .noteJson
  · subst hnote
    exact strippedText_dumpsString note
  have honline : OnLine (String.ofList (gate.messageValue decision actor note key)) :=
    onLine_messageValue hactor hnote
  rw [strippedText, honline.stripped, String.toList_ofList]

theorem subject_free : ∀ c ∈ (messageSubject decision).toList, isLineBreak c = false := by
  have hfront : "DevFlow human integration decision: ".toList.all (fun c => !isLineBreak c) =
      true := by
    simp only [String.reduceToList]
    rfl
  intro c hc
  rw [toList_messageSubject, List.mem_append] at hc
  rcases hc with hc | hc
  · simpa using List.all_eq_true.1 hfront c hc
  · exact decision.onLine_value.unbroken c hc

theorem subject_plain (key : DecisionKey) :
    ¬Trailers.prefixOf DecisionKey.name key <+: (messageSubject decision).toList := by
  refine not_prefixOf_subject key
    (by cases key <;> simp [DecisionKey.name, DecisionKey.label]) ?_
  rw [toList_messageSubject]
  simp

/-- The fields of a decision message. -/
def messageFields (gate : HumanGate) (decision : HumanGateDecision) (actor note : String) :
    List (DecisionKey × List Char) :=
  DecisionKey.all.map fun key => (key, gate.messageValue decision actor note key)

/-- **A decision without separators is written in lines.** -/
theorem written (hactor : Unseparated actor) (hnote : Unseparated note) :
    Trailers.Written DecisionKey.name (messageSubject decision).toList
      (gate.messageFields decision actor note) where
  names := DecisionKey.names
  subject_free := subject_free
  subject_plain := subject_plain
  values_free field hfield c hc := by
    obtain ⟨key, -, rfl⟩ := List.mem_map.1 hfield
    by_contra hbreak
    obtain ⟨hmem, hsep⟩ := mem_separators_of_mem_messageValue hc (by simpa using hbreak)
    rcases hmem with hmem | hmem
    · exact hactor c hmem hsep
    · exact hnote c hmem hsep
  nonempty := by simp [messageFields, DecisionKey.all]

/-- Text mode keeps what Git prints of a decision. -/
theorem not_mem_decisionText : '\r' ∉ gate.decisionText decision actor note := by
  intro hmem
  rcases Lines.mem_join hmem with heq | ⟨line, hline, hmem⟩
  · exact absurd heq (by decide)
  rcases List.mem_cons.1 hline with rfl | hline
  · exact absurd (subject_free _ hmem) (by decide)
  rcases List.mem_cons.1 hline with rfl | hline
  · exact absurd hmem List.not_mem_nil
  obtain ⟨field, hfield, rfl⟩ := List.mem_map.1 hline
  obtain ⟨key, -, rfl⟩ := List.mem_map.1 hfield
  rw [Trailers.render, Trailers.prefixOf, List.append_assoc, List.mem_append, List.mem_append]
    at hmem
  rcases hmem with hmem | hmem | hmem
  · exact absurd (DecisionKey.names.free key _ hmem) (by decide)
  · exact absurd hmem (by decide)
  · exact absurd (mem_separators_of_mem_messageValue hmem (by decide)).2 (by decide)

theorem messageLines_decisionText (feeds : ℕ) :
    messageLines (shown (gate.decisionText decision actor note) feeds) =
      bare isLineBreak (shown (gate.decisionText decision actor note) feeds) := by
  have hfree : '\r' ∉ shown (gate.decisionText decision actor note) feeds := by
    rw [shown, List.mem_append, not_or]
    refine ⟨not_mem_decisionText, fun hmem => ?_⟩
    exact absurd (List.eq_of_mem_replicate hmem) (by decide)
  rw [messageLines, Lines.universalNewlines_of_not_mem hfree]

/-- **A decision without separators is read back.** -/
theorem parseDecisionMetadata_decisionText (hactor : Unseparated actor)
    (hnote : Unseparated note) (feeds : ℕ) :
    parseDecisionMetadata (shown (gate.decisionText decision actor note) feeds) =
      .ok fun key => String.ofList (gate.messageValue decision actor note key) := by
  have hfields : ∀ key, ((gate.messageFields decision actor note).filter fun field =>
      field.1 = key) = [(key, gate.messageValue decision actor note key)] := by
    intro key
    cases key <;> rfl
  have hparse : ∀ duplicate missing : Failure,
      Trailers.parse DecisionKey.name strippedText DecisionKey.all duplicate missing
        (messageLines (shown (gate.decisionText decision actor note) feeds)) =
          .ok (gate.messageValue decision actor note) := by
    intro duplicate missing
    rw [messageLines_decisionText]
    refine (Trailers.parse_text_eq_ok (written hactor hnote) DecisionKey.nodup_all feeds).2
      ⟨fun key _ => ?_, fun key hkey => absurd (DecisionKey.mem_all key) hkey⟩
    rw [hfields, List.map_singleton, strippedText_messageValue]
  have hoid : ∀ (id : ObjectId) label, requireOid id.val label = .ok () :=
    fun id label => Raising.raiseIf_of_not (by simp [id.property]) _
  rw [parseDecisionMetadata, hparse, Raising.ok_bind]
  simp [messageValue, hoid, gate.evidence.property, gate.policy.property, Raising.raiseIf_of_not,
    pure, Except.pure]

/-- The record of a decision under the id of its commit. -/
def recordOf (gate : HumanGate) (oid : String) (decision : HumanGateDecision)
    (actor note : String) : HumanDecisionRecord where
  decision := decision
  decisionRef := gate.decisionRef
  decisionCommit := oid
  evidenceFingerprint := gate.evidence.val
  policyFingerprint := gate.policy.val
  conflictMarkerCommit := gate.marker.val
  actor := actor
  note := note

/-- The commit of a decision. -/
def commitOf (gate : HumanGate) (oid tree : String) (decision : HumanGateDecision)
    (actor note : String) (feeds : ℕ) : DecisionCommit where
  oid := oid
  parents := [gate.marker.val]
  tree := tree
  stdout := shown (gate.decisionText decision actor note) feeds

/-- A decision that the gate accepts. -/
structure Accepts (gate : HumanGate) (oid : String) (decision : HumanGateDecision)
    (actor note : String) : Prop where
  route : gate.route = .humanRequired
  authorizable : decision = .authorizeRepair → gate.authorizable = true
  valid : validateHumanMetadata actor note = .ok ()
  oid_full : isFullOid oid = true

variable {oid tree : String} {feeds : ℕ}

/-- What was validated is valid as a model. -/
theorem Accepts.validate (h : Accepts gate oid decision actor note) :
    (gate.recordOf oid decision actor note).validate =
      .ok (gate.recordOf oid decision actor note) := by
  have hvalid := h.valid
  simp only [validateHumanMetadata, Raising.bind_eq_ok, Raising.raiseIf_eq_ok] at hvalid
  obtain ⟨_, hactor, _, hnote, hlines⟩ := hvalid
  have hpos : ¬(actor.length < 1 ∨ 128 < actor.length) := by
    rw [not_or] at hactor ⊢
    have hne : actor.length ≠ 0 := fun hzero => hactor.1 (String.length_eq_zero_iff.1 hzero)
    omega
  simp only [HumanDecisionRecord.validate, Raising.bind_eq_ok, Raising.raiseIf_eq_ok,
    Raising.pure_eq_ok, and_true]
  exact ⟨⟨⟩, hpos, ⟨⟩, hnote, ⟨⟩, hlines⟩

/-- **A decision without separators is recovered** as it was recorded. -/
theorem recover_commitOf (h : Accepts gate oid decision actor note)
    (hactor : Unseparated actor) (hnote : Unseparated note) :
    gate.recover isDocument ⟨tree, some (gate.commitOf oid tree decision actor note feeds)⟩ =
      .ok (some (gate.recordOf oid decision actor note)) := by
  have hexpected : (gate.expected.forM fun (key, value) => Raising.raiseIf
      (String.ofList (gate.messageValue decision actor note key) ≠ value) (gateError
        ("human decision metadata does not match current gate evidence: " ++ key.field))) =
          (.ok ⟨⟩ : Except Failure Unit) := by
    rw [Raising.forM_eq_ok]
    intro pair hpair
    refine Raising.raiseIf_of_not ?_ _
    simp only [expected, List.mem_cons, List.not_mem_nil, or_false] at hpair
    rcases hpair with rfl | rfl | rfl | rfl | rfl | rfl | rfl | rfl | rfl
    all_goals simp [messageValue, h.route]
  have hdecode : ∀ text label : String,
      decodeJsonText isDocument (String.ofList (dumpsString text)) label = .ok text := by
    intro text label
    rw [decodeJsonText, String.toList_ofList, Documents.loadsString_dumpsString]
    rfl
  have hauthorized : ¬(decision = .authorizeRepair ∧ gate.authorizable = false) := by
    rintro ⟨hdecision, hnot⟩
    rw [h.authorizable hdecision] at hnot
    cases hnot
  simp only [recover, commitOf, Raising.bind_eq_ok, Raising.raiseIf_eq_ok]
  refine ⟨⟨⟩, by simp [h.route], ⟨⟩, by simp [h.oid_full], ⟨⟩, by simp, ⟨⟩, by simp, _,
    parseDecisionMetadata_decisionText hactor hnote feeds, ⟨⟩, hexpected, ?_⟩
  have hdecision : HumanGateDecision.ofValue?
      (String.ofList (gate.messageValue decision actor note .decision)) = some decision := by
    rw [messageValue, String.ofList_toList, HumanGateDecision.ofValue?_value]
  have hactorText : decodeJsonText isDocument
      (String.ofList (gate.messageValue decision actor note .actorJson)) "decision actor" =
        .ok actor := hdecode actor _
  have hnoteText : decodeJsonText isDocument
      (String.ofList (gate.messageValue decision actor note .noteJson)) "decision note" =
        .ok note := hdecode note _
  have hvalidate := h.validate
  rw [recordOf] at hvalidate
  simp only [hdecision, Raising.bind_eq_ok, Raising.raiseIf_eq_ok]
  exact ⟨⟨⟩, hauthorized, _, hactorText, _, hnoteText, _, hvalidate, ⟨⟩, h.valid, rfl⟩

/-- The value that a line has of a text with a separator is no JSON string. -/
theorem decodeJsonText_cut {text : String} (h : ¬Unseparated text) {label : String}
    {decoded : String} :
    decodeJsonText isDocument
      (String.ofList (strippedText ((dumpsString text).takeWhile fun c => !isLineBreak c))) label ≠
        .ok decoded := by
  obtain ⟨content, hcontent⟩ := takeWhile_dumpsString h
  obtain ⟨content', hstrip⟩ := strippedText_cut content
  rw [hcontent, hstrip, decodeJsonText, String.toList_ofList, Documents.loadsString_of_cut]
  intro hdecoded
  dsimp only at hdecoded
  split_ifs at hdecoded

/-- **A decision with a separator is not recovered.** -/
theorem recover_eq_error (h : ¬(Unseparated actor ∧ Unseparated note))
    (found : Option HumanDecisionRecord) :
    gate.recover isDocument ⟨tree, some (gate.commitOf oid tree decision actor note feeds)⟩ ≠
      .ok found := by
  intro hfound
  simp only [recover, commitOf, Raising.bind_eq_ok] at hfound
  obtain ⟨_, _, _, _, _, _, _, _, metadata, hmetadata, _, _, hfound⟩ := hfound
  have hread : ∀ key, metadata key = String.ofList (strippedText
      ((gate.messageValue decision actor note key).takeWhile fun c => !isLineBreak c)) := by
    intro key
    simp only [parseDecisionMetadata, Raising.bind_eq_ok, Raising.pure_eq_ok] at hmetadata
    obtain ⟨value, hvalue, _, _, _, _, _, _, _, _, _, _, rfl⟩ := hmetadata
    rw [messageLines_decisionText] at hvalue
    have hline := ((Trailers.parse_eq_ok DecisionKey.nodup_all).1 hvalue).1 key
      (DecisionKey.mem_all key)
    have hreturn : '\r' ∉ gate.decisionText decision actor note := not_mem_decisionText
    have hcut : strippedText _ ∈ _ := Trailers.trim_takeWhile_mem_values DecisionKey.names
      (List.mem_map_of_mem (DecisionKey.mem_all key)) hreturn feeds
    rw [shown, decisionText] at hline
    rw [hline, List.mem_singleton] at hcut
    rw [hcut]
  cases hdecision : HumanGateDecision.ofValue? (metadata .decision) with
  | none =>
    rw [hdecision] at hfound
    cases hfound
  | some decided =>
    simp only [hdecision, Raising.bind_eq_ok] at hfound
    obtain ⟨_, _, decodedActor, hactor, decodedNote, hnote, -⟩ := hfound
    rw [hread] at hactor hnote
    by_cases hclean : Unseparated actor
    · exact decodeJsonText_cut (fun hsep => h ⟨hclean, hsep⟩) hnote
    · exact decodeJsonText_cut hclean hactor

/-- What `record_human_decision` has checked when it creates the ref, and what the ref
has then. -/
theorem createDecision_eq_ok {answers : Answers} {git : GateGit} {commit : DecisionCommit}
    (h : gate.createDecision isDocument answers git decision actor note = .ok commit) :
    Accepts gate answers.commit decision (strip actor) (strip note) ∧
      commit = gate.commitOf answers.commit git.markerTree decision (strip actor) (strip note)
        answers.feeds := by
  simp only [createDecision, requireOid, Raising.bind_eq_ok, Raising.raiseIf_eq_ok,
    Raising.pure_eq_ok] at h
  obtain ⟨_, hroute, _, hauthorized, _, -, _, -, _, hvalid, _, -, _, -, _, hoid, _, -, rfl⟩ := h
  refine ⟨⟨not_not.1 hroute, fun hdecision => ?_, hvalid, by simpa using hoid⟩, rfl⟩
  by_contra hnot
  exact hauthorized ⟨hdecision, by simpa using hnot⟩

/-- **When a recorded decision is recovered.** Once the ref of an accepted decision is
there, the decision ref gives the decision back, with its actor and its note, exactly when
neither of the two has one of the characters U+0085, U+2028 and U+2029; for the others
every recovery fails. -/
theorem human_decision_recovered_iff (isDocument : String → Bool) (gate : HumanGate)
    (answers : Answers) (git : GateGit) (decision : HumanGateDecision) (actor note : String)
    (commit : DecisionCommit)
    (h : gate.createDecision isDocument answers git decision actor note = .ok commit) :
    (gate.recover isDocument
          (gate.recordHumanDecision isDocument answers git decision actor note).2 =
        .ok (some (gate.recordOf commit.oid decision (strip actor) (strip note))) ↔
      Unseparated (strip actor) ∧ Unseparated (strip note)) ∧
    ((∃ found, gate.recover isDocument
          (gate.recordHumanDecision isDocument answers git decision actor note).2 = .ok found) ↔
      Unseparated (strip actor) ∧ Unseparated (strip note)) := by
  obtain ⟨haccepts, hcommit⟩ := createDecision_eq_ok h
  have hgit : (gate.recordHumanDecision isDocument answers git decision actor note).2 =
      ⟨git.markerTree, some commit⟩ := by
    rw [recordHumanDecision, h]
  have hrecover : Unseparated (strip actor) ∧ Unseparated (strip note) →
      gate.recover isDocument ⟨git.markerTree, some commit⟩ =
        .ok (some (gate.recordOf commit.oid decision (strip actor) (strip note))) := by
    rintro ⟨hactor, hnote⟩
    subst hcommit
    exact recover_commitOf haccepts hactor hnote
  have hfail : ∀ found, gate.recover isDocument ⟨git.markerTree, some commit⟩ = .ok found →
      Unseparated (strip actor) ∧ Unseparated (strip note) := by
    intro found hfound
    by_contra hsep
    subst hcommit
    exact recover_eq_error hsep found hfound
  rw [hgit]
  exact ⟨⟨hfail _, hrecover⟩, ⟨fun ⟨found, hfound⟩ => hfail found hfound,
    fun hclean => ⟨_, hrecover hclean⟩⟩⟩

/-- An object id of one repeated digit. -/
def digitOid (digit : Char) (h : (digit.isDigit || ('a' ≤ digit && digit ≤ 'f')) = true) :
    ObjectId :=
  ⟨sampleOid digit, isFullOid_of_isOid (isOid_sampleOid h)⟩

/-- A fingerprint of zeros. -/
def zeroFingerprint : Fingerprint :=
  ⟨String.ofList (List.replicate 64 '0'), by
    simp only [isSha256, isOid, String.toList_ofList, String.length_ofList, List.length_replicate]
    decide⟩

/-- A gate of a conflict that a human decides. -/
def sampleGate : HumanGate where
  integrationId := "run"
  integrationId_fits := by decide
  task := plainContract
  branch := .ofTask "a"
  taskCommit := digitOid 'a' (by decide)
  marker := digitOid 'b' (by decide)
  head := digitOid 'c' (by decide)
  evidence := zeroFingerprint
  policy := zeroFingerprint
  route := .humanRequired
  authorizable := true

/-- Git and the live checks agree. -/
def sampleAnswers : Answers where
  current := .ok ()
  commit := sampleOid 'd'
  refCreated := .ok ()
  feeds := 1
  afterwards := .ok ()

/-- No decision is recorded. -/
def sampleGit : GateGit where
  markerTree := sampleOid 'e'
  decision := none

/-- The decision of an actor without a note. -/
theorem createDecision_sample (note : String)
    (hnote : validateHumanMetadata (strip "ann") (strip note) = .ok ()) :
    sampleGate.createDecision (fun _ => false) sampleAnswers sampleGit .abort "ann" note =
      .ok (sampleGate.commitOf (sampleOid 'd') (sampleOid 'e') .abort (strip "ann") (strip note)
        1) := by
  have hfull : isFullOid (sampleOid 'd') = true := isFullOid_of_isOid (isOid_sampleOid (by decide))
  have hoid : requireOid (sampleOid 'd') "human decision commit" = .ok () :=
    Raising.raiseIf_of_not (by simp [hfull]) _
  simp only [createDecision, recover, sampleGit, sampleAnswers, hnote, hoid,
    Raising.bind_eq_ok, Raising.raiseIf_eq_ok]
  exact ⟨⟨⟩, by simp [sampleGate], ⟨⟩, by simp, none, rfl, ⟨⟩, by simp, ⟨⟩, trivial, ⟨⟩, trivial,
    ⟨⟩, by simp, ⟨⟩, trivial, ⟨⟩, trivial, rfl⟩

/-- A note with the line separator U+2028: the ref is there, and no later call of the gate
reads the decision. -/
theorem human_decision_not_recovered :
    ∃ commit, sampleGate.createDecision (fun _ => false) sampleAnswers sampleGit .abort "ann"
        "a\u2028b" = .ok commit ∧
      ∀ found, sampleGate.recover (fun _ => false) { sampleGit with decision := some commit } ≠
        .ok found := by
  refine ⟨_, createDecision_sample "a\u2028b" (by decide), fun found => ?_⟩
  exact recover_eq_error (by decide) found

theorem human_decision_recovered_iff_plain :
    (∃ found, sampleGate.recover (fun _ => false) (sampleGate.recordHumanDecision (fun _ => false)
        sampleAnswers sampleGit .abort "ann" "no").2 = .ok found) ↔
      Unseparated (strip "ann") ∧ Unseparated (strip "no") :=
  (human_decision_recovered_iff (fun _ => false) sampleGate sampleAnswers sampleGit .abort "ann"
    "no" _ (createDecision_sample "no" (by decide))).2

end HumanGate

end DevFlow
