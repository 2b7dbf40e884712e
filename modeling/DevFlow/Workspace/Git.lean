/-
# The Git objects of one managed project

What the merge queue, the repair service and the execution-base resolver see of
Git: commits, refs and the server-owned ref names of one project.  A commit is
written after its parents, so the commits stand newest first and a walk along
first parents goes down the list.  A commit message is its trailer lines
`DevFlow-…: value`; the subject line is never read back.
-/

import DevFlow.Persistence.Rows

namespace DevFlow

/-- `_OID_RE`: `[0-9a-f]{40,64}`. -/
def isOid (s : String) : Bool :=
  s.toList.all (fun c => c.isDigit || ('a' ≤ c && c ≤ 'f')) && 40 ≤ s.length && s.length ≤ 64

/-- `_COMMIT_PATTERN`: `[0-9a-fA-F]{40,64}`. -/
def isFullOid (s : String) : Bool :=
  s.toList.all (fun c => c.isDigit || ('a' ≤ c && c ≤ 'f') || ('A' ≤ c && c ≤ 'F')) &&
    40 ≤ s.length && s.length ≤ 64

theorem isFullOid_of_isOid {s : String} (h : isOid s = true) : isFullOid s = true := by
  simp only [isOid, isFullOid, Bool.and_eq_true, List.all_eq_true, Bool.or_eq_true] at h ⊢
  exact ⟨⟨fun c hc => Or.inl (h.1.1 c hc), h.1.2⟩, h.2⟩

/-- `_require_oid` of the repair service and of the execution-base resolver. -/
def requireOid (value label : String) : Except Failure Unit :=
  Raising.raiseIf (isOid value = false)
    ⟨.persistenceCorruption, label ++ " is not a full lowercase Git object id"⟩

theorem requireOid_of_isOid {value label : String} (h : isOid value = true) :
    requireOid value label = .ok () := by
  rw [requireOid, Raising.raiseIf_of_not (by simp [h])]

/-- An object id of one repeated digit. -/
def sampleOid (digit : Char) : String :=
  String.ofList (List.replicate 40 digit)

theorem isOid_sampleOid {digit : Char}
    (h : (digit.isDigit || ('a' ≤ digit && digit ≤ 'f')) = true) :
    isOid (sampleOid digit) = true := by
  simpa [isOid, sampleOid] using h

theorem sampleOid_injective : Function.Injective sampleOid := by
  intro c d h
  have hlists : List.replicate 40 c = List.replicate 40 d := by
    simpa [sampleOid] using congrArg String.toList h
  exact (List.cons.inj hlists).1

/-- The fields of an execution that succeeded with the commit `1…1`. -/
theorem succeeded_sampleOid_one : ExecutionStatus.succeeded = .succeeded →
    some (sampleOid '1') ≠ none :=
  ExecutionStatus.succeeded_commit _

theorem succeeded_not_failed_sampleOid_one : ExecutionStatus.succeeded = .failed →
    some (sampleOid '1') = none :=
  ExecutionStatus.succeeded_not_failed _

theorem sampleOid_ne {c d : Char} (h : c ≠ d) : sampleOid c ≠ sampleOid d :=
  sampleOid_injective.ne h

/-- `uuid.hex`. -/
def UUID.hex (u : UUID) : String :=
  String.ofList (u.str.toList.filter (· ≠ '-'))

/-- The refs that the modelled code reads or writes, by namespace. -/
inductive GitRef
  | integration (integrationId : String)
  | conflict (integrationId : String)
  | decision (integrationId : String)
  | conflictHistory (integrationId marker : String)
  | decisionHistory (integrationId marker : String)
  | repair (runId : UUID) (marker : String)
  | heads (branch : String)
deriving DecidableEq, Repr

/-- The name of the ref. -/
def GitRef.name : GitRef → String
  | .integration id => "refs/devflow/integration/" ++ id
  | .conflict id => "refs/devflow/integration-conflicts/" ++ id
  | .decision id => "refs/devflow/integration-decisions/" ++ id
  | .conflictHistory id marker => "refs/devflow/integration-conflict-history/" ++ id ++ "/" ++ marker
  | .decisionHistory id marker => "refs/devflow/integration-decision-history/" ++ id ++ "/" ++ marker
  | .repair runId marker => "refs/devflow/integration-repairs/" ++ runId.hex ++ "/" ++ marker
  | .heads branch => "refs/heads/" ++ branch

/-- The keys of the trailer lines: `DevFlow-Task`, `DevFlow-Task-Branch` and so
on. -/
inductive TrailerKey
  | task
  | taskBranch
  | taskBase
  | taskCommit
  | integrationRepair
  | conflictMarker
  | conflictEvidenceFingerprint
  | policyFingerprint
  | humanDecisionCommit
  | conflictTask
  | conflictBranch
  | conflictBase
  | conflictCommit
  | conflictIntegrationHead
deriving DecidableEq, Repr

/-- One trailer line. -/
structure Trailer where
  key : TrailerKey
  value : String
deriving DecidableEq, Repr

/-- A commit object. -/
structure GitCommit where
  oid : String
  tree : String
  parents : List String
  message : List Trailer
deriving DecidableEq, Repr

/-- The commits, newest first, and the refs. -/
structure GitRepository where
  commits : List GitCommit
  refs : GitRef → Option String

namespace GitRepository

/-- The commit of an object id. -/
def commit? (git : GitRepository) (oid : String) : Option GitCommit :=
  git.commits.find? fun c => c.oid = oid

/-- `git commit-tree`: an object that is there already is not written again. -/
def commitTree (git : GitRepository) (commit : GitCommit) : GitRepository :=
  if (git.commit? commit.oid).isSome then git else { git with commits := commit :: git.commits }

/-- The repository with one ref written. -/
def setRef (git : GitRepository) (ref : GitRef) (oid : Option String) : GitRepository :=
  { git with refs := Function.update git.refs ref oid }

/-- `git update-ref ref new old`, where an `old` of zeros asks that the ref is not
there: `none` is the non-zero exit code. -/
def updateRef (git : GitRepository) (ref : GitRef) (new : String) (old : Option String) :
    Option GitRepository :=
  if git.refs ref = old then some (git.setRef ref (some new)) else none

/-- `git update-ref -d ref old`. -/
def deleteRef (git : GitRepository) (ref : GitRef) (old : String) : Option GitRepository :=
  if git.refs ref = some old then some (git.setRef ref none) else none

/-- The walk of `firstParents`, down the commits. -/
def firstParentsIn (base : String) : List GitCommit → String → List GitCommit
  | [], _ => []
  | c :: older, current =>
    if current = base then []
    else if c.oid = current then firstParentsIn base older (c.parents.headD "") ++ [c]
    else firstParentsIn base older current

/-- `git rev-list --first-parent --reverse base..head`. -/
def firstParents (git : GitRepository) (base head : String) : List GitCommit :=
  firstParentsIn base git.commits head

/-- The object ids that are reachable from `frontier`, down the commits. -/
def reachableIn : List GitCommit → List String → List String
  | [], frontier => frontier
  | c :: older, frontier =>
    reachableIn older (if c.oid ∈ frontier then frontier ++ c.parents else frontier)

/-- `git merge-base --is-ancestor`. -/
def isAncestor (git : GitRepository) (ancestor descendant : String) : Bool :=
  ancestor ∈ reachableIn git.commits [descendant]

variable {git : GitRepository} {ref other : GitRef} {oid : Option String}

@[simp] theorem setRef_refs_self : (git.setRef ref oid).refs ref = oid := by
  simp [setRef]

theorem setRef_refs_of_ne (h : other ≠ ref) : (git.setRef ref oid).refs other = git.refs other := by
  simp [setRef, h]

@[simp] theorem setRef_commits : (git.setRef ref oid).commits = git.commits := rfl

@[simp] theorem setRef_commit? {id : String} : (git.setRef ref oid).commit? id = git.commit? id :=
  rfl

@[simp] theorem commitTree_refs {commit : GitCommit} :
    (git.commitTree commit).refs = git.refs := by
  unfold commitTree
  split <;> rfl

/-- What `commit-tree` leaves of the objects that were there. -/
theorem commitTree_commit?_of_some {commit c : GitCommit} {id : String}
    (h : git.commit? id = some c) : (git.commitTree commit).commit? id = some c := by
  unfold commitTree
  split
  · exact h
  · rename_i hnew
    have hne : commit.oid ≠ id := by
      rintro rfl
      simp [h] at hnew
    rw [commit?, List.find?_cons_of_neg (by simpa using hne)]
    exact h

/-- Object ids are content addresses: an object of the commit's id is the commit. -/
def Addresses (git : GitRepository) (commit : GitCommit) : Prop :=
  ∀ c, git.commit? commit.oid = some c → c = commit

theorem addresses_of_new {commit : GitCommit} (h : git.commit? commit.oid = none) :
    git.Addresses commit := by
  intro c hc
  rw [h] at hc
  cases hc

theorem commitTree_commit?_self {commit : GitCommit} (h : git.Addresses commit) :
    (git.commitTree commit).commit? commit.oid = some commit := by
  unfold commitTree
  split
  · rename_i hold
    obtain ⟨c, hc⟩ := Option.isSome_iff_exists.1 hold
    rw [hc, h c hc]
  · rw [commit?, List.find?_cons_of_pos (by simp)]

end GitRepository

end DevFlow
