/-
# The controller's evidence about a merge conflict

The three task-scoped appends that are made without a token: `MERGE_CONFLICT` in
`DurableMultiAgentRunController._advance_once`, `INTEGRATION_GATE` in
`DurableHumanGateService._persist_gate` and `HUMAN_DECISION` in
`DurableHumanGateService.decide` (`runtime/product_controller.py`,
`runtime/durable_human_gate.py`).

`append_evidence` fences every write on a task that has had a lease, and a task
reaches the merge queue only through a leased worker.  So each of the three is
refused, whatever has become of the lease since.  `record_integration_repair`,
which writes for the same task, locks the row and asks for no token.
-/

import DevFlow.Persistence.Takeover

namespace DevFlow

variable {X : Type} [DecidableEq X]

omit [DecidableEq X] in
/-- `f"{n:04d}"`. -/
def pad4 (n : ℕ) : String :=
  let digits := toString n
  String.ofList (List.replicate (4 - digits.length) '0') ++ digits

omit [DecidableEq X] in
/-- `text[:n]`. -/
def take (n : ℕ) (text : String) : String :=
  String.ofList (text.toList.take n)

/-- The `MERGE_CONFLICT` append of `_advance_once` for the last, conflicting
attempt of the queue. -/
def recordMergeConflict (db : Database X) (now : Timestamp) (runId : UUID) (taskId : String)
    (sequence : ℕ) (markerCommit : String) (conflict : X) : Except Failure (ℕ × Database X) :=
  appendEvidence db now runId
    ("integration:merge-conflict:" ++ pad4 sequence ++ ":" ++ take 16 markerCommit)
    .mergeConflict (.other .mergeConflict conflict) (some taskId) (some "integration")
    (some sequence) none

/-- `_persist_gate`; `suffix` is `pending` or `decided`. -/
def persistGate (db : Database X) (now : Timestamp) (runId : UUID) (taskId : String)
    (sequence : ℕ) (fingerprint suffix : String) (gate : X) : Except Failure (ℕ × Database X) :=
  appendEvidence db now runId ("integration:gate:" ++ take 40 fingerprint ++ ":" ++ suffix)
    .integrationGate (.other .integrationGate gate) (some taskId) (some "integration")
    (some sequence) none

/-- The `HUMAN_DECISION` append of `decide`. -/
def recordHumanDecision (db : Database X) (now : Timestamp) (runId : UUID) (taskId : String)
    (sequence : ℕ) (fingerprint : String) (decision : X) : Except Failure (ℕ × Database X) :=
  appendEvidence db now runId ("integration:human-decision:" ++ take 40 fingerprint)
    .humanDecision (.other .humanDecision decision) (some taskId) (some "integration")
    (some sequence) none

omit [DecidableEq X] in
/-- The call is the `WORKER_EXECUTION` append of a leased worker for the task,
with a successful execution. -/
def Call.recordsSuccess (t : String) : Call X → Prop
  | .append _ _ _ (.workerExecution evidence) (some taskId) _ _ (some _) =>
    strip taskId = t ∧ evidence.status = .succeeded
  | _ => False

instance (t : String) (call : Call X) : Decidable (call.recordsSuccess t) := by
  unfold Call.recordsSuccess
  split <;> infer_instance

omit [DecidableEq X] in
/-- The leased generation of the task has produced accepted `SUCCEEDED` evidence. -/
def SucceededUnderLease (es : List (LeaseEvent X)) (t : String) : Prop :=
  ∃ e ∈ es, e.output = .ok () ∧ e.input.recordsSuccess t

/-- A task-scoped write without a token is refused once the task was leased. -/
theorem appendEvidence_without_token {db : Database X} {now : Timestamp} {runId : UUID}
    {evidenceKey : String} {kind : EvidenceKind} {payload : Payload X} {taskId : String}
    {stage : Option String} {sequence : Option ℤ} (hleased : db.lease (strip taskId) ≠ none) :
    ∃ failure, appendEvidence db now runId evidenceKey kind payload (some taskId) stage sequence
      none = .error failure := by
  cases h : appendEvidence db now runId evidenceKey kind payload (some taskId) stage sequence
      none with
  | error failure => exact ⟨failure, rfl⟩
  | ok result =>
    rcases (appendEvidence_eq_ok h).2.2.1 taskId rfl with ⟨hnone, -⟩ | ⟨_, _, htoken, _⟩
    · exact absurd hnone hleased
    · cases htoken

/-- An accepted success of a leased worker was written under a lease. -/
theorem recordsSuccess_leased {e : LeaseEvent X} {t : String}
    (hstep : leaseStep e.before e.input e.output e.after) (hok : e.output = .ok ())
    (hsuccess : e.input.recordsSuccess t) : e.before.db.lease t ≠ none := by
  obtain ⟨w, call, answer, w'⟩ := e
  simp only at hstep hok hsuccess
  subst hok
  cases call with
  | append runId evidenceKey kind payload taskId stage sequence runToken =>
    obtain ⟨evidence, taskId, token, rfl, rfl, rfl, rfl⟩ :
        ∃ evidence name token, payload = .workerExecution evidence ∧ taskId = some name ∧
          runToken = some token ∧ strip name = t := by
      cases payload <;> cases taskId <;> cases runToken <;>
        simp_all [Call.recordsSuccess]
    unfold leaseStep at hstep
    simp only [Call.perform] at hstep
    split_ifs at hstep
    obtain ⟨db, hrun, -⟩ := LeaseWorld.commit_ok (Option.some.inj hstep)
    obtain ⟨id, hrun⟩ := Raising.map_snd_eq_ok.1 hrun
    rcases (appendEvidence_eq_ok hrun).2.2.1 taskId rfl with ⟨-, htoken⟩ | ⟨lease, hlease, -⟩
    · cases htoken
    · simp [hlease]
  | _ => simp [Call.recordsSuccess] at hsuccess

/-- A successful execution of `task` under `dispatchId`. -/
def succeededExecution (dispatchId : UUID) (task commit : String) :
    WorkerExecutionEvidence String where
  dispatchId := dispatchId
  runId := ⟨1⟩
  taskId := task
  status := .succeeded
  baseCommit := "base"
  commitSha := some commit
  content := "run result"
  success_commit := ExecutionStatus.succeeded_commit _
  failure_commit := ExecutionStatus.succeeded_not_failed _

/-- Two tasks are executed and released, and the merge queue stops on the second:
the run after the `MERGE_QUEUE_SNAPSHOT` is persisted. -/
def conflictCalls : List (Call String) :=
  [.acquire ⟨101⟩ ⟨1⟩ "api" "worker-a" ⟨11⟩ 30, .acquire ⟨102⟩ ⟨1⟩ "ui" "worker-b" ⟨12⟩ 30,
    .append ⟨1⟩ "dispatch:11:execution" .workerExecution
      (.workerExecution (succeededExecution ⟨11⟩ "api" "commit-api")) (some "api")
      (some "worker") none (some ⟨101⟩),
    .release ⟨1⟩ "api" "worker-a" ⟨11⟩ ⟨101⟩,
    .append ⟨1⟩ "dispatch:12:execution" .workerExecution
      (.workerExecution (succeededExecution ⟨12⟩ "ui" "commit-ui")) (some "ui")
      (some "worker") none (some ⟨102⟩),
    .release ⟨1⟩ "ui" "worker-b" ⟨12⟩ ⟨102⟩,
    .append ⟨1⟩ "integration:merge-snapshot:0001" .mergeQueueSnapshot
      (.other .mergeQueueSnapshot "stopped on ui") none (some "integration") (some 1) none]

/-- How the run of `conflictCalls` ends: the second task has a success of its
leased generation, and the `MERGE_CONFLICT` append for it is refused for want of
a token. -/
theorem conflictCalls_facts :
    (Runs.exec Call.perform (LeaseWorld.created String ⟨1⟩ ["api", "ui"] 0) conflictCalls).map
      (fun r => (r.1.any fun e => e.input.recordsSuccess "ui" ∧ e.output.isOk,
        match recordMergeConflict r.2.db r.2.now ⟨1⟩ "ui" 1 "marker" "conflict" with
        | .ok _ => none
        | .error failure => some failure)) =
      some (true, some ⟨.staleRunToken, "current run_token is required for this task write"⟩) := by
  decide +kernel

/-- The same facts about the run itself. -/
theorem conflictCalls_run :
    ∃ es w, Runs.Run leaseStep (LeaseWorld.created String ⟨1⟩ ["api", "ui"] 0) es w ∧
      SucceededUnderLease es "ui" ∧
      recordMergeConflict w.db w.now ⟨1⟩ "ui" 1 "marker" "conflict" =
        .error ⟨.staleRunToken, "current run_token is required for this task write"⟩ := by
  obtain ⟨⟨es, w⟩, hexec, hfacts⟩ := Option.map_eq_some_iff.1 conflictCalls_facts
  obtain ⟨hany, hrefused⟩ := Prod.mk.inj hfacts
  refine ⟨es, w, Runs.run_of_exec hexec, ?_, ?_⟩
  · obtain ⟨e, he, hsuccess⟩ := List.any_eq_true.1 hany
    obtain ⟨hsuccess, hok⟩ := of_decide_eq_true hsuccess
    refine ⟨e, he, ?_, hsuccess⟩
    cases hout : e.output with
    | ok u => rfl
    | error failure => simp [hout, Except.isOk, Except.toBool] at hok
  · cases hrun : recordMergeConflict w.db w.now ⟨1⟩ "ui" 1 "marker" "conflict" with
    | ok r => simp [hrun] at hrefused
    | error failure =>
      simp only [hrun, Option.some.injEq] at hrefused
      rw [hrefused]

end DevFlow
