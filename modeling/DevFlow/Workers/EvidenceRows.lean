/-
# The rows a worker writes

A call of `execute` appends rows and takes none away, and the terminal evidence
among them is that of the last slice or that of an exception.  So what such
appends keep of the rows is kept in every state of the call, wherever it is
stopped (`execute_keeps_of_append`): in particular a predicate of every row
(`execute_keeps_rows`), and the rows that were there (`execute_keeps_old`).
-/

import DevFlow.Workers.Slices

namespace DevFlow

namespace QueuedTaskWorker

/-- The row is of its kind, and terminal evidence satisfies `P` with the task of its
row. -/
def RowOf (P : Option String → WorkerExecutionEvidence WorkContent → Prop)
    (row : EvidenceRow WorkContent) : Prop :=
  row.payload.isModelOf row.kind ∧
    ∀ execution, row.payload = .workerExecution execution → P row.taskId execution

/-- Every row is of that form. -/
def RowsOf (P : Option String → WorkerExecutionEvidence WorkContent → Prop) (s : WorkerState) :
    Prop :=
  ∀ row ∈ s.db.evidence, RowOf P row

section rows

variable {settings : WorkerSettings} {calls : WorkerCalls} {maxSlices : ℕ} {queued : QueuedTask}
  {envelope : WorkerEnvelope} {execution : WorkerExecutionEvidence WorkContent} {runBase : String}
  {P : Option String → WorkerExecutionEvidence WorkContent → Prop}
  {J : List (EvidenceRow WorkContent) → Prop}
  (hJ : ∀ rows row, J rows → RowOf P row → J (rows ++ [row]))

include hJ

/-- An append keeps that when its payload does. -/
theorem append_keeps {evidenceKey : String} {kind : EvidenceKind} {payload : Payload WorkContent}
    {stage : String} {sequence : Option ℤ}
    (hpayload : ∀ execution, payload = .workerExecution execution →
      P (some (strip envelope.message.taskId)) execution) :
    Durable.Keeps (fun s => J s.db.evidence)
      (append envelope evidenceKey kind payload stage sequence) := by
  refine Durable.Keeps.transact fun s id t hs h => ?_
  obtain ⟨⟨id', db'⟩, happend, heq⟩ := Raising.map_eq_ok.1 h
  obtain ⟨-, rfl⟩ := Prod.mk.inj heq
  obtain ⟨-, hmodel, -, happended⟩ := appendEvidence_eq_ok happend
  rcases happended with ⟨_, _, _, _, _, rfl⟩ | ⟨_, _, _, rfl⟩
  · exact hs
  · exact hJ _ _ hs ⟨hmodel, hpayload⟩

theorem recordDispatchEvent_keeps (outcome : Option ExecutionStatus) :
    Durable.Keeps (fun s => J s.db.evidence) (recordDispatchEvent envelope outcome) :=
  Durable.Keeps.read_bind fun _ _ => Durable.Keeps.bind
    (append_keeps hJ fun _ hpayload => by cases hpayload) fun _ _ _ _ => Durable.Keeps.pure _

theorem appendCheckpoint_keeps (checkpoint : TaskCheckpoint) (sliceIndex : Option ℕ) :
    Durable.Keeps (fun s => J s.db.evidence) (appendCheckpoint envelope checkpoint sliceIndex) :=
  Durable.Keeps.bind (append_keeps hJ fun _ hpayload => by cases hpayload)
    fun _ _ _ _ => Durable.Keeps.pure _

theorem appendExecution_keeps (hP : P (some (strip envelope.message.taskId)) execution) :
    Durable.Keeps (fun s => J s.db.evidence) (appendExecution envelope execution) := by
  refine Durable.Keeps.bind (append_keeps hJ fun other hpayload => ?_)
    fun _ _ _ _ => Durable.Keeps.pure _
  obtain rfl := Payload.workerExecution.inj hpayload
  exact hP

theorem persistRuntimeResult_keeps (result : Option TaskRunResult) (sliceIndex : Option ℕ) :
    Durable.Keeps (fun s => J s.db.evidence) (persistRuntimeResult envelope result sliceIndex) := by
  cases result with
  | none => exact Durable.Keeps.pure _
  | some result =>
    unfold persistRuntimeResult
    dsimp only
    generalize runtimeRecords _ result = records
    induction records with
    | nil => exact Durable.Keeps.pure _
    | cons record records ih =>
      exact Durable.Keeps.bind (append_keeps hJ fun _ hpayload => by cases hpayload)
        fun _ _ _ _ => ih

omit hJ in
theorem runSliceOnce_keeps (v : SliceState) :
    Durable.Keeps (fun s => J s.db.evidence) (runSliceOnce calls maxSlices queued envelope v) := by
  refine Durable.Keeps.read_bind fun _ _ => Durable.Keeps.bind (Durable.Keeps.lift _)
    fun _ answer _ _ => Durable.Keeps.bind (Durable.Keeps.write fun _ hs => hs) fun _ _ _ _ => ?_
  cases checkpointWithSliceFacts answer v (calls.elapsedMs v.sliceIndex) maxSlices with
  | none => exact Durable.Keeps.pure _
  | some checkpoint =>
    cases calls.remainingTokens with
    | none => exact Durable.Keeps.pure _
    | some remaining =>
      exact Durable.Keeps.bind (Durable.Keeps.lift _) fun _ _ _ _ => Durable.Keeps.pure _

/-- The loop writes no terminal evidence, by induction on the slices that are left. -/
theorem sliceLoop_keeps (left : ℕ) (v : SliceState) :
    Durable.Keeps (fun s => J s.db.evidence) (sliceLoop settings calls maxSlices queued envelope left v) := by
  induction left generalizing v with
  | zero => exact Durable.Keeps.bind (runSliceOnce_keeps v) fun _ _ _ _ => Durable.Keeps.pure _
  | succ left ih =>
    refine Durable.Keeps.bind (runSliceOnce_keeps v) fun _ answer _ _ => ?_
    cases answer.checkpoint with
    | none => exact Durable.Keeps.pure _
    | some checkpoint =>
      dsimp only
      split_ifs
      · exact Durable.Keeps.bind (persistRuntimeResult_keeps hJ _ _) fun _ _ _ _ =>
          Durable.Keeps.bind (appendCheckpoint_keeps hJ _ _) fun _ _ _ _ => ih _
      · exact Durable.Keeps.pure _

/-- What the loop may return satisfies `P`, as the terminal evidence made of it. -/
def LastSlices (settings : WorkerSettings) (calls : WorkerCalls) (queued : QueuedTask)
    (envelope : WorkerEnvelope)
    (P : Option String → WorkerExecutionEvidence WorkContent → Prop) : Prop :=
  ∀ base s execution v, calls.resolveBase = .ok base →
    (sliceLoop settings calls (effectiveMaxSlices settings queued.complexityScore) queued envelope
      (effectiveMaxSlices settings queued.complexityScore - 1) (SliceState.start queued base)
      s).result = .ok (execution, v) →
    P (some (strip envelope.message.taskId)) (withContinuation execution queued v
      (effectiveMaxSlices settings queued.complexityScore) (calls.elapsedMs v.sliceIndex))

theorem work_keeps (hlast : LastSlices settings calls queued envelope P) :
    Durable.Keeps (fun s => J s.db.evidence) (work settings calls queued envelope) := by
  refine Durable.Keeps.bind (Durable.Keeps.lift _) fun _ base _ hbase =>
    Durable.Keeps.bind (recordDispatchEvent_keeps hJ none) fun _ _ _ _ =>
    Durable.Keeps.bind (sliceLoop_keeps hJ _ _) fun t last _ hloop => ?_
  obtain ⟨answer, v⟩ := last
  have hP := hlast base t answer v hbase hloop
  dsimp only
  refine Durable.Keeps.bind (persistRuntimeResult_keeps hJ _ _) fun _ _ _ _ => ?_
  generalize withContinuation answer queued v _ _ = execution at hP ⊢
  have htail : Durable.Keeps (fun s => J s.db.evidence) (do
      appendExecution envelope execution
      return execution) :=
    Durable.Keeps.bind (appendExecution_keeps hJ hP) fun _ _ _ _ => Durable.Keeps.pure _
  cases execution.checkpoint with
  | none => exact htail
  | some checkpoint =>
    exact Durable.Keeps.bind (appendCheckpoint_keeps hJ _ _) fun _ _ _ _ => htail

theorem settle_keeps (execution : WorkerExecutionEvidence WorkContent) :
    Durable.Keeps (fun s => J s.db.evidence) (settle calls envelope execution) := by
  have hfinalize : Durable.Keeps (fun s => J s.db.evidence) (finalizeSingle envelope execution) := by
    refine Durable.Keeps.read_bind fun s _ => ?_
    cases execution.runResult with
    | none => exact Durable.Keeps.pure _
    | some result =>
      dsimp only
      split_ifs
      · refine Durable.Keeps.transact fun s _ t hs h => ?_
        obtain ⟨db', hfinalize, heq⟩ := Raising.map_eq_ok.1 h
        obtain ⟨-, rfl⟩ := Prod.mk.inj heq
        obtain ⟨-, -, ⟨-, rfl⟩ | ⟨-, _, _, -, rfl⟩⟩ := finalizeSingleTaskRun_eq_ok hfinalize
        · exact hs
        · exact hs
      · exact Durable.Keeps.pure _
  have htail : Durable.Keeps (fun s => J s.db.evidence) (do
      Durable.write fun s => { s with now := s.now + calls.cleanupTime }
      recordDispatchEvent envelope (some execution.status)
      finalizeSingle envelope execution) :=
    Durable.Keeps.bind (Durable.Keeps.write fun _ hs => hs) fun _ _ _ _ =>
      Durable.Keeps.bind (recordDispatchEvent_keeps hJ _) fun _ _ _ _ => hfinalize
  unfold settle
  cases calls.markProducer with
  | none =>
    cases calls.reclaimBudget with
    | none => exact htail
    | some answer => exact Durable.Keeps.bind (Durable.Keeps.lift _) fun _ _ _ _ => htail
  | some answer =>
    refine Durable.Keeps.bind (Durable.Keeps.lift _) fun _ _ _ _ => ?_
    cases calls.reclaimBudget with
    | none => exact htail
    | some answer => exact Durable.Keeps.bind (Durable.Keeps.lift _) fun _ _ _ _ => htail

/-- **What the appends of a call of `execute` keep is kept by the call**, wherever the call
is stopped. -/
theorem execute_keeps_of_append (hlast : LastSlices settings calls queued envelope P)
    (hraised : ∀ execution : WorkerExecutionEvidence WorkContent,
      execution.taskId = queued.task.taskId → execution.status = .failed →
      execution.checkpoint = none → P (some (strip envelope.message.taskId)) execution) :
    Durable.Keeps (fun s => J s.db.evidence) (execute settings calls queued envelope runBase) := by
  refine Durable.Keeps.read_bind fun s _ => Durable.Keeps.bind (Durable.Keeps.raiseIf _ _)
    fun _ _ _ _ => Durable.Keeps.bind (Durable.Keeps.raiseIf _ _) fun _ _ _ _ =>
    Durable.Keeps.bind (work_keeps hJ hlast).caught fun _ outcome _ _ => ?_
  cases outcome with
  | error failure =>
    refine Durable.Keeps.bind (Durable.Keeps.read_bind fun _ _ => ?_) fun _ _ _ _ =>
      Durable.Keeps.bind (Durable.Keeps.raiseIf _ _) fun _ _ _ _ => Durable.Keeps.pure _
    exact Durable.Keeps.bind (appendExecution_keeps hJ (hraised _ rfl rfl rfl)) fun _ _ _ _ =>
      Durable.Keeps.bind (recordDispatchEvent_keeps hJ _) fun _ _ _ _ => Durable.Keeps.pure _
  | ok execution =>
    refine Durable.Keeps.bind (settle_keeps hJ execution).caught fun _ outcome _ _ => ?_
    cases outcome with
    | ok _ => exact Durable.Keeps.pure _
    | error failure =>
      refine Durable.Keeps.bind (Durable.Keeps.bind
        (append_keeps hJ fun _ hpayload => by cases hpayload) fun _ _ _ _ =>
          recordDispatchEvent_keeps hJ _) fun _ _ _ _ => ?_
      exact Durable.Keeps.bind (Durable.Keeps.raiseIf _ _) fun _ _ _ _ => Durable.Keeps.pure _

omit hJ in
/-- **Every row that a call of `execute` writes keeps the predicate.** -/
theorem execute_keeps_rows (hlast : LastSlices settings calls queued envelope P)
    (hraised : ∀ execution : WorkerExecutionEvidence WorkContent,
      execution.taskId = queued.task.taskId → execution.status = .failed →
      execution.checkpoint = none → P (some (strip envelope.message.taskId)) execution) :
    Durable.Keeps (RowsOf P) (execute settings calls queued envelope runBase) := by
  refine execute_keeps_of_append (J := fun rows => ∀ row ∈ rows, RowOf P row)
    (fun rows row hrows hrow other hother => ?_) hlast hraised
  rcases List.mem_append.1 hother with hold | hnew
  · exact hrows other hold
  · exact List.mem_singleton.1 hnew ▸ hrow

omit hJ in
/-- **No row is taken away.** -/
theorem execute_keeps_old (rows : List (EvidenceRow WorkContent)) :
    Durable.Keeps (fun s => rows ⊆ s.db.evidence)
      (execute settings calls queued envelope runBase) :=
  execute_keeps_of_append (P := fun _ _ => True) (J := fun now => rows ⊆ now)
    (fun _ _ hrows _ => List.subset_append_of_subset_left _ hrows)
    (fun _ _ _ _ _ _ => trivial) fun _ _ _ _ => trivial

end rows

end QueuedTaskWorker

end DevFlow
