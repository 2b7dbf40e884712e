/-
# The contract gate over a run

Workers (`Workers.Executor`), the registry of interface contracts and the reconcilers of
a run, in any order of their steps.  A worker that has appended its terminal execution
gives one verdict on its task, unless it stops before; `reconcile_run`
(`runtime/run_reconciler.py`) reads the gates of its candidates one after the other and
then hands over those that were allowed.

`workerStep_grows` says that evidence stays, `gateStep_sound` what each step keeps, and
`contract_gate_sound` reads it for a whole run: at every moment a gate is exactly about
the first verdicts, a verdict is about recorded evidence, and what was handed over has
the successful executions of all its producers, although the gates were read earlier.
-/

import DevFlow.Persistence.DagStore
import DevFlow.Persistence.InterfaceContracts
import DevFlow.Persistence.RunLog
import DevFlow.Workers.ReleaseEvidence

namespace DevFlow

variable {X : Type}

/-- A reconciler: the candidates whose gates are to be read, and those admitted so far. -/
structure GateRead where
  candidates : List String
  admitted : List String
deriving DecidableEq, Repr

/-- The workers, the table of contracts, and the reconcilers of a run. -/
structure GateWorld (X : Type) where
  workers : WorkerWorld X
  contracts : List InterfaceContractRow
  /-- The terminal executions that workers have appended and not reported, by token. -/
  unreported : List (UUID × WorkerExecutionEvidence X)
  readings : List GateRead
  /-- The tasks that were handed to the task reconciler. -/
  handed : List String
  /-- The verdicts that were committed, in their order. -/
  verdicts : List (String × ContractVerdict)

/-- What an execution says of the interfaces of its task. -/
def WorkerExecutionEvidence.verdict (execution : WorkerExecutionEvidence X) (now : Timestamp) :
    ContractVerdict :=
  execution.commitSha.elim .unmet fun commit => .satisfied commit now

/-- The report of `QueuedTaskWorker.execute` to the registry. -/
def reportExecution (rows : List InterfaceContractRow) (now : Timestamp) (runId : UUID)
    (execution : WorkerExecutionEvidence X) : List InterfaceContractRow :=
  if execution.status = .succeeded then
    markProducerSatisfied rows now runId execution.taskId execution.commitSha
  else markProducerUnmet rows runId execution.taskId

theorem reportExecution_eq (rows : List InterfaceContractRow) (now : Timestamp) (runId : UUID)
    (execution : WorkerExecutionEvidence X) :
    reportExecution rows now runId execution =
      settle rows runId execution.taskId (execution.verdict now) := by
  unfold reportExecution WorkerExecutionEvidence.verdict
  split_ifs with hstatus
  · obtain ⟨commit, hcommit⟩ := Option.ne_none_iff_exists'.1 (execution.success_commit hstatus)
    rw [hcommit]
    rfl
  · have hfailed : execution.status = .failed := by
      cases hcase : execution.status with
      | succeeded => exact absurd hcase hstatus
      | failed => rfl
    rw [execution.failure_commit hfailed]
    rfl

/-- A step of a worker, of the registry or of a reconciler. -/
inductive GateStep (X : Type)
  | worker (s : WorkerStep X)
  /-- The report of a worker; its transaction commits or not. -/
  | report (worker : WorkerProcess) (execution : WorkerExecutionEvidence X) (commits : Bool)
  /-- `declare_for_dag` again. -/
  | declare
  /-- A transaction on the rows of other runs. -/
  | others (rows : List InterfaceContractRow)
  | start (candidates : List String)
  /-- A reconciler reads the gate of its next candidate. -/
  | gate (i : ℕ)
  /-- A reconciler that has read all of its gates hands a task over. -/
  | hand (i : ℕ)

/-- The execution that a worker holds as `terminal_execution` after a step. -/
def WorkerStep.appends : WorkerStep X → Except Failure Unit →
    List (UUID × WorkerExecutionEvidence X)
  | .terminal p execution _, .ok () => [(p.token, execution)]
  | _, _ => []

variable [DecidableEq X]

/-- One step, for the order of the database and the graph of the run. -/
def GateStep.perform (order : InterfaceOrder) (dag : TaskDAGRecord) (w : GateWorld X) :
    GateStep X → Option (Except Failure Unit × GateWorld X)
  | .worker s => (s.perform w.workers).map fun r =>
      (r.1, { w with workers := r.2, unreported := w.unreported ++ s.appends r.1 })
  | .report p execution commits =>
    if p ∉ w.workers.workers ∨ p.phase ≠ .persisted ∨
        (p.token, execution) ∉ w.unreported then none
    else if commits then
      some (.ok (), { w with
        contracts := reportExecution w.contracts w.workers.now w.workers.db.runId execution
        unreported := w.unreported.erase (p.token, execution)
        verdicts := w.verdicts ++ [(execution.taskId, execution.verdict w.workers.now)] })
    else some (.error ⟨.operationalError, "connection lost"⟩, { w with
      unreported := w.unreported.erase (p.token, execution) })
  | .declare =>
    some (.ok (), { w with contracts := declareForDag w.contracts w.workers.db.runId dag })
  | .others rows =>
    if rowsOf rows w.workers.db.runId ≠ rowsOf w.contracts w.workers.db.runId then none
    else some (.ok (), { w with contracts := rows })
  | .start candidates => some (.ok (), { w with readings := w.readings ++ [⟨candidates, []⟩] })
  | .gate i =>
    match w.readings[i]? with
    | some ⟨taskId :: candidates, admitted⟩ =>
      let gate := gateForTask order w.contracts w.workers.db.runId taskId
      let reading : GateRead :=
        ⟨candidates, if gate.allowed then admitted ++ [taskId] else admitted⟩
      some (.ok (), { w with readings := w.readings.set i reading })
    | _ => none
  | .hand i =>
    match w.readings[i]? with
    | some ⟨[], taskId :: admitted⟩ =>
      some (.ok (), { w with
        readings := w.readings.set i ⟨[], admitted⟩
        handed := w.handed ++ [taskId] })
    | _ => none

/-- The transition system. -/
def gateStep (order : InterfaceOrder) (dag : TaskDAGRecord) (w : GateWorld X) (s : GateStep X)
    (answer : Except Failure Unit) (w' : GateWorld X) : Prop :=
  s.perform order dag w = some (answer, w')

/-- A run as `start_run` and `declare_for_dag` leave it. -/
def GateWorld.created (X : Type) (runId : UUID) (dag : TaskDAGRecord)
    (rows : List InterfaceContractRow) (now : Timestamp) : GateWorld X where
  workers := WorkerWorld.created X runId (dag.tasks.map TaskNodeRecord.taskId) now
  contracts := declareForDag rows runId dag
  unreported := []
  readings := []
  handed := []
  verdicts := []

/-! ### Evidence stays -/

section evidence

variable {db db' : Database X} {w w' : WorkerWorld X}

/-- The run is the same, and its evidence is still there. -/
def Database.Keeps (db db' : Database X) : Prop :=
  db'.runId = db.runId ∧ ∀ row ∈ db.evidence, row ∈ db'.evidence

omit [DecidableEq X] in
theorem Database.Extends.keeps (h : db.Extends db') : db.Keeps db' := by
  refine ⟨h.runId, fun row hrow => ?_⟩
  rcases h.evidence with heq | ⟨new, -, -, heq⟩
  · exact heq ▸ hrow
  · exact heq ▸ List.mem_append_left _ hrow

omit [DecidableEq X] in
theorem Database.Keeps.refl (db : Database X) : db.Keeps db :=
  ⟨rfl, fun _ => id⟩

omit [DecidableEq X] in
/-- A transaction of the store, whatever becomes of it. -/
theorem keeps_of_apply {fault : Fault} {outcome : Except Failure (Database X)}
    {answer : Except Failure Unit} (h : fault.apply db outcome = (answer, db'))
    (hextends : ∀ db', outcome = .ok db' → db.Extends db') : db.Keeps db' := by
  rcases (Fault.apply_cases h).1 with rfl | hok
  · exact .refl _
  · exact (hextends db' hok).keeps

theorem append_extends {p : WorkerProcess} {evidenceKey : String} {kind : EvidenceKind}
    {payload : Payload X} {stage : Option String} {sequence : Option ℤ}
    (h : p.append w evidenceKey kind payload stage sequence = .ok db') : w.db.Extends db' := by
  obtain ⟨id, happend⟩ := Raising.map_snd_eq_ok.1 h
  exact appendEvidenceWith_extends evidenceEventDraft_refuses happend

/-- **A step of the workers keeps the run and its evidence.** -/
theorem workerStep_grows {s : WorkerStep X} {answer : Except Failure Unit}
    (hstep : workerStep w s answer w') : w.db.Keeps w'.db := by
  unfold workerStep at hstep
  cases s with
  | acquire message ownerId token leaseSeconds =>
    simp only [WorkerStep.perform] at hstep
    split at hstep
    · cases hstep
    split at hstep
    · rename_i grant db' hacquire
      obtain ⟨-, rfl⟩ := Prod.mk.inj (Option.some.inj hstep)
      exact (acquireTaskLease_extends hacquire).keeps
    · obtain ⟨-, rfl⟩ := Prod.mk.inj (Option.some.inj hstep)
      exact .refl _
  | setup p passes =>
    simp only [WorkerStep.perform] at hstep
    split_ifs at hstep <;>
      (obtain ⟨-, rfl⟩ := Prod.mk.inj (Option.some.inj hstep); exact .refl _)
  | append p evidenceKey kind payload stage sequence fault =>
    simp only [WorkerStep.perform] at hstep
    split at hstep
    · cases hstep
    generalize hfault : fault.apply w.db (p.append w evidenceKey kind payload stage sequence) = r
      at hstep
    obtain ⟨answer', db'⟩ := r
    obtain ⟨-, rfl⟩ := Prod.mk.inj (Option.some.inj hstep)
    exact keeps_of_apply hfault fun _ => append_extends
  | terminal p execution fault =>
    simp only [WorkerStep.perform] at hstep
    split at hstep
    · cases hstep
    generalize hfault : fault.apply w.db (p.appendExecution w execution) = r at hstep
    obtain ⟨answer', db'⟩ := r
    obtain ⟨-, rfl⟩ := Prod.mk.inj (Option.some.inj hstep)
    exact keeps_of_apply hfault fun _ => append_extends
  | handle p execution fault =>
    simp only [WorkerStep.perform] at hstep
    split at hstep
    · cases hstep
    generalize hfault : fault.apply w.db (p.appendExecution w execution) = r at hstep
    obtain ⟨answer', db'⟩ := r
    obtain ⟨-, rfl⟩ := Prod.mk.inj (Option.some.inj hstep)
    exact keeps_of_apply hfault fun _ => append_extends
  | finalize p result fault =>
    simp only [WorkerStep.perform] at hstep
    split at hstep
    · cases hstep
    generalize hfault : fault.apply w.db (finalizeSingleTaskRun w.db w.now w.db.runId result
      (some p.token)) = r at hstep
    obtain ⟨answer', db'⟩ := r
    obtain ⟨-, rfl⟩ := Prod.mk.inj (Option.some.inj hstep)
    exact keeps_of_apply hfault fun _ => finalizeSingleTaskRun_extends
  | heartbeat p leaseSeconds fault =>
    simp only [WorkerStep.perform] at hstep
    split at hstep
    · cases hstep
    generalize hfault : fault.apply w.db ((renewTaskLease w.db w.now w.db.runId p.message.taskId
      p.ownerId p.message.dispatchId p.token leaseSeconds).map Prod.snd) = r at hstep
    obtain ⟨answer', db'⟩ := r
    obtain ⟨-, rfl⟩ := Prod.mk.inj (Option.some.inj hstep)
    refine keeps_of_apply hfault fun db hok => ?_
    obtain ⟨shown, hrenew⟩ := Raising.map_snd_eq_ok.1 hok
    exact renewTaskLease_extends hrenew
  | release p fault =>
    simp only [WorkerStep.perform] at hstep
    split at hstep
    · cases hstep
    generalize hfault : fault.apply w.db ((releaseTaskLease w.db w.now w.db.runId p.message.taskId
      p.ownerId p.message.dispatchId p.token).map Prod.snd) = r at hstep
    obtain ⟨answer', db'⟩ := r
    obtain ⟨-, rfl⟩ := Prod.mk.inj (Option.some.inj hstep)
    refine keeps_of_apply hfault fun db hok => ?_
    obtain ⟨shown, hrelease⟩ := Raising.map_snd_eq_ok.1 hok
    exact releaseTaskLease_extends hrelease
  | appendOther evidenceKey kind payload taskId stage sequence runToken =>
    simp only [WorkerStep.perform] at hstep
    split at hstep
    · rename_i id db' happend
      obtain ⟨-, rfl⟩ := Prod.mk.inj (Option.some.inj hstep)
      exact (appendEvidenceWith_extends evidenceEventDraft_refuses happend).keeps
    · obtain ⟨-, rfl⟩ := Prod.mk.inj (Option.some.inj hstep)
      exact .refl _
  | throws p | finish p raises | cancel p | crash p | finalizeRun status result =>
    simp only [WorkerStep.perform] at hstep
    split at hstep
    · cases hstep
    obtain ⟨-, rfl⟩ := Prod.mk.inj (Option.some.inj hstep)
    exact ⟨rfl, fun _ => id⟩
  | tick elapsed =>
    obtain ⟨-, rfl⟩ := Prod.mk.inj (Option.some.inj hstep)
    exact .refl _

end evidence

/-! ### What every step keeps -/

/-- The execution is in the evidence of its run. -/
def Database.Holds (db : Database X) (execution : WorkerExecutionEvidence X) : Prop :=
  execution.runId = db.runId ∧
    ∃ row ∈ db.evidence, row.kind = .workerExecution ∧ row.payload = .workerExecution execution

/-- A verdict is about an execution. -/
def ContractVerdict.About (verdict : ContractVerdict) (execution : WorkerExecutionEvidence X) :
    Prop :=
  (∀ commit time, verdict = .satisfied commit time →
    execution.status = .succeeded ∧ execution.commitSha = some commit) ∧
  (verdict = .unmet → execution.status = .failed)

/-- The gate of the task is open. -/
def Cleared (nodes : List TaskNodeRecord) (verdicts : List (String × ContractVerdict))
    (taskId : String) : Prop :=
  ∀ interface node, Provides nodes node interface → Needs nodes taskId interface →
    Exported verdicts node.taskId

/-- What holds in every state of a run. -/
structure GateWorld.Sound (w : GateWorld X) (runId : UUID) (dag : TaskDAGRecord) : Prop where
  run : w.workers.db.runId = runId
  /-- The rows of the run are those of its graph, each with the first verdict. -/
  rows : rowsOf w.contracts runId = ruled (declarations runId dag.tasks) w.verdicts
  unreported : ∀ entry ∈ w.unreported, w.workers.db.Holds entry.2
  verdicts : ∀ entry ∈ w.verdicts, ∃ execution, w.workers.db.Holds execution ∧
    execution.taskId = entry.1 ∧ entry.2.About execution
  admitted : ∀ reading ∈ w.readings, ∀ t ∈ reading.admitted, Cleared dag.tasks w.verdicts t
  handed : ∀ t ∈ w.handed, Cleared dag.tasks w.verdicts t

omit [DecidableEq X] in
theorem Database.Holds.keeps {db db' : Database X} {execution : WorkerExecutionEvidence X}
    (h : db.Holds execution) (hkeeps : db.Keeps db') : db'.Holds execution := by
  obtain ⟨hrun, row, hrow, hfields⟩ := h
  exact ⟨hrun.trans hkeeps.1.symm, row, hkeeps.2 row hrow, hfields⟩

omit [DecidableEq X] in
theorem about_verdict (execution : WorkerExecutionEvidence X) (now : Timestamp) :
    (execution.verdict now).About execution := by
  have hstatus : execution.commitSha = none ↔ execution.status = .failed := by
    refine ⟨fun hnone => ?_, execution.failure_commit⟩
    cases hcase : execution.status with
    | succeeded => exact absurd hnone (execution.success_commit hcase)
    | failed => rfl
  unfold WorkerExecutionEvidence.verdict
  cases hcommit : execution.commitSha with
  | none =>
    exact ⟨fun _ _ h => (by cases h), fun _ => hstatus.1 hcommit⟩
  | some commit =>
    refine ⟨fun c time h => ?_, fun h => (by cases h)⟩
    obtain ⟨rfl, -⟩ := ContractVerdict.satisfied.inj h
    refine ⟨?_, hcommit⟩
    cases hcase : execution.status with
    | succeeded => rfl
    | failed => rw [hstatus.2 hcase] at hcommit; cases hcommit

theorem Exported.append {verdicts : List (String × ContractVerdict)} {taskId : String}
    (h : Exported verdicts taskId) (later : List (String × ContractVerdict)) :
    Exported (verdicts ++ later) taskId := by
  obtain ⟨commit, time, hlookup⟩ := h
  exact ⟨commit, time, by rw [List.lookup_append, hlookup, Option.some_or]⟩

theorem Cleared.append {nodes : List TaskNodeRecord} {verdicts : List (String × ContractVerdict)}
    {taskId : String} (h : Cleared nodes verdicts taskId)
    (later : List (String × ContractVerdict)) : Cleared nodes (verdicts ++ later) taskId :=
  fun interface node hprovides hneeds => (h interface node hprovides hneeds).append later

theorem cleared_iff {nodes : List TaskNodeRecord} {verdicts : List (String × ContractVerdict)}
    {taskId : String} : Cleared nodes verdicts taskId ↔
      ∀ interface node, ¬WaitsFor nodes verdicts taskId interface node := by
  constructor
  · rintro h interface node ⟨hprovides, hneeds, hopen⟩
    exact hopen (h interface node hprovides hneeds)
  · intro h interface node hprovides hneeds
    by_contra hopen
    exact h interface node ⟨hprovides, hneeds, hopen⟩

/-- An appended execution is there. -/
theorem holds_of_terminal {w w' : WorkerWorld X} {s : WorkerStep X} {answer : Except Failure Unit}
    (hstep : workerStep w s answer w') {entry : UUID × WorkerExecutionEvidence X}
    (hentry : entry ∈ s.appends answer) : w'.db.Holds entry.2 := by
  unfold WorkerStep.appends at hentry
  split at hentry
  · rename_i p execution fault
    obtain rfl := List.mem_singleton.1 hentry
    unfold workerStep at hstep
    simp only [WorkerStep.perform] at hstep
    split at hstep
    · cases hstep
    rename_i hcond
    simp only [not_or, not_not] at hcond
    generalize hfault : fault.apply w.db (p.appendExecution w execution) = r at hstep
    obtain ⟨answer', db'⟩ := r
    obtain ⟨rfl, rfl⟩ := Prod.mk.inj (Option.some.inj hstep)
    have hok := (Fault.apply_cases hfault).2 rfl
    rw [WorkerProcess.appendExecution, WorkerProcess.append] at hok
    obtain ⟨id, happend⟩ := Raising.map_snd_eq_ok.1 hok
    have hextends := appendEvidenceWith_extends evidenceEventDraft_refuses happend
    refine ⟨hcond.2.2.2.1.trans hextends.runId.symm, ?_⟩
    obtain ⟨-, -, -, ⟨row, hrow, -, hsame, -, rfl⟩ | ⟨-, timeline, -, rfl⟩⟩ :=
      appendEvidence_eq_ok happend
    · exact ⟨row, hrow, hsame.2.1, hsame.2.2.2.2.2⟩
    · exact ⟨_, List.mem_append_right _ (List.mem_singleton_self _), rfl, rfl⟩
  · cases hentry

section steps

variable {w w' : GateWorld X} {runId : UUID} {dag : TaskDAGRecord} {order : InterfaceOrder}
variable {answer : Except Failure Unit}

omit [DecidableEq X] in
theorem declared_facts : ∀ row ∈ declarations runId dag.tasks,
    row.runId = runId ∧ row.state = .declared :=
  fun _ hrow => ⟨runId_of_mem_declarations hrow, state_of_mem_declarations hrow⟩

omit [DecidableEq X] in
/-- Declaring the graph again changes nothing. -/
theorem GateWorld.Sound.declareForDag_eq (h : w.Sound runId dag) :
    declareForDag w.contracts runId dag = w.contracts := by
  refine foldl_insertNew_of_mem fun row hrow => ?_
  have hruled : (w.verdicts.lookup row.producerTaskId).elim row row.give ∈
      rowsOf w.contracts runId := h.rows ▸ List.mem_map_of_mem hrow
  obtain ⟨hrun, hinterface, -, -⟩ := fields_ruled row (w.verdicts.lookup row.producerTaskId)
  exact ⟨_, (List.mem_filter.1 hruled).1, Prod.ext hrun hinterface⟩

omit [DecidableEq X] in
/-- A reading is rewritten. -/
theorem admitted_set {nodes : List TaskNodeRecord} {verdicts : List (String × ContractVerdict)}
    {readings : List GateRead} {i : ℕ} {reading : GateRead}
    (h : ∀ reading ∈ readings, ∀ t ∈ reading.admitted, Cleared nodes verdicts t)
    (hreading : ∀ t ∈ reading.admitted, Cleared nodes verdicts t) :
    ∀ r ∈ readings.set i reading, ∀ t ∈ r.admitted, Cleared nodes verdicts t := by
  intro r hr
  rcases List.mem_or_eq_of_mem_set hr with hr | rfl
  · exact h r hr
  · exact hreading

/-- **Every step keeps the invariant.** -/
theorem gateStep_sound {s : GateStep X} (h : w.Sound runId dag)
    (hstep : gateStep order dag w s answer w') : w'.Sound runId dag := by
  unfold gateStep at hstep
  cases s with
  | worker s =>
    obtain ⟨⟨answer', workers⟩, hworker, heq⟩ := Option.map_eq_some_iff.1 hstep
    obtain ⟨-, rfl⟩ := Prod.mk.inj heq
    have hkeeps := workerStep_grows hworker
    refine ⟨hkeeps.1.trans h.run, h.rows, fun entry hentry => ?_, fun entry hentry => ?_,
      h.admitted, h.handed⟩
    · rcases List.mem_append.1 hentry with hold | hnew
      · exact (h.unreported entry hold).keeps hkeeps
      · exact holds_of_terminal hworker hnew
    · obtain ⟨execution, hholds, hfacts⟩ := h.verdicts entry hentry
      exact ⟨execution, hholds.keeps hkeeps, hfacts⟩
  | report p execution commits =>
    simp only [GateStep.perform] at hstep
    split at hstep
    · cases hstep
    rename_i hcond
    simp only [not_or, not_not] at hcond
    obtain ⟨-, -, hunreported⟩ := hcond
    have herase : ∀ entry ∈ w.unreported.erase (p.token, execution),
        w.workers.db.Holds entry.2 := fun entry hentry =>
      h.unreported entry (List.mem_of_mem_erase hentry)
    split at hstep
    · obtain ⟨-, rfl⟩ := Prod.mk.inj (Option.some.inj hstep)
      refine ⟨h.run, ?_, herase, fun entry hentry => ?_, fun reading hreading t ht =>
        (h.admitted reading hreading t ht).append _, fun t ht => (h.handed t ht).append _⟩
      · rw [h.run, reportExecution_eq, rowsOf_settle, h.rows, settle_ruled declared_facts]
      · rcases List.mem_append.1 hentry with hold | hnew
        · exact h.verdicts entry hold
        · obtain rfl := List.mem_singleton.1 hnew
          exact ⟨execution, h.unreported _ hunreported, rfl, about_verdict execution _⟩
    · obtain ⟨-, rfl⟩ := Prod.mk.inj (Option.some.inj hstep)
      exact ⟨h.run, h.rows, herase, h.verdicts, h.admitted, h.handed⟩
  | declare =>
    obtain ⟨-, rfl⟩ := Prod.mk.inj (Option.some.inj hstep)
    refine ⟨h.run, ?_, h.unreported, h.verdicts, h.admitted, h.handed⟩
    rw [h.run, h.declareForDag_eq, h.rows]
  | others rows =>
    simp only [GateStep.perform] at hstep
    split at hstep
    · cases hstep
    rename_i hsame
    obtain ⟨-, rfl⟩ := Prod.mk.inj (Option.some.inj hstep)
    rw [not_not, h.run] at hsame
    exact ⟨h.run, hsame.trans h.rows, h.unreported, h.verdicts, h.admitted, h.handed⟩
  | start candidates =>
    obtain ⟨-, rfl⟩ := Prod.mk.inj (Option.some.inj hstep)
    refine ⟨h.run, h.rows, h.unreported, h.verdicts, fun reading hreading => ?_, h.handed⟩
    rcases List.mem_append.1 hreading with hold | hnew
    · exact h.admitted reading hold
    · obtain rfl := List.mem_singleton.1 hnew
      exact List.forall_mem_nil _
  | gate i =>
    simp only [GateStep.perform] at hstep
    split at hstep
    · rename_i taskId candidates admitted hreading
      obtain ⟨-, rfl⟩ := Prod.mk.inj (Option.some.inj hstep)
      refine ⟨h.run, h.rows, h.unreported, h.verdicts, admitted_set h.admitted ?_, h.handed⟩
      have hbefore := h.admitted _ (List.mem_of_getElem? hreading)
      have hgate := @gateForTask_exact _ taskId _ _ _ order h.rows
      dsimp only
      rw [h.run]
      split_ifs with hallowed
      · intro t ht
        rcases List.mem_append.1 ht with hold | hnew
        · exact hbefore t hold
        · rw [List.mem_singleton.1 hnew]
          exact cleared_iff.2 (hgate.allowed.1 hallowed)
      · exact hbefore
    · cases hstep
  | hand i =>
    simp only [GateStep.perform] at hstep
    split at hstep
    · rename_i taskId admitted hreading
      obtain ⟨-, rfl⟩ := Prod.mk.inj (Option.some.inj hstep)
      have hbefore := h.admitted _ (List.mem_of_getElem? hreading)
      refine ⟨h.run, h.rows, h.unreported, h.verdicts, admitted_set h.admitted fun t ht =>
        hbefore t (List.mem_cons_of_mem _ ht), fun t ht => ?_⟩
      rcases List.mem_append.1 ht with hold | hnew
      · exact h.handed t hold
      · exact hbefore t (List.mem_cons.2 (Or.inl (List.mem_singleton.1 hnew)))
    · cases hstep

/-- The verdicts are only added to. -/
theorem gateStep_verdicts {s : GateStep X} (hstep : gateStep order dag w s answer w') :
    w.verdicts <+: w'.verdicts := by
  unfold gateStep at hstep
  cases s with
  | worker s =>
    obtain ⟨_, -, heq⟩ := Option.map_eq_some_iff.1 hstep
    obtain ⟨-, rfl⟩ := Prod.mk.inj heq
    exact List.prefix_rfl
  | report p execution commits =>
    simp only [GateStep.perform] at hstep
    split at hstep
    · cases hstep
    split at hstep
    · obtain ⟨-, rfl⟩ := Prod.mk.inj (Option.some.inj hstep)
      exact List.prefix_append _ _
    · obtain ⟨-, rfl⟩ := Prod.mk.inj (Option.some.inj hstep)
      exact List.prefix_rfl
  | declare | start candidates =>
    obtain ⟨-, rfl⟩ := Prod.mk.inj (Option.some.inj hstep)
    exact List.prefix_rfl
  | others rows =>
    simp only [GateStep.perform] at hstep
    split at hstep
    · cases hstep
    · obtain ⟨-, rfl⟩ := Prod.mk.inj (Option.some.inj hstep)
      exact List.prefix_rfl
  | gate i | hand i =>
    simp only [GateStep.perform] at hstep
    split at hstep
    · obtain ⟨-, rfl⟩ := Prod.mk.inj (Option.some.inj hstep)
      exact List.prefix_rfl
    · cases hstep

omit [DecidableEq X] in
theorem GateWorld.created_sound {rows : List InterfaceContractRow} (now : Timestamp)
    (hkeyed : Tables.Keyed InterfaceContractRow.key rows) (hnone : rowsOf rows runId = []) :
    (GateWorld.created X runId dag rows now).Sound runId dag where
  run := rfl
  rows := by
    have hruled : ruled (declarations runId dag.tasks) [] = declarations runId dag.tasks :=
      List.map_id _
    exact (rowsOf_declareForDag hkeyed hnone).trans hruled.symm
  unreported := List.forall_mem_nil _
  verdicts := List.forall_mem_nil _
  admitted := List.forall_mem_nil _
  handed := List.forall_mem_nil _

end steps

/-! ### Whole runs -/

/-- **The gate over a run.**  In every interleaving of workers, registry and reconcilers a
gate is exactly about the first verdicts, each verdict is about a recorded execution, a
task that was handed over has a recorded success of every producer it needs, and a producer
whose first verdict is UNMET keeps its consumers back for ever. -/
theorem contract_gate_sound {order : InterfaceOrder} {dag : TaskDAGRecord} {runId : UUID}
    {rows : List InterfaceContractRow} {now : Timestamp} {w : GateWorld X}
    {es : List (Runs.Event (GateWorld X) (GateStep X) (Except Failure Unit))}
    (hkeyed : Tables.Keyed InterfaceContractRow.key rows) (hnone : rowsOf rows runId = [])
    (hrun : Runs.Run (gateStep order dag) (GateWorld.created X runId dag rows now) es w) :
    (∀ t, (gateForTask order w.contracts runId t).Exact dag.tasks w.verdicts t) ∧
    (∀ entry ∈ w.verdicts, ∃ execution, w.workers.db.Holds execution ∧
      execution.taskId = entry.1 ∧ entry.2.About execution) ∧
    (∀ t ∈ w.handed, ∀ interface node, Provides dag.tasks node interface →
      Needs dag.tasks t interface → ∃ execution, w.workers.db.Holds execution ∧
        execution.taskId = node.taskId ∧ execution.status = .succeeded) ∧
    ∀ fs w', Runs.Run (gateStep order dag) w fs w' →
      w.verdicts <+: w'.verdicts ∧
      ∀ t interface node, Provides dag.tasks node interface → Needs dag.tasks t interface →
        w.verdicts.lookup node.taskId = some .unmet →
          t ∉ w'.handed ∧
            interface ∈ (gateForTask order w'.contracts runId t).missingInterfaces := by
  have hkeep : ∀ (u : GateWorld X) i o u', u.Sound runId dag → gateStep order dag u i o u' →
      u'.Sound runId dag :=
    fun _ _ _ _ h hstep => gateStep_sound h hstep
  have hsound : w.Sound runId dag :=
    hrun.invariant (I := fun u => u.Sound runId dag) hkeep
      (GateWorld.created_sound now hkeyed hnone)
  refine ⟨fun t => gateForTask_exact order hsound.rows, hsound.verdicts, ?_, ?_⟩
  · intro t ht interface node hprovides hneeds
    obtain ⟨commit, time, hlookup⟩ := hsound.handed t ht interface node hprovides hneeds
    obtain ⟨before, after, hverdicts, -⟩ := List.lookup_eq_some_iff.1 hlookup
    obtain ⟨execution, hholds, htask, habout⟩ := hsound.verdicts _
      (hverdicts ▸ List.mem_append_right before List.mem_cons_self)
    exact ⟨execution, hholds, htask, (habout.1 commit time rfl).1⟩
  · intro fs w' hlater
    have hgrows : w.verdicts <+: w'.verdicts :=
      hlater.invariant (I := fun u => w.verdicts <+: u.verdicts)
        (fun _ _ _ _ h hstep => h.trans (gateStep_verdicts hstep)) List.prefix_rfl
    refine ⟨hgrows, fun t interface node hprovides hneeds hunmet => ?_⟩
    have hsound' : w'.Sound runId dag := hlater.invariant (I := fun u => u.Sound runId dag) hkeep hsound
    have hopen : ¬Exported w'.verdicts node.taskId := by
      rintro ⟨commit, time, hlookup⟩
      rw [hgrows.lookup_eq_some hunmet] at hlookup
      cases hlookup
    refine ⟨fun ht => hopen (hsound'.handed t ht interface node hprovides hneeds), ?_⟩
    exact ((gateForTask_exact order hsound'.rows).missing interface).2
      ⟨node, hprovides, hneeds, hopen⟩

/-! ### A run -/

/-- The task that provides the interface of the run below. -/
def interfaceProducer : TaskNodeRecord :=
  ⟨{ task := plainContract, produces := ["store"] }, rfl⟩

/-- The task that needs it. -/
def interfaceConsumer : TaskNodeRecord :=
  ⟨{ task := ⟨{ plainContractFields with taskId := "b" }, rfl⟩, consumes := ["store"] }, rfl⟩

def interfaceDag : TaskDAGRecord :=
  ⟨[interfaceProducer, interfaceConsumer], rfl⟩

/-- The execution of the producer. -/
def exportedExecution : WorkerExecutionEvidence Unit where
  dispatchId := ⟨11⟩
  runId := ⟨1⟩
  taskId := "a"
  status := .succeeded
  baseCommit := "base"
  commitSha := some "head"
  content := ()
  success_commit := ExecutionStatus.succeeded_commit _
  failure_commit := ExecutionStatus.succeeded_not_failed _

/-- The worker of the producer, in a phase. -/
def exportingWorker (phase : WorkerPhase) : WorkerProcess :=
  ⟨⟨"a", ⟨11⟩⟩, "worker-a", ⟨101⟩, phase⟩

/-- The gate is read too early, and again after the producer's report. -/
def exportedInterface : List (GateStep Unit) :=
  [.start ["b"], .gate 0, .worker (.acquire ⟨"a", ⟨11⟩⟩ "worker-a" ⟨101⟩ 30),
    .worker (.setup (exportingWorker .setup) true),
    .worker (.terminal (exportingWorker .body) exportedExecution .none),
    .report (exportingWorker .persisted) exportedExecution true,
    .start ["b"], .gate 1, .hand 1]

def storedOrder : InterfaceOrder :=
  ⟨id, fun _ => List.Perm.refl _⟩

theorem contract_gate_sound_exportedInterface :
    ∃ es w, Runs.Run (gateStep storedOrder interfaceDag)
        (GateWorld.created Unit ⟨1⟩ interfaceDag [] 0) es w ∧
      w.handed = ["b"] ∧ w.readings.map GateRead.candidates = [[], []] ∧
      ∃ execution, w.workers.db.Holds execution ∧ execution.taskId = "a" ∧
        execution.status = .succeeded := by
  have hfacts : (Runs.exec (GateStep.perform storedOrder interfaceDag)
      (GateWorld.created Unit ⟨1⟩ interfaceDag [] 0) exportedInterface).map
        (fun r => (r.2.handed, r.2.readings.map GateRead.candidates)) =
      some (["b"], [[], []]) := by
    decide +kernel
  obtain ⟨⟨es, w⟩, hexec, hw⟩ := Option.map_eq_some_iff.1 hfacts
  obtain ⟨hhanded, hread⟩ := Prod.mk.inj hw
  have hrun := Runs.run_of_exec hexec
  have hneeds : Needs interfaceDag.tasks "b" "store" :=
    ⟨interfaceConsumer, List.mem_cons_of_mem _ List.mem_cons_self, List.mem_singleton_self _, rfl⟩
  have hkeyed : Tables.Keyed InterfaceContractRow.key [] := List.nodup_nil
  obtain ⟨-, -, hproducers, -⟩ := contract_gate_sound hkeyed rfl hrun
  exact ⟨es, w, hrun, hhanded, hread,
    hproducers "b" (hhanded ▸ List.mem_singleton_self _) "store" interfaceProducer rfl hneeds⟩

end DevFlow
