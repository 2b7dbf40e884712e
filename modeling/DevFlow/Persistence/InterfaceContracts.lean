/-
# Interface contracts

`persistence/interface_contracts.py`: `PostgresInterfaceContractRegistry` keeps a row
for each interface that one task of a run produces and another consumes.  The rows of a
run are DECLARED with its graph; the worker of a producer settles them, SATISFIED with
its commit or UNMET, and the gate of a consumer asks for all of its rows.  A row that is
settled is never settled again: the first verdict counts (`rowsOf_settle`).
-/

import DevFlow.Library.Sha256
import DevFlow.Library.Tables
import DevFlow.Models.DagRecords
import DevFlow.Persistence.Rows

namespace DevFlow

/-- `InterfaceContractState`. -/
inductive InterfaceContractState
  | declared
  | satisfied
  | unmet
deriving DecidableEq, Repr

/-- A row of `run_interface_contracts`. -/
structure InterfaceContractRow where
  runId : UUID
  interfaceId : String
  producerTaskId : String
  consumerTaskIds : List String
  verificationCommands : List String
  versionSha256 : String
  state : InterfaceContractState := .declared
  commitSha : Option String := none
  satisfiedAt : Option Timestamp := none
deriving DecidableEq

namespace InterfaceContractRow

/-- The primary key. -/
def key (row : InterfaceContractRow) : UUID × String :=
  (row.runId, row.interfaceId)

end InterfaceContractRow

/-- `InterfaceContractGate`. -/
structure InterfaceContractGate where
  taskId : String
  allowed : Bool
  missingInterfaces : List String := []
  producerTasks : List String := []
  reason : Option String := none
deriving DecidableEq, Repr

/-! ### Declaring -/

/-- `producers`: of several tasks with one interface the last one counts. -/
def producers (nodes : List TaskNodeRecord) : List (String × TaskNodeRecord) :=
  (nodes.flatMap fun node => node.val.produces.map fun interface => (interface, node)).foldl
    (Tables.put Prod.fst) []

/-- `consumers`. -/
def consumers (nodes : List TaskNodeRecord) (interface : String) : List String :=
  (nodes.filter fun node => interface ∈ node.val.consumes).map TaskNodeRecord.taskId

/-- `version`. -/
def contractVersion (interface : String) (node : TaskNodeRecord) : String :=
  Sha256.digest (interface ++ "\n" ++ node.taskId ++ "\n" ++
    "\n".intercalate node.val.task.val.verificationCommands).toList

/-- The row of an interface. -/
def declaration (runId : UUID) (nodes : List TaskNodeRecord) (entry : String × TaskNodeRecord) :
    InterfaceContractRow where
  runId
  interfaceId := entry.1
  producerTaskId := entry.2.taskId
  consumerTaskIds := consumers nodes entry.1
  verificationCommands := entry.2.val.task.val.verificationCommands
  versionSha256 := contractVersion entry.1 entry.2

/-- The rows that `declare_for_dag` inserts. -/
def declarations (runId : UUID) (nodes : List TaskNodeRecord) : List InterfaceContractRow :=
  ((producers nodes).filter fun entry => consumers nodes entry.1 ≠ []).map (declaration runId nodes)

/-- `declare_for_dag`: `ON CONFLICT (run_id, interface_id) DO NOTHING`. -/
def declareForDag (rows : List InterfaceContractRow) (runId : UUID) (dag : TaskDAGRecord) :
    List InterfaceContractRow :=
  (declarations runId dag.tasks).foldl (Tables.insertNew InterfaceContractRow.key) rows

/-! ### The gate -/

/-- `ORDER BY interface_id`, in the collation of the database. -/
structure InterfaceOrder where
  sort : List InterfaceContractRow → List InterfaceContractRow
  sort_perm : ∀ rows, (sort rows).Perm rows

/-- `gate_for_task`. -/
def gateForTask (order : InterfaceOrder) (rows : List InterfaceContractRow) (runId : UUID)
    (taskId : String) : InterfaceContractGate :=
  let found := order.sort (rows.filter fun row => row.runId = runId ∧ taskId ∈ row.consumerTaskIds)
  let missing := found.filter fun row => row.state ≠ .satisfied
  if missing = [] then { taskId, allowed := true }
  else {
    taskId
    allowed := false
    missingInterfaces := missing.map InterfaceContractRow.interfaceId
    producerTasks := (missing.map InterfaceContractRow.producerTaskId).dedup.insertionSort (· ≤ ·)
    reason := some "接口契约未满足：上游任务尚未验证并导出所需接口。" }

/-! ### Settling -/

/-- What a worker says of the interfaces of its task. -/
inductive ContractVerdict
  | satisfied (commit : String) (time : Timestamp)
  | unmet
deriving DecidableEq, Repr

/-- The row with a verdict. -/
def InterfaceContractRow.give (row : InterfaceContractRow) :
    ContractVerdict → InterfaceContractRow
  | .satisfied commit time =>
    { row with state := .satisfied, commitSha := some commit, satisfiedAt := some time }
  | .unmet => { row with state := .unmet }

/-- `UPDATE … WHERE run_id = … AND producer_task_id = … AND state = 'DECLARED'`. -/
def settle (rows : List InterfaceContractRow) (runId : UUID) (taskId : String)
    (verdict : ContractVerdict) : List InterfaceContractRow :=
  rows.map fun row =>
    if row.runId = runId ∧ row.producerTaskId = taskId ∧ row.state = .declared then
      row.give verdict
    else row

/-- `mark_producer_satisfied`. -/
def markProducerSatisfied (rows : List InterfaceContractRow) (now : Timestamp) (runId : UUID)
    (taskId : String) (commitSha : Option String) : List InterfaceContractRow :=
  match commitSha with
  | none => rows
  | some commit => settle rows runId taskId (.satisfied commit now)

/-- `mark_producer_unmet`. -/
def markProducerUnmet (rows : List InterfaceContractRow) (runId : UUID) (taskId : String) :
    List InterfaceContractRow :=
  settle rows runId taskId .unmet

/-! ### The rows of a run -/

/-- The rows of a run. -/
def rowsOf (rows : List InterfaceContractRow) (runId : UUID) : List InterfaceContractRow :=
  rows.filter fun row => row.runId = runId

/-- The task that provides an interface. -/
def Provides (nodes : List TaskNodeRecord) (node : TaskNodeRecord) (interface : String) : Prop :=
  (nodes.filter fun node => interface ∈ node.val.produces).getLast? = some node

/-- A task that needs an interface. -/
def Needs (nodes : List TaskNodeRecord) (taskId interface : String) : Prop :=
  ∃ node ∈ nodes, interface ∈ node.val.consumes ∧ node.taskId = taskId

variable {nodes : List TaskNodeRecord} {interface taskId : String} {runId other : UUID}
variable {rows declared : List InterfaceContractRow} {row : InterfaceContractRow}

theorem mem_consumers : taskId ∈ consumers nodes interface ↔ Needs nodes taskId interface := by
  simp only [consumers, List.mem_map, List.mem_filter, decide_eq_true_eq, Needs, and_assoc]

theorem filter_exports (nodes : List TaskNodeRecord) (interface : String) :
    (nodes.flatMap fun node => node.val.produces.map fun interface => (interface, node)).filter
        (fun entry => entry.1 = interface) =
      (nodes.filter fun node => interface ∈ node.val.produces).map fun node => (interface, node) := by
  induction nodes with
  | nil => rfl
  | cons node nodes ih =>
    have hone : (node.val.produces.map fun interface => (interface, node)).filter
        (fun entry => entry.1 = interface) =
          if interface ∈ node.val.produces then [(interface, node)] else [] := by
      have hnodup := node.facts.2.2.1
      generalize node.val.produces = produces at hnodup ⊢
      induction produces with
      | nil => rfl
      | cons first rest ih =>
        rw [List.nodup_cons] at hnodup
        rw [List.map_cons, List.filter_cons, ih hnodup.2]
        by_cases hfirst : first = interface
        · subst hfirst
          rw [if_neg hnodup.1]
          simp
        · simp [hfirst, Ne.symm hfirst]
    rw [List.flatMap_cons, List.filter_append, hone, ih, List.filter_cons]
    split_ifs <;> simp_all

/-- **`producers` holds the task that provides each interface.** -/
theorem mem_producers {node : TaskNodeRecord} :
    (interface, node) ∈ producers nodes ↔ Provides nodes node interface := by
  rw [producers, Tables.mem_foldl_put, filter_exports, List.getLast?_map, Provides,
    Option.map_eq_some_iff]
  constructor
  · rintro ⟨last, hlast, heq⟩
    obtain rfl : last = node := (Prod.ext_iff.1 heq).2
    exact hlast
  · intro hlast
    exact ⟨node, hlast, rfl⟩

theorem mem_declarations : row ∈ declarations runId nodes ↔ ∃ interface node,
    Provides nodes node interface ∧ consumers nodes interface ≠ [] ∧
      row = declaration runId nodes (interface, node) := by
  rw [declarations, List.mem_map]
  constructor
  · rintro ⟨⟨interface, node⟩, hentry, rfl⟩
    rw [List.mem_filter, mem_producers, decide_eq_true_eq] at hentry
    exact ⟨interface, node, hentry.1, hentry.2, rfl⟩
  · rintro ⟨interface, node, hprovides, hconsumers, rfl⟩
    exact ⟨(interface, node),
      List.mem_filter.2 ⟨mem_producers.2 hprovides, decide_eq_true hconsumers⟩, rfl⟩

theorem keyed_declarations : Tables.Keyed InterfaceContractRow.key (declarations runId nodes) := by
  have hnone : Tables.Keyed Prod.fst ([] : List (String × TaskNodeRecord)) := List.nodup_nil
  have hproducers : Tables.Keyed Prod.fst (producers nodes) := hnone.foldl_put _
  have hkeys : (declarations runId nodes).map InterfaceContractRow.key =
      (((producers nodes).filter fun entry => consumers nodes entry.1 ≠ []).map Prod.fst).map
        fun interface => (runId, interface) := by
    rw [declarations, List.map_map, List.map_map]
    rfl
  rw [Tables.Keyed, hkeys]
  refine List.Nodup.map (fun _ _ heq => (Prod.ext_iff.1 heq).2) ?_
  exact List.Nodup.sublist (List.filter_sublist.map _) hproducers

theorem runId_of_mem_declarations (h : row ∈ declarations runId nodes) : row.runId = runId := by
  obtain ⟨_, _, _, _, rfl⟩ := mem_declarations.1 h
  rfl

theorem state_of_mem_declarations (h : row ∈ declarations runId nodes) :
    row.state = .declared := by
  obtain ⟨_, _, _, _, rfl⟩ := mem_declarations.1 h
  rfl

theorem rowsOf_declarations (runId : UUID) (nodes : List TaskNodeRecord) :
    rowsOf (declarations runId nodes) runId = declarations runId nodes := by
  rw [rowsOf, List.filter_eq_self]
  exact fun row hrow => decide_eq_true (runId_of_mem_declarations hrow)

/-- New rows with keys of their own all go in. -/
theorem foldl_insertNew_of_new {new : List InterfaceContractRow}
    (hkeyed : Tables.Keyed InterfaceContractRow.key (rows ++ new)) :
    new.foldl (Tables.insertNew InterfaceContractRow.key) rows = rows ++ new := by
  induction new generalizing rows with
  | nil => rw [List.foldl_nil, List.append_nil]
  | cons row new ih =>
    have hrow : ¬∃ r ∈ rows, r.key = row.key := by
      rintro ⟨r, hr, heq⟩
      rw [Tables.Keyed, List.map_append, List.nodup_append] at hkeyed
      exact hkeyed.2.2 _ (List.mem_map_of_mem hr) _ (List.mem_map_of_mem List.mem_cons_self) heq
    rw [List.foldl_cons, Tables.insertNew, if_neg hrow, ih (by
      rwa [List.append_assoc, List.singleton_append]), List.append_assoc, List.singleton_append]

/-- **A run that has no rows gets those of its graph.** -/
theorem rowsOf_declareForDag {dag : TaskDAGRecord} (hkeyed : Tables.Keyed InterfaceContractRow.key rows)
    (hnone : rowsOf rows runId = []) :
    rowsOf (declareForDag rows runId dag) runId = declarations runId dag.tasks := by
  have hall : Tables.Keyed InterfaceContractRow.key (rows ++ declarations runId dag.tasks) := by
    rw [Tables.Keyed, List.map_append, List.nodup_append]
    refine ⟨hkeyed, keyed_declarations, ?_⟩
    intro key hkey key' hkey' heq
    obtain ⟨row, hrow, rfl⟩ := List.mem_map.1 hkey
    obtain ⟨row', hrow', rfl⟩ := List.mem_map.1 hkey'
    have hrun : row.runId = runId :=
      (Prod.ext_iff.1 heq).1.trans (runId_of_mem_declarations hrow')
    rw [rowsOf, List.filter_eq_nil_iff] at hnone
    exact hnone row hrow (decide_eq_true hrun)
  rw [declareForDag, foldl_insertNew_of_new hall, rowsOf, List.filter_append, ← rowsOf, ← rowsOf,
    hnone, rowsOf_declarations, List.nil_append]

/-- Rows that are there are not declared again. -/
theorem foldl_insertNew_of_mem {new : List InterfaceContractRow}
    (h : ∀ row ∈ new, ∃ r ∈ rows, r.key = row.key) :
    new.foldl (Tables.insertNew InterfaceContractRow.key) rows = rows := by
  induction new with
  | nil => rfl
  | cons row new ih =>
    rw [List.forall_mem_cons] at h
    rw [List.foldl_cons, Tables.insertNew, if_pos h.1, ih h.2]

/-! ### Verdicts -/

@[simp] theorem runId_give (row : InterfaceContractRow) (verdict : ContractVerdict) :
    (row.give verdict).runId = row.runId := by
  cases verdict <;> rfl

@[simp] theorem interfaceId_give (row : InterfaceContractRow) (verdict : ContractVerdict) :
    (row.give verdict).interfaceId = row.interfaceId := by
  cases verdict <;> rfl

@[simp] theorem producerTaskId_give (row : InterfaceContractRow) (verdict : ContractVerdict) :
    (row.give verdict).producerTaskId = row.producerTaskId := by
  cases verdict <;> rfl

@[simp] theorem consumerTaskIds_give (row : InterfaceContractRow) (verdict : ContractVerdict) :
    (row.give verdict).consumerTaskIds = row.consumerTaskIds := by
  cases verdict <;> rfl

theorem state_give_ne (row : InterfaceContractRow) (verdict : ContractVerdict) :
    (row.give verdict).state ≠ .declared := by
  cases verdict <;> exact InterfaceContractState.noConfusion

theorem rowsOf_settle (rows : List InterfaceContractRow) (runId other : UUID) (taskId : String)
    (verdict : ContractVerdict) :
    rowsOf (settle rows other taskId verdict) runId =
      settle (rowsOf rows runId) other taskId verdict := by
  rw [rowsOf, settle, List.filter_map, rowsOf, settle]
  congr 1
  refine List.filter_congr fun row _ => ?_
  rw [Function.comp_apply]
  split_ifs
  · rw [runId_give]
  · rfl

/-- The rows, each with the first verdict on its producer. -/
def ruled (declared : List InterfaceContractRow) (verdicts : List (String × ContractVerdict)) :
    List InterfaceContractRow :=
  declared.map fun row => (verdicts.lookup row.producerTaskId).elim row row.give

/-- **The first verdict counts.** -/
theorem settle_ruled {verdicts : List (String × ContractVerdict)} {verdict : ContractVerdict}
    (hdeclared : ∀ row ∈ declared, row.runId = runId ∧ row.state = .declared) :
    settle (ruled declared verdicts) runId taskId verdict =
      ruled declared (verdicts ++ [(taskId, verdict)]) := by
  rw [settle, ruled, ruled, List.map_map]
  refine List.map_congr_left fun row hrow => ?_
  obtain ⟨hrun, hstate⟩ := hdeclared row hrow
  rw [Function.comp_apply, List.lookup_append]
  cases hlookup : verdicts.lookup row.producerTaskId with
  | some first =>
    rw [Option.some_or, Option.elim_some, if_neg fun h => state_give_ne row first h.2.2]
  | none =>
    rw [Option.none_or, Option.elim_none, List.lookup_cons, List.lookup_nil]
    by_cases htask : row.producerTaskId = taskId
    · rw [if_pos ⟨hrun, htask, hstate⟩, beq_iff_eq.2 htask]
      rfl
    · rw [if_neg fun h => htask h.2.1, beq_eq_false_iff_ne.2 htask]
      rfl

/-! ### What the gate says -/

/-- The first verdict on a task is that it exports its interfaces. -/
def Exported (verdicts : List (String × ContractVerdict)) (taskId : String) : Prop :=
  ∃ commit time, verdicts.lookup taskId = some (.satisfied commit time)

/-- A task waits for an interface of another one. -/
structure WaitsFor (nodes : List TaskNodeRecord) (verdicts : List (String × ContractVerdict))
    (taskId interface : String) (node : TaskNodeRecord) : Prop where
  provides : Provides nodes node interface
  needs : Needs nodes taskId interface
  unexported : ¬Exported verdicts node.taskId

/-- The rows that keep a task back. -/
def keptBack (rows : List InterfaceContractRow) (runId : UUID) (taskId : String) :
    List InterfaceContractRow :=
  (rows.filter fun row => row.runId = runId ∧ taskId ∈ row.consumerTaskIds).filter
    fun row => row.state ≠ .satisfied

variable {verdicts : List (String × ContractVerdict)} {order : InterfaceOrder}

theorem state_ruled_iff (hdeclared : row.state = .declared) :
    ((verdicts.lookup row.producerTaskId).elim row row.give).state = .satisfied ↔
      Exported verdicts row.producerTaskId := by
  unfold Exported
  cases hlookup : verdicts.lookup row.producerTaskId with
  | none => simp [hdeclared]
  | some verdict => cases verdict <;> simp [InterfaceContractRow.give]

theorem fields_ruled (row : InterfaceContractRow) (verdict : Option ContractVerdict) :
    (verdict.elim row row.give).runId = row.runId ∧
      (verdict.elim row row.give).interfaceId = row.interfaceId ∧
      (verdict.elim row row.give).producerTaskId = row.producerTaskId ∧
      (verdict.elim row row.give).consumerTaskIds = row.consumerTaskIds := by
  cases verdict with
  | none => exact ⟨rfl, rfl, rfl, rfl⟩
  | some verdict => exact ⟨runId_give _ _, interfaceId_give _ _, producerTaskId_give _ _,
      consumerTaskIds_give _ _⟩

section gate

variable (hrows : rowsOf rows runId = ruled (declarations runId nodes) verdicts)
include hrows

/-- **The rows that keep a task back** are what it waits for. -/
theorem mem_keptBack {producer : String} :
    (∃ row ∈ keptBack rows runId taskId, row.interfaceId = interface ∧
        row.producerTaskId = producer) ↔
      ∃ node, WaitsFor nodes verdicts taskId interface node ∧ node.taskId = producer := by
  have hmem : ∀ row, row ∈ keptBack rows runId taskId ↔
      row ∈ ruled (declarations runId nodes) verdicts ∧ taskId ∈ row.consumerTaskIds ∧
        row.state ≠ .satisfied := by
    intro row
    rw [← hrows, keptBack, rowsOf]
    simp only [List.mem_filter, Bool.decide_and, Bool.and_eq_true, decide_eq_true_eq]
    tauto
  constructor
  · rintro ⟨row, hrow, rfl, rfl⟩
    obtain ⟨hruled, hconsumer, hstate⟩ := (hmem row).1 hrow
    obtain ⟨declared, hdeclared, rfl⟩ := List.mem_map.1 hruled
    obtain ⟨-, hinterface, hproducer, hconsumers⟩ :=
      fields_ruled declared (verdicts.lookup declared.producerTaskId)
    rw [Ne, state_ruled_iff (state_of_mem_declarations hdeclared)] at hstate
    rw [hconsumers] at hconsumer
    obtain ⟨interface, node, hprovides, -, rfl⟩ := mem_declarations.1 hdeclared
    rw [hinterface, hproducer]
    exact ⟨node, ⟨hprovides, mem_consumers.1 hconsumer, hstate⟩, rfl⟩
  · rintro ⟨node, ⟨hprovides, hneeds, hopen⟩, rfl⟩
    have hconsumer := mem_consumers.2 hneeds
    have hdeclared : declaration runId nodes (interface, node) ∈ declarations runId nodes :=
      mem_declarations.2 ⟨interface, node, hprovides, List.ne_nil_of_mem hconsumer, rfl⟩
    obtain ⟨-, hinterface, hproducer, hconsumers⟩ :=
      fields_ruled (declaration runId nodes (interface, node)) (verdicts.lookup node.taskId)
    refine ⟨_, (hmem _).2 ⟨List.mem_map_of_mem hdeclared, ?_, ?_⟩, hinterface, hproducer⟩
    · exact hconsumers ▸ hconsumer
    · exact fun hstate => hopen ((state_ruled_iff (state_of_mem_declarations hdeclared)).1 hstate)

end gate

/-- The rows that the gate reads, in its order. -/
theorem perm_keptBack (order : InterfaceOrder) (rows : List InterfaceContractRow) (runId : UUID)
    (taskId : String) :
    ((order.sort (rows.filter fun row => row.runId = runId ∧ taskId ∈ row.consumerTaskIds)).filter
      fun row => row.state ≠ .satisfied).Perm (keptBack rows runId taskId) :=
  (order.sort_perm _).filter _

/-- **A gate says what a task waits for.** -/
structure InterfaceContractGate.Exact (gate : InterfaceContractGate) (nodes : List TaskNodeRecord)
    (verdicts : List (String × ContractVerdict)) (taskId : String) : Prop where
  allowed : gate.allowed = true ↔ ∀ interface node, ¬WaitsFor nodes verdicts taskId interface node
  missing : ∀ interface, interface ∈ gate.missingInterfaces ↔
    ∃ node, WaitsFor nodes verdicts taskId interface node
  producers : ∀ producer, producer ∈ gate.producerTasks ↔
    ∃ interface node, WaitsFor nodes verdicts taskId interface node ∧ node.taskId = producer
  reason : gate.reason = none ↔ gate.allowed = true

theorem gateForTask_exact (order : InterfaceOrder)
    (hrows : rowsOf rows runId = ruled (declarations runId nodes) verdicts) :
    (gateForTask order rows runId taskId).Exact nodes verdicts taskId := by
  have hkept : ∀ interface node, WaitsFor nodes verdicts taskId interface node →
      ∃ row ∈ keptBack rows runId taskId, row.interfaceId = interface ∧
        row.producerTaskId = node.taskId :=
    fun interface node hwaits => (mem_keptBack hrows).2 ⟨node, hwaits, rfl⟩
  have hwaits : ∀ row ∈ keptBack rows runId taskId, ∃ node,
      WaitsFor nodes verdicts taskId row.interfaceId node ∧ node.taskId = row.producerTaskId :=
    fun row hrow => (mem_keptBack hrows).1 ⟨row, hrow, rfl, rfl⟩
  have hperm := perm_keptBack order rows runId taskId
  unfold gateForTask
  dsimp only
  generalize ((order.sort (rows.filter fun row => row.runId = runId ∧
    taskId ∈ row.consumerTaskIds)).filter fun row => row.state ≠ .satisfied) = missing at hperm ⊢
  split_ifs with hnone
  · have hempty : ∀ interface node, ¬WaitsFor nodes verdicts taskId interface node := by
      intro interface node hwaiting
      obtain ⟨row, hrow, -⟩ := hkept interface node hwaiting
      rw [hnone] at hperm
      rw [← hperm.nil_eq] at hrow
      cases hrow
    refine ⟨⟨fun _ => hempty, fun _ => rfl⟩, fun interface => ⟨(fun h => by cases h), ?_⟩,
      fun producer => ⟨(fun h => by cases h), ?_⟩, ⟨fun _ => rfl, fun _ => rfl⟩⟩
    · rintro ⟨node, hwaiting⟩
      exact absurd hwaiting (hempty _ _)
    · rintro ⟨interface, node, hwaiting, -⟩
      exact absurd hwaiting (hempty _ _)
  · refine ⟨⟨(fun h => by cases h), fun h => ?_⟩, fun interface => ?_, fun producer => ?_,
      ⟨(fun h => by cases h), (fun h => by cases h)⟩⟩
    · obtain ⟨row, hrow⟩ := List.exists_mem_of_ne_nil missing hnone
      obtain ⟨node, hwaiting, -⟩ := hwaits row (hperm.mem_iff.1 hrow)
      exact absurd hwaiting (h _ _)
    · rw [List.mem_map]
      constructor
      · rintro ⟨row, hrow, rfl⟩
        obtain ⟨node, hwaiting, -⟩ := hwaits row (hperm.mem_iff.1 hrow)
        exact ⟨node, hwaiting⟩
      · rintro ⟨node, hwaiting⟩
        obtain ⟨row, hrow, rfl, -⟩ := hkept interface node hwaiting
        exact ⟨row, hperm.mem_iff.2 hrow, rfl⟩
    · rw [List.mem_insertionSort, List.mem_dedup, List.mem_map]
      constructor
      · rintro ⟨row, hrow, rfl⟩
        obtain ⟨node, hwaiting, htask⟩ := hwaits row (hperm.mem_iff.1 hrow)
        exact ⟨row.interfaceId, node, hwaiting, htask⟩
      · rintro ⟨interface, node, hwaiting, rfl⟩
        obtain ⟨row, hrow, -, htask⟩ := hkept interface node hwaiting
        exact ⟨row, hperm.mem_iff.2 hrow, htask⟩

end DevFlow
