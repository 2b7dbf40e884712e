/-
# The store of task graphs

`PostgresDAGStore` of `persistence/dag.py`: `start_run` splits a graph into task
rows (the contract, the dependencies and the other facts of the node) and keeps
the digest of its canonical payload with the run; `load_dag` builds the graph
from the rows again and checks the digest.

| source | here |
| --- | --- |
| `canonical_payload`, `payload_sha256` | `TaskDAGRecord.dump`, `payloadSha256` |
| `TaskRow.contract`, `depends_on`, `node_metadata` | `DagTaskRow` |
| `RunRow.dag_sha256` | `DagRun.dagSha256` |
| `_decode_persisted_dag` | `decodePersistedDag` |

A JSONB column holds no string with the character NUL, and gives back the value
that was written.  `ORDER BY task_id` depends on the collation of the database:
the rows are read in some order.
-/

import DevFlow.Library.Sha256
import DevFlow.Models.DagRecords
import DevFlow.Persistence.RunLog
import Mathlib.Data.List.Perm.Basic

namespace DevFlow

open Documents (Json Codec)

/-! ### Payloads -/

/-- `payload_sha256`. -/
def payloadSha256 (payload : Json) : String :=
  Sha256.digest payload.dumps

/-- `verify_payload_hash`. -/
def verifyPayloadHash (payload : Json) (expected label : String) : Except Failure Unit :=
  let actual := payloadSha256 payload
  Raising.raiseIf (actual ≠ expected)
    ⟨.persistenceCorruption,
      label ++ " payload hash mismatch: expected " ++ expected ++ ", got " ++ actual⟩

/-- The facts of a node that may be missing, as a dump writes them. -/
def complexityCodec : Codec (Option PlanningComplexity) :=
  .optional PlanningComplexity.codec fun _ h => Json.noConfusion h

def budgetAllocationCodec : Codec (Option TaskBudgetAllocation) :=
  .optional TaskBudgetAllocation.codec fun _ h => Json.noConfusion h

def complexityAssessmentCodec : Codec (Option PlanningComplexityAssessment) :=
  .optional PlanningComplexityAssessment.codec fun _ h => Json.noConfusion h

def resumeContextCodec : Codec (Option TaskResumeRecord) :=
  .optional TaskResumeRecord.codec fun _ h => Json.noConfusion h

/-- `model_dump` of a node. -/
def TaskNodeRecord.dump (node : TaskNodeRecord) : Json :=
  .obj
    [("budget_allocation", budgetAllocationCodec.encode node.val.budgetAllocation),
      ("complexity", complexityCodec.encode node.val.complexity),
      ("complexity_assessment", complexityAssessmentCodec.encode node.val.complexityAssessment),
      ("consumes", (Codec.list .text).encode node.val.consumes),
      ("depends_on", (Codec.list .text).encode node.val.dependsOn),
      ("execution_mode", WorkflowExecutionMode.codec.encode node.val.executionMode),
      ("produces", (Codec.list .text).encode node.val.produces),
      ("resume_context", resumeContextCodec.encode node.val.resumeContext),
      ("task", TaskContractRecord.codec.encode node.val.task)]

/-- `model_dump` of a graph. -/
def TaskDAGRecord.dump (dag : TaskDAGRecord) : Json :=
  .obj [("tasks", .arr (dag.tasks.map TaskNodeRecord.dump))]

/-- The digest of `canonical_payload` of a normalized graph. -/
def TaskDAGRecord.digest (dag : TaskDAGRecord) : String :=
  payloadSha256 dag.dump

/-! ### Rows -/

/-- The columns of a `TaskRow` that the graph is read from. -/
structure DagTaskRow where
  taskId : String
  contract : Json
  contractSha256 : String
  dependsOn : Option (List String)
  nodeMetadata : Option Json

/-- `value not in (None, [], "AGENT")` fails. -/
def isDefault : Json → Bool
  | .null => true
  | .arr [] => true
  | .str s => s = "AGENT"
  | _ => false

/-- The members of `_node_metadata`. -/
def metadataMembers (node : TaskNodeRecord) : List (String × Json) :=
  [("budget_allocation", budgetAllocationCodec.encode node.val.budgetAllocation),
    ("complexity", complexityCodec.encode node.val.complexity),
    ("complexity_assessment", complexityAssessmentCodec.encode node.val.complexityAssessment),
    ("consumes", (Codec.list .text).encode node.val.consumes),
    ("execution_mode", WorkflowExecutionMode.codec.encode node.val.executionMode),
    ("produces", (Codec.list .text).encode node.val.produces),
    ("resume_context", resumeContextCodec.encode node.val.resumeContext)]

/-- `_node_metadata`. -/
def nodeMetadata (node : TaskNodeRecord) : Option Json :=
  if (metadataMembers node).all fun member => isDefault member.2 then none
  else some (.obj (metadataMembers node))

/-- The row of a node. -/
def DagTaskRow.ofNode (node : TaskNodeRecord) : DagTaskRow where
  taskId := node.taskId
  contract := TaskContractRecord.codec.encode node.val.task
  contractSha256 := payloadSha256 (TaskContractRecord.codec.encode node.val.task)
  dependsOn := some node.val.dependsOn
  nodeMetadata := DevFlow.nodeMetadata node

/-- The keyword arguments that `_decode_node_metadata` makes of a row. -/
structure NodeMetadata where
  executionMode : Json := .str "AGENT"
  produces : List Json := []
  consumes : List Json := []
  complexity : Json := .null
  budgetAllocation : Json := .null
  complexityAssessment : Json := .null
  resumeContext : Json := .null

/-- `tuple(value)`: the items of a list, the characters of a text, the keys of an
object. -/
def tupleOf : Json → Except Failure (List Json)
  | .arr items => .ok items
  | .str s => .ok (s.toList.map fun c => .str (String.singleton c))
  | .obj members => .ok (members.map fun member => .str member.1)
  | _ => .error ⟨.typeError, "object is not iterable"⟩

/-- `_decode_node_metadata`. -/
def decodeNodeMetadata (row : DagTaskRow) : Except Failure NodeMetadata :=
  match row.nodeMetadata with
  | none => .ok {}
  | some payload =>
    Except.mapError (fun failure => ⟨.persistenceCorruption, "persisted task '" ++ row.taskId ++
      "' has invalid DAG node metadata: " ++ failure.message⟩) do
        let produces ← tupleOf ((payload.get? "produces").getD (.arr []))
        let consumes ← tupleOf ((payload.get? "consumes").getD (.arr []))
        return {
          executionMode := (payload.get? "execution_mode").getD (.str "AGENT")
          produces, consumes
          complexity := (payload.get? "complexity").getD .null
          budgetAllocation := (payload.get? "budget_allocation").getD .null
          complexityAssessment := (payload.get? "complexity_assessment").getD .null
          resumeContext := (payload.get? "resume_context").getD .null }

/-- The validation of one field. -/
def validateField {α : Type} (codec : Codec α) (value : Json) : Except Failure α :=
  (codec.decode value).mapError fun message => ⟨.valueError, message⟩

/-- `TaskNode(task=…, depends_on=…, **metadata)`. -/
def TaskNodeRecord.ofArguments (task : TaskContractRecord) (dependsOn : List String)
    (metadata : NodeMetadata) : Except Failure TaskNodeRecord := do
  let executionMode ← validateField WorkflowExecutionMode.codec metadata.executionMode
  let produces ← validateField (.list .text) (.arr metadata.produces)
  let consumes ← validateField (.list .text) (.arr metadata.consumes)
  let complexity ← validateField complexityCodec metadata.complexity
  let budgetAllocation ← validateField budgetAllocationCodec metadata.budgetAllocation
  let complexityAssessment ← validateField complexityAssessmentCodec metadata.complexityAssessment
  let resumeContext ← validateField resumeContextCodec metadata.resumeContext
  ({ task, dependsOn, executionMode, produces, consumes, complexity, budgetAllocation,
     complexityAssessment, resumeContext } : TaskNodeFields).make

/-- `_decode_task_contract`. -/
def decodeTaskContract (row : DagTaskRow) : Except Failure TaskContractRecord := do
  verifyPayloadHash row.contract row.contractSha256 ("task " ++ row.taskId)
  let task ← (TaskContractRecord.codec.decode row.contract).mapError fun message =>
    ⟨.persistenceCorruption, "persisted task '" ++ row.taskId ++
      "' failed TaskContract validation: " ++ message⟩
  Raising.raiseIf (task.val.taskId ≠ row.taskId)
    ⟨.persistenceCorruption, "persisted task id disagrees with contract payload"⟩
  return task

/-- The node of a row. -/
def decodeNode (row : DagTaskRow) : Except Failure TaskNodeRecord := do
  let task ← decodeTaskContract row
  let metadata ← decodeNodeMetadata row
  TaskNodeRecord.ofArguments task (row.dependsOn.getD []) metadata

/-- The fields that the graphs of the legacy form do not have, as the decoder lists
them. -/
def addedFields : List String :=
  ["execution_mode", "produces", "consumes", "complexity", "budget_allocation",
    "complexity_assessment"]

/-- The payload that the decoder compares with the digest of a legacy graph. -/
def legacyPayload (dag : TaskDAGRecord) : Json :=
  .obj [("tasks", .arr (dag.tasks.map fun node => node.dump.without addedFields))]

/-- `_decode_persisted_dag`. -/
def decodePersistedDag (runId : UUID) (rows : List DagTaskRow) (digest : String) :
    Except Failure TaskDAGRecord := do
  Raising.raiseIf (∃ row ∈ rows, row.dependsOn = none)
    ⟨.persistenceCorruption,
      "Run DAG integrity hash exists but one or more dependency rows are missing"⟩
  let dag ← (rows.mapM decodeNode >>= TaskDAGRecord.ofNodes).mapError fun failure =>
    if failure.kind = .valueError then
      ⟨.persistenceCorruption, "persisted Run DAG failed TaskDAG validation for " ++ runId.str ++
        ": " ++ failure.message⟩
    else failure
  let normalized ← dag.normalizeTaskDag
  match verifyPayloadHash normalized.dump digest ("Run " ++ runId.str ++ " DAG") with
  | .ok _ => return normalized
  | .error failure =>
    Raising.raiseIf (∃ row ∈ rows, row.nodeMetadata.isSome = true) failure
    verifyPayloadHash (legacyPayload normalized) digest ("legacy Run " ++ runId.str ++ " DAG")
    return normalized

/-! ### The store -/

/-- A run with the columns that hold its graph. -/
structure DagRun where
  db : Database RunContent
  dagSha256 : Option String
  rows : List DagTaskRow

/-- The projects and the runs of the store. -/
structure DagStore where
  projects : List UUID
  runs : List DagRun

/-- What a JSONB column takes. -/
def Storable (document : Json) : Prop :=
  ∀ s ∈ document.strings, '\x00' ∉ s.toList

instance (document : Json) : Decidable (Storable document) :=
  inferInstanceAs (Decidable (∀ s ∈ document.strings, '\x00' ∉ s.toList))

/-- The columns of a row hold what they are to hold. -/
def DagTaskRow.Storable (row : DagTaskRow) : Prop :=
  DevFlow.Storable row.contract ∧ ∀ metadata ∈ row.nodeMetadata, DevFlow.Storable metadata

instance (row : DagTaskRow) : Decidable row.Storable :=
  inferInstanceAs (Decidable (_ ∧ ∀ metadata ∈ row.nodeMetadata, DevFlow.Storable metadata))

/-- `start_run`. -/
def DagStore.startRun (store : DagStore) (projectId runId : UUID) (dag : TaskDAGRecord)
    (baseCommit : String) : Except Failure DagStore := do
  let commit := (strip baseCommit).toLower
  Raising.raiseIf (isOid commit = false)
    ⟨.valueError, "base_commit must be a 40-64 character lowercase Git object id"⟩
  let normalized ← dag.normalizeTaskDag
  let digest := normalized.digest
  let order ← normalized.topologicalOrder
  let nodes ← order.mapM normalized.node
  let rows := nodes.map DagTaskRow.ofNode
  let db ← insertRun store.projects (store.runs.map fun run => run.db.runId) projectId runId order
    commit (some digest) "run identity already exists or violates DAG persistence constraints: "
  Raising.raiseIf (∃ row ∈ rows, ¬row.Storable)
    ⟨.operationalError, "unsupported Unicode escape sequence"⟩
  return { store with runs := store.runs ++ [{ db, dagSha256 := some digest, rows }] }

/-- `PersistedDAGSource`. -/
inductive PersistedDAGSource
  | persisted
  | implicitSingleTask
deriving DecidableEq

/-- `PersistedDAGSnapshot`. -/
structure PersistedDAGSnapshot where
  runId : UUID
  dag : TaskDAGRecord
  dagSha256 : String
  source : PersistedDAGSource

/-- `load_dag`; `listed` is the order in which the rows are read. -/
def DagStore.loadDag (store : DagStore) (listed : List DagTaskRow → List DagTaskRow) (runId : UUID) :
    Except Failure PersistedDAGSnapshot :=
  match store.runs.find? fun run => run.db.runId = runId with
  | none => .error ⟨.valueError, "unknown persistence run: " ++ runId.str⟩
  | some run =>
    match run.dagSha256, listed run.rows with
    | _, [] => .error ⟨.persistenceCorruption, "persisted Run contains no tasks"⟩
    | some digest, rows => do
      let dag ← decodePersistedDag runId rows digest
      return { runId, dag, dagSha256 := digest, source := .persisted }
    | none, [row] => do
      Raising.raiseIf (row.dependsOn.isSome = true)
        ⟨.persistenceCorruption,
          "task dependency rows exist without the Run DAG integrity hash"⟩
      let task ← decodeTaskContract row
      let node ← ({ task } : TaskNodeFields).make
      let dag ← TaskDAGRecord.ofNodes [node]
      let normalized ← dag.normalizeTaskDag
      return { runId, dag := normalized, dagSha256 := normalized.digest
               source := .implicitSingleTask }
    | none, _ => .error ⟨.runtimeError,
        "authoritative DAG topology is unavailable for this historical multi-task Run"⟩

/-! ### A row is read back as its node -/

theorem verifyPayloadHash_self (payload : Json) (label : String) :
    verifyPayloadHash payload (payloadSha256 payload) label = .ok () :=
  Raising.raiseIf_of_not (fun h => h rfl) _

theorem validateField_encode {α : Type} (codec : Codec α) (a : α) :
    validateField codec (codec.encode a) = .ok a := by
  rw [validateField, codec.decode_encode]
  rfl

theorem decodeTaskContract_ofNode (node : TaskNodeRecord) :
    decodeTaskContract (.ofNode node) = .ok node.val.task := by
  have hread : (TaskContractRecord.codec.decode (DagTaskRow.ofNode node).contract) =
      .ok node.val.task := TaskContractRecord.codec.decode_encode _
  have hverified : verifyPayloadHash (DagTaskRow.ofNode node).contract
      (DagTaskRow.ofNode node).contractSha256 ("task " ++ (DagTaskRow.ofNode node).taskId) =
      .ok () := verifyPayloadHash_self _ _
  rw [decodeTaskContract, hverified, hread]
  simp only [Raising.ok_bind, Except.mapError]
  rw [Raising.raiseIf_of_not (fun h => h rfl)]
  rfl

/-- The metadata of a node as keyword arguments. -/
def NodeMetadata.ofNode (node : TaskNodeRecord) : NodeMetadata where
  executionMode := WorkflowExecutionMode.codec.encode node.val.executionMode
  produces := node.val.produces.map Codec.text.encode
  consumes := node.val.consumes.map Codec.text.encode
  complexity := complexityCodec.encode node.val.complexity
  budgetAllocation := budgetAllocationCodec.encode node.val.budgetAllocation
  complexityAssessment := complexityAssessmentCodec.encode node.val.complexityAssessment
  resumeContext := resumeContextCodec.encode node.val.resumeContext

/-- A list that is written as a default is empty. -/
theorem eq_nil_of_isDefault {values : List String}
    (h : isDefault ((Codec.list Codec.text).encode values) = true) :
    values.map Codec.text.encode = [] := by
  cases values with
  | nil => rfl
  | cons value values => cases h

/-- A mode that is written as a default is `AGENT`. -/
theorem mode_of_isDefault {mode : WorkflowExecutionMode}
    (h : isDefault (WorkflowExecutionMode.codec.encode mode) = true) :
    WorkflowExecutionMode.codec.encode mode = .str "AGENT" := by
  cases mode with
  | agent => rfl
  | workflow => exact absurd h (by decide)
  | hybrid => exact absurd h (by decide)

/-- A complexity that is written as a default is missing. -/
theorem complexity_of_isDefault {complexity : Option PlanningComplexity}
    (h : isDefault (complexityCodec.encode complexity) = true) :
    complexityCodec.encode complexity = .null := by
  cases complexity with
  | none => rfl
  | some complexity => cases complexity <;> exact absurd h (by decide)

/-- A record that is written as a default is missing. -/
theorem null_of_isDefault {document : Json} (hobject : document = .null ∨ ∃ members,
    document = .obj members) (h : isDefault document = true) : document = .null := by
  rcases hobject with rfl | ⟨members, rfl⟩
  · rfl
  · cases h

theorem budgetAllocation_shape (value : Option TaskBudgetAllocation) :
    budgetAllocationCodec.encode value = .null ∨
      ∃ members, budgetAllocationCodec.encode value = .obj members := by
  cases value with
  | none => exact Or.inl rfl
  | some value => exact Or.inr ⟨_, rfl⟩

theorem complexityAssessment_shape (value : Option PlanningComplexityAssessment) :
    complexityAssessmentCodec.encode value = .null ∨
      ∃ members, complexityAssessmentCodec.encode value = .obj members := by
  cases value with
  | none => exact Or.inl rfl
  | some value => exact Or.inr ⟨_, rfl⟩

theorem resumeContext_shape (value : Option TaskResumeRecord) :
    resumeContextCodec.encode value = .null ∨
      ∃ members, resumeContextCodec.encode value = .obj members := by
  cases value with
  | none => exact Or.inl rfl
  | some value => exact Or.inr ⟨_, rfl⟩

/-- **The metadata of a row are those of its node**, whether they were left out as
defaults or not. -/
theorem decodeNodeMetadata_ofNode (node : TaskNodeRecord) :
    decodeNodeMetadata (.ofNode node) = .ok (.ofNode node) := by
  by_cases hdefault : (metadataMembers node).all (fun member => isDefault member.2) = true
  · have hnone : (DagTaskRow.ofNode node).nodeMetadata = none := if_pos hdefault
    rw [decodeNodeMetadata, hnone]
    simp only [metadataMembers, List.all_cons, List.all_nil, Bool.and_eq_true] at hdefault
    obtain ⟨hbudget, hcomplexity, hassessment, hconsumes, hmode, hproduces, hresume, -⟩ := hdefault
    rw [NodeMetadata.ofNode, mode_of_isDefault hmode, eq_nil_of_isDefault hproduces,
      eq_nil_of_isDefault hconsumes, complexity_of_isDefault hcomplexity,
      null_of_isDefault (budgetAllocation_shape _) hbudget,
      null_of_isDefault (complexityAssessment_shape _) hassessment,
      null_of_isDefault (resumeContext_shape _) hresume]
  · have hsome : (DagTaskRow.ofNode node).nodeMetadata = some (.obj (metadataMembers node)) :=
      if_neg hdefault
    rw [decodeNodeMetadata, hsome]
    rfl

theorem ofArguments_ofNode (node : TaskNodeRecord) :
    TaskNodeRecord.ofArguments node.val.task node.val.dependsOn (.ofNode node) = .ok node := by
  have hlist : ∀ values : List String,
      validateField (.list .text) (.arr (values.map Codec.text.encode)) = .ok values :=
    validateField_encode (Codec.list Codec.text)
  simp only [TaskNodeRecord.ofArguments, NodeMetadata.ofNode, validateField_encode, hlist,
    Raising.ok_bind]
  exact Documents.Validated.make_val node

theorem decodeNode_ofNode (node : TaskNodeRecord) : decodeNode (.ofNode node) = .ok node := by
  rw [decodeNode, decodeTaskContract_ofNode, Raising.ok_bind, decodeNodeMetadata_ofNode,
    Raising.ok_bind]
  exact ofArguments_ofNode node

/-! ### The rows are read back as the graph -/

/-- **Rows of a graph's nodes, in any order, are read back as the graph.** -/
theorem decodeRows {dag : TaskDAGRecord} {rows : List DagTaskRow}
    (h : rows.Perm (dag.tasks.map DagTaskRow.ofNode)) :
    ∃ dag', (rows.mapM decodeNode >>= TaskDAGRecord.ofNodes) = .ok dag' ∧
      dag'.normalized = dag.normalized := by
  have hall : List.Forall₂ (fun row node => decodeNode row = .ok node)
      (dag.tasks.map DagTaskRow.ofNode) dag.tasks := by
    rw [List.forall₂_map_left_iff]
    exact List.forall₂_same.2 fun node _ => decodeNode_ofNode node
  obtain ⟨tasks, hrows, hperm⟩ := List.perm_comp_forall₂ h hall
  obtain ⟨dag', rfl, hsame⟩ := TaskDAGRecord.exists_of_perm hperm.symm
  refine ⟨dag', ?_, hsame.normalized_eq.symm⟩
  rw [Raising.mapM_eq_ok.2 hrows, Raising.ok_bind]
  exact dag'.ofNodes_tasks

/-- What the decoder makes of the rows of a graph: it compares the digest of the
graph, and of the legacy payload when no row has metadata. -/
theorem decodePersistedDag_of_rows {dag : TaskDAGRecord} {rows : List DagTaskRow}
    (h : rows.Perm (dag.tasks.map DagTaskRow.ofNode)) (runId : UUID) (digest : String) :
    decodePersistedDag runId rows digest = .ok dag.normalized ↔
      dag.normalized.digest = digest ∨
        (∀ row ∈ rows, row.nodeMetadata = none) ∧
          payloadSha256 (legacyPayload dag.normalized) = digest := by
  have hdeps : ¬∃ row ∈ rows, row.dependsOn = none := by
    rintro ⟨row, hrow, hnone⟩
    obtain ⟨node, -, rfl⟩ := List.mem_map.1 (h.mem_iff.1 hrow)
    cases hnone
  obtain ⟨dag', hread, hsame⟩ := decodeRows h
  rw [decodePersistedDag, Raising.raiseIf_of_not hdeps, Raising.ok_bind, hread]
  simp only [Except.mapError, Raising.ok_bind, dag'.normalizeTaskDag_eq, hsame]
  rw [TaskDAGRecord.digest]
  by_cases hdigest : payloadSha256 dag.normalized.dump = digest
  · have hverified : verifyPayloadHash dag.normalized.dump digest ("Run " ++ runId.str ++ " DAG") =
        .ok () := Raising.raiseIf_of_not (fun hne => hne hdigest) _
    rw [hverified]
    exact ⟨fun _ => Or.inl hdigest, fun _ => rfl⟩
  · have hfailed : ∃ failure, verifyPayloadHash dag.normalized.dump digest
        ("Run " ++ runId.str ++ " DAG") = .error failure := ⟨_, Raising.raiseIf_of hdigest _⟩
    obtain ⟨failure, hfailed⟩ := hfailed
    rw [hfailed]
    simp only [verifyPayloadHash, Raising.bind_eq_ok, Raising.raiseIf_eq_ok, Raising.pure_eq_ok,
      hdigest, false_or, not_exists, not_and, Option.isSome_iff_ne_none, ne_eq, not_not]
    constructor
    · rintro ⟨-, hnone, -, hlegacy, -⟩
      exact ⟨hnone, hlegacy⟩
    · rintro ⟨hnone, hlegacy⟩
      exact ⟨⟨⟩, hnone, ⟨⟩, hlegacy, trivial⟩

/-! ### A started run is loaded as its graph -/

variable {store store' : DagStore} {projectId runId : UUID} {dag : TaskDAGRecord}
  {baseCommit : String}

/-- `insertRun` needs a known project and a new id, and inserts a run of this id. -/
theorem insertRun_returns {projects runs : List UUID} {taskIds : List String}
    {commit conflict : String} {dagSha256 : Option String} :
    (∀ db : Database RunContent,
      insertRun projects runs projectId runId taskIds commit dagSha256 conflict = .ok db →
        projectId ∈ projects ∧ runId ∉ runs ∧ db.runId = runId) ∧
    (projectId ∈ projects → runId ∉ runs → ∃ db : Database RunContent,
      insertRun projects runs projectId runId taskIds commit dagSha256 conflict = .ok db) := by
  constructor
  · intro db h
    simp only [insertRun, Raising.bind_eq_ok, Raising.raiseIf_eq_ok, Raising.pure_eq_ok,
      not_not] at h
    obtain ⟨_, hproject, _, hrun, _, -, rfl⟩ := h
    exact ⟨hproject, hrun, rfl⟩
  · intro hproject hrun
    rw [insertRun, Raising.raiseIf_of_not (not_not.2 hproject), Raising.ok_bind]
    dsimp only
    rw [Raising.raiseIf_of_not hrun, Raising.ok_bind,
      appendRuntimeEvent_of_new fun row hrow => absurd hrow List.not_mem_nil]
    exact ⟨_, rfl⟩

theorem mapM_node (dag : TaskDAGRecord) : dag.order.mapM dag.node = .ok dag.ordered := by
  have h := dag.mapM_order (f := Except.ok) (g := id) fun node => rfl
  rw [List.map_id] at h
  rw [← h]
  congr 1
  funext taskId
  cases dag.node taskId <;> rfl

/-- The order of the dependencies is not stored with the metadata. -/
theorem storable_sorted {node : TaskNodeRecord} :
    (DagTaskRow.ofNode node.sorted).Storable ↔ (DagTaskRow.ofNode node).Storable :=
  Iff.rfl

/-- The run that `start_run` writes for a normalized graph. -/
def DagRun.started (db : Database RunContent) (dag : TaskDAGRecord) : DagRun where
  db := db
  dagSha256 := some dag.digest
  rows := dag.ordered.map DagTaskRow.ofNode

/-- What `start_run` checks, and what it writes. -/
theorem DagStore.startRun_eq_ok :
    store.startRun projectId runId dag baseCommit = .ok store' ↔
      isOid (strip baseCommit).toLower = true ∧ (∀ node ∈ dag.tasks,
        (DagTaskRow.ofNode node).Storable) ∧ ∃ db : Database RunContent,
          insertRun store.projects (store.runs.map fun run => run.db.runId) projectId runId
            dag.normalized.order (strip baseCommit).toLower (some dag.normalized.digest)
            "run identity already exists or violates DAG persistence constraints: " = .ok db ∧
          store' = { store with runs := store.runs ++ [.started db dag.normalized] } := by
  have hrows : (¬∃ row ∈ dag.normalized.ordered.map DagTaskRow.ofNode, ¬row.Storable) ↔
      ∀ node ∈ dag.tasks, (DagTaskRow.ofNode node).Storable := by
    simp only [not_exists, not_and, not_not, List.forall_mem_map]
    have hsorted : dag.normalized.ordered.Perm (dag.tasks.map TaskNodeRecord.sorted) :=
      dag.normalized.ordered_perm.trans (dag.ordered_perm.map _)
    constructor
    · exact fun h node hnode => storable_sorted.1
        (h _ (hsorted.mem_iff.2 (List.mem_map_of_mem hnode)))
    · intro h node hnode
      obtain ⟨node', hnode', rfl⟩ := List.mem_map.1 (hsorted.mem_iff.1 hnode)
      exact storable_sorted.2 (h node' hnode')
  simp only [startRun, Raising.bind_eq_ok, Raising.raiseIf_eq_ok, Raising.pure_eq_ok,
    dag.normalizeTaskDag_eq, Except.ok.injEq, exists_eq_left', TaskDAGRecord.topologicalOrder_eq,
    mapM_node, hrows, Bool.not_eq_false]
  constructor
  · rintro ⟨_, hoid, db, hdb, _, hall, rfl⟩
    exact ⟨hoid, hall, db, hdb, rfl⟩
  · rintro ⟨hoid, hall, db, hdb, rfl⟩
    exact ⟨⟨⟩, hoid, db, hdb, ⟨⟩, hall, rfl⟩

/-- The run that was started last is loaded as its graph. -/
theorem DagStore.loadDag_started {listed : List DagTaskRow → List DagTaskRow}
    (hlisted : ∀ rows, (listed rows).Perm rows) {db : Database RunContent}
    (hrun : runId ∉ store.runs.map fun run => run.db.runId) (hid : db.runId = runId) :
    ({ store with runs := store.runs ++ [.started db dag.normalized] } : DagStore).loadDag
      listed runId = .ok
        { runId, dag := dag.normalized, dagSha256 := dag.normalized.digest
          source := .persisted } := by
  have hfind : (store.runs ++ [DagRun.started db dag.normalized]).find?
      (fun run => run.db.runId = runId) = some (.started db dag.normalized) := by
    have hnone : store.runs.find? (fun run => run.db.runId = runId) = none :=
      Tables.find?_eq_none.2 fun run hmem heq => hrun (List.mem_map.2 ⟨run, hmem, heq⟩)
    rw [List.find?_append, hnone, Option.none_or]
    exact List.find?_cons_of_pos (by exact decide_eq_true hid)
  have hperm : (listed (DagRun.started db dag.normalized).rows).Perm
      (dag.normalized.tasks.map DagTaskRow.ofNode) :=
    (hlisted _).trans (dag.normalized.ordered_perm.map DagTaskRow.ofNode)
  have hdecode := (decodePersistedDag_of_rows hperm runId dag.normalized.digest).2
    (Or.inl (by rw [dag.normalized_normalized]))
  rw [dag.normalized_normalized] at hdecode
  have hne : listed (DagRun.started db dag.normalized).rows ≠ [] := by
    intro hnil
    rw [hnil, List.nil_perm, List.map_eq_nil_iff] at hperm
    exact (validateGraph_eq_ok.1 dag.normalized.valid).1 (by rw [hperm]; rfl)
  rw [DagStore.loadDag, hfind]
  dsimp only
  generalize listed (DagRun.started db dag.normalized).rows = rows at hdecode hne
  cases rows with
  | nil => exact absurd rfl hne
  | cons row rows =>
    show (decodePersistedDag runId (row :: rows) dag.normalized.digest >>= _) = _
    rw [hdecode]
    rfl

/-- **A task graph is loaded as it was started.**  `start_run` accepts any graph for
a known project, a new id and a Git object id, if the database can hold its texts; the
run is loaded as the normalized graph, with its digest, in whatever order the rows are
read; normalizing a normalized graph changes nothing, and graphs that differ in the
order of their nodes or of a node's dependencies have one normalized graph, and so one
digest. -/
theorem dag_round_trip (store : DagStore) (projectId runId : UUID) (dag : TaskDAGRecord)
    (baseCommit : String) (listed : List DagTaskRow → List DagTaskRow)
    (hlisted : ∀ rows, (listed rows).Perm rows) :
    ((∃ store', store.startRun projectId runId dag baseCommit = .ok store') ↔
      isOid (strip baseCommit).toLower = true ∧ projectId ∈ store.projects ∧
        runId ∉ store.runs.map (fun run => run.db.runId) ∧
        ∀ node ∈ dag.tasks, (DagTaskRow.ofNode node).Storable) ∧
    ∃ normalized, dag.normalizeTaskDag = .ok normalized ∧
      (∀ store', store.startRun projectId runId dag baseCommit = .ok store' →
        store'.loadDag listed runId = .ok
          { runId, dag := normalized, dagSha256 := normalized.digest, source := .persisted }) ∧
      normalized.normalizeTaskDag = .ok normalized ∧
      ∀ dag', dag.Reordered dag' → dag'.normalizeTaskDag = .ok normalized := by
  refine ⟨?_, dag.normalized, dag.normalizeTaskDag_eq, ?_, ?_, fun dag' hsame => ?_⟩
  · constructor
    · rintro ⟨store', h⟩
      obtain ⟨hoid, hall, db, hdb, -⟩ := DagStore.startRun_eq_ok.1 h
      obtain ⟨hproject, hrun, -⟩ := insertRun_returns.1 db hdb
      exact ⟨hoid, hproject, hrun, hall⟩
    · rintro ⟨hoid, hproject, hrun, hall⟩
      obtain ⟨db, hdb⟩ := insertRun_returns.2 hproject hrun
      exact ⟨_, DagStore.startRun_eq_ok.2 ⟨hoid, hall, db, hdb, rfl⟩⟩
  · intro store' h
    obtain ⟨-, -, db, hdb, rfl⟩ := DagStore.startRun_eq_ok.1 h
    obtain ⟨-, hrun, hid⟩ := insertRun_returns.1 db hdb
    exact DagStore.loadDag_started hlisted hrun hid
  · rw [TaskDAGRecord.normalizeTaskDag_eq, dag.normalized_normalized]
  · rw [TaskDAGRecord.normalizeTaskDag_eq, hsame.normalized_eq]

/-- A task of its own, with the fewest fields. -/
def plainContractFields : TaskContractFields where
  taskId := "a"
  objective := "b"
  readableFiles := []
  writableFiles := ["c"]
  readonlyFiles := []
  acceptanceCriteria := ["d"]
  verificationCommands := ["e"]

def plainContract : TaskContractRecord :=
  ⟨plainContractFields, rfl⟩

def plainNode : TaskNodeRecord :=
  ⟨{ task := plainContract }, rfl⟩

/-- The graph of one task without metadata. -/
def plainDag : TaskDAGRecord :=
  ⟨[plainNode], rfl⟩

theorem dag_round_trip_plain :
    ∃ normalized, plainDag.normalizeTaskDag = .ok normalized ∧
      normalized.normalizeTaskDag = .ok normalized := by
  obtain ⟨-, normalized, hnormalized, -, hagain, -⟩ :=
    dag_round_trip ⟨[⟨1⟩], []⟩ ⟨1⟩ ⟨2⟩ plainDag (sampleOid 'a') id fun rows => List.Perm.refl rows
  exact ⟨normalized, hnormalized, hagain⟩

/-! ### Legacy rows -/

/-- The payload of a graph in the legacy form: of each node the task and the
dependencies. -/
def legacyForm (dag : TaskDAGRecord) : Json :=
  .obj [("tasks", .arr (dag.tasks.map fun node =>
    .obj [("depends_on", (Codec.list .text).encode node.val.dependsOn),
      ("task", TaskContractRecord.codec.encode node.val.task)]))]

/-- The row of a node before there was metadata. -/
def DagTaskRow.legacy (node : TaskNodeRecord) : DagTaskRow :=
  { DagTaskRow.ofNode node with nodeMetadata := none }

/-- Of a node the decoder leaves one field too much for the legacy form. -/
theorem dump_without_addedFields (node : TaskNodeRecord) :
    node.dump.without addedFields =
      .obj [("depends_on", (Codec.list .text).encode node.val.dependsOn),
        ("resume_context", resumeContextCodec.encode node.val.resumeContext),
        ("task", TaskContractRecord.codec.encode node.val.task)] := by
  simp [TaskNodeRecord.dump, Json.without, addedFields]

theorem length_legacyForm_lt (dag : TaskDAGRecord) :
    (legacyForm dag).dumps.length < (legacyPayload dag).dumps.length := by
  have hne : dag.tasks ≠ [] := fun hnil =>
    (validateGraph_eq_ok.1 dag.valid).1 (by rw [hnil]; rfl)
  have hnodes := Documents.length_dumps_arr_lt
    (f := fun node : TaskNodeRecord =>
      .obj [("depends_on", (Codec.list .text).encode node.val.dependsOn),
        ("task", TaskContractRecord.codec.encode node.val.task)])
    (g := fun node => node.dump.without addedFields) hne fun node => by
      rw [dump_without_addedFields]
      simp only [Json.dumps, Documents.dumpsMembers, Documents.dumpsMoreMembers,
        List.length_cons, List.length_append]
      omega
  simp only [legacyForm, legacyPayload, Json.dumps, Documents.dumpsMembers,
    Documents.dumpsMoreMembers, List.length_cons, List.length_append] at hnodes ⊢
  omega

theorem length_legacyPayload_lt (dag : TaskDAGRecord) :
    (legacyPayload dag).dumps.length < dag.dump.dumps.length := by
  have hne : dag.tasks ≠ [] := fun hnil =>
    (validateGraph_eq_ok.1 dag.valid).1 (by rw [hnil]; rfl)
  have hnodes := Documents.length_dumps_arr_lt
    (f := fun node : TaskNodeRecord => node.dump.without addedFields)
    (g := TaskNodeRecord.dump) hne fun node => by
      rw [dump_without_addedFields]
      simp only [TaskNodeRecord.dump, Json.dumps, Documents.dumpsMembers,
        Documents.dumpsMoreMembers, List.length_cons, List.length_append]
      omega
  simp only [TaskDAGRecord.dump, legacyPayload, Json.dumps, Documents.dumpsMembers,
    Documents.dumpsMoreMembers, List.length_cons, List.length_append] at hnodes ⊢
  omega

/-- **Legacy rows are accepted only by a collision of SHA-256.**  The decoder hashes the
payload with all fields and the one without the fields that it knows to be new; both
have the resume context of every node and so are other texts than the legacy payload. -/
theorem legacy_rows_accepted_iff {dag : TaskDAGRecord} {rows : List DagTaskRow}
    (hplain : ∀ node ∈ dag.tasks, nodeMetadata node = none)
    (hrows : rows.Perm (dag.tasks.map DagTaskRow.legacy)) (runId : UUID) :
    decodePersistedDag runId rows (payloadSha256 (legacyForm dag.normalized)) =
        .ok dag.normalized ↔
      ∃ text ∈ [dag.normalized.dump.dumps, (legacyPayload dag.normalized).dumps],
        text ≠ (legacyForm dag.normalized).dumps ∧
          Sha256.digest text = Sha256.digest (legacyForm dag.normalized).dumps := by
  have hsame : dag.tasks.map DagTaskRow.legacy = dag.tasks.map DagTaskRow.ofNode :=
    List.map_congr_left fun node hnode => by
      rw [DagTaskRow.legacy, ← hplain node hnode]
      rfl
  have hnone : ∀ row ∈ rows, row.nodeMetadata = none := by
    intro row hrow
    obtain ⟨node, -, rfl⟩ := List.mem_map.1 (hrows.mem_iff.1 hrow)
    rfl
  have hlegacy := length_legacyForm_lt dag.normalized
  have hfull := length_legacyPayload_lt dag.normalized
  have hother : ∀ text : List Char, (legacyForm dag.normalized).dumps.length < text.length →
      text ≠ (legacyForm dag.normalized).dumps := by
    rintro text hlt rfl
    exact lt_irrefl _ hlt
  rw [decodePersistedDag_of_rows (hsame ▸ hrows)]
  simp only [List.mem_cons, List.not_mem_nil, or_false, exists_eq_or_imp, exists_eq_left,
    hother _ hlegacy, hother _ (hlegacy.trans hfull), true_and, ne_eq, not_false_eq_true]
  exact or_congr_right (and_iff_right hnone)

theorem legacy_rows_accepted_iff_plain :
    ∃ node ∈ plainDag.tasks, nodeMetadata node = none ∧
      (decodePersistedDag ⟨2⟩ (plainDag.tasks.map DagTaskRow.legacy)
          (payloadSha256 (legacyForm plainDag.normalized)) = .ok plainDag.normalized ↔
        ∃ text ∈ [plainDag.normalized.dump.dumps, (legacyPayload plainDag.normalized).dumps],
          text ≠ (legacyForm plainDag.normalized).dumps ∧
            Sha256.digest text = Sha256.digest (legacyForm plainDag.normalized).dumps) := by
  have hplain : ∀ node ∈ plainDag.tasks, nodeMetadata node = none := by
    intro node hnode
    rw [List.mem_singleton.1 hnode]
    rfl
  exact ⟨plainNode, List.mem_singleton_self _, hplain _ (List.mem_singleton_self _),
    legacy_rows_accepted_iff hplain (List.Perm.refl _) ⟨2⟩⟩

/-- **A legacy row is rejected**: its digest is not the one of a payload that the
decoder hashes. -/
theorem legacy_row_rejected :
    nodeMetadata plainNode = none ∧
      ¬decodePersistedDag ⟨2⟩ [.legacy plainNode] (payloadSha256 (legacyForm plainDag.normalized)) =
        .ok plainDag.normalized := by
  refine ⟨rfl, fun h => ?_⟩
  have hdigests : payloadSha256 plainDag.normalized.dump ≠
        payloadSha256 (legacyForm plainDag.normalized) ∧
      payloadSha256 (legacyPayload plainDag.normalized) ≠
        payloadSha256 (legacyForm plainDag.normalized) := by decide +kernel
  have hrow : DagTaskRow.legacy plainNode = .ofNode plainNode := rfl
  rw [hrow] at h
  rcases (decodePersistedDag_of_rows (List.Perm.refl (plainDag.tasks.map DagTaskRow.ofNode)) _ _).1 h with h | ⟨-, h⟩
  · exact hdigests.1 h
  · exact hdigests.2 h

end DevFlow
