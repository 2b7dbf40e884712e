/-
# The token budget of one run

`persistence/token_budget.py`: `PostgresRunTokenBudgetStore`, on the five tables
that the migrations 0011 and 0013 create, restricted to the rows of one run.

| table | here |
| --- | --- |
| `run_token_budgets` | `RunBudgetRow`, at most one |
| `run_token_reservations` | `ReservationRow`, the open reservations |
| `run_token_role_usage` | `RoleUsageRow`, one for each role |
| `run_stage_token_budgets` | `StageBudgetRow`, one for each stage |
| `run_task_token_budgets` | `TaskBudgetRow`, one for each work package |

The tables hold the same figures several times: what is reserved stands in the
run row, in the rows of the reservations, in the stage rows and in the task rows,
and each transaction moves each of them by statements of its own.  `GREATEST(0, a
- b)` is the subtraction of ℕ.

Left out are the columns that only report (`last_*`, predictions, complexity), and
the arithmetic of `_calibrated_input_estimate`, which multiplies by a floating
point factor: it is a parameter of the store.
-/

import DevFlow.Library.Tables
import DevFlow.Models.AgentMessages
import DevFlow.Persistence.RunLog

namespace DevFlow

/-- `TokenBudgetStage`. -/
inductive TokenBudgetStage
  | planning
  | development
  | verificationRepair
  | reviewPublication
  | flex
deriving DecidableEq, Repr

/-- `RunTokenBudgetStatus`. -/
inductive RunTokenBudgetStatus
  | normal
  | warning
  | critical
  | exhausted
deriving DecidableEq, Repr

/-- A row of `run_token_budgets`. -/
structure RunBudgetRow where
  totalBudget : ℕ
  usedPrompt : ℕ := 0
  usedCompletion : ℕ := 0
  usedTotal : ℕ := 0
  reserved : ℕ := 0
  status : RunTokenBudgetStatus := .normal
deriving DecidableEq, Repr

/-- A row of `run_token_reservations`. -/
structure ReservationRow where
  reservationId : UUID
  taskId : String
  role : AgentRole
  inputTokens : ℕ
  outputTokens : ℕ
deriving DecidableEq, Repr

/-- What the row reserves. -/
def ReservationRow.reserved (row : ReservationRow) : ℕ :=
  row.inputTokens + row.outputTokens

/-- A row of `run_token_role_usage`. -/
structure RoleUsageRow where
  role : AgentRole
  prompt : ℕ
  completion : ℕ
  total : ℕ
  callCount : ℕ
deriving DecidableEq, Repr

/-- A row of `run_stage_token_budgets`. -/
structure StageBudgetRow where
  stage : TokenBudgetStage
  totalBudget : ℕ
  used : ℕ := 0
  reserved : ℕ := 0
deriving DecidableEq, Repr

/-- The columns of `run_task_token_budgets` with the prefix `developer` or
`repair`. -/
structure PackageShare where
  budget : ℕ
  used : ℕ := 0
  reserved : ℕ := 0
  observedPrompt : ℕ := 0
deriving DecidableEq, Repr

/-- A row of `run_task_token_budgets`. -/
structure TaskBudgetRow where
  taskId : String
  developer : PackageShare
  repair : PackageShare
deriving DecidableEq, Repr

/-- The rows of one run. -/
structure BudgetTables where
  budget : Option RunBudgetRow := none
  reservations : List ReservationRow := []
  roleUsage : List RoleUsageRow := []
  stages : List StageBudgetRow := []
  tasks : List TaskBudgetRow := []
deriving DecidableEq, Repr

/-- `_stage_for`. -/
def stageFor : AgentRole → TokenBudgetStage
  | .planner => .planning
  | .repair => .verificationRepair
  | .reviewer => .reviewPublication
  | .developer => .development

/-- `_status_for`. -/
def statusFor (consumedOrReserved total : ℕ) : RunTokenBudgetStatus :=
  if total ≤ consumedOrReserved then .exhausted
  else if total * 90 ≤ consumedOrReserved * 100 then .critical
  else if total * 70 ≤ consumedOrReserved * 100 then .warning
  else .normal

/-- The `TokenBudgetReservation` that a caller holds. -/
structure TokenBudgetReservation where
  reservationId : UUID
  role : AgentRole
  reservedInputTokens : ℕ
  reservedOutputTokens : ℕ
deriving DecidableEq, Repr

/-- The settings of the store.  `calibration` is `_calibrated_input_estimate` for a
Developer or a Repair call, as a function of the task, the role, the observed
prompt size in the task's row and the estimate: it also reads the latest row of
`run_task_cost_observations`. -/
structure TokenBudgetStore where
  defaultTotalBudgetTokens : ℕ
  calibration : String → AgentRole → ℕ → ℕ → ℕ

namespace BudgetTables

/-- The integer columns. -/
def columns (w : BudgetTables) : List ℕ :=
  w.budget.toList.flatMap (fun row => [row.totalBudget, row.usedPrompt, row.usedCompletion,
      row.usedTotal, row.reserved]) ++
    w.reservations.flatMap (fun row => [row.inputTokens, row.outputTokens]) ++
    w.roleUsage.flatMap (fun row => [row.prompt, row.completion, row.total, row.callCount]) ++
    w.stages.flatMap (fun row => [row.totalBudget, row.used, row.reserved]) ++
    w.tasks.flatMap (fun row => [row.developer, row.repair].flatMap fun share =>
      [share.budget, share.used, share.reserved, share.observedPrompt])

/-- The CHECK constraints that ℕ does not carry, and the range of INTEGER. -/
structure Constraints (w : BudgetTables) : Prop where
  budget : ∀ row ∈ w.budget, 0 < row.totalBudget ∧
    row.usedTotal = row.usedPrompt + row.usedCompletion
  reservations : ∀ row ∈ w.reservations, 0 < row.outputTokens
  roleUsage : ∀ row ∈ w.roleUsage, row.total = row.prompt + row.completion
  range : ∀ column ∈ w.columns, column ≤ maxInteger

instance (w : BudgetTables) : Decidable w.Constraints :=
  decidable_of_iff
    ((∀ row ∈ w.budget, 0 < row.totalBudget ∧
        row.usedTotal = row.usedPrompt + row.usedCompletion) ∧
      (∀ row ∈ w.reservations, 0 < row.outputTokens) ∧
      (∀ row ∈ w.roleUsage, row.total = row.prompt + row.completion) ∧
      ∀ column ∈ w.columns, column ≤ maxInteger)
    ⟨fun ⟨h₁, h₂, h₃, h₄⟩ => ⟨h₁, h₂, h₃, h₄⟩, fun h => ⟨h.1, h.2, h.3, h.4⟩⟩

/-- A transaction whose rows violate a constraint is rolled back. -/
def flush (w : BudgetTables) : Except Failure BudgetTables := do
  Raising.raiseIf (¬w.Constraints) ⟨.operationalError, "constraint violated"⟩
  return w

/-- The run row after `INSERT … ON CONFLICT (run_id) DO NOTHING`. -/
def runRow (w : BudgetTables) (total : ℕ) : RunBudgetRow :=
  w.budget.getD { totalBudget := total }

/-- `initialize`; `total_budget_tokens or default` takes zero for absent. -/
def initializeRun (store : TokenBudgetStore) (w : BudgetTables) (totalBudgetTokens : Option ℕ) :
    Except Failure BudgetTables :=
  let budget := if totalBudgetTokens.getD 0 = 0 then store.defaultTotalBudgetTokens
    else totalBudgetTokens.getD 0
  flush { w with budget := some (w.runRow budget) }

/-- A work package with the shares that `_initial_package_allocation` gives it. -/
structure Package where
  taskId : String
  developer : ℕ
  repair : ℕ
deriving DecidableEq, Repr

/-- The row that `initialize_hierarchy` inserts for a package. -/
def Package.row (package : Package) : TaskBudgetRow where
  taskId := package.taskId
  developer := { budget := package.developer }
  repair := { budget := package.repair }

/-- The stage rows of `initialize_hierarchy`. -/
def stageRows (total : ℕ) : List StageBudgetRow :=
  [{ stage := .planning, totalBudget := 0 }, { stage := .development, totalBudget := total },
    { stage := .verificationRepair, totalBudget := 0 },
    { stage := .reviewPublication, totalBudget := 0 }, { stage := .flex, totalBudget := 0 }]

/-- `initialize_hierarchy` for the nodes of the DAG that have an allocation. -/
def initializeHierarchy (store : TokenBudgetStore) (w : BudgetTables) (packages : List Package) :
    Except Failure BudgetTables :=
  if packages = [] then return w
  else
    let row := w.runRow store.defaultTotalBudgetTokens
    flush { w with
      budget := some row
      tasks := (packages.map Package.row).foldl (Tables.insertNew TaskBudgetRow.taskId) w.tasks
      stages := (stageRows row.totalBudget).foldl (Tables.insertNew StageBudgetRow.stage)
        w.stages }

end BudgetTables

/-- The row with the share of the role changed; only Developer and Repair have
one. -/
def TaskBudgetRow.mapShare (role : AgentRole) (f : PackageShare → PackageShare)
    (row : TaskBudgetRow) : TaskBudgetRow :=
  match role with
  | .developer => { row with developer := f row.developer }
  | .repair => { row with repair := f row.repair }
  | .planner | .reviewer => row

/-- `_calibrated_input_estimate`. -/
def calibratedInputEstimate (store : TokenBudgetStore) (w : BudgetTables) (taskId : String)
    (role : AgentRole) (estimatedInputTokens : ℕ) : ℕ :=
  let row := w.tasks.find? fun row => row.taskId = taskId
  match role with
  | .developer =>
    store.calibration taskId role (row.elim 0 fun row => row.developer.observedPrompt)
      estimatedInputTokens
  | .repair =>
    store.calibration taskId role (row.elim 0 fun row => row.repair.observedPrompt)
      estimatedInputTokens
  | .planner | .reviewer => estimatedInputTokens

/-- `RunBudgetExhaustionFacts`. -/
structure RunBudgetExhaustionFacts where
  totalBudgetTokens : ℕ
  usedTotalTokens : ℕ
  reservedTokens : ℕ
  nextPromptTokens : ℕ
  completionLimitTokens : ℕ

namespace RunBudgetExhaustionFacts

/-- `remaining_tokens`. -/
def remainingTokens (facts : RunBudgetExhaustionFacts) : ℕ :=
  facts.totalBudgetTokens - facts.usedTotalTokens - facts.reservedTokens

/-- `required_tokens`. -/
def requiredTokens (facts : RunBudgetExhaustionFacts) : ℕ :=
  facts.nextPromptTokens + facts.completionLimitTokens

/-- `shortfall_tokens`. -/
def shortfallTokens (facts : RunBudgetExhaustionFacts) : ℕ :=
  facts.requiredTokens - facts.remainingTokens

/-- `message`. -/
def message (facts : RunBudgetExhaustionFacts) : String :=
  "Run 总模型预算不足，未向模型服务发起请求。" ++
    "总预算=" ++ toString facts.totalBudgetTokens ++ "，已使用=" ++ toString facts.usedTotalTokens ++
    "，当前预留=" ++ toString facts.reservedTokens ++ "，剩余=" ++ toString facts.remainingTokens ++
    "，下一轮 Prompt 预计=" ++ toString facts.nextPromptTokens ++
    "，Completion 上限=" ++ toString facts.completionLimitTokens ++
    "，下一轮需要=" ++ toString facts.requiredTokens ++
    "，缺口=" ++ toString facts.shortfallTokens ++ "。"

end RunBudgetExhaustionFacts

namespace BudgetTables

/-- `_reserve_hierarchy`, with `_record_soft_share_reservation`. -/
def reserveHierarchy (w : BudgetTables) (taskId : String) (role : AgentRole) (required : ℕ) :
    BudgetTables :=
  { w with
    tasks := Tables.amend TaskBudgetRow.taskId taskId
      (TaskBudgetRow.mapShare role fun share => { share with reserved := share.reserved + required })
      w.tasks
    stages := Tables.amend StageBudgetRow.stage (stageFor role)
      (fun row => { row with reserved := row.reserved + required }) w.stages }

/-- The transaction of `reserve`; `reservationId` is what `uuid4()` returns. -/
def reserveTransaction (store : TokenBudgetStore) (w : BudgetTables) (reservationId : UUID)
    (taskId : String) (role : AgentRole) (estimatedInputTokens maxOutputTokens : ℤ) :
    Except Failure (TokenBudgetReservation × BudgetTables) := do
  Raising.raiseIf (estimatedInputTokens < 0 ∨ maxOutputTokens < 1)
    ⟨.valueError, "token reservation values must be non-negative and non-empty"⟩
  let input := calibratedInputEstimate store w taskId role estimatedInputTokens.toNat
  let output := maxOutputTokens.toNat
  let row := w.runRow store.defaultTotalBudgetTokens
  let projected := row.usedTotal + row.reserved + (input + output)
  Raising.raiseIf (row.totalBudget < projected)
    ⟨.runBudgetExhausted, RunBudgetExhaustionFacts.message
      ⟨row.totalBudget, row.usedTotal, row.reserved, input, output⟩⟩
  let reserved := w.reserveHierarchy taskId role (input + output)
  Raising.raiseIf (∃ r ∈ w.reservations, r.reservationId = reservationId)
    ⟨.operationalError, "duplicate key"⟩
  let flushed ← flush { reserved with
    budget := some { row with
      reserved := row.reserved + (input + output)
      status := statusFor projected row.totalBudget }
    reservations := w.reservations ++ [⟨reservationId, taskId, role, input, output⟩] }
  return (⟨reservationId, role, input, output⟩, flushed)

/-- `_persist_run_exhausted_status`, a transaction of its own. -/
def persistRunExhaustedStatus (w : BudgetTables) : BudgetTables :=
  { w with budget := w.budget.map fun row => { row with status := .exhausted } }

/-- `reserve`: the refused call of an exhausted run is rolled back, and the status
is written afterwards. -/
def reserve (store : TokenBudgetStore) (w : BudgetTables) (reservationId : UUID) (taskId : String)
    (role : AgentRole) (estimatedInputTokens maxOutputTokens : ℤ) :
    Except Failure TokenBudgetReservation × BudgetTables :=
  match w.reserveTransaction store reservationId taskId role estimatedInputTokens
      maxOutputTokens with
  | .ok (reservation, w') => (.ok reservation, w')
  | .error failure =>
    if failure.kind = .runBudgetExhausted then (.error failure, w.persistRunExhaustedStatus)
    else (.error failure, w)

end BudgetTables

/-- `_actual_usage`: the prompt and the completion tokens to charge. -/
def actualUsage (usage : Option TokenUsage) (reservation : TokenBudgetReservation) : ℕ × ℕ :=
  match usage with
  | none => (0, 0)
  | some usage =>
    if usage.totalTokens = 0 ∧ usage.promptTokens = 0 ∧ usage.completionTokens = 0 then
      (reservation.reservedInputTokens, reservation.reservedOutputTokens)
    else (usage.promptTokens, usage.completionTokens)

/-- The row of a first call of a role. -/
def RoleUsageRow.first (role : AgentRole) (prompt completion total : ℕ) : RoleUsageRow :=
  ⟨role, prompt, completion, total, 1⟩

/-- `DO UPDATE SET` of the role usage. -/
def RoleUsageRow.add (excluded row : RoleUsageRow) : RoleUsageRow :=
  { row with
    prompt := row.prompt + excluded.prompt
    completion := row.completion + excluded.completion
    total := row.total + excluded.total
    callCount := row.callCount + 1 }

namespace BudgetTables

/-- The upsert of `run_token_role_usage`. -/
def chargeRole (w : BudgetTables) (role : AgentRole) (prompt completion total : ℕ) :
    BudgetTables :=
  let excluded := RoleUsageRow.first role prompt completion total
  { w with roleUsage := Tables.upsert RoleUsageRow.role excluded excluded.add w.roleUsage }

/-- `_settle_hierarchy`. -/
def settleHierarchy (w : BudgetTables) (taskId : String) (role : AgentRole)
    (reserved used promptTokens : ℕ) : BudgetTables :=
  { w with
    stages := Tables.amend StageBudgetRow.stage (stageFor role)
      (fun row => { row with reserved := row.reserved - reserved, used := row.used + used })
      w.stages
    tasks := Tables.amend TaskBudgetRow.taskId taskId
      (TaskBudgetRow.mapShare role fun share =>
        { share with
          reserved := share.reserved - reserved
          used := share.used + used
          observedPrompt := max share.observedPrompt promptTokens })
      w.tasks }

/-- `_finish_reservation`. -/
def finishReservation (w : BudgetTables) (reservation : TokenBudgetReservation)
    (usage : Option TokenUsage) : Except Failure BudgetTables :=
  match w.reservations.find? fun row => row.reservationId = reservation.reservationId with
  | none => return w
  | some row =>
    match w.budget with
    | none => .error ⟨.operationalError, "No row was found when one was required"⟩
    | some budget =>
      let charged := actualUsage usage reservation
      let total := charged.1 + charged.2
      let settled : BudgetTables := { w with budget := some { budget with
        reserved := budget.reserved - row.reserved
        usedPrompt := budget.usedPrompt + charged.1
        usedCompletion := budget.usedCompletion + charged.2
        usedTotal := budget.usedTotal + total
        status := statusFor (budget.usedTotal + total) budget.totalBudget } }
      let settled := settled.settleHierarchy row.taskId row.role row.reserved total charged.1
      let settled := if usage = none then settled
        else settled.chargeRole reservation.role charged.1 charged.2 total
      flush { settled with
        reservations := Tables.delete ReservationRow.reservationId reservation.reservationId
          w.reservations }

/-- `cancel`. -/
def cancel (w : BudgetTables) (reservation : TokenBudgetReservation) :
    Except Failure BudgetTables :=
  w.finishReservation reservation none

/-- `settle`. -/
def settle (w : BudgetTables) (reservation : TokenBudgetReservation) (usage : TokenUsage) :
    Except Failure BudgetTables :=
  w.finishReservation reservation (some usage)

/-- The `CASE` of `record_usage`. -/
def recordedStatus (row : RunBudgetRow) (total : ℕ) : RunTokenBudgetStatus :=
  if row.totalBudget ≤ row.usedTotal + total then .exhausted
  else if row.totalBudget * 90 ≤ (row.usedTotal + total) * 100 then .critical
  else if row.totalBudget * 70 ≤ (row.usedTotal + total) * 100 then .warning
  else row.status

/-- `record_usage`. -/
def recordUsage (w : BudgetTables) (role : AgentRole) (usage : TokenUsage) :
    Except Failure BudgetTables :=
  let recorded : BudgetTables := { w with
    budget := w.budget.map fun row =>
      { row with
        usedPrompt := row.usedPrompt + usage.promptTokens
        usedCompletion := row.usedCompletion + usage.completionTokens
        usedTotal := row.usedTotal + usage.totalTokens
        status := recordedStatus row usage.totalTokens }
    stages := Tables.amend StageBudgetRow.stage (stageFor role)
      (fun row => { row with used := row.used + usage.totalTokens }) w.stages }
  flush (recorded.chargeRole role usage.promptTokens usage.completionTokens usage.totalTokens)

end BudgetTables

end DevFlow
