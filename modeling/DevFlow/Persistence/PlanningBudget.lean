/-
# The planner's budget before a run, and its hand-over to the run

`persistence/planning_budget.py`: `PostgresPlanningTokenBudgetStore`, on the rows of
one launch in the tables of migration 0012, and `_transfer_planner_usage` of
`api/autonomous.py`.

A launch has its budget before its run exists.  Two things tie it to the run's own
budget (`Persistence.TokenBudget`):

* both stores refuse a call that would exceed the total, and both mean to leave the
  status EXHAUSTED behind.  The run's store writes it after its transaction has been
  rolled back; this one writes it inside the block that it then leaves by an
  exception, and `session_factory.begin()` drops what a block that raises has
  written;
* what the planner has used is booked in the run by two transactions of two stores:
  `link_to_run` names the run and returns the usage, and `record_usage` adds it.

Left out are the columns that only report (`project_id`, `enable_thinking`).
-/

import DevFlow.Persistence.TokenBudgetRuns

namespace DevFlow

/-- A row of `planning_token_budgets`. -/
structure PlanningBudgetRow where
  totalBudget : ℕ
  usedPrompt : ℕ := 0
  usedCompletion : ℕ := 0
  usedTotal : ℕ := 0
  reserved : ℕ := 0
  attemptCount : ℕ := 0
  maxAttempts : ℕ
  status : RunTokenBudgetStatus := .normal
  runId : Option UUID := none
deriving DecidableEq, Repr

/-- A row of `planning_token_reservations`, and the `PlanningTokenBudgetReservation`
that a caller holds. -/
structure PlanningReservation where
  reservationId : UUID
  reservedInputTokens : ℕ
  reservedOutputTokens : ℕ
deriving DecidableEq, Repr

/-- The rows of one launch. -/
structure PlanningTables where
  budget : Option PlanningBudgetRow := none
  reservations : List PlanningReservation := []
deriving DecidableEq, Repr

/-- The settings of the store. -/
structure PlanningTokenBudgetStore where
  defaultTotalBudgetTokens : ℕ
  defaultMaxAttempts : ℕ

namespace PlanningTables

/-- The CHECK constraints that ℕ does not carry, and the range of INTEGER. -/
structure Constraints (w : PlanningTables) : Prop where
  budget : ∀ row ∈ w.budget, 0 < row.totalBudget ∧ 0 < row.maxAttempts ∧
    row.usedTotal = row.usedPrompt + row.usedCompletion
  reservations : ∀ row ∈ w.reservations, 0 < row.reservedOutputTokens ∧
    row.reservedInputTokens ≤ maxInteger ∧ row.reservedOutputTokens ≤ maxInteger
  range : ∀ row ∈ w.budget, row.totalBudget ≤ maxInteger ∧ row.usedTotal ≤ maxInteger ∧
    row.reserved ≤ maxInteger ∧ row.attemptCount ≤ maxInteger ∧ row.maxAttempts ≤ maxInteger

instance (w : PlanningTables) : Decidable w.Constraints :=
  decidable_of_iff
    ((∀ row ∈ w.budget, 0 < row.totalBudget ∧ 0 < row.maxAttempts ∧
        row.usedTotal = row.usedPrompt + row.usedCompletion) ∧
      (∀ row ∈ w.reservations, 0 < row.reservedOutputTokens ∧
        row.reservedInputTokens ≤ maxInteger ∧ row.reservedOutputTokens ≤ maxInteger) ∧
      ∀ row ∈ w.budget, row.totalBudget ≤ maxInteger ∧ row.usedTotal ≤ maxInteger ∧
        row.reserved ≤ maxInteger ∧ row.attemptCount ≤ maxInteger ∧ row.maxAttempts ≤ maxInteger)
    ⟨fun ⟨h₁, h₂, h₃⟩ => ⟨h₁, h₂, h₃⟩, fun h => ⟨h.1, h.2, h.3⟩⟩

/-- A `session_factory.begin()` block that has answered and written as in `body`: it is
committed when it ends and rolled back when it raises. -/
def transaction {α : Type} (w : PlanningTables) (body : Except Failure α × PlanningTables) :
    Except Failure α × PlanningTables :=
  match body with
  | (.ok answer, written) =>
    if written.Constraints then (.ok answer, written)
    else (.error ⟨.operationalError, "constraint violated"⟩, w)
  | (.error failure, _) => (.error failure, w)

/-- `initialize`. -/
def initializeLaunch (store : PlanningTokenBudgetStore) (w : PlanningTables) :
    Except Failure Unit × PlanningTables :=
  w.transaction (.ok (), { w with budget := some (w.budget.getD {
    totalBudget := store.defaultTotalBudgetTokens
    maxAttempts := store.defaultMaxAttempts }) })

/-- `_mark_exhausted`. -/
def markExhausted (w : PlanningTables) : PlanningTables :=
  { w with budget := w.budget.map fun row => { row with status := .exhausted } }

/-- The block of `reserve`. -/
def reserveBlock (w : PlanningTables) (reservationId : UUID) (estimated maxOutput : ℕ) :
    Except Failure PlanningReservation × PlanningTables :=
  match w.budget with
  | none => (.error ⟨.planningTokenBudgetReservation, "规划预算记录不存在，未发起模型请求。"⟩, w)
  | some row =>
    let required := estimated + maxOutput
    let projected := row.usedTotal + row.reserved + required
    if row.maxAttempts ≤ row.attemptCount then
      (.error ⟨.planningTokenBudgetReservation,
        "规划模型已达到本次启动的最大调用次数，" ++ "attempts=" ++ toString row.attemptCount ++ "/" ++
          toString row.maxAttempts ++ "，" ++ "未向模型服务发起请求。"⟩, w.markExhausted)
    else if row.totalBudget < projected then
      (.error ⟨.planningTokenBudgetReservation,
        "本次启动的规划模型预算已用尽，" ++ "required_tokens=" ++ toString required ++
          ", available_tokens=" ++ toString (row.totalBudget - row.usedTotal - row.reserved) ++
          ", budget=" ++ toString row.totalBudget ++ "，" ++ "未向模型服务发起请求。"⟩,
        w.markExhausted)
    else if ∃ r ∈ w.reservations, r.reservationId = reservationId then
      (.error ⟨.operationalError, "duplicate key"⟩, w)
    else
      (.ok ⟨reservationId, estimated, maxOutput⟩,
        { budget := some { row with
            reserved := row.reserved + required
            attemptCount := row.attemptCount + 1
            status := statusFor projected row.totalBudget }
          reservations := w.reservations ++ [⟨reservationId, estimated, maxOutput⟩] })

/-- `reserve`; `reservationId` is what `uuid4()` returns. -/
def reserve (w : PlanningTables) (reservationId : UUID)
    (estimatedInputTokens maxOutputTokens : ℤ) :
    Except Failure PlanningReservation × PlanningTables :=
  if estimatedInputTokens < 0 ∨ maxOutputTokens < 1 then
    (.error ⟨.valueError, "planning reservation values must be non-negative and non-empty"⟩, w)
  else
    w.transaction
      (w.reserveBlock reservationId estimatedInputTokens.toNat maxOutputTokens.toNat)

/-- `_finish`: `settle` with the reported usage, `cancel` without one.  The row says what
was reserved. -/
def finish (w : PlanningTables) (reservationId : UUID) (usage : Option TokenUsage) :
    Except Failure Unit × PlanningTables :=
  w.transaction <|
    match w.reservations.find? fun row => row.reservationId = reservationId with
    | none => (.ok (), w)
    | some row =>
      match w.budget with
      | none => (.error ⟨.operationalError, "No row was found when one was required"⟩, w)
      | some budget =>
        let charged := actualUsage usage
          ⟨reservationId, .planner, row.reservedInputTokens, row.reservedOutputTokens⟩
        let total := charged.1 + charged.2
        (.ok (),
          { budget := some { budget with
              reserved := budget.reserved - (row.reservedInputTokens + row.reservedOutputTokens)
              usedPrompt := budget.usedPrompt + charged.1
              usedCompletion := budget.usedCompletion + charged.2
              usedTotal := budget.usedTotal + total
              status := statusFor (budget.usedTotal + total) budget.totalBudget }
            reservations := Tables.delete PlanningReservation.reservationId reservationId
              w.reservations })

/-- `link_to_run`: the usage to book, or nothing when the launch has its run already. -/
def linkToRun (w : PlanningTables) (runId : UUID) : Except Failure TokenUsage × PlanningTables :=
  w.transaction <|
    match w.budget with
    | none => (.error ⟨.operationalError, "No row was found when one was required"⟩, w)
    | some row =>
      match row.runId with
      | some linked =>
        if linked ≠ runId then
          (.error ⟨.valueError, "planning launch is already linked to a different Run"⟩, w)
        else (.ok {}, w)
      | none =>
        (.ok ⟨row.usedPrompt, row.usedCompletion, row.usedTotal⟩,
          { w with budget := some { row with runId := some runId } })

end PlanningTables

/-! ## The status that a refused call leaves -/

/-- **The run's budget has become EXHAUSTED, and nothing else has changed.** -/
def BudgetTables.ExhaustedAfter (w w' : BudgetTables) : Prop :=
  ∃ row, w'.budget = some row ∧ row.status = .exhausted ∧
    ∃ status, w = { w' with budget := some { row with status } }

/-- **The launch's budget has become EXHAUSTED, and nothing else has changed.** -/
def PlanningTables.ExhaustedAfter (w w' : PlanningTables) : Prop :=
  ∃ row, w'.budget = some row ∧ row.status = .exhausted ∧
    ∃ status, w = { w' with budget := some { row with status } }

/-- **The run's store** writes the status after the rollback, into the row that was
there before the call. -/
theorem BudgetTables.reserve_exhausted_iff {w : BudgetTables} {store : TokenBudgetStore}
    {reservationId : UUID} {taskId : String} {role : AgentRole} {estimated maxOutput : ℤ}
    {failure : Failure}
    (h : (w.reserve store reservationId taskId role estimated maxOutput).1 = .error failure)
    (hkind : failure.kind = .runBudgetExhausted) :
    w.ExhaustedAfter (w.reserve store reservationId taskId role estimated maxOutput).2 ↔
      w.budget ≠ none := by
  have hstate : (w.reserve store reservationId taskId role estimated maxOutput).2 =
      w.persistRunExhaustedStatus := by
    unfold reserve at h ⊢
    split at h
    · cases h
    · rename_i failure' _
      have hkind' : failure'.kind = .runBudgetExhausted := by
        split_ifs at h with hcase
        · exact hcase
        · rw [Except.error.inj h]
          exact hkind
      rw [if_pos hkind']
  rw [hstate]
  constructor
  · rintro ⟨row, hrow, -⟩ hnone
    rw [persistRunExhaustedStatus, hnone] at hrow
    cases hrow
  · intro hne
    obtain ⟨row, hrow⟩ := Option.ne_none_iff_exists'.1 hne
    refine ⟨{ row with status := .exhausted }, ?_, rfl, row.status, ?_⟩
    · rw [persistRunExhaustedStatus, hrow, Option.map_some]
    · cases w
      cases hrow
      rfl

/-- A block that raises has changed nothing. -/
theorem PlanningTables.reserve_refused {w : PlanningTables} {reservationId : UUID}
    {estimated maxOutput : ℤ} {failure : Failure}
    (h : (w.reserve reservationId estimated maxOutput).1 = .error failure) :
    (w.reserve reservationId estimated maxOutput).2 = w := by
  unfold reserve at h ⊢
  split_ifs at h ⊢
  · rfl
  · unfold transaction at h ⊢
    split at h
    · split_ifs at h ⊢
      rfl
    · rfl

/-- **The launch's store** has dropped the status with the rest of the block. -/
theorem PlanningTables.reserve_exhausted_iff {w : PlanningTables} {reservationId : UUID}
    {estimated maxOutput : ℤ} {failure : Failure}
    (h : (w.reserve reservationId estimated maxOutput).1 = .error failure) :
    w.ExhaustedAfter (w.reserve reservationId estimated maxOutput).2 ↔
      ∃ row, w.budget = some row ∧ row.status = .exhausted := by
  rw [PlanningTables.reserve_refused h]
  constructor
  · rintro ⟨row, hrow, hstatus, -⟩
    exact ⟨row, hrow, hstatus⟩
  · rintro ⟨row, hrow, hstatus⟩
    refine ⟨row, hrow, hstatus, row.status, ?_⟩
    cases w
    cases hrow
    rfl

/-- **When a refusal for lack of budget is durable.**  In the run's store the committed
state is the one before with the status EXHAUSTED if and only if the run had its row
before the call; in the planner's store, for whatever reason it refused, if and only if
the status was EXHAUSTED already. -/
theorem exhaustion_durable_iff {store : TokenBudgetStore} {w : BudgetTables}
    {reservationId : UUID} {taskId : String} {role : AgentRole} {estimated maxOutput : ℤ}
    {failure : Failure} {launch : PlanningTables} {launchReservation : UUID}
    {launchEstimated launchOutput : ℤ} {launchFailure : Failure}
    (hrun : (w.reserve store reservationId taskId role estimated maxOutput).1 = .error failure)
    (hexhausted : failure.kind = .runBudgetExhausted)
    (hlaunch : (launch.reserve launchReservation launchEstimated launchOutput).1 =
      .error launchFailure) :
    (w.ExhaustedAfter (w.reserve store reservationId taskId role estimated maxOutput).2 ↔
      w.budget ≠ none) ∧
    (launch.ExhaustedAfter (launch.reserve launchReservation launchEstimated launchOutput).2 ↔
      ∃ row, launch.budget = some row ∧ row.status = .exhausted) :=
  ⟨BudgetTables.reserve_exhausted_iff hrun hexhausted,
    PlanningTables.reserve_exhausted_iff hlaunch⟩

/-- The budget of a launch that nothing was spent from. -/
def newLaunch : PlanningTables where
  budget := some { totalBudget := 100, maxAttempts := 3 }

/-- Both stores refuse a hundred and twenty tokens; the launch had used up its budget
before. -/
theorem exhaustion_durable_used_up :
    openedBudget.tables.ExhaustedAfter (openedBudget.tables.reserve
        ⟨100, fun _ _ _ estimate => estimate⟩ ⟨7⟩ "build" .developer 80 40).2 ∧
      newLaunch.markExhausted.ExhaustedAfter (newLaunch.markExhausted.reserve ⟨8⟩ 80 40).2 := by
  have hrun : ∃ failure, (openedBudget.tables.reserve ⟨100, fun _ _ _ estimate => estimate⟩ ⟨7⟩
      "build" .developer 80 40).1 = .error failure ∧ failure.kind = .runBudgetExhausted :=
    ⟨_, rfl, rfl⟩
  have hlaunch : ∃ failure, (newLaunch.markExhausted.reserve ⟨8⟩ 80 40).1 = .error failure :=
    ⟨_, rfl⟩
  obtain ⟨failure, hrefused, hkind⟩ := hrun
  obtain ⟨launchFailure, hrefused'⟩ := hlaunch
  have hiff := exhaustion_durable_iff hrefused hkind hrefused'
  exact ⟨hiff.1.2 (by decide), hiff.2.2 ⟨_, rfl, rfl⟩⟩

/-- **The planner's store forgets that its budget is exhausted**: a call that is
refused for lack of budget leaves the status NORMAL. -/
theorem planning_exhaustion_forgotten :
    (∃ failure, (newLaunch.reserve ⟨8⟩ 80 40).1 = .error failure ∧
      failure.kind = .planningTokenBudgetReservation) ∧
    (newLaunch.reserve ⟨8⟩ 80 40).2 = newLaunch ∧
    ¬newLaunch.ExhaustedAfter (newLaunch.reserve ⟨8⟩ 80 40).2 := by
  refine ⟨⟨_, rfl, rfl⟩, rfl, ?_⟩
  rintro ⟨row, hrow, hstatus, -⟩
  obtain rfl := Option.some.inj hrow
  cases hstatus

/-! ## The hand-over to the run -/

/-- What the planner has used, in the books of the run. -/
def BudgetTables.plannerUsage (w : BudgetTables) : ℕ :=
  Tables.total (fun row => row.role = .planner) RoleUsageRow.total w.roleUsage

/-- The two stores, and the usage that an attempt was handed by `link_to_run` and has
not booked yet. -/
structure HandOver where
  planning : PlanningTables
  run : BudgetTables
  pending : Option TokenUsage := none
deriving DecidableEq, Repr

/-- The transactions of an attempt, and a crash of the process that makes it. -/
inductive HandOverMove
  | linkToRun
  | recordUsage
  | crash
deriving DecidableEq, Repr

/-- One step of `_transfer_planner_usage` for the run; `record_usage` is called for a
usage that is not zero. -/
def HandOverMove.perform (runId : UUID) (w : HandOver) :
    HandOverMove → Option (Except Failure Unit × HandOver)
  | .linkToRun =>
    match w.pending with
    | some _ => none
    | none =>
      match w.planning.linkToRun runId with
      | (.ok usage, planning) => some (.ok (), { w with planning, pending := some usage })
      | (.error failure, planning) => some (.error failure, { w with planning })
  | .recordUsage =>
    match w.pending with
    | none => none
    | some usage =>
      if usage.totalTokens = 0 then some (.ok (), { w with pending := none })
      else
        match w.run.recordUsage .planner usage with
        | .ok run => some (.ok (), { w with run, pending := none })
        | .error failure => some (.error failure, { w with pending := none })
  | .crash => some (.ok (), { w with pending := none })

/-- The transition system. -/
def handOverStep (runId : UUID) (w : HandOver) (move : HandOverMove) (answer : Except Failure Unit)
    (w' : HandOver) : Prop :=
  move.perform runId w = some (answer, w')

/-- An attempt has come to its end. -/
def HandOverCompletes (e : Runs.Event HandOver HandOverMove (Except Failure Unit)) : Prop :=
  e.input = .recordUsage ∧ e.output = .ok ()

instance (e : Runs.Event HandOver HandOverMove (Except Failure Unit)) :
    Decidable (HandOverCompletes e) :=
  inferInstanceAs (Decidable (_ ∧ e.output = .ok ()))

/-- **The process stops between the two transactions of an attempt**, with usage that
is not booked. -/
def HandOverInterrupts (e : Runs.Event HandOver HandOverMove (Except Failure Unit)) : Prop :=
  e.input = .crash ∧ ∃ usage, e.before.pending = some usage ∧ usage.totalTokens ≠ 0

/-- The books of a run in which nothing was used. -/
structure BudgetTables.Unused (w : BudgetTables) : Prop where
  constraints : w.Constraints
  budget : ∃ total, w.budget = some { totalBudget := total }
  roleUsage : w.roleUsage = []
  stages : ∀ s ∈ w.stages, s.used = 0

/-- The usage that `link_to_run` returns for a row. -/
def PlanningBudgetRow.usage (row : PlanningBudgetRow) : TokenUsage :=
  ⟨row.usedPrompt, row.usedCompletion, row.usedTotal⟩

/-- A launch that has planned, and the run that was created for it. -/
structure HandOver.Ready (w : HandOver) : Prop where
  planning : w.planning.Constraints
  unlinked : ∃ row, w.planning.budget = some row ∧ row.runId = none
  run : w.run.Unused
  pending : w.pending = none

theorem BudgetTables.columns_le {w : BudgetTables} {m : ℕ} : (∀ column ∈ w.columns, column ≤ m) ↔
    (∀ row ∈ w.budget, row.totalBudget ≤ m ∧ row.usedPrompt ≤ m ∧ row.usedCompletion ≤ m ∧
      row.usedTotal ≤ m ∧ row.reserved ≤ m) ∧
    (∀ row ∈ w.reservations, row.inputTokens ≤ m ∧ row.outputTokens ≤ m) ∧
    (∀ row ∈ w.roleUsage, row.prompt ≤ m ∧ row.completion ≤ m ∧ row.total ≤ m ∧
      row.callCount ≤ m) ∧
    (∀ row ∈ w.stages, row.totalBudget ≤ m ∧ row.used ≤ m ∧ row.reserved ≤ m) ∧
    ∀ row ∈ w.tasks, ∀ share ∈ [row.developer, row.repair], share.budget ≤ m ∧ share.used ≤ m ∧
      share.reserved ≤ m ∧ share.observedPrompt ≤ m := by
  have hflat : ∀ {α : Type} {l : List α} {f : α → List ℕ},
      (∀ c ∈ l.flatMap f, c ≤ m) ↔ ∀ row ∈ l, ∀ c ∈ f row, c ≤ m := by
    intro α l f
    constructor
    · exact fun h row hrow c hc => h c (List.mem_flatMap.2 ⟨row, hrow, hc⟩)
    · intro h c hc
      obtain ⟨row, hrow, hc⟩ := List.mem_flatMap.1 hc
      exact h row hrow c hc
  simp only [columns, List.forall_mem_append, hflat, Option.mem_toList, Option.mem_def,
    List.forall_mem_cons,
    List.not_mem_nil, false_implies, implies_true, and_true, and_assoc]

/-- **The books of a new run take what the planner has used.** -/
theorem BudgetTables.Unused.recordUsage {w : BudgetTables} (h : w.Unused) {usage : TokenUsage}
    (hshape : usage.totalTokens = usage.promptTokens + usage.completionTokens)
    (hrange : usage.totalTokens ≤ maxInteger) :
    ∃ w', w.recordUsage .planner usage = .ok w' ∧ w'.plannerUsage = usage.totalTokens := by
  obtain ⟨total, hbudget⟩ := h.budget
  have hpositive := h.constraints.budget _ hbudget
  obtain ⟨hrow, hreservations, -, hstages, htasks⟩ := BudgetTables.columns_le.1 h.constraints.range
  refine ⟨_, BudgetTables.flush_eq_ok.2 ⟨⟨?_, h.constraints.reservations, ?_, ?_⟩, rfl⟩, ?_⟩
  · intro row hrow'
    simp only [chargeRole, hbudget, Option.map_some, Option.mem_some_iff] at hrow'
    subst hrow'
    simp only [Nat.zero_add]
    exact ⟨hpositive.1, hshape⟩
  · intro row hrow'
    simp only [chargeRole, h.roleUsage, Tables.upsert_nil, List.mem_singleton] at hrow'
    subst hrow'
    exact hshape
  · refine BudgetTables.columns_le.2 ⟨?_, hreservations, ?_, ?_, htasks⟩
    · intro row hrow'
      simp only [chargeRole, hbudget, Option.map_some, Option.mem_some_iff] at hrow'
      subst hrow'
      have hold := hrow _ hbudget
      simp only [Nat.zero_add] at hold ⊢
      omega
    · intro row hrow'
      simp only [chargeRole, h.roleUsage, Tables.upsert_nil, List.mem_singleton] at hrow'
      subst hrow'
      simp only [RoleUsageRow.first, maxInteger] at hrange ⊢
      omega
    · intro s hs
      obtain ⟨s₀, hs₀, ⟨-, rfl⟩ | ⟨-, rfl⟩⟩ := Tables.mem_amend.1 hs
      · have hold := hstages s₀ hs₀
        have hused := h.stages s₀ hs₀
        simp only [hused, Nat.zero_add]
        exact ⟨hold.1, hrange, hold.2.2⟩
      · exact hstages s hs₀
  · simp only [plannerUsage, chargeRole, h.roleUsage, Tables.upsert_nil]
    simp [Tables.total, RoleUsageRow.first]

theorem PlanningTables.transaction_of_constraints {α : Type} {w written : PlanningTables}
    (answer : α) (h : written.Constraints) :
    w.transaction (.ok answer, written) = (.ok answer, written) := by
  rw [transaction, if_pos h]

/-- A launch without a run is linked, and its usage is returned. -/
theorem PlanningTables.linkToRun_unlinked {w : PlanningTables} (h : w.Constraints)
    {row : PlanningBudgetRow} (hrow : w.budget = some row) (hunlinked : row.runId = none)
    (runId : UUID) : ∃ w' : PlanningTables, w.linkToRun runId = (.ok row.usage, w') ∧
      w'.Constraints ∧ w'.budget = some { row with runId := some runId } := by
  have hconstraints : PlanningTables.Constraints
      { w with budget := some { row with runId := some runId } } := by
    refine ⟨fun row' hrow' => ?_, h.reservations, fun row' hrow' => ?_⟩ <;>
      obtain rfl := Option.some.inj hrow'
    · exact h.budget row hrow
    · exact h.range row hrow
  refine ⟨_, ?_, hconstraints, rfl⟩
  unfold linkToRun
  rw [hrow]
  simp only [hunlinked]
  exact transaction_of_constraints _ hconstraints

/-- A launch that has its run returns nothing. -/
theorem PlanningTables.linkToRun_linked {w : PlanningTables} (h : w.Constraints)
    {row : PlanningBudgetRow} {runId : UUID} (hrow : w.budget = some row)
    (hlinked : row.runId = some runId) : w.linkToRun runId = (.ok {}, w) := by
  unfold linkToRun
  rw [hrow]
  simp only [hlinked, ne_eq, not_true, if_false]
  exact transaction_of_constraints _ h

/-- **The phases of a hand-over**: the launch has no run yet; it has been linked and the
attempt holds the usage; or the usage stands in the books of the run. -/
def HandOver.Accounted (runId : UUID) (w : HandOver) : Prop :=
  w.planning.Constraints ∧ ∃ row, w.planning.budget = some row ∧
    ((row.runId = none ∧ w.pending = none ∧ w.run.Unused) ∨
      (row.runId = some runId ∧ w.pending = some row.usage ∧ w.run.Unused) ∨
      (row.runId = some runId ∧ w.run.plannerUsage = row.usedTotal ∧
        ∀ usage, w.pending = some usage → usage.totalTokens = 0))

theorem BudgetTables.Unused.plannerUsage {w : BudgetTables} (h : w.Unused) :
    w.plannerUsage = 0 := by
  rw [BudgetTables.plannerUsage, h.roleUsage]
  rfl

/-- **A step keeps the phases**, unless the process stops with usage in its hands; and
the end of an attempt is the last phase. -/
theorem HandOver.Accounted.step {runId : UUID} {w w' : HandOver} {move : HandOverMove}
    {answer : Except Failure Unit} (h : w.Accounted runId)
    (hsafe : ¬HandOverInterrupts ⟨w, move, answer, w'⟩)
    (hstep : handOverStep runId w move answer w') :
    w'.Accounted runId ∧ (HandOverCompletes ⟨w, move, answer, w'⟩ →
      ∃ row, w'.planning.budget = some row ∧ w'.run.plannerUsage = row.usedTotal) := by
  obtain ⟨hconstraints, row, hrow, hphase⟩ := h
  unfold handOverStep HandOverMove.perform at hstep
  cases move with
  | linkToRun =>
    refine ⟨?_, fun hdone => by cases hdone.1⟩
    cases hpending : w.pending with
    | some usage =>
      rw [hpending] at hstep
      cases hstep
    | none =>
      simp only [hpending] at hstep hphase
      rcases hphase with ⟨hunlinked, -, hunused⟩ | ⟨-, hpending', -⟩ | ⟨hlinked, hbooked, -⟩
      · obtain ⟨planning, hlink, hkeeps, hbudget⟩ :=
          PlanningTables.linkToRun_unlinked hconstraints hrow hunlinked runId
        rw [hlink] at hstep
        obtain ⟨-, rfl⟩ := Prod.mk.inj (Option.some.inj hstep)
        exact ⟨hkeeps, _, hbudget, Or.inr (Or.inl ⟨rfl, rfl, hunused⟩)⟩
      · cases hpending'
      · rw [PlanningTables.linkToRun_linked hconstraints hrow hlinked] at hstep
        obtain ⟨-, rfl⟩ := Prod.mk.inj (Option.some.inj hstep)
        refine ⟨hconstraints, row, hrow, Or.inr (Or.inr ⟨hlinked, hbooked, fun usage husage => ?_⟩)⟩
        obtain rfl := Option.some.inj husage
        rfl
  | recordUsage =>
    cases hpending : w.pending with
    | none =>
      rw [hpending] at hstep
      cases hstep
    | some usage =>
      simp only [hpending] at hstep hphase
      rcases hphase with ⟨-, hnone, -⟩ | ⟨hlinked, husage, hunused⟩ | ⟨hlinked, hbooked, hzero⟩
      · cases hnone
      · obtain rfl := Option.some.inj husage
        have hshape : row.usage.totalTokens =
            row.usage.promptTokens + row.usage.completionTokens :=
          (hconstraints.budget row hrow).2.2
        have hrange : row.usage.totalTokens ≤ maxInteger := (hconstraints.range row hrow).2.1
        by_cases hzero : row.usage.totalTokens = 0
        · rw [if_pos hzero] at hstep
          obtain ⟨-, rfl⟩ := Prod.mk.inj (Option.some.inj hstep)
          have hbooked : w.run.plannerUsage = row.usedTotal := hunused.plannerUsage.trans hzero.symm
          exact ⟨⟨hconstraints, row, hrow, Or.inr (Or.inr ⟨hlinked, hbooked,
            fun _ h => by cases h⟩)⟩, fun _ => ⟨row, hrow, hbooked⟩⟩
        · obtain ⟨run, hrecord, hbooked⟩ := hunused.recordUsage hshape hrange
          rw [if_neg hzero, hrecord] at hstep
          obtain ⟨-, rfl⟩ := Prod.mk.inj (Option.some.inj hstep)
          exact ⟨⟨hconstraints, row, hrow, Or.inr (Or.inr ⟨hlinked, hbooked,
            fun _ h => by cases h⟩)⟩, fun _ => ⟨row, hrow, hbooked⟩⟩
      · rw [if_pos (hzero usage rfl)] at hstep
        obtain ⟨-, rfl⟩ := Prod.mk.inj (Option.some.inj hstep)
        exact ⟨⟨hconstraints, row, hrow, Or.inr (Or.inr ⟨hlinked, hbooked,
          fun _ h => by cases h⟩)⟩, fun _ => ⟨row, hrow, hbooked⟩⟩
  | crash =>
    refine ⟨?_, fun hdone => by cases hdone.1⟩
    obtain ⟨-, rfl⟩ := Prod.mk.inj (Option.some.inj hstep)
    refine ⟨hconstraints, row, hrow, ?_⟩
    rcases hphase with ⟨hunlinked, -, hunused⟩ | ⟨hlinked, husage, hunused⟩ | ⟨hlinked, hbooked, -⟩
    · exact Or.inl ⟨hunlinked, rfl, hunused⟩
    · have hzero : row.usedTotal = 0 := by
        by_contra hne
        exact hsafe ⟨rfl, row.usage, husage, hne⟩
      exact Or.inr (Or.inr ⟨hlinked, hunused.plannerUsage.trans hzero.symm,
        fun _ h => by cases h⟩)
    · exact Or.inr (Or.inr ⟨hlinked, hbooked, fun _ h => by cases h⟩)

/-- **The planner's usage is booked in the run once**, after any number of attempts, if
no process stops between the commit of its `link_to_run` and that of its
`record_usage`: whenever an attempt comes to its end, what the run has booked for the
planner is what the launch has used. -/
theorem planner_usage_booked_once {runId : UUID} {w₀ w : HandOver}
    {es : List (Runs.Event HandOver HandOverMove (Except Failure Unit))} (h₀ : w₀.Ready)
    (hrun : Runs.Run (handOverStep runId) w₀ es w) (hsafe : ∀ e ∈ es, ¬HandOverInterrupts e) :
    ∀ e ∈ es, HandOverCompletes e →
      ∃ row, e.after.planning.budget = some row ∧ e.after.run.plannerUsage = row.usedTotal := by
  obtain ⟨row, hrow, hunlinked⟩ := h₀.unlinked
  have hstart : w₀.Accounted runId :=
    ⟨h₀.planning, row, hrow, Or.inl ⟨hunlinked, h₀.pending, h₀.run⟩⟩
  clear h₀ hrow hunlinked
  induction hrun with
  | nil => exact fun e he => absurd he List.not_mem_nil
  | cons hstep _ ih =>
    rw [List.forall_mem_cons] at hsafe ⊢
    obtain ⟨hkeeps, hdone⟩ := hstart.step hsafe.1 hstep
    exact ⟨hdone, ih hsafe.2 hkeeps⟩

/-- A launch that has used thirty tokens, and its run. -/
def plannedLaunch : HandOver where
  planning := { budget := some ⟨100, 20, 10, 30, 0, 1, 3, .normal, none⟩ }
  run := openedBudget.tables

theorem plannedLaunch_ready : plannedLaunch.Ready where
  planning := by decide
  unlinked := ⟨_, rfl, rfl⟩
  run := ⟨by decide +kernel, ⟨100, rfl⟩, rfl, fun s hs => absurd hs List.not_mem_nil⟩
  pending := rfl

/-- An attempt and a retry of it book thirty tokens. -/
theorem planner_usage_booked_once_retried :
    plannedLaunch.Ready ∧ ∃ es w, Runs.Run (handOverStep ⟨1⟩) plannedLaunch es w ∧
      (∃ e ∈ es, HandOverCompletes e) ∧ ∀ e ∈ es, HandOverCompletes e →
        ∃ row, e.after.planning.budget = some row ∧ e.after.run.plannerUsage = row.usedTotal := by
  have hdone : (Runs.exec (HandOverMove.perform ⟨1⟩) plannedLaunch
      [.linkToRun, .recordUsage, .linkToRun, .recordUsage]).map
      (fun r => r.1.any fun e => decide (HandOverCompletes e)) = some true := by
    decide +kernel
  obtain ⟨⟨es, w⟩, hexec, hany⟩ := Option.map_eq_some_iff.1 hdone
  obtain ⟨e, he, hcompletes⟩ := List.any_eq_true.1 hany
  have hrun := Runs.run_of_exec hexec
  have hsafe : ∀ e ∈ es, ¬HandOverInterrupts e := by
    rintro e he ⟨hcrash, -⟩
    have hmem := Runs.input_mem_of_exec hexec e he
    rw [hcrash] at hmem
    simp at hmem
  exact ⟨plannedLaunch_ready, es, w, hrun, ⟨e, he, of_decide_eq_true hcompletes⟩,
    planner_usage_booked_once plannedLaunch_ready hrun hsafe⟩

/-- **A crash between the two transactions loses the usage**: the retry finds the launch
linked, is handed nothing and comes to its end. -/
theorem planner_usage_lost_by_crash :
    plannedLaunch.Ready ∧ ∃ es w, Runs.Run (handOverStep ⟨1⟩) plannedLaunch es w ∧
      ∃ e ∈ es, HandOverCompletes e ∧ e.after.run.plannerUsage = 0 ∧
        ∃ row, e.after.planning.budget = some row ∧ row.usedTotal = 30 := by
  have hlost : (Runs.exec (HandOverMove.perform ⟨1⟩) plannedLaunch
      [.linkToRun, .crash, .linkToRun, .recordUsage]).map
      (fun r => r.1.any fun e => decide (HandOverCompletes e ∧ e.after.run.plannerUsage = 0 ∧
        e.after.planning.budget.map PlanningBudgetRow.usedTotal = some 30)) = some true := by
    decide +kernel
  obtain ⟨⟨es, w⟩, hexec, hany⟩ := Option.map_eq_some_iff.1 hlost
  obtain ⟨e, he, hcase⟩ := List.any_eq_true.1 hany
  obtain ⟨hcompletes, hnothing, hused⟩ := of_decide_eq_true hcase
  obtain ⟨row, hrow, htotal⟩ := Option.map_eq_some_iff.1 hused
  exact ⟨plannedLaunch_ready, es, w, Runs.run_of_exec hexec, e, he, hcompletes, hnothing, row,
    hrow, htotal⟩

end DevFlow
