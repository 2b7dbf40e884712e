/-
# The row locks of the budget transactions

`persistence/token_budget.py`: each transaction of `PostgresRunTokenBudgetStore` as
the sequence of row locks that its statements take.  `SELECT … FOR UPDATE` and
`UPDATE` lock the row that they find, if there is one, until the transaction ends;
`INSERT … ON CONFLICT` waits for a concurrent transaction that has inserted or
locked the same key.  The row of a new reservation is nobody else's yet and is left
out, and a lock that is already held is taken again at once.

`settle` and `cancel` take the run row before the task row.  `reserve` is written the
same way, with the run row as the gate, but `_calibrated_input_estimate` has already
locked the row of the task by then.
-/

import DevFlow.Library.Locks
import DevFlow.Persistence.TokenBudget

namespace DevFlow

/-- A row that a transaction locks. -/
inductive BudgetLock
  | run
  | reservation (reservationId : UUID)
  | stage (stage : TokenBudgetStage)
  | task (taskId : String)
  | roleUsage (role : AgentRole)
deriving DecidableEq, Repr

/-- A transaction of the store. -/
inductive BudgetTransaction
  | reserve (taskId : String) (role : AgentRole)
  | persistRunExhaustedStatus
  | settle (reservation : TokenBudgetReservation)
  | cancel (reservation : TokenBudgetReservation)
deriving DecidableEq, Repr

namespace BudgetTables

variable {w : BudgetTables}

/-- The statements on `run_task_token_budgets`, which are for Developer and Repair
calls only. -/
def lockTask (w : BudgetTables) (taskId : String) (role : AgentRole) : List BudgetLock :=
  if (role = .developer ∨ role = .repair) ∧ ∃ t ∈ w.tasks, t.taskId = taskId then [.task taskId]
  else []

/-- The statements on `run_stage_token_budgets`. -/
def lockStage (w : BudgetTables) (role : AgentRole) : List BudgetLock :=
  if ∃ s ∈ w.stages, s.stage = stageFor role then [.stage (stageFor role)] else []

/-- What `reserve` locks after the run row: `_reserve_hierarchy` and the update of the
run row. -/
def lockReserve (w : BudgetTables) (taskId : String) (role : AgentRole) : List BudgetLock :=
  w.lockStage role ++ w.lockTask taskId role ++ w.lockTask taskId role ++ w.lockStage role ++ [.run]

/-- What `_finish_reservation` locks after the run row, for the row that it found. -/
def lockFinish (w : BudgetTables) (row : ReservationRow) (roleUsage : List BudgetLock) :
    List BudgetLock :=
  [.run] ++ w.lockStage row.role ++ w.lockTask row.taskId row.role ++ roleUsage ++
    [.reservation row.reservationId]

/-- `_finish_reservation`. -/
def lockFinishReservation (w : BudgetTables) (reservation : TokenBudgetReservation)
    (roleUsage : List BudgetLock) : List BudgetLock :=
  match w.reservations.find? fun row => row.reservationId = reservation.reservationId with
  | none => []
  | some row =>
    match w.budget with
    | none => [.reservation row.reservationId]
    | some _ => [.reservation row.reservationId] ++ .run :: w.lockFinish row roleUsage

end BudgetTables

namespace BudgetTransaction

/-- The locks of a transaction, in the order in which it takes them. -/
def locks (w : BudgetTables) : BudgetTransaction → List BudgetLock
  | .reserve taskId role => w.lockTask taskId role ++ .run :: w.lockReserve taskId role
  | .persistRunExhaustedStatus => w.budget.toList.map fun _ => .run
  | .settle reservation => w.lockFinishReservation reservation [.roleUsage reservation.role]
  | .cancel reservation => w.lockFinishReservation reservation []

/-- It is a `reserve` of a Developer or a Repair call of the task, which has a budget
row. -/
def Admits (w : BudgetTables) (taskId : String) : BudgetTransaction → Prop
  | .reserve task role => task = taskId ∧ (role = .developer ∨ role = .repair) ∧
      ∃ t ∈ w.tasks, t.taskId = taskId
  | _ => False

/-- It is a `settle` or a `cancel` of an open Developer or Repair reservation of the
task. -/
def Ends (w : BudgetTables) (taskId : String) : BudgetTransaction → Prop
  | .settle reservation | .cancel reservation => ∃ row,
      w.reservations.find? (fun row => row.reservationId = reservation.reservationId) = some row ∧
      row.taskId = taskId ∧ (row.role = .developer ∨ row.role = .repair) ∧ w.budget ≠ none
  | _ => False

end BudgetTransaction

namespace BudgetTables

variable {w : BudgetTables} {x : BudgetLock} {taskId : String} {role : AgentRole}

theorem mem_lockTask : x ∈ w.lockTask taskId role ↔ x = .task taskId ∧
    (role = .developer ∨ role = .repair) ∧ ∃ t ∈ w.tasks, t.taskId = taskId := by
  unfold lockTask
  split_ifs with h
  · rw [List.mem_singleton]
    exact ⟨fun hx => ⟨hx, h⟩, fun hx => hx.1⟩
  · exact ⟨fun hx => absurd hx List.not_mem_nil, fun hx => absurd hx.2 h⟩

theorem length_lockTask : (w.lockTask taskId role).length ≤ 1 := by
  unfold lockTask
  split_ifs <;> simp

theorem mem_lockStage (h : x ∈ w.lockStage role) : x = .stage (stageFor role) := by
  unfold lockStage at h
  split_ifs at h
  · exact List.mem_singleton.1 h
  · exact absurd h List.not_mem_nil

/-- After the run row, `reserve` takes the stage row and the task row again. -/
theorem mem_lockReserve (h : x ∈ w.lockReserve taskId role) :
    x = .stage (stageFor role) ∨ x ∈ w.lockTask taskId role ∨ x = .run := by
  simp only [lockReserve, List.mem_append, List.mem_singleton] at h
  rcases h with (((h | h) | h) | h) | h
  · exact Or.inl (mem_lockStage h)
  · exact Or.inr (Or.inl h)
  · exact Or.inr (Or.inl h)
  · exact Or.inl (mem_lockStage h)
  · exact Or.inr (Or.inr h)

/-- After the run row, the end of a reservation takes the task row if it has one. -/
theorem task_mem_lockFinish {row : ReservationRow} {roleUsage : List BudgetLock}
    (hroles : ∀ x ∈ roleUsage, ∃ role, x = .roleUsage role) :
    .task taskId ∈ w.lockFinish row roleUsage ↔ .task taskId ∈ w.lockTask row.taskId row.role := by
  simp only [lockFinish, List.mem_append, List.mem_singleton, reduceCtorEq, false_or, or_false]
  constructor
  · rintro ((h | h) | h)
    · cases mem_lockStage h
    · exact h
    · obtain ⟨role, h⟩ := hroles _ h
      cases h
  · exact fun h => Or.inl (Or.inr h)

theorem reservation_mem_lockFinish {row : ReservationRow} {roleUsage : List BudgetLock}
    (hroles : ∀ x ∈ roleUsage, ∃ role, x = .roleUsage role) {reservationId : UUID}
    (h : .reservation reservationId ∈ w.lockFinish row roleUsage) :
    reservationId = row.reservationId := by
  simp only [lockFinish, List.mem_append, List.mem_singleton, reduceCtorEq, false_or,
    BudgetLock.reservation.injEq] at h
  rcases h with ((h | h) | h) | h
  · cases mem_lockStage h
  · cases (mem_lockTask.1 h).1
  · obtain ⟨role, h⟩ := hroles _ h
    cases h
  · exact h

theorem run_not_mem_lockTask : BudgetLock.run ∉ w.lockTask taskId role := by
  intro h
  cases (mem_lockTask.1 h).1

/-- **Two `reserve`s are not crossed.** -/
theorem reserve_reserve_not_crossed {taskId' : String} {role' : AgentRole} :
    ¬Locks.Crossed (BudgetTransaction.locks w (.reserve taskId role))
      (BudgetTransaction.locks w (.reserve taskId' role')) := by
  have hkeeps : ∀ {t t' r r' x}, x ∈ w.lockTask t r → x ∈ w.lockReserve t' r' →
      x ∈ w.lockTask t' r' := by
    intro t t' r r' x hx hx'
    obtain ⟨rfl, -⟩ := mem_lockTask.1 hx
    rcases mem_lockReserve hx' with h | h | h
    · cases h
    · exact h
    · cases h
  intro hcrossed
  rcases (Locks.crossed_gate_iff length_lockTask length_lockTask run_not_mem_lockTask
    run_not_mem_lockTask).1 hcrossed with ⟨x, hx, hpost, hnew⟩ | ⟨x, hx, hpost, hnew⟩
  · exact hnew (hkeeps hx hpost)
  · exact hnew (hkeeps hx hpost)

/-- **A `reserve` is crossed with the end of a reservation if and only if both take
the row of one task.** -/
theorem reserve_finish_crossed {row : ReservationRow} {roleUsage : List BudgetLock}
    (hroles : ∀ x ∈ roleUsage, ∃ role, x = .roleUsage role) :
    Locks.Crossed (BudgetTransaction.locks w (.reserve taskId role))
        ([.reservation row.reservationId] ++ .run :: w.lockFinish row roleUsage) ↔
      .task taskId ∈ w.lockTask taskId role ∧ .task taskId ∈ w.lockTask row.taskId row.role := by
  refine (Locks.crossed_gate_iff length_lockTask (by simp) run_not_mem_lockTask (by simp)).trans ?_
  constructor
  · rintro (⟨x, hx, hpost, -⟩ | ⟨x, hx, hpost, -⟩)
    · obtain ⟨rfl, -⟩ := mem_lockTask.1 hx
      exact ⟨hx, (task_mem_lockFinish hroles).1 hpost⟩
    · rw [List.mem_singleton] at hx
      subst hx
      rcases mem_lockReserve hpost with h | h | h
      · cases h
      · cases (mem_lockTask.1 h).1
      · cases h
  · rintro ⟨hx, hpost⟩
    exact Or.inl ⟨_, hx, (task_mem_lockFinish hroles).2 hpost, by simp⟩

/-- **The ends of two reservations are not crossed.** -/
theorem finish_finish_not_crossed {row row' : ReservationRow} {roleUsage roleUsage' : List BudgetLock}
    (hroles : ∀ x ∈ roleUsage, ∃ role, x = .roleUsage role)
    (hroles' : ∀ x ∈ roleUsage', ∃ role, x = .roleUsage role) :
    ¬Locks.Crossed ([.reservation row.reservationId] ++ .run :: w.lockFinish row roleUsage)
      ([.reservation row'.reservationId] ++ .run :: w.lockFinish row' roleUsage') := by
  intro hcrossed
  rcases (Locks.crossed_gate_iff (by simp) (by simp) (by simp) (by simp)).1 hcrossed with
    ⟨x, hx, hpost, hnew⟩ | ⟨x, hx, hpost, hnew⟩ <;> rw [List.mem_singleton] at hx hnew <;>
    subst hx
  · exact hnew (congrArg _ (reservation_mem_lockFinish hroles' hpost))
  · exact hnew (congrArg _ (reservation_mem_lockFinish hroles hpost))

end BudgetTables

namespace BudgetTransaction

variable {w : BudgetTables} {t t' : BudgetTransaction}

/-- **The three kinds of lock sequences**: those of a `reserve`, those that end an
open reservation, and those of at most one lock. -/
inductive Shape (w : BudgetTables) : BudgetTransaction → Prop
  | reserve (taskId : String) (role : AgentRole) : Shape w (.reserve taskId role)
  | finish {t : BudgetTransaction} (row : ReservationRow) (roleUsage : List BudgetLock)
      (roles : ∀ x ∈ roleUsage, ∃ role, x = .roleUsage role)
      (locks : t.locks w =
        [.reservation row.reservationId] ++ .run :: w.lockFinish row roleUsage)
      (admits : ∀ taskId, ¬t.Admits w taskId)
      (ends : ∀ taskId, t.Ends w taskId ↔
        row.taskId = taskId ∧ (row.role = .developer ∨ row.role = .repair)) : Shape w t
  | short {t : BudgetTransaction} (length : (t.locks w).length ≤ 1)
      (admits : ∀ taskId, ¬t.Admits w taskId) (ends : ∀ taskId, ¬t.Ends w taskId) : Shape w t

/-- The end of a reservation, by `settle` or by `cancel`. -/
theorem shape_finish {reservation : TokenBudgetReservation} {roleUsage : List BudgetLock}
    (hroles : ∀ x ∈ roleUsage, ∃ role, x = .roleUsage role)
    (hlocks : t.locks w = w.lockFinishReservation reservation roleUsage)
    (hadmits : ∀ taskId, ¬t.Admits w taskId)
    (hends : ∀ taskId, t.Ends w taskId ↔ ∃ row,
      w.reservations.find? (fun row => row.reservationId = reservation.reservationId) = some row ∧
      row.taskId = taskId ∧ (row.role = .developer ∨ row.role = .repair) ∧ w.budget ≠ none) :
    Shape w t := by
  unfold BudgetTables.lockFinishReservation at hlocks
  cases hfind : w.reservations.find? fun row => row.reservationId = reservation.reservationId with
  | none =>
    simp only [hfind] at hlocks hends
    refine .short (by rw [hlocks]; simp) hadmits fun taskId h => ?_
    obtain ⟨row, hrow, -⟩ := (hends taskId).1 h
    cases hrow
  | some row =>
    simp only [hfind, Option.some.injEq] at hlocks hends
    cases hbudget : w.budget with
    | none =>
      simp only [hbudget] at hlocks hends
      refine .short (by rw [hlocks]; simp) hadmits fun taskId h => ?_
      obtain ⟨row, -, -, -, hnone⟩ := (hends taskId).1 h
      exact hnone rfl
    | some budget =>
      simp only [hbudget] at hlocks hends
      refine .finish row roleUsage hroles hlocks hadmits fun taskId => (hends taskId).trans ?_
      constructor
      · rintro ⟨row', rfl, htask, hrole, -⟩
        exact ⟨htask, hrole⟩
      · rintro ⟨htask, hrole⟩
        exact ⟨row, rfl, htask, hrole, by simp⟩

theorem shape (w : BudgetTables) (t : BudgetTransaction) : Shape w t := by
  cases t with
  | reserve taskId role => exact .reserve taskId role
  | persistRunExhaustedStatus =>
    refine .short ?_ (fun _ h => h) fun _ h => h
    unfold locks
    cases w.budget <;> simp
  | settle reservation =>
    refine shape_finish (fun x hx => ?_) rfl (fun _ h => h) fun _ => Iff.rfl
    exact ⟨_, List.mem_singleton.1 hx⟩
  | cancel reservation =>
    exact shape_finish (fun x hx => absurd hx List.not_mem_nil) rfl (fun _ h => h) fun _ => Iff.rfl

/-- A `reserve` and the end of a reservation take the row of one task. -/
theorem reserve_crossed_iff {taskId : String} {role : AgentRole} {row : ReservationRow}
    {roleUsage : List BudgetLock} (hroles : ∀ x ∈ roleUsage, ∃ role, x = .roleUsage role)
    (hlocks : t.locks w = [.reservation row.reservationId] ++ .run :: w.lockFinish row roleUsage)
    (hends : ∀ taskId, t.Ends w taskId ↔
      row.taskId = taskId ∧ (row.role = .developer ∨ row.role = .repair)) :
    Locks.Crossed (locks w (.reserve taskId role)) (t.locks w) ↔
      ∃ task, Admits w task (.reserve taskId role) ∧ t.Ends w task := by
  rw [hlocks, BudgetTables.reserve_finish_crossed hroles, BudgetTables.mem_lockTask,
    BudgetTables.mem_lockTask]
  constructor
  · rintro ⟨⟨-, hrole, htask⟩, heq, hrole', -⟩
    obtain rfl := BudgetLock.task.inj heq
    exact ⟨_, ⟨rfl, hrole, htask⟩, (hends _).2 ⟨rfl, hrole'⟩⟩
  · rintro ⟨task, ⟨rfl, hrole, htask⟩, hend⟩
    obtain ⟨rfl, hrole'⟩ := (hends _).1 hend
    exact ⟨⟨rfl, hrole, htask⟩, rfl, hrole', htask⟩

/-- **Two transactions are crossed if and only if one is a `reserve` that has locked
the row of a task and the other ends a reservation of that task.** -/
theorem crossed_iff : Locks.Crossed (t.locks w) (t'.locks w) ↔
    ∃ taskId, (t.Admits w taskId ∧ t'.Ends w taskId) ∨ (t'.Admits w taskId ∧ t.Ends w taskId) := by
  cases shape w t with
  | short length admits ends =>
    refine ⟨fun h => absurd h (Locks.not_crossed_of_length length), ?_⟩
    rintro ⟨taskId, ⟨h, -⟩ | ⟨-, h⟩⟩
    · exact absurd h (admits taskId)
    · exact absurd h (ends taskId)
  | reserve taskId role =>
    cases shape w t' with
    | short length admits ends =>
      refine ⟨fun h => absurd h.symm (Locks.not_crossed_of_length length), ?_⟩
      rintro ⟨taskId, ⟨-, h⟩ | ⟨h, -⟩⟩
      · exact absurd h (ends taskId)
      · exact absurd h (admits taskId)
    | reserve taskId' role' =>
      refine ⟨fun h => absurd h BudgetTables.reserve_reserve_not_crossed, ?_⟩
      rintro ⟨_, ⟨-, h⟩ | ⟨-, h⟩⟩ <;> exact h.elim
    | finish row roleUsage roles hlocks admits ends =>
      refine (reserve_crossed_iff roles hlocks ends).trans (exists_congr fun task => ?_)
      exact ⟨Or.inl, fun h => h.resolve_right fun h => admits task h.1⟩
  | finish row roleUsage roles hlocks admits ends =>
    cases shape w t' with
    | short length admits' ends' =>
      refine ⟨fun h => absurd h.symm (Locks.not_crossed_of_length length), ?_⟩
      rintro ⟨taskId, ⟨-, h⟩ | ⟨h, -⟩⟩
      · exact absurd h (ends' taskId)
      · exact absurd h (admits' taskId)
    | reserve taskId' role' =>
      refine ⟨fun h => ?_, fun h => ?_⟩
      · obtain ⟨task, hboth⟩ := (reserve_crossed_iff roles hlocks ends).1 h.symm
        exact ⟨task, Or.inr hboth⟩
      · obtain ⟨task, h | h⟩ := h
        · exact absurd h.1 (admits task)
        · exact ((reserve_crossed_iff roles hlocks ends).2 ⟨task, h⟩).symm
    | finish row' roleUsage' roles' hlocks' admits' ends' =>
      refine ⟨fun h => ?_, ?_⟩
      · rw [hlocks, hlocks'] at h
        exact absurd h (BudgetTables.finish_finish_not_crossed roles roles')
      · rintro ⟨taskId, ⟨h, -⟩ | ⟨h, -⟩⟩
        · exact absurd h (admits taskId)
        · exact absurd h (admits' taskId)

end BudgetTransaction

/-- **When the budget store is free of deadlock.**  For any transactions of a run, in
any number and any interleaving, no two of them come to wait for each other if and only
if no `reserve` for a Developer or Repair call of a task with a budget row runs next to
a `settle` or a `cancel` of an open Developer or Repair reservation of the same task. -/
theorem budget_locks_never_stuck_iff {ι : Type} [DecidableEq ι] (w : BudgetTables)
    (transactions : ι → BudgetTransaction) :
    (∀ es s, Runs.Run Locks.Step (Locks.State.start fun i => (transactions i).locks w) es s →
        ¬s.Stuck) ↔
      ∀ i j taskId, (transactions i).Admits w taskId → ¬(transactions j).Ends w taskId := by
  have hstuck := @Locks.stuck_iff_crossed ι BudgetLock _ fun i => (transactions i).locks w
  have hdistinct : ∀ {t taskId}, BudgetTransaction.Admits w taskId t → ¬t.Ends w taskId := by
    intro t taskId hadmits hends
    cases t with
    | reserve task role => exact hends
    | _ => exact hadmits
  constructor
  · intro hfree i j taskId hadmits hends
    have hij : i ≠ j := by
      rintro rfl
      exact hdistinct hadmits hends
    obtain ⟨es, s, hrun, hs⟩ := hstuck.2
      ⟨i, j, hij, BudgetTransaction.crossed_iff.2 ⟨taskId, Or.inl ⟨hadmits, hends⟩⟩⟩
    exact hfree es s hrun hs
  · intro hapart es s hrun hs
    obtain ⟨i, j, -, hcrossed⟩ := hstuck.1 ⟨es, s, hrun, hs⟩
    obtain ⟨taskId, ⟨h, h'⟩ | ⟨h, h'⟩⟩ := BudgetTransaction.crossed_iff.1 hcrossed
    · exact hapart i j taskId h h'
    · exact hapart j i taskId h h'

/-- One developer reservation of a task is open. -/
def openBuild : BudgetTables where
  budget := some { totalBudget := 100, reserved := 30 }
  reservations := [⟨⟨7⟩, "build", .developer, 20, 10⟩]
  tasks := [⟨"build", { budget := 60, reserved := 30 }, { budget := 40 }⟩]

/-- **A deadlock**: one worker settles the Developer reservation of a task while
another reserves a Repair call of it. -/
theorem budget_locks_stuck_on_task :
    ∃ es s, Runs.Run Locks.Step (Locks.State.start fun settling : Bool =>
      (if settling then BudgetTransaction.settle ⟨⟨7⟩, .developer, 20, 10⟩
        else .reserve "build" .repair).locks openBuild) es s ∧ s.Stuck := by
  refine Locks.stuck_iff_crossed.2 ⟨false, true, by decide, BudgetTransaction.crossed_iff.2
    ⟨"build", Or.inl ⟨⟨rfl, Or.inr rfl, _, List.mem_singleton_self _, rfl⟩,
      ⟨_, rfl, rfl, Or.inl rfl, by decide⟩⟩⟩⟩

end DevFlow
