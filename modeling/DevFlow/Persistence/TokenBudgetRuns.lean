/-
# Any order of budget transactions on one run

Workers reserve, settle and cancel, the launch records what the planner has used,
and the hierarchy of stage and task rows is created at some point.  Every one of
these transactions locks the run row before it writes, so they take effect one
after the other; that a refused `reserve` writes its status in a second
transaction is a step of its own.

`Reserved` and `Finished` say once what an accepted `reserve` and the end of a
reservation do to each table; the run row agrees with the reservations and with
the role rows after any steps (`Balanced`), and the stage and task rows agree with
the reservations as long as none of them was inserted while a reservation that it
should count was open (`Hierarchical`).
-/

import DevFlow.Library.Runs
import DevFlow.Persistence.TokenBudget

namespace DevFlow

/-- What `reserve` returns for the row that it inserts. -/
def ReservationRow.handle (row : ReservationRow) : TokenBudgetReservation :=
  ⟨row.reservationId, row.role, row.inputTokens, row.outputTokens⟩

namespace BudgetTables

variable {w w' : BudgetTables} {store : TokenBudgetStore}

theorem flush_eq_ok : w.flush = .ok w' ↔ w.Constraints ∧ w' = w := by
  simp only [flush, Raising.bind_eq_ok, Raising.raiseIf_eq_ok, Raising.pure_eq_ok, not_not]
  constructor
  · rintro ⟨-, hfits, heq⟩
    exact ⟨hfits, heq.symm⟩
  · rintro ⟨hfits, heq⟩
    exact ⟨⟨⟩, hfits, heq.symm⟩

/-- What is reserved and open. -/
def openReserved (w : BudgetTables) : ℕ :=
  (w.reservations.map ReservationRow.reserved).sum

/-- What is reserved and open for the roles of a stage. -/
def stageReserved (w : BudgetTables) (stage : TokenBudgetStage) : ℕ :=
  Tables.total (fun r => stageFor r.role = stage) ReservationRow.reserved w.reservations

/-- What is reserved and open for a task and a role. -/
def taskReserved (w : BudgetTables) (taskId : String) (role : AgentRole) : ℕ :=
  Tables.total (fun r => r.taskId = taskId ∧ r.role = role) ReservationRow.reserved w.reservations

/-- What the roles have used. -/
def roleTotal (w : BudgetTables) : ℕ :=
  (w.roleUsage.map RoleUsageRow.total).sum

/-- **What an accepted `reserve` did.** -/
structure Reserved (w : BudgetTables) (row : ReservationRow) (w' : BudgetTables) (default : ℕ) :
    Prop where
  within : (w.runRow default).usedTotal + (w.runRow default).reserved + row.reserved ≤
    (w.runRow default).totalBudget
  new : ∀ r ∈ w.reservations, r.reservationId ≠ row.reservationId
  budget : ∃ status, w'.budget = some { w.runRow default with
    reserved := (w.runRow default).reserved + row.reserved, status }
  reservations : w'.reservations = w.reservations ++ [row]
  roleUsage : w'.roleUsage = w.roleUsage
  stages : w'.stages = (w.reserveHierarchy row.taskId row.role row.reserved).stages
  tasks : w'.tasks = (w.reserveHierarchy row.taskId row.role row.reserved).tasks

theorem reserveTransaction_eq_ok {reservationId : UUID} {taskId : String} {role : AgentRole}
    {estimated maxOutput : ℤ} {reservation : TokenBudgetReservation}
    (h : w.reserveTransaction store reservationId taskId role estimated maxOutput =
      .ok (reservation, w')) :
    ∃ row : ReservationRow, row.reservationId = reservationId ∧ reservation = row.handle ∧
      w.Reserved row w' store.defaultTotalBudgetTokens := by
  simp only [reserveTransaction, Raising.bind_eq_ok, Raising.raiseIf_eq_ok, Raising.pure_eq_ok,
    flush_eq_ok, Prod.mk.injEq, not_lt, not_exists, not_and] at h
  obtain ⟨_, -, _, hwithin, _, hnew, _, ⟨-, rfl⟩, rfl, rfl⟩ := h
  exact ⟨⟨reservationId, taskId, role, _, _⟩, rfl, rfl, hwithin, hnew, ⟨_, rfl⟩, rfl, rfl, rfl, rfl⟩

/-- **What the end of an open reservation did**: `total` tokens were charged to the
role `charged`, or nothing when it was cancelled. -/
structure Finished (w : BudgetTables) (row : ReservationRow) (total : ℕ) (w' : BudgetTables) :
    Prop where
  opened : row ∈ w.reservations
  budget : ∃ b b', w.budget = some b ∧ w'.budget = some b' ∧ b'.totalBudget = b.totalBudget ∧
    b'.reserved = b.reserved - row.reserved ∧ b'.usedTotal = b.usedTotal + total
  reservations : w'.reservations =
    Tables.delete ReservationRow.reservationId row.reservationId w.reservations
  roleUsage : (total = 0 ∧ w'.roleUsage = w.roleUsage) ∨ ∃ excluded : RoleUsageRow,
    excluded.total = total ∧
      w'.roleUsage = Tables.upsert RoleUsageRow.role excluded excluded.add w.roleUsage
  stages : ∃ prompt, w'.stages =
    (w.settleHierarchy row.taskId row.role row.reserved total prompt).stages
  tasks : ∃ prompt, w'.tasks =
    (w.settleHierarchy row.taskId row.role row.reserved total prompt).tasks

/-- The total that `_actual_usage` charges. -/
def charge (usage : Option TokenUsage) (reservation : TokenBudgetReservation) : ℕ :=
  (actualUsage usage reservation).1 + (actualUsage usage reservation).2

/-- **The end of a reservation**: it was closed already and nothing changed, or it was
open and `Finished`. -/
theorem finishReservation_eq_ok {reservation : TokenBudgetReservation} {usage : Option TokenUsage}
    (h : w.finishReservation reservation usage = .ok w') :
    ((∀ r ∈ w.reservations, r.reservationId ≠ reservation.reservationId) ∧ w' = w) ∨
      ∃ row, row.reservationId = reservation.reservationId ∧
        w.Finished row (charge usage reservation) w' := by
  unfold finishReservation at h
  split at h
  · rename_i hfind
    exact Or.inl ⟨Tables.find?_eq_none.1 hfind, (Raising.pure_eq_ok.1 h).symm⟩
  · rename_i row hfind
    have hrow := List.mem_of_find?_eq_some hfind
    have hid : row.reservationId = reservation.reservationId := by
      simpa using List.find?_some hfind
    split at h
    · cases h
    · rename_i budget hbudget
      obtain ⟨-, rfl⟩ := flush_eq_ok.1 h
      refine Or.inr ⟨row, hid, hrow, ?_, ?_, ?_, ?_, ?_⟩
      · refine ⟨budget, { budget with
            reserved := budget.reserved - row.reserved
            usedPrompt := budget.usedPrompt + (actualUsage usage reservation).1
            usedCompletion := budget.usedCompletion + (actualUsage usage reservation).2
            usedTotal := budget.usedTotal + charge usage reservation
            status := statusFor (budget.usedTotal + charge usage reservation)
              budget.totalBudget }, hbudget, ?_, rfl, rfl, rfl⟩
        split_ifs <;> rfl
      · show Tables.delete _ reservation.reservationId _ = _
        rw [hid]
      · by_cases hnone : usage = none
        · refine Or.inl ⟨by rw [hnone]; rfl, ?_⟩
          simp only [if_pos hnone]
          rfl
        · refine Or.inr ⟨RoleUsageRow.first reservation.role (actualUsage usage reservation).1
            (actualUsage usage reservation).2 (charge usage reservation), rfl, ?_⟩
          simp only [if_neg hnone]
          rfl
      · refine ⟨(actualUsage usage reservation).1, ?_⟩
        split_ifs <;> rfl
      · refine ⟨(actualUsage usage reservation).1, ?_⟩
        split_ifs <;> rfl

/-- **A reservation that is closed stays as it is**, settled or cancelled again. -/
theorem finishReservation_of_closed {reservation : TokenBudgetReservation}
    (h : ∀ r ∈ w.reservations, r.reservationId ≠ reservation.reservationId)
    (usage : Option TokenUsage) : w.finishReservation reservation usage = .ok w := by
  unfold finishReservation
  rw [Tables.find?_eq_none.2 h]
  rfl

/-- What `record_usage` did. -/
theorem recordUsage_eq_ok {role : AgentRole} {usage : TokenUsage}
    (h : w.recordUsage role usage = .ok w') :
    (∀ b, w.budget = some b → ∃ b', w'.budget = some b' ∧ b'.totalBudget = b.totalBudget ∧
        b'.reserved = b.reserved ∧ b'.usedTotal = b.usedTotal + usage.totalTokens) ∧
      w'.reservations = w.reservations ∧ w'.tasks = w.tasks ∧
      w'.stages = Tables.amend StageBudgetRow.stage (stageFor role)
        (fun row => { row with used := row.used + usage.totalTokens }) w.stages ∧
      ∃ excluded : RoleUsageRow, excluded.total = usage.totalTokens ∧
        w'.roleUsage = Tables.upsert RoleUsageRow.role excluded excluded.add w.roleUsage := by
  unfold recordUsage at h
  obtain ⟨-, rfl⟩ := flush_eq_ok.1 h
  refine ⟨fun b hb => ?_, rfl, rfl, rfl, _, rfl, rfl⟩
  simp only [chargeRole, hb, Option.map_some]
  exact ⟨_, rfl, rfl, rfl, rfl⟩

/-- What `initialize_hierarchy` did: nothing, or new rows that reserve nothing. -/
theorem initializeHierarchy_eq_ok {packages : List Package}
    (h : w.initializeHierarchy store packages = .ok w') :
    w' = w ∨ packages ≠ [] ∧
      w'.budget = some (w.runRow store.defaultTotalBudgetTokens) ∧
      w'.reservations = w.reservations ∧ w'.roleUsage = w.roleUsage ∧
      w'.tasks = (packages.map Package.row).foldl (Tables.insertNew TaskBudgetRow.taskId) w.tasks ∧
      ∃ total, w'.stages =
        (stageRows total).foldl (Tables.insertNew StageBudgetRow.stage) w.stages := by
  unfold initializeHierarchy at h
  split_ifs at h with hempty
  · exact Or.inl (Raising.pure_eq_ok.1 h).symm
  · obtain ⟨-, rfl⟩ := flush_eq_ok.1 h
    exact Or.inr ⟨hempty, rfl, rfl, rfl, rfl, _, rfl⟩

/-! ## The run row -/

/-- **The run row agrees with the reservations and with the role rows.** -/
structure Balanced (w : BudgetTables) : Prop where
  ids : Tables.Keyed ReservationRow.reservationId w.reservations
  roles : Tables.Keyed RoleUsageRow.role w.roleUsage
  run : ∃ b, w.budget = some b ∧ b.reserved = w.openReserved ∧ b.usedTotal = w.roleTotal

/-- No open reservation is more than the run row has reserved. -/
theorem Balanced.reserved_le (h : w.Balanced) {b : RunBudgetRow} (hb : w.budget = some b)
    {row : ReservationRow} (hrow : row ∈ w.reservations) : row.reserved ≤ b.reserved := by
  obtain ⟨b', hb', hreserved, -⟩ := h.run
  obtain rfl := Option.some.inj (hb.symm.trans hb')
  rw [hreserved, openReserved, ← Tables.total_true]
  exact Tables.le_total hrow trivial

theorem openReserved_append {row : ReservationRow}
    (h : w'.reservations = w.reservations ++ [row]) :
    w'.openReserved = w.openReserved + row.reserved := by
  unfold openReserved
  rw [h, List.map_append, List.sum_append]
  simp

theorem openReserved_delete (hids : Tables.Keyed ReservationRow.reservationId w.reservations)
    {row : ReservationRow} (hrow : row ∈ w.reservations) (h : w'.reservations =
      Tables.delete ReservationRow.reservationId row.reservationId w.reservations) :
    w'.openReserved + row.reserved = w.openReserved := by
  unfold openReserved
  have hdelete := hids.total_delete (p := fun _ => True) (g := ReservationRow.reserved) hrow
  rw [if_pos trivial, Tables.total_true, Tables.total_true] at hdelete
  rw [h]
  exact hdelete

/-- A charge to a role moves the sum of the role rows by what it adds. -/
theorem roleTotal_upsert (hroles : Tables.Keyed RoleUsageRow.role w.roleUsage)
    {excluded : RoleUsageRow} (h : w'.roleUsage =
      Tables.upsert RoleUsageRow.role excluded excluded.add w.roleUsage) :
    Tables.Keyed RoleUsageRow.role w'.roleUsage ∧
      w'.roleTotal = w.roleTotal + excluded.total := by
  rw [h]
  refine ⟨hroles.upsert fun _ _ => rfl, ?_⟩
  unfold roleTotal
  rw [h]
  exact hroles.sum_upsert RoleUsageRow.total fun _ => rfl

/-- **An accepted `reserve` keeps the balance.** -/
theorem Reserved.balanced {row : ReservationRow} {default : ℕ} (h : w.Reserved row w' default)
    (hw : w.Balanced) : w'.Balanced := by
  obtain ⟨b, hb, hreserved, hused⟩ := hw.run
  have hrow : w.runRow default = b := by rw [runRow, hb]; rfl
  obtain ⟨status, hbudget⟩ := h.budget
  rw [hrow] at hbudget
  refine ⟨?_, ?_, _, hbudget, ?_, ?_⟩
  · rw [h.reservations]
    exact hw.ids.append h.new
  · rw [h.roleUsage]
    exact hw.roles
  · rw [openReserved_append h.reservations, ← hreserved]
  · show b.usedTotal = w'.roleTotal
    rw [hused, roleTotal, roleTotal, h.roleUsage]

/-- **The end of a reservation keeps the balance.** -/
theorem Finished.balanced {row : ReservationRow} {total : ℕ} (h : w.Finished row total w')
    (hw : w.Balanced) : w'.Balanced := by
  obtain ⟨b, b', hb, hb', -, hreserved', hused'⟩ := h.budget
  obtain ⟨b₀, hb₀, hreserved, hused⟩ := hw.run
  obtain rfl := Option.some.inj (hb.symm.trans hb₀)
  have hsum := openReserved_delete hw.ids h.opened h.reservations
  have hroles : Tables.Keyed RoleUsageRow.role w'.roleUsage ∧
      w'.roleTotal = w.roleTotal + total := by
    rcases h.roleUsage with ⟨rfl, hsame⟩ | ⟨excluded, rfl, hupsert⟩
    · unfold roleTotal
      rw [hsame]
      exact ⟨hw.roles, rfl⟩
    · exact roleTotal_upsert hw.roles hupsert
  refine ⟨?_, hroles.1, b', hb', ?_, ?_⟩
  · rw [h.reservations]
    exact hw.ids.delete _
  · omega
  · rw [hroles.2, hused', hused]

/-- **Recorded usage keeps the balance.** -/
theorem recordUsage_balanced {role : AgentRole} {usage : TokenUsage}
    (h : w.recordUsage role usage = .ok w') (hw : w.Balanced) : w'.Balanced := by
  obtain ⟨b, hb, hreserved, hused⟩ := hw.run
  obtain ⟨hbudget, hreservations, -, -, excluded, htotal, hupsert⟩ := recordUsage_eq_ok h
  obtain ⟨b', hb', -, hreserved', hused'⟩ := hbudget b hb
  obtain ⟨hkeyed, hsum⟩ := roleTotal_upsert hw.roles hupsert
  refine ⟨hreservations ▸ hw.ids, hkeyed, b', hb', ?_, ?_⟩
  · rw [hreserved', hreserved, openReserved, openReserved, hreservations]
  · rw [hused', hused, hsum, htotal]

/-! ## The stage rows and the task rows -/

/-- **The stage rows and the task rows agree with the reservations.** -/
structure Hierarchical (w : BudgetTables) : Prop where
  ids : Tables.Keyed ReservationRow.reservationId w.reservations
  stages : ∀ s ∈ w.stages, s.reserved = w.stageReserved s.stage
  tasks : ∀ t ∈ w.tasks, t.developer.reserved = w.taskReserved t.taskId .developer ∧
    t.repair.reserved = w.taskReserved t.taskId .repair

/-- An insert moves what is reserved for a stage by its row, or not at all. -/
theorem stageReserved_append {row : ReservationRow}
    (h : w'.reservations = w.reservations ++ [row]) (stage : TokenBudgetStage) :
    w'.stageReserved stage =
      w.stageReserved stage + if stageFor row.role = stage then row.reserved else 0 := by
  unfold stageReserved
  rw [h]
  exact Tables.total_append

theorem taskReserved_append {row : ReservationRow}
    (h : w'.reservations = w.reservations ++ [row]) (taskId : String) (role : AgentRole) :
    w'.taskReserved taskId role = w.taskReserved taskId role +
      if row.taskId = taskId ∧ row.role = role then row.reserved else 0 := by
  unfold taskReserved
  rw [h]
  exact Tables.total_append

theorem stageReserved_delete (hids : Tables.Keyed ReservationRow.reservationId w.reservations)
    {row : ReservationRow} (hrow : row ∈ w.reservations) (h : w'.reservations =
      Tables.delete ReservationRow.reservationId row.reservationId w.reservations)
    (stage : TokenBudgetStage) :
    w'.stageReserved stage + (if stageFor row.role = stage then row.reserved else 0) =
      w.stageReserved stage := by
  unfold stageReserved
  rw [h]
  exact hids.total_delete hrow

theorem taskReserved_delete (hids : Tables.Keyed ReservationRow.reservationId w.reservations)
    {row : ReservationRow} (hrow : row ∈ w.reservations) (h : w'.reservations =
      Tables.delete ReservationRow.reservationId row.reservationId w.reservations)
    (taskId : String) (role : AgentRole) :
    w'.taskReserved taskId role +
        (if row.taskId = taskId ∧ row.role = role then row.reserved else 0) =
      w.taskReserved taskId role := by
  unfold taskReserved
  rw [h]
  exact hids.total_delete hrow

/-- **An accepted `reserve` adds its row to its stage and to its task.** -/
theorem Reserved.hierarchical {row : ReservationRow} {default : ℕ}
    (h : w.Reserved row w' default) (hw : w.Hierarchical) : w'.Hierarchical := by
  refine ⟨?_, fun s hs => ?_, fun t ht => ?_⟩
  · rw [h.reservations]
    exact hw.ids.append h.new
  · rw [h.stages] at hs
    obtain ⟨s₀, hs₀, ⟨hkey, rfl⟩ | ⟨hkey, rfl⟩⟩ := Tables.mem_amend.1 hs
    · show s₀.reserved + row.reserved = w'.stageReserved s₀.stage
      rw [stageReserved_append h.reservations, if_pos hkey.symm, hw.stages s₀ hs₀]
    · rw [stageReserved_append h.reservations, if_neg (Ne.symm hkey), hw.stages s hs₀, Nat.add_zero]
  · rw [h.tasks] at ht
    obtain ⟨t₀, ht₀, ⟨hkey, rfl⟩ | ⟨hkey, rfl⟩⟩ := Tables.mem_amend.1 ht
    · obtain ⟨hdeveloper, hrepair⟩ := hw.tasks t₀ ht₀
      cases hrole : row.role <;>
        simp [TaskBudgetRow.mapShare, taskReserved_append h.reservations, hrole, hkey, hdeveloper,
          hrepair]
    · obtain ⟨hdeveloper, hrepair⟩ := hw.tasks t ht₀
      have hother : ¬row.taskId = t.taskId := Ne.symm hkey
      simp [taskReserved_append h.reservations, hother, hdeveloper, hrepair]

/-- **The end of a reservation takes its row off its stage and its task.** -/
theorem Finished.hierarchical {row : ReservationRow} {total : ℕ} (h : w.Finished row total w')
    (hw : w.Hierarchical) : w'.Hierarchical := by
  refine ⟨?_, fun s hs => ?_, fun t ht => ?_⟩
  · rw [h.reservations]
    exact hw.ids.delete _
  · obtain ⟨prompt, hstages⟩ := h.stages
    rw [hstages] at hs
    obtain ⟨s₀, hs₀, ⟨hkey, rfl⟩ | ⟨hkey, rfl⟩⟩ := Tables.mem_amend.1 hs
    · have hdelete := stageReserved_delete hw.ids h.opened h.reservations s₀.stage
      have hagree := hw.stages s₀ hs₀
      rw [if_pos hkey.symm] at hdelete
      show s₀.reserved - row.reserved = w'.stageReserved s₀.stage
      omega
    · have hdelete := stageReserved_delete hw.ids h.opened h.reservations s.stage
      have hagree := hw.stages s hs₀
      rw [if_neg (Ne.symm hkey)] at hdelete
      omega
  · obtain ⟨prompt, htasks⟩ := h.tasks
    rw [htasks] at ht
    obtain ⟨t₀, ht₀, ⟨hkey, rfl⟩ | ⟨hkey, rfl⟩⟩ := Tables.mem_amend.1 ht
    · have hdeveloper := taskReserved_delete hw.ids h.opened h.reservations t₀.taskId .developer
      have hrepair := taskReserved_delete hw.ids h.opened h.reservations t₀.taskId .repair
      obtain ⟨hagree, hagree'⟩ := hw.tasks t₀ ht₀
      rw [hkey] at hagree hagree'
      cases hrole : row.role <;> simp [hrole, hkey] at hdeveloper hrepair <;>
        simp only [TaskBudgetRow.mapShare, hkey] <;> omega
    · have hdeveloper := taskReserved_delete hw.ids h.opened h.reservations t.taskId .developer
      have hrepair := taskReserved_delete hw.ids h.opened h.reservations t.taskId .repair
      obtain ⟨hagree, hagree'⟩ := hw.tasks t ht₀
      have hother : ¬row.taskId = t.taskId := Ne.symm hkey
      simp [hother] at hdeveloper hrepair
      omega

theorem recordUsage_hierarchical {role : AgentRole} {usage : TokenUsage}
    (h : w.recordUsage role usage = .ok w') (hw : w.Hierarchical) : w'.Hierarchical := by
  obtain ⟨-, hreservations, htasks, hstages, -⟩ := recordUsage_eq_ok h
  refine ⟨hreservations ▸ hw.ids, fun s hs => ?_, fun t ht => ?_⟩
  · unfold stageReserved
    rw [hreservations]
    rw [hstages] at hs
    obtain ⟨s₀, hs₀, ⟨-, rfl⟩ | ⟨-, rfl⟩⟩ := Tables.mem_amend.1 hs
    · exact hw.stages s₀ hs₀
    · exact hw.stages s hs₀
  · unfold taskReserved
    rw [hreservations]
    exact hw.tasks t (htasks ▸ ht)

/-- **No row that `initialize_hierarchy` is about to insert has an open reservation
to count**: the stage of every open reservation is there, and so is its task if it
is one of the packages. -/
def Quiet (w : BudgetTables) (packages : List Package) : Prop :=
  packages ≠ [] → ∀ r ∈ w.reservations, (∃ s ∈ w.stages, s.stage = stageFor r.role) ∧
    (r.role = .developer ∨ r.role = .repair → r.taskId ∈ packages.map Package.taskId →
      ∃ t ∈ w.tasks, t.taskId = r.taskId)

/-- A new stage row reserves nothing. -/
theorem stageRows_reserved {total : ℕ} {s : StageBudgetRow} (h : s ∈ stageRows total) :
    s.reserved = 0 := by
  simp only [stageRows, List.mem_cons, List.not_mem_nil, or_false] at h
  rcases h with rfl | rfl | rfl | rfl | rfl <;> rfl

/-- **Rows that are inserted while nothing they count is open agree.** -/
theorem initializeHierarchy_hierarchical {packages : List Package}
    (h : w.initializeHierarchy store packages = .ok w') (hquiet : w.Quiet packages)
    (hw : w.Hierarchical) : w'.Hierarchical := by
  rcases initializeHierarchy_eq_ok h with rfl | ⟨hne, -, hreservations, -, htasks, total, hstages⟩
  · exact hw
  · have hopen := hquiet hne
    refine ⟨hreservations ▸ hw.ids, fun s hs => ?_, fun t ht => ?_⟩
    · unfold stageReserved
      rw [hreservations]
      rw [hstages] at hs
      rcases Tables.mem_foldl_insertNew hs with hold | ⟨hnew, hkeys⟩
      · exact hw.stages s hold
      · rw [stageRows_reserved hnew, Tables.total_eq_zero]
        intro r hr heq
        obtain ⟨s', hs', hstage⟩ := (hopen r hr).1
        exact hkeys s' hs' (hstage.trans heq)
    · unfold taskReserved
      rw [hreservations]
      rw [htasks] at ht
      rcases Tables.mem_foldl_insertNew ht with hold | ⟨hnew, hkeys⟩
      · exact hw.tasks t hold
      · obtain ⟨package, hpackage, rfl⟩ := List.mem_map.1 hnew
        have hnone : ∀ role, role = .developer ∨ role = .repair → ∀ r ∈ w.reservations,
            ¬(r.taskId = package.taskId ∧ r.role = role) := by
          rintro role hrole r hr ⟨htask, rfl⟩
          have hmember : r.taskId ∈ packages.map Package.taskId := by
            rw [htask]
            exact List.mem_map_of_mem hpackage
          obtain ⟨t', ht', htask'⟩ := (hopen r hr).2 hrole hmember
          exact hkeys t' ht' (htask'.trans htask)
        refine ⟨?_, ?_⟩
        · exact (Tables.total_eq_zero (hnone .developer (Or.inl rfl))).symm
        · exact (Tables.total_eq_zero (hnone .repair (Or.inr rfl))).symm

end BudgetTables

/-! ## The system -/

/-- The tables of a run and the reservations that its callers were handed. -/
structure BudgetWorld where
  tables : BudgetTables := {}
  issued : List TokenBudgetReservation := []
deriving DecidableEq, Repr

/-- A transaction of the store.  The calibration of a `reserve` is the one of its
own moment, and the status that a refused one leaves behind is written by
`persistRunExhaustedStatus`. -/
inductive BudgetCall
  | initializeRun (totalBudgetTokens : Option ℕ)
  | initializeHierarchy (packages : List BudgetTables.Package)
  | reserve (calibration : String → AgentRole → ℕ → ℕ → ℕ) (reservationId : UUID)
      (taskId : String) (role : AgentRole) (estimatedInputTokens maxOutputTokens : ℤ)
  | persistRunExhaustedStatus
  | settle (reservation : TokenBudgetReservation) (usage : TokenUsage)
  | cancel (reservation : TokenBudgetReservation)
  | recordUsage (role : AgentRole) (usage : TokenUsage)

namespace BudgetWorld

/-- A raised error rolls the tables back. -/
def commit (w : BudgetWorld) : Except Failure BudgetTables → Except Failure Unit × BudgetWorld
  | .ok tables => (.ok (), { w with tables })
  | .error failure => (.error failure, w)

end BudgetWorld

/-- One transaction, for the store's `default_total_budget_tokens`.  `uuid4()` does
not repeat a reservation id, and a caller settles or cancels what it was handed. -/
def BudgetCall.perform (default : ℕ) (w : BudgetWorld) :
    BudgetCall → Option (Except Failure Unit × BudgetWorld)
  | .initializeRun total =>
    some (w.commit (w.tables.initializeRun ⟨default, fun _ _ _ estimate => estimate⟩ total))
  | .initializeHierarchy packages =>
    some (w.commit
      (w.tables.initializeHierarchy ⟨default, fun _ _ _ estimate => estimate⟩ packages))
  | .reserve calibration reservationId taskId role estimated maxOutput =>
    if ∃ reservation ∈ w.issued, reservation.reservationId = reservationId then none
    else
      match w.tables.reserveTransaction ⟨default, calibration⟩ reservationId taskId role estimated
          maxOutput with
      | .ok (reservation, tables) =>
        some (.ok (), { tables, issued := w.issued ++ [reservation] })
      | .error failure => some (.error failure, w)
  | .persistRunExhaustedStatus =>
    some (.ok (), { w with tables := w.tables.persistRunExhaustedStatus })
  | .settle reservation usage =>
    if reservation ∈ w.issued then some (w.commit (w.tables.settle reservation usage)) else none
  | .cancel reservation =>
    if reservation ∈ w.issued then some (w.commit (w.tables.cancel reservation)) else none
  | .recordUsage role usage => some (w.commit (w.tables.recordUsage role usage))

/-- The transition system. -/
def budgetStep (default : ℕ) (w : BudgetWorld) (call : BudgetCall) (answer : Except Failure Unit)
    (w' : BudgetWorld) : Prop :=
  call.perform default w = some (answer, w')

/-- A step with the tables around it. -/
abbrev BudgetEvent :=
  Runs.Event BudgetWorld BudgetCall (Except Failure Unit)

/-- The reservation that a call ends, and the usage that it reports. -/
def BudgetCall.finishes : BudgetCall → Option (TokenBudgetReservation × Option TokenUsage)
  | .settle reservation usage => some (reservation, some usage)
  | .cancel reservation => some (reservation, none)
  | _ => none

/-- What a call records without a reservation. -/
def BudgetCall.recorded : BudgetCall → ℕ
  | .recordUsage _ usage => usage.totalTokens
  | _ => 0

/-- What an event recorded without a reservation. -/
def BudgetEvent.recorded (e : BudgetEvent) : ℕ :=
  match e.output with
  | .error _ => 0
  | .ok () => e.input.recorded

/-- The usage that an event accounted for: the charge of a reservation that was
open, or what was recorded. -/
def BudgetEvent.accounted (e : BudgetEvent) : ℕ :=
  match e.output with
  | .error _ => 0
  | .ok () =>
    match e.input.finishes with
    | some (reservation, usage) =>
      if ∃ r ∈ e.before.tables.reservations, r.reservationId = reservation.reservationId then
        BudgetTables.charge usage reservation
      else 0
    | none => e.input.recorded

/-- **What a step can do.** -/
inductive BudgetMove (default : ℕ) (w : BudgetWorld) :
    BudgetCall → Except Failure Unit → BudgetWorld → Prop
  | refused {call : BudgetCall} {failure : Failure} : BudgetMove default w call (.error failure) w
  | opened {total : Option ℕ} (budget : ℕ) :
      BudgetMove default w (.initializeRun total) (.ok ())
        { w with tables := { w.tables with budget := some (w.tables.runRow budget) } }
  | planned {packages : List BudgetTables.Package} {store : TokenBudgetStore}
      {tables : BudgetTables} (h : w.tables.initializeHierarchy store packages = .ok tables) :
      BudgetMove default w (.initializeHierarchy packages) (.ok ()) { w with tables }
  | reserved {calibration : String → AgentRole → ℕ → ℕ → ℕ} {reservationId : UUID}
      {taskId : String} {role : AgentRole} {estimated maxOutput : ℤ} {row : ReservationRow}
      {tables : BudgetTables} (new : ∀ r ∈ w.issued, r.reservationId ≠ row.reservationId)
      (h : w.tables.Reserved row tables default) :
      BudgetMove default w
        (.reserve calibration reservationId taskId role estimated maxOutput) (.ok ())
        { tables, issued := w.issued ++ [row.handle] }
  | marked : BudgetMove default w .persistRunExhaustedStatus (.ok ())
      { w with tables := w.tables.persistRunExhaustedStatus }
  | closed {call : BudgetCall} {reservation : TokenBudgetReservation} {usage : Option TokenUsage}
      (hcall : call.finishes = some (reservation, usage))
      (h : ∀ r ∈ w.tables.reservations, r.reservationId ≠ reservation.reservationId) :
      BudgetMove default w call (.ok ()) w
  | finished {call : BudgetCall} {reservation : TokenBudgetReservation}
      {usage : Option TokenUsage} {row : ReservationRow} {tables : BudgetTables}
      (hcall : call.finishes = some (reservation, usage)) (held : reservation ∈ w.issued)
      (hid : row.reservationId = reservation.reservationId)
      (h : w.tables.Finished row (BudgetTables.charge usage reservation) tables) :
      BudgetMove default w call (.ok ()) { w with tables }
  | recorded {role : AgentRole} {usage : TokenUsage} {tables : BudgetTables}
      (h : w.tables.recordUsage role usage = .ok tables) :
      BudgetMove default w (.recordUsage role usage) (.ok ()) { w with tables }

section

variable {default : ℕ} {w w' : BudgetWorld} {call : BudgetCall} {answer : Except Failure Unit}

theorem BudgetWorld.commit_eq {result : Except Failure BudgetTables}
    (h : w.commit result = (answer, w')) :
    (∃ failure, answer = .error failure ∧ w' = w) ∨
      ∃ tables, result = .ok tables ∧ answer = .ok () ∧ w' = { w with tables } := by
  cases result with
  | error failure =>
    obtain ⟨rfl, rfl⟩ := Prod.mk.inj h
    exact Or.inl ⟨failure, rfl, rfl⟩
  | ok tables =>
    obtain ⟨rfl, rfl⟩ := Prod.mk.inj h
    exact Or.inr ⟨tables, rfl, rfl, rfl⟩

/-- The end of a reservation, as a step. -/
theorem budgetMove_finish {reservation : TokenBudgetReservation} {usage : Option TokenUsage}
    (hcall : call.finishes = some (reservation, usage)) (held : reservation ∈ w.issued)
    (h : w.commit (w.tables.finishReservation reservation usage) = (answer, w')) :
    BudgetMove default w call answer w' := by
  rcases BudgetWorld.commit_eq h with ⟨failure, rfl, rfl⟩ | ⟨tables, hfinish, rfl, rfl⟩
  · exact .refused
  · rcases BudgetTables.finishReservation_eq_ok hfinish with ⟨hclosed, rfl⟩ | ⟨row, hid, hdone⟩
    · exact .closed hcall hclosed
    · exact .finished hcall held hid hdone

/-- **Every step is one of the moves.** -/
theorem budgetStep_moves (h : budgetStep default w call answer w') :
    BudgetMove default w call answer w' := by
  unfold budgetStep BudgetCall.perform at h
  cases call with
  | initializeRun total =>
    rcases BudgetWorld.commit_eq (Option.some.inj h) with
      ⟨failure, rfl, rfl⟩ | ⟨tables, hresult, rfl, rfl⟩
    · exact .refused
    · obtain ⟨-, rfl⟩ := BudgetTables.flush_eq_ok.1 hresult
      exact .opened _
  | initializeHierarchy packages =>
    rcases BudgetWorld.commit_eq (Option.some.inj h) with
      ⟨failure, rfl, rfl⟩ | ⟨tables, hresult, rfl, rfl⟩
    · exact .refused
    · exact .planned hresult
  | reserve calibration reservationId taskId role estimated maxOutput =>
    simp only at h
    split_ifs at h with hissued
    split at h
    · rename_i reservation tables hresult
      obtain ⟨rfl, rfl⟩ := Prod.mk.inj (Option.some.inj h)
      obtain ⟨row, rfl, rfl, hreserved⟩ := BudgetTables.reserveTransaction_eq_ok hresult
      exact .reserved (fun r hr heq => hissued ⟨r, hr, heq⟩) hreserved
    · obtain ⟨rfl, rfl⟩ := Prod.mk.inj (Option.some.inj h)
      exact .refused
  | persistRunExhaustedStatus =>
    obtain ⟨rfl, rfl⟩ := Prod.mk.inj (Option.some.inj h)
    exact .marked
  | settle reservation usage =>
    simp only at h
    split_ifs at h with hheld
    exact budgetMove_finish rfl hheld (Option.some.inj h)
  | cancel reservation =>
    simp only at h
    split_ifs at h with hheld
    exact budgetMove_finish rfl hheld (Option.some.inj h)
  | recordUsage role usage =>
    rcases BudgetWorld.commit_eq (Option.some.inj h) with
      ⟨failure, rfl, rfl⟩ | ⟨tables, hresult, rfl, rfl⟩
    · exact .refused
    · exact .recorded hresult

/-! ## The hierarchy over whole runs -/

/-- **A move keeps the stage and task rows in agreement**, when rows are inserted
in quiet. -/
theorem BudgetMove.hierarchical (h : BudgetMove default w call answer w')
    (hquiet : ∀ packages, call = .initializeHierarchy packages → w.tables.Quiet packages)
    (hw : w.tables.Hierarchical) : w'.tables.Hierarchical := by
  cases h with
  | refused => exact hw
  | opened budget => exact ⟨hw.ids, hw.stages, hw.tasks⟩
  | planned h => exact BudgetTables.initializeHierarchy_hierarchical h (hquiet _ rfl) hw
  | reserved _ h => exact h.hierarchical hw
  | marked => exact ⟨hw.ids, hw.stages, hw.tasks⟩
  | closed => exact hw
  | finished _ _ _ h => exact h.hierarchical hw
  | recorded h => exact BudgetTables.recordUsage_hierarchical h hw

theorem hierarchical_run {w₀ w : BudgetWorld} {es : List BudgetEvent}
    (h₀ : w₀.tables.Hierarchical) (hrun : Runs.Run (budgetStep default) w₀ es w)
    (hquiet : ∀ e ∈ es, ∀ packages, e.input = .initializeHierarchy packages →
      e.before.tables.Quiet packages) : w.tables.Hierarchical :=
  hrun.invariant_of_forall (I := fun w => w.tables.Hierarchical)
    (fun _ _ _ _ hI hP hstep => (budgetStep_moves hstep).hierarchical hP hI) hquiet h₀

/-! ## Conservation -/

/-- The callers hold one reservation for each id, and the one of every open row. -/
structure BudgetWorld.Held (w : BudgetWorld) : Prop where
  ids : Tables.Keyed TokenBudgetReservation.reservationId w.issued
  rows : ∀ row ∈ w.tables.reservations, row.handle ∈ w.issued

theorem BudgetMove.held (h : BudgetMove default w call answer w') (hw : w.Held) : w'.Held := by
  cases h with
  | refused => exact hw
  | opened budget => exact ⟨hw.ids, hw.rows⟩
  | planned h =>
    rcases BudgetTables.initializeHierarchy_eq_ok h with rfl | ⟨-, -, hreservations, -⟩
    · exact hw
    · exact ⟨hw.ids, fun row hrow => hw.rows row (hreservations ▸ hrow)⟩
  | reserved new h =>
    refine ⟨hw.ids.append new, fun r hr => ?_⟩
    rw [h.reservations] at hr
    rcases List.mem_append.1 hr with hold | hnew
    · exact List.mem_append_left _ (hw.rows r hold)
    · rw [List.mem_singleton.1 hnew]
      exact List.mem_append_right _ (List.mem_singleton_self _)
  | marked => exact ⟨hw.ids, hw.rows⟩
  | closed => exact hw
  | finished _ _ _ h =>
    refine ⟨hw.ids, fun r hr => hw.rows r ?_⟩
    rw [h.reservations] at hr
    exact (Tables.mem_delete.1 hr).1
  | recorded h =>
    obtain ⟨-, hreservations, -⟩ := BudgetTables.recordUsage_eq_ok h
    exact ⟨hw.ids, fun row hrow => hw.rows row (hreservations ▸ hrow)⟩

/-- An open row that a caller ends reserves what the caller was handed. -/
theorem BudgetWorld.Held.reserved_eq (hw : w.Held) {row : ReservationRow}
    (hrow : row ∈ w.tables.reservations) {reservation : TokenBudgetReservation}
    (held : reservation ∈ w.issued) (hid : row.reservationId = reservation.reservationId) :
    row.reserved = reservation.reservedInputTokens + reservation.reservedOutputTokens := by
  have hsame : row.handle = reservation := hw.ids.eq_of_key (hw.rows row hrow) held hid
  rw [← hsame]
  rfl

/-- A reported usage that is at most its reservation. -/
def BudgetCall.Within : BudgetCall → Prop
  | .settle reservation usage => usage.promptTokens + usage.completionTokens ≤
      reservation.reservedInputTokens + reservation.reservedOutputTokens
  | _ => True

/-- A usage within its reservation is charged within it; one that reports nothing is
charged the whole reservation. -/
theorem BudgetCall.Within.charge_le {reservation : TokenBudgetReservation}
    {usage : Option TokenUsage} (h : call.Within)
    (hcall : call.finishes = some (reservation, usage)) :
    BudgetTables.charge usage reservation ≤
      reservation.reservedInputTokens + reservation.reservedOutputTokens := by
  cases call with
  | settle r u =>
    obtain ⟨rfl, rfl⟩ := Prod.mk.inj (Option.some.inj hcall)
    unfold BudgetTables.charge actualUsage
    simp only
    split_ifs
    · exact le_rfl
    · exact h
  | cancel r =>
    obtain ⟨rfl, rfl⟩ := Prod.mk.inj (Option.some.inj hcall)
    exact Nat.zero_le _
  | _ => cases hcall

/-- **A move keeps the balance of the run row.** -/
theorem BudgetMove.balanced (h : BudgetMove default w call answer w')
    (hw : w.tables.Balanced) : w'.tables.Balanced := by
  obtain ⟨b, hb, hreserved, hused⟩ := hw.run
  cases h with
  | refused => exact hw
  | opened budget =>
    refine ⟨hw.ids, hw.roles, b, ?_, hreserved, hused⟩
    simp only [BudgetTables.runRow, hb, Option.getD_some]
  | planned h =>
    rcases BudgetTables.initializeHierarchy_eq_ok h with
      rfl | ⟨-, hbudget, hreservations, hroles, -⟩
    · exact hw
    · refine ⟨hreservations ▸ hw.ids, hroles ▸ hw.roles, b, ?_, ?_, ?_⟩
      · rw [hbudget, BudgetTables.runRow, hb, Option.getD_some]
      · rw [hreserved, BudgetTables.openReserved, BudgetTables.openReserved, hreservations]
      · rw [hused, BudgetTables.roleTotal, BudgetTables.roleTotal, hroles]
  | reserved _ h => exact h.balanced hw
  | marked =>
    refine ⟨hw.ids, hw.roles, { b with status := .exhausted }, ?_, hreserved, hused⟩
    simp only [BudgetTables.persistRunExhaustedStatus, hb, Option.map_some]
  | closed => exact hw
  | finished _ _ _ h => exact h.balanced hw
  | recorded h => exact BudgetTables.recordUsage_balanced h hw

/-- **What a move does to the run row**: the total stays, the accounted usage is
added, and what is used and reserved grows by what was recorded, or up to the total.
-/
theorem BudgetMove.run_row (h : BudgetMove default w call answer w') (hw : w.tables.Balanced)
    (held : w.Held) {b : RunBudgetRow} (hb : w.tables.budget = some b) :
    ∃ b', w'.tables.budget = some b' ∧ b'.totalBudget = b.totalBudget ∧
      b'.usedTotal = b.usedTotal + BudgetEvent.accounted ⟨w, call, answer, w'⟩ ∧
      (call.Within → b'.usedTotal + b'.reserved ≤
          b.usedTotal + b.reserved + BudgetEvent.recorded ⟨w, call, answer, w'⟩ ∨
        b'.usedTotal + b'.reserved ≤ b.totalBudget) := by
  have hrow : ∀ total, w.tables.runRow total = b := fun total => by
    rw [BudgetTables.runRow, hb, Option.getD_some]
  cases h with
  | refused => exact ⟨b, hb, rfl, rfl, fun _ => Or.inl le_rfl⟩
  | opened budget => exact ⟨b, by simp only [hrow], rfl, rfl, fun _ => Or.inl le_rfl⟩
  | planned h =>
    refine ⟨b, ?_, rfl, rfl, fun _ => Or.inl le_rfl⟩
    rcases BudgetTables.initializeHierarchy_eq_ok h with rfl | ⟨-, hbudget, -⟩
    · exact hb
    · rw [hbudget, hrow]
  | reserved _ h =>
    obtain ⟨status, hbudget⟩ := h.budget
    have hwithin := h.within
    rw [hrow] at hbudget hwithin
    refine ⟨_, hbudget, rfl, rfl, fun _ => Or.inr ?_⟩
    show b.usedTotal + (b.reserved + _) ≤ b.totalBudget
    omega
  | marked =>
    refine ⟨{ b with status := .exhausted }, ?_, rfl, rfl, fun _ => Or.inl le_rfl⟩
    simp only [BudgetTables.persistRunExhaustedStatus, hb, Option.map_some]
  | closed hcall h =>
    refine ⟨b, hb, rfl, ?_, fun _ => Or.inl (Nat.le_add_right _ _)⟩
    have hnone : ¬∃ r ∈ w.tables.reservations, r.reservationId = _ :=
      fun ⟨r, hr, heq⟩ => h r hr heq
    simp only [BudgetEvent.accounted, hcall, if_neg hnone, Nat.add_zero]
  | finished hcall hheld hid h =>
    obtain ⟨b₀, b', hb₀, hb', htotal, hreserved, hused⟩ := h.budget
    obtain rfl := Option.some.inj (hb.symm.trans hb₀)
    have hopen : ∃ r ∈ w.tables.reservations, r.reservationId = _ := ⟨_, h.opened, hid⟩
    refine ⟨b', hb', htotal, ?_, fun hwithin => Or.inl ?_⟩
    · simp only [BudgetEvent.accounted, hcall, if_pos hopen, hused]
    · have hcharge := hwithin.charge_le hcall
      have hsize := held.reserved_eq h.opened hheld hid
      have hle := hw.reserved_le hb h.opened
      omega
  | recorded h =>
    obtain ⟨hbudget, -⟩ := BudgetTables.recordUsage_eq_ok h
    obtain ⟨b', hb', htotal, hreserved, hused⟩ := hbudget b hb
    refine ⟨b', hb', htotal, hused, fun _ => Or.inl ?_⟩
    show _ ≤ b.usedTotal + b.reserved + _
    simp only [BudgetEvent.recorded, BudgetCall.recorded]
    omega

/-- **The books of a run after the events so far.** -/
structure BudgetWorld.Conserved (es : List BudgetEvent) (w : BudgetWorld) : Prop where
  balanced : w.tables.Balanced
  held : w.Held
  row : ∃ b, w.tables.budget = some b ∧ b.usedTotal = (es.map BudgetEvent.accounted).sum ∧
    ((∀ e ∈ es, e.input.Within) →
      b.usedTotal + b.reserved ≤ b.totalBudget + (es.map BudgetEvent.recorded).sum)

theorem BudgetMove.conserved {es : List BudgetEvent} (h : BudgetMove default w call answer w')
    (hw : w.Conserved es) : w'.Conserved (es ++ [⟨w, call, answer, w'⟩]) := by
  obtain ⟨b, hb, hused, hbound⟩ := hw.row
  obtain ⟨b', hb', htotal, hused', hbound'⟩ := h.run_row hw.balanced hw.held hb
  refine ⟨h.balanced hw.balanced, h.held hw.held, b', hb', ?_, fun hwithin => ?_⟩
  · rw [hused', hused, List.map_append, List.sum_append, List.map_singleton,
      List.sum_singleton]
  · have hold := hbound fun e he => hwithin e (List.mem_append_left _ he)
    have hnew := hbound' (hwithin _ (List.mem_append_right _ (List.mem_singleton_self _)))
    rw [List.map_append, List.sum_append, List.map_singleton, List.sum_singleton]
    omega

end

/-- A run whose budget `_initialize_run_token_budget` has just created: the run row,
and the hierarchy or not. -/
def BudgetWorld.Opened (w : BudgetWorld) : Prop :=
  w.issued = [] ∧ ∃ store total tables, ({} : BudgetTables).initializeRun store total = .ok tables ∧
    (w.tables = tables ∨ ∃ packages, tables.initializeHierarchy store packages = .ok w.tables)

/-- The rows of a new budget count nothing. -/
theorem BudgetWorld.Opened.fresh {w : BudgetWorld} (h : w.Opened) :
    w.Conserved [] ∧ w.tables.Hierarchical := by
  obtain ⟨hissued, store, total, tables, hrun, hplan⟩ := h
  obtain ⟨-, rfl⟩ := BudgetTables.flush_eq_ok.1 hrun
  generalize (if total.getD 0 = 0 then store.defaultTotalBudgetTokens else total.getD 0) = budget
    at hplan
  have hempty : ∀ t : BudgetTables, t.reservations = [] → t.roleUsage = [] →
      t.budget = some { totalBudget := budget } → t.Balanced := by
    intro t hreservations hroles hbudget
    refine ⟨by rw [hreservations]; exact List.nodup_nil, by rw [hroles]; exact List.nodup_nil, _,
      hbudget, ?_, ?_⟩
    · rw [BudgetTables.openReserved, hreservations]; rfl
    · rw [BudgetTables.roleTotal, hroles]; rfl
  have hcounts : w.tables.budget = some { totalBudget := budget } ∧ w.tables.reservations = [] ∧
      w.tables.roleUsage = [] ∧ w.tables.Hierarchical := by
    have hbare : BudgetTables.Hierarchical { budget := some { totalBudget := budget } } :=
      ⟨List.nodup_nil, fun _ h => absurd h List.not_mem_nil, fun _ h => absurd h List.not_mem_nil⟩
    rcases hplan with heq | ⟨packages, hplan⟩
    · rw [heq]
      exact ⟨rfl, rfl, rfl, hbare⟩
    · have hkeep := BudgetTables.initializeHierarchy_hierarchical hplan
        (fun _ r hr => absurd hr List.not_mem_nil) hbare
      rcases BudgetTables.initializeHierarchy_eq_ok hplan with
        heq | ⟨-, hbudget, hreservations, hroles, -⟩
      · rw [heq] at hkeep ⊢
        exact ⟨rfl, rfl, rfl, hkeep⟩
      · exact ⟨hbudget, hreservations, hroles, hkeep⟩
  obtain ⟨hbudget, hreservations, hroles, hhierarchical⟩ := hcounts
  refine ⟨⟨hempty _ hreservations hroles hbudget, ⟨?_, ?_⟩, _, hbudget, rfl,
    fun _ => Nat.zero_le _⟩, hhierarchical⟩
  · rw [hissued]
    exact List.nodup_nil
  · rw [hreservations]
    exact fun row hrow => absurd hrow List.not_mem_nil

/-- **No clamp at zero changes a value**: whichever open reservation is ended next,
each row that it is taken off has at least as much reserved. -/
def BudgetTables.Unclamped (w : BudgetTables) : Prop :=
  ∀ row ∈ w.reservations, (∀ b, w.budget = some b → row.reserved ≤ b.reserved) ∧
    (∀ s ∈ w.stages, s.stage = stageFor row.role → row.reserved ≤ s.reserved) ∧
    ∀ t ∈ w.tasks, t.taskId = row.taskId →
      (row.role = .developer → row.reserved ≤ t.developer.reserved) ∧
      (row.role = .repair → row.reserved ≤ t.repair.reserved)

theorem BudgetTables.Hierarchical.unclamped {w : BudgetTables} (h : w.Hierarchical)
    (hw : w.Balanced) : w.Unclamped := by
  intro row hrow
  refine ⟨fun b hb => hw.reserved_le hb hrow, fun s hs hstage => ?_, fun t ht htask => ⟨?_, ?_⟩⟩
  · rw [h.stages s hs]
    exact Tables.le_total hrow hstage.symm
  · intro hrole
    rw [(h.tasks t ht).1]
    exact Tables.le_total hrow ⟨htask.symm, hrole⟩
  · intro hrole
    rw [(h.tasks t ht).2]
    exact Tables.le_total hrow ⟨htask.symm, hrole⟩

/-- **A refused `reserve` changes at most the status.** -/
theorem BudgetTables.reserve_refused {w w' : BudgetTables} {store : TokenBudgetStore}
    {reservationId : UUID} {taskId : String} {role : AgentRole} {estimated maxOutput : ℤ}
    {failure : Failure}
    (h : w.reserve store reservationId taskId role estimated maxOutput = (.error failure, w')) :
    w' = w ∨ w' = { w with budget := w.budget.map fun b => { b with status := .exhausted } } := by
  unfold reserve at h
  split at h
  · cases h
  · split_ifs at h
    · exact Or.inr (Prod.mk.inj h).2.symm
    · exact Or.inl (Prod.mk.inj h).2.symm

/-- **The token budget of a run is conserved.**  After any transactions of any
callers, in any order, refused ones included: the run row has reserved the sum of the
open reservations; its used total is all the usage that was accounted for, and the
sum of the role rows; no clamp at zero would change a value; ending a closed
reservation changes nothing, and neither does a refused `reserve`, but for the status.
If every settled usage is at most its reservation, what is used and reserved stays
within the total and what `record_usage` has added to it. -/
theorem run_token_budget_conserved {default : ℕ} {w₀ w : BudgetWorld} {es : List BudgetEvent}
    (h₀ : w₀.Opened) (hrun : Runs.Run (budgetStep default) w₀ es w)
    (hcalls : ∀ e ∈ es, ∀ packages, e.input ≠ .initializeHierarchy packages) :
    (∃ b, w.tables.budget = some b ∧
      b.reserved = (w.tables.reservations.map ReservationRow.reserved).sum ∧
      b.usedTotal = (es.map BudgetEvent.accounted).sum ∧
      b.usedTotal = (w.tables.roleUsage.map RoleUsageRow.total).sum ∧
      ((∀ e ∈ es, e.input.Within) →
        b.usedTotal + b.reserved ≤ b.totalBudget + (es.map BudgetEvent.recorded).sum)) ∧
    w.tables.Unclamped ∧
    (∀ reservation : TokenBudgetReservation,
      (∀ r ∈ w.tables.reservations, r.reservationId ≠ reservation.reservationId) →
      w.tables.cancel reservation = .ok w.tables ∧
        ∀ usage, w.tables.settle reservation usage = .ok w.tables) ∧
    ∀ store reservationId taskId role estimated maxOutput failure tables,
      w.tables.reserve store reservationId taskId role estimated maxOutput =
        (.error failure, tables) →
      tables = w.tables ∨ tables = { w.tables with
        budget := w.tables.budget.map fun b => { b with status := .exhausted } } := by
  have hconserved : w.Conserved ([] ++ es) :=
    hrun.history (H := fun es w => w.Conserved es)
      (fun _ _ _ _ _ hH hstep => (budgetStep_moves hstep).conserved hH) h₀.fresh.1
  have hhierarchical := hierarchical_run h₀.fresh.2 hrun
    fun e he packages heq => absurd heq (hcalls e he packages)
  obtain ⟨b, hb, hreserved, hroles⟩ := hconserved.balanced.run
  obtain ⟨b', hb', hused, hbound⟩ := hconserved.row
  obtain rfl := Option.some.inj (hb.symm.trans hb')
  refine ⟨⟨b, hb, hreserved, hused, hroles, hbound⟩,
    hhierarchical.unclamped hconserved.balanced, fun reservation hclosed => ⟨?_, fun usage => ?_⟩,
    fun _ _ _ _ _ _ _ _ => BudgetTables.reserve_refused⟩
  · exact BudgetTables.finishReservation_of_closed hclosed none
  · exact BudgetTables.finishReservation_of_closed hclosed (some usage)

/-- The budget of a run with a hundred tokens. -/
def openedBudget : BudgetWorld where
  tables := { budget := some { totalBudget := 100 } }

theorem openedBudget_opened : openedBudget.Opened :=
  ⟨rfl, ⟨100, fun _ _ _ estimate => estimate⟩, none, _, rfl, Or.inl rfl⟩

/-- A reservation of ninety tokens. -/
def ninetyReserved : BudgetCall :=
  .reserve (fun _ _ _ estimate => estimate) ⟨7⟩ "build" .developer 60 30

/-- A settled call, one settled twice, and one that is refused. -/
def settledCalls : List BudgetCall :=
  [ninetyReserved, .settle ⟨⟨7⟩, .developer, 60, 30⟩ ⟨50, 20, 70⟩,
    .settle ⟨⟨7⟩, .developer, 60, 30⟩ ⟨50, 20, 70⟩,
    .reserve (fun _ _ _ estimate => estimate) ⟨8⟩ "build" .repair 30 30,
    .persistRunExhaustedStatus]

/-- Seventy tokens are accounted for once. -/
theorem run_token_budget_conserved_settled :
    openedBudget.Opened ∧ ∃ es w, Runs.Run (budgetStep 100) openedBudget es w ∧
      (es.map BudgetEvent.accounted).sum = 70 ∧
      ∃ b, w.tables.budget = some b ∧ b.usedTotal = 70 := by
  have hsum : (Runs.exec (BudgetCall.perform 100) openedBudget settledCalls).map
      (fun r => (r.1.map BudgetEvent.accounted).sum) = some 70 := by
    decide +kernel
  obtain ⟨⟨es, w⟩, hexec, haccounted⟩ := Option.map_eq_some_iff.1 hsum
  have hrun := Runs.run_of_exec hexec
  have hcalls : ∀ e ∈ es, ∀ packages, e.input ≠ .initializeHierarchy packages := by
    intro e he packages heq
    have hmem := Runs.input_mem_of_exec hexec e he
    rw [heq] at hmem
    simp [settledCalls, ninetyReserved] at hmem
  obtain ⟨⟨b, hb, -, hused, -⟩, -⟩ := run_token_budget_conserved openedBudget_opened hrun hcalls
  exact ⟨openedBudget_opened, es, w, hrun, haccounted, b, hb, hused.trans haccounted⟩

/-- **What `record_usage` adds can pass the total**: ninety tokens of a hundred are
reserved, and the launch records twenty. -/
theorem recorded_usage_passes_total :
    ∃ es w, openedBudget.Opened ∧ Runs.Run (budgetStep 100) openedBudget es w ∧
      (∀ e ∈ es, ∀ packages, e.input ≠ .initializeHierarchy packages) ∧
      (∀ e ∈ es, e.input.Within) ∧
      ∃ b, w.tables.budget = some b ∧ b.totalBudget < b.usedTotal + b.reserved := by
  have hrow : (Runs.exec (BudgetCall.perform 100) openedBudget
      [ninetyReserved, .recordUsage .planner ⟨15, 5, 20⟩]).map (fun r => r.2.tables.budget) =
      some (some ⟨100, 15, 5, 20, 90, .critical⟩) := by
    decide +kernel
  obtain ⟨⟨es, w⟩, hexec, hbudget⟩ := Option.map_eq_some_iff.1 hrow
  have hinputs : ∀ e ∈ es, e.input = ninetyReserved ∨ e.input = .recordUsage .planner ⟨15, 5, 20⟩ := by
    intro e he
    simpa using Runs.input_mem_of_exec hexec e he
  refine ⟨es, w, openedBudget_opened, Runs.run_of_exec hexec, fun e he packages heq => ?_,
    fun e he => ?_, _, hbudget, by decide⟩
  · rcases hinputs e he with h | h <;> rw [heq] at h <;> cases h
  · rcases hinputs e he with h | h <;> rw [h] <;> exact trivial

/-- **The stage rows and the task rows agree with the reservations**, after any
transactions in any order on a run that began without rows, as long as no row was
inserted while a reservation was open that it should count: then each stage has
reserved the sum of the open reservations of its roles, and each work package, for its
Developer and for its Repair, the sum of those of its task and the role. -/
theorem hierarchy_agrees_with_reservations {default : ℕ} {w : BudgetWorld}
    {es : List BudgetEvent} (hrun : Runs.Run (budgetStep default) {} es w)
    (hquiet : ∀ e ∈ es, ∀ packages, e.input = .initializeHierarchy packages →
      e.before.tables.Quiet packages) :
    (∀ s ∈ w.tables.stages, s.reserved = w.tables.stageReserved s.stage) ∧
    ∀ t ∈ w.tables.tasks, t.developer.reserved = w.tables.taskReserved t.taskId .developer ∧
      t.repair.reserved = w.tables.taskReserved t.taskId .repair := by
  have hempty : BudgetTables.Hierarchical {} :=
    ⟨List.nodup_nil, fun _ h => absurd h List.not_mem_nil, fun _ h => absurd h List.not_mem_nil⟩
  have hhierarchical := hierarchical_run hempty hrun hquiet
  exact ⟨hhierarchical.stages, hhierarchical.tasks⟩

/-- A hierarchy of one package. -/
def planBuild : BudgetCall :=
  .initializeHierarchy [⟨"build", 60, 40⟩]

/-- A hierarchy that is created first counts the reservation after it. -/
theorem hierarchy_agrees_created_first :
    ∃ es w, Runs.Run (budgetStep 100) {} es w ∧ (∃ s ∈ w.tables.stages, s.reserved = 90) ∧
      ∀ s ∈ w.tables.stages, s.reserved = w.tables.stageReserved s.stage := by
  have hchecks : (Runs.exec (BudgetCall.perform 100) {} [planBuild, ninetyReserved]).map
      (fun r => (r.1.all fun e => match e.input with
        | .initializeHierarchy _ => e.before.tables.reservations.isEmpty
        | _ => true,
        r.2.tables.stages.any fun s => s.reserved = 90)) = some (true, true) := by
    decide +kernel
  obtain ⟨⟨es, w⟩, hexec, hw⟩ := Option.map_eq_some_iff.1 hchecks
  obtain ⟨hempty, hcounted⟩ := Prod.mk.inj hw
  have hrun := Runs.run_of_exec hexec
  refine ⟨es, w, hrun, ?_, (hierarchy_agrees_with_reservations hrun ?_).1⟩
  · simpa using hcounted
  · intro e he packages heq _ r hr
    have hnone := List.all_eq_true.1 hempty e he
    rw [heq] at hnone
    rw [List.isEmpty_iff.1 hnone] at hr
    exact absurd hr List.not_mem_nil

/-- **A hierarchy that is created after the first reservation does not count it.** -/
theorem hierarchy_created_late_misses_reservation :
    ∃ es w, Runs.Run (budgetStep 100) {} es w ∧
      ∃ s ∈ w.tables.stages, s.reserved ≠ w.tables.stageReserved s.stage := by
  have hdiffers : (Runs.exec (BudgetCall.perform 100) {} [ninetyReserved, planBuild]).map
      (fun r => r.2.tables.stages.any fun s => s.reserved ≠ r.2.tables.stageReserved s.stage) =
      some true := by
    decide +kernel
  obtain ⟨⟨es, w⟩, hexec, hw⟩ := Option.map_eq_some_iff.1 hdiffers
  obtain ⟨s, hs, hne⟩ := List.any_eq_true.1 hw
  exact ⟨es, w, Runs.run_of_exec hexec, s, hs, by simpa using hne⟩

end DevFlow
