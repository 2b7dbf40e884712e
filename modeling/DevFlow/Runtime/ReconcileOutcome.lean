/-
# When `reconcile_run` returns

The outcome model asks for one outcome per candidate of the plan, in the plan's
order.  `reconcile_run` sorts the candidates by rank, drops some of them and
takes a prefix, so it returns exactly when none of that changed anything: the
plan's order is already the order by rank, the HIGH slot and the gates admit
every candidate, and all of them fit the free slots.
-/

import DevFlow.Runtime.RunReconciler

namespace DevFlow

variable {dag : TaskDAG} {leases : List TaskLeaseSnapshot} {maxConcurrentTasks : Option ℕ}
  {gates : Option (String → Bool)}

/-- **The plan survives the admission unchanged.** -/
structure Fits (dag : TaskDAG) (leases : List TaskLeaseSnapshot) (maxConcurrentTasks : Option ℕ)
    (gates : Option (String → Bool)) (candidates : List String) : Prop where
  /-- Topological order is order by rank. -/
  ordered : candidates.Pairwise fun a b => dag.rank a ≤ dag.rank b
  /-- No HIGH candidate while a HIGH task is active, else at most one. -/
  high : candidates.countP dag.isHigh ≤ if activeHigh dag leases then 0 else 1
  allowed : ∀ gate, gates = some gate → ∀ t ∈ candidates, gate t = true
  slots : ∀ limit, maxConcurrentTasks = some limit →
    candidates.length ≤ limit - activeTasks leases

/-- **Nothing is admitted:** there is no free slot, or every candidate is held
back by its gate or by the HIGH slot. -/
def NothingAdmitted (dag : TaskDAG) (leases : List TaskLeaseSnapshot)
    (maxConcurrentTasks : Option ℕ) (gates : Option (String → Bool)) (candidates : List String) :
    Prop :=
  (∃ limit, maxConcurrentTasks = some limit ∧ limit ≤ activeTasks leases) ∨
    ∀ t ∈ candidates, (∃ gate, gates = some gate ∧ gate t = false) ∨
      (dag.isHigh t = true ∧ (activeHigh dag leases = true ∨
        ∃ u ∈ candidates, dag.isHigh u = true ∧ dag.candidateKey u < dag.candidateKey t))

section Sorting

variable {candidates : List String}

instance : Std.Total fun a b => dag.candidateKey a ≤ dag.candidateKey b :=
  ⟨fun a b => le_total (dag.candidateKey a) (dag.candidateKey b)⟩

instance : IsTrans String fun a b => dag.candidateKey a ≤ dag.candidateKey b :=
  ⟨fun _ _ _ => le_trans⟩

/-- Along the plan the topological index increases. -/
theorem idxOf_lt_of_sublist (hsub : candidates.Sublist dag.topologicalOrder)
    (hnodup : dag.topologicalOrder.Nodup) :
    candidates.Pairwise fun a b =>
      dag.topologicalOrder.idxOf a < dag.topologicalOrder.idxOf b := by
  refine List.Pairwise.sublist hsub ?_
  rw [List.pairwise_iff_getElem]
  intro i j hi hj hij
  rwa [hnodup.idxOf_getElem i hi, hnodup.idxOf_getElem j hj]

theorem candidateKey_le_iff {a b : String}
    (hlt : dag.topologicalOrder.idxOf a < dag.topologicalOrder.idxOf b) :
    dag.candidateKey a ≤ dag.candidateKey b ↔ dag.rank a ≤ dag.rank b := by
  rw [TaskDAG.candidateKey, TaskDAG.candidateKey, Prod.Lex.toLex_le_toLex]
  constructor
  · rintro (hrank | ⟨hrank, -⟩)
    · exact hrank.le
    · exact hrank.le
  · intro hrank
    rcases hrank.lt_or_eq with hrank | hrank
    · exact Or.inl hrank
    · exact Or.inr ⟨hrank, hlt.le⟩

/-- The sort moves nothing when the ranks do not decrease. -/
theorem sortedCandidates_eq_iff (hsub : candidates.Sublist dag.topologicalOrder)
    (hnodup : dag.topologicalOrder.Nodup) :
    sortedCandidates dag candidates = candidates ↔
      candidates.Pairwise fun a b => dag.rank a ≤ dag.rank b := by
  have hkeys : (candidates.Pairwise fun a b => dag.candidateKey a ≤ dag.candidateKey b) ↔
      candidates.Pairwise fun a b => dag.rank a ≤ dag.rank b := by
    have hlt := idxOf_lt_of_sublist hsub hnodup
    constructor
    · intro h
      exact (h.and hlt).imp fun hab => (candidateKey_le_iff hab.2).1 hab.1
    · intro h
      exact (h.and hlt).imp fun hab => (candidateKey_le_iff hab.2).2 hab.1
  rw [← hkeys]
  constructor
  · intro h
    rw [← h]
    exact List.pairwise_insertionSort _ _
  · exact List.Pairwise.insertionSort_eq

/-- Sorted candidates have strictly increasing keys. -/
theorem sortedCandidates_strict (hsub : candidates.Sublist dag.topologicalOrder)
    (hnodup : dag.topologicalOrder.Nodup) :
    (sortedCandidates dag candidates).Pairwise fun a b =>
      dag.candidateKey a < dag.candidateKey b := by
  have hperm : (sortedCandidates dag candidates).Perm candidates := List.perm_insertionSort _ _
  have hdistinct : (sortedCandidates dag candidates).Nodup :=
    hperm.nodup_iff.2 (hnodup.sublist hsub)
  have hsorted : (sortedCandidates dag candidates).Pairwise fun a b =>
      dag.candidateKey a ≤ dag.candidateKey b := List.pairwise_insertionSort _ _
  refine (hsorted.and hdistinct).imp_of_mem ?_
  rintro a b ha hb ⟨hle, hne⟩
  refine lt_of_le_of_ne hle fun heq => hne ?_
  have hidx : dag.topologicalOrder.idxOf a = dag.topologicalOrder.idxOf b :=
    congrArg (fun key => (ofLex key).2) heq
  exact (List.idxOf_inj (hsub.subset (hperm.subset ha))).1 hidx

end Sorting

section High

variable {isHigh : String → Bool}

theorem limitHigh_sublist (seen : Bool) (l : List String) : (limitHigh isHigh seen l).Sublist l := by
  induction l generalizing seen with
  | nil => exact List.Sublist.refl _
  | cons t l ih =>
    unfold limitHigh
    split
    · split
      · exact (ih seen).cons t
      · exact (ih true).cons_cons t
    · exact (ih seen).cons_cons t

/-- The loop drops nothing when there is at most one HIGH candidate, or none
after one was seen. -/
theorem limitHigh_eq_iff (seen : Bool) (l : List String) :
    limitHigh isHigh seen l = l ↔ l.countP isHigh ≤ if seen then 0 else 1 := by
  induction l generalizing seen with
  | nil => simp [limitHigh]
  | cons t l ih =>
    unfold limitHigh
    by_cases ht : isHigh t = true
    · rw [if_pos ht, List.countP_cons_of_pos ht]
      cases seen with
      | true =>
        have hne : limitHigh isHigh true l ≠ t :: l := by
          intro heq
          have hsub : (limitHigh isHigh true l).Sublist l := limitHigh_sublist true l
          have hlen := hsub.length_le
          rw [heq, List.length_cons] at hlen
          omega
        simpa using hne
      | false =>
        rw [if_neg Bool.false_ne_true, List.cons_inj_right, ih true]
        simp
    · rw [if_neg ht, List.countP_cons_of_neg ht, List.cons_inj_right, ih seen]

theorem mem_limitHigh_true {t : String} {l : List String} :
    t ∈ limitHigh isHigh true l ↔ t ∈ l ∧ isHigh t = false := by
  induction l with
  | nil => simp [limitHigh]
  | cons a l ih =>
    unfold limitHigh
    by_cases ha : isHigh a = true
    · rw [if_pos ha, if_pos rfl, ih, List.mem_cons]
      constructor
      · rintro ⟨hmem, hlow⟩
        exact ⟨Or.inr hmem, hlow⟩
      · rintro ⟨rfl | hmem, hlow⟩
        · rw [ha] at hlow
          cases hlow
        · exact ⟨hmem, hlow⟩
    · rw [if_neg ha, List.mem_cons, ih, List.mem_cons]
      have ha : isHigh a = false := by simpa using ha
      constructor
      · rintro (rfl | ⟨hmem, hlow⟩)
        · exact ⟨Or.inl rfl, ha⟩
        · exact ⟨Or.inr hmem, hlow⟩
      · rintro ⟨rfl | hmem, hlow⟩
        · exact Or.inl rfl
        · exact Or.inr ⟨hmem, hlow⟩

/-- What the loop keeps: the candidates that are not HIGH, and the HIGH one with
the least key. -/
theorem mem_limitHigh_false {κ : Type} [LinearOrder κ] {key : String → κ} {t : String}
    {l : List String} (hl : l.Pairwise fun a b => key a < key b) :
    t ∈ limitHigh isHigh false l ↔
      t ∈ l ∧ (isHigh t = true → ∀ u ∈ l, isHigh u = true → key t ≤ key u) := by
  induction l with
  | nil => simp [limitHigh]
  | cons a l ih =>
    rw [List.pairwise_cons] at hl
    obtain ⟨hfirst, hl⟩ := hl
    unfold limitHigh
    by_cases ha : isHigh a = true
    · rw [if_pos ha, if_neg Bool.false_ne_true, List.mem_cons, mem_limitHigh_true, List.mem_cons]
      constructor
      · rintro (rfl | ⟨hmem, hlow⟩)
        · refine ⟨Or.inl rfl, fun _ u hu _ => ?_⟩
          rcases List.mem_cons.1 hu with rfl | hu
          · exact le_rfl
          · exact (hfirst u hu).le
        · exact ⟨Or.inr hmem, fun hhigh => absurd (hhigh.symm.trans hlow) (by simp)⟩
      · rintro ⟨rfl | hmem, hleast⟩
        · exact Or.inl rfl
        · refine Or.inr ⟨hmem, ?_⟩
          by_contra hhigh
          have hle := hleast (by simpa using hhigh) a List.mem_cons_self ha
          exact absurd (hfirst t hmem) (not_lt.2 hle)
    · rw [if_neg ha, List.mem_cons, ih hl, List.mem_cons]
      constructor
      · rintro (rfl | ⟨hmem, hleast⟩)
        · exact ⟨Or.inl rfl, fun hhigh => absurd hhigh ha⟩
        · refine ⟨Or.inr hmem, fun hhigh u hu hu' => ?_⟩
          rcases List.mem_cons.1 hu with rfl | hu
          · exact absurd hu' ha
          · exact hleast hhigh u hu hu'
      · rintro ⟨rfl | hmem, hleast⟩
        · exact Or.inl rfl
        · exact Or.inr ⟨hmem, fun hhigh u hu hu' =>
            hleast hhigh u (List.mem_cons_of_mem _ hu) hu'⟩

end High

section Selection

variable {candidates : List String}

theorem highAdmitted_sublist : (highAdmitted dag leases candidates).Sublist candidates := by
  unfold highAdmitted
  split
  · exact List.filter_sublist
  · exact limitHigh_sublist false candidates

theorem gateAdmitted_sublist : (gateAdmitted gates candidates).Sublist candidates := by
  unfold gateAdmitted
  split
  · exact List.Sublist.refl _
  · exact List.filter_sublist

theorem highAdmitted_eq_iff : highAdmitted dag leases candidates = candidates ↔
    candidates.countP dag.isHigh ≤ if activeHigh dag leases then 0 else 1 := by
  unfold highAdmitted
  by_cases hactive : activeHigh dag leases = true
  · rw [if_pos hactive, if_pos hactive, List.filter_eq_self, Nat.le_zero, List.countP_eq_zero]
    simp
  · rw [if_neg hactive, if_neg hactive, limitHigh_eq_iff, if_neg Bool.false_ne_true]

theorem gateAdmitted_eq_iff : gateAdmitted gates candidates = candidates ↔
    ∀ gate, gates = some gate → ∀ t ∈ candidates, gate t = true := by
  unfold gateAdmitted
  cases gates with
  | none => simp
  | some gate => simp [List.filter_eq_self]

theorem mem_highAdmitted {t : String}
    (hstrict : candidates.Pairwise fun a b => dag.candidateKey a < dag.candidateKey b) :
    t ∈ highAdmitted dag leases candidates ↔ t ∈ candidates ∧
      ¬(dag.isHigh t = true ∧ (activeHigh dag leases = true ∨
        ∃ u ∈ candidates, dag.isHigh u = true ∧ dag.candidateKey u < dag.candidateKey t)) := by
  unfold highAdmitted
  by_cases hactive : activeHigh dag leases = true
  · rw [if_pos hactive]
    simp [hactive]
  · rw [if_neg hactive, mem_limitHigh_false hstrict]
    simp only [hactive, Bool.false_eq_true, false_or, not_and, not_exists, not_lt]

theorem mem_gateAdmitted {t : String} : t ∈ gateAdmitted gates candidates ↔
    t ∈ candidates ∧ ¬∃ gate, gates = some gate ∧ gate t = false := by
  unfold gateAdmitted
  cases gates with
  | none => simp
  | some gate => simp

variable {plan : RunReconciliationPlan}

/-- **The selection is the plan's list exactly when the plan fits.** -/
theorem selectedTasks_eq_iff (hsub : plan.reconcileTaskIds.Sublist dag.topologicalOrder)
    (hnodup : dag.topologicalOrder.Nodup) :
    selectedTasks dag leases maxConcurrentTasks gates plan = plan.reconcileTaskIds ↔
      Fits dag leases maxConcurrentTasks gates plan.reconcileTaskIds := by
  set ids := plan.reconcileTaskIds with hids
  have hslots : ids.length ≤ availableSlots maxConcurrentTasks leases ids.length ↔
      ∀ limit, maxConcurrentTasks = some limit → ids.length ≤ limit - activeTasks leases := by
    cases maxConcurrentTasks <;> simp [availableSlots]
  constructor
  · intro hselected
    -- a prefix of a sublist of the sorted list that is as long as the list drops nothing
    set sorted := sortedCandidates dag ids
    have hsorted : sorted.length = ids.length := List.length_insertionSort _ _
    have hhigh : (highAdmitted dag leases sorted).Sublist sorted := highAdmitted_sublist
    have hgate : (gateAdmitted gates (highAdmitted dag leases sorted)).Sublist
        (highAdmitted dag leases sorted) := gateAdmitted_sublist
    have htake : (gateAdmitted gates (highAdmitted dag leases sorted)).take
        (availableSlots maxConcurrentTasks leases ids.length) = ids := hselected
    have hlength := congrArg List.length htake
    rw [List.length_take] at hlength
    have hgateLength := hgate.length_le
    have hhighLength := hhigh.length_le
    have hhighEq : highAdmitted dag leases sorted = sorted := hhigh.eq_of_length (by omega)
    rw [hhighEq] at hgate hgateLength htake hlength
    have hgateEq : gateAdmitted gates sorted = sorted := hgate.eq_of_length (by omega)
    rw [hgateEq] at htake hlength
    have hsortedEq : sorted = ids := by rwa [List.take_of_length_le (by omega)] at htake
    rw [hsortedEq] at hhighEq hgateEq hlength
    refine ⟨(sortedCandidates_eq_iff hsub hnodup).1 hsortedEq, highAdmitted_eq_iff.1 hhighEq,
      gateAdmitted_eq_iff.1 hgateEq, hslots.1 (by omega)⟩
  · intro hfits
    rw [selectedTasks, ← hids, (sortedCandidates_eq_iff hsub hnodup).2 hfits.ordered,
      highAdmitted_eq_iff.2 hfits.high, gateAdmitted_eq_iff.2 hfits.allowed,
      List.take_of_length_le (hslots.2 hfits.slots)]

/-- **Nothing is selected exactly when nothing is admitted.** -/
theorem selectedTasks_eq_nil_iff (hsub : plan.reconcileTaskIds.Sublist dag.topologicalOrder)
    (hnodup : dag.topologicalOrder.Nodup) :
    selectedTasks dag leases maxConcurrentTasks gates plan = [] ↔
      NothingAdmitted dag leases maxConcurrentTasks gates plan.reconcileTaskIds := by
  set ids := plan.reconcileTaskIds with hids
  have hstrict := sortedCandidates_strict hsub hnodup
  have hmem : ∀ t, t ∈ sortedCandidates dag ids ↔ t ∈ ids := fun t => List.mem_insertionSort _
  have hadmitted : gateAdmitted gates (highAdmitted dag leases (sortedCandidates dag ids)) = [] ↔
      ∀ t ∈ ids, (∃ gate, gates = some gate ∧ gate t = false) ∨
        (dag.isHigh t = true ∧ (activeHigh dag leases = true ∨
          ∃ u ∈ ids, dag.isHigh u = true ∧ dag.candidateKey u < dag.candidateKey t)) := by
    rw [List.eq_nil_iff_forall_not_mem]
    simp only [mem_gateAdmitted, mem_highAdmitted hstrict, hmem]
    refine forall_congr' fun t => ⟨fun hnot ht => ?_, ?_⟩
    · by_contra hfree
      obtain ⟨hgate, hhigh⟩ := not_or.1 hfree
      exact hnot ⟨⟨ht, hhigh⟩, hgate⟩
    · rintro hheld ⟨⟨ht, hhigh⟩, hgate⟩
      exact (hheld ht).elim hgate hhigh
  rw [selectedTasks, ← hids, List.take_eq_nil_iff, hadmitted, NothingAdmitted]
  cases maxConcurrentTasks with
  | none =>
    simp only [availableSlots, reduceCtorEq, false_and, exists_false, false_or,
      List.length_eq_zero_iff]
    refine or_iff_right_of_imp fun hnil => ?_
    simp [hnil]
  | some limit => simp [availableSlots, Nat.sub_eq_zero_iff_le]

end Selection

section Outcome

variable {σ : Type} {reconcile : σ → String → Except Failure ReconciliationDecision × σ}

/-- A returned decision of the task reconciler names the task it was asked for,
as `prepare_task` does (`prepareTask_eq_ok`). -/
def AnswersItsTask (reconcile : σ → String → Except Failure ReconciliationDecision × σ) : Prop :=
  ∀ s t decision s', reconcile s t = (.ok decision, s') → decision.taskId = t

/-- Each of the calls for `taskIds`, one after the other, returns. -/
def CallsReturn (reconcile : σ → String → Except Failure ReconciliationDecision × σ) (s : σ)
    (taskIds : List String) : Prop :=
  ∃ decisions s', reconcileEach reconcile s taskIds = (.ok decisions, s')

theorem reconcileEach_taskIds (hanswers : AnswersItsTask reconcile) {s s' : σ}
    {taskIds : List String} {decisions : List ReconciliationDecision}
    (h : reconcileEach reconcile s taskIds = (.ok decisions, s')) :
    decisions.map ReconciliationDecision.taskId = taskIds := by
  induction taskIds generalizing s s' decisions with
  | nil =>
    obtain ⟨hnil, -⟩ := Prod.mk.inj h
    rw [← Except.ok.inj hnil]
    rfl
  | cons t taskIds ih =>
    unfold reconcileEach at h
    split at h
    · cases h
    · rename_i decision s₁ hcall
      split at h
      · cases h
      · rename_i rest s₂ hrest
        obtain ⟨hcons, -⟩ := Prod.mk.inj h
        rw [← Except.ok.inj hcons, List.map_cons, hanswers s t decision s₁ hcall, ih hrest]

variable {runId : UUID} {status : RunStatus} {snapshotTaskIds : List String}
  {recovery : RunRecoveryPlan} {resolve : String → Except Failure TaskExecutionBase} {s : σ}
  {plan : RunReconciliationPlan}

/-- `reconcile_run` returns when its calls return and it selected the plan's list. -/
theorem reconcileRun_returns_iff (hanswers : AnswersItsTask reconcile)
    (hplan : buildPlan runId status snapshotTaskIds dag recovery resolve = .ok plan) :
    (∃ outcome s', reconcileRun reconcile runId status snapshotTaskIds dag leases recovery resolve
      maxConcurrentTasks gates s = (.ok outcome, s')) ↔
      selectedTasks dag leases maxConcurrentTasks gates plan = plan.reconcileTaskIds ∧
        CallsReturn reconcile s plan.reconcileTaskIds := by
  simp only [reconcileRun, hplan]
  cases hcalls : reconcileEach reconcile s
      (selectedTasks dag leases maxConcurrentTasks gates plan) with
  | mk result s₁ =>
    cases result with
    | error failure =>
      constructor
      · rintro ⟨_, _, h⟩
        cases h
      · rintro ⟨hselected, decisions, s', hreturn⟩
        rw [hselected] at hcalls
        cases hcalls.symm.trans hreturn
    | ok decisions =>
      have hids := reconcileEach_taskIds hanswers hcalls
      simp only [RunReconciliationOutcome.validate, hids, Prod.mk.injEq, Raising.bind_eq_ok,
        Raising.raiseIf_eq_ok, not_not]
      constructor
      · rintro ⟨_, _, ⟨_, hselected, -⟩, -⟩
        exact ⟨hselected, decisions, s₁, hselected ▸ hcalls⟩
      · rintro ⟨hselected, -⟩
        exact ⟨_, _, ⟨⟨⟩, hselected, rfl⟩, rfl⟩

/-- **When `reconcile_run` returns after it has reconciled a task:** exactly when
nothing was admitted, or the admission left the plan as it was and the calls of
the task reconciler return. -/
theorem reconcile_run_outcome_iff (hanswers : AnswersItsTask reconcile)
    (hplan : buildPlan runId status snapshotTaskIds dag recovery resolve = .ok plan) :
    (selectedTasks dag leases maxConcurrentTasks gates plan ≠ [] →
      ∃ outcome s', reconcileRun reconcile runId status snapshotTaskIds dag leases recovery resolve
        maxConcurrentTasks gates s = (.ok outcome, s')) ↔
      NothingAdmitted dag leases maxConcurrentTasks gates plan.reconcileTaskIds ∨
        (Fits dag leases maxConcurrentTasks gates plan.reconcileTaskIds ∧
          CallsReturn reconcile s plan.reconcileTaskIds) := by
  obtain ⟨hsub, hnodup⟩ := buildPlan_eq_ok hplan
  rw [reconcileRun_returns_iff hanswers hplan, selectedTasks_eq_iff hsub hnodup,
    ← selectedTasks_eq_nil_iff hsub hnodup]
  tauto

/-- The assessment of a task that was never leased. -/
def unownedAssessment (taskId : String) : TaskRecoveryAssessment where
  taskId := taskId
  disposition := .blockedUnownedDispatchAmbiguity
  leaseState := .unowned
  leaseGeneration := 0
  leaseDispatchId := none
  workerExecutionStatus := none
  workerExecutionEvidenceId := none

/-- The lease row of a task that was never leased. -/
def unownedLease (taskId : String) : TaskLeaseSnapshot where
  runId := ⟨1⟩
  taskId := taskId
  state := .unowned
  generation := 0
  ownerId := none
  dispatchId := none
  acquiredAt := none
  heartbeatAt := none
  leaseUntil := none
  releasedAt := none
  observedAt := 0

/-- The recovery plan of a run that has just started. -/
def freshRecovery (dag : TaskDAG) : RunRecoveryPlan where
  runId := ⟨1⟩
  runStatus := .running
  observedAt := 0
  tasks := dag.taskIds.map unownedAssessment

/-- The base of a task without dependencies. -/
def runBaseOf (taskId : String) : Except Failure TaskExecutionBase :=
  .ok { runId := ⟨1⟩, taskId, commitSha := "base", basis := .runBase, sourceEvidenceId := none,
        integrationRef := none, run_base := TaskExecutionBaseBasis.runBase_alone,
        snapshot := TaskExecutionBaseBasis.runBase_not_snapshot }

/-- A task reconciler that publishes whatever it is asked for; its state is the
list of published tasks. -/
def publishing (published : List String) (taskId : String) :
    Except Failure ReconciliationDecision × List String :=
  (.ok { runId := ⟨1⟩, taskId, observedAt := 0, action := .preparedDispatch, reason := "prepared",
         leaseGeneration := 0, currentDispatchId := none, publishAllowed := true },
    published ++ [taskId])

theorem publishing_answersItsTask : AnswersItsTask publishing := by
  intro s t decision s' h
  obtain ⟨hdecision, -⟩ := Prod.mk.inj h
  rw [← Except.ok.inj hdecision]

/-- Two independent tasks, the second of which is LOW. -/
def lowSecond : TaskDAG where
  tasks := [{ taskId := "api", dependsOn := [], taskId_pattern := isTaskId_api },
    { taskId := "docs", dependsOn := [], complexity := some .low,
      taskId_pattern := isTaskId_docs }]

/-- Two independent tasks of the same complexity. -/
def evenPair : TaskDAG :=
  readyPair

/-- **Both tasks are published and then the outcome is refused:** the LOW task is
reconciled first, and the validator wants the plan's order. -/
theorem reconcile_run_fails_after_acting :
    ¬∀ (dag : TaskDAG) (plan : RunReconciliationPlan) (published : List String),
      buildPlan ⟨1⟩ .running dag.taskIds dag (freshRecovery dag) runBaseOf = .ok plan →
      selectedTasks dag (dag.taskIds.map unownedLease) none none plan ≠ [] →
        ∃ outcome s', reconcileRun publishing ⟨1⟩ .running dag.taskIds dag
          (dag.taskIds.map unownedLease) (freshRecovery dag) runBaseOf none none published = (.ok outcome, s') := by
  intro hclaim
  have hfacts : (match buildPlan ⟨1⟩ .running lowSecond.taskIds lowSecond
        (freshRecovery lowSecond) runBaseOf with
      | .ok plan => selectedTasks lowSecond (lowSecond.taskIds.map unownedLease) none none plan
      | .error _ => []) = ["docs", "api"] ∧
      (reconcileRun publishing ⟨1⟩ .running lowSecond.taskIds lowSecond
        (lowSecond.taskIds.map unownedLease) (freshRecovery lowSecond) runBaseOf none none []).1.isOk = false := by
    decide +kernel
  obtain ⟨hselected, hfails⟩ := hfacts
  cases hplan : buildPlan ⟨1⟩ .running lowSecond.taskIds lowSecond (freshRecovery lowSecond)
      runBaseOf with
  | error failure =>
    rw [hplan] at hselected
    cases hselected
  | ok plan =>
    rw [hplan] at hselected
    have hnonempty : selectedTasks lowSecond (lowSecond.taskIds.map unownedLease) none none plan ≠ [] := by
      intro hnil
      cases hnil.symm.trans hselected
    obtain ⟨outcome, s', hreturn⟩ := hclaim lowSecond plan [] hplan hnonempty
    rw [hreturn] at hfails
    cases hfails

/-- Two equal tasks without a limit: `reconcile_run` returns. -/
theorem reconcile_run_outcome_evenPair :
    ∃ plan, buildPlan ⟨1⟩ .running evenPair.taskIds evenPair (freshRecovery evenPair) runBaseOf =
        .ok plan ∧ plan.reconcileTaskIds = ["api", "docs"] ∧
      ∃ outcome s', reconcileRun publishing ⟨1⟩ .running evenPair.taskIds evenPair
        (evenPair.taskIds.map unownedLease) (freshRecovery evenPair) runBaseOf none none [] = (.ok outcome, s') := by
  have hfacts : (match buildPlan ⟨1⟩ .running evenPair.taskIds evenPair (freshRecovery evenPair)
      runBaseOf with
      | .ok plan => plan.reconcileTaskIds
      | .error _ => []) = ["api", "docs"] := by
    decide +kernel
  cases hplan : buildPlan ⟨1⟩ .running evenPair.taskIds evenPair (freshRecovery evenPair)
      runBaseOf with
  | error failure =>
    rw [hplan] at hfacts
    cases hfacts
  | ok plan =>
    rw [hplan] at hfacts
    have hids : plan.reconcileTaskIds = ["api", "docs"] := hfacts
    have hfits : Fits evenPair (evenPair.taskIds.map unownedLease) none none plan.reconcileTaskIds := by
      rw [hids]
      refine ⟨by decide +kernel, by decide +kernel, by simp, by simp⟩
    have hselected : selectedTasks evenPair (evenPair.taskIds.map unownedLease) none none
        plan ≠ [] := by
      obtain ⟨hsub, hnodup⟩ := buildPlan_eq_ok hplan
      rw [(selectedTasks_eq_iff hsub hnodup).2 hfits, hids]
      simp
    refine ⟨plan, rfl, hids, ?_⟩
    exact (reconcile_run_outcome_iff publishing_answersItsTask hplan).2
      (Or.inr ⟨hfits, by rw [hids]; exact ⟨_, _, rfl⟩⟩) hselected

end Outcome

end DevFlow
