/-
# Recoveries of one run, in any order of transactions

Every transaction of `recoverRun` is one that `Guards` allows, whatever `Respects` lets
others do in between (`recoverRun_promises`).  Two statements about whole runs follow, with
any number of calls, a crash of any of them between two transactions, the workers of the
source run and other requests.

`at_most_one_recovery`: one recovery at most is ever linked and has tasks dispatched,
and it is what every call that returns returns.  The conditional UPDATE of
`link_recovery` alone carries this; the advisory lock may be lost.

`recovered_tasks_idle`: no task of a dispatched recovery is leased in the source run,
provided that the inspections and the deliveries of late messages keep apart
(`KeepsApart`).  An inspection looks for live leases in one of its three
branches only, and `acquire_task_lease` does not ask for a recovery, so both can fail.
-/

import DevFlow.Api.RecoveryCalls
import DevFlow.Runtime.RunReconciler

namespace DevFlow

open Interleaving (Script Guarantees Stable)

variable {service : RecoveryService} {call : RecoveryCall} {sourceRunId : UUID}

/-! ## What the calls know -/

theorem stable_keyed : Stable (Respects sourceRunId) RecoveryWorld.Keyed :=
  fun _ _ h hkeyed => h.keyed hkeyed

theorem stable_linked (r : UUID) :
    Stable (Respects sourceRunId) fun w => w.Keyed ∧ w.Linked sourceRunId r :=
  fun _ _ h hw => ⟨h.keyed hw.1, h.linked r hw.1 hw.2⟩

/-- All tasks of the graph were left over by an inspection. -/
def Claims (dag : TaskDAG) (w : RecoveryWorld) : Prop :=
  w.Keyed ∧ ∀ t ∈ dag.taskIds, t ∈ w.claimed

theorem stable_claims (dag : TaskDAG) : Stable (Respects sourceRunId) (Claims dag) :=
  fun _ _ h hw => ⟨h.keyed hw.1, fun t ht => h.claimed (hw.2 t ht)⟩

theorem stable_leftover (runId : UUID) :
    Stable (Respects sourceRunId) fun w => w.Keyed ∧ w.Leftover runId := by
  rintro w w' h ⟨hkeyed, run, hrun, hid, hdag⟩
  obtain ⟨run', hrun', hid', hdag'⟩ := h.kept run hrun
  exact ⟨h.keyed hkeyed, run', hrun', hid'.trans hid, fun t ht =>
    h.claimed (hdag t (hdag' ▸ ht))⟩

/-- What an observation says that a recovery goes on from: the tasks of the source run that
it does not list as completed are claimed. -/
def SourceClaims (service : RecoveryService) (observation : RunRecoveryObservation)
    (w : RecoveryWorld) : Prop :=
  w.Keyed ∧ (observation.displayStatus = .recoveryRequired →
    ∃ run ∈ w.product.runs, run.runId = service.sourceRunId ∧
      ∀ t ∈ run.dag.taskIds, t ∉ observation.completedTaskIds → t ∈ w.claimed)

theorem stable_sourceClaims (observation : RunRecoveryObservation) :
    Stable (Respects service.sourceRunId) (SourceClaims service observation) := by
  rintro w w' h ⟨hkeyed, hclaims⟩
  refine ⟨h.keyed hkeyed, fun hrequired => ?_⟩
  obtain ⟨run, hrun, hid, hdag⟩ := hclaims hrequired
  obtain ⟨run', hrun', hid', hdag'⟩ := h.kept run hrun
  exact ⟨run', hrun', hid'.trans hid, fun t ht hopen => h.claimed (hdag t (hdag' ▸ ht) hopen)⟩

/-- `previous` is the source run, as far as the claims go. -/
def PreviousClaims (observation : RunRecoveryObservation) (previous : ProductRun)
    (w : RecoveryWorld) : Prop :=
  w.Keyed ∧ (observation.displayStatus = .recoveryRequired →
    ∀ t ∈ previous.dag.taskIds, t ∉ observation.completedTaskIds → t ∈ w.claimed)

theorem stable_previousClaims (observation : RunRecoveryObservation) (previous : ProductRun) :
    Stable (Respects sourceRunId) (PreviousClaims observation previous) :=
  fun _ _ h hw => ⟨h.keyed hw.1, fun hrequired t ht hopen =>
    h.claimed (hw.2 hrequired t ht hopen)⟩

/-! ## The transactions of a call -/

/-- The script keeps to `Guards` from the states of `P`, and what it returns satisfies `Q`. -/
abbrev Promises {α : Type} (service : RecoveryService) (P : RecoveryWorld → Prop)
    (x : Script RecoveryWorld Failure α) (Q : α → RecoveryWorld → Prop) : Prop :=
  Guarantees (Respects service.sourceRunId) (Guards service) Q x P

section Promises

variable {α : Type} {P : RecoveryWorld → Prop} {Q : α → RecoveryWorld → Prop}

/-- A read of one run. -/
theorem readRun_promises {runId : UUID} {f : ProductRun → α}
    (hQ : ∀ a, Stable (Respects service.sourceRunId) (Q a))
    (h : ∀ w run, P w → run ∈ w.product.runs → run.runId = runId → Q (f run) w) :
    Promises service P (readRun runId f) Q := by
  refine .read (Guards.refl service) hQ fun w a hw ha => ?_
  obtain ⟨run, hload, rfl⟩ := Raising.map_eq_ok.1 ha
  obtain ⟨hrun, hid⟩ := ProductWorld.loadRun_eq_ok hload
  exact h w run hw hrun hid

/-- A read that nothing is concluded from. -/
theorem readRun_keeps {runId : UUID} {f : ProductRun → α} (hP : Stable (Respects service.sourceRunId) P) :
    Promises service P (readRun runId f) fun _ => P :=
  readRun_promises (fun _ => hP) fun _ _ hw _ _ => hw

theorem lift_keeps {x : Except Failure α} : Promises service P (Script.lift x) fun _ => P :=
  .lift fun _ _ _ hw => hw

/-- A transaction on the runs and sessions. -/
theorem onProduct_promises {p : Durable.Prog ProductWorld Failure α}
    (hQ : ∀ a, Stable (Respects service.sourceRunId) (Q a))
    (h : ∀ w, P w → Guards service w { w with product := (p w.product).final } ∧
      ∀ a, (p w.product).result = .ok a → Q a { w with product := (p w.product).final }) :
    Promises service P (onProduct p) Q :=
  .transact hQ h

/-- A transaction that is allowed in any state. -/
theorem onProduct_keeps {p : Durable.Prog ProductWorld Failure α}
    (hP : Stable (Respects service.sourceRunId) P)
    (h : ∀ w, P w → Guards service w { w with product := (p w.product).final }) :
    Promises service P (onProduct p) fun _ => P :=
  onProduct_promises (fun _ => hP) fun w hw =>
    ⟨h w hw, fun _ _ => hP _ _ (h w hw).toRespects hw⟩

end Promises

/-- What a transaction does is told by what it returns. -/
theorem transact_guards {α : Type} {w : RecoveryWorld} {Q : α → RecoveryWorld → Prop}
    {f : ProductWorld → Except Failure (α × ProductWorld)}
    (h : ∀ a product, f w.product = .ok (a, product) →
      Guards service w { w with product } ∧ Q a { w with product }) :
    Guards service w { w with product := (Durable.transact f w.product).final } ∧
      ∀ a, (Durable.transact f w.product).result = .ok a →
        Q a { w with product := (Durable.transact f w.product).final } := by
  unfold Durable.transact
  cases hanswer : f w.product with
  | ok answer =>
    obtain ⟨hguards, hQ⟩ := h answer.1 answer.2 hanswer
    refine ⟨hguards, fun a ha => ?_⟩
    obtain rfl := Except.ok.inj ha
    exact hQ
  | error failure => exact ⟨.refl service w, fun a ha => by cases ha⟩

/-- The same, when nothing is concluded from it. -/
theorem Guards.of_transact {α : Type} {w : RecoveryWorld}
    {f : ProductWorld → Except Failure (α × ProductWorld)}
    (h : ∀ a product, f w.product = .ok (a, product) → Guards service w { w with product }) :
    Guards service w { w with product := (Durable.transact f w.product).final } :=
  (transact_guards (Q := fun _ _ => True) fun a product hf => ⟨h a product hf, trivial⟩).1

theorem createSession_guards (sessionId : UUID) (baseCommit : String) (w : RecoveryWorld) :
    Guards service w
      { w with product := (createSession sessionId baseCommit w.product).final } := by
  refine .of_transact fun _ product h => ?_
  simp only [Raising.bind_eq_ok, Raising.pure_eq_ok, Prod.mk.injEq] at h
  obtain ⟨_, -, -, rfl⟩ := h
  exact (Guards.refl service w).congr_runs rfl

theorem updateSession_guards (sessionId : UUID) (change : DevelopmentSession → DevelopmentSession)
    (w : RecoveryWorld) :
    Guards service w { w with product := (updateSession sessionId change w.product).final } := by
  refine .of_transact fun _ product h => ?_
  simp only [Raising.bind_eq_ok, Raising.pure_eq_ok, Prod.mk.injEq] at h
  obtain ⟨_, -, -, rfl⟩ := h
  exact (Guards.refl service w).congr_runs rfl

theorem captureRunProgress_guards (sessionId : UUID) (run : ProductRun) (w : RecoveryWorld) :
    Guards service w { w with product := (captureRunProgress sessionId run w.product).final } := by
  unfold captureRunProgress
  cases latestExecutions run.rows.db with
  | error failure => exact .refl service w
  | ok latest => exact (Guards.refl service w).congr_runs rfl

theorem attach_guards (sessionId runId : UUID) (w : RecoveryWorld) :
    Guards service w { w with product := w.product.attach sessionId runId } :=
  (@Guards.mapRun _ _ runId (fun run => { run with sessionId := some sessionId })
    (fun _ => rfl) (fun _ => rfl) (fun _ _ _ => rfl) fun _ _ _ _ _ _ hlinked => hlinked).congr_runs rfl

theorem attachRun_guards (sessionId runId : UUID) (w : RecoveryWorld) :
    Guards service w { w with product := (attachRun sessionId runId w.product).final } := by
  refine .of_transact fun _ product h => ?_
  simp only [Raising.bind_eq_ok, Raising.pure_eq_ok, Prod.mk.injEq] at h
  obtain ⟨_, -, -, rfl⟩ := h
  exact attach_guards sessionId runId w

/-- The row that a read of the link finds. -/
theorem linked_of_find {w : RecoveryWorld} {r : UUID}
    (h : (w.product.runs.find? fun run => run.runId = sourceRunId).bind ProductRun.recoveryRunId =
      some r) : w.Linked sourceRunId r := by
  obtain ⟨run, hfind, hlinked⟩ := Option.bind_eq_some_iff.1 h
  exact ⟨run, List.mem_of_find?_eq_some hfind, by simpa using List.find?_some hfind, hlinked⟩

/-- **The conditional UPDATE**: where run ids are unique, the link is written once. -/
theorem linkRecovery_guards (recoveredRunId : UUID) {w : RecoveryWorld} (hkeyed : w.Keyed) :
    Guards service w { w with product :=
        (linkRecovery service.sourceRunId recoveredRunId w.product).final } ∧
      ∀ u, (linkRecovery service.sourceRunId recoveredRunId w.product).result = .ok u →
        RecoveryWorld.Linked { w with product :=
          (linkRecovery service.sourceRunId recoveredRunId w.product).final }
          service.sourceRunId recoveredRunId := by
  refine transact_guards
    (Q := fun _ w' => w'.Linked service.sourceRunId recoveredRunId) fun u product h => ?_
  split_ifs at h with hfree
  · obtain ⟨-, rfl⟩ := Prod.mk.inj (Raising.pure_eq_ok.1 h)
    obtain ⟨run, hrun, hsource⟩ := List.any_eq_true.1 hfree
    obtain ⟨hid, hnone⟩ := of_decide_eq_true hsource
    refine ⟨.mapRun (fun _ => rfl) (fun _ => rfl) (fun _ _ _ => rfl) ?_, ?_⟩
    · intro _ other hother hid' _ r hlinked
      rw [hkeyed.eq_of_key hother hrun (hid'.trans hid.symm), hnone] at hlinked
      cases hlinked
    · exact ⟨_, List.mem_map_of_mem hrun, by simp [hid]⟩
  · simp only [Raising.bind_eq_ok, Raising.raiseIf_eq_ok, not_not, Raising.pure_eq_ok,
      Prod.mk.injEq] at h
    obtain ⟨_, hother, -, rfl⟩ := h
    exact ⟨.refl service w, linked_of_find hother⟩

/-! ## The script -/

theorem acquireLock_promises (i : ℕ) :
    Promises service RecoveryWorld.Keyed (acquireLock i) fun _ => RecoveryWorld.Keyed :=
  .await stable_keyed fun _ hw _ =>
    ⟨.of_product_eq rfl rfl (List.Subset.refl _) rfl, hw⟩

theorem readRows_promises :
    Promises service RecoveryWorld.Keyed service.readRows fun read w =>
      w.Keyed ∧ ∀ after observation, service.store.inspect service.dumps service.collation read.1
        after read.2 service.sourceRunId = .ok observation → SourceClaims service observation w := by
  refine .transact (fun read w w' h hw => ⟨h.keyed hw.1, fun after observation hinspect =>
    stable_sourceClaims observation w w' h (hw.2 after observation hinspect)⟩) fun w hkeyed =>
      ⟨.of_product_eq rfl rfl (List.subset_append_left _ _) rfl, fun read hread => ?_⟩
  obtain ⟨run, hload, rfl⟩ := Raising.map_eq_ok.1 hread
  refine ⟨hkeyed, fun after observation hinspect => ⟨hkeyed, fun hrequired => ?_⟩⟩
  obtain ⟨hrun, hid⟩ := ProductWorld.loadRun_eq_ok hload
  obtain ⟨first, hfirst, hstatus, hcompleted⟩ :=
    @inspect_first_statement _ _ _ run.rows.db _ _ _ _ _ hinspect
  refine ⟨run, hrun, hid, fun t ht hopen => List.mem_append_right _ ?_⟩
  unfold RecoveryService.left
  simp only [hload, hfirst, hstatus, hrequired, if_true, hcompleted]
  exact List.mem_filter.2 ⟨ht, decide_eq_true hopen⟩

theorem inspectRun_promises :
    Promises service RecoveryWorld.Keyed service.inspectRun (SourceClaims service) := by
  refine readRows_promises.bind fun read => ?_
  refine (readRun_keeps (fun w w' h hw => ⟨h.keyed hw.1, fun after observation hinspect =>
    stable_sourceClaims observation w w' h (hw.2 after observation hinspect)⟩)).bind
      fun after => ?_
  refine Guarantees.bind (Q := SourceClaims service)
    (.lift fun observation w hinspect hw => hw.2 after observation hinspect)
    fun observation => ?_
  refine Guarantees.bind (.await (stable_sourceClaims observation) fun w hw _ => ?_)
    fun _ => .pure fun _ hw => hw
  have hguards : Guards service w { w with
      columns := RunRecoveryStore.persistProjection w.columns observation } :=
    .of_product_eq rfl rfl (List.Subset.refl _) rfl
  exact ⟨hguards, stable_sourceClaims observation _ _ hguards.toRespects hw⟩

theorem recoveryObservation_promises :
    Promises service RecoveryWorld.Keyed (service.recoveryObservation call)
      fun answer => SourceClaims service answer.1 := by
  refine inspectRun_promises.bind fun observation => ?_
  refine (readRun_keeps (stable_sourceClaims observation)).bind fun previous => ?_
  refine (@lift_keeps service _ _ _).bind fun _ => lift_keeps.bind fun _ => ?_
  refine Guarantees.bind (.read (Q := fun _ => SourceClaims service observation)
    (Guards.refl service) (fun _ => stable_sourceClaims observation) fun _ _ hw _ => hw)
    fun answer => ?_
  exact lift_keeps.bind fun _ => lift_keeps.bind fun _ => .pure fun _ hw => hw

theorem existingRecovery_promises (observation : RunRecoveryObservation) :
    Promises service (SourceClaims service observation) service.existingRecovery
      fun existing w => SourceClaims service observation w ∧
        ∀ r, existing = some r → w.Linked service.sourceRunId r := by
  refine .read (Guards.refl service) (fun existing w w' h hw =>
    ⟨stable_sourceClaims observation w w' h hw.1, fun r hr => h.linked r hw.1.1 (hw.2 r hr)⟩)
    fun w existing hw hexisting => ⟨hw, fun r hr => linked_of_find ?_⟩
  exact (Except.ok.inj hexisting).trans hr

theorem existingRecoveryLaunch_promises (r : UUID) :
    Promises service (fun w => w.Keyed ∧ w.Linked service.sourceRunId r)
      (RecoveryService.existingRecoveryLaunch r)
      fun recovered w => w.Keyed ∧ w.Linked service.sourceRunId recovered := by
  refine (readRun_keeps (stable_linked r)).bind fun dag => ?_
  exact lift_keeps.bind fun _ => .pure fun _ hw => hw

theorem recoverySession_promises (previous : ProductRun) (dag : TaskDAG) :
    Promises service (Claims dag) (service.recoverySession call previous dag) fun _ => Claims dag := by
  have hclaims := @stable_claims service.sourceRunId dag
  unfold RecoveryService.recoverySession
  split_ifs
  · refine (readRun_keeps hclaims).bind fun sessionId => ?_
    cases sessionId with
    | some sessionId =>
      exact (onProduct_keeps hclaims fun w _ => captureRunProgress_guards sessionId previous w).bind
        fun _ => .pure fun _ hw => hw
    | none =>
      refine (onProduct_keeps hclaims fun w _ => createSession_guards _ _ w).bind fun _ => ?_
      exact (onProduct_keeps hclaims fun w _ => updateSession_guards _ _ w).bind
        fun _ => .pure fun _ hw => hw
  · exact .pure fun _ hw => hw

/-- **The new run has no task but those left over.** -/
theorem startRun_promises (dag : TaskDAG) (baseCommit : String) :
    Promises service (Claims dag) (onProduct (startRun call.answers call.newRunId dag baseCommit))
      fun _ w => w.Keyed ∧ w.Leftover call.newRunId := by
  refine onProduct_promises (fun _ => stable_leftover _) fun w hw => transact_guards
    (Q := fun _ w' => w'.Keyed ∧ w'.Leftover call.newRunId) fun _ product h => ?_
  simp only [Raising.bind_eq_ok, Raising.raiseIf_eq_ok, Raising.pure_eq_ok, Prod.mk.injEq] at h
  obtain ⟨_, -, normalized, hnormalized, _, hfresh, -, rfl⟩ := h
  have hguards : Guards service w { w with
      product := w.product.addRun
        (ProductRun.started call.newRunId call.answers.now normalized baseCommit) } :=
    .addRun hfresh fun _ => rfl
  refine ⟨hguards, hguards.keyed hw.1, _, List.mem_cons_self, rfl, fun t ht => ?_⟩
  exact hw.2 t ((TaskDAG.normalize_eq_ok hnormalized).1 ht)

theorem attachRecovery_promises (sessionId : Option UUID) :
    Promises service (fun w => w.Keyed ∧ w.Leftover call.newRunId) (RecoveryService.attachRecovery call sessionId)
      fun _ w => w.Keyed ∧ w.Leftover call.newRunId := by
  unfold RecoveryService.attachRecovery
  cases sessionId with
  | some sessionId => exact onProduct_keeps (stable_leftover _) fun w _ => attachRun_guards _ _ w
  | none => exact readRun_keeps (stable_leftover _)

/-- The tasks of the remaining graph. -/
theorem mem_of_remaining {dag dag' : TaskDAG} {completed : List String} {t : String}
    (h : dag.remaining completed = .ok (some dag')) (ht : t ∈ dag'.taskIds) :
    t ∈ dag.taskIds ∧ t ∉ completed := by
  refine ⟨?_, (TaskDAG.remaining_eq_ok h).1 t ht⟩
  unfold TaskDAG.remaining at h
  dsimp only at h
  split_ifs at h
  · cases h
  · obtain ⟨dag'', hvalid, heq⟩ := Raising.map_eq_ok.1 h
    obtain rfl := Option.some.inj heq
    obtain ⟨node, hnode, rfl⟩ := List.mem_map.1 ht
    rw [TaskDAG.ofTasks_eq_ok hvalid] at hnode
    obtain ⟨original, horiginal, rfl⟩ := List.mem_map.1 hnode
    show original.taskId ∈ dag.tasks.map TaskNode.taskId
    exact List.mem_map_of_mem (List.mem_filter.1 horiginal).1

theorem dispatchInitialTask_promises (taskId : String) :
    Promises service (fun w => (w.Keyed ∧ w.Leftover call.newRunId) ∧
        w.Linked service.sourceRunId call.newRunId) (dispatchInitialTask call.newRunId taskId)
      fun _ w => (w.Keyed ∧ w.Leftover call.newRunId) ∧
        w.Linked service.sourceRunId call.newRunId := by
  refine .await (fun w w' h hw => ⟨stable_leftover _ w w' h hw.1, h.linked _ hw.1.1 hw.2⟩)
    fun w hw _ => ⟨?_, hw⟩
  have hsame : Guards service w { w with dispatched := w.dispatched } := .refl service w
  refine { hsame with dispatched := fun d hd => ?_ }
  rcases List.mem_append.1 hd with hold | hnew
  · exact Or.inl hold
  · rw [List.mem_singleton.1 hnew]
    exact Or.inr ⟨hw.2, hw.1.2⟩

theorem launchRecovery_promises (previous : ProductRun) (dag : TaskDAG) (currentCommit : String) :
    Promises service (Claims dag) (service.launchRecovery call previous dag currentCommit)
      fun recovered w => w.Keyed ∧ w.Linked service.sourceRunId recovered := by
  refine (recoverySession_promises previous dag).bind fun sessionId => ?_
  refine (startRun_promises dag currentCommit).bind fun _ => lift_keeps.bind fun _ => ?_
  refine (attachRecovery_promises sessionId).bind fun _ => ?_
  have hstable : Stable (Respects service.sourceRunId) fun w =>
      (w.Keyed ∧ w.Leftover call.newRunId) ∧ w.Linked service.sourceRunId call.newRunId :=
    fun w w' h hw => ⟨stable_leftover _ w w' h hw.1, h.linked _ hw.1.1 hw.2⟩
  refine Guarantees.bind (Q := fun _ w => (w.Keyed ∧ w.Leftover call.newRunId) ∧
    w.Linked service.sourceRunId call.newRunId) (onProduct_promises (fun _ => hstable)
      fun w hw => ?_) fun _ => ?_
  · obtain ⟨hguards, hlinked⟩ := @linkRecovery_guards service call.newRunId _ hw.1
    exact ⟨hguards, fun u hu => ⟨stable_leftover _ _ _ hguards.toRespects hw, hlinked u hu⟩⟩
  · refine (readRun_keeps hstable).bind fun _ => lift_keeps.bind fun ready => ?_
    refine lift_keeps.bind fun _ => ?_
    refine (Guarantees.each fun taskId _ => dispatchInitialTask_promises taskId).bind fun _ => ?_
    exact lift_keeps.bind fun _ => .pure fun _ hw => ⟨hw.1.1, hw.2⟩

/-- **Every transaction of a call is one that the calls guard**, and what it returns is
the recovery that the source run is linked to. -/
theorem recoverRun_promises (i : ℕ) :
    Promises service RecoveryWorld.Keyed (service.recoverRun i call)
      fun recovered w => w.Keyed ∧ w.Linked service.sourceRunId recovered := by
  refine (acquireLock_promises i).bind fun _ => Guarantees.ensuring (stable_linked ·)
    (fun _ _ h => h.toRespects) (releaseLock_guards i) ?_
  refine (@recoveryObservation_promises _ call).bind fun answer => ?_
  refine (existingRecovery_promises answer.1).bind fun existing => ?_
  cases existing with
  | some existing =>
    exact (existingRecoveryLaunch_promises existing).strengthen fun w hw =>
      ⟨hw.1.1, hw.2 existing rfl⟩
  | none =>
    refine Guarantees.raiseIf.bind fun _ => ?_
    refine Guarantees.bind (Q := fun previous w => PreviousClaims answer.1 previous w ∧
        answer.1.displayStatus = .recoveryRequired)
      (readRun_promises (fun previous w w' h hw =>
        ⟨stable_previousClaims answer.1 previous w w' h hw.1, hw.2⟩) fun w run hw hrun hid => ?_)
      fun previous => ?_
    · have hrequired := not_not.1 hw.2
      obtain ⟨source, hsource, hid', hclaimed⟩ := hw.1.1.2 hrequired
      rw [hw.1.1.1.eq_of_key hsource hrun (hid'.trans hid.symm)] at hclaimed
      exact ⟨⟨hw.1.1.1, fun _ => hclaimed⟩, hrequired⟩
    · refine Guarantees.bind (Q := fun remaining w => ∀ dag, remaining = some dag → Claims dag w)
        (.lift fun remaining w hremaining hw dag hdag => ⟨hw.1.1, fun t ht => ?_⟩)
        fun remaining => ?_
      · subst hdag
        exact hw.1.2 hw.2 t (mem_of_remaining hremaining ht).1 (mem_of_remaining hremaining ht).2
      · cases remaining with
        | none => exact trivial
        | some dag =>
          exact (launchRecovery_promises previous dag answer.2).strengthen fun w hw => hw dag rfl

/-! ## What happens beside the calls -/

/-- The leases of the source run, with its clock. -/
def RecoveryWorld.leases (w : RecoveryWorld) (run : ProductRun) : LeaseWorld WorkContent :=
  ⟨run.rows.db, run.rows.now, w.installed, w.mutation⟩

/-- What other requests and other runs change: a run is started, a run is attached to a session, the
sessions or the repository change, or the rows or the link of another run. -/
inductive OtherRequest (sourceRunId : UUID) (w : ProductWorld) : ProductWorld → Prop
  | start (runId : UUID) (now : Timestamp) (dag : TaskDAG) (baseCommit : String)
      (fresh : runId ∉ w.runs.map ProductRun.runId) :
      OtherRequest sourceRunId w (w.addRun (ProductRun.started runId now dag baseCommit))
  | attach (sessionId runId : UUID) : OtherRequest sourceRunId w (w.attach sessionId runId)
  | sessions (sessions : List DevelopmentSession) :
      OtherRequest sourceRunId w { w with sessions }
  | repository (commits : List GitCommit) (head : String) :
      OtherRequest sourceRunId w { w with commits, head }
  | rows (runId : UUID) (rows : WorkerState) (other : runId ≠ sourceRunId) :
      OtherRequest sourceRunId w (w.mapRun runId fun run => { run with rows })
  | link (runId recoveredRunId : UUID) (other : runId ≠ sourceRunId) :
      OtherRequest sourceRunId w
        (w.mapRun runId fun run => { run with recoveryRunId := some recoveredRunId })

/-- A transaction of a worker on the source run, or another request. -/
inductive Elsewhere
  | worker (call : Call WorkContent)
  | other (product : ProductWorld)

/-- The steps beside the calls. -/
def elsewhere (sourceRunId : UUID) (action : Elsewhere) (w w' : RecoveryWorld) : Prop :=
  match action with
  | .worker call => ∃ run ∈ w.product.runs, run.runId = sourceRunId ∧ ∃ answer leases,
      leaseStep (w.leases run) call answer leases ∧
        w' = { w with
          product := w.product.mapRun sourceRunId fun run =>
            { run with rows := ⟨leases.db, leases.now⟩ }
          installed := leases.installed
          mutation := leases.mutation }
  | .other product => OtherRequest sourceRunId w.product product ∧ w' = { w with product }

/-- Another request does no more than a call. -/
theorem OtherRequest.guards {w : RecoveryWorld} {product : ProductWorld}
    (h : OtherRequest service.sourceRunId w.product product) :
    Guards service w { w with product } := by
  cases h with
  | start runId now dag baseCommit fresh => exact .addRun fresh fun _ => rfl
  | attach sessionId runId => exact attach_guards sessionId runId w
  | sessions sessions => exact (Guards.refl service w).congr_runs rfl
  | repository commits head => exact (Guards.refl service w).congr_runs rfl
  | rows runId rows other =>
    exact .mapRun (fun _ => rfl) (fun _ => rfl) (fun _ hid hsource => absurd (hid ▸ hsource) other)
      fun _ _ _ _ _ _ hlinked => hlinked
  | link runId recoveredRunId other =>
    exact .mapRun (fun _ => rfl) (fun _ => rfl) (fun _ _ _ => rfl)
      fun _ _ _ hid hsource => absurd (hid ▸ hsource) other

theorem elsewhere_respects {action : Elsewhere} {w w' : RecoveryWorld}
    (h : elsewhere service.sourceRunId action w w') : Respects service.sourceRunId w w' := by
  cases action with
  | worker call =>
    obtain ⟨run, hrun, hid, answer, leases, -, rfl⟩ := h
    have hmap : Respects service.sourceRunId w { w with
        product := w.product.mapRun service.sourceRunId fun run =>
          { run with rows := ⟨leases.db, leases.now⟩ } } :=
      .mapRun (fun _ => rfl) (fun _ => rfl) fun _ _ _ _ _ _ hlinked => hlinked
    exact ⟨hmap.keyed, hmap.kept, hmap.claimed, hmap.linked, hmap.dispatched⟩
  | other product =>
    obtain ⟨hrequest, rfl⟩ := h
    exact hrequest.guards.toRespects

/-- **A worker's transaction leases a task only with a new token.** -/
theorem worker_leased {call : Call WorkContent} {w w' : RecoveryWorld} {t : String}
    (h : elsewhere sourceRunId (.worker call) w w') (hleased : w'.Leased sourceRunId t) :
    w.Leased sourceRunId t ∨ ∃ p ∈ w'.installed, p ∉ w.installed ∧ p.1 = t := by
  obtain ⟨run, hrun, hid, answer, leases, hstep, rfl⟩ := h
  obtain ⟨run', hrun', hid', lease, hlease, hlive⟩ := hleased
  obtain ⟨old, hold, rfl⟩ := ProductWorld.mem_mapRun hrun'
  split_ifs at hid' hlease hlive with hsource
  · cases leaseStep_effect hstep t with
    | acquired lease' answered installs free fresh generation row live installed =>
      refine Or.inr ⟨(t, lease'.runToken), ?_, fun hmem => fresh (List.mem_map_of_mem hmem), rfl⟩
      show _ ∈ leases.installed
      rw [installed]
      exact List.mem_cons_self
    | used lease' lease'' answered carries before row token generation installed =>
      exact Or.inl ⟨run, hrun, hid, lease', before⟩
    | untouched row installed clock quiet silent =>
      refine Or.inl ⟨run, hrun, hid, lease, row ▸ hlease, hlive.1, lt_of_le_of_lt clock hlive.2⟩
  · exact absurd hid' hsource

/-! ## Any order of transactions -/

/-- The calls, as far as they have come. -/
abbrev RecoveryState : Type :=
  Interleaving.State ℕ RecoveryWorld Failure UUID

/-- One of the calls goes on or crashes, which frees its lock, or something happens beside
them. -/
def recoveryStep (service : RecoveryService) :
    RecoveryState → Interleaving.Action ℕ Elsewhere → Unit → RecoveryState → Prop :=
  Interleaving.step releaseLock (elsewhere service.sourceRunId)

/-- Any number of calls that have not begun, where none has dispatched anything. -/
structure Calling (service : RecoveryService) (s : RecoveryState) : Prop where
  keyed : s.shared.Keyed
  dispatched : s.shared.dispatched = []
  claimed : s.shared.claimed = []
  scripts : ∀ i x, s.scripts i = some x → ∃ call, x = service.recoverRun i call

/-- What holds of the state in every run: only the linked recovery was dispatched, and its
tasks were left over. -/
def Dispatches (sourceRunId : UUID) (w : RecoveryWorld) : Prop :=
  w.Keyed ∧ ∀ d ∈ w.dispatched, w.Linked sourceRunId d.1 ∧ w.Leftover d.1

theorem stable_dispatches : Stable (Respects sourceRunId) (Dispatches sourceRunId) := by
  refine fun w w' h hw => ⟨h.keyed hw.1, fun d hd => ?_⟩
  rcases h.dispatched d hd with hold | hnew
  · exact ⟨h.linked d.1 hw.1 (hw.2 d hold).1,
      (stable_leftover d.1 w w' h ⟨hw.1, (hw.2 d hold).2⟩).2⟩
  · exact hnew

/-- What the calls of a state promise. -/
abbrev Promised (service : RecoveryService) (s : RecoveryState) : Prop :=
  Interleaving.Sound (Respects service.sourceRunId) (Guards service)
    (fun _ recovered w => w.Keyed ∧ w.Linked service.sourceRunId recovered) s

theorem Calling.promised {s : RecoveryState} (h : Calling service s) : Promised service s := by
  intro i x hx
  obtain ⟨call, rfl⟩ := h.scripts i x hx
  exact ⟨RecoveryWorld.Keyed, stable_keyed, h.keyed, recoverRun_promises i⟩

theorem Calling.dispatches {s : RecoveryState} (h : Calling service s) :
    Dispatches service.sourceRunId s.shared := by
  refine ⟨h.keyed, fun d hd => ?_⟩
  rw [h.dispatched] at hd
  cases hd

variable {s t u : RecoveryState}
  {es fs : List (Runs.Event RecoveryState (Interleaving.Action ℕ Elsewhere) Unit)}

/-- **A run of the calls** keeps what they promise, and every predicate that no
transaction breaks. -/
theorem recoveryRun_keeps {I : RecoveryWorld → Prop} (hI : Stable (Respects service.sourceRunId) I)
    (hrun : Runs.Run (recoveryStep service) s es t) (hs : Promised service s) (hI₀ : I s.shared) :
    Promised service t ∧ I t.shared :=
  Interleaving.run_guarantees (C := fun _ => True) (fun _ _ h => h.toRespects)
    (fun i w => (releaseLock_guards i w).toRespects) (fun _ _ _ h => elsewhere_respects h)
    (fun _ _ _ hR _ hw => hI _ _ hR hw) hrun (fun _ _ => trivial) hs hI₀

/-- **One recovery of a run.**  However the calls, their crashes, the workers and other
requests interleave: a link stays, there is one, only its tasks are
dispatched, and every call that returns returns it. -/
theorem at_most_one_recovery (h : Calling service s)
    (hrun : Runs.Run (recoveryStep service) s es t)
    (hrun' : Runs.Run (recoveryStep service) t fs u) :
    (∀ r, t.shared.Linked service.sourceRunId r → u.shared.Linked service.sourceRunId r) ∧
      (∀ r r', u.shared.Linked service.sourceRunId r → u.shared.Linked service.sourceRunId r' →
        r = r') ∧
      (∀ d ∈ u.shared.dispatched, u.shared.Linked service.sourceRunId d.1) ∧
      ∀ i r, u.scripts i = some (.ended (.ok r)) → u.shared.Linked service.sourceRunId r := by
  obtain ⟨hpromised, hdispatches⟩ :=
    recoveryRun_keeps stable_dispatches hrun h.promised h.dispatches
  obtain ⟨hpromised', hdispatches'⟩ := recoveryRun_keeps stable_dispatches hrun' hpromised
    hdispatches
  refine ⟨fun r hlinked => ?_, ?_, fun d hd => (hdispatches'.2 d hd).1, fun i r hover => ?_⟩
  · exact (recoveryRun_keeps (stable_linked r) hrun' hpromised ⟨hdispatches.1, hlinked⟩).2.2
  · rintro r r' ⟨run, hrun, hid, hlinked⟩ ⟨run', hrun', hid', hlinked'⟩
    rw [hdispatches'.1.eq_of_key hrun' hrun (hid'.trans hid.symm), hlinked] at hlinked'
    exact Option.some.inj hlinked'
  · exact (hpromised'.returned hover).2

/-! ## Recoveries and live work -/

/-- A step that keeps inspections and late deliveries apart: an inspection leaves no task to a
recovery that is leased at that moment, and no task that was left over is leased anew. -/
structure KeepsApart (service : RecoveryService)
    (e : Runs.Event RecoveryState (Interleaving.Action ℕ Elsewhere) Unit) : Prop where
  inspected : ∀ t ∈ e.after.shared.claimed, t ∉ e.before.shared.claimed →
    ¬e.before.shared.Leased service.sourceRunId t
  acquired : ∀ p ∈ e.after.shared.installed, p ∉ e.before.shared.installed →
    p.1 ∉ e.before.shared.claimed

/-- What was left over is not leased, and all that is dispatched was left over. -/
def ClaimsIdle (sourceRunId : UUID) (w : RecoveryWorld) : Prop :=
  Dispatches sourceRunId w ∧ ∀ t ∈ w.claimed, ¬w.Leased sourceRunId t

/-- **A step that keeps them apart keeps the claimed tasks idle.** -/
theorem idle_step {e : Runs.Event RecoveryState (Interleaving.Action ℕ Elsewhere) Unit}
    (hapart : KeepsApart service e)
    (hstep : recoveryStep service e.before e.input e.output e.after)
    (hrespects : Respects service.sourceRunId e.before.shared e.after.shared)
    (hguards : ∀ i, e.input = .advance i → Guards service e.before.shared e.after.shared)
    (h : ClaimsIdle service.sourceRunId e.before.shared) : ClaimsIdle service.sourceRunId e.after.shared := by
  refine ⟨stable_dispatches _ _ hrespects h.1, ?_⟩
  have hquiet : Guards service e.before.shared e.after.shared →
      ∀ t ∈ e.after.shared.claimed, ¬e.after.shared.Leased service.sourceRunId t := by
    intro hguarded t ht hleased
    by_cases hold : t ∈ e.before.shared.claimed
    · exact h.2 t hold (hguarded.leased t hleased)
    · exact hapart.inspected t ht hold (hguarded.leased t hleased)
  obtain ⟨before, input, output, after⟩ := e
  cases input with
  | advance i => exact hquiet (hguards i rfl)
  | crash i =>
    have hafter : after.shared = releaseLock i before.shared :=
      congrArg Interleaving.State.shared hstep
    exact hquiet (hafter ▸ releaseLock_guards i before.shared)
  | interfere action =>
    cases action with
    | other product =>
      obtain ⟨⟨hrequest, heq⟩, -⟩ := hstep
      exact hquiet (heq ▸ hrequest.guards)
    | worker call =>
      intro t ht hleased
      have hold : t ∈ before.shared.claimed := by
        obtain ⟨_, _, _, _, _, _, heq⟩ := hstep.1
        exact (congrArg RecoveryWorld.claimed heq) ▸ ht
      rcases worker_leased hstep.1 hleased with hbefore | ⟨p, hp, hnew, rfl⟩
      · exact h.2 t hold hbefore
      · exact hapart.acquired p hp hnew hold

/-- **No work package of a dispatched recovery is leased in the source run**, in any run
that keeps inspections and late deliveries apart. -/
theorem recovered_tasks_idle (h : Calling service s)
    (hrun : Runs.Run (recoveryStep service) s es t) (hapart : ∀ e ∈ es, KeepsApart service e) :
    ∀ d ∈ t.shared.dispatched, ∀ run ∈ t.shared.product.runs, run.runId = d.1 →
      ∀ taskId ∈ run.dag.taskIds, ¬t.shared.Leased service.sourceRunId taskId := by
  have hidle : ClaimsIdle service.sourceRunId s.shared := by
    refine ⟨h.dispatches, fun t ht => ?_⟩
    rw [h.claimed] at ht
    cases ht
  have hend := (Interleaving.run_guarantees (C := KeepsApart service) (fun _ _ h => h.toRespects)
    (fun i w => (releaseLock_guards i w).toRespects) (fun _ _ _ h => elsewhere_respects h)
    (fun _ hevent hstep hR hG hw => idle_step hevent hstep hR hG hw) hrun hapart h.promised
    hidle).2
  intro d hd run hmem hid taskId htask
  obtain ⟨recovered, hrecovered, hid', hclaimed⟩ := (hend.1.2 d hd).2
  rw [hend.1.1.eq_of_key hrecovered hmem (hid'.trans hid.symm)] at hclaimed
  exact hend.2 taskId (hclaimed taskId htask)

/-! ### A released lease without evidence -/

/-- A lease of the source run. -/
def sampleLease (dispatch : ℕ) (releasedAt : Option Timestamp) : Lease where
  owner := "worker"
  dispatchId := ⟨dispatch⟩
  generation := 1
  runToken := ⟨dispatch + 100⟩
  acquiredAt := 0
  heartbeatAt := 0
  leaseUntil := 900000000
  releasedAt := releasedAt
  generation_pos := Lease.firstGeneration

/-- A RUNNING run of two tasks: the worker of `api` released its lease and left no evidence,
`docs` has the given lease. -/
def gapRun (docs : Option Lease) : ProductRun where
  runId := ⟨1⟩
  rows :=
    { db := { Database.created WorkContent ⟨1⟩ ["api", "docs"] with
        lease := fun taskId => if taskId = "api" then some (sampleLease 11 (some 1))
          else if taskId = "docs" then docs else none }
      now := 600000000 }
  dag := readyPair
  baseCommit := sampleOid '0'

def gapWorld (docs : Option Lease) : RecoveryWorld where
  product :=
    { runs := [gapRun docs]
      sessions := []
      commits := [⟨sampleOid '0', sampleOid '9', [], []⟩]
      head := sampleOid '0' }
  columns := (failedRows none).columns
  createdAt := fun _ => 0
  installed := []
  mutation := none
  lock := none
  dispatched := []
  claimed := []

def gapService : RecoveryService where
  store := RunRecoveryStore.defaultStore
  dumps := bareDumps
  collation := codePointCollation
  hasSessions := false
  sourceRunId := ⟨1⟩

def gapCall : RecoveryCall where
  answers :=
    { synchronize := .ok (sampleOid '0')
      preflight := .ok ()
      budgetPlan := fun _ => .ok ()
      initializeBudget := .ok ()
      now := 600000000 }
  workspace := .ok ()
  newSessionId := ⟨3⟩
  newRunId := ⟨2⟩
  dispatch := fun _ => .ok ()

/-- One call, which has not begun. -/
def gapState (docs : Option Lease) : RecoveryState where
  shared := gapWorld docs
  scripts := fun i => if i = 0 then some (gapService.recoverRun 0 gapCall) else none

theorem gapState_calling (docs : Option Lease) : Calling gapService (gapState docs) where
  keyed := List.nodup_singleton _
  dispatched := rfl
  claimed := rfl
  scripts := by
    intro i x hx
    simp only [gapState, Option.ite_none_right_eq_some, Option.some.injEq] at hx
    obtain ⟨rfl, rfl⟩ := hx
    exact ⟨gapCall, rfl⟩

/-- What the call leaves behind: what it returned and dispatched, the graph of the new
run, and whether `docs` is leased in the source run. -/
def gapOutcome (docs : Option Lease) :
    Option (Option UUID × List (UUID × String) × List (UUID × List String) × Bool) :=
  ((gapService.recoverRun 0 gapCall).alone (gapWorld docs)).map fun r =>
    (r.1.toOption, r.2.dispatched, r.2.product.runs.map fun run => (run.runId, run.dag.taskIds),
      r.2.product.runs.any fun run => run.runId = ⟨1⟩ &&
        (run.rows.db.lease "docs").any fun lease => lease.Live run.rows.now)

/-- The call on its own, up to the lease of `docs`. -/
def gapRecovered (leased : Bool) :
    Option (Option UUID × List (UUID × String) × List (UUID × List String) × Bool) :=
  some (some ⟨2⟩, [(⟨2⟩, "api"), (⟨2⟩, "docs")],
    [(⟨2⟩, ["api", "docs"]), (⟨1⟩, ["api", "docs"])], leased)

theorem gapOutcome_leased : gapOutcome (some (sampleLease 12 none)) = gapRecovered true :=
  rfl

theorem gapOutcome_free : gapOutcome none = gapRecovered false :=
  rfl

/-- The run of that call. -/
theorem exists_gap_run {docs : Option Lease} {leased : Bool}
    (h : gapOutcome docs = gapRecovered leased) :
    ∃ es t, Runs.Run (recoveryStep gapService) (gapState docs) es t ∧
      (∀ e ∈ es, e.input = .advance 0) ∧ t.scripts 0 = some (.ended (.ok ⟨2⟩)) ∧
      (⟨2⟩, "docs") ∈ t.shared.dispatched ∧
      (∃ run ∈ t.shared.product.runs, run.runId = ⟨2⟩ ∧ "docs" ∈ run.dag.taskIds) ∧
      (leased = true → t.shared.Leased ⟨1⟩ "docs") := by
  obtain ⟨⟨answer, w⟩, halone, hw⟩ := Option.map_eq_some_iff.1 h
  simp only [Prod.mk.injEq] at hw
  obtain ⟨hanswer, hdispatched, hruns, hleased⟩ := hw
  obtain ⟨es, hrun, hes⟩ := @Interleaving.exists_run_alone _ _ _ _ _ releaseLock
    (elsewhere gapService.sourceRunId) (gapState docs) _ 0 _ _ _ rfl halone
  obtain rfl := Raising.toOption_eq_some.1 hanswer
  refine ⟨es, _, hrun, hes, ?_, ?_, ?_, fun htrue => ?_⟩
  · simp
  · show (⟨2⟩, "docs") ∈ w.dispatched
    rw [hdispatched]
    exact List.mem_cons_of_mem _ List.mem_cons_self
  · have hmem : ((⟨2⟩ : UUID), ["api", "docs"]) ∈
        w.product.runs.map fun run => (run.runId, run.dag.taskIds) := by
      rw [hruns]
      exact List.mem_cons_self
    obtain ⟨run, hmem, heq⟩ := List.mem_map.1 hmem
    obtain ⟨hid, hdag⟩ := Prod.mk.inj heq
    exact ⟨run, hmem, hid, hdag ▸ List.mem_cons_of_mem _ List.mem_cons_self⟩
  · obtain ⟨run, hmem, hrow⟩ := List.any_eq_true.1 (hleased.trans htrue)
    rw [Bool.and_eq_true, decide_eq_true_eq, Option.any_eq_true] at hrow
    obtain ⟨hid, lease, hlease, hlive⟩ := hrow
    exact ⟨run, hmem, hid, lease, hlease, of_decide_eq_true hlive⟩

/-- The call returns the recovery that it linked and dispatched. -/
theorem at_most_one_recovery_gap : ∃ es t, Runs.Run (recoveryStep gapService) (gapState none) es t ∧
    t.scripts 0 = some (.ended (.ok ⟨2⟩)) ∧ t.shared.Linked ⟨1⟩ ⟨2⟩ := by
  obtain ⟨es, t, hrun, -, hover, -⟩ := exists_gap_run gapOutcome_free
  exact ⟨es, t, hrun, hover,
    (at_most_one_recovery (gapState_calling none) hrun (.nil t)).2.2.2 0 ⟨2⟩ hover⟩

/-- Calls alone lease nothing, so they keep inspections and deliveries apart where nothing
is leased. -/
theorem keepsApart_of_advance (hs : Promised service s)
    (hrun : Runs.Run (recoveryStep service) s es t) (hes : ∀ e ∈ es, e.input = .advance 0)
    (hfree : ∀ taskId, ¬s.shared.Leased service.sourceRunId taskId) :
    ∀ e ∈ es, KeepsApart service e := by
  induction hrun with
  | nil => exact fun e he => absurd he List.not_mem_nil
  | @cons s u t action o es hstep _ ih =>
    rw [List.forall_mem_cons] at hes
    obtain ⟨hadvance, -, hpromised⟩ := hs.step (fun _ _ h => h.toRespects)
      (fun i w => (releaseLock_guards i w).toRespects) (fun _ _ h => elsewhere_respects h) hstep
    have hguards := hadvance 0 hes.1
    refine List.forall_mem_cons.2 ⟨⟨fun taskId _ _ => hfree taskId, fun p hp hnew => ?_⟩,
      ih hpromised hes.2 fun taskId hleased => hfree taskId (hguards.leased taskId hleased)⟩
    exact absurd (hguards.installed ▸ hp) hnew

/-- With no lease on `docs` its recovery is dispatched and nothing of it is leased. -/
theorem recovered_tasks_idle_gap : ∃ es t,
    Runs.Run (recoveryStep gapService) (gapState none) es t ∧
      (⟨2⟩, "docs") ∈ t.shared.dispatched ∧ ¬t.shared.Leased ⟨1⟩ "docs" := by
  obtain ⟨es, t, hrun, hes, -, hdispatched, ⟨run, hmem, hid, hdag⟩, -⟩ :=
    exists_gap_run gapOutcome_free
  have hfree : ∀ taskId, ¬(gapState none).shared.Leased gapService.sourceRunId taskId := by
    rintro taskId ⟨run, hrun, -, lease, hlease, hlive⟩
    obtain rfl := List.mem_singleton.1 hrun
    by_cases hapi : taskId = "api"
    · simp only [gapRun, hapi, if_true, Option.some.injEq] at hlease
      subst hlease
      cases hlive.1
    · by_cases hdocs : taskId = "docs" <;> simp [gapRun, hapi, hdocs] at hlease
  exact ⟨es, t, hrun, hdispatched, recovered_tasks_idle (gapState_calling none) hrun
    (keepsApart_of_advance (gapState_calling none).promised hrun hes hfree) _ hdispatched run hmem
    hid "docs" hdag⟩

/-- **The released lease of one task is reason enough to dispatch the other one again**, while
its worker still holds a live lease in the source run. -/
theorem released_gap_dispatches_leased_task : ∃ es t,
    Calling gapService (gapState (some (sampleLease 12 none))) ∧
      Runs.Run (recoveryStep gapService) (gapState (some (sampleLease 12 none))) es t ∧
      (⟨2⟩, "docs") ∈ t.shared.dispatched ∧
      (∃ run ∈ t.shared.product.runs, run.runId = ⟨2⟩ ∧ "docs" ∈ run.dag.taskIds) ∧
      t.shared.Leased ⟨1⟩ "docs" := by
  obtain ⟨es, t, hrun, -, -, hdispatched, hdag, hleased⟩ := exists_gap_run gapOutcome_leased
  exact ⟨es, t, gapState_calling _, hrun, hdispatched, hdag, hleased rfl⟩

end DevFlow
