/-
# The hard gate is sound and complete

The verdict of `verify` is the conjunction of the checks that it recorded, so a command
that left no check would be forgotten.  A command that is refused leaves a failed check,
and the loop stops early only after one (`runPrepared_eq_ok`); so when all checks passed,
every command was run, in the order of the stages.  The other way round a run that passed
is no reason for a check that failed.
-/

import DevFlow.Verification.Verifier

namespace DevFlow

open Verifier

/-- A command passed: the runner reports no failure, the exit code is zero, and an output
that is asserted is what was printed up to line breaks at its end. -/
structure CommandRun.Passed (run : CommandRun) : Prop where
  no_failure : run.execution.failureType = none
  exit_code : run.execution.exitCode = some 0
  output : ∀ expected ∈ run.spec.expectedStdout, rstripBreaks run.execution.stdout = expected

theorem runPassed_iff (run : CommandRun) :
    runPassed run.spec run.execution = true ↔ run.Passed := by
  rw [runPassed, decide_eq_true_eq]
  constructor
  · rintro ⟨⟨hfailure, hexit⟩, houtput⟩
    exact ⟨hfailure, hexit, houtput⟩
  · rintro ⟨hfailure, hexit, houtput⟩
    exact ⟨⟨hfailure, hexit⟩, houtput⟩

/-- The runs are those that the runner answered, one after the other. -/
def VerificationWorld.Answered (world : VerificationWorld) (runs : List CommandRun) : Prop :=
  ∀ before run after, runs = before ++ run :: after →
    world.run before run.spec.argv = .ok run.execution

/-- The scope check of the changed files passes. -/
def ScopePasses (task : TaskContractRecord) (changedFiles : List String) : Prop :=
  ∃ result, scopeCheck task.val.toTaskContract changedFiles = .ok result ∧ result.passed = true

/-- What the hard gate asks for, of the runs that were made. -/
structure HardGate (verifier : DeterministicVerifier) (world : VerificationWorld)
    (task : TaskContractRecord) (runs : List CommandRun) : Prop where
  pre_scope : ScopePasses task (world.changedFiles [])
  budget : task.val.verificationCommands.length ≤ verifier.maxCommands
  commands : ∀ command ∈ task.val.verificationCommands, ∃ spec,
    classifyCommand command = .ok spec ∧
    (spec.requiresSandbox = true → world.isSandboxed = true) ∧
    (runs.map CommandRun.command).count command = 1 ∧
    ∃ execution, (⟨command, spec, execution⟩ : CommandRun) ∈ runs ∧
      (⟨command, spec, execution⟩ : CommandRun).Passed
  post_scope : ScopePasses task (world.changedFiles runs)

/-- The commands of a task are different from each other. -/
theorem TaskContractRecord.commands_nodup (task : TaskContractRecord) :
    task.val.verificationCommands.Nodup := by
  have h := task.property
  simp only [TaskContractFields.validate, validateNonEmptyItems, Raising.bind_eq_ok,
    Raising.raiseIf_eq_ok, Raising.pure_eq_ok, not_not] at h
  obtain ⟨_, -, _, -, _, -, _, -, commands, ⟨_, -, _, hnodup, rfl⟩, _, -, heq⟩ := h
  rw [← heq]
  exact hnodup

namespace DeterministicVerifier

variable {verifier : DeterministicVerifier} {world : VerificationWorld}
  {task : TaskContractRecord}

/-! ### The loops -/

/-- The command of a prepared one was classified. -/
theorem mem_prepare {commands : List String} {item : PreparedCommand} :
    item ∈ (prepare commands).2 ↔ item.command ∈ commands ∧
      classifyCommand item.command = .ok item.spec ∧ item.stage = item.spec.verificationStage := by
  induction commands with
  | nil => simp [prepare]
  | cons command rest ih =>
    rw [prepare]
    dsimp only
    split
    · rename_i failure hrefused
      rw [ih, List.mem_cons]
      constructor
      · exact fun h => ⟨Or.inr h.1, h.2⟩
      · rintro ⟨rfl | hmem, hspec, hstage⟩
        · rw [hrefused] at hspec
          cases hspec
        · exact ⟨hmem, hspec, hstage⟩
    · rename_i spec hclassified
      rw [List.mem_cons, ih, List.mem_cons]
      constructor
      · rintro (rfl | h)
        · exact ⟨Or.inl rfl, hclassified, rfl⟩
        · exact ⟨Or.inr h.1, h.2⟩
      · rintro ⟨rfl | hmem, hspec, hstage⟩
        · rw [hclassified] at hspec
          obtain ⟨command, spec', stage⟩ := item
          obtain rfl : spec = spec' := Except.ok.inj hspec
          have hsame : stage = spec.verificationStage := hstage
          exact Or.inl (by rw [hsame])
        · exact Or.inr ⟨hmem, hspec, hstage⟩

theorem prepare_sublist (commands : List String) :
    ((prepare commands).2.map PreparedCommand.command).Sublist commands := by
  induction commands with
  | nil => exact List.Sublist.slnil
  | cons command rest ih =>
    rw [prepare]
    dsimp only
    split
    · exact ih.cons _
    · exact ih.cons_cons _

/-- **Every command that is refused leaves a failed check.** -/
theorem prepare_all_iff (commands : List String) :
    (prepare commands).1.all CheckResultFields.passed = true ↔
      ∀ command ∈ commands, ∃ spec, classifyCommand command = .ok spec := by
  induction commands with
  | nil => simp [prepare]
  | cons command rest ih =>
    rw [prepare, List.forall_mem_cons, ← ih]
    dsimp only
    split
    · rename_i failure hrefused
      simp [unsupportedCheck, hrefused]
    · rename_i spec hclassified
      simp [hclassified]

theorem sortedByStage_perm (prepared : List PreparedCommand) :
    (sortedByStage prepared).Perm prepared := by
  have h := List.filter_append_perm (fun item : PreparedCommand => item.stage = .fast) prepared
  simpa [sortedByStage] using h

/-- A prepared command and its run. -/
def IsRunOf (item : PreparedCommand) (run : CommandRun) : Prop :=
  run.command = item.command ∧ run.spec = item.spec

theorem Answered.concat {runs : List CommandRun} (run : CommandRun)
    (h : world.Answered runs) (hrun : world.run runs run.spec.argv = .ok run.execution) :
    world.Answered (runs ++ [run]) := by
  intro before run' after hsplit
  rcases List.eq_nil_or_concat after with rfl | ⟨front, last, rfl⟩
  · obtain ⟨rfl, hlast⟩ := List.append_inj' hsplit rfl
    obtain rfl := (List.cons.inj hlast).1
    exact hrun
  · rw [List.concat_eq_append, ← List.cons_append, ← List.append_assoc] at hsplit
    exact h before run' front (List.append_inj' hsplit rfl).1

/-- One round of the loop: the command is refused, or it is run and leaves a check that
passed exactly when the run did; the loop may stop behind a failed one. -/
theorem runPrepared_cons_eq_ok {item : PreparedCommand} {rest : List PreparedCommand}
    {state state' : VerifyState} (h : verifier.runPrepared world (item :: rest) state = .ok state') :
    (item.spec.requiresSandbox = true ∧ world.isSandboxed = false ∧
      verifier.runPrepared world rest
        { state with checks := state.checks ++ [sandboxRequiredCheck item.command] } = .ok state') ∨
    ((item.spec.requiresSandbox = true → world.isSandboxed = true) ∧ ∃ run check, IsRunOf item run ∧
      world.run state.runs run.spec.argv = .ok run.execution ∧
      (check.passed = true ↔ run.Passed) ∧
      ((check.passed = false ∧ state' = ⟨state.checks ++ [check], state.runs ++ [run]⟩) ∨
        verifier.runPrepared world rest ⟨state.checks ++ [check], state.runs ++ [run]⟩ =
          .ok state')) := by
  rw [runPrepared] at h
  split_ifs at h with hneeds
  · exact Or.inl ⟨hneeds.1, hneeds.2, h⟩
  · obtain ⟨execution, hexecution, commandCheck, hvalid, hloop⟩ := by
      simpa only [Raising.bind_eq_ok] using h
    have hpassed : commandCheck.passed = runPassed item.spec execution := by
      rw [(CheckResultFields.validate_eq_ok.1 hvalid).2.2.2.2.2.2.2]
      rfl
    refine Or.inr ⟨by simpa using hneeds, ⟨item.command, item.spec, execution⟩,
      { commandCheck with
        executionDetails := commandCheck.executionDetails ++
          ["verification_stage=" ++ item.stage.value] }, ⟨rfl, rfl⟩, hexecution, ?_, ?_⟩
    · rw [← runPassed_iff]
      exact Bool.eq_iff_iff.1 hpassed
    · split_ifs at hloop with hstop
      · exact Or.inl ⟨hstop.2, (Raising.pure_eq_ok.1 hloop).symm⟩
      · exact Or.inr hloop

/-- **The loop over the prepared commands**: it makes runs of some of them, in order, and
its checks passed exactly when all commands may be run and all that were run passed; then
all of them were. -/
theorem runPrepared_eq_ok {items : List PreparedCommand} (state : VerifyState)
    {state' : VerifyState} (hanswered : world.Answered state.runs)
    (h : verifier.runPrepared world items state = .ok state') :
    world.Answered state'.runs ∧ ∃ checks runs,
      state'.checks = state.checks ++ checks ∧ state'.runs = state.runs ++ runs ∧
      (∃ made, made.Sublist items ∧ List.Forall₂ IsRunOf made runs) ∧
      (checks.all CheckResultFields.passed = true ↔
        (∀ item ∈ items, item.spec.requiresSandbox = true → world.isSandboxed = true) ∧
          ∀ run ∈ runs, run.Passed) ∧
      (checks.all CheckResultFields.passed = true → List.Forall₂ IsRunOf items runs) := by
  induction items generalizing state with
  | nil =>
    obtain rfl := Raising.pure_eq_ok.1 h
    exact ⟨hanswered, [], [], by simp, by simp, ⟨[], List.Sublist.slnil, List.Forall₂.nil⟩,
      by simp, fun _ => List.Forall₂.nil⟩
  | cons item rest ih =>
    rcases runPrepared_cons_eq_ok h with ⟨hneeds, hhost, hloop⟩ |
      ⟨hallowed, run, check, hrun, hexecution, hcheck, ⟨hfailed, rfl⟩ | hloop⟩
    · -- the command is refused: its check is failed, and it has no run
      obtain ⟨hanswered', checks, runs, hchecks, hruns, ⟨made, hmade, hmatch⟩, -, -⟩ :=
        ih { state with checks := state.checks ++ [sandboxRequiredCheck item.command] } hanswered
          hloop
      have hfailed : (sandboxRequiredCheck item.command :: checks).all
          CheckResultFields.passed = false := by
        simp [sandboxRequiredCheck]
      refine ⟨hanswered', sandboxRequiredCheck item.command :: checks, runs, ?_, hruns,
        ⟨made, hmade.cons item, hmatch⟩, ?_, fun hall => ?_⟩
      · rw [hchecks]
        exact (List.append_cons _ _ _).symm
      · rw [hfailed]
        refine ⟨nofun, fun hall => ?_⟩
        rw [hall.1 item List.mem_cons_self hneeds] at hhost
        cases hhost
      · rw [hfailed] at hall
        cases hall
    · -- the loop stops behind a failed check
      refine ⟨Answered.concat run hanswered hexecution, [check], [run], rfl, rfl, ⟨[item], ?_, ?_⟩,
        ?_, fun hall => ?_⟩
      · exact List.singleton_sublist.2 List.mem_cons_self
      · exact List.Forall₂.cons hrun List.Forall₂.nil
      · have hnot : ¬run.Passed := fun hpassed => by
          rw [hcheck.2 hpassed] at hfailed
          cases hfailed
        simp [hfailed, hnot]
      · simp [hfailed] at hall
    · obtain ⟨hanswered', checks, runs, hchecks, hruns, ⟨made, hmade, hmatch⟩, hiff, hall⟩ :=
        ih ⟨state.checks ++ [check], state.runs ++ [run]⟩
          (Answered.concat run hanswered hexecution) hloop
      refine ⟨hanswered', check :: checks, run :: runs, ?_, ?_,
        ⟨item :: made, hmade.cons_cons item, List.Forall₂.cons hrun hmatch⟩, ?_, fun h => ?_⟩
      · rw [hchecks]
        exact (List.append_cons _ _ _).symm
      · rw [hruns]
        exact (List.append_cons _ _ _).symm
      · rw [List.all_cons, Bool.and_eq_true, hiff, hcheck, List.forall_mem_cons,
          List.forall_mem_cons]
        exact ⟨fun h => ⟨⟨hallowed, h.2.1⟩, h.1, h.2.2⟩, fun h => ⟨h.2.1, h.1.2, h.2.2⟩⟩
      · rw [List.all_cons, Bool.and_eq_true] at h
        exact List.Forall₂.cons hrun (hall h.2)

/-! ### The verdict -/

theorem scopePasses_iff {changedFiles : List String} {result : ScopeCheckResult}
    (h : scopeCheck task.val.toTaskContract changedFiles = .ok result) :
    ScopePasses task changedFiles ↔ result.passed = true := by
  constructor
  · rintro ⟨other, hother, hpassed⟩
    rw [h] at hother
    exact Except.ok.inj hother ▸ hpassed
  · exact fun hpassed => ⟨result, h, hpassed⟩

/-- **The loops and the gate**: all commands were classified, and the checks of the loop
over the prepared ones passed, exactly when each command was run once and passed. -/
theorem commands_passed_iff {commands : List String} {runs : List CommandRun}
    {checks : List CheckResultFields} (hnodup : commands.Nodup)
    (hmade : ∃ made, made.Sublist (sortedByStage (prepare commands).2) ∧
      List.Forall₂ IsRunOf made runs)
    (hiff : checks.all CheckResultFields.passed = true ↔
      (∀ item ∈ sortedByStage (prepare commands).2,
        item.spec.requiresSandbox = true → world.isSandboxed = true) ∧ ∀ run ∈ runs, run.Passed)
    (hall : checks.all CheckResultFields.passed = true →
      List.Forall₂ IsRunOf (sortedByStage (prepare commands).2) runs) :
    ((prepare commands).1.all CheckResultFields.passed = true ∧
        checks.all CheckResultFields.passed = true) ↔
      ∀ command ∈ commands, ∃ spec, classifyCommand command = .ok spec ∧
        (spec.requiresSandbox = true → world.isSandboxed = true) ∧
        (runs.map CommandRun.command).count command = 1 ∧
        ∃ execution, (⟨command, spec, execution⟩ : CommandRun) ∈ runs ∧
          (⟨command, spec, execution⟩ : CommandRun).Passed := by
  have hsorted : ∀ item, item ∈ sortedByStage (prepare commands).2 ↔ item ∈ (prepare commands).2 :=
    fun item => (sortedByStage_perm _).mem_iff
  have hids : ((sortedByStage (prepare commands).2).map PreparedCommand.command).Nodup :=
    ((sortedByStage_perm _).map _).nodup_iff.2 ((prepare_sublist commands).nodup hnodup)
  have hcommands : ∀ {items : List PreparedCommand}, List.Forall₂ IsRunOf items runs →
      runs.map CommandRun.command = items.map PreparedCommand.command := by
    intro items hmatch
    rw [← List.forall₂_eq_eq_eq, List.forall₂_map_left_iff, List.forall₂_map_right_iff]
    exact hmatch.flip.imp fun _ _ h => h.1
  obtain ⟨made, hsub, hmatch⟩ := hmade
  have hruns : (runs.map CommandRun.command).Nodup := by
    rw [hcommands hmatch]
    exact (hsub.map _).nodup hids
  rw [prepare_all_iff]
  constructor
  · rintro ⟨hclassified, hchecks⟩ command hcommand
    obtain ⟨spec, hspec⟩ := hclassified command hcommand
    have hitem : (⟨command, spec, spec.verificationStage⟩ : PreparedCommand) ∈
        sortedByStage (prepare commands).2 :=
      (hsorted _).2 (mem_prepare.2 ⟨hcommand, hspec, rfl⟩)
    obtain ⟨hallowed, hpassed⟩ := hiff.1 hchecks
    obtain ⟨⟨command', spec', execution⟩, hmem, hname, hsame⟩ :=
      Raising.exists_of_forall₂_left (hall hchecks) hitem
    obtain rfl : command' = command := hname
    obtain rfl : spec' = spec := hsame
    refine ⟨spec', hspec, hallowed _ hitem, ?_, execution, hmem, hpassed _ hmem⟩
    exact List.count_eq_one_of_mem hruns (List.mem_map_of_mem hmem)
  · intro hgate
    refine ⟨fun command hcommand => ?_, hiff.2 ⟨fun item hitem => ?_, fun run hrun => ?_⟩⟩
    · obtain ⟨spec, hspec, -⟩ := hgate command hcommand
      exact ⟨spec, hspec⟩
    · obtain ⟨hcommand, hspec, -⟩ := mem_prepare.1 ((hsorted item).1 hitem)
      obtain ⟨spec, hspec', hallowed, -⟩ := hgate item.command hcommand
      rw [hspec] at hspec'
      exact Except.ok.inj hspec' ▸ hallowed
    · obtain ⟨item, hitem, hrunOf⟩ := Raising.exists_of_forall₂_left hmatch.flip hrun
      obtain ⟨hcommand, -, -⟩ := mem_prepare.1 ((hsorted item).1 (hsub.subset hitem))
      obtain ⟨spec, -, -, -, execution, hmem, hpassed⟩ := hgate item.command hcommand
      obtain rfl := List.inj_on_of_nodup_map hruns hrun hmem hrunOf.1
      exact hpassed

/-- **The verdict of a verification**: its runs are answers of the runner, and it passed
exactly when the hard gate holds of them. -/
theorem verify_eq_ok {result : VerificationResultFields} {runs : List CommandRun}
    (h : verifier.verify world task = .ok (result, runs)) :
    world.Answered runs ∧ (result.passed = true ↔ HardGate verifier world task runs) := by
  have hstart : world.Answered [] := fun before run after hsplit => by simp at hsplit
  simp only [verify, Raising.bind_eq_ok] at h
  obtain ⟨scopeResult, hscope, h⟩ := h
  have hpre := scopePasses_iff hscope
  split_ifs at h with hfailed hbudget
  · simp only [Raising.bind_eq_ok, Raising.pure_eq_ok, Prod.mk.injEq] at h
    obtain ⟨_, hresult, rfl, rfl⟩ := h
    obtain rfl := (VerificationResultFields.validate_eq_ok.1 hresult).2.2
    refine ⟨hstart, fun hpassed => Bool.noConfusion hpassed, fun hgate => ?_⟩
    rw [hpre.1 hgate.pre_scope] at hfailed
    cases hfailed
  · simp only [Raising.bind_eq_ok, Raising.pure_eq_ok, Prod.mk.injEq] at h
    obtain ⟨_, hresult, rfl, rfl⟩ := h
    obtain rfl := (VerificationResultFields.validate_eq_ok.1 hresult).2.2
    refine ⟨hstart, fun hpassed => Bool.noConfusion hpassed, fun hgate => ?_⟩
    have hle := hgate.budget
    omega
  · simp only [Raising.bind_eq_ok, Raising.pure_eq_ok, Prod.mk.injEq] at h
    obtain ⟨state, hloop, postScope, hpost, _, hresult, rfl, rfl⟩ := h
    obtain rfl := (VerificationResultFields.validate_eq_ok.1 hresult).2.2
    have hpostIff := scopePasses_iff hpost
    obtain ⟨hanswered, checks, runs, hchecks, hruns, hmade, hiff, hall⟩ :=
      runPrepared_eq_ok _ hstart hloop
    rw [List.nil_append] at hruns
    subst hruns
    have hcommands := commands_passed_iff (TaskContractRecord.commands_nodup task) hmade hiff hall
    have hscopeCheck : scopeResult.passed = true := by simpa using hfailed
    refine ⟨hanswered, ?_⟩
    have hverdict : (if postScope.passed = false then
          state.checks ++ [scopeCheckResult "git_scope_post_verification" postScope]
        else state.checks).all CheckResultFields.passed = true ↔
        ((prepare task.val.verificationCommands).1.all CheckResultFields.passed = true ∧
          checks.all CheckResultFields.passed = true) ∧ postScope.passed = true := by
      have hfirst : (scopeCheckResult "git_scope" scopeResult).passed = true := hscopeCheck
      have hlast : (scopeCheckResult "git_scope_post_verification" postScope).passed =
          postScope.passed := rfl
      rw [hchecks]
      cases hpassed : postScope.passed with
      | false => simp [List.all_append, hlast, hpassed]
      | true => simp [List.all_append, hfirst]
    dsimp only
    rw [hverdict, hcommands]
    constructor
    · rintro ⟨hgate, hpassed⟩
      exact ⟨hpre.2 hscopeCheck, not_lt.1 hbudget, hgate, hpostIff.2 hpassed⟩
    · exact fun hgate => ⟨hgate.commands, hpostIff.1 hgate.post_scope⟩

/-! ### Runners that answer -/

/-- The names of the checks of commands. -/
theorem classifyCommand_name {command : String} {spec : CommandSpec}
    (h : classifyCommand command = .ok spec) :
    spec.name ∈ ["python_stdout", "pytest", "ruff", "custom"] := by
  have hpytest {arguments : List String} (h : pytestSpec arguments = .ok spec) :
      spec.name = "pytest" := by
    simp only [pytestSpec, Raising.bind_eq_ok, Raising.pure_eq_ok] at h
    obtain ⟨_, -, rfl⟩ := h
    rfl
  have hruff {arguments : List String} (h : ruffSpec arguments = .ok spec) :
      spec.name = "ruff" := by
    simp only [ruffSpec, Raising.bind_eq_ok, Raising.pure_eq_ok] at h
    obtain ⟨_, -, _, -, rfl⟩ := h
    rfl
  have hcustom {argv : List String} (h : customSpec argv = .ok spec) : spec.name = "custom" := by
    simp only [customSpec, Raising.bind_eq_ok, Raising.pure_eq_ok] at h
    obtain ⟨_, -, rfl⟩ := h
    rfl
  unfold classifyCommand at h
  split at h
  · simp only [Raising.bind_eq_ok, Raising.pure_eq_ok] at h
    obtain ⟨_, -, _, -, rfl⟩ := h
    simp
  · obtain ⟨argv, -, h⟩ := Raising.bind_eq_ok.1 h
    split at h
    · cases h
    · obtain ⟨_, -, h⟩ := Raising.bind_eq_ok.1 h
      split_ifs at h
      · simp [hpytest h]
      · simp [hruff h]
      · simp [hpytest h]
      · simp [hruff h]
      · simp [hcustom h]

end DeterministicVerifier

/-- The runner does not raise, and what it says of an execution can be recorded: its
details are not blank and different, and its duration is not negative. -/
def VerificationWorld.WellFormed (world : VerificationWorld) : Prop :=
  ∀ runs argv, ∃ execution, world.run runs argv = .ok execution ∧ 0 ≤ execution.durationMs ∧
    ∃ details, validateExecutionDetails execution.details = .ok details

namespace DeterministicVerifier

variable {verifier : DeterministicVerifier} {world : VerificationWorld}
  {task : TaskContractRecord}

/-- The check of an execution can be recorded. -/
theorem exists_validate_runCheck (verifier : DeterministicVerifier) {command : String} {spec : CommandSpec}
    {execution : VerificationExecution} (hspec : classifyCommand command = .ok spec)
    (hduration : 0 ≤ execution.durationMs)
    (hdetails : ∃ details, validateExecutionDetails execution.details = .ok details) :
    ∃ check, (verifier.runCheck command spec execution).validate = .ok check := by
  have hname : 1 ≤ spec.name.length ∧ spec.name.length ≤ 256 := by
    have hmem := classifyCommand_name hspec
    simp only [List.mem_cons, List.not_mem_nil, or_false] at hmem
    rcases hmem with hname | hname | hname | hname <;> rw [hname] <;> decide
  refine ⟨_, CheckResultFields.validate_eq_ok.2 ⟨hname.1, hname.2, hduration, hdetails,
    fun hpassed => ⟨?_, ?_⟩, fun hfailed => ?_, nofun, rfl⟩⟩
  · exact Or.inr ((runPassed_iff ⟨command, spec, execution⟩).1 hpassed).exit_code
  · have hpassed : runPassed spec execution = true := hpassed
    simp [runCheck, runFailureType, hpassed]
  · have hfailed : runPassed spec execution = false := hfailed
    simp only [runCheck, runFailureType, hfailed, Bool.false_eq_true, if_false]
    split_ifs <;> simp

theorem exists_runPrepared (verifier : DeterministicVerifier) (hworld : world.WellFormed) {items : List PreparedCommand}
    (hitems : ∀ item ∈ items, classifyCommand item.command = .ok item.spec)
    (state : VerifyState) : ∃ state', verifier.runPrepared world items state = .ok state' := by
  induction items generalizing state with
  | nil => exact ⟨state, rfl⟩
  | cons item rest ih =>
    obtain ⟨hitem, hrest⟩ := List.forall_mem_cons.1 hitems
    obtain ⟨execution, hexecution, hduration, hdetails⟩ := hworld state.runs item.spec.argv
    obtain ⟨check, hcheck⟩ :=
      exists_validate_runCheck verifier hitem hduration hdetails
    rw [runPrepared]
    split_ifs with hneeds
    · exact ih hrest _
    · rw [hexecution, Raising.ok_bind, hcheck, Raising.ok_bind]
      dsimp only
      split_ifs
      · exact ⟨_, rfl⟩
      · exact ih hrest _

/-- **A runner that answers and changed paths that are well formed** let a verification
return. -/
theorem exists_verify (hworld : world.WellFormed)
    (hpaths : ∀ runs, ∃ result,
      scopeCheck task.val.toTaskContract (world.changedFiles runs) = .ok result) :
    ∃ result runs, verifier.verify world task = .ok (result, runs) := by
  obtain ⟨scopeResult, hscope⟩ := hpaths []
  rw [verify]
  dsimp only
  rw [hscope, Raising.ok_bind]
  split_ifs with hfailed hbudget
  · have hvalid : (⟨false, [scopeCheckResult "git_scope" scopeResult]⟩ :
        VerificationResultFields).validate = .ok _ :=
      VerificationResultFields.validate_eq_ok.2 ⟨by simp, by simp [scopeCheckResult, hfailed], rfl⟩
    rw [hvalid]
    exact ⟨_, _, rfl⟩
  · have hvalid : (⟨false, [scopeCheckResult "git_scope" scopeResult] ++
        [commandBudgetCheck task.val.verificationCommands.length verifier.maxCommands]⟩ :
        VerificationResultFields).validate = .ok _ :=
      VerificationResultFields.validate_eq_ok.2 ⟨by simp, by simp [commandBudgetCheck], rfl⟩
    rw [hvalid]
    exact ⟨_, _, rfl⟩
  · have hitems : ∀ item ∈ sortedByStage (prepare task.val.verificationCommands).2,
        classifyCommand item.command = .ok item.spec :=
      fun item hitem => (mem_prepare.1 ((sortedByStage_perm _).mem_iff.1 hitem)).2.1
    obtain ⟨state, hstate⟩ := exists_runPrepared verifier hworld hitems
      { checks := [scopeCheckResult "git_scope" scopeResult] ++
          (prepare task.val.verificationCommands).1 }
    obtain ⟨postScope, hpost⟩ := hpaths state.runs
    have hstart : world.Answered [] := fun before run after hsplit => by simp at hsplit
    obtain ⟨-, checks, -, hchecks, -⟩ := runPrepared_eq_ok _ hstart hstate
    have hne : state.checks ≠ [] := by
      rw [hchecks]
      simp
    rw [hstate, Raising.ok_bind, hpost, Raising.ok_bind]
    generalize hall : (if postScope.passed = false then
      state.checks ++ [scopeCheckResult "git_scope_post_verification" postScope]
      else state.checks) = allChecks
    have hne' : allChecks ≠ [] := by
      rw [← hall]
      split_ifs <;> simp [hne]
    have hvalid : (⟨allChecks.all CheckResultFields.passed, allChecks⟩ :
        VerificationResultFields).validate = .ok _ :=
      VerificationResultFields.validate_eq_ok.2 ⟨hne', rfl, rfl⟩
    rw [hvalid]
    exact ⟨_, _, rfl⟩

end DeterministicVerifier

end DevFlow
