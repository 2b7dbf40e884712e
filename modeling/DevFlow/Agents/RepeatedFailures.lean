/-
# When a repeated failure stops a developer run

A run stops with `REPEATED_TOOL_FAILURE` when two calls in a row fail with one signature,
and a signature has the tool, the error code and the shape of the arguments.
`run_repeatsCall_iff`: the calls that stop a run are one call made twice if and only if
the run makes no two failing calls in a row that are `Alike` and have different
arguments.  Reads of two missing files are alike.
-/

import DevFlow.Agents.DeveloperRuns

namespace DevFlow

open Sessions

namespace DeveloperAgent

/-- Two failing calls in a row of one tool, with one error code and one shape of their
arguments. -/
structure Alike (interpreter : Interpreter) (first second : ToolCall × ToolExecutionResult) :
    Prop where
  failed : first.2.val.ok = false ∧ second.2.val.ok = false
  tool : first.1.val.name = second.1.val.name
  code : ∃ code, first.2.val.errorCode = some code ∧ second.2.val.errorCode = some code
  shape : ∃ shape, argumentShape interpreter first.1.val.arguments = .ok shape ∧
    argumentShape interpreter second.1.val.arguments = .ok shape

/-- The run stopped for a repeated failure only where its last two calls failed and were one
tool with one text of arguments. -/
def StopsOnRepeatedCall (log : List DeveloperEvent) (result : DeveloperRunResultFields) : Prop :=
  result.stopReason = .repeatedToolFailure →
    ∃ front first second, completedCalls log = front ++ [first, second] ∧
      first.2.val.ok = false ∧ second.2.val.ok = false ∧
      first.1.val.name = second.1.val.name ∧ first.1.val.arguments = second.1.val.arguments

/-- No two calls in a row are alike and have different arguments. -/
def NoneConflated (interpreter : Interpreter) (log : List DeveloperEvent) : Prop :=
  ∀ front first second rest, completedCalls log = front ++ first :: second :: rest →
    Alike interpreter first second → first.1.val.arguments = second.1.val.arguments

section Signatures

variable {interpreter : Interpreter} {first second : ToolCall × ToolExecutionResult}

/-- The name of a tool has no semicolon. -/
theorem not_mem_toolName (call : ToolCall) : ';' ∉ call.val.name.toList := by
  have h := call.property
  simp only [ToolCallFields.validate, Raising.bind_eq_ok, Raising.raiseIf_eq_ok] at h
  obtain ⟨_, -, _, hname, -⟩ := h
  rw [Bool.not_eq_false, isToolName] at hname
  intro hmem
  split at hname
  · rename_i hnil
    rw [hnil] at hmem
    cases hmem
  · rename_i c cs hcons
    rw [Bool.and_eq_true, List.all_eq_true] at hname
    rw [hcons] at hmem
    rcases List.mem_cons.1 hmem with rfl | hmem
    · exact absurd hname.1 (by decide)
    · exact absurd (hname.2 ';' hmem) (by decide)

/-- What a signature of a failure says. -/
theorem failureSignature_eq_some {completed : ToolCall × ToolExecutionResult}
    {signature : String × ToolErrorCode × String}
    (h : failureSignature interpreter completed = some signature) :
    completed.2.val.ok = false ∧ completed.2.val.name = signature.1 ∧
      completed.2.val.errorCode = some signature.2.1 ∧
      toolFailureSignature interpreter completed.1 completed.2 = .ok signature.2.2 := by
  unfold failureSignature at h
  split_ifs at h with hok
  split at h
  · rename_i code text hcode htext
    obtain rfl := Option.some.inj h
    exact ⟨by simpa using hok, rfl, hcode, htext⟩
  · cases h

/-- **Two failures have one signature if and only if they are alike.** -/
theorem sameFailure_iff (hfirst : first.2.val.name = first.1.val.name)
    (hsecond : second.2.val.name = second.1.val.name) :
    SameFailure interpreter first second ↔ Alike interpreter first second := by
  have hname : ';' ∉ first.2.val.name.toList := by rw [hfirst]; exact not_mem_toolName _
  have hname' : ';' ∉ second.2.val.name.toList := by rw [hsecond]; exact not_mem_toolName _
  constructor
  · rintro ⟨signature, hsignature, hsignature'⟩
    obtain ⟨hok, htool, hcode, htext⟩ := failureSignature_eq_some hsignature
    obtain ⟨hok', htool', hcode', htext'⟩ := failureSignature_eq_some hsignature'
    have hshape := (toolFailureSignature_eq_iff hname hname' htext htext').1 rfl
    rw [toolFailureSignature_eq hname, Raising.map_eq_ok] at htext
    obtain ⟨shape, hfirstShape, -⟩ := htext
    refine ⟨⟨hok, hok'⟩, ?_, ⟨_, hcode, hcode'⟩, shape, hfirstShape, hshape ▸ hfirstShape⟩
    rw [← hfirst, ← hsecond, htool, htool']
  · rintro ⟨⟨hok, hok'⟩, htool, ⟨code, hcode, hcode'⟩, shape, hshape, hshape'⟩
    have htext : toolFailureSignature interpreter first.1 first.2 = .ok shape.text := by
      rw [toolFailureSignature_eq hname, hshape]
      rfl
    have htext' : toolFailureSignature interpreter second.1 second.2 = .ok shape.text := by
      rw [toolFailureSignature_eq hname', hshape']
      rfl
    refine ⟨_, failureSignature_of_ok hok hcode htext, ?_⟩
    rw [hfirst, htool, ← hsecond]
    exact failureSignature_of_ok hok' hcode' htext'

end Signatures

section Runs

variable {interpreter : Interpreter} {log : List DeveloperEvent}
variable {result : DeveloperRunResultFields}

/-- The calls that stop a run are the last two, and the only ones in a row that are alike. -/
theorem Stops.noneConflated_iff (h : Stops interpreter log result) :
    StopsOnRepeatedCall log result ↔ NoneConflated interpreter log := by
  have halike {front rest : List (ToolCall × ToolExecutionResult)}
      {first second : ToolCall × ToolExecutionResult}
      (hlog : completedCalls log = front ++ first :: second :: rest) :
      SameFailure interpreter first second ↔ Alike interpreter first second :=
    sameFailure_iff (h.executed first (by rw [hlog]; simp)) (h.executed second (by rw [hlog]; simp))
  constructor
  · intro hstops front first second rest hlog hsimilar
    have hsame := (halike hlog).2 hsimilar
    have hrest : rest = [] := by
      rcases List.eq_nil_or_concat rest with hnil | ⟨rest', last, rfl⟩
      · exact hnil
      -- a repeated failure before the last call would not be calm
      · have hcalm := h.calm
        rw [hlog, List.concat_eq_append, ← List.cons_append, ← List.cons_append,
          ← List.append_assoc, List.dropLast_concat] at hcalm
        exact absurd hsame (List.isChain_cons_cons.1 (List.isChain_append.1 hcalm).2.1).1
    rw [hrest] at hlog
    obtain ⟨front', first', second', hlog', -, -, -, harguments⟩ :=
      hstops (h.repeated.2 ⟨front, first, second, hlog, hsame⟩)
    rw [hlog] at hlog'
    obtain ⟨-, hlast⟩ := List.append_inj' hlog' rfl
    simp only [List.cons.injEq, and_true] at hlast
    rw [hlast.1, hlast.2]
    exact harguments
  · intro hnone hreason
    obtain ⟨front, first, second, hlog, hsame⟩ := h.repeated.1 hreason
    have hsimilar := (halike hlog).1 hsame
    exact ⟨front, first, second, hlog, hsimilar.failed.1, hsimilar.failed.2, hsimilar.tool,
      hnone front first second [] hlog hsimilar⟩

end Runs

/-- **A run stops on a repeated call only, if and only if it makes no two calls in a row that
fail alike with different arguments.** -/
theorem run_repeatsCall_iff {σ S : Type} {settings : Settings} {interpreter : Interpreter}
    {memory : WorkingMemory S} {outside : DeveloperOutside σ} {emptyMemory : S}
    {initialMessages : List AgentMessage} {tools : List ToolDefinition} {task : TaskContractFields}
    {packet : Option DeveloperPacket} {state : σ} {result : DeveloperRunResultFields}
    {after : World σ DeveloperEvent}
    (h : run settings interpreter memory outside emptyMemory initialMessages tools task packet
      ⟨state, []⟩ = (.ok result, after)) :
    StopsOnRepeatedCall after.log result ↔ NoneConflated interpreter after.log := by
  have hrun : Ensures (run settings interpreter memory outside emptyMemory initialMessages tools
    task packet) [] (Final settings interpreter) := ensures_run
  have hfinal := hrun state
  rw [h] at hfinal
  exact (hfinal.2 result rfl).2.noneConflated_iff

/-! ### Two missing files -/

/-- A read of a file. -/
def readCall (id path : String)
    (h : ToolCallFields.validate
      ⟨id, "read_file", "\x7b\"path\": \"" ++ path ++ "\"\x7d"⟩ =
        .ok ⟨id, "read_file", "\x7b\"path\": \"" ++ path ++ "\"\x7d"⟩ := by decide +kernel) :
    ToolCall :=
  ⟨_, h⟩

/-- A model that answers every request with the calls, in a repository without files. -/
def emptyRepository (calls : List ToolCall) (h : calls ≠ []) : DeveloperOutside Unit where
  clock _ := (0, ())
  changedFiles _ := (.ok [], ())
  complete _ _ _ := (.done { toolCalls := calls, usage := ⟨10, 5, 15⟩, payload := .inr h }, ())
  inTime _ _ _ := (true, ())
  handle _ _ := (.ok (.error ⟨.notFound, "File does not exist"⟩), ())
  recordAgentTurn _ _ _ := (.ok (), ())
  recordToolCall _ _ := (.ok (), ())
  recordToolOutcome := none
  loadErrorText _ _ := ""

/-- A run in the empty repository. -/
def emptyRepositoryRun (calls : List ToolCall) (h : calls ≠ []) :
    Except Failure DeveloperRunResultFields × World Unit DeveloperEvent :=
  run { model := "developer", model_normalized := by decide +kernel } {}
    ⟨fun _ _ _ => ((), none), fun _ => "nothing"⟩ (emptyRepository calls h) ()
    [.ofText .system "Implement the task." MessageRole.system_plain (by decide +kernel)] []
    { taskId := "T1", objective := "Read", readableFiles := [], writableFiles := ["src/**"],
      readonlyFiles := [], acceptanceCriteria := ["read"], verificationCommands := ["pytest"] }
    none ⟨(), []⟩

/-- What the run reports. -/
def repeatedFailureResult : DeveloperRunResultFields where
  stopReason := .repeatedToolFailure
  iterations := 1
  toolCalls := 2
  finalMessage := "Developer stopped after repeated invalid repository-tool calls; " ++
    "no additional model request was made."
  usage := ⟨10, 5, 15⟩
  executionBudget := some ⟨12, 300, 120⟩
  toolFailureEvidence :=
    ["tool=read_file;error_code=NOT_FOUND;arguments=json_object;fields=path"]

/-- One file that is missing, read twice. -/
theorem run_repeatsCall_sameFile :
    let ended := emptyRepositoryRun [readCall "1" "a.py", readCall "2" "a.py"] (by simp)
    StopsOnRepeatedCall ended.2.log repeatedFailureResult ↔ NoneConflated {} ended.2.log :=
  run_repeatsCall_iff (Prod.ext (by decide +kernel) rfl)

/-- **Two missing files**: the model reads one and then the other, and is stopped. -/
theorem missing_files_conflated :
    let ended := emptyRepositoryRun [readCall "1" "a.py", readCall "2" "b.py"] (by simp)
    ended.1 = .ok repeatedFailureResult ∧ ¬StopsOnRepeatedCall ended.2.log repeatedFailureResult := by
  intro ended
  refine ⟨by decide +kernel, fun hstops => ?_⟩
  obtain ⟨front, first, second, hlog, -, -, -, harguments⟩ := hstops rfl
  have hcalls : (completedCalls ended.2.log).map (·.1.val.arguments) =
      ["\x7b\"path\": \"a.py\"\x7d", "\x7b\"path\": \"b.py\"\x7d"] := by decide +kernel
  rw [hlog, List.map_append] at hcalls
  have hfront : front.map (·.1.val.arguments) = [] := by
    have hlength := congrArg List.length hcalls
    rw [List.length_append] at hlength
    exact List.length_eq_zero_iff.1 (Nat.add_right_cancel hlength)
  rw [hfront, List.nil_append] at hcalls
  simp only [List.map_cons, List.map_nil, List.cons.injEq, harguments] at hcalls
  exact absurd (hcalls.1.symm.trans hcalls.2.1) (by decide)

/-- The accounts of that run. -/
theorem run_accounted_missingFiles :
    Reports (emptyRepositoryRun [readCall "1" "a.py", readCall "2" "b.py"] (by simp)).2.log
      repeatedFailureResult :=
  (run_accounted _ _ _ _ _ _ _ _ _ _).2 _ (by decide +kernel)

end DeveloperAgent

end DevFlow
