/-
# What a developer run may cost

`run_accounted`: whatever the components of `DeveloperAgent.run` do, it sends no more
requests and starts no more tool calls than its limits allow, sends one recovery request
at most, does nothing after two failures in a row with one signature, and reports what it
was told.

The log of a run is compared with its variables by a `Ledger`, which holds between two
turns and, with the calls that are left, between two tool calls.
-/

import DevFlow.Agents.Developer

namespace DevFlow

open Sessions

namespace DeveloperAgent

/-! ### Reading a log -/

/-- The requests that were sent. -/
def requests (log : List DeveloperEvent) : List DeveloperRequest :=
  log.filterMap fun
    | .requested request => some request
    | _ => none

/-- The responses that were received. -/
def responses (log : List DeveloperEvent) : List AgentResponse :=
  log.filterMap fun
    | .responded response => some response
    | _ => none

/-- The tool calls that were started. -/
def startedCalls (log : List DeveloperEvent) : List ToolCall :=
  log.filterMap fun
    | .toolStarted call => some call
    | _ => none

/-- The tool calls that completed, with their results. -/
def completedCalls (log : List DeveloperEvent) : List (ToolCall × ToolExecutionResult) :=
  log.filterMap fun
    | .toolReturned call result => some (call, result)
    | _ => none

/-- The tool, the error code and the signature of a completed call that failed. -/
def failureSignature (interpreter : Interpreter) (completed : ToolCall × ToolExecutionResult) :
    Option (String × ToolErrorCode × String) :=
  if completed.2.val.ok then none
  else
    match completed.2.val.errorCode, toolFailureSignature interpreter completed.1 completed.2 with
    | some code, .ok signature => some (completed.2.val.name, code, signature)
    | _, _ => none

/-- Two failures with one signature. -/
def SameFailure (interpreter : Interpreter) (first second : ToolCall × ToolExecutionResult) : Prop :=
  ∃ signature, failureSignature interpreter first = some signature ∧
    failureSignature interpreter second = some signature

/-- No two calls in a row failed with one signature. -/
def Calm (interpreter : Interpreter) (completed : List (ToolCall × ToolExecutionResult)) : Prop :=
  completed.IsChain fun first second => ¬SameFailure interpreter first second

/-- The last two calls failed with one signature. -/
def Repeats (interpreter : Interpreter) (log : List DeveloperEvent) : Prop :=
  ∃ front first second, completedCalls log = front ++ [first, second] ∧
    SameFailure interpreter first second

section Log

variable {interpreter : Interpreter} {log log' : List DeveloperEvent}

theorem requests_append : requests (log ++ log') = requests log ++ requests log' :=
  List.filterMap_append

theorem responses_append : responses (log ++ log') = responses log ++ responses log' :=
  List.filterMap_append

theorem startedCalls_append : startedCalls (log ++ log') = startedCalls log ++ startedCalls log' :=
  List.filterMap_append

theorem completedCalls_append :
    completedCalls (log ++ log') = completedCalls log ++ completedCalls log' :=
  List.filterMap_append

/-- A calm log has no beginning that ends in a repeated failure. -/
theorem Calm.not_repeats (h : Calm interpreter (completedCalls (log ++ log'))) :
    ¬Repeats interpreter log := by
  rintro ⟨front, first, second, hcompleted, hsame⟩
  rw [completedCalls_append, hcompleted, List.append_assoc] at h
  have htail := (List.isChain_append.1 h).2.1
  exact (List.isChain_cons_cons.1 htail).1 hsame

/-- One more call keeps a log calm when it is no repeated failure. -/
theorem Calm.concat {completed : List (ToolCall × ToolExecutionResult)}
    {call : ToolCall × ToolExecutionResult} (h : Calm interpreter completed)
    (hlast : ∀ last, completed.getLast? = some last → ¬SameFailure interpreter last call) :
    Calm interpreter (completed ++ [call]) := by
  refine List.isChain_append.2 ⟨h, List.isChain_singleton _, ?_⟩
  intro last hmem first hfirst
  rw [List.head?_cons, Option.mem_some_iff] at hfirst
  rw [← hfirst]
  exact hlast last hmem

end Log

/-! ### What a run promises -/

/-- A recovery request has a correction and its own output limit, any other request the
ordinary limit and no correction. -/
def RequestFits (settings : Settings) (request : DeveloperRequest) : Prop :=
  match request.correction with
  | some correction =>
    request.maxOutputTokens = settings.invalidToolRetryMaxOutputTokens ∧
      request.livenessCredit = .toolRecovery ∧
      ∃ call result, AgentMessage.make
        { role := .user, content := toolRecoveryInstruction call result } = .ok correction
  | none =>
    request.maxOutputTokens = settings.maxOutputTokens ∧ request.livenessCredit ≠ .toolRecovery

/-- **The limits of a run**, and that nothing is started after a repeated failure. -/
structure Bounded (settings : Settings) (interpreter : Interpreter) (log : List DeveloperEvent) :
    Prop where
  requests : (requests log).length ≤ settings.maxIterations
  toolCalls : (startedCalls log).length ≤ settings.maxIterations * settings.maxToolCallsPerTurn
  recoveries : ((DeveloperAgent.requests log).filter (·.correction.isSome)).length ≤ 1
  fits : ∀ request ∈ DeveloperAgent.requests log, RequestFits settings request
  stops : ∀ before after, log = before ++ after → Repeats interpreter before →
    DeveloperAgent.requests after = [] ∧ startedCalls after = []

/-- **The accounts of a result**: the sums over the responses and the calls that completed. -/
structure Reports (log : List DeveloperEvent) (result : DeveloperRunResultFields) : Prop where
  usage : result.usage =
    ⟨((responses log).map (·.usage.promptTokens)).sum,
      ((responses log).map (·.usage.completionTokens)).sum,
      ((responses log).map (·.usage.totalTokens)).sum⟩
  latency : result.latencyMs = ((responses log).map (·.latencyMs)).sum
  toolCalls : result.toolCalls = (completedCalls log).length

/-- **Why a run stopped**: with `REPEATED_TOOL_FAILURE` exactly when its last two calls failed
with one signature, and then these are the first two that did. -/
structure Stops (interpreter : Interpreter) (log : List DeveloperEvent)
    (result : DeveloperRunResultFields) : Prop where
  repeated : result.stopReason = .repeatedToolFailure ↔ Repeats interpreter log
  calm : Calm interpreter (completedCalls log).dropLast
  executed : ∀ completed ∈ completedCalls log, completed.2.val.name = completed.1.val.name

/-- What holds however a run ends. -/
def Final (settings : Settings) (interpreter : Interpreter)
    (ended : Except Failure DeveloperRunResultFields) (log : List DeveloperEvent) : Prop :=
  Bounded settings interpreter log ∧
    ∀ result, ended = .ok result → Reports log result ∧ Stops interpreter log result

/-! ### The ledger -/

section Ledger

variable {σ S : Type} {settings : Settings} {interpreter : Interpreter}
variable {memory : WorkingMemory S} {outside : DeveloperOutside σ}
variable {log : List DeveloperEvent} {progress : Progress S} {turns spare : ℕ}

/-- The totals of the variables are those of the log. -/
structure Counts (log : List DeveloperEvent) (progress : Progress S) : Prop where
  prompt : progress.promptTokens = ((responses log).map (·.usage.promptTokens)).sum
  completion : progress.completionTokens = ((responses log).map (·.usage.completionTokens)).sum
  total : progress.totalTokens = ((responses log).map (·.usage.totalTokens)).sum
  latency : progress.totalLatencyMs = ((responses log).map (·.latencyMs)).sum
  toolCalls : progress.toolCallCount = (completedCalls log).length

/-- **The log and the variables of a run** in which `turns` turns have begun, with `spare`
tool calls of the current one left. -/
structure Ledger (settings : Settings) (interpreter : Interpreter) (turns spare : ℕ)
    (log : List DeveloperEvent) (progress : Progress S) : Prop where
  counts : Counts log progress
  requests : (requests log).length ≤ turns
  started : (startedCalls log).length + spare ≤ turns * settings.maxToolCallsPerTurn
  fits : ∀ request ∈ DeveloperAgent.requests log, RequestFits settings request
  recoveries : ((DeveloperAgent.requests log).filter (·.correction.isSome)).length =
    if progress.toolRecoveryCreditUsed then 1 else 0
  unused : progress.toolRecoveryInstruction.isSome → progress.toolRecoveryCreditUsed = false
  instruction : ∀ text, progress.toolRecoveryInstruction = some text →
    ∃ call result, text = toolRecoveryInstruction call result
  pending : progress.toolRecoveryCreditPending = progress.toolRecoveryInstruction.isSome
  calm : Calm interpreter (completedCalls log)
  last : progress.lastToolFailure =
    (completedCalls log).getLast?.bind (failureSignature interpreter)
  repeated : progress.repeatedToolFailureCount = if progress.lastToolFailure.isSome then 1 else 0
  executed : ∀ completed ∈ completedCalls log, completed.2.val.name = completed.1.val.name

/-- A run may end between any two steps. -/
theorem Ledger.bounded (h : Ledger settings interpreter turns spare log progress)
    (hturns : turns ≤ settings.maxIterations) : Bounded settings interpreter log where
  requests := h.requests.trans hturns
  toolCalls := by
    have hle := Nat.mul_le_mul_right settings.maxToolCallsPerTurn hturns
    have hstarted := h.started
    omega
  recoveries := by
    rw [h.recoveries]
    split_ifs <;> omega
  fits := h.fits
  stops := by
    rintro before after rfl hrepeats
    exact absurd hrepeats h.calm.not_repeats

theorem Ledger.final_error (h : Ledger settings interpreter turns spare log progress)
    (hturns : turns ≤ settings.maxIterations) (failure : Failure) :
    Final settings interpreter (.error failure) log :=
  ⟨h.bounded hturns, fun _ hresult => nomatch hresult⟩

/-- What `_result` returns, in a run that ends here. -/
theorem ensures_result {stopReason : DeveloperStopReason} {iterations : ℕ} {message : String}
    {evidence : List String} (hbounded : Bounded settings interpreter log)
    (hcounts : Counts log progress)
    (hstops : ∀ result : DeveloperRunResultFields, result.stopReason = stopReason →
      Stops interpreter log result) :
    Ensures (result settings outside stopReason iterations progress message evidence) log
      (Final settings interpreter) := by
  refine Ensures.silent_bind (Silent.invoke _) (fun changedFiles => Ensures.pure ?_)
    fun failure => ⟨hbounded, fun _ hresult => nomatch hresult⟩
  refine ⟨hbounded, fun result hresult => ?_⟩
  obtain rfl := Except.ok.inj hresult
  refine ⟨⟨?_, hcounts.latency, hcounts.toolCalls⟩, hstops _ rfl⟩
  rw [hcounts.prompt, hcounts.completion, hcounts.total]

/-- A run that stops while no failure is repeated. -/
theorem Ledger.stops (h : Ledger settings interpreter turns spare log progress)
    {stopReason : DeveloperStopReason} (hreason : stopReason ≠ .repeatedToolFailure)
    {result : DeveloperRunResultFields} (hresult : result.stopReason = stopReason) :
    Stops interpreter log result where
  repeated := by
    rw [hresult]
    have hcalm : Calm interpreter (completedCalls (log ++ [])) := by
      rw [List.append_nil]
      exact h.calm
    exact iff_of_false hreason hcalm.not_repeats
  calm := h.calm.dropLast
  executed := h.executed

/-- `_result` at a point where the ledger holds. -/
theorem Ledger.ensures_result (h : Ledger settings interpreter turns spare log progress)
    (hturns : turns ≤ settings.maxIterations) {stopReason : DeveloperStopReason}
    (hreason : stopReason ≠ .repeatedToolFailure) {iterations : ℕ} {message : String}
    {evidence : List String} :
    Ensures (result settings outside stopReason iterations progress message evidence) log
      (Final settings interpreter) :=
  DeveloperAgent.ensures_result (h.bounded hturns) h.counts fun _ hresult => h.stops hreason hresult

/-- The stop at a limit, at a point where the ledger holds. -/
theorem Ledger.ensures_boundedStop (h : Ledger settings interpreter turns spare log progress)
    (hturns : turns ≤ settings.maxIterations) {stopReason : DeveloperStopReason}
    (hreason : stopReason ≠ .repeatedToolFailure) {iterations : ℕ} {reason message : String} :
    Ensures (boundedStop settings outside reason stopReason iterations progress message) log
      (Final settings interpreter) := by
  refine Ensures.silent_bind (Silent.invoke _) (fun changedFiles => ?_) (h.final_error hturns)
  split_ifs
  all_goals exact h.ensures_result hturns hreason

/-! ### Steps -/

theorem silent_hasProgress : Silent (hasProgress outside progress) := by
  unfold hasProgress
  split_ifs
  · exact Silent.pure _
  · exact (Silent.invoke _).bind fun _ => Silent.pure _

theorem silent_recordToolCostOutcome {calls : List ToolCall} {results : List ToolExecutionResult}
    {compacted : Bool} : Silent (recordToolCostOutcome outside calls results compacted) := by
  unfold recordToolCostOutcome
  split
  · exact Silent.pure _
  · dsimp only
    split_ifs
    · exact (Silent.pure _).bind fun _ => Silent.invoke _
    · exact (Silent.invoke _).bind fun _ => (Silent.pure _).bind fun _ => Silent.invoke _

/-- A result that is made with the name of a call has that name. -/
theorem name_of_make {call : ToolCall} {fields : ToolExecutionResultFields}
    {result : ToolExecutionResult} (hname : fields.name = call.val.name)
    (h : ToolExecutionResult.make fields = .ok result) : result.val.name = call.val.name := by
  have hresult := Documents.Validated.make_eq_ok.1 h
  have hcall := call.property
  simp only [ToolExecutionResultFields.validate, ToolCallFields.validate, Raising.bind_eq_ok,
    Raising.raiseIf_eq_ok, Raising.pure_eq_ok] at hresult hcall
  obtain ⟨_, -, name, hnormalized, hfields⟩ := hresult
  obtain ⟨_, -, _, -, name', hnormalized', hcall⟩ := hcall
  have hname' : name' = call.val.name := by rw [← hcall]
  rw [hname, hnormalized', hname', Except.ok.injEq] at hnormalized
  rw [← hfields]
  exact hnormalized.symm

/-- `execute` answers under the name of the call, whatever the handler does. -/
theorem ensures_execute {call : ToolCall} :
    Ensures (execute interpreter outside call) log fun r log' =>
      log' = log ∧ ∀ result, r = .ok result → result.val.name = call.val.name := by
  unfold execute
  split
  · exact Ensures.lift ⟨rfl, fun _ h => name_of_make rfl h⟩
  split
  · exact Ensures.lift ⟨rfl, fun _ h => nomatch h⟩
  · exact Ensures.lift ⟨rfl, fun _ h => name_of_make rfl h⟩
  · exact Ensures.lift ⟨rfl, fun _ h => name_of_make rfl h⟩
  · refine Ensures.silent_bind (Silent.invoke _) (fun answer => ?_)
      fun _ => ⟨rfl, fun _ h => nomatch h⟩
    cases answer with
    | error failure => exact Ensures.lift ⟨rfl, fun _ h => name_of_make rfl h⟩
    | ok content => exact Ensures.lift ⟨rfl, fun _ h => name_of_make rfl h⟩

/-- The ledger says nothing about the messages. -/
theorem Ledger.withMessages (h : Ledger settings interpreter turns spare log progress)
    (messages : List AgentMessage) (retention : Retention S) :
    Ledger settings interpreter turns spare log { progress with messages, retention } where
  counts := ⟨h.counts.prompt, h.counts.completion, h.counts.total, h.counts.latency,
    h.counts.toolCalls⟩
  requests := h.requests
  started := h.started
  fits := h.fits
  recoveries := h.recoveries
  unused := h.unused
  instruction := h.instruction
  pending := h.pending
  calm := h.calm
  last := h.last
  repeated := h.repeated
  executed := h.executed

/-- The ledger reads the log through its requests, responses, started and completed calls. -/
theorem Ledger.of_log {log' : List DeveloperEvent} {spare' : ℕ}
    (h : Ledger settings interpreter turns spare log progress)
    (hrequests : DeveloperAgent.requests log' = DeveloperAgent.requests log)
    (hresponses : responses log' = responses log)
    (hcompleted : completedCalls log' = completedCalls log)
    (hstarted : (startedCalls log').length + spare' ≤ turns * settings.maxToolCallsPerTurn) :
    Ledger settings interpreter turns spare' log' progress where
  counts := ⟨by rw [hresponses]; exact h.counts.prompt, by rw [hresponses]; exact h.counts.completion,
    by rw [hresponses]; exact h.counts.total, by rw [hresponses]; exact h.counts.latency,
    by rw [hcompleted]; exact h.counts.toolCalls⟩
  requests := by rw [hrequests]; exact h.requests
  started := hstarted
  fits := by rw [hrequests]; exact h.fits
  recoveries := by rw [hrequests]; exact h.recoveries
  unused := h.unused
  instruction := h.instruction
  pending := h.pending
  calm := by rw [hcompleted]; exact h.calm
  last := by rw [hcompleted]; exact h.last
  repeated := h.repeated
  executed := by rw [hcompleted]; exact h.executed

theorem Ledger.toolStarted (h : Ledger settings interpreter turns (spare + 1) log progress)
    (call : ToolCall) :
    Ledger settings interpreter turns spare (log ++ [.toolStarted call]) progress := by
  have hstarted := h.started
  refine h.of_log ?_ ?_ ?_ ?_
  · rw [requests_append]
    exact List.append_nil _
  · rw [responses_append]
    exact List.append_nil _
  · rw [completedCalls_append]
    exact List.append_nil _
  · rw [startedCalls_append, List.length_append]
    change (startedCalls log).length + 1 + spare ≤ _
    omega

/-- A turn need not use up its tool calls. -/
theorem Ledger.spareless (h : Ledger settings interpreter turns spare log progress) :
    Ledger settings interpreter turns 0 log progress :=
  h.of_log rfl rfl rfl (by have := h.started; omega)

theorem Ledger.responded (h : Ledger settings interpreter turns spare log progress)
    (response : AgentResponse) :
    Ledger settings interpreter turns spare (log ++ [.responded response])
      (progress.add response) := by
  have hrequests : DeveloperAgent.requests (log ++ [.responded response]) =
      DeveloperAgent.requests log := by
    rw [requests_append]
    exact List.append_nil _
  have hsum (f : AgentResponse → ℕ) : ((responses (log ++ [.responded response])).map f).sum =
      ((responses log).map f).sum + f response := by
    rw [responses_append, List.map_append, List.sum_append]
    rfl
  have hcompleted : completedCalls (log ++ [.responded response]) = completedCalls log := by
    rw [completedCalls_append]
    exact List.append_nil _
  have hstarted : startedCalls (log ++ [.responded response]) = startedCalls log := by
    rw [startedCalls_append]
    exact List.append_nil _
  exact {
    counts := ⟨by rw [hsum, ← h.counts.prompt]; rfl, by rw [hsum, ← h.counts.completion]; rfl,
      by rw [hsum, ← h.counts.total]; rfl, by rw [hsum, ← h.counts.latency]; rfl,
      by rw [hcompleted]; exact h.counts.toolCalls⟩
    requests := by rw [hrequests]; exact h.requests
    started := by rw [hstarted]; exact h.started
    fits := by rw [hrequests]; exact h.fits
    recoveries := by rw [hrequests]; exact h.recoveries
    unused := h.unused
    instruction := h.instruction
    pending := h.pending
    calm := by rw [hcompleted]; exact h.calm
    last := by rw [hcompleted]; exact h.last
    repeated := h.repeated
    executed := by rw [hcompleted]; exact h.executed }

/-! ### A tool call -/

section Returned

variable {call : ToolCall} {result : ToolExecutionResult}

theorem requests_returned : DeveloperAgent.requests (log ++ [.toolReturned call result]) =
    DeveloperAgent.requests log := by
  rw [requests_append]
  exact List.append_nil _

theorem responses_returned : responses (log ++ [.toolReturned call result]) = responses log := by
  rw [responses_append]
  exact List.append_nil _

theorem startedCalls_returned :
    startedCalls (log ++ [.toolReturned call result]) = startedCalls log := by
  rw [startedCalls_append]
  exact List.append_nil _

theorem completedCalls_returned : completedCalls (log ++ [.toolReturned call result]) =
    completedCalls log ++ [(call, result)] :=
  completedCalls_append

/-- The variables count the call that completed. -/
theorem Counts.returned (h : Counts log progress) :
    Counts (log ++ [.toolReturned call result])
      { progress with toolCallCount := progress.toolCallCount + 1 } where
  prompt := by rw [responses_returned]; exact h.prompt
  completion := by rw [responses_returned]; exact h.completion
  total := by rw [responses_returned]; exact h.total
  latency := by rw [responses_returned]; exact h.latency
  toolCalls := by
    rw [completedCalls_returned, List.length_append, ← h.toolCalls]
    rfl

/-- A run may end after any call, also after one that repeats a failure: nothing is started
behind it. -/
theorem Ledger.bounded_returned (h : Ledger settings interpreter turns spare log progress)
    (hturns : turns ≤ settings.maxIterations) :
    Bounded settings interpreter (log ++ [.toolReturned call result]) where
  requests := by rw [requests_returned]; exact (h.bounded hturns).requests
  toolCalls := by rw [startedCalls_returned]; exact (h.bounded hturns).toolCalls
  recoveries := by rw [requests_returned]; exact (h.bounded hturns).recoveries
  fits := by rw [requests_returned]; exact h.fits
  stops := by
    intro before after hlog hrepeats
    rcases List.eq_nil_or_concat after with rfl | ⟨front, event, rfl⟩
    · exact ⟨rfl, rfl⟩
    · rw [List.concat_eq_append, ← List.append_assoc] at hlog
      have hfront := (List.append_inj' hlog rfl).1
      have hcalm := h.calm
      rw [hfront] at hcalm
      exact absurd hrepeats hcalm.not_repeats

/-- The ledger after a call that repeats no failure. -/
theorem Ledger.returned (h : Ledger settings interpreter turns spare log progress)
    (hname : result.val.name = call.val.name)
    (hnew : ∀ last, (completedCalls log).getLast? = some last →
      ¬SameFailure interpreter last (call, result)) (successful : Bool) :
    Ledger settings interpreter turns spare (log ++ [.toolReturned call result])
      { progress with
        toolCallCount := progress.toolCallCount + 1
        successfulToolProgress := successful
        lastToolFailure := failureSignature interpreter (call, result)
        repeatedToolFailureCount :=
          if (failureSignature interpreter (call, result)).isSome then 1 else 0 } where
  counts := by
    have hcounts : Counts (log ++ [.toolReturned call result]) _ := h.counts.returned
    obtain ⟨hprompt, hcompletion, htotal, hlatency, hcalls⟩ := hcounts
    exact ⟨hprompt, hcompletion, htotal, hlatency, hcalls⟩
  requests := by rw [requests_returned]; exact h.requests
  started := by rw [startedCalls_returned]; exact h.started
  fits := by rw [requests_returned]; exact h.fits
  recoveries := by rw [requests_returned]; exact h.recoveries
  unused := h.unused
  instruction := h.instruction
  pending := h.pending
  calm := by rw [completedCalls_returned]; exact h.calm.concat hnew
  last := by rw [completedCalls_returned, List.getLast?_concat]; rfl
  repeated := rfl
  executed := by
    intro completed hmem
    rw [completedCalls_returned, List.mem_append, List.mem_singleton] at hmem
    rcases hmem with hmem | rfl
    · exact h.executed completed hmem
    · exact hname

end Returned

/-- A recovery is noted once at most. -/
theorem Ledger.instructed (h : Ledger settings interpreter turns spare log progress)
    (hunused : progress.toolRecoveryCreditUsed = false) (call : ToolCall)
    (result : ToolExecutionResult) :
    Ledger settings interpreter turns spare log
      { progress with
        toolRecoveryInstruction := some (toolRecoveryInstruction call result)
        toolRecoveryCreditPending := true } where
  counts := ⟨h.counts.prompt, h.counts.completion, h.counts.total, h.counts.latency,
    h.counts.toolCalls⟩
  requests := h.requests
  started := h.started
  fits := h.fits
  recoveries := h.recoveries
  unused := fun _ => hunused
  instruction := fun _ htext => ⟨call, result, (Option.some.inj htext).symm⟩
  pending := rfl
  calm := h.calm
  last := h.last
  repeated := h.repeated
  executed := h.executed

/-- How a tool call leaves a run: it goes on with the ledger, or it has ended. -/
def Going (settings : Settings) (interpreter : Interpreter) (turns spare : ℕ)
    (ended : Except Failure (DeveloperRunResultFields ⊕ Progress S × List ToolExecutionResult))
    (log : List DeveloperEvent) : Prop :=
  match ended with
  | .ok (.inr state) => Ledger settings interpreter turns spare log state.1
  | .ok (.inl stopped) => Final settings interpreter (.ok stopped) log
  | .error failure => Final settings interpreter (.error failure) log

/-- How a turn leaves a run. -/
def Turned (settings : Settings) (interpreter : Interpreter) (turns : ℕ)
    (ended : Except Failure (DeveloperRunResultFields ⊕ Progress S)) (log : List DeveloperEvent) :
    Prop :=
  match ended with
  | .ok (.inr progress) => Ledger settings interpreter turns 0 log progress
  | .ok (.inl stopped) => Final settings interpreter (.ok stopped) log
  | .error failure => Final settings interpreter (.error failure) log

/-- The signature of a failure as the ledger reads it. -/
theorem failureSignature_of_ok {call : ToolCall} {result : ToolExecutionResult}
    {code : ToolErrorCode} {signature : String} (hok : result.val.ok = false)
    (hcode : result.val.errorCode = some code)
    (h : toolFailureSignature interpreter call result = .ok signature) :
    failureSignature interpreter (call, result) = some (result.val.name, code, signature) := by
  simp only [failureSignature, hok, hcode, h]
  rfl

/-- **A failed call**: it stops the run when it repeats the last one, and is noted otherwise. -/
theorem ensures_noteFailure (h : Ledger settings interpreter turns spare log progress)
    (hturns : turns ≤ settings.maxIterations) {iteration : ℕ} {calls : List ToolCall}
    {call : ToolCall} {result : ToolExecutionResult} {code : ToolErrorCode}
    {results : List ToolExecutionResult} (hname : result.val.name = call.val.name)
    (hok : result.val.ok = false) (hcode : result.val.errorCode = some code) :
    Ensures (noteFailure settings interpreter outside iteration calls call result code
        ({ progress with toolCallCount := progress.toolCallCount + 1 }, results))
      (log ++ [.toolReturned call result]) (Going settings interpreter turns spare) := by
  have hbounded : Bounded settings interpreter (log ++ [.toolReturned call result]) :=
    h.bounded_returned hturns
  have hraised (failure : Failure) :
      Final settings interpreter (.error failure) (log ++ [.toolReturned call result]) :=
    ⟨hbounded, fun _ hresult => nomatch hresult⟩
  refine Ensures.lift_bind (fun signature hsignature => ?_) fun failure _ => hraised failure
  have hfailure := failureSignature_of_ok hok hcode hsignature
  by_cases hsame : some (result.val.name, code, signature) = progress.lastToolFailure
  · -- the last call failed with the same signature
    have hcount : progress.repeatedToolFailureCount = 1 := by
      rw [h.repeated, ← hsame]
      rfl
    obtain ⟨last, hlast, hlastFailure⟩ : ∃ last, (completedCalls log).getLast? = some last ∧
        failureSignature interpreter last = some (result.val.name, code, signature) := by
      rw [h.last, eq_comm, Option.bind_eq_some_iff] at hsame
      exact hsame
    have hrepeats : Repeats interpreter (log ++ [.toolReturned call result]) := by
      obtain ⟨front, hfront⟩ := List.getLast?_eq_some_iff.1 hlast
      refine ⟨front, last, (call, result), ?_, _, hlastFailure, hfailure⟩
      rw [completedCalls_returned, hfront, List.append_assoc]
      rfl
    have hstops (ended : DeveloperRunResultFields)
        (hreason : ended.stopReason = .repeatedToolFailure) :
        Stops interpreter (log ++ [.toolReturned call result]) ended :=
      { repeated := iff_of_true hreason hrepeats
        calm := by rw [completedCalls_returned, List.dropLast_concat]; exact h.calm
        executed := by
          intro completed hmem
          rw [completedCalls_returned, List.mem_append, List.mem_singleton] at hmem
          rcases hmem with hmem | rfl
          · exact h.executed completed hmem
          · exact hname }
    have hcounts : Counts (log ++ [.toolReturned call result]) _ := h.counts.returned
    simp only [hsame, ↓reduceIte, hcount, Nat.reduceAdd, le_refl]
    refine Ensures.silent_bind silent_recordToolCostOutcome (fun _ => ?_) hraised
    refine Ensures.lift_bind (fun evidence _ => ?_) fun failure _ => hraised failure
    refine Ensures.bind (ensures_result hbounded ?_ hstops) (fun stopped log' hfinal => ?_)
      fun failure log' hfinal => hfinal
    · exact ⟨hcounts.prompt, hcounts.completion, hcounts.total, hcounts.latency,
        hcounts.toolCalls⟩
    · exact Ensures.pure hfinal
  · have hnew : ∀ last, (completedCalls log).getLast? = some last →
        ¬SameFailure interpreter last (call, result) := by
      rintro last hlast ⟨_, hfirst, hsecond⟩
      refine hsame ?_
      rw [h.last, hlast, Option.bind_some, hfirst, ← hsecond, hfailure]
    have hledger := h.returned hname hnew progress.successfulToolProgress
    rw [hfailure] at hledger
    simp only [hsame, ↓reduceIte, Nat.not_ofNat_le_one]
    split_ifs with hrecoverable
    · exact Ensures.pure (hledger.instructed hrecoverable.1 call result)
    · exact Ensures.pure hledger

/-- One tool call uses up one of those that are left. -/
theorem ensures_runTool {results : List ToolExecutionResult}
    (h : Ledger settings interpreter turns (spare + 1) log progress)
    (hturns : turns ≤ settings.maxIterations) {iteration : ℕ} {remaining : ℚ}
    {calls : List ToolCall} {call : ToolCall} :
    Ensures (runTool settings interpreter outside iteration remaining calls call (progress, results))
      log (Going settings interpreter turns spare) := by
  have hstarted := h.toolStarted call
  refine Ensures.emit_bind (Ensures.ask_bind fun inTime => ?_)
  split_ifs
  · refine Ensures.bind (hstarted.ensures_boundedStop hturns (by decide))
      (fun stopped log' hfinal => Ensures.pure hfinal) fun failure log' hfinal => hfinal
  refine Ensures.bind ensures_execute (fun result log' hexecuted => ?_) fun failure log' hexecuted => ?_
  · obtain ⟨rfl, hname⟩ := hexecuted
    have hname := hname result rfl
    have hreturned (hnone : failureSignature interpreter (call, result) = none) :
        ∀ last, (completedCalls (log ++ [.toolStarted call])).getLast? = some last →
          ¬SameFailure interpreter last (call, result) := by
      rintro last - ⟨signature, -, hsignature⟩
      rw [hnone] at hsignature
      cases hsignature
    refine Ensures.emit_bind (Ensures.silent_bind (Silent.invoke _) (fun _ => ?_) fun failure => ?_)
    · cases hok : result.val.ok with
      | true =>
        have hnone : failureSignature interpreter (call, result) = none := by
          simp [failureSignature, hok]
        have hledger := hstarted.returned hname (hreturned hnone) true
        rw [hnone] at hledger
        exact Ensures.pure hledger
      | false =>
        cases hcode : result.val.errorCode with
        | none =>
          have hnone : failureSignature interpreter (call, result) = none := by
            simp [failureSignature, hok, hcode]
          have hledger := hstarted.returned hname (hreturned hnone) progress.successfulToolProgress
          rw [hnone] at hledger
          exact Ensures.pure hledger
        | some code => exact ensures_noteFailure hstarted hturns hname hok hcode
    · exact ⟨hstarted.bounded_returned hturns, fun _ hresult => nomatch hresult⟩
  · obtain ⟨rfl, -⟩ := hexecuted
    exact hstarted.final_error hturns failure

/-! ### A turn -/

/-- The calls of a response are within the calls that a turn has. -/
theorem ensures_tools {results : List ToolExecutionResult} {items : List ToolCall}
    (h : Ledger settings interpreter turns items.length log progress)
    (hturns : turns ≤ settings.maxIterations) {iteration : ℕ} {remaining : ℚ}
    {calls : List ToolCall} :
    Ensures (each (runTool settings interpreter outside iteration remaining calls) items
      (progress, results)) log (Going settings interpreter turns 0) := by
  refine Ensures.each (I := fun items state log =>
    Ledger settings interpreter turns items.length log state.1) ?_ (fun state log h => h) h
  rintro item items ⟨progress, results⟩ log hledger
  refine (ensures_runTool hledger hturns).weaken ?_
  rintro (failure | stopped | state) log' hgoing
  · exact hgoing
  · exact hgoing
  · exact hgoing

theorem ensures_finishTurn {results : List ToolExecutionResult}
    (h : Ledger settings interpreter turns 0 log progress)
    (hturns : turns ≤ settings.maxIterations) {startedAt : ℚ} {iteration : ℕ}
    {assistant : AgentMessage} {calls : List ToolCall} :
    Ensures (finishTurn settings memory outside startedAt iteration assistant calls
      (progress, results)) log (Turned settings interpreter turns) := by
  have hraised := h.final_error hturns
  have hclock {progress' : Progress S}
      (h' : Ledger settings interpreter turns 0 log progress') :
      Ensures (do
        let now ← ask outside.clock
        if settings.maxDurationSeconds ≤ Doubles.round (now - startedAt) then
          let stopped ← boundedStop settings outside "time budget elapsed" .timeLimit iteration
            progress' ""
          return Sum.inl stopped
        else return Sum.inr progress' : DeveloperSession σ (DeveloperRunResultFields ⊕ Progress S))
        log (Turned settings interpreter turns) := by
    refine Ensures.ask_bind fun now => ?_
    split_ifs
    · exact Ensures.bind (h'.ensures_boundedStop hturns (by decide))
        (fun stopped log' hfinal => Ensures.pure hfinal) fun failure log' hfinal => hfinal
    · exact Ensures.pure h'
  unfold finishTurn
  dsimp only
  split_ifs
  · refine Ensures.lift_bind (fun compacted _ => ?_) fun failure _ => hraised failure
    exact Ensures.silent_bind silent_recordToolCostOutcome
      (fun _ => hclock (h.withMessages _ _)) hraised
  · exact Ensures.silent_bind silent_recordToolCostOutcome
      (fun _ => hclock (h.withMessages _ _)) hraised

/-- A turn from its response on. -/
theorem ensures_receive {response : AgentResponse}
    (h : Ledger settings interpreter turns settings.maxToolCallsPerTurn
      (log ++ [.responded response]) (progress.add response))
    (hturns : turns ≤ settings.maxIterations) {startedAt remaining : ℚ} {iteration : ℕ} :
    Ensures (receive settings interpreter memory outside startedAt iteration remaining progress
      response) (log ++ [.responded response]) (Turned settings interpreter turns) := by
  refine Ensures.lift_bind (fun assistant _ => ?_) fun failure _ => h.final_error hturns failure
  split_ifs with hnone hmany
  · exact Ensures.bind (h.ensures_result hturns (by decide))
      (fun stopped log' hfinal => Ensures.pure hfinal) fun failure log' hfinal => hfinal
  · exact Ensures.bind (h.ensures_boundedStop hturns (by decide))
      (fun stopped log' hfinal => Ensures.pure hfinal) fun failure log' hfinal => hfinal
  · have hcalls : Ledger settings interpreter turns response.toolCalls.length
        (log ++ [.responded response]) (progress.add response) :=
      h.of_log rfl rfl rfl (by have := h.started; omega)
    refine Ensures.bind (ensures_tools hcalls hturns) ?_ fun failure log' hgoing => hgoing
    rintro (stopped | ⟨progress', results⟩) log' hgoing
    · exact Ensures.pure hgoing
    · exact ensures_finishTurn hgoing hturns

/-- The ledger when a request is sent: the turn begins with all of its tool calls. -/
theorem Ledger.requested {request : DeveloperRequest} {progress' : Progress S}
    (h : Ledger settings interpreter turns 0 log progress) (hcounts : Counts log progress')
    (hfits : RequestFits settings request)
    (hrecoveries : ((DeveloperAgent.requests log ++ [request]).filter (·.correction.isSome)).length =
      if progress'.toolRecoveryCreditUsed then 1 else 0)
    (hinstruction : progress'.toolRecoveryInstruction = none)
    (hpending : progress'.toolRecoveryCreditPending = false)
    (hlast : progress'.lastToolFailure = progress.lastToolFailure)
    (hrepeated : progress'.repeatedToolFailureCount = progress.repeatedToolFailureCount) :
    Ledger settings interpreter (turns + 1) settings.maxToolCallsPerTurn
      (log ++ [.requested request]) progress' := by
  have hrequests : DeveloperAgent.requests (log ++ [.requested request]) =
      DeveloperAgent.requests log ++ [request] :=
    requests_append
  have hresponses : responses (log ++ [.requested request]) = responses log := by
    rw [responses_append]
    exact List.append_nil _
  have hcompleted : completedCalls (log ++ [.requested request]) = completedCalls log := by
    rw [completedCalls_append]
    exact List.append_nil _
  have hstarted : startedCalls (log ++ [.requested request]) = startedCalls log := by
    rw [startedCalls_append]
    exact List.append_nil _
  exact {
    counts := ⟨by rw [hresponses]; exact hcounts.prompt, by rw [hresponses]; exact hcounts.completion,
      by rw [hresponses]; exact hcounts.total, by rw [hresponses]; exact hcounts.latency,
      by rw [hcompleted]; exact hcounts.toolCalls⟩
    requests := by
      rw [hrequests, List.length_append]
      exact Nat.add_le_add_right h.requests 1
    started := by
      rw [hstarted, Nat.succ_mul]
      exact Nat.add_le_add_right h.started _
    fits := by
      intro sent hsent
      rw [hrequests, List.mem_append, List.mem_singleton] at hsent
      rcases hsent with hsent | rfl
      · exact h.fits sent hsent
      · exact hfits
    recoveries := by rw [hrequests]; exact hrecoveries
    unused := by rw [hinstruction]; exact fun hsome => nomatch hsome
    instruction := by rw [hinstruction]; exact fun _ htext => nomatch htext
    pending := by rw [hinstruction, hpending]; rfl
    calm := by rw [hcompleted]; exact h.calm
    last := by rw [hcompleted, hlast]; exact h.last
    repeated := by rw [hrepeated, hlast]; exact h.repeated
    executed := by rw [hcompleted]; exact h.executed }

/-- The checks of a request change its model name only. -/
theorem validate_fields {request request' : DeveloperRequest} (h : request.validate = .ok request') :
    request'.correction = request.correction ∧ request'.maxOutputTokens = request.maxOutputTokens ∧
      request'.livenessCredit = request.livenessCredit := by
  simp only [DeveloperRequest.validate, Raising.bind_eq_ok, Raising.pure_eq_ok] at h
  obtain ⟨model, -, -, -, -, -, -, -, -, -, rfl⟩ := h
  exact ⟨rfl, rfl, rfl⟩

/-- A turn without a pending recovery has no recovery credit. -/
theorem livenessCreditForTurn_ne {iteration : ℕ} {packet : Option DeveloperPacket}
    {verified : Bool} : livenessCreditForTurn iteration packet verified false ≠ .toolRecovery := by
  unfold livenessCreditForTurn
  rw [if_neg (by decide)]
  split_ifs <;> decide

/-- **The request of a turn**: a recovery that is pending is used up by it. -/
theorem ensures_nextRequest (h : Ledger settings interpreter turns 0 log progress)
    {tools : List ToolDefinition} {packet : Option DeveloperPacket} {iteration : ℕ} :
    Ensures (nextRequest settings outside tools packet iteration progress) log fun ended log' =>
      log' = log ∧ ∀ request progress', ended = .ok (request, progress') →
        Ledger settings interpreter (turns + 1) settings.maxToolCallsPerTurn
          (log ++ [.requested request]) progress' := by
  have hraised (failure : Failure) : log = log ∧ ∀ request progress',
      (.error failure : Except Failure (DeveloperRequest × Progress S)) = .ok (request, progress') →
        Ledger settings interpreter (turns + 1) settings.maxToolCallsPerTurn
          (log ++ [.requested request]) progress' :=
    ⟨rfl, fun _ _ hended => nomatch hended⟩
  refine Ensures.silent_bind silent_hasProgress (fun verified => ?_) hraised
  refine Ensures.lift_bind (fun correction hcorrection => ?_) fun failure _ => hraised failure
  refine Ensures.silent_bind silent_hasProgress (fun budgetProgress => ?_) hraised
  refine Ensures.lift_bind (fun request hrequest => ?_) fun failure _ => hraised failure
  obtain ⟨hsame, hlimit, hcredit⟩ := validate_fields hrequest
  have hcounts := h.counts
  cases hinstruction : progress.toolRecoveryInstruction with
  | none =>
    rw [hinstruction] at hcorrection
    obtain rfl : none = correction := Except.ok.inj hcorrection
    have hpending : progress.toolRecoveryCreditPending = false := by
      rw [h.pending, hinstruction]
      rfl
    refine Ensures.pure ⟨rfl, fun _ _ hended => ?_⟩
    obtain ⟨rfl, rfl⟩ := Prod.mk.inj (Except.ok.inj hended)
    refine h.requested hcounts ?_ ?_ hinstruction hpending rfl rfl
    · simp only [RequestFits, hsame, hlimit, hcredit, hinstruction, hpending]
      exact ⟨rfl, livenessCreditForTurn_ne⟩
    · rw [List.filter_append, List.length_append, h.recoveries]
      simp [hsame]
  | some text =>
    rw [hinstruction] at hcorrection
    obtain ⟨call, result, rfl⟩ := h.instruction text hinstruction
    have hunused := h.unused (by rw [hinstruction]; rfl)
    have hpending : progress.toolRecoveryCreditPending = true := by
      rw [h.pending, hinstruction]
      rfl
    obtain ⟨message, hmessage, rfl⟩ : ∃ message, AgentMessage.make
        { role := .user, content := toolRecoveryInstruction call result } = .ok message ∧
          correction = some message := by
      rw [Option.mapM_some, Raising.map_eq_ok] at hcorrection
      obtain ⟨message, hmessage, hcorrection⟩ := hcorrection
      exact ⟨message, hmessage, hcorrection.symm⟩
    refine Ensures.pure ⟨rfl, fun _ _ hended => ?_⟩
    obtain ⟨rfl, rfl⟩ := Prod.mk.inj (Except.ok.inj hended)
    refine h.requested ⟨hcounts.prompt, hcounts.completion, hcounts.total, hcounts.latency,
      hcounts.toolCalls⟩ ?_ ?_ rfl rfl rfl rfl
    · simp only [RequestFits, hsame, hlimit, hcredit, hinstruction, hpending, livenessCreditForTurn]
      exact ⟨rfl, rfl, call, result, hmessage⟩
    · rw [List.filter_append, List.length_append, h.recoveries, hunused]
      simp [hsame]

/-- **One turn.** -/
theorem ensures_turn (h : Ledger settings interpreter turns 0 log progress)
    (hturns : turns + 1 ≤ settings.maxIterations) {tools : List ToolDefinition}
    {packet : Option DeveloperPacket} {startedAt : ℚ} {iteration : ℕ} :
    Ensures (turn settings interpreter memory outside tools packet startedAt iteration progress) log
      (Turned settings interpreter (turns + 1)) := by
  have hbefore : turns ≤ settings.maxIterations := by omega
  refine Ensures.ask_bind fun now => ?_
  dsimp only
  split_ifs
  · exact Ensures.bind (h.ensures_boundedStop hbefore (by decide))
      (fun stopped log' hfinal => Ensures.pure hfinal) fun failure log' hfinal => hfinal
  refine Ensures.bind (ensures_nextRequest h) ?_ ?_
  · rintro ⟨request, progress'⟩ _ ⟨rfl, hrequested⟩
    have hledger := hrequested request progress' rfl
    refine Ensures.emit_bind (Ensures.ask_bind fun answer => ?_)
    cases answer with
    | raised failure => exact Ensures.lift (hledger.final_error hturns failure)
    | timedOut =>
      exact Ensures.bind (hledger.ensures_boundedStop hturns (by decide))
        (fun stopped log' hfinal => Ensures.pure hfinal) fun failure log' hfinal => hfinal
    | done response =>
      have hresponded := hledger.responded response
      exact Ensures.emit_bind (Ensures.silent_bind (Silent.invoke _)
        (fun _ => ensures_receive hresponded hturns) (hresponded.final_error hturns))
  · rintro failure _ ⟨rfl, -⟩
    exact h.final_error hbefore failure

/-! ### A run -/

/-- The ledger of a run that has not begun. -/
theorem ledger_nil {successful : Bool} {messages : List AgentMessage} {retention : Retention S} :
    Ledger settings interpreter 0 0 []
      { successfulToolProgress := successful, messages, retention } where
  counts := ⟨rfl, rfl, rfl, rfl, rfl⟩
  requests := le_rfl
  started := Nat.zero_le _
  fits := fun _ h => nomatch h
  recoveries := rfl
  unused := fun _ => rfl
  instruction := fun _ h => nomatch h
  pending := rfl
  calm := List.isChain_nil
  last := rfl
  repeated := rfl
  executed := fun _ h => nomatch h

/-- **Every run ends within its limits**, with a result that tells what it was told and why
it stopped. -/
theorem ensures_run {emptyMemory : S} {initialMessages : List AgentMessage}
    {tools : List ToolDefinition} {task : TaskContractFields} {packet : Option DeveloperPacket} :
    Ensures (run settings interpreter memory outside emptyMemory initialMessages tools task packet)
      [] (Final settings interpreter) := by
  have hempty : Ledger settings interpreter 0 0 []
      { successfulToolProgress := false, messages := [],
        retention := { limits := {}, baseMessages := [], state := emptyMemory } } := ledger_nil
  have hnone : Bounded settings interpreter [] := hempty.bounded (Nat.zero_le _)
  have hraised (failure : Failure) : Final settings interpreter (.error failure) [] :=
    ⟨hnone, fun _ hresult => nomatch hresult⟩
  refine Ensures.lift_bind (fun _ _ => ?_) fun failure _ => hraised failure
  refine Ensures.lift_bind (fun limits _ => ?_) fun failure _ => hraised failure
  refine Ensures.ask_bind fun startedAt => ?_
  refine Ensures.silent_bind (Silent.invoke _) (fun changedFiles => ?_) hraised
  -- `turns` turns have begun when the items from the next one on are left
  refine Ensures.bind (Ensures.each (I := fun items progress log => ∃ turns,
    items = List.range' (turns + 1) (settings.maxIterations - turns) ∧
      turns ≤ settings.maxIterations ∧ Ledger settings interpreter turns 0 log progress)
    (Q := Turned settings interpreter settings.maxIterations) ?_ ?_
    ⟨0, rfl, Nat.zero_le _, ledger_nil⟩) ?_ ?_
  · rintro iteration items progress log ⟨turns, hitems, hturns, hledger⟩
    have hlength : settings.maxIterations - turns = (settings.maxIterations - (turns + 1)) + 1 := by
      have hpos := congrArg List.length hitems
      rw [List.length_cons, List.length_range'] at hpos
      omega
    rw [hlength, List.range'_succ] at hitems
    obtain ⟨rfl, rfl⟩ := List.cons.inj hitems
    refine (ensures_turn hledger (by omega)).weaken ?_
    rintro (failure | stopped | progress') log' hturned
    · exact hturned
    · exact hturned
    · exact ⟨turns + 1, rfl, by omega, hturned⟩
  · rintro progress log ⟨turns, hitems, hturns, hledger⟩
    have hlength := congrArg List.length hitems
    rw [List.length_nil, List.length_range'] at hlength
    obtain rfl : turns = settings.maxIterations := by omega
    exact hledger
  · rintro (stopped | progress) log' hturned
    · exact Ensures.pure hturned
    · exact hturned.ensures_boundedStop le_rfl (by decide)
  · exact fun failure log' hturned => hturned

end Ledger

/-- **A developer run is bounded and accounted for**, whatever its components do. -/
theorem run_accounted {σ S : Type} (settings : Settings) (interpreter : Interpreter)
    (memory : WorkingMemory S) (outside : DeveloperOutside σ) (emptyMemory : S)
    (initialMessages : List AgentMessage) (tools : List ToolDefinition) (task : TaskContractFields)
    (packet : Option DeveloperPacket) (state : σ) :
    let ended := run settings interpreter memory outside emptyMemory initialMessages tools task
      packet ⟨state, []⟩
    Bounded settings interpreter ended.2.log ∧
      ∀ result, ended.1 = .ok result → Reports ended.2.log result := by
  have hrun : Ensures (run settings interpreter memory outside emptyMemory initialMessages tools
    task packet) [] (Final settings interpreter) := ensures_run
  obtain ⟨hbounded, hreports⟩ := hrun state
  exact ⟨hbounded, fun result hresult => (hreports result hresult).1⟩

end DeveloperAgent

end DevFlow
