/-
# What a provider gets of the recorded turns

The messages are the base messages, the message of the working state once something
was left out, and the last groups.  A group is `Retains` of its turn: the assistant
message as it was, one tool message for each of its calls in their order, no more
tokens than the budget of the turn, and of each result what `Shown` says.

A turn adds its group or leaves the groups as they were (`addGroup_groups`), whatever
its observations raise, so after any run the groups are those of some of the turns in
their order.
-/

import DevFlow.Context.Retention
import Mathlib.Data.List.Forall2

namespace DevFlow

namespace Retention

/-! ### Previews -/

/-- The lengths of the prefixes that fit with the suffix. -/
def FittingPrefixes (content : List Char) (limit : ℕ) : Set ℕ :=
  {k | k ≤ content.length ∧
    tokenEstimator.billableTokenEstimate (content.take k ++ previewSuffix.toList) ≤ limit}

theorem previewSuffix_fits : tokenEstimator.billableTokenEstimate previewSuffix.toList ≤ 128 := by
  have hcounts : previewSuffix.toList.length = 110 ∧ previewSuffix.toList.countP isCjk = 0 := by
    simp only [previewSuffix, String.reduceToList]
    decide +kernel
  rw [tokenEstimator, TokenEstimator.billableTokenEstimate_eq (by omega) (by omega)]
  omega

/-- A shorter prefix has no larger estimate. -/
theorem preview_mono (content : List Char) {i j : ℕ} (h : i ≤ j) :
    tokenEstimator.billableTokenEstimate (content.take i ++ previewSuffix.toList) ≤
      tokenEstimator.billableTokenEstimate (content.take j ++ previewSuffix.toList) :=
  TokenEstimator.billableTokenEstimate_mono ((List.take_sublist_take_left h).append_right _)

/-- **The preview is of the longest prefix that fits.** -/
theorem boundedPreview_isGreatest {content : List Char} {limit : ℕ} (h : 128 ≤ limit) :
    ∃ k, boundedPreview content limit = content.take k ++ previewSuffix.toList ∧
      IsGreatest (FittingPrefixes content limit) k := by
  let fits : ℕ → Bool := fun middle =>
    tokenEstimator.billableTokenEstimate (content.take middle ++ previewSuffix.toList) ≤ limit
  have hdown : ∀ i j, i ≤ j → fits j = true → fits i = true := by
    intro i j hij hpass
    exact decide_eq_true ((preview_mono content hij).trans (of_decide_eq_true hpass))
  have hzero : fits 0 = true := decide_eq_true (previewSuffix_fits.trans h)
  have hgreatest : IsGreatest {k | k ≤ content.length ∧ fits k = true}
      (Bisection.bisect fits 0 content.length) :=
    Bisection.bisect_isGreatest hdown hzero
  refine ⟨Bisection.bisect fits 0 content.length, ?_, ?_⟩
  · change (if Bisection.bisect fits 0 content.length = 0 then previewSuffix.toList
      else content.take (Bisection.bisect fits 0 content.length) ++ previewSuffix.toList) = _
    split_ifs with hnone
    · rw [hnone, List.take_zero, List.nil_append]
    · rfl
  · simpa only [FittingPrefixes, fits, decide_eq_true_eq] using hgreatest

/-! ### What is shown of a result -/

/-- What is shown of a result in a number of tokens: the notice where they are too few
for a preview, the whole where it fits, and otherwise the longest prefix that fits. -/
inductive Shown (limit : ℕ) (original : String) : String → Prop
  | omitted (few : limit < 128) : Shown limit original omissionNotice
  | whole (enough : 128 ≤ limit)
      (fits : tokenEstimator.billableTokenEstimate original.toList ≤ limit) :
      Shown limit original original
  | preview (k : ℕ) (enough : 128 ≤ limit)
      (long : limit < tokenEstimator.billableTokenEstimate original.toList)
      (longest : IsGreatest (FittingPrefixes original.toList limit) k) :
      Shown limit original (String.ofList (original.toList.take k ++ previewSuffix.toList))

/-- The messages of the results of a turn, each shown in what the ones before it left. -/
inductive Shows (limits : RetentionLimits) :
    ℕ → List ToolExecutionResult → List AgentMessage → Prop
  | nil (remaining : ℕ) : Shows limits remaining [] []
  | cons {remaining : ℕ} {result : ToolExecutionResult} {content : String}
      {results : List ToolExecutionResult} {messages : List AgentMessage}
      (head : Shown (contentLimit limits result remaining) result.val.content content)
      (tail : Shows limits (remaining - messageTokens (result.message content)) results messages) :
      Shows limits remaining (result :: results) (result.message content :: messages)

theorem shown_shownContent (original : String) (limit : ℕ) :
    Shown limit original (shownContent original limit).1 := by
  unfold shownContent
  split_ifs with hfew hlong
  · exact .omitted hfew
  · obtain ⟨k, hpreview, hgreatest⟩ := boundedPreview_isGreatest (not_lt.1 hfew)
    rw [hpreview]
    exact .preview k (not_lt.1 hfew) hlong hgreatest
  · exact .whole (not_lt.1 hfew) (not_lt.1 hlong)

/-- **The loop over the results shows each of them.** -/
theorem shows_boundedMessages (limits : RetentionLimits) (remaining : ℕ)
    (results : List ToolExecutionResult) :
    Shows limits remaining results (boundedMessages limits remaining results).1 := by
  induction results generalizing remaining with
  | nil => exact .nil remaining
  | cons result results ih => exact .cons (shown_shownContent _ _) (ih _)

/-- The messages have the ids of the results, and are tool messages. -/
theorem Shows.toolCallIds {limits : RetentionLimits} {remaining : ℕ}
    {results : List ToolExecutionResult} {messages : List AgentMessage}
    (h : Shows limits remaining results messages) :
    messages.map (·.val.toolCallId) = results.map (some ·.val.toolCallId) ∧
      ∀ message ∈ messages, message.val.role = .tool := by
  induction h with
  | nil remaining => exact ⟨rfl, by simp⟩
  | cons head tail ih =>
    refine ⟨?_, List.forall_mem_cons.2 ⟨rfl, ih.2⟩⟩
    rw [List.map_cons, List.map_cons, ih.1]
    rfl

/-! ### Groups -/

/-- The group of a turn. -/
structure Retains (limits : RetentionLimits) (turn : Turn) (group : ToolCallGroup) : Prop where
  assistant : group.assistant = turn.assistant
  role : group.assistant.val.role = .assistant
  calls : group.assistant.val.toolCalls ≠ []
  tools : ∀ message ∈ group.results, message.val.role = .tool
  toolCallIds : group.results.map (·.val.toolCallId) =
    group.assistant.val.toolCalls.map (some ·.val.id)
  budget : (group.results.map messageTokens).sum ≤ limits.maxToolResultsPerTurnTokens
  shown : Shows limits limits.maxToolResultsPerTurnTokens turn.results group.results

section Memory

variable {S : Type} (memory : WorkingMemory S)

/-- **A turn adds its group or leaves the groups as they were.** -/
theorem addGroup_groups (retention : Retention S) (turn : Turn) :
    let next := (addGroup memory retention turn.assistant turn.calls turn.results).1
    next.limits = retention.limits ∧ next.baseMessages = retention.baseMessages ∧
      (next.groups = retention.groups ∨
        ∃ group, next.groups = retention.groups ++ [group] ∧
          Retains retention.limits turn group) := by
  unfold addGroup
  dsimp only
  split_ifs with hassistant hcalls hresults hbudget hmutation
  · exact ⟨rfl, rfl, .inl rfl⟩
  · exact ⟨rfl, rfl, .inl rfl⟩
  · exact ⟨rfl, rfl, .inl rfl⟩
  · split <;> exact ⟨rfl, rfl, .inl rfl⟩
  · split <;> exact ⟨rfl, rfl, .inl rfl⟩
  · split
    · exact ⟨rfl, rfl, .inl rfl⟩
    · refine ⟨rfl, rfl, .inr ⟨_, rfl, ?_⟩⟩
      rw [not_or, not_not] at hassistant
      rw [not_not] at hcalls hresults
      have hshown := shows_boundedMessages retention.limits
        retention.limits.maxToolResultsPerTurnTokens turn.results
      exact
        { assistant := rfl
          role := hassistant.1
          calls := hassistant.2
          tools := hshown.toolCallIds.2
          toolCallIds := by
            have hids := congrArg (List.map some) (hresults.trans hcalls)
            rw [List.map_map, List.map_map] at hids
            exact hshown.toolCallIds.1.trans hids
          budget := not_lt.1 hbudget
          shown := hshown }

/-- A turn that is neither refused nor compacted adds its group. -/
theorem addGroup_groups_of_kept (retention : Retention S) (turn : Turn)
    (hassistant : turn.assistant.val.role = .assistant ∧ turn.assistant.val.toolCalls ≠ [])
    (hcalls : turn.calls.map (·.val.id) = turn.assistant.val.toolCalls.map (·.val.id))
    (hresults : turn.results.map (·.val.toolCallId) = turn.calls.map (·.val.id))
    (hobserved : (observeAll memory retention.state (turn.calls.zip turn.results)).2 = none)
    (hbudget : ((boundedMessages retention.limits retention.limits.maxToolResultsPerTurnTokens
      turn.results).1.map messageTokens).sum ≤ retention.limits.maxToolResultsPerTurnTokens)
    (hmutation : isSuccessfulCodeMutation turn.calls turn.results = false) :
    (addGroup memory retention turn.assistant turn.calls turn.results).1.groups =
      retention.groups ++ [⟨turn.assistant, (boundedMessages retention.limits
        retention.limits.maxToolResultsPerTurnTokens turn.results).1⟩] := by
  have hroles : ¬(turn.assistant.val.role ≠ .assistant ∨ turn.assistant.val.toolCalls = []) := by
    rw [not_or, not_not]
    exact hassistant
  have hkept : ¬isSuccessfulCodeMutation turn.calls turn.results = true :=
    ne_true_of_eq_false hmutation
  simp only [addGroup, if_neg hroles, if_neg (not_not.2 hcalls), if_neg (not_not.2 hresults),
    hobserved, if_neg (not_lt.2 hbudget), if_neg hkept]

theorem run_cons (retention : Retention S) (turn : Turn) (turns : List Turn) :
    run memory retention (turn :: turns) =
      run memory (addGroup memory retention turn.assistant turn.calls turn.results).1 turns :=
  rfl

theorem run_nil (retention : Retention S) : run memory retention [] = retention :=
  rfl

/-- **After any run the groups are those of some of the turns**, in their order. -/
theorem run_groups (retention : Retention S) (recorded turns : List Turn)
    (h : List.Forall₂ (Retains retention.limits) recorded retention.groups) :
    (run memory retention turns).limits = retention.limits ∧
      (run memory retention turns).baseMessages = retention.baseMessages ∧
      ∃ kept, kept.Sublist turns ∧ List.Forall₂ (Retains retention.limits) (recorded ++ kept)
        (run memory retention turns).groups := by
  induction turns generalizing retention recorded with
  | nil => exact ⟨rfl, rfl, [], List.Sublist.refl _, by rwa [List.append_nil]⟩
  | cons turn turns ih =>
    obtain ⟨hlimits, hbase, hgroups⟩ := addGroup_groups memory retention turn
    rcases hgroups with hsame | ⟨group, hadded, hretains⟩
    · rw [← hsame, ← hlimits] at h
      obtain ⟨hlimits', hbase', kept, hkept, hforall⟩ := ih _ recorded h
      exact ⟨hlimits'.trans hlimits, hbase'.trans hbase, kept, hkept.cons turn, hlimits ▸ hforall⟩
    · have hnext : List.Forall₂ (Retains retention.limits) (recorded ++ [turn])
          (retention.groups ++ [group]) :=
        List.rel_append h (List.Forall₂.cons hretains List.Forall₂.nil)
      rw [← hadded, ← hlimits] at hnext
      obtain ⟨hlimits', hbase', kept, hkept, hforall⟩ := ih _ _ hnext
      refine ⟨hlimits'.trans hlimits, hbase'.trans hbase, turn :: kept, hkept.cons_cons turn, ?_⟩
      rw [List.append_assoc, hlimits] at hforall
      exact hforall

/-- The retention before any turn. -/
def initial {S : Type} (limits : RetentionLimits) (baseMessages : List AgentMessage) (state : S) :
    Retention S where
  limits := limits
  baseMessages := baseMessages
  state := state

end Memory

/-! ### A result that is left out -/

/-- A memory that notes nothing. -/
def blankMemory : WorkingMemory Unit :=
  ⟨fun state _ _ => (state, none), fun _ => ""⟩

def readCall : ToolCall :=
  ⟨{ id := "a", name := "read_file" }, rfl⟩

def readResult : ToolExecutionResult :=
  ⟨{ toolCallId := "a", name := "read_file", ok := true, content := "x = 1" }, rfl⟩

/-- An assistant that reads one short file. -/
def readTurn : Turn where
  assistant := ⟨{ role := .assistant, toolCalls := [readCall] }, rfl⟩
  calls := [readCall]
  results := [readResult]

/-- Limits that leave less than 128 tokens beside an envelope. -/
def tightLimits : RetentionLimits where
  maxSingleToolResultTokens := 128
  maxToolResultsPerTurnTokens := 150

end Retention

end DevFlow
