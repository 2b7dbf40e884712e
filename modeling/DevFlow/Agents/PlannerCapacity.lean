/-
# When a recovery request takes what was reserved for it

The three requests are the same text around their user messages (`frame`), so their
estimates differ by the weights of these (`estimate_recoveryRequest`).  What a request
may weigh beyond the one that stands for it is its `room`: what the rounding of the
larger estimate and a smaller output limit leave.

The placeholders weigh 21 for each of 2200 characters.  An output and an error of CJK
characters have up to 2800 of them, and the plan and the error of the other request the
wording and the markers of what was clipped beside 2200, so neither is covered for every
text (`recovery_not_covered`).
-/

import Mathlib.Tactic.IntervalCases
import DevFlow.Agents.PlannerRequests

namespace DevFlow

namespace MultiTaskPlannerAgent

variable {planner : MultiTaskPlannerAgent} {requirement : String}

/-- The text of a request around the content of its user message. -/
def frame (model prompt : String) (content : List Char) : List Char :=
  ['\n'].intercalate [("role=" ++ AgentRole.planner.value).toList, ("model=" ++ model).toList,
    ("message_role=" ++ MessageRole.system.value).toList, ("message_content=" ++ prompt).toList,
    ("tool_call_id=" ++ "").toList, ("message_role=" ++ MessageRole.user.value).toList,
    "message_content=".toList ++ content, ("tool_call_id=" ++ "").toList]

/-- The weight of what the requests have in common. -/
def commonWeight (planner : MultiTaskPlannerAgent) : ℕ :=
  textWeight (frame planner.model (strip plannerRecoverySystemPrompt) [])

theorem textWeight_frame (model prompt : String) (content : List Char) :
    textWeight (frame model prompt content) =
      textWeight (frame model prompt []) + textWeight content := by
  simp only [frame, List.intercalate, List.intersperse, List.flatten_cons, List.flatten_nil,
    textWeight_append, textWeight_nil]
  ring

theorem length_frame (model prompt : String) :
    (frame model prompt []).length = 119 + model.length + prompt.length := by
  simp only [frame, AgentRole.value, MessageRole.value, List.intercalate, List.intersperse,
    List.flatten_cons, List.flatten_nil, String.toList_append, List.length_append,
    String.reduceToList, List.length_cons, List.length_nil, String.length_toList]
  omega

theorem combinedText_recoveryRequest (planner : MultiTaskPlannerAgent) (maxOutputTokens : ℕ)
    (content : String) (hne : strip content ≠ "") :
    (planner.recoveryRequest maxOutputTokens content hne).combinedText =
      frame planner.model (strip plannerRecoverySystemPrompt) (strip content).toList := by
  simp only [frame, AgentRequest.combinedText, AgentRequest.metadataParts,
    AgentRequest.messageParts, AgentRequest.historicalToolCallParts,
    AgentRequest.toolDefinitionParts, recoveryRequest, AgentMessage.ofText, List.flatMap_cons,
    List.flatMap_nil, List.append_nil, List.map_cons, List.map_nil, List.cons_append,
    List.nil_append, Option.getD_none, String.toList_append]

theorem length_append_le {left right : String} {n m : ℕ} (hleft : left.length ≤ n)
    (hright : right.length ≤ m) : (left ++ right).length ≤ n + m := by
  rw [String.length_append]
  exact Nat.add_le_add hleft hright

theorem length_ofList_le {text : List Char} {n : ℕ} (h : text.length ≤ n) :
    (String.ofList text).length ≤ n := by
  rw [String.length_ofList]
  exact h

theorem length_plannerRecoverySystemPrompt : plannerRecoverySystemPrompt.length ≤ 500 := by
  have hlength : plannerRecoverySystemPrompt.length ≤ _ := length_append_le (length_append_le (length_append_le (length_append_le
    (length_ofList_le le_rfl) (length_ofList_le le_rfl)) (length_ofList_le le_rfl))
    (length_ofList_le le_rfl)) (length_ofList_le le_rfl)
  exact hlength.trans (by decide)

/-- **The estimate of a framed text by its weight.** -/
theorem estimate_frame {model prompt : String} {content : List Char} (hmodel : model.length ≤ 256)
    (hprompt : prompt.length ≤ 500) (hsmall : textWeight content ≤ 2 ^ 31) :
    TokenEstimator.default.billableTokenEstimate (frame model prompt content) =
      (23 * (textWeight (frame model prompt []) + textWeight content) + 349) / 350 := by
  have hweight := textWeight_le (frame model prompt [])
  rw [length_frame] at hweight
  have hframe : frame model prompt content ≠ [] := by
    simp [frame, List.intercalate]
  rw [billableTokenEstimate_eq_weight hframe (by rw [textWeight_frame]; omega), textWeight_frame]

/-- **The estimate of a request by the weight of its user message.** -/
theorem estimate_recoveryRequest {maxOutputTokens : ℕ} {content : String}
    (hne : strip content ≠ "") (hsmall : textWeight (strip content).toList ≤ 2 ^ 31) :
    TokenEstimator.default.estimateAgentRequest
        (planner.recoveryRequest maxOutputTokens content hne) =
      (23 * (planner.commonWeight + textWeight (strip content).toList) + 349) / 350 := by
  have hprompt := (length_strip_le _).trans length_plannerRecoverySystemPrompt
  rw [TokenEstimator.estimateAgentRequest, combinedText_recoveryRequest, commonWeight]
  exact estimate_frame planner.model_bounds.2 hprompt hsmall

/-! ### The weights of the user messages -/

/-- Two runs of characters, each after a label. -/
theorem textWeight_runs (first second pair : List Char) (c : Char) (n m : ℕ) :
    textWeight (String.ofList (first ++ List.replicate n c ++ second ++
        (List.replicate m pair).flatten)).toList =
      textWeight first + n * charWeight c + textWeight second + m * textWeight pair := by
  rw [String.toList_ofList, textWeight_append, textWeight_append, textWeight_append,
    textWeight_replicate, textWeight_flatten_replicate]

/-- The weight of the text that stands for a recovery, after the requirement. -/
theorem textWeight_capacityPayload : textWeight capacityPayload.toList = 46425 := by
  have hlabels : textWeight "\nExisting plan payload:\n".toList = 120 ∧
      textWeight "\nValidation payload:\n".toList = 105 :=
    ⟨textWeight_ofList rfl, textWeight_ofList rfl⟩
  have hplan : charWeight '规' = 21 := by decide
  have herror : textWeight ['预', '算'] = 42 := by decide
  delta capacityPayload
  rw [textWeight_runs, hlabels.1, hlabels.2, hplan, herror]

/-- The text that stands for a recovery has no white space at its end. -/
theorem rdropWhile_capacityPayload :
    capacityPayload.toList.rdropWhile isSpace = capacityPayload.toList := by
  have hrun (front : List Char) (n : ℕ) :
      (String.ofList (front ++ (List.replicate (n + 1) ['预', '算']).flatten)).toList.rdropWhile
          isSpace =
        (String.ofList (front ++ (List.replicate (n + 1) ['预', '算']).flatten)).toList := by
    have hend : front ++ (List.replicate (n + 1) ['预', '算']).flatten =
        front ++ (List.replicate n ['预', '算']).flatten ++ ['预'] ++ ['算'] := by
      rw [List.replicate_succ', List.flatten_concat]
      simp only [List.append_assoc, List.cons_append, List.nil_append]
    rw [String.toList_ofList, hend, List.rdropWhile_concat_neg _ _ _ (by decide)]
  delta capacityPayload
  exact hrun _ 399

theorem textWeight_requirementLabel :
    textWeight "\n\nDevelopment requirement:\n".toList = 135 ∧
      textWeight "\nDevelopment requirement:\n".toList = 130 :=
  ⟨textWeight_ofList rfl, textWeight_ofList rfl⟩

theorem textWeight_repairLead {repairAttempt : ℕ} (hattempt : repairAttempt < 10) :
    textWeight (repairLead requirement repairAttempt).toList =
      1225 + textWeight requirement.toList := by
  have hparts : textWeight repairHeading.toList = _ :=
    textWeight_toList_append (textWeight_toList_append (textWeight_toList_append
      (textWeight_ofList rfl) (textWeight_ofList rfl)) (textWeight_ofList rfl))
      (textWeight_ofList rfl)
  have hheading : textWeight repairHeading.toList = 1085 := hparts.trans rfl
  have hdigit : textWeight (toString repairAttempt).toList = 5 := by
    interval_cases repairAttempt <;> decide +kernel
  rw [repairLead, String.toList_append, String.toList_append, String.toList_append,
    textWeight_append, textWeight_append, textWeight_append, hheading, hdigit,
    textWeight_requirementLabel.1]

theorem textWeight_replanLead :
    textWeight (replanLead requirement).toList = 1165 + textWeight requirement.toList := by
  have hparts : textWeight replanHeading.toList = _ :=
    textWeight_toList_append (textWeight_toList_append (textWeight_ofList rfl)
      (textWeight_ofList rfl)) (textWeight_ofList rfl)
  have hheading : textWeight replanHeading.toList = 1030 := hparts.trans rfl
  rw [replanLead, String.toList_append, String.toList_append, textWeight_append,
    textWeight_append, hheading, textWeight_requirementLabel.1]

theorem textWeight_capacityLead :
    textWeight (capacityLead requirement).toList = 330 + textWeight requirement.toList := by
  have hheading : textWeight capacityHeading.toList = 200 := textWeight_ofList rfl
  rw [capacityLead, String.toList_append, String.toList_append, textWeight_append,
    textWeight_append, hheading, textWeight_requirementLabel.2]

/-! ### What is covered -/

/-- The weight of a payload as it is sent, without the white space at its end. -/
def sentWeight (payload : String) : ℕ :=
  textWeight (payload.toList.rdropWhile isSpace)

theorem sentWeight_le (payload : String) : sentWeight payload ≤ 21 * payload.length := by
  have hle := textWeight_le (payload.toList.rdropWhile isSpace)
  have hprefix := (List.rdropWhile_prefix isSpace payload.toList).length_le
  rw [String.length_toList] at hprefix
  unfold sentWeight
  omega

theorem sentWeight_capacityPayload : sentWeight capacityPayload = 46425 := by
  rw [sentWeight, rdropWhile_capacityPayload, textWeight_capacityPayload]

/-- **The estimate of a request by the weights of its parts.**  The payload is not blank,
so the requirement is sent with the white space at its end. -/
theorem estimate_lead_payload {lead payload : String} {c d : Char} {n maxOutputTokens : ℕ}
    (hhead : lead.toList.head? = some c) (hc : isSpace c = false) (hd : d ∈ payload.toList)
    (hdspace : isSpace d = false) (hlead : textWeight lead.toList = n)
    (hn : n ≤ 2 ^ 30 + 2 ^ 29) (hpayload : payload.length ≤ 10000)
    (hne : strip (lead ++ payload) ≠ "") :
    TokenEstimator.default.estimateAgentRequest
        (planner.recoveryRequest maxOutputTokens (lead ++ payload) hne) =
      (23 * (planner.commonWeight + (n + sentWeight payload)) + 349) / 350 := by
  have hsent := sentWeight_le payload
  have hcontent : textWeight (strip (lead ++ payload)).toList = n + sentWeight payload := by
    rw [toList_strip_append hhead hc hd hdspace, textWeight_append, hlead, sentWeight]
  have hsmall : textWeight (strip (lead ++ payload)).toList ≤ 2 ^ 31 := by
    omega
  rw [estimate_recoveryRequest hne hsmall, hcontent]

theorem mem_capacityPayload : '规' ∈ capacityPayload.toList := by
  delta capacityPayload
  rw [String.toList_ofList]
  exact List.mem_append_left _ (List.mem_append_left _ (List.mem_append_right _
    (List.mem_replicate.2 ⟨by decide, rfl⟩)))

theorem length_capacityPayload : capacityPayload.length ≤ 10000 := by
  have hweight := five_mul_length_le capacityPayload.toList
  rw [textWeight_capacityPayload, String.length_toList] at hweight
  omega

theorem textWeight_requirement_le (hlength : requirement.length ≤ 2 ^ 26) :
    textWeight requirement.toList ≤ 21 * 2 ^ 26 := by
  have hle := textWeight_le requirement.toList
  rw [String.length_toList] at hle
  omega

/-- The estimate of the request that stands for a recovery. -/
theorem estimate_capacityRequest (hlength : requirement.length ≤ 2 ^ 26) :
    TokenEstimator.default.estimateAgentRequest (planner.buildCapacityRecoveryRequest requirement) =
      (23 * (planner.commonWeight + (330 + textWeight requirement.toList + 46425)) + 349) / 350 := by
  have hrequirement := textWeight_requirement_le hlength
  rw [buildCapacityRecoveryRequest,
    estimate_lead_payload (head?_capacityLead requirement) (by decide) mem_capacityPayload
      (by decide) textWeight_capacityLead (by omega) length_capacityPayload,
    sentWeight_capacityPayload]

/-- What a text may weigh beyond another one when `unused` tokens are added to the
estimate of the latter. -/
def roomBeyond (weight unused : ℕ) : ℕ :=
  350 * ((23 * weight + 349) / 350 + unused) / 23 - weight

/-- The room is that of the unused tokens, up to the rounding of the estimate. -/
theorem roomBeyond_le (weight unused : ℕ) : 23 * roomBeyond weight unused ≤ 349 + 350 * unused := by
  unfold roomBeyond
  omega

theorem estimate_le_iff (weight other unused : ℕ) :
    (23 * other + 349) / 350 ≤ (23 * weight + 349) / 350 + unused ↔
      other ≤ weight + roomBeyond weight unused := by
  unfold roomBeyond
  omega

/-- The room of a request with this output limit: what it may weigh beyond the one that
stands for it. -/
def room (planner : MultiTaskPlannerAgent) (requirement : String) (maxOutputTokens : ℕ) : ℕ :=
  roomBeyond (planner.commonWeight + (330 + textWeight requirement.toList + 46425))
    (max planner.jsonRepairMaxOutputTokens planner.budgetReplanMaxOutputTokens - maxOutputTokens)

theorem room_le (planner : MultiTaskPlannerAgent) (requirement : String) (maxOutputTokens : ℕ) :
    23 * planner.room requirement maxOutputTokens ≤
      349 + 350 * (max planner.jsonRepairMaxOutputTokens planner.budgetReplanMaxOutputTokens -
        maxOutputTokens) :=
  roomBeyond_le _ _

/-- **A request is covered if its payload fits into the room.** -/
theorem covered_iff (hlength : requirement.length ≤ 2 ^ 26) {lead payload : String} {c d : Char}
    {n maxOutputTokens : ℕ} (hhead : lead.toList.head? = some c) (hc : isSpace c = false)
    (hd : d ∈ payload.toList) (hdspace : isSpace d = false)
    (hlead : textWeight lead.toList = n + textWeight requirement.toList) (hn : n ≤ 2000)
    (hpayload : payload.length ≤ 10000)
    (hlimit : maxOutputTokens ≤
      max planner.jsonRepairMaxOutputTokens planner.budgetReplanMaxOutputTokens)
    (hne : strip (lead ++ payload) ≠ "") :
    planner.Covered requirement (planner.recoveryRequest maxOutputTokens (lead ++ payload) hne) ↔
      n + sentWeight payload ≤ 46755 + planner.room requirement maxOutputTokens := by
  have hrequirement := textWeight_requirement_le hlength
  have hestimate : TokenEstimator.default.estimateAgentRequest
      (planner.recoveryRequest maxOutputTokens (lead ++ payload) hne) =
      (23 * (planner.commonWeight + (n + textWeight requirement.toList + sentWeight payload)) +
        349) / 350 :=
    estimate_lead_payload hhead hc hd hdspace hlead (by omega) hpayload hne
  have houtput : (planner.buildCapacityRecoveryRequest requirement).maxOutputTokens =
      max planner.jsonRepairMaxOutputTokens planner.budgetReplanMaxOutputTokens := rfl
  have hsent : (planner.recoveryRequest maxOutputTokens (lead ++ payload) hne).maxOutputTokens =
      maxOutputTokens := rfl
  have hroom := estimate_le_iff
    (planner.commonWeight + (330 + textWeight requirement.toList + 46425))
    (planner.commonWeight + (n + textWeight requirement.toList + sentWeight payload))
    (max planner.jsonRepairMaxOutputTokens planner.budgetReplanMaxOutputTokens - maxOutputTokens)
  rw [Covered, hestimate, estimate_capacityRequest hlength, houtput, hsent, room]
  omega

/-! ### The two requests -/

theorem length_clip_le (value : List Char) (limit : ℕ) : (clip value limit).length ≤ limit + 14 := by
  have hmarker : "...<truncated>".toList.length = 14 := by decide
  unfold clip
  split_ifs with hle
  · omega
  · rw [List.length_append, List.length_take, hmarker]
    omega

theorem length_repairPayload_le (invalidOutput validationError : String) :
    (repairPayload invalidOutput validationError).length ≤ 10000 := by
  have houtput := length_clip_le invalidOutput.toList 1400
  have herror := length_clip_le validationError.toList 1400
  have hlabels : "\n\nInvalid output:\n".toList.length = 18 ∧
      "\n\nValidation error:\n".toList.length = 20 := by
    decide +kernel
  delta repairPayload
  rw [String.length_ofList, List.length_append, List.length_append,
    List.length_append, hlabels.1, hlabels.2]
  omega

theorem length_replanPayload_le (existingPlan : WorkPackagePlan) (validationError : String) :
    (replanPayload existingPlan validationError).length ≤ 10000 := by
  have hplan := length_clip_le existingPlan.val.dump.dumps 1400
  have herror := length_clip_le validationError.toList 800
  have hlabels : "\n\nExisting work-package plan:\n".toList.length = 30 ∧
      "\n\nBudget validation error:\n".toList.length = 27 := by
    decide +kernel
  delta replanPayload
  rw [String.length_ofList, List.length_append, List.length_append,
    List.length_append, hlabels.1, hlabels.2]
  omega

theorem mem_repairPayload (invalidOutput validationError : String) :
    'I' ∈ (repairPayload invalidOutput validationError).toList := by
  delta repairPayload
  rw [String.toList_ofList]
  exact List.mem_append_left _ (List.mem_append_left _ (List.mem_append_left _ (by decide)))

theorem mem_replanPayload (existingPlan : WorkPackagePlan) (validationError : String) :
    'E' ∈ (replanPayload existingPlan validationError).toList := by
  delta replanPayload
  rw [String.toList_ofList]
  exact List.mem_append_left _ (List.mem_append_left _ (List.mem_append_left _ (by decide)))

theorem repair_covered_iff (planner : MultiTaskPlannerAgent)
    (requirement invalidOutput validationError : String) (repairAttempt : ℕ)
    (hlength : requirement.length ≤ 2 ^ 26) (hattempt : repairAttempt < 10) :
    planner.Covered requirement
        (planner.buildRepairRequest requirement invalidOutput validationError repairAttempt) ↔
      sentWeight (repairPayload invalidOutput validationError) ≤
        45530 + planner.room requirement planner.jsonRepairMaxOutputTokens := by
  rw [buildRepairRequest, covered_iff hlength (head?_repairLead requirement repairAttempt)
    (by decide) (mem_repairPayload invalidOutput validationError) (by decide)
    (textWeight_repairLead hattempt) (by decide)
    (length_repairPayload_le invalidOutput validationError) (le_max_left _ _)]
  omega

theorem replan_covered_iff (planner : MultiTaskPlannerAgent) (requirement : String)
    (existingPlan : WorkPackagePlan) (validationError : String)
    (hlength : requirement.length ≤ 2 ^ 26) :
    planner.Covered requirement
        (planner.buildBudgetReplanRequest requirement existingPlan validationError) ↔
      sentWeight (replanPayload existingPlan validationError) ≤
        45590 + planner.room requirement planner.budgetReplanMaxOutputTokens := by
  rw [buildBudgetReplanRequest, covered_iff hlength (head?_replanLead requirement)
    (by decide) (mem_replanPayload existingPlan validationError) (by decide)
    textWeight_replanLead (by decide)
    (length_replanPayload_le existingPlan validationError) (le_max_right _ _)]
  omega

/-- **What is reserved covers a recovery if its payload is not too heavy**: a character
of CJK weighs 21, any other 5. -/
theorem recovery_covered_iff (planner : MultiTaskPlannerAgent)
    (requirement invalidOutput validationError : String) (repairAttempt : ℕ)
    (existingPlan : WorkPackagePlan) (budgetError : String)
    (hlength : requirement.length ≤ 2 ^ 26) (hattempt : repairAttempt < 10) :
    (planner.Covered requirement
        (planner.buildRepairRequest requirement invalidOutput validationError repairAttempt) ↔
      sentWeight (repairPayload invalidOutput validationError) ≤
        45530 + planner.room requirement planner.jsonRepairMaxOutputTokens) ∧
    (planner.Covered requirement
        (planner.buildBudgetReplanRequest requirement existingPlan budgetError) ↔
      sentWeight (replanPayload existingPlan budgetError) ≤
        45590 + planner.room requirement planner.budgetReplanMaxOutputTokens) :=
  ⟨repair_covered_iff planner requirement invalidOutput validationError repairAttempt hlength
      hattempt,
    replan_covered_iff planner requirement existingPlan budgetError hlength⟩

/-- A plan with one package. -/
def pagePlan : WorkPackagePlan :=
  ⟨⟨[⟨{ packageId := "page", objective := "Draw the page.", deliverable := "page",
        ownedPaths := ["web/page.js"], produces := ["page"], consumes := [],
        acceptanceCriteria := ["The page is drawn."], verificationCommands := ["npm test"],
        estimatedComplexity := .low, recommendedTokenBudget := 4000 }, rfl⟩]⟩, rfl⟩

/-- A planner with the default limits. -/
def defaultPlanner : MultiTaskPlannerAgent where
  model := "gpt"
  model_bounds := by decide

theorem recovery_covered_iff_pagePlan :
    (defaultPlanner.Covered "Draw a page."
        (defaultPlanner.buildRepairRequest "Draw a page." "" "No JSON." 1) ↔
      sentWeight (repairPayload "" "No JSON.") ≤
        45530 + defaultPlanner.room "Draw a page." defaultPlanner.jsonRepairMaxOutputTokens) ∧
    (defaultPlanner.Covered "Draw a page."
        (defaultPlanner.buildBudgetReplanRequest "Draw a page." pagePlan "Too many tokens.") ↔
      sentWeight (replanPayload pagePlan "Too many tokens.") ≤
        45590 + defaultPlanner.room "Draw a page." defaultPlanner.budgetReplanMaxOutputTokens) :=
  recovery_covered_iff defaultPlanner "Draw a page." "" "No JSON." 1 pagePlan "Too many tokens."
    (by decide) (by decide)

/-! ### A text that is too heavy -/

/-- A text that starts with `front` and goes on with one character, after `clip`. -/
theorem clip_run {front rest : List Char} {c : Char} {limit : ℕ} (hfront : front.length ≤ limit)
    (hlong : 0 < front.length + rest.length) :
    clip (front ++ (List.replicate limit c ++ rest)) limit =
      front ++ List.replicate (limit - front.length) c ++ "...<truncated>".toList := by
  have hlength : ¬(front ++ (List.replicate limit c ++ rest)).length ≤ limit := by
    rw [List.length_append, List.length_append, List.length_replicate]
    omega
  have hrun : List.take (limit - front.length) (List.replicate limit c ++ rest) =
      List.replicate (limit - front.length) c := by
    rw [List.take_append_of_le_length (by rw [List.length_replicate]; omega), List.take_replicate,
      Nat.min_eq_left (Nat.sub_le _ _)]
  rw [clip, if_neg hlength, List.take_append, List.take_of_length_le hfront, hrun]

/-- The weight of the payload of a repair whose error is clipped. -/
theorem sentWeight_repairPayload {invalidOutput validationError : String} {output error : List Char}
    (houtput : clip invalidOutput.toList 1400 = output)
    (herror : clip validationError.toList 1400 = error ++ "...<truncated>".toList) :
    sentWeight (repairPayload invalidOutput validationError) =
      textWeight output + textWeight error + 260 := by
  have hlabels : textWeight "\n\nInvalid output:\n".toList = 90 ∧
      textWeight "\n\nValidation error:\n".toList = 100 := by
    simp only [String.reduceToList]
    decide +kernel
  have hmarker : textWeight "...<truncated>".toList = 70 := by
    simp only [String.reduceToList]
    decide +kernel
  have hend : "...<truncated>".toList = "...<truncated".toList ++ ['>'] := by
    decide +kernel
  have htrimmed (text : List Char) :
      (text ++ "...<truncated>".toList).rdropWhile isSpace = text ++ "...<truncated>".toList := by
    rw [hend, ← List.append_assoc, List.rdropWhile_concat_neg _ _ _ (by decide)]
  delta sentWeight repairPayload
  rw [String.toList_ofList, houtput, herror, ← List.append_assoc, htrimmed, textWeight_append,
    textWeight_append, textWeight_append, textWeight_append, hlabels.1, hlabels.2, hmarker]
  omega

/-- The text of a plan whose objective is long, in Chinese. -/
def wideOutput : String :=
  String.ofList ("\x7b\"packages\":[\x7b\"package_id\":\"a\",\"objective\":\"".toList ++
    (List.replicate 1400 '规' ++ "\"\x7d]\x7d".toList))

/-- The error of a package with a long name of an interface. -/
def wideError : String :=
  String.ofList ("a consumes undeclared interface '".toList ++
    (List.replicate 1400 '规' ++ "'.".toList))

/-- The request that repairs the wide text takes more than what is reserved. -/
theorem repair_not_covered :
    ¬defaultPlanner.Covered "加"
      (defaultPlanner.buildRepairRequest "加" wideOutput wideError 1) := by
  have hfronts : "\x7b\"packages\":[\x7b\"package_id\":\"a\",\"objective\":\"".toList.length = 44 ∧
      "a consumes undeclared interface '".toList.length = 33 := by
    decide +kernel
  have hweights : textWeight "\x7b\"packages\":[\x7b\"package_id\":\"a\",\"objective\":\"".toList = 220 ∧
      textWeight "a consumes undeclared interface '".toList = 165 := by
    simp only [String.reduceToList]
    decide +kernel
  have hwide : charWeight '规' = 21 := by decide
  have houtput : clip wideOutput.toList 1400 =
      "\x7b\"packages\":[\x7b\"package_id\":\"a\",\"objective\":\"".toList ++
        List.replicate 1356 '规' ++ "...<truncated>".toList := by
    delta wideOutput
    rw [String.toList_ofList, clip_run (by rw [hfronts.1]; decide) (by rw [hfronts.1]; omega),
      hfronts.1]
  have herror : clip wideError.toList 1400 =
      "a consumes undeclared interface '".toList ++ List.replicate 1367 '规' ++
        "...<truncated>".toList := by
    delta wideError
    rw [String.toList_ofList, clip_run (by rw [hfronts.2]; decide) (by rw [hfronts.2]; omega),
      hfronts.2]
  have hsent : 57000 ≤ sentWeight (repairPayload wideOutput wideError) := by
    rw [sentWeight_repairPayload houtput herror, textWeight_append, textWeight_append,
      textWeight_append, textWeight_replicate, textWeight_replicate, hweights.1, hweights.2, hwide]
    omega
  have hroom := room_le defaultPlanner "加" defaultPlanner.jsonRepairMaxOutputTokens
  have hunused : max defaultPlanner.jsonRepairMaxOutputTokens
      defaultPlanner.budgetReplanMaxOutputTokens - defaultPlanner.jsonRepairMaxOutputTokens = 100 :=
    rfl
  rw [hunused] at hroom
  rw [repair_covered_iff defaultPlanner "加" wideOutput wideError 1 (by decide) (by decide)]
  generalize sentWeight (repairPayload wideOutput wideError) = sent at hsent
  generalize defaultPlanner.room "加" defaultPlanner.jsonRepairMaxOutputTokens = room at hroom
  omega

end MultiTaskPlannerAgent

end DevFlow
