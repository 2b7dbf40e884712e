/-
# The failure reports of a verification

`DeterministicVerifier.failure_reports` of `verification/verifier.py`, and what
`runtime/failure_classifier.py` makes of it.  Each failed check becomes a report: what was
run and where, and after that, as its last line, the output that was captured.

A `FailureReport` strips its lines and refuses blank ones.  Every line begins with its label,
so none is blank, and the reports can always be built (`failureReports_eq`).
-/

import DevFlow.Models.VerificationRecords

namespace DevFlow

/-- `text[:count]`. -/
def firstChars (count : ℕ) (text : String) : String :=
  String.ofList (text.toList.take count)

@[simp] theorem toList_firstChars (count : ℕ) (text : String) :
    (firstChars count text).toList = text.toList.take count :=
  String.toList_ofList

/-- A `FailureReport` as its constructor normalises it. -/
def FailureReportFields.normalized (fields : FailureReportFields) : FailureReportFields :=
  { fields with message := strip fields.message, evidence := fields.evidence.map strip }

namespace CheckResultFields

/-- The output of a check that is shown, under its label. -/
def capturedOutput (check : CheckResultFields) : Option (String × String) :=
  if check.stderr ≠ "" then some ("stderr=", check.stderr)
  else if check.stdout ≠ "" then some ("stdout=", check.stdout)
  else none

/-- The lines of `failure_reports` on what was run. -/
def executionEvidence (check : CheckResultFields) : List String :=
  ["check=" ++ check.name] ++
    (check.command.toList.filter (· ≠ "")).map ("command=" ++ ·) ++
    check.exitCode.toList.map (fun exitCode => "exit_code=" ++ toString exitCode) ++
    check.executionBackend.toList.map (fun backend => "execution_backend=" ++ backend.value) ++
    check.executionDetails.map ("execution=" ++ ·)

/-- The line of `failure_reports` on the output. -/
def outputEvidence (check : CheckResultFields) : List String :=
  check.capturedOutput.toList.map fun (label, output) => label ++ output

/-- `evidence` in `failure_reports`. -/
def failureEvidence (check : CheckResultFields) : List String :=
  check.executionEvidence ++ check.outputEvidence

/-- `_failure_message`. -/
def failureMessage (check : CheckResultFields) : FailureType → String
  | .scopeViolation =>
    if check.name = "git_scope_post_verification" then
      "Verification commands produced out-of-scope repository changes."
    else "Git scope integrity check failed before deterministic verification."
  | .testFailure =>
    if check.name = "custom" then "Deterministic custom verification failed."
    else "Deterministic pytest verification failed."
  | .lintFailure => "Deterministic Ruff verification failed."
  | .sandboxTimeout => "Docker verification sandbox exceeded its execution deadline."
  | .verificationEnvUnavailable =>
    if "验证环境缺少 Node.js".toList <:+: check.stderr.toList then
      "验证环境缺少 Node.js，无法执行当前 JavaScript 验证命令。"
    else if "验证环境缺少 Python".toList <:+: check.stderr.toList then
      "验证环境缺少 Python，无法执行当前验证命令。"
    else "验证环境不可用，无法安全执行当前验证命令。"
  | _ => "Deterministic verification could not complete safely."

/-- The `FailureReport` of a failed check, as it is handed to the constructor. -/
def failureReport (check : CheckResultFields) (failureType : FailureType) :
    FailureReportFields where
  failureType := failureType
  source := .verification
  message := check.failureMessage failureType
  retryable := failureType ∈ [.testFailure, .lintFailure]
  evidence := check.failureEvidence

end CheckResultFields

/-- The checks of which `failure_reports` reports, with their failure types. -/
def VerificationResultFields.failingChecks (result : VerificationResultFields) :
    List (CheckResultFields × FailureType) :=
  result.checks.filterMap fun check =>
    if check.passed then none else check.failureType.map (check, ·)

/-- `failure_reports`. -/
def DeterministicVerifier.failureReports (result : VerificationResultFields) :
    Except Failure (List FailureReportFields) :=
  result.failingChecks.mapM fun (check, failureType) => (check.failureReport failureType).validate

namespace FailureClassifier

/-- `_REPAIRABLE_FAILURES`. -/
def repairableFailures : List FailureType :=
  [.testFailure, .lintFailure, .reviewRejected]

/-- `FailureClassifier.from_verification`. -/
def fromVerification (result : VerificationResultFields) :
    Except Failure (List FailureReportFields) :=
  DeterministicVerifier.failureReports result

/-- `FailureClassifier.repairable`. -/
def repairable (reports : List FailureReportFields) : List FailureReportFields :=
  if reports.any fun report =>
      !report.retryable || report.failureType ∉ repairableFailures then []
  else reports

theorem repairable_eq_nil_or (reports : List FailureReportFields) :
    repairable reports = [] ∨ repairable reports = reports := by
  unfold repairable
  split_ifs
  · exact Or.inl rfl
  · exact Or.inr rfl

end FailureClassifier

/-! ### The reports can be built -/

/-- A text that begins with a character that is not white space. -/
def StartsVisible (text : String) : Prop :=
  text.toList.head?.any (!isSpace ·) = true

theorem StartsVisible.exists {text : String} (h : StartsVisible text) :
    ∃ c, text.toList.head? = some c ∧ isSpace c = false := by
  obtain ⟨c, hhead, hc⟩ := (Option.any_eq_true _ _).1 h
  exact ⟨c, hhead, by simpa using hc⟩

theorem StartsVisible.append {label : String} (h : StartsVisible label) (text : String) :
    StartsVisible (label ++ text) := by
  obtain ⟨c, hhead, hc⟩ := h.exists
  rw [StartsVisible, head?_toList_append hhead text, Option.any_some, hc]
  rfl

theorem StartsVisible.strip_ne_empty {text : String} (h : StartsVisible text) :
    strip text ≠ "" := by
  obtain ⟨c, hhead, hc⟩ := h.exists
  rw [Ne, strip_eq_empty_iff]
  intro hall
  exact Bool.false_ne_true (hc.symm.trans (hall c (List.mem_of_head? hhead)))

/-- The labels of the lines on what was run. -/
def executionLabels : List String :=
  ["check=", "command=", "exit_code=", "execution_backend=", "execution="]

/-- The labels of the line on the output. -/
def outputLabels : List String := ["stderr=", "stdout="]

/-- **What does not end with white space** keeps it out of what comes before. -/
theorem rdropWhile_append_of_last {α : Type*} {p : α → Bool} {front : List α}
    (hlast : front.getLast?.any p = false) (text : List α) :
    (front ++ text).rdropWhile p = front ++ text.rdropWhile p := by
  induction text using List.reverseRecOn with
  | nil =>
    rw [List.append_nil, List.rdropWhile_nil, List.append_nil, List.rdropWhile_eq_self_iff]
    intro hfront
    rw [List.getLast?_eq_some_getLast hfront, Option.any_some] at hlast
    rw [hlast]
    exact Bool.false_ne_true
  | append_singleton text c ih =>
    rw [← List.append_assoc]
    by_cases hc : p c = true
    · rw [List.rdropWhile_concat_pos p (front ++ text) c hc, List.rdropWhile_concat_pos p text c hc,
        ih]
    · rw [List.rdropWhile_concat_neg p (front ++ text) c hc,
        List.rdropWhile_concat_neg p text c hc, List.append_assoc]

theorem startsVisible_of_label {label : String} (h : label ∈ executionLabels ++ outputLabels) :
    StartsVisible label := by
  have hall : ∀ label ∈ executionLabels ++ outputLabels,
      label.toList.head?.any (!isSpace ·) = true := by decide
  exact hall label h

/-- **A line is stripped at its end only**, behind its label. -/
theorem toList_strip_label {label : String} (h : label ∈ executionLabels ++ outputLabels)
    (text : String) :
    (strip (label ++ text)).toList = label.toList ++ text.toList.rdropWhile isSpace := by
  have hall : ∀ label ∈ executionLabels ++ outputLabels,
      label.toList.getLast?.any isSpace = false := by decide
  obtain ⟨c, hhead, hc⟩ := (startsVisible_of_label h).exists
  have hfront : (label ++ text).toList.dropWhile isSpace = label.toList ++ text.toList := by
    rw [String.toList_append]
    obtain ⟨rest, hrest⟩ := List.head?_eq_some_iff.1 hhead
    rw [hrest, List.cons_append, List.dropWhile_cons_of_neg (by rw [hc]; exact Bool.false_ne_true)]
  rw [toList_strip, hfront, rdropWhile_append_of_last (hall label h)]

namespace CheckResultFields

variable {check : CheckResultFields}

/-- Every message of `_failure_message` is one that a `FailureReport` accepts. -/
theorem failureMessage_bounds (check : CheckResultFields) (failureType : FailureType) :
    StartsVisible (check.failureMessage failureType) ∧
      (check.failureMessage failureType).length ≤ 4000 := by
  unfold failureMessage
  split <;> try split_ifs
  all_goals
    refine ⟨?_, ?_⟩
    · rw [StartsVisible, String.toList_ofList]
      rfl
    · rw [← String.length_toList, String.toList_ofList]
      decide

/-- **Every line on what was run begins with its label.** -/
theorem label_of_mem_executionEvidence {line : String} (h : line ∈ check.executionEvidence) :
    ∃ label ∈ executionLabels, ∃ text, line = label ++ text := by
  simp only [executionEvidence, List.mem_append, List.mem_map, List.mem_singleton] at h
  rcases h with (((rfl | ⟨command, -, rfl⟩) | ⟨exitCode, -, rfl⟩) | ⟨backend, -, rfl⟩) |
    ⟨detail, -, rfl⟩
  all_goals exact ⟨_, by simp [executionLabels], _, rfl⟩

theorem label_of_capturedOutput {label output : String}
    (h : check.capturedOutput = some (label, output)) : label ∈ outputLabels := by
  unfold capturedOutput at h
  split_ifs at h
  all_goals cases h; simp [outputLabels]

theorem label_of_mem_failureEvidence {line : String} (h : line ∈ check.failureEvidence) :
    ∃ label ∈ executionLabels ++ outputLabels, ∃ text, line = label ++ text := by
  rcases List.mem_append.1 h with h | h
  · obtain ⟨label, hlabel, text, rfl⟩ := label_of_mem_executionEvidence h
    exact ⟨label, List.mem_append_left _ hlabel, text, rfl⟩
  · obtain ⟨⟨label, output⟩, houtput, rfl⟩ := List.mem_map.1 h
    exact ⟨label, List.mem_append_right _ (label_of_capturedOutput (Option.mem_toList.1 houtput)),
      output, rfl⟩

theorem failureReport_validate (check : CheckResultFields) (failureType : FailureType) :
    (check.failureReport failureType).validate =
      .ok (check.failureReport failureType).normalized := by
  obtain ⟨hvisible, hlength⟩ := check.failureMessage_bounds failureType
  refine FailureReportFields.validate_eq_ok.2 ⟨hlength, hvisible.strip_ne_empty, ?_, rfl⟩
  rw [List.mem_map]
  rintro ⟨line, hline, hblank⟩
  obtain ⟨label, hlabel, text, rfl⟩ := label_of_mem_failureEvidence hline
  exact ((startsVisible_of_label hlabel).append text).strip_ne_empty hblank

end CheckResultFields

/-- **The reports of a verification can always be built.** -/
theorem DeterministicVerifier.failureReports_eq (result : VerificationResultFields) :
    failureReports result = .ok (result.failingChecks.map fun (check, failureType) =>
      (check.failureReport failureType).normalized) := by
  rw [failureReports, Raising.mapM_eq_ok, List.forall₂_map_right_iff, List.forall₂_same]
  exact fun pair _ => pair.1.failureReport_validate pair.2

end DevFlow
