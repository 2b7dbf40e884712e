/-
# What a repair session is told

`_repair_handoff`, `_repair_evidence_for_next_attempt` and `_repair_failure_hint` of
`runtime/orchestrator.py`.  The verifier builds a report for each failed check, the
orchestrator appends what the last repair did, and the handoff keeps the first eight lines of
each report.

The output of a check is the last line of its report, and the facts of the last repair come
after it: `repairHandoff_diagnoses_iff` counts the lines before them.  A run in a container
has more than eight.
-/

import DevFlow.Library.Words
import DevFlow.Models.RepairRecords
import DevFlow.Verification.FailureReports
import DevFlow.Verification.Sandbox

namespace DevFlow

namespace Orchestrator

/-! ### The handoff -/

/-- The digits of `[0-9a-fA-F]`. -/
def isHexDigit (c : Char) : Bool :=
  c.isDigit || ('a' ≤ c && c ≤ 'f') || ('A' ≤ c && c ≤ 'F')

/-- `re.sub(r"0x[0-9a-fA-F]+", "0x<address>", text)`; the flag says that an address was
begun. -/
def hideAddresses : Bool → List Char → List Char
  | _, [] => []
  | true, c :: rest =>
    if isHexDigit c then hideAddresses true rest else c :: hideAddresses false rest
  | false, '0' :: 'x' :: c :: rest =>
    if isHexDigit c then "0x<address>".toList ++ hideAddresses true rest
    else '0' :: hideAddresses false ('x' :: c :: rest)
  | false, c :: rest => c :: hideAddresses false rest

/-- `_normalize_failure_text`. -/
def normalizeFailureText (value : String) : String :=
  String.ofList (Words.squeeze isSpace ' ' (hideAddresses false value.toList))

/-- The facts of `_repair_evidence_for_next_attempt`. -/
def previousRepairFacts (repairs : List RepairRunResultFields) : List String :=
  match repairs.getLast? with
  | none => []
  | some repair =>
    match repair.progress with
    | none => []
    | some progress =>
      ["previous_repair_progress=" ++ progress.status.value,
        "previous_repair_stop_reason=" ++ repair.stopReason.value,
        "previous_patch_hash=" ++ progress.patchHashAfter,
        "previous_failure_signature_before=" ++ progress.failureSignatureBefore.getD "None",
        "previous_failure_signature_after=" ++ progress.failureSignatureAfter.getD "None"] ++
      (if repair.finalMessage = "" then [] else
        ["previous_repair_summary=" ++
          firstChars 512 (normalizeFailureText repair.finalMessage)]) ++
      if progress.filesChanged = [] then [] else
        ["previous_files_changed=" ++ ",".intercalate progress.filesChanged]

/-- `_repair_evidence_for_next_attempt`: the reports are copied. -/
def repairEvidenceForNextAttempt (failures : List FailureReportFields)
    (repairs : List RepairRunResultFields) : List FailureReportFields :=
  failures.map fun failure =>
    { failure with evidence := failure.evidence ++ previousRepairFacts repairs }

/-- A literal of a regular expression, and the text behind it. -/
def expectText (literal : String) (text : List Char) : Option (List Char) :=
  if literal.toList <+: text then some (text.drop literal.length) else none

/-- A character of a class, and the text behind it. -/
def expectChar (p : Char → Bool) (text : List Char) : Option (List Char) :=
  match text with
  | [] => none
  | c :: rest => if p c then some rest else none

/-- A match of the pattern of `_repair_failure_hint` at the beginning of a text: the symbol
and the module.  Each run of a class is followed by a character outside of it. -/
def importErrorAt (text : List Char) : Option (List Char × List Char) := do
  let isQuote (c : Char) : Bool := c = '\'' || c = '"'
  let startsName (c : Char) : Bool := c.isAlpha || c = '_'
  let inName (c : Char) : Bool := c.isAlphanum || c = '_'
  let text ← expectText "ImportError:" text
  let text ← expectText "cannot import name " (text.dropWhile isSpace)
  let text ← expectChar isQuote text
  let afterFirst ← expectChar startsName text
  let symbol := text.take 1 ++ afterFirst.takeWhile inName
  let text ← expectChar isQuote (afterFirst.dropWhile inName)
  let text ← expectChar isSpace text
  let text ← expectText "from" (text.dropWhile isSpace)
  let text ← expectChar isSpace text
  let text ← expectChar isQuote (text.dropWhile isSpace)
  let afterFirst ← expectChar startsName text
  let inModule (c : Char) : Bool := inName c || c = '.'
  let module := text.take 1 ++ afterFirst.takeWhile inModule
  let _ ← expectChar isQuote (afterFirst.dropWhile inModule)
  return (symbol, module)

/-- `re.search` of the pattern. -/
def importErrorIn : List Char → Option (List Char × List Char)
  | [] => none
  | c :: rest => (importErrorAt (c :: rest)).orElse fun _ => importErrorIn rest

/-- The texts that `_repair_failure_hint` looks through. -/
def failureItems (failures : List FailureReportFields) : List String :=
  failures.flatMap fun failure => failure.message :: failure.evidence

/-- `flattened` in `_repair_failure_hint`: the texts, joined by line breaks. -/
def flattenedFailures (failures : List FailureReportFields) : List Char :=
  ['\n'].intercalate ((failureItems failures).map String.toList)

/-- `_repair_failure_hint`: the path and the symbol that are suspected. -/
def repairFailureHint (failures : List FailureReportFields) : Option (String × String) :=
  (importErrorIn (flattenedFailures failures)).map fun (symbol, module) =>
    (String.ofList (module.map fun c => if c = '.' then '/' else c) ++ ".py",
      String.ofList symbol)

/-- The loop over the paths of `_repair_handoff`. -/
def relevantPaths (paths : List String) : List String :=
  paths.foldl
    (fun relevant path =>
      if path.toList.any (fun c => c = '*' || c = '?' || c = '[') ∨ path ∈ relevant then relevant
      else relevant ++ [path])
    []

/-- The digest of a failure, as it is handed to the constructor. -/
def failureDigest (failure : FailureReportFields) : RepairFailureDigest where
  failureType := failure.failureType
  source := failure.source
  message := firstChars 2000 failure.message
  evidence := (failure.evidence.take 8).map (firstChars 1200)

/-- The handoff that `_repair_handoff` hands to the constructor, of the changed files and
the head of the workspace. -/
def handoffFields (task : TaskContractFields) (failures : List FailureReportFields)
    (changedFiles : List String) (repositoryHead : String) : RepairHandoff :=
  let hint := repairFailureHint failures
  { taskId := task.taskId
    objective := task.objective
    repositoryHead
    acceptanceCriteria := task.acceptanceCriteria
    verificationCommands := task.verificationCommands
    writableFiles := task.writableFiles
    readonlyFiles := task.readonlyFiles
    changedFiles
    relevantPaths :=
      (relevantPaths (changedFiles ++ (hint.map Prod.fst).toList ++ task.writableFiles)).take 16
    failureKind := hint.map fun _ => .importSymbolMissing
    suspectedPath := hint.map Prod.fst
    suspectedSymbol := hint.map Prod.snd
    failures := (failures.take 8).map failureDigest }

/-- `_repair_handoff`. -/
def repairHandoff (task : TaskContractFields) (failures : List FailureReportFields)
    (changedFiles : List String) (repositoryHead : String) : Except Failure RepairHandoff := do
  let handoff := handoffFields task failures changedFiles repositoryHead
  handoff.failures.forM fun digest => do
    let _ ← digest.validate
  handoff.validate

end Orchestrator

/-! ### What the handoff says -/

/-- The lines of a report before the output. -/
def CheckResultFields.executionLines (check : CheckResultFields) : ℕ :=
  1 + (if check.command = none ∨ check.command = some "" then 0 else 1) +
    (if check.exitCode = none then 0 else 1) +
    (if check.executionBackend = none then 0 else 1) + check.executionDetails.length

/-- The number of facts on the last repair. -/
def previousRepairFactCount (repairs : List RepairRunResultFields) : ℕ :=
  match repairs.getLast? with
  | none => 0
  | some repair =>
    match repair.progress with
    | none => 0
    | some progress =>
      5 + (if repair.finalMessage = "" then 0 else 1) +
        (if progress.filesChanged = [] then 0 else 1)

/-- A digest diagnoses a check: it shows a beginning of the captured output, more than
nothing when there is more than white space, and the facts on the last repair. -/
structure Diagnoses (repairs : List RepairRunResultFields) (check : CheckResultFields)
    (digest : RepairFailureDigest) : Prop where
  output : ∀ label output, check.capturedOutput = some (label, output) →
    ∃ shown, shown <+: output.toList ∧ (shown = [] → ∀ c ∈ output.toList, isSpace c = true) ∧
      String.ofList (label.toList ++ shown) ∈ digest.evidence
  progress : ∀ fact ∈ Orchestrator.previousRepairFacts repairs,
    firstChars 1200 fact ∈ digest.evidence

/-- What is to be said fits into eight lines. -/
structure DiagnosisFits (repairs : List RepairRunResultFields) (check : CheckResultFields) : Prop where
  output : check.stderr = "" ∧ check.stdout = "" ∨ check.executionLines ≤ 7
  progress : previousRepairFactCount repairs = 0 ∨
    check.executionLines + (if check.stderr = "" ∧ check.stdout = "" then 0 else 1) +
      previousRepairFactCount repairs ≤ 8

namespace Orchestrator

variable {check : CheckResultFields} {repairs : List RepairRunResultFields}

/-! ### Counting the lines -/

theorem length_executionEvidence (check : CheckResultFields) :
    check.executionEvidence.length = check.executionLines := by
  have hcommand : (check.command.toList.filter (· ≠ "")).length =
      if check.command = none ∨ check.command = some "" then 0 else 1 := by
    rcases check.command with _ | command
    · rfl
    · by_cases hempty : command = "" <;> simp [hempty]
  have hexit : check.exitCode.toList.length = if check.exitCode = none then 0 else 1 := by
    rcases check.exitCode with _ | exitCode <;> rfl
  have hbackend : check.executionBackend.toList.length =
      if check.executionBackend = none then 0 else 1 := by
    rcases check.executionBackend with _ | backend <;> rfl
  rw [CheckResultFields.executionEvidence, CheckResultFields.executionLines, ← hcommand, ← hexit,
    ← hbackend]
  simp only [List.length_append, List.length_map, List.length_singleton]

theorem capturedOutput_eq_none_iff :
    check.capturedOutput = none ↔ check.stderr = "" ∧ check.stdout = "" := by
  unfold CheckResultFields.capturedOutput
  split_ifs <;> simp_all

theorem length_outputEvidence (check : CheckResultFields) :
    check.outputEvidence.length = if check.stderr = "" ∧ check.stdout = "" then 0 else 1 := by
  rw [← if_congr capturedOutput_eq_none_iff rfl rfl, CheckResultFields.outputEvidence]
  cases check.capturedOutput <;> simp

theorem length_previousRepairFacts (repairs : List RepairRunResultFields) :
    (previousRepairFacts repairs).length = previousRepairFactCount repairs := by
  unfold previousRepairFacts previousRepairFactCount
  split
  · rfl
  · split
    · rfl
    · split_ifs <;> simp

/-! ### Telling the lines apart -/

/-- **Texts that begin with different labels are different.** -/
theorem nodup_of_labels {α : Type*} {labels texts : List (List α)}
    (htexts : List.Forall₂ (· <+: ·) labels texts)
    (hlabels : labels.Pairwise fun a b => ¬a <+: b ∧ ¬b <+: a) : texts.Nodup := by
  induction htexts with
  | nil => exact List.nodup_nil
  | @cons label text labels texts hlabel htexts ih =>
    rw [List.pairwise_cons] at hlabels
    refine List.nodup_cons.2 ⟨fun hmem => ?_, ih hlabels.2⟩
    obtain ⟨other, hother, hhead⟩ := Raising.exists_of_forall₂_left (List.Forall₂.flip htexts) hmem
    obtain ⟨happart, happart'⟩ := hlabels.1 other hother
    rcases List.prefix_or_prefix_of_prefix hlabel hhead with h | h
    · exact happart h
    · exact happart' h

/-- The labels of the facts on the last repair. -/
def factLabels : List String :=
  ["previous_repair_progress=", "previous_repair_stop_reason=", "previous_patch_hash=",
    "previous_failure_signature_before=", "previous_failure_signature_after=",
    "previous_repair_summary=", "previous_files_changed="]

theorem factLabels_apart :
    (factLabels.map String.toList).Pairwise fun a b => ¬a <+: b ∧ ¬b <+: a := by
  simp only [factLabels, List.map_cons, List.map_nil]
  repeat rw [String.toList_ofList]
  decide

/-- The facts begin with their labels, in order. -/
theorem labels_of_previousRepairFacts (repairs : List RepairRunResultFields) :
    ∃ labels, labels.Sublist factLabels ∧
      List.Forall₂ (fun label fact => ∃ text, fact = label ++ text) labels
        (previousRepairFacts repairs) := by
  unfold previousRepairFacts
  split
  · exact ⟨[], List.nil_sublist _, List.Forall₂.nil⟩
  split
  · exact ⟨[], List.nil_sublist _, List.Forall₂.nil⟩
  rename_i repair _ _ progress _
  have hsummary : ∃ labels, labels.Sublist ["previous_repair_summary="] ∧
      List.Forall₂ (fun label fact => ∃ text, fact = label ++ text) labels
        (if repair.finalMessage = "" then [] else
          ["previous_repair_summary=" ++
            firstChars 512 (normalizeFailureText repair.finalMessage)]) := by
    split_ifs
    · exact ⟨[], List.nil_sublist _, List.Forall₂.nil⟩
    · exact ⟨_, List.Sublist.refl _, List.Forall₂.cons ⟨_, rfl⟩ List.Forall₂.nil⟩
  have hfiles : ∃ labels, labels.Sublist ["previous_files_changed="] ∧
      List.Forall₂ (fun label fact => ∃ text, fact = label ++ text) labels
        (if progress.filesChanged = [] then [] else
          ["previous_files_changed=" ++ ",".intercalate progress.filesChanged]) := by
    split_ifs
    · exact ⟨[], List.nil_sublist _, List.Forall₂.nil⟩
    · exact ⟨_, List.Sublist.refl _, List.Forall₂.cons ⟨_, rfl⟩ List.Forall₂.nil⟩
  obtain ⟨summary, hsummary, hsummary'⟩ := hsummary
  obtain ⟨files, hfiles, hfiles'⟩ := hfiles
  refine ⟨factLabels.take 5 ++ summary ++ files, ?_, List.rel_append (List.rel_append ?_ hsummary')
    hfiles'⟩
  · exact ((List.Sublist.refl (factLabels.take 5)).append hsummary).append hfiles
  · exact .cons ⟨_, rfl⟩ (.cons ⟨_, rfl⟩ (.cons ⟨_, rfl⟩ (.cons ⟨_, rfl⟩ (.cons ⟨_, rfl⟩ .nil))))

/-- A label that fits is kept. -/
theorem toList_firstChars_append {label : String} {count : ℕ} (h : label.length ≤ count)
    (text : String) :
    (firstChars count (label ++ text)).toList =
      label.toList ++ text.toList.take (count - label.length) := by
  rw [toList_firstChars, String.toList_append, List.take_append,
    List.take_of_length_le (by rwa [String.length_toList]), String.length_toList]

/-- The first characters of the labels: `c` and `e` of what was run, `s` of the output and
`p` of the facts. -/
theorem label_heads :
    (∀ label ∈ executionLabels,
      label.toList.head? ≠ some 's' ∧ label.toList.head? ≠ some 'p' ∧ label.length ≤ 1200) ∧
    (∀ label ∈ outputLabels, label.toList.head? = some 's' ∧ label.length ≤ 7) ∧
    ∀ label ∈ factLabels, label.toList.head? = some 'p' ∧ label.length ≤ 1200 := by
  simp only [executionLabels, outputLabels, factLabels, List.forall_mem_cons,
    ← String.length_toList]
  repeat rw [String.toList_ofList]
  decide

theorem head?_toList_firstChars {count : ℕ} (h : count ≠ 0) (text : String) :
    (firstChars count text).toList.head? = text.toList.head? := by
  rw [toList_firstChars, List.head?_take, if_neg h]

theorem head?_toList_strip_label {label : String} (h : label ∈ executionLabels ++ outputLabels)
    (text : String) : (strip (label ++ text)).toList.head? = label.toList.head? := by
  obtain ⟨c, hhead, -⟩ := (startsVisible_of_label h).exists
  rw [toList_strip_label h, List.head?_append, hhead]
  rfl

theorem head_of_run_line {line : String} (h : line ∈ check.executionEvidence.map strip) :
    (firstChars 1200 line).toList.head? ≠ some 's' ∧
      (firstChars 1200 line).toList.head? ≠ some 'p' := by
  obtain ⟨raw, hraw, rfl⟩ := List.mem_map.1 h
  obtain ⟨label, hlabel, text, rfl⟩ := CheckResultFields.label_of_mem_executionEvidence hraw
  rw [head?_toList_firstChars (by decide),
    head?_toList_strip_label (List.mem_append_left _ hlabel)]
  exact ⟨(label_heads.1 label hlabel).1, (label_heads.1 label hlabel).2.1⟩

/-! ### The lines that are shown -/

/-- The evidence of the digest of a failed check. -/
def shownLines (check : CheckResultFields) (repairs : List RepairRunResultFields) : List String :=
  ((check.failureEvidence.map strip ++ previousRepairFacts repairs).take 8).map (firstChars 1200)

/-- **The output is shown when at most seven lines come before it.** -/
theorem shows_output_iff {label output : String}
    (hcaptured : check.capturedOutput = some (label, output)) :
    (∃ shown, shown <+: output.toList ∧ (shown = [] → ∀ c ∈ output.toList, isSpace c = true) ∧
      String.ofList (label.toList ++ shown) ∈ shownLines check repairs) ↔
      check.executionLines ≤ 7 := by
  have hlabel : label ∈ outputLabels := CheckResultFields.label_of_capturedOutput hcaptured
  have hlabel' : label ∈ executionLabels ++ outputLabels := List.mem_append_right _ hlabel
  have hevidence : check.failureEvidence.map strip =
      check.executionEvidence.map strip ++ [strip (label ++ output)] := by
    rw [CheckResultFields.failureEvidence, CheckResultFields.outputEvidence, hcaptured,
      List.map_append]
    rfl
  have hlength : (check.executionEvidence.map strip).length = check.executionLines := by
    rw [List.length_map, length_executionEvidence]
  rw [shownLines, hevidence, List.append_assoc]
  constructor
  · rintro ⟨shown, -, -, hmem⟩
    by_contra hmore
    rw [List.take_append_of_le_length (by omega)] at hmem
    obtain ⟨line, hline, heq⟩ := List.mem_map.1 hmem
    refine (head_of_run_line (List.mem_of_mem_take hline)).1 ?_
    rw [heq, String.toList_ofList, List.head?_append, (label_heads.2.1 label hlabel).1]
    rfl
  · intro hfits
    refine ⟨(output.toList.rdropWhile isSpace).take (1200 - label.length), ?_, ?_, ?_⟩
    · exact (List.take_prefix _ _).trans (List.rdropWhile_prefix _ _)
    · intro hnil
      have hshort := (label_heads.2.1 label hlabel).2
      rcases List.take_eq_nil_iff.1 hnil with hzero | hblank
      · omega
      · exact List.rdropWhile_eq_nil_iff.1 hblank
    · refine List.mem_map.2 ⟨strip (label ++ output), ?_, ?_⟩
      · have hsplit : check.executionEvidence.map strip ++
            ([strip (label ++ output)] ++ previousRepairFacts repairs) =
            (check.executionEvidence.map strip ++ [strip (label ++ output)]) ++
              previousRepairFacts repairs := (List.append_assoc _ _ _).symm
        have hshort : (check.executionEvidence.map strip ++ [strip (label ++ output)]).length ≤ 8 := by
          rw [List.length_append, hlength, List.length_singleton]
          omega
        rw [hsplit, List.take_append, List.mem_append, List.take_of_length_le hshort]
        exact Or.inl (List.mem_append_right _ (List.mem_singleton_self _))
      · have hshort := (label_heads.2.1 label hlabel).2
        rw [← String.toList_inj, String.toList_ofList, toList_firstChars,
          toList_strip_label hlabel', List.take_append,
          List.take_of_length_le (by rw [String.length_toList]; omega), String.length_toList]

/-- No line of a report is taken for a fact on the last repair. -/
theorem not_fact_of_mem_failureEvidence {line fact : String}
    (h : line ∈ check.failureEvidence.map strip) (hfact : fact ∈ previousRepairFacts repairs) :
    firstChars 1200 fact ≠ firstChars 1200 line := by
  obtain ⟨labels, hsub, hfacts⟩ := labels_of_previousRepairFacts repairs
  obtain ⟨label, hlabel, text, rfl⟩ :=
    Raising.exists_of_forall₂_left (List.Forall₂.flip hfacts) hfact
  obtain ⟨raw, hraw, rfl⟩ := List.mem_map.1 h
  obtain ⟨label', hlabel', text', rfl⟩ := CheckResultFields.label_of_mem_failureEvidence hraw
  intro heq
  have hhead : (firstChars 1200 (label ++ text)).toList.head? =
      (firstChars 1200 (strip (label' ++ text'))).toList.head? := by rw [heq]
  have hp := (label_heads.2.2 label (hsub.subset hlabel)).1
  rw [head?_toList_firstChars (by decide), head?_toList_firstChars (by decide),
    head?_toList_strip_label hlabel', head?_toList_append hp] at hhead
  rcases List.mem_append.1 hlabel' with hrun | houtput
  · exact (label_heads.1 label' hrun).2.1 hhead.symm
  · rw [(label_heads.2.1 label' houtput).1] at hhead
    cases hhead

/-- The facts are still different from each other when they are cut. -/
theorem nodup_facts (repairs : List RepairRunResultFields) :
    ((previousRepairFacts repairs).map (firstChars 1200)).Nodup := by
  obtain ⟨labels, hsub, hfacts⟩ := labels_of_previousRepairFacts repairs
  have hapart := factLabels_apart.sublist (hsub.map String.toList)
  refine List.Nodup.of_map String.toList (nodup_of_labels ?_ hapart)
  rw [List.map_map, List.forall₂_map_left_iff, List.forall₂_map_right_iff]
  have hmem : ∀ label ∈ labels, label ∈ factLabels := hsub.subset
  refine ((List.forall₂_and_left _ _).2 ⟨hmem, hfacts⟩).imp ?_
  rintro label fact ⟨hlabel, text, rfl⟩
  rw [Function.comp_apply, toList_firstChars_append (label_heads.2.2 label hlabel).2]
  exact List.prefix_append _ _

/-- **The facts are all shown when all lines are.** -/
theorem shows_progress_iff : (∀ fact ∈ previousRepairFacts repairs,
    firstChars 1200 fact ∈ shownLines check repairs) ↔ previousRepairFacts repairs = [] ∨
      check.failureEvidence.length + (previousRepairFacts repairs).length ≤ 8 := by
  have hlength : (check.failureEvidence.map strip).length = check.failureEvidence.length :=
    List.length_map _
  constructor
  · intro hall
    by_contra! hmore
    obtain ⟨hne, hmore⟩ := hmore
    have hsubset : (previousRepairFacts repairs).map (firstChars 1200) ⊆
        ((previousRepairFacts repairs).take (8 - check.failureEvidence.length)).map
          (firstChars 1200) := by
      intro clipped hclipped
      obtain ⟨fact, hfact, rfl⟩ := List.mem_map.1 hclipped
      obtain ⟨line, hline, heq⟩ := List.mem_map.1 (hall fact hfact)
      rw [List.take_append, hlength, List.mem_append] at hline
      rcases hline with hreport | hline
      · exact absurd heq.symm
          (not_fact_of_mem_failureEvidence (List.mem_of_mem_take hreport) hfact)
      · exact List.mem_map.2 ⟨line, hline, heq⟩
    have hcount := ((nodup_facts repairs).subperm hsubset).length_le
    have hpos := List.length_pos_of_ne_nil hne
    rw [List.length_map, List.length_map, List.length_take] at hcount
    omega
  · rintro (hnil | hfits) fact hfact
    · rw [hnil] at hfact
      cases hfact
    · refine List.mem_map_of_mem ?_
      rw [List.take_of_length_le (by rw [List.length_append, hlength]; exact hfits)]
      exact List.mem_append_right _ hfact

/-- **The digest of a failed check diagnoses it when what is to be said fits.** -/
theorem diagnoses_iff {digest : RepairFailureDigest}
    (h : digest.evidence = shownLines check repairs) :
    Diagnoses repairs check digest ↔ DiagnosisFits repairs check := by
  have houtput : (∀ label output, check.capturedOutput = some (label, output) →
      ∃ shown, shown <+: output.toList ∧ (shown = [] → ∀ c ∈ output.toList, isSpace c = true) ∧
        String.ofList (label.toList ++ shown) ∈ digest.evidence) ↔
      (check.stderr = "" ∧ check.stdout = "" ∨ check.executionLines ≤ 7) := by
    rw [h, ← capturedOutput_eq_none_iff]
    cases hcaptured : check.capturedOutput with
    | none => simp
    | some captured =>
      obtain ⟨label, output⟩ := captured
      rw [← @shows_output_iff check repairs label output hcaptured]
      simp
  have hprogress : (∀ fact ∈ previousRepairFacts repairs,
      firstChars 1200 fact ∈ digest.evidence) ↔ (previousRepairFactCount repairs = 0 ∨
        check.executionLines + (if check.stderr = "" ∧ check.stdout = "" then 0 else 1) +
          previousRepairFactCount repairs ≤ 8) := by
    rw [h, shows_progress_iff, ← List.length_eq_zero_iff, length_previousRepairFacts,
      CheckResultFields.failureEvidence, List.length_append, length_executionEvidence,
      length_outputEvidence]
  exact ⟨fun ⟨ho, hp⟩ => ⟨houtput.1 ho, hprogress.1 hp⟩,
    fun ⟨ho, hp⟩ => ⟨houtput.2 ho, hprogress.2 hp⟩⟩

/-! ### The handoff of a verification -/

/-- **When the handoff can be built**, and what it is then. -/
theorem repairHandoff_eq_ok {task : TaskContractFields} {failures : List FailureReportFields}
    {changedFiles : List String} {repositoryHead : String} {handoff : RepairHandoff} :
    repairHandoff task failures changedFiles repositoryHead = .ok handoff ↔
      (∀ failure ∈ failures.take 8, 1 ≤ failure.message.length) ∧
      (handoffFields task failures changedFiles repositoryHead).Bounded ∧
      handoff = handoffFields task failures changedFiles repositoryHead := by
  have hdigest : ∀ failure : FailureReportFields,
      (∃ digest, (failureDigest failure).validate = .ok digest) ↔ 1 ≤ failure.message.length := by
    intro failure
    have hmessage : (firstChars 2000 failure.message).length = min 2000 failure.message.length := by
      rw [← String.length_toList, toList_firstChars, List.length_take, String.length_toList]
    have hevidence : ((failure.evidence.take 8).map (firstChars 1200)).length ≤ 8 := by
      rw [List.length_map]
      exact List.length_take_le _ _
    simp only [RepairFailureDigest.validate_eq_ok, failureDigest, hmessage]
    constructor
    · rintro ⟨digest, hpos, -⟩
      omega
    · intro hpos
      exact ⟨_, by omega, by omega, hevidence, rfl⟩
  simp only [repairHandoff, Raising.bind_eq_ok, Raising.forM_eq_ok, Raising.pure_eq_ok, and_true,
    RepairHandoff.validate_eq_ok]
  simp only [handoffFields, List.forall_mem_map, hdigest, exists_const]

/-- **The repair session is told what failed when it fits**: of each of the first eight
failed checks, at most seven lines come before the output, and on a further attempt the facts
on the last repair fit into the eight lines as well. -/
theorem repairHandoff_diagnoses_iff (task : TaskContractFields) (result : VerificationResultFields)
    (repairs : List RepairRunResultFields) (changedFiles : List String) (repositoryHead : String)
    {reports : List FailureReportFields} {handoff : RepairHandoff}
    (hreports : FailureClassifier.fromVerification result = .ok reports)
    (hhandoff : repairHandoff task
      (repairEvidenceForNextAttempt (FailureClassifier.repairable reports) repairs) changedFiles
      repositoryHead = .ok handoff) :
    List.Forall₂ (fun failed digest => Diagnoses repairs failed.1 digest)
      (result.failingChecks.take 8) handoff.failures ↔
      ∀ failed ∈ result.failingChecks.take 8, DiagnosisFits repairs failed.1 := by
  obtain ⟨-, hbounded, rfl⟩ := repairHandoff_eq_ok.1 hhandoff
  obtain rfl : reports = result.failingChecks.map fun failed =>
      (failed.1.failureReport failed.2).normalized := by
    rw [FailureClassifier.fromVerification, DeterministicVerifier.failureReports_eq,
      Except.ok.injEq] at hreports
    exact hreports.symm
  rcases FailureClassifier.repairable_eq_nil_or (result.failingChecks.map fun failed =>
      (failed.1.failureReport failed.2).normalized) with hnone | hall
  · -- nothing to repair: there is no handoff
    have hpos := hbounded.failures.1
    rw [hnone] at hpos
    exact absurd hpos (by simp [handoffFields, repairEvidenceForNextAttempt])
  rw [hall, handoffFields, repairEvidenceForNextAttempt, List.map_map, ← List.map_take, List.map_map,
    List.forall₂_map_right_iff, List.forall₂_same]
  exact forall₂_congr fun failed _ => diagnoses_iff rfl

/-- **On a further attempt a check that was run is never diagnosed**: its report has four
lines at least, and there are five facts. -/
theorem not_diagnosisFits_of_repairs {command : String} (hcommand : check.command = some command)
    (hne : command ≠ "") (hbackend : check.executionBackend ≠ none)
    (hdetails : check.executionDetails ≠ []) (hprevious : previousRepairFactCount repairs ≠ 0) :
    ¬DiagnosisFits repairs check := by
  rintro ⟨-, hfits⟩
  have hfive : 5 ≤ previousRepairFactCount repairs := by
    revert hprevious
    unfold previousRepairFactCount
    split
    · exact fun h => absurd rfl h
    · split
      · exact fun h => absurd rfl h
      · intro _
        omega
  have hone := List.length_pos_of_ne_nil hdetails
  rw [CheckResultFields.executionLines, hcommand, if_neg (by simpa using hne), if_neg hbackend]
    at hfits
  omega

/-! ### A run in a container -/

/-- A text without the letter `I` has no hint. -/
theorem repairFailureHint_eq_none {failures : List FailureReportFields}
    (h : ∀ item ∈ failureItems failures, 'I' ∉ item.toList) : repairFailureHint failures = none := by
  have hsearch : ∀ text : List Char, 'I' ∉ text → importErrorIn text = none := by
    intro text htext
    induction text with
    | nil => rfl
    | cons c rest ih =>
      have hexpect : expectText "ImportError:" (c :: rest) = none := by
        rw [expectText, if_neg]
        intro hhead
        rw [String.toList_ofList, List.cons_prefix_cons] at hhead
        exact htext (hhead.1 ▸ List.mem_cons_self)
      rw [importErrorIn, importErrorAt, hexpect]
      exact ih fun hmem => htext (List.mem_cons_of_mem c hmem)
  have hjoin : ∀ items : List (List Char), (∀ item ∈ items, 'I' ∉ item) →
      'I' ∉ ['\n'].intercalate items := by
    intro items hitems
    induction items with
    | nil => exact List.not_mem_nil
    | cons item rest ih =>
      rw [List.forall_mem_cons] at hitems
      rcases rest with _ | ⟨next, rest⟩
      · rw [List.intercalate_singleton]
        exact hitems.1
      · rw [List.intercalate_cons_cons, List.mem_append, List.mem_append, not_or, not_or]
        exact ⟨⟨hitems.1, by decide⟩, ih hitems.2⟩
  have hflat : 'I' ∉ flattenedFailures failures := by
    refine hjoin _ fun item hitem => ?_
    obtain ⟨text, htext, rfl⟩ := List.mem_map.1 hitem
    exact h text htext
  rw [repairFailureHint, hsearch _ hflat]
  rfl

/-- A failed run of pytest, as the verifier records it. -/
def pytestCheck (execution : VerificationExecution) : CheckResultFields where
  checkType := .test
  name := "pytest"
  command := some "pytest"
  passed := false
  exitCode := execution.exitCode
  stdout := execution.stdout
  stderr := execution.stderr
  durationMs := execution.durationMs
  failureType := some .testFailure
  executionBackend := some execution.backend
  executionDetails := execution.details ++ ["verification_stage=full"]

/-- A run in a container that ends with an assertion. -/
def containerRun (hex : String) : VerificationExecution :=
  DockerSandboxRunner.run {} ⟨"sha256:0", "systemd"⟩ "1000:1000" hex "60.00"
    (.completed 1 "" "assert 1 == 2") 900

/-- The same run on the host. -/
def hostRun : VerificationExecution :=
  { containerRun "" with backend := .host, details := ["sandboxed=false"] }

/-- The task that is to be repaired. -/
def pytestTask : TaskContractFields where
  taskId := "task"
  objective := "fix"
  readableFiles := []
  writableFiles := ["app.py"]
  readonlyFiles := []
  acceptanceCriteria := ["works"]
  verificationCommands := ["pytest"]

/-- The reports of one failed run of pytest. -/
def pytestReports (execution : VerificationExecution) : List FailureReportFields :=
  [((pytestCheck execution).failureReport .testFailure).normalized]

theorem fromVerification_pytest (execution : VerificationExecution) :
    FailureClassifier.fromVerification ⟨false, [pytestCheck execution]⟩ =
      .ok (pytestReports execution) := by
  rw [FailureClassifier.fromVerification, DeterministicVerifier.failureReports_eq]
  rfl

/-- The handoff of one failed run of pytest can be built. -/
theorem repairHandoff_pytest {execution : VerificationExecution}
    (h : ∀ line ∈ (pytestCheck execution).failureEvidence, 'I' ∉ line.toList) :
    repairHandoff pytestTask (repairEvidenceForNextAttempt (pytestReports execution) []) ["app.py"]
        "0123456789012345678901234567890123456789" =
      .ok (handoffFields pytestTask (pytestReports execution) ["app.py"]
        "0123456789012345678901234567890123456789") := by
  have hnone : repairEvidenceForNextAttempt (pytestReports execution) [] =
      pytestReports execution := by
    rw [repairEvidenceForNextAttempt]
    simp only [previousRepairFacts, List.getLast?_nil, List.append_nil, List.map_id']
  have hmessage : strip "Deterministic pytest verification failed." =
      "Deterministic pytest verification failed." := by
    rw [strip_eq, String.toList_ofList]
    rfl
  have hhint : repairFailureHint (pytestReports execution) = none := by
    refine repairFailureHint_eq_none fun item hitem => ?_
    have hitem : item = strip "Deterministic pytest verification failed." ∨
        item ∈ (pytestCheck execution).failureEvidence.map strip := by
      rcases List.mem_flatMap.1 hitem with ⟨report, hreport, hitem⟩
      rw [pytestReports, List.mem_singleton] at hreport
      obtain rfl := hreport
      exact List.mem_cons.1 hitem
    rcases hitem with rfl | hitem
    · rw [hmessage, String.toList_ofList]
      decide
    · obtain ⟨line, hline, rfl⟩ := List.mem_map.1 hitem
      intro hmem
      rw [toList_strip] at hmem
      exact h line hline ((List.dropWhile_suffix _).subset ((List.rdropWhile_prefix _ _).subset hmem))
  rw [hnone, repairHandoff_eq_ok]
  refine ⟨?_, ?_, rfl⟩
  · intro failure hfailure
    obtain rfl := List.mem_singleton.1 (List.mem_of_mem_take hfailure)
    change 1 ≤ (strip "Deterministic pytest verification failed.").length
    rw [hmessage, ← String.length_toList, String.toList_ofList]
    decide
  · rw [handoffFields, hhint]
    constructor
    case suspected_path => rintro _ ⟨⟩
    case suspected_symbol => rintro _ ⟨⟩
    case failures =>
      change 1 ≤ 1 ∧ 1 ≤ 8
      decide
    all_goals
      dsimp only
      decide

/-- A run on the host is diagnosed on the first attempt. -/
theorem repairHandoff_diagnoses_iff_hostRun :
    List.Forall₂ (fun failed digest => Diagnoses [] failed.1 digest)
      ((⟨false, [pytestCheck hostRun]⟩ : VerificationResultFields).failingChecks.take 8)
      (handoffFields pytestTask (pytestReports hostRun) ["app.py"]
        "0123456789012345678901234567890123456789").failures := by
  refine (repairHandoff_diagnoses_iff pytestTask _ [] ["app.py"]
    "0123456789012345678901234567890123456789" (fromVerification_pytest hostRun) ?_).2 ?_
  · exact repairHandoff_pytest (by decide +kernel)
  · intro failed hfailed
    obtain rfl := List.mem_singleton.1 (List.mem_of_mem_take hfailed)
    exact ⟨Or.inr (by decide), Or.inl rfl⟩

/-- **What was printed in a container is not handed on**: twenty lines come before it. -/
theorem container_output_lost : ∃ reports handoff,
    FailureClassifier.fromVerification ⟨false, [pytestCheck (containerRun "00")]⟩ = .ok reports ∧
    FailureClassifier.repairable reports ≠ [] ∧
    repairHandoff pytestTask
      (repairEvidenceForNextAttempt (FailureClassifier.repairable reports) []) ["app.py"]
      "0123456789012345678901234567890123456789" = .ok handoff ∧
    ¬List.Forall₂ (fun failed digest => Diagnoses [] failed.1 digest)
      ((⟨false, [pytestCheck (containerRun "00")]⟩ : VerificationResultFields).failingChecks.take 8)
      handoff.failures := by
  refine ⟨_, _, fromVerification_pytest (containerRun "00"), ?_,
    @repairHandoff_pytest (containerRun "00") (by decide +kernel), ?_⟩
  · exact List.cons_ne_nil _ _
  · intro h
    rcases h with _ | ⟨hfirst, -⟩
    have hfits := ((diagnoses_iff rfl).1 hfirst).output
    revert hfits
    decide +kernel

end Orchestrator

end DevFlow
