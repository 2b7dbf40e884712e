/-
# Failure signatures

`_failure_signature` and `_record_repair_verification` of `runtime/orchestrator.py`.  The
signature is a hash of the normalised reports, and a repair counts as ineffective when it is
the same before and after.

The normalised reports can be read back from what is hashed, so two signatures agree when
the reports agree up to their order (`failureSignature_eq_iff`), or SHA-256 collides.  A
report of a run in a container shows the name of the container, and no two runs have the
same: after such a run the signature is new.
-/

import DevFlow.Library.Joins
import DevFlow.Library.Sha256
import DevFlow.Runtime.RepairHandoffs

namespace DevFlow

namespace Orchestrator

/-- What is hashed of one failure in `_failure_signature`. -/
def failureText (failure : FailureReportFields) : String :=
  "\n".intercalate
    [failure.failureType.value, failure.source.value, normalizeFailureText failure.message,
      "\n".intercalate (failure.evidence.map normalizeFailureText)]

/-- The text that `_failure_signature` hashes. -/
def signedText (failures : List FailureReportFields) : String :=
  "\n\n".intercalate ((failures.map failureText).insertionSort (· ≤ ·))

/-- `_failure_signature`. -/
def failureSignature (failures : List FailureReportFields) : String :=
  Sha256.digest (signedText failures).toList

/-- `_validation_commands`. -/
def validationCommands (verification : VerificationResultFields) : List String :=
  (verification.checks.filterMap CheckResultFields.command).filter (· ≠ "")

/-- The progress that `_record_repair_verification` writes down. -/
def verifiedProgress (progress : RepairProgressEvidence) (verification : VerificationResultFields)
    (signature : Option String) : RepairProgressEvidence :=
  { progress with
    status :=
      if verification.passed then .repaired
      else if progress.failureSignatureBefore = signature then .repairIneffective
      else .progressMade
    failureSignatureAfter := signature
    validationExecuted := true
    validationCommands := validationCommands verification }

/-- `_record_repair_verification`. -/
def recordRepairVerification (repairs : List RepairRunResultFields)
    (verification : VerificationResultFields) (signature : Option String) :
    List RepairRunResultFields :=
  match repairs.getLast? with
  | none => repairs
  | some repair =>
    match repair.progress with
    | none => repairs
    | some progress =>
      if progress.status ≠ .patchProduced then repairs
      else repairs.dropLast ++
        [{ repair with progress := some (verifiedProgress progress verification signature) }]

/-! ### Normalised texts -/

/-- An address stands at the beginning of a text. -/
def startsAddress : List Char → Bool
  | '0' :: 'x' :: c :: _ => isHexDigit c
  | _ => false

theorem hideAddresses_address {text : List Char} (h : startsAddress text = true) :
    hideAddresses false text = "0x<address>".toList ++ hideAddresses true (text.drop 3) := by
  unfold startsAddress at h
  split at h
  · rw [hideAddresses, if_pos h]
    rfl
  · cases h

theorem hideAddresses_plain {c : Char} {text : List Char} (h : startsAddress (c :: text) = false) :
    hideAddresses false (c :: text) = c :: hideAddresses false text := by
  rw [hideAddresses.eq_def]
  split
  · rename_i heq
    cases heq
  · rename_i hflag _
    cases hflag
  · rename_i heq
    cases heq
    rw [startsAddress] at h
    rw [if_neg (by rw [h]; exact Bool.false_ne_true)]
  · rename_i heq
    cases heq
    rfl

theorem startsAddress_of_ne {c : Char} (h : c ≠ '0') (text : List Char) :
    startsAddress (c :: text) = false := by
  unfold startsAddress
  split
  · rename_i heq
    exact absurd (List.cons.inj heq).1 h
  · rfl

theorem isSpace_of_isHexDigit {c : Char} (h : isHexDigit c = true) : isSpace c = false := by
  have hrange : 48 ≤ c.toNat ∧ c.toNat ≤ 102 := by
    simp only [isHexDigit, Char.isDigit, Bool.or_eq_true, Bool.and_eq_true, decide_eq_true_eq,
      ge_iff_le, Char.le_def, UInt32.le_iff_toNat_le] at h
    have hc : c.toNat = c.val.toNat := rfl
    have h0 : '0'.val.toNat = 48 := rfl
    have h9 : '9'.val.toNat = 57 := rfl
    have ha : 'a'.val.toNat = 97 := rfl
    have hf : 'f'.val.toNat = 102 := rfl
    have hA : 'A'.val.toNat = 65 := rfl
    have hF : 'F'.val.toNat = 70 := rfl
    omega
  simp only [isSpace, Bool.or_eq_false_iff, Bool.and_eq_false_iff, decide_eq_false_iff_not]
  omega

theorem hideAddresses_space (began : Bool) {space : List Char}
    (h : ∀ c ∈ space, isSpace c = true) : hideAddresses began space = space := by
  induction space generalizing began with
  | nil => cases began <;> rfl
  | cons c space ih =>
    rw [List.forall_mem_cons] at h
    have hhex : ¬isHexDigit c = true := fun hhex =>
      Bool.false_ne_true ((isSpace_of_isHexDigit hhex).symm.trans h.1)
    have hzero : c ≠ '0' := by
      rintro rfl
      exact hhex rfl
    cases began with
    | true => rw [hideAddresses, if_neg hhex, ih false h.2]
    | false => rw [hideAddresses_plain (startsAddress_of_ne hzero space), ih false h.2]

theorem startsAddress_eq_true_iff {text : List Char} :
    startsAddress text = true ↔ ∃ c rest, text = '0' :: 'x' :: c :: rest ∧ isHexDigit c = true := by
  unfold startsAddress
  split
  · rename_i c rest
    exact ⟨fun h => ⟨c, rest, rfl, h⟩, fun ⟨_, _, heq, h⟩ => by cases heq; exact h⟩
  · rename_i hnot
    exact ⟨fun h => absurd h Bool.false_ne_true, fun ⟨c, rest, heq, _⟩ => absurd heq (hnot c rest)⟩

/-- White space begins no address and does not end one that was not begun. -/
theorem startsAddress_append_space {text space : List Char} (h : ∀ c ∈ space, isSpace c = true) :
    startsAddress (text ++ space) = startsAddress text := by
  have hnot : ∀ c rest, space = c :: rest → isHexDigit c = false ∧ c ≠ '0' ∧ c ≠ 'x' := by
    rintro c rest rfl
    have hc := h c List.mem_cons_self
    refine ⟨?_, ?_, ?_⟩
    · by_contra hhex
      exact Bool.false_ne_true ((isSpace_of_isHexDigit (by simpa using hhex)).symm.trans hc)
    · rintro rfl
      exact absurd hc (by decide)
    · rintro rfl
      exact absurd hc (by decide)
  rw [Bool.eq_iff_iff, startsAddress_eq_true_iff, startsAddress_eq_true_iff]
  constructor
  · rintro ⟨c, rest, heq, hhex⟩
    rcases text with _ | ⟨a, _ | ⟨b, _ | ⟨d, text⟩⟩⟩
    · exact absurd rfl (hnot '0' _ heq).2.1
    · rw [List.cons_append, List.nil_append, List.cons.injEq] at heq
      exact absurd rfl (hnot 'x' _ heq.2).2.2
    · simp only [List.cons_append, List.nil_append, List.cons.injEq] at heq
      rw [(hnot c _ heq.2.2).1] at hhex
      cases hhex
    · simp only [List.cons_append, List.cons.injEq] at heq
      obtain ⟨rfl, rfl, rfl, -⟩ := heq
      exact ⟨d, text, rfl, hhex⟩
  · rintro ⟨c, rest, rfl, hhex⟩
    exact ⟨c, rest ++ space, rfl, hhex⟩

/-- White space behind a text stays behind it. -/
theorem hideAddresses_append_space (began : Bool) (text : List Char) {space : List Char}
    (h : ∀ c ∈ space, isSpace c = true) :
    hideAddresses began (text ++ space) = hideAddresses began text ++ space := by
  induction htext : text.length using Nat.strong_induction_on generalizing began text with
  | _ n ih =>
    subst htext
    cases text with
    | nil =>
      rw [List.nil_append, hideAddresses_space began h]
      cases began <;> rfl
    | cons c text =>
      have hrest := fun began => ih text.length (by simp) began text rfl
      cases began with
      | true =>
        rw [List.cons_append, hideAddresses, hideAddresses, hrest, hrest]
        split_ifs <;> rfl
      | false =>
        cases hstart : startsAddress (c :: text) with
        | true =>
          obtain ⟨d, rest, heq, -⟩ := startsAddress_eq_true_iff.1 hstart
          have hstart' := (startsAddress_append_space h).trans hstart
          have hshort : rest.length < (c :: text).length := by
            rw [heq]
            simp
            omega
          rw [hideAddresses_address hstart', hideAddresses_address hstart, heq, List.append_assoc]
          exact congrArg _ (ih rest.length hshort true rest rfl)
        | false =>
          have hstart' := (startsAddress_append_space h).trans hstart
          rw [List.cons_append] at hstart' ⊢
          rw [hideAddresses_plain hstart', hideAddresses_plain hstart, hrest, List.cons_append]

/-- What has no addresses before a text stays before it. -/
theorem hideAddresses_append {front : List Char} (h : '0' ∉ front) (text : List Char) :
    hideAddresses false (front ++ text) = front ++ hideAddresses false text := by
  induction front with
  | nil => rfl
  | cons c front ih =>
    rw [List.mem_cons, not_or] at h
    rw [List.cons_append, hideAddresses_plain (startsAddress_of_ne (Ne.symm h.1) _), ih h.2,
      List.cons_append]

theorem head?_hideAddresses (text : List Char) :
    (hideAddresses false text).head? = text.head? := by
  cases text with
  | nil => rfl
  | cons c text =>
    cases hstart : startsAddress (c :: text) with
    | true =>
      obtain ⟨d, rest, heq, -⟩ := startsAddress_eq_true_iff.1 hstart
      rw [hideAddresses_address hstart, heq]
      rfl
    | false =>
      rw [hideAddresses_plain hstart]
      rfl

/-! ### Normalised lines -/

theorem toList_normalizeFailureText (text : String) :
    (normalizeFailureText text).toList =
      Words.squeeze isSpace ' ' (hideAddresses false text.toList) :=
  String.toList_ofList

/-- White space at the ends does not matter. -/
theorem normalizeFailureText_strip (text : String) :
    normalizeFailureText (strip text) = normalizeFailureText text := by
  have hspace : ∀ (l : List Char), ∀ c ∈ l.takeWhile isSpace, isSpace c = true := by
    intro l c hc
    exact List.mem_takeWhile_imp hc
  have hfront := List.takeWhile_append_dropWhile (p := isSpace) (l := text.toList)
  have hback : (text.toList.dropWhile isSpace).rdropWhile isSpace ++
      (text.toList.dropWhile isSpace).rtakeWhile isSpace = text.toList.dropWhile isSpace :=
    List.rdropWhile_append_rtakeWhile
  have hback' : ∀ c ∈ (text.toList.dropWhile isSpace).rtakeWhile isSpace, isSpace c = true := by
    intro c hc
    exact List.mem_rtakeWhile_imp hc
  have hzero : '0' ∉ text.toList.takeWhile isSpace := fun h =>
    absurd (hspace text.toList '0' h) (by decide)
  rw [← String.toList_inj, toList_normalizeFailureText, toList_normalizeFailureText, toList_strip]
  conv_rhs => rw [← hfront, ← hback]
  rw [hideAddresses_append hzero, hideAddresses_append_space false _ hback',
    Words.squeeze_append_left (hspace text.toList), Words.squeeze_append_right hback']

/-- A normalised line has no line break. -/
theorem newline_notMem_normalizeFailureText (text : String) :
    '\n' ∉ (normalizeFailureText text).toList := by
  rw [toList_normalizeFailureText]
  intro h
  rcases Words.mem_squeeze h with hblank | ⟨hvisible, -⟩
  · exact absurd hblank (by decide)
  · exact absurd hvisible (by decide)

theorem normalizeFailureText_ne_empty {text : String} (h : StartsVisible text) :
    normalizeFailureText text ≠ "" := by
  obtain ⟨c, hhead, hc⟩ := h.exists
  rw [← head?_hideAddresses] at hhead
  rw [Ne, ← String.toList_eq_nil_iff, toList_normalizeFailureText, Words.squeeze_eq_nil_iff]
  intro hall
  exact Bool.false_ne_true (hc.symm.trans (hall c (List.mem_of_head? hhead)))

/-- Something that is shown begins with white space. -/
def leadsWithSpace (text : String) : Bool :=
  text.toList.head?.any isSpace && normalizeFailureText text ≠ ""

/-- **A normalised line behind its label.** -/
theorem normalizeFailureText_label {label : String} (h : label ∈ executionLabels ++ outputLabels)
    (text : String) : normalizeFailureText (strip (label ++ text)) =
      label ++ (if leadsWithSpace text then " " else "") ++ normalizeFailureText text := by
  have hall : ∀ label ∈ executionLabels ++ outputLabels,
      label.toList ≠ [] ∧ '0' ∉ label.toList ∧
        label.toList.all (fun c => !isSpace c) = true := by decide
  obtain ⟨hne, hzero, hall⟩ := hall label h
  have hvisible : ∀ c ∈ label.toList, isSpace c = false := by simpa using hall
  rw [normalizeFailureText_strip, ← String.toList_inj, toList_normalizeFailureText,
    String.toList_append, hideAddresses_append hzero, Words.squeeze_append hne hvisible,
    Words.squeezeBehind, head?_hideAddresses, ← toList_normalizeFailureText, String.toList_append,
    String.toList_append, List.append_assoc]
  have hlead : leadsWithSpace text = true ↔ text.toList.head?.any isSpace = true ∧
      (normalizeFailureText text).toList ≠ [] := by
    rw [leadsWithSpace, Bool.and_eq_true, decide_eq_true_eq, Ne, Ne, String.toList_eq_nil_iff]
  rw [List.append_cancel_left_eq]
  by_cases hspace : leadsWithSpace text = true
  · rw [if_pos (hlead.1 hspace), if_pos hspace, String.toList_ofList]
    exact List.singleton_append.symm
  · rw [if_neg (fun h => hspace (hlead.2 h)), if_neg hspace, String.toList_ofList]
    exact (List.nil_append _).symm

/-! ### What is hashed of a failed check -/

/-- What the signature knows of a failed check, up to white space and addresses: its type and
message, what was run and where, and the output that is shown, with whether it begins with
white space. -/
@[ext]
structure FailureOutline where
  failureType : FailureType
  message : String
  run : List String
  output : Option (String × Bool × String)
deriving DecidableEq

/-- The line on an output. -/
def outputLine (output : String × Bool × String) : String :=
  output.1 ++ (if output.2.1 then " " else "") ++ output.2.2

/-- The lines that are hashed. -/
def FailureOutline.lines (outline : FailureOutline) : List String :=
  [outline.failureType.value, "verification", outline.message] ++
    (outline.run ++ outline.output.toList.map outputLine)

/-- The outline of a failed check. -/
def failureOutline (failed : CheckResultFields × FailureType) : FailureOutline where
  failureType := failed.2
  message := normalizeFailureText (failed.1.failureMessage failed.2)
  run := failed.1.executionEvidence.map normalizeFailureText
  output := failed.1.capturedOutput.map fun (label, output) =>
    (label, leadsWithSpace output, normalizeFailureText output)

/-- The report of a failed check. -/
def failedReport (failed : CheckResultFields × FailureType) : FailureReportFields :=
  (failed.1.failureReport failed.2).normalized

variable {check : CheckResultFields} {failed failed' : CheckResultFields × FailureType}

theorem normalize_evidence (failed : CheckResultFields × FailureType) :
    (failedReport failed).evidence.map normalizeFailureText =
      (failureOutline failed).run ++ (failureOutline failed).output.toList.map outputLine := by
  have hout : (failed.1.outputEvidence.map strip).map normalizeFailureText =
      (failureOutline failed).output.toList.map outputLine := by
    rw [CheckResultFields.outputEvidence, failureOutline]
    cases hcaptured : failed.1.capturedOutput with
    | none => rfl
    | some captured =>
      obtain ⟨label, output⟩ := captured
      have hline := normalizeFailureText_label
        (List.mem_append_right executionLabels (CheckResultFields.label_of_capturedOutput hcaptured)) output
      exact congrArg (fun line => [line]) hline
  have hrun : (failed.1.executionEvidence.map strip).map normalizeFailureText =
      (failureOutline failed).run := by
    rw [List.map_map]
    exact List.map_congr_left fun line _ => normalizeFailureText_strip line
  change ((failed.1.executionEvidence ++ failed.1.outputEvidence).map strip).map
    normalizeFailureText = _
  rw [List.map_append, List.map_append, hrun, hout]

/-- **What is hashed of a failed check are the lines of its outline.** -/
theorem failureText_failedReport (failed : CheckResultFields × FailureType) :
    failureText (failedReport failed) = "\n".intercalate (failureOutline failed).lines := by
  have hmessage : normalizeFailureText (failedReport failed).message =
      (failureOutline failed).message := normalizeFailureText_strip _
  have hne : (failureOutline failed).run ++
      (failureOutline failed).output.toList.map outputLine ≠ [] := by
    refine List.append_ne_nil_of_left_ne_nil ?_ _
    simp [failureOutline, CheckResultFields.executionEvidence]
  rw [failureText, normalize_evidence, hmessage, FailureOutline.lines]
  obtain ⟨line, lines, hlines⟩ := List.exists_cons_of_ne_nil hne
  rw [hlines]
  simp only [List.cons_append, List.nil_append, String.intercalate_cons_cons,
    String.intercalate_singleton]
  rfl

theorem head?_normalizeFailureText_label {label : String}
    (h : label ∈ executionLabels ++ outputLabels) (text : String) :
    (normalizeFailureText (label ++ text)).toList.head? = label.toList.head? := by
  obtain ⟨c, hhead, -⟩ := (startsVisible_of_label h).exists
  rw [← normalizeFailureText_strip, normalizeFailureText_label h, String.append_assoc,
    head?_toList_append hhead, hhead]

/-- No line on what was run begins like one on an output. -/
theorem head_of_mem_run {line : String} (h : line ∈ (failureOutline failed).run) :
    line.toList.head? ≠ some 's' := by
  obtain ⟨raw, hraw, rfl⟩ := List.mem_map.1 h
  obtain ⟨label, hlabel, text, rfl⟩ := CheckResultFields.label_of_mem_executionEvidence hraw
  rw [head?_normalizeFailureText_label (List.mem_append_left _ hlabel)]
  exact (label_heads.1 label hlabel).1

theorem exists_of_mem_output {output : String × Bool × String}
    (h : output ∈ (failureOutline failed).output) : output.1 ∈ outputLabels ∧
      ∃ text, output.2.2 = normalizeFailureText text := by
  obtain ⟨⟨label, text⟩, hcaptured, rfl⟩ := Option.map_eq_some_iff.1 h
  exact ⟨CheckResultFields.label_of_capturedOutput hcaptured, text, rfl⟩

theorem head_of_outputLine {output : String × Bool × String}
    (h : output ∈ (failureOutline failed).output) :
    (outputLine output).toList.head? = some 's' := by
  have hhead := (label_heads.2.1 _ (exists_of_mem_output h).1).1
  rw [outputLine, String.append_assoc, head?_toList_append hhead]

/-- A blank before a normalised text can be told from the text. -/
theorem lead_injective {lead lead' : Bool} {text text' : String}
    (h : (if lead then " " else "") ++ normalizeFailureText text =
      (if lead' then " " else "") ++ normalizeFailureText text') :
    lead = lead' ∧ normalizeFailureText text = normalizeFailureText text' := by
  have hvisible : ∀ text : String, (normalizeFailureText text).toList.head? ≠ some ' ' := by
    intro text hhead
    rw [toList_normalizeFailureText] at hhead
    exact absurd (Words.head?_squeeze hhead) (by decide)
  have hblank : (" " : String).toList = [' '] := String.toList_ofList
  have hempty : ("" : String).toList = [] := String.toList_ofList
  have hlists := congrArg String.toList h
  rw [String.toList_append, String.toList_append] at hlists
  cases lead with
  | true =>
    cases lead' with
    | true =>
      rw [List.append_cancel_left_eq, String.toList_inj] at hlists
      exact ⟨rfl, hlists⟩
    | false =>
      rw [if_pos rfl, if_neg Bool.false_ne_true, hblank, hempty, List.nil_append] at hlists
      exact absurd (congrArg List.head? hlists).symm (hvisible text')
  | false =>
    cases lead' with
    | true =>
      rw [if_pos rfl, if_neg Bool.false_ne_true, hblank, hempty, List.nil_append] at hlists
      exact absurd (congrArg List.head? hlists) (hvisible text)
    | false =>
      rw [List.append_cancel_left_eq, String.toList_inj] at hlists
      exact ⟨rfl, hlists⟩

/-- The line on an output can be read back. -/
theorem outputLine_injective {output output' : String × Bool × String}
    (h : output ∈ (failureOutline failed).output)
    (h' : output' ∈ (failureOutline failed').output)
    (heq : outputLine output = outputLine output') : output = output' := by
  obtain ⟨label, lead, shown⟩ := output
  obtain ⟨label', lead', shown'⟩ := output'
  obtain ⟨hlabel, text, rfl⟩ := exists_of_mem_output h
  obtain ⟨hlabel', text', rfl⟩ := exists_of_mem_output h'
  have hlength : ∀ label ∈ outputLabels, label.toList.length = 7 := by decide
  have hlists : label.toList ++ ((if lead then " " else "") ++ normalizeFailureText text).toList =
      label'.toList ++ ((if lead' then " " else "") ++ normalizeFailureText text').toList := by
    rw [← String.toList_append, ← String.toList_append, ← String.append_assoc,
      ← String.append_assoc]
    exact congrArg String.toList heq
  obtain ⟨hlabels, hrest⟩ := List.append_inj hlists
    ((hlength label hlabel).trans (hlength label' hlabel').symm)
  obtain rfl := String.toList_inj.1 hlabels
  obtain ⟨rfl, hshown⟩ := lead_injective (String.toList_inj.1 hrest)
  rw [hshown]

/-- **An outline can be read back from its lines.** -/
theorem lines_injective (heq : (failureOutline failed).lines = (failureOutline failed').lines) :
    failureOutline failed = failureOutline failed' := by
  have htypes : ∀ t t' : FailureType, t.value = t'.value → t = t' := by
    intro t t'
    cases t <;> cases t' <;> decide
  have hlines := heq
  simp only [FailureOutline.lines, List.cons_append, List.nil_append, List.cons.injEq, true_and]
    at hlines
  obtain ⟨htype, hmessage, hlines⟩ := hlines
  let isOutput : String → Bool := fun line => line.toList.head? = some 's'
  have hrun : ∀ failed, ∀ line ∈ (failureOutline failed).run, ¬isOutput line = true := by
    intro failed line hline
    simpa [isOutput] using head_of_mem_run hline
  have hout : ∀ failed, ∀ line ∈ (failureOutline failed).output.toList.map outputLine,
      isOutput line = true := by
    intro failed line hline
    obtain ⟨output, houtput, rfl⟩ := List.mem_map.1 hline
    simpa [isOutput] using head_of_outputLine (Option.mem_toList.1 houtput)
  have hsame := congrArg (List.filter isOutput) hlines
  rw [List.filter_append, List.filter_append, List.filter_eq_nil_iff.2 (hrun failed),
    List.filter_eq_nil_iff.2 (hrun failed'), List.filter_eq_self.2 (hout failed),
    List.filter_eq_self.2 (hout failed'), List.nil_append, List.nil_append] at hsame
  have hruns := List.append_inj_left' hlines (congrArg List.length hsame)
  have houtput : (failureOutline failed).output = (failureOutline failed').output := by
    cases hfirst : (failureOutline failed).output with
    | none =>
      cases hsecond : (failureOutline failed').output with
      | none => rfl
      | some output => rw [hfirst, hsecond] at hsame; cases hsame
    | some output =>
      cases hsecond : (failureOutline failed').output with
      | none => rw [hfirst, hsecond] at hsame; cases hsame
      | some output' =>
        rw [hfirst, hsecond] at hsame
        exact congrArg some (outputLine_injective hfirst hsecond (List.cons.inj hsame).1)
  exact FailureOutline.ext (htypes _ _ htype) hmessage hruns houtput

/-- The lines of an outline are lines, and none is empty. -/
theorem lines_visible (failed : CheckResultFields × FailureType) :
    ∀ line ∈ (failureOutline failed).lines, line.toList ≠ [] ∧ '\n' ∉ line.toList := by
  have hnormal : ∀ text, StartsVisible text → (normalizeFailureText text).toList ≠ [] ∧
      '\n' ∉ (normalizeFailureText text).toList := by
    intro text htext
    exact ⟨String.toList_eq_nil_iff.not.2 (normalizeFailureText_ne_empty htext),
      newline_notMem_normalizeFailureText text⟩
  have htypes : ∀ t : FailureType, t.value.toList ≠ [] ∧ '\n' ∉ t.value.toList := by
    intro t
    cases t <;> exact ⟨by decide, by decide⟩
  have hevidence : ∀ line ∈ (failureOutline failed).run ++
      (failureOutline failed).output.toList.map outputLine,
      line.toList ≠ [] ∧ '\n' ∉ line.toList := by
    rw [← normalize_evidence]
    intro line hline
    obtain ⟨stripped, hstripped, rfl⟩ := List.mem_map.1 hline
    obtain ⟨raw, hraw, rfl⟩ := List.mem_map.1 hstripped
    obtain ⟨label, hlabel, text, rfl⟩ := CheckResultFields.label_of_mem_failureEvidence hraw
    rw [normalizeFailureText_strip]
    exact hnormal _ ((startsVisible_of_label hlabel).append text)
  intro line hline
  rcases List.mem_append.1 hline with hline | hline
  · simp only [List.mem_cons, List.not_mem_nil, or_false] at hline
    rcases hline with rfl | rfl | rfl
    · exact htypes _
    · exact ⟨by decide, by decide⟩
    · exact hnormal _ (failed.1.failureMessage_bounds failed.2).1
  · exact hevidence line hline

theorem insertionSort_eq_iff {texts texts' : List String} :
    texts.insertionSort (· ≤ ·) = texts'.insertionSort (· ≤ ·) ↔ texts.Perm texts' := by
  constructor
  · intro heq
    have hperm := List.perm_insertionSort (· ≤ ·) texts
    rw [heq] at hperm
    exact hperm.symm.trans (List.perm_insertionSort (· ≤ ·) texts')
  · intro hperm
    refine List.Perm.eq_of_sortedLE List.sortedLE_insertionSort List.sortedLE_insertionSort ?_
    exact ((List.perm_insertionSort (· ≤ ·) texts).trans hperm).trans
      (List.perm_insertionSort (· ≤ ·) texts').symm

/-- The lines of some failed checks, as blocks. -/
def signedBlocks (failed : List (CheckResultFields × FailureType)) : List (List (List Char)) :=
  failed.map fun failed => (failureOutline failed).lines.map String.toList

theorem blocks_signedBlocks (failed : List (CheckResultFields × FailureType)) :
    Joins.Blocks '\n' (signedBlocks failed) where
  lines lines hlines := by
    obtain ⟨one, -, rfl⟩ := List.mem_map.1 hlines
    simp [FailureOutline.lines]
  line lines hlines line hline := by
    obtain ⟨one, -, rfl⟩ := List.mem_map.1 hlines
    obtain ⟨text, htext, rfl⟩ := List.mem_map.1 hline
    exact lines_visible one text htext

/-- The texts of the reports are joined blocks. -/
theorem toList_intercalate_texts (failed : List (CheckResultFields × FailureType)) :
    ("\n\n".intercalate (failed.map fun failed => failureText (failedReport failed))).toList =
      Joins.joinBlocks '\n' (signedBlocks failed) := by
  have hbreak : ("\n" : String).toList = ['\n'] := String.toList_ofList
  have hbreaks : ("\n\n" : String).toList = ['\n', '\n'] := String.toList_ofList
  rw [String.toList_intercalate, Joins.joinBlocks, signedBlocks, List.map_map, List.map_map,
    hbreaks]
  congr 1
  refine List.map_congr_left fun one _ => ?_
  rw [Function.comp_apply, failureText_failedReport, String.toList_intercalate, hbreak]
  rfl

/-- **The signed texts agree when the outlines do**, up to their order. -/
theorem signedText_eq_iff {failed failed' : List (CheckResultFields × FailureType)} :
    signedText (failed.map failedReport) = signedText (failed'.map failedReport) ↔
      (failed.map failureOutline).Perm (failed'.map failureOutline) := by
  have hview : ∀ one one', failureText (failedReport one) = failureText (failedReport one') ↔
      failureOutline one = failureOutline one' := by
    intro one one'
    rw [failureText_failedReport, failureText_failedReport]
    refine ⟨fun heq => lines_injective ?_, fun heq => by rw [heq]⟩
    have hlists := congrArg String.toList heq
    have hbreak : ("\n" : String).toList = ['\n'] := String.toList_ofList
    rw [String.toList_intercalate, String.toList_intercalate, hbreak] at hlists
    have hparts : ∀ one, ∀ part ∈ (failureOutline one).lines.map String.toList, '\n' ∉ part := by
      intro one part hpart
      obtain ⟨line, hline, rfl⟩ := List.mem_map.1 hpart
      exact (lines_visible one line hline).2
    have hsame := Joins.intercalate_injective (by simp [FailureOutline.lines])
      (by simp [FailureOutline.lines]) (hparts one) (hparts one') hlists
    exact List.map_injective_iff.2 (fun _ _ h => String.toList_inj.1 h) hsame
  have htexts : ∀ failed : List (CheckResultFields × FailureType),
      (failed.map failedReport).map failureText =
        failed.map fun one => failureText (failedReport one) := fun failed => List.map_map
  rw [← Joins.perm_map_iff hview, signedText, signedText, htexts, htexts, ← insertionSort_eq_iff]
  refine ⟨fun heq => ?_, fun heq => by rw [heq]⟩
  -- the sorted texts are those of the failures in some order
  obtain ⟨order, -, horder⟩ := Joins.exists_perm_of_perm_map (List.perm_insertionSort (· ≤ ·)
    (failed.map fun one => failureText (failedReport one)))
  obtain ⟨order', -, horder'⟩ := Joins.exists_perm_of_perm_map (List.perm_insertionSort (· ≤ ·)
    (failed'.map fun one => failureText (failedReport one)))
  rw [horder, horder'] at heq ⊢
  have hblocks := congrArg String.toList heq
  rw [toList_intercalate_texts, toList_intercalate_texts] at hblocks
  have hsame := Joins.joinBlocks_injective (blocks_signedBlocks order) (blocks_signedBlocks order')
    hblocks
  have hlines := congrArg (List.map fun lines : List (List Char) =>
    "\n".intercalate (lines.map String.ofList)) hsame
  simp only [signedBlocks, List.map_map] at hlines
  have hback : ∀ one, "\n".intercalate (((failureOutline one).lines.map String.toList).map
      String.ofList) = failureText (failedReport one) := by
    intro one
    rw [failureText_failedReport, List.map_map]
    congr 1
    exact (List.map_congr_left fun line _ => String.ofList_toList).trans (List.map_id _)
  simpa only [Function.comp_def, hback, ← List.map_map] using hlines

end Orchestrator

/-! ### Two executions -/

open Orchestrator

/-- A detail that names the container of a UUID, white space aside. -/
def NamesContainer (hex detail : String) : Prop :=
  normalizeFailureText detail =
    DockerSandboxRunner.containerDetail (DockerSandboxRunner.containerName hex)

/-- Two checks are the same, with outputs that are the same up to white space and addresses,
and details that are the same but for the names of containers. -/
structure SameCheck (check check' : CheckResultFields) : Prop where
  check_type : check.checkType = check'.checkType
  name : check.name = check'.name
  command : check.command = check'.command
  passed : check.passed = check'.passed
  exit_code : check.exitCode = check'.exitCode
  failure_type : check.failureType = check'.failureType
  backend : check.executionBackend = check'.executionBackend
  stdout : normalizeFailureText check.stdout = normalizeFailureText check'.stdout
  stderr : normalizeFailureText check.stderr = normalizeFailureText check'.stderr
  details : List.Forall₂ (fun detail detail' => detail = detail' ∨
    (∃ hex, NamesContainer hex detail) ∧ ∃ hex, NamesContainer hex detail')
    check.executionDetails check'.executionDetails

/-- Two results differ only in what the sandbox makes anew for each execution. -/
structure SameExceptExecution (result result' : VerificationResultFields) : Prop where
  checks : List.Forall₂ SameCheck result.checks result'.checks
  /-- No two executions have a container in common. -/
  fresh : ∀ check ∈ result.checks, ∀ detail ∈ check.executionDetails, ∀ hex,
    NamesContainer hex detail →
    ∀ check' ∈ result'.checks, ∀ detail' ∈ check'.executionDetails, ¬NamesContainer hex detail'

/-- No failed check shows the name of a container. -/
def NoContainer (result : VerificationResultFields) : Prop :=
  ∀ failed ∈ result.failingChecks, ∀ detail ∈ failed.1.executionDetails, ∀ hex,
    ¬NamesContainer hex detail

/-- The failed checks of two results agree, up to their order, in what the signature knows
of them. -/
def SameFailures (result result' : VerificationResultFields) : Prop :=
  (result.failingChecks.map failureOutline).Perm (result'.failingChecks.map failureOutline)

/-- SHA-256 collides on what is signed. -/
def SignaturesCollide (reports reports' : List FailureReportFields) : Prop :=
  signedText reports ≠ signedText reports' ∧ failureSignature reports = failureSignature reports'

/-- The status that is written down for the last repair. -/
def lastRepairStatus (repairs : List RepairRunResultFields) : Option RepairProgressStatus :=
  (repairs.getLast?.bind RepairRunResultFields.progress).map RepairProgressEvidence.status

namespace Orchestrator

variable {result result' : VerificationResultFields}

theorem mem_failingChecks {failed : CheckResultFields × FailureType} :
    failed ∈ result.failingChecks ↔
      failed.1 ∈ result.checks ∧ failed.1.passed = false ∧ failed.1.failureType = some failed.2 := by
  obtain ⟨check, failureType⟩ := failed
  simp only [VerificationResultFields.failingChecks, List.mem_filterMap]
  constructor
  · rintro ⟨check', hmem, hsome⟩
    cases hpassed : check'.passed with
    | true => rw [hpassed] at hsome; cases hsome
    | false =>
      rw [hpassed, if_neg Bool.false_ne_true] at hsome
      obtain ⟨type, htype, heq⟩ := Option.map_eq_some_iff.1 hsome
      cases heq
      exact ⟨hmem, hpassed, htype⟩
  · rintro ⟨hmem, hpassed, htype⟩
    exact ⟨check, hmem, by rw [hpassed, if_neg Bool.false_ne_true, htype]; rfl⟩

/-- **The line on a detail is shared by lines on details only**, and by those that say the
same. -/
theorem exists_detail_of_mem_run {failed : CheckResultFields × FailureType} {detail : String}
    (h : normalizeFailureText ("execution=" ++ detail) ∈ (failureOutline failed).run) :
    ∃ detail' ∈ failed.1.executionDetails,
      normalizeFailureText detail' = normalizeFailureText detail := by
  obtain ⟨raw, hraw, hline⟩ := List.mem_map.1 h
  have hlabel : "execution=" ∈ executionLabels ++ outputLabels := by decide
  have happart : ∀ label ∈ executionLabels, ∀ text text' : String,
      label ++ text = "execution=" ++ text' → label = "execution=" ∧ text = text' := by
    intro label hlabel text text' heq
    have hall : ∀ label ∈ executionLabels, label.toList <+: "execution=".toList ∨
        "execution=".toList <+: label.toList → label = "execution=" := by decide
    have hlists := congrArg String.toList heq
    rw [String.toList_append, String.toList_append] at hlists
    obtain rfl := hall label hlabel (List.prefix_or_prefix_of_prefix (List.prefix_append _ _)
      ⟨text'.toList, hlists.symm⟩)
    exact ⟨rfl, String.toList_inj.1 (List.append_cancel_left hlists)⟩
  obtain ⟨label, hlabel', text, rfl⟩ := CheckResultFields.label_of_mem_executionEvidence hraw
  rw [← normalizeFailureText_strip (label ++ text), ← normalizeFailureText_strip ("execution=" ++ _),
    normalizeFailureText_label (List.mem_append_left _ hlabel'), normalizeFailureText_label hlabel,
    String.append_assoc, String.append_assoc] at hline
  obtain ⟨rfl, hrest⟩ := happart label hlabel' _ _ hline
  refine ⟨text, ?_, (lead_injective hrest).2⟩
  -- only the lines on details have this label
  simp only [CheckResultFields.executionEvidence, List.mem_append, List.mem_map,
    List.mem_singleton] at hraw
  rcases hraw with (((heq | ⟨command, -, heq⟩) | ⟨exitCode, -, heq⟩) | ⟨backend, -, heq⟩) |
    ⟨detail', hdetail', heq⟩
  · exact absurd (happart "check=" (by decide) _ _ heq.symm).1 (by decide)
  · exact absurd (happart "command=" (by decide) _ _ heq).1 (by decide)
  · exact absurd (happart "exit_code=" (by decide) _ _ heq).1 (by decide)
  · exact absurd (happart "execution_backend=" (by decide) _ _ heq).1 (by decide)
  · rwa [← (happart "execution=" (by decide) _ _ heq).2]

/-- **A container that is shown is shown in one result only.** -/
theorem noContainer_of_sameFailures (h : SameExceptExecution result result')
    (hsame : SameFailures result result') : NoContainer result := by
  intro failed hfailed detail hdetail hex hnames
  have hline : normalizeFailureText ("execution=" ++ detail) ∈ (failureOutline failed).run := by
    refine List.mem_map_of_mem (List.mem_append_right _ ?_)
    exact List.mem_map_of_mem hdetail
  obtain ⟨failed', hfailed', houtline⟩ := List.mem_map.1
    (hsame.subset (List.mem_map_of_mem hfailed))
  rw [← houtline] at hline
  obtain ⟨detail', hdetail', hnames'⟩ := exists_detail_of_mem_run hline
  exact h.fresh failed.1 (mem_failingChecks.1 hfailed).1 detail hdetail hex hnames failed'.1
    (mem_failingChecks.1 hfailed').1 detail' hdetail' (hnames'.trans hnames)

/-- **Checks that are the same are the same to the signature** when no container is shown and
both show their output in the same way. -/
theorem failureOutline_eq_of_sameCheck {check check' : CheckResultFields} {failureType : FailureType}
    (h : SameCheck check check')
    (hcontainer : ∀ detail ∈ check.executionDetails, ∀ hex, ¬NamesContainer hex detail)
    (hmessage : check.failureMessage failureType = check'.failureMessage failureType)
    (hshown : check.capturedOutput.map (fun output => (output.1, leadsWithSpace output.2)) =
      check'.capturedOutput.map fun output => (output.1, leadsWithSpace output.2)) :
    failureOutline (check, failureType) = failureOutline (check', failureType) := by
  have hdetails : check.executionDetails = check'.executionDetails := by
    rw [← List.forall₂_eq_eq_eq]
    refine ((List.forall₂_and_left _ _).2 ⟨hcontainer, h.details⟩).imp ?_
    rintro detail detail' ⟨hnone, heq | ⟨⟨hex, hnames⟩, -⟩⟩
    · exact heq
    · exact absurd hnames (hnone hex)
  have hrun : check.executionEvidence = check'.executionEvidence := by
    rw [CheckResultFields.executionEvidence, CheckResultFields.executionEvidence, h.name, h.command,
      h.exit_code, h.backend, hdetails]
  have houtput : check.capturedOutput.map (fun output =>
        (output.1, leadsWithSpace output.2, normalizeFailureText output.2)) =
      check'.capturedOutput.map fun output =>
        (output.1, leadsWithSpace output.2, normalizeFailureText output.2) := by
    -- the same stream is shown
    unfold CheckResultFields.capturedOutput at hshown ⊢
    split_ifs at hshown ⊢ with hfirst hsecond hsecond hthird
    all_goals simp_all [h.stderr, h.stdout]
  exact FailureOutline.ext rfl (congrArg normalizeFailureText hmessage)
    (congrArg (List.map normalizeFailureText) hrun) houtput

/-- **When a failure counts as the same.**  For two results that differ only in what is made
anew for each execution, the signatures agree when no failed check shows a container and the
failed checks agree in what the signature knows of them; or SHA-256 collides.  The repair
between them counts as ineffective in these cases, and as progress in all others. -/
theorem failureSignature_eq_iff (h : SameExceptExecution result result')
    {reports reports' : List FailureReportFields}
    (hreports : FailureClassifier.fromVerification result = .ok reports)
    (hreports' : FailureClassifier.fromVerification result' = .ok reports') :
    (failureSignature reports = failureSignature reports' ↔
      (NoContainer result ∧ SameFailures result result') ∨ SignaturesCollide reports reports') ∧
    ∀ repairs repair progress, repair.progress = some progress →
      progress.status = .patchProduced →
      progress.failureSignatureBefore = some (failureSignature reports) →
      result'.passed = false →
      (lastRepairStatus (recordRepairVerification (repairs ++ [repair]) result'
        (some (failureSignature reports'))) = some .repairIneffective ↔
        (NoContainer result ∧ SameFailures result result') ∨ SignaturesCollide reports reports') := by
  have hsigned : ∀ {result reports}, FailureClassifier.fromVerification result = .ok reports →
      reports = result.failingChecks.map failedReport := by
    intro result reports hreports
    rw [FailureClassifier.fromVerification, DeterministicVerifier.failureReports_eq,
      Except.ok.injEq] at hreports
    exact hreports.symm
  obtain rfl := hsigned hreports
  obtain rfl := hsigned hreports'
  have hiff : failureSignature (result.failingChecks.map failedReport) =
      failureSignature (result'.failingChecks.map failedReport) ↔
      (NoContainer result ∧ SameFailures result result') ∨
        SignaturesCollide (result.failingChecks.map failedReport)
          (result'.failingChecks.map failedReport) := by
    constructor
    · intro heq
      by_cases hsame : signedText (result.failingChecks.map failedReport) =
          signedText (result'.failingChecks.map failedReport)
      · have hfailures : SameFailures result result' := signedText_eq_iff.1 hsame
        exact Or.inl ⟨noContainer_of_sameFailures h hfailures, hfailures⟩
      · exact Or.inr ⟨hsame, heq⟩
    · rintro (⟨-, hfailures⟩ | ⟨-, heq⟩)
      · rw [failureSignature, failureSignature, signedText_eq_iff.2 hfailures]
      · exact heq
  refine ⟨hiff, fun repairs repair progress hprogress hstatus hbefore hfailed => ?_⟩
  have hrecorded : lastRepairStatus (recordRepairVerification (repairs ++ [repair]) result'
      (some (failureSignature (result'.failingChecks.map failedReport)))) =
      some (if failureSignature (result.failingChecks.map failedReport) =
        failureSignature (result'.failingChecks.map failedReport) then .repairIneffective
        else .progressMade) := by
    simp [recordRepairVerification, lastRepairStatus, verifiedProgress, hprogress, hstatus, hbefore,
      hfailed]
  rw [← hiff, hrecorded]
  split_ifs with hsame
  · exact ⟨fun _ => hsame, fun _ => rfl⟩
  · exact ⟨fun h => absurd h (by simp), fun h => absurd h hsame⟩

theorem not_namesContainer {hex detail : String}
    (h : ¬"container=".toList <+: Words.squeeze isSpace ' ' (hideAddresses false detail.toList)) :
    ¬NamesContainer hex detail := by
  intro hnames
  refine h ?_
  rw [← toList_normalizeFailureText, hnames, DockerSandboxRunner.containerDetail,
    String.toList_append]
  exact List.prefix_append _ _

theorem sameCheck_refl (check : CheckResultFields) : SameCheck check check :=
  ⟨rfl, rfl, rfl, rfl, rfl, rfl, rfl, rfl, rfl, List.forall₂_same.2 fun _ _ => Or.inl rfl⟩

/-- A failure of pytest on the host that reappears counts as the same. -/
theorem failureSignature_eq_iff_hostRun :
    failureSignature (pytestReports hostRun) = failureSignature (pytestReports hostRun) ∧
    lastRepairStatus (recordRepairVerification
      [{ attempt := 1
         failureTypes := [.testFailure]
         stopReason := .modelStop
         iterations := 1
         toolCalls := 1
         progress := some
          { status := .patchProduced
            hasPatch := true
            patchHashBefore := Sha256.digest ['a']
            patchHashAfter := Sha256.digest ['b']
            failureSignatureBefore := some (failureSignature (pytestReports hostRun)) } }]
      ⟨false, [pytestCheck hostRun]⟩ (some (failureSignature (pytestReports hostRun)))) =
      some .repairIneffective := by
  have hfront : ∀ detail ∈ ["sandboxed=false", "verification_stage=full"],
      ¬"container=".toList <+: Words.squeeze isSpace ' ' (hideAddresses false detail.toList) := by
    decide +kernel
  have hnames : ∀ detail ∈ (pytestCheck hostRun).executionDetails, ∀ hex,
      ¬NamesContainer hex detail := fun detail hdetail _ =>
    not_namesContainer (hfront detail hdetail)
  have hsame : SameExceptExecution ⟨false, [pytestCheck hostRun]⟩
      ⟨false, [pytestCheck hostRun]⟩ := by
    refine ⟨.cons (sameCheck_refl _) .nil, fun check hcheck detail hdetail hex h => ?_⟩
    obtain rfl := List.mem_singleton.1 hcheck
    exact absurd h (hnames detail hdetail hex)
  have hcondition : NoContainer ⟨false, [pytestCheck hostRun]⟩ ∧
      SameFailures ⟨false, [pytestCheck hostRun]⟩ ⟨false, [pytestCheck hostRun]⟩ := by
    refine ⟨fun failed hfailed => ?_, List.Perm.refl _⟩
    obtain rfl := List.mem_singleton.1 hfailed
    exact hnames
  have hiff := failureSignature_eq_iff hsame (fromVerification_pytest hostRun)
    (fromVerification_pytest hostRun)
  exact ⟨hiff.1.2 (Or.inl hcondition), (hiff.2 [] _ _ rfl rfl rfl rfl).2 (Or.inl hcondition)⟩

/-- The same failure in two containers. -/
theorem sameExceptExecution_containerRun :
    SameExceptExecution ⟨false, [pytestCheck (containerRun "0123456789abcdef0123456789abcdef")]⟩
      ⟨false, [pytestCheck (containerRun "fedcba9876543210fedcba9876543210")]⟩ := by
  have hfront : ∀ detail ∈ DockerSandboxRunner.policyDetails {} ⟨"sha256:0", "systemd"⟩
      "1000:1000" ++ ["verification_stage=full"],
      ¬"container=".toList <+: Words.squeeze isSpace ' ' (hideAddresses false detail.toList) := by
    decide +kernel
  have hname : ∀ hex ∈ ["0123456789abcdef0123456789abcdef", "fedcba9876543210fedcba9876543210"],
      NamesContainer hex
        (DockerSandboxRunner.containerDetail (DockerSandboxRunner.containerName hex)) := by
    intro hex hhex
    rw [NamesContainer, ← String.toList_inj, toList_normalizeFailureText]
    revert hex
    decide +kernel
  have hfirst := hname "0123456789abcdef0123456789abcdef" List.mem_cons_self
  have hsecond := hname "fedcba9876543210fedcba9876543210"
    (List.mem_cons_of_mem _ List.mem_cons_self)
  refine ⟨.cons ⟨rfl, rfl, rfl, rfl, rfl, rfl, rfl, rfl, rfl, .cons
    (Or.inr ⟨⟨_, hfirst⟩, _, hsecond⟩) (List.forall₂_same.2 fun _ _ => Or.inl rfl)⟩ .nil, ?_⟩
  intro check hcheck detail hdetail hex hnames check' hcheck' detail' hdetail' hnames'
  obtain rfl := List.mem_singleton.1 hcheck
  obtain rfl := List.mem_singleton.1 hcheck'
  rcases List.mem_cons.1 hdetail with rfl | hdetail
  · rcases List.mem_cons.1 hdetail' with rfl | hdetail'
    · have hsame := (hfirst.symm.trans (hnames.trans hnames'.symm)).trans hsecond
      revert hsame
      decide +kernel
    · exact not_namesContainer (hfront detail' hdetail') hnames'
  · exact not_namesContainer (hfront detail hdetail) hnames

/-- The signature of one failed check. -/
theorem failureSignature_singleton (failed : CheckResultFields × FailureType) :
    failureSignature [failedReport failed] = Sha256.digest (['\n'].intercalate
      ([failed.2.value.toList, "verification".toList,
          Words.squeeze isSpace ' '
            (hideAddresses false (failed.1.failureMessage failed.2).toList)] ++
        ((failed.1.executionEvidence.map fun line =>
            Words.squeeze isSpace ' ' (hideAddresses false line.toList)) ++
          (failureOutline failed).output.toList.map fun output =>
            (outputLine output).toList))) := by
  have hbreak : ("\n" : String).toList = ['\n'] := String.toList_ofList
  rw [failureSignature, signedText, List.map_singleton, List.insertionSort_cons,
    List.insertionSort_nil, List.orderedInsert_nil, String.intercalate_singleton,
    failureText_failedReport, String.toList_intercalate, hbreak, FailureOutline.lines, failureOutline]
  simp only [List.map_append, List.map_cons, List.map_nil, List.map_map, Function.comp_def,
    toList_normalizeFailureText]

/-- **The same failure in another container has another signature.** -/
theorem container_failure_new :
    SameExceptExecution ⟨false, [pytestCheck (containerRun "0123456789abcdef0123456789abcdef")]⟩
      ⟨false, [pytestCheck (containerRun "fedcba9876543210fedcba9876543210")]⟩ ∧
    failureSignature (pytestReports (containerRun "0123456789abcdef0123456789abcdef")) ≠
      failureSignature (pytestReports (containerRun "fedcba9876543210fedcba9876543210")) := by
  refine ⟨sameExceptExecution_containerRun, ?_⟩
  change failureSignature [failedReport (_, _)] ≠ failureSignature [failedReport (_, _)]
  rw [failureSignature_singleton, failureSignature_singleton]
  simp only [CheckResultFields.executionEvidence, List.map_append, List.map_map,
    Function.comp_def, String.toList_append, List.map_cons, List.map_nil]
  decide +kernel

end Orchestrator

end DevFlow
