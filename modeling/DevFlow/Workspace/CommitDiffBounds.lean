/-
# What a bounded diff accounts for

`ReadOnlyCommitDiffReader.read` (`workspace/diff.py`) against any answers of Git.  The
bytes that the files show are the grants of a budget (`Library.Budgets`), each file
asking for as much of its patch as its own bound allows; `Accounts` reads a snapshot as
a statement about every changed path, and `read_outcome` says what a call ends with.
-/

import DevFlow.Library.Budgets
import DevFlow.Workspace.CommitDiff

namespace DevFlow

open Raising

namespace CommitDiffReader

variable {reader : CommitDiffReader} {base head path : String} {status : CommitDiffFileStatus}
variable {counts : LineCounts} {remaining : ℕ}

/-- How a file is shown when `remaining` bytes of the total are left. -/
inductive Shown (reader : CommitDiffReader) (base head : String) (remaining : ℕ) (path : String)
    (status : CommitDiffFileStatus) (counts : LineCounts) : CommitDiffFile → Prop
  | binary (hcounts : counts = none) :
      Shown reader base head remaining path status counts
        (omittedFile path status counts .binary false)
  | exhausted (hcounts : counts ≠ none) (hremaining : remaining = 0) :
      Shown reader base head remaining path status counts
        (omittedFile path status counts .totalPatchLimit true)
  | tooLarge (hcounts : counts ≠ none) (hremaining : remaining ≠ 0)
      (hlarge : reader.blobTooLarge base head path = .ok true) :
      Shown reader base head remaining path status counts
        (omittedFile path status counts .blobLimit true)
  | text {full : List UInt8} (hcounts : counts ≠ none) (hremaining : remaining ≠ 0)
      (hlarge : reader.blobTooLarge base head path = .ok false)
      (hfull : reader.fullPatch base head path = .ok full) :
      Shown reader base head remaining path status counts
        (shownFile path status counts full (min reader.maxFilePatchBytes remaining))

/-- The bytes of its patch that a file asks for. -/
def wanted (reader : CommitDiffReader) (base head path : String) (counts : LineCounts) : ℕ :=
  match counts, reader.blobTooLarge base head path, reader.fullPatch base head path with
  | some _, .ok false, .ok full => min full.length reader.maxFilePatchBytes
  | _, _, _ => 0

/-- The file shows all of its patch. -/
def Complete (reader : CommitDiffReader) (base head : String) (file : CommitDiffFile) : Prop :=
  ∃ full, reader.fullPatch base head file.path = .ok full ∧
    file.patch = some (Utf8.decodeReplace full) ∧ file.patchBytes = full.length

theorem eq_of_validate {file file' : CommitDiffFile} (h : file.validate = .ok file') :
    file' = file := by
  simp only [CommitDiffFile.validate, bind_eq_ok] at h
  obtain ⟨-, -, -, -, -, -, -, -, h⟩ := h
  split at h
  · simp only [bind_eq_ok, pure_eq_ok] at h
    obtain ⟨-, -, -, -, rfl⟩ := h
    rfl
  · simp only [bind_eq_ok, pure_eq_ok] at h
    obtain ⟨-, -, rfl⟩ := h
    rfl

theorem renderFile_shown {file : CommitDiffFile}
    (h : reader.renderFile base head remaining path status counts = .ok file) :
    Shown reader base head remaining path status counts file := by
  unfold renderFile at h
  split_ifs at h with hcounts hremaining
  · rw [eq_of_validate h]
    exact .binary hcounts
  · rw [eq_of_validate h]
    exact .exhausted hcounts hremaining
  · rw [bind_eq_ok] at h
    obtain ⟨tooLarge, hlarge, h⟩ := h
    cases tooLarge with
    | true =>
      rw [if_pos rfl] at h
      rw [eq_of_validate h]
      exact .tooLarge hcounts hremaining hlarge
    | false =>
      rw [if_neg Bool.false_ne_true, bind_eq_ok] at h
      obtain ⟨full, hfull, h⟩ := h
      rw [eq_of_validate h]
      exact .text hcounts hremaining hlarge hfull

namespace Shown

variable {file : CommitDiffFile} (h : Shown reader base head remaining path status counts file)
include h

theorem path_eq : file.path = path := by
  cases h <;> rfl

/-- **A file is granted what it wants, as far as the total allows.** -/
theorem patchBytes_eq : file.patchBytes = min (reader.wanted base head path counts) remaining := by
  cases h with
  | binary hcounts => simp [omittedFile, wanted, hcounts]
  | exhausted hcounts hremaining => simp [omittedFile, hremaining]
  | tooLarge hcounts hremaining hlarge =>
    cases counts <;> simp [omittedFile, wanted, hlarge]
  | @text full hcounts hremaining hlarge hfull =>
    obtain ⟨lines, rfl⟩ := Option.ne_none_iff_exists'.1 hcounts
    simp only [shownFile, wanted, hlarge, hfull, List.length_take]
    omega

theorem patchBytes_le : file.patchBytes ≤ reader.maxFilePatchBytes := by
  have hwanted : reader.wanted base head path counts ≤ reader.maxFilePatchBytes := by
    unfold wanted
    split
    · exact Nat.min_le_right _ _
    · exact Nat.zero_le _
  rw [h.patchBytes_eq]
  omega

/-- A file is not marked as truncated when it is binary or shows all of its patch. -/
theorem not_truncated_iff :
    file.patchTruncated = false ↔ file.binary = true ∨ reader.Complete base head file := by
  cases h with
  | binary hcounts => simp [omittedFile, hcounts]
  | exhausted hcounts hremaining =>
    simp [omittedFile, Complete, hcounts]
  | tooLarge hcounts hremaining hlarge =>
    simp [omittedFile, Complete, hcounts]
  | @text full hcounts hremaining hlarge hfull =>
    simp only [shownFile, Complete, hfull, decide_eq_false_iff_not, Nat.not_lt, Option.isNone_iff_eq_none,
      hcounts, false_or, List.length_take]
    constructor
    · intro hle
      exact ⟨full, rfl, by rw [List.take_of_length_le hle], by omega⟩
    · rintro ⟨_, ⟨⟩, -, hlength⟩
      omega

end Shown

/-- The counts of a path. -/
def countsOf (numstats : List (String × LineCounts)) (path : String) : LineCounts :=
  (numstats.lookup path).getD none

section files

variable {statuses : List (String × CommitDiffFileStatus)} {numstats : List (String × LineCounts)}

/-- **The files of a snapshot, one by one**: the paths in order, the bytes as the
grants of the budget, and each file as it is shown with what is left of it. -/
theorem renderFiles_eq_ok {paths : List String} {files : List CommitDiffFile}
    (h : reader.renderFiles base head statuses numstats remaining paths = .ok files) :
    files.map CommitDiffFile.path = paths ∧
    files.map CommitDiffFile.patchBytes = Budgets.grants remaining
      (paths.map fun path => reader.wanted base head path (countsOf numstats path)) ∧
    ∀ before file after, files = before ++ file :: after → ∃ status counts,
      statuses.lookup file.path = some status ∧ numstats.lookup file.path = some counts ∧
      Shown reader base head (remaining - (before.map CommitDiffFile.patchBytes).sum) file.path
        status counts file := by
  induction paths generalizing remaining files with
  | nil =>
    obtain rfl := Except.ok.inj h
    refine ⟨rfl, rfl, fun before file after heq => ?_⟩
    simp at heq
  | cons path paths ih =>
    rw [renderFiles] at h
    split at h
    · rename_i status counts hstatus hcounts
      simp only [bind_eq_ok, pure_eq_ok] at h
      obtain ⟨file, hfile, rest, hrest, rfl⟩ := h
      have hshown := renderFile_shown hfile
      obtain ⟨hpaths, hgrants, hfiles⟩ := ih hrest
      have hcountsOf : countsOf numstats path = counts := by rw [countsOf, hcounts, Option.getD_some]
      refine ⟨?_, ?_, fun before other after heq => ?_⟩
      · rw [List.map_cons, hshown.path_eq, hpaths]
      · rw [List.map_cons, List.map_cons, Budgets.grants_cons, hcountsOf, hgrants,
          hshown.patchBytes_eq]
      · rcases before with _ | ⟨first, before⟩
        · obtain ⟨rfl, -⟩ := List.cons.inj heq
          rw [hshown.path_eq]
          exact ⟨status, counts, hstatus, hcounts, hshown⟩
        · obtain ⟨rfl, hrest⟩ := List.cons.inj heq
          rw [List.map_cons, List.sum_cons, ← Nat.sub_sub]
          exact hfiles before other after hrest
    · cases h

end files

/-- What a snapshot says of the paths that Git listed. -/
structure Accounts (reader : CommitDiffReader)
    (statuses : List (String × CommitDiffFileStatus)) (numstats : List (String × LineCounts))
    (snapshot : CommitDiffSnapshot) : Prop where
  /-- The first files in the order of their paths. -/
  listed : snapshot.files.map CommitDiffFile.path =
    ((statuses.map Prod.fst).insertionSort (· ≤ ·)).take reader.maxFiles
  changed : snapshot.changedFileCount = statuses.length
  omitted : snapshot.omittedFileCount = statuses.length - reader.maxFiles
  additions : snapshot.additions = totalOf Prod.fst numstats
  deletions : snapshot.deletions = totalOf Prod.snd numstats
  /-- Each file as it is shown with what the files before it left of the total. -/
  shown : ∀ before file after, snapshot.files = before ++ file :: after → ∃ status counts,
    statuses.lookup file.path = some status ∧ numstats.lookup file.path = some counts ∧
    Shown reader snapshot.baseCommit snapshot.headCommit
      (reader.maxTotalPatchBytes - (before.map CommitDiffFile.patchBytes).sum) file.path status
      counts file
  /-- The bytes of the files are the grants of one budget. -/
  granted : snapshot.files.map CommitDiffFile.patchBytes = Budgets.grants reader.maxTotalPatchBytes
    (snapshot.files.map fun file => reader.wanted snapshot.baseCommit snapshot.headCommit file.path
      (countsOf numstats file.path))
  total : snapshot.patchBytes = min (snapshot.files.map fun file =>
    reader.wanted snapshot.baseCommit snapshot.headCommit file.path
      (countsOf numstats file.path)).sum reader.maxTotalPatchBytes
  bounded : ∀ file ∈ snapshot.files, file.patchBytes ≤ reader.maxFilePatchBytes
  complete : snapshot.truncated = false ↔ statuses.length ≤ reader.maxFiles ∧
    ∀ file ∈ snapshot.files, file.binary = true ∨
      reader.Complete snapshot.baseCommit snapshot.headCommit file

theorem snapshot_eq_of_validate {snapshot snapshot' : CommitDiffSnapshot}
    (h : snapshot.validate = .ok snapshot') : snapshot' = snapshot := by
  simp only [CommitDiffSnapshot.validate, bind_eq_ok, pure_eq_ok] at h
  obtain ⟨-, -, -, -, -, -, -, -, rfl⟩ := h
  rfl

/-- The counts of a snapshot fit by construction. -/
theorem validate_snapshot {snapshot : CommitDiffSnapshot} (hbase : isOid snapshot.baseCommit = true)
    (hhead : isOid snapshot.headCommit = true) (hadditions : 0 ≤ snapshot.additions)
    (hdeletions : 0 ≤ snapshot.deletions)
    (hcount : snapshot.changedFileCount = snapshot.files.length + snapshot.omittedFileCount)
    (htruncated : snapshot.truncated = (decide (0 < snapshot.omittedFileCount) ||
      snapshot.files.any CommitDiffFile.patchTruncated)) : snapshot.validate = .ok snapshot := by
  have hoid : ¬(isOid snapshot.baseCommit = false ∨ isOid snapshot.headCommit = false) := by
    rw [hbase, hhead]
    simp
  rw [CommitDiffSnapshot.validate, raiseIf_of_not hoid, raiseIf_of_not (by omega),
    raiseIf_of_not (not_not.2 hcount), raiseIf_of_not (not_not.2 htruncated)]
  rfl

theorem resolveCommit_eq_ok {commit resolved : String}
    (h : reader.resolveCommit commit = .ok resolved) : resolved = commit := by
  simp only [resolveCommit, bind_eq_ok, pure_eq_ok] at h
  obtain ⟨-, -, -, -, -, -, rfl⟩ := h
  rfl

/-- **A snapshot accounts for every changed path and every byte**, whatever Git
answered. -/
theorem read_accounts {baseCommit headCommit : String} {snapshot : CommitDiffSnapshot}
    (h : reader.read baseCommit headCommit = .ok snapshot) :
    snapshot.baseCommit = baseCommit ∧ snapshot.headCommit = headCommit ∧
    ∃ statuses numstats, reader.nameStatus baseCommit headCommit = .ok statuses ∧
      reader.numstat baseCommit headCommit = .ok numstats ∧
      Accounts reader statuses numstats snapshot := by
  simp only [read, bind_eq_ok] at h
  obtain ⟨base, hbase, head, hhead, statuses, hstatuses, numstats, hnumstats, -, -, rendered,
    hrendered, hvalid⟩ := h
  obtain rfl := resolveCommit_eq_ok hbase
  obtain rfl := resolveCommit_eq_ok hhead
  rw [snapshot_eq_of_validate hvalid]
  obtain ⟨hpaths, hgrants, hfiles⟩ := renderFiles_eq_ok hrendered
  have hgranted : rendered.map CommitDiffFile.patchBytes =
      Budgets.grants reader.maxTotalPatchBytes (rendered.map fun file =>
        reader.wanted base head file.path (countsOf numstats file.path)) := by
    rw [hgrants, ← hpaths, List.map_map]
    rfl
  have hmem : ∀ file ∈ rendered, ∃ remaining status counts,
      Shown reader base head remaining file.path status counts file := by
    intro file hfile
    obtain ⟨before, after, heq⟩ := List.append_of_mem hfile
    obtain ⟨status, counts, -, -, hshown⟩ := hfiles before file after heq
    exact ⟨_, status, counts, hshown⟩
  have hlength : ((statuses.map Prod.fst).insertionSort (· ≤ ·)).length = statuses.length := by
    rw [List.length_insertionSort, List.length_map]
  have homitted : ((statuses.map Prod.fst).insertionSort (· ≤ ·)).length -
      (((statuses.map Prod.fst).insertionSort (· ≤ ·)).take reader.maxFiles).length =
      statuses.length - reader.maxFiles := by
    rw [List.length_take, hlength]
    omega
  refine ⟨rfl, rfl, statuses, numstats, hstatuses, hnumstats, hpaths, hlength, homitted, rfl, rfl,
    hfiles, hgranted, ?_, fun file hfile => ?_, ?_⟩
  · change (rendered.map CommitDiffFile.patchBytes).sum = _
    rw [hgranted, Budgets.sum_grants]
  · obtain ⟨_, _, _, hshown⟩ := hmem file hfile
    exact hshown.patchBytes_le
  · change (_ || _) = false ↔ _
    rw [Bool.or_eq_false_iff, decide_eq_false_iff_not, homitted, List.any_eq_false]
    refine and_congr (by omega) (forall₂_congr fun file hfile => ?_)
    obtain ⟨_, _, _, hshown⟩ := hmem file hfile
    rw [Bool.not_eq_true]
    exact hshown.not_truncated_iff

/-! ### Errors -/

/-- The line counts that a record can hold. -/
def NonNegative (counts : LineCounts) : Prop :=
  ∀ lines ∈ counts, 0 ≤ lines.1 ∧ 0 ≤ lines.2

theorem validate_eq_ok {file : CommitDiffFile} (hpath : file.path ≠ "")
    (hadditions : ∀ n ∈ file.additions, 0 ≤ n) (hdeletions : ∀ n ∈ file.deletions, 0 ≤ n)
    (hbinary : file.binary = true → file.additions = none ∧ file.deletions = none)
    (homitted : file.patch = none → file.patchBytes = 0 ∧ file.patchSha256 = none ∧
      file.patchOmittedReason ≠ none)
    (hshown : file.patch ≠ none → file.patchOmittedReason = none) : file.validate = .ok file := by
  have hadditions' : ¬file.additions.any fun n => decide (n < 0) := by
    cases hsome : file.additions with
    | none => simp
    | some n => simpa using hadditions n hsome
  have hdeletions' : ¬file.deletions.any fun n => decide (n < 0) := by
    cases hsome : file.deletions with
    | none => simp
    | some n => simpa using hdeletions n hsome
  have hbinary' : ¬(file.binary ∧ (file.additions ≠ none ∨ file.deletions ≠ none)) := by
    rintro ⟨hfile, h | h⟩
    · exact h (hbinary hfile).1
    · exact h (hbinary hfile).2
  rw [CommitDiffFile.validate, raiseIf_of_not hpath, raiseIf_of_not hadditions',
    raiseIf_of_not hdeletions', raiseIf_of_not hbinary']
  by_cases hpatch : file.patch = none
  · obtain ⟨hbytes, hsha, hreason⟩ := homitted hpatch
    rw [if_pos hpatch, raiseIf_of_not (by simp [hbytes, hsha]), raiseIf_of_not hreason]
    rfl
  · rw [if_neg hpatch, raiseIf_of_not (not_not.2 (hshown hpatch))]
    rfl

theorem NonNegative.additions (h : NonNegative counts) : ∀ n ∈ counts.map Prod.fst, 0 ≤ n := by
  intro n hn
  obtain ⟨lines, hlines, rfl⟩ := Option.mem_map.1 hn
  exact (h lines hlines).1

theorem NonNegative.deletions (h : NonNegative counts) : ∀ n ∈ counts.map Prod.snd, 0 ≤ n := by
  intro n hn
  obtain ⟨lines, hlines, rfl⟩ := Option.mem_map.1 hn
  exact (h lines hlines).2

theorem binary_counts (h : counts.isNone = true) :
    counts.map Prod.fst = none ∧ counts.map Prod.snd = none := by
  rw [Option.isNone_iff_eq_none] at h
  rw [h]
  exact ⟨rfl, rfl⟩

theorem validate_omittedFile {reason : CommitDiffOmissionReason} {truncated : Bool}
    (hpath : path ≠ "") (h : NonNegative counts) :
    (omittedFile path status counts reason truncated).validate =
      .ok (omittedFile path status counts reason truncated) :=
  validate_eq_ok hpath h.additions h.deletions binary_counts
    (fun _ => ⟨rfl, rfl, Option.some_ne_none reason⟩) fun hne => absurd rfl hne

theorem validate_shownFile {full : List UInt8} {allowed : ℕ} (hpath : path ≠ "")
    (h : NonNegative counts) :
    (shownFile path status counts full allowed).validate =
      .ok (shownFile path status counts full allowed) :=
  validate_eq_ok hpath h.additions h.deletions binary_counts
    (fun hnone => absurd hnone (Option.some_ne_none _)) fun _ => rfl

section commands

variable {failure : Failure}

theorem runText_error {arguments : List String} {check : Bool}
    (h : reader.runText arguments check = .error failure) : failure.kind = .runtimeError := by
  unfold runText at h
  split at h
  · obtain rfl := Except.error.inj h
    rfl
  · obtain rfl := Except.error.inj h
    rfl
  · split_ifs at h
    obtain rfl := Except.error.inj h
    rfl

theorem gitText_error {arguments : List String} {check : Bool}
    (h : reader.gitText arguments check = .error failure) : failure.kind = .runtimeError := by
  rw [gitText, bind_eq_error] at h
  rcases h with h | ⟨_, -, h⟩
  · exact runText_error h
  · cases h

theorem fullPatch_error (h : reader.fullPatch base head path = .error failure) :
    failure.kind = .runtimeError := by
  unfold fullPatch gitBytes at h
  split at h
  · obtain rfl := Except.error.inj h
    rfl
  · obtain rfl := Except.error.inj h
    rfl
  · split_ifs at h
    obtain rfl := Except.error.inj h
    rfl

theorem resolveCommit_error {commit : String} (h : reader.resolveCommit commit = .error failure) :
    failure.kind = .runtimeError := by
  simp only [resolveCommit, bind_eq_error, raiseIf_eq_error] at h
  rcases h with ⟨-, rfl⟩ | ⟨_, -, h | ⟨_, -, ⟨-, rfl⟩ | ⟨_, -, h⟩⟩⟩
  · rfl
  · exact gitText_error h
  · rfl
  · cases h

theorem readStatuses_error {result : List (String × CommitDiffFileStatus)}
    {tokens : List (List Char)} (h : readStatuses result tokens = .error failure) :
    failure.kind = .runtimeError := by
  induction result, tokens using readStatuses.induct with
  | case1 result rawStatus path tokens hnone =>
    rw [readStatuses, hnone] at h
    obtain rfl := Except.error.inj h
    rfl
  | case2 result rawStatus path tokens status hstatus hinvalid =>
    rw [readStatuses, hstatus] at h
    dsimp only at h
    rw [if_pos hinvalid] at h
    obtain rfl := Except.error.inj h
    rfl
  | case3 result rawStatus path tokens status hstatus hinvalid hduplicate =>
    rw [readStatuses, hstatus] at h
    dsimp only at h
    rw [if_neg hinvalid, if_pos hduplicate] at h
    obtain rfl := Except.error.inj h
    rfl
  | case4 result rawStatus path tokens status hstatus hinvalid hduplicate ih =>
    rw [readStatuses, hstatus] at h
    dsimp only at h
    rw [if_neg hinvalid, if_neg hduplicate] at h
    exact ih h
  | case5 result tokens hshort =>
    rw [readStatuses] at h
    · cases h
    · exact hshort

/-- The keys of a dictionary that `_name_status` returns are distinct paths. -/
theorem readStatuses_keys {result statuses : List (String × CommitDiffFileStatus)}
    {tokens : List (List Char)} (h : readStatuses result tokens = .ok statuses)
    (hnodup : (result.map Prod.fst).Nodup) (hpaths : "" ∉ result.map Prod.fst) :
    (statuses.map Prod.fst).Nodup ∧ "" ∉ statuses.map Prod.fst := by
  induction result, tokens using readStatuses.induct with
  | case1 result rawStatus path tokens hnone =>
    rw [readStatuses, hnone] at h
    cases h
  | case2 result rawStatus path tokens status hstatus hinvalid =>
    rw [readStatuses, hstatus] at h
    dsimp only at h
    rw [if_pos hinvalid] at h
    cases h
  | case3 result rawStatus path tokens status hstatus hinvalid hduplicate =>
    rw [readStatuses, hstatus] at h
    dsimp only at h
    rw [if_neg hinvalid, if_pos hduplicate] at h
    cases h
  | case4 result rawStatus path tokens status hstatus hinvalid hduplicate ih =>
    rw [readStatuses, hstatus] at h
    dsimp only at h
    rw [if_neg hinvalid, if_neg hduplicate] at h
    have hne : String.ofList path ≠ "" := by
      intro hempty
      have hnil : path = [] := by simpa using congrArg String.toList hempty
      exact hinvalid (by simp [isInvalidPath, hnil])
    refine ih h ?_ ?_
    · rw [List.map_append, List.nodup_append]
      refine ⟨hnodup, List.nodup_singleton _, ?_⟩
      rintro other hother _ hmem rfl
      obtain rfl : other = String.ofList path := List.mem_singleton.1 hmem
      exact hduplicate hother
    · rw [List.map_append, List.mem_append, not_or]
      exact ⟨hpaths, fun hmem => hne (List.mem_singleton.1 hmem).symm⟩
  | case5 result tokens hshort =>
    rw [readStatuses] at h
    · rw [← Except.ok.inj h]
      exact ⟨hnodup, hpaths⟩
    · exact hshort

theorem nameStatus_error (h : reader.nameStatus base head = .error failure) :
    failure.kind = .runtimeError := by
  simp only [nameStatus, bind_eq_error, raiseIf_eq_error] at h
  rcases h with h | ⟨_, -, ⟨-, rfl⟩ | ⟨_, -, h⟩⟩
  · exact gitText_error h
  · rfl
  · exact readStatuses_error h

theorem nameStatus_keys {statuses : List (String × CommitDiffFileStatus)}
    (h : reader.nameStatus base head = .ok statuses) :
    (statuses.map Prod.fst).Nodup ∧ "" ∉ statuses.map Prod.fst := by
  simp only [nameStatus, bind_eq_ok] at h
  obtain ⟨_, -, _, -, h⟩ := h
  exact readStatuses_keys h List.nodup_nil List.not_mem_nil

theorem readCounts_error {int : List Char → Option ℤ} {result : List (String × LineCounts)}
    {tokens : List (List Char)} (h : readCounts int result tokens = .error failure) :
    failure.kind = .runtimeError := by
  induction tokens generalizing result with
  | nil => cases h
  | cons record rest ih =>
    rw [readCounts] at h
    split at h
    · obtain rfl := Except.error.inj h
      rfl
    · split_ifs at h
      · obtain rfl := Except.error.inj h
        rfl
      · exact ih h
      · split at h
        · exact ih h
        · obtain rfl := Except.error.inj h
          rfl

theorem numstat_error (h : reader.numstat base head = .error failure) :
    failure.kind = .runtimeError := by
  rw [numstat, bind_eq_error] at h
  rcases h with h | ⟨_, -, h⟩
  · exact gitText_error h
  · exact readCounts_error h

theorem blobSize_error {commit : String} (h : reader.blobSize commit path = .error failure) :
    failure.kind = .runtimeError := by
  rw [blobSize, bind_eq_error] at h
  rcases h with h | ⟨_, -, h⟩
  · exact runText_error h
  · split_ifs at h
    · cases h
    · split at h
      · obtain rfl := Except.error.inj h
        rfl
      · cases h

theorem blobTooLarge_error (h : reader.blobTooLarge base head path = .error failure) :
    failure.kind = .runtimeError := by
  simp only [blobTooLarge, bind_eq_error] at h
  rcases h with h | ⟨_, -, h | ⟨_, -, h⟩⟩
  · exact blobSize_error h
  · exact blobSize_error h
  · cases h

/-- A file with counts that a record can hold is refused by Git only. -/
theorem renderFile_error (hpath : path ≠ "") (hcounts : NonNegative counts)
    (h : reader.renderFile base head remaining path status counts = .error failure) :
    failure.kind = .runtimeError := by
  unfold renderFile at h
  split_ifs at h
  · rw [validate_omittedFile hpath hcounts] at h
    cases h
  · rw [validate_omittedFile hpath hcounts] at h
    cases h
  · rw [bind_eq_error] at h
    rcases h with h | ⟨tooLarge, -, h⟩
    · exact blobTooLarge_error h
    · split_ifs at h
      · rw [validate_omittedFile hpath hcounts] at h
        cases h
      · rw [bind_eq_error] at h
        rcases h with h | ⟨full, -, h⟩
        · exact fullPatch_error h
        · rw [validate_shownFile hpath hcounts] at h
          cases h

theorem exists_lookup {α : Type*} {entries : List (String × α)} {key : String}
    (h : key ∈ entries.map Prod.fst) : ∃ value, entries.lookup key = some value := by
  obtain ⟨entry, hentry, hkey⟩ := List.mem_map.1 h
  exact Option.isSome_iff_exists.1 (List.lookup_isSome_iff.2
    ⟨entry, hentry, beq_iff_eq.2 hkey.symm⟩)

theorem mem_of_lookup {α : Type*} {entries : List (String × α)} {key : String} {value : α}
    (h : entries.lookup key = some value) : (key, value) ∈ entries := by
  obtain ⟨before, after, rfl, -⟩ := List.lookup_eq_some_iff.1 h
  exact List.mem_append_right before (List.mem_cons_self)

/-- Paths that both listings know are rendered, unless Git fails. -/
theorem renderFiles_error {statuses : List (String × CommitDiffFileStatus)}
    {numstats : List (String × LineCounts)} {paths : List String}
    (hpaths : ∀ path ∈ paths, path ≠ "" ∧ path ∈ statuses.map Prod.fst ∧
      path ∈ numstats.map Prod.fst)
    (hcounts : ∀ entry ∈ numstats, NonNegative entry.2)
    (h : reader.renderFiles base head statuses numstats remaining paths = .error failure) :
    failure.kind = .runtimeError := by
  induction paths generalizing remaining with
  | nil => cases h
  | cons path paths ih =>
    obtain ⟨⟨hne, hstatus, hcount⟩, hpaths⟩ := List.forall_mem_cons.1 hpaths
    obtain ⟨status, hstatus⟩ := exists_lookup hstatus
    obtain ⟨counts, hcount⟩ := exists_lookup hcount
    rw [renderFiles, hstatus, hcount] at h
    simp only [bind_eq_error] at h
    rcases h with h | ⟨_, -, h | ⟨_, -, h⟩⟩
    · exact renderFile_error hne (hcounts _ (mem_of_lookup hcount)) h
    · exact ih hpaths h
    · cases h

/-- The sum of counts that a record can hold can be held by one. -/
theorem totalOf_nonneg {numstats : List (String × LineCounts)} {count : ℤ × ℤ → ℤ}
    (h : ∀ entry ∈ numstats, ∀ lines ∈ entry.2, 0 ≤ count lines) : 0 ≤ totalOf count numstats := by
  have hfold : ∀ total : ℤ, 0 ≤ total → 0 ≤ numstats.foldl
      (fun total entry => total + (entry.2.map count).getD 0) total := by
    induction numstats with
    | nil => exact fun total htotal => htotal
    | cons entry rest ih =>
      intro total htotal
      rw [List.forall_mem_cons] at h
      refine ih h.2 _ (Int.add_nonneg htotal ?_)
      cases hlines : entry.2 with
      | none => exact le_refl 0
      | some lines => exact h.1 lines hlines
  exact hfold 0 (le_refl 0)

theorem isOid_of_resolveCommit {commit resolved : String}
    (h : reader.resolveCommit commit = .ok resolved) : isOid resolved = true := by
  obtain rfl := resolveCommit_eq_ok h
  simp only [resolveCommit, bind_eq_ok, raiseIf_eq_ok] at h
  obtain ⟨_, hoid, -⟩ := h
  simpa using hoid

/-- The last step of `read` succeeds. -/
theorem exists_validate {statuses : List (String × CommitDiffFileStatus)}
    {numstats : List (String × LineCounts)} {rendered : List CommitDiffFile}
    (hbase : isOid base = true) (hhead : isOid head = true)
    (hnonneg : ∀ entry ∈ numstats, NonNegative entry.2)
    (hrendered : reader.renderFiles base head statuses numstats remaining
      (((statuses.map Prod.fst).insertionSort (· ≤ ·)).take reader.maxFiles) = .ok rendered) :
    ∃ snapshot, CommitDiffSnapshot.validate {
      baseCommit := base
      headCommit := head
      changedFileCount := ((statuses.map Prod.fst).insertionSort (· ≤ ·)).length
      additions := totalOf Prod.fst numstats
      deletions := totalOf Prod.snd numstats
      files := rendered
      omittedFileCount := ((statuses.map Prod.fst).insertionSort (· ≤ ·)).length -
        (((statuses.map Prod.fst).insertionSort (· ≤ ·)).take reader.maxFiles).length
      patchBytes := (rendered.map CommitDiffFile.patchBytes).sum
      truncated := decide (0 < ((statuses.map Prod.fst).insertionSort (· ≤ ·)).length -
          (((statuses.map Prod.fst).insertionSort (· ≤ ·)).take reader.maxFiles).length) ||
        rendered.any CommitDiffFile.patchTruncated } = .ok snapshot := by
  have hlength := congrArg List.length (renderFiles_eq_ok hrendered).1
  rw [List.length_map] at hlength
  have hadditions := totalOf_nonneg fun entry hentry lines hlines =>
    (hnonneg entry hentry lines hlines).1
  have hdeletions := totalOf_nonneg fun entry hentry lines hlines =>
    (hnonneg entry hentry lines hlines).2
  have hcount := (Nat.add_sub_of_le (List.length_take_le' reader.maxFiles
    ((statuses.map Prod.fst).insertionSort (· ≤ ·)))).symm
  nth_rewrite 1 [← hlength] at hcount
  exact ⟨_, validate_snapshot hbase hhead hadditions hdeletions hcount rfl⟩

/-- **What is raised is `CommitDiffError`**, unless Git counted a negative number of
lines. -/
theorem read_error {baseCommit headCommit : String}
    (h : reader.read baseCommit headCommit = .error failure)
    (hcounts : ∀ numstats, reader.numstat baseCommit headCommit = .ok numstats →
      ∀ entry ∈ numstats, NonNegative entry.2) : failure.kind = .runtimeError := by
  simp only [read, bind_eq_error, raiseIf_eq_error] at h
  rcases h with h | ⟨base, hbase, h⟩
  · exact resolveCommit_error h
  rcases h with h | ⟨head, hhead, h⟩
  · exact resolveCommit_error h
  have hbaseOid := isOid_of_resolveCommit hbase
  have hheadOid := isOid_of_resolveCommit hhead
  obtain rfl := resolveCommit_eq_ok hbase
  obtain rfl := resolveCommit_eq_ok hhead
  rcases h with h | ⟨statuses, hstatuses, h⟩
  · exact nameStatus_error h
  rcases h with h | ⟨numstats, hnumstats, h⟩
  · exact numstat_error h
  rcases h with ⟨-, rfl⟩ | ⟨_, hagree, h⟩
  · rfl
  have hnonneg := hcounts numstats hnumstats
  obtain ⟨-, hnonempty⟩ := nameStatus_keys hstatuses
  rcases h with h | ⟨rendered, hrendered, h⟩
  · refine renderFiles_error (fun path hpath => ?_) hnonneg h
    have hmem : path ∈ statuses.map Prod.fst :=
      (List.mem_insertionSort _).1 (List.mem_of_mem_take hpath)
    refine ⟨fun hempty => hnonempty (hempty ▸ hmem), hmem, ?_⟩
    simp only [raiseIf_eq_ok, not_or, Bool.not_eq_false, List.all_eq_true, List.contains_iff_mem]
      at hagree
    exact hagree.1 path hmem
  · obtain ⟨snapshot, hsnapshot⟩ := exists_validate hbaseOid hheadOid hnonneg hrendered
    rw [hsnapshot] at h
    cases h

/-- What a call of `read` ends with. -/
inductive Outcome (reader : CommitDiffReader) (baseCommit headCommit : String) :
    Except Failure CommitDiffSnapshot → Prop
  | snapshot {snapshot : CommitDiffSnapshot} {statuses : List (String × CommitDiffFileStatus)}
      {numstats : List (String × LineCounts)}
      (hbase : snapshot.baseCommit = baseCommit) (hhead : snapshot.headCommit = headCommit)
      (hstatuses : reader.nameStatus baseCommit headCommit = .ok statuses)
      (hnumstats : reader.numstat baseCommit headCommit = .ok numstats)
      (accounts : Accounts reader statuses numstats snapshot) :
      Outcome reader baseCommit headCommit (.ok snapshot)
  | raised {failure : Failure} (hkind : failure.kind = .runtimeError) :
      Outcome reader baseCommit headCommit (.error failure)
  | negative {failure : Failure} {numstats : List (String × LineCounts)}
      {entry : String × LineCounts}
      (hnumstats : reader.numstat baseCommit headCommit = .ok numstats)
      (hentry : entry ∈ numstats) (hnegative : ¬NonNegative entry.2) :
      Outcome reader baseCommit headCommit (.error failure)

/-- **A call lists every change within its bounds, or raises.** -/
theorem read_outcome (reader : CommitDiffReader) (baseCommit headCommit : String) :
    Outcome reader baseCommit headCommit (reader.read baseCommit headCommit) := by
  cases hread : reader.read baseCommit headCommit with
  | ok snapshot =>
    obtain ⟨hbase, hhead, statuses, numstats, hstatuses, hnumstats, haccounts⟩ :=
      read_accounts hread
    exact .snapshot hbase hhead hstatuses hnumstats haccounts
  | error failure =>
    by_cases hcounts : ∀ numstats, reader.numstat baseCommit headCommit = .ok numstats →
        ∀ entry ∈ numstats, NonNegative entry.2
    · exact .raised (read_error hread hcounts)
    · push Not at hcounts
      obtain ⟨numstats, hnumstats, entry, hentry, hnegative⟩ := hcounts
      exact .negative hnumstats hentry hnegative

end commands

end CommitDiffReader

end DevFlow
