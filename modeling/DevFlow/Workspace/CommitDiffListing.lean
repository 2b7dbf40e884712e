/-
# Reading the listings of a diff

What `git diff -z` writes for the files that differ between two commits, and what
`_name_status` and `_numstat` of `workspace/diff.py` read of it.  The bytes of a path
are decoded with replacement characters and its line ends become newlines, so two
files can come out under one name; `read_listing` says that this and the name `.git`
are all that a reader refuses, and that what it accepts is the listing.
-/

import DevFlow.Library.Numerals
import DevFlow.Workspace.ChangedFiles
import DevFlow.Workspace.CommitDiffBounds

namespace DevFlow

open Raising

/-- The letter of a status. -/
def CommitDiffFileStatus.letter : CommitDiffFileStatus → Char
  | .added => 'A'
  | .modified => 'M'
  | .deleted => 'D'
  | .typeChanged => 'T'

/-- A file that differs between two commits, with its line counts when it is a text. -/
structure DiffEntry where
  name : GitName
  status : CommitDiffFileStatus
  counts : Option (ℕ × ℕ)

namespace DiffEntry

/-- The name as the reader sees it. -/
def seen (entry : DiffEntry) : List Char :=
  decodeOutput entry.name.bytes

/-- A line count, as it is written. -/
def numeral (entry : DiffEntry) (count : ℕ × ℕ → ℕ) : List Char :=
  (entry.counts.map fun lines => Nat.toDigits 10 (count lines)).getD ['-']

/-- `git diff --name-status -z`. -/
def nameStatusOutput (entries : List DiffEntry) : List UInt8 :=
  entries.flatMap fun entry => Utf8.encode [entry.status.letter] ++
    (Utf8.encode ['\x00'] ++ (entry.name.bytes ++ Utf8.encode ['\x00']))

/-- `git diff --numstat -z`. -/
def numstatOutput (entries : List DiffEntry) : List UInt8 :=
  entries.flatMap fun entry => Utf8.encode (entry.numeral Prod.fst) ++ (Utf8.encode ['\t'] ++
    (Utf8.encode (entry.numeral Prod.snd) ++ (Utf8.encode ['\t'] ++
      (entry.name.bytes ++ Utf8.encode ['\x00']))))

/-- The item of a file in the dictionary of `_name_status`. -/
def statusItem (entry : DiffEntry) : String × CommitDiffFileStatus :=
  (String.ofList entry.seen, entry.status)

/-- The item of a file in the dictionary of `_numstat`. -/
def countsItem (entry : DiffEntry) : String × CommitDiffReader.LineCounts :=
  (String.ofList entry.seen, entry.counts.map fun lines => ((lines.1 : ℤ), (lines.2 : ℤ)))

/-- The names that a reader tells apart and accepts. -/
def Readable (entries : List DiffEntry) : Prop :=
  (entries.map seen).Nodup ∧ ∀ entry ∈ entries, CommitDiffReader.isInvalidPath entry.seen = false

end DiffEntry

/-! ### Decoding -/

namespace CommitDiffReader

theorem decodeOutput_append_cons {c : Char} (hc : c.toNat < 128) (hr : c ≠ '\r') (hn : c ≠ '\n')
    (front back : List UInt8) :
    decodeOutput (front ++ (Utf8.encode [c] ++ back)) =
      decodeOutput front ++ c :: decodeOutput back := by
  rw [decodeOutput, Utf8.decodeReplace_append_cons hc, Lines.universalNewlines_append_cons hr hn]
  rfl

theorem decodeOutput_encode {text : List Char} (h : '\r' ∉ text) :
    decodeOutput (Utf8.encode text) = text := by
  rw [decodeOutput, Utf8.decodeReplace_encode, Lines.universalNewlines_of_not_mem h]

theorem records_decodeOutput_nil : records (decodeOutput []) = [] := by
  have hnil : decodeOutput [] = [] := decodeOutput_encode List.not_mem_nil
  rw [hnil]
  decide

theorem records_cons {first rest : List Char} (hne : first ≠ []) (hzero : '\x00' ∉ first) :
    records (first ++ '\x00' :: rest) = first :: records rest := by
  rw [records, List.splitOn_append_cons_self_of_not_mem hzero,
    List.filter_cons_of_pos (by simpa using hne)]
  rfl

end CommitDiffReader

namespace DiffEntry

open CommitDiffReader

variable {entry : DiffEntry} {entries : List DiffEntry}

/-- A name without the zero is decoded to one without it. -/
theorem zero_not_mem_seen (entry : DiffEntry) : '\x00' ∉ entry.seen := by
  refine zero_not_mem_universalNewlines fun hmem => ?_
  obtain ⟨piece, hpiece, hchar⟩ := List.mem_map.1 hmem
  cases piece with
  | character c =>
    obtain rfl : c = '\x00' := hchar
    have hbytes := Utf8.flatMap_bytes_pieces entry.name.bytes
    refine entry.name.noZero (hbytes ▸ List.mem_flatMap.2 ⟨_, hpiece, ?_⟩)
    decide
  | invalid bytes =>
    have hreplaced : '\uFFFD' = '\x00' := hchar
    exact absurd hreplaced (by decide)

theorem seen_ne_nil (entry : DiffEntry) : entry.seen ≠ [] := by
  intro hnil
  rw [seen, decodeOutput, Lines.universalNewlines_eq_nil_iff, Utf8.decodeReplace,
    List.map_eq_nil_iff] at hnil
  have hbytes := Utf8.flatMap_bytes_pieces entry.name.bytes
  rw [hnil] at hbytes
  exact entry.name.nonempty hbytes.symm

theorem mem_numeral {count : ℕ × ℕ → ℕ} {c : Char} (h : c ∈ entry.numeral count) :
    c.isDigit = true ∨ c = '-' := by
  unfold numeral at h
  cases hcounts : entry.counts with
  | none =>
    rw [hcounts] at h
    exact .inr (List.mem_singleton.1 h)
  | some lines =>
    rw [hcounts] at h
    exact .inl (Nat.isDigit_of_mem_toDigits (by decide) (by decide) h)

theorem not_mem_numeral {count : ℕ × ℕ → ℕ} {c : Char} (hdigit : c.isDigit = false)
    (hdash : c ≠ '-') : c ∉ entry.numeral count := by
  intro hmem
  rcases mem_numeral hmem with h | h
  · rw [hdigit] at h
    exact Bool.false_ne_true h
  · exact hdash h

theorem numeral_ne_nil (entry : DiffEntry) (count : ℕ × ℕ → ℕ) : entry.numeral count ≠ [] := by
  unfold numeral
  cases entry.counts with
  | none => exact List.cons_ne_nil _ _
  | some lines => exact Nat.toDigits_ne_nil

/-- The line of a file in the listing with `--numstat`. -/
def line (entry : DiffEntry) : List Char :=
  entry.numeral Prod.fst ++ '\t' :: (entry.numeral Prod.snd ++ '\t' :: entry.seen)

theorem zero_not_mem_line (entry : DiffEntry) : '\x00' ∉ entry.line := by
  simp only [line, List.mem_append, List.mem_cons, not_or]
  exact ⟨not_mem_numeral rfl (by decide), by decide, not_mem_numeral rfl (by decide), by decide,
    zero_not_mem_seen entry⟩

theorem line_ne_nil (entry : DiffEntry) : entry.line ≠ [] := by
  intro hnil
  exact numeral_ne_nil entry Prod.fst (List.append_eq_nil_iff.1 hnil).1

/-- The words of the listing with `--name-status`. -/
theorem records_nameStatusOutput (entries : List DiffEntry) :
    records (decodeOutput (nameStatusOutput entries)) =
      entries.flatMap fun entry => [[entry.status.letter], entry.seen] := by
  induction entries with
  | nil => exact records_decodeOutput_nil
  | cons entry entries ih =>
    have hletter : '\x00' ∉ [entry.status.letter] ∧ '\r' ∉ [entry.status.letter] := by
      cases entry.status <;> decide
    have houtput : nameStatusOutput (entry :: entries) = Utf8.encode [entry.status.letter] ++
        (Utf8.encode ['\x00'] ++ (entry.name.bytes ++ (Utf8.encode ['\x00'] ++
          nameStatusOutput entries))) := by
      simp only [nameStatusOutput, List.flatMap_cons, List.append_assoc]
    rw [houtput, decodeOutput_append_cons (by decide) (by decide) (by decide),
      decodeOutput_append_cons (by decide) (by decide) (by decide),
      decodeOutput_encode hletter.2, records_cons (List.cons_ne_nil _ _) hletter.1]
    rw [← seen, records_cons (seen_ne_nil entry) (zero_not_mem_seen entry), ih]
    rfl

/-- The lines of the listing with `--numstat`. -/
theorem records_numstatOutput (entries : List DiffEntry) :
    records (decodeOutput (numstatOutput entries)) = entries.map line := by
  induction entries with
  | nil => exact records_decodeOutput_nil
  | cons entry entries ih =>
    have houtput : numstatOutput (entry :: entries) = Utf8.encode (entry.numeral Prod.fst) ++
        (Utf8.encode ['\t'] ++ (Utf8.encode (entry.numeral Prod.snd) ++ (Utf8.encode ['\t'] ++
          (entry.name.bytes ++ (Utf8.encode ['\x00'] ++ numstatOutput entries))))) := by
      simp only [numstatOutput, List.flatMap_cons, List.append_assoc]
    have hdecoded : decodeOutput (numstatOutput (entry :: entries)) =
        entry.line ++ '\x00' :: decodeOutput (numstatOutput entries) := by
      rw [houtput, decodeOutput_append_cons (by decide) (by decide) (by decide),
        decodeOutput_append_cons (by decide) (by decide) (by decide),
        decodeOutput_append_cons (by decide) (by decide) (by decide),
        decodeOutput_encode (not_mem_numeral rfl (by decide)),
        decodeOutput_encode (not_mem_numeral rfl (by decide)), line, seen]
      simp only [List.append_assoc, List.cons_append]
    rw [hdecoded, records_cons (line_ne_nil entry) (zero_not_mem_line entry), ih, List.map_cons]

/-! ### The dictionaries -/

theorem statusMapping_letter (status : CommitDiffFileStatus) :
    statusMapping [status.letter] = some status := by
  cases status <;> rfl

theorem readStatuses_cons {result : List (String × CommitDiffFileStatus)}
    {tokens : List (List Char)} :
    readStatuses result ([entry.status.letter] :: entry.seen :: tokens) =
      if isInvalidPath entry.seen then
        .error (commitDiffError "Git diff returned an invalid repository path")
      else if entry.statusItem.1 ∈ result.map Prod.fst then
        .error (commitDiffError "Git diff returned a duplicate repository path")
      else readStatuses (result ++ [entry.statusItem]) tokens := by
  rw [readStatuses, statusMapping_letter]
  rfl

/-- **The loop of `_name_status`** goes through when no name is refused or met twice. -/
theorem readStatuses_eq_ok_iff {result statuses : List (String × CommitDiffFileStatus)}
    (hnodup : (result.map Prod.fst).Nodup) :
    readStatuses result (entries.flatMap fun entry => [[entry.status.letter], entry.seen]) =
        .ok statuses ↔
      ((result ++ entries.map statusItem).map Prod.fst).Nodup ∧
        (∀ entry ∈ entries, isInvalidPath entry.seen = false) ∧
        statuses = result ++ entries.map statusItem := by
  induction entries generalizing result with
  | nil =>
    rw [List.flatMap_nil, readStatuses, List.map_nil, List.append_nil]
    · constructor
      · intro h
        exact ⟨hnodup, List.forall_mem_nil _, (Except.ok.inj h).symm⟩
      · rintro ⟨-, -, rfl⟩
        rfl
    · intro _ _ _ hcons
      cases hcons
  | cons entry entries ih =>
    rw [List.flatMap_cons, List.cons_append, List.cons_append, List.nil_append, readStatuses_cons,
      List.forall_mem_cons]
    by_cases hinvalid : isInvalidPath entry.seen = true
    · rw [if_pos hinvalid]
      constructor
      · intro h
        cases h
      · rintro ⟨-, ⟨hvalid, -⟩, -⟩
        rw [hinvalid] at hvalid
        cases hvalid
    · rw [if_neg hinvalid]
      have happend : result ++ (entry :: entries).map statusItem =
          result ++ [entry.statusItem] ++ entries.map statusItem := by
        rw [List.map_cons, List.append_assoc, List.singleton_append]
      rw [happend]
      by_cases hmem : entry.statusItem.1 ∈ result.map Prod.fst
      · rw [if_pos hmem]
        constructor
        · intro h
          cases h
        · rintro ⟨hall, -, -⟩
          rw [List.map_append, List.nodup_append, List.map_append, List.nodup_append] at hall
          exact absurd rfl (hall.1.2.2 _ hmem _ (List.mem_singleton_self _))
      · have hkeys : ((result ++ [entry.statusItem]).map Prod.fst).Nodup := by
          rw [List.map_append, List.nodup_append]
          refine ⟨hnodup, List.nodup_singleton _, ?_⟩
          rintro key hkey _ hsingle rfl
          rw [List.map_singleton, List.mem_singleton] at hsingle
          exact hmem (hsingle ▸ hkey)
        rw [if_neg hmem, ih hkeys, and_iff_right (Bool.eq_false_iff.2 hinvalid)]

theorem splitRecord_line (entry : DiffEntry) :
    splitRecord entry.line = some (entry.numeral Prod.fst, entry.numeral Prod.snd, entry.seen) := by
  have htab : ∀ count, ∀ c ∈ entry.numeral count, decide (c ≠ '\t') = true := by
    intro count c hc
    refine decide_eq_true ?_
    rintro rfl
    exact not_mem_numeral rfl (by decide) hc
  rw [splitRecord, line, List.takeWhile_append_of_pos (htab _), List.dropWhile_append_of_pos (htab _),
    List.takeWhile_cons_of_neg (by simp), List.dropWhile_cons_of_neg (by simp), List.append_nil]
  dsimp only
  rw [List.takeWhile_append_of_pos (htab _), List.dropWhile_append_of_pos (htab _),
    List.takeWhile_cons_of_neg (by simp), List.dropWhile_cons_of_neg (by simp), List.append_nil]

/-- The numerals of the listing are read as the numbers they write. -/
def Numbers (int : List Char → Option ℤ) (entries : List DiffEntry) : Prop :=
  ∀ entry ∈ entries, ∀ lines ∈ entry.counts,
    int (Nat.toDigits 10 lines.1) = some (lines.1 : ℤ) ∧
    int (Nat.toDigits 10 lines.2) = some (lines.2 : ℤ)

theorem toDigits_ne_dash (n : ℕ) : Nat.toDigits 10 n ≠ ['-'] := by
  intro heq
  have hdigit : '-'.isDigit = true :=
    Nat.isDigit_of_mem_toDigits (by decide) (by decide) (heq ▸ List.mem_singleton_self '-')
  exact absurd hdigit (by decide)

theorem readCounts_cons {int : List Char → Option ℤ} {result : List (String × LineCounts)}
    {tokens : List (List Char)}
    (hnumbers : ∀ lines ∈ entry.counts, int (Nat.toDigits 10 lines.1) = some (lines.1 : ℤ) ∧
      int (Nat.toDigits 10 lines.2) = some (lines.2 : ℤ))
    (hnew : String.ofList entry.seen ∉ result.map Prod.fst) :
    readCounts int result (entry.line :: tokens) =
      readCounts int (result ++ [entry.countsItem]) tokens := by
  rw [readCounts, splitRecord_line]
  dsimp only
  rw [if_neg hnew]
  cases hcounts : entry.counts with
  | none =>
    have hdash : ∀ count, entry.numeral count = ['-'] := by
      intro count
      rw [numeral, hcounts]
      rfl
    rw [if_pos ⟨hdash _, hdash _⟩, countsItem, hcounts]
    rfl
  | some lines =>
    have hdigits : ∀ count, entry.numeral count = Nat.toDigits 10 (count lines) := by
      intro count
      rw [numeral, hcounts]
      rfl
    obtain ⟨hadded, hdeleted⟩ := hnumbers lines hcounts
    rw [hdigits, hdigits, if_neg fun h => toDigits_ne_dash _ h.1, hadded, hdeleted, countsItem,
      hcounts]
    rfl

/-- **The loop of `_numstat`** reads the counts of names that differ. -/
theorem readCounts_eq_ok {int : List Char → Option ℤ} {result : List (String × LineCounts)}
    (hnumbers : Numbers int entries)
    (hnodup : ((result ++ entries.map countsItem).map Prod.fst).Nodup) :
    readCounts int result (entries.map line) = .ok (result ++ entries.map countsItem) := by
  induction entries generalizing result with
  | nil => rw [List.map_nil, readCounts, List.map_nil, List.append_nil]
  | cons entry entries ih =>
    rw [Numbers, List.forall_mem_cons] at hnumbers
    have happend : result ++ (entry :: entries).map countsItem =
        result ++ [entry.countsItem] ++ entries.map countsItem := by
      rw [List.map_cons, List.append_assoc, List.singleton_append]
    rw [happend] at hnodup ⊢
    have hnew : String.ofList entry.seen ∉ result.map Prod.fst := by
      intro hmem
      rw [List.map_append, List.nodup_append, List.map_append, List.nodup_append] at hnodup
      exact hnodup.1.2.2 _ hmem _ (List.mem_singleton_self _) rfl
    rw [List.map_cons, readCounts_cons hnumbers.1 hnew, ih hnumbers.2 hnodup]

theorem map_fst_statusItem (entries : List DiffEntry) :
    (entries.map statusItem).map Prod.fst = (entries.map seen).map String.ofList := by
  rw [List.map_map, List.map_map]
  rfl

theorem map_fst_countsItem (entries : List DiffEntry) :
    (entries.map countsItem).map Prod.fst = (entries.map seen).map String.ofList := by
  rw [List.map_map, List.map_map]
  rfl

theorem nodup_names (entries : List DiffEntry) :
    ((entries.map seen).map String.ofList).Nodup ↔ (entries.map seen).Nodup :=
  List.nodup_map_iff fun _ _ h => by simpa using congrArg String.toList h

end DiffEntry

/-! ### The reader -/

namespace CommitDiffReader

open DiffEntry

variable {reader : CommitDiffReader} {base head : String} {entries : List DiffEntry}

/-- Git answers for two commits as it does when `entries` is what differs between them:
the commits are there, the listings are the two outputs, and the sizes and the patches
are to be had. -/
structure Serves (reader : CommitDiffReader) (base head : String) (entries : List DiffEntry) :
    Prop where
  base_resolves : reader.resolveCommit base = .ok base
  head_resolves : reader.resolveCommit head = .ok head
  name_status : ∃ stderr, reader.git (diffArguments ["--name-status", "-z"] base head) =
    .completed 0 (nameStatusOutput entries) stderr
  numstat : ∃ stderr, reader.git (diffArguments ["--numstat", "-z"] base head) =
    .completed 0 (numstatOutput entries) stderr
  numbers : Numbers reader.int entries
  sizes : ∀ path, ∃ tooLarge, reader.blobTooLarge base head path = .ok tooLarge
  patches : ∀ path, ∃ full, reader.fullPatch base head path = .ok full

theorem runText_eq_ok {arguments : List String} {stdout : List UInt8} {check : Bool}
    (h : ∃ stderr, reader.git arguments = .completed 0 stdout stderr) :
    reader.runText arguments check = .ok (0, decodeOutput stdout) := by
  obtain ⟨stderr, hgit⟩ := h
  rw [runText, hgit]
  exact if_neg fun hcheck => hcheck.2 rfl

theorem gitText_eq_ok {arguments : List String} {stdout : List UInt8} {check : Bool}
    (h : ∃ stderr, reader.git arguments = .completed 0 stdout stderr) :
    reader.gitText arguments check = .ok (decodeOutput stdout) := by
  rw [gitText, runText_eq_ok h]
  rfl

theorem length_tokens (entries : List DiffEntry) :
    (entries.flatMap fun entry => [[entry.status.letter], entry.seen]).length % 2 = 0 := by
  induction entries with
  | nil => rfl
  | cons entry entries ih =>
    rw [List.flatMap_cons, List.length_append, List.length_cons, List.length_singleton]
    omega

namespace Serves

variable (serves : Serves reader base head entries)
include serves

theorem nameStatus_eq_ok_iff {statuses : List (String × CommitDiffFileStatus)} :
    reader.nameStatus base head = .ok statuses ↔
      Readable entries ∧ statuses = entries.map statusItem := by
  have hnone : (([] : List (String × CommitDiffFileStatus)).map Prod.fst).Nodup := List.nodup_nil
  rw [CommitDiffReader.nameStatus, gitText_eq_ok serves.name_status, ok_bind]
  dsimp only
  rw [records_nameStatusOutput, length_tokens, raiseIf_of_not (by decide), ok_bind,
    readStatuses_eq_ok_iff hnone, List.nil_append, map_fst_statusItem, nodup_names,
    Readable, and_assoc]

theorem numstat_eq_ok (h : Readable entries) :
    reader.numstat base head = .ok (entries.map countsItem) := by
  rw [CommitDiffReader.numstat, gitText_eq_ok serves.numstat, ok_bind, records_numstatOutput]
  refine readCounts_eq_ok serves.numbers ?_
  rw [List.nil_append, map_fst_countsItem, nodup_names]
  exact h.1

end Serves

theorem nonNegative_countsItem (entry : DiffEntry) : NonNegative entry.countsItem.2 := by
  intro lines hlines
  obtain ⟨counts, -, rfl⟩ := Option.mem_map.1 hlines
  exact ⟨Int.natCast_nonneg _, Int.natCast_nonneg _⟩

theorem exists_renderFile {remaining : ℕ} {path : String} {status : CommitDiffFileStatus}
    {counts : LineCounts} (serves : Serves reader base head entries) (hpath : path ≠ "")
    (hcounts : NonNegative counts) :
    ∃ file, reader.renderFile base head remaining path status counts = .ok file := by
  obtain ⟨tooLarge, hlarge⟩ := serves.sizes path
  obtain ⟨full, hfull⟩ := serves.patches path
  unfold renderFile
  split_ifs
  · exact ⟨_, validate_omittedFile hpath hcounts⟩
  · exact ⟨_, validate_omittedFile hpath hcounts⟩
  · rw [hlarge, ok_bind]
    split_ifs
    · exact ⟨_, validate_omittedFile hpath hcounts⟩
    · rw [hfull, ok_bind]
      exact ⟨_, validate_shownFile hpath hcounts⟩

theorem exists_renderFiles {remaining : ℕ} {paths : List String}
    (serves : Serves reader base head entries)
    (hpaths : ∀ path ∈ paths, path ≠ "" ∧ path ∈ (entries.map statusItem).map Prod.fst) :
    ∃ files, reader.renderFiles base head (entries.map statusItem) (entries.map countsItem)
      remaining paths = .ok files := by
  induction paths generalizing remaining with
  | nil => exact ⟨[], rfl⟩
  | cons path paths ih =>
    obtain ⟨⟨hne, hmem⟩, hpaths⟩ := List.forall_mem_cons.1 hpaths
    obtain ⟨status, hstatus⟩ := exists_lookup hmem
    rw [map_fst_statusItem, ← map_fst_countsItem] at hmem
    obtain ⟨counts, hcounts⟩ := exists_lookup hmem
    have hnonneg : NonNegative counts := by
      obtain ⟨entry, -, hentry⟩ := List.mem_map.1 (mem_of_lookup hcounts)
      obtain rfl : entry.countsItem.2 = counts := (Prod.ext_iff.1 hentry).2
      exact nonNegative_countsItem entry
    obtain ⟨file, hfile⟩ := @exists_renderFile _ _ _ _ remaining _ status _ serves hne hnonneg
    obtain ⟨files, hfiles⟩ := @ih (remaining - file.patchBytes) hpaths
    rw [renderFiles, hstatus, hcounts]
    dsimp only
    rw [hfile, ok_bind, hfiles]
    exact ⟨file :: files, rfl⟩

/-- The listing is read when its names are accepted and told apart. -/
theorem exists_read (serves : Serves reader base head entries) (h : Readable entries) :
    ∃ snapshot, reader.read base head = .ok snapshot := by
  have hstatuses := serves.nameStatus_eq_ok_iff.2 ⟨h, rfl⟩
  have hagree : ¬(((entries.map statusItem).map Prod.fst).all
        (fun path => ((entries.map countsItem).map Prod.fst).contains path) = false ∨
      ((entries.map countsItem).map Prod.fst).all
        (fun path => ((entries.map statusItem).map Prod.fst).contains path) = false) := by
    have hself : ∀ names : List String, names.all (fun path => names.contains path) = true := by
      intro names
      rw [List.all_eq_true]
      exact fun path hpath => List.contains_iff_mem.2 hpath
    rw [map_fst_statusItem, map_fst_countsItem, hself]
    simp
  obtain ⟨files, hfiles⟩ := @exists_renderFiles _ _ _ _ reader.maxTotalPatchBytes
    ((((entries.map statusItem).map Prod.fst).insertionSort (· ≤ ·)).take reader.maxFiles) serves (by
      intro path hpath
      have hmem := (List.mem_insertionSort _).1 (List.mem_of_mem_take hpath)
      exact ⟨fun hempty => (nameStatus_keys hstatuses).2 (hempty ▸ hmem), hmem⟩)
  have hnonneg : ∀ item ∈ entries.map countsItem, NonNegative item.2 := by
    intro item hitem
    obtain ⟨entry, -, rfl⟩ := List.mem_map.1 hitem
    exact nonNegative_countsItem entry
  obtain ⟨snapshot, hsnapshot⟩ := exists_validate (isOid_of_resolveCommit serves.base_resolves)
    (isOid_of_resolveCommit serves.head_resolves) hnonneg hfiles
  refine ⟨snapshot, ?_⟩
  rw [read, serves.base_resolves, ok_bind, serves.head_resolves, ok_bind, hstatuses, ok_bind,
    serves.numstat_eq_ok h, ok_bind]
  dsimp only
  rw [raiseIf_of_not hagree, ok_bind, hfiles, ok_bind, hsnapshot]

theorem zero_not_mem_document : (0 : UInt8) ∉ [97, 46, 109, 100] := by
  decide

theorem zero_not_mem_picture : (0 : UInt8) ∉ [98, 46, 112, 110, 103] := by
  decide

/-- `a.md` and `b.png`. -/
def sampleEntries : List DiffEntry :=
  [⟨⟨[97, 46, 109, 100], List.cons_ne_nil _ _, zero_not_mem_document⟩, .modified, some (12, 0)⟩,
    ⟨⟨[98, 46, 112, 110, 103], List.cons_ne_nil _ _, zero_not_mem_picture⟩, .added, none⟩]

/-- Git for the two commits. -/
def sampleGit (arguments : List String) : GitAnswer :=
  if arguments = ["rev-parse", "--verify", sampleOid '1' ++ "^\x7bcommit\x7d"] then
    .completed 0 (Utf8.encode ((sampleOid '1').toList ++ ['\n'])) []
  else if arguments = ["rev-parse", "--verify", sampleOid '2' ++ "^\x7bcommit\x7d"] then
    .completed 0 (Utf8.encode ((sampleOid '2').toList ++ ['\n'])) []
  else if arguments = diffArguments ["--name-status", "-z"] (sampleOid '1') (sampleOid '2') then
    .completed 0 (nameStatusOutput sampleEntries) []
  else if arguments = diffArguments ["--numstat", "-z"] (sampleOid '1') (sampleOid '2') then
    .completed 0 (numstatOutput sampleEntries) []
  else if arguments.head? = some "cat-file" then .completed 0 (Utf8.encode ['5', '\n']) []
  else .completed 0 (Utf8.encode "+text\n".toList) []

def sampleReader : CommitDiffReader where
  git := sampleGit
  int := Numerals.int
  maxFiles := 100
  maxFilePatchBytes := 65536
  maxTotalPatchBytes := 262144
  maxBlobBytes := 524288
  maxFiles_pos := Nat.succ_pos 99
  maxFilePatchBytes_pos := Nat.succ_pos 65535
  maxTotalPatchBytes_pos := Nat.succ_pos 262143
  maxBlobBytes_pos := Nat.succ_pos 524287

theorem resolveCommit_of_answer {commit : String} (hoid : isOid commit = true)
    (hgit : ∃ stderr, reader.git ["rev-parse", "--verify", commit ++ "^\x7bcommit\x7d"] =
      .completed 0 (Utf8.encode (commit.toList ++ ['\n'])) stderr)
    (hreturn : '\r' ∉ commit.toList ++ ['\n'])
    (hstrip : strip (String.ofList (commit.toList ++ ['\n'])) = commit) :
    reader.resolveCommit commit = .ok commit := by
  have htext := @gitText_eq_ok _ _ _ false hgit
  rw [decodeOutput_encode hreturn] at htext
  rw [resolveCommit, raiseIf_of_not (by simp [hoid]), ok_bind, htext, ok_bind,
    raiseIf_of_not (not_not.2 hstrip)]
  rfl

theorem blobSize_sample (commit path : String) :
    sampleReader.blobSize commit path = .ok (some 5) := by
  have hgit : sampleReader.git ["cat-file", "-s", commit ++ ":" ++ path] =
      .completed 0 (Utf8.encode ['5', '\n']) [] := by
    simp [sampleReader, sampleGit, diffArguments]
  have hint : Numerals.int (strip (String.ofList ['5', '\n'])).toList = some 5 := by
    decide +kernel
  rw [blobSize, runText_eq_ok ⟨_, hgit⟩, ok_bind, decodeOutput_encode (by decide)]
  simp only [sampleReader, hint]
  rfl

theorem serves_sample :
    Serves sampleReader (sampleOid '1') (sampleOid '2') sampleEntries where
  base_resolves := resolveCommit_of_answer (by decide +kernel)
    ⟨[], by simp only [sampleReader, sampleGit, if_pos]⟩ (by decide +kernel) (by decide +kernel)
  head_resolves := resolveCommit_of_answer (by decide +kernel)
    ⟨[], by
      have hne : ["rev-parse", "--verify", sampleOid '2' ++ "^\x7bcommit\x7d"] ≠
          ["rev-parse", "--verify", sampleOid '1' ++ "^\x7bcommit\x7d"] := by
        decide +kernel
      simp only [sampleReader, sampleGit, if_neg hne, if_pos]⟩ (by decide +kernel)
    (by decide +kernel)
  name_status := ⟨[], by simp [sampleReader, sampleGit, diffArguments]⟩
  numstat := ⟨[], by simp [sampleReader, sampleGit, diffArguments]⟩
  numbers := by
    intro entry hentry lines hlines
    rcases List.mem_cons.1 hentry with rfl | hentry
    · obtain rfl := Option.some.inj hlines
      exact ⟨@Numerals.int_toDigits 12 (by decide), @Numerals.int_toDigits 0 (by decide)⟩
    · rw [List.mem_singleton.1 hentry] at hlines
      cases hlines
  sizes := fun path => ⟨false, by
    rw [blobTooLarge, blobSize_sample, ok_bind, blobSize_sample, ok_bind]
    decide⟩
  patches := fun path => ⟨Utf8.encode "+text\n".toList, by
    have hgit : sampleReader.git (["diff", "--no-ext-diff", "--no-textconv", "--no-renames",
        "--no-color", "--unified=3"] ++ [sampleOid '1', sampleOid '2', "--", path]) =
        .completed 0 (Utf8.encode "+text\n".toList) [] := by
      simp [sampleReader, sampleGit, diffArguments]
    rw [fullPatch, gitBytes, hgit]
    rfl⟩

theorem seen_sample : sampleEntries.map DiffEntry.seen = ["a.md".toList, "b.png".toList] := by
  have hfirst : decodeOutput (Utf8.encode "a.md".toList) = "a.md".toList :=
    decodeOutput_encode (by decide)
  have hsecond : decodeOutput (Utf8.encode "b.png".toList) = "b.png".toList :=
    decodeOutput_encode (by decide)
  rw [← hfirst, ← hsecond]
  rfl

theorem readable_sample : Readable sampleEntries := by
  refine ⟨by rw [seen_sample]; decide, fun entry hentry => ?_⟩
  have hseen : entry.seen ∈ sampleEntries.map DiffEntry.seen := List.mem_map_of_mem hentry
  rw [seen_sample] at hseen
  rcases List.mem_cons.1 hseen with h | h
  · rw [h]
    decide
  · rw [List.mem_singleton.1 h]
    decide

end CommitDiffReader

end DevFlow
