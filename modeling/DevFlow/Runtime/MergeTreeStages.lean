/-
# The conflicted stages that `git merge-tree -z` lists

A field of the output writes a `StageEntry`, and `_parse_stage_record` returns what
the field writes (`parseStageRecord_eq_ok`).  The loop over the stage records goes
through when no stage of a path comes twice, and leaves the stages path by path
(`foldlM_addStage_eq_ok`); the files are made of them when the names of the paths
fit into the records (`exists_mapM_makeFile_iff`).
-/

import DevFlow.Runtime.MergeTreeOutput

namespace DevFlow

open Utf8 (NameChar)

namespace MergeConflictClassifier

/-! ### What the readers of a field return -/

theorem stageSide_eq_some_iff {stage : ℤ} {side : MergeConflictStageSide} :
    stageSide stage = some side ↔ stage = side.stage := by
  constructor
  · intro h
    have hfound := List.find?_some h
    simpa using (of_decide_eq_true hfound).symm
  · rintro rfl
    cases side <;> rfl

/-- **ASCII text** is read back from its bytes. -/
theorem decodeAscii_eq_some_iff {bytes : List UInt8} {text : List Char} :
    decodeAscii bytes = some text ↔ Utf8.encode text = bytes ∧ ∀ b ∈ bytes, b < 128 := by
  simp only [decodeAscii, List.all_eq_true, decide_eq_true_eq]
  split_ifs with h
  · rw [Utf8.decode_eq_some_iff, and_iff_left h]
  · simp [h]

theorem decodeAscii_encode {text : List Char} (h : ∀ c ∈ text, c.toNat < 128) :
    decodeAscii (Utf8.encode text) = some text := by
  rw [decodeAscii_eq_some_iff, and_iff_right rfl]
  intro b hb
  obtain ⟨c, hc, hmem⟩ := List.mem_flatMap.1 hb
  have hlt : c.val.toNat < 128 := h c hc
  rw [String.utf8EncodeChar, if_pos (by omega), List.mem_singleton] at hmem
  subst hmem
  rw [UInt8.lt_iff_toNat_lt, UInt8.toNat_ofNat']
  change c.val.toNat % 256 < 128
  omega

theorem makeStage_eq_ok {number : ℤ} {mode objectId : String} {stage : MergeConflictStage} :
    makeStage number mode objectId = .ok stage ↔
      number = stage.number ∧ mode = stage.mode ∧ objectId = stage.objectId.val := by
  unfold makeStage
  constructor
  · intro h
    cases hside : stageSide number with
    | none =>
      rw [hside] at h
      cases h
    | some side =>
      rw [hside] at h
      simp only at h
      split_ifs at h
      obtain rfl := Except.ok.inj h
      exact ⟨stageSide_eq_some_iff.1 hside, rfl, rfl⟩
  · rintro ⟨rfl, rfl, rfl⟩
    have hside : stageSide (stage.number : ℤ) = some stage.side := stageSide_eq_some_iff.2 rfl
    simp only [hside, stage.isFileMode, stage.objectId.property, dite_true]
    rfl

/-- A tab cuts a record where it comes first. -/
theorem takeWhile_tab {front back : List UInt8} (h : 9 ∉ front) :
    (front ++ 9 :: back).takeWhile (· ≠ 9) = front := by
  rw [List.takeWhile_append_of_pos, List.takeWhile_cons_of_neg (by simp), List.append_nil]
  intro b hb
  exact decide_eq_true fun heq => h (heq ▸ hb)

theorem exists_of_tab_mem {record : List UInt8} (h : 9 ∈ record) :
    ∃ front back, record = front ++ 9 :: back ∧ 9 ∉ front := by
  obtain ⟨front, back, hrecord, hfront⟩ := List.eq_append_cons_of_mem h
  exact ⟨front, back, hrecord, hfront⟩

end MergeConflictClassifier

open MergeConflictClassifier

/-! ### The stages of the conflicted paths -/

/-- A conflicted stage of a path, which is kept in its bytes. -/
structure StageEntry where
  stage : MergeConflictStage
  path : List UInt8
  path_ne : path ≠ []

namespace StageEntry

variable {entry : StageEntry} {record : List UInt8}

/-- The field writes mode, object and number between white space, a tab and the path. -/
def WrittenIn (entry : StageEntry) (record : List UInt8) : Prop :=
  ∃ metadata number, record = metadata ++ 9 :: entry.path ∧ 9 ∉ metadata ∧
    Words.split isBlankByte metadata = [Utf8.encode entry.stage.mode.toList,
      Utf8.encode entry.stage.objectId.val.toList, number] ∧
    (decodeAscii number).bind Numerals.int = some (entry.stage.number : ℤ)

/-- What the parser makes of the entry. -/
def parsed (entry : StageEntry) : List NameChar × MergeConflictStage :=
  (Utf8.fsdecode entry.path, entry.stage)

end StageEntry

theorem toNat_le_of_le {c d : Char} (h : c ≤ d) : c.toNat ≤ d.toNat :=
  UInt32.le_iff_toNat_le.1 h

theorem ascii_of_isFileMode {mode : String} (h : isFileMode mode = true) :
    ∀ c ∈ mode.toList, c.toNat < 128 := by
  intro c hc
  simp only [isFileMode, Bool.and_eq_true, List.all_eq_true, decide_eq_true_eq] at h
  have hle : c.toNat ≤ '7'.toNat := toNat_le_of_le (h.1 c hc).2
  exact lt_of_le_of_lt hle (by decide)

theorem ascii_of_isFullOid {s : String} (h : isFullOid s = true) :
    ∀ c ∈ s.toList, c.toNat < 128 := by
  intro c hc
  simp only [isFullOid, Bool.and_eq_true, List.all_eq_true, Bool.or_eq_true, Char.isDigit,
    decide_eq_true_eq] at h
  rcases h.1.1 c hc with (hdigit | hlow) | hhigh
  · have hle : c.toNat ≤ '9'.toNat := toNat_le_of_le hdigit.2
    exact lt_of_le_of_lt hle (by decide)
  · have hle : c.toNat ≤ 'f'.toNat := toNat_le_of_le hlow.2
    exact lt_of_le_of_lt hle (by decide)
  · have hle : c.toNat ≤ 'F'.toNat := toNat_le_of_le hhigh.2
    exact lt_of_le_of_lt hle (by decide)

/-- **`_parse_stage_record` returns what the field writes.** -/
theorem parseStageRecord_eq_ok {record : List UInt8} {parsed : List NameChar × MergeConflictStage} :
    parseStageRecord record = .ok parsed ↔
      ∃ entry : StageEntry, entry.WrittenIn record ∧ entry.parsed = parsed := by
  unfold parseStageRecord
  simp only [Raising.bind_eq_ok, Raising.raiseIf_eq_ok, not_or, not_not]
  constructor
  · rintro ⟨-, ⟨htab, hpath⟩, h⟩
    obtain ⟨front, back, rfl, hfront⟩ := exists_of_tab_mem htab
    rw [takeWhile_tab hfront] at hpath h
    have hback : (front ++ 9 :: back).drop (front.length + 1) = back := by
      rw [← List.singleton_append, ← List.append_assoc]
      exact List.drop_left' (by simp)
    rw [hback] at hpath h
    split at h
    · rename_i mode objectId number hsplit
      split at h
      · rename_i mode' objectId' number' hmode hobject hnumber
        obtain ⟨stage, hstage, hreturn⟩ := Raising.bind_eq_ok.1 h
        obtain rfl := Raising.pure_eq_ok.1 hreturn
        obtain ⟨rfl, hmode', hobject'⟩ := makeStage_eq_ok.1 hstage
        refine ⟨⟨stage, back, hpath⟩, ⟨front, number, rfl, hfront, ?_, hnumber⟩, rfl⟩
        rw [hsplit, ← hmode', ← hobject', String.toList_ofList, String.toList_ofList,
          (decodeAscii_eq_some_iff.1 hmode).1, (decodeAscii_eq_some_iff.1 hobject).1]
      · cases h
    · cases h
  · rintro ⟨entry, ⟨metadata, number, rfl, hfree, hsplit, hnumber⟩, rfl⟩
    have hback : (metadata ++ 9 :: entry.path).drop (metadata.length + 1) = entry.path := by
      rw [← List.singleton_append, ← List.append_assoc]
      exact List.drop_left' (by simp)
    have hstage : makeStage (entry.stage.number : ℤ) entry.stage.mode entry.stage.objectId.val =
        .ok entry.stage := makeStage_eq_ok.2 ⟨rfl, rfl, rfl⟩
    rw [takeWhile_tab hfree, hback]
    refine ⟨⟨⟩, ⟨by simp, entry.path_ne⟩, ?_⟩
    simp only [hsplit, decodeAscii_encode (ascii_of_isFileMode entry.stage.isFileMode),
      decodeAscii_encode (ascii_of_isFullOid entry.stage.objectId.property), hnumber,
      String.ofList_toList, hstage]
    rfl

/-! ### The table of the paths -/

/-- A path and a side: what no two entries share. -/
def StageEntry.key (entry : StageEntry) : List UInt8 × MergeConflictStageSide :=
  (entry.path, entry.stage.side)

/-- The table that the entries make. -/
def groupedStages (entries : List StageEntry) :
    List (List NameChar × List MergeConflictStage) :=
  Groups.groups (entries.map StageEntry.parsed)

/-- A stage that is there already. -/
theorem duplicate_iff {entries : List StageEntry} {entry : StageEntry} :
    (∃ row ∈ groupedStages entries, row.1 = entry.parsed.1 ∧
        ∃ item ∈ row.2, item.side = entry.parsed.2.side) ↔
      entry.key ∈ entries.map StageEntry.key := by
  constructor
  · rintro ⟨row, hrow, hpath, item, hitem, hside⟩
    rw [(Groups.mem_groups.1 hrow).2, Groups.mem_valuesOf] at hitem
    obtain ⟨other, hother, hparsed⟩ := List.mem_map.1 hitem
    rw [StageEntry.parsed, Prod.mk.injEq] at hparsed
    have hbytes : other.path = entry.path := Utf8.fsdecode_inj.1 (hparsed.1.trans hpath)
    refine List.mem_map.2 ⟨other, hother, ?_⟩
    rw [StageEntry.key, StageEntry.key, hbytes, hparsed.2, hside]
    rfl
  · intro h
    obtain ⟨other, hother, hkey⟩ := List.mem_map.1 h
    simp only [StageEntry.key, Prod.mk.injEq] at hkey
    have hmem : other.parsed ∈ entries.map StageEntry.parsed := List.mem_map_of_mem hother
    have hpath : other.parsed.1 = entry.parsed.1 := Utf8.fsdecode_inj.2 hkey.1
    refine ⟨(other.parsed.1, Groups.valuesOf (entries.map StageEntry.parsed) other.parsed.1),
      Groups.mem_groups.2 ⟨List.mem_map_of_mem hmem, rfl⟩, hpath, other.parsed.2, ?_, hkey.2⟩
    exact Groups.mem_valuesOf.2 hmem

/-- One round of the loop over the stage records. -/
theorem addStage_eq_ok {entries : List StageEntry} {record : List UInt8}
    {grouped : List (List NameChar × List MergeConflictStage)} :
    addStage (groupedStages entries) record = .ok grouped ↔
      ∃ entry : StageEntry, entry.WrittenIn record ∧ entry.key ∉ entries.map StageEntry.key ∧
        grouped = groupedStages (entries ++ [entry]) := by
  simp only [addStage, Raising.bind_eq_ok, Raising.raiseIf_eq_ok, Raising.pure_eq_ok]
  constructor
  · rintro ⟨parsed, hparsed, -, hnew, rfl⟩
    obtain ⟨entry, hwritten, rfl⟩ := parseStageRecord_eq_ok.1 hparsed
    refine ⟨entry, hwritten, fun hmem => hnew (duplicate_iff.2 hmem), ?_⟩
    rw [groupedStages, groupedStages, List.map_append, List.map_singleton, Groups.groups_concat]
  · rintro ⟨entry, hwritten, hnew, rfl⟩
    refine ⟨entry.parsed, parseStageRecord_eq_ok.2 ⟨entry, hwritten, rfl⟩, ⟨⟩,
      fun hdup => hnew (duplicate_iff.1 hdup), ?_⟩
    rw [groupedStages, groupedStages, List.map_append, List.map_singleton, Groups.groups_concat]

theorem exists_of_forall₂_concat {α β : Type} {R : α → β → Prop} {l : List α} {r : List β} {b : β}
    (h : List.Forall₂ R l (r ++ [b])) :
    ∃ front a, l = front ++ [a] ∧ List.Forall₂ R front r ∧ R a b := by
  have hfront := List.forall₂_take_append l r [b] h
  have hback := List.forall₂_drop_append l r [b] h
  obtain ⟨a, rest, hab, hrest, hdrop⟩ := List.forall₂_cons_right_iff.1 hback
  rw [List.forall₂_nil_right_iff.1 hrest] at hdrop
  refine ⟨l.take r.length, a, ?_, hfront, hab⟩
  rw [← hdrop, List.take_append_drop]

/-- **The loop over the stage records** goes through when the records write entries of
different keys, and leaves their table. -/
theorem foldlM_addStage_eq_ok {records : List (List UInt8)}
    {grouped : List (List NameChar × List MergeConflictStage)} :
    records.foldlM addStage [] = .ok grouped ↔
      ∃ entries : List StageEntry, List.Forall₂ StageEntry.WrittenIn entries records ∧
        (entries.map StageEntry.key).Nodup ∧ grouped = groupedStages entries := by
  induction records using List.reverseRecOn generalizing grouped with
  | nil =>
    constructor
    · intro h
      exact ⟨[], .nil, List.nodup_nil, (Raising.pure_eq_ok.1 h).symm⟩
    · rintro ⟨entries, hwritten, -, rfl⟩
      rw [List.forall₂_nil_right_iff.1 hwritten]
      rfl
  | append_singleton records record ih =>
    rw [List.foldlM_append, Raising.bind_eq_ok]
    simp only [List.foldlM_cons, List.foldlM_nil, bind_pure]
    constructor
    · rintro ⟨table, htable, hround⟩
      obtain ⟨entries, hwritten, hnodup, rfl⟩ := ih.1 htable
      obtain ⟨entry, hentry, hnew, rfl⟩ := addStage_eq_ok.1 hround
      refine ⟨entries ++ [entry], List.rel_append hwritten (.cons hentry .nil), ?_, rfl⟩
      rw [List.map_append, List.map_singleton, List.nodup_append]
      refine ⟨hnodup, List.nodup_singleton _, ?_⟩
      intro key hkey key' hkey' heq
      rw [List.mem_singleton.1 hkey'] at heq
      exact hnew (heq ▸ hkey)
    · rintro ⟨all, hwritten, hnodup, rfl⟩
      obtain ⟨entries, entry, rfl, hfront, hentry⟩ := exists_of_forall₂_concat hwritten
      rw [List.map_append, List.map_singleton, List.nodup_append] at hnodup
      refine ⟨groupedStages entries, ih.2 ⟨entries, hfront, hnodup.1, rfl⟩, ?_⟩
      refine addStage_eq_ok.2 ⟨entry, hentry, fun hmem => ?_, rfl⟩
      exact hnodup.2.2 _ hmem _ (List.mem_singleton_self _) rfl

/-! ### The files of the evidence -/

theorem stage_injective {side side' : MergeConflictStageSide} (h : side.stage = side'.stage) :
    side = side' := by
  have hsides : some side = some side' := by
    rw [← stageSide_eq_some_iff.2 rfl, ← stageSide_eq_some_iff.2 rfl, h]
  exact Option.some.inj hsides

/-- **Stages of different sides** are put into their order. -/
theorem pairwise_sortStages {stages : List MergeConflictStage}
    (h : (stages.map MergeConflictStage.side).Nodup) :
    ((sortStages stages).map MergeConflictStage.number).Pairwise (· < ·) := by
  have hsorted : (sortStages stages).Pairwise fun stage stage' => stage.number ≤ stage'.number := by
    have htotal : Std.Total fun stage stage' : MergeConflictStage =>
        stage.number ≤ stage'.number := ⟨fun stage stage' => Nat.le_total _ _⟩
    have htrans : IsTrans MergeConflictStage fun stage stage' => stage.number ≤ stage'.number :=
      ⟨fun _ _ _ => Nat.le_trans⟩
    exact List.pairwise_insertionSort _ stages
  have hnodup : ((sortStages stages).map MergeConflictStage.side).Nodup :=
    ((List.perm_insertionSort _ stages).map MergeConflictStage.side).nodup_iff.2 h
  rw [List.pairwise_map]
  refine (hsorted.and (List.pairwise_map.1 hnodup)).imp ?_
  rintro stage stage' ⟨hle, hne⟩
  exact lt_of_le_of_ne hle fun heq => hne (stage_injective heq)

/-- The stages of one path have different sides. -/
theorem nodup_sides {entries : List StageEntry} (h : (entries.map StageEntry.key).Nodup)
    (path : List NameChar) :
    ((Groups.valuesOf (entries.map StageEntry.parsed) path).map MergeConflictStage.side).Nodup := by
  induction entries with
  | nil => exact List.nodup_nil
  | cons entry entries ih =>
    rw [List.map_cons, List.nodup_cons] at h
    have hrest := ih h.2
    by_cases hpath : entry.parsed.1 = path
    · have hvalues : Groups.valuesOf ((entry :: entries).map StageEntry.parsed) path =
          entry.stage :: Groups.valuesOf (entries.map StageEntry.parsed) path := by
        simp [Groups.valuesOf, hpath]
        rfl
      rw [hvalues, List.map_cons, List.nodup_cons, and_iff_left hrest]
      intro hmem
      obtain ⟨stage, hstage, hside⟩ := List.mem_map.1 hmem
      obtain ⟨other, hother, hparsed⟩ := List.mem_map.1 (Groups.mem_valuesOf.1 hstage)
      rw [StageEntry.parsed, Prod.mk.injEq] at hparsed
      refine h.1 (List.mem_map.2 ⟨other, hother, ?_⟩)
      rw [StageEntry.key, StageEntry.key, hparsed.2, hside,
        Utf8.fsdecode_inj.1 (hparsed.1.trans hpath.symm)]
    · have hvalues : Groups.valuesOf ((entry :: entries).map StageEntry.parsed) path =
          Groups.valuesOf (entries.map StageEntry.parsed) path := by
        simp [Groups.valuesOf, hpath]
      rw [hvalues]
      exact hrest

section Files

variable {classifier : MergeConflictClassifier}

/-- A name that `MergeConflictFile` takes. -/
def NameFits (classifier : MergeConflictClassifier) (path : List UInt8) : Prop :=
  (Utf8.fsdecode path).length ≤ 4096 ∧
    (classifier.loneSurrogates = true ∨ Utf8.plain (Utf8.fsdecode path) = true)

/-- **Without lone surrogates** the names that fit are the texts that are short enough. -/
theorem nameFits_iff (h : classifier.loneSurrogates = false) {path : List UInt8} :
    NameFits classifier path ↔ ∃ text, Utf8.encode text = path ∧ text.length ≤ 4096 := by
  have hlone : ¬classifier.loneSurrogates = true := by
    rw [h]
    exact Bool.false_ne_true
  rw [NameFits, or_iff_right hlone, Utf8.plain_fsdecode_iff]
  constructor
  · rintro ⟨hlength, text, rfl⟩
    rw [Utf8.fsdecode_encode, List.length_map] at hlength
    exact ⟨text, rfl, hlength⟩
  · rintro ⟨text, rfl, hlength⟩
    rw [Utf8.fsdecode_encode, List.length_map]
    exact ⟨hlength, text, rfl⟩

theorem makeFile_eq_ok {path : List NameChar} {stages : List MergeConflictStage}
    {file : MergeConflictFile} : classifier.makeFile path stages = .ok file ↔
      (classifier.loneSurrogates = true ∨ Utf8.plain path = true) ∧ file.path = path ∧
        file.stages = stages := by
  unfold makeFile
  constructor
  · intro h
    split_ifs at h with hpath hplain
    obtain rfl := Except.ok.inj h
    exact ⟨hplain, rfl, rfl⟩
  · rintro ⟨hplain, rfl, rfl⟩
    rw [dif_pos file.path_length, if_pos hplain, dif_pos file.stages_ne, dif_pos file.ordered]

theorem makeFile_eq_error {path : List NameChar} {stages : List MergeConflictStage}
    {failure : Failure} (h : classifier.makeFile path stages = .error failure) :
    failure = recordError "MergeConflictFile" := by
  unfold makeFile at h
  split_ifs at h
  all_goals exact (Except.error.inj h).symm

/-- A path with its stages. -/
def MergeConflictFile.row (file : MergeConflictFile) : List NameChar × List MergeConflictStage :=
  (file.path, file.stages)

/-- The rows of the files. -/
def fileRows (entries : List StageEntry) : List (List NameChar × List MergeConflictStage) :=
  (groupedStages entries).map fun row => (row.1, sortStages row.2)

/-- A row of the table becomes a file when its name fits. -/
theorem exists_makeFile_iff {entries : List StageEntry} (hkeys : (entries.map StageEntry.key).Nodup)
    {entry : StageEntry} (hentry : entry ∈ entries) :
    (∃ file, classifier.makeFile entry.parsed.1 (sortStages
        (Groups.valuesOf (entries.map StageEntry.parsed) entry.parsed.1)) = .ok file) ↔
      NameFits classifier entry.path := by
  constructor
  · rintro ⟨file, hfile⟩
    obtain ⟨hplain, hpath, -⟩ := makeFile_eq_ok.1 hfile
    have hlength := file.path_length.2
    rw [hpath] at hlength
    exact ⟨hlength, hplain⟩
  · intro hfits
    have hne : Utf8.fsdecode entry.path ≠ [] := Utf8.fsdecode_ne_nil entry.path_ne
    have hvalues : Groups.valuesOf (entries.map StageEntry.parsed) entry.parsed.1 ≠ [] := by
      intro hnil
      exact Groups.valuesOf_eq_nil_iff.1 hnil
        (List.mem_map_of_mem (List.mem_map_of_mem hentry))
    refine ⟨⟨_, _, ⟨List.length_pos_iff.2 hne, hfits.1⟩, ?_,
      pairwise_sortStages (nodup_sides hkeys entry.parsed.1)⟩, makeFile_eq_ok.2 ⟨hfits.2, rfl, rfl⟩⟩
    intro hnil
    rw [sortStages, ← List.length_eq_zero_iff, List.length_insertionSort,
      List.length_eq_zero_iff] at hnil
    exact hvalues hnil

/-- Every row of the table is the row of an entry. -/
theorem exists_entry_of_mem {entries : List StageEntry}
    {row : List NameChar × List MergeConflictStage} (h : row ∈ groupedStages entries) :
    ∃ entry ∈ entries, row =
      (entry.parsed.1, Groups.valuesOf (entries.map StageEntry.parsed) entry.parsed.1) := by
  obtain ⟨hpath, hvalues⟩ := Groups.mem_groups.1 h
  obtain ⟨parsed, hparsed, hfst⟩ := List.mem_map.1 hpath
  obtain ⟨entry, hentry, rfl⟩ := List.mem_map.1 hparsed
  exact ⟨entry, hentry, Prod.ext hfst.symm (by rw [hvalues, ← hfst])⟩

/-- **The files** are made when every name fits, and are the rows of the table. -/
theorem mapM_makeFile_eq_ok {entries : List StageEntry}
    {files : List MergeConflictFile}
    (h : (groupedStages entries).mapM (fun row => classifier.makeFile row.1 (sortStages row.2)) =
      .ok files) : files.map MergeConflictFile.row = fileRows entries := by
  rw [Raising.mapM_eq_ok] at h
  rw [fileRows]
  generalize groupedStages entries = table at h
  induction h with
  | nil => rfl
  | cons hfile _ ih =>
    obtain ⟨-, hpath, hstages⟩ := makeFile_eq_ok.1 hfile
    rw [List.map_cons, List.map_cons, ih, MergeConflictFile.row, hpath, hstages]

theorem exists_mapM_makeFile_iff {entries : List StageEntry}
    (hkeys : (entries.map StageEntry.key).Nodup) :
    (∃ files, (groupedStages entries).mapM
        (fun row => classifier.makeFile row.1 (sortStages row.2)) = .ok files) ↔
      ∀ entry ∈ entries, NameFits classifier entry.path := by
  rw [Raising.exists_mapM_eq_ok]
  constructor
  · intro h entry hentry
    refine (exists_makeFile_iff hkeys hentry).1 (h (entry.parsed.1, _) ?_)
    exact Groups.mem_groups.2 ⟨List.mem_map_of_mem (List.mem_map_of_mem hentry), rfl⟩
  · intro h row hrow
    obtain ⟨entry, hentry, rfl⟩ := exists_entry_of_mem hrow
    exact (exists_makeFile_iff hkeys hentry).2 (h entry hentry)

end Files

end DevFlow
