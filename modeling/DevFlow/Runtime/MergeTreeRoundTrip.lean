/-
# Reading back what `git merge-tree -z` writes

`Listing.encode` is the output of Git for a listing: every field with a zero byte
behind it, numbers in decimal, and a line feed at the end of a message.  The output
writes the listing (`Listing.writtenIn_encode`), so the parser returns it when its
texts fit into the records (`mergeTree_round_trip`).
-/

import DevFlow.Runtime.MergeTreeFormat

namespace DevFlow

open MergeConflictClassifier

/-! ### What Git writes -/

/-- The field of a stage. -/
def StageEntry.field (entry : StageEntry) : List UInt8 :=
  (Utf8.encode entry.stage.mode.toList ++ 32 :: (Utf8.encode entry.stage.objectId.val.toList ++
    32 :: Utf8.encode (Nat.toDigits 10 entry.stage.number))) ++ 9 :: entry.path

/-- The fields of a message, whose text ends in a line feed. -/
def MessageEntry.fields (entry : MessageEntry) : List (List UInt8) :=
  Utf8.encode (Nat.toDigits 10 entry.paths.length) ::
    (entry.paths ++ [Utf8.encode entry.conflictType, Utf8.encode (entry.message ++ ['\n'])])

/-- A message as Git has it: its texts are stripped, and nothing holds a zero. -/
structure MessageEntry.Plain (entry : MessageEntry) : Prop where
  paths_length : entry.paths.length ≤ 1000
  paths_free : ∀ path ∈ entry.paths, 0 ∉ path
  type_free : '\x00' ∉ entry.conflictType
  message_free : '\x00' ∉ entry.message
  type_stripped : strip (String.ofList entry.conflictType) = String.ofList entry.conflictType
  message_stripped : strip (String.ofList entry.message) = String.ofList entry.message

/-- A listing that the format can hold. -/
structure Listing.Plain (listing : Listing) : Prop where
  paths_free : ∀ entry ∈ listing.entries, 0 ∉ entry.path
  messages : ∀ entry ∈ listing.messages, entry.Plain

/-- The fields of an output. -/
def Listing.fields (listing : Listing) : List (List UInt8) :=
  Utf8.encode listing.tree.val.toList :: (listing.entries.map StageEntry.field ++
    [] :: (listing.messages.map MessageEntry.fields).flatten)

/-- `git merge-tree --write-tree -z --messages`. -/
def Listing.encode (listing : Listing) : List UInt8 :=
  listing.fields.flatMap fun field => field ++ [0]

/-- **Fields with a zero byte behind each are cut apart again.** -/
theorem splitOn_flatMap {fields : List (List UInt8)} (h : ∀ field ∈ fields, 0 ∉ field) :
    (fields.flatMap fun field => field ++ [0]).splitOn 0 = fields ++ [[]] := by
  induction fields with
  | nil => rfl
  | cons field fields ih =>
    rw [List.forall_mem_cons] at h
    rw [List.flatMap_cons, List.append_assoc, List.singleton_append,
      List.splitOn_append_cons_self_of_not_mem h.1, ih h.2, List.cons_append]

/-- Characters from the digits on keep their bytes there. -/
theorem bounds_of_mem_encode {text : List Char} (h : ∀ c ∈ text, 48 ≤ c.toNat ∧ c.toNat < 128) :
    ∀ b ∈ Utf8.encode text, 48 ≤ b.toNat ∧ b.toNat < 128 := by
  intro b hb
  obtain ⟨c, hc, hmem⟩ := List.mem_flatMap.1 hb
  have hbounds : 48 ≤ c.val.toNat ∧ c.val.toNat < 128 := h c hc
  rw [String.utf8EncodeChar, if_pos (by omega), List.mem_singleton] at hmem
  subst hmem
  rw [UInt8.toNat_ofNat']
  change 48 ≤ c.val.toNat % 256 ∧ c.val.toNat % 256 < 128
  omega

theorem bounds_of_isFileMode {mode : String} (h : isFileMode mode = true) :
    ∀ c ∈ mode.toList, 48 ≤ c.toNat ∧ c.toNat < 128 := by
  intro c hc
  refine ⟨?_, ascii_of_isFileMode h c hc⟩
  simp only [isFileMode, Bool.and_eq_true, List.all_eq_true, decide_eq_true_eq] at h
  exact toNat_le_of_le (h.1 c hc).1

theorem bounds_of_isFullOid {s : String} (h : isFullOid s = true) :
    ∀ c ∈ s.toList, 48 ≤ c.toNat ∧ c.toNat < 128 := by
  intro c hc
  refine ⟨?_, ascii_of_isFullOid h c hc⟩
  simp only [isFullOid, Bool.and_eq_true, List.all_eq_true, Bool.or_eq_true, Char.isDigit,
    decide_eq_true_eq] at h
  rcases h.1.1 c hc with (hdigit | hlow) | hhigh
  · exact toNat_le_of_le hdigit.1
  · have hle : 'a'.toNat ≤ c.toNat := toNat_le_of_le hlow.1
    exact le_trans (by decide) hle
  · have hle : 'A'.toNat ≤ c.toNat := toNat_le_of_le hhigh.1
    exact le_trans (by decide) hle

theorem bounds_of_toDigits (n : ℕ) : ∀ c ∈ Nat.toDigits 10 n, 48 ≤ c.toNat ∧ c.toNat < 128 := by
  intro c hc
  have hdigit := Nat.isDigit_of_mem_toDigits (by decide) (by decide) hc
  simp only [Char.isDigit, Bool.and_eq_true, decide_eq_true_eq] at hdigit
  have hhigh : c.toNat ≤ '9'.toNat := toNat_le_of_le hdigit.2
  exact ⟨toNat_le_of_le hdigit.1, lt_of_le_of_lt hhigh (by decide)⟩

theorem isBlankByte_of_le {b : UInt8} (h : 48 ≤ b.toNat) : isBlankByte b = false := by
  simp only [isBlankByte, Bool.or_eq_false_iff, Bool.and_eq_false_iff, decide_eq_false_iff_not,
    UInt8.le_iff_toNat_le, ← UInt8.toNat_inj, UInt8.reduceToNat]
  omega

theorem encode_ne_nil {text : List Char} (h : text ≠ []) : Utf8.encode text ≠ [] := by
  intro hnil
  exact h (Utf8.encode_inj.1 (hnil.trans Utf8.encode_nil.symm))

/-- The digits of a small number are its numeral. -/
theorem int_encode_toDigits {n : ℕ} (h : n ≤ 1000) :
    (decodeAscii (Utf8.encode (Nat.toDigits 10 n))).bind Numerals.int = some (n : ℤ) := by
  have hlength : (Nat.toDigits 10 n).length ≤ 4 := by
    rw [Nat.length_toDigits_le_iff (by decide) (by decide)]
    omega
  rw [decodeAscii_encode fun c hc => (bounds_of_toDigits n c hc).2, Option.bind_some,
    Numerals.int_toDigits (le_trans hlength (by decide))]

theorem StageEntry.number_le (entry : StageEntry) : entry.stage.number ≤ 3 := by
  unfold MergeConflictStage.number
  cases entry.stage.side <;> decide

/-- **The field of a stage writes the stage.** -/
theorem StageEntry.writtenIn_field (entry : StageEntry) : entry.WrittenIn entry.field := by
  have hmode := bounds_of_mem_encode (bounds_of_isFileMode entry.stage.isFileMode)
  have hoid := bounds_of_mem_encode (bounds_of_isFullOid entry.stage.objectId.property)
  have hnumber := bounds_of_mem_encode (bounds_of_toDigits entry.stage.number)
  have hmode_ne : entry.stage.mode.toList ≠ [] := by
    intro hnil
    have hvalid := entry.stage.isFileMode
    rw [isFileMode, Bool.and_eq_true, decide_eq_true_eq, ← String.length_toList, hnil] at hvalid
    exact absurd hvalid.2 (by decide)
  have hoid_ne : entry.stage.objectId.val.toList ≠ [] := by
    intro hnil
    have hvalid := entry.stage.objectId.property
    simp only [isFullOid, Bool.and_eq_true, decide_eq_true_eq, ← String.length_toList, hnil,
      List.length_nil] at hvalid
    omega
  refine ⟨_, _, rfl, ?_, ?_, int_encode_toDigits (le_trans entry.number_le (by decide))⟩
  · -- the bytes before the tab are blanks and what a digit or a letter is
    have hfree : ∀ {l : List UInt8}, (∀ b ∈ l, 48 ≤ b.toNat ∧ b.toNat < 128) → 9 ∉ l := by
      intro l hl hmem
      have := (hl 9 hmem).1
      simp at this
    simp only [List.mem_append, List.mem_cons, not_or]
    exact ⟨hfree hmode, by decide, hfree hoid, by decide, hfree hnumber⟩
  · rw [Words.split_append_cons (fun b hb => isBlankByte_of_le (hmode b hb).1)
        (encode_ne_nil hmode_ne) (by decide),
      Words.split_append_cons (fun b hb => isBlankByte_of_le (hoid b hb).1)
        (encode_ne_nil hoid_ne) (by decide),
      Words.split_eq_singleton (fun b hb => isBlankByte_of_le (hnumber b hb).1)
        (encode_ne_nil Nat.toDigits_ne_nil)]

theorem decodeCount_toDigits {n : ℕ} (h : n ≤ 1000) :
    decodeCount (Utf8.encode (Nat.toDigits 10 n)) = .ok n := by
  have hbounds : ¬((n : ℤ) < 0 ∨ 1000 < (n : ℤ)) := by omega
  unfold decodeCount
  rw [int_encode_toDigits h]
  simp only [Raising.raiseIf_of_not hbounds, Raising.ok_bind, Int.toNat_natCast]
  rfl

theorem decodeText_encode {text : List Char} (h : strip (String.ofList text) = String.ofList text) :
    decodeText (Utf8.encode text) = text := by
  rw [decodeText, Utf8.decodeReplace_encode, h, String.toList_ofList]

/-- The line feed at the end of a message is stripped. -/
theorem decodeText_encode_feed {text : List Char}
    (h : strip (String.ofList text) = String.ofList text) (hne : text ≠ []) :
    decodeText (Utf8.encode (text ++ ['\n'])) = text := by
  have hdrop : text.dropWhile isSpace = text := by
    rw [List.dropWhile_eq_self_iff]
    intro hpos
    have hhead := (strip_eq_self_iff.1 h).1 text[0] (by
      rw [String.toList_ofList, List.head?_eq_getElem?, List.getElem?_eq_getElem hpos])
    rw [hhead]
    exact Bool.false_ne_true
  have hkeep : (strip (String.ofList text)).toList = text := by rw [h, String.toList_ofList]
  rw [toList_strip, String.toList_ofList, hdrop] at hkeep
  have hfront : (text ++ ['\n']).dropWhile isSpace = text ++ ['\n'] := by
    rw [List.dropWhile_append, hdrop, if_neg]
    simpa using hne
  rw [decodeText, Utf8.decodeReplace_encode, toList_strip, String.toList_ofList, hfront,
    List.rdropWhile_concat_pos _ _ _ (by decide), hkeep]

/-- **The fields of a message write the message.** -/
theorem MessageEntry.writtenIn_fields {entry : MessageEntry} (h : entry.Plain) :
    entry.WrittenIn entry.fields :=
  ⟨_, _, _, rfl, decodeCount_toDigits h.paths_length, decodeText_encode h.type_stripped,
    decodeText_encode_feed h.message_stripped entry.message_ne⟩

theorem zero_not_mem_of_bounds {l : List UInt8} (h : ∀ b ∈ l, 48 ≤ b.toNat ∧ b.toNat < 128) :
    0 ∉ l := by
  intro hmem
  have hbound := (h 0 hmem).1
  simp at hbound

/-- No field of an output holds a zero. -/
theorem Listing.fields_free {listing : Listing} (h : listing.Plain) :
    ∀ field ∈ listing.fields, 0 ∉ field := by
  intro field hfield
  rw [Listing.fields, List.mem_cons, List.mem_append, List.mem_cons] at hfield
  rcases hfield with rfl | hfield | rfl | hfield
  · exact zero_not_mem_of_bounds (bounds_of_mem_encode (bounds_of_isFullOid listing.tree.property))
  · obtain ⟨entry, hentry, rfl⟩ := List.mem_map.1 hfield
    have hmode := bounds_of_mem_encode (bounds_of_isFileMode entry.stage.isFileMode)
    have hoid := bounds_of_mem_encode (bounds_of_isFullOid entry.stage.objectId.property)
    have hnumber := bounds_of_mem_encode (bounds_of_toDigits entry.stage.number)
    simp only [StageEntry.field, List.mem_append, List.mem_cons, not_or]
    exact ⟨⟨zero_not_mem_of_bounds hmode, by decide, zero_not_mem_of_bounds hoid, by decide,
      zero_not_mem_of_bounds hnumber⟩, by decide, h.paths_free entry hentry⟩
  · exact List.not_mem_nil
  · obtain ⟨record, hrecord, hmem⟩ := List.mem_flatten.1 hfield
    obtain ⟨entry, hentry, rfl⟩ := List.mem_map.1 hrecord
    have hplain := h.messages entry hentry
    rw [MessageEntry.fields, List.mem_cons, List.mem_append] at hmem
    rcases hmem with rfl | hpath | htext
    · exact zero_not_mem_of_bounds (bounds_of_mem_encode (bounds_of_toDigits _))
    · exact hplain.paths_free field hpath
    · simp only [List.mem_cons, List.not_mem_nil, or_false] at htext
      rcases htext with rfl | rfl
      · rw [Utf8.zero_mem_encode]
        exact hplain.type_free
      · rw [Utf8.zero_mem_encode, List.mem_append, not_or]
        exact ⟨hplain.message_free, by decide⟩

/-- **The output of Git writes the listing.** -/
theorem Listing.writtenIn_encode {listing : Listing} (h : listing.Plain) :
    listing.WrittenIn listing.encode := by
  have hstages : List.Forall₂ StageEntry.WrittenIn listing.entries
      (listing.entries.map StageEntry.field) := by
    rw [List.forall₂_map_right_iff]
    exact List.forall₂_same.2 fun entry _ => entry.writtenIn_field
  have hmessages : MessagesWrittenIn listing.messages
      (listing.messages.map MessageEntry.fields) := by
    rw [MessagesWrittenIn, List.forall₂_map_right_iff]
    exact List.forall₂_same.2 fun entry hentry =>
      MessageEntry.writtenIn_fields (h.messages entry hentry)
  refine ⟨_, _, [[]], ⟨?_, ?_, hstages, hmessages⟩, ?_⟩
  · rw [Listing.encode, splitOn_flatMap (Listing.fields_free h), Listing.fields]
    simp
  · rw [List.getLast?_append_of_ne_nil _ (List.cons_ne_nil _ _)]
    simp
  · simp

/-- The stages in the order of the index: path by path, the stages of a path in their order. -/
structure Listing.InOrder (listing : Listing)
    (table : List (List UInt8 × List MergeConflictStage)) : Prop where
  entries : listing.entries.map (fun entry => (entry.path, entry.stage)) =
    table.flatMap fun row => row.2.map (row.1, ·)
  paths : (table.map Prod.fst).Nodup
  stages : ∀ row ∈ table, row.2 ≠ [] ∧ (row.2.map MergeConflictStage.number).Pairwise (· < ·)

/-- **Files in the order of the index are the rows of the table.** -/
theorem Listing.InOrder.fileRows_eq {listing : Listing}
    {table : List (List UInt8 × List MergeConflictStage)} (h : listing.InOrder table) :
    fileRows listing.entries = table.map fun row => (Utf8.fsdecode row.1, row.2) := by
  have hparsed : listing.entries.map StageEntry.parsed =
      (table.map fun row => (Utf8.fsdecode row.1, row.2)).flatMap
        fun row => row.2.map (row.1, ·) := by
    have hmap := congrArg (List.map fun item : List UInt8 × MergeConflictStage =>
      (Utf8.fsdecode item.1, item.2)) h.entries
    have hsame : listing.entries.map StageEntry.parsed =
        listing.entries.map fun entry => (Utf8.fsdecode entry.path, entry.stage) := rfl
    rw [List.map_map, List.map_flatMap] at hmap
    rw [hsame, List.flatMap_map]
    simpa [Function.comp_def] using hmap
  have hkeys : ((table.map fun row => (Utf8.fsdecode row.1, row.2)).map Prod.fst).Nodup := by
    rw [List.map_map]
    have hnodup := h.paths.map (f := Utf8.fsdecode) fun _ _ heq => Utf8.fsdecode_inj.1 heq
    rwa [List.map_map] at hnodup
  have hgroups : groupedStages listing.entries =
      table.map fun row => (Utf8.fsdecode row.1, row.2) := by
    rw [groupedStages, hparsed, Groups.groups_flatMap hkeys]
    intro row hrow
    obtain ⟨row', hrow', rfl⟩ := List.mem_map.1 hrow
    exact (h.stages row' hrow').1
  rw [fileRows, hgroups, List.map_map]
  refine List.map_congr_left fun row hrow => ?_
  have hsorted : row.2.Pairwise fun stage stage' => stage.number ≤ stage'.number :=
    (List.pairwise_map.1 (h.stages row hrow).2).imp Nat.le_of_lt
  rw [Function.comp_apply, sortStages, hsorted.insertionSort_eq]

/-- **The parser reads back what Git writes.** -/
theorem mergeTree_round_trip (classifier : MergeConflictClassifier) (origin : ConflictOrigin)
    (stderr : List UInt8) (listing : Listing) (hplain : listing.Plain)
    (hwell : listing.WellFormed) (hfits : listing.Fits classifier) :
    ∃ evidence, classifier.parseConflictedMergeOutput origin listing.encode stderr =
        .ok evidence ∧ listing.ReportedBy evidence ∧
      ∀ table, listing.InOrder table → evidence.val.files.map MergeConflictFile.row =
        table.map fun row => (Utf8.fsdecode row.1, row.2) := by
  obtain ⟨evidence, hok, hreported⟩ :=
    @parse_of_writtenIn _ origin _ stderr _ (Listing.writtenIn_encode hplain)
      hwell hfits
  refine ⟨evidence, hok, hreported, fun table htable => ?_⟩
  rw [hreported.files, htable.fileRows_eq]

/-! ### A conflict in one file -/

theorem isFullOid_ofA : isFullOid (sampleOid 'a') = true :=
  isFullOid_of_isOid (isOid_sampleOid rfl)

/-- An object. -/
def objectA : ObjectId :=
  ⟨sampleOid 'a', isFullOid_ofA⟩

theorem refA_length : 1 ≤ "refs/devflow/integration-conflicts/a".length ∧
    "refs/devflow/integration-conflicts/a".length ≤ 512 := by
  decide

/-- Where the conflict comes from. -/
def originA : ConflictOrigin :=
  ⟨objectA, objectA, "refs/devflow/integration-conflicts/a", objectA, refA_length⟩

theorem limit_bounds_default : 256 ≤ 8000 ∧ 8000 ≤ 16000 := by
  decide

/-- The classifier with its default limit. -/
def defaultClassifier : MergeConflictClassifier :=
  ⟨8000, limit_bounds_default, false⟩

theorem isFileMode_regular : isFileMode "100644" = true := by
  decide

theorem nameA_ne_nil : Utf8.encode ['a'] ≠ [] :=
  encode_ne_nil (List.cons_ne_nil _ _)

theorem typeA_ne_nil : ['C'] ≠ [] :=
  List.cons_ne_nil _ _

/-- A stage of the file. -/
def stageA (side : MergeConflictStageSide) : StageEntry :=
  ⟨⟨side, "100644", objectA, isFileMode_regular⟩, Utf8.encode ['a'], nameA_ne_nil⟩

/-- A message about the file. -/
def messageA : MessageEntry :=
  ⟨['C'], [Utf8.encode ['a']], ['C'], typeA_ne_nil, typeA_ne_nil⟩

/-- Both sides have added the file. -/
def listingA : Listing :=
  ⟨objectA, [stageA .integration, stageA .task], [messageA]⟩

theorem zero_not_mem_nameA : 0 ∉ Utf8.encode ['a'] := by
  rw [Utf8.zero_mem_encode]
  decide

theorem strip_letter : strip (String.ofList ['C']) = String.ofList ['C'] := by
  refine strip_eq_self fun c hc => ?_
  rw [String.toList_ofList] at hc
  rw [List.mem_singleton.1 hc]
  rfl

theorem messageA_plain : messageA.Plain where
  paths_length := by decide
  paths_free path hpath := by
    rw [List.mem_singleton.1 hpath]
    exact zero_not_mem_nameA
  type_free := by decide
  message_free := by decide
  type_stripped := strip_letter
  message_stripped := strip_letter

theorem listingA_plain : listingA.Plain where
  paths_free entry hentry := by
    have hpath : entry.path = Utf8.encode ['a'] := by
      simp only [listingA, List.mem_cons, List.not_mem_nil, or_false] at hentry
      rcases hentry with rfl | rfl <;> rfl
    rw [hpath]
    exact zero_not_mem_nameA
  messages entry hentry := by
    rw [List.mem_singleton.1 hentry]
    exact messageA_plain

theorem listingA_wellFormed : listingA.WellFormed where
  entries_ne := List.cons_ne_nil _ _
  keys := by simp [listingA, StageEntry.key, stageA]

theorem listingA_fits : listingA.Fits defaultClassifier where
  names entry hentry := by
    have hpath : entry.path = Utf8.encode ['a'] := by
      simp only [listingA, List.mem_cons, List.not_mem_nil, or_false] at hentry
      rcases hentry with rfl | rfl <;> rfl
    rw [NameFits, hpath, Utf8.fsdecode_encode]
    exact ⟨by decide, Or.inr rfl⟩
  messages entry hentry := by
    rw [List.mem_singleton.1 hentry]
    exact ⟨by decide, by decide⟩

/-- The round trip of that conflict. -/
theorem mergeTree_round_trip_listingA :
    ∃ evidence, defaultClassifier.parseConflictedMergeOutput originA listingA.encode [] =
        .ok evidence ∧ listingA.ReportedBy evidence ∧
      ∀ table, listingA.InOrder table → evidence.val.files.map MergeConflictFile.row =
        table.map fun row => (Utf8.fsdecode row.1, row.2) :=
  mergeTree_round_trip defaultClassifier originA [] listingA listingA_plain listingA_wellFormed
    listingA_fits

end DevFlow
