/-
# The format of `git merge-tree -z`

What the output writes, apart from how it is parsed: a `Listing` is the tree, the
stages of the conflicted paths and the messages, and `Listing.WrittenIn` says field
by field that an output writes it, a number as `int` reads it and a text as it is
after `strip`.  The parser returns a listing that the output writes and no other
(`parse_cases`), it returns every well-formed listing whose texts are within the
bounds of the records, and where it raises anything but its own error a text is out
of these bounds (`mergeTree_parse_exact`).
-/

import DevFlow.Runtime.MergeTreeMessages

namespace DevFlow

open MergeConflictClassifier
open Utf8 (NameChar)

/-! ### The evidence -/

theorem length_truncatedMark : truncatedMark.length = 15 :=
  rfl

/-- The raw evidence is within its bounds. -/
theorem length_boundedRawEvidence (classifier : MergeConflictClassifier) (stdout stderr : List UInt8) :
    1 ≤ (classifier.boundedRawEvidence stdout stderr).1.length ∧
      (classifier.boundedRawEvidence stdout stderr).1.length ≤ 16000 := by
  have hbounds := classifier.limit_bounds
  unfold boundedRawEvidence
  simp only
  split_ifs with hshort hshort
  all_goals
    simp only [List.length_append, List.length_take, length_truncatedMark, String.reduceToList,
      List.length_cons, List.length_nil] at *
    omega

theorem nodup_conflictTypes (messages : List MergeConflictMessage) :
    (conflictTypes messages).Nodup := by
  unfold conflictTypes
  simp only
  split_ifs
  · exact Groups.nodup_eraseDups _
  · exact Groups.nodup_eraseDups _

theorem mem_of_mem_conflictTypes {messages : List MergeConflictMessage} {conflictType : List Char}
    (h : conflictType ∈ conflictTypes messages) :
    conflictType ∈ messages.map MergeConflictMessage.conflictType := by
  unfold conflictTypes at h
  simp only at h
  split_ifs at h
  · exact List.mem_of_mem_filter (List.mem_eraseDups.1 h)
  · exact List.mem_of_mem_filter (List.mem_eraseDups.1 h)

/-- The fields of the evidence, as the parser puts them together. -/
def evidenceFields (classifier : MergeConflictClassifier) (origin : ConflictOrigin)
    (stdout stderr : List UInt8) (tree : ObjectId) (files : List MergeConflictFile)
    (messages : List MergeConflictMessage) : MergeConflictFields :=
  { origin with
    conflictedTree := tree
    conflictingPaths := files.map MergeConflictFile.path
    conflictTypes := conflictTypes messages
    files
    messages
    rawGitEvidence := (classifier.boundedRawEvidence stdout stderr).1
    rawGitEvidenceTruncated := (classifier.boundedRawEvidence stdout stderr).2 }

/-- **The last validator accepts what the parser puts together.** -/
theorem consistent_evidenceFields (classifier : MergeConflictClassifier) (origin : ConflictOrigin)
    (stdout stderr : List UInt8) (tree : ObjectId) {entries : List StageEntry}
    {files : List MergeConflictFile} (messages : List MergeConflictMessage) (hne : entries ≠ [])
    (hfiles : files.map MergeConflictFile.row = fileRows entries) :
    (evidenceFields classifier origin stdout stderr tree files messages).Consistent where
  files_ne := by
    rintro rfl
    have hrows : fileRows entries = [] := hfiles.symm
    rw [fileRows, List.map_eq_nil_iff, groupedStages, Groups.groups_eq_nil_iff,
      List.map_eq_nil_iff] at hrows
    exact hne hrows
  distinct := by
    have hpaths : files.map MergeConflictFile.path =
        (groupedStages entries).map Prod.fst := by
      calc files.map MergeConflictFile.path
          = (files.map MergeConflictFile.row).map Prod.fst := by rw [List.map_map]; rfl
        _ = (groupedStages entries).map Prod.fst := by rw [hfiles, fileRows, List.map_map]; rfl
    change (files.map MergeConflictFile.path).Nodup
    rw [hpaths]
    exact Groups.keyed_groups _
  paths_eq := rfl
  types_distinct := nodup_conflictTypes messages
  types_backed _ h := mem_of_mem_conflictTypes h
  raw_length := length_boundedRawEvidence classifier stdout stderr

/-! ### The whole output -/

/-- What an output lists. -/
structure Listing where
  tree : ObjectId
  entries : List StageEntry
  messages : List MessageEntry

namespace Listing

variable {listing : Listing} {stdout : List UInt8} {records rest : List (List UInt8)}
  {groups : List (List (List UInt8))}

/-- The output starts with the listing: the tree, the stages, an empty field and the messages,
and then the rest of the fields. -/
structure Starts (listing : Listing) (stdout : List UInt8) (records : List (List UInt8))
    (groups : List (List (List UInt8))) (rest : List (List UInt8)) : Prop where
  fields : stdout.splitOn 0 =
    Utf8.encode listing.tree.val.toList :: (records ++ [] :: (groups.flatten ++ rest))
  /-- No field goes without its zero byte. -/
  terminated : ∀ field ∈ (groups.flatten ++ rest).getLast?, field = []
  stages : List.Forall₂ StageEntry.WrittenIn listing.entries records
  messages : MessagesWrittenIn listing.messages groups

/-- **The output writes the listing**, and empty fields at most after it.  Without messages the
field behind the last zero byte may be the empty one that ends the stages. -/
def WrittenIn (listing : Listing) (stdout : List UInt8) : Prop :=
  ∃ records groups ending, listing.Starts stdout records groups ending ∧
    ∀ field ∈ ending, field = []

/-- What Git writes: a conflict has a stage, and no stage of a path twice. -/
structure WellFormed (listing : Listing) : Prop where
  entries_ne : listing.entries ≠ []
  keys : (listing.entries.map StageEntry.key).Nodup

/-- The records take the names and the texts of the listing. -/
structure Fits (classifier : MergeConflictClassifier) (listing : Listing) : Prop where
  names : ∀ entry ∈ listing.entries, NameFits classifier entry.path
  messages : ∀ entry ∈ listing.messages, entry.Fits

/-- The evidence says what the listing says: its files are the paths in the order in which they
come up, each with its stages in their order, and its messages are in the order of the output. -/
structure ReportedBy (listing : Listing) (evidence : MergeConflictRecord) : Prop where
  tree : evidence.val.conflictedTree = listing.tree
  files : evidence.val.files.map MergeConflictFile.row = fileRows listing.entries
  messages : List.Forall₂ MessageEntry.SaidBy listing.messages evidence.val.messages

end Listing

/-- A text is out of the bounds of the records where the parser gets to it: a message, whatever
comes after it, or the path of a stage at the end of an output without other errors. -/
def Overlong (classifier : MergeConflictClassifier) (stdout : List UInt8) : Prop :=
  ∃ (listing : Listing) (records : List (List UInt8)) (groups : List (List (List UInt8)))
    (rest : List (List UInt8)), listing.Starts stdout records groups rest ∧
      (listing.entries.map StageEntry.key).Nodup ∧
      ((∃ entry ∈ listing.messages, ¬entry.Fits) ∨
        (∀ field ∈ rest, field = []) ∧ listing.entries ≠ [] ∧
          ∃ entry ∈ listing.entries, ¬NameFits classifier entry.path)

theorem decodeOid_eq_ok {value : List UInt8} {label : String} {tree : ObjectId} :
    decodeOid value label = .ok tree ↔ value = Utf8.encode tree.val.toList := by
  unfold decodeOid
  constructor
  · intro h
    split at h
    · cases h
    · rename_i decoded hdecoded
      split_ifs at h with hoid
      obtain rfl := Except.ok.inj h
      rw [String.toList_ofList, (decodeAscii_eq_some_iff.1 hdecoded).1]
  · rintro rfl
    rw [decodeAscii_encode (ascii_of_isFullOid tree.property)]
    simp only [String.ofList_toList, tree.property, dite_true]
    rfl

theorem decodeOid_eq_error {value : List UInt8} {label : String} {failure : Failure}
    (h : decodeOid value label = .error failure) : ∃ text, failure = classificationError text := by
  unfold decodeOid at h
  split at h
  · exact ⟨_, (Except.error.inj h).symm⟩
  · split_ifs at h
    exact ⟨_, (Except.error.inj h).symm⟩

theorem makeStage_eq_error {number : ℤ} {mode objectId : String} {failure : Failure}
    (h : makeStage number mode objectId = .error failure) :
    ∃ text, failure = classificationError text := by
  unfold makeStage at h
  split at h
  · exact ⟨_, (Except.error.inj h).symm⟩
  · split_ifs at h
    all_goals exact ⟨_, (Except.error.inj h).symm⟩

theorem parseStageRecord_eq_error {record : List UInt8} {failure : Failure}
    (h : parseStageRecord record = .error failure) :
    ∃ text, failure = classificationError text := by
  unfold parseStageRecord at h
  rcases Raising.bind_eq_error.1 h with hcheck | ⟨_, -, h⟩
  · exact ⟨_, (Raising.raiseIf_eq_error.1 hcheck).2.symm⟩
  split at h
  · split at h
    · rcases Raising.bind_eq_error.1 h with hstage | ⟨_, -, hreturn⟩
      · exact makeStage_eq_error hstage
      · cases hreturn
    · exact ⟨_, (Except.error.inj h).symm⟩
  · exact ⟨_, (Except.error.inj h).symm⟩

/-- The loop over the stage records raises nothing but the parser's own error. -/
theorem foldlM_addStage_eq_error {records : List (List UInt8)}
    {grouped : List (List NameChar × List MergeConflictStage)} {failure : Failure}
    (h : records.foldlM addStage grouped = .error failure) :
    ∃ text, failure = classificationError text := by
  induction records generalizing grouped with
  | nil => cases h
  | cons record records ih =>
    rcases Raising.bind_eq_error.1 h with hround | ⟨table, -, hrest⟩
    · rcases Raising.bind_eq_error.1 hround with hrecord | ⟨_, -, hround⟩
      · exact parseStageRecord_eq_error hrecord
      rcases Raising.bind_eq_error.1 hround with hdup | ⟨_, -, hreturn⟩
      · exact ⟨_, (Raising.raiseIf_eq_error.1 hdup).2.symm⟩
      · cases hreturn
    · exact ih hrest

theorem record_ne_nil {entries : List StageEntry} {records : List (List UInt8)}
    (h : List.Forall₂ StageEntry.WrittenIn entries records) : ∀ record ∈ records, record ≠ [] := by
  induction h with
  | nil => exact fun record hrecord => absurd hrecord List.not_mem_nil
  | cons hentry _ ih =>
    rw [List.forall_mem_cons, and_iff_left ih]
    obtain ⟨metadata, number, rfl, -⟩ := hentry
    exact List.append_ne_nil_of_right_ne_nil _ (List.cons_ne_nil _ _)

section Output

variable (classifier : MergeConflictClassifier) (origin : ConflictOrigin)
  (stdout stderr : List UInt8)

/-- What the parser does once it has read the tree, the stages and the messages. -/
def finish (tree : ObjectId) (grouped : List (List NameChar × List MergeConflictStage))
    (messages : List MergeConflictMessage) : Except Failure MergeConflictRecord := do
  Raising.raiseIf (grouped = [])
    (classificationError "merge-tree reported a conflict without staged conflict paths")
  let files ← grouped.mapM fun row => classifier.makeFile row.1 (sortStages row.2)
  makeEvidence (evidenceFields classifier origin stdout stderr tree files messages)

variable {classifier origin stdout stderr}

/-- **The parser, part after part,** on an output that is terminated. -/
theorem parse_of_fields {first : List UInt8} {records fields : List (List UInt8)}
    (hparts : stdout.splitOn 0 = first :: (records ++ [] :: fields))
    (hrecords : ∀ record ∈ records, record ≠ []) (hlast : ∀ field ∈ fields.getLast?, field = [])
    (hlength : records ≠ [] ∨ fields ≠ []) :
    classifier.parseConflictedMergeOutput origin stdout stderr = (do
      let tree ← decodeOid first "conflicted tree"
      let grouped ← records.foldlM addStage []
      let messages ← parseMessages fields
      finish classifier origin stdout stderr tree grouped messages) := by
  have hend : (first :: (records ++ [] :: fields)).getLast? = some [] := by
    rw [List.getLast?_cons_of_ne_nil (List.append_ne_nil_of_right_ne_nil _ (List.cons_ne_nil _ _)),
      List.getLast?_append_of_ne_nil _ (List.cons_ne_nil _ _)]
    cases hfields : fields.getLast? with
    | none =>
      rw [List.getLast?_eq_none_iff.1 hfields]
      rfl
    | some field =>
      have hne : fields ≠ [] := by
        rintro rfl
        cases hfields
      rw [List.getLast?_cons_of_ne_nil hne, hfields, hlast field hfields]
  have hlong : ¬(first :: (records ++ [] :: fields)).length < 3 := by
    have hpos : 0 < records.length ∨ 0 < fields.length := by
      simpa only [List.length_pos_iff] using hlength
    simp only [List.length_cons, List.length_append]
    omega
  have htake : (records ++ [] :: fields).takeWhile (· ≠ []) = records := by
    rw [List.takeWhile_append_of_pos fun record hrecord => decide_eq_true (hrecords record hrecord),
      List.takeWhile_cons_of_neg (by simp), List.append_nil]
  have hdrop : (records ++ [] :: fields).dropWhile (· ≠ []) = [] :: fields := by
    rw [List.dropWhile_append_of_pos fun record hrecord => decide_eq_true (hrecords record hrecord),
      List.dropWhile_cons_of_neg (by simp)]
  unfold parseConflictedMergeOutput finish
  simp only [hparts, hend, hlong, ne_eq, not_true_eq_false, or_self,
    Raising.raiseIf_of_not not_false, Raising.ok_bind, List.headD_cons, List.tail_cons] at *
  simp only [htake, hdrop, List.cons_ne_nil, Raising.raiseIf_of_not not_false, Raising.ok_bind,
    List.tail_cons]
  rfl

/-- The fields of an output that is terminated, or the error. -/
theorem fields_cases (classifier : MergeConflictClassifier) (origin : ConflictOrigin)
    (stdout stderr : List UInt8) :
    (∃ text, classifier.parseConflictedMergeOutput origin stdout stderr =
        .error (classificationError text)) ∨
      ∃ (first : List UInt8) (records fields : List (List UInt8)),
        stdout.splitOn 0 = first :: (records ++ [] :: fields) ∧
          (∀ record ∈ records, record ≠ []) ∧ (∀ field ∈ fields.getLast?, field = []) ∧
          (records ≠ [] ∨ fields ≠ []) := by
  by_cases hbad : (stdout.splitOn 0).length < 3 ∨ (stdout.splitOn 0).getLast? ≠ some []
  · refine Or.inl ⟨"merge-tree -z output is not NUL terminated", ?_⟩
    unfold parseConflictedMergeOutput
    simp only [Raising.raiseIf_of hbad, Raising.error_bind]
  · rw [not_or, not_not, not_lt] at hbad
    obtain ⟨hlong, hend⟩ := hbad
    refine Or.inr ?_
    obtain ⟨first, tail, hparts⟩ := List.exists_cons_of_ne_nil (List.splitOn_ne_nil 0 stdout)
    rw [hparts, List.length_cons] at hlong
    have hne : tail ≠ [] := List.length_pos_iff.1 (by omega)
    rw [hparts, List.getLast?_cons_of_ne_nil hne] at hend
    have hstop : ∃ fields, tail.dropWhile (· ≠ []) = [] :: fields := by
      cases hdrop : tail.dropWhile (· ≠ []) with
      | nil =>
        have hall := List.dropWhile_eq_nil_iff.1 hdrop [] (List.mem_of_getLast? hend)
        simp at hall
      | cons field fields =>
        have hhead := List.head?_dropWhile_not (· ≠ ([] : List UInt8)) tail
        rw [hdrop] at hhead
        simp only [List.head?_cons, ne_eq, decide_not, Bool.not_eq_false',
          decide_eq_true_eq] at hhead
        exact ⟨fields, by rw [hhead]⟩
    obtain ⟨fields, hdrop⟩ := hstop
    have hsplit : tail = tail.takeWhile (· ≠ []) ++ [] :: fields := by
      rw [← hdrop, List.takeWhile_append_dropWhile]
    refine ⟨first, tail.takeWhile (· ≠ []), fields, by rw [← hsplit, hparts], ?_, ?_, ?_⟩
    · intro record hrecord
      have hmem := List.mem_takeWhile_imp hrecord
      simpa using hmem
    · intro field hfield
      have hfields : fields ≠ [] := by
        rintro rfl
        cases hfield
      rw [hsplit, List.getLast?_append_of_ne_nil _ (List.cons_ne_nil _ _),
        List.getLast?_cons_of_ne_nil hfields] at hend
      rw [Option.mem_def, hend, Option.some.injEq] at hfield
      exact hfield.symm
    · by_contra hnone
      rw [not_or, not_not, not_not] at hnone
      rw [hsplit, hnone.1, hnone.2] at hlong
      simp at hlong

/-- Without a stage there is no conflict. -/
theorem finish_nil (tree : ObjectId) (messages : List MergeConflictMessage) :
    finish classifier origin stdout stderr tree (groupedStages []) messages =
      .error (classificationError
        "merge-tree reported a conflict without staged conflict paths") := by
  rfl

/-- A name that does not fit. -/
theorem finish_of_unfit {entries : List StageEntry} (hkeys : (entries.map StageEntry.key).Nodup)
    (hunfit : ∃ entry ∈ entries, ¬NameFits classifier entry.path) (tree : ObjectId)
    (messages : List MergeConflictMessage) :
    finish classifier origin stdout stderr tree (groupedStages entries) messages =
      .error (recordError "MergeConflictFile") := by
  obtain ⟨entry, hentry, hbad⟩ := hunfit
  have hne : groupedStages entries ≠ [] := by
    rw [groupedStages, ne_eq, Groups.groups_eq_nil_iff, List.map_eq_nil_iff]
    exact List.ne_nil_of_mem hentry
  unfold finish
  rw [Raising.raiseIf_of_not hne, Raising.ok_bind]
  cases hfiles : (groupedStages entries).mapM
      fun row => classifier.makeFile row.1 (sortStages row.2) with
  | ok files => exact absurd ((exists_mapM_makeFile_iff hkeys).1 ⟨files, hfiles⟩ entry hentry) hbad
  | error failure =>
    obtain ⟨row, -, hrow⟩ := Raising.mapM_eq_error hfiles
    rw [makeFile_eq_error hrow]
    rfl

/-- **Names that fit make the evidence.** -/
theorem finish_of_fits {entries : List StageEntry} (hne : entries ≠ [])
    (hkeys : (entries.map StageEntry.key).Nodup)
    (hfits : ∀ entry ∈ entries, NameFits classifier entry.path) (tree : ObjectId)
    (messages : List MergeConflictMessage) :
    ∃ evidence, finish classifier origin stdout stderr tree (groupedStages entries) messages =
        .ok evidence ∧ evidence.val.conflictedTree = tree ∧
      evidence.val.files.map MergeConflictFile.row = fileRows entries ∧
      evidence.val.messages = messages := by
  have hgrouped : groupedStages entries ≠ [] := by
    rw [groupedStages, ne_eq, Groups.groups_eq_nil_iff, List.map_eq_nil_iff]
    exact hne
  obtain ⟨files, hfiles⟩ := (exists_mapM_makeFile_iff hkeys).2 hfits
  have hrows := mapM_makeFile_eq_ok hfiles
  refine ⟨⟨_, consistent_evidenceFields classifier origin stdout stderr tree messages hne hrows⟩,
    ?_, rfl, hrows, rfl⟩
  unfold finish
  rw [Raising.raiseIf_of_not hgrouped, Raising.ok_bind, hfiles, Raising.ok_bind, makeEvidence,
    dif_pos]

/-- **An output that writes a listing is read as the listing**, when the listing is well formed
and fits. -/
theorem parse_of_writtenIn {listing : Listing} (hwritten : listing.WrittenIn stdout)
    (hwell : listing.WellFormed) (hfits : listing.Fits classifier) :
    ∃ evidence, classifier.parseConflictedMergeOutput origin stdout stderr = .ok evidence ∧
      listing.ReportedBy evidence := by
  obtain ⟨records, groups, ending, hstarts, hending⟩ := hwritten
  have hrecords : records ≠ [] := by
    rintro rfl
    exact hwell.entries_ne (List.forall₂_nil_right_iff.1 hstarts.stages)
  obtain ⟨messages, hmessages, hsaid⟩ :=
    parseMessages_of_fits hstarts.messages hfits.messages hending
  obtain ⟨evidence, hfinish, htree, hfiles, hsame⟩ := @finish_of_fits classifier
    origin stdout stderr _ hwell.entries_ne hwell.keys hfits.names
    listing.tree messages
  refine ⟨evidence, ?_, htree, hfiles, hsame ▸ hsaid⟩
  rw [parse_of_fields hstarts.fields (record_ne_nil hstarts.stages) hstarts.terminated
    (Or.inl hrecords), decodeOid_eq_ok.2 rfl, Raising.ok_bind,
    foldlM_addStage_eq_ok.2 ⟨listing.entries, hstarts.stages, hwell.keys, rfl⟩, Raising.ok_bind,
    hmessages, Raising.ok_bind, hfinish]

/-- **A text that is too long is not the parser's own error.** -/
theorem parse_of_overlong (h : Overlong classifier stdout) :
    ∃ model, classifier.parseConflictedMergeOutput origin stdout stderr =
      .error (recordError model) := by
  obtain ⟨listing, records, groups, rest, hstarts, hkeys, hlong⟩ := h
  have hparse : classifier.parseConflictedMergeOutput origin stdout stderr = (do
      let messages ← parseMessages (groups.flatten ++ rest)
      finish classifier origin stdout stderr listing.tree (groupedStages listing.entries)
        messages) := by
    have hlength : records ≠ [] ∨ groups.flatten ++ rest ≠ [] := by
      rcases hlong with ⟨entry, hentry, -⟩ | ⟨-, hne, -⟩
      · right
        obtain ⟨record, hrecord, hwritten⟩ :=
          Raising.exists_of_forall₂_left hstarts.messages hentry
        obtain ⟨count, conflictType, message, rfl, -⟩ := hwritten
        refine List.append_ne_nil_of_left_ne_nil ?_ _
        exact List.ne_nil_of_mem (List.mem_flatten.2 ⟨_, hrecord, List.mem_cons_self⟩)
      · left
        rintro rfl
        exact hne (List.forall₂_nil_right_iff.1 hstarts.stages)
    rw [parse_of_fields hstarts.fields (record_ne_nil hstarts.stages) hstarts.terminated hlength,
      decodeOid_eq_ok.2 rfl, Raising.ok_bind,
      foldlM_addStage_eq_ok.2 ⟨listing.entries, hstarts.stages, hkeys, rfl⟩, Raising.ok_bind]
  rw [hparse]
  by_cases hmessages : ∃ entry ∈ listing.messages, ¬entry.Fits
  · exact ⟨_, by rw [parseMessages_of_unfit rest hstarts.messages hmessages]; rfl⟩
  · obtain ⟨hrest, -, hnames⟩ := hlong.resolve_left hmessages
    have hfits : ∀ entry ∈ listing.messages, entry.Fits := by
      intro entry hentry
      by_contra hbad
      exact hmessages ⟨entry, hentry, hbad⟩
    obtain ⟨messages, hok, -⟩ := parseMessages_of_fits hstarts.messages hfits hrest
    exact ⟨_, by rw [hok, Raising.ok_bind, finish_of_unfit hkeys hnames]⟩

/-- **What the parser does with an output:** it raises its own error, or another one about a text
that is too long, or returns a listing that the output writes. -/
theorem parse_cases (classifier : MergeConflictClassifier) (origin : ConflictOrigin)
    (stdout stderr : List UInt8) :
    (∃ text, classifier.parseConflictedMergeOutput origin stdout stderr =
        .error (classificationError text)) ∨
      Overlong classifier stdout ∨
      ∃ (evidence : MergeConflictRecord) (listing : Listing),
        classifier.parseConflictedMergeOutput origin stdout stderr = .ok evidence ∧
          listing.WrittenIn stdout ∧ listing.WellFormed ∧ listing.Fits classifier ∧
          listing.ReportedBy evidence := by
  rcases fields_cases classifier origin stdout stderr with herror | ⟨first, records, fields, hparts,
    hrecords, hlast, hlength⟩
  · exact Or.inl herror
  rw [parse_of_fields hparts hrecords hlast hlength]
  cases htree : decodeOid first "conflicted tree" with
  | error failure =>
    obtain ⟨text, rfl⟩ := decodeOid_eq_error htree
    exact Or.inl ⟨text, rfl⟩
  | ok tree =>
    obtain rfl := decodeOid_eq_ok.1 htree
    cases hstages : records.foldlM addStage [] with
    | error failure =>
      obtain ⟨text, rfl⟩ := foldlM_addStage_eq_error hstages
      exact Or.inl ⟨text, rfl⟩
    | ok grouped =>
      obtain ⟨entries, hentries, hkeys, rfl⟩ := foldlM_addStage_eq_ok.1 hstages
      obtain ⟨messageEntries, groups, rest, rfl, hwritten, -, hcases⟩ :=
        parseMessages_spec fields hlast
      have hstarts : Listing.Starts ⟨tree, entries, messageEntries⟩ stdout records groups rest :=
        ⟨hparts, hlast, hentries, hwritten⟩
      rcases hcases with ⟨messages, hmessages, hrest, hsaid⟩ | ⟨text, herror⟩ | ⟨-, hunfit⟩
      · by_cases hne : entries = []
        · subst hne
          refine Or.inl ⟨"merge-tree reported a conflict without staged conflict paths", ?_⟩
          rw [hmessages, Raising.ok_bind, Raising.ok_bind, Raising.ok_bind, finish_nil]
        by_cases hnames : ∃ entry ∈ entries, ¬NameFits classifier entry.path
        · exact Or.inr (Or.inl ⟨_, records, groups, rest, hstarts, hkeys,
            Or.inr ⟨hrest, hne, hnames⟩⟩)
        have hfits : ∀ entry ∈ entries, NameFits classifier entry.path := by
          intro entry hentry
          by_contra hbad
          exact hnames ⟨entry, hentry, hbad⟩
        obtain ⟨evidence, hfinish, hsame, hfiles, hkept⟩ := @finish_of_fits
          classifier origin stdout stderr _ hne hkeys hfits tree messages
        refine Or.inr (Or.inr ⟨evidence, ⟨tree, entries, messageEntries⟩, ?_,
          ⟨records, groups, rest, hstarts, hrest⟩, ⟨hne, hkeys⟩, ⟨hfits, ?_⟩,
          ⟨hsame, hfiles, hkept ▸ hsaid⟩⟩)
        · rw [hmessages, Raising.ok_bind, Raising.ok_bind, Raising.ok_bind, hfinish]
        · intro entry hentry
          obtain ⟨message, -, hmessage⟩ := Raising.exists_of_forall₂_left hsaid hentry
          exact MessageEntry.exists_make_iff.1 ⟨message, MessageEntry.make_eq_ok.2 hmessage⟩
      · refine Or.inl ⟨text, ?_⟩
        rw [herror]
        rfl
      · exact Or.inr (Or.inl ⟨_, records, groups, rest, hstarts, hkeys, Or.inl hunfit⟩)

end Output

end DevFlow
