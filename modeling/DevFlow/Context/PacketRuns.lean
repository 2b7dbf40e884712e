/-
# The loop over the candidates

`build` takes the candidates in the order of their selection, and each of them is
selected, omitted or reused (`buildLoop_accounts`): a file that is selected shows the cuts
of what the files before it leave of the budget, and what it leaves out is recorded.  The
loop does not raise where the paths of the candidates can be recorded (`exists_buildLoop`).
-/

import DevFlow.Context.PacketFiles

namespace DevFlow

open Documents (Validated)

namespace ContextPacketBuilder

variable {builder : ContextPacketBuilder} {workspace : ContextWorkspace}
variable {candidate : PacketCandidate} {source : LoadedSource}
variable {remainingChars remainingTokens : ℕ} {truncations : List ContextTruncation}

/-! ### One candidate -/

theorem sums_file (file : ContextFile) :
    file.val.selectedChars = (shownText file.val.snippets).length ∧
      file.val.estimatedTokens = Cuts.total Char.utf8Size (shownText file.val.snippets) := by
  obtain ⟨-, -, -, hsums, -⟩ := ContextFileFields.validate_eq_ok.1 file.property
  exact ⟨hsums.selectedChars.trans (sum_charCount _),
    hsums.estimatedTokens.trans (sum_estimatedTokens _)⟩

/-- **A file keeps to the limits** that it was cut to. -/
theorem FileShown.within {file : ContextFile}
    (h : builder.FileShown candidate source remainingChars remainingTokens file truncations) :
    file.val.selectedChars ≤ builder.budget.maxCharsPerFile ∧
      file.val.selectedChars ≤ remainingChars ∧ file.val.estimatedTokens ≤ remainingTokens := by
  obtain ⟨hchars, htokens⟩ := sums_file file
  have hlength : file.val.selectedChars ≤ min builder.budget.maxCharsPerFile remainingChars := by
    rw [hchars, h.shown]
    exact Cuts.length_cuts_le
  refine ⟨hlength.trans (min_le_left _ _), hlength.trans (min_le_right _ _), ?_⟩
  rw [htokens, h.shown]
  exact Cuts.total_cuts_le

theorem FileShown.mono {file : ContextFile} {more : List ContextTruncation}
    (h : builder.FileShown candidate source remainingChars remainingTokens file truncations)
    (hsub : truncations ⊆ more) :
    builder.FileShown candidate source remainingChars remainingTokens file more :=
  { h with
    recorded := fun htruncated => by
      obtain ⟨t, ht, hrecords⟩ := h.recorded htruncated
      exact ⟨t, hsub ht, hrecords⟩ }

/-- What a candidate is loaded as. -/
def CandidateLoaded (builder : ContextPacketBuilder) (workspace : ContextWorkspace)
    (candidate : PacketCandidate) (remainingChars remainingTokens : ℕ) : LoadedCandidate → Prop
  | .inl (file, truncations) =>
    (∃ source, readSource builder.budget (workspace.reading candidate.path) = .ok source ∧
      builder.FileShown candidate source remainingChars remainingTokens file truncations) ∧
    ∀ t ∈ truncations, Records candidate.path 0 t
  | .inr truncation => Records candidate.path 1 truncation

theorem loadCandidate_eq_ok (hcandidate : CandidateSound candidate) {loaded : LoadedCandidate}
    (h : builder.loadCandidate workspace candidate remainingChars remainingTokens = .ok loaded) :
    builder.CandidateLoaded workspace candidate remainingChars remainingTokens loaded := by
  unfold loadCandidate at h
  split at h
  · obtain ⟨truncation, hmake, rfl⟩ := Raising.map_eq_ok.1 h
    exact records_of_make rfl hmake
  · rename_i source hread
    have hloaded : builder.LoadedFrom candidate source remainingChars remainingTokens loaded := by
      split_ifs at h with hregions
      · exact loadPrefixCandidate_eq_ok hregions hread h
      · exact loadRegionCandidate_eq_ok hcandidate hregions h
    cases loaded with
    | inl pair => exact ⟨⟨source, hread, hloaded.1⟩, hloaded.2⟩
    | inr truncation => exact hloaded.1

/-- A path that a packet can speak of. -/
structure PathReadable (builder : ContextPacketBuilder) (workspace : ContextWorkspace)
    (path : String) : Prop where
  recorded : PathRecorded path
  detail : ∀ failure, readSource builder.budget (workspace.reading path) = .error failure →
    failure.detail.length ≤ 2000

theorem one_le_length_append {front back : String} (h : 1 ≤ front.length) :
    1 ≤ (front ++ back).length := by
  rw [String.length_append]
  omega

theorem one_le_length_tooLarge (budget : ContextBudget) (size : ℕ) :
    1 ≤ (SourceFailure.tooLarge budget size).detail.length := by
  unfold SourceFailure.tooLarge
  refine one_le_length_append (one_le_length_append (one_le_length_append
    (one_le_length_append ?_)))
  decide +kernel

/-- A failure says something. -/
theorem one_le_length_detail {budget : ContextBudget} {reading : PathReading}
    {failure : SourceFailure} (h : readSource budget reading = .error failure) :
    1 ≤ failure.detail.length := by
  unfold readSource at h
  split at h
  · obtain rfl := Except.error.inj h
    exact one_le_length_append (by decide +kernel)
  · obtain rfl := Except.error.inj h
    dsimp only
    decide +kernel
  · obtain rfl := Except.error.inj h
    exact one_le_length_append (by decide +kernel)
  · split_ifs at h
    · obtain rfl := Except.error.inj h
      exact one_le_length_tooLarge _ _
    split at h
    · obtain rfl := Except.error.inj h
      exact one_le_length_append (by decide +kernel)
    · split_ifs at h
      · obtain rfl := Except.error.inj h
        exact one_le_length_tooLarge _ _
      split at h
      · obtain rfl := Except.error.inj h
        dsimp only
        decide +kernel
      · cases h

/-- A file that is not too large fails in a few words. -/
theorem length_detail_file {budget : ContextBudget} {size : ℕ} {raw : List UInt8}
    {failure : SourceFailure} (hsize : size ≤ budget.maxSourceFileBytes)
    (hraw : raw.length ≤ budget.maxSourceFileBytes)
    (h : readSource budget (.file size (.ok raw)) = .error failure) :
    failure.detail.length ≤ 2000 := by
  unfold readSource at h
  dsimp only at h
  rw [if_neg (Nat.not_lt.2 hsize), if_neg (Nat.not_lt.2 hraw)] at h
  split at h
  · obtain rfl := Except.error.inj h
    dsimp only
    decide +kernel
  · cases h

theorem exists_loadCandidate (hcandidate : CandidateSound candidate)
    (hpath : builder.PathReadable workspace candidate.path) :
    ∃ loaded, builder.loadCandidate workspace candidate remainingChars remainingTokens =
      .ok loaded := by
  unfold loadCandidate
  split
  · rename_i failure hread
    obtain ⟨truncation, hmake⟩ := exists_make_truncation
      (rfl : ({ reason := failure.reason
                path := some candidate.path
                detail := failure.detail
                omittedFiles := 1 } : ContextTruncationFields).path = _) hpath.recorded
      ⟨one_le_length_detail hread, hpath.detail failure hread⟩
    exact ⟨_, Raising.map_eq_ok.2 ⟨truncation, hmake, rfl⟩⟩
  · rename_i source hread
    split_ifs with hregions
    · exact exists_loadPrefixCandidate hcandidate hregions hpath.recorded hread
    · exact exists_loadRegionCandidate hcandidate hregions hpath.recorded hread

/-! ### The loop -/

/-- Files that show their candidates, each cut to what the ones before it leave. -/
inductive FilesShown (builder : ContextPacketBuilder) (workspace : ContextWorkspace)
    (truncations : List ContextTruncation) :
    ℕ → ℕ → List PacketCandidate → List ContextFile → Prop
  | nil (remainingChars remainingTokens : ℕ) :
    FilesShown builder workspace truncations remainingChars remainingTokens [] []
  | cons {remainingChars remainingTokens : ℕ} {candidate : PacketCandidate}
      {source : LoadedSource} {file : ContextFile} {candidates : List PacketCandidate}
      {files : List ContextFile} :
    readSource builder.budget (workspace.reading candidate.path) = .ok source →
    builder.FileShown candidate source remainingChars remainingTokens file truncations →
    FilesShown builder workspace truncations (remainingChars - file.val.selectedChars)
      (remainingTokens - file.val.estimatedTokens) candidates files →
    FilesShown builder workspace truncations remainingChars remainingTokens
      (candidate :: candidates) (file :: files)

theorem FilesShown.mono {more : List ContextTruncation} {candidates : List PacketCandidate}
    {files : List ContextFile} (hsub : truncations ⊆ more)
    (h : FilesShown builder workspace truncations remainingChars remainingTokens candidates
      files) :
    FilesShown builder workspace more remainingChars remainingTokens candidates files := by
  induction h with
  | nil => exact .nil _ _
  | cons hread hfile _ ih => exact .cons hread (hfile.mono hsub) ih

/-- **Together the files keep to the budget.** -/
theorem FilesShown.sums_le {candidates : List PacketCandidate} {files : List ContextFile}
    (h : FilesShown builder workspace truncations remainingChars remainingTokens candidates
      files) :
    (files.map (·.val.selectedChars)).sum ≤ remainingChars ∧
      (files.map (·.val.estimatedTokens)).sum ≤ remainingTokens := by
  induction h with
  | nil => exact ⟨Nat.zero_le _, Nat.zero_le _⟩
  | cons _ hfile _ ih =>
    obtain ⟨-, hchars, htokens⟩ := hfile.within
    rw [List.map_cons, List.map_cons, List.sum_cons, List.sum_cons]
    omega

theorem FilesShown.perFile {candidates : List PacketCandidate} {files : List ContextFile}
    (h : FilesShown builder workspace truncations remainingChars remainingTokens candidates
      files) : ∀ file ∈ files, file.val.selectedChars ≤ builder.budget.maxCharsPerFile := by
  induction h with
  | nil => exact List.forall_mem_nil _
  | cons _ hfile _ ih => exact List.forall_mem_cons.2 ⟨hfile.within.1, ih⟩

/-- The files have the paths of their candidates. -/
theorem FilesShown.paths {candidates : List PacketCandidate} {files : List ContextFile}
    (h : FilesShown builder workspace truncations remainingChars remainingTokens candidates files)
    (hnormal : ∀ c ∈ candidates, normalizeContextPath c.path = .ok c.path) :
    files.map (·.val.path) = candidates.map PacketCandidate.path := by
  induction h with
  | nil => rfl
  | cons _ hfile _ ih =>
    rw [List.forall_mem_cons] at hnormal
    have hpath := hfile.path
    rw [hnormal.1] at hpath
    rw [List.map_cons, List.map_cons, ih hnormal.2, Except.ok.inj hpath]

variable {resume : Option ContinuationStateRecord} {changed : List String}

/-- **Every candidate is accounted for**: it is selected, omitted or reused. -/
structure Accounts (builder : ContextPacketBuilder) (workspace : ContextWorkspace)
    (resume : Option ContinuationStateRecord) (changed : List String)
    (candidates selected omitted reused : List PacketCandidate) (state state' : PacketState)
    (files : List ContextFile) (truncations : List ContextTruncation) : Prop where
  perm : (selected ++ omitted ++ reused).Perm candidates
  order : selected.Sublist candidates
  selectedFiles : state'.selectedFiles = state.selectedFiles ++ files
  recordedFor : state'.truncations = state.truncations ++ truncations
  shown : FilesShown builder workspace truncations state.remainingChars state.remainingTokens
    selected files
  omittedFiles : state'.omittedFiles = state.omittedFiles + omitted.length
  reusedFiles : state'.reusedFiles = state.reusedFiles + reused.length
  /-- The truncations account for the candidates that are omitted. -/
  recorded : (truncations.map (·.val.omittedFiles)).sum = omitted.length
  reuse : ∀ c ∈ reused, builder.canReuseCandidate workspace resume changed c = true
  maxFiles : state.selectedFiles.length ≤ builder.budget.maxFiles →
    state'.selectedFiles.length ≤ builder.budget.maxFiles

theorem stop_eq_ok {state state' : PacketState} {reason : ContextTruncationReason}
    {detail : String} {n : ℕ} (h : state.stop reason detail n = .ok state') :
    ∃ truncation, truncation.val.omittedFiles = n ∧ state' = { state with
      omittedFiles := state.omittedFiles + n
      truncations := state.truncations ++ [truncation] } := by
  simp only [PacketState.stop, Raising.bind_eq_ok, Raising.pure_eq_ok] at h
  obtain ⟨truncation, hmake, rfl⟩ := h
  obtain ⟨-, -, path, -, hval⟩ :=
    ContextTruncationFields.validate_eq_ok.1 (Validated.make_eq_ok.1 hmake)
  exact ⟨truncation, by rw [hval], rfl⟩

/-- The loop ends with all candidates that are left. -/
theorem accounts_stop {candidates : List PacketCandidate} {state state' : PacketState}
    {reason : ContextTruncationReason} {detail : String}
    (h : state.stop reason detail candidates.length = .ok state') :
    ∃ selected omitted reused files truncations, builder.Accounts workspace resume changed
      candidates selected omitted reused state state' files truncations := by
  obtain ⟨truncation, homitted, rfl⟩ := stop_eq_ok h
  exact ⟨[], candidates, [], [], [truncation],
    { perm := by simp
      order := List.nil_sublist _
      selectedFiles := (List.append_nil _).symm
      recordedFor := rfl
      shown := .nil _ _
      omittedFiles := rfl
      reusedFiles := rfl
      recorded := by simp [homitted]
      reuse := List.forall_mem_nil _
      maxFiles := id }⟩

/-- **The loop accounts for every candidate.** -/
theorem buildLoop_accounts {candidates : List PacketCandidate}
    (hcandidates : ∀ c ∈ candidates, CandidateSound c) {state state' : PacketState}
    (h : builder.buildLoop workspace resume changed candidates state = .ok state') :
    ∃ selected omitted reused files truncations, builder.Accounts workspace resume changed
      candidates selected omitted reused state state' files truncations := by
  induction candidates generalizing state with
  | nil =>
    obtain rfl := Except.ok.inj h
    exact ⟨[], [], [], [], [],
      { perm := List.Perm.nil
        order := List.Sublist.refl _
        selectedFiles := (List.append_nil _).symm
        recordedFor := (List.append_nil _).symm
        shown := .nil _ _
        omittedFiles := rfl
        reusedFiles := rfl
        recorded := rfl
        reuse := List.forall_mem_nil _
        maxFiles := id }⟩
  | cons candidate rest ih =>
    rw [List.forall_mem_cons] at hcandidates
    rw [buildLoop] at h
    split_ifs at h with hfull hreuse hchars htokens
    · exact accounts_stop h
    · obtain ⟨selected, omitted, reused, files, truncations, hrest⟩ := ih hcandidates.2 h
      exact ⟨selected, omitted, candidate :: reused, files, truncations,
        { hrest with
          perm := List.perm_middle.trans (hrest.perm.cons candidate)
          order := hrest.order.cons candidate
          reusedFiles := by
            rw [hrest.reusedFiles, List.length_cons]
            dsimp only
            omega
          reuse := List.forall_mem_cons.2 ⟨hreuse, hrest.reuse⟩ }⟩
    · exact accounts_stop h
    · exact accounts_stop h
    · obtain ⟨loaded, hload, hloop⟩ := Raising.bind_eq_ok.1 h
      obtain ⟨selected, omitted, reused, files, truncations, hrest⟩ := ih hcandidates.2 hloop
      have hloaded := loadCandidate_eq_ok hcandidates.1 hload
      cases loaded with
      | inl pair =>
        obtain ⟨file, new⟩ := pair
        obtain ⟨⟨source, hread, hfile⟩, hnew⟩ := hloaded
        have hzero : (new.map (·.val.omittedFiles)).sum = 0 :=
          List.sum_eq_zero fun n hn => by
            obtain ⟨t, ht, rfl⟩ := List.mem_map.1 hn
            exact (hnew t ht).1
        exact ⟨candidate :: selected, omitted, reused, file :: files, new ++ truncations,
          { perm := hrest.perm.cons candidate
            order := hrest.order.cons_cons candidate
            selectedFiles := by
              rw [hrest.selectedFiles]
              exact List.append_assoc _ _ _
            recordedFor := by
              rw [hrest.recordedFor]
              exact List.append_assoc _ _ _
            shown := .cons hread (hfile.mono (List.subset_append_left _ _))
              (hrest.shown.mono (List.subset_append_right _ _))
            omittedFiles := hrest.omittedFiles
            reusedFiles := hrest.reusedFiles
            recorded := by rw [List.map_append, List.sum_append, hzero, hrest.recorded, zero_add]
            reuse := hrest.reuse
            maxFiles := fun _ => hrest.maxFiles (by
              dsimp only [PacketState.add]
              rw [List.length_append, List.length_singleton]
              omega) }⟩
      | inr truncation =>
        exact ⟨selected, candidate :: omitted, reused, files, truncation :: truncations,
          { perm := by
              rw [List.append_assoc, List.cons_append]
              refine List.perm_middle.trans ?_
              rw [← List.append_assoc]
              exact hrest.perm.cons candidate
            order := hrest.order.cons candidate
            selectedFiles := hrest.selectedFiles
            recordedFor := by
              rw [hrest.recordedFor]
              exact List.append_assoc _ _ _
            shown := hrest.shown.mono (List.subset_cons_self _ _)
            omittedFiles := by
              rw [hrest.omittedFiles, List.length_cons]
              dsimp only [PacketState.add]
              omega
            reusedFiles := hrest.reusedFiles
            recorded := by
              rw [List.map_cons, List.sum_cons, hrest.recorded, hloaded.1, List.length_cons]
              omega
            reuse := hrest.reuse
            maxFiles := hrest.maxFiles }⟩

/-- The loop can be ended. -/
theorem exists_stop (state : PacketState) {reason : ContextTruncationReason} {detail : String}
    (hdetail : 1 ≤ detail.length ∧ detail.length ≤ 2000) (n : ℕ) :
    ∃ state', state.stop reason detail n = .ok state' := by
  unfold PacketState.stop
  refine Raising.exists_bind_eq_ok ?_ fun truncation _ => ⟨_, rfl⟩
  refine Validated.exists_make_iff.2 ⟨_, ContextTruncationFields.validate_eq_ok.2
    ⟨?_, hdetail, none, rfl, rfl⟩⟩
  dsimp only [Option.getD_none]
  decide

/-- The end at the count of files says so in a few words. -/
theorem length_fileCountDetail (budget : ContextBudget) :
    1 ≤ ("Remaining visible files were omitted because the context file-count budget of " ++
        toString budget.maxFiles ++ " was exhausted.").length ∧
      ("Remaining visible files were omitted because the context file-count budget of " ++
        toString budget.maxFiles ++ " was exhausted.").length ≤ 2000 := by
  have hdigits : (toString budget.maxFiles).length ≤ 6 :=
    length_toString_le (budget.files_bounds.2.trans (by decide))
  have hfront :
      "Remaining visible files were omitted because the context file-count budget of ".length =
        78 := by decide +kernel
  have hback : " was exhausted.".length = 15 := by decide +kernel
  rw [String.length_append, String.length_append]
  omega

/-- **The loop does not raise** where the paths can be recorded. -/
theorem exists_buildLoop {candidates : List PacketCandidate}
    (hcandidates : ∀ c ∈ candidates,
      CandidateSound c ∧ builder.PathReadable workspace c.path) (state : PacketState) :
    ∃ state', builder.buildLoop workspace resume changed candidates state = .ok state' := by
  induction candidates generalizing state with
  | nil => exact ⟨state, rfl⟩
  | cons candidate rest ih =>
    rw [List.forall_mem_cons] at hcandidates
    rw [buildLoop]
    split_ifs with hfull hreuse hchars htokens
    · exact exists_stop state (length_fileCountDetail builder.budget) _
    · exact ih hcandidates.2 _
    · exact exists_stop state (by decide +kernel) _
    · exact exists_stop state (by decide +kernel) _
    · exact Raising.exists_bind_eq_ok (exists_loadCandidate hcandidates.1.1 hcandidates.1.2)
        fun loaded _ => ih hcandidates.2 _

end ContextPacketBuilder

end DevFlow
