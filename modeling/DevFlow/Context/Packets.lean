/-
# The packets that are built

A packet speaks of the paths of the repository that its task can see, and of no others:
each of them is a candidate once (`baseCandidates_eq_ok`, `perm_rankCandidates`).  What
`build` returns is `Exact` about them, and it returns where Git answers with paths that a
packet can present (`packet_exact`).
-/

import DevFlow.Context.PacketRuns
import DevFlow.Persistence.DagStore

namespace DevFlow

open ContextPacketBuilder

open Documents (Validated)

/-! ### Sorted sets -/

theorem perm_sortedSet (values : List String) : (sortedSet values).Perm values.dedup :=
  List.perm_insertionSort _ _

theorem nodup_sortedSet (values : List String) : (sortedSet values).Nodup :=
  (perm_sortedSet values).nodup_iff.2 (List.nodup_dedup values)

/-- What has no duplicates is sorted as the models ask for. -/
theorem pairwise_lt_insertionSort {values : List String} (h : values.Nodup) :
    (values.insertionSort (· ≤ ·)).Pairwise (· < ·) := by
  have hnodup : (values.insertionSort (· ≤ ·)).Nodup :=
    (List.perm_insertionSort _ _).nodup_iff.2 h
  have hsorted : (values.insertionSort (· ≤ ·)).Pairwise (· ≤ ·) :=
    List.pairwise_insertionSort _ _
  exact (hsorted.and hnodup).imp fun hpair => lt_of_le_of_ne hpair.1 hpair.2

theorem pairwise_lt_sortedSet (values : List String) : (sortedSet values).Pairwise (· < ·) :=
  pairwise_lt_insertionSort (List.nodup_dedup values)

/-- Paths that are in their normal form stay what they are. -/
theorem normalizeSortedPaths_self {name : String} {values : List String}
    (hnormal : ∀ path ∈ values, normalizeContextPath path = .ok path)
    (hsorted : values.Pairwise (· < ·)) : normalizeSortedPaths name values = .ok values :=
  normalizeSortedPaths_eq_ok.2 ⟨Raising.mapM_eq_ok.2 (List.forall₂_same.2 hnormal), hsorted⟩

/-! ### The patterns of a contract -/

/-- The patterns of a contract, in the order of their kinds. -/
def TaskContract.patterns (task : TaskContract) : List String :=
  task.writableFiles ++ task.readonlyFiles ++ task.readableFiles

/-- A path that a task can see. -/
def TaskContract.sees (task : TaskContract) (path : String) : Bool :=
  task.patterns.any (scopeMatches path)

theorem one_le_length_scopePattern {values patterns : List String}
    (h : validateScopePatterns values = .ok patterns) : ∀ p ∈ patterns, 1 ≤ p.length := by
  simp only [validateScopePatterns, Raising.bind_eq_ok, Raising.raiseIf_eq_ok,
    Raising.pure_eq_ok] at h
  obtain ⟨items, hitems, _, -, rfl⟩ := h
  intro pattern hpattern
  obtain ⟨value, -, hvalue⟩ := (Raising.mem_iff_of_mapM_eq_ok hitems).1 hpattern
  simp only [normalizeScopePattern, Raising.bind_eq_ok, Raising.raiseIf_eq_ok,
    Raising.pure_eq_ok] at hvalue
  obtain ⟨_, hne, _, -, _, -, _, -, _, -, _, -, rfl⟩ := hvalue
  exact one_le_length hne

/-- What the validators of a contract leave of its fields. -/
structure TaskContractFields.Sound (task : TaskContractFields) : Prop where
  taskId : isTaskId task.taskId = true
  objective : ¬(task.objective.length < 1 ∨ 4000 < task.objective.length)
  criteria : task.acceptanceCriteria ≠ []
  writable : task.writableFiles ≠ []
  patterns : ∀ p ∈ task.patterns, 1 ≤ p.length

theorem TaskContractRecord.sound (task : TaskContractRecord) : task.val.Sound := by
  have h := task.property
  simp only [TaskContractFields.validate, TaskContract.validate, Raising.bind_eq_ok,
    Raising.raiseIf_eq_ok, Bool.not_eq_false, Raising.pure_eq_ok] at h
  obtain ⟨contract, ⟨_, hid, _, hlength, _, hobjective, readable, hreadable, _, hwritable, writable,
    hvalid, readonlyFiles, hreadonly, _, -, rfl⟩, _, hcriteria, criteria, hcriteria', _, -, commands,
    -, _, -, heq⟩ := h
  rw [← heq]
  refine ⟨hid, ?_, validateNonEmptyItems_ne_nil hcriteria' hcriteria,
    validateScopePatterns_ne_nil hvalid hwritable, fun pattern hpattern => ?_⟩
  · have hle := length_strip_le task.val.objective
    have hpos := one_le_length hobjective
    dsimp only
    omega
  · rcases List.mem_append.1 hpattern with h | h
    · rcases List.mem_append.1 h with h | h
      · exact one_le_length_scopePattern hvalid pattern h
      · exact one_le_length_scopePattern hreadonly pattern h
    · exact one_le_length_scopePattern hreadable pattern h

/-! ### Candidates -/

variable {task : TaskContractFields} {path : String} {scopes : List ContextScopeMatch}

theorem contextScopeMatches_eq_ok (h : contextScopeMatches task path = .ok scopes) :
    scopes = [] ↔ task.sees path = false := by
  have hmade := Raising.mapM_eq_ok.1 h
  rw [← List.length_eq_zero_iff, ← hmade.length_eq, List.length_eq_zero_iff,
    List.filter_eq_nil_iff]
  simp only [TaskContract.sees, TaskContract.patterns, List.any_eq_false, List.mem_append,
    List.mem_map]
  constructor
  · rintro hnone pattern ((hmem | hmem) | hmem)
    · exact hnone (.writable, pattern) (Or.inl (Or.inl ⟨pattern, hmem, rfl⟩))
    · exact hnone (.readOnly, pattern) (Or.inl (Or.inr ⟨pattern, hmem, rfl⟩))
    · exact hnone (.readable, pattern) (Or.inr ⟨pattern, hmem, rfl⟩)
  · rintro hnone scope ((⟨pattern, hmem, rfl⟩ | ⟨pattern, hmem, rfl⟩) | ⟨pattern, hmem, rfl⟩)
    · exact hnone pattern (Or.inl (Or.inl hmem))
    · exact hnone pattern (Or.inl (Or.inr hmem))
    · exact hnone pattern (Or.inr hmem)

theorem exists_contextScopeMatches
    (h : ∀ p ∈ task.patterns, scopeMatches path p = true → 1 ≤ p.length ∧ p.length ≤ 500) :
    ∃ scopes, contextScopeMatches task path = .ok scopes := by
  refine Raising.exists_mapM_eq_ok.2 fun scope hscope => ?_
  obtain ⟨hmem, hmatch⟩ := List.mem_filter.1 hscope
  have hbounds : 1 ≤ scope.2.length ∧ scope.2.length ≤ 500 := by
    refine h scope.2 ?_ hmatch
    simp only [List.mem_append, List.mem_map] at hmem
    simp only [TaskContract.patterns, List.mem_append]
    rcases hmem with (⟨p, hp, rfl⟩ | ⟨p, hp, rfl⟩) | ⟨p, hp, rfl⟩
    · exact Or.inl (Or.inl hp)
    · exact Or.inl (Or.inr hp)
    · exact Or.inr hp
  exact ⟨_, dif_pos hbounds⟩

/-- A path that a task can see is selected for a reason. -/
theorem selectionReasons_ne_nil {changed : List String} (h : scopes ≠ []) :
    selectionReasons path scopes changed ≠ [] := by
  obtain ⟨scope, hscope⟩ := List.exists_mem_of_ne_nil _ h
  have hkind : scope.kind ∈ scopes.map ContextScopeMatch.kind := List.mem_map_of_mem hscope
  intro hnone
  simp only [selectionReasons, List.append_eq_nil_iff, ite_eq_right_iff, List.cons_ne_nil,
    imp_false] at hnone
  obtain ⟨⟨⟨-, hwritable⟩, hreadOnly⟩, hreadable⟩ := hnone
  cases hscopeKind : scope.kind with
  | writable => exact hwritable (hscopeKind ▸ hkind)
  | readOnly => exact hreadOnly (hscopeKind ▸ hkind)
  | readable => exact hreadable (hscopeKind ▸ hkind)

variable {inventory tracked changed : List String} {candidates : List PacketCandidate}

theorem baseCandidate_eq_ok {found : Option PacketCandidate}
    (h : baseCandidate task tracked changed path = .ok found) :
    found.map PacketCandidate.path = (if task.sees path then some path else none) ∧
      ∀ c ∈ found, CandidateSound c := by
  obtain ⟨scopes, hscopes, h⟩ := Raising.bind_eq_ok.1 h
  have hsees := contextScopeMatches_eq_ok hscopes
  split_ifs at h with hnone
  · obtain rfl := Except.ok.inj h
    simp [hsees.1 hnone]
  · obtain rfl := Except.ok.inj h
    have hvisible : task.sees path = true := by
      rwa [hsees, Bool.not_eq_false] at hnone
    rw [hvisible]
    refine ⟨rfl, fun c hc => ?_⟩
    obtain rfl := Option.mem_some_iff.1 hc
    exact ⟨hnone, selectionReasons_ne_nil hnone, RegionsApart.nil⟩

/-- What the loop over the inventory finds. -/
theorem map_path_found {founds : List (Option PacketCandidate)}
    (h : List.Forall₂ (fun path found => baseCandidate task tracked changed path = .ok found)
      inventory founds) :
    (founds.filterMap id).map PacketCandidate.path = inventory.filter task.sees := by
  induction h with
  | nil => rfl
  | @cons path found inventory founds hone _ ih =>
    have hpath := (baseCandidate_eq_ok hone).1
    cases found with
    | none =>
      have hhidden : ¬task.sees path = true := by
        intro hsees
        rw [if_pos hsees] at hpath
        cases hpath
      rw [List.filter_cons_of_neg hhidden, ← ih]
      rfl
    | some c =>
      split_ifs at hpath with hsees
      · obtain rfl := Option.some.inj hpath
        rw [List.filter_cons_of_pos hsees, ← ih]
        rfl
      · cases hpath

/-- **Each path that the task can see is a candidate once**, and no other path is one. -/
theorem baseCandidates_eq_ok (h : baseCandidates task inventory tracked changed = .ok candidates) :
    (candidates.map PacketCandidate.path).Perm (inventory.filter task.sees) ∧
      ∀ c ∈ candidates, CandidateSound c := by
  obtain ⟨found, hfound, h⟩ := Raising.bind_eq_ok.1 h
  obtain rfl := Except.ok.inj h
  have hpaths := map_path_found (Raising.mapM_eq_ok.1 hfound)
  refine ⟨((List.perm_insertionSort _ _).map _).trans (List.Perm.of_eq hpaths), fun c hc => ?_⟩
  rw [List.mem_insertionSort, List.mem_filterMap] at hc
  obtain ⟨_, hmem, rfl⟩ := hc
  obtain ⟨path, -, hpath⟩ := (Raising.mem_iff_of_mapM_eq_ok hfound).1 hmem
  exact (baseCandidate_eq_ok hpath).2 c rfl

theorem exists_baseCandidates (h : ∀ path ∈ inventory, ∀ p ∈ task.patterns,
    scopeMatches path p = true → 1 ≤ p.length ∧ p.length ≤ 500) :
    ∃ candidates, baseCandidates task inventory tracked changed = .ok candidates := by
  refine Raising.exists_bind_eq_ok ?_ fun found _ => ⟨_, rfl⟩
  refine Raising.exists_mapM_eq_ok.2 fun path hpath => ?_
  refine Raising.exists_bind_eq_ok (exists_contextScopeMatches (h path hpath)) fun scopes _ => ?_
  split_ifs
  · exact ⟨none, rfl⟩
  · exact ⟨some _, rfl⟩

/-- **The ranking keeps every candidate**, and gives it regions that do not meet. -/
theorem rankCandidates_sound (builder : ContextPacketBuilder) (task : TaskContractFields)
    (workspace : ContextWorkspace) (hcandidates : ∀ c ∈ candidates, CandidateSound c) :
    ((builder.rankCandidates task workspace candidates).map PacketCandidate.path).Perm
        (candidates.map PacketCandidate.path) ∧
      ∀ c ∈ builder.rankCandidates task workspace candidates, CandidateSound c := by
  unfold rankCandidates
  generalize hselections : select builder.parser builder.relevance task
    (candidates.map relevanceCandidate) (builder.sourceText workspace) = selections
  have hperm : (selections.map RelevantFileSelection.path).Perm
      (candidates.map PacketCandidate.path) := by
    rw [← hselections]
    refine perm_select.trans (List.Perm.of_eq ?_)
    rw [List.map_map]
    rfl
  constructor
  · refine (List.Perm.of_eq ?_).trans hperm
    rw [List.map_filterMap, List.filterMap_eq_map_iff_forall_eq_some]
    intro selection hselection
    -- the path of a selection is the path of a candidate
    have hpath : selection.path ∈ candidates.map PacketCandidate.path :=
      hperm.mem_iff.1 (List.mem_map_of_mem hselection)
    obtain ⟨c, hc, heq⟩ := List.mem_map.1 hpath
    cases hfind : candidates.find? fun candidate => candidate.path = selection.path with
    | none =>
      rw [List.find?_eq_none] at hfind
      exact absurd (decide_eq_true heq) (hfind c hc)
    | some found =>
      have hfound : found.path = selection.path := by simpa using List.find?_some hfind
      exact congrArg some hfound
  · intro c hc
    obtain ⟨selection, hselection, hc⟩ := List.mem_filterMap.1 hc
    obtain ⟨found, hfind, rfl⟩ := Option.map_eq_some_iff.1 hc
    have hsound := hcandidates found (List.mem_of_find?_eq_some hfind)
    exact ⟨hsound.scopes, hsound.reasons, regions_of_mem_select (hselections ▸ hselection)⟩

/-! ### Packets -/

theorem ContextUsageFields.val_make {fields : ContextUsageFields} {usage : ContextUsage}
    (h : ContextUsage.make fields = .ok usage) : usage.val = fields := by
  have hvalid := Validated.make_eq_ok.1 h
  simp only [ContextUsageFields.validate, Raising.bind_eq_ok, Raising.pure_eq_ok] at hvalid
  obtain ⟨_, -, _, -, heq⟩ := hvalid
  exact heq.symm

/-- The validators of a packet leave its files and its usage alone. -/
theorem ContextPacketFields.val_make {dump : PacketDump} {fields : ContextPacketFields}
    {packet : ContextPacket dump} (h : ContextPacket.make dump fields = .ok packet) :
    packet.val.selectedFiles = fields.selectedFiles ∧
      packet.val.truncations = fields.truncations ∧ packet.val.usage = fields.usage := by
  have hvalid := Validated.make_eq_ok.1 h
  simp only [ContextPacketFields.validate, Raising.bind_eq_ok, Raising.pure_eq_ok] at hvalid
  obtain ⟨_, -, _, -, _, -, _, -, _, -, _, -, _, -, _, -, _, -, _, -, _, -, heq⟩ := hvalid
  rw [← heq]
  exact ⟨rfl, rfl, rfl⟩

/-- Fields that fit a packet, whose paths are in their normal form. -/
theorem exists_make_packet {dump : PacketDump} {fields : ContextPacketFields}
    (htaskId : isTaskId fields.taskId = true)
    (hobjective : ¬(fields.objective.length < 1 ∨ 4000 < fields.objective.length))
    (hcriteria : fields.acceptanceCriteria ≠ []) (hwritable : fields.writableFiles ≠ [])
    (hhead : isOid fields.repositoryHead = true)
    (hversion : 1 ≤ fields.repositorySummaryVersion.length ∧
      fields.repositorySummaryVersion.length ≤ 64)
    (hsummary : fields.repositorySummary.length ≤ 16000)
    (hcount : fields.repositoryMap.length ≤ 80)
    (hfingerprint : isSha256 fields.fingerprint = true)
    (hchanged : normalizeSortedPaths "changed_files" fields.changedFiles =
      .ok fields.changedFiles)
    (hmap : normalizeSortedPaths "repository_map" fields.repositoryMap =
      .ok fields.repositoryMap)
    (husage : fields.checkUsage dump = .ok ⟨⟩) :
    ∃ packet, ContextPacket.make dump fields = .ok packet := by
  refine Validated.exists_make_iff.2 ⟨fields, ?_⟩
  simp only [ContextPacketFields.validate, Raising.bind_eq_ok, Raising.raiseIf_eq_ok]
  exact ⟨⟨⟩, by rw [htaskId]; decide, ⟨⟩, hobjective, ⟨⟩, not_or.2 ⟨hcriteria, hwritable⟩, ⟨⟩,
    by rw [hhead]; decide, ⟨⟩, by omega, ⟨⟩, Nat.not_lt.2 hsummary, ⟨⟩, Nat.not_lt.2 hcount, ⟨⟩,
    by rw [hfingerprint]; decide, _, hchanged, _, hmap, ⟨⟩, husage, rfl⟩

namespace ContextPacketBuilder

variable {builder : ContextPacketBuilder} {workspace : ContextWorkspace} {dump : PacketDump}
variable {resume : Option ContinuationStateRecord} {repository : RepositoryReading}

/-- What a packet says of the candidates: which it shows, omits and reuses. -/
structure PacketAccounts (builder : ContextPacketBuilder) (task : TaskContractFields)
    (workspace : ContextWorkspace) (resume : Option ContinuationStateRecord)
    (repository : RepositoryReading) (packet : ContextPacketFields)
    (selected omitted reused : List PacketCandidate) : Prop where
  visible : ((selected ++ omitted ++ reused).map PacketCandidate.path).Perm
    (repository.inventory.filter task.sees)
  order : ∃ candidates, baseCandidates task repository.inventory repository.tracked
      (repository.changed resume) = .ok candidates ∧
    selected.Sublist (builder.rankCandidates task workspace candidates)
  shown : FilesShown builder workspace packet.truncations builder.budget.maxTotalChars
    builder.budget.maxEstimatedTokens selected packet.selectedFiles
  omittedFiles : packet.usage.val.omittedFiles = omitted.length
  recorded : (packet.truncations.map (·.val.omittedFiles)).sum = omitted.length
  reusedFiles : packet.usage.val.reusedFiles = reused.length
  reuse : ∀ c ∈ reused,
    builder.canReuseCandidate workspace resume (repository.changed resume) c = true

/-- **A packet is exact**: it keeps to its budget and accounts for every candidate. -/
structure Exact (builder : ContextPacketBuilder) (task : TaskContractFields)
    (workspace : ContextWorkspace) (resume : Option ContinuationStateRecord)
    (repository : RepositoryReading) (packet : ContextPacketFields) : Prop where
  files_le : packet.selectedFiles.length ≤ builder.budget.maxFiles
  chars_le : (packet.selectedFiles.map (·.val.selectedChars)).sum ≤ builder.budget.maxTotalChars
  tokens_le :
    (packet.selectedFiles.map (·.val.estimatedTokens)).sum ≤ builder.budget.maxEstimatedTokens
  perFile : ∀ file ∈ packet.selectedFiles,
    file.val.selectedChars ≤ builder.budget.maxCharsPerFile
  accounts : ∃ selected omitted reused,
    builder.PacketAccounts task workspace resume repository packet selected omitted reused

/-- What Git answers fits the fields of a packet. -/
structure Presentable (builder : ContextPacketBuilder) (task : TaskContractFields)
    (workspace : ContextWorkspace) (resume : Option ContinuationStateRecord)
    (repository : RepositoryReading) : Prop where
  head : isOid repository.repositoryHead = true
  changed : ∀ path ∈ repository.changed resume, normalizeContextPath path = .ok path
  readable : ∀ path ∈ repository.inventory, task.sees path = true →
    builder.PathReadable workspace path
  patterns : ∀ path ∈ repository.inventory, ∀ p ∈ task.patterns, scopeMatches path p = true →
    p.length ≤ 500
  summary : (repositorySummary repository.repositoryHead repository.inventory).length ≤ 16000

/-- Git names each path of the repository once. -/
theorem nodup_inventory (h : readRepository workspace = .ok repository) :
    repository.inventory.Nodup := by
  have hanswers := Raising.mapError_eq_ok.1 h
  simp only [gitAnswers, ContextWorkspace.repositoryFiles, Raising.bind_eq_ok,
    Raising.pure_eq_ok] at hanswers
  obtain ⟨_, -, _, -, inventory, ⟨_, -, _, -, hinventory⟩, _, -, rfl⟩ := hanswers
  rw [← hinventory]
  exact nodup_sortedSet _

/-- The loop over the candidates of a repository. -/
theorem buildLoop_ranked {task : TaskContractFields} {candidates : List PacketCandidate}
    (hbase : baseCandidates task repository.inventory repository.tracked
      (repository.changed resume) = .ok candidates) {state : PacketState}
    (hloop : builder.buildLoop workspace resume (repository.changed resume)
      (builder.rankCandidates task workspace candidates)
      { remainingChars := builder.budget.maxTotalChars
        remainingTokens := builder.budget.maxEstimatedTokens } = .ok state) :
    ∃ selected omitted reused,
      ((selected ++ omitted ++ reused).map PacketCandidate.path).Perm
        (repository.inventory.filter task.sees) ∧
      builder.Accounts workspace resume (repository.changed resume)
        (builder.rankCandidates task workspace candidates) selected omitted reused
        { remainingChars := builder.budget.maxTotalChars
          remainingTokens := builder.budget.maxEstimatedTokens } state
        state.selectedFiles state.truncations := by
  obtain ⟨hpaths, hsound⟩ := baseCandidates_eq_ok hbase
  obtain ⟨hranked, hrankedSound⟩ := rankCandidates_sound builder task workspace hsound
  obtain ⟨selected, omitted, reused, files, truncations, haccounts⟩ :=
    buildLoop_accounts hrankedSound hloop
  obtain rfl : state.selectedFiles = files := haccounts.selectedFiles
  obtain rfl : state.truncations = truncations := haccounts.recordedFor
  exact ⟨selected, omitted, reused, (haccounts.perm.map _).trans (hranked.trans hpaths),
    haccounts⟩

/-- A packet that is built is exact. -/
theorem exact_of_buildFrom {task : TaskContractRecord} {packet : ContextPacket dump}
    (h : builder.buildFrom dump task workspace resume repository = .ok packet) :
    builder.Exact task.val workspace resume repository packet.val := by
  simp only [buildFrom, Raising.bind_eq_ok] at h
  obtain ⟨candidates, hbase, state, hloop, usage, husage, hpacket⟩ := h
  obtain ⟨hfiles, htruncations, hpacketUsage⟩ := ContextPacketFields.val_make hpacket
  dsimp only at hfiles htruncations hpacketUsage
  have husageFields := ContextUsageFields.val_make husage
  obtain ⟨selected, omitted, reused, hvisible, haccounts⟩ := buildLoop_ranked hbase hloop
  obtain ⟨hchars, htokens⟩ := haccounts.shown.sums_le
  exact
    { files_le := by
        rw [hfiles]
        exact haccounts.maxFiles (Nat.zero_le _)
      chars_le := by
        rw [hfiles]
        exact hchars
      tokens_le := by
        rw [hfiles]
        exact htokens
      perFile := by
        rw [hfiles]
        exact haccounts.shown.perFile
      accounts := ⟨selected, omitted, reused,
        { visible := hvisible
          order := ⟨candidates, hbase, haccounts.order⟩
          shown := by
            rw [hfiles, htruncations]
            exact haccounts.shown
          omittedFiles := by
            rw [hpacketUsage, husageFields]
            exact haccounts.omittedFiles.trans (Nat.zero_add _)
          recorded := by
            rw [htruncations]
            exact haccounts.recorded
          reusedFiles := by
            rw [hpacketUsage, husageFields]
            exact haccounts.reusedFiles.trans (Nat.zero_add _)
          reuse := haccounts.reuse }⟩ }

/-- The usage of a packet can be built. -/
theorem exists_make_usage (builder : ContextPacketBuilder) (candidates : ℕ) (state : PacketState)
    (summary : String) (resume : Option ContinuationStateRecord) :
    ∃ usage, ContextUsage.make (builder.packetUsage candidates state summary resume) =
      .ok usage := by
  refine Validated.exists_make_iff.2 ⟨builder.packetUsage candidates state summary resume, ?_⟩
  simp only [ContextUsageFields.validate, Raising.bind_eq_ok, Raising.raiseIf_eq_ok]
  refine ⟨⟨⟩, fun h => h.2 rfl, ⟨⟩, ?_, rfl⟩
  dsimp only [packetUsage]
  omega

/-- What a packet must be for its usage to be that of its files. -/
theorem checkUsage_eq_ok {fields : ContextPacketFields} {candidates : ℕ} {state : PacketState}
    {summary : String}
    (husage : fields.usage.val = builder.packetUsage candidates state summary resume)
    (hfiles : fields.selectedFiles = state.selectedFiles)
    (hpaths : (state.selectedFiles.map (·.val.path)).Nodup)
    (hcount : state.selectedFiles.length ≤ fields.budget.maxFiles)
    (hchars : (state.selectedFiles.map (·.val.selectedChars)).sum ≤ fields.budget.maxTotalChars)
    (htokens : (state.selectedFiles.map (·.val.estimatedTokens)).sum ≤
      fields.budget.maxEstimatedTokens)
    (hfingerprint :
      fields.fingerprint = fields.toContextPacketPayload.canonicalFingerprint dump) :
    fields.checkUsage dump = .ok ⟨⟩ := by
  have hchars' : ((state.selectedFiles.map (·.val)).map ContextFileFields.selectedChars).sum ≤
      fields.budget.maxTotalChars := by
    rw [List.map_map]
    exact hchars
  have htokens' : ((state.selectedFiles.map (·.val)).map ContextFileFields.estimatedTokens).sum ≤
      fields.budget.maxEstimatedTokens := by
    rw [List.map_map]
    exact htokens
  simp only [ContextPacketFields.checkUsage, Raising.bind_eq_ok, Raising.raiseIf_eq_ok, husage,
    hfiles, packetUsage, exists_const, ne_eq, not_true, not_false_eq_true, not_not, List.map_map,
    List.length_map, Nat.not_lt, true_and]
  rw [List.map_map] at hchars' htokens'
  exact ⟨hpaths, hchars', htokens', hcount, hfingerprint⟩

/-- **A packet can be built** where Git answers with paths that it can present. -/
theorem exists_buildFrom {task : TaskContractRecord} (hinventory : repository.inventory.Nodup)
    (h : builder.Presentable task.val workspace resume repository) :
    ∃ packet, builder.buildFrom dump task workspace resume repository = .ok packet := by
  have htask := task.sound
  obtain ⟨candidates, hbase⟩ := @exists_baseCandidates task.val repository.inventory
    repository.tracked (repository.changed resume) fun path hpath p hp hmatch =>
      ⟨htask.patterns p hp, h.patterns path hpath p hp hmatch⟩
  obtain ⟨hpaths, hsound⟩ := baseCandidates_eq_ok hbase
  obtain ⟨hranked, hrankedSound⟩ := rankCandidates_sound builder task.val workspace hsound
  have hreadable : ∀ path ∈ candidates.map PacketCandidate.path,
      builder.PathReadable workspace path := by
    intro path hpath
    obtain ⟨hmem, hsees⟩ := List.mem_filter.1 (hpaths.mem_iff.1 hpath)
    exact h.readable path hmem hsees
  have hnodup : (candidates.map PacketCandidate.path).Nodup :=
    hpaths.nodup_iff.2 (hinventory.filter _)
  obtain ⟨state, hloop⟩ := exists_buildLoop (fun c hc => ⟨hrankedSound c hc,
    hreadable c.path (hranked.mem_iff.1 (List.mem_map_of_mem hc))⟩)
    ({ remainingChars := builder.budget.maxTotalChars
       remainingTokens := builder.budget.maxEstimatedTokens } : PacketState)
  obtain ⟨selected, omitted, reused, hvisible, haccounts⟩ := buildLoop_ranked hbase hloop
  obtain ⟨hchars, htokens⟩ := haccounts.shown.sums_le
  -- the files have the paths of candidates, so none of them stands twice
  have hselected : (selected.map PacketCandidate.path).Nodup :=
    (haccounts.order.map _).nodup (hranked.nodup_iff.2 hnodup)
  have hfiles : (state.selectedFiles.map (·.val.path)).Nodup := by
    rw [haccounts.shown.paths fun c hc => (hreadable c.path (hranked.mem_iff.1
      (List.mem_map_of_mem (haccounts.order.subset hc)))).recorded.1]
    exact hselected
  obtain ⟨usage, husage⟩ := exists_make_usage builder
    (builder.rankCandidates task.val workspace candidates).length state
    (repositorySummary repository.repositoryHead repository.inventory) resume
  have hchanged := @normalizeSortedPaths_self "changed_files" _ h.changed
    (pairwise_lt_sortedSet _)
  have hmap := @normalizeSortedPaths_self "repository_map"
    (((candidates.map PacketCandidate.path).insertionSort (· ≤ ·)).take 80)
    (fun path hpath => (hreadable path ((List.mem_insertionSort _).1
      (List.mem_of_mem_take hpath))).recorded.1)
    ((pairwise_lt_insertionSort hnodup).sublist (List.take_sublist _ _))
  unfold buildFrom
  dsimp only
  refine Raising.exists_bind_eq_ok ⟨candidates, hbase⟩ fun _ hbase' => ?_
  obtain rfl := Except.ok.inj (hbase.symm.trans hbase')
  refine Raising.exists_bind_eq_ok ⟨state, hloop⟩ fun _ hloop' => ?_
  obtain rfl := Except.ok.inj (hloop.symm.trans hloop')
  refine Raising.exists_bind_eq_ok ⟨usage, husage⟩ fun _ husage' => ?_
  obtain rfl := Except.ok.inj (husage.symm.trans husage')
  have hversion : 1 ≤ "repository_summary_v1".length ∧
      "repository_summary_v1".length ≤ 64 := by decide +kernel
  exact exists_make_packet htask.taskId htask.objective htask.criteria htask.writable h.head
    hversion h.summary (List.length_take_le _ _) (isSha256_hex _) hchanged hmap
    (checkUsage_eq_ok (ContextUsageFields.val_make husage) rfl hfiles
      (haccounts.maxFiles (Nat.zero_le _)) hchars htokens rfl)

end ContextPacketBuilder

/-! ### Results -/

/-- A repository of one file that was changed. -/
def plainWorkspace : ContextWorkspace where
  headCommit := .ok (sampleOid 'a')
  cached := .ok ["c"]
  others := .ok []
  differing := .ok ["c"]
  reading path := if path = "c" then .file 1 (.ok [100]) else .notFile

def plainReading : RepositoryReading :=
  ⟨sampleOid 'a', ["c"], ["c"], ["c"]⟩

/-- A builder for files without statements. -/
def plainBuilder : ContextPacketBuilder where
  parser := ⟨fun _ => some [], fun _ => []⟩

theorem readRepository_plain : readRepository plainWorkspace = .ok plainReading := rfl

theorem reading_plain : plainWorkspace.reading "c" = .file 1 (.ok [100]) := by
  simp [plainWorkspace]

theorem presentable_plain :
    plainBuilder.Presentable plainContract.val plainWorkspace none plainReading where
  head := by decide +kernel
  changed := by
    have hchanged : plainReading.changed none = ["c"] := by decide +kernel
    rw [hchanged, List.forall_mem_singleton]
    rfl
  readable := by
    refine List.forall_mem_singleton.2 fun _ => ⟨⟨rfl, by decide +kernel⟩, fun failure h => ?_⟩
    rw [reading_plain] at h
    exact length_detail_file (by decide) (by decide) h
  patterns := fun _ _ => by
    have hpatterns : plainContract.val.patterns = ["c"] := rfl
    rw [hpatterns, List.forall_mem_singleton]
    intro _
    decide +kernel
  summary := by decide +kernel

end DevFlow
