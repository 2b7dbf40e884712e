/-
# What is shown of a file

A candidate of `ContextPacketBuilder` has parts: the regions that were selected for it, or
the whole text.  The builder shows their `Cuts`, one after the other, to what is left of
the budget (`fitPrefix_eq`, `regionLoop_eq_ok`).  Regions do not meet and lines are only
made shorter when a source is read, so what is shown never exceeds the source
(`parts_sublist`, `units_le_raw`), and the file can be built (`loadCandidate_eq_ok`).
-/

import DevFlow.Context.Builder
import DevFlow.Library.Cuts

namespace DevFlow

open Documents (Validated)

namespace ContextPacketBuilder

variable {builder : ContextPacketBuilder} {text : List Char} {maxChars maxTokenUnits : ℕ}

/-! ### Prefixes -/

theorem contextWindowUnits_eq (text : List Char) :
    contextWindowUnits text = Cuts.total Char.utf8Size text := by
  rw [contextWindowUnits, Utf8.encode, List.length_flatMap, Cuts.total]
  simp only [String.length_utf8EncodeChar]

theorem total_utf8Size_eq_zero_iff : Cuts.total Char.utf8Size text = 0 ↔ text = [] := by
  cases text with
  | nil => simp
  | cons c text =>
    have hpos := c.utf8Size_pos
    simp only [Cuts.total_cons, List.cons_ne_nil, iff_false]
    omega

/-- The search of `_fit_prefix`. -/
theorem bisect_fits (candidate : List Char) :
    candidate.take (Bisection.bisect
      (fun middle => contextWindowUnits (candidate.take middle) ≤ maxTokenUnits) 0
      candidate.length) = Cuts.fit Char.utf8Size candidate.length maxTokenUnits candidate := by
  have hdown : ∀ i j, i ≤ j →
      decide (contextWindowUnits (candidate.take j) ≤ maxTokenUnits) = true →
      decide (contextWindowUnits (candidate.take i) ≤ maxTokenUnits) = true := by
    intro i j hij hj
    rw [decide_eq_true_eq, contextWindowUnits_eq] at hj ⊢
    exact (Cuts.total_le_of_sublist (List.take_sublist_take_left hij)).trans hj
  have hzero : decide (contextWindowUnits (candidate.take 0) ≤ maxTokenUnits) = true :=
    decide_eq_true (Nat.zero_le _)
  have hbisect : IsGreatest {k | k ≤ candidate.length ∧
      decide (contextWindowUnits (candidate.take k) ≤ maxTokenUnits) = true} _ :=
    Bisection.bisect_isGreatest hdown hzero
  have hfit : IsGreatest {k | k ≤ candidate.length ∧
      decide (contextWindowUnits (candidate.take k) ≤ maxTokenUnits) = true}
      (Cuts.fit Char.utf8Size candidate.length maxTokenUnits candidate).length := by
    have h := @Cuts.fit_isGreatest _ Char.utf8Size candidate.length maxTokenUnits candidate
    refine ⟨⟨h.1.1, ?_⟩, fun k hk => h.2 ⟨hk.1, hk.1, ?_⟩⟩
    · rw [decide_eq_true_eq, contextWindowUnits_eq]
      exact h.1.2.2
    · rw [← contextWindowUnits_eq]
      exact of_decide_eq_true hk.2
  rw [hbisect.unique hfit, Cuts.take_length_fit]

/-- **`_fit_prefix` cuts a text to what fits.** -/
theorem fitPrefix_eq (text : List Char) (maxChars maxTokenUnits : ℕ) :
    fitPrefix text maxChars maxTokenUnits = Cuts.fit Char.utf8Size maxChars maxTokenUnits text := by
  -- the cut of a text is the cut of its first `maxChars` characters
  have hsame : Cuts.fit Char.utf8Size (text.take maxChars).length maxTokenUnits
      (text.take maxChars) = Cuts.fit Char.utf8Size maxChars maxTokenUnits text := by
    have hcut := @Cuts.fit_isGreatest _ Char.utf8Size maxChars maxTokenUnits text
    have htake := @Cuts.fit_isGreatest _ Char.utf8Size (text.take maxChars).length maxTokenUnits
      (text.take maxChars)
    have hset : {k | k ≤ (text.take maxChars).length ∧ k ≤ (text.take maxChars).length ∧
        Cuts.total Char.utf8Size ((text.take maxChars).take k) ≤ maxTokenUnits} =
        {k | k ≤ text.length ∧ k ≤ maxChars ∧
          Cuts.total Char.utf8Size (text.take k) ≤ maxTokenUnits} := by
      ext k
      simp only [Set.mem_ofPred_eq, List.length_take, List.take_take]
      constructor
      · rintro ⟨hle, -, htotal⟩
        rw [min_eq_left (hle.trans (min_le_left _ _))] at htotal
        exact ⟨hle.trans (min_le_right _ _), hle.trans (min_le_left _ _), htotal⟩
      · rintro ⟨hlength, hle, htotal⟩
        rw [min_eq_left hle]
        exact ⟨le_min hle hlength, le_min hle hlength, htotal⟩
    rw [hset] at htake
    rw [← Cuts.take_length_fit, htake.unique hcut, List.take_take,
      min_eq_left Cuts.length_fit_le, Cuts.take_length_fit]
  unfold fitPrefix
  dsimp only
  split_ifs with hnone hfits
  · rcases hnone with rfl | rfl | rfl
    · rw [← hsame]
      simp
    · exact (List.length_eq_zero_iff.1 (Nat.le_zero.1 Cuts.length_fit_le)).symm
    · exact (total_utf8Size_eq_zero_iff.1 (Nat.le_zero.1 Cuts.total_fit_le)).symm
  · rw [contextWindowUnits_eq] at hfits
    rw [← hsame, Cuts.fit_eq_iff.2 ⟨le_rfl, hfits⟩]
  · rw [bisect_fits, hsame]

/-! ### The parts of a source -/

/-- What is to be shown of a source: the regions of the candidate, or all of it. -/
def parts (candidate : PacketCandidate) (source : LoadedSource) : List (List Char) :=
  if candidate.regions = [] then [source.text]
  else candidate.regions.map (regionText (Lines.splitlines source.text))

/-- The lines of regions that do not meet stand in their order. -/
theorem flatMap_regionText_sublist {lines : List (List Char)} {regions : List RelevantCodeRegion}
    (hapart : RegionsApart regions) {k : ℕ} (hk : ∀ region ∈ regions, k < region.startLine) :
    (regions.flatMap (regionText lines)).Sublist (lines.drop k).flatten := by
  induction regions generalizing k with
  | nil => exact List.nil_sublist _
  | cons region regions ih =>
    have hrest : RegionsApart regions :=
      ⟨fun r hr => hapart.positive r (List.mem_cons_of_mem _ hr),
        fun r hr => hapart.ordered r (List.mem_cons_of_mem _ hr),
        (List.pairwise_cons.1 hapart.apart).2⟩
    have hafter := ih hrest fun r hr => (List.pairwise_cons.1 hapart.apart).1 r hr
    have hordered := hapart.ordered region List.mem_cons_self
    have hstart := hk region List.mem_cons_self
    rw [List.flatMap_cons]
    unfold regionText
    split_ifs with hend
    · rw [List.nil_append]
      refine hafter.trans (List.Sublist.flatten ?_)
      exact List.drop_sublist_drop_left lines (by omega)
    · -- the region's own lines, and the lines after its last one
      have hsplit : Lines.slice lines (region.startLine - 1) (min region.endLine lines.length) ++
          lines.drop region.endLine = lines.drop (region.startLine - 1) := by
        have htake : lines.take (min region.endLine lines.length) = lines.take region.endLine :=
          List.take_eq_take_min.symm
        have hlast : region.startLine - 1 + (region.endLine - (region.startLine - 1)) =
            region.endLine := by omega
        have hlines := List.drop_take_append_drop lines (region.startLine - 1)
          (region.endLine - (region.startLine - 1))
        rw [hlast] at hlines
        rw [Lines.slice, htake, ← Lines.slice, Lines.slice_eq, hlines]
      refine ((List.Sublist.refl _).append hafter).trans ?_
      rw [← List.flatten_append, hsplit]
      exact (List.drop_sublist_drop_left lines (by omega)).flatten

/-- **The parts of a source stand in it**, one behind the other. -/
theorem parts_sublist {candidate : PacketCandidate} (hapart : RegionsApart candidate.regions)
    (source : LoadedSource) : (parts candidate source).flatten.Sublist source.text := by
  unfold parts
  split_ifs with hnone
  · rw [List.flatten_singleton]
  · have h := @flatMap_regionText_sublist (Lines.splitlines source.text) _ hapart 0
      hapart.positive
    rwa [List.drop_zero, Lines.splitlines, Lines.flatten_splitKeep, List.flatMap_def] at h

theorem units_universalNewlines_le (text : List Char) :
    Cuts.total Char.utf8Size (Lines.universalNewlines text) ≤ Cuts.total Char.utf8Size text := by
  have hone : Char.utf8Size '\n' = Char.utf8Size '\r' := rfl
  fun_induction Lines.universalNewlines text with
  | case1 rest ih =>
    simp only [Cuts.total_cons]
    omega
  | case2 rest hfeed ih =>
    simp only [Cuts.total_cons]
    omega
  | case3 c rest hreturn hplain ih =>
    simp only [Cuts.total_cons]
    omega
  | case4 => exact le_rfl

/-- A source that was read has no more bytes than its file. -/
theorem units_le_raw {reading : PathReading} {budget : ContextBudget} {source : LoadedSource}
    (h : readSource budget reading = .ok source) :
    Cuts.total Char.utf8Size source.text ≤ source.raw.length := by
  unfold readSource at h
  split at h
  · cases h
  · cases h
  · cases h
  · split_ifs at h
    split at h
    · cases h
    · split_ifs at h
      split at h
      · cases h
      · rename_i raw _ text hdecode
        obtain rfl := Except.ok.inj h
        rw [← Utf8.decode_eq_some_iff.1 hdecode, ← contextWindowUnits, contextWindowUnits_eq]
        exact units_universalNewlines_le text

/-! ### Snippets -/

/-- What the snippets show. -/
def shownText (snippets : List ContextSnippet) : List Char :=
  (snippets.map (·.val.content)).flatten

@[simp] theorem shownText_nil : shownText [] = [] := rfl

theorem shownText_append (snippets others : List ContextSnippet) :
    shownText (snippets ++ others) = shownText snippets ++ shownText others := by
  simp [shownText]

/-- The counts of a snippet are those of its text. -/
theorem counts_snippet (snippet : ContextSnippet) :
    snippet.val.charCount = snippet.val.content.length ∧
      snippet.val.estimatedTokens = Cuts.total Char.utf8Size snippet.val.content := by
  obtain ⟨⟨-, -, hchars, htokens⟩, -⟩ := ContextSnippetFields.validate_eq_ok.1 snippet.property
  exact ⟨hchars, htokens.trans (contextWindowUnits_eq _)⟩

theorem sum_charCount (snippets : List ContextSnippet) :
    (snippets.map (·.val.charCount)).sum = (shownText snippets).length := by
  rw [shownText, List.length_flatten, List.map_map]
  exact congrArg List.sum (List.map_congr_left fun snippet _ => (counts_snippet snippet).1)

theorem sum_estimatedTokens (snippets : List ContextSnippet) :
    (snippets.map (·.val.estimatedTokens)).sum = Cuts.total Char.utf8Size (shownText snippets) := by
  induction snippets with
  | nil => rfl
  | cons snippet snippets ih =>
    rw [List.map_cons, List.sum_cons, ih, (counts_snippet snippet).2, ← Cuts.total_append]
    rfl

/-- A snippet can be made of any text behind the start of its lines. -/
theorem makeSnippet_eq_ok (builder : ContextPacketBuilder) {startLine endLine : ℕ}
    (hpos : 1 ≤ startLine) (hle : startLine ≤ endLine) (selected : List Char) :
    ∃ snippet, builder.makeSnippet startLine endLine selected = .ok snippet ∧
      snippet.val.content = selected ∧ snippet.val.startLine = startLine := by
  have hvalid : ContextSnippetFields.validate
      { startLine
        endLine
        content := selected
        charCount := selected.length
        estimatedTokens := contextWindowUnits selected
        billableTokenEstimate := builder.estimator.billableTokenEstimate selected } = .ok _ :=
    ContextSnippetFields.validate_eq_ok.2 ⟨⟨hpos, hle, rfl, rfl⟩, rfl⟩
  exact ⟨⟨_, hvalid⟩, Validated.make_eq_ok.2 hvalid, rfl, rfl⟩

/-! ### The regions of a file -/

/-- A snippet shows the start of a region. -/
def Places (lines : List (List Char)) (regions : List RelevantCodeRegion)
    (snippet : ContextSnippet) : Prop :=
  ∃ region ∈ regions, snippet.val.startLine = region.startLine ∧
    snippet.val.content <+: regionText lines region

/-- What the loop over regions makes of a state. -/
structure RegionsShown (lines : List (List Char)) (regions : List RelevantCodeRegion)
    (state state' : RegionState) : Prop where
  shown : ∃ new, state'.snippets = state.snippets ++ new ∧ (∀ s ∈ new, Places lines regions s) ∧
    shownText new = (Cuts.cuts Char.utf8Size (min state.perFileRemaining state.totalRemaining)
      state.tokenRemaining (regions.map (regionText lines))).flatten
  omissions : state'.omissions = {} ↔ state.omissions = {} ∧
    Cuts.cuts Char.utf8Size (min state.perFileRemaining state.totalRemaining)
      state.tokenRemaining (regions.map (regionText lines)) = regions.map (regionText lines)

/-- What was cut is recorded. -/
theorem record_ne {omissions : RegionOmissions} {text cut : List Char}
    {omittedChars perFile total token : ℕ}
    (hcut : cut = Cuts.fit Char.utf8Size (min perFile total) token text) (hne : cut ≠ text) :
    omissions.record text omittedChars perFile total token ≠ {} := by
  intro hnone
  have hfits : text.length ≤ min perFile total ∧ Cuts.total Char.utf8Size text ≤ token := by
    have hperFile := congrArg RegionOmissions.perFile hnone
    have htotal := congrArg RegionOmissions.total hnone
    have htoken := congrArg RegionOmissions.token hnone
    simp only [RegionOmissions.record] at hperFile htotal htoken
    split_ifs at hperFile htotal htoken with h₁ h₂ h₃
    rw [← contextWindowUnits_eq]
    exact ⟨le_min (Nat.le_of_not_lt h₁) (Nat.le_of_not_lt h₂), Nat.le_of_not_lt h₃⟩
  exact hne (hcut.trans (Cuts.fit_eq_iff.2 hfits))

/-- What is not whole has characters that are left out. -/
theorem omitted_eq_zero_iff {letters room : ℕ} :
    text.length - (Cuts.fit Char.utf8Size letters room text).length = 0 ↔
      Cuts.fit Char.utf8Size letters room text = text := by
  have hstarts : Cuts.fit Char.utf8Size letters room text <+: text := Cuts.fit_isPrefix
  constructor
  · intro h
    exact hstarts.eq_of_length_le (by omega)
  · intro h
    rw [h, Nat.sub_self]

/-- What is left of the budget of a state. -/
structure RegionState.Spends (state state' : RegionState) (shown : List Char) : Prop where
  perFile : state'.perFileRemaining = state.perFileRemaining - shown.length
  total : state'.totalRemaining = state.totalRemaining - shown.length
  token : state'.tokenRemaining = state.tokenRemaining - Cuts.total Char.utf8Size shown

/-- One region. -/
theorem regionStep_eq_ok (builder : ContextPacketBuilder) (lines : List (List Char))
    (state : RegionState) {region : RelevantCodeRegion} (hpos : 1 ≤ region.startLine)
    (hle : region.startLine ≤ region.endLine) :
    ∃ state', builder.regionStep lines state region = .ok state' ∧
      RegionsShown lines [region] state state' ∧
      state.Spends state' (Cuts.fit Char.utf8Size
        (min state.perFileRemaining state.totalRemaining) state.tokenRemaining
        (regionText lines region)) := by
  unfold regionStep
  simp only [fitPrefix_eq]
  generalize htext : regionText lines region = text
  by_cases hnone : text = []
  · rw [if_pos hnone, hnone]
    rw [Cuts.fit_nil]
    refine ⟨state, rfl, ⟨⟨[], (List.append_nil _).symm, List.forall_mem_nil _, ?_⟩, ?_⟩,
      ⟨rfl, rfl, rfl⟩⟩
    · simp [htext, hnone]
    · simp [htext, hnone]
  rw [if_neg hnone]
  generalize hcut : Cuts.fit Char.utf8Size (min state.perFileRemaining state.totalRemaining)
    state.tokenRemaining text = cut
  have hwhole : text.length - cut.length = 0 ↔ cut = text := hcut ▸ omitted_eq_zero_iff
  -- the omissions do not depend on whether there is a snippet
  generalize homissions : (if text.length - cut.length = 0 then state.omissions
    else state.omissions.record text (text.length - cut.length) state.perFileRemaining
      state.totalRemaining state.tokenRemaining) = omissions
  have hclean : omissions = {} ↔ state.omissions = {} ∧ cut = text := by
    rw [← homissions]
    split_ifs with hzero
    · exact (and_iff_left (hwhole.1 hzero)).symm
    · refine iff_of_false ?_ fun h => hzero (hwhole.2 h.2)
      exact record_ne hcut.symm (mt hwhole.2 hzero)
  by_cases hempty : cut = []
  · rw [if_pos hempty]
    refine ⟨{ state with omissions }, rfl,
      ⟨⟨[], (List.append_nil _).symm, List.forall_mem_nil _, ?_⟩, ?_⟩, ?_⟩
    · simp [htext, hcut, hempty]
    · simpa [htext, hcut] using hclean
    · rw [hempty]
      exact ⟨rfl, rfl, rfl⟩
  · rw [if_neg hempty]
    have hend : region.startLine ≤
        min region.endLine (region.startLine + max 1 (Lines.splitlines cut).length - 1) :=
      le_min hle (by omega)
    obtain ⟨snippet, hsnippet, hcontent, hstart⟩ := makeSnippet_eq_ok builder hpos hend cut
    rw [hsnippet, Raising.ok_bind]
    refine ⟨_, rfl, ⟨⟨[snippet], rfl, ?_, ?_⟩, ?_⟩, ⟨rfl, rfl, ?_⟩⟩
    · refine List.forall_mem_singleton.2 ⟨region, List.mem_singleton_self _, hstart, ?_⟩
      rw [hcontent, htext, ← hcut]
      exact Cuts.fit_isPrefix
    · simp [shownText, htext, hcut, hcontent]
    · simpa [htext, hcut] using hclean
    · rw [← contextWindowUnits_eq]

/-- **The loop over the regions shows their cuts.** -/
theorem regionLoop_eq_ok (builder : ContextPacketBuilder) (lines : List (List Char))
    {regions : List RelevantCodeRegion} (hpos : ∀ region ∈ regions, 1 ≤ region.startLine)
    (hordered : ∀ region ∈ regions, region.startLine ≤ region.endLine) (state : RegionState) :
    ∃ state', regions.foldlM (builder.regionStep lines) state = .ok state' ∧
      RegionsShown lines regions state state' := by
  induction regions generalizing state with
  | nil =>
    refine ⟨state, rfl, ⟨[], (List.append_nil _).symm, List.forall_mem_nil _, rfl⟩, ?_⟩
    simp
  | cons region regions ih =>
    rw [List.forall_mem_cons] at hpos hordered
    obtain ⟨state₁, hstep, hone, hspends⟩ :=
      regionStep_eq_ok builder lines state hpos.1 hordered.1
    obtain ⟨state', hloop, hrest⟩ := ih hpos.2 hordered.2 state₁
    refine ⟨state', by rw [List.foldlM_cons, hstep, Raising.ok_bind, hloop], ?_⟩
    have hcut := @Cuts.length_fit_le _ Char.utf8Size
      (min state.perFileRemaining state.totalRemaining) state.tokenRemaining
      (regionText lines region)
    -- both limits of the characters shrink by what was shown
    have hchars : min state₁.perFileRemaining state₁.totalRemaining =
        min state.perFileRemaining state.totalRemaining -
          (Cuts.fit Char.utf8Size (min state.perFileRemaining state.totalRemaining)
            state.tokenRemaining (regionText lines region)).length := by
      rw [hspends.perFile, hspends.total]
      omega
    have hcuts : Cuts.cuts Char.utf8Size (min state.perFileRemaining state.totalRemaining)
        state.tokenRemaining ((region :: regions).map (regionText lines)) =
        Cuts.fit Char.utf8Size (min state.perFileRemaining state.totalRemaining)
          state.tokenRemaining (regionText lines region) ::
        Cuts.cuts Char.utf8Size (min state₁.perFileRemaining state₁.totalRemaining)
          state₁.tokenRemaining (regions.map (regionText lines)) := by
      rw [List.map_cons, Cuts.cuts, hchars, hspends.token]
    obtain ⟨new₁, hsnippets₁, hplaces₁, hshown₁⟩ := hone.shown
    obtain ⟨new, hsnippets, hplaces, hshown⟩ := hrest.shown
    refine ⟨⟨new₁ ++ new, ?_, ?_, ?_⟩, ?_⟩
    · rw [hsnippets, hsnippets₁, List.append_assoc]
    · intro snippet hsnippet
      rcases List.mem_append.1 hsnippet with h | h
      · obtain ⟨other, hother, hfacts⟩ := hplaces₁ snippet h
        exact ⟨other, List.mem_cons.2 (Or.inl (List.mem_singleton.1 hother)), hfacts⟩
      · obtain ⟨other, hother, hfacts⟩ := hplaces snippet h
        exact ⟨other, List.mem_cons_of_mem _ hother, hfacts⟩
    · rw [shownText_append, hshown₁, hshown, hcuts]
      simp
    · rw [hrest.omissions, hone.omissions, hcuts]
      simp [and_assoc]

/-! ### Files and truncations -/

/-- The path of a candidate can be recorded. -/
def PathRecorded (path : String) : Prop :=
  normalizeContextPath path = .ok path ∧ path.length ≤ 1000

/-- What a truncation says of the path of a candidate. -/
def Records (path : String) (omittedFiles : ℕ) (truncation : ContextTruncation) : Prop :=
  truncation.val.omittedFiles = omittedFiles ∧
    ∃ recorded, normalizeContextPath path = .ok recorded ∧ truncation.val.path = some recorded

theorem records_of_make {fields : ContextTruncationFields} {truncation : ContextTruncation}
    {path : String} (hpath : fields.path = some path)
    (h : ContextTruncation.make fields = .ok truncation) :
    Records path fields.omittedFiles truncation := by
  obtain ⟨-, -, recorded, hrecorded, hval⟩ :=
    ContextTruncationFields.validate_eq_ok.1 (Validated.make_eq_ok.1 h)
  rw [hpath] at hrecorded
  obtain ⟨value, hvalue, rfl⟩ := Raising.map_eq_ok.1 hrecorded
  rw [Records, hval]
  exact ⟨rfl, value, hvalue, rfl⟩

theorem exists_make_truncation {fields : ContextTruncationFields} {path : String}
    (hfields : fields.path = some path) (hpath : PathRecorded path)
    (hdetail : 1 ≤ fields.detail.length ∧ fields.detail.length ≤ 2000) :
    ∃ truncation, ContextTruncation.make fields = .ok truncation := by
  refine Validated.exists_make_iff.2 ⟨_, ContextTruncationFields.validate_eq_ok.2
    ⟨?_, hdetail, some path, ?_, rfl⟩⟩
  · rw [hfields]
    exact hpath.2
  · rw [hfields]
    exact Raising.map_eq_ok.2 ⟨path, hpath.1, rfl⟩

/-- The truncations of a file. -/
theorem records_of_mapM {fields : List ContextTruncationFields}
    {truncations : List ContextTruncation} {path : String}
    (hfields : ∀ f ∈ fields, f.path = some path ∧ f.omittedFiles = 0)
    (h : fields.mapM ContextTruncation.make = .ok truncations) :
    truncations.length = fields.length ∧ ∀ t ∈ truncations, Records path 0 t := by
  have hmade := Raising.mapM_eq_ok.1 h
  refine ⟨hmade.length_eq.symm, fun t ht => ?_⟩
  obtain ⟨f, hf, hmake⟩ := (Raising.mem_iff_of_mapM_eq_ok h).1 ht
  obtain ⟨hpath, hzero⟩ := hfields f hf
  exact hzero ▸ records_of_make hpath hmake

/-- What the file of a candidate keeps of what it is made from. -/
theorem makeFile_eq_ok {candidate : PacketCandidate} {source : LoadedSource}
    {snippets : List ContextSnippet} {truncated : Bool} {file : ContextFile}
    (h : makeFile candidate source snippets truncated = .ok file) :
    normalizeContextPath candidate.path = .ok file.val.path ∧
      file.val.sourceSha256 = sourceSha256 source.raw ∧ file.val.snippets = snippets ∧
      file.val.truncated = truncated := by
  obtain ⟨-, -, -, -, path, hpath, hval⟩ :=
    ContextFileFields.validate_eq_ok.1 (Validated.make_eq_ok.1 h)
  rw [hval]
  exact ⟨hpath, rfl, rfl, rfl⟩

/-- A candidate of a visible path. -/
structure CandidateSound (candidate : PacketCandidate) : Prop where
  scopes : candidate.scopeMatches ≠ []
  reasons : candidate.selectionReasons ≠ []
  apart : RegionsApart candidate.regions

/-- **The file of a candidate** can be made of snippets that show cuts of its parts. -/
theorem exists_makeFile {candidate : PacketCandidate} {source : LoadedSource}
    {snippets : List ContextSnippet} {reading : PathReading} {budget : ContextBudget}
    {chars tokens : ℕ} (hcandidate : CandidateSound candidate)
    (hpath : PathRecorded candidate.path) (hread : readSource budget reading = .ok source)
    (hne : snippets ≠ []) (hshown : shownText snippets =
      (Cuts.cuts Char.utf8Size chars tokens (parts candidate source)).flatten)
    (truncated : Bool) : ∃ file, makeFile candidate source snippets truncated = .ok file := by
  have hsub : (shownText snippets).Sublist source.text := by
    rw [hshown]
    exact Cuts.sublist_flatten_cuts.trans (parts_sublist hcandidate.apart source)
  refine Validated.exists_make_iff.2 ⟨_, ContextFileFields.validate_eq_ok.2
    ⟨⟨(length_normalizeContextPath hpath.1).1, hpath.2⟩,
      ⟨hcandidate.scopes, hcandidate.reasons, hne⟩, isSha256_hex _, ⟨rfl, rfl, rfl, ?_, ?_⟩,
      _, hpath.1, rfl⟩⟩
  · dsimp only
    rw [sum_charCount]
    exact hsub.length_le
  · dsimp only
    rw [sum_estimatedTokens]
    exact (Cuts.total_le_of_sublist hsub).trans (units_le_raw hread)

/-- Truncations of a file that can be recorded. -/
structure FileTruncations (path : String) (fields : List ContextTruncationFields) : Prop where
  path : ∀ f ∈ fields, f.path = some path ∧ f.omittedFiles = 0
  detail : ∀ f ∈ fields, 1 ≤ f.detail.length ∧ f.detail.length ≤ 2000

theorem FileTruncations.exists_mapM {path : String} {fields : List ContextTruncationFields}
    (h : FileTruncations path fields) (hpath : PathRecorded path) :
    ∃ truncations, fields.mapM ContextTruncation.make = .ok truncations :=
  Raising.exists_mapM_eq_ok.2 fun f hf =>
    exists_make_truncation (h.path f hf).1 hpath (h.detail f hf)

/-- **The truncations of regions**: one for each limit that cut them. -/
theorem regionTruncations_eq (path : String) (omissions : RegionOmissions) :
    ∃ fields, regionTruncations path omissions = fields.mapM ContextTruncation.make ∧
      FileTruncations path fields ∧ (fields = [] → omissions = {}) := by
  refine ⟨_, rfl, ⟨?_, ?_⟩, fun hnil => ?_⟩
  · simp only [List.mem_append, List.mem_map, or_assoc]
    rintro f (⟨_, -, rfl⟩ | ⟨_, -, rfl⟩ | ⟨_, -, rfl⟩) <;> exact ⟨rfl, rfl⟩
  · simp only [List.mem_append, List.mem_map, or_assoc]
    rintro f (⟨_, -, rfl⟩ | ⟨_, -, rfl⟩ | ⟨_, -, rfl⟩) <;> dsimp only <;> decide +kernel
  · obtain ⟨perFile, total, token⟩ := omissions
    simp only [List.append_eq_nil_iff, List.map_eq_nil_iff, Option.toList_eq_nil_iff] at hnil
    obtain ⟨⟨rfl, rfl⟩, rfl⟩ := hnil
    rfl

/-- The texts of limits are short. -/
theorem length_toString_le {n : ℕ} (h : n ≤ 100000) : (toString n).length ≤ 6 :=
  (Nat.length_repr_le_iff (by decide)).2 (by omega)

/-- **The truncations of a prefix**: one for each limit that cut it. -/
theorem prefixTruncations_eq (builder : ContextPacketBuilder) (path : String)
    {source : LoadedSource} {reading : PathReading}
    (hread : readSource builder.budget reading = .ok source)
    (omittedChars remainingChars remainingTokens : ℕ) :
    FileTruncations path (builder.prefixTruncations path source omittedChars remainingChars
        remainingTokens) ∧
      (builder.prefixTruncations path source omittedChars remainingChars remainingTokens = [] →
        Cuts.fit Char.utf8Size (min builder.budget.maxCharsPerFile remainingChars) remainingTokens
          source.text = source.text) := by
  unfold prefixTruncations
  refine ⟨⟨?_, ?_⟩, fun hnil => ?_⟩
  · intro f hf
    simp only [List.mem_append, List.mem_ite_nil_right, List.mem_singleton, or_assoc] at hf
    rcases hf with ⟨-, rfl⟩ | ⟨-, rfl⟩ | ⟨-, rfl⟩ <;> exact ⟨rfl, rfl⟩
  · intro f hf
    simp only [List.mem_append, List.mem_ite_nil_right, List.mem_singleton, or_assoc] at hf
    rcases hf with ⟨-, rfl⟩ | ⟨-, rfl⟩ | ⟨-, rfl⟩
    · have hdigits := length_toString_le builder.budget.perFile_bounds.2
      dsimp only
      rw [String.length_append, String.length_append]
      have htext :
          "File content was truncated by the per-file character budget of ".length = 63 := by
        decide +kernel
      have hdot : ".".length = 1 := by decide +kernel
      omega
    · dsimp only
      decide +kernel
    · dsimp only
      decide +kernel
  · simp only [List.append_eq_nil_iff, ite_eq_right_iff, List.cons_ne_nil, imp_false,
      Nat.not_lt] at hnil
    obtain ⟨⟨hperFile, htotal⟩, htoken⟩ := hnil
    exact Cuts.fit_eq_iff.2 ⟨le_min hperFile htotal, (units_le_raw hread).trans htoken⟩

/-! ### Loading a candidate -/

/-- What is shown of a source, part by part. -/
def shownParts (builder : ContextPacketBuilder) (candidate : PacketCandidate)
    (source : LoadedSource) (remainingChars remainingTokens : ℕ) : List (List Char) :=
  Cuts.cuts Char.utf8Size (min builder.budget.maxCharsPerFile remainingChars) remainingTokens
    (parts candidate source)

/-- A snippet of a file: it shows the start of a region, or of the file. -/
def Placed (candidate : PacketCandidate) (source : LoadedSource) (snippet : ContextSnippet) :
    Prop :=
  if candidate.regions = [] then snippet.val.startLine = 1 ∧ snippet.val.content <+: source.text
  else Places (Lines.splitlines source.text) candidate.regions snippet

/-- A file shows a source, and what it leaves out is recorded. -/
structure FileShown (builder : ContextPacketBuilder) (candidate : PacketCandidate)
    (source : LoadedSource) (remainingChars remainingTokens : ℕ) (file : ContextFile)
    (truncations : List ContextTruncation) : Prop where
  path : normalizeContextPath candidate.path = .ok file.val.path
  digest : file.val.sourceSha256 = sourceSha256 source.raw
  placed : ∀ snippet ∈ file.val.snippets, Placed candidate source snippet
  shown : shownText file.val.snippets =
    (builder.shownParts candidate source remainingChars remainingTokens).flatten
  truncated : file.val.truncated = true ↔
    builder.shownParts candidate source remainingChars remainingTokens ≠ parts candidate source
  recorded : file.val.truncated = true → ∃ t ∈ truncations, Records candidate.path 0 t

/-- What a loaded candidate is. -/
def LoadedFrom (builder : ContextPacketBuilder) (candidate : PacketCandidate)
    (source : LoadedSource) (remainingChars remainingTokens : ℕ) : LoadedCandidate → Prop
  | .inl (file, truncations) =>
    builder.FileShown candidate source remainingChars remainingTokens file truncations ∧
      ∀ t ∈ truncations, Records candidate.path 0 t
  | .inr truncation => Records candidate.path 1 truncation ∧
    (builder.shownParts candidate source remainingChars remainingTokens).flatten = []

section Loading

variable {candidate : PacketCandidate} {source : LoadedSource} {reading : PathReading}
variable {remainingChars remainingTokens : ℕ}

/-- **A candidate with regions.** -/
theorem loadRegionCandidate_eq_ok (hcandidate : CandidateSound candidate)
    (hregions : candidate.regions ≠ []) {loaded : LoadedCandidate}
    (h : builder.loadRegionCandidate candidate source remainingChars remainingTokens =
      .ok loaded) :
    builder.LoadedFrom candidate source remainingChars remainingTokens loaded := by
  obtain ⟨state, hloop, hshown⟩ := regionLoop_eq_ok builder (Lines.splitlines source.text)
    hcandidate.apart.positive hcandidate.apart.ordered
    { perFileRemaining := builder.budget.maxCharsPerFile
      totalRemaining := remainingChars
      tokenRemaining := remainingTokens }
  obtain ⟨⟨new, hsnippets, hplaces, htext⟩, homissions⟩ := hshown
  have hparts : parts candidate source =
      candidate.regions.map (regionText (Lines.splitlines source.text)) := if_neg hregions
  rw [← hparts] at htext homissions
  rw [List.nil_append] at hsnippets
  unfold loadRegionCandidate at h
  dsimp only at h
  rw [hloop, Raising.ok_bind] at h
  split_ifs at h with hnone
  · simp only [Raising.bind_eq_ok, Raising.pure_eq_ok] at h
    obtain ⟨truncation, hmake, rfl⟩ := h
    refine ⟨records_of_make rfl hmake, ?_⟩
    rw [hsnippets] at hnone
    rw [shownParts, ← htext, hnone, shownText_nil]
  · obtain ⟨fields, hfields, htruncations, hclean⟩ :=
      regionTruncations_eq candidate.path state.omissions
    simp only [Raising.bind_eq_ok, Raising.pure_eq_ok, hfields] at h
    obtain ⟨file, hfile, truncations, hmake, rfl⟩ := h
    obtain ⟨hpath, hdigest, hshows, htruncated⟩ := makeFile_eq_ok hfile
    obtain ⟨hlength, hrecords⟩ := records_of_mapM htruncations.path hmake
    have hcut : file.val.truncated = true ↔ state.omissions ≠ {} := by
      rw [htruncated, decide_eq_true_eq]
    refine ⟨⟨hpath, hdigest, ?_, ?_, ?_, fun hfile => ?_⟩, hrecords⟩
    · rw [hshows, hsnippets]
      simp only [Placed, if_neg hregions]
      exact hplaces
    · rw [hshows, hsnippets, htext, shownParts]
    · rw [hcut, Ne, homissions, shownParts]
      simp
    · have hne : truncations ≠ [] := by
        rw [← List.length_pos_iff, hlength, List.length_pos_iff]
        exact fun hnil => hcut.1 hfile (hclean hnil)
      obtain ⟨t, ht⟩ := List.exists_mem_of_ne_nil _ hne
      exact ⟨t, ht, hrecords t ht⟩

/-- The truncations of a prefix, if it is cut. -/
theorem prefixFields_eq (path : String)
    (hread : readSource builder.budget reading = .ok source)
    (remainingChars remainingTokens : ℕ) {cut : List Char}
    (hcut : Cuts.fit Char.utf8Size (min builder.budget.maxCharsPerFile remainingChars)
      remainingTokens source.text = cut) {fields : List ContextTruncationFields}
    (hfields : (if source.text.length - cut.length = 0 then []
      else builder.prefixTruncations path source (source.text.length - cut.length)
        remainingChars remainingTokens) = fields) :
    FileTruncations path fields ∧ (fields = [] → cut = source.text) := by
  have hwhole : source.text.length - cut.length = 0 ↔ cut = source.text :=
    hcut ▸ omitted_eq_zero_iff
  split_ifs at hfields with hzero
  · subst hfields
    exact ⟨⟨List.forall_mem_nil _, List.forall_mem_nil _⟩, fun _ => hwhole.1 hzero⟩
  · obtain ⟨htruncations, hclean⟩ := prefixTruncations_eq builder path hread
      (source.text.length - cut.length) remainingChars remainingTokens
    rw [hfields] at htruncations hclean
    exact ⟨htruncations, fun hnil => hcut.symm.trans (hclean hnil)⟩

/-- **A candidate without regions** shows a prefix. -/
theorem loadPrefixCandidate_eq_ok (hregions : candidate.regions = [])
    (hread : readSource builder.budget reading = .ok source) {loaded : LoadedCandidate}
    (h : builder.loadPrefixCandidate candidate source remainingChars remainingTokens =
      .ok loaded) :
    builder.LoadedFrom candidate source remainingChars remainingTokens loaded := by
  have hparts : parts candidate source = [source.text] := if_pos hregions
  have hshown := congrArg (Cuts.cuts Char.utf8Size
    (min builder.budget.maxCharsPerFile remainingChars) remainingTokens) hparts
  rw [← shownParts, Cuts.cuts_singleton] at hshown
  unfold loadPrefixCandidate at h
  simp only [fitPrefix_eq] at h
  generalize hcut : Cuts.fit Char.utf8Size (min builder.budget.maxCharsPerFile remainingChars)
    remainingTokens source.text = cut at h hshown
  generalize hfields : (if source.text.length - cut.length = 0 then []
    else builder.prefixTruncations candidate.path source (source.text.length - cut.length)
      remainingChars remainingTokens) = fields at h
  obtain ⟨htruncations, hclean⟩ :=
    prefixFields_eq candidate.path hread remainingChars remainingTokens hcut hfields
  have hwhole : source.text.length - cut.length = 0 ↔ cut = source.text :=
    hcut ▸ omitted_eq_zero_iff
  by_cases hnone : source.text ≠ [] ∧ cut = []
  · rw [if_pos hnone] at h
    simp only [Raising.bind_eq_ok, Raising.pure_eq_ok] at h
    obtain ⟨truncation, hmake, rfl⟩ := h
    refine ⟨records_of_make rfl hmake, ?_⟩
    rw [hshown, hnone.2, List.flatten_singleton]
  · rw [if_neg hnone] at h
    obtain ⟨snippet, hsnippet, hcontent, hstart⟩ := makeSnippet_eq_ok builder le_rfl
      (le_max_left 1 (Lines.splitlines cut).length) cut
    rw [hsnippet, Raising.ok_bind] at h
    simp only [Raising.bind_eq_ok, Raising.pure_eq_ok] at h
    obtain ⟨file, hfile, truncations, hmake, rfl⟩ := h
    obtain ⟨hpath, hdigest, hshows, htruncated⟩ := makeFile_eq_ok hfile
    obtain ⟨hlength, hrecords⟩ := records_of_mapM htruncations.path hmake
    have hcutoff : file.val.truncated = true ↔ cut ≠ source.text := by
      rw [htruncated, decide_eq_true_eq, Ne, hwhole]
    refine ⟨⟨hpath, hdigest, ?_, ?_, ?_, fun hfile => ?_⟩, hrecords⟩
    · rw [hshows, List.forall_mem_singleton, Placed, if_pos hregions, hcontent, ← hcut]
      exact ⟨hstart, Cuts.fit_isPrefix⟩
    · rw [hshows, hshown, List.flatten_singleton, ← hcontent]
      simp [shownText]
    · rw [hcutoff, hshown, hparts]
      simp
    · have hne : truncations ≠ [] := by
        rw [← List.length_pos_iff, hlength, List.length_pos_iff]
        exact fun hnil => hcutoff.1 hfile (hclean hnil)
      obtain ⟨t, ht⟩ := List.exists_mem_of_ne_nil _ hne
      exact ⟨t, ht, hrecords t ht⟩

/-- A candidate with regions can be loaded. -/
theorem exists_loadRegionCandidate (hcandidate : CandidateSound candidate)
    (hregions : candidate.regions ≠ []) (hpath : PathRecorded candidate.path)
    (hread : readSource builder.budget reading = .ok source) :
    ∃ loaded, builder.loadRegionCandidate candidate source remainingChars remainingTokens =
      .ok loaded := by
  obtain ⟨state, hloop, hshown⟩ := regionLoop_eq_ok builder (Lines.splitlines source.text)
    hcandidate.apart.positive hcandidate.apart.ordered
    { perFileRemaining := builder.budget.maxCharsPerFile
      totalRemaining := remainingChars
      tokenRemaining := remainingTokens }
  obtain ⟨new, hsnippets, -, htext⟩ := hshown.shown
  have hparts : parts candidate source =
      candidate.regions.map (regionText (Lines.splitlines source.text)) := if_neg hregions
  rw [← hparts] at htext
  rw [List.nil_append] at hsnippets
  unfold loadRegionCandidate
  dsimp only
  rw [hloop, Raising.ok_bind]
  split_ifs with hnone
  · refine Raising.exists_bind_eq_ok (exists_make_truncation rfl hpath ?_) fun truncation _ => ⟨_, rfl⟩
    dsimp only
    decide +kernel
  · obtain ⟨fields, hfields, htruncations, -⟩ :=
      regionTruncations_eq candidate.path state.omissions
    have hfile := exists_makeFile hcandidate hpath hread hnone (hsnippets ▸ htext)
      (state.omissions ≠ {})
    refine Raising.exists_bind_eq_ok hfile fun file _ => ?_
    rw [hfields]
    exact Raising.exists_bind_eq_ok (htruncations.exists_mapM hpath) fun truncations _ => ⟨_, rfl⟩

/-- A candidate without regions can be loaded. -/
theorem exists_loadPrefixCandidate (hcandidate : CandidateSound candidate)
    (hregions : candidate.regions = []) (hpath : PathRecorded candidate.path)
    (hread : readSource builder.budget reading = .ok source) :
    ∃ loaded, builder.loadPrefixCandidate candidate source remainingChars remainingTokens =
      .ok loaded := by
  have hparts : parts candidate source = [source.text] := if_pos hregions
  unfold loadPrefixCandidate
  simp only [fitPrefix_eq]
  generalize hcut : Cuts.fit Char.utf8Size (min builder.budget.maxCharsPerFile remainingChars)
    remainingTokens source.text = cut
  generalize hfields : (if source.text.length - cut.length = 0 then []
    else builder.prefixTruncations candidate.path source (source.text.length - cut.length)
      remainingChars remainingTokens) = fields
  obtain ⟨htruncations, -⟩ :=
    prefixFields_eq candidate.path hread remainingChars remainingTokens hcut hfields
  split_ifs with hnone
  · refine Raising.exists_bind_eq_ok (exists_make_truncation rfl hpath ?_) fun truncation _ => ⟨_, rfl⟩
    dsimp only
    decide +kernel
  · obtain ⟨snippet, hsnippet, hcontent, -⟩ := makeSnippet_eq_ok builder le_rfl
      (le_max_left 1 (Lines.splitlines cut).length) cut
    have hshown : shownText [snippet] = (Cuts.cuts Char.utf8Size
        (min builder.budget.maxCharsPerFile remainingChars) remainingTokens
        (parts candidate source)).flatten := by
      rw [hparts, Cuts.cuts_singleton, hcut, List.flatten_singleton, ← hcontent]
      simp [shownText]
    rw [hsnippet, Raising.ok_bind]
    have hfile := exists_makeFile hcandidate hpath hread (List.cons_ne_nil snippet []) hshown
      (source.text.length - cut.length ≠ 0)
    refine Raising.exists_bind_eq_ok hfile fun file _ => ?_
    exact Raising.exists_bind_eq_ok (htruncations.exists_mapM hpath) fun truncations _ => ⟨_, rfl⟩

end Loading

end ContextPacketBuilder

end DevFlow
