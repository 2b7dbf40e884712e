/-
# The selection of relevant code

`RelevantCodeExtractor.select` of `context/relevance.py`: the visible files of a task,
ranked by what the task, its scopes and the imports of other files say of them, and the
regions of each Python file that is indexed.  Of the index only the imports are new here
(`Relevance` has the symbols and the preamble); what `ast.walk` finds of them in a source
is a parameter like the statements of its module.

A selection ranks all of the candidates (`perm_select`), and the regions of a file are
those of an `_merge_adjacent_regions`, so they do not meet (`regions_of_mem_select`).
-/

import DevFlow.Context.RegionCoverage
import DevFlow.Models.ContextRecords

namespace DevFlow

/-! ### Terms -/

def isWordStart (c : Char) : Bool :=
  c.isAlpha || c == '_'

def isWordChar (c : Char) : Bool :=
  isWordStart c || c.isDigit

/-- `_TOKEN_RE.findall`; the first argument is the token that is being read. -/
def identifierTokens : List Char → List Char → List (List Char)
  | [], [] => []
  | [], c :: rest => identifierTokens (if isWordStart c then [c] else []) rest
  | token, [] => [token]
  | token, c :: rest =>
    if isWordChar c then identifierTokens (token ++ [c]) rest
    else token :: identifierTokens [] rest

/-- The pieces between the matches of `_CAMEL_BOUNDARY_RE`. -/
def camelPieces (token : List Char) : List (List Char) :=
  token.splitBy fun left right => !((left.isLower || left.isDigit) && right.isUpper)

/-- The terms of a token. -/
def tokenTerms (token : List Char) : List String :=
  (camelPieces token).flatMap fun piece =>
    ((piece.splitOn '_').filter (· ≠ [])).map fun part => String.ofList (part.map Char.toLower)

/-- `_text_terms`. -/
def textTerms (value : String) : List String :=
  ((identifierTokens [] value.toList).flatMap tokenTerms).dedup

/-- `_identifier_terms`. -/
def identifierTerms (value : String) : List String :=
  textTerms (String.ofList (value.toList.map fun c => if c = '.' then '_' else c))

/-- `_STOP_WORDS`. -/
def stopWords : List String :=
  ["a", "an", "and", "as", "at", "be", "by", "for", "from", "in", "into", "is", "it", "of", "on",
    "or", "the", "to", "with", "without", "task", "code", "file", "files", "implementation",
    "implement", "change", "update", "add", "ensure"]

/-- `_task_terms`. -/
def taskTerms (task : TaskContractFields) : List String :=
  let text := "\n".intercalate (task.objective :: task.acceptanceCriteria)
  let patterns := task.writableFiles ++ task.readableFiles ++ task.readonlyFiles
  ((textTerms text ++ patterns.flatMap textTerms).filter fun term =>
    term ∉ stopWords ∧ 1 < term.length).dedup

/-- The terms that two sets have in common, sorted. -/
def sharedTerms (terms others : List String) : List String :=
  (terms.filter (· ∈ others)).insertionSort (· ≤ ·)

/-! ### Candidates -/

/-- `RelevanceCandidate`. -/
structure RelevanceCandidate where
  path : String
  changed : Bool
  scopeKinds : List ContextScopeKind
deriving DecidableEq, Repr

/-- The bounds of the constructor of `RelevantCodeExtractor`. -/
structure RelevanceLimits where
  maxIndexFiles : ℕ := 256
  maxDependencyFiles : ℕ := 64
  maxRegionsPerFile : ℕ := 4
  index_bounds : 1 ≤ maxIndexFiles ∧ maxIndexFiles ≤ 2000 := by decide
  dependency_bound : maxDependencyFiles ≤ 512 := by decide
  regions_bounds : 1 ≤ maxRegionsPerFile ∧ maxRegionsPerFile ≤ 16 := by decide

/-- `_base_score`. -/
def RelevanceCandidate.baseScore (candidate : RelevanceCandidate) (terms : List String) : ℕ :=
  (if candidate.changed then 10000 else 0) +
    (if ContextScopeKind.writable ∈ candidate.scopeKinds then 8000 else 0) +
    (if ContextScopeKind.readOnly ∈ candidate.scopeKinds then 3000 else 0) +
    (if ContextScopeKind.readable ∈ candidate.scopeKinds then 1000 else 0) +
    (sharedTerms (textTerms candidate.path) terms).length * 180

/-- `_seed_priority`. -/
def RelevanceCandidate.seedPriority (candidate : RelevanceCandidate) (terms : List String) : ℕ :=
  candidate.baseScore terms + (if candidate.changed then 20000 else 0) +
    (if ContextScopeKind.writable ∈ candidate.scopeKinds then 10000 else 0)

/-- `_base_evidence`. -/
def RelevanceCandidate.baseEvidence (candidate : RelevanceCandidate) (terms : List String) :
    List String :=
  let overlap := sharedTerms (textTerms candidate.path) terms
  (if candidate.changed then ["changed_file"] else []) ++
    (if ContextScopeKind.writable ∈ candidate.scopeKinds then ["writable_scope"] else []) ++
    (if ContextScopeKind.readOnly ∈ candidate.scopeKinds then ["read_only_scope"] else []) ++
    (if ContextScopeKind.readable ∈ candidate.scopeKinds then ["readable_scope"] else []) ++
    (if overlap = [] then [] else ["path_terms=" ++ ",".intercalate overlap])

/-! ### Modules and imports -/

/-- `_ImportRef`. -/
structure ImportRef where
  moduleName : String
  names : List String
  level : ℕ
deriving DecidableEq, Repr

/-- What `ast.parse` and `ast.walk` return. -/
structure PythonParser where
  parse : AstParse
  imports : List Char → List ImportRef

/-- `_PythonIndex`. -/
structure ModuleIndex extends PythonIndex where
  path : String
  moduleName : String
  imports : List ImportRef

def isPythonPath (path : String) : Bool :=
  ['.', 'p', 'y'].isSuffixOf path.toList

/-- `text.split(".")`. -/
def dotParts (text : String) : List String :=
  (text.toList.splitOn '.').map String.ofList

/-- A file name without its suffix: what stands before the last dot, if neither side of it
is empty. -/
def withoutSuffix (name : List Char) : List Char :=
  let stem := ((name.reverse.dropWhile (· ≠ '.')).drop 1).reverse
  if stem = [] ∨ name.getLast? = some '.' then name else stem

/-- `_canonical_module`. -/
def canonicalModule (path : String) : String :=
  let parts := (path.toList.splitOn '/').filter fun part => part ≠ [] ∧ part ≠ ['.']
  let parts := parts.dropLast ++ (parts.getLast?.map withoutSuffix).toList
  let parts := if parts.getLast? = some "__init__".toList then parts.dropLast else parts
  ".".intercalate (parts.map String.ofList)

/-- `_module_suffixes`. -/
def moduleSuffixes (moduleName : String) : List String :=
  (((dotParts moduleName).filter (· ≠ "")).tails.dropLast).map fun parts => ".".intercalate parts

/-- `_module_path_index`: the paths of a name. -/
def modulePaths (paths : List String) (name : String) : List String :=
  (paths.filter fun path =>
    isPythonPath path ∧ name ∈ moduleSuffixes (canonicalModule path)).dedup.insertionSort (· ≤ ·)

/-- `_index_python`. -/
def indexModule (parser : PythonParser) (path : String) (source : List Char) : Option ModuleIndex :=
  (indexPython parser.parse source).map fun index =>
    { index with path, moduleName := canonicalModule path, imports := parser.imports source }

/-- `_absolute_import_module`. -/
def absoluteImportModule (index : ModuleIndex) (importRef : ImportRef) : String :=
  if importRef.level = 0 then importRef.moduleName
  else
    let currentParts := if index.moduleName = "" then [] else dotParts index.moduleName
    let packageParts :=
      if "/__init__.py".toList.isSuffixOf index.path.toList then currentParts
      else currentParts.dropLast
    let levelsUp := importRef.level - 1
    let moduleParts := if importRef.moduleName = "" then [] else dotParts importRef.moduleName
    if packageParts.length < levelsUp then ""
    else ".".intercalate (packageParts.take (packageParts.length - levelsUp) ++ moduleParts)

/-- `_resolve_local_import`: the first name that is known decides, if it is not ambiguous. -/
def resolveLocalImport (paths : List String) (index : ModuleIndex) (importRef : ImportRef) :
    Option String :=
  let moduleName := absoluteImportModule index importRef
  let modules := if moduleName = "" then []
    else moduleName :: (importRef.names.filter (· ≠ "*")).map fun name => moduleName ++ "." ++ name
  match ((modules.flatMap moduleSuffixes).map (modulePaths paths)).find? (· ≠ []) with
  | some [path] => some path
  | _ => none

/-- An import of one candidate by another. -/
structure ImportEdge where
  parent : String
  dependency : String
  names : List String
deriving DecidableEq, Repr

/-- The loop over the imports of the first indexes. -/
def importEdges (paths : List String) (indexes : List ModuleIndex) : List ImportEdge :=
  (indexes.insertionSort fun left right => left.path ≤ right.path).flatMap fun index =>
    index.imports.filterMap fun importRef =>
      (resolveLocalImport paths index importRef).bind fun dependency =>
        if dependency = index.path then none else some ⟨index.path, dependency, importRef.names⟩

/-- `dependency_parents`. -/
def dependencyParents (edges : List ImportEdge) (path : String) : List String :=
  ((edges.filter fun edge => edge.dependency = path).map ImportEdge.parent).dedup.insertionSort
    (· ≤ ·)

/-- `dependency_symbols`. -/
def dependencySymbols (edges : List ImportEdge) (path : String) : List String :=
  ((edges.filter fun edge => edge.dependency = path).flatMap ImportEdge.names).dedup.insertionSort
    (· ≤ ·)

/-! ### Indexing -/

section Indexing

variable (parser : PythonParser) (loadSource : String → Option (List Char))

/-- `load_source` and `_index_python`. -/
def indexPath (path : String) : Option ModuleIndex :=
  (loadSource path).bind (indexModule parser path)

/-- `index_order`: by falling priority, then by path. -/
def seedLe (terms : List String) (left right : RelevanceCandidate) : Prop :=
  right.seedPriority terms < left.seedPriority terms ∨
    left.seedPriority terms = right.seedPriority terms ∧ left.path ≤ right.path

instance (terms : List String) : DecidableRel (seedLe terms) :=
  fun _ _ => inferInstanceAs (Decidable (_ ∨ _))

/-- `_initial_indexes`. -/
def initialIndexes (maxIndexFiles : ℕ) (terms : List String)
    (candidates : List RelevanceCandidate) : List ModuleIndex :=
  (((candidates.filter fun candidate => isPythonPath candidate.path).insertionSort
    (seedLe terms)).take maxIndexFiles).filterMap fun candidate =>
      indexPath parser loadSource candidate.path

/-- `_index_dependencies`: the loop over the sorted paths. -/
def dependencyIndexes : ℕ → List String → List ModuleIndex
  | _, [] => []
  | remaining, path :: rest =>
    if remaining = 0 then []
    else match indexPath parser loadSource path with
      | none => dependencyIndexes remaining rest
      | some index => index :: dependencyIndexes (remaining - 1) rest

end Indexing

/-- `_apply_dependency_scores`: the loop over the sorted dependencies. -/
def applyDependencyScores (edges : List ImportEdge) (paths : List String) (scores : String → ℕ) :
    String → ℕ :=
  ((edges.map ImportEdge.dependency).dedup.insertionSort (· ≤ ·)).foldl
    (fun scores dependency path =>
      if path = dependency ∧ dependency ∈ paths then
        let strongestParent := ((dependencyParents edges dependency).map scores).foldl max 0
        max (scores dependency) (strongestParent - 1500)
      else scores path)
    scores

/-- What `_apply_dependency_scores` appends to the evidence of a path. -/
def dependencyEvidence (edges : List ImportEdge) (path : String) : List String :=
  let parents := dependencyParents edges path
  let names := (dependencySymbols edges path).filter (· ≠ "*")
  if parents = [] then []
  else ("local_import_from=" ++ ",".intercalate parents) ::
    if names = [] then [] else ["imported_symbols=" ++ ",".intercalate names]

/-! ### The regions of a file -/

/-- An entry of `scored_symbols`. -/
structure ScoredSymbol where
  score : ℕ
  symbol : Symbol
  evidence : List String
deriving DecidableEq

/-- The order of `scored_symbols`. -/
def scoredSymbolLe (left right : ScoredSymbol) : Prop :=
  right.score < left.score ∨ left.score = right.score ∧
    (left.symbol.span.lineno < right.symbol.span.lineno ∨
      left.symbol.span.lineno = right.symbol.span.lineno ∧
        left.symbol.qualname ≤ right.symbol.qualname)

instance : DecidableRel scoredSymbolLe :=
  fun _ _ => inferInstanceAs (Decidable (_ ∨ _))

/-- The score of a symbol and its evidence. -/
def scoreSymbol (terms importedTerms : List String) (symbol : Symbol) : Option ScoredSymbol :=
  let symbolTerms := identifierTerms symbol.qualname
  let taskOverlap := sharedTerms symbolTerms terms
  let importOverlap := sharedTerms symbolTerms importedTerms
  let relevanceScore := taskOverlap.length * 240 + importOverlap.length * 360
  if relevanceScore = 0 then none
  else some
    { score := relevanceScore + if symbol.topLevel then 20 else 0
      symbol
      evidence :=
        (if taskOverlap = [] then [] else ["task_terms=" ++ ",".intercalate taskOverlap]) ++
          if importOverlap = [] then [] else ["import_terms=" ++ ",".intercalate importOverlap] }

/-- `_ranges_overlap`. -/
def rangesOverlap (left right : Symbol) : Bool :=
  !(left.span.endLineno < right.span.lineno || right.span.endLineno < left.span.lineno)

/-- The loop of `selected_symbols`. -/
def selectSymbols (maxRegions : ℕ) (selected : List ScoredSymbol) :
    List ScoredSymbol → List ScoredSymbol
  | [] => selected
  | item :: rest =>
    if selected.any fun other => rangesOverlap item.symbol other.symbol then
      selectSymbols maxRegions selected rest
    else if maxRegions ≤ selected.length + 1 then selected ++ [item]
    else selectSymbols maxRegions (selected ++ [item]) rest

/-- The region of a symbol. -/
def ScoredSymbol.region (item : ScoredSymbol) : RelevantCodeRegion where
  startLine := item.symbol.span.lineno
  endLine := item.symbol.span.endLineno
  kind := .symbol
  symbol := some item.symbol.qualname
  score := item.score
  evidence := item.evidence

/-- The region of the preamble. -/
def preambleRegions (index : ModuleIndex) : List RelevantCodeRegion :=
  if index.preambleEndLine = 0 then []
  else [⟨1, index.preambleEndLine, .modulePreamble, none, 80,
    ["module_docstring_or_import_preamble"]⟩]

/-- The regions that `_regions_for_index` merges. -/
def chosenRegions (maxRegions : ℕ) (index : ModuleIndex) (candidate : RelevanceCandidate)
    (terms importedSymbols : List String) : List RelevantCodeRegion :=
  let importedTerms := importedSymbols.flatMap identifierTerms
  let scored := index.symbols.filterMap (scoreSymbol terms importedTerms)
  let scored :=
    if scored = [] ∧ (candidate.changed ∨ ContextScopeKind.writable ∈ candidate.scopeKinds) then
      ((index.symbols.filter Symbol.topLevel).take maxRegions).map fun symbol =>
        ⟨40, symbol, ["writable_or_changed_top_level_fallback"]⟩
    else scored
  preambleRegions index ++
    (selectSymbols maxRegions [] (scored.insertionSort scoredSymbolLe)).map ScoredSymbol.region

/-- `_regions_for_index`. -/
def regionsForIndex (maxRegions : ℕ) (index : ModuleIndex) (candidate : RelevanceCandidate)
    (terms importedSymbols : List String) : List RelevantCodeRegion :=
  mergeAdjacentRegions (chosenRegions maxRegions index candidate terms importedSymbols)

/-! ### `select` -/

/-- `RelevantFileSelection`. -/
structure RelevantFileSelection where
  path : String
  score : ℕ
  regions : List RelevantCodeRegion
  localDependencies : List String
  evidence : List String
  pythonAstIndexed : Bool
deriving DecidableEq, Repr

/-- The order of the selections: by falling score, then by path. -/
def selectionLe (left right : RelevantFileSelection) : Prop :=
  right.score < left.score ∨ left.score = right.score ∧ left.path ≤ right.path

instance : DecidableRel selectionLe :=
  fun _ _ => inferInstanceAs (Decidable (_ ∨ _))

/-- The selection of a candidate. -/
def selectCandidate (limits : RelevanceLimits) (terms : List String) (indexes : List ModuleIndex)
    (edges : List ImportEdge) (scores : String → ℕ) (candidate : RelevanceCandidate) :
    RelevantFileSelection :=
  let index := indexes.find? fun index => index.path = candidate.path
  let regions := (index.map fun index => regionsForIndex limits.maxRegionsPerFile index candidate
    terms (dependencySymbols edges candidate.path)).getD []
  { path := candidate.path
    score := scores candidate.path + (regions.map RelevantCodeRegion.score).foldl max 0
    regions
    localDependencies :=
      ((edges.filter fun edge => edge.parent = candidate.path).map
        ImportEdge.dependency).dedup.insertionSort (· ≤ ·)
    evidence := candidate.baseEvidence terms ++ dependencyEvidence edges candidate.path ++
      if regions = [] then [] else ["python_ast_regions"]
    pythonAstIndexed := index.isSome }

/-- `select`. -/
def select (parser : PythonParser) (limits : RelevanceLimits) (task : TaskContractFields)
    (candidates : List RelevanceCandidate) (loadSource : String → Option (List Char)) :
    List RelevantFileSelection :=
  let terms := taskTerms task
  let paths := candidates.map RelevanceCandidate.path
  let initial := initialIndexes parser loadSource limits.maxIndexFiles terms candidates
  let edges := importEdges paths initial
  let indexed := initial.map ModuleIndex.path
  let queue := ((edges.map ImportEdge.dependency).filter (· ∉ indexed)).dedup.insertionSort (· ≤ ·)
  let indexes := initial ++ dependencyIndexes parser loadSource limits.maxDependencyFiles queue
  let baseScores path :=
    ((candidates.find? fun candidate => candidate.path = path).map
      fun candidate => candidate.baseScore terms).getD 0
  let scores := applyDependencyScores edges paths baseScores
  (candidates.map (selectCandidate limits terms indexes edges scores)).insertionSort selectionLe

/-! ### What is selected -/

variable {parser : PythonParser} {limits : RelevanceLimits} {task : TaskContractFields}
variable {candidates : List RelevanceCandidate} {loadSource : String → Option (List Char)}

/-- **Every candidate is ranked, and nothing else.** -/
theorem perm_select :
    ((select parser limits task candidates loadSource).map RelevantFileSelection.path).Perm
      (candidates.map RelevanceCandidate.path) := by
  rw [select]
  refine ((List.perm_insertionSort _ _).map _).trans (List.Perm.of_eq ?_)
  rw [List.map_map]
  rfl

/-- The regions of a file: they have their lines, and no two of them meet. -/
structure RegionsApart (regions : List RelevantCodeRegion) : Prop where
  positive : ∀ region ∈ regions, 1 ≤ region.startLine
  ordered : ∀ region ∈ regions, region.startLine ≤ region.endLine
  apart : regions.Pairwise fun region region' => region.endLine < region'.startLine

theorem RegionsApart.nil : RegionsApart [] :=
  ⟨List.forall_mem_nil _, List.forall_mem_nil _, List.Pairwise.nil⟩

/-- **Merging takes regions apart.** -/
theorem regionsApart_mergeAdjacentRegions {regions : List RelevantCodeRegion}
    (hpositive : ∀ region ∈ regions, 1 ≤ region.startLine)
    (hordered : ∀ region ∈ regions, region.startLine ≤ region.endLine) :
    RegionsApart (mergeAdjacentRegions regions) where
  positive := by
    intro region hregion
    have hle := ordered_of_mem_mergeAdjacentRegions hordered region hregion
    -- the first line of a merged region lies in one of the regions
    have hline : region.startLine ∈ coverage (mergeAdjacentRegions regions) :=
      ⟨region, hregion, Set.mem_Icc.2 ⟨le_rfl, hle⟩⟩
    rw [coverage_mergeAdjacentRegions] at hline
    obtain ⟨other, hother, hmem⟩ := hline
    exact (hpositive other hother).trans (Set.mem_Icc.1 hmem).1
  ordered := ordered_of_mem_mergeAdjacentRegions hordered
  apart := (pairwise_mergeAdjacentRegions regions).imp fun h => by omega

theorem chosenRegions_lines {maxRegions : ℕ} {index : ModuleIndex} {candidate : RelevanceCandidate}
    {terms importedSymbols : List String} {region : RelevantCodeRegion}
    (h : region ∈ chosenRegions maxRegions index candidate terms importedSymbols) :
    1 ≤ region.startLine ∧ region.startLine ≤ region.endLine := by
  rw [chosenRegions] at h
  rcases List.mem_append.1 h with hpreamble | hsymbol
  · rw [preambleRegions] at hpreamble
    split_ifs at hpreamble with hnone
    · cases hpreamble
    · obtain rfl := List.mem_singleton.1 hpreamble
      exact ⟨le_rfl, Nat.one_le_iff_ne_zero.2 hnone⟩
  · obtain ⟨item, -, rfl⟩ := List.mem_map.1 hsymbol
    exact ⟨item.symbol.span.positive, item.symbol.span.ordered⟩

/-- **The regions of a selection do not meet.** -/
theorem regions_of_mem_select {selection : RelevantFileSelection}
    (h : selection ∈ select parser limits task candidates loadSource) :
    RegionsApart selection.regions := by
  rw [select, List.mem_insertionSort] at h
  obtain ⟨candidate, -, rfl⟩ := List.mem_map.1 h
  unfold selectCandidate
  dsimp only
  generalize List.find? _ _ = index
  cases index with
  | none => exact RegionsApart.nil
  | some index =>
    exact regionsApart_mergeAdjacentRegions (fun _ hregion => (chosenRegions_lines hregion).1)
      fun _ hregion => (chosenRegions_lines hregion).2

end DevFlow
