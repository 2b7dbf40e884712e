/-
# Listing and searching the files of a task

`_list_files`, `_search_code` and `_search_code_many` of `tools/repository.py`.
They look at the first files below a directory only, and the first two stop as
soon as they have a number of results, so `truncated` says whether a result is
missing unless there are exactly as many, or all files that are looked at have
fewer and a later one has more; the third notes a result that it leaves out, so
it agrees with the second unless there are exactly as many
(`truncated_exact_iff`).
-/

import DevFlow.Library.Scans
import DevFlow.Tools.PathScopes

namespace DevFlow

/-- `_MAX_SCAN_FILES`. -/
def maxScanFiles : ℕ := 1000

/-- `_MAX_LIST_ENTRIES`. -/
def maxListEntries : ℕ := 200

/-- `_MAX_SEARCH_RESULTS`. -/
def maxSearchResults : ℕ := 50

/-! ### The files below a directory -/

/-- `sorted(base.rglob("*"))`. -/
def rglob (tree : WorkingTree) (base : RepoPath) : List RepoPath :=
  (tree.entries.keys.filter fun path => base <+: path ∧ path ≠ base).insertionSort (· ≤ ·)

/-- The loop of `_iter_files`. -/
def iterFrom (tree : WorkingTree) : ℕ → List RepoPath → List RepoPath
  | _, [] => []
  | scanned, path :: rest =>
    if maxScanFiles ≤ scanned then []
    else if tree.bytesAt path = none then iterFrom tree scanned rest
    else if isInternal (asPosix path) = true then iterFrom tree scanned rest
    else path :: iterFrom tree (scanned + 1) rest

/-- `_iter_files`. -/
def iterFiles (tree : WorkingTree) (base : RepoPath) : List RepoPath :=
  iterFrom tree 0 (rglob tree base)

/-- `_resolve_directory`. -/
def resolveDirectory (tree : WorkingTree) (repositoryDirectory : String) :
    Except ToolFailure RepoPath := do
  let normalized := strip repositoryDirectory
  if normalized = "" ∨ normalized = "." then return []
  Raising.raiseIf (isInternal normalized = true)
    ⟨.pathDenied, "DevFlow repository tools never expose .git internals"⟩
  let directory ← raised (resolvePath tree normalized)
  Raising.raiseIf (tree.lookup directory = none)
    ⟨.notFound, "Directory does not exist: " ++ normalized⟩
  Raising.raiseIf (tree.lookup directory ≠ some .directory)
    ⟨.invalidArguments, "Path is not a directory: " ++ normalized⟩
  return directory

/-- The `directory` field of the arguments: `Field(max_length=500)`. -/
def validateDirectory (directory : String) : Except ToolFailure Unit :=
  Raising.raiseIf (500 < directory.length) ⟨.invalidArguments, "directory is too long"⟩

/-! ### The listing of a directory -/

structure ListFilesArgs where
  directory : String := ""
deriving DecidableEq, Repr

structure ListFilesResult where
  files : List String
  truncated : Bool
  directoryExists : Bool
deriving DecidableEq, Repr

/-- The body of the loop of `_list_files`, where an error is its `break`. -/
def listFile (task : TaskContract) (files : List String) (path : RepoPath) :
    Except (List String) (List String) :=
  let files := if canRead task (asPosix path) = true then files ++ [asPosix path] else files
  if maxListEntries ≤ files.length then .error files else .ok files

/-- `_list_files`, of a directory that is there. -/
def listBelow (task : TaskContract) (tree : WorkingTree) (base : RepoPath) : ListFilesResult :=
  match (iterFiles tree base).foldlM (listFile task) [] with
  | .error files => ⟨files, maxListEntries ≤ files.length, true⟩
  | .ok files => ⟨files, maxListEntries ≤ files.length, true⟩

/-- `_list_files`. -/
def listFiles (task : TaskContract) (tree : WorkingTree) (args : ListFilesArgs) :
    Except ToolFailure ListFilesResult := do
  validateDirectory args.directory
  let normalized := strip args.directory
  if normalized = "" ∨ normalized = "." then return listBelow task tree []
  Raising.raiseIf (isInternal normalized = true)
    ⟨.pathDenied, "DevFlow repository tools never expose .git internals"⟩
  let base ← raised (resolvePath tree normalized)
  if tree.lookup base = none then return ⟨[], false, false⟩
  Raising.raiseIf (tree.lookup base ≠ some .directory)
    ⟨.invalidArguments, "Path is not a directory: " ++ normalized⟩
  return listBelow task tree base

/-! ### The search for a text -/

structure SearchMatch where
  path : String
  line : ℕ
  text : String
deriving DecidableEq, Repr

structure SearchCodeArgs where
  query : String
  directory : String := ""
  maxResults : ℕ := 20
deriving DecidableEq, Repr

structure SearchCodeResult where
  found : List SearchMatch
  truncated : Bool
deriving DecidableEq, Repr

/-- `enumerate(text.splitlines(), start=1)`. -/
def numberedLines (text : List Char) : List (List Char × ℕ) :=
  ((Lines.splitlines text).map fun line => line.rdropWhile Lines.isLineBreak).zipIdx 1

/-- The lines of a file that are searched; there are none of a file that the task may not
read, that is too large, or that is not UTF-8. -/
def searchedLines (task : TaskContract) (tree : WorkingTree) (path : RepoPath) :
    List (List Char × ℕ) :=
  if canRead task (asPosix path) = false then []
  else match tree.bytesAt path with
    | none => []
    | some bytes =>
      if maxFileBytes < bytes.length then []
      else match Utf8.decode bytes with
        | none => []
        | some text => numberedLines (Lines.universalNewlines text)

/-- What is reported of a line that contains a query. -/
def lineMatch (query relative : String) (line : List Char × ℕ) : Option SearchMatch :=
  if query.toList <:+: line.1 then some ⟨relative, line.2, String.ofList (line.1.take 300)⟩
  else none

/-- The body of the inner loop of `_search_code`, where an error is its early return. -/
def searchLine (query : String) (maxResults : ℕ) (relative : String) (found : List SearchMatch)
    (line : List Char × ℕ) : Except (List SearchMatch) (List SearchMatch) :=
  match lineMatch query relative line with
  | none => .ok found
  | some result => Scans.push maxResults found result

/-- The body of the outer loop of `_search_code`. -/
def searchFile (task : TaskContract) (tree : WorkingTree) (query : String) (maxResults : ℕ)
    (found : List SearchMatch) (path : RepoPath) :
    Except (List SearchMatch) (List SearchMatch) :=
  (searchedLines task tree path).foldlM (searchLine query maxResults (asPosix path)) found

/-- `SearchCodeArgs.normalize_query`. -/
def normalizeQuery (value : String) : Except ToolFailure String := do
  Raising.raiseIf (strip value = "") ⟨.invalidArguments, "query must not be empty"⟩
  return strip value

/-- `_search_code`. -/
def searchCode (task : TaskContract) (tree : WorkingTree) (args : SearchCodeArgs) :
    Except ToolFailure SearchCodeResult := do
  Raising.raiseIf (args.query.length < 1 ∨ 500 < args.query.length)
    ⟨.invalidArguments, "query length is out of range"⟩
  let query ← normalizeQuery args.query
  validateDirectory args.directory
  Raising.raiseIf (args.maxResults < 1 ∨ maxSearchResults < args.maxResults)
    ⟨.invalidArguments, "max_results is out of range"⟩
  let base ← resolveDirectory tree args.directory
  match (iterFiles tree base).foldlM (searchFile task tree query args.maxResults) [] with
  | .error found => return ⟨found, true⟩
  | .ok found => return ⟨found, false⟩

/-! ### The search for several texts -/

structure SearchCodeManyArgs where
  queries : List String
  directory : String := ""
  maxResultsPerQuery : ℕ := 10
deriving DecidableEq, Repr

/-- The results for one of the queries. -/
structure QueryResult where
  query : String
  found : List SearchMatch
  truncated : Bool
deriving DecidableEq, Repr

/-- A match is appended, or the query is added to `truncated_queries`. -/
def QueryResult.keep (maxResults : ℕ) (result : QueryResult) (line : SearchMatch) : QueryResult :=
  let (found, truncated) := Scans.keep maxResults (result.found, result.truncated) line
  ⟨result.query, found, truncated⟩

/-- The body of the innermost loop of `_search_code_many`. -/
def searchQuery (maxResults : ℕ) (relative : String) (line : List Char × ℕ)
    (result : QueryResult) : QueryResult :=
  match lineMatch result.query relative line with
  | none => result
  | some found => result.keep maxResults found

/-- The body of the outer loop of `_search_code_many`. -/
def searchManyFile (task : TaskContract) (tree : WorkingTree) (maxResults : ℕ)
    (results : List QueryResult) (path : RepoPath) : List QueryResult :=
  (searchedLines task tree path).foldl
    (fun results line => results.map (searchQuery maxResults (asPosix path) line)) results

/-- `_search_code_many`. -/
def searchCodeMany (task : TaskContract) (tree : WorkingTree) (args : SearchCodeManyArgs) :
    Except ToolFailure (List QueryResult) := do
  Raising.raiseIf (args.queries.length < 1 ∨ 6 < args.queries.length)
    ⟨.invalidArguments, "queries length is out of range"⟩
  let queries ← args.queries.mapM normalizeQuery
  Raising.raiseIf (¬queries.Nodup) ⟨.invalidArguments, "queries must not contain duplicates"⟩
  validateDirectory args.directory
  Raising.raiseIf (args.maxResultsPerQuery < 1 ∨ 20 < args.maxResultsPerQuery)
    ⟨.invalidArguments, "max_results_per_query is out of range"⟩
  let base ← resolveDirectory tree args.directory
  return (iterFiles tree base).foldl (searchManyFile task tree args.maxResultsPerQuery)
    (queries.map fun query => ⟨query, [], false⟩)

/-! ### What the loops return -/

/-- The files below a directory, outside the internals of Git. -/
def filesBelow (tree : WorkingTree) (base : RepoPath) : List RepoPath :=
  (rglob tree base).filter fun path => tree.bytesAt path ≠ none ∧ isInternal (asPosix path) = false

/-- The files that a listing shows. -/
def visibleFiles (task : TaskContract) (files : List RepoPath) : List String :=
  (files.map asPosix).filter (canRead task)

/-- The matching lines of a file. -/
def fileMatches (task : TaskContract) (tree : WorkingTree) (query : String) (path : RepoPath) :
    List SearchMatch :=
  (searchedLines task tree path).filterMap (lineMatch query (asPosix path))

/-- The matching lines of the files. -/
def matchingLines (task : TaskContract) (tree : WorkingTree) (query : String)
    (files : List RepoPath) : List SearchMatch :=
  files.flatMap (fileMatches task tree query)

section Loops

variable {task : TaskContract} {tree : WorkingTree} {base path : RepoPath}

/-- **The files below a directory** are the paths with bytes below it, `.git` apart. -/
theorem mem_filesBelow :
    path ∈ filesBelow tree base ↔
      (base <+: path ∧ path ≠ base) ∧ tree.bytesAt path ≠ none ∧
        isInternal (asPosix path) = false := by
  rw [filesBelow, List.mem_filter, rglob, (List.perm_insertionSort _ _).mem_iff, List.mem_filter,
    decide_eq_true_iff, decide_eq_true_iff]
  refine ⟨fun h => ⟨h.1.2, h.2⟩, fun h => ⟨⟨?_, h.1⟩, h.2⟩⟩
  obtain ⟨bytes, hbytes⟩ := Option.ne_none_iff_exists'.1 h.2.1
  rw [WorkingTree.bytesAt_eq_some_iff] at hbytes
  have hne : path ≠ [] := by
    rintro rfl
    rw [WorkingTree.lookup_root] at hbytes
    cases hbytes
  rw [WorkingTree.lookup_of_ne_nil hne] at hbytes
  exact AList.mem_keys.1 (AList.lookup_isSome.1 (hbytes ▸ rfl))

theorem nodup_filesBelow : (filesBelow tree base).Nodup := by
  refine List.Nodup.filter _ ?_
  rw [rglob, (List.perm_insertionSort _ _).nodup_iff]
  exact tree.entries.nodupKeys.filter _

theorem iterFrom_eq (tree : WorkingTree) (scanned : ℕ) (paths : List RepoPath) :
    iterFrom tree scanned paths =
      (paths.filter fun path =>
        tree.bytesAt path ≠ none ∧ isInternal (asPosix path) = false).take
          (maxScanFiles - scanned) := by
  induction paths generalizing scanned with
  | nil => rw [iterFrom, List.filter_nil, List.take_nil]
  | cons path paths ih =>
    rw [iterFrom]
    by_cases hscanned : maxScanFiles ≤ scanned
    · have hzero : maxScanFiles - scanned = 0 := by omega
      rw [if_pos hscanned, hzero, List.take_zero]
    rw [if_neg hscanned]
    by_cases hfile : tree.bytesAt path = none
    · rw [if_pos hfile, List.filter_cons_of_neg (by simp [hfile]), ih]
    rw [if_neg hfile]
    by_cases hinternal : isInternal (asPosix path) = true
    · rw [if_pos hinternal, List.filter_cons_of_neg (by simp [hinternal]), ih]
    · have hstep : maxScanFiles - scanned = maxScanFiles - (scanned + 1) + 1 := by omega
      rw [if_neg hinternal, List.filter_cons_of_pos (by simp [hfile, hinternal]), hstep,
        List.take_succ_cons, ih]

/-- **The files that are looked at** are the first ones below the directory. -/
theorem iterFiles_eq : iterFiles tree base = (filesBelow tree base).take maxScanFiles :=
  iterFrom_eq tree 0 (rglob tree base)

/-- The listing collects the visible files. -/
theorem foldlM_listFile (paths : List RepoPath) {files : List String}
    (h : files.length < maxListEntries) :
    paths.foldlM (listFile task) files =
      (visibleFiles task paths).foldlM (Scans.push maxListEntries) files := by
  induction paths generalizing files with
  | nil => rfl
  | cons path paths ih =>
    rw [List.foldlM_cons, visibleFiles, List.map_cons]
    by_cases hread : canRead task (asPosix path) = true
    · rw [List.filter_cons_of_pos hread, List.foldlM_cons, listFile, if_pos hread, Scans.push]
      by_cases hlimit : maxListEntries ≤ (files ++ [asPosix path]).length
      · rw [if_pos hlimit]
        rfl
      · rw [if_neg hlimit]
        exact ih (by omega)
    · rw [List.filter_cons_of_neg hread, listFile, if_neg hread, if_neg (by omega)]
      exact ih h

/-- **What a listing returns**: the first of the visible files that are looked at. -/
theorem listBelow_eq :
    listBelow task tree base =
      ⟨(visibleFiles task (iterFiles tree base)).take maxListEntries,
        decide (maxListEntries ≤ (visibleFiles task (iterFiles tree base)).length), true⟩ := by
  have hempty : ([] : List String).length < maxListEntries := by decide
  rw [listBelow, foldlM_listFile _ hempty, Scans.foldlM_push _ hempty, List.nil_append]
  by_cases hlimit : maxListEntries ≤ (visibleFiles task (iterFiles tree base)).length
  · have hlength : maxListEntries ≤
        ((visibleFiles task (iterFiles tree base)).take maxListEntries).length := by
      rw [List.length_take]
      omega
    rw [if_pos hlimit]
    simp only [hlimit, hlength]
  · rw [if_neg hlimit]
    simp only [hlimit, List.take_of_length_le (Nat.le_of_not_le hlimit)]

theorem foldlM_searchFile (query : String) (maxResults : ℕ) (paths : List RepoPath)
    (found : List SearchMatch) :
    paths.foldlM (searchFile task tree query maxResults) found =
      (matchingLines task tree query paths).foldlM (Scans.push maxResults) found := by
  have hfile : searchFile task tree query maxResults = fun found path =>
      (fileMatches task tree query path).foldlM (Scans.push maxResults) found := by
    funext found path
    rw [fileMatches, List.foldlM_filterMap, searchFile]
    refine congrArg (fun step => List.foldlM step found _) ?_
    funext found line
    rw [searchLine]
    cases lineMatch query (asPosix path) line <;> rfl
  rw [hfile, matchingLines, Scans.foldlM_flatMap]

theorem normalizeQuery_eq_ok {value query : String} :
    normalizeQuery value = .ok query ↔ strip value ≠ "" ∧ strip value = query := by
  simp only [normalizeQuery, Raising.bind_eq_ok, Raising.raiseIf_eq_ok, Raising.pure_eq_ok]
  constructor
  · rintro ⟨-, h⟩
    exact h
  · exact fun h => ⟨⟨⟩, h⟩

/-- **What a search returns**: the first of the matching lines. -/
theorem searchCode_eq_ok {args : SearchCodeArgs} {result : SearchCodeResult} :
    searchCode task tree args = .ok result ↔
      (1 ≤ args.query.length ∧ args.query.length ≤ 500) ∧ strip args.query ≠ "" ∧
      args.directory.length ≤ 500 ∧ (1 ≤ args.maxResults ∧ args.maxResults ≤ maxSearchResults) ∧
      ∃ base, resolveDirectory tree args.directory = .ok base ∧
        result = ⟨(matchingLines task tree (strip args.query) (iterFiles tree base)).take
            args.maxResults,
          decide (args.maxResults ≤
            (matchingLines task tree (strip args.query) (iterFiles tree base)).length)⟩ := by
  have hloop : ∀ base, 1 ≤ args.maxResults →
      (match (iterFiles tree base).foldlM
          (searchFile task tree (strip args.query) args.maxResults) [] with
        | .error found => (.ok ⟨found, true⟩ : Except ToolFailure SearchCodeResult)
        | .ok found => .ok ⟨found, false⟩) =
      .ok ⟨(matchingLines task tree (strip args.query) (iterFiles tree base)).take args.maxResults,
        decide (args.maxResults ≤
          (matchingLines task tree (strip args.query) (iterFiles tree base)).length)⟩ := by
    intro base hpos
    rw [foldlM_searchFile, Scans.foldlM_push _ hpos, List.nil_append]
    by_cases hlimit : args.maxResults ≤
        (matchingLines task tree (strip args.query) (iterFiles tree base)).length
    · rw [if_pos hlimit, decide_eq_true hlimit]
    · rw [if_neg hlimit, decide_eq_false hlimit, List.take_of_length_le (Nat.le_of_not_le hlimit)]
  simp only [searchCode, normalizeQuery_eq_ok, validateDirectory, Raising.bind_eq_ok,
    Raising.raiseIf_eq_ok, not_or, not_lt]
  constructor
  · rintro ⟨-, hquery, _, ⟨hstrip, rfl⟩, -, hdirectory, -, hmax, base, hbase, hresult⟩
    have hreturn := (hloop base hmax.1).symm.trans hresult
    exact ⟨hquery, hstrip, hdirectory, hmax, base, hbase, (Except.ok.inj hreturn).symm⟩
  · rintro ⟨hquery, hstrip, hdirectory, hmax, base, hbase, rfl⟩
    exact ⟨⟨⟩, hquery, _, ⟨hstrip, rfl⟩, ⟨⟩, hdirectory, ⟨⟩, hmax, base, hbase, hloop base hmax.1⟩

/-! ### Several queries -/

theorem of_mapM_normalizeQuery {values queries : List String}
    (h : values.mapM normalizeQuery = .ok queries) :
    (∀ value ∈ values, strip value ≠ "") ∧ queries = values.map strip := by
  rw [Raising.mapM_eq_ok] at h
  induction h with
  | nil => exact ⟨fun _ hmem => absurd hmem List.not_mem_nil, rfl⟩
  | cons hquery _ ih =>
    obtain ⟨hne, rfl⟩ := normalizeQuery_eq_ok.1 hquery
    exact ⟨List.forall_mem_cons.2 ⟨hne, ih.1⟩, by rw [List.map_cons, ih.2]⟩

theorem query_keep (maxResults : ℕ) (result : QueryResult) (line : SearchMatch) :
    (result.keep maxResults line).query = result.query :=
  rfl

theorem query_foldl_keep (maxResults : ℕ) (lines : List SearchMatch) (result : QueryResult) :
    (lines.foldl (QueryResult.keep maxResults) result).query = result.query := by
  induction lines generalizing result with
  | nil => rfl
  | cons line lines ih => rw [List.foldl_cons, ih, query_keep]

/-- A query keeps the matching lines of its own. -/
theorem foldl_searchQuery (maxResults : ℕ) (relative : String) (lines : List (List Char × ℕ))
    (result : QueryResult) :
    lines.foldl (fun result line => searchQuery maxResults relative line result) result =
      (lines.filterMap (lineMatch result.query relative)).foldl (QueryResult.keep maxResults)
        result := by
  induction lines generalizing result with
  | nil => rfl
  | cons line lines ih =>
    rw [List.foldl_cons, ih, List.filterMap_cons, searchQuery]
    cases lineMatch result.query relative line with
    | none => rfl
    | some found => rw [query_keep, List.foldl_cons]

theorem searchManyFile_eq (maxResults : ℕ) (results : List QueryResult) (path : RepoPath) :
    searchManyFile task tree maxResults results path = results.map fun result =>
      (fileMatches task tree result.query path).foldl (QueryResult.keep maxResults) result := by
  rw [searchManyFile, Scans.foldl_map]
  exact List.map_congr_left fun result _ => foldl_searchQuery maxResults _ _ result

/-- **Each query keeps its own matching lines**, in one scan of the files. -/
theorem foldl_searchManyFile (maxResults : ℕ) (paths : List RepoPath)
    (results : List QueryResult) :
    paths.foldl (searchManyFile task tree maxResults) results = results.map fun result =>
      (matchingLines task tree result.query paths).foldl (QueryResult.keep maxResults) result := by
  induction paths generalizing results with
  | nil => exact (List.map_id results).symm
  | cons path paths ih =>
    rw [List.foldl_cons, ih, searchManyFile_eq, List.map_map]
    refine List.map_congr_left fun result _ => ?_
    rw [Function.comp_apply, query_foldl_keep, matchingLines, matchingLines, List.flatMap_cons,
      List.foldl_append]

theorem foldl_keep_eq (maxResults : ℕ) (lines : List SearchMatch) (result : QueryResult) :
    lines.foldl (QueryResult.keep maxResults) result =
      let (found, truncated) := lines.foldl (Scans.keep maxResults) (result.found, result.truncated)
      ⟨result.query, found, truncated⟩ := by
  induction lines generalizing result with
  | nil => rfl
  | cons line lines ih =>
    rw [List.foldl_cons, ih, List.foldl_cons]
    rfl

/-- **What a search for several texts returns**: of each query, the first of the matching
lines, and whether there are more. -/
theorem searchCodeMany_eq_ok {args : SearchCodeManyArgs} {results : List QueryResult}
    (h : searchCodeMany task tree args = .ok results) :
    (args.directory.length ≤ 500 ∧ 1 ≤ args.maxResultsPerQuery ∧ args.maxResultsPerQuery ≤ 20) ∧
      (∀ query ∈ args.queries, strip query ≠ "") ∧
      ∃ base, resolveDirectory tree args.directory = .ok base ∧
        results = (args.queries.map strip).map fun query =>
          ⟨query, (matchingLines task tree query (iterFiles tree base)).take
              args.maxResultsPerQuery,
            decide (args.maxResultsPerQuery <
              (matchingLines task tree query (iterFiles tree base)).length)⟩ := by
  simp only [searchCodeMany, validateDirectory, Raising.bind_eq_ok, Raising.raiseIf_eq_ok,
    Raising.pure_eq_ok, not_or, not_lt] at h
  obtain ⟨-, -, queries, hqueries, -, -, -, hdirectory, -, hmax, base, hbase, hresults⟩ := h
  obtain ⟨hstrip, hmap⟩ := of_mapM_normalizeQuery hqueries
  refine ⟨⟨hdirectory, hmax⟩, hstrip, base, hbase, ?_⟩
  rw [← hresults, foldl_searchManyFile, List.map_map, hmap]
  refine List.map_congr_left fun query _ => ?_
  have hempty : ([] : List SearchMatch).length ≤ args.maxResultsPerQuery := Nat.zero_le _
  have hfalse : false = true → ([] : List SearchMatch).length = args.maxResultsPerQuery := by simp
  rw [Function.comp_apply, foldl_keep_eq, Scans.foldl_keep _ hempty false hfalse, List.nil_append,
    Bool.false_or]

end Loops

/-! ### What the flags tell -/

/-- Nothing and a dot name the root. -/
theorem canonicalPath_of_root {directory : String}
    (h : strip directory = "" ∨ strip directory = ".") : canonicalPath directory = [] := by
  rw [canonicalPath]
  rcases h with h | h
  · rw [h]
    rfl
  · rw [h]
    rfl

theorem resolveDirectory_eq {tree : WorkingTree} {directory : String} {base : RepoPath}
    (h : resolveDirectory tree directory = .ok base) : canonicalPath directory = base := by
  rw [resolveDirectory] at h
  split_ifs at h with hroot
  · rw [← Except.ok.inj h]
    exact canonicalPath_of_root hroot
  · simp only [Raising.bind_eq_ok, raised_eq_ok, resolvePath_eq_ok, strip_strip,
      Raising.pure_eq_ok] at h
    obtain ⟨-, -, path, ⟨hspells, -⟩, -, -, -, -, rfl⟩ := h
    exact hspells.eq_canonicalPath

/-- A directory that is not there has no files. -/
theorem filesBelow_of_lookup_eq_none {tree : WorkingTree} {base : RepoPath}
    (h : tree.lookup base = none) : filesBelow tree base = [] := by
  rw [List.eq_nil_iff_forall_not_mem]
  intro path hpath
  obtain ⟨⟨⟨back, rfl⟩, hne⟩, hbytes, -⟩ := mem_filesBelow.1 hpath
  have hback : back ≠ [] := fun hnil => hne (by rw [hnil, List.append_nil])
  have hentry : tree.lookup (base ++ back) ≠ none := by
    intro hnone
    rw [WorkingTree.bytesAt, hnone] at hbytes
    exact hbytes rfl
  rw [WorkingTree.lookup_of_prefix hback hentry] at h
  cases h

/-- **What `list_files` returns.** -/
theorem listFiles_eq_ok {task : TaskContract} {tree : WorkingTree} {args : ListFilesArgs}
    {result : ListFilesResult} (h : listFiles task tree args = .ok result) :
    result.files = (visibleFiles task (iterFiles tree (canonicalPath args.directory))).take
        maxListEntries ∧
      result.truncated = decide (maxListEntries ≤
        (visibleFiles task (iterFiles tree (canonicalPath args.directory))).length) := by
  rw [listFiles] at h
  obtain ⟨-, -, h⟩ := Raising.bind_eq_ok.1 h
  dsimp only at h
  split_ifs at h with hroot
  · rw [← Except.ok.inj h, canonicalPath_of_root hroot, listBelow_eq]
    exact ⟨rfl, rfl⟩
  · obtain ⟨-, -, h⟩ := Raising.bind_eq_ok.1 h
    obtain ⟨base, hbase, h⟩ := Raising.bind_eq_ok.1 h
    rw [raised_eq_ok, resolvePath_eq_ok, strip_strip] at hbase
    rw [hbase.1.eq_canonicalPath]
    split_ifs at h with hmissing
    · rw [← Except.ok.inj h, iterFiles_eq, filesBelow_of_lookup_eq_none hmissing]
      exact ⟨rfl, rfl⟩
    · obtain ⟨-, -, h⟩ := Raising.bind_eq_ok.1 h
      rw [← Except.ok.inj h, listBelow_eq]
      exact ⟨rfl, rfl⟩

theorem visibleFiles_append (task : TaskContract) (files later : List RepoPath) :
    visibleFiles task (files ++ later) = visibleFiles task files ++ visibleFiles task later := by
  rw [visibleFiles, List.map_append, List.filter_append]
  rfl

theorem matchingLines_append (task : TaskContract) (tree : WorkingTree) (query : String)
    (files later : List RepoPath) :
    matchingLines task tree query (files ++ later) =
      matchingLines task tree query files ++ matchingLines task tree query later :=
  List.flatMap_append

theorem listFiles_exact_iff {task : TaskContract} {tree : WorkingTree} {args : ListFilesArgs}
    {result : ListFilesResult} (h : listFiles task tree args = .ok result)
    {files : List RepoPath} (hfiles : filesBelow tree (canonicalPath args.directory) = files) :
    (result.truncated = false ↔ result.files = visibleFiles task files) ↔
      Scans.Decided maxListEntries (visibleFiles task (files.take maxScanFiles))
        (visibleFiles task (files.drop maxScanFiles)) := by
  have hall : visibleFiles task files = visibleFiles task (files.take maxScanFiles) ++
      visibleFiles task (files.drop maxScanFiles) := by
    rw [← visibleFiles_append, List.take_append_drop]
  obtain ⟨hshown, hflag⟩ := listFiles_eq_ok h
  rw [hshown, hflag, iterFiles_eq, hfiles, hall]
  exact Scans.flag_exact_iff _ _ _

theorem searchCode_exact_iff {task : TaskContract} {tree : WorkingTree} {args : SearchCodeArgs}
    {result : SearchCodeResult} (h : searchCode task tree args = .ok result)
    {files : List RepoPath} (hfiles : filesBelow tree (canonicalPath args.directory) = files) :
    (result.truncated = false ↔
        result.found = matchingLines task tree (strip args.query) files) ↔
      Scans.Decided args.maxResults
        (matchingLines task tree (strip args.query) (files.take maxScanFiles))
        (matchingLines task tree (strip args.query) (files.drop maxScanFiles)) := by
  have hall : matchingLines task tree (strip args.query) files =
      matchingLines task tree (strip args.query) (files.take maxScanFiles) ++
        matchingLines task tree (strip args.query) (files.drop maxScanFiles) := by
    rw [← matchingLines_append, List.take_append_drop]
  obtain ⟨-, -, -, -, base, hbase, rfl⟩ := searchCode_eq_ok.1 h
  rw [← resolveDirectory_eq hbase, iterFiles_eq, hfiles, hall]
  exact Scans.flag_exact_iff _ _ _

/-- **A query of `search_code_many` gets what `search_code` returns**, unless it is too
long for that or the limit is met exactly. -/
theorem searchCodeMany_agrees_iff {task : TaskContract} {tree : WorkingTree}
    {args : SearchCodeManyArgs} {results : List QueryResult}
    (h : searchCodeMany task tree args = .ok results) {result : QueryResult}
    (hresult : result ∈ results) :
    searchCode task tree ⟨result.query, args.directory, args.maxResultsPerQuery⟩ =
        .ok ⟨result.found, result.truncated⟩ ↔
      result.query.length ≤ 500 ∧
        (matchingLines task tree result.query ((filesBelow tree
          (canonicalPath args.directory)).take maxScanFiles)).length ≠ args.maxResultsPerQuery := by
  obtain ⟨⟨hdirectory, hpos, hmax⟩, hstrip, base, hbase, hresults⟩ := searchCodeMany_eq_ok h
  rw [hresults, List.map_map, List.mem_map] at hresult
  obtain ⟨value, hvalue, rfl⟩ := hresult
  have hne : strip value ≠ "" := hstrip value hvalue
  have hlength : 1 ≤ (strip value).length := by
    refine Nat.one_le_iff_ne_zero.2 fun hzero => hne ?_
    exact String.toList_inj.1 (List.length_eq_zero_iff.1 (String.length_toList ▸ hzero))
  have hlimit : args.maxResultsPerQuery ≤ maxSearchResults := hmax.trans (by decide)
  rw [searchCode_eq_ok, resolveDirectory_eq hbase, ← iterFiles_eq]
  simp only [Function.comp_apply, strip_strip]
  constructor
  · rintro ⟨hquery, -, -, -, base', hbase', hsame⟩
    obtain rfl : base = base' := Except.ok.inj (hbase.symm.trans hbase')
    refine ⟨hquery.2, fun hexact => ?_⟩
    have hflag := congrArg SearchCodeResult.truncated hsame
    rw [hexact, decide_eq_decide] at hflag
    omega
  · rintro ⟨hquery, hexact⟩
    refine ⟨⟨hlength, hquery⟩, hne, hdirectory, ⟨hpos, hlimit⟩, base, hbase, ?_⟩
    rw [SearchCodeResult.mk.injEq, decide_eq_decide]
    exact ⟨rfl, by omega⟩

/-- **When `truncated` tells whether a result is missing**, and when the results for a
query of `search_code_many` are those of `search_code`. -/
theorem truncated_exact_iff (task : TaskContract) (tree : WorkingTree) :
    (∀ args result files, listFiles task tree args = .ok result →
      filesBelow tree (canonicalPath args.directory) = files →
      ((result.truncated = false ↔ result.files = visibleFiles task files) ↔
        Scans.Decided maxListEntries (visibleFiles task (files.take maxScanFiles))
          (visibleFiles task (files.drop maxScanFiles)))) ∧
    (∀ args result files, searchCode task tree args = .ok result →
      filesBelow tree (canonicalPath args.directory) = files →
      ((result.truncated = false ↔
          result.found = matchingLines task tree (strip args.query) files) ↔
        Scans.Decided args.maxResults
          (matchingLines task tree (strip args.query) (files.take maxScanFiles))
          (matchingLines task tree (strip args.query) (files.drop maxScanFiles)))) ∧
    ∀ args results files, searchCodeMany task tree args = .ok results →
      filesBelow tree (canonicalPath args.directory) = files →
      results.map QueryResult.query = args.queries.map strip ∧ ∀ result ∈ results,
        (searchCode task tree ⟨result.query, args.directory, args.maxResultsPerQuery⟩ =
            .ok ⟨result.found, result.truncated⟩ ↔
          result.query.length ≤ 500 ∧
            (matchingLines task tree result.query (files.take maxScanFiles)).length ≠
              args.maxResultsPerQuery) := by
  refine ⟨fun args result files h hfiles => listFiles_exact_iff h hfiles,
    fun args result files h hfiles => searchCode_exact_iff h hfiles,
    fun args results files h hfiles => ⟨?_, fun result hresult => ?_⟩⟩
  · obtain ⟨-, -, base, -, hresults⟩ := searchCodeMany_eq_ok h
    rw [hresults, List.map_map]
    exact List.map_id _
  · rw [← hfiles]
    exact searchCodeMany_agrees_iff h hresult

/-! ### A file with one matching line -/

theorem filesBelow_ofFile {name : String} (bytes : List UInt8) (h : isInternal name = false) :
    filesBelow (.ofFile name bytes) [] = [[name]] := by
  have hkeys : (WorkingTree.ofFile name bytes).entries.keys = [[name]] := rfl
  have hpath : asPosix [name] = name := String.intercalate_singleton
  rw [filesBelow, rglob, hkeys, List.filter_cons_of_pos (by simp), List.filter_nil,
    List.insertionSort_cons, List.insertionSort_nil, List.orderedInsert_nil,
    List.filter_cons_of_pos (by simp [WorkingTree.bytesAt_ofFile, hpath, h]), List.filter_nil]

def lineText : List Char :=
  "ab\n".toList

def lineTree : WorkingTree :=
  .ofFile "a.txt" (Utf8.encode lineText)

def lineTask : TaskContract :=
  ⟨"T001", "Read the letters.", ["a.txt"], ["b.txt"], []⟩

theorem matchingLines_line :
    matchingLines lineTask lineTree "a" [["a.txt"]] = [⟨"a.txt", 1, "ab"⟩] := by
  have hpath : asPosix ["a.txt"] = "a.txt" := String.intercalate_singleton
  have hread : ¬canRead lineTask "a.txt" = false := by decide
  have hsize : ¬maxFileBytes < (Utf8.encode lineText).length := by decide
  have hlines : numberedLines (Lines.universalNewlines lineText) = [(['a', 'b'], 1)] := by decide
  have hmatch : lineMatch "a" "a.txt" (['a', 'b'], 1) = some ⟨"a.txt", 1, "ab"⟩ := by decide
  rw [matchingLines, List.flatMap_singleton, fileMatches, searchedLines, hpath, if_neg hread,
    lineTree, WorkingTree.bytesAt_ofFile]
  simp only [if_neg hsize, Utf8.decode_encode, hlines]
  rw [List.filterMap_cons_some hmatch, List.filterMap_nil]

theorem canonicalPath_root : canonicalPath "" = [] :=
  canonicalPath_of_root (Or.inl (by decide))

theorem filesBelow_line : filesBelow lineTree [] = [["a.txt"]] :=
  filesBelow_ofFile _ (by decide)

theorem searchCode_line {maxResults : ℕ} (hmax : 1 ≤ maxResults ∧ maxResults ≤ maxSearchResults) :
    searchCode lineTask lineTree ⟨"a", "", maxResults⟩ =
      .ok ⟨[⟨"a.txt", 1, "ab"⟩], decide (maxResults ≤ 1)⟩ := by
  have hlength : 1 ≤ "a".length ∧ "a".length ≤ 500 := by decide
  have hquery : strip "a" = "a" := by decide
  have hne : "a" ≠ "" := by decide
  have hdirectory : "".length ≤ 500 := by decide
  have hbase : resolveDirectory lineTree "" = .ok [] := by
    rw [resolveDirectory, if_pos (Or.inl (by decide))]
    rfl
  have hfiles : iterFiles lineTree [] = [["a.txt"]] := by
    rw [iterFiles_eq, filesBelow_line]
    rfl
  refine searchCode_eq_ok.2 ⟨hlength, hquery.symm ▸ hne, hdirectory, hmax, [], hbase, ?_⟩
  rw [hquery, hfiles, matchingLines_line, List.take_of_length_le hmax.1]
  rfl

/-- With room for two results, the flag tells that the only one is there. -/
theorem truncated_exact_iff_line :
    decide (2 ≤ 1) = false ↔
      [⟨"a.txt", 1, "ab"⟩] = matchingLines lineTask lineTree (strip "a") [["a.txt"]] := by
  have hquery : strip "a" = "a" := by decide
  have hfiles : filesBelow lineTree (canonicalPath "") = [["a.txt"]] := by
    rw [canonicalPath_root, filesBelow_line]
  refine ((truncated_exact_iff lineTask lineTree).2.1 ⟨"a", "", 2⟩ _ [["a.txt"]]
    (searchCode_line (by decide)) hfiles).2 ?_
  have hscanned : [["a.txt"]].take maxScanFiles = [["a.txt"]] := rfl
  have hlater : [["a.txt"]].drop maxScanFiles = [] := rfl
  rw [hquery, hscanned, hlater, matchingLines_line]
  exact ⟨by decide, Or.inl rfl⟩

/-- **The only result is flagged as truncated** when there is room for one. -/
theorem searchCode_flags_complete :
    ∃ result, searchCode lineTask lineTree ⟨"a", "", 1⟩ = .ok result ∧
      ¬(result.truncated = false ↔
        result.found = matchingLines lineTask lineTree (strip "a")
          (filesBelow lineTree (canonicalPath ""))) := by
  have hquery : strip "a" = "a" := by decide
  refine ⟨_, searchCode_line (by decide), fun h => ?_⟩
  rw [hquery, canonicalPath_root, filesBelow_line, matchingLines_line] at h
  exact Bool.false_ne_true (h.2 rfl).symm

end DevFlow
