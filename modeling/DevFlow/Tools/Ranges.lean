/-
# Reading ranges of lines

`read_range` and `read_symbol` of `tools/repository.py`.  Both split a file with
`str.splitlines`, show at most 12000 characters and report the last line shown
from the line feeds among them.  A line that ends in another line break, or
whose end is cut off, shows no line feed; a cut right behind a line feed shows
one more than lines begun.  So the report is exact when one of the lines shown is
shown without its line feed, or none is and the lines shown are all those
requested (`rangeExact_iff`).
-/

import DevFlow.Context.Relevance
import DevFlow.Tools.Toolbox

namespace DevFlow

structure ReadRangeArgs where
  path : String
  startLine : ℕ
  endLine : ℕ
deriving DecidableEq, Repr

structure ReadRangeResult where
  path : String
  requestedStartLine : ℕ
  requestedEndLine : ℕ
  returnedStartLine : ℕ
  returnedEndLine : ℕ
  content : String
  truncated : Bool
deriving DecidableEq, Repr

/-- What `_read_range` returns of the lines of a file. -/
def rangeResult (args : ReadRangeArgs) (relative : String) (lines : List (List Char)) :
    ReadRangeResult :=
  let availableEndLine := min args.endLine lines.length
  let requested := (Lines.slice lines (args.startLine - 1) availableEndLine).flatten
  let content := requested.take maxReadFileChars
  { path := relative
    requestedStartLine := args.startLine
    requestedEndLine := args.endLine
    returnedStartLine := args.startLine
    returnedEndLine := min availableEndLine (args.startLine + content.count '\n')
    content := String.ofList content
    truncated := maxReadFileChars < requested.length ∨ availableEndLine < args.endLine }

/-- `_read_range`; `maxReadRangeLines` is the limit of the toolbox. -/
def readRange (task : TaskContract) (maxReadRangeLines : ℕ) (tree : WorkingTree)
    (args : ReadRangeArgs) : Except ToolFailure ReadRangeResult := do
  validatePath args.path
  Raising.raiseIf (args.startLine < 1 ∨ args.endLine < 1)
    ⟨.invalidArguments, "Input should be greater than or equal to 1"⟩
  Raising.raiseIf (args.endLine < args.startLine)
    ⟨.invalidArguments, "end_line must be greater than or equal to start_line"⟩
  let requestedLines := args.endLine - args.startLine + 1
  Raising.raiseIf (400 < requestedLines)
    ⟨.invalidArguments, "read_range is limited to 400 lines"⟩
  Raising.raiseIf (maxReadRangeLines < requestedLines)
    ⟨.invalidArguments, "read_range is limited to " ++ toString maxReadRangeLines ++
      " lines for this agent"⟩
  let (relative, path) ← resolveForRead task tree args.path
  let text ← readTextFile tree path
  let lines := Lines.splitlines text
  Raising.raiseIf (lines.length < args.startLine)
    ⟨.notFound, "start_line is outside the file: " ++ toString args.startLine⟩
  return rangeResult args relative lines

structure ReadSymbolArgs where
  path : String
  symbol : String
deriving DecidableEq, Repr

structure ReadSymbolResult where
  path : String
  symbol : Option String
  requestedStartLine : ℕ
  requestedEndLine : ℕ
  returnedStartLine : ℕ
  returnedEndLine : ℕ
  content : String
  truncated : Bool
deriving DecidableEq, Repr

/-- The preamble that is shown before a symbol, with the line feed between them. -/
def symbolPreamble (lines : List (List Char)) (preambleEnd : ℕ) (body : List Char) : List Char :=
  let preamble := if preambleEnd = 0 then [] else (lines.take preambleEnd).flatten
  preamble ++ if preamble ≠ [] ∧ body ≠ [] then ['\n'] else []

/-- The body of a symbol. -/
def symbolBody (lines : List (List Char)) (region : RelevantCodeRegion) : List Char :=
  (Lines.slice lines (region.startLine - 1) region.endLine).flatten

/-- What `_read_symbol` returns of a symbol that was found. -/
def symbolResult (relative : String) (lines : List (List Char)) (preambleEnd : ℕ)
    (region : RelevantCodeRegion) : ReadSymbolResult :=
  let body := symbolBody lines region
  let preamble := symbolPreamble lines preambleEnd body
  let content := preamble ++ body
  let visibleContent := content.take maxReadFileChars
  let visibleBody := visibleContent.drop preamble.length
  { path := relative
    symbol := region.symbol
    requestedStartLine := region.startLine
    requestedEndLine := region.endLine
    returnedStartLine := region.startLine
    returnedEndLine := min region.endLine (region.startLine + visibleBody.count '\n')
    content := String.ofList visibleContent
    truncated := maxReadFileChars < content.length }

/-- `_read_symbol`. -/
def readSymbol (parse : AstParse) (task : TaskContract) (tree : WorkingTree)
    (args : ReadSymbolArgs) : Except ToolFailure ReadSymbolResult := do
  validatePath args.path
  Raising.raiseIf (args.symbol.length < 1 ∨ 300 < args.symbol.length)
    ⟨.invalidArguments, "symbol length is out of range"⟩
  let symbol := strip args.symbol
  Raising.raiseIf (symbol = "") ⟨.invalidArguments, "symbol must not be empty"⟩
  let (relative, path) ← resolveForRead task tree args.path
  Raising.raiseIf (¬".py".toList <:+ relative.toList)
    ⟨.invalidArguments,
      "read_symbol currently supports Python files only; use read_range instead"⟩
  let source ← readTextFile tree path
  match resolveSymbol parse source symbol with
  | none => throw ⟨.notFound, "Python symbol was not found or is ambiguous: " ++ symbol⟩
  | some (preambleEnd, region) =>
    return symbolResult relative (Lines.splitlines source) preambleEnd region

/-! ### What is reported -/

/-- Line `k` has one of the `n` characters from the start of line `start` on. -/
def Shows (lines : List (List Char)) (start n k : ℕ) : Prop :=
  ∃ p, Lines.offset lines (start - 1) ≤ p ∧ p < Lines.offset lines (start - 1) + n ∧
    Lines.offset lines (k - 1) ≤ p ∧ p < Lines.offset lines k

/-- The range that is reported is what is shown: the body stands in the file from line
`start` on, all lines of the range have a character in it and no later line has, and when
nothing was cut it is those lines. -/
structure RangeExact (lines : List (List Char)) (start returnedEnd : ℕ) (body : List Char)
    (truncated : Bool) : Prop where
  placed : body <+: (lines.drop (start - 1)).flatten
  shown : ∀ k, start ≤ k → k ≤ returnedEnd → Shows lines start body.length k
  hidden : ∀ k, returnedEnd < k → ¬Shows lines start body.length k
  whole : truncated = false → body = (Lines.slice lines (start - 1) returnedEnd).flatten

/-- One of the lines touched by the first `n` characters is shown without a line feed, or
none is and they are all the `requested` ones. -/
def CountsLines (lines : List (List Char)) (n requested : ℕ) : Prop :=
  0 < Lines.touched lines n ∧ (Lines.unended lines n = 1 ∨
    (Lines.unended lines n = 0 ∧ Lines.touched lines n = requested))

/-- **The lines that are shown** are those touched, from the first on. -/
theorem shows_iff {lines : List (List Char)} (hlines : ∀ line ∈ lines, line ≠ []) {start n k : ℕ}
    (hstart : 1 ≤ start) :
    Shows lines start n k ↔
      start ≤ k ∧ k < start + Lines.touched (lines.drop (start - 1)) n := by
  -- the lines from `start` on stand behind the offset of `start`
  have hadd : ∀ j, Lines.offset lines (start - 1 + j) =
      Lines.offset lines (start - 1) + Lines.offset (lines.drop (start - 1)) j :=
    fun j => Lines.offset_add _ _
  constructor
  · rintro ⟨p, hfrom, hto, hlow, hhigh⟩
    have hk : start - 1 < k := by
      by_contra hle
      have hmono : Lines.offset lines k ≤ Lines.offset lines (start - 1) :=
        Lines.offset_mono (Nat.le_of_not_lt hle)
      omega
    obtain ⟨j, rfl⟩ : ∃ j, k = start + j := ⟨k - start, by omega⟩
    refine ⟨by omega, Nat.add_lt_add_left (Lines.lt_touched_iff.2 ⟨?_, ?_⟩) _⟩
    · by_contra hle
      have hend : ∀ i, lines.length ≤ i → Lines.offset lines i = lines.flatten.length :=
        fun i hi => Lines.offset_of_length_le hi
      rw [List.length_drop] at hle
      have hlast := hend (start + j - 1) (by omega)
      have hnext := hend (start + j) (by omega)
      omega
    · have hj := hadd j
      have hline : start + j - 1 = start - 1 + j := by omega
      rw [hline] at hlow
      omega
  · rintro ⟨hle, hlt⟩
    obtain ⟨j, rfl⟩ : ∃ j, k = start + j := ⟨k - start, by omega⟩
    obtain ⟨hj, hoff⟩ := Lines.lt_touched_iff.1 (Nat.lt_of_add_lt_add_left hlt)
    rw [List.length_drop] at hj
    have hline : start + j - 1 = start - 1 + j := by omega
    refine ⟨Lines.offset lines (start - 1 + j), ?_, ?_, by rw [hline], ?_⟩
    · exact Lines.offset_mono (by omega)
    · rw [hadd j]
      omega
    · exact Lines.offset_lt hlines (by omega) (by omega)

/-- **When the reported range is what is shown.** -/
theorem rangeExact_iff {lines : List (List Char)}
    (hlines : ∀ line ∈ lines, line ≠ [] ∧ line.count '\n' ≤ 1) {start stop n : ℕ}
    (hstart : 1 ≤ start) (hstop : start ≤ stop) (truncated : Bool)
    (hn : n ≤ Lines.offset (lines.drop (start - 1)) (stop + 1 - start))
    (hcut : truncated = false → n = Lines.offset (lines.drop (start - 1)) (stop + 1 - start)) :
    RangeExact lines start
      (min stop (start + ((lines.drop (start - 1)).flatten.take n).count '\n'))
      ((lines.drop (start - 1)).flatten.take n) truncated ↔
      CountsLines (lines.drop (start - 1)) n (stop + 1 - start) := by
  have hshows := fun k => shows_iff (n := n) (k := k) (fun line h => (hlines line h).1) hstart
  have hrest : ∀ line ∈ lines.drop (start - 1), line ≠ [] ∧ line.count '\n' ≤ 1 :=
    fun line h => hlines line (List.mem_of_mem_drop h)
  have hfeeds := Lines.count_add_unended (fun line h => (hrest line h).2) n
  generalize hls : lines.drop (start - 1) = ls at *
  have hlength : (ls.flatten.take n).length = n := by
    rw [List.length_take, Nat.min_eq_left (hn.trans (Lines.offset_le_length _))]
  have htouched : Lines.touched ls n ≤ stop + 1 - start := by
    by_contra hlt
    have hoff := (Lines.lt_touched_iff.1 (Nat.lt_of_not_le hlt)).2
    omega
  generalize hcount : (ls.flatten.take n).count '\n' = feeds at *
  constructor
  · rintro ⟨-, hshown, hhidden, -⟩
    rw [hlength] at hshown hhidden
    have hfirst := (hshows start).1 (hshown start (Nat.le_refl _) (by omega))
    have hlast := (hshows _).1 (hshown (min stop (start + feeds)) (by omega) (Nat.le_refl _))
    have hnext : ¬min stop (start + feeds) + 1 < start + Lines.touched ls n := fun hlt =>
      hhidden _ (Nat.lt_succ_self _) ((hshows _).2 ⟨by omega, hlt⟩)
    unfold CountsLines
    omega
  · intro hcounts
    unfold CountsLines at hcounts
    have hend : start + Lines.touched ls n = min stop (start + feeds) + 1 := by omega
    refine ⟨hls ▸ List.take_prefix _ _, fun k hk hle => ?_, fun k hlt hshown => ?_, fun huncut => ?_⟩
    · rw [hlength]
      exact (hshows k).2 ⟨hk, by omega⟩
    · rw [hlength] at hshown
      have hk := (hshows k).1 hshown
      omega
    · have hall := Lines.touched_take (fun line h => (hrest line h).1) (stop + 1 - start)
      rw [← hcut huncut] at hall
      rw [Lines.slice_eq, hls, hcut huncut, Lines.take_offset]
      have hmin : min stop (start + feeds) - (start - 1) = min (stop + 1 - start) ls.length := by
        omega
      rw [hmin, List.take_eq_take_min]

/-- The lines of a text read in text mode: none is empty, and each has one line feed at
most. -/
theorem splitlines_readTextFile {tree : WorkingTree} {path : RepoPath} {text : List Char}
    (h : readTextFile tree path = .ok text) :
    ∀ line ∈ Lines.splitlines text, line ≠ [] ∧ line.count '\n' ≤ 1 := by
  have hfree : '\r' ∉ text := by
    obtain ⟨bytes, -, -, rfl⟩ := readTextFile_eq_ok.1 h
    exact Lines.not_mem_universalNewlines _
  exact fun line hline => ⟨Lines.ne_nil_of_mem_splitKeep hline,
    Lines.count_le_one_of_mem_splitKeep hfree (by decide) hline⟩

/-- The first characters of the lines `start` to `stop`: as many as the file has in them,
and no more than `limit`. -/
def shownChars (lines : List (List Char)) (start stop limit : ℕ) : ℕ :=
  min limit (Lines.offset (lines.drop (start - 1)) (stop + 1 - start))

theorem take_slice {lines : List (List Char)} {start : ℕ} (hstart : 1 ≤ start) (stop limit : ℕ) :
    (Lines.slice lines (start - 1) stop).flatten.take limit =
      (lines.drop (start - 1)).flatten.take (shownChars lines start stop limit) := by
  have hcount : stop - (start - 1) = stop + 1 - start := by omega
  rw [Lines.slice_eq, ← Lines.take_offset, List.take_take, shownChars, hcount]

/-- **A range cut after `limit` characters** is reported as it is shown when the lines it
touches are counted. -/
theorem rangeExact_slice_iff {lines : List (List Char)}
    (hlines : ∀ line ∈ lines, line ≠ [] ∧ line.count '\n' ≤ 1) {start stop limit : ℕ}
    (hstart : 1 ≤ start) (hstop : start ≤ stop) (truncated : Bool)
    (hcut : truncated = false → (Lines.slice lines (start - 1) stop).flatten.length ≤ limit) :
    RangeExact lines start
      (min stop (start + ((Lines.slice lines (start - 1) stop).flatten.take limit).count '\n'))
      ((Lines.slice lines (start - 1) stop).flatten.take limit) truncated ↔
      CountsLines (lines.drop (start - 1)) (shownChars lines start stop limit)
        (stop + 1 - start) := by
  rw [take_slice hstart]
  refine rangeExact_iff hlines hstart hstop truncated (Nat.min_le_right _ _) fun huncut => ?_
  have hcount : stop - (start - 1) = stop + 1 - start := by omega
  have hlength := hcut huncut
  rw [Lines.slice_eq, hcount] at hlength
  exact Nat.min_eq_right hlength

/-- **What `read_range` returns.** -/
theorem readRange_eq_ok {task : TaskContract} {maxReadRangeLines : ℕ} {tree : WorkingTree}
    {args : ReadRangeArgs} {result : ReadRangeResult} :
    readRange task maxReadRangeLines tree args = .ok result ↔
      (1 ≤ args.path.length ∧ args.path.length ≤ 500) ∧ (1 ≤ args.startLine ∧ 1 ≤ args.endLine) ∧
      args.startLine ≤ args.endLine ∧ args.endLine - args.startLine + 1 ≤ 400 ∧
      args.endLine - args.startLine + 1 ≤ maxReadRangeLines ∧
      ∃ relative path text, resolveForRead task tree args.path = .ok (relative, path) ∧
        readTextFile tree path = .ok text ∧ args.startLine ≤ (Lines.splitlines text).length ∧
        rangeResult args relative (Lines.splitlines text) = result := by
  simp only [readRange, validatePath, Raising.bind_eq_ok, Raising.raiseIf_eq_ok,
    Raising.pure_eq_ok, Prod.exists, not_or, not_lt]
  constructor
  · rintro ⟨-, hpath, -, hpositive, -, hle, -, hmax, -, hlimit, relative, path, hresolve, text,
      htext, -, hinside, rfl⟩
    exact ⟨hpath, hpositive, hle, hmax, hlimit, relative, path, text, hresolve, htext, hinside, rfl⟩
  · rintro ⟨hpath, hpositive, hle, hmax, hlimit, relative, path, text, hresolve, htext, hinside, rfl⟩
    exact ⟨⟨⟩, hpath, ⟨⟩, hpositive, ⟨⟩, hle, ⟨⟩, hmax, ⟨⟩, hlimit, relative, path, hresolve, text,
      htext, ⟨⟩, hinside, rfl⟩

/-- **What `read_symbol` returns.** -/
theorem readSymbol_eq_ok {parse : AstParse} {task : TaskContract} {tree : WorkingTree}
    {args : ReadSymbolArgs} {result : ReadSymbolResult} :
    readSymbol parse task tree args = .ok result ↔
      (1 ≤ args.path.length ∧ args.path.length ≤ 500) ∧
      (1 ≤ args.symbol.length ∧ args.symbol.length ≤ 300) ∧ strip args.symbol ≠ "" ∧
      ∃ relative path text preambleEnd region,
        resolveForRead task tree args.path = .ok (relative, path) ∧
        ".py".toList <:+ relative.toList ∧ readTextFile tree path = .ok text ∧
        resolveSymbol parse text (strip args.symbol) = some (preambleEnd, region) ∧
        symbolResult relative (Lines.splitlines text) preambleEnd region = result := by
  simp only [readSymbol, validatePath, Raising.bind_eq_ok, Raising.raiseIf_eq_ok, Prod.exists,
    not_or, not_lt, not_not]
  constructor
  · rintro ⟨-, hpath, -, hsymbol, -, hne, relative, path, hresolve, -, hpython, text, htext, hmatch⟩
    refine ⟨hpath, hsymbol, hne, relative, path, text, ?_⟩
    cases hlocated : resolveSymbol parse text (strip args.symbol) with
    | none =>
      rw [hlocated] at hmatch
      cases hmatch
    | some located =>
      rw [hlocated] at hmatch
      exact ⟨located.1, located.2, hresolve, hpython, htext, rfl, Raising.pure_eq_ok.1 hmatch⟩
  · rintro ⟨hpath, hsymbol, hne, relative, path, text, preambleEnd, region, hresolve, hpython, htext,
      hlocated, rfl⟩
    refine ⟨⟨⟩, hpath, ⟨⟩, hsymbol, ⟨⟩, hne, relative, path, hresolve, ⟨⟩, hpython, text, htext, ?_⟩
    rw [hlocated]
    rfl

/-- The answer of `read_symbol`, of the file that is read and the symbol that is found. -/
theorem symbolResult_of_readSymbol {parse : AstParse} {task : TaskContract} {tree : WorkingTree}
    {args : ReadSymbolArgs} {result : ReadSymbolResult} {path : RepoPath} {text : List Char}
    {preambleEnd : ℕ} {region : RelevantCodeRegion}
    (h : readSymbol parse task tree args = .ok result)
    (hresolve : resolveForRead task tree args.path = .ok (result.path, path))
    (htext : readTextFile tree path = .ok text)
    (hsymbol : resolveSymbol parse text (strip args.symbol) = some (preambleEnd, region)) :
    result = symbolResult result.path (Lines.splitlines text) preambleEnd region := by
  obtain ⟨-, -, -, relative, path', text', preambleEnd', region', hresolve', -, htext', hsymbol',
    rfl⟩ := readSymbol_eq_ok.1 h
  rw [hresolve, Except.ok.injEq, Prod.mk.injEq] at hresolve'
  obtain ⟨-, rfl⟩ := hresolve'
  obtain rfl := Except.ok.inj (htext.symm.trans htext')
  rw [hsymbol, Option.some.injEq, Prod.mk.injEq] at hsymbol'
  obtain ⟨rfl, rfl⟩ := hsymbol'
  rfl

/-- **When the reported ranges are exact**, of every request that succeeds: the lines that
the shown characters touch are counted. -/
theorem ranges_exact_iff (task : TaskContract) (tree : WorkingTree) :
    (∀ maxReadRangeLines args result path text,
      readRange task maxReadRangeLines tree args = .ok result →
      resolveForRead task tree args.path = .ok (result.path, path) →
      readTextFile tree path = .ok text →
      (RangeExact (Lines.splitlines text) result.returnedStartLine result.returnedEndLine
        result.content.toList result.truncated ↔
        CountsLines ((Lines.splitlines text).drop (args.startLine - 1))
          (shownChars (Lines.splitlines text) args.startLine
            (min args.endLine (Lines.splitlines text).length) maxReadFileChars)
          (min args.endLine (Lines.splitlines text).length + 1 - args.startLine))) ∧
    ∀ parse args result path text preambleEnd region preamble,
      readSymbol parse task tree args = .ok result →
      resolveForRead task tree args.path = .ok (result.path, path) →
      readTextFile tree path = .ok text →
      resolveSymbol parse text (strip args.symbol) = some (preambleEnd, region) →
      preamble = symbolPreamble (Lines.splitlines text) preambleEnd
        (symbolBody (Lines.splitlines text) region) →
      (RangeExact (Lines.splitlines text) result.returnedStartLine result.returnedEndLine
        (result.content.toList.drop preamble.length) result.truncated ↔
        CountsLines ((Lines.splitlines text).drop (region.startLine - 1))
          (shownChars (Lines.splitlines text) region.startLine region.endLine
            (maxReadFileChars - preamble.length))
          (region.endLine + 1 - region.startLine)) := by
  constructor
  · intro maxReadRangeLines args result path text h hresolve htext
    obtain ⟨-, ⟨hstart, -⟩, hle, -, -, relative, path', text', hresolve', htext', hinside, rfl⟩ :=
      readRange_eq_ok.1 h
    rw [hresolve, Except.ok.injEq, Prod.mk.injEq] at hresolve'
    obtain ⟨-, rfl⟩ := hresolve'
    obtain rfl := Except.ok.inj (htext.symm.trans htext')
    simp only [rangeResult, String.toList_ofList]
    refine rangeExact_slice_iff (splitlines_readTextFile htext) hstart (by omega) _ fun huncut => ?_
    have hwhole := of_decide_eq_false huncut
    omega
  · intro parse args result path text preambleEnd region preamble h hresolve htext hsymbol hpreamble
    rw [symbolResult_of_readSymbol h hresolve htext hsymbol]
    obtain ⟨-, found, -, -, -, hstart, hend⟩ := exists_of_resolveSymbol hsymbol
    have hpositive := found.span.positive
    have hordered := found.span.ordered
    simp only [symbolResult, String.toList_ofList, ← hpreamble, List.drop_take, List.drop_left]
    refine rangeExact_slice_iff (splitlines_readTextFile htext) (by omega) (by omega) _ fun huncut => ?_
    have hwhole := of_decide_eq_false huncut
    rw [List.length_append] at hwhole
    exact Nat.le_sub_of_add_le (by rw [Nat.add_comm]; exact Nat.le_of_not_lt hwhole)

/-! ### A file with vertical tabs -/

/-- The text `a`, `b` and `c`, with vertical tabs between them. -/
def tabbedText : List Char :=
  ['a', '\x0b', 'b', '\x0b', 'c']

def tabbedTree : WorkingTree :=
  .ofFile "a.txt" (Utf8.encode tabbedText)

def tabbedTask : TaskContract :=
  ⟨"T001", "Read the letters.", ["a.txt"], ["b.txt"], []⟩

theorem readTextFile_tabbed : readTextFile tabbedTree ["a.txt"] = .ok tabbedText :=
  readTextFile_eq_ok.2 ⟨tabbedText, WorkingTree.bytesAt_ofFile _ _, by decide, by decide⟩

theorem resolveForRead_tabbed :
    resolveForRead tabbedTask tabbedTree "a.txt" = .ok ("a.txt", ["a.txt"]) := by
  refine resolveForRead_eq_ok.2 ⟨by decide, ⟨by decide, by decide, by decide, by decide, by decide,
    by decide, by decide, by decide, by decide⟩,
    fun current _ => WorkingTree.ofFile_not_symlink _ _ current, by decide, ?_⟩
  rw [tabbedTree, WorkingTree.bytesAt_ofFile]
  exact Option.some_ne_none _

theorem readRange_tabbed {startLine endLine : ℕ} (hstart : 1 ≤ startLine)
    (hle : startLine ≤ endLine) (hend : endLine ≤ 3) :
    readRange tabbedTask 400 tabbedTree ⟨"a.txt", startLine, endLine⟩ =
      .ok (rangeResult ⟨"a.txt", startLine, endLine⟩ "a.txt" (Lines.splitlines tabbedText)) := by
  have hpath : 1 ≤ "a.txt".length ∧ "a.txt".length ≤ 500 := by decide
  have hlines : (Lines.splitlines tabbedText).length = 3 := by decide
  have hcount : endLine - startLine + 1 ≤ 400 := by omega
  exact readRange_eq_ok.2 ⟨hpath, ⟨hstart, hstart.trans hle⟩, hle, hcount, hcount, _, _, _,
    resolveForRead_tabbed, readTextFile_tabbed, hlines ▸ hle.trans hend, rfl⟩

/-- The last line alone is reported as it is shown. -/
theorem ranges_exact_iff_tabbed :
    RangeExact (Lines.splitlines tabbedText) 3 3 ['c'] false := by
  have hiff := (ranges_exact_iff tabbedTask tabbedTree).1 400 ⟨"a.txt", 3, 3⟩ _ ["a.txt"] tabbedText
    (readRange_tabbed (by decide) (by decide) (by decide)) resolveForRead_tabbed readTextFile_tabbed
  exact hiff.2 (by unfold CountsLines; decide)

/-- **Other line breaks are missed**: of three lines that end in vertical tabs, the first
is reported and all three are shown. -/
theorem readRange_misses_lines :
    ∃ result, readRange tabbedTask 400 tabbedTree ⟨"a.txt", 1, 3⟩ = .ok result ∧
      ¬RangeExact (Lines.splitlines tabbedText) result.returnedStartLine result.returnedEndLine
        result.content.toList result.truncated := by
  refine ⟨_, readRange_tabbed (by decide) (by decide) (by decide), fun h => ?_⟩
  have hend : (rangeResult ⟨"a.txt", 1, 3⟩ "a.txt" (Lines.splitlines tabbedText)).returnedEndLine = 1 := by
    decide
  refine h.hidden 2 (by omega) ⟨2, ?_⟩
  decide

end DevFlow
