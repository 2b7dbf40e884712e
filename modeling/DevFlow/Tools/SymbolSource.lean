/-
# The source of a symbol

`ast.parse` numbers the lines of a source by its newlines, and `read_symbol` and
the region extraction of the context builder take the lines of a symbol out of
`str.splitlines`, which splits at eight more characters.  The lines they show are
those of the definition exactly when no line up to its end has such a character
inside; and the preamble ends before the definition when the docstring and all
top-level imports do (`symbolSource_exact_iff`).
-/

import DevFlow.Tools.Ranges

namespace DevFlow

/-- The lines that the Python parser numbers. -/
def parserLines (source : List Char) : List (List Char) :=
  Lines.splitKeep Lines.isNewline source

/-- The line numbers of a parser are those of lines of the source. -/
def NumbersLines (parse : AstParse) : Prop :=
  ∀ source body, parse source = some body → ∀ symbol ∈ body.flatMap AstStatement.symbols,
    symbol.span.endLineno ≤ (parserLines source).length

/-- A body that is taken at an offset of the source is the parser's lines `start` to
`stop`. -/
structure IsSource (source : List Char) (start stop offset : ℕ) (body : List Char) : Prop where
  placed : body <+: source.drop offset
  starts : offset = Lines.offset (parserLines source) (start - 1)
  ends : offset + body.length = Lines.offset (parserLines source) stop

/-- The source of a symbol is shown: by `read_symbol` and by the region extraction, after
a preamble that ends before it; and the regions of the context builder do not meet. -/
structure SymbolShown (source : List Char) (preambleEnd : ℕ) (region : RelevantCodeRegion)
    (shownBody : List Char) : Prop where
  body : IsSource source region.startLine region.endLine
    (Lines.offset (Lines.splitlines source) (region.startLine - 1)) shownBody
  extracted : IsSource source region.startLine region.endLine
    (Lines.offset (Lines.splitlines source) (region.startLine - 1))
    (regionText (Lines.splitlines source) region)
  preamble : Lines.offset (Lines.splitlines source) preambleEnd ≤
    Lines.offset (Lines.splitlines source) (region.startLine - 1)
  regions : ∀ regions, (mergeAdjacentRegions regions).Pairwise fun r r' =>
    r.endLine + 1 < r'.startLine

/-- No line up to a line has a line break of `str.splitlines` inside. -/
def PlainLines (source : List Char) (line : ℕ) : Prop :=
  ∀ parserLine ∈ (parserLines source).take line, ∀ c ∈ parserLine.dropLast,
    Lines.isLineBreak c = false

/-- **The source is the parser's lines**, character by character. -/
theorem IsSource.eq_slice {source : List Char} {start stop offset : ℕ} {body : List Char}
    (hstart : 1 ≤ start) (hstop : start ≤ stop) (h : IsSource source start stop offset body) :
    body = (Lines.slice (parserLines source) (start - 1) stop).flatten := by
  have hends := h.ends
  have hcount : start - 1 + (stop - (start - 1)) = stop := by omega
  rw [Lines.slice_eq, Lines.flatten_take_drop, hcount, parserLines, Lines.flatten_splitKeep]
  rw [h.starts, parserLines] at hends
  have hplaced := List.prefix_iff_eq_take.1 h.placed
  rw [h.starts, parserLines] at hplaced
  have hlength : body.length = Lines.offset (Lines.splitKeep Lines.isNewline source) stop -
      Lines.offset (Lines.splitKeep Lines.isNewline source) (start - 1) := by omega
  rw [← hlength]
  exact hplaced

/-- A newline of the parser is a line break of `str.splitlines`. -/
theorem isLineBreak_of_isNewline (c : Char) (h : Lines.isNewline c = true) :
    Lines.isLineBreak c = true := by
  rcases of_decide_eq_true h with rfl | rfl
  · rfl
  · rfl

/-- **The line numbers of the parser are those of `str.splitlines`** up to a line when the
lines up to it are plain. -/
theorem offset_splitlines_eq_iff {source : List Char} (hfree : '\r' ∉ source) {line : ℕ}
    (hline : line ≤ (parserLines source).length) :
    Lines.offset (Lines.splitlines source) line = Lines.offset (parserLines source) line ↔
      PlainLines source line :=
  Lines.offset_splitKeep_eq_iff isLineBreak_of_isNewline hfree hline

theorem PlainLines.mono {source : List Char} {line line' : ℕ} (h : PlainLines source line')
    (hle : line ≤ line') : PlainLines source line :=
  fun parserLine hmem => h parserLine (List.take_subset_take_left _ hle hmem)

/-- The text of a region whose lines are in the file is the body of the symbol. -/
theorem regionText_eq {lines : List (List Char)} {region : RelevantCodeRegion}
    (hle : region.startLine ≤ region.endLine) (hend : region.endLine ≤ lines.length) :
    regionText lines region = symbolBody lines region := by
  rw [regionText, if_neg (by omega), Nat.min_eq_left hend, symbolBody]

/-- A slice of the lines stands at the offset of its first line. -/
theorem symbolBody_eq {source : List Char} {region : RelevantCodeRegion}
    (hstart : 1 ≤ region.startLine) (hle : region.startLine ≤ region.endLine) :
    symbolBody (Lines.splitlines source) region =
      (source.drop (Lines.offset (Lines.splitlines source) (region.startLine - 1))).take
        (Lines.offset (Lines.splitlines source) region.endLine -
          Lines.offset (Lines.splitlines source) (region.startLine - 1)) := by
  have hcount : region.startLine - 1 + (region.endLine - (region.startLine - 1)) =
      region.endLine := by omega
  rw [symbolBody, Lines.slice_eq, Lines.flatten_take_drop, hcount, Lines.splitlines,
    Lines.flatten_splitKeep]

theorem length_symbolBody {source : List Char} {region : RelevantCodeRegion}
    (hstart : 1 ≤ region.startLine) (hle : region.startLine ≤ region.endLine) :
    (symbolBody (Lines.splitlines source) region).length =
      Lines.offset (Lines.splitlines source) region.endLine -
        Lines.offset (Lines.splitlines source) (region.startLine - 1) := by
  have hbound : Lines.offset (Lines.splitlines source) region.endLine ≤
      (Lines.splitlines source).flatten.length := Lines.offset_le_length _
  rw [Lines.splitlines, Lines.flatten_splitKeep, ← Lines.splitlines] at hbound
  rw [symbolBody_eq hstart hle, List.length_take, List.length_drop]
  omega

/-- **The first characters of the body of a symbol are its source** when the lines up to
its end are plain and none of its characters is missing. -/
theorem isSource_take_iff {source : List Char} (hfree : '\r' ∉ source)
    {region : RelevantCodeRegion} (hstart : 1 ≤ region.startLine)
    (hle : region.startLine ≤ region.endLine)
    (hend : region.endLine ≤ (parserLines source).length) (hplain : PlainLines source region.endLine)
    (n : ℕ) :
    IsSource source region.startLine region.endLine
      (Lines.offset (Lines.splitlines source) (region.startLine - 1))
      ((symbolBody (Lines.splitlines source) region).take n) ↔
      (symbolBody (Lines.splitlines source) region).length ≤ n := by
  have hfirst := (offset_splitlines_eq_iff hfree (by omega)).2 (hplain.mono (by omega : region.startLine - 1 ≤ _))
  have hlast := (offset_splitlines_eq_iff hfree hend).2 hplain
  have hlength : (symbolBody (Lines.splitlines source) region).length =
      Lines.offset (Lines.splitlines source) region.endLine -
        Lines.offset (Lines.splitlines source) (region.startLine - 1) :=
    length_symbolBody hstart hle
  have hmono : Lines.offset (Lines.splitlines source) (region.startLine - 1) ≤
      Lines.offset (Lines.splitlines source) region.endLine := Lines.offset_mono (by omega)
  constructor
  · rintro ⟨-, -, hends⟩
    rw [List.length_take] at hends
    omega
  · intro hn
    rw [List.take_of_length_le hn]
    refine ⟨?_, hfirst, by omega⟩
    rw [symbolBody_eq hstart hle]
    exact List.take_prefix _ _

/-- **When the source of a symbol is shown**: the lines up to its end are plain, the
docstring and the imports of the module end before it starts, and the answer is not cut. -/
theorem symbolSource_exact_iff (parse : AstParse) (hnumbers : NumbersLines parse)
    (task : TaskContract) (tree : WorkingTree) (args : ReadSymbolArgs) (result : ReadSymbolResult)
    (path : RepoPath) (source : List Char) (module : List AstStatement) (preambleEnd : ℕ)
    (region : RelevantCodeRegion) (preamble : List Char)
    (hresult : readSymbol parse task tree args = .ok result)
    (hpath : resolveForRead task tree args.path = .ok (result.path, path))
    (hsource : readTextFile tree path = .ok source) (hmodule : parse source = some module)
    (hregion : resolveSymbol parse source (strip args.symbol) = some (preambleEnd, region))
    (hpreamble : preamble = symbolPreamble (Lines.splitlines source) preambleEnd
      (symbolBody (Lines.splitlines source) region)) :
    SymbolShown source preambleEnd region (result.content.toList.drop preamble.length) ↔
      PlainLines source region.endLine ∧
      (∀ item ∈ module.zipIdx, ∀ span, preambleSpan item = some span →
        span.endLineno < region.startLine) ∧
      preamble.length + (symbolBody (Lines.splitlines source) region).length ≤
        maxReadFileChars := by
  have hfree : '\r' ∉ source := by
    obtain ⟨_, -, -, rfl⟩ := readTextFile_eq_ok.1 hsource
    exact Lines.not_mem_universalNewlines _
  obtain ⟨module', found, hmodule', hpreambleEnd, hfound, hstartLine, hendLine⟩ :=
    exists_of_resolveSymbol hregion
  obtain rfl := Option.some.inj (hmodule.symm.trans hmodule')
  have hstart : 1 ≤ region.startLine := hstartLine ▸ found.span.positive
  have hle : region.startLine ≤ region.endLine := by
    rw [hstartLine, hendLine]
    exact found.span.ordered
  have hend : region.endLine ≤ (parserLines source).length :=
    hendLine ▸ hnumbers source module hmodule found hfound
  have hlines : region.endLine ≤ (Lines.splitlines source).length :=
    hend.trans (Lines.length_splitKeep_le isLineBreak_of_isNewline hfree)
  have hshown : result.content.toList.drop preamble.length =
      (symbolBody (Lines.splitlines source) region).take (maxReadFileChars - preamble.length) := by
    rw [symbolResult_of_readSymbol hresult hpath hsource hregion]
    simp only [symbolResult, String.toList_ofList, ← hpreamble, List.drop_take, List.drop_left]
  -- the body has characters, so a cut takes some of them away
  have hbody : 0 < (symbolBody (Lines.splitlines source) region).length := by
    rw [length_symbolBody hstart hle]
    exact Nat.sub_pos_of_lt (Lines.offset_lt (fun _ => Lines.ne_nil_of_mem_splitKeep)
      (by omega) (by omega))
  have hpreambleLt : Lines.offset (Lines.splitlines source) preambleEnd ≤
      Lines.offset (Lines.splitlines source) (region.startLine - 1) ↔
      preambleEnd < region.startLine := by
    constructor
    · intro hoff
      by_contra hge
      have hlt := Lines.offset_lt (n := preambleEnd) (fun _ => Lines.ne_nil_of_mem_splitKeep)
        (by omega : region.startLine - 1 < preambleEnd)
        (by omega : region.startLine - 1 < (Lines.splitlines source).length)
      exact absurd hoff (Nat.not_le.2 hlt)
    · intro hlt
      exact Lines.offset_mono (by omega)
  rw [← preambleEnd_lt_iff hstart, ← hpreambleEnd, ← hpreambleLt, hshown]
  have hextracted := regionText_eq hle hlines
  have hall : (symbolBody (Lines.splitlines source) region).take
      (symbolBody (Lines.splitlines source) region).length =
      symbolBody (Lines.splitlines source) region := List.take_length
  constructor
  · rintro ⟨hsource, hregionText, hpre, -⟩
    have hplain : PlainLines source region.endLine := by
      rw [← offset_splitlines_eq_iff hfree hend, ← hregionText.ends, hextracted,
        length_symbolBody hstart hle]
      have hmono : Lines.offset (Lines.splitlines source) (region.startLine - 1) ≤
          Lines.offset (Lines.splitlines source) region.endLine := Lines.offset_mono (by omega)
      omega
    have hcut := (isSource_take_iff hfree hstart hle hend hplain _).1 hsource
    exact ⟨hplain, hpre, by omega⟩
  · rintro ⟨hplain, hpre, hcut⟩
    refine ⟨(isSource_take_iff hfree hstart hle hend hplain _).2 (by omega), ?_, hpre,
      pairwise_mergeAdjacentRegions⟩
    rw [hextracted, ← hall]
    exact (isSource_take_iff hfree hstart hle hend hplain _).2 (Nat.le_refl _)

/-! ### A source with a form feed -/

/-- A function on line 1, a form feed in a string on line 2, and a function on line 3. -/
def fedSource : List Char :=
  "def e(): pass\n'\x0c'\ndef f(): pass\n".toList

def fedModule : List AstStatement :=
  [.functionDef "e" ⟨1, 1, by decide, by decide⟩, .constantString ⟨2, 2, by decide, by decide⟩,
    .functionDef "f" ⟨3, 3, by decide, by decide⟩]

/-- A parser of this source. -/
def fedParse : AstParse :=
  fun source => if source = fedSource then some fedModule else none

def fedTree : WorkingTree :=
  .ofFile "a.py" (Utf8.encode fedSource)

def fedTask : TaskContract :=
  ⟨"T001", "Read the functions.", ["a.py"], ["b.py"], []⟩

theorem numbersLines_fed : NumbersLines fedParse := by
  intro source body hparse symbol hsymbol
  rw [fedParse] at hparse
  split_ifs at hparse with hsource
  obtain rfl := Option.some.inj hparse
  have hlength : (parserLines source).length = 3 := by
    rw [hsource]
    decide
  have hall : ∀ symbol ∈ fedModule.flatMap AstStatement.symbols, symbol.span.endLineno ≤ 3 := by
    decide
  exact hlength ▸ hall symbol hsymbol

theorem readTextFile_fed : readTextFile fedTree ["a.py"] = .ok fedSource :=
  readTextFile_eq_ok.2 ⟨fedSource, WorkingTree.bytesAt_ofFile _ _, by decide, by decide⟩

theorem resolveForRead_fed : resolveForRead fedTask fedTree "a.py" = .ok ("a.py", ["a.py"]) := by
  refine resolveForRead_eq_ok.2 ⟨by decide, ⟨by decide, by decide, by decide, by decide, by decide,
    by decide, by decide, by decide, by decide⟩,
    fun current _ => WorkingTree.ofFile_not_symlink _ _ current, by decide, ?_⟩
  rw [fedTree, WorkingTree.bytesAt_ofFile]
  exact Option.some_ne_none _

/-- The region of a function on one line. -/
def fedRegion (symbol : String) (line : ℕ) : RelevantCodeRegion :=
  ⟨line, line, .symbol, some symbol, 0, ["explicit_tool_symbol_request"]⟩

theorem readSymbol_fed {symbol : String} {line : ℕ}
    (hsymbol : (1 ≤ symbol.length ∧ symbol.length ≤ 300) ∧ strip symbol ≠ "")
    (hregion : resolveSymbol fedParse fedSource (strip symbol) = some (0, fedRegion symbol line)) :
    readSymbol fedParse fedTask fedTree ⟨"a.py", symbol⟩ =
      .ok (symbolResult "a.py" (Lines.splitlines fedSource) 0 (fedRegion symbol line)) := by
  have hpath : 1 ≤ "a.py".length ∧ "a.py".length ≤ 500 := by decide
  exact readSymbol_eq_ok.2 ⟨hpath, hsymbol.1, hsymbol.2, _, _, _, _, _, resolveForRead_fed,
    by decide, readTextFile_fed, hregion, rfl⟩

/-- The function above the form feed is shown. -/
theorem symbolSource_exact_iff_fed :
    SymbolShown fedSource 0 (fedRegion "e" 1) "def e(): pass\n".toList := by
  have hregion : resolveSymbol fedParse fedSource (strip "e") = some (0, fedRegion "e" 1) := by
    decide
  refine (symbolSource_exact_iff fedParse numbersLines_fed fedTask fedTree ⟨"a.py", "e"⟩ _ ["a.py"]
    fedSource fedModule 0 (fedRegion "e" 1) [] (readSymbol_fed (by decide) hregion)
    resolveForRead_fed readTextFile_fed (if_pos rfl) hregion (by decide)).2 ⟨?_, by decide, by decide⟩
  have hlines : (parserLines fedSource).take 1 = ["def e(): pass\n".toList] := rfl
  have hplain : ("def e(): pass\n".toList.dropLast.all fun c => !Lines.isLineBreak c) = true := rfl
  intro parserLine hmem
  rw [show (fedRegion "e" 1).endLine = 1 from rfl, hlines, List.mem_singleton] at hmem
  rw [hmem]
  exact fun c hc => Bool.not_eq_eq_eq_not.1 (List.all_eq_true.1 hplain c hc)

/-- **A form feed is missed**: the function below it is asked for, and the end of the
string is shown. -/
theorem readSymbol_misses_formFeed :
    NumbersLines fedParse ∧
      resolveSymbol fedParse fedSource (strip "f") = some (0, fedRegion "f" 3) ∧
      ∃ result, readSymbol fedParse fedTask fedTree ⟨"a.py", "f"⟩ = .ok result ∧
        result.content.toList = "'\n".toList ∧
        result.content.toList ≠ (Lines.slice (parserLines fedSource) 2 3).flatten := by
  have hregion : resolveSymbol fedParse fedSource (strip "f") = some (0, fedRegion "f" 3) := by
    decide
  exact ⟨numbersLines_fed, hregion, _, readSymbol_fed (by decide) hregion, by decide, by decide⟩

end DevFlow
