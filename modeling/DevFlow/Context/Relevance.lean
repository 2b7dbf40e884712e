/-
# Python symbols and their regions

Of `context/relevance.py` the index of one Python source, the symbol that a name
resolves to and the merging of regions, and of `context/builder.py` the text of a
region.  What `ast.parse` returns is a parameter: the statements of the module
with their line numbers.

The regions that the builder shows do not meet (`pairwise_mergeAdjacentRegions`),
so it shows no line twice, wherever the imports stand.
-/

import DevFlow.Library.Lines
import DevFlow.Models.Texts
import Mathlib.Data.List.Sort

namespace DevFlow

/-! ### What the parser returns -/

/-- The lines of a syntax node. -/
structure AstSpan where
  lineno : ℕ
  endLineno : ℕ
  positive : 1 ≤ lineno
  ordered : lineno ≤ endLineno

instance : DecidableEq AstSpan := fun span other =>
  decidable_of_iff (span.lineno = other.lineno ∧ span.endLineno = other.endLineno) (by
    cases span
    cases other
    simp)

/-- A statement in the body of a class. -/
inductive ClassItem
  | functionDef (name : String) (span : AstSpan)
  | other
deriving DecidableEq

/-- A statement of a module. -/
inductive AstStatement
  /-- An expression that is a string. -/
  | constantString (span : AstSpan)
  | importFrom (span : AstSpan)
  | functionDef (name : String) (span : AstSpan)
  | classDef (name : String) (span : AstSpan) (body : List ClassItem)
  | other
deriving DecidableEq

/-- `ast.parse`; `none` where it raises. -/
abbrev AstParse := List Char → Option (List AstStatement)

/-! ### The index of a source -/

/-- A class, a function or a method. -/
structure Symbol where
  name : String
  qualname : String
  span : AstSpan
  topLevel : Bool
deriving DecidableEq

structure PythonIndex where
  preambleEndLine : ℕ
  symbols : List Symbol

/-- The lines of a statement of the preamble: the docstring or an import. -/
def preambleSpan : AstStatement × ℕ → Option AstSpan
  | (.constantString span, 0) => some span
  | (.importFrom span, _) => some span
  | _ => none

/-- One turn of the loop over the statements. -/
def preambleStep (preambleEnd : ℕ) (item : AstStatement × ℕ) : ℕ :=
  match preambleSpan item with
  | some span => max preambleEnd span.endLineno
  | none => preambleEnd

/-- The end of the preamble: the loop over the statements of the module. -/
def preambleEnd (body : List AstStatement) : ℕ :=
  body.zipIdx.foldl preambleStep 0

/-- The symbols of a statement. -/
def AstStatement.symbols : AstStatement → List Symbol
  | .functionDef name span => [⟨name, name, span, true⟩]
  | .classDef name span body =>
    ⟨name, name, span, true⟩ :: body.filterMap fun child =>
      match child with
      | .functionDef childName childSpan =>
        some ⟨childName, name ++ "." ++ childName, childSpan, false⟩
      | .other => none
  | _ => []

/-- `_index_python`. -/
def indexPython (parse : AstParse) (source : List Char) : Option PythonIndex :=
  (parse source).map fun body => ⟨preambleEnd body, body.flatMap AstStatement.symbols⟩

inductive RelevantRegionKind
  | modulePreamble
  | symbol
deriving DecidableEq, Repr

structure RelevantCodeRegion where
  startLine : ℕ
  endLine : ℕ
  kind : RelevantRegionKind
  symbol : Option String
  score : ℕ
  evidence : List String
deriving DecidableEq, Repr

/-- `resolve_symbol`. -/
def resolveSymbol (parse : AstParse) (source : List Char) (symbol : String) :
    Option (ℕ × RelevantCodeRegion) :=
  match indexPython parse source with
  | none => none
  | some index =>
    let requested := strip symbol
    let exact := index.symbols.filter fun item => item.qualname = requested
    let named := if exact = [] then index.symbols.filter fun item => item.name = requested
      else exact
    match named with
    | [found] => some (index.preambleEndLine,
        ⟨found.span.lineno, found.span.endLineno, .symbol, some found.qualname, 0,
          ["explicit_tool_symbol_request"]⟩)
    | _ => none

/-- **What a name resolves to**: the lines of a symbol of the module, with the end of its
preamble. -/
theorem exists_of_resolveSymbol {parse : AstParse} {source : List Char} {symbol : String}
    {preambleEndLine : ℕ} {region : RelevantCodeRegion}
    (h : resolveSymbol parse source symbol = some (preambleEndLine, region)) :
    ∃ body found, parse source = some body ∧ preambleEndLine = preambleEnd body ∧
      found ∈ body.flatMap AstStatement.symbols ∧ region.startLine = found.span.lineno ∧
      region.endLine = found.span.endLineno := by
  rw [resolveSymbol, indexPython] at h
  cases hparse : parse source with
  | none =>
    rw [hparse] at h
    cases h
  | some body =>
    simp only [hparse, Option.map_some] at h
    split at h
    · rename_i found hfound
      obtain ⟨rfl, rfl⟩ := Prod.mk.inj (Option.some.inj h)
      refine ⟨body, found, rfl, rfl, ?_, rfl, rfl⟩
      have hmem : found ∈ [found] := List.mem_singleton_self _
      rw [← hfound] at hmem
      split_ifs at hmem
      · exact (List.mem_filter.1 hmem).1
      · exact (List.mem_filter.1 hmem).1
    · cases h

theorem preambleStep_lt_iff {start line : ℕ} {item : AstStatement × ℕ} :
    preambleStep start item < line ↔
      start < line ∧ ∀ span, preambleSpan item = some span → span.endLineno < line := by
  rw [preambleStep]
  cases preambleSpan item with
  | none => simp
  | some span => simp

/-- **The preamble ends before a line** when the docstring and all imports do. -/
theorem preambleEnd_lt_iff {body : List AstStatement} {line : ℕ} (hline : 0 < line) :
    preambleEnd body < line ↔
      ∀ item ∈ body.zipIdx, ∀ span, preambleSpan item = some span → span.endLineno < line := by
  have hfold : ∀ (items : List (AstStatement × ℕ)) (start : ℕ),
      items.foldl preambleStep start < line ↔ start < line ∧
        ∀ item ∈ items, ∀ span, preambleSpan item = some span → span.endLineno < line := by
    intro items
    induction items with
    | nil => simp
    | cons item items ih =>
      intro start
      rw [List.foldl_cons, ih, preambleStep_lt_iff, List.forall_mem_cons, and_assoc]
  rw [preambleEnd, hfold]
  exact and_iff_right hline

/-! ### Regions -/

/-- The order of the regions: by their first line, then by their last. -/
def regionLe (region region' : RelevantCodeRegion) : Prop :=
  region.startLine < region'.startLine ∨
    region.startLine = region'.startLine ∧ region.endLine ≤ region'.endLine

instance : DecidableRel regionLe :=
  fun _ _ => inferInstanceAs (Decidable (_ ∨ _))

/-- `bool(region.symbol)`. -/
def RelevantCodeRegion.Named (region : RelevantCodeRegion) : Prop :=
  region.symbol.getD "" ≠ ""

instance (region : RelevantCodeRegion) : Decidable region.Named :=
  inferInstanceAs (Decidable (_ ≠ _))

/-- A region that takes in the next one. -/
def mergeRegion (previous region : RelevantCodeRegion) : RelevantCodeRegion where
  startLine := previous.startLine
  endLine := max previous.endLine region.endLine
  kind := if previous.Named ∨ region.Named then .symbol else .modulePreamble
  symbol := if previous.Named then previous.symbol else region.symbol
  score := max previous.score region.score
  evidence := (previous.evidence ++ region.evidence).dedup.insertionSort (· ≤ ·)

/-- The loop over the ordered regions; `previous` is the last one merged. -/
def mergeFrom (previous : RelevantCodeRegion) :
    List RelevantCodeRegion → List RelevantCodeRegion
  | [] => [previous]
  | region :: regions =>
    if previous.endLine + 1 < region.startLine then previous :: mergeFrom region regions
    else mergeFrom (mergeRegion previous region) regions

/-- `_merge_adjacent_regions`. -/
def mergeAdjacentRegions (regions : List RelevantCodeRegion) : List RelevantCodeRegion :=
  match regions.insertionSort regionLe with
  | [] => []
  | first :: rest => mergeFrom first rest

/-- `_region_text`. -/
def regionText (lines : List (List Char)) (region : RelevantCodeRegion) : List Char :=
  if lines.length < region.startLine then []
  else (Lines.slice lines (region.startLine - 1) (min region.endLine lines.length)).flatten

/-- What is merged starts no earlier than the first region. -/
theorem startLine_le_of_mem_mergeFrom {previous region : RelevantCodeRegion}
    {regions : List RelevantCodeRegion}
    (hsorted : (previous :: regions).Pairwise fun r r' => r.startLine ≤ r'.startLine)
    (h : region ∈ mergeFrom previous regions) : previous.startLine ≤ region.startLine := by
  induction regions generalizing previous with
  | nil => rw [List.mem_singleton.1 h]
  | cons next regions ih =>
    obtain ⟨hprevious, hrest⟩ := List.pairwise_cons.1 hsorted
    rw [mergeFrom] at h
    split_ifs at h
    · rcases List.mem_cons.1 h with rfl | h
      · exact Nat.le_refl _
      · exact (hprevious next List.mem_cons_self).trans (ih hrest h)
    · refine @ih (mergeRegion previous next) (List.pairwise_cons.2 ⟨?_, ?_⟩) h
      · exact fun other hother => hprevious other (List.mem_cons_of_mem _ hother)
      · exact (List.pairwise_cons.1 hrest).2

theorem pairwise_mergeFrom {previous : RelevantCodeRegion} {regions : List RelevantCodeRegion}
    (hsorted : (previous :: regions).Pairwise fun r r' => r.startLine ≤ r'.startLine) :
    (mergeFrom previous regions).Pairwise fun region region' =>
      region.endLine + 1 < region'.startLine := by
  induction regions generalizing previous with
  | nil => exact List.pairwise_singleton _ _
  | cons next regions ih =>
    obtain ⟨hprevious, hrest⟩ := List.pairwise_cons.1 hsorted
    rw [mergeFrom]
    split_ifs with hgap
    · refine List.pairwise_cons.2 ⟨fun region hregion => ?_, ih hrest⟩
      exact hgap.trans_le (startLine_le_of_mem_mergeFrom hrest hregion)
    · refine ih (List.pairwise_cons.2 ⟨?_, (List.pairwise_cons.1 hrest).2⟩)
      exact fun other hother => hprevious other (List.mem_cons_of_mem _ hother)

theorem pairwise_startLine_insertionSort (regions : List RelevantCodeRegion) :
    (regions.insertionSort regionLe).Pairwise fun r r' => r.startLine ≤ r'.startLine := by
  have hle : (regions.insertionSort regionLe).Pairwise regionLe := by
    have htotal : Std.Total regionLe := ⟨fun r r' => by unfold regionLe; omega⟩
    have htrans : IsTrans RelevantCodeRegion regionLe :=
      ⟨fun r r' r'' => by unfold regionLe; omega⟩
    exact List.pairwise_insertionSort regionLe regions
  refine hle.imp fun h => ?_
  unfold regionLe at h
  omega

/-- **The merged regions do not meet.** -/
theorem pairwise_mergeAdjacentRegions (regions : List RelevantCodeRegion) :
    (mergeAdjacentRegions regions).Pairwise fun region region' =>
      region.endLine + 1 < region'.startLine := by
  have hsorted := pairwise_startLine_insertionSort regions
  rw [mergeAdjacentRegions]
  cases hordered : regions.insertionSort regionLe with
  | nil => exact List.Pairwise.nil
  | cons first rest => exact pairwise_mergeFrom (hordered ▸ hsorted)

end DevFlow
