/-
# The lines that merged regions cover

`_merge_adjacent_regions` of `context/relevance.py` takes the regions in the order of
their first lines and lets the last one grow as long as the next one overlaps or
touches it.  It neither drops a line nor adds one
(`mergeAdjacentRegions_exact`): a region that is taken in starts inside the
last one or on the line after it, so that the two together are one interval
(`lines_mergeRegion`).
-/

import DevFlow.Context.Relevance
import Mathlib.Order.Interval.Set.Basic

namespace DevFlow

/-- The lines of a region. -/
def RelevantCodeRegion.lines (region : RelevantCodeRegion) : Set ℕ :=
  Set.Icc region.startLine region.endLine

/-- The lines that some region covers. -/
def coverage (regions : List RelevantCodeRegion) : Set ℕ :=
  {line | ∃ region ∈ regions, line ∈ region.lines}

theorem coverage_nil : coverage [] = ∅ := by
  simp [coverage]

theorem coverage_cons (region : RelevantCodeRegion) (regions : List RelevantCodeRegion) :
    coverage (region :: regions) = region.lines ∪ coverage regions := by
  ext line
  simp [coverage]

theorem coverage_perm {regions regions' : List RelevantCodeRegion} (h : regions.Perm regions') :
    coverage regions = coverage regions' := by
  ext line
  simp [coverage, h.mem_iff]

section Merging

variable {previous region : RelevantCodeRegion} {regions : List RelevantCodeRegion}

/-- **A region that overlaps or touches the next one grows by its lines only.** -/
theorem lines_mergeRegion (hstart : previous.startLine ≤ region.startLine)
    (hnear : region.startLine ≤ previous.endLine + 1) :
    (mergeRegion previous region).lines = previous.lines ∪ region.lines := by
  ext line
  simp only [RelevantCodeRegion.lines, mergeRegion, Set.mem_union, Set.mem_Icc, le_sup_iff]
  omega

theorem mergeRegion_ordered (hprevious : previous.startLine ≤ previous.endLine) :
    (mergeRegion previous region).startLine ≤ (mergeRegion previous region).endLine :=
  hprevious.trans (le_max_left _ _)

/-- The loop keeps the lines of what it has and of what is left. -/
theorem coverage_mergeFrom
    (hsorted : (previous :: regions).Pairwise fun r r' => r.startLine ≤ r'.startLine) :
    coverage (mergeFrom previous regions) = coverage (previous :: regions) := by
  induction regions generalizing previous with
  | nil => rfl
  | cons next regions ih =>
    obtain ⟨hprevious, hrest⟩ := List.pairwise_cons.1 hsorted
    rw [mergeFrom]
    split_ifs with hgap
    · rw [coverage_cons, ih hrest, ← coverage_cons]
    · have hmerged : (mergeRegion previous next :: regions).Pairwise
          fun r r' => r.startLine ≤ r'.startLine := by
        refine List.pairwise_cons.2 ⟨fun other hother => ?_, (List.pairwise_cons.1 hrest).2⟩
        exact hprevious other (List.mem_cons_of_mem _ hother)
      have hgrown : (mergeRegion previous next).lines = previous.lines ∪ next.lines :=
        lines_mergeRegion (hprevious next List.mem_cons_self) (not_lt.1 hgap)
      rw [ih hmerged, coverage_cons, hgrown, coverage_cons, coverage_cons,
        Set.union_assoc]

/-- Every region that is merged has a first and a last line. -/
theorem ordered_of_mem_mergeFrom
    (hordered : ∀ r ∈ previous :: regions, r.startLine ≤ r.endLine) :
    ∀ r ∈ mergeFrom previous regions, r.startLine ≤ r.endLine := by
  induction regions generalizing previous with
  | nil => exact hordered
  | cons next regions ih =>
    rw [List.forall_mem_cons] at hordered
    obtain ⟨hfirst, hrest⟩ := hordered
    rw [mergeFrom]
    split_ifs
    · exact List.forall_mem_cons.2 ⟨hfirst, ih hrest⟩
    · rw [List.forall_mem_cons] at hrest
      exact ih (List.forall_mem_cons.2 ⟨mergeRegion_ordered hfirst, hrest.2⟩)

end Merging

theorem ordered_of_mem_mergeAdjacentRegions {regions : List RelevantCodeRegion}
    (hordered : ∀ region ∈ regions, region.startLine ≤ region.endLine) :
    ∀ region ∈ mergeAdjacentRegions regions, region.startLine ≤ region.endLine := by
  have hsame := List.perm_insertionSort regionLe regions
  rw [mergeAdjacentRegions]
  cases hsort : regions.insertionSort regionLe with
  | nil => exact fun _ hregion => absurd hregion List.not_mem_nil
  | cons first rest =>
    refine ordered_of_mem_mergeFrom fun region hregion => hordered region ?_
    rw [hsort] at hsame
    exact hsame.mem_iff.1 hregion

theorem coverage_mergeAdjacentRegions (regions : List RelevantCodeRegion) :
    coverage (mergeAdjacentRegions regions) = coverage regions := by
  have hsame := List.perm_insertionSort regionLe regions
  have hsorted := pairwise_startLine_insertionSort regions
  rw [mergeAdjacentRegions]
  cases hsort : regions.insertionSort regionLe with
  | nil =>
    rw [hsort] at hsame
    exact coverage_perm hsame
  | cons first rest =>
    rw [hsort] at hsame hsorted
    rw [← coverage_perm hsame]
    exact coverage_mergeFrom hsorted

/-- **Merging keeps the covered lines.**  The regions that are left are in the order of their
first lines, and between two of them there is a line that no region covers. -/
theorem mergeAdjacentRegions_exact (regions : List RelevantCodeRegion)
    (hordered : ∀ region ∈ regions, region.startLine ≤ region.endLine) :
    (mergeAdjacentRegions regions).Pairwise
        (fun region region' => region.startLine ≤ region'.startLine) ∧
      (mergeAdjacentRegions regions).Pairwise
        (fun region region' => ∃ line, region.endLine < line ∧ line < region'.startLine ∧
          line ∉ coverage regions) ∧
      coverage (mergeAdjacentRegions regions) = coverage regions := by
  have hmerged := ordered_of_mem_mergeAdjacentRegions hordered
  have hcovered := coverage_mergeAdjacentRegions regions
  have hapart := pairwise_mergeAdjacentRegions regions
  refine ⟨?_, ?_, hcovered⟩
  · refine hapart.imp_of_mem fun {region region'} hregion _ hgap => ?_
    have hle := hmerged region hregion
    omega
  · -- the line after a region lies in none: the ones before it end earlier, the ones after
    -- it start later
    have hafter : ∀ region ∈ mergeAdjacentRegions regions,
        region.endLine + 1 ∉ coverage (mergeAdjacentRegions regions) := by
      rintro region hregion ⟨other, hother, hline⟩
      have hline : other.startLine ≤ region.endLine + 1 ∧ region.endLine + 1 ≤ other.endLine := hline
      have hle := hmerged region hregion
      obtain ⟨front, back, hsplit⟩ := List.append_of_mem hregion
      rw [hsplit] at hapart hother
      obtain ⟨-, hback, hcross⟩ := List.pairwise_append.1 hapart
      rcases List.mem_append.1 hother with hfront | hother
      · have hgap := hcross other hfront region List.mem_cons_self
        omega
      · rcases List.mem_cons.1 hother with rfl | hother
        · omega
        · have hgap := (List.pairwise_cons.1 hback).1 other hother
          omega
    rw [← hcovered]
    refine hapart.imp_of_mem fun {region region'} hregion _ hgap => ?_
    exact ⟨region.endLine + 1, Nat.lt_succ_self _, hgap, hafter region hregion⟩

/-- Three regions, the last one inside the second. -/
def nestedRegions : List RelevantCodeRegion :=
  [⟨8, 9, .symbol, some "f", 1, []⟩, ⟨1, 4, .modulePreamble, none, 0, []⟩,
    ⟨2, 3, .symbol, some "g", 2, []⟩]

theorem mergeAdjacentRegions_exact_nested :
    (mergeAdjacentRegions nestedRegions).Pairwise
        (fun region region' => region.startLine ≤ region'.startLine) ∧
      (mergeAdjacentRegions nestedRegions).Pairwise
        (fun region region' => ∃ line, region.endLine < line ∧ line < region'.startLine ∧
          line ∉ coverage nestedRegions) ∧
      coverage (mergeAdjacentRegions nestedRegions) = coverage nestedRegions :=
  mergeAdjacentRegions_exact nestedRegions (by decide)

end DevFlow
