/-
# A patch replaces one occurrence

`apply_patch` reads its file in text mode, so `\r\n` and `\r` have become `\n`
when the file is written again, and it counts `old_text` without the occurrences
that overlap one it has counted.  A call that goes through replaces the only
occurrence and nothing else exactly when the file has no carriage return and no
two occurrences of `old_text` overlap (`applyPatch_exact_iff`).  A carriage return
is never kept: no accepted `old_text` contains one, so one before or after the
occurrence would have to be.
-/

import DevFlow.Tools.Toolbox

namespace DevFlow

/-- The text that a patch writes back. -/
def patchedText (args : ApplyPatchArgs) (text : List Char) : List Char :=
  Substrings.replaceFirst args.oldText.toList args.newText.toList (Lines.universalNewlines text)

/-- A patch that the tool applies to a file with a text: its arguments are within their
bounds, its path is in scope and leads through no link, and what it looks for is counted
once. -/
structure PatchAccepted (task : TaskContract) (tree : WorkingTree) (args : ApplyPatchArgs)
    (path : RepoPath) (text : List Char) : Prop where
  pathLength : 1 ≤ args.path.length ∧ args.path.length ≤ 500
  oldLength : 1 ≤ args.oldText.length ∧ args.oldText.length ≤ 200000
  newLength : args.newText.length ≤ 200000
  spells : Spells (strip args.path) path
  noLinks : ∀ current ∈ path.inits, tree.lookup current ≠ some .symlink
  inScope : InScope task (strip args.path)
  size : (Utf8.encode text).length ≤ maxFileBytes
  counted : Substrings.count args.oldText.toList (Lines.universalNewlines text) = 1
  patchedSize : (Utf8.encode (patchedText args text)).length ≤ maxFileBytes

/-- **The checks of a patch**, on a file with a text. -/
theorem applyPatchPlan_eq_ok {task : TaskContract} {tree : WorkingTree} {args : ApplyPatchArgs}
    {relative : String} {path : RepoPath} {encoded : List UInt8} :
    applyPatchPlan task tree args = .ok (relative, path, encoded) ↔
      ∃ text, tree.bytesAt path = some (Utf8.encode text) ∧ PatchAccepted task tree args path text ∧
        relative = strip args.path ∧ encoded = Utf8.encode (patchedText args text) := by
  simp only [applyPatchPlan, validatePath, Raising.bind_eq_ok, Raising.raiseIf_eq_ok,
    Raising.pure_eq_ok, readTextFile_eq_ok, Prod.exists, Prod.mk.injEq, not_or, not_lt]
  constructor
  · rintro ⟨-, hpath, -, hold, -, hnew, relative, path, hresolve, -, -, _, ⟨text, hfile, hsize, rfl⟩,
      -, hfound, -, honce, -, hpatched, rfl, rfl, rfl⟩
    obtain ⟨rfl, hspells, hlinks, hscope, -⟩ := resolveForWrite_eq_ok.1 hresolve
    exact ⟨text, hfile, ⟨hpath, hold, hnew, hspells, hlinks, hscope, hsize, not_not.1 honce,
      hpatched⟩, rfl, rfl⟩
  · rintro ⟨text, hfile, haccepted, rfl, rfl⟩
    have hdir : tree.lookup path ≠ some .directory := by
      rw [WorkingTree.bytesAt_eq_some_iff] at hfile
      rw [hfile]
      simp
    refine ⟨⟨⟩, haccepted.pathLength, ⟨⟩, haccepted.oldLength, ⟨⟩, haccepted.newLength, _, _,
      resolveForWrite_eq_ok.2 ⟨rfl, haccepted.spells, haccepted.noLinks, haccepted.inScope, hdir⟩,
      ⟨⟩, ?_, _, ⟨text, hfile, haccepted.size, rfl⟩, ⟨⟩, ?_, ⟨⟩, ?_, ⟨⟩, haccepted.patchedSize, rfl, rfl,
      rfl⟩
    · rw [hfile]
      exact Option.some_ne_none _
    · rw [haccepted.counted]
      exact one_ne_zero
    · exact not_not.2 haccepted.counted

theorem PatchAccepted.oldText_ne_nil {task : TaskContract} {tree : WorkingTree}
    {args : ApplyPatchArgs} {path : RepoPath} {text : List Char}
    (h : PatchAccepted task tree args path text) : args.oldText.toList ≠ [] := by
  intro hnil
  have hlength := h.oldLength.1
  rw [← String.length_toList, hnil] at hlength
  exact absurd hlength (by decide)

/-- **An accepted patch is written.** -/
theorem PatchAccepted.applyPatch {task : TaskContract} {tree : WorkingTree}
    {args : ApplyPatchArgs} {path : RepoPath} {text : List Char}
    (h : PatchAccepted task tree args path text)
    (hfile : tree.bytesAt path = some (Utf8.encode text)) :
    ∃ written, tree.writeBytes path (Utf8.encode (patchedText args text)) = .ok written ∧
      applyPatch task tree args = (.ok ⟨strip args.path, 1⟩, written) := by
  obtain ⟨written, hwritten⟩ :=
    WorkingTree.exists_writeBytes (Utf8.encode (patchedText args text)) hfile
  refine ⟨written, hwritten, ?_⟩
  rw [DevFlow.applyPatch, applyPatchPlan_eq_ok.2 ⟨text, hfile, h, rfl, rfl⟩]
  simp only [hwritten]

/-- **What a patch does**: one that is not accepted changes nothing, and one that is
writes the patched text. -/
theorem applyPatch_cases (task : TaskContract) (tree : WorkingTree) (args : ApplyPatchArgs) :
    (∃ failure, applyPatch task tree args = (.error failure, tree)) ∨
    ∃ path text, PatchAccepted task tree args path text ∧
      tree.bytesAt path = some (Utf8.encode text) := by
  rw [applyPatch]
  cases hplan : applyPatchPlan task tree args with
  | error failure => exact Or.inl ⟨failure, rfl⟩
  | ok plan =>
    obtain ⟨relative, path, encoded⟩ := plan
    obtain ⟨text, hfile, haccepted, -, -⟩ := applyPatchPlan_eq_ok.1 hplan
    exact Or.inr ⟨path, text, haccepted, hfile⟩

/-- The claim of a patch about its file: a failed call leaves the bytes as they are, and
one that goes through replaces the only occurrence of `old_text`. -/
def PatchesOnce (task : TaskContract) (tree : WorkingTree) (args : ApplyPatchArgs)
    (path : RepoPath) (text : List Char) : Prop :=
  (∀ failure, (applyPatch task tree args).1 = .error failure →
    (applyPatch task tree args).2.bytesAt path = some (Utf8.encode text)) ∧
  ∀ result, (applyPatch task tree args).1 = .ok result →
    ∃ text', (applyPatch task tree args).2.bytesAt path = some (Utf8.encode text') ∧
      Substrings.ReplacesOnly args.oldText.toList args.newText.toList text text'

/-- A replacement in a text without carriage returns that is one in a text leaves none of
them beside the occurrence. -/
theorem no_carriageReturn {old new text shown text' : List Char} (hshown : '\r' ∉ shown)
    (hold : Substrings.count old shown ≠ 0) (hne : old ≠ [])
    (h : Substrings.ReplacesOnly old new text text')
    (htext' : text' = Substrings.replaceFirst old new shown) : '\r' ∉ text := by
  obtain ⟨before, after, htext, hpatched, -⟩ := h
  obtain ⟨before', after', hsplit, -, -, hreplace⟩ := Substrings.exists_first hne hold
  rw [hsplit] at hshown
  simp only [List.mem_append, not_or] at hshown
  obtain ⟨⟨hbefore', holdFree⟩, hafter'⟩ := hshown
  -- the carriage returns of the two results are those of `new`, and no others
  have hcounts : (before ++ new ++ after).count '\r' = (before' ++ new ++ after').count '\r' := by
    rw [← hpatched, htext', hreplace]
  simp only [List.count_append, List.count_eq_zero_of_not_mem hbefore',
    List.count_eq_zero_of_not_mem hafter'] at hcounts
  rw [htext]
  simp only [List.mem_append, not_or]
  refine ⟨⟨List.count_eq_zero.1 (by omega), holdFree⟩, List.count_eq_zero.1 (by omega)⟩

/-- **When a patch replaces one occurrence and nothing else**: a call that is accepted
finds a file without carriage returns in which no two occurrences of `old_text`
overlap. -/
theorem applyPatch_exact_iff (task : TaskContract) (tree : WorkingTree) (args : ApplyPatchArgs)
    (path : RepoPath) (text : List Char) (hpath : path = posixParts (strip args.path))
    (hfile : tree.bytesAt path = some (Utf8.encode text)) :
    PatchesOnce task tree args path text ↔
      (PatchAccepted task tree args path text →
        '\r' ∉ text ∧ Substrings.Apart args.oldText.toList text) := by
  constructor
  · rintro ⟨-, hexact⟩ haccepted
    obtain ⟨written, hwritten, hrun⟩ := haccepted.applyPatch hfile
    obtain ⟨text', hbytes, hreplaces⟩ := hexact _ (by rw [hrun])
    rw [hrun, (WorkingTree.bytesAt_writeBytes hwritten).1, Option.some.injEq,
      Utf8.encode_inj] at hbytes
    have hfree : '\r' ∉ text := by
      refine no_carriageReturn (Lines.not_mem_universalNewlines text) ?_
        haccepted.oldText_ne_nil hreplaces hbytes.symm
      rw [haccepted.counted]
      exact one_ne_zero
    refine ⟨hfree, ?_⟩
    have hcounted := haccepted.counted
    rw [Lines.universalNewlines_of_not_mem hfree] at hcounted
    refine (Substrings.occursOnce_iff_apart haccepted.oldText_ne_nil hcounted).1 fun i j hi hj => ?_
    obtain ⟨before, after, -, -, honce⟩ := hreplaces
    rw [honce i hi, honce j hj]
  · intro hcondition
    rcases applyPatch_cases task tree args with ⟨failure, hrun⟩ | ⟨path', text₀, haccepted, hfile'⟩
    · refine ⟨fun _ _ => by rw [hrun]; exact hfile, fun result hresult => ?_⟩
      rw [hrun] at hresult
      cases hresult
    · obtain rfl : path = path' := hpath.trans haccepted.spells.parts
      obtain rfl : text = text₀ := Utf8.encode_inj.1 (Option.some.inj (hfile.symm.trans hfile'))
      obtain ⟨written, hwritten, hrun⟩ := haccepted.applyPatch hfile
      obtain ⟨hfree, hapart⟩ := hcondition haccepted
      refine ⟨fun failure hfailed => ?_, fun result _ => ⟨patchedText args text, ?_, ?_⟩⟩
      · rw [hrun] at hfailed
        cases hfailed
      · rw [hrun]
        exact (WorkingTree.bytesAt_writeBytes hwritten).1
      · have hcounted := haccepted.counted
        rw [Lines.universalNewlines_of_not_mem hfree] at hcounted
        rw [patchedText, Lines.universalNewlines_of_not_mem hfree]
        exact Substrings.replacesOnly_replaceFirst haccepted.oldText_ne_nil hcounted hapart _

/-! ### A file with three letters -/

/-- The file `a.txt`, with the text `aaa`. -/
def lettersTree : WorkingTree :=
  .ofFile "a.txt" (Utf8.encode "aaa".toList)

def lettersTask : TaskContract :=
  ⟨"T001", "Change the letters.", [], ["a.txt"], []⟩

theorem bytesAt_lettersTree :
    lettersTree.bytesAt ["a.txt"] = some (Utf8.encode "aaa".toList) :=
  WorkingTree.bytesAt_ofFile _ _

/-- A patch of one occurrence of all three letters is exact. -/
theorem applyPatch_exact_iff_letters :
    PatchesOnce lettersTask lettersTree ⟨"a.txt", "aaa", "b"⟩ ["a.txt"] "aaa".toList := by
  refine (applyPatch_exact_iff lettersTask lettersTree ⟨"a.txt", "aaa", "b"⟩ ["a.txt"] "aaa".toList
    (by decide) bytesAt_lettersTree).2 fun _ => ⟨by decide, fun i j hi hj hlt => ?_⟩
  have hlength := hj.length_le
  rw [List.length_drop] at hlength
  change 3 ≤ 3 - j at hlength
  omega

/-- **An overlapping occurrence is missed**: `aa` stands at two positions of `aaa`. -/
theorem applyPatch_misses_overlap :
    ¬PatchesOnce lettersTask lettersTree ⟨"a.txt", "aa", "b"⟩ ["a.txt"] "aaa".toList := by
  have haccepted : PatchAccepted lettersTask lettersTree ⟨"a.txt", "aa", "b"⟩ ["a.txt"]
      "aaa".toList := by
    refine ⟨by decide, by decide, by decide, ⟨by decide, by decide, by decide, by decide,
      by decide, by decide, by decide, by decide, by decide⟩,
      fun current _ => WorkingTree.ofFile_not_symlink _ _ current,
      ⟨⟨"a.txt", List.mem_singleton_self _, by decide⟩, fun _ h => absurd h List.not_mem_nil⟩,
      by decide, by decide, by decide⟩
  obtain ⟨written, -, hrun⟩ := haccepted.applyPatch bytesAt_lettersTree
  rintro ⟨-, hexact⟩
  obtain ⟨text', -, before, after, -, -, honce⟩ := hexact _ (by rw [hrun])
  have hfirst := honce 0 (by unfold Substrings.OccursAt; decide)
  have hsecond := honce 1 (by unfold Substrings.OccursAt; decide)
  omega

end DevFlow
