/-
# The scope of the file that a tool opens

The tools check the scopes of a task on the argument as it is spelled, and open
the file at the path that the argument spells, where `.`, doubled and trailing
separators are gone.  Two spellings of one file can therefore get two verdicts.
The tools respect the scope of the file that they open exactly for the arguments
whose spelling gets the verdict of the file itself (`respectsScope_iff`); that
the file is not in `.git` is checked on the path, for every spelling.
-/

import DevFlow.Tools.Patches
import DevFlow.Tools.Ranges

namespace DevFlow

/-- The path of the file that an argument names. -/
def canonicalPath (argument : String) : RepoPath :=
  posixParts (strip argument)

/-- The tools respect the scope of the file that an argument names: what is changed is
that file, outside `.git` and in scope; what is read is that file, outside `.git` and
visible; and no spelling of a file that is in scope is denied. -/
structure RespectsScope (task : TaskContract) (argument : String) : Prop where
  written : ∀ tree content result tree',
    writeFile task tree ⟨argument, content⟩ = (.ok result, tree') →
    (∀ other, other ≠ canonicalPath argument → tree'.bytesAt other = tree.bytesAt other) ∧
      (canonicalPath argument).head? ≠ some ".git" ∧
      InScope task (asPosix (canonicalPath argument))
  patched : ∀ tree oldText newText result tree',
    applyPatch task tree ⟨argument, oldText, newText⟩ = (.ok result, tree') →
    (∀ other, other ≠ canonicalPath argument → tree'.bytesAt other = tree.bytesAt other) ∧
      (canonicalPath argument).head? ≠ some ".git" ∧
      InScope task (asPosix (canonicalPath argument))
  read : ∀ tree maxChars result, readFile task tree ⟨argument, maxChars⟩ = .ok result →
    (∃ text, readTextFile tree (canonicalPath argument) = .ok text ∧
      result.content = String.ofList (text.take maxChars)) ∧
      (canonicalPath argument).head? ≠ some ".git" ∧
      canRead task (asPosix (canonicalPath argument)) = true
  readMany : ∀ tree paths maxChars results, argument ∈ paths →
    readFiles task tree ⟨paths, maxChars⟩ = .ok results →
    (∃ text, readTextFile tree (canonicalPath argument) = .ok text ∧
      ∃ result ∈ results, result.content = String.ofList (text.take maxChars)) ∧
      (canonicalPath argument).head? ≠ some ".git" ∧
      canRead task (asPosix (canonicalPath argument)) = true
  rangeRead : ∀ maxLines tree startLine endLine result,
    readRange task maxLines tree ⟨argument, startLine, endLine⟩ = .ok result →
    (∃ text, readTextFile tree (canonicalPath argument) = .ok text ∧
      result = rangeResult ⟨argument, startLine, endLine⟩ result.path (Lines.splitlines text)) ∧
      (canonicalPath argument).head? ≠ some ".git" ∧
      canRead task (asPosix (canonicalPath argument)) = true
  symbolRead : ∀ parse tree symbol result,
    readSymbol parse task tree ⟨argument, symbol⟩ = .ok result →
    (∃ text preambleEnd region, readTextFile tree (canonicalPath argument) = .ok text ∧
      result = symbolResult result.path (Lines.splitlines text) preambleEnd region) ∧
      (canonicalPath argument).head? ≠ some ".git" ∧
      canRead task (asPosix (canonicalPath argument)) = true
  writeDenied : ∀ tree content message,
    (writeFile task tree ⟨argument, content⟩).1 = .error ⟨.pathDenied, message⟩ →
    Spells (strip argument) (canonicalPath argument) → canonicalPath argument ≠ [] →
    ¬InScope task (asPosix (canonicalPath argument))
  readDenied : ∀ tree message,
    readFiles task tree ⟨[argument], 4000⟩ = .error ⟨.pathDenied, message⟩ →
    Spells (strip argument) (canonicalPath argument) → canonicalPath argument ≠ [] →
    canRead task (asPosix (canonicalPath argument)) = false

/-- The spelling of an argument gets the verdict of the file that it names, from the
scopes of writes and from those of reads. -/
def SameVerdict (task : TaskContract) (argument : String) : Prop :=
  (argument.length ≤ 500 →
    (InScope task (strip argument) ↔ InScope task (asPosix (canonicalPath argument)))) ∧
  (canRead task (strip argument) = true ↔
    canRead task (asPosix (canonicalPath argument)) = true)

/-! ### What a call that goes through tells -/

theorem Spells.eq_canonicalPath {argument : String} {path : RepoPath}
    (h : Spells (strip argument) path) : canonicalPath argument = path :=
  h.parts

theorem writeFilePlan_eq_ok {task : TaskContract} {tree : WorkingTree} {args : WriteFileArgs}
    {relative : String} {path : RepoPath} {encoded : List UInt8} :
    writeFilePlan task tree args = .ok (relative, path, encoded) ↔
      (1 ≤ args.path.length ∧ args.path.length ≤ 500) ∧ args.content.length ≤ maxFileBytes ∧
      resolveForWrite task tree args.path = .ok (relative, path) ∧
      encoded = Utf8.encode args.content.toList ∧ encoded.length ≤ maxFileBytes := by
  simp only [writeFilePlan, validatePath, Raising.bind_eq_ok, Raising.raiseIf_eq_ok,
    Raising.pure_eq_ok, Prod.exists, Prod.mk.injEq, not_or, not_lt]
  constructor
  · rintro ⟨-, hpath, -, hcontent, _, _, hresolve, -, hsize, rfl, rfl, rfl⟩
    exact ⟨hpath, hcontent, hresolve, rfl, hsize⟩
  · rintro ⟨hpath, hcontent, hresolve, rfl, hsize⟩
    exact ⟨⟨⟩, hpath, ⟨⟩, hcontent, _, _, hresolve, ⟨⟩, hsize, rfl, rfl, rfl⟩

/-- **A write that goes through** changes the file that its argument names, and the
argument is in scope. -/
theorem writeFile_ok {task : TaskContract} {tree tree' : WorkingTree} {args : WriteFileArgs}
    {result : WriteFileResult} (h : writeFile task tree args = (.ok result, tree')) :
    Spells (strip args.path) (canonicalPath args.path) ∧ canonicalPath args.path ≠ [] ∧
      args.path.length ≤ 500 ∧ InScope task (strip args.path) ∧
      ∀ other, other ≠ canonicalPath args.path → tree'.bytesAt other = tree.bytesAt other := by
  rw [writeFile] at h
  split at h
  · cases h
  rename_i relative path encoded hplan
  split at h
  · cases h
  rename_i parents hparents
  split at h
  · cases h
  rename_i written hwritten
  obtain ⟨-, rfl⟩ := Prod.mk.inj h
  obtain ⟨⟨-, hlength⟩, -, hresolve, -, -⟩ := writeFilePlan_eq_ok.1 hplan
  obtain ⟨-, hspells, -, hscope, hdir⟩ := resolveForWrite_eq_ok.1 hresolve
  obtain rfl := hspells.eq_canonicalPath
  refine ⟨hspells, fun hroot => hdir ?_, hlength, hscope, fun other hother => ?_⟩
  · rw [hroot, WorkingTree.lookup_root]
  · rw [(WorkingTree.bytesAt_writeBytes hwritten).2 other hother,
      WorkingTree.bytesAt_makeDirectories hparents]

/-- **A patch that goes through** changes the file that its argument names, and the
argument is in scope. -/
theorem applyPatch_ok {task : TaskContract} {tree tree' : WorkingTree} {args : ApplyPatchArgs}
    {result : ApplyPatchResult} (h : applyPatch task tree args = (.ok result, tree')) :
    Spells (strip args.path) (canonicalPath args.path) ∧ canonicalPath args.path ≠ [] ∧
      args.path.length ≤ 500 ∧ InScope task (strip args.path) ∧
      ∀ other, other ≠ canonicalPath args.path → tree'.bytesAt other = tree.bytesAt other := by
  rcases applyPatch_cases task tree args with ⟨failure, hrun⟩ | ⟨path, text, haccepted, hfile⟩
  · rw [hrun] at h
    cases h
  · obtain ⟨written, hwritten, hrun⟩ := haccepted.applyPatch hfile
    rw [hrun, Prod.mk.injEq] at h
    obtain ⟨-, rfl⟩ := h
    obtain rfl := haccepted.spells.eq_canonicalPath
    refine ⟨haccepted.spells, fun hroot => ?_, haccepted.pathLength.2, haccepted.inScope,
      (WorkingTree.bytesAt_writeBytes hwritten).2⟩
    rw [hroot, WorkingTree.bytesAt_eq_some_iff, WorkingTree.lookup_root] at hfile
    cases hfile

/-- **A read that goes through** resolves its argument to the file that it names, and the
argument is visible. -/
theorem resolveForRead_ok {task : TaskContract} {tree : WorkingTree} {argument relative : String}
    {path : RepoPath} (h : resolveForRead task tree argument = .ok (relative, path)) :
    canonicalPath argument = path ∧ Spells (strip argument) (canonicalPath argument) ∧
      canonicalPath argument ≠ [] ∧ canRead task (strip argument) = true := by
  obtain ⟨-, hspells, -, hread, hfile⟩ := resolveForRead_eq_ok.1 h
  obtain rfl := hspells.eq_canonicalPath
  refine ⟨rfl, hspells, fun hroot => hfile ?_, hread⟩
  rw [hroot, WorkingTree.bytesAt, WorkingTree.lookup_root]

/-! ### What a denied call tells -/

/-- Only the tools themselves deny a path. -/
theorem ofFailure_ne_pathDenied (failure : Failure) (message : String) :
    ToolFailure.ofFailure failure ≠ ⟨.pathDenied, message⟩ := by
  rw [ToolFailure.ofFailure]
  split <;> simp

theorem raised_ne_pathDenied {α : Type} (run : Except Failure α) (message : String) :
    raised run ≠ .error ⟨.pathDenied, message⟩ := by
  cases run with
  | ok a => exact nofun
  | error failure => exact fun h => ofFailure_ne_pathDenied failure message (Except.error.inj h)

theorem readTextFile_ne_pathDenied (tree : WorkingTree) (path : RepoPath) (message : String) :
    readTextFile tree path ≠ .error ⟨.pathDenied, message⟩ := by
  rw [readTextFile]
  cases tree.bytesAt path with
  | none => simp
  | some bytes =>
    simp only [ne_eq, Raising.bind_eq_error, Raising.raiseIf_eq_error]
    cases Utf8.decode bytes <;> simp [pure, Except.pure]

/-- **A write is denied for its scope only.** -/
theorem resolveForWrite_denied {task : TaskContract} {tree : WorkingTree} {argument : String}
    {path : RepoPath} {message : String} (hspells : Spells (strip argument) path)
    (h : resolveForWrite task tree argument = .error ⟨.pathDenied, message⟩) :
    ¬InScope task (strip argument) := by
  intro hscope
  obtain ⟨result, hcheck, hpassed⟩ := scopeCheck_singleton task hspells.normalize
  rw [resolveForWrite] at h
  rcases Raising.bind_eq_error.1 h with h | ⟨_, -, h⟩
  · rw [Raising.raiseIf_eq_error, hspells.not_internal] at h
    exact Bool.false_ne_true h.1
  rcases Raising.bind_eq_error.1 h with h | ⟨path', -, h⟩
  · exact raised_ne_pathDenied _ _ h
  rcases Raising.bind_eq_error.1 h with h | ⟨result', hcheck', h⟩
  · exact raised_ne_pathDenied _ _ h
  rw [raised_eq_ok, hcheck, Except.ok.injEq] at hcheck'
  subst hcheck'
  rcases Raising.bind_eq_error.1 h with h | ⟨_, -, h⟩
  · rw [Raising.raiseIf_eq_error, hpassed.2 hscope] at h
    exact Bool.noConfusion h.1
  rcases Raising.bind_eq_error.1 h with h | ⟨_, -, h⟩
  · rw [Raising.raiseIf_eq_error] at h
    cases h.2
  · cases h

/-- **A read is denied for its scope only.** -/
theorem resolveForRead_denied {task : TaskContract} {tree : WorkingTree} {argument : String}
    {path : RepoPath} {message : String} (hspells : Spells (strip argument) path)
    (h : resolveForRead task tree argument = .error ⟨.pathDenied, message⟩) :
    canRead task (strip argument) = false := by
  rw [resolveForRead] at h
  rcases Raising.bind_eq_error.1 h with h | ⟨_, -, h⟩
  · rw [Raising.raiseIf_eq_error, hspells.not_internal] at h
    exact absurd h.1 Bool.false_ne_true
  rcases Raising.bind_eq_error.1 h with h | ⟨path', -, h⟩
  · exact absurd h (raised_ne_pathDenied _ _)
  rcases Raising.bind_eq_error.1 h with h | ⟨_, -, h⟩
  · exact (Raising.raiseIf_eq_error.1 h).1
  rcases Raising.bind_eq_error.1 h with h | ⟨_, -, h⟩
  · cases (Raising.raiseIf_eq_error.1 h).2
  · cases h

/-- A call of `write_file` that is denied is denied where its path is resolved. -/
theorem writeFile_denied {task : TaskContract} {tree : WorkingTree} {args : WriteFileArgs}
    {message : String} (h : (writeFile task tree args).1 = .error ⟨.pathDenied, message⟩) :
    args.path.length ≤ 500 ∧
      resolveForWrite task tree args.path = .error ⟨.pathDenied, message⟩ := by
  have hplan : writeFilePlan task tree args = .error ⟨.pathDenied, message⟩ := by
    rw [writeFile] at h
    cases hplan : writeFilePlan task tree args with
    | error failure =>
      simp only [hplan, Except.error.injEq] at h
      rw [h]
    | ok plan =>
      exfalso
      simp only [hplan] at h
      split at h
      · exact ofFailure_ne_pathDenied _ _ (Except.error.inj h)
      · split at h
        · exact ofFailure_ne_pathDenied _ _ (Except.error.inj h)
        · cases h
  rw [writeFilePlan, validatePath] at hplan
  rcases Raising.bind_eq_error.1 hplan with h | ⟨_, hpath, h⟩
  · cases (Raising.raiseIf_eq_error.1 h).2
  rcases Raising.bind_eq_error.1 h with h | ⟨_, -, h⟩
  · cases (Raising.raiseIf_eq_error.1 h).2
  rcases Raising.bind_eq_error.1 h with h | ⟨_, -, h⟩
  · rw [Raising.raiseIf_eq_ok, not_or, not_lt, not_lt] at hpath
    exact ⟨hpath.2, h⟩
  rcases Raising.bind_eq_error.1 h with h | ⟨_, -, h⟩
  · cases (Raising.raiseIf_eq_error.1 h).2
  · cases h

/-- A call of `read_files` for one path that is denied is denied where the path is
resolved. -/
theorem readFiles_denied {task : TaskContract} {tree : WorkingTree} {argument : String}
    {message : String}
    (h : readFiles task tree ⟨[argument], 4000⟩ = .error ⟨.pathDenied, message⟩) :
    resolveForRead task tree (strip argument) = .error ⟨.pathDenied, message⟩ := by
  rw [readFiles] at h
  rcases Raising.bind_eq_error.1 h with h | ⟨_, -, h⟩
  · cases (Raising.raiseIf_eq_error.1 h).2
  rcases Raising.bind_eq_error.1 h with h | ⟨_, -, h⟩
  · cases (Raising.raiseIf_eq_error.1 h).2
  rcases Raising.bind_eq_error.1 h with h | ⟨_, -, h⟩
  · cases (Raising.raiseIf_eq_error.1 h).2
  rcases Raising.bind_eq_error.1 h with h | ⟨_, -, h⟩
  · cases (Raising.raiseIf_eq_error.1 h).2
  obtain ⟨requested, hrequested, h⟩ := Raising.mapM_eq_error h
  rw [List.map_singleton, List.mem_singleton] at hrequested
  subst hrequested
  rcases Raising.bind_eq_error.1 h with h | ⟨resolved, -, h⟩
  · exact h
  rcases Raising.bind_eq_error.1 h with h | ⟨_, -, h⟩
  · exact absurd h (readTextFile_ne_pathDenied _ _ _)
  · cases h

/-! ### The arguments whose scope is respected -/

/-- A path with a file, in a workspace without links: a write to it is resolved by its
scope, and so is a read. -/
theorem exists_file_at {path : RepoPath} (hne : path ≠ []) :
    ∃ tree : WorkingTree, readTextFile tree path = .ok [] ∧ tree.bytesAt path = some [] ∧
      ∀ current, tree.lookup current ≠ some .symlink := by
  obtain ⟨tree, hfile, hlinks⟩ := WorkingTree.exists_file hne []
  exact ⟨tree, readTextFile_eq_ok.2 ⟨[], hfile, by decide, rfl⟩, hfile, hlinks⟩

theorem Spells.one_le_length {argument : String} {path : RepoPath}
    (h : Spells (strip argument) path) : 1 ≤ argument.length := by
  have hle := length_strip_le argument
  have hpos : (strip argument).length ≠ 0 := fun hzero =>
    h.notEmpty (String.toList_inj.1 (List.length_eq_zero_iff.1 (String.length_toList ▸ hzero)))
  omega

/-- An argument that is in scope can be written, where its file exists. -/
theorem exists_writeFile {task : TaskContract} {tree : WorkingTree} {argument : String}
    (hspells : Spells (strip argument) (canonicalPath argument)) (hlength : argument.length ≤ 500)
    (hscope : InScope task (strip argument))
    (hlinks : ∀ current, tree.lookup current ≠ some .symlink)
    (hfile : tree.bytesAt (canonicalPath argument) = some []) :
    ∃ result tree', writeFile task tree ⟨argument, ""⟩ = (.ok result, tree') := by
  have hlookup := WorkingTree.bytesAt_eq_some_iff.1 hfile
  have hdir : tree.lookup (canonicalPath argument) ≠ some .directory := by
    rw [hlookup]
    exact nofun
  have hcontent : "".length ≤ maxFileBytes := by decide
  have hsize : (Utf8.encode "".toList).length ≤ maxFileBytes := by decide
  have hresolve : resolveForWrite task tree argument = .ok (strip argument, canonicalPath argument) :=
    resolveForWrite_eq_ok.2 ⟨rfl, hspells, fun current _ => hlinks current, hscope, hdir⟩
  have hplan : writeFilePlan task tree ⟨argument, ""⟩ =
      .ok (strip argument, canonicalPath argument, Utf8.encode "".toList) :=
    writeFilePlan_eq_ok.2 ⟨⟨hspells.one_le_length, hlength⟩, hcontent, hresolve, rfl, hsize⟩
  obtain ⟨written, hwritten⟩ := WorkingTree.exists_writeBytes (Utf8.encode "".toList) hfile
  have hparents : tree.makeDirectories (canonicalPath argument).dropLast = .ok tree :=
    WorkingTree.makeDirectories_dropLast (by rw [hlookup]; exact Option.some_ne_none _)
  exact ⟨⟨strip argument, (Utf8.encode "".toList).length⟩, written,
    by simp only [writeFile, hplan, hparents, hwritten]⟩

/-- An argument that is not in scope is denied. -/
theorem exists_writeFile_denied {task : TaskContract} {tree : WorkingTree} {argument : String}
    (hspells : Spells (strip argument) (canonicalPath argument)) (hlength : argument.length ≤ 500)
    (hscope : ¬InScope task (strip argument))
    (hlinks : ∀ current, tree.lookup current ≠ some .symlink) :
    ∃ message, (writeFile task tree ⟨argument, ""⟩).1 = .error ⟨.pathDenied, message⟩ := by
  obtain ⟨result, hcheck, hpassed⟩ := scopeCheck_singleton task hspells.normalize
  have hresolve : resolveForWrite task tree argument =
      .error ⟨.pathDenied, writeDenied result (strip argument)⟩ := by
    rw [resolveForWrite]
    refine Raising.bind_eq_error.2 (Or.inr ⟨⟨⟩, ?_, ?_⟩)
    · rw [Raising.raiseIf_eq_ok, hspells.not_internal]
      exact Bool.false_ne_true
    refine Raising.bind_eq_error.2 (Or.inr ⟨canonicalPath argument, raised_of_ok ?_, ?_⟩)
    · rw [resolvePath_eq_ok, strip_strip]
      exact ⟨hspells, fun current _ => hlinks current⟩
    refine Raising.bind_eq_error.2 (Or.inr ⟨result, raised_of_ok hcheck, ?_⟩)
    refine Raising.bind_eq_error.2 (Or.inl (Raising.raiseIf_of ?_ _))
    exact Bool.eq_false_iff.2 fun h => hscope (hpassed.1 h)
  have hplan : writeFilePlan task tree ⟨argument, ""⟩ =
      .error ⟨.pathDenied, writeDenied result (strip argument)⟩ := by
    rw [writeFilePlan, validatePath]
    have hpath : ¬(argument.length < 1 ∨ 500 < argument.length) := by
      have hone := hspells.one_le_length
      omega
    refine Raising.bind_eq_error.2 (Or.inr ⟨⟨⟩, Raising.raiseIf_of_not hpath _, ?_⟩)
    have hcontent : ¬maxFileBytes < "".length := by decide
    refine Raising.bind_eq_error.2 (Or.inr ⟨⟨⟩, Raising.raiseIf_of_not hcontent _, ?_⟩)
    exact Raising.bind_eq_error.2 (Or.inl hresolve)
  exact ⟨_, by rw [writeFile, hplan]⟩

/-- The arguments of `read_files` for one path that spells a file are valid. -/
theorem readFiles_singleton {task : TaskContract} {tree : WorkingTree} {argument : String}
    (hne : strip argument ≠ "") :
    readFiles task tree ⟨[argument], 4000⟩ = [strip argument].mapM fun requestedPath => do
      let (relative, path) ← resolveForRead task tree requestedPath
      let text ← readTextFile tree path
      return ⟨relative, String.ofList (text.take 4000), 4000 < text.length⟩ := by
  have hcount : ¬([argument].length < 1 ∨ 4 < [argument].length) := by simp
  have hmax : ¬(4000 < 1 ∨ 8000 < 4000) := by decide
  have hempty : "" ∉ [strip argument] := by simpa using hne.symm
  have hnodup : ¬¬[strip argument].Nodup := by simp
  simp only [readFiles, List.map_singleton, Raising.raiseIf_of_not hcount,
    Raising.raiseIf_of_not hmax, Raising.raiseIf_of_not hempty, Raising.raiseIf_of_not hnodup,
    Raising.ok_bind]

/-- A file that is visible as it is spelled is read. -/
theorem exists_readFiles {task : TaskContract} {tree : WorkingTree} {argument : String}
    (hspells : Spells (strip argument) (canonicalPath argument))
    (hvisible : canRead task (strip argument) = true)
    (hlinks : ∀ current, tree.lookup current ≠ some .symlink)
    (hfile : tree.bytesAt (canonicalPath argument) = some [])
    (htext : readTextFile tree (canonicalPath argument) = .ok []) :
    ∃ results, readFiles task tree ⟨[argument], 4000⟩ = .ok results := by
  have hresolve : resolveForRead task tree (strip argument) =
      .ok (strip argument, canonicalPath argument) := by
    rw [resolveForRead_eq_ok, strip_strip]
    refine ⟨rfl, hspells, fun current _ => hlinks current, hvisible, ?_⟩
    rw [hfile]
    exact Option.some_ne_none _
  rw [readFiles_singleton hspells.notEmpty, Raising.exists_mapM_eq_ok]
  intro requested hrequested
  rw [List.mem_singleton.1 hrequested, hresolve, Raising.ok_bind]
  simp only [htext, Raising.ok_bind]
  exact ⟨_, rfl⟩

/-- A file that is not visible as it is spelled is denied. -/
theorem exists_readFiles_denied {task : TaskContract} {tree : WorkingTree} {argument : String}
    (hspells : Spells (strip argument) (canonicalPath argument))
    (hvisible : canRead task (strip argument) = false)
    (hlinks : ∀ current, tree.lookup current ≠ some .symlink) :
    ∃ message, readFiles task tree ⟨[argument], 4000⟩ = .error ⟨.pathDenied, message⟩ := by
  have hinternal : ¬isInternal (strip argument) = true := by
    rw [hspells.not_internal]
    exact Bool.false_ne_true
  have hpath : resolvePath tree (strip argument) = .ok (canonicalPath argument) := by
    rw [resolvePath_eq_ok, strip_strip]
    exact ⟨hspells, fun current _ => hlinks current⟩
  have hdenied : resolveForRead task tree (strip argument) =
      .error ⟨.pathDenied, "Read path is outside the task's visible scopes: " ++
        strip argument⟩ := by
    rw [resolveForRead, strip_strip]
    refine Raising.bind_eq_error.2 (Or.inr ⟨⟨⟩, Raising.raiseIf_of_not hinternal _, ?_⟩)
    refine Raising.bind_eq_error.2 (Or.inr ⟨_, raised_of_ok hpath, ?_⟩)
    exact Raising.bind_eq_error.2 (Or.inl (Raising.raiseIf_of hvisible _))
  refine ⟨"Read path is outside the task's visible scopes: " ++ strip argument, ?_⟩
  rw [readFiles_singleton hspells.notEmpty, List.mapM_cons]
  exact Raising.bind_eq_error.2 (Or.inl (Raising.bind_eq_error.2 (Or.inl hdenied)))

/-- Tools that respect the scope of a file give its spelling the verdict of the file. -/
theorem RespectsScope.sameVerdict {task : TaskContract} {argument : String}
    (h : RespectsScope task argument)
    (hspells : Spells (strip argument) (canonicalPath argument))
    (hne : canonicalPath argument ≠ []) : SameVerdict task argument := by
  obtain ⟨tree, htext, hfile, hlinks⟩ := exists_file_at hne
  refine ⟨fun hlength => ⟨fun hscope => ?_, fun hscope => ?_⟩, fun hvisible => ?_, fun hvisible => ?_⟩
  · obtain ⟨result, tree', hrun⟩ := exists_writeFile hspells hlength hscope hlinks hfile
    exact (h.written tree "" result tree' hrun).2.2
  · by_contra hout
    obtain ⟨message, hrun⟩ := exists_writeFile_denied hspells hlength hout hlinks
    exact h.writeDenied tree "" message hrun hspells hne hscope
  · obtain ⟨results, hrun⟩ := exists_readFiles hspells hvisible hlinks hfile htext
    exact (h.readMany tree [argument] 4000 results (List.mem_singleton_self _) hrun).2.2
  · by_contra hout
    obtain ⟨message, hrun⟩ := exists_readFiles_denied hspells (Bool.not_eq_true _ ▸ hout) hlinks
    rw [h.readDenied tree message hrun hspells hne] at hvisible
    exact Bool.false_ne_true hvisible

/-- **What `read_file` returns.** -/
theorem readFile_ok {task : TaskContract} {tree : WorkingTree} {args : ReadFileArgs}
    {result : ReadFileResult} (h : readFile task tree args = .ok result) :
    ∃ relative path text, resolveForRead task tree args.path = .ok (relative, path) ∧
      readTextFile tree path = .ok text ∧
      result.content = String.ofList (text.take args.maxChars) := by
  simp only [readFile, Raising.bind_eq_ok, Raising.pure_eq_ok, Prod.exists] at h
  obtain ⟨_, _, _, _, relative, path, hresolve, text, htext, rfl⟩ := h
  exact ⟨relative, path, text, hresolve, htext, rfl⟩

/-- **What `read_files` returns** of each of its paths. -/
theorem readFiles_ok {task : TaskContract} {tree : WorkingTree} {args : ReadFilesArgs}
    {results : List ReadFileResult} (h : readFiles task tree args = .ok results)
    {argument : String} (hmem : argument ∈ args.paths) :
    ∃ relative path text, resolveForRead task tree argument = .ok (relative, path) ∧
      readTextFile tree path = .ok text ∧
      ∃ result ∈ results, result.content = String.ofList (text.take args.maxCharsPerFile) := by
  simp only [readFiles, Raising.bind_eq_ok] at h
  obtain ⟨_, _, _, _, _, _, _, _, hmap⟩ := h
  obtain ⟨result, hresult, hcall⟩ := Raising.exists_of_forall₂_left (Raising.mapM_eq_ok.1 hmap)
    (List.mem_map.2 ⟨argument, hmem, rfl⟩)
  simp only [Raising.bind_eq_ok, Raising.pure_eq_ok, Prod.exists] at hcall
  obtain ⟨relative, path, hresolve, text, htext, rfl⟩ := hcall
  rw [resolveForRead_eq_ok, strip_strip, ← resolveForRead_eq_ok] at hresolve
  exact ⟨relative, path, text, hresolve, htext, _, hresult, rfl⟩

/-- **When the tools respect the scope of the file that an argument names**: the spelling
gets the verdict of the file, if it spells a file at all. -/
theorem respectsScope_iff (task : TaskContract) (argument : String) :
    RespectsScope task argument ↔
      (Spells (strip argument) (canonicalPath argument) → canonicalPath argument ≠ [] →
        SameVerdict task argument) := by
  refine ⟨RespectsScope.sameVerdict, fun hverdict => ?_⟩
  have hwrite : Spells (strip argument) (canonicalPath argument) → canonicalPath argument ≠ [] →
      argument.length ≤ 500 → InScope task (strip argument) →
      (canonicalPath argument).head? ≠ some ".git" ∧
        InScope task (asPosix (canonicalPath argument)) :=
    fun hspells hne hlength hscope =>
      ⟨hspells.notGit, ((hverdict hspells hne).1 hlength).1 hscope⟩
  have hread : ∀ {tree : WorkingTree} {relative : String} {path : RepoPath},
      resolveForRead task tree argument = .ok (relative, path) →
      canonicalPath argument = path ∧ (canonicalPath argument).head? ≠ some ".git" ∧
        canRead task (asPosix (canonicalPath argument)) = true := by
    intro tree relative path hresolve
    obtain ⟨hpath, hspells, hne, hvisible⟩ := resolveForRead_ok hresolve
    exact ⟨hpath, hspells.notGit, (hverdict hspells hne).2.1 hvisible⟩
  constructor
  · intro tree content result tree' hrun
    obtain ⟨hspells, hne, hlength, hscope, hframe⟩ := writeFile_ok hrun
    exact ⟨hframe, hwrite hspells hne hlength hscope⟩
  · intro tree oldText newText result tree' hrun
    obtain ⟨hspells, hne, hlength, hscope, hframe⟩ := applyPatch_ok hrun
    exact ⟨hframe, hwrite hspells hne hlength hscope⟩
  · intro tree maxChars result hrun
    obtain ⟨relative, path, text, hresolve, htext, hcontent⟩ := readFile_ok hrun
    obtain ⟨hpath, hscope⟩ := hread hresolve
    exact ⟨⟨text, hpath ▸ htext, hcontent⟩, hscope⟩
  · intro tree paths maxChars results hmem hrun
    obtain ⟨relative, path, text, hresolve, htext, hcontent⟩ := readFiles_ok hrun hmem
    obtain ⟨hpath, hscope⟩ := hread hresolve
    exact ⟨⟨text, hpath ▸ htext, hcontent⟩, hscope⟩
  · intro maxLines tree startLine endLine result hrun
    obtain ⟨-, -, -, -, -, relative, path, text, hresolve, htext, -, rfl⟩ := readRange_eq_ok.1 hrun
    obtain ⟨hpath, hscope⟩ := hread hresolve
    exact ⟨⟨text, hpath ▸ htext, rfl⟩, hscope⟩
  · intro parse tree symbol result hrun
    obtain ⟨-, -, -, relative, path, text, preambleEnd, region, hresolve, -, htext, -, rfl⟩ :=
      readSymbol_eq_ok.1 hrun
    obtain ⟨hpath, hscope⟩ := hread hresolve
    exact ⟨⟨text, preambleEnd, region, hpath ▸ htext, rfl⟩, hscope⟩
  · intro tree content message hrun hspells hne hscope
    obtain ⟨hlength, hdenied⟩ := writeFile_denied hrun
    exact resolveForWrite_denied hspells hdenied (((hverdict hspells hne).1 hlength).2 hscope)
  · intro tree message hrun hspells hne
    have hout := resolveForRead_denied (by rwa [strip_strip]) (readFiles_denied hrun)
    rw [strip_strip] at hout
    exact Bool.eq_false_iff.2 fun hvisible =>
      Bool.false_ne_true (hout.symm.trans ((hverdict hspells hne).2.2 hvisible))

/-! ### A readonly file below a writable directory -/

/-- A task that may write below `src`, but not `src/secret.py`. -/
def secretTask : TaskContract :=
  ⟨"T001", "Change the sources.", [], ["src/**"], ["src/secret.py"]⟩

/-- **A spelling that the scopes do not see**: `src/./secret.py` is written. -/
theorem respectsScope_misses_dot : ¬RespectsScope secretTask "src/./secret.py" := by
  intro h
  have hspells : Spells (strip "src/./secret.py") (canonicalPath "src/./secret.py") :=
    ⟨by decide, by decide, by decide, by decide, by decide, by decide, by decide, by decide,
      by decide⟩
  have hscope : InScope secretTask (strip "src/./secret.py") := by
    refine ⟨⟨"src/**", List.mem_singleton_self _, by decide⟩, fun pattern hpattern => ?_⟩
    obtain rfl := List.mem_singleton.1 hpattern
    decide
  have hfile := ((h.sameVerdict hspells (by decide)).1 (by decide)).1 hscope
  have hreadonly := hfile.2 "src/secret.py" (List.mem_singleton_self _)
  revert hreadonly
  decide

end DevFlow
