/-
# The repository tools of an agent

`RepositoryToolbox` of `tools/repository.py`: how a tool call resolves the path
it is given, and the tools that read, write and patch one file.  A handler that
raises a `ValueError` makes the call fail as an invalid argument, and one that
raises an `OSError` as an I/O error.

The scopes are checked on the stripped argument and the file is opened at the
path that the argument spells (`resolveForWrite_eq_ok`, `resolveForRead_eq_ok`).
-/

import DevFlow.Library.Lines
import DevFlow.Library.Substrings
import DevFlow.Library.Utf8
import DevFlow.Workspace.Scope
import DevFlow.Workspace.WorkingTree

namespace DevFlow

inductive ToolErrorCode
  | invalidArguments
  | pathDenied
  | notFound
  | ambiguousPatch
  | ioError
  | unknownTool
deriving DecidableEq, Repr

/-- What a failed call returns. -/
structure ToolFailure where
  code : ToolErrorCode
  message : String
deriving DecidableEq, Repr

/-- The `except` clauses of `execute`. -/
def ToolFailure.ofFailure (failure : Failure) : ToolFailure :=
  match failure.kind with
  | .valueError => ⟨.invalidArguments, failure.message⟩
  | _ => ⟨.ioError, failure.message⟩

/-- A call of code that raises no `RepositoryToolError`. -/
def raised {α : Type} (run : Except Failure α) : Except ToolFailure α :=
  run.mapError ToolFailure.ofFailure

@[simp] theorem raised_eq_ok {α : Type} {run : Except Failure α} {a : α} :
    raised run = .ok a ↔ run = .ok a := by
  cases run <;> simp [raised, Except.mapError]

theorem raised_of_ok {α : Type} {run : Except Failure α} {a : α} (h : run = .ok a) :
    raised run = .ok a :=
  raised_eq_ok.2 h

/-- `_MAX_FILE_BYTES`. -/
def maxFileBytes : ℕ := 1000000

/-- `_MAX_READ_FILE_CHARS`. -/
def maxReadFileChars : ℕ := 12000

/-! ### Paths -/

/-- `text.strip("/")`. -/
def stripSlashes (text : String) : String :=
  String.ofList ((text.toList.dropWhile (· = '/')).rdropWhile (· = '/'))

/-- `_is_internal`. -/
def isInternal (relativePath : String) : Bool :=
  let normalized := stripSlashes (strip relativePath)
  normalized = ".git" ∨ ".git/".toList <+: normalized.toList

/-- `_can_read`. -/
def canRead (task : TaskContract) (relativePath : String) : Bool :=
  (task.readableFiles ++ task.writableFiles ++ task.readonlyFiles).any (scopeMatches relativePath)

/-- `_resolve_file_for_read`. -/
def resolveForRead (task : TaskContract) (tree : WorkingTree) (repositoryPath : String) :
    Except ToolFailure (String × RepoPath) := do
  let relative := strip repositoryPath
  Raising.raiseIf (isInternal relative = true)
    ⟨.pathDenied, "DevFlow repository tools never expose .git internals"⟩
  let path ← raised (resolvePath tree relative)
  Raising.raiseIf (canRead task relative = false)
    ⟨.pathDenied, "Read path is outside the task's visible scopes: " ++ relative⟩
  Raising.raiseIf (tree.bytesAt path = none) ⟨.notFound, "File does not exist: " ++ relative⟩
  return (relative, path)

/-- The value of a `ScopeViolationKind`. -/
def ScopeViolationKind.value : ScopeViolationKind → String
  | readOnly => "READ_ONLY"
  | outOfScope => "OUT_OF_SCOPE"

/-- The message of a denied write. -/
def writeDenied (result : ScopeCheckResult) (relative : String) : String :=
  match result.violations with
  | violation :: _ => "Write denied by " ++ violation.kind.value ++ ": " ++ relative
  | [] => ""

/-- `_resolve_for_write`. -/
def resolveForWrite (task : TaskContract) (tree : WorkingTree) (repositoryPath : String) :
    Except ToolFailure (String × RepoPath) := do
  let relative := strip repositoryPath
  Raising.raiseIf (isInternal relative = true)
    ⟨.pathDenied, "DevFlow repository tools never expose .git internals"⟩
  let path ← raised (resolvePath tree relative)
  let result ← raised (scopeCheck task [relative])
  Raising.raiseIf (result.passed = false) ⟨.pathDenied, writeDenied result relative⟩
  Raising.raiseIf (tree.lookup path = some .directory)
    ⟨.invalidArguments, "Write target is a directory: " ++ relative⟩
  return (relative, path)

/-- `_read_text_file`. -/
def readTextFile (tree : WorkingTree) (path : RepoPath) : Except ToolFailure (List Char) :=
  match tree.bytesAt path with
  | none => .error ⟨.ioError, "No such file or directory"⟩
  | some bytes => do
    Raising.raiseIf (maxFileBytes < bytes.length)
      ⟨.ioError, "file exceeds the V0.1 text-file size limit"⟩
    match Utf8.decode bytes with
    | none => .error ⟨.ioError, "file is not valid UTF-8 text"⟩
    | some text => return Lines.universalNewlines text

/-- The `path` field of the arguments: `Field(min_length=1, max_length=500)`. -/
def validatePath (path : String) : Except ToolFailure Unit :=
  Raising.raiseIf (path.length < 1 ∨ 500 < path.length)
    ⟨.invalidArguments, "path length is out of range"⟩

/-! ### The tools of one file -/

structure ReadFileArgs where
  path : String
  maxChars : ℕ := 8000
deriving DecidableEq, Repr

structure ReadFileResult where
  path : String
  content : String
  truncated : Bool
deriving DecidableEq, Repr

/-- `_read_file`. -/
def readFile (task : TaskContract) (tree : WorkingTree) (args : ReadFileArgs) :
    Except ToolFailure ReadFileResult := do
  validatePath args.path
  Raising.raiseIf (args.maxChars < 1 ∨ maxReadFileChars < args.maxChars)
    ⟨.invalidArguments, "max_chars is out of range"⟩
  let (relative, path) ← resolveForRead task tree args.path
  let text ← readTextFile tree path
  return ⟨relative, String.ofList (text.take args.maxChars), args.maxChars < text.length⟩

structure ReadFilesArgs where
  paths : List String
  maxCharsPerFile : ℕ := 4000
deriving DecidableEq, Repr

/-- `_read_files`. -/
def readFiles (task : TaskContract) (tree : WorkingTree) (args : ReadFilesArgs) :
    Except ToolFailure (List ReadFileResult) := do
  Raising.raiseIf (args.paths.length < 1 ∨ 4 < args.paths.length)
    ⟨.invalidArguments, "paths length is out of range"⟩
  Raising.raiseIf (args.maxCharsPerFile < 1 ∨ 8000 < args.maxCharsPerFile)
    ⟨.invalidArguments, "max_chars_per_file is out of range"⟩
  let normalized := args.paths.map strip
  Raising.raiseIf ("" ∈ normalized)
    ⟨.invalidArguments, "paths must not contain empty values"⟩
  Raising.raiseIf (¬normalized.Nodup)
    ⟨.invalidArguments, "paths must not contain duplicates"⟩
  normalized.mapM fun requestedPath => do
    let (relative, path) ← resolveForRead task tree requestedPath
    let text ← readTextFile tree path
    return ⟨relative, String.ofList (text.take args.maxCharsPerFile),
      args.maxCharsPerFile < text.length⟩

structure WriteFileArgs where
  path : String
  content : String
deriving DecidableEq, Repr

structure WriteFileResult where
  path : String
  bytes : ℕ
deriving DecidableEq, Repr

/-- `_write_file`, up to the first change of the file system. -/
def writeFilePlan (task : TaskContract) (tree : WorkingTree) (args : WriteFileArgs) :
    Except ToolFailure (String × RepoPath × List UInt8) := do
  validatePath args.path
  Raising.raiseIf (maxFileBytes < args.content.length)
    ⟨.invalidArguments, "content is too long"⟩
  let (relative, path) ← resolveForWrite task tree args.path
  let encoded := Utf8.encode args.content.toList
  Raising.raiseIf (maxFileBytes < encoded.length)
    ⟨.ioError, "file content exceeds the V0.1 text-file size limit"⟩
  return (relative, path, encoded)

/-- `_write_file`: the result of the call and the files after it. -/
def writeFile (task : TaskContract) (tree : WorkingTree) (args : WriteFileArgs) :
    Except ToolFailure WriteFileResult × WorkingTree :=
  match writeFilePlan task tree args with
  | .error failure => (.error failure, tree)
  | .ok (relative, path, encoded) =>
    match tree.makeDirectories path.dropLast with
    | .error failure => (.error (ToolFailure.ofFailure failure), tree)
    | .ok parents =>
      match parents.writeBytes path encoded with
      | .error failure => (.error (ToolFailure.ofFailure failure), parents)
      | .ok written => (.ok ⟨relative, encoded.length⟩, written)

structure ApplyPatchArgs where
  path : String
  oldText : String
  newText : String
deriving DecidableEq, Repr

structure ApplyPatchResult where
  path : String
  replacements : ℕ
deriving DecidableEq, Repr

/-- `_apply_patch`, up to the write. -/
def applyPatchPlan (task : TaskContract) (tree : WorkingTree) (args : ApplyPatchArgs) :
    Except ToolFailure (String × RepoPath × List UInt8) := do
  validatePath args.path
  Raising.raiseIf (args.oldText.length < 1 ∨ 200000 < args.oldText.length)
    ⟨.invalidArguments, "old_text length is out of range"⟩
  Raising.raiseIf (200000 < args.newText.length) ⟨.invalidArguments, "new_text is too long"⟩
  let (relative, path) ← resolveForWrite task tree args.path
  Raising.raiseIf (tree.bytesAt path = none)
    ⟨.notFound, "Patch target does not exist: " ++ relative⟩
  let text ← readTextFile tree path
  let occurrences := Substrings.count args.oldText.toList text
  Raising.raiseIf (occurrences = 0) ⟨.notFound, "old_text was not found in the patch target"⟩
  Raising.raiseIf (occurrences ≠ 1)
    ⟨.ambiguousPatch, "old_text must occur exactly once, found " ++ toString occurrences ++
      " occurrences"⟩
  let updated := Substrings.replaceFirst args.oldText.toList args.newText.toList text
  Raising.raiseIf (maxFileBytes < (Utf8.encode updated).length)
    ⟨.ioError, "patched file would exceed the V0.1 file-size limit"⟩
  return (relative, path, Utf8.encode updated)

/-- `_apply_patch`: the result of the call and the files after it. -/
def applyPatch (task : TaskContract) (tree : WorkingTree) (args : ApplyPatchArgs) :
    Except ToolFailure ApplyPatchResult × WorkingTree :=
  match applyPatchPlan task tree args with
  | .error failure => (.error failure, tree)
  | .ok (relative, path, encoded) =>
    match tree.writeBytes path encoded with
    | .error failure => (.error (ToolFailure.ofFailure failure), tree)
    | .ok written => (.ok ⟨relative, 1⟩, written)

/-! ### What is resolved -/

/-- A name in front is the first part. -/
theorem head?_posixParts {text : String} {name rest : List Char}
    (hname : name ≠ [] ∧ name ≠ ['.'] ∧ '/' ∉ name) (htext : text.toList = name ++ rest)
    (hrest : rest = [] ∨ rest.head? = some '/') :
    (posixParts text).head? = some (String.ofList name) := by
  obtain ⟨hne, hdot, hslash⟩ := hname
  have hkeep : ∀ l : List (List Char), (name :: l).filter (fun part => part ≠ [] ∧ part ≠ ['.']) =
      name :: l.filter fun part => part ≠ [] ∧ part ≠ ['.'] :=
    fun l => List.filter_cons_of_pos (decide_eq_true ⟨hne, hdot⟩)
  rw [posixParts, htext]
  rcases hrest with rfl | hrest
  · rw [List.append_nil, List.splitOn_eq_singleton hslash, hkeep]
    rfl
  · obtain ⟨tail, rfl⟩ : ∃ tail, rest = '/' :: tail := by
      cases rest with
      | nil => cases hrest
      | cons c tail => exact ⟨tail, by rw [Option.some.inj hrest]⟩
    rw [List.splitOn_append_cons_self_of_not_mem hslash, hkeep]
    rfl

/-- What is left of an internal path is `.git`, or starts with `.git/`. -/
theorem exists_of_isInternal {text : String} (hrelative : (strip text).toList.head? ≠ some '/')
    (h : isInternal (strip text) = true) :
    ∃ rest, (strip text).toList = ".git".toList ++ rest ∧ (rest = [] ∨ rest.head? = some '/') := by
  have hkeep : (strip text).toList.dropWhile (· = '/') = (strip text).toList := by
    rw [List.dropWhile_eq_self_iff]
    intro hpos hslash
    refine hrelative ?_
    rw [List.head?_eq_getElem?, List.getElem?_eq_getElem hpos, of_decide_eq_true hslash]
  have hsplit : (strip text).toList.rdropWhile (· = '/') ++
      (strip text).toList.rtakeWhile (· = '/') = (strip text).toList :=
    List.rdropWhile_append_rtakeWhile
  rw [isInternal, strip_strip, decide_eq_true_iff, stripSlashes, hkeep, String.toList_ofList,
    ← String.toList_inj, String.toList_ofList] at h
  rcases h with hcore | ⟨rest, hcore⟩
  · rw [hcore] at hsplit
    refine ⟨_, hsplit.symm, ?_⟩
    cases htail : (strip text).toList.rtakeWhile (· = '/') with
    | nil => exact Or.inl rfl
    | cons c tail =>
      have hslash : decide (c = '/') = true :=
        List.mem_rtakeWhile_imp (p := fun c => decide (c = '/')) (htail ▸ List.mem_cons_self)
      rw [of_decide_eq_true hslash]
      exact Or.inr rfl
  · rw [← hcore] at hsplit
    exact ⟨'/' :: rest ++ (strip text).toList.rtakeWhile (· = '/'), hsplit.symm, Or.inr rfl⟩

/-- A path in `.git` is spelled by no text. -/
theorem Spells.not_internal {text : String} {path : RepoPath} (h : Spells (strip text) path) :
    isInternal (strip text) = false := by
  by_contra hinternal
  obtain ⟨rest, htext, hrest⟩ := exists_of_isInternal h.relative (Bool.not_eq_false _ ▸ hinternal)
  refine h.notGit ?_
  rw [← h.parts, head?_posixParts (by decide) htext hrest, String.ofList_toList]

theorem Spells.normalize {text : String} {path : RepoPath} (h : Spells (strip text) path) :
    normalizeChangedPath (strip text) = .ok (strip text) := by
  simp only [normalizeChangedPath, strip_strip, Raising.bind_eq_ok, Raising.raiseIf_eq_ok,
    Raising.pure_eq_ok]
  refine ⟨⟨⟩, h.notEmpty, ⟨⟩, ?_, ⟨⟩, fun hdots => h.inside ?_, trivial⟩
  · rintro ((hroot | hback) | hback)
    · exact h.relative hroot
    · exact h.posix (List.mem_of_mem_head? hback)
    · exact h.posix hback
  · rw [← h.parts, posixParts, List.mem_map]
    exact ⟨['.', '.'], List.mem_filter.2 ⟨hdots, by decide⟩, rfl⟩

/-- The check of one path passes when the path is in scope. -/
theorem scopeCheck_singleton (task : TaskContract) {path : String}
    (h : normalizeChangedPath path = .ok path) :
    ∃ result, scopeCheck task [path] = .ok result ∧ (result.passed = true ↔ InScope task path) := by
  obtain ⟨result, hresult⟩ : ∃ result, scopeCheck task [path] = .ok result := by
    rw [scopeCheck, List.mapM_cons, h]
    exact ⟨_, rfl⟩
  refine ⟨result, hresult, ?_⟩
  simp only [passed_iff, mem_violations_scopeCheck hresult, List.mem_singleton, exists_eq_left, h,
    Except.ok.injEq, not_and, not_not, forall_eq']

/-- **What a write resolves to**: the path that the stripped argument spells, when the
argument itself is in scope. -/
theorem resolveForWrite_eq_ok {task : TaskContract} {tree : WorkingTree} {repositoryPath : String}
    {relative : String} {path : RepoPath} :
    resolveForWrite task tree repositoryPath = .ok (relative, path) ↔
      relative = strip repositoryPath ∧ Spells (strip repositoryPath) path ∧
        (∀ current ∈ path.inits, tree.lookup current ≠ some .symlink) ∧
        InScope task (strip repositoryPath) ∧ tree.lookup path ≠ some .directory := by
  simp only [resolveForWrite, Raising.bind_eq_ok, Raising.raiseIf_eq_ok, raised_eq_ok,
    Raising.pure_eq_ok, resolvePath_eq_ok, strip_strip, Prod.mk.injEq]
  constructor
  · rintro ⟨-, -, path, ⟨hspells, hlinks⟩, result, hcheck, -, hpassed, -, hdir, rfl, rfl⟩
    obtain ⟨result', hcheck', hiff⟩ := scopeCheck_singleton task hspells.normalize
    obtain rfl : result = result' := Except.ok.inj (hcheck.symm.trans hcheck')
    exact ⟨rfl, hspells, hlinks, hiff.1 (Bool.not_eq_false _ ▸ hpassed), hdir⟩
  · rintro ⟨rfl, hspells, hlinks, hscope, hdir⟩
    obtain ⟨result, hcheck, hiff⟩ := scopeCheck_singleton task hspells.normalize
    refine ⟨⟨⟩, ?_, path, ⟨hspells, hlinks⟩, result, hcheck, ⟨⟩, ?_, ⟨⟩, hdir, rfl, rfl⟩
    · rw [hspells.not_internal]
      exact Bool.false_ne_true
    · rw [hiff.2 hscope]
      exact Bool.noConfusion

/-- **What a read resolves to**: the file that the stripped argument spells, when the
argument itself is visible. -/
theorem resolveForRead_eq_ok {task : TaskContract} {tree : WorkingTree} {repositoryPath : String}
    {relative : String} {path : RepoPath} :
    resolveForRead task tree repositoryPath = .ok (relative, path) ↔
      relative = strip repositoryPath ∧ Spells (strip repositoryPath) path ∧
        (∀ current ∈ path.inits, tree.lookup current ≠ some .symlink) ∧
        canRead task (strip repositoryPath) = true ∧ tree.bytesAt path ≠ none := by
  simp only [resolveForRead, Raising.bind_eq_ok, Raising.raiseIf_eq_ok, raised_eq_ok,
    Raising.pure_eq_ok, resolvePath_eq_ok, strip_strip, Prod.mk.injEq]
  constructor
  · rintro ⟨-, -, path, ⟨hspells, hlinks⟩, -, hread, -, hfile, rfl, rfl⟩
    exact ⟨rfl, hspells, hlinks, Bool.not_eq_false _ ▸ hread, hfile⟩
  · rintro ⟨rfl, hspells, hlinks, hread, hfile⟩
    refine ⟨⟨⟩, ?_, path, ⟨hspells, hlinks⟩, ⟨⟩, ?_, ⟨⟩, hfile, rfl, rfl⟩
    · rw [hspells.not_internal]
      exact Bool.false_ne_true
    · rw [hread]
      exact Bool.noConfusion

/-- **What is read of a file**: its text with the line breaks of text mode. -/
theorem readTextFile_eq_ok {tree : WorkingTree} {path : RepoPath} {shown : List Char} :
    readTextFile tree path = .ok shown ↔
      ∃ text, tree.bytesAt path = some (Utf8.encode text) ∧
        (Utf8.encode text).length ≤ maxFileBytes ∧ Lines.universalNewlines text = shown := by
  rw [readTextFile]
  cases hbytes : tree.bytesAt path with
  | none => simp
  | some bytes =>
    simp only [Raising.bind_eq_ok, Raising.raiseIf_eq_ok, not_lt, Option.some.injEq]
    cases hdecode : Utf8.decode bytes with
    | none =>
      refine iff_of_false (by simp) ?_
      rintro ⟨text, rfl, -⟩
      rw [Utf8.decode_encode] at hdecode
      cases hdecode
    | some text =>
      rw [Utf8.decode_eq_some_iff] at hdecode
      subst hdecode
      simp only [Raising.pure_eq_ok]
      constructor
      · rintro ⟨-, hsize, rfl⟩
        exact ⟨text, rfl, hsize, rfl⟩
      · rintro ⟨text', hsame, hsize, rfl⟩
        obtain rfl := Utf8.encode_inj.1 hsame
        exact ⟨⟨⟩, hsize, rfl⟩

end DevFlow
