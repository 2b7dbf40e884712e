/-
# The files below the root of a workspace

What the repository tools see of the file system: files with their bytes,
directories and symbolic links, each at its path from the root.  An entry stands
in a directory, so no path leads through a file or a link.

`resolve_path` of `workspace/git.py` takes one spelling of a path to the path it
names.  Doubled and trailing separators and `.` are gone in it, and `..`, links
and the internals of Git are refused (`resolvePath_eq_ok`).
-/

import DevFlow.Persistence.Rows
import DevFlow.Library.Raising
import Mathlib.Data.List.AList
import Mathlib.Data.List.Infix

namespace DevFlow

/-- A path from the root of the workspace, by its names. -/
abbrev RepoPath := List String

inductive Entry
  | file (bytes : List UInt8)
  | directory
  | symlink
deriving DecidableEq, Repr

/-- What stands at a path; the root is a directory. -/
def entryAt (entries : AList fun _ : RepoPath => Entry) (path : RepoPath) : Option Entry :=
  if path = [] then some .directory else entries.lookup path

/-- The files, directories and links below the root. -/
structure WorkingTree where
  entries : AList fun _ : RepoPath => Entry
  /-- An entry stands in a directory. -/
  closed : ∀ path ∈ entries, path ≠ [] ∧ entryAt entries path.dropLast = some .directory

namespace WorkingTree

variable {tree : WorkingTree} {path path' : RepoPath} {entry : Entry}

def lookup (tree : WorkingTree) (path : RepoPath) : Option Entry :=
  entryAt tree.entries path

@[simp] theorem lookup_root : tree.lookup [] = some .directory := by
  rw [lookup, entryAt, if_pos rfl]

theorem lookup_of_ne_nil (h : path ≠ []) : tree.lookup path = tree.entries.lookup path := by
  rw [lookup, entryAt, if_neg h]

/-- The workspace of a repository without files. -/
def empty : WorkingTree :=
  ⟨∅, fun _ h => absurd h (AList.notMem_empty _)⟩

/-- A file, a directory or a link is put into a directory; a directory stays one. -/
def insert (tree : WorkingTree) (path : RepoPath) (entry : Entry) (hne : path ≠ [])
    (hparent : tree.lookup path.dropLast = some .directory)
    (hkeep : tree.lookup path = some .directory → entry = .directory) : WorkingTree where
  entries := tree.entries.insert path entry
  closed := by
    have hdirectory : ∀ other, tree.lookup other = some .directory →
        entryAt (tree.entries.insert path entry) other = some .directory := by
      intro other hother
      by_cases hroot : other = []
      · exact if_pos hroot
      · rw [entryAt, if_neg hroot]
        by_cases hsame : other = path
        · subst hsame
          rw [AList.lookup_insert, hkeep hother]
        · rwa [AList.lookup_insert_ne hsame, ← lookup_of_ne_nil hroot]
    intro other hother
    rcases (AList.mem_insert _).1 hother with rfl | hother
    · exact ⟨hne, hdirectory _ hparent⟩
    · obtain ⟨hroot, hdir⟩ := tree.closed other hother
      exact ⟨hroot, hdirectory _ hdir⟩

section Insert

variable {hne : path ≠ []} {hparent : tree.lookup path.dropLast = some .directory}
  {hkeep : tree.lookup path = some .directory → entry = .directory}

@[simp] theorem lookup_insert_self :
    (tree.insert path entry hne hparent hkeep).lookup path = some entry := by
  rw [lookup_of_ne_nil hne]
  exact AList.lookup_insert _

theorem lookup_insert_of_ne (h : path' ≠ path) :
    (tree.insert path entry hne hparent hkeep).lookup path' = tree.lookup path' := by
  by_cases hroot : path' = []
  · rw [hroot, lookup_root, lookup_root]
  · rw [lookup_of_ne_nil hroot, lookup_of_ne_nil hroot]
    exact AList.lookup_insert_ne h

end Insert

/-- `os.mkdir`, where a directory that is there already is kept. -/
def makeDirectory (tree : WorkingTree) (path : RepoPath) : Except Failure WorkingTree :=
  match tree.lookup path with
  | some .directory => .ok tree
  | some _ => .error ⟨.operationalError, "File exists"⟩
  | none =>
    if h : path ≠ [] ∧ tree.lookup path.dropLast = some .directory then
      .ok (tree.insert path .directory h.1 h.2 fun _ => rfl)
    else .error ⟨.operationalError, "No such file or directory"⟩

/-- `path.mkdir(parents=True, exist_ok=True)`. -/
def makeDirectories (tree : WorkingTree) (path : RepoPath) : Except Failure WorkingTree :=
  path.inits.foldlM makeDirectory tree

/-- `path.write_bytes`: an existing file is replaced. -/
def writeBytes (tree : WorkingTree) (path : RepoPath) (bytes : List UInt8) :
    Except Failure WorkingTree :=
  if hdir : tree.lookup path = some .directory then .error ⟨.operationalError, "Is a directory"⟩
  else if h : path ≠ [] ∧ tree.lookup path.dropLast = some .directory then
    .ok (tree.insert path (.file bytes) h.1 h.2 fun hdir' => absurd hdir' hdir)
  else .error ⟨.operationalError, "No such file or directory"⟩

/-- The bytes of a file; `none` where no file stands. -/
def bytesAt (tree : WorkingTree) (path : RepoPath) : Option (List UInt8) :=
  match tree.lookup path with
  | some (.file bytes) => some bytes
  | _ => none

theorem bytesAt_eq_some_iff {bytes : List UInt8} :
    tree.bytesAt path = some bytes ↔ tree.lookup path = some (.file bytes) := by
  rw [bytesAt]
  split <;> simp_all

theorem makeDirectory_of_directory (h : tree.lookup path = some .directory) :
    tree.makeDirectory path = .ok tree := by
  rw [makeDirectory]
  split <;> simp_all

/-- **A new directory changes no file.** -/
theorem bytesAt_makeDirectory {tree' : WorkingTree} (h : tree.makeDirectory path = .ok tree')
    (other : RepoPath) : tree'.bytesAt other = tree.bytesAt other := by
  rw [makeDirectory] at h
  split at h
  · rw [Except.ok.inj h]
  · cases h
  · rename_i hnone
    split_ifs at h with hplace
    rw [← Except.ok.inj h, bytesAt, bytesAt]
    by_cases hsame : other = path
    · rw [hsame, lookup_insert_self, hnone]
    · rw [lookup_insert_of_ne hsame]

theorem bytesAt_makeDirectories {tree' : WorkingTree} (h : tree.makeDirectories path = .ok tree')
    (other : RepoPath) : tree'.bytesAt other = tree.bytesAt other :=
  Raising.foldlM_invariant (P := fun state => state.bytesAt other = tree.bytesAt other)
    (fun _ _ _ hkeep hstep => (bytesAt_makeDirectory hstep other).trans hkeep) rfl h

/-- **A write changes the file at its path and no other.** -/
theorem bytesAt_writeBytes {tree' : WorkingTree} {bytes : List UInt8}
    (h : tree.writeBytes path bytes = .ok tree') :
    tree'.bytesAt path = some bytes ∧
      ∀ other, other ≠ path → tree'.bytesAt other = tree.bytesAt other := by
  rw [writeBytes] at h
  split_ifs at h with hdir hplace
  rw [← Except.ok.inj h]
  refine ⟨bytesAt_eq_some_iff.2 lookup_insert_self, fun other hother => ?_⟩
  rw [bytesAt, bytesAt, lookup_insert_of_ne hother]

end WorkingTree

namespace WorkingTree

/-- A workspace with one file, below its root. -/
def ofFile (name : String) (bytes : List UInt8) : WorkingTree :=
  empty.insert [name] (.file bytes) (List.cons_ne_nil _ _)
    (by rw [List.dropLast_singleton]; exact lookup_root) fun h => by
      rw [lookup_of_ne_nil (List.cons_ne_nil _ _)] at h
      exact absurd ((AList.lookup_empty [name]).symm.trans h) nofun

theorem bytesAt_ofFile (name : String) (bytes : List UInt8) :
    (ofFile name bytes).bytesAt [name] = some bytes :=
  bytesAt_eq_some_iff.2 lookup_insert_self

theorem ofFile_not_symlink (name : String) (bytes : List UInt8) (path : RepoPath) :
    (ofFile name bytes).lookup path ≠ some .symlink := by
  rw [ofFile]
  by_cases hsame : path = [name]
  · rw [hsame, lookup_insert_self]
    exact nofun
  · rw [lookup_insert_of_ne hsame]
    by_cases hroot : path = []
    · rw [hroot, lookup_root]
      exact nofun
    · rw [lookup_of_ne_nil hroot]
      exact fun h => absurd ((AList.lookup_empty path).symm.trans h) nofun

end WorkingTree

/-! ### The path that a spelling names -/

/-- `PurePosixPath(text).parts`, of a relative path. -/
def posixParts (text : String) : List String :=
  ((text.toList.splitOn '/').filter fun part => part ≠ [] ∧ part ≠ ['.']).map String.ofList

/-- `as_posix`. -/
def asPosix (path : RepoPath) : String :=
  "/".intercalate path

/-- `resolve_path`. -/
def resolvePath (tree : WorkingTree) (repositoryPath : String) : Except Failure RepoPath := do
  let normalized := strip repositoryPath
  Raising.raiseIf (normalized = "") ⟨.valueError, "repository path must not be empty"⟩
  Raising.raiseIf ('\\' ∈ normalized.toList)
    ⟨.valueError, "repository path must use POSIX-style '/' separators"⟩
  Raising.raiseIf (normalized.toList.tail.head? = some ':')
    ⟨.valueError, "repository path must not contain a Windows drive prefix"⟩
  Raising.raiseIf (normalized.toList.head? = some '/')
    ⟨.valueError, "repository path must be relative"⟩
  let parts := posixParts normalized
  Raising.raiseIf (normalized = "." ∨ ".." ∈ parts)
    ⟨.valueError, "repository path must remain inside the workspace"⟩
  Raising.raiseIf (parts.head? = some ".git")
    ⟨.valueError, "repository path must not access .git internals"⟩
  Raising.raiseIf (∃ current ∈ parts.inits, tree.lookup current = some .symlink)
    ⟨.valueError, "repository path resolves outside the trusted path boundary or traverses " ++
      "symbolic links"⟩
  -- `resolve(strict=False)` passes the path to the operating system
  Raising.raiseIf ('\x00' ∈ normalized.toList) ⟨.valueError, "embedded null byte"⟩
  return parts

/-- A stripped text spells a path: it is relative, in POSIX style, and leads neither out
of the workspace nor into `.git`. -/
structure Spells (text : String) (path : RepoPath) : Prop where
  notEmpty : text ≠ ""
  posix : '\\' ∉ text.toList
  noDrive : text.toList.tail.head? ≠ some ':'
  relative : text.toList.head? ≠ some '/'
  notRoot : text ≠ "."
  parts : posixParts text = path
  inside : ".." ∉ path
  notGit : path.head? ≠ some ".git"
  noNul : '\x00' ∉ text.toList

/-- **What `resolve_path` returns** is the path that the stripped text spells, when it
leads through no link. -/
theorem resolvePath_eq_ok {tree : WorkingTree} {repositoryPath : String} {path : RepoPath} :
    resolvePath tree repositoryPath = .ok path ↔
      Spells (strip repositoryPath) path ∧
        ∀ current ∈ path.inits, tree.lookup current ≠ some .symlink := by
  simp only [resolvePath, Raising.bind_eq_ok, Raising.raiseIf_eq_ok, Raising.pure_eq_ok]
  constructor
  · rintro ⟨-, hempty, -, hposix, -, hdrive, -, hrelative, -, hinside, -, hgit, -, hlinks, -, hnul,
      hparts⟩
    rw [hparts] at hinside hgit hlinks
    exact ⟨⟨hempty, hposix, hdrive, hrelative, fun h => hinside (Or.inl h), hparts,
      fun h => hinside (Or.inr h), hgit, hnul⟩, fun current hcurrent hlink =>
        hlinks ⟨current, hcurrent, hlink⟩⟩
  · rintro ⟨⟨hempty, hposix, hdrive, hrelative, hroot, hparts, hinside, hgit, hnul⟩, hlinks⟩
    rw [hparts]
    refine ⟨⟨⟩, hempty, ⟨⟩, hposix, ⟨⟩, hdrive, ⟨⟩, hrelative, ⟨⟩, ?_, ⟨⟩, hgit, ⟨⟩, ?_, ⟨⟩, hnul, rfl⟩
    · rintro (h | h)
      · exact hroot h
      · exact hinside h
    · rintro ⟨current, hcurrent, hlink⟩
      exact hlinks current hcurrent hlink

namespace WorkingTree

variable {tree : WorkingTree} {path : RepoPath}

/-- **A path to an entry leads through directories.** -/
theorem lookup_of_prefix {front back : RepoPath} (hback : back ≠ [])
    (h : tree.lookup (front ++ back) ≠ none) : tree.lookup front = some .directory := by
  induction back using List.reverseRecOn generalizing front with
  | nil => exact absurd rfl hback
  | append_singleton back name ih =>
    have hne : front ++ (back ++ [name]) ≠ [] := by simp
    rw [lookup_of_ne_nil hne, ne_eq, AList.lookup_eq_none, not_not] at h
    have hparent := (tree.closed _ h).2
    rw [← List.append_assoc, List.dropLast_concat] at hparent
    by_cases hnil : back = []
    · rw [hnil, List.append_nil] at hparent
      exact hparent
    · refine ih hnil ?_
      rw [lookup, hparent]
      exact Option.some_ne_none _

theorem directory_of_mem_inits {current : RepoPath} (h : tree.lookup path ≠ none)
    (hcurrent : current ∈ path.inits) (hne : current ≠ path) :
    tree.lookup current = some .directory := by
  obtain ⟨back, rfl⟩ := (List.mem_inits _ _).1 hcurrent
  refine lookup_of_prefix (fun hnil => hne ?_) h
  rw [hnil, List.append_nil]

/-- The directories of an entry are there. -/
theorem makeDirectories_dropLast (h : tree.lookup path ≠ none) :
    tree.makeDirectories path.dropLast = .ok tree := by
  have hall : ∀ current ∈ path.dropLast.inits, tree.lookup current = some .directory := by
    intro current hcurrent
    rcases List.eq_nil_or_concat path with rfl | ⟨front, name, rfl⟩
    · rw [List.eq_nil_of_prefix_nil ((List.mem_inits _ _).1 hcurrent)]
      exact lookup_root
    · rw [List.concat_eq_append, List.dropLast_concat, List.mem_inits] at hcurrent
      rw [List.concat_eq_append] at h
      refine directory_of_mem_inits h ((List.mem_inits _ _).2 (hcurrent.trans (List.prefix_append _ _))) ?_
      intro heq
      have hlength := hcurrent.length_le
      rw [heq, List.length_append, List.length_singleton] at hlength
      omega
  rw [makeDirectories]
  generalize path.dropLast.inits = steps at hall
  induction steps with
  | nil => rfl
  | cons current steps ih =>
    rw [List.foldlM_cons, makeDirectory_of_directory (hall current List.mem_cons_self)]
    exact ih fun other hother => hall other (List.mem_cons_of_mem _ hother)

/-- An existing file can be written. -/
theorem exists_writeBytes {bytes : List UInt8} (bytes' : List UInt8)
    (h : tree.bytesAt path = some bytes) : ∃ tree', tree.writeBytes path bytes' = .ok tree' := by
  rw [bytesAt_eq_some_iff] at h
  have hne : path ≠ [] := by
    rintro rfl
    rw [lookup_root] at h
    cases h
  have hmem : path ∈ tree.entries := by
    rw [lookup_of_ne_nil hne] at h
    exact AList.lookup_isSome.1 (h ▸ rfl)
  rw [writeBytes, dif_neg (by rw [h]; exact nofun), dif_pos ⟨hne, (tree.closed path hmem).2⟩]
  exact ⟨_, rfl⟩

/-- A workspace with one directory and those it stands in. -/
theorem exists_directory (path : RepoPath) : ∃ tree : WorkingTree,
    tree.lookup path = some .directory ∧
      ∀ other, tree.lookup other ≠ none → other <+: path ∧ tree.lookup other = some .directory := by
  induction path using List.reverseRecOn with
  | nil =>
    refine ⟨empty, lookup_root, fun other hother => ?_⟩
    by_cases hroot : other = []
    · rw [hroot]
      exact ⟨List.nil_prefix, lookup_root⟩
    · rw [lookup_of_ne_nil hroot] at hother
      exact absurd (AList.lookup_empty other) hother
  | append_singleton front name ih =>
    obtain ⟨tree, hfront, hall⟩ := ih
    refine ⟨tree.insert (front ++ [name]) .directory (by simp)
      (by rw [List.dropLast_concat, hfront]) fun _ => rfl, lookup_insert_self, fun other hother => ?_⟩
    by_cases hsame : other = front ++ [name]
    · rw [hsame]
      exact ⟨List.prefix_rfl, lookup_insert_self⟩
    · rw [lookup_insert_of_ne hsame] at hother ⊢
      obtain ⟨hfirst, hdirectory⟩ := hall other hother
      exact ⟨hfirst.trans (List.prefix_append _ _), hdirectory⟩

/-- A workspace with one file and no links. -/
theorem exists_file (hne : path ≠ []) (bytes : List UInt8) :
    ∃ tree : WorkingTree, tree.bytesAt path = some bytes ∧
      ∀ current, tree.lookup current ≠ some .symlink := by
  obtain ⟨tree, hparent, hall⟩ := exists_directory path.dropLast
  have hfree : tree.lookup path ≠ some .directory := by
    intro hdir
    have hlength := (hall path (by rw [hdir]; exact Option.some_ne_none _)).1.length_le
    rw [List.length_dropLast] at hlength
    have hpos := List.length_pos_of_ne_nil hne
    omega
  refine ⟨tree.insert path (.file bytes) hne hparent fun hdir => absurd hdir hfree,
    bytesAt_eq_some_iff.2 lookup_insert_self, fun current hlink => ?_⟩
  by_cases hsame : current = path
  · rw [hsame, lookup_insert_self] at hlink
    cases hlink
  · rw [lookup_insert_of_ne hsame] at hlink
    have hdir := (hall current (by rw [hlink]; exact Option.some_ne_none _)).2
    rw [hlink] at hdir
    cases hdir

end WorkingTree

end DevFlow
