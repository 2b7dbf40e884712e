/-
# Task worktrees

`workspace/worktree.py` and of `workspace/git.py` the changed files: a worktree
is a commit that is checked out and the files on disk.  A fresh worktree has
the files of its commit, so a file counts as changed only against that commit,
whatever was done in earlier worktrees.
-/

import DevFlow.Workspace.Git
import Mathlib.Data.List.Dedup
import Mathlib.Data.List.Sort
import Mathlib.Data.String.Basic

namespace DevFlow

/-- The files of a commit or of a worktree, with their contents. -/
abbrev Tree := List (String × String)

/-- The paths at which two trees differ, sorted. -/
def changedPaths (old new : Tree) : List String :=
  (((old ++ new).map Prod.fst).dedup.filter fun path =>
    old.lookup path ≠ new.lookup path).insertionSort (· ≤ ·)

/-- A task worktree: the commit that is checked out, its files, and the files on
disk. -/
structure TaskWorkspace where
  head : String
  committed : Tree
  files : Tree
deriving DecidableEq, Repr

namespace TaskWorkspace

/-- `changed_files`: tracked and untracked paths relative to HEAD. -/
def changedFiles (workspace : TaskWorkspace) : List String :=
  changedPaths workspace.committed workspace.files

/-- The worktree that `create` makes at a commit. -/
def fresh (head : String) (tree : Tree) : TaskWorkspace :=
  ⟨head, tree, tree⟩

/-- Equal trees have no changed paths. -/
theorem changedFiles_of_unchanged {workspace : TaskWorkspace}
    (h : workspace.files = workspace.committed) : workspace.changedFiles = [] := by
  simp [changedFiles, changedPaths, h]

/-- `commit_task_changes`; `git` is what the checks of the registration and of the
branch and the commands after them answer: the id of the commit, or an error. -/
def commitTaskChanges (workspace : TaskWorkspace) (git : Except Failure String) :
    Except Failure String := do
  Raising.raiseIf (workspace.changedFiles = [])
    ⟨.taskWorktreeError, "successful task worktree has no changes to commit"⟩
  let commit ← git
  Raising.raiseIf (isFullOid commit = false)
    ⟨.taskWorktreeError, "Git did not return a full task commit id"⟩
  return commit

/-- A commit was made of something. -/
theorem commitTaskChanges_eq_ok {workspace : TaskWorkspace} {git : Except Failure String}
    {commit : String} (h : workspace.commitTaskChanges git = .ok commit) :
    workspace.changedFiles ≠ [] ∧ git = .ok commit := by
  simp only [commitTaskChanges, Raising.bind_eq_ok, Raising.raiseIf_eq_ok,
    Raising.pure_eq_ok] at h
  obtain ⟨_, hchanged, _, hgit, _, _, rfl⟩ := h
  exact ⟨hchanged, hgit⟩

end TaskWorkspace

end DevFlow
