/-
# Managed repositories and their remote

Of `workspace/provision.py` the operations `provision` and `synchronize`, and of
`workspace/worktree.py` the checks of a frozen base and of the base of a task.  A
clone takes the commit of the remote branch as HEAD, a remote without a HEAD gets a
first commit of its own, and a synchronization fetches and leaves HEAD where it is.
The remote may be pushed to in any way: its branch may be moved forward, rewritten
or deleted, and `objects` are the commits that exist in the remote or in the
managed repository.  The checks of the directory, of the origin and of the branch
name are taken as passed.
-/

import DevFlow.Library.Runs
import DevFlow.Workspace.Ancestry

namespace DevFlow

/-- A managed repository and its HEAD. -/
structure ManagedWorkspace where
  git : GitRepository
  head : String

/-- A project: the commits that exist, what `ls-remote` shows of HEAD and of the default
branch, and the managed repository once it is provisioned. -/
structure RemoteProject where
  objects : List GitCommit
  remoteHead : Option String
  branch : Option String
  workspace : Option ManagedWorkspace

/-- `provision`, with the commit that an empty workspace starts from and the repository
that `git clone` makes. -/
def RemoteProject.provision (p : RemoteProject) (bootstrap : GitCommit) (cloned : GitRepository) :
    Except Failure RemoteProject :=
  match p.workspace with
  | some _ => return p
  | none =>
    match p.remoteHead with
    | none => return { p with
        objects := bootstrap :: p.objects
        workspace := some ⟨⟨[bootstrap], fun _ => none⟩, bootstrap.oid⟩ }
    | some _ =>
      match p.branch with
      | none => throw ⟨.runtimeError, "Git operation failed during project provisioning"⟩
      | some tip => return { p with workspace := some ⟨cloned, tip⟩ }

/-- `synchronize`, with the repository that `git fetch` leaves. -/
def RemoteProject.synchronize (p : RemoteProject) (fetched : GitRepository) :
    Except Failure (String × RemoteProject) :=
  match p.workspace with
  | none => throw ⟨.runtimeError, "managed project directory is missing or unsafe"⟩
  | some workspace =>
    match p.branch with
    | none => return (workspace.head, p)
    | some commit => do
      Raising.raiseIf (isOid commit = false)
        ⟨.runtimeError, "remote branch did not resolve to a valid commit"⟩
      return (commit, { p with workspace := some { workspace with git := fetched } })

/-- `git rev-parse --verify oid^{commit}`: hexadecimal digits of either case name the
commit. -/
def GitRepository.revParse (git : GitRepository) (oid : String) : Option String :=
  (git.commit? (String.ofList (oid.toList.map Char.toLower))).map GitCommit.oid

/-- `_freeze_base_commit`. -/
def freezeBaseCommit (git : GitRepository) (currentHead : String) (requested : Option String) :
    Except Failure String :=
  match requested with
  | none => return currentHead
  | some requested => do
    Raising.raiseIf (isFullOid requested = false)
      ⟨.valueError, "frozen base commit must be a full 40-64 character hexadecimal id"⟩
    match git.revParse requested with
    | none => throw ⟨.taskWorktreeError, "frozen base commit does not exist in the repository"⟩
    | some canonical =>
      if git.isAncestor canonical currentHead then return canonical
      else if git.isAncestor currentHead canonical then return canonical
      else throw ⟨.taskWorktreeError,
        "frozen base commit must remain on the managed repository HEAD ancestry"⟩

/-- `_resolve_task_base`. -/
def resolveTaskBase (git : GitRepository) (baseCommit : String) (requested : Option String) :
    Except Failure String :=
  match requested with
  | none => return baseCommit
  | some requested => do
    Raising.raiseIf (isFullOid requested = false)
      ⟨.valueError, "task base commit must be a full 40-64 character hexadecimal id"⟩
    match git.revParse requested with
    | none =>
      throw ⟨.taskWorktreeError, "requested task base commit does not exist in the repository"⟩
    | some canonical =>
      if git.isAncestor baseCommit canonical then return canonical
      else throw ⟨.taskWorktreeError,
        "requested task base commit must descend from the frozen run base"⟩

/-! ### Containment in a part of the objects -/

/-- The parents of a commit are among the commits. -/
theorem Ordered.parent_mem {commits : List GitCommit} (h : Ordered commits) {c : GitCommit}
    (hc : c ∈ commits) {a : String} (hp : a ∈ c.parents) : a ∈ commits.map GitCommit.oid := by
  induction commits with
  | nil => cases hc
  | cons first older ih =>
    rw [List.map_cons]
    rcases List.mem_cons.1 hc with rfl | hold
    · exact List.mem_cons_of_mem _ (h.2.1 a hp)
    · exact List.mem_cons_of_mem _ (ih h.2.2 hold)

/-- **A repository knows all that its commits contain.** -/
theorem Contains.of_subset {commits objects : List GitCommit} {a b : String}
    (hcommits : Ordered commits) (hobjects : Ordered objects) (hsub : commits ⊆ objects)
    (ha : a ∈ commits.map GitCommit.oid) (h : Contains objects a b) : Contains commits a b := by
  have hboth : Contains commits a b ∧ b ∈ commits.map GitCommit.oid := by
    induction h with
    | refl => exact ⟨Contains.refl commits a, ha⟩
    | tail _ hparent ih =>
      obtain ⟨c, hc, rfl, hp⟩ := hparent
      obtain ⟨c', hc', hoid⟩ := List.mem_map.1 ih.2
      obtain rfl := hobjects.eq_of_oid (hsub hc') hc hoid
      exact ⟨ih.1.trans (Contains.of_parent hc' hp), hcommits.parent_mem hc' hp⟩
  exact hboth.1

end DevFlow
