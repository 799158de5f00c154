import LineageTX.Worktrees

/-! Repositories with their linked worktrees as Git shows and changes them, and what an
abort of one candidate does to them if any of its commands may fail. -/
namespace LineageTX
open Library
variable (py : Python)

/-- A worktree of a repository, with the branch that it has checked out. -/
structure LinkedWorktree where
  path : String
  branch : Option String

/-- The tips of all references, what HEAD and the status show, and every worktree. -/
structure GitRepo where
  refs : String → Option String
  head : String
  status : String
  worktrees : List LinkedWorktree

/-- The repositories by path, the history of their commits, and the file system. -/
structure GitHost where
  repo : String → GitRepo
  reaches : (descendant ancestor : String) → Prop
  resolve : String → String
  isPresent : String → Bool

/-- A local or remote-tracking branch. -/
def isBranchRef (ref : String) : Bool := startsWith ref "refs/heads/" || startsWith ref "refs/remotes/"

/-- A name with no sign that a revision expression uses. -/
def isPlainRef (ref : String) : Bool := ref.toList.all fun c => c.isAlphanum || "/._-".toList.contains c

/-- One entry of `git worktree list --porcelain`; the lines before the branch tell of the
commit, those after it of locks. -/
def WorktreeEntry (w : LinkedWorktree) (entry : List String) : Prop :=
  ∃ before after : List String, (∀ line ∈ before ++ after,
      startsWith line "worktree " = false ∧ startsWith line "branch " = false ∧ line ≠ "") ∧
    entry = ("worktree " ++ w.path) :: before ++ (w.branch.map ("branch " ++ ·)).toList ++ after ++ [""]

/-- What the commands that only ask are answered. -/
structure GitRepo.Tells (r : GitRepo) (reaches : String → String → Prop) (args : List String)
    (out : Completed) : Prop where
  tip : ∀ ref sha, args = ["rev-parse", "--verify", ref] → r.refs ref = some sha →
    out.returncode = 0 ∧ strip out.stdout = sha
  noTip : ∀ ref, args = ["rev-parse", "--verify", ref] → r.refs ref = none →
    isPlainRef ref = true → out.returncode ≠ 0
  head : args = ["rev-parse", "HEAD"] → out.returncode = 0 ∧ strip out.stdout = r.head
  status : args = statusArgs → out.returncode = 0 ∧ out.stdout = r.status
  containing : ∀ sha, args = ["for-each-ref", "--contains=" ++ sha, "--format=%(refname)",
      "refs/heads", "refs/remotes"] → out.returncode = 0 ∧
    ∀ ref, ref ≠ "" → (ref ∈ lines out.stdout ↔
      isBranchRef ref = true ∧ ∃ tip, r.refs ref = some tip ∧ reaches tip sha)
  ancestor : ∀ sha head, args = ["merge-base", "--is-ancestor", sha, head] →
    (out.returncode = 0 ↔ reaches head sha)
  listed : args = ["worktree", "list", "--porcelain"] → out.returncode = 0 ∧
    ∃ entries, List.Forall₂ WorktreeEntry r.worktrees entries ∧ lines out.stdout ++ [""] =
      entries.flatten ++ [""]

/-- The commands that change nothing. -/
def Asks (args : List String) : Prop :=
  args.head? ∈ [some "rev-parse", some "for-each-ref", some "merge-base", some "status",
    some "config", some "show-ref", some "symbolic-ref", some "rev-list", some "diff"] ∨
  args.take 2 = ["worktree", "list"]

/-- What a host is when some of its worktrees and branches have gone. -/
structure GitHost.Shrinks (h h' : GitHost) : Prop where
  reaches : h'.reaches = h.reaches
  resolve : h'.resolve = h.resolve
  isPresent : ∀ p, h'.isPresent p = true → h.isPresent p = true
  head : ∀ r, (h'.repo r).head = (h.repo r).head
  status : ∀ r, (h'.repo r).status = (h.repo r).status
  refs : ∀ r ref tip, (h'.repo r).refs ref = some tip → (h.repo r).refs ref = some tip
  worktrees : ∀ r, ∀ w ∈ (h'.repo r).worktrees, w ∈ (h.repo r).worktrees

def GitRepo.withoutRef (r : GitRepo) (ref : String) : GitRepo :=
  { r with refs := Function.update r.refs ref none }

def GitHost.withoutRef (h : GitHost) (repo ref : String) : GitHost :=
  { h with repo := Function.update h.repo repo ((h.repo repo).withoutRef ref) }

/-- `git worktree remove`; one that fails may leave the directory or the entry behind. -/
structure GitHost.Removal (h : GitHost) (repo path : String) (reply : Result Completed)
    (h' : GitHost) : Prop where
  shrinks : h.Shrinks h'
  refs : ∀ r, (h'.repo r).refs = (h.repo r).refs
  complete : ∀ out, reply = .ok out → out.returncode = 0 → h'.isPresent path = false ∧
    ∀ w ∈ (h'.repo repo).worktrees, h.resolve w.path ≠ h.resolve path

/-- A branch that a worktree has checked out is not deleted. -/
structure GitHost.Drops (h : GitHost) (repo branch : String) (h' : GitHost) : Prop where
  there : (h.repo repo).refs (branchRef branch) ≠ none
  free : ∀ w ∈ (h.repo repo).worktrees, w.branch ≠ some (branchRef branch)
  eq : h' = h.withoutRef repo (branchRef branch)

/-- `git branch -D`; a command that was cut off may have had its effect. -/
def GitHost.Deletion (h : GitHost) (repo branch : String) (reply : Result Completed)
    (h' : GitHost) : Prop :=
  match reply with
  | .ok out => if out.returncode = 0 then h.Drops repo branch h' else h' = h
  | .error _ => h' = h ∨ h.Drops repo branch h'

/-- The command ended with a zero return code. -/
def Succeeds (reply : Result Completed) : Prop := ∃ out, reply = .ok out ∧ out.returncode = 0

/-- A command, which fails only where faults are possible. -/
structure GitHost.Answers (faults : Prop) (h : GitHost) (repo : String) (args : List String)
    (reply : Result Completed) (h' : GitHost) : Prop where
  told : Told faults ((h.repo repo).Tells h.reaches args) reply
  same : Asks args → h' = h
  removal : ∀ path, args = ["worktree", "remove", "--force", path] → h.Removal repo path reply h' ∧
    (faults ∨ Succeeds reply)
  deletion : ∀ branch, args = ["branch", "-D", branch] → h.Deletion repo branch reply h' ∧
    (faults ∨ Succeeds reply)

/-- The answers of a host. -/
def GitHost.Serves (faults : Prop) (h : GitHost) :
    (c : GitCall) → Result c.Reply → GitHost → Prop
  | .git repo args, reply, h' => h.Answers faults repo args reply h'
  | .resolve path, reply, h' => Told faults (· = h.resolve path) reply ∧ h' = h
  | .isPresent path, reply, h' => Told faults (· = h.isPresent path) reply ∧ h' = h
  | .makeDirectories _, reply, h' => Told faults (fun _ => True) reply ∧ h' = h

/-- A commit of the base repository that another branch than the candidate's, or HEAD, has. -/
def GitHost.Reachable (h : GitHost) (session : RepositorySession) (sha : String) : Prop :=
  let repo := h.repo session.baseRepo
  h.reaches repo.head sha ∨ ∃ ref tip, isBranchRef ref = true ∧ ref ≠ branchRef session.branch ∧
    repo.refs ref = some tip ∧ h.reaches tip sha

/-- The tip of the candidate is not its base, and is reachable from elsewhere. -/
def GitHost.Merged (h : GitHost) (session : RepositorySession) : Prop :=
  ∃ tip, (h.repo session.baseRepo).refs (branchRef session.branch) = some tip ∧
    tip ≠ session.baseSha ∧ h.Reachable session tip

/-- Neither the branch nor the worktree of the candidate is there. -/
structure GitHost.Gone (h : GitHost) (session : RepositorySession) : Prop where
  branch : (h.repo session.baseRepo).refs (branchRef session.branch) = none
  worktree : h.isPresent session.worktree = false
  entry : ∀ w ∈ (h.repo session.baseRepo).worktrees, w.branch ≠ some (branchRef session.branch)

/-- What an abort of the candidate may do: at most its branch goes, with its worktree gone
before it, and only if it is not merged. -/
structure GitHost.Erases (h : GitHost) (session : RepositorySession) (h' : GitHost) : Prop where
  shrinks : h.Shrinks h'
  refs : ∀ r ref, (h'.repo r).refs ref = (h.repo r).refs ref ∨
    r = session.baseRepo ∧ ref = branchRef session.branch ∧ ¬h.Merged session ∧ h'.Gone session

/-- A candidate that its manager can clean up: its own, its worktree at its own branch,
its base as it was pinned. -/
structure GitHost.Cleanable (m : WorktreeManager) (h : GitHost) (session : RepositorySession) :
    Prop where
  plain : isPlainRef (branchRef session.branch) = true
  named : startsWith session.branch WorktreeManager.branchPrefix = true
  inside : isRelativeTo (h.resolve session.worktree) m.root = true
  apart : h.resolve session.baseRepo ≠ h.resolve session.worktree
  entry : ∀ w ∈ (h.repo session.baseRepo).worktrees,
    h.resolve w.path = h.resolve session.worktree → ∀ ref ∈ w.branch, ref = branchRef session.branch
  head : (h.repo session.baseRepo).head = session.baseSha
  status : (h.repo session.baseRepo).status = session.baseStatus
  whole : (h.repo session.baseRepo).refs (branchRef session.branch) = none → h.Gone session

theorem GitHost.Shrinks.refl (h : GitHost) : h.Shrinks h :=
  ⟨rfl, rfl, fun _ hp => hp, fun _ => rfl, fun _ => rfl, fun _ _ _ ht => ht, fun _ _ hw => hw⟩

theorem GitHost.Shrinks.trans {h h₁ h₂ : GitHost} (h₁₂ : h.Shrinks h₁) (h₂₃ : h₁.Shrinks h₂) :
    h.Shrinks h₂ where
  reaches := h₂₃.reaches.trans h₁₂.reaches
  resolve := h₂₃.resolve.trans h₁₂.resolve
  isPresent p hp := h₁₂.isPresent p (h₂₃.isPresent p hp)
  head r := (h₂₃.head r).trans (h₁₂.head r)
  status r := (h₂₃.status r).trans (h₁₂.status r)
  refs r ref tip ht := h₁₂.refs r ref tip (h₂₃.refs r ref tip ht)
  worktrees r w hw := h₁₂.worktrees r w (h₂₃.worktrees r w hw)

theorem GitHost.withoutRef_repo (h : GitHost) (repo ref r : String) :
    (h.withoutRef repo ref).repo r = if r = repo then (h.repo repo).withoutRef ref else h.repo r := by
  simp [withoutRef, Function.update_apply]

theorem GitRepo.withoutRef_refs (r : GitRepo) (ref ref' : String) :
    (r.withoutRef ref).refs ref' = if ref' = ref then none else r.refs ref' := by
  simp [withoutRef, Function.update_apply]

theorem GitHost.shrinks_withoutRef (h : GitHost) (repo ref : String) :
    h.Shrinks (h.withoutRef repo ref) := by
  refine ⟨rfl, rfl, fun _ hp => hp, fun r => ?_, fun r => ?_, fun r ref' tip ht => ?_, fun r w hw => ?_⟩
  · rw [withoutRef_repo]
    split
    · next hr => rw [hr]; rfl
    · rfl
  · rw [withoutRef_repo]
    split
    · next hr => rw [hr]; rfl
    · rfl
  · rw [withoutRef_repo] at ht
    split at ht
    · next hr =>
      rw [GitRepo.withoutRef_refs] at ht
      split at ht
      · cases ht
      · rw [hr]
        exact ht
    · exact ht
  · rw [withoutRef_repo] at hw
    split at hw
    · next hr =>
      rw [hr]
      exact hw
    · exact hw

theorem GitHost.Shrinks.erases {h h' : GitHost} {session : RepositorySession} (hs : h.Shrinks h')
    (hrefs : ∀ repo, (h'.repo repo).refs = (h.repo repo).refs) : h.Erases session h' :=
  ⟨hs, fun r ref => .inl (by rw [hrefs])⟩

namespace GitHost
variable {h h' : GitHost} {session t : RepositorySession} {m : WorktreeManager}

theorem Gone.shrinks (hg : h.Gone t) (hs : h.Shrinks h') : h'.Gone t := by
  refine ⟨?_, ?_, fun w hw => hg.entry w (hs.worktrees _ w hw)⟩
  · cases href : (h'.repo t.baseRepo).refs (branchRef t.branch) with
    | none => rfl
    | some tip => exact absurd (hs.refs _ _ _ href) (by simp [hg.branch])
  · refine Bool.eq_false_iff.mpr fun hp => ?_
    have := hs.isPresent _ hp
    simp [hg.worktree] at this

/-- What goes does not make another candidate reachable from elsewhere. -/
theorem Merged.of_shrinks (hm : h'.Merged t) (hs : h.Shrinks h') : h.Merged t := by
  obtain ⟨tip, htip, hne, hreach⟩ := hm
  refine ⟨tip, hs.refs _ _ _ htip, hne, ?_⟩
  rw [Reachable, hs.reaches, hs.head] at hreach
  refine hreach.imp id fun ⟨ref, tip', hbranch, hother, htip', hr⟩ => ?_
  exact ⟨ref, tip', hbranch, hother, hs.refs _ _ _ htip', hr⟩

/-- The abort of one candidate leaves the others as they can be cleaned up. -/
theorem Cleanable.erases (hc : h.Cleanable m t) (he : h.Erases session h')
    (hsame : t.branch = session.branch → t.worktree = session.worktree) : h'.Cleanable m t := by
  have hs := he.shrinks
  refine ⟨hc.plain, hc.named, ?_, ?_, fun w hw hpath => ?_, ?_, ?_, fun hnone => ?_⟩
  · rw [hs.resolve]
    exact hc.inside
  · rw [hs.resolve]
    exact hc.apart
  · rw [hs.resolve] at hpath
    exact hc.entry w (hs.worktrees _ w hw) hpath
  · rw [hs.head, hc.head]
  · rw [hs.status, hc.status]
  · rcases he.refs t.baseRepo (branchRef t.branch) with hkept | ⟨hbase, hbranch, -, hgone⟩
    · exact (hc.whole (hkept ▸ hnone)).shrinks hs
    · have hname : t.branch = session.branch := String.append_right_inj _ |>.mp hbranch
      refine ⟨hnone, ?_, fun w hw => ?_⟩
      · rw [hsame hname]
        exact hgone.worktree
      · rw [hbase] at hw
        rw [hname]
        exact hgone.entry w hw

end GitHost
end LineageTX
