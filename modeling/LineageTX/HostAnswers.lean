import LineageTX.GitHost

/-! A host that computes its answers, for the commands of the worktree manager: where an
answer fits, it is one that a host gives. -/
namespace LineageTX
open Library

/-- The lines of `git worktree list --porcelain`. -/
def GitRepo.listing (r : GitRepo) : List String :=
  r.worktrees.flatMap fun w => ("worktree " ++ w.path) :: (w.branch.map ("branch " ++ ·)).toList ++ [""]

def GitRepo.listed (r : GitRepo) : String := String.join (r.listing.map (· ++ "\n"))

/-- The entries go with the directory. -/
def GitHost.withoutWorktree (h : GitHost) (repo path : String) : GitHost :=
  { h with
    repo := Function.update h.repo repo { h.repo repo with
      worktrees := (h.repo repo).worktrees.filter fun w => h.resolve w.path ≠ h.resolve path }
    isPresent := Function.update h.isPresent path false }

/-- The branch and the worktree of `git worktree add -b`. -/
def GitHost.withWorktree (h : GitHost) (repo branch path sha : String) : GitHost :=
  { h with
    repo := Function.update h.repo repo { h.repo repo with
      refs := Function.update (h.repo repo).refs (branchRef branch) (some sha)
      worktrees := (h.repo repo).worktrees ++ [⟨path, some (branchRef branch)⟩] }
    isPresent := Function.update h.isPresent path true }

/-- The command succeeded with this output. -/
def succeeded (stdout : String) : Result Completed := .ok ⟨0, stdout⟩

/-- The answer to a Git command. -/
def GitHost.command (h : GitHost) (repo : String) (args : List String) : Result Completed × GitHost :=
  match args with
  | ["rev-parse", "--verify", ref] =>
    match (h.repo repo).refs ref with
    | some sha => (succeeded sha, h)
    | none => (.ok ⟨128, ""⟩, h)
  | ["rev-parse", rev] => (succeeded (if rev = "--show-toplevel" then repo else (h.repo repo).head), h)
  | ["status", _, _, _] => (succeeded (h.repo repo).status, h)
  | "config" :: _ => (succeeded "", h)
  | ["show-ref", _, _, ref] => (.ok ⟨if (h.repo repo).refs ref = none then 1 else 0, ""⟩, h)
  | ["worktree", "list", "--porcelain"] => (succeeded (h.repo repo).listed, h)
  | ["worktree", "add", "-b", branch, path, sha] => (succeeded "", h.withWorktree repo branch path sha)
  | ["worktree", "remove", "--force", path] => (succeeded "", h.withoutWorktree repo path)
  | ["branch", "-D", branch] => (succeeded "", h.withoutRef repo (branchRef branch))
  | _ => (succeeded "", h)

def GitHost.answer (h : GitHost) : (c : GitCall) → Result c.Reply × GitHost
  | .git repo args => h.command repo args
  | .resolve path => (.ok (h.resolve path), h)
  | .isPresent path => (.ok (h.isPresent path), h)
  | .makeDirectories _ => (.ok (), h)

/-- Whether that answer is right: the output reads back as what it stands for, and a branch
that is deleted is there and free. -/
def GitHost.fits (h : GitHost) : GitCall → Bool
  | .git repo args =>
    match args with
    | ["rev-parse", "--verify", ref] => ((h.repo repo).refs ref).all fun sha => strip sha = sha
    | ["rev-parse", _] => strip (h.repo repo).head = (h.repo repo).head
    | ["worktree", "list", "--porcelain"] =>
      lines (h.repo repo).listed = (h.repo repo).listing
    | ["branch", "-D", branch] => (h.repo repo).refs (branchRef branch) ≠ none &&
      (h.repo repo).worktrees.all fun w => w.branch ≠ some (branchRef branch)
    | "config" :: _ | ["show-ref", _, _, _] | ["status", _, _, _]
    | ["worktree", "add", "-b", _, _, _] | ["worktree", "remove", "--force", _] => true
    | _ => false
  | _ => true

section Fits
variable {h : GitHost} {repo : String} {args : List String} {out : Completed} {faults : Prop}

/-- A command that asks, and changes neither worktrees nor branches. -/
theorem answers_of_asks (hasks : Asks args) (htells : (h.repo repo).Tells h.reaches args out) :
    h.Answers faults repo args (.ok out) h := by
  refine ⟨htells, fun _ => rfl, fun path hargs => ?_, fun branch hargs => ?_⟩
  · subst hargs
    simp [Asks] at hasks
  · subst hargs
    simp [Asks] at hasks

theorem tells_rev {rev : String} (hzero : out.returncode = 0)
    (hhead : rev = "HEAD" → strip out.stdout = (h.repo repo).head) :
    (h.repo repo).Tells h.reaches ["rev-parse", rev] out := by
  refine ⟨?_, ?_, fun hargs => ⟨hzero, hhead (by simpa using hargs)⟩, ?_, ?_, ?_, ?_⟩ <;>
    simp [statusArgs]

theorem tells_verify {ref : String}
    (href : ∀ sha, (h.repo repo).refs ref = some sha → out.returncode = 0 ∧ strip out.stdout = sha)
    (hnone : (h.repo repo).refs ref = none → out.returncode ≠ 0) :
    (h.repo repo).Tells h.reaches ["rev-parse", "--verify", ref] out := by
  refine ⟨?_, ?_, ?_, ?_, ?_, ?_, ?_⟩
  · intro ref' sha hargs hsha
    cases hargs
    exact href sha hsha
  · intro ref' hargs hno _
    cases hargs
    exact hnone hno
  all_goals simp [statusArgs]

theorem tells_listing
    (hlines : lines out.stdout = (h.repo repo).listing) (hzero : out.returncode = 0) :
    (h.repo repo).Tells h.reaches ["worktree", "list", "--porcelain"] out := by
  refine ⟨?_, ?_, ?_, ?_, ?_, ?_, fun _ => ⟨hzero, ?_⟩⟩
  case refine_7 =>
    refine ⟨(h.repo repo).worktrees.map fun w =>
      ("worktree " ++ w.path) :: (w.branch.map ("branch " ++ ·)).toList ++ [""], ?_, ?_⟩
    · refine List.forall₂_map_right_iff.mpr (List.forall₂_same.mpr fun w _ => ⟨[], [], ?_, ?_⟩)
      · simp
      · simp
    · rw [hlines, GitRepo.listing, List.flatMap]
  all_goals simp [statusArgs]

theorem tells_status {rest : List String} (hzero : out.returncode = 0)
    (hstatus : out.stdout = (h.repo repo).status) :
    (h.repo repo).Tells h.reaches ("status" :: rest) out := by
  refine ⟨?_, ?_, ?_, fun _ => ⟨hzero, hstatus⟩, ?_, ?_, ?_⟩ <;> simp

/-- The other commands tell nothing of the repository. -/
theorem tells_nothing (hargs : args.head? ∈ ["config", "show-ref", "branch"].map some ∨
      args.take 2 ∈ [["worktree", "add"], ["worktree", "remove"]]) :
    (h.repo repo).Tells h.reaches args out := by
  refine ⟨fun _ _ he => ?_, fun _ he => ?_, fun he => ?_, fun he => ?_, fun _ he => ?_, fun _ _ he => ?_,
    fun he => ?_⟩ <;> subst he <;> simp [statusArgs] at hargs

theorem removal_withoutWorktree {path : String} {reply : Result Completed} :
    h.Removal repo path reply (h.withoutWorktree repo path) := by
  have hrepo : ∀ r, ((h.withoutWorktree repo path).repo r).refs = (h.repo r).refs ∧
      ((h.withoutWorktree repo path).repo r).head = (h.repo r).head ∧
      ((h.withoutWorktree repo path).repo r).status = (h.repo r).status ∧
      ∀ w ∈ ((h.withoutWorktree repo path).repo r).worktrees, w ∈ (h.repo r).worktrees ∧
        (r = repo → h.resolve w.path ≠ h.resolve path) := by
    intro r
    by_cases hr : r = repo
    · subst hr
      simp [GitHost.withoutWorktree]
    · simp [GitHost.withoutWorktree, hr]
  refine ⟨⟨rfl, rfl, fun p hp => ?_, fun r => (hrepo r).2.1, fun r => (hrepo r).2.2.1,
    fun r ref tip ht => (hrepo r).1 ▸ ht, fun r w hw => ((hrepo r).2.2.2 w hw).1⟩,
    fun r => (hrepo r).1, fun out _ _ => ⟨?_, fun w hw => ((hrepo repo).2.2.2 w hw).2 rfl⟩⟩
  · simp only [GitHost.withoutWorktree, Function.update_apply] at hp
    split at hp
    · cases hp
    · exact hp
  · simp [GitHost.withoutWorktree]

end Fits

/-- An answer that fits is one that a host gives. -/
theorem GitHost.answer_serves (faults : Prop) (h : GitHost) (c : GitCall) (hc : h.fits c = true) :
    GitHost.Serves faults h c (h.answer c).1 (h.answer c).2 := by
  cases c with
  | resolve path => exact ⟨rfl, rfl⟩
  | isPresent path => exact ⟨rfl, rfl⟩
  | makeDirectories path => exact ⟨trivial, rfl⟩
  | git repo args =>
    simp only [fits] at hc
    split at hc
    case h_1 ref =>
      simp only [answer, command]
      split
      · next sha href =>
        rw [href] at hc
        refine answers_of_asks (by simp [Asks]) (tells_verify (fun sha' hsha => ?_) fun hnone => ?_)
        · obtain rfl : sha = sha' := Option.some.inj (href.symm.trans hsha)
          exact ⟨rfl, by simpa using hc⟩
        · rw [href] at hnone
          cases hnone
      · next href =>
        refine answers_of_asks (by simp [Asks]) (tells_verify (fun sha' hsha => ?_) fun _ => by decide)
        rw [href] at hsha
        cases hsha
    case h_2 rev =>
      have htells : (h.repo repo).Tells h.reaches ["rev-parse", rev]
          ⟨0, if rev = "--show-toplevel" then repo else (h.repo repo).head⟩ := by
        refine tells_rev rfl fun hrev => ?_
        rw [hrev, if_neg (by decide)]
        exact of_decide_eq_true hc
      have hcommand : h.command repo ["rev-parse", rev] =
          (succeeded (if rev = "--show-toplevel" then repo else (h.repo repo).head), h) := by
        simp [command]
      rw [answer, hcommand]
      exact answers_of_asks (by simp [Asks]) htells
    case h_3 =>
      exact answers_of_asks (by simp [Asks]) (tells_listing (of_decide_eq_true hc) rfl)
    case h_4 branch =>
      simp only [Bool.and_eq_true, decide_eq_true_eq, List.all_eq_true] at hc
      refine ⟨tells_nothing (by simp), by simp [Asks], by simp, fun branch' hbranch => ?_⟩
      cases hbranch
      exact ⟨⟨hc.1, hc.2, rfl⟩, .inr ⟨_, rfl, rfl⟩⟩
    case h_5 rest => exact answers_of_asks (by simp [Asks]) (tells_nothing (by simp))
    case h_6 ref => exact answers_of_asks (by simp [Asks]) (tells_nothing (by simp))
    case h_7 => exact answers_of_asks (by simp [Asks]) (tells_status rfl rfl)
    case h_8 branch path sha =>
      exact ⟨tells_nothing (by simp), by simp [Asks], by simp, by simp⟩
    case h_9 path =>
      refine ⟨tells_nothing (by simp), by simp [Asks], fun path' hpath => ?_, by simp⟩
      cases hpath
      exact ⟨removal_withoutWorktree, .inr ⟨_, rfl, rfl⟩⟩
    case h_10 => cases hc

end LineageTX
