import LineageTX.ApprovalApplies
import LineageTX.CandidateCleanup
import LineageTX.Files
import LineageTX.HostAnswers

/-! Where the worktrees of one manager lie: the destination of `git worktree add`, the worktrees
and branches of the live sessions, after any sequence of its calls. -/
namespace LineageTX
open Library

section Slug

theorem mem_hyphenate {keep : Char → Bool} {cs : List Char} {inRun : Bool} {c : Char}
    (h : c ∈ hyphenate keep inRun cs) : keep c = true ∨ c = '-' := by
  induction cs generalizing inRun with
  | nil => cases h
  | cons d cs ih =>
    unfold hyphenate at h
    split at h
    · next hkeep =>
      rcases List.mem_cons.mp h with rfl | h
      · exact .inl hkeep
      · exact ih h
    · split at h
      · exact ih h
      · rcases List.mem_cons.mp h with rfl | h
        · exact .inr rfl
        · exact ih h

theorem dropAround_subset {drop : Char → Bool} {cs : List Char} : dropAround drop cs ⊆ cs := by
  intro c hc
  simp only [dropAround, List.mem_reverse] at hc
  have hrest := List.dropWhile_subset _ hc
  simp only [List.mem_reverse] at hrest
  exact List.dropWhile_subset _ hrest

/-- What is left does not begin with a character that is dropped. -/
theorem head?_dropAround {drop : Char → Bool} {cs : List Char} {c : Char}
    (h : (dropAround drop cs).head? = some c) : drop c = false := by
  have hprefix : dropAround drop cs <+: cs.dropWhile drop := by
    rw [dropAround, ← List.reverse_suffix, List.reverse_reverse]
    exact List.dropWhile_suffix _
  obtain ⟨rest, hrest⟩ := hprefix
  have hhead : (cs.dropWhile drop).head? = some c := by
    rw [← hrest, List.head?_append, h]
    rfl
  have hnot := List.head?_dropWhile_not drop cs
  rw [hhead] at hnot
  exact hnot

/-- A character that is no letter is the lower case of itself alone. -/
theorem eq_of_toLower_eq {c d : Char} (h : c.toLower = d) (hd : d.isAlpha = false) : c = d := by
  subst h
  unfold Char.toLower at hd ⊢
  split
  · next hupper =>
    rw [dif_pos hupper] at hd
    simp only [Char.isAlpha, Char.isUpper, Char.isLower] at hd
    grind [UInt32.toNat_add, UInt32.le_iff_toNat_le]
  · rfl

/-- A slug is one component of a path. -/
theorem slugOf_part {value slug : String} (h : slugOf value = .ok slug) : IsPart slug := by
  simp only [slugOf, requireWorktree, bind_eq_ok, require_eq_ok, decide_eq_true_eq] at h
  obtain ⟨_, hne, ⟨⟩⟩ := h
  set cs := dropAround (fun c => c = '-' || c = '.')
    (hyphenate (fun c => c.isAlphanum || "._-".toList.contains c) false value.toList) with hcs
  constructor
  · intro hmem
    rw [String.toList_ofList] at hmem
    obtain ⟨c, hc, hlower⟩ := List.mem_map.mp (List.mem_of_mem_take hmem)
    obtain rfl := eq_of_toLower_eq hlower (by decide)
    rcases mem_hyphenate (dropAround_subset hc) with hkeep | heq
    · exact absurd hkeep (by decide)
    · exact absurd heq (by decide)
  · cases hlist : cs with
    | nil =>
      rw [hlist] at hne
      exact absurd rfl hne
    | cons c rest =>
      have hc := head?_dropAround (c := c) (congrArg List.head? (hcs.symm.trans hlist))
      refine ⟨fun hempty => ?_, fun hdot => ?_⟩
      · have := congrArg String.toList hempty
        simp at this
      · have hdot' := congrArg String.toList hdot
        simp only [List.map_cons, String.toList_ofList, List.take_succ_cons] at hdot'
        have hlower : c.toLower = '.' := (List.cons.inj hdot').1
        obtain rfl := eq_of_toLower_eq hlower (by decide)
        exact absurd hc (by decide)

end Slug

/-- An absolute path without empty and single-dot components, as `resolve` gives it. -/
def isNormalPath (path : String) : Bool := path = "/" ++ "/".intercalate (pathParts path)

theorem eq_of_normal {path path' : String} (h : isNormalPath path = true)
    (h' : isNormalPath path' = true) (hparts : pathParts path = pathParts path') : path = path' := by
  simp only [isNormalPath, decide_eq_true_eq] at h h'
  rw [h, h', hparts]

/-- `git worktree add -b`: what was there stays, and a command that succeeded has made a
directory that was not there. -/
structure GitHost.Addition (h : GitHost) (path : String) (reply : Result Completed) (h' : GitHost) :
    Prop where
  kept : ∀ p, h.isPresent p = true → h'.isPresent p = true
  made : Succeeds reply → h'.isPresent path = true

/-- The answers of a host to the calls of the manager. A command that succeeds in a
repository finds its directory. -/
def GitHost.Acts (h : GitHost) (c : GitCall) (reply : Result c.Reply) (h' : GitHost) : Prop :=
  GitHost.Serves True h c reply h' ∧ match c, reply with
    | .git repo args, reply => (Succeeds reply → h.isPresent repo = true) ∧
      ∀ branch path sha, args = WorktreeManager.addArgs branch path sha → h.Addition path reply h'
    | .resolve _, reply => ∀ path, reply = .ok path → isNormalPath path = true
    | _, _ => True

/-- The directory of a candidate under the root. -/
def WorktreeManager.directory (m : WorktreeManager) (migrationSlug candidateSlug : String) : String :=
  m.root ++ "/" ++ migrationSlug ++ "/" ++ candidateSlug

/-- The arguments of `prepare`. -/
structure PrepareCall where
  repoId : String
  base : String
  migrationId : String
  baseSha : Option String
  candidateId : String

/-- `candidate_id or repo_id` -/
def PrepareCall.candidate (q : PrepareCall) : String :=
  if q.candidateId = "" then q.repoId else q.candidateId

def PrepareCall.run (m : WorktreeManager) (q : PrepareCall) : GitProg RepositorySession :=
  m.prepare q.repoId q.base q.migrationId q.baseSha q.candidateId

/-- What `prepare` has checked when it adds a worktree. -/
structure GitHost.Placed (h : GitHost) (m : WorktreeManager) (q : PrepareCall)
    (repo branch path : String) : Prop where
  slugs : ∃ migrationSlug candidateSlug, slugOf q.migrationId = .ok migrationSlug ∧
    slugOf q.candidate = .ok candidateSlug ∧
    branch = WorktreeManager.branchPrefix ++ migrationSlug ++ "/" ++ candidateSlug ∧
    path = h.resolve (m.directory migrationSlug candidateSlug)
  atBase : repo = h.resolve q.base
  normal : isNormalPath repo = true ∧ isNormalPath path = true
  there : h.isPresent repo = true
  absent : h.isPresent path = false
  outside : isRelativeTo m.root repo = false

section Prepare
variable {h h' : GitHost} {m : WorktreeManager} {q : PrepareCall} {repo : String} {args : List String}
  {α β : Type} {post : Result β → GitHost → Prop}

/-- The contract of `prepare` from its first state on. -/
abbrev Preparing (h : GitHost) (m : WorktreeManager) (q : PrepareCall) :
    Contract GitHost Exn GitCall.Reply :=
  .alone GitHost.Acts fun w c => ∀ repo branch path sha,
    c = .git repo (WorktreeManager.addArgs branch path sha) → w = h ∧ h.Placed m q repo branch path

/-- A call that leaves the host as it is. -/
def GitCall.Gentle : GitCall → Prop
  | .git _ args => Asks args
  | _ => True

theorem not_asks_add {branch path sha : String} : ¬Asks (WorktreeManager.addArgs branch path sha) := by
  simp [Asks, WorktreeManager.addArgs]

theorem gentle_bind {p : GitProg α} {f : α → GitProg β} (hp : p.Calls GitCall.Gentle)
    (herror : ∀ e, post (.error e) h') (hok : ∀ a, (f a).Guarded (Preparing h m q) post h') :
    (p >>= f).Guarded (Preparing h m q) post h' := by
  refine Prog.Guarded.bind_same (Q := fun _ => True) ?_ herror fun a _ => hok a
  have hsame : p.Guarded (Preparing h m q) (fun _ w => w = h') h' := by
    refine hp.guarded rfl (fun _ _ _ hr hw => hr.trans hw) (fun c r w w' hc _ hw hcan => ?_)
      fun c w hc _ _ => ?_
    · obtain ⟨hserves, -⟩ := hcan
      cases c with
      | git repo args => exact (hserves.same hc).trans hw
      | resolve | isPresent | makeDirectories => exact hserves.2.trans hw
    · rintro repo branch path sha rfl
      exact absurd hc not_asks_add
  exact hsame.mono fun r w hw => ⟨hw, fun _ _ => trivial⟩

theorem resolve_bind {path : String} {f : String → GitProg β} (herror : ∀ e, post (.error e) h)
    (hok : isNormalPath (h.resolve path) = true →
      (f (h.resolve path)).Guarded (Preparing h m q) post h) :
    ((GitCall.resolve path).run >>= f).Guarded (Preparing h m q) post h := by
  refine Prog.Guarded.perform_bind nofun (fun e w hacts => ?_) fun a w hacts => ?_
  · obtain rfl : w = h := hacts.1.2
    exact herror e
  · obtain rfl : w = h := hacts.1.2
    obtain rfl : a = w.resolve path := hacts.1.1
    exact hok (hacts.2 _ rfl)

theorem isPresent_bind {path : String} {f : Bool → GitProg β} (herror : ∀ e, post (.error e) h)
    (hok : (f (h.isPresent path)).Guarded (Preparing h m q) post h) :
    ((GitCall.isPresent path).run >>= f).Guarded (Preparing h m q) post h := by
  refine Prog.Guarded.perform_bind nofun (fun e w hacts => ?_) fun a w hacts => ?_
  · obtain rfl : w = h := hacts.1.2
    exact herror e
  · obtain rfl : w = h := hacts.1.2
    obtain rfl : a = w.isPresent path := hacts.1.1
    exact hok

/-- A Git command, in each way that it can end. -/
theorem command_guarded {post : Result Completed → GitHost → Prop}
    (hpre : ∀ branch path sha, args = WorktreeManager.addArgs branch path sha →
      h.Placed m q repo branch path)
    (hok : ∀ out h', h.Acts (.git repo args) (.ok out) h' → post (.ok out) h')
    (herror : ∀ e e' h', h.Acts (.git repo args) (.error e) h' → post (.error e') h') :
    (gitCompleted repo args).Guarded (Preparing h m q) post h := by
  refine Prog.Guarded.tryCatch (Prog.Guarded.perform_alone ?_ fun r w hr => ?_)
  · rintro repo' branch path sha hop
    cases hop
    exact ⟨rfl, hpre _ _ _ rfl⟩
  cases r with
  | ok out => exact hok out w hr
  | error e =>
    dsimp only
    split
    · exact herror e _ w hr
    · split
      · exact herror e _ w hr
      · exact herror e _ w hr

/-- The first command in a repository: one that only asks. -/
theorem ask_bind {f : String → GitProg β} (hask : Asks args) (herror : ∀ e, post (.error e) h)
    (hok : h.isPresent repo = true → ∀ out, (f out).Guarded (Preparing h m q) post h) :
    (runGit repo args >>= f).Guarded (Preparing h m q) post h := by
  refine Prog.Guarded.bind_same (Q := fun _ => h.isPresent repo = true) ?_ herror fun out hthere =>
    hok hthere out
  refine Prog.Guarded.bind (command_guarded (fun branch path sha hargs => ?_) (fun out w hacts => ?_)
    fun e e' w hacts => ?_)
  · subst hargs
    exact absurd hask not_asks_add
  · obtain rfl : w = h := hacts.1.same hask
    refine require_guarded (fun _ e => ⟨rfl, nofun⟩) fun hzero => ⟨rfl, fun _ _ => ?_⟩
    exact hacts.2.1 ⟨out, rfl, of_decide_eq_true hzero⟩
  · exact ⟨hacts.1.same hask, nofun⟩

theorem calls_gitCompleted {P : GitCall → Prop} (h : P (.git repo args)) :
    (gitCompleted repo args).Calls P := by
  refine Prog.Calls.tryCatch (Prog.calls_perform.mpr h) fun e => ?_
  split
  · trivial
  · split
    · trivial
    · trivial

theorem calls_runGit {P : GitCall → Prop} (h : P (.git repo args)) : (runGit repo args).Calls P :=
  (calls_gitCompleted h).bind fun _ => (Prog.calls_lift _).bind fun _ => trivial

theorem rejectConfig_gentle : (rejectExecutableLocalConfig repo).Calls GitCall.Gentle := by
  refine (calls_gitCompleted ?_).bind fun out => (Prog.calls_lift _).bind fun _ => Prog.calls_lift _
  simp [GitCall.Gentle, Asks]

theorem assertBaseUntouched_gentle {session : RepositorySession} :
    (WorktreeManager.assertBaseUntouched session).Calls GitCall.Gentle := by
  refine (calls_runGit ?_).bind fun head => (calls_runGit ?_).bind fun status => Prog.calls_lift _
  · simp [GitCall.Gentle, Asks]
  · simp [GitCall.Gentle, Asks, statusArgs]

/-- The checks of the base repository: what they establish for the rest of `prepare`. -/
theorem checkBase_bind {f : String × String × String → GitProg β} (herror : ∀ e, post (.error e) h)
    (hok : ∀ sha status, isNormalPath (h.resolve q.base) = true →
      h.isPresent (h.resolve q.base) = true → isRelativeTo m.root (h.resolve q.base) = false →
      (f (h.resolve q.base, sha, status)).Guarded (Preparing h m q) post h) :
    (m.checkBase q.base q.baseSha >>= f).Guarded (Preparing h m q) post h := by
  refine Prog.Guarded.bind_same (Q := fun checked => checked.1 = h.resolve q.base ∧
    isNormalPath (h.resolve q.base) = true ∧ h.isPresent (h.resolve q.base) = true ∧
    isRelativeTo m.root (h.resolve q.base) = false) ?_ herror fun checked hc => ?_
  · have hrevParse : ∀ rest, Asks ("rev-parse" :: rest) := fun rest => by simp [Asks]
    refine resolve_bind (fun e => ⟨rfl, fun _ he => by cases he⟩) fun hnormal => ?_
    refine ask_bind (hrevParse _) (fun e => ⟨rfl, fun _ he => by cases he⟩) fun hthere top => ?_
    refine resolve_bind (fun e => ⟨rfl, fun _ he => by cases he⟩) fun _ => ?_
    refine require_guarded (fun _ e => ⟨rfl, fun _ he => by cases he⟩) fun _ => ?_
    refine require_guarded (fun _ e => ⟨rfl, fun _ he => by cases he⟩) fun houtside => ?_
    simp only [Bool.and_eq_true, Bool.not_eq_true', decide_eq_true_eq] at houtside
    refine gentle_bind rejectConfig_gentle (fun e => ⟨rfl, fun _ he => by cases he⟩) fun _ => ?_
    refine ask_bind (by simp [Asks, statusArgs]) (fun e => ⟨rfl, fun _ he => by cases he⟩) fun _ status => ?_
    refine require_guarded (fun _ e => ⟨rfl, fun _ he => by cases he⟩) fun _ => ?_
    refine ask_bind (hrevParse _) (fun e => ⟨rfl, fun _ he => by cases he⟩) fun _ head => ?_
    refine ask_bind (hrevParse _) (fun e => ⟨rfl, fun _ he => by cases he⟩) fun _ resolved => ?_
    refine require_guarded (fun _ e => ⟨rfl, fun _ he => by cases he⟩) fun _ => ⟨rfl, ?_⟩
    intro checked hchecked
    cases hchecked
    exact ⟨rfl, hnormal, hthere, houtside.2⟩
  · obtain ⟨base, sha, status⟩ := checked
    obtain ⟨rfl, hnormal, hthere, houtside⟩ := hc
    exact hok sha status hnormal hthere houtside

/-- What a call of `prepare` leaves: everything that was there, and its session's worktree. -/
def GitHost.Prepared (h : GitHost) (m : WorktreeManager) (q : PrepareCall)
    (r : Result RepositorySession) (h' : GitHost) : Prop :=
  (∀ p, h.isPresent p = true → h'.isPresent p = true) ∧ ∀ session, r = .ok session →
    h.Placed m q session.baseRepo session.branch session.worktree ∧
      h'.isPresent session.worktree = true

theorem prepare_guarded : (q.run m).Guarded (Preparing h m q) (h.Prepared m q) h := by
  have hfailed : ∀ e, h.Prepared m q (.error e) h := fun e => ⟨fun _ hp => hp, nofun⟩
  refine checkBase_bind hfailed fun sha status hbase hthere houtside => ?_
  refine Prog.Guarded.lift_bind (fun e _ => hfailed e) fun migrationSlug hm => ?_
  refine Prog.Guarded.lift_bind (fun e _ => hfailed e) fun candidateSlug hc => ?_
  refine resolve_bind hfailed fun hnormal => ?_
  refine require_guarded (fun _ e => hfailed e) fun _ => ?_
  refine isPresent_bind hfailed ?_
  refine require_guarded (fun _ e => hfailed e) fun habsent => ?_
  refine gentle_bind (calls_gitCompleted ?_) hfailed fun lookup => ?_
  · simp [GitCall.Gentle, Asks]
  refine require_guarded (fun _ e => hfailed e) fun _ => ?_
  refine gentle_bind (Prog.calls_perform.mpr trivial) hfailed fun _ => ?_
  refine gentle_bind rejectConfig_gentle hfailed fun _ => ?_
  have hplaced : h.Placed m q (h.resolve q.base)
      (WorktreeManager.branchPrefix ++ migrationSlug ++ "/" ++ candidateSlug)
      (h.resolve (m.directory migrationSlug candidateSlug)) :=
    ⟨⟨_, _, hm, hc, rfl, rfl⟩, rfl, ⟨hbase, hnormal⟩, hthere, Bool.not_eq_true' _ ▸ habsent, houtside⟩
  refine Prog.Guarded.bind (Prog.Guarded.bind (command_guarded ?_ (fun out h' hacts => ?_)
    fun e e' h' hacts => ?_))
  · rintro branch path sha hargs
    simp only [WorktreeManager.addArgs, List.cons.injEq] at hargs
    obtain ⟨-, -, -, rfl, rfl, -⟩ := hargs
    exact hplaced
  · have hadded := hacts.2.2 _ _ _ rfl
    refine require_guarded (fun _ e => ⟨hadded.kept, nofun⟩) fun hzero => ?_
    have hmade := hadded.made ⟨out, rfl, of_decide_eq_true hzero⟩
    refine gentle_bind assertBaseUntouched_gentle (fun e => ⟨hadded.kept, nofun⟩) fun _ => ?_
    refine ⟨hadded.kept, ?_⟩
    rintro session ⟨⟩
    exact ⟨hplaced, hmade⟩
  · exact ⟨(hacts.2.2 _ _ _ rfl).kept, nofun⟩

end Prepare

/-- The host, and the sessions whose worktrees are there. -/
structure ManagerState where
  host : GitHost
  live : List RepositorySession

def ManagerState.after (s : ManagerState) (made : List RepositorySession) (h' : GitHost) : ManagerState :=
  ⟨h', (s.live ++ made).filter fun t => h'.isPresent t.worktree⟩

/-- No component of the destination below the root is a symbolic link. -/
def GitHost.Unlinked (h : GitHost) (m : WorktreeManager) (q : PrepareCall) : Prop :=
  ∀ migrationSlug candidateSlug, slugOf q.migrationId = .ok migrationSlug →
    slugOf q.candidate = .ok candidateSlug →
    pathParts (h.resolve (m.directory migrationSlug candidateSlug)) =
      pathParts m.root ++ [migrationSlug, candidateSlug]

/-- The base repository is the directory of the migration under the root. -/
def GitHost.BaseAround (h : GitHost) (m : WorktreeManager) (q : PrepareCall) : Prop :=
  ∃ migrationSlug, slugOf q.migrationId = .ok migrationSlug ∧
    pathParts (h.resolve q.base) = pathParts m.root ++ [migrationSlug]

/-- The states after any calls of one manager, no destination behind a symbolic link. -/
inductive Managed (py : Python) (m : WorktreeManager) : ManagerState → Prop
  | start (h : GitHost) : Managed py m ⟨h, []⟩
  | prepare {s : ManagerState} {q : PrepareCall} {log : List (Σ c : GitCall, Result c.Reply)}
      {r : Result RepositorySession} {h' : GitHost} (hs : Managed py m s) (hq : s.host.Unlinked m q)
      (hrun : (q.run m).Runs GitHost.Acts s.host log r h') : Managed py m (s.after r.toOption.toList h')
  | abort {s : ManagerState} {session : RepositorySession}
      {log : List (Σ c : GitCall, Result c.Reply)} {r : Result Unit} {h' : GitHost} (hs : Managed py m s)
      (hrun : (m.abort py session).Runs GitHost.Acts s.host log r h') : Managed py m (s.after [] h')

/-- A session with its worktree and its branch at the place of its two slugs. -/
def WorktreeManager.Seated (m : WorktreeManager) (t : RepositorySession) : Prop :=
  isNormalPath t.worktree = true ∧ ∃ migrationSlug candidateSlug, IsPart migrationSlug ∧
    IsPart candidateSlug ∧ pathParts t.worktree = pathParts m.root ++ [migrationSlug, candidateSlug] ∧
    t.branch = WorktreeManager.branchPrefix ++ migrationSlug ++ "/" ++ candidateSlug

/-- No two sessions share a worktree or a branch. -/
def Apart (t u : RepositorySession) : Prop := t.worktree ≠ u.worktree ∧ t.branch ≠ u.branch

/-- Every live session is there and seated, and no two share anything. -/
structure ManagerState.Separate (m : WorktreeManager) (s : ManagerState) : Prop where
  present : ∀ t ∈ s.live, s.host.isPresent t.worktree = true
  seated : ∀ t ∈ s.live, m.Seated t
  apart : s.live.Pairwise Apart

section Histories
variable {py : Python} {m : WorktreeManager} {s : ManagerState} {h h' : GitHost} {q : PrepareCall}
  {t u : RepositorySession}

/-- The branch determines the place. -/
theorem worktree_eq_of_branch (ht : m.Seated t) (hu : m.Seated u) (hbranch : t.branch = u.branch) :
    t.worktree = u.worktree := by
  obtain ⟨hnormal, ms, cs, hms, hcs, hparts, hname⟩ := ht
  obtain ⟨hnormal', ms', cs', hms', hcs', hparts', hname'⟩ := hu
  have hslugs : ms ++ "/" ++ cs = ms' ++ "/" ++ cs' := by
    rw [hname, hname', String.append_assoc, String.append_assoc, String.append_assoc,
      String.append_assoc] at hbranch
    have hrest := String.append_right_inj _ |>.mp hbranch
    rw [String.append_assoc, String.append_assoc, hrest]
  have hpair := congrArg pathParts hslugs
  rw [pathParts_append, pathParts_append, pathParts_part hms, pathParts_part hcs, pathParts_part hms',
    pathParts_part hcs'] at hpair
  exact eq_of_normal hnormal hnormal' (by rw [hparts, hparts']; simpa using hpair)

theorem apart_of_worktree (ht : m.Seated t) (hu : m.Seated u) (hne : t.worktree ≠ u.worktree) :
    Apart t u :=
  ⟨hne, fun hbranch => hne (worktree_eq_of_branch ht hu hbranch)⟩

theorem Placed.seated (hp : h.Placed m q t.baseRepo t.branch t.worktree) (hq : h.Unlinked m q) :
    m.Seated t := by
  obtain ⟨ms, cs, hms, hcs, hbranch, hpath⟩ := hp.slugs
  refine ⟨hp.normal.2, ms, cs, slugOf_part hms, slugOf_part hcs, ?_, hbranch⟩
  rw [hpath, hq ms cs hms hcs]

/-- Sessions that go leave the others as they were. -/
theorem ManagerState.Separate.after (hs : s.Separate m) {made : List RepositorySession}
    (hseated : ∀ t ∈ made, m.Seated t) (hmade : made.Pairwise Apart)
    (hnew : ∀ t ∈ s.live, ∀ u ∈ made, t.worktree ≠ u.worktree) : (s.after made h').Separate m := by
  have hall : ∀ t ∈ s.live ++ made, m.Seated t := fun t ht =>
    (List.mem_append.mp ht).elim (hs.seated t) (hseated t)
  refine ⟨fun t ht => (List.mem_filter.mp ht).2, fun t ht => hall t (List.mem_filter.mp ht).1, ?_⟩
  refine List.Pairwise.filter _ (List.pairwise_append.mpr ⟨hs.apart, hmade, fun t ht u hu => ?_⟩)
  exact apart_of_worktree (hs.seated t ht) (hseated u hu) (hnew t ht u hu)

/-- The invariant of the manager: a new session lies where nothing was. -/
theorem Managed.separate (hs : Managed py m s) : s.Separate m := by
  induction hs with
  | start h => exact ⟨nofun, nofun, .nil⟩
  | @prepare s q log r h' _ hq hrun ih =>
    have hprepared : s.host.Prepared m q r h' := prepare_guarded.of_run hrun
    cases r with
    | error e => exact ih.after nofun .nil nofun
    | ok session =>
      obtain ⟨hplaced, -⟩ := hprepared.2 session rfl
      refine ih.after ?_ (List.pairwise_singleton _ _) fun t ht u hu heq => ?_
      · intro t ht
        obtain rfl := List.mem_singleton.mp ht
        exact Placed.seated hplaced hq
      · obtain rfl := List.mem_singleton.mp hu
        have hthere := ih.present t ht
        rw [heq, hplaced.absent] at hthere
        cases hthere
  | abort _ _ ih => exact ih.after nofun .nil nofun

/-- Where the destination of `git worktree add` lies, by the parts of the paths. -/
theorem Placed.isolated {repo branch path : String} (hp : h.Placed m q repo branch path)
    (hq : h.Unlinked m q) (hlive : ∀ t ∈ s.live, h.isPresent t.worktree = true)
    (hseated : ∀ t ∈ s.live, m.Seated t) :
    isRelativeTo path m.root = true ∧ pathParts path ≠ pathParts m.root ∧
      (∀ t ∈ s.live, isRelativeTo path t.worktree = false) ∧
      (isRelativeTo path repo = true ↔ h.BaseAround m q) := by
  obtain ⟨ms, cs, hms, hcs, -, hpath⟩ := hp.slugs
  have hparts : pathParts path = pathParts m.root ++ [ms, cs] := by rw [hpath, hq ms cs hms hcs]
  have hother : ∀ p, isNormalPath p = true → h.isPresent p = true → pathParts p ≠ pathParts path := by
    intro p hnormal hthere heq
    rw [eq_of_normal hnormal hp.normal.2 heq, hp.absent] at hthere
    cases hthere
  refine ⟨?_, ?_, fun t ht => ?_, ?_⟩
  · rw [isRelativeTo, hparts, List.isPrefixOf_iff_prefix]
    exact List.prefix_append _ _
  · rw [hparts]
    simp
  · refine Bool.eq_false_iff.mpr fun hin => ?_
    obtain ⟨hnormal, ms', cs', -, -, hparts', -⟩ := hseated t ht
    refine hother t.worktree hnormal (hlive t ht) ?_
    refine (List.isPrefixOf_iff_prefix.mp hin).eq_of_length ?_
    rw [hparts', hparts]
    simp
  · have hsplit : pathParts path = (pathParts m.root ++ [ms]) ++ [cs] := by rw [hparts]; simp
    have houtside : ¬pathParts repo <+: pathParts m.root := by
      rw [← List.isPrefixOf_iff_prefix]
      exact Bool.eq_false_iff.mp hp.outside
    rw [isRelativeTo, List.isPrefixOf_iff_prefix, hsplit, List.prefix_concat_iff,
      List.prefix_concat_iff, ← hsplit]
    constructor
    · rintro (heq | heq | hin)
      · exact absurd heq (hother repo hp.normal.1 hp.there)
      · exact ⟨ms, hms, hp.atBase ▸ heq⟩
      · exact absurd hin houtside
    · rintro ⟨ms', hms', heq⟩
      obtain rfl : ms = ms' := Except.ok.inj (hms.symm.trans hms')
      exact .inr (.inl (hp.atBase ▸ heq))

/-- Every destination lies strictly inside the root and outside every live worktree, and
outside the base checkout unless that is the directory of the migration; no two live
sessions share a worktree or a branch. -/
theorem worktrees_isolated (hs : Managed py m s) :
    s.live.Pairwise Apart ∧ ∀ q repo branch path sha w, s.host.Unlinked m q →
      (q.run m).MakesCall GitHost.Acts s.host (.git repo (WorktreeManager.addArgs branch path sha)) w →
      repo = s.host.resolve q.base ∧ isRelativeTo path m.root = true ∧
        pathParts path ≠ pathParts m.root ∧ (∀ t ∈ s.live, isRelativeTo path t.worktree = false) ∧
        (isRelativeTo path repo = false ↔ ¬s.host.BaseAround m q) := by
  have hseparate := hs.separate
  refine ⟨hseparate.apart, fun q repo branch path sha w hq hcall => ?_⟩
  obtain ⟨-, hplaced⟩ := prepare_guarded.of_makesCall hcall repo branch path sha rfl
  obtain ⟨hinside, hstrict, hlive, hbase⟩ :=
    Placed.isolated hplaced hq hseparate.present hseparate.seated
  refine ⟨hplaced.atBase, hinside, hstrict, hlive, ?_⟩
  rw [← hbase, Bool.not_eq_true]

end Histories

/-- A host with a clean repository in one directory, and nothing else. -/
def lonelyHost (base : String) : GitHost where
  repo _ := ⟨fun _ => none, "base", "", []⟩
  reaches _ _ := False
  resolve := id
  isPresent path := path = base

/-- Where its computed answers are those of a host. -/
def GitHost.actsFit (h : GitHost) (c : GitCall) : Bool :=
  h.fits c && match c with
    | .git repo _ => h.isPresent repo
    | .resolve path => isNormalPath (h.resolve path)
    | _ => true

theorem GitHost.answer_acts (h : GitHost) (c : GitCall) (hc : h.actsFit c = true) :
    h.Acts c (h.answer c).1 (h.answer c).2 := by
  simp only [actsFit, Bool.and_eq_true] at hc
  obtain ⟨hfits, hthere⟩ := hc
  refine ⟨GitHost.answer_serves True h c hfits, ?_⟩
  cases c with
  | git repo args =>
    refine ⟨fun _ => hthere, ?_⟩
    rintro branch path sha rfl
    refine ⟨fun p hp => ?_, fun _ => ?_⟩
    · simp only [answer, command, WorktreeManager.addArgs, withWorktree, Function.update_apply]
      split
      · rfl
      · exact hp
    · simp [answer, command, WorktreeManager.addArgs, withWorktree]
  | resolve path =>
    rintro path' ⟨⟩
    exact hthere
  | isPresent path | makeDirectories path => trivial

def sampleManager : WorktreeManager := ⟨"/worktrees"⟩

def sampleCall (base candidateId : String) : PrepareCall := ⟨"repo", base, "mig/1", none, candidateId⟩

theorem lonelyHost_unlinked (base : String) : (lonelyHost base).Unlinked sampleManager
    (sampleCall "/base" "a") := by
  intro ms cs hms hcs
  have hms' : slugOf "mig/1" = .ok "mig-1" := by decide +kernel
  have hcs' : slugOf "a" = .ok "a" := by decide +kernel
  obtain rfl := Except.ok.inj (hms.symm.trans hms')
  obtain rfl := Except.ok.inj (hcs.symm.trans hcs')
  show pathParts "/worktrees/mig-1/a" = pathParts "/worktrees" ++ ["mig-1", "a"]
  decide +kernel

theorem sample_isolated :
    let done := ((sampleCall "/base" "a").run sampleManager).exec GitHost.answer (lonelyHost "/base")
    let s := (ManagerState.mk (lonelyHost "/base") []).after done.1.toOption.toList done.2
    s.live.Pairwise Apart ∧ s.live.map (·.worktree) = ["/worktrees/mig-1/a"] := by
  have hfit : ((sampleCall "/base" "a").run sampleManager).allFit GitHost.answer GitHost.actsFit
      (lonelyHost "/base") = true := by decide +kernel
  have hrun := Prog.runs_of_allFit GitHost.answer_acts hfit
  have hlive : ((ManagerState.mk (lonelyHost "/base") []).after
      (((sampleCall "/base" "a").run sampleManager).exec GitHost.answer
        (lonelyHost "/base")).1.toOption.toList
      (((sampleCall "/base" "a").run sampleManager).exec GitHost.answer (lonelyHost "/base")).2).live.map
        (·.worktree) = ["/worktrees/mig-1/a"] := by decide +kernel
  exact ⟨(worktrees_isolated (@Managed.prepare samplePython _ _ _ _ _ _ (.start _)
    (lonelyHost_unlinked _) hrun)).1, hlive⟩

/-- The base repository is the directory of the migration: the candidate's worktree is made
inside the base checkout. -/
theorem base_around_worktree :
    ∃ w, ((sampleCall "/worktrees/mig-1" "a").run sampleManager).MakesCall GitHost.Acts
      (lonelyHost "/worktrees/mig-1") (.git "/worktrees/mig-1"
        (WorktreeManager.addArgs "lineagetx/mig-1/a" "/worktrees/mig-1/a" "base")) w ∧
      isRelativeTo "/worktrees/mig-1/a" "/worktrees/mig-1" = true := by
  have hfit : ((sampleCall "/worktrees/mig-1" "a").run sampleManager).allFit GitHost.answer
      GitHost.actsFit (lonelyHost "/worktrees/mig-1") = true := by decide +kernel
  have hrun := Prog.runs_of_allFit GitHost.answer_acts hfit
  have hinside : isRelativeTo "/worktrees/mig-1/a" "/worktrees/mig-1" = true := by decide +kernel
  have hcalled : GitCall.git "/worktrees/mig-1"
      (WorktreeManager.addArgs "lineagetx/mig-1/a" "/worktrees/mig-1/a" "base") ∈
        (((sampleCall "/worktrees/mig-1" "a").run sampleManager).trace GitHost.answer
          (lonelyHost "/worktrees/mig-1")).map Sigma.fst := by decide +kernel
  obtain ⟨⟨c, reply⟩, hmem, rfl⟩ := List.mem_map.mp hcalled
  obtain ⟨w, hcall⟩ := hrun.makesCall hmem
  exact ⟨w, hcall, hinside⟩

end LineageTX
