import LineageTX.GitHost

/-! The abort of one candidate: what it leaves of the host when any of its commands may
fail, and that it succeeds when none does. -/
namespace LineageTX
open Library
variable {py : Python} {faults : Prop} {h h' : GitHost} {session : RepositorySession}

/-- A program at a host that nobody else changes. -/
abbrev OnHost (faults : Prop) : Contract GitHost Exn GitCall.Reply :=
  .alone (GitHost.Serves faults) fun _ _ => True

/-- A check of the source, and the rest of the program. -/
theorem require_guarded {Op World β : Type} {Reply : Op → Type} {c : Contract World Exn Reply}
    {check : Bool} {cls : ExnClass} {msg : String} {f : Unit → Prog Exn Reply β}
    {post : Result β → World → Prop} {w : World} (hfalse : check = false → ∀ e, post (.error e) w)
    (htrue : check = true → (f ()).Guarded c post w) :
    ((liftM (require check cls msg) : Prog Exn Reply Unit) >>= f).Guarded c post w := by
  cases check with
  | true => exact htrue rfl
  | false => exact hfalse rfl _

section Queries
variable {repo path : String} {args : List String}

theorem resolve_told : (GitCall.resolve path).run.Guarded (OnHost faults)
    (fun r w => w = h ∧ Told faults (· = h.resolve path) r) h :=
  Prog.Guarded.perform_alone trivial fun _ _ hr => ⟨hr.2, hr.1⟩

theorem isPresent_told : (GitCall.isPresent path).run.Guarded (OnHost faults)
    (fun r w => w = h ∧ Told faults (· = h.isPresent path) r) h :=
  Prog.Guarded.perform_alone trivial fun _ _ hr => ⟨hr.2, hr.1⟩

/-- A command; its exceptions come out in other words. -/
theorem gitCompleted_guarded {post : Result Completed → GitHost → Prop}
    (hok : ∀ out h', h.Answers faults repo args (.ok out) h' → post (.ok out) h')
    (herror : ∀ e e' h', h.Answers faults repo args (.error e) h' → post (.error e') h') :
    (gitCompleted repo args).Guarded (OnHost faults) post h := by
  refine Prog.Guarded.tryCatch (Prog.Guarded.perform_alone trivial fun r w hr => ?_)
  cases r with
  | ok out => exact hok out w hr
  | error e =>
    dsimp only
    split
    · exact herror e _ w hr
    · split
      · exact herror e _ w hr
      · exact herror e _ w hr

theorem completed_told (hask : Asks args) : (gitCompleted repo args).Guarded (OnHost faults)
    (fun r w => w = h ∧ Told faults ((h.repo repo).Tells h.reaches args) r) h :=
  gitCompleted_guarded (fun _ _ ha => ⟨ha.same hask, ha.told⟩) fun _ _ _ ha => ⟨ha.same hask, ha.told⟩

theorem runGit_told (hask : Asks args)
    (hzero : ∀ out, (h.repo repo).Tells h.reaches args out → out.returncode = 0) :
    (runGit repo args).Guarded (OnHost faults) (fun r w => w = h ∧ Told faults
      (fun s => ∃ out, (h.repo repo).Tells h.reaches args out ∧ out.stdout = s) r) h := by
  refine Prog.Guarded.bind_told (completed_told hask) (fun hfault e => ⟨rfl, hfault⟩) fun out hout => ?_
  refine require_guarded (fun hne e => ?_) fun _ => ⟨rfl, out, hout, rfl⟩
  exact absurd (hzero out hout) (of_decide_eq_false hne)

/-- A command whose effect matters, in each way that it can end. -/
theorem runGit_guarded {post : Result String → GitHost → Prop}
    (hok : ∀ out h', h.Answers faults repo args (.ok out) h' → out.returncode = 0 →
      post (.ok out.stdout) h')
    (hnonzero : ∀ out e h', h.Answers faults repo args (.ok out) h' → out.returncode ≠ 0 →
      post (.error e) h')
    (herror : ∀ e e' h', h.Answers faults repo args (.error e) h' → post (.error e') h') :
    (runGit repo args).Guarded (OnHost faults) post h := by
  refine Prog.Guarded.bind (gitCompleted_guarded (fun out h' ha => ?_) fun e e' h' ha => herror e e' h' ha)
  exact require_guarded (fun hne e => hnonzero out e h' ha (of_decide_eq_false hne))
    fun hzero => hok out h' ha (of_decide_eq_true hzero)

end Queries
namespace WorktreeManager
variable (m : WorktreeManager)

theorem assertOwnedSession_told : (m.assertOwnedSession session).Guarded (OnHost faults)
    (fun r w => w = h ∧ Told (h.Cleanable m session → faults) (fun _ => True) r) h := by
  refine Prog.Guarded.bind_told resolve_told (fun hf e => ⟨rfl, fun _ => hf⟩) fun worktree hw => ?_
  refine require_guarded (fun hout e => ⟨rfl, fun hc => ?_⟩) fun _ => ?_
  · rw [hw, hc.inside] at hout
    cases hout
  refine require_guarded (fun hnamed e => ⟨rfl, fun hc => ?_⟩) fun _ => ?_
  · rw [hc.named] at hnamed
    cases hnamed
  refine Prog.Guarded.bind_told resolve_told (fun hf e => ⟨rfl, fun _ => hf⟩) fun base hb => ?_
  refine Prog.Guarded.lift ?_
  cases happart : requireWorktree (base ≠ worktree)
      "base checkout cannot be used as a candidate worktree" with
  | ok _ => exact ⟨rfl, trivial⟩
  | error e =>
    refine ⟨rfl, fun hc => ?_⟩
    rw [hw, hb, requireWorktree, require, if_pos (by simpa using hc.apart)] at happart
    cases happart

theorem assertBaseUntouched_told : (assertBaseUntouched session).Guarded (OnHost faults)
    (fun r w => w = h ∧ Told ((h.repo session.baseRepo).head = session.baseSha →
      (h.repo session.baseRepo).status = session.baseStatus → faults) (fun _ => True) r) h := by
  refine Prog.Guarded.bind_told (runGit_told (by simp [Asks]) fun out hout => (hout.head rfl).1)
    (fun hf e => ⟨rfl, fun _ _ => hf⟩) fun head hhead => ?_
  refine Prog.Guarded.bind_told (runGit_told (by simp [Asks, statusArgs])
    fun out hout => (hout.status rfl).1) (fun hf e => ⟨rfl, fun _ _ => hf⟩) fun status hstatus => ?_
  obtain ⟨out, hout, rfl⟩ := hhead
  obtain ⟨out', hout', rfl⟩ := hstatus
  refine Prog.Guarded.lift ?_
  rw [(hout.head rfl).2, (hout'.status rfl).2]
  unfold require
  split
  · exact ⟨rfl, trivial⟩
  · next hchanged =>
    refine ⟨rfl, fun hh hs => absurd ?_ hchanged⟩
    simp [hh, hs]

theorem refuseMerged_told {sha : String} : (refuseMerged py session sha).Guarded (OnHost faults)
    (fun r w => w = h ∧
      Told (h.Reachable session sha ∨ faults) (fun _ => ¬h.Reachable session sha) r) h := by
  refine Prog.Guarded.bind_told (runGit_told (by simp [Asks])
    fun out hout => (hout.containing sha rfl).1) (fun hf e => ⟨rfl, .inr hf⟩) fun containing hrefs => ?_
  obtain ⟨out, hout, rfl⟩ := hrefs
  have hlisted := (hout.containing sha rfl).2
  refine require_guarded (fun hsome e => ⟨rfl, ?_⟩) fun hnone => ?_
  · -- some line names another branch
    have hne : sortedSet ((lines out.stdout).filter fun ref =>
        ref ≠ "" && ref ≠ branchRef session.branch) ≠ [] := of_decide_eq_false hsome
    obtain ⟨ref, href⟩ := List.exists_mem_of_ne_nil _ (mt sortedSet_eq_nil.mpr hne)
    simp only [List.mem_filter, Bool.and_eq_true, decide_eq_true_eq] at href
    obtain ⟨hbranch, tip, htip, hreaches⟩ := (hlisted ref href.2.1).mp href.1
    exact .inl (.inr ⟨ref, tip, hbranch, href.2.2, htip, hreaches⟩)
  have hothers : ∀ ref tip, isBranchRef ref = true → ref ≠ branchRef session.branch →
      (h.repo session.baseRepo).refs ref = some tip → ¬h.reaches tip sha := by
    intro ref tip hbranch hne htip hreaches
    have hmem := sortedSet_eq_nil.mp (of_decide_eq_true hnone)
    have hnonempty : ref ≠ "" := fun he => by simp [he, isBranchRef, startsWith] at hbranch
    refine List.filter_eq_nil_iff.mp hmem ref
      ((hlisted ref hnonempty).mpr ⟨hbranch, tip, htip, hreaches⟩) ?_
    simp [hnonempty, hne]
  refine Prog.Guarded.bind_told (runGit_told (by simp [Asks]) fun out hout => (hout.head rfl).1)
    (fun hf e => ⟨rfl, .inr hf⟩) fun baseHead hhead => ?_
  obtain ⟨out', hout', rfl⟩ := hhead
  rw [(hout'.head rfl).2]
  refine Prog.Guarded.bind_told (completed_told (by simp [Asks])) (fun hf e => ⟨rfl, .inr hf⟩)
    fun merged hmerged => ?_
  have hancestor := hmerged.ancestor sha _ rfl
  refine Prog.Guarded.lift ?_
  by_cases hzero : merged.returncode = 0
  · rw [require, if_neg (by simp [hzero])]
    exact ⟨rfl, .inl (.inl (hancestor.mp hzero))⟩
  · rw [require, if_pos (by simp [hzero])]
    refine ⟨rfl, fun hreach => ?_⟩
    rcases hreach with hhead | ⟨ref, tip, hbranch, hne, htip, hreaches⟩
    · exact hzero (hancestor.mpr hhead)
    · exact hothers ref tip hbranch hne htip hreaches

theorem startsWith_append (pre rest : String) : startsWith (pre ++ rest) pre = true := by
  simp [startsWith]

theorem findRegistered_skip {skipped rest : List String} {path branch : Option String}
    (hskip : ∀ line ∈ skipped,
      startsWith line "worktree " = false ∧ startsWith line "branch " = false ∧ line ≠ "") :
    findRegistered session (skipped ++ rest) path branch = findRegistered session rest path branch := by
  induction skipped with
  | nil => rfl
  | cons line skipped ih =>
    obtain ⟨hworktree, hbranch, hne⟩ := hskip line (by simp)
    rw [List.cons_append, findRegistered, if_neg (by simp [hworktree]), if_neg (by simp [hbranch]),
      if_neg hne]
    exact ih fun line hline => hskip line (by simp [hline])

/-- The branch line of an entry, where there is one. -/
theorem findRegistered_branch {rest : List String} {path branch : Option String} :
    findRegistered session ((branch.map ("branch " ++ ·)).toList ++ rest) path none =
      findRegistered session rest path branch := by
  cases branch with
  | none => rfl
  | some ref =>
    have hother : startsWith ("branch " ++ ref) "worktree " = false := by
      simp [startsWith, List.isPrefixOf]
    have hname : String.ofList (("branch " ++ ref).toList.drop 7) = ref := by
      simp
    rw [Option.map_some, Option.toList_some, List.singleton_append, findRegistered,
      if_neg (by simp [hother]), if_pos (startsWith_append _ _), hname]

/-- The branch that is found belongs to an entry for the worktree of the session. -/
theorem findRegistered_told {worktrees : List LinkedWorktree} {entries : List (List String)}
    (hentries : List.Forall₂ WorktreeEntry worktrees entries) {path branch : Option String}
    (hpath : path ≠ some (h.resolve session.worktree)) :
    (findRegistered session (entries.flatten ++ [""]) path branch).Guarded (OnHost faults)
      (fun r w => w = h ∧ Told faults (fun found => ∀ ref ∈ found, ∃ w ∈ worktrees,
        h.resolve w.path = h.resolve session.worktree ∧ w.branch = some ref) r) h := by
  have hother : startsWith "" "worktree " = false := by decide
  have hother' : startsWith "" "branch " = false := by decide
  induction hentries generalizing path branch with
  | nil =>
    rw [List.flatten_nil, List.nil_append, findRegistered, if_neg (by simp [hother]),
      if_neg (by simp [hother']), if_pos rfl]
    refine Prog.Guarded.bind_told resolve_told (fun hf e => ⟨rfl, hf⟩) fun worktree hw => ?_
    rw [hw, if_neg hpath]
    exact ⟨rfl, nofun⟩
  | @cons w entry worktrees entries hentry _ ih =>
    obtain ⟨before, after, hskip, rfl⟩ := hentry
    have hname : String.ofList (("worktree " ++ w.path).toList.drop 9) = w.path := by simp
    rw [List.flatten_cons, List.append_assoc, List.cons_append, List.cons_append, List.cons_append,
      List.cons_append, findRegistered, if_pos (startsWith_append _ _), hname]
    refine Prog.Guarded.bind_told resolve_told (fun hf e => ⟨rfl, hf⟩) fun resolved hr => ?_
    rw [List.append_assoc, List.append_assoc, List.append_assoc,
      findRegistered_skip fun line hline => hskip line (by simp [hline]), findRegistered_branch,
      findRegistered_skip fun line hline => hskip line (by simp [hline]), List.cons_append,
      findRegistered, if_neg (by simp [hother]), if_neg (by simp [hother']), if_pos rfl]
    refine Prog.Guarded.bind_told resolve_told (fun hf e => ⟨rfl, hf⟩) fun worktree hw => ?_
    rw [hw, hr]
    by_cases hsame : some (h.resolve w.path) = some (h.resolve session.worktree)
    · rw [if_pos hsame]
      exact ⟨rfl, fun ref href => ⟨w, by simp, Option.some.inj hsame, href⟩⟩
    · rw [if_neg hsame]
      refine (ih hsame).mono fun r w' hr => ⟨hr.1, hr.2.mono id fun found hfound ref href => ?_⟩
      obtain ⟨w, hw, hfound⟩ := hfound ref href
      exact ⟨w, List.mem_cons_of_mem _ hw, hfound⟩

theorem registeredWorktreeBranch_told : (registeredWorktreeBranch session).Guarded (OnHost faults)
    (fun r w => w = h ∧ Told faults (fun found => ∀ ref ∈ found,
      ∃ w ∈ (h.repo session.baseRepo).worktrees,
        h.resolve w.path = h.resolve session.worktree ∧ w.branch = some ref) r) h := by
  refine Prog.Guarded.bind_told (runGit_told (by simp [Asks]) fun out hout => (hout.listed rfl).1)
    (fun hf e => ⟨rfl, hf⟩) fun output houtput => ?_
  obtain ⟨out, hout, rfl⟩ := houtput
  obtain ⟨-, entries, hentries, hlines⟩ := hout.listed rfl
  rw [hlines]
  exact findRegistered_told hentries (by simp)

theorem removeWorktree_guarded {isPresent : Bool} (hpresent : isPresent = h.isPresent session.worktree) :
    (Prog.onlyWhen (isPresent = true)
      (do let _ ← runGit session.baseRepo (removeArgs session))).Guarded (OnHost faults)
      (fun r h₁ => (h.Shrinks h₁ ∧ ∀ repo, (h₁.repo repo).refs = (h.repo repo).refs) ∧
        Told faults (fun _ => h₁.isPresent session.worktree = false) r) h := by
  unfold Prog.onlyWhen
  split
  · refine Prog.Guarded.bind (runGit_guarded (fun out h₁ ha hzero => ?_) (fun out e h₁ ha hne => ?_)
      fun e e' h₁ ha => ?_)
    · have hremoval := (ha.removal _ rfl).1
      exact ⟨⟨hremoval.shrinks, hremoval.refs⟩, (hremoval.complete out rfl hzero).1⟩
    · obtain ⟨hremoval, hsuccess⟩ := ha.removal _ rfl
      refine ⟨⟨hremoval.shrinks, hremoval.refs⟩, hsuccess.elim id fun ⟨out', hout, hzero⟩ => ?_⟩
      cases hout
      exact absurd hzero hne
    · have hremoval := (ha.removal _ rfl).1
      exact ⟨⟨hremoval.shrinks, hremoval.refs⟩, ha.told⟩
  · next habsent =>
    rw [Bool.not_eq_true, hpresent] at habsent
    exact ⟨⟨.refl h, fun _ => rfl⟩, habsent⟩

theorem deleteBranch_guarded : (runGit session.baseRepo (deleteArgs session)).Guarded (OnHost faults)
    (fun r h₁ => (h₁ = h ∨ h.Drops session.baseRepo session.branch h₁) ∧
      Told faults (fun _ => h.Drops session.baseRepo session.branch h₁) r) h := by
  refine runGit_guarded (fun out h₁ ha hzero => ?_) (fun out e h₁ ha hne => ?_) fun e e' h₁ ha => ?_
  · have hdeletion := (ha.deletion _ rfl).1
    rw [GitHost.Deletion, if_pos hzero] at hdeletion
    exact ⟨.inr hdeletion, hdeletion⟩
  · obtain ⟨hdeletion, hsuccess⟩ := ha.deletion _ rfl
    rw [GitHost.Deletion, if_neg hne] at hdeletion
    refine ⟨.inl hdeletion, hsuccess.elim id fun ⟨out', hout, hzero⟩ => ?_⟩
    cases hout
    exact absurd hzero hne
  · exact ⟨(ha.deletion _ rfl).1, ha.told⟩

/-- The branch of a candidate that is not merged goes after its worktree. -/
theorem erases_of_drops {h₁ h₂ : GitHost} (hnot : ¬h.Merged session) (hs : h.Shrinks h₁)
    (hrefs : ∀ repo, (h₁.repo repo).refs = (h.repo repo).refs)
    (habsent : h₁.isPresent session.worktree = false)
    (hd : h₁.Drops session.baseRepo session.branch h₂) : h.Erases session h₂ ∧ h₂.Gone session := by
  obtain ⟨-, hfree, rfl⟩ := hd
  have hgone : (h₁.withoutRef session.baseRepo (branchRef session.branch)).Gone session := by
    refine ⟨?_, habsent, fun w hw => hfree w ?_⟩
    · rw [GitHost.withoutRef_repo, if_pos rfl, GitRepo.withoutRef_refs, if_pos rfl]
    · exact (h₁.shrinks_withoutRef _ _).worktrees _ w hw
  refine ⟨⟨hs.trans (h₁.shrinks_withoutRef _ _), fun r ref => ?_⟩, hgone⟩
  by_cases hr : r = session.baseRepo ∧ ref = branchRef session.branch
  · exact .inr ⟨hr.1, hr.2, hnot, hgone⟩
  · refine .inl ?_
    rw [GitHost.withoutRef_repo]
    split
    · next hrepo =>
      rw [GitRepo.withoutRef_refs, if_neg fun href => hr ⟨hrepo, href⟩, hrefs, hrepo]
    · rw [hrefs]

theorem removeCandidate_guarded (hnot : ¬h.Merged session) :
    (removeCandidate session).Guarded (OnHost faults) (fun r h' => h.Erases session h' ∧
      Told (h.Cleanable m session → faults) (fun _ => h'.Gone session) r) h := by
  have hrefl : h.Erases session h := ⟨.refl h, fun _ _ => .inl rfl⟩
  refine Prog.Guarded.bind_told registeredWorktreeBranch_told (fun hf e => ⟨hrefl, fun _ => hf⟩)
    fun registered hregistered => ?_
  refine require_guarded (fun hother e => ⟨hrefl, fun hc => ?_⟩) fun _ => ?_
  · cases registered with
    | none => cases hother
    | some ref =>
      obtain ⟨w, hw, hsame, hbranch⟩ := hregistered ref rfl
      have hown := hc.entry w hw hsame ref hbranch
      simp [hown] at hother
  refine Prog.Guarded.bind_told isPresent_told (fun hf e => ⟨hrefl, fun _ => hf⟩) fun isPresent hp => ?_
  refine Prog.Guarded.bind ((removeWorktree_guarded hp).mono fun r h₁ hr => ?_)
  obtain ⟨⟨hs, hrefs⟩, hr⟩ := hr
  cases r with
  | error e => exact ⟨hs.erases hrefs, fun _ => hr⟩
  | ok _ =>
    refine Prog.Guarded.bind (deleteBranch_guarded.mono fun r h₂ hr₂ => ?_)
    obtain ⟨hdropped, hr₂⟩ := hr₂
    cases r with
    | error e =>
      refine ⟨?_, fun _ => hr₂⟩
      rcases hdropped with rfl | hd
      · exact hs.erases hrefs
      · exact (erases_of_drops hnot hs hrefs hr hd).1
    | ok _ =>
      obtain ⟨herases, hgone⟩ := erases_of_drops hnot hs hrefs hr hr₂
      refine assertBaseUntouched_told.mono fun r h₃ hr₃ => ?_
      obtain ⟨rfl, hr₃⟩ := hr₃
      refine ⟨herases, hr₃.mono (fun hf hc => hf ?_ ?_) fun _ _ => hgone⟩
      · rw [herases.shrinks.head, hc.head]
      · rw [herases.shrinks.status, hc.status]

/-- The refusal of a merged candidate, by what the look-up of its branch gave. -/
theorem refusal_told {sha : String} (htip : ∀ tip,
      (h.repo session.baseRepo).refs (branchRef session.branch) = some tip → sha = tip) :
    (Prog.onlyWhen (sha ≠ session.baseSha) (refuseMerged py session sha)).Guarded (OnHost faults)
      (fun r w => w = h ∧ Told (h.Merged session ∨ faults ∨
          (h.repo session.baseRepo).refs (branchRef session.branch) = none)
        (fun _ => ¬h.Merged session) r) h := by
  unfold Prog.onlyWhen
  split
  · next hne =>
    refine refuseMerged_told.mono fun r w hr => ⟨hr.1, hr.2.mono (fun hreach => ?_) fun _ hnot => ?_⟩
    · cases href : (h.repo session.baseRepo).refs (branchRef session.branch) with
      | none => exact .inr (.inr rfl)
      | some tip =>
        obtain rfl := htip tip href
        exact hreach.imp (fun hr => ⟨sha, href, hne, hr⟩) .inl
    · rintro ⟨tip, href, -, hr⟩
      obtain rfl := htip tip href
      exact hnot hr
  · next hbase =>
    refine ⟨rfl, ?_⟩
    rintro ⟨tip, href, hne, -⟩
    exact hbase (htip tip href ▸ hne)

theorem abort_guarded : (m.abort py session).Guarded (OnHost faults) (fun r h' =>
    h.Erases session h' ∧ Told (h.Cleanable m session → ¬h.Merged session → faults)
      (fun _ => h.Cleanable m session → h'.Gone session) r) h := by
  have hrefl : h.Erases session h := ⟨.refl h, fun _ _ => .inl rfl⟩
  refine Prog.Guarded.bind_told (m.assertOwnedSession_told) (fun hf e => ⟨hrefl, fun hc _ => hf hc⟩)
    fun _ _ => ?_
  refine Prog.Guarded.bind_told (completed_told (by simp [Asks])) (fun hf e => ⟨hrefl, fun _ _ => hf⟩)
    fun lookup hlookup => ?_
  have htip := fun tip => hlookup.tip (branchRef session.branch) tip rfl
  unfold Prog.onlyWhen
  split
  · next hzero =>
    refine Prog.Guarded.bind_told (refusal_told fun tip href => (htip tip href).2) ?_ fun _ hnot => ?_
    · rintro (hmerged | hf | hnone) e
      · exact ⟨hrefl, fun _ hnot => absurd hmerged hnot⟩
      · exact ⟨hrefl, fun _ _ => hf⟩
      · exact ⟨hrefl, fun hc _ => absurd hzero (hlookup.noTip _ rfl hnone hc.plain)⟩
    · refine (removeCandidate_guarded m hnot).mono fun r h' hr => ⟨hr.1, hr.2.mono ?_ ?_⟩
      · exact fun hf hc _ => hf hc
      · exact fun _ hgone _ => hgone
  · next hne =>
    refine ⟨hrefl, fun hc => hc.whole ?_⟩
    cases href : (h.repo session.baseRepo).refs (branchRef session.branch) with
    | none => rfl
    | some tip => exact absurd (htip tip href).1 hne

end WorktreeManager
end LineageTX
