import LineageTX.ResumeReset

/-! Crashes of a resume run: the snapshot always lies in one of its two places, and a later run
gets through exactly if the work root can still be told for the project's own. -/
namespace LineageTX
open Library
namespace ResumeSite
variable {py : Python} {mac : KeyedDigest} {key : ByteArray} {site : ResumeSite} {content : ByteArray}
  {s : ApprovalPauseSnapshot py} {t t' : Files} {known : Prop}

/-- A call that can cost the work root its marker. -/
def Damages (site : ResumeSite) (c : FileOp) : Prop :=
  c = .rmtree site.root ∨ ∃ text, c = .writeText site.marker text

/-- The snapshot is in one of its places. -/
def Kept (site : ResumeSite) (content : ByteArray) (t : Files) : Prop :=
  (site.InPlace content t ∨ site.Staged content t) ∧ site.Rooted t


/-- What a resume run keeps to: wherever a call is cut off, the snapshot is in one of its places,
and in all but two calls a work root that was known stays so. -/
abbrev Resuming (py : Python) (site : ResumeSite) (content : ByteArray) (known : Prop) :
    Contract Files Exn FileOp.Reply :=
  .alone Files.Serves fun t c => ∀ t', t.Torn c t' →
    site.Kept content t' ∧ (known → site.Damages c ∨ site.Resettable py t')

/-- What is kept between two calls. -/
def Safe (py : Python) (site : ResumeSite) (content : ByteArray) (known : Prop) (t : Files) : Prop :=
  site.Kept content t ∧ (known → site.Resettable py t)

theorem Safe.pre {c : FileOp} (h : ∀ t', t.Torn c t' → site.Safe py content known t') :
    (Resuming py site content known).pre t c :=
  fun t' htorn => ⟨(h t' htorn).1, fun hknown => .inr ((h t' htorn).2 hknown)⟩

/-- Questions on the way. -/
theorem asks_guarded {α : Type} {p : FileProg α} (hp : p.Calls FileOp.Asks)
    (h : site.Safe py content known t) :
    p.Guarded (Resuming py site content known) (fun _ t' => t' = t) t := by
  refine hp.guarded (φ := fun t' => t' = t) rfl (fun _ _ _ hsame h => ?_) ?_ ?_
  · exact Eq.trans hsame h
  · rintro c reply t₁ t₂ hasks - rfl hserve
    exact served_ask hasks hserve
  · rintro c t₁ hasks - rfl
    exact Safe.pre fun t' htorn => by rwa [Files.torn_asks hasks htorn]

/-- One question, and then the rest. -/
theorem ask_guarded {α : Type} {c : FileOp} {f : c.Reply → FileProg α} {post : Result α → Files → Prop}
    (hasks : c.Asks) (h : site.Safe py content known t)
    (herror : ∀ e, post (.error e) t)
    (hok : ∀ a, t.answer c = (.ok a, t) → (f a).Guarded (Resuming py site content known) post t) :
    (c.run >>= f).Guarded (Resuming py site content known) post t := by
  refine Prog.Guarded.perform_bind ?_ (fun e t' hserve => ?_) fun a t' hserve => ?_
  · exact Safe.pre fun t' htorn => by rwa [Files.torn_asks hasks htorn]
  · cases served_ask hasks hserve
    exact herror e
  · cases served_ask hasks hserve
    exact hok a hserve

theorem staging_guarded (hplace : site.InPlace content t) (h : site.Safe py content known t) :
    (FileOp.rename site.snapshot site.staging).run.Guarded (Resuming py site content known)
      (fun _ t' => site.Staged content t' ∧ site.Safe py content known t') t := by
  have hrename := rename_free hplace.1 hplace.2
  have hmoved : site.Moved t ((t.remove site.snapshot).set site.staging (.file content)) :=
    moved_kept (.inl ⟨rfl, rfl⟩)
  have hstaged : site.Staged content ((t.remove site.snapshot).set site.staging (.file content)) :=
    staged_moved
  have hafter : site.Safe py content known
      ((t.remove site.snapshot).set site.staging (.file content)) :=
    ⟨⟨.inr hstaged, hmoved.rooted hstaged.1 h.1.2⟩, fun hknown => hmoved.resettable.mpr (h.2 hknown)⟩
  refine Prog.Guarded.perform_alone (Safe.pre fun t' htorn => ?_) fun r t' hserve => ?_
  · cases htorn with
    | before => exact h
    | after => rw [hrename]; exact hafter
  · cases hrename.symm.trans hserve
    exact ⟨hstaged, hafter⟩

theorem stage_guarded (h : site.Safe py content known t) :
    (site.stageSnapshot py mac key).Guarded (Resuming py site content known)
      (fun r t' => ∀ s, r = .ok s → site.Staged content t' ∧ site.Safe py content known t') t := by
  have hread : ∀ path, (readSignedPauseSnapshot py mac path key).Calls FileOp.Asks := by
    intro path
    refine Prog.Calls.bind (Prog.calls_lift _) fun _ => Prog.Calls.bind ?_ fun _ => Prog.calls_lift _
    refine Prog.Calls.tryCatch ?_ fun e => ?_
    · exact Prog.Calls.bind (Prog.calls_perform.mpr trivial) fun _ => Prog.calls_lift _
    · exact Prog.Calls.ite (Prog.calls_lift _) (Prog.calls_throw _)
  unfold stageSnapshot
  refine ask_guarded (c := .isFile _) trivial h (fun _ _ => nofun) fun snapshotExists hsnapshot => ?_
  refine ask_guarded (c := .isFile _) trivial h (fun _ _ => nofun) fun stagingExists hstaging => ?_
  refine Prog.Guarded.lift_bind (fun _ _ _ => nofun) fun _ _ => ?_
  refine Prog.Guarded.bind ((asks_guarded (hread _) h).mono fun r t₁ hsame => ?_)
  cases hsame
  cases r with
  | error e => exact nofun
  | ok s =>
    rcases h.1.1 with hplace | hstaged
    · rw [isFile_file hplace.1] at hsnapshot
      cases hsnapshot
      refine Prog.Guarded.bind ?_
      rw [Prog.onlyWhen, if_pos rfl]
      refine (staging_guarded hplace h).mono fun r t₂ hr => ?_
      cases r with
      | error e => exact nofun
      | ok u => exact fun _ _ => hr
    · rw [isFile_none hstaged.1] at hsnapshot
      cases hsnapshot
      exact fun _ _ => ⟨hstaged, h⟩

theorem requireOwned_asks : (site.requireOwned py).Calls FileOp.Asks := by
  have hread : (readJson py site.marker).Calls FileOp.Asks := by
    refine Prog.Calls.bind ?_ fun _ => Prog.Calls.bind (Prog.calls_lift _) fun _ => Prog.calls_pure _
    refine Prog.Calls.tryCatch ?_ fun e => ?_
    · exact Prog.Calls.bind (Prog.calls_perform.mpr trivial) fun _ => Prog.calls_lift _
    · exact Prog.Calls.ite (Prog.calls_lift _) (Prog.calls_throw _)
  refine Prog.Calls.bind (Prog.calls_perform.mpr trivial) fun _ => ?_
  refine Prog.Calls.bind (Prog.calls_perform.mpr trivial) fun _ => ?_
  refine Prog.Calls.bind (Prog.calls_lift _) fun _ => ?_
  exact Prog.Calls.bind hread fun _ => Prog.calls_lift _

/-- A removal of the work root that is cut off does not touch the snapshot beside it. -/
theorem rmtree_kept (hroot : t.get? site.root = some .directory) (hstaged : site.Staged content t)
    (htorn : t.Torn (.rmtree site.root) t') : site.Kept content t' := by
  have hrmtree : t.answer (.rmtree site.root) = (.ok (), t.removeTree site.root) := by
    rw [Files.answer, if_pos hroot]
  cases htorn with
  | before => exact ⟨.inr hstaged, fun h => absurd hroot h⟩
  | after =>
    rw [hrmtree]
    have hcleared : site.Cleared t (t.removeTree site.root) := cleared_removeTree
    refine ⟨.inr ⟨hcleared.below _ site.snapshot_below, ?_⟩, fun _ p hp => hcleared.below p hp⟩
    rw [hcleared.others _ site.staging_ne_root site.staging_beside, hstaged.2]
  | rmtree _ hout hin hfull =>
    refine ⟨.inr ⟨?_, ?_⟩, fun hgone p hp => ?_⟩
    · exact (hin site.snapshot).elim id fun h => h.trans hstaged.1
    · rw [hout _ site.staging_ne_root site.staging_beside, hstaged.2]
    · by_contra hleft
      exact hgone ((hfull _ _ hp (.inl rfl) hleft).trans hroot)

/-- The work root is gone, and the snapshot lies beside it. -/
theorem Cleared.staged (h : site.Cleared t t') (hstaged : site.Staged content t) :
    site.Staged content t' :=
  ⟨h.below _ site.snapshot_below,
    (h.others _ site.staging_ne_root site.staging_beside).trans hstaged.2⟩

theorem Cleared.safe (h : site.Cleared t t') (hstaged : site.Staged content t) :
    site.Safe py content known t' :=
  ⟨⟨.inr (h.staged hstaged), fun _ p hp => h.below p hp⟩,
    fun _ => .inr ⟨.inl h.gone, fun p hp _ => h.below p hp⟩⟩

theorem clear_guarded (hlink : (t.get? site.root).any Node.isLink = false)
    (hstaged : site.Staged content t) (h : site.Safe py content known t) :
    (site.clear py true).Guarded (Resuming py site content known)
      (fun r t' => r = .ok () → site.Cleared t t') t := by
  unfold clear
  refine ask_guarded (c := .isPresent _) trivial h (fun _ he => by cases he) fun isPresent hpresent => ?_
  split
  · refine ask_guarded (c := .hasEntries _) trivial h (fun _ he => by cases he) fun hasEntries hentries => ?_
    have hroot : t.get? site.root = some .directory := by
      by_contra hnot
      rw [Files.answer, if_neg hnot] at hentries
      cases hentries
    split
    · refine Prog.Guarded.lift_bind (fun _ _ he => by cases he) fun _ _ => ?_
      refine Prog.Guarded.bind ((asks_guarded requireOwned_asks h).mono fun r t₁ hsame => ?_)
      cases hsame
      cases r with
      | error e => exact fun he => by cases he
      | ok u =>
        refine Prog.Guarded.perform_alone (fun t' htorn => ?_) fun r t' hserve => ?_
        · exact ⟨rmtree_kept hroot hstaged htorn, fun _ => .inl (.inl rfl)⟩
        · rw [Files.Serves, Files.answer, if_pos hroot] at hserve
          cases hserve
          exact fun _ => cleared_removeTree
    · rw [Prog.onlyWhen, if_pos rfl]
      next hempty =>
      rw [hasEntries_directory hroot] at hentries
      have hempty : t.isEmptyAt site.root = true := by
        cases hentries
        simpa using hempty
      have hcleared : site.Cleared t (t.remove site.root) := by
        have hbelow := Files.isEmptyAt_iff.mp hempty
        refine ⟨?_, fun p hp => ?_, fun p hne _ => ?_⟩
        · rw [Files.get?_remove, if_pos rfl]
        · rw [Files.get?_remove, if_neg (site.root_ne_below hp), hbelow p hp]
        · rw [Files.get?_remove, if_neg hne]
      have hrmdir : t.answer (.rmdir site.root) = (.ok (), t.remove site.root) := by
        rw [Files.answer, if_pos ⟨hroot, hempty⟩]
      refine Prog.Guarded.perform_alone (Safe.pre fun t' htorn => ?_) fun r t' hserve => ?_
      · cases htorn with
        | before => exact h
        | after => rw [hrmdir]; exact hcleared.safe hstaged
      · cases hrmdir.symm.trans hserve
        exact fun _ => hcleared
  · next hnothing =>
    intro _
    have hnone : t.get? site.root = none := by
      rw [answer_isPresent] at hpresent
      cases hroot : t.get? site.root with
      | none => rfl
      | some node =>
        rw [hroot] at hpresent hlink
        cases node with
        | link target => cases hlink
        | _ => cases hpresent; exact absurd rfl hnothing
    exact ⟨hnone, h.1.2 (by rw [hnone]; intro hdirectory; cases hdirectory), fun p _ _ => rfl⟩

/-- The new work root with its marker. -/
def Ready (py : Python) (site : ResumeSite) (content : ByteArray) (t : Files) : Prop :=
  site.Staged content t ∧ site.Marked py t

theorem Ready.safe (h : site.Ready py content t) : site.Safe py content known t :=
  ⟨⟨.inr h.1, fun hgone => absurd h.2.1 hgone⟩, fun _ => .inl h.2⟩

/-- A work root with nothing in it. -/
theorem renew_guarded (hcleared : t'.Serves (.mkdir site.root false) (.ok ()) t)
    (hgone : t'.get? site.root = none) (hbelow : ∀ p, isBelow site.root p = true → t'.get? p = none)
    (hstaged : site.Staged content t') :
    (FileOp.writeText site.marker site.markerText).run.Guarded (Resuming py site content known)
      (fun r t₂ => r = .ok () → site.Ready py content t₂) t := by
  cases (mkdir_root hgone).symm.trans hcleared
  have hne := site.root_ne_below site.marker_below
  have hnone : Dict.get? (t'.set site.root .directory) site.marker = none := by
    rw [Dict.get?_set, if_neg hne, hbelow _ site.marker_below]
  have hkept : ∀ node, site.Staged content ((t'.set site.root .directory).set site.marker node) ∧
      Dict.get? ((t'.set site.root .directory).set site.marker node) site.root = some .directory := by
    intro node
    refine ⟨⟨?_, ?_⟩, ?_⟩
    · rw [Dict.get?_set, if_neg site.marker_ne_snapshot.symm, Dict.get?_set,
        if_neg (site.root_ne_below site.snapshot_below), hstaged.1]
    · rw [Dict.get?_set, if_neg (site.staging_ne_below site.marker_below), Dict.get?_set,
        if_neg site.staging_ne_root, hstaged.2]
    · rw [Dict.get?_set, if_neg hne.symm, Dict.get?_set, if_pos rfl]
  have hwritten := writeText_none hnone site.markerText
  refine Prog.Guarded.perform_alone (fun t₂ htorn => ⟨?_, fun _ => .inl (.inr ⟨_, rfl⟩)⟩)
    fun r t₂ hserve => ?_
  · cases htorn with
    | before =>
      refine ⟨.inr ⟨?_, ?_⟩, fun h => absurd ?_ h⟩
      · rw [Dict.get?_set, if_neg (site.root_ne_below site.snapshot_below), hstaged.1]
      · rw [Dict.get?_set, if_neg site.staging_ne_root, hstaged.2]
      · rw [Dict.get?_set, if_pos rfl]
    | after =>
      rw [hwritten]
      exact ⟨.inr (hkept _).1, fun h => absurd (hkept _).2 h⟩
    | writeText => exact ⟨.inr (hkept _).1, fun h => absurd (hkept _).2 h⟩
  · cases hwritten.symm.trans hserve
    refine fun _ => ⟨(hkept _).1, (hkept _).2, _, ?_, owns_written⟩
    rw [Dict.get?_set, if_pos rfl]

theorem mkdir_safe (hcleared : site.Cleared t t') (hstaged : site.Staged content t) {t₂ : Files}
    (htorn : t'.Torn (.mkdir site.root false) t₂) : site.Safe py content known t₂ := by
  have hsafe : site.Safe py content known t' := hcleared.safe hstaged
  cases htorn with
  | before => exact hsafe
  | after =>
    rw [mkdir_root hcleared.gone]
    have hbelow : ∀ p, isBelow site.root p = true →
        Dict.get? (t'.set site.root .directory) p = none := by
      intro p hp
      rw [Dict.get?_set, if_neg (site.root_ne_below hp), hcleared.below p hp]
    have hstaging : Dict.get? (t'.set site.root .directory) site.staging = some (.file content) := by
      rw [Dict.get?_set, if_neg site.staging_ne_root, (hcleared.staged hstaged).2]
    refine ⟨⟨.inr ⟨hbelow _ site.snapshot_below, hstaging⟩, fun _ p hp => hbelow p hp⟩, fun _ => ?_⟩
    refine .inr ⟨.inr ?_, fun p hp _ => hbelow p hp⟩
    rw [Dict.get?_set, if_pos rfl]
  | mkdir hmade ht₂ =>
    -- a work root of one name has no directory on its way
    rw [directoriesTo_part site.isName, List.prefix_nil] at hmade
    cases hmade
    cases ht₂
    exact hsafe

theorem prepare_guarded (hstaged : site.Staged content t) (h : site.Safe py content known t) :
    (site.prepareWorkRoot py true).Guarded (Resuming py site content known)
      (fun r t' => r = .ok () → site.Ready py content t') t := by
  unfold prepareWorkRoot
  refine ask_guarded (c := .isLink _) trivial h (fun _ => nofun) fun isLink hlink => ?_
  refine Prog.Guarded.lift_bind (fun _ _ => nofun) fun _ hplain => ?_
  refine Prog.Guarded.lift_bind (fun _ _ => nofun) fun _ _ => ?_
  have hplain : (t.get? site.root).any Node.isLink = false := by
    rw [answer_isLink] at hlink
    cases hlink
    simpa using require_eq_ok.mp hplain
  refine Prog.Guarded.bind ((clear_guarded hplain hstaged h).mono fun r t₁ hcleared => ?_)
  cases r with
  | error e => exact nofun
  | ok u =>
    have hcleared := hcleared rfl
    refine Prog.Guarded.perform_bind (Safe.pre fun t₂ htorn => mkdir_safe hcleared hstaged htorn)
      (fun _ _ _ => nofun) fun _ t₂ hmkdir => ?_
    exact renew_guarded hmkdir hcleared.gone hcleared.below (hcleared.staged hstaged)

theorem fixtures_guarded {fixtures : FileProg Unit} (hfixtures : fixtures.Calls site.Spares)
    (h : site.Ready py content t) : fixtures.Guarded (Resuming py site content known)
      (fun _ t' => site.Ready py content t') t := by
  have hspared : ∀ {c t₁ t₂}, site.Spares c → site.Ready py content t₁ → t₁.Torn c t₂ →
      site.Ready py content t₂ := by
    rintro c t₁ t₂ hspares ⟨⟨hnone, hsome⟩, hroot, bytes, hmarker, howns⟩ htorn
    obtain ⟨hroot₂, hmarker₂, hsnapshot, hstaging⟩ := hspares t₁ t₂ hroot htorn
    exact ⟨⟨hsnapshot.trans hnone, hstaging.trans hsome⟩, hroot₂.trans hroot, bytes,
      hmarker₂.trans hmarker, howns⟩
  refine hfixtures.guarded h ?_ ?_ ?_
  · rintro c t₁ t₂ rfl hready
    exact hready
  · intro c r t₁ t₂ hspares _ hready hserve
    have hanswer : (t₁.answer c).2 = t₂ := congrArg Prod.snd hserve
    exact hspared hspares hready (hanswer ▸ .after c)
  · intro c t₁ hspares _ hready
    exact Safe.pre fun t₂ htorn => (hspared hspares hready htorn).safe

theorem restore_guarded (h : site.Ready py content t) :
    site.restoreSnapshot.Guarded (Resuming py site content known) (fun _ _ => True) t := by
  unfold restoreSnapshot
  refine ask_guarded (c := .isFile _) trivial h.safe (fun _ => trivial) fun _ _ => ?_
  refine Prog.Guarded.lift_bind (fun _ _ => trivial) fun _ _ => ?_
  refine ask_guarded (c := .isPresent _) trivial h.safe (fun _ => trivial) fun _ _ => ?_
  refine Prog.Guarded.lift_bind (fun _ _ => trivial) fun _ _ => ?_
  have hne : site.staging ≠ site.snapshot := site.staging_ne_below site.snapshot_below
  have hrename := rename_free h.1.2 h.1.1
  refine Prog.Guarded.perform_alone (Safe.pre fun t' htorn => ?_) fun _ _ _ => trivial
  cases htorn with
  | before => exact h.safe
  | after =>
    rw [hrename]
    have hmoved : site.Moved t ((t.remove site.staging).set site.snapshot (.file content)) :=
      moved_kept (.inr ⟨rfl, rfl⟩)
    refine ⟨⟨.inl ⟨?_, ?_⟩, fun hgone => absurd (hmoved.root.trans h.2.1) hgone⟩, fun _ =>
      hmoved.resettable.mpr (.inl h.2)⟩
    · rw [get?_moved, if_pos rfl]
    · rw [get?_moved, if_neg hne, if_pos rfl]

theorem resume_guarded {fixtures : FileProg Unit} (hfixtures : fixtures.Calls site.Spares)
    (h : site.Safe py content known t) :
    (site.resume py mac key fixtures).Guarded (Resuming py site content known) (fun _ _ => True) t := by
  unfold resume
  refine Prog.Guarded.bind ((stage_guarded h).mono fun r t₁ hr => ?_)
  cases r with
  | error e => trivial
  | ok s =>
    obtain ⟨hstaged, hsafe⟩ := hr s rfl
    refine Prog.Guarded.bind ((prepare_guarded hstaged hsafe).mono fun r t₂ hr => ?_)
    cases r with
    | error e => trivial
    | ok u =>
      refine Prog.Guarded.bind ((fixtures_guarded hfixtures (hr rfl)).mono fun r t₃ hready => ?_)
      cases r with
      | error e => trivial
      | ok u =>
        refine Prog.Guarded.bind ((restore_guarded hready).mono fun r t₄ _ => ?_)
        cases r <;> trivial

/-- Text that is written elsewhere. -/
theorem spares_writeText {p text : String} (hroot : p ≠ site.root) (hmarker : p ≠ site.marker)
    (hsnapshot : p ≠ site.snapshot) (hstaging : p ≠ site.staging) :
    site.Spares (.writeText p text) := by
  intro t t' _ htorn
  have hset : ∀ node, ∀ q, p ≠ q → Dict.get? (t.set p node) q = t.get? q := by
    intro node q hne
    rw [Dict.get?_set, if_neg hne.symm]
  have hother : ∀ q, p ≠ q → t'.get? q = t.get? q := by
    intro q hne
    cases htorn with
    | before => rfl
    | after =>
      rw [Files.answer]
      split
      · exact hset _ _ hne
      · exact hset _ _ hne
      · rfl
    | writeText => exact hset _ _ hne
  exact ⟨hother _ hroot, hother _ hmarker, hother _ hsnapshot, hother _ hstaging⟩

/-- The removal of a work root that has its marker. -/
theorem rmtree_called (hallowed : site.Allowed) (h : site.Marked py t) :
    (site.prepareWorkRoot py true).MakesCall Files.Serves t (.rmtree site.root) t := by
  obtain ⟨hroot, bytes, hmarker, howns⟩ := h
  have hlink : t.answer (.isLink site.root) = (.ok false, t) := by
    rw [answer_isLink, hroot]
    rfl
  have hentries : t.answer (.hasEntries site.root) = (.ok true, t) := by
    have hempty : t.isEmptyAt site.root = false := by
      refine Bool.eq_false_iff.mpr fun hempty => ?_
      rw [Files.isEmptyAt_iff.mp hempty _ site.marker_below] at hmarker
      cases hmarker
    rw [hasEntries_directory hroot, hempty]
    rfl
  obtain ⟨log, howned⟩ := Prog.exec_runs Files.answer (site.requireOwned py) t
  rw [requireOwned_exec hmarker howns] at howned
  refine Prog.MakesCall.bind (Prog.runs_perform.mpr ⟨rfl, hlink⟩) ?_
  refine Prog.MakesCall.lift_bind rfl ?_
  refine Prog.MakesCall.lift_bind (require_eq_ok.mpr hallowed : require _ _ _ = .ok ()) ?_
  refine Prog.MakesCall.left ?_
  refine Prog.MakesCall.bind (Prog.runs_perform.mpr ⟨rfl, isPresent_directory hroot⟩) ?_
  refine Prog.MakesCall.bind (Prog.runs_perform.mpr ⟨rfl, hentries⟩) ?_
  exact Prog.MakesCall.lift_bind rfl (Prog.MakesCall.bind howned (.here _ _ _))

/-- A work root whose marker is the first entry to go. -/
theorem marker_first {node : Node} {p : String} (hroot : t.get? site.root = some .directory)
    (hleaf : t.isEmptyAt site.marker = true) (hp : isBelow site.root p = true)
    (hnode : t.get? p = some node) (hmarker : p ≠ site.marker) (hsnapshot : p ≠ site.snapshot) :
    t.Torn (.rmtree site.root) (t.remove site.marker) ∧ ¬site.Resettable py (t.remove site.marker) := by
  constructor
  · refine .rmtree hroot (fun q _ hbeside => ?_) (fun q => ?_) fun q q' hq _ hleft => ?_
    · rw [Files.get?_remove, if_neg]
      rintro rfl
      rw [site.marker_below] at hbeside
      cases hbeside
    · rw [Files.get?_remove]
      split
      · exact .inl rfl
      · exact .inr rfl
    · by_cases hq' : q = site.marker
      · subst hq'
        have hnone := Files.isEmptyAt_iff.mp hleaf q' hq
        rw [Files.get?_remove, hnone, ite_self] at hleft
        exact absurd rfl hleft
      · rw [Files.get?_remove, if_neg hq']
  · rintro (⟨-, bytes, hbytes, -⟩ | ⟨-, hbare⟩)
    · rw [Files.get?_remove, if_pos rfl] at hbytes
      cases hbytes
    · have hgone := hbare p hp hsnapshot
      rw [Files.get?_remove, if_neg hmarker, hnode] at hgone
      cases hgone

def sampleWork : ResumeSite where
  parent := "/p"
  root := "work"
  project := "/p/repo"
  isName := ⟨by decide, by decide⟩

theorem sampleWork_allowed : sampleWork.Allowed := by
  unfold Allowed
  decide

/-- The work root of a pause run. -/
def sampleTree : Files :=
  (((Dict.empty.set "work" .directory).set sampleWork.marker
    (.file sampleWork.markerText.toUTF8)).set "work/intent.json" (.file "{}".toUTF8)).set
      sampleWork.snapshot (.file (signedBytes hexMac sampleKey samplePause))

/-- That work root after staging. -/
def sampleReset : Files :=
  (sampleTree.remove sampleWork.snapshot).set sampleWork.staging
    (.file (signedBytes hexMac sampleKey samplePause))

def sampleFixtures : FileProg Unit := (FileOp.writeText "work/intent.json" "{}").run

theorem sampleFixtures_spare : sampleFixtures.Calls sampleWork.Spares :=
  Prog.calls_perform.mpr (spares_writeText (by decide) (by decide) (by decide) (by decide))

theorem sampleTree_inPlace : sampleWork.InPlace (signedBytes hexMac sampleKey samplePause) sampleTree := by
  refine ⟨?_, ?_⟩
  · rw [sampleTree, Dict.get?_set, if_pos rfl]
  · decide +kernel

theorem sampleReset_marked : sampleWork.Marked samplePython sampleReset := by
  have hmoved : sampleWork.Moved sampleTree sampleReset := moved_kept (.inl ⟨rfl, rfl⟩)
  refine ⟨hmoved.root.trans (by decide +kernel), _, hmoved.marker.trans ?_, owns_written⟩
  rw [sampleTree, Dict.get?_set, if_neg sampleWork.marker_ne_snapshot, Dict.get?_set,
    if_neg (by decide), Dict.get?_set, if_pos rfl]

theorem sampleReset_torn : sampleReset.Torn (.rmtree "work") (sampleReset.remove sampleWork.marker) ∧
    ¬sampleWork.Resettable samplePython (sampleReset.remove sampleWork.marker) := by
  have hintent : sampleReset.get? "work/intent.json" = some (.file "{}".toUTF8) := by decide +kernel
  have hbelow : isBelow sampleWork.root "work/intent.json" = true := by decide
  exact marker_first sampleReset_marked.1 (by decide +kernel) hbelow hintent (by decide) (by decide)

theorem sample_dies : DiesIn (sampleWork.resume samplePython hexMac sampleKey sampleFixtures) sampleTree
    (.rmtree "work") (sampleReset.remove sampleWork.marker) := by
  obtain ⟨s, hstage, -⟩ := stage_inPlace (by decide) sampleTree_inPlace
  obtain ⟨log, hstaged⟩ := Prog.exec_runs Files.answer
    (sampleWork.stageSnapshot samplePython hexMac sampleKey) sampleTree
  rw [hstage] at hstaged
  refine ⟨sampleReset, Prog.MakesCall.bind hstaged (Prog.MakesCall.left ?_), sampleReset_torn.1⟩
  exact rmtree_called sampleWork_allowed sampleReset_marked

end ResumeSite
end LineageTX
