import LineageTX.PauseBinding
import LineageTX.ResumeRun

/-! What staging, reset and restoring of a resume run do with the files, and which trees they
do not stop at. -/
namespace LineageTX
open Library
variable {py : Python} {mac : KeyedDigest} {key : ByteArray}
namespace ResumeSite
variable (py) (site : ResumeSite) (content : ByteArray)

/-- The snapshot lies in the work root. -/
def InPlace (t : Files) : Prop :=
  t.get? site.snapshot = some (.file content) ∧ t.get? site.staging = none

/-- The snapshot lies beside the work root. -/
def Staged (t : Files) : Prop :=
  t.get? site.snapshot = none ∧ t.get? site.staging = some (.file content)

/-- Nothing lies below a work root that is no directory. -/
def Rooted (t : Files) : Prop :=
  t.get? site.root ≠ some .directory → ∀ p, isBelow site.root p = true → t.get? p = none

/-- The bytes of a marker of this project. -/
def Owns (bytes : ByteArray) : Prop :=
  ∃ text value, decodeText bytes = .ok text ∧
    py.jsonLoads (.other "JSONDecodeError") "" text = .ok value ∧ isObj value = true ∧
    Json.sortKeys value = Json.sortKeys site.expected

/-- The work root has its marker. -/
def Marked (t : Files) : Prop :=
  t.get? site.root = some .directory ∧
    ∃ bytes, t.get? site.marker = some (.file bytes) ∧ site.Owns py bytes

/-- There is nothing in the work root but the snapshot, or no work root. -/
def Bare (t : Files) : Prop :=
  (t.get? site.root = none ∨ t.get? site.root = some .directory) ∧
    ∀ p, isBelow site.root p = true → p ≠ site.snapshot → t.get? p = none

/-- The ownership check lets the work root be replaced. -/
def Resettable (t : Files) : Prop := site.Marked py t ∨ site.Bare t

/-- The work root is gone, and nothing else has changed. -/
structure Cleared (t t' : Files) : Prop where
  gone : t'.get? site.root = none
  below : ∀ p, isBelow site.root p = true → t'.get? p = none
  others : ∀ p, p ≠ site.root → isBelow site.root p = false → t'.get? p = t.get? p

section Paths

theorem isBelow_append (path rest : String) : isBelow path (path ++ "/" ++ rest) = true := by
  simp [isBelow, startsWith]

theorem snapshot_below : isBelow site.root site.snapshot = true := isBelow_append _ _

theorem marker_below : isBelow site.root site.marker = true := isBelow_append _ _

theorem marker_ne_snapshot : site.marker ≠ site.snapshot := by
  intro h
  rw [marker, snapshot] at h
  have hnames := (String.append_right_inj _).mp h
  revert hnames
  decide

theorem root_ne_below {p : String} (h : isBelow site.root p = true) : p ≠ site.root := by
  rintro rfl
  have hprefix := List.isPrefixOf_iff_prefix.mp h
  have := hprefix.length_le
  simp at this

theorem staging_beside : isBelow site.root site.staging = false := by
  refine Bool.eq_false_iff.mpr fun h => ?_
  have hprefix := List.isPrefixOf_iff_prefix.mp h
  have hstaging : site.staging.toList =
      ('.' :: site.root.toList) ++ ("." ++ snapshotName ++ ".pending-reset").toList := by
    simp [staging]
  rw [hstaging] at hprefix
  have hshort : (site.root ++ "/").toList <+: '.' :: site.root.toList := by
    refine List.prefix_of_prefix_length_le hprefix (List.prefix_append _ _) ?_
    simp
  have heq := hshort.eq_of_length (by simp)
  have hslash : '/' ∈ '.' :: site.root.toList := by
    rw [← heq]
    simp
  rcases List.mem_cons.mp hslash with hdot | hroot
  · revert hdot
    decide
  · exact site.isName.noSlash hroot

theorem staging_ne_root : site.staging ≠ site.root := by
  intro h
  have hlength := congrArg String.length h
  have hdot : ".".length = 1 := by decide
  simp [staging] at hlength
  omega

theorem staging_ne_below {p : String} (h : isBelow site.root p = true) : site.staging ≠ p := by
  rintro rfl
  rw [site.staging_beside] at h
  cases h

end Paths
section Runs
variable {py site content} {s : ApprovalPauseSnapshot py} {t t' : Files}

theorem exec_perform {c : FileOp} : c.run.exec Files.answer t = t.answer c := rfl

/-- A call that is answered with a value, and then the rest. -/
theorem exec_call {α : Type} {c : FileOp} {f : c.Reply → FileProg α} {a : c.Reply}
    (h : t.answer c = (.ok a, t')) : (c.run >>= f).exec Files.answer t = (f a).exec Files.answer t' :=
  Prog.exec_bind_ok h

theorem answer_isFile {p : String} :
    t.answer (.isFile p) = (.ok ((t.get? p).any fun n => n.content?.isSome), t) := rfl

theorem answer_isPresent {p : String} :
    t.answer (.isPresent p) = (.ok ((t.get? p).any Node.isThere), t) := rfl

theorem answer_isLink {p : String} : t.answer (.isLink p) = (.ok ((t.get? p).any Node.isLink), t) := rfl

theorem exec_require {α : Type} {check : Bool} {cls : ExnClass} {msg : String} {f : Unit → FileProg α}
    (h : check = true) : ((liftM (require check cls msg) : FileProg Unit) >>= f).exec Files.answer t =
      (f ()).exec Files.answer t := by
  subst h
  exact Prog.exec_lift_bind rfl

theorem isFile_file {p : String} (h : t.get? p = some (.file content)) :
    t.answer (.isFile p) = (.ok true, t) := by
  rw [answer_isFile, h]
  rfl

theorem isFile_none {p : String} (h : t.get? p = none) : t.answer (.isFile p) = (.ok false, t) := by
  rw [answer_isFile, h]
  rfl

theorem isPresent_none {p : String} (h : t.get? p = none) :
    t.answer (.isPresent p) = (.ok false, t) := by
  rw [answer_isPresent, h]
  rfl

theorem rename_free {source target : String} (hsource : t.get? source = some (.file content))
    (htarget : t.get? target = none) : t.answer (.rename source target) =
      (.ok (), (t.remove source).set target (.file content)) := by
  rw [Files.answer_rename hsource nofun, htarget, if_neg nofun]

theorem get?_moved {source target p : String} {node : Node} :
    Dict.get? ((t.remove source).set target node) p =
      if p = target then some node else if p = source then none else t.get? p := by
  rw [Dict.get?_set, Files.get?_remove]

/-- Staging moves a snapshot out of the work root. -/
theorem stage_inPlace (hkey : 32 ≤ key.size) (h : site.InPlace (signedBytes mac key s) t) :
    ∃ s', (site.stageSnapshot py mac key).exec Files.answer t =
        (.ok s', (t.remove site.snapshot).set site.staging (.file (signedBytes mac key s))) ∧
      s'.Equal py s := by
  obtain ⟨hplace, hnone⟩ := h
  obtain ⟨s', hread, hequal⟩ := read_signed hkey hplace
  have hrename := rename_free hplace hnone
  refine ⟨s', ?_, hequal⟩
  unfold stageSnapshot
  rw [exec_call (isFile_file hplace), exec_call (isFile_none hnone),
    exec_require (show (!(true && false)) = true from rfl), if_pos rfl, Prog.exec_bind_ok hread,
    Prog.onlyWhen, if_pos rfl, exec_call hrename]
  rfl

/-- Staging leaves one that an earlier run has moved out. -/
theorem stage_staged (hkey : 32 ≤ key.size) (h : site.Staged (signedBytes mac key s) t) :
    ∃ s', (site.stageSnapshot py mac key).exec Files.answer t = (.ok s', t) ∧ s'.Equal py s := by
  obtain ⟨hnone, hstaged⟩ := h
  obtain ⟨s', hread, hequal⟩ := read_signed hkey hstaged
  refine ⟨s', ?_, hequal⟩
  unfold stageSnapshot
  rw [exec_call (isFile_none hnone), exec_call (isFile_file hstaged),
    exec_require (show (!(false && true)) = true from rfl), if_neg Bool.false_ne_true,
    Prog.exec_bind_ok hread, Prog.onlyWhen, if_neg Bool.false_ne_true]
  rfl

/-- At most the snapshot has moved. -/
def Moved (site : ResumeSite) (t t' : Files) : Prop :=
  ∀ p, p ≠ site.snapshot → p ≠ site.staging → t'.get? p = t.get? p

theorem moved_kept {source target : String} {node : Node}
    (hnames : source = site.snapshot ∧ target = site.staging ∨
      source = site.staging ∧ target = site.snapshot) :
    site.Moved t ((t.remove source).set target node) := by
  intro p hsnapshot hstaging
  rw [get?_moved]
  rcases hnames with ⟨rfl, rfl⟩ | ⟨rfl, rfl⟩
  · rw [if_neg hstaging, if_neg hsnapshot]
  · rw [if_neg hsnapshot, if_neg hstaging]

theorem staged_moved {node : Node} :
    Dict.get? ((t.remove site.snapshot).set site.staging node) site.snapshot = none ∧
      Dict.get? ((t.remove site.snapshot).set site.staging node) site.staging = some node := by
  have hne : site.snapshot ≠ site.staging := (site.staging_ne_below site.snapshot_below).symm
  constructor
  · rw [get?_moved, if_neg hne, if_pos rfl]
  · rw [get?_moved, if_pos rfl]

/-- What staging does with the file system. -/
theorem stage_exec (hkey : 32 ≤ key.size)
    (h : site.InPlace (signedBytes mac key s) t ∨ site.Staged (signedBytes mac key s) t) :
    ∃ s' t', (site.stageSnapshot py mac key).exec Files.answer t = (.ok s', t') ∧ s'.Equal py s ∧
      site.Staged (signedBytes mac key s) t' ∧ site.Moved t t' := by
  rcases h with hplace | hstaged
  · obtain ⟨s', hexec, hequal⟩ := stage_inPlace hkey hplace
    exact ⟨s', _, hexec, hequal, staged_moved, moved_kept (.inl ⟨rfl, rfl⟩)⟩
  · obtain ⟨s', hexec, hequal⟩ := stage_staged hkey hstaged
    exact ⟨s', t, hexec, hequal, hstaged, fun _ _ _ => rfl⟩

/-- Restoring puts the snapshot back in its place. -/
theorem restore_exec (h : site.Staged content t) :
    ∃ t', site.restoreSnapshot.exec Files.answer t = (.ok (), t') ∧ site.InPlace content t' := by
  obtain ⟨hnone, hstaged⟩ := h
  have hrename := rename_free hstaged hnone
  have hne : site.staging ≠ site.snapshot := site.staging_ne_below site.snapshot_below
  have hexec : site.restoreSnapshot.exec Files.answer t =
      (.ok (), (t.remove site.staging).set site.snapshot (.file content)) := by
    unfold restoreSnapshot
    rw [exec_call (isFile_file hstaged), exec_require rfl, exec_call (isPresent_none hnone),
      exec_require (show (!false) = true from rfl)]
    exact hrename
  refine ⟨_, hexec, ?_, ?_⟩
  · rw [get?_moved, if_pos rfl]
  · rw [get?_moved, if_neg hne, if_pos rfl]

/-- The marker that is written is one of this project. -/
theorem owns_written : site.Owns py site.markerText.toUTF8 := by
  have hloaded : py.Loaded site.expected := by
    refine loaded_obj.mpr ⟨by simp, ?_⟩
    simp [loaded_str, loaded_int]
  have hloads : py.jsonLoads (.other "JSONDecodeError") "" site.markerText =
      .ok (Json.sortKeys site.expected) := jsonLoads_dumps hloaded ⟨true, some 2, 0, 1⟩ (by decide)
  refine ⟨site.markerText, _, decodeText_toUTF8 (dumps_noReturn _ _), hloads, ?_, ?_⟩
  · rw [expected, Json.sortKeys_obj]
    rfl
  · exact Json.sortKeys_sortKeys _

theorem requireOwned_exec {bytes : ByteArray} (hmarker : t.get? site.marker = some (.file bytes))
    (howns : site.Owns py bytes) : (site.requireOwned py).exec Files.answer t = (.ok (), t) := by
  obtain ⟨text, value, htext, hvalue, hobj, hsame⟩ := howns
  have hlink : t.answer (.isLink site.marker) = (.ok false, t) := by
    rw [answer_isLink, hmarker]
    rfl
  have hread : t.answer (.readText site.marker) = (.ok text, t) := by
    rw [← htext, Files.answer, hmarker]
    rfl
  have hjson : (readJson py site.marker).exec Files.answer t = (.ok value, t) := by
    unfold readJson
    rw [@Prog.exec_bind_ok _ _ _ _ _ _ _ _ _ _ value t, requireReplay, exec_require hobj]
    · rfl
    · rw [Prog.tryCatch_eq, Prog.exec_andThen, exec_call hread, hvalue]
      rfl
  unfold requireOwned
  dsimp only
  rw [exec_call (isFile_file hmarker), exec_call hlink, requireReplay,
    exec_require (show (true && !false) = true from rfl), Prog.exec_bind_ok hjson, hsame,
    decide_eq_true rfl]
  rfl

theorem isPresent_directory {p : String} (h : t.get? p = some .directory) :
    t.answer (.isPresent p) = (.ok true, t) := by
  rw [answer_isPresent, h]
  rfl

theorem hasEntries_directory {p : String} (h : t.get? p = some .directory) :
    t.answer (.hasEntries p) = (.ok (!t.isEmptyAt p), t) := by
  rw [Files.answer, if_pos h]

theorem cleared_removeTree : site.Cleared t (t.removeTree site.root) := by
  refine ⟨?_, fun p hp => ?_, fun p hne hp => ?_⟩
  · rw [Files.get?_removeTree, if_pos (.inl rfl)]
  · rw [Files.get?_removeTree, if_pos (.inr hp)]
  · rw [Files.get?_removeTree, if_neg (by simp [hne, hp])]

/-- What is there can be cleared. -/
theorem clear_exec (hsnapshot : t.get? site.snapshot = none) (h : site.Resettable py t) :
    ∃ t', (site.clear py true).exec Files.answer t = (.ok (), t') ∧ site.Cleared t t' := by
  have hbelow : site.Bare t → ∀ p, isBelow site.root p = true → t.get? p = none := by
    intro hbare p hp
    by_cases hp' : p = site.snapshot
    · rw [hp', hsnapshot]
    · exact hbare.2 p hp hp'
  unfold clear
  rcases h with ⟨hroot, bytes, hmarker, howns⟩ | hbare
  · have hentries : t.isEmptyAt site.root = false := by
      refine Bool.eq_false_iff.mpr fun hempty => ?_
      rw [Files.isEmptyAt_iff.mp hempty _ site.marker_below] at hmarker
      cases hmarker
    have hrmtree : t.answer (.rmtree site.root) = (.ok (), t.removeTree site.root) := by
      rw [Files.answer, if_pos hroot]
    refine ⟨t.removeTree site.root, ?_, cleared_removeTree⟩
    rw [exec_call (isPresent_directory hroot), if_pos rfl, exec_call (hasEntries_directory hroot), hentries,
      if_pos (show (!false) = true from rfl), requireReplay, exec_require rfl,
      Prog.exec_bind_ok (requireOwned_exec hmarker howns)]
    exact hrmtree
  · rcases hbare.1 with hroot | hroot
    · refine ⟨t, ?_, hroot, hbelow hbare, fun p _ _ => rfl⟩
      rw [exec_call (isPresent_none hroot), if_neg Bool.false_ne_true]
      rfl
    · have hempty : t.isEmptyAt site.root = true := Files.isEmptyAt_iff.mpr (hbelow hbare)
      have hrmdir : t.answer (.rmdir site.root) = (.ok (), t.remove site.root) := by
        rw [Files.answer, if_pos ⟨hroot, hempty⟩]
      refine ⟨t.remove site.root, ?_, ?_, fun p hp => ?_, fun p hne _ => ?_⟩
      · rw [exec_call (isPresent_directory hroot), if_pos rfl, exec_call (hasEntries_directory hroot),
          hempty, if_neg (show ¬(!true) = true from Bool.false_ne_true), Prog.onlyWhen, if_pos rfl]
        exact hrmdir
      · rw [Files.get?_remove, if_pos rfl]
      · rw [Files.get?_remove, if_neg (site.root_ne_below hp), hbelow hbare p hp]
      · rw [Files.get?_remove, if_neg hne]

/-- The name of a work root that is no directory of the project. -/
def Allowed (site : ResumeSite) : Prop :=
  (decide (site.absolute ≠ site.project) &&
    decide (site.absolute ≠ site.project ++ "/fixtures/lineagetx")) = true

theorem mkdir_root (hroot : t.get? site.root = none) :
    t.answer (.mkdir site.root false) = (.ok (), t.set site.root .directory) := by
  rw [Files.answer, hroot, directoriesTo_part site.isName, Files.makeDirectories]

theorem writeText_none {p : String} (h : t.get? p = none) (text : String) :
    t.answer (.writeText p text) = (.ok (), t.set p (.file text.toUTF8)) := by
  rw [Files.answer, h]

/-- The files after the work root was made anew. -/
theorem prepare_exec (hallowed : site.Allowed) (hstaged : site.Staged content t)
    (h : site.Resettable py t) :
    ∃ t', (site.prepareWorkRoot py true).exec Files.answer t = (.ok (), t') ∧
      site.Staged content t' ∧ site.Marked py t' := by
  obtain ⟨t', hclear, hcleared⟩ := clear_exec hstaged.1 h
  have hlink : t.answer (.isLink site.root) = (.ok false, t) := by
    rw [answer_isLink]
    rcases h with ⟨hroot, -⟩ | ⟨hroot | hroot, -⟩ <;> rw [hroot] <;> rfl
  have hne : site.marker ≠ site.root := site.root_ne_below site.marker_below
  have hnone : Dict.get? (t'.set site.root .directory) site.marker = none := by
    rw [Dict.get?_set, if_neg hne, hcleared.below _ site.marker_below]
  have hexec : (site.prepareWorkRoot py true).exec Files.answer t = (.ok (),
      (t'.set site.root .directory).set site.marker (.file site.markerText.toUTF8)) := by
    unfold prepareWorkRoot
    rw [exec_call hlink, requireReplay, exec_require (show (!false) = true from rfl), requireReplay,
      exec_require hallowed, Prog.exec_bind_ok hclear, exec_call (mkdir_root hcleared.gone)]
    exact writeText_none hnone _
  refine ⟨_, hexec, ⟨?_, ?_⟩, ?_, _, ?_, owns_written⟩
  · rw [Dict.get?_set, if_neg site.marker_ne_snapshot.symm, Dict.get?_set,
      if_neg (site.root_ne_below site.snapshot_below), hcleared.below _ site.snapshot_below]
  · rw [Dict.get?_set, if_neg (site.staging_ne_below site.marker_below), Dict.get?_set,
      if_neg site.staging_ne_root, hcleared.others _ site.staging_ne_root site.staging_beside, hstaged.2]
  · rw [Dict.get?_set, if_neg hne.symm, Dict.get?_set, if_pos rfl]
  · rw [Dict.get?_set, if_pos rfl]

theorem served_ask {c : FileOp} {reply : Result c.Reply} (hasks : c.Asks)
    (h : t.Serves c reply t') : t' = t := by
  have hanswer : (t.answer c).2 = t' := congrArg Prod.snd h
  exact hanswer.symm.trans (Files.answer_asks hasks)

/-- A question in a run that ends in a value. -/
theorem runs_ask {α : Type} {c : FileOp} {f : c.Reply → FileProg α} {a : α}
    {log : List (Σ op : FileOp, Except Exn op.Reply)} (hasks : c.Asks)
    (h : (c.run >>= f).Runs Files.Serves t log (.ok a) t') :
    ∃ reply log', t.answer c = (.ok reply, t) ∧ (f reply).Runs Files.Serves t log' (.ok a) t' := by
  obtain ⟨log₁, log₂, reply, t₁, -, hcall, hrest⟩ := Prog.runs_bind_ok.mp h
  obtain ⟨-, hanswer⟩ := Prog.runs_perform.mp hcall
  cases served_ask hasks hanswer
  exact ⟨reply, log₂, hanswer, hrest⟩

theorem runs_require {α : Type} {check : Bool} {cls : ExnClass} {msg : String} {f : Unit → FileProg α}
    {a : α} {log : List (Σ op : FileOp, Except Exn op.Reply)}
    (h : ((liftM (require check cls msg) : FileProg Unit) >>= f).Runs Files.Serves t log (.ok a) t') :
    check = true ∧ (f ()).Runs Files.Serves t log (.ok a) t' := by
  rcases Prog.runs_lift_bind.mp h with ⟨e, -, -, herror, -⟩ | ⟨u, hcheck, hrest⟩
  · cases herror
  · exact ⟨require_eq_ok.mp hcheck, hrest⟩

theorem runs_readJson {path : String} {value : Json} {log : List (Σ op : FileOp, Except Exn op.Reply)}
    (h : (readJson py path).Runs Files.Serves t log (.ok value) t') :
    ∃ text, (t.answer (.readText path)).1 = .ok text ∧
      py.jsonLoads (.other "JSONDecodeError") "" text = .ok value ∧ isObj value = true := by
  unfold readJson at h
  obtain ⟨log₁, log₂, loaded, t₁, -, hload, h⟩ := Prog.runs_bind_ok.mp h
  obtain ⟨hobj, h⟩ := runs_require h
  obtain ⟨-, hvalue, -⟩ := Prog.runs_pure.mp h
  cases hvalue
  rw [Prog.tryCatch_eq] at hload
  obtain ⟨_, _, r, t₂, -, hinner, hcatch⟩ := Prog.runs_andThen.mp hload
  cases r with
  | error e =>
    -- a failure is only ever turned into another one
    unfold Prog.onError at hcatch
    dsimp only at hcatch
    split at hcatch
    · obtain ⟨-, hraised, -⟩ := Prog.runs_lift.mp hcatch
      cases hraised
    · obtain ⟨-, hraised, -⟩ := Prog.runs_done.mp hcatch
      cases hraised
  | ok loaded =>
    obtain ⟨-, hsame, -⟩ := Prog.runs_done.mp hcatch
    cases hsame
    obtain ⟨text, _, htext, hparse⟩ := runs_ask (c := .readText path) trivial hinner
    obtain ⟨-, hparsed, -⟩ := Prog.runs_lift.mp hparse
    exact ⟨text, congrArg Prod.fst htext, hparsed.symm, hobj⟩

/-- The ownership check accepts a marker of this project only. -/
theorem marked_of_requireOwned {log : List (Σ op : FileOp, Except Exn op.Reply)}
    (hroot : t.get? site.root = some .directory)
    (h : (site.requireOwned py).Runs Files.Serves t log (.ok ()) t') : site.Marked py t := by
  unfold requireOwned at h
  obtain ⟨isFile, _, hfile, h⟩ := runs_ask (c := .isFile _) trivial h
  obtain ⟨isLink, _, hlink, h⟩ := runs_ask (c := .isLink _) trivial h
  obtain ⟨hplain, h⟩ := runs_require h
  obtain ⟨_, _, value, t₁, -, hread, h⟩ := Prog.runs_bind_ok.mp h
  obtain ⟨-, hsame, -⟩ := Prog.runs_lift.mp h
  obtain ⟨text, htext, hvalue, hobj⟩ := runs_readJson hread
  have hexpected := of_decide_eq_true (require_eq_ok.mp hsame.symm)
  rw [answer_isFile] at hfile
  rw [answer_isLink] at hlink
  cases hmarker : t.get? site.marker with
  | none => rw [hmarker] at hfile; cases hfile; cases hplain
  | some node =>
    rw [hmarker] at hfile hlink
    cases node with
    | file bytes =>
      refine ⟨hroot, bytes, hmarker, text, value, ?_, hvalue, hobj, hexpected⟩
      rw [Files.answer, hmarker] at htext
      exact htext
    | directory | special => cases hfile; cases hplain
    | link target => cases hlink; cases isFile <;> cases hplain

/-- A work root is only replaced if the ownership check lets it. -/
theorem resettable_of_clear {log : List (Σ op : FileOp, Except Exn op.Reply)} (hrooted : site.Rooted t)
    (hlink : (t.get? site.root).any Node.isLink = false)
    (h : (site.clear py true).Runs Files.Serves t log (.ok ()) t') : site.Resettable py t := by
  unfold clear at h
  obtain ⟨isPresent, _, hpresent, h⟩ := runs_ask (c := .isPresent _) trivial h
  rw [answer_isPresent] at hpresent
  cases hroot : t.get? site.root with
  | none =>
    have hbelow := hrooted (by rw [hroot]; intro hdirectory; cases hdirectory)
    exact .inr ⟨.inl hroot, fun p hp _ => hbelow p hp⟩
  | some node =>
    rw [hroot] at hpresent hlink
    cases node with
    | link target => cases hlink
    | directory =>
      cases hpresent
      rw [if_pos (show Option.any Node.isThere (some _) = true from rfl)] at h
      obtain ⟨hasEntries, _, hentries, h⟩ := runs_ask (c := .hasEntries _) trivial h
      rw [hasEntries_directory hroot] at hentries
      cases hempty : t.isEmptyAt site.root with
      | true =>
        have hbelow := Files.isEmptyAt_iff.mp hempty
        exact .inr ⟨.inr hroot, fun p hp _ => hbelow p hp⟩
      | false =>
        rw [hempty] at hentries
        cases hentries
        rw [if_pos (show (!false) = true from rfl)] at h
        obtain ⟨-, h⟩ := runs_require h
        obtain ⟨_, _, u, t₁, -, howned, -⟩ := Prog.runs_bind_ok.mp h
        exact .inl (marked_of_requireOwned hroot howned)
    | file _ | special =>
      -- what is no directory has no entries to ask for
      cases hpresent
      rw [if_pos (show Option.any Node.isThere (some _) = true from rfl)] at h
      obtain ⟨hasEntries, _, hentries, -⟩ := runs_ask (c := .hasEntries _) trivial h
      rw [Files.answer, if_neg (by rw [hroot]; intro hdirectory; cases hdirectory)] at hentries
      cases hentries

theorem resettable_of_prepare (hrooted : site.Rooted t)
    (h : (site.prepareWorkRoot py true).exec Files.answer t = (.ok (), t')) : site.Resettable py t := by
  obtain ⟨log, hrun⟩ := Prog.exec_runs Files.answer (site.prepareWorkRoot py true) t
  rw [h] at hrun
  unfold prepareWorkRoot at hrun
  obtain ⟨isLink, _, hlink, hrun⟩ := runs_ask (c := .isLink _) trivial hrun
  obtain ⟨hplain, hrun⟩ := runs_require hrun
  obtain ⟨-, hrun⟩ := runs_require hrun
  obtain ⟨_, _, u, t₁, -, hclear, -⟩ := Prog.runs_bind_ok.mp hrun
  rw [answer_isLink] at hlink
  cases hlink
  exact resettable_of_clear hrooted (by simpa using hplain) hclear

theorem Moved.root (h : site.Moved t t') : t'.get? site.root = t.get? site.root :=
  h _ (site.root_ne_below site.snapshot_below).symm site.staging_ne_root.symm

theorem Moved.marker (h : site.Moved t t') : t'.get? site.marker = t.get? site.marker :=
  h _ site.marker_ne_snapshot (site.staging_ne_below site.marker_below).symm

theorem Moved.resettable (h : site.Moved t t') : site.Resettable py t' ↔ site.Resettable py t := by
  have hbelow : ∀ p, isBelow site.root p = true → p ≠ site.snapshot → t'.get? p = t.get? p :=
    fun p hp hne => h p hne (site.staging_ne_below hp).symm
  have hbare : site.Bare t' ↔ site.Bare t := by
    rw [Bare, Bare, h.root]
    refine and_congr_right' (forall₃_congr fun p hp hne => ?_)
    rw [hbelow p hp hne]
  rw [Resettable, Resettable, Marked, Marked, h.root, h.marker, hbare]

theorem Moved.rooted (h : site.Moved t t') (hsnapshot : t'.get? site.snapshot = none)
    (hrooted : site.Rooted t) : site.Rooted t' := by
  intro hroot p hp
  rw [h.root] at hroot
  by_cases hp' : p = site.snapshot
  · rw [hp', hsnapshot]
  · rw [h p hp' (site.staging_ne_below hp).symm, hrooted hroot p hp]

/-- The rest of what materializes the fixture leaves the snapshot where it is. -/
theorem staged_after {fixtures : FileProg Unit} (hfixtures : fixtures.Calls site.Spares)
    (hroot : t.get? site.root = some .directory) (hstaged : site.Staged content t) :
    site.Staged content (fixtures.exec Files.answer t).2 := by
  obtain ⟨log, hrun⟩ := Prog.exec_runs Files.answer fixtures t
  have hkept := hfixtures.invariant
    (I := fun t => t.get? site.root = some .directory ∧ site.Staged content t) ?_ hrun ⟨hroot, hstaged⟩
  · exact hkept.2
  · rintro t₁ c reply t₂ hspares hserve ⟨hroot₁, hnone, hsome⟩
    have hafter : t₁.Torn c t₂ := by
      have hanswer : (t₁.answer c).2 = t₂ := congrArg Prod.snd hserve
      exact hanswer ▸ .after c
    obtain ⟨hroot₂, -, hsnapshot, hstaging⟩ := hspares t₁ t₂ hroot₁ hafter
    exact ⟨hroot₂.trans hroot₁, hsnapshot.trans hnone, hstaging.trans hsome⟩

/-- A resume run from here is not stopped by staging, reset or restoring, and puts the snapshot
back in its place. -/
def GetsPast (py : Python) (mac : KeyedDigest) (key : ByteArray) (site : ResumeSite)
    (fixtures : FileProg Unit) (content : ByteArray) (t : Files) : Prop :=
  ∃ s t₁ t₂, (site.stageSnapshot py mac key).exec Files.answer t = (.ok s, t₁) ∧
    (site.prepareWorkRoot py true).exec Files.answer t₁ = (.ok (), t₂) ∧
    ∀ t₃, fixtures.exec Files.answer t₂ = (.ok (), t₃) →
      ∃ t₄, site.restoreSnapshot.exec Files.answer t₃ = (.ok (), t₄) ∧ site.InPlace content t₄

theorem getsPast_iff {fixtures : FileProg Unit} (hallowed : site.Allowed) (hkey : 32 ≤ key.size)
    (hfixtures : fixtures.Calls site.Spares) (hrooted : site.Rooted t)
    (h : site.InPlace (signedBytes mac key s) t ∨ site.Staged (signedBytes mac key s) t) :
    site.GetsPast py mac key fixtures (signedBytes mac key s) t ↔ site.Resettable py t := by
  obtain ⟨s', t₁, hstage, -, hstaged, hmoved⟩ := stage_exec hkey h
  have hsame : site.Resettable py t₁ ↔ site.Resettable py t := hmoved.resettable
  rw [← hsame]
  constructor
  · rintro ⟨s'', t₁', t₂, hstage', hprepare, -⟩
    rw [hstage] at hstage'
    cases hstage'
    exact resettable_of_prepare (hmoved.rooted hstaged.1 hrooted) hprepare
  · intro hresettable
    obtain ⟨t₂, hprepare, hstaged₂, hmarked⟩ := prepare_exec hallowed hstaged hresettable
    refine ⟨s', t₁, t₂, hstage, hprepare, fun t₃ hfixtures₃ => ?_⟩
    have hstaged₃ := staged_after hfixtures hmarked.1 hstaged₂
    rw [hfixtures₃] at hstaged₃
    exact restore_exec hstaged₃

end Runs
end ResumeSite
end LineageTX
