import LineageTX.EvidenceSeal
import LineageTX.Records

/-! Atomic writes that were cut off: which of the files that they leave the manifest refuses. -/
namespace LineageTX
open Library
variable {py : Python} {digest : ByteArray → String} {recorder : EvidenceRecorder} {t t' u : Files}
  {path : String} {payload : ByteArray}

/-- The write has created its temporary file and has not renamed it. -/
def InterruptedWrite (t : Files) (path : String) (payload : ByteArray) (t' : Files) : Prop :=
  ∃ c t₁, (atomicWrite path payload).MakesCall Files.Serves t c t₁ ∧
    (c = .write (temporaryOf path) payload ∧ t₁.Torn c t' ∨
      c = .rename (temporaryOf path) path ∧ t' = t₁)

/-- The first directory is hidden, or there is none. -/
def AtTopOrHidden (path : String) : Prop := (pathParts path).length = 1 ∨ startsWith path "." = true

section Names

theorem endsWith_append (a b : String) : endsWith (a ++ b) b = true := by
  simp [endsWith]

/-- The beginning that a longer text has. -/
theorem startsWith_dot {a : String} (b : String) (h : a ≠ "") :
    startsWith (a ++ b) "." = startsWith a "." := by
  cases hlist : a.toList with
  | nil => exact absurd (String.toList_eq_nil_iff.mp hlist) h
  | cons c cs => simp [startsWith, hlist, List.isPrefixOf]

/-- The name of a temporary file, by the parts of its target. -/
theorem temporaryOf_parts {parts : List String} {last : String} (h : pathParts path = parts ++ [last]) :
    temporaryOf path = if parts = [] then "." ++ last ++ temporarySuffix
      else "/".intercalate parts ++ "/" ++ ("." ++ last ++ temporarySuffix) := by
  rw [temporaryOf, h, List.dropLast_concat, List.getLast?_concat, Option.getD_some]
  split
  · next hnil =>
    rw [hnil, List.nil_append, String.intercalate_singleton]
  · next hne =>
    rw [String.intercalate_append_of_ne_nil hne (by simp), String.intercalate_singleton]

theorem exists_parts (h : pathParts path ≠ []) : ∃ parts last, pathParts path = parts ++ [last] :=
  ⟨_, _, (List.dropLast_append_getLast h).symm⟩

theorem temporaryOf_suffix (h : pathParts path ≠ []) :
    endsWith (temporaryOf path) temporarySuffix = true := by
  obtain ⟨parts, last, hparts⟩ := exists_parts h
  rw [temporaryOf_parts hparts]
  split
  · exact endsWith_append _ _
  · rw [← String.append_assoc, ← String.append_assoc]
    exact endsWith_append _ _

theorem IsNormalPath.parts_ne (h : IsNormalPath path) : pathParts path ≠ [] := by
  have hsafe := h.1
  simp only [Bool.and_eq_true, decide_eq_true_eq] at hsafe
  exact hsafe.2

theorem temporaryOf_incomplete (hpath : IsNormalPath path) :
    EvidenceRecorder.isIncomplete (temporaryOf path) = true ↔ AtTopOrHidden path := by
  have hne := hpath.parts_ne
  have hsame := hpath.2
  rw [EvidenceRecorder.isIncomplete, temporaryOf_suffix hne, Bool.and_true, AtTopOrHidden]
  obtain ⟨parts, last, hparts⟩ := exists_parts hne
  rw [temporaryOf_parts hparts]
  split
  · next hnil =>
    have hdot : startsWith ("." ++ last ++ temporarySuffix) "." = true := by simp [startsWith]
    rw [hdot, hparts, hnil]
    simp
  · next hdirectory =>
    have hslash : "/".intercalate parts ++ "/" ≠ "" := by simp
    have hlength : (pathParts path).length ≠ 1 := by
      rw [hparts, List.length_append]
      have := List.length_pos_of_ne_nil hdirectory
      simp
      omega
    rw [startsWith_dot _ hslash, or_iff_right hlength, ← hsame, hparts,
      String.intercalate_append_of_ne_nil hdirectory (by simp), startsWith_dot _ hslash]

theorem temporaryOf_ne_manifest (h : pathParts path ≠ []) : temporaryOf path ≠ manifestName := by
  intro heq
  have hsuffix := temporaryOf_suffix h
  rw [heq] at hsuffix
  revert hsuffix
  decide

end Names

/-- The temporary file is there. -/
def Files.HasTemporary (t : Files) (path : String) : Prop :=
  ∃ part, t.get? (temporaryOf path) = some (.file part)

/-- The contract of an atomic write: it writes and renames a temporary file that is there. -/
abbrev Writing (path : String) (payload : ByteArray) : Contract Files Exn FileOp.Reply :=
  .alone Files.Serves fun t c =>
    c = FileOp.write (temporaryOf path) payload ∨ c = FileOp.rename (temporaryOf path) path →
      t.HasTemporary path

theorem create_guarded : (do
    (FileOp.create (temporaryOf path)).run
    (FileOp.write (temporaryOf path) payload).run
    (FileOp.rename (temporaryOf path) path).run).Guarded (Writing path payload) (fun _ _ => True) t := by
  refine Prog.Guarded.perform_bind (by simp) (fun _ _ _ => trivial) fun _ t₁ hcreate => ?_
  have hcreated : t₁.HasTemporary path := by
    rcases Files.answer_create hcreate with ⟨-, -, rfl⟩ | ⟨-, hreply, -⟩
    · exact ⟨_, by rw [Dict.get?_set, if_pos rfl]⟩
    · cases hreply
  refine Prog.Guarded.perform_bind (fun _ => hcreated) (fun _ _ _ => trivial) fun _ t₂ hwrite => ?_
  have hwritten : t₂.HasTemporary path := by
    obtain rfl : t₁.set (temporaryOf path) (.file payload) = t₂ := congrArg Prod.snd hwrite
    exact ⟨payload, by rw [Dict.get?_set, if_pos rfl]⟩
  exact Prog.Guarded.perform_alone (fun _ => hwritten) fun _ _ _ => trivial

theorem atomicWrite_guarded :
    (atomicWrite path payload).Guarded (Writing path payload) (fun _ _ => True) t := by
  refine Prog.Guarded.perform_bind (by simp) (fun _ _ _ => trivial) fun isPresent t₁ _ => ?_
  refine Prog.Guarded.bind ?_
  unfold Prog.onlyWhen
  split
  · refine Prog.Guarded.perform_alone (by simp) fun r t₂ _ => ?_
    cases r with
    | ok _ => exact create_guarded
    | error e => trivial
  · exact create_guarded

/-- An interrupted write leaves its temporary file, whatever part of it is written. -/
theorem InterruptedWrite.leftover (h : InterruptedWrite t path payload t') : t'.HasTemporary path := by
  obtain ⟨c, t₁, hcall, hcut⟩ := h
  have hfound := atomicWrite_guarded.of_makesCall hcall
  rcases hcut with ⟨rfl, htorn⟩ | ⟨rfl, rfl⟩
  · cases htorn with
    | before => exact hfound (.inl rfl)
    | after => exact ⟨payload, by rw [Files.answer, Dict.get?_set, if_pos rfl]⟩
    | write hpart => exact ⟨_, by rw [Dict.get?_set, if_pos rfl]⟩
  · exact hfound (.inr rfl)

/-- A manifest is accepted for a complete tree of plain files only. -/
theorem verifyManifest_complete {manifest : EvidenceManifest}
    (h : recorder.verifyManifest py digest t = .ok manifest) : t.Plain ∧ t.Complete := by
  unfold EvidenceRecorder.verifyManifest at h
  split at h
  · simp only [bind_eq_ok] at h
    obtain ⟨read, -, _, -, _, -, actual, hactual, -⟩ := h
    rcases EvidenceRecorder.artifactFiles_told (t := t) with
      ⟨-, htree⟩ | ⟨⟨msg, herror⟩, -⟩
    · exact htree
    · rw [herror] at hactual
      cases hactual
  · cases h

theorem not_complete (hpath : IsNormalPath path) (htop : AtTopOrHidden path) (h : u.HasTemporary path) :
    ¬u.Complete := by
  obtain ⟨part, hpart⟩ := h
  intro hcomplete
  have hat : u.artifactAt (temporaryOf path) ≠ none := by
    rw [Files.artifactAt, if_neg (temporaryOf_ne_manifest hpath.parts_ne), hpart]
    intro hnone
    cases hnone
  have hnot := hcomplete _ hat
  rw [(temporaryOf_incomplete hpath).mpr htop] at hnot
  cases hnot

/-- An atomic write where neither its temporary file nor a directory is in its way. -/
theorem atomicWrite_works (htemporary : t.get? (temporaryOf path) = none)
    (htarget : t.get? path ≠ some .directory) (hne : temporaryOf path ≠ path) :
    ((atomicWrite path payload).exec Files.answer t).1 = .ok () := by
  have hpresent : t.answer (.isPresent (temporaryOf path)) = (.ok false, t) := by
    rw [Files.answer, htemporary]
    rfl
  have hcreate : t.answer (.create (temporaryOf path)) =
      (.ok (), t.set (temporaryOf path) (.file .empty)) := by
    rw [Files.answer, htemporary]
  have hwrite : Files.answer (t.set (temporaryOf path) (.file .empty))
      (.write (temporaryOf path) payload) =
        (.ok (), (t.set (temporaryOf path) (.file .empty)).set (temporaryOf path) (.file payload)) := rfl
  have hrename := @Files.answer_rename
    ((t.set (temporaryOf path) (.file .empty)).set (temporaryOf path) (.file payload)) _ path
    (.file payload) (by rw [Dict.get?_set, if_pos rfl]) nofun
  rw [Dict.get?_set, if_neg hne.symm, Dict.get?_set, if_neg hne.symm, if_neg htarget] at hrename
  have hnothing : (Prog.onlyWhen (false = true) (FileOp.unlink (temporaryOf path)).run : FileProg Unit) =
      pure () := if_neg (by decide)
  unfold atomicWrite
  rw [Prog.exec_bind_ok (show (FileOp.isPresent (temporaryOf path)).run.exec Files.answer t = _ from hpresent),
    hnothing, Prog.exec_bind_ok (show (pure () : FileProg Unit).exec Files.answer t = (.ok (), t) from rfl),
    Prog.exec_bind_ok (show (FileOp.create (temporaryOf path)).run.exec Files.answer t = _ from hcreate),
    Prog.exec_bind_ok (show (FileOp.write (temporaryOf path) payload).run.exec Files.answer _ = _
      from hwrite)]
  exact congrArg Prod.fst hrename

/-- The tree without all files but one. -/
def Files.onlyWith (t : Files) (path : String) : Files :=
  t.filterKeys fun p => p = path || (t.get? p = some .directory && p ≠ manifestName &&
    p ≠ temporaryOf manifestName)

/-- A leftover that lies in a directory which is not hidden is sealed as an artifact. -/
theorem leftover_sealed (hpath : IsNormalPath path) (hdeep : ¬AtTopOrHidden path)
    (h : t.HasTemporary path) (now : String) (generatedAt : Option String) :
    ∃ manifest, (recorder.buildManifest digest now generatedAt
      (t.onlyWith (temporaryOf path))).1 = .ok manifest := by
  obtain ⟨part, hpart⟩ := h
  have hget : ∀ p node, (t.onlyWith (temporaryOf path)).get? p = some node →
      p = temporaryOf path ∧ node = .file part ∨
        node = .directory ∧ p ≠ manifestName ∧ p ≠ temporaryOf manifestName := by
    intro p node hnode
    rw [Files.onlyWith, Dict.get?_filterKeys] at hnode
    split at hnode
    · next hkept =>
      simp only [Bool.or_eq_true, Bool.and_eq_true, decide_eq_true_eq] at hkept
      rcases hkept with rfl | ⟨⟨hdirectory, hmanifest⟩, htemporary⟩
      · exact .inl ⟨rfl, Option.some.inj (hnode.symm.trans hpart)⟩
      · exact .inr ⟨Option.some.inj (hnode.symm.trans hdirectory), hmanifest, htemporary⟩
    · cases hnode
  have hplain : (t.onlyWith (temporaryOf path)).Plain := by
    intro p node _ hnode
    rcases hget p node hnode with ⟨-, rfl⟩ | ⟨rfl, -⟩
    · exact .inr ⟨part, rfl⟩
    · exact .inl rfl
  have hcomplete : (t.onlyWith (temporaryOf path)).Complete := by
    intro p hsome
    unfold Files.artifactAt at hsome
    split at hsome
    · exact absurd rfl hsome
    · split at hsome
      · next content hnode =>
        rcases hget p _ hnode with ⟨rfl, -⟩ | ⟨hdirectory, -⟩
        · exact Bool.eq_false_iff.mpr fun htop => hdeep ((temporaryOf_incomplete hpath).mp htop)
        · cases hdirectory
      · exact absurd rfl hsome
  have hfree : ∀ p, p = manifestName ∨ p = temporaryOf manifestName → p ≠ temporaryOf path →
      (t.onlyWith (temporaryOf path)).get? p = none := by
    intro p hp hne
    cases hnode : (t.onlyWith (temporaryOf path)).get? p with
    | none => rfl
    | some node =>
      rcases hget p node hnode with ⟨heq, -⟩ | ⟨-, hmanifest, htemporary⟩
      · exact absurd heq hne
      · exact (hp.elim hmanifest htemporary).elim
  have hother : temporaryOf manifestName ≠ temporaryOf path := by
    intro heq
    refine hdeep ((temporaryOf_incomplete hpath).mp ?_)
    rw [← heq]
    decide +kernel
  have hmanifest := hfree manifestName (.inl rfl) (temporaryOf_ne_manifest hpath.parts_ne).symm
  have htemporary := hfree (temporaryOf manifestName) (.inr rfl) hother
  unfold EvidenceRecorder.buildManifest
  rcases EvidenceRecorder.artifactFiles_told
    (t := t.onlyWith (temporaryOf path)) with ⟨hfiles, -⟩ | ⟨-, hnot⟩
  · rw [hfiles]
    dsimp only
    have hwritten := fun text => @atomicWrite_works _ _ text htemporary
      (by rw [hmanifest]; exact nofun) (by decide +kernel)
    split
    · next e t'' hexec =>
      have herror := congrArg Prod.fst hexec
      rw [hwritten] at herror
      cases herror
    · exact ⟨_, rfl⟩
  · exact absurd ⟨hplain, hcomplete⟩ hnot

/-- Until the leftover is removed the manifest is neither built nor accepted, if and only if
the artifact lies at the top of the bundle or below a hidden directory. -/
theorem interrupted_unsealed_iff (hpath : IsNormalPath path)
    (h : InterruptedWrite t path payload t') :
    (∀ u : Files, u.get? (temporaryOf path) = t'.get? (temporaryOf path) →
      (∀ now generatedAt, ∃ msg,
        recorder.buildManifest digest now generatedAt u = (.error ⟨.evidenceError, msg⟩, u)) ∧
      ∀ manifest, recorder.verifyManifest py digest u ≠ .ok manifest) ↔ AtTopOrHidden path := by
  have hleft := h.leftover
  constructor
  · intro hunsealed
    by_contra hdeep
    obtain ⟨manifest, hbuilt⟩ := leftover_sealed hpath hdeep
      hleft "" none
    have hkept : (t'.onlyWith (temporaryOf path)).get? (temporaryOf path) =
        t'.get? (temporaryOf path) := by
      rw [Files.onlyWith, Dict.get?_filterKeys, if_pos (by simp)]
    obtain ⟨msg, hrefused⟩ := (hunsealed _ hkept).1 "" none
    rw [hrefused] at hbuilt
    cases hbuilt
  · intro htop u hkept
    have hnot := not_complete hpath htop (u := u) (by
      obtain ⟨part, hpart⟩ := hleft
      exact ⟨part, hkept.trans hpart⟩)
    refine ⟨fun now generatedAt => ?_, fun manifest hverified => hnot (verifyManifest_complete hverified).2⟩
    rcases EvidenceRecorder.artifactFiles_told (t := u) with
      ⟨-, -, hcomplete⟩ | ⟨⟨msg, herror⟩, -⟩
    · exact absurd hcomplete hnot
    · exact ⟨msg, by unfold EvidenceRecorder.buildManifest; rw [herror]⟩

/-- The sample with a write of one artifact cut off before its first byte. -/
def sampleLeftover : Files := Dict.set sampleBundle (temporaryOf "state/c.json") (.file .empty)

theorem sampleLeftover_interrupted (payload : ByteArray) :
    InterruptedWrite sampleBundle "state/c.json" payload sampleLeftover := by
  have hnone : Dict.get? sampleBundle (temporaryOf "state/c.json") = none := by decide +kernel
  have hpresent : Files.answer sampleBundle (.isPresent (temporaryOf "state/c.json")) =
      (.ok false, sampleBundle) := by
    rw [Files.answer, hnone]
    rfl
  have hcreate : Files.answer sampleBundle (.create (temporaryOf "state/c.json")) =
      (.ok (), sampleLeftover) := by
    rw [Files.answer, hnone]
    rfl
  refine ⟨.write (temporaryOf "state/c.json") payload, sampleLeftover, ?_, .inl ⟨rfl, .before _⟩⟩
  refine Prog.MakesCall.bind (Prog.runs_perform.mpr ⟨rfl, hpresent⟩) ?_
  refine Prog.MakesCall.bind (Prog.Runs.not_onlyWhen (by decide)) ?_
  exact Prog.MakesCall.bind (Prog.runs_perform.mpr ⟨rfl, hcreate⟩) (Prog.MakesCall.left (.here _ _ _))

theorem sampleLeftover_unsealed_iff :
    (∀ u : Files, u.get? (temporaryOf "state/c.json") =
        Dict.get? sampleLeftover (temporaryOf "state/c.json") →
      (∀ now generatedAt, ∃ msg, sampleRecorder.buildManifest bytesDigest now generatedAt u =
        (.error ⟨.evidenceError, msg⟩, u)) ∧
      ∀ manifest, sampleRecorder.verifyManifest samplePython bytesDigest u ≠ .ok manifest) ↔
    AtTopOrHidden "state/c.json" :=
  interrupted_unsealed_iff (by decide +kernel) (sampleLeftover_interrupted .empty)

/-- The partial file of an artifact below a directory is sealed. -/
theorem partial_sealed : InterruptedWrite sampleBundle "state/c.json" "1\n".toUTF8 sampleLeftover ∧
    (sampleRecorder.buildManifest bytesDigest "now" none sampleLeftover).1.map
      (fun m => m.files.map (·.path)) =
        .ok [.str "b.txt", .str "state/.c.json.lineagetx.tmp", .str "state/a.json"] := by
  have hname : temporaryOf "state/c.json" = "state/.c.json.lineagetx.tmp" := by decide +kernel
  refine ⟨sampleLeftover_interrupted _, ?_⟩
  rw [sampleLeftover, hname]
  decide +kernel

end LineageTX
