import LineageTX.Evidence
import LineageTX.Fingerprint

/-! The manifest as a seal: which trees of files it is accepted for, and which files that an
interrupted write has left it can list. -/
namespace LineageTX
open Library
variable {py : Python} {digest : ByteArray → String} {recorder : EvidenceRecorder} {t t' u : Files}
  {path : String} {node : Node}

/-- The bytes of an artifact; the manifest is none. -/
def Files.artifactAt (t : Files) (path : String) : Option ByteArray :=
  if path = manifestName then none
  else match t.get? path with
    | some (.file content) => some content
    | _ => none

/-- Neither a link nor a special file, the manifest apart. -/
def Files.Plain (t : Files) : Prop :=
  ∀ path node, path ≠ manifestName → t.get? path = some node →
    node = .directory ∨ ∃ content, node = .file content

/-- No artifact has the name of an incomplete write. -/
def Files.Complete (t : Files) : Prop :=
  ∀ path, t.artifactAt path ≠ none → EvidenceRecorder.isIncomplete path = false

/-- The manifest's entry for an artifact. -/
def fileEntry (digest : ByteArray → String) (path : String) (node : Node) : Option EvidenceFile :=
  if path = manifestName then none
  else match node with
    | .file content => some ⟨path, digest content, content.size⟩
    | _ => none

namespace EvidenceRecorder

/-- An entry that the walk passes. -/
def Passes (path : String) (node : Node) : Prop :=
  path = manifestName ∨ node = .directory ∨ ∃ content, node = .file content ∧ isIncomplete path = false

theorem artifact_told : (recorder.artifact digest path node = .ok (fileEntry digest path node) ∧
      Passes path node) ∨
    (∃ msg, recorder.artifact digest path node = .error ⟨.evidenceError, msg⟩) ∧ ¬Passes path node := by
  unfold artifact fileEntry
  by_cases hname : path = manifestName
  · rw [if_pos hname, if_pos hname]
    exact .inl ⟨rfl, .inl hname⟩
  · rw [if_neg hname, if_neg hname]
    cases node with
    | directory => exact .inl ⟨rfl, .inr (.inl rfl)⟩
    | special =>
      refine .inr ⟨⟨_, rfl⟩, ?_⟩
      simp [Passes, hname]
    | link target =>
      refine .inr ⟨⟨_, rfl⟩, ?_⟩
      simp [Passes, hname]
    | file content =>
      by_cases hincomplete : isIncomplete path = true
      · refine .inr ⟨⟨_, if_pos hincomplete⟩, ?_⟩
        simp [Passes, hname, hincomplete]
      · refine .inl ⟨if_neg hincomplete, .inr (.inr ⟨content, rfl, ?_⟩)⟩
        simpa using hincomplete

/-- The walk gives the entries of all files, or an `EvidenceError`. -/
theorem walk_told (l : List (String × Node)) :
    (l.mapM (fun e => recorder.artifact digest e.1 e.2) =
        .ok (l.map fun e => fileEntry digest e.1 e.2) ∧ ∀ e ∈ l, Passes e.1 e.2) ∨
    (∃ msg, l.mapM (fun e => recorder.artifact digest e.1 e.2) = .error ⟨.evidenceError, msg⟩) ∧
      ¬∀ e ∈ l, Passes e.1 e.2 := by
  induction l with
  | nil => exact .inl ⟨rfl, nofun⟩
  | cons e l ih =>
    rw [List.mapM_cons]
    rcases artifact_told with
      ⟨hok, hpasses⟩ | ⟨⟨msg, herror⟩, hnot⟩
    · rw [hok, ok_bind]
      rcases ih with ⟨hrest, hall⟩ | ⟨⟨msg, hrest⟩, hnot⟩
      · refine .inl ⟨by rw [hrest]; rfl, fun e' he' => ?_⟩
        rcases List.mem_cons.mp he' with rfl | he'
        · exact hpasses
        · exact hall e' he'
      · exact .inr ⟨⟨msg, by rw [hrest]; rfl⟩, fun hall => hnot fun e' he' => hall e' (by simp [he'])⟩
    · exact .inr ⟨⟨msg, by rw [herror]; rfl⟩, fun hall => hnot (hall e (by simp))⟩

/-- The entries of the files of a tree, in the order of their paths. -/
def listing (digest : ByteArray → String) (t : Files) : List EvidenceFile :=
  sortBy EvidenceFile.path ((sortBy (fun e : String × Node => pathParts e.1) t.val).filterMap
    fun e => fileEntry digest e.1 e.2)

theorem artifactFiles_told :
    (recorder.artifactFiles digest t = .ok (listing digest t) ∧ t.Plain ∧ t.Complete) ∨
    (∃ msg, recorder.artifactFiles digest t = .error ⟨.evidenceError, msg⟩) ∧ ¬(t.Plain ∧ t.Complete) := by
  have hpasses : (∀ e ∈ sortBy (fun e : String × Node => pathParts e.1) t.val, Passes e.1 e.2) ↔
      t.Plain ∧ t.Complete := by
    constructor
    · intro hall
      have hnode : ∀ path node, t.get? path = some node → Passes path node := fun path node hget =>
        hall (path, node) (by rw [mem_sortBy]; exact (Dict.mem_iff_get? t path node).mpr hget)
      refine ⟨fun path node hname hget => ?_, fun path hsome => ?_⟩
      · rcases hnode path node hget with hmanifest | hdirectory | ⟨content, hfile, -⟩
        · exact absurd hmanifest hname
        · exact .inl hdirectory
        · exact .inr ⟨content, hfile⟩
      · unfold Files.artifactAt at hsome
        split at hsome
        · exact absurd rfl hsome
        · next hname =>
          split at hsome
          · next content hget =>
            rcases hnode path _ hget with hmanifest | hdirectory | ⟨_, -, hcomplete⟩
            · exact absurd hmanifest hname
            · cases hdirectory
            · exact hcomplete
          · exact absurd rfl hsome
    · rintro ⟨hplain, hcomplete⟩ ⟨path, node⟩ he
      have hget := (Dict.mem_iff_get? t path node).mp ((mem_sortBy _ _ _).mp he)
      by_cases hname : path = manifestName
      · exact .inl hname
      rcases hplain path node hname hget with hdirectory | ⟨content, rfl⟩
      · exact .inr (.inl hdirectory)
      · refine .inr (.inr ⟨content, rfl, hcomplete path ?_⟩)
        rw [Files.artifactAt, if_neg hname, hget]
        simp
  rw [artifactFiles, ← hpasses]
  rcases walk_told
    (sortBy (fun e : String × Node => pathParts e.1) t.val) with ⟨hok, hall⟩ | ⟨⟨msg, herror⟩, hnot⟩
  · refine .inl ⟨?_, hall⟩
    rw [hok, ok_bind, listing, List.reduceOption, List.filterMap_map]
    rfl
  · exact .inr ⟨⟨msg, by rw [herror]; rfl⟩, hnot⟩

theorem mem_listing {f : EvidenceFile} : f ∈ listing digest t ↔
    ∃ content, t.artifactAt f.path = some content ∧ f = ⟨f.path, digest content, content.size⟩ := by
  simp only [listing, mem_sortBy, List.mem_filterMap, Prod.exists, Dict.mem_iff_get?]
  constructor
  · rintro ⟨path, node, hget, hentry⟩
    unfold fileEntry at hentry
    split at hentry
    · cases hentry
    · next hname =>
      cases node with
      | file content =>
        obtain rfl := Option.some.inj hentry
        refine ⟨content, ?_, rfl⟩
        rw [Files.artifactAt, if_neg hname, hget]
      | _ => cases hentry
  · rintro ⟨content, hat, hf⟩
    unfold Files.artifactAt at hat
    split at hat
    · cases hat
    · next hname =>
      split at hat
      · next found hget =>
        obtain rfl := Option.some.inj hat
        refine ⟨f.path, _, hget, ?_⟩
        rw [fileEntry, if_neg hname, hf]
      · cases hat

theorem fileEntry_eq_some {f : EvidenceFile} (h : fileEntry digest path node = some f) :
    ∃ content, node = .file content ∧ f = ⟨path, digest content, content.size⟩ := by
  unfold fileEntry at h
  split at h
  · cases h
  · cases node with
    | file content => exact ⟨content, rfl, (Option.some.inj h).symm⟩
    | _ => cases h

theorem listing_nodup (hinj : Function.Injective digest) : (listing digest t).Nodup := by
  refine (sortBy_perm _ _).nodup_iff.mpr (List.Nodup.filterMap ?_ ?_)
  · rintro ⟨path, node⟩ ⟨path', node'⟩ f hf hf'
    obtain ⟨content, rfl, rfl⟩ := fileEntry_eq_some hf
    obtain ⟨content', rfl, heq⟩ := fileEntry_eq_some hf'
    obtain ⟨rfl, hdigest, -⟩ := EvidenceFile.mk.inj heq
    rw [hinj hdigest]
  · exact (sortBy_perm _ _).nodup_iff.mpr (.of_map _ t.property)

/-- The listing determines the artifacts. -/
theorem listing_eq_iff (hinj : Function.Injective digest) :
    listing digest t = listing digest u ↔ ∀ path, t.artifactAt path = u.artifactAt path := by
  constructor
  · intro h
    have hone : ∀ {t u : Files}, listing digest t = listing digest u → ∀ path content,
        t.artifactAt path = some content → u.artifactAt path = some content := by
      intro t u h path content hat
      have hmem : ⟨path, digest content, content.size⟩ ∈ listing digest t :=
        mem_listing.mpr ⟨content, hat, rfl⟩
      rw [h, mem_listing] at hmem
      obtain ⟨content', hat', heq⟩ := hmem
      obtain ⟨-, hdigest, -⟩ := EvidenceFile.mk.inj heq
      rw [hinj hdigest]
      exact hat'
    intro path
    cases hat : t.artifactAt path with
    | some content => exact (hone h path content hat).symm
    | none =>
      cases hat' : u.artifactAt path with
      | none => rfl
      | some content => rw [hone h.symm path content hat'] at hat; cases hat
  · intro h
    refine eq_of_perm_of_sorted EvidenceFile.path ?_ (sortBy_pairwise _ _) (sortBy_pairwise _ _) ?_
    · refine (List.perm_ext_iff_of_nodup (listing_nodup hinj) (listing_nodup hinj)).mpr fun f => ?_
      simp only [mem_listing, h]
    · intro f hf g hg hpath
      obtain ⟨content, hat, hf⟩ := mem_listing.mp hf
      obtain ⟨content', hat', hg⟩ := mem_listing.mp hg
      rw [hpath] at hat
      obtain rfl := Option.some.inj (hat.symm.trans hat')
      rw [hf, hg, hpath]

section Manifest
variable {mid stamp total : String} {files : List EvidenceFile}

theorem sortKeys_file (f : EvidenceFile) : Json.sortKeys f.toJson = f.toJson := by
  have hs : sortBy Prod.fst [("path", Json.str f.path), ("sha256", .str f.sha256),
      ("size_bytes", .int f.sizeBytes)] =
      [("path", .str f.path), ("sha256", .str f.sha256), ("size_bytes", .int f.sizeBytes)] :=
    sortBy_of_pairwise (by simp)
  rw [EvidenceFile.toJson, Json.sortKeys_obj, hs]
  rfl

theorem sortKeys_manifest :
    Json.sortKeys (manifestJson mid stamp files total) = manifestJson mid stamp files total := by
  have hfiles : (files.map EvidenceFile.toJson).map Json.sortKeys = files.map EvidenceFile.toJson := by
    rw [List.map_map]
    exact List.map_congr_left fun f _ => sortKeys_file f
  rw [manifestJson, Json.sortKeys_obj, sortBy_of_pairwise (by simp)]
  simp only [List.map_cons, List.map_nil, Json.sortKeys_arr, hfiles]
  rfl

theorem loaded_manifest : py.Loaded (manifestJson mid stamp files total) := by
  have hfile : ∀ f : EvidenceFile, py.Loaded f.toJson := by
    intro f
    refine loaded_obj.mpr ⟨by simp, ?_⟩
    simp [loaded_str, loaded_int]
  have hfiles : py.Loaded (.arr (files.map EvidenceFile.toJson)) := by
    refine loaded_arr.mpr fun j hj => ?_
    obtain ⟨f, -, rfl⟩ := List.mem_map.mp hj
    exact hfile f
  refine loaded_obj.mpr ⟨by simp, ?_⟩
  simp [loaded_str, loaded_int, loaded_bool, hfiles]

theorem listed_ofJson (f : EvidenceFile) : ListedFile.ofJson f.toJson = .ok f.listed := by
  simp [ListedFile.ofJson, EvidenceFile.toJson, EvidenceFile.listed, require, List.lookup]

theorem listed_ofJson_all :
    (files.map EvidenceFile.toJson).mapM ListedFile.ofJson = .ok (files.map EvidenceFile.listed) := by
  induction files with
  | nil => rfl
  | cons f files ih =>
    rw [List.map_cons, List.mapM_cons, listed_ofJson, ok_bind, ih]
    rfl

/-- The manifest that is written reads back. -/
theorem readManifest_written :
    readManifest py (evidenceText (manifestJson mid stamp files total)).toUTF8 =
      .ok ⟨mid, stamp, files.map EvidenceFile.listed, total, 1, true⟩ := by
  have htext := decodeText_toUTF8 (dumps_noReturn evidenceStyle (manifestJson mid stamp files total))
  have hloads := @jsonLoads_dumps py .valueError "" _
    (@loaded_manifest _ mid stamp total files) evidenceStyle "\n" (by decide)
  have hparsed : EvidenceManifest.ofJson py (manifestJson mid stamp files total) =
      .ok ⟨mid, stamp, files.map EvidenceFile.listed, total, 1, true⟩ := by
    have hitems : iterate (.arr (files.map EvidenceFile.toJson)) =
        .ok (files.map EvidenceFile.toJson) := rfl
    have hfiles : getItem (manifestJson mid stamp files total) "files" =
        .ok (.arr (files.map EvidenceFile.toJson)) := rfl
    simp only [EvidenceManifest.ofJson, hfiles, ok_bind, hitems, listed_ofJson_all]
    rfl
  rw [sortKeys_manifest] at hloads
  rw [readManifest, evidenceText, htext, ok_bind, hloads, ok_bind, hparsed]
  rfl

end Manifest

end EvidenceRecorder

/-- A complete atomic write has put the payload at its target. -/
theorem atomicWrite_done {target : String} {payload : ByteArray}
    (h : (atomicWrite target payload).exec Files.answer t = (.ok (), t')) :
    t'.get? target = some (.file payload) := by
  obtain ⟨log, hrun⟩ := Prog.exec_runs Files.answer (atomicWrite target payload) t
  rw [h] at hrun
  dsimp only at hrun
  obtain ⟨_, _, _, s₁, -, -, hrun⟩ := Prog.runs_bind_ok.mp hrun
  obtain ⟨_, _, _, s₂, -, -, hrun⟩ := Prog.runs_bind_ok.mp hrun
  obtain ⟨_, _, _, s₃, -, -, hrun⟩ := Prog.runs_bind_ok.mp hrun
  obtain ⟨_, _, _, s₄, -, hwrite, hrename⟩ := Prog.runs_bind_ok.mp hrun
  obtain ⟨-, hwrite⟩ := Prog.runs_perform.mp hwrite
  obtain ⟨-, hrename⟩ := Prog.runs_perform.mp hrename
  obtain rfl : s₃.set (temporaryOf target) (.file payload) = s₄ := congrArg Prod.snd hwrite
  have htemporary : (s₃.set (temporaryOf target) (.file payload)).get? (temporaryOf target) =
      some (.file payload) := by rw [Dict.get?_set, if_pos rfl]
  rw [Files.answer_rename htemporary nofun] at hrename
  split at hrename
  · cases hrename
  · rw [← (Prod.mk.inj hrename).2, Dict.get?_set, if_pos rfl]

/-- The later tree has the artifacts of the earlier one, byte for byte, and nothing but files
and directories. -/
structure Files.SameArtifacts (u t : Files) : Prop where
  plain : u.Plain
  same : ∀ path, u.artifactAt path = t.artifactAt path

namespace EvidenceRecorder
variable {now : String} {generatedAt : Option String} {manifest : EvidenceManifest}

theorem listed_injective : Function.Injective EvidenceFile.listed := by
  rintro ⟨path, sha, size⟩ ⟨path', sha', size'⟩ h
  simpa [EvidenceFile.listed] using h

/-- What a manifest that was built holds, and where. -/
theorem buildManifest_ok (h : recorder.buildManifest digest now generatedAt t = (.ok manifest, t')) :
    t.Plain ∧ t.Complete ∧ ∃ stamp,
      manifest = ⟨recorder.migrationId, stamp, (listing digest t).map EvidenceFile.listed,
        aggregate digest (listing digest t), 1, true⟩ ∧
      t'.get? manifestName = some (.file (evidenceText (manifestJson recorder.migrationId stamp
        (listing digest t) (aggregate digest (listing digest t)))).toUTF8) := by
  unfold buildManifest at h
  rcases artifactFiles_told (t := t) with
    ⟨hfiles, hplain, hcomplete⟩ | ⟨⟨msg, herror⟩, -⟩
  · rw [hfiles] at h
    dsimp only at h
    split at h
    · cases h
    · next done t'' hwrite =>
      cases h
      exact ⟨hplain, hcomplete, _, rfl, atomicWrite_done hwrite⟩
  · rw [herror] at h
    cases h

/-- The manifest is accepted for the same artifacts, and refused for all others. -/
theorem manifest_seals (hinj : Function.Injective digest)
    (hbuild : recorder.buildManifest digest now generatedAt t = (.ok manifest, t'))
    {later : EvidenceRecorder} (hlater : later.migrationId = recorder.migrationId)
    (hsame : u.get? manifestName = t'.get? manifestName) :
    (u.SameArtifacts t → later.verifyManifest py digest u = .ok manifest) ∧
      (¬u.SameArtifacts t → ∃ msg, later.verifyManifest py digest u = .error ⟨.evidenceError, msg⟩) := by
  obtain ⟨hplain, hcomplete, stamp, rfl, hwritten⟩ := buildManifest_ok hbuild
  rw [hwritten] at hsame
  have hread := @readManifest_written py recorder.migrationId stamp (aggregate digest (listing digest t))
    (listing digest t)
  rw [verifyManifest, hsame]
  dsimp only
  rw [hread, ok_bind]
  have hid : recorder.migrationId = later.migrationId := hlater.symm
  simp only [hid, require, decide_true, if_true, ok_bind]
  rcases artifactFiles_told (t := u) with
    ⟨hfiles, huplain, hucomplete⟩ | ⟨⟨msg, herror⟩, hnot⟩
  · rw [hfiles, ok_bind]
    by_cases heq : listing digest u = listing digest t
    · have hequal : ¬(listing digest t).map EvidenceFile.listed ≠
          (listing digest t).map EvidenceFile.listed := fun hne => hne rfl
      rw [heq, onlyIf, if_neg hequal, ok_bind, if_pos (by simp), ok_bind]
      exact ⟨fun _ => rfl, fun hnot => absurd ⟨huplain, (listing_eq_iff hinj).mp heq⟩ hnot⟩
    · have hdiffer : (listing digest u).map EvidenceFile.listed ≠
          (listing digest t).map EvidenceFile.listed :=
        fun hmap => heq (List.map_injective_iff.mpr listed_injective hmap)
      refine ⟨fun hs => absurd ((listing_eq_iff hinj).mpr hs.same) heq, fun _ => ?_⟩
      have hhashable : ((listing digest t).map EvidenceFile.listed).all
          (fun f => isHashable f.path) = true := by
        simp [EvidenceFile.listed, isHashable]
      rw [onlyIf, if_pos hdiffer, hhashable, if_pos rfl, ok_bind]
      split
      · exact ⟨_, rfl⟩
      · exact ⟨_, rfl⟩
  · rw [herror]
    refine ⟨fun hs => absurd ⟨hs.plain, fun path hsome => hcomplete path ?_⟩ hnot, fun _ => ⟨msg, rfl⟩⟩
    rw [← hs.same path]
    exact hsome

end EvidenceRecorder

/-- The manifest is no artifact. -/
theorem sameArtifacts_set {node : Node} (h : t.Plain) :
    Files.SameArtifacts (t.set manifestName node) t := by
  refine ⟨fun path found hname hget => ?_, fun path => ?_⟩
  · rw [Dict.get?_set, if_neg hname] at hget
    exact h path found hname hget
  · unfold Files.artifactAt
    split
    · rfl
    · next hname => rw [Dict.get?_set, if_neg hname]

/-- A digest that tells all contents apart, for evaluations. -/
def bytesDigest (content : ByteArray) : String :=
  String.ofList (content.data.toList.map fun byte => Char.ofNat byte.toNat)

theorem bytesDigest_injective : Function.Injective bytesDigest := by
  have hchar : Function.Injective fun byte : UInt8 => Char.ofNat byte.toNat := by
    intro a b h
    have hvalue : ∀ n < 256, (Char.ofNat n).toNat = n := by decide +kernel
    have hnat := congrArg Char.toNat h
    dsimp only at hnat
    rw [hvalue _ a.toNat_lt, hvalue _ b.toNat_lt] at hnat
    exact UInt8.toNat_inj.mp hnat
  intro a b h
  have hlists := List.map_injective_iff.mpr hchar (String.ofList_injective h)
  exact ByteArray.ext (Array.toList_inj.mp hlists)

def sampleRecorder : EvidenceRecorder := ⟨"/evidence", "m-1", by decide⟩

def sampleBundle : Files :=
  (((Dict.empty.set "state" .directory).set "state/a.json" (.file "1\n".toUTF8)).set "b.txt"
    (.file "2\n".toUTF8))

/-- The sealed sample is accepted, and refused once a file is added. -/
theorem sample_sealed : ∃ u manifest,
    sampleRecorder.verifyManifest (.sample fun _ => "") bytesDigest u = .ok manifest ∧
    ∃ msg, sampleRecorder.verifyManifest (.sample fun _ => "") bytesDigest
      (u.set "c.txt" (.file .empty)) = .error ⟨.evidenceError, msg⟩ := by
  have hbuilt : (sampleRecorder.buildManifest bytesDigest "now" none sampleBundle).1.isOk = true := by
    decide +kernel
  obtain ⟨manifest, hmanifest⟩ := exists_of_isOk hbuilt
  have hbuild : sampleRecorder.buildManifest bytesDigest "now" none sampleBundle =
      (.ok manifest, (sampleRecorder.buildManifest bytesDigest "now" none sampleBundle).2) :=
    Prod.ext hmanifest rfl
  obtain ⟨hplain, -, stamp, -, hwritten⟩ := EvidenceRecorder.buildManifest_ok hbuild
  have hsame := @sameArtifacts_set _ (.file (evidenceText (manifestJson sampleRecorder.migrationId
    stamp (EvidenceRecorder.listing bytesDigest sampleBundle) (EvidenceRecorder.aggregate bytesDigest
      (EvidenceRecorder.listing bytesDigest sampleBundle)))).toUTF8) hplain
  refine ⟨_, manifest,
    (EvidenceRecorder.manifest_seals bytesDigest_injective hbuild rfl ?_).1 hsame, ?_⟩
  · rw [hwritten, Dict.get?_set, if_pos rfl]
  · refine (EvidenceRecorder.manifest_seals bytesDigest_injective hbuild rfl ?_).2 fun hs => ?_
    · rw [hwritten, Dict.get?_set, if_neg (by decide), Dict.get?_set, if_pos rfl]
    · have hadded := hs.same "c.txt"
      rw [Files.artifactAt, if_neg (by decide), Dict.get?_set, if_pos rfl] at hadded
      have hold : sampleBundle.artifactAt "c.txt" = none := by decide +kernel
      rw [hold] at hadded
      cases hadded

end LineageTX
