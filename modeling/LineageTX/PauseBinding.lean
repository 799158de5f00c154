import LineageTX.PauseSnapshot
import LineageTX.Records

/-! What a signature over the canonical payload binds: a snapshot that is read is one that was
written, whatever the layout of its file. -/
namespace LineageTX
open Library
variable {py : Python} {mac : KeyedDigest} {key : ByteArray} {s s' : ApprovalPauseSnapshot py}
  {t t' : Files} {path : String} {payload : List (String × Json)}

namespace ApprovalPauseSnapshot

theorem create_eq_ok {d : PauseData} : create py d = .ok s ↔ s.data = d := by
  unfold create
  split
  · constructor
    · rintro ⟨⟩
      rfl
    · rintro rfl
      rfl
  · next e herror =>
    constructor
    · exact nofun
    · rintro rfl
      rw [s.checked] at herror
      cases herror

theorem Equal.refl (s : ApprovalPauseSnapshot py) : s.Equal py s := ⟨fun _ => rfl, rfl⟩

end ApprovalPauseSnapshot

/-- The checks do not see the order of the bases. -/
theorem PauseData.postInit_bases {d : PauseData} {bases : Dict String}
    (hsame : ∀ name, bases.get? name = d.repositoryBaseShas.get? name) (hd : d.postInit py = .ok ()) :
    PauseData.postInit py { d with repositoryBaseShas := bases } = .ok () := by
  have hperm := Dict.perm_of_get? hsame
  simp only [postInit, bind_eq_ok, require_eq_ok, decide_eq_true_eq] at hd ⊢
  obtain ⟨_, hversion, _, howner, _, hids, _, hfields, _, hprint, _, hsome, _, hall, htime⟩ := hd
  refine ⟨(), hversion, (), howner, (), hids, (), hfields, (), hprint, (), ?_, (), ?_, htime⟩
  · exact fun hnil => hsome (List.perm_nil.mp (hnil ▸ hperm.symm))
  · rw [List.all_eq_true] at hall ⊢
    exact fun e he => hall e (hperm.mem_iff.mp he)

/-- The keys of a payload that is written are in order. -/
theorem PauseData.sortKeys_toDict (d : PauseData) : Json.sortKeys d.toDict = d.toDict := by
  have hbases : Json.sortKeys (.obj ((sortBy Prod.fst d.repositoryBaseShas.val).map fun e =>
      (e.1, Json.str e.2))) = .obj ((sortBy Prod.fst d.repositoryBaseShas.val).map fun e =>
        (e.1, Json.str e.2)) := by
    have hsorted : ((sortBy Prod.fst d.repositoryBaseShas.val).map fun e => (e.1, Json.str e.2)).Pairwise
        fun a b => a.1 ≤ b.1 := List.pairwise_map.mpr (sortBy_pairwise Prod.fst _)
    rw [Json.sortKeys_obj, sortBy_of_pairwise hsorted, List.map_map]
    rfl
  rw [toDict, Json.sortKeys_obj, sortBy_of_pairwise (by simp)]
  simp only [List.map_cons, List.map_nil, hbases]
  rfl

theorem PauseData.loaded_toDict (d : PauseData) : py.Loaded d.toDict := by
  have hkeys : ((sortBy Prod.fst d.repositoryBaseShas.val).map Prod.fst).Nodup :=
    ((sortBy_perm Prod.fst _).map Prod.fst).nodup_iff.mpr d.repositoryBaseShas.property
  have hbases : py.Loaded (.obj ((sortBy Prod.fst d.repositoryBaseShas.val).map fun e =>
      (e.1, Json.str e.2))) := by
    refine loaded_obj.mpr ⟨by simpa [Function.comp_def] using hkeys, fun e he => ?_⟩
    obtain ⟨e', -, rfl⟩ := List.mem_map.mp he
    exact loaded_str _
  refine loaded_obj.mpr ⟨by simp, ?_⟩
  simp [loaded_str, loaded_int, hbases]

section Payload

theorem eq_str_of_sortKeys {j : Json} {text : String} (h : Json.sortKeys j = .str text) : j = .str text := by
  cases j with
  | str s => exact h
  | _ => simp [Json.sortKeys] at h

theorem eq_int_of_sortKeys {j : Json} {n : Int} (h : Json.sortKeys j = .int n) : j = .int n := by
  cases j with
  | int m => exact h
  | _ => simp [Json.sortKeys] at h

theorem eq_obj_of_sortKeys {j : Json} {m : List (String × Json)} (h : Json.sortKeys j = .obj m) :
    ∃ m', j = .obj m' ∧ (sortBy Prod.fst m').map (fun e => (e.1, Json.sortKeys e.2)) = m := by
  cases j with
  | obj m' => exact ⟨m', rfl, Json.obj.inj ((Json.sortKeys_obj m').symm.trans h)⟩
  | _ => simp [Json.sortKeys] at h

/-- A dictionary that is filled from entries with distinct keys lists those. -/
theorem val_fill {α β : Type} (value : β → α) {l : List (String × β)} (h : (l.map Prod.fst).Nodup) :
    (l.foldl (fun (d : Dict α) e => d.set e.1 (value e.2)) .empty).val = l.map fun e => (e.1, value e.2) := by
  have hfill : ∀ (l : List (String × β)) (d : Dict α), ((d.val.map Prod.fst) ++ l.map Prod.fst).Nodup →
      (l.foldl (fun (d : Dict α) e => d.set e.1 (value e.2)) d).val =
        d.val ++ l.map fun e => (e.1, value e.2) := by
    intro l
    induction l with
    | nil => exact fun d _ => (List.append_nil _).symm
    | cons e l ih =>
      intro d hd
      have hnew : e.1 ∉ d.keys := fun hmem => (List.nodup_append.mp hd).2.2 _ hmem _ (by simp) rfl
      have hset := Dict.val_set_of_notMem (value e.2) hnew
      rw [List.foldl_cons, ih _ (by rw [hset]; simpa using hd), hset, List.append_assoc]
      rfl
  rw [hfill l .empty (by simpa [Dict.empty] using h)]
  rfl

/-- The base SHAs of a payload that equals a written one are those that were written. -/
theorem bases_written {d : PauseData} {bases : List (String × Json)} (hkeys : (bases.map Prod.fst).Nodup)
    (hsame : (sortBy Prod.fst bases).map (fun e => (e.1, Json.sortKeys e.2)) =
      (sortBy Prod.fst d.repositoryBaseShas.val).map fun e => (e.1, .str e.2)) (name : String) :
    (bases.foldl (fun (d : Dict String) e => d.set e.1 (py.str e.2)) .empty).get? name =
      d.repositoryBaseShas.get? name := by
  have htexts : ∀ e ∈ sortBy Prod.fst bases, py.str (Json.sortKeys e.2) = py.str e.2 := by
    intro e he
    have hmem : (e.1, Json.sortKeys e.2) ∈
        (sortBy Prod.fst d.repositoryBaseShas.val).map fun e => (e.1, Json.str e.2) := by
      rw [← hsame]
      exact List.mem_map_of_mem he
    obtain ⟨e', -, heq⟩ := List.mem_map.mp hmem
    rw [eq_str_of_sortKeys (Prod.mk.inj heq).2.symm]
    rfl
  have hvalues : (sortBy Prod.fst bases).map (fun e => (e.1, py.str e.2)) =
      sortBy Prod.fst d.repositoryBaseShas.val := by
    have hstr := congrArg (List.map fun e : String × Json => (e.1, py.str e.2)) hsame
    simp only [List.map_map, Function.comp_def, Python.str_str, List.map_id'] at hstr
    rw [← hstr]
    exact List.map_congr_left fun e he => by rw [htexts e he]
  refine Dict.perm_iff_get?.mp ?_ name
  rw [val_fill py.str hkeys]
  refine ((sortBy_perm Prod.fst bases).map _).symm.trans ?_
  rw [hvalues]
  exact sortBy_perm _ _

/-- A payload that equals a written one up to the order of its keys. -/
theorem fromDict_written {d : PauseData} (hkeys : Json.Every Json.DistinctKeys (.obj payload))
    (hsame : Json.sortKeys (.obj payload) = d.toDict) (hd : d.postInit py = .ok ()) :
    ∃ s, ApprovalPauseSnapshot.fromDict py (.obj payload) = .ok s ∧ s.Equal py ⟨d, hd⟩ := by
  obtain ⟨hdistinct, hinner⟩ := Json.every_obj.mp hkeys
  have hlookup : ∀ key, (payload.lookup key).map Json.sortKeys = d.toDict.get? key := by
    intro key
    rw [← hsame, Json.get?_sortKeys hdistinct]
  have hstr : ∀ {key text}, d.toDict.get? key = some (.str text) →
      getItem (.obj payload) key = .ok (.str text) := by
    intro key text hget
    rw [← hlookup, Option.map_eq_some_iff] at hget
    obtain ⟨v, hv, hsorted⟩ := hget
    rw [getItem_eq_ok, Json.get?_obj, hv, eq_str_of_sortKeys hsorted]
  obtain ⟨version, hversion, hint⟩ := Option.map_eq_some_iff.mp ((hlookup "schema_version").trans rfl)
  obtain rfl := eq_int_of_sortKeys hint
  obtain ⟨found, hfound, hobj⟩ := Option.map_eq_some_iff.mp ((hlookup "repository_base_shas").trans rfl)
  obtain ⟨bases, rfl, hbases⟩ := eq_obj_of_sortKeys hobj
  have hread := @bases_written py _ _ (Json.every_obj.mp (hinner _ (Json.mem_of_lookup hfound))).1 hbases
  have hchecked := PauseData.postInit_bases hread hd
  refine ⟨⟨_, hchecked⟩, ?_, hread, rfl⟩
  have hmid := @hstr "migration_id" _ rfl
  have hpid := @hstr "participant_id" _ rfl
  have howner := @hstr "owner_urn" _ rfl
  have hold := @hstr "old_field" _ rfl
  have hnew := @hstr "new_field" _ rfl
  have hprint := @hstr "impact_fingerprint" _ rfl
  have htime := @hstr "paused_at" _ rfl
  have hbasesAt : getD (.obj payload) "repository_base_shas" .null = .obj bases := by
    rw [getD, Json.get?_obj, hfound, Option.getD_some]
  have hversionAt : getD (.obj payload) "schema_version" (.int 0) = .int d.schemaVersion := by
    rw [getD, Json.get?_obj, hversion, Option.getD_some]
  unfold ApprovalPauseSnapshot.fromDict
  rw [hbasesAt]
  simp only [hmid, hpid, howner, hold, hnew, hprint, htime, hversionAt, ok_bind, Python.str_str,
    Python.int]
  have hcreate := (ApprovalPauseSnapshot.create_eq_ok (s := ⟨_, hchecked⟩)).mpr rfl
  rw [hcreate]
  rfl

end Payload

theorem jsonLoads_distinct {cls : ExnClass} {what text : String} {j : Json}
    (h : py.jsonLoads cls what text = .ok j) : Json.Every Json.DistinctKeys j := by
  unfold Python.jsonLoads at h
  dsimp only at h
  split at h
  · next parsed rest _ =>
    split at h
    · cases h
      have hany := Json.every_of_forall (P := fun _ => True) (fun _ => trivial) parsed
      exact (Json.collapse_every ⟨fun _ => trivial, fun _ => trivial⟩ hany).mono fun _ hj => hj.2
    · cases h
  · cases h

/-- The file holds no signature under the key but those of snapshots that were written. -/
def Unforged (py : Python) (mac : KeyedDigest) (key : ByteArray)
    (written : ApprovalPauseSnapshot py → Prop) (t : Files) (path : String) : Prop :=
  ∀ raw signature message, ((readEnvelope py path).exec Files.answer t).1 = .ok raw →
    raw.get? "signature" = some (.str signature) → signature = mac.hexdigest key message →
    ∃ s, written s ∧ signature = mac.sign key s.data.toDict

theorem openEnvelope_eq_ok {raw : Json} (h : openEnvelope py mac key raw = .ok s) :
    ∃ payload, raw.get? "payload" = some (.obj payload) ∧
      raw.get? "signature" = some (.str (mac.sign key (.obj payload))) ∧
      ApprovalPauseSnapshot.fromDict py (.obj payload) = .ok s := by
  simp only [openEnvelope, bind_eq_ok] at h
  obtain ⟨_, -, h⟩ := h
  split at h
  · next payload signature hpayload hsignature =>
    simp only [compareDigest, bind_eq_ok, require_eq_ok] at h
    obtain ⟨same, ⟨_, -, hsame⟩, _, hequal, h⟩ := h
    cases hsame
    exact ⟨payload, hpayload, by rw [hsignature, of_decide_eq_true hequal], h⟩
  · cases h

/-- A document that is read has distinct keys everywhere. -/
theorem readEnvelope_ends : (readEnvelope py path).Ends fun r =>
    ∀ raw, r = .ok raw → Json.Every Json.DistinctKeys raw := by
  refine Prog.Ends.tryCatch ?_ fun e => ?_
  · have hany : (FileOp.readText path).run.Ends fun _ => True := Prog.ends_of_forall fun _ => trivial
    refine Prog.Ends.bind hany (fun e _ => nofun) fun text _ => ?_
    intro raw hraw raw' heq
    cases heq
    exact jsonLoads_distinct hraw
  · split
    · exact nofun
    · exact nofun

theorem readEnvelope_distinct {raw : Json} (h : (readEnvelope py path).exec Files.answer t = (.ok raw, t')) :
    Json.Every Json.DistinctKeys raw := by
  obtain ⟨log, hrun⟩ := Prog.exec_runs Files.answer (readEnvelope py path) t
  exact readEnvelope_ends.of_run hrun raw (by rw [h])

/-- A successful read opens the document of the file. -/
theorem readSigned_eq_ok (h : (readSignedPauseSnapshot py mac path key).exec Files.answer t = (.ok s, t')) :
    ∃ raw, (readEnvelope py path).exec Files.answer t = (.ok raw, t') ∧
      openEnvelope py mac key raw = .ok s := by
  unfold readSignedPauseSnapshot at h
  cases hkey : require (decide (32 ≤ key.size)) .valueError
      "resume snapshot HMAC key must contain at least 32 bytes" with
  | error e =>
    rw [hkey] at h
    cases h
  | ok _ =>
    rw [hkey, Prog.exec_lift_bind rfl] at h
    rcases hread : (readEnvelope py path).exec Files.answer t with ⟨r, t₁⟩
    cases r with
    | error e =>
      rw [Prog.bind_eq, Prog.exec_andThen, hread] at h
      cases h
    | ok raw =>
      rw [Prog.exec_bind_ok hread] at h
      obtain ⟨hopen, rfl⟩ := Prod.mk.inj h
      exact ⟨raw, rfl, hopen⟩

/-- A snapshot that is read is one that was written. -/
theorem read_written (hinj : Function.Injective (mac.hexdigest key))
    {written : ApprovalPauseSnapshot py → Prop} (hunforged : Unforged py mac key written t path)
    (h : (readSignedPauseSnapshot py mac path key).exec Files.answer t = (.ok s, t')) :
    ∃ s', written s' ∧ s.Equal py s' := by
  obtain ⟨raw, hread, hopen⟩ := readSigned_eq_ok h
  obtain ⟨payload, hpayload, hsignature, hfrom⟩ := openEnvelope_eq_ok hopen
  obtain ⟨s', hwritten, hsame⟩ := hunforged raw _ _ (by rw [hread]) hsignature rfl
  have htext : canonicalJson (.obj payload) = canonicalJson s'.data.toDict :=
    String.toByteArray_inj.mp (hinj hsame)
  have hsorted := (Json.dumps_eq_iff canonicalStyle).mp htext
  rw [s'.data.sortKeys_toDict] at hsorted
  have hdistinct : Json.Every Json.DistinctKeys (.obj payload) := by
    have hraw := readEnvelope_distinct hread
    cases raw with
    | obj members =>
      exact (Json.every_obj.mp hraw).2 _ (Json.mem_of_lookup hpayload)
    | _ => cases hpayload
  obtain ⟨s₁, hs₁, hequal⟩ := fromDict_written hdistinct hsorted s'.checked
  obtain rfl : s₁ = s := Except.ok.inj (hs₁.symm.trans hfrom)
  exact ⟨s', hwritten, hequal⟩

/-- What a successful write leaves in the file. -/
theorem writeSigned_ok {u : Unit}
    (h : (writeSignedPauseSnapshot py mac path s key).exec Files.answer t = (.ok u, t')) :
    32 ≤ key.size ∧ t'.get? path =
      some (.file (envelopeText s.data.toDict (mac.sign key s.data.toDict)).toUTF8) := by
  obtain ⟨log, hrun⟩ := Prog.exec_runs Files.answer (writeSignedPauseSnapshot py mac path s key) t
  rw [h] at hrun
  dsimp only at hrun
  obtain ⟨_, _, _, t₁, -, hkey, hrun⟩ := Prog.runs_bind_ok.mp hrun
  obtain ⟨-, hkey, -⟩ := Prog.runs_lift.mp hkey
  obtain ⟨_, _, _, t₂, -, -, hrun⟩ := Prog.runs_bind_ok.mp hrun
  obtain ⟨_, _, _, t₃, -, hwrite, hrename⟩ := Prog.runs_bind_ok.mp hrun
  obtain ⟨-, hwrite⟩ := Prog.runs_perform.mp hwrite
  obtain ⟨-, hrename⟩ := Prog.runs_perform.mp hrename
  refine ⟨of_decide_eq_true (require_eq_ok.mp hkey.symm), ?_⟩
  have htemporary : t₃.get? (path ++ ".tmp") =
      some (.file (envelopeText s.data.toDict (mac.sign key s.data.toDict)).toUTF8) := by
    rw [Files.answer_writeText hwrite, Dict.get?_set, if_pos rfl]
  rw [Files.answer_rename htemporary nofun] at hrename
  split at hrename
  · cases hrename
  · rw [← (Prod.mk.inj hrename).2, Dict.get?_set, if_pos rfl]

section Envelope
variable {d : PauseData} {signature : String}

/-- The document of the file. -/
def envelope (payload : Json) (signature : String) : Json := .obj [
  ("algorithm", .str "HMAC-SHA256"), ("payload", payload), ("signature", .str signature)]

theorem sortKeys_envelope :
    Json.sortKeys (envelope d.toDict signature) = envelope d.toDict signature := by
  rw [envelope, Json.sortKeys_obj, sortBy_of_pairwise (by simp)]
  simp only [List.map_cons, List.map_nil, d.sortKeys_toDict]
  rfl

theorem loaded_envelope : py.Loaded (envelope d.toDict signature) := by
  refine loaded_obj.mpr ⟨by simp, ?_⟩
  simp [loaded_str, d.loaded_toDict]

/-- The file that was written reads back as its document. -/
theorem readEnvelope_written
    (h : t.get? path = some (.file (envelopeText d.toDict signature).toUTF8)) :
    (readEnvelope py path).exec Files.answer t = (.ok (envelope d.toDict signature), t) := by
  have htext : decodeText (envelopeText d.toDict signature).toUTF8 =
      .ok (envelopeText d.toDict signature) := decodeText_toUTF8 (dumps_noReturn _ _)
  have hanswer : t.answer (.readText path) = (.ok (envelopeText d.toDict signature), t) := by
    rw [← htext, Files.answer, h]
    rfl
  have hloads := @jsonLoads_dumps py (.other "JSONDecodeError") "" _
    (@loaded_envelope _ d signature) ⟨true, some 2, 0, 1⟩ "\n" (by decide)
  rw [sortKeys_envelope] at hloads
  unfold readEnvelope
  rw [Prog.tryCatch_eq, Prog.exec_andThen,
    Prog.exec_bind_ok (show (FileOp.readText path).run.exec Files.answer t = _ from hanswer),
    envelopeText, ← envelope, hloads]
  rfl

end Envelope

theorem isLowerHex_ascii {c : Char} (h : isLowerHex c = true) : c.toNat < 128 := by
  simp only [isLowerHex, Bool.or_eq_true, Bool.and_eq_true, decide_eq_true_eq, Char.isDigit] at h
  rcases h with ⟨-, hle⟩ | ⟨-, hle⟩
  · exact lt_of_le_of_lt (UInt32.le_iff_toNat_le.mp hle) (by decide)
  · exact lt_of_le_of_lt (UInt32.le_iff_toNat_le.mp hle) (by decide)

/-- A signature is equal to itself. -/
theorem compareDigest_sign {payload : Json} :
    compareDigest (mac.sign key payload) (mac.sign key payload) = .ok true := by
  have hascii : ((mac.sign key payload).toList ++ (mac.sign key payload).toList).all
      (fun c => c.toNat < 128) = true := by
    rw [List.all_append, Bool.and_self, List.all_eq_true]
    exact fun c hc => decide_eq_true (isLowerHex_ascii (List.all_eq_true.mp (mac.isHex _ _) c hc))
  rw [compareDigest, hascii, decide_eq_true rfl]
  rfl

/-- The bytes of a signed snapshot. -/
def signedBytes (mac : KeyedDigest) (key : ByteArray) (s : ApprovalPauseSnapshot py) : ByteArray :=
  (envelopeText s.data.toDict (mac.sign key s.data.toDict)).toUTF8

/-- A signed snapshot reads back as an equal one. -/
theorem read_signed (hkey : 32 ≤ key.size) (hfile : t.get? path = some (.file (signedBytes mac key s))) :
    ∃ s', (readSignedPauseSnapshot py mac path key).exec Files.answer t = (.ok s', t) ∧ s'.Equal py s := by
  have hread := @readEnvelope_written py _ _ _ _ hfile
  obtain ⟨members, hmembers⟩ : ∃ m, s.data.toDict = .obj m := ⟨_, rfl⟩
  have hdistinct : Json.Every Json.DistinctKeys (.obj members) := by
    rw [← hmembers]
    exact (@PauseData.loaded_toDict py s.data).mono fun _ hj => hj.2
  have hsorted : Json.sortKeys (.obj members) = s.data.toDict := by
    rw [← hmembers, s.data.sortKeys_toDict]
  obtain ⟨s', hfrom, hequal⟩ := fromDict_written hdistinct hsorted s.checked
  have hopen : openEnvelope py mac key (envelope s.data.toDict (mac.sign key s.data.toDict)) = .ok s' := by
    rw [hmembers]
    have hsigned : (do
        require (← compareDigest (mac.sign key (.obj members)) (mac.sign key (.obj members)))
          (.other "ResumeSnapshotError") "approval pause snapshot signature is invalid"
        ApprovalPauseSnapshot.fromDict py (.obj members)) = .ok s' := by
      rw [compareDigest_sign, ok_bind]
      exact hfrom
    have halgorithm : (envelope (.obj members) (mac.sign key (.obj members))).get? "algorithm" =
        some (.str "HMAC-SHA256") := rfl
    have hchecked : (isObj (envelope (.obj members) (mac.sign key (.obj members))) &&
        decide ((envelope (.obj members) (mac.sign key (.obj members))).get? "algorithm" =
          some (.str "HMAC-SHA256"))) = true := by
      rw [halgorithm, decide_eq_true rfl]
      rfl
    unfold openEnvelope
    rw [hchecked]
    exact hsigned
  refine ⟨s', ?_, hequal⟩
  unfold readSignedPauseSnapshot
  rw [Prog.exec_lift_bind (a := ()) (require_eq_ok.mpr (decide_eq_true hkey)), Prog.exec_bind_ok hread, hopen]
  rfl

theorem written_read {u : Unit}
    (h : (writeSignedPauseSnapshot py mac path s key).exec Files.answer t = (.ok u, t')) :
    ∃ s', (readSignedPauseSnapshot py mac path key).exec Files.answer t' = (.ok s', t') ∧ s'.Equal py s := by
  obtain ⟨hkey, hfile⟩ := writeSigned_ok h
  exact read_signed hkey hfile

/-- What was written under a key reads back as an equal snapshot, and whatever else is read
under it is equal to a snapshot that was written. -/
theorem pause_snapshots_bind (hinj : Function.Injective (mac.hexdigest key)) :
    (∀ (s : ApprovalPauseSnapshot py) t t' path,
      (writeSignedPauseSnapshot py mac path s key).exec Files.answer t = (.ok (), t') →
      ∃ s', (readSignedPauseSnapshot py mac path key).exec Files.answer t' = (.ok s', t') ∧
        s'.Equal py s) ∧
    ∀ (written : ApprovalPauseSnapshot py → Prop) t t' path s, Unforged py mac key written t path →
      (readSignedPauseSnapshot py mac path key).exec Files.answer t = (.ok s, t') →
      ∃ s', written s' ∧ s.Equal py s' :=
  ⟨fun _ _ _ _ h => written_read h, fun _ _ _ _ _ hunforged h => read_written hinj hunforged h⟩

/-- The two digits of each byte, whatever the key: a digest for evaluations. -/
def hexBytes (content : ByteArray) : List Char :=
  content.data.toList.flatMap fun byte => [Json.hexDigit (byte.toNat / 16), Json.hexDigit (byte.toNat % 16)]

theorem hexDigit_facts : ∀ n < 16, isLowerHex (Json.hexDigit n) = true ∧
    ∀ m < 16, Json.hexDigit n = Json.hexDigit m → n = m := by decide

theorem byte_digits (byte : UInt8) : byte.toNat / 16 < 16 ∧ byte.toNat % 16 < 16 := by
  have hbyte := byte.toNat_lt
  omega

def hexMac : KeyedDigest where
  hexdigest _ message := String.ofList (hexBytes message)
  isHex _ message := by
    rw [String.toList_ofList, hexBytes, List.all_eq_true]
    intro c hc
    obtain ⟨byte, -, hdigit⟩ := List.mem_flatMap.mp hc
    obtain ⟨hhigh, hlow⟩ := byte_digits byte
    simp only [List.mem_cons, List.not_mem_nil, or_false] at hdigit
    rcases hdigit with rfl | rfl
    · exact (hexDigit_facts _ hhigh).1
    · exact (hexDigit_facts _ hlow).1

theorem hexMac_injective : Function.Injective (hexMac.hexdigest key) := by
  intro a b h
  have hdigits : hexBytes a = hexBytes b := String.ofList_injective h
  have hlists : ∀ xs ys : List UInt8, (xs.flatMap fun byte : UInt8 =>
      [Json.hexDigit (byte.toNat / 16), Json.hexDigit (byte.toNat % 16)]) = (ys.flatMap fun byte : UInt8 =>
      [Json.hexDigit (byte.toNat / 16), Json.hexDigit (byte.toNat % 16)]) → xs = ys := by
    intro xs
    induction xs with
    | nil =>
      intro ys hys
      cases ys with
      | nil => rfl
      | cons y ys => cases hys
    | cons x xs ih =>
      intro ys hys
      cases ys with
      | nil => cases hys
      | cons y ys =>
        simp only [List.flatMap_cons, List.cons_append, List.nil_append, List.cons.injEq] at hys
        obtain ⟨hhigh, hlow, hrest⟩ := hys
        have hx := byte_digits x
        have hy := byte_digits y
        have hdiv := (hexDigit_facts _ hx.1).2 _ hy.1 hhigh
        have hmod := (hexDigit_facts _ hx.2).2 _ hy.2 hlow
        rw [ih ys hrest, UInt8.toNat_inj.mp (by omega : x.toNat = y.toNat)]
  exact ByteArray.ext (Array.toList_inj.mp (hlists _ _ hdigits))

def samplePause : ApprovalPauseSnapshot samplePython where
  data := {
    migrationId := "m-1", participantId := "p-1", ownerUrn := "urn:li:corpuser:o"
    oldField := "old", newField := "new"
    impactFingerprint := String.ofList (List.replicate 64 'a')
    repositoryBaseShas := Dict.empty.set "repo" (String.ofList (List.replicate 40 'b'))
    pausedAt := "2026-01-01T00:00:00Z" }
  checked := by decide +kernel

def sampleKey : ByteArray := ⟨⟨List.replicate 32 7⟩⟩

theorem samplePause_bound : ∃ s, (readSignedPauseSnapshot samplePython hexMac "approval-pause.json"
      sampleKey).exec Files.answer ((writeSignedPauseSnapshot samplePython hexMac "approval-pause.json"
        samplePause sampleKey).exec Files.answer .empty).2 = (.ok s,
      ((writeSignedPauseSnapshot samplePython hexMac "approval-pause.json" samplePause sampleKey).exec
        Files.answer .empty).2) ∧ s.Equal samplePython samplePause := by
  have hwritten : ((writeSignedPauseSnapshot samplePython hexMac "approval-pause.json" samplePause
      sampleKey).exec Files.answer .empty).1 = .ok () := by decide +kernel
  exact (pause_snapshots_bind hexMac_injective).1 samplePause _ _ _ (Prod.ext hwritten rfl)

end LineageTX
