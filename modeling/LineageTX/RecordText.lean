import LineageTX.ReceiptRoundTrip

/-! The records as text: what `to_json` writes of a constructed intent or participant,
`from_json` reads as the same record, and the identifier of an intent tells its identity. -/
namespace LineageTX
open Library
variable {py : Python}

def ChangeIntent.toJson (i : ChangeIntent) : String := canonicalJson i.toDict

def ChangeIntent.fromJson (py : Python) (value : String) : Result ChangeIntent := do
  ChangeIntent.fromDict py (← py.jsonLoads (.other "JSONDecodeError") "" value)

def Participant.toJson (p : Participant) : String := canonicalJson p.toDict

def Participant.fromJson (py : Python) (value : String) : Result Participant := do
  Participant.fromDict py (← py.jsonLoads (.other "JSONDecodeError") "" value)

/-- An intent that the constructor has made. -/
def ChangeIntent.Valid (py : Python) (i : ChangeIntent) : Prop :=
  ∃ fields : ChangeIntent, fields.postInit py = .ok i

/-- A participant that the constructor has made. -/
def Participant.Valid (p : Participant) : Prop :=
  ∃ fields : Participant, fields.postInit = .ok p

/-- The constructor changes nothing of a record that it has made. -/
theorem ChangeIntent.Valid.postInit_eq {i : ChangeIntent} (h : i.Valid py) :
    i.postInit py = .ok i := by
  obtain ⟨fields, h⟩ := h
  simp only [ChangeIntent.postInit, bind_eq_ok, require_eq_ok] at h ⊢
  obtain ⟨_, h₁, _, h₂, _, h₃, _, h₄, _, h₅, _, h₆, _, h₇, _, h₈, _, h₉, _, h₁₀, _, h₁₁, _, h₁₂,
    _, h₁₃, _, -, _, h₁₄, ⟨⟩⟩ := h
  exact ⟨(), h₁, (), h₂, (), h₃, (), h₄, (), h₅, (), h₆, (), h₇, (), h₈, (), h₉, (), h₁₀, (), h₁₁,
    (), h₁₂, (), h₁₃, (), by simp [ChangeIntent.deriveIntentSha256], (), h₁₄, rfl⟩

theorem Participant.Valid.postInit_eq {p : Participant} (h : p.Valid) : p.postInit = .ok p := by
  obtain ⟨fields, h⟩ := h
  have hp := Participant.postInit_eq_ok h
  simp only [Participant.postInit, bind_eq_ok, require_eq_ok] at h ⊢
  obtain ⟨_, h₁, _, h₂, _, h₃, _, h₄, _, h₅, -⟩ := h
  rw [hp]
  refine ⟨(), h₁, (), h₂, (), h₃, (), h₄, (), h₅, ?_⟩
  by_cases hat : fields.updatedAt = ""
  · by_cases hcreated : fields.createdAt = ""
    · simp [hat, hcreated, pure_ok]
    · simp [hat, hcreated, pure_ok]
  · simp [hat, pure_ok]

section Documents
variable {m m' : List (String × Json)}

/-- Two documents that answer every lookup alike give the same items. -/
theorem getItem_congr (h : ∀ key, m.lookup key = m'.lookup key) (key : String) :
    getItem (.obj m) key = getItem (.obj m') key := by
  simp only [getItem, h]

theorem getD_congr (h : ∀ key, m.lookup key = m'.lookup key) (key : String) (default : Json) :
    getD (.obj m) key default = getD (.obj m') key default := by
  simp only [getD, Json.get?_obj, h]

theorem ChangeIntent.fromDict_congr (h : ∀ key, m.lookup key = m'.lookup key) :
    ChangeIntent.fromDict py (.obj m) = ChangeIntent.fromDict py (.obj m') := by
  simp only [ChangeIntent.fromDict, getItem_congr h, getD_congr h]

theorem Participant.fromDict_congr (h : ∀ key, m.lookup key = m'.lookup key) :
    Participant.fromDict py (.obj m) = Participant.fromDict py (.obj m') := by
  simp only [Participant.fromDict, getItem_congr h, getD_congr h]

/-- A document whose values are in order is read with the same answers. -/
theorem lookup_sortKeys (hkeys : (m.map Prod.fst).Nodup) (hm : Json.sortKeys (.obj m) = .obj m')
    (hvalues : ∀ e ∈ m, Json.sortKeys e.2 = e.2) (key : String) : m'.lookup key = m.lookup key := by
  have hsorted := Json.get?_sortKeys hkeys key
  rw [hm, Json.get?_obj] at hsorted
  rw [hsorted]
  cases hfound : m.lookup key with
  | none => rfl
  | some value => exact congrArg some (hvalues _ (Json.mem_of_lookup hfound))

end Documents

/-- Reading the document of an intent runs the constructor on its fields. -/
theorem ChangeIntent.fromDict_toDict (i : ChangeIntent) :
    ChangeIntent.fromDict py i.toDict = i.postInit py := by
  cases i with
  | mk mid repo pr head urn old new created base print url phase sha =>
    cases phase
    rfl

theorem Participant.fromDict_toDict (p : Participant) :
    Participant.fromDict py p.toDict = p.postInit := by
  have hread : Participant.fromDict py p.toDict = (do
      let kind ← ParticipantKind.parse p.kind.value
      let status ← ParticipantStatus.parse p.status.value
      Participant.postInit { p with
        kind, status
        ownerUrns := (p.ownerUrns.map Json.str).map py.str
        files := (p.files.map Json.str).map py.str
        evidenceLinks := (p.evidenceLinks.map Json.str).map py.str }) := rfl
  rw [hread, ParticipantKind.parse_value, ParticipantStatus.parse_value, ok_bind, ok_bind, map_str,
    map_str, map_str]

theorem ChangeIntent.toDict_loaded (i : ChangeIntent) : py.Loaded i.toDict := by
  refine loaded_obj.mpr ⟨by simp, ?_⟩
  simp [loaded_str, loaded_int]

theorem Participant.toDict_loaded (p : Participant) : py.Loaded p.toDict := by
  refine loaded_obj.mpr ⟨by simp, ?_⟩
  simp [loaded_str, loaded_int, loaded_texts]

/-- A document of plain values in the order of its text answers every lookup alike. -/
theorem lookup_sorted {m : List (String × Json)} (hkeys : (m.map Prod.fst).Nodup)
    (hvalues : ∀ e ∈ m, Json.sortKeys e.2 = e.2) :
    ∃ m', Json.sortKeys (.obj m) = .obj m' ∧ ∀ key, m'.lookup key = m.lookup key :=
  ⟨_, Json.sortKeys_obj m, lookup_sortKeys hkeys (Json.sortKeys_obj m) hvalues⟩

theorem ChangeIntent.fromDict_sortKeys (i : ChangeIntent) :
    ChangeIntent.fromDict py (Json.sortKeys i.toDict) = i.postInit py := by
  obtain ⟨m, hm, hlookup⟩ : ∃ m, Json.sortKeys i.toDict = .obj m ∧ _ :=
    lookup_sorted (by simp) (by simp [Json.sortKeys])
  rw [hm, ChangeIntent.fromDict_congr hlookup]
  exact i.fromDict_toDict

theorem Participant.lookup_sorted (p : Participant) :
    ∃ m, Json.sortKeys p.toDict = .obj m ∧ ∀ key, (Json.obj m).get? key = p.toDict.get? key := by
  refine LineageTX.lookup_sorted (by simp) fun e he => ?_
  simp only [List.mem_cons, List.not_mem_nil, or_false] at he
  rcases he with rfl | rfl | rfl | rfl | rfl | rfl | rfl | rfl | rfl | rfl | rfl | rfl | rfl | rfl
  all_goals first | rfl | exact sortKeys_texts _

theorem Participant.fromDict_sortKeys (p : Participant) :
    Participant.fromDict py (Json.sortKeys p.toDict) = p.postInit := by
  obtain ⟨m, hm, hlookup⟩ := p.lookup_sorted
  rw [hm, Participant.fromDict_congr hlookup]
  exact p.fromDict_toDict

/-- `from_json` inverts `to_json` on constructed intents. -/
theorem ChangeIntent.fromJson_toJson {i : ChangeIntent} (h : i.Valid py) :
    ChangeIntent.fromJson py i.toJson = .ok i := by
  rw [ChangeIntent.fromJson, ChangeIntent.toJson, jsonLoads_canonicalJson i.toDict_loaded, ok_bind,
    i.fromDict_sortKeys, h.postInit_eq]

/-- `from_json` inverts `to_json` on constructed participants. -/
theorem Participant.fromJson_toJson {p : Participant} (h : p.Valid) :
    Participant.fromJson py p.toJson = .ok p := by
  rw [Participant.fromJson, Participant.toJson, jsonLoads_canonicalJson p.toDict_loaded, ok_bind,
    p.fromDict_sortKeys, h.postInit_eq]

section Identity

/-- The document whose digest names an intent. -/
def ChangeIntent.identity (i : ChangeIntent) : Json := .obj [
  ("contract_schema_fingerprint", .str i.contractSchemaFingerprint),
  ("new_field", .str i.newField),
  ("old_field", .str i.oldField),
  ("producer_base_sha", .str i.producerBaseSha),
  ("producer_head_sha", .str i.producerHeadSha),
  ("producer_pr_number", .int i.producerPrNumber),
  ("producer_repository", .str i.producerRepository),
  ("rollout_phase", .str i.rolloutPhase.value),
  ("source_asset_urn", .str i.sourceAssetUrn),
  ("version", .int 1)]

theorem ChangeIntent.deriveIntentSha256_eq (i : ChangeIntent) :
    i.deriveIntentSha256 py = py.sha256 (canonicalJson i.identity) := rfl

/-- Two intents of the same change: they agree on the nine fields of its identity. -/
structure ChangeIntent.SameIdentity (i i' : ChangeIntent) : Prop where
  producerRepository : i.producerRepository = i'.producerRepository
  producerPrNumber : i.producerPrNumber = i'.producerPrNumber
  producerBaseSha : i.producerBaseSha = i'.producerBaseSha
  producerHeadSha : i.producerHeadSha = i'.producerHeadSha
  sourceAssetUrn : i.sourceAssetUrn = i'.sourceAssetUrn
  oldField : i.oldField = i'.oldField
  newField : i.newField = i'.newField
  rolloutPhase : i.rolloutPhase = i'.rolloutPhase
  contractSchemaFingerprint : i.contractSchemaFingerprint = i'.contractSchemaFingerprint

theorem ChangeIntent.sortKeys_identity (i : ChangeIntent) : Json.sortKeys i.identity = i.identity := by
  rw [identity, Json.sortKeys_obj, sortBy_of_pairwise (by simp)]
  rfl

/-- The canonical text of an identity is the text of no other identity. -/
theorem ChangeIntent.sameIdentity_of_text {i i' : ChangeIntent}
    (h : canonicalJson i.identity = canonicalJson i'.identity) : i.SameIdentity i' := by
  have hdocument : i.identity = i'.identity := by
    rw [← i.sortKeys_identity, ← i'.sortKeys_identity]
    exact (Json.dumps_eq_iff canonicalStyle).mp h
  have hphase : ∀ phase phase' : RolloutPhase, phase = phase' := by
    intro phase phase'
    cases phase
    cases phase'
    rfl
  simp only [identity, Json.obj.injEq, List.cons.injEq, Prod.mk.injEq, Json.str.injEq, Json.int.injEq,
    true_and, and_true] at hdocument
  obtain ⟨hfingerprint, hnew, hold, hbase, hhead, hnumber, hrepository, hasset⟩ := hdocument
  exact ⟨hrepository, hnumber, hbase, hhead, hasset, hold, hnew, hphase _ _, hfingerprint⟩

/-- The part of the digest that names an intent. -/
def Python.shortSha256 (py : Python) (text : String) : String := takeChars (py.sha256 text) 24

theorem ChangeIntent.Valid.migrationId_eq {i : ChangeIntent} (h : i.Valid py) :
    i.migrationId = "ltx-" ++ py.shortSha256 (canonicalJson i.identity) := by
  have hconstructed := h.postInit_eq
  simp only [ChangeIntent.postInit, bind_eq_ok, require_eq_ok] at hconstructed
  obtain ⟨_, -, _, -, _, -, _, -, _, -, _, -, _, -, _, -, _, -, _, -, _, -, _, -, _, -, _, -, _,
    hid, -⟩ := hconstructed
  exact beq_iff_eq.mp hid

/-- Where the short digest tells identities apart, so does the migration identifier. -/
theorem ChangeIntent.sameIdentity_of_migrationId {identities : Set String}
    (hdigest : Set.InjOn py.shortSha256 identities) {i i' : ChangeIntent} (hi : i.Valid py)
    (hi' : i'.Valid py) (hmem : canonicalJson i.identity ∈ identities)
    (hmem' : canonicalJson i'.identity ∈ identities) (h : i.migrationId = i'.migrationId) :
    i.SameIdentity i' := by
  rw [hi.migrationId_eq, hi'.migrationId_eq] at h
  have hshort : py.shortSha256 (canonicalJson i.identity) =
      py.shortSha256 (canonicalJson i'.identity) := String.append_right_inj _ |>.mp h
  exact sameIdentity_of_text (hdigest hmem hmem' hshort)

end Identity

end LineageTX
