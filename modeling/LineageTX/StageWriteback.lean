import LineageTX.Policy

/-! The map that the coordinator writes back at one stage, source first and then the
participants as the store lists them, against the input checks of the writer. -/
namespace LineageTX
open Library
variable {py : Python}

/-- `owner_urns[0]` -/
def firstOwner : List String → Result String
  | [] => raise (.other "IndexError") "tuple index out of range"
  | owner :: _ => .ok owner

theorem firstOwner_eq_ok {owners : List String} {owner : String} :
    firstOwner owners = .ok owner ↔ owners.head? = some owner := by
  cases owners <;> simp [firstOwner, raise]

variable (py) in
/-- One turn of the participant loop of `_writeback`. -/
def addWriteback (migrationId evidenceUrl : String) (writebacks : Dict MigrationWriteback)
    (participant : Participant) : Result (Dict MigrationWriteback) := do
  let owner ← firstOwner participant.ownerUrns
  let record ← MigrationWriteback.postInit py
    { migrationId, status := participant.status.value, owner, evidenceUrl }
  return writebacks.set participant.assetUrn record

variable (py) in
/-- The map that `_writeback` passes to the writer at one stage. -/
def stageWritebacks (context : ContextData) (migration : MigrationRecord)
    (participants : List Participant) (evidenceUrl : String) :
    Result (Dict MigrationWriteback) := do
  require (participants.length = 3) .coordinationError
    "DataHub write-back requires exactly three consumers"
  let owner ← firstOwner context.source.governance.ownerUrns
  let source ← MigrationWriteback.postInit py
    { migrationId := migration.migrationId, status := migration.status.value, owner, evidenceUrl }
  participants.foldlM (addWriteback py migration.migrationId evidenceUrl)
    (Dict.empty.set context.sourceUrn source)

theorem MigrationWriteback.postInit_eq_ok {r r' : MigrationWriteback}
    (h : r.postInit py = .ok r') : r' = r := by
  simp only [MigrationWriteback.postInit, bind_eq_ok] at h
  obtain ⟨_, -, _, -, _, -, _, -, ⟨⟩⟩ := h
  rfl

/-- The records that the loop adds, one for each participant of a new asset. -/
theorem addWritebacks_eq_ok {mid url : String} {ps : List Participant}
    {d m : Dict MigrationWriteback} (h : ps.foldlM (addWriteback py mid url) d = .ok m)
    (hn : (ps.map (·.assetUrn)).Nodup) (hnew : ∀ p ∈ ps, p.assetUrn ∉ d.keys) :
    m.keys = d.keys ++ ps.map (·.assetUrn) ∧ (∀ urn ∈ d.keys, m.get? urn = d.get? urn) ∧
      ∀ p ∈ ps, ∃ owner, p.ownerUrns.head? = some owner ∧
        m.get? p.assetUrn = some ⟨mid, p.status.value, owner, url⟩ := by
  induction ps generalizing d with
  | nil =>
    obtain ⟨⟩ := h
    simp
  | cons p ps ih =>
    simp only [List.foldlM_cons, bind_eq_ok] at h
    obtain ⟨mid', hmid, h⟩ := h
    simp only [addWriteback, bind_eq_ok, firstOwner_eq_ok] at hmid
    obtain ⟨owner, howner, r, hr, ⟨⟩⟩ := hmid
    obtain rfl := MigrationWriteback.postInit_eq_ok hr
    obtain ⟨hp, hn⟩ := List.nodup_cons.mp hn
    have hkeys := Dict.keys_set_of_notMem ⟨mid, p.status.value, owner, url⟩ (hnew p (by simp))
    obtain ⟨hm, hold, hrest⟩ := ih h hn fun q hq => by
      rw [hkeys, List.mem_append, List.mem_singleton, not_or]
      exact ⟨hnew q (by simp [hq]), fun he => hp (List.mem_map.mpr ⟨q, hq, he⟩)⟩
    refine ⟨by rw [hm, hkeys]; simp, fun urn hurn => ?_, fun q hq => ?_⟩
    · rw [hold urn (by rw [hkeys]; simp [hurn]), Dict.get?_set, if_neg]
      rintro rfl
      exact hnew p (by simp) hurn
    · rcases List.mem_cons.mp hq with rfl | hq
      · refine ⟨owner, howner, ?_⟩
        rw [hold _ (by rw [hkeys]; simp), Dict.get?_set, if_pos rfl]
      · exact hrest q hq

/-- The map at one stage: its keys in order, and the record of each asset. -/
structure StageMap (context : ContextData) (migration : MigrationRecord) (rows : List Participant)
    (url : String) (m : Dict MigrationWriteback) : Prop where
  keys : m.keys = context.sourceUrn :: rows.map (·.assetUrn)
  source : ∃ owner, context.source.governance.ownerUrns.head? = some owner ∧
    m.get? context.sourceUrn = some ⟨migration.migrationId, migration.status.value, owner, url⟩
  rows : ∀ p ∈ rows, ∃ owner, p.ownerUrns.head? = some owner ∧
    m.get? p.assetUrn = some ⟨migration.migrationId, p.status.value, owner, url⟩

theorem stageMap {context : ContextData} {migration : MigrationRecord} {rows : List Participant}
    {url : String} {m : Dict MigrationWriteback}
    (h : stageWritebacks py context migration rows url = .ok m)
    (hn : (context.sourceUrn :: rows.map (·.assetUrn)).Nodup) :
    StageMap context migration rows url m := by
  obtain ⟨hsrc, hn⟩ := List.nodup_cons.mp hn
  simp only [stageWritebacks, bind_eq_ok, firstOwner_eq_ok] at h
  obtain ⟨_, -, owner, howner, r, hr, h⟩ := h
  obtain rfl := MigrationWriteback.postInit_eq_ok hr
  have hkeys : (Dict.empty.set context.sourceUrn (⟨migration.migrationId, migration.status.value,
      owner, url⟩ : MigrationWriteback)).keys = [context.sourceUrn] := rfl
  obtain ⟨hm, hold, hrows⟩ := addWritebacks_eq_ok h hn fun p hp => by
    rw [hkeys, List.mem_singleton]
    exact fun he => hsrc (List.mem_map.mpr ⟨p, hp, he⟩)
  exact ⟨hm, ⟨owner, howner, (hold _ (by rw [hkeys]; simp)).trans (by simp [Dict.get?_set])⟩, hrows⟩

/-- The records speak about the source or about a listed participant. -/
theorem StageMap.record {context : ContextData} {migration : MigrationRecord}
    {rows : List Participant} {url : String} {m : Dict MigrationWriteback}
    (h : StageMap context migration rows url m) {e : String × MigrationWriteback} (he : e ∈ m.val) :
    e.2.migrationId = migration.migrationId ∧ (e.2.status = migration.status.value ∨
      ∃ p ∈ rows, e.2.status = p.status.value) := by
  have hget := (Dict.mem_iff_get? m e.1 e.2).mp he
  have hkey : e.1 ∈ m.keys := List.mem_map_of_mem he
  rw [h.keys] at hkey
  rcases List.mem_cons.mp hkey with hsrc | hrow
  · obtain ⟨owner, -, hrec⟩ := h.source
    rw [hsrc, hrec] at hget
    rw [← Option.some.inj hget]
    exact ⟨rfl, .inl rfl⟩
  · obtain ⟨p, hp, hurn⟩ := List.mem_map.mp hrow
    obtain ⟨owner, -, hrec⟩ := h.rows p hp
    rw [← hurn, hrec] at hget
    rw [← Option.some.inj hget]
    exact ⟨rfl, .inr ⟨p, hp, rfl⟩⟩

theorem dedup_length_of_all_eq {l : List String} {a : String} (hne : l ≠ []) (h : ∀ x ∈ l, x = a) :
    l.dedup.length = 1 := by
  have hlen : l.length ≠ 0 := fun h0 => hne (List.eq_nil_of_length_eq_zero h0)
  rw [List.eq_replicate_of_mem h, List.replicate_dedup hlen]
  rfl

theorem forM_eq_ok {α : Type} {f : α → Result Unit} {l : List α} {u : Unit} :
    l.forM f = .ok u ↔ ∀ a ∈ l, f a = .ok () := by
  induction l with
  | nil => simp [pure, Except.pure]
  | cons a l ih =>
    have hcons : (a :: l).forM f = f a >>= fun _ => l.forM f := rfl
    rw [hcons, bind_eq_ok, List.forall_mem_cons, ← ih]
    exact ⟨fun ⟨_, ha, hl⟩ => ⟨ha, hl⟩, fun ⟨ha, hl⟩ => ⟨(), ha, hl⟩⟩

theorem Writer.checkOwner_eq_ok {w : Writer py} {m : Dict MigrationWriteback} {urn : String}
    {r : MigrationWriteback} {a : Asset} {u : Unit} (hr : m.get? urn = some r)
    (ha : w.context.data.assets.get? urn = some a) :
    w.checkOwner m urn = .ok u ↔ a.governance.ownerUrns = [r.owner] := by
  simp only [checkOwner, hr, ha, require_eq_ok, Bool.and_eq_true, decide_eq_true_eq]
  rcases a.governance.ownerUrns with _ | ⟨o, _ | ⟨o', os⟩⟩ <;> simp [eq_comm]

/-- The store lists the participants, in whatever order and at whatever status. -/
def Listed (participants rows : List Participant) : Prop :=
  (rows.map fun p => (p.participantId, p.assetUrn, p.ownerUrns)).Perm
    (participants.map fun p => (p.participantId, p.assetUrn, p.ownerUrns))

theorem Listed.assets {participants rows : List Participant} (h : Listed participants rows) :
    (rows.map (·.assetUrn)).Perm (participants.map (·.assetUrn)) := by
  have := h.map fun e => e.2.1
  simpa [Function.comp_def] using this

/-- The store lists the participants in the order of the consumers, the source has
one owner and every participant names the owner of its asset first. -/
structure SameBindings (context : ContextData) (rows : List Participant) : Prop where
  order : rows.map (·.assetUrn) = context.consumers.map (·.urn)
  source : context.source.governance.ownerUrns.length = 1
  owners : ∀ p ∈ rows, p.ownerUrns.head? =
    (context.assets.get? p.assetUrn).bind fun a => a.governance.ownerUrns.head?

/-- Every consumer of a complete context has one owner. -/
theorem consumer_owner {c : ContextData} (h : c.checkComplete = .ok ()) {urn : String}
    (hurn : urn ∈ c.consumers.map (·.urn)) :
    ∃ a owner, c.assets.get? urn = some a ∧ a.governance.ownerUrns = [owner] := by
  simp only [ContextData.checkComplete, bind_eq_ok, require_eq_ok] at h
  obtain ⟨_, -, h⟩ := h
  obtain ⟨k, hk, rfl⟩ := List.mem_map.mp hurn
  have hany := List.all_eq_true.mp h k hk
  cases ha : c.assets.get? k.urn with
  | none => simp [ha] at hany
  | some a =>
    rw [ha, Option.any_some, beq_iff_eq] at hany
    obtain ⟨owner, howner⟩ := List.length_eq_one_iff.mp hany
    exact ⟨a, owner, rfl, howner⟩

theorem StageMap.checkAssets_iff {w : Writer py} {migration : MigrationRecord}
    {rows : List Participant} {url : String} {m : Dict MigrationWriteback}
    (h : StageMap w.context.data migration rows url m)
    (hsrc : w.context.data.assets.get? w.context.data.sourceUrn = some w.context.data.source)
    (hcomplete : w.context.data.checkComplete = .ok ())
    (hrows : ∀ p ∈ rows, p.assetUrn ∈ w.context.data.consumers.map (·.urn)) :
    w.checkAssets m = .ok () ↔ SameBindings w.context.data rows := by
  have hids : (m.val.map (·.2.migrationId)).dedup.length = 1 := by
    refine dedup_length_of_all_eq (a := migration.migrationId) (fun hnil => ?_) fun id hid => ?_
    · have hkeys := h.keys
      rw [Dict.keys, List.map_eq_nil_iff.mp hnil] at hkeys
      cases hkeys
    · obtain ⟨e, he, rfl⟩ := List.mem_map.mp hid
      exact (h.record he).1
  obtain ⟨owner, howner, hrec⟩ := h.source
  simp only [Writer.checkAssets, bind_eq_ok, require_eq_ok, forM_eq_ok, hids, w.fingerprint,
    decide_true, Bool.and_eq_true, decide_eq_true_eq, exists_const, true_and, h.keys,
    Writer.entityUrns]
  constructor
  · rintro ⟨⟨horder, -⟩, howners⟩
    refine ⟨(List.cons.inj horder).2, ?_, fun p hp => ?_⟩
    · have hone := (Writer.checkOwner_eq_ok hrec hsrc).mp (howners _ (by simp [ContextData.assetUrns]))
      simp [hone]
    · obtain ⟨owner, hp', hrec⟩ := h.rows p hp
      obtain ⟨a, only, ha, -⟩ := consumer_owner hcomplete (hrows p hp)
      have hone := (Writer.checkOwner_eq_ok hrec ha).mp
        (howners _ (List.mem_cons_of_mem _ (hrows p hp)))
      rw [hp', ha, Option.bind_some, hone]
      rfl
  · intro hb
    have horder : w.context.data.sourceUrn :: rows.map (·.assetUrn) = w.context.data.assetUrns := by
      rw [hb.order, ContextData.assetUrns]
    refine ⟨⟨horder, ?_⟩, fun urn hurn => ?_⟩
    · rw [horder]
      simp [ContextData.sameSet]
    · rw [← horder] at hurn
      rcases List.mem_cons.mp hurn with rfl | hurn
      · refine (Writer.checkOwner_eq_ok hrec hsrc).mpr ?_
        obtain ⟨only, honly⟩ := List.length_eq_one_iff.mp hb.source
        rw [honly] at howner ⊢
        simpa using howner
      · obtain ⟨p, hp, rfl⟩ := List.mem_map.mp hurn
        obtain ⟨owner, hp', hrec⟩ := h.rows p hp
        obtain ⟨a, only, ha, honly⟩ := consumer_owner hcomplete (hrows p hp)
        refine (Writer.checkOwner_eq_ok hrec ha).mpr ?_
        have hsame := hb.owners p hp
        rw [hp', ha, Option.bind_some, honly] at hsame
        rw [honly]
        simpa using hsame.symm

theorem status_ne_committed {status : MigrationStatus} (h : status ≠ .committed) :
    status.value ≠ "COMMITTED" := by
  cases status <;> first | exact absurd rfl h | decide

theorem participantStatus_ne_committed {status : ParticipantStatus} (h : status ≠ .committed) :
    status.value ≠ "COMMITTED" := by
  cases status <;> first | exact absurd rfl h | decide

/-- The map of a stage before COMMITTED passes the checks of the writer exactly if
the listing and the context bind the same assets in one order to the same owners. -/
theorem stage_accepted_iff (py : Python) (policy : SafetyPolicy) (intent : ChangeIntent)
    (attestation : DiscoveryAttestation py) (participants rows : List Participant)
    (decision : DiscoveryDecision) (w : Writer py) (migration : MigrationRecord) (url : String)
    (writebacks : Dict MigrationWriteback)
    (hpolicy : policy.validateDiscovery py intent attestation participants = .ok decision)
    (hcontext : w.context = attestation.context) (hrows : Listed participants rows)
    (hstage : migration.status ≠ .committed ∧ ∀ p ∈ rows, p.status ≠ .committed)
    (hbuild : stageWritebacks py attestation.context.data migration rows url = .ok writebacks) :
    w.checkInput writebacks none = .ok () ↔ SameBindings attestation.context.data rows := by
  have hacc := SafetyPolicy.validateDiscovery_accepted hpolicy
  obtain ⟨-, -, -, hsrc, hcomplete⟩ := Reader.postInit_eq_ok attestation.context.valid
  have hurns : ∀ p ∈ rows, p.assetUrn ∈ attestation.context.data.consumers.map (·.urn) :=
    fun p hp => (hacc.covers _).mp ((hrows.assets.mem_iff).mp (List.mem_map_of_mem hp))
  have hdistinct : (attestation.context.data.sourceUrn :: rows.map (·.assetUrn)).Nodup := by
    have hw := w.assets.2
    rw [hcontext] at hw
    obtain ⟨hnot, -⟩ := List.nodup_cons.mp hw
    refine List.nodup_cons.mpr ⟨fun hmem => hnot ?_, hrows.assets.nodup_iff.mpr hacc.assets⟩
    obtain ⟨p, hp, hurn⟩ := List.mem_map.mp hmem
    exact hurn ▸ hurns p hp
  have hm := stageMap hbuild hdistinct
  have hstatus : (writebacks.val.any fun e => e.2.status = "COMMITTED") = false := by
    refine List.any_eq_false.mpr fun e he => ?_
    rcases (hm.record he).2 with hst | ⟨p, hp, hst⟩
    · simpa [hst] using status_ne_committed hstage.1
    · simpa [hst] using participantStatus_ne_committed (hstage.2 p hp)
  rw [← hcontext] at hm hurns hsrc hcomplete hacc ⊢
  have hiff := hm.checkAssets_iff hsrc (hcomplete hacc.complete) hurns
  rw [← hiff, Writer.checkInput, hstatus]
  cases w.checkAssets writebacks <;> simp [bind_eq_ok]

def sampleAsset (tags : List String) (urn : String) : Asset where
  urn
  schema := [⟨"cust_id", "string", none, ""⟩, ⟨"customer_id", "string", none, ""⟩]
  governance := ⟨["urn:li:corpuser:o"], tags, Dict.empty⟩

def sampleConsumers : List (String × String) :=
  [("urn:li:dataset:a", "1"), ("urn:li:dataset:b", "2"), ("urn:li:dataset:c", "3+")]

/-- A discovery of three consumers for the sample intent. -/
def sampleContextData : ContextData :=
  let source := "urn:li:dataset:orders"
  let consumers := sampleConsumers.map fun c => ⟨c.1, c.2, ["cust_id"], [[]]⟩
  let assets := ((source :: sampleConsumers.map Prod.fst).foldl
    (fun d urn => d.set urn (sampleAsset ["urn:li:tag:pii"] urn)) Dict.empty)
  let trace (tool : String) : Json := .obj [("tool", .str tool)]
  { sourceUrn := source, sourceColumn := "cust_id", replacementColumn := "customer_id"
    source := sampleAsset ["urn:li:tag:pii"] source, consumers, assets
    toolTraces := trace "get_lineage" :: trace "get_entities" ::
      (List.replicate 4 (trace "list_schema_fields") ++
        List.replicate 3 (trace "get_lineage_paths_between"))
    transport := "datahub-oss+official-mcp-server-datahub==0.6.0"
    discoveryComplete := true
    impactFingerprint := computeImpactFingerprint samplePython source "cust_id" "customer_id"
      consumers assets }

def sampleContext : ContextObject samplePython where
  ident := 0
  data := sampleContextData
  valid := by
    rw [ContextData.postInit_of_computed _ rfl]
    have hok : sampleContextData.checkStructure = .ok () := by decide +kernel
    rw [hok]
    rfl

def sampleWriter : Writer samplePython where
  transport := sampleContextData.transport
  context := sampleContext
  complete := rfl
  fingerprint := rfl
  assets := by decide +kernel
  sameTransport := rfl

/-- The participants of the sample discovery under the given identifiers. -/
def sampleParticipants (dbt airflow semantic : String) : List Participant :=
  [(dbt, .dbtSql, "urn:li:dataset:a"), (airflow, .airflowMapping, "urn:li:dataset:b"),
    (semantic, .semanticApproval, "urn:li:dataset:c")].map fun e => {
      participantId := e.1, migrationId := ChangeIntent.sample.migrationId, kind := e.2.1
      assetUrn := e.2.2, repository := "data/consumers", ownerUrns := ["urn:li:corpuser:o"]
      files := [], createdAt := "2026-01-01T00:00:00Z", updatedAt := "2026-01-01T00:00:00Z" }

def sampleMigration : MigrationRecord :=
  ⟨.sample, .detected, 0, "2026-01-01T00:00:00Z", "2026-01-01T00:00:00Z"⟩

/-- Listed in hop order, the sample participants give an accepted map. -/
theorem sampleStage_accepted : ∃ writebacks,
    stageWritebacks samplePython sampleContext.data sampleMigration
      (sampleParticipants "p1" "p2" "p3") "https://e/s.json" = .ok writebacks ∧
    sampleWriter.checkInput writebacks none = .ok () := by
  obtain ⟨decision, hpolicy⟩ := exists_of_isOk (show (SafetyPolicy.validateDiscovery samplePython
    ⟨false⟩ .sample ⟨sampleContext, true⟩ (sampleParticipants "p1" "p2" "p3")).isOk = true by
      decide +kernel)
  obtain ⟨writebacks, hbuild⟩ := exists_of_isOk (show (stageWritebacks samplePython
    sampleContext.data sampleMigration (sampleParticipants "p1" "p2" "p3")
      "https://e/s.json").isOk = true by decide +kernel)
  exact ⟨writebacks, hbuild, (stage_accepted_iff samplePython ⟨false⟩ .sample ⟨sampleContext, true⟩ _
    _ decision sampleWriter sampleMigration _ writebacks hpolicy rfl (.refl _) (by decide) hbuild).mpr
      ⟨by decide, by decide, by decide⟩⟩

/-- Under identifiers that sort the other way the writer refuses the map. -/
theorem stage_refused : ¬∀ (participants rows : List Participant) (decision : DiscoveryDecision)
    (writebacks : Dict MigrationWriteback),
    SafetyPolicy.validateDiscovery samplePython ⟨false⟩ .sample ⟨sampleContext, true⟩ participants =
      .ok decision →
    rows = sortBy (·.participantId) participants →
    stageWritebacks samplePython sampleContext.data sampleMigration rows "https://e/s.json" =
      .ok writebacks →
    sampleWriter.checkInput writebacks none = .ok () := by
  intro hall
  obtain ⟨decision, hpolicy⟩ := exists_of_isOk (show (SafetyPolicy.validateDiscovery samplePython
    ⟨false⟩ .sample ⟨sampleContext, true⟩ (sampleParticipants "p3" "p2" "p1")).isOk = true by
      decide +kernel)
  obtain ⟨writebacks, hbuild⟩ := exists_of_isOk (show (stageWritebacks samplePython
    sampleContext.data sampleMigration (sortBy (·.participantId) (sampleParticipants "p3" "p2" "p1"))
      "https://e/s.json").isOk = true by decide +kernel)
  have hok := hall _ _ decision writebacks hpolicy rfl hbuild
  have hkeys := (stageMap hbuild (by decide +kernel)).keys
  simp only [Writer.checkInput, Writer.checkAssets, bind_eq_ok, require_eq_ok, Bool.and_eq_true,
    decide_eq_true_eq] at hok
  obtain ⟨_, ⟨_, -, _, ⟨hsame, -⟩, -⟩, -⟩ := hok
  rw [hkeys] at hsame
  exact absurd hsame (by decide +kernel)

end LineageTX
