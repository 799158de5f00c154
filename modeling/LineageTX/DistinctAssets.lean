import LineageTX.StageWriteback
import LineageTX.Loaded

/-! The source and its three consumers. The reader, the constructor of a context and the
policy compare counts and sets of assets, so all three let the source through as one of
its own consumers; the constructor of the writer is the first to refuse it. -/
namespace LineageTX
open Library
variable {py : Python}

/-- Four distinct assets. -/
def ContextData.Distinct (c : ContextData) : Prop :=
  c.assetUrns.length = 4 ∧ c.assetUrns.Nodup

/-- The participants and the consumers correspond one to one, each kind at its hop. -/
structure ContextData.Corresponds (py : Python) (c : ContextData) (participants : List Participant) :
    Prop where
  assets : (participants.map (·.assetUrn)).Perm (c.consumers.map (·.urn))
  once : (c.consumers.map (·.urn)).Nodup
  kinds : (participants.map (·.kind)).Perm [.dbtSql, .airflowMapping, .semanticApproval]
  hops : ∀ p ∈ participants, ∃ k ∈ c.consumers, k.urn = p.assetUrn ∧
    degreeOf py k.degree = .ok (SafetyPolicy.expectedDegree p.kind)

namespace Reader
variable {r : Reader}

theorem Loaded.distinct_iff {sourceUrn sourceColumn replacementColumn : String}
    {lineage : List Found} {c : ContextData}
    (h : Loaded py r sourceUrn sourceColumn replacementColumn lineage c) :
    c.Distinct ↔ sourceUrn ∉ lineage.map Prod.fst := by
  obtain ⟨hlen, -, hurns, -⟩ := checkLineage_cases h.lineage
  have hconsumers : c.consumers.map (·.urn) = lineage.map Prod.fst := by
    rw [← h.found, List.map_map]
    rfl
  simp only [ContextData.Distinct, ContextData.assetUrns, hconsumers, h.sourceUrn,
    List.nodup_cons, List.length_cons, List.length_map, hlen]
  exact ⟨fun hd => hd.2.1, fun hsource => ⟨trivial, hsource, hurns⟩⟩

end Reader

namespace SafetyPolicy

/-- Every consumer of an accepted discovery is bound to a participant of its hop. -/
theorem corresponds_of_accepted {policy : SafetyPolicy} {intent : ChangeIntent}
    {attestation : DiscoveryAttestation py} {participants : List Participant}
    {decision : DiscoveryDecision}
    (h : policy.validateDiscovery py intent attestation participants = .ok decision) :
    attestation.context.data.consumers.length = 3 ∧
      attestation.context.data.Corresponds py participants := by
  have hacc := validateDiscovery_accepted h
  simp only [validateDiscovery, bind_eq_ok] at h
  obtain ⟨_, -, _, hmapping, _, -, bound, hbound, -⟩ := h
  simp only [checkMapping, requirePolicy, bind_eq_ok, require_eq_ok, decide_eq_true_eq] at hmapping
  obtain ⟨_, hthree, -⟩ := hmapping
  have hassets : (participants.map (·.assetUrn)).Perm
      (attestation.context.data.consumers.map (·.urn)) := by
    have hsub := hacc.assets.subperm fun urn hurn => (hacc.covers urn).mp hurn
    exact hsub.perm_of_length_le (by simp [hacc.count, hthree])
  have hkinds : ([.dbtSql, .airflowMapping, .semanticApproval] : List ParticipantKind).Perm
      (participants.map (·.kind)) := by
    have hsub : ([.dbtSql, .airflowMapping, .semanticApproval] : List ParticipantKind).Subperm
        (participants.map (·.kind)) := by
      refine List.Nodup.subperm (by decide) fun kind _ => ?_
      obtain ⟨p, hp, hkind⟩ := hacc.kinds kind
      exact List.mem_map.mpr ⟨p, hp, hkind⟩
    exact hsub.perm_of_length_le (by simp [hacc.count])
  refine ⟨hthree, hassets, hassets.nodup_iff.mp hacc.assets, hkinds.symm, fun p hp => ?_⟩
  obtain ⟨b, -, hb⟩ := exists_of_mapM_ok hbound hp
  obtain ⟨-, -, hmem, hurn, hcheck⟩ := bindParticipant_eq_ok hb
  simp only [checkConsumer, requirePolicy, bind_eq_ok, require_eq_ok, decide_eq_true_eq] at hcheck
  obtain ⟨degree, hdegree, _, hexpected, -⟩ := hcheck
  exact ⟨b.2.1, hmem, hurn, hexpected ▸ hdegree⟩

end SafetyPolicy

/-- A read returns four distinct assets exactly if the lineage that it read does not list
the source, and an accepted discovery has four distinct assets, with the participants in
correspondence with the consumers, exactly if the source is none of the consumers. -/
theorem distinct_iff_source_not_consumer (py : Python) :
    (∀ (r : Reader) (sourceUrn sourceColumn replacementColumn : String) (s s' : ReadState)
      (c : ContextData), r.load py sourceUrn sourceColumn replacementColumn s = .ok (c, s') →
      ∃ lineage t, r.readLineage py sourceUrn sourceColumn s = .ok (lineage, t) ∧
        (c.Distinct ↔ sourceUrn ∉ lineage.map Prod.fst)) ∧
    ∀ (policy : SafetyPolicy) (intent : ChangeIntent) (attestation : DiscoveryAttestation py)
      (participants : List Participant) (decision : DiscoveryDecision),
      policy.validateDiscovery py intent attestation participants = .ok decision →
      let context := attestation.context.data
      (context.Distinct ∧ context.Corresponds py participants ↔
        context.sourceUrn ∉ context.consumers.map (·.urn)) := by
  refine ⟨fun r sourceUrn sourceColumn replacementColumn s s' c h => ?_, ?_⟩
  · obtain ⟨lineage, t, hlineage, hloaded⟩ := Reader.load_readLineage h
    exact ⟨lineage, t, hlineage, hloaded.distinct_iff⟩
  · intro policy intent attestation participants decision h context
    obtain ⟨hthree, hcorresponds⟩ := SafetyPolicy.corresponds_of_accepted h
    constructor
    · rintro ⟨⟨-, hnodup⟩, -⟩
      exact (List.nodup_cons.mp hnodup).1
    · intro hsource
      refine ⟨⟨?_, List.nodup_cons.mpr ⟨hsource, hcorresponds.once⟩⟩, hcorresponds⟩
      simp [ContextData.assetUrns, context, hthree]

/-- A read whose lineage comes back to the source at hop two. -/
def cyclicRead : ReadM ContextData :=
  (Reader.sample (.sample id) true [("a", 1), ("s", 2), ("c", 3)]).load (.sample id) "s" "old" "new"

/-- A discovery that has the source as its consumer at hop two. -/
def cyclicContextData : ContextData :=
  let source := "urn:li:dataset:orders"
  let consumers := [("urn:li:dataset:a", "1"), (source, "2"), ("urn:li:dataset:c", "3+")]
  let lineage : List ConsumerLineage := consumers.map fun c => ⟨c.1, c.2, ["cust_id"], [[]]⟩
  let assets := ((source :: consumers.map Prod.fst).foldl
    (fun d urn => d.set urn (sampleAsset ["urn:li:tag:pii"] urn)) Dict.empty)
  { sampleContextData with
    consumers := lineage, assets
    impactFingerprint := computeImpactFingerprint samplePython source "cust_id" "customer_id"
      lineage assets }

def cyclicContext : ContextObject samplePython where
  ident := 1
  data := cyclicContextData
  valid := by
    rw [ContextData.postInit_of_computed _ rfl]
    have hok : cyclicContextData.checkStructure = .ok () := by decide +kernel
    rw [hok]
    rfl

/-- The participants of that discovery: the Airflow one is bound to the source. -/
def cyclicParticipants : List Participant :=
  (sampleParticipants "p1" "p2" "p3").map fun p =>
    if p.kind = .airflowMapping then { p with assetUrn := "urn:li:dataset:orders" } else p

theorem exists_of_read {α β : Type} {f : α → β} {x : Result (α × ReadState)} {b : β}
    (h : (x.toOption.map fun y => f y.1) = some b) : ∃ c t, x = .ok (c, t) ∧ f c = b := by
  cases x with
  | error e => cases h
  | ok y => exact ⟨y.1, y.2, rfl, Option.some.inj h⟩

/-- Neither a read nor an accepted discovery has four distinct assets in general: a
cyclic lineage gives both the source as one of its own consumers. -/
theorem source_accepted_as_consumer :
    (¬∀ (r : Reader) (sourceUrn sourceColumn replacementColumn : String) (s s' : ReadState)
      (c : ContextData), r.load (.sample id) sourceUrn sourceColumn replacementColumn s =
        .ok (c, s') → c.Distinct) ∧
    ¬∀ (policy : SafetyPolicy) (intent : ChangeIntent) (attestation : DiscoveryAttestation samplePython)
      (participants : List Participant) (decision : DiscoveryDecision),
      policy.validateDiscovery samplePython intent attestation participants = .ok decision →
      attestation.context.data.Distinct := by
  constructor
  · intro h
    have hrun : ((cyclicRead {}).toOption.map fun y => y.1.assetUrns) =
        some ["s", "a", "s", "c"] := by
      simp only [cyclicRead, Reader.load, Reader.buildContext_eq]
      decide +kernel
    obtain ⟨c, t, hload, hurns⟩ := exists_of_read hrun
    have hdistinct := (h _ _ _ _ _ _ _ hload).2
    rw [hurns] at hdistinct
    simp at hdistinct
  · intro h
    obtain ⟨decision, hpolicy⟩ := exists_of_isOk (show (SafetyPolicy.validateDiscovery samplePython
      ⟨false⟩ .sample ⟨cyclicContext, true⟩ cyclicParticipants).isOk = true by decide +kernel)
    have hdistinct := h ⟨false⟩ .sample ⟨cyclicContext, true⟩ cyclicParticipants decision hpolicy
    have hsource : ¬cyclicContextData.assetUrns.Nodup := by decide +kernel
    exact hsource hdistinct.2

/-- The sample read and the sample discovery have four distinct assets. -/
theorem sample_distinct : (∃ c t, Reader.sampleColumns {} = .ok (c, t) ∧ ∃ lineage t',
      (Reader.sample (.sample id) true [("a", 1), ("b", 2), ("c", 3)]).readLineage (.sample id)
        "s" "old" {} = .ok (lineage, t') ∧
      (c.Distinct ↔ "s" ∉ lineage.map Prod.fst)) ∧
    sampleContextData.Distinct ∧
      sampleContextData.Corresponds samplePython (sampleParticipants "p1" "p2" "p3") := by
  constructor
  · obtain ⟨c, -, t, -, hload, -⟩ := Reader.sampleReads
    exact ⟨c, t, hload, (distinct_iff_source_not_consumer _).1 _ _ _ _ _ _ c hload⟩
  · obtain ⟨decision, hpolicy⟩ := exists_of_isOk (show (SafetyPolicy.validateDiscovery samplePython
      ⟨false⟩ .sample ⟨sampleContext, true⟩ (sampleParticipants "p1" "p2" "p3")).isOk = true by
        decide +kernel)
    exact ((distinct_iff_source_not_consumer _).2 _ _ _ _ decision hpolicy).mpr (by decide +kernel)

end LineageTX
