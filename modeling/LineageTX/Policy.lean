import LineageTX.Writeback
import LineageTX.Receipts

/-! The fail-closed policy: the discovery that it accepts, and what an accepted
discovery is known to satisfy. -/
namespace LineageTX
open Library
variable (py : Python)

structure DiscoveryAttestation where
  context : ContextObject py
  discoveryComplete : Bool

structure DiscoveryDecision where
  sourceUrn : String
  consumerByParticipant : Dict ConsumerLineage
  orderedParticipantIds : List String
  checks : List String

def requirePolicy (check : Bool) (msg : String) : Result Unit :=
  require check .policyViolation msg

def policyViolation {α : Type} (msg : String) : Result α := raise .policyViolation msg

/-- The maximal runs of decimal digits, the matches of `\d+`. -/
def digitRuns (value : String) : List (List Nat) :=
  ((value.toList.map py.decimal).splitOnP Option.isNone |>.map fun run => run.filterMap id).filter
    (· ≠ [])

/-- `_degree` -/
def degreeOf (value : String) : Result Nat :=
  match digitRuns py value with
  | [digits] => .ok (digits.foldl (fun n d => 10 * n + d) 0)
  | _ => policyViolation
    ("unrecognized DataHub lineage degree: " ++ py.reprStr value)

structure SafetyPolicy where
  allowTestTransport : Bool

namespace SafetyPolicy

def officialTransportPrefix : String := "datahub-oss+official-"

def requiredTools : List String :=
  ["list_schema_fields", "get_lineage", "get_entities", "get_lineage_paths_between"]

def expectedDegree : ParticipantKind → Nat
  | .dbtSql => 1
  | .airflowMapping => 2
  | .semanticApproval => 3

def toolCount (traces : List Json) (tool : String) : Nat :=
  traces.countP fun item => isObj item && getD item "tool" .null = .str tool

def checkSource (policy : SafetyPolicy) (intent : ChangeIntent)
    (attestation : DiscoveryAttestation py) : Result Unit := do
  let context := attestation.context.data
  requirePolicy attestation.discoveryComplete "official MCP impact discovery is not complete"
  requirePolicy context.discoveryComplete
    "frozen DataHub context is not marked discovery_complete"
  requirePolicy (startsWith context.transport officialTransportPrefix ||
      (policy.allowTestTransport &&
        startsWith context.transport "test-double-for-official-datahub-mcp"))
    "context must come from full DataHub OSS through the official MCP server"
  requirePolicy (context.sourceUrn = intent.sourceAssetUrn)
    "DataHub source does not match the Producer ChangeIntent"
  requirePolicy (context.sourceColumn = intent.oldField)
    "DataHub lineage was not queried for the removed column"
  requirePolicy (context.replacementColumn = intent.newField)
    "DataHub replacement column does not match the intent"
  let sourceFields := context.source.schema.map (·.fieldPath)
  requirePolicy ([intent.oldField, intent.newField].all sourceFields.contains)
    "expanded source schema must contain old and replacement columns together"
  let governance := context.source.governance
  requirePolicy (governance.ownerUrns ≠ []) "source governance is missing an accountable owner"
  requirePolicy (governance.tagUrns ≠ [] || governance.structuredProperties.val ≠ [])
    "source governance signals are missing"

/-- `consumers_by_urn` -/
def consumersByUrn (context : ContextData) : Dict ConsumerLineage :=
  context.consumers.foldl (fun d c => d.set c.urn c) Dict.empty

def checkMapping (context : ContextData) (participants : List Participant) : Result Unit := do
  requirePolicy (context.consumers.length = 3)
    s!"expected exactly three impacted consumers, got {context.consumers.length}"
  requirePolicy (participants.length = 3)
    s!"expected exactly three participant mappings, got {participants.length}"
  requirePolicy (participants.map (·.participantId)).Nodup
    "participant mapping contains duplicate IDs"
  let participantUrns := participants.map (·.assetUrn)
  requirePolicy participantUrns.Nodup "participant mapping contains duplicate assets"
  requirePolicy ([ParticipantKind.dbtSql, .airflowMapping, .semanticApproval].all
      (participants.map (·.kind)).contains)
    "participants must map dbt, Airflow, and semantic consumers"
  let consumers := (consumersByUrn context).keys
  requirePolicy (consumers.length = context.consumers.length)
    "DataHub returned duplicate impacted consumer assets"
  let texts (urns : List String) := py.reprContainer (.arr ((sortedSet urns).map .str))
  requirePolicy (ContextData.sameSet participantUrns consumers)
    ("participant mapping is not exhaustive (missing=" ++
      texts (consumers.filter fun urn => !participantUrns.contains urn) ++ ", extra=" ++
      texts (participantUrns.filter fun urn => !consumers.contains urn) ++ ")")
  let degrees := sortBy id (← context.consumers.mapM fun c => degreeOf py c.degree)
  requirePolicy (degrees = [1, 2, 3])
    ("bounded scenario requires complete hops 1, 2, and 3; got " ++
      py.reprContainer (.arr (degrees.map fun n => .int n)))
  requirePolicy (ContextData.sameSet context.assets.keys (context.sourceUrn :: consumers))
    "DataHub asset context must contain exactly source plus all consumers"

def checkTraces (traces : List Json) : Result Unit := do
  let tools := traces.filterMap fun item =>
    let tool := getD item "tool" .null
    if isObj item && truthy tool then some (py.str tool) else none
  let missingTools := sortedSet (requiredTools.filter fun tool => !tools.contains tool)
  requirePolicy (missingTools = [])
    ("official MCP evidence is missing required reads: " ++ ", ".intercalate missingTools)
  requirePolicy (4 ≤ toolCount traces "list_schema_fields")
    "official MCP schema evidence does not cover all assets"
  requirePolicy (3 ≤ toolCount traces "get_lineage_paths_between")
    "official MCP path evidence does not cover all consumers"

/-- The checks of the consumer that a participant is bound to. -/
def checkConsumer (intent : ChangeIntent) (context : ContextData) (participant : Participant)
    (consumer : ConsumerLineage) : Result Unit := do
  requirePolicy ((← degreeOf py consumer.degree) = expectedDegree participant.kind)
    s!"{participant.kind.value} is not bound to hop {expectedDegree participant.kind}"
  requirePolicy (consumer.columns.contains intent.oldField)
    s!"column-level lineage for {consumer.urn} omitted {intent.oldField}"
  requirePolicy (consumer.pathEvidence ≠ [])
    s!"lineage path evidence is missing for {consumer.urn}"
  match context.assets.get? consumer.urn with
  | none => policyViolation s!"DataHub entity context is missing for {consumer.urn}"
  | some asset => do
    requirePolicy (consumer.columns.all (asset.schema.map (·.fieldPath)).contains)
      s!"consumer schema is incomplete for {consumer.urn}"
    requirePolicy (asset.governance.ownerUrns ≠ [])
      s!"consumer owner is missing for {consumer.urn}"
    requirePolicy (participant.ownerUrns ≠ [])
      s!"participant owner mapping is missing for {consumer.urn}"
    requirePolicy (participant.ownerUrns.any asset.governance.ownerUrns.contains)
      s!"participant owner does not match DataHub governance for {consumer.urn}"

/-- One turn of the participant loop: its identifier, consumer and degree. -/
def bindParticipant (intent : ChangeIntent) (context : ContextData) (participant : Participant) :
    Result (String × ConsumerLineage × Nat) := do
  requirePolicy (participant.migrationId = intent.migrationId)
    "participant belongs to another migration"
  match (consumersByUrn context).get? participant.assetUrn with
  | none => raise .keyError participant.assetUrn
  | some consumer => do
    checkConsumer py intent context participant consumer
    return (participant.participantId, consumer, ← degreeOf py consumer.degree)

def validateDiscovery (policy : SafetyPolicy) (intent : ChangeIntent)
    (attestation : DiscoveryAttestation py) (participants : List Participant) :
    Result DiscoveryDecision := do
  let context := attestation.context.data
  policy.checkSource py intent attestation
  checkMapping py context participants
  checkTraces py context.toolTraces
  let bound ← participants.mapM (bindParticipant py intent context)
  return {
    sourceUrn := context.sourceUrn
    consumerByParticipant := bound.foldl (fun d b => d.set b.1 b.2.1) Dict.empty
    orderedParticipantIds :=
      (sortBy (fun b => toLex (b.2, b.1)) (bound.map fun b => (b.1, b.2.2))).map Prod.fst
    checks := ["full_datahub_oss_official_mcp", "discovery_complete",
      "expanded_schema_old_and_new", "column_lineage_hops_1_2_3",
      "all_consumers_mapped_exactly_once", "schema_owner_and_governance_signals",
      "lineage_path_evidence"] }

/-- What an accepted discovery is known to satisfy. -/
structure Accepted (intent : ChangeIntent) (context : ContextData)
    (participants : List Participant) : Prop where
  complete : context.discoveryComplete = true
  source : context.sourceUrn = intent.sourceAssetUrn
  oldField : context.sourceColumn = intent.oldField
  newField : context.replacementColumn = intent.newField
  count : participants.length = 3
  ids : (participants.map (·.participantId)).Nodup
  assets : (participants.map (·.assetUrn)).Nodup
  kinds : ∀ kind, ∃ p ∈ participants, p.kind = kind
  covers : ∀ urn, urn ∈ participants.map (·.assetUrn) ↔ urn ∈ context.consumers.map (·.urn)
  bound : ∀ p ∈ participants, p.migrationId = intent.migrationId ∧ ∃ a,
    context.assets.get? p.assetUrn = some a ∧ ∃ owner ∈ p.ownerUrns, owner ∈ a.governance.ownerUrns

theorem consumersByUrn_get? (context : ContextData) {urn : String} {c : ConsumerLineage}
    (h : (consumersByUrn context).get? urn = some c) : c ∈ context.consumers ∧ c.urn = urn := by
  rcases Dict.get?_collect ConsumerLineage.urn id h with ⟨c', hc', hurn, rfl⟩ | h
  · exact ⟨hc', hurn⟩
  · cases h

theorem sameSet_eq_true {xs ys : List String} (h : ContextData.sameSet xs ys = true) (urn : String) :
    urn ∈ xs ↔ urn ∈ ys := by
  simp only [ContextData.sameSet, Bool.and_eq_true, List.all_eq_true, List.contains_iff_mem] at h
  exact ⟨h.1 urn, h.2 urn⟩

variable {py}

theorem bindParticipant_eq_ok {intent : ChangeIntent} {context : ContextData} {p : Participant}
    {b : String × ConsumerLineage × Nat} (h : bindParticipant py intent context p = .ok b) :
    p.migrationId = intent.migrationId ∧ b.1 = p.participantId ∧ b.2.1 ∈ context.consumers ∧
      b.2.1.urn = p.assetUrn ∧ checkConsumer py intent context p b.2.1 = .ok () := by
  simp only [bindParticipant, requirePolicy, bind_eq_ok, require_eq_ok, decide_eq_true_eq] at h
  obtain ⟨_, hmid, h⟩ := h
  split at h
  · cases h
  · next consumer hget =>
    obtain ⟨hmem, hurn⟩ := consumersByUrn_get? context hget
    obtain ⟨_, hcheck, n, -, ⟨⟩⟩ := by simpa only [bind_eq_ok] using h
    exact ⟨hmid, rfl, hmem, hurn, hcheck⟩

theorem checkConsumer_owner {intent : ChangeIntent} {context : ContextData} {p : Participant}
    {c : ConsumerLineage} (h : checkConsumer py intent context p c = .ok ()) : ∃ a,
    context.assets.get? c.urn = some a ∧ ∃ owner ∈ p.ownerUrns, owner ∈ a.governance.ownerUrns := by
  simp only [checkConsumer, requirePolicy, bind_eq_ok] at h
  obtain ⟨_, -, _, -, _, -, _, -, h⟩ := h
  split at h
  · cases h
  · next a hget =>
    simp only [bind_eq_ok, require_eq_ok] at h
    obtain ⟨_, -, _, -, _, -, h⟩ := h
    obtain ⟨owner, hp, ha⟩ := List.any_eq_true.mp h
    exact ⟨a, hget, owner, hp, List.contains_iff_mem.mp ha⟩

theorem validateDiscovery_accepted {policy : SafetyPolicy} {intent : ChangeIntent}
    {attestation : DiscoveryAttestation py} {participants : List Participant}
    {decision : DiscoveryDecision}
    (h : policy.validateDiscovery py intent attestation participants = .ok decision) :
    Accepted intent attestation.context.data participants := by
  simp only [validateDiscovery, bind_eq_ok] at h
  obtain ⟨_, hsource, _, hmapping, _, -, bound, hbound, -⟩ := h
  simp only [checkSource, requirePolicy, bind_eq_ok, require_eq_ok, decide_eq_true_eq] at hsource
  obtain ⟨_, -, _, hcomplete, _, -, _, hurn, _, hold, _, hnew, -⟩ := hsource
  simp only [checkMapping, requirePolicy, bind_eq_ok, require_eq_ok, decide_eq_true_eq] at hmapping
  obtain ⟨_, -, _, hcount, _, hids, _, hassets, _, hkinds, _, hlen, _, hcovers, -⟩ := hmapping
  refine ⟨hcomplete, hurn, hold, hnew, hcount, hids, hassets, ?_, ?_, ?_⟩
  · intro kind
    have hkind : kind ∈ participants.map (·.kind) := by
      simp only [List.all_cons, List.all_nil, Bool.and_eq_true, List.contains_iff_mem] at hkinds
      cases kind
      · exact hkinds.1
      · exact hkinds.2.1
      · exact hkinds.2.2.1
    exact List.mem_map.mp hkind
  · intro urn
    rw [sameSet_eq_true hcovers urn]
    exact (Dict.mem_keys_collect ConsumerLineage.urn id).trans
      (or_iff_left (by simp [Dict.keys, Dict.empty]))
  · intro p hp
    obtain ⟨b, -, hb⟩ := exists_of_mapM_ok hbound hp
    obtain ⟨hmid, -, -, hurn, hcheck⟩ := bindParticipant_eq_ok hb
    exact ⟨hmid, hurn ▸ checkConsumer_owner hcheck⟩

end SafetyPolicy
end LineageTX
