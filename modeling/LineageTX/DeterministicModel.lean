import LineageTX.Proposals

/-! The offline reference proposer. Its output is treated as untrusted; the loop that renames
an Airflow mapping is a second version of the adapter's, and the two agree. -/
namespace LineageTX
open Library
variable (py : Python)

def CandidateEnvelope.postInit (e : CandidateEnvelope) : Result CandidateEnvelope := do
  require (!isBlank e.modelId) .valueError "model_id is required"
  return e

/-- A document that maps texts to texts. -/
def stringMapping : Json → Option (Dict String)
  | .obj m =>
    if m.all fun e => (asStr? e.2).isSome then
      some (dictOf (m.filterMap fun e => (asStr? e.2).map (Prod.mk e.1)))
    else none
  | _ => none

namespace DeterministicCandidateModel

def modelId : String := "lineagetx-deterministic-reference-v1"

/-- The only file of a request, which must be of the given kind. -/
def onlyFile (request : ProposalRequest) (suffix failure : String) : Result FileSnapshot :=
  match request.files with
  | [snapshot] => do
    requireProposal (endsWith snapshot.relativePath suffix) failure
    return snapshot
  | _ => raise .proposalError failure

/-- `_dbt` -/
def dbt (sql : SqlLibrary) (request : ProposalRequest) : Result DbtSqlProposal := do
  let snapshot ← onlyFile request ".sql" "dbt candidate requires exactly one SQL file"
  let failure := "cannot propose a patch for invalid SQL: "
  let relations ← sourceRelations sql snapshot.content failure
  let tree ← parseOne sql snapshot.content "duckdb"
  let occurrences := tree.columns.count request.intent.oldField
  requireProposal (1 ≤ occurrences && relations.length = 1)
    "dbt reference candidate requires the old column and one input relation"
  return {
    migrationId := request.intent.migrationId
    participantId := request.participant.participantId
    relativePath := snapshot.relativePath
    expectedSha256 := snapshot.sha256
    oldField := request.intent.oldField
    newField := request.intent.newField
    expectedOccurrences := occurrences
    relation := relations.headD ""
    expandedColumns := request.expandedColumns
    contractColumns := request.contractColumns
    repository := request.participant.repository
    ownerUrns := request.participant.ownerUrns }

/-- One turn of the loop of `_airflow`. -/
def addProposed (oldField newField : String) (proposed : Dict String) (e : String × String) :
    Result (Dict String) := do
  let nextKey := if e.1 = oldField then newField else e.1
  let nextValue := if e.2 = oldField then newField else e.2
  requireProposal (!proposed.keys.contains nextKey)
    "field rename would collide with an existing mapping"
  return proposed.set nextKey nextValue

/-- The loop of `_airflow`, and the check before it. -/
def proposeMapping (oldField newField : String) (mapping : Dict String) : Result (Dict String) := do
  requireProposal (mapping.val.any fun e => [e.1, e.2].contains oldField)
    "Airflow mapping does not reference the old field"
  mapping.val.foldlM (addProposed oldField newField) Dict.empty

/-- `_airflow` -/
def airflow (request : ProposalRequest) : Result AirflowMappingProposal := do
  requireProposal (request.files.length = 2) "Airflow candidate requires exactly two files"
  let pythonFiles := request.files.filter fun f => endsWith f.relativePath ".py"
  let jsonFiles := request.files.filter fun f => endsWith f.relativePath ".json"
  match pythonFiles, jsonFiles with
  | [pythonSnapshot], [jsonSnapshot] => do
    let document ← py.jsonLoads .proposalError "cannot propose from invalid mapping JSON: "
      jsonSnapshot.content
    match (document.get? "field_mapping").bind stringMapping with
    | none => raise .proposalError "field_mapping must be a string-to-string object"
    | some mapping => do
      let proposed ← proposeMapping request.intent.oldField request.intent.newField mapping
      return {
        migrationId := request.intent.migrationId
        participantId := request.participant.participantId
        pythonRelativePath := pythonSnapshot.relativePath
        jsonRelativePath := jsonSnapshot.relativePath
        expectedPythonSha256 := pythonSnapshot.sha256
        expectedJsonSha256 := jsonSnapshot.sha256
        oldField := request.intent.oldField
        newField := request.intent.newField
        expectedMapping := mapping.val
        proposedMapping := proposed.val
        expandedColumns := request.expandedColumns
        contractColumns := request.contractColumns
        repository := request.participant.repository
        ownerUrns := request.participant.ownerUrns }
  | _, _ => raise .proposalError "Airflow candidate requires one Python and one JSON file"

/-- `_semantic`; `_count_exact` counts as the adapter does. -/
def semantic (request : ProposalRequest) : Result SemanticMappingProposal := do
  let snapshot ← onlyFile request ".json" "semantic candidate requires exactly one JSON file"
  match request.participant.ownerUrns with
  | [owner] => do
    let document ← py.jsonLoads .proposalError "cannot propose from invalid semantic JSON: "
      snapshot.content
    let occurrences := countString request.intent.oldField document
    requireProposal (1 ≤ occurrences) "semantic document does not reference the old field"
    return {
      migrationId := request.intent.migrationId
      participantId := request.participant.participantId
      relativePath := snapshot.relativePath
      expectedSha256 := snapshot.sha256
      oldField := request.intent.oldField
      newField := request.intent.newField
      expectedOccurrences := occurrences
      requiredOwnerUrn := owner
      expandedColumns := request.expandedColumns
      contractColumns := request.contractColumns
      repository := request.participant.repository
      ownerUrns := request.participant.ownerUrns }
  | _ => raise .proposalError "semantic candidate requires exactly one accountable owner"

def proposal (sql : SqlLibrary) (request : ProposalRequest) : Result CandidateProposal :=
  match request.participant.kind with
  | .dbtSql => (dbt sql request).map .dbtSql
  | .airflowMapping => (airflow py request).map .airflowMapping
  | .semanticApproval => (semantic py request).map .semanticMapping

def propose (sql : SqlLibrary) (request : ProposalRequest) : Result CandidateEnvelope := do
  let proposal ← proposal py sql request
  CandidateEnvelope.postInit { modelId, proposal, rationale := ["candidate_only",
    "deterministic_policy_and_tests_must_authorize_application"] }

section Rename
variable {oldField newField : String} {mapping after : Dict String}

/-- A pair of a mapping after the rename. -/
def replacePair (oldField newField : String) (e : String × String) : String × String :=
  (if e.1 = oldField then newField else e.1, if e.2 = oldField then newField else e.2)

/-- The loop of the proposer ends in the renamed pairs, in their places. -/
theorem proposeMapping_eq_ok : proposeMapping oldField newField mapping = .ok after ↔
    (∃ e ∈ mapping.val, e.1 = oldField ∨ e.2 = oldField) ∧
      after.val = mapping.val.map (replacePair oldField newField) := by
  have hloop : mapping.val.foldlM (addProposed oldField newField) Dict.empty = .ok after ↔
      after.val = mapping.val.map (replacePair oldField newField) := by
    refine Dict.foldlM_set_eq_ok _ _ fun d e after => ?_
    simp [addProposed, requireProposal, bind_eq_ok, replacePair, pure, Except.pure]
  have hused : ∀ e : String × String, [e.1, e.2].contains oldField =
      decide (e.1 = oldField ∨ e.2 = oldField) := by
    intro e
    simp only [List.contains_eq_mem, List.mem_cons, List.not_mem_nil, or_false, eq_comm]
  simp only [proposeMapping, requireProposal, bind_eq_ok, require_eq_ok, hloop, hused]
  simp

end Rename
end DeterministicCandidateModel

namespace AirflowMappingParticipant
variable {policy : PolicyData} {mapping after : Dict String}

/-- The loop of the adapter ends in the same pairs. -/
theorem renameMapping_eq_ok_iff : renameMapping policy mapping = .ok after ↔
    (∃ e ∈ mapping.val, e.1 = policy.oldField ∨ e.2 = policy.oldField) ∧ after.val =
      mapping.val.map (DeterministicCandidateModel.replacePair policy.oldField policy.newField) := by
  have hloop : mapping.val.foldlM (addRenamed policy) Dict.empty = .ok after ↔ after.val =
      mapping.val.map (DeterministicCandidateModel.replacePair policy.oldField policy.newField) := by
    refine Dict.foldlM_set_eq_ok _ _ fun d e after => ?_
    simp [addRenamed, requireCandidate, bind_eq_ok, DeterministicCandidateModel.replacePair, renamed,
      pure, Except.pure]
  simp only [renameMapping, requireCandidate, bind_eq_ok, require_eq_ok, hloop]
  simp

end AirflowMappingParticipant

section Agreement
open DeterministicCandidateModel AirflowMappingParticipant
variable {oldField newField : String} {pairs : List (String × String)}

theorem keys_replacePair : (pairs.map (replacePair oldField newField)).map Prod.fst =
    (pairs.map Prod.fst).map fun key => if key = oldField then newField else key := by
  simp [Function.comp_def, replacePair]

theorem replacePair_free (hne : oldField ≠ newField) (e : String × String) :
    (replacePair oldField newField e).1 ≠ oldField ∧
      (replacePair oldField newField e).2 ≠ oldField := by
  constructor
  · dsimp only [replacePair]
    split
    · exact hne.symm
    · assumption
  · dsimp only [replacePair]
    split
    · exact hne.symm
    · assumption

theorem replacePair_of_free {e : String × String} (hkey : e.1 ≠ oldField) (hvalue : e.2 ≠ oldField) :
    replacePair oldField newField e = e := by
  simp [replacePair, hkey, hvalue]

/-- Proposer and adapter accept the same mappings, those that hold the old field and not both
fields as keys, and produce the same pairs in the same order. -/
theorem mapping_renames_agree (policy : PolicyData) (mapping : Dict String)
    (hne : policy.oldField ≠ policy.newField) :
    (∀ after : Dict String,
      proposeMapping policy.oldField policy.newField mapping = .ok after ↔
        renameMapping policy mapping = .ok after) ∧
    ((∃ after : Dict String, renameMapping policy mapping = .ok after) ↔
      (∃ e ∈ mapping.val, e.1 = policy.oldField ∨ e.2 = policy.oldField) ∧
        ¬ (policy.oldField ∈ mapping.keys ∧ policy.newField ∈ mapping.keys)) ∧
    ∀ after : Dict String, renameMapping policy mapping = .ok after →
      after.val.length = mapping.val.length ∧
      (∀ e ∈ after.val, e.1 ≠ policy.oldField ∧ e.2 ≠ policy.oldField) ∧
      ∀ (n : Nat) (e : String × String), mapping.val[n]? = some e →
        e.1 ≠ policy.oldField → e.2 ≠ policy.oldField → after.val[n]? = some e := by
  refine ⟨fun after => ?_, ⟨?_, ?_⟩, fun after hafter => ?_⟩
  · rw [proposeMapping_eq_ok, renameMapping_eq_ok_iff]
  · rintro ⟨after, hafter⟩
    obtain ⟨hused, hpairs⟩ := renameMapping_eq_ok_iff.mp hafter
    have hnodup := after.property
    rw [hpairs, keys_replacePair] at hnodup
    exact ⟨hused, (Dict.nodup_replace hne mapping.property).mp hnodup⟩
  · rintro ⟨hused, hboth⟩
    have hnodup := (Dict.nodup_replace hne mapping.property).mpr hboth
    rw [← keys_replacePair] at hnodup
    exact ⟨⟨_, hnodup⟩, renameMapping_eq_ok_iff.mpr ⟨hused, rfl⟩⟩
  · rw [(renameMapping_eq_ok_iff.mp hafter).2]
    refine ⟨List.length_map _, ?_, fun n e hget hkey hvalue => ?_⟩
    · intro e he
      obtain ⟨e', -, rfl⟩ := List.mem_map.mp he
      exact replacePair_free hne e'
    · rw [List.getElem?_map, hget, Option.map_some, replacePair_of_free hkey hvalue]

/-- A mapping with the old field as a key and as a value. -/
theorem sampleMapping_renames_agree :
    (proposeMapping "cust_id" "customer_id"
      (dictOf [("order", "total"), ("cust_id", "cust_id")]) =
        .ok (dictOf [("order", "total"), ("customer_id", "customer_id")])) ∧
    renameMapping sampleAirflowPolicy
      (dictOf [("order", "total"), ("cust_id", "cust_id")]) =
        .ok (dictOf [("order", "total"), ("customer_id", "customer_id")]) := by
  have hpropose : proposeMapping "cust_id" "customer_id"
      (dictOf [("order", "total"), ("cust_id", "cust_id")]) =
        .ok (dictOf [("order", "total"), ("customer_id", "customer_id")]) := by decide +kernel
  exact ⟨hpropose, ((mapping_renames_agree sampleAirflowPolicy _ (by decide)).1 _).mp hpropose⟩

end Agreement
end LineageTX
