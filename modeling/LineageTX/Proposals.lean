import LineageTX.NonInterference
import LineageTX.Policy

/-! The contract of a candidate generator: the snapshot it is given, the typed proposal
it returns, and the binding of that proposal to the discovered participant. -/
namespace LineageTX
open Library
variable (py : Python)

/-- Read-only source material provided to a candidate generator. -/
structure FileSnapshot where
  relativePath : String
  sha256 : String
  content : String

def FileSnapshot.postInit (f : FileSnapshot) : Result FileSnapshot := do
  let relativePath ← safeRelativePath py .proposalError "candidate" f.relativePath
  require (f.sha256 = py.sha256 f.content) .valueError
    "file snapshot sha256 does not match its content"
  return { f with relativePath }

/-- The complete and deliberately non-executable candidate input contract. -/
structure ProposalRequest where
  intent : ChangeIntent
  participant : Participant
  files : List FileSnapshot
  expandedColumns : List String
  contractColumns : List String

def ProposalRequest.postInit (r : ProposalRequest) : Result ProposalRequest := do
  require (r.participant.migrationId = r.intent.migrationId) .valueError
    "proposal participant belongs to another migration"
  let paths := r.files.map (·.relativePath)
  let expected ← r.participant.files.mapM (safeRelativePath py .proposalError "candidate")
  require paths.Nodup .valueError "proposal request cannot contain duplicate files"
  require (ContextData.sameSet paths expected) .valueError
    "proposal request must snapshot every allow-listed file"
  require ([r.intent.oldField, r.intent.newField].all r.expandedColumns.contains) .valueError
    "expanded schema must contain old and replacement fields"
  require (!r.contractColumns.contains r.intent.oldField &&
      r.contractColumns.contains r.intent.newField) .valueError
    "contract schema must remove old and retain replacement field"
  return r

/-- Typed candidate output; rationale is evidence, never executable input. -/
structure CandidateEnvelope where
  modelId : String
  proposal : CandidateProposal
  rationale : List String := []

def CandidateProposal.binding : CandidateProposal → ProposalBinding
  | .dbtSql p => p.binding
  | .airflowMapping p => p.binding
  | .semanticMapping p => p.binding

/-- The name of the class of proposals of a kind. -/
def proposalTypeName : ParticipantKind → String
  | .dbtSql => "DbtSqlProposal"
  | .airflowMapping => "AirflowMappingProposal"
  | .semanticApproval => "SemanticMappingProposal"

/-- `parse_one` -/
def parseOne (sql : SqlLibrary) (text dialect : String) : Result SqlStatement := do
  match ← sql.parse text dialect with
  | some statement :: _ => return statement
  | _ => raise (.other "ParseError") "No expression was parsed"

/-- The relation names of a stored dbt source, each once. -/
def sourceRelations (sql : SqlLibrary) (content failure : String) : Result (List String) :=
  match parseOne sql content "duckdb" with
  | .ok tree => .ok ((tree.tables.map (·.name)).filter (· ≠ "")).dedup
  | .error e =>
    if e.cls = .other "ParseError" then raise .proposalError (failure ++ e.msg) else .error e

def firstFile (request : ProposalRequest) : Result FileSnapshot :=
  match request.files with
  | f :: _ => .ok f
  | [] => raise (.other "IndexError") "tuple index out of range"

def requireProposal (check : Bool) (msg : String) : Result Unit :=
  require check .proposalError msg

/-- The digests that a proposal expects, after the checks of its own type. -/
def expectedHashes (sql : SqlLibrary) (request : ProposalRequest) :
    CandidateProposal → Result (List (String × String))
  | .dbtSql p => do
    requireProposal (p.dialect = "duckdb") "dbt dialect is fixed by the trusted adapter registry"
    let relations ← sourceRelations sql (← firstFile request).content
      "stored dbt source is not parseable: "
    requireProposal (ContextData.sameSet relations [p.relation])
      "dbt relation must be derived from the stored SQL source"
    return [(p.relativePath, p.expectedSha256)]
  | .airflowMapping p => do
    requireProposal (p.assignmentName = "FIELD_MAPPING")
      "Airflow assignment is fixed by the trusted registry"
    requireProposal (p.configKey = "field_mapping")
      "Airflow config key is fixed by the trusted registry"
    return [(p.pythonRelativePath, p.expectedPythonSha256),
      (p.jsonRelativePath, p.expectedJsonSha256)]
  | .semanticMapping p => do
    requireProposal (request.participant.ownerUrns.length = 1)
      "semantic participant must have exactly one trusted owner"
    requireProposal (request.participant.ownerUrns.head? = some p.requiredOwnerUrn)
      "semantic required owner must come from stored governance"
    return [(p.relativePath, p.expectedSha256)]

/-- Two lists of pairs make the same `dict`. -/
def sameDict (xs ys : List (String × String)) : Bool :=
  let d := dictOf xs
  let d' := dictOf ys
  ContextData.sameSet d.keys d'.keys && d.keys.all fun key => d.get? key = d'.get? key

/-- Bind an untrusted typed proposal exactly to the discovered participant. -/
def assertStructuredCandidate (sql : SqlLibrary) (request : ProposalRequest)
    (envelope : CandidateEnvelope) : Result CandidateProposal := do
  let b := envelope.proposal.binding
  let participant := request.participant
  requireProposal (b.kind = participant.kind)
    s!"participant {participant.participantId} requires {proposalTypeName participant.kind}"
  requireProposal (b.migrationId = request.intent.migrationId)
    "candidate migration_id does not match the change intent"
  requireProposal (b.participantId = participant.participantId)
    "candidate participant_id does not match discovery"
  requireProposal (b.oldField = request.intent.oldField)
    "candidate old_field does not match the change intent"
  requireProposal (b.newField = request.intent.newField)
    "candidate new_field does not match the change intent"
  requireProposal (b.repository = participant.repository)
    "candidate repository does not match stored discovery"
  requireProposal (b.ownerUrns = participant.ownerUrns)
    "candidate owners do not match stored DataHub governance"
  requireProposal (b.expandedColumns = request.expandedColumns)
    "candidate changed the expanded schema contract"
  requireProposal (b.contractColumns = request.contractColumns)
    "candidate changed the contract schema contract"
  let allowedPaths ← b.paths.mapM (safeRelativePath py .proposalError "candidate")
  requireProposal (ContextData.sameSet allowedPaths participant.files)
    "candidate paths must equal the participant allowlist"
  let hashes ← expectedHashes sql request envelope.proposal
  requireProposal (sameDict hashes (request.files.map fun f => (f.relativePath, f.sha256)))
    "candidate hashes do not match the isolated file snapshots"
  return envelope.proposal

/-- `except ... as error: raise PolicyViolation(str(error))` -/
def asPolicyViolation {α : Type} (classes : List ExnClass) : Result α → Result α
  | .ok a => .ok a
  | .error e => if classes.contains e.cls then policyViolation e.msg else .error e

theorem asPolicyViolation_eq_ok {α : Type} {classes : List ExnClass} {r : Result α} {a : α}
    (h : asPolicyViolation classes r = .ok a) : r = .ok a := by
  cases r with
  | ok b => exact h
  | error e =>
    simp only [asPolicyViolation] at h
    split at h <;> cases h

/-- `LineageTXSafetyPolicy.validate_candidate` -/
def SafetyPolicy.validateCandidate (sql : SqlLibrary) (request : ProposalRequest)
    (envelope : CandidateEnvelope) : Result CandidateProposal :=
  asPolicyViolation [.proposalError, .valueError, .typeError]
    (assertStructuredCandidate py sql request envelope)

/-- `LineageTXSafetyPolicy.validate_owner_approval` -/
def SafetyPolicy.validateOwnerApproval (intent : ChangeIntent) (participant : Participant)
    (approval : OwnerApproval) : Result Unit := do
  requirePolicy (participant.kind = .semanticApproval)
    "owner approval is only valid for semantic consumers"
  requirePolicy (approval.migrationId = intent.migrationId &&
      approval.participantId = participant.participantId &&
      approval.oldField = intent.oldField && approval.newField = intent.newField)
    "approval must bind the exact migration, consumer, and field mapping"
  requirePolicy (participant.ownerUrns.contains approval.ownerUrn)
    "approval signer is not a discovered DataHub owner"
  requirePolicy (approval.decision = "APPROVED") "semantic owner did not approve the mapping"
  asPolicyViolation [.valueError] (requireHttpsUrl py approval.evidenceUrl "approval evidence")
  requirePolicy (approval.approvedAt ≠ "") "approval timestamp is required"

/-- A policy whose data passed the checks of its constructor. -/
def TrustedParticipantPolicy.create (given : PolicyData) : Result (TrustedParticipantPolicy py) :=
  match h : given.postInit py with
  | .ok d => .ok ⟨d, given, h⟩
  | .error e => .error e

/-- `TrustedParticipantPolicy.from_records`; `adapter` sets the options of the kind. -/
def TrustedParticipantPolicy.fromRecords (intent : ChangeIntent) (participant : Participant)
    (expandedColumns contractColumns : List String) (adapter : PolicyData → PolicyData) :
    Result (TrustedParticipantPolicy py) := do
  require (participant.migrationId = intent.migrationId) .valueError
    "participant belongs to a different ChangeIntent"
  TrustedParticipantPolicy.create py (adapter {
    migrationId := intent.migrationId, participantId := participant.participantId
    kind := participant.kind, repository := participant.repository
    allowedPaths := participant.files, oldField := intent.oldField, newField := intent.newField
    expandedColumns, contractColumns, ownerUrns := participant.ownerUrns
    assetUrn := participant.assetUrn, sourceAssetUrn := intent.sourceAssetUrn
    intentSha256 := intent.intentSha256 })

/-- The options that `_trusted_policy` derives from the stored source. -/
def adapterOptions (sql : SqlLibrary) (request : ProposalRequest) :
    Result (PolicyData → PolicyData) :=
  match request.participant.kind with
  | .dbtSql => do
    let relations ← sourceRelations sql (← firstFile request).content
      "trusted dbt SQL is not parseable: "
    match relations with
    | [relation] =>
      return fun d => { d with relation := some relation, dialect := some "duckdb" }
    | _ => raise .proposalError "trusted dbt adapter requires exactly one relation"
  | .airflowMapping =>
    .ok fun d =>
      { d with assignmentName := some "FIELD_MAPPING", configKey := some "field_mapping" }
  | .semanticApproval => .ok id

/-- `_trusted_policy` -/
def trustedPolicy (sql : SqlLibrary) (request : ProposalRequest) :
    Result (TrustedParticipantPolicy py) := do
  TrustedParticipantPolicy.fromRecords py request.intent request.participant
    request.expandedColumns request.contractColumns (← adapterOptions sql request)

def pairsJson (pairs : List (String × String)) : Json :=
  .arr (pairs.map fun e => .arr [.str e.1, .str e.2])

/-- The fields of a proposal that all three classes have. -/
def ProposalBinding.toDict (b : ProposalBinding) : List (String × Json) := [
  ("contract_columns", texts b.contractColumns),
  ("expanded_columns", texts b.expandedColumns),
  ("migration_id", .str b.migrationId),
  ("new_field", .str b.newField),
  ("old_field", .str b.oldField),
  ("owner_urns", texts b.ownerUrns),
  ("participant_id", .str b.participantId),
  ("repository", .str b.repository)]

def CandidateProposal.toDict (proposal : CandidateProposal) : Json :=
  .obj (proposal.binding.toDict ++ match proposal with
    | .dbtSql p => [
      ("dialect", .str p.dialect),
      ("expected_occurrences", .int p.expectedOccurrences),
      ("expected_sha256", .str p.expectedSha256),
      ("relation", .str p.relation),
      ("relative_path", .str p.relativePath)]
    | .airflowMapping p => [
      ("assignment_name", .str p.assignmentName),
      ("config_key", .str p.configKey),
      ("expected_json_sha256", .str p.expectedJsonSha256),
      ("expected_mapping", pairsJson p.expectedMapping),
      ("expected_python_sha256", .str p.expectedPythonSha256),
      ("json_relative_path", .str p.jsonRelativePath),
      ("proposed_mapping", pairsJson p.proposedMapping),
      ("python_relative_path", .str p.pythonRelativePath)]
    | .semanticMapping p => [
      ("expected_occurrences", .int p.expectedOccurrences),
      ("expected_sha256", .str p.expectedSha256),
      ("relative_path", .str p.relativePath),
      ("required_owner_urn", .str p.requiredOwnerUrn)])

def CandidateEnvelope.toDict (e : CandidateEnvelope) : Json := .obj [
  ("model_id", .str e.modelId),
  ("proposal_type", .str (proposalTypeName e.proposal.binding.kind)),
  ("proposal", e.proposal.toDict),
  ("rationale", texts e.rationale)]

def proposalFingerprint (envelope : CandidateEnvelope) : String :=
  py.sha256 (stableJson envelope.toDict)

variable {py}

/-- A validated proposal is of the class that its participant requires. -/
theorem SafetyPolicy.validateCandidate_eq_ok {sql : SqlLibrary} {request : ProposalRequest}
    {envelope : CandidateEnvelope} {proposal : CandidateProposal}
    (h : SafetyPolicy.validateCandidate py sql request envelope = .ok proposal) :
    proposal = envelope.proposal ∧ proposal.binding.kind = request.participant.kind := by
  have hp := asPolicyViolation_eq_ok h
  simp only [assertStructuredCandidate, requireProposal, bind_eq_ok, require_eq_ok,
    decide_eq_true_eq] at hp
  obtain ⟨_, hkind, _, -, _, -, _, -, _, -, _, -, _, -, _, -, _, -, _, -, _, -, _, -, _, -, ⟨⟩⟩ := hp
  exact ⟨rfl, hkind⟩

theorem SafetyPolicy.validateOwnerApproval_eq_ok {intent : ChangeIntent} {participant : Participant}
    {approval : OwnerApproval}
    (h : SafetyPolicy.validateOwnerApproval py intent participant approval = .ok ()) :
    participant.kind = .semanticApproval ∧ approval.migrationId = intent.migrationId ∧
      approval.participantId = participant.participantId ∧
      approval.oldField = intent.oldField ∧ approval.newField = intent.newField ∧
      approval.ownerUrn ∈ participant.ownerUrns := by
  simp only [validateOwnerApproval, requirePolicy, bind_eq_ok, require_eq_ok, Bool.and_eq_true,
    decide_eq_true_eq, List.contains_iff_mem] at h
  obtain ⟨_, hkind, _, ⟨⟨⟨hmid, hpid⟩, hold⟩, hnew⟩, _, howner, -⟩ := h
  exact ⟨hkind, hmid, hpid, hold, hnew, howner⟩

end LineageTX
