import LineageTX.Models

/-! The immutable records. `create` and `fromDict` run the constructor checks
(`postInit`) in the order of the source, so a record they return is valid. -/
namespace LineageTX
open Library
variable (py : Python)

def takeChars (s : String) (n : Nat) : String := String.ofList (s.toList.take n)

/-- Immutable identity of one producer schema contract change. -/
structure ChangeIntent where
  migrationId : String
  producerRepository : String
  producerPrNumber : Int
  producerHeadSha : String
  sourceAssetUrn : String
  oldField : String
  newField : String
  createdAt : String
  producerBaseSha : String
  contractSchemaFingerprint : String
  producerPrUrl : String := ""
  rolloutPhase : RolloutPhase := .contract
  intentSha256 : String := ""
  deriving DecidableEq

def ChangeIntent.deriveIntentSha256 (i : ChangeIntent) : String :=
  py.sha256 (canonicalJson (.obj [
    ("contract_schema_fingerprint", .str i.contractSchemaFingerprint),
    ("new_field", .str i.newField),
    ("old_field", .str i.oldField),
    ("producer_base_sha", .str i.producerBaseSha),
    ("producer_head_sha", .str i.producerHeadSha),
    ("producer_pr_number", .int i.producerPrNumber),
    ("producer_repository", .str i.producerRepository),
    ("rollout_phase", .str i.rolloutPhase.value),
    ("source_asset_urn", .str i.sourceAssetUrn),
    ("version", .int 1)]))

def ChangeIntent.postInit (i : ChangeIntent) : Result ChangeIntent := do
  require (isIdentifier i.migrationId) .valueError
    "migration_id must be a non-empty portable identifier"
  require (!isBlank i.producerRepository) .valueError "producer_repository is required"
  require (1 ≤ i.producerPrNumber) .valueError "producer_pr_number must be positive"
  require (!isBlank i.producerHeadSha) .valueError "producer_head_sha is required"
  require (!isBlank i.producerBaseSha) .valueError "producer_base_sha is required"
  require (i.producerBaseSha != i.producerHeadSha) .valueError
    "producer_base_sha and producer_head_sha must differ"
  require (!isBlank i.contractSchemaFingerprint) .valueError
    "contract_schema_fingerprint is required"
  require (!isBlank i.sourceAssetUrn) .valueError "source_asset_urn is required"
  require (!isBlank i.oldField && !isBlank i.newField) .valueError
    "old_field and new_field are required"
  require (i.oldField != i.newField) .valueError "old_field and new_field must differ"
  require (!isBlank i.createdAt) .valueError "created_at is required"
  requireUtcTimestamp py i.createdAt "created_at"
  onlyIf (i.producerPrUrl ≠ "") (requireHttpsUrl py i.producerPrUrl "producer_pr_url")
  let identitySha := i.deriveIntentSha256 py
  require (i.intentSha256 == "" || i.intentSha256 == identitySha) .valueError
    "intent_sha256 does not match the change identity"
  require (i.migrationId == "ltx-" ++ takeChars identitySha 24) .valueError
    "migration_id does not match the stable change identity"
  return { i with intentSha256 := identitySha }

/-- An intent whose digest is the SHA-256 of its identity document. -/
def ChangeIntent.sample : ChangeIntent where
  migrationId := "ltx-d8896f797febfa39b78f9f01"
  producerRepository := "data/producer"
  producerPrNumber := 7
  producerHeadSha := "2222222222222222222222222222222222222222"
  sourceAssetUrn := "urn:li:dataset:orders"
  oldField := "cust_id"
  newField := "customer_id"
  createdAt := "2026-01-01T00:00:00Z"
  producerBaseSha := "1111111111111111111111111111111111111111"
  contractSchemaFingerprint := "schema-1"
  intentSha256 := "d8896f797febfa39b78f9f01f219b40e256c2a7976fcf457692bb30c3c9c30f3"

/-- The library for evaluations in which only the sample intent is digested. -/
def samplePython : Python := .sample fun _ => ChangeIntent.sample.intentSha256

def ChangeIntent.toDict (i : ChangeIntent) : Json := .obj [
  ("created_at", .str i.createdAt),
  ("migration_id", .str i.migrationId),
  ("intent_sha256", .str i.intentSha256),
  ("new_field", .str i.newField),
  ("old_field", .str i.oldField),
  ("producer_base_sha", .str i.producerBaseSha),
  ("producer_head_sha", .str i.producerHeadSha),
  ("producer_pr_number", .int i.producerPrNumber),
  ("producer_pr_url", .str i.producerPrUrl),
  ("producer_repository", .str i.producerRepository),
  ("rollout_phase", .str i.rolloutPhase.value),
  ("source_asset_urn", .str i.sourceAssetUrn),
  ("contract_schema_fingerprint", .str i.contractSchemaFingerprint)]

def ChangeIntent.fromDict (value : Json) : Result ChangeIntent := do
  let text (key : String) : Result String := do return py.str (← getItem value key)
  let i : ChangeIntent := {
    migrationId := ← text "migration_id"
    producerRepository := ← text "producer_repository"
    producerPrNumber := ← py.int (← getItem value "producer_pr_number")
    producerBaseSha := ← text "producer_base_sha"
    producerHeadSha := ← text "producer_head_sha"
    sourceAssetUrn := ← text "source_asset_urn"
    oldField := ← text "old_field"
    newField := ← text "new_field"
    contractSchemaFingerprint := ← text "contract_schema_fingerprint"
    createdAt := ← text "created_at"
    producerPrUrl := py.str (getD value "producer_pr_url" (.str ""))
    rolloutPhase := ← RolloutPhase.parse
      (py.str (getD value "rollout_phase" (.str RolloutPhase.contract.value)))
    intentSha256 := py.str (getD value "intent_sha256" (.str "")) }
  i.postInit py

/-- One downstream consumer taking part in a migration. -/
structure Participant where
  participantId : String
  migrationId : String
  kind : ParticipantKind
  assetUrn : String
  repository : String
  ownerUrns : List String
  files : List String
  status : ParticipantStatus := .discovered
  version : Int := 0
  baseSha : String := ""
  candidateCommitSha : String := ""
  evidenceLinks : List String := []
  createdAt : String
  updatedAt : String := ""
  deriving DecidableEq

def Participant.postInit (p : Participant) : Result Participant := do
  require (isIdentifier p.participantId) .valueError
    "participant_id must be a non-empty portable identifier"
  require (isIdentifier p.migrationId) .valueError
    "migration_id must be a non-empty portable identifier"
  require (!isBlank p.assetUrn && !isBlank p.repository) .valueError
    "asset_urn and repository are required"
  require (0 ≤ p.version) .valueError "version cannot be negative"
  require (p.candidateCommitSha == "" || isCommitSha p.candidateCommitSha) .valueError
    "candidate_commit_sha must be a 40- or 64-character hex SHA"
  return if p.updatedAt = "" then { p with updatedAt := p.createdAt } else p

def Participant.toDict (p : Participant) : Json := .obj [
  ("asset_urn", .str p.assetUrn),
  ("base_sha", .str p.baseSha),
  ("candidate_commit_sha", .str p.candidateCommitSha),
  ("created_at", .str p.createdAt),
  ("evidence_links", .arr (p.evidenceLinks.map .str)),
  ("files", .arr (p.files.map .str)),
  ("kind", .str p.kind.value),
  ("migration_id", .str p.migrationId),
  ("owner_urns", .arr (p.ownerUrns.map .str)),
  ("participant_id", .str p.participantId),
  ("repository", .str p.repository),
  ("status", .str p.status.value),
  ("updated_at", .str p.updatedAt),
  ("version", .int p.version)]

def Participant.fromDict (value : Json) : Result Participant := do
  let text (key : String) : Result String := do return py.str (← getItem value key)
  let texts (key : String) : Result (List String) := do
    return (← iterate (getD value key (.arr []))).map py.str
  let p : Participant := {
    participantId := ← text "participant_id"
    migrationId := ← text "migration_id"
    kind := ← ParticipantKind.parse (← text "kind")
    assetUrn := ← text "asset_urn"
    repository := ← text "repository"
    ownerUrns := ← texts "owner_urns"
    files := ← texts "files"
    status := ← ParticipantStatus.parse
      (py.str (getD value "status" (.str ParticipantStatus.discovered.value)))
    version := ← py.int (getD value "version" (.int 0))
    baseSha := py.str (getD value "base_sha" (.str ""))
    candidateCommitSha := py.str (getD value "candidate_commit_sha" (.str ""))
    evidenceLinks := ← texts "evidence_links"
    createdAt := ← text "created_at"
    updatedAt := py.str (getD value "updated_at" (.str "")) }
  p.postInit

theorem Participant.postInit_eq_ok {p p' : Participant} (h : p.postInit = .ok p') :
    p' = { p with updatedAt := if p.updatedAt = "" then p.createdAt else p.updatedAt } := by
  simp only [Participant.postInit, bind_eq_ok] at h
  obtain ⟨_, -, _, -, _, -, _, -, _, -, ⟨⟩⟩ := h
  split <;> simp_all

/-- Where the fields of a participant read from a document come from. -/
structure Participant.ReadFrom (value : Json) (p : Participant) : Prop where
  participantId : ∃ j, value.get? "participant_id" = some j ∧ p.participantId = py.str j
  migrationId : ∃ j, value.get? "migration_id" = some j ∧ p.migrationId = py.str j
  kind : ∃ j, value.get? "kind" = some j ∧ ParticipantKind.parse (py.str j) = .ok p.kind
  assetUrn : ∃ j, value.get? "asset_urn" = some j ∧ p.assetUrn = py.str j
  repository : ∃ j, value.get? "repository" = some j ∧ p.repository = py.str j
  ownerUrns : ∃ js, iterate (getD value "owner_urns" (.arr [])) = .ok js ∧
    p.ownerUrns = js.map py.str
  files : ∃ js, iterate (getD value "files" (.arr [])) = .ok js ∧ p.files = js.map py.str
  status : ParticipantStatus.parse
    (py.str (getD value "status" (.str ParticipantStatus.discovered.value))) = .ok p.status
  version : py.int (getD value "version" (.int 0)) = .ok p.version
  baseSha : p.baseSha = py.str (getD value "base_sha" (.str ""))
  candidateCommitSha : p.candidateCommitSha = py.str (getD value "candidate_commit_sha" (.str ""))

theorem Participant.readFrom {py : Python} {value : Json} {p : Participant}
    (h : Participant.fromDict py value = .ok p) : p.ReadFrom py value := by
  simp only [Participant.fromDict, bind_eq_ok, getItem_eq_ok] at h
  obtain ⟨_, ⟨j₁, h₁, ⟨⟩⟩, _, ⟨j₂, h₂, ⟨⟩⟩, _, ⟨j₃, h₃, ⟨⟩⟩, k, hk, _, ⟨j₄, h₄, ⟨⟩⟩, _,
    ⟨j₅, h₅, ⟨⟩⟩, _, ⟨j₆, h₆, ⟨⟩⟩, _, ⟨j₇, h₇, ⟨⟩⟩, st, hst, v, hv, _, ⟨j₈, h₈, ⟨⟩⟩, _,
    ⟨j₉, h₉, ⟨⟩⟩, h⟩ := h
  rw [Participant.postInit_eq_ok h]
  exact ⟨⟨j₁, h₁, rfl⟩, ⟨j₂, h₂, rfl⟩, ⟨j₃, h₃, hk⟩, ⟨j₄, h₄, rfl⟩, ⟨j₅, h₅, rfl⟩, ⟨j₆, h₆, rfl⟩,
    ⟨j₇, h₇, rfl⟩, hst, hv, rfl, rfl⟩

theorem ParticipantStatus.parse_value (st : ParticipantStatus) :
    ParticipantStatus.parse st.value = .ok st := by
  cases st <;> rfl

theorem ParticipantKind.parse_value (k : ParticipantKind) :
    ParticipantKind.parse k.value = .ok k := by
  cases k <;> rfl

/-- `Participant.create`, with the time of the call. -/
def Participant.create (now migrationId : String) (kind : ParticipantKind)
    (assetUrn repository : String) (ownerUrns files : List String) (baseSha : String)
    (createdAt : Option String) : Result Participant :=
  let digest := py.sha256 (canonicalJson (.obj [
    ("asset_urn", .str assetUrn),
    ("kind", .str kind.value),
    ("migration_id", .str migrationId),
    ("repository", .str repository)]))
  let timestamp := match createdAt with
    | some t => if t = "" then now else t
    | none => now
  Participant.postInit {
    participantId := "consumer-" ++ takeChars digest 20
    migrationId, kind, assetUrn, repository, ownerUrns, files, baseSha
    createdAt := timestamp
    updatedAt := timestamp }

end LineageTX
