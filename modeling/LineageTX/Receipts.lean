import LineageTX.Records

/-! Receipts of the three external facts the store records: an owner approval, a
coordination step and the cleanup of an abort. -/
namespace LineageTX
open Library
variable (py : Python)

/-- `verification` is empty for a receipt made by the caller and holds the eight
evidence fields of a receipt fetched from GitHub. -/
structure ApprovalReceipt where
  migrationId : String
  participantId : String
  ownerUrn : String
  approvedMapping : String
  approvedAt : String
  evidenceUrl : String := ""
  verification : List (String × Json) := []
  deriving DecidableEq

def verificationFields : List String := [
  "actor_id", "actor_login", "author_association", "evidence_sha256", "provider",
  "resource_id", "resource_kind", "source_api_url"]

/-- `[0-9a-f]{64}` -/
def isSha256Hex (s : String) : Bool :=
  s.length == 64 && s.toList.all fun c => c.isDigit || ('a' ≤ c && c ≤ 'f')

/-- The checks of a receipt that carries fetched evidence. -/
def checkVerification (verification : List (String × Json)) : Result Unit := do
  let keys := verification.map (·.1)
  require (keys.all verificationFields.contains && verificationFields.all keys.contains)
    .valueError "authenticated approval verification has an invalid shape"
  let v := Json.obj verification
  requireHttpsUrl py (py.str (← getItem v "source_api_url"))
    "approval verification source_api_url"
  require ((← getItem v "provider") == .str "github-rest-api-v3") .valueError
    "authenticated approval provider must be GitHub"
  require (isSha256Hex (py.str (← getItem v "evidence_sha256"))) .valueError
    "authenticated approval digest must be SHA-256"

def ApprovalReceipt.postInit (r : ApprovalReceipt) : Result ApprovalReceipt := do
  require (startsWith r.ownerUrn "urn:li:") .valueError "approval owner_urn must be a DataHub URN"
  require (!isBlank r.approvedMapping) .valueError "approved_mapping is required"
  require (!isBlank r.approvedAt) .valueError "approved_at is required"
  requireUtcTimestamp py r.approvedAt "approved_at"
  requireHttpsUrl py r.evidenceUrl "approval evidence_url"
  onlyIf (r.verification ≠ []) (checkVerification py r.verification)
  return r

def ApprovalReceipt.toDict (r : ApprovalReceipt) : Json := .obj [
  ("approved_at", .str r.approvedAt),
  ("approved_mapping", .str r.approvedMapping),
  ("evidence_url", .str r.evidenceUrl),
  ("migration_id", .str r.migrationId),
  ("owner_urn", .str r.ownerUrn),
  ("participant_id", .str r.participantId),
  ("verification", .obj r.verification)]

/-- External proof required before a migration is declared COMMITTED. -/
structure CoordinationReceipt where
  migrationId : String
  kind : CoordinationReceiptKind
  reference : String
  recordedAt : String
  commitSha : String := ""
  evidenceUrl : String := ""
  merged : Bool := false
  deriving DecidableEq

def CoordinationReceipt.postInit (r : CoordinationReceipt) : Result CoordinationReceipt := do
  require (!isBlank r.reference) .valueError "coordination receipt reference is required"
  requireUtcTimestamp py r.recordedAt "recorded_at"
  require (r.kind ≠ .candidateCommit || isCommitSha r.commitSha) .valueError
    "candidate commit receipt requires a 40- or 64-character hex SHA"
  onlyIf (r.kind = .coordinatedPr) (requireHttpsUrl py r.reference "coordinated PR reference")
  require (r.kind ≠ .producerGateReleased || startsWith r.reference "check-run:") .valueError
    "producer gate receipt must reference a check-run"
  onlyIf (r.evidenceUrl ≠ "") (requireHttpsUrl py r.evidenceUrl "coordination evidence_url")
  require (!r.merged) .valueError "LineageTX does not auto-merge coordinated changes"
  return r

def CoordinationReceipt.toDict (r : CoordinationReceipt) : Json := .obj [
  ("commit_sha", .str r.commitSha),
  ("evidence_url", .str r.evidenceUrl),
  ("kind", .str r.kind.value),
  ("merged", .bool false),
  ("migration_id", .str r.migrationId),
  ("recorded_at", .str r.recordedAt),
  ("reference", .str r.reference)]

def CoordinationReceiptKind.parse : String → Result CoordinationReceiptKind :=
  enumOf CoordinationReceiptKind.value [.candidateCommit, .coordinatedPr, .producerGateReleased]
    "CoordinationReceiptKind"

def CoordinationReceipt.fromDict (value : Json) : Result CoordinationReceipt := do
  let text (key : String) : Result String := do return py.str (← getItem value key)
  let r : CoordinationReceipt := {
    migrationId := ← text "migration_id"
    kind := ← CoordinationReceiptKind.parse (← text "kind")
    reference := ← text "reference"
    recordedAt := ← text "recorded_at"
    commitSha := py.str (getD value "commit_sha" (.str ""))
    evidenceUrl := py.str (getD value "evidence_url" (.str ""))
    merged := truthy (getD value "merged" (.bool false)) }
  r.postInit py

/-- Proof that unmerged candidate material was cleaned up. It can never claim
that deployed systems were rolled back. -/
structure AbortCleanupReceipt where
  migrationId : String
  worktreesRemoved : List String := []
  candidateBranchesDeleted : List String := []
  cleanupErrors : List String := []
  recordedAt : String
  deployedSystemsRolledBack : Bool := false
  deriving DecidableEq

/-- Components of a relative `PurePosixPath`, which drops empty ones and dots. -/
def pathParts (s : String) : List String :=
  ((s.toList.splitOn '/').map String.ofList).filter fun part => part ≠ "" && part ≠ "."

def isAbsolutePath (s : String) : Bool := startsWith s "/"

def AbortCleanupReceipt.postInit (r : AbortCleanupReceipt) : Result AbortCleanupReceipt := do
  requireUtcTimestamp py r.recordedAt "recorded_at"
  require (r.worktreesRemoved.all fun value =>
      !isAbsolutePath value && !(pathParts value).contains ".." && pathParts value ≠ [])
    .valueError "worktree cleanup receipts must use portable relative scopes"
  require (r.candidateBranchesDeleted.all (startsWith · "lineagetx/")) .valueError
    "cleanup receipts may only name LineageTX candidate branches"
  require (!r.deployedSystemsRolledBack) .valueError
    ("ABORT only cleans unmerged candidate changes; deployed rollback " ++ "cannot be claimed")
  return r

def AbortCleanupReceipt.toDict (r : AbortCleanupReceipt) : Json := .obj [
  ("candidate_branches_deleted", .arr (r.candidateBranchesDeleted.map .str)),
  ("cleanup_errors", .arr (r.cleanupErrors.map .str)),
  ("deployed_systems_rolled_back", .bool false),
  ("migration_id", .str r.migrationId),
  ("recorded_at", .str r.recordedAt),
  ("scope", .str "unmerged_candidate_changes_only"),
  ("worktrees_removed", .arr (r.worktreesRemoved.map .str))]

structure MigrationRecord where
  intent : ChangeIntent
  status : MigrationStatus
  version : Int
  createdAt : String
  updatedAt : String
  deriving DecidableEq

def MigrationRecord.migrationId (m : MigrationRecord) : String := m.intent.migrationId

end LineageTX
