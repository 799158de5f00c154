import LineageTX.Receipts

/-! The SQLite state store. A table is the list of its rows in insertion order, a
JSON column holds the document its text stands for, and every public mutation is
one transaction: a result with the new store, or an exception and no change. -/
namespace LineageTX
open Library
variable (py : Python)

def gateArmedEvent : String := "PRODUCER_GATE_RELEASE_ARMED"
def abortReservedEvent : String := "ABORT_CLEANUP_RESERVED"

structure MigrationRow where
  migrationId : String
  intentJson : Json
  status : MigrationStatus
  version : Int
  createdAt : String
  updatedAt : String
  deriving DecidableEq

structure ParticipantRow where
  participantId : String
  migrationId : String
  participantJson : Json
  status : ParticipantStatus
  version : Int
  createdAt : String
  updatedAt : String
  deriving DecidableEq

structure ApprovalRow where
  migrationId : String
  participantId : String
  ownerUrn : String
  receiptJson : Json
  approvedAt : String
  deriving DecidableEq

/-- The status columns of an event speak about its participant if it names one. -/
inductive EventStatus where
  | migration (status : MigrationStatus)
  | participant (status : ParticipantStatus)
  deriving DecidableEq

structure EventRow where
  migrationId : String
  sequence : Nat
  participantId : Option String
  eventType : String
  fromStatus : Option EventStatus
  toStatus : EventStatus
  version : Int
  payloadJson : Json
  createdAt : String
  deriving DecidableEq

structure Store where
  migrations : List MigrationRow := []
  participants : List ParticipantRow := []
  approvals : List ApprovalRow := []
  events : List EventRow := []
  deriving DecidableEq

namespace Store

def migrationRow? (s : Store) (migrationId : String) : Option MigrationRow :=
  s.migrations.find? fun r => r.migrationId == migrationId

def selectMigration (s : Store) (migrationId : String) : Result MigrationRow :=
  match s.migrationRow? migrationId with
  | some row => .ok row
  | none => raise .migrationNotFound migrationId

def selectParticipant (s : Store) (participantId : String) : Result ParticipantRow :=
  match s.participants.find? fun r => r.participantId == participantId with
  | some row => .ok row
  | none => raise .participantNotFound participantId

/-- `... WHERE migration_id = ? ORDER BY participant_id` -/
def participantRows (s : Store) (migrationId : String) : List ParticipantRow :=
  sortBy ParticipantRow.participantId (s.participants.filter fun r => r.migrationId == migrationId)

def hasMigrationEvent (s : Store) (migrationId eventType : String) : Bool :=
  s.events.any fun e => e.migrationId == migrationId && e.eventType == eventType

def nextSequence (s : Store) (migrationId : String) : Nat :=
  ((s.events.filter fun e => e.migrationId == migrationId).map EventRow.sequence).foldl max 0 + 1

def appendEvent (s : Store) (migrationId participantId eventType : String)
    (fromStatus : Option EventStatus) (toStatus : EventStatus) (version : Int)
    (payload : List (String × Json)) (createdAt : String) : Store :=
  { s with events := s.events ++ [{
      migrationId, eventType, fromStatus, toStatus, version, createdAt
      sequence := s.nextSequence migrationId
      participantId := if participantId = "" then none else some participantId
      payloadJson := .obj payload }] }

/-- The optimistic lock on a migration row. -/
def requireMigration (migrationId : String) (row : MigrationRow) (expected : MigrationStatus)
    (expectedVersion : Int) : Result Unit :=
  require (row.status = expected && row.version = expectedVersion) .stateConflict
    s!"migration {migrationId} is {row.status.value}@{row.version}, not {expected.value}@{expectedVersion}"

/-- The row that a guarded update names. -/
def hitsMigration (migrationId : String) (status : MigrationStatus) (version : Int)
    (r : MigrationRow) : Bool :=
  r.migrationId = migrationId && r.status = status && r.version = version

def hitsParticipant (participantId : String) (status : ParticipantStatus) (version : Int)
    (r : ParticipantRow) : Bool :=
  r.participantId = participantId && r.status = status && r.version = version

/-- The guarded update of a migration row, which must hit exactly one row. -/
def updateMigration (s : Store) (migrationId : String) (current target : MigrationStatus)
    (version : Int) (updatedAt : String) : Result Store := do
  require (s.migrations.countP (hitsMigration migrationId current version) == 1) .stateConflict
    s!"migration {migrationId} changed concurrently"
  return { s with migrations := s.migrations.map fun r =>
    bif hitsMigration migrationId current version r then
      { r with status := target, version := version + 1, updatedAt }
    else r }

/-- The guarded update of a participant row. -/
def updateParticipant (s : Store) (participantId : String) (current target : ParticipantStatus)
    (version : Int) (value : Json) (updatedAt : String) : Result Store := do
  require (s.participants.countP (hitsParticipant participantId current version) == 1)
    .stateConflict s!"participant {participantId} changed concurrently"
  return { s with participants := s.participants.map fun r =>
    bif hitsParticipant participantId current version r then
      { r with participantJson := value, status := target, version := version + 1, updatedAt }
    else r }

def migrationFromRow (row : MigrationRow) : Result MigrationRecord := do
  return { intent := ← ChangeIntent.fromDict py row.intentJson, status := row.status
           version := row.version, createdAt := row.createdAt, updatedAt := row.updatedAt }

def participantFromRow (row : ParticipantRow) : Result Participant :=
  Participant.fromDict py <| ((row.participantJson.set "status" (.str row.status.value)).set
    "version" (.int row.version)).set "updated_at" (.str row.updatedAt)

def getMigration (s : Store) (migrationId : String) : Result MigrationRecord := do
  migrationFromRow py (← s.selectMigration migrationId)

def getParticipant (s : Store) (participantId : String) : Result Participant := do
  participantFromRow py (← s.selectParticipant participantId)

def listParticipants (s : Store) (migrationId : String) : Result (List Participant) := do
  let _ ← s.getMigration py migrationId
  (s.participantRows migrationId).mapM (participantFromRow py)

def publicationGateArmed (s : Store) (migrationId : String) : Result Bool := do
  let _ ← s.getMigration py migrationId
  return s.hasMigrationEvent migrationId gateArmedEvent

def abortCleanupReserved (s : Store) (migrationId : String) : Result Bool := do
  let _ ← s.getMigration py migrationId
  return s.hasMigrationEvent migrationId abortReservedEvent

/-- One participant insert of `createMigration`. -/
def insertParticipant (s : Store) (p : Participant) : Result Store := do
  let initial ← Participant.fromDict py <|
    (p.toDict.set "status" (.str ParticipantStatus.discovered.value)).set "version" (.int 0)
  require (!s.participants.any fun r => r.participantId == initial.participantId) .integrityError
    "UNIQUE constraint failed: participants.participant_id"
  return { s with participants := s.participants ++ [{
    participantId := initial.participantId, migrationId := initial.migrationId
    participantJson := initial.toDict, status := initial.status, version := 0
    createdAt := initial.createdAt, updatedAt := initial.updatedAt }] }

def createMigration (s : Store) (intent : ChangeIntent) (participants : List Participant) :
    Result (MigrationRecord × Store) := do
  require (participants.all fun p => p.migrationId = intent.migrationId) .valueError
    "every participant must belong to the migration"
  let participantIds := participants.map Participant.participantId
  require (decide participantIds.Nodup) .valueError "participant IDs must be unique"
  require (s.migrationRow? intent.migrationId).isNone .migrationAlreadyExists intent.migrationId
  let s := { s with migrations := s.migrations ++ [{
    migrationId := intent.migrationId, intentJson := intent.toDict, status := .detected
    version := 0, createdAt := intent.createdAt, updatedAt := intent.createdAt }] }
  let s ← participants.foldlM (insertParticipant py) s
  let s := s.appendEvent intent.migrationId "" "MIGRATION_DETECTED" none (.migration .detected) 0
    [("participant_ids", .arr (participantIds.map .str))] intent.createdAt
  return ({ intent, status := .detected, version := 0
            createdAt := intent.createdAt, updatedAt := intent.createdAt }, s)

def armPublicationGate (s : Store) (now migrationId : String) (expectedVersion : Int) :
    Result Store := do
  let row ← s.selectMigration migrationId
  requireMigration migrationId row .prepared expectedVersion
  require (!s.hasMigrationEvent migrationId abortReservedEvent) .publicationReconciliationRequired
    "candidate cleanup was already reserved; Producer gate release cannot start"
  if s.hasMigrationEvent migrationId gateArmedEvent then
    return s
  return s.appendEvent migrationId "" gateArmedEvent (some (.migration row.status))
    (.migration row.status) row.version
    [("candidate_cleanup_permitted", .bool false), ("recovery", .str "reconcile_publication")] now

def reserveAbortCleanup (s : Store) (now migrationId : String) (expected : MigrationStatus)
    (expectedVersion : Int) : Result Store := do
  let row ← s.selectMigration migrationId
  requireMigration migrationId row expected expectedVersion
  require (!s.hasMigrationEvent migrationId gateArmedEvent) .publicationReconciliationRequired
    "Producer gate release was armed; ABORT cleanup is forbidden and publication must be reconciled"
  if s.hasMigrationEvent migrationId abortReservedEvent then
    return s
  return s.appendEvent migrationId "" abortReservedEvent (some (.migration row.status))
    (.migration row.status) row.version [("scope", .str "unmerged_candidate_changes_only")] now

/-- The commit SHA kept in a participant document. -/
def candidateSha (value : Json) : String := py.str (getD value "candidate_commit_sha" (.str ""))

/-- What keeps the participant of a row from being prepared. -/
def unprepared (row : ParticipantRow) : Option String :=
  if row.status ≠ .verified then some s!"{row.participantId}={row.status.value}"
  else if !isCommitSha (candidateSha py row.participantJson) then
    some s!"{row.participantId}=VERIFIED_WITHOUT_CANDIDATE_COMMIT"
  else none

def preparationGuard (s : Store) (migrationId : String) : Result Unit := do
  let rows := s.participantRows migrationId
  require (rows ≠ []) .preparationGuardFailed "PREPARED requires at least one discovered participant"
  let notVerified := rows.filterMap (unprepared py)
  require (notVerified = []) .preparationGuardFailed
    ("PREPARED requires every participant VERIFIED; unresolved: " ++ ", ".intercalate notVerified)

def commitGuard (s : Store) (migrationId : String) (receipts : List CoordinationReceipt) :
    Result Unit := do
  let rows := s.participantRows migrationId
  let notReady := (rows.filter fun r => r.status ≠ .verified && r.status ≠ .committed).map
    fun r => s!"{r.participantId}={r.status.value}"
  require (notReady = []) .commitGuardFailed
    ("COMMITTED requires every participant still verified; unresolved: " ++
      ", ".intercalate notReady)
  let expected ← rows.mapM fun r => do
    return py.str (← getItem r.participantJson "candidate_commit_sha")
  let supplied := (receipts.filter fun r => r.kind = .candidateCommit).map
    CoordinationReceipt.commitSha
  let missing := sortedSet (expected.filter fun sha => !supplied.contains sha)
  require (missing = []) .commitGuardFailed
    ("COMMITTED requires a candidate receipt for every verified participant commit: " ++
      ", ".intercalate missing)

def requiredReceiptKinds : List CoordinationReceiptKind :=
  [.candidateCommit, .coordinatedPr, .producerGateReleased]

def missingReceiptKinds (receipts : List CoordinationReceipt) : List String :=
  sortedSet ((requiredReceiptKinds.filter fun kind =>
    !(receipts.map CoordinationReceipt.kind).contains kind).map CoordinationReceiptKind.value)

def eventPayload (payload : List (String × Json)) (receipts : List CoordinationReceipt) :
    List (String × Json) :=
  if receipts = [] then payload
  else Json.assign "coordination_receipts" (.arr (receipts.map CoordinationReceipt.toDict)) payload

def receiptGuard (receipts : List CoordinationReceipt) : Result Unit :=
  require (missingReceiptKinds receipts = []) .commitGuardFailed
    ("COMMITTED requires external coordination receipts: " ++
      ", ".intercalate (missingReceiptKinds receipts))

def transitionMigration (s : Store) (now migrationId : String) (target expected : MigrationStatus)
    (expectedVersion : Int) (eventType : String) (payload : List (String × Json))
    (receipts : List CoordinationReceipt) : Result (MigrationRecord × Store) := do
  require (target ≠ .aborted) .illegalStateTransition
    "ABORTED requires abort_migration with a cleanup receipt"
  require (receipts.all fun r => r.migrationId = migrationId) .valueError
    "coordination receipt belongs to a different migration"
  onlyIf (target = .committed) (receiptGuard receipts)
  let row ← s.selectMigration migrationId
  requireMigration migrationId row expected expectedVersion
  require (canTransition row.status target) .illegalStateTransition
    s!"migration {migrationId} cannot move from {row.status.value} to {target.value}"
  onlyIf (target = .prepared) (s.preparationGuard py migrationId)
  onlyIf (target = .committed) (s.commitGuard py migrationId receipts)
  let s ← s.updateMigration migrationId row.status target row.version now
  let s := s.appendEvent migrationId "" eventType (some (.migration row.status))
    (.migration target) (row.version + 1) (eventPayload payload receipts) now
  let intent ← ChangeIntent.fromDict py row.intentJson
  return ({ intent, status := target, version := row.version + 1, createdAt := row.createdAt
            updatedAt := now }, s)

/-- `value.update(...)` of a participant document that moves. -/
def movedDocument (value : Json) (target : ParticipantStatus) (version : Int) (now : String) :
    Json :=
  ((value.set "status" (.str target.value)).set "updated_at" (.str now)).set "version"
    (.int version)

/-- One turn of the participant loop of `abortMigration`. -/
def abortParticipant (now : String) (s : Store) (row : ParticipantRow) : Result Store := do
  if row.status = .committed ∨ row.status = .aborted then
    return s
  let value := movedDocument row.participantJson .aborted (row.version + 1) now
  let s ← s.updateParticipant row.participantId row.status .aborted row.version value now
  return s.appendEvent row.migrationId row.participantId "PARTICIPANT_ABORTED_WITH_MIGRATION"
    (some (.participant row.status)) (.participant .aborted) (row.version + 1)
    [("cleanup_scope", .str "unmerged_candidate_changes_only")] now

def abortMigration (s : Store) (now migrationId : String) (receipt : AbortCleanupReceipt)
    (expected : MigrationStatus) (expectedVersion : Int) : Result (MigrationRecord × Store) := do
  require (receipt.migrationId = migrationId) .valueError
    "cleanup receipt belongs to a different migration"
  require (receipt.cleanupErrors = []) .abortCleanupFailed
    ("ABORTED cannot be recorded while candidate cleanup has errors: " ++
      "; ".intercalate receipt.cleanupErrors)
  let row ← s.selectMigration migrationId
  requireMigration migrationId row expected expectedVersion
  require (!s.hasMigrationEvent migrationId gateArmedEvent) .publicationReconciliationRequired
    "Producer gate release was armed; ABORTED cannot be recorded"
  require (canTransition row.status .aborted) .illegalStateTransition
    s!"migration {migrationId} cannot move from {row.status.value} to ABORTED"
  let s ← s.updateMigration migrationId row.status .aborted row.version now
  let s := s.appendEvent migrationId "" "MIGRATION_ABORTED" (some (.migration row.status))
    (.migration .aborted) (row.version + 1) [("cleanup", receipt.toDict)] now
  let s ← (s.participantRows migrationId).foldlM (abortParticipant now) s
  let intent ← ChangeIntent.fromDict py row.intentJson
  return ({ intent, status := .aborted, version := row.version + 1, createdAt := row.createdAt
            updatedAt := now }, s)

/-- The join of a participant row with its migration. -/
def parentOf (s : Store) (row : ParticipantRow) : Result MigrationRow :=
  match s.migrationRow? row.migrationId with
  | some parent => .ok parent
  | none => raise .participantNotFound row.participantId

def setCandidateSha (candidateCommitSha : Option String) (value : Json) : Result Json :=
  match candidateCommitSha with
  | none => .ok value
  | some sha => do
    require (sha = "" || isCommitSha sha) .verificationGuardFailed
      "candidate_commit_sha must be a 40- or 64-character hex SHA"
    return value.set "candidate_commit_sha" (.str sha)

def setEvidenceLinks (evidenceLinks : Option (List String)) (value : Json) : Json :=
  match evidenceLinks with
  | none => value
  | some links => value.set "evidence_links" (.arr (links.map .str))

def transitionParticipant (s : Store) (now participantId : String)
    (target expected : ParticipantStatus) (expectedVersion : Int) (eventType : String)
    (payload : List (String × Json)) (candidateCommitSha : Option String)
    (evidenceLinks : Option (List String)) : Result (Participant × Store) := do
  let row ← s.selectParticipant participantId
  let parent ← s.parentOf row
  require (!parent.status.isTerminal) .parentMigrationTerminal
    s!"participant mutation is forbidden after parent migration {parent.status.value}"
  require (row.status = expected && row.version = expectedVersion) .stateConflict
    s!"participant {participantId} is {row.status.value}@{row.version}, not {expected.value}@{expectedVersion}"
  require (canTransitionParticipant row.status target) .illegalStateTransition
    s!"participant {participantId} cannot move from {row.status.value} to {target.value}"
  let value ← setCandidateSha candidateCommitSha row.participantJson
  let value := setEvidenceLinks evidenceLinks value
  require (target ≠ .verified || isCommitSha (candidateSha py value)) .verificationGuardFailed
    "VERIFIED requires a persisted 40- or 64-character candidate commit SHA"
  let value := movedDocument value target (row.version + 1) now
  let s ← s.updateParticipant participantId row.status target row.version value now
  let s := s.appendEvent row.migrationId participantId eventType
    (some (.participant row.status)) (.participant target) (row.version + 1) payload now
  return (← Participant.fromDict py value, s)

def recordApproval (s : Store) (receipt : ApprovalReceipt) : Result Store := do
  let row ← s.selectParticipant receipt.participantId
  require (row.migrationId = receipt.migrationId) .participantNotFound receipt.participantId
  let parent ← s.parentOf row
  require (!parent.status.isTerminal) .parentMigrationTerminal
    s!"approval is forbidden after parent migration {parent.status.value}"
  require (row.status = .needsApproval) .approvalGuardFailed
    s!"owner approval is only accepted while the participant is NEEDS_APPROVAL, not {row.status.value}"
  let participant ← participantFromRow py row
  require (participant.kind = .semanticApproval) .approvalGuardFailed
    "owner approval is only valid for a semantic-approval participant"
  require (participant.ownerUrns.contains receipt.ownerUrn) .approvalGuardFailed
    s!"{receipt.ownerUrn} is not a DataHub owner of {receipt.participantId}"
  let intent ← ChangeIntent.fromDict py parent.intentJson
  let expectedMapping := intent.oldField ++ " -> " ++ intent.newField
  require (receipt.approvedMapping = expectedMapping) .approvalGuardFailed
    ("approved mapping must exactly match the ChangeIntent: " ++ expectedMapping)
  require (!s.approvals.any fun a => a.migrationId = receipt.migrationId &&
      a.participantId = receipt.participantId && a.ownerUrn = receipt.ownerUrn) .stateConflict
    "this owner approval is already recorded"
  let s := { s with approvals := s.approvals ++ [({
    migrationId := receipt.migrationId, participantId := receipt.participantId
    ownerUrn := receipt.ownerUrn, receiptJson := receipt.toDict
    approvedAt := receipt.approvedAt } : ApprovalRow)] }
  return s.appendEvent receipt.migrationId receipt.participantId "OWNER_APPROVAL_RECORDED"
    (some (.participant row.status)) (.participant row.status) row.version
    [("approval", receipt.toDict)] receipt.approvedAt

end Store

/-- The calls that change the store, with their arguments and time of day. -/
inductive StoreCall where
  | createMigration (intent : ChangeIntent) (participants : List Participant)
  | armPublicationGate (migrationId : String) (expectedVersion : Int)
  | reserveAbortCleanup (migrationId : String) (expected : MigrationStatus)
      (expectedVersion : Int)
  | transitionMigration (migrationId : String) (target expected : MigrationStatus)
      (expectedVersion : Int) (eventType : String) (payload : List (String × Json))
      (receipts : List CoordinationReceipt)
  | abortMigration (migrationId : String) (receipt : AbortCleanupReceipt)
      (expected : MigrationStatus) (expectedVersion : Int)
  | transitionParticipant (participantId : String) (target expected : ParticipantStatus)
      (expectedVersion : Int) (eventType : String) (payload : List (String × Json))
      (candidateCommitSha : Option String) (evidenceLinks : Option (List String))
  | recordApproval (receipt : ApprovalReceipt)

def StoreCall.run (now : String) (s : Store) : StoreCall → Result Store
  | .createMigration intent ps => do return (← s.createMigration py intent ps).2
  | .armPublicationGate mid version => s.armPublicationGate now mid version
  | .reserveAbortCleanup mid expected version => s.reserveAbortCleanup now mid expected version
  | .transitionMigration mid target expected version event payload receipts => do
    return (← s.transitionMigration py now mid target expected version event payload receipts).2
  | .abortMigration mid receipt expected version => do
    return (← s.abortMigration py now mid receipt expected version).2
  | .transitionParticipant pid target expected version event payload sha links => do
    return (← s.transitionParticipant py now pid target expected version event payload sha links).2
  | .recordApproval receipt => s.recordApproval py receipt

/-- The store after a call: an exception rolls its transaction back. -/
def StoreCall.after (now : String) (s : Store) (c : StoreCall) : Store :=
  match c.run py now s with
  | .ok s' => s'
  | .error _ => s

/-- One step of a run: a call with the time at which it is made. -/
def storeStep (s : Store) (c : String × StoreCall) : Store := c.2.after py c.1 s

end LineageTX
