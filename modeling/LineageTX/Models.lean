import LineageTX.Python

/-! Statuses and their transition tables, change intents, participants, receipts
and events, with the checks of their constructors and their dictionaries. -/
namespace LineageTX
open Library

inductive MigrationStatus where
  | detected | preparing | needsApproval | prepared | committed | aborted
  deriving DecidableEq

def MigrationStatus.value : MigrationStatus → String
  | .detected => "DETECTED"
  | .preparing => "PREPARING"
  | .needsApproval => "NEEDS_APPROVAL"
  | .prepared => "PREPARED"
  | .committed => "COMMITTED"
  | .aborted => "ABORTED"

inductive ParticipantKind where
  | dbtSql | airflowMapping | semanticApproval
  deriving DecidableEq

def ParticipantKind.value : ParticipantKind → String
  | .dbtSql => "DBT_SQL"
  | .airflowMapping => "AIRFLOW_MAPPING"
  | .semanticApproval => "SEMANTIC_APPROVAL"

inductive ParticipantStatus where
  | discovered | preparing | needsApproval | verified | failed | committed | aborted
  deriving DecidableEq

def ParticipantStatus.value : ParticipantStatus → String
  | .discovered => "DISCOVERED"
  | .preparing => "PREPARING"
  | .needsApproval => "NEEDS_APPROVAL"
  | .verified => "VERIFIED"
  | .failed => "FAILED"
  | .committed => "COMMITTED"
  | .aborted => "ABORTED"

inductive RolloutPhase where
  | contract
  deriving DecidableEq

def RolloutPhase.value : RolloutPhase → String
  | .contract => "CONTRACT"

inductive CoordinationReceiptKind where
  | candidateCommit | coordinatedPr | producerGateReleased
  deriving DecidableEq

def CoordinationReceiptKind.value : CoordinationReceiptKind → String
  | .candidateCommit => "CANDIDATE_COMMIT"
  | .coordinatedPr => "COORDINATED_PR"
  | .producerGateReleased => "PRODUCER_GATE_RELEASED"

def allowedMigrationTransitions : MigrationStatus → List MigrationStatus
  | .detected => [.preparing, .aborted]
  | .preparing => [.needsApproval, .prepared, .aborted]
  | .needsApproval => [.prepared, .aborted]
  | .prepared => [.committed, .aborted]
  | .committed => []
  | .aborted => []

def allowedParticipantTransitions : ParticipantStatus → List ParticipantStatus
  | .discovered => [.preparing, .failed, .aborted]
  | .preparing => [.needsApproval, .verified, .failed, .aborted]
  | .needsApproval => [.preparing, .failed, .aborted]
  | .verified => [.committed, .aborted]
  | .failed => [.preparing, .aborted]
  | .committed => []
  | .aborted => []

def canTransition (current target : MigrationStatus) : Bool :=
  target ∈ allowedMigrationTransitions current

def canTransitionParticipant (current target : ParticipantStatus) : Bool :=
  target ∈ allowedParticipantTransitions current

def MigrationStatus.isTerminal (status : MigrationStatus) : Bool :=
  status = .committed || status = .aborted

/-- Enumeration lookup by value, for the `MigrationStatus(text)` of a read. -/
def enumOf {α : Type} (value : α → String) (all : List α) (name text : String) : Result α :=
  match all.find? fun a => value a == text with
  | some a => .ok a
  | none => raise .valueError s!"'{text}' is not a valid {name}"

def ParticipantKind.parse : String → Result ParticipantKind :=
  enumOf ParticipantKind.value [.dbtSql, .airflowMapping, .semanticApproval] "ParticipantKind"

def ParticipantStatus.parse : String → Result ParticipantStatus :=
  enumOf ParticipantStatus.value
    [.discovered, .preparing, .needsApproval, .verified, .failed, .committed, .aborted]
    "ParticipantStatus"

def RolloutPhase.parse : String → Result RolloutPhase :=
  enumOf RolloutPhase.value [.contract] "RolloutPhase"

/-- `_IDENTIFIER.fullmatch` -/
def isIdentifier (s : String) : Bool :=
  match s.toList with
  | [] => false
  | c :: cs => c.isAlphanum && cs.all fun d => d.isAlphanum || "._:/-".toList.contains d

def isHex (c : Char) : Bool := c.isDigit || ('a' ≤ c && c ≤ 'f') || ('A' ≤ c && c ≤ 'F')

def isCommitSha (s : String) : Bool :=
  (s.length == 40 || s.length == 64) && s.toList.all isHex

/-- The compact layout of stored records. -/
def canonicalStyle : Json.Style := ⟨false, none, 0, 0⟩

def canonicalJson (j : Json) : String := Json.dumps canonicalStyle j

variable (py : Python)

def requireUtcTimestamp (value fieldName : String) : Result Unit :=
  match py.fromIsoFormat value with
  | none => raise .valueError s!"{fieldName} must be an ISO-8601 timestamp"
  | some utc => require utc .valueError s!"{fieldName} must include the UTC timezone"

def requireHttpsUrl (value fieldName : String) : Result Unit := do
  let parsed ← py.urlsplit value
  require (parsed.scheme == "https" && parsed.netloc != "" && parsed.username.isNone &&
      parsed.password.isNone && parsed.query == "" && parsed.fragment == "") .valueError
    (fieldName ++ " must be an absolute HTTPS URL without userinfo, query, or fragment")

end LineageTX
