import LineageTX.Files
import LineageTX.JsonLoads
import LineageTX.Models

/-! The signed snapshot of a migration that waits for approval: its fields, its envelope on
disk, and reading it back. The keyed digest is a parameter. -/
namespace LineageTX
open Library
variable (py : Python)

def resumeSnapshotError {α : Type} (msg : String) : Result α :=
  raise (.other "ResumeSnapshotError") msg

/-- The fields of a snapshot, before its checks. -/
structure PauseData where
  migrationId : String
  participantId : String
  ownerUrn : String
  oldField : String
  newField : String
  impactFingerprint : String
  repositoryBaseShas : Dict String
  pausedAt : String
  schemaVersion : Int := 1

def isLowerHex (c : Char) : Bool := c.isDigit || ('a' ≤ c && c ≤ 'f')

def isBaseSha (sha : String) : Bool :=
  (sha.length == 40 || sha.length == 64) && sha.toList.all isLowerHex

/-- `__post_init__` -/
def PauseData.postInit (d : PauseData) : Result Unit := do
  require (d.schemaVersion = 1) .valueError "unsupported approval pause snapshot schema"
  require (startsWith d.ownerUrn "urn:li:") .valueError "approval pause owner must be a DataHub URN"
  require (d.migrationId ≠ "" && d.participantId ≠ "") .valueError
    "approval pause identity is required"
  require (d.oldField ≠ "" && d.newField ≠ "") .valueError
    "approval pause field mapping is required"
  require (d.impactFingerprint.length == 64 && d.impactFingerprint.toList.all isLowerHex) .valueError
    "approval pause impact fingerprint must be SHA-256"
  require (d.repositoryBaseShas.val ≠ []) .valueError "approval pause repository bases are required"
  require (d.repositoryBaseShas.val.all fun e => e.1 ≠ "" && isBaseSha e.2) .valueError
    "approval pause repository base SHA is invalid"
  requireUtcTimestamp py d.pausedAt "paused_at"

/-- A snapshot that its checks accepted. -/
structure ApprovalPauseSnapshot where
  data : PauseData
  checked : data.postInit py = .ok ()

def PauseData.toDict (d : PauseData) : Json := .obj [
  ("impact_fingerprint", .str d.impactFingerprint),
  ("migration_id", .str d.migrationId),
  ("new_field", .str d.newField),
  ("old_field", .str d.oldField),
  ("owner_urn", .str d.ownerUrn),
  ("participant_id", .str d.participantId),
  ("paused_at", .str d.pausedAt),
  ("repository_base_shas",
    .obj ((sortBy Prod.fst d.repositoryBaseShas.val).map fun e => (e.1, .str e.2))),
  ("schema_version", .int d.schemaVersion)]

namespace ApprovalPauseSnapshot

/-- The constructor. -/
def create (d : PauseData) : Result (ApprovalPauseSnapshot py) :=
  match h : d.postInit py with
  | .ok _ => .ok ⟨d, h⟩
  | .error e => .error e

/-- `from_dict` -/
def fromDict (value : Json) : Result (ApprovalPauseSnapshot py) :=
  match getD value "repository_base_shas" .null with
  | .obj bases =>
    tryCatch (do
      let migrationId := py.str (← getItem value "migration_id")
      let participantId := py.str (← getItem value "participant_id")
      let ownerUrn := py.str (← getItem value "owner_urn")
      let oldField := py.str (← getItem value "old_field")
      let newField := py.str (← getItem value "new_field")
      let impactFingerprint := py.str (← getItem value "impact_fingerprint")
      let repositoryBaseShas := bases.foldl (fun (d : Dict String) e => d.set e.1 (py.str e.2)) .empty
      let pausedAt := py.str (← getItem value "paused_at")
      let schemaVersion ← py.int (getD value "schema_version" (.int 0))
      create py ⟨migrationId, participantId, ownerUrn, oldField, newField, impactFingerprint,
        repositoryBaseShas, pausedAt, schemaVersion⟩) fun e =>
      if e.cls ∈ [.keyError, .typeError, .valueError] then
        resumeSnapshotError ("approval pause snapshot is invalid: " ++ e.msg)
      else throw e
  | _ => resumeSnapshotError "approval pause repository bases are invalid"

/-- The equality of the dataclass: mappings are equal up to the order of their keys. -/
structure Equal (s s' : ApprovalPauseSnapshot py) : Prop where
  bases : ∀ name, s.data.repositoryBaseShas.get? name = s'.data.repositoryBaseShas.get? name
  rest : { s.data with repositoryBaseShas := .empty } = { s'.data with repositoryBaseShas := .empty }

end ApprovalPauseSnapshot

/-- `hmac.new(key, message, hashlib.sha256).hexdigest()` -/
structure KeyedDigest where
  hexdigest : (key message : ByteArray) → String
  isHex : ∀ key message, (hexdigest key message).toList.all isLowerHex = true

/-- The signature of a payload. -/
def KeyedDigest.sign (mac : KeyedDigest) (key : ByteArray) (payload : Json) : String :=
  mac.hexdigest key (canonicalJson payload).toUTF8

/-- `hmac.compare_digest` of two strings. -/
def compareDigest (a b : String) : Result Bool := do
  require ((a.toList ++ b.toList).all fun c => c.toNat < 128) .typeError
    "comparing strings with non-ASCII characters is not supported"
  return a = b

section Envelope
variable (mac : KeyedDigest)

/-- The layout of the file. -/
def envelopeText (payload : Json) (signature : String) : String :=
  Json.dumps ⟨true, some 2, 0, 1⟩ (.obj [
    ("algorithm", .str "HMAC-SHA256"), ("payload", payload), ("signature", .str signature)]) ++ "\n"

/-- `write_signed_pause_snapshot`; the mode of the file is not modelled. -/
def writeSignedPauseSnapshot (path : String) (snapshot : ApprovalPauseSnapshot py) (key : ByteArray) :
    FileProg Unit := do
  require (32 ≤ key.size) .valueError "resume snapshot HMAC key must contain at least 32 bytes"
  let payload := snapshot.data.toDict
  let signature := mac.sign key payload
  makeParent path
  let temporary := path ++ ".tmp"
  (FileOp.writeText temporary (envelopeText payload signature)).run
  (FileOp.rename temporary path).run

/-- What is done with the text of the file. -/
def openEnvelope (key : ByteArray) (raw : Json) : Result (ApprovalPauseSnapshot py) := do
  require (isObj raw && raw.get? "algorithm" = some (.str "HMAC-SHA256")) (.other "ResumeSnapshotError")
    "approval pause snapshot envelope is invalid"
  match raw.get? "payload", raw.get? "signature" with
  | some (.obj payload), some (.str signature) => do
    require (← compareDigest signature (mac.sign key (.obj payload))) (.other "ResumeSnapshotError")
      "approval pause snapshot signature is invalid"
    ApprovalPauseSnapshot.fromDict py (.obj payload)
  | _, _ => resumeSnapshotError "approval pause snapshot signature is missing"

/-- The document that a file holds. -/
def readEnvelope (path : String) : FileProg Json :=
  tryCatch (do
    let text ← (FileOp.readText path).run
    py.jsonLoads (.other "JSONDecodeError") "" text) fun e =>
      if e.cls ∈ [.osError, .other "JSONDecodeError"] then
        resumeSnapshotError ("cannot read approval pause snapshot: " ++ e.msg)
      else throw e

/-- `read_signed_pause_snapshot` -/
def readSignedPauseSnapshot (path : String) (key : ByteArray) : FileProg (ApprovalPauseSnapshot py) := do
  require (32 ≤ key.size) .valueError "resume snapshot HMAC key must contain at least 32 bytes"
  let raw ← readEnvelope py path
  openEnvelope py mac key raw

end Envelope
end LineageTX
