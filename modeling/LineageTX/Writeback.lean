import LineageTX.Loaded
import LineageTX.Models

/-! The DataHub writer: the value it writes for one asset, the checks of its
constructor, of its input and of a refreshed context. -/
namespace LineageTX
open Library
variable (py : Python)

def migrationIdProperty : String := "urn:li:structuredProperty:io.lineagetx.migrationId"
def migrationStatusProperty : String := "urn:li:structuredProperty:io.lineagetx.status"
def migrationOwnerProperty : String := "urn:li:structuredProperty:io.lineagetx.owner"
def migrationEvidenceProperty : String := "urn:li:structuredProperty:io.lineagetx.evidenceUrl"
def migrationTag : String := "urn:li:tag:LineageTXMigration"

def coordinatorStates : List String :=
  ["DETECTED", "PREPARING", "NEEDS_APPROVAL", "PREPARED", "COMMITTED", "ABORTED"]

def participantStates : List String := ["DISCOVERED", "VERIFIED", "FAILED"]

def migrationStates : List String := coordinatorStates ++ participantStates

structure MigrationWriteback where
  migrationId : String
  status : String
  owner : String
  evidenceUrl : String
  deriving DecidableEq

def MigrationWriteback.postInit (w : MigrationWriteback) : Result MigrationWriteback := do
  require (!isBlank w.migrationId) .valueError "migration_id cannot be empty"
  require (migrationStates.contains w.status) .valueError
    s!"unsupported LineageTX status: {w.status}"
  require (startsWith w.owner "urn:li:") .valueError "owner must be a DataHub URN"
  requireHttpsUrl py w.evidenceUrl "evidence_url"
  return w

def MigrationWriteback.propertyValues (w : MigrationWriteback) : List (String × List String) := [
  (migrationIdProperty, [w.migrationId]),
  (migrationStatusProperty, [w.status]),
  (migrationOwnerProperty, [w.owner]),
  (migrationEvidenceProperty, [w.evidenceUrl])]

/-- A write-back touches nothing that the impact fingerprint sees. -/
theorem propertyValues_lineageTx (w : MigrationWriteback) :
    (∀ e ∈ w.propertyValues, isLineageTxKey e.1 = true) ∧ migrationTag = lineageTxTagUrn := by
  refine ⟨?_, rfl⟩
  simp only [MigrationWriteback.propertyValues, List.forall_mem_cons, List.not_mem_nil,
    false_imp_iff, implies_true, and_true]
  decide

/-- A context with the identity of its object, for the tests `is` and `is not`. -/
structure ContextObject where
  ident : Nat
  data : ContextData
  valid : data.postInit py = .ok data

/-- A constructed writer: the checks on its context are a field. -/
structure Writer where
  transport : String
  context : ContextObject py
  complete : context.data.discoveryComplete = true
  fingerprint : context.data.recomputeImpactFingerprint py = context.data.impactFingerprint
  assets : context.data.assetUrns.length = 4 ∧ context.data.assetUrns.Nodup
  sameTransport : transport = context.data.transport

namespace Writer
variable {py}

def entityUrns (w : Writer py) : List String := w.context.data.assetUrns

def validateRefreshedContext (w : Writer py) (refreshed : Option (ContextObject py)) : Result Unit :=
  match refreshed with
  | none => raise .valueError "COMMITTED write-back requires a pre-commit refreshed context"
  | some refreshed => do
    require (refreshed.ident ≠ w.context.ident) .valueError
      "pre-commit refresh must be a newly read DataHub context"
    require refreshed.data.discoveryComplete .valueError
      "refreshed context discovery is incomplete"
    require (refreshed.data.assetUrns = w.entityUrns) .valueError
      "refreshed context changed the exact impact assets"
    require (refreshed.data.impactFingerprint = w.context.data.impactFingerprint) .valueError
      "refreshed context impact fingerprint changed"
    require (refreshed.data.transport = w.context.data.transport) .valueError
      "refreshed context transport changed"

/-- The owner check of one asset. -/
def checkOwner (w : Writer py) (writebacks : Dict MigrationWriteback) (urn : String) :
    Result Unit :=
  let owners := match w.context.data.assets.get? urn with
    | some asset => asset.governance.ownerUrns
    | none => []
  require (owners.length = 1 && (writebacks.get? urn).map (·.owner) = owners.head?) .valueError
    s!"write-back owner must match the frozen DataHub owner for {urn}"

/-- The checks that `write_assets` makes on its input: the exact assets in the frozen
order, one migration, the owner of every asset. -/
def checkAssets (w : Writer py) (writebacks : Dict MigrationWriteback) : Result Unit := do
  require (w.context.data.recomputeImpactFingerprint py = w.context.data.impactFingerprint)
    .valueError "frozen DataHub context was mutated after discovery"
  require (writebacks.keys = w.entityUrns &&
      ContextData.sameSet writebacks.keys w.entityUrns) .valueError
    "write-back assets must exactly match the frozen impact set"
  require ((writebacks.val.map (·.2.migrationId)).dedup.length = 1) .valueError
    "all asset write-backs must use the same migration_id"
  w.entityUrns.forM (w.checkOwner writebacks)

/-- `checkAssets`, and a refreshed context once a record says COMMITTED. -/
def checkInput (w : Writer py) (writebacks : Dict MigrationWriteback)
    (refreshed : Option (ContextObject py)) : Result Unit := do
  w.checkAssets writebacks
  onlyIf (writebacks.val.any fun e => e.2.status = "COMMITTED")
    (w.validateRefreshedContext refreshed)

end Writer

/-- The coordinator's own check of a refreshed context before it commits. -/
def acceptsRefresh {py : Python} (context refreshed : ContextObject py) : Bool :=
  refreshed.ident ≠ context.ident && refreshed.data.discoveryComplete &&
    refreshed.data.impactFingerprint = context.data.impactFingerprint

end LineageTX
