import LineageTX.Writeback
import LineageTX.Library.Prog

/-! `write_assets`: the mutations and read-backs of one attempt, as a program over the
tool calls of the MCP client. -/
namespace LineageTX
open Library
variable (py : Python)

def propertyQualifiedNames : List (String × String) := [
  (migrationIdProperty, "io.lineagetx.migrationId"),
  (migrationStatusProperty, "io.lineagetx.status"),
  (migrationOwnerProperty, "io.lineagetx.owner"),
  (migrationEvidenceProperty, "io.lineagetx.evidenceUrl")]

def readbackAttempts : Nat := 10

def officialTransport : String := "datahub-oss+official-mcp-server-datahub==0.6.0"

/-- The tool calls of the writer. -/
inductive ToolCall where
  | addStructuredProperties (propertyValues : List (String × List String))
      (entityUrns : List String)
  | addTags (tagUrns entityUrns : List String)
  | getEntities (urns : List String)
  deriving DecidableEq

def valuesJson (values : List (String × List String)) : Json :=
  .obj (values.map fun e => (e.1, .arr (e.2.map .str)))

def ToolCall.name : ToolCall → String
  | .addStructuredProperties _ _ => "add_structured_properties"
  | .addTags _ _ => "add_tags"
  | .getEntities _ => "get_entities"

def ToolCall.arguments : ToolCall → Json
  | .addStructuredProperties values urns =>
    .obj [("property_values", valuesJson values), ("entity_urns", .arr (urns.map .str))]
  | .addTags tags urns => .obj [("tag_urns", .arr (tags.map .str)), ("entity_urns", .arr (urns.map .str))]
  | .getEntities urns => .obj [("urns", .arr (urns.map .str))]

/-- A call is answered with envelopes: a payload and a trace. -/
abbrev WriteProg := Prog Exn fun _ : ToolCall => List (Json × Json)

def oneCall (c : ToolCall) : WriteProg (Json × Json) := do
  match ← Prog.perform c with
  | [response] => return response
  | responses => throw ⟨.dataHubWritebackError, s!"DataHub MCP {c.name} returned {responses.length} envelopes"⟩

/-- `_successful` -/
def successful (payload : Json) : Bool :=
  isObj payload && getD payload "success" .null = .bool true

/-- The values that an entity shows under a property or its qualified name. -/
def storedValues (governance : Governance) (property : String) : Option (List PropertyValue) :=
  match governance.structuredProperties.get? property with
  | some values => some values
  | none => governance.structuredProperties.get? ((propertyQualifiedNames.lookup property).getD "")

def propertyMatch (entity : Json) (writeback : MigrationWriteback) : Result Bool := do
  let governance ← extractGovernance py entity
  return writeback.propertyValues.all fun e =>
    storedValues governance e.1 = some (e.2.map .text)

def fullMatch (entity : Json) (writeback : MigrationWriteback) : Result Bool := do
  if ← propertyMatch py entity writeback then
    return (← extractGovernance py entity).tagUrns.contains migrationTag
  return false

inductive JournalError where
  | exception (cls : ExnClass)
  | text (message : String)
  deriving DecidableEq

structure JournalEntry where
  sequence : Nat
  operation : String
  assets : List String
  success : Bool
  idempotentRetrySafe : Bool := true
  error : Option JournalError := none
  deriving DecidableEq

/-- `_readback_entities` -/
def readbackEntities (payload : Json) (expectedUrns : List String) : Result (Dict Json) := do
  let entities := (asList? payload).getD [payload]
  let byUrn := entities.foldl (fun d e =>
    match urnOf? e with
    | some urn => d.set urn e
    | none => d) Dict.empty
  let missing := sortedSet (expectedUrns.filter fun urn => !byUrn.keys.contains urn)
  require (ContextData.sameSet byUrn.keys expectedUrns) .dataHubWritebackError
    ("read-back omitted migration assets: " ++ py.reprContainer (.arr (missing.map .str)))
  return byUrn

/-- The values of a group of assets and the assets. -/
structure PropertyGroup where
  values : List (String × List String)
  urns : List String
  deriving DecidableEq

/-- One turn of the grouping by serialised values. -/
def addToGroup (grouped : Dict PropertyGroup) (record : String × MigrationWriteback) :
    Dict PropertyGroup :=
  let values := record.2.propertyValues
  let key := stableJson (valuesJson values)
  let group := (grouped.get? key).getD ⟨values, []⟩
  grouped.set key { group with urns := group.urns ++ [record.1] }

def groupRecords (records : List (String × MigrationWriteback)) : List PropertyGroup :=
  (records.foldl addToGroup Dict.empty).val.map Prod.snd

/-- The local variables of an attempt that its phases share. -/
structure Progress where
  journal : List JournalEntry := []
  traces : List Json := []
  propertyMutationAssets : List String := []
  tagMutationSucceeded : Bool := false
  failure : Option (String × Exn) := none

def Progress.note (p : Progress) (operation : String) (assets : List String) (success : Bool)
    (error : Option JournalError) : Progress :=
  { p with journal := p.journal ++ [{
      sequence := p.journal.length + 1, operation, assets, success, error }] }

def Progress.fail (p : Progress) (operation : String) (assets : List String) (e : Exn) : Progress :=
  { p.note operation assets false (some (.exception e.cls)) with failure := some (operation, e) }

def Progress.trace (p : Progress) (trace : Json) : Progress := { p with traces := p.traces ++ [trace] }

def upsertGroup (group : PropertyGroup) (p : Progress) : WriteProg Progress := do
  let operation := "upsert_structured_properties"
  match ← (oneCall (.addStructuredProperties group.values group.urns)).attempt with
  | .ok (payload, trace) =>
    let p := p.trace trace
    if successful payload then
      return ({ p with propertyMutationAssets := p.propertyMutationAssets ++ group.urns }).note
        operation group.urns true none
    else
      return p.fail operation group.urns
        ⟨.dataHubWritebackError, "structured property mutation was not successful"⟩
  | .error e => return p.fail operation group.urns e

/-- The loop over the groups, which the first failure breaks. -/
def upsertGroups : List PropertyGroup → Progress → WriteProg Progress
  | [], p => pure p
  | group :: groups, p => do
    let p ← upsertGroup group p
    if p.failure.isSome then return p
    upsertGroups groups p

def addMigrationTag (urns : List String) (p : Progress) : WriteProg Progress := do
  let operation := "add_migration_tag"
  match ← (oneCall (.addTags [migrationTag] urns)).attempt with
  | .ok (payload, trace) =>
    let p := p.trace trace
    if successful payload then
      return ({ p with tagMutationSucceeded := true }).note operation urns true none
    else return p.fail operation urns ⟨.dataHubWritebackError, "tag mutation was not successful"⟩
  | .error e => return p.fail operation urns e

/-- The tag is only added where no group failed. -/
def tagPhase (urns : List String) (p : Progress) : WriteProg Progress :=
  if p.failure.isNone then addMigrationTag urns p else pure p

/-- What the last read-back left behind. -/
structure Readback where
  payload : Json := .null
  error : Option Exn := none
  propertySuccessful : List String := []
  fullySuccessful : List String := []
  terminalSuccess : Bool := false

/-- The test of an asset on its entity, or a fallback where none was read. -/
def testAsset (test : Json → MigrationWriteback → Result Bool) (fallback : String → Bool)
    (byUrn : Dict Json) (record : String × MigrationWriteback) : Result Bool :=
  match byUrn.get? record.1 with
  | some entity => test entity record.2
  | none => .ok (fallback record.1)

/-- The assets that pass their test. -/
def assetsMatching (test : Json → MigrationWriteback → Result Bool) (fallback : String → Bool)
    (byUrn : Dict Json) : List (String × MigrationWriteback) → Result (List String)
  | [] => .ok []
  | record :: records => do
    let matched ← testAsset test fallback byUrn record
    let rest ← assetsMatching test fallback byUrn records
    return if matched then record.1 :: rest else rest

/-- The read of one attempt: the payload it leaves, the entities and the exception. -/
def readbackFetch (urns : List String) (previous : Json) (p : Progress) :
    WriteProg (Progress × Json × Dict Json × Option Exn) := do
  let operation := "readback_fetch"
  match ← (oneCall (.getEntities urns)).attempt with
  | .ok (payload, trace) =>
    let p := p.trace trace
    match readbackEntities py payload urns with
    | .ok byUrn => return (p.note operation urns true none, payload, byUrn, none)
    | .error e =>
      return (p.note operation urns false (some (.exception e.cls)), payload, Dict.empty, some e)
  | .error e =>
    return (p.note operation urns false (some (.exception e.cls)), previous, Dict.empty, some e)

def readbackOnce (records : List (String × MigrationWriteback)) (previous : Json) (p : Progress) :
    WriteProg (Progress × Readback) := do
  let (p, payload, byUrn, error) ← readbackFetch py (records.map Prod.fst) previous p
  let propertySuccessful ← liftM (assetsMatching (propertyMatch py)
    p.propertyMutationAssets.contains byUrn records)
  let fullySuccessful ← liftM (assetsMatching (fullMatch py)
    (fun urn => p.tagMutationSucceeded && p.propertyMutationAssets.contains urn) byUrn records)
  let terminalSuccess := error.isNone && fullySuccessful.length = 4
  let p := p.note "readback_match" fullySuccessful terminalSuccess
    (if terminalSuccess then none else some (.text "desired state was not fully observed"))
  return (p, { payload, error, propertySuccessful, fullySuccessful, terminalSuccess })

/-- The loop over the read-backs, with the number that is left. -/
def readbackLoop (records : List (String × MigrationWriteback)) :
    Nat → Readback → Progress → WriteProg (Progress × Readback)
  | 0, last, p => pure (p, last)
  | attempts + 1, last, p => do
    let (p, readback) ← readbackOnce py records last.payload p
    if readback.terminalSuccess then return (p, readback)
    readbackLoop records attempts readback p

structure DataHubPartialWriteError where
  failedOperation : String
  attemptedAssets : List String
  successfulAssets : List String
  propertySuccessfulAssets : List String
  journal : List JournalEntry
  transport : String
  readbackSha256 : Option String
  cause : Option Exn

structure WritebackReceipt where
  migrationId : String
  status : String
  entityUrns : List String
  tagUrn : String
  evidenceUrl : String
  readbackSha256 : String
  toolTraces : List Json
  assetStatuses : List (String × String)
  assetOwners : List (String × String)
  assetEvidenceUrls : List (String × String)
  impactFingerprint : String
  transport : String
  liveVerified : Bool
  journal : List JournalEntry
  verification : String

/-- `write_assets` returns a receipt or raises the error that carries the journal; any
other exception ends the program. -/
inductive WriteOutcome where
  | receipt (receipt : WritebackReceipt)
  | partialWrite (error : DataHubPartialWriteError)

def readbackSha256 (payload : Json) : Option String :=
  if payload = .null then none else some (py.sha256 (stableJson payload))

/-- The one value that all share, or a text for several. -/
def sharedValue (values : List String) (several : String) : String :=
  if values.dedup.length = 1 then values.headD "" else several

namespace Writer
variable {py}

/-- The checks of the input with the assets named by the caller. -/
def checkSupplied (w : Writer py) (writebacks : Dict MigrationWriteback)
    (suppliedUrns : Option (List String)) (refreshed : Option (ContextObject py)) : Result Unit := do
  require (w.context.data.recomputeImpactFingerprint py = w.context.data.impactFingerprint)
    .valueError "frozen DataHub context was mutated after discovery"
  let inputUrns := suppliedUrns.getD writebacks.keys
  require (inputUrns = w.entityUrns && ContextData.sameSet writebacks.keys w.entityUrns) .valueError
    "write-back assets must exactly match the frozen impact set"
  require ((writebacks.val.map (·.2.migrationId)).dedup.length = 1) .valueError
    "all asset write-backs must use the same migration_id"
  w.entityUrns.forM (w.checkOwner writebacks)
  onlyIf (writebacks.val.any fun e => e.2.status = "COMMITTED")
    (w.validateRefreshedContext refreshed)

/-- Without names of its own a call names the keys of its map. -/
theorem checkSupplied_none (w : Writer py) (writebacks : Dict MigrationWriteback)
    (refreshed : Option (ContextObject py)) :
    w.checkSupplied writebacks none refreshed = w.checkInput writebacks refreshed := by
  simp only [checkSupplied, checkInput, checkAssets, Option.getD_none, bind_assoc]

/-- `writebacks[urn]` for every asset, in the frozen order. -/
def records (w : Writer py) (writebacks : Dict MigrationWriteback) :
    Result (List (String × MigrationWriteback)) :=
  w.entityUrns.mapM fun urn =>
    match writebacks.get? urn with
    | some record => .ok (urn, record)
    | none => raise .keyError urn

def receiptOf (w : Writer py) (official : Bool) (records : List (String × MigrationWriteback))
    (p : Progress) (readback : Readback) : WritebackReceipt :=
  let liveVerified := official && w.transport = officialTransport &&
    w.context.data.transport = officialTransport
  { migrationId := (records.map (·.2.migrationId)).headD ""
    status := sharedValue (records.map (·.2.status)) "MIXED"
    entityUrns := w.entityUrns
    tagUrn := migrationTag
    evidenceUrl := sharedValue (records.map (·.2.evidenceUrl)) "multiple per-asset evidence URLs"
    readbackSha256 := (readbackSha256 py readback.payload).getD ""
    toolTraces := p.traces
    assetStatuses := records.map fun e => (e.1, e.2.status)
    assetOwners := records.map fun e => (e.1, e.2.owner)
    assetEvidenceUrls := records.map fun e => (e.1, e.2.evidenceUrl)
    impactFingerprint := w.context.data.impactFingerprint
    transport := w.transport
    liveVerified
    journal := p.journal
    verification :=
      if liveVerified then "live DataHub OSS write verified through official MCP read-back"
      else "read-back verified by a non-live test transport" }

def partialWriteOf (w : Writer py) (p : Progress) (readback : Readback) : DataHubPartialWriteError where
  failedOperation := match p.failure with
    | some (operation, _) => operation
    | none => if readback.error.isSome then "readback_fetch" else "readback_mismatch"
  attemptedAssets := w.entityUrns
  successfulAssets := readback.fullySuccessful
  propertySuccessfulAssets := readback.propertySuccessful
  journal := p.journal
  transport := w.transport
  readbackSha256 := readbackSha256 py readback.payload
  cause := (p.failure.map Prod.snd).or readback.error

/-- The mutations and the read-backs of one attempt. -/
def writeRecords (w : Writer py) (official : Bool) (records : List (String × MigrationWriteback)) :
    WriteProg WriteOutcome := do
  let p ← upsertGroups (groupRecords records) {}
  let p ← tagPhase w.entityUrns p
  let attempts := if p.failure.isNone then readbackAttempts else 1
  let (p, readback) ← readbackLoop py records attempts {} p
  if readback.terminalSuccess then return .receipt (w.receiptOf official records p readback)
  return .partialWrite (w.partialWriteOf p readback)

/-- `official` says that the client is the official one. -/
def writeAssets (w : Writer py) (official : Bool) (writebacks : Dict MigrationWriteback)
    (suppliedUrns : Option (List String)) (refreshed : Option (ContextObject py)) :
    WriteProg WriteOutcome := do
  liftM (w.checkSupplied writebacks suppliedUrns refreshed)
  let records ← liftM (w.records writebacks)
  w.writeRecords official records

end Writer
end LineageTX
