import LineageTX.Reader
import LineageTX.WrittenBack

/-! `load`: the impact set of one column, read and checked, as a frozen context. -/
namespace LineageTX
open Library
variable (py : Python)
namespace Reader

def endpointIs (entity : Json) (urn column : String) : Bool :=
  isObj entity && getD entity "urn" .null = .str urn && getD entity "column" .null = .str column

def schemaFieldNode (node : Json) (urn : String) : Bool :=
  isObj node && getD node "type" .null = .str "SCHEMA_FIELD" && getD node "urn" .null = .str urn

def checkPath (first last : String) (pathObject : Json) : Result Unit :=
  match pathObject.get? "path" with
  | some (.arr (a :: b :: entities)) =>
    requireRead (schemaFieldNode a first && schemaFieldNode ((b :: entities).getLastD b) last)
      "lineage path endpoints were not the requested schemaField URNs"
  | _ => failRead "lineage path was empty or malformed"

/-- `_validate_path_evidence`, which returns the members of the response. -/
def validatePathEvidence (r : Reader) (sourceUrn sourceColumn targetUrn targetColumn : String)
    (path : Json) : Result (List (String × Json)) := do
  requireRead (isObj path) "lineage path response was not an object"
  let mismatch := "lineage path metadata did not match " ++ sourceUrn ++ "." ++ sourceColumn ++
    " -> " ++ targetUrn ++ "." ++ targetColumn
  requireRead (endpointIs (getD path "source" .null) sourceUrn sourceColumn &&
    endpointIs (getD path "target" .null) targetUrn targetColumn &&
    getD (getD path "metadata" .null) "direction" .null = .str "downstream") mismatch
  match path, asList? (getD path "paths" .null), asInt? (getD path "pathCount" .null) with
  | .obj members, some paths, some count => do
    requireRead (count = paths.length && 1 ≤ count) mismatch
    paths.forM (checkPath (r.schemaFieldUrn sourceUrn sourceColumn)
      (r.schemaFieldUrn targetUrn targetColumn))
    return members
  | _, _, _ => failRead mismatch

def checkLineage (lineage : List Found) : Result Unit := do
  let degrees := lineage.map (·.2.1)
  requireRead (lineage.length = 3 && degrees.dedup.length = 3 &&
      ContextData.sameSet degrees ["1", "2", "3+"])
    "LineageTX requires exactly one consumer at each degree 1, 2, and 3+"
  requireRead ((lineage.map (·.1)).dedup.length = 3) "consumer URNs must be unique"

/-- The entities of the answer by URN; the last of a repeated URN counts. -/
def entitiesByUrn (allUrns : List String) (payload : Json) : Result (Dict Json) := do
  let entities := (asList? payload).getD [payload]
  requireRead (entities.all fun e => isObj e && !truthy (getD e "error" .null))
    "get_entities failed for at least one impacted asset"
  let byUrn := entities.foldl (fun d e =>
    match urnOf? e with
    | some urn => d.set urn e
    | none => d) Dict.empty
  let missing := sortedSet (allUrns.filter fun urn => !byUrn.keys.contains urn)
  requireRead (ContextData.sameSet allUrns byUrn.keys)
    ("get_entities omitted impacted assets: " ++ ", ".intercalate missing)
  return byUrn

def loadPath (r : Reader) (sourceUrn sourceColumn urn column : String) :
    ReadM (List (String × Json)) := do
  let path ← r.callOne "get_lineage_paths_between" (.obj [
    ("source_urn", .str sourceUrn), ("target_urn", .str urn),
    ("source_column", .str sourceColumn), ("target_column", .str column),
    ("direction", .str "downstream")])
  r.validatePathEvidence sourceUrn sourceColumn urn column path

def loadConsumer (r : Reader) (sourceUrn sourceColumn : String)
    (schemas : Dict (List SchemaField)) (found : Found) : ReadM ConsumerLineage := do
  let schema := (schemas.get? found.1).getD []
  let missing := sortedSet (found.2.2.filter fun c => !(schema.map (·.fieldPath)).contains c)
  requireRead (missing = [])
    (s!"lineage referenced columns absent from {found.1}: " ++ ", ".intercalate missing)
  let evidence ← found.2.2.mapM (r.loadPath sourceUrn sourceColumn found.1)
  return { urn := found.1, degree := found.2.1, columns := found.2.2, pathEvidence := evidence }

/-- One turn of the comprehension that builds the assets. -/
def addAsset (schemas : Dict (List SchemaField)) (byUrn : Dict Json) (assets : Dict Asset)
    (urn : String) : Result (Dict Asset) := do
  let governance ← extractGovernance py ((byUrn.get? urn).getD .null)
  return assets.set urn { urn, schema := (schemas.get? urn).getD [], governance }

def checkOwners (assets : Dict Asset) (urn : String) : Result Unit :=
  requireRead ((assets.get? urn).any fun a => a.governance.ownerUrns.length == 1)
    s!"consumer {urn} must have exactly one accountable DataHub owner"

/-- The end of `load`, after the last call. -/
def buildContext (r : Reader) (sourceUrn sourceColumn replacementColumn : String)
    (schemas : Dict (List SchemaField)) (byUrn : Dict Json) (consumers : List ConsumerLineage)
    (traces : List Json) : Result ContextData := do
  let consumerUrns := consumers.map (·.urn)
  let assets ← (sourceUrn :: consumerUrns).foldlM (addAsset py schemas byUrn) Dict.empty
  consumerUrns.forM (checkOwners assets)
  match assets.get? sourceUrn with
  | none => raise .keyError sourceUrn
  | some source =>
    ContextData.postInit py {
      sourceUrn, sourceColumn, replacementColumn, source, consumers, assets
      toolTraces := traces, transport := r.transport, discoveryComplete := true
      impactFingerprint := computeImpactFingerprint py sourceUrn sourceColumn replacementColumn
        consumers assets }

/-- `buildContext` passes the constructor the fingerprint that it computes. -/
theorem buildContext_eq (r : Reader) (sourceUrn sourceColumn replacementColumn : String)
    (schemas : Dict (List SchemaField)) (byUrn : Dict Json) (consumers : List ConsumerLineage)
    (traces : List Json) :
    r.buildContext py sourceUrn sourceColumn replacementColumn schemas byUrn consumers traces =
      (do
        let consumerUrns := consumers.map (·.urn)
        let assets ← (sourceUrn :: consumerUrns).foldlM (addAsset py schemas byUrn) Dict.empty
        consumerUrns.forM (checkOwners assets)
        match assets.get? sourceUrn with
        | none => raise .keyError sourceUrn
        | some source =>
          let c : ContextData := {
            sourceUrn, sourceColumn, replacementColumn, source, consumers, assets
            toolTraces := traces, transport := r.transport, discoveryComplete := true
            impactFingerprint := computeImpactFingerprint py sourceUrn sourceColumn
              replacementColumn consumers assets }
          c.checkStructure >>= fun _ => .ok c) := by
  unfold buildContext
  refine bind_congr fun assets => bind_congr fun _ => ?_
  cases assets.get? sourceUrn with
  | none => rfl
  | some source => exact ContextData.postInit_of_computed py rfl

def addSchema (r : Reader) (schemas : Dict (List SchemaField)) (urn : String) :
    ReadM (Dict (List SchemaField)) := do
  return schemas.set urn (← r.schema py urn)

def load (r : Reader) (sourceUrn sourceColumn replacementColumn : String) : ReadM ContextData := do
  let sourceSchema ← r.schema py sourceUrn
  let fields := sourceSchema.map (·.fieldPath)
  requireRead (fields.contains sourceColumn)
    s!"source schema does not contain migration column {sourceColumn}"
  requireRead (fields.contains replacementColumn)
    s!"source schema does not contain replacement column {replacementColumn}"
  let lineage ← r.columnLineage py sourceUrn sourceColumn
  checkLineage lineage
  let consumerUrns := lineage.map (·.1)
  let allUrns := sourceUrn :: consumerUrns
  let payload ← r.callOne "get_entities" (.obj [("urns", .arr (allUrns.map .str))])
  let byUrn ← entitiesByUrn allUrns payload
  let schemas ← consumerUrns.foldlM (r.addSchema py) (Dict.empty.set sourceUrn sourceSchema)
  let consumers ← lineage.mapM (r.loadConsumer sourceUrn sourceColumn schemas)
  let traces := (← get).traces
  r.buildContext py sourceUrn sourceColumn replacementColumn schemas byUrn consumers traces

/-- `assert_impact_unchanged`: a new read that must have the frozen fingerprint. -/
def assertImpactUnchanged (r : Reader) (frozen : ContextData) : ReadM ContextData := do
  let refreshed ← r.load py frozen.sourceUrn frozen.sourceColumn frozen.replacementColumn
  require (refreshed.impactFingerprint = frozen.impactFingerprint) .impactFingerprintChanged
    "DataHub impact changed after prepare; commit must be aborted and rediscovered"
  return refreshed

/-- The answers of a small server for evaluations: every asset has the columns `old`
and `new`, and the consumers are listed in the given order, by the column query if
`columns` holds and by the dataset query otherwise. -/
def sampleAnswer (columns : Bool) (consumers : List (String × Nat)) (name : String)
    (arguments : Json) : Json :=
  let field (path : String) : Json := .obj [("fieldPath", .str path)]
  let search (items : List Json) : Json := .obj [("downstreams", .obj [
    ("searchResults", .arr items), ("total", .int items.length), ("returned", .int items.length),
    ("hasMore", .bool false), ("offset", .int 0)])]
  let node (urn : Json) (column : Json) : Json := .obj [("type", .str "SCHEMA_FIELD"),
    ("urn", .str (py.str urn ++ "#" ++ py.str column))]
  let value (key : String) := getD arguments key .null
  if name = "list_schema_fields" then
    .obj [("fields", .arr [field "old", field "new"]), ("totalFields", .int 2),
      ("returned", .int 2), ("remainingCount", .int 0), ("offset", .int 0)]
  else if name = "get_lineage" then
    if columns == (value "column" ≠ .null) then
      search (consumers.map fun c => .obj [("entity", .obj [("urn", .str c.1)]),
        ("degree", .int c.2), ("lineageColumns", .arr [.str "old"])])
    else search []
  else if name = "get_entities" then
    .arr ((("s", 0) :: consumers).map fun c => .obj [("urn", .str c.1),
      ("ownership", .obj [("owners", .arr [.str "urn:li:corpuser:o"])])])
  else
    .obj [
      ("source", .obj [("urn", value "source_urn"), ("column", value "source_column")]),
      ("target", .obj [("urn", value "target_urn"), ("column", value "target_column")]),
      ("metadata", .obj [("direction", .str "downstream")]), ("pathCount", .int 1),
      ("paths", .arr [.obj [("path", .arr [node (value "source_urn") (value "source_column"),
        node (value "target_urn") (value "target_column")])]])]

theorem one_le_ten : 1 ≤ 10 := by decide

def sample (columns : Bool) (consumers : List (String × Nat)) : Reader where
  client _ name arguments :=
    .ok [(sampleAnswer py columns consumers name arguments, .obj [("tool", .str name)])]
  transport := "datahub-oss+official-mcp-server-datahub==0.6.0"
  pageSize := 10
  maxPages := 10
  pageSize_pos := one_le_ten
  maxPages_pos := one_le_ten
  schemaFieldUrn urn column := urn ++ "#" ++ column

end Reader
end LineageTX
