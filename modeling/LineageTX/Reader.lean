import LineageTX.Context

/-! The DataHub reader. The MCP client is an oracle that answers the n-th call of a
run with envelopes or an exception; a pager is a recursion on the pages that its
page limit leaves. -/
namespace LineageTX
open Library
variable (py : Python)

/-- `isinstance(value, int)`, which holds of the truth values too. -/
def asInt? : Json → Option Int
  | .int n => some n
  | .bool b => some (if b then 1 else 0)
  | _ => none

/-- `value == n` -/
def eqInt (j : Json) (n : Int) : Bool :=
  match j with
  | .float r => r.val = n.repr ++ ".0" || (n = 0 && r.val = "-0.0")
  | j => asInt? j = some n

def asList? : Json → Option (List Json)
  | .arr xs => some xs
  | _ => none

def asBool? : Json → Option Bool
  | .bool b => some b
  | _ => none

structure Reader where
  client : Nat → String → Json → Result (List (Json × Json))
  transport : String
  pageSize : Nat
  maxPages : Nat
  pageSize_pos : 1 ≤ pageSize
  maxPages_pos : 1 ≤ maxPages
  /-- `make_schema_field_urn` of the DataHub library. -/
  schemaFieldUrn : String → String → String

/-- The calls made so far in a run and the traces they left. -/
structure ReadState where
  calls : Nat := 0
  traces : List Json := []

abbrev ReadM := StateT ReadState Result

def failRead {α : Type} (msg : String) : Result α := raise .dataHubContextReadError msg

def requireRead (check : Bool) (msg : String) : Result Unit :=
  require check .dataHubContextReadError msg

/-- The one envelope of a response. -/
def oneEnvelope (name : String) (response : List (Json × Json)) : Result (Json × Json) :=
  match response with
  | [envelope] => .ok envelope
  | _ => failRead s!"MCP {name} returned {response.length} envelopes; expected one"

namespace Reader

def callOne (r : Reader) (name : String) (arguments : Json) : ReadM Json := fun s => do
  let (payload, trace) ← oneEnvelope name (← r.client s.calls name arguments)
  return (payload, { calls := s.calls + 1, traces := s.traces ++ [trace] })

/-- The metadata and the items of one page. -/
structure Page where
  items : List Json
  total : Int
  returned : Int
  more : Json

def schemaPage (offset : Int) (payload : Json) : Result Page := do
  requireRead (isObj payload) "list_schema_fields returned a non-object"
  let page : Option Page := do
    let items ← asList? (getD payload "fields" .null)
    let total ← asInt? (getD payload "totalFields" .null)
    let returned ← asInt? (getD payload "returned" .null)
    let remaining ← asInt? (getD payload "remainingCount" .null)
    if eqInt (getD payload "offset" .null) offset && returned = items.length && 0 ≤ total &&
        0 ≤ remaining then
      some ⟨items, total, returned, .int remaining⟩
    else none
  match page with
  | some page => return page
  | none => failRead "list_schema_fields pagination metadata was incomplete or inconsistent"

/-- `expected_total` after a page with this total. -/
def sameTotal (msg : String) (expected : Option Int) (total : Int) : Result Unit :=
  requireRead (expected.getD total = total) msg

def schemaField (raw : Json) : Result SchemaField :=
  match raw.get? "fieldPath" with
  | some (.str path) =>
    let description := getD raw "description" .null
    .ok {
      fieldPath := path
      nativeType := strOr py raw "nativeDataType" "UNKNOWN"
      nullable := asBool? (getD raw "nullable" .null)
      description := if truthy description then py.str description
        else strOr py raw "editedDescription" "" }
  | _ => failRead "schema page contained an invalid field"

/-- The checks on the fields once the server says that none remain. -/
def finishSchema (total : Int) (fields : List SchemaField) : Result (List SchemaField) := do
  requireRead (total = fields.length)
    "list_schema_fields claimed completion before all fields arrived"
  requireRead (fields.map (·.fieldPath)).Nodup "schema pagination returned duplicate fields"
  return fields

/-- What one turn of a pager decides: the result, or the state of the next turn. -/
inductive Turn (α β : Type) where
  | done (result : β)
  | next (offset total : Int) (found : α)

def schemaTurn (offset : Int) (expected : Option Int) (fields : List SchemaField)
    (payload : Json) : Result (Turn (List SchemaField) (List SchemaField)) := do
  let page ← schemaPage offset payload
  sameTotal "schema changed while it was being paged" expected page.total
  let fields := fields ++ (← page.items.mapM (schemaField py))
  let offset := offset + page.returned
  if page.more = .int 0 then
    return .done (← finishSchema page.total fields)
  else do
    requireRead (page.returned ≠ 0 && offset < page.total)
      "schema pagination made no forward progress"
    return .next offset page.total fields

def schemaLoop (r : Reader) (urn : String) : Nat → Int → Option Int → List SchemaField →
    ReadM (List SchemaField)
  | 0, _, _, _ => failRead "schema pagination exceeded the safety page limit"
  | pages + 1, offset, expected, fields => do
    let payload ← r.callOne "list_schema_fields"
      (.obj [("urn", .str urn), ("limit", .int r.pageSize), ("offset", .int offset)])
    match ← schemaTurn py offset expected fields payload with
    | .done fields => return fields
    | .next offset total fields => schemaLoop r urn pages offset (some total) fields

def schema (r : Reader) (urn : String) : ReadM (List SchemaField) :=
  schemaLoop py r urn r.maxPages 0 none []

/-- One consumer found by a lineage pager: URN, degree and columns. -/
abbrev Found := String × String × List String

/-- The metadata check that both lineage pagers share. -/
def lineagePage (msg : String) (offset : Int) (direction : Json) : Result Page :=
  let page : Option Page := do
    let items ← asList? (getD direction "searchResults" .null)
    let total ← asInt? (getD direction "total" .null)
    let returned ← asInt? (getD direction "returned" .null)
    let hasMore ← asBool? (getD direction "hasMore" .null)
    if 0 ≤ total && eqInt (getD direction "offset" .null) offset && returned = items.length then
      some ⟨items, total, returned, .bool hasMore⟩
    else none
  match page with
  | some page => .ok page
  | none => failRead msg

def plusDegree (degree : String) : String := if degree = "3" then "3+" else degree

def datasetResult (sourceColumn : String) (item : Json) : Result Found :=
  match (item.get? "entity").bind urnOf?, getD item "degree" .null with
  | none, _ | some "", _ | _, .null =>
    failRead "dataset lineage page contained an invalid result"
  | some urn, degree => .ok (urn, plusDegree (py.str degree), [sourceColumn])

def finishDataset (sourceColumn : String) (offset total : Int) (discovered : List Found) :
    Result (List Found) := do
  requireRead (offset = total && discovered ≠ [])
    s!"DataHub found no downstream lineage for {sourceColumn}"
  requireRead (discovered.map (·.1)).Nodup
    "dataset lineage pagination returned duplicate assets"
  return discovered

/-- `payload.get("downstreams")` where it is an object. -/
def downstreams (msg : String) (payload : Json) : Result Json :=
  let direction := getD payload "downstreams" .null
  if isObj direction then .ok direction else failRead msg

def datasetTurn (sourceColumn : String) (offset : Int) (expected : Option Int)
    (discovered : List Found) (payload : Json) : Result (Turn (List Found) (List Found)) := do
  let direction ← downstreams "dataset-level get_lineage omitted downstream results" payload
  let page ← lineagePage
    "dataset-level lineage pagination metadata was incomplete or inconsistent" offset direction
  sameTotal "dataset lineage changed while it was being paged" expected page.total
  let discovered := discovered ++ (← page.items.mapM (datasetResult py sourceColumn))
  let offset := offset + page.returned
  if page.total ≤ offset then
    return .done (← finishDataset sourceColumn offset page.total discovered)
  else do
    requireRead (page.returned ≠ 0) "dataset lineage pagination made no forward progress"
    return .next offset page.total discovered

def datasetLoop (r : Reader) (sourceUrn sourceColumn : String) : Nat → Int → Option Int → List Found →
    ReadM (List Found)
  | 0, _, _, _ => failRead "dataset lineage pagination exceeded the safety page limit"
  | pages + 1, offset, expected, discovered => do
    let payload ← r.callOne "get_lineage" (.obj [
      ("urn", .str sourceUrn), ("upstream", .bool false), ("max_hops", .int 3),
      ("max_results", .int (offset + r.pageSize)), ("offset", .int offset)])
    match ← datasetTurn py sourceColumn offset expected discovered payload with
    | .done found => return found
    | .next offset total found => datasetLoop r sourceUrn sourceColumn pages offset (some total) found

def datasetLineage (r : Reader) (sourceUrn sourceColumn : String) : ReadM (List Found) :=
  datasetLoop py r sourceUrn sourceColumn r.maxPages 0 none []

/-- `value in (None, 0)`, which `value in (None, False)` amounts to as well. -/
def noneOrZero (j : Json) : Bool := j = .null || eqInt j 0

/-- The server answers that the column has no lineage of its own. -/
def noColumnLineage (offset : Int) (direction : Json) : Bool :=
  let results := getD direction "searchResults" .null
  offset = 0 && eqInt (getD direction "total" .null) 0 && (results = .null || results = .arr []) &&
    noneOrZero (getD direction "returned" .null) && noneOrZero (getD direction "hasMore" .null) &&
    noneOrZero (getD direction "offset" .null)

def columnResult (item : Json) : Result Found := do
  requireRead (isObj item) "lineage page contained an invalid result"
  let entity := getD item "entity" .null
  match urnOf? entity, getD item "lineageColumns" .null with
  | some urn, .arr (column :: columns) => do
    let names := (column :: columns).filterMap asStr?
    requireRead (names.length = columns.length + 1 && names.all (· ≠ ""))
      "lineageColumns contained an invalid value"
    return (urn, plusDegree (strOr py item "degree" "unknown"), names)
  | _, _ => failRead "column-level lineage result omitted its entity or lineageColumns"

/-- Merging one result: a repeated consumer adds its columns. -/
def mergeResult (merged : Dict (String × List String)) (item : Json) :
    Result (Dict (String × List String)) := do
  let (urn, degree, columns) ← columnResult py item
  match merged.get? urn with
  | none => return merged.set urn (degree, columns)
  | some (previous, known) =>
    requireRead (previous = degree) s!"lineage degree changed between pages for {urn}"
    return merged.set urn (previous, known ++ columns)

def finishColumn (sourceColumn : String) (offset total : Int)
    (merged : Dict (String × List String)) : Result (List Found) := do
  requireRead (offset = total) "get_lineage returned more results than its total"
  requireRead (merged.val ≠ []) s!"DataHub found no downstream lineage for {sourceColumn}"
  return (sortBy (fun e => degreeSortKey e.1 e.2.1) merged.val).map
    fun e => (e.1, e.2.1, sortedSet e.2.2)

/-- `none` where the server answers that the column has no lineage of its own. -/
def columnTurn (sourceColumn : String) (offset : Int) (expected : Option Int)
    (merged : Dict (String × List String)) (payload : Json) :
    Result (Option (Turn (Dict (String × List String)) (List Found))) := do
  requireRead (isObj payload) "get_lineage returned a non-object"
  let direction ← downstreams "column-level get_lineage omitted downstream results" payload
  if noColumnLineage offset direction then
    return none
  else do
    let page ← lineagePage
      "get_lineage pagination metadata was incomplete or inconsistent" offset direction
    sameTotal "lineage changed while it was being paged" expected page.total
    let merged ← page.items.foldlM (mergeResult py) merged
    let offset := offset + page.returned
    if page.total ≤ offset then
      return some (.done (← finishColumn sourceColumn offset page.total merged))
    else do
      requireRead (page.returned ≠ 0) "lineage pagination made no forward progress"
      return some (.next offset page.total merged)

def columnLoop (r : Reader) (sourceUrn sourceColumn : String) : Nat → Int → Option Int →
    Dict (String × List String) → ReadM (List Found)
  | 0, _, _, _ => failRead "lineage pagination exceeded the safety page limit"
  | pages + 1, offset, expected, merged => do
    let payload ← r.callOne "get_lineage" (.obj [
      ("urn", .str sourceUrn), ("column", .str sourceColumn), ("upstream", .bool false),
      ("max_hops", .int 3), ("max_results", .int (offset + r.pageSize)), ("offset", .int offset)])
    match ← columnTurn py sourceColumn offset expected merged payload with
    | none => r.datasetLineage py sourceUrn sourceColumn
    | some (.done found) => return found
    | some (.next offset total merged) =>
      columnLoop r sourceUrn sourceColumn pages offset (some total) merged

def columnLineage (r : Reader) (sourceUrn sourceColumn : String) : ReadM (List Found) :=
  columnLoop py r sourceUrn sourceColumn r.maxPages 0 none Dict.empty

end Reader
end LineageTX
