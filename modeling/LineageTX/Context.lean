import LineageTX.Library.Dict
import LineageTX.Python
import Mathlib.Data.Prod.Lex

/-! The frozen DataHub context: snapshots of assets and consumers, the extraction
of governance from an entity, and the impact fingerprint. -/
namespace LineageTX
open Library
variable (py : Python)

def lineageTxTagUrn : String := "urn:li:tag:LineageTXMigration"

def stableStyle : Json.Style := ⟨true, none, 0, 0⟩

def stableJson (j : Json) : String := Json.dumps stableStyle j

structure SchemaField where
  fieldPath : String
  nativeType : String
  nullable : Option Bool
  description : String
  deriving DecidableEq

/-- The values of a structured property: `str | float`. -/
inductive PropertyValue where
  | text (s : String)
  | number (r : FloatText)
  deriving DecidableEq

def PropertyValue.toJson : PropertyValue → Json
  | .text s => .str s
  | .number r => .float r

structure Governance where
  ownerUrns : List String
  tagUrns : List String
  structuredProperties : Dict (List PropertyValue)
  deriving DecidableEq

structure Asset where
  urn : String
  schema : List SchemaField
  governance : Governance
  deriving DecidableEq

/-- `pathEvidence` holds the members of each validated path response. -/
structure ConsumerLineage where
  urn : String
  degree : String
  columns : List String
  pathEvidence : List (List (String × Json))
  deriving DecidableEq

/-- `str(item.get(key) or default)` -/
def strOr (item : Json) (key default : String) : String :=
  let value := getD item key .null
  py.str (if truthy value then value else .str default)

/-- `result.get("paths") or []`. Only a list gives path objects. -/
def evidencePaths (result : List (String × Json)) : List Json :=
  match result.lookup "paths" with
  | some (.arr paths) => paths
  | _ => []

/-- One node of a lineage path, as the fingerprint sees it. -/
structure NodeSignature where
  type : String
  urn : String
  deriving DecidableEq

abbrev PathSignature := List NodeSignature

def NodeSignature.toJson (n : NodeSignature) : Json :=
  .obj [("type", .str n.type), ("urn", .str n.urn)]

def PathSignature.toJson (path : PathSignature) : Json := .arr (path.map NodeSignature.toJson)

def nodeSignature (item : Json) : NodeSignature := ⟨strOr py item "type" "", strOr py item "urn" ""⟩

/-- The signature of one path object, none where it has no list of nodes. -/
def pathSignature (pathObject : Json) : Option PathSignature :=
  match pathObject.get? "path" with
  | some (.arr path) => some ((path.filter isObj).map (nodeSignature py))
  | _ => none

/-- `key=_stable_json` -/
def PathSignature.sortKey (path : PathSignature) : String := stableJson path.toJson

def allSignatures (evidence : List (List (String × Json))) : List PathSignature :=
  evidence.flatMap fun result => (evidencePaths result).filterMap (pathSignature py)

def pathSignatures (evidence : List (List (String × Json))) : List PathSignature :=
  sortBy PathSignature.sortKey (allSignatures py evidence)

/-- The number in a degree such as `3+`, one million where there is none. -/
def degreeNumber (degree : String) : Nat :=
  match degree.toList.filter Char.isDigit with
  | [] => 1000000
  | digits => Nat.ofDigitChars 10 digits 0

def degreeSortKey (urn degree : String) : Lex (Nat × String) := toLex (degreeNumber degree, urn)

def isLineageTxKey (key : String) : Bool := hasSubstring key "io.lineagetx."

def nullableJson : Option Bool → Json
  | none => .null
  | some b => .bool b

def SchemaField.payload (f : SchemaField) : Json := .obj [
  ("description", .str f.description),
  ("field_path", .str f.fieldPath),
  ("native_type", .str f.nativeType),
  ("nullable", nullableJson f.nullable)]

/-- The properties that LineageTX does not write. -/
def Governance.foreignProperties (g : Governance) : Dict (List PropertyValue) :=
  g.structuredProperties.filterKeys fun key => !isLineageTxKey key

def Governance.foreignTags (g : Governance) : List String :=
  g.tagUrns.filter fun tag => tag ≠ lineageTxTagUrn

def Asset.payload (urn : String) (a : Asset) : Json := .obj [
  ("urn", .str urn),
  ("schema", .arr ((sortBy SchemaField.fieldPath a.schema).map SchemaField.payload)),
  ("owners", .arr (a.governance.ownerUrns.map .str)),
  ("tags", .arr (a.governance.foreignTags.map .str)),
  ("structured_properties", 
    .obj (a.governance.foreignProperties.map fun values => .arr (values.map (·.toJson))).val)]

def ConsumerLineage.payload (c : ConsumerLineage) : Json := .obj [
  ("urn", .str c.urn),
  ("degree", .str c.degree),
  ("columns", .arr (c.columns.map .str)),
  ("paths", .arr ((pathSignatures py c.pathEvidence).map PathSignature.toJson))]

def ConsumerLineage.sortKey (c : ConsumerLineage) : Lex (Nat × String) :=
  degreeSortKey c.urn c.degree

def impactPayload (sourceUrn sourceColumn replacementColumn : String)
    (consumers : List ConsumerLineage) (assets : Dict Asset) : Json := .obj [
  ("version", .int 1),
  ("source_urn", .str sourceUrn),
  ("source_column", .str sourceColumn),
  ("replacement_column", .str replacementColumn),
  ("assets", .arr ((sortBy Prod.fst assets.val).map fun e => e.2.payload e.1)),
  ("consumers", .arr ((sortBy ConsumerLineage.sortKey consumers).map
    (ConsumerLineage.payload py)))]

def computeImpactFingerprint (sourceUrn sourceColumn replacementColumn : String)
    (consumers : List ConsumerLineage) (assets : Dict Asset) : String :=
  py.sha256 (stableJson
    (impactPayload py sourceUrn sourceColumn replacementColumn consumers assets))

structure ContextData where
  sourceUrn : String
  sourceColumn : String
  replacementColumn : String
  source : Asset
  consumers : List ConsumerLineage
  assets : Dict Asset
  toolTraces : List Json
  transport : String
  discoveryComplete : Bool := false
  impactFingerprint : String := ""
  deriving DecidableEq

namespace ContextData

def assetUrns (d : ContextData) : List String := d.sourceUrn :: d.consumers.map (·.urn)

def recomputeImpactFingerprint (d : ContextData) : String :=
  computeImpactFingerprint py d.sourceUrn d.sourceColumn d.replacementColumn d.consumers d.assets

def degrees (d : ContextData) : List String := d.consumers.map (·.degree)

/-- `set(degrees) == {"1", "2", "3+"}` -/
def sameSet (xs ys : List String) : Bool := xs.all ys.contains && ys.all xs.contains

/-- The check of a complete discovery. -/
def checkComplete (d : ContextData) : Result Unit := do
  require (d.degrees.dedup.length = 3 && sameSet d.degrees ["1", "2", "3+"]) .valueError
    "complete discovery requires unique degrees 1, 2, and 3+"
  require (d.consumers.all fun c =>
      (d.assets.get? c.urn).any fun a => a.governance.ownerUrns.length == 1) .valueError
    "complete discovery requires exactly one owner per consumer"

/-- The checks of the constructor before it computes the fingerprint. -/
def checkStructure (d : ContextData) : Result Unit := do
  require (d.assetUrns.length = 4 && sameSet d.assetUrns d.assets.keys) .valueError
    "frozen context must contain one source and exactly three consumers"
  require (d.assets.get? d.sourceUrn = some d.source) .valueError
    "source snapshot must match the frozen assets mapping"
  onlyIf d.discoveryComplete d.checkComplete

/-- `__post_init__` -/
def postInit (d : ContextData) : Result ContextData := do
  d.checkStructure
  let computed := d.recomputeImpactFingerprint py
  require (d.impactFingerprint = "" || computed = d.impactFingerprint) .valueError
    "impact_fingerprint does not match the frozen DataHub context"
  return { d with impactFingerprint := computed }

end ContextData

/-- With the right fingerprint given, the constructor only checks the structure. -/
theorem ContextData.postInit_of_computed {d : ContextData}
    (h : d.impactFingerprint = d.recomputeImpactFingerprint py) :
    d.postInit py = d.checkStructure >>= fun _ => .ok d := by
  unfold postInit
  cases d.checkStructure with
  | error e => rfl
  | ok u =>
    simp only [bind, Except.bind, require, ← h, decide_true, Bool.or_true, if_true]
    rfl

/-- A constructed context: data that pass the checks of the constructor. -/
abbrev MigrationContext := { d : ContextData // d.postInit py = .ok d }

/-- `(value or {}).get(key)` -/
def orGet (value : Json) (key : String) : Result Json :=
  if truthy value then
    match value with
    | .obj m => .ok ((m.lookup key).getD .null)
    | _ => raise .attributeError s!"object has no attribute 'get'"
  else .ok .null

/-- What `for item in (value or [])` runs through. -/
def orItems (value : Json) : Result (List Json) :=
  if truthy value then iterate value else .ok []

/-- `value.get("urn")` if that is a text. -/
def urnOf? (value : Json) : Option String := (value.get? "urn").bind asStr?

def associationUrn (value : Json) (key : String) : Option String :=
  match value with
  | .str s => some s
  | .obj _ =>
    match getD value key .null with
    | .str s => some s
    | .obj m => ((urnOf? (.obj m)).or (urnOf? value))
    | _ => urnOf? value
  | _ => none

/-- `==` of two property values. -/
def sameValue : PropertyValue → PropertyValue → Bool
  | .number r, .number t =>
    r.val ≠ "NaN" && (r = t || (["0.0", "-0.0"].contains r.val && ["0.0", "-0.0"].contains t.val))
  | a, b => a = b

/-- `tuple(dict.fromkeys(values))` -/
def fromKeys (values : List PropertyValue) : List PropertyValue :=
  values.foldl (fun acc v => if acc.any (sameValue v) then acc else acc ++ [v]) []

/-- One turn of the value loop of an entry. -/
def entryValue (value : Json) : Result (Option PropertyValue) :=
  match value.get? "stringValue" with
  | some s => .ok (some (.text (py.str s)))
  | none =>
    match value.get? "numberValue" with
    | some n => do return some (.number (← py.toFloat n))
    | none => .ok none

def entryValues (entry : Json) : Result (List PropertyValue) := do
  let values ← (← orItems (getD entry "values" .null)).mapM (entryValue py)
  let entities ← orItems (getD entry "valueEntities" .null)
  return fromKeys (values.filterMap id ++ entities.filterMap fun e => (urnOf? e).map .text)

/-- The keys under which the values of an entry are put, none if it is skipped. -/
def entryKeys (entry : Json) : Result (List String) :=
  if isObj entry then do
    let raw := getD entry "structuredProperty" .null
    let definition := if truthy raw then raw else .obj []
    let propertyUrn := getD definition "urn" .null
    let qualifiedName ← orGet (getD definition "definition" .null) "qualifiedName"
    match if truthy qualifiedName then qualifiedName else propertyUrn with
    | .str key => return key :: (asStr? propertyUrn).toList
    | _ => return []
  else return []

/-- One turn of the property loop. -/
def addEntry (properties : Dict (List PropertyValue)) (entry : Json) :
    Result (Dict (List PropertyValue)) := do
  match ← entryKeys entry with
  | [] => return properties
  | keys =>
    let values ← entryValues py entry
    return keys.foldl (fun d key => d.set key values) properties

/-- `((entity.get(outer) or {}).get(inner) or [])` -/
def entityItems (entity : Json) (outer inner : String) : Result (List Json) := do
  orItems (← orGet (getD entity outer .null) inner)

def extractGovernance (entity : Json) : Result Governance := do
  let owners ← entityItems entity "ownership" "owners"
  let tags ← entityItems entity "tags" "tags"
  let entries ← entityItems entity "structuredProperties" "properties"
  let properties ← entries.foldlM (addEntry py) Dict.empty
  return {
    ownerUrns := sortedSet (owners.filterMap fun item => associationUrn item "owner")
    tagUrns := sortedSet (tags.filterMap fun item => associationUrn item "tag")
    structuredProperties := properties }

end LineageTX
