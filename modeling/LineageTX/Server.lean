import LineageTX.Library.Paging
import LineageTX.Reader

/-! A DataHub server whose items do not change while it is read: the schema fields
of one asset, the consumers that the column query lists and those that the dataset
query lists. Each call may list them in another order. -/
namespace LineageTX
open Library
variable (py : Python)

/-- A JSON value that the reader accepts as an item. -/
structure Item {β : Type} (read : Json → Result β) where
  json : Json
  found : β
  reads : read json = .ok found

structure Server (sourceColumn : String) where
  fields : Listing fun i : Item (Reader.schemaField py) => i.found.fieldPath
  columns : Listing fun i : Item (Reader.columnResult py) => i.found.1
  datasets : Listing fun i : Item (Reader.datasetResult py sourceColumn) => i.found.1
  remaining : Nat → Nat
  hasMore : Nat → Bool
  trace : Nat → Json
  pageSize : Nat
  maxPages : Nat
  pageSize_pos : 1 ≤ pageSize
  maxPages_pos : 1 ≤ maxPages

def natArgument (arguments : Json) (key : String) : Nat :=
  match getD arguments key .null with
  | .int n => n.toNat
  | _ => 0

/-- A page of schema fields under a truthful total. -/
def fieldsAnswer (total offset : Nat) (page : List Json) (remaining : Nat) : Json :=
  .obj [("fields", .arr page), ("totalFields", .int total), ("returned", .int page.length),
    ("remainingCount", .int remaining), ("offset", .int offset)]

/-- A page of downstream results under a truthful total. -/
def searchPage (total offset : Nat) (page : List Json) (hasMore : Bool) : Json :=
  .obj [("searchResults", .arr page), ("total", .int total), ("returned", .int page.length),
    ("hasMore", .bool hasMore), ("offset", .int offset)]

def searchAnswer (total offset : Nat) (page : List Json) (hasMore : Bool) : Json :=
  .obj [("downstreams", searchPage total offset page hasMore)]

namespace Server
variable {py} {sourceColumn : String} (sv : Server py sourceColumn)

def answer (n : Nat) (name : String) (arguments : Json) : Json :=
  let offset := natArgument arguments "offset"
  let window := natArgument arguments "max_results" - offset
  if name = "list_schema_fields" then
    fieldsAnswer sv.fields.items.length offset
      ((sv.fields.page n offset (natArgument arguments "limit")).map (·.json)) (sv.remaining n)
  else if getD arguments "column" .null = .null then
    searchAnswer sv.datasets.items.length offset
      ((sv.datasets.page n offset window).map (·.json)) (sv.hasMore n)
  else
    searchAnswer sv.columns.items.length offset
      ((sv.columns.page n offset window).map (·.json)) (sv.hasMore n)

/-- A reader connected to the server. -/
def reader (transport : String) (schemaFieldUrn : String → String → String) : Reader where
  client n name arguments := .ok [(sv.answer n name arguments, sv.trace n)]
  transport
  pageSize := sv.pageSize
  maxPages := sv.maxPages
  pageSize_pos := sv.pageSize_pos
  maxPages_pos := sv.maxPages_pos
  schemaFieldUrn

/-- The consumers that the server lists, by the column query if that lists any. -/
def consumers : List String :=
  if sv.columns.items = [] then sv.datasets.keys else sv.columns.keys

end Server

theorem mapM_items {β : Type} {read : Json → Result β} (page : List (Item read)) :
    (page.map (·.json)).mapM read = .ok (page.map (·.found)) := by
  induction page with
  | nil => rfl
  | cons i page ih =>
    rw [List.map_cons, List.mapM_cons, i.reads, ih]
    rfl

theorem schemaPage_fieldsAnswer (total offset remaining : Nat) (page : List Json) :
    Reader.schemaPage offset (fieldsAnswer total offset page remaining) =
      .ok ⟨page, total, page.length, .int remaining⟩ := by
  simp [Reader.schemaPage, fieldsAnswer, requireRead, require, isObj, getD, Json.get?, asList?,
    asInt?, eqInt, List.lookup]

theorem downstreams_searchAnswer (msg : String) (total offset : Nat) (page : List Json)
    (hasMore : Bool) : Reader.downstreams msg (searchAnswer total offset page hasMore) =
      .ok (searchPage total offset page hasMore) := by
  simp [Reader.downstreams, searchAnswer, searchPage, isObj, getD, Json.get?, List.lookup]

theorem lineagePage_searchPage (msg : String) (total offset : Nat) (page : List Json)
    (hasMore : Bool) : Reader.lineagePage msg offset (searchPage total offset page hasMore) =
      .ok ⟨page, total, page.length, .bool hasMore⟩ := by
  simp [Reader.lineagePage, searchPage, getD, Json.get?, asList?, asInt?, asBool?, eqInt,
    List.lookup]

/-- Only a page of an empty listing says that the column has no lineage. -/
theorem noColumnLineage_searchPage (total offset : Nat) (page : List Json) (hasMore : Bool)
    (ht : 0 < total) :
    Reader.noColumnLineage offset (searchPage total offset page hasMore) = false := by
  have hne : total ≠ 0 := by omega
  simp [Reader.noColumnLineage, searchPage, getD, Json.get?, eqInt, asInt?, List.lookup, hne]

end LineageTX
