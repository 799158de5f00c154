import LineageTX.Server
import Mathlib.Data.List.Rotate

/-! Complete discovery. What the field pager and the dataset pager return is the
server's whole set; the column pager merges repeated consumers, and returns the
whole set exactly if its pages repeat none. -/
namespace LineageTX
open Library
variable {py : Python}

/-- What a read returned satisfies `P`, or the answers of DataHub were refused. -/
def ReadsOr {α : Type} (P : α → Prop) : Result α → Prop
  | .ok a => P a
  | .error e => e.cls = .dataHubContextReadError

section ReadsOr
variable {α β : Type} {P : α → Prop} {Q : β → Prop}

theorem ReadsOr.bind {x : Result α} {f : α → Result β} (hx : ReadsOr P x)
    (hf : ∀ a, P a → ReadsOr Q (f a)) : ReadsOr Q (x >>= f) := by
  cases x with
  | ok a => exact hf a hx
  | error e => exact hx

theorem ReadsOr.mono {P' : α → Prop} {x : Result α} (hx : ReadsOr P x) (h : ∀ a, P a → P' a) :
    ReadsOr P' x := by
  cases x with
  | ok a => exact h a hx
  | error e => exact hx

theorem readsOr_require (check : Bool) (msg : String) :
    ReadsOr (fun _ => check = true) (requireRead check msg) := by
  cases check with
  | true => rfl
  | false => rfl

theorem readsOr_ok {a : α} (h : P a) : ReadsOr P (.ok a) := h

theorem readsOr_fail (msg : String) : ReadsOr P (failRead msg) := rfl

end ReadsOr

theorem read_lift_bind {α β : Type} (x : Result α) (f : α → ReadM β) (s : ReadState) :
    ((liftM x : ReadM α) >>= f) s = x >>= fun a => f a s := by
  cases x <;> rfl

namespace Server
variable {sourceColumn : String} (sv : Server py sourceColumn) (transport : String)
  (schemaFieldUrn : String → String → String)

/-- The state after a call. -/
def called (s : ReadState) : ReadState := ⟨s.calls + 1, s.traces ++ [sv.trace s.calls]⟩

theorem call_bind {α : Type} (name : String) (arguments : Json) (f : Json → ReadM α)
    (s : ReadState) :
    ((sv.reader transport schemaFieldUrn).callOne name arguments >>= f) s =
      f (sv.answer s.calls name arguments) (sv.called s) := rfl

@[simp] theorem reader_pageSize : (sv.reader transport schemaFieldUrn).pageSize = sv.pageSize := rfl

theorem answer_fields (n o : Nat) (urn : String) :
    sv.answer n "list_schema_fields"
      (.obj [("urn", .str urn), ("limit", .int sv.pageSize), ("offset", .int o)]) =
    fieldsAnswer sv.fields.items.length o ((sv.fields.page n o sv.pageSize).map (·.json))
      (sv.remaining n) := by
  simp [answer, natArgument, getD, Json.get?, List.lookup]

theorem answer_datasets (n o : Nat) (urn : String) :
    sv.answer n "get_lineage" (.obj [("urn", .str urn), ("upstream", .bool false),
      ("max_hops", .int 3), ("max_results", .int (o + sv.pageSize)), ("offset", .int o)]) =
    searchAnswer sv.datasets.items.length o ((sv.datasets.page n o sv.pageSize).map (·.json))
      (sv.hasMore n) := by
  have hwindow : ((o : Int) + sv.pageSize).toNat - o = sv.pageSize := by omega
  simp [answer, natArgument, getD, Json.get?, List.lookup, hwindow]

theorem answer_columns (n o : Nat) (urn column : String) :
    sv.answer n "get_lineage" (.obj [("urn", .str urn), ("column", .str column),
      ("upstream", .bool false), ("max_hops", .int 3), ("max_results", .int (o + sv.pageSize)),
      ("offset", .int o)]) =
    searchAnswer sv.columns.items.length o ((sv.columns.page n o sv.pageSize).map (·.json))
      (sv.hasMore n) := by
  have hwindow : ((o : Int) + sv.pageSize).toNat - o = sv.pageSize := by omega
  simp [answer, natArgument, getD, Json.get?, List.lookup, hwindow]

end Server

namespace Server
variable {sourceColumn : String} (sv : Server py sourceColumn) (transport : String)
  (schemaFieldUrn : String → String → String)

/-! ### The field pager -/

theorem schemaTurn_page (total o remaining : Nat) (expected : Option Int)
    (fields : List SchemaField) (page : List (Item (Reader.schemaField py))) :
    ReadsOr (fun
      | .done result => result = fields ++ page.map (·.found) ∧ result.length = total ∧
          (result.map (·.fieldPath)).Nodup
      | .next o' _ found => o' = o + page.length ∧ found = fields ++ page.map (·.found))
      (Reader.schemaTurn py o expected fields
        (fieldsAnswer total o (page.map (·.json)) remaining)) := by
  simp only [Reader.schemaTurn, schemaPage_fieldsAnswer, ok_bind, mapM_items, List.length_map]
  refine (readsOr_require _ _).bind fun _ _ => ?_
  split
  · refine ReadsOr.bind (P := fun result => result = fields ++ page.map (·.found) ∧
      result.length = total ∧ (result.map SchemaField.fieldPath).Nodup) ?_ fun _ h => h
    refine (readsOr_require _ _).bind fun _ hlen => (readsOr_require _ _).bind fun _ hn => ?_
    exact ⟨rfl, by exact_mod_cast (of_decide_eq_true hlen).symm, of_decide_eq_true hn⟩
  · exact (readsOr_require _ _).bind fun _ _ => ⟨rfl, rfl⟩

theorem schemaLoop_complete (urn : String) (count : Nat) {o : Nat} {expected : Option Int}
    {fields : List SchemaField} {s : ReadState}
    (hsub : fields.map (·.fieldPath) ⊆ sv.fields.keys) :
    ReadsOr (fun p => (p.1.map (·.fieldPath)).Perm sv.fields.keys)
      ((sv.reader transport schemaFieldUrn).schemaLoop py urn count o expected fields s) := by
  induction count generalizing o expected fields s with
  | zero => rfl
  | succ count ih =>
    have hpage : (fields ++ (sv.fields.page s.calls o sv.pageSize).map (·.found)).map
        SchemaField.fieldPath ⊆ sv.fields.keys := by
      rw [List.map_append, List.append_subset, List.map_map]
      exact ⟨hsub, List.map_subset _ fun _ h => Listing.mem_of_mem_page h⟩
    rw [Reader.schemaLoop, call_bind, read_lift_bind, reader_pageSize, answer_fields]
    refine (schemaTurn_page _ _ _ _ _ _).bind fun turn hturn => ?_
    cases turn with
    | done result =>
      obtain ⟨rfl, hlen, hn⟩ := hturn
      exact Listing.perm_keys hpage hn (by simpa using hlen.ge)
    | next o' total' found =>
      obtain ⟨rfl, rfl⟩ := hturn
      exact_mod_cast ih hpage

/-! ### The dataset pager -/

theorem datasetTurn_page (total o : Nat) (hasMore : Bool) (expected : Option Int)
    (found : List Reader.Found) (page : List (Item (Reader.datasetResult py sourceColumn))) :
    ReadsOr (fun
      | .done result => result = found ++ page.map (·.found) ∧ o + page.length = total ∧
          (result.map (·.1)).Nodup
      | .next o' _ found' => o' = o + page.length ∧ found' = found ++ page.map (·.found))
      (Reader.datasetTurn py sourceColumn o expected found
        (searchAnswer total o (page.map (·.json)) hasMore)) := by
  simp only [Reader.datasetTurn, downstreams_searchAnswer, lineagePage_searchPage, ok_bind,
    mapM_items, List.length_map]
  refine (readsOr_require _ _).bind fun _ _ => ?_
  split
  · refine ReadsOr.bind (P := fun result => result = found ++ page.map (·.found) ∧
      o + page.length = total ∧ (result.map Prod.fst).Nodup) ?_ fun _ h => h
    refine (readsOr_require _ _).bind fun _ hlen => (readsOr_require _ _).bind fun _ hn => ?_
    simp only [Bool.and_eq_true, decide_eq_true_eq] at hlen
    exact ⟨rfl, by exact_mod_cast hlen.1, of_decide_eq_true hn⟩
  · exact (readsOr_require _ _).bind fun _ _ => ⟨rfl, rfl⟩

theorem datasetLoop_complete (urn : String) (count : Nat) {o : Nat} {expected : Option Int}
    {found : List Reader.Found} {s : ReadState} (hlen : found.length = o)
    (hsub : found.map (·.1) ⊆ sv.datasets.keys) :
    ReadsOr (fun p => (p.1.map (·.1)).Perm sv.datasets.keys)
      ((sv.reader transport schemaFieldUrn).datasetLoop py urn sourceColumn count o expected
        found s) := by
  induction count generalizing o expected found s with
  | zero => rfl
  | succ count ih =>
    have hpage : (found ++ (sv.datasets.page s.calls o sv.pageSize).map (·.found)).map Prod.fst ⊆
        sv.datasets.keys := by
      rw [List.map_append, List.append_subset, List.map_map]
      exact ⟨hsub, List.map_subset _ fun _ h => Listing.mem_of_mem_page h⟩
    rw [Reader.datasetLoop, call_bind, read_lift_bind, reader_pageSize, answer_datasets]
    refine (datasetTurn_page _ _ _ _ _ _).bind fun turn hturn => ?_
    cases turn with
    | done result =>
      obtain ⟨rfl, htotal, hn⟩ := hturn
      exact Listing.perm_keys hpage hn (by simp [hlen, htotal])
    | next o' total' found' =>
      obtain ⟨rfl, rfl⟩ := hturn
      exact_mod_cast ih (by simp [hlen]) hpage

/-! ### The column pager -/

/-- The dictionary holds the consumers read so far, each with its own degree. -/
structure Merged (read : List (Item (Reader.columnResult py)))
    (merged : Dict (String × List String)) : Prop where
  names : ∀ urn, urn ∈ merged.keys ↔ urn ∈ read.map (·.found.1)
  degrees : ∀ urn e, merged.get? urn = some e →
    ∃ i ∈ sv.columns.items, i.found.1 = urn ∧ i.found.2.1 = e.1

variable {sv} {read : List (Item (Reader.columnResult py))} {merged : Dict (String × List String)}

theorem Merged.set (h : sv.Merged read merged) {i : Item (Reader.columnResult py)}
    (hi : i ∈ sv.columns.items) (columns : List String) :
    sv.Merged (read ++ [i]) (merged.set i.found.1 (i.found.2.1, columns)) where
  names urn := by
    rw [Dict.mem_keys_set, h.names]
    simp [or_comm, eq_comm]
  degrees urn e hget := by
    rw [Dict.get?_set] at hget
    split at hget
    · next hurn =>
      obtain ⟨⟩ := hget
      exact ⟨i, hi, hurn.symm, rfl⟩
    · exact h.degrees urn e hget

/-- A consumer that is read again has the degree that it had. -/
theorem Merged.mergeResult (h : sv.Merged read merged) {i : Item (Reader.columnResult py)}
    (hi : i ∈ sv.columns.items) :
    ∃ merged', Reader.mergeResult py merged i.json = .ok merged' ∧
      sv.Merged (read ++ [i]) merged' := by
  simp only [Reader.mergeResult, i.reads, ok_bind]
  cases hget : merged.get? i.found.1 with
  | none => exact ⟨_, rfl, h.set hi _⟩
  | some e =>
    obtain ⟨j, hj, hurn, hdegree⟩ := h.degrees _ _ hget
    obtain rfl := Listing.eq_of_key_eq hj hi hurn
    obtain ⟨previous, known⟩ := e
    obtain rfl : j.found.2.1 = previous := hdegree
    exact ⟨_, by simp [requireRead, require]; rfl, h.set hi _⟩

theorem Merged.mergePage (h : sv.Merged read merged) {page : List (Item (Reader.columnResult py))}
    (hpage : page ⊆ sv.columns.items) :
    ∃ merged', (page.map (·.json)).foldlM (Reader.mergeResult py) merged = .ok merged' ∧
      sv.Merged (read ++ page) merged' := by
  induction page generalizing read merged with
  | nil => exact ⟨merged, rfl, by simpa using h⟩
  | cons i page ih =>
    obtain ⟨hi, hrest⟩ := List.cons_subset.mp hpage
    obtain ⟨mid, hmid, hm⟩ := h.mergeResult hi
    obtain ⟨merged', hfold, hm'⟩ := ih hm hrest
    refine ⟨merged', ?_, by simpa using hm'⟩
    rw [List.map_cons, List.foldlM_cons, hmid, ok_bind, hfold]

/-- The consumers of the dictionary, each once, in the order of their degrees. -/
theorem Merged.finishColumn (sourceColumn : String) (h : sv.Merged read merged) (hne : read ≠ []) (total : Nat) :
    ∃ found, Reader.finishColumn sourceColumn total total merged = .ok found ∧
      (found.map (·.1)).Nodup ∧ ∀ urn, urn ∈ found.map (·.1) ↔ urn ∈ read.map (·.found.1) := by
  have hmerged : merged.val ≠ [] := by
    obtain ⟨i, hi⟩ := List.exists_mem_of_ne_nil read hne
    have hkey := (h.names i.found.1).mpr (List.mem_map_of_mem hi)
    rintro hnil
    simp [Dict.keys, hnil] at hkey
  refine ⟨_, by simp [Reader.finishColumn, requireRead, require, hmerged, ok_bind]; rfl, ?_⟩
  have hperm := (sortBy_perm (fun e => degreeSortKey e.1 e.2.1) merged.val).map Prod.fst
  rw [List.map_map]
  exact ⟨hperm.nodup_iff.mpr merged.property, fun urn => hperm.mem_iff.trans (h.names urn)⟩

/-- One turn of the column pager, once the results of its page are merged. -/
theorem columnTurn_of_merge {total o : Nat} (hasMore : Bool) {expected : Option Int}
    {merged' : Dict (String × List String)} {page : List (Item (Reader.columnResult py))}
    (hfold : (page.map (·.json)).foldlM (Reader.mergeResult py) merged = .ok merged')
    (hpos : 0 < page.length) (htotal : o + page.length ≤ total)
    (hexp : expected.getD total = total) :
    Reader.columnTurn py sourceColumn o expected merged
        (searchAnswer total o (page.map (·.json)) hasMore) =
      if o + page.length = total then
        Reader.finishColumn sourceColumn total total merged' >>= fun found =>
          .ok (some (.done found))
      else .ok (some (.next ((o + page.length : Nat) : Int) total merged')) := by
  simp only [Reader.columnTurn, downstreams_searchAnswer, lineagePage_searchPage, ok_bind,
    noColumnLineage_searchPage _ _ _ _ (show 0 < total by omega), hfold, List.length_map]
  have hobj : isObj (searchAnswer total o (page.map (·.json)) hasMore) = true := rfl
  simp only [hobj, Reader.sameTotal, hexp, requireRead, require, decide_true, if_true, ok_bind]
  rw [if_neg (by simp)]
  by_cases hlast : o + page.length = total
  · have hsum : (o : Int) + page.length = total := by omega
    rw [if_pos hlast, if_pos hsum.ge, hsum]
    rfl
  · have hmore : ¬(total : Int) ≤ o + page.length := by omega
    have hmoved : decide ((page.length : Int) ≠ 0) = true := decide_eq_true (by omega)
    rw [if_neg hlast, if_neg hmore, if_pos hmoved, ok_bind]
    rfl

theorem columnTurn_page {total o : Nat} (hasMore : Bool) {expected : Option Int}
    (h : sv.Merged read merged) {page : List (Item (Reader.columnResult py))}
    (hpage : page ⊆ sv.columns.items) (hpos : 0 < page.length) (htotal : o + page.length ≤ total)
    (hexp : expected.getD total = total) :
    ∃ merged', sv.Merged (read ++ page) merged' ∧
      Reader.columnTurn py sourceColumn o expected merged
        (searchAnswer total o (page.map (·.json)) hasMore) =
      if o + page.length = total then
        Reader.finishColumn sourceColumn total total merged' >>= fun found =>
          .ok (some (.done found))
      else .ok (some (.next ((o + page.length : Nat) : Int) total merged')) := by
  obtain ⟨merged', hfold, hm⟩ := h.mergePage hpage
  exact ⟨merged', hm, columnTurn_of_merge hasMore hfold hpos htotal hexp⟩

/-- Where the page limit allows it, the loop reads pages to the end of the listing
and returns the consumers on them. -/
theorem columnLoop_ok (urn : String) {count o : Nat} {expected : Option Int} {s : ReadState}
    (h : sv.Merged read merged) (hread : read.length = o) (hlt : o < sv.columns.items.length)
    (hexp : expected.getD sv.columns.items.length = sv.columns.items.length)
    (hcount : sv.columns.items.length ≤ count * sv.pageSize + o) :
    ∃ p, (sv.reader transport schemaFieldUrn).columnLoop py urn sourceColumn count o expected
        merged s = .ok p ∧ (p.1.map (·.1)).Nodup ∧ ∀ urn, urn ∈ p.1.map (·.1) ↔
        urn ∈ (read ++ sv.columns.pages sv.pageSize count s.calls o).map (·.found.1) := by
  induction count generalizing o expected read merged s with
  | zero => omega
  | succ count ih =>
    have hsize := sv.pageSize_pos
    have hlen := Listing.page_length (l := sv.columns) s.calls o sv.pageSize
    have hpos : 0 < (sv.columns.page s.calls o sv.pageSize).length := by omega
    have htotal : o + (sv.columns.page s.calls o sv.pageSize).length ≤ sv.columns.items.length := by
      omega
    obtain ⟨merged', hm, hturn⟩ := columnTurn_page (sv.hasMore s.calls) h
      (fun _ hi => Listing.mem_of_mem_page hi) hpos htotal hexp
    rw [Reader.columnLoop, call_bind, read_lift_bind, reader_pageSize, answer_columns, hturn,
      Listing.pages, ← List.append_assoc]
    split
    · next hlast =>
      obtain ⟨found, hfin, hn, hmem⟩ := hm.finishColumn sourceColumn
        (List.ne_nil_of_length_pos (by simp; omega)) sv.columns.items.length
      rw [hfin, Listing.pages_of_le (by omega), List.append_nil]
      exact ⟨(found, sv.called s), rfl, hn, hmem⟩
    · next hnext =>
      have ho : o + (sv.columns.page s.calls o sv.pageSize).length = o + sv.pageSize := by omega
      rw [ok_bind, ho]
      exact ih hm (by simp; omega) (by omega) rfl (by rw [Nat.add_mul] at hcount; omega)

/-- Where it does not, the loop reaches the page limit. -/
theorem columnLoop_limit (urn : String) {count o : Nat} {expected : Option Int} {s : ReadState}
    (h : sv.Merged read merged) (hread : read.length = o)
    (hexp : expected.getD sv.columns.items.length = sv.columns.items.length)
    (hcount : count * sv.pageSize + o < sv.columns.items.length) :
    (sv.reader transport schemaFieldUrn).columnLoop py urn sourceColumn count o expected merged s =
      failRead "lineage pagination exceeded the safety page limit" := by
  induction count generalizing o expected read merged s with
  | zero => rfl
  | succ count ih =>
    have hsize := sv.pageSize_pos
    have hlen := Listing.page_length (l := sv.columns) s.calls o sv.pageSize
    have hpos : 0 < (sv.columns.page s.calls o sv.pageSize).length := by omega
    have htotal : o + (sv.columns.page s.calls o sv.pageSize).length ≤ sv.columns.items.length := by
      omega
    rw [Nat.add_mul] at hcount
    obtain ⟨merged', hm, hturn⟩ := columnTurn_page (sv.hasMore s.calls) h
      (fun _ hi => Listing.mem_of_mem_page hi) hpos htotal hexp
    have ho : o + (sv.columns.page s.calls o sv.pageSize).length = o + sv.pageSize := by omega
    rw [Reader.columnLoop, call_bind, read_lift_bind, reader_pageSize, answer_columns, hturn,
      if_neg (by omega), ok_bind, ho]
    exact ih hm (by simp; omega) rfl (by omega)

/-- Without column lineage the dataset query decides. -/
theorem columnLineage_none (urn : String) (s : ReadState) (hnil : sv.columns.items = []) :
    ReadsOr (fun p => (p.1.map (·.1)).Perm sv.datasets.keys)
      ((sv.reader transport schemaFieldUrn).columnLineage py urn sourceColumn s) := by
  have hpage : sv.columns.page s.calls 0 sv.pageSize = [] :=
    List.eq_nil_of_length_eq_zero (by rw [Listing.page_length]; simp [hnil])
  have hanswer := sv.answer_columns s.calls 0 urn sourceColumn
  rw [hpage, hnil] at hanswer
  obtain ⟨count, hcount⟩ := Nat.exists_eq_add_of_le sv.maxPages_pos
  have hmax : (sv.reader transport schemaFieldUrn).maxPages = count + 1 := by
    rw [Nat.add_comm]
    exact hcount
  simp only [Reader.columnLineage, hmax, Reader.columnLoop, call_bind, read_lift_bind,
    reader_pageSize]
  rw [show (0 : Int) = ((0 : Nat) : Int) from rfl, hanswer]
  cases sv.hasMore s.calls with
  | true => rfl
  | false => exact sv.datasetLoop_complete transport schemaFieldUrn urn sv.maxPages rfl (by simp)

/-- Whether a read returned exactly these names, or was refused. -/
def Complete {α : Type} (name : α → String) (names : List String) :
    Result (List α × ReadState) → Prop :=
  ReadsOr fun p => (p.1.map name).Perm names

/-- A consumer of the column `old`. -/
def sampleConsumer (urn : String) (degree : Nat) : Item (Reader.columnResult py) :=
  let json : Json := .obj [("entity", .obj [("urn", .str urn)]), ("degree", .int degree),
    ("lineageColumns", .arr [.str "old"])]
  ⟨json, (urn, Reader.plusDegree (strOr py json "degree" "unknown"), ["old"]), rfl⟩

/-- Four consumers on pages of two. The second call lists them rotated, so that its
page repeats `b` and `d` is on neither page. -/
def sampleServer : Server (.sample id) "old" where
  fields := ⟨[], fun _ => [], fun _ => .nil, .nil⟩
  columns := {
    items := [sampleConsumer "a" 1, sampleConsumer "b" 2, sampleConsumer "c" 3, sampleConsumer "d" 3]
    order n := [sampleConsumer "a" 1, sampleConsumer "b" 2, sampleConsumer "c" 3,
      sampleConsumer "d" 3].rotate (if n = 0 then 0 else 3)
    perm n := List.rotate_perm _ _
    nodup := by decide }
  datasets := ⟨[], fun _ => [], fun _ => .nil, .nil⟩
  remaining _ := 0
  hasMore _ := false
  trace _ := .null
  pageSize := 2
  maxPages := 10
  pageSize_pos := by decide
  maxPages_pos := by decide

end Server
end LineageTX
