import LineageTX.Discovery

/-! A catalogue that stays as it is while it is read, and its pagination by the three pagers. -/
namespace LineageTX
open Library

/-- What a server lists. `hasMore` is whatever it adds to the answer of a lineage call. -/
structure StableCatalogue (py : Python) (sourceColumn : String) where
  fields : List (Item (Reader.schemaField py))
  columns : List (Item (Reader.columnResult py))
  datasets : List (Item (Reader.datasetResult py sourceColumn))
  fields_nodup : (fields.map (·.found.fieldPath)).Nodup
  columns_nodup : (columns.map (·.found.1)).Nodup
  datasets_nodup : (datasets.map (·.found.1)).Nodup
  hasMore : Nat → Bool
  trace : Nat → Json

/-- The next at most `size` items. -/
def nextItems {α : Type} (items : List α) (offset size : Nat) : List α := (items.drop offset).take size

/-- The offset is applied to the first `maxResults` items. -/
def windowItems {α : Type} (items : List α) (offset maxResults : Nat) : List α :=
  (items.take maxResults).drop offset

theorem windowItems_eq {α : Type} (items : List α) (offset size : Nat) :
    windowItems items offset (offset + size) = nextItems items offset size := by
  rw [windowItems, nextItems, List.drop_take, Nat.add_sub_cancel_left]

theorem take_append_nextItems {α : Type} (items : List α) (offset size : Nat) :
    items.take offset ++ nextItems items offset size = items.take (offset + size) := by
  rw [nextItems, List.take_add]

theorem nextItems_length {α : Type} (items : List α) (offset size : Nat) :
    (nextItems items offset size).length = min size (items.length - offset) := by
  rw [nextItems, List.length_take, List.length_drop]

namespace StableCatalogue
variable {py : Python} {sourceColumn : String} (cat : StableCatalogue py sourceColumn)

def answer (n : Nat) (name : String) (arguments : Json) : Json :=
  let offset := natArgument arguments "offset"
  let maxResults := natArgument arguments "max_results"
  if name = "list_schema_fields" then
    let page := nextItems cat.fields offset (natArgument arguments "limit")
    fieldsAnswer cat.fields.length offset (page.map (·.json))
      (cat.fields.length - (offset + page.length))
  else if getD arguments "column" .null = .null then
    searchAnswer cat.datasets.length offset
      ((windowItems cat.datasets offset maxResults).map (·.json)) (cat.hasMore n)
  else
    searchAnswer cat.columns.length offset
      ((windowItems cat.columns offset maxResults).map (·.json)) (cat.hasMore n)

/-- The client answers the calls of a run that the page limit leaves from the catalogue. -/
def Serves (r : Reader) (count : Nat) (s : ReadState) : Prop :=
  ∀ n, s.calls ≤ n → n < s.calls + count →
    r.client n = fun name arguments => .ok [(cat.answer n name arguments, cat.trace n)]

/-- The state after a call. -/
def called (s : ReadState) : ReadState := ⟨s.calls + 1, s.traces ++ [cat.trace s.calls]⟩

variable {cat} {r : Reader} {count size o : Nat} {s : ReadState} {expected : Option Int}

theorem Serves.call (h : cat.Serves r (count + 1) s) {α : Type} (name : String) (arguments : Json)
    (f : Json → ReadM α) :
    (r.callOne name arguments >>= f) s = f (cat.answer s.calls name arguments) (cat.called s) := by
  have hclient := h s.calls (Nat.le_refl _) (by omega)
  have hcall : r.callOne name arguments s =
      .ok (cat.answer s.calls name arguments, cat.called s) := by
    rw [Reader.callOne, hclient]
    rfl
  exact congrArg (· >>= fun p => f p.1 p.2) hcall

theorem Serves.next (h : cat.Serves r (count + 1) s) : cat.Serves r count (cat.called s) := by
  intro n hge hlt
  have hcalls : (cat.called s).calls = s.calls + 1 := rfl
  rw [hcalls] at hge hlt
  exact h n (by omega) (by omega)

theorem answer_fields (n : Nat) (urn : String) : cat.answer n "list_schema_fields"
      (.obj [("urn", .str urn), ("limit", .int size), ("offset", .int o)]) =
    fieldsAnswer cat.fields.length o ((nextItems cat.fields o size).map (·.json))
      (cat.fields.length - (o + (nextItems cat.fields o size).length)) := by
  simp [answer, natArgument, getD, Json.get?, List.lookup]

theorem answer_datasets (n : Nat) (urn : String) : cat.answer n "get_lineage"
      (.obj [("urn", .str urn), ("upstream", .bool false), ("max_hops", .int 3),
        ("max_results", .int (o + size)), ("offset", .int o)]) =
    searchAnswer cat.datasets.length o ((nextItems cat.datasets o size).map (·.json))
      (cat.hasMore n) := by
  have hwindow : ((o : Int) + size).toNat = o + size := by omega
  simp [answer, natArgument, getD, Json.get?, List.lookup, hwindow, windowItems_eq]

theorem answer_columns (n : Nat) (urn column : String) : cat.answer n "get_lineage"
      (.obj [("urn", .str urn), ("column", .str column), ("upstream", .bool false),
        ("max_hops", .int 3), ("max_results", .int (o + size)), ("offset", .int o)]) =
    searchAnswer cat.columns.length o ((nextItems cat.columns o size).map (·.json))
      (cat.hasMore n) := by
  have hwindow : ((o : Int) + size).toNat = o + size := by omega
  simp [answer, natArgument, getD, Json.get?, List.lookup, hwindow, windowItems_eq]

/-! ### The field pager -/

theorem finishSchema_ok {found : List SchemaField} (h : (found.map SchemaField.fieldPath).Nodup) :
    Reader.finishSchema found.length found = .ok found := by
  simp only [Reader.finishSchema, requireRead, require, h, decide_true, if_true]
  rfl

/-- One page: the last one ends the loop, the others move it on by a full page. -/
theorem schemaTurn_next (ho : o ≤ cat.fields.length)
    (hexpected : expected.getD cat.fields.length = cat.fields.length) (hsize : 1 ≤ size) :
    Reader.schemaTurn py o expected ((cat.fields.take o).map (·.found))
      (fieldsAnswer cat.fields.length o ((nextItems cat.fields o size).map (·.json))
        (cat.fields.length - (o + (nextItems cat.fields o size).length))) =
      .ok (if cat.fields.length ≤ o + size then .done (cat.fields.map (·.found))
        else .next (o + size : Nat) cat.fields.length ((cat.fields.take (o + size)).map (·.found))) := by
  have hlength := nextItems_length cat.fields o size
  have hfound : (cat.fields.take o).map (·.found) ++ (nextItems cat.fields o size).map (·.found) =
      (cat.fields.take (o + size)).map (·.found) := by
    rw [← List.map_append, take_append_nextItems]
  simp only [Reader.schemaTurn, schemaPage_fieldsAnswer, ok_bind, mapM_items, List.length_map,
    Reader.sameTotal, hexpected, requireRead, require, decide_true, if_true, hfound]
  by_cases hlast : cat.fields.length ≤ o + size
  · have hnone : cat.fields.length - (o + (nextItems cat.fields o size).length) = 0 := by omega
    have hall : cat.fields.take (o + size) = cat.fields := List.take_of_length_le hlast
    have hnodup : ((cat.fields.map (·.found)).map SchemaField.fieldPath).Nodup := by
      rw [List.map_map]
      exact cat.fields_nodup
    have hzero : Json.int ((0 : Nat) : Int) = .int 0 := rfl
    rw [hnone, if_pos hzero, if_pos hlast, hall]
    rw [← List.length_map, finishSchema_ok hnodup]
    rfl
  · have hmore : Json.int ((cat.fields.length - (o + (nextItems cat.fields o size).length) : Nat) : Int) ≠
        .int 0 := by
      intro h
      have hzero := Json.int.inj h
      omega
    have hmoved : (decide (((nextItems cat.fields o size).length : Int) ≠ 0) &&
        decide ((o : Int) + (nextItems cat.fields o size).length < cat.fields.length)) = true := by
      simp only [Bool.and_eq_true, decide_eq_true_eq]
      omega
    have hnext : (o : Int) + (nextItems cat.fields o size).length = ((o + size : Nat) : Int) := by omega
    rw [if_neg hmore, if_neg hlast, if_pos hmoved, hnext]
    rfl

theorem schemaLoop_fits (urn : String) (hcount : 1 ≤ count) (ho : o ≤ cat.fields.length)
    (hfits : cat.fields.length ≤ o + count * size) (hsize : 1 ≤ size)
    (hexpected : expected.getD cat.fields.length = cat.fields.length) :
    ∃ s', ∀ r : Reader, r.pageSize = size → cat.Serves r count s →
      r.schemaLoop py urn count o expected ((cat.fields.take o).map (·.found)) s =
        .ok (cat.fields.map (·.found), s') := by
  induction count generalizing o expected s with
  | zero => omega
  | succ count ih =>
    by_cases hlast : cat.fields.length ≤ o + size
    · refine ⟨cat.called s, fun r hr hserves => ?_⟩
      rw [Reader.schemaLoop, hr, hserves.call, answer_fields, read_lift_bind,
        schemaTurn_next ho hexpected hsize, if_pos hlast]
      rfl
    · rw [Nat.add_mul] at hfits
      have hcount' : 1 ≤ count := by
        rcases Nat.eq_zero_or_pos count with rfl | hpos
        · omega
        · exact hpos
      obtain ⟨s', hrest⟩ := @ih (o + size) (cat.called s) (some cat.fields.length) hcount' (by omega)
        (by omega) rfl
      refine ⟨s', fun r hr hserves => ?_⟩
      rw [Reader.schemaLoop, hr, hserves.call, answer_fields, read_lift_bind,
        schemaTurn_next ho hexpected hsize, if_neg hlast]
      exact hrest r hr hserves.next

theorem schemaLoop_exceeds (urn : String) (ho : o ≤ cat.fields.length)
    (hexceeds : o + count * size < cat.fields.length) (hsize : 1 ≤ size)
    (hexpected : expected.getD cat.fields.length = cat.fields.length) (hr : r.pageSize = size)
    (hserves : cat.Serves r count s) :
    r.schemaLoop py urn count o expected ((cat.fields.take o).map (·.found)) s =
      failRead "schema pagination exceeded the safety page limit" := by
  induction count generalizing o expected s with
  | zero => rfl
  | succ count ih =>
    rw [Nat.add_mul] at hexceeds
    rw [Reader.schemaLoop, hr, hserves.call, answer_fields, read_lift_bind,
      schemaTurn_next ho hexpected hsize, if_neg (by omega)]
    exact ih (by omega) (by omega) rfl hserves.next

/-! ### The dataset pager -/

theorem finishDataset_ok {found : List Reader.Found} (hne : found ≠ []) (h : (found.map (·.1)).Nodup)
    (total : Int) : Reader.finishDataset sourceColumn total total found = .ok found := by
  simp only [Reader.finishDataset, requireRead, require, hne, h, decide_true, ne_eq, not_false_eq_true,
    Bool.and_self, if_true]
  rfl

theorem datasetTurn_next (ho : o < cat.datasets.length)
    (hexpected : expected.getD cat.datasets.length = cat.datasets.length) (hsize : 1 ≤ size)
    (hasMore : Bool) :
    Reader.datasetTurn py sourceColumn o expected ((cat.datasets.take o).map (·.found))
      (searchAnswer cat.datasets.length o ((nextItems cat.datasets o size).map (·.json)) hasMore) =
      .ok (if cat.datasets.length ≤ o + size then .done (cat.datasets.map (·.found))
        else .next (o + size : Nat) cat.datasets.length
          ((cat.datasets.take (o + size)).map (·.found))) := by
  have hlength := nextItems_length cat.datasets o size
  have hfound : (cat.datasets.take o).map (·.found) ++ (nextItems cat.datasets o size).map (·.found) =
      (cat.datasets.take (o + size)).map (·.found) := by
    rw [← List.map_append, take_append_nextItems]
  simp only [Reader.datasetTurn, downstreams_searchAnswer, lineagePage_searchPage, ok_bind, mapM_items,
    List.length_map, Reader.sameTotal, hexpected, requireRead, require, decide_true, if_true, hfound]
  by_cases hlast : cat.datasets.length ≤ o + size
  · have hend : (o : Int) + (nextItems cat.datasets o size).length = cat.datasets.length := by omega
    have hall : cat.datasets.take (o + size) = cat.datasets := List.take_of_length_le hlast
    have hne : cat.datasets.map (·.found) ≠ [] := by
      intro hnil
      rw [List.map_eq_nil_iff] at hnil
      rw [hnil] at ho
      cases ho
    have hnodup : ((cat.datasets.map (·.found)).map (·.1)).Nodup := by
      rw [List.map_map]
      exact cat.datasets_nodup
    rw [hend, if_pos (Int.le_refl _), if_pos hlast, hall, finishDataset_ok hne hnodup]
    rfl
  · have hmore : ¬(cat.datasets.length : Int) ≤ o + (nextItems cat.datasets o size).length := by omega
    have hmoved : decide (((nextItems cat.datasets o size).length : Int) ≠ 0) = true :=
      decide_eq_true (by omega)
    have hnext : (o : Int) + (nextItems cat.datasets o size).length = ((o + size : Nat) : Int) := by omega
    rw [if_neg hmore, if_neg hlast, if_pos hmoved, hnext]
    rfl

theorem datasetLoop_fits (urn : String) (ho : o < cat.datasets.length)
    (hfits : cat.datasets.length ≤ o + count * size) (hsize : 1 ≤ size)
    (hexpected : expected.getD cat.datasets.length = cat.datasets.length) :
    ∃ s', ∀ r : Reader, r.pageSize = size → cat.Serves r count s →
      r.datasetLoop py urn sourceColumn count o expected ((cat.datasets.take o).map (·.found)) s =
        .ok (cat.datasets.map (·.found), s') := by
  induction count generalizing o expected s with
  | zero => omega
  | succ count ih =>
    by_cases hlast : cat.datasets.length ≤ o + size
    · refine ⟨cat.called s, fun r hr hserves => ?_⟩
      rw [Reader.datasetLoop, hr, hserves.call, answer_datasets, read_lift_bind,
        datasetTurn_next ho hexpected hsize, if_pos hlast]
      rfl
    · rw [Nat.add_mul] at hfits
      obtain ⟨s', hrest⟩ := @ih (o + size) (cat.called s) (some cat.datasets.length) (by omega)
        (by omega) rfl
      refine ⟨s', fun r hr hserves => ?_⟩
      rw [Reader.datasetLoop, hr, hserves.call, answer_datasets, read_lift_bind,
        datasetTurn_next ho hexpected hsize, if_neg hlast]
      exact hrest r hr hserves.next

theorem datasetLoop_exceeds (urn : String) (hexceeds : o + count * size < cat.datasets.length)
    (hsize : 1 ≤ size) (hexpected : expected.getD cat.datasets.length = cat.datasets.length)
    (hr : r.pageSize = size) (hserves : cat.Serves r count s) :
    r.datasetLoop py urn sourceColumn count o expected ((cat.datasets.take o).map (·.found)) s =
      failRead "dataset lineage pagination exceeded the safety page limit" := by
  induction count generalizing o expected s with
  | zero => rfl
  | succ count ih =>
    rw [Nat.add_mul] at hexceeds
    rw [Reader.datasetLoop, hr, hserves.call, answer_datasets, read_lift_bind,
      datasetTurn_next (by omega) hexpected hsize, if_neg (by omega)]
    exact ih (by omega) rfl hserves.next

/-! ### The column pager -/

/-- The entries of the dictionary for consumers that were read once. -/
def entries (read : List (Item (Reader.columnResult py))) : List (String × String × List String) :=
  read.map (·.found)

theorem mergeItems {read page : List (Item (Reader.columnResult py))}
    {merged : Dict (String × List String)} (hmerged : merged.val = entries read)
    (hnodup : ((read ++ page).map (·.found.1)).Nodup) :
    ∃ merged', (page.map (·.json)).foldlM (Reader.mergeResult py) merged = .ok merged' ∧
      merged'.val = entries (read ++ page) := by
  induction page generalizing read merged with
  | nil => exact ⟨merged, rfl, by rw [List.append_nil, hmerged]⟩
  | cons i page ih =>
    have hnew : i.found.1 ∉ merged.keys := by
      rw [Dict.keys, hmerged, entries, List.map_map]
      rw [List.map_append, List.nodup_append] at hnodup
      exact fun hmem => hnodup.2.2 _ hmem _ (by simp) rfl
    have hnone : merged.get? i.found.1 = none := by
      rw [Option.eq_none_iff_forall_not_mem]
      exact fun e he => hnew ((Dict.mem_keys _ _).mpr ⟨e, he⟩)
    have hset : (merged.set i.found.1 i.found.2).val = entries (read ++ [i]) := by
      rw [Dict.val_set_of_notMem _ hnew, hmerged, entries, entries, List.map_append]
      rfl
    obtain ⟨merged', hfold, hval⟩ := ih hset (by simpa using hnodup)
    refine ⟨merged', ?_, by simpa using hval⟩
    rw [List.map_cons, List.foldlM_cons]
    have hstep : Reader.mergeResult py merged i.json = .ok (merged.set i.found.1 i.found.2) := by
      simp only [Reader.mergeResult, i.reads, ok_bind, hnone]
      rfl
    rw [hstep, ok_bind, hfold]

/-- What the pager returns for a consumer: its columns as a sorted set. -/
def sorted (f : Reader.Found) : Reader.Found := (f.1, f.2.1, sortedSet f.2.2)

theorem finishColumn_ok (sourceColumn : String) {read : List (Item (Reader.columnResult py))}
    {merged : Dict (String × List String)} (hmerged : merged.val = entries read) (hne : read ≠ [])
    (total : Int) :
    ∃ found, Reader.finishColumn sourceColumn total total merged = .ok found ∧
      found.Perm (read.map fun i => sorted i.found) := by
  have hentries : merged.val ≠ [] := by
    rw [hmerged, entries]
    simpa using hne
  refine ⟨(sortBy (fun e => degreeSortKey e.1 e.2.1) merged.val).map sorted, ?_, ?_⟩
  · simp only [Reader.finishColumn, requireRead, require, hentries, decide_true, ne_eq,
      not_false_eq_true, if_true]
    rfl
  · have hperm := (sortBy_perm (fun e => degreeSortKey e.1 e.2.1) merged.val).map sorted
    rw [hmerged, entries, List.map_map] at hperm
    rw [hmerged, entries]
    exact hperm

theorem columnTurn_next {merged : Dict (String × List String)} (ho : o < cat.columns.length)
    (hmerged : merged.val = entries (cat.columns.take o))
    (hexpected : expected.getD cat.columns.length = cat.columns.length) (hsize : 1 ≤ size)
    (hasMore : Bool) :
    ∃ merged', merged'.val = entries (cat.columns.take (o + size)) ∧
      Reader.columnTurn py sourceColumn o expected merged
        (searchAnswer cat.columns.length o ((nextItems cat.columns o size).map (·.json)) hasMore) =
      if cat.columns.length ≤ o + size then
        Reader.finishColumn sourceColumn cat.columns.length cat.columns.length merged' >>= fun found =>
          .ok (some (.done found))
      else .ok (some (.next ((o + size : Nat) : Int) cat.columns.length merged')) := by
  have hlength := nextItems_length cat.columns o size
  have hnodup : ((cat.columns.take o ++ nextItems cat.columns o size).map (·.found.1)).Nodup := by
    rw [take_append_nextItems]
    exact cat.columns_nodup.sublist ((List.take_sublist _ _).map _)
  obtain ⟨merged', hfold, hval⟩ := mergeItems hmerged hnodup
  rw [take_append_nextItems] at hval
  refine ⟨merged', hval, ?_⟩
  rw [Server.columnTurn_of_merge hasMore hfold (by omega) (by omega) hexpected]
  by_cases hlast : cat.columns.length ≤ o + size
  · rw [if_pos hlast, if_pos (by omega)]
  · have hnext : o + (nextItems cat.columns o size).length = o + size := by omega
    rw [if_neg hlast, if_neg (by omega), hnext]

theorem columnLoop_fits (urn : String) {merged : Dict (String × List String)}
    (ho : o < cat.columns.length) (hmerged : merged.val = entries (cat.columns.take o))
    (hfits : cat.columns.length ≤ o + count * size) (hsize : 1 ≤ size)
    (hexpected : expected.getD cat.columns.length = cat.columns.length) :
    ∃ found s', found.Perm (cat.columns.map fun i => sorted i.found) ∧
      ∀ r : Reader, r.pageSize = size → cat.Serves r count s →
        r.columnLoop py urn sourceColumn count o expected merged s = .ok (found, s') := by
  induction count generalizing o expected merged s with
  | zero => omega
  | succ count ih =>
    obtain ⟨merged', hval, hturn⟩ := columnTurn_next ho hmerged hexpected hsize (cat.hasMore s.calls)
    by_cases hlast : cat.columns.length ≤ o + size
    · rw [List.take_of_length_le hlast] at hval
      have hne : cat.columns ≠ [] := List.ne_nil_of_length_pos (by omega)
      obtain ⟨found, hfinish, hperm⟩ := finishColumn_ok sourceColumn hval hne cat.columns.length
      refine ⟨found, cat.called s, hperm, fun r hr hserves => ?_⟩
      rw [Reader.columnLoop, hr, hserves.call, answer_columns, read_lift_bind, hturn, if_pos hlast,
        hfinish]
      rfl
    · rw [Nat.add_mul] at hfits
      obtain ⟨found, s', hperm, hrest⟩ := @ih (o + size) (cat.called s) (some cat.columns.length) merged'
        (by omega) hval (by omega) rfl
      refine ⟨found, s', hperm, fun r hr hserves => ?_⟩
      rw [Reader.columnLoop, hr, hserves.call, answer_columns, read_lift_bind, hturn, if_neg hlast]
      exact hrest r hr hserves.next

theorem columnLoop_exceeds (urn : String) {merged : Dict (String × List String)}
    (hmerged : merged.val = entries (cat.columns.take o))
    (hexceeds : o + count * size < cat.columns.length) (hsize : 1 ≤ size)
    (hexpected : expected.getD cat.columns.length = cat.columns.length) (hr : r.pageSize = size)
    (hserves : cat.Serves r count s) :
    r.columnLoop py urn sourceColumn count o expected merged s =
      failRead "lineage pagination exceeded the safety page limit" := by
  induction count generalizing o expected merged s with
  | zero => rfl
  | succ count ih =>
    rw [Nat.add_mul] at hexceeds
    obtain ⟨merged', hval, hturn⟩ :=
      columnTurn_next (by omega) hmerged hexpected hsize (cat.hasMore s.calls)
    rw [Reader.columnLoop, hr, hserves.call, answer_columns, read_lift_bind, hturn, if_neg (by omega)]
    exact ih hval (by omega) rfl hserves.next

/-- A pager reads exactly what is expected if the page limit allows it, refuses it otherwise, and
makes no call beyond the limit: what the client would answer there does not matter. -/
structure Exact {α : Type} (r : Reader) (s : ReadState) (expected : List α)
    (pager : Reader → ReadM (List α)) : Prop where
  fits : expected.length ≤ r.pageSize * r.maxPages →
    ∃ found s', pager r s = .ok (found, s') ∧ found.Perm expected
  exceeds : r.pageSize * r.maxPages < expected.length → ∃ msg, pager r s = failRead msg
  requests : ∀ client, (∀ n, n < s.calls + r.maxPages → client n = r.client n) →
    pager { r with client } s = pager r s

/-- A pager that ends in the same way against every client that answers from the catalogue. -/
theorem exact_of_outcome {α : Type} {expected : List α} {pager : Reader → ReadM (List α)}
    (h : cat.Serves r r.maxPages s)
    (hfits : expected.length ≤ r.pageSize * r.maxPages → ∃ found s', found.Perm expected ∧
      ∀ r' : Reader, r'.pageSize = r.pageSize → r'.maxPages = r.maxPages →
        cat.Serves r' r.maxPages s → pager r' s = .ok (found, s'))
    (hexceeds : r.pageSize * r.maxPages < expected.length → ∃ msg, ∀ r' : Reader,
      r'.pageSize = r.pageSize → r'.maxPages = r.maxPages → cat.Serves r' r.maxPages s →
        pager r' s = failRead msg) : Exact r s expected pager where
  fits hle := by
    obtain ⟨found, s', hperm, hread⟩ := hfits hle
    exact ⟨found, s', hread r rfl rfl h, hperm⟩
  exceeds hlt := by
    obtain ⟨msg, hfail⟩ := hexceeds hlt
    exact ⟨msg, hfail r rfl rfl h⟩
  requests client hclient := by
    have hserves : cat.Serves { r with client } r.maxPages s :=
      fun n hge hlt => (hclient n hlt).trans (h n hge hlt)
    rcases Nat.lt_or_ge (r.pageSize * r.maxPages) expected.length with hlt | hle
    · obtain ⟨msg, hfail⟩ := hexceeds hlt
      rw [hfail r rfl rfl h]
      exact hfail { r with client } rfl rfl hserves
    · obtain ⟨found, s', -, hread⟩ := hfits hle
      rw [hread r rfl rfl h]
      exact hread { r with client } rfl rfl hserves

theorem schema_exact (urn : String) (h : cat.Serves r r.maxPages s) :
    Exact r s (cat.fields.map (·.found)) fun r => r.schema py urn := by
  refine exact_of_outcome h (fun hle => ?_) fun hlt => ?_
  · rw [List.length_map] at hle
    obtain ⟨s', hread⟩ := @schemaLoop_fits py sourceColumn cat r.maxPages r.pageSize 0 s none urn
      r.maxPages_pos (Nat.zero_le _) (by rw [Nat.zero_add, Nat.mul_comm]; exact hle) r.pageSize_pos rfl
    refine ⟨_, s', List.Perm.refl _, fun r' hsize hpages hserves => ?_⟩
    rw [Reader.schema, hpages]
    exact hread r' hsize hserves
  · rw [List.length_map] at hlt
    refine ⟨"schema pagination exceeded the safety page limit", fun r' hsize hpages hserves => ?_⟩
    rw [Reader.schema, hpages]
    exact @schemaLoop_exceeds py sourceColumn cat r' r.maxPages r.pageSize 0 s none urn (Nat.zero_le _)
      (by rw [Nat.zero_add, Nat.mul_comm]; exact hlt) r.pageSize_pos rfl hsize hserves

theorem dataset_exact (urn : String) (h : cat.Serves r r.maxPages s) (hne : cat.datasets ≠ []) :
    Exact r s (cat.datasets.map (·.found)) fun r => r.datasetLineage py urn sourceColumn := by
  have hpos : 0 < cat.datasets.length := List.length_pos_of_ne_nil hne
  refine exact_of_outcome h (fun hle => ?_) fun hlt => ?_
  · rw [List.length_map] at hle
    obtain ⟨s', hread⟩ := @datasetLoop_fits py sourceColumn cat r.maxPages r.pageSize 0 s none urn
      hpos (by rw [Nat.zero_add, Nat.mul_comm]; exact hle) r.pageSize_pos rfl
    refine ⟨_, s', List.Perm.refl _, fun r' hsize hpages hserves => ?_⟩
    rw [Reader.datasetLineage, hpages]
    exact hread r' hsize hserves
  · rw [List.length_map] at hlt
    refine ⟨"dataset lineage pagination exceeded the safety page limit", fun r' hsize hpages hserves => ?_⟩
    rw [Reader.datasetLineage, hpages]
    exact @datasetLoop_exceeds py sourceColumn cat r' r.maxPages r.pageSize 0 s none urn
      (by rw [Nat.zero_add, Nat.mul_comm]; exact hlt) r.pageSize_pos rfl hsize hserves

theorem column_exact (urn : String) (h : cat.Serves r r.maxPages s) (hne : cat.columns ≠ []) :
    Exact r s (cat.columns.map fun i => sorted i.found)
      fun r => r.columnLineage py urn sourceColumn := by
  have hpos : 0 < cat.columns.length := List.length_pos_of_ne_nil hne
  refine exact_of_outcome h (fun hle => ?_) fun hlt => ?_
  · rw [List.length_map] at hle
    obtain ⟨found, s', hperm, hread⟩ := @columnLoop_fits py sourceColumn cat r.maxPages r.pageSize 0 s
      none urn Dict.empty hpos rfl (by rw [Nat.zero_add, Nat.mul_comm]; exact hle) r.pageSize_pos rfl
    refine ⟨found, s', hperm, fun r' hsize hpages hserves => ?_⟩
    rw [Reader.columnLineage, hpages]
    exact hread r' hsize hserves
  · rw [List.length_map] at hlt
    refine ⟨"lineage pagination exceeded the safety page limit", fun r' hsize hpages hserves => ?_⟩
    rw [Reader.columnLineage, hpages]
    exact @columnLoop_exceeds py sourceColumn cat r' r.maxPages r.pageSize 0 s none urn Dict.empty rfl
      (by rw [Nat.zero_add, Nat.mul_comm]; exact hlt) r.pageSize_pos rfl hsize hserves

def sampleField (path : String) : Item (Reader.schemaField (.sample id)) :=
  ⟨.obj [("fieldPath", .str path)], ⟨path, "UNKNOWN", none, ""⟩, rfl⟩

def sampleDataset (urn : String) : Json := .obj [("entity", .obj [("urn", .str urn)]), ("degree", .int 1)]

/-- Items of each kind, read on pages of two. -/
def sampleListing : StableCatalogue (.sample id) "old" where
  fields := [sampleField "x", sampleField "y", sampleField "z"]
  columns := [Server.sampleConsumer "a" 1, Server.sampleConsumer "b" 2, Server.sampleConsumer "c" 3]
  datasets := [⟨sampleDataset "a", ("a", "1", ["old"]), rfl⟩, ⟨sampleDataset "b", ("b", "1", ["old"]), rfl⟩]
  fields_nodup := by decide
  columns_nodup := by decide
  datasets_nodup := by decide
  hasMore _ := false
  trace _ := .null

theorem one_le_two : 1 ≤ 2 := by decide

def sampleReader : Reader where
  client n name arguments := .ok [(sampleListing.answer n name arguments, .null)]
  transport := "t"
  pageSize := 2
  maxPages := 2
  pageSize_pos := one_le_two
  maxPages_pos := one_le_two
  schemaFieldUrn urn _ := urn

end StableCatalogue
end LineageTX
