import LineageTX.Adapters
import LineageTX.Library.JsonRoundTrip

/-! Documents that `json.loads` gives: what `json.dumps` prints of them is read again as the
same document, up to the order of keys. -/
namespace LineageTX
open Library
variable (py : Python)

/-- `float(repr(x)) == x`: a float that was read is printed as a number that reads as it. -/
def Python.FloatsRoundTrip : Prop :=
  ∀ token r, py.readFloat token = some r → py.readFloat r.val = some r

/-- What holds of every document that was read: its floats are read back, and its keys are
distinct. -/
abbrev Python.Loaded : Json → Prop :=
  Json.Every fun j => Json.ReadsBack py.readFloat j ∧ Json.DistinctKeys j

/-- Two documents are equal in Python: up to the order of the keys of each object. -/
def SameDocument (j j' : Json) : Prop := Json.sortKeys j = Json.sortKeys j'

variable {py} {cls : ExnClass} {what text : String} {j : Json}

theorem jsonLoads_loaded (hround : py.FloatsRoundTrip) (h : py.jsonLoads cls what text = .ok j) :
    py.Loaded j := by
  unfold Python.jsonLoads at h
  dsimp only at h
  split at h
  · next parsed rest hparse =>
    split at h
    · cases h
      exact Json.collapse_every (Json.readsBack_ofLeaf _)
        ((Json.parse_readsBack hround _).1 _ _ hparse)
    · cases h
  · cases h

theorem Python.Loaded.sortKeys (h : py.Loaded j) : py.Loaded (Json.sortKeys j) :=
  Json.sortKeys_every (fun _ _ => ⟨trivial, trivial⟩)
    (fun _ _ hperm hnode => ⟨trivial, hperm.nodup_iff.mp hnode.2⟩) h

/-- A printed document with blanks behind it is read as the document with sorted keys. -/
theorem jsonLoads_dumps (h : py.Loaded j) (st : Json.Style) {blanks : String}
    (hblanks : blanks.toList.all Json.isWs = true) :
    py.jsonLoads cls what (Json.dumps st j ++ blanks) = .ok (Json.sortKeys j) := by
  have hsorted := h.sortKeys
  have hends : Json.Ends blanks.toList := by
    intro c cs hcs
    rw [hcs] at hblanks
    have hws : Json.isWs c = true := by simpa using (List.all_eq_true.mp hblanks) c (by simp)
    by_contra htoken
    simp [(Json.tokenChar_facts (by simpa using htoken)).1] at hws
  have hrest : Json.skipWs blanks.toList = [] := List.dropWhile_eq_nil_iff.mpr
    (List.all_eq_true.mp hblanks)
  have hfuel := Json.cost_lt_render st (Json.sortKeys j) 0
  have hparse := Json.parseValue_render py.readFloat st (Json.sortKeys j)
    (2 * (Json.render st 0 (Json.sortKeys j) ++ blanks.toList).length + 2) 0 blanks.toList
    (hsorted.mono fun _ hnode => hnode.1) (by rw [List.length_append]; omega) hends
  have hcollapse := Json.collapse_eq_self (hsorted.mono fun _ hnode => hnode.2)
  unfold Python.jsonLoads
  rw [Json.dumps, String.toList_append, String.toList_ofList]
  dsimp only
  rw [hparse]
  dsimp only
  rw [if_pos hrest, hcollapse]

/-- What is printed of a document that can be read is that document in order. -/
theorem jsonLoads_canonicalJson {j : Json} (h : py.Loaded j) :
    py.jsonLoads (.other "JSONDecodeError") "" (canonicalJson j) = .ok (Json.sortKeys j) := by
  have htext := @jsonLoads_dumps _ (.other "JSONDecodeError") "" _ h canonicalStyle
    "" rfl
  rwa [String.append_empty] at htext

section Parts
variable {m : List (String × Json)}

theorem loaded_obj : py.Loaded (.obj m) ↔ (m.map Prod.fst).Nodup ∧ ∀ e ∈ m, py.Loaded e.2 := by
  refine Json.every_obj.trans (and_congr_left fun _ => ?_)
  exact ⟨fun h => h.2, fun h => ⟨trivial, h⟩⟩

theorem loaded_arr {items : List Json} : py.Loaded (.arr items) ↔ ∀ j ∈ items, py.Loaded j := by
  refine Json.every_arr.trans ?_
  exact ⟨fun h => h.2, fun h => ⟨⟨trivial, trivial⟩, h⟩⟩

theorem loaded_str (text : String) : py.Loaded (.str text) := ⟨trivial, trivial⟩

theorem loaded_bool (b : Bool) : py.Loaded (.bool b) := ⟨trivial, trivial⟩

theorem loaded_int (n : Int) : py.Loaded (.int n) := ⟨trivial, trivial⟩

theorem loaded_texts (texts : List String) : py.Loaded (.arr (texts.map .str)) := by
  refine loaded_arr.mpr fun j hj => ?_
  obtain ⟨text, -, rfl⟩ := List.mem_map.mp hj
  exact loaded_str text

theorem sortKeys_texts (texts : List String) :
    Json.sortKeys (.arr (texts.map .str)) = .arr (texts.map .str) := by
  rw [Json.sortKeys_arr, List.map_map]
  rfl

end Parts

/-- What is printed with a line end behind it has no carriage return. -/
theorem dumps_noReturn (st : Json.Style) (j : Json) : '\r' ∉ (Json.dumps st j ++ "\n").toList := by
  rw [Json.dumps, String.toList_append, String.toList_ofList, List.mem_append, not_or]
  exact ⟨Json.render_noReturn 0 _, by decide⟩

end LineageTX
