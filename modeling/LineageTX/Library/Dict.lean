import LineageTX.Library.Json

/-! Dictionaries with text keys: association lists, in insertion order, that keep
one entry for each key. -/
namespace Library
variable {α β : Type*}

abbrev Dict (α : Type*) := { m : List (String × α) // (m.map Prod.fst).Nodup }

namespace Dict

def empty : Dict α := ⟨[], by simp⟩

def keys (d : Dict α) : List String := d.val.map Prod.fst

def get? (d : Dict α) (key : String) : Option α := d.val.lookup key

def set (d : Dict α) (key : String) (value : α) : Dict α :=
  ⟨Json.assign key value d.val, Json.nodup_keys_assign key value d.property⟩

@[simp] theorem get?_empty (key : String) : (empty : Dict α).get? key = none := rfl

theorem get?_set (d : Dict α) (key key' : String) (value : α) :
    (d.set key value).get? key' = if key' = key then some value else d.get? key' :=
  Json.lookup_assign key key' value d.val

theorem mem_iff_get? (d : Dict α) (key : String) (value : α) :
    (key, value) ∈ d.val ↔ d.get? key = some value :=
  ⟨Json.lookup_of_mem d.property, Json.mem_of_lookup⟩

theorem mem_keys (d : Dict α) (key : String) : key ∈ d.keys ↔ ∃ value, d.get? key = some value := by
  simp only [keys, List.mem_map, Prod.exists, exists_and_right, exists_eq_right, mem_iff_get?]

theorem mem_keys_set (d : Dict α) (key key' : String) (value : α) :
    key' ∈ (d.set key value).keys ↔ key' = key ∨ key' ∈ d.keys := by
  simp only [mem_keys, get?_set]
  by_cases h : key' = key <;> simp [h]

/-- A key that is not there yet is put at the end. -/
theorem val_set_of_notMem {d : Dict α} {key : String} (value : α) (h : key ∉ d.keys) :
    (d.set key value).val = d.val ++ [(key, value)] :=
  Json.assign_of_notMem h value

theorem keys_set_of_notMem {d : Dict α} {key : String} (value : α) (h : key ∉ d.keys) :
    (d.set key value).keys = d.keys ++ [key] := by
  rw [keys, val_set_of_notMem value h, List.map_append]
  rfl

/-- A loop that sets one entry each turn, and stops at a key that is there already, ends with
the entries that it began with and its own. -/
theorem foldlM_set_eq_ok {β ε : Type*} (step : Dict α → β → Except ε (Dict α)) (entry : β → String × α)
    (hstep : ∀ d b after, step d b = .ok after ↔
      (entry b).1 ∉ d.keys ∧ d.set (entry b).1 (entry b).2 = after)
    {l : List β} {d after : Dict α} :
    l.foldlM step d = .ok after ↔ after.val = d.val ++ l.map entry := by
  induction l generalizing d with
  | nil =>
    rw [List.foldlM_nil, List.map_nil, List.append_nil]
    exact ⟨fun h => by cases h; rfl, fun h => by rw [Subtype.ext h]; rfl⟩
  | cons b l ih =>
    rw [List.foldlM_cons, List.map_cons]
    cases hb : step d b with
    | ok mid =>
      obtain ⟨hnew, rfl⟩ := (hstep d b mid).mp hb
      change l.foldlM step _ = .ok after ↔ _
      rw [ih, val_set_of_notMem _ hnew, List.append_assoc]
      rfl
    | error e =>
      refine ⟨fun h => (nomatch h), fun h => ?_⟩
      have hnew : (entry b).1 ∉ d.keys := by
        intro hmem
        have hnodup := after.property
        rw [h, List.map_append, List.nodup_append] at hnodup
        exact hnodup.2.2 _ hmem _ (by simp) rfl
      rw [(hstep d b _).mpr ⟨hnew, rfl⟩] at hb
      cases hb

/-- Writing one key for another keeps the keys apart unless both are there. -/
theorem nodup_replace {old new : String} (hne : old ≠ new) {keys : List String} (h : keys.Nodup) :
    (keys.map fun key => if key = old then new else key).Nodup ↔ ¬ (old ∈ keys ∧ new ∈ keys) := by
  constructor
  · rintro hnodup ⟨hold, hnew⟩
    exact hne (List.inj_on_of_nodup_map hnodup hold hnew (by simp [hne.symm]))
  · intro hboth
    refine h.map_on fun key hkey key' hkey' heq => ?_
    by_cases hold : key = old <;> by_cases hold' : key' = old
    · rw [hold, hold']
    · rw [if_pos hold, if_neg hold'] at heq
      exact absurd ⟨hold ▸ hkey, heq ▸ hkey'⟩ hboth
    · rw [if_neg hold, if_pos hold'] at heq
      exact absurd ⟨hold' ▸ hkey', heq ▸ hkey⟩ hboth
    · rwa [if_neg hold, if_neg hold'] at heq

section Collect
variable {γ : Type*} (key : γ → String) (value : γ → α) {k : String} {l : List γ} {d : Dict α}

theorem mem_keys_collect : k ∈ (l.foldl (fun d c => d.set (key c) (value c)) d).keys ↔
    k ∈ l.map key ∨ k ∈ d.keys := by
  induction l generalizing d with
  | nil => simp
  | cons c l ih => rw [List.foldl_cons, ih, mem_keys_set, List.map_cons, List.mem_cons]; tauto

theorem get?_collect {v : α} (h : (l.foldl (fun d c => d.set (key c) (value c)) d).get? k = some v) :
    (∃ c ∈ l, key c = k ∧ value c = v) ∨ d.get? k = some v := by
  induction l generalizing d with
  | nil => exact .inr h
  | cons c l ih =>
    rcases ih h with ⟨c', hc', hv⟩ | h
    · exact .inl ⟨c', by simp [hc'], hv⟩
    · rw [get?_set] at h
      split at h
      · next hk => exact .inl ⟨c, by simp, hk.symm, Option.some.inj h⟩
      · exact .inr h

end Collect

/-- Dictionaries with the same entries list them up to order. -/
theorem perm_of_get? {d d' : Dict α} (h : ∀ key, d.get? key = d'.get? key) : d.val.Perm d'.val := by
  refine (List.perm_ext_iff_of_nodup (.of_map _ d.property) (.of_map _ d'.property)).mpr ?_
  rintro ⟨key, value⟩
  rw [mem_iff_get?, mem_iff_get?, h]

theorem perm_iff_get? {d d' : Dict α} :
    d.val.Perm d'.val ↔ ∀ key, d.get? key = d'.get? key :=
  ⟨fun h key => Json.lookup_perm h d.property key, perm_of_get?⟩

/-- Sorted by a key that tells their entries apart, dictionaries are equal exactly
if they have the same entries. -/
theorem sortBy_eq_iff {κ : Type*} [LinearOrder κ] {d d' : Dict α} (rank : String × α → κ)
    (hrank : ∀ e e', rank e = rank e' → e.1 = e'.1) :
    sortBy rank d.val = sortBy rank d'.val ↔ ∀ key, d.get? key = d'.get? key := by
  rw [← perm_iff_get?]
  refine ⟨perm_of_sortBy_eq, fun h => sortBy_eq_of_perm rank h fun e he e' he' hee => ?_⟩
  exact Json.eq_of_key_eq d.property e he e' he' (hrank e e' hee)

/-- The entries whose key passes a test. -/
def filterKeys (p : String → Bool) (d : Dict α) : Dict α :=
  ⟨d.val.filter fun e => p e.1, d.property.sublist ((List.filter_sublist).map _)⟩

theorem get?_filterKeys (p : String → Bool) (d : Dict α) (key : String) :
    (d.filterKeys p).get? key = if p key then d.get? key else none := by
  cases h : (d.filterKeys p).get? key with
  | some value =>
    rw [← mem_iff_get?] at h
    obtain ⟨hmem, hp⟩ := List.mem_filter.mp h
    rw [if_pos hp, ← (mem_iff_get? d key value).mp hmem]
  | none =>
    split
    · next hp =>
      cases h' : d.get? key with
      | none => rfl
      | some value =>
        have hmem : (key, value) ∈ (d.filterKeys p).val :=
          List.mem_filter.mpr ⟨(mem_iff_get? d key value).mpr h', hp⟩
        rw [mem_iff_get?, h] at hmem
        cases hmem
    · rfl

/-- The values mapped, the keys kept. -/
def map (f : α → β) (d : Dict α) : Dict β :=
  ⟨d.val.map fun e => (e.1, f e.2), by simpa [Function.comp_def] using d.property⟩

theorem get?_map (f : α → β) (d : Dict α) (key : String) :
    (d.map f).get? key = (d.get? key).map f := by
  obtain ⟨m, hm⟩ := d
  induction m with
  | nil => rfl
  | cons e m ih =>
    obtain ⟨k, v⟩ := e
    have := ih (List.nodup_cons.mp hm).2
    simp only [get?, map, List.map_cons, Json.lookup_cons_if] at this ⊢
    split
    · rfl
    · exact this

end Dict

namespace Json

/-- Lists of members with the same keys in the same order are told apart by their
entries. -/
theorem eq_of_perm_of_keys {α : Type*} {m m' : List (String × α)} (hp : m.Perm m')
    (hk : m.map Prod.fst = m'.map Prod.fst) (hn : (m.map Prod.fst).Nodup) : m = m' := by
  induction m generalizing m' with
  | nil => exact (List.perm_nil.mp hp.symm).symm
  | cons e m ih =>
    cases m' with
    | nil => simp at hk
    | cons e' m' =>
      simp only [List.map_cons, List.cons.injEq] at hk
      have hn' : ((e' :: m').map Prod.fst).Nodup := by rwa [← (hp.map Prod.fst).nodup_iff]
      obtain rfl : e = e' :=
        eq_of_key_eq hn' e (hp.mem_iff.mp (by simp)) e' (by simp) hk.1
      rw [ih hp.cons_inv hk.2 (List.nodup_cons.mp hn).2]

/-- Objects with the same keys in the same order are equal up to key order exactly
if their values are. -/
theorem sortKeys_obj_eq_iff {m m' : List (String × Json)} (hk : m.map Prod.fst = m'.map Prod.fst)
    (hn : (m.map Prod.fst).Nodup) : sortKeys (.obj m) = sortKeys (.obj m') ↔
      m.map (fun e => sortKeys e.2) = m'.map fun e => sortKeys e.2 := by
  simp only [sortKeys, sortMembers_eq, obj.injEq]
  constructor
  · intro h
    have heq := eq_of_perm_of_keys (perm_of_sortBy_eq h) (by simpa [Function.comp_def] using hk)
      (by simpa [Function.comp_def] using hn)
    have := congrArg (List.map Prod.snd) heq
    simpa [Function.comp_def] using this
  · intro h
    congr 1
    have hzip := congrArg₂ List.zip hk h
    simpa [List.zip_map', Function.comp_def] using hzip

/-- Dictionaries are equal up to key order exactly if their entries are. -/
theorem sortKeys_dict_eq_iff {d d' : Dict Json} :
    sortKeys (.obj d.val) = sortKeys (.obj d'.val) ↔
      ∀ key, (d.get? key).map sortKeys = (d'.get? key).map sortKeys := by
  have hview : ∀ e : Dict Json, sortKeys (.obj e.val) = .obj (sortBy Prod.fst (e.map sortKeys).val) := by
    intro e
    simp [sortKeys, sortMembers_eq, Dict.map]
  rw [hview, hview, obj.injEq]
  simp only [← Dict.get?_map]
  exact Dict.sortBy_eq_iff Prod.fst fun _ _ h => h

end Json
end Library
