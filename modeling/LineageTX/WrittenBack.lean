import LineageTX.Fingerprint

/-! Entities before and after a write-back. The foreign part of the governance
that is extracted from an entity does not depend on the order in which DataHub
lists owners, tags and property entries, nor on the tag and the entries that
LineageTX writes. -/
namespace LineageTX
open Library
variable {py : Python}

/-- The keys of an entry that is not malformed. -/
def keysOf (entry : Json) : List String := ((entryKeys entry).toOption).getD []

def valuesOf (py : Python) (entry : Json) : Option (List PropertyValue) :=
  (entryValues py entry).toOption

theorem get?_foldl_set {α : Type} (keys : List String) (value : α) (d : Dict α) (key : String) :
    (keys.foldl (fun d k => d.set k value) d).get? key =
      if key ∈ keys then some value else d.get? key := by
  induction keys generalizing d with
  | nil => simp
  | cons k keys ih =>
    rw [List.foldl_cons, ih, Dict.get?_set]
    by_cases hk : key ∈ keys <;> simp [hk]

/-- One turn of the property loop puts the values of its entry under its keys. -/
theorem addEntry_get? {d d' : Dict (List PropertyValue)} {entry : Json}
    (h : addEntry py d entry = .ok d') (key : String) :
    d'.get? key = if key ∈ keysOf entry then valuesOf py entry else d.get? key := by
  obtain ⟨keys, hkeys, h⟩ := bind_eq_ok.mp h
  have hof : keysOf entry = keys := by simp [keysOf, hkeys, Except.toOption]
  rw [hof]
  cases keys with
  | nil =>
    obtain ⟨⟩ := h
    simp
  | cons k keys =>
    obtain ⟨values, hvalues, ⟨⟩⟩ := bind_eq_ok.mp h
    rw [get?_foldl_set, valuesOf, hvalues]
    rfl

/-- No two entries share a key. -/
def DistinctKeys (entries : List Json) : Prop :=
  entries.Pairwise fun a b => ∀ key ∈ keysOf a, key ∉ keysOf b

theorem entries_get? {entries : List Json} (hd : DistinctKeys entries)
    {d d' : Dict (List PropertyValue)} (h : entries.foldlM (addEntry py) d = .ok d')
    (key : String) :
    (∀ entry ∈ entries, key ∈ keysOf entry → d'.get? key = valuesOf py entry) ∧
      ((∀ entry ∈ entries, key ∉ keysOf entry) → d'.get? key = d.get? key) := by
  induction entries generalizing d with
  | nil =>
    obtain ⟨⟩ := h
    simp
  | cons entry entries ih =>
    obtain ⟨d₁, h₁, h⟩ := bind_eq_ok.mp (by simpa using h)
    obtain ⟨hhead, htail⟩ := List.pairwise_cons.mp hd
    obtain ⟨hin, hout⟩ := ih htail h
    have hstep := addEntry_get? h₁ key
    refine ⟨fun e he hk => ?_, fun hnone => ?_⟩
    · rcases List.mem_cons.mp he with rfl | he
      · rw [hout fun b hb => hhead b hb key hk, hstep, if_pos hk]
      · exact hin e he hk
    · rw [hout fun b hb => hnone b (by simp [hb]), hstep, if_neg (hnone entry (by simp))]

theorem extractGovernance_cases {entity : Json} {g : Governance}
    (h : extractGovernance py entity = .ok g) :
    ∃ owners tags entries, entityItems entity "ownership" "owners" = .ok owners ∧
      entityItems entity "tags" "tags" = .ok tags ∧
      entityItems entity "structuredProperties" "properties" = .ok entries ∧
      entries.foldlM (addEntry py) Dict.empty = .ok g.structuredProperties ∧
      g.ownerUrns = sortedSet (owners.filterMap fun item => associationUrn item "owner") ∧
      g.tagUrns = sortedSet (tags.filterMap fun item => associationUrn item "tag") := by
  simp only [extractGovernance, bind_eq_ok] at h
  obtain ⟨owners, ho, tags, ht, entries, he, props, hp, ⟨⟩⟩ := h
  exact ⟨owners, tags, entries, ho, ht, he, hp, rfl, rfl⟩

theorem extractGovernance_sorted {entity : Json} {g : Governance}
    (h : extractGovernance py entity = .ok g) :
    (g.ownerUrns.Nodup ∧ g.ownerUrns.Pairwise (· ≤ ·)) ∧
      (g.tagUrns.Nodup ∧ g.tagUrns.Pairwise (· ≤ ·)) := by
  obtain ⟨owners, tags, entries, -, -, -, -, ho, ht⟩ := extractGovernance_cases h
  rw [ho, ht]
  exact ⟨⟨sortedSet_nodup _, sortedSet_pairwise _⟩, sortedSet_nodup _, sortedSet_pairwise _⟩

/-- The association of the LineageTX tag. -/
def isLineageTxTag (item : Json) : Bool := associationUrn item "tag" = some lineageTxTagUrn

/-- An entry all of whose keys are those of LineageTX properties. -/
def isLineageTxEntry (entry : Json) : Bool := (keysOf entry).all isLineageTxKey

/-- Two answers for one entity that list their owners, their tags other than
LineageTX's and their property entries other than LineageTX's in any order. -/
structure WrittenBack (entity entity' : Json) : Prop where
  owners : ∃ owners owners', entityItems entity "ownership" "owners" = .ok owners ∧
    entityItems entity' "ownership" "owners" = .ok owners' ∧ owners.Perm owners'
  tags : ∃ tags tags', entityItems entity "tags" "tags" = .ok tags ∧
    entityItems entity' "tags" "tags" = .ok tags' ∧
    (tags.filter (!isLineageTxTag ·)).Perm (tags'.filter (!isLineageTxTag ·))
  entries : ∃ entries entries',
    entityItems entity "structuredProperties" "properties" = .ok entries ∧
    entityItems entity' "structuredProperties" "properties" = .ok entries' ∧
    DistinctKeys entries ∧ DistinctKeys entries' ∧
    (entries.filter (!isLineageTxEntry ·)).Perm (entries'.filter (!isLineageTxEntry ·))

/-- A property that is not LineageTX's comes from an entry that is not. -/
theorem get?_of_foreign_entries {entries entries' : List Json} (hd : DistinctKeys entries)
    (hd' : DistinctKeys entries')
    (hp : (entries.filter (!isLineageTxEntry ·)).Perm (entries'.filter (!isLineageTxEntry ·)))
    {props props' : Dict (List PropertyValue)}
    (h : entries.foldlM (addEntry py) Dict.empty = .ok props)
    (h' : entries'.foldlM (addEntry py) Dict.empty = .ok props') {key : String}
    (hkey : isLineageTxKey key = false) : props.get? key = props'.get? key := by
  have hforeign : ∀ entry, key ∈ keysOf entry → (entry ∈ entries ↔ entry ∈ entries') := by
    intro entry hk
    have hne : isLineageTxEntry entry = false := by
      rw [isLineageTxEntry, List.all_eq_false]
      exact ⟨key, hk, by simp [hkey]⟩
    simpa [List.mem_filter, hne] using hp.mem_iff (a := entry)
  obtain ⟨hin, hout⟩ := entries_get? hd h key
  obtain ⟨hin', hout'⟩ := entries_get? hd' h' key
  by_cases hex : ∃ entry ∈ entries, key ∈ keysOf entry
  · obtain ⟨entry, he, hk⟩ := hex
    rw [hin entry he hk, hin' entry ((hforeign entry hk).mp he) hk]
  · have hnone : ∀ entry ∈ entries, key ∉ keysOf entry := fun e he hk => hex ⟨e, he, hk⟩
    rw [hout hnone, hout' fun e he hk => hnone e ((hforeign e hk).mpr he) hk]

/-- The foreign governance of an entity survives reordering and write-backs. -/
theorem foreign_of_writtenBack {urn urn' : String} {schema schema' : List SchemaField}
    (hschema : schema.Perm schema') {entity entity' : Json} (hw : WrittenBack entity entity')
    {g g' : Governance} (h : extractGovernance py entity = .ok g)
    (h' : extractGovernance py entity' = .ok g') :
    Asset.foreign ⟨urn, schema, g⟩ = Asset.foreign ⟨urn', schema', g'⟩ := by
  obtain ⟨os, ts, es, hos, hts, hes, hprops, ho, ht⟩ := extractGovernance_cases h
  obtain ⟨os', ts', es', hos', hts', hes', hprops', ho', ht'⟩ := extractGovernance_cases h'
  obtain ⟨_, _, h₁, h₂, howners⟩ := hw.owners
  obtain rfl := Except.ok.inj (hos.symm.trans h₁)
  obtain rfl := Except.ok.inj (hos'.symm.trans h₂)
  obtain ⟨_, _, h₁, h₂, htags⟩ := hw.tags
  obtain rfl := Except.ok.inj (hts.symm.trans h₁)
  obtain rfl := Except.ok.inj (hts'.symm.trans h₂)
  obtain ⟨_, _, h₁, h₂, hd, hd', hentries⟩ := hw.entries
  obtain rfl := Except.ok.inj (hes.symm.trans h₁)
  obtain rfl := Except.ok.inj (hes'.symm.trans h₂)
  simp only [Asset.foreign, ForeignAsset.mk.injEq]
  refine ⟨Multiset.coe_eq_coe.mpr hschema, ?_, ?_, ?_⟩
  · ext urn
    simp only [ho, ho', List.mem_toFinset, mem_sortedSet, List.mem_filterMap, howners.mem_iff]
  · ext tag
    have hmem : ∀ item, associationUrn item "tag" = some tag → tag ≠ lineageTxTagUrn →
        (item ∈ ts ↔ item ∈ ts') := by
      intro item hi hne
      have hitem : isLineageTxTag item = false := by simp [isLineageTxTag, hi, hne]
      simpa [List.mem_filter, hitem] using htags.mem_iff (a := item)
    simp only [Governance.foreignTags, ht, ht', List.mem_toFinset, List.mem_filter, mem_sortedSet,
      List.mem_filterMap, decide_eq_true_eq]
    constructor
    · rintro ⟨⟨item, hi, hu⟩, hne⟩
      exact ⟨⟨item, (hmem item hu hne).mp hi, hu⟩, hne⟩
    · rintro ⟨⟨item, hi, hu⟩, hne⟩
      exact ⟨⟨item, (hmem item hu hne).mpr hi, hu⟩, hne⟩
  · funext key
    simp only [Governance.foreignProperties, Dict.get?_filterKeys]
    cases hkey : isLineageTxKey key with
    | true => simp
    | false => simpa using get?_of_foreign_entries hd hd' hentries hprops hprops' hkey

end LineageTX
