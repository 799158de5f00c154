import LineageTX.Context
import Mathlib.Data.Finset.Basic

/-! What the impact fingerprint sees. The abstract impact of a context forgets the
order of everything and what LineageTX itself writes; the fingerprints of two
contexts are equal exactly if their impacts are. -/
namespace LineageTX
open Library
variable {py : Python}

/-- An asset without orders and without the tag and properties of LineageTX. -/
structure ForeignAsset where
  fields : Multiset SchemaField
  owners : Finset String
  tags : Finset String
  properties : String → Option (List PropertyValue)

/-- The impact of a migration that is not LineageTX's own doing. -/
@[ext] structure ForeignImpact where
  consumer : String → Option (String × List String × Multiset PathSignature)
  asset : String → Option ForeignAsset

def Asset.foreign (a : Asset) : ForeignAsset where
  fields := a.schema
  owners := a.governance.ownerUrns.toFinset
  tags := a.governance.foreignTags.toFinset
  properties := a.governance.foreignProperties.get?

def ConsumerLineage.view (py : Python) (c : ConsumerLineage) :
    String × List String × Multiset PathSignature :=
  (c.degree, c.columns, allSignatures py c.pathEvidence)

namespace ContextData

def consumer? (d : ContextData) (urn : String) : Option ConsumerLineage :=
  d.consumers.find? fun c => c.urn == urn

def foreignImpact (py : Python) (d : ContextData) : ForeignImpact where
  consumer urn := (d.consumer? urn).map (ConsumerLineage.view py)
  asset urn := (d.assets.get? urn).map Asset.foreign

/-- What a reader establishes before it builds a context. -/
structure WellRead (d : ContextData) : Prop where
  consumers : (d.consumers.map (·.urn)).Nodup
  fields : ∀ urn a, d.assets.get? urn = some a → (a.schema.map (·.fieldPath)).Nodup
  owners : ∀ urn a, d.assets.get? urn = some a →
    a.governance.ownerUrns.Nodup ∧ a.governance.ownerUrns.Pairwise (· ≤ ·)
  tags : ∀ urn a, d.assets.get? urn = some a →
    a.governance.tagUrns.Nodup ∧ a.governance.tagUrns.Pairwise (· ≤ ·)

end ContextData

theorem sortKeys_strs (l : List String) :
    Json.sortKeys (.arr (l.map .str)) = .arr (l.map .str) := by
  rw [Json.sortKeys_arr, List.map_map]
  rfl

theorem strs_injective : Function.Injective fun l : List String => Json.arr (l.map .str) := by
  intro l l' h
  exact List.map_injective_iff.mpr (fun _ _ => Json.str.inj) (Json.arr.inj h)

theorem NodeSignature.sortKeys_toJson (n : NodeSignature) : Json.sortKeys n.toJson = n.toJson := by
  have hs : sortBy Prod.fst [("type", Json.str n.type), ("urn", Json.str n.urn)] =
      [("type", Json.str n.type), ("urn", Json.str n.urn)] :=
    sortBy_of_pairwise (by simp)
  rw [toJson, Json.sortKeys_obj, hs]
  rfl

theorem PathSignature.sortKeys_toJson (p : PathSignature) : Json.sortKeys p.toJson = p.toJson := by
  simp [toJson, Json.sortKeys_arr, NodeSignature.sortKeys_toJson]

theorem NodeSignature.toJson_injective : Function.Injective NodeSignature.toJson := by
  rintro ⟨t, u⟩ ⟨t', u'⟩ h
  simpa [toJson] using h

theorem PathSignature.toJson_injective : Function.Injective PathSignature.toJson := by
  intro p p' h
  exact List.map_injective_iff.mpr NodeSignature.toJson_injective (Json.arr.inj h)

theorem PathSignature.sortKey_injective : Function.Injective PathSignature.sortKey := by
  intro p p' h
  have hsort := (Json.dumps_eq_iff stableStyle).mp h
  rw [sortKeys_toJson, sortKeys_toJson] at hsort
  exact toJson_injective hsort

/-- Sorted signature lists are equal exactly if they hold the same signatures. -/
theorem pathSignatures_eq_iff {e e' : List (List (String × Json))} :
    pathSignatures py e = pathSignatures py e' ↔
      (allSignatures py e : Multiset PathSignature) = allSignatures py e' := by
  rw [Multiset.coe_eq_coe]
  refine ⟨perm_of_sortBy_eq, fun h => sortBy_eq_of_perm _ h fun p _ q _ hpq => ?_⟩
  exact PathSignature.sortKey_injective hpq

theorem SchemaField.payload_inj {f g : SchemaField} :
    Json.sortKeys f.payload = Json.sortKeys g.payload ↔ f = g := by
  have hnull : ∀ a b : Option Bool, Json.sortKeys (nullableJson a) = Json.sortKeys (nullableJson b) ↔
      a = b := by
    intro a b
    cases a <;> cases b <;> simp [nullableJson, Json.sortKeys]
  obtain ⟨p, t, n, d⟩ := f
  obtain ⟨p', t', n', d'⟩ := g
  refine (Json.sortKeys_obj_eq_iff (by rfl) (by simp)).trans ?_
  simp only [List.map_cons, List.map_nil, List.cons.injEq, and_true, hnull, Json.sortKeys,
    Json.str.injEq, mk.injEq]
  tauto

theorem PropertyValue.toJson_injective : Function.Injective PropertyValue.toJson := by
  intro v w h
  cases v <;> cases w <;> simp_all [toJson]

theorem sortKeys_values (l : List PropertyValue) :
    Json.sortKeys (.arr (l.map (·.toJson))) = .arr (l.map (·.toJson)) := by
  have hv : ∀ v : PropertyValue, Json.sortKeys v.toJson = v.toJson := by
    intro v
    cases v <;> rfl
  simp [Json.sortKeys_arr, hv, Function.comp_def]

theorem values_injective :
    Function.Injective fun l : List PropertyValue => Json.arr (l.map (·.toJson)) := by
  intro l l' h
  exact List.map_injective_iff.mpr PropertyValue.toJson_injective (Json.arr.inj h)

/-- The payloads of two assets agree exactly if everything in them does. -/
theorem Asset.payload_eq_iff {u u' : String} {a a' : Asset} :
    Json.sortKeys (a.payload u) = Json.sortKeys (a'.payload u') ↔
      u = u' ∧ sortBy SchemaField.fieldPath a.schema = sortBy SchemaField.fieldPath a'.schema ∧
      a.governance.ownerUrns = a'.governance.ownerUrns ∧
      a.governance.foreignTags = a'.governance.foreignTags ∧
      ∀ key, a.governance.foreignProperties.get? key = a'.governance.foreignProperties.get? key := by
  refine (Json.sortKeys_obj_eq_iff (by rfl) (by simp)).trans ?_
  simp only [List.map_cons, List.map_nil, List.cons.injEq, and_true, sortKeys_strs,
    strs_injective.eq_iff, Json.sortKeys_dict_eq_iff, Dict.get?_map, Option.map_map]
  refine and_congr (by simp [Json.sortKeys]) (and_congr ?_ (and_congr .rfl (and_congr .rfl ?_)))
  · rw [Json.sortKeys_arr, Json.sortKeys_arr, Json.arr.injEq, List.map_map, List.map_map]
    exact (List.map_injective_iff.mpr fun f g h => SchemaField.payload_inj.mp h).eq_iff
  · refine forall_congr' fun key => ?_
    have hinj : Function.Injective
        (Json.sortKeys ∘ fun l : List PropertyValue => Json.arr (l.map (·.toJson))) := by
      intro l l' h
      simp only [Function.comp_apply, sortKeys_values] at h
      exact values_injective h
    exact (Option.map_injective hinj).eq_iff

theorem ConsumerLineage.payload_eq_iff {c c' : ConsumerLineage} :
    Json.sortKeys (c.payload py) = Json.sortKeys (c'.payload py) ↔
      c.urn = c'.urn ∧ c.view py = c'.view py := by
  refine (Json.sortKeys_obj_eq_iff (by rfl) (by simp)).trans ?_
  simp only [List.map_cons, List.map_nil, List.cons.injEq, and_true, sortKeys_strs,
    strs_injective.eq_iff, view, Prod.mk.injEq, ← pathSignatures_eq_iff]
  refine and_congr (by simp [Json.sortKeys]) (and_congr (by simp [Json.sortKeys])
    (and_congr .rfl ?_))
  simp only [Json.sortKeys_arr, List.map_map, Function.comp_def, PathSignature.sortKeys_toJson,
    Json.arr.injEq]
  exact (List.map_injective_iff.mpr PathSignature.toJson_injective).eq_iff

/-- The parts of an asset in the order of its payload. -/
def Asset.canon (a : Asset) : List SchemaField × List String × List String ×
    (String → Option (List PropertyValue)) :=
  (sortBy SchemaField.fieldPath a.schema, a.governance.ownerUrns, a.governance.foreignTags,
    a.governance.foreignProperties.get?)

theorem Asset.payload_eq_iff_canon {u u' : String} {a a' : Asset} :
    Json.sortKeys (a.payload u) = Json.sortKeys (a'.payload u') ↔ (u, a.canon) = (u', a'.canon) := by
  simp only [Asset.payload_eq_iff, canon, Prod.mk.injEq, funext_iff]

theorem eq_iff_toFinset {l l' : List String} (hl : l.Nodup ∧ l.Pairwise (· ≤ ·))
    (hl' : l'.Nodup ∧ l'.Pairwise (· ≤ ·)) : l = l' ↔ l.toFinset = l'.toFinset := by
  refine ⟨fun h => h ▸ rfl, fun h => ?_⟩
  have hperm := (List.perm_ext_iff_of_nodup hl.1 hl'.1).mpr fun a => by
    simpa using Finset.ext_iff.mp h a
  exact eq_of_perm_of_sorted id hperm hl.2 hl'.2 fun _ _ _ _ he => he

theorem foreignTags_sorted {g : Governance} (h : g.tagUrns.Nodup ∧ g.tagUrns.Pairwise (· ≤ ·)) :
    g.foreignTags.Nodup ∧ g.foreignTags.Pairwise (· ≤ ·) :=
  ⟨h.1.sublist List.filter_sublist, h.2.sublist List.filter_sublist⟩

section WellRead
variable {d d' : ContextData} (w : d.WellRead) (w' : d'.WellRead)
include w w'

/-- In order the parts of an asset are told apart as they are without it. -/
theorem canon_eq_iff {urn : String} {a a' : Asset} (ha : d.assets.get? urn = some a)
    (ha' : d'.assets.get? urn = some a') : a.canon = a'.canon ↔ a.foreign = a'.foreign := by
  simp only [Asset.canon, Asset.foreign, Prod.mk.injEq, ForeignAsset.mk.injEq]
  refine and_congr ?_ (and_congr (eq_iff_toFinset (w.owners urn a ha) (w'.owners urn a' ha'))
    (and_congr (eq_iff_toFinset (foreignTags_sorted (w.tags urn a ha))
      (foreignTags_sorted (w'.tags urn a' ha'))) .rfl))
  rw [Multiset.coe_eq_coe]
  refine ⟨perm_of_sortBy_eq, fun h => sortBy_eq_of_perm _ h fun f hf g hg hfg => ?_⟩
  exact List.inj_on_of_nodup_map (w.fields urn a ha) hf hg hfg

theorem assets_eq_iff :
    (sortBy Prod.fst d.assets.val).map (fun e => Json.sortKeys (e.2.payload e.1)) =
      (sortBy Prod.fst d'.assets.val).map (fun e => Json.sortKeys (e.2.payload e.1)) ↔
    ∀ urn, (d.assets.get? urn).map Asset.foreign = (d'.assets.get? urn).map Asset.foreign := by
  have hcanon : ∀ c : ContextData, (sortBy Prod.fst c.assets.val).map (fun e => (e.1, e.2.canon)) =
      sortBy Prod.fst (c.assets.map Asset.canon).val := by
    intro c
    exact (sortBy_map Prod.fst _ _).symm
  rw [map_eq_map_iff (g := fun e => (e.1, e.2.canon)) fun e e' => Asset.payload_eq_iff_canon,
    hcanon, hcanon, Dict.sortBy_eq_iff Prod.fst fun _ _ h => h]
  refine forall_congr' fun urn => ?_
  rw [Dict.get?_map, Dict.get?_map]
  cases ha : d.assets.get? urn with
  | none => cases d'.assets.get? urn <;> simp
  | some a =>
    cases ha' : d'.assets.get? urn with
    | none => simp
    | some a' => simpa using canon_eq_iff w w' ha ha'

end WellRead

/-- The consumers of a context as a dictionary. -/
def ContextData.views (py : Python) {d : ContextData} (w : d.WellRead) :
    Dict (String × List String × Multiset PathSignature) :=
  ⟨d.consumers.map fun c => (c.urn, c.view py), by simpa [Function.comp_def] using w.consumers⟩

theorem get?_views {d : ContextData} (w : d.WellRead) (urn : String) :
    (d.views py w).get? urn = (d.consumer? urn).map (ConsumerLineage.view py) := by
  have hfind : ∀ l : List ConsumerLineage, (l.map fun c => (c.urn, c.view py)).lookup urn =
      (l.find? fun c => c.urn == urn).map (ConsumerLineage.view py) := by
    intro l
    induction l with
    | nil => rfl
    | cons c l ih =>
      rw [List.map_cons, Json.lookup_cons_if, List.find?_cons]
      by_cases h : c.urn = urn
      · simp [h]
      · simp [beq_false_of_ne h, Ne.symm h, ih]
  exact hfind d.consumers

/-- `_degree_sort_key` of an entry of that dictionary. -/
def viewRank (e : String × String × List String × Multiset PathSignature) : Lex (Nat × String) :=
  degreeSortKey e.1 e.2.1

theorem viewRank_view (c : ConsumerLineage) : viewRank (c.urn, c.view py) = c.sortKey := rfl

theorem viewRank_key (e e' : String × String × List String × Multiset PathSignature)
    (h : viewRank e = viewRank e') : e.1 = e'.1 :=
  (Prod.mk.inj (toLex.injective h)).2

theorem sortBy_views {d : ContextData} (w : d.WellRead) :
    (sortBy ConsumerLineage.sortKey d.consumers).map (fun c => (c.urn, c.view py)) =
      sortBy viewRank (d.views py w).val := by
  have h := sortBy_map viewRank (fun c : ConsumerLineage => (c.urn, c.view py)) d.consumers
  simp only [viewRank_view] at h
  exact h.symm

theorem consumers_eq_iff {d d' : ContextData} (w : d.WellRead) (w' : d'.WellRead) :
    (sortBy ConsumerLineage.sortKey d.consumers).map (fun c => Json.sortKeys (c.payload py)) =
      (sortBy ConsumerLineage.sortKey d'.consumers).map (fun c => Json.sortKeys (c.payload py)) ↔
    ∀ urn, (d.consumer? urn).map (ConsumerLineage.view py) =
      (d'.consumer? urn).map (ConsumerLineage.view py) := by
  have hpayload : ∀ c c' : ConsumerLineage,
      Json.sortKeys (c.payload py) = Json.sortKeys (c'.payload py) ↔
        (c.urn, c.view py) = (c'.urn, c'.view py) := by
    intro c c'
    rw [ConsumerLineage.payload_eq_iff]
    exact Prod.mk_inj.symm
  rw [map_eq_map_iff hpayload, sortBy_views w, sortBy_views w',
    Dict.sortBy_eq_iff viewRank viewRank_key]
  simp only [get?_views]

/-- The payloads behind the fingerprints of contexts of one source and mapping. -/
theorem fingerprint_eq_iff_payloads (hinj : Function.Injective py.sha256) {d d' : ContextData}
    (hsource : d.sourceUrn = d'.sourceUrn) (hold : d.sourceColumn = d'.sourceColumn)
    (hnew : d.replacementColumn = d'.replacementColumn) :
    d.recomputeImpactFingerprint py = d'.recomputeImpactFingerprint py ↔
      (sortBy Prod.fst d.assets.val).map (fun e => Json.sortKeys (e.2.payload e.1)) =
        (sortBy Prod.fst d'.assets.val).map (fun e => Json.sortKeys (e.2.payload e.1)) ∧
      (sortBy ConsumerLineage.sortKey d.consumers).map (fun c => Json.sortKeys (c.payload py)) =
        (sortBy ConsumerLineage.sortKey d'.consumers).map
          (fun c => Json.sortKeys (c.payload py)) := by
  simp only [ContextData.recomputeImpactFingerprint, computeImpactFingerprint, hinj.eq_iff,
    stableJson, Json.dumps_eq_iff, impactPayload, hsource, hold, hnew]
  refine (Json.sortKeys_obj_eq_iff (by rfl) (by simp)).trans ?_
  simp only [List.map_cons, List.map_nil, List.cons.injEq, and_true, true_and, Json.sortKeys_arr,
    List.map_map, Function.comp_def, Json.arr.injEq]

/-- Equal fingerprints have the same consumers up to order, whatever the contexts. -/
theorem consumers_perm_of_fingerprint (hinj : Function.Injective py.sha256) {d d' : ContextData}
    (hsource : d.sourceUrn = d'.sourceUrn) (hold : d.sourceColumn = d'.sourceColumn)
    (hnew : d.replacementColumn = d'.replacementColumn)
    (h : d.recomputeImpactFingerprint py = d'.recomputeImpactFingerprint py) :
    (d.consumers.map fun c => (c.urn, c.degree)).Perm
      (d'.consumers.map fun c => (c.urn, c.degree)) := by
  have hpair : ∀ c c' : ConsumerLineage, Json.sortKeys (c.payload py) = Json.sortKeys (c'.payload py) →
      (c.urn, c.degree) = (c'.urn, c'.degree) := by
    intro c c' he
    obtain ⟨hu, hv⟩ := ConsumerLineage.payload_eq_iff.mp he
    exact Prod.ext hu (congrArg Prod.fst hv)
  have hmap := map_eq_of_map_eq hpair ((fingerprint_eq_iff_payloads hinj hsource hold hnew).mp h).2
  have hd := (sortBy_perm ConsumerLineage.sortKey d.consumers).map fun c => (c.urn, c.degree)
  have hd' := (sortBy_perm ConsumerLineage.sortKey d'.consumers).map fun c => (c.urn, c.degree)
  rw [hmap] at hd
  exact hd.symm.trans hd'

/-- The fingerprints of two contexts of one source and mapping are equal exactly if
their foreign impacts are. -/
theorem fingerprint_eq_iff (hinj : Function.Injective py.sha256) {d d' : ContextData}
    (w : d.WellRead) (w' : d'.WellRead) (hsource : d.sourceUrn = d'.sourceUrn)
    (hold : d.sourceColumn = d'.sourceColumn)
    (hnew : d.replacementColumn = d'.replacementColumn) :
    d.recomputeImpactFingerprint py = d'.recomputeImpactFingerprint py ↔
      d.foreignImpact py = d'.foreignImpact py := by
  rw [fingerprint_eq_iff_payloads hinj hsource hold hnew, assets_eq_iff w w',
    consumers_eq_iff w w', ForeignImpact.ext_iff, and_comm, funext_iff, funext_iff]
  rfl

end LineageTX
