import LineageTX.Load

/-! What a context that `load` returned is known to satisfy. -/
namespace LineageTX
open Library
variable {py : Python} {s s' : ReadState}

theorem read_bind_eq_ok {α β : Type} {x : ReadM α} {f : α → ReadM β} {b : β × ReadState} :
    (x >>= f) s = .ok b ↔ ∃ a s₁, x s = .ok (a, s₁) ∧ f a s₁ = .ok b := by
  constructor
  · intro h
    obtain ⟨⟨a, s₁⟩, hx, hf⟩ := bind_eq_ok.mp (show (x s >>= fun p => f p.1 p.2) = .ok b from h)
    exact ⟨a, s₁, hx, hf⟩
  · rintro ⟨a, s₁, hx, hf⟩
    exact bind_eq_ok.mpr ⟨(a, s₁), hx, hf⟩

theorem read_lift_eq_ok {α : Type} {x : Result α} {a : α} {s₁ : ReadState} :
    (liftM x : ReadM α) s = .ok (a, s₁) ↔ x = .ok a ∧ s₁ = s := by
  change (x >>= fun a => pure (a, s)) = .ok (a, s₁) ↔ _
  rw [bind_eq_ok]
  constructor
  · rintro ⟨_, hx, ⟨⟩⟩
    exact ⟨hx, rfl⟩
  · rintro ⟨hx, rfl⟩
    exact ⟨a, hx, rfl⟩

theorem read_pure_eq_ok {α : Type} {a : α} {p : α × ReadState} :
    (pure a : ReadM α) s = .ok p ↔ p = (a, s) :=
  ⟨fun h => (Except.ok.inj h).symm, fun h => h ▸ rfl⟩

namespace Reader
variable {r : Reader}

theorem schemaLoop_nodup {urn : String} {pages : Nat} {offset : Int} {expected : Option Int}
    {fields result : List SchemaField}
    (h : schemaLoop py r urn pages offset expected fields s = .ok (result, s')) :
    (result.map (·.fieldPath)).Nodup := by
  induction pages generalizing offset expected fields s with
  | zero => exact absurd (read_lift_eq_ok.mp h).1 (by simp [failRead, raise])
  | succ pages ih =>
    obtain ⟨payload, s₁, -, h⟩ := read_bind_eq_ok.mp h
    obtain ⟨turn, s₂, hlift, h⟩ := read_bind_eq_ok.mp h
    obtain ⟨hturn, rfl⟩ := read_lift_eq_ok.mp hlift
    clear hlift
    cases turn with
    | next offset total fields => exact ih h
    | done found =>
      obtain ⟨⟩ := read_pure_eq_ok.mp h
      simp only [schemaTurn, bind_eq_ok] at hturn
      obtain ⟨page, -, _, -, items, -, hturn⟩ := hturn
      split at hturn
      · obtain ⟨found, hfin, ⟨⟩⟩ := bind_eq_ok.mp hturn
        simp only [finishSchema, bind_eq_ok, requireRead, require_eq_ok] at hfin
        obtain ⟨_, -, _, hnodup, ⟨⟩⟩ := hfin
        exact of_decide_eq_true hnodup
      · obtain ⟨_, -, hturn⟩ := bind_eq_ok.mp hturn
        cases hturn

theorem schema_nodup {urn : String} {result : List SchemaField}
    (h : r.schema py urn s = .ok (result, s')) : (result.map (·.fieldPath)).Nodup :=
  schemaLoop_nodup h

/-- The context and the entities that its governance was extracted from. -/
structure BuiltFrom (py : Python) (c : ContextData) (entity : String → Json) : Prop where
  consumers : (c.consumers.map (·.urn)).Nodup
  asset : ∀ urn a, c.assets.get? urn = some a → a.urn = urn ∧
    (a.schema.map (·.fieldPath)).Nodup ∧ extractGovernance py (entity urn) = .ok a.governance

/-- Every schema of a dictionary lists distinct fields. -/
def FieldsDistinct (schemas : Dict (List SchemaField)) : Prop :=
  ∀ urn fields, schemas.get? urn = some fields → (fields.map (·.fieldPath)).Nodup

theorem FieldsDistinct.set {schemas : Dict (List SchemaField)} (h : FieldsDistinct schemas)
    {fields : List SchemaField} (hf : (fields.map (·.fieldPath)).Nodup) (urn : String) :
    FieldsDistinct (schemas.set urn fields) := by
  intro urn' fields' hget
  rw [Dict.get?_set] at hget
  split at hget
  · obtain ⟨⟩ := hget
    exact hf
  · exact h urn' fields' hget

theorem addSchemas_distinct {urns : List String} {schemas schemas' : Dict (List SchemaField)}
    (hd : FieldsDistinct schemas) (h : urns.foldlM (r.addSchema py) schemas s = .ok (schemas', s')) :
    FieldsDistinct schemas' := by
  induction urns generalizing schemas s with
  | nil =>
    obtain ⟨⟩ := read_pure_eq_ok.mp h
    exact hd
  | cons urn urns ih =>
    obtain ⟨mid, s₁, hmid, h⟩ := read_bind_eq_ok.mp (by simpa using h)
    obtain ⟨fields, s₂, hfields, hmid⟩ := read_bind_eq_ok.mp hmid
    obtain ⟨⟩ := read_pure_eq_ok.mp hmid
    exact ih (hd.set (schema_nodup hfields) urn) h

theorem addAssets_builtFrom {schemas : Dict (List SchemaField)} {byUrn : Dict Json}
    (hd : FieldsDistinct schemas) {urns : List String} {assets assets' : Dict Asset}
    (hpre : ∀ urn a, assets.get? urn = some a → a.urn = urn ∧ (a.schema.map (·.fieldPath)).Nodup ∧
      extractGovernance py ((byUrn.get? urn).getD .null) = .ok a.governance)
    (h : urns.foldlM (addAsset py schemas byUrn) assets = .ok assets') :
    ∀ urn a, assets'.get? urn = some a → a.urn = urn ∧ (a.schema.map (·.fieldPath)).Nodup ∧
      extractGovernance py ((byUrn.get? urn).getD .null) = .ok a.governance := by
  induction urns generalizing assets with
  | nil =>
    obtain ⟨⟩ := h
    exact hpre
  | cons urn urns ih =>
    obtain ⟨mid, hmid, h⟩ := bind_eq_ok.mp (by simpa using h)
    obtain ⟨g, hg, ⟨⟩⟩ := bind_eq_ok.mp hmid
    refine ih (fun urn' a hget => ?_) h
    rw [Dict.get?_set] at hget
    split at hget
    · next he =>
      obtain ⟨⟩ := hget
      subst he
      refine ⟨rfl, ?_, hg⟩
      cases hs : schemas.get? urn' with
      | none => simp
      | some fields => exact hd urn' fields hs
    · exact hpre urn' a hget

/-- The fields that `postInit` keeps, and what it established. -/
theorem postInit_eq_ok {d d' : ContextData} (h : d.postInit py = .ok d') :
    d' = { d with impactFingerprint := d.recomputeImpactFingerprint py } ∧
      d.assetUrns.length = 4 ∧ ContextData.sameSet d.assetUrns d.assets.keys = true ∧
      d.assets.get? d.sourceUrn = some d.source ∧
      (d.discoveryComplete = true → d.checkComplete = .ok ()) := by
  simp only [ContextData.postInit, ContextData.checkStructure, bind_eq_ok, require_eq_ok,
    onlyIf_eq_ok] at h
  obtain ⟨_, ⟨_, hlen, _, hsrc, hcomplete⟩, _, -, ⟨⟩⟩ := h
  simp only [Bool.and_eq_true, decide_eq_true_eq] at hlen hsrc
  exact ⟨rfl, hlen.1, hlen.2, hsrc, hcomplete⟩

/-- `load` returns a complete context of the requested source and columns that is
built from the entities the server answered with. -/
structure Loaded (py : Python) (r : Reader) (sourceUrn sourceColumn replacementColumn : String)
    (lineage : List Found) (c : ContextData) : Prop where
  sourceUrn : c.sourceUrn = sourceUrn
  sourceColumn : c.sourceColumn = sourceColumn
  replacementColumn : c.replacementColumn = replacementColumn
  transport : c.transport = r.transport
  complete : c.discoveryComplete = true
  found : c.consumers.map (fun k => (k.urn, k.degree, k.columns)) = lineage
  lineage : checkLineage lineage = .ok ()
  fingerprint : c.impactFingerprint = c.recomputeImpactFingerprint py
  valid : c.postInit py = .ok c
  built : ∃ entity, BuiltFrom py c entity

theorem nodup_of_dedup_length {α : Type} [DecidableEq α] {l : List α}
    (h : l.dedup.length = l.length) : l.Nodup := by
  rw [← l.dedup_sublist.eq_of_length h]
  exact l.nodup_dedup

theorem checkLineage_cases {lineage : List Found} (h : checkLineage lineage = .ok ()) :
    lineage.length = 3 ∧ (lineage.map (·.2.1)).Nodup ∧ (lineage.map (·.1)).Nodup ∧
      ContextData.sameSet (lineage.map (·.2.1)) ["1", "2", "3+"] = true := by
  simp only [checkLineage, bind_eq_ok, requireRead, require_eq_ok] at h
  obtain ⟨_, hdeg, hurns⟩ := h
  simp only [Bool.and_eq_true, decide_eq_true_eq] at hdeg hurns
  exact ⟨hdeg.1.1, nodup_of_dedup_length (by simp [hdeg.1]),
    nodup_of_dedup_length (by simp [hurns, hdeg.1.1]), hdeg.2⟩

theorem loadConsumers_found {sourceUrn sourceColumn : String} {schemas : Dict (List SchemaField)}
    {lineage : List Found} {consumers : List ConsumerLineage}
    (h : lineage.mapM (r.loadConsumer sourceUrn sourceColumn schemas) s = .ok (consumers, s')) :
    consumers.map (fun k => (k.urn, k.degree, k.columns)) = lineage := by
  induction lineage generalizing consumers s with
  | nil =>
    obtain ⟨⟩ := read_pure_eq_ok.mp (by simpa using h)
    rfl
  | cons found lineage ih =>
    rw [List.mapM_cons] at h
    obtain ⟨consumer, s₁, hone, h⟩ := read_bind_eq_ok.mp h
    obtain ⟨rest, s₂, hrest, h⟩ := read_bind_eq_ok.mp h
    obtain ⟨⟩ := read_pure_eq_ok.mp h
    obtain ⟨_, s₃, -, hone⟩ := read_bind_eq_ok.mp hone
    obtain ⟨evidence, s₄, -, hone⟩ := read_bind_eq_ok.mp hone
    obtain ⟨⟩ := read_pure_eq_ok.mp hone
    simp [ih hrest]

theorem buildContext_loaded {sourceUrn sourceColumn replacementColumn : String}
    {schemas : Dict (List SchemaField)} {byUrn : Dict Json} {consumers : List ConsumerLineage}
    {traces : List Json} {lineage : List Found} {c : ContextData}
    (hd : FieldsDistinct schemas) (hl : checkLineage lineage = .ok ())
    (hfound : consumers.map (fun k => (k.urn, k.degree, k.columns)) = lineage)
    (h : r.buildContext py sourceUrn sourceColumn replacementColumn schemas byUrn consumers
      traces = .ok c) :
    Loaded py r sourceUrn sourceColumn replacementColumn lineage c := by
  obtain ⟨assets, hassets, h⟩ := bind_eq_ok.mp h
  obtain ⟨_, -, h⟩ := bind_eq_ok.mp h
  split at h
  · cases h
  · next source hsource =>
    have hbuilt := addAssets_builtFrom hd (fun urn a hget => by simp at hget) hassets
    obtain ⟨hc, -⟩ := postInit_eq_ok h
    have hvalid := h
    rw [show c = _ from hc] at hvalid ⊢
    have hurns := (checkLineage_cases hl).2.2.1
    rw [← hfound] at hurns
    exact ⟨rfl, rfl, rfl, rfl, rfl, hfound, hl, rfl, hvalid,
      fun urn => (byUrn.get? urn).getD .null,
      by simpa [Function.comp_def] using hurns, hbuilt⟩

/-- What the first two reads of `load` say of the consumers of a column. -/
def readLineage (py : Python) (r : Reader) (sourceUrn sourceColumn : String) :
    ReadM (List Found) := do
  let _ ← r.schema py sourceUrn
  r.columnLineage py sourceUrn sourceColumn

/-- Every context that `load` returns comes from the lineage that it read first and is
as `Loaded` says. -/
theorem load_readLineage {sourceUrn sourceColumn replacementColumn : String} {c : ContextData}
    (h : r.load py sourceUrn sourceColumn replacementColumn s = .ok (c, s')) :
    ∃ lineage t, r.readLineage py sourceUrn sourceColumn s = .ok (lineage, t) ∧
      Loaded py r sourceUrn sourceColumn replacementColumn lineage c := by
  obtain ⟨sourceSchema, s₁, hschema, h⟩ := read_bind_eq_ok.mp h
  obtain ⟨_, s₂, hold, h⟩ := read_bind_eq_ok.mp h
  have hs₂ := (read_lift_eq_ok.mp hold).2
  obtain ⟨_, s₃, hnew, h⟩ := read_bind_eq_ok.mp h
  have hs₃ := (read_lift_eq_ok.mp hnew).2
  obtain ⟨lineage, s₄, hlineage, h⟩ := read_bind_eq_ok.mp h
  obtain ⟨_, s₅, hcheck, h⟩ := read_bind_eq_ok.mp h
  obtain ⟨hcheck, -⟩ := read_lift_eq_ok.mp hcheck
  obtain ⟨payload, s₆, -, h⟩ := read_bind_eq_ok.mp h
  obtain ⟨byUrn, s₇, -, h⟩ := read_bind_eq_ok.mp h
  obtain ⟨schemas, s₈, hschemas, h⟩ := read_bind_eq_ok.mp h
  obtain ⟨consumers, s₉, hconsumers, h⟩ := read_bind_eq_ok.mp h
  obtain ⟨state, s₁₀, -, h⟩ := read_bind_eq_ok.mp h
  obtain ⟨hbuild, -⟩ := read_lift_eq_ok.mp h
  have hd : FieldsDistinct schemas := by
    refine addSchemas_distinct (FieldsDistinct.set (fun _ _ hget => ?_) (schema_nodup hschema) _)
      hschemas
    simp at hget
  rw [hs₃, hs₂] at hlineage
  exact ⟨lineage, s₄, read_bind_eq_ok.mpr ⟨sourceSchema, _, hschema, hlineage⟩,
    buildContext_loaded hd hcheck (loadConsumers_found hconsumers) hbuild⟩

theorem load_loaded {sourceUrn sourceColumn replacementColumn : String} {c : ContextData}
    (h : r.load py sourceUrn sourceColumn replacementColumn s = .ok (c, s')) :
    ∃ lineage s₁ s₂, r.columnLineage py sourceUrn sourceColumn s₁ = .ok (lineage, s₂) ∧
      Loaded py r sourceUrn sourceColumn replacementColumn lineage c := by
  obtain ⟨lineage, t, hread, hloaded⟩ := load_readLineage h
  obtain ⟨_, s₁, -, hlineage⟩ := read_bind_eq_ok.mp hread
  exact ⟨lineage, s₁, t, hlineage, hloaded⟩

theorem BuiltFrom.wellRead {c : ContextData} {entity : String → Json}
    (h : BuiltFrom py c entity) : c.WellRead where
  consumers := h.consumers
  fields urn a ha := (h.asset urn a ha).2.1
  owners urn a ha := (extractGovernance_sorted (h.asset urn a ha).2.2).1
  tags urn a ha := (extractGovernance_sorted (h.asset urn a ha).2.2).2

/-- Two contexts that differ in the order of what DataHub lists, and in what
LineageTX writes. -/
structure ReadAlike (py : Python) (c c' : ContextData) (entity entity' : String → Json) : Prop where
  consumers : (c.consumers.map fun k => (k.urn, k.view py)).Perm
    (c'.consumers.map fun k => (k.urn, k.view py))
  urns : ∀ urn, urn ∈ c.assets.keys ↔ urn ∈ c'.assets.keys
  schema : ∀ urn a a', c.assets.get? urn = some a → c'.assets.get? urn = some a' →
    a.schema.Perm a'.schema
  entity : ∀ urn ∈ c.assets.keys, WrittenBack (entity urn) (entity' urn)

theorem foreignImpact_of_readAlike {c c' : ContextData} {entity entity' : String → Json}
    (h : BuiltFrom py c entity) (h' : BuiltFrom py c' entity')
    (hr : ReadAlike py c c' entity entity') : c.foreignImpact py = c'.foreignImpact py := by
  refine ForeignImpact.ext (funext fun urn => ?_) (funext fun urn => ?_)
  · change (c.consumer? urn).map _ = (c'.consumer? urn).map _
    rw [← get?_views h.wellRead, ← get?_views h'.wellRead]
    exact Dict.perm_iff_get?.mp hr.consumers urn
  · change (c.assets.get? urn).map _ = (c'.assets.get? urn).map _
    have hkeys := hr.urns urn
    rw [Dict.mem_keys, Dict.mem_keys] at hkeys
    cases ha : c.assets.get? urn with
    | none =>
      cases ha' : c'.assets.get? urn with
      | none => rfl
      | some a' =>
        obtain ⟨a, ha''⟩ := hkeys.mpr ⟨a', ha'⟩
        exact absurd (ha.symm.trans ha'') (by simp)
    | some a =>
      obtain ⟨a', ha'⟩ := hkeys.mp ⟨a, ha⟩
      rw [ha', Option.map_some, Option.map_some]
      have hmem : urn ∈ c.assets.keys := (Dict.mem_keys _ _).mpr ⟨a, ha⟩
      exact congrArg some (foreign_of_writtenBack (hr.schema urn a a' ha ha') (hr.entity urn hmem)
        (h.asset urn a ha).2.2 (h'.asset urn a' ha').2.2)

/-- The same consumers, found through column lineage in hop order and through dataset
lineage in another. -/
def sampleColumns : ReadM ContextData :=
  (sample (.sample id) true [("a", 1), ("b", 2), ("c", 3)]).load (.sample id) "s" "old" "new"

def sampleDatasets : ReadM ContextData :=
  (sample (.sample id) false [("b", 2), ("a", 1), ("c", 3)]).load (.sample id) "s" "old" "new"

/-- Both reads succeed with the same payload and with their own asset order. -/
theorem sampleReads : ∃ c c' t t', sampleColumns {} = .ok (c, t) ∧
    sampleDatasets {} = .ok (c', t') ∧ c.assetUrns = ["s", "a", "b", "c"] ∧
    c'.assetUrns = ["s", "b", "a", "c"] ∧
    (sortBy Prod.fst c'.assets.val).map (fun e => Json.sortKeys (e.2.payload e.1)) =
      (sortBy Prod.fst c.assets.val).map (fun e => Json.sortKeys (e.2.payload e.1)) ∧
    (sortBy ConsumerLineage.sortKey c'.consumers).map
        (fun k => Json.sortKeys (k.payload (.sample id))) =
      (sortBy ConsumerLineage.sortKey c.consumers).map
        (fun k => Json.sortKeys (k.payload (.sample id))) := by
  have hrun : (do
      let p ← sampleColumns {}
      let q ← sampleDatasets {}
      return decide (p.1.assetUrns = ["s", "a", "b", "c"] ∧ q.1.assetUrns = ["s", "b", "a", "c"] ∧
        (sortBy Prod.fst q.1.assets.val).map (fun e => Json.sortKeys (e.2.payload e.1)) =
          (sortBy Prod.fst p.1.assets.val).map (fun e => Json.sortKeys (e.2.payload e.1)) ∧
        (sortBy ConsumerLineage.sortKey q.1.consumers).map
            (fun k => Json.sortKeys (k.payload (.sample id))) =
          (sortBy ConsumerLineage.sortKey p.1.consumers).map
            (fun k => Json.sortKeys (k.payload (.sample id)))) : Result Bool).toOption =
      some true := by
    simp only [sampleColumns, sampleDatasets, load, buildContext_eq]
    decide +kernel
  cases hp : sampleColumns {} with
  | error e =>
    rw [hp] at hrun
    cases hrun
  | ok p =>
    cases hq : sampleDatasets {} with
    | error e =>
      rw [hp, hq] at hrun
      cases hrun
    | ok q =>
      rw [hp, hq] at hrun
      exact ⟨p.1, q.1, p.2, q.2, rfl, rfl, of_decide_eq_true (Option.some.inj hrun)⟩

/-- For two contexts read for one source and one mapping: the fingerprints are equal
exactly if the foreign impacts are, and they are equal in particular for reads
that differ in order and in LineageTX's own write-backs. -/
theorem fingerprint_sees_foreign_impact (py : Python) (hinj : Function.Injective py.sha256)
    (r r' : Reader) (sourceUrn sourceColumn replacementColumn : String) (s s' t t' : ReadState)
    (c c' : ContextData) (h : r.load py sourceUrn sourceColumn replacementColumn s = .ok (c, t))
    (h' : r'.load py sourceUrn sourceColumn replacementColumn s' = .ok (c', t')) :
    (c.impactFingerprint = c'.impactFingerprint ↔ c.foreignImpact py = c'.foreignImpact py) ∧
    (∃ entity entity', BuiltFrom py c entity ∧ BuiltFrom py c' entity') ∧
    ∀ entity entity', BuiltFrom py c entity → BuiltFrom py c' entity' →
      ReadAlike py c c' entity entity' → c.impactFingerprint = c'.impactFingerprint := by
  obtain ⟨lineage, -, -, -, hl⟩ := load_loaded h
  obtain ⟨lineage', -, -, -, hl'⟩ := load_loaded h'
  obtain ⟨entity, hb⟩ := hl.built
  obtain ⟨entity', hb'⟩ := hl'.built
  have hiff : c.impactFingerprint = c'.impactFingerprint ↔
      c.foreignImpact py = c'.foreignImpact py := by
    rw [hl.fingerprint, hl'.fingerprint]
    exact fingerprint_eq_iff hinj hb.wellRead hb'.wellRead (by rw [hl.sourceUrn, hl'.sourceUrn])
      (by rw [hl.sourceColumn, hl'.sourceColumn])
      (by rw [hl.replacementColumn, hl'.replacementColumn])
  exact ⟨hiff, ⟨entity, entity', hb, hb'⟩, fun e e' he he' hr =>
    hiff.mpr (foreignImpact_of_readAlike he he' hr)⟩

theorem sampleReads_fingerprint : ∃ c c' t t', sampleColumns {} = .ok (c, t) ∧
    sampleDatasets {} = .ok (c', t') ∧
    (c.impactFingerprint = c'.impactFingerprint ↔
      c.foreignImpact (.sample id) = c'.foreignImpact (.sample id)) := by
  obtain ⟨c, c', t, t', h, h', -⟩ := sampleReads
  exact ⟨c, c', t, t', h, h', (fingerprint_sees_foreign_impact (.sample id) Function.injective_id
    _ _ "s" "old" "new" {} {} t t' c c' h h').1⟩

end Reader
end LineageTX
