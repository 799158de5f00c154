import LineageTX.WrittenAssets

/-! Attempts against a catalogue: whatever the failed ones left behind, one that returns
a receipt leaves the values and the tag of the map, and nothing else changed. -/
namespace LineageTX
open Library Prog
variable {py : Python}

/-- What DataHub stores of structured properties and tags, by asset. -/
@[ext] structure Catalogue where
  properties : String → String → Option (List String)
  tags : String → String → Prop

namespace Catalogue

/-- The values of the given properties are replaced. -/
def upsert (c : Catalogue) (values : List (String × List String)) (urns : List String) :
    Catalogue :=
  { c with properties := fun urn property =>
      if urn ∈ urns then (values.lookup property).or (c.properties urn property)
      else c.properties urn property }

def addTags (c : Catalogue) (tags urns : List String) : Catalogue :=
  { c with tags := fun urn tag => c.tags urn tag ∨ (urn ∈ urns ∧ tag ∈ tags) }

end Catalogue

def migrationProperties : List String := propertyQualifiedNames.map Prod.fst

/-- An entity shows what a catalogue stores of an asset. -/
def Renders (py : Python) (c : Catalogue) (urn : String) (entity : Json) : Prop :=
  ∀ g, extractGovernance py entity = .ok g →
    (∀ p ∈ migrationProperties, storedValues g p = (c.properties urn p).map (·.map .text)) ∧
    (migrationTag ∈ g.tagUrns ↔ c.tags urn migrationTag)

/-- A server of a catalogue. A mutation, whatever it replies, is applied to the assets
that it reaches; a read shows each asset as the catalogue held it at some time since
the start. -/
structure CatalogueServer (py : Python) {σ : Type}
    (serve : σ → (c : ToolCall) → Result (List (Json × Json)) → σ → Prop) (catalogue : σ → Catalogue)
    (past : σ → Catalogue → Prop) : Prop where
  upsert : ∀ s values urns reply s', serve s (.addStructuredProperties values urns) reply s' →
    ∃ reached, (∀ urn ∈ reached, urn ∈ urns) ∧ catalogue s' = (catalogue s).upsert values reached
  addTags : ∀ s tags urns reply s', serve s (.addTags tags urns) reply s' →
    ∃ reached, (∀ urn ∈ reached, urn ∈ urns) ∧ catalogue s' = (catalogue s).addTags tags reached
  reads : ∀ s urns reply s', serve s (.getEntities urns) reply s' → catalogue s' = catalogue s
  shows : ∀ s urns payload trace s' byUrn, serve s (.getEntities urns) (.ok [(payload, trace)]) s' →
    readbackEntities py payload urns = .ok byUrn → ∀ urn entity, byUrn.get? urn = some entity →
    ∃ k, past s k ∧ Renders py k urn entity
  past : ∀ s c reply s', serve s c reply s' → ∀ k, past s' k → past s k ∨ k = catalogue s'

/-- The catalogue holds the map, and is otherwise as before. -/
structure Written (records : List (String × MigrationWriteback)) (c c' : Catalogue) : Prop where
  values : ∀ e ∈ records, ∀ v ∈ e.2.propertyValues, c'.properties e.1 v.1 = some v.2
  tagged : ∀ e ∈ records, c'.tags e.1 migrationTag
  otherProperties : ∀ urn p, ¬(urn ∈ records.map Prod.fst ∧ p ∈ migrationProperties) →
    c'.properties urn p = c.properties urn p
  otherTags : ∀ urn tag, ¬(urn ∈ records.map Prod.fst ∧ tag = migrationTag) →
    (c'.tags urn tag ↔ c.tags urn tag)

section Values
variable {records : List (String × MigrationWriteback)} {w : MigrationWriteback}

theorem keys_propertyValues (w : MigrationWriteback) :
    w.propertyValues.map Prod.fst = migrationProperties := rfl

theorem migrationProperties_nodup : migrationProperties.Nodup := by decide

theorem lookup_propertyValues {v : String × List String} (h : v ∈ w.propertyValues) :
    w.propertyValues.lookup v.1 = some v.2 :=
  Json.lookup_of_mem (keys_propertyValues w ▸ migrationProperties_nodup) h

theorem lookup_propertyValues_none {p : String} (h : p ∉ migrationProperties) :
    w.propertyValues.lookup p = none := by
  rw [List.lookup_eq_none_iff]
  intro e he
  have hmem : e.1 ∈ migrationProperties := keys_propertyValues w ▸ List.mem_map_of_mem he
  have hne : p ≠ e.1 := by
    rintro rfl
    exact h hmem
  simpa using hne

/-- The map decides the catalogue that it leaves. -/
theorem Written.unique {c c₁ c₂ : Catalogue} (h₁ : Written records c c₁) (h₂ : Written records c c₂) :
    c₁ = c₂ := by
  apply Catalogue.ext
  · funext urn p
    by_cases hp : urn ∈ records.map Prod.fst ∧ p ∈ migrationProperties
    · obtain ⟨e, he, rfl⟩ := List.mem_map.mp hp.1
      have hmem : p ∈ e.2.propertyValues.map Prod.fst := hp.2
      obtain ⟨v, hv, rfl⟩ := List.mem_map.mp hmem
      rw [h₁.values e he v hv, h₂.values e he v hv]
    · rw [h₁.otherProperties urn p hp, h₂.otherProperties urn p hp]
  · funext urn tag
    by_cases ht : urn ∈ records.map Prod.fst ∧ tag = migrationTag
    · obtain ⟨e, he, rfl⟩ := List.mem_map.mp ht.1
      obtain rfl := ht.2
      exact propext (iff_of_true (h₁.tagged e he) (h₂.tagged e he))
    · exact propext ((h₁.otherTags urn tag ht).trans (h₂.otherTags urn tag ht).symm)

/-- The catalogue between attempts: only the map's own properties and tag may differ
from the start, and what an asset once had of the map it keeps. -/
structure Between (records : List (String × MigrationWriteback)) (c₀ : Catalogue)
    (past : Catalogue → Prop) (c : Catalogue) : Prop where
  otherProperties : ∀ urn p, ¬(urn ∈ records.map Prod.fst ∧ p ∈ migrationProperties) →
    c.properties urn p = c₀.properties urn p
  otherTags : ∀ urn tag, ¬(urn ∈ records.map Prod.fst ∧ tag = migrationTag) →
    (c.tags urn tag ↔ c₀.tags urn tag)
  keepsValues : ∀ k, past k → ∀ e ∈ records, ∀ v ∈ e.2.propertyValues,
    k.properties e.1 v.1 = some v.2 → c.properties e.1 v.1 = some v.2
  keepsTag : ∀ k, past k → ∀ urn, k.tags urn migrationTag → c.tags urn migrationTag

end Values

section Attempts
variable {σ : Type} {serve : σ → (c : ToolCall) → Result (List (Json × Json)) → σ → Prop}
  {catalogue : σ → Catalogue} {past : σ → Catalogue → Prop} {s s' : σ}
  {records : List (String × MigrationWriteback)} {c₀ : Catalogue}

theorem Between.step (hserver : CatalogueServer py serve catalogue past)
    (hn : (records.map Prod.fst).Nodup) {c : ToolCall} {reply : Result (List (Json × Json))}
    (hc : Confined records c) (hserve : serve s c reply s')
    (h : Between records c₀ (past s) (catalogue s)) :
    Between records c₀ (past s') (catalogue s') := by
  have hpast := hserver.past s c reply s' hserve
  cases c with
  | getEntities urns =>
    have hsame := hserver.reads s urns reply s' hserve
    rw [hsame] at hpast ⊢
    refine ⟨h.otherProperties, h.otherTags, fun k hk e he v hv hkv => ?_, fun k hk urn hkt => ?_⟩
    · rcases hpast k hk with hk | rfl
      · exact h.keepsValues k hk e he v hv hkv
      · exact hkv
    · rcases hpast k hk with hk | rfl
      · exact h.keepsTag k hk urn hkt
      · exact hkt
  | addTags tags urns =>
    obtain ⟨rfl, rfl⟩ := hc
    obtain ⟨reached, hreached, hsame⟩ := hserver.addTags s _ _ reply s' hserve
    rw [hsame] at hpast ⊢
    refine ⟨h.otherProperties, fun urn tag ht => ?_, fun k hk e he v hv hkv => ?_,
      fun k hk urn hkt => ?_⟩
    · rw [← h.otherTags urn tag ht]
      refine or_iff_left fun hnew => ht ⟨hreached urn hnew.1, by simpa using hnew.2⟩
    · rcases hpast k hk with hk | rfl
      · exact h.keepsValues k hk e he v hv hkv
      · exact hkv
    · rcases hpast k hk with hk | rfl
      · exact .inl (h.keepsTag k hk urn hkt)
      · exact hkt
  | addStructuredProperties values urns =>
    obtain ⟨reached, hreached, hsame⟩ := hserver.upsert s _ _ reply s' hserve
    rw [hsame] at hpast ⊢
    -- an asset that is reached gets values of its own record
    have hown : ∀ urn ∈ reached, ∃ r, (urn, r) ∈ records ∧ values = r.propertyValues :=
      fun urn hurn => (groupRecords_partition records).2 _ hc urn (hreached urn hurn)
    refine ⟨fun urn p hp => ?_, h.otherTags, fun k hk e he v hv hkv => ?_, fun k hk urn hkt => ?_⟩
    · rw [← h.otherProperties urn p hp]
      simp only [Catalogue.upsert]
      split
      · next hurn =>
        obtain ⟨r, hr, rfl⟩ := hown urn hurn
        have hnot : p ∉ migrationProperties := fun hmem => hp ⟨List.mem_map_of_mem hr, hmem⟩
        rw [lookup_propertyValues_none hnot, Option.none_or]
      · rfl
    · rcases hpast k hk with hk | rfl
      · simp only [Catalogue.upsert]
        split
        · next hurn =>
          obtain ⟨r, hr, rfl⟩ := hown e.1 hurn
          obtain rfl : r = e.2 := congrArg Prod.snd (List.inj_on_of_nodup_map hn hr he rfl)
          rw [lookup_propertyValues hv, Option.some_or]
        · exact h.keepsValues k hk e he v hv hkv
      · exact hkv
    · rcases hpast k hk with hk | rfl
      · exact h.keepsTag k hk urn hkt
      · exact hkt

/-- One attempt with the map, on whatever context and however it ends. -/
def Attempt (w : Writer py) (writebacks : Dict MigrationWriteback)
    (serve : σ → (c : ToolCall) → Result (List (Json × Json)) → σ → Prop) (s s' : σ) : Prop :=
  ∃ official suppliedUrns refreshed log r,
    (w.writeAssets official writebacks suppliedUrns refreshed).Runs serve s log r s'

/-- What an accepted map says of the assets, in the frozen order. -/
structure MapRecords (w : Writer py) (writebacks : Dict MigrationWriteback)
    (records : List (String × MigrationWriteback)) : Prop where
  read : w.records writebacks = .ok records
  urns : records.map Prod.fst = w.entityUrns
  own : ∀ e ∈ records, writebacks.get? e.1 = some e.2

end Attempts

theorem fullMatch_eq_true {entity : Json} {record : MigrationWriteback}
    (h : fullMatch py entity record = .ok true) : ∃ g, extractGovernance py entity = .ok g ∧
      (∀ v ∈ record.propertyValues, storedValues g v.1 = some (v.2.map .text)) ∧
      migrationTag ∈ g.tagUrns := by
  simp only [fullMatch, bind_eq_ok] at h
  obtain ⟨b, hb, h⟩ := h
  cases b with
  | false => cases h
  | true =>
    obtain ⟨g, hg, htag⟩ := bind_eq_ok.mp h
    obtain ⟨g', hg', hall⟩ := bind_eq_ok.mp hb
    obtain ⟨⟩ := hg.symm.trans hg'
    refine ⟨g, hg, fun v hv => ?_, List.contains_iff_mem.mp (Except.ok.inj htag)⟩
    have hmatch := Except.ok.inj hall
    exact of_decide_eq_true (List.all_eq_true.mp hmatch v hv)

namespace Writer
variable {w : Writer py} {writebacks : Dict MigrationWriteback} {suppliedUrns : Option (List String)}
  {refreshed : Option (ContextObject py)} {records : List (String × MigrationWriteback)}

/-- Assets that all have a record are read in their order. -/
theorem readAll_ok {writebacks : Dict MigrationWriteback} {urns : List String}
    (h : ∀ urn ∈ urns, ∃ r, writebacks.get? urn = some r) :
    ∃ records, (urns.mapM fun urn => match writebacks.get? urn with
      | some record => .ok (urn, record)
      | none => raise .keyError urn : Result (List (String × MigrationWriteback))) = .ok records ∧
      records.map Prod.fst = urns ∧ ∀ e ∈ records, writebacks.get? e.1 = some e.2 := by
  induction urns with
  | nil => exact ⟨[], rfl, rfl, by simp⟩
  | cons urn urns ih =>
    obtain ⟨r, hr⟩ := h urn (by simp)
    obtain ⟨rest, hrest, hfst, hown⟩ := ih fun u hu => h u (by simp [hu])
    refine ⟨(urn, r) :: rest, ?_, by simp [hfst], ?_⟩
    · rw [List.mapM_cons, bind_eq_ok]
      refine ⟨(urn, r), by rw [hr], ?_⟩
      rw [hrest]
      rfl
    · intro e he
      rcases List.mem_cons.mp he with rfl | he
      · exact hr
      · exact hown e he

theorem records_of_accepted (h : w.checkSupplied writebacks suppliedUrns refreshed = .ok ()) :
    ∃ records, MapRecords w writebacks records := by
  simp only [checkSupplied, bind_eq_ok, require_eq_ok] at h
  obtain ⟨_, -, _, -, _, -, _, howners, -⟩ := h
  have hknown : ∀ urn ∈ w.entityUrns, ∃ r, writebacks.get? urn = some r := by
    intro urn hurn
    have howner := forM_eq_ok.mp howners urn hurn
    simp only [checkOwner, require_eq_ok, Bool.and_eq_true, decide_eq_true_eq] at howner
    cases hget : writebacks.get? urn with
    | some r => exact ⟨r, rfl⟩
    | none =>
      rw [hget] at howner
      obtain ⟨hone, hhead⟩ := howner
      rw [Option.map_none, eq_comm, List.head?_eq_none_iff] at hhead
      rw [hhead] at hone
      cases hone
  obtain ⟨records, hrecords, hfst, hown⟩ := readAll_ok hknown
  exact ⟨records, hrecords, hfst, hown⟩

variable (hrecords : MapRecords w writebacks records)
include hrecords

theorem calls_writeAssets (official : Bool) :
    (w.writeAssets official writebacks suppliedUrns refreshed).Calls (Confined records) := by
  refine Calls.bind (calls_lift _) fun _ => ?_
  rw [hrecords.read]
  exact calls_writeRecords w official hrecords.urns

theorem records_four : records.length = 4 := by
  have hlength := congrArg List.length hrecords.urns
  rw [List.length_map] at hlength
  exact hlength.trans w.assets.1

/-- An attempt with an accepted map does what `Attempted` says. -/
theorem runs_writeAssets {official : Bool}
    (h : w.checkSupplied writebacks suppliedUrns refreshed = .ok ()) {σ : Type}
    {serve : σ → (c : ToolCall) → Result (List (Json × Json)) → σ → Prop} {s s' : σ}
    {log : List (Σ _ : ToolCall, Result (List (Json × Json)))} {r : Result WriteOutcome}
    (hrun : (w.writeAssets official writebacks suppliedUrns refreshed).Runs serve s log r s') :
    Attempted py records log r := by
  obtain ⟨e, he, -⟩ | ⟨_, -, hrun⟩ := runs_lift_bind.mp hrun
  · rw [h] at he
    cases he
  obtain ⟨e, he, -⟩ | ⟨records', hread, hrun⟩ := runs_lift_bind.mp hrun
  · rw [hrecords.read] at he
    cases he
  obtain ⟨⟩ := hrecords.read.symm.trans hread
  exact runs_writeRecords hrecords.urns (records_four hrecords) hrun

section Convergence
variable {σ : Type} {serve : σ → (c : ToolCall) → Result (List (Json × Json)) → σ → Prop}
  {catalogue : σ → Catalogue} {past : σ → Catalogue → Prop}

theorem between_attempts (hserver : CatalogueServer py serve catalogue past) {s₀ s₁ : σ}
    (hstart : ∀ k, past s₀ k → k = catalogue s₀)
    (h : Relation.ReflTransGen (Attempt w writebacks serve) s₀ s₁) :
    Between records (catalogue s₀) (past s₁) (catalogue s₁) := by
  have hn : (records.map Prod.fst).Nodup := hrecords.urns ▸ w.assets.2
  induction h with
  | refl =>
    refine ⟨fun _ _ _ => rfl, fun _ _ _ => Iff.rfl, fun k hk e he v hv hkv => ?_,
      fun k hk urn hkt => ?_⟩
    · rw [← hstart k hk]
      exact hkv
    · rw [← hstart k hk]
      exact hkt
  | tail _ hattempt ih =>
    obtain ⟨official, suppliedUrns, refreshed, log, r, hrun⟩ := hattempt
    exact (calls_writeAssets hrecords official).invariant
      (I := fun s => Between records (catalogue s₀) (past s) (catalogue s))
      (fun s c reply s' hc hserve hI => hI.step hserver hn hc hserve) hrun ih

/-- After failed attempts, one that returns a receipt leaves the catalogue of the map. -/
theorem written_of_receipt (hserver : CatalogueServer py serve catalogue past) {s₀ s₁ s₂ : σ}
    (hstart : ∀ k, past s₀ k → k = catalogue s₀)
    (hbefore : Relation.ReflTransGen (Attempt w writebacks serve) s₀ s₁) {official : Bool}
    (h : w.checkSupplied writebacks suppliedUrns refreshed = .ok ())
    {log : List (Σ _ : ToolCall, Result (List (Json × Json)))} {receipt : WritebackReceipt}
    (hrun : (w.writeAssets official writebacks suppliedUrns refreshed).Runs serve s₁ log
      (.ok (.receipt receipt)) s₂) : Written records (catalogue s₀) (catalogue s₂) := by
  have hn : (records.map Prod.fst).Nodup := hrecords.urns ▸ w.assets.2
  obtain ⟨log', reply, payload, rfl, ⟨trace, byUrn, rfl, hread, hshows⟩, -⟩ :=
    (runs_writeAssets hrecords h hrun).receipt receipt rfl
  obtain ⟨t, hbetween, hserve⟩ := (calls_writeAssets hrecords official).last
    (I := fun s => Between records (catalogue s₀) (past s) (catalogue s))
    (fun s c reply s' hc hserve hI => hI.step hserver hn hc hserve) hrun
    (between_attempts hrecords hserver hstart hbefore) rfl
  rw [hserver.reads t _ _ s₂ hserve]
  have hheld : ∀ e ∈ records, (∀ v ∈ e.2.propertyValues, (catalogue t).properties e.1 v.1 =
      some v.2) ∧ (catalogue t).tags e.1 migrationTag := by
    intro e he
    obtain ⟨entity, hentity, hmatch⟩ := hshows e he
    obtain ⟨k, hk, hrenders⟩ :=
      hserver.shows t _ payload trace s₂ byUrn hserve hread e.1 entity hentity
    obtain ⟨g, hg, hvalues, htag⟩ := fullMatch_eq_true hmatch
    obtain ⟨hproperties, htags⟩ := hrenders g hg
    refine ⟨fun v hv => hbetween.keepsValues k hk e he v hv ?_,
      hbetween.keepsTag k hk e.1 (htags.mp htag)⟩
    have hmem : v.1 ∈ migrationProperties := keys_propertyValues e.2 ▸ List.mem_map_of_mem hv
    have hheld := (hproperties v.1 hmem).symm.trans (hvalues v hv)
    obtain ⟨held, hk', htexts⟩ := Option.map_eq_some_iff.mp hheld
    rw [hk', List.map_injective_iff.mpr (fun _ _ => PropertyValue.text.inj) htexts]
  exact ⟨fun e he => (hheld e he).1, fun e he => (hheld e he).2, hbetween.otherProperties,
    hbetween.otherTags⟩

end Convergence

end Writer
/-- For every accepted map: every asset is in one property group, with its own values; an
attempt calls nothing but these mutations and the reads, its receipt rests on a last read
that showed all assets as the map says, and it ends in a receipt or in the error that
carries the numbered journal exactly if the entities that it read are legible; and an
attempt that returns a receipt after any others leaves the catalogue of the map, the one
that a single attempt leaves. -/
theorem writeAssets_converges (py : Python) (w : Writer py) (official : Bool)
    (writebacks : Dict MigrationWriteback) (suppliedUrns : Option (List String))
    (refreshed : Option (ContextObject py))
    (h : w.checkSupplied writebacks suppliedUrns refreshed = .ok ()) : ∃ records,
    MapRecords w writebacks records ∧
    ((groupRecords records).flatMap PropertyGroup.urns).Perm w.entityUrns ∧
    (∀ g ∈ groupRecords records, ∀ urn ∈ g.urns, ∃ r, writebacks.get? urn = some r ∧
      g.values = r.propertyValues) ∧
    (∀ (σ : Type) (serve : σ → (c : ToolCall) → Result (List (Json × Json)) → σ → Prop) s log r s',
      (w.writeAssets official writebacks suppliedUrns refreshed).Runs serve s log r s' →
      Attempted py records log r) ∧
    ∀ (σ : Type) (serve : σ → (c : ToolCall) → Result (List (Json × Json)) → σ → Prop)
      (catalogue : σ → Catalogue) (past : σ → Catalogue → Prop),
      CatalogueServer py serve catalogue past → ∀ s₀ s₁ s₂ log receipt,
      (∀ k, past s₀ k → k = catalogue s₀) →
      Relation.ReflTransGen (Attempt w writebacks serve) s₀ s₁ →
      (w.writeAssets official writebacks suppliedUrns refreshed).Runs serve s₁ log
        (.ok (.receipt receipt)) s₂ →
      Written records (catalogue s₀) (catalogue s₂) ∧
      ∀ t₀ t log' receipt', (∀ k, past t₀ k → k = catalogue t₀) → catalogue t₀ = catalogue s₀ →
        (w.writeAssets official writebacks suppliedUrns refreshed).Runs serve t₀ log'
          (.ok (.receipt receipt')) t → catalogue s₂ = catalogue t := by
  obtain ⟨records, hrecords⟩ := Writer.records_of_accepted h
  obtain ⟨honce, hown⟩ := groupRecords_partition records
  refine ⟨records, hrecords, hrecords.urns ▸ honce, fun g hg urn hurn => ?_,
    fun σ serve s log r s' hrun => Writer.runs_writeAssets hrecords h hrun, ?_⟩
  · obtain ⟨r, hr, hvalues⟩ := hown g hg urn hurn
    exact ⟨r, hrecords.own _ hr, hvalues⟩
  · intro σ serve catalogue past hserver s₀ s₁ s₂ log receipt hstart hbefore hrun
    have hwritten := Writer.written_of_receipt hrecords hserver hstart hbefore h hrun
    refine ⟨hwritten, fun t₀ t log' receipt' hstart' hsame hsingle => ?_⟩
    have hwritten' := Writer.written_of_receipt hrecords hserver hstart' .refl h hsingle
    rw [hsame] at hwritten'
    exact hwritten.unique hwritten'

/-- An entity found under its URN is one of the list, or was there before. -/
theorem mem_of_fold {urn : String} {entity : Json} (l : List Json) {d : Dict Json}
    (hget : (l.foldl (fun d e => match urnOf? e with
      | some urn => d.set urn e
      | none => d) d).get? urn = some entity) :
    (entity ∈ l ∧ urnOf? entity = some urn) ∨ d.get? urn = some entity := by
  induction l generalizing d with
  | nil => exact .inr hget
  | cons e l ih =>
    rcases ih hget with ⟨hmem, hurn⟩ | hd
    · exact .inl ⟨List.mem_cons_of_mem e hmem, hurn⟩
    · cases hu : urnOf? e with
      | none => exact .inr (by simpa [hu] using hd)
      | some u =>
        simp only [hu, Dict.get?_set] at hd
        split at hd
        · next he =>
          obtain rfl := Option.some.inj hd
          exact .inl ⟨by simp, he ▸ hu⟩
        · exact .inr hd

theorem mem_of_readback {payload : Json} {urns : List String} {byUrn : Dict Json}
    (h : readbackEntities py payload urns = .ok byUrn) {urn : String} {entity : Json}
    (hget : byUrn.get? urn = some entity) :
    entity ∈ (asList? payload).getD [payload] ∧ urnOf? entity = some urn := by
  simp only [readbackEntities, bind_eq_ok] at h
  obtain ⟨_, -, ⟨⟩⟩ := h
  exact (mem_of_fold _ hget).resolve_right (by simp)

section Samples

def sampleRecord : MigrationWriteback where
  migrationId := ChangeIntent.sample.migrationId
  status := "PREPARED"
  owner := "urn:li:corpuser:o"
  evidenceUrl := "https://e/s.json"

def sampleMap : Dict MigrationWriteback :=
  sampleContextData.assetUrns.foldl (fun d urn => d.set urn sampleRecord) Dict.empty

/-- Whether the properties of the sample map are there, and whether its tag is. -/
abbrev SampleState := Bool × Bool

def sampleEntity (s : SampleState) (urn : String) : Json :=
  let values := if s.1 then sampleRecord.propertyValues else []
  let tags := if s.2 then [migrationTag] else []
  .obj [("urn", .str urn),
    ("tags", .obj [("tags", .arr (tags.map fun tag => .obj [("tag", .obj [("urn", .str tag)])]))]),
    ("structuredProperties", .obj [("properties", .arr (values.map fun e => .obj [
      ("structuredProperty", .obj [("urn", .str e.1)]),
      ("values", .arr (e.2.map fun v => .obj [("stringValue", .str v)]))]))])]

def refuse (s : SampleState) : Result (List (Json × Json)) × SampleState :=
  (raise (.other "RuntimeError") "refused", s)

/-- A server that takes the calls of the sample map and shows what it stores. -/
def sampleServer (s : SampleState) (c : ToolCall) : Result (List (Json × Json)) × SampleState :=
  let urns := sampleContextData.assetUrns
  let accepted : Result (List (Json × Json)) := .ok [(.obj [("success", .bool true)], .obj [])]
  match c with
  | .addStructuredProperties values urns' =>
    if values = sampleRecord.propertyValues ∧ urns' = urns then (accepted, (true, s.2)) else refuse s
  | .addTags tags urns' =>
    if tags = [migrationTag] ∧ urns' = urns then (accepted, (s.1, true)) else refuse s
  | .getEntities urns' =>
    if urns' = urns then (.ok [(.arr (urns.map (sampleEntity s)), .obj [])], s) else refuse s

def sampleCatalogue (s : SampleState) : Catalogue where
  properties urn property := if s.1 = true ∧ urn ∈ sampleContextData.assetUrns then
    sampleRecord.propertyValues.lookup property else none
  tags urn tag := s.2 = true ∧ urn ∈ sampleContextData.assetUrns ∧ tag = migrationTag

theorem sampleEntity_renders (s : SampleState) (urn : String)
    (h : urn ∈ sampleContextData.assetUrns) :
    Renders samplePython (sampleCatalogue s) urn (sampleEntity s urn) := by
  have hall : ∀ values tag : Bool, ∀ urn ∈ sampleContextData.assetUrns,
      ((extractGovernance samplePython (sampleEntity (values, tag) urn)).toOption.all fun g =>
        migrationProperties.all (fun p => storedValues g p =
          ((if values then sampleRecord.propertyValues.lookup p else none).map (·.map .text))) &&
        g.tagUrns.contains migrationTag == tag) = true := by
    decide +kernel
  intro g hg
  have hone := hall s.1 s.2 urn h
  rw [hg] at hone
  simp only [Except.toOption, Option.all_some, Bool.and_eq_true, List.all_eq_true,
    decide_eq_true_eq, beq_iff_eq] at hone
  refine ⟨fun p hp => ?_, ?_⟩
  · rw [hone.1 p hp]
    simp [sampleCatalogue, h]
  · rw [← List.contains_iff_mem, hone.2]
    simp [sampleCatalogue, h]

theorem sampleServer_catalogue : CatalogueServer samplePython
    (fun s c reply s' => sampleServer s c = (reply, s')) sampleCatalogue
    (fun s k => k = sampleCatalogue s) where
  upsert s values urns reply s' h := by
    simp only [sampleServer] at h
    split at h
    · next hcall =>
      obtain ⟨rfl, rfl⟩ := hcall
      obtain ⟨-, rfl⟩ := Prod.mk.inj h
      refine ⟨_, fun _ hurn => hurn, Catalogue.ext (funext fun urn => funext fun p => ?_) rfl⟩
      by_cases hurn : urn ∈ sampleContextData.assetUrns
      · cases hlookup : sampleRecord.propertyValues.lookup p <;>
          simp [sampleCatalogue, Catalogue.upsert, hurn, hlookup]
      · simp [sampleCatalogue, Catalogue.upsert, hurn]
    · obtain ⟨-, rfl⟩ := Prod.mk.inj h
      exact ⟨[], by simp, by simp [Catalogue.upsert]⟩
  addTags s tags urns reply s' h := by
    simp only [sampleServer] at h
    split at h
    · next hcall =>
      obtain ⟨rfl, rfl⟩ := hcall
      obtain ⟨-, rfl⟩ := Prod.mk.inj h
      refine ⟨_, fun _ hurn => hurn, Catalogue.ext rfl (funext fun urn => funext fun tag => ?_)⟩
      simp [sampleCatalogue, Catalogue.addTags]
    · obtain ⟨-, rfl⟩ := Prod.mk.inj h
      exact ⟨[], by simp, by simp [Catalogue.addTags]⟩
  reads s urns reply s' h := by
    simp only [sampleServer] at h
    split at h <;> · obtain ⟨-, rfl⟩ := Prod.mk.inj h; rfl
  shows s urns payload trace s' byUrn h hread urn entity hget := by
    simp only [sampleServer] at h
    split at h
    · obtain ⟨hreply, rfl⟩ := Prod.mk.inj h
      obtain ⟨rfl, rfl⟩ : payload = .arr (sampleContextData.assetUrns.map (sampleEntity s)) ∧
          trace = .obj [] := by
        simpa [eq_comm] using hreply
      obtain ⟨hmem, hurn⟩ := mem_of_readback hread hget
      obtain ⟨u, hu, rfl⟩ := List.mem_map.mp (by simpa [asList?] using hmem)
      obtain rfl : u = urn := by simpa [urnOf?, sampleEntity, Json.lookup_cons_if, asStr?] using hurn
      exact ⟨_, rfl, sampleEntity_renders s u hu⟩
    · obtain ⟨hreply, -⟩ := Prod.mk.inj h
      cases hreply
  past s c reply s' h k hk := .inr hk

def WriteOutcome.isReceipt : WriteOutcome → Bool
  | .receipt _ => true
  | .partialWrite _ => false

theorem sampleMap_accepted : sampleWriter.checkSupplied sampleMap none none = .ok () := by
  obtain ⟨u, hu⟩ := exists_of_isOk (show (sampleWriter.checkSupplied sampleMap none none).isOk = true
    by decide +kernel)
  exact hu

/-- Records of one value make one group. -/
theorem groupRecords_same (r : MigrationWriteback) (urn : String) (urns : List String) :
    groupRecords ((urn :: urns).map fun u => (u, r)) = [⟨r.propertyValues, urn :: urns⟩] := by
  have hrest : ∀ (urns done : List String), ((urns.map fun u => (u, r)).foldl addToGroup
      (Dict.empty.set (stableJson (valuesJson r.propertyValues)) ⟨r.propertyValues, done⟩)) =
      Dict.empty.set (stableJson (valuesJson r.propertyValues)) ⟨r.propertyValues, done ++ urns⟩ := by
    intro urns
    induction urns with
    | nil => simp
    | cons u urns ih =>
      intro done
      rw [List.map_cons, List.foldl_cons, addToGroup]
      have hget : (Dict.empty.set (stableJson (valuesJson r.propertyValues))
          (⟨r.propertyValues, done⟩ : PropertyGroup)).get?
          (stableJson (valuesJson r.propertyValues)) = some ⟨r.propertyValues, done⟩ := by
        rw [Dict.get?_set, if_pos rfl]
      simp only [hget, Option.getD_some]
      have hset := ih (done ++ [u])
      rw [List.append_assoc] at hset
      refine Eq.trans (congrArg (List.foldl addToGroup · _) ?_) hset
      apply Subtype.ext
      simp [Dict.set, Dict.empty, Json.assign]
  have hfirst : addToGroup Dict.empty (urn, r) =
      Dict.empty.set (stableJson (valuesJson r.propertyValues)) ⟨r.propertyValues, [urn]⟩ := rfl
  rw [groupRecords, List.map_cons, List.foldl_cons, hfirst, hrest]
  rfl

theorem sampleMap_records : sampleWriter.records sampleMap =
    .ok (sampleContextData.assetUrns.map fun urn => (urn, sampleRecord)) := by
  decide +kernel

/-- The attempt with the sample map, which makes one group. -/
theorem sampleWrite_eq : sampleWriter.writeAssets false sampleMap none none = (do
    let p ← upsertGroups [⟨sampleRecord.propertyValues, sampleContextData.assetUrns⟩] {}
    let records := sampleContextData.assetUrns.map fun urn => (urn, sampleRecord)
    let p ← tagPhase sampleWriter.entityUrns p
    let attempts := if p.failure.isNone then readbackAttempts else 1
    let (p, readback) ← readbackLoop samplePython records attempts {} p
    if readback.terminalSuccess then
      return .receipt (sampleWriter.receiptOf false records p readback)
    return .partialWrite (sampleWriter.partialWriteOf p readback)) := by
  have hgroups := groupRecords_same sampleRecord sampleContextData.sourceUrn
    (sampleContextData.consumers.map (·.urn))
  have hbind : ∀ {α : Type} {f : Unit → WriteProg α}, (liftM (.ok () : Result Unit) >>= f) = f () :=
    rfl
  have hread : ∀ {α β : Type} {a : α} {f : α → WriteProg β},
      (liftM (.ok a : Result α) >>= f) = f a := rfl
  rw [Writer.writeAssets, sampleMap_accepted, hbind, sampleMap_records, hread, Writer.writeRecords,
    ContextData.assetUrns, hgroups]

/-- Against the sample server the sample map ends in a receipt, and is written. -/
theorem sampleWrite_converges : ∃ s log receipt,
    (sampleWriter.writeAssets false sampleMap none none).Runs
      (fun s c reply s' => sampleServer s c = (reply, s')) (false, false) log (.ok (.receipt receipt)) s ∧
    ∃ records, MapRecords sampleWriter sampleMap records ∧
      Written records (sampleCatalogue (false, false)) (sampleCatalogue s) := by
  obtain ⟨log, hrun⟩ := Prog.exec_runs sampleServer
    (sampleWriter.writeAssets false sampleMap none none) (false, false)
  have hreceipt : (((sampleWriter.writeAssets false sampleMap none none).exec sampleServer
      (false, false)).1.toOption.map WriteOutcome.isReceipt) = some true := by
    rw [sampleWrite_eq]
    decide +kernel
  generalize hend : (sampleWriter.writeAssets false sampleMap none none).exec sampleServer
    (false, false) = last at hrun hreceipt
  obtain ⟨r, s⟩ := last
  cases r with
  | error e => cases hreceipt
  | ok outcome =>
    cases outcome with
    | partialWrite e => cases hreceipt
    | receipt receipt =>
      obtain ⟨records, hrecords, -, -, -, hconverges⟩ :=
        writeAssets_converges samplePython sampleWriter false sampleMap none none sampleMap_accepted
      exact ⟨s, log, receipt, hrun, records, hrecords, (hconverges _ _ _ _ sampleServer_catalogue
        (false, false) (false, false) s log receipt (fun _ hk => hk) .refl hrun).1⟩

/-- A server whose entities have a text where the owners should be. -/
def illegibleServer (_ : Unit) : ToolCall → Result (List (Json × Json)) × Unit
  | .getEntities urns => (.ok [(.arr (urns.map fun urn =>
      .obj [("urn", .str urn), ("ownership", .str "unknown")]), .obj [])], ())
  | _ => (.ok [(.obj [("success", .bool true)], .obj [])], ())

/-- An attempt with an accepted map may end in neither a receipt nor a journal. -/
theorem writeAssets_raises_otherwise : ¬∀ (σ : Type)
    (serve : σ → (c : ToolCall) → Result (List (Json × Json)) → σ → Prop) s log r s',
    (sampleWriter.writeAssets false sampleMap none none).Runs serve s log r s' →
    ∃ outcome, r = .ok outcome ∧ Numbered outcome.journal := by
  intro h
  obtain ⟨log, hrun⟩ := Prog.exec_runs illegibleServer
    (sampleWriter.writeAssets false sampleMap none none) ()
  obtain ⟨outcome, houtcome, -⟩ := h _ _ _ _ _ _ hrun
  have hraised : ((sampleWriter.writeAssets false sampleMap none none).exec illegibleServer
      ()).1.isOk = false := by
    rw [sampleWrite_eq]
    decide +kernel
  rw [houtcome] at hraised
  cases hraised

end Samples

end LineageTX
