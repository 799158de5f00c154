import LineageTX.WriteAssets
import LineageTX.StageWriteback

/-! What one attempt to write may do, what it has seen when it returns a receipt, and
where a sequence of attempts leads. -/
namespace LineageTX
open Library Prog
variable {py : Python}

section Groups

theorem valuesJson_injective {w w' : MigrationWriteback}
    (h : stableJson (valuesJson w.propertyValues) = stableJson (valuesJson w'.propertyValues)) :
    w.propertyValues = w'.propertyValues := by
  have hsorted := (Json.dumps_eq_iff _).mp h
  rw [valuesJson, valuesJson, Json.sortKeys_obj_eq_iff (by rfl)
    (by simp [MigrationWriteback.propertyValues]; decide)] at hsorted
  have hone : ∀ {a b : String}, Json.sortKeys (.arr [.str a]) = Json.sortKeys (.arr [.str b]) →
      a = b := by
    intro a b hab
    have harr := (sortKeys_strs [a]).symm.trans (hab.trans (sortKeys_strs [b]))
    simpa using strs_injective harr
  simp only [MigrationWriteback.propertyValues, List.map_cons, List.map_nil, List.cons.injEq,
    and_true] at hsorted
  obtain ⟨h₁, h₂, h₃, h₄⟩ := hsorted
  simp only [MigrationWriteback.propertyValues, hone h₁, hone h₂, hone h₃, hone h₄]

theorem mem_flatMap_assign {group group' : PropertyGroup} {key urn : String}
    {m : List (String × PropertyGroup)} (hlookup : m.lookup key = some group)
    (hurns : group'.urns = group.urns ++ [urn]) :
    ((Json.assign key group' m).flatMap fun e => e.2.urns).Perm
      (m.flatMap (fun e => e.2.urns) ++ [urn]) := by
  induction m with
  | nil => simp at hlookup
  | cons e m ih =>
    obtain ⟨k, g⟩ := e
    by_cases hk : k = key
    · subst hk
      obtain rfl : g = group := by simpa using hlookup
      simp only [Json.assign, if_true, List.flatMap_cons, hurns, List.append_assoc]
      exact (List.perm_append_comm).append_left _
    · have hrest : m.lookup key = some group := by
        simpa [List.lookup_cons, beq_false_of_ne (Ne.symm hk)] using hlookup
      simp only [Json.assign, hk, if_false, List.flatMap_cons, List.append_assoc]
      exact (ih hrest).append_left _

/-- The groups of the records done so far. -/
structure Grouped (done : List (String × MigrationWriteback)) (d : Dict PropertyGroup) : Prop where
  keys : ∀ e ∈ d.val, e.1 = stableJson (valuesJson e.2.values) ∧
    ∃ w : MigrationWriteback, e.2.values = w.propertyValues
  members : ∀ e ∈ d.val, ∀ urn ∈ e.2.urns, ∃ r, (urn, r) ∈ done ∧ e.2.values = r.propertyValues
  once : (d.val.flatMap fun e => e.2.urns).Perm (done.map Prod.fst)

theorem Grouped.step {done : List (String × MigrationWriteback)} {d : Dict PropertyGroup}
    (h : Grouped done d) (record : String × MigrationWriteback) :
    Grouped (done ++ [record]) (addToGroup d record) := by
  obtain ⟨urn, r⟩ := record
  -- the text of the key stays folded
  obtain ⟨key, hkeydef⟩ : ∃ key, key = stableJson (valuesJson r.propertyValues) := ⟨_, rfl⟩
  have hadd : addToGroup d (urn, r) = d.set key { (d.get? key).getD ⟨r.propertyValues, []⟩ with
      urns := ((d.get? key).getD ⟨r.propertyValues, []⟩).urns ++ [urn] } := by
    rw [hkeydef]
    rfl
  rw [hadd]
  cases hget : d.get? key with
  | none =>
    have hnew : key ∉ d.keys := by
      rw [Dict.mem_keys]
      simp [hget]
    simp only [Option.getD_none, List.nil_append]
    have hval := Dict.val_set_of_notMem
      (⟨r.propertyValues, [urn]⟩ : PropertyGroup) hnew
    refine ⟨?_, ?_, ?_⟩
    · rw [hval]
      intro e he
      rcases List.mem_append.mp he with he | he
      · exact h.keys e he
      · obtain rfl := List.mem_singleton.mp he
        exact ⟨hkeydef, r, rfl⟩
    · rw [hval]
      intro e he u hu
      rcases List.mem_append.mp he with he | he
      · obtain ⟨r', hr', hvalues⟩ := h.members e he u hu
        exact ⟨r', by simp [hr'], hvalues⟩
      · obtain rfl := List.mem_singleton.mp he
        obtain rfl := List.mem_singleton.mp hu
        exact ⟨r, by simp, rfl⟩
    · rw [hval]
      simpa using h.once.append_right [urn]
  | some group =>
    simp only [Option.getD_some]
    have hmem := (Dict.mem_iff_get? _ _ _).mpr hget
    obtain ⟨hkey, w, hw⟩ := h.keys _ hmem
    have hvalues : group.values = r.propertyValues := by
      rw [hw] at hkey ⊢
      exact (valuesJson_injective (hkeydef.symm.trans hkey)).symm
    have hcases : ∀ e ∈ (d.set key { group with urns := group.urns ++ [urn] }).val,
        e = (key, { group with urns := group.urns ++ [urn] }) ∨ e ∈ d.val := by
      rintro ⟨k, g⟩ he
      rw [Dict.mem_iff_get?, Dict.get?_set] at he
      split at he
      · next hk =>
        obtain rfl := Option.some.inj he
        exact .inl (by rw [hk])
      · exact .inr ((Dict.mem_iff_get? _ _ _).mpr he)
    refine ⟨fun e he => ?_, fun e he u hu => ?_, ?_⟩
    · rcases hcases e he with rfl | he
      · exact ⟨by rw [hvalues, hkeydef], r, hvalues⟩
      · exact h.keys e he
    · rcases hcases e he with rfl | he
      · rcases List.mem_append.mp hu with hu | hu
        · obtain ⟨r', hr', hv⟩ := h.members _ hmem u hu
          exact ⟨r', by simp [hr'], hv⟩
        · obtain rfl := List.mem_singleton.mp hu
          exact ⟨r, by simp, hvalues⟩
      · obtain ⟨r', hr', hv⟩ := h.members e he u hu
        exact ⟨r', by simp [hr'], hv⟩
    · refine (mem_flatMap_assign hget rfl).trans ?_
      rw [List.map_append]
      exact h.once.append_right _

theorem grouped_foldl {records done : List (String × MigrationWriteback)} {d : Dict PropertyGroup}
    (h : Grouped done d) : Grouped (done ++ records) (records.foldl addToGroup d) := by
  induction records generalizing done d with
  | nil => simpa using h
  | cons record records ih => simpa using ih (h.step record)

/-- Every asset is in one group, which carries its own values. -/
theorem groupRecords_partition (records : List (String × MigrationWriteback)) :
    ((groupRecords records).flatMap PropertyGroup.urns).Perm (records.map Prod.fst) ∧
    ∀ g ∈ groupRecords records, ∀ urn ∈ g.urns, ∃ r, (urn, r) ∈ records ∧
      g.values = r.propertyValues := by
  have h : Grouped ([] ++ records) (records.foldl addToGroup Dict.empty) :=
    grouped_foldl ⟨by simp [Dict.empty], by simp [Dict.empty], by simp [Dict.empty]⟩
  refine ⟨?_, fun g hg urn hurn => ?_⟩
  · simpa [groupRecords, List.flatMap_map] using h.once
  · obtain ⟨e, he, rfl⟩ := List.mem_map.mp hg
    exact h.members e he urn hurn

end Groups

section Phases
variable {σ : Type} {serve : σ → (c : ToolCall) → Result (List (Json × Json)) → σ → Prop}
  {s s' : σ} {log : List (Σ _ : ToolCall, Result (List (Json × Json)))}
  {p p' : Progress} {records : List (String × MigrationWriteback)}

def oneResponse (c : ToolCall) : Result (List (Json × Json)) → Result (Json × Json)
  | .ok [response] => .ok response
  | .ok responses =>
    .error ⟨.dataHubWritebackError, s!"DataHub MCP {c.name} returned {responses.length} envelopes"⟩
  | .error e => .error e

theorem runs_oneCall {c : ToolCall} {r : Result (Json × Json)}
    (h : (oneCall c).Runs serve s log r s') :
    ∃ reply, log = [⟨c, reply⟩] ∧ serve s c reply s' ∧ r = oneResponse c reply := by
  obtain ⟨reply, s₁, log', rfl, hserve, hnext⟩ := runs_call.mp h
  refine ⟨reply, ?_⟩
  cases reply with
  | error e =>
    obtain ⟨rfl, rfl, rfl⟩ := runs_done.mp hnext
    exact ⟨rfl, hserve, rfl⟩
  | ok responses =>
    match responses, hnext with
    | [], hnext =>
      obtain ⟨rfl, rfl, rfl⟩ := runs_done.mp hnext
      exact ⟨rfl, hserve, rfl⟩
    | [response], hnext =>
      obtain ⟨rfl, rfl, rfl⟩ := runs_done.mp hnext
      exact ⟨rfl, hserve, rfl⟩
    | a :: b :: rest, hnext =>
      obtain ⟨rfl, rfl, rfl⟩ := runs_done.mp hnext
      exact ⟨rfl, hserve, rfl⟩

/-- The calls that an attempt may make: the properties of one of its groups, the tag of
all assets, and the read of all assets. -/
def Confined (records : List (String × MigrationWriteback)) : ToolCall → Prop
  | .addStructuredProperties values urns => ⟨values, urns⟩ ∈ groupRecords records
  | .addTags tags urns => tags = [migrationTag] ∧ urns = records.map Prod.fst
  | .getEntities urns => urns = records.map Prod.fst

theorem calls_oneCall {P : ToolCall → Prop} {c : ToolCall} (h : P c) : (oneCall c).Calls P := by
  refine Calls.bind (calls_perform.mpr h) fun responses => ?_
  split
  · exact calls_pure _
  · exact calls_throw _

theorem calls_upsertGroup {P : ToolCall → Prop} {g : PropertyGroup}
    (h : P (.addStructuredProperties g.values g.urns)) : (upsertGroup g p).Calls P := by
  refine Calls.bind (calls_oneCall h).attempt fun r => ?_
  split
  · exact Calls.ite (calls_pure _) (calls_pure _)
  · exact calls_pure _

theorem calls_upsertGroups {P : ToolCall → Prop} {groups : List PropertyGroup}
    (h : ∀ g ∈ groups, P (.addStructuredProperties g.values g.urns)) :
    (upsertGroups groups p).Calls P := by
  induction groups generalizing p with
  | nil => exact calls_pure _
  | cons g groups ih =>
    refine (calls_upsertGroup (h g (by simp))).bind fun p' => ?_
    exact Calls.ite (calls_pure _) (ih fun g' hg' => h g' (by simp [hg']))

theorem calls_addMigrationTag {P : ToolCall → Prop} {urns : List String}
    (h : P (.addTags [migrationTag] urns)) : (addMigrationTag urns p).Calls P := by
  refine Calls.bind (calls_oneCall h).attempt fun r => ?_
  split
  · exact Calls.ite (calls_pure _) (calls_pure _)
  · exact calls_pure _

theorem calls_readbackLoop {P : ToolCall → Prop} {attempts : Nat} {last : Readback}
    (h : P (.getEntities (records.map Prod.fst))) :
    (readbackLoop py records attempts last p).Calls P := by
  induction attempts generalizing last p with
  | zero => exact calls_pure _
  | succ attempts ih =>
    refine Calls.bind ?_ fun x => Calls.ite (calls_pure _) ih
    refine Calls.bind ?_ fun x => Calls.bind (calls_lift _) fun _ =>
      Calls.bind (calls_lift _) fun _ => calls_pure _
    refine Calls.bind (calls_oneCall h).attempt fun r => ?_
    split
    · split <;> exact calls_pure _
    · exact calls_pure _

theorem calls_writeRecords (w : Writer py) (official : Bool) (hurns : records.map Prod.fst = w.entityUrns) :
    (w.writeRecords official records).Calls (Confined records) := by
  refine (calls_upsertGroups fun g hg => hg).bind fun p => ?_
  have htag : Confined records (.addTags [migrationTag] w.entityUrns) := ⟨rfl, hurns.symm⟩
  refine Calls.bind (Calls.ite (calls_addMigrationTag htag) (calls_pure _)) fun p => ?_
  have hread : Confined records (.getEntities (records.map Prod.fst)) := rfl
  refine (calls_readbackLoop hread).bind fun x => ?_
  obtain ⟨p', readback⟩ := x
  exact Calls.ite (calls_pure _) (calls_pure _)

/-- The journal is numbered from one. -/
def Numbered (journal : List JournalEntry) : Prop :=
  journal.map JournalEntry.sequence = List.range' 1 journal.length

theorem Numbered.note (h : Numbered p.journal) {operation : String} {assets : List String}
    {success : Bool} {error : Option JournalError} :
    Numbered (p.note operation assets success error).journal := by
  simp only [Numbered, Progress.note] at h ⊢
  rw [List.map_append, h, List.length_append, List.length_singleton, List.range'_1_concat]
  simp [Nat.add_comm]

theorem ends_upsertGroups {groups : List PropertyGroup} (h : Numbered p.journal) :
    (upsertGroups groups p).Ends fun r => ∃ p', r = .ok p' ∧ Numbered p'.journal := by
  induction groups generalizing p with
  | nil => exact ⟨p, rfl, h⟩
  | cons g groups ih =>
    refine Ends.bind (Q := fun r => ∃ p', r = .ok p' ∧ Numbered p'.journal) ?_ ?_ ?_
    · refine Ends.attempt_bind fun r => ?_
      split
      · split
        · exact ⟨_, rfl, Numbered.note (by exact h)⟩
        · exact ⟨_, rfl, Numbered.note (by exact h)⟩
      · exact ⟨_, rfl, Numbered.note h⟩
    · rintro e ⟨p', he, -⟩
      cases he
    · rintro p' ⟨_, ⟨⟩, hp'⟩
      split
      · exact ⟨_, rfl, hp'⟩
      · exact ih hp'

theorem ends_addMigrationTag {urns : List String} (h : Numbered p.journal) :
    (addMigrationTag urns p).Ends fun r => ∃ p', r = .ok p' ∧ Numbered p'.journal := by
  refine Ends.attempt_bind fun r => ?_
  split
  · split
    · exact ⟨_, rfl, Numbered.note (by exact h)⟩
    · exact ⟨_, rfl, Numbered.note (by exact h)⟩
  · exact ⟨_, rfl, Numbered.note h⟩

/-- The entities of an answer that names the exact assets can be read. -/
def Legible (py : Python) (urns : List String) (reply : Result (List (Json × Json))) : Prop :=
  ∀ payload trace byUrn, reply = .ok [(payload, trace)] →
    readbackEntities py payload urns = .ok byUrn → ∀ urn ∈ urns, ∀ entity,
      byUrn.get? urn = some entity → ∃ g, extractGovernance py entity = .ok g

/-- The answer shows every asset with its own values and the migration tag. -/
def Shows (py : Python) (records : List (String × MigrationWriteback))
    (reply : Result (List (Json × Json))) (payload : Json) : Prop :=
  ∃ trace byUrn, reply = .ok [(payload, trace)] ∧
    readbackEntities py payload (records.map Prod.fst) = .ok byUrn ∧
    ∀ e ∈ records, ∃ entity, byUrn.get? e.1 = some entity ∧ fullMatch py entity e.2 = .ok true

theorem propertyMatch_ok_iff {entity : Json} {record : MigrationWriteback} :
    (∃ b, propertyMatch py entity record = .ok b) ↔ ∃ g, extractGovernance py entity = .ok g := by
  simp only [propertyMatch, bind_eq_ok]
  constructor
  · rintro ⟨_, g, hg, -⟩
    exact ⟨g, hg⟩
  · rintro ⟨g, hg⟩
    exact ⟨_, g, hg, rfl⟩

theorem fullMatch_ok_iff {entity : Json} {record : MigrationWriteback} :
    (∃ b, fullMatch py entity record = .ok b) ↔ ∃ g, extractGovernance py entity = .ok g := by
  rw [← @propertyMatch_ok_iff py entity record]
  simp only [fullMatch, bind_eq_ok]
  constructor
  · rintro ⟨b, b', hb', -⟩
    exact ⟨b', hb'⟩
  · rintro ⟨b, hb⟩
    obtain ⟨g, hg⟩ := propertyMatch_ok_iff.mp ⟨b, hb⟩
    cases b with
    | false => exact ⟨false, false, hb, rfl⟩
    | true => exact ⟨_, true, hb, bind_eq_ok.mpr ⟨g, hg, rfl⟩⟩

section Matching
variable {test : Json → MigrationWriteback → Result Bool} {fallback : String → Bool}
  {byUrn : Dict Json}

theorem assetsMatching_ok_iff : (∃ l, assetsMatching test fallback byUrn records = .ok l) ↔
    ∀ e ∈ records, ∀ entity, byUrn.get? e.1 = some entity → ∃ b, test entity e.2 = .ok b := by
  induction records with
  | nil => simp [assetsMatching]
  | cons e records ih =>
    rw [List.forall_mem_cons, ← ih]
    simp only [assetsMatching, bind_eq_ok]
    constructor
    · rintro ⟨l, b, hb, rest, hrest, -⟩
      refine ⟨fun entity hentity => ?_, rest, hrest⟩
      rw [testAsset, hentity] at hb
      exact ⟨b, hb⟩
    · rintro ⟨htest, rest, hrest⟩
      cases hget : byUrn.get? e.1 with
      | none => exact ⟨_, fallback e.1, by rw [testAsset, hget], rest, hrest, rfl⟩
      | some entity =>
        obtain ⟨b, hb⟩ := htest entity hget
        exact ⟨_, b, by rw [testAsset, hget]; exact hb, rest, hrest, rfl⟩

theorem assetsMatching_length {l : List String}
    (h : assetsMatching test fallback byUrn records = .ok l) : l.length ≤ records.length ∧
      (l.length = records.length → ∀ e ∈ records, (∃ entity, byUrn.get? e.1 = some entity ∧
        test entity e.2 = .ok true) ∨ byUrn.get? e.1 = none) := by
  induction records generalizing l with
  | nil =>
    obtain ⟨⟩ := h
    simp
  | cons e records ih =>
    simp only [assetsMatching, bind_eq_ok] at h
    obtain ⟨b, hb, rest, hrest, ⟨⟩⟩ := h
    obtain ⟨hle, hall⟩ := ih hrest
    cases b with
    | false =>
      simp only [Bool.false_eq_true, if_false, List.length_cons]
      exact ⟨by omega, fun hlen => by omega⟩
    | true =>
      simp only [if_true, List.length_cons, List.forall_mem_cons]
      refine ⟨by omega, fun hlen => ⟨?_, hall (by omega)⟩⟩
      cases hget : byUrn.get? e.1 with
      | none => exact .inr rfl
      | some entity =>
        rw [testAsset, hget] at hb
        exact .inl ⟨entity, rfl, hb⟩

end Matching

theorem runs_readbackFetch {urns : List String} {previous : Json}
    {r : Result (Progress × Json × Dict Json × Option Exn)}
    (h : (readbackFetch py urns previous p).Runs serve s log r s') :
    ∃ reply p₁ payload byUrn error, log = [⟨.getEntities urns, reply⟩] ∧
      serve s (.getEntities urns) reply s' ∧ r = .ok (p₁, payload, byUrn, error) ∧
      (Numbered p.journal → Numbered p₁.journal) ∧
      ((error = none ∧ ∃ trace, reply = .ok [(payload, trace)] ∧
          readbackEntities py payload urns = .ok byUrn) ∨
        (error.isSome = true ∧ byUrn = Dict.empty ∧ Legible py urns reply)) := by
  obtain ⟨e, -, h⟩ | ⟨log₁, log₂, a, s₁, rfl, hcall, hrest⟩ := runs_bind.mp h
  · obtain ⟨_, ⟨⟩, -⟩ := runs_attempt.mp h
  · obtain ⟨r₁, ⟨⟩, hcall⟩ := runs_attempt.mp hcall
    obtain ⟨reply, rfl, hserve, rfl⟩ := runs_oneCall hcall
    cases hone : oneResponse (.getEntities urns) reply with
    | error e =>
      rw [hone] at hrest
      obtain ⟨rfl, rfl, rfl⟩ := runs_done.mp hrest
      refine ⟨reply, _, _, _, _, rfl, hserve, rfl, fun hp => hp.note, .inr ⟨rfl, rfl, ?_⟩⟩
      rintro payload trace byUrn rfl
      cases hone
    | ok x =>
      have hreply : reply = .ok [x] := by
        match reply, hone with
        | .ok [response], hone =>
          obtain ⟨⟩ := hone
          rfl
      obtain ⟨payload, trace⟩ := x
      simp only [hone] at hrest
      cases hread : readbackEntities py payload urns with
      | error e =>
        rw [hread] at hrest
        obtain ⟨rfl, rfl, rfl⟩ := runs_done.mp hrest
        refine ⟨reply, _, _, _, _, rfl, hserve, rfl, fun hp => Numbered.note (by exact hp),
          .inr ⟨rfl, rfl, ?_⟩⟩
        intro payload' trace' byUrn hpayload hread'
        rw [hreply] at hpayload
        obtain ⟨⟩ := hpayload
        rw [hread] at hread'
        cases hread'
      | ok byUrn =>
        rw [hread] at hrest
        obtain ⟨rfl, rfl, rfl⟩ := runs_done.mp hrest
        exact ⟨reply, _, _, _, _, rfl, hserve, rfl, fun hp => Numbered.note (by exact hp),
          .inl ⟨rfl, trace, hreply, hread⟩⟩

theorem runs_readbackOnce {previous : Json} {r : Result (Progress × Readback)}
    (h : (readbackOnce py records previous p).Runs serve s log r s') :
    ∃ reply, log = [⟨.getEntities (records.map Prod.fst), reply⟩] ∧
      serve s (.getEntities (records.map Prod.fst)) reply s' ∧
      ((∃ x, r = .ok x) ↔ Legible py (records.map Prod.fst) reply) ∧
      ∀ p' readback, r = .ok (p', readback) → (Numbered p.journal → Numbered p'.journal) ∧
        (readback.terminalSuccess = true → records.length = 4 →
          Shows py records reply readback.payload) := by
  obtain ⟨e, -, h⟩ | ⟨log₁, log₂, a, s₁, rfl, hfetch, hrest⟩ := runs_bind.mp h
  · obtain ⟨_, _, _, _, _, -, -, hr, -⟩ := runs_readbackFetch h
    cases hr
  obtain ⟨reply, p₁, payload, byUrn, error, rfl, hserve, hr, hnumbered, hread⟩ :=
    runs_readbackFetch hfetch
  obtain ⟨⟩ := hr
  have hlegible : (∀ e ∈ records, ∀ entity, byUrn.get? e.1 = some entity →
      ∃ g, extractGovernance py entity = .ok g) ↔ Legible py (records.map Prod.fst) reply := by
    rcases hread with ⟨-, trace, hreply, hby⟩ | ⟨-, rfl, hlegible⟩
    · constructor
      · intro hall payload' trace' byUrn' hreply' hby' urn hurn entity hentity
        rw [hreply] at hreply'
        obtain ⟨⟩ := hreply'
        obtain ⟨⟩ := hby.symm.trans hby'
        obtain ⟨e, he, rfl⟩ := List.mem_map.mp hurn
        exact hall e he entity hentity
      · intro hall e he entity hentity
        exact hall payload trace byUrn hreply hby e.1 (List.mem_map_of_mem he) entity hentity
    · exact iff_of_true (fun e _ entity hentity => by cases hentity) hlegible
  refine ⟨reply, ?_⟩
  obtain ⟨e, hx, rfl, rfl, rfl⟩ | ⟨props, hx, hrest⟩ := runs_lift_bind.mp hrest
  · refine ⟨rfl, hserve, ?_, fun _ _ hr => by cases hr⟩
    rw [← hlegible]
    refine iff_of_false (fun ⟨_, hr⟩ => by cases hr) fun hall => ?_
    obtain ⟨l, hl⟩ := assetsMatching_ok_iff.mpr fun e he entity hentity =>
      propertyMatch_ok_iff.mpr (hall e he entity hentity)
    rw [hx] at hl
    cases hl
  obtain ⟨e, hy, rfl, rfl, rfl⟩ | ⟨fully, hy, hrest⟩ := runs_lift_bind.mp hrest
  · refine ⟨rfl, hserve, ?_, fun _ _ hr => by cases hr⟩
    rw [← hlegible]
    refine iff_of_false (fun ⟨_, hr⟩ => by cases hr) fun hall => ?_
    obtain ⟨l, hl⟩ := assetsMatching_ok_iff.mpr fun e he entity hentity =>
      fullMatch_ok_iff.mpr (hall e he entity hentity)
    rw [hy] at hl
    cases hl
  obtain ⟨rfl, rfl, rfl⟩ := runs_done.mp hrest
  refine ⟨rfl, hserve, iff_of_true ⟨_, rfl⟩ (hlegible.mp fun e he entity hentity =>
    propertyMatch_ok_iff.mp (assetsMatching_ok_iff.mp ⟨_, hx⟩ e he entity hentity)), ?_⟩
  rintro p' readback ⟨⟩
  refine ⟨fun hp => (hnumbered hp).note, fun hterminal hfour => ?_⟩
  simp only [Bool.and_eq_true, decide_eq_true_eq, Option.isNone_iff_eq_none] at hterminal
  rcases hread with ⟨-, trace, hreply, hby⟩ | ⟨herror, -, -⟩
  · refine ⟨trace, byUrn, hreply, hby, fun e he => ?_⟩
    rcases (assetsMatching_length hy).2 (hterminal.2.trans hfour.symm) e he with hshown | hnone
    · exact hshown
    · -- the answer names the exact assets
      simp only [readbackEntities, bind_eq_ok, require_eq_ok] at hby
      obtain ⟨_, hkeys, ⟨⟩⟩ := hby
      have hmem := (SafetyPolicy.sameSet_eq_true hkeys e.1).mpr (List.mem_map_of_mem he)
      obtain ⟨entity, hentity⟩ := (Dict.mem_keys _ _).mp hmem
      rw [hentity] at hnone
      cases hnone
  · rw [hterminal.1] at herror
    cases herror

/-- Every read of the loop can be read exactly if the loop does not raise, and the last
one shows what a success claims. -/
theorem runs_readbackLoop {attempts : Nat} {last : Readback} {r : Result (Progress × Readback)}
    (h : (readbackLoop py records attempts last p).Runs serve s log r s') :
    ((∃ x, r = .ok x) ↔ ∀ c ∈ log, ∀ urns, c.1 = .getEntities urns → Legible py urns c.2) ∧
    ∀ p' readback, r = .ok (p', readback) → (Numbered p.journal → Numbered p'.journal) ∧
      (last.terminalSuccess = false → readback.terminalSuccess = true → records.length = 4 →
        ∃ log' reply, log = log' ++ [⟨.getEntities (records.map Prod.fst), reply⟩] ∧
          Shows py records reply readback.payload) := by
  induction attempts generalizing last p s log with
  | zero =>
    obtain ⟨rfl, rfl, rfl⟩ := runs_pure.mp h
    refine ⟨by simp, ?_⟩
    rintro p' readback ⟨⟩
    exact ⟨id, fun hlast hnow => by rw [hlast] at hnow; cases hnow⟩
  | succ attempts ih =>
    obtain ⟨e, rfl, hraise⟩ | ⟨log₁, log₂, ⟨p₁, readback₁⟩, s₁, rfl, hone, hrest⟩ :=
      runs_bind.mp h
    · obtain ⟨reply, rfl, -, hlegible, -⟩ := runs_readbackOnce hraise
      refine ⟨?_, fun _ _ hr => by cases hr⟩
      simpa using hlegible
    · obtain ⟨reply, rfl, -, hlegible, hok⟩ := runs_readbackOnce hone
      obtain ⟨hnumbered, hshows⟩ := hok p₁ readback₁ rfl
      have hfirst : Legible py (records.map Prod.fst) reply := hlegible.mp ⟨_, rfl⟩
      cases hterminal : readback₁.terminalSuccess with
      | true =>
        simp only [hterminal, if_true] at hrest
        obtain ⟨rfl, rfl, rfl⟩ := runs_pure.mp hrest
        refine ⟨by simpa using hfirst, ?_⟩
        rintro p' readback ⟨⟩
        exact ⟨hnumbered, fun _ _ hfour => ⟨[], reply, rfl, hshows hterminal hfour⟩⟩
      | false =>
        simp only [hterminal, Bool.false_eq_true, if_false] at hrest
        obtain ⟨hiff, hend⟩ := ih hrest
        refine ⟨hiff.trans ?_, fun p' readback hr => ?_⟩
        · simpa using fun _ => hfirst
        · obtain ⟨hnumbered', hshown⟩ := hend p' readback hr
          refine ⟨fun hp => hnumbered' (hnumbered hp), fun _ hnow hfour => ?_⟩
          obtain ⟨log', reply', rfl, hreply'⟩ := hshown hterminal hnow hfour
          exact ⟨_ :: log', reply', rfl, hreply'⟩

def WriteOutcome.journal : WriteOutcome → List JournalEntry
  | .receipt written => written.journal
  | .partialWrite failed => failed.journal

/-- What a run of the mutations and read-backs comes to. -/
structure Attempted (py : Python) (records : List (String × MigrationWriteback))
    (log : List (Σ _ : ToolCall, Result (List (Json × Json)))) (r : Result WriteOutcome) : Prop where
  calls : ∀ c ∈ log, Confined records c.1
  returns : (∃ outcome, r = .ok outcome ∧ Numbered outcome.journal) ↔
    ∀ c ∈ log, ∀ urns, c.1 = .getEntities urns → Legible py urns c.2
  receipt : ∀ receipt, r = .ok (.receipt receipt) → ∃ log' reply payload,
    log = log' ++ [⟨.getEntities (records.map Prod.fst), reply⟩] ∧ Shows py records reply payload ∧
      receipt.readbackSha256 = (readbackSha256 py payload).getD ""

theorem runs_writeRecords {w : Writer py} {official : Bool} {r : Result WriteOutcome}
    (hurns : records.map Prod.fst = w.entityUrns) (hfour : records.length = 4)
    (h : (w.writeRecords official records).Runs serve s log r s') : Attempted py records log r := by
  have hcalls := (calls_writeRecords w official hurns).of_run h
  have hquiet : ∀ {log : List (Σ _ : ToolCall, Result (List (Json × Json)))},
      (∀ c ∈ log, ∀ urns, c.1 ≠ .getEntities urns) →
      ∀ c ∈ log, ∀ urns, c.1 = .getEntities urns → Legible py urns c.2 :=
    fun hlog c hc urns he => absurd he (hlog c hc urns)
  obtain ⟨e, rfl, hraise⟩ | ⟨log₁, log₂, p₁, s₁, rfl, hgroups, hrest⟩ := runs_bind.mp h
  · obtain ⟨_, hr, -⟩ := (ends_upsertGroups (p := {}) rfl).of_run hraise
    cases hr
  obtain ⟨_, ⟨⟩, hp₁⟩ := (ends_upsertGroups (p := {}) rfl).of_run hgroups
  have hlog₁ := (calls_upsertGroups (P := fun c => ∀ urns, c ≠ .getEntities urns)
    fun g _ urns => by simp).of_run hgroups
  have htag : (tagPhase w.entityUrns p₁).Ends fun r => ∃ p', r = .ok p' ∧ Numbered p'.journal := by
    unfold tagPhase
    split
    · exact ends_addMigrationTag hp₁
    · exact ⟨p₁, rfl, hp₁⟩
  have htagCalls : (tagPhase w.entityUrns p₁).Calls fun c => ∀ urns, c ≠ .getEntities urns :=
    Calls.ite (calls_addMigrationTag fun urns => by simp) (calls_pure _)
  obtain ⟨e, rfl, hraise⟩ | ⟨log₃, log₄, p₂, s₂, rfl, htagged, hrest⟩ := runs_bind.mp hrest
  · obtain ⟨_, hr, -⟩ := htag.of_run hraise
    cases hr
  obtain ⟨_, ⟨⟩, hp₂⟩ := htag.of_run htagged
  have hlog₃ := htagCalls.of_run htagged
  have hread : ∀ {log : List (Σ _ : ToolCall, Result (List (Json × Json)))},
      (∀ c ∈ log₁ ++ (log₃ ++ log), ∀ urns, c.1 = .getEntities urns → Legible py urns c.2) ↔
        ∀ c ∈ log, ∀ urns, c.1 = .getEntities urns → Legible py urns c.2 := by
    intro log
    simp only [List.forall_mem_append]
    exact ⟨fun hall => hall.2.2, fun hall => ⟨hquiet hlog₁, hquiet hlog₃, hall⟩⟩
  obtain ⟨e, rfl, hraise⟩ | ⟨log₅, log₆, ⟨p₃, readback⟩, s₃, rfl, hloop, hrest⟩ :=
    runs_bind.mp hrest
  · obtain ⟨hiff, -⟩ := runs_readbackLoop hraise
    refine ⟨hcalls, ?_, fun _ hr => by cases hr⟩
    rw [hread, ← hiff]
    exact iff_of_false (fun ⟨_, hr, _⟩ => by cases hr) (fun ⟨_, hr⟩ => by cases hr)
  obtain ⟨hiff, hend⟩ := runs_readbackLoop hloop
  obtain ⟨hnumbered, hshown⟩ := hend p₃ readback rfl
  have hall := hiff.mp ⟨_, rfl⟩
  cases hterminal : readback.terminalSuccess with
  | true =>
    simp only [hterminal, if_true] at hrest
    obtain ⟨rfl, rfl, rfl⟩ := runs_pure.mp hrest
    obtain ⟨log', reply, rfl, hshows⟩ := hshown rfl hterminal hfour
    refine ⟨hcalls, iff_of_true ⟨_, rfl, hnumbered hp₂⟩ ?_, ?_⟩
    · rw [hread]
      simpa using hall
    · rintro receipt ⟨⟩
      exact ⟨log₁ ++ (log₃ ++ log'), reply, readback.payload, by simp, hshows, rfl⟩
  | false =>
    simp only [hterminal, Bool.false_eq_true, if_false] at hrest
    obtain ⟨rfl, rfl, rfl⟩ := runs_pure.mp hrest
    refine ⟨hcalls, iff_of_true ⟨_, rfl, hnumbered hp₂⟩ ?_, fun _ hr => by cases hr⟩
    rw [hread]
    simpa using hall

end Phases

end LineageTX
