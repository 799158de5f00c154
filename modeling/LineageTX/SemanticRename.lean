import LineageTX.JsonLoads
import LineageTX.DbtRename
import LineageTX.SemanticApproval

/-! What an approved rename makes of the semantic document: one dimension stands under the new
field and reads it, the old field stands nowhere, and the rest is as it was. -/
namespace LineageTX
open Library

section Counting
variable {needle : String}

theorem countItems_eq (xs : List Json) :
    countItems needle xs = (xs.map (countString needle)).sum := by
  induction xs with
  | nil => rfl
  | cons x xs ih => rw [countItems, ih, List.map_cons, List.sum_cons]

/-- The occurrences in one member: its key and its value. -/
def countMember (needle : String) (e : String × Json) : Nat :=
  (if e.1 = needle then 1 else 0) + countString needle e.2

theorem countMembers_eq (m : List (String × Json)) :
    countMembers needle m = (m.map (countMember needle)).sum := by
  induction m with
  | nil => rfl
  | cons e m ih =>
    obtain ⟨k, v⟩ := e
    rw [countMembers, ih, List.map_cons, List.sum_cons]
    rfl

theorem countString_arr (xs : List Json) :
    countString needle (.arr xs) = (xs.map (countString needle)).sum := by
  rw [countString, countItems_eq]

theorem countString_obj (m : List (String × Json)) :
    countString needle (.obj m) = (m.map (countMember needle)).sum := by
  rw [countString, countMembers_eq]

/-- Nothing is counted exactly if the text stands nowhere. -/
theorem countString_eq_zero_iff {j : Json} : countString needle j = 0 ↔ ¬Json.Mentions needle j := by
  induction j using Json.nodes with
  | leaf j harr hobj =>
    cases j with
    | arr xs => exact absurd rfl (harr xs)
    | obj m => exact absurd rfl (hobj m)
    | str s =>
      by_cases hs : s = needle
      · subst hs
        simpa [countString] using Json.Mentions.text
      · simp only [countString, if_neg hs, true_iff]
        intro h
        cases h
        exact hs rfl
    | _ =>
      simp only [countString, true_iff]
      nofun
  | arr xs ih =>
    rw [countString_arr, List.sum_eq_zero_iff_forall_eq_nat, Json.mentions_arr]
    simp only [List.mem_map, forall_exists_index, and_imp, forall_apply_eq_imp_iff₂, not_exists,
      not_and]
    exact forall₂_congr ih
  | obj m ih =>
    rw [countString_obj, List.sum_eq_zero_iff_forall_eq_nat, Json.mentions_obj]
    simp only [List.mem_map, forall_exists_index, and_imp, forall_apply_eq_imp_iff₂, not_exists,
      not_and, not_or]
    refine forall₂_congr fun e he => ?_
    rw [← ih e he, countMember, Nat.add_eq_zero_iff]
    simp

end Counting
/-- Two documents have equal values under a key, or neither has one. -/
def SameUnder (key : String) (j j' : Json) : Prop :=
  (j.get? key).map Json.sortKeys = (j'.get? key).map Json.sortKeys

/-- An entry that reads the new field, and is otherwise as it was. -/
structure RenamedEntry (new : String) (entry entry' : Json) : Prop where
  reads : entry'.get? "source_field" = some (.str new)
  others : ∀ key, key ≠ "source_field" → SameUnder key entry entry'

/-- Dimensions with one entry under a new key. -/
structure RenamedKey (old new : String) (dims dims' : Json) : Prop where
  fresh : dims.get? new = none
  gone : dims'.get? old = none
  moved : ∃ entry entry', dims.get? old = some entry ∧ dims'.get? new = some entry' ∧
    RenamedEntry new entry entry'
  others : ∀ key, key ≠ old → key ≠ new → SameUnder key dims dims'

/-- A semantic document with one dimension renamed. -/
structure RenamedDimension (old new : String) (document document' : Json) : Prop where
  dimensions : ∃ dims dims', document.get? "dimensions" = some dims ∧
    document'.get? "dimensions" = some dims' ∧ RenamedKey old new dims dims'
  others : ∀ key, key ≠ "dimensions" → SameUnder key document document'

namespace SemanticApprovalParticipant
variable {py : Python} {policy : PolicyData} {document : Json}

theorem readsField_iff {dims : List (String × Json)} {field : String} :
    readsField dims field = true ↔ ∃ entry, dims.lookup field = some (.obj entry) ∧
      entry.lookup "source_field" = some (.str field) := by
  unfold readsField
  cases hentry : dims.lookup field with
  | none => simp
  | some entry =>
    cases entry with
    | obj m =>
      simp only [Option.any_some, isObj, Bool.true_and, Json.get?_obj, Option.some.injEq,
        Json.obj.injEq, exists_eq_left']
      exact decide_eq_true_iff
    | _ => simp [isObj]

/-- A document whose dimensions are an object. -/
def HasDimensions (document : Json) (m dims : List (String × Json)) : Prop :=
  document = .obj m ∧ m.lookup "dimensions" = some (.obj dims)

theorem HasDimensions.dimensions {m dims : List (String × Json)} (h : HasDimensions document m dims) :
    SemanticApprovalParticipant.dimensions document = dims := by
  obtain ⟨rfl, hdims⟩ := h
  simp [SemanticApprovalParticipant.dimensions, getD, hdims]

theorem parseDocument_eq_ok {source : String} : parseDocument py source = .ok document ↔
    py.jsonLoads .candidateRejected "semantic config is invalid JSON: " source = .ok document ∧
      ∃ m dims, HasDimensions document m dims := by
  simp only [parseDocument, requireCandidate, bind_eq_ok, require_eq_ok, Bool.and_eq_true]
  constructor
  · rintro ⟨document', hload, _, ⟨hobj, hdims⟩, ⟨⟩⟩
    refine ⟨hload, ?_⟩
    cases document with
    | obj m =>
      cases hlookup : m.lookup "dimensions" with
      | none => simp [getD, hlookup, isObj] at hdims
      | some dims =>
        cases dims with
        | obj dims => exact ⟨m, dims, rfl, hlookup⟩
        | _ => simp [getD, hlookup, isObj] at hdims
    | _ => simp [isObj] at hobj
  · rintro ⟨hload, m, dims, rfl, hdims⟩
    exact ⟨_, hload, (), ⟨rfl, by simp [getD, hdims, isObj]⟩, rfl⟩

/-- The entry that waits for approval. -/
structure Waiting (policy : PolicyData) (dims entry : List (String × Json)) : Prop where
  found : dims.lookup policy.oldField = some (.obj entry)
  reads : entry.lookup "source_field" = some (.str policy.oldField)
  fresh : dims.lookup policy.newField = none

theorem Waiting.ne {dims entry : List (String × Json)} (h : Waiting policy dims entry) :
    policy.oldField ≠ policy.newField := by
  intro heq
  have hfound := h.found
  rw [heq, h.fresh] at hfound
  cases hfound

theorem validatePendingDocument_eq_ok {expected : Int} :
    validatePendingDocument document expected policy = .ok () ↔
      (∃ entry, Waiting policy (dimensions document) entry) ∧
        (countString policy.oldField document : Int) = expected := by
  simp only [validatePendingDocument, requireCandidate, bind_eq_ok, require_eq_ok, Bool.and_eq_true,
    Option.isNone_iff_eq_none, decide_eq_true_eq, readsField_iff]
  constructor
  · rintro ⟨_, ⟨-, hfresh⟩, _, ⟨entry, hfound, hreads⟩, hcount⟩
    exact ⟨⟨entry, hfound, hreads, hfresh⟩, hcount⟩
  · rintro ⟨⟨entry, h⟩, hcount⟩
    exact ⟨(), ⟨by rw [h.found]; rfl, h.fresh⟩, (), ⟨entry, h.found, h.reads⟩, hcount⟩

section Approved
variable {m dims entry : List (String × Json)}

/-- The members of the entry, of the dimensions and of the document after the approval. -/
def approvedEntry (policy : PolicyData) (entry : List (String × Json)) : List (String × Json) :=
  Json.assign "source_field" (.str policy.newField) entry

def approvedDimensions (policy : PolicyData) (dims entry : List (String × Json)) :
    List (String × Json) :=
  Json.assign policy.newField (.obj (approvedEntry policy entry)) (Json.remove policy.oldField dims)

def approvedMembers (policy : PolicyData) (m dims entry : List (String × Json)) :
    List (String × Json) :=
  Json.assign "dimensions" (.obj (approvedDimensions policy dims entry)) m

theorem approvedDocument_eq (hdims : HasDimensions document m dims)
    (hentry : dims.lookup policy.oldField = some (.obj entry)) :
    approvedDocument policy document = .obj (approvedMembers policy m dims entry) := by
  unfold approvedDocument
  dsimp only
  rw [hdims.dimensions, hentry, hdims.1]
  rfl

theorem lookup_approvedDimensions (key : String) :
    (approvedDimensions policy dims entry).lookup key =
      if key = policy.newField then some (.obj (approvedEntry policy entry))
      else if key = policy.oldField then none else dims.lookup key := by
  rw [approvedDimensions, Json.lookup_assign, Json.lookup_remove]

/-- Every object on the way to the entry has distinct keys. -/
structure DistinctWay (m dims entry : List (String × Json)) : Prop where
  document : (m.map Prod.fst).Nodup
  dimensions : (dims.map Prod.fst).Nodup
  entry : (entry.map Prod.fst).Nodup

theorem DistinctWay.of_loaded (hdims : HasDimensions document m dims)
    (hentry : dims.lookup policy.oldField = some (.obj entry)) (h : py.Loaded document) :
    DistinctWay m dims entry := by
  obtain ⟨rfl, hlookup⟩ := hdims
  have hm := Json.every_obj.mp h
  have hd := Json.every_obj.mp (hm.2 _ (Json.mem_of_lookup hlookup))
  have he := Json.every_obj.mp (hd.2 _ (Json.mem_of_lookup hentry))
  exact ⟨hm.1.2, hd.1.2, he.1.2⟩

theorem sameUnder_sorted {key : String} {members members' : List (String × Json)}
    (hkeys : (members'.map Prod.fst).Nodup) (h : members.lookup key = members'.lookup key) :
    SameUnder key (.obj members) (Json.sortKeys (.obj members')) := by
  unfold SameUnder
  rw [Json.get?_sortKeys hkeys, Json.get?_obj, h, Option.map_map]
  exact congrArg (fun f => (members'.lookup key).map f) (funext fun j => (Json.sortKeys_sortKeys j).symm)

/-- The document written after the approval differs from the one read by the rename only. -/
theorem renamedDimension_approved (hdims : HasDimensions document m dims)
    (hwait : Waiting policy dims entry) (hway : DistinctWay m dims entry) :
    RenamedDimension policy.oldField policy.newField document
      (Json.sortKeys (approvedDocument policy document)) := by
  have hne := hwait.ne
  have hentryKeys : ((approvedEntry policy entry).map Prod.fst).Nodup :=
    Json.nodup_keys_assign _ _ hway.entry
  have hdimsKeys : ((approvedDimensions policy dims entry).map Prod.fst).Nodup :=
    Json.nodup_keys_assign _ _ (Json.nodup_keys_remove _ hway.dimensions)
  have hkeys : ((approvedMembers policy m dims entry).map Prod.fst).Nodup :=
    Json.nodup_keys_assign _ _ hway.document
  rw [approvedDocument_eq hdims hwait.found, hdims.1]
  refine ⟨⟨.obj dims, Json.sortKeys (.obj (approvedDimensions policy dims entry)), hdims.2, ?_, ?_⟩, ?_⟩
  · rw [Json.get?_sortKeys hkeys, approvedMembers, Json.lookup_assign, if_pos rfl]
    rfl
  · refine ⟨hwait.fresh, ?_, ⟨.obj entry, Json.sortKeys (.obj (approvedEntry policy entry)),
      hwait.found, ?_, ?_, ?_⟩, ?_⟩
    · rw [Json.get?_sortKeys hdimsKeys, lookup_approvedDimensions, if_neg hne, if_pos rfl]
      rfl
    · rw [Json.get?_sortKeys hdimsKeys, lookup_approvedDimensions, if_pos rfl]
      rfl
    · rw [Json.get?_sortKeys hentryKeys, approvedEntry, Json.lookup_assign, if_pos rfl]
      rfl
    · intro key hkey
      refine sameUnder_sorted hentryKeys ?_
      rw [approvedEntry, Json.lookup_assign, if_neg hkey]
    · intro key hold hnew
      refine sameUnder_sorted hdimsKeys ?_
      rw [lookup_approvedDimensions, if_neg hnew, if_neg hold]
  · intro key hkey
    refine sameUnder_sorted hkeys ?_
    rw [approvedMembers, Json.lookup_assign, if_neg hkey]

end Approved

section Loaded
variable {m dims entry : List (String × Json)}

theorem loaded_assign {key : String} {value : Json} (hm : py.Loaded (.obj m))
    (hvalue : py.Loaded value) : py.Loaded (.obj (Json.assign key value m)) := by
  obtain ⟨⟨-, hkeys⟩, hmembers⟩ := Json.every_obj.mp hm
  exact Json.every_obj.mpr ⟨⟨trivial, Json.nodup_keys_assign _ _ hkeys⟩,
    Json.forall_mem_assign hmembers hvalue⟩

theorem loaded_remove {key : String} (hm : py.Loaded (.obj m)) :
    py.Loaded (.obj (Json.remove key m)) := by
  obtain ⟨⟨-, hkeys⟩, hmembers⟩ := Json.every_obj.mp hm
  exact Json.every_obj.mpr ⟨⟨trivial, Json.nodup_keys_remove _ hkeys⟩,
    fun e he => hmembers e (Json.mem_remove.mp he).1⟩

/-- The rename makes a document that can be read back of one that was read. -/
theorem loaded_approvedDocument (hdims : HasDimensions document m dims)
    (hentry : dims.lookup policy.oldField = some (.obj entry)) (h : py.Loaded document) :
    py.Loaded (approvedDocument policy document) := by
  rw [approvedDocument_eq hdims hentry]
  obtain ⟨rfl, hlookup⟩ := hdims
  have hd := (Json.every_obj.mp h).2 _ (Json.mem_of_lookup hlookup)
  have he := (Json.every_obj.mp hd).2 _ (Json.mem_of_lookup hentry)
  exact loaded_assign h (loaded_assign (loaded_remove hd)
    (loaded_assign he ⟨trivial, trivial⟩))

end Loaded

section Written
variable {env : Surroundings} {session : RepositorySession} {proposal : SemanticMappingProposal}
  {approval : OwnerApproval} {wt wt' : Worktree} {r : PreparationResult}
  {path target before : String}

/-- What was written is read back as the sorted document. -/
theorem parseDocument_configText {m dims entry : List (String × Json)}
    (hround : py.FloatsRoundTrip) (hparse : parseDocument py before = .ok document)
    (hdims : HasDimensions document m dims) (hwait : Waiting policy dims entry) :
    py.jsonLoads .candidateRejected "semantic config is invalid JSON: "
      (configText (approvedDocument policy document)) =
      .ok (Json.sortKeys (approvedDocument policy document)) := by
  have hloaded := jsonLoads_loaded hround (parseDocument_eq_ok.mp hparse).1
  exact jsonLoads_dumps (loaded_approvedDocument hdims hwait.found hloaded) configStyle (by decide)

theorem safeTarget_written {bytes : ByteArray} (h : safeTarget py wt path = .ok target) :
    safeTarget py (wt.write target bytes) path = .ok target := by
  simp only [safeTarget, bind_eq_ok] at h ⊢
  obtain ⟨posix, hposix, h⟩ := h
  refine ⟨posix, hposix, ?_⟩
  simp only [Worktree.write]
  split at h
  · cases h
  · simp only [requireCandidate, bind_eq_ok, require_eq_ok] at h
    obtain ⟨_, -, ⟨⟩⟩ := h
    simp [requireCandidate, require, ok_bind, pure, Except.pure]

/-- The file that was written is read without a change. -/
theorem trustedText_written {after : String} (hreturn : '\r' ∉ after.toList)
    (htarget : safeTarget py wt path = .ok target) :
    trustedText py (wt.write target after.toUTF8) path = .ok (target, after) := by
  have hread : readText (wt.write target after.toUTF8) target = .ok after := by
    have hutf8 : String.fromUTF8? after.toUTF8 = some after := dif_pos after.isValidUTF8
    simp only [readText, Worktree.write, if_true]
    rw [hutf8]
    dsimp only
    rw [universalNewlines_eq_self hreturn, String.ofList_toList]
  simp only [trustedText, bind_eq_ok]
  exact ⟨target, safeTarget_written htarget, after, hread, rfl⟩

theorem configText_noReturn (j : Json) : '\r' ∉ (configText j).toList := by
  rw [configText, String.toList_append, List.mem_append, not_or]
  refine ⟨?_, by decide⟩
  rw [Json.dumps, String.toList_ofList]
  exact Json.render_noReturn _ _

/-- What the checks before the question of approval have read and seen. -/
theorem pending_awaits {document : Json}
    (h : pending py env session proposal policy wt = .ok (target, document)) :
    ∃ path before m dims entry, policy.path 0 = .ok path ∧
      trustedText py wt path = .ok (target, before) ∧ parseDocument py before = .ok document ∧
      HasDimensions document m dims ∧ Waiting policy dims entry ∧
      (countString policy.oldField document : Int) = proposal.expectedOccurrences := by
  simp only [pending, bind_eq_ok] at h
  obtain ⟨_, -, _, -, _, -, path, hpath, ⟨target', before⟩, htext, document', hparse, _, hcheck, ⟨⟩⟩ := h
  obtain ⟨m, dims, hdims⟩ := (parseDocument_eq_ok.mp hparse).2
  obtain ⟨⟨entry, hwait⟩, hcount⟩ := validatePendingDocument_eq_ok.mp hcheck
  rw [hdims.dimensions] at hwait
  exact ⟨path, before, m, dims, entry, hpath, checkedText_eq_ok py htext, hparse, hdims, hwait, hcount⟩

/-- What an approved preparation checked and wrote. -/
theorem prepare_approved (h : prepare py env session proposal policy (some approval) wt = (.ok r, wt')) :
    ∃ target document document', pending py env session proposal policy wt = .ok (target, document) ∧
      wt' = wt.write target (configText (approvedDocument policy document)).toUTF8 ∧
      parseDocument py (configText (approvedDocument policy document)) = .ok document' ∧
      countString policy.oldField document' = 0 := by
  unfold prepare at h
  split at h
  · cases h
  · next hsome => cases hsome
  · next target document approval' hpending hsome =>
    split at h
    · cases h
    · next candidate hplan =>
      split at h
      · cases h
      · next changed wt₁ happly =>
        obtain ⟨-, rfl⟩ := Prod.mk.inj h
        simp only [plan, bind_eq_ok] at hplan
        obtain ⟨_, -, after, hafter, _, hvalid, bytes, -, ⟨⟩⟩ := hplan
        simp only [validateApprovedDocument, requireCandidate, bind_eq_ok, require_eq_ok,
          decide_eq_true_eq] at hvalid
        obtain ⟨_, -, _, -, _, hcount, -⟩ := hvalid
        exact ⟨_, _, after, hpending, Candidate.apply_eq_ok happly, hafter, hcount⟩

/-- A document that names the field as a dimension, in its source and nowhere else. -/
def sampleSemantics : String := "\x7b\"dimensions\": \x7b\"cust_id\": \x7b\"source_field\": \"cust_id\"\x7d\x7d, \"n\": 1\x7d"

def semanticWorktree (content : String) : Worktree where
  resolve := some
  file path := if path = "model.json" then some content.toUTF8 else none

def semanticSurroundings (content : String) : Surroundings :=
  { sampleSurroundings with
    statusPaths := fun wt =>
      .ok (if wt.file "model.json" = some content.toUTF8 then [] else ["model.json"]) }

def sampleSemanticPolicy : PolicyData :=
  { sampleAirflowPolicy with
    kind := .semanticApproval, allowedPaths := ["model.json"], assignmentName := none
    configKey := none }

def sampleSemanticProposal (occurrences : Int) : SemanticMappingProposal where
  migrationId := "m"
  participantId := "p"
  relativePath := "model.json"
  expectedSha256 := ChangeIntent.sample.intentSha256
  oldField := "cust_id"
  newField := "customer_id"
  expectedOccurrences := occurrences
  requiredOwnerUrn := "urn:li:corpuser:o"
  expandedColumns := sampleAirflowPolicy.expandedColumns
  contractColumns := sampleAirflowPolicy.contractColumns
  repository := "data/flows"
  ownerUrns := ["urn:li:corpuser:o"]

def sampleApproval : OwnerApproval where
  migrationId := "m"
  participantId := "p"
  ownerUrn := "urn:li:corpuser:o"
  oldField := "cust_id"
  newField := "customer_id"
  approvedAt := "2026-06-25T10:00:00Z"
  evidenceUrl := "https://example.com/approvals/1"

/-- The sample proposal, for a document with the given content. -/
def prepareSemantic (content : String) (occurrences : Int) (approval : Option OwnerApproval) :
    Result PreparationResult × Worktree :=
  prepare samplePython (semanticSurroundings content) sampleSession
    (sampleSemanticProposal occurrences) sampleSemanticPolicy approval (semanticWorktree content)

theorem samplePython_floats : samplePython.FloatsRoundTrip := by
  intro token r h
  simp [Python.readFloat, samplePython, Python.sample, raise, Except.toOption] at h

end Written
end SemanticApprovalParticipant
end LineageTX
