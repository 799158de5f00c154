import LineageTX.GateDiscipline
import LineageTX.JsonLoads

/-! Receipts in the event log: the document of a constructed receipt is read as the same
receipt, from the payload of its event and from the text of that payload. -/
namespace LineageTX
open Library
variable {py : Python} {e : EventRow}

/-- The event that `list_events` makes of the text of the payload column. -/
def EventRow.read (py : Python) (e : EventRow) : Result EventRow := do
  return { e with payloadJson := ← py.jsonLoads (.other "JSONDecodeError") "" (canonicalJson e.payloadJson) }

theorem CoordinationReceiptKind.parse_value (kind : CoordinationReceiptKind) :
    CoordinationReceiptKind.parse kind.value = .ok kind := by
  cases kind <;> rfl

theorem CoordinationReceipt.fromDict_toDict {r : CoordinationReceipt} (h : r.postInit py = .ok r) :
    CoordinationReceipt.fromDict py r.toDict = .ok r := by
  have hmerged : r.merged = false := by
    simp only [CoordinationReceipt.postInit, bind_eq_ok, require_eq_ok] at h
    obtain ⟨_, -, _, -, _, -, _, -, _, -, _, -, _, hmerged, -⟩ := h
    simpa using hmerged
  have hsame : { r with merged := truthy (.bool false) } = r := by
    rw [show truthy (.bool false) = r.merged from hmerged.symm]
  simp only [CoordinationReceipt.fromDict, bind_eq_ok, getItem_eq_ok]
  refine ⟨r.migrationId, ⟨_, rfl, rfl⟩, r.kind.value, ⟨_, rfl, rfl⟩, r.kind,
    CoordinationReceiptKind.parse_value r.kind, r.reference, ⟨_, rfl, rfl⟩, r.recordedAt,
    ⟨_, rfl, rfl⟩, ?_⟩
  exact (congrArg (CoordinationReceipt.postInit py) hsame).trans h

/-- The documents of constructed receipts are read in order. -/
theorem mapM_fromDict_toDict {receipts : List CoordinationReceipt}
    (h : ∀ r ∈ receipts, r.postInit py = .ok r) :
    (receipts.map CoordinationReceipt.toDict).mapM (CoordinationReceipt.fromDict py) = .ok receipts := by
  induction receipts with
  | nil => rfl
  | cons r receipts ih =>
    have hr := CoordinationReceipt.fromDict_toDict (h r (by simp))
    have hrest := ih fun r' hr' => h r' (by simp [hr'])
    simp only [List.map_cons, List.mapM_cons, bind_eq_ok]
    exact ⟨r, hr, receipts, hrest, rfl⟩

/-- A publication of constructed receipts. -/
structure PublicationResult.Complete (py : Python) (p : PublicationResult) : Prop extends p.Shaped where
  constructed : ∀ r ∈ p.receipts, r.postInit py = .ok r

/-- The receipts determine the publication. -/
theorem PublicationResult.eq_of_receipts {p p' : PublicationResult} (h : p.receipts = p'.receipts) :
    p = p' := by
  obtain ⟨hcandidates, hlast⟩ := List.append_inj' h rfl
  cases p
  cases p'
  simp_all

theorem PublicationResult.Complete.filter_kind {p : PublicationResult} (hp : p.Complete py) :
    p.receipts.filter (·.kind = .candidateCommit) = p.candidateReceipts ∧
    p.receipts.filter (·.kind = .coordinatedPr) = [p.coordinatedPrReceipt] ∧
    p.receipts.filter (·.kind = .producerGateReleased) = [p.producerGateReceipt] := by
  have hall : p.candidateReceipts.filter (·.kind = .candidateCommit) = p.candidateReceipts :=
    List.filter_eq_self.mpr fun r hr => by simp [hp.candidates r hr]
  have hnone : ∀ kind, kind ≠ CoordinationReceiptKind.candidateCommit →
      p.candidateReceipts.filter (·.kind = kind) = [] := by
    intro kind hkind
    refine List.filter_eq_nil_iff.mpr fun r hr => ?_
    simpa [hp.candidates r hr] using Ne.symm hkind
  refine ⟨?_, ?_, ?_⟩
  · simp [PublicationResult.receipts, List.filter_append, hall, hp.pullRequest, hp.gate]
  · simp [PublicationResult.receipts, List.filter_append, hnone, hp.pullRequest, hp.gate]
  · simp [PublicationResult.receipts, List.filter_append, hnone, hp.pullRequest, hp.gate]

/-- The event of a commit gives back the publication. -/
theorem publicationOfEvent_eq {p : PublicationResult} (hp : p.Complete py)
    (h : e.payloadJson.get? "coordination_receipts" =
      some (.arr (p.receipts.map CoordinationReceipt.toDict))) :
    Coordinator.publicationOfEvent py e = .ok p := by
  have hitems : (p.receipts.map CoordinationReceipt.toDict).filter isObj =
      p.receipts.map CoordinationReceipt.toDict := by
    refine List.filter_eq_self.mpr fun j hj => ?_
    obtain ⟨r, -, rfl⟩ := List.mem_map.mp hj
    rfl
  obtain ⟨hcandidates, hpr, hgate⟩ := hp.filter_kind
  obtain ⟨a, b, c, habc⟩ := List.length_eq_three.mp hp.three
  simp only [Coordinator.publicationOfEvent, getD, h, Option.getD_some, hitems,
    mapM_fromDict_toDict hp.constructed, ok_bind, hcandidates, hpr, hgate, habc]
  rw [← habc]
  rfl

theorem map_str (texts : List String) : (texts.map Json.str).map py.str = texts := by
  rw [List.map_map]
  exact List.map_id'' (fun _ => rfl) texts

theorem pure_ok {α : Type} (a : α) : (pure a : Result α) = .ok a := rfl

/-- The event of an abort gives back the receipt of its cleanup. -/
theorem abortCleanupOfEvent_eq {r : AbortCleanupReceipt} (hr : r.postInit py = .ok r)
    (h : e.payloadJson.get? "cleanup" = some r.toDict) :
    Coordinator.abortCleanupOfEvent py e = .ok r := by
  have hrolled : r.deployedSystemsRolledBack = false := by
    simp only [AbortCleanupReceipt.postInit, bind_eq_ok, require_eq_ok] at hr
    obtain ⟨_, -, _, -, _, -, _, hrolled, -⟩ := hr
    simpa using hrolled
  have hsame : { r with deployedSystemsRolledBack := truthy (.bool false) } = r := by
    rw [show truthy (.bool false) = r.deployedSystemsRolledBack from hrolled.symm]
  have hid : getItem r.toDict "migration_id" = .ok (.str r.migrationId) := rfl
  have hworktrees : getItem r.toDict "worktrees_removed" =
      .ok (.arr (r.worktreesRemoved.map .str)) := rfl
  have hbranches : getItem r.toDict "candidate_branches_deleted" =
      .ok (.arr (r.candidateBranchesDeleted.map .str)) := rfl
  have herrors : getItem r.toDict "cleanup_errors" = .ok (.arr (r.cleanupErrors.map .str)) := rfl
  have hat : getItem r.toDict "recorded_at" = .ok (.str r.recordedAt) := rfl
  have hflag : getD r.toDict "deployed_systems_rolled_back" (.bool false) = .bool false := rfl
  have hraw : getD e.payloadJson "cleanup" .null = r.toDict := by rw [getD, h, Option.getD_some]
  have hobj : isObj r.toDict = true := rfl
  unfold Coordinator.abortCleanupOfEvent
  simp only [hraw, hobj, hid, hworktrees, hbranches, herrors, hat, hflag, iterate, ok_bind, pure_ok,
    map_str, Python.str_str, hsame, hr, if_true]

section Text

theorem CoordinationReceipt.toDict_loaded (r : CoordinationReceipt) : py.Loaded r.toDict := by
  refine loaded_obj.mpr ⟨by simp, ?_⟩
  simp [loaded_str, loaded_bool]

theorem AbortCleanupReceipt.toDict_loaded (r : AbortCleanupReceipt) : py.Loaded r.toDict := by
  refine loaded_obj.mpr ⟨by simp, ?_⟩
  simp [loaded_str, loaded_bool, loaded_texts]

/-- The keys of a receipt's document are in order already. -/
theorem CoordinationReceipt.sortKeys_toDict (r : CoordinationReceipt) :
    Json.sortKeys r.toDict = r.toDict := by
  rw [toDict, Json.sortKeys_obj, sortBy_of_pairwise (by simp)]
  rfl

theorem AbortCleanupReceipt.sortKeys_toDict (r : AbortCleanupReceipt) :
    Json.sortKeys r.toDict = r.toDict := by
  rw [toDict, Json.sortKeys_obj, sortBy_of_pairwise (by simp)]
  simp only [List.map_cons, List.map_nil, sortKeys_texts]
  rfl

/-- A payload that can be printed is read back with its keys in order. -/
theorem EventRow.read_eq (h : py.Loaded e.payloadJson) :
    e.read py = .ok { e with payloadJson := Json.sortKeys e.payloadJson } := by
  rw [EventRow.read, jsonLoads_canonicalJson h]
  rfl

/-- A member that is in order already is the same in the payload that is read. -/
theorem EventRow.read_member {key : String} {value : Json} (hm : e.payloadJson = .obj m)
    (h : py.Loaded e.payloadJson) (hkey : m.lookup key = some value)
    (hsorted : Json.sortKeys value = value) {e' : EventRow} (hread : e.read py = .ok e') :
    e'.payloadJson.get? key = some value := by
  obtain ⟨⟩ := (EventRow.read_eq h).symm.trans hread
  rw [hm] at h ⊢
  rw [Json.get?_sortKeys (loaded_obj.mp h).1, hkey, Option.map_some, hsorted]

end Text

end LineageTX
