import LineageTX.RecordsKept

/-! The approvals of a store over whole runs: each is a receipt for an owner of a semantic
participant of its migration and for the mapping of the stored intent, and none is twice. -/
namespace LineageTX
open Library Store
variable {py : Python} {now m mid pid owner mapping : String} {s s' : Store} {c : StoreCall}

/-- What a row says for good of a semantic participant and one of its owners. -/
structure ParticipantRow.OwnedBy (row : ParticipantRow) (mid pid owner : String) : Prop where
  participantId : row.participantId = pid
  migrationId : row.migrationId = mid
  semantic : row.participantJson.get? "kind" = some (.str ParticipantKind.semanticApproval.value)
  owner : ∃ owners, row.participantJson.get? "owner_urns" = some (.arr owners) ∧ .str owner ∈ owners

/-- The store knows the owner of a semantic participant of the migration. -/
def Store.Owned (s : Store) (mid pid owner : String) : Prop :=
  ∃ row ∈ s.participants, row.OwnedBy mid pid owner

/-- The stored intent of the migration says what is mapped to what. -/
def Store.Maps (py : Python) (s : Store) (mid mapping : String) : Prop :=
  ∃ row intent, s.migrationRow? mid = some row ∧ ChangeIntent.fromDict py row.intentJson = .ok intent ∧
    mapping = intent.oldField ++ " -> " ++ intent.newField

/-- What the store says of the participant and the mapping that a receipt names. -/
structure ApprovalReceipt.Supported (py : Python) (s : Store) (r : ApprovalReceipt) : Prop where
  owned : s.Owned r.migrationId r.participantId r.ownerUrn
  maps : s.Maps py r.migrationId r.approvedMapping

/-- What an approval is about. -/
def ApprovalRow.subject (a : ApprovalRow) : String × String × String :=
  (a.migrationId, a.participantId, a.ownerUrn)

/-- Every approval is a supported receipt, and each is there once. -/
structure Store.Backed (py : Python) (s : Store) : Prop where
  receipts : ∀ a ∈ s.approvals, ∃ r : ApprovalReceipt, a = r.row ∧ r.Supported py s
  once : (s.approvals.map ApprovalRow.subject).Nodup

section Rows

/-- The row of a participant is read as that participant, with a time of update. -/
theorem ParticipantRow.Holds.of_read {row : ParticipantRow} {p q : Participant} (hrow : row.Holds p)
    (hread : participantFromRow py row = .ok q) :
    q = { p with updatedAt := if p.updatedAt = "" then p.createdAt else p.updatedAt } := by
  have hdocument : participantFromRow py row = p.postInit := by
    rw [participantFromRow, hrow.document, hrow.status, hrow.version, hrow.updatedAt]
    exact Participant.fromDict_toDict p
  exact Participant.postInit_eq_ok (hdocument.symm.trans hread)

/-- The row of a participant is read with the kind and the owners of its document. -/
theorem ownedBy_of_read {row : ParticipantRow} {p q : Participant} (hrow : row.Holds p)
    (hread : participantFromRow py row = .ok q) (hkind : q.kind = .semanticApproval)
    (howner : owner ∈ q.ownerUrns) : row.OwnedBy p.migrationId p.participantId owner := by
  obtain rfl := hrow.of_read hread
  refine ⟨hrow.participantId, hrow.migrationId, ?_, p.ownerUrns.map .str, ?_, ?_⟩
  · rw [hrow.document, ← hkind]
    rfl
  · rw [hrow.document]
    rfl
  · exact List.mem_map_of_mem howner

/-- A transition sets neither the kind nor the owners. -/
theorem ParticipantRow.OwnedBy.moved {row : ParticipantRow} (h : row.OwnedBy mid pid owner)
    {doc : Json} (hdoc : KeepsFields row.participantJson doc) (target : ParticipantStatus) :
    (row.moved (movedDocument doc target (row.version + 1) now) target now).OwnedBy mid pid owner := by
  have hfield : ∀ key, key ≠ "candidate_commit_sha" → key ≠ "evidence_links" → key ≠ "status" →
      key ≠ "updated_at" → key ≠ "version" →
      (movedDocument doc target (row.version + 1) now).get? key = row.participantJson.get? key := by
    intro key hsha hlinks hstatus hupdated hversion
    rw [movedDocument, Json.get?_set_of_ne hversion, Json.get?_set_of_ne hupdated,
      Json.get?_set_of_ne hstatus]
    exact hdoc key hsha hlinks
  refine ⟨h.participantId, h.migrationId, ?_, ?_⟩
  · exact (hfield "kind" (by decide) (by decide) (by decide) (by decide) (by decide)).trans h.semantic
  · obtain ⟨owners, howners, hmem⟩ := h.owner
    refine ⟨owners, ?_, hmem⟩
    exact (hfield "owner_urns" (by decide) (by decide) (by decide) (by decide) (by decide)).trans howners

theorem Piece.owned (hs : s.Keyed) (h : Piece now m s s') (ho : s.Owned mid pid owner) :
    s'.Owned mid pid owner := by
  obtain ⟨row, hrow, howned⟩ := ho
  cases h with
  | create => exact ⟨row, List.mem_append_left _ hrow, howned⟩
  | noteMigration => exact ⟨row, hrow, howned⟩
  | noteParticipant => exact ⟨row, hrow, howned⟩
  | moveMigration old target t ev payload hold hcan ht =>
    obtain ⟨-, rfl⟩ := updateMigration_eq_ok.mp ht
    exact ⟨row, hrow, howned⟩
  | moveParticipant old target t doc ev payload hold hmid hcan hdoc ht =>
    have hmem := fun r => @mem_updateParticipant now s t hs.unique old hold target _ ht r
    by_cases hid : row.participantId = old.participantId
    · obtain rfl := hs.eq_of_id hrow hold hid
      exact ⟨_, (hmem _).mpr (.inl rfl), howned.moved hdoc target⟩
    · exact ⟨row, (hmem row).mpr (.inr ⟨hrow, hid⟩), howned⟩

theorem StoreCall.owned (hs : s.Keyed) (h : c.run py now s = .ok s') (ho : s.Owned mid pid owner) :
    s'.Owned mid pid owner :=
  (StoreCall.pieces hs h).induct (fun hk ho hpiece => hpiece.owned hk ho) hs ho

/-- No call changes the intent of a migration. -/
theorem StoreCall.maps (h : c.run py now s = .ok s') (hm : s.Maps py mid mapping) :
    s'.Maps py mid mapping := by
  obtain ⟨row, intent, hrow, hintent, hmapping⟩ := hm
  rcases StoreCall.migrationRow_cases h mid with hsame | ⟨i, ps, -, -, hfree, -⟩ |
    ⟨-, old, new, hold, hnew, hkept⟩
  · exact ⟨row, intent, hsame.trans hrow, hintent, hmapping⟩
  · rw [hfree] at hrow
    cases hrow
  · obtain rfl := Option.some.inj (hold.symm.trans hrow)
    exact ⟨new, intent, hnew, by rw [hkept]; exact hintent, hmapping⟩

theorem ApprovalReceipt.Supported.step {r : ApprovalReceipt} (hr : r.Supported py s) (hs : s.Keyed)
    (h : c.run py now s = .ok s') : r.Supported py s' :=
  ⟨StoreCall.owned hs h hr.owned, StoreCall.maps h hr.maps⟩

end Rows

section Recorded
variable {r : ApprovalReceipt}

/-- A receipt is recorded for an owner and for the mapping that the store holds. -/
theorem supported_of_recordApproval (hs : s.HoldsParticipants) (h : s.recordApproval py r = .ok s') :
    r.Supported py s := by
  obtain ⟨row, parent, p, intent, hrow, hmid, hparent, -, -, hread, hkind, howner, hintent, hmapping, -⟩ :=
    recordApproval_cases h
  obtain ⟨q, hq⟩ := hs row (List.mem_of_find?_eq_some hrow)
  have hpid : row.participantId = r.participantId := by simpa using List.find?_some hrow
  have howned := ownedBy_of_read hq hread hkind howner
  rw [← hq.participantId, ← hq.migrationId, hpid, hmid] at howned
  exact ⟨⟨row, List.mem_of_find?_eq_some hrow, howned⟩, parent, intent, hparent, hintent, hmapping⟩

/-- The same owner's approval of the same participant is not recorded again. -/
theorem fresh_of_recordApproval (h : s.recordApproval py r = .ok s') :
    r.row.subject ∉ s.approvals.map ApprovalRow.subject := by
  simp only [recordApproval, bind_eq_ok, require_eq_ok] at h
  obtain ⟨_, -, _, -, _, -, _, -, _, -, _, -, _, -, _, -, _, -, _, -, _, hfresh, -⟩ := h
  intro hmem
  obtain ⟨a, ha, hsubject⟩ := List.mem_map.mp hmem
  simp only [ApprovalRow.subject, ApprovalReceipt.row, Prod.mk.injEq] at hsubject
  have hany : s.approvals.any (fun a => a.migrationId = r.migrationId &&
      a.participantId = r.participantId && a.ownerUrn = r.ownerUrn) = true :=
    List.any_eq_true.mpr ⟨a, ha, by simp [hsubject.1, hsubject.2.1, hsubject.2.2]⟩
  rw [hany] at hfresh
  cases hfresh

end Recorded

/-- A call keeps the approvals supported; it adds one only for a receipt that it records. -/
theorem Store.Backed.step (hb : s.Backed py) (hk : s.Keyed) (hs : s.HoldsParticipants)
    (h : c.run py now s = .ok s') : s'.Backed py := by
  have happrovals := StoreCall.approvals_eq h
  have hold : ∀ a ∈ s.approvals, ∃ r : ApprovalReceipt, a = r.row ∧ r.Supported py s' := by
    intro a ha
    obtain ⟨r, hr, hsupported⟩ := hb.receipts a ha
    exact ⟨r, hr, hsupported.step hk h⟩
  cases c with
  | recordApproval r =>
    simp only [StoreCall.receipts, List.map_cons, List.map_nil] at happrovals
    constructor
    · intro a ha
      rw [happrovals] at ha
      rcases List.mem_append.mp ha with ha | ha
      · exact hold a ha
      · exact ⟨r, List.mem_singleton.mp ha, (supported_of_recordApproval hs h).step hk h⟩
    · rw [happrovals, List.map_append, List.map_singleton]
      refine List.nodup_append.mpr ⟨hb.once, List.nodup_singleton _, fun x hx y hy hxy => ?_⟩
      obtain rfl := List.mem_singleton.mp hy
      exact fresh_of_recordApproval h (hxy ▸ hx)
  | _ =>
    simp only [StoreCall.receipts, List.map_nil, List.append_nil] at happrovals
    exact ⟨by rw [happrovals]; exact hold, by rw [happrovals]; exact hb.once⟩

/-- What the approvals of a store rest on, with its rows. -/
structure Store.Vetted (py : Python) (s : Store) : Prop where
  keyed : s.Keyed
  participants : s.HoldsParticipants
  backed : s.Backed py

theorem Store.Vetted.step (hs : s.Vetted py) (h : c.run py now s = .ok s') : s'.Vetted py :=
  ⟨hs.keyed.step h, (StoreCall.participants_held hs.keyed hs.participants h).1,
    hs.backed.step hs.keyed hs.participants h⟩

theorem vetted_empty : ({} : Store).Vetted py :=
  ⟨keyed_empty, by simp [HoldsParticipants], by simp, by simp⟩

/-- In every state of every run each approval is the receipt of an owner of a semantic
participant of its migration, for exactly the mapping of the stored intent, and no owner's
approval of a participant is there twice. -/
theorem approvals_backed (calls : List (String × StoreCall)) :
    StatesMeet (storeStep py) (Store.Backed py) {} calls := by
  have hvetted : StatesMeet (storeStep py) (Store.Vetted py) {} calls := by
    refine StatesMeet.of_step vetted_empty fun s call _ hs => ?_
    rcases call.2.after_cases py call.1 s with h | h
    · rw [storeStep, h]
      exact hs
    · exact hs.step h
  exact hvetted.mono fun _ hs => hs.backed

end LineageTX
