import LineageTX.RowRecords

/-! Identity and persistence of the records over whole runs: what the store returned of a
migration or of a participant is what it reads until the next change of it, the intent of a
migration is the one of its creation, and the approvals are the receipts recorded. -/
namespace LineageTX
open Library Store
variable {py : Python} {now mid : String} {s s' : Store} {c : StoreCall}
  {calls : List (String × StoreCall)}

/-- The arguments of the call are records that their constructors have made. -/
def StoreCall.Supplied (py : Python) : StoreCall → Prop
  | .createMigration intent participants => intent.Valid py ∧ ∀ p ∈ participants, p.Valid
  | .recordApproval receipt => receipt.Valid py
  | _ => True

/-- What a call that creates or moves an entity returns. -/
inductive StoredRecord where
  | migration (record : MigrationRecord)
  | participant (record : Participant)

def StoreCall.returned : (c : StoreCall) → c.Returned → Option StoredRecord
  | .createMigration _ _, record => some (.migration record)
  | .transitionMigration _ _ _ _ _ _ _, record => some (.migration record)
  | .abortMigration _ _ _ _, record => some (.migration record)
  | .transitionParticipant _ _ _ _ _ _ _ _, record => some (.participant record)
  | _, _ => none

/-- The call changes the entity of the record, if it succeeds. -/
def StoreCall.Changes : StoredRecord → StoreCall → Prop
  | .migration record, c => c.MovesMigration record.intent.migrationId
  | .participant record, .transitionParticipant pid _ _ _ _ _ _ _ => pid = record.participantId
  | .participant record, .abortMigration mid _ _ _ =>
    mid = record.migrationId ∧ record.status ≠ .committed ∧ record.status ≠ .aborted
  | .participant _, _ => False

/-- The read of the entity of the record gives that record. -/
def StoredRecord.IsRead (py : Python) (s : Store) : StoredRecord → Prop
  | .migration record => s.readMigration py record.intent.migrationId = .ok record
  | .participant record => s.readParticipant py record.participantId = .ok record

/-- The migration was created with the intent by one of the calls. -/
def CreatedWith (py : Python) (calls : List (String × StoreCall)) (intent : ChangeIntent) : Prop :=
  ∃ earlier now participants later, calls = earlier ++ (now, .createMigration intent participants) :: later ∧
    ∃ t, (StoreCall.createMigration intent participants).run py now
      (earlier.foldl (storeStep py) {}) = .ok t

/-- The receipts that the calls recorded, in the order of the calls. -/
def recordedReceipts (py : Python) (s : Store) : List (String × StoreCall) → List ApprovalReceipt
  | [] => []
  | c :: calls =>
    (match c.2.run py c.1 s with
      | .ok _ => c.2.receipts
      | .error _ => []) ++ recordedReceipts py (storeStep py s c) calls

/-- Every row of the store stands for records that were constructed. -/
structure Store.HoldsRecords (py : Python) (s : Store) : Prop where
  keyed : s.Keyed
  participants : s.HoldsParticipants
  intents : ∀ mid row, s.migrationRow? mid = some row →
    ∃ intent : ChangeIntent, intent.Valid py ∧ intent.migrationId = mid ∧ row.intentJson = intent.toDict

theorem Store.HoldsRecords.step (hs : s.HoldsRecords py) (hc : c.Supplied py)
    (h : c.run py now s = .ok s') : s'.HoldsRecords py := by
  refine ⟨hs.keyed.step h, (StoreCall.participants_held hs.keyed hs.participants h).1, ?_⟩
  intro mid row' hrow'
  rcases StoreCall.migrationRow_cases h mid with hsame | ⟨i, ps, rfl, rfl, -, hcreated⟩ |
    ⟨-, row, row'', hrow, hmoved, hintent⟩
  · exact hs.intents mid row' (hsame ▸ hrow')
  · obtain rfl := Option.some.inj (hcreated.symm.trans hrow')
    exact ⟨i, hc.1, rfl, rfl⟩
  · obtain rfl := Option.some.inj (hmoved.symm.trans hrow')
    rw [hintent]
    exact hs.intents mid row hrow

theorem Store.HoldsRecords.run (hs : s.HoldsRecords py) (hcalls : ∀ c ∈ calls, c.2.Supplied py) :
    (calls.foldl (storeStep py) s).HoldsRecords py := by
  refine (StatesMeet.of_step hs fun s c hmem hs => ?_).last
  rcases c.2.after_cases py c.1 s with h | h
  · rw [storeStep, h]
    exact hs
  · exact hs.step (hcalls c hmem) h

theorem holdsRecords_empty : ({} : Store).HoldsRecords py :=
  ⟨keyed_empty, by simp [HoldsParticipants], by simp [migrationRow?]⟩

/-- A migration row is read as the record of its intent and its columns. -/
theorem readMigration_eq {row : MigrationRow} {intent : ChangeIntent}
    (hrow : s.migrationRow? mid = some row) (hvalid : intent.Valid py)
    (hintent : row.intentJson = intent.toDict) : s.readMigration py mid =
      .ok ⟨intent, row.status, row.version, row.createdAt, row.updatedAt⟩ := by
  have hselect := selectMigration_eq_ok.mpr hrow
  rw [readMigration, hselect, ok_bind, hintent, readColumn_eq intent.toDict_loaded, ok_bind,
    migrationFromRow, intent.fromDict_sortKeys, hvalid.postInit_eq]
  rfl

/-- A participant row is read as the participant that it holds, constructed. -/
theorem readParticipant_eq (hs : s.Keyed) {row : ParticipantRow} {p : Participant}
    (hrow : row ∈ s.participants) (hp : row.Holds p) :
    s.readParticipant py row.participantId = p.postInit := by
  have hselect := selectParticipant_eq_ok.mpr (find_participant hs hrow)
  rw [readParticipant, hselect, ok_bind]
  exact hp.read_eq

section Returned
variable {record : StoredRecord}

/-- The rows of the store say what the record says. -/
def StoredRecord.Stored (py : Python) (s : Store) : StoredRecord → Prop
  | .migration record => ∃ row, s.migrationRow? record.intent.migrationId = some row ∧
    migrationFromRow py row = .ok record
  | .participant record => ∃ row ∈ s.participants, ∃ p, row.Holds p ∧ p.postInit = .ok record

theorem StoredRecord.Stored.isRead (hs : s.HoldsRecords py) (h : record.Stored py s) :
    record.IsRead py s := by
  cases record with
  | migration record =>
    obtain ⟨row, hrow, hrecord⟩ := h
    obtain ⟨intent, hvalid, -, hintent⟩ := hs.intents _ row hrow
    refine (readMigration_eq hrow hvalid hintent).trans (Eq.trans ?_ hrecord)
    rw [migrationFromRow, hintent, intent.fromDict_toDict, hvalid.postInit_eq]
    rfl
  | participant record =>
    obtain ⟨row, hrow, p, hp, hrecord⟩ := h
    have hid : record.participantId = row.participantId := by
      rw [hp.participantId, Participant.postInit_eq_ok hrecord]
    rw [IsRead, hid]
    exact (readParticipant_eq hs.keyed hrow hp).trans hrecord

/-- A call that does not change the entity of a record leaves the rows as the record says. -/
theorem StoredRecord.Stored.step (hs : s.HoldsRecords py) (h : record.Stored py s)
    (hrun : c.run py now s = .ok s') (hc : ¬c.Changes record) : record.Stored py s' := by
  cases record with
  | migration record =>
    obtain ⟨row, hrow, hrecord⟩ := h
    rcases StoreCall.migrationRow_cases hrun record.intent.migrationId with hsame |
      ⟨i, ps, -, -, hnone, -⟩ | ⟨hmoves, -⟩
    · exact ⟨row, hsame.trans hrow, hrecord⟩
    · cases hrow.symm.trans hnone
    · exact absurd hmoves hc
  | participant record =>
    obtain ⟨row, hrow, p, hp, hrecord⟩ := h
    have hsame := Participant.postInit_eq_ok hrecord
    refine ⟨row, (StoreCall.participants_held hs.keyed hs.participants hrun).2 row hrow fun hmoves =>
      hc ?_, p, hp, hrecord⟩
    cases c with
    | transitionParticipant pid target e v ev payload sha links =>
      rw [StoreCall.MovesParticipant, hp.participantId] at hmoves
      rw [StoreCall.Changes, hsame]
      exact hmoves
    | abortMigration mid receipt e v =>
      obtain ⟨hmid, hopen⟩ := hmoves
      rw [StoreCall.Changes, hsame, hmid, hp.migrationId, ← hp.status]
      exact ⟨rfl, fun hst => hopen (.inl hst), fun hst => hopen (.inr hst)⟩
    | _ => exact hmoves.elim

/-- The row that a move leaves says what the move returned of it. -/
theorem stored_of_moved (hs : s.HoldsRecords py) {row : MigrationRow} {intent : ChangeIntent}
    {target : MigrationStatus} (hrow : s.migrationRow? mid = some row)
    (hintent : ChangeIntent.fromDict py row.intentJson = .ok intent)
    (hrow' : s'.migrationRow? mid = some { row with
      status := target, version := row.version + 1, updatedAt := now }) :
    (StoredRecord.migration ⟨intent, target, row.version + 1, row.createdAt, now⟩).Stored py s' := by
  obtain ⟨created, hvalid, hid, hdocument⟩ := hs.intents mid row hrow
  have hsame : created = intent := by
    rw [hdocument, created.fromDict_toDict, hvalid.postInit_eq] at hintent
    exact Except.ok.inj hintent
  refine ⟨_, by rw [← hsame, hid]; exact hrow', ?_⟩
  rw [migrationFromRow, hintent]
  rfl

/-- What a call returns of an entity is what the rows say after it. -/
theorem stored_of_answer (hs : s.HoldsRecords py) (hc : c.Supplied py) {r : c.Returned}
    (h : c.answer py now s = .ok (r, s')) (hr : c.returned r = some record) :
    record.Stored py s' := by
  cases c with
  | createMigration i ps =>
    cases hr
    obtain ⟨-, -, -, hrecord, -⟩ := createMigration_cases h
    have hrow := migrationRow?_create h i.migrationId
    rw [if_pos rfl] at hrow
    simp only at hrecord
    refine ⟨i.row, by rw [hrecord]; exact hrow, ?_⟩
    rw [hrecord, migrationFromRow, ChangeIntent.row, i.fromDict_toDict, hc.1.postInit_eq]
    rfl
  | transitionMigration m target e v ev payload receipts =>
    cases hr
    simp only [StoreCall.answer, transitionMigration, bind_eq_ok, selectMigration_eq_ok] at h
    obtain ⟨_, -, _, -, _, -, row, hrow, _, -, _, -, _, -, _, -, t, ht, intent, hintent, ⟨⟩⟩ := h
    refine stored_of_moved hs hrow hintent ?_
    rw [migrationRow?_appendEvent, migrationRow?_updateMigration hrow ht, if_pos rfl]
  | abortMigration m receipt e v =>
    cases hr
    simp only [StoreCall.answer, abortMigration, bind_eq_ok, selectMigration_eq_ok] at h
    obtain ⟨_, -, _, -, row, hrow, _, -, _, -, _, -, t, ht, u, hloop, intent, hintent, ⟨⟩⟩ := h
    have hsame := (sameMigrations_foldlM sameMigrations_abortParticipant hloop).migrations
    refine stored_of_moved hs hrow hintent ?_
    rw [migrationRow?, hsame]
    exact (migrationRow?_updateMigration hrow ht m).trans (if_pos rfl)
  | transitionParticipant pid target e v ev payload sha links =>
    cases hr
    obtain ⟨row, parent, value, t, hrow, -, -, rfl, rfl, -, hvalue, -, ht, hreturned, hs'⟩ :=
      transitionParticipant_cases h
    obtain rfl : row.participantId = pid := by simpa using List.find?_some hrow
    have hin := List.mem_of_find?_eq_some hrow
    obtain ⟨p, hp⟩ := hs.participants row hin
    obtain ⟨p', hp', hmoved⟩ := hp.transition hvalue target now
    rw [hp'] at ht hreturned
    have hmem := (mem_updateParticipant hs.keyed.unique hin ht).mpr (.inl rfl)
    simp only at hs' hreturned
    rw [hs']
    refine ⟨_, hmem, p'.moved target (row.version + 1) now, hmoved, ?_⟩
    rw [movedDocument_toDict, Participant.fromDict_toDict] at hreturned
    exact hreturned
  | armPublicationGate => cases hr
  | reserveAbortCleanup => cases hr
  | recordApproval => cases hr

end Returned

/-- What a call returned of an entity is read until a call changes that entity. -/
theorem isRead_of_answer (hs : s.HoldsRecords py) (hc : c.Supplied py) {r : c.Returned}
    (h : c.answer py now s = .ok (r, s')) {record : StoredRecord} (hr : c.returned r = some record)
    {later : List (String × StoreCall)} (hlater : ∀ c ∈ later, c.2.Supplied py)
    (hunchanged : CallsMeet (storeStep py) (fun s c => c.2.Changes record →
      (c.2.run py c.1 s).isOk = false) s' later) :
    record.IsRead py (later.foldl (storeStep py) s') := by
  have hs' := hs.step hc (StoreCall.run_of_answer h)
  have hrun := StatesMeet.of_callsMeet
    (P := fun s => s.HoldsRecords py ∧ record.Stored py s) ⟨hs', stored_of_answer hs hc h hr⟩
    (fun s c hmem hP hchange => ?_) hunchanged
  · exact hrun.last.2.isRead hrun.last.1
  · obtain ⟨hs, hstored⟩ := hP
    cases hok : c.2.run py c.1 s with
    | error e =>
      rw [storeStep, StoreCall.after, hok]
      exact ⟨hs, hstored⟩
    | ok t =>
      rw [storeStep, StoreCall.after_ok hok]
      rw [hok] at hchange
      exact ⟨hs.step (hlater c hmem) hok, hstored.step hs hok fun hchanges => by cases hchange hchanges⟩

section Intents

/-- A call keeps the intent of a migration that is there. -/
theorem intent_kept (hrow : ∃ row, s.migrationRow? mid = some row ∧ row.intentJson = j)
    (now : String) (c : StoreCall) :
    ∃ row, (c.after py now s).migrationRow? mid = some row ∧ row.intentJson = j := by
  obtain ⟨row, hrow, hintent⟩ := hrow
  rcases c.after_cases py now s with h | h
  · rw [h]
    exact ⟨row, hrow, hintent⟩
  · rcases StoreCall.migrationRow_cases h mid with hsame | ⟨i, ps, -, -, hnone, -⟩ |
      ⟨-, old, new, hold, hnew, hkept⟩
    · exact ⟨row, hsame.trans hrow, hintent⟩
    · cases hrow.symm.trans hnone
    · obtain rfl := Option.some.inj (hold.symm.trans hrow)
      exact ⟨new, hnew, hkept.trans hintent⟩

/-- The row of a migration keeps the document of the intent that it was created with. -/
theorem intent_of_created {intent : ChangeIntent} (h : CreatedWith py calls intent) :
    ∃ row, (calls.foldl (storeStep py) {}).migrationRow? intent.migrationId = some row ∧
      row.intentJson = intent.toDict := by
  obtain ⟨earlier, now, ps, later, rfl, t, ht⟩ := h
  rw [List.foldl_append, List.foldl_cons, storeStep, StoreCall.after_ok ht]
  obtain ⟨r, hr, ⟨⟩⟩ := bind_eq_ok.mp ht
  have hrow := migrationRow?_create hr intent.migrationId
  rw [if_pos rfl] at hrow
  have hrun : StatesMeet (storeStep py) (fun s => ∃ row,
      s.migrationRow? intent.migrationId = some row ∧ row.intentJson = intent.toDict) r.2 later :=
    .of_step ⟨intent.row, hrow, rfl⟩ fun s c _ hs => intent_kept hs c.1 c.2
  exact hrun.last

/-- Every migration was created, with the intent that its row keeps. -/
theorem created_of_row (calls : List (String × StoreCall)) : ∀ row,
    (calls.foldl (storeStep py) {}).migrationRow? mid = some row →
    ∃ intent, CreatedWith py calls intent ∧ intent.migrationId = mid ∧ row.intentJson = intent.toDict := by
  induction calls using List.reverseRecOn with
  | nil =>
    intro row hrow
    cases hrow
  | append_singleton calls c ih =>
    intro row' hrow'
    have hbefore : ∀ intent, CreatedWith py calls intent → CreatedWith py (calls ++ [c]) intent := by
      rintro intent ⟨earlier, now, ps, later, rfl, hok⟩
      exact ⟨earlier, now, ps, later ++ [c], by simp, hok⟩
    have hold : ∀ row, (calls.foldl (storeStep py) {}).migrationRow? mid = some row →
        row.intentJson = row'.intentJson → ∃ intent, CreatedWith py (calls ++ [c]) intent ∧
          intent.migrationId = mid ∧ row'.intentJson = intent.toDict := by
      intro row hrow hsame
      obtain ⟨intent, hcreated, hid, hintent⟩ := ih row hrow
      exact ⟨intent, hbefore intent hcreated, hid, hsame ▸ hintent⟩
    rw [List.foldl_append, List.foldl_cons, List.foldl_nil, storeStep] at hrow'
    rcases c.2.after_cases py c.1 (calls.foldl (storeStep py) {}) with h | h
    · rw [h] at hrow'
      exact hold row' hrow' rfl
    · rcases StoreCall.migrationRow_cases h mid with hsame | ⟨i, ps, hc, hid, -, hnew⟩ |
        ⟨-, row, new, hrow, hnew, hkept⟩
      · exact hold row' (hsame ▸ hrow') rfl
      · obtain rfl := Option.some.inj (hnew.symm.trans hrow')
        rw [hc] at h
        exact ⟨i, ⟨calls, c.1, ps, [], by rw [← hc], _, h⟩, hid, rfl⟩
      · obtain rfl := Option.some.inj (hnew.symm.trans hrow')
        exact hold row hrow hkept.symm

theorem CreatedWith.valid {intent : ChangeIntent} (h : CreatedWith py calls intent)
    (hcalls : ∀ c ∈ calls, c.2.Supplied py) : intent.Valid py := by
  obtain ⟨earlier, now, ps, later, rfl, -⟩ := h
  have hcall := hcalls (now, .createMigration intent ps) (by simp)
  exact hcall.1

end Intents

section Approvals
variable {receipts : List ApprovalReceipt}

/-- The approvals of a store are the receipts that the calls recorded. -/
theorem approvals_of_run (calls : List (String × StoreCall)) :
    (calls.foldl (storeStep py) s).approvals =
      s.approvals ++ (recordedReceipts py s calls).map ApprovalReceipt.row := by
  induction calls generalizing s with
  | nil => simp [recordedReceipts]
  | cons c calls ih =>
    rw [List.foldl_cons, ih, recordedReceipts, List.map_append, ← List.append_assoc]
    congr 1
    cases h : c.2.run py c.1 s with
    | error e =>
      rw [storeStep, StoreCall.after, h]
      exact (List.append_nil _).symm
    | ok t =>
      rw [storeStep, StoreCall.after_ok h]
      exact StoreCall.approvals_eq h

/-- The receipts that were recorded were constructed. -/
theorem recordedReceipts_valid (hcalls : ∀ c ∈ calls, c.2.Supplied py) :
    ∀ r ∈ recordedReceipts py s calls, r.Valid py := by
  induction calls generalizing s with
  | nil => simp [recordedReceipts]
  | cons c calls ih =>
    intro r hr
    rcases List.mem_append.mp hr with hhere | hlater
    · have hmem : r ∈ c.2.receipts := by
        cases h : c.2.run py c.1 s with
        | error e =>
          rw [h] at hhere
          cases hhere
        | ok t =>
          rw [h] at hhere
          exact hhere
      have hc := hcalls c (by simp)
      cases hcall : c.2 with
      | recordApproval receipt =>
        rw [hcall] at hmem hc
        rw [List.mem_singleton.mp hmem]
        exact hc
      | _ =>
        rw [hcall] at hmem
        cases hmem
    · exact ih (fun c hc => hcalls c (by simp [hc])) r hlater

/-- The rows of constructed receipts are read as those receipts, in their order. -/
theorem mapM_read_rows (hshown : py.ShowsContainers) (h : ∀ r ∈ receipts, r.Valid py) :
    ((receipts.map ApprovalReceipt.row).mapM fun row => do
      ApprovalReceipt.fromKeywords py (← readColumn py row.receiptJson)) =
    .ok (receipts.map ApprovalReceipt.ordered) := by
  induction receipts with
  | nil => rfl
  | cons r receipts ih =>
    have hr := (h r (by simp)).read_eq hshown
    have hrest := ih fun r' hr' => h r' (by simp [hr'])
    rw [List.map_cons, List.mapM_cons, List.map_cons]
    exact bind_eq_ok.mpr ⟨_, hr, bind_eq_ok.mpr ⟨_, hrest, rfl⟩⟩

/-- `list_approvals` gives the receipts recorded for the migration. -/
theorem listApprovals_eq (hshown : py.ShowsContainers)
    (hrows : s.approvals = receipts.map ApprovalReceipt.row) (h : ∀ r ∈ receipts, r.Valid py)
    {record : MigrationRecord} (hread : s.readMigration py mid = .ok record) :
    ∃ listed recorded, s.listApprovals py mid = .ok listed ∧
      recorded.Perm (receipts.filter (·.migrationId = mid)) ∧
      List.Forall₂ ApprovalReceipt.Same listed recorded := by
  let key (r : ApprovalReceipt) := toLex (r.approvedAt, toLex (r.participantId, r.ownerUrn))
  have hsorted : s.approvalRows mid =
      (sortBy key (receipts.filter (·.migrationId = mid))).map ApprovalReceipt.row := by
    rw [approvalRows, hrows, List.filter_map, sortBy_map]
    rfl
  have hperm := sortBy_perm key (receipts.filter (·.migrationId = mid))
  refine ⟨(sortBy key (receipts.filter (·.migrationId = mid))).map ApprovalReceipt.ordered, _, ?_,
    hperm, ?_⟩
  · rw [listApprovals, hread, ok_bind, hsorted]
    exact mapM_read_rows hshown fun r hr => h r (List.mem_of_mem_filter (hperm.mem_iff.mp hr))
  · rw [List.forall₂_map_left_iff]
    exact List.forall₂_same.mpr fun r _ => r.ordered_same

end Approvals

/-- The identity of the records, and what the store keeps of them over every run whose calls
are given constructed records. -/
structure RecordsKept (py : Python) (identities : Set String) : Prop where
  /-- Equal migration identifiers are of equal identities. -/
  identity : ∀ i i' : ChangeIntent, i.Valid py → i'.Valid py →
    canonicalJson i.identity ∈ identities → canonicalJson i'.identity ∈ identities →
    i.migrationId = i'.migrationId → i.SameIdentity i'
  /-- `from_json` inverts `to_json`. -/
  intentText : ∀ i : ChangeIntent, i.Valid py → ChangeIntent.fromJson py i.toJson = .ok i
  participantText : ∀ p : Participant, p.Valid → Participant.fromJson py p.toJson = .ok p
  /-- A migration that was created is read with the intent of its creation. -/
  created : ∀ calls : List (String × StoreCall), (∀ c ∈ calls, c.2.Supplied py) →
    ∀ intent, CreatedWith py calls intent → ∃ record,
      (calls.foldl (storeStep py) {}).readMigration py intent.migrationId = .ok record ∧
      record.intent = intent
  /-- A migration that is read was created, with the intent that is read. -/
  stored : ∀ calls : List (String × StoreCall), (∀ c ∈ calls, c.2.Supplied py) →
    ∀ mid record, (calls.foldl (storeStep py) {}).readMigration py mid = .ok record →
      record.intent.migrationId = mid ∧ CreatedWith py calls record.intent
  /-- The approvals of a migration are the receipts recorded for it. -/
  approvals : ∀ calls : List (String × StoreCall), (∀ c ∈ calls, c.2.Supplied py) →
    ∀ mid record, (calls.foldl (storeStep py) {}).readMigration py mid = .ok record →
      ∃ listed recorded, (calls.foldl (storeStep py) {}).listApprovals py mid = .ok listed ∧
        recorded.Perm ((recordedReceipts py {} calls).filter (·.migrationId = mid)) ∧
        List.Forall₂ ApprovalReceipt.Same listed recorded
  /-- The record that a call returned is read until a later call changes it. -/
  returned : ∀ (earlier : List (String × StoreCall)) (now : String) (c : StoreCall)
    (later : List (String × StoreCall)) (answer : c.Returned) (t : Store) (record : StoredRecord),
    (∀ x ∈ earlier ++ (now, c) :: later, x.2.Supplied py) →
    c.answer py now (earlier.foldl (storeStep py) {}) = .ok (answer, t) →
    c.returned answer = some record →
    CallsMeet (storeStep py) (fun s x => x.2.Changes record → (x.2.run py x.1 s).isOk = false) t later →
    record.IsRead py (later.foldl (storeStep py) t)

theorem records_kept (hshown : py.ShowsContainers) {identities : Set String}
    (hdigest : Set.InjOn py.shortSha256 identities) : RecordsKept py identities where
  identity _ _ hi hi' hmem hmem' := ChangeIntent.sameIdentity_of_migrationId hdigest hi hi' hmem hmem'
  intentText _ := ChangeIntent.fromJson_toJson
  participantText _ := Participant.fromJson_toJson
  created calls hcalls intent hcreated := by
    obtain ⟨row, hrow, hintent⟩ := intent_of_created hcreated
    exact ⟨_, readMigration_eq hrow (hcreated.valid hcalls) hintent, rfl⟩
  stored calls hcalls mid record hread := by
    obtain ⟨row, hselect, -⟩ := bind_eq_ok.mp hread
    have hrow := selectMigration_eq_ok.mp hselect
    obtain ⟨intent, hcreated, hid, hintent⟩ := created_of_row calls row hrow
    have hrecord := (readMigration_eq hrow (hcreated.valid hcalls) hintent).symm.trans hread
    obtain rfl : intent = record.intent := by rw [← Except.ok.inj hrecord]
    exact ⟨hid, hcreated⟩
  approvals calls hcalls mid record hread :=
    listApprovals_eq hshown (approvals_of_run calls) (recordedReceipts_valid hcalls) hread
  returned earlier now c later answer t record hcalls hanswer hrecord hunchanged := by
    have hearlier : (earlier.foldl (storeStep py) {}).HoldsRecords py :=
      holdsRecords_empty.run fun x hx => hcalls x (List.mem_append_left _ hx)
    have hc := hcalls (now, c) (by simp)
    exact isRead_of_answer hearlier hc hanswer hrecord (fun x hx => hcalls x (by simp [hx])) hunchanged

/-- A library that shows containers as Python does and tells one digest from the others. -/
def recordPython : Python :=
  { Python.sample fun text =>
      if text = canonicalJson ChangeIntent.sample.identity then ChangeIntent.sample.intentSha256
      else "9139ac7a86741c924e46b2bd6f3250ea475afc417db4ed0f669300a544e93be4" with
    reprContainer := fun _ => "[...]" }

/-- The identity of the change of another field. -/
def otherIdentity : String :=
  canonicalJson { ChangeIntent.sample with oldField := "user_id" : ChangeIntent }.identity

theorem recordPython_shows : recordPython.ShowsContainers where
  url j fieldName h := by
    have hplain : startsWith "[...]" "https://" = false := by decide +kernel
    simp [requireHttpsUrl, recordPython, Python.sample, hplain, ok_bind] at h
  digest _ := by
    have hplain : isSha256Hex "[...]" = false := by decide +kernel
    exact hplain

theorem sampleIdentity_ne : otherIdentity ≠ canonicalJson ChangeIntent.sample.identity := by
  intro h
  have hfield := (ChangeIntent.sameIdentity_of_text h).oldField
  exact absurd hfield (by decide)

theorem sampleIdentities_kept :
    RecordsKept recordPython {canonicalJson ChangeIntent.sample.identity, otherIdentity} := by
  refine records_kept recordPython_shows ?_
  have hsample : recordPython.shortSha256 (canonicalJson ChangeIntent.sample.identity) =
      takeChars ChangeIntent.sample.intentSha256 24 := by
    simp only [Python.shortSha256, recordPython, Python.sample, if_true]
  have hother : recordPython.shortSha256 otherIdentity = takeChars
      "9139ac7a86741c924e46b2bd6f3250ea475afc417db4ed0f669300a544e93be4" 24 := by
    simp only [Python.shortSha256, recordPython, Python.sample, if_neg sampleIdentity_ne]
  have hne : recordPython.shortSha256 (canonicalJson ChangeIntent.sample.identity) ≠
      recordPython.shortSha256 otherIdentity := by
    rw [hsample, hother]
    decide +kernel
  rintro _ (rfl | rfl) _ (rfl | rfl) h
  · rfl
  · exact absurd h hne
  · exact absurd h.symm hne
  · rfl

end LineageTX
