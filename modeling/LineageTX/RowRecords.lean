import LineageTX.StoreColumns
import LineageTX.EventLog

/-! What the rows of a reachable store stand for: each participant row for a participant,
each migration row for the intent that its creation named, each approval row for a receipt. -/
namespace LineageTX
open Library Store
variable {py : Python} {now mid : String} {s s' : Store} {c : StoreCall}

/-- The document of a participant row is that of a participant, whose state the other
columns repeat. -/
structure ParticipantRow.Holds (row : ParticipantRow) (p : Participant) : Prop where
  participantId : row.participantId = p.participantId
  migrationId : row.migrationId = p.migrationId
  document : row.participantJson = p.toDict
  status : row.status = p.status
  version : row.version = p.version
  updatedAt : row.updatedAt = p.updatedAt

/-- The participant after a transition. -/
def Participant.moved (p : Participant) (target : ParticipantStatus) (version : Int)
    (now : String) : Participant :=
  { p with status := target, version, updatedAt := now }

theorem movedDocument_toDict (p : Participant) (target : ParticipantStatus) (version : Int) :
    movedDocument p.toDict target version now = (p.moved target version now).toDict := rfl

/-- Reading a row runs the constructor on the participant that it holds: the columns laid
over the document say what it says. -/
theorem ParticipantRow.Holds.read_eq {row : ParticipantRow} {p : Participant} (h : row.Holds p) :
    (do participantFromRow py { row with
      participantJson := ← readColumn py row.participantJson }) = p.postInit := by
  obtain ⟨m, hm, hlookup⟩ := p.lookup_sorted
  rw [h.document, readColumn_eq p.toDict_loaded, ok_bind, participantFromRow, h.status, h.version,
    h.updatedAt, ← p.fromDict_toDict, hm]
  refine Participant.fromDict_congr fun key => ?_
  rw [Json.lookup_assign, Json.lookup_assign, Json.lookup_assign]
  split_ifs with hupdated hversion hstatus
  · rw [hupdated]
    rfl
  · rw [hversion]
    rfl
  · rw [hstatus]
    rfl
  · exact hlookup key

/-- The row after the guarded update of a transition. -/
def ParticipantRow.moved (row : ParticipantRow) (value : Json) (target : ParticipantStatus)
    (now : String) : ParticipantRow :=
  { row with participantJson := value, status := target, version := row.version + 1, updatedAt := now }

section Steps

/-- Every participant row is one of a participant. -/
def Store.HoldsParticipants (s : Store) : Prop := ∀ row ∈ s.participants, ∃ p, row.Holds p

theorem ParticipantRow.Holds.moved {row : ParticipantRow} {p : Participant} (h : row.Holds p)
    (target : ParticipantStatus) (now : String) :
    (row.moved (movedDocument p.toDict target (row.version + 1) now) target now).Holds
      (p.moved target (row.version + 1) now) :=
  ⟨h.participantId, h.migrationId, rfl, rfl, rfl, rfl⟩

/-- A guarded update of a participant moves its row and leaves the others. -/
theorem mem_updateParticipant (hs : (s.participants.map (·.participantId)).Nodup)
    {row : ParticipantRow} (hrow : row ∈ s.participants) {target : ParticipantStatus} {value : Json}
    (h : s.updateParticipant row.participantId row.status target row.version value now = .ok s')
    {r : ParticipantRow} : r ∈ s'.participants ↔
      r = row.moved value target now ∨ r ∈ s.participants ∧ r.participantId ≠ row.participantId := by
  obtain ⟨-, rfl⟩ := updateParticipant_eq_ok.mp h
  simp only [List.mem_map]
  have hmoved : ∀ p ∈ s.participants, p.participantId = row.participantId → p = row :=
    fun p hp hid => List.inj_on_of_nodup_map hs hp hrow hid
  constructor
  · rintro ⟨p, hp, rfl⟩
    cases hhit : hitsParticipant row.participantId row.status row.version p with
    | true =>
      simp only [hitsParticipant, Bool.and_eq_true, decide_eq_true_eq] at hhit
      obtain rfl := hmoved p hp hhit.1.1
      exact .inl rfl
    | false =>
      refine .inr ⟨hp, fun hid => ?_⟩
      obtain rfl := hmoved p hp hid
      simp [hitsParticipant] at hhit
  · rintro (rfl | ⟨hr, hne⟩)
    · exact ⟨row, hrow, by simp [hitsParticipant, ParticipantRow.moved]⟩
    · exact ⟨r, hr, by simp [hitsParticipant, hne]⟩

theorem Store.HoldsParticipants.update (hs : s.HoldsParticipants)
    (hkeys : (s.participants.map (·.participantId)).Nodup) {row : ParticipantRow}
    (hrow : row ∈ s.participants) {target : ParticipantStatus} {value : Json}
    (hvalue : ∃ p, (row.moved value target now).Holds p)
    (h : s.updateParticipant row.participantId row.status target row.version value now = .ok s') :
    s'.HoldsParticipants := by
  intro r hr
  rcases (mem_updateParticipant hkeys hrow h).mp hr with rfl | ⟨hr, -⟩
  · exact hvalue
  · exact hs r hr

/-- A transition moves the row to one of a participant, with the document that it reads
again. -/
theorem ParticipantRow.Holds.transition {row : ParticipantRow} {p : Participant} (h : row.Holds p)
    {sha : Option String} {links : Option (List String)} {value : Json}
    (hvalue : setCandidateSha sha row.participantJson = .ok value) (target : ParticipantStatus)
    (now : String) : ∃ p' : Participant, setEvidenceLinks links value = p'.toDict ∧
      (row.moved (movedDocument p'.toDict target (row.version + 1) now) target now).Holds
        (p'.moved target (row.version + 1) now) := by
  rw [h.document] at hvalue
  have hsha : ∃ text, value = ({ p with candidateCommitSha := text } : Participant).toDict := by
    cases sha with
    | none =>
      obtain ⟨⟩ := hvalue
      exact ⟨p.candidateCommitSha, rfl⟩
    | some text =>
      obtain ⟨_, -, ⟨⟩⟩ := bind_eq_ok.mp hvalue
      exact ⟨text, rfl⟩
  obtain ⟨text, rfl⟩ := hsha
  cases links with
  | none => exact ⟨_, rfl, h.participantId, h.migrationId, rfl, rfl, rfl, rfl⟩
  | some links =>
    exact ⟨{ p with candidateCommitSha := text, evidenceLinks := links }, rfl, h.participantId,
      h.migrationId, rfl, rfl, rfl, rfl⟩

/-- The row after the turn of an abort that moves it. -/
def ParticipantRow.abortedAt (row : ParticipantRow) (now : String) : ParticipantRow :=
  row.moved (movedDocument row.participantJson .aborted (row.version + 1) now) .aborted now

/-- The loop of an abort moves the rows that are open, each once, and no other row. -/
theorem mem_abortLoop {todo : List ParticipantRow}
    (hkeys : (s.participants.map (·.participantId)).Nodup)
    (hin : ∀ row ∈ todo, row ∈ s.participants) (htodo : (todo.map (·.participantId)).Nodup)
    (h : todo.foldlM (abortParticipant now) s = .ok s') {r : ParticipantRow} :
    r ∈ s'.participants ↔
      r ∈ s.participants ∧ (∀ row ∈ todo, row.participantId = r.participantId → row.Settled) ∨
      ∃ row ∈ todo, row.Unsettled ∧ r = row.abortedAt now := by
  induction todo generalizing s with
  | nil =>
    obtain ⟨⟩ := h
    simp
  | cons row todo ih =>
    obtain ⟨t, ht, hloop⟩ := bind_eq_ok.mp (by simpa using h)
    obtain ⟨hnot, htodo'⟩ := List.nodup_cons.mp htodo
    have hother : ∀ row' ∈ todo, row'.participantId ≠ row.participantId := by
      intro row' hrow' he
      exact hnot (List.mem_map.mpr ⟨row', hrow', he⟩)
    rcases abortParticipant_cases ht with ⟨hsettled, rfl⟩ | ⟨hopen, u, hupdate, hu⟩
    · rw [ih hkeys (fun r' hr' => hin r' (by simp [hr'])) htodo' hloop]
      simp [hsettled, ParticipantRow.Unsettled]
    · have hids : t.participants.map (·.participantId) = s.participants.map (·.participantId) := by
        have howners := congrArg (List.map Prod.fst) (owners_updateParticipant hupdate)
        rw [hu, participants_appendEvent]
        simpa [Store.owners, Function.comp_def] using howners
      have hmem : ∀ r' : ParticipantRow, r' ∈ t.participants ↔ r' = row.abortedAt now ∨
          r' ∈ s.participants ∧ r'.participantId ≠ row.participantId := by
        intro r'
        rw [hu, participants_appendEvent]
        exact mem_updateParticipant hkeys (hin row (by simp)) hupdate
      have hin' : ∀ row' ∈ todo, row' ∈ t.participants := fun row' hrow' =>
        (hmem row').mpr (.inr ⟨hin row' (by simp [hrow']), hother row' hrow'⟩)
      rw [ih (by rw [hids]; exact hkeys) hin' htodo' hloop, hmem]
      constructor
      · rintro (⟨rfl | ⟨hr, hne⟩, hrest⟩ | ⟨row', hrow', hopen', rfl⟩)
        · exact .inr ⟨row, by simp, hopen, rfl⟩
        · refine .inl ⟨hr, fun row' hrow' he => ?_⟩
          rcases List.mem_cons.mp hrow' with rfl | hrow'
          · exact absurd he.symm hne
          · exact hrest row' hrow' he
        · exact .inr ⟨row', by simp [hrow'], hopen', rfl⟩
      · rintro (⟨hr, hall⟩ | ⟨row', hrow', hopen', rfl⟩)
        · refine .inl ⟨.inr ⟨hr, fun he => hopen (hall row (by simp) he.symm)⟩, ?_⟩
          exact fun row' hrow' => hall row' (by simp [hrow'])
        · rcases List.mem_cons.mp hrow' with rfl | hrow'
          · refine .inl ⟨.inl rfl, fun row'' hrow'' he => ?_⟩
            exact absurd he (hother row'' hrow'')
          · exact .inr ⟨row', hrow', hopen', rfl⟩

/-- The inserts of a new migration add rows of participants. -/
theorem holds_insertLoop {ps : List Participant} (hs : s.HoldsParticipants)
    (h : ps.foldlM (insertParticipant py) s = .ok s') :
    s'.HoldsParticipants ∧ ∀ row ∈ s.participants, row ∈ s'.participants := by
  induction ps generalizing s with
  | nil =>
    obtain ⟨⟩ := h
    exact ⟨hs, fun _ hrow => hrow⟩
  | cons p ps ih =>
    obtain ⟨t, ht, hloop⟩ := bind_eq_ok.mp (by simpa using h)
    simp only [insertParticipant, bind_eq_ok] at ht
    obtain ⟨initial, hinitial, _, -, ht⟩ := ht
    have hrows : t.participants = s.participants ++ [⟨initial.participantId, initial.migrationId,
        initial.toDict, initial.status, 0, initial.createdAt, initial.updatedAt⟩] := by
      rw [← Except.ok.inj ht]
    have hdocument : (p.toDict.set "status" (.str ParticipantStatus.discovered.value)).set "version"
        (.int 0) = ({ p with status := .discovered, version := 0 } : Participant).toDict := rfl
    rw [hdocument, Participant.fromDict_toDict] at hinitial
    have hversion : 0 = initial.version := by rw [Participant.postInit_eq_ok hinitial]
    have hinserted : t.HoldsParticipants := by
      intro row hrow
      rw [hrows] at hrow
      rcases List.mem_append.mp hrow with hold | hnew
      · exact hs row hold
      · obtain rfl := List.mem_singleton.mp hnew
        exact ⟨initial, rfl, rfl, rfl, rfl, hversion, rfl⟩
    obtain ⟨hholds, hkept⟩ := ih hinserted hloop
    exact ⟨hholds, fun row hrow => hkept row (by simp [hrows, hrow])⟩

/-- The call may move the participant row. -/
def StoreCall.MovesParticipant (row : ParticipantRow) : StoreCall → Prop
  | .transitionParticipant pid _ _ _ _ _ _ _ => pid = row.participantId
  | .abortMigration mid _ _ _ => mid = row.migrationId ∧ row.Unsettled
  | _ => False

/-- After a call every participant row is one of a participant, and the rows that the call
does not move are there still. -/
theorem StoreCall.participants_held (hk : s.Keyed) (hs : s.HoldsParticipants)
    (h : c.run py now s = .ok s') : s'.HoldsParticipants ∧
      ∀ row ∈ s.participants, ¬c.MovesParticipant row → row ∈ s'.participants := by
  cases c with
  | createMigration i ps =>
    obtain ⟨r, hr, ⟨⟩⟩ := bind_eq_ok.mp h
    obtain ⟨-, -, -, -, t, ht, hs'⟩ := createMigration_cases hr
    obtain ⟨hholds, hkept⟩ := holds_insertLoop (by exact hs) ht
    rw [hs']
    exact ⟨hholds, fun row hrow _ => hkept row hrow⟩
  | armPublicationGate m v =>
    obtain ⟨row, -, -, -, -, ⟨-, rfl⟩ | rfl⟩ := armPublicationGate_cases h
    · exact ⟨hs, fun _ hrow _ => hrow⟩
    · exact ⟨hs, fun _ hrow _ => hrow⟩
  | reserveAbortCleanup m e v =>
    obtain ⟨row, -, -, -, -, ⟨-, rfl⟩ | rfl⟩ := reserveAbortCleanup_cases h
    · exact ⟨hs, fun _ hrow _ => hrow⟩
    · exact ⟨hs, fun _ hrow _ => hrow⟩
  | transitionMigration m target e v ev payload receipts =>
    obtain ⟨r, hr, ⟨⟩⟩ := bind_eq_ok.mp h
    obtain ⟨-, -, -, -, row, t, -, -, -, -, ht, hs', -⟩ := transitionMigration_cases hr
    obtain ⟨-, rfl⟩ := updateMigration_eq_ok.mp ht
    rw [hs']
    exact ⟨hs, fun _ hrow _ => hrow⟩
  | abortMigration m receipt e v =>
    obtain ⟨r, hr, ⟨⟩⟩ := bind_eq_ok.mp h
    obtain ⟨-, -, -, row, t, u, -, -, -, -, ht, hu, hloop, -⟩ := abortMigration_cases hr
    have hps : u.participants = s.participants := by
      obtain ⟨-, rfl⟩ := updateMigration_eq_ok.mp ht
      rw [hu]
      rfl
    have hrows : ∀ row, row ∈ u.participantRows m ↔ row ∈ s.participants ∧ row.migrationId = m := by
      intro row
      rw [mem_participantRows, hps]
    have htodo : ((u.participantRows m).map (·.participantId)).Nodup := by
      rw [participantRows, ((sortBy_perm _ _).map _).nodup_iff, hps]
      exact hk.unique.sublist (List.filter_sublist.map _)
    have hmem := fun row => @mem_abortLoop now u r.2 _ (by rw [hps]; exact hk.unique)
      (fun row hrow => by rw [hps]; exact ((hrows row).mp hrow).1) htodo hloop row
    refine ⟨fun row hrow => ?_, fun row hrow hc => ?_⟩
    · rcases (hmem row).mp hrow with ⟨hold, -⟩ | ⟨old, hold, -, rfl⟩
      · rw [hps] at hold
        exact hs row hold
      · obtain ⟨p, hp⟩ := hs old ((hrows old).mp hold).1
        refine ⟨p.moved .aborted (old.version + 1) now, ?_⟩
        rw [ParticipantRow.abortedAt, hp.document]
        exact hp.moved .aborted now
    · refine (hmem row).mpr (.inl ⟨by rw [hps]; exact hrow, fun old hold hid => ?_⟩)
      obtain ⟨hold, hmid⟩ := (hrows old).mp hold
      obtain rfl := hk.eq_of_id hold hrow hid
      by_contra hopen
      exact hc ⟨hmid.symm, hopen⟩
  | transitionParticipant pid target e v ev payload sha links =>
    obtain ⟨r, hr, ⟨⟩⟩ := bind_eq_ok.mp h
    obtain ⟨row, parent, value, t, hrow, -, -, rfl, rfl, -, hvalue, -, ht, -, hs'⟩ :=
      transitionParticipant_cases hr
    have hid : row.participantId = pid := by simpa using List.find?_some hrow
    subst hid
    have hin := List.mem_of_find?_eq_some hrow
    obtain ⟨p, hp⟩ := hs row hin
    obtain ⟨p', hp', hmoved⟩ := hp.transition hvalue target now
    rw [hp'] at ht
    rw [hs']
    have hheld : t.HoldsParticipants := hs.update hk.unique hin ⟨_, hmoved⟩ ht
    refine ⟨hheld, fun other hother hc => ?_⟩
    exact (mem_updateParticipant hk.unique hin ht).mpr (.inr ⟨hother, fun he => hc he.symm⟩)
  | recordApproval receipt =>
    obtain ⟨row, parent, p, i, -, -, -, -, -, -, -, -, -, -, rfl⟩ := recordApproval_cases h
    exact ⟨hs, fun _ hrow _ => hrow⟩

/-- The row that the creation of a migration inserts. -/
def ChangeIntent.row (i : ChangeIntent) : MigrationRow :=
  ⟨i.migrationId, i.toDict, .detected, 0, i.createdAt, i.createdAt⟩

/-- The call may move the row of the migration. -/
def StoreCall.MovesMigration (mid : String) : StoreCall → Prop
  | .transitionMigration m _ _ _ _ _ _ => m = mid
  | .abortMigration m _ _ _ => m = mid
  | _ => False

/-- The rows of the migrations after a creation. -/
theorem migrationRow?_create {i : ChangeIntent} {ps : List Participant} {r : MigrationRecord × Store}
    (h : s.createMigration py i ps = .ok r) (mid : String) :
    r.2.migrationRow? mid = if i.migrationId = mid then some i.row else s.migrationRow? mid := by
  obtain ⟨-, -, hfree, -, t, ht, hs'⟩ := createMigration_cases h
  have hsame := (sameMigrations_foldlM sameMigrations_insertParticipant ht).migrations
  have hread : r.2.migrationRow? mid = (s.migrations ++ [i.row]).find? (·.migrationId == mid) := by
    rw [hs', migrationRow?_appendEvent, migrationRow?, hsame]
    rfl
  rw [hread, List.find?_append]
  by_cases hm : i.migrationId = mid
  · subst hm
    have hnone : s.migrations.find? (·.migrationId == i.migrationId) = none := hfree
    rw [hnone]
    simp [ChangeIntent.row]
  · simp [migrationRow?, ChangeIntent.row, hm]

/-- What a call does to the row of a migration: nothing, or it creates it, or it moves it and
keeps its intent. -/
theorem StoreCall.migrationRow_cases (h : c.run py now s = .ok s') (mid : String) :
    s'.migrationRow? mid = s.migrationRow? mid ∨
    (∃ i ps, c = .createMigration i ps ∧ i.migrationId = mid ∧ s.migrationRow? mid = none ∧
      s'.migrationRow? mid = some i.row) ∨
    (c.MovesMigration mid ∧ ∃ row row', s.migrationRow? mid = some row ∧
      s'.migrationRow? mid = some row' ∧ row'.intentJson = row.intentJson) := by
  have hupdated : ∀ {m : String} {row : MigrationRow} {target : MigrationStatus} {t : Store},
      s.migrationRow? m = some row →
      s.updateMigration m row.status target row.version now = .ok t → s'.migrations = t.migrations →
      s'.migrationRow? mid = s.migrationRow? mid ∨ (m = mid ∧ ∃ row row', s.migrationRow? mid = some row ∧
        s'.migrationRow? mid = some row' ∧ row'.intentJson = row.intentJson) := by
    intro m row target t hrow ht hsame
    have hread : s'.migrationRow? mid = t.migrationRow? mid := by rw [migrationRow?, hsame]; rfl
    rw [hread, migrationRow?_updateMigration hrow ht mid]
    by_cases hm : mid = m
    · subst hm
      rw [if_pos rfl]
      exact .inr ⟨rfl, row, _, hrow, rfl, rfl⟩
    · rw [if_neg hm]
      exact .inl rfl
  cases c with
  | createMigration i ps =>
    obtain ⟨r, hr, ⟨⟩⟩ := bind_eq_ok.mp h
    obtain ⟨-, -, hfree, -⟩ := createMigration_cases hr
    have hread := migrationRow?_create hr mid
    by_cases hm : i.migrationId = mid
    · subst hm
      rw [if_pos rfl] at hread
      exact .inr (.inl ⟨i, ps, rfl, rfl, hfree, hread⟩)
    · rw [if_neg hm] at hread
      exact .inl hread
  | armPublicationGate m v =>
    obtain ⟨row, -, -, -, -, ⟨-, rfl⟩ | rfl⟩ := armPublicationGate_cases h
    · exact .inl rfl
    · exact .inl rfl
  | reserveAbortCleanup m e v =>
    obtain ⟨row, -, -, -, -, ⟨-, rfl⟩ | rfl⟩ := reserveAbortCleanup_cases h
    · exact .inl rfl
    · exact .inl rfl
  | transitionMigration m target e v ev payload receipts =>
    obtain ⟨r, hr, ⟨⟩⟩ := bind_eq_ok.mp h
    obtain ⟨-, -, -, -, row, t, hrow, -, -, -, ht, hs', -⟩ := transitionMigration_cases hr
    exact (hupdated hrow ht (by rw [hs']; rfl)).imp_right .inr
  | abortMigration m receipt e v =>
    obtain ⟨r, hr, ⟨⟩⟩ := bind_eq_ok.mp h
    obtain ⟨-, -, -, row, t, u, hrow, -, -, -, ht, hu, hloop, -⟩ := abortMigration_cases hr
    have hsame := (sameMigrations_foldlM sameMigrations_abortParticipant hloop).migrations
    exact (hupdated hrow ht (by rw [hsame, hu]; rfl)).imp_right .inr
  | transitionParticipant pid target e v ev payload sha links =>
    obtain ⟨r, hr, ⟨⟩⟩ := bind_eq_ok.mp h
    obtain ⟨row, parent, value, t, -, -, -, -, -, -, -, -, ht, -, hs'⟩ := transitionParticipant_cases hr
    obtain ⟨-, rfl⟩ := updateParticipant_eq_ok.mp ht
    exact .inl (by rw [hs']; rfl)
  | recordApproval receipt =>
    obtain ⟨row, parent, p, i, -, -, -, -, -, -, -, -, -, -, rfl⟩ := recordApproval_cases h
    exact .inl rfl

/-- The row of a recorded receipt. -/
def ApprovalReceipt.row (r : ApprovalReceipt) : ApprovalRow :=
  ⟨r.migrationId, r.participantId, r.ownerUrn, r.toDict, r.approvedAt⟩

/-- The receipts that a call records. -/
def StoreCall.receipts : StoreCall → List ApprovalReceipt
  | .recordApproval receipt => [receipt]
  | _ => []

theorem approvals_updateParticipant {pid : String} {cur tgt : ParticipantStatus} {v : Int}
    {value : Json} (h : s.updateParticipant pid cur tgt v value now = .ok s') :
    s'.approvals = s.approvals := by
  obtain ⟨-, rfl⟩ := updateParticipant_eq_ok.mp h
  rfl

/-- A call adds the receipt that it records to the approvals, and nothing else. -/
theorem StoreCall.approvals_eq (h : c.run py now s = .ok s') :
    s'.approvals = s.approvals ++ c.receipts.map ApprovalReceipt.row := by
  cases c with
  | createMigration i ps =>
    obtain ⟨r, hr, ⟨⟩⟩ := bind_eq_ok.mp h
    obtain ⟨-, -, -, -, t, ht, hs'⟩ := createMigration_cases hr
    have hturn : ∀ {u v : Store} {p : Participant}, u.insertParticipant py p = .ok v →
        v.approvals = u.approvals := by
      intro u v p hinsert
      simp only [insertParticipant, bind_eq_ok] at hinsert
      obtain ⟨_, -, _, -, ⟨⟩⟩ := hinsert
      rfl
    rw [hs', approvals_appendEvent, foldlM_keeps (·.approvals) hturn ht]
    exact (List.append_nil _).symm
  | armPublicationGate m v =>
    obtain ⟨row, -, -, -, -, ⟨-, rfl⟩ | rfl⟩ := armPublicationGate_cases h
    · exact (List.append_nil _).symm
    · exact (List.append_nil _).symm
  | reserveAbortCleanup m e v =>
    obtain ⟨row, -, -, -, -, ⟨-, rfl⟩ | rfl⟩ := reserveAbortCleanup_cases h
    · exact (List.append_nil _).symm
    · exact (List.append_nil _).symm
  | transitionMigration m target e v ev payload receipts =>
    obtain ⟨r, hr, ⟨⟩⟩ := bind_eq_ok.mp h
    obtain ⟨-, -, -, -, row, t, -, -, -, -, ht, hs', -⟩ := transitionMigration_cases hr
    obtain ⟨-, rfl⟩ := updateMigration_eq_ok.mp ht
    rw [hs', approvals_appendEvent]
    exact (List.append_nil _).symm
  | abortMigration m receipt e v =>
    obtain ⟨r, hr, ⟨⟩⟩ := bind_eq_ok.mp h
    obtain ⟨-, -, -, row, t, u, -, -, -, -, ht, hu, hloop, -⟩ := abortMigration_cases hr
    obtain ⟨-, rfl⟩ := updateMigration_eq_ok.mp ht
    have hturn : ∀ {u v : Store} {row : ParticipantRow}, abortParticipant now u row = .ok v →
        v.approvals = u.approvals := by
      intro u v row habort
      rcases abortParticipant_cases habort with ⟨-, rfl⟩ | ⟨-, w, hupdate, rfl⟩
      · rfl
      · rw [approvals_appendEvent, approvals_updateParticipant hupdate]
    rw [foldlM_keeps (·.approvals) hturn hloop, hu, approvals_appendEvent]
    exact (List.append_nil _).symm
  | transitionParticipant pid target e v ev payload sha links =>
    obtain ⟨r, hr, ⟨⟩⟩ := bind_eq_ok.mp h
    obtain ⟨row, parent, value, t, -, -, -, -, -, -, -, -, ht, -, hs'⟩ := transitionParticipant_cases hr
    obtain ⟨-, rfl⟩ := updateParticipant_eq_ok.mp ht
    rw [hs', approvals_appendEvent]
    exact (List.append_nil _).symm
  | recordApproval receipt =>
    obtain ⟨row, parent, p, i, -, -, -, -, -, -, -, -, -, -, rfl⟩ := recordApproval_cases h
    rfl

end Steps

end LineageTX
