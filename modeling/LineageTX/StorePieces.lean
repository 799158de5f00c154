import LineageTX.Outcome

/-! The changes that a successful call is made of: each moves or notes one entity of one
migration and appends the event that says so. -/
namespace LineageTX
open Library Store

/-- What a store holds of one migration. -/
structure Records where
  row : Option MigrationRow
  participants : List ParticipantRow
  approvals : List ApprovalRow
  events : List EventRow
  deriving DecidableEq

def Store.records (s : Store) (mid : String) : Records where
  row := s.migrationRow? mid
  participants := s.participants.filter fun p => p.migrationId = mid
  approvals := s.approvals.filter fun a => a.migrationId = mid
  events := s.events.filter fun e => e.migrationId = mid

/-- The document of a participant row repeats its status and version. -/
structure ParticipantRow.Documented (p : ParticipantRow) : Prop where
  status : p.participantJson.get? "status" = some (.str p.status.value)
  version : p.participantJson.get? "version" = some (.int p.version)

/-- A row as the insert of a new migration makes it. -/
structure ParticipantRow.New (mid : String) (p : ParticipantRow) : Prop where
  migrationId : p.migrationId = mid
  participantId : p.participantId ≠ ""
  status : p.status = .discovered
  version : p.version = 0
  documented : p.Documented

/-- A document that keeps what a transition of its participant does not set. -/
def KeepsFields (value value' : Json) : Prop :=
  ∀ key, key ≠ "candidate_commit_sha" → key ≠ "evidence_links" → value'.get? key = value.get? key

inductive Piece (now mid : String) (s : Store) : Store → Prop
  | create (row : MigrationRow) (news : List ParticipantRow) (payload : List (String × Json))
      (at' : String) (hfree : s.migrationRow? mid = none)
      (hrow : row.migrationId = mid ∧ row.status = .detected ∧ row.version = 0)
      (hnews : ∀ p ∈ news, p.New mid)
      (hids : ((s.participants ++ news).map (·.participantId)).Nodup) :
      Piece now mid s (({ s with migrations := s.migrations ++ [row]
                                 participants := s.participants ++ news } : Store).appendEvent mid ""
        "MIGRATION_DETECTED" none (.migration .detected) 0 payload at')
  | noteMigration (row : MigrationRow) (ev : String) (payload : List (String × Json)) (at' : String)
      (hrow : s.migrationRow? mid = some row) :
      Piece now mid s (s.appendEvent mid "" ev (some (.migration row.status))
        (.migration row.status) row.version payload at')
  | noteParticipant (row : ParticipantRow) (approval : ApprovalRow) (ev : String)
      (payload : List (String × Json)) (at' : String) (hrow : row ∈ s.participants)
      (hmid : row.migrationId = mid) (happ : approval.migrationId = mid) :
      Piece now mid s (({ s with approvals := s.approvals ++ [approval] } : Store).appendEvent mid
        row.participantId ev (some (.participant row.status)) (.participant row.status) row.version
        payload at')
  | moveMigration (row : MigrationRow) (target : MigrationStatus) (t : Store) (ev : String)
      (payload : List (String × Json)) (hrow : s.migrationRow? mid = some row)
      (hcan : canTransition row.status target = true)
      (ht : s.updateMigration mid row.status target row.version now = .ok t) :
      Piece now mid s (t.appendEvent mid "" ev (some (.migration row.status)) (.migration target)
        (row.version + 1) payload now)
  | moveParticipant (row : ParticipantRow) (target : ParticipantStatus) (t : Store) (doc : Json)
      (ev : String) (payload : List (String × Json)) (hrow : row ∈ s.participants)
      (hmid : row.migrationId = mid) (hcan : canTransitionParticipant row.status target = true)
      (hdoc : KeepsFields row.participantJson doc)
      (ht : s.updateParticipant row.participantId row.status target row.version
        (movedDocument doc target (row.version + 1) now) now = .ok t) :
      Piece now mid s (t.appendEvent mid row.participantId ev (some (.participant row.status))
        (.participant target) (row.version + 1) payload now)

/-- A call done: pieces of one migration, one after the other. -/
inductive Pieces (now mid : String) : Store → Store → Prop
  | nil (s : Store) : Pieces now mid s s
  | cons {s t s' : Store} (h : Piece now mid s t) (rest : Pieces now mid t s') : Pieces now mid s s'

section Calls
variable {py : Python} {now mid : String} {s s' : Store} {c : StoreCall}

theorem Pieces.single (h : Piece now mid s s') : Pieces now mid s s' := .cons h (.nil s')

theorem keepsFields_refl (value : Json) : KeepsFields value value := fun _ _ _ => rfl

theorem keepsFields_set {value value' v : Json} {key : String}
    (hkey : key = "candidate_commit_sha" ∨ key = "evidence_links") (h : KeepsFields value value') :
    KeepsFields value (value'.set key v) := by
  intro other hsha hlinks
  have hne : other ≠ key := by
    rcases hkey with rfl | rfl
    · exact hsha
    · exact hlinks
  rw [Json.get?_set_of_ne hne]
  exact h other hsha hlinks

theorem keepsFields_transition {sha : Option String} {links : Option (List String)}
    {value value' : Json} (h : setCandidateSha sha value = .ok value') :
    KeepsFields value (setEvidenceLinks links value') := by
  have hsha : KeepsFields value value' := by
    cases sha with
    | none =>
      obtain ⟨⟩ := h
      exact keepsFields_refl _
    | some sha =>
      simp only [setCandidateSha, bind_eq_ok] at h
      obtain ⟨_, -, ⟨⟩⟩ := h
      exact keepsFields_set (.inl rfl) (keepsFields_refl _)
  cases links with
  | none => exact hsha
  | some links => exact keepsFields_set (.inr rfl) hsha

/-- A new row is documented and named. -/
theorem insertParticipant_new {p : Participant} (h : s.insertParticipant py p = .ok s') :
    ∃ row, s' = { s with participants := s.participants ++ [row] } ∧ row.New p.migrationId ∧
      row.participantId = p.participantId ∧
      ∀ r ∈ s.participants, r.participantId ≠ row.participantId := by
  simp only [insertParticipant, bind_eq_ok, require_eq_ok] at h
  obtain ⟨q, hq, _, hfree, ⟨⟩⟩ := h
  have hread := Participant.readFrom hq
  obtain ⟨j, hj, hid⟩ := hread.participantId
  obtain ⟨j', hj', hmid⟩ := hread.migrationId
  have hst := hread.status
  have hver := hread.version
  simp only [Participant.toDict, Json.set_obj, Json.get?_obj, getD, Json.lookup_assign,
    Json.lookup_cons_if] at hj hj' hst hver
  simp only [String.reduceEq, if_true, if_false, Option.getD_some, Option.some.injEq,
    ParticipantStatus.parse_value, Python.str_str, Except.ok.injEq, Python.int] at hj hj' hst hver
  have hname : q.participantId ≠ "" := by
    simp only [Participant.fromDict, bind_eq_ok] at hq
    obtain ⟨_, -, _, -, _, -, _, -, _, -, _, -, _, -, _, -, _, -, _, -, _, -, _, -, hq⟩ := hq
    have heq := Participant.postInit_eq_ok hq
    simp only [Participant.postInit, bind_eq_ok, require_eq_ok] at hq
    obtain ⟨_, hident, -⟩ := hq
    intro hnil
    rw [heq] at hnil
    simp only at hnil
    rw [hnil] at hident
    exact absurd hident (by decide)
  refine ⟨_, rfl, ⟨?_, hname, hst.symm, rfl, ⟨?_, ?_⟩⟩, ?_, by simpa using hfree⟩
  · rw [hmid, ← hj', Python.str_str]
  · simp [Participant.toDict, Json.lookup_cons_if, ← hst]
  · simp [Participant.toDict, Json.lookup_cons_if, ← hver]
  · rw [hid, ← hj, Python.str_str]

/-- The inserts of a new migration. -/
theorem insertLoop_new {ps : List Participant} (hp : ∀ p ∈ ps, p.migrationId = mid)
    (hn : (s.participants.map (·.participantId)).Nodup)
    (h : ps.foldlM (insertParticipant py) s = .ok s') :
    ∃ news, s' = { s with participants := s.participants ++ news } ∧ (∀ p ∈ news, p.New mid) ∧
      ((s.participants ++ news).map (·.participantId)).Nodup := by
  induction ps generalizing s with
  | nil =>
    obtain ⟨⟩ := h
    exact ⟨[], by simp, by simp, by simpa using hn⟩
  | cons p ps ih =>
    obtain ⟨t, ht, h⟩ := bind_eq_ok.mp (by simpa using h)
    obtain ⟨row, rfl, hnew, -, hfree⟩ := insertParticipant_new ht
    have hn' : ((s.participants ++ [row]).map (·.participantId)).Nodup := by
      rw [List.map_append, List.nodup_append]
      refine ⟨hn, by simp, fun a ha b hb hab => ?_⟩
      obtain ⟨r, hr, rfl⟩ := List.mem_map.mp ha
      obtain rfl : b = row.participantId := by simpa using hb
      exact hfree r hr hab
    obtain ⟨news, hnews, hall, hnodup⟩ := ih (fun q hq => hp q (by simp [hq])) hn' h
    refine ⟨row :: news, by simpa using hnews, ?_, by simpa using hnodup⟩
    rw [hp p (by simp)] at hnew
    intro q hq
    rcases List.mem_cons.mp hq with rfl | hq
    · exact hnew
    · exact hall q hq

/-- The identifier and the migration of every row, in order. -/
def Store.owners (s : Store) : List (String × String) :=
  s.participants.map fun p => (p.participantId, p.migrationId)

theorem owners_updateParticipant {pid : String} {cur tgt : ParticipantStatus} {v : Int} {value : Json}
    (h : s.updateParticipant pid cur tgt v value now = .ok s') : s'.owners = s.owners := by
  obtain ⟨-, rfl⟩ := updateParticipant_eq_ok.mp h
  simp only [Store.owners, List.map_map]
  refine List.map_congr_left fun p _ => ?_
  simp only [Function.comp_apply]
  cases hitsParticipant pid cur v p <;> rfl

/-- The row that a guarded update hits. -/
theorem exists_hit {pid : String} {cur tgt : ParticipantStatus} {v : Int} {value : Json}
    (h : s.updateParticipant pid cur tgt v value now = .ok s') :
    ∃ p ∈ s.participants, p.participantId = pid ∧ p.status = cur ∧ p.version = v := by
  obtain ⟨hcount, -⟩ := updateParticipant_eq_ok.mp h
  obtain ⟨p, hp, hhit⟩ := List.countP_pos_iff.mp (by omega : 0 < s.participants.countP
    (hitsParticipant pid cur v))
  simp only [hitsParticipant, Bool.and_eq_true, decide_eq_true_eq] at hhit
  exact ⟨p, hp, hhit.1.1, hhit.1.2, hhit.2⟩

theorem Store.Keyed.migrationId_of_owner (hs : s.Keyed) {p : ParticipantRow} {pid m : String}
    (hp : p ∈ s.participants) (hid : p.participantId = pid) (hm : (pid, m) ∈ s.owners) :
    p.migrationId = m := by
  obtain ⟨q, hq, he⟩ := List.mem_map.mp hm
  simp only [Prod.mk.injEq] at he
  rw [hs.eq_of_id hp hq (hid.trans he.1.symm), he.2]

/-- The participant loop of an abort is a sequence of moves. -/
theorem abortLoop_pieces (hs : s.Keyed) : ∀ (todo : List ParticipantRow) {t : Store},
    (∀ r ∈ todo, r ∈ s.participants ∧ r.migrationId = mid) → t.owners = s.owners →
    (∀ r ∈ todo, r ∈ t.participants) → (todo.map (·.participantId)).Nodup →
    todo.foldlM (abortParticipant now) t = .ok s' → Pieces now mid t s'
  | [], t, _, _, _, _, h => by
    obtain ⟨⟩ := h
    exact .nil s'
  | row :: todo, t, hmem, howners, hin, hnodup, h => by
    obtain ⟨u, hu, hloop⟩ := bind_eq_ok.mp (by simpa using h)
    rw [List.map_cons, List.nodup_cons] at hnodup
    obtain ⟨hnot, hnodup'⟩ := hnodup
    have hmem' := fun r hr => hmem r (List.mem_cons_of_mem row hr)
    rcases abortParticipant_cases hu with ⟨-, rfl⟩ | ⟨hopen, v, hv, rfl⟩
    · exact abortLoop_pieces hs todo hmem' howners (fun r hr => hin r (by simp [hr])) hnodup' hloop
    · obtain ⟨-, hmid⟩ := hmem row (by simp)
      refine .cons (.moveParticipant row .aborted v row.participantJson
        "PARTICIPANT_ABORTED_WITH_MIGRATION"
        [("cleanup_scope", .str "unmerged_candidate_changes_only")] (hin row (by simp)) hmid
        hopen.canTransition (keepsFields_refl _) hv) ?_
      rw [hmid] at hloop
      refine abortLoop_pieces hs todo hmem' ((owners_updateParticipant hv).trans howners) ?_ hnodup' hloop
      intro r hr
      obtain ⟨-, rfl⟩ := updateParticipant_eq_ok.mp hv
      refine List.mem_map.mpr ⟨r, hin r (by simp [hr]), ?_⟩
      have hne : r.participantId ≠ row.participantId := by
        intro he
        exact hnot (he ▸ List.mem_map_of_mem hr)
      simp [hitsParticipant, hne]

/-- The migration that a call is about, in the state that it finds. -/
def StoreCall.migration (s : Store) : StoreCall → String
  | .createMigration i _ => i.migrationId
  | .armPublicationGate m _ => m
  | .reserveAbortCleanup m _ _ => m
  | .transitionMigration m _ _ _ _ _ _ => m
  | .abortMigration m _ _ _ => m
  | .transitionParticipant pid _ _ _ _ _ _ _ =>
    ((s.participants.find? fun r => r.participantId == pid).map (·.migrationId)).getD ""
  | .recordApproval r => r.migrationId

/-- A call other than an abort is one piece, or changes nothing. -/
theorem StoreCall.piece (h : c.run py now s = .ok s') (hn : (s.participants.map (·.participantId)).Nodup)
    (hc : ∀ m receipt e v, c ≠ .abortMigration m receipt e v) :
    s' = s ∨ Piece now (c.migration s) s s' := by
  cases c with
  | createMigration i ps =>
    obtain ⟨r, hr, ⟨⟩⟩ := bind_eq_ok.mp h
    obtain ⟨hmid, -, hfree, -, t, ht, hs'⟩ := createMigration_cases hr
    obtain ⟨news, rfl, hnews, hids⟩ := insertLoop_new hmid (by exact hn) ht
    rw [hs']
    exact .inr (.create ⟨i.migrationId, i.toDict, .detected, 0, i.createdAt, i.createdAt⟩ news _ _
      hfree ⟨rfl, rfl, rfl⟩ hnews hids)
  | armPublicationGate m v =>
    obtain ⟨row, hrow, hst, hv, -, ⟨-, rfl⟩ | rfl⟩ := armPublicationGate_cases h
    · exact .inl rfl
    · rw [← hst, ← hv]
      exact .inr (.noteMigration row _ _ _ hrow)
  | reserveAbortCleanup m e v =>
    obtain ⟨row, hrow, hst, hv, -, ⟨-, rfl⟩ | rfl⟩ := reserveAbortCleanup_cases h
    · exact .inl rfl
    · rw [← hst, ← hv]
      exact .inr (.noteMigration row _ _ _ hrow)
  | transitionMigration m target e v ev payload receipts =>
    obtain ⟨r, hr, ⟨⟩⟩ := bind_eq_ok.mp h
    obtain ⟨-, -, -, -, row, t, hrow, rfl, rfl, hcan, ht, hs', -⟩ := transitionMigration_cases hr
    rw [hs']
    exact .inr (.moveMigration row target t ev _ hrow hcan ht)
  | abortMigration m receipt e v => exact absurd rfl (hc m receipt e v)
  | transitionParticipant pid target e v ev payload sha links =>
    obtain ⟨r, hr, ⟨⟩⟩ := bind_eq_ok.mp h
    obtain ⟨row, parent, value, t, hrow, -, -, rfl, rfl, hcan, hvalue, -, ht, -, hs'⟩ :=
      transitionParticipant_cases hr
    have hid : row.participantId = pid := by simpa using List.find?_some hrow
    rw [hs', StoreCall.migration, hrow]
    subst hid
    exact .inr (.moveParticipant row target t _ ev _ (List.mem_of_find?_eq_some hrow) rfl hcan
      (keepsFields_transition hvalue) ht)
  | recordApproval receipt =>
    obtain ⟨row, parent, p, i, hrow, hmid, -, -, hst, -, -, -, -, -, rfl⟩ := recordApproval_cases h
    have hid : row.participantId = receipt.participantId := by simpa using List.find?_some hrow
    rw [← hid, ← hst]
    exact .inr (.noteParticipant row _ _ _ _ (List.mem_of_find?_eq_some hrow) hmid rfl)

/-- A call is done piece by piece. -/
theorem StoreCall.pieces (hs : s.Keyed) (h : c.run py now s = .ok s') :
    Pieces now (c.migration s) s s' := by
  by_cases hc : ∃ m receipt e v, c = .abortMigration m receipt e v
  · obtain ⟨m, receipt, e, v, rfl⟩ := hc
    obtain ⟨r, hr, ⟨⟩⟩ := bind_eq_ok.mp h
    obtain ⟨-, -, -, row, t, u, hrow, rfl, rfl, hcan, ht, rfl, hloop, -⟩ := abortMigration_cases hr
    have hps : t.participants = s.participants := by
      obtain ⟨-, rfl⟩ := updateMigration_eq_ok.mp ht
      rfl
    refine .cons (.moveMigration row .aborted t "MIGRATION_ABORTED" [("cleanup", receipt.toDict)]
      hrow hcan ht) ?_
    refine abortLoop_pieces hs _ (fun r hr => ?_) ?_ (fun r hr => ?_) ?_ hloop
    · simpa [participantRows, hps, StoreCall.migration] using hr
    · simp [Store.owners, hps]
    · rw [participants_appendEvent]
      exact (by simpa [participantRows] using hr : r ∈ t.participants ∧ _).1
    · refine (((sortBy_perm _ _).map _).nodup_iff).mpr ?_
      rw [participants_appendEvent, hps]
      exact hs.unique.sublist (List.filter_sublist.map _)
  · rcases StoreCall.piece h hs.unique fun m receipt e v he => hc ⟨m, receipt, e, v, he⟩ with
      rfl | hpiece
    · exact .nil _
    · exact .single hpiece

theorem Store.Keyed.of_owners (hs : s.Keyed) (howners : s'.owners = s.owners)
    (hstatus : ∀ m, s.status? m ≠ none → s'.status? m ≠ none) : s'.Keyed := by
  have hids : ∀ t : Store, t.participants.map (·.participantId) = t.owners.map Prod.fst := by
    intro t
    simp [Store.owners, Function.comp_def]
  refine ⟨by rw [hids, howners, ← hids]; exact hs.unique, fun p hp => ?_⟩
  have hmem : (p.participantId, p.migrationId) ∈ s.owners := by
    rw [← howners]
    exact List.mem_map_of_mem hp
  obtain ⟨q, hq, he⟩ := List.mem_map.mp hmem
  simp only [Prod.mk.injEq] at he
  rw [← he.2]
  exact hstatus _ (hs.parents q hq)

/-- One piece keeps identifiers unique and every participant in a known migration. -/
theorem Piece.keyed (hs : s.Keyed) (h : Piece now mid s s') : s'.Keyed := by
  cases h with
  | create row news payload at' hfree hrow hnews hids =>
    have hknown : ∀ m r, s.migrationRow? m = some r →
        (s.migrations ++ [row]).find? (fun r => r.migrationId == m) = some r := by
      intro m r hr
      rw [List.find?_append]
      exact congrArg (Option.or · _) hr
    refine ⟨hids, fun p hp => ?_⟩
    rw [status?_appendEvent]
    rcases List.mem_append.mp hp with hold | hnew
    · cases hr : s.migrationRow? p.migrationId with
      | none => exact absurd (by simp [Store.status?, hr]) (hs.parents p hold)
      | some r => simp [Store.status?, Store.migrationRow?, hknown _ r hr]
    · rw [(hnews p hnew).migrationId, ← hrow.1]
      simp [Store.status?, Store.migrationRow?]
  | noteMigration => exact hs.of_owners rfl fun _ h => h
  | noteParticipant => exact hs.of_owners rfl fun _ h => h
  | moveMigration row target t ev payload hrow hcan ht =>
    refine hs.of_owners ?_ fun m hm => ?_
    · obtain ⟨-, rfl⟩ := updateMigration_eq_ok.mp ht
      rfl
    · rw [status?_appendEvent, status?_updateMigration hrow ht]
      split
      · simp
      · exact hm
  | moveParticipant row target t doc ev payload hrow hmid hcan hdoc ht =>
    have howners : t.owners = s.owners := owners_updateParticipant ht
    refine hs.of_owners howners fun m hm => ?_
    obtain ⟨-, rfl⟩ := updateParticipant_eq_ok.mp ht
    exact hm

/-- What a piece-wise invariant needs to hold after a call. -/
theorem Pieces.induct {P : Store → Prop} (hpiece : ∀ {s s' : Store}, s.Keyed → P s →
    Piece now mid s s' → P s') (h : Pieces now mid s s') (hs : s.Keyed) (hP : P s) : P s' := by
  induction h with
  | nil => exact hP
  | cons h _ ih => exact ih (h.keyed hs) (hpiece hs hP h)

/-- A piece leaves what the store holds of other migrations. -/
theorem Piece.records_other (hs : s.Keyed) (h : Piece now mid s s') {other : String}
    (hne : mid ≠ other) : s'.records other = s.records other := by
  cases h with
  | create row news payload at' hfree hrow hnews hids =>
    have hnone : news.filter (fun p => p.migrationId = other) = [] := by
      refine List.filter_eq_nil_iff.mpr fun p hp => ?_
      simp [(hnews p hp).migrationId, hne]
    simp [Store.records, Store.appendEvent, Store.migrationRow?, hne, hrow.1, hnone]
  | noteMigration => simp [Store.records, Store.appendEvent, Store.migrationRow?, hne]
  | noteParticipant row approval ev payload at' hrow hmid happ =>
    simp [Store.records, Store.appendEvent, Store.migrationRow?, hne, happ]
  | moveMigration row target t ev payload hrow hcan ht =>
    have hrow' := migrationRow?_updateMigration hrow ht other
    rw [if_neg (Ne.symm hne)] at hrow'
    obtain ⟨-, rfl⟩ := updateMigration_eq_ok.mp ht
    simp only [Store.records, migrationRow?_appendEvent, hrow']
    simp [Store.appendEvent, hne]
  | moveParticipant row target t doc ev payload hrow hmid hcan hdoc ht =>
    obtain ⟨-, rfl⟩ := updateParticipant_eq_ok.mp ht
    have hfilter := @filter_of_updates (fun p _ => p.migrationId = mid) other (fun p _ hp => hp ▸ hne)
      s.participants (s.participants.map fun r =>
        bif hitsParticipant row.participantId row.status row.version r then
          { r with participantJson := movedDocument doc target (row.version + 1) now
                   status := target, version := row.version + 1, updatedAt := now }
        else r)
      (List.forall₂_map_right_iff.mpr (List.forall₂_same.mpr fun p hp => ?_))
    · simp only [Store.records, participants_appendEvent, hfilter]
      simp [Store.appendEvent, Store.migrationRow?, hne]
    · cases hhit : hitsParticipant row.participantId row.status row.version p with
      | false => exact ⟨rfl, rfl, .inl rfl⟩
      | true =>
        simp only [hitsParticipant, Bool.and_eq_true, decide_eq_true_eq] at hhit
        rw [hs.eq_of_id hp hrow hhit.1.1] at *
        exact ⟨rfl, rfl, .inr hmid⟩

theorem Pieces.records_other (hs : s.Keyed) (h : Pieces now mid s s') {other : String}
    (hne : mid ≠ other) : s'.records other = s.records other :=
  h.induct (P := fun t => t.records other = s.records other)
    (fun hk hP hpiece => (hpiece.records_other hk hne).trans hP) hs rfl

end Calls
end LineageTX
