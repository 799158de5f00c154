import LineageTX.State

/-! What each store call did when it succeeded. The later arguments use these
lemmas and do not unfold the calls. -/
namespace LineageTX

/-- The loop of an abort leaves the row as it is. -/
def ParticipantRow.Settled (row : ParticipantRow) : Prop :=
  row.status = .committed ∨ row.status = .aborted

/-- The loop of an abort moves the row. -/
def ParticipantRow.Unsettled (row : ParticipantRow) : Prop := ¬row.Settled

theorem ParticipantRow.Unsettled.canTransition {row : ParticipantRow} (h : row.Unsettled) :
    canTransitionParticipant row.status .aborted = true := by
  cases hst : row.status with
  | committed => exact absurd (.inl hst) h
  | aborted => exact absurd (.inr hst) h
  | _ => rfl

namespace Store
open Library
variable {py : Python} {s s' : Store} {mid now : String}

/-- The status of a migration, none for an unknown identifier. -/
def status? (s : Store) (mid : String) : Option MigrationStatus :=
  (s.migrationRow? mid).map MigrationRow.status

theorem selectMigration_eq_ok {row : MigrationRow} :
    s.selectMigration mid = .ok row ↔ s.migrationRow? mid = some row := by
  unfold selectMigration
  split <;> simp_all [raise]

theorem selectParticipant_eq_ok {pid : String} {row : ParticipantRow} :
    s.selectParticipant pid = .ok row ↔
      (s.participants.find? fun r => r.participantId == pid) = some row := by
  unfold selectParticipant
  split <;> rename_i h <;> simp [h, raise]

theorem mem_participantRows {p : ParticipantRow} :
    p ∈ s.participantRows mid ↔ p ∈ s.participants ∧ p.migrationId = mid := by
  simp [participantRows]

theorem requireMigration_eq_ok {row : MigrationRow} {e : MigrationStatus} {v : Int} {u : Unit} :
    requireMigration mid row e v = .ok u ↔ row.status = e ∧ row.version = v := by
  simp [requireMigration]

theorem status?_of_row {row : MigrationRow} (h : s.migrationRow? mid = some row) :
    s.status? mid = some row.status := by
  simp [status?, h]

section Frame
variable (s) (mid' pid t t' : String) (f : Option EventStatus) (e : EventStatus) (v : Int)
  (p : List (String × Json)) (at' : String)

@[simp] theorem migrations_appendEvent :
    (s.appendEvent mid pid t f e v p at').migrations = s.migrations := rfl

@[simp] theorem participants_appendEvent :
    (s.appendEvent mid pid t f e v p at').participants = s.participants := rfl

@[simp] theorem approvals_appendEvent :
    (s.appendEvent mid pid t f e v p at').approvals = s.approvals := rfl

@[simp] theorem migrationRow?_appendEvent :
    (s.appendEvent mid pid t f e v p at').migrationRow? mid' = s.migrationRow? mid' := rfl

@[simp] theorem status?_appendEvent :
    (s.appendEvent mid pid t f e v p at').status? mid' = s.status? mid' := rfl

@[simp] theorem hasMigrationEvent_appendEvent :
    (s.appendEvent mid pid t f e v p at').hasMigrationEvent mid' t' =
      (s.hasMigrationEvent mid' t' || (mid == mid' && t == t')) := by
  simp [hasMigrationEvent, appendEvent]

end Frame

theorem updateMigration_eq_ok {cur tgt : MigrationStatus} {v : Int} :
    s.updateMigration mid cur tgt v now = .ok s' ↔
      s.migrations.countP (hitsMigration mid cur v) = 1 ∧
      s' = { s with migrations := s.migrations.map fun r =>
        bif hitsMigration mid cur v r then
          { r with status := tgt, version := v + 1, updatedAt := now }
        else r } := by
  simp only [updateMigration, bind_eq_ok, require_eq_ok, beq_iff_eq]
  constructor
  · rintro ⟨_, hc, ⟨⟩⟩
    exact ⟨hc, rfl⟩
  · rintro ⟨hc, rfl⟩
    exact ⟨(), hc, rfl⟩

theorem updateParticipant_eq_ok {pid : String} {cur tgt : ParticipantStatus} {v : Int}
    {value : Json} :
    s.updateParticipant pid cur tgt v value now = .ok s' ↔
      s.participants.countP (hitsParticipant pid cur v) = 1 ∧
      s' = { s with participants := s.participants.map fun r =>
        bif hitsParticipant pid cur v r then
          { r with participantJson := value, status := tgt, version := v + 1, updatedAt := now }
        else r } := by
  simp only [updateParticipant, bind_eq_ok, require_eq_ok, beq_iff_eq]
  constructor
  · rintro ⟨_, hc, ⟨⟩⟩
    exact ⟨hc, rfl⟩
  · rintro ⟨hc, rfl⟩
    exact ⟨(), hc, rfl⟩

theorem migrationRow?_updateMigration {row : MigrationRow} {tgt : MigrationStatus}
    (hr : s.migrationRow? mid = some row)
    (h : s.updateMigration mid row.status tgt row.version now = .ok s') (mid' : String) :
    s'.migrationRow? mid' = if mid' = mid then
      some { row with status := tgt, version := row.version + 1, updatedAt := now }
    else s.migrationRow? mid' := by
  obtain ⟨-, rfl⟩ := updateMigration_eq_ok.mp h
  have hid : row.migrationId = mid := by simpa using List.find?_some hr
  have hfind : ∀ g : MigrationRow → MigrationRow, (∀ r, (g r).migrationId = r.migrationId) →
      (s.migrations.map g).find? (fun r => r.migrationId == mid') =
        (s.migrationRow? mid').map g := by
    intro g hg
    simp [migrationRow?, List.find?_map, Function.comp_def, hg]
  refine (hfind _ fun r => by cases hitsMigration mid row.status row.version r <;> rfl).trans ?_
  by_cases hm : mid' = mid
  · subst hm
    simp [hr, hitsMigration, hid]
  · cases hr' : s.migrationRow? mid' with
    | none => simp [hm]
    | some row' =>
      have hid' : row'.migrationId = mid' := by simpa using List.find?_some hr'
      simp [hm, hitsMigration, hid']

theorem status?_updateMigration {row : MigrationRow} {tgt : MigrationStatus}
    (hr : s.migrationRow? mid = some row)
    (h : s.updateMigration mid row.status tgt row.version now = .ok s') (mid' : String) :
    s'.status? mid' = if mid' = mid then some tgt else s.status? mid' := by
  simp only [status?, migrationRow?_updateMigration hr h]
  split <;> rfl

theorem hasMigrationEvent_updateMigration {cur tgt : MigrationStatus} {v : Int}
    (h : s.updateMigration mid cur tgt v now = .ok s') (mid' t : String) :
    s'.hasMigrationEvent mid' t = s.hasMigrationEvent mid' t := by
  obtain ⟨-, rfl⟩ := updateMigration_eq_ok.mp h
  rfl

/-- The parts of a store that participant updates leave alone. -/
structure SameMigrations (s s' : Store) : Prop where
  migrations : s'.migrations = s.migrations
  events : ∀ mid t, t ≠ "PARTICIPANT_ABORTED_WITH_MIGRATION" →
    s'.hasMigrationEvent mid t = s.hasMigrationEvent mid t

theorem SameMigrations.status? (h : SameMigrations s s') (mid : String) :
    s'.status? mid = s.status? mid := by
  simp only [Store.status?, migrationRow?, h.migrations]

theorem SameMigrations.trans {s'' : Store} (h : SameMigrations s s') (h' : SameMigrations s' s'') :
    SameMigrations s s'' where
  migrations := h'.migrations.trans h.migrations
  events mid t ht := (h'.events mid t ht).trans (h.events mid t ht)

theorem sameMigrations_insertParticipant {p : Participant}
    (h : s.insertParticipant py p = .ok s') : SameMigrations s s' := by
  simp only [insertParticipant, bind_eq_ok] at h
  obtain ⟨_, -, _, -, ⟨⟩⟩ := h
  exact ⟨rfl, fun _ _ _ => rfl⟩

/-- What one turn of the loop of an abort does. -/
theorem abortParticipant_cases {row : ParticipantRow} (h : abortParticipant now s row = .ok s') :
    row.Settled ∧ s' = s ∨ row.Unsettled ∧ ∃ t,
      s.updateParticipant row.participantId row.status .aborted row.version
        (movedDocument row.participantJson .aborted (row.version + 1) now) now = .ok t ∧
      s' = t.appendEvent row.migrationId row.participantId "PARTICIPANT_ABORTED_WITH_MIGRATION"
        (some (.participant row.status)) (.participant .aborted) (row.version + 1)
        [("cleanup_scope", .str "unmerged_candidate_changes_only")] now := by
  unfold abortParticipant at h
  split at h
  · next hsettled =>
    obtain ⟨⟩ := h
    exact .inl ⟨hsettled, rfl⟩
  · next hopen =>
    obtain ⟨t, ht, ⟨⟩⟩ := bind_eq_ok.mp h
    exact .inr ⟨hopen, t, ht, rfl⟩

theorem sameMigrations_abortParticipant {row : ParticipantRow}
    (h : abortParticipant now s row = .ok s') : SameMigrations s s' := by
  rcases abortParticipant_cases h with ⟨-, rfl⟩ | ⟨-, t, ht, rfl⟩
  · exact ⟨rfl, fun _ _ _ => rfl⟩
  · obtain ⟨-, rfl⟩ := updateParticipant_eq_ok.mp ht
    refine ⟨rfl, fun mid t hne => ?_⟩
    rw [hasMigrationEvent_appendEvent]
    simp [hasMigrationEvent, hne.symm]

/-- What each turn of a loop keeps, the loop keeps. -/
theorem foldlM_keeps {α β : Type} (part : Store → β) {f : Store → α → Result Store}
    (hf : ∀ {s s' : Store} {a : α}, f s a = .ok s' → part s' = part s) {l : List α}
    (h : l.foldlM f s = .ok s') : part s' = part s := by
  induction l generalizing s with
  | nil =>
    obtain ⟨⟩ := h
    rfl
  | cons a l ih =>
    obtain ⟨t, ht, h⟩ := bind_eq_ok.mp (by simpa using h)
    exact (ih h).trans (hf ht)

/-- A loop each of whose turns leaves the migrations alone leaves them alone. -/
theorem sameMigrations_foldlM {α : Type} {f : Store → α → Result Store}
    (hf : ∀ {s s' : Store} {a : α}, f s a = .ok s' → SameMigrations s s') {l : List α}
    (h : l.foldlM f s = .ok s') : SameMigrations s s' where
  migrations := foldlM_keeps (·.migrations) (fun ht => (hf ht).migrations) h
  events mid ev hev := foldlM_keeps (·.hasMigrationEvent mid ev)
    (fun ht => (hf ht).events mid ev hev) h

theorem createMigration_cases {intent : ChangeIntent} {ps : List Participant}
    {r : MigrationRecord × Store} (h : s.createMigration py intent ps = .ok r) :
    (∀ p ∈ ps, p.migrationId = intent.migrationId) ∧
    (ps.map Participant.participantId).Nodup ∧
    s.migrationRow? intent.migrationId = none ∧
    r.1 = { intent, status := .detected, version := 0, createdAt := intent.createdAt
            updatedAt := intent.createdAt } ∧
    ∃ t, ps.foldlM (insertParticipant py) { s with migrations := s.migrations ++ [{
        migrationId := intent.migrationId, intentJson := intent.toDict, status := .detected
        version := 0, createdAt := intent.createdAt, updatedAt := intent.createdAt }] } = .ok t ∧
      r.2 = t.appendEvent intent.migrationId "" "MIGRATION_DETECTED" none (.migration .detected) 0
        [("participant_ids", .arr ((ps.map Participant.participantId).map .str))]
        intent.createdAt := by
  simp only [createMigration, bind_eq_ok, require_eq_ok] at h
  obtain ⟨_, hp, _, hn, _, hm, t, ht, ⟨⟩⟩ := h
  exact ⟨by simpa using hp, by simpa using hn, by simpa using hm, rfl, t, ht, rfl⟩

theorem armPublicationGate_cases {v : Int} (h : s.armPublicationGate now mid v = .ok s') :
    ∃ row, s.migrationRow? mid = some row ∧ row.status = .prepared ∧ row.version = v ∧
      s.hasMigrationEvent mid abortReservedEvent = false ∧
      ((s.hasMigrationEvent mid gateArmedEvent = true ∧ s' = s) ∨
        s' = s.appendEvent mid "" gateArmedEvent (some (.migration .prepared))
          (.migration .prepared) v [("candidate_cleanup_permitted", .bool false),
            ("recovery", .str "reconcile_publication")] now) := by
  simp only [armPublicationGate, bind_eq_ok, require_eq_ok, selectMigration_eq_ok,
    requireMigration_eq_ok] at h
  obtain ⟨row, hr, _, ⟨hst, hv⟩, _, hres, h⟩ := h
  refine ⟨row, hr, hst, hv, by simpa using hres, ?_⟩
  split at h
  · next harm =>
    obtain ⟨⟩ := h
    exact .inl ⟨harm, rfl⟩
  · obtain ⟨⟩ := h
    exact .inr (by rw [hst, hv])

theorem reserveAbortCleanup_cases {e : MigrationStatus} {v : Int}
    (h : s.reserveAbortCleanup now mid e v = .ok s') :
    ∃ row, s.migrationRow? mid = some row ∧ row.status = e ∧ row.version = v ∧
      s.hasMigrationEvent mid gateArmedEvent = false ∧
      ((s.hasMigrationEvent mid abortReservedEvent = true ∧ s' = s) ∨
        s' = s.appendEvent mid "" abortReservedEvent (some (.migration e)) (.migration e) v
          [("scope", .str "unmerged_candidate_changes_only")] now) := by
  simp only [reserveAbortCleanup, bind_eq_ok, require_eq_ok, selectMigration_eq_ok,
    requireMigration_eq_ok] at h
  obtain ⟨row, hr, _, ⟨hst, hv⟩, _, harm, h⟩ := h
  refine ⟨row, hr, hst, hv, by simpa using harm, ?_⟩
  split at h
  · next hres =>
    obtain ⟨⟩ := h
    exact .inl ⟨hres, rfl⟩
  · obtain ⟨⟩ := h
    exact .inr (by rw [hst, hv])

theorem transitionMigration_cases {target e : MigrationStatus} {v : Int} {ev : String}
    {payload : List (String × Json)} {receipts : List CoordinationReceipt}
    {r : MigrationRecord × Store}
    (h : s.transitionMigration py now mid target e v ev payload receipts = .ok r) :
    target ≠ .aborted ∧
    (target = .committed → receiptGuard receipts = .ok ()) ∧
    (target = .prepared → s.preparationGuard py mid = .ok ()) ∧
    (target = .committed → s.commitGuard py mid receipts = .ok ()) ∧
    ∃ row t, s.migrationRow? mid = some row ∧ row.status = e ∧ row.version = v ∧
      canTransition e target = true ∧
      s.updateMigration mid row.status target row.version now = .ok t ∧
      r.2 = t.appendEvent mid "" ev (some (.migration e)) (.migration target) (v + 1)
        (eventPayload payload receipts) now ∧
      ChangeIntent.fromDict py row.intentJson = .ok r.1.intent ∧
      r.1.status = target ∧ r.1.version = v + 1 := by
  simp only [transitionMigration, bind_eq_ok, require_eq_ok, onlyIf_eq_ok, selectMigration_eq_ok,
    requireMigration_eq_ok] at h
  obtain ⟨_, hab, _, -, _, hrec, row, hr, _, ⟨hst, hv⟩, _, hcan, _, hprep, _, hcom, t, ht, i, hi,
    ⟨⟩⟩ := h
  refine ⟨by simpa using hab, hrec, hprep, hcom, row, t, hr, hst, hv, ?_, ht, ?_, hi, rfl, ?_⟩
  · rw [← hst]; exact hcan
  · rw [hst, hv]
  · rw [hv]

theorem abortMigration_cases {receipt : AbortCleanupReceipt} {e : MigrationStatus} {v : Int}
    {r : MigrationRecord × Store} (h : s.abortMigration py now mid receipt e v = .ok r) :
    receipt.migrationId = mid ∧ receipt.cleanupErrors = [] ∧
    s.hasMigrationEvent mid gateArmedEvent = false ∧
    ∃ row t u, s.migrationRow? mid = some row ∧ row.status = e ∧ row.version = v ∧
      canTransition e .aborted = true ∧
      s.updateMigration mid row.status .aborted row.version now = .ok t ∧
      u = t.appendEvent mid "" "MIGRATION_ABORTED" (some (.migration e)) (.migration .aborted)
        (v + 1) [("cleanup", receipt.toDict)] now ∧
      (u.participantRows mid).foldlM (abortParticipant now) u = .ok r.2 ∧
      ChangeIntent.fromDict py row.intentJson = .ok r.1.intent ∧
      r.1.status = .aborted ∧ r.1.version = v + 1 := by
  simp only [abortMigration, bind_eq_ok, require_eq_ok, selectMigration_eq_ok,
    requireMigration_eq_ok] at h
  obtain ⟨_, hmid, _, herr, row, hr, _, ⟨hst, hv⟩, _, harm, _, hcan, t, ht, u, hu, i, hi, ⟨⟩⟩ := h
  refine ⟨by simpa using hmid, by simpa using herr, by simpa using harm, row, t, _, hr, hst, hv,
    ?_, ht, rfl, ?_, hi, rfl, ?_⟩
  · rw [← hst]; exact hcan
  · rw [← hst, ← hv]; exact hu
  · rw [hv]

theorem transitionParticipant_cases {pid : String} {target e : ParticipantStatus} {v : Int}
    {ev : String} {payload : List (String × Json)} {sha : Option String}
    {links : Option (List String)} {r : Participant × Store}
    (h : s.transitionParticipant py now pid target e v ev payload sha links = .ok r) :
    ∃ row parent value t, (s.participants.find? fun r => r.participantId == pid) = some row ∧
      s.migrationRow? row.migrationId = some parent ∧ parent.status.isTerminal = false ∧
      row.status = e ∧ row.version = v ∧ canTransitionParticipant e target = true ∧
      setCandidateSha sha row.participantJson = .ok value ∧
      (target = .verified →
        isCommitSha (candidateSha py (setEvidenceLinks links value)) = true) ∧
      s.updateParticipant pid e target v
        (movedDocument (setEvidenceLinks links value) target (v + 1) now) now = .ok t ∧
      Participant.fromDict py (movedDocument (setEvidenceLinks links value) target (v + 1) now) =
        .ok r.1 ∧
      r.2 = t.appendEvent row.migrationId pid ev (some (.participant e)) (.participant target)
        (v + 1) payload now := by
  simp only [transitionParticipant, bind_eq_ok, require_eq_ok, selectParticipant_eq_ok] at h
  obtain ⟨row, hr, parent, hp, _, hterm, _, hlock, _, hcan, value, hval, _, hver, t, ht, p, hpar,
    ⟨⟩⟩ := h
  obtain ⟨hst, hv⟩ : row.status = e ∧ row.version = v := by simpa using hlock
  subst hst hv
  have hp' : s.migrationRow? row.migrationId = some parent := by
    unfold parentOf at hp
    split at hp <;> simp_all [raise]
  refine ⟨row, parent, value, t, hr, hp', by simpa using hterm, rfl, rfl, hcan, hval, ?_, ht, hpar,
    rfl⟩
  rintro rfl
  simpa using hver

theorem recordApproval_cases {receipt : ApprovalReceipt} (h : s.recordApproval py receipt = .ok s') :
    ∃ row parent participant intent,
      (s.participants.find? fun r => r.participantId == receipt.participantId) = some row ∧
      row.migrationId = receipt.migrationId ∧
      s.migrationRow? receipt.migrationId = some parent ∧ parent.status.isTerminal = false ∧
      row.status = .needsApproval ∧ participantFromRow py row = .ok participant ∧
      participant.kind = .semanticApproval ∧ receipt.ownerUrn ∈ participant.ownerUrns ∧
      ChangeIntent.fromDict py parent.intentJson = .ok intent ∧
      receipt.approvedMapping = intent.oldField ++ " -> " ++ intent.newField ∧
      s' = { s with approvals := s.approvals ++ [({
          migrationId := receipt.migrationId, participantId := receipt.participantId
          ownerUrn := receipt.ownerUrn, receiptJson := receipt.toDict
          approvedAt := receipt.approvedAt } : ApprovalRow)] }.appendEvent receipt.migrationId
        receipt.participantId "OWNER_APPROVAL_RECORDED" (some (.participant .needsApproval))
        (.participant .needsApproval) row.version [("approval", receipt.toDict)]
        receipt.approvedAt := by
  simp only [recordApproval, bind_eq_ok, require_eq_ok, selectParticipant_eq_ok] at h
  obtain ⟨row, hr, _, hmid, parent, hp, _, hterm, _, hst, p, hpar, _, hkind, _, hown, i, hi, _, hmap,
    _, -, ⟨⟩⟩ := h
  have hmid : row.migrationId = receipt.migrationId := by simpa using hmid
  have hst : row.status = .needsApproval := by simpa using hst
  have hp' : s.migrationRow? receipt.migrationId = some parent := by
    unfold parentOf at hp
    split at hp <;> simp_all [raise]
  refine ⟨row, parent, p, i, hr, hmid, hp', by simpa using hterm, hst, hpar, by simpa using hkind,
    by simpa using hown, hi, by simpa using hmap, ?_⟩
  rw [hst]

end Store
end LineageTX
