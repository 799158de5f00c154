import LineageTX.Coordinator
import LineageTX.Outcome

/-! The store under the abort of one migration: reservation and abort succeed where the
migration is open and its gate not armed. -/
namespace LineageTX
open Library Store
variable {py : Python} {now mid : String} {s s' : Store}

/-- The primary keys of the two tables. -/
structure Store.PrimaryKeys (s : Store) : Prop where
  migrations : (s.migrations.map (·.migrationId)).Nodup
  participants : (s.participants.map (·.participantId)).Nodup

theorem updateMigration_ids {cur tgt : MigrationStatus} {v : Int}
    (h : s.updateMigration mid cur tgt v now = .ok s') :
    s'.migrations.map (·.migrationId) = s.migrations.map (·.migrationId) := by
  obtain ⟨-, rfl⟩ := updateMigration_eq_ok.mp h
  rw [List.map_map]
  refine List.map_congr_left fun r _ => ?_
  cases hr : hitsMigration mid cur v r <;> simp [hr]

theorem migrations_nodup_step {c : StoreCall} (h : c.run py now s = .ok s')
    (hs : (s.migrations.map (·.migrationId)).Nodup) : (s'.migrations.map (·.migrationId)).Nodup := by
  cases c with
  | createMigration i ps =>
    obtain ⟨r, hr, ⟨⟩⟩ := bind_eq_ok.mp h
    obtain ⟨-, -, hnone, -, t, ht, hs'⟩ := createMigration_cases hr
    have hsame := (sameMigrations_foldlM (fun h => sameMigrations_insertParticipant h) ht).migrations
    rw [hs', migrations_appendEvent, hsame, List.map_append, List.nodup_append]
    refine ⟨hs, by simp, fun a ha b hb => ?_⟩
    obtain ⟨row, hrow, rfl⟩ := List.mem_map.mp ha
    obtain rfl := List.mem_singleton.mp hb
    have hfresh := List.find?_eq_none.mp hnone row hrow
    simpa using hfresh
  | armPublicationGate m v =>
    obtain ⟨row, -, -, -, -, hs'⟩ := armPublicationGate_cases h
    rcases hs' with ⟨-, rfl⟩ | rfl <;> exact hs
  | reserveAbortCleanup m e v =>
    obtain ⟨row, -, -, -, -, hs'⟩ := reserveAbortCleanup_cases h
    rcases hs' with ⟨-, rfl⟩ | rfl <;> exact hs
  | transitionMigration m target e v ev payload receipts =>
    obtain ⟨r, hr, ⟨⟩⟩ := bind_eq_ok.mp h
    obtain ⟨-, -, -, -, row, t, -, -, -, -, ht, hs', -⟩ := transitionMigration_cases hr
    rw [hs', migrations_appendEvent, updateMigration_ids ht]
    exact hs
  | abortMigration m receipt e v =>
    obtain ⟨r, hr, ⟨⟩⟩ := bind_eq_ok.mp h
    obtain ⟨-, -, -, row, t, u, -, -, -, -, ht, rfl, hloop, -⟩ := abortMigration_cases hr
    rw [(sameMigrations_foldlM (fun h => sameMigrations_abortParticipant h) hloop).migrations,
      migrations_appendEvent, updateMigration_ids ht]
    exact hs
  | transitionParticipant pid target e v ev payload sha links =>
    obtain ⟨r, hr, ⟨⟩⟩ := bind_eq_ok.mp h
    obtain ⟨row, parent, value, t, -, -, -, -, -, -, -, -, ht, -, hs'⟩ := transitionParticipant_cases hr
    obtain ⟨-, rfl⟩ := updateParticipant_eq_ok.mp ht
    rw [hs']
    exact hs
  | recordApproval receipt =>
    obtain ⟨row, parent, p, i, -, -, -, -, -, -, -, -, -, -, rfl⟩ := recordApproval_cases h
    exact hs

/-- A store that some calls have left keeps its primary keys. -/
theorem primaryKeys_run (py : Python) (calls : List (String × StoreCall)) :
    (calls.foldl (storeStep py) {}).PrimaryKeys := by
  have hrun := (keyed_run py (P := fun s => (s.migrations.map (·.migrationId)).Nodup) (by simp)
    (fun _ hs h => migrations_nodup_step h hs) calls).last
  exact ⟨hrun.2, hrun.1.unique⟩

/-- A guarded update hits the one row of its identifier. -/
theorem countP_eq_one {α : Type} {l : List α} {key : α → String} {hits : α → Bool} {a : α}
    (hl : (l.map key).Nodup) (ha : a ∈ l) (hhits : hits a = true)
    (honly : ∀ b, hits b = true → key b = key a) : l.countP hits = 1 := by
  induction l with
  | nil => simp at ha
  | cons b l ih =>
    obtain ⟨hb, hl⟩ := List.nodup_cons.mp hl
    rcases List.mem_cons.mp ha with rfl | ha
    · have hrest : l.countP hits = 0 := List.countP_eq_zero.mpr fun c hc hhit =>
        hb (honly c hhit ▸ List.mem_map_of_mem hc)
      rw [List.countP_cons_of_pos hhits, hrest]
    · have hmiss : ¬hits b = true := fun hhit => hb (honly b hhit ▸ List.mem_map_of_mem ha)
      rw [List.countP_cons_of_neg hmiss]
      exact ih hl ha

theorem updateMigration_ok {row : MigrationRow} {tgt : MigrationStatus}
    (hs : (s.migrations.map (·.migrationId)).Nodup) (hr : s.migrationRow? mid = some row) :
    ∃ t, s.updateMigration mid row.status tgt row.version now = .ok t := by
  refine ⟨_, updateMigration_eq_ok.mpr ⟨?_, rfl⟩⟩
  have hid : row.migrationId = mid := by simpa using List.find?_some hr
  refine countP_eq_one (a := row) hs (List.mem_of_find?_eq_some hr) ?_ fun r hhit => ?_
  · simp [hitsMigration, hid]
  · simp only [hitsMigration, Bool.and_eq_true, decide_eq_true_eq] at hhit
    rw [hhit.1.1, hid]

/-- One turn of the participant loop, while the rows of the later turns are untouched. -/
theorem abortParticipant_ok {row : ParticipantRow} {rest : List ParticipantRow}
    (hs : (s.participants.map (·.participantId)).Nodup) (hrow : row ∈ s.participants)
    (hrest : ∀ r ∈ rest, r ∈ s.participants ∧ r.participantId ≠ row.participantId) :
    ∃ t, abortParticipant now s row = .ok t ∧ (t.participants.map (·.participantId)).Nodup ∧
      ∀ r ∈ rest, r ∈ t.participants := by
  unfold abortParticipant
  split
  · exact ⟨s, rfl, hs, fun r hr => (hrest r hr).1⟩
  · have hcount : s.participants.countP
        (hitsParticipant row.participantId row.status row.version) = 1 := by
      refine countP_eq_one (a := row) hs hrow (by simp [hitsParticipant]) fun r hhit => ?_
      simp only [hitsParticipant, Bool.and_eq_true, decide_eq_true_eq] at hhit
      exact hhit.1.1
    refine ⟨_, bind_eq_ok.mpr ⟨_, updateParticipant_eq_ok.mpr ⟨hcount, rfl⟩, rfl⟩, ?_, fun r hr => ?_⟩
    · have hids : ∀ r : ParticipantRow, (bif hitsParticipant row.participantId row.status row.version r
          then { r with
            participantJson := movedDocument row.participantJson .aborted (row.version + 1) now
            status := .aborted, version := row.version + 1, updatedAt := now }
          else r).participantId = r.participantId := by
        intro r
        cases hitsParticipant row.participantId row.status row.version r <;> rfl
      rw [participants_appendEvent, List.map_map]
      simpa only [Function.comp_def, hids] using hs
    · obtain ⟨hmem, hne⟩ := hrest r hr
      refine List.mem_map.mpr ⟨r, hmem, ?_⟩
      have hmiss : hitsParticipant row.participantId row.status row.version r = false := by
        simp [hitsParticipant, hne]
      rw [hmiss, cond_false]

theorem abortLoop_ok {rows : List ParticipantRow}
    (hs : (s.participants.map (·.participantId)).Nodup)
    (hrows : (rows.map (·.participantId)).Nodup) (hmem : ∀ r ∈ rows, r ∈ s.participants) :
    ∃ t, rows.foldlM (abortParticipant now) s = .ok t := by
  induction rows generalizing s with
  | nil => exact ⟨s, rfl⟩
  | cons row rows ih =>
    obtain ⟨hfresh, hrows⟩ := List.nodup_cons.mp hrows
    obtain ⟨t, ht, hkeys, hmem'⟩ := abortParticipant_ok hs (hmem row (by simp)) fun r hr =>
        ⟨hmem r (List.mem_cons_of_mem _ hr), fun he => hfresh (List.mem_map.mpr ⟨r, hr, he⟩)⟩
    obtain ⟨u, hu⟩ := ih hkeys hrows hmem'
    exact ⟨u, bind_eq_ok.mpr ⟨t, ht, hu⟩⟩

theorem nodup_participantRows (hs : (s.participants.map (·.participantId)).Nodup) :
    ((s.participantRows mid).map (·.participantId)).Nodup := by
  have hperm := (sortBy_perm ParticipantRow.participantId
    (s.participants.filter fun r => r.migrationId == mid)).map ParticipantRow.participantId
  exact hperm.nodup_iff.mpr (hs.sublist (List.filter_sublist.map _))

/-- A migration that is open and whose gate is not armed, as the caller reads it. -/
structure Store.Abortable (py : Python) (s : Store) (mid : String) (migration : MigrationRecord) :
    Prop where
  found : s.getMigration py mid = .ok migration
  «open» : migration.status.isTerminal = false
  unarmed : s.hasMigrationEvent mid gateArmedEvent = false
  keys : s.PrimaryKeys

theorem getMigration_cases {migration : MigrationRecord} (h : s.getMigration py mid = .ok migration) :
    ∃ row, s.migrationRow? mid = some row ∧ ChangeIntent.fromDict py row.intentJson =
      .ok migration.intent ∧ row.status = migration.status ∧ row.version = migration.version := by
  obtain ⟨row, hrow, h⟩ := bind_eq_ok.mp h
  obtain ⟨intent, hintent, ⟨⟩⟩ := bind_eq_ok.mp h
  exact ⟨row, selectMigration_eq_ok.mp hrow, hintent, rfl, rfl⟩

theorem reserveAbortCleanup_ok {migration : MigrationRecord} (h : s.Abortable py mid migration) :
    ∃ t, s.reserveAbortCleanup now mid migration.status migration.version = .ok t ∧
      t.Abortable py mid migration := by
  obtain ⟨row, hrow, -, hstatus, hversion⟩ := getMigration_cases h.found
  have hreserve : ∃ t, (if s.hasMigrationEvent mid abortReservedEvent then .ok s
      else .ok (s.appendEvent mid "" abortReservedEvent (some (.migration row.status))
        (.migration row.status) row.version [("scope", .str "unmerged_candidate_changes_only")] now) :
          Result Store) = .ok t ∧ t.Abortable py mid migration := by
    split
    · exact ⟨s, rfl, h⟩
    · refine ⟨_, rfl, h.found, h.open, ?_, h.keys.migrations, h.keys.participants⟩
      simp [h.unarmed, show (abortReservedEvent == gateArmedEvent) = false by decide]
  obtain ⟨t, ht, hopen⟩ := hreserve
  refine ⟨t, ?_, hopen⟩
  simp only [reserveAbortCleanup, bind_eq_ok, require_eq_ok, selectMigration_eq_ok,
    requireMigration_eq_ok]
  exact ⟨row, hrow, (), ⟨hstatus, hversion⟩, (), by rw [h.unarmed]; rfl, ht⟩

theorem abortMigration_ok {migration : MigrationRecord} {receipt : AbortCleanupReceipt}
    (h : s.Abortable py mid migration) (hmid : receipt.migrationId = mid)
    (hclean : receipt.cleanupErrors = []) :
    ∃ r, s.abortMigration py now mid receipt migration.status migration.version = .ok r ∧
      r.2.status? mid = some .aborted := by
  obtain ⟨row, hrow, hintent, hstatus, hversion⟩ := getMigration_cases h.found
  have hcan : canTransition row.status .aborted = true := by
    have hopen := h.open
    rw [← hstatus] at hopen
    cases hst : row.status <;> rw [hst] at hopen <;> first | rfl | cases hopen
  obtain ⟨t, ht⟩ := updateMigration_ok h.keys.migrations hrow
  set u := t.appendEvent mid "" "MIGRATION_ABORTED" (some (.migration row.status))
    (.migration .aborted) (row.version + 1) [("cleanup", receipt.toDict)] now
  have hrows : u.participants = s.participants := by
    obtain ⟨-, rfl⟩ := updateMigration_eq_ok.mp ht
    rfl
  obtain ⟨v, hv⟩ := @abortLoop_ok now u _
    (by rw [hrows]; exact h.keys.participants)
    (nodup_participantRows (by rw [hrows]; exact h.keys.participants))
    fun r hr => (mem_participantRows.mp hr).1
  have hstatus' : v.status? mid = some .aborted := by
    rw [(sameMigrations_foldlM (fun h => sameMigrations_abortParticipant h) hv).status?,
      status?_appendEvent, status?_updateMigration hrow ht, if_pos rfl]
  refine ⟨(⟨migration.intent, .aborted, row.version + 1, row.createdAt, now⟩, v), ?_, hstatus'⟩
  simp only [abortMigration, bind_eq_ok, require_eq_ok, selectMigration_eq_ok,
    requireMigration_eq_ok]
  exact ⟨(), decide_eq_true hmid, (), decide_eq_true hclean, row, hrow, (), ⟨hstatus, hversion⟩, (),
    by rw [h.unarmed]; rfl, (), hcan, t, ht, v, hv, _, hintent, rfl⟩

end LineageTX
