import LineageTX.Coordinator
import LineageTX.EventLog
import LineageTX.Frozen

/-! The event that decided a migration: it stays the latest of its kind in the log of the
migration, whatever calls the store gets afterwards. -/
namespace LineageTX
open Library Store
variable {py : Python} {now mid : String} {s s' : Store} {c : StoreCall} {kind : EventRow → Bool}
  {e : EventRow}

/-- A terminal migration whose log has one latest event of the kind, and no later call
that appends another. -/
structure Store.Decided (py : Python) (mid : String) (kind : EventRow → Bool) (e : EventRow)
    (s : Store) : Prop where
  row : ∃ row intent, s.migrationRow? mid = some row ∧ row.status.isTerminal = true ∧
    ChangeIntent.fromDict py row.intentJson = .ok intent
  latest : (s.records mid).events.reverse.find? kind = some e
  quiet : s.hasMigrationEvent mid gateArmedEvent = true ∨
    ∀ e', e'.eventType = abortReservedEvent → kind e' = false

/-- An event of another kind does not change the latest one. -/
theorem latest_append {events : List EventRow} {e' : EventRow} (h : kind e' = false) :
    (events ++ [e']).reverse.find? kind = events.reverse.find? kind := by
  rw [List.reverse_append, List.reverse_singleton, List.singleton_append, List.find?_cons, h]

theorem latest_append_self {events : List EventRow} (h : kind e = true) :
    (events ++ [e]).reverse.find? kind = some e := by
  rw [List.reverse_append, List.reverse_singleton, List.singleton_append, List.find?_cons, h]

theorem hasMigrationEvent_records (s : Store) (mid ev : String) :
    s.hasMigrationEvent mid ev = (s.records mid).events.any fun e => e.eventType == ev := by
  rw [Store.hasMigrationEvent, Store.records, List.any_filter]
  rfl

/-- The log of a migration is listed in the order in which it was written. -/
theorem listEvents_answer (hs : s.Sound) {row : MigrationRow} {intent : ChangeIntent}
    (hrow : s.migrationRow? mid = some row)
    (hintent : ChangeIntent.fromDict py row.intentJson = .ok intent) :
    StoreRead.answer py s (.listEvents mid) = .ok (s.records mid).events := by
  have hfilter : (s.events.filter fun e => e.migrationId == mid) = (s.records mid).events :=
    List.filter_congr fun e _ => by rw [beq_eq_decide]
  have hsorted : sortBy EventRow.sequence (s.records mid).events = (s.records mid).events := by
    refine sortBy_of_pairwise (List.pairwise_map.mp ?_)
    have hsequences := hs.faithful.sequences mid
    rw [Store.records, hsequences]
    exact (List.pairwise_lt_range' ..).imp Nat.le_of_lt
  have hmigration : ∃ migration, s.getMigration py mid = .ok migration :=
    ⟨_, bind_eq_ok.mpr ⟨row, selectMigration_eq_ok.mpr hrow, bind_eq_ok.mpr ⟨intent, hintent, rfl⟩⟩⟩
  obtain ⟨migration, hmigration⟩ := hmigration
  refine bind_eq_ok.mpr ⟨migration, hmigration, ?_⟩
  rw [hfilter, hsorted]
  rfl

/-- A call keeps the decision: of a terminal migration it changes nothing, but for the
reservation of a cleanup where the gate was never armed. -/
theorem Store.Decided.after (hs : s.Keyed) (h : s.Decided py mid kind e) :
    (c.after py now s).Decided py mid kind e := by
  obtain ⟨row, intent, hrow, hterminal, hintent⟩ := h.row
  by_cases hc : c.Reserves mid s
  · cases c with
    | reserveAbortCleanup m expected version =>
      obtain ⟨rfl, -, harmed, -⟩ := hc
      have hother : ∀ e', e'.eventType = abortReservedEvent → kind e' = false := by
        refine h.quiet.resolve_left fun hgate => ?_
        rw [harmed] at hgate
        cases hgate
      rcases StoreCall.after_cases py now s (.reserveAbortCleanup m expected version) with hsame | hok
      · rw [hsame]
        exact h
      · obtain ⟨-, -, -, -, -, ⟨-, hsame⟩ | happend⟩ := reserveAbortCleanup_cases hok
        · rw [hsame]
          exact h
        · refine ⟨⟨row, intent, ?_, hterminal, hintent⟩, ?_, .inr hother⟩
          · rw [happend, migrationRow?_appendEvent, hrow]
          · rw [happend]
            simp only [Store.records, Store.appendEvent, List.filter_append, List.filter_singleton,
              decide_true, cond_true]
            rw [latest_append (hother _ rfl)]
            exact h.latest
    | _ => exact hc.elim
  · have hsame := (@records_frozen_iff py now _ _ _ hs _ (status?_of_row hrow)
      hterminal).mpr hc
    refine ⟨⟨row, intent, ?_, hterminal, hintent⟩, ?_, ?_⟩
    · exact (congrArg Records.row hsame).trans hrow
    · rw [hsame]
      exact h.latest
    · rw [hasMigrationEvent_records, hsame, ← hasMigrationEvent_records]
      exact h.quiet

theorem Store.Decided.run (hs : s.Sound) (h : s.Decided py mid kind e)
    (calls : List (String × StoreCall)) :
    (calls.foldl (storeStep py) s).Decided py mid kind e := by
  induction calls generalizing s with
  | nil => exact h
  | cons c calls ih => exact ih (hs.storeStep (x := .migration mid) c).1 (h.after hs.keyed)

/-- The move to COMMITTED decides a migration whose gate was armed. -/
theorem decided_of_commit {expected : MigrationStatus} {version : Int} {ev : String}
    {payload : List (String × Json)} {receipts : List CoordinationReceipt}
    (harmed : s.hasMigrationEvent mid gateArmedEvent = true)
    (h : (StoreCall.transitionMigration mid .committed expected version ev payload receipts).run py
      now s = .ok s') :
    ∃ e, s'.Decided py mid (fun e => e.toStatus = .migration .committed) e ∧
      e.payloadJson = .obj (eventPayload payload receipts) := by
  obtain ⟨r, hr, ⟨⟩⟩ := bind_eq_ok.mp h
  obtain ⟨-, -, -, -, row, t, hrow, rfl, -, -, ht, hs', hintent, -, -⟩ := transitionMigration_cases hr
  have hrow' := migrationRow?_updateMigration hrow ht mid
  rw [if_pos rfl] at hrow'
  have hgate := hasMigrationEvent_updateMigration ht mid gateArmedEvent
  rw [harmed] at hgate
  rw [hs']
  refine ⟨⟨mid, t.nextSequence mid, none, ev, some (.migration row.status), .migration .committed,
    version + 1, .obj (eventPayload payload receipts), now⟩, ⟨⟨_, r.1.intent, hrow', rfl, hintent⟩,
    ?_, .inl ?_⟩, rfl⟩
  · simp only [Store.records, Store.appendEvent, List.filter_append, List.filter_singleton,
      decide_true, cond_true]
    exact latest_append_self rfl
  · rw [hasMigrationEvent_appendEvent, hgate, Bool.true_or]

/-- The event kind of an abort. -/
def isAborted (e : EventRow) : Bool :=
  e.eventType = "MIGRATION_ABORTED" && e.toStatus = .migration .aborted

/-- The participants of an aborted migration add events of their own only. -/
theorem decided_abortParticipant {row : ParticipantRow} (h : s.Decided py mid isAborted e)
    (hstep : abortParticipant now s row = .ok s') : s'.Decided py mid isAborted e := by
  rcases abortParticipant_cases hstep with ⟨-, rfl⟩ | ⟨-, t, ht, rfl⟩
  · exact h
  · obtain ⟨-, rfl⟩ := updateParticipant_eq_ok.mp ht
    have hother : ∀ e', e'.eventType = abortReservedEvent → isAborted e' = false := by
      intro e' he'
      simp [isAborted, he', abortReservedEvent]
    refine ⟨h.row, ?_, .inr hother⟩
    by_cases hmid : row.migrationId = mid
    · simp only [Store.records, Store.appendEvent, List.filter_append, List.filter_singleton, hmid,
        decide_true, cond_true]
      rw [latest_append (by simp [isAborted])]
      exact h.latest
    · simp only [Store.records, Store.appendEvent, List.filter_append, List.filter_singleton, hmid,
        decide_false, cond_false, List.append_nil]
      exact h.latest

theorem decided_abortLoop {rows : List ParticipantRow} (h : s.Decided py mid isAborted e)
    (hloop : rows.foldlM (abortParticipant now) s = .ok s') : s'.Decided py mid isAborted e := by
  induction rows generalizing s with
  | nil =>
    obtain ⟨⟩ := hloop
    exact h
  | cons row rows ih =>
    obtain ⟨t, ht, hloop⟩ := bind_eq_ok.mp (by simpa using hloop)
    exact ih (decided_abortParticipant h ht) hloop

/-- The abort decides its migration. -/
theorem decided_of_abort {receipt : AbortCleanupReceipt} {expected : MigrationStatus} {version : Int}
    (h : (StoreCall.abortMigration mid receipt expected version).run py now s = .ok s') :
    ∃ e, s'.Decided py mid isAborted e ∧ e.payloadJson = .obj [("cleanup", receipt.toDict)] := by
  obtain ⟨r, hr, ⟨⟩⟩ := bind_eq_ok.mp h
  obtain ⟨-, -, -, row, t, u, hrow, rfl, -, -, ht, hu, hloop, hintent, -, -⟩ := abortMigration_cases hr
  have hrow' := migrationRow?_updateMigration hrow ht mid
  rw [if_pos rfl] at hrow'
  have hother : ∀ e', e'.eventType = abortReservedEvent → isAborted e' = false := by
    intro e' he'
    simp [isAborted, he', abortReservedEvent]
  have hdecided : u.Decided py mid isAborted ⟨mid, t.nextSequence mid, none, "MIGRATION_ABORTED",
      some (.migration row.status), .migration .aborted, version + 1,
      .obj [("cleanup", receipt.toDict)], now⟩ := by
    rw [hu]
    refine ⟨⟨_, r.1.intent, hrow', rfl, hintent⟩, ?_, .inr hother⟩
    simp only [Store.records, Store.appendEvent, List.filter_append, List.filter_singleton,
      decide_true, cond_true]
    exact latest_append_self rfl
  exact ⟨_, decided_abortLoop hdecided hloop, rfl⟩

end LineageTX
