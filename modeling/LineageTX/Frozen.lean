import LineageTX.StorePieces

/-! Terminal migrations: what the store holds of one is final, but for a cleanup that a
caller reserves after the fact. -/
namespace LineageTX
open Library Store
variable {py : Python} {now mid : String} {s s' : Store} {c : StoreCall}

/-- The call adds the reservation of a cleanup to the migration, in the state it finds. -/
def StoreCall.Reserves (mid : String) (s : Store) : StoreCall → Prop
  | .reserveAbortCleanup m e v => m = mid ∧
      (∃ row, s.migrationRow? m = some row ∧ row.status = e ∧ row.version = v) ∧
      s.hasMigrationEvent m gateArmedEvent = false ∧
      s.hasMigrationEvent m abortReservedEvent = false
  | _ => False

/-- Every other call that succeeds finds its migration open, or not there yet. -/
theorem StoreCall.open_of_ok (h : c.run py now s = .ok s')
    (hc : ∀ m e v, c ≠ .reserveAbortCleanup m e v) {st : MigrationStatus}
    (hst : s.status? (c.migration s) = some st) : st.isTerminal = false := by
  cases c with
  | createMigration i ps =>
    obtain ⟨r, hr, -⟩ := bind_eq_ok.mp h
    obtain ⟨-, -, hfree, -⟩ := createMigration_cases hr
    simp [Store.status?, StoreCall.migration, hfree] at hst
  | armPublicationGate m v =>
    obtain ⟨row, hrow, hprep, -⟩ := armPublicationGate_cases h
    have hst' := Option.some.inj ((status?_of_row hrow).symm.trans hst)
    rw [← hst', hprep]
    rfl
  | reserveAbortCleanup m e v => exact absurd rfl (hc m e v)
  | transitionMigration m target e v ev payload receipts =>
    obtain ⟨r, hr, -⟩ := bind_eq_ok.mp h
    obtain ⟨-, -, -, -, row, t, hrow, he, -, hcan, -⟩ := transitionMigration_cases hr
    have hst' := Option.some.inj ((status?_of_row hrow).symm.trans hst)
    rw [← hst', he]
    exact not_terminal_of_canTransition hcan
  | abortMigration m receipt e v =>
    obtain ⟨r, hr, -⟩ := bind_eq_ok.mp h
    obtain ⟨-, -, -, row, t, u, hrow, he, -, hcan, -⟩ := abortMigration_cases hr
    have hst' := Option.some.inj ((status?_of_row hrow).symm.trans hst)
    rw [← hst', he]
    exact not_terminal_of_canTransition hcan
  | transitionParticipant pid target e v ev payload sha links =>
    obtain ⟨r, hr, -⟩ := bind_eq_ok.mp h
    obtain ⟨row, parent, value, t, hrow, hparent, hopen, -⟩ := transitionParticipant_cases hr
    simp only [StoreCall.migration, hrow, Option.map_some, Option.getD_some] at hst
    have hst' := Option.some.inj ((status?_of_row hparent).symm.trans hst)
    rw [← hst']
    exact hopen
  | recordApproval receipt =>
    obtain ⟨row, parent, p, i, -, -, hparent, hopen, -⟩ := recordApproval_cases h
    have hst' := Option.some.inj ((status?_of_row hparent).symm.trans hst)
    rw [← hst']
    exact hopen

/-- A reservation that is not there yet is an event that is added. -/
theorem reserve_after {m : String} {e : MigrationStatus} {v : Int} :
    ((StoreCall.reserveAbortCleanup m e v).after py now s).records mid = s.records mid ↔
      ¬(StoreCall.reserveAbortCleanup m e v).Reserves mid s := by
  by_cases hres : (StoreCall.reserveAbortCleanup m e v).Reserves mid s
  · refine iff_of_false (fun hsame => ?_) (not_not_intro hres)
    obtain ⟨rfl, ⟨row, hrow, hlock⟩, harm, hnone⟩ := hres
    have hok : (StoreCall.reserveAbortCleanup m e v).run py now s = .ok (s.appendEvent m ""
        abortReservedEvent (some (.migration row.status)) (.migration row.status) row.version
        [("scope", .str "unmerged_candidate_changes_only")] now) := by
      simp only [StoreCall.run, reserveAbortCleanup, bind_eq_ok, require_eq_ok,
        selectMigration_eq_ok, requireMigration_eq_ok]
      exact ⟨row, hrow, (), hlock, (), by simp [harm], by simp [hnone]; rfl⟩
    rw [StoreCall.after_ok hok] at hsame
    have hlen := congrArg (fun r => r.events.length) hsame
    simp [Store.records, Store.appendEvent] at hlen
  · refine iff_of_true ?_ hres
    rcases StoreCall.after_cases py now s (.reserveAbortCleanup m e v) with h | h
    · rw [h]
    · obtain ⟨row, hrow, rfl, rfl, harm, ⟨-, hs'⟩ | hs'⟩ := reserveAbortCleanup_cases h
      · rw [hs']
      · by_cases hm : m = mid
        · subst hm
          cases hdone : s.hasMigrationEvent m abortReservedEvent with
          | false => exact absurd ⟨rfl, by simp [hrow], harm, hdone⟩ hres
          | true =>
            simp only [StoreCall.run, reserveAbortCleanup, bind_eq_ok, require_eq_ok,
              selectMigration_eq_ok, requireMigration_eq_ok, hdone] at h
            obtain ⟨_, -, _, -, _, -, h⟩ := h
            rw [← Except.ok.inj h]
        · rw [hs']
          simp [Store.records, Store.appendEvent, Store.migrationRow?, hm]

/-- What the store holds of a terminal migration stays as it is, exactly unless the call
reserves its cleanup. -/
theorem records_frozen_iff (hs : s.Keyed) {st : MigrationStatus} (hst : s.status? mid = some st)
    (hterm : st.isTerminal = true) :
    (c.after py now s).records mid = s.records mid ↔ ¬c.Reserves mid s := by
  by_cases hc : ∃ m e v, c = .reserveAbortCleanup m e v
  · obtain ⟨m, e, v, rfl⟩ := hc
    exact reserve_after
  · have hc' : ∀ m e v, c ≠ .reserveAbortCleanup m e v := fun m e v he => hc ⟨m, e, v, he⟩
    refine iff_of_true ?_ ?_
    · rcases c.after_cases py now s with h | h
      · rw [h]
      · refine (StoreCall.pieces hs h).records_other hs fun hm => ?_
        have hopen := StoreCall.open_of_ok h hc' (hm ▸ hst)
        rw [hterm] at hopen
        cases hopen
    · cases c with
      | reserveAbortCleanup m e v => exact absurd rfl (hc' m e v)
      | _ => exact not_false

/-- In every run, at every call and for every terminal migration: its row, participants,
approvals and events are the same after the call, exactly unless the call reserves the
cleanup of that migration. -/
theorem terminal_frozen_iff (py : Python) (calls : List (String × StoreCall)) :
    CallsMeet (storeStep py) (fun s c => ∀ mid st, s.status? mid = some st → st.isTerminal = true →
      ((storeStep py s c).records mid = s.records mid ↔ ¬c.2.Reserves mid s)) {} calls := by
  have hrun := keyed_run py (P := fun _ => True) trivial (fun _ _ _ => trivial) calls
  exact hrun.callsMeet fun s c _ hs _ mid st hst hterm => records_frozen_iff hs.1 hst hterm

/-- A cleanup is reserved for a migration that is COMMITTED already. -/
theorem reserved_after_committed : ¬∀ calls : List (String × StoreCall),
    CallsMeet (storeStep samplePython) (fun s c => ∀ mid st, s.status? mid = some st →
      st.isTerminal = true → (storeStep samplePython s c).records mid = s.records mid) {} calls := by
  intro h
  have hlast := (h (atNoon (preparedCalls ++ [sampleCommit]) ++
    atNoon [.reserveAbortCleanup ChangeIntent.sample.migrationId .committed 3])).at_end
  have hsame := hlast ChangeIntent.sample.migrationId .committed
  have hrun : ∃ t, t = (atNoon (preparedCalls ++ [sampleCommit])).foldl (storeStep samplePython) {} ∧
      t.status? ChangeIntent.sample.migrationId = some .committed ∧
      t.hasMigrationEvent ChangeIntent.sample.migrationId abortReservedEvent = false ∧
      t.hasMigrationEvent ChangeIntent.sample.migrationId gateArmedEvent = false ∧
      (t.migrationRow? ChangeIntent.sample.migrationId).map (·.version) = some 3 :=
    ⟨_, rfl, by decide +kernel⟩
  obtain ⟨t, ht, hst, hreserved, harmed, hversion⟩ := hrun
  rw [← ht] at hsame
  obtain ⟨row, hrow, hv⟩ := Option.map_eq_some_iff.mp hversion
  have hcommitted : row.status = .committed :=
    Option.some.inj ((status?_of_row hrow).symm.trans hst)
  exact reserve_after.mp (hsame hst rfl)
    ⟨rfl, ⟨row, hrow, hcommitted, hv⟩, harmed, hreserved⟩

end LineageTX
