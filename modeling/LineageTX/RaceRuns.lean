import LineageTX.Library.Runs
import LineageTX.Race

/-! Runs of the store and the exclusion of abort and gate release. COMMITTED is
the one move that does not look for a reservation, and a reservation is the one
move that does not look for COMMITTED. -/
namespace LineageTX
open Library
variable {py : Python} {now : String}

/-- COMMITTED is asked for only while no cleanup is reserved, and a cleanup is
reserved only for a migration that is not COMMITTED. -/
def StoreCall.RespectsReservation (s : Store) : StoreCall → Prop
  | .transitionMigration m target _ _ _ _ _ =>
    target = .committed → (s.race m).reserved = false
  | .reserveAbortCleanup m _ _ => (s.race m).status ≠ some .committed
  | _ => True

instance (s : Store) : (c : StoreCall) → Decidable (c.RespectsReservation s)
  | .transitionMigration m target _ _ _ _ _ =>
    inferInstanceAs (Decidable (target = .committed → (s.race m).reserved = false))
  | .reserveAbortCleanup m _ _ =>
    inferInstanceAs (Decidable ((s.race m).status ≠ some .committed))
  | .createMigration .. | .armPublicationGate .. | .abortMigration .. | .transitionParticipant ..
  | .recordApproval .. => .isTrue trivial

/-- One step: a call keeps the exclusion exactly if it respects the reservation. -/
theorem exclusive_step {s s' : Store} {c : StoreCall} (hc : c.Plain)
    (h : c.run py now s = .ok s') (hs : ∀ mid, (s.race mid).Exclusive) :
    (∀ mid, (s'.race mid).Exclusive) ↔ c.RespectsReservation s := by
  have hmoves := StoreCall.moves h
  cases c with
  | createMigration i ps =>
    simp only [StoreCall.RespectsReservation, iff_true]
    intro mid
    have hm := hmoves mid
    simp only [StoreCall.Moves] at hm
    split at hm
    · rw [hm.2]; exact ⟨(hs mid).oneSide, (fun hab => by cases hab), fun hco => by cases hco⟩
    · rw [hm]; exact hs mid
  | armPublicationGate m v =>
    simp only [StoreCall.RespectsReservation, iff_true]
    intro mid
    have hm := hmoves mid
    simp only [StoreCall.Moves] at hm
    split at hm
    · obtain ⟨hst, hres, hr⟩ := hm
      rw [hr]; exact ⟨by simp [hres], by simp [hst], by simp [hst]⟩
    · rw [hm]; exact hs mid
  | reserveAbortCleanup m e v =>
    constructor
    · intro h' hst
      have hm := hmoves m
      simp only [StoreCall.Moves, if_true] at hm
      have := (h' m).committed (by rw [hm.2.2]; exact hst)
      simp [hm.2.2] at this
    · intro hcond mid
      have hm := hmoves mid
      simp only [StoreCall.Moves] at hm
      split at hm
      · next heq =>
        subst heq
        rw [hm.2.2]
        exact ⟨by simp [hm.2.1], fun _ => hm.2.1, fun hst => absurd hst hcond⟩
      · rw [hm]; exact hs mid
  | transitionMigration m target e v ev payload receipts =>
    constructor
    · rintro h' rfl
      have hm := hmoves m
      simp only [StoreCall.Moves, if_true] at hm
      obtain ⟨-, -, -, hst, hr⟩ := hm
      have := (h' m).committed hst
      rw [hr hc] at this
      exact this
    · intro hcond mid
      have hm := hmoves mid
      simp only [StoreCall.Moves] at hm
      split at hm
      · next heq =>
        subst heq
        obtain ⟨-, -, htarget, -, hr⟩ := hm
        rw [hr hc]
        exact ⟨(hs m).oneSide, fun hab => absurd (Option.some.inj hab) htarget,
          fun hco => hcond (Option.some.inj hco)⟩
      · rw [hm]; exact hs mid
  | abortMigration m receipt e v =>
    simp only [StoreCall.RespectsReservation, iff_true]
    intro mid
    have hm := hmoves mid
    simp only [StoreCall.Moves] at hm
    split at hm
    · rw [hm.2.2.2.2]; exact ⟨(hs mid).oneSide, fun _ => hm.2.1, fun hco => by cases hco⟩
    · rw [hm]; exact hs mid
  | transitionParticipant =>
    exact iff_of_true (fun mid => (hmoves mid).2 hc ▸ hs mid) trivial
  | recordApproval => exact iff_of_true (fun mid => hmoves mid ▸ hs mid) trivial

theorem exclusive_empty (mid : String) : (({} : Store).race mid).Exclusive :=
  ⟨by simp [Store.race, Store.hasMigrationEvent], nofun, nofun⟩

/-- The state after a call is the state before it or that of its success. -/
theorem StoreCall.after_cases (py : Python) (now : String) (s : Store) (c : StoreCall) :
    c.after py now s = s ∨ c.run py now s = .ok (c.after py now s) := by
  unfold after
  split <;> simp_all

theorem StoreCall.after_ok {s s' : Store} {c : StoreCall} (h : c.run py now s = .ok s') :
    c.after py now s = s' := by
  simp [after, h]

/-- A migration of one consumer, taken to PREPARED. -/
def preparedCalls : List StoreCall :=
  let mid := ChangeIntent.sample.migrationId
  let sha := "3333333333333333333333333333333333333333"
  [ .createMigration .sample [{
      participantId := "consumer-a", migrationId := mid, kind := .dbtSql
      assetUrn := "urn:li:dataset:a", repository := "data/a", ownerUrns := ["urn:li:corpuser:a"]
      files := ["models/a.sql"], createdAt := "2026-01-01T00:00:00Z" }],
    .transitionMigration mid .preparing .detected 0 "LINEAGETX_PREPARING" [] [],
    .transitionParticipant "consumer-a" .preparing .discovered 0 "PARTICIPANT_STATE_CHANGED" []
      none none,
    .transitionParticipant "consumer-a" .verified .preparing 1 "PARTICIPANT_STATE_CHANGED" []
      (some sha) none,
    .transitionMigration mid .prepared .preparing 1 "ALL_CONSUMERS_PREPARED" [] [] ]

/-- The commit of that migration with the three receipts it asks for. -/
def sampleCommit : StoreCall :=
  let mid := ChangeIntent.sample.migrationId
  let at' := "2026-01-01T00:00:00Z"
  .transitionMigration mid .committed .prepared 2 "MIGRATION_STATE_CHANGED" [] [
    { migrationId := mid, kind := .candidateCommit, reference := "refs/heads/a", recordedAt := at'
      commitSha := "3333333333333333333333333333333333333333" },
    { migrationId := mid, kind := .coordinatedPr, reference := "https://host/pr/1"
      recordedAt := at' },
    { migrationId := mid, kind := .producerGateReleased, reference := "check-run:1"
      recordedAt := at' }]

def atNoon (calls : List StoreCall) : List (String × StoreCall) :=
  calls.map fun c => ("2026-01-01T12:00:00Z", c)

/-- The call that reserves the cleanup of the prepared migration. -/
def sampleReserve : StoreCall :=
  .reserveAbortCleanup ChangeIntent.sample.migrationId .prepared 2

/-- In a run whose calls respect the reservations no migration ever holds both
sides of the race, and in a run where none ever does, every call that succeeded
respected them. -/
theorem exclusive_iff_respectsReservation (py : Python) (calls : List (String × StoreCall))
    (hplain : ∀ c ∈ calls, c.2.Plain) :
    (CallsMeet (storeStep py) (fun s c => c.2.RespectsReservation s) {} calls →
      StatesMeet (storeStep py) (fun s => ∀ mid, (s.race mid).Exclusive) {} calls) ∧
    (StatesMeet (storeStep py) (fun s => ∀ mid, (s.race mid).Exclusive) {} calls →
      CallsMeet (storeStep py) (fun s c => (∃ s', c.2.run py c.1 s = .ok s') →
        c.2.RespectsReservation s) {} calls) := by
  constructor
  · refine StatesMeet.of_callsMeet exclusive_empty fun s c hc hs hcond => ?_
    rcases c.2.after_cases py c.1 s with h | h
    · rw [storeStep, h]
      exact hs
    · exact (exclusive_step (hplain c hc) h hs).mpr hcond
  · refine StatesMeet.callsMeet fun s c hc hs hs' => ?_
    rintro ⟨t, ht⟩
    rw [storeStep, StoreCall.after_ok ht] at hs'
    exact (exclusive_step (hplain c hc) ht hs).mp hs'

/-- The run that arms the gate before it commits. -/
def armedCalls : List (String × StoreCall) :=
  atNoon (preparedCalls ++ [.armPublicationGate ChangeIntent.sample.migrationId 2, sampleCommit])

theorem armedCalls_exclusive :
    StatesMeet (storeStep samplePython) (fun s => ∀ mid, (s.race mid).Exclusive) {} armedCalls :=
  (exclusive_iff_respectsReservation samplePython armedCalls (by decide)).1 (by decide +kernel)

/-- A cleanup that was reserved does not keep the migration from COMMITTED. -/
theorem committed_after_reservation :
    ¬∀ calls : List (String × StoreCall), (∀ c ∈ calls, c.2.Plain) →
      StatesMeet (storeStep samplePython) (fun s => ∀ mid, (s.race mid).Exclusive) {} calls := by
  intro h
  have hrun := (h (atNoon (preparedCalls ++ [sampleReserve, sampleCommit])) (by decide)).last
  have hrace : ((atNoon (preparedCalls ++ [sampleReserve, sampleCommit])).foldl
      (storeStep samplePython) {}).race ChangeIntent.sample.migrationId =
        ⟨some .committed, false, true⟩ := by
    decide +kernel
  have hfree := (hrun ChangeIntent.sample.migrationId).committed
  rw [hrace] at hfree
  exact absurd (hfree rfl) (by decide)

end LineageTX
