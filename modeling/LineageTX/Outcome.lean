import LineageTX.Agreement

/-! The outcome of a migration and of its participants over whole runs. The store
lets a caller commit a participant of an open migration, and an abort leaves
such a participant as it is. -/
namespace LineageTX
open Library Store
variable {py : Python} {now : String} {s s' : Store} {c : StoreCall}

/-- Agreement: COMMITTED participants have COMMITTED migrations, and ABORTED
migrations have ABORTED participants. -/
structure Store.Agrees (s : Store) : Prop where
  committed : ∀ p ∈ s.participants, p.status = .committed →
    s.status? p.migrationId = some .committed
  aborted : ∀ p ∈ s.participants, s.status? p.migrationId = some .aborted → p.status = .aborted

/-- The participants of an ABORTED migration are ABORTED or COMMITTED. -/
def Store.Settled (s : Store) : Prop :=
  ∀ p ∈ s.participants, s.status? p.migrationId = some .aborted →
    p.status = .committed ∨ p.status = .aborted

/-- The transition of a participant to COMMITTED. -/
def StoreCall.Commits (pid : String) : StoreCall → Prop
  | .transitionParticipant pid' target _ _ _ _ _ _ => pid' = pid ∧ target = .committed
  | _ => False

/-- A migration becomes ABORTED by its abort, which settles its participants. -/
theorem settled_of_abort (hs : s.Keyed) (h : c.run py now s = .ok s') {mid : String}
    (hbefore : s.status? mid ≠ some .aborted) (hafter : s'.status? mid = some .aborted) :
    ∀ p ∈ s'.participants, p.migrationId = mid → p.status = .committed ∨ p.status = .aborted := by
  have hm := StoreCall.moves h mid
  have hsame : s'.race mid = s.race mid → False := by
    intro he
    exact hbefore ((congrArg Race.status he).symm.trans hafter)
  have hother : ∀ {st}, (s'.race mid).status = some st → st ≠ .aborted → False := by
    intro st he hne
    exact hne (Option.some.inj (he.symm.trans hafter))
  cases c with
  | createMigration =>
    simp only [StoreCall.Moves] at hm
    split at hm
    · exact (hother (congrArg Race.status hm.2) (by decide)).elim
    · exact (hsame hm).elim
  | armPublicationGate =>
    simp only [StoreCall.Moves] at hm
    split at hm
    · exact (hother ((congrArg Race.status hm.2.2).trans hm.1) (by decide)).elim
    · exact (hsame hm).elim
  | reserveAbortCleanup =>
    simp only [StoreCall.Moves] at hm
    split at hm
    · exact (hbefore ((congrArg Race.status hm.2.2).symm.trans hafter)).elim
    · exact (hsame hm).elim
  | transitionMigration =>
    simp only [StoreCall.Moves] at hm
    split at hm
    · exact (hother hm.2.2.2.1 hm.2.2.1).elim
    · exact (hsame hm).elim
  | transitionParticipant => exact (hbefore (hm.1.symm.trans hafter)).elim
  | recordApproval => exact (hsame hm).elim
  | abortMigration m receipt e v =>
    simp only [StoreCall.Moves] at hm
    split at hm
    · next hmid =>
      obtain ⟨r, hr, ⟨⟩⟩ := bind_eq_ok.mp h
      obtain ⟨-, -, -, row, t, u, -, -, -, -, ht, hu, hloop, -⟩ := abortMigration_cases hr
      obtain ⟨-, rfl⟩ := updateMigration_eq_ok.mp ht
      have hall := abortLoop hs (by rw [hu]; rfl) hloop
      intro p hp hpm
      obtain ⟨q, -, hq⟩ := exists_origin hall hp
      rcases hq.2 with hmem | hne | hset
      · simp at hmem
      · exact absurd (hq.1.migrationId.symm.trans (hpm.trans hmid.symm)) hne
      · exact hset
    · exact (hsame hm).elim

theorem Settled.step (hs : s.Keyed) (hset : s.Settled) (h : c.run py now s = .ok s') :
    s'.Settled := by
  intro p' hp' hst
  by_cases hbefore : s.status? p'.migrationId = some .aborted
  · rcases StoreCall.row_cases hs h hp' with ⟨p, hp, hupd⟩ | ⟨-, hnew⟩
    · rw [hupd.migrationId] at hbefore
      rcases hupd.change with rfl | hmoved
      · exact hset _ hp hbefore
      · obtain ⟨st, hst', hopen⟩ := hmoved.open
        obtain rfl := Option.some.inj (hbefore.symm.trans hst')
        cases hopen
    · exact absurd (hst.symm.trans hnew) (by simp)
  · exact settled_of_abort hs h hbefore hst p' hp' rfl

/-- A participant becomes COMMITTED by its own transition, in an open migration. -/
theorem committed_by_transition (hs : s.Keyed) (h : c.run py now s = .ok s') {p' : ParticipantRow}
    (hp' : p' ∈ s'.participants) (hst : p'.status = .committed) :
    (p' ∈ s.participants) ∨ (c.Commits p'.participantId ∧
      ∃ st, s.status? p'.migrationId = some st ∧ st.isTerminal = false) := by
  rcases StoreCall.row_cases hs h hp' with ⟨p, hp, hupd⟩ | ⟨hd, -⟩
  · rcases hupd.change with rfl | hmoved
    · exact .inl hp
    · obtain ⟨st, hst', hopen⟩ := hmoved.open
      refine .inr ⟨?_, st, hupd.migrationId ▸ hst', hopen⟩
      cases c with
      | transitionParticipant =>
        exact ⟨hmoved.1.symm.trans hupd.participantId.symm, hmoved.2.2.2.1.symm.trans hst⟩
      | abortMigration => exact absurd (hmoved.1.2.2.symm.trans hst) (by decide)
      | _ => exact hmoved.elim
  · rw [hd] at hst
    cases hst

/-- The participants of a terminal migration stay as they are. -/
theorem frozen_step (hs : s.Keyed) (h : c.run py now s = .ok s') {mid : String}
    {st : MigrationStatus} (hst : s.status? mid = some st) (hterm : st.isTerminal = true) :
    s'.participants.filter (fun p => p.migrationId = mid) =
      s.participants.filter (fun p => p.migrationId = mid) := by
  obtain ⟨-, olds, news, hps, holds, hnews⟩ := StoreCall.participants_step hs h
  have hfin := StoreCall.terminal_final h hst hterm
  have hnone : news.filter (fun p => p.migrationId = mid) = [] := by
    refine List.filter_eq_nil_iff.mpr fun p hp hmid => ?_
    have hd := (hnews p hp).2
    rw [of_decide_eq_true hmid, hfin] at hd
    rw [Option.some.inj hd] at hterm
    cases hterm
  rw [hps, List.filter_append, hnone, List.append_nil]
  refine filter_of_updates (fun p p' hmoved hmid => ?_) holds
  obtain ⟨st', hst', hopen⟩ := hmoved.open
  rw [hmid, hst] at hst'
  rw [Option.some.inj hst', hopen] at hterm
  cases hterm

theorem keyed_empty : ({} : Store).Keyed := ⟨by simp, by simp⟩

/-- A property of stores that every success keeps holds throughout a run. -/
theorem keyed_run (py : Python) {P : Store → Prop} (h0 : P {})
    (hstep : ∀ {s s' : Store} {c : StoreCall} {now}, s.Keyed → P s → c.run py now s = .ok s' → P s')
    (calls : List (String × StoreCall)) :
    StatesMeet (storeStep py) (fun s => s.Keyed ∧ P s) {} calls := by
  refine StatesMeet.of_step ⟨keyed_empty, h0⟩ fun s c _ ⟨hk, hP⟩ => ?_
  rcases c.2.after_cases py c.1 s with h | h
  · rw [storeStep, h]
    exact ⟨hk, hP⟩
  · exact ⟨hk.step h, hstep hk hP h⟩

/-- Without a commit of a participant no participant is ever COMMITTED. -/
theorem undecided_run {calls : List (String × StoreCall)}
    (hc : ∀ c ∈ calls, ∀ pid, ¬c.2.Commits pid) :
    StatesMeet (storeStep py)
      (fun s => s.Keyed ∧ ∀ p ∈ s.participants, p.status ≠ .committed) {} calls := by
  refine StatesMeet.of_step ⟨keyed_empty, by simp⟩ fun s c hmem ⟨hk, hP⟩ => ?_
  rcases c.2.after_cases py c.1 s with h | h
  · rw [storeStep, h]
    exact ⟨hk, hP⟩
  · refine ⟨hk.step h, fun p hp hst => ?_⟩
    rcases committed_by_transition hk h hp hst with hold | ⟨hcom, -⟩
    · exact hP p hold hst
    · exact hc c hmem _ hcom

/-- The prepared migration whose participant is committed before the abort. -/
def splitCalls : List (String × StoreCall) :=
  let mid := ChangeIntent.sample.migrationId
  atNoon (preparedCalls ++ [
    .transitionParticipant "consumer-a" .committed .verified 2 "PARTICIPANT_STATE_CHANGED" []
      none none,
    .abortMigration mid { migrationId := mid, recordedAt := "2026-01-01T12:00:00Z" } .prepared 2])

end LineageTX
