import LineageTX.RaceRuns

/-! Agreement of the participants of a migration with its outcome. -/
namespace LineageTX
open Library
namespace Store
variable {py : Python} {now : String} {s s' : Store}

/-- A new participant starts undecided, under an identifier that was free. -/
theorem insertParticipant_cases {p : Participant} (h : s.insertParticipant py p = .ok s') :
    ∃ row : ParticipantRow, s' = { s with participants := s.participants ++ [row] } ∧
      row.participantId = p.participantId ∧ row.migrationId = p.migrationId ∧
      row.status = .discovered ∧ ∀ r ∈ s.participants, r.participantId ≠ row.participantId := by
  simp only [insertParticipant, bind_eq_ok, require_eq_ok] at h
  obtain ⟨q, hq, _, hfree, ⟨⟩⟩ := h
  have hread := Participant.readFrom hq
  obtain ⟨j, hj, hid⟩ := hread.participantId
  obtain ⟨j', hj', hmid⟩ := hread.migrationId
  have hst := hread.status
  simp only [Participant.toDict, Json.set_obj, Json.get?_obj, getD, Json.lookup_assign,
    Json.lookup_cons_if] at hj hj' hst
  simp only [String.reduceEq, if_true, if_false, Option.getD_some, Option.some.injEq,
    Python.str_str, ParticipantStatus.parse_value, Except.ok.injEq] at hj hj' hst
  refine ⟨_, rfl, ?_, ?_, hst.symm, by simpa using hfree⟩
  · rw [hid, ← hj, Python.str_str]
  · rw [hmid, ← hj', Python.str_str]

/-- Identifiers are unique and every participant belongs to a known migration. -/
structure Keyed (s : Store) : Prop where
  unique : (s.participants.map ParticipantRow.participantId).Nodup
  parents : ∀ p ∈ s.participants, s.status? p.migrationId ≠ none

theorem Keyed.eq_of_id (h : s.Keyed) {p q : ParticipantRow} (hp : p ∈ s.participants)
    (hq : q ∈ s.participants) (he : p.participantId = q.participantId) : p = q :=
  List.inj_on_of_nodup_map h.unique hp hq he

/-- A participant row before and after an update that may settle it. -/
structure Update (moved : ParticipantRow → ParticipantRow → Prop) (p p' : ParticipantRow) : Prop where
  participantId : p'.participantId = p.participantId
  migrationId : p'.migrationId = p.migrationId
  change : p' = p ∨ moved p p'

/-- The moves of the participant loop of an abort of `mid`. -/
def AbortedWith (mid : String) (p p' : ParticipantRow) : Prop :=
  p.migrationId = mid ∧ p.status ≠ .committed ∧ p'.status = .aborted

/-- The rows in the middle of the loop: what is not done yet is still on the list. -/
def DuringAbort (mid : String) (todo : List ParticipantRow) (p p' : ParticipantRow) : Prop :=
  Update (AbortedWith mid) p p' ∧
    (p ∈ todo ∨ p.migrationId ≠ mid ∨ p'.status = .committed ∨ p'.status = .aborted)

theorem duringAbort_step {t t' : Store} {mid : String} {row : ParticipantRow}
    {todo : List ParticipantRow} (hs : s.Keyed) (hrow : row ∈ s.participants)
    (hmid : row.migrationId = mid)
    (hpre : List.Forall₂ (DuringAbort mid (row :: todo)) s.participants t.participants)
    (h : abortParticipant now t row = .ok t') :
    List.Forall₂ (DuringAbort mid todo) s.participants t'.participants := by
  rcases abortParticipant_cases h with ⟨hdone, rfl⟩ | ⟨hopen, u, hu, rfl⟩
  · refine hpre.imp fun p p' ⟨hupd, hleft⟩ => ⟨hupd, ?_⟩
    rcases hleft with hmem | hother
    · rcases List.mem_cons.mp hmem with rfl | hmem
      · rcases hupd.change with rfl | ⟨-, -, hab⟩
        · exact .inr (.inr hdone)
        · exact .inr (.inr (.inr hab))
      · exact .inl hmem
    · exact .inr hother
  · obtain ⟨-, rfl⟩ := updateParticipant_eq_ok.mp hu
    simp only [participants_appendEvent, List.forall₂_map_right_iff]
    have hmem : List.Forall₂ (fun p p' => p ∈ s.participants ∧ DuringAbort mid (row :: todo) p p')
        s.participants t.participants :=
      (List.forall₂_and_left _ _).mpr ⟨fun _ hp => hp, hpre⟩
    refine hmem.imp fun p p' ⟨hp, hupd, hleft⟩ => ?_
    cases hhit : hitsParticipant row.participantId row.status row.version p' with
    | true =>
      -- the guarded update finds a row by its identifier, which names `row` itself
      have hid : p'.participantId = row.participantId := by
        simp only [hitsParticipant, Bool.and_eq_true, decide_eq_true_eq] at hhit
        exact hhit.1.1
      obtain rfl := hs.eq_of_id hp hrow (hupd.participantId.symm.trans hid)
      have hne : p.status ≠ .committed := fun hc => hopen (.inl hc)
      exact ⟨⟨hupd.participantId, hupd.migrationId, .inr ⟨hmid, hne, rfl⟩⟩, .inr (.inr (.inr rfl))⟩
    | false =>
      refine ⟨hupd, ?_⟩
      rcases hleft with hin | hother
      · rcases List.mem_cons.mp hin with rfl | hin
        · rcases hupd.change with rfl | ⟨-, -, hab⟩
          · simp [hitsParticipant] at hhit
          · exact .inr (.inr (.inr hab))
        · exact .inl hin
      · exact .inr hother

/-- The loop settles every participant of its migration and no other row. -/
theorem abortLoop {t : Store} {mid : String} (hs : s.Keyed) (ht : t.participants = s.participants)
    (h : (t.participantRows mid).foldlM (abortParticipant now) t = .ok s') :
    List.Forall₂ (DuringAbort mid []) s.participants s'.participants := by
  have hloop : ∀ (todo : List ParticipantRow) (u : Store),
      (∀ r ∈ todo, r ∈ s.participants ∧ r.migrationId = mid) →
      List.Forall₂ (DuringAbort mid todo) s.participants u.participants →
      todo.foldlM (abortParticipant now) u = .ok s' →
      List.Forall₂ (DuringAbort mid []) s.participants s'.participants := by
    intro todo
    induction todo with
    | nil =>
      rintro u - hpre ⟨⟩
      exact hpre
    | cons row todo ih =>
      intro u hmem hpre hfold
      obtain ⟨v, hv, hfold⟩ := bind_eq_ok.mp (by simpa using hfold)
      have hrow := hmem row (by simp)
      exact ih v (fun r hr => hmem r (by simp [hr]))
        (duringAbort_step hs hrow.1 hrow.2 hpre hv) hfold
  refine hloop _ t (fun r hr => ?_) ?_ h
  · simpa [participantRows, ht] using hr
  · rw [ht]
    refine List.forall₂_same.mpr fun p hp => ⟨⟨rfl, rfl, .inl rfl⟩, ?_⟩
    by_cases hm : p.migrationId = mid
    · exact .inl (by simp [participantRows, ht, hp, hm])
    · exact .inr (.inl hm)

/-- The inserts of a new migration add undecided rows and keep the key. -/
theorem insertLoop {ps : List Participant} (hn : (s.participants.map (·.participantId)).Nodup)
    (h : ps.foldlM (insertParticipant py) s = .ok s') :
    ∃ news, s'.participants = s.participants ++ news ∧
      (s'.participants.map (·.participantId)).Nodup ∧
      ∀ p ∈ news, p.status = .discovered ∧ ∃ q ∈ ps, p.migrationId = q.migrationId := by
  induction ps generalizing s with
  | nil =>
    obtain ⟨⟩ := h
    exact ⟨[], by simp, hn, by simp⟩
  | cons q ps ih =>
    obtain ⟨t, ht, h⟩ := bind_eq_ok.mp (by simpa using h)
    obtain ⟨row, rfl, hid, hmid, hst, hfree⟩ := insertParticipant_cases ht
    have hn' : ((s.participants ++ [row]).map (·.participantId)).Nodup := by
      rw [List.map_append, List.nodup_append]
      refine ⟨hn, by simp, fun a ha b hb hab => ?_⟩
      obtain ⟨r, hr, rfl⟩ := List.mem_map.mp ha
      obtain rfl : b = row.participantId := by simpa using hb
      exact hfree r hr hab
    obtain ⟨news, hnews, hnodup, hall⟩ := ih hn' h
    refine ⟨row :: news, by simpa using hnews, hnodup, fun p hp => ?_⟩
    rcases List.mem_cons.mp hp with rfl | hp
    · exact ⟨hst, q, by simp, hmid⟩
    · obtain ⟨hd, q', hq', he⟩ := hall p hp
      exact ⟨hd, q', by simp [hq'], he⟩

end Store

/-- How a call may move a participant row: while its migration is open, by the
transition of that participant or by the abort of its migration. -/
def StoreCall.MovesRow (s : Store) (p p' : ParticipantRow) : StoreCall → Prop
  | .transitionParticipant pid target e _ _ _ _ _ =>
    p.participantId = pid ∧ p.status = e ∧ canTransitionParticipant e target = true ∧
      p'.status = target ∧ ∃ st, s.status? p.migrationId = some st ∧ st.isTerminal = false
  | .abortMigration mid _ e _ =>
    Store.AbortedWith mid p p' ∧ s.status? mid = some e ∧ e.isTerminal = false
  | _ => False

section Steps
variable {py : Python} {now : String} {s s' : Store} {c : StoreCall}
open Store

theorem ids_of_updates {moved : ParticipantRow → ParticipantRow → Prop}
    {l l' : List ParticipantRow} (h : List.Forall₂ (Update moved) l l') :
    l'.map (·.participantId) = l.map (·.participantId) := by
  induction h with
  | nil => rfl
  | cons hp _ ih => simp [hp.participantId, ih]

/-- Where a row of the new store comes from. -/
theorem exists_origin {R : ParticipantRow → ParticipantRow → Prop} {l l' : List ParticipantRow}
    (h : List.Forall₂ R l l') {p' : ParticipantRow} (hp' : p' ∈ l') : ∃ p ∈ l, R p p' := by
  induction h with
  | nil => simp at hp'
  | cons hp _ ih =>
    rcases List.mem_cons.mp hp' with rfl | hp'
    · exact ⟨_, by simp, hp⟩
    · obtain ⟨p, hmem, hR⟩ := ih hp'
      exact ⟨p, by simp [hmem], hR⟩

/-- Updates that move no row of a migration leave its rows as they are. -/
theorem filter_of_updates {moved : ParticipantRow → ParticipantRow → Prop} {mid : String}
    (hmoved : ∀ p p', moved p p' → p.migrationId ≠ mid) {l l' : List ParticipantRow}
    (h : List.Forall₂ (Update moved) l l') :
    l'.filter (fun p => p.migrationId = mid) = l.filter (fun p => p.migrationId = mid) := by
  induction h with
  | nil => rfl
  | cons hupd _ ih =>
    rcases hupd.change with rfl | hm
    · simp [List.filter_cons, ih]
    · have hne := hmoved _ _ hm
      simp [hne, hupd.migrationId, ih]

theorem onlyOlds {moved : ParticipantRow → ParticipantRow → Prop}
    (hs : s.Keyed) (h : List.Forall₂ (Update moved) s.participants s'.participants) :
    (s'.participants.map (·.participantId)).Nodup ∧
    ∃ olds news, s'.participants = olds ++ news ∧
      List.Forall₂ (Update moved) s.participants olds ∧
      ∀ p ∈ news, p.status = .discovered ∧ s'.status? p.migrationId = some .detected :=
  ⟨ids_of_updates h ▸ hs.unique, s'.participants, [], by simp, h, by simp⟩

theorem updates_refl (moved : ParticipantRow → ParticipantRow → Prop) (l : List ParticipantRow) :
    List.Forall₂ (Update moved) l l :=
  List.forall₂_same.mpr fun _ _ => ⟨rfl, rfl, .inl rfl⟩

/-- The participants after a call: the old rows, moved as the call may, and then
the undecided rows of a new migration. -/
theorem StoreCall.participants_step (hs : s.Keyed) (h : c.run py now s = .ok s') :
    (s'.participants.map (·.participantId)).Nodup ∧
    ∃ olds news, s'.participants = olds ++ news ∧
      List.Forall₂ (Update (c.MovesRow s)) s.participants olds ∧
      ∀ p ∈ news, p.status = .discovered ∧ s'.status? p.migrationId = some .detected := by
  have hmoves := StoreCall.moves h
  cases c with
  | createMigration i ps =>
    obtain ⟨r, hr, ⟨⟩⟩ := bind_eq_ok.mp h
    obtain ⟨hmid, -, hnone, -, t, ht, hs'⟩ := createMigration_cases hr
    obtain ⟨news, hnews, hnodup, hall⟩ := insertLoop (by exact hs.unique) ht
    refine ⟨by rw [hs']; exact hnodup, s.participants, news, by rw [hs']; exact hnews,
      updates_refl _ _, fun p hp => ?_⟩
    obtain ⟨hd, q, hq, he⟩ := hall p hp
    refine ⟨hd, ?_⟩
    have hm := hmoves p.migrationId
    simp only [Moves, he, hmid q hq, if_true] at hm
    rw [he, hmid q hq]
    exact congrArg Race.status hm.2
  | armPublicationGate m v =>
    obtain ⟨row, -, -, -, -, ⟨-, rfl⟩ | rfl⟩ := armPublicationGate_cases h
    · exact onlyOlds hs (updates_refl _ _)
    · exact onlyOlds hs (updates_refl _ _)
  | reserveAbortCleanup m e v =>
    obtain ⟨row, -, -, -, -, ⟨-, rfl⟩ | rfl⟩ := reserveAbortCleanup_cases h
    · exact onlyOlds hs (updates_refl _ _)
    · exact onlyOlds hs (updates_refl _ _)
  | transitionMigration m target e v ev payload receipts =>
    obtain ⟨r, hr, ⟨⟩⟩ := bind_eq_ok.mp h
    obtain ⟨-, -, -, -, row, t, -, -, -, -, ht, hs', -⟩ := transitionMigration_cases hr
    obtain ⟨-, rfl⟩ := updateMigration_eq_ok.mp ht
    refine onlyOlds hs ?_
    rw [hs']
    exact updates_refl _ _
  | abortMigration m receipt e v =>
    obtain ⟨r, hr, ⟨⟩⟩ := bind_eq_ok.mp h
    obtain ⟨-, -, -, row, t, u, hrow, hst, -, hcan, ht, hu, hloop, -⟩ := abortMigration_cases hr
    obtain ⟨-, rfl⟩ := updateMigration_eq_ok.mp ht
    refine onlyOlds hs ((abortLoop hs (by rw [hu]; rfl) hloop).imp ?_)
    rintro p p' ⟨⟨hid, hmid, hchange⟩, -⟩
    refine ⟨hid, hmid, hchange.imp_right fun hab => ⟨hab, ?_, not_terminal_of_canTransition hcan⟩⟩
    rw [status?_of_row hrow, hst]
  | transitionParticipant pid target e v ev payload sha links =>
    obtain ⟨r, hr, ⟨⟩⟩ := bind_eq_ok.mp h
    obtain ⟨row, parent, value, t, hrow, hparent, hopen, hst, -, hcan, -, -, ht, -, hs'⟩ :=
      transitionParticipant_cases hr
    obtain ⟨-, rfl⟩ := updateParticipant_eq_ok.mp ht
    refine onlyOlds hs ?_
    rw [hs']
    refine List.forall₂_map_right_iff.mpr (List.forall₂_same.mpr fun p hp => ?_)
    cases hhit : hitsParticipant pid e v p with
    | false => exact ⟨rfl, rfl, .inl rfl⟩
    | true =>
      simp only [hitsParticipant, Bool.and_eq_true, decide_eq_true_eq] at hhit
      have hid : row.participantId = pid := by simpa using List.find?_some hrow
      obtain rfl := hs.eq_of_id hp (List.mem_of_find?_eq_some hrow) (hhit.1.1.trans hid.symm)
      exact ⟨rfl, rfl, .inr ⟨hid, hst, hcan, rfl, parent.status, status?_of_row hparent, hopen⟩⟩
  | recordApproval receipt =>
    obtain ⟨row, parent, p, i, -, -, -, -, -, -, -, -, -, -, rfl⟩ := recordApproval_cases h
    exact onlyOlds hs (updates_refl _ _)

theorem Store.Keyed.step (hs : s.Keyed) (h : c.run py now s = .ok s') : s'.Keyed := by
  obtain ⟨hnodup, olds, news, hps, holds, hnews⟩ := StoreCall.participants_step hs h
  refine ⟨hnodup, ?_⟩
  intro p' hp'
  rw [hps] at hp'
  rcases List.mem_append.mp hp' with hold | hnew
  · obtain ⟨p, hp, hupd⟩ := exists_origin holds hold
    rw [hupd.migrationId]
    exact StoreCall.known h (hs.parents p hp)
  · rw [(hnews p' hnew).2]
    simp

/-- A participant row after a call was there before, moved as the call may, or is
one of the undecided rows of a new migration. -/
theorem StoreCall.row_cases (hs : s.Keyed) (h : c.run py now s = .ok s') {p' : ParticipantRow}
    (hp' : p' ∈ s'.participants) :
    (∃ p ∈ s.participants, Update (c.MovesRow s) p p') ∨
      (p'.status = .discovered ∧ s'.status? p'.migrationId = some .detected) := by
  obtain ⟨-, olds, news, hps, holds, hnews⟩ := StoreCall.participants_step hs h
  rw [hps] at hp'
  exact (List.mem_append.mp hp').imp (exists_origin holds) (hnews p')

/-- Only the open participants of open migrations move. -/
theorem StoreCall.MovesRow.open {p p' : ParticipantRow} (h : c.MovesRow s p p') :
    ∃ st, s.status? p.migrationId = some st ∧ st.isTerminal = false := by
  cases c with
  | transitionParticipant => exact h.2.2.2.2
  | abortMigration mid receipt e v => exact ⟨e, by rw [h.1.1]; exact h.2.1, h.2.2⟩
  | _ => exact h.elim

end Steps
end LineageTX
