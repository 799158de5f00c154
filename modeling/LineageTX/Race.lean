import LineageTX.StoreSteps

/-! The race between the abort of a migration and the release of its Producer
gate: the abstract state of one migration, what each store call does to it, and
the runs in which no migration holds both sides. -/
namespace LineageTX
open Library
variable {py : Python} {now : String}

/-- What the race needs to know of one migration. -/
structure Race where
  status : Option MigrationStatus
  armed : Bool
  reserved : Bool
  deriving DecidableEq

/-- Not both sides, not armed once aborted, not reserved once committed. -/
structure Race.Exclusive (r : Race) : Prop where
  oneSide : ¬(r.armed = true ∧ r.reserved = true)
  aborted : r.status = some .aborted → r.armed = false
  committed : r.status = some .committed → r.reserved = false

def Store.race (s : Store) (mid : String) : Race where
  status := s.status? mid
  armed := s.hasMigrationEvent mid gateArmedEvent
  reserved := s.hasMigrationEvent mid abortReservedEvent

def PlainEvent (ev : String) : Prop := ev ≠ gateArmedEvent ∧ ev ≠ abortReservedEvent

instance (ev : String) : Decidable (PlainEvent ev) :=
  inferInstanceAs (Decidable (ev ≠ gateArmedEvent ∧ ev ≠ abortReservedEvent))

/-- The caller does not pass a reserved event name. -/
def StoreCall.Plain : StoreCall → Prop
  | .transitionMigration _ _ _ _ ev _ _ => PlainEvent ev
  | .transitionParticipant _ _ _ _ ev _ _ _ => PlainEvent ev
  | _ => True

instance : (c : StoreCall) → Decidable c.Plain
  | .transitionMigration _ _ _ _ ev _ _ =>
    inferInstanceAs (Decidable (PlainEvent ev))
  | .transitionParticipant _ _ _ _ ev _ _ _ => inferInstanceAs (Decidable (PlainEvent ev))
  | .createMigration .. | .armPublicationGate .. | .reserveAbortCleanup .. | .abortMigration ..
  | .recordApproval .. => .isTrue trivial

/-- What a successful call did to the race of migration `mid`. -/
def StoreCall.Moves (mid : String) (r r' : Race) : StoreCall → Prop
  | .createMigration i _ =>
    if i.migrationId = mid then r.status = none ∧ r' = { r with status := some .detected }
    else r' = r
  | .armPublicationGate m _ =>
    if m = mid then
      r.status = some .prepared ∧ r.reserved = false ∧ r' = { r with armed := true }
    else r' = r
  | .reserveAbortCleanup m e _ =>
    if m = mid then r.status = some e ∧ r.armed = false ∧ r' = { r with reserved := true }
    else r' = r
  | .transitionMigration m target e _ ev _ _ =>
    if m = mid then
      r.status = some e ∧ canTransition e target = true ∧ target ≠ .aborted ∧
        r'.status = some target ∧ (PlainEvent ev → r' = { r with status := some target })
    else r' = r
  | .abortMigration m receipt e _ =>
    if m = mid then
      r.status = some e ∧ r.armed = false ∧ canTransition e .aborted = true ∧
        receipt.cleanupErrors = [] ∧ r' = { r with status := some .aborted }
    else r' = r
  | .transitionParticipant _ _ _ _ ev _ _ _ => r'.status = r.status ∧ (PlainEvent ev → r' = r)
  | .recordApproval _ => r' = r

section Frame
variable {s s' : Store}

theorem armed_ne_reserved : (gateArmedEvent == abortReservedEvent) = false := by decide

theorem reserved_ne_armed : (abortReservedEvent == gateArmedEvent) = false := by decide

theorem Store.SameMigrations.race (h : Store.SameMigrations s s') (mid : String) :
    s'.race mid = s.race mid := by
  simp only [Store.race, h.status? mid, h.events mid gateArmedEvent (by decide),
    h.events mid abortReservedEvent (by decide)]

theorem race_appendEvent (s : Store) (mid mid' pid t : String) (f : Option EventStatus)
    (e : EventStatus) (v : Int) (p : List (String × Json)) (at' : String) :
    (s.appendEvent mid pid t f e v p at').race mid' =
      { s.race mid' with
        armed := (s.race mid').armed || (mid == mid' && t == gateArmedEvent)
        reserved := (s.race mid').reserved || (mid == mid' && t == abortReservedEvent) } := by
  simp [Store.race]

/-- An event of another name leaves every race alone. -/
theorem race_appendEvent_plain (s : Store) {t : String} (ht : PlainEvent t) (mid mid' pid : String) (f : Option EventStatus)
    (e : EventStatus) (v : Int) (p : List (String × Json)) (at' : String) :
    (s.appendEvent mid pid t f e v p at').race mid' = s.race mid' := by
  simp [race_appendEvent, beq_false_of_ne ht.1, beq_false_of_ne ht.2]

theorem race_updateMigration {mid : String} {row : MigrationRow} {tgt : MigrationStatus}
    (hr : s.migrationRow? mid = some row)
    (h : s.updateMigration mid row.status tgt row.version now = .ok s') (mid' : String) :
    s'.race mid' =
      if mid = mid' then { s.race mid' with status := some tgt } else s.race mid' := by
  simp only [Store.race, Store.status?_updateMigration hr h,
    Store.hasMigrationEvent_updateMigration h]
  by_cases hm : mid = mid'
  · simp [hm]
  · simp [hm, Ne.symm hm]

theorem race_updateParticipant {pid : String} {cur tgt : ParticipantStatus} {v : Int} {value : Json}
    (h : s.updateParticipant pid cur tgt v value now = .ok s') (mid : String) :
    s'.race mid = s.race mid := by
  obtain ⟨-, rfl⟩ := Store.updateParticipant_eq_ok.mp h
  rfl

theorem race_newMigration (s : Store) (row : MigrationRow) (h : s.migrationRow? row.migrationId = none)
    (mid : String) : ({ s with migrations := s.migrations ++ [row] } : Store).race mid =
      if row.migrationId = mid then { s.race mid with status := some row.status }
      else s.race mid := by
  have hrow : ({ s with migrations := s.migrations ++ [row] } : Store).status? mid =
      if row.migrationId = mid then some row.status else s.status? mid := by
    simp only [Store.status?, Store.migrationRow?, List.find?_append] at h ⊢
    split
    · next hm => subst hm; simp [h]
    · next hm => simp [hm]
  simp only [Store.race, hrow]
  split <;> rfl

end Frame

/-- A successful call moves every race as `Moves` says. -/
theorem StoreCall.moves {s s' : Store} {c : StoreCall} (h : c.run py now s = .ok s')
    (mid : String) : c.Moves mid (s.race mid) (s'.race mid) := by
  cases c with
  | createMigration i ps =>
    obtain ⟨r, hr, ⟨⟩⟩ := bind_eq_ok.mp h
    obtain ⟨-, -, hnone, -, t, ht, hs⟩ := Store.createMigration_cases hr
    have hrace := (Store.sameMigrations_foldlM
      (fun h => Store.sameMigrations_insertParticipant h) ht).race mid
    rw [race_newMigration s _ hnone] at hrace
    simp only [Moves, hs, race_appendEvent_plain t (t := "MIGRATION_DETECTED") (by decide), hrace]
    split
    · next hm => exact ⟨by subst hm; simp [Store.race, Store.status?, hnone], rfl⟩
    · rfl
  | armPublicationGate m v =>
    obtain ⟨row, hr, hst, -, hres, hs⟩ := Store.armPublicationGate_cases h
    have hstatus := Store.status?_of_row hr
    simp only [Moves]
    split
    · next hm =>
      subst hm
      refine ⟨by rw [Store.race, hstatus, hst], hres, ?_⟩
      rcases hs with ⟨harm, rfl⟩ | rfl
      · simp [Store.race, harm]
      · simp [race_appendEvent, armed_ne_reserved]
    · next hm =>
      rcases hs with ⟨-, rfl⟩ | rfl
      · rfl
      · simp [race_appendEvent, beq_false_of_ne hm]
  | reserveAbortCleanup m e v =>
    obtain ⟨row, hr, hst, -, harm, hs⟩ := Store.reserveAbortCleanup_cases h
    have hstatus := Store.status?_of_row hr
    simp only [Moves]
    split
    · next hm =>
      subst hm
      refine ⟨by rw [Store.race, hstatus, hst], harm, ?_⟩
      rcases hs with ⟨hres, rfl⟩ | rfl
      · simp [Store.race, hres]
      · simp [race_appendEvent, reserved_ne_armed]
    · next hm =>
      rcases hs with ⟨-, rfl⟩ | rfl
      · rfl
      · simp [race_appendEvent, beq_false_of_ne hm]
  | transitionMigration m target e v ev payload receipts =>
    obtain ⟨r, hr, ⟨⟩⟩ := bind_eq_ok.mp h
    obtain ⟨htarget, -, -, -, row, t, hrow, hst, -, hcan, ht, hs, -⟩ :=
      Store.transitionMigration_cases hr
    simp only [Moves, hs]
    split
    · next hm =>
      subst hm
      refine ⟨by rw [Store.race, Store.status?_of_row hrow, hst], hcan, htarget, ?_, fun hev => ?_⟩
      · simp [race_appendEvent, race_updateMigration hrow ht]
      · simp [race_appendEvent_plain t hev, race_updateMigration hrow ht]
    · next hm => simp [race_appendEvent, race_updateMigration hrow ht, hm, beq_false_of_ne hm]
  | abortMigration m receipt e v =>
    obtain ⟨r, hr, ⟨⟩⟩ := bind_eq_ok.mp h
    obtain ⟨-, herr, harm, row, t, u, hrow, hst, -, hcan, ht, hu, hloop, -⟩ :=
      Store.abortMigration_cases hr
    have hrace := (Store.sameMigrations_foldlM
      (fun h => Store.sameMigrations_abortParticipant h) hloop).race mid
    rw [hu, race_appendEvent_plain t (by decide), race_updateMigration hrow ht] at hrace
    simp only [Moves, hrace]
    split
    · next hm =>
      subst hm
      exact ⟨by rw [Store.race, Store.status?_of_row hrow, hst], harm, hcan, herr, rfl⟩
    · rfl
  | transitionParticipant pid target e v ev payload sha links =>
    obtain ⟨r, hr, ⟨⟩⟩ := bind_eq_ok.mp h
    obtain ⟨row, parent, value, t, -, -, -, -, -, -, -, -, ht, -, hs⟩ :=
      Store.transitionParticipant_cases hr
    refine ⟨by simp [hs, race_appendEvent, race_updateParticipant ht], fun hev => ?_⟩
    rw [hs, race_appendEvent_plain t hev, race_updateParticipant ht]
  | recordApproval receipt =>
    obtain ⟨row, parent, p, i, -, -, -, -, -, -, -, -, -, -, rfl⟩ := Store.recordApproval_cases h
    simp only [Moves, race_appendEvent_plain _ (t := "OWNER_APPROVAL_RECORDED") (by decide)]
    rfl

theorem not_terminal_of_canTransition {e target : MigrationStatus}
    (h : canTransition e target = true) : e.isTerminal = false := by
  cases e <;> cases target <;> first | rfl | exact absurd h (by decide)

/-- A terminal status is final. -/
theorem StoreCall.terminal_final {s s' : Store} {c : StoreCall} (h : c.run py now s = .ok s')
    {mid : String} {st : MigrationStatus} (hst : s.status? mid = some st)
    (hterm : st.isTerminal = true) : s'.status? mid = some st := by
  have hm := StoreCall.moves h mid
  have hopen : ∀ {e target}, (s.race mid).status = some e → canTransition e target = true → False := by
    intro e target he hcan
    obtain rfl : st = e := Option.some.inj (hst.symm.trans he)
    rw [not_terminal_of_canTransition hcan] at hterm
    cases hterm
  have hsame : s'.race mid = s.race mid → s'.status? mid = some st := by
    intro he
    exact (congrArg Race.status he).trans hst
  cases c with
  | createMigration =>
    simp only [Moves] at hm
    split at hm
    · exact absurd (hst.symm.trans hm.1) (by simp)
    · exact hsame hm
  | armPublicationGate =>
    simp only [Moves] at hm
    split at hm
    · exact (congrArg Race.status hm.2.2).trans hst
    · exact hsame hm
  | reserveAbortCleanup =>
    simp only [Moves] at hm
    split at hm
    · exact (congrArg Race.status hm.2.2).trans hst
    · exact hsame hm
  | transitionMigration =>
    simp only [Moves] at hm
    split at hm
    · exact (hopen hm.1 hm.2.1).elim
    · exact hsame hm
  | abortMigration =>
    simp only [Moves] at hm
    split at hm
    · exact (hopen hm.1 hm.2.2.1).elim
    · exact hsame hm
  | transitionParticipant => exact hm.1.trans hst
  | recordApproval => exact hsame hm

/-- A known migration stays known. -/
theorem StoreCall.known {s s' : Store} {c : StoreCall} (h : c.run py now s = .ok s') {mid : String}
    (hst : s.status? mid ≠ none) : s'.status? mid ≠ none := by
  have hm := StoreCall.moves h mid
  have hsame : s'.race mid = s.race mid → s'.status? mid ≠ none := by
    intro he hn
    exact hst ((congrArg Race.status he).symm.trans hn)
  have hnew : ∀ {st : MigrationStatus}, (s'.race mid).status = some st → s'.status? mid ≠ none := by
    intro st he hn
    exact absurd (he.symm.trans hn) (by simp)
  cases c with
  | transitionParticipant => exact fun hn => hst (hm.1.symm.trans hn)
  | recordApproval => exact hsame hm
  | createMigration =>
    simp only [Moves] at hm
    split at hm
    · exact hnew (congrArg Race.status hm.2)
    · exact hsame hm
  | armPublicationGate =>
    simp only [Moves] at hm
    split at hm
    · exact hnew ((congrArg Race.status hm.2.2).trans hm.1)
    · exact hsame hm
  | reserveAbortCleanup =>
    simp only [Moves] at hm
    split at hm
    · exact hnew ((congrArg Race.status hm.2.2).trans hm.1)
    · exact hsame hm
  | transitionMigration =>
    simp only [Moves] at hm
    split at hm
    · exact hnew hm.2.2.2.1
    · exact hsame hm
  | abortMigration =>
    simp only [Moves] at hm
    split at hm
    · exact hnew (congrArg Race.status hm.2.2.2.2)
    · exact hsame hm

end LineageTX
