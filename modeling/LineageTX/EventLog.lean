import LineageTX.StorePieces
import LineageTX.Library.History

/-! The event log: what it tells of a migration or a participant replays to the status
and version that the store holds of it. -/
namespace LineageTX
open Library Store

/-- What has a status and a version. -/
inductive Entity where
  | migration (id : String)
  | participant (id : String)
  deriving DecidableEq

def EventStatus.can : EventStatus → EventStatus → Bool
  | .migration current, .migration target => canTransition current target
  | .participant current, .participant target => canTransitionParticipant current target
  | _, _ => false

/-- The status and version stored for an entity. -/
def Store.standing (s : Store) : Entity → Option (EventStatus × Int)
  | .migration id => (s.migrationRow? id).map fun r => (.migration r.status, r.version)
  | .participant id => (s.participants.find? fun r => r.participantId == id).map
      fun r => (.participant r.status, r.version)

def EventRow.about (e : EventRow) : Entity :=
  match e.participantId with
  | none => .migration e.migrationId
  | some id => .participant id

/-- What an event says of its entity: where from, where to and the version there. -/
def EventRow.told (e : EventRow) : Option EventStatus × EventStatus × Int :=
  (e.fromStatus, e.toStatus, e.version)

def Store.history (s : Store) (x : Entity) : List EventRow :=
  s.events.filter fun e => e.about = x

/-- The events form a chain of notes and allowed moves between two standings. -/
def Tells (start : EventStatus × Int) (events : List EventRow) (final : EventStatus × Int) : Prop :=
  ∃ links : List (Link EventStatus), events.map EventRow.told =
    links.map (fun l => (some l.source, l.target, l.version)) ∧
    Replays EventStatus.can start links final

/-- The chain of an entity: a migration is detected first, a participant is discovered
with its migration. -/
def Chain : Entity → List EventRow → EventStatus × Int → Prop
  | .migration _, events, final => ∃ first rest, events = first :: rest ∧
      first.told = (none, .migration .detected, 0) ∧ Tells (.migration .detected, 0) rest final
  | .participant _, events, final => Tells (.participant .discovered, 0) events final

/-- The log is gap-free, and its chains end where the rows and documents stand. -/
structure Store.Faithful (s : Store) : Prop where
  sequences : ∀ mid, (s.events.filter fun e => e.migrationId = mid).map EventRow.sequence =
    List.range' 1 (s.events.filter fun e => e.migrationId = mid).length
  chains : ∀ x final, s.standing x = some final → Chain x (s.history x) final
  documented : ∀ p ∈ s.participants, p.Documented
  named : ∀ p ∈ s.participants, p.participantId ≠ ""
  known : ∀ e ∈ s.events, s.standing (.migration e.migrationId) ≠ none ∧
    ∀ pid, e.participantId = some pid → (pid, e.migrationId) ∈ s.owners

section Standing
variable {py : Python} {now mid : String} {s s' : Store} {x : Entity}

theorem find_participant (hs : s.Keyed) {p : ParticipantRow} (hp : p ∈ s.participants) :
    s.participants.find? (fun r => r.participantId == p.participantId) = some p := by
  cases hf : s.participants.find? fun r => r.participantId == p.participantId with
  | none => exact absurd (List.find?_eq_none.mp hf p hp) (by simp)
  | some q =>
    have hid : q.participantId = p.participantId := by simpa using List.find?_some hf
    rw [hs.eq_of_id (List.mem_of_find?_eq_some hf) hp hid]

theorem standing_participant (hs : s.Keyed) {p : ParticipantRow} (hp : p ∈ s.participants) :
    s.standing (.participant p.participantId) = some (.participant p.status, p.version) := by
  simp [Store.standing, find_participant hs hp]

theorem standing_of_owner {pid : String} (h : (pid, mid) ∈ s.owners) :
    s.standing (.participant pid) ≠ none := by
  obtain ⟨p, hp, he⟩ := List.mem_map.mp h
  simp only [Prod.mk.injEq] at he
  simp only [Store.standing, ne_eq, Option.map_eq_none_iff, List.find?_eq_none, not_forall]
  exact ⟨p, hp, by simp [he.1]⟩

@[simp] theorem standing_appendEvent (mid pid ev : String) (f : Option EventStatus) (t : EventStatus)
    (v : Int) (payload : List (String × Json)) (at' : String) :
    (s.appendEvent mid pid ev f t v payload at').standing x = s.standing x := by
  cases x <;> rfl

theorem standing_updateMigration {row : MigrationRow} {target : MigrationStatus}
    (hr : s.migrationRow? mid = some row)
    (h : s.updateMigration mid row.status target row.version now = .ok s') :
    s'.standing x = if x = .migration mid then some (.migration target, row.version + 1)
      else s.standing x := by
  cases x with
  | migration id =>
    have hrow := migrationRow?_updateMigration hr h id
    by_cases hid : id = mid
    · subst hid
      simp [Store.standing, hrow]
    · simp [Store.standing, hrow, hid]
  | participant id =>
    obtain ⟨-, rfl⟩ := updateMigration_eq_ok.mp h
    rfl

theorem standing_updateParticipant (hs : s.Keyed) {pid : String} {cur target : ParticipantStatus}
    {v : Int} {value : Json} (h : s.updateParticipant pid cur target v value now = .ok s') :
    s'.standing x = if x = .participant pid then some (.participant target, v + 1)
      else s.standing x := by
  obtain ⟨p, hp, hid, hst, hv⟩ := exists_hit h
  obtain ⟨-, rfl⟩ := updateParticipant_eq_ok.mp h
  cases x with
  | migration id => rfl
  | participant id =>
    have hsame : ∀ r : ParticipantRow, (bif hitsParticipant pid cur v r then
        { r with participantJson := value, status := target, version := v + 1, updatedAt := now }
        else r).participantId = r.participantId := by
      intro r
      cases hitsParticipant pid cur v r <;> rfl
    simp only [Store.standing, List.find?_map, Function.comp_def, hsame, Option.map_map]
    by_cases hne : id = pid
    · subst hne hid
      rw [find_participant hs hp]
      simp [hitsParticipant, hst, hv]
    · cases hf : s.participants.find? fun r => r.participantId == id with
      | none => simp [hne]
      | some q =>
        have hq : q.participantId = id := by simpa using List.find?_some hf
        simp [hitsParticipant, hq, hne]

end Standing

section Chains
variable {start final : EventStatus × Int} {events : List EventRow} {e : EventRow} {x : Entity}

theorem EventStatus.ne_of_can {current target : EventStatus} (h : current.can target = true) :
    target ≠ current := by
  rintro rfl
  cases target with
  | migration st => cases st <;> exact absurd h (by decide)
  | participant st => cases st <;> exact absurd h (by decide)

theorem Tells.note (h : Tells start events final) (he : e.told = (some final.1, final.1, final.2)) :
    Tells start (events ++ [e]) final := by
  obtain ⟨links, hlinks, hreplays⟩ := h
  exact ⟨_, by simp [hlinks, he], hreplays.note⟩

theorem Tells.move (h : Tells start events final) {target : EventStatus}
    (hcan : final.1.can target = true) (he : e.told = (some final.1, target, final.2 + 1)) :
    Tells start (events ++ [e]) (target, final.2 + 1) := by
  obtain ⟨links, hlinks, hreplays⟩ := h
  exact ⟨_, by simp [hlinks, he], hreplays.move hcan (EventStatus.ne_of_can hcan)⟩

/-- An event that continues what is told of an entity continues its chain. -/
theorem Chain.append {final' : EventStatus × Int} (h : Chain x events final)
    (hstep : ∀ start rest, Tells start rest final → Tells start (rest ++ [e]) final') :
    Chain x (events ++ [e]) final' := by
  cases x with
  | migration id =>
    obtain ⟨first, rest, rfl, hfirst, htells⟩ := h
    exact ⟨first, rest ++ [e], rfl, hfirst, hstep _ _ htells⟩
  | participant id => exact hstep _ _ h

end Chains

/-- What the piece that appended an event did to the standings. -/
inductive Effect (mid : String) (s s' : Store) (e : EventRow) : Prop
  | detects (hfree : s.standing (.migration mid) = none) (habout : e.about = .migration mid)
      (hnote : e.told = (none, .migration .detected, 0))
      (hafter : s'.standing (.migration mid) = some (.migration .detected, 0))
      (hrest : ∀ x, x ≠ .migration mid → s'.standing x = s.standing x ∨
        ∃ pid, x = .participant pid ∧ s.standing x = none ∧
          s'.standing x = some (.participant .discovered, 0))
  | notes (final : EventStatus × Int) (hat : s.standing e.about = some final)
      (hnote : e.told = (some final.1, final.1, final.2))
      (hafter : ∀ x, s'.standing x = s.standing x)
  | moves (final : EventStatus × Int) (target : EventStatus)
      (hat : s.standing e.about = some final) (hcan : final.1.can target = true)
      (hnote : e.told = (some final.1, target, final.2 + 1))
      (hafter : ∀ x, s'.standing x =
        if x = e.about then some (target, final.2 + 1) else s.standing x)

/-- The event that a piece appends. -/
structure Appends (mid : String) (s s' : Store) (e : EventRow) : Prop where
  events : s'.events = s.events ++ [e]
  migrationId : e.migrationId = mid
  sequence : e.sequence = s.nextSequence mid
  owner : ∀ pid, e.participantId = some pid → (pid, mid) ∈ s.owners
  effect : Effect mid s s' e

section Pieces
variable {now mid : String} {s s' : Store}

theorem standing_migration {row : MigrationRow} (h : s.migrationRow? mid = some row) :
    s.standing (.migration mid) = some (.migration row.status, row.version) := by
  simp [Store.standing, h]

theorem Piece.appends (hs : s.Keyed) (hnamed : ∀ p ∈ s.participants, p.participantId ≠ "")
    (h : Piece now mid s s') : ∃ e, Appends mid s s' e := by
  cases h with
  | create row news payload at' hfree hrow hnews hids =>
    refine ⟨_, rfl, rfl, rfl, by simp, .detects (by simp [Store.standing, hfree]) rfl rfl ?_ ?_⟩
    · rw [standing_appendEvent, @standing_migration _ _ row, hrow.2.1, hrow.2.2]
      simp only [Store.migrationRow?] at hfree
      simp [Store.migrationRow?, hfree, hrow.1]
    · intro x hx
      rw [standing_appendEvent]
      cases x with
      | migration id =>
        have hne : id ≠ mid := fun he => hx (he ▸ rfl)
        simp [Store.standing, Store.migrationRow?, hrow.1, Ne.symm hne]
      | participant id =>
        simp only [Store.standing, List.find?_append]
        cases hold : s.participants.find? fun r => r.participantId == id with
        | some p => exact .inl rfl
        | none =>
          cases hnew : news.find? fun r => r.participantId == id with
          | none => exact .inl rfl
          | some p =>
            have hp := hnews p (List.mem_of_find?_eq_some hnew)
            exact .inr ⟨id, rfl, rfl, by simp [hp.status, hp.version]⟩
  | noteMigration row ev payload at' hrow =>
    exact ⟨_, rfl, rfl, rfl, by simp, .notes _ (standing_migration hrow) rfl fun _ => by simp⟩
  | noteParticipant row approval ev payload at' hrow hmid happ =>
    have hne := hnamed row hrow
    have howner : (row.participantId, mid) ∈ s.owners := hmid ▸ List.mem_map_of_mem hrow
    refine ⟨_, rfl, rfl, rfl, by simpa [hne] using howner,
      .notes (.participant row.status, row.version) ?_ rfl fun x => ?_⟩
    · simpa [EventRow.about, hne] using standing_participant hs hrow
    · rw [standing_appendEvent]
      cases x <;> rfl
  | moveMigration row target t ev payload hrow hcan ht =>
    have hafter := fun x => standing_updateMigration (x := x) hrow ht
    obtain ⟨-, rfl⟩ := updateMigration_eq_ok.mp ht
    refine ⟨_, rfl, rfl, rfl, by simp, .moves _ (.migration target) (standing_migration hrow) hcan rfl
      fun x => ?_⟩
    rw [standing_appendEvent]
    exact hafter x
  | moveParticipant row target t doc ev payload hrow hmid hcan hdoc ht =>
    have hafter := fun x => standing_updateParticipant (x := x) hs ht
    obtain ⟨-, rfl⟩ := updateParticipant_eq_ok.mp ht
    have hne := hnamed row hrow
    have howner : (row.participantId, mid) ∈ s.owners := hmid ▸ List.mem_map_of_mem hrow
    refine ⟨_, rfl, rfl, rfl, by simpa [hne] using howner, .moves (.participant row.status, row.version)
      (.participant target) ?_ hcan rfl fun x => ?_⟩
    · simpa [EventRow.about, hne] using standing_participant hs hrow
    · rw [standing_appendEvent]
      simpa [EventRow.about, hne] using hafter x

theorem history_append {e : EventRow} (h : s'.events = s.events ++ [e]) (x : Entity) :
    s'.history x = s.history x ++ if e.about = x then [e] else [] := by
  by_cases hx : e.about = x <;> simp [Store.history, h, hx]

/-- Nothing is told of what is not stored. -/
theorem Store.Faithful.history_nil (hf : s.Faithful) {x : Entity} (h : s.standing x = none) :
    s.history x = [] := by
  refine List.filter_eq_nil_iff.mpr fun e he habout => ?_
  obtain rfl := of_decide_eq_true habout
  obtain ⟨hmid, howner⟩ := hf.known e he
  cases hp : e.participantId with
  | none => exact hmid (by simpa [EventRow.about, hp] using h)
  | some pid => exact standing_of_owner (howner pid hp) (by simpa [EventRow.about, hp] using h)

theorem foldl_max_range' (n : Nat) : (List.range' 1 n).foldl max 0 = n := by
  induction n with
  | zero => rfl
  | succ n ih =>
    rw [List.range'_1_concat, List.foldl_append, ih]
    simp only [List.foldl_cons, List.foldl_nil]
    omega

theorem Store.Faithful.nextSequence (hf : s.Faithful) (mid : String) :
    s.nextSequence mid = (s.events.filter fun e => e.migrationId = mid).length + 1 := by
  have hseq := hf.sequences mid
  simp only [Store.nextSequence, beq_eq_decide] at *
  rw [hseq, foldl_max_range']

theorem Piece.owners (h : Piece now mid s s') {o : String × String} (ho : o ∈ s.owners) :
    o ∈ s'.owners := by
  cases h with
  | create =>
    simp only [Store.owners, participants_appendEvent, List.map_append]
    exact List.mem_append_left _ ho
  | noteMigration => exact ho
  | noteParticipant => exact ho
  | moveMigration row target t ev payload hrow hcan ht =>
    obtain ⟨-, rfl⟩ := updateMigration_eq_ok.mp ht
    exact ho
  | moveParticipant row target t doc ev payload hrow hmid hcan hdoc ht =>
    have howners : t.owners = s.owners := owners_updateParticipant ht
    exact howners.symm ▸ ho

theorem Effect.kept {e : EventRow} (h : Effect mid s s' e) {x : Entity}
    (hx : s.standing x ≠ none) : s'.standing x ≠ none := by
  cases h with
  | detects hfree habout hnote hafter hrest =>
    by_cases hm : x = .migration mid
    · rw [hm, hafter]
      simp
    · rcases hrest x hm with he | ⟨_, -, hnone, -⟩
      · rwa [he]
      · exact absurd hnone hx
  | notes final hat hnote hafter => rwa [hafter]
  | moves final target hat hcan hnote hafter =>
    rw [hafter]
    split
    · simp
    · exact hx

/-- What the appended event tells continues the chains. -/
theorem Appends.chain (hf : s.Faithful) {e : EventRow} (h : Appends mid s s' e) {x : Entity}
    {final : EventStatus × Int} (hx : s'.standing x = some final) :
    Chain x (s'.history x) final := by
  rw [history_append h.events]
  cases h.effect with
  | detects hfree habout hnote hafter hrest =>
    by_cases hm : x = .migration mid
    · subst hm
      obtain rfl := Option.some.inj (hafter.symm.trans hx)
      rw [hf.history_nil hfree, if_pos habout]
      exact ⟨e, [], rfl, hnote, [], rfl, rfl⟩
    · rw [if_neg fun he => hm (he.symm.trans habout), List.append_nil]
      rcases hrest x hm with he | ⟨pid, rfl, hnone, hnew⟩
      · exact hf.chains x final (he ▸ hx)
      · obtain rfl := Option.some.inj (hnew.symm.trans hx)
        rw [hf.history_nil hnone]
        exact ⟨[], rfl, rfl⟩
  | notes final' hat hnote hafter =>
    rw [hafter] at hx
    by_cases hm : e.about = x
    · subst hm
      obtain rfl := Option.some.inj (hat.symm.trans hx)
      rw [if_pos rfl]
      exact (hf.chains _ _ hx).append fun _ _ htells => htells.note hnote
    · rw [if_neg hm, List.append_nil]
      exact hf.chains x final hx
  | moves final' target hat hcan hnote hafter =>
    rw [hafter] at hx
    by_cases hm : e.about = x
    · subst hm
      rw [if_pos rfl] at hx
      obtain rfl := Option.some.inj hx
      rw [if_pos rfl]
      exact (hf.chains _ _ hat).append fun _ _ htells => htells.move hcan hnote
    · rw [if_neg (Ne.symm hm)] at hx
      rw [if_neg hm, List.append_nil]
      exact hf.chains x final hx

theorem Appends.migration_known (hs : s.Keyed) {e : EventRow} (h : Appends mid s s' e) :
    s'.standing (.migration mid) ≠ none := by
  have hknown : s.standing e.about ≠ none → s.standing (.migration mid) ≠ none := by
    intro hne
    cases hp : e.participantId with
    | none => simpa [EventRow.about, hp, h.migrationId] using hne
    | some pid =>
      obtain ⟨p, hmem, he⟩ := List.mem_map.mp (h.owner pid hp)
      simp only [Prod.mk.injEq] at he
      simpa [Store.standing, Store.status?, he.2] using hs.parents p hmem
  cases h.effect with
  | detects hfree habout hnote hafter hrest =>
    rw [hafter]
    simp
  | notes final hat hnote hafter =>
    rw [hafter]
    exact hknown (by simp [hat])
  | moves final target hat hcan hnote hafter =>
    exact h.effect.kept (hknown (by simp [hat]))

theorem Piece.documented (hdoc : ∀ p ∈ s.participants, p.Documented)
    (h : Piece now mid s s') : ∀ p ∈ s'.participants, p.Documented := by
  cases h with
  | create row news payload at' hfree hrow hnews hids =>
    intro p hp
    rcases List.mem_append.mp hp with hp | hp
    · exact hdoc p hp
    · exact (hnews p hp).documented
  | noteMigration => exact hdoc
  | noteParticipant => exact hdoc
  | moveMigration row target t ev payload hrow hcan ht =>
    obtain ⟨-, rfl⟩ := updateMigration_eq_ok.mp ht
    exact hdoc
  | moveParticipant row target t doc ev payload hrow hmid hcan hkeeps ht =>
    obtain ⟨-, rfl⟩ := updateParticipant_eq_ok.mp ht
    intro p hp
    obtain ⟨q, hq, rfl⟩ := List.mem_map.mp hp
    cases hhit : hitsParticipant row.participantId row.status row.version q with
    | false => exact hdoc q hq
    | true =>
      -- the document has a status already, so it is an object
      have hstatus := (hkeeps "status" (by decide) (by decide)).trans (hdoc row hrow).status
      cases doc with
      | obj m =>
        exact ⟨by simp [movedDocument, Json.lookup_assign], by simp [movedDocument, Json.lookup_assign]⟩
      | _ => simp [Json.get?] at hstatus

theorem Piece.named (hnamed : ∀ p ∈ s.participants, p.participantId ≠ "")
    (h : Piece now mid s s') : ∀ p ∈ s'.participants, p.participantId ≠ "" := by
  have howners : ∀ t : Store, t.owners = s.owners → ∀ p ∈ t.participants, p.participantId ≠ "" := by
    intro t ht p hp
    have hmem : (p.participantId, p.migrationId) ∈ s.owners := ht ▸ List.mem_map_of_mem hp
    obtain ⟨q, hq, he⟩ := List.mem_map.mp hmem
    simp only [Prod.mk.injEq] at he
    exact he.1 ▸ hnamed q hq
  cases h with
  | create row news payload at' hfree hrow hnews hids =>
    intro p hp
    rcases List.mem_append.mp hp with hp | hp
    · exact hnamed p hp
    · exact (hnews p hp).participantId
  | noteMigration => exact hnamed
  | noteParticipant => exact hnamed
  | moveMigration row target t ev payload hrow hcan ht =>
    obtain ⟨-, rfl⟩ := updateMigration_eq_ok.mp ht
    exact hnamed
  | moveParticipant row target t doc ev payload hrow hmid hcan hkeeps ht =>
    exact howners t (owners_updateParticipant ht)

theorem Store.Faithful.piece (hs : s.Keyed) (hf : s.Faithful) (h : Piece now mid s s') :
    s'.Faithful := by
  obtain ⟨e, he⟩ := h.appends hs hf.named
  refine ⟨fun m => ?_, fun x final hx => he.chain hf hx, h.documented hf.documented,
    h.named hf.named, fun e' he' => ?_⟩
  · have hseq := hf.sequences m
    rw [he.events, List.filter_append]
    by_cases hm : e.migrationId = m
    · have hnext := hf.nextSequence m
      rw [he.migrationId] at hm
      simp [he.migrationId, hm, hseq, he.sequence, hnext, List.range'_1_concat, Nat.add_comm 1]
    · simp [hm, hseq]
  · rw [he.events, List.mem_append, List.mem_singleton] at he'
    rcases he' with hold | rfl
    · obtain ⟨hmid, howner⟩ := hf.known e' hold
      exact ⟨he.effect.kept hmid, fun pid hpid => h.owners (howner pid hpid)⟩
    · refine ⟨?_, fun pid hpid => h.owners (he.migrationId ▸ he.owner pid hpid)⟩
      rw [he.migrationId]
      exact he.migration_known hs

end Pieces

/-- What one call may do to the standing of an entity: begin it, or move it by one version. -/
inductive Advances : Option (EventStatus × Int) → Option (EventStatus × Int) → Prop
  | stays (st : Option (EventStatus × Int)) : Advances st st
  | begins (status : EventStatus) : Advances none (some (status, 0))
  | moves (status target : EventStatus) (version : Int) (hcan : status.can target = true) :
      Advances (some (status, version)) (some (target, version + 1))

section Calls
variable {py : Python} {now mid : String} {s s' : Store} {c : StoreCall}

theorem Effect.advances {e : EventRow} (h : Effect mid s s' e) (x : Entity) :
    Advances (s.standing x) (s'.standing x) := by
  cases h with
  | detects hfree habout hnote hafter hrest =>
    by_cases hm : x = .migration mid
    · rw [hm, hfree, hafter]
      exact .begins _
    · rcases hrest x hm with he | ⟨_, -, hnone, hnew⟩
      · rw [he]
        exact .stays _
      · rw [hnone, hnew]
        exact .begins _
  | notes final hat hnote hafter =>
    rw [hafter]
    exact .stays _
  | moves final target hat hcan hnote hafter =>
    rw [hafter]
    split
    · next hx =>
      rw [hx, hat]
      exact .moves _ _ _ hcan
    · exact .stays _

/-- The loop of an abort moves each participant once: an ABORTED one moves no more. -/
theorem abortLoop_advances {todo : List ParticipantRow} (hs : s.Keyed)
    (h : todo.foldlM (abortParticipant now) s = .ok s') (x : Entity) :
    s'.standing x = s.standing x ∨ ∃ pid st v, x = .participant pid ∧
      s.standing x = some (.participant st, v) ∧ canTransitionParticipant st .aborted = true ∧
      s'.standing x = some (.participant .aborted, v + 1) := by
  induction todo generalizing s with
  | nil =>
    obtain ⟨⟩ := h
    exact .inl rfl
  | cons row todo ih =>
    obtain ⟨u, hu, hfold⟩ := bind_eq_ok.mp (by simpa using h)
    rcases abortParticipant_cases hu with ⟨-, rfl⟩ | ⟨hopen, t, ht, rfl⟩
    · exact ih hs hfold
    · have hstanding := standing_updateParticipant (x := x) hs ht
      have hkeyed : (t.appendEvent row.migrationId row.participantId
          "PARTICIPANT_ABORTED_WITH_MIGRATION" (some (.participant row.status))
          (.participant .aborted) (row.version + 1)
          [("cleanup_scope", .str "unmerged_candidate_changes_only")] now).Keyed := by
        have howners : t.owners = s.owners := owners_updateParticipant ht
        refine hs.of_owners howners fun m hm => ?_
        obtain ⟨-, rfl⟩ := updateParticipant_eq_ok.mp ht
        exact hm
      have hloop := ih hkeyed hfold
      rw [standing_appendEvent, hstanding] at hloop
      by_cases hx : x = .participant row.participantId
      · simp only [if_pos hx] at hloop
        refine .inr ⟨row.participantId, row.status, row.version, hx, ?_, ?_, ?_⟩
        · obtain ⟨p, hp, hid, hst, hv⟩ := exists_hit ht
          rw [hx, ← hid, standing_participant hs hp, hst, hv]
        · exact hopen.canTransition
        · rcases hloop with he | ⟨pid, st, v, -, he, hcan, -⟩
          · exact he
          · simp only [Option.some.injEq, Prod.mk.injEq, EventStatus.participant.injEq] at he
            rw [← he.1] at hcan
            exact absurd hcan (by decide)
      · simpa only [if_neg hx] using hloop

theorem StoreCall.advances (hs : s.Keyed) (hf : s.Faithful) (h : c.run py now s = .ok s')
    (x : Entity) : Advances (s.standing x) (s'.standing x) := by
  by_cases hc : ∃ m receipt e v, c = .abortMigration m receipt e v
  · obtain ⟨m, receipt, e, v, rfl⟩ := hc
    obtain ⟨r, hr, ⟨⟩⟩ := bind_eq_ok.mp h
    obtain ⟨-, -, -, row, t, u, hrow, rfl, rfl, hcan, ht, rfl, hloop, -⟩ := abortMigration_cases hr
    have hmove := standing_updateMigration (x := x) hrow ht
    have hpiece : Piece now m s _ := .moveMigration row .aborted t "MIGRATION_ABORTED"
      [("cleanup", receipt.toDict)] hrow hcan ht
    have hrest := abortLoop_advances (hpiece.keyed hs) hloop x
    rw [standing_appendEvent, hmove] at hrest
    by_cases hx : x = .migration m
    · subst hx
      rcases hrest with he | ⟨pid, st, v, he, -⟩
      · rw [he, if_pos rfl, standing_migration hrow]
        exact .moves _ _ _ hcan
      · cases he
    · rw [if_neg hx] at hrest
      rcases hrest with he | ⟨pid, st, v, -, hbefore, hopen, hafter⟩
      · rw [he]
        exact .stays _
      · rw [hbefore, hafter]
        exact .moves _ _ _ hopen
  · rcases StoreCall.piece h hs.unique fun m receipt e v he => hc ⟨m, receipt, e, v, he⟩ with
      rfl | hpiece
    · exact .stays _
    · obtain ⟨e, he⟩ := hpiece.appends hs hf.named
      exact he.effect.advances x

/-- The entity and the version that a call expects to find. -/
def StoreCall.expects : StoreCall → Option (Entity × Int)
  | .createMigration _ _ => none
  | .armPublicationGate mid version => some (.migration mid, version)
  | .reserveAbortCleanup mid _ version => some (.migration mid, version)
  | .transitionMigration mid _ _ version _ _ _ => some (.migration mid, version)
  | .abortMigration mid _ _ version => some (.migration mid, version)
  | .transitionParticipant pid _ _ version _ _ _ _ => some (.participant pid, version)
  | .recordApproval _ => none

/-- A call that succeeds finds the version that it expects. -/
theorem StoreCall.expects_standing (hs : s.Keyed) (h : c.run py now s = .ok s') {x : Entity}
    {version : Int} (hx : c.expects = some (x, version)) :
    ∃ st, s.standing x = some (st, version) := by
  cases c with
  | createMigration => cases hx
  | recordApproval => cases hx
  | armPublicationGate =>
    obtain ⟨⟩ := hx
    obtain ⟨row, hrow, -, hv, -⟩ := armPublicationGate_cases h
    exact ⟨_, hv ▸ standing_migration hrow⟩
  | reserveAbortCleanup =>
    obtain ⟨⟩ := hx
    obtain ⟨row, hrow, -, hv, -⟩ := reserveAbortCleanup_cases h
    exact ⟨_, hv ▸ standing_migration hrow⟩
  | transitionMigration =>
    obtain ⟨⟩ := hx
    obtain ⟨r, hr, -⟩ := bind_eq_ok.mp h
    obtain ⟨-, -, -, -, row, t, hrow, -, hv, -⟩ := transitionMigration_cases hr
    exact ⟨_, hv ▸ standing_migration hrow⟩
  | abortMigration =>
    obtain ⟨⟩ := hx
    obtain ⟨r, hr, -⟩ := bind_eq_ok.mp h
    obtain ⟨-, -, -, row, t, u, hrow, -, hv, -⟩ := abortMigration_cases hr
    exact ⟨_, hv ▸ standing_migration hrow⟩
  | transitionParticipant =>
    obtain ⟨⟩ := hx
    obtain ⟨r, hr, -⟩ := bind_eq_ok.mp h
    obtain ⟨row, parent, value, t, hrow, -, -, -, hv, -⟩ := transitionParticipant_cases hr
    have hid := by simpa using List.find?_some hrow
    have hstanding := standing_participant hs (List.mem_of_find?_eq_some hrow)
    rw [hid, hv] at hstanding
    exact ⟨_, hstanding⟩

end Calls

section Runs
variable (py : Python) (x : Entity)

/-- The versions that the operations of a run give to an entity, in order. -/
def produced : Store → List (String × StoreCall) → List Int
  | _, [] => []
  | s, c :: calls =>
    (if (storeStep py s c).standing x = s.standing x then []
      else (((storeStep py s c).standing x).map Prod.snd).toList) ++
      produced (storeStep py s c) calls

/-- How many operations of a run expect a version of an entity and move the entity. -/
def winners (version : Int) : Store → List (String × StoreCall) → Nat
  | _, [] => 0
  | s, c :: calls =>
    (if c.2.expects = some (x, version) ∧ (storeStep py s c).standing x ≠ s.standing x then 1
      else 0) + winners version (storeStep py s c) calls

variable {py x} {s : Store} {calls : List (String × StoreCall)}

theorem Store.Faithful.step {now : String} {s' : Store} {c : StoreCall} (hs : s.Keyed)
    (hf : s.Faithful) (h : c.run py now s = .ok s') : s'.Faithful :=
  (StoreCall.pieces hs h).induct (fun hk hP hpiece => hP.piece hk hpiece) hs hf

/-- What holds of a store and its log before any call of a run. -/
structure Store.Sound (s : Store) : Prop where
  keyed : s.Keyed
  faithful : s.Faithful

theorem Store.Sound.storeStep (hs : s.Sound) (c : String × StoreCall) :
    (storeStep py s c).Sound ∧ Advances (s.standing x) ((LineageTX.storeStep py s c).standing x) := by
  rcases c.2.after_cases py c.1 s with h | h
  · rw [LineageTX.storeStep, h]
    exact ⟨hs, .stays _⟩
  · exact ⟨⟨hs.keyed.step h, hs.faithful.step hs.keyed h⟩,
      StoreCall.advances hs.keyed hs.faithful h x⟩

theorem Store.Sound.run (hs : s.Sound) (calls : List (String × StoreCall)) :
    (calls.foldl (LineageTX.storeStep py) s).Sound := by
  induction calls generalizing s with
  | nil => exact hs
  | cons c calls ih => exact ih (hs.storeStep (x := .migration "") c).1

theorem Tells.version {start final : EventStatus × Int} {events : List EventRow}
    (h : Tells start events final) : start.2 ≤ final.2 := by
  obtain ⟨links, -, hreplays⟩ := h
  obtain ⟨n, hn, -⟩ := hreplays.versions
  omega

theorem Store.Faithful.version_nonneg (hf : s.Faithful) {st : EventStatus} {v : Int}
    (hx : s.standing x = some (st, v)) : 0 ≤ v := by
  have hchain := hf.chains x _ hx
  cases x with
  | migration id =>
    obtain ⟨_, _, -, -, htells⟩ := hchain
    exact htells.version
  | participant id => exact Tells.version hchain

/-- The versions of an entity are produced one after the other, up to the last. -/
theorem produced_from (hs : s.Sound) : ∃ n : Nat,
    produced py x s calls =
      (List.range n).map (fun k : Nat => (((s.standing x).map Prod.snd).getD (-1)) + 1 + (k : Int)) ∧
    (((calls.foldl (storeStep py) s).standing x).map Prod.snd).getD (-1) =
      ((s.standing x).map Prod.snd).getD (-1) + n := by
  induction calls generalizing s with
  | nil => exact ⟨0, rfl, by simp⟩
  | cons c calls ih =>
    have hstep : (storeStep py s c).Sound ∧ Advances (s.standing x) ((storeStep py s c).standing x) :=
      hs.storeStep c
    obtain ⟨hs', hadv⟩ := hstep
    obtain ⟨n, hn, hlast⟩ := ih hs'
    generalize hst : s.standing x = st at hadv
    generalize hst' : (storeStep py s c).standing x = st' at hadv
    rw [hst'] at hn hlast
    simp only [produced, List.foldl_cons, hst, hst', hn, hlast]
    have hshift : ∀ v : Int, (v + 1) :: (List.range n).map (fun k : Nat => v + 1 + 1 + (k : Int)) =
        (List.range (n + 1)).map (fun k : Nat => v + 1 + (k : Int)) := by
      intro v
      rw [List.range_succ_eq_map, List.map_cons, List.map_map]
      refine congrArg₂ List.cons (by simp) (List.map_congr_left fun k _ => ?_)
      simp only [Function.comp_apply]
      omega
    cases hadv with
    | stays => exact ⟨n, by simp, rfl⟩
    | begins status => exact ⟨n + 1, by simpa using hshift (-1), by simp⟩
    | moves status target version hcan =>
      exact ⟨n + 1, by simpa using hshift version, by simp; omega⟩

/-- No operation expects a version that the entity has passed. -/
theorem winners_passed (hs : s.Sound) {st : EventStatus} {v version : Int}
    (hst : s.standing x = some (st, v)) (hv : version < v) : winners py x version s calls = 0 := by
  induction calls generalizing s st v with
  | nil => rfl
  | cons c calls ih =>
    have hstep : (storeStep py s c).Sound ∧ Advances (s.standing x) ((storeStep py s c).standing x) :=
      hs.storeStep c
    obtain ⟨hs', hadv⟩ := hstep
    have hlost : ¬(c.2.expects = some (x, version) ∧
        (storeStep py s c).standing x ≠ s.standing x) := by
      rintro ⟨hexp, hne⟩
      rcases c.2.after_cases py c.1 s with h | h
      · exact hne (congrArg (fun t => Store.standing t x) h)
      · obtain ⟨st', hst'⟩ := StoreCall.expects_standing hs.keyed h hexp
        rw [hst] at hst'
        simp only [Option.some.injEq, Prod.mk.injEq] at hst'
        omega
    rw [hst] at hadv
    rw [winners, if_neg hlost, Nat.zero_add]
    generalize hst' : (storeStep py s c).standing x = after at hadv
    cases hadv with
    | stays => exact ih hs' hst' hv
    | moves => exact ih hs' hst' (by omega)

theorem winners_le_one (hs : s.Sound) (version : Int) : winners py x version s calls ≤ 1 := by
  induction calls generalizing s with
  | nil => simp [winners]
  | cons c calls ih =>
    have hstep : (storeStep py s c).Sound ∧ Advances (s.standing x) ((storeStep py s c).standing x) :=
      hs.storeStep c
    obtain ⟨hs', hadv⟩ := hstep
    rw [winners]
    split
    · next hwon =>
      obtain ⟨hexp, hne⟩ := hwon
      rcases c.2.after_cases py c.1 s with h | h
      · exact absurd (congrArg (fun t => Store.standing t x) h) hne
      · obtain ⟨st, hst⟩ := StoreCall.expects_standing hs.keyed h hexp
        rw [hst] at hadv hne
        generalize hst' : (storeStep py s c).standing x = after at hadv hne
        cases hadv with
        | stays => exact absurd rfl hne
        | moves status target _ hcan => rw [winners_passed hs' hst' (by omega)]
    · simpa using ih hs'

end Runs

theorem Store.Faithful.empty : ({} : Store).Faithful where
  sequences _ := rfl
  chains x final h := by cases x <;> simp [Store.standing, Store.migrationRow?] at h
  documented := by simp
  named := by simp
  known := by simp

/-- In every run: the log of every state is gap-free and its chains replay to the rows
and documents; the versions of an entity are produced by one operation each, in order and
up to the version it has; and of the operations that expect one version of an entity at
most one moves it. -/
theorem log_replays (py : Python) (calls : List (String × StoreCall)) :
    StatesMeet (storeStep py) Store.Faithful {} calls ∧
    (∀ x st v, (calls.foldl (storeStep py) {}).standing x = some (st, v) → ∃ n : Nat, v = n ∧
      produced py x {} calls = (List.range (n + 1)).map fun k : Nat => (k : Int)) ∧
    ∀ x version, winners py x version {} calls ≤ 1 := by
  have hsound : ({} : Store).Sound := ⟨keyed_empty, .empty⟩
  refine ⟨?_, fun x st v hlast => ?_, fun x version => winners_le_one hsound version⟩
  · exact (keyed_run py Store.Faithful.empty (fun hk hP h => hP.step hk h) calls).mono
      fun _ h => h.2
  · obtain ⟨n, hn, hv⟩ := @produced_from py x {} calls hsound
    have hnone : ({} : Store).standing x = none := by cases x <;> rfl
    rw [hlast, hnone] at hv
    simp only [Option.map_some, Option.getD_some, Option.map_none, Option.getD_none] at hv
    have hend : (calls.foldl (storeStep py) {}).Sound := hsound.run calls
    have hnonneg : 0 ≤ v := hend.faithful.version_nonneg hlast
    refine ⟨n - 1, by omega, ?_⟩
    rw [hn, hnone, Nat.sub_add_cancel (by omega)]
    simp

end LineageTX
