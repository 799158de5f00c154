import LineageTX.Unstranded

/-! One attempt to commit a migration whose gate is armed: whatever fails in it, no candidate
is deleted, and the store stays as it was or says COMMITTED with a publication that the
coordinator remembers. -/
namespace LineageTX
open Library Store
variable {py : Python} {mid : String}

/-- A PREPARED migration whose gate is armed. -/
structure Store.Armed (py : Python) (s : Store) (mid : String) (migration : MigrationRecord) : Prop where
  found : s.getMigration py mid = .ok migration
  prepared : migration.status = .prepared
  gate : s.hasMigrationEvent mid gateArmedEvent = true

/-- The store moved the migration to COMMITTED with the receipts of the publication. -/
def Recorded (py : Python) (mid : String) (publication : PublicationResult) (s s' : Store) : Prop :=
  ∃ now version ev payload r, s.transitionMigration py now mid .committed .prepared version ev payload
    publication.receipts = .ok r ∧ s' = r.2

/-- What the attempts leave of the state before them. -/
structure Held (py : Python) (mid : String) (w₀ w : CoordinatorState py) : Prop where
  maps : w.memory = { w₀.memory with publications := w.memory.publications }
  store : w.store = w₀.store ∨ ∃ publication, w.memory.publications.get? mid = some publication ∧
    Recorded py mid publication w₀.store w.store

/-- A call that leaves the store and the maps alone, and deletes no candidate. -/
def CoordinatorCall.Idle : CoordinatorCall py → Prop
  | .store _ | .remember _ | .worktrees (.abort _) => False
  | _ => True

/-- A call that deletes no candidate. -/
def CoordinatorCall.Retains : CoordinatorCall py → Prop
  | .worktrees (.abort _) => False
  | _ => True

/-- An attempt in which the store and the services may fail, and which deletes no candidate. -/
abbrev Retaining (services : (c : CoordinatorCall py) → Result c.Reply → Prop) :
    Contract (CoordinatorState py) Exn (@CoordinatorCall.Reply py) :=
  .alone (Serves services) fun _ op => op.Retains

section Recorded
variable {s s' : Store} {migration : MigrationRecord} {publication : PublicationResult}

theorem Recorded.status (h : Recorded py mid publication s s') : s'.status? mid = some .committed := by
  obtain ⟨now, version, ev, payload, r, h, rfl⟩ := h
  obtain ⟨-, -, -, -, row, t, hrow, -, -, -, ht, hs', -⟩ := transitionMigration_cases h
  rw [hs', status?_appendEvent, status?_updateMigration hrow ht, if_pos rfl]

/-- The COMMITTED migration is read with the same intent, and the participants as before. -/
theorem Recorded.reads (h : Recorded py mid publication s s') (hfound : s.getMigration py mid = .ok migration) :
    (∃ record, s'.getMigration py mid = .ok record ∧ record.status = .committed ∧
      record.intent = migration.intent) ∧
    s'.listParticipants py mid = s.listParticipants py mid := by
  obtain ⟨now, version, ev, payload, r, h, rfl⟩ := h
  obtain ⟨-, -, -, -, row, t, hrow, -, -, -, ht, hs', -⟩ := transitionMigration_cases h
  obtain ⟨row', hrow', hintent, -⟩ := getMigration_cases hfound
  obtain rfl := Option.some.inj (hrow.symm.trans hrow')
  have hmoved := migrationRow?_updateMigration hrow ht mid
  rw [if_pos rfl] at hmoved
  have hread : r.2.getMigration py mid = .ok ⟨migration.intent, .committed, row.version + 1, row.createdAt, now⟩ := by
    have hrow' : r.2.migrationRow? mid = some { row with
        status := .committed, version := row.version + 1, updatedAt := now } := by
      rw [hs']
      exact hmoved
    rw [Store.getMigration, selectMigration_eq_ok.mpr hrow', ok_bind, migrationFromRow, hintent]
    rfl
  refine ⟨⟨_, hread, rfl, rfl⟩, ?_⟩
  have hrows : r.2.participantRows mid = s.participantRows mid := by
    obtain ⟨-, rfl⟩ := updateMigration_eq_ok.mp ht
    rw [hs']
    rfl
  rw [Store.listParticipants, Store.listParticipants, hread, hfound, hrows]
  rfl

end Recorded

namespace Coordinator
variable {co : Coordinator py} {α : Type} {w w₀ : CoordinatorState py}
  {services : (c : CoordinatorCall py) → Result c.Reply → Prop} {migration : MigrationRecord}

theorem idle_of_checking {op : CoordinatorCall py} (h : op.Checking) : op.Idle := by
  cases op with
  | store | remember => exact h.elim
  | worktrees c => cases c <;> first | exact h.elim | trivial
  | _ => trivial

theorem idle_of_quiet {op : CoordinatorCall py} (h : op.Quiet) : op.Idle := idle_of_checking (checking_of_quiet h)

theorem serves_idle {op : CoordinatorCall py} {reply : Result op.Reply} {w' : CoordinatorState py}
    (hop : op.Idle) (h : Serves services w op reply w') : w' = w := by
  cases op with
  | store | remember => exact hop.elim
  | _ => exact h.2

/-- Idle calls leave everything as it was. -/
theorem idle_guarded {p : CoordinatorProg py α} (hp : p.Calls CoordinatorCall.Idle) :
    p.Guarded (Retaining services) (fun _ w' => w' = w) w := by
  refine hp.guarded (φ := fun w' => w' = w) rfl (fun op w₁ w₂ hrely hw => ?_)
    (fun op r w₁ w₂ hop _ hw hserve => ?_) fun op w₁ hop _ _ => ?_
  · exact Eq.trans hrely hw
  · rw [serves_idle hop hserve, hw]
  · cases op with
    | worktrees c => cases c <;> first | exact hop.elim | trivial
    | _ => trivial

theorem idle_held {p : CoordinatorProg py α} (hp : p.Calls CoordinatorCall.Idle) (hw : Held py mid w₀ w) :
    p.Guarded (Retaining services) (fun _ w' => Held py mid w₀ w') w := by
  refine (idle_guarded hp).mono fun r w' hw' => ?_
  rw [hw']
  exact hw

theorem read_retaining (r : StoreRead) : (@CoordinatorCall.read py r).run.Guarded (Retaining services)
    (fun reply w' => w' = w ∧ ∀ a, reply = .ok a → r.answer py w.store = .ok a) w := by
  refine Prog.Guarded.perform_alone trivial fun reply w' hserve => ?_
  obtain ⟨hreply, rfl⟩ := hserve
  refine ⟨rfl, fun a ha => ?_⟩
  rcases hreply with hanswer | ⟨e, he⟩
  · exact hanswer.symm.trans ha
  · cases he.symm.trans ha

/-- After idle calls the attempt goes on from where it was. -/
theorem idle_bind {β : Type} {p : CoordinatorProg py α} {f : α → CoordinatorProg py β}
    {post : Result β → CoordinatorState py → Prop} (hp : p.Calls CoordinatorCall.Idle)
    (herror : ∀ e, post (.error e) w) (hok : ∀ a, (f a).Guarded (Retaining services) post w) :
    (p >>= f).Guarded (Retaining services) post w := by
  refine Prog.Guarded.bind ((idle_guarded hp).mono fun r w' hw' => ?_)
  subst hw'
  cases r with
  | ok a => exact hok a
  | error e => exact herror e

/-- A failure before the release of an armed gate starts no abort. -/
theorem failBeforeGate_armed (harmed : w.store.Armed py mid migration) (e : Exn) :
    (co.failBeforeGate (α := α) mid e).Guarded (Retaining services) (fun _ w' => w' = w) w := by
  refine Prog.Guarded.bind_same (read_retaining _) (fun _ => rfl) fun current hcurrent => ?_
  refine Prog.Guarded.bind_same (Q := fun _ => True) ?_ (fun _ => rfl) fun _ _ => (rfl : w = w)
  unfold Prog.onlyWhen
  split
  · refine Prog.Guarded.bind_same (read_retaining _) (fun _ => ⟨rfl, fun _ _ => trivial⟩) fun armed hanswer => ?_
    have htrue : armed = true := by
      simp only [StoreRead.answer, publicationGateArmed, harmed.found, harmed.gate] at hanswer
      exact (Except.ok.inj hanswer).symm
    subst htrue
    exact Prog.Guarded.lift_bind (fun _ _ => ⟨rfl, fun _ _ => trivial⟩) fun _ hrefused => by
      simp [requireCoordination] at hrefused
  · exact ⟨rfl, fun _ _ => trivial⟩

/-- Arming an armed gate changes nothing. -/
theorem armGate_armed (harmed : w.store.Armed py mid migration) (version : Int) :
    (@armGate py mid version).Guarded (Retaining services) (fun _ w' => w' = w) w := by
  refine Prog.Guarded.tryCatch (Prog.Guarded.perform_alone trivial fun r w' hserve => ?_)
  have hsame : w' = w := by
    rcases hserve with ⟨now, u, s, hanswer, -, rfl⟩ | ⟨e, -, rfl⟩
    · obtain ⟨t, ht, hs⟩ := bind_eq_ok.mp hanswer
      simp only [armPublicationGate, bind_eq_ok, harmed.gate, if_true] at ht
      obtain ⟨-, -, -, -, -, -, ht⟩ := ht
      cases ht
      cases hs
      rfl
    · rfl
  cases r with
  | ok _ => exact hsame
  | error e =>
    dsimp only
    split <;> exact hsame

/-- What an attempt leaves once it is ready to release. -/
theorem commitReady_held (harmed : w.store.Armed py mid migration) (hw : Held py mid w₀ w)
    (hsame : w.store = w₀.store) (record : MigrationRecord) (ready : ReadyToRelease py) :
    (co.commitReady mid record ready).Guarded (Retaining services) (fun _ w' => Held py mid w₀ w') w := by
  refine Prog.Guarded.bind ((armGate_armed harmed _).mono fun r w₁ hw₁ => ?_)
  subst hw₁
  cases r with
  | error e => exact hw
  | ok _ =>
    have hrecord : ∀ calls, (co.record calls).Calls CoordinatorCall.Idle :=
      fun calls => (record_quiet calls).mono fun _ => idle_of_quiet
    have hpublish : (co.publish ready).Calls CoordinatorCall.Idle := by
      refine .tryCatch (.bind (.bind (hrecord _) fun _ => .bind (Prog.calls_perform.mpr trivial) fun found => ?_)
        fun publication => .bind (Prog.calls_lift _) fun _ => trivial) fun _ =>
          .bind (hrecord _) fun _ => Prog.calls_lift _
      cases found with
      | some publication => trivial
      | none => exact Prog.calls_perform.mpr trivial
    refine idle_bind hpublish (fun _ => hw) fun publication => ?_
    refine Prog.Guarded.perform_bind trivial (fun e w₂ hserve => ?_) fun _ w₂ hserve => ?_
    · cases hserve.1
    obtain ⟨-, rfl⟩ := hserve
    have hkept : Held py mid w₀ { w₁ with memory :=
        { w₁.memory with publications := w₁.memory.publications.set mid publication } } := by
      refine ⟨?_, .inl hsame⟩
      conv_lhs => rw [hw.maps]
    have hpersist : (co.persistCommitted mid record ready.refreshed publication).Guarded (Retaining services)
        (fun _ w' => Held py mid w₀ w') { w₁ with memory :=
          { w₁.memory with publications := w₁.memory.publications.set mid publication } } := by
      refine Prog.Guarded.tryCatch (Prog.Guarded.perform_alone trivial fun r w₃ hserve => ?_)
      rcases hserve with ⟨now, record', s, hanswer, rfl, rfl⟩ | ⟨e, rfl, rfl⟩
      · refine ⟨hkept.maps, .inr ⟨publication, ?_, now, _, _, _, _, hsame ▸ hanswer, rfl⟩⟩
        exact (Dict.get?_set ..).trans (if_pos rfl)
      · refine idle_held (p := getMigration mid >>= _) (.bind (Prog.calls_perform.mpr trivial) fun current => ?_) hkept
        split
        · trivial
        · exact .bind (hrecord _) fun _ => Prog.calls_lift _
    refine Prog.Guarded.bind (hpersist.mono fun r w₃ hw₃ => ?_)
    cases r with
    | error e => exact hw₃
    | ok record' => exact idle_held ((finalWriteback_quiet ..).mono fun _ => idle_of_quiet) hw₃

/-- A coordinator that remembers the publication takes it, and reconciles without a change. -/
theorem reconcileCommit_known {publication : PublicationResult}
    (hknown : w.memory.publications.get? mid = some publication) :
    (co.reconcileCommit mid).Guarded (Retaining services) (fun _ w' => w' = w) w := by
  have hquiet : ∀ {α : Type} {p : CoordinatorProg py α}, p.Calls CoordinatorCall.Quiet →
      p.Calls CoordinatorCall.Idle := fun hp => hp.mono fun _ => idle_of_quiet
  refine idle_bind (p := getMigration mid) (Prog.calls_perform.mpr trivial) (fun _ => rfl) fun current => ?_
  refine idle_bind (Prog.calls_lift _) (fun _ => rfl) fun _ => ?_
  refine idle_bind (hquiet (requiredContext_quiet mid)) (fun _ => rfl) fun context => ?_
  refine idle_bind (Prog.calls_lift _) (fun _ => rfl) fun _ => ?_
  refine idle_bind ((refreshImpact_checking ..).mono fun _ => idle_of_checking) (fun _ => rfl) fun refreshed => ?_
  have hpublication : (@knownPublication py mid).Guarded (Retaining services) (fun _ w' => w' = w) w := by
    refine Prog.Guarded.perform_bind trivial (fun e w' hserve => hserve.2) fun memory w' hserve => ?_
    obtain ⟨hmemory, rfl⟩ := hserve
    cases hmemory
    rw [hknown]
    exact rfl
  refine Prog.Guarded.bind (hpublication.mono fun r w' hw' => ?_)
  subst hw'
  cases r with
  | error e => exact rfl
  | ok publication => exact idle_guarded (hquiet (finalWriteback_quiet ..))

/-- One attempt, from what the attempts before it left. -/
theorem commit_held (hstart : w₀.store.Armed py mid migration) (hw : Held py mid w₀ w) :
    (co.commit mid).Guarded (Retaining services) (fun _ w' => Held py mid w₀ w') w := by
  refine Prog.Guarded.bind_same (read_retaining _) (fun _ => hw) fun current hcurrent => ?_
  rcases hw.store with hsame | ⟨publication, hknown, hrecorded⟩
  · have harmed : w.store.Armed py mid migration := hsame ▸ hstart
    obtain rfl := Except.ok.inj (harmed.found.symm.trans hcurrent)
    rw [if_neg (by rw [harmed.prepared]; decide)]
    refine idle_bind (Prog.calls_lift _) (fun _ => hw) fun _ => ?_
    refine idle_bind ((requiredContext_quiet mid).mono fun _ => idle_of_quiet) (fun _ => hw) fun context => ?_
    refine idle_bind (Prog.calls_lift _) (fun _ => hw) fun _ => ?_
    have hready : (tryCatch (co.readyToRelease mid migration context) (co.failBeforeGate mid)).Guarded
        (Retaining services) (fun _ w' => w' = w) w := by
      refine Prog.Guarded.tryCatch ((idle_guarded ((readyToRelease_checking ..).mono fun _ =>
        idle_of_checking)).mono fun r w' hw' => ?_)
      subst hw'
      cases r with
      | ok ready => exact rfl
      | error e => exact failBeforeGate_armed harmed e
    refine Prog.Guarded.bind (hready.mono fun r w' hw' => ?_)
    subst hw'
    cases r with
    | ok ready => exact commitReady_held harmed hw hsame migration ready
    | error e => exact hw
  · obtain ⟨row, hrow, -, hstatus, -⟩ := getMigration_cases hcurrent
    have hcommitted : current.status = .committed := by
      have hst := status?_of_row hrow
      rw [hrecorded.status, hstatus] at hst
      exact (Option.some.inj hst).symm
    rw [if_pos hcommitted]
    refine (reconcileCommit_known hknown).mono fun r w' hw' => ?_
    rw [hw']
    exact hw

end Coordinator

/-- Attempts to commit that failed, each in its own way. -/
inductive CommitAttempts (co : Coordinator py) (mid : String) (w₀ : CoordinatorState py) :
    CoordinatorState py → Prop where
  | start : CommitAttempts co mid w₀ w₀
  | again {w w' : CoordinatorState py} {services : (c : CoordinatorCall py) → Result c.Reply → Prop}
    {log : List (Σ op : CoordinatorCall py, Result op.Reply)} {e : Exn} (h : CommitAttempts co mid w₀ w)
    (hrun : (co.commit mid).Runs (Serves services) w log (.error e) w') : CommitAttempts co mid w₀ w'

theorem CommitAttempts.held {co : Coordinator py} {w₀ w : CoordinatorState py} {migration : MigrationRecord}
    (h : CommitAttempts co mid w₀ w) (hstart : w₀.store.Armed py mid migration) : Held py mid w₀ w := by
  induction h with
  | start => exact ⟨rfl, .inl rfl⟩
  | again _ hrun ih => exact (Coordinator.commit_held hstart ih).of_run hrun

end LineageTX
