import LineageTX.ApprovedCalls
import LineageTX.GateExclusion
import LineageTX.Progress

/-! Coordinators settle no participant alone, so that whatever any number of them do, and
wherever they fail, every migration can still be brought to COMMITTED or to ABORTED. -/
namespace LineageTX
open Library Store
variable {py : Python} {mid : String}

section Calls

def CoordinatorCall.Undecided : CoordinatorCall py → Prop
  | .store c => c.Undecided
  | _ => True

theorem undecided_of_ordinary {op : CoordinatorCall py} (h : op.Ordinary) : op.Undecided := by
  cases op with
  | store c =>
    cases c with
    | transitionParticipant => exact h.1
    | _ => trivial
  | _ => trivial

namespace Coordinator
variable {co : Coordinator py} {α : Type}

theorem undecided_calls {p : CoordinatorProg py α} (h : p.Calls CoordinatorCall.Ordinary) :
    p.Calls CoordinatorCall.Undecided := h.mono fun _ => undecided_of_ordinary

theorem undecided_quiet {p : CoordinatorProg py α} (h : p.Calls CoordinatorCall.Quiet) :
    p.Calls CoordinatorCall.Undecided := undecided_calls (ordinary_quiet h)

theorem undecided_call {op : CoordinatorCall py} (h : op.Undecided) :
    op.run.Calls CoordinatorCall.Undecided := Prog.calls_perform.mpr h

theorem verifyApproved_undecided (m : String) (p : Pending py) (approval : OwnerApproval)
    (verified : Option VerifiedGitHubApproval) :
    (co.verifyApproved m p approval verified).Calls CoordinatorCall.Undecided := by
  refine .bind (Prog.calls_lift _) fun receipt => .bind (undecided_call trivial) fun _ => ?_
  refine .bind (undecided_call ⟨nofun, nofun⟩) fun participant => ?_
  refine .bind (undecided_call trivial) fun result => .bind (Prog.calls_lift _) fun _ => ?_
  refine .bind (undecided_call trivial) fun _ => .bind (undecided_quiet (record_quiet _)) fun _ => ?_
  refine .bind (undecided_call trivial) fun current => ?_
  exact undecided_calls (commitVerifiedCandidate_ordinary ..)

theorem applyApproval_undecided (m : String) (approval : OwnerApproval)
    (verified : Option VerifiedGitHubApproval) :
    (co.applyApproval m approval verified).Calls CoordinatorCall.Undecided := by
  refine .bind (undecided_calls (pendingApproval_ordinary m approval)) fun p => ?_
  refine .tryCatch (.bind (verifyApproved_undecided m p approval verified) fun _ => ?_) fun e => ?_
  · exact undecided_calls (finishApproval_ordinary ..)
  · exact undecided_calls (abortAfterFailure_ordinary ..)

theorem approveFromGithub_undecided (m sourceApiUrl : String) :
    (co.approveFromGithub m sourceApiUrl).Calls CoordinatorCall.Undecided := by
  refine .bind (Prog.calls_lift _) fun _ => ?_
  refine .bind (undecided_calls (approvalExpectation_ordinary m)) fun expectation => ?_
  refine .bind (.tryCatch (undecided_call trivial) fun e => ?_) fun verified => ?_
  · split <;> trivial
  · exact .bind (applyApproval_undecided ..) fun _ => .bind (undecided_call trivial) fun _ => trivial

theorem commitReady_undecided (m : String) (migration : MigrationRecord) (ready : ReadyToRelease py) :
    (co.commitReady m migration ready).Calls CoordinatorCall.Undecided := by
  have hrecord : ∀ calls, (co.record calls).Calls CoordinatorCall.Undecided :=
    fun calls => undecided_quiet (record_quiet calls)
  refine .bind (.tryCatch (undecided_call trivial) fun e => ?_) fun _ => ?_
  · split
    · exact Prog.calls_lift _
    · trivial
  refine .bind (.tryCatch (.bind (.bind (hrecord _) fun _ => .bind (undecided_call trivial) fun found => ?_)
    fun publication => .bind (Prog.calls_lift _) fun _ => trivial) fun _ =>
      .bind (hrecord _) fun _ => Prog.calls_lift _) fun publication => ?_
  · cases found with
    | some publication => trivial
    | none => exact undecided_call trivial
  refine .bind (undecided_call trivial) fun _ => .bind (.tryCatch (undecided_call trivial) fun _ =>
    .bind (undecided_call trivial) fun current => ?_) fun migration => undecided_quiet (finalWriteback_quiet ..)
  split
  · trivial
  · exact .bind (hrecord _) fun _ => Prog.calls_lift _

theorem commit_undecided (m : String) : (co.commit m).Calls CoordinatorCall.Undecided := by
  refine .bind (undecided_call trivial) fun migration => ?_
  split
  · exact undecided_calls (reconcileCommit_ordinary m)
  · refine .bind (Prog.calls_lift _) fun _ => ?_
    refine .bind (undecided_quiet (requiredContext_quiet m)) fun context => .bind (Prog.calls_lift _) fun _ => ?_
    refine .bind (.tryCatch (undecided_calls (ordinary_calls (preliminary_checks (readyToRelease_checking ..)))) fun e => ?_)
      fun ready => commitReady_undecided m migration ready
    exact undecided_calls (ordinary_calls (failBeforeGate_preliminary m e))

end Coordinator

/-- No public method settles a participant alone. -/
theorem MigrationCall.undecided (co : Coordinator py) (call : MigrationCall py) :
    (call.program co mid).Calls CoordinatorCall.Undecided := by
  cases call with
  | detect intent attestation participants =>
    exact .bind (Coordinator.undecided_calls (Coordinator.detect_ordinary ..)) fun _ => trivial
  | prepare roots => exact .bind (Coordinator.undecided_calls (Coordinator.prepare_ordinary ..)) fun _ => trivial
  | approve approval =>
    exact .bind (.bind (Prog.calls_lift _) fun _ => Coordinator.applyApproval_undecided ..) fun _ => trivial
  | approveFromGithub url => exact .bind (Coordinator.approveFromGithub_undecided mid url) fun _ => trivial
  | commit => exact .bind (Coordinator.commit_undecided mid) fun _ => trivial
  | abort =>
    exact .bind (Coordinator.undecided_calls (Coordinator.ordinary_calls (Coordinator.abort_preliminary mid)))
      fun _ => trivial
  | reconcileAbort =>
    exact .bind (Coordinator.undecided_calls (Coordinator.reconcileAbort_ordinary mid)) fun _ => trivial

end Calls

section Steps
variable {now : String} {s s' : Store} {c : StoreCall}

/-- What a store has whose participants are settled by an abort of their migration only. -/
structure Store.Unstranded (py : Python) (s : Store) : Prop where
  keyed : s.Keyed
  migrations : (s.migrations.map (·.migrationId)).Nodup
  held : s.HoldsParticipants
  staged : s.Staged py
  peopled : ∀ mid, s.status? mid = some .prepared → ∃ pid, (pid, mid) ∈ s.owners
  settled : ∀ row ∈ s.participants, row.Settled → s.status? row.migrationId = some .aborted

theorem unstranded_empty : ({} : Store).Unstranded py where
  keyed := keyed_empty
  migrations := .nil
  held := by simp [HoldsParticipants]
  staged := tracked_empty.staged
  peopled := by simp [Store.status?, Store.migrationRow?]
  settled := by simp

/-- A migration gets its participants before it gets to PREPARED, and keeps them. -/
theorem peopled_step (hk : s.Keyed) (h : c.run py now s = .ok s')
    (hs : s.status? mid = some .prepared → ∃ pid, (pid, mid) ∈ s.owners)
    (hprepared : s'.status? mid = some .prepared) : ∃ pid, (pid, mid) ∈ s'.owners := by
  have howners : ∀ o ∈ s.owners, o ∈ s'.owners := fun o ho =>
    (StoreCall.pieces hk h).induct (P := fun t => o ∈ t.owners)
      (fun _ hP hpiece => hpiece.owners hP) hk ho
  by_cases hbefore : s.status? mid = some .prepared
  · obtain ⟨pid, hpid⟩ := hs hbefore
    exact ⟨pid, howners _ hpid⟩
  · obtain ⟨e, v, ev, payload, receipts, rfl⟩ := StoreCall.becomes h (.inl rfl) hbefore hprepared
    obtain ⟨r, hr, -⟩ := bind_eq_ok.mp h
    obtain ⟨-, -, hguard, -⟩ := transitionMigration_cases hr
    obtain ⟨pid, hpid⟩ := preparationGuard_eq_ok (hguard rfl)
    exact ⟨pid, howners _ hpid⟩

/-- A participant is settled with its migration, or by a call for it alone. -/
theorem aborted_with_migration (hk : s.Keyed) (hc : c.Undecided) (h : c.run py now s = .ok s')
    (hs : ∀ row ∈ s.participants, row.Settled → s.status? row.migrationId = some .aborted)
    {row' : ParticipantRow} (hrow' : row' ∈ s'.participants) (hsettled : row'.Settled) :
    s'.status? row'.migrationId = some .aborted := by
  rcases StoreCall.row_cases hk h hrow' with ⟨row, hrow, hupd⟩ | ⟨hdiscovered, -⟩
  · rw [hupd.migrationId]
    rcases hupd.change with rfl | hmoved
    · exact StoreCall.terminal_final h (hs row' hrow hsettled) rfl
    · cases c with
      | transitionParticipant =>
        obtain ⟨-, -, -, hst, -⟩ := hmoved
        rw [ParticipantRow.Settled, hst] at hsettled
        exact absurd hsettled (not_or.mpr hc)
      | abortMigration m receipt e v =>
        have hm := StoreCall.moves h row.migrationId
        simp only [StoreCall.Moves, if_pos hmoved.1.1.symm] at hm
        exact congrArg Race.status hm.2.2.2.2
      | _ => exact hmoved.elim
  · rcases hsettled with hst | hst <;> rw [hdiscovered] at hst <;> cases hst

theorem Store.Unstranded.step (hs : s.Unstranded py) (hplain : c.Plain) (hc : c.Undecided)
    (h : c.run py now s = .ok s') : s'.Unstranded py where
  keyed := hs.keyed.step h
  migrations := migrations_nodup_step h hs.migrations
  held := (StoreCall.participants_held hs.keyed hs.held h).1
  staged := hs.staged.step hs.keyed hplain h
  peopled _ := peopled_step hs.keyed h (hs.peopled _)
  settled _ hrow hsettled := aborted_with_migration hs.keyed hc h hs.settled hrow hsettled

theorem unstranded_run (calls : List (String × StoreCall)) (hcalls : ∀ c ∈ calls, c.2.Plain ∧ c.2.Undecided) :
    (calls.foldl (storeStep py) {}).Unstranded py := by
  refine (StatesMeet.of_step unstranded_empty fun s c hmem hs => ?_).last
  rcases c.2.after_cases py c.1 s with h | h
  · rw [storeStep, h]
    exact hs
  · exact hs.step (hcalls c hmem).1 (hcalls c hmem).2 h

/-- The participants of a PREPARED migration are verified, with full SHAs. -/
theorem Store.Unstranded.verified (hs : s.Unstranded py) (hst : s.status? mid = some .prepared)
    {row : ParticipantRow} (hrow : row ∈ s.participantRows mid) : row.status = .verified ∧ row.Ready py := by
  obtain ⟨hmem, hmid⟩ := mem_participantRows.mp hrow
  have hverified : row.status = .verified := by
    refine (hs.staged.settled row hmem (hmid ▸ hst)).resolve_right fun hsettled => ?_
    have haborted := hs.settled row hmem hsettled
    rw [hmid, hst] at haborted
    cases haborted
  exact ⟨hverified, .inl hverified, hs.staged.shas row hmem hverified⟩

/-- Then every migration that can be read can be brought to an end. -/
theorem Store.Unstranded.finishable (hs : s.Unstranded py) {pull : CoordinationReceipt}
    (hpull : pull.postInit py = .ok pull) (hkind : pull.kind = .coordinatedPr)
    {migration : MigrationRecord} (hfound : s.getMigration py mid = .ok migration) : s.Finishable py mid := by
  have hkeys : s.PrimaryKeys := ⟨hs.migrations, hs.keyed.unique⟩
  obtain ⟨row, hrow, -, hstatus, -⟩ := getMigration_cases hfound
  have hst := status?_of_row hrow
  rw [hstatus] at hst
  cases hopen : migration.status.isTerminal with
  | true => exact ⟨[], by simp, migration.status, hst, hopen⟩
  | false =>
    by_cases harmed : s.hasMigrationEvent mid gateArmedEvent = true
    · have hprepared : migration.status = .prepared := by
        rcases hs.staged.armed mid harmed with hprepared | hcommitted
        · exact Option.some.inj (hst.symm.trans hprepared)
        · rw [Option.some.inj (hst.symm.trans hcommitted)] at hopen
          cases hopen
      rw [hprepared] at hst
      obtain ⟨pid, hpid⟩ := hs.peopled mid hst
      obtain ⟨p, hp, howner⟩ := List.mem_map.mp hpid
      have hpeopled := List.ne_nil_of_mem (mem_participantRows.mpr ⟨hp, congrArg Prod.snd howner⟩)
      exact finishable_of_ready hpull hkind hfound hprepared hkeys hs.held hpeopled fun p hp => (hs.verified hst hp).2
    · exact finishable_of_unarmed hpull hfound hopen hkeys (Bool.eq_false_of_not_eq_true harmed)

end Steps

section System
variable {κ : Type} {w : GateWorld py κ}

def SystemCall.Undecided : SystemCall py → Prop
  | .coordinator c => c.Undecided
  | .git _ _ => True

variable (py κ) in
/-- The contract of a thread that settles no participant alone. -/
def undecidedContract : Contract (GateWorld py κ) Exn (@SystemCall.Reply py) where
  inv w := w.store.Unstranded py
  rely _ _ _ := True
  pre _ c := c.Undecided
  can _ _ _ _ := True

theorem program_undecided (co : Coordinator py) (manager : WorktreeManager) (t : GateThread py κ) :
    ((t.call.program co t.migrationId).expand (CoordinatorCall.done manager)).Guarded
      (undecidedContract py κ) (fun _ _ => True) w := by
  have hcalls : ((t.call.program co t.migrationId).expand (CoordinatorCall.done manager)).Calls
      SystemCall.Undecided := by
    refine (MigrationCall.undecided co t.call).expand fun c hc => ?_
    cases c with
    | worktrees method => exact Prog.calls_expand fun g => Prog.calls_perform.mpr trivial
    | _ => exact Prog.calls_perform.mpr hc
  exact hcalls.guarded (φ := fun _ => True) trivial (fun _ _ _ _ _ => trivial)
    (fun _ _ _ _ _ _ _ _ => trivial) fun _ _ hop _ _ => hop

variable [DecidableEq κ] {t : GateThread py κ} {m : Circumstance py}

theorem perform_unstranded (hw : w.store.Unstranded py) {c : SystemCall py}
    (hcareful : c.Careful t.migrationId w.store) (hraces : ∀ mid, (w.store.race mid).Exclusive)
    (hc : c.Undecided) : (w.perform t m c).2.store.Unstranded py := by
  cases c with
  | git => exact hw
  | coordinator c =>
    cases c with
    | store c =>
      simp only [GateWorld.perform]
      split
      · next hfails r s hanswer =>
        have hrun := StoreCall.run_of_answer hanswer
        exact hw.step (respects_of_careful hraces hcareful hrun).1 hc hrun
      · exact hw
      · exact hw
    | read r =>
      simp only [GateWorld.perform]
      split <;> exact hw
    | _ => exact hw

theorem gateSystem_undecided (co : κ → Coordinator py) (manager : κ → WorktreeManager) :
    (gateSystem co manager).Sound
      (fun _ t => Prog.together (gateContract t) (undecidedContract py κ))
      (fun w => w.Exclusive ∧ w.store.Unstranded py) (fun _ _ => True) where
  same _ _ := rfl
  refl _ _ _ _ := ⟨.refl _, trivial⟩
  trans _ _ _ _ _ _ h h' := ⟨h.1.trans h'.1, trivial⟩
  start _ t _ _ := ((program_guarded (co t.coordinator) (manager t.coordinator) t).together
    (program_undecided (co t.coordinator) (manager t.coordinator) t)).mono fun _ _ _ => trivial
  can pool n t op next m hwaits hready hallowed hw hpre :=
    ⟨(gateSystem_sound co manager).can pool n t op next m hwaits hready trivial hw.1 hpre.1, trivial⟩
  keeps pool n t op next m _ _ _ hw hpre :=
    ⟨perform_exclusive hw.1 hpre.1, perform_unstranded hw.2 hpre.1 hw.1.race hpre.2⟩
  others pool n t op next m _ _ _ _ _ n' t' op' next' _ _ := ⟨perform_notes op, trivial⟩
  replace pool k _ hw := by
    obtain ⟨hexclusive, hrely⟩ := (gateSystem_sound co manager).replace pool k trivial hw.1
    exact ⟨⟨hexclusive, hw.2⟩, fun n i op next hi hwaits => ⟨hrely n i op next hi hwaits, trivial⟩⟩

/-- Whatever the coordinators are asked for, in every order of their steps, wherever they fail
and whatever is answered to them: every migration can still be brought to an end. -/
theorem never_stranded (co : κ → Coordinator py) (manager : κ → WorktreeManager)
    {pull : CoordinationReceipt} (hpull : pull.postInit py = .ok pull) (hkind : pull.kind = .coordinatedPr)
    (memory : κ → CoordinatorMemory py) (choices : List (Choice (Circumstance py) (GateThread py κ) κ)) :
    StatesMeet (Pool.step (gateSystem co manager)) (fun pool => ∀ mid migration,
      pool.world.store.getMigration py mid = .ok migration → pool.world.store.Finishable py mid)
      { world := { memory } } choices := by
  have hexclusive : GateWorld.Exclusive ({ memory } : GateWorld py κ) :=
    ⟨exclusive_empty, by simp, by simp, .nil⟩
  have hgood : StatesMeet (Pool.step (gateSystem co manager)) _ _ choices :=
    (gateSystem_undecided co manager).good_run (System.Sound.good_init ⟨hexclusive, unstranded_empty⟩)
      (callsMeet_of_forall fun _ _ _ => trivial)
  exact hgood.mono fun pool hpool mid migration hfound => hpool.1.2.finishable hpull hkind hfound

end System

section Sample

/-- A coordinator detects the sample migration. -/
def detectChoices : List (Choice (Circumstance samplePython) (GateThread samplePython Unit) Unit) :=
  .start ⟨(), ChangeIntent.sample.migrationId,
    .detect .sample ⟨sampleContext, true⟩ (sampleParticipants "p1" "p2" "p3")⟩ ::
    List.replicate 3 (.act 0 ⟨"2026-01-01T12:00:00Z", none, fun _ => raise .coordinationError "no answer"⟩)

theorem detected_finishable : Store.Finishable samplePython (detectChoices.foldl
    (Pool.step (gateSystem (fun _ => testCoordinator) fun _ => ⟨"/worktrees"⟩))
    { world := { memory := fun _ => {} } }).world.store ChangeIntent.sample.migrationId := by
  have hread : ((detectChoices.foldl (Pool.step (gateSystem (fun _ => testCoordinator) fun _ => ⟨"/worktrees"⟩))
      { world := { memory := fun _ => {} } }).world.store.getMigration samplePython
        ChangeIntent.sample.migrationId).isOk = true := by
    decide +kernel
  obtain ⟨migration, hfound⟩ := exists_of_isOk hread
  have hpull : samplePull.postInit samplePython = .ok samplePull := by decide +kernel
  exact (never_stranded (fun _ : Unit => testCoordinator) (fun _ => ⟨"/worktrees"⟩) hpull rfl (fun _ => {})
    detectChoices).last _ migration hfound

end Sample

end LineageTX
