import LineageTX.ApprovalVerdict
import LineageTX.ApprovedCalls
import LineageTX.GateExclusion

/-! Any number of coordinators that take no approval from their callers, their calls
interleaved one by one: nothing is released and nothing is COMMITTED before the verifier has
accepted an owner's approval of the migration and the store holds its receipt. -/
namespace LineageTX
open Library Store GitHubApprovalVerifier
variable {py : Python} {mid : String} {vouched : GitHubApprovalExpectation → VerifiedGitHubApproval → Prop}

variable (vouched) in
/-- What the answer to a call tells of the store after it. -/
def CoordinatorCall.Establishes (s : Store) : (c : CoordinatorCall py) → Result c.Reply → Prop
  | .recalled, .ok memory => ∀ m v, memory.verifiedGithubApprovals.get? m = some v →
    s.ApprovedBy py vouched m v
  | .verify e _, .ok v => vouched e v
  | .store (.recordApproval receipt), .ok _ => receipt.row ∈ s.approvals ∧ receipt.Supported py s
  | _, _ => True

/-- No approval is lost. -/
def Store.Retains (py : Python)
    (vouched : GitHubApprovalExpectation → VerifiedGitHubApproval → Prop) (s s' : Store) : Prop :=
  ∀ m v, s.ApprovedBy py vouched m v → s'.ApprovedBy py vouched m v

theorem Store.Retains.refl (s : Store) : s.Retains py vouched s := fun _ _ h => h

theorem Store.Retains.trans {s t u : Store} (h : s.Retains py vouched t) (h' : t.Retains py vouched u) :
    s.Retains py vouched u := fun m v hv => h' m v (h m v hv)

/-- The contract of a coordinator that works on one migration. -/
def approving {World : Type} (store : World → Store)
    (vouched : GitHubApprovalExpectation → VerifiedGitHubApproval → Prop) (mid : String) :
    Contract World Exn (@CoordinatorCall.Reply py) where
  inv _ := True
  rely _ w w' := (store w).Retains py vouched (store w')
  pre w op := op.Authorized vouched mid (store w)
  can w op reply w' := (store w).Retains py vouched (store w') ∧ op.Establishes vouched (store w') reply

section Guarded
variable {World α β : Type} {store : World → Store} {w : World} {v : VerifiedGitHubApproval}
  {post : Result β → World → Prop}

theorem ordinary_guarded {p : CoordinatorProg py α} (hp : p.Calls CoordinatorCall.Ordinary) :
    p.Guarded (approving store vouched mid) (fun _ w' => (store w).Retains py vouched (store w')) w :=
  hp.guarded (φ := fun w' => (store w).Retains py vouched (store w')) (.refl _)
    (fun _ _ _ hrely hw => hw.trans hrely) (fun _ _ _ _ _ _ hw hcan => hw.trans hcan.1)
    fun _ _ hop _ _ => authorized_of_ordinary hop

/-- A first part that needs no approval. -/
theorem ordinary_bind {p : CoordinatorProg py α} {f : α → CoordinatorProg py β}
    (hp : p.Calls CoordinatorCall.Ordinary) (herror : ∀ e w', post (.error e) w')
    (hf : ∀ a w', (store w).Retains py vouched (store w') →
      (f a).Guarded (approving store vouched mid) post w') :
    (p >>= f).Guarded (approving store vouched mid) post w := by
  refine Prog.Guarded.bind ((ordinary_guarded hp).mono fun r w' hr => ?_)
  cases r with
  | ok a => exact hf a w' hr
  | error e => exact herror e w'

/-- What follows once the approval is in the store. -/
theorem approved_guarded {p : CoordinatorProg py α} (hv : (store w).ApprovedBy py vouched mid v)
    (hp : p.Calls fun op => ∀ s : Store, s.ApprovedBy py vouched mid v → op.Authorized vouched mid s) :
    p.Guarded (approving store vouched mid) (fun _ w' => (store w').ApprovedBy py vouched mid v) w :=
  hp.guarded (φ := fun w' => (store w').ApprovedBy py vouched mid v) hv
    (fun _ _ _ hrely hw => hrely mid v hw) (fun _ _ _ _ _ _ hw hcan => hcan.1 mid v hw)
    fun _ _ hop _ hw => hop _ hw

end Guarded

theorem approved_of_ordinary {α : Type} {v : VerifiedGitHubApproval} {p : CoordinatorProg py α}
    (hp : p.Calls CoordinatorCall.Ordinary) :
    p.Calls fun op => ∀ s : Store, s.ApprovedBy py vouched mid v → op.Authorized vouched mid s :=
  hp.mono fun _ hop _ _ => authorized_of_ordinary hop

namespace Coordinator
variable {co : Coordinator py} {α : Type}

/-- What is pending is what the policy accepted the approval for. -/
theorem pendingApproval_ends (m : String) (approval : OwnerApproval) :
    (@pendingApproval py m approval).Ends fun r => ∀ p, r = .ok p →
      SafetyPolicy.validateOwnerApproval py p.migration.intent p.participant approval = .ok () := by
  have hany : ∀ {γ : Type} {p : CoordinatorProg py γ}, p.Ends fun _ => True :=
    Prog.ends_of_forall fun _ => trivial
  refine hany.bind (fun e _ p hp => by cases hp) fun migration _ => ?_
  refine hany.bind (fun e _ p hp => by cases hp) fun _ _ => ?_
  refine hany.bind (fun e _ p hp => by cases hp) fun participant _ => ?_
  refine hany.bind (fun e _ p hp => by cases hp) fun _ _ => ?_
  have hvalid : (liftM (SafetyPolicy.validateOwnerApproval py migration.intent participant approval) :
      CoordinatorProg py Unit).Ends fun r =>
        r = SafetyPolicy.validateOwnerApproval py migration.intent participant approval := rfl
  refine hvalid.bind (fun e _ p hp => by cases hp) fun _ hvalid => ?_
  refine hany.bind (fun e _ p hp => by cases hp) fun memory _ => ?_
  dsimp only
  split
  · split
    · intro p hp
      cases hp
      exact hvalid.symm
    · exact fun p hp => by cases hp
  · exact fun p hp => by cases hp

theorem approvalExpectation_ends (m : String) :
    (@approvalExpectation py m).Ends fun r => ∀ e, r = .ok e → e.migrationId = m := by
  have hany : ∀ {γ : Type} {p : CoordinatorProg py γ}, p.Ends fun _ => True :=
    Prog.ends_of_forall fun _ => trivial
  refine hany.bind (fun e _ p hp => by cases hp) fun migration _ => ?_
  refine hany.bind (fun e _ p hp => by cases hp) fun _ _ => ?_
  refine hany.bind (fun e _ p hp => by cases hp) fun participants _ => ?_
  intro e he
  unfold expectationOf at he
  split at he
  · split at he
    · split at he
      · cases he
        rfl
      · cases he
    · cases he
  · cases he

theorem abortAfterFailure_raises (m pid : String) (error : Exn) (phase : String) :
    (co.abortAfterFailure (α := α) m pid error phase).Ends fun r => ∀ a, r ≠ .ok a := by
  have hany : ∀ {γ : Type} {p : CoordinatorProg py γ}, p.Ends fun _ => True :=
    Prog.ends_of_forall fun _ => trivial
  refine hany.bind (fun e _ a ha => by cases ha) fun _ _ => ?_
  exact hany.bind (fun e _ a ha => by cases ha) fun _ _ a ha => by cases ha

section Approve
variable {World : Type} {store : World → Store} {w : World} {v : VerifiedGitHubApproval}

/-- The receipt of a verified approval is made of that approval alone. -/
theorem approvalReceipt_eq {intent : ChangeIntent} {participant : Participant}
    (h : SafetyPolicy.validateOwnerApproval py intent participant v.toOwnerApproval = .ok ()) :
    approvalReceipt mid intent participant v.toOwnerApproval (some v) = v.receipt mid := by
  obtain ⟨-, -, hpid, hold, hnew, -⟩ := SafetyPolicy.validateOwnerApproval_eq_ok h
  have hpid' : participant.participantId = v.participantId := hpid.symm
  have hold' : intent.oldField = v.oldField := hold.symm
  have hnew' : intent.newField = v.newField := hnew.symm
  rw [approvalReceipt, VerifiedGitHubApproval.receipt, hpid', hold', hnew']
  rfl

theorem verifyApproved_guarded (p : Pending py) (hvouched : VouchedFor vouched mid v)
    (hvalid : SafetyPolicy.validateOwnerApproval py p.migration.intent p.participant
      v.toOwnerApproval = .ok ()) :
    (co.verifyApproved mid p v.toOwnerApproval (some v)).Guarded (approving store vouched mid)
      (fun r w' => ∀ q, r = .ok q → (store w').ApprovedBy py vouched mid v) w := by
  refine Prog.Guarded.lift_bind (fun _ _ q hq => by cases hq) fun receipt hreceipt => ?_
  have hsame : receipt = v.receipt mid := by
    rw [approvalReceipt_eq hvalid] at hreceipt
    simp only [ApprovalReceipt.postInit, bind_eq_ok] at hreceipt
    obtain ⟨_, -, _, -, _, -, _, -, _, -, _, -, hreceipt⟩ := hreceipt
    exact (Except.ok.inj hreceipt).symm
  refine Prog.Guarded.bind (Prog.Guarded.perform fun w₁ _ _ => ⟨⟨v, hvouched, hsame⟩, fun r w₂ hcan => ?_⟩)
  cases r with
  | error e => exact fun q hq => by cases hq
  | ok _ =>
    have hestablished : receipt.row ∈ (store w₂).approvals ∧ receipt.Supported py (store w₂) := hcan.2
    rw [hsame] at hestablished
    have happroved : (store w₂).ApprovedBy py vouched mid v :=
      ⟨hvouched, hestablished.1, hestablished.2⟩
    obtain ⟨-, -, hpid, -⟩ := SafetyPolicy.validateOwnerApproval_eq_ok hvalid
    refine (approved_guarded happroved ?_).mono fun _ w' hw' _ _ => hw'
    refine .bind (Prog.calls_perform.mpr fun s hs _ _ => ⟨v, hpid, hs⟩) fun participant => ?_
    refine .bind (Prog.calls_perform.mpr fun s hs => ⟨v, rfl, hs⟩) fun result => ?_
    refine .bind (Prog.calls_lift _) fun _ => .bind (Prog.calls_perform.mpr fun _ _ => trivial) fun _ => ?_
    refine .bind (approved_of_ordinary (ordinary_quiet (record_quiet _))) fun _ => ?_
    refine .bind (Prog.calls_perform.mpr fun _ _ => trivial) fun current => ?_
    exact approved_of_ordinary (commitVerifiedCandidate_ordinary ..)

/-- An application that succeeds has put its receipt into the store. -/
theorem applyApproval_guarded (hvouched : VouchedFor vouched mid v) :
    (co.applyApproval mid v.toOwnerApproval (some v)).Guarded (approving store vouched mid)
      (fun r w' => ∀ outcome, r = .ok outcome → (store w').ApprovedBy py vouched mid v) w := by
  refine Prog.Guarded.bind (((ordinary_guarded (pendingApproval_ordinary mid _)).and_ends
    (pendingApproval_ends mid _)).mono fun r w₁ hr => ?_)
  cases r with
  | error e => exact fun _ hq => by cases hq
  | ok p =>
    have hvalid := hr.2 p rfl
    refine Prog.Guarded.tryCatch (Prog.Guarded.bind
      ((verifyApproved_guarded p hvouched hvalid).mono fun r w₂ hr₂ => ?_))
    have hfail : ∀ (e : Exn) (w₂ : World), (co.abortAfterFailure (α := PrepareOutcome) mid
        p.participant.participantId e "approval").Guarded (approving store vouched mid)
        (fun r w' => ∀ outcome, r = .ok outcome → (store w').ApprovedBy py vouched mid v) w₂ := by
      intro e w₂
      refine ((ordinary_guarded (abortAfterFailure_ordinary ..)).and_ends
        (abortAfterFailure_raises ..)).mono fun r w₃ hr₃ outcome houtcome => ?_
      exact (hr₃.2 outcome houtcome).elim
    cases r with
    | error e => exact hfail e w₂
    | ok participant =>
      refine (approved_guarded (hr₂ participant rfl) (approved_of_ordinary
        (finishApproval_ordinary ..))).mono fun r w₃ hr₃ => ?_
      cases r with
      | ok outcome => exact fun _ _ => hr₃
      | error e => exact hfail e w₃

theorem approveFromGithub_guarded (sourceApiUrl : String) :
    (co.approveFromGithub mid sourceApiUrl).Guarded (approving store vouched mid) (fun _ _ => True) w := by
  refine Prog.Guarded.lift_bind (fun _ _ => trivial) fun _ _ => ?_
  refine Prog.Guarded.bind (((ordinary_guarded (approvalExpectation_ordinary mid)).and_ends
    (approvalExpectation_ends mid)).mono fun r w₁ hr => ?_)
  cases r with
  | error e => trivial
  | ok e =>
    have hmid : e.migrationId = mid := hr.2 e rfl
    have hverify : (@verifyOnGithub py e sourceApiUrl).Guarded (approving store vouched mid)
        (fun r _ => ∀ v, r = .ok v → vouched e v) w₁ := by
      refine Prog.Guarded.tryCatch (Prog.Guarded.perform fun w₂ _ _ => ⟨trivial, fun r w₃ hcan => ?_⟩)
      cases r with
      | ok v =>
        intro v' hv'
        cases hv'
        exact hcan.2
      | error err =>
        dsimp only
        split
        · exact fun _ hv => by cases hv
        · exact fun _ hv => by cases hv
    refine Prog.Guarded.bind (hverify.mono fun r w₂ hr₂ => ?_)
    cases r with
    | error err => trivial
    | ok v =>
      refine Prog.Guarded.bind ((applyApproval_guarded ⟨e, hr₂ v rfl, hmid⟩).mono fun r w₃ hr₃ => ?_)
      cases r with
      | error err => trivial
      | ok outcome =>
        refine Prog.Guarded.bind (Prog.Guarded.perform fun w₄ hrely _ =>
          ⟨⟨rfl, hrely mid v (hr₃ outcome rfl)⟩, fun r w₅ _ => ?_⟩)
        cases r <;> trivial

end Approve

section Commit
variable {World : Type} {store : World → Store} {w : World}

/-- The approval that the coordinator remembers is in the store. -/
theorem reverifyApproval_guarded (intent : ChangeIntent) :
    (co.reverifyApproval mid intent).Guarded (approving store vouched mid)
      (fun r w' => r = .ok () → ∃ v, (store w').ApprovedBy py vouched mid v) w := by
  have hlook : (co.lookUpVerified mid).Guarded (approving store vouched mid) (fun r w' =>
      ∀ v, r = .ok v → (store w').ApprovedBy py vouched mid v) w := by
    refine Prog.Guarded.bind (Prog.Guarded.perform fun w₁ _ _ => ⟨trivial, fun r w₂ hcan => ?_⟩)
    cases r with
    | error e => exact fun _ hv => by cases hv
    | ok memory =>
      dsimp only
      split
      · next verified hget =>
        refine Prog.Guarded.lift_bind (fun _ _ v hv => by cases hv) fun _ _ v hv => ?_
        cases hv
        exact hcan.2 mid verified hget
      · exact fun v hv => by cases hv
  refine Prog.Guarded.bind (hlook.mono fun r w₁ hr => ?_)
  cases r with
  | error e => exact fun h => by cases h
  | ok v =>
    refine (approved_guarded (hr v rfl) ?_).mono fun _ w' hw' _ => ⟨v, hw'⟩
    refine .bind (Prog.calls_perform.mpr fun _ _ => trivial) fun current => .bind (Prog.calls_lift _) fun _ => ?_
    exact approved_of_ordinary (ordinary_quiet (record_quiet _))

theorem readyToRelease_guarded (hmode : co.allowTestApprovals = false) (migration : MigrationRecord)
    (context : ContextObject py) :
    (co.readyToRelease mid migration context).Guarded (approving store vouched mid)
      (fun r w' => ∀ ready, r = .ok ready → ∃ v, (store w').ApprovedBy py vouched mid v) w := by
  refine ordinary_bind (ordinary_calls (preliminary_checks (refreshImpact_checking ..))) (fun _ _ _ h => by cases h)
    fun refreshed w₁ _ => ?_
  refine ordinary_bind (ordinary_quiet (writeback_quiet ..)) (fun _ _ _ h => by cases h) fun _ w₂ _ => ?_
  rw [Prog.onlyWhen, if_pos hmode]
  refine Prog.Guarded.bind ((reverifyApproval_guarded migration.intent).mono fun r w₃ hr => ?_)
  cases r with
  | error e => exact fun _ h => by cases h
  | ok _ =>
    obtain ⟨v, hv⟩ := hr rfl
    exact (approved_guarded hv (approved_of_ordinary (ordinary_calls
      (preliminary_checks (stagePublication_checking ..))))).mono fun _ w' hw' _ _ => ⟨v, hw'⟩

/-- The release of what was approved. -/
theorem commitReady_approved {v : VerifiedGitHubApproval} (migration : MigrationRecord)
    (ready : ReadyToRelease py) : (co.commitReady mid migration ready).Calls fun op =>
      ∀ s : Store, s.ApprovedBy py vouched mid v → op.Authorized vouched mid s := by
  have hcall : ∀ {op : CoordinatorCall py}, (∀ s : Store, s.ApprovedBy py vouched mid v →
      op.Authorized vouched mid s) → op.run.Calls fun op => ∀ s : Store,
        s.ApprovedBy py vouched mid v → op.Authorized vouched mid s := fun h => Prog.calls_perform.mpr h
  have hrecord : ∀ calls, (co.record calls).Calls fun op => ∀ s : Store,
      s.ApprovedBy py vouched mid v → op.Authorized vouched mid s :=
    fun calls => approved_of_ordinary (ordinary_quiet (record_quiet calls))
  refine .bind (.tryCatch (hcall fun s hs => ⟨rfl, v, hs⟩) fun e => ?_) fun _ => ?_
  · split <;> trivial
  refine .bind (.tryCatch (.bind (.bind (hrecord _) fun _ =>
    .bind (hcall fun s hs => ⟨v, hs⟩) fun found => ?_) fun _ => .bind (Prog.calls_lift _) fun _ => trivial)
    fun e => .bind (hrecord _) fun _ => trivial) fun publication => ?_
  · cases found with
    | some publication => trivial
    | none => exact hcall fun s hs => ⟨v, hs⟩
  refine .bind (hcall fun _ _ => trivial) fun _ => ?_
  refine .bind (.tryCatch (hcall fun s hs _ => ⟨rfl, v, hs⟩) fun e => ?_) fun migration => ?_
  · refine .bind (hcall fun _ _ => trivial) fun current => ?_
    split
    · trivial
    · exact .bind (hrecord _) fun _ => trivial
  · exact approved_of_ordinary (ordinary_quiet (finalWriteback_quiet ..))

theorem commit_approved (hmode : co.allowTestApprovals = false) :
    (co.commit mid).Guarded (approving store vouched mid) (fun _ _ => True) w := by
  refine ordinary_bind (ordinary_call trivial) (fun _ _ => trivial) fun migration w₁ _ => ?_
  split
  · exact (ordinary_guarded (reconcileCommit_ordinary mid)).mono fun _ _ _ => trivial
  · refine Prog.Guarded.lift_bind (fun _ _ => trivial) fun _ _ => ?_
    refine ordinary_bind (ordinary_quiet (requiredContext_quiet mid)) (fun _ _ => trivial)
      fun context w₂ _ => ?_
    refine Prog.Guarded.lift_bind (fun _ _ => trivial) fun _ _ => ?_
    refine Prog.Guarded.bind (Prog.Guarded.tryCatch
      ((readyToRelease_guarded hmode migration context).mono fun r w₃ hr => ?_))
    cases r with
    | ok ready =>
      obtain ⟨v, hv⟩ := hr ready rfl
      exact (approved_guarded hv (commitReady_approved migration ready)).mono fun _ _ _ => trivial
    | error e =>
      refine ((ordinary_guarded (ordinary_calls (failBeforeGate_preliminary (α := ReadyToRelease py)
        mid e))).and_ends (failBeforeGate_raises mid e)).mono fun r w₄ hr₄ => ?_
      cases r with
      | ok ready => exact (hr₄.2 ready rfl).elim
      | error e => trivial

end Commit
end Coordinator

section Steps
variable {now : String} {s s' : Store} {c : StoreCall}

theorem retains_of_run (hs : s.Keyed) (h : c.run py now s = .ok s') : s.Retains py vouched s' :=
  fun m v hv => ⟨hv.vouched, by rw [StoreCall.approvals_eq h]; exact List.mem_append_left _ hv.recorded,
    hv.supported.step hs h⟩

/-- The gate of the migration is armed, or the migration is COMMITTED. -/
def Store.Released (s : Store) (mid : String) : Prop :=
  s.hasMigrationEvent mid gateArmedEvent = true ∨ s.status? mid = some .committed

theorem unreleased_of_all (hevents : s.events.all (fun e => e.eventType ≠ gateArmedEvent) = true)
    (hmigrations : s.migrations.all (fun r => r.status ≠ .committed) = true) (h : s.Released mid) :
    False := by
  rcases h with harmed | hcommitted
  · obtain ⟨e, he, habout⟩ := List.any_eq_true.mp harmed
    have hne := List.all_eq_true.mp hevents e he
    grind
  · obtain ⟨row, hrow, hstatus⟩ := Option.map_eq_some_iff.mp hcommitted
    have hne := List.all_eq_true.mp hmigrations row (List.mem_of_find?_eq_some hrow)
    rw [hstatus] at hne
    cases hne

/-- Only an arming and a COMMITTED release a migration. -/
theorem released_cases (hplain : c.Plain) (h : c.run py now s = .ok s') (hr : s'.Released mid) :
    s.Released mid ∨ (∃ v, c = .armPublicationGate mid v) ∨
      ∃ e v ev payload receipts, c = .transitionMigration mid .committed e v ev payload receipts := by
  have hmoves := StoreCall.moves h mid
  have hsame : s'.race mid = s.race mid → s.Released mid := by
    intro he
    have harmed : s'.hasMigrationEvent mid gateArmedEvent = s.hasMigrationEvent mid gateArmedEvent :=
      congrArg Race.armed he
    have hstatus : s'.status? mid = s.status? mid := congrArg Race.status he
    rwa [Store.Released, harmed, hstatus] at hr
  have hstatus : ∀ target : MigrationStatus, s'.race mid = { s.race mid with status := some target } →
      target ≠ .committed → s.Released mid := by
    intro target he htarget
    have harmed : s'.hasMigrationEvent mid gateArmedEvent = s.hasMigrationEvent mid gateArmedEvent :=
      congrArg Race.armed he
    have hafter : s'.status? mid = some target := congrArg Race.status he
    rw [Store.Released, harmed, hafter] at hr
    exact hr.imp_right fun hcommitted => absurd (Option.some.inj hcommitted) htarget
  cases c with
  | createMigration i ps =>
    simp only [StoreCall.Moves] at hmoves
    split at hmoves
    · exact .inl (hstatus .detected hmoves.2 (by decide))
    · exact .inl (hsame hmoves)
  | armPublicationGate m v =>
    simp only [StoreCall.Moves] at hmoves
    split at hmoves
    · next hm => exact .inr (.inl ⟨v, by rw [hm]⟩)
    · exact .inl (hsame hmoves)
  | reserveAbortCleanup m e v =>
    simp only [StoreCall.Moves] at hmoves
    split at hmoves
    · have harmed : s'.hasMigrationEvent mid gateArmedEvent = s.hasMigrationEvent mid gateArmedEvent :=
        congrArg Race.armed hmoves.2.2
      have hafter : s'.status? mid = s.status? mid := congrArg Race.status hmoves.2.2
      rw [Store.Released, harmed, hafter] at hr
      exact .inl hr
    · exact .inl (hsame hmoves)
  | transitionMigration m target e v ev payload receipts =>
    simp only [StoreCall.Moves] at hmoves
    split at hmoves
    · next hm =>
      by_cases htarget : target = .committed
      · exact .inr (.inr ⟨e, v, ev, payload, receipts, by rw [hm, htarget]⟩)
      · exact .inl (hstatus target (hmoves.2.2.2.2 hplain) htarget)
    · exact .inl (hsame hmoves)
  | abortMigration m receipt e v =>
    simp only [StoreCall.Moves] at hmoves
    split at hmoves
    · exact .inl (hstatus .aborted hmoves.2.2.2.2 (by decide))
    · exact .inl (hsame hmoves)
  | transitionParticipant => exact .inl (hsame (hmoves.2 hplain))
  | recordApproval => exact .inl (hsame hmoves)

end Steps

section System
variable {κ : Type}

/-- What every state of a run has: an approval behind what is remembered or released. -/
structure GateWorld.Approved (vouched : GitHubApprovalExpectation → VerifiedGitHubApproval → Prop)
    (w : GateWorld py κ) : Prop where
  vetted : w.store.Vetted py
  remembered : ∀ k m v, (w.memory k).verifiedGithubApprovals.get? m = some v →
    w.store.ApprovedBy py vouched m v
  released : ∀ m, w.store.Released m → ∃ v, w.store.ApprovedBy py vouched m v

/-- The contract of a thread, down to the Git calls of its candidates. -/
def approvalContract (vouched : GitHubApprovalExpectation → VerifiedGitHubApproval → Prop)
    (t : GateThread py κ) : Contract (GateWorld py κ) Exn (@SystemCall.Reply py) where
  inv := GateWorld.Approved vouched
  rely _ w w' := w.store.Retains py vouched w'.store
  pre w c := match c with
    | .coordinator c => c.Authorized vouched t.migrationId w.store
    | .git _ _ => True
  can w c reply w' := match c, reply with
    | .coordinator c, reply => w.store.Retains py vouched w'.store ∧ c.Establishes vouched w'.store reply
    | .git _ _, _ => w.store.Retains py vouched w'.store

variable {w : GateWorld py κ}

theorem MigrationCall.approving (co : Coordinator py) (hmode : co.allowTestApprovals = false)
    (call : MigrationCall py) : (call.program co mid).Guarded
      (approving GateWorld.store vouched mid) (fun _ _ => True) w := by
  have hend : ∀ {α : Type} {p : CoordinatorProg py α},
      p.Guarded (LineageTX.approving GateWorld.store vouched mid) (fun _ _ => True) w →
      (do let _ ← p : CoordinatorProg py Unit).Guarded
        (LineageTX.approving GateWorld.store vouched mid) (fun _ _ => True) w := by
    intro α p hp
    refine Prog.Guarded.bind (hp.mono fun r w' _ => ?_)
    cases r <;> trivial
  have hordinary : ∀ {α : Type} {p : CoordinatorProg py α}, p.Calls CoordinatorCall.Ordinary →
      p.Guarded (LineageTX.approving GateWorld.store vouched mid) (fun _ _ => True) w :=
    fun hp => (ordinary_guarded hp).mono fun _ _ _ => trivial
  cases call with
  | detect intent attestation participants =>
    exact hend (hordinary (Coordinator.detect_ordinary ..))
  | prepare roots => exact hend (hordinary (Coordinator.prepare_ordinary ..))
  | approve approval =>
    refine hend (Prog.Guarded.lift_bind (fun _ _ => trivial) fun _ hallowed => ?_)
    have hallowed := require_eq_ok.mp hallowed
    rw [hmode] at hallowed
    cases hallowed
  | approveFromGithub url => exact hend (Coordinator.approveFromGithub_guarded url)
  | commit => exact hend (Coordinator.commit_approved hmode)
  | abort => exact hend (hordinary (Coordinator.ordinary_calls (Coordinator.abort_preliminary mid)))
  | reconcileAbort => exact hend (hordinary (Coordinator.reconcileAbort_ordinary mid))

theorem done_approving (t : GateThread py κ) (manager : WorktreeManager) (c : CoordinatorCall py)
    (hpre : ∀ w₁ : GateWorld py κ, w.store.Retains py vouched w₁.store → True →
      c.Authorized vouched t.migrationId w₁.store) :
    (c.done manager).Guarded (approvalContract vouched t) (fun reply w' => ∃ w₁ : GateWorld py κ,
      w.store.Retains py vouched w₁.store ∧ True ∧ w₁.store.Retains py vouched w'.store ∧
        c.Establishes vouched w'.store reply) w := by
  have hperform : (Prog.perform (SystemCall.coordinator c) : SystemProg py c.Reply).Guarded
      (approvalContract vouched t) (fun reply w' => ∃ w₁ : GateWorld py κ,
        w.store.Retains py vouched w₁.store ∧ True ∧ w₁.store.Retains py vouched w'.store ∧
          c.Establishes vouched w'.store reply) w :=
    Prog.Guarded.perform fun w₁ hretains _ =>
      ⟨hpre w₁ hretains trivial, fun r w₂ hcan => ⟨w₁, hretains, trivial, hcan⟩⟩
  cases c with
  | worktrees method =>
    have hcalls : ((CoordinatorCall.worktrees method : CoordinatorCall py).done manager).Calls
        fun op => ∃ g, op = .git method g :=
      Prog.calls_expand fun g => Prog.calls_perform.mpr ⟨g, rfl⟩
    have hretains := hcalls.guarded (c := approvalContract vouched t)
      (φ := fun w' => w.store.Retains py vouched w'.store) (.refl _)
      (fun _ _ _ hrely hw => hw.trans hrely)
      (fun op r w₁ w₂ hop _ hw hcan => by
        obtain ⟨g, rfl⟩ := hop
        exact hw.trans hcan)
      (fun op w₁ hop _ hw => by
        obtain ⟨g, rfl⟩ := hop
        trivial)
    exact hretains.mono fun r w' hw => ⟨w, .refl _, trivial, hw, trivial⟩
  | _ => exact hperform

theorem program_approving (co : Coordinator py) (hmode : co.allowTestApprovals = false)
    (manager : WorktreeManager) (t : GateThread py κ) :
    ((t.call.program co t.migrationId).expand (CoordinatorCall.done manager)).Guarded
      (approvalContract vouched t) (fun _ _ => True) w :=
  Prog.Guarded.expand (fun c _ hpre => done_approving t manager c hpre)
    (MigrationCall.approving co hmode t.call)

variable [DecidableEq κ] {t : GateThread py κ} {m : Circumstance py}

theorem perform_retains (hw : w.Approved vouched) (c : SystemCall py) :
    w.store.Retains py vouched (w.perform t m c).2.store := by
  cases c with
  | git => exact .refl _
  | coordinator c =>
    cases c with
    | store c =>
      simp only [GateWorld.perform]
      split
      · next r s hanswer => exact retains_of_run hw.vetted.keyed (StoreCall.run_of_answer hanswer)
      · exact .refl _
      · exact .refl _
    | read r =>
      simp only [GateWorld.perform]
      split <;> exact .refl _
    | _ => exact .refl _

/-- What an answer tells is so. -/
theorem perform_establishes (hw : w.Approved vouched) (c : CoordinatorCall py)
    (hverify : ∀ e url, c = .verify e url →
      ∀ v, m.reply (.coordinator (.verify e url)) = .ok v → vouched e v) :
    c.Establishes vouched (w.perform t m (.coordinator c)).2.store
      (w.perform t m (.coordinator c)).1 := by
  cases c with
  | recalled => exact fun mid v hget => hw.remembered t.coordinator mid v hget
  | verify e url =>
    simp only [GateWorld.perform]
    cases hreply : m.reply (.coordinator (.verify e url)) with
    | ok v => exact hverify e url rfl v hreply
    | error err => trivial
  | store c =>
    cases c with
    | recordApproval receipt =>
      simp only [GateWorld.perform]
      split
      · next r s hanswer =>
        have hrun := StoreCall.run_of_answer hanswer
        refine ⟨?_, (supported_of_recordApproval hw.vetted.participants hrun).step hw.vetted.keyed hrun⟩
        rw [StoreCall.approvals_eq hrun]
        exact List.mem_append_right _ (List.mem_singleton_self _)
      · trivial
      · trivial
    | _ =>
      simp only [GateWorld.perform]
      split <;> trivial
  | read r =>
    simp only [GateWorld.perform]
    split <;> trivial
  | _ => trivial

/-- One step keeps an approval behind what is remembered or released. -/
theorem perform_approved (hw : w.Approved vouched) {c : SystemCall py}
    (hcareful : c.Careful t.migrationId w.store) (hraces : ∀ mid, (w.store.race mid).Exclusive)
    (hpre : (approvalContract vouched t).pre w c) : (w.perform t m c).2.Approved vouched := by
  have hsame : ∀ trace : List (String × Milestone),
      GateWorld.Approved vouched { store := w.store, memory := w.memory, trace } :=
    fun trace => ⟨hw.vetted, hw.remembered, hw.released⟩
  cases c with
  | git => exact hsame _
  | coordinator c =>
    cases c with
    | store c =>
      have hretains := @perform_retains py vouched κ w _ t m hw (.coordinator (.store c))
      simp only [GateWorld.perform] at hretains ⊢
      split at hretains
      · next hfails r s hanswer =>
        have hrun := StoreCall.run_of_answer hanswer
        refine ⟨hw.vetted.step hrun, fun k m v hget => hretains m v (hw.remembered k m v hget),
          fun mid hreleased => ?_⟩
        have happroved : ∃ v, w.store.ApprovedBy py vouched mid v := by
          rcases released_cases (respects_of_careful hraces hcareful hrun).1 hrun hreleased with
            hold | ⟨v, rfl⟩ | ⟨e, v, ev, payload, receipts, rfl⟩
          · exact hw.released mid hold
          · obtain ⟨hm, v, hv⟩ := hpre
            exact ⟨v, hm ▸ hv⟩
          · obtain ⟨hm, v, hv⟩ := hpre rfl
            exact ⟨v, hm ▸ hv⟩
        obtain ⟨v, hv⟩ := happroved
        exact ⟨v, hretains mid v hv⟩
      · exact hw
      · exact hw
    | read r =>
      simp only [GateWorld.perform]
      split <;> exact hw
    | recalled => exact hw
    | remember u =>
      refine ⟨hw.vetted, fun k mid v hget => ?_, hw.released⟩
      simp only [GateWorld.perform, Function.update_apply] at hget
      split at hget
      · next hk =>
        cases u with
        | verified m approval =>
          simp only [MemoryUpdate.apply, Dict.get?_set] at hget
          split at hget
          · next hm =>
            obtain ⟨rfl⟩ := Option.some.inj hget
            obtain ⟨hmid, hv⟩ := hpre
            rw [hm, hmid]
            exact hv
          · exact hw.remembered t.coordinator mid v hget
        | _ => exact hw.remembered t.coordinator mid v hget
      · exact hw.remembered k mid v hget
    | _ => exact hsame _

/-- What the verifiers of the coordinators have accepted. -/
def AcceptedBy (co : κ → Coordinator py) (e : GitHubApprovalExpectation) (v : VerifiedGitHubApproval) :
    Prop :=
  ∃ k verifier url fetched now, (co k).approvalVerifier = some verifier ∧
    verifier.verify py e url fetched now = .ok v

/-- A verification is answered by the verifier of the coordinator that asks for it. -/
def VerifierAnswers (co : κ → Coordinator py)
    (pool : Pool Exn (GateWorld py κ) (GateThread py κ) Unit (@SystemCall.Reply py)) :
    Choice (Circumstance py) (GateThread py κ) κ → Prop
  | .act n m => ∀ t e url next, pool.waits n = some (t, ⟨.coordinator (.verify e url), next⟩) →
    ∃ verifier fetched now, (co t.coordinator).approvalVerifier = some verifier ∧
      m.reply (.coordinator (.verify e url)) = verifier.verify py e url fetched now
  | _ => True

theorem gateSystem_approving (co : κ → Coordinator py) (manager : κ → WorktreeManager)
    (hmode : ∀ k, (co k).allowTestApprovals = false) :
    (gateSystem co manager).Sound
      (fun _ t => Prog.together (gateContract t) (approvalContract (AcceptedBy co) t))
      (fun w => w.Exclusive ∧ w.Approved (AcceptedBy co)) (VerifierAnswers co) where
  same _ _ := rfl
  refl _ _ _ _ := ⟨.refl _, .refl _⟩
  trans _ _ _ _ _ _ h h' := ⟨h.1.trans h'.1, h.2.trans h'.2⟩
  start _ t _ _ := ((program_guarded (co t.coordinator) (manager t.coordinator) t).together
    (program_approving (co t.coordinator) (hmode t.coordinator) (manager t.coordinator) t)).mono
      fun _ _ _ => trivial
  can pool n t op next m hwaits hready hallowed hw hpre := by
    refine ⟨(gateSystem_sound co manager).can pool n t op next m hwaits hready trivial hw.1 hpre.1, ?_⟩
    cases op with
    | git => exact .refl _
    | coordinator c =>
      refine ⟨perform_retains hw.2 _, perform_establishes hw.2 c fun e url hc v hreply => ?_⟩
      subst hc
      obtain ⟨verifier, fetched, now, hverifier, hanswer⟩ := hallowed t e url next hwaits
      exact ⟨t.coordinator, verifier, url, fetched, now, hverifier, hanswer.symm.trans hreply⟩
  keeps pool n t op next m hwaits hready _ hw hpre :=
    ⟨perform_exclusive hw.1 hpre.1, perform_approved hw.2 hpre.1 hw.1.race hpre.2⟩
  others pool n t op next m hwaits hready _ hw hpre n' t' op' next' hne hwaits' :=
    ⟨perform_notes op, perform_retains hw.2 op⟩
  replace pool k _ hw := by
    obtain ⟨hexclusive, hrely⟩ := (gateSystem_sound co manager).replace pool k trivial hw.1
    refine ⟨⟨hexclusive, hw.2.vetted, fun k' mid v hget => ?_, hw.2.released⟩,
      fun n i op next hi hwaits => ⟨hrely n i op next hi hwaits, .refl _⟩⟩
    simp only [gateSystem, Function.update_apply] at hget
    split at hget
    · cases hget
    · exact hw.2.remembered k' mid v hget

/-- Whatever the coordinators are asked for, however often and in every order of their steps:
no call that needs an approval is made without one, and what was released or is COMMITTED has
one. -/
theorem released_with_approval (co : κ → Coordinator py) (manager : κ → WorktreeManager)
    (hmode : ∀ k, (co k).allowTestApprovals = false) (calls : List (String × StoreCall))
    (hunreleased : ∀ mid, ¬(calls.foldl (storeStep py) {}).Released mid)
    (memory : κ → CoordinatorMemory py)
    (hforgotten : ∀ k, (memory k).verifiedGithubApprovals = .empty)
    (choices : List (Choice (Circumstance py) (GateThread py κ) κ))
    (hverify : CallsMeet (Pool.step (gateSystem co manager)) (VerifierAnswers co)
      { world := { store := calls.foldl (storeStep py) {}, memory } } choices) :
    StatesMeet (Pool.step (gateSystem co manager)) (fun pool =>
      (∀ mid, pool.world.store.Released mid →
        ∃ v, pool.world.store.ApprovedBy py (AcceptedBy co) mid v) ∧
      ∀ n t c next, pool.waits n = some (t, ⟨.coordinator c, next⟩) →
        c.Authorized (AcceptedBy co) t.migrationId pool.world.store)
      { world := { store := calls.foldl (storeStep py) {}, memory } } choices := by
  have hvetted : (calls.foldl (storeStep py) {}).Vetted py := by
    refine (StatesMeet.of_step vetted_empty fun s call _ hs => ?_).last
    rcases call.2.after_cases py call.1 s with h | h
    · rw [storeStep, h]
      exact hs
    · exact hs.step h
  have hexclusive : GateWorld.Exclusive
      ({ store := calls.foldl (storeStep py) {}, memory } : GateWorld py κ) := by
    refine ⟨fun mid => ⟨fun h => ?_, fun _ => ?_, fun h => ?_⟩, by simp, by simp, .nil⟩
    · exact hunreleased mid (.inl h.1)
    · exact Bool.eq_false_iff.mpr fun h => hunreleased mid (.inl h)
    · exact (hunreleased mid (.inr h)).elim
  have happroved : GateWorld.Approved (AcceptedBy co)
      ({ store := calls.foldl (storeStep py) {}, memory } : GateWorld py κ) := by
    refine ⟨hvetted, fun k mid v hget => ?_, fun mid h => (hunreleased mid h).elim⟩
    rw [hforgotten] at hget
    cases hget
  have hsound := gateSystem_approving co manager hmode
  have hgood := hsound.good_run (System.Sound.good_init ⟨hexclusive, happroved⟩) hverify
  exact hgood.mono fun pool hpool => ⟨hpool.1.2.released, fun n t c next hwaits =>
    (hsound.pre_of_good hpool hwaits).2⟩

end System

section Sample

/-- The owner of the sample's semantic consumer comments as carol. -/
def ownerVerifier : GitHubApprovalVerifier where
  ownerLoginByUrn := Dict.empty.set "urn:li:corpuser:c" "carol"
  explicitLoginAllowlist := []

def ownerExpectation : GitHubApprovalExpectation :=
  ⟨ChangeIntent.sample.migrationId, "consumer-c", "urn:li:corpuser:c", "cust_id", "customer_id"⟩

def ownerComment : Json := .obj [
  ("id", .int 7), ("node_id", .str "IC_7"),
  ("html_url", .str "https://github.com/data/c/issues/1#issuecomment-7"),
  ("body", .str (canonicalJson (.obj ownerExpectation.body))),
  ("user", .obj [("login", .str "Carol"), ("id", .int 3), ("type", .str "User")]),
  ("author_association", .str "MEMBER"), ("created_at", .str "2026-01-01T11:00:00Z"),
  ("updated_at", .str "2026-01-01T11:00:00Z")]

def ownerCoordinator : Coordinator plainPython where
  policy := ⟨true⟩
  sql := sampleAdapters.sql
  worktreesRoot := "/worktrees"
  hasWriter := false
  approvalVerifier := some ownerVerifier
  evidenceBaseUrl := "https://replay.lineagetx.invalid/evidence"
  baseUrlValid := by decide +kernel

/-- What the coordinator remembers of the waiting candidate. -/
def ownerMemory : CoordinatorMemory plainPython :=
  let key := (ChangeIntent.sample.migrationId, "consumer-c")
  { sessions := [(key, waitingCandidate.session)]
    proposals := [(key, waitingCandidate.envelope)]
    trustedPolicies := [(key, ⟨semanticPolicy, semanticPolicy, by decide +kernel⟩)] }

/-- At noon GitHub answers with the comment. -/
def ownerAnswers : Circumstance plainPython where
  now := noon
  fails := none
  reply
    | .coordinator (.verify e url) => ownerVerifier.verify plainPython e url (.ok ownerComment) noon
    | _ => raise .coordinationError "no answer"

/-- An approval from GitHub, up to the call after its recording. -/
def ownerChoices : List (Choice (Circumstance plainPython) (GateThread plainPython Unit) Unit) :=
  .start ⟨(), ChangeIntent.sample.migrationId,
    .approveFromGithub "https://api.github.com/repos/data/c/issues/comments/7"⟩ ::
    List.replicate 7 (.act 0 ownerAnswers)

def aboutToPrepare (pool : Pool Exn (GateWorld plainPython Unit) (GateThread plainPython Unit) Unit
    (@SystemCall.Reply plainPython)) : Bool :=
  match pool.waits 0 with
  | some (_, ⟨.coordinator (.store (.transitionParticipant _ .preparing .needsApproval ..)), _⟩) => true
  | _ => false

/-- The semantic candidate is about to be prepared, with carol's approval in the store. -/
theorem sample_approved : ∃ mid v, Store.ApprovedBy plainPython (AcceptedBy fun _ : Unit => ownerCoordinator)
    (ownerChoices.foldl (Pool.step (gateSystem (fun _ => ownerCoordinator) fun _ => ⟨"/worktrees"⟩))
      { world := { store := (atNoon waitingCalls).foldl (storeStep plainPython) {}
                   memory := fun _ => ownerMemory } }).world.store mid v := by
  have hready : aboutToPrepare (ownerChoices.foldl
      (Pool.step (gateSystem (fun _ => ownerCoordinator) fun _ => ⟨"/worktrees"⟩))
      { world := { store := (atNoon waitingCalls).foldl (storeStep plainPython) {}
                   memory := fun _ => ownerMemory } }) = true := by
    decide +kernel
  have hmigrations : ((atNoon waitingCalls).foldl (storeStep plainPython) {}).migrations.all
      (fun r => r.status ≠ .committed) = true := by
    decide +kernel
  have hevents : ((atNoon waitingCalls).foldl (storeStep plainPython) {}).events.all
      (fun e => e.eventType ≠ gateArmedEvent) = true := by
    decide +kernel
  have hreleased := released_with_approval (fun _ : Unit => ownerCoordinator) (fun _ => ⟨"/worktrees"⟩)
    (fun _ => rfl) (atNoon waitingCalls) (fun mid h => ?_) (fun _ => ownerMemory) (fun _ => rfl)
    ownerChoices (callsMeet_of_forall fun pool choice hchoice => ?_)
  · have hlast := hreleased.last
    generalize ownerChoices.foldl (Pool.step (gateSystem (fun _ => ownerCoordinator) fun _ =>
      ⟨"/worktrees"⟩)) _ = pool at hready hlast ⊢
    unfold aboutToPrepare at hready
    split at hready
    · next t pid v ev payload sha links next hwaits =>
      obtain ⟨approval, -, happroved⟩ := hlast.2 0 t _ next hwaits rfl rfl
      exact ⟨_, approval, happroved⟩
    · cases hready
  · exact unreleased_of_all hevents hmigrations h
  · rcases List.mem_cons.mp hchoice with rfl | hact
    · trivial
    · obtain ⟨-, rfl⟩ := List.mem_replicate.mp hact
      refine fun t e url next _ => ⟨ownerVerifier, .ok ownerComment, noon, rfl, ?_⟩
      unfold ownerAnswers
      dsimp only

end Sample

end LineageTX
