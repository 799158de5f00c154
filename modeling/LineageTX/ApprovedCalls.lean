import LineageTX.ApprovalRows
import LineageTX.CommitJustified

/-! What every coordinator that takes no approval from its caller finds at its calls, whatever
others do in between: an approval is recorded only as the verifier accepted it, and the
semantic candidate, the gate and COMMITTED come after the recording. -/
namespace LineageTX
open Library Store
variable {py : Python} {mid : String} {vouched : GitHubApprovalExpectation → VerifiedGitHubApproval → Prop}

/-- The receipt that is recorded of a verified approval. -/
def VerifiedGitHubApproval.receipt (v : VerifiedGitHubApproval) (mid : String) : ApprovalReceipt where
  migrationId := mid
  participantId := v.participantId
  ownerUrn := v.ownerUrn
  approvedMapping := v.oldField ++ " -> " ++ v.newField
  approvedAt := v.approvedAt
  evidenceUrl := v.evidenceUrl
  verification := v.verification

/-- The verifier accepted the approval for the migration. -/
def VouchedFor (vouched : GitHubApprovalExpectation → VerifiedGitHubApproval → Prop) (mid : String)
    (v : VerifiedGitHubApproval) : Prop :=
  ∃ e, vouched e v ∧ e.migrationId = mid

/-- The store holds the receipt of an approval that the verifier accepted, from an owner of a
semantic participant and for the mapping of the stored intent. -/
structure Store.ApprovedBy (py : Python)
    (vouched : GitHubApprovalExpectation → VerifiedGitHubApproval → Prop) (s : Store) (mid : String)
    (v : VerifiedGitHubApproval) : Prop where
  vouched : VouchedFor vouched mid v
  recorded : (v.receipt mid).row ∈ s.approvals
  supported : (v.receipt mid).Supported py s

variable (vouched) in
/-- What a call for a migration needs to find. -/
def CoordinatorCall.Authorized (mid : String) (s : Store) : CoordinatorCall py → Prop
  | .store (.armPublicationGate m _) => m = mid ∧ ∃ v, s.ApprovedBy py vouched mid v
  | .store (.transitionMigration m target _ _ _ _ _) =>
    target = .committed → m = mid ∧ ∃ v, s.ApprovedBy py vouched mid v
  | .store (.recordApproval receipt) => ∃ v, VouchedFor vouched mid v ∧ receipt = v.receipt mid
  | .store (.transitionParticipant pid target expected _ _ _ _ _) => target = .preparing →
    expected = .needsApproval → ∃ v, v.participantId = pid ∧ s.ApprovedBy py vouched mid v
  | .remember (.verified m v) => m = mid ∧ s.ApprovedBy py vouched mid v
  | .runAdapter _ _ _ (some approval) => ∃ v, approval = v.toOwnerApproval ∧
    s.ApprovedBy py vouched mid v
  | .reconcile .. | .releaseGate .. => ∃ v, s.ApprovedBy py vouched mid v
  | _ => True

/-- The store's call settles no participant alone. -/
def StoreCall.Undecided : StoreCall → Prop
  | .transitionParticipant _ target .. => target ≠ .committed ∧ target ≠ .aborted
  | _ => True

/-- A call that needs no approval and settles no participant alone. -/
def CoordinatorCall.Ordinary : CoordinatorCall py → Prop
  | .store (.transitionMigration _ target _ _ _ _ _) => target ≠ .committed
  | .store (.transitionParticipant _ target expected _ _ _ _ _) =>
    (target ≠ .committed ∧ target ≠ .aborted) ∧ (target = .preparing → expected ≠ .needsApproval)
  | op => op.Preliminary

theorem ordinary_of_preliminary {op : CoordinatorCall py} (h : op.Preliminary) : op.Ordinary := by
  cases op with
  | store c =>
    cases c with
    | transitionMigration => exact h.elim
    | transitionParticipant pid target expected =>
      obtain rfl : target = .failed := h
      exact ⟨⟨nofun, nofun⟩, nofun⟩
    | _ => exact h
  | _ => exact h

theorem authorized_of_ordinary {op : CoordinatorCall py} {s : Store} (h : op.Ordinary) :
    op.Authorized vouched mid s := by
  cases op with
  | store c =>
    cases c with
    | armPublicationGate | recordApproval => exact h.elim
    | transitionMigration m target => exact fun he => absurd he h
    | transitionParticipant pid target expected => exact fun ht he => absurd he (h.2 ht)
    | _ => trivial
  | remember u =>
    cases u with
    | verified => exact h.elim
    | _ => trivial
  | runAdapter session proposal trusted approval =>
    cases approval with
    | some => exact h.elim
    | none => trivial
  | reconcile | releaseGate => exact h.elim
  | _ => trivial

namespace Coordinator
variable {co : Coordinator py} {α : Type}

theorem ordinary_calls {p : CoordinatorProg py α} (h : p.Calls CoordinatorCall.Preliminary) :
    p.Calls CoordinatorCall.Ordinary := h.mono fun _ => ordinary_of_preliminary

theorem ordinary_quiet {p : CoordinatorProg py α} (h : p.Calls CoordinatorCall.Quiet) :
    p.Calls CoordinatorCall.Ordinary := ordinary_calls (preliminary_calls h)

theorem ordinary_call {op : CoordinatorCall py} (h : op.Ordinary) :
    op.run.Calls CoordinatorCall.Ordinary := Prog.calls_perform.mpr h

theorem recordDiff_ordinary (participant : Participant) (session : RepositorySession) :
    (co.recordDiff participant session).Calls CoordinatorCall.Ordinary :=
  .onlyWhen fun _ => .bind (ordinary_call trivial) fun _ => ordinary_call trivial

theorem commitVerifiedCandidate_ordinary (participant current : Participant)
    (result : PreparationResult) (session : RepositorySession) (envelope : CandidateEnvelope) :
    (co.commitVerifiedCandidate participant current result session envelope).Calls
      CoordinatorCall.Ordinary := by
  refine .bind (Prog.calls_lift _) fun _ => .bind (Prog.calls_lift _) fun _ => ?_
  refine .bind (ordinary_call trivial) fun sha => .bind (ordinary_quiet (record_quiet _)) fun _ => ?_
  refine .bind (ordinary_call ⟨by decide, nofun⟩) fun verified => ?_
  exact .bind (recordDiff_ordinary participant session) fun _ => trivial

theorem settleParticipant_ordinary (participant current : Participant) (result : PreparationResult)
    (session : RepositorySession) (envelope : CandidateEnvelope) :
    (co.settleParticipant participant current result session envelope).Calls
      CoordinatorCall.Ordinary := by
  unfold settleParticipant
  split
  · refine .bind (Prog.calls_lift _) fun _ => .bind (Prog.calls_lift _) fun _ => ?_
    refine .bind (ordinary_call trivial) fun changed => .bind (Prog.calls_lift _) fun _ => ?_
    exact .bind (ordinary_call ⟨by decide, nofun⟩) fun _ => trivial
  · exact .bind (commitVerifiedCandidate_ordinary ..) fun _ => trivial
  · exact Prog.calls_lift _

theorem prepareParticipant_ordinary (m : String) (migration : MigrationRecord)
    (context : ContextObject py) (roots : Dict String) (pid : String) :
    (co.prepareParticipant m migration context roots pid).Calls CoordinatorCall.Ordinary := by
  refine .bind (ordinary_call trivial) fun participant => ?_
  refine .bind (ordinary_call ⟨by decide, fun _ h => by cases h⟩) fun participant => ?_
  refine .bind (Prog.calls_lift _) fun root => .bind (ordinary_call trivial) fun session => ?_
  refine .bind (ordinary_call trivial) fun _ => .bind (ordinary_call trivial) fun request => ?_
  refine .bind (Prog.calls_lift _) fun trusted => .bind (ordinary_call trivial) fun envelope => ?_
  refine .bind (Prog.calls_lift _) fun proposal => .bind (ordinary_call trivial) fun result => ?_
  refine .bind (ordinary_call trivial) fun _ => .bind (ordinary_call trivial) fun _ => ?_
  refine .bind (ordinary_call trivial) fun _ => .bind (ordinary_quiet (record_quiet _)) fun _ => ?_
  exact .bind (ordinary_call trivial) fun current => settleParticipant_ordinary ..

theorem prepareAll_ordinary (m : String) (migration : MigrationRecord) (context : ContextObject py)
    (roots : Dict String) (pids : List String) (active : String) :
    (co.prepareAll m migration context roots active pids).Calls CoordinatorCall.Ordinary := by
  induction pids generalizing active with
  | nil => trivial
  | cons pid rest ih =>
    refine .bind (.attempt (prepareParticipant_ordinary m migration context roots pid)) fun outcome => ?_
    cases outcome with
    | ok _ => exact ih pid
    | error e => trivial

theorem recalledResults_ordinary (m : String) (pids : List String) :
    (@recalledResults py m pids).Calls CoordinatorCall.Ordinary :=
  .bind (ordinary_call trivial) fun _ => Prog.calls_lift _

theorem requiredDiscovery_ordinary (m : String) :
    (@requiredDiscovery py m).Calls CoordinatorCall.Ordinary := by
  refine .bind (ordinary_call trivial) fun memory => ?_
  split <;> trivial

theorem finishPrepare_ordinary (m : String) (migration : MigrationRecord) (pids : List String) :
    (co.finishPrepare m migration pids).Calls CoordinatorCall.Ordinary := by
  have hmove : ∀ pending, (@movePrepared py m migration pending).Calls CoordinatorCall.Ordinary := by
    intro pending
    unfold movePrepared
    split
    · exact ordinary_call nofun
    · exact .bind (Prog.calls_lift _) fun _ => ordinary_call nofun
  refine .bind (ordinary_call trivial) fun records => .bind (hmove _) fun migration => ?_
  refine .bind (ordinary_quiet (record_quiet _)) fun _ => ?_
  refine .bind (ordinary_quiet (writeback_quiet ..)) fun _ => ?_
  refine .bind (ordinary_call trivial) fun participants => ?_
  exact .bind (recalledResults_ordinary ..) fun _ => trivial

theorem prepareBody_ordinary (m : String) (migration : MigrationRecord) (context : ContextObject py)
    (roots : Dict String) (pids : List String) :
    (co.prepareBody m migration context roots pids).Calls CoordinatorCall.Ordinary := by
  refine .bind (.attempt (ordinary_quiet (writeback_quiet ..))) fun written => ?_
  cases written with
  | error e => trivial
  | ok _ =>
    refine .bind (prepareAll_ordinary m migration context roots pids "") fun prepared => ?_
    obtain ⟨active, outcome⟩ := prepared
    cases outcome with
    | error e => trivial
    | ok _ => exact .bind (.attempt (finishPrepare_ordinary m migration pids)) fun _ => trivial

theorem abortAfterFailure_ordinary (m pid : String) (error : Exn) (phase : String) :
    (co.abortAfterFailure (α := α) m pid error phase).Calls CoordinatorCall.Ordinary := by
  have hmark : (@markFailed py pid phase error).Calls CoordinatorCall.Ordinary := by
    refine .bind (ordinary_call trivial) fun participant => .onlyWhen fun _ => ?_
    exact .bind (ordinary_call ⟨by decide, nofun⟩) fun _ => trivial
  refine .bind (.onlyWhen fun _ => .bind (.attempt hmark) fun _ => trivial) fun _ => ?_
  exact .bind (.tryCatch (ordinary_calls (abort_preliminary m)) fun e => Prog.calls_lift _)
    fun _ => Prog.calls_lift _

theorem prepare_ordinary (m : String) (roots : Dict String) :
    (co.prepare m roots).Calls CoordinatorCall.Ordinary := by
  refine .bind (ordinary_call trivial) fun migration => .bind (Prog.calls_lift _) fun _ => ?_
  refine .bind (ordinary_quiet (requiredContext_quiet m)) fun context => ?_
  refine .bind (requiredDiscovery_ordinary m) fun decision => .bind (ordinary_call nofun) fun migration => ?_
  refine .bind (prepareBody_ordinary m migration context roots _) fun outcome => ?_
  obtain ⟨active, outcome⟩ := outcome
  cases outcome with
  | ok outcome => trivial
  | error e => exact abortAfterFailure_ordinary m active e "prepare"

theorem detect_ordinary (intent : ChangeIntent) (attestation : DiscoveryAttestation py)
    (participants : List Participant) :
    (co.detect intent attestation participants).Calls CoordinatorCall.Ordinary := by
  refine .bind (Prog.calls_lift _) fun _ => .bind (Prog.calls_lift _) fun decision => ?_
  refine .bind (ordinary_call trivial) fun migration => .bind (ordinary_call trivial) fun _ => ?_
  refine .bind (ordinary_call trivial) fun _ => .bind (ordinary_quiet (record_quiet _)) fun _ => ?_
  exact .bind (ordinary_quiet (writeback_quiet ..)) fun _ => trivial

theorem reconcileAbort_ordinary (m : String) :
    (co.reconcileAbort m).Calls CoordinatorCall.Ordinary := by
  refine .bind (ordinary_call trivial) fun migration => .bind (Prog.calls_lift _) fun _ => ?_
  refine .bind (.bind (ordinary_call trivial) fun events => ?_) fun cleanup => ?_
  · split
    · exact Prog.calls_lift _
    · trivial
  · refine .bind (.tryCatch (ordinary_quiet (writeback_quiet ..)) fun e => ?_) fun _ => ?_
    · exact .bind (ordinary_quiet (record_quiet _)) fun _ => trivial
    · exact .bind (ordinary_quiet (record_quiet _)) fun _ => trivial

theorem reconcileCommit_ordinary (m : String) :
    (co.reconcileCommit m).Calls CoordinatorCall.Ordinary := by
  refine .bind (ordinary_call trivial) fun migration => .bind (Prog.calls_lift _) fun _ => ?_
  refine .bind (ordinary_quiet (requiredContext_quiet m)) fun context => .bind (Prog.calls_lift _) fun _ => ?_
  refine .bind (.bind (ordinary_call trivial) fun _ => .bind (Prog.calls_lift _) fun _ => trivial)
    fun refreshed => .bind ?_ fun publication => ordinary_quiet (finalWriteback_quiet ..)
  refine .bind (ordinary_call trivial) fun memory => ?_
  split
  · trivial
  · refine .bind (.bind (ordinary_call trivial) fun events => ?_) fun _ =>
      .bind (ordinary_call trivial) fun _ => trivial
    split
    · exact Prog.calls_lift _
    · trivial

theorem pendingApproval_ordinary (m : String) (approval : OwnerApproval) :
    (@pendingApproval py m approval).Calls CoordinatorCall.Ordinary := by
  refine .bind (ordinary_call trivial) fun migration => .bind (Prog.calls_lift _) fun _ => ?_
  refine .bind (ordinary_call trivial) fun participant => .bind (Prog.calls_lift _) fun _ => ?_
  refine .bind (Prog.calls_lift _) fun _ => .bind (ordinary_call trivial) fun memory => ?_
  dsimp only
  split
  · split <;> trivial
  · trivial

theorem finishApproval_ordinary (m : String) (migration : MigrationRecord) (approval : OwnerApproval)
    (verified : Option VerifiedGitHubApproval) :
    (co.finishApproval m migration approval verified).Calls CoordinatorCall.Ordinary := by
  have hrecord : ∀ calls, (co.record calls).Calls CoordinatorCall.Ordinary :=
    fun calls => ordinary_quiet (record_quiet calls)
  refine .bind (ordinary_call trivial) fun participants => .bind (Prog.calls_lift _) fun _ => ?_
  refine .bind (ordinary_call nofun) fun migration => .bind (hrecord _) fun _ => ?_
  refine .bind (hrecord _) fun _ => .bind (hrecord _) fun _ => ?_
  refine .bind (ordinary_quiet (writeback_quiet ..)) fun _ => ?_
  refine .bind (requiredDiscovery_ordinary m) fun decision => ?_
  exact .bind (recalledResults_ordinary ..) fun _ => trivial

theorem approvalExpectation_ordinary (m : String) :
    (@approvalExpectation py m).Calls CoordinatorCall.Ordinary := by
  refine .bind (ordinary_call trivial) fun migration => .bind (Prog.calls_lift _) fun _ => ?_
  exact .bind (ordinary_call trivial) fun participants => Prog.calls_lift _

end Coordinator
end LineageTX
