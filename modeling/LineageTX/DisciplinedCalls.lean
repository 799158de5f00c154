import LineageTX.GateDiscipline

/-! The discipline of the calls that lead up to a commit: detection, preparation and the
owner's approval, with the aborts that they start. -/
namespace LineageTX
open Library
variable {py : Python} {mid : String} {returned : PublicationResult → Prop}

namespace Coordinator
variable {co : Coordinator py}

theorem free_requiredDiscovery (m : String) :
    (@requiredDiscovery py m).Calls (CoordinatorCall.Free returned mid) := by
  refine .bind free_recalled fun memory => ?_
  split <;> trivial

theorem free_recalledResults (m : String) (pids : List String) :
    (@recalledResults py m pids).Calls (CoordinatorCall.Free returned mid) :=
  .bind free_recalled fun _ => Prog.calls_lift _

theorem free_recordDiff (participant : Participant) (session : RepositorySession) :
    (co.recordDiff participant session).Calls (CoordinatorCall.Free returned mid) :=
  .onlyWhen fun _ => .bind (free_perform fun _ => trivial) fun _ => free_perform fun _ => trivial

theorem free_commitVerifiedCandidate (participant current : Participant) (result : PreparationResult)
    (session : RepositorySession) (envelope : CandidateEnvelope) :
    (co.commitVerifiedCandidate participant current result session envelope).Calls
      (CoordinatorCall.Free returned mid) := by
  refine .bind (Prog.calls_lift _) fun _ => .bind (Prog.calls_lift _) fun _ => ?_
  refine .bind (free_perform fun _ => trivial) fun sha => .bind (free_record _) fun _ => ?_
  refine .bind (free_perform fun _ => ?_) fun verified => ?_
  · simp only [CoordinatorCall.Careful]
    decide
  · exact .bind (free_recordDiff participant session) fun _ => trivial

theorem free_settleParticipant (participant current : Participant) (result : PreparationResult)
    (session : RepositorySession) (envelope : CandidateEnvelope) :
    (co.settleParticipant participant current result session envelope).Calls
      (CoordinatorCall.Free returned mid) := by
  unfold settleParticipant
  split
  · refine .bind (Prog.calls_lift _) fun _ => .bind (Prog.calls_lift _) fun _ => ?_
    refine .bind (free_perform fun _ => trivial) fun changed => .bind (Prog.calls_lift _) fun _ => ?_
    exact .bind (free_transitionParticipant (by decide)) fun _ => trivial
  · exact .bind (free_commitVerifiedCandidate ..) fun _ => trivial
  · exact Prog.calls_lift _

theorem free_prepareParticipant (m : String) (migration : MigrationRecord)
    (context : ContextObject py) (roots : Dict String) (pid : String) :
    (co.prepareParticipant m migration context roots pid).Calls
      (CoordinatorCall.Free returned mid) := by
  refine .bind (free_read _) fun participant => ?_
  refine .bind (free_transitionParticipant (by decide)) fun participant => ?_
  refine .bind (Prog.calls_lift _) fun root => ?_
  refine .bind (free_perform fun _ => trivial) fun session => .bind (free_remember _) fun _ => ?_
  refine .bind (free_perform fun _ => trivial) fun request => .bind (Prog.calls_lift _) fun trusted => ?_
  refine .bind (free_perform fun _ => trivial) fun envelope => .bind (Prog.calls_lift _) fun proposal => ?_
  refine .bind (free_perform fun _ => trivial) fun result => .bind (free_remember _) fun _ => ?_
  refine .bind (free_remember _) fun _ => .bind (free_remember _) fun _ => ?_
  refine .bind (free_record _) fun _ => .bind (free_read _) fun current => ?_
  exact free_settleParticipant ..

theorem free_prepareAll (m : String) (migration : MigrationRecord) (context : ContextObject py)
    (roots : Dict String) (pids : List String) (active : String) :
    (co.prepareAll m migration context roots active pids).Calls
      (CoordinatorCall.Free returned mid) := by
  induction pids generalizing active with
  | nil => trivial
  | cons pid rest ih =>
    refine .bind (.attempt (free_prepareParticipant m migration context roots pid)) fun outcome => ?_
    cases outcome with
    | ok _ => exact ih pid
    | error e => trivial

theorem free_movePrepared (m : String) (migration : MigrationRecord) (pending : List String) :
    (@movePrepared py m migration pending).Calls (CoordinatorCall.Free returned mid) := by
  unfold movePrepared
  split
  · exact free_transition (by decide) (by decide)
  · exact .bind (Prog.calls_lift _) fun _ => free_transition (by decide) (by decide)

theorem free_finishPrepare (m : String) (migration : MigrationRecord) (pids : List String) :
    (co.finishPrepare m migration pids).Calls (CoordinatorCall.Free returned mid) := by
  refine .bind (free_read _) fun records => .bind (free_movePrepared ..) fun migration => ?_
  refine .bind (free_record _) fun _ => .bind (free_writeback ..) fun _ => ?_
  refine .bind (free_read _) fun participants => .bind (free_recalledResults ..) fun _ => ?_
  trivial

theorem free_prepareBody (m : String) (migration : MigrationRecord) (context : ContextObject py)
    (roots : Dict String) (pids : List String) :
    (co.prepareBody m migration context roots pids).Calls (CoordinatorCall.Free returned mid) := by
  refine .bind (.attempt (free_writeback ..)) fun written => ?_
  cases written with
  | error e => trivial
  | ok _ =>
    refine .bind (free_prepareAll m migration context roots pids "") fun prepared => ?_
    obtain ⟨active, outcome⟩ := prepared
    cases outcome with
    | error e => trivial
    | ok _ => exact .bind (.attempt (free_finishPrepare m migration pids)) fun _ => trivial

theorem free_detect (intent : ChangeIntent) (attestation : DiscoveryAttestation py)
    (participants : List Participant) :
    (co.detect intent attestation participants).Calls (CoordinatorCall.Free returned mid) := by
  refine .bind (Prog.calls_lift _) fun _ => .bind (Prog.calls_lift _) fun decision => ?_
  refine .bind (free_perform fun _ => trivial) fun migration => ?_
  refine .bind (free_remember _) fun _ => .bind (free_remember _) fun _ => ?_
  exact .bind (free_record _) fun _ => .bind (free_writeback ..) fun _ => trivial

theorem free_reconcileAbort (m : String) :
    (co.reconcileAbort m).Calls (CoordinatorCall.Free returned mid) := by
  refine .bind (free_read _) fun migration => .bind (Prog.calls_lift _) fun _ => ?_
  refine .bind (.bind (free_read _) fun events => ?_) fun cleanup => ?_
  · split
    · exact Prog.calls_lift _
    · trivial
  · refine .bind (.tryCatch (free_writeback ..) fun e => ?_) fun _ => ?_
    · exact .bind (free_record _) fun _ => trivial
    · exact .bind (free_record _) fun _ => trivial

theorem free_pendingApproval (m : String) (approval : OwnerApproval) :
    (@pendingApproval py m approval).Calls (CoordinatorCall.Free returned mid) := by
  refine .bind (free_read _) fun migration => .bind (Prog.calls_lift _) fun _ => ?_
  refine .bind (free_read _) fun participant => .bind (Prog.calls_lift _) fun _ => ?_
  refine .bind (Prog.calls_lift _) fun _ => .bind free_recalled fun memory => ?_
  dsimp only
  split
  · split <;> trivial
  · trivial

theorem free_verifyApproved (m : String) (p : Pending py) (approval : OwnerApproval)
    (verified : Option VerifiedGitHubApproval) :
    (co.verifyApproved m p approval verified).Calls (CoordinatorCall.Free returned mid) := by
  refine .bind (Prog.calls_lift _) fun receipt => .bind (free_perform fun _ => trivial) fun _ => ?_
  refine .bind (free_transitionParticipant (by decide)) fun participant => ?_
  refine .bind (free_perform fun _ => trivial) fun result => .bind (Prog.calls_lift _) fun _ => ?_
  refine .bind (free_remember _) fun _ => .bind (free_record _) fun _ => ?_
  exact .bind (free_read _) fun current => free_commitVerifiedCandidate ..

theorem free_finishApproval (m : String) (migration : MigrationRecord) (approval : OwnerApproval)
    (verified : Option VerifiedGitHubApproval) :
    (co.finishApproval m migration approval verified).Calls (CoordinatorCall.Free returned mid) := by
  refine .bind (free_read _) fun participants => .bind (Prog.calls_lift _) fun _ => ?_
  refine .bind (free_transition (by decide) (by decide)) fun migration => ?_
  refine .bind (free_record _) fun _ => .bind (free_record _) fun _ => .bind (free_record _) fun _ => ?_
  refine .bind (free_writeback ..) fun _ => .bind (free_requiredDiscovery m) fun decision => ?_
  exact .bind (free_recalledResults ..) fun _ => trivial

theorem free_approvalExpectation (m : String) :
    (@approvalExpectation py m).Calls (CoordinatorCall.Free returned mid) := by
  refine .bind (free_read _) fun migration => .bind (Prog.calls_lift _) fun _ => ?_
  exact .bind (free_read _) fun participants => Prog.calls_lift _

theorem free_verifyOnGithub (expectation : GitHubApprovalExpectation) (sourceApiUrl : String) :
    (@verifyOnGithub py expectation sourceApiUrl).Calls
      (CoordinatorCall.Free returned mid) := by
  refine .tryCatch (free_perform fun _ => trivial) fun e => ?_
  split <;> trivial

section Guarded
variable {World : Type} {store : World → Store} {w : World}
  {can : World → (op : CoordinatorCall py) → Result op.Reply → World → Prop}

theorem prepare_careful (h : Answers store returned can) (roots : Dict String) :
    (co.prepare mid roots).Guarded (careful store returned mid can) (fun _ _ => True) w := by
  refine careful_free_bind h (free_read _) fun migration w₁ _ => ?_
  refine careful_free_bind h (Prog.calls_lift _) fun _ w₂ _ => ?_
  refine careful_free_bind h (free_requiredContext mid) fun context w₃ _ => ?_
  refine careful_free_bind h (free_requiredDiscovery mid) fun decision w₄ _ => ?_
  refine careful_free_bind h (free_transition (by decide) (by decide)) fun migration w₅ _ => ?_
  refine careful_free_bind h (free_prepareBody mid migration context roots _) fun outcome w₆ _ => ?_
  obtain ⟨active, outcome⟩ := outcome
  cases outcome with
  | ok outcome => trivial
  | error e => exact abortAfterFailure_careful h active e "prepare"

theorem applyApproval_careful (h : Answers store returned can) (approval : OwnerApproval)
    (verified : Option VerifiedGitHubApproval) : (co.applyApproval mid approval verified).Guarded
      (careful store returned mid can) (fun _ _ => True) w := by
  refine careful_free_bind h (free_pendingApproval mid approval) fun p w₁ _ => ?_
  refine Prog.Guarded.tryCatch ((careful_of_free h (.bind
    (free_verifyApproved mid p approval verified) fun _ => free_finishApproval mid p.migration approval
      verified)).mono fun r w₂ _ => ?_)
  cases r with
  | ok outcome => trivial
  | error e => exact abortAfterFailure_careful h p.participant.participantId e "approval"

theorem approve_careful (h : Answers store returned can) (approval : OwnerApproval) :
    (co.approve mid approval).Guarded (careful store returned mid can) (fun _ _ => True) w :=
  careful_free_bind h (Prog.calls_lift _) fun _ _ _ => applyApproval_careful h approval none

theorem approveFromGithub_careful (h : Answers store returned can) (sourceApiUrl : String) :
    (co.approveFromGithub mid sourceApiUrl).Guarded (careful store returned mid can)
      (fun _ _ => True) w := by
  refine careful_free_bind h (Prog.calls_lift _) fun _ w₁ _ => ?_
  refine careful_free_bind h (free_approvalExpectation mid) fun expectation w₂ _ => ?_
  refine careful_free_bind h (free_verifyOnGithub expectation sourceApiUrl) fun verified w₃ _ => ?_
  refine Prog.Guarded.bind ((applyApproval_careful h verified.toOwnerApproval (some verified)).mono
    fun r w₄ _ => ?_)
  cases r with
  | error e => trivial
  | ok outcome =>
    exact careful_of_calls h (.bind (free_remember _) fun _ => trivial)

end Guarded
end Coordinator
end LineageTX
