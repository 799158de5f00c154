import LineageTX.GateExclusion

/-! Every public method of a coordinator moves its migration to ABORTED only by running
`abort` as a part of it. -/
namespace LineageTX
open Library
variable {py : Python} {mid : String}

/-- Not the move to ABORTED. -/
def CoordinatorCall.Spares : CoordinatorCall py → Prop
  | .store (.abortMigration ..) => False
  | _ => True

theorem spares_of_free {returned : PublicationResult → Prop} {op : CoordinatorCall py}
    (h : op.Free returned mid) : op.Spares := by
  cases op with
  | store c =>
    cases c with
    | abortMigration m receipt e v =>
      have hreserved := (h {}).2.1
      simp [Store.hasMigrationEvent] at hreserved
    | _ => trivial
  | _ => trivial

namespace Coordinator
variable {co : Coordinator py} {α : Type}

/-- Made of calls that spare the migration and of runs of its abort. -/
abbrev AbortsWhole (co : Coordinator py) (mid : String) (p : CoordinatorProg py α) : Prop :=
  Prog.Composed CoordinatorCall.Spares (co.abort mid) p

theorem whole_of_free {returned : PublicationResult → Prop} {p : CoordinatorProg py α}
    (h : p.Calls (CoordinatorCall.Free returned mid)) : co.AbortsWhole mid p :=
  (h.mono fun _ => spares_of_free).composed

theorem abortAfterFailure_whole (pid : String) (error : Exn) (phase : String) :
    co.AbortsWhole mid (co.abortAfterFailure (α := α) mid pid error phase) := by
  refine .bind ?_ fun _ => .bind ?_ fun _ => .done _
  · refine @whole_of_free _ _ _ _ (fun _ => True) _ (.onlyWhen fun _ => ?_)
    exact .bind (.attempt (free_markFailed ..)) fun _ => trivial
  · exact .tryCatch .whole fun e => .done _

theorem failBeforeGate_whole (e : Exn) : co.AbortsWhole mid (co.failBeforeGate (α := α) mid e) := by
  refine .bind (@whole_of_free _ _ _ _ (fun _ => True) _ (free_read _)) fun migration => ?_
  refine .bind (.onlyWhen ?_) fun _ => .done _
  refine .bind (@whole_of_free _ _ _ _ (fun _ => True) _ (free_read _)) fun armed => ?_
  exact .bind (Prog.calls_lift _).composed fun _ => abortAfterFailure_whole "" e "commit"

theorem spares_commitReady (migration : MigrationRecord) (ready : ReadyToRelease py) :
    (co.commitReady mid migration ready).Calls CoordinatorCall.Spares := by
  have hperform : ∀ {op : CoordinatorCall py}, op.Spares → op.run.Calls CoordinatorCall.Spares :=
    Prog.calls_perform.mpr
  have hrecord : ∀ calls, (co.record calls).Calls CoordinatorCall.Spares := fun calls =>
    (@free_record _ mid (fun _ => True) _ calls).mono fun _ => spares_of_free
  refine .bind (.tryCatch (hperform trivial) fun e => ?_) fun _ => .bind (.tryCatch ?_ fun e => ?_)
    fun publication => .bind (hperform trivial) fun _ => .bind (.tryCatch (hperform trivial) fun e => ?_)
    fun migration => (@free_finalWriteback _ mid (fun _ => True) ..).mono
      fun _ => spares_of_free
  · split <;> trivial
  · refine .bind (.bind (hrecord _) fun _ => .bind (hperform trivial) fun found => ?_)
      fun publication => .bind (Prog.calls_lift _) fun _ => trivial
    split
    · trivial
    · exact hperform trivial
  · exact .bind (hrecord _) fun _ => trivial
  · refine .bind (hperform trivial) fun current => ?_
    split
    · trivial
    · exact .bind (hrecord _) fun _ => trivial

theorem commit_whole : co.AbortsWhole mid (co.commit mid) := by
  have hfree : ∀ {α : Type} {p : CoordinatorProg py α},
      p.Calls (CoordinatorCall.Free (fun _ => True) mid) → co.AbortsWhole mid p := whole_of_free
  refine .bind (hfree (free_read _)) fun migration => ?_
  split
  · exact hfree (free_reconcileCommit mid)
  · refine .bind (Prog.calls_lift _).composed fun _ => .bind (hfree (free_requiredContext mid))
      fun context => .bind (Prog.calls_lift _).composed fun _ => .bind ?_
      fun ready => (spares_commitReady migration ready).composed
    exact .tryCatch (hfree (free_readyToRelease mid migration context)) failBeforeGate_whole

theorem prepare_whole (roots : Dict String) : co.AbortsWhole mid (co.prepare mid roots) := by
  have hfree : ∀ {α : Type} {p : CoordinatorProg py α},
      p.Calls (CoordinatorCall.Free (fun _ => True) mid) → co.AbortsWhole mid p := whole_of_free
  refine .bind (hfree (free_read _)) fun migration => .bind (Prog.calls_lift _).composed fun _ => ?_
  refine .bind (hfree (free_requiredContext mid)) fun context => ?_
  refine .bind (hfree (free_requiredDiscovery mid)) fun decision => ?_
  refine .bind (hfree (free_transition (by decide) (by decide))) fun migration => ?_
  refine .bind (hfree (free_prepareBody mid migration context roots _)) fun prepared => ?_
  obtain ⟨active, outcome⟩ := prepared
  cases outcome with
  | ok outcome => exact .done _
  | error e => exact abortAfterFailure_whole active e "prepare"

theorem applyApproval_whole (approval : OwnerApproval) (verified : Option VerifiedGitHubApproval) :
    co.AbortsWhole mid (co.applyApproval mid approval verified) := by
  have hfree : ∀ {α : Type} {p : CoordinatorProg py α},
      p.Calls (CoordinatorCall.Free (fun _ => True) mid) → co.AbortsWhole mid p := whole_of_free
  refine .bind (hfree (free_pendingApproval mid approval)) fun p => .tryCatch (hfree ?_) fun e =>
    abortAfterFailure_whole p.participant.participantId e "approval"
  exact .bind (free_verifyApproved mid p approval verified) fun _ =>
    free_finishApproval mid p.migration approval verified

theorem approveFromGithub_whole (sourceApiUrl : String) :
    co.AbortsWhole mid (co.approveFromGithub mid sourceApiUrl) := by
  have hfree : ∀ {α : Type} {p : CoordinatorProg py α},
      p.Calls (CoordinatorCall.Free (fun _ => True) mid) → co.AbortsWhole mid p := whole_of_free
  refine .bind (Prog.calls_lift _).composed fun _ => ?_
  refine .bind (hfree (free_approvalExpectation mid)) fun expectation => ?_
  refine .bind (hfree (free_verifyOnGithub expectation sourceApiUrl)) fun verified => ?_
  refine .bind (applyApproval_whole verified.toOwnerApproval (some verified)) fun outcome => ?_
  exact .bind (hfree (free_remember _)) fun _ => .done _

end Coordinator

theorem MigrationCall.whole (co : Coordinator py) (call : MigrationCall py) :
    co.AbortsWhole mid (call.program co mid) := by
  have hfree : ∀ {α : Type} {p : CoordinatorProg py α},
      p.Calls (CoordinatorCall.Free (fun _ => True) mid) → co.AbortsWhole mid p :=
    Coordinator.whole_of_free
  cases call with
  | detect intent attestation participants =>
    exact .bind (hfree (Coordinator.free_detect ..)) fun _ => .done _
  | prepare roots => exact .bind (Coordinator.prepare_whole roots) fun _ => .done _
  | approve approval =>
    exact .bind (.bind (Prog.calls_lift _).composed fun _ =>
      Coordinator.applyApproval_whole approval none) fun _ => .done _
  | approveFromGithub url => exact .bind (Coordinator.approveFromGithub_whole url) fun _ => .done _
  | commit => exact .bind Coordinator.commit_whole fun _ => .done _
  | abort => exact .bind .whole fun _ => .done _
  | reconcileAbort => exact .bind (hfree (Coordinator.free_reconcileAbort mid)) fun _ => .done _

end LineageTX
