import LineageTX.CoordinatorRuns
import LineageTX.StoreSteps

/-! Invalid approvals of a waiting migration: which of them are refused before anything
changes, and which of them abort it. -/
namespace LineageTX
open Library Coordinator
variable {py : Python}

/-- An approval of the caller, or a URL with what GitHub answers there and when. -/
inductive ApprovalCall where
  | approve (approval : OwnerApproval)
  | approveFromGithub (sourceApiUrl : String) (fetched : Result Json) (now : String)

variable (co : Coordinator py)

def ApprovalCall.program (mid : String) : ApprovalCall → CoordinatorProg py PrepareOutcome
  | .approve approval => co.approve mid approval
  | .approveFromGithub sourceApiUrl _ _ => co.approveFromGithub mid sourceApiUrl

/-- What the services answer during the call: GitHub as given, the adapters on some files. -/
def ApprovalCall.Services (call : ApprovalCall) : (c : CoordinatorCall py) → Result c.Reply → Prop
  | .verify e url, reply =>
    match call with
    | .approve _ => False
    | .approveFromGithub _ fetched now => ∃ verifier, co.approvalVerifier = some verifier ∧
      reply = verifier.verify py e url fetched now
  | .runAdapter session proposal trusted approval, reply => ∃ adapters env wt,
    reply = (runAdapter py adapters env session proposal trusted.val approval wt).1
  | _, _ => True

/-- The approval that the call brings to a migration, with the verification behind it. -/
def ApprovalCall.Presents (mid : String) (w : CoordinatorState py) (approval : OwnerApproval)
    (verified : Option VerifiedGitHubApproval) : ApprovalCall → Prop
  | .approve given => co.allowTestApprovals = true ∧ approval = given ∧ verified = none
  | .approveFromGithub sourceApiUrl fetched now => ∃ verifier migration participants e x,
    co.approvalVerifier = some verifier ∧ w.store.getMigration py mid = .ok migration ∧
      migration.status = .needsApproval ∧ w.store.listParticipants py mid = .ok participants ∧
      expectationOf mid migration.intent participants = .ok e ∧
      verifier.verify py e sourceApiUrl fetched now = .ok x ∧
      approval = x.toOwnerApproval ∧ verified = some x

/-- The migration and the participant wait, the policy accepts the approval, and the
coordinator remembers the candidate. -/
structure Finds (mid : String) (approval : OwnerApproval) (w : CoordinatorState py) (p : Pending py) :
    Prop where
  migration : w.store.getMigration py mid = .ok p.migration
  waits : p.migration.status = .needsApproval
  participant : w.store.getParticipant py approval.participantId = .ok p.participant
  pending : p.participant.status = .needsApproval
  policy : SafetyPolicy.validateOwnerApproval py p.migration.intent p.participant approval = .ok ()
  session : w.memory.sessions.lookup (mid, p.participant.participantId) = some p.session
  envelope : w.memory.proposals.lookup (mid, p.participant.participantId) = some p.envelope
  trusted : w.memory.trustedPolicies.lookup (mid, p.participant.participantId) = some p.trusted
  semantic : p.envelope.proposal = .semanticMapping p.proposal

/-- The three later layers accept the content of an approval too: the receipt, the store
unless it has the approval already, and the adapter. -/
structure LaterLayersAccept (mid : String) (approval : OwnerApproval)
    (verified : Option VerifiedGitHubApproval) (w : CoordinatorState py) (p : Pending py) : Prop where
  receipt : ∃ r, (approvalReceipt mid p.migration.intent p.participant approval
    verified).postInit py = .ok r
  store : ∀ e, w.store.recordApproval py (approvalReceipt mid p.migration.intent
    p.participant approval verified) = .error e → e.cls = .stateConflict
  adapter : SemanticApprovalParticipant.validateApproval p.trusted.val approval = .ok ()

/-- No approval that the call presents is accepted by all layers. -/
def ApprovalCall.Invalid (call : ApprovalCall) (mid : String) (w : CoordinatorState py) : Prop :=
  ∀ approval verified p, call.Presents co mid w approval verified → Finds mid approval w p →
    ¬LaterLayersAccept mid approval verified w p

/-- The call does nothing but read. -/
def ApprovalCall.Harmless (call : ApprovalCall) (mid : String) (w : CoordinatorState py) : Prop :=
  ∀ op w', (call.program co mid).MakesCall (Serves (call.Services co)) w op w' →
    op.ReadsOnly ∧ w' = w

section Refused
variable {co} {mid : String} {approval : OwnerApproval} {verified : Option VerifiedGitHubApproval}
  {w : CoordinatorState py} {services : (c : CoordinatorCall py) → Result c.Reply → Prop}

theorem requireCoordination_eq_ok {check : Bool} {msg : String} {u : Unit} :
    requireCoordination check msg = .ok u ↔ check = true := require_eq_ok

theorem recallPending_guarded {migration : MigrationRecord} {participant : Participant} :
    (recallPending mid migration participant).Guarded (Reading services w)
      (fun r w' => w' = w ∧ ∀ p, r = .ok p → p.migration = migration ∧ p.participant = participant ∧
        w.memory.sessions.lookup (mid, participant.participantId) = some p.session ∧
        w.memory.proposals.lookup (mid, participant.participantId) = some p.envelope ∧
        w.memory.trustedPolicies.lookup (mid, participant.participantId) = some p.trusted ∧
        p.envelope.proposal = .semanticMapping p.proposal) w := by
  refine Prog.Guarded.bind_same guarded_recalled error_tells fun m hm => ?_
  subst hm
  dsimp only
  split
  · next session envelope trusted hs he ht =>
    split
    · next proposal hp =>
      refine ⟨rfl, fun p h => ?_⟩
      cases h
      exact ⟨rfl, rfl, hs, he, ht, hp⟩
    · exact error_tells _
  · exact error_tells _

theorem pendingApproval_guarded : (pendingApproval mid approval).Guarded
    (Reading services w) (fun r w' => w' = w ∧ ∀ p, r = .ok p → Finds mid approval w p) w := by
  refine Prog.Guarded.bind_same (guarded_read (.getMigration mid)) error_tells
    fun migration hmigration => ?_
  refine Prog.Guarded.lift_bind (fun e _ => error_tells e) fun _ hwaits => ?_
  refine Prog.Guarded.bind_same (guarded_read (.getParticipant approval.participantId))
    error_tells fun participant hparticipant => ?_
  refine Prog.Guarded.lift_bind (fun e _ => error_tells e) fun _ hpending => ?_
  refine Prog.Guarded.lift_bind (fun e _ => error_tells e) fun _ hpolicy => ?_
  refine recallPending_guarded.mono fun r w' h => ⟨h.1, fun p hp => ?_⟩
  obtain ⟨rfl, rfl, hs, he, ht, hsem⟩ := h.2 p hp
  simp only [requireCoordination_eq_ok, decide_eq_true_eq] at hwaits hpending
  exact ⟨hmigration, hwaits, hparticipant, hpending, hpolicy, hs, he, ht, hsem⟩

/-- An approval whose candidate is not found is refused before anything changes. -/
theorem applyApproval_reads (h : ∀ p, ¬Finds mid approval w p) :
    (co.applyApproval mid approval verified).Guarded (Reading services w)
      (fun r _ => r.isOk = false) w :=
  Prog.Guarded.bind_same pendingApproval_guarded (fun _ => rfl) fun p hp => (h p hp).elim

theorem approvalExpectation_guarded : (approvalExpectation mid).Guarded
    (Reading services w) (fun r w' => w' = w ∧ ∀ e, r = .ok e → ∃ migration participants,
      w.store.getMigration py mid = .ok migration ∧ migration.status = .needsApproval ∧
      w.store.listParticipants py mid = .ok participants ∧
      expectationOf mid migration.intent participants = .ok e) w := by
  refine Prog.Guarded.bind_same (guarded_read (.getMigration mid)) error_tells
    fun migration hmigration => ?_
  refine Prog.Guarded.lift_bind (fun e _ => error_tells e) fun _ hwaits => ?_
  refine Prog.Guarded.bind_same (guarded_read (.listParticipants mid)) error_tells
    fun participants hparticipants => ?_
  simp only [requireCoordination_eq_ok, decide_eq_true_eq] at hwaits
  exact ⟨rfl, fun e he => ⟨migration, participants, hmigration, hwaits, hparticipants, he⟩⟩

end Refused

section Receipt
variable {mid : String} {approval : OwnerApproval} {verified : Option VerifiedGitHubApproval}
  {intent : ChangeIntent} {participant : Participant}

theorem arrow_not_blank (old new : String) : isBlank (old ++ " -> " ++ new) = false := by
  simp only [isBlank, String.toList_append, List.all_append, Bool.and_eq_false_iff]
  exact .inl (.inr (by decide))

/-- What a receipt asks of an approval that the policy accepted. -/
structure Stamped (py : Python) (approval : OwnerApproval) : Prop where
  owner : startsWith approval.ownerUrn "urn:li:" = true
  written : isBlank approval.approvedAt = false
  utc : requireUtcTimestamp py approval.approvedAt "approved_at" = .ok ()

theorem approvalReceipt_ok_iff
    (hpolicy : SafetyPolicy.validateOwnerApproval py intent participant approval = .ok ())
    (hverified : ∀ x ∈ verified, checkVerification py x.verification = .ok ()) :
    (∃ r, (approvalReceipt mid intent participant approval verified).postInit py = .ok r) ↔
      Stamped py approval := by
  have hurl : requireHttpsUrl py approval.evidenceUrl "approval evidence_url" = .ok () := by
    simp only [SafetyPolicy.validateOwnerApproval, bind_eq_ok] at hpolicy
    obtain ⟨_, -, _, -, _, -, _, -, _, hurl, -⟩ := hpolicy
    exact requireHttpsUrl_of_ok (asPolicyViolation_eq_ok hurl)
  have hcheck : onlyIf ((approvalReceipt mid intent participant approval verified).verification ≠ [])
      (checkVerification py (approvalReceipt mid intent participant approval verified).verification) =
        .ok () := by
    rw [onlyIf_eq_ok]
    intro hne
    cases verified with
    | none => exact absurd rfl hne
    | some x => exact hverified x rfl
  simp only [ApprovalReceipt.postInit, bind_eq_ok, require_eq_ok, hcheck]
  constructor
  · rintro ⟨r, _, howner, _, -, _, hwritten, _, hutc, -⟩
    exact ⟨howner, Bool.not_eq_true' _ ▸ hwritten, hutc⟩
  · intro h
    refine ⟨_, (), h.owner, (), ?_, (), ?_, (), h.utc, (), hurl, (), trivial, rfl⟩
    · exact congrArg (! ·) (arrow_not_blank _ _)
    · exact congrArg (! ·) h.written

end Receipt

section Harm
variable {co} {mid : String} {approval : OwnerApproval} {verified : Option VerifiedGitHubApproval}
  {w w' : CoordinatorState py} {p : Pending py}
  {services : (c : CoordinatorCall py) → Result c.Reply → Prop}

theorem pendingApproval_runs (h : Finds mid approval w p) :
    ∃ log, (pendingApproval mid approval).Runs (Serves services) w log (.ok p) w := by
  obtain ⟨migration, participant, session, envelope, proposal, trusted⟩ := p
  have hrecall : (recallPending mid migration participant).Runs (Serves services) w
      ([⟨.recalled, .ok w.memory⟩] ++ [])
      (.ok ⟨migration, participant, session, envelope, proposal, trusted⟩) w := by
    have hsemantic : envelope.proposal = .semanticMapping proposal := h.semantic
    refine .bind runs_recalled ?_
    simp only [h.session, h.envelope, h.trusted, hsemantic]
    exact .done _ _
  have hwaits : requireCoordination (migration.status = .needsApproval)
      ("approval requires NEEDS_APPROVAL, got " ++ migration.status.value) = .ok () :=
    requireCoordination_eq_ok.mpr (decide_eq_true h.waits)
  have hpending : requireCoordination (participant.status = .needsApproval)
      "approval participant is not waiting for approval" = .ok () :=
    requireCoordination_eq_ok.mpr (decide_eq_true h.pending)
  exact ⟨_, .bind (runs_read h.migration) (.lift_bind hwaits (.bind (runs_read h.participant)
    (.lift_bind hpending (.lift_bind h.policy hrecall))))⟩

/-- What the store really answers to a call. -/
theorem runs_store (c : StoreCall) (now : String) (w : CoordinatorState py) :
    (∃ e, (CoordinatorCall.store c).run.Runs (Serves services) w [⟨.store c, .error e⟩] (.error e) w ∧
      c.answer py now w.store = .error e) ∨
    ∃ r s, (CoordinatorCall.store c).run.Runs (Serves services) w [⟨.store c, .ok r⟩] (.ok r)
      { w with store := s } ∧ c.answer py now w.store = .ok (r, s) := by
  cases h : c.answer py now w.store with
  | error e => exact .inl ⟨e, Prog.runs_perform.mpr ⟨rfl, .inr ⟨e, rfl, rfl⟩⟩, rfl⟩
  | ok r =>
    obtain ⟨r, s⟩ := r
    exact .inr ⟨r, s, Prog.runs_perform.mpr ⟨rfl, .inl ⟨now, r, s, h, rfl, rfl⟩⟩, rfl⟩

theorem transitionParticipant_migrations {s : Store} {now pid event : String}
    {target expected : ParticipantStatus} {version : Int} {payload : List (String × Json)}
    {sha : Option String} {links : Option (List String)} {r : Participant × Store}
    (h : s.transitionParticipant py now pid target expected version event payload sha links = .ok r) :
    r.2.migrations = s.migrations := by
  obtain ⟨row, parent, value, t, -, -, -, -, -, -, -, -, ht, -, hs⟩ :=
    Store.transitionParticipant_cases h
  obtain ⟨-, rfl⟩ := Store.updateParticipant_eq_ok.mp ht
  rw [hs]
  rfl

theorem recordApproval_migrations {s s' : Store} {receipt : ApprovalReceipt}
    (h : s.recordApproval py receipt = .ok s') : s'.migrations = s.migrations := by
  obtain ⟨row, parent, q, i, -, -, -, -, -, -, -, -, -, -, rfl⟩ := Store.recordApproval_cases h
  rfl

theorem getMigration_congr {s s' : Store} (h : s'.migrations = s.migrations) (mid : String) :
    s'.getMigration py mid = s.getMigration py mid := by
  simp only [Store.getMigration, Store.selectMigration, Store.migrationRow?, h]

/-- The adapter does not get past an approval that it rejects. -/
theorem prepare_rejected {adapters : AdapterSet} {env : Surroundings} {session : RepositorySession}
    {proposal : SemanticMappingProposal} {policy : PolicyData} {wt : Worktree} {e : Exn}
    (h : SemanticApprovalParticipant.validateApproval policy approval = .error e) :
    ∃ e, (runAdapter py adapters env session (.semanticMapping proposal) policy (some approval) wt).1 =
      .error e := by
  unfold runAdapter SemanticApprovalParticipant.prepare
  dsimp only
  split
  · next e' hpending => exact ⟨e', rfl⟩
  · next happroval => cases happroval
  · next target document approval' hpending happroval =>
    cases happroval
    have hplan : SemanticApprovalParticipant.plan py policy approval target document wt = .error e := by
      rw [SemanticApprovalParticipant.plan, h]
      rfl
    rw [hplan]
    exact ⟨e, rfl⟩

/-- A candidate that was found, with an approval that a later layer rejects, fails with
the migrations as they were. -/
theorem verifyApproved_fails (call : ApprovalCall) (h : ¬LaterLayersAccept mid approval verified w p) :
    ∃ log e s, (co.verifyApproved mid p approval verified).Runs (Serves (call.Services co)) w log
      (.error e) { w with store := s } ∧ s.migrations = w.store.migrations := by
  set receipt := approvalReceipt mid p.migration.intent p.participant approval verified with hreceipt
  cases hr : receipt.postInit py with
  | error e => exact ⟨[], e, w.store, Prog.runs_lift_bind.mpr (.inl ⟨e, hr, rfl, rfl, rfl⟩), rfl⟩
  | ok r =>
    have hsame : r = receipt := by
      simp only [ApprovalReceipt.postInit, bind_eq_ok] at hr
      obtain ⟨_, -, _, -, _, -, _, -, _, -, _, -, hr⟩ := hr
      exact (Except.ok.inj hr).symm
    subst hsame
    rcases runs_store (.recordApproval receipt) "" w with
      ⟨e, hrun, -⟩ | ⟨u, s, hrun, hanswer⟩
    · exact ⟨_, e, w.store, .lift_bind hr (.bind_error hrun), rfl⟩
    have hrecord : w.store.recordApproval py receipt = .ok s := by
      simp only [StoreCall.answer, bind_eq_ok] at hanswer
      obtain ⟨s', hs', hanswer⟩ := hanswer
      cases hanswer
      exact hs'
    have hmigrations := recordApproval_migrations hrecord
    rcases runs_store (.transitionParticipant
      p.participant.participantId .preparing .needsApproval p.participant.version
      "APPROVED_SEMANTIC_CANDIDATE_PREPARING" [("approval_evidence_url", .str approval.evidenceUrl)]
      none none) "" { w with store := s } with ⟨e, hmove, -⟩ | ⟨q, s', hmove, hanswer'⟩
    · exact ⟨_, e, s, .lift_bind hr (.bind hrun (.bind_error hmove)), hmigrations⟩
    -- The store accepted the approval, so it is the adapter that does not.
    have hadapter : ∃ e, SemanticApprovalParticipant.validateApproval p.trusted.val approval =
        .error e := by
      cases hv : SemanticApprovalParticipant.validateApproval p.trusted.val approval with
      | error e => exact ⟨e, rfl⟩
      | ok u =>
        refine (h ⟨⟨_, hr⟩, fun e he => ?_, hv⟩).elim
        rw [hrecord] at he
        cases he
    obtain ⟨e₀, he₀⟩ := hadapter
    obtain ⟨e, he⟩ := prepare_rejected he₀
    have hrunAdapter : (CoordinatorCall.runAdapter p.session (.semanticMapping p.proposal) p.trusted
        (some approval)).run.Runs (Serves (call.Services co)) { w with store := s' } _ (.error e)
        { w with store := s' } :=
      Prog.runs_perform.mpr ⟨rfl, ⟨sampleAdapters, sampleSurroundings, sampleWorktree, he.symm⟩, rfl⟩
    refine ⟨_, e, s', .lift_bind hr (.bind hrun (.bind hmove (.bind_error hrunAdapter))), ?_⟩
    rw [← hmigrations]
    exact transitionParticipant_migrations hanswer'

/-- The best-effort marker, whatever the store says of it. -/
theorem markFailed_runs {pid phase : String} {error : Exn} :
    ∃ log r s, (@markFailed py pid phase error).Runs (Serves services) w log r
      { w with store := s } ∧ s.migrations = w.store.migrations := by
  cases hget : w.store.getParticipant py pid with
  | error e =>
    refine ⟨_, .error e, w.store, .bind_error (Prog.runs_perform.mpr ⟨rfl, .inl hget.symm, rfl⟩), rfl⟩
  | ok q =>
    have hread := @runs_read py services _ (.getParticipant pid) _ hget
    by_cases hq : q.status = .preparing ∨ q.status = .needsApproval
    · rcases runs_store (.transitionParticipant pid .failed q.status q.version
        "PARTICIPANT_SAFETY_CHECK_FAILED" [("phase", .str phase),
          ("error_type", .str error.cls.typeName)] none none) "" w with
        ⟨e, hrun, -⟩ | ⟨u, s, hrun, hanswer⟩
      · exact ⟨_, .error e, w.store, .bind hread (.onlyWhen hq (.bind_error hrun)), rfl⟩
      · exact ⟨_, .ok (), s, .bind hread (.onlyWhen hq (.bind hrun (.done _ _))),
          transitionParticipant_migrations hanswer⟩
    · exact ⟨_, .ok (), w.store, .bind hread (.not_onlyWhen hq), rfl⟩

/-- A failure of a migration that can still be aborted comes to the reservation. -/
theorem abortAfterFailure_reserves {α : Type} {pid phase : String} {e : Exn} {m : MigrationRecord}
    (hm : w.store.getMigration py mid = .ok m) (hopen : m.status.isTerminal = false) :
    ∃ w', (co.abortAfterFailure (α := α) mid pid e phase).MakesCall (Serves services) w
      (.store (.reserveAbortCleanup mid m.status m.version)) w' := by
  have hmark : ∃ log s, (Prog.onlyWhen (pid ≠ "") (do
      let _ ← (@markFailed py pid phase e).attempt)).Runs (Serves services) w log (.ok ())
        { w with store := s } ∧ s.migrations = w.store.migrations := by
    by_cases hpid : pid ≠ ""
    · obtain ⟨log, r, s, hrun, hs⟩ := markFailed_runs (w := w)
      exact ⟨_, s, .onlyWhen hpid (.bind (Prog.runs_attempt.mpr ⟨r, rfl, hrun⟩) (.done _ _)), hs⟩
    · exact ⟨[], w.store, .not_onlyWhen hpid, rfl⟩
  obtain ⟨log, s, hrun, hs⟩ := hmark
  have hm' : s.getMigration py mid = .ok m := (getMigration_congr hs mid).trans hm
  have hopen' : requireCoordination (!m.status.isTerminal)
      ("cannot abort terminal migration " ++ m.status.value) = .ok () := by
    simp [requireCoordination_eq_ok, hopen]
  refine ⟨{ w with store := s }, .bind hrun (.left (.left (.bind (runs_read hm') ?_)))⟩
  exact .lift_bind hopen' (.left (.here _ _ _))

/-- An approval that was let in and then rejected starts an abort. -/
theorem applyApproval_reserves (call : ApprovalCall) (hp : Finds mid approval w p)
    (h : ¬LaterLayersAccept mid approval verified w p) :
    ∃ w', (co.applyApproval mid approval verified).MakesCall (Serves (call.Services co)) w
      (.store (.reserveAbortCleanup mid .needsApproval p.migration.version)) w' := by
  obtain ⟨log, hpending⟩ := pendingApproval_runs hp
  obtain ⟨log', e, s, hfails, hs⟩ := verifyApproved_fails call h
  have hm : s.getMigration py mid = .ok p.migration := (getMigration_congr hs mid).trans hp.migration
  have hopen : p.migration.status.isTerminal = false := by rw [hp.waits]; rfl
  obtain ⟨w', hreserve⟩ := abortAfterFailure_reserves (w := { w with store := s }) (α := PrepareOutcome) (e := e) hm hopen
  rw [hp.waits] at hreserve
  exact ⟨w', .bind hpending (.catch (.bind_error hfails) hreserve)⟩

end Harm
section Invalid
variable {co} {mid : String} {approval approval' : OwnerApproval}
  {verified verified' : Option VerifiedGitHubApproval} {w : CoordinatorState py} {p p' : Pending py}
  {call : ApprovalCall}

theorem ApprovalCall.Presents.unique (h : call.Presents co mid w approval verified)
    (h' : call.Presents co mid w approval' verified') : approval' = approval ∧ verified' = verified := by
  cases call with
  | approve given =>
    obtain ⟨-, rfl, rfl⟩ := h
    obtain ⟨-, rfl, rfl⟩ := h'
    exact ⟨rfl, rfl⟩
  | approveFromGithub url fetched now =>
    obtain ⟨v, m, ps, e, x, hv, hm, -, hps, he, hx, rfl, rfl⟩ := h
    obtain ⟨v', m', ps', e', x', hv', hm', -, hps', he', hx', rfl, rfl⟩ := h'
    cases hv.symm.trans hv'
    cases hm.symm.trans hm'
    cases hps.symm.trans hps'
    cases he.symm.trans he'
    cases hx.symm.trans hx'
    exact ⟨rfl, rfl⟩

theorem Finds.unique (h : Finds mid approval w p) (h' : Finds mid approval w p') : p' = p := by
  obtain ⟨migration, participant, session, envelope, proposal, trusted⟩ := p
  obtain ⟨migration', participant', session', envelope', proposal', trusted'⟩ := p'
  cases h.migration.symm.trans h'.migration
  cases h.participant.symm.trans h'.participant
  cases h.session.symm.trans h'.session
  cases h.envelope.symm.trans h'.envelope
  cases h.trusted.symm.trans h'.trusted
  cases h.semantic.symm.trans h'.semantic
  rfl

/-- The verification behind a presented approval is one that a receipt accepts. -/
theorem ApprovalCall.Presents.checked (h : call.Presents co mid w approval verified) :
    ∀ x ∈ verified, checkVerification py x.verification = .ok () := by
  intro x hx
  cases call with
  | approve given =>
    obtain ⟨-, -, rfl⟩ := h
    cases hx
  | approveFromGithub url fetched now =>
    obtain ⟨v, m, ps, e, y, -, -, -, -, -, hverify, -, rfl⟩ := h
    cases hx
    simp only [GitHubApprovalVerifier.verify, bind_eq_ok] at hverify
    obtain ⟨resource, -, payload, -, hpayload⟩ := hverify
    have hchecked := GitHubApprovalVerifier.verifyPayload_checked hpayload
    exact VerifiedGitHubApproval.checkVerification_ok hchecked.1 hchecked.2

/-- A call none of whose approvals is let in does nothing but read. -/
theorem harmless_of_not_found (h : ∀ approval verified p,
    call.Presents co mid w approval verified → ¬Finds mid approval w p) : call.Harmless co mid w := by
  have hguarded : (call.program co mid).Guarded (Reading (call.Services co) w) (fun _ _ => True) w := by
    cases call with
    | approve given =>
      refine Prog.Guarded.lift_bind (fun e _ => trivial) fun _ hallowed => ?_
      exact (applyApproval_reads fun p => h given none p
        ⟨requireCoordination_eq_ok.mp hallowed, rfl, rfl⟩).mono fun _ _ _ => trivial
    | approveFromGithub url fetched now =>
      refine Prog.Guarded.lift_bind (fun e _ => trivial) fun _ _ => ?_
      refine Prog.Guarded.bind_same approvalExpectation_guarded (fun e => trivial)
        fun e ⟨m, ps, hm, hwaits, hps, he⟩ => ?_
      have hverify : (@verifyOnGithub py e url).Guarded
          (Reading (ApprovalCall.Services co (.approveFromGithub url fetched now)) w)
          (fun r w' => w' = w ∧ ∀ x, r = .ok x → ∃ v, co.approvalVerifier = some v ∧
            v.verify py e url fetched now = .ok x) w := by
        refine Prog.Guarded.tryCatch (Prog.Guarded.perform_alone ⟨trivial, rfl⟩ fun r w' hr => ?_)
        obtain ⟨⟨v, hv, hr⟩, rfl⟩ := hr
        cases r with
        | ok x => exact ⟨rfl, fun y hy => ⟨v, hv, hr.symm.trans hy⟩⟩
        | error e' =>
          dsimp only
          split
          · exact error_tells _
          · exact error_tells _
      refine Prog.Guarded.bind_same hverify (fun e => trivial) fun x ⟨v, hv, hx⟩ => ?_
      refine Prog.Guarded.bind ((applyApproval_reads fun p => h _ _ p
        ⟨v, m, ps, e, x, hv, hm, hwaits, hps, he, hx, rfl, rfl⟩).mono fun r w' hr => ?_)
      cases r with
      | ok outcome => cases hr
      | error e => trivial
  intro op w' hcall
  exact hguarded.of_makesCall hcall

/-- A call that presents an approval comes to its application. -/
theorem reserves_of_found (hpresents : call.Presents co mid w approval verified)
    (hp : Finds mid approval w p) (h : ¬LaterLayersAccept mid approval verified w p) :
    ∃ w', (call.program co mid).MakesCall (Serves (call.Services co)) w
      (.store (.reserveAbortCleanup mid .needsApproval p.migration.version)) w' := by
  obtain ⟨w', hreserve⟩ := @applyApproval_reserves _ co _ _ _ _ _ call hp h
  refine ⟨w', ?_⟩
  cases call with
  | approve given =>
    obtain ⟨hallowed, rfl, rfl⟩ := hpresents
    exact .lift_bind (requireCoordination_eq_ok (u := ()).mpr hallowed) hreserve
  | approveFromGithub url fetched now =>
    obtain ⟨v, m, ps, e, x, hv, hm, hwaits, hps, he, hx, rfl, rfl⟩ := hpresents
    have hconfigured : requireCoordination co.approvalVerifier.isSome
        "GitHub owner approval verifier is not configured" = .ok () := by
      rw [requireCoordination_eq_ok, hv]
      rfl
    have hneeds : requireCoordination (m.status = .needsApproval)
        ("approval requires NEEDS_APPROVAL, got " ++ m.status.value) = .ok () :=
      requireCoordination_eq_ok.mpr (decide_eq_true hwaits)
    set services := ApprovalCall.Services co (.approveFromGithub url fetched now)
    have hexpect : (@approvalExpectation py mid).Runs (Serves services) w _ (.ok e) w :=
      .bind (runs_read hm) (.lift_bind hneeds (.bind (runs_read (r := .listParticipants mid) hps)
        (Prog.runs_lift.mpr ⟨rfl, he.symm, rfl⟩)))
    have hfetch : (@CoordinatorCall.verify py e url).run.Runs (Serves services) w _ (.ok x) w :=
      Prog.runs_perform.mpr ⟨rfl, ⟨v, hv, hx.symm⟩, rfl⟩
    have hverify : (@verifyOnGithub py e url).Runs (Serves services) w _ (.ok x) w :=
      Prog.runs_andThen.mpr ⟨_, [], _, w, rfl, hfetch, .done _ _⟩
    exact .lift_bind hconfigured (.bind hexpect (.bind hverify (.left hreserve)))

end Invalid

/-- A participant of the sample migration. -/
def sampleConsumer (kind : ParticipantKind) (name : String) : Participant where
  participantId := "consumer-" ++ name
  migrationId := ChangeIntent.sample.migrationId
  kind
  assetUrn := "urn:li:dataset:" ++ name
  repository := "data/" ++ name
  ownerUrns := ["urn:li:corpuser:" ++ name]
  files := ["config/" ++ name ++ ".json"]
  createdAt := "2026-01-01T00:00:00Z"

/-- The calls that take a participant from its discovery to its candidate. -/
def verifyCalls (name : String) : List StoreCall := [
  .transitionParticipant ("consumer-" ++ name) .preparing .discovered 0
    "PARTICIPANT_PREPARING_IN_ISOLATED_WORKTREE" [] none none,
  .transitionParticipant ("consumer-" ++ name) .verified .preparing 1
    "CANDIDATE_COMMITTED_AND_VERIFIED" [] (some "3333333333333333333333333333333333333333") none]

/-- The sample migration with its semantic consumer waiting for the owner. -/
def waitingCalls : List StoreCall := [
  .createMigration .sample [sampleConsumer .dbtSql "a", sampleConsumer .airflowMapping "b",
    sampleConsumer .semanticApproval "c"],
  .transitionMigration ChangeIntent.sample.migrationId .preparing .detected 0 "LINEAGETX_PREPARING"
    [] []] ++ verifyCalls "a" ++ verifyCalls "b" ++ [
  .transitionParticipant "consumer-c" .preparing .discovered 0
    "PARTICIPANT_PREPARING_IN_ISOLATED_WORKTREE" [] none none,
  .transitionParticipant "consumer-c" .needsApproval .preparing 1
    "SEMANTIC_OWNER_APPROVAL_REQUIRED" [] none none,
  .transitionMigration ChangeIntent.sample.migrationId .needsApproval .preparing 1
    "MIGRATION_WAITING_FOR_OWNER" [] []]

def waitingStore : Store :=
  waitingCalls.foldl (fun s c => c.after samplePython "2026-01-01T12:00:00Z" s) {}

def semanticPolicy : PolicyData where
  migrationId := ChangeIntent.sample.migrationId
  participantId := "consumer-c"
  kind := .semanticApproval
  repository := "data/c"
  allowedPaths := ["config/c.json"]
  oldField := "cust_id"
  newField := "customer_id"
  expandedColumns := ["cust_id", "customer_id"]
  contractColumns := ["customer_id"]
  ownerUrns := ["urn:li:corpuser:c"]
  assetUrn := "urn:li:dataset:c"
  sourceAssetUrn := "urn:li:dataset:orders"
  intentSha256 := ChangeIntent.sample.intentSha256

/-- The waiting candidate as the coordinator remembers it. -/
def waitingCandidate : Pending samplePython where
  migration := ⟨.sample, .needsApproval, 2, "2026-01-01T00:00:00Z", "2026-01-01T12:00:00Z"⟩
  participant := { sampleConsumer .semanticApproval "c" with
    status := .needsApproval, version := 2, updatedAt := "2026-01-01T12:00:00Z" }
  session := ⟨"data/c", "consumer-c", ChangeIntent.sample.migrationId, "/base", "/worktrees/m/c",
    "lineagetx/m/c", "base", ""⟩
  proposal := {
    migrationId := ChangeIntent.sample.migrationId, participantId := "consumer-c"
    relativePath := "config/c.json", expectedSha256 := ChangeIntent.sample.intentSha256
    oldField := "cust_id", newField := "customer_id", expectedOccurrences := 1
    requiredOwnerUrn := "urn:li:corpuser:c", expandedColumns := ["cust_id", "customer_id"]
    contractColumns := ["customer_id"], repository := "data/c", ownerUrns := ["urn:li:corpuser:c"] }
  envelope := ⟨"model", .semanticMapping {
    migrationId := ChangeIntent.sample.migrationId, participantId := "consumer-c"
    relativePath := "config/c.json", expectedSha256 := ChangeIntent.sample.intentSha256
    oldField := "cust_id", newField := "customer_id", expectedOccurrences := 1
    requiredOwnerUrn := "urn:li:corpuser:c", expandedColumns := ["cust_id", "customer_id"]
    contractColumns := ["customer_id"], repository := "data/c", ownerUrns := ["urn:li:corpuser:c"] }, []⟩
  trusted := ⟨semanticPolicy, semanticPolicy, by decide +kernel⟩

def waitingState : CoordinatorState samplePython :=
  let key := (ChangeIntent.sample.migrationId, "consumer-c")
  { store := waitingStore
    memory := {
      sessions := [(key, waitingCandidate.session)]
      proposals := [(key, waitingCandidate.envelope)]
      trustedPolicies := [(key, waitingCandidate.trusted)] } }

def testCoordinator : Coordinator samplePython where
  policy := ⟨true⟩
  sql := sampleAdapters.sql
  worktreesRoot := "/worktrees"
  hasWriter := false
  evidenceBaseUrl := "https://replay.lineagetx.invalid/evidence"
  allowTestApprovals := true
  baseUrlValid := by decide +kernel

/-- An approval in order but for its time. -/
def malformedTime : OwnerApproval where
  migrationId := ChangeIntent.sample.migrationId
  participantId := "consumer-c"
  ownerUrn := "urn:li:corpuser:c"
  oldField := "cust_id"
  newField := "customer_id"
  approvedAt := "yesterday"
  evidenceUrl := "https://github.com/data/c/issues/1"

theorem waitingCandidate_found :
    Finds ChangeIntent.sample.migrationId malformedTime waitingState waitingCandidate where
  migration := by decide +kernel
  waits := rfl
  participant := by decide +kernel
  pending := rfl
  policy := by decide +kernel
  session := rfl
  envelope := rfl
  trusted := rfl
  semantic := rfl

end LineageTX
