import LineageTX.AbortConverges
import LineageTX.GateDiscipline
import LineageTX.Library.Recording
import LineageTX.Transaction

/-! What one call of `commit` has itself read, fetched and validated before the gate can be
armed, before a publication is looked up or released, and before COMMITTED is recorded. The
replies are arbitrary, so it does not matter what other calls do in between. -/
namespace LineageTX
open Library
variable {py : Python}

/-- The calls that one call of the coordinator has made, with their replies. -/
abbrev CoordinatorHistory (py : Python) := List (Σ c : CoordinatorCall py, Result c.Reply)

/-- The history holds a call that was answered with a value. -/
def Answered (h : CoordinatorHistory py) (c : CoordinatorCall py) (reply : c.Reply) : Prop :=
  ⟨c, .ok reply⟩ ∈ h

theorem Answered.longer {h h' : CoordinatorHistory py} {c : CoordinatorCall py} {reply : c.Reply}
    (ha : Answered h c reply) (hlonger : h <+: h') : Answered h' c reply := hlonger.subset ha

/-- The impact was read again: a new and complete context of the same fingerprint. -/
def Refreshed (h : CoordinatorHistory py) (context refreshed : ContextObject py) : Prop :=
  Answered h (.assertImpactUnchanged context) refreshed ∧ acceptsRefresh context refreshed = true

/-- The approval that the coordinator remembers was fetched again and is the same resource
with the same evidence. -/
def Reverified (mid : String) (intent : ChangeIntent) (h : CoordinatorHistory py) : Prop :=
  ∃ memory verified current, Answered h .recalled memory ∧
    memory.verifiedGithubApprovals.get? mid = some verified ∧
    Answered h (.verify {
      migrationId := mid, participantId := verified.participantId, ownerUrn := verified.ownerUrn
      oldField := intent.oldField, newField := intent.newField } verified.sourceApiUrl) current ∧
    current.evidenceSha256 = verified.evidenceSha256 ∧ current.resourceId = verified.resourceId ∧
    current.resourceNodeId = verified.resourceNodeId

/-- The candidate is the commit of a participant that was read as verified, on the branch of
its session, and was validated in its worktree. -/
structure Presented (mid : String) (h : CoordinatorHistory py) (p : Participant)
    (c : CandidateCommit) : Prop where
  verified : p.status = .verified
  participant : c.participantId = p.participantId ∧ c.repository = p.repository
  commit : c.commitSha = p.candidateCommitSha ∧ isCommitSha c.commitSha = true ∧ c.merged = false
  session : ∃ memory session paths, Answered h .recalled memory ∧
    memory.sessions.lookup (mid, p.participantId) = some session ∧ c.branch = session.branch ∧
    Answered h (.worktrees (.validateCommittedCandidate session p.candidateCommitSha p.files)) paths

/-- The request presents the three participants that were read, and was staged. -/
structure StagedInCall (mid : String) (h : CoordinatorHistory py) (request : PublicationRequest)
    (stage : PublicationStage) : Prop where
  participants : ∃ ps, Answered h (.read (.listParticipants mid)) ps ∧ ps.length = 3 ∧
    List.Forall₂ (Presented mid h) ps request.candidates
  valid : request.postInit py = .ok request
  staged : Answered h (.stage request) stage
  agrees : stage.validate request = .ok ()

/-- Everything that `commit` checks before it arms the gate. -/
structure Coordinator.Checked (co : Coordinator py) (mid : String) (h : CoordinatorHistory py)
    (migration : MigrationRecord) (request : PublicationRequest) (stage : PublicationStage) : Prop where
  prepared : Answered h (.read (.getMigration mid)) migration ∧ migration.status = .prepared
  impact : ∃ memory context refreshed, Answered h .recalled memory ∧
    memory.contexts.get? mid = some context ∧ Refreshed h context refreshed
  approval : co.allowTestApprovals = false → Reverified mid migration.intent h
  staged : StagedInCall mid h request stage
  intent : request.intent = migration.intent

theorem Reverified.longer {mid : String} {intent : ChangeIntent} {h h' : CoordinatorHistory py}
    (hr : Reverified mid intent h) (hlonger : h <+: h') : Reverified mid intent h' := by
  obtain ⟨memory, verified, current, hmemory, hget, hcurrent, hsame⟩ := hr
  exact ⟨memory, verified, current, hmemory.longer hlonger, hget, hcurrent.longer hlonger, hsame⟩

theorem Presented.longer {mid : String} {h h' : CoordinatorHistory py} {p : Participant}
    {c : CandidateCommit} (hp : Presented mid h p c) (hlonger : h <+: h') : Presented mid h' p c := by
  obtain ⟨memory, session, paths, hmemory, hget, hbranch, hpaths⟩ := hp.session
  exact ⟨hp.verified, hp.participant, hp.commit, memory, session, paths, hmemory.longer hlonger, hget,
    hbranch, hpaths.longer hlonger⟩

theorem learns_call (c : CoordinatorCall py) : c.run.Learns fun reply h => Answered h c reply :=
  Prog.learns_perform c

theorem lasts_answered (c : CoordinatorCall py) :
    Prog.Lasts fun (reply : c.Reply) (h : CoordinatorHistory py) => Answered h c reply :=
  fun _ _ _ hlonger ha => ha.longer hlonger

namespace Coordinator
variable {co : Coordinator py} {mid : String}

theorem requiredContext_learns :
    (@requiredContext py mid).Learns fun context h => ∃ memory, Answered h .recalled memory ∧
      memory.contexts.get? mid = some context := by
  refine Prog.Learns.bind (lasts_answered _) (learns_call _) fun memory => ?_
  split
  · next context hget =>
    refine (Prog.learns_pure context).mono fun c h hc => ?_
    rw [hc]
    exact hget
  · exact (Prog.learns_lift (coordinationError _)).mono fun c h hc => by cases hc

theorem refreshImpact_learns (context : ContextObject py) (refusal : String) :
    (refreshImpact context refusal).Learns fun refreshed h => Refreshed h context refreshed := by
  refine (Prog.Learns.bind (lasts_answered _) (learns_call _) fun refreshed =>
    Prog.Learns.bind (fun _ _ _ _ hc => hc) (Prog.learns_lift _) fun _ =>
      Prog.learns_pure refreshed).mono fun refreshed h hr => ?_
  obtain ⟨_, ha, _, hcheck, rfl⟩ := hr
  exact ⟨ha, require_eq_ok.mp hcheck⟩

theorem lookUpVerified_learns (m : String) :
    (co.lookUpVerified m).Learns fun verified h => ∃ memory, Answered h .recalled memory ∧
      memory.verifiedGithubApprovals.get? m = some verified := by
  refine Prog.Learns.bind (lasts_answered _) (learns_call _) fun memory => ?_
  split
  · next verified hget =>
    refine (Prog.Learns.after fun _ => Prog.learns_pure verified).mono fun v h hv => ?_
    rw [hv]
    exact hget
  · exact (Prog.learns_lift (coordinationError _)).mono fun v h hv => by cases hv

theorem reverifyApproval_learns (m : String) (intent : ChangeIntent) :
    (co.reverifyApproval m intent).Learns fun _ h => Reverified m intent h := by
  have hlook : Prog.Lasts fun (verified : VerifiedGitHubApproval) (h : CoordinatorHistory py) =>
      ∃ memory, Answered h .recalled memory ∧ memory.verifiedGithubApprovals.get? m = some verified :=
    fun _ _ _ hlonger ⟨memory, hmemory, hget⟩ => ⟨memory, hmemory.longer hlonger, hget⟩
  refine (Prog.Learns.bind hlook (lookUpVerified_learns m) fun verified =>
    Prog.Learns.bind (lasts_answered _) (learns_call _) fun current =>
      Prog.Learns.bind (fun _ _ _ _ hc => hc) (Prog.learns_lift _) fun _ =>
        Prog.learns_any).mono fun _ h hr => ?_
  obtain ⟨verified, ⟨memory, hmemory, hget⟩, current, hcurrent, _, hsame, -⟩ := hr
  have hcheck := require_eq_ok.mp hsame
  simp only [Bool.and_eq_true, decide_eq_true_eq] at hcheck
  exact ⟨memory, verified, current, hmemory, hget, hcurrent, hcheck.1.1, hcheck.1.2, hcheck.2⟩

/-- What one turn of the participant loop tells of its participant, before the validation. -/
structure Looked (m : String) (p : Participant) (v : VerifiedCandidate) (h : CoordinatorHistory py) :
    Prop where
  same : v.participant = p
  verified : p.status = .verified
  candidate : v.candidate.postInit = .ok v.candidate
  identity : v.candidate.participantId = p.participantId ∧ v.candidate.repository = p.repository ∧
    v.candidate.commitSha = p.candidateCommitSha ∧ v.candidate.branch = v.session.branch
  session : ∃ memory, Answered h .recalled memory ∧
    memory.sessions.lookup (m, p.participantId) = some v.session

theorem lasts_looked (m : String) (p : Participant) : Prog.Lasts (@Looked py m p) :=
  fun _ _ _ hlonger ⟨hsame, hverified, hcandidate, hidentity, memory, hmemory, hget⟩ =>
    ⟨hsame, hverified, hcandidate, hidentity, memory, hmemory.longer hlonger, hget⟩

theorem candidate_postInit {c c' : CandidateCommit} (h : c.postInit = .ok c') :
    c' = c ∧ c.postInit = .ok c := by
  have hsame : c' = c := by
    simp only [CandidateCommit.postInit, bind_eq_ok] at h
    obtain ⟨_, -, _, -, _, -, _, -, _, -, h⟩ := h
    cases h
    rfl
  exact ⟨hsame, hsame ▸ h⟩

theorem verifiedCandidate_learns (m : String) (p : Participant) :
    (@verifiedCandidate py m p).Learns (Looked m p) := by
  refine Prog.Learns.lift_bind fun _ hcheck => ?_
  have hverified := require_eq_ok.mp hcheck
  simp only [Bool.and_eq_true, decide_eq_true_eq] at hverified
  refine (Prog.Learns.bind (R := fun memory v _ => v.participant = p ∧
    v.candidate.postInit = .ok v.candidate ∧ v.candidate.participantId = p.participantId ∧
    v.candidate.repository = p.repository ∧ v.candidate.commitSha = p.candidateCommitSha ∧
    v.candidate.branch = v.session.branch ∧
    memory.sessions.lookup (m, p.participantId) = some v.session) (lasts_answered _)
      (learns_call _) fun memory => ?_).mono fun v h hv => ?_
  · dsimp only
    split
    · next session result hsession hresult =>
      refine Prog.Learns.lift_bind fun candidate hcandidate => ?_
      refine (Prog.learns_pure _).mono fun v h hv => ?_
      obtain ⟨hsame, hvalid⟩ := candidate_postInit hcandidate
      rw [hv, hsame]
      exact ⟨rfl, hvalid, rfl, rfl, rfl, rfl, hsession⟩
    · exact (Prog.learns_lift (coordinationError _)).mono fun v h hv => by cases hv
  · obtain ⟨memory, hmemory, hsame, hvalid, hid, hrepository, hsha, hbranch, hget⟩ := hv
    exact ⟨hsame, hverified.1, hvalid, ⟨hid, hrepository, hsha, hbranch⟩, memory, hmemory, hget⟩

/-- The validation of a candidate in its worktree. -/
def Validated (v : VerifiedCandidate) (h : CoordinatorHistory py) : Prop :=
  ∃ paths, Answered h (.worktrees (.validateCommittedCandidate v.session
    v.participant.candidateCommitSha v.participant.files)) paths

theorem presented_of_looked {m : String} {h : CoordinatorHistory py} {p : Participant}
    {v : VerifiedCandidate} (hlooked : Looked m p v h) (hvalidated : Validated v h) :
    Presented m h p v.candidate := by
  obtain ⟨memory, hmemory, hget⟩ := hlooked.session
  obtain ⟨paths, hpaths⟩ := hvalidated
  have hpost := hlooked.candidate
  simp only [CandidateCommit.postInit, bind_eq_ok, require_eq_ok] at hpost
  obtain ⟨_, -, _, -, _, hmerged, _, hsha, -⟩ := hpost
  refine ⟨hlooked.verified, ⟨hlooked.identity.1, hlooked.identity.2.1⟩,
    ⟨hlooked.identity.2.2.1, hsha, by simpa using hmerged⟩, memory, v.session, paths, hmemory, hget,
    hlooked.identity.2.2.2, ?_⟩
  rw [hlooked.same] at hpaths
  exact hpaths

theorem presented_all {m : String} {h : CoordinatorHistory py} {ps : List Participant}
    {vs : List VerifiedCandidate} (hlooked : List.Forall₂ (fun p v => Looked m p v h) ps vs)
    (hvalidated : ∀ v ∈ vs, Validated v h) :
    List.Forall₂ (Presented m h) ps (vs.map (·.candidate)) := by
  induction hlooked with
  | nil => exact .nil
  | cons hv _ ih =>
    obtain ⟨hfirst, hrest⟩ := List.forall_mem_cons.mp hvalidated
    exact .cons (presented_of_looked hv hfirst) (ih hrest)

theorem request_postInit {r r' : PublicationRequest} (h : r.postInit py = .ok r') :
    r' = r ∧ r.postInit py = .ok r := by
  have hsame : r' = r := by
    unfold PublicationRequest.postInit at h
    obtain ⟨_, -, h⟩ := bind_eq_ok.mp h
    obtain ⟨_, -, h⟩ := bind_eq_ok.mp h
    obtain ⟨_, -, h⟩ := bind_eq_ok.mp h
    obtain ⟨_, -, h⟩ := bind_eq_ok.mp h
    obtain ⟨_, -, h⟩ := bind_eq_ok.mp h
    cases h
    rfl
  exact ⟨hsame, hsame ▸ h⟩

/-- What the end of the staging tells: the request of the validated candidates, staged. -/
structure StagedOf (refreshed : ContextObject py) (intent : ChangeIntent)
    (vs : List VerifiedCandidate) (ready : ReadyToRelease py) (h : CoordinatorHistory py) : Prop where
  three : vs.length = 3
  refreshed : ready.refreshed = refreshed
  request : ready.request.intent = intent ∧ ready.request.candidates = vs.map (·.candidate)
  valid : ready.request.postInit py = .ok ready.request
  validated : ∀ v ∈ vs, Validated v h
  staged : Answered h (.stage ready.request) ready.stage
  agrees : ready.stage.validate ready.request = .ok ()

theorem stagePublication_learns (m : String) (refreshed : ContextObject py) (intent : ChangeIntent) :
    (stagePublication m refreshed intent).Learns fun ready h => ready.refreshed = refreshed ∧
      ready.request.intent = intent ∧ StagedInCall m h ready.request ready.stage := by
  refine (Prog.Learns.bind (R := fun ps ready h => ∃ vs,
    List.Forall₂ (fun p v => Looked m p v h) ps vs ∧ StagedOf refreshed intent vs ready h)
    (lasts_answered _) (learns_call _) fun ps => ?_).mono fun ready h hready => ?_
  · refine Prog.Learns.bind (fun vs _ _ hlonger hvs => List.Forall₂.imp
      (fun p v hv => lasts_looked m p v _ _ hlonger hv) hvs)
      (Prog.Learns.mapM (lasts_looked m) ps (verifiedCandidate_learns m)) fun vs => ?_
    refine Prog.Learns.lift_bind fun _ hthree => Prog.Learns.lift_bind fun request hrequest => ?_
    obtain ⟨hsame, hvalid⟩ := request_postInit hrequest
    have hlasts : ∀ (v : VerifiedCandidate) (h h' : CoordinatorHistory py), h <+: h' →
        Validated v h → Validated v h' := fun v h h' hlonger ⟨paths, hpaths⟩ => ⟨paths, hpaths.longer hlonger⟩
    refine (Prog.Learns.bind (Q := fun _ h => ∀ v ∈ vs, Validated v h) (R := fun _ ready h =>
      ready.refreshed = refreshed ∧ ready.request = request ∧ Answered h (.stage request) ready.stage ∧
      ready.stage.validate request = .ok ()) (fun _ h h' hlonger hall v hv => hlasts v h h' hlonger (hall v hv))
      (Prog.Learns.forM hlasts vs fun v => ?_) fun _ => ?_).mono fun ready h hready => ?_
    · refine (Prog.Learns.bind (lasts_answered _) (learns_call _) fun paths =>
        Prog.learns_any).mono fun _ h hpaths => ?_
      obtain ⟨paths, hpaths, -⟩ := hpaths
      exact ⟨paths, hpaths⟩
    · refine (Prog.Learns.bind (R := fun stage ready _ => ready = ⟨refreshed, request, stage⟩ ∧
        stage.validate request = .ok ()) (lasts_answered _) (learns_call _) fun stage =>
        Prog.Learns.lift_bind fun _ hagrees => (Prog.learns_pure _).mono fun ready h hready =>
          ⟨hready, hagrees⟩).mono fun ready h hready => ?_
      obtain ⟨stage, hstage, rfl, hagrees⟩ := hready
      exact ⟨rfl, rfl, hstage, hagrees⟩
    · obtain ⟨_, hall, hrefreshed, hreq, hstage, hagrees⟩ := hready
      rw [← hreq] at hstage hagrees
      rw [← hsame, ← hreq] at hvalid
      have hparts : ready.request.intent = intent ∧ ready.request.candidates = vs.map (·.candidate) := by
        rw [hreq, hsame]
        exact ⟨rfl, rfl⟩
      exact ⟨of_decide_eq_true (require_eq_ok.mp hthree), hrefreshed, hparts, hvalid, hall, hstage, hagrees⟩
  · obtain ⟨ps, hps, vs, hlooked, hstaged⟩ := hready
    refine ⟨hstaged.refreshed, hstaged.request.1, ⟨ps, hps, hlooked.length_eq.trans hstaged.three, ?_⟩,
      hstaged.valid, hstaged.staged, hstaged.agrees⟩
    rw [hstaged.request.2]
    exact presented_all hlooked hstaged.validated

/-- What `commit` has learnt when it is ready to release. -/
theorem readyToRelease_learns (m : String) (migration : MigrationRecord) (context : ContextObject py) :
    (co.readyToRelease m migration context).Learns fun ready h =>
      Refreshed h context ready.refreshed ∧
      (co.allowTestApprovals = false → Reverified m migration.intent h) ∧
      ready.request.intent = migration.intent ∧ StagedInCall m h ready.request ready.stage := by
  have hrefreshed : Prog.Lasts fun (refreshed : ContextObject py) h => Refreshed h context refreshed :=
    fun _ _ _ hlonger hr => ⟨hr.1.longer hlonger, hr.2⟩
  refine (Prog.Learns.bind hrefreshed (refreshImpact_learns context _) fun refreshed =>
    Prog.Learns.after fun _ => Prog.Learns.bind (Q := fun _ h => co.allowTestApprovals = false →
      Reverified m migration.intent h) (fun _ _ _ hlonger hr hmode => (hr hmode).longer hlonger)
      (Prog.Learns.onlyWhen fun _ => reverifyApproval_learns m migration.intent) fun _ =>
        stagePublication_learns m refreshed migration.intent).mono fun ready h hready => ?_
  obtain ⟨refreshed, hr, _, hverified, hsame, hintent, hstaged⟩ := hready
  exact ⟨hsame ▸ hr, hverified, hintent, hstaged⟩

end Coordinator

/-- The gate was armed by a call of this history. -/
def HasArmed (h : CoordinatorHistory py) : Prop :=
  ∃ m v, Answered h (.store (.armPublicationGate m v)) ()

/-- The gate was armed, and everything had been checked by then. -/
def Coordinator.Armed (co : Coordinator py) (mid : String) (h : CoordinatorHistory py)
    (request : PublicationRequest) (stage : PublicationStage) : Prop :=
  ∃ checks rest migration, co.Checked mid checks migration request stage ∧
    h = checks ++ ⟨.store (.armPublicationGate mid migration.version), .ok ()⟩ :: rest

/-- The publication was found or released for what had been armed, and is valid. -/
def Coordinator.Published (co : Coordinator py) (mid : String) (h : CoordinatorHistory py)
    (publication : PublicationResult) : Prop :=
  ∃ request stage, co.Armed mid h request stage ∧ publication.validate request = .ok () ∧
    (Answered h (.reconcile request stage) (some publication) ∨
      Answered h (.releaseGate request stage) publication)

/-- What a call of `commit` needs in the calls before it. -/
def CoordinatorCall.Justified (co : Coordinator py) (mid : String) (h : CoordinatorHistory py) :
    CoordinatorCall py → Prop
  | .store (.armPublicationGate m version) => ∃ migration request stage, m = mid ∧
    version = migration.version ∧ co.Checked mid h migration request stage
  | .store (.transitionMigration m target _ _ _ _ receipts) => m = mid ∧ target = .committed ∧
    ∃ publication, co.Published mid h publication ∧ receipts = publication.receipts
  | .store _ | .worktrees (.abort _) => ¬HasArmed h
  | .reconcile request staged => co.Armed mid h request staged
  | .releaseGate request staged => co.Armed mid h request staged ∧
    Answered h (.reconcile request staged) none
  | _ => True

/-- A call that `commit` makes before it arms the gate, cleanup and abort included: it moves
no migration on, needs no approval and touches no publication. -/
def CoordinatorCall.Preliminary : CoordinatorCall py → Prop
  | .store (.armPublicationGate ..) | .store (.transitionMigration ..) | .store (.recordApproval _)
  | .remember (.verified ..) | .runAdapter _ _ _ (some _) | .reconcile .. | .releaseGate .. => False
  | .store (.transitionParticipant _ target ..) => target = .failed
  | _ => True

/-- A call of the checks of `commit`: it changes neither the store nor a map, deletes nothing
and touches no publication. -/
def CoordinatorCall.Checking : CoordinatorCall py → Prop
  | .store _ | .remember _ | .worktrees (.abort _) | .runAdapter .. | .reconcile .. | .releaseGate .. => False
  | _ => True

theorem Coordinator.Armed.longer {co : Coordinator py} {mid : String} {h h' : CoordinatorHistory py}
    {request : PublicationRequest} {stage : PublicationStage} (ha : co.Armed mid h request stage)
    (hlonger : h <+: h') : co.Armed mid h' request stage := by
  obtain ⟨checks, rest, migration, hchecked, rfl⟩ := ha
  obtain ⟨added, rfl⟩ := hlonger
  exact ⟨checks, rest ++ added, migration, hchecked, by simp⟩

theorem checking_of_quiet {op : CoordinatorCall py} (h : op.Quiet) : op.Checking := by
  cases op with
  | store | remember | worktrees | runAdapter | reconcile | releaseGate => exact h.elim
  | _ => trivial

theorem preliminary_of_checking {op : CoordinatorCall py} (h : op.Checking) : op.Preliminary := by
  cases op with
  | store | remember | runAdapter | reconcile | releaseGate => exact h.elim
  | _ => trivial

theorem preliminary_of_quiet {op : CoordinatorCall py} (h : op.Quiet) : op.Preliminary :=
  preliminary_of_checking (checking_of_quiet h)

theorem justified_of_quiet {co : Coordinator py} {mid : String} {op : CoordinatorCall py}
    {h : CoordinatorHistory py} (hquiet : op.Quiet) : op.Justified co mid h := by
  cases op with
  | store | remember | worktrees | runAdapter | stage | reconcile | releaseGate => exact hquiet.elim
  | _ => trivial

/-- Until the gate is armed, a preliminary call is justified and arms nothing. -/
theorem justified_of_preliminary {co : Coordinator py} {mid : String} {op : CoordinatorCall py}
    {h : CoordinatorHistory py} (hop : op.Preliminary) (hnone : ¬HasArmed h) : op.Justified co mid h := by
  cases op with
  | store c => cases c <;> first | exact hnone | exact hop.elim
  | worktrees c => cases c <;> first | exact hnone | trivial
  | reconcile => exact hop.elim
  | releaseGate => exact hop.elim
  | _ => trivial

theorem preliminary_arms_nothing {op : CoordinatorCall py} {h : CoordinatorHistory py}
    {r : Result op.Reply} (hop : op.Preliminary) (hnone : ¬HasArmed h) : ¬HasArmed (h ++ [⟨op, r⟩]) := by
  rintro ⟨m, v, hmem⟩
  rcases List.mem_append.mp hmem with hold | hnew
  · exact hnone ⟨m, v, hold⟩
  · obtain ⟨rfl, -⟩ := Sigma.mk.inj (List.mem_singleton.mp hnew)
    exact hop

namespace Coordinator
variable {co : Coordinator py} {mid : String}

theorem cleanUpAll_preliminary (sessions : List RepositorySession) :
    (co.cleanUpAll sessions).Calls CoordinatorCall.Preliminary := by
  induction sessions with
  | nil => trivial
  | cons session rest ih =>
    have hone : (co.cleanUp session).Calls CoordinatorCall.Preliminary :=
      .bind (Prog.calls_perform.mpr trivial) fun _ => .bind (Prog.calls_lift _) fun _ => trivial
    refine .bind (.attempt hone) fun outcome => .bind ih fun cleaned => ?_
    cases outcome with
    | ok entry => trivial
    | error e => trivial

theorem preliminary_calls {α : Type} {p : CoordinatorProg py α} (h : p.Calls CoordinatorCall.Quiet) :
    p.Calls CoordinatorCall.Preliminary := h.mono fun _ => preliminary_of_quiet

theorem abort_preliminary (m : String) : (co.abort m).Calls CoordinatorCall.Preliminary := by
  have hcall : ∀ {op : CoordinatorCall py}, op.Preliminary → op.run.Calls CoordinatorCall.Preliminary :=
    Prog.calls_perform.mpr
  have hcleanup : (co.cleanupReceipt m).Calls CoordinatorCall.Preliminary :=
    .bind (hcall trivial) fun memory => .bind (cleanUpAll_preliminary _) fun _ =>
      .bind (hcall trivial) fun _ => Prog.calls_lift _
  refine .bind (hcall trivial) fun migration => .bind (Prog.calls_lift _) fun _ => ?_
  refine .bind (hcall trivial) fun _ => .bind hcleanup fun cleanup => ?_
  refine .bind (preliminary_calls (record_quiet _)) fun _ => .bind (hcall trivial) fun migration => ?_
  refine .bind (.tryCatch (preliminary_calls (writeback_quiet ..)) fun e => ?_) fun _ => ?_
  · exact .bind (preliminary_calls (record_quiet _)) fun _ => trivial
  · exact .bind (preliminary_calls (record_quiet _)) fun _ => trivial

theorem failBeforeGate_preliminary {α : Type} (m : String) (e : Exn) :
    (co.failBeforeGate (α := α) m e).Calls CoordinatorCall.Preliminary := by
  have hread : ∀ r : StoreRead, (@CoordinatorCall.read py r).run.Calls CoordinatorCall.Preliminary :=
    fun r => Prog.calls_perform.mpr trivial
  refine .bind (hread _) fun migration => .bind (.onlyWhen fun _ => ?_) fun _ => trivial
  refine .bind (hread _) fun armed => .bind (Prog.calls_lift _) fun _ => ?_
  refine .bind (.onlyWhen fun _ => .bind (.attempt ?_) fun _ => trivial) fun _ => ?_
  · refine .bind (hread _) fun participant => .onlyWhen fun _ => ?_
    exact .bind (Prog.calls_perform.mpr rfl) fun _ => trivial
  · exact .bind (.tryCatch (abort_preliminary m) fun e => Prog.calls_lift _) fun _ => Prog.calls_lift _

theorem checking_call {op : CoordinatorCall py} (h : op.Checking) : op.run.Calls CoordinatorCall.Checking :=
  Prog.calls_perform.mpr h

theorem checking_calls {α : Type} {p : CoordinatorProg py α} (h : p.Calls CoordinatorCall.Quiet) :
    p.Calls CoordinatorCall.Checking := h.mono fun _ => checking_of_quiet

theorem refreshImpact_checking (context : ContextObject py) (refusal : String) :
    (refreshImpact context refusal).Calls CoordinatorCall.Checking :=
  .bind (checking_call trivial) fun _ => .bind (Prog.calls_lift _) fun _ => trivial

theorem lookUpVerified_checking (m : String) :
    (co.lookUpVerified m).Calls CoordinatorCall.Checking := by
  refine .bind (checking_call trivial) fun memory => ?_
  split
  · exact .bind (Prog.calls_lift _) fun _ => trivial
  · trivial

theorem reverifyApproval_checking (m : String) (intent : ChangeIntent) :
    (co.reverifyApproval m intent).Calls CoordinatorCall.Checking := by
  refine .bind (lookUpVerified_checking m) fun verified => ?_
  refine .bind (checking_call trivial) fun current => .bind (Prog.calls_lift _) fun _ => ?_
  exact checking_calls (record_quiet _)

theorem stagePublication_checking (m : String) (refreshed : ContextObject py) (intent : ChangeIntent) :
    (stagePublication m refreshed intent).Calls CoordinatorCall.Checking := by
  refine .bind (checking_call trivial) fun participants => .bind (.mapM _ fun p _ => ?_) fun vs => ?_
  · refine .bind (Prog.calls_lift _) fun _ => .bind (checking_call trivial) fun memory => ?_
    dsimp only
    split
    · exact .bind (Prog.calls_lift _) fun _ => trivial
    · trivial
  · refine .bind (Prog.calls_lift _) fun _ => .bind (Prog.calls_lift _) fun request => ?_
    refine .bind (.forM _ fun v _ => .bind (checking_call trivial) fun _ => trivial) fun _ => ?_
    exact .bind (checking_call trivial) fun stage => .bind (Prog.calls_lift _) fun _ => trivial

theorem readyToRelease_checking (m : String) (migration : MigrationRecord) (context : ContextObject py) :
    (co.readyToRelease m migration context).Calls CoordinatorCall.Checking :=
  .bind (refreshImpact_checking ..) fun _ => .bind (checking_calls (writeback_quiet ..))
    fun _ => .bind (.onlyWhen fun _ => reverifyApproval_checking ..)
      fun _ => stagePublication_checking ..

theorem preliminary_checks {α : Type} {p : CoordinatorProg py α} (h : p.Calls CoordinatorCall.Checking) :
    p.Calls CoordinatorCall.Preliminary := h.mono fun _ => preliminary_of_checking

section Guarded
variable {h : CoordinatorHistory py}

/-- The contract of one call of `commit`. -/
abbrev Justifies (co : Coordinator py) (mid : String) :
    Contract (CoordinatorHistory py) Exn (@CoordinatorCall.Reply py) :=
  Prog.recording fun h op => op.Justified co mid h

theorem quiet_justified {α : Type} {p : CoordinatorProg py α} (hp : p.Calls CoordinatorCall.Quiet) :
    p.Guarded (Justifies co mid) (fun _ h' => h <+: h') h :=
  hp.recorded fun _ _ => justified_of_quiet

theorem quiet_ends {α : Type} {p : CoordinatorProg py α} (hp : p.Calls CoordinatorCall.Quiet) :
    p.Guarded (Justifies co mid) (fun _ _ => True) h :=
  (quiet_justified hp).mono fun _ _ _ => trivial

/-- The arming of the gate, once everything was checked. -/
theorem armGate_justified {migration : MigrationRecord} {request : PublicationRequest}
    {stage : PublicationStage} (hchecked : co.Checked mid h migration request stage) :
    (@armGate py mid migration.version).Guarded (Justifies co mid)
      (fun r h' => r = .ok () → co.Armed mid h' request stage) h := by
  refine Prog.Guarded.tryCatch (Prog.recorded_perform ⟨migration, request, stage, rfl, rfl, hchecked⟩
    fun r => ?_)
  cases r with
  | ok _ => exact fun _ => ⟨h, [], migration, hchecked, rfl⟩
  | error e =>
    dsimp only
    split
    · exact fun he => by cases he
    · exact fun he => by cases he

/-- A publication that is there or released for what was armed, if it is valid. -/
theorem publish_justified {ready : ReadyToRelease py}
    (harmed : co.Armed mid h ready.request ready.stage) :
    (co.publish ready).Guarded (Justifies co mid)
      (fun r h' => ∀ publication, r = .ok publication → co.Published mid h' publication) h := by
  have hfound : (co.releaseOrReconcile ready).Guarded (Justifies co mid) (fun r h' =>
      co.Armed mid h' ready.request ready.stage ∧ ∀ publication, r = .ok publication →
        (Answered h' (.reconcile ready.request ready.stage) (some publication) ∨
          Answered h' (.releaseGate ready.request ready.stage) publication)) h := by
    refine Prog.Guarded.bind ((quiet_justified (record_quiet _)).mono fun r h₁ hlonger => ?_)
    have harmed₁ := harmed.longer hlonger
    cases r with
    | error e => exact ⟨harmed₁, fun p hp => by cases hp⟩
    | ok _ =>
      refine Prog.recorded_bind harmed₁ (fun e => ⟨harmed₁.longer (List.prefix_append _ _), fun p hp => by
        cases hp⟩) fun found => ?_
      have harmed₂ : co.Armed mid (h₁ ++ [⟨.reconcile ready.request ready.stage, .ok found⟩])
          ready.request ready.stage := harmed₁.longer (List.prefix_append _ _)
      have hanswer : Answered (h₁ ++ [⟨.reconcile ready.request ready.stage, .ok found⟩])
          (.reconcile ready.request ready.stage) found :=
        List.mem_append_right _ (List.mem_singleton_self _)
      cases found with
      | some publication =>
        refine ⟨harmed₂, fun p hp => ?_⟩
        cases hp
        exact .inl hanswer
      | none =>
        refine Prog.recorded_perform ⟨harmed₂, hanswer⟩ fun r =>
          ⟨harmed₂.longer (List.prefix_append _ _), fun p hp => .inr ?_⟩
        rw [hp]
        exact List.mem_append_right _ (List.mem_singleton_self _)
  refine Prog.Guarded.tryCatch (Prog.Guarded.bind (hfound.mono fun r h₁ hr => ?_))
  obtain ⟨harmed₁, hr⟩ := hr
  have hfail : ∀ h₁ : CoordinatorHistory py, (do
      co.record [.writeJson "publication/reconciliation-required.json", .seal]
      coordinationError ("Producer gate release could be externally visible; candidates were " ++
        "retained and commit must be retried to reconcile publication") :
          CoordinatorProg py PublicationResult).Guarded (Justifies co mid)
      (fun r h' => ∀ publication, r = .ok publication → co.Published mid h' publication) h₁ := by
    refine fun h₁ => Prog.Guarded.bind ((quiet_ends (record_quiet _)).mono fun r h₂ _ => ?_)
    cases r with
    | ok _ => exact fun p hp => by cases hp
    | error e => exact fun p hp => by cases hp
  cases r with
  | error e => exact hfail h₁
  | ok publication =>
    refine Prog.Guarded.lift_bind (fun e _ => hfail h₁) fun _ hvalid p hp => ?_
    cases hp
    exact ⟨ready.request, ready.stage, harmed₁, hvalid, hr publication rfl⟩

theorem persistCommitted_justified (migration : MigrationRecord) (refreshed : ContextObject py)
    {publication : PublicationResult} (hpublished : co.Published mid h publication) :
    (co.persistCommitted mid migration refreshed publication).Guarded (Justifies co mid)
      (fun _ _ => True) h := by
  refine Prog.Guarded.tryCatch (Prog.recorded_perform ⟨rfl, rfl, publication, hpublished, rfl⟩
    fun r => ?_)
  cases r with
  | ok _ => trivial
  | error e =>
    refine quiet_ends (.bind (Prog.calls_perform.mpr trivial) fun current => ?_)
    split
    · trivial
    · exact .bind (record_quiet _) fun _ => trivial

theorem finalWriteback_quiet (m : String) (migration : MigrationRecord) (refreshed : ContextObject py)
    (publication : PublicationResult) (stage failure capture : String) (msg : Exn → String) :
    (co.finalWriteback m migration refreshed publication stage failure capture msg).Calls
      CoordinatorCall.Quiet := by
  refine .bind (.tryCatch (writeback_quiet ..) fun e => ?_) fun _ => ?_
  · exact .bind (record_quiet _) fun _ => trivial
  · exact .bind (record_quiet _) fun _ => .bind (Prog.calls_perform.mpr trivial) fun _ => trivial

theorem Published.longer {h h' : CoordinatorHistory py} {publication : PublicationResult}
    (hp : co.Published mid h publication) (hlonger : h <+: h') : co.Published mid h' publication := by
  obtain ⟨request, stage, harmed, hvalid, hanswer⟩ := hp
  exact ⟨request, stage, harmed.longer hlonger, hvalid,
    hanswer.imp (·.longer hlonger) (·.longer hlonger)⟩

/-- From the arming on, no call deletes a candidate or starts an abort. -/
theorem commitReady_justified {migration : MigrationRecord} {ready : ReadyToRelease py}
    (hchecked : co.Checked mid h migration ready.request ready.stage) :
    (co.commitReady mid migration ready).Guarded (Justifies co mid) (fun _ _ => True) h := by
  refine Prog.Guarded.bind ((armGate_justified hchecked).mono fun r h₁ hr => ?_)
  cases r with
  | error e => trivial
  | ok _ =>
    refine Prog.Guarded.bind ((publish_justified (hr rfl)).mono fun r h₂ hr₂ => ?_)
    cases r with
    | error e => trivial
    | ok publication =>
      refine Prog.recorded_bind trivial (fun e => trivial) fun _ => ?_
      refine Prog.Guarded.bind ((persistCommitted_justified migration ready.refreshed
        (Published.longer (hr₂ publication rfl) (List.prefix_append _ _))).mono fun r h₃ _ => ?_)
      cases r with
      | error e => trivial
      | ok migration => exact quiet_ends (finalWriteback_quiet ..)

/-- The reconciliation of a committed migration makes no call that needs a justification. -/
theorem reconcileCommit_justified :
    (co.reconcileCommit mid).Guarded (Justifies co mid) (fun _ _ => True) h := by
  have hquiet : ∀ {α : Type} {p : CoordinatorProg py α}, p.Calls CoordinatorCall.Quiet →
      p.Calls fun op => ∀ h, op.Justified co mid h :=
    fun hp => hp.mono fun _ hop _ => justified_of_quiet hop
  have hcall : ∀ {op : CoordinatorCall py}, (∀ h, op.Justified co mid h) →
      op.run.Calls fun op => ∀ h, op.Justified co mid h := fun h => Prog.calls_perform.mpr h
  have hcalls : (co.reconcileCommit mid).Calls fun op => ∀ h, op.Justified co mid h := by
    refine .bind (hcall fun _ => trivial) fun migration => .bind (Prog.calls_lift _) fun _ => ?_
    refine .bind (hquiet (requiredContext_quiet mid)) fun context => .bind (Prog.calls_lift _) fun _ => ?_
    refine .bind (.bind (hcall fun _ => trivial) fun _ => .bind (Prog.calls_lift _) fun _ => trivial)
      fun refreshed => .bind ?_ fun publication => hquiet (finalWriteback_quiet ..)
    refine .bind (hcall fun _ => trivial) fun memory => ?_
    split
    · trivial
    · refine .bind (.bind (hcall fun _ => trivial) fun events => ?_) fun _ =>
        .bind (hcall fun _ => trivial) fun _ => trivial
      split
      · exact Prog.calls_lift _
      · trivial
  exact (hcalls.recorded fun h _ hop => hop h).mono fun _ _ _ => trivial

/-- Every call of `commit` is justified by the calls that it has made before. -/
theorem commit_guarded (hnone : ¬HasArmed h) :
    (co.commit mid).Guarded (Justifies co mid) (fun _ _ => True) h := by
  have hlook : ∀ {op : CoordinatorCall py} {h : CoordinatorHistory py} (r : Result op.Reply),
      op.Preliminary → ¬HasArmed h → ¬HasArmed (h ++ [⟨op, r⟩]) :=
    fun r hop hnone => preliminary_arms_nothing hop hnone
  refine Prog.recorded_bind trivial (fun e => trivial) fun migration => ?_
  have hread : Answered (h ++ [⟨.read (.getMigration mid), .ok migration⟩]) (.read (.getMigration mid))
      migration := List.mem_append_right _ (List.mem_singleton_self _)
  have hnone₁ : ¬HasArmed (h ++ [⟨.read (.getMigration mid), .ok migration⟩]) :=
    hlook (.ok migration) trivial hnone
  generalize h ++ [⟨.read (.getMigration mid), .ok migration⟩] = h₁ at hread hnone₁
  split
  · exact reconcileCommit_justified
  · refine Prog.Guarded.lift_bind (fun _ _ => trivial) fun _ hprepared => ?_
    refine Prog.Guarded.bind ((Prog.Learns.guarded requiredContext_learns
      (preliminary_calls (requiredContext_quiet mid)) hnone₁ (fun _ _ r => hlook r)
      fun _ _ => justified_of_preliminary).mono fun r h₂ hr => ?_)
    obtain ⟨hlonger₂, hnone₂, hr⟩ := hr
    cases r with
    | error e => trivial
    | ok context =>
      obtain ⟨memory, hmemory, hcontext⟩ := hr context rfl
      refine Prog.Guarded.lift_bind (fun _ _ => trivial) fun _ _ => ?_
      refine Prog.Guarded.bind (Prog.Guarded.tryCatch ((Prog.Learns.guarded
        (readyToRelease_learns mid migration context) (preliminary_checks (readyToRelease_checking mid migration context))
        hnone₂ (fun _ _ r => hlook r) fun _ _ => justified_of_preliminary).mono fun r h₃ hr => ?_))
      obtain ⟨hlonger₃, hnone₃, hr⟩ := hr
      cases r with
      | ok ready =>
        obtain ⟨hrefreshed, hverified, hintent, hstaged⟩ := hr ready rfl
        refine commitReady_justified ⟨⟨(hread.longer hlonger₂).longer hlonger₃, ?_⟩,
          ⟨memory, context, ready.refreshed, hmemory.longer hlonger₃, hcontext, hrefreshed⟩, hverified,
          hstaged, hintent⟩
        exact of_decide_eq_true (require_eq_ok.mp hprepared)
      | error e =>
        have hcalls : (co.failBeforeGate mid e : CoordinatorProg py (ReadyToRelease py)).Calls
            CoordinatorCall.Preliminary := failBeforeGate_preliminary mid e
        have hguard : (co.failBeforeGate mid e : CoordinatorProg py (ReadyToRelease py)).Guarded
            (Justifies co mid) (fun _ h' => ¬HasArmed h') h₃ :=
          (Prog.learns_any.guarded hcalls hnone₃ (fun _ _ r => hlook r)
            fun _ _ => justified_of_preliminary).mono fun _ _ hr => hr.2.1
        have hfails := hguard.and_ends (failBeforeGate_raises mid e)
        refine hfails.mono fun r h₄ hr => ?_
        cases r with
        | ok ready => exact (hr.2 ready rfl).elim
        | error e => trivial

end Guarded
end Coordinator

/-- In every run of `commit`, whatever the replies and so whatever else happens meanwhile, the
gate is armed, a publication is looked up or released, and COMMITTED is recorded only after
the checks, and nothing is deleted or aborted once the gate was armed. -/
theorem commit_justified (co : Coordinator py) (mid : String) {σ : Type}
    (serve : σ → (op : CoordinatorCall py) → Result op.Reply → σ → Prop) (s s' : σ)
    (log : CoordinatorHistory py) (r : Result CommitOutcome)
    (hrun : (co.commit mid).Runs serve s log r s') (before after : CoordinatorHistory py)
    (call : CoordinatorCall py) (reply : Result call.Reply)
    (hlog : log = before ++ ⟨call, reply⟩ :: after) : call.Justified co mid before := by
  have hnone : ¬@HasArmed py [] := fun ⟨_, _, hmem⟩ => by cases hmem
  have hjustified := (@Coordinator.commit_guarded py co mid [] hnone).of_recorded_run hrun
  exact hjustified.2 before ⟨call, reply⟩ after hlog

/-- The release of the gate in a commit of the sample migration. -/
theorem sample_justified : ∃ before request stage,
    (CoordinatorCall.releaseGate request stage).Justified testCoordinator
      ChangeIntent.sample.migrationId before := by
  have hreleases : ((testCoordinator.commit ChangeIntent.sample.migrationId).trace sampleAnswer
      readyState).any releasesGate = true := by
    decide +kernel
  have hrun := Prog.runs_exec sampleAnswer (testCoordinator.commit ChangeIntent.sample.migrationId)
    readyState
  obtain ⟨⟨op, reply⟩, hmem, hrelease⟩ := List.any_eq_true.mp hreleases
  obtain ⟨before, after, hlog⟩ := List.append_of_mem hmem
  have hjustified := commit_justified testCoordinator _ _ _ _ _ _ hrun before after op reply hlog
  cases op with
  | releaseGate request stage => exact ⟨before, request, stage, hjustified⟩
  | _ => cases hrelease

end LineageTX
