import LineageTX.Coordinator

/-! The transaction of one migration as the coordinator drives it: detection,
preparation, the owner's approval, commit, and the two reconciliations. -/
namespace LineageTX
open Library
variable {py : Python}

def transitionParticipant (pid : String) (target expected : ParticipantStatus) (version : Int)
    (event : String) (payload : List (String × Json)) : CoordinatorProg py Participant :=
  (CoordinatorCall.store
    (.transitionParticipant pid target expected version event payload none none)).run

/-- `repository_roots[repository]` -/
def repositoryRoot (roots : Dict String) (repository : String) : Result String :=
  match roots.get? repository with
  | some root => .ok root
  | none => coordinationError ("repository root is missing for " ++ repository)

def optionalText : Option String → Json
  | some text => .str text
  | none => .null

structure PrepareOutcome where
  migration : MigrationRecord
  participants : List Participant
  results : List (String × PreparationResult)
  pendingApprovalParticipantIds : List String

structure CommitOutcome where
  migration : MigrationRecord
  participants : List Participant
  publication : PublicationResult
  upstreamChangeSafeToMerge : Bool := true
  autoMerged : Bool := false

namespace Coordinator
variable (co : Coordinator py)

def detect (intent : ChangeIntent) (attestation : DiscoveryAttestation py)
    (participants : List Participant) : CoordinatorProg py MigrationRecord := do
  require (co.evidenceMigration.all (· = intent.migrationId)) .valueError
    "evidence recorder belongs to another migration"
  let decision ← co.policy.validateDiscovery py intent attestation participants
  let migration ← (CoordinatorCall.store (.createMigration intent participants)).run
  remember (.context intent.migrationId attestation.context)
  remember (.discovery intent.migrationId decision)
  co.record [.writeJson "context/datahub.json", .writeJson "context/discovery-decision.json",
    .captureState "01-detected", .seal]
  co.writeback migration "detected" none
  return migration

/-- `_proposal_request` -/
def proposalRequest (intent : ChangeIntent) (participant : Participant)
    (session : RepositorySession) (context : ContextObject py) : CoordinatorProg py ProposalRequest :=
  let expanded := context.data.source.schema.map (·.fieldPath)
  (CoordinatorCall.readSession session intent participant expanded
    (expanded.filter (· ≠ intent.oldField))).run

/-- `_record_preparation` -/
def recordPreparation (participant : Participant) (suffix : String) : CoordinatorProg py Unit :=
  co.record [.writeJson ("proposals/" ++ participant.participantId ++ ".json"),
    .writeJson ("verification/" ++ participant.participantId ++ "-" ++ suffix ++ ".json")]

/-- `evidence.write_text` of the candidate's diff. -/
def recordDiff (participant : Participant) (session : RepositorySession) :
    CoordinatorProg py Unit :=
  Prog.onlyWhen (co.evidenceMigration.isSome = true) do
    let patch ← (CoordinatorCall.worktrees (.diff session)).run
    (CoordinatorCall.evidence
      (.writeText ("diffs/" ++ participant.participantId ++ ".patch") patch)).run

/-- `_commit_verified_candidate` -/
def commitVerifiedCandidate (participant current : Participant) (result : PreparationResult)
    (session : RepositorySession) (envelope : CandidateEnvelope) : CoordinatorProg py Participant := do
  requireCoordination (result.participantId = participant.participantId)
    "adapter result belongs to another participant"
  requireCoordination (ContextData.sameSet result.changedFiles participant.files)
    "verified adapter result must change its exact allowlist"
  let candidateSha ← (CoordinatorCall.worktrees (.commitCandidate session participant.files
    ("LineageTX " ++ participant.kind.value ++ ": prepare " ++ participant.participantId))).run
  let evidenceLink := co.baseUrl ++ "/" ++ participant.migrationId ++ "/participants/" ++
    participant.participantId ++ ".json"
  co.record [.writeJson ("participants/" ++ participant.participantId ++ ".json")]
  let verified ← (CoordinatorCall.store (.transitionParticipant participant.participantId .verified
    .preparing current.version "CANDIDATE_COMMITTED_AND_VERIFIED"
    [("candidate_commit_sha", .str candidateSha), ("checks", texts result.checks),
      ("proposal_sha256", .str (proposalFingerprint py envelope)), ("unmerged", .bool true)]
    (some candidateSha) (some [evidenceLink]))).run
  co.recordDiff participant session
  return verified

/-- What follows the adapter's result: the wait for an owner, or the candidate commit. -/
def settleParticipant (participant current : Participant) (result : PreparationResult)
    (session : RepositorySession) (envelope : CandidateEnvelope) : CoordinatorProg py Unit :=
  match result.state with
  | .needsApproval => do
    requireCoordination (participant.kind = .semanticApproval)
      "only the semantic participant may require approval"
    requireCoordination (result.changedFiles = [])
      "semantic NEEDS_APPROVAL must be a zero-write result"
    let changed ← (CoordinatorCall.worktrees (.changedFiles session)).run
    requireCoordination (changed = []) "semantic NEEDS_APPROVAL must be a zero-write result"
    let _ ← transitionParticipant participant.participantId .needsApproval .preparing
      current.version "SEMANTIC_OWNER_APPROVAL_REQUIRED"
      [("required_owner_urn", optionalText result.requiredOwnerUrn), ("zero_write", .bool true)]
  | .verified => do
    let _ ← co.commitVerifiedCandidate participant current result session envelope
  | state => (coordinationError ("adapter returned non-preparable state " ++ state.value) : Result Unit)

/-- One turn of the participant loop of `prepare`. -/
def prepareParticipant (mid : String) (migration : MigrationRecord) (context : ContextObject py)
    (roots : Dict String) (pid : String) : CoordinatorProg py Unit := do
  let participant ← getParticipant pid
  let participant ← transitionParticipant pid .preparing .discovered participant.version
    "PARTICIPANT_PREPARING_IN_ISOLATED_WORKTREE" [("repository", .str participant.repository)]
  let root ← repositoryRoot roots participant.repository
  let baseSha := if participant.baseSha = "" then none else some participant.baseSha
  let session ← (CoordinatorCall.worktrees
    (.prepare participant.repository root mid baseSha participant.participantId)).run
  remember (.session (mid, pid) session)
  let request ← proposalRequest migration.intent participant session context
  let trusted ← trustedPolicy py co.sql request
  let envelope ← (CoordinatorCall.propose request).run
  let proposal ← SafetyPolicy.validateCandidate py co.sql request envelope
  let result ← (CoordinatorCall.runAdapter session proposal trusted none).run
  remember (.proposal (mid, pid) envelope)
  remember (.trustedPolicy (mid, pid) trusted)
  remember (.result (mid, pid) result)
  co.recordPreparation participant "initial"
  let current ← getParticipant pid
  co.settleParticipant participant current result session envelope

/-- The participant loop, with the participant that was active when it ended. -/
def prepareAll (mid : String) (migration : MigrationRecord) (context : ContextObject py)
    (roots : Dict String) :
    (active : String) → List String → CoordinatorProg py (String × Result Unit)
  | active, [] => return (active, .ok ())
  | _, pid :: rest => do
    match ← (co.prepareParticipant mid migration context roots pid).attempt with
    | .ok () => prepareAll mid migration context roots pid rest
    | .error e => return (pid, .error e)

/-- The move of the migration once every participant was prepared. -/
def movePrepared (mid : String) (migration : MigrationRecord) (pending : List String) :
    CoordinatorProg py MigrationRecord :=
  if pending = [] then
    transition mid .prepared .preparing migration.version "ALL_CONSUMERS_PREPARED" [] []
  else do
    requireCoordination (pending.length = 1) "bounded scenario requires one owner approval"
    transition mid .needsApproval .preparing migration.version "MIGRATION_WAITING_FOR_OWNER"
      [("participant_ids", texts pending)] []

/-- `prepare` after its participant loop. -/
def finishPrepare (mid : String) (migration : MigrationRecord) (pids : List String) :
    CoordinatorProg py PrepareOutcome := do
  let records ← listParticipants mid
  let pending := (records.filter (·.status = .needsApproval)).map (·.participantId)
  let migration ← movePrepared mid migration pending
  let stage := if pending = [] then "03-prepared" else "03-needs-approval"
  co.record [.captureState stage, .seal]
  co.writeback migration (String.ofList (migration.status.value.toList.map Char.toLower)) none
  let participants ← listParticipants mid
  return { migration, participants, results := ← recalledResults mid pids
           pendingApprovalParticipantIds := pending }

/-- The body of `prepare`, with the participant that was active at its end. -/
def prepareBody (mid : String) (migration : MigrationRecord) (context : ContextObject py)
    (roots : Dict String) (pids : List String) :
    CoordinatorProg py (String × Result PrepareOutcome) := do
  match ← (co.writeback migration "preparing" none).attempt with
  | .error e => return ("", .error e)
  | .ok () =>
    match ← co.prepareAll mid migration context roots "" pids with
    | (active, .error e) => return (active, .error e)
    | (active, .ok ()) => return (active, ← (co.finishPrepare mid migration pids).attempt)

def prepare (mid : String) (roots : Dict String) : CoordinatorProg py PrepareOutcome := do
  let migration ← getMigration mid
  requireCoordination (migration.status = .detected)
    ("prepare requires DETECTED, got " ++ migration.status.value)
  let context ← requiredContext mid
  let decision ← requiredDiscovery mid
  let migration ← transition mid .preparing .detected migration.version "LINEAGETX_PREPARING"
    [("isolated_worktrees", .bool true), ("auto_merge", .bool false)] []
  match ← co.prepareBody mid migration context roots decision.orderedParticipantIds with
  | (_, .ok outcome) => return outcome
  | (active, .error e) => co.abortAfterFailure mid active e "prepare"

/-- What the approval of a waiting participant works on. -/
structure Pending (py : Python) where
  migration : MigrationRecord
  participant : Participant
  session : RepositorySession
  envelope : CandidateEnvelope
  proposal : SemanticMappingProposal
  trusted : TrustedParticipantPolicy py

/-- The session, the proposal and the trusted policy that the coordinator remembers of a
waiting participant. -/
def recallPending (mid : String) (migration : MigrationRecord) (participant : Participant) :
    CoordinatorProg py (Pending py) := do
  let memory ← recalled
  let key := (mid, participant.participantId)
  match memory.sessions.lookup key, memory.proposals.lookup key, memory.trustedPolicies.lookup key with
  | some session, some envelope, some trusted =>
    match envelope.proposal with
    | .semanticMapping proposal =>
      return { migration, participant, session, envelope, proposal, trusted }
    | _ => coordinationError "pending approval is not a semantic proposal"
  | _, _, _ => coordinationError "pending isolated candidate session is unavailable"

/-- `_apply_approval` before its first change. -/
def pendingApproval (mid : String) (approval : OwnerApproval) : CoordinatorProg py (Pending py) := do
  let migration ← getMigration mid
  requireCoordination (migration.status = .needsApproval)
    ("approval requires NEEDS_APPROVAL, got " ++ migration.status.value)
  let participant ← getParticipant approval.participantId
  requireCoordination (participant.status = .needsApproval)
    "approval participant is not waiting for approval"
  -- A refused approval leaves the pending transaction to its real owner.
  SafetyPolicy.validateOwnerApproval py migration.intent participant approval
  recallPending mid migration participant

/-- The receipt that is made of an approval. -/
def approvalReceipt (mid : String) (intent : ChangeIntent) (participant : Participant)
    (approval : OwnerApproval) (verified : Option VerifiedGitHubApproval) : ApprovalReceipt where
  migrationId := mid
  participantId := participant.participantId
  ownerUrn := approval.ownerUrn
  approvedMapping := intent.oldField ++ " -> " ++ intent.newField
  approvedAt := approval.approvedAt
  evidenceUrl := approval.evidenceUrl
  verification := match verified with
    | some v => v.verification
    | none => []

/-- The approved participant, up to its candidate commit. -/
def verifyApproved (mid : String) (p : Pending py) (approval : OwnerApproval)
    (verified : Option VerifiedGitHubApproval) : CoordinatorProg py Participant := do
  let receipt ← (approvalReceipt mid p.migration.intent p.participant approval verified).postInit py
  (CoordinatorCall.store (.recordApproval receipt)).run
  let participant ← transitionParticipant p.participant.participantId .preparing .needsApproval
    p.participant.version "APPROVED_SEMANTIC_CANDIDATE_PREPARING"
    [("approval_evidence_url", .str approval.evidenceUrl)]
  let result ← (CoordinatorCall.runAdapter p.session (.semanticMapping p.proposal) p.trusted
    (some approval)).run
  requireCoordination (result.state = .verified) "approved semantic adapter did not verify"
  remember (.result (mid, participant.participantId) result)
  co.recordPreparation participant "approved"
  let current ← getParticipant participant.participantId
  co.commitVerifiedCandidate participant current result p.session p.envelope

/-- `_apply_approval` once the participant is verified. -/
def finishApproval (mid : String) (migration : MigrationRecord) (approval : OwnerApproval)
    (verified : Option VerifiedGitHubApproval) : CoordinatorProg py PrepareOutcome := do
  let participants ← listParticipants mid
  requireCoordination (participants.all (·.status = .verified))
    "PREPARED requires all consumers VERIFIED"
  let migration ← transition mid .prepared .needsApproval migration.version
    "ALL_CONSUMERS_PREPARED_AFTER_OWNER_APPROVAL" [("approved_by", .str approval.ownerUrn)] []
  co.record [.writeJson "approval/owner-receipt.json"]
  co.record (if verified.isSome then [.writeJson "approval/github-verification.json"] else [])
  co.record [.captureState "04-prepared", .seal]
  co.writeback migration "prepared" none
  let decision ← requiredDiscovery mid
  return { migration, participants
           results := ← recalledResults mid decision.orderedParticipantIds
           pendingApprovalParticipantIds := [] }

/-- `_apply_approval` -/
def applyApproval (mid : String) (approval : OwnerApproval)
    (verified : Option VerifiedGitHubApproval) : CoordinatorProg py PrepareOutcome := do
  let p ← pendingApproval mid approval
  tryCatch (do
      let _ ← co.verifyApproved mid p approval verified
      co.finishApproval mid p.migration approval verified)
    fun e => co.abortAfterFailure mid p.participant.participantId e "approval"

def approve (mid : String) (approval : OwnerApproval) : CoordinatorProg py PrepareOutcome := do
  requireCoordination co.allowTestApprovals
    ("caller-fabricated OwnerApproval is forbidden; use " ++
      "approve_from_github with authenticated external evidence")
  co.applyApproval mid approval none

/-- What the verifier is to expect of the one participant that waits for its one owner. -/
def expectationOf (mid : String) (intent : ChangeIntent) (participants : List Participant) :
    Result GitHubApprovalExpectation :=
  match participants.filter (·.status = .needsApproval) with
  | [participant] =>
    match participant.ownerUrns with
    | [ownerUrn] =>
      if participant.kind = .semanticApproval then
        .ok { migrationId := mid, participantId := participant.participantId, ownerUrn
              oldField := intent.oldField, newField := intent.newField }
      else coordinationError "pending approval is not bound to one semantic DataHub owner"
    | _ => coordinationError "pending approval is not bound to one semantic DataHub owner"
  | _ => coordinationError "approval requires exactly one pending consumer"

def approvalExpectation (mid : String) : CoordinatorProg py GitHubApprovalExpectation := do
  let migration ← getMigration mid
  requireCoordination (migration.status = .needsApproval)
    ("approval requires NEEDS_APPROVAL, got " ++ migration.status.value)
  let participants ← listParticipants mid
  expectationOf mid migration.intent participants

/-- `except ApprovalVerificationError` of the verifier's call. -/
def verifyOnGithub (expectation : GitHubApprovalExpectation) (sourceApiUrl : String) :
    CoordinatorProg py VerifiedGitHubApproval :=
  tryCatch (CoordinatorCall.verify expectation sourceApiUrl).run fun e =>
    if e.cls = .approvalVerificationError then
      coordinationError ("GitHub owner approval was not verified: " ++ e.msg)
    else throw e

def approveFromGithub (mid sourceApiUrl : String) : CoordinatorProg py PrepareOutcome := do
  requireCoordination co.approvalVerifier.isSome "GitHub owner approval verifier is not configured"
  let expectation ← approvalExpectation mid
  let verified ← verifyOnGithub expectation sourceApiUrl
  let outcome ← co.applyApproval mid verified.toOwnerApproval (some verified)
  -- The store has said PREPARED since before the write-back above.
  remember (.verified mid verified)
  return outcome

/-- The refreshed context, which must be newly read, complete and of the same impact. -/
def refreshImpact (context : ContextObject py) (refusal : String) :
    CoordinatorProg py (ContextObject py) := do
  let refreshed ← (CoordinatorCall.assertImpactUnchanged context).run
  requireCoordination (acceptsRefresh context refreshed) refusal
  return refreshed

/-- The verified approval that `commit` looks up. -/
def lookUpVerified (mid : String) : CoordinatorProg py VerifiedGitHubApproval := do
  let memory ← recalled
  match memory.verifiedGithubApprovals.get? mid with
  | some verified => do
    requireCoordination co.approvalVerifier.isSome
      "authenticated GitHub approval is required before gate release"
    return verified
  | none => coordinationError "authenticated GitHub approval is required before gate release"

/-- The approval is fetched again and must be the same resource with the same evidence. -/
def reverifyApproval (mid : String) (intent : ChangeIntent) : CoordinatorProg py Unit := do
  let verified ← co.lookUpVerified mid
  let current ← (CoordinatorCall.verify {
    migrationId := mid, participantId := verified.participantId, ownerUrn := verified.ownerUrn
    oldField := intent.oldField, newField := intent.newField } verified.sourceApiUrl).run
  requireCoordination (current.evidenceSha256 = verified.evidenceSha256 &&
      current.resourceId = verified.resourceId && current.resourceNodeId = verified.resourceNodeId)
    "GitHub approval changed after preparation; refusing gate release"
  co.record [.writeJson "approval/github-precommit-revalidation.json", .seal]

/-- A participant that `commit` read as verified, with its session and candidate. -/
structure VerifiedCandidate where
  participant : Participant
  session : RepositorySession
  candidate : CandidateCommit

/-- One turn of the participant loop of `commit`. -/
def verifiedCandidate (mid : String) (participant : Participant) :
    CoordinatorProg py VerifiedCandidate := do
  requireCoordination (participant.status = .verified && participant.candidateCommitSha ≠ "")
    ("participant " ++ participant.participantId ++ " is not verified")
  let memory ← recalled
  let key := (mid, participant.participantId)
  match memory.sessions.lookup key, memory.results.lookup key with
  | some session, some result => do
    let candidate ← CandidateCommit.postInit {
      participantId := participant.participantId, repository := participant.repository
      branch := session.branch, commitSha := participant.candidateCommitSha
      changedFiles := result.changedFiles }
    return { participant, session, candidate }
  | _, _ => coordinationError "verified candidate session is unavailable"

def publicationBody (candidates : List CandidateCommit) : String :=
  "\n".intercalate (["LineageTX verified all downstream consumers.", "",
    "Candidate changes remain unmerged; human merge control is preserved.", ""] ++
    candidates.map fun item =>
      "- " ++ item.participantId ++ ": `" ++ item.commitSha ++ "` on `" ++ item.branch ++ "`")

def publicationRequest (py : Python) (mid : String) (intent : ChangeIntent)
    (candidates : List CandidateCommit) : Result PublicationRequest :=
  PublicationRequest.postInit py {
    intent, candidates, body := publicationBody candidates
    title := "LineageTX " ++ mid ++ ": " ++ intent.oldField ++ " to " ++ intent.newField
    coordinatedHeadBranch := "lineagetx/" ++ mid ++ "/coordination" }

/-- What `commit` has established when it arms the gate. -/
structure ReadyToRelease (py : Python) where
  refreshed : ContextObject py
  request : PublicationRequest
  stage : PublicationStage

/-- The last checks before publication: every candidate, and the stage. -/
def stagePublication (mid : String) (refreshed : ContextObject py) (intent : ChangeIntent) :
    CoordinatorProg py (ReadyToRelease py) := do
  let participants ← listParticipants mid
  let candidates ← participants.mapM (verifiedCandidate mid)
  requireCoordination (candidates.length = 3) "commit requires exactly three candidate commits"
  let request ← publicationRequest py mid intent (candidates.map (·.candidate))
  candidates.forM fun c => do
    let _ ← (CoordinatorCall.worktrees (.validateCommittedCandidate c.session
      c.participant.candidateCommitSha c.participant.files)).run
  let stage ← (CoordinatorCall.stage request).run
  stage.validate request
  return { refreshed, request, stage }

/-- `commit` up to the arming of the gate. -/
def readyToRelease (mid : String) (migration : MigrationRecord) (context : ContextObject py) :
    CoordinatorProg py (ReadyToRelease py) := do
  let refreshed ← refreshImpact context
    "DataHub impact changed after PREPARING; refusing Producer gate release"
  co.writeback migration "precommit-refreshed" (some refreshed)
  Prog.onlyWhen (co.allowTestApprovals = false)
    (co.reverifyApproval mid migration.intent)
  stagePublication mid refreshed migration.intent

/-- The failure of `commit` before the gate is armed. -/
def failBeforeGate {α : Type} (mid : String) (e : Exn) : CoordinatorProg py α := do
  let migration ← getMigration mid
  Prog.onlyWhen (migration.status = .prepared) do
    let armed ← (CoordinatorCall.read (.publicationGateArmed mid)).run
    requireCoordination (!armed) ("publication reconciliation is already armed; pre-publication " ++
      "retry failed but candidates were retained")
    co.abortAfterFailure mid "" e "commit"
  throw e

/-- `arm_publication_gate`, and the refusal of a reserved cleanup. -/
def armGate (mid : String) (version : Int) : CoordinatorProg py Unit :=
  tryCatch (CoordinatorCall.store (.armPublicationGate mid version)).run fun e =>
    if e.cls = .publicationReconciliationRequired then
      coordinationError
        "ABORT cleanup was already reserved; Producer gate release did not start"
    else throw e

/-- The publication that is already there, or the release of the gate. -/
def releaseOrReconcile (ready : ReadyToRelease py) : CoordinatorProg py PublicationResult := do
  co.record [.writeJson "publication/staged.json", .seal]
  match ← (CoordinatorCall.reconcile ready.request ready.stage).run with
  | some publication => return publication
  | none => (CoordinatorCall.releaseGate ready.request ready.stage).run

/-- The publication, checked; a failure leaves the candidates and the armed gate. -/
def publish (ready : ReadyToRelease py) : CoordinatorProg py PublicationResult :=
  tryCatch (do
      let publication ← co.releaseOrReconcile ready
      publication.validate ready.request
      return publication)
    fun _ => do
      co.record [.writeJson "publication/reconciliation-required.json", .seal]
      coordinationError ("Producer gate release could be externally visible; candidates were " ++
        "retained and commit must be retried to reconcile publication")

/-- The durable COMMITTED, by this call or by one before it. -/
def persistCommitted (mid : String) (migration : MigrationRecord) (refreshed : ContextObject py)
    (publication : PublicationResult) : CoordinatorProg py MigrationRecord :=
  tryCatch (transition mid .committed .prepared migration.version
      "COORDINATED_PR_CREATED_AND_PRODUCER_GATE_RELEASED"
      [("impact_fingerprint", .str refreshed.data.impactFingerprint),
        ("unverified_consumers", .int 0), ("auto_merge", .bool false)] publication.receipts)
    fun _ => do
      let current ← getMigration mid
      if current.status = .committed then return current
      else do
        co.record [.writeJson "publication/state-reconciliation-required.json", .seal]
        coordinationError ("Producer gate was released but COMMITTED state persistence " ++
          "requires reconciliation; candidates were retained")

/-- The final write-back of a committed migration, and its outcome. -/
def finalWriteback (mid : String) (migration : MigrationRecord) (refreshed : ContextObject py)
    (publication : PublicationResult) (stage failure capture : String) (msg : Exn → String) :
    CoordinatorProg py CommitOutcome := do
  tryCatch (co.writeback migration stage (some refreshed)) fun e => do
    co.record [.writeJson failure, .seal]
    coordinationError (msg e)
  co.record [.writeJson "publication/receipts.json", .captureState capture, .seal]
  return { migration, participants := ← listParticipants mid, publication }

/-- `commit` from the armed gate on; no failure leads to an abort. -/
def commitReady (mid : String) (migration : MigrationRecord) (ready : ReadyToRelease py) :
    CoordinatorProg py CommitOutcome := do
  armGate mid migration.version
  let publication ← co.publish ready
  remember (.publication mid publication)
  let migration ← co.persistCommitted mid migration ready.refreshed publication
  co.finalWriteback mid migration ready.refreshed publication "committed"
    "writeback/committed-error.json" "05-committed" fun e =>
      "coordination receipts were committed, but final DataHub write-back " ++
        "failed and requires idempotent retry: " ++ e.msg

/-- The commit receipts of a COMMITTED event. -/
def publicationOfEvent (py : Python) (e : EventRow) : Result PublicationResult := do
  match getD e.payloadJson "coordination_receipts" .null with
  | .arr items => do
    let receipts ← match (items.filter isObj).mapM (CoordinationReceipt.fromDict py) with
      | .ok receipts => .ok receipts
      | .error e =>
        if [ExnClass.keyError, .typeError, .valueError].contains e.cls then
          coordinationError "COMMITTED publication receipts are invalid"
        else .error e
    let ofKind (kind : CoordinationReceiptKind) := receipts.filter (·.kind = kind)
    match ofKind .candidateCommit, ofKind .coordinatedPr, ofKind .producerGateReleased with
    | [a, b, c], [coordinated], [gate] => return ⟨[a, b, c], coordinated, gate⟩
    | _, _, _ => coordinationError "COMMITTED publication receipt set is incomplete"
  | _ => coordinationError "COMMITTED event omitted publication receipts"

/-- `_publication_from_state` -/
def publicationFromState (mid : String) : CoordinatorProg py PublicationResult := do
  let events ← (CoordinatorCall.read (.listEvents mid)).run
  match events.reverse.find? (·.toStatus = .migration .committed) with
  | some event => publicationOfEvent py event
  | none => coordinationError "COMMITTED publication receipts are unavailable"

/-- The publication that the coordinator remembers, or that of the store. -/
def knownPublication (mid : String) : CoordinatorProg py PublicationResult := do
  match (← recalled).publications.get? mid with
  | some publication => return publication
  | none => do
    let publication ← publicationFromState mid
    remember (.publication mid publication)
    return publication

def reconcileCommit (mid : String) : CoordinatorProg py CommitOutcome := do
  let migration ← getMigration mid
  requireCoordination (migration.status = .committed)
    ("commit reconciliation requires COMMITTED, got " ++ migration.status.value)
  let context ← requiredContext mid
  requireCoordination co.hasRevalidator
    "official DataHub impact revalidation is required for reconciliation"
  let refreshed ← refreshImpact context ("DataHub impact changed after gate release; final " ++
    "write-back was not reconciled and candidates remain retained")
  let publication ← knownPublication mid
  co.finalWriteback mid migration refreshed publication "committed-reconciled"
    "writeback/committed-reconciliation-error.json" "05-committed-reconciled" fun _ =>
      "final DataHub write-back reconciliation failed; COMMITTED state " ++
        "and unmerged candidates were retained for another retry"

def commit (mid : String) : CoordinatorProg py CommitOutcome := do
  let migration ← getMigration mid
  if migration.status = .committed then
    co.reconcileCommit mid
  else do
    requireCoordination (migration.status = .prepared)
      ("commit requires PREPARED, got " ++ migration.status.value)
    let context ← requiredContext mid
    requireCoordination co.hasRevalidator
      "official DataHub impact revalidation is required before gate release"
    let ready ← tryCatch (co.readyToRelease mid migration context) (co.failBeforeGate mid)
    co.commitReady mid migration ready

/-- `_abort_cleanup_from_state` -/
def abortCleanupOfEvent (py : Python) (e : EventRow) : Result AbortCleanupReceipt :=
  let raw := getD e.payloadJson "cleanup" .null
  let items (key : String) : Result (List String) := do
    return (← iterate (← getItem raw key)).map py.str
  let receipt : Result AbortCleanupReceipt := do
    let migrationId := py.str (← getItem raw "migration_id")
    let worktreesRemoved ← items "worktrees_removed"
    let candidateBranchesDeleted ← items "candidate_branches_deleted"
    let cleanupErrors ← items "cleanup_errors"
    let recordedAt := py.str (← getItem raw "recorded_at")
    AbortCleanupReceipt.postInit py {
      migrationId, worktreesRemoved, candidateBranchesDeleted, cleanupErrors, recordedAt
      deployedSystemsRolledBack := truthy (getD raw "deployed_systems_rolled_back" (.bool false)) }
  if isObj raw then
    match receipt with
    | .ok receipt => .ok receipt
    | .error e =>
      if [ExnClass.keyError, .typeError, .valueError].contains e.cls then
        coordinationError "ABORTED cleanup receipt is invalid"
      else .error e
  else coordinationError "ABORTED event omitted its cleanup receipt"

def abortCleanupFromState (mid : String) : CoordinatorProg py AbortCleanupReceipt := do
  let events ← (CoordinatorCall.read (.listEvents mid)).run
  match events.reverse.find? fun e =>
      e.eventType = "MIGRATION_ABORTED" && e.toStatus = .migration .aborted with
  | some event => abortCleanupOfEvent py event
  | none => coordinationError "ABORTED cleanup receipt is unavailable"

def reconcileAbort (mid : String) : CoordinatorProg py AbortOutcome := do
  let migration ← getMigration mid
  requireCoordination (migration.status = .aborted)
    ("abort reconciliation requires ABORTED, got " ++ migration.status.value)
  let cleanup ← abortCleanupFromState mid
  tryCatch (co.writeback migration "aborted" none) fun _ => do
    co.record [.writeJson "writeback/aborted-reconciliation-error.json", .seal]
    coordinationError ("ABORTED DataHub write-back reconciliation failed; local cleanup and " ++
      "terminal state were retained for another reconcile_abort retry")
  co.record [.captureState "99-aborted-reconciled", .seal]
  return { migration, cleanup }

end Coordinator
end LineageTX
