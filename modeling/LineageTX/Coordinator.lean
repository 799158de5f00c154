import LineageTX.Proposals
import LineageTX.Publication
import LineageTX.StageWriteback
import LineageTX.State
import LineageTX.Worktrees

/-! The coordinator's calls: its store, its own maps, the worktree manager and the
services around it; the write-back of a stage and the abort of a migration. -/
namespace LineageTX
open Library
variable (py : Python)

/-- `type(error).__name__` -/
def ExnClass.typeName : ExnClass → String
  | .valueError => "ValueError"
  | .typeError => "TypeError"
  | .keyError => "KeyError"
  | .attributeError => "AttributeError"
  | .osError => "OSError"
  | .integrityError => "IntegrityError"
  | .migrationNotFound => "MigrationNotFound"
  | .migrationAlreadyExists => "MigrationAlreadyExists"
  | .participantNotFound => "ParticipantNotFound"
  | .stateConflict => "StateConflict"
  | .illegalStateTransition => "IllegalStateTransition"
  | .preparationGuardFailed => "PreparationGuardFailed"
  | .commitGuardFailed => "CommitGuardFailed"
  | .approvalGuardFailed => "ApprovalGuardFailed"
  | .verificationGuardFailed => "VerificationGuardFailed"
  | .parentMigrationTerminal => "ParentMigrationTerminal"
  | .abortCleanupFailed => "AbortCleanupFailed"
  | .publicationReconciliationRequired => "PublicationReconciliationRequired"
  | .dataHubContextReadError => "DataHubContextReadError"
  | .impactFingerprintChanged => "ImpactFingerprintChanged"
  | .dataHubWritebackError => "DataHubWritebackError"
  | .dataHubPartialWriteError => "DataHubPartialWriteError"
  | .policyViolation => "PolicyViolation"
  | .proposalError => "ProposalError"
  | .candidateRejected => "CandidateRejected"
  | .worktreeError => "WorktreeError"
  | .baseRepositoryChanged => "BaseRepositoryChanged"
  | .mergedCandidateError => "MergedCandidateError"
  | .approvalVerificationError => "ApprovalVerificationError"
  | .publicationError => "PublicationError"
  | .evidenceError => "EvidenceError"
  | .coordinationError => "CoordinationError"
  | .other name => name

/-- What the store returns for a call that changes it. -/
abbrev StoreCall.Returned : StoreCall → Type
  | .createMigration .. | .transitionMigration .. | .abortMigration .. => MigrationRecord
  | .transitionParticipant .. => Participant
  | .armPublicationGate .. | .reserveAbortCleanup .. | .recordApproval _ => Unit

/-- The result of a call with what it returns. -/
def StoreCall.answer (now : String) (s : Store) : (c : StoreCall) → Result (c.Returned × Store)
  | .createMigration intent ps => s.createMigration py intent ps
  | .armPublicationGate mid version => do return ((), ← s.armPublicationGate now mid version)
  | .reserveAbortCleanup mid expected version => do
    return ((), ← s.reserveAbortCleanup now mid expected version)
  | .transitionMigration mid target expected version event payload receipts =>
    s.transitionMigration py now mid target expected version event payload receipts
  | .abortMigration mid receipt expected version =>
    s.abortMigration py now mid receipt expected version
  | .transitionParticipant pid target expected version event payload sha links =>
    s.transitionParticipant py now pid target expected version event payload sha links
  | .recordApproval receipt => do return ((), ← s.recordApproval py receipt)

/-- The reads of the store. -/
inductive StoreRead where
  | getMigration (migrationId : String)
  | getParticipant (participantId : String)
  | listParticipants (migrationId : String)
  | publicationGateArmed (migrationId : String)
  | listEvents (migrationId : String)

abbrev StoreRead.Reply : StoreRead → Type
  | .getMigration _ => MigrationRecord
  | .getParticipant _ => Participant
  | .listParticipants _ => List Participant
  | .publicationGateArmed _ => Bool
  | .listEvents _ => List EventRow

def StoreRead.answer (s : Store) : (r : StoreRead) → Result r.Reply
  | .getMigration mid => s.getMigration py mid
  | .getParticipant pid => s.getParticipant py pid
  | .listParticipants mid => s.listParticipants py mid
  | .publicationGateArmed mid => s.publicationGateArmed py mid
  | .listEvents mid => do
    let _ ← s.getMigration py mid
    return sortBy EventRow.sequence (s.events.filter fun e => e.migrationId == mid)

/-- The methods of the worktree manager that the coordinator calls. -/
inductive ManagerCall where
  | prepare (repoId base migrationId : String) (baseSha : Option String) (candidateId : String)
  | changedFiles (session : RepositorySession)
  | diff (session : RepositorySession)
  | commitCandidate (session : RepositorySession) (allowedPaths : List String) (message : String)
  | validateCommittedCandidate (session : RepositorySession) (expectedSha : String)
      (allowedPaths : List String)
  | abort (session : RepositorySession)

abbrev ManagerCall.Reply : ManagerCall → Type
  | .prepare .. => RepositorySession
  | .changedFiles _ | .validateCommittedCandidate .. => List String
  | .diff _ | .commitCandidate .. => String
  | .abort _ => Unit

def ManagerCall.program (m : WorktreeManager) : (c : ManagerCall) → GitProg c.Reply
  | .prepare repoId base mid baseSha candidateId => m.prepare repoId base mid baseSha candidateId
  | .changedFiles session => m.changedFiles py session
  | .diff session => m.diff session
  | .commitCandidate session paths message => m.commitCandidate py session paths message
  | .validateCommittedCandidate session sha paths =>
    m.validateCommittedCandidate py session sha paths
  | .abort session => m.abort py session

/-- A migration and one of its participants. -/
abbrev CandidateKey := String × String

/-- `dict[key] = value` for pairs of texts, in insertion order. -/
def putEntry {α : Type} (key : CandidateKey) (value : α) :
    List (CandidateKey × α) → List (CandidateKey × α)
  | [] => [(key, value)]
  | e :: rest => if e.1 = key then (key, value) :: rest else e :: putEntry key value rest

theorem lookup_entry_cons {α : Type} (key : CandidateKey) (e : CandidateKey × α)
    (l : List (CandidateKey × α)) :
    (e :: l).lookup key = if key = e.1 then some e.2 else l.lookup key := by
  by_cases h : key = e.1
  · simp [List.lookup, h]
  · simp [List.lookup, h, beq_false_of_ne h]

theorem lookup_putEntry {α : Type} (key key' : CandidateKey) (value : α)
    (l : List (CandidateKey × α)) :
    (putEntry key value l).lookup key' = if key' = key then some value else l.lookup key' := by
  induction l with
  | nil => exact lookup_entry_cons key' (key, value) []
  | cons e l ih =>
    by_cases he : e.1 = key
    · rw [putEntry, if_pos he, lookup_entry_cons, lookup_entry_cons, he]
      split <;> rfl
    · rw [putEntry, if_neg he, lookup_entry_cons, ih, lookup_entry_cons]
      by_cases h : key' = e.1
      · rw [if_pos h, if_neg (h ▸ he), if_pos h]
      · rw [if_neg h, if_neg h]

/-- The maps of one coordinator. -/
structure CoordinatorMemory where
  contexts : Dict (ContextObject py) := .empty
  discoveries : Dict DiscoveryDecision := .empty
  sessions : List (CandidateKey × RepositorySession) := []
  proposals : List (CandidateKey × CandidateEnvelope) := []
  trustedPolicies : List (CandidateKey × TrustedParticipantPolicy py) := []
  results : List (CandidateKey × PreparationResult) := []
  verifiedGithubApprovals : Dict VerifiedGitHubApproval := .empty
  publications : Dict PublicationResult := .empty

/-- One assignment to a map. -/
inductive MemoryUpdate where
  | context (migrationId : String) (context : ContextObject py)
  | discovery (migrationId : String) (decision : DiscoveryDecision)
  | session (key : CandidateKey) (session : RepositorySession)
  | proposal (key : CandidateKey) (envelope : CandidateEnvelope)
  | trustedPolicy (key : CandidateKey) (policy : TrustedParticipantPolicy py)
  | result (key : CandidateKey) (result : PreparationResult)
  | verified (migrationId : String) (approval : VerifiedGitHubApproval)
  | publication (migrationId : String) (publication : PublicationResult)

variable {py}

def MemoryUpdate.apply (m : CoordinatorMemory py) : MemoryUpdate py → CoordinatorMemory py
  | .context mid c => { m with contexts := m.contexts.set mid c }
  | .discovery mid d => { m with discoveries := m.discoveries.set mid d }
  | .session key s => { m with sessions := putEntry key s m.sessions }
  | .proposal key e => { m with proposals := putEntry key e m.proposals }
  | .trustedPolicy key t => { m with trustedPolicies := putEntry key t m.trustedPolicies }
  | .result key r => { m with results := putEntry key r m.results }
  | .verified mid v => { m with verifiedGithubApprovals := m.verifiedGithubApprovals.set mid v }
  | .publication mid p => { m with publications := m.publications.set mid p }

variable (py)

/-- What is written to the evidence bundle, without the documents themselves. -/
inductive EvidenceCall where
  | writeJson (path : String)
  | writeText (path text : String)
  | captureState (stage : String)
  | seal
  deriving DecidableEq

/-- The calls of a coordinator. -/
inductive CoordinatorCall where
  | store (c : StoreCall)
  | read (r : StoreRead)
  | recalled
  | remember (u : MemoryUpdate py)
  | worktrees (c : ManagerCall)
  | readSession (session : RepositorySession) (intent : ChangeIntent) (participant : Participant)
      (expandedColumns contractColumns : List String)
  | propose (request : ProposalRequest)
  | runAdapter (session : RepositorySession) (proposal : CandidateProposal)
      (trusted : TrustedParticipantPolicy py) (approval : Option OwnerApproval)
  | assertImpactUnchanged (frozen : ContextObject py)
  | writeAssets (writebacks : Dict MigrationWriteback) (refreshed : Option (ContextObject py))
  | verify (expectation : GitHubApprovalExpectation) (sourceApiUrl : String)
  | stage (request : PublicationRequest)
  | reconcile (request : PublicationRequest) (stage : PublicationStage)
  | releaseGate (request : PublicationRequest) (stage : PublicationStage)
  | evidence (c : EvidenceCall)
  | utcNow

variable {py}

abbrev CoordinatorCall.Reply : CoordinatorCall py → Type
  | .store c => c.Returned
  | .read r => r.Reply
  | .recalled => CoordinatorMemory py
  | .worktrees c => c.Reply
  | .readSession .. => ProposalRequest
  | .propose _ => CandidateEnvelope
  | .runAdapter .. => PreparationResult
  | .assertImpactUnchanged _ => ContextObject py
  | .verify .. => VerifiedGitHubApproval
  | .stage _ => PublicationStage
  | .reconcile .. => Option PublicationResult
  | .releaseGate .. => PublicationResult
  | .utcNow => String
  | .remember _ | .writeAssets .. | .evidence _ => Unit

variable (py) in
abbrev CoordinatorProg := Prog Exn (@CoordinatorCall.Reply py)

def CoordinatorCall.run (c : CoordinatorCall py) : CoordinatorProg py c.Reply := Prog.perform c

def coordinationError {α : Type} (msg : String) : Result α := raise .coordinationError msg

def requireCoordination (check : Bool) (msg : String) : Result Unit :=
  require check .coordinationError msg

/-- `except Exception as error: raise CoordinationError(...) from error` -/
def orCoordinationError {α : Type} (p : CoordinatorProg py α) (msg : Exn → String) :
    CoordinatorProg py α :=
  tryCatch p fun e => coordinationError (msg e)

def transition (mid : String) (target expected : MigrationStatus) (version : Int) (event : String)
    (payload : List (String × Json)) (receipts : List CoordinationReceipt) :
    CoordinatorProg py MigrationRecord :=
  (CoordinatorCall.store
    (.transitionMigration mid target expected version event payload receipts)).run

def getMigration (mid : String) : CoordinatorProg py MigrationRecord :=
  (CoordinatorCall.read (.getMigration mid)).run

def getParticipant (pid : String) : CoordinatorProg py Participant :=
  (CoordinatorCall.read (.getParticipant pid)).run

def listParticipants (mid : String) : CoordinatorProg py (List Participant) :=
  (CoordinatorCall.read (.listParticipants mid)).run

def remember (u : MemoryUpdate py) : CoordinatorProg py Unit := (CoordinatorCall.remember u).run

def recalled : CoordinatorProg py (CoordinatorMemory py) := CoordinatorCall.recalled.run

variable (py) in
/-- A constructed coordinator: which services it was given, its settings and the root of
its worktrees. -/
structure Coordinator where
  policy : SafetyPolicy
  sql : SqlLibrary
  worktreesRoot : String
  hasRevalidator : Bool := true
  hasWriter : Bool := true
  approvalVerifier : Option GitHubApprovalVerifier := none
  evidenceMigration : Option String := none
  evidenceBaseUrl : String
  allowTestApprovals : Bool := false
  baseUrlValid : requireHttpsUrl py evidenceBaseUrl "evidence_base_url" = .ok ()

/-- `_required_context` -/
def requiredContext (mid : String) : CoordinatorProg py (ContextObject py) := do
  match (← recalled).contexts.get? mid with
  | some context => return context
  | none => coordinationError "frozen DataHub context is unavailable"

/-- `_required_discovery` -/
def requiredDiscovery (mid : String) : CoordinatorProg py DiscoveryDecision := do
  match (← recalled).discoveries.get? mid with
  | some decision => return decision
  | none => coordinationError "discovery decision is unavailable"

/-- `self._results[key]` for each participant. -/
def recalledResults (mid : String) (pids : List String) :
    CoordinatorProg py (List (String × PreparationResult)) := do
  let memory ← recalled
  let entry (pid : String) : Result (String × PreparationResult) :=
    match memory.results.lookup (mid, pid) with
    | some result => .ok (pid, result)
    | none => raise .keyError pid
  (pids.mapM entry : Result _)

namespace Coordinator
variable (co : Coordinator py)

/-- `evidence_base_url.rstrip("/")` -/
def baseUrl : String :=
  String.ofList (co.evidenceBaseUrl.toList.reverse.dropWhile (· = '/')).reverse

/-- Writes to the evidence bundle, if there is a recorder. -/
def record (calls : List EvidenceCall) : CoordinatorProg py Unit :=
  Prog.onlyWhen (co.evidenceMigration.isSome = true)
    (calls.forM fun c => (CoordinatorCall.evidence c).run)

/-- `_writeback` -/
def writeback (migration : MigrationRecord) (stage : String)
    (refreshed : Option (ContextObject py)) : CoordinatorProg py Unit :=
  Prog.onlyWhen (co.hasWriter = true) do
    let context ← requiredContext migration.migrationId
    let participants ← listParticipants migration.migrationId
    let url := co.baseUrl ++ "/" ++ migration.migrationId ++ "/writeback/" ++ stage ++ ".json"
    let writebacks ← stageWritebacks py context.data migration participants url
    (CoordinatorCall.writeAssets writebacks refreshed).run
    co.record [.writeJson ("writeback/" ++ stage ++ ".json"), .seal]

/-- The cleanup of one candidate: its worktree and its branch. -/
def cleanUp (session : RepositorySession) : CoordinatorProg py (String × String) := do
  (CoordinatorCall.worktrees (.abort session)).run
  let worktree ← relativeTo session.worktree co.worktreesRoot
  return (worktree, session.branch)

/-- What the cleanups of all candidates came to: removed ones, and errors. -/
def cleanUpAll : List RepositorySession → CoordinatorProg py (List (String × String) × List String)
  | [] => return ([], [])
  | session :: rest => do
    let outcome ← (co.cleanUp session).attempt
    let (removed, errors) ← cleanUpAll rest
    match outcome with
    | .ok entry => return (entry :: removed, errors)
    | .error e => return (removed, (session.branch ++ ": " ++ e.cls.typeName) :: errors)

/-- The sessions of a migration, in the order in which they were entered. -/
def sessionsOf (memory : CoordinatorMemory py) (mid : String) : List RepositorySession :=
  (memory.sessions.filter fun e => e.1.1 = mid).map Prod.snd

structure AbortOutcome where
  migration : MigrationRecord
  cleanup : AbortCleanupReceipt
  deployedSystemsRolledBack : Bool := false

/-- The cleanup of a reserved abort, and its receipt. -/
def cleanupReceipt (mid : String) : CoordinatorProg py AbortCleanupReceipt := do
  let (removed, errors) ← co.cleanUpAll (sessionsOf (← recalled) mid)
  let recordedAt ← CoordinatorCall.utcNow.run
  AbortCleanupReceipt.postInit py {
    migrationId := mid, worktreesRemoved := sortBy id (removed.map Prod.fst)
    candidateBranchesDeleted := sortBy id (removed.map Prod.snd)
    cleanupErrors := sortBy id errors, recordedAt }

def abort (mid : String) : CoordinatorProg py AbortOutcome := do
  let migration ← getMigration mid
  requireCoordination (!migration.status.isTerminal)
    ("cannot abort terminal migration " ++ migration.status.value)
  (CoordinatorCall.store (.reserveAbortCleanup mid migration.status migration.version)).run
  let cleanup ← co.cleanupReceipt mid
  co.record [.writeJson "abort/cleanup.json"]
  let migration ← (CoordinatorCall.store
    (.abortMigration mid cleanup migration.status migration.version)).run
  tryCatch (co.writeback migration "aborted" none) fun e => do
    co.record [.writeJson "writeback/aborted-error.json", .seal]
    coordinationError ("candidate cleanup and ABORTED state succeeded, but DataHub write-back " ++
      "requires reconcile_abort idempotent retry: " ++ e.msg)
  co.record [.captureState "99-aborted", .seal]
  return { migration, cleanup }

/-- The best-effort FAILED marker of a participant. -/
def markFailed (pid phase : String) (error : Exn) : CoordinatorProg py Unit := do
  let participant ← getParticipant pid
  Prog.onlyWhen (participant.status = .preparing ∨ participant.status = .needsApproval) do
    let _ ← (CoordinatorCall.store (.transitionParticipant pid .failed participant.status
      participant.version "PARTICIPANT_SAFETY_CHECK_FAILED"
      [("phase", .str phase), ("error_type", .str error.cls.typeName)] none none)).run

/-- `_abort_after_failure`, which always raises. -/
def abortAfterFailure {α : Type} (mid pid : String) (error : Exn) (phase : String) :
    CoordinatorProg py α := do
  Prog.onlyWhen (pid ≠ "") (do let _ ← (markFailed pid phase error).attempt)
  let _ ← orCoordinationError (co.abort mid) fun cleanupError =>
    phase ++ " failed (" ++ error.msg ++ "); abort finalization also failed: " ++ cleanupError.msg
  coordinationError (phase ++ " failed and unmerged candidates were aborted: " ++ error.msg)

end Coordinator
end LineageTX
