import LineageTX.GithubApproval
import LineageTX.Library.Prog

/-! The publisher of the coordination pull request and of the producer's success
status, as programs over the calls of the GitHub API and the publisher's own maps. -/
namespace LineageTX
open Library
variable (py : Python)

def publicationError {α : Type} (msg : String) : Result α := raise .publicationError msg

def requirePublication (check : Bool) (msg : String) : Result Unit :=
  require check .publicationError msg

@[simp] theorem requirePublication_eq_ok {check : Bool} {msg : String} {u : Unit} :
    requirePublication check msg = .ok u ↔ check = true := require_eq_ok

/-- `_require_github_web_url` -/
def requireGitHubWebUrl (value fieldName : String) : Result Unit := do
  let refusal := fieldName ++ " must use the trusted github.com origin"
  requireHttpsUrl py value fieldName
  let parsed ← py.urlsplit value
  require (parsed.hostname = some "github.com") .valueError refusal
  let port ← parsed.port
  require (port = none) .valueError refusal

structure CandidateCommit where
  participantId : String
  repository : String
  branch : String
  commitSha : String
  changedFiles : List String
  merged : Bool := false
  deriving DecidableEq

def CandidateCommit.postInit (c : CandidateCommit) : Result CandidateCommit := do
  require ([c.participantId, c.repository, c.branch, c.commitSha].all (!isBlank ·)) .valueError
    "candidate commit identity is incomplete"
  require (startsWith c.branch "lineagetx/") .valueError
    "candidate must use a LineageTX-owned branch"
  require (!c.merged) .valueError "LineageTX candidates must remain unmerged"
  require (isCommitSha c.commitSha) .valueError
    "candidate commit must be a 40- or 64-character hex SHA"
  require (c.changedFiles ≠ []) .valueError "candidate commit must contain validated changes"
  return c

/-- `refs/heads/` and the branch. -/
def CandidateCommit.reference (c : CandidateCommit) : String := "refs/heads/" ++ c.branch

structure PublicationRequest where
  intent : ChangeIntent
  candidates : List CandidateCommit
  title : String
  body : String
  coordinatedHeadBranch : String
  coordinatedBaseBranch : String := "main"
  autoMerge : Bool := false
  deriving DecidableEq

/-- Letters, digits, dots, underscores, slashes and hyphens, and no two dots in a row. -/
def isSafeBranch (branch : String) : Bool :=
  branch ≠ "" && branch.toList.all (fun c => c.isAlphanum || "._/-".toList.contains c) &&
    !hasSubstring branch ".."

def PublicationRequest.migrationId (r : PublicationRequest) : String := r.intent.migrationId

def PublicationRequest.postInit (r : PublicationRequest) : Result PublicationRequest := do
  require (!r.autoMerge) .valueError "LineageTX never auto-merges coordinated changes"
  require (r.candidates.length = 3) .valueError
    "bounded LineageTX publication requires three candidates"
  require (decide (r.candidates.map (·.participantId)).Nodup) .valueError
    "candidate participant IDs must be unique"
  require (!isBlank r.title && !isBlank r.body) .valueError
    "coordinated PR title and body are required"
  for branch in [r.coordinatedHeadBranch, r.coordinatedBaseBranch] do
    require (isSafeBranch branch) .valueError
      ("unsafe coordinated branch name: " ++ py.reprStr branch)
  return r

/-- The set of `(reference, commit_sha)` of the candidates. -/
def PublicationRequest.commits (r : PublicationRequest) : List (String × String) :=
  r.candidates.map fun c => (c.reference, c.commitSha)

/-- Receipts that are safe to create before the producer's success status. -/
structure PublicationStage where
  candidateReceipts : List CoordinationReceipt
  coordinatedPrReceipt : CoordinationReceipt
  deriving DecidableEq

/-- The equality of two sets given by lists. -/
def sameSet {α : Type} [DecidableEq α] (l l' : List α) : Bool := l ⊆ l' && l' ⊆ l

def PublicationStage.validate (s : PublicationStage) (request : PublicationRequest) : Result Unit := do
  let receipts := s.candidateReceipts ++ [s.coordinatedPrReceipt]
  requirePublication (s.candidateReceipts.length = request.candidates.length)
    "publisher omitted candidate commit receipts"
  requirePublication (receipts.all (·.migrationId = request.intent.migrationId))
    "publisher returned a receipt for another migration"
  requirePublication (receipts.all (!·.merged)) "publisher claimed that a candidate was merged"
  requirePublication (s.candidateReceipts.all (·.kind = .candidateCommit))
    "candidate receipts have the wrong kind"
  requirePublication (s.coordinatedPrReceipt.kind = .coordinatedPr)
    "coordinated PR receipt has the wrong kind"
  requirePublication
    (sameSet (s.candidateReceipts.map fun r => (r.reference, r.commitSha)) request.commits)
    "candidate commit receipts do not match local commits"

structure PublicationResult where
  candidateReceipts : List CoordinationReceipt
  coordinatedPrReceipt : CoordinationReceipt
  producerGateReceipt : CoordinationReceipt
  deriving DecidableEq

namespace PublicationResult

def receipts (r : PublicationResult) : List CoordinationReceipt :=
  r.candidateReceipts ++ [r.coordinatedPrReceipt, r.producerGateReceipt]

def stage (r : PublicationResult) : PublicationStage := ⟨r.candidateReceipts, r.coordinatedPrReceipt⟩

def validate (r : PublicationResult) (request : PublicationRequest) : Result Unit := do
  r.stage.validate request
  requirePublication (r.producerGateReceipt.kind = .producerGateReleased)
    "Producer gate receipt has the wrong kind"
  requirePublication (r.producerGateReceipt.migrationId = request.intent.migrationId)
    "publisher returned a receipt for another migration"
  requirePublication (!r.producerGateReceipt.merged)
    "publisher claimed that a candidate was merged"
  requirePublication (r.producerGateReceipt.evidenceUrl = r.coordinatedPrReceipt.reference)
    "Producer gate evidence must point to the staged coordination PR"

end PublicationResult

/-- What one publisher instance keeps in memory, by migration. -/
structure PublisherMemory where
  requests : Dict PublicationRequest := .empty
  stages : Dict PublicationStage := .empty
  results : Dict PublicationResult := .empty

/-- The calls of a publisher: the GitHub API, its own maps and the clock. -/
inductive GitHubCall where
  | findPullRequest (repository head base : String)
  | createPullRequest (repository title body head base : String) (draft : Bool)
  | createCommitStatus (repository sha state context description targetUrl : String)
  | getCommitStatus (repository sha context : String)
  | remembered
  | remember (memory : PublisherMemory)
  | utcNow

/-- `None` is null; an API without `find_pull_request` or `get_commit_status` is one
that always answers `None`. -/
abbrev GitHubCall.Reply : GitHubCall → Type
  | .findPullRequest .. | .createPullRequest .. | .createCommitStatus .. | .getCommitStatus .. => Json
  | .remembered => PublisherMemory
  | .remember _ => Unit
  | .utcNow => String

abbrev GitHubProg := Prog Exn GitHubCall.Reply

def GitHubCall.run (c : GitHubCall) : GitHubProg c.Reply := Prog.perform c

/-- `mapping.get(key)` -/
def getMember (mapping : Json) (key : String) : Result Json :=
  if isObj mapping then .ok (getD mapping key .null)
  else raise .attributeError "object has no attribute 'get'"

/-- The digits that are no decimal digits, such as superscripts. -/
def isSpecialDigit (c : Char) : Bool :=
  [(0xb2, 0xb3), (0xb9, 0xb9), (0x1369, 0x1371), (0x19da, 0x19da), (0x2070, 0x2070),
    (0x2074, 0x2079), (0x2080, 0x2089), (0x2460, 0x2468), (0x2474, 0x247c), (0x2488, 0x2490),
    (0x24ea, 0x24ea), (0x24f5, 0x24fd), (0x24ff, 0x24ff), (0x2776, 0x277e), (0x2780, 0x2788),
    (0x278a, 0x2792), (0x10a40, 0x10a43), (0x10e60, 0x10e68), (0x11052, 0x1105a),
    (0x1f100, 0x1f10a)].any fun range => range.1 ≤ c.toNat && c.toNat ≤ range.2

/-- `str.isdigit` -/
def isDigits (cs : List Char) : Bool :=
  cs ≠ [] && cs.all fun c => (py.decimal c).isSome || isSpecialDigit c

/-- `except ValueError as error: raise PublicationError(str(error))` -/
def asPublicationError {α : Type} : Result α → Result α
  | .ok a => .ok a
  | .error e => if e.cls = .valueError then publicationError e.msg else .error e

structure FixedGitHubPublisher where
  coordinationRepository : String
  producerRepository : String
  deriving DecidableEq

/-- `[A-Za-z0-9_.-]+/[A-Za-z0-9_.-]+` -/
def isFixedRepository (repository : String) : Bool :=
  match (repository.toList.splitOn '/').map String.ofList with
  | [owner, name] => isRepositoryName owner && isRepositoryName name
  | _ => false

def safeToContract : String := "lineagetx/safe-to-contract"

namespace FixedGitHubPublisher

def postInit (p : FixedGitHubPublisher) : Result FixedGitHubPublisher := do
  for repository in [p.coordinationRepository, p.producerRepository] do
    require (isFixedRepository repository) .valueError
      ("invalid fixed GitHub repository: " ++ py.reprStr repository)
  return p

variable (p : FixedGitHubPublisher) (request : PublicationRequest)

/-- The pull request that GitHub has for the branches, or a new draft. -/
def coordinationPullRequest : GitHubProg Json := do
  let pr : Json ← (GitHubCall.findPullRequest p.coordinationRepository
    request.coordinatedHeadBranch request.coordinatedBaseBranch).run
  if pr = .null then
    (GitHubCall.createPullRequest p.coordinationRepository request.title request.body
      request.coordinatedHeadBranch request.coordinatedBaseBranch true).run
  else return pr

/-- The URL of a pull request of the coordination repository. -/
def checkPullRequestUrl (prUrl : String) : Result Unit := do
  asPublicationError (requireGitHubWebUrl py prUrl "coordination PR URL")
  let expectedPrefix := ("/" ++ p.coordinationRepository ++ "/pull/").toList
  let parsedPr ← py.urlsplit prUrl
  requirePublication (expectedPrefix.isPrefixOf parsedPr.path.toList &&
      isDigits py (parsedPr.path.toList.drop expectedPrefix.length))
    "GitHub returned a PR outside the fixed repository"

def pullRequestUrl (pr : Json) : Result String :=
  match pr.get? "html_url" with
  | some (.str prUrl) => do
    p.checkPullRequestUrl py prUrl
    requirePublication (getD pr "merged" .null ≠ .bool true)
      "GitHub unexpectedly reported the PR as merged"
    return prUrl
  | _ => publicationError "GitHub did not return a coordination PR URL"

def candidateReceipt (recordedAt : String) (item : CandidateCommit) : CoordinationReceipt where
  migrationId := request.intent.migrationId
  kind := .candidateCommit
  reference := item.reference
  commitSha := item.commitSha
  recordedAt

def coordinatedReceipt (prUrl recordedAt : String) : CoordinationReceipt where
  migrationId := request.intent.migrationId
  kind := .coordinatedPr
  reference := prUrl
  recordedAt
  evidenceUrl := prUrl

/-- The receipts of a staged request. -/
def stageOf (prUrl recordedAt : String) : Result PublicationStage := do
  let candidateReceipts ← request.candidates.mapM fun item =>
    (candidateReceipt request recordedAt item).postInit py
  let coordinated ← (coordinatedReceipt request prUrl recordedAt).postInit py
  let stage : PublicationStage := ⟨candidateReceipts, coordinated⟩
  stage.validate request
  return stage

def stageNew (memory : PublisherMemory) : GitHubProg PublicationStage := do
  let pr ← p.coordinationPullRequest request
  let prUrl ← p.pullRequestUrl py pr
  let recordedAt : String ← GitHubCall.utcNow.run
  let stage ← stageOf py request prUrl recordedAt
  (GitHubCall.remember { memory with
    requests := memory.requests.set request.migrationId request
    stages := memory.stages.set request.migrationId stage }).run
  return stage

def stage : GitHubProg PublicationStage := do
  requirePublication (request.intent.producerRepository = p.producerRepository)
    "Producer repository does not match fixed publisher scope"
  let memory : PublisherMemory ← GitHubCall.remembered.run
  requirePublication ((memory.requests.get? request.migrationId).all (· = request))
    "publication retry does not match the staged request"
  match memory.stages.get? request.migrationId with
  | some stage => return stage
  | none => p.stageNew py request memory

variable (stage : PublicationStage)

def gateReceipt (recordedAt : String) : CoordinationReceipt where
  migrationId := request.intent.migrationId
  kind := .producerGateReleased
  reference := "check-run:lineagetx/safe-to-contract:" ++ request.intent.producerHeadSha
  recordedAt
  evidenceUrl := stage.coordinatedPrReceipt.reference

/-- `_result_from_stage` -/
def resultFromStage (recordedAt : String) : Result PublicationResult := do
  let gate ← (gateReceipt request stage recordedAt).postInit py
  let result : PublicationResult := ⟨stage.candidateReceipts, stage.coordinatedPrReceipt, gate⟩
  result.validate request
  return result

/-- The result of a status that GitHub confirmed, which is kept. -/
def confirm (memory : PublisherMemory) : GitHubProg PublicationResult := do
  let recordedAt : String ← GitHubCall.utcNow.run
  let result ← resultFromStage py request stage recordedAt
  (GitHubCall.remember { memory with
    results := memory.results.set request.migrationId result }).run
  return result

/-- A result that the instance has already, or the program. -/
def cachedOr {α : Type} (memory : PublisherMemory) (wrap : PublicationResult → α)
    (otherwise : GitHubProg α) : GitHubProg α :=
  match memory.results.get? request.migrationId with
  | some existing => do
    existing.validate request
    return wrap existing
  | none => otherwise

def releaseGate : GitHubProg PublicationResult := do
  stage.validate request
  let memory : PublisherMemory ← GitHubCall.remembered.run
  requirePublication (memory.stages.get? request.migrationId = some stage)
    "gate release requires this publisher's staged request"
  cachedOr request memory id do
    let status : Json ← (GitHubCall.createCommitStatus p.producerRepository
      request.intent.producerHeadSha "success" safeToContract
      "0 unverified consumers; safe to merge (merge remains manual)"
      stage.coordinatedPrReceipt.reference).run
    let state ← getMember status "state"
    requirePublication (state = .str "success")
      "GitHub did not confirm the Producer gate release"
    confirm py request stage memory

def reconcile : GitHubProg (Option PublicationResult) := do
  stage.validate request
  let memory : PublisherMemory ← GitHubCall.remembered.run
  cachedOr request memory some do
    let status : Json ← (GitHubCall.getCommitStatus p.producerRepository
      request.intent.producerHeadSha safeToContract).run
    if status = .null then return none
    else
      let state ← getMember status "state"
      if state ≠ .str "success" then return none
      else
        requirePublication (getD status "target_url" .null = .str stage.coordinatedPrReceipt.reference)
          "existing Producer success gate points outside the staged coordination PR"
        let result ← confirm py request stage memory
        return some result

/-- What `publish` and a commit do with a staged request. -/
def settle : GitHubProg PublicationResult := do
  match ← p.reconcile py request stage with
  | some result => return result
  | none => p.releaseGate py request stage

def publish : GitHubProg PublicationResult := do
  let stage ← p.stage py request
  p.settle py request stage

/-- The publisher calls of a commit; `between` is what arming the publication gate and
writing the evidence of the stage end in. -/
def commitSequence (between : Result Unit) : GitHubProg PublicationResult := do
  let stage ← p.stage py request
  stage.validate request
  between
  let publication ← p.settle py request stage
  publication.validate request
  return publication

end FixedGitHubPublisher

end LineageTX
