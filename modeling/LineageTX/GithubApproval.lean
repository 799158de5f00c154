import LineageTX.Context
import LineageTX.SemanticApproval

/-! The verifier of an owner's approval: one GitHub resource, fetched from its stable
URL, whose actor is the owner and whose body is the exact approval. -/
namespace LineageTX
open Library
variable (py : Python)

structure GitHubApprovalExpectation where
  migrationId : String
  participantId : String
  ownerUrn : String
  oldField : String
  newField : String
  deriving DecidableEq

/-- The body that states the expected approval. -/
def GitHubApprovalExpectation.body (e : GitHubApprovalExpectation) : List (String × Json) := [
  ("decision", .str "APPROVED"),
  ("migration_id", .str e.migrationId),
  ("new_field", .str e.newField),
  ("old_field", .str e.oldField),
  ("owner_urn", .str e.ownerUrn),
  ("participant_id", .str e.participantId)]

inductive ResourceKind where
  | issueComment | pullRequestReview
  deriving DecidableEq

def ResourceKind.value : ResourceKind → String
  | .issueComment => "issue_comment"
  | .pullRequestReview => "pull_request_review"

/-- What the path of an API URL identifies. -/
structure ApprovalResource where
  kind : ResourceKind
  owner : String
  repo : String
  pullNumber : String
  resourceId : String

/-- `[A-Za-z0-9_.-]+` -/
def isRepositoryName (s : String) : Bool :=
  s ≠ "" && s.toList.all fun c => c.isAlphanum || c = '_' || c = '.' || c = '-'

/-- `[1-9][0-9]*` -/
def isResourceId (s : String) : Bool :=
  match s.toList with
  | [] => false
  | c :: cs => c.isDigit && c ≠ '0' && cs.all Char.isDigit

/-- `_ISSUE_COMMENT_PATH` and `_PULL_REVIEW_PATH` -/
def ApprovalResource.ofPath (path : String) : Option ApprovalResource :=
  match (path.toList.splitOn '/').map String.ofList with
  | ["", "repos", owner, repo, "issues", "comments", id] =>
    if isRepositoryName owner && isRepositoryName repo && isResourceId id then
      some ⟨.issueComment, owner, repo, "", id⟩
    else none
  | ["", "repos", owner, repo, "pulls", pull, "reviews", id] =>
    if isRepositoryName owner && isRepositoryName repo && isResourceId pull && isResourceId id then
      some ⟨.pullRequestReview, owner, repo, pull, id⟩
    else none
  | _ => none

/-- Content-addressed receipt from one authenticated GitHub API resource. -/
structure VerifiedGitHubApproval where
  migrationId : String
  participantId : String
  ownerUrn : String
  oldField : String
  newField : String
  approvedAt : String
  evidenceUrl : String
  browserUrl : String
  sourceApiUrl : String
  resourceKind : ResourceKind
  resourceId : Int
  resourceNodeId : String
  actorLogin : String
  actorId : Int
  authorAssociation : String
  evidenceSha256 : String
  verifiedAt : String
  decision : String := "APPROVED"
  verificationProvider : String := "github-rest-api-v3"
  deriving DecidableEq

def VerifiedGitHubApproval.postInit (v : VerifiedGitHubApproval) : Result VerifiedGitHubApproval := do
  requireHttpsUrl py v.evidenceUrl "GitHub approval evidence_url"
  let browser ← py.urlsplit v.browserUrl
  require (browser.scheme = "https" && browser.hostname = some "github.com" &&
      browser.username = none && browser.password = none && browser.query = "") .valueError
    "GitHub approval browser_url must be an HTTPS github.com URL"
  requireHttpsUrl py v.sourceApiUrl "GitHub approval source_api_url"
  requireUtcTimestamp py v.approvedAt "approved_at"
  requireUtcTimestamp py v.verifiedAt "verified_at"
  require (0 < v.resourceId && 0 < v.actorId) .valueError "GitHub approval IDs must be positive"
  require (isSha256Hex v.evidenceSha256) .valueError
    "GitHub approval evidence_sha256 must be SHA-256"
  require (v.decision = "APPROVED") .valueError
    "verified GitHub approval decision must be APPROVED"
  return v

def VerifiedGitHubApproval.toOwnerApproval (v : VerifiedGitHubApproval) : OwnerApproval where
  migrationId := v.migrationId
  participantId := v.participantId
  ownerUrn := v.ownerUrn
  oldField := v.oldField
  newField := v.newField
  approvedAt := v.approvedAt
  evidenceUrl := v.evidenceUrl
  decision := v.decision

/-- The `verification` document of a receipt. -/
def VerifiedGitHubApproval.verification (v : VerifiedGitHubApproval) : List (String × Json) := [
  ("actor_id", .int v.actorId),
  ("actor_login", .str v.actorLogin),
  ("author_association", .str v.authorAssociation),
  ("evidence_sha256", .str v.evidenceSha256),
  ("provider", .str v.verificationProvider),
  ("resource_id", .int v.resourceId),
  ("resource_kind", .str v.resourceKind.value),
  ("source_api_url", .str v.sourceApiUrl)]

structure GitHubApprovalVerifier where
  ownerLoginByUrn : Dict String
  explicitLoginAllowlist : List String

namespace GitHubApprovalVerifier

def requireApproval (check : Bool) (msg : String) : Result Unit :=
  require check .approvalVerificationError msg

def unverified {α : Type} (msg : String) : Result α := raise .approvalVerificationError msg

def trustedAssociations : List String := ["OWNER", "MEMBER", "COLLABORATOR"]

def validateApiUrl (sourceApiUrl : String) : Result ApprovalResource := do
  let refusal := "approval source must be a canonical HTTPS api.github.com URL"
  let parsed ← py.urlsplit sourceApiUrl
  requireApproval (parsed.scheme = "https" && parsed.hostname = some "api.github.com") refusal
  let port ← parsed.port
  requireApproval (port = none && parsed.username = none && parsed.password = none &&
    parsed.query = "" && parsed.fragment = "") refusal
  match ApprovalResource.ofPath parsed.path with
  | some resource => return resource
  | none => unverified "approval source must identify one GitHub issue comment or PR review"

/-- `isinstance(value, int)`, which holds of the booleans too. -/
def asInt? : Json → Option Int
  | .int n => some n
  | .bool b => some (if b then 1 else 0)
  | _ => none

mutual
/-- Whether some object in a document as it was read names a field twice. -/
def hasDuplicates : Json → Bool
  | .obj m => !(m.map Prod.fst).Nodup || anyMemberDuplicates m
  | .arr xs => anyItemDuplicates xs
  | _ => false
def anyItemDuplicates : List Json → Bool
  | [] => false
  | x :: xs => hasDuplicates x || anyItemDuplicates xs
def anyMemberDuplicates : List (String × Json) → Bool
  | [] => false
  | (_, v) :: m => hasDuplicates v || anyMemberDuplicates m
end

def approvalKeys : List String :=
  ["decision", "migration_id", "participant_id", "owner_urn", "old_field", "new_field"]

/-- `_parse_exact_body` -/
def parseExactBody (body : String) : Result (List (String × Json)) := do
  py.checkLimits body
  let cs := body.toList
  let notJson : String := "GitHub approval body must be one JSON object"
  match Json.parseValue py.readFloat (2 * cs.length + 2) cs with
  | none => unverified notJson
  | some (raw, rest) => do
    requireApproval (!hasDuplicates raw) "GitHub approval body contains a duplicate field"
    requireApproval (Json.skipWs rest = []) notJson
    match raw with
    | .obj m => do
      requireApproval (ContextData.sameSet (m.map Prod.fst) approvalKeys)
        "GitHub approval body must contain exactly the required fields"
      requireApproval (m.all fun e => (asStr? e.2).any (· ≠ ""))
        "GitHub approval fields must be non-empty strings"
      return m
    | _ => unverified "GitHub approval body must contain exactly the required fields"

/-- The metadata that GitHub adds to the approval. -/
structure ApprovalMetadata where
  resourceId : Json
  id : Int
  nodeId : String
  htmlUrl : String
  body : String
  actor : Json
  association : String

def metadata (payload : Json) : Result ApprovalMetadata :=
  let resourceId := getD payload "id" .null
  let actor := getD payload "user" .null
  match asInt? resourceId, asStr? (getD payload "node_id" .null),
      asStr? (getD payload "html_url" .null), asStr? (getD payload "body" .null),
      asStr? (getD payload "author_association" .null) with
  | some id, some nodeId, some htmlUrl, some body, some association =>
    if 0 < id ∧ nodeId ≠ "" ∧ isObj actor then
      .ok { resourceId, id, nodeId, htmlUrl, body, actor, association }
    else unverified "GitHub approval response omitted authenticated resource metadata"
  | _, _, _, _, _ => unverified "GitHub approval response omitted authenticated resource metadata"

/-- The browser URL names the repository, the resource and the reviewed pull request
that the API URL names. -/
def checkBrowserUrl (resource : ApprovalResource) (m : ApprovalMetadata) : Result Unit := do
  let browser ← py.urlsplit m.htmlUrl
  requireApproval (browser.hostname = some "github.com" &&
      startsWith (py.casefold browser.path)
        (py.casefold ("/" ++ resource.owner ++ "/" ++ resource.repo ++ "/")))
    "approval browser evidence must identify the same github.com repository"
  let kindName := if resource.kind = .issueComment then "issuecomment-" else "pullrequestreview-"
  requireApproval (browser.fragment = kindName ++ py.str m.resourceId)
    "approval browser evidence does not match the stable GitHub resource ID"
  requireApproval (resource.kind = .issueComment ||
      endsWith (py.casefold browser.path) (py.casefold ("/pull/" ++ resource.pullNumber)))
    "approval browser evidence does not match the reviewed pull request"

/-- The login and the number of an actor that is a user. -/
def actorIdentity (actor : Json) : Result (String × Int) :=
  match asStr? (getD actor "login" .null), asInt? (getD actor "id" .null) with
  | some login, some id =>
    if login ≠ "" ∧ 0 < id ∧ getD actor "type" .null = .str "User" then .ok (login, id)
    else unverified "approval actor must be an authenticated GitHub user"
  | _, _ => unverified "approval actor must be an authenticated GitHub user"

/-- The actor is the owner, and GitHub or the operator trusts it. -/
def checkActor (v : GitHubApprovalVerifier) (ownerUrn login association : String) : Result Unit := do
  match v.ownerLoginByUrn.get? ownerUrn with
  | none => unverified "the discovered DataHub owner has no trusted GitHub login mapping"
  | some expectedLogin =>
    requireApproval (py.casefold login = expectedLogin)
      "GitHub actor does not match the discovered DataHub owner"
  requireApproval (trustedAssociations.contains association ||
      v.explicitLoginAllowlist.contains (py.casefold login))
    "GitHub actor lacks a trusted repository association or explicit allowlist"

/-- The time of an approval that was not edited or dismissed. -/
def approvalTime (kind : ResourceKind) (payload : Json) : Result String := do
  let field (key : String) : Json := getD payload key .null
  match kind with
  | .issueComment =>
    requireApproval ((asStr? (field "created_at")).isSome &&
        field "updated_at" = field "created_at")
      "edited issue comments are not accepted as approval evidence"
  | .pullRequestReview => do
    requireApproval (field "state" = .str "APPROVED") "GitHub PR review is not currently APPROVED"
    requireApproval ((asStr? (field "commit_id")).any (· ≠ ""))
      "GitHub PR review is not bound to a commit"
  match asStr? (field (if kind = .issueComment then "created_at" else "submitted_at")) with
  | none => unverified "GitHub approval timestamp is missing"
  | some approvedAt =>
    match requireUtcTimestamp py approvedAt "GitHub approval timestamp" with
    | .ok _ => return approvedAt
    | .error e => if e.cls = .valueError then unverified e.msg else .error e

/-- `_verify_payload` -/
def verifyPayload (v : GitHubApprovalVerifier) (e : GitHubApprovalExpectation)
    (sourceApiUrl : String) (resource : ApprovalResource) (payload : Json) (now : String) :
    Result VerifiedGitHubApproval := do
  let m ← metadata payload
  checkDigits resource.resourceId
  requireApproval (m.id.repr = resource.resourceId)
    "GitHub API resource ID does not match the requested stable URL"
  checkBrowserUrl py resource m
  let (login, actorId) ← actorIdentity m.actor
  let association := py.upper m.association
  v.checkActor py e.ownerUrn login association
  let approval ← parseExactBody py m.body
  requireApproval (e.body.all fun expected => approval.lookup expected.1 = some expected.2)
    "GitHub approval body does not match the exact migration and field mapping"
  let approvedAt ← approvalTime py resource.kind payload
  let digest := py.sha256 (canonicalJson (.obj [
    ("approval", .obj approval),
    ("approved_at", .str approvedAt),
    ("actor_id", getD m.actor "id" .null),
    ("actor_login", .str login),
    ("author_association", .str association),
    ("evidence_url", .str m.htmlUrl),
    ("resource_id", m.resourceId),
    ("resource_kind", .str resource.kind.value),
    ("resource_node_id", .str m.nodeId),
    ("source_api_url", .str sourceApiUrl)]))
  VerifiedGitHubApproval.postInit py {
    migrationId := e.migrationId, participantId := e.participantId, ownerUrn := e.ownerUrn
    oldField := e.oldField, newField := e.newField, approvedAt, evidenceUrl := sourceApiUrl
    browserUrl := m.htmlUrl, sourceApiUrl, resourceKind := resource.kind, resourceId := m.id
    resourceNodeId := m.nodeId, actorLogin := login, actorId, authorAssociation := association
    evidenceSha256 := digest, verifiedAt := now }

/-- `verify`, with what the transport answers and the time of the answer. -/
def verify (v : GitHubApprovalVerifier) (e : GitHubApprovalExpectation) (sourceApiUrl : String)
    (fetched : Result Json) (now : String) : Result VerifiedGitHubApproval := do
  let resource ← validateApiUrl py sourceApiUrl
  let payload ← fetched
  v.verifyPayload py e sourceApiUrl resource payload now

variable {py}

/-- A verified approval binds what was expected, and was fetched from the URL. -/
theorem verifyPayload_eq_ok {v : GitHubApprovalVerifier} {e : GitHubApprovalExpectation}
    {url now : String} {resource : ApprovalResource} {payload : Json} {a : VerifiedGitHubApproval}
    (h : v.verifyPayload py e url resource payload now = .ok a) :
    a.migrationId = e.migrationId ∧ a.participantId = e.participantId ∧ a.ownerUrn = e.ownerUrn ∧
      a.oldField = e.oldField ∧ a.newField = e.newField ∧ a.sourceApiUrl = url ∧
      a.evidenceUrl = url := by
  simp only [verifyPayload, bind_eq_ok] at h
  obtain ⟨m, -, _, -, _, -, _, -, ⟨login, actorId⟩, -, _, -, approval, -, _, -, approvedAt, -, h⟩ := h
  simp only [VerifiedGitHubApproval.postInit, bind_eq_ok] at h
  obtain ⟨_, -, browser, -, _, -, _, -, _, -, _, -, _, -, _, -, _, -, ⟨⟩⟩ := h
  exact ⟨rfl, rfl, rfl, rfl, rfl, rfl, rfl⟩

/-- A verified approval passes the checks of its own constructor. -/
theorem verifyPayload_checked {v : GitHubApprovalVerifier} {e : GitHubApprovalExpectation}
    {url now : String} {resource : ApprovalResource} {payload : Json} {a : VerifiedGitHubApproval}
    (h : v.verifyPayload py e url resource payload now = .ok a) :
    a.postInit py = .ok a ∧ a.verificationProvider = "github-rest-api-v3" := by
  simp only [verifyPayload, bind_eq_ok] at h
  obtain ⟨m, -, _, -, _, -, _, -, ⟨login, actorId⟩, -, _, -, approval, -, _, -, approvedAt, -, h⟩ := h
  have hsame := h
  simp only [VerifiedGitHubApproval.postInit, bind_eq_ok] at hsame
  obtain ⟨_, -, browser, -, _, -, _, -, _, -, _, -, _, -, _, -, _, -, hsame⟩ := hsame
  cases hsame
  exact ⟨h, rfl⟩

end GitHubApprovalVerifier

variable {py}

theorem requireHttpsUrl_of_ok {value name name' : String}
    (h : requireHttpsUrl py value name = .ok ()) : requireHttpsUrl py value name' = .ok () := by
  simp only [requireHttpsUrl, bind_eq_ok, require_eq_ok] at h ⊢
  exact h

/-- The verification document of a verified approval is one that a receipt accepts. -/
theorem VerifiedGitHubApproval.checkVerification_ok {v : VerifiedGitHubApproval}
    (h : v.postInit py = .ok v) (hprovider : v.verificationProvider = "github-rest-api-v3") :
    checkVerification py v.verification = .ok () := by
  simp only [postInit, bind_eq_ok, require_eq_ok] at h
  obtain ⟨_, -, _, -, _, -, _, hurl, _, -, _, -, _, -, _, hsha, -⟩ := h
  have hurl' := @requireHttpsUrl_of_ok _ _ _ "approval verification source_api_url" hurl
  have hkeys : v.verification.map (·.1) = verificationFields := rfl
  simp only [checkVerification, bind_eq_ok, require_eq_ok, getItem_eq_ok, hkeys]
  refine ⟨(), rfl, .str v.sourceApiUrl, rfl, (), hurl', .str v.verificationProvider, rfl, (), ?_,
    .str v.evidenceSha256, rfl, hsha⟩
  simp [hprovider]

end LineageTX
