import LineageTX.ApprovalHarm
import LineageTX.ProposerBinding

/-! What a verified approval of GitHub binds, and the inputs on which its verification fails
in another way than with its own error. -/
namespace LineageTX
open Library Coordinator

/-- What is documented of the library functions that are taken as they are. -/
structure Python.Documented (py : Python) : Prop where
  split : ∀ {url err}, py.urlsplit url = .error err → err.cls = .valueError
  port : ∀ {url parsed err}, py.urlsplit url = .ok parsed → parsed.port = .error err →
    err.cls = .valueError
  netloc : ∀ {url parsed}, py.urlsplit url = .ok parsed → parsed.hostname ≠ none → parsed.netloc ≠ ""
  limits : ∀ {text err}, py.jsonLimits text = some err → err.cls ≠ .approvalVerificationError
  digest : ∀ text, isSha256Hex (py.sha256 text) = true

/-- A failed sequence failed in one of its parts. -/
theorem bind_eq_error {α β : Type} {x : Result α} {f : α → Result β} {e : Exn} :
    x >>= f = .error e ↔ x = .error e ∨ ∃ a, x = .ok a ∧ f a = .error e := by
  cases x with
  | error e' =>
    constructor
    · intro h
      cases h
      exact .inl rfl
    · rintro (h | ⟨a, h, -⟩)
      · cases h
        rfl
      · cases h
  | ok a =>
    constructor
    · exact fun h => .inr ⟨a, rfl, h⟩
    · rintro (h | ⟨_, h, hf⟩)
      · cases h
      · cases h
        exact hf

theorem require_eq_error {check : Bool} {cls : ExnClass} {msg : String} {e : Exn}
    (h : require check cls msg = .error e) : e.cls = cls := by
  unfold require at h
  split at h
  · cases h
  · cases h
    rfl

namespace GitHubApprovalVerifier
variable (py : Python) (v : GitHubApprovalVerifier) (e : GitHubApprovalExpectation) (url : String)
  (payload : Json)

/-- The fragment of the browser URL of a resource. -/
def fragmentOf (resource : ApprovalResource) : String :=
  (if resource.kind = .issueComment then "issuecomment-" else "pullrequestreview-") ++
    resource.resourceId

/-- The URL names one issue comment or review on `api.github.com`. -/
def Names (resource : ApprovalResource) : Prop :=
  ∃ parsed, py.urlsplit url = .ok parsed ∧ parsed.scheme = "https" ∧
    parsed.hostname = some "api.github.com" ∧ parsed.port = .ok none ∧ parsed.username = none ∧
    parsed.password = none ∧ parsed.query = "" ∧ parsed.fragment = "" ∧
    ApprovalResource.ofPath parsed.path = some resource

/-- The browser URL is one of the repository, and of the resource. -/
def Shows (resource : ApprovalResource) : Prop :=
  ∃ html browser, getD payload "html_url" .null = .str html ∧ py.urlsplit html = .ok browser ∧
    browser.hostname = some "github.com" ∧
    startsWith (py.casefold browser.path)
      (py.casefold ("/" ++ resource.owner ++ "/" ++ resource.repo ++ "/")) = true ∧
    browser.fragment = fragmentOf resource ∧
    (resource.kind = .pullRequestReview → endsWith (py.casefold browser.path)
      (py.casefold ("/pull/" ++ resource.pullNumber)) = true)

/-- The actor is a user who is the expected owner and is trusted. -/
def Authorized : Prop :=
  ∃ login id association, getD (getD payload "user" .null) "login" .null = .str login ∧ login ≠ "" ∧
    asInt? (getD (getD payload "user" .null) "id" .null) = some id ∧ 0 < id ∧
    getD (getD payload "user" .null) "type" .null = .str "User" ∧
    v.ownerLoginByUrn.get? e.ownerUrn = some (py.casefold login) ∧
    getD payload "author_association" .null = .str association ∧
    (py.upper association ∈ trustedAssociations ∨ py.casefold login ∈ v.explicitLoginAllowlist)

/-- The body is one JSON object with the expected fields, and no field twice. -/
def States : Prop :=
  ∃ body members rest, getD payload "body" .null = .str body ∧
    Json.parseValue py.readFloat (2 * body.toList.length + 2) body.toList = some (.obj members, rest) ∧
    Json.skipWs rest = [] ∧ hasDuplicates (.obj members) = false ∧ members.Perm e.body

/-- A comment that was not edited, or a review that approves a commit. -/
def Standing : ResourceKind → Prop
  | .issueComment => ∃ time, getD payload "created_at" .null = .str time ∧
      getD payload "updated_at" .null = .str time
  | .pullRequestReview => getD payload "state" .null = .str "APPROVED" ∧
      ∃ commit, getD payload "commit_id" .null = .str commit ∧ commit ≠ ""

/-- All bindings of a verified approval. -/
structure Bound (resource : ApprovalResource) : Prop where
  names : Names py url resource
  id : ∃ id, asInt? (getD payload "id" .null) = some id ∧ id.repr = resource.resourceId
  shows : Shows py payload resource
  authorized : Authorized py v e payload
  states : States py e payload
  standing : Standing payload resource.kind

/-- What is checked before the browser URL is looked at. -/
structure Identified (resource : ApprovalResource) (m : ApprovalMetadata) : Prop where
  source : validateApiUrl py url = .ok resource
  metadata : metadata payload = .ok m
  digits : resource.resourceId.length ≤ 4300
  sameId : m.id.repr = resource.resourceId

/-- What is checked before the body is read. -/
structure Admitted (resource : ApprovalResource) (m : ApprovalMetadata) (login : String)
    (actorId : Int) : Prop extends Identified py url payload resource m where
  browser : checkBrowserUrl py resource m = .ok ()
  actor : actorIdentity m.actor = .ok (login, actorId)
  owner : v.checkActor py e.ownerUrn login (py.upper m.association) = .ok ()

/-- What is checked before the receipt is made. -/
structure Matches (resource : ApprovalResource) (m : ApprovalMetadata) (login : String)
    (actorId : Int) (approval : List (String × Json)) (approvedAt : String) : Prop
    extends Admitted py v e url payload resource m login actorId where
  body : parseExactBody py m.body = .ok approval
  expected : (e.body.all fun field => approval.lookup field.1 = some field.2) = true
  time : approvalTime py resource.kind payload = .ok approvedAt

/-- A plain URL, without the name of a user and without a query. -/
def Plain (html : String) : Prop :=
  ∃ browser, py.urlsplit html = .ok browser ∧ browser.scheme = "https" ∧ browser.username = none ∧
    browser.password = none ∧ browser.query = ""

/-- The inputs that end in another error, and those that are let in with an ID that is none. -/
inductive Escapes : Prop
  | source {err : Exn} (h : py.urlsplit url = .error err)
  | port {parsed : SplitUrl} {err : Exn} (hsplit : py.urlsplit url = .ok parsed)
      (horigin : parsed.scheme = "https" ∧ parsed.hostname = some "api.github.com")
      (h : parsed.port = .error err)
  | digits {resource : ApprovalResource} {m : ApprovalMetadata}
      (hsource : validateApiUrl py url = .ok resource) (hmetadata : metadata payload = .ok m)
      (h : 4300 < resource.resourceId.length)
  | browser {resource : ApprovalResource} {m : ApprovalMetadata} {err : Exn}
      (hfound : Identified py url payload resource m) (h : py.urlsplit m.htmlUrl = .error err)
  | body {resource : ApprovalResource} {m : ApprovalMetadata} {login : String} {actorId : Int} {err : Exn}
      (hfound : Admitted py v e url payload resource m login actorId) (h : py.jsonLimits m.body = some err)
  /-- Only the constructor of the receipt asks for a plain browser URL. -/
  | plain {resource : ApprovalResource} {m : ApprovalMetadata} {login : String} {actorId : Int}
      {approval : List (String × Json)} {approvedAt : String}
      (hfound : Matches py v e url payload resource m login actorId approval approvedAt)
      (h : ¬Plain py m.htmlUrl)
  /-- The truth value `true` is the number 1, but not in a text. -/
  | boolean {resource : ApprovalResource} {m : ApprovalMetadata} {login : String} {actorId : Int}
      {approval : List (String × Json)} {approvedAt : String}
      (hfound : Matches py v e url payload resource m login actorId approval approvedAt)
      (hplain : Plain py m.htmlUrl) (h : m.resourceId = .bool true)

section Checks
variable {py v e url payload} {resource : ApprovalResource} {m : ApprovalMetadata} {login : String}
  {actorId : Int} {err : Exn}

theorem requireApproval_eq_ok {check : Bool} {msg : String} {u : Unit} :
    requireApproval check msg = .ok u ↔ check = true := require_eq_ok

theorem requireApproval_eq_error {check : Bool} {msg : String}
    (h : requireApproval check msg = .error err) : err.cls = .approvalVerificationError :=
  require_eq_error h

theorem unverified_eq_error {α : Type} {msg : String} (h : (unverified msg : Result α) = .error err) :
    err.cls = .approvalVerificationError := by
  cases h
  rfl

theorem validateApiUrl_eq_ok : validateApiUrl py url = .ok resource ↔ Names py url resource := by
  simp only [validateApiUrl, bind_eq_ok, requireApproval_eq_ok, Bool.and_eq_true, decide_eq_true_eq]
  constructor
  · rintro ⟨parsed, hsplit, _, ⟨hscheme, hhost⟩, port, hport, _,
      ⟨⟨⟨⟨rfl, huser⟩, hpassword⟩, hquery⟩, hfragment⟩, h⟩
    split at h
    · next found hpath =>
      cases h
      exact ⟨parsed, hsplit, hscheme, hhost, hport, huser, hpassword, hquery, hfragment, hpath⟩
    · cases h
  · rintro ⟨parsed, hsplit, hscheme, hhost, hport, huser, hpassword, hquery, hfragment, hpath⟩
    refine ⟨parsed, hsplit, (), ⟨hscheme, hhost⟩, none, hport, (),
      ⟨⟨⟨⟨rfl, huser⟩, hpassword⟩, hquery⟩, hfragment⟩, ?_⟩
    rw [hpath]
    rfl

theorem validateApiUrl_eq_error (h : validateApiUrl py url = .error err) :
    err.cls = .approvalVerificationError ∨ py.urlsplit url = .error err ∨
      ∃ parsed, py.urlsplit url = .ok parsed ∧
        (parsed.scheme = "https" ∧ parsed.hostname = some "api.github.com") ∧
        parsed.port = .error err := by
  simp only [validateApiUrl, bind_eq_error] at h
  rcases h with h | ⟨parsed, hsplit, h⟩
  · exact .inr (.inl h)
  rcases h with h | ⟨_, horigin, h⟩
  · exact .inl (requireApproval_eq_error h)
  rcases h with h | ⟨port, hport, h⟩
  · rw [requireApproval_eq_ok, Bool.and_eq_true, decide_eq_true_eq, decide_eq_true_eq] at horigin
    exact .inr (.inr ⟨parsed, hsplit, horigin, h⟩)
  rcases h with h | ⟨_, -, h⟩
  · exact .inl (requireApproval_eq_error h)
  split at h
  · cases h
  · exact .inl (unverified_eq_error h)

theorem asStr?_eq_some {j : Json} {s : String} : asStr? j = some s ↔ j = .str s := by
  cases j <;> simp [asStr?]

/-- What the metadata are read from. -/
theorem metadata_eq_ok (h : metadata payload = .ok m) :
    m.resourceId = getD payload "id" .null ∧ asInt? m.resourceId = some m.id ∧ 0 < m.id ∧
      getD payload "html_url" .null = .str m.htmlUrl ∧ getD payload "body" .null = .str m.body ∧
      m.actor = getD payload "user" .null ∧
      getD payload "author_association" .null = .str m.association := by
  unfold metadata at h
  dsimp only at h
  split at h
  · next id nodeId htmlUrl body association hid hnode hhtml hbody hassociation =>
    split at h
    · next hvalid =>
      cases h
      exact ⟨rfl, hid, hvalid.1, asStr?_eq_some.mp hhtml, asStr?_eq_some.mp hbody, rfl,
        asStr?_eq_some.mp hassociation⟩
    · cases h
  · cases h

theorem metadata_eq_error (h : metadata payload = .error err) :
    err.cls = .approvalVerificationError := by
  unfold metadata at h
  dsimp only at h
  split at h
  · split at h
    · cases h
    · exact unverified_eq_error h
  · exact unverified_eq_error h

theorem checkBrowserUrl_eq_error (h : checkBrowserUrl py resource m = .error err) :
    err.cls = .approvalVerificationError ∨ py.urlsplit m.htmlUrl = .error err := by
  simp only [checkBrowserUrl, bind_eq_error] at h
  rcases h with h | ⟨browser, -, h⟩
  · exact .inr h
  rcases h with h | ⟨_, -, h⟩
  · exact .inl (requireApproval_eq_error h)
  rcases h with h | ⟨_, -, h⟩
  · exact .inl (requireApproval_eq_error h)
  · exact .inl (requireApproval_eq_error h)

theorem actorIdentity_eq_error {actor : Json} (h : actorIdentity actor = .error err) :
    err.cls = .approvalVerificationError := by
  unfold actorIdentity at h
  split at h
  · split at h
    · cases h
    · exact unverified_eq_error h
  · exact unverified_eq_error h

theorem checkActor_eq_error {ownerUrn association : String}
    (h : v.checkActor py ownerUrn login association = .error err) :
    err.cls = .approvalVerificationError := by
  unfold checkActor at h
  split at h
  · rcases bind_eq_error.mp h with h | ⟨_, hnone, -⟩
    · exact unverified_eq_error h
    · cases hnone
  · rcases bind_eq_error.mp h with h | ⟨_, -, h⟩
    · exact requireApproval_eq_error h
    · exact requireApproval_eq_error h

theorem checkLimits_eq_error {text : String} (h : py.checkLimits text = .error err) :
    py.jsonLimits text = some err := by
  unfold Python.checkLimits at h
  split at h
  · next hlimits =>
    cases h
    exact hlimits
  · cases h

theorem parseExactBody_eq_error {body : String} (h : parseExactBody py body = .error err) :
    err.cls = .approvalVerificationError ∨ py.jsonLimits body = some err := by
  simp only [parseExactBody, bind_eq_error] at h
  rcases h with h | ⟨_, -, h⟩
  · exact .inr (checkLimits_eq_error h)
  split at h
  · exact .inl (unverified_eq_error h)
  · simp only [bind_eq_error] at h
    rcases h with h | ⟨_, -, h⟩
    · exact .inl (requireApproval_eq_error h)
    rcases h with h | ⟨_, -, h⟩
    · exact .inl (requireApproval_eq_error h)
    split at h
    · simp only [bind_eq_error] at h
      rcases h with h | ⟨_, -, h⟩
      · exact .inl (requireApproval_eq_error h)
      rcases h with h | ⟨_, -, h⟩
      · exact .inl (requireApproval_eq_error h)
      · cases h
    · exact .inl (unverified_eq_error h)

/-- A time that is missing or no timestamp is refused as unverified. -/
theorem stamp_eq_error {field : Option String} (h : (match field with
    | none => unverified "GitHub approval timestamp is missing"
    | some approvedAt =>
      match requireUtcTimestamp py approvedAt "GitHub approval timestamp" with
      | .ok _ => pure approvedAt
      | .error e => if e.cls = .valueError then unverified e.msg else .error e : Result String) =
      .error err) : err.cls = .approvalVerificationError := by
  cases field with
  | none => exact unverified_eq_error h
  | some approvedAt =>
    dsimp only at h
    split at h
    · cases h
    · next e htime =>
      split at h
      · exact unverified_eq_error h
      · next hother =>
        refine absurd ?_ hother
        unfold requireUtcTimestamp at htime
        split at htime
        · cases htime
          rfl
        · exact require_eq_error htime

theorem approvalTime_eq_error {kind : ResourceKind} (h : approvalTime py kind payload = .error err) :
    err.cls = .approvalVerificationError := by
  cases kind with
  | issueComment =>
    simp only [approvalTime, bind_eq_error] at h
    rcases h with h | ⟨_, -, h⟩
    · exact requireApproval_eq_error h
    · exact stamp_eq_error h
  | pullRequestReview =>
    simp only [approvalTime, bind_eq_error] at h
    rcases h with h | ⟨_, -, h | ⟨_, -, h⟩⟩
    · exact requireApproval_eq_error h
    · exact requireApproval_eq_error h
    · exact stamp_eq_error h

/-- A time that is accepted is a timestamp, under any name of its field. -/
theorem stamp_eq_ok {field : Option String} {approvedAt : String} (h : (match field with
    | none => unverified "GitHub approval timestamp is missing"
    | some approvedAt =>
      match requireUtcTimestamp py approvedAt "GitHub approval timestamp" with
      | .ok _ => pure approvedAt
      | .error e => if e.cls = .valueError then unverified e.msg else .error e : Result String) =
      .ok approvedAt) (name : String) : requireUtcTimestamp py approvedAt name = .ok () := by
  cases field with
  | none => cases h
  | some time =>
    dsimp only at h
    split at h
    · next htime =>
      cases h
      unfold requireUtcTimestamp at htime ⊢
      split at htime
      · cases htime
      · exact require_eq_ok.mpr (require_eq_ok.mp htime)
    · split at h <;> cases h

theorem approvalTime_eq_ok {kind : ResourceKind} {approvedAt : String}
    (h : approvalTime py kind payload = .ok approvedAt) :
    Standing payload kind ∧ ∀ name, requireUtcTimestamp py approvedAt name = .ok () := by
  cases kind with
  | issueComment =>
    simp only [approvalTime, bind_eq_ok, requireApproval_eq_ok, Bool.and_eq_true,
      decide_eq_true_eq] at h
    obtain ⟨_, ⟨hcreated, hsame⟩, htime⟩ := h
    obtain ⟨time, hsome⟩ := Option.isSome_iff_exists.mp hcreated
    have hcreated := asStr?_eq_some.mp hsome
    exact ⟨⟨time, hcreated, hsame.trans hcreated⟩, stamp_eq_ok htime⟩
  | pullRequestReview =>
    simp only [approvalTime, bind_eq_ok, requireApproval_eq_ok, decide_eq_true_eq] at h
    obtain ⟨_, hstate, _, hcommit, htime⟩ := h
    refine ⟨⟨hstate, ?_⟩, stamp_eq_ok htime⟩
    obtain ⟨commit, hsome, hne⟩ := Option.any_eq_true _ _ |>.mp hcommit
    exact ⟨commit, asStr?_eq_some.mp hsome, by simpa using hne⟩

theorem checkBrowserUrl_eq_ok : checkBrowserUrl py resource m = .ok () ↔
    ∃ browser, py.urlsplit m.htmlUrl = .ok browser ∧ browser.hostname = some "github.com" ∧
      startsWith (py.casefold browser.path)
        (py.casefold ("/" ++ resource.owner ++ "/" ++ resource.repo ++ "/")) = true ∧
      browser.fragment = (if resource.kind = .issueComment then "issuecomment-"
        else "pullrequestreview-") ++ py.str m.resourceId ∧
      (resource.kind = .issueComment ∨ endsWith (py.casefold browser.path)
        (py.casefold ("/pull/" ++ resource.pullNumber)) = true) := by
  simp only [checkBrowserUrl, bind_eq_ok, requireApproval_eq_ok, Bool.and_eq_true, Bool.or_eq_true,
    decide_eq_true_eq]
  constructor
  · rintro ⟨browser, hsplit, _, ⟨hhost, hpath⟩, _, hfragment, hpull⟩
    exact ⟨browser, hsplit, hhost, hpath, hfragment, hpull⟩
  · rintro ⟨browser, hsplit, hhost, hpath, hfragment, hpull⟩
    exact ⟨browser, hsplit, (), ⟨hhost, hpath⟩, (), hfragment, hpull⟩

theorem actorIdentity_eq_ok {actor : Json} (h : actorIdentity actor = .ok (login, actorId)) :
    getD actor "login" .null = .str login ∧ login ≠ "" ∧
      asInt? (getD actor "id" .null) = some actorId ∧ 0 < actorId ∧
      getD actor "type" .null = .str "User" := by
  unfold actorIdentity at h
  split at h
  · next hlogin hid =>
    split at h
    · next hvalid =>
      cases h
      exact ⟨asStr?_eq_some.mp hlogin, hvalid.1, hid, hvalid.2.1, hvalid.2.2⟩
    · cases h
  · cases h

theorem checkActor_eq_ok {ownerUrn association : String}
    (h : v.checkActor py ownerUrn login association = .ok ()) :
    v.ownerLoginByUrn.get? ownerUrn = some (py.casefold login) ∧
      (association ∈ trustedAssociations ∨ py.casefold login ∈ v.explicitLoginAllowlist) := by
  unfold checkActor at h
  split at h
  · cases h
  · next expectedLogin hlogin =>
    simp only [bind_eq_ok, requireApproval_eq_ok, decide_eq_true_eq, Bool.or_eq_true,
      List.contains_iff_mem] at h
    obtain ⟨_, rfl, htrusted⟩ := h
    exact ⟨hlogin, htrusted⟩

theorem parseExactBody_eq_ok {body : String} {members : List (String × Json)}
    (h : parseExactBody py body = .ok members) :
    ∃ rest, Json.parseValue py.readFloat (2 * body.toList.length + 2) body.toList =
        some (.obj members, rest) ∧ Json.skipWs rest = [] ∧ hasDuplicates (.obj members) = false ∧
      ContextData.sameSet (members.map Prod.fst) approvalKeys = true := by
  simp only [parseExactBody, bind_eq_ok] at h
  obtain ⟨_, -, h⟩ := h
  split at h
  · cases h
  · next raw rest hparse =>
    simp only [bind_eq_ok, requireApproval_eq_ok] at h
    obtain ⟨_, hduplicates, _, hrest, h⟩ := h
    split at h
    · simp only [bind_eq_ok, requireApproval_eq_ok] at h
      obtain ⟨_, hkeys, _, -, h⟩ := h
      cases h
      exact ⟨rest, hparse, of_decide_eq_true hrest, by simpa using hduplicates, hkeys⟩
    · cases h

/-- A body with the six fields and the expected values is the expected one, in some order. -/
theorem perm_expected {members : List (String × Json)} (hduplicates : hasDuplicates (.obj members) = false)
    (hkeys : ContextData.sameSet (members.map Prod.fst) approvalKeys = true)
    (hexpected : (e.body.all fun field => members.lookup field.1 = some field.2) = true) :
    members.Perm e.body := by
  have hnodup : (members.map Prod.fst).Nodup := by
    simp only [hasDuplicates, Bool.or_eq_false_iff, Bool.not_eq_false', decide_eq_true_eq] at hduplicates
    exact hduplicates.1
  have hfields : e.body.map Prod.fst =
      ["decision", "migration_id", "new_field", "old_field", "owner_urn", "participant_id"] := rfl
  have hbody : (e.body.map Prod.fst).Nodup := by
    rw [hfields]
    decide
  simp only [List.all_eq_true, decide_eq_true_eq] at hexpected
  refine (List.perm_ext_iff_of_nodup hnodup.of_map hbody.of_map).mpr fun entry => ?_
  constructor
  · intro hentry
    have hkey := (sameSet_iff.mp hkeys entry.1).mp (List.mem_map_of_mem hentry)
    have hfield : entry.1 ∈ e.body.map Prod.fst := by
      rw [hfields]
      revert hkey
      simp only [approvalKeys, List.mem_cons, List.not_mem_nil, or_false]
      tauto
    obtain ⟨field, hmem, hsame⟩ := List.mem_map.mp hfield
    have hvalue := hexpected field hmem
    rw [hsame, Json.lookup_of_mem hnodup hentry] at hvalue
    have hequal : entry = field := Prod.ext hsame.symm (Option.some.inj hvalue)
    exact hequal ▸ hmem
  · exact fun hfield => Json.mem_of_lookup (hexpected entry hfield)

end Checks
section Verdict
variable {py v e url payload} {resource : ApprovalResource} {m : ApprovalMetadata} {login now : String}
  {actorId : Int} {approval : List (String × Json)} {approvedAt : String} {err : Exn}

/-- The number of a resource that is let in is the text of its ID, unless that is a truth value. -/
theorem str_resourceId (h : Identified py url payload resource m) (hbool : m.resourceId ≠ .bool true) :
    py.str m.resourceId = resource.resourceId := by
  obtain ⟨-, hint, hpos, -⟩ := metadata_eq_ok h.metadata
  have hid := h.sameId
  cases hresource : m.resourceId with
  | int n =>
    rw [hresource] at hint
    cases hint
    exact hid
  | bool b =>
    rw [hresource] at hint hbool
    cases b with
    | true => exact absurd rfl hbool
    | false =>
      have hzero : (0 : Int) = m.id := Option.some.inj hint
      omega
  | _ => rw [hresource] at hint; cases hint

/-- Everything that matches is bound, but for an ID that is a truth value. -/
theorem Matches.bound (h : Matches py v e url payload resource m login actorId approval approvedAt)
    (hbool : m.resourceId ≠ .bool true) : Bound py v e url payload resource := by
  obtain ⟨hresource, hint, -, hhtml, hbody, hactor, hassociation⟩ := metadata_eq_ok h.metadata
  obtain ⟨browser, hsplit, hhost, hpath, hfragment, hpull⟩ := checkBrowserUrl_eq_ok.mp h.browser
  obtain ⟨hlogin, hne, hid, hpos, htype⟩ := actorIdentity_eq_ok h.actor
  obtain ⟨howner, htrusted⟩ := checkActor_eq_ok h.owner
  obtain ⟨rest, hparse, hrest, hduplicates, hkeys⟩ := parseExactBody_eq_ok h.body
  rw [hactor] at hlogin hid htype
  rw [str_resourceId h.toIdentified hbool] at hfragment
  refine ⟨validateApiUrl_eq_ok.mp h.source, ⟨m.id, hresource ▸ hint, h.sameId⟩, ?_, ?_, ?_,
    (approvalTime_eq_ok h.time).1⟩
  · refine ⟨m.htmlUrl, browser, hhtml, hsplit, hhost, hpath, hfragment, fun hkind => ?_⟩
    exact hpull.resolve_left (by rw [hkind]; exact nofun)
  · exact ⟨login, actorId, m.association, hlogin, hne, hid, hpos, htype, howner, hassociation, htrusted⟩
  · exact ⟨m.body, approval, rest, hbody, hparse, hrest, hduplicates,
      perm_expected hduplicates hkeys h.expected⟩

theorem Names.unique {resource' : ApprovalResource} (h : Names py url resource)
    (h' : Names py url resource') : resource' = resource := by
  have hsame := (validateApiUrl_eq_ok.mpr h).symm.trans (validateApiUrl_eq_ok.mpr h')
  exact (Except.ok.inj hsame).symm

/-- The browser URL of such an ID shows no resource. -/
theorem Matches.not_bound (h : Matches py v e url payload resource m login actorId approval approvedAt)
    (hbool : m.resourceId = .bool true) (resource' : ApprovalResource) :
    ¬Bound py v e url payload resource' := by
  intro hbound
  cases Names.unique (validateApiUrl_eq_ok.mp h.source) hbound.names
  obtain ⟨-, hint, -, hhtml, -⟩ := metadata_eq_ok h.metadata
  obtain ⟨browser, hsplit, -, -, hfragment, -⟩ := checkBrowserUrl_eq_ok.mp h.browser
  obtain ⟨html, browser', hhtml', hsplit', -, -, hshown, -⟩ := hbound.shows
  cases hhtml.symm.trans hhtml'
  cases hsplit.symm.trans hsplit'
  have hone : resource.resourceId = "1" := by
    rw [hbool] at hint
    rw [← h.sameId, ← Option.some.inj hint]
    rfl
  rw [hfragment, fragmentOf, hbool, hone] at hshown
  have hnames : "True" = "1" := (String.append_right_inj _).mp hshown
  revert hnames
  decide

/-- The receipt of an approval. -/
def receiptOf (py : Python) (e : GitHubApprovalExpectation) (url : String) (resource : ApprovalResource)
    (m : ApprovalMetadata) (login : String) (actorId : Int) (approval : List (String × Json))
    (approvedAt now : String) : VerifiedGitHubApproval where
  migrationId := e.migrationId
  participantId := e.participantId
  ownerUrn := e.ownerUrn
  oldField := e.oldField
  newField := e.newField
  approvedAt
  evidenceUrl := url
  browserUrl := m.htmlUrl
  sourceApiUrl := url
  resourceKind := resource.kind
  resourceId := m.id
  resourceNodeId := m.nodeId
  actorLogin := login
  actorId
  authorAssociation := py.upper m.association
  evidenceSha256 := py.sha256 (canonicalJson (.obj [
    ("approval", .obj approval),
    ("approved_at", .str approvedAt),
    ("actor_id", getD m.actor "id" .null),
    ("actor_login", .str login),
    ("author_association", .str (py.upper m.association)),
    ("evidence_url", .str m.htmlUrl),
    ("resource_id", m.resourceId),
    ("resource_kind", .str resource.kind.value),
    ("resource_node_id", .str m.nodeId),
    ("source_api_url", .str url)]))
  verifiedAt := now

theorem checkDigits_eq_ok {digits : String} : checkDigits digits = .ok () ↔ digits.length ≤ 4300 := by
  rw [checkDigits, require_eq_ok, decide_eq_true_eq]

theorem verify_identified (h : Identified py url payload resource m) :
    v.verify py e url (.ok payload) now = (do
      checkBrowserUrl py resource m
      let (login, actorId) ← actorIdentity m.actor
      v.checkActor py e.ownerUrn login (py.upper m.association)
      let approval ← parseExactBody py m.body
      requireApproval (e.body.all fun field => approval.lookup field.1 = some field.2)
        "GitHub approval body does not match the exact migration and field mapping"
      let approvedAt ← approvalTime py resource.kind payload
      (receiptOf py e url resource m login actorId approval approvedAt now).postInit py) := by
  have hid : requireApproval (m.id.repr = resource.resourceId)
      "GitHub API resource ID does not match the requested stable URL" = .ok () :=
    requireApproval_eq_ok.mpr (decide_eq_true h.sameId)
  rw [verify, h.source, ok_bind, ok_bind, verifyPayload, h.metadata, ok_bind,
    checkDigits_eq_ok.mpr h.digits, ok_bind, hid, ok_bind]
  rfl

theorem verify_matches (h : Matches py v e url payload resource m login actorId approval approvedAt) :
    v.verify py e url (.ok payload) now =
      (receiptOf py e url resource m login actorId approval approvedAt now).postInit py := by
  have hexpected : requireApproval (e.body.all fun field => approval.lookup field.1 = some field.2)
      "GitHub approval body does not match the exact migration and field mapping" = .ok () :=
    requireApproval_eq_ok.mpr h.expected
  rw [verify_identified h.toIdentified, h.browser, ok_bind, h.actor, ok_bind]
  dsimp only
  rw [h.owner, ok_bind, h.body, ok_bind, hexpected, ok_bind, h.time, ok_bind]

/-- What is left for the constructor to check of a receipt in order. -/
theorem postInit_eq {a : VerifiedGitHubApproval} {browser : SplitUrl}
    (hevidence : ∀ name, requireHttpsUrl py a.evidenceUrl name = .ok ())
    (hsource : ∀ name, requireHttpsUrl py a.sourceApiUrl name = .ok ())
    (happroved : requireUtcTimestamp py a.approvedAt "approved_at" = .ok ())
    (hverified : requireUtcTimestamp py a.verifiedAt "verified_at" = .ok ())
    (hids : 0 < a.resourceId ∧ 0 < a.actorId) (hsha : isSha256Hex a.evidenceSha256 = true)
    (hdecision : a.decision = "APPROVED") (hbrowser : py.urlsplit a.browserUrl = .ok browser) :
    a.postInit py = require (browser.scheme = "https" && browser.hostname = some "github.com" &&
        browser.username = none && browser.password = none && browser.query = "") .valueError
        "GitHub approval browser_url must be an HTTPS github.com URL" >>= fun _ => .ok a := by
  have hpositive : require (0 < a.resourceId && 0 < a.actorId) .valueError
      "GitHub approval IDs must be positive" = .ok () := by
    simp [hids.1, hids.2]
  unfold VerifiedGitHubApproval.postInit
  rw [hevidence, ok_bind, hbrowser, ok_bind]
  congr 1
  funext _
  rw [hsource, ok_bind, happroved, ok_bind, hverified, ok_bind, hpositive, ok_bind, hsha, hdecision]
  rfl

/-- The constructor of the receipt accepts plain browser URLs, and refuses others in its own way. -/
theorem receiptOf_postInit (hd : py.Documented)
    (hnow : requireUtcTimestamp py now "verified_at" = .ok ())
    (h : Matches py v e url payload resource m login actorId approval approvedAt) :
    (Plain py m.htmlUrl → (receiptOf py e url resource m login actorId approval approvedAt now).postInit
        py = .ok (receiptOf py e url resource m login actorId approval approvedAt now)) ∧
      (¬Plain py m.htmlUrl → ∃ err, (receiptOf py e url resource m login actorId approval approvedAt
        now).postInit py = .error err ∧ err.cls = .valueError) := by
  obtain ⟨parsed, hsplit, hscheme, hhost, -, huser, hpassword, hquery, hfragment, -⟩ :=
    validateApiUrl_eq_ok.mp h.source
  have hnetloc : parsed.netloc ≠ "" := hd.netloc hsplit (by rw [hhost]; exact nofun)
  have hhttps : ∀ name, requireHttpsUrl py url name = .ok () := by
    intro name
    simp only [requireHttpsUrl, bind_eq_ok, require_eq_ok]
    refine ⟨parsed, hsplit, ?_⟩
    simp [hscheme, hnetloc, huser, hpassword, hquery, hfragment]
  obtain ⟨browser, hbrowser, hbrowserHost, -⟩ := checkBrowserUrl_eq_ok.mp h.browser
  obtain ⟨-, -, hid, -⟩ := metadata_eq_ok h.metadata
  obtain ⟨-, -, -, hactorId, -⟩ := actorIdentity_eq_ok h.actor
  rw [@postInit_eq py (receiptOf py e url resource m login actorId approval approvedAt now) browser
    hhttps hhttps ((approvalTime_eq_ok h.time).2 _) hnow ⟨hid, hactorId⟩ (hd.digest _) rfl hbrowser]
  constructor
  · rintro ⟨browser', hbrowser', hscheme, huser, hpassword, hquery⟩
    cases hbrowser.symm.trans hbrowser'
    simp [hscheme, hbrowserHost, huser, hpassword, hquery, require, ok_bind]
  · intro hplain
    have hfalse : (browser.scheme = "https" && browser.hostname = some "github.com" &&
        browser.username = none && browser.password = none && browser.query = "") = false := by
      refine Bool.eq_false_iff.mpr fun htrue => hplain ?_
      simp only [Bool.and_eq_true, decide_eq_true_eq] at htrue
      obtain ⟨⟨⟨⟨hscheme, -⟩, huser⟩, hpassword⟩, hquery⟩ := htrue
      exact ⟨browser, hbrowser, hscheme, huser, hpassword, hquery⟩
    rw [hfalse]
    exact ⟨_, rfl, rfl⟩

/-- A verification that fails fails with its own error, or its input is one that escapes. -/
theorem verify_eq_error (hd : py.Documented)
    (hnow : requireUtcTimestamp py now "verified_at" = .ok ())
    (h : v.verify py e url (.ok payload) now = .error err) :
    err.cls = .approvalVerificationError ∨ Escapes py v e url payload := by
  cases hsource : validateApiUrl py url with
  | error err' =>
    rw [verify, hsource] at h
    cases h
    rcases validateApiUrl_eq_error hsource with h | h | ⟨parsed, hsplit, horigin, h⟩
    · exact .inl h
    · exact .inr (.source h)
    · exact .inr (.port hsplit horigin h)
  | ok resource =>
    cases hmetadata : metadata payload with
    | error err' =>
      rw [verify, hsource, ok_bind, ok_bind, verifyPayload, hmetadata] at h
      cases h
      exact .inl (metadata_eq_error hmetadata)
    | ok m =>
      by_cases hdigits : resource.resourceId.length ≤ 4300
      · by_cases hsame : m.id.repr = resource.resourceId
        · have hfound : Identified py url payload resource m := ⟨hsource, hmetadata, hdigits, hsame⟩
          rw [verify_identified hfound] at h
          rcases bind_eq_error.mp h with h | ⟨_, hbrowser, h⟩
          · exact (checkBrowserUrl_eq_error h).imp id (.browser hfound)
          rcases bind_eq_error.mp h with h | ⟨⟨login, actorId⟩, hactor, h⟩
          · exact .inl (actorIdentity_eq_error h)
          rcases bind_eq_error.mp h with h | ⟨_, howner, h⟩
          · exact .inl (checkActor_eq_error h)
          have hadmitted : Admitted py v e url payload resource m login actorId :=
            ⟨hfound, hbrowser, hactor, howner⟩
          rcases bind_eq_error.mp h with h | ⟨approval, hbody, h⟩
          · exact (parseExactBody_eq_error h).imp id (.body hadmitted)
          rcases bind_eq_error.mp h with h | ⟨_, hexpected, h⟩
          · exact .inl (requireApproval_eq_error h)
          rcases bind_eq_error.mp h with h | ⟨approvedAt, htime, h⟩
          · exact .inl (approvalTime_eq_error h)
          have hmatches : Matches py v e url payload resource m login actorId approval approvedAt :=
            ⟨hadmitted, hbody, requireApproval_eq_ok.mp hexpected, htime⟩
          refine .inr (.plain hmatches fun hplain => ?_)
          rw [(receiptOf_postInit hd hnow hmatches).1 hplain] at h
          cases h
        · rw [verify, hsource, ok_bind, ok_bind, verifyPayload, hmetadata, ok_bind,
            checkDigits_eq_ok.mpr hdigits, ok_bind, requireApproval, decide_eq_false hsame] at h
          cases h
          exact .inl rfl
      · exact .inr (.digits hsource hmetadata (by omega))

/-- An accepted approval matches everything, and its browser URL is plain. -/
theorem verify_eq_ok (hd : py.Documented) (hnow : requireUtcTimestamp py now "verified_at" = .ok ())
    {a : VerifiedGitHubApproval} (h : v.verify py e url (.ok payload) now = .ok a) :
    ∃ resource m login actorId approval approvedAt,
      Matches py v e url payload resource m login actorId approval approvedAt ∧ Plain py m.htmlUrl := by
  obtain ⟨resource, hsource, h'⟩ := bind_eq_ok.mp h
  obtain ⟨_, hpayload, h'⟩ := bind_eq_ok.mp h'
  cases hpayload
  simp only [verifyPayload, bind_eq_ok] at h'
  obtain ⟨m, hmetadata, _, hdigits, _, hsame, _, hbrowser, ⟨login, actorId⟩, hactor, _, howner, approval,
    hbody, _, hexpected, approvedAt, htime, -⟩ := h'
  have hmatches : Matches py v e url payload resource m login actorId approval approvedAt :=
    ⟨⟨⟨hsource, hmetadata, checkDigits_eq_ok.mp hdigits,
        of_decide_eq_true (requireApproval_eq_ok.mp hsame)⟩, hbrowser, hactor, howner⟩, hbody,
      requireApproval_eq_ok.mp hexpected, htime⟩
  refine ⟨resource, m, login, actorId, approval, approvedAt, hmatches, ?_⟩
  by_contra hplain
  obtain ⟨err, herror, -⟩ := (receiptOf_postInit hd hnow hmatches).2 hplain
  rw [verify_matches hmatches, herror] at h
  cases h

theorem Escapes.fails (hd : py.Documented) (hnow : requireUtcTimestamp py now "verified_at" = .ok ())
    (h : Escapes py v e url payload) :
    (∃ err, v.verify py e url (.ok payload) now = .error err ∧ err.cls ≠ .approvalVerificationError) ∨
      ∃ a, v.verify py e url (.ok payload) now = .ok a ∧
        ∀ resource, ¬Bound py v e url payload resource := by
  cases h with
  | @source err h =>
    refine .inl ⟨err, ?_, by rw [hd.split h]; exact nofun⟩
    rw [verify, validateApiUrl, h]
    rfl
  | @port parsed err hsplit horigin h =>
    refine .inl ⟨err, ?_, by rw [hd.port hsplit h]; exact nofun⟩
    rw [verify, validateApiUrl, hsplit, ok_bind, horigin.1, horigin.2, h]
    rfl
  | @digits resource m hsource hmetadata h =>
    have hdigits : checkDigits resource.resourceId =
        raise .valueError "Exceeds the limit (4300 digits) for integer string conversion" := by
      rw [checkDigits, decide_eq_false (by omega)]
      rfl
    refine .inl ⟨⟨.valueError, "Exceeds the limit (4300 digits) for integer string conversion"⟩, ?_,
      by decide⟩
    rw [verify, hsource, ok_bind, ok_bind, verifyPayload, hmetadata, ok_bind, hdigits]
    rfl
  | @browser resource m err hfound h =>
    refine .inl ⟨err, ?_, by rw [hd.split h]; exact nofun⟩
    rw [verify_identified hfound, checkBrowserUrl, h]
    rfl
  | @body resource m login actorId err hfound h =>
    refine .inl ⟨err, ?_, hd.limits h⟩
    rw [verify_identified hfound.toIdentified, hfound.browser, ok_bind, hfound.actor, ok_bind]
    dsimp only
    rw [hfound.owner, ok_bind, parseExactBody, Python.checkLimits, h]
    rfl
  | plain hfound h =>
    obtain ⟨err, herror, hcls⟩ := (receiptOf_postInit hd hnow hfound).2 h
    exact .inl ⟨err, (verify_matches hfound).trans herror, by rw [hcls]; exact nofun⟩
  | boolean hfound hplain h =>
    have hok := (receiptOf_postInit hd hnow hfound).1 hplain
    exact .inr ⟨_, (verify_matches hfound).trans hok, hfound.not_bound h⟩

end Verdict

/-- The migration waits for its owner, and the verifier is to expect this approval. -/
def Expects (py : Python) (mid : String) (w : CoordinatorState py) (e : GitHubApprovalExpectation) :
    Prop :=
  ∃ migration participants, w.store.getMigration py mid = .ok migration ∧
    migration.status = .needsApproval ∧ w.store.listParticipants py mid = .ok participants ∧
    expectationOf mid migration.intent participants = .ok e

/-- The verification of a payload is sound, fails in one way only, and is reported so: the payload
is as the transport returned it, and `now` the time of the receipt. -/
structure FailsOneWay (py : Python) (v : GitHubApprovalVerifier) (e : GitHubApprovalExpectation)
    (url : String) (payload : Json) (now : String) : Prop where
  rejects : ∀ err, v.verify py e url (.ok payload) now = .error err →
    err.cls = .approvalVerificationError
  binds : ∀ a, v.verify py e url (.ok payload) now = .ok a →
    ∃ resource, Bound py v e url payload resource
  /-- The store answers what `approve_from_github` reads before it verifies. -/
  reports : ∀ (co : Coordinator py) (mid : String) (w w' : CoordinatorState py)
    (log : List (Σ op : CoordinatorCall py, Result op.Reply)) (r : Result PrepareOutcome),
    co.approvalVerifier = some v → Expects py mid w e →
    (co.approveFromGithub mid url).Runs
      (Serves (ApprovalCall.Services co (.approveFromGithub url (.ok payload) now))) w log r w' →
    (∀ read reply, ⟨.read read, reply⟩ ∈ log → reply.isOk = true) →
    (∀ a, v.verify py e url (.ok payload) now ≠ .ok a) →
    w' = w ∧ ∃ err, r = .error err ∧ err.cls = .coordinationError

section Reports
variable {py : Python} {v : GitHubApprovalVerifier} {e : GitHubApprovalExpectation} {url now mid : String}
  {payload : Json} {co : Coordinator py} {w w' : CoordinatorState py}
  {log : List (Σ op : CoordinatorCall py, Result op.Reply)}
  {services : (c : CoordinatorCall py) → Result c.Reply → Prop}

/-- A read that the store answers. -/
theorem runs_read_answered {q : StoreRead} {r : Result q.Reply} {a : q.Reply}
    (h : (CoordinatorCall.read q).run.Runs (Serves services) w log r w')
    (hreads : ∀ read reply, ⟨.read read, reply⟩ ∈ log → reply.isOk = true)
    (ha : q.answer py w.store = .ok a) : r = .ok a ∧ w' = w := by
  obtain ⟨rfl, hreply, rfl⟩ := Prog.runs_perform.mp h
  rcases hreply with rfl | ⟨err, rfl⟩
  · exact ⟨ha, rfl⟩
  · exact absurd (hreads _ _ (List.mem_singleton_self _)) Bool.false_ne_true

theorem runs_approvalExpectation {r : Result GitHubApprovalExpectation}
    (h : (approvalExpectation mid : CoordinatorProg py _).Runs (Serves services) w log r w')
    (hreads : ∀ read reply, ⟨.read read, reply⟩ ∈ log → reply.isOk = true)
    (hexpects : Expects py mid w e) : r = .ok e ∧ w' = w := by
  obtain ⟨migration, participants, hmigration, hwaits, hparticipants, hexpected⟩ := hexpects
  rcases Prog.runs_bind.mp h with ⟨err, rfl, hread⟩ | ⟨log₁, log₂, a, w₁, rfl, hread, h⟩
  · have hok := (runs_read_answered (q := .getMigration mid) hread hreads hmigration).1
    cases hok
  have hanswered := runs_read_answered (q := .getMigration mid) hread
    (fun read reply hmem => hreads read reply (List.mem_append_left _ hmem)) hmigration
  cases hanswered.1
  cases hanswered.2
  rcases Prog.runs_lift_bind.mp h with ⟨err, hstatus, -⟩ | ⟨_, -, h⟩
  · rw [requireCoordination, decide_eq_true hwaits] at hstatus
    cases hstatus
  have hreads₂ : ∀ read reply, ⟨.read read, reply⟩ ∈ log₂ → reply.isOk = true :=
    fun read reply hmem => hreads read reply (List.mem_append_right _ hmem)
  rcases Prog.runs_bind.mp h with ⟨err, rfl, hread⟩ | ⟨log₃, log₄, found, w₂, rfl, hread, h⟩
  · have hok := (runs_read_answered (q := .listParticipants mid) hread hreads₂ hparticipants).1
    cases hok
  have hanswered := runs_read_answered (q := .listParticipants mid) hread
    (fun read reply hmem => hreads₂ read reply (List.mem_append_left _ hmem)) hparticipants
  cases hanswered.1
  cases hanswered.2
  obtain ⟨-, rfl, rfl⟩ := Prog.runs_lift.mp h
  exact ⟨hexpected, rfl⟩

/-- A verification that is rejected ends the call, and nothing has changed. -/
theorem reported (hrejects : ∀ err, v.verify py e url (.ok payload) now = .error err →
      err.cls = .approvalVerificationError) {r : Result PrepareOutcome}
    (hverifier : co.approvalVerifier = some v) (hexpects : Expects py mid w e)
    (hrun : (co.approveFromGithub mid url).Runs
      (Serves (ApprovalCall.Services co (.approveFromGithub url (.ok payload) now))) w log r w')
    (hreads : ∀ read reply, ⟨.read read, reply⟩ ∈ log → reply.isOk = true)
    (hrejected : ∀ a, v.verify py e url (.ok payload) now ≠ .ok a) :
    w' = w ∧ ∃ err, r = .error err ∧ err.cls = .coordinationError := by
  obtain ⟨err, herror⟩ : ∃ err, v.verify py e url (.ok payload) now = .error err := by
    cases hverify : v.verify py e url (.ok payload) now with
    | ok a => exact absurd hverify (hrejected a)
    | error err => exact ⟨err, rfl⟩
  rcases Prog.runs_lift_bind.mp hrun with ⟨_, hconfigured, -⟩ | ⟨_, -, h⟩
  · rw [requireCoordination, hverifier] at hconfigured
    cases hconfigured
  rcases Prog.runs_bind.mp h with ⟨_, rfl, hexpect⟩ | ⟨log₁, log₂, found, w₁, rfl, hexpect, h⟩
  · cases (runs_approvalExpectation hexpect hreads hexpects).1
  have hanswered := runs_approvalExpectation hexpect
    (fun read reply hmem => hreads read reply (List.mem_append_left _ hmem)) hexpects
  cases hanswered.1
  cases hanswered.2
  -- what is fetched is rejected, whatever comes after it
  have hfetched : ∀ {log r w'}, (verifyOnGithub e url).Runs (Serves (ApprovalCall.Services co
      (.approveFromGithub url (.ok payload) now))) w log r w' →
        w' = w ∧ ∃ msg, r = .error ⟨.coordinationError, msg⟩ := by
    intro log r w' hverify
    obtain ⟨_, _, reply, w₂, -, hcall, hcaught⟩ := Prog.runs_andThen.mp hverify
    obtain ⟨-, ⟨verifier, hsame, hreply⟩, rfl⟩ := Prog.runs_perform.mp hcall
    cases hverifier.symm.trans hsame
    rw [hreply, herror, Prog.onError, if_pos (hrejects err herror)] at hcaught
    obtain ⟨-, rfl, rfl⟩ := Prog.runs_lift.mp hcaught
    exact ⟨rfl, _, rfl⟩
  rcases Prog.runs_bind.mp h with ⟨_, rfl, hverify⟩ | ⟨_, _, a, _, _, hverify, -⟩
  · obtain ⟨hsame, msg, hmsg⟩ := hfetched hverify
    cases hmsg
    exact ⟨hsame, _, rfl, rfl⟩
  · obtain ⟨-, msg, hmsg⟩ := hfetched hverify
    cases hmsg

end Reports

def schemeOf (url : String) : String :=
  if startsWith url "https://" then "https" else if startsWith url "http://" then "http" else ""

/-- A splitter that is right for URLs without a query, a port or the name of a user. -/
def splitPlain (url : String) : Result SplitUrl :=
  let scheme := schemeOf url
  let rest := (url.toList.drop (scheme.length + 3)).takeWhile (· ≠ '#')
  let netloc := rest.takeWhile (· ≠ '/')
  if scheme = "" then .ok ⟨"", "", url, "", "", none, none, none, .ok none⟩
  else if netloc.contains '[' ≠ netloc.contains ']' then raise .valueError "Invalid IPv6 URL"
  else .ok {
    scheme, netloc := String.ofList netloc, path := String.ofList (rest.dropWhile (· ≠ '/')), query := ""
    fragment := String.ofList ((url.toList.dropWhile (· ≠ '#')).drop 1), username := none
    password := none, hostname := if netloc = [] then none else some (String.ofList netloc)
    port := .ok none }

def plainPython : Python := { samplePython with urlsplit := splitPlain }

theorem splitPlain_eq_ok {url : String} {parsed : SplitUrl} (h : splitPlain url = .ok parsed) :
    parsed.port = .ok none ∧ (parsed.hostname ≠ none → parsed.netloc ≠ "") := by
  unfold splitPlain at h
  dsimp only at h
  split at h
  · cases h
    exact ⟨rfl, fun hhost => absurd rfl hhost⟩
  · split at h
    · cases h
    · cases h
      refine ⟨rfl, fun hhost hnetloc => hhost ?_⟩
      rw [if_pos]
      exact String.ofList_eq_empty_iff.mp hnetloc

theorem plainPython_documented : plainPython.Documented where
  split {url err} h := by
    have hsplit : splitPlain url = .error err := h
    unfold splitPlain at hsplit
    dsimp only at hsplit
    split at hsplit
    · cases hsplit
    · split at hsplit
      · cases hsplit
        rfl
      · cases hsplit
  port hsplit h := by
    rw [(splitPlain_eq_ok hsplit).1] at h
    cases h
  netloc hsplit := (splitPlain_eq_ok hsplit).2
  limits h := by cases h
  digest _ := by
    have hsha : isSha256Hex ChangeIntent.sample.intentSha256 = true := by decide +kernel
    exact hsha

def sampleVerifier : GitHubApprovalVerifier where
  ownerLoginByUrn := Dict.empty.set "urn:li:corpuser:o" "alice"
  explicitLoginAllowlist := []

def sampleExpectation : GitHubApprovalExpectation := ⟨"m", "p", "urn:li:corpuser:o", "old", "new"⟩

end GitHubApprovalVerifier
end LineageTX
