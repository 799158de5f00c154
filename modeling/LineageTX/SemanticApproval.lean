import LineageTX.Adapters

/-! The semantic adapter: a dimension that is renamed only under the approval of its
one accountable owner. -/
namespace LineageTX
open Library
variable (py : Python)

structure SemanticMappingProposal where
  migrationId : String
  participantId : String
  relativePath : String
  expectedSha256 : String
  oldField : String
  newField : String
  expectedOccurrences : Int
  requiredOwnerUrn : String
  expandedColumns : List String
  contractColumns : List String
  repository : String
  ownerUrns : List String

def SemanticMappingProposal.binding (p : SemanticMappingProposal) : ProposalBinding where
  kind := .semanticApproval
  migrationId := p.migrationId
  participantId := p.participantId
  repository := p.repository
  paths := [p.relativePath]
  oldField := p.oldField
  newField := p.newField
  expandedColumns := p.expandedColumns
  contractColumns := p.contractColumns
  ownerUrns := p.ownerUrns

structure OwnerApproval where
  migrationId : String
  participantId : String
  ownerUrn : String
  oldField : String
  newField : String
  approvedAt : String
  evidenceUrl : String
  decision : String := "APPROVED"
  deriving DecidableEq

mutual
/-- `_count_string`: the keys and the texts equal to the needle. -/
def countString (needle : String) : Json → Nat
  | .obj m => countMembers needle m
  | .arr xs => countItems needle xs
  | .str s => if s = needle then 1 else 0
  | _ => 0
def countItems (needle : String) : List Json → Nat
  | [] => 0
  | x :: xs => countString needle x + countItems needle xs
def countMembers (needle : String) : List (String × Json) → Nat
  | [] => 0
  | (k, v) :: m => (if k = needle then 1 else 0) + countString needle v + countMembers needle m
end

namespace SemanticApprovalParticipant

/-- The `dimensions` of a document, which `parseDocument` has seen to be an object. -/
def dimensions (document : Json) : List (String × Json) :=
  match getD document "dimensions" .null with
  | .obj m => m
  | _ => []

def parseDocument (source : String) : Result Json := do
  let document ← py.jsonLoads .candidateRejected "semantic config is invalid JSON: " source
  requireCandidate (isObj document && isObj (getD document "dimensions" .null))
    "semantic config must contain a dimensions object"
  return document

/-- Whether the dimension of a field exists and reads that field. -/
def readsField (dims : List (String × Json)) (field : String) : Bool :=
  (dims.lookup field).any fun entry => isObj entry && entry.get? "source_field" = some (.str field)

def validatePendingDocument (document : Json) (expectedOccurrences : Int) (policy : PolicyData) :
    Result Unit := do
  let dims := dimensions document
  requireCandidate ((dims.lookup policy.oldField).isSome && (dims.lookup policy.newField).isNone)
    "semantic dimension changed after proposal generation"
  requireCandidate (readsField dims policy.oldField)
    "semantic source_field does not match the old dimension"
  let occurrences := countString policy.oldField document
  requireCandidate (occurrences = expectedOccurrences)
    s!"semantic occurrence count changed: expected {expectedOccurrences}, got {occurrences}"

def validateApproval (policy : PolicyData) (approval : OwnerApproval) : Result Unit := do
  requireCandidate (approval.decision = "APPROVED") "owner did not approve this mapping"
  requireCandidate (approval.migrationId = policy.migrationId &&
      approval.participantId = policy.participantId &&
      some approval.ownerUrn = policy.ownerUrns.head? && approval.oldField = policy.oldField &&
      approval.newField = policy.newField)
    "approval must match migration, participant, owner, and exact mapping"
  requireCandidate (approval.approvedAt ≠ "" && approval.evidenceUrl ≠ "")
    "approval must include timestamp and evidence URL"

def validateApprovedDocument (document : Json) (policy : PolicyData) : Result Unit := do
  let dims := dimensions document
  requireCandidate ((dims.lookup policy.oldField).isNone && (dims.lookup policy.newField).isSome)
    "approved semantic dimension was not renamed exactly"
  requireCandidate (readsField dims policy.newField)
    "approved source_field was not renamed exactly"
  requireCandidate (countString policy.oldField document = 0)
    "old field remains after approved semantic mapping"
  requireCandidate (policy.expandedColumns.contains policy.newField &&
      policy.contractColumns.contains policy.newField)
    "approved semantic mapping fails a schema variant"

/-- The document after the approval: the dimension moved to the new field. -/
def approvedDocument (policy : PolicyData) (document : Json) : Json :=
  let dims := dimensions document
  let entry := (dims.lookup policy.oldField).getD .null
  document.set "dimensions" (.obj (Json.assign policy.newField
    (entry.set "source_field" (.str policy.newField)) (Json.remove policy.oldField dims)))

/-- The checks that come before the question of approval. -/
def pending (env : Surroundings) (session : RepositorySession) (proposal : SemanticMappingProposal)
    (policy : PolicyData) (wt : Worktree) : Result (String × Json) := do
  bindTrustedPolicy py session policy proposal.binding
  requireCandidate (policy.ownerUrns = [proposal.requiredOwnerUrn])
    "semantic candidate owner does not match the trusted accountable owner"
  requireCleanCandidate py env session wt
  let (target, before) ← checkedText py wt (← policy.path 0) proposal.expectedSha256
  let document ← parseDocument py before
  validatePendingDocument document proposal.expectedOccurrences policy
  return (target, document)

/-- The checks of an approved change before its write. -/
def plan (policy : PolicyData) (approval : OwnerApproval) (target : String) (document : Json)
    (wt : Worktree) : Result Candidate := do
  validateApproval policy approval
  let after := configText (approvedDocument policy document)
  validateApprovedDocument (← parseDocument py after) policy
  return ⟨target, ← readBytes wt target, after⟩

def needsApproval (proposal : SemanticMappingProposal) (policy : PolicyData) :
    PreparationResult where
  participantId := policy.participantId
  state := .needsApproval
  checks := ["expected_sha256", "ambiguous_semantic_mapping", "owner_required",
    "zero_write_before_approval"]
  evidence := .obj [
    ("requested_mapping", .obj [("old_field", .str policy.oldField),
      ("new_field", .str policy.newField)]),
    ("current_sha256", .str proposal.expectedSha256)]
  requiredOwnerUrn := policy.ownerUrns.head?

def result (proposal : SemanticMappingProposal) (policy : PolicyData) (approval : OwnerApproval)
    (after : String) (changed : List String) : PreparationResult where
  participantId := policy.participantId
  state := .verified
  changedFiles := changed
  checks := ["expected_sha256", "exact_owner_identity", "exact_mapping_approval",
    "semantic_config_schema", "path_allowlist", "expanded_schema_mapping",
    "contract_schema_mapping"]
  evidence := .obj [
    ("before_sha256", .str proposal.expectedSha256),
    ("after_sha256", .str (py.sha256 after)),
    ("approved_by", .str approval.ownerUrn),
    ("approved_at", .str approval.approvedAt),
    ("approval_evidence_url", .str approval.evidenceUrl),
    ("approved_mapping", .obj [("old_field", .str approval.oldField),
      ("new_field", .str approval.newField)]),
    ("execution_scope", .str executionScope)]

def prepare (env : Surroundings) (session : RepositorySession) (proposal : SemanticMappingProposal)
    (policy : PolicyData) (approval : Option OwnerApproval) (wt : Worktree) :
    Result PreparationResult × Worktree :=
  match pending py env session proposal policy wt, approval with
  | .error e, _ => (.error e, wt)
  -- Without an approval the adapter reads only.
  | .ok _, none => (.ok (needsApproval proposal policy), wt)
  | .ok (target, document), some approval =>
    match plan py policy approval target document wt with
    | .error e => (.error e, wt)
    | .ok candidate =>
      match candidate.apply env (enforceAllowlist py env policy.allowedPaths true) wt with
      | (.error e, wt) => (.error e, wt)
      | (.ok changed, wt) => (.ok (result py proposal policy approval candidate.after changed), wt)

/-- The effect that the trusted policy has on the worktree. -/
def effect (policy : PolicyData) (wt : Worktree) : Result Worktree := do
  let (target, before) ← trustedText py wt (← policy.path 0)
  let document ← parseDocument py before
  return wt.write target (configText (approvedDocument policy document)).toUTF8

variable {py}

/-- A proposal without approval writes nothing. -/
theorem prepare_zero_write {env : Surroundings} {session : RepositorySession}
    {proposal : SemanticMappingProposal} {policy : PolicyData} {wt : Worktree} :
    (prepare py env session proposal policy none wt).2 = wt := by
  unfold prepare
  split <;> first | rfl | contradiction

theorem pending_eq_ok {env : Surroundings} {session : RepositorySession}
    {proposal : SemanticMappingProposal} {policy : PolicyData} {wt : Worktree} {target : String}
    {document : Json} (h : pending py env session proposal policy wt = .ok (target, document)) :
    policy.kind = .semanticApproval ∧ ∃ path before, policy.path 0 = .ok path ∧
      trustedText py wt path = .ok (target, before) ∧ parseDocument py before = .ok document := by
  simp only [pending, bind_eq_ok] at h
  obtain ⟨_, hbind, _, -, _, -, path, hpath, ⟨target, before⟩, htext, document, hdoc, _, -, ⟨⟩⟩ := h
  exact ⟨(bindTrustedPolicy_kind py hbind).symm, path, before, hpath, checkedText_eq_ok py htext, hdoc⟩

/-- An accepted proposal has the effect of the policy. -/
theorem prepare_effect {env : Surroundings} {session : RepositorySession}
    {proposal : SemanticMappingProposal} {policy : PolicyData} {approval : Option OwnerApproval}
    {wt wt' : Worktree} {r : PreparationResult}
    (h : prepare py env session proposal policy approval wt = (.ok r, wt'))
    (hr : r.state = .verified) : policy.kind = .semanticApproval ∧ effect py policy wt = .ok wt' := by
  unfold prepare at h
  split at h
  · cases h
  · obtain ⟨hres, -⟩ := Prod.mk.inj h
    obtain rfl := Except.ok.inj hres
    cases hr
  · next target document approval hpending =>
    obtain ⟨hkind, path, before, hpath, htext, hdoc⟩ := pending_eq_ok hpending
    split at h
    · cases h
    · next candidate hplan =>
      split at h
      · cases h
      · next changed wt₁ happly =>
        obtain ⟨-, rfl⟩ := Prod.mk.inj h
        simp only [plan, bind_eq_ok] at hplan
        obtain ⟨_, -, _, -, _, -, bytes, -, ⟨⟩⟩ := hplan
        refine ⟨hkind, ?_⟩
        rw [Candidate.apply_eq_ok happly, effect, bind_eq_ok]
        exact ⟨path, hpath, bind_eq_ok.mpr ⟨_, htext, bind_eq_ok.mpr ⟨document, hdoc, rfl⟩⟩⟩

end SemanticApprovalParticipant
end LineageTX
