import LineageTX.Receipts

/-! What the three adapters share: the trusted policy, the isolated worktree, and the
checks that stand between a proposal and a write. -/
namespace LineageTX
open Library
variable (py : Python)

structure RepositorySession where
  repoId : String
  candidateId : String
  migrationId : String
  baseRepo : String
  worktree : String
  branch : String
  baseSha : String
  baseStatus : String
  deriving DecidableEq

/-- The contents of a worktree: the file inside it that a relative path names once
links are followed, and the bytes of each such file. -/
structure Worktree where
  resolve : String → Option String
  file : String → Option ByteArray

def Worktree.write (wt : Worktree) (target : String) (bytes : ByteArray) : Worktree :=
  { wt with file := fun path => if path = target then some bytes else wt.file path }

/-- What one run meets outside the worktree: the answers of Git, and whether writing
some bytes to a file fails, with what the file then holds. -/
structure Surroundings where
  statusPaths : Worktree → Result (List String)
  headAndBranch : Worktree → Result (String × String)
  fault : String → ByteArray → Option (Exn × ByteArray)

/-- `Path.write_bytes` -/
def Surroundings.writeBytes (env : Surroundings) (wt : Worktree) (target : String)
    (bytes : ByteArray) : Result Unit × Worktree :=
  match env.fault target bytes with
  | none => (.ok (), wt.write target bytes)
  | some (e, part) => (.error e, wt.write target part)

theorem Surroundings.writeBytes_eq_ok {env : Surroundings} {wt wt' : Worktree} {target : String}
    {bytes : ByteArray} {u : Unit} (h : env.writeBytes wt target bytes = (.ok u, wt')) :
    wt' = wt.write target bytes := by
  unfold writeBytes at h
  split at h
  · exact (Prod.mk.inj h).2.symm
  · cases h

def rejectCandidate {α : Type} (msg : String) : Result α := raise .candidateRejected msg

def requireCandidate (check : Bool) (msg : String) : Result Unit :=
  require check .candidateRejected msg

/-- `_safe_relative_path` -/
def safeRelativePath (cls : ExnClass) (what value : String) : Result String := do
  let parts := pathParts value
  require (!isAbsolutePath value && !parts.contains ".." && parts ≠ []) cls
    ("unsafe " ++ what ++ " path: " ++ py.reprStr value)
  return "/".intercalate parts

/-- A safe relative path that is spelled as `PurePosixPath` spells it. -/
def IsNormalPath (path : String) : Prop :=
  (!isAbsolutePath path && !(pathParts path).contains ".." && pathParts path ≠ []) = true ∧
    "/".intercalate (pathParts path) = path

instance (path : String) : Decidable (IsNormalPath path) := inferInstanceAs (Decidable (_ ∧ _))

theorem safeRelativePath_of_normal {py : Python} {cls : ExnClass} {what path : String}
    (h : IsNormalPath path) : safeRelativePath py cls what path = .ok path := by
  simp only [safeRelativePath, bind_eq_ok, require_eq_ok]
  exact ⟨(), h.1, by rw [h.2]; rfl⟩

structure PreparationResult where
  participantId : String
  state : ParticipantStatus
  changedFiles : List String := []
  checks : List String := []
  evidence : Json := .obj []
  requiredOwnerUrn : Option String := none

/-- The frozen binding of an adapter, derived from trusted records. -/
structure PolicyData where
  migrationId : String
  participantId : String
  kind : ParticipantKind
  repository : String
  allowedPaths : List String
  oldField : String
  newField : String
  expandedColumns : List String
  contractColumns : List String
  ownerUrns : List String
  assetUrn : String
  sourceAssetUrn : String
  intentSha256 : String
  relation : Option String := none
  dialect : Option String := none
  assignmentName : Option String := none
  configKey : Option String := none
  trustedFixtureScope : Bool := true
  deriving DecidableEq

/-- `not value` of an optional text. -/
def missingText (value : Option String) : Bool := value = none || value = some ""

/-- The settings that each kind of adapter must and may not have. -/
def PolicyData.checkSettings (d : PolicyData) : Result Unit :=
  match d.kind with
  | .dbtSql => do
    require (!missingText d.relation && d.dialect = some "duckdb") .valueError
      "dbt trusted policy requires a fixed relation and duckdb dialect"
    require (d.assignmentName = none && d.configKey = none) .valueError
      "dbt trusted policy cannot declare Airflow keys"
  | .airflowMapping => do
    require (d.relation = none && d.dialect = none) .valueError
      "Airflow trusted policy cannot declare SQL settings"
    require (d.assignmentName = some "FIELD_MAPPING" && d.configKey = some "field_mapping")
      .valueError "Airflow trusted policy requires the fixed fixture mapping keys"
  | .semanticApproval =>
    require (d.relation = none && d.dialect = none && d.assignmentName = none &&
        d.configKey = none) .valueError "semantic trusted policy cannot declare adapter settings"

def PolicyData.postInit (d : PolicyData) : Result PolicyData := do
  let normalized ← d.allowedPaths.mapM (safeRelativePath py .candidateRejected "repository")
  require (normalized.Nodup && normalized ≠ []) .valueError
    "trusted participant paths must be non-empty and unique"
  require (d.repository ≠ "" && d.ownerUrns ≠ []) .valueError
    "trusted participant repository and owners are required"
  require (d.assetUrn ≠ "" && d.sourceAssetUrn ≠ "" && d.intentSha256 ≠ "") .valueError
    "trusted policy must retain frozen DataHub and intent identity"
  require (d.oldField ≠ d.newField) .valueError "trusted schema fields must differ"
  require d.expandedColumns.Nodup .valueError "expanded schema contains duplicate columns"
  require d.contractColumns.Nodup .valueError "contract schema contains duplicate columns"
  require (d.expandedColumns.contains d.oldField && d.expandedColumns.contains d.newField)
    .valueError "expanded schema must contain old and replacement fields"
  require (!d.contractColumns.contains d.oldField && d.contractColumns.contains d.newField)
    .valueError "contract schema must remove old and retain replacement"
  d.checkSettings
  require d.trustedFixtureScope .valueError
    "this MVP adapter runner is restricted to trusted fixture repositories"
  return { d with allowedPaths := normalized }

/-- A constructed policy: the normalized data of some checked data. -/
abbrev TrustedParticipantPolicy := { d : PolicyData // ∃ given : PolicyData, given.postInit py = .ok d }

/-- The binding fields that a proposal carries. -/
structure ProposalBinding where
  kind : ParticipantKind
  migrationId : String
  participantId : String
  repository : String
  paths : List String
  oldField : String
  newField : String
  expandedColumns : List String
  contractColumns : List String
  ownerUrns : List String
  relation : Option String := none
  dialect : Option String := none
  assignmentName : Option String := none
  configKey : Option String := none

/-- `bind_trusted_policy`: every binding field of a proposal against the policy. -/
def bindTrustedPolicy (session : RepositorySession) (policy : PolicyData) (b : ProposalBinding) :
    Result Unit := do
  let normalizedPaths ← b.paths.mapM (safeRelativePath py .candidateRejected "repository")
  let comparisons : List (String × Bool) := [
    ("session migration_id", session.migrationId = policy.migrationId),
    ("session repository", session.repoId = policy.repository),
    ("proposal migration_id", b.migrationId = policy.migrationId),
    ("proposal participant_id", b.participantId = policy.participantId),
    ("proposal repository", b.repository = policy.repository),
    ("proposal kind", b.kind = policy.kind),
    ("proposal paths", normalizedPaths = policy.allowedPaths),
    ("proposal old_field", b.oldField = policy.oldField),
    ("proposal new_field", b.newField = policy.newField),
    ("proposal expanded schema", b.expandedColumns = policy.expandedColumns),
    ("proposal contract schema", b.contractColumns = policy.contractColumns),
    ("proposal owners", b.ownerUrns = policy.ownerUrns),
    ("proposal relation", b.relation = policy.relation),
    ("proposal dialect", b.dialect = policy.dialect),
    ("proposal assignment_name", b.assignmentName = policy.assignmentName),
    ("proposal config_key", b.configKey = policy.configKey)]
  let mismatches := (comparisons.filter fun c => !c.2).map Prod.fst
  requireCandidate (mismatches = [])
    ("candidate does not match trusted participant policy: " ++ ", ".intercalate mismatches)

theorem bindTrustedPolicy_kind {session : RepositorySession} {policy : PolicyData}
    {b : ProposalBinding} (h : bindTrustedPolicy py session policy b = .ok ()) :
    b.kind = policy.kind := by
  simp only [bindTrustedPolicy, requireCandidate, bind_eq_ok, require_eq_ok,
    decide_eq_true_eq, List.map_eq_nil_iff, List.filter_eq_nil_iff] at h
  obtain ⟨_, -, h⟩ := h
  have hkind := h ("proposal kind", decide (b.kind = policy.kind)) (by simp)
  simpa using hkind

def safeTarget (wt : Worktree) (relativePath : String) : Result String := do
  let posix ← safeRelativePath py .candidateRejected "repository" relativePath
  match wt.resolve posix with
  | none => rejectCandidate "candidate path escaped the isolated worktree"
  | some target => do
    requireCandidate (wt.file target).isSome s!"candidate file does not exist: {relativePath}"
    return target

/-- The line ends that reading a text file makes of the ones it finds. -/
def universalNewlines : List Char → List Char
  | '\r' :: '\n' :: cs => '\n' :: universalNewlines cs
  | '\r' :: cs => '\n' :: universalNewlines cs
  | c :: cs => c :: universalNewlines cs
  | [] => []

theorem universalNewlines_eq_self {cs : List Char} (h : '\r' ∉ cs) : universalNewlines cs = cs := by
  fun_induction universalNewlines cs with
  | case1 cs ih => simp at h
  | case2 cs hnext ih => simp at h
  | case3 c cs hpair hreturn ih => rw [ih fun hmem => h (by simp [hmem])]
  | case4 => rfl

theorem universalNewlines_noReturn (cs : List Char) : '\r' ∉ universalNewlines cs := by
  fun_induction universalNewlines cs with
  | case1 cs ih => simpa using ih
  | case2 cs hnext ih => simpa using ih
  | case3 c cs hpair hreturn ih => simpa [ih] using fun h => hreturn h.symm
  | case4 => simp

/-- `Path.read_text(encoding="utf-8")` -/
def readText (wt : Worktree) (target : String) : Result String :=
  match wt.file target with
  | none => raise .osError target
  | some bytes =>
    match String.fromUTF8? bytes with
    | none => raise .valueError "'utf-8' codec can't decode"
    | some text => .ok (String.ofList (universalNewlines text.toList))

def checkedText (wt : Worktree) (relativePath expectedSha256 : String) :
    Result (String × String) := do
  let target ← safeTarget py wt relativePath
  let value ← readText wt target
  let actual := py.sha256 value
  requireCandidate (actual = expectedSha256)
    s!"stale candidate for {relativePath}: expected {expectedSha256}, got {actual}"
  return (target, value)

/-- The text that a trusted path holds, without the digest that a proposal expects. -/
def trustedText (wt : Worktree) (relativePath : String) : Result (String × String) := do
  let target ← safeTarget py wt relativePath
  return (target, ← readText wt target)

/-- A proposal's digest decides whether the text is read, not which text it is. -/
theorem checkedText_eq_ok {wt : Worktree} {path sha : String} {r : String × String}
    (h : checkedText py wt path sha = .ok r) : trustedText py wt path = .ok r := by
  simp only [checkedText, bind_eq_ok] at h
  obtain ⟨target, htarget, value, hvalue, _, -, ⟨⟩⟩ := h
  simp only [trustedText, bind_eq_ok]
  exact ⟨target, htarget, value, hvalue, rfl⟩

def texts (items : List String) : Json := .arr (items.map .str)

def gitChangedFiles (env : Surroundings) (wt : Worktree) : Result (List String) :=
  match env.statusPaths wt with
  | .ok paths => .ok paths
  | .error e => rejectCandidate s!"unable to inspect candidate worktree: {e.msg}"

def requireCleanCandidate (env : Surroundings) (session : RepositorySession) (wt : Worktree) :
    Result Unit := do
  let (head, branch) ← env.headAndBranch wt
  requireCandidate (head = session.baseSha && branch = session.branch)
    "candidate worktree must remain on the pinned LineageTX base branch"
  let changed ← gitChangedFiles env wt
  requireCandidate (changed = [])
    ("candidate worktree must be clean before PREPARING: " ++ py.reprContainer (texts changed))

def enforceAllowlist (env : Surroundings) (allowedPaths : List String) (requireAll : Bool)
    (wt : Worktree) : Result (List String) := do
  let allowed := allowedPaths.map fun path => "/".intercalate (pathParts path)
  let changed ← gitChangedFiles env wt
  let shown (paths : List String) : String := py.reprContainer (texts (sortedSet paths))
  requireCandidate (changed.all allowed.contains)
    ("candidate changed files outside allowlist: " ++
      shown (changed.filter fun path => !allowed.contains path))
  requireCandidate (!requireAll || allowed.all changed.contains)
    ("candidate must change exactly " ++ shown allowed ++ ", got " ++ shown changed)
  return sortedSet changed

def readBytes (wt : Worktree) (target : String) : Result ByteArray :=
  match wt.file target with
  | some bytes => .ok bytes
  | none => raise .osError target

/-- A candidate that passed every check before the write. -/
structure Candidate where
  target : String
  before : ByteArray
  after : String

/-- The write of a candidate and the checks made after it; the old bytes are put
back if any of them raises. -/
def Candidate.apply {α : Type} (c : Candidate) (env : Surroundings)
    (check : Worktree → Result α) (wt : Worktree) : Result α × Worktree :=
  let restore (e : Exn) (wt : Worktree) : Result α × Worktree :=
    match env.writeBytes wt c.target c.before with
    | (.ok _, wt) => (.error e, wt)
    | (.error e', wt) => (.error e', wt)
  match env.writeBytes wt c.target c.after.toUTF8 with
  | (.error e, wt) => restore e wt
  | (.ok _, wt) =>
    match check wt with
    | .ok a => (.ok a, wt)
    | .error e => restore e wt

theorem Candidate.apply_eq_ok {α : Type} {c : Candidate} {env : Surroundings}
    {check : Worktree → Result α} {wt wt' : Worktree} {a : α}
    (h : c.apply env check wt = (.ok a, wt')) : wt' = wt.write c.target c.after.toUTF8 := by
  have hrestore : ∀ e wt₁, (match env.writeBytes wt₁ c.target c.before with
      | (.ok _, wt) => ((.error e, wt) : Result α × Worktree)
      | (.error e', wt) => (.error e', wt)) ≠ (.ok a, wt') := by
    intro e wt₁
    split <;> intro he <;> cases he
  unfold apply at h
  split at h
  · exact absurd h (hrestore _ _)
  · next hwrite =>
    split at h
    · obtain ⟨-, rfl⟩ := Prod.mk.inj h
      exact Surroundings.writeBytes_eq_ok hwrite
    · exact absurd h (hrestore _ _)

/-- `re.fullmatch(r"[A-Za-z_][A-Za-z0-9_]*", text)` -/
def isWord (c : Char) : Bool := c.isAlphanum || c = '_'

def isWordText (text : String) : Bool :=
  match text.toList with
  | [] => false
  | c :: cs => (c.isAlpha || c = '_') && cs.all isWord

/-- The path of a policy at a position, as `allowed_paths[n]`. -/
def PolicyData.path (policy : PolicyData) (n : Nat) : Result String :=
  match policy.allowedPaths[n]? with
  | some path => .ok path
  | none => raise (.other "IndexError") "tuple index out of range"

/-- The layout of the configuration files that the adapters write. -/
def configStyle : Json.Style := ⟨true, some 2, 0, 1⟩

def configText (document : Json) : String := Json.dumps configStyle document ++ "\n"

def executionScope : String := "trusted_fixture_fixed_adapter_no_repo_commands"

end LineageTX
