import LineageTX.Adapters
import LineageTX.Library.Dict

/-! The Airflow adapter: one field mapping kept in a Python file and in a JSON file.
Python's own parser is an oracle for the assignments of a text. -/
namespace LineageTX
open Library
variable (py : Python)

/-- `ast.literal_eval`: a dictionary from texts to texts, or another value. -/
inductive PyLiteral where
  | mapping (m : Dict String)
  | other

/-- One assignment of a Python module, with the names it assigns and its place. -/
structure PyAssign where
  targets : List String
  value : Result PyLiteral
  lineno : Nat
  colOffset : Nat
  endLineno : Option Nat
  endColOffset : Option Nat

/-- `ast.parse` and `ast.walk`, as far as assignments go. -/
abbrev AstLibrary := String → Result (List PyAssign)

structure AirflowMappingProposal where
  migrationId : String
  participantId : String
  pythonRelativePath : String
  jsonRelativePath : String
  expectedPythonSha256 : String
  expectedJsonSha256 : String
  oldField : String
  newField : String
  expectedMapping : List (String × String)
  proposedMapping : List (String × String)
  expandedColumns : List String
  contractColumns : List String
  repository : String
  ownerUrns : List String
  assignmentName : String := "FIELD_MAPPING"
  configKey : String := "field_mapping"

def AirflowMappingProposal.binding (p : AirflowMappingProposal) : ProposalBinding where
  kind := .airflowMapping
  migrationId := p.migrationId
  participantId := p.participantId
  repository := p.repository
  paths := [p.pythonRelativePath, p.jsonRelativePath]
  oldField := p.oldField
  newField := p.newField
  expandedColumns := p.expandedColumns
  contractColumns := p.contractColumns
  ownerUrns := p.ownerUrns
  assignmentName := some p.assignmentName
  configKey := some p.configKey

/-- `dict(pairs)` -/
def dictOf (pairs : List (String × String)) : Dict String :=
  pairs.foldl (fun d e => d.set e.1 e.2) Dict.empty

/-- The members of a mapping as a JSON object. -/
def mappingMembers (pairs : List (String × String)) : List (String × Json) :=
  pairs.map fun e => (e.1, .str e.2)

/-- The adapter, with the writer that replaces `Path.write_bytes` if one is given. -/
structure AirflowMappingParticipant where
  fileWriter : Option (Worktree → String → ByteArray → Result Unit × Worktree) := none

namespace AirflowMappingParticipant

def writeFile (a : AirflowMappingParticipant) (env : Surroundings) (wt : Worktree)
    (target : String) (bytes : ByteArray) : Result Unit × Worktree :=
  match a.fileWriter with
  | none => env.writeBytes wt target bytes
  | some writer => writer wt target bytes

/-- What a successful write leaves. -/
def written (a : AirflowMappingParticipant) (wt : Worktree) (target : String) (bytes : ByteArray) :
    Worktree :=
  match a.fileWriter with
  | none => wt.write target bytes
  | some writer => (writer wt target bytes).2

theorem writeFile_eq_ok {a : AirflowMappingParticipant} {env : Surroundings} {wt wt' : Worktree}
    {target : String} {bytes : ByteArray} {u : Unit}
    (h : a.writeFile env wt target bytes = (.ok u, wt')) : wt' = a.written wt target bytes := by
  unfold writeFile at h
  unfold written
  cases hw : a.fileWriter with
  | none =>
    rw [hw] at h
    exact Surroundings.writeBytes_eq_ok h
  | some writer =>
    simp only [hw] at h ⊢
    rw [h]

def validateIdentifiers (policy : PolicyData) : Result Unit := do
  requireCandidate (policy.allowedPaths.length = 2 && policy.allowedPaths.Nodup)
    "Airflow participant must update two distinct files"
  [policy.oldField, policy.newField, policy.assignmentName.getD ""].forM fun identifier =>
    requireCandidate (isWordText identifier) ("unsupported identifier: " ++ py.reprStr identifier)

def renamed (policy : PolicyData) (text : String) : String :=
  if text = policy.oldField then policy.newField else text

def renamePair (policy : PolicyData) (e : String × String) : String × String :=
  (renamed policy e.1, renamed policy e.2)

/-- One turn of the loop of `_rename_mapping`. -/
def addRenamed (policy : PolicyData) (after : Dict String) (e : String × String) :
    Result (Dict String) := do
  requireCandidate (!after.keys.contains (renamed policy e.1))
    "rename would create a mapping-key collision"
  return after.set (renamed policy e.1) (renamed policy e.2)

def renameMapping (policy : PolicyData) (before : Dict String) : Result (Dict String) := do
  requireCandidate (before.val.any fun e => e.1 = policy.oldField || e.2 = policy.oldField)
    "old field is absent from the expected mapping"
  before.val.foldlM (addRenamed policy) Dict.empty

def mappingAssignment (ast : AstLibrary) (source assignmentName : String) : Result PyAssign :=
  match ast source with
  | .error e =>
    if e.cls = .other "SyntaxError" then
      rejectCandidate s!"Airflow Python mapping is invalid: {e.msg}"
    else .error e
  | .ok assignments =>
    match assignments.filter fun node => node.targets.contains assignmentName with
    | [assignment] => .ok assignment
    | found => rejectCandidate
      s!"expected exactly one {assignmentName} assignment, got {found.length}"

def literalMapping (value : Result PyLiteral) : Result (Dict String) :=
  match value with
  | .ok (.mapping m) => .ok m
  | .ok .other => rejectCandidate "mapping must be a string-to-string dictionary"
  | .error e =>
    if e.cls = .valueError || e.cls = .other "SyntaxError" then
      rejectCandidate "mapping assignment must be a literal dictionary"
    else .error e

/-- The characters that `splitlines` takes for the end of a line. -/
def isLineEnd (c : Char) : Bool :=
  [0x0a, 0x0b, 0x0c, 0x0d, 0x1c, 0x1d, 0x1e, 0x85, 0x2028, 0x2029].contains c.toNat

/-- `splitlines(keepends=True)`, with the line read so far in reverse. -/
def splitLines : (line : List Char) → List Char → List (List Char)
  | [], [] => []
  | line, [] => [line.reverse]
  | line, '\r' :: '\n' :: cs => ('\n' :: '\r' :: line).reverse :: splitLines [] cs
  | line, c :: cs =>
    if isLineEnd c then (c :: line).reverse :: splitLines [] cs else splitLines (c :: line) cs

/-- The place of a column of a line, counted from the start of the text. -/
def offsetOf (source : List Char) (lineno column : Nat) : Nat :=
  (((splitLines [] source).take (lineno - 1)).map List.length).sum + column

def mappingStyle : Json.Style := ⟨true, some 4, 0, 1⟩

def replaceAssignment (source : String) (assignment : PyAssign) (assignmentName : String)
    (members : List (String × Json)) : Result String :=
  match assignment.endLineno, assignment.endColOffset with
  | some endLineno, some endColOffset =>
    let cs := source.toList
    let start := offsetOf cs assignment.lineno assignment.colOffset
    let stop := offsetOf cs endLineno endColOffset
    .ok (String.ofList (cs.take start) ++ (assignmentName ++ " = " ++
      Json.dumps mappingStyle (.obj members)) ++ String.ofList (cs.drop stop))
  | _, _ => rejectCandidate "Python AST did not include assignment source offsets"

def validateSchemaVariants (policy : PolicyData) (mapping : Dict String) : Result Unit := do
  let referenced := mapping.keys ++ mapping.val.map Prod.snd
  requireCandidate (referenced.all policy.expandedColumns.contains)
    "patched mapping fails the expanded schema"
  requireCandidate (referenced.all policy.contractColumns.contains)
    "patched mapping fails the contract schema"

/-- The object under the configuration key of the policy. -/
def configMapping (policy : PolicyData) (document : Json) : Result (List (String × Json)) :=
  match policy.configKey.bind fun key => document.get? key with
  | some (.obj m) => .ok m
  | _ => rejectCandidate
    ("JSON config must contain object key " ++ (policy.configKey.map py.reprStr).getD "None")

def configAfter (policy : PolicyData) (document : Json) (members : List (String × Json)) : String :=
  configText (document.set (policy.configKey.getD "") (.obj members))

/-- The mapping of a proposal, if it is the one that the rename of the expected gives. -/
def proposedMapping (proposal : AirflowMappingProposal) (policy : PolicyData) :
    Result (Dict String × Dict String) := do
  let expected := dictOf proposal.expectedMapping
  let proposed := dictOf proposal.proposedMapping
  requireCandidate (expected.val.length = proposal.expectedMapping.length &&
      proposed.val.length = proposal.proposedMapping.length)
    "mapping proposals may not contain duplicate keys"
  let derived ← renameMapping policy expected
  requireCandidate (decide (proposed.val.Perm derived.val))
    "candidate is not the single deterministic old-to-new mapping"
  return (expected, proposed)

/-- A candidate for both files. -/
structure TwoFiles where
  python : Candidate
  json : Candidate

/-- Both texts after the change, and the checks on them before either is written. -/
def candidateTexts (ast : AstLibrary) (policy : PolicyData) (expected proposed : Dict String)
    (pythonBefore jsonBefore : String) : Result (String × String) := do
  let assignmentName := policy.assignmentName.getD ""
  let assignment ← mappingAssignment ast pythonBefore assignmentName
  let pythonMapping ← literalMapping assignment.value
  requireCandidate (decide (pythonMapping.val.Perm expected.val))
    "Python mapping changed after proposal generation"
  let document ← py.jsonLoads .candidateRejected "mapping config is invalid JSON: " jsonBefore
  let configured ← configMapping py policy document
  requireCandidate (decide (configured.Perm (mappingMembers expected.val)))
    "JSON mapping changed after proposal generation"
  requireCandidate (decide (configured.Perm (mappingMembers pythonMapping.val)))
    "Python and JSON mappings disagree before PREPARING"
  let pythonAfter ← replaceAssignment pythonBefore assignment assignmentName
    (mappingMembers proposed.val)
  let jsonAfter := configAfter policy document (mappingMembers proposed.val)
  let afterAssignment ← mappingAssignment ast pythonAfter assignmentName
  let afterMapping ← literalMapping afterAssignment.value
  requireCandidate (decide (afterMapping.val.Perm proposed.val))
    "patched Python mapping failed AST validation"
  let parsed ← py.jsonLoads (.other "JSONDecodeError") "" jsonAfter
  let parsedMapping ← getItem parsed (policy.configKey.getD "")
  requireCandidate (match parsedMapping with
      | .obj m => decide (m.Perm (mappingMembers proposed.val))
      | _ => false) "patched JSON mapping failed config validation"
  validateSchemaVariants policy proposed
  return (pythonAfter, jsonAfter)

def plan (ast : AstLibrary) (env : Surroundings) (session : RepositorySession)
    (proposal : AirflowMappingProposal) (policy : PolicyData) (wt : Worktree) :
    Result (TwoFiles × Dict String) := do
  bindTrustedPolicy py session policy proposal.binding
  validateIdentifiers py policy
  requireCleanCandidate py env session wt
  let (pythonPath, pythonBefore) ←
    checkedText py wt (← policy.path 0) proposal.expectedPythonSha256
  let (jsonPath, jsonBefore) ← checkedText py wt (← policy.path 1) proposal.expectedJsonSha256
  let pythonBytes ← readBytes wt pythonPath
  let jsonBytes ← readBytes wt jsonPath
  let (expected, proposed) ← proposedMapping proposal policy
  let (pythonAfter, jsonAfter) ←
    candidateTexts py ast policy expected proposed pythonBefore jsonBefore
  return (⟨⟨pythonPath, pythonBytes, pythonAfter⟩, ⟨jsonPath, jsonBytes, jsonAfter⟩⟩, proposed)

/-- One turn of the loop that puts the old bytes back, with the errors so far. -/
def restoreFile (env : Surroundings) (c : Candidate) (errors : List String) (wt : Worktree) :
    Result (List String) × Worktree :=
  match env.writeBytes wt c.target c.before with
  | (.ok _, wt) => (.ok errors, wt)
  | (.error e, wt) =>
    if e.cls = .osError then (.ok (errors ++ [s!"{c.target}: {e.msg}"]), wt) else (.error e, wt)

/-- The exception of a failed write, after both files were restored as far as possible. -/
def restoreBoth (env : Surroundings) (files : TwoFiles) (wt : Worktree) : Exn × Worktree :=
  match restoreFile env files.python [] wt with
  | (.error e, wt) => (e, wt)
  | (.ok errors, wt) =>
    match restoreFile env files.json errors wt with
    | (.error e, wt) => (e, wt)
    | (.ok [], wt) => (⟨.candidateRejected,
      "two-file Airflow write failed; both original byte sequences restored"⟩, wt)
    | (.ok errors, wt) => (⟨.candidateRejected, "two-file Airflow write failed and original bytes " ++
      "could not be fully restored: " ++ "; ".intercalate errors⟩, wt)

def writeBoth (a : AirflowMappingParticipant) (env : Surroundings) (policy : PolicyData)
    (files : TwoFiles) (wt : Worktree) : Result (List String) × Worktree :=
  let failed (wt : Worktree) : Result (List String) × Worktree :=
    let r := restoreBoth env files wt
    (.error r.1, r.2)
  match a.writeFile env wt files.python.target files.python.after.toUTF8 with
  | (.error _, wt) => failed wt
  | (.ok _, wt) =>
    match a.writeFile env wt files.json.target files.json.after.toUTF8 with
    | (.error _, wt) => failed wt
    | (.ok _, wt) =>
      match enforceAllowlist py env policy.allowedPaths true wt with
      | .error _ => failed wt
      | .ok changed => (.ok changed, wt)

def result (proposal : AirflowMappingProposal) (policy : PolicyData) (files : TwoFiles)
    (proposed : Dict String) (changed : List String) : PreparationResult where
  participantId := proposal.participantId
  state := .verified
  changedFiles := changed
  checks := ["expected_sha256_both_files", "python_ast_literal_mapping", "json_config_schema",
    "cross_file_consistency", "deterministic_mapping_policy", "path_allowlist",
    "expanded_schema_mapping", "contract_schema_mapping"]
  evidence := .obj [
    ("python_before_sha256", .str proposal.expectedPythonSha256),
    ("python_after_sha256", .str (py.sha256 files.python.after)),
    ("json_before_sha256", .str proposal.expectedJsonSha256),
    ("json_after_sha256", .str (py.sha256 files.json.after)),
    ("approved_mapping", .obj (mappingMembers proposed.val)),
    ("expanded_columns", texts policy.expandedColumns),
    ("contract_columns", texts policy.contractColumns),
    ("owners", texts policy.ownerUrns),
    ("execution_scope", .str executionScope)]

def prepare (a : AirflowMappingParticipant) (ast : AstLibrary) (env : Surroundings)
    (session : RepositorySession) (proposal : AirflowMappingProposal) (policy : PolicyData)
    (wt : Worktree) : Result PreparationResult × Worktree :=
  match plan py ast env session proposal policy wt with
  | .error e => (.error e, wt)
  | .ok (files, proposed) =>
    match a.writeBoth py env policy files wt with
    | (.error e, wt) => (.error e, wt)
    | (.ok changed, wt) => (.ok (result py proposal policy files proposed changed), wt)

/-- The effect that the trusted policy has on the worktree: the mapping that both
files hold, renamed. -/
def effect (a : AirflowMappingParticipant) (ast : AstLibrary) (policy : PolicyData)
    (wt : Worktree) : Result Worktree := do
  let (pythonPath, pythonBefore) ← trustedText py wt (← policy.path 0)
  let (jsonPath, jsonBefore) ← trustedText py wt (← policy.path 1)
  let assignmentName := policy.assignmentName.getD ""
  let assignment ← mappingAssignment ast pythonBefore assignmentName
  let mapping ← literalMapping assignment.value
  let document ← py.jsonLoads .candidateRejected "mapping config is invalid JSON: " jsonBefore
  let members := mappingMembers (mapping.val.map (renamePair policy))
  let pythonAfter ← replaceAssignment pythonBefore assignment assignmentName members
  return a.written (a.written wt pythonPath pythonAfter.toUTF8) jsonPath
    (configAfter policy document members).toUTF8

variable {py} {policy : PolicyData}

theorem addRenamed_foldlM {l : List (String × String)} {d after : Dict String}
    (h : l.foldlM (addRenamed policy) d = .ok after) :
    after.val = d.val ++ l.map (renamePair policy) := by
  induction l generalizing d with
  | nil =>
    obtain ⟨⟩ := h
    simp
  | cons e l ih =>
    simp only [List.foldlM_cons, bind_eq_ok, addRenamed, requireCandidate, require_eq_ok,
      Bool.not_eq_true'] at h
    obtain ⟨mid, ⟨_, hnew, ⟨⟩⟩, h⟩ := h
    have hnot : renamed policy e.1 ∉ d.keys := by
      intro hmem
      rw [List.contains_iff_mem.mpr hmem] at hnew
      cases hnew
    rw [ih h, Dict.val_set_of_notMem _ hnot]
    simp [renamePair]

/-- Without a collision the rename keeps the pairs in their places. -/
theorem renameMapping_eq_ok {before after : Dict String}
    (h : renameMapping policy before = .ok after) :
    after.val = before.val.map (renamePair policy) := by
  obtain ⟨_, -, h⟩ := bind_eq_ok.mp h
  simpa [Dict.empty] using addRenamed_foldlM h

theorem proposedMapping_eq_ok {proposal : AirflowMappingProposal} {expected proposed : Dict String}
    (h : proposedMapping proposal policy = .ok (expected, proposed)) :
    proposed.val.Perm (expected.val.map (renamePair policy)) := by
  simp only [proposedMapping, requireCandidate, bind_eq_ok, require_eq_ok,
    decide_eq_true_eq] at h
  obtain ⟨_, -, derived, hderived, _, hperm, ⟨⟩⟩ := h
  rwa [renameMapping_eq_ok hderived] at hperm

/-- What an accepted pair of texts is made from. -/
theorem candidateTexts_eq_ok {ast : AstLibrary} {expected proposed : Dict String}
    {pythonBefore jsonBefore pythonAfter jsonAfter : String}
    (h : candidateTexts py ast policy expected proposed pythonBefore jsonBefore =
      .ok (pythonAfter, jsonAfter)) : ∃ assignment mapping document,
    mappingAssignment ast pythonBefore (policy.assignmentName.getD "") = .ok assignment ∧
    literalMapping assignment.value = .ok mapping ∧ mapping.val.Perm expected.val ∧
    py.jsonLoads .candidateRejected "mapping config is invalid JSON: " jsonBefore = .ok document ∧
    replaceAssignment pythonBefore assignment (policy.assignmentName.getD "")
      (mappingMembers proposed.val) = .ok pythonAfter ∧
    jsonAfter = configAfter policy document (mappingMembers proposed.val) := by
  simp only [candidateTexts, requireCandidate, bind_eq_ok, require_eq_ok, decide_eq_true_eq] at h
  obtain ⟨assignment, hassign, mapping, hmapping, _, hperm, document, hdoc, _, -, _, -, _, -, _,
    hpython, _, -, _, -, _, -, _, -, _, -, _, -, _, -, ⟨⟩⟩ := h
  exact ⟨assignment, mapping, document, hassign, hmapping, hperm, hdoc, hpython, rfl⟩

/-- Sorted output does not remember the order of a mapping. -/
theorem sortKeys_members {pairs pairs' : List (String × String)} (h : pairs.Perm pairs')
    (hn : (pairs.map Prod.fst).Nodup) : Json.sortKeys (.obj (mappingMembers pairs)) =
      Json.sortKeys (.obj (mappingMembers pairs')) :=
  Json.sortKeys_obj_perm (h.map _) (by simpa [mappingMembers, Function.comp_def] using hn)

theorem writeBoth_eq_ok {a : AirflowMappingParticipant} {env : Surroundings} {files : TwoFiles}
    {wt wt' : Worktree} {changed : List String}
    (h : a.writeBoth py env policy files wt = (.ok changed, wt')) :
    wt' = a.written (a.written wt files.python.target files.python.after.toUTF8)
      files.json.target files.json.after.toUTF8 := by
  unfold writeBoth at h
  split at h
  · cases h
  · next hpython =>
    split at h
    · cases h
    · next hjson =>
      split at h
      · cases h
      · obtain ⟨-, rfl⟩ := Prod.mk.inj h
        rw [writeFile_eq_ok hjson, writeFile_eq_ok hpython]

/-- An accepted proposal has the effect of the policy. -/
theorem prepare_effect {a : AirflowMappingParticipant} {ast : AstLibrary} {env : Surroundings}
    {session : RepositorySession} {proposal : AirflowMappingProposal} {wt wt' : Worktree}
    {r : PreparationResult} (h : a.prepare py ast env session proposal policy wt = (.ok r, wt')) :
    policy.kind = .airflowMapping ∧ a.effect py ast policy wt = .ok wt' := by
  unfold prepare at h
  split at h
  · cases h
  next files proposed hplan =>
  split at h
  · cases h
  next changed wt₁ hwrite =>
  obtain ⟨-, rfl⟩ := Prod.mk.inj h
  simp only [plan, bind_eq_ok] at hplan
  obtain ⟨_, hbind, _, -, _, -, path₀, hpath₀, ⟨target₀, before₀⟩, htext₀, path₁, hpath₁,
    ⟨target₁, before₁⟩, htext₁, bytes₀, -, bytes₁, -, ⟨expected, proposed⟩, hproposed,
    ⟨after₀, after₁⟩, hafter, ⟨⟩⟩ := hplan
  obtain ⟨assignment, mapping, document, hassign, hmapping, hperm, hdoc, hpython, rfl⟩ :=
    candidateTexts_eq_ok hafter
  have hsame := sortKeys_members
    ((proposedMapping_eq_ok hproposed).trans (hperm.symm.map (renamePair policy))) proposed.property
  have hsource : replaceAssignment before₀ assignment (policy.assignmentName.getD "")
      (mappingMembers (mapping.val.map (renamePair policy))) = .ok after₀ := by
    rw [← hpython]
    simp only [replaceAssignment, Json.dumps, hsame]
  have hconfig : configAfter policy document (mappingMembers proposed.val) =
      configAfter policy document (mappingMembers (mapping.val.map (renamePair policy))) := by
    simp only [configAfter, configText, Json.dumps, Json.sortKeys_set hsame]
  refine ⟨(bindTrustedPolicy_kind py hbind).symm, ?_⟩
  rw [writeBoth_eq_ok hwrite, hconfig]
  simp only [effect, bind_eq_ok]
  exact ⟨path₀, hpath₀, _, checkedText_eq_ok py htext₀, path₁, hpath₁, _,
    checkedText_eq_ok py htext₁, assignment, hassign, mapping, hmapping, document, hdoc, after₀,
    hsource, rfl⟩

end AirflowMappingParticipant
end LineageTX
