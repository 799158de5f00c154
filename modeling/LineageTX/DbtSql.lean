import LineageTX.Adapters

/-! The dbt adapter: one column renamed in one bounded SELECT. SQLGlot and DuckDB are
oracles, for the tree of a text and for the success of statements. -/
namespace LineageTX
open Library
variable (py : Python)

structure SqlTable where
  identifier : Bool
  name : String
  catalog : String
  db : String

/-- What the adapter looks at in a SQLGlot tree. -/
structure SqlStatement where
  isSelect : Bool
  selects : Nat
  tables : List SqlTable
  joins : Nat
  functions : List String
  columns : List String

structure SqlLibrary where
  parse : String → String → Result (List (Option SqlStatement))
  execute : List String → Result Unit

structure DbtSqlProposal where
  migrationId : String
  participantId : String
  relativePath : String
  expectedSha256 : String
  oldField : String
  newField : String
  expectedOccurrences : Int
  relation : String
  expandedColumns : List String
  contractColumns : List String
  repository : String
  ownerUrns : List String
  dialect : String := "duckdb"

def DbtSqlProposal.binding (p : DbtSqlProposal) : ProposalBinding where
  kind := .dbtSql
  migrationId := p.migrationId
  participantId := p.participantId
  repository := p.repository
  paths := [p.relativePath]
  oldField := p.oldField
  newField := p.newField
  expandedColumns := p.expandedColumns
  contractColumns := p.contractColumns
  ownerUrns := p.ownerUrns
  relation := some p.relation
  dialect := some p.dialect

namespace DbtSqlParticipant

def validateIdentifiers (policy : PolicyData) : Result Unit :=
  [policy.oldField, policy.newField, policy.relation.getD ""].forM fun identifier =>
    requireCandidate (isWordText identifier)
      ("unsupported SQL identifier: " ++ py.reprStr identifier)

def externalPrefixes : List String := ["read_", "scan_", "http_", "glob", "parquet_", "csv_",
  "json_", "sqlite_", "postgres_", "mysql_"]

def externalFunctionNames : List String := ["getenv", "load_extension", "query", "query_table",
  "readfile", "shell", "writefile"]

def externalFunction (function : String) : Bool :=
  let name := function.toLower
  externalFunctionNames.contains name || externalPrefixes.any (startsWith name) ||
    ["_scan", "_read"].any (endsWith name)

def parseStatements (lib : SqlLibrary) (sql dialect : String) : Result (List SqlStatement) :=
  match lib.parse sql dialect with
  | .ok statements => .ok (statements.filterMap id)
  | .error e =>
    if e.cls = .other "ParseError" then
      rejectCandidate s!"SQLGlot rejected the proposed SQL: {e.msg}"
    else .error e

def checkSelect (tree : SqlStatement) (relation : String) : Result SqlStatement := do
  requireCandidate (tree.selects = 1) "nested SELECTs and CTEs are outside the bounded adapter"
  match tree.tables with
  | [table] => do
    requireCandidate (table.identifier && table.name = relation && table.catalog = "" &&
        table.db = "")
      "table functions, qualified relations, and non-policy relations are forbidden"
    requireCandidate (tree.joins = 0) "joins are outside the bounded trusted fixture adapter"
    tree.functions.forM fun function =>
      requireCandidate (!externalFunction function)
        s!"external-access SQL function is forbidden: {function.toLower}"
    return tree
  | _ => rejectCandidate "dbt adapter permits exactly one fixed input relation"

def singleBoundedSelect (lib : SqlLibrary) (sql dialect relation : String) :
    Result SqlStatement := do
  match ← parseStatements lib sql dialect with
  | [tree] => do
    requireCandidate tree.isSelect "dbt adapter permits exactly one SELECT statement"
    checkSelect tree relation
  | _ => rejectCandidate "dbt adapter permits exactly one SELECT statement"

/-- One pass of `identifier.subn`: `skip` characters belong to a match already
replaced, and the character before decides the look-behind. -/
def renameFrom (old new : List Char) : (skip : Nat) → (before : Option Char) → List Char →
    List Char × Nat
  | _, _, [] => ([], 0)
  | skip + 1, _, c :: cs => renameFrom old new skip (some c) cs
  | 0, before, c :: cs =>
    if !before.any isWord && old.isPrefixOf (c :: cs) &&
        !((c :: cs).drop old.length).head?.any isWord then
      let r := renameFrom old new (old.length - 1) (some c) cs
      (new ++ r.1, r.2 + 1)
    else
      let r := renameFrom old new 0 (some c) cs
      (c :: r.1, r.2)

/-- The text with the field renamed, and the number of replacements. -/
def renameIdentifier (policy : PolicyData) (text : String) : String × Nat :=
  let r := renameFrom policy.oldField.toList policy.newField.toList 0 none text.toList
  (String.ofList r.1, r.2)

def escapeQuotes (text : String) : String :=
  String.ofList (text.toList.flatMap fun c => if c = '"' then ['"', '"'] else [c])

def compileAgainstSchema (lib : SqlLibrary) (sql relation : String) (columns : List String)
    (schemaVariant : String) : Result Unit := do
  requireCandidate (columns ≠ []) s!"{schemaVariant} schema has no columns"
  let quotedColumns := ", ".intercalate (columns.map fun column =>
    "\"" ++ escapeQuotes column ++ "\" BIGINT")
  match lib.execute ["SET enable_external_access = false",
    "CREATE TABLE \"" ++ escapeQuotes relation ++ "\" (" ++ quotedColumns ++ ")",
    "EXPLAIN " ++ sql] with
  | .ok _ => return ()
  | .error e => rejectCandidate s!"{schemaVariant} schema validation failed for {relation}: {e.msg}"

/-- The checks before the write. -/
def plan (lib : SqlLibrary) (env : Surroundings) (session : RepositorySession)
    (proposal : DbtSqlProposal) (policy : PolicyData) (wt : Worktree) :
    Result (Candidate × Nat) := do
  bindTrustedPolicy py session policy proposal.binding
  validateIdentifiers py policy
  requireCleanCandidate py env session wt
  let (target, before) ← checkedText py wt (← policy.path 0) proposal.expectedSha256
  let dialect := policy.dialect.getD ""
  let relation := policy.relation.getD ""
  let beforeTree ← singleBoundedSelect lib before dialect relation
  let references := beforeTree.columns.count policy.oldField
  requireCandidate (0 < proposal.expectedOccurrences) "expected_occurrences must be positive"
  requireCandidate (references = proposal.expectedOccurrences)
    s!"SQL AST occurrence count changed after proposal generation: expected {proposal.expectedOccurrences}, got {references}"
  let (after, replacements) := renameIdentifier policy before
  requireCandidate (replacements = proposal.expectedOccurrences)
    "rename touched non-column text or missed an AST reference; refusing candidate"
  let afterTree ← singleBoundedSelect lib after dialect relation
  requireCandidate (!afterTree.columns.contains policy.oldField)
    "old field remains in the patched SQL AST"
  requireCandidate (proposal.expectedOccurrences ≤ afterTree.columns.count policy.newField)
    "replacement field is missing from the patched SQL AST"
  return (⟨target, ← readBytes wt target, after⟩, replacements)

/-- The checks after the write. -/
def validate (lib : SqlLibrary) (env : Surroundings) (policy : PolicyData) (after : String)
    (wt : Worktree) : Result (List String) := do
  let changed ← enforceAllowlist py env policy.allowedPaths true wt
  compileAgainstSchema lib after (policy.relation.getD "") policy.expandedColumns "expanded"
  compileAgainstSchema lib after (policy.relation.getD "") policy.contractColumns "contract"
  return changed

def result (proposal : DbtSqlProposal) (policy : PolicyData) (after : String) (replacements : Nat)
    (changed : List String) : PreparationResult where
  participantId := proposal.participantId
  state := .verified
  changedFiles := changed
  checks := ["expected_sha256", "sqlglot_ast", "column_occurrence_count", "path_allowlist",
    "expanded_schema_compile", "contract_schema_compile"]
  evidence := .obj [
    ("before_sha256", .str proposal.expectedSha256),
    ("after_sha256", .str (py.sha256 after)),
    ("old_field", .str policy.oldField),
    ("new_field", .str policy.newField),
    ("occurrences", .int replacements),
    ("expanded_columns", texts policy.expandedColumns),
    ("contract_columns", texts policy.contractColumns),
    ("owners", texts policy.ownerUrns),
    ("execution_scope", .str executionScope)]

def prepare (lib : SqlLibrary) (env : Surroundings) (session : RepositorySession)
    (proposal : DbtSqlProposal) (policy : PolicyData) (wt : Worktree) :
    Result PreparationResult × Worktree :=
  match plan py lib env session proposal policy wt with
  | .error e => (.error e, wt)
  | .ok (candidate, replacements) =>
    match candidate.apply env (validate py lib env policy candidate.after) wt with
    | (.error e, wt) => (.error e, wt)
    | (.ok changed, wt) => (.ok (result py proposal policy candidate.after replacements changed), wt)

/-- The effect that the trusted policy has on the worktree. -/
def effect (policy : PolicyData) (wt : Worktree) : Result Worktree := do
  let (target, before) ← trustedText py wt (← policy.path 0)
  return wt.write target (renameIdentifier policy before).1.toUTF8

variable {py}

/-- An accepted proposal has the effect of the policy. -/
theorem prepare_effect {lib : SqlLibrary} {env : Surroundings} {session : RepositorySession}
    {proposal : DbtSqlProposal} {policy : PolicyData} {wt wt' : Worktree} {r : PreparationResult}
    (h : prepare py lib env session proposal policy wt = (.ok r, wt')) :
    policy.kind = .dbtSql ∧ effect py policy wt = .ok wt' := by
  unfold prepare at h
  split at h
  · cases h
  · next candidate replacements hplan =>
    split at h
    · cases h
    · next changed wt₁ happly =>
      obtain ⟨-, rfl⟩ := Prod.mk.inj h
      simp only [plan, bind_eq_ok] at hplan
      obtain ⟨_, hbind, _, -, _, -, path, hpath, ⟨target, before⟩, htext, _, -, _, -, _, -, _, -, _, -,
        _, -, _, -, bytes, -, ⟨⟩⟩ := hplan
      refine ⟨(bindTrustedPolicy_kind py hbind).symm, ?_⟩
      rw [Candidate.apply_eq_ok happly, effect, bind_eq_ok]
      exact ⟨path, hpath, bind_eq_ok.mpr ⟨_, checkedText_eq_ok py htext, rfl⟩⟩

end DbtSqlParticipant
end LineageTX
