import LineageTX.DbtSql
import LineageTX.Library.Dict
import LineageTX.Library.Pattern
import LineageTX.Library.Recording

/-! The fix agent: it renames one schema-missing field of one SQL file, between a regression
test that is red before and green after. SQLGlot, the expansion of a replacement text and the
diff of two texts are parameters. -/
namespace LineageTX.FixAgent
open Library

structure SchemaField where
  name : String
  nativeType : String
  description : String := ""
  deriving DecidableEq

structure DataHubContext where
  sourceUrn : String
  targetUrn : String
  sourceFields : List SchemaField
  downstreamUrns : List String
  ownerUrns : List String
  qualitySignals : List String
  transport : String
  toolTraces : List Json := []
  sourceProperties : Dict String := .empty

structure Finding where
  findingId : String
  kind : String
  severity : String
  sourceUrn : String
  affectedEntityUrn : String
  repositoryFile : String
  missingField : String
  replacementField : String
  referenceCount : Nat
  ownerUrns : List String
  qualitySignals : List String
  rationale : String
  deriving DecidableEq

structure CommandResult where
  command : List String
  returncode : Int
  output : String
  deriving DecidableEq

structure RunResult where
  runId : String
  status : String
  finding : Finding
  context : DataHubContext
  patch : String
  regressionTest : String
  before : CommandResult
  after : CommandResult
  writeback : Json
  evidenceDir : String := ""

/-- The column names in the tree that SQLGlot reads of a text, which characters are one
letter to `re.IGNORECASE`, what a replacement text stands for at a match, and the diff. -/
structure Toolkit where
  columns : String → Result (List String)
  sameLetter : Char → Char → Bool
  expand : (matched template : String) → Result String
  unifiedDiff : (before after fromfile tofile : String) → String

/-- The calls of the agent: files, the three services it was given and the test runner. -/
inductive AgentCall where
  | newRunId
  | readText (path : String)
  | makeTests (path : String)
  | writeText (path text : String)
  | load (sourceUrn targetUrn : String)
  | regression (workspace : String)
  | writeVerified (entityUrn runId : String)
  | writeEvidence (result : RunResult)

abbrev AgentCall.Reply : AgentCall → Type
  | .newRunId | .readText _ => String
  | .makeTests _ | .writeText .. | .writeEvidence _ => Unit
  | .load .. => DataHubContext
  | .regression _ => CommandResult
  | .writeVerified .. => Json

abbrev AgentProg := Prog Exn AgentCall.Reply

def AgentCall.run (c : AgentCall) : AgentProg c.Reply := Prog.perform c

def contextRefusal : ExnClass := .other "ContextRefusal"
def noGroundedFix : ExnClass := .other "NoGroundedFix"
def unsafePatch : ExnClass := .other "UnsafePatch"
def runtimeError : ExnClass := .other "RuntimeError"

/-- `workspace / relative` -/
def underWorkspace (workspace relative : String) : String :=
  if isAbsolutePath relative then relative else workspace ++ "/" ++ relative

section Planner
variable (py : Python) (kit : Toolkit)

def fixedText (text : String) : Pattern Char := .literal kit.sameLetter text.toList

def quoteMark : Pattern Char := .optional (.one fun c => "`'\"".toList.contains c)

/-- The three ways to say that a field was renamed. -/
def renamePatterns (missingField : String) : List (Pattern Char) :=
  let spaces : Pattern Char := .many isSpace
  let field : Pattern Char := .seq quoteMark (.seq (fixedText kit missingField) quoteMark)
  [.seq (fixedText kit "renamed") (.seq spaces (.seq (fixedText kit "from") (.seq spaces field))),
    .seq (fixedText kit "replaces") (.seq spaces field),
    .seq (fixedText kit "previous") (.seq (.optional (fixedText kit "ly")) (.seq spaces field))]

/-- `_explicit_rename` -/
def explicitRename (fieldDescription missingField : String) : Bool :=
  (renamePatterns kit missingField).any (·.found fieldDescription.toList)

def contextFailures (context : DataHubContext) : List String :=
  (if context.transport = "" then ["missing DataHub transport provenance"] else []) ++
  (if context.toolTraces = [] then ["missing DataHub tool traces"] else []) ++
  (if context.sourceFields = [] then ["missing source schema"] else []) ++
  (if context.targetUrn ∉ context.downstreamUrns then
    ["target is not proven downstream by lineage"] else []) ++
  (if context.ownerUrns = [] then ["missing ownership context"] else [])

/-- `_validate_context` -/
def validateContext (context : DataHubContext) : Result Unit :=
  require (contextFailures context = []) contextRefusal ("; ".intercalate (contextFailures context))

/-- The names that the schema does not have. -/
def missingFields (context : DataHubContext) (columns : List String) : List String :=
  sortedSet (columns.filter fun name => !(context.sourceFields.map (·.name)).contains name)

/-- The fields that the rename hint of the source names. -/
def hintedFields (context : DataHubContext) (missingField : String) : List SchemaField :=
  match context.sourceProperties.get? ("rename_hint." ++ missingField) with
  | some hint => if hint = "" then [] else context.sourceFields.filter (·.name = hint)
  | none => []

/-- The names of the fields that are documented as the new name of the missing one. -/
def renameTargets (context : DataHubContext) (missingField : String) : List String :=
  let candidates := context.sourceFields.filter fun field =>
    explicitRename kit field.description missingField
  ((candidates ++ hintedFields context missingField).map (·.name)).dedup

def textList (items : List String) : String :=
  if items = [] then "none" else "[" ++ ", ".intercalate (items.map py.reprStr) ++ "]"

def findingOf (context : DataHubContext) (relative missingField replacement : String) (count : Nat) :
    Finding where
  findingId := "DLFA-SCHEMA-001"
  kind := "downstream-schema-drift"
  severity := "high"
  sourceUrn := context.sourceUrn
  affectedEntityUrn := context.targetUrn
  repositoryFile := relative
  missingField
  replacementField := replacement
  referenceCount := count
  ownerUrns := context.ownerUrns
  qualitySignals := context.qualitySignals
  rationale := "DataHub schema no longer contains '" ++ missingField ++ "', field '" ++ replacement ++
    "' explicitly documents the rename, and DataHub " ++
    "lineage identifies the mapped repository asset as downstream."

/-- What `analyze` makes of the columns that the file has. -/
def plan (context : DataHubContext) (relative : String) (columns : List String) : Result Finding :=
  match missingFields context columns with
  | [missingField] =>
    match renameTargets kit context missingField with
    | [replacement] =>
      .ok (findingOf context relative missingField replacement (columns.count missingField))
    | _ => raise noGroundedFix
      "DataHub did not provide one explicit rename target; refusing to guess"
  | missing => raise noGroundedFix
    ("Expected exactly one schema-missing field, found " ++ textList py missing)

def analyze (context : DataHubContext) (sqlPath relative : String) : AgentProg Finding := do
  validateContext context
  let sql ← (AgentCall.readText sqlPath).run
  let columns ← kit.columns sql
  plan py kit context relative columns

end Planner

section Pipeline
variable (kit : Toolkit)

def regressionPath (workspace : String) : String :=
  workspace ++ "/tests/test_datahub_schema_contract.py"

/-- The text of the generated test. -/
def regressionBody (finding : Finding) (table : String) : String := "\n".intercalate [
  "# Generated by DataLineage Fix Agent.",
  "# DataHub source: " ++ finding.sourceUrn,
  "# DataHub downstream: " ++ finding.affectedEntityUrn,
  "import sqlite3",
  "import unittest",
  "from pathlib import Path",
  "",
  "",
  "class DataHubSchemaContractRegression(unittest.TestCase):",
  "    def test_customer_revenue_query_matches_datahub_schema(self):",
  "        connection = sqlite3.connect(\":memory:\")",
  "        connection.execute(",
  "            \"CREATE TABLE " ++ table ++ " (\"",
  "            \"order_id INTEGER, " ++ finding.replacementField ++ " INTEGER, \"",
  "            \"total_amount REAL, order_ts TEXT)\"",
  "        )",
  "        connection.executemany(",
  "            \"INSERT INTO " ++ table ++ " VALUES (?, ?, ?, ?)\",",
  "            [",
  "                (1, 101, 12.5, \"2026-07-14T10:00:00Z\"),",
  "                (2, 101, 7.0, \"2026-07-15T10:00:00Z\"),",
  "                (3, 202, 5.0, \"2026-07-15T11:00:00Z\"),",
  "            ],",
  "        )",
  "        query = (Path(__file__).parents[1] / \"pipeline/customer_revenue.sql\").read_text()",
  "        rows = connection.execute(query).fetchall()",
  "        self.assertEqual(rows, [(101, 19.5), (202, 5.0)])",
  "",
  "",
  "if __name__ == \"__main__\":",
  "    unittest.main()",
  ""]

def buildRegressionTest (workspace : String) (finding : Finding) (table : String) : AgentProg String := do
  (AgentCall.makeTests (workspace ++ "/tests")).run
  (AgentCall.writeText (regressionPath workspace) (regressionBody finding table)).run
  return regressionPath workspace

/-- The pass of an empty pattern: it matches between two characters of no identifier. -/
def insertBetween (new : List Char) : (before : Option Char) → List Char → List Char × Nat
  | before, [] => if before.any isWord then ([], 0) else (new, 1)
  | before, c :: cs =>
    let r := insertBetween new (some c) cs
    if !before.any isWord && !isWord c then (new ++ c :: r.1, r.2 + 1) else (c :: r.1, r.2)

/-- The text with the field replaced where no character of an identifier touches it. -/
def substituted (old new text : List Char) : List Char × Nat :=
  if old = [] then insertBetween new none text else DbtSqlParticipant.renameFrom old new 0 none text

/-- `pattern.subn` -/
def patched (finding : Finding) (before : String) : Result (String × Nat) := do
  let replacement ← kit.expand finding.missingField finding.replacementField
  let (after, replacements) := substituted finding.missingField.toList replacement.toList before.toList
  return (String.ofList after, replacements)

/-- The patch of a text, with the checks before it is written. -/
def safePatch (finding : Finding) (before : String) : Result String := do
  let references := (← kit.columns before).count finding.missingField
  require (references = finding.referenceCount && references ≠ 0) unsafePatch
    "SQL references changed after planning; refusing a stale patch"
  let (after, replacements) ← patched kit finding before
  require (replacements = finding.referenceCount) unsafePatch
    ("Expected " ++ finding.referenceCount.repr ++ " identifier replacements, got " ++ replacements.repr)
  require (!(← kit.columns after).contains finding.missingField) unsafePatch
    "Old field remains after patch"
  return after

def applyMinimalIdentifierPatch (sqlPath : String) (finding : Finding) : AgentProg String := do
  let before ← (AgentCall.readText sqlPath).run
  let after ← safePatch kit finding before
  (AgentCall.writeText sqlPath after).run
  return kit.unifiedDiff before after ("a/" ++ finding.repositoryFile) ("b/" ++ finding.repositoryFile)

end Pipeline

variable (py : Python) (kit : Toolkit)

/-- What was done to the file when the second regression runs. -/
structure Patched where
  runId : String
  original : String
  context : DataHubContext
  finding : Finding
  regressionTest : String
  before : CommandResult
  patch : String

/-- `run` up to the written patch. -/
def patchOnRed (workspace sourceUrn targetUrn relative table : String) : AgentProg Patched := do
  let runId ← AgentCall.newRunId.run
  let sqlPath := underWorkspace workspace relative
  let original ← (AgentCall.readText sqlPath).run
  let context ← (AgentCall.load sourceUrn targetUrn).run
  let finding ← analyze py kit context sqlPath relative
  let regressionPath ← buildRegressionTest workspace finding table
  let regressionTest ← (AgentCall.readText regressionPath).run
  let before ← (AgentCall.regression workspace).run
  require (before.returncode ≠ 0) runtimeError "Regression test was not red before the patch"
  let patch ← applyMinimalIdentifierPatch kit sqlPath finding
  return { runId, original, context, finding, regressionTest, before, patch }

/-- `run` from the second regression on. -/
def finishOnGreen (workspace targetUrn relative : String) (p : Patched) : AgentProg RunResult := do
  let after ← (AgentCall.regression workspace).run
  Prog.onlyWhen (after.returncode ≠ 0) do
    (AgentCall.writeText (underWorkspace workspace relative) p.original).run
    (raise runtimeError "Patch failed the generated regression; source was restored" : Result Unit)
  let writeback ← (AgentCall.writeVerified targetUrn p.runId).run
  let result : RunResult := {
    runId := p.runId, status := "verified-fixed", finding := p.finding, context := p.context
    patch := p.patch, regressionTest := p.regressionTest, before := p.before, after, writeback }
  (AgentCall.writeEvidence result).run
  return result

def run (workspace sourceUrn targetUrn relative table : String) : AgentProg RunResult := do
  let p ← patchOnRed py kit workspace sourceUrn targetUrn relative table
  finishOnGreen workspace targetUrn relative p

end LineageTX.FixAgent
