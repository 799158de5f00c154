import LineageTX.DbtSql
import LineageTX.AirflowMapping
import LineageTX.SemanticApproval

/-! Candidate non-interference: what an accepted proposal writes is the effect of the
trusted policy on the isolated files, whatever the proposal says. -/
namespace LineageTX
open Library
variable (py : Python)

inductive CandidateProposal where
  | dbtSql (p : DbtSqlProposal)
  | airflowMapping (p : AirflowMappingProposal)
  | semanticMapping (p : SemanticMappingProposal)

/-- The adapters of a coordinator and the libraries behind them. -/
structure AdapterSet where
  airflow : AirflowMappingParticipant
  ast : AstLibrary
  sql : SqlLibrary

/-- The adapter of a proposal. -/
def runAdapter (a : AdapterSet) (env : Surroundings) (session : RepositorySession)
    (proposal : CandidateProposal) (policy : PolicyData) (approval : Option OwnerApproval)
    (wt : Worktree) : Result PreparationResult × Worktree :=
  match proposal with
  | .dbtSql p => DbtSqlParticipant.prepare py a.sql env session p policy wt
  | .airflowMapping p => a.airflow.prepare py a.ast env session p policy wt
  | .semanticMapping p => SemanticApprovalParticipant.prepare py env session p policy approval wt

/-- What a policy does to a worktree once one of its proposals is accepted. -/
def PolicyData.effect (a : AdapterSet) (policy : PolicyData) (wt : Worktree) : Result Worktree :=
  match policy.kind with
  | .dbtSql => DbtSqlParticipant.effect py policy wt
  | .airflowMapping => a.airflow.effect py a.ast policy wt
  | .semanticApproval => SemanticApprovalParticipant.effect py policy wt

variable {py}

theorem runAdapter_effect {a : AdapterSet} {env : Surroundings} {session : RepositorySession}
    {proposal : CandidateProposal} {policy : PolicyData} {approval : Option OwnerApproval}
    {wt wt' : Worktree} {r : PreparationResult}
    (h : runAdapter py a env session proposal policy approval wt = (.ok r, wt'))
    (hr : r.state = .verified) : policy.effect py a wt = .ok wt' := by
  unfold PolicyData.effect
  cases proposal with
  | dbtSql p =>
    obtain ⟨hkind, heffect⟩ := DbtSqlParticipant.prepare_effect h
    rw [hkind]
    exact heffect
  | airflowMapping p =>
    obtain ⟨hkind, heffect⟩ := AirflowMappingParticipant.prepare_effect h
    rw [hkind]
    exact heffect
  | semanticMapping p =>
    obtain ⟨hkind, heffect⟩ := SemanticApprovalParticipant.prepare_effect h hr
    rw [hkind]
    exact heffect

/-- Two accepted proposals leave the same bytes in every file, even if Git and the
SQL libraries answered differently in the two runs. -/
theorem accepted_effects_agree (py : Python) (a : AdapterSet) (sql₁ sql₂ : SqlLibrary)
    (env₁ env₂ : Surroundings) (session : RepositorySession) (p₁ p₂ : CandidateProposal)
    (policy : PolicyData) (approval : Option OwnerApproval) (wt wt₁ wt₂ : Worktree)
    (r₁ r₂ : PreparationResult)
    (h₁ : runAdapter py { a with sql := sql₁ } env₁ session p₁ policy approval wt = (.ok r₁, wt₁))
    (hr₁ : r₁.state = .verified)
    (h₂ : runAdapter py { a with sql := sql₂ } env₂ session p₂ policy approval wt = (.ok r₂, wt₂))
    (hr₂ : r₂.state = .verified) : wt₁ = wt₂ := by
  have heffect : policy.effect py { a with sql := sql₁ } wt =
      policy.effect py { a with sql := sql₂ } wt := rfl
  rw [runAdapter_effect h₁ hr₁, runAdapter_effect h₂ hr₂] at heffect
  exact Except.ok.inj heffect

def sampleMapping : String := "FIELD_MAPPING = \x7b\"order\": \"total\", \"cust_id\": \"cust_id\"\x7d"

/-- A worktree with the two files of an Airflow consumer. -/
def sampleWorktree : Worktree where
  resolve := some
  file path :=
    if path = "dag.py" then some sampleMapping.toUTF8
    else if path = "map.json" then
      some
        "\x7b\"field_mapping\": \x7b\"cust_id\": \"cust_id\", \"order\": \"total\"\x7d\x7d".toUTF8
    else none

def sampleAdapters : AdapterSet where
  airflow := {}
  ast source :=
    if source = sampleMapping then
      .ok [⟨["FIELD_MAPPING"], .ok (.mapping (dictOf [("order", "total"), ("cust_id", "cust_id")])),
        1, 0, some 1, some 56⟩]
    else
      .ok [⟨["FIELD_MAPPING"],
        .ok (.mapping (dictOf [("customer_id", "customer_id"), ("order", "total")])),
        1, 0, some 4, some 1⟩]
  sql := ⟨fun _ _ => .ok [], fun _ => .ok ()⟩

def sampleSurroundings : Surroundings where
  statusPaths wt :=
    .ok (if wt.file "dag.py" = some sampleMapping.toUTF8 then [] else ["dag.py", "map.json"])
  headAndBranch _ := .ok ("base", "lineagetx/m/p")
  fault _ _ := none

def sampleAirflowPolicy : PolicyData where
  migrationId := "m"
  participantId := "p"
  kind := .airflowMapping
  repository := "data/flows"
  allowedPaths := ["dag.py", "map.json"]
  oldField := "cust_id"
  newField := "customer_id"
  expandedColumns := ["cust_id", "customer_id", "order", "total"]
  contractColumns := ["customer_id", "order", "total"]
  ownerUrns := ["urn:li:corpuser:o"]
  assetUrn := "urn:li:dataset:b"
  sourceAssetUrn := "urn:li:dataset:orders"
  intentSha256 := ChangeIntent.sample.intentSha256
  assignmentName := some "FIELD_MAPPING"
  configKey := some "field_mapping"

def sampleSession : RepositorySession :=
  ⟨"data/flows", "p", "m", "/base", "/worktrees/m/p", "lineagetx/m/p", "base", ""⟩

/-- A proposal for the sample files that lists the two mappings in the given orders. -/
def sampleProposal (expected proposed : List (String × String)) : CandidateProposal :=
  .airflowMapping {
    migrationId := "m", participantId := "p", pythonRelativePath := "dag.py"
    jsonRelativePath := "./map.json"
    expectedPythonSha256 := ChangeIntent.sample.intentSha256
    expectedJsonSha256 := ChangeIntent.sample.intentSha256
    oldField := "cust_id", newField := "customer_id"
    expectedMapping := expected, proposedMapping := proposed
    expandedColumns := sampleAirflowPolicy.expandedColumns
    contractColumns := sampleAirflowPolicy.contractColumns
    repository := "data/flows", ownerUrns := ["urn:li:corpuser:o"] }

theorem exists_verified {x : Result PreparationResult × Worktree}
    (h : x.1.map PreparationResult.state = .ok .verified) :
    ∃ r wt, x = (.ok r, wt) ∧ r.state = .verified := by
  obtain ⟨x, wt⟩ := x
  cases x with
  | error e => cases h
  | ok r => exact ⟨r, wt, rfl, Except.ok.inj h⟩

/-- Two proposals that list the mapping in different orders. -/
theorem sampleProposals_agree : ∃ r₁ r₂ wt₁ wt₂,
    runAdapter samplePython sampleAdapters sampleSurroundings sampleSession
      (sampleProposal [("order", "total"), ("cust_id", "cust_id")]
        [("order", "total"), ("customer_id", "customer_id")])
      sampleAirflowPolicy none sampleWorktree = (.ok r₁, wt₁) ∧
    runAdapter samplePython sampleAdapters sampleSurroundings sampleSession
      (sampleProposal [("cust_id", "cust_id"), ("order", "total")]
        [("order", "total"), ("customer_id", "customer_id")])
      sampleAirflowPolicy none sampleWorktree = (.ok r₂, wt₂) ∧ wt₁ = wt₂ := by
  obtain ⟨r₁, wt₁, h₁, hr₁⟩ := exists_verified (show (runAdapter samplePython sampleAdapters
    sampleSurroundings sampleSession (sampleProposal [("order", "total"), ("cust_id", "cust_id")]
      [("order", "total"), ("customer_id", "customer_id")]) sampleAirflowPolicy none
    sampleWorktree).1.map PreparationResult.state = .ok .verified by decide +kernel)
  obtain ⟨r₂, wt₂, h₂, hr₂⟩ := exists_verified (show (runAdapter samplePython sampleAdapters
    sampleSurroundings sampleSession (sampleProposal [("cust_id", "cust_id"), ("order", "total")]
      [("order", "total"), ("customer_id", "customer_id")]) sampleAirflowPolicy none
    sampleWorktree).1.map PreparationResult.state = .ok .verified by decide +kernel)
  exact ⟨r₁, r₂, wt₁, wt₂, h₁, h₂, accepted_effects_agree samplePython sampleAdapters
    sampleAdapters.sql sampleAdapters.sql _ _ _ _ _ _ _ _ _ _ r₁ r₂ h₁ hr₁ h₂ hr₂⟩

end LineageTX
