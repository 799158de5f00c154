import LineageTX.DeterministicModel

/-! What the reference proposer returns, against the two checks that bind it: the structured
candidate of the request, and the trusted policy that the coordinator derives from it. -/
namespace LineageTX
open Library
variable (py : Python)

/-- A request that its constructor accepts, made from a session of the same migration and
repository, for a participant with normalized paths. -/
structure ProposalRequest.MadeFrom (request : ProposalRequest) (session : RepositorySession) :
    Prop where
  checked : request.postInit py = .ok request
  normal : ∀ path ∈ request.participant.files, IsNormalPath path
  migrationId : session.migrationId = request.intent.migrationId
  repository : session.repoId = request.participant.repository

/-- The fields that a binding of any kind copies from its request. -/
structure ProposalBinding.Copies (b : ProposalBinding) (request : ProposalRequest) : Prop where
  kind : b.kind = request.participant.kind
  migrationId : b.migrationId = request.intent.migrationId
  participantId : b.participantId = request.participant.participantId
  repository : b.repository = request.participant.repository
  oldField : b.oldField = request.intent.oldField
  newField : b.newField = request.intent.newField
  expandedColumns : b.expandedColumns = request.expandedColumns
  contractColumns : b.contractColumns = request.contractColumns
  ownerUrns : b.ownerUrns = request.participant.ownerUrns

variable {py} {sql : SqlLibrary} {request : ProposalRequest} {session : RepositorySession}

section Paths
variable {paths : List String} {cls : ExnClass} {what : String}

theorem mapM_normal (h : ∀ path ∈ paths, IsNormalPath path) :
    paths.mapM (safeRelativePath py cls what) = .ok paths := by
  induction paths with
  | nil => rfl
  | cons path paths ih =>
    rw [List.mapM_cons, safeRelativePath_of_normal (h path (by simp)),
      ih fun p hp => h p (by simp [hp])]
    rfl

theorem sameSet_iff {xs ys : List String} :
    ContextData.sameSet xs ys = true ↔ ∀ x, x ∈ xs ↔ x ∈ ys := by
  simp only [ContextData.sameSet, Bool.and_eq_true, List.all_eq_true, List.contains_iff_mem]
  exact ⟨fun h x => ⟨h.1 x, h.2 x⟩, fun h => ⟨fun x => (h x).mp, fun x => (h x).mpr⟩⟩

theorem sameSet_of_perm {xs ys : List String} (h : xs.Perm ys) : ContextData.sameSet xs ys = true :=
  sameSet_iff.mpr fun _ => h.mem_iff

/-- A path has one of the two endings only. -/
theorem not_endsWith_both {path : String} (hpython : endsWith path ".py" = true)
    (hjson : endsWith path ".json" = true) : False := by
  have hpy := List.isSuffixOf_iff_suffix.mp hpython
  have hjs := List.isSuffixOf_iff_suffix.mp hjson
  have hshort := List.suffix_of_suffix_length_le hpy hjs (by decide)
  revert hshort
  decide

end Paths

section Dictionaries
variable {xs ys : List (String × String)}

theorem dictOf_val (h : (xs.map Prod.fst).Nodup) : (dictOf xs).val = xs := by
  have hloop : ∀ (pairs : List (String × String)) (d : Dict String),
      ((d.val ++ pairs).map Prod.fst).Nodup →
      (pairs.foldl (fun d e => d.set e.1 e.2) d).val = d.val ++ pairs := by
    intro pairs
    induction pairs with
    | nil => simp
    | cons e pairs ih =>
      intro d hd
      have hnew : e.1 ∉ d.keys := by
        rw [List.map_append, List.nodup_append] at hd
        exact fun hmem => hd.2.2 _ hmem _ (by simp) rfl
      have hval := Dict.val_set_of_notMem e.2 hnew
      rw [List.foldl_cons, ih _ (by rw [hval]; simpa using hd), hval, List.append_assoc]
      rfl
  exact hloop xs Dict.empty (by simpa [Dict.empty] using h)

theorem sameDict_of_perm (h : xs.Perm ys) (hn : (xs.map Prod.fst).Nodup) :
    sameDict xs ys = true := by
  have hn' := (h.map Prod.fst).nodup_iff.mp hn
  simp only [sameDict, Bool.and_eq_true, List.all_eq_true, decide_eq_true_eq, Dict.keys, Dict.get?,
    dictOf_val hn, dictOf_val hn']
  exact ⟨sameSet_of_perm (h.map Prod.fst), fun key _ => Json.lookup_perm h hn key⟩

end Dictionaries

section Policies
variable {policy : PolicyData} {b : ProposalBinding}

/-- The binding of a proposal is checked field by field. -/
theorem bindTrustedPolicy_eq_ok : bindTrustedPolicy py session policy b = .ok () ↔
    ∃ paths, b.paths.mapM (safeRelativePath py .candidateRejected "repository") = .ok paths ∧
      (session.migrationId = policy.migrationId ∧ session.repoId = policy.repository) ∧
      (b.migrationId = policy.migrationId ∧ b.participantId = policy.participantId ∧
        b.repository = policy.repository ∧ b.kind = policy.kind) ∧
      paths = policy.allowedPaths ∧
      (b.oldField = policy.oldField ∧ b.newField = policy.newField ∧
        b.expandedColumns = policy.expandedColumns ∧ b.contractColumns = policy.contractColumns ∧
        b.ownerUrns = policy.ownerUrns) ∧
      b.relation = policy.relation ∧ b.dialect = policy.dialect ∧
      b.assignmentName = policy.assignmentName ∧ b.configKey = policy.configKey := by
  simp only [bindTrustedPolicy, requireCandidate, bind_eq_ok, require_eq_ok, decide_eq_true_eq,
    List.map_eq_nil_iff, List.filter_eq_nil_iff, List.forall_mem_cons, List.not_mem_nil,
    Bool.not_eq_true', Bool.not_eq_false, IsEmpty.forall_iff, implies_true, and_true]
  simp only [and_assoc]

theorem PolicyData.postInit_eq_ok {given d : PolicyData} (h : given.postInit py = .ok d) :
    ∃ paths, given.allowedPaths.mapM (safeRelativePath py .candidateRejected "repository") =
        .ok paths ∧ paths.Nodup ∧ d = { given with allowedPaths := paths } := by
  simp only [PolicyData.postInit, bind_eq_ok, require_eq_ok, Bool.and_eq_true,
    decide_eq_true_eq] at h
  obtain ⟨paths, hpaths, _, ⟨hnodup, -⟩, _, -, _, -, _, -, _, -, _, -, _, -, _, -, _, -, _, -, ⟨⟩⟩ := h
  exact ⟨paths, hpaths, hnodup, rfl⟩

theorem TrustedParticipantPolicy.create_eq_ok {given : PolicyData} {trusted : TrustedParticipantPolicy py}
    (h : TrustedParticipantPolicy.create py given = .ok trusted) : given.postInit py = .ok trusted.val := by
  unfold create at h
  split at h
  · next d hd =>
    cases h
    exact hd
  · cases h

end Policies

/-- The policy of a request, without the settings of its kind. -/
def ProposalRequest.policy (request : ProposalRequest) : PolicyData where
  migrationId := request.intent.migrationId
  participantId := request.participant.participantId
  kind := request.participant.kind
  repository := request.participant.repository
  allowedPaths := request.participant.files
  oldField := request.intent.oldField
  newField := request.intent.newField
  expandedColumns := request.expandedColumns
  contractColumns := request.contractColumns
  ownerUrns := request.participant.ownerUrns
  assetUrn := request.participant.assetUrn
  sourceAssetUrn := request.intent.sourceAssetUrn
  intentSha256 := request.intent.intentSha256

/-- The options of a kind change settings only. -/
theorem adapterOptions_paths {options : PolicyData → PolicyData}
    (h : adapterOptions sql request = .ok options) (d : PolicyData) :
    (options d).allowedPaths = d.allowedPaths := by
  unfold adapterOptions at h
  cases hkind : request.participant.kind with
  | dbtSql =>
    simp only [hkind, bind_eq_ok] at h
    obtain ⟨_, -, relations, -, h⟩ := h
    split at h
    · cases h
      rfl
    · cases h
  | airflowMapping =>
    rw [hkind] at h
    cases h
    rfl
  | semanticApproval =>
    rw [hkind] at h
    cases h
    rfl

/-- The policy that the coordinator derives from a request with normalized paths. -/
theorem trustedPolicy_eq_ok {trusted : TrustedParticipantPolicy py}
    (hnormal : ∀ path ∈ request.participant.files, IsNormalPath path)
    (h : trustedPolicy py sql request = .ok trusted) : ∃ options,
      adapterOptions sql request = .ok options ∧ trusted.val = options request.policy ∧
      request.participant.files.Nodup := by
  simp only [trustedPolicy, TrustedParticipantPolicy.fromRecords, bind_eq_ok] at h
  obtain ⟨options, hoptions, _, -, h⟩ := h
  obtain ⟨paths, hpaths, hnodup, heq⟩ :=
    PolicyData.postInit_eq_ok (TrustedParticipantPolicy.create_eq_ok h)
  rw [adapterOptions_paths hoptions] at hpaths
  obtain rfl : request.participant.files = paths :=
    Except.ok.inj ((mapM_normal hnormal).symm.trans hpaths)
  refine ⟨options, hoptions, ?_, hnodup⟩
  have hsame := adapterOptions_paths hoptions request.policy
  rw [heq]
  change { options request.policy with allowedPaths := request.policy.allowedPaths } = _
  rw [← hsame]

theorem sourceRelations_eq_ok {content failure failure' : String} {relations : List String}
    (h : sourceRelations sql content failure = .ok relations) :
    sourceRelations sql content failure' = .ok relations := by
  unfold sourceRelations at h ⊢
  split at h
  · exact h
  · split at h
    · cases h
    · cases h

namespace DeterministicCandidateModel

theorem onlyFile_eq_ok {suffix failure : String} {snapshot : FileSnapshot}
    (h : onlyFile request suffix failure = .ok snapshot) : request.files = [snapshot] := by
  unfold onlyFile at h
  split at h
  · next f hfiles =>
    simp only [bind_eq_ok] at h
    obtain ⟨_, -, ⟨⟩⟩ := h
    exact hfiles
  · cases h

theorem dbt_eq_ok {p : DbtSqlProposal} (hkind : request.participant.kind = .dbtSql)
    (h : dbt sql request = .ok p) : p.binding.Copies request ∧ p.dialect = "duckdb" ∧
      ∃ snapshot, request.files = [snapshot] ∧ p.relativePath = snapshot.relativePath ∧
        p.expectedSha256 = snapshot.sha256 ∧
        ∀ failure, sourceRelations sql snapshot.content failure = .ok [p.relation] := by
  simp only [dbt, requireProposal, bind_eq_ok, require_eq_ok, Bool.and_eq_true, decide_eq_true_eq] at h
  obtain ⟨snapshot, hfile, relations, hrelations, tree, -, _, ⟨-, hone⟩, ⟨⟩⟩ := h
  obtain ⟨relation, rfl⟩ := List.length_eq_one_iff.mp hone
  exact ⟨⟨hkind.symm, rfl, rfl, rfl, rfl, rfl, rfl, rfl, rfl⟩, rfl, snapshot, onlyFile_eq_ok hfile,
    rfl, rfl, fun failure => sourceRelations_eq_ok hrelations⟩

theorem semantic_eq_ok {p : SemanticMappingProposal}
    (hkind : request.participant.kind = .semanticApproval) (h : semantic py request = .ok p) :
    p.binding.Copies request ∧ request.participant.ownerUrns = [p.requiredOwnerUrn] ∧
      ∃ snapshot, request.files = [snapshot] ∧ p.relativePath = snapshot.relativePath ∧
        p.expectedSha256 = snapshot.sha256 := by
  simp only [semantic, bind_eq_ok] at h
  obtain ⟨snapshot, hfile, h⟩ := h
  split at h
  · next owner howner =>
    simp only [bind_eq_ok] at h
    obtain ⟨document, -, _, -, ⟨⟩⟩ := h
    exact ⟨⟨hkind.symm, rfl, rfl, rfl, rfl, rfl, rfl, rfl, rfl⟩, howner, snapshot,
      onlyFile_eq_ok hfile, rfl, rfl⟩
  · cases h

theorem airflow_eq_ok {p : AirflowMappingProposal}
    (hkind : request.participant.kind = .airflowMapping) (h : airflow py request = .ok p) :
    p.binding.Copies request ∧ (p.assignmentName = "FIELD_MAPPING" ∧ p.configKey = "field_mapping") ∧
      ∃ python json, request.files.length = 2 ∧
        request.files.filter (fun f => endsWith f.relativePath ".py") = [python] ∧
        request.files.filter (fun f => endsWith f.relativePath ".json") = [json] ∧
        (p.pythonRelativePath, p.expectedPythonSha256) = (python.relativePath, python.sha256) ∧
        (p.jsonRelativePath, p.expectedJsonSha256) = (json.relativePath, json.sha256) := by
  simp only [airflow, requireProposal, bind_eq_ok, require_eq_ok, decide_eq_true_eq] at h
  obtain ⟨_, htwo, h⟩ := h
  split at h
  · next python json hpython hjson =>
    simp only [bind_eq_ok] at h
    obtain ⟨document, -, h⟩ := h
    split at h
    · cases h
    · simp only [bind_eq_ok] at h
      obtain ⟨proposed, -, ⟨⟩⟩ := h
      exact ⟨⟨hkind.symm, rfl, rfl, rfl, rfl, rfl, rfl, rfl, rfl⟩, ⟨rfl, rfl⟩, python, json, htwo,
        hpython, hjson, rfl, rfl⟩
  · cases h

end DeterministicCandidateModel
section Bound
variable {envelope : CandidateEnvelope}

/-- The snapshots of a request are of the paths of its participant. -/
theorem ProposalRequest.MadeFrom.perm (h : request.MadeFrom py session)
    (hnodup : request.participant.files.Nodup) :
    (request.files.map (·.relativePath)).Perm request.participant.files := by
  have hchecked := h.checked
  simp only [postInit, mapM_normal h.normal, bind_eq_ok, require_eq_ok, decide_eq_true_eq] at hchecked
  obtain ⟨_, -, _, ⟨⟩, _, hdistinct, _, hsame, -⟩ := hchecked
  exact (List.perm_ext_iff_of_nodup hdistinct hnodup).mpr (sameSet_iff.mp hsame)

/-- A proposal with the fields, paths and digests of its request is accepted. -/
theorem assertStructuredCandidate_of_copies (h : request.MadeFrom py session)
    (hcopies : envelope.proposal.binding.Copies request)
    (hperm : envelope.proposal.binding.paths.Perm request.participant.files)
    {hashes : List (String × String)}
    (hexpected : expectedHashes sql request envelope.proposal = .ok hashes)
    (hdict : sameDict hashes (request.files.map fun f => (f.relativePath, f.sha256)) = true) :
    assertStructuredCandidate py sql request envelope = .ok envelope.proposal := by
  have hnormal := fun path hpath => h.normal path (hperm.mem_iff.mp hpath)
  simp only [assertStructuredCandidate, requireProposal, bind_eq_ok, require_eq_ok, decide_eq_true_eq,
    exists_const]
  exact ⟨hcopies.kind, hcopies.migrationId, hcopies.participantId, hcopies.oldField, hcopies.newField,
    hcopies.repository, hcopies.ownerUrns, hcopies.expandedColumns, hcopies.contractColumns, _,
    mapM_normal hnormal, sameSet_of_perm hperm, hashes, hexpected, hdict, rfl⟩

/-- Against the policy of the request only the order of the paths is left to check. -/
theorem bindTrustedPolicy_iff_paths (h : request.MadeFrom py session) {b : ProposalBinding}
    (hcopies : b.Copies request) (hperm : b.paths.Perm request.participant.files) :
    bindTrustedPolicy py session { request.policy with
        relation := b.relation, dialect := b.dialect
        assignmentName := b.assignmentName, configKey := b.configKey } b = .ok () ↔
      b.paths = request.participant.files := by
  have hnormal := fun path hpath => h.normal path (hperm.mem_iff.mp hpath)
  rw [bindTrustedPolicy_eq_ok, mapM_normal hnormal]
  constructor
  · rintro ⟨_, ⟨⟩, -, -, hpaths, -⟩
    exact hpaths
  · intro hpaths
    exact ⟨_, rfl, ⟨h.migrationId, h.repository⟩,
      ⟨hcopies.migrationId, hcopies.participantId, hcopies.repository, hcopies.kind⟩, hpaths,
      ⟨hcopies.oldField, hcopies.newField, hcopies.expandedColumns, hcopies.contractColumns,
        hcopies.ownerUrns⟩, rfl, rfl, rfl, rfl⟩

/-- The Python file of an Airflow candidate comes first. -/
theorem pair_eq_iff {python json : String} {files : List String} (hpython : endsWith python ".py" = true)
    (hjson : endsWith json ".json" = true) (hperm : [python, json].Perm files) :
    [python, json] = files ↔ ∃ first, files.head? = some first ∧ endsWith first ".py" = true := by
  constructor
  · rintro rfl
    exact ⟨python, rfl, hpython⟩
  · rintro ⟨first, hfirst, hends⟩
    cases files with
    | nil => cases hfirst
    | cons head files =>
      cases hfirst
      have hmem : first ∈ [python, json] := hperm.mem_iff.mpr (by simp)
      rcases List.mem_cons.mp hmem with rfl | hmem
      · rw [List.perm_singleton.mp (List.perm_cons _ |>.mp hperm).symm]
      · rw [List.mem_singleton.mp hmem] at hends
        exact (not_endsWith_both hends hjson).elim

/-- Two files with different endings are all the files of an Airflow request. -/
theorem twoFiles_perm {files : List FileSnapshot} {python json : FileSnapshot} (htwo : files.length = 2)
    (hpython : files.filter (fun f => endsWith f.relativePath ".py") = [python])
    (hjson : files.filter (fun f => endsWith f.relativePath ".json") = [json]) :
    [python, json].Perm files ∧ endsWith python.relativePath ".py" = true ∧
      endsWith json.relativePath ".json" = true := by
  have hpythonMem := List.mem_filter.mp (hpython ▸ List.mem_singleton_self python)
  have hjsonMem := List.mem_filter.mp (hjson ▸ List.mem_singleton_self json)
  have hne : python ≠ json := by
    rintro rfl
    exact not_endsWith_both hpythonMem.2 hjsonMem.2
  have hsubset : [python, json] ⊆ files := by
    simpa using ⟨hpythonMem.1, hjsonMem.1⟩
  have hsubperm := List.subperm_of_subset (by simpa using hne) hsubset
  exact ⟨hsubperm.perm_of_length_le (by simp [htwo]), hpythonMem.2, hjsonMem.2⟩

end Bound

section Kinds
open DeterministicCandidateModel
variable {envelope : CandidateEnvelope} {trusted : TrustedParticipantPolicy py}

/-- What a candidate of any kind has, once it is proposed for a request and a policy is derived. -/
structure Proposed (sql : SqlLibrary) (request : ProposalRequest) (trusted : PolicyData)
    (p : CandidateProposal) : Prop where
  copies : p.binding.Copies request
  perm : p.binding.paths.Perm request.participant.files
  settings : trusted = { request.policy with
    relation := p.binding.relation, dialect := p.binding.dialect
    assignmentName := p.binding.assignmentName, configKey := p.binding.configKey }
  hashed : ∃ hashes, expectedHashes sql request p = .ok hashes ∧
    sameDict hashes (request.files.map fun f => (f.relativePath, f.sha256)) = true

/-- A proposed candidate is accepted, and bound if its paths come in the participant's order. -/
theorem Proposed.accepted_iff (h : request.MadeFrom py session)
    (hp : Proposed sql request trusted.val envelope.proposal) :
    (assertStructuredCandidate py sql request envelope = .ok envelope.proposal ∧
      bindTrustedPolicy py session trusted.val envelope.proposal.binding = .ok ()) ↔
    envelope.proposal.binding.paths = request.participant.files := by
  obtain ⟨hashes, hexpected, hdict⟩ := hp.hashed
  rw [hp.settings, bindTrustedPolicy_iff_paths h hp.copies hp.perm]
  exact and_iff_right (assertStructuredCandidate_of_copies h hp.copies hp.perm hexpected hdict)

theorem propose_eq_ok (h : propose py sql request = .ok envelope) :
    proposal py sql request = .ok envelope.proposal := by
  simp only [propose, CandidateEnvelope.postInit, bind_eq_ok] at h
  obtain ⟨p, hp, _, -, ⟨⟩⟩ := h
  exact hp

theorem snapshot_path {snapshot : FileSnapshot} (h : request.MadeFrom py session)
    (hnodup : request.participant.files.Nodup) (hfiles : request.files = [snapshot]) :
    [snapshot.relativePath] = request.participant.files := by
  have hperm := h.perm hnodup
  rw [hfiles] at hperm
  exact (List.perm_singleton.mp hperm.symm).symm

theorem dbt_proposed {p : DbtSqlProposal} (h : request.MadeFrom py session)
    (hkind : request.participant.kind = .dbtSql) (hp : dbt sql request = .ok p)
    (hpolicy : trustedPolicy py sql request = .ok trusted) :
    Proposed sql request trusted.val (.dbtSql p) ∧ p.binding.paths = request.participant.files := by
  obtain ⟨options, hoptions, hval, hnodup⟩ := trustedPolicy_eq_ok h.normal hpolicy
  obtain ⟨hcopies, hdialect, snapshot, hfiles, hpath, hsha, hrelations⟩ := dbt_eq_ok hkind hp
  have hpaths : p.binding.paths = request.participant.files := by
    rw [← snapshot_path h hnodup hfiles, ← hpath]
    rfl
  have hfirst : firstFile request = .ok snapshot := by rw [firstFile, hfiles]
  simp only [adapterOptions, hkind, hfirst, ok_bind, hrelations] at hoptions
  cases hoptions
  refine ⟨⟨hcopies, .of_eq hpaths, ?_, [(p.relativePath, p.expectedSha256)], ?_, ?_⟩, hpaths⟩
  · rw [hval]
    simp [ProposalRequest.policy, CandidateProposal.binding, DbtSqlProposal.binding, hdialect]
  · simp only [expectedHashes, hdialect, hfirst, ok_bind, hrelations, requireProposal, require]
    simp [sameSet_iff, ok_bind]
  · rw [hfiles, hpath, hsha]
    exact sameDict_of_perm (.refl _) (by simp)

theorem semantic_proposed {p : SemanticMappingProposal} (h : request.MadeFrom py session)
    (hkind : request.participant.kind = .semanticApproval) (hp : semantic py request = .ok p)
    (hpolicy : trustedPolicy py sql request = .ok trusted) :
    Proposed sql request trusted.val (.semanticMapping p) ∧
      p.binding.paths = request.participant.files := by
  obtain ⟨options, hoptions, hval, hnodup⟩ := trustedPolicy_eq_ok h.normal hpolicy
  obtain ⟨hcopies, howner, snapshot, hfiles, hpath, hsha⟩ := semantic_eq_ok hkind hp
  have hpaths : p.binding.paths = request.participant.files := by
    rw [← snapshot_path h hnodup hfiles, ← hpath]
    rfl
  simp only [adapterOptions, hkind] at hoptions
  cases hoptions
  refine ⟨⟨hcopies, .of_eq hpaths, hval, [(p.relativePath, p.expectedSha256)], ?_, ?_⟩, hpaths⟩
  · simp [expectedHashes, howner, requireProposal, require, ok_bind, pure, Except.pure]
  · rw [hfiles, hpath, hsha]
    exact sameDict_of_perm (.refl _) (by simp)

theorem airflow_proposed {p : AirflowMappingProposal} (h : request.MadeFrom py session)
    (hkind : request.participant.kind = .airflowMapping) (hp : airflow py request = .ok p)
    (hpolicy : trustedPolicy py sql request = .ok trusted) :
    Proposed sql request trusted.val (.airflowMapping p) ∧
      (p.binding.paths = request.participant.files ↔
        ∃ first, request.participant.files.head? = some first ∧ endsWith first ".py" = true) := by
  obtain ⟨options, hoptions, hval, hnodup⟩ := trustedPolicy_eq_ok h.normal hpolicy
  obtain ⟨hcopies, ⟨hname, hkey⟩, python, json, htwo, hpython, hjson, hpythonFile, hjsonFile⟩ :=
    airflow_eq_ok hkind hp
  obtain ⟨hfiles, hpythonEnd, hjsonEnd⟩ := twoFiles_perm htwo hpython hjson
  have hpairs := hfiles.map fun f => (f.relativePath, f.sha256)
  have hperm : ([python, json].map (·.relativePath)).Perm request.participant.files :=
    (hfiles.map _).trans (h.perm hnodup)
  have hpaths : p.binding.paths = [python.relativePath, json.relativePath] := by
    rw [← (Prod.mk.inj hpythonFile).1, ← (Prod.mk.inj hjsonFile).1]
    rfl
  simp only [adapterOptions, hkind] at hoptions
  cases hoptions
  refine ⟨⟨hcopies, hpaths ▸ hperm, ?_, [(p.pythonRelativePath, p.expectedPythonSha256),
    (p.jsonRelativePath, p.expectedJsonSha256)], ?_, ?_⟩, ?_⟩
  · rw [hval]
    simp [ProposalRequest.policy, CandidateProposal.binding, AirflowMappingProposal.binding, hname, hkey]
  · simp [expectedHashes, hname, hkey, requireProposal, require, ok_bind, pure, Except.pure]
  · rw [hpythonFile, hjsonFile]
    refine sameDict_of_perm hpairs ?_
    have hdistinct := hperm.nodup_iff.mpr hnodup
    simpa using hdistinct
  · rw [hpaths]
    exact pair_eq_iff hpythonEnd hjsonEnd hperm

/-- What the reference proposer returns passes both checks, unless an Airflow participant lists
its JSON file first. -/
theorem proposer_binds_iff (session : RepositorySession) (request : ProposalRequest)
    (sql : SqlLibrary) (envelope : CandidateEnvelope) (trusted : TrustedParticipantPolicy py)
    (h : request.MadeFrom py session) (hp : propose py sql request = .ok envelope)
    (hpolicy : trustedPolicy py sql request = .ok trusted) :
    (assertStructuredCandidate py sql request envelope = .ok envelope.proposal ∧
      bindTrustedPolicy py session trusted.val envelope.proposal.binding = .ok ()) ↔
    (request.participant.kind = .airflowMapping →
      ∃ first, request.participant.files.head? = some first ∧ endsWith first ".py" = true) := by
  have hproposal := propose_eq_ok hp
  obtain ⟨modelId, p, rationale⟩ := envelope
  unfold proposal at hproposal
  cases hkind : request.participant.kind with
  | dbtSql =>
    rw [hkind] at hproposal
    obtain ⟨p, hmade, rfl⟩ := map_eq_ok.mp hproposal
    obtain ⟨hproposed, hpaths⟩ := dbt_proposed h hkind hmade hpolicy
    rw [hproposed.accepted_iff h]
    exact iff_of_true hpaths nofun
  | airflowMapping =>
    rw [hkind] at hproposal
    obtain ⟨p, hmade, rfl⟩ := map_eq_ok.mp hproposal
    obtain ⟨hproposed, hpaths⟩ := airflow_proposed h hkind hmade hpolicy
    rw [hproposed.accepted_iff h]
    exact hpaths.trans (by simp)
  | semanticApproval =>
    rw [hkind] at hproposal
    obtain ⟨p, hmade, rfl⟩ := map_eq_ok.mp hproposal
    obtain ⟨hproposed, hpaths⟩ := semantic_proposed h hkind hmade hpolicy
    rw [hproposed.accepted_iff h]
    exact iff_of_true hpaths nofun

end Kinds

/-- The request of an Airflow consumer that lists its files in the given order. -/
def sampleAirflowRequest (files : List String) : ProposalRequest where
  intent := .sample
  participant := {
    participantId := "p", migrationId := ChangeIntent.sample.migrationId, kind := .airflowMapping
    assetUrn := "urn:li:dataset:b", repository := "data/flows", ownerUrns := ["urn:li:corpuser:o"]
    files, createdAt := "2026-01-01T00:00:00Z" }
  files := files.map fun path => ⟨path, ChangeIntent.sample.intentSha256,
    if path = "dag.py" then sampleMapping
    else "\x7b\"field_mapping\": \x7b\"cust_id\": \"cust_id\", \"order\": \"total\"\x7d\x7d"⟩
  expandedColumns := sampleAirflowPolicy.expandedColumns
  contractColumns := sampleAirflowPolicy.contractColumns

def sampleRequestSession : RepositorySession :=
  { sampleSession with migrationId := ChangeIntent.sample.migrationId }

theorem ProposalRequest.postInit_of_isOk {r : ProposalRequest} (h : (r.postInit py).isOk = true) :
    r.postInit py = .ok r := by
  obtain ⟨r', hr⟩ := exists_of_isOk h
  rw [hr]
  simp only [postInit, bind_eq_ok] at hr
  obtain ⟨_, -, _, -, _, -, _, -, _, -, _, -, ⟨⟩⟩ := hr
  rfl

theorem sampleAirflowRequest_madeFrom {files : List String}
    (hvalid : ((sampleAirflowRequest files).postInit samplePython).isOk = true)
    (hnormal : ∀ path ∈ files, IsNormalPath path) :
    (sampleAirflowRequest files).MadeFrom samplePython sampleRequestSession :=
  ⟨ProposalRequest.postInit_of_isOk hvalid, hnormal, rfl, rfl⟩

/-- The checks of a proposal in the order of the coordinator, up to the adapter's own. -/
def proposeAndBind (request : ProposalRequest) : Result Unit := do
  let envelope ← DeterministicCandidateModel.propose samplePython sampleAdapters.sql request
  let trusted ← trustedPolicy samplePython sampleAdapters.sql request
  bindTrustedPolicy samplePython sampleRequestSession trusted.val envelope.proposal.binding

/-- The Python file first. -/
theorem pythonFirst_binds : ∃ envelope trusted,
    DeterministicCandidateModel.propose samplePython sampleAdapters.sql
      (sampleAirflowRequest ["dag.py", "map.json"]) = .ok envelope ∧
    trustedPolicy samplePython sampleAdapters.sql (sampleAirflowRequest ["dag.py", "map.json"]) =
      .ok trusted ∧
    bindTrustedPolicy samplePython sampleRequestSession trusted.val envelope.proposal.binding =
      .ok () := by
  have hmade : (sampleAirflowRequest ["dag.py", "map.json"]).MadeFrom samplePython
      sampleRequestSession := sampleAirflowRequest_madeFrom (by decide +kernel) (by decide +kernel)
  obtain ⟨envelope, henvelope⟩ := exists_of_isOk (show (DeterministicCandidateModel.propose samplePython
    sampleAdapters.sql (sampleAirflowRequest ["dag.py", "map.json"])).isOk = true by decide +kernel)
  obtain ⟨trusted, htrusted⟩ := exists_of_isOk (show (trustedPolicy samplePython sampleAdapters.sql
    (sampleAirflowRequest ["dag.py", "map.json"])).isOk = true by decide +kernel)
  exact ⟨envelope, trusted, henvelope, htrusted, ((proposer_binds_iff _ _ _ _ _ hmade henvelope
    htrusted).mpr fun _ => ⟨"dag.py", rfl, by decide +kernel⟩).2⟩

/-- The JSON file first: the candidate does not match the policy of its own request. -/
theorem jsonFirst_unbound : ∃ envelope trusted,
    (sampleAirflowRequest ["map.json", "dag.py"]).MadeFrom samplePython sampleRequestSession ∧
    DeterministicCandidateModel.propose samplePython sampleAdapters.sql
      (sampleAirflowRequest ["map.json", "dag.py"]) = .ok envelope ∧
    trustedPolicy samplePython sampleAdapters.sql (sampleAirflowRequest ["map.json", "dag.py"]) =
      .ok trusted ∧
    bindTrustedPolicy samplePython sampleRequestSession trusted.val envelope.proposal.binding =
      rejectCandidate "candidate does not match trusted participant policy: proposal paths" := by
  have hmade : (sampleAirflowRequest ["map.json", "dag.py"]).MadeFrom samplePython
      sampleRequestSession := sampleAirflowRequest_madeFrom (by decide +kernel) (by decide +kernel)
  obtain ⟨envelope, henvelope⟩ := exists_of_isOk (show (DeterministicCandidateModel.propose samplePython
    sampleAdapters.sql (sampleAirflowRequest ["map.json", "dag.py"])).isOk = true by decide +kernel)
  obtain ⟨trusted, htrusted⟩ := exists_of_isOk (show (trustedPolicy samplePython sampleAdapters.sql
    (sampleAirflowRequest ["map.json", "dag.py"])).isOk = true by decide +kernel)
  have hrun : proposeAndBind (sampleAirflowRequest ["map.json", "dag.py"]) = rejectCandidate
      "candidate does not match trusted participant policy: proposal paths" := by decide +kernel
  rw [proposeAndBind, henvelope, htrusted] at hrun
  exact ⟨envelope, trusted, hmade, henvelope, htrusted, hrun⟩

end LineageTX
