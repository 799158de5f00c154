import LineageTX.SemanticRename
import LineageTX.ProposerBinding

/-! Whether a change that waits for its owner can be applied once the owner approved it: the
check before the approval admits any number of occurrences of the old field, the check after it
only those that the rename takes away. -/
namespace LineageTX
open Library

section Paths
variable {py : Python} {cls : ExnClass} {what value path : String}

theorem notMem_splitOn {separator : Char} {cs piece : List Char} (h : piece ∈ cs.splitOn separator) :
    separator ∉ piece := by
  induction cs generalizing piece with
  | nil =>
    obtain rfl : piece = [] := by simpa using h
    simp
  | cons c cs ih =>
    rw [List.splitOn_cons_eq_if_modifyHead] at h
    split at h
    · cases List.mem_cons.mp h with
      | inl hnil =>
        subst hnil
        simp
      | inr htail => exact ih htail
    · next hne =>
      cases hsplit : cs.splitOn separator with
      | nil => exact absurd hsplit (List.splitOn_ne_nil _ _)
      | cons first rest =>
        rw [hsplit, List.modifyHead_cons] at h
        rw [hsplit] at ih
        cases List.mem_cons.mp h with
        | inl hfirst =>
          subst hfirst
          have hrest := @ih first (by simp)
          simpa [hrest] using fun heq => hne (by simp [heq])
        | inr htail => exact ih (by simp [htail])

/-- The parts of a path joined from parts are those parts. -/
theorem pathParts_intercalate (hne : pathParts value ≠ []) :
    pathParts ("/".intercalate (pathParts value)) = pathParts value := by
  have hparts : ∀ part ∈ pathParts value, '/' ∉ part.toList ∧ (part ≠ "" && part ≠ ".") = true := by
    intro part hpart
    obtain ⟨hmem, hkept⟩ := List.mem_filter.mp hpart
    obtain ⟨piece, hpiece, rfl⟩ := List.mem_map.mp hmem
    exact ⟨by simpa using notMem_splitOn hpiece, hkept⟩
  have hsplit : (("/".intercalate (pathParts value)).toList.splitOn '/') =
      (pathParts value).map String.toList := by
    rw [String.toList_intercalate]
    refine List.splitOn_intercalate '/' (fun piece hpiece => ?_) (by simpa using hne)
    obtain ⟨part, hpart, rfl⟩ := List.mem_map.mp hpiece
    exact (hparts part hpart).1
  rw [pathParts, hsplit, List.map_map]
  have hid : (pathParts value).map (String.ofList ∘ String.toList) = (pathParts value).map id :=
    List.map_congr_left fun part _ => String.ofList_toList
  rw [hid, List.map_id]
  exact List.filter_eq_self.mpr fun part hpart => (hparts part hpart).2

/-- A path that was normalized is not changed by being normalized again. -/
theorem normalized_safe (h : safeRelativePath py cls what value = .ok path) :
    "/".intercalate (pathParts path) = path := by
  simp only [safeRelativePath, bind_eq_ok, require_eq_ok, Bool.and_eq_true, decide_eq_true_eq] at h
  obtain ⟨_, ⟨-, hne⟩, ⟨⟩⟩ := h
  rw [pathParts_intercalate hne]

end Paths
section Counting
variable {needle : String} {m : List (String × Json)}

theorem countMembers_perm {m' : List (String × Json)} (h : m.Perm m') :
    (m.map (countMember needle)).sum = (m'.map (countMember needle)).sum :=
  (h.map _).sum_nat

/-- The order of the keys is not counted. -/
theorem countString_sortKeys (j : Json) :
    countString needle (Json.sortKeys j) = countString needle j := by
  induction j using Json.nodes with
  | leaf j harr hobj => rw [Json.sortKeys_leaf harr hobj]
  | arr xs ih =>
    rw [Json.sortKeys_arr, countString_arr, countString_arr, List.map_map]
    exact congrArg List.sum (List.map_congr_left ih)
  | obj m ih =>
    rw [Json.sortKeys_obj, countString_obj, countString_obj, List.map_map,
      ← countMembers_perm (sortBy_perm Prod.fst m)]
    refine congrArg List.sum (List.map_congr_left fun e he => ?_)
    have hvalue := ih e ((mem_sortBy Prod.fst m e).mp he)
    simp only [Function.comp, countMember, hvalue]

end Counting

namespace SemanticApprovalParticipant
variable {py : Python} {policy : PolicyData} {document : Json}

section Occurrences
variable {m dims entry : List (String × Json)}

theorem countMember_str {needle key text : String} :
    countMember needle (key, .str text) =
      (if key = needle then 1 else 0) + if text = needle then 1 else 0 := rfl

theorem countMember_obj {needle key : String} :
    countMember needle (key, .obj m) =
      (if key = needle then 1 else 0) + (m.map (countMember needle)).sum := by
  rw [countMember, countString_obj]

/-- The entry loses one occurrence, its source. -/
theorem count_approvedEntry (hwait : Waiting policy dims entry) :
    ((approvedEntry policy entry).map (countMember policy.oldField)).sum + 1 =
      (entry.map (countMember policy.oldField)).sum := by
  have hsum := Json.sum_assign (countMember policy.oldField) hwait.reads (.str policy.newField)
  rw [countMember_str, countMember_str, if_pos rfl, if_neg hwait.ne.symm] at hsum
  unfold approvedEntry
  omega

/-- The dimensions lose two occurrences, the key and the source. -/
theorem count_approvedDimensions (hwait : Waiting policy dims entry)
    (hkeys : (dims.map Prod.fst).Nodup) :
    ((approvedDimensions policy dims entry).map (countMember policy.oldField)).sum + 2 =
      (dims.map (countMember policy.oldField)).sum := by
  have hentry := count_approvedEntry hwait
  have hremoved := Json.sum_remove (countMember policy.oldField) hkeys hwait.found
  have hnew : policy.newField ∉ (Json.remove policy.oldField dims).map Prod.fst := by
    intro hmem
    obtain ⟨⟨key, value⟩, he, rfl⟩ := List.mem_map.mp hmem
    have hfound := Json.lookup_of_mem hkeys (Json.mem_remove.mp he).1
    rw [hwait.fresh] at hfound
    cases hfound
  rw [countMember_obj, if_pos rfl] at hremoved
  rw [approvedDimensions, Json.assign_of_notMem hnew, List.map_append, List.sum_append,
    List.map_singleton, List.sum_singleton, countMember_obj, if_neg hwait.ne.symm]
  omega

/-- The rename takes two occurrences of the old field away, however many there are. -/
theorem count_approvedDocument (hdims : HasDimensions document m dims)
    (hwait : Waiting policy dims entry) (hkeys : (dims.map Prod.fst).Nodup) :
    countString policy.oldField (approvedDocument policy document) + 2 =
      countString policy.oldField document := by
  have hcount := count_approvedDimensions hwait hkeys
  have hsum := Json.sum_assign (countMember policy.oldField) hdims.2
    (.obj (approvedDimensions policy dims entry))
  rw [countMember_obj, countMember_obj] at hsum
  rw [approvedDocument_eq hdims hwait.found, hdims.1, countString_obj, countString_obj]
  unfold approvedMembers
  omega

end Occurrences
section Checks
variable {document' : Json}

/-- A renamed document has the dimensions that the check after the approval looks for. -/
theorem hasDimensions_renamed
    (h : RenamedDimension policy.oldField policy.newField document document') :
    ∃ m dims entry, HasDimensions document' m dims ∧ dims.lookup policy.oldField = none ∧
      dims.lookup policy.newField = some (.obj entry) ∧
      entry.lookup "source_field" = some (.str policy.newField) := by
  obtain ⟨-, dims', -, hdims', -, hgone, ⟨-, entry', -, hentry', hreads, -⟩, -⟩ := h.dimensions
  cases document' with
  | obj m =>
    cases dims' with
    | obj dims =>
      cases entry' with
      | obj entry => exact ⟨m, dims, entry, ⟨rfl, hdims'⟩, hgone, hentry', hreads⟩
      | _ => cases hreads
    | _ => cases hentry'
  | _ => cases hdims'

theorem validateApprovedDocument_renamed
    (h : RenamedDimension policy.oldField policy.newField document document')
    (hcount : countString policy.oldField document' = 0)
    (hexpanded : policy.newField ∈ policy.expandedColumns)
    (hcontract : policy.newField ∈ policy.contractColumns) :
    validateApprovedDocument document' policy = .ok () := by
  obtain ⟨m, dims, entry, hdims, hgone, hentry, hreads⟩ := hasDimensions_renamed h
  simp only [validateApprovedDocument, requireCandidate, bind_eq_ok, require_eq_ok, hdims.dimensions]
  refine ⟨(), by simp [hgone, hentry], (), readsField_iff.mpr ⟨entry, hentry, hreads⟩, (),
    decide_eq_true hcount, ?_⟩
  simp [hexpanded, hcontract]

end Checks
end SemanticApprovalParticipant

/-- An approval of the trusted owner for the exact mapping of the policy. -/
structure OwnerApproval.Matches (approval : OwnerApproval) (policy : PolicyData) : Prop where
  decision : approval.decision = "APPROVED"
  migrationId : approval.migrationId = policy.migrationId
  participantId : approval.participantId = policy.participantId
  owner : policy.ownerUrns.head? = some approval.ownerUrn
  oldField : approval.oldField = policy.oldField
  newField : approval.newField = policy.newField
  approvedAt : approval.approvedAt ≠ ""
  evidenceUrl : approval.evidenceUrl ≠ ""

/-- Writing the file does not fail, and Git then reports it as the one change. -/
structure Surroundings.Works (env : Surroundings) (wt : Worktree) (target path : String) : Prop where
  writes : ∀ bytes, env.fault target bytes = none
  reports : ∀ bytes, wt.file target ≠ some bytes → env.statusPaths (wt.write target bytes) = .ok [path]

theorem Candidate.apply_works {α : Type} {c : Candidate} {env : Surroundings}
    {check : Worktree → Result α} {wt : Worktree} {a : α}
    (hwrite : env.fault c.target c.after.toUTF8 = none)
    (hcheck : check (wt.write c.target c.after.toUTF8) = .ok a) :
    c.apply env check wt = (.ok a, wt.write c.target c.after.toUTF8) := by
  simp only [Candidate.apply, Surroundings.writeBytes, hwrite, hcheck]

theorem enforceAllowlist_single {py : Python} {env : Surroundings} {wt : Worktree} {path : String}
    (hnormal : "/".intercalate (pathParts path) = path) (hreports : env.statusPaths wt = .ok [path]) :
    enforceAllowlist py env [path] true wt = .ok (sortedSet [path]) := by
  simp [enforceAllowlist, gitChangedFiles, hreports, hnormal, requireCandidate, require, ok_bind, pure,
    Except.pure]

theorem PolicyData.postInit_columns {py : Python} {given d : PolicyData} (h : given.postInit py = .ok d) :
    d.newField ∈ d.expandedColumns ∧ d.newField ∈ d.contractColumns := by
  simp only [PolicyData.postInit, bind_eq_ok, require_eq_ok, Bool.and_eq_true,
    List.contains_iff_mem] at h
  obtain ⟨_, -, _, -, _, -, _, -, _, -, _, -, _, -, _, ⟨-, hexpanded⟩, _, ⟨-, hcontract⟩, _, -, _, -,
    ⟨⟩⟩ := h
  exact ⟨hexpanded, hcontract⟩

namespace SemanticApprovalParticipant
section Applied
variable {py : Python} {env : Surroundings} {session : RepositorySession}
  {proposal : SemanticMappingProposal} {policy : PolicyData} {approval : OwnerApproval}
  {wt : Worktree} {target path : String} {document : Json}

theorem validateApproval_matches (h : approval.Matches policy) :
    validateApproval policy approval = .ok () := by
  simp only [validateApproval, requireCandidate, bind_eq_ok, require_eq_ok]
  refine ⟨(), decide_eq_true h.decision, (), ?_, ?_⟩
  · simp [h.migrationId, h.participantId, h.owner, h.oldField, h.newField]
  · simp [h.approvedAt, h.evidenceUrl]

/-- The one allowed path is normalized. -/
theorem pending_path (h : pending py env session proposal policy wt = .ok (target, document))
    (hpath : policy.path 0 = .ok path) :
    policy.allowedPaths = [path] ∧ "/".intercalate (pathParts path) = path := by
  simp only [pending, bind_eq_ok] at h
  obtain ⟨_, hbind, -⟩ := h
  simp only [bindTrustedPolicy, requireCandidate, bind_eq_ok, require_eq_ok, decide_eq_true_eq,
    List.map_eq_nil_iff, List.filter_eq_nil_iff] at hbind
  obtain ⟨paths, hpaths, hsame⟩ := hbind
  have hallowed := hsame ("proposal paths", decide (paths = policy.allowedPaths)) (by simp)
  obtain rfl : paths = policy.allowedPaths := by simpa using hallowed
  simp only [SemanticMappingProposal.binding, List.mapM_cons, List.mapM_nil, bind_eq_ok] at hpaths
  obtain ⟨path', hsafe, _, ⟨⟩, heq⟩ := hpaths
  have hone : policy.allowedPaths = [path'] := (Except.ok.inj heq).symm
  rw [PolicyData.path, hone] at hpath
  cases hpath
  exact ⟨hone, normalized_safe hsafe⟩

/-- The text that the approval writes is not the one that was read. -/
theorem written_ne_read {m dims entry : List (String × Json)} {before : String}
    (hround : py.FloatsRoundTrip) (htext : trustedText py wt path = .ok (target, before))
    (hparse : parseDocument py before = .ok document) (hdims : HasDimensions document m dims)
    (hwait : Waiting policy dims entry) (hkeys : (dims.map Prod.fst).Nodup) :
    wt.file target ≠ some (configText (approvedDocument policy document)).toUTF8 := by
  intro hsame
  obtain ⟨-, bytes, text, hbytes, hdecode, rfl⟩ := trustedText_eq_ok htext
  obtain rfl := Option.some.inj (hbytes.symm.trans hsame)
  have hutf8 : String.fromUTF8? (configText (approvedDocument policy document)).toUTF8 =
      some (configText (approvedDocument policy document)) := dif_pos (String.isValidUTF8 _)
  obtain rfl := Option.some.inj (hdecode.symm.trans hutf8)
  rw [universalNewlines_eq_self (configText_noReturn _), String.ofList_toList] at hparse
  have hread := parseDocument_configText hround hparse hdims hwait
  have hequal := Except.ok.inj ((parseDocument_eq_ok.mp hparse).1.symm.trans hread)
  have hcount := count_approvedDocument hdims hwait hkeys
  have hsorted := @countString_sortKeys policy.oldField (approvedDocument policy document)
  rw [← hequal] at hsorted
  omega

/-- The approval is applied if only the two occurrences are there that the rename takes away. -/
theorem prepare_applied {m dims entry : List (String × Json)} {before : String}
    (hround : py.FloatsRoundTrip)
    (hpending : pending py env session proposal policy wt = .ok (target, document))
    (hpath : policy.path 0 = .ok path) (htext : trustedText py wt path = .ok (target, before))
    (hparse : parseDocument py before = .ok document) (hdims : HasDimensions document m dims)
    (hwait : Waiting policy dims entry) (hmatch : approval.Matches policy)
    (hexpanded : policy.newField ∈ policy.expandedColumns)
    (hcontract : policy.newField ∈ policy.contractColumns) (hworks : env.Works wt target path)
    (hcount : countString policy.oldField document = 2) :
    ∃ r wt', prepare py env session proposal policy (some approval) wt = (.ok r, wt') ∧
      r.state = .verified := by
  have hloaded := jsonLoads_loaded hround (parseDocument_eq_ok.mp hparse).1
  have hway := DistinctWay.of_loaded hdims hwait.found hloaded
  have hrenamed := renamedDimension_approved hdims hwait hway
  have hgone : countString policy.oldField (Json.sortKeys (approvedDocument policy document)) = 0 := by
    have htwo := count_approvedDocument hdims hwait hway.dimensions
    rw [countString_sortKeys]
    omega
  have hafter : parseDocument py (configText (approvedDocument policy document)) =
      .ok (Json.sortKeys (approvedDocument policy document)) := by
    obtain ⟨m', dims', -, hdims', -⟩ := hasDimensions_renamed hrenamed
    exact parseDocument_eq_ok.mpr ⟨parseDocument_configText hround hparse hdims hwait, m', dims', hdims'⟩
  obtain ⟨-, bytes, -, hbytes, -⟩ := trustedText_eq_ok htext
  have hplan : plan py policy approval target document wt =
      .ok ⟨target, bytes, configText (approvedDocument policy document)⟩ := by
    simp only [plan, bind_eq_ok]
    refine ⟨(), validateApproval_matches hmatch, _, hafter, (),
      validateApprovedDocument_renamed hrenamed hgone hexpanded hcontract, bytes, ?_, rfl⟩
    rw [readBytes, hbytes]
  obtain ⟨hone, hnormal⟩ := pending_path hpending hpath
  have hreports := hworks.reports _ (written_ne_read hround htext hparse hdims hwait hway.dimensions)
  have hcheck : enforceAllowlist py env policy.allowedPaths true
      (wt.write target (configText (approvedDocument policy document)).toUTF8) =
      .ok (sortedSet [path]) := by
    rw [hone]
    exact enforceAllowlist_single hnormal hreports
  have happly := Candidate.apply_works
    (c := ⟨target, bytes, configText (approvedDocument policy document)⟩) (hworks.writes _) hcheck
  refine ⟨result py proposal policy approval (configText (approvedDocument policy document))
    (sortedSet [path]), wt.write target (configText (approvedDocument policy document)).toUTF8, ?_, rfl⟩
  unfold prepare
  rw [hpending]
  dsimp only
  rw [hplan]
  dsimp only
  rw [happly]

end Applied

section Sample

theorem semanticSurroundings_works {content path target : String}
    (hpath : sampleSemanticPolicy.path 0 = .ok path)
    (htarget : safeTarget samplePython (semanticWorktree content) path = .ok target) :
    (semanticSurroundings content).Works (semanticWorktree content) target path := by
  cases hpath
  have hfile : safeTarget samplePython (semanticWorktree content) "model.json" = .ok "model.json" := by
    have hsafe := @safeRelativePath_of_normal samplePython .candidateRejected
      "repository" _ (show IsNormalPath "model.json" by decide +kernel)
    simp [safeTarget, hsafe, ok_bind, semanticWorktree, requireCandidate, require, pure, Except.pure]
  obtain rfl := Except.ok.inj (hfile.symm.trans htarget)
  refine ⟨fun _ => rfl, fun bytes hbytes => ?_⟩
  have hdiffers : some bytes ≠ some content.toUTF8 := fun heq => hbytes heq.symm
  simp only [semanticSurroundings, Worktree.write, if_true, if_neg hdiffers]

theorem sampleApproval_matches : sampleApproval.Matches sampleSemanticPolicy :=
  ⟨rfl, rfl, rfl, rfl, rfl, rfl, by decide, by decide⟩

theorem sampleSemanticPolicy_created :
    sampleSemanticPolicy.postInit samplePython = .ok sampleSemanticPolicy := by decide +kernel

/-- A document that also names the old field in a label. -/
def labelledSemantics : String :=
  "\x7b\"dimensions\": \x7b\"cust_id\": \x7b\"source_field\": \"cust_id\", \"label\": \"cust_id\"\x7d\x7d\x7d"

end Sample
end SemanticApprovalParticipant
end LineageTX
