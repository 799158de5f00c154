import LineageTX.NonInterference

/-! A rejected candidate leaves no trace: wherever an adapter raises, the files of the worktree
hold the bytes that they held before. -/
namespace LineageTX
open Library
variable {py : Python}

/-- Two worktrees have the same bytes in every file but the given ones. -/
def Worktree.SameBut (wt wt' : Worktree) (targets : List String) : Prop :=
  ∀ path, path ∉ targets → wt'.file path = wt.file path

/-- Writing to a file the bytes that it had does not fail. -/
def Surroundings.Restores (env : Surroundings) (wt : Worktree) : Prop :=
  ∀ target bytes, wt.file target = some bytes → env.fault target bytes = none

/-- A writer in place of `Path.write_bytes` touches the path that it is given only. -/
def AirflowMappingParticipant.KeepsOthers (a : AirflowMappingParticipant) : Prop :=
  ∀ writer, a.fileWriter = some writer → ∀ wt target bytes path, path ≠ target →
    (writer wt target bytes).2.file path = wt.file path

section Writes
variable {wt wt₁ wt₂ : Worktree} {env : Surroundings} {target : String} {targets : List String}
  {bytes : ByteArray}

theorem Worktree.SameBut.trans (h : wt.SameBut wt₁ targets) (h' : wt₁.SameBut wt₂ targets) :
    wt.SameBut wt₂ targets :=
  fun path hpath => (h' path hpath).trans (h path hpath)

theorem Worktree.write_sameBut (htarget : target ∈ targets) :
    wt.SameBut (wt.write target bytes) targets := by
  intro path hpath
  have hne : path ≠ target := fun heq => hpath (heq ▸ htarget)
  simp [write, hne]

/-- A write changes its own file only, whether it succeeds or not. -/
theorem Surroundings.writeBytes_sameBut (htarget : target ∈ targets) :
    wt.SameBut (env.writeBytes wt target bytes).2 targets := by
  unfold writeBytes
  split
  · exact Worktree.write_sameBut htarget
  · exact Worktree.write_sameBut htarget

theorem AirflowMappingParticipant.writeFile_sameBut {a : AirflowMappingParticipant}
    (ha : a.KeepsOthers) (htarget : target ∈ targets) :
    wt.SameBut (a.writeFile env wt target bytes).2 targets := by
  cases hwriter : a.fileWriter with
  | none =>
    simp only [writeFile, hwriter]
    exact Surroundings.writeBytes_sameBut htarget
  | some writer =>
    intro path hpath
    simp only [writeFile, hwriter]
    exact ha writer hwriter wt target bytes path fun heq => hpath (heq ▸ htarget)

/-- Bytes put back: one file less that may differ. -/
theorem Worktree.SameBut.restored (h : wt.SameBut wt₁ (target :: targets))
    (hbefore : wt.file target = some bytes) (hrestores : env.Restores wt) :
    ∃ wt₂, env.writeBytes wt₁ target bytes = (.ok (), wt₂) ∧ wt.SameBut wt₂ targets := by
  refine ⟨wt₁.write target bytes, ?_, fun path hpath => ?_⟩
  · rw [Surroundings.writeBytes, hrestores target bytes hbefore]
  · by_cases heq : path = target
    · simp [write, heq, hbefore]
    · simp only [write, if_neg heq]
      exact h path (by simp [heq, hpath])

theorem Worktree.SameBut.file_eq (h : wt.SameBut wt₁ []) : wt₁.file = wt.file :=
  funext fun path => h path (List.not_mem_nil)

end Writes

section Adapters
variable {env : Surroundings} {wt wt' : Worktree} {e : Exn}

theorem readBytes_eq_ok {target : String} {bytes : ByteArray} (h : readBytes wt target = .ok bytes) :
    wt.file target = some bytes := by
  unfold readBytes at h
  split at h
  · next found hfound =>
    cases h
    exact hfound
  · cases h

/-- A candidate that is not applied leaves the bytes that it found. -/
theorem Candidate.apply_rejected {α : Type} {c : Candidate} {check : Worktree → Result α}
    (hbefore : wt.file c.target = some c.before) (hrestores : env.Restores wt)
    (h : c.apply env check wt = (.error e, wt')) : wt'.file = wt.file := by
  have hwritten : wt.SameBut (env.writeBytes wt c.target c.after.toUTF8).2 [c.target] :=
    Surroundings.writeBytes_sameBut (List.mem_singleton_self _)
  obtain ⟨wt₂, hrestore, hsame⟩ := hwritten.restored hbefore hrestores
  unfold apply at h
  split at h
  · next e' wt₁ hwrite =>
    rw [hwrite] at hrestore
    simp only [hrestore] at h
    cases h
    exact hsame.file_eq
  · next wt₁ hwrite =>
    rw [hwrite] at hrestore
    split at h
    · cases h
    · simp only [hrestore] at h
      cases h
      exact hsame.file_eq

theorem DbtSqlParticipant.prepare_rejected {lib : SqlLibrary} {session : RepositorySession}
    {proposal : DbtSqlProposal} {policy : PolicyData} (hrestores : env.Restores wt)
    (h : prepare py lib env session proposal policy wt = (.error e, wt')) : wt'.file = wt.file := by
  unfold prepare at h
  split at h
  · cases h
    rfl
  · next candidate replacements hplan =>
    split at h
    · next happly =>
      cases h
      simp only [plan, bind_eq_ok] at hplan
      obtain ⟨_, -, _, -, _, -, _, -, ⟨target, before⟩, -, _, -, _, -, _, -, _, -, _, -, _, -, _, -,
        bytes, hbytes, ⟨⟩⟩ := hplan
      exact Candidate.apply_rejected (readBytes_eq_ok hbytes) hrestores happly
    · cases h

theorem SemanticApprovalParticipant.prepare_rejected {session : RepositorySession}
    {proposal : SemanticMappingProposal} {policy : PolicyData} {approval : Option OwnerApproval}
    (hrestores : env.Restores wt)
    (h : prepare py env session proposal policy approval wt = (.error e, wt')) :
    wt'.file = wt.file := by
  unfold prepare at h
  split at h
  · cases h
    rfl
  · cases h
  · split at h
    · cases h
      rfl
    · next candidate hplan =>
      split at h
      · next happly =>
        cases h
        simp only [plan, bind_eq_ok] at hplan
        obtain ⟨_, -, _, -, _, -, bytes, hbytes, ⟨⟩⟩ := hplan
        exact Candidate.apply_rejected (readBytes_eq_ok hbytes) hrestores happly
      · cases h

namespace AirflowMappingParticipant
variable {a : AirflowMappingParticipant} {files : TwoFiles} {policy : PolicyData} {wt₁ : Worktree}

/-- The bytes of both files, as they were before either was written. -/
structure ReadFrom (files : TwoFiles) (wt : Worktree) : Prop where
  python : wt.file files.python.target = some files.python.before
  json : wt.file files.json.target = some files.json.before

theorem restoreFile_restored {c : Candidate} {targets : List String} (errors : List String)
    (hbefore : wt.file c.target = some c.before) (hrestores : env.Restores wt)
    (h : wt.SameBut wt₁ (c.target :: targets)) :
    ∃ wt₂, restoreFile env c errors wt₁ = (.ok errors, wt₂) ∧ wt.SameBut wt₂ targets := by
  obtain ⟨wt₂, hwrite, hsame⟩ := h.restored hbefore hrestores
  exact ⟨wt₂, by rw [restoreFile, hwrite], hsame⟩

/-- Whichever of the two files were written, both are restored. -/
theorem restoreBoth_restored (hread : ReadFrom files wt) (hrestores : env.Restores wt)
    (h : wt.SameBut wt₁ [files.python.target, files.json.target]) :
    (restoreBoth env files wt₁).2.file = wt.file := by
  obtain ⟨wt₂, hpython, hsame⟩ := restoreFile_restored [] hread.python hrestores h
  obtain ⟨wt₃, hjson, hsame⟩ := restoreFile_restored [] hread.json hrestores hsame
  simp only [restoreBoth, hpython, hjson]
  exact hsame.file_eq

theorem writeBoth_rejected (ha : a.KeepsOthers) (hread : ReadFrom files wt)
    (hrestores : env.Restores wt) (h : a.writeBoth py env policy files wt = (.error e, wt')) :
    wt'.file = wt.file := by
  have hpython : wt.SameBut (a.writeFile env wt files.python.target files.python.after.toUTF8).2
      [files.python.target, files.json.target] := writeFile_sameBut ha (by simp)
  unfold writeBoth at h
  dsimp only at h
  split at h
  · next hwrite =>
    rw [hwrite] at hpython
    cases h
    exact restoreBoth_restored hread hrestores hpython
  · next wt₁ hwrite =>
    rw [hwrite] at hpython
    have hjson : wt.SameBut (a.writeFile env wt₁ files.json.target files.json.after.toUTF8).2
        [files.python.target, files.json.target] := hpython.trans (writeFile_sameBut ha (by simp))
    split at h
    · next hwrite =>
      rw [hwrite] at hjson
      cases h
      exact restoreBoth_restored hread hrestores hjson
    · next wt₂ hwrite =>
      rw [hwrite] at hjson
      split at h
      · cases h
        exact restoreBoth_restored hread hrestores hjson
      · cases h

theorem prepare_rejected {ast : AstLibrary} {session : RepositorySession}
    {proposal : AirflowMappingProposal} (ha : a.KeepsOthers) (hrestores : env.Restores wt)
    (h : a.prepare py ast env session proposal policy wt = (.error e, wt')) : wt'.file = wt.file := by
  unfold prepare at h
  split at h
  · cases h
    rfl
  · next files proposed hplan =>
    split at h
    · next hwrite =>
      cases h
      simp only [plan, bind_eq_ok] at hplan
      obtain ⟨_, -, _, -, _, -, _, -, ⟨target₀, before₀⟩, -, _, -, ⟨target₁, before₁⟩, -, bytes₀, hbytes₀,
        bytes₁, hbytes₁, ⟨expected, proposed⟩, -, ⟨after₀, after₁⟩, -, ⟨⟩⟩ := hplan
      exact writeBoth_rejected ha ⟨readBytes_eq_ok hbytes₀, readBytes_eq_ok hbytes₁⟩ hrestores hwrite
    · cases h

end AirflowMappingParticipant

/-- Whatever an adapter raises and wherever, the files are as they were before the call. -/
theorem runAdapter_rejected (py : Python) (a : AdapterSet) (env : Surroundings)
    (session : RepositorySession) (proposal : CandidateProposal) (policy : PolicyData)
    (approval : Option OwnerApproval) (wt wt' : Worktree) (e : Exn) (hrestores : env.Restores wt)
    (hwriter : a.airflow.KeepsOthers)
    (h : runAdapter py a env session proposal policy approval wt = (.error e, wt')) :
    wt'.file = wt.file := by
  cases proposal with
  | dbtSql p => exact DbtSqlParticipant.prepare_rejected hrestores h
  | airflowMapping p => exact AirflowMappingParticipant.prepare_rejected hwriter hrestores h
  | semanticMapping p => exact SemanticApprovalParticipant.prepare_rejected hrestores h

/-- Surroundings in which the write of the JSON file stops after one byte. -/
def brokenSurroundings : Surroundings :=
  { sampleSurroundings with
    fault := fun path bytes =>
      if path = "map.json" ∧ sampleWorktree.file path ≠ some bytes then
        some (⟨.osError, "No space left on device"⟩, bytes.extract 0 1)
      else none }

theorem exists_rejected {x : Result PreparationResult × Worktree} {e : Exn}
    (h : x.1.map PreparationResult.state = .error e) : ∃ wt, x = (.error e, wt) := by
  obtain ⟨r, wt⟩ := x
  cases r with
  | ok r => cases h
  | error e' =>
    cases h
    exact ⟨wt, rfl⟩

/-- The Python file is written, the JSON file in part, and both come back. -/
theorem brokenWrite_restored : ∃ e wt', runAdapter samplePython sampleAdapters brokenSurroundings
    sampleSession (sampleProposal [("order", "total"), ("cust_id", "cust_id")]
      [("order", "total"), ("customer_id", "customer_id")]) sampleAirflowPolicy none
    sampleWorktree = (.error e, wt') ∧ wt'.file = sampleWorktree.file := by
  have hfails : (runAdapter samplePython sampleAdapters brokenSurroundings sampleSession
      (sampleProposal [("order", "total"), ("cust_id", "cust_id")]
        [("order", "total"), ("customer_id", "customer_id")]) sampleAirflowPolicy none
      sampleWorktree).1.map PreparationResult.state = rejectCandidate
        "two-file Airflow write failed; both original byte sequences restored" := by decide +kernel
  obtain ⟨wt', h⟩ := exists_rejected hfails
  refine ⟨_, wt', h, runAdapter_rejected _ _ _ _ _ _ _ _ _ _ ?_ ?_ h⟩
  · intro target bytes hbytes
    simp [brokenSurroundings, hbytes]
  · intro writer hwriter
    cases hwriter

end Adapters
end LineageTX
