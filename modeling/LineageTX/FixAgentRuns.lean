import LineageTX.DbtRename
import LineageTX.FixAgent

/-! What a run of the fix agent has found out before it writes, and what it leaves of the file:
the rename that the catalogue documents, between a red and a green regression, or the text as
it was read. -/
namespace LineageTX.FixAgent
open Library DbtSqlParticipant

section Substitution
variable {old new cs : List Char} {before : Option Char}

theorem boundedAt_succ {c : Char} {place : Nat} (h : BoundedAt old (some c) cs place) :
    BoundedAt old before (c :: cs) (place + 1) := by
  refine ⟨h.occurs, ?_, ?_⟩
  · rw [charBefore_succ]
    exact h.left
  · have hright := h.right
    rwa [show place + 1 + old.length = place + old.length + 1 by omega, List.getElem?_cons_succ]

theorem boundedAt_behind {width place : Nat} (hwidth : width ≤ cs.length)
    (h : BoundedAt old (charBefore before cs width) (cs.drop width) place) :
    BoundedAt old before cs (place + width) := by
  induction width generalizing before cs with
  | zero => exact h
  | succ width ih =>
    cases cs with
    | nil => simp at hwidth
    | cons c cs =>
      rw [charBefore_succ] at h
      exact boundedAt_succ (ih (by simpa using hwidth) h)

theorem mem_places_behind_head {width place : Nat} {a : Char} {gap : List Char}
    {gaps : List (List Char)} (h : place ∈ places width ((a :: gap) :: gaps)) :
    ∃ earlier ∈ places width (gap :: gaps), place = earlier + 1 := by
  cases gaps with
  | nil => cases h
  | cons next gaps =>
    rw [mem_places_cons (by simp)] at h
    rcases h with rfl | ⟨later, hlater, rfl⟩
    · exact ⟨gap.length, (mem_places_cons (by simp)).mpr (.inl rfl), rfl⟩
    · refine ⟨later + (gap.length + width), (mem_places_cons (by simp)).mpr (.inr ⟨later, hlater, rfl⟩), ?_⟩
      simp only [List.length_cons]
      omega

/-- A text cut at bounded occurrences of the old name, and the text with the new one there. -/
structure CutAt (old new text : List Char) (before : Option Char) (result : List Char × Nat)
    (gaps : List (List Char)) : Prop where
  nonempty : gaps ≠ []
  cut : text = old.intercalate gaps
  result : result = (new.intercalate gaps, gaps.length - 1)
  bounded : ∀ place ∈ places old.length gaps, BoundedAt old before text place

/-- A character that stays where it is. -/
theorem CutAt.keep {c : Char} {result : List Char × Nat} {gap : List Char} {gaps : List (List Char)}
    (h : CutAt old new cs (some c) result (gap :: gaps)) :
    CutAt old new (c :: cs) before (c :: result.1, result.2) ((c :: gap) :: gaps) where
  nonempty := by simp
  cut := by rw [intercalate_cons_grow, ← h.cut]
  result := by
    rw [h.result, intercalate_cons_grow]
    rfl
  bounded place hplace := by
    obtain ⟨earlier, hearlier, rfl⟩ := mem_places_behind_head hplace
    exact boundedAt_succ (h.bounded earlier hearlier)

/-- An occurrence that is replaced, with the text behind it. -/
theorem CutAt.replace {rest : List Char} {result : List Char × Nat} {gaps : List (List Char)}
    (hfirst : BoundedAt old before (old ++ rest) 0)
    (h : CutAt old new rest (charBefore before (old ++ rest) old.length) result gaps) :
    CutAt old new (old ++ rest) before (new ++ result.1, result.2 + 1) ([] :: gaps) where
  nonempty := by simp
  cut := by rw [intercalate_nil_cons h.nonempty, ← h.cut]
  result := by
    have hpos := List.length_pos_iff.mpr h.nonempty
    rw [h.result, intercalate_nil_cons h.nonempty, Prod.mk.injEq, List.length_cons]
    exact ⟨rfl, by omega⟩
  bounded place hplace := by
    rw [mem_places_cons h.nonempty] at hplace
    rcases hplace with rfl | ⟨later, hlater, rfl⟩
    · exact hfirst
    · refine boundedAt_behind (by simp) ?_
      rw [List.length_nil, Nat.zero_add, List.drop_left]
      exact h.bounded later hlater

theorem renameFrom_cut (hne : old ≠ []) (before : Option Char) (cs : List Char) :
    ∃ gaps, CutAt old new cs before (renameFrom old new 0 before cs) gaps := by
  induction hlen : cs.length using Nat.strongRecOn generalizing before cs with
  | ind n ih =>
    cases cs with
    | nil => exact ⟨[[]], by simp, rfl, rfl, fun place h => by cases h⟩
    | cons c cs =>
      by_cases hmatch : BoundedAt old before (c :: cs) 0
      · obtain ⟨rest, hrest⟩ := hmatch.occurs
        rw [List.drop_zero] at hrest
        have hless : rest.length < n := by
          have hpos := List.length_pos_iff.mpr hne
          rw [← hlen, ← hrest, List.length_append]
          omega
        obtain ⟨gaps, hgaps⟩ := ih rest.length hless (charBefore before (c :: cs) old.length) rest rfl
        rw [renameFrom_match hne hmatch]
        rw [← hrest] at hmatch hgaps ⊢
        rw [List.drop_left]
        exact ⟨[] :: gaps, .replace hmatch hgaps⟩
      · obtain ⟨gaps, hgaps⟩ := ih cs.length (by simp [← hlen]) (some c) cs rfl
        cases gaps with
        | nil => exact absurd rfl hgaps.nonempty
        | cons gap gaps =>
          rw [renameFrom, if_neg (mt boundedAt_zero.mpr hmatch)]
          exact ⟨(c :: gap) :: gaps, hgaps.keep⟩

theorem insertBetween_cut (before : Option Char) (cs : List Char) :
    ∃ gaps, CutAt [] new cs before (insertBetween new before cs) gaps := by
  induction cs generalizing before with
  | nil =>
    rw [insertBetween]
    split
    · exact ⟨[[]], by simp, rfl, rfl, fun place h => by cases h⟩
    · next hbefore =>
      refine ⟨[[], []], by simp, rfl, by simp [List.intercalate], fun place h => ?_⟩
      obtain rfl : place = 0 := by simpa [places] using h
      exact ⟨List.nil_prefix, Bool.eq_false_of_not_eq_true hbefore, rfl⟩
  | cons c cs ih =>
    obtain ⟨gaps, hgaps⟩ := ih (some c)
    cases gaps with
    | nil => exact absurd rfl hgaps.nonempty
    | cons gap gaps =>
      rw [insertBetween]
      split
      · next hbetween =>
        simp only [Bool.and_eq_true, Bool.not_eq_true'] at hbetween
        exact ⟨[] :: (c :: gap) :: gaps, CutAt.replace ⟨List.nil_prefix, hbetween.1, by simpa using hbetween.2⟩
          hgaps.keep⟩
      · exact ⟨(c :: gap) :: gaps, hgaps.keep⟩

/-- The pass cuts the text at bounded occurrences only, and changes nothing between them. -/
theorem substituted_cut (old new text : List Char) :
    ∃ gaps, CutAt old new text none (substituted old new text) gaps := by
  unfold substituted
  split
  · next hempty =>
    subst hempty
    exact insertBetween_cut none text
  · next hne => exact renameFrom_cut hne none text

end Substitution

variable (py : Python) (kit : Toolkit)

/-- The catalogue tells that the field is the new name of the missing one: its description has
a part that says so, or the source has a hint that names it. -/
def ToldRename (context : DataHubContext) (missingField : String) (field : SchemaField) : Prop :=
  field ∈ context.sourceFields ∧
    ((∃ phrase ∈ renamePatterns kit missingField, ∃ w, phrase.Accepts w ∧ w <:+: field.description.toList) ∨
      field.name ≠ "" ∧ context.sourceProperties.get? ("rename_hint." ++ missingField) = some field.name)

/-- The finding is the one repair of a file with these columns that the context tells of. -/
structure Documented (context : DataHubContext) (relative : String) (columns : List String)
    (finding : Finding) : Prop where
  transport : context.transport ≠ ""
  traces : context.toolTraces ≠ []
  owners : context.ownerUrns ≠ []
  downstream : context.targetUrn ∈ context.downstreamUrns
  missing : ∀ name, name ∈ columns ∧ name ∉ context.sourceFields.map (·.name) ↔
    name = finding.missingField
  renamed : ∀ name, (∃ field, ToldRename kit context finding.missingField field ∧ field.name = name) ↔
    name = finding.replacementField
  stated : finding = findingOf context relative finding.missingField finding.replacementField
    (columns.count finding.missingField)

theorem contextFailures_eq_nil {context : DataHubContext} : contextFailures context = [] ↔
    context.transport ≠ "" ∧ context.toolTraces ≠ [] ∧ context.sourceFields ≠ [] ∧
      context.targetUrn ∈ context.downstreamUrns ∧ context.ownerUrns ≠ [] := by
  simp only [contextFailures, List.append_eq_nil_iff, ite_eq_right_iff, List.cons_ne_nil, imp_false,
    and_assoc, not_not, ne_eq]

theorem mem_missingFields {context : DataHubContext} {columns : List String} {name : String} :
    name ∈ missingFields context columns ↔
      name ∈ columns ∧ name ∉ context.sourceFields.map (·.name) := by
  simp [missingFields]

theorem missingFields_nodup {context : DataHubContext} {columns : List String} :
    (missingFields context columns).Nodup := sortedSet_nodup _

theorem renameTargets_nodup {context : DataHubContext} {missingField : String} :
    (renameTargets kit context missingField).Nodup := List.nodup_dedup _

theorem explicitRename_iff {description missingField : String} :
    explicitRename kit description missingField = true ↔
      ∃ phrase ∈ renamePatterns kit missingField, ∃ w, phrase.Accepts w ∧ w <:+: description.toList := by
  simp only [explicitRename, List.any_eq_true, Pattern.found_iff]

theorem mem_hintedFields {context : DataHubContext} {missingField : String} {field : SchemaField} :
    field ∈ hintedFields context missingField ↔ field ∈ context.sourceFields ∧ field.name ≠ "" ∧
      context.sourceProperties.get? ("rename_hint." ++ missingField) = some field.name := by
  unfold hintedFields
  split
  · next hint hget =>
    rw [hget, Option.some.injEq]
    by_cases hempty : hint = ""
    · rw [if_pos hempty]
      constructor
      · exact fun h => by cases h
      · rintro ⟨-, hne, hname⟩
        exact absurd (hname.symm.trans hempty) hne
    · simp only [if_neg hempty, List.mem_filter, decide_eq_true_eq]
      constructor
      · rintro ⟨hfield, rfl⟩
        exact ⟨hfield, hempty, rfl⟩
      · rintro ⟨hfield, -, hname⟩
        exact ⟨hfield, hname.symm⟩
  · next hget => simp [hget]

theorem mem_renameTargets {context : DataHubContext} {missingField name : String} :
    name ∈ renameTargets kit context missingField ↔
      ∃ field, ToldRename kit context missingField field ∧ field.name = name := by
  simp only [renameTargets, List.mem_dedup, List.mem_map, List.mem_append, List.mem_filter,
    mem_hintedFields, explicitRename_iff, ToldRename, and_or_left]

/-- A list without repetitions that has this one member. -/
theorem eq_singleton_iff {l : List String} (hl : l.Nodup) {a : String} :
    l = [a] ↔ ∀ b, b ∈ l ↔ b = a := by
  constructor
  · rintro rfl b
    exact List.mem_singleton
  · intro h
    exact List.perm_singleton.mp ((List.perm_ext_iff_of_nodup hl (List.nodup_singleton a)).mpr
      fun b => by rw [h b, List.mem_singleton])

/-- The planner answers with a finding exactly if the finding is documented. -/
theorem plan_eq_ok_iff {context : DataHubContext} {relative : String} {columns : List String}
    {finding : Finding} : contextFailures context = [] ∧ plan py kit context relative columns = .ok finding ↔
      Documented kit context relative columns finding := by
  have hmissing : ∀ name, missingFields context columns = [name] ↔
      ∀ other, other ∈ columns ∧ other ∉ context.sourceFields.map (·.name) ↔ other = name := by
    intro name
    rw [eq_singleton_iff missingFields_nodup]
    simp only [mem_missingFields]
  have htargets : ∀ missing name, renameTargets kit context missing = [name] ↔
      ∀ other, (∃ field, ToldRename kit context missing field ∧ field.name = other) ↔ other = name := by
    intro missing name
    rw [eq_singleton_iff (renameTargets_nodup kit)]
    simp only [mem_renameTargets]
  constructor
  · rintro ⟨hvalid, hplan⟩
    obtain ⟨htransport, htraces, -, hdownstream, howners⟩ := contextFailures_eq_nil.mp hvalid
    unfold plan at hplan
    split at hplan
    · next missing hone =>
      split at hplan
      · next replacement htarget =>
        cases hplan
        exact ⟨htransport, htraces, howners, hdownstream, (hmissing _).mp hone, (htargets _ _).mp htarget, rfl⟩
      · cases hplan
    · cases hplan
  · intro h
    obtain ⟨field, hfield, -⟩ := (h.renamed finding.replacementField).mpr rfl
    refine ⟨contextFailures_eq_nil.mpr ⟨h.transport, h.traces, List.ne_nil_of_mem hfield.1, h.downstream,
      h.owners⟩, ?_⟩
    rw [plan, (hmissing finding.missingField).mpr h.missing]
    simp only [(htargets finding.missingField finding.replacementField).mpr h.renamed]
    rw [← h.stated]

/-- The rename of a text, as many times as its SQL has a column of the missing field: only
where no character of an identifier touches it, and until no such column is left. -/
structure Renames (finding : Finding) (before after : String) : Prop where
  counted : ∃ columns, kit.columns before = .ok columns ∧
    columns.count finding.missingField = finding.referenceCount
  positive : 0 < finding.referenceCount
  cut : ∃ replacement gaps, kit.expand finding.missingField finding.replacementField = .ok replacement ∧
    CutAt finding.missingField.toList replacement.toList before.toList none
      (after.toList, finding.referenceCount) gaps
  gone : ∃ columns, kit.columns after = .ok columns ∧ finding.missingField ∉ columns

theorem safePatch_renames {finding : Finding} {before after : String}
    (h : safePatch kit finding before = .ok after) : Renames kit finding before after := by
  simp only [safePatch, bind_eq_ok, require_eq_ok, Bool.and_eq_true, decide_eq_true_eq, Bool.not_eq_true'] at h
  obtain ⟨columns, hcolumns, _, ⟨hcount, hne⟩, ⟨text, replacements⟩, hpatched, _, hreplacements, left, hleft,
    _, hgone, h⟩ := h
  cases h
  simp only [patched, bind_eq_ok] at hpatched
  obtain ⟨replacement, hexpand, hpatched⟩ := hpatched
  cases hpatched
  obtain ⟨gaps, hgaps⟩ := substituted_cut finding.missingField.toList replacement.toList before.toList
  refine ⟨⟨columns, hcolumns, hcount⟩, by omega, ⟨replacement, gaps, hexpand, ?_⟩, left, hleft,
    by simpa using hgone⟩
  rw [String.toList_ofList, ← hreplacements]
  exact hgaps

/-- The arguments of a run. -/
structure Job where
  workspace : String
  sourceUrn : String
  targetUrn : String
  relative : String
  table : String

def Job.sqlPath (job : Job) : String := underWorkspace job.workspace job.relative

/-- The calls that a run has made, with their replies. -/
abbrev AgentHistory := List (Σ c : AgentCall, Result c.Reply)

/-- What a run was told and what it made of it. -/
structure Course where
  runId : String
  original : String
  context : DataHubContext
  sql : String
  finding : Finding
  test : String
  red : CommandResult
  source : String
  renamed : String
  second : CommandResult

namespace Course
variable (c : Course) (job : Job)

/-- The calls before the first write. -/
def reading : AgentHistory := [⟨.newRunId, .ok c.runId⟩, ⟨.readText job.sqlPath, .ok c.original⟩,
  ⟨.load job.sourceUrn job.targetUrn, .ok c.context⟩, ⟨.readText job.sqlPath, .ok c.sql⟩,
  ⟨.makeTests (job.workspace ++ "/tests"), .ok ()⟩]

/-- The calls before the patch is written. -/
def testing : AgentHistory := c.reading job ++ [
  ⟨.writeText (regressionPath job.workspace) (regressionBody c.finding job.table), .ok ()⟩,
  ⟨.readText (regressionPath job.workspace), .ok c.test⟩, ⟨.regression job.workspace, .ok c.red⟩,
  ⟨.readText job.sqlPath, .ok c.source⟩]

/-- The calls up to the second regression. -/
def patching : AgentHistory := c.testing job ++ [⟨.writeText job.sqlPath c.renamed, .ok ()⟩,
  ⟨.regression job.workspace, .ok c.second⟩]

/-- The finding is documented for the columns of the text that the planner read. -/
def Planned : Prop := ∃ columns, kit.columns c.sql = .ok columns ∧
  Documented kit c.context job.relative columns c.finding

/-- The regression was red, and the patch renames the text read after it. -/
structure Repaired : Prop where
  planned : c.Planned kit job
  red : c.red.returncode ≠ 0
  renames : Renames kit c.finding c.source c.renamed

end Course

/-- What must have happened before the agent writes a file, reports or seals the evidence. -/
def AgentCall.Justified (job : Job) (h : AgentHistory) : AgentCall → Prop
  | .writeText path text => ∃ c : Course,
      (c.Planned kit job ∧ h = c.reading job ∧ path = regressionPath job.workspace ∧
        text = regressionBody c.finding job.table) ∨
      (c.Repaired kit job ∧ h = c.testing job ∧ path = job.sqlPath ∧ text = c.renamed) ∨
      (c.Repaired kit job ∧ h = c.patching job ∧ c.second.returncode ≠ 0 ∧ path = job.sqlPath ∧
        text = c.original)
  | .writeVerified entityUrn runId => ∃ c : Course, c.Repaired kit job ∧ h = c.patching job ∧
      c.second.returncode = 0 ∧ entityUrn = job.targetUrn ∧ runId = c.runId
  | .writeEvidence result => ∃ (c : Course) (writeback : Json), c.Repaired kit job ∧
      h = c.patching job ++ [⟨.writeVerified job.targetUrn c.runId, .ok writeback⟩] ∧
      c.second.returncode = 0 ∧ result.runId = c.runId ∧ result.status = "verified-fixed" ∧
      result.finding = c.finding ∧ result.context = c.context ∧ result.regressionTest = c.test ∧
      result.before = c.red ∧ result.after = c.second ∧ result.writeback = writeback ∧
      result.patch = kit.unifiedDiff c.source c.renamed ("a/" ++ c.finding.repositoryFile)
        ("b/" ++ c.finding.repositoryFile)
  | _ => True

theorem run_guarded (job : Job) : (run py kit job.workspace job.sourceUrn job.targetUrn job.relative
    job.table).Guarded (Prog.recording (AgentCall.Justified kit job)) (fun _ _ => True) [] := by
  simp only [run, patchOnRed, analyze, buildRegressionTest, applyMinimalIdentifierPatch, finishOnGreen,
    bind_assoc, pure_bind, AgentCall.run]
  refine Prog.recorded_bind trivial (fun _ => trivial) fun runId => ?_
  refine Prog.recorded_bind trivial (fun _ => trivial) fun original => ?_
  refine Prog.recorded_bind trivial (fun _ => trivial) fun context => ?_
  refine Prog.Guarded.lift_bind (fun _ _ => trivial) fun _ hvalid => ?_
  refine Prog.recorded_bind trivial (fun _ => trivial) fun sql => ?_
  refine Prog.Guarded.lift_bind (fun _ _ => trivial) fun columns hcolumns => ?_
  refine Prog.Guarded.lift_bind (fun _ _ => trivial) fun finding hfinding => ?_
  have hdocumented := (plan_eq_ok_iff py kit).mp ⟨of_decide_eq_true (require_eq_ok.mp hvalid), hfinding⟩
  refine Prog.recorded_bind trivial (fun _ => trivial) fun _ => ?_
  have hplanned : ∀ test red source renamed second,
      (Course.mk runId original context sql finding test red source renamed second).Planned kit job :=
    fun _ _ _ _ _ => ⟨columns, hcolumns, hdocumented⟩
  refine Prog.recorded_bind ?_ (fun _ => trivial) fun _ => ?_
  · exact ⟨⟨runId, original, context, sql, finding, "", ⟨[], 0, ""⟩, "", "", ⟨[], 0, ""⟩⟩,
      .inl ⟨hplanned .., rfl, rfl, rfl⟩⟩
  refine Prog.recorded_bind trivial (fun _ => trivial) fun test => ?_
  refine Prog.recorded_bind trivial (fun _ => trivial) fun red => ?_
  refine Prog.Guarded.lift_bind (fun _ _ => trivial) fun _ hred => ?_
  refine Prog.recorded_bind trivial (fun _ => trivial) fun source => ?_
  refine Prog.Guarded.lift_bind (fun _ _ => trivial) fun renamed hrenamed => ?_
  have hrepaired : ∀ second,
      (Course.mk runId original context sql finding test red source renamed second).Repaired kit job :=
    fun _ => ⟨hplanned .., by simpa using require_eq_ok.mp hred, safePatch_renames kit hrenamed⟩
  refine Prog.recorded_bind ?_ (fun _ => trivial) fun _ => ?_
  · exact ⟨⟨runId, original, context, sql, finding, test, red, source, renamed, ⟨[], 0, ""⟩⟩,
      .inr (.inl ⟨hrepaired _, rfl, rfl, rfl⟩)⟩
  refine Prog.recorded_bind trivial (fun _ => trivial) fun second => ?_
  unfold Prog.onlyWhen
  split
  · next hnotGreen =>
    rw [bind_assoc]
    refine Prog.recorded_bind ?_ (fun _ => trivial) fun _ => trivial
    exact ⟨⟨runId, original, context, sql, finding, test, red, source, renamed, second⟩,
      .inr (.inr ⟨hrepaired _, rfl, hnotGreen, rfl, rfl⟩)⟩
  · next hgreen =>
    rw [pure_bind]
    have hsecond : second.returncode = 0 := of_not_not hgreen
    refine Prog.recorded_bind ?_ (fun _ => trivial) fun writeback => ?_
    · exact ⟨⟨runId, original, context, sql, finding, test, red, source, renamed, second⟩, hrepaired _, rfl,
        hsecond, rfl, rfl⟩
    · refine Prog.recorded_bind ?_ (fun _ => trivial) fun _ => trivial
      exact ⟨⟨runId, original, context, sql, finding, test, red, source, renamed, second⟩, writeback,
        hrepaired _, rfl, hsecond, rfl, rfl, rfl, rfl, rfl, rfl, rfl, rfl, rfl⟩

section Files
variable {Place : Type} [DecidableEq Place] (locate : String → Place)

/-- The text that is read of a file: every line end is a newline. -/
def readLines (raw : String) : String := String.ofList (universalNewlines raw.toList)

/-- Files that only the agent writes, found by their paths. A write that fails leaves the file
as it was or with a beginning of the text. -/
def Serves (files : Place → Option String) :
    (c : AgentCall) → Result c.Reply → (Place → Option String) → Prop
  | .readText path, reply, files' => files' = files ∧
      ∀ text, reply = .ok text → ∃ raw, files (locate path) = some raw ∧ text = readLines raw
  | .writeText path text, reply, files' =>
      (files' = Function.update files (locate path) (some text)) ∨
      (∃ e, reply = .error e) ∧ (files' = files ∨ ∃ left : String, left.toList <+: text.toList ∧
        files' = Function.update files (locate path) (some left))
  | _, _, files' => files' = files

/-- What a run leaves of the SQL file. -/
inductive LeavesFile (job : Job) (raw : Option String) (log : AgentHistory) :
    Result RunResult → Option String → Prop
  | finished {result : RunResult} {text renamed : String} (hraw : raw = some text)
      (hrenames : Renames kit result.finding (readLines text) renamed)
      (hgreen : result.after.returncode = 0) : LeavesFile job raw log (.ok result) (some renamed)
  | same (e : Exn) : LeavesFile job raw log (.error e) raw
  | restored {e : Exn} {text : String} (hraw : raw = some text) :
      LeavesFile job raw log (.error e) (some (readLines text))
  /-- A call failed behind the patch. -/
  | patched {e : Exn} {text renamed : String} {finding : Finding} {call : AgentCall}
      (hraw : raw = some text) (hrenames : Renames kit finding (readLines text) renamed)
      (hcall : ⟨call, .error e⟩ ∈ log) : LeavesFile job raw log (.error e) (some renamed)
  | torn {e : Exn} {text left : String} (hleft : left.toList <+: text.toList)
      (hcall : ⟨.writeText job.sqlPath text, .error e⟩ ∈ log) :
      LeavesFile job raw log (.error e) (some left)

variable {locate : String → Place} {files files' : Place → Option String}

/-- A write leaves all other files as they were. -/
theorem Serves.other {path text : String} {reply : Result Unit} {place : Place}
    (h : Serves locate files (.writeText path text) reply files') (hplace : place ≠ locate path) :
    files' place = files place := by
  rcases h with rfl | ⟨-, rfl | ⟨left, -, rfl⟩⟩
  · exact Function.update_of_ne hplace _ _
  · rfl
  · exact Function.update_of_ne hplace _ _

theorem Serves.written {path text : String} {reply : Result Unit}
    (h : Serves locate files (.writeText path text) reply files') (hreply : reply = .ok ()) :
    files' (locate path) = some text := by
  subst hreply
  rcases h with rfl | ⟨⟨e, he⟩, -⟩
  · exact Function.update_self ..
  · cases he

/-- What a failed write leaves. -/
theorem Serves.torn {path text : String} {e : Exn}
    (h : Serves locate files (.writeText path text) (.error e) files') :
    files' (locate path) = some text ∨ files' (locate path) = files (locate path) ∨
      ∃ left : String, left.toList <+: text.toList ∧ files' (locate path) = some left := by
  rcases h with rfl | ⟨-, rfl | ⟨left, hleft, rfl⟩⟩
  · exact .inl (Function.update_self ..)
  · exact .inr (.inl rfl)
  · exact .inr (.inr ⟨left, hleft, Function.update_self ..⟩)

/-- What a run leaves of the files, and what it ends in. -/
structure Leaves (locate : String → Place) (job : Job) (files : Place → Option String) (r : Result RunResult)
    (w : (Place → Option String) × AgentHistory) : Prop where
  file : LeavesFile kit job (files (locate job.sqlPath)) w.2 r (w.1 (locate job.sqlPath))
  others : ∀ place, place ≠ locate job.sqlPath → place ≠ locate (regressionPath job.workspace) →
    w.1 place = files place

section Leaves
omit [DecidableEq Place]
variable {kit} {job : Job} {files : Place → Option String} {h : AgentHistory} {e : Exn}

/-- The files apart from the generated test. -/
structure Kept (locate : String → Place) (job : Job) (files files' : Place → Option String) : Prop where
  file : files' (locate job.sqlPath) = files (locate job.sqlPath)
  others : ∀ place, place ≠ locate job.sqlPath → place ≠ locate (regressionPath job.workspace) →
    files' place = files place

theorem Kept.leaves (hkept : Kept locate job files files') :
    Leaves kit locate job files (.error e) (files', h) := by
  refine ⟨?_, hkept.others⟩
  dsimp only
  rw [hkept.file]
  exact .same e

theorem Kept.same {files₁ : Place → Option String} (hkept : Kept locate job files files₁)
    (hs : files' = files₁) : Kept locate job files files' := hs ▸ hkept

/-- The write of the generated test. -/
theorem Kept.test [DecidableEq Place] {text : String} {reply : Result Unit} {files₁ : Place → Option String}
    (hapart : locate job.sqlPath ≠ locate (regressionPath job.workspace)) (hkept : Kept locate job files files₁)
    (hs : Serves locate files₁ (.writeText (regressionPath job.workspace) text) reply files') :
    Kept locate job files files' :=
  ⟨(hs.other hapart).trans hkept.file, fun place hsql hplace =>
    (hs.other hplace).trans (hkept.others place hsql hplace)⟩

/-- The SQL file holds a new text. -/
structure Holds (locate : String → Place) (job : Job) (files : Place → Option String) (text : String)
    (files' : Place → Option String) : Prop where
  file : files' (locate job.sqlPath) = some text
  others : ∀ place, place ≠ locate job.sqlPath → place ≠ locate (regressionPath job.workspace) →
    files' place = files place

/-- A call that fails while the file holds the renamed text. -/
theorem Holds.leaves {raw renamed : String} {finding : Finding} {call : AgentCall}
    (hholds : Holds locate job files renamed files') (hraw : files (locate job.sqlPath) = some raw)
    (hrenames : Renames kit finding (readLines raw) renamed) :
    Leaves kit locate job files (.error e) (files', h ++ [⟨call, .error e⟩]) := by
  refine ⟨?_, hholds.others⟩
  dsimp only
  rw [hholds.file]
  exact .patched hraw hrenames (List.mem_append_right h (List.mem_singleton_self _))

theorem Holds.same {text : String} {files₁ : Place → Option String} (hholds : Holds locate job files text files₁)
    (hs : files' = files₁) : Holds locate job files text files' := hs ▸ hholds

theorem Holds.write [DecidableEq Place] {text : String} {reply : Result Unit}
    {files₁ : Place → Option String} (hothers : ∀ place, place ≠ locate job.sqlPath →
      place ≠ locate (regressionPath job.workspace) → files₁ place = files place)
    (hs : Serves locate files₁ (.writeText job.sqlPath text) reply files') (hreply : reply = .ok ()) :
    Holds locate job files text files' :=
  ⟨hs.written hreply, fun place hsql hplace => (hs.other hsql).trans (hothers place hsql hplace)⟩

/-- A write of the SQL file that fails leaves the text, what was there or a beginning. -/
theorem leaves_torn [DecidableEq Place] {text : String} {files₁ : Place → Option String}
    (hothers : ∀ place, place ≠ locate job.sqlPath →
      place ≠ locate (regressionPath job.workspace) → files₁ place = files place)
    (hs : Serves locate files₁ (.writeText job.sqlPath text) (.error e) files')
    (htext : LeavesFile kit job (files (locate job.sqlPath))
      (h ++ [⟨.writeText job.sqlPath text, .error e⟩]) (.error e) (some text))
    (hbefore : LeavesFile kit job (files (locate job.sqlPath))
      (h ++ [⟨.writeText job.sqlPath text, .error e⟩]) (.error e) (files₁ (locate job.sqlPath))) :
    Leaves kit locate job files (.error e) (files', h ++ [⟨.writeText job.sqlPath text, .error e⟩]) := by
  refine ⟨?_, fun place hsql hplace => (hs.other hsql).trans (hothers place hsql hplace)⟩
  dsimp only
  rcases hs.torn with hwritten | hsame | ⟨left, hleft, htorn⟩
  · rw [hwritten]
    exact htext
  · rw [hsame]
    exact hbefore
  · rw [htorn]
    exact .torn hleft (List.mem_append_right h (List.mem_singleton_self _))

end Leaves

theorem run_leaves (job : Job) (hapart : locate job.sqlPath ≠ locate (regressionPath job.workspace))
    (files now : Place → Option String) (hkept : Kept locate job files now) : (run py kit job.workspace job.sourceUrn job.targetUrn job.relative
      job.table).Guarded (.alone (Prog.Keeping (Serves locate)) fun _ _ => True)
        (Leaves kit locate job files) (now, []) := by
  simp only [run, patchOnRed, analyze, buildRegressionTest, applyMinimalIdentifierPatch, finishOnGreen,
    bind_assoc, pure_bind, AgentCall.run]
  refine Prog.keeping_bind (fun _ _ hs => (hkept.same hs).leaves) fun runId _ hs => ?_
  subst hs
  refine Prog.keeping_bind (fun _ _ hs => (hkept.same hs.1).leaves) fun original _ hs => ?_
  obtain ⟨rfl, horiginal⟩ := hs
  obtain ⟨raw, hraw, rfl⟩ := horiginal _ rfl
  have hfile : files (locate job.sqlPath) = some raw := hkept.file.symm.trans hraw
  refine Prog.keeping_bind (fun _ _ hs => (hkept.same hs).leaves) fun context _ hs => ?_
  subst hs
  refine Prog.Guarded.lift_bind (fun _ _ => hkept.leaves) fun _ _ => ?_
  refine Prog.keeping_bind (fun _ _ hs => (hkept.same hs.1).leaves) fun sql _ hs => ?_
  obtain ⟨rfl, -⟩ := hs
  refine Prog.Guarded.lift_bind (fun _ _ => hkept.leaves) fun columns _ => ?_
  refine Prog.Guarded.lift_bind (fun _ _ => hkept.leaves) fun finding _ => ?_
  refine Prog.keeping_bind (fun _ _ hs => (hkept.same hs).leaves) fun _ _ hs => ?_
  subst hs
  -- the generated test is written; the SQL file stays
  refine Prog.keeping_bind (fun _ _ hs => (hkept.test hapart hs).leaves) fun _ files₁ hs => ?_
  have hkept₁ := hkept.test hapart hs
  refine Prog.keeping_bind (fun _ _ hs => (hkept₁.same hs.1).leaves) fun test _ hs => ?_
  obtain ⟨rfl, -⟩ := hs
  refine Prog.keeping_bind (fun _ _ hs => (hkept₁.same hs).leaves) fun red _ hs => ?_
  subst hs
  refine Prog.Guarded.lift_bind (fun _ _ => hkept₁.leaves) fun _ _ => ?_
  refine Prog.keeping_bind (fun _ _ hs => (hkept₁.same hs.1).leaves) fun source _ hs => ?_
  obtain ⟨rfl, hsource⟩ := hs
  obtain ⟨raw', hraw', rfl⟩ := hsource _ rfl
  obtain rfl : raw = raw' := Option.some.inj (hfile.symm.trans (hkept₁.file.symm.trans hraw'))
  refine Prog.Guarded.lift_bind (fun _ _ => hkept₁.leaves) fun renamed hrenamed => ?_
  have hrenames := safePatch_renames kit hrenamed
  refine Prog.keeping_bind (fun _ _ hs => leaves_torn hkept₁.others hs
    (.patched hfile hrenames (List.mem_append_right _ (List.mem_singleton_self _))) ?_) fun _ files₂ hs => ?_
  · rw [hkept₁.file]
    exact .same _
  have hpatched : Holds locate job files renamed files₂ := Holds.write hkept₁.others hs rfl
  refine Prog.keeping_bind (fun _ _ hs => (hpatched.same hs).leaves hfile hrenames) fun second _ hs => ?_
  subst hs
  unfold Prog.onlyWhen
  split
  · rw [bind_assoc]
    refine Prog.keeping_bind (fun _ _ hs => leaves_torn hpatched.others hs (.restored hfile) ?_)
      fun _ files₃ hs => ?_
    · rw [hpatched.file]
      exact .patched hfile hrenames (List.mem_append_right _ (List.mem_singleton_self _))
    · have hrestored : Holds locate job files (readLines raw) files₃ := Holds.write hpatched.others hs rfl
      refine ⟨?_, hrestored.others⟩
      dsimp only
      rw [hrestored.file]
      exact .restored hfile
  · next hgreen =>
    rw [pure_bind]
    refine Prog.keeping_bind (fun _ _ hs => (hpatched.same hs).leaves hfile hrenames) fun writeback _ hs => ?_
    subst hs
    refine Prog.keeping_bind (fun _ _ hs => (hpatched.same hs).leaves hfile hrenames) fun _ _ hs => ?_
    subst hs
    refine ⟨?_, hpatched.others⟩
    dsimp only
    rw [hpatched.file]
    exact .finished hfile hrenames (of_not_not hgreen)

end Files

def sampleQuery : String := "SELECT customer_id FROM orders\n"

def sampleQueryAfter : String := "SELECT customer_key FROM orders\n"

/-- The columns of the two queries, and the diff of one line. -/
def sampleKit : Toolkit where
  columns text := if text = sampleQuery then .ok ["customer_id"]
    else if text = sampleQueryAfter then .ok ["customer_key"] else raise (.other "ParseError") text
  sameLetter a b := a.toLower == b.toLower
  expand _ template := .ok template
  unifiedDiff before after fromfile tofile :=
    "--- " ++ fromfile ++ "\n+++ " ++ tofile ++ "\n@@ -1 +1 @@\n-" ++ before ++ "+" ++ after

def sampleJob : Job := ⟨"work", "urn:li:dataset:orders", "urn:li:dataset:revenue", "pipeline/revenue.sql",
  "orders"⟩

def sampleContext : DataHubContext where
  sourceUrn := sampleJob.sourceUrn
  targetUrn := sampleJob.targetUrn
  sourceFields := [⟨"customer_key", "INTEGER", "Canonical key; renamed from customer_id in schema v2."⟩,
    ⟨"order_id", "INTEGER", ""⟩]
  downstreamUrns := [sampleJob.targetUrn]
  ownerUrns := ["urn:li:corpuser:oncall"]
  qualitySignals := []
  transport := "offline-replay-of-datahub-mcp"
  toolTraces := [.obj [("tool", .str "get_entities")]]

def sampleFiles (path : String) : Option String :=
  if path = sampleJob.sqlPath then some sampleQuery else none

/-- The regression is green once the file is renamed. -/
def workspaceAnswer (files : String → Option String) :
    (c : AgentCall) → Result c.Reply × (String → Option String)
  | .newRunId => (.ok "run-1", files)
  | .readText path => (match files path with
    | some raw => .ok (readLines raw)
    | none => raise .osError path, files)
  | .writeText path text => (.ok (), Function.update files path (some text))
  | .load _ _ => (.ok sampleContext, files)
  | .regression _ =>
    (.ok ⟨["python"], if files sampleJob.sqlPath = some sampleQueryAfter then 0 else 1, ""⟩, files)
  | .writeVerified _ _ => (.ok .null, files)
  | .makeTests _ | .writeEvidence _ => (.ok (), files)

theorem workspaceAnswer_serves {files files' : String → Option String} {c : AgentCall} {reply : Result c.Reply}
    (h : workspaceAnswer files c = (reply, files')) : Serves id files c reply files' := by
  cases c with
  | readText path =>
    obtain ⟨hreply, rfl⟩ := Prod.mk.inj h
    refine ⟨rfl, fun text htext => ?_⟩
    rw [htext] at hreply
    split at hreply
    · next raw hraw => exact ⟨raw, hraw, (Except.ok.inj hreply).symm⟩
    · cases hreply
  | writeText path text => exact .inl (Prod.mk.inj h).2.symm
  | _ => exact (Prod.mk.inj h).2.symm

def sampleRun : AgentProg RunResult :=
  run samplePython sampleKit sampleJob.workspace sampleJob.sourceUrn sampleJob.targetUrn sampleJob.relative
    sampleJob.table

def sealsEvidence (c : Σ c : AgentCall, Result c.Reply) : Bool :=
  match c.1 with
  | .writeEvidence _ => true
  | _ => false

/-- In every run, whatever others do in between, each call is justified by the ones before. -/
theorem fix_justified (job : Job) {σ : Type} (serve : σ → (c : AgentCall) → Result c.Reply → σ → Prop)
    (s s' : σ) (log : AgentHistory) (r : Result RunResult)
    (hrun : (run py kit job.workspace job.sourceUrn job.targetUrn job.relative job.table).Runs serve s log r s')
    (before after : AgentHistory) (call : AgentCall) (reply : Result call.Reply)
    (hlog : log = before ++ ⟨call, reply⟩ :: after) : call.Justified kit job before :=
  ((run_guarded py kit job).of_recorded_run hrun).2 before ⟨call, reply⟩ after hlog

/-- The evidence of the sample run. -/
theorem sample_evidenced : ∃ before result, (AgentCall.writeEvidence result).Justified sampleKit sampleJob before := by
  have hseals : (sampleRun.trace workspaceAnswer sampleFiles).any sealsEvidence = true := by
    decide +kernel
  obtain ⟨⟨op, reply⟩, hmem, hseal⟩ := List.any_eq_true.mp hseals
  obtain ⟨before, after, hlog⟩ := List.append_of_mem hmem
  have hjustified := fix_justified samplePython sampleKit sampleJob _ _ _ _ _
    (Prog.runs_exec workspaceAnswer sampleRun sampleFiles) before after op reply hlog
  cases op with
  | writeEvidence result => exact ⟨before, result, hjustified⟩
  | _ => cases hseal

/-- In every run on files that only the agent writes, the SQL file ends renamed, as it was or
as it was read, unless a call failed behind the patch; all other files but the test stay. -/
theorem fix_leaves {Place : Type} [DecidableEq Place] (locate : String → Place) (job : Job)
    (hapart : locate job.sqlPath ≠ locate (regressionPath job.workspace))
    (files files' : Place → Option String) (log : AgentHistory) (r : Result RunResult)
    (hrun : (run py kit job.workspace job.sourceUrn job.targetUrn job.relative job.table).Runs
      (Serves locate) files log r files') : Leaves kit locate job files r (files', log) :=
  (run_leaves py kit job hapart files files ⟨rfl, fun _ _ _ => rfl⟩).of_run (hrun.keeping [])

/-- The sample file ends renamed. -/
theorem sample_leaves : ∃ files' log result,
    Leaves sampleKit id sampleJob sampleFiles (.ok result) (files', log) := by
  have hok : (sampleRun.exec workspaceAnswer sampleFiles).1.isOk = true := by decide +kernel
  have hrun := (Prog.runs_exec workspaceAnswer sampleRun sampleFiles).mono
    fun _ _ _ _ h => workspaceAnswer_serves h
  cases hend : (sampleRun.exec workspaceAnswer sampleFiles).1 with
  | error e =>
    rw [hend] at hok
    cases hok
  | ok result =>
    rw [hend] at hrun
    exact ⟨_, _, result, fix_leaves samplePython sampleKit id sampleJob (by decide) sampleFiles _ _ _ hrun⟩

end LineageTX.FixAgent
