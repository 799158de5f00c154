import LineageTX.NonInterference
import LineageTX.Library.Gaps

/-! What the rename of a SQL text replaces: the occurrences of the old field that no character
of an identifier touches. The rest of the text stays between them. -/
namespace LineageTX
open Library

namespace DbtSqlParticipant
variable {old new cs : List Char} {before : Option Char}

/-- The character before a place, with the one before the text. -/
def charBefore (before : Option Char) (cs : List Char) : Nat → Option Char
  | 0 => before
  | place + 1 => cs[place]?

/-- An occurrence of the old field that no character of an identifier touches. -/
structure BoundedAt (old : List Char) (before : Option Char) (cs : List Char) (place : Nat) : Prop where
  occurs : old <+: cs.drop place
  left : (charBefore before cs place).any isWord = false
  right : cs[place + old.length]?.any isWord = false

theorem charBefore_succ (c : Char) (place : Nat) :
    charBefore before (c :: cs) (place + 1) = charBefore (some c) cs place := by
  cases place with
  | zero => rfl
  | succ place => rfl

/-- Inside a match the pass goes on without looking. -/
theorem renameFrom_skip (skip : Nat) (hskip : skip ≤ cs.length) :
    renameFrom old new skip before cs =
      renameFrom old new 0 (charBefore before cs skip) (cs.drop skip) := by
  induction skip generalizing before cs with
  | zero => rfl
  | succ skip ih =>
    cases cs with
    | nil => simp at hskip
    | cons c cs =>
      rw [renameFrom, ih (by simpa using hskip), charBefore_succ, List.drop_succ_cons]

/-- The pass takes an occurrence exactly where it is bounded. -/
theorem boundedAt_zero {c : Char} : BoundedAt old before (c :: cs) 0 ↔
    (!before.any isWord && old.isPrefixOf (c :: cs) &&
      !((c :: cs).drop old.length).head?.any isWord) = true := by
  simp only [Bool.and_eq_true, Bool.not_eq_true', List.isPrefixOf_iff_prefix, List.head?_drop]
  constructor
  · intro h
    exact ⟨⟨h.left, h.occurs⟩, by simpa using h.right⟩
  · rintro ⟨⟨hleft, hoccurs⟩, hright⟩
    exact ⟨hoccurs, hleft, by simpa using hright⟩

theorem BoundedAt.pred {c : Char} {place : Nat} (h : BoundedAt old before (c :: cs) (place + 1)) :
    BoundedAt old (some c) cs place := by
  refine ⟨h.occurs, ?_, ?_⟩
  · rw [← charBefore_succ]
    exact h.left
  · have hright := h.right
    rwa [show place + 1 + old.length = place + old.length + 1 by omega, List.getElem?_cons_succ] at hright

theorem BoundedAt.drop {width place : Nat} (hwidth : width ≤ cs.length)
    (h : BoundedAt old before cs (place + width)) :
    BoundedAt old (charBefore before cs width) (cs.drop width) place := by
  induction width generalizing before cs with
  | zero => exact h
  | succ width ih =>
    cases cs with
    | nil => simp at hwidth
    | cons c cs =>
      rw [charBefore_succ]
      exact ih (by simpa using hwidth) h.pred

/-- Two bounded occurrences do not overlap. -/
theorem BoundedAt.apart (hword : ∀ c ∈ old, isWord c = true) (hfirst : BoundedAt old before cs 0)
    {place : Nat} (h : BoundedAt old before cs place) : place = 0 ∨ old.length ≤ place := by
  by_contra hinside
  obtain ⟨hpos, hlt⟩ := not_or.mp hinside
  obtain ⟨inner, rfl⟩ := Nat.exists_eq_succ_of_ne_zero hpos
  have hinner : inner < old.length := by omega
  obtain ⟨rest, hrest⟩ := hfirst.occurs
  have hchar : cs[inner]? = some old[inner] := by
    rw [List.drop_zero] at hrest
    rw [← hrest, List.getElem?_append_left hinner, List.getElem?_eq_getElem hinner]
  have hleft := h.left
  rw [show charBefore before cs inner.succ = cs[inner]? from rfl, hchar] at hleft
  simp [hword _ (List.getElem_mem hinner)] at hleft

/-- A match is replaced, and the pass goes on behind it. -/
theorem renameFrom_match {c : Char} (hne : old ≠ []) (h : BoundedAt old before (c :: cs) 0) :
    renameFrom old new 0 before (c :: cs) =
      (new ++ (renameFrom old new 0 (charBefore before (c :: cs) old.length)
        ((c :: cs).drop old.length)).1,
      (renameFrom old new 0 (charBefore before (c :: cs) old.length)
        ((c :: cs).drop old.length)).2 + 1) := by
  obtain ⟨width, hwidth⟩ := Nat.exists_eq_succ_of_ne_zero (List.length_pos_iff.mpr hne).ne'
  have hfits := h.occurs.length_le
  rw [List.drop_zero, hwidth, List.length_cons] at hfits
  rw [renameFrom, if_pos (boundedAt_zero.mp h), hwidth, charBefore_succ, List.drop_succ_cons,
    Nat.succ_sub_one, renameFrom_skip width (by omega)]

/-- The text is cut at its bounded occurrences, and the pass puts the new field there. -/
theorem renameFrom_gaps (hword : ∀ c ∈ old, isWord c = true) (hne : old ≠ [])
    (before : Option Char) (cs : List Char) : ∃ gaps, gaps ≠ [] ∧
      cs = old.intercalate gaps ∧ renameFrom old new 0 before cs = (new.intercalate gaps, gaps.length - 1) ∧
      ∀ place, BoundedAt old before cs place → place ∈ places old.length gaps := by
  induction hlen : cs.length using Nat.strongRecOn generalizing before cs with
  | ind n ih =>
    cases cs with
    | nil =>
      refine ⟨[[]], by simp, rfl, rfl, fun place h => ?_⟩
      have hnil := h.occurs
      simp [hne] at hnil
    | cons c cs =>
      by_cases hmatch : BoundedAt old before (c :: cs) 0
      · obtain ⟨rest, hrest⟩ := hmatch.occurs
        rw [List.drop_zero] at hrest
        have hdrop : (c :: cs).drop old.length = rest := by rw [← hrest, List.drop_left]
        have hfits : old.length ≤ (c :: cs).length := by
          rw [← hrest, List.length_append]
          omega
        have hless : rest.length < n := by
          have hpos := List.length_pos_iff.mpr hne
          rw [← hlen, ← hrest, List.length_append]
          omega
        obtain ⟨gaps, hgaps, hcs, hrename, hplaces⟩ :=
          ih rest.length hless (charBefore before (c :: cs) old.length) rest rfl
        refine ⟨[] :: gaps, by simp, ?_, ?_, fun place h => ?_⟩
        · rw [intercalate_nil_cons hgaps, ← hcs, hrest]
        · rw [renameFrom_match hne hmatch, hdrop, hrename, intercalate_nil_cons hgaps]
          have hpos := List.length_pos_iff.mpr hgaps
          simp only [List.length_cons, Prod.mk.injEq, true_and]
          omega
        · rw [mem_places_cons hgaps]
          rcases hmatch.apart hword h with hzero | hlater
          · exact .inl hzero
          · obtain ⟨later, rfl⟩ := Nat.exists_eq_add_of_le' hlater
            have hbounded := h.drop hfits
            rw [hdrop] at hbounded
            exact .inr ⟨later, hplaces later hbounded, by simp⟩
      · obtain ⟨gaps, hgaps, hcs, hrename, hplaces⟩ := ih cs.length (by simp [← hlen]) (some c) cs rfl
        cases gaps with
        | nil => exact absurd rfl hgaps
        | cons gap gaps =>
          refine ⟨(c :: gap) :: gaps, by simp, ?_, ?_, fun place h => ?_⟩
          · rw [intercalate_cons_grow, ← hcs]
          · rw [renameFrom, if_neg (mt boundedAt_zero.mpr hmatch), hrename, intercalate_cons_grow]
            rfl
          · cases place with
            | zero => exact absurd h hmatch
            | succ place => exact mem_places_grow c (hplaces place h.pred)

theorem isWordText_chars {text : String} (h : isWordText text = true) :
    text.toList ≠ [] ∧ ∀ c ∈ text.toList, isWord c = true := by
  unfold isWordText at h
  split at h
  · cases h
  · next c cs hcs =>
    simp only [Bool.and_eq_true, Bool.or_eq_true, decide_eq_true_eq, List.all_eq_true] at h
    refine ⟨by simp [hcs], fun d hd => ?_⟩
    rw [hcs] at hd
    rcases List.mem_cons.mp hd with rfl | htail
    · rcases h.1 with halpha | hunder
      · simp [isWord, Char.isAlphanum, halpha]
      · simp [isWord, hunder]
    · exact h.2 d htail

/-- The text between the occurrences stays where it is. -/
theorem renameIdentifier_gaps {policy : PolicyData} (hold : isWordText policy.oldField = true)
    (text : String) : ∃ gaps, gaps ≠ [] ∧ text.toList = policy.oldField.toList.intercalate gaps ∧
      (renameIdentifier policy text).1.toList = policy.newField.toList.intercalate gaps ∧
      (renameIdentifier policy text).2 = gaps.length - 1 ∧
      ∀ place, BoundedAt policy.oldField.toList none text.toList place →
        place ∈ places policy.oldField.toList.length gaps := by
  obtain ⟨hne, hword⟩ := isWordText_chars hold
  obtain ⟨gaps, hgaps, htext, hrename, hplaces⟩ :=
    renameFrom_gaps hword hne none text.toList
  refine ⟨gaps, hgaps, htext, ?_, ?_, hplaces⟩
  · rw [renameIdentifier, String.toList_ofList, hrename]
  · rw [renameIdentifier, hrename]

section Verified
variable {py : Python} {lib : SqlLibrary} {env : Surroundings} {session : RepositorySession}
  {proposal : DbtSqlProposal} {policy : PolicyData} {wt wt' : Worktree} {r : PreparationResult}

theorem validateIdentifiers_eq_ok (h : validateIdentifiers py policy = .ok ()) :
    isWordText policy.oldField = true ∧ isWordText policy.newField = true := by
  simp only [validateIdentifiers, requireCandidate, List.forM_eq_forM, List.forM_cons, bind_eq_ok,
    require_eq_ok] at h
  obtain ⟨_, hold, _, hnew, -⟩ := h
  exact ⟨hold, hnew⟩

theorem checkSelect_eq_ok {tree tree' : SqlStatement} {relation : String}
    (h : checkSelect tree relation = .ok tree') : tree' = tree := by
  simp only [checkSelect, bind_eq_ok] at h
  obtain ⟨_, -, h⟩ := h
  split at h
  · simp only [bind_eq_ok] at h
    obtain ⟨_, -, _, -, _, -, ⟨⟩⟩ := h
    rfl
  · cases h

theorem parseStatements_eq_ok {sql dialect : String} {trees : List SqlStatement}
    (h : parseStatements lib sql dialect = .ok trees) :
    ∃ statements, lib.parse sql dialect = .ok statements ∧ ∀ tree ∈ trees, some tree ∈ statements := by
  unfold parseStatements at h
  split at h
  · next statements hparse =>
    cases h
    refine ⟨statements, hparse, fun tree htree => ?_⟩
    simpa using htree
  · split at h
    · cases h
    · cases h

theorem singleBoundedSelect_eq_ok {sql dialect relation : String} {tree : SqlStatement}
    (h : singleBoundedSelect lib sql dialect relation = .ok tree) :
    ∃ statements, lib.parse sql dialect = .ok statements ∧ some tree ∈ statements := by
  simp only [singleBoundedSelect, bind_eq_ok] at h
  obtain ⟨trees, htrees, h⟩ := h
  obtain ⟨statements, hparse, hmem⟩ := parseStatements_eq_ok htrees
  refine ⟨statements, hparse, ?_⟩
  split at h
  · simp only [bind_eq_ok] at h
    obtain ⟨_, -, h⟩ := h
    rw [checkSelect_eq_ok h]
    exact hmem _ (by simp)
  · cases h

/-- What a verified candidate was made from and what was written. -/
theorem prepare_verified (h : prepare py lib env session proposal policy wt = (.ok r, wt')) :
    ∃ path target before statements tree, policy.path 0 = .ok path ∧
      trustedText py wt path = .ok (target, before) ∧
      wt' = wt.write target (renameIdentifier policy before).1.toUTF8 ∧
      (isWordText policy.oldField = true ∧ isWordText policy.newField = true) ∧
      lib.parse before (policy.dialect.getD "") = .ok statements ∧ some tree ∈ statements ∧
      tree.columns.count policy.oldField = (renameIdentifier policy before).2 := by
  unfold prepare at h
  split at h
  · cases h
  · next candidate replacements hplan =>
    split at h
    · cases h
    · next changed wt₁ happly =>
      obtain ⟨-, rfl⟩ := Prod.mk.inj h
      simp only [plan, requireCandidate, bind_eq_ok, require_eq_ok, decide_eq_true_eq] at hplan
      obtain ⟨_, -, _, hwords, _, -, path, hpath, ⟨target, before⟩, htext, tree, htree, _, -, _,
        hreferences, _, hreplacements, _, -, _, -, _, -, bytes, -, ⟨⟩⟩ := hplan
      obtain ⟨statements, hparse, hmem⟩ := singleBoundedSelect_eq_ok htree
      refine ⟨path, target, before, statements, tree, hpath, checkedText_eq_ok py htext,
        Candidate.apply_eq_ok happly, validateIdentifiers_eq_ok hwords, hparse, hmem, ?_⟩
      exact Int.ofNat_inj.mp (hreferences.trans hreplacements.symm)

end Verified
end DbtSqlParticipant

section Bytes
open DbtSqlParticipant
variable {py : Python}

theorem trustedText_eq_ok {wt : Worktree} {path target value : String}
    (h : trustedText py wt path = .ok (target, value)) : safeTarget py wt path = .ok target ∧
      ∃ bytes text, wt.file target = some bytes ∧ String.fromUTF8? bytes = some text ∧
        value = String.ofList (universalNewlines text.toList) := by
  simp only [trustedText, bind_eq_ok] at h
  obtain ⟨target', htarget, value', hvalue, ⟨⟩⟩ := h
  refine ⟨htarget, ?_⟩
  unfold readText at hvalue
  split at hvalue
  · cases hvalue
  · next bytes hbytes =>
    split at hvalue
    · cases hvalue
    · next text htext =>
      cases hvalue
      exact ⟨bytes, text, hbytes, htext, rfl⟩

/-- A carriage return stays: no identifier holds one. -/
theorem renameIdentifier_return {policy : PolicyData} (hold : isWordText policy.oldField = true)
    (hnew : isWordText policy.newField = true) {text : String} :
    '\r' ∈ (renameIdentifier policy text).1.toList ↔ '\r' ∈ text.toList := by
  have hnone : ∀ field, isWordText field = true → '\r' ∉ field.toList := fun field hfield hmem =>
    absurd ((isWordText_chars hfield).2 _ hmem) (by decide)
  obtain ⟨gaps, -, htext, hrename, -, -⟩ := renameIdentifier_gaps hold text
  rw [htext, hrename]
  constructor
  · intro hmem
    rcases of_mem_intercalate hmem with hfield | ⟨gap, hgap, hmem⟩
    · exact absurd hfield (hnone _ hnew)
    · exact mem_intercalate_of_mem hgap hmem
  · intro hmem
    rcases of_mem_intercalate hmem with hfield | ⟨gap, hgap, hmem⟩
    · exact absurd hfield (hnone _ hold)
    · exact mem_intercalate_of_mem hgap hmem

/-- The bytes that a verified candidate writes are those of the file with the field renamed,
exactly if the file has no carriage return. -/
theorem dbt_bytes_iff (lib : SqlLibrary) (env : Surroundings) (session : RepositorySession)
    (proposal : DbtSqlProposal) (policy : PolicyData) (wt wt' : Worktree) (r : PreparationResult)
    (path target text : String) (bytes : ByteArray)
    (h : prepare py lib env session proposal policy wt = (.ok r, wt'))
    (hpath : policy.path 0 = .ok path) (htarget : safeTarget py wt path = .ok target)
    (hbytes : wt.file target = some bytes) (htext : String.fromUTF8? bytes = some text) :
    wt'.file target = some (renameIdentifier policy text).1.toUTF8 ↔ '\r' ∉ text.toList := by
  obtain ⟨path', target', before, statements, tree, hpath', hbefore, rfl, ⟨hold, hnew⟩, -, -, -⟩ :=
    prepare_verified h
  cases hpath.symm.trans hpath'
  obtain ⟨htarget', bytes', text', hbytes', htext', rfl⟩ := trustedText_eq_ok hbefore
  cases htarget.symm.trans htarget'
  cases hbytes.symm.trans hbytes'
  cases htext.symm.trans htext'
  constructor
  · intro hsame hreturn
    have hwritten : (renameIdentifier policy (String.ofList (universalNewlines text.toList))).1 =
        (renameIdentifier policy text).1 := by
      simpa [Worktree.write, String.toUTF8, String.toByteArray_inj] using hsame
    have hkept := (renameIdentifier_return hold hnew).mpr hreturn
    rw [← hwritten, renameIdentifier_return hold hnew, String.toList_ofList] at hkept
    exact universalNewlines_noReturn _ hkept
  · intro hreturn
    rw [universalNewlines_eq_self hreturn, String.ofList_toList]
    simp [Worktree.write]

/-- A model whose comment has the old field within a longer name. -/
def sampleSql : String := "SELECT cust_id -- cust_ids\nFROM orders"

def sampleSqlAfter : String := "SELECT customer_id -- cust_ids\nFROM orders"

def sampleTree (column : String) : SqlStatement :=
  ⟨true, 1, [⟨true, "orders", "", ""⟩], 0, [], [column]⟩

/-- A library that knows the two texts. -/
def sampleSqlLibrary : SqlLibrary where
  parse text _ :=
    if text = sampleSql then .ok [some (sampleTree "cust_id")]
    else if text = sampleSqlAfter then .ok [some (sampleTree "customer_id")]
    else raise (.other "ParseError") "unexpected token"
  execute _ := .ok ()

/-- A worktree with one model. -/
def sqlWorktree (content : String) : Worktree where
  resolve := some
  file path := if path = "model.sql" then some content.toUTF8 else none

def sqlSurroundings (content : String) : Surroundings :=
  { sampleSurroundings with
    statusPaths := fun wt =>
      .ok (if wt.file "model.sql" = some content.toUTF8 then [] else ["model.sql"]) }

def sampleDbtPolicy : PolicyData :=
  { sampleAirflowPolicy with
    kind := .dbtSql, allowedPaths := ["model.sql"], relation := some "orders"
    dialect := some "duckdb", assignmentName := none, configKey := none }

def sampleDbtProposal : DbtSqlProposal where
  migrationId := "m"
  participantId := "p"
  relativePath := "model.sql"
  expectedSha256 := ChangeIntent.sample.intentSha256
  oldField := "cust_id"
  newField := "customer_id"
  expectedOccurrences := 1
  relation := "orders"
  expandedColumns := sampleAirflowPolicy.expandedColumns
  contractColumns := sampleAirflowPolicy.contractColumns
  repository := "data/flows"
  ownerUrns := ["urn:li:corpuser:o"]

/-- The sample proposal, for a file with the given content. -/
def prepareSql (content : String) : Result PreparationResult × Worktree :=
  prepare samplePython sampleSqlLibrary (sqlSurroundings content) sampleSession sampleDbtProposal
    sampleDbtPolicy (sqlWorktree content)

theorem sampleSql_bytes : ∃ r wt', prepareSql sampleSql = (.ok r, wt') ∧
    wt'.file "model.sql" = some (renameIdentifier sampleDbtPolicy sampleSql).1.toUTF8 := by
  obtain ⟨r, wt', h, -⟩ := exists_verified (show (prepareSql sampleSql).1.map PreparationResult.state =
    .ok .verified by decide +kernel)
  refine ⟨r, wt', h, (dbt_bytes_iff _ _ _ _ _ _ _ _ "model.sql" _ sampleSql _ h rfl ?_ rfl ?_).mpr ?_⟩
  · decide +kernel
  · decide +kernel
  · decide +kernel

/-- The same model with the line ends of Windows. -/
def windowsSql : String := "SELECT cust_id -- cust_ids\r\nFROM orders"

/-- The candidate is verified, and its line end is not the one of the file. -/
theorem windowsSql_altered : ∃ r wt', prepareSql windowsSql = (.ok r, wt') ∧
    wt'.file "model.sql" = some sampleSqlAfter.toUTF8 ∧
    wt'.file "model.sql" ≠ some (renameIdentifier sampleDbtPolicy windowsSql).1.toUTF8 := by
  obtain ⟨r, wt', h, -⟩ := exists_verified (show (prepareSql windowsSql).1.map
    PreparationResult.state = .ok .verified by decide +kernel)
  have hwritten : (prepareSql windowsSql).2.file "model.sql" = some sampleSqlAfter.toUTF8 := by
    decide +kernel
  rw [h] at hwritten
  refine ⟨r, wt', h, hwritten, ?_⟩
  rw [hwritten]
  decide +kernel

/-- The places in the text of the column nodes with the old name: each has an identifier token
of its own, spelled as the name and not touched by a character of an identifier. -/
structure ColumnTokens (text oldField : String) (tree : SqlStatement) (tokens : List Nat) : Prop where
  distinct : tokens.Nodup
  each : tokens.length = tree.columns.count oldField
  spelled : ∀ place ∈ tokens, BoundedAt oldField.toList none text.toList place

/-- The rename of a verified candidate replaces the column tokens, all of them and nothing else:
the text is cut at the places of the tokens, which are the matches of the pass, and only the
field between the gaps changes. -/
theorem dbt_renames_columns (lib : SqlLibrary) (env : Surroundings) (session : RepositorySession)
    (proposal : DbtSqlProposal) (policy : PolicyData) (wt wt' : Worktree) (r : PreparationResult)
    (tokens : String → SqlStatement → List Nat)
    (htokens : ∀ text statements tree, lib.parse text (policy.dialect.getD "") = .ok statements →
      some tree ∈ statements → ColumnTokens text policy.oldField tree (tokens text tree))
    (h : prepare py lib env session proposal policy wt = (.ok r, wt')) :
    ∃ path target before statements tree gaps, policy.path 0 = .ok path ∧
      trustedText py wt path = .ok (target, before) ∧
      lib.parse before (policy.dialect.getD "") = .ok statements ∧ some tree ∈ statements ∧
      before.toList = policy.oldField.toList.intercalate gaps ∧
      wt'.file target = some (String.ofList (policy.newField.toList.intercalate gaps)).toUTF8 ∧
      ∀ place, (place ∈ places policy.oldField.toList.length gaps ↔ place ∈ tokens before tree) ∧
        (BoundedAt policy.oldField.toList none before.toList place ↔ place ∈ tokens before tree) := by
  obtain ⟨path, target, before, statements, tree, hpath, hbefore, rfl, ⟨hold, -⟩, hparse, hmem, hcount⟩ :=
    prepare_verified h
  obtain ⟨gaps, -, htext, hrename, hlength, hplaces⟩ := renameIdentifier_gaps hold before
  have hcolumns := htokens before statements tree hparse hmem
  have hsubset : tokens before tree ⊆ places policy.oldField.toList.length gaps :=
    fun place hplace => hplaces place (hcolumns.spelled place hplace)
  have hperm : (tokens before tree).Perm (places policy.oldField.toList.length gaps) := by
    refine (List.subperm_of_subset hcolumns.distinct hsubset).perm_of_length_le ?_
    rw [length_places, hcolumns.each, hcount, hlength]
  refine ⟨path, target, before, statements, tree, gaps, hpath, hbefore, hparse, hmem, htext, ?_,
    fun place => ⟨hperm.symm.mem_iff, fun hbounded => hperm.mem_iff.mpr (hplaces place hbounded),
      hcolumns.spelled place⟩⟩
  rw [← hrename, String.ofList_toList]
  simp [Worktree.write]

/-- The one column token of the sample. -/
def sampleTokens (text : String) (_ : SqlStatement) : List Nat := if text = sampleSql then [7] else []

theorem sampleTokens_columns (text : String) (statements : List (Option SqlStatement))
    (tree : SqlStatement) (hparse : sampleSqlLibrary.parse text "duckdb" = .ok statements)
    (hmem : some tree ∈ statements) : ColumnTokens text "cust_id" tree (sampleTokens text tree) := by
  by_cases hbefore : text = sampleSql
  · subst hbefore
    cases hparse
    obtain rfl : tree = sampleTree "cust_id" := by simpa using hmem
    refine ⟨by simp [sampleTokens], rfl, fun place hplace => ?_⟩
    obtain rfl : place = 7 := by simpa [sampleTokens] using hplace
    exact ⟨by decide +kernel, by decide +kernel, by decide +kernel⟩
  · have htokens : sampleTokens text tree = [] := if_neg hbefore
    by_cases hafter : text = sampleSqlAfter
    · subst hafter
      cases hparse
      obtain rfl : tree = sampleTree "customer_id" := by simpa using hmem
      rw [htokens]
      exact ⟨List.nodup_nil, rfl, nofun⟩
    · simp [sampleSqlLibrary, hbefore, hafter, raise] at hparse

/-- Only the column changes, and the longer name in the comment stays. -/
theorem sampleSql_renames_columns : ∃ r wt' path target before statements tree gaps,
    prepareSql sampleSql = (.ok r, wt') ∧ sampleDbtPolicy.path 0 = .ok path ∧
      trustedText samplePython (sqlWorktree sampleSql) path = .ok (target, before) ∧
      sampleSqlLibrary.parse before "duckdb" = .ok statements ∧ some tree ∈ statements ∧
      before.toList = "cust_id".toList.intercalate gaps ∧
      wt'.file target = some (String.ofList ("customer_id".toList.intercalate gaps)).toUTF8 ∧
      ∀ place, (place ∈ places "cust_id".toList.length gaps ↔ place ∈ sampleTokens before tree) ∧
        (BoundedAt "cust_id".toList none before.toList place ↔ place ∈ sampleTokens before tree) := by
  obtain ⟨r, wt', h, -⟩ := exists_verified (show (prepareSql sampleSql).1.map PreparationResult.state =
    .ok .verified by decide +kernel)
  obtain ⟨path, target, before, statements, tree, gaps, hspec⟩ :=
    dbt_renames_columns sampleSqlLibrary _ _ _ sampleDbtPolicy _ _ r sampleTokens sampleTokens_columns h
  exact ⟨r, wt', path, target, before, statements, tree, gaps, h, hspec⟩

end Bytes
end LineageTX
