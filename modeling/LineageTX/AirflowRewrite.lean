import LineageTX.DbtRename
import Mathlib.Data.List.DropRight

/-! Which text the rewrite of a mapping keeps. The parser counts lines that end at newlines and
columns in bytes; the rewrite cuts lines at every line end that `splitlines` knows and counts
columns in characters. -/
namespace LineageTX
open Library

namespace AirflowMappingParticipant
variable {cs line : List Char}

/-- The line and the column at the end of a text: lines end at a newline, at a carriage return
or at their pair, and a column counts bytes. -/
def position : (lineno column : Nat) → List Char → Nat × Nat
  | lineno, column, [] => (lineno, column)
  | lineno, _, '\r' :: '\n' :: cs => position (lineno + 1) 0 cs
  | lineno, column, c :: cs =>
    if c = '\r' ∨ c = '\n' then position (lineno + 1) 0 cs
    else position lineno (column + c.utf8Size) cs

theorem position_cons {lineno column : Nat} {c : Char} (hc : c ≠ '\r') :
    position lineno column (c :: cs) =
      if c = '\n' then position (lineno + 1) 0 cs else position lineno (column + c.utf8Size) cs := by
  rw [position]
  · simp only [hc, false_or]
  · exact fun cs' heq => absurd heq hc

theorem splitLines_cons {c : Char} (hc : c ≠ '\r') :
    splitLines line (c :: cs) =
      if isLineEnd c then (c :: line).reverse :: splitLines [] cs else splitLines (c :: line) cs := by
  rw [splitLines]
  exact fun cs' heq => absurd heq hc

/-- The lines are the whole text. -/
theorem length_splitLines : ((splitLines line cs).map List.length).sum = line.length + cs.length := by
  fun_induction splitLines line cs with
  | case1 => rfl
  | case2 line hne => simp
  | case3 line cs ih =>
    simp only [List.map_cons, List.sum_cons, ih, List.length_reverse, List.length_cons, List.length_nil]
    omega
  | case4 line c cs hpair hend ih =>
    simp only [List.map_cons, List.sum_cons, ih, List.length_reverse, List.length_cons, List.length_nil]
    omega
  | case5 line c cs hpair hend ih =>
    rw [ih]
    simp only [List.length_cons]
    omega

/-- The part of a text up to its last newline, and the line that follows. -/
def closedLines (before : List Char) : List Char := before.rdropWhile (· ≠ '\n')

def openLine (before : List Char) : List Char := before.rtakeWhile (· ≠ '\n')

/-- The bytes that the characters of the open line have beyond the first of each. -/
def extraBytes (before : List Char) : Nat := ((openLine before).map fun c => c.utf8Size - 1).sum

/-- The characters in the lines that `splitlines` makes beyond one for each newline. -/
def hiddenChars (before : List Char) : Nat :=
  (((splitLines [] (closedLines before)).drop ((closedLines before).count '\n')).map List.length).sum

theorem closedLines_append_openLine (before : List Char) : closedLines before ++ openLine before = before :=
  List.rdropWhile_append_rtakeWhile

theorem newline_notMem_openLine (before : List Char) : '\n' ∉ openLine before :=
  fun hmem => by simpa using List.mem_rtakeWhile_imp hmem

/-- A text that is empty or ends with a newline. -/
def Closed (cs : List Char) : Prop := cs = [] ∨ ∃ cs', cs = cs' ++ ['\n']

theorem closed_closedLines (before : List Char) : Closed (closedLines before) := by
  by_cases hne : closedLines before = []
  · exact .inl hne
  · have hlast := List.rdropWhile_last_not (fun c => decide (c ≠ '\n')) before hne
    refine .inr ⟨(closedLines before).dropLast, ?_⟩
    have hnewline : (closedLines before).getLast hne = '\n' := of_not_not fun h => hlast (decide_eq_true h)
    rw [← hnewline, List.dropLast_append_getLast]

section Places
variable {u v : List Char}

theorem Closed.tail {c : Char} (h : Closed (c :: u)) (hc : c ≠ '\n') : u ≠ [] ∧ Closed u := by
  cases h with
  | inl hnil => cases hnil
  | inr hends =>
    obtain ⟨cs', hcs⟩ := hends
    cases cs' with
    | nil => exact absurd (List.cons.inj hcs).1 hc
    | cons d ds =>
      obtain ⟨-, rfl⟩ := List.cons.inj hcs
      exact ⟨by simp, .inr ⟨ds, rfl⟩⟩

theorem Closed.rest {c : Char} (h : Closed (c :: u)) : Closed u := by
  cases h with
  | inl hnil => cases hnil
  | inr hends =>
    obtain ⟨cs', hcs⟩ := hends
    cases cs' with
    | nil => exact .inl (List.cons.inj hcs).2
    | cons d ds => exact .inr ⟨ds, (List.cons.inj hcs).2⟩

/-- The position behind closed lines counts their newlines. -/
theorem position_closed {lineno column : Nat} (hreturn : '\r' ∉ u) (hclosed : Closed u)
    (hne : u ≠ [] ∨ column = 0) :
    position lineno column (u ++ v) = position (lineno + u.count '\n') 0 v := by
  induction u generalizing lineno column with
  | nil =>
    obtain rfl : column = 0 := by simpa using hne
    rfl
  | cons c u ih =>
    obtain ⟨hc, hrest⟩ : c ≠ '\r' ∧ '\r' ∉ u := by simpa [eq_comm] using hreturn
    rw [List.cons_append, position_cons hc]
    by_cases hnewline : c = '\n'
    · subst hnewline
      rw [if_pos rfl, ih hrest hclosed.rest (.inr rfl), List.count_cons_self]
      congr 1
      omega
    · obtain ⟨hrestNe, hclosed'⟩ := hclosed.tail hnewline
      rw [if_neg hnewline, ih hrest hclosed' (.inl hrestNe), List.count_cons_of_ne hnewline]

/-- Within a line only the column moves. -/
theorem position_open (hreturn : '\r' ∉ v) (hnewline : '\n' ∉ v) (lineno column : Nat) :
    position lineno column v = (lineno, column + (v.map Char.utf8Size).sum) := by
  induction v generalizing column with
  | nil => rfl
  | cons c v ih =>
    obtain ⟨hc, hrest⟩ : c ≠ '\r' ∧ '\r' ∉ v := by simpa [eq_comm] using hreturn
    obtain ⟨hc', hrest'⟩ : c ≠ '\n' ∧ '\n' ∉ v := by simpa [eq_comm] using hnewline
    rw [position_cons hc, if_neg hc', ih hrest hrest', List.map_cons, List.sum_cons, Nat.add_assoc]

theorem splitLines_closed (hreturn : '\r' ∉ u) (hclosed : Closed u) (hne : u ≠ [] ∨ line = []) :
    splitLines line (u ++ v) = splitLines line u ++ splitLines [] v := by
  induction u generalizing line with
  | nil =>
    obtain rfl : line = [] := by simpa using hne
    rfl
  | cons c u ih =>
    obtain ⟨hc, hrest⟩ : c ≠ '\r' ∧ '\r' ∉ u := by simpa [eq_comm] using hreturn
    rw [List.cons_append, splitLines_cons hc, splitLines_cons hc]
    by_cases hend : isLineEnd c = true
    · rw [if_pos hend, if_pos hend, ih hrest hclosed.rest (.inr rfl), List.cons_append]
    · have hnewline : c ≠ '\n' := by
        intro heq
        subst heq
        exact hend (by decide)
      obtain ⟨hrestNe, hclosed'⟩ := hclosed.tail hnewline
      rw [if_neg hend, if_neg hend, ih hrest hclosed' (.inl hrestNe)]

/-- There is a line for each newline. -/
theorem count_le_splitLines (hreturn : '\r' ∉ u) :
    u.count '\n' ≤ (splitLines line u).length := by
  induction u generalizing line with
  | nil => simp
  | cons c u ih =>
    obtain ⟨hc, hrest⟩ : c ≠ '\r' ∧ '\r' ∉ u := by simpa [eq_comm] using hreturn
    rw [splitLines_cons hc]
    by_cases hend : isLineEnd c = true
    · have hcount := @ih [] hrest
      rw [if_pos hend, List.length_cons, List.count_cons]
      split
      · omega
      · omega
    · have hnewline : c ≠ '\n' := by
        intro heq
        subst heq
        exact hend (by decide)
      rw [if_neg hend, List.count_cons_of_ne hnewline]
      exact ih hrest

end Places

theorem bytes_eq (cs : List Char) : (cs.map Char.utf8Size).sum =
    cs.length + (cs.map fun c => c.utf8Size - 1).sum := by
  induction cs with
  | nil => rfl
  | cons c cs ih =>
    have hpos := c.utf8Size_pos
    simp only [List.map_cons, List.sum_cons, List.length_cons, ih]
    omega

/-- The offset that the rewrite makes of a position is off by the extra bytes, and by the hidden
characters in the other direction. -/
theorem offsetOf_position {before rest : List Char} (hreturn : '\r' ∉ before) :
    offsetOf (before ++ rest) (position 1 0 before).1 (position 1 0 before).2 + hiddenChars before =
      before.length + extraBytes before := by
  have hsplit := closedLines_append_openLine before
  have hclosed := closed_closedLines before
  have hreturns : '\r' ∉ closedLines before ∧ '\r' ∉ openLine before := by
    rw [← hsplit, List.mem_append, not_or] at hreturn
    exact hreturn
  have hposition : position 1 0 before = (1 + (closedLines before).count '\n',
      ((openLine before).map Char.utf8Size).sum) := by
    conv_lhs => rw [← hsplit]
    rw [position_closed hreturns.1 hclosed (.inr rfl),
      position_open hreturns.2 (newline_notMem_openLine before), Nat.zero_add]
  have hlines : splitLines [] (before ++ rest) =
      splitLines [] (closedLines before) ++ splitLines [] (openLine before ++ rest) := by
    conv_lhs => rw [← hsplit, List.append_assoc]
    exact splitLines_closed hreturns.1 hclosed (.inr rfl)
  have hcount := @count_le_splitLines [] _ hreturns.1
  have hsum : (((splitLines [] (closedLines before)).take ((closedLines before).count '\n')).map
      List.length).sum + hiddenChars before = (closedLines before).length := by
    have hall := @length_splitLines (closedLines before) []
    rw [hiddenChars, ← List.sum_append, ← List.map_append, List.take_append_drop, hall]
    simp
  have hlength : (closedLines before).length + (openLine before).length = before.length := by
    rw [← List.length_append, hsplit]
  have hbytes := bytes_eq (openLine before)
  rw [hposition, offsetOf, hlines]
  dsimp only
  rw [Nat.add_sub_cancel_left, List.take_append_of_le_length hcount, hbytes]
  unfold extraBytes
  omega

/-- The place of an assignment statement, which the parser reports as lines and columns. -/
structure Spans (assignment : PyAssign) (cs : List Char) (start stop : Nat) : Prop where
  nonempty : start < stop
  inside : stop ≤ cs.length
  starts : position 1 0 (cs.take start) = (assignment.lineno, assignment.colOffset)
  endLine : assignment.endLineno = some (position 1 0 (cs.take stop)).1
  endColumn : assignment.endColOffset = some (position 1 0 (cs.take stop)).2

/-- What the rewrite keeps: `source[:start]` and `source[end:]`. -/
def keptText (source : String) (assignment : PyAssign) : List Char × List Char :=
  let cs := source.toList
  (cs.take (offsetOf cs assignment.lineno assignment.colOffset),
    cs.drop (offsetOf cs (assignment.endLineno.getD 0) (assignment.endColOffset.getD 0)))

/-- A text with the assignment of a mapping between two parts. -/
def withMapping (name : String) (members : List (String × Json)) (around : List Char × List Char) :
    String :=
  String.ofList around.1 ++ (name ++ " = " ++ Json.dumps mappingStyle (.obj members)) ++
    String.ofList around.2

theorem replaceAssignment_eq_ok {source after name : String} {assignment : PyAssign}
    {members : List (String × Json)} (h : replaceAssignment source assignment name members = .ok after) :
    after = withMapping name members (keptText source assignment) := by
  unfold replaceAssignment at h
  split at h
  · next hline hcolumn =>
    cases h
    simp only [withMapping, keptText, hline, hcolumn, Option.getD_some]
  · cases h

/-- The parser finds an assignment of a literal to one name that was put in the place of another
assignment. -/
def ParsesReplacement (ast : AstLibrary) (name : String) : Prop :=
  ∀ source assignments assignment start stop members found, ast source = .ok assignments →
    assignment ∈ assignments → Spans assignment source.toList start stop →
    ast (withMapping name members (source.toList.take start, source.toList.drop stop)) = .ok found →
    ∃ again ∈ found, again.targets = [name]

/-- A rewrite that changes the mapping only: all text around the statement is kept, and every name
that the statement binds is still bound by it. -/
structure ChangesMappingOnly (ast : AstLibrary) (name source after : String) (assignment : PyAssign)
    (start stop : Nat) : Prop where
  around : keptText source assignment = (source.toList.take start, source.toList.drop stop)
  names : ∀ again, mappingAssignment ast after name = .ok again →
    ∀ bound ∈ assignment.targets, bound ∈ again.targets

/-- Bytes and hidden characters weigh each other up before both ends of the statement; at the end
of the text more bytes do no harm. -/
structure OffsetsAgree (cs : List Char) (start stop : Nat) : Prop where
  starts : hiddenChars (cs.take start) = extraBytes (cs.take start)
  ends : hiddenChars (cs.take stop) = extraBytes (cs.take stop) ∨
    stop = cs.length ∧ hiddenChars (cs.take stop) ≤ extraBytes (cs.take stop)

section Kept
variable {source : String} {assignment : PyAssign} {start stop : Nat}

theorem offsetOf_take {place : Nat} (hplace : place ≤ cs.length) (hreturn : '\r' ∉ cs) :
    offsetOf cs (position 1 0 (cs.take place)).1 (position 1 0 (cs.take place)).2 +
      hiddenChars (cs.take place) = place + extraBytes (cs.take place) := by
  have hreturn' : '\r' ∉ cs.take place := fun hmem => hreturn (List.mem_of_mem_take hmem)
  have h := @offsetOf_position _ (cs.drop place) hreturn'
  rwa [List.take_append_drop, List.length_take_of_le hplace] at h

theorem take_eq_take_iff_of_lt {place place' : Nat} (hplace : place < cs.length) :
    cs.take place' = cs.take place ↔ place' = place := by
  rw [List.take_eq_take_iff]
  omega

theorem drop_eq_drop_iff {place place' : Nat} (hplace : place ≤ cs.length) :
    cs.drop place' = cs.drop place ↔ place' = place ∨ place = cs.length ∧ place ≤ place' := by
  constructor
  · intro h
    have hlength := congrArg List.length h
    rw [List.length_drop, List.length_drop] at hlength
    omega
  · rintro (rfl | ⟨hend, hle⟩)
    · rfl
    · rw [List.drop_eq_nil_of_le (by omega), List.drop_eq_nil_of_le (by omega)]

/-- The text around the statement is kept exactly if the offsets come out right. -/
theorem keptText_iff (hspans : Spans assignment source.toList start stop)
    (hreturn : '\r' ∉ source.toList) :
    keptText source assignment = (source.toList.take start, source.toList.drop stop) ↔
      OffsetsAgree source.toList start stop := by
  have hnonempty := hspans.nonempty
  have hinside := hspans.inside
  have hstart := @offsetOf_take _ start (by omega) hreturn
  have hstop := offsetOf_take hinside hreturn
  rw [hspans.starts] at hstart
  rw [keptText, Prod.mk.injEq, hspans.endLine, hspans.endColumn, Option.getD_some, Option.getD_some,
    take_eq_take_iff_of_lt (by omega), drop_eq_drop_iff hinside]
  dsimp only at hstart
  constructor
  · rintro ⟨htake, hdrop⟩
    exact ⟨by omega, by omega⟩
  · rintro ⟨hstarts, hends⟩
    exact ⟨by omega, by omega⟩

end Kept

section Accepted
variable {py : Python} {ast : AstLibrary} {env : Surroundings} {session : RepositorySession}
  {proposal : AirflowMappingProposal} {policy : PolicyData} {wt : Worktree}

theorem mappingAssignment_eq_ok {source name : String} {assignment : PyAssign}
    (h : mappingAssignment ast source name = .ok assignment) : ∃ assignments,
    ast source = .ok assignments ∧
      (assignments.filter fun node => node.targets.contains name) = [assignment] := by
  unfold mappingAssignment at h
  split at h
  · split at h
    · cases h
    · cases h
  · next assignments hast =>
    split at h
    · next found hfound =>
      cases h
      exact ⟨assignments, hast, hfound⟩
    · cases h

/-- The assignment found is one of the module, and the only one with the name. -/
theorem mappingAssignment_mem {source name : String} {assignment : PyAssign}
    {assignments : List PyAssign} (h : mappingAssignment ast source name = .ok assignment)
    (hast : ast source = .ok assignments) : assignment ∈ assignments ∧
      ∀ other ∈ assignments, name ∈ other.targets → other = assignment := by
  obtain ⟨assignments', hast', hfilter⟩ := mappingAssignment_eq_ok h
  obtain rfl := Except.ok.inj (hast.symm.trans hast')
  have hmem : ∀ other, other ∈ [assignment] ↔ other ∈ assignments ∧ other.targets.contains name = true :=
    fun other => by rw [← hfilter, List.mem_filter]
  refine ⟨((hmem assignment).mp (by simp)).1, fun other hother hname => ?_⟩
  simpa using (hmem other).mpr ⟨hother, List.contains_iff_mem.mpr hname⟩

theorem candidateTexts_python {expected proposed : Dict String}
    {pythonBefore jsonBefore pythonAfter jsonAfter : String} {assignment : PyAssign}
    (h : candidateTexts py ast policy expected proposed pythonBefore jsonBefore =
      .ok (pythonAfter, jsonAfter))
    (hassign : mappingAssignment ast pythonBefore (policy.assignmentName.getD "") = .ok assignment) :
    pythonAfter = withMapping (policy.assignmentName.getD "") (mappingMembers proposed.val)
        (keptText pythonBefore assignment) ∧
      ∃ again, mappingAssignment ast pythonAfter (policy.assignmentName.getD "") = .ok again := by
  simp only [candidateTexts, bind_eq_ok] at h
  obtain ⟨assignment', hassign', mapping, -, _, -, document, -, _, -, _, -, _, -, _, hpython, again,
    hagain, _, -, _, -, _, -, _, -, _, -, _, -, ⟨⟩⟩ := h
  obtain rfl := Except.ok.inj (hassign.symm.trans hassign')
  exact ⟨replaceAssignment_eq_ok hpython, again, hagain⟩

theorem plan_python {files : TwoFiles} {proposed : Dict String} {path target before : String}
    (h : plan py ast env session proposal policy wt = .ok (files, proposed))
    (hpath : policy.path 0 = .ok path) (htext : trustedText py wt path = .ok (target, before)) :
    files.python.target = target ∧ ∃ expected jsonBefore, candidateTexts py ast policy expected proposed
      before jsonBefore = .ok (files.python.after, files.json.after) := by
  simp only [plan, bind_eq_ok] at h
  obtain ⟨_, -, _, -, _, -, path₀, hpath₀, ⟨target₀, before₀⟩, htext₀, path₁, -, ⟨target₁, before₁⟩, -,
    bytes₀, -, bytes₁, -, ⟨expected, proposed'⟩, -, ⟨after₀, after₁⟩, hafter, ⟨⟩⟩ := h
  obtain rfl := Except.ok.inj (hpath.symm.trans hpath₀)
  obtain ⟨rfl, rfl⟩ := Prod.mk.inj (Except.ok.inj (htext.symm.trans (checkedText_eq_ok py htext₀)))
  exact ⟨rfl, expected, before₁, hafter⟩

end Accepted

section Sample

def sampleAirflowProposal (expected proposed : List (String × String)) : AirflowMappingProposal where
  migrationId := "m"
  participantId := "p"
  pythonRelativePath := "dag.py"
  jsonRelativePath := "map.json"
  expectedPythonSha256 := ChangeIntent.sample.intentSha256
  expectedJsonSha256 := ChangeIntent.sample.intentSha256
  oldField := "cust_id"
  newField := "customer_id"
  expectedMapping := expected
  proposedMapping := proposed
  expandedColumns := sampleAirflowPolicy.expandedColumns
  contractColumns := sampleAirflowPolicy.contractColumns
  repository := "data/flows"
  ownerUrns := ["urn:li:corpuser:o"]

def prepareMapping : Result PreparationResult × Worktree :=
  prepare samplePython {} sampleAdapters.ast sampleSurroundings sampleSession
    (sampleAirflowProposal [("order", "total"), ("cust_id", "cust_id")]
      [("order", "total"), ("customer_id", "customer_id")]) sampleAirflowPolicy sampleWorktree

theorem sampleAdapters_parses : ParsesReplacement sampleAdapters.ast "FIELD_MAPPING" := by
  intro source assignments assignment start stop members found _ _ _ hfound
  simp only [sampleAdapters] at hfound
  split at hfound
  · cases hfound
    exact ⟨_, List.mem_singleton.mpr rfl, rfl⟩
  · cases hfound
    exact ⟨_, List.mem_singleton.mpr rfl, rfl⟩

/-- A mapping of a field that is not spelled in ASCII, with a statement on the next line. -/
def accentedMapping : String := "FIELD_MAPPING = \x7b\"éééééé\": \"cust_id\"\x7d\nX = 1\n"

/-- What is written: the bytes of the six letters have taken the next statement away. -/
def accentedMappingAfter : String :=
  "FIELD_MAPPING = \x7b\n    \"\\u00e9\\u00e9\\u00e9\\u00e9\\u00e9\\u00e9\": \"customer_id\"\n\x7d\n"

def accentedAssign : PyAssign :=
  ⟨["FIELD_MAPPING"], .ok (.mapping (dictOf [("éééééé", "cust_id")])), 1, 0, some 1, some 43⟩

/-- A parser that knows the two texts. -/
def accentedAst : AstLibrary := fun source =>
  if source = accentedMapping then .ok [accentedAssign, ⟨["X"], .ok .other, 2, 0, some 2, some 5⟩]
  else if source = accentedMappingAfter then
    .ok [⟨["FIELD_MAPPING"], .ok (.mapping (dictOf [("éééééé", "customer_id")])), 1, 0, some 3, some 1⟩]
  else raise (.other "SyntaxError") "invalid syntax"

def accentedWorktree : Worktree where
  resolve := some
  file path :=
    if path = "dag.py" then some accentedMapping.toUTF8
    else if path = "map.json" then
      some "\x7b\"field_mapping\": \x7b\"éééééé\": \"cust_id\"\x7d\x7d".toUTF8
    else none

def accentedPolicy : PolicyData :=
  { sampleAirflowPolicy with
    expandedColumns := ["cust_id", "customer_id", "éééééé"]
    contractColumns := ["customer_id", "éééééé"] }

def prepareAccented : Result PreparationResult × Worktree :=
  prepare samplePython {} accentedAst
    { sampleSurroundings with
      statusPaths := fun wt =>
        .ok (if wt.file "dag.py" = some accentedMapping.toUTF8 then [] else ["dag.py", "map.json"]) }
    sampleSession
    { sampleAirflowProposal [("éééééé", "cust_id")] [("éééééé", "customer_id")] with
      expandedColumns := accentedPolicy.expandedColumns
      contractColumns := accentedPolicy.contractColumns }
    accentedPolicy accentedWorktree

end Sample

end AirflowMappingParticipant
end LineageTX
