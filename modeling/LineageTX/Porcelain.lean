import LineageTX.Worktrees
import LineageTX.Library.Gaps

/-! The porcelain output of `git status -z` and what `git_status_paths` reads from it. Git
writes paths as they are; the text mode of the subprocess translates its line ends. -/
namespace LineageTX
open Library
variable (py : Python)

/-- A path of a worktree as Git can report it. -/
abbrev ChangedPath := { path : String // IsNormalPath path ∧ '\x00' ∉ path.toList }

/-- One entry of the status; a rename or a copy has the path that it came from. -/
structure StatusEntry where
  index : Char
  worktree : Char
  path : ChangedPath
  source : Option ChangedPath
  codes : ∀ c ∈ [index, worktree], c ≠ '\x00' ∧ c ≠ '\r'
  paired : source.isSome = [index, worktree].any fun c => c = 'R' || c = 'C'

/-- Both paths of an entry. -/
def StatusEntry.paths (e : StatusEntry) : List String :=
  e.path.val :: (e.source.map Subtype.val).toList

/-- The record of an entry, up to the path that it came from. -/
def StatusEntry.record (e : StatusEntry) : List Char :=
  e.index :: e.worktree :: ' ' :: e.path.val.toList

/-- `git status --porcelain=v1 -z` -/
def StatusEntry.encode (e : StatusEntry) : List Char :=
  e.record ++ '\x00' :: (match e.source with
    | some source => source.val.toList ++ ['\x00']
    | none => [])

def porcelain (entries : List StatusEntry) : List Char := entries.flatMap StatusEntry.encode

/-- `subprocess.run(text=True)` -/
def textMode (written : List Char) : String := String.ofList (universalNewlines written)

/-- Git answers the status of a repository with what it writes. -/
def Prints (repo : String) (written : List Char) (_ : Unit) :
    (c : GitCall) → Result c.Reply → Unit → Prop
  | .git r args, reply, _ => r = repo → args = statusArgs → reply = .ok ⟨0, textMode written⟩
  | _, _, _ => True

section Records
variable {py : Python}

theorem splitAt_append {chunk rest : List Char} {separator : Char} (h : separator ∉ chunk) :
    splitAt (String.ofList (chunk ++ separator :: rest)) separator =
      String.ofList chunk :: splitAt (String.ofList rest) separator := by
  simp only [splitAt, String.toList_ofList]
  rw [List.splitOn_append_cons_self_of_not_mem h, List.map_cons]

theorem splitAt_single {chunk : List Char} {separator : Char} (h : separator ∉ chunk) :
    splitAt (String.ofList chunk) separator = [String.ofList chunk] := by
  simp only [splitAt, String.toList_ofList]
  rw [List.splitOn_eq_singleton h, List.map_singleton]

theorem ne_empty_of_normal {path : String} (h : IsNormalPath path) : path.toList ≠ [] := by
  intro hempty
  have hparts := h.1
  simp [String.toList_eq_nil_iff.mp hempty, pathParts] at hparts

theorem StatusEntry.record_noNul (e : StatusEntry) : '\x00' ∉ e.record := by
  have hindex := (e.codes e.index (by simp)).1
  have hworktree := (e.codes e.worktree (by simp)).1
  simp only [record, List.mem_cons, not_or]
  exact ⟨hindex.symm, hworktree.symm, by decide, e.path.property.2⟩

theorem statusPaths_nil : statusPaths py [] = .ok [] := rfl

/-- One turn of the loop. -/
theorem statusPaths_cons (record : String) (records : List String) :
    statusPaths py (record :: records) =
      if record = "" then statusPaths py records
      else do
        requireWorktree (4 ≤ record.length && record.toList[2]? = some ' ')
          "malformed git porcelain record"
        let path ← safeRepositoryPath py (String.ofList (record.toList.drop 3))
        if (record.toList.take 2).any fun c => c = 'R' || c = 'C' then
          match records with
          | [] => worktreeError "rename/copy porcelain record is missing source path"
          | source :: records => do
            requireWorktree (source ≠ "") "rename/copy porcelain record is missing source path"
            let sourcePath ← safeRepositoryPath py source
            return path :: sourcePath :: (← statusPaths py records)
        else return path :: (← statusPaths py records) := by
  delta statusPaths statusPaths._f
  cases records with
  | nil => rfl
  | cons source records => rfl

/-- The record of an entry, and then the path that it came from where it has one. -/
theorem statusPaths_record (e : StatusEntry) (records : List String) :
    statusPaths py (String.ofList e.record :: records) =
      if e.source.isSome then
        match records with
        | [] => worktreeError "rename/copy porcelain record is missing source path"
        | source :: records => do
          requireWorktree (source ≠ "") "rename/copy porcelain record is missing source path"
          let sourcePath ← safeRepositoryPath py source
          return e.path.val :: sourcePath :: (← statusPaths py records)
      else do return e.path.val :: (← statusPaths py records) := by
  have hlength := List.length_pos_iff.mpr (ne_empty_of_normal e.path.property.1)
  have hne : String.ofList e.record ≠ "" := by simp [StatusEntry.record]
  have hshape : (decide (4 ≤ (String.ofList e.record).length) &&
      decide ((String.ofList e.record).toList[2]? = some ' ')) = true := by
    simp only [StatusEntry.record, String.length_ofList, String.toList_ofList, List.length_cons,
      Bool.and_eq_true, decide_eq_true_eq]
    exact ⟨by omega, rfl⟩
  have hrest : String.ofList ((String.ofList e.record).toList.drop 3) = e.path.val := by
    simp [StatusEntry.record]
  have hcodes : (String.ofList e.record).toList.take 2 = [e.index, e.worktree] := by
    simp [StatusEntry.record]
  rw [statusPaths_cons, if_neg hne, hshape, hrest, hcodes,
    show safeRepositoryPath py e.path.val = _ from safeRelativePath_of_normal e.path.property.1, e.paired]
  rfl

/-- The records of a status come out as their paths, before whatever follows them. -/
theorem statusPaths_porcelain (entries : List StatusEntry) (rest : List Char) :
    statusPaths py (splitAt (String.ofList (porcelain entries ++ rest)) '\x00') =
      (statusPaths py (splitAt (String.ofList rest) '\x00')).map
        (entries.flatMap StatusEntry.paths ++ ·) := by
  induction entries with
  | nil => exact (congrFun Except.map_id _).symm
  | cons e entries ih =>
    rw [porcelain, List.flatMap_cons, StatusEntry.encode]
    simp only [List.append_assoc, List.cons_append]
    rw [splitAt_append e.record_noNul, statusPaths_record]
    cases hsource : e.source with
    | none =>
      rw [if_neg (by simp), List.nil_append, ← porcelain, ih]
      cases statusPaths py (splitAt (String.ofList rest) '\x00') with
      | ok paths => simp [StatusEntry.paths, hsource, Except.map]
      | error error => rfl
    | some source =>
      have hne : (decide (String.ofList source.val.toList ≠ "")) = true := by
        simpa using ne_empty_of_normal source.property.1
      rw [if_pos (show (some source).isSome = true from rfl)]
      simp only [List.append_assoc, List.cons_append, List.nil_append]
      rw [splitAt_append source.property.2]
      dsimp only
      have hsafe : safeRepositoryPath py source.val = .ok source.val :=
        safeRelativePath_of_normal source.property.1
      rw [hne, String.ofList_toList, hsafe, ← porcelain, ih]
      cases statusPaths py (splitAt (String.ofList rest) '\x00') with
      | ok paths => simp [StatusEntry.paths, hsource, Except.map]; rfl
      | error error => rfl

/-- Output cut between the two paths of an entry is refused. -/
theorem statusPaths_cut (entries : List StatusEntry) {e : StatusEntry} (hpair : e.source.isSome = true)
    {tail : List Char} (htail : tail = [] ∨ tail = ['\x00']) :
    statusPaths py (splitAt (String.ofList (porcelain entries ++ e.record ++ tail)) '\x00') =
      worktreeError "rename/copy porcelain record is missing source path" := by
  rw [List.append_assoc, statusPaths_porcelain]
  cases htail with
  | inl hnil =>
    rw [hnil, List.append_nil, splitAt_single e.record_noNul, statusPaths_record, if_pos hpair]
    rfl
  | inr hnul =>
    rw [hnul, splitAt_append e.record_noNul, statusPaths_record, if_pos hpair]
    rfl

theorem mem_of_mem_splitAt {text chunk : String} {separator c : Char}
    (hchunk : chunk ∈ splitAt text separator) (hc : c ∈ chunk.toList) : c ∈ text.toList := by
  obtain ⟨cs, hcs, rfl⟩ := List.mem_map.mp hchunk
  rw [String.toList_ofList] at hc
  have hmem : c ∈ [separator].intercalate (text.toList.splitOn separator) := mem_intercalate_of_mem hcs hc
  rwa [List.intercalate_splitOn] at hmem

/-- A path that is read back has only the characters of its record, and slashes. -/
theorem safeRepositoryPath_chars {value path : String} {c : Char} (hslash : c ≠ '/')
    (h : safeRepositoryPath py value = .ok path) (hc : c ∈ path.toList) : c ∈ value.toList := by
  simp only [safeRepositoryPath, safeRelativePath, bind_eq_ok] at h
  obtain ⟨_, -, ⟨⟩⟩ := h
  rw [String.toList_intercalate] at hc
  rcases of_mem_intercalate hc with hseparator | ⟨chunk, hchunk, hmem⟩
  · exact absurd (by simpa using hseparator) hslash
  · obtain ⟨part, hpart, rfl⟩ := List.mem_map.mp hchunk
    exact mem_of_mem_splitAt (List.mem_filter.mp hpart).1 hmem

theorem statusPaths_chars {c : Char} (hslash : c ≠ '/') {records paths : List String}
    (hrecords : ∀ record ∈ records, c ∉ record.toList) (h : statusPaths py records = .ok paths) :
    ∀ path ∈ paths, c ∉ path.toList := by
  induction hlen : records.length using Nat.strongRecOn generalizing records paths with
  | ind n ih =>
    cases records with
    | nil =>
      cases h
      simp
    | cons record records =>
      rw [statusPaths_cons] at h
      split at h
      · exact ih _ (by simp [← hlen]) (fun r hr => hrecords r (by simp [hr])) h rfl
      simp only [bind_eq_ok] at h
      obtain ⟨_, -, path, hpath, h⟩ := h
      have hfirst : c ∉ path.toList := fun hc => hrecords record (by simp) <| by
        have := safeRepositoryPath_chars hslash hpath hc
        rw [String.toList_ofList] at this
        exact List.mem_of_mem_drop this
      split at h
      · cases records with
        | nil => cases h
        | cons source records =>
          simp only [bind_eq_ok] at h
          obtain ⟨_, -, sourcePath, hsource, rest, hrest, ⟨⟩⟩ := h
          have hsecond : c ∉ sourcePath.toList := fun hc =>
            hrecords source (by simp) (safeRepositoryPath_chars hslash hsource hc)
          have hless : records.length < n := by
            simp only [← hlen, List.length_cons]
            omega
          have htail := ih _ hless (fun r hr => hrecords r (by simp [hr])) hrest rfl
          simpa [hfirst, hsecond] using htail
      · simp only [bind_eq_ok] at h
        obtain ⟨rest, hrest, ⟨⟩⟩ := h
        have htail := ih _ (by simp [← hlen]) (fun r hr => hrecords r (by simp [hr])) hrest rfl
        simpa [hfirst] using htail

/-- One call, and the paths of its output. -/
theorem gitStatusPaths_call (repo : String) : ∃ next,
    gitStatusPaths py repo = .call (.git repo statusArgs) next ∧
      ∀ text, next (.ok ⟨0, text⟩) = .done ((statusPaths py (splitAt text '\x00')).map sortedSet) := by
  refine ⟨_, rfl, fun text => ?_⟩
  change Prog.onValue (fun paths => pure (sortedSet paths)) (statusPaths py (splitAt text '\x00')) = _
  cases statusPaths py (splitAt text '\x00') with
  | ok paths => rfl
  | error error => rfl

/-- What the runs of `git_status_paths` end in. -/
theorem gitStatusPaths_runs {repo : String} {written : List Char} {r : Result (List String)} :
    (∃ log, (gitStatusPaths py repo).Runs (Prints repo written) () log r ()) ↔
      r = (statusPaths py (splitAt (textMode written) '\x00')).map sortedSet := by
  obtain ⟨next, hcall, hnext⟩ := gitStatusPaths_call repo
  rw [hcall]
  constructor
  · rintro ⟨log, hruns⟩
    obtain ⟨reply, _, log', rfl, hserve, hruns⟩ := Prog.runs_call.mp hruns
    rw [hserve rfl rfl, hnext] at hruns
    exact (Prog.runs_done.mp hruns).2.1
  · rintro rfl
    refine ⟨_, Prog.runs_call.mpr ⟨.ok ⟨0, textMode written⟩, (), [], rfl, fun _ _ => rfl, ?_⟩⟩
    rw [hnext]
    exact .done _ _

end Records

/-- Every path of the entries comes out of the parser, and none of them passes the allow-list
unseen; output that ends between the two paths of an entry is refused. -/
structure NoneEscapes (entries : List StatusEntry) : Prop where
  exact : ∀ repo r,
    (∃ log, (gitStatusPaths py repo).Runs (Prints repo (porcelain entries)) () log r ()) ↔
      r = .ok (sortedSet (entries.flatMap StatusEntry.paths))
  cut : ∀ before e after, entries = before ++ e :: after → e.source.isSome = true →
    ∀ tail, tail = [] ∨ tail = ['\x00'] → ∀ repo r,
      (∃ log, (gitStatusPaths py repo).Runs (Prints repo (porcelain before ++ e.record ++ tail)) ()
        log r ()) ↔
        r = worktreeError "rename/copy porcelain record is missing source path"
  listed : ∀ (m : WorktreeManager) session allowedPaths log changed,
    (m.validateAllowlist py session allowedPaths).Runs (Prints session.worktree (porcelain entries)) ()
      log (.ok changed) () → ∃ allowed, safeRepositoryPaths py allowedPaths = .ok allowed ∧
        ∀ path ∈ entries.flatMap StatusEntry.paths, path ∈ allowed

section NoneEscapes
variable {py : Python} {entries : List StatusEntry}

theorem textMode_eq_self {written : List Char} (h : '\r' ∉ written) :
    textMode written = String.ofList written := by
  rw [textMode, universalNewlines_eq_self h]

theorem StatusEntry.record_noReturn {e : StatusEntry} (h : '\r' ∉ e.path.val.toList) :
    '\r' ∉ e.record := by
  have hindex := (e.codes e.index (by simp)).2
  have hworktree := (e.codes e.worktree (by simp)).2
  simp only [record, List.mem_cons, not_or]
  exact ⟨hindex.symm, hworktree.symm, by decide, h⟩

theorem porcelain_noReturn (h : ∀ path ∈ entries.flatMap StatusEntry.paths, '\r' ∉ path.toList) :
    '\r' ∉ porcelain entries := by
  intro hmem
  obtain ⟨e, he, hmem⟩ := List.mem_flatMap.mp hmem
  have hpaths : ∀ path ∈ e.paths, '\r' ∉ path.toList := fun path hpath =>
    h path (List.mem_flatMap.mpr ⟨e, he, hpath⟩)
  rw [StatusEntry.encode, List.mem_append] at hmem
  cases hmem with
  | inl hrecord => exact StatusEntry.record_noReturn (hpaths _ (by simp [StatusEntry.paths])) hrecord
  | inr hrest =>
    cases hsource : e.source with
    | none => simp [hsource] at hrest
    | some source =>
      have hsourcePath := hpaths source.val (by simp [StatusEntry.paths, hsource])
      simp [hsource, hsourcePath] at hrest

/-- An allow-list that the changed paths pass holds all of them. -/
theorem validateAllowlist_listed {m : WorktreeManager} {session : RepositorySession}
    {allowedPaths : List String} {written : List Char} {log} {paths changed : List String}
    (hexact : ∀ r, (∃ log, (gitStatusPaths py session.worktree).Runs (Prints session.worktree written) ()
      log r ()) → r = .ok paths)
    (h : (m.validateAllowlist py session allowedPaths).Runs (Prints session.worktree written) ()
      log (.ok changed) ()) :
    ∃ allowed, safeRepositoryPaths py allowedPaths = .ok allowed ∧
      ∀ path ∈ paths, path ∈ allowed := by
  rcases Prog.runs_lift_bind.mp h with ⟨_, -, -, hresult, -⟩ | ⟨allowed, hallowed, h⟩
  · cases hresult
  refine ⟨allowed, hallowed, fun path hpath => ?_⟩
  obtain ⟨_, _, found, _, -, hchanged, h⟩ := Prog.runs_bind_ok.mp h
  obtain ⟨_, log', _, _, -, -, hfound⟩ := Prog.runs_bind_ok.mp hchanged
  have hpaths := hexact _ ⟨log', hfound⟩
  rcases Prog.runs_lift_bind.mp h with ⟨_, -, -, hresult, -⟩ | ⟨_, hallows, -⟩
  · cases hresult
  have hunexpected : sortedSet (found.filter fun path => !allowed.contains path) = [] := by
    simp only [WorktreeManager.requireAllowed, requireWorktree, require_eq_ok] at hallows
    exact of_decide_eq_true hallows
  by_contra hmissing
  have hmem : path ∈ found.filter fun path => !allowed.contains path := by
    cases hpaths
    simpa [hmissing] using hpath
  rw [sortedSet_eq_nil.mp hunexpected] at hmem
  cases hmem

end NoneEscapes

/-- No changed path escapes the parser, as long as no path has a carriage return. -/
theorem noneEscapes_iff (entries : List StatusEntry) : NoneEscapes py entries ↔
    ∀ path ∈ entries.flatMap StatusEntry.paths, '\r' ∉ path.toList := by
  constructor
  · intro h path hpath
    have hruns := gitStatusPaths_runs.mp ((h.exact "" _).mpr rfl)
    cases hparsed : statusPaths py (splitAt (textMode (porcelain entries)) '\x00') with
    | error error => simp [hparsed, Except.map] at hruns
    | ok paths =>
      have hpaths : path ∈ paths := by
        rw [hparsed] at hruns
        injection hruns with hsorted
        rw [← mem_sortedSet, ← hsorted]
        exact (mem_sortedSet _ _).mpr hpath
      refine statusPaths_chars (by decide) (fun record hrecord hreturn => ?_) hparsed path hpaths
      refine universalNewlines_noReturn (porcelain entries) ?_
      simpa [textMode] using mem_of_mem_splitAt hrecord hreturn
  · intro h
    have hexact : ∀ repo r, (∃ log, (gitStatusPaths py repo).Runs (Prints repo (porcelain entries)) ()
        log r ()) ↔ r = .ok (sortedSet (entries.flatMap StatusEntry.paths)) := by
      intro repo r
      rw [gitStatusPaths_runs, textMode_eq_self (porcelain_noReturn h)]
      have hparsed := @statusPaths_porcelain py entries []
      rw [List.append_nil] at hparsed
      rw [hparsed, show splitAt (String.ofList []) '\x00' = [""] from rfl, statusPaths_cons, if_pos rfl,
        statusPaths_nil]
      simp [Except.map]
    refine ⟨hexact, ?_, ?_⟩
    · rintro before e after rfl hpair tail htail repo r
      have hbefore := porcelain_noReturn fun path hpath =>
        h path (by rw [List.flatMap_append]; exact List.mem_append_left _ hpath)
      have hrecord := StatusEntry.record_noReturn (h e.path.val (by simp [StatusEntry.paths]))
      have hcut : '\r' ∉ porcelain before ++ e.record ++ tail := by
        rcases htail with rfl | rfl <;> simp [hbefore, hrecord]
      rw [gitStatusPaths_runs, textMode_eq_self hcut, statusPaths_cut before hpair htail]
      rfl
    · intro m session allowedPaths log changed hruns
      obtain ⟨allowed, hallowed, hmem⟩ :=
        validateAllowlist_listed (fun r hr => (hexact session.worktree r).mp hr) hruns
      exact ⟨allowed, hallowed, fun path hpath => hmem path ((mem_sortedSet _ _).mpr hpath)⟩

/-- A path with a carriage return, which comes back with a line feed in its place. -/
def returnPath : ChangedPath :=
  ⟨"models/a\rb.sql", ⟨by decide +kernel, by decide +kernel⟩, by decide +kernel⟩

def returnEntry : StatusEntry where
  index := '?'
  worktree := '?'
  path := returnPath
  source := none
  codes := by simp
  paired := rfl

theorem returnEntry_altered : ¬ NoneEscapes (Python.sample fun _ => "") [returnEntry] := by
  intro h
  have hruns := gitStatusPaths_runs.mp ((h.exact "" _).mpr rfl)
  have hread : (statusPaths (Python.sample fun _ => "")
      (splitAt (textMode (porcelain [returnEntry])) '\x00')).map sortedSet = .ok ["models/a\nb.sql"] := by decide +kernel
  rw [hread] at hruns
  revert hruns
  decide +kernel

end LineageTX
