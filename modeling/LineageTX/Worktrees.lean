import LineageTX.AirflowMapping
import LineageTX.Context
import LineageTX.Library.Prog

/-! The worktree manager: candidate branches and their worktrees, as programs over Git
commands and the few questions that are asked of the file system. -/
namespace LineageTX
open Library
variable (py : Python)

/-- What a finished Git process leaves. -/
structure Completed where
  returncode : Int
  stdout : String
  deriving DecidableEq

/-- A Git command in a repository, or a call of the file system. -/
inductive GitCall where
  | git (repo : String) (args : List String)
  | resolve (path : String)
  | isPresent (path : String)
  | makeDirectories (path : String)
  deriving DecidableEq

/-- A host without a Git binary answers every command with an exception. -/
abbrev GitCall.Reply : GitCall → Type
  | .git .. => Completed
  | .resolve _ => String
  | .isPresent _ => Bool
  | .makeDirectories _ => Unit

abbrev GitProg := Prog Exn GitCall.Reply

def GitCall.run (c : GitCall) : GitProg c.Reply := Prog.perform c

def worktreeError {α : Type} (msg : String) : Result α := raise .worktreeError msg

def requireWorktree (check : Bool) (msg : String) : Result Unit := require check .worktreeError msg

def dropAround (drop : Char → Bool) (cs : List Char) : List Char :=
  ((cs.dropWhile drop).reverse.dropWhile drop).reverse

/-- `text.strip()` -/
def strip (s : String) : String := String.ofList (dropAround isSpace s.toList)

/-- `text.split(separator)` -/
def splitAt (s : String) (separator : Char) : List String :=
  (s.toList.splitOn separator).map String.ofList

/-- `text.split()` -/
def splitSpace (s : String) : List String :=
  ((s.toList.splitOnP isSpace).filter (· ≠ [])).map String.ofList

/-- `text.splitlines()` -/
def lines (s : String) : List String :=
  (AirflowMappingParticipant.splitLines [] s.toList).map fun line => match line.reverse with
    | '\n' :: '\r' :: cs => String.ofList cs.reverse
    | c :: cs => String.ofList (if AirflowMappingParticipant.isLineEnd c then cs.reverse else line)
    | [] => ""

/-- `path.is_relative_to(root)` of two absolute paths. -/
def isRelativeTo (path root : String) : Bool := (pathParts root).isPrefixOf (pathParts path)

/-- `path.relative_to(root).as_posix()` -/
def relativeTo (path root : String) : Result String :=
  if isRelativeTo path root then
    .ok ("/".intercalate ((pathParts path).drop (pathParts root).length))
  else raise .valueError (path ++ " is not in the subpath of " ++ root)

def parentPath (path : String) : String := "/" ++ "/".intercalate (pathParts path).dropLast

/-- What `re.IGNORECASE` takes for the lower-case ASCII letter. -/
def ignoreCase (c : Char) : Char :=
  if c.toNat = 0x130 ∨ c.toNat = 0x131 then 'i'
  else if c.toNat = 0x17f then 's'
  else if c.toNat = 0x212a then 'k'
  else c.toLower

/-- The settings that can start a program: exact names, and a beginning with an end. -/
def executableNames : List String := [
  "diff.external", "core.fsmonitor", "core.hookspath", "core.askpass", "core.sshcommand",
  "core.editor", "core.pager", "sequence.editor", "gpg.program", "extensions.worktreeconfig"]

def executablePatterns : List (String × String) := [
  ("filter.", ".clean"), ("filter.", ".smudge"), ("filter.", ".process"), ("diff.", ".textconv"),
  ("merge.", ".driver"), ("difftool.", ".cmd"), ("mergetool.", ".cmd"), ("credential.", ".helper"),
  ("gpg.", ".program"), ("pager.", ""), ("submodule.", ".update"), ("tar.", ".command"),
  ("include.", ""), ("includeif.", "")]

/-- `_EXECUTABLE_CONFIG.fullmatch` -/
def isExecutableConfig (key : String) : Bool :=
  let cs := key.toList.map ignoreCase
  executableNames.any (fun name => name.toList == cs) ||
    executablePatterns.any fun (first, last) =>
      first.toList.isPrefixOf cs && last.toList.isSuffixOf cs &&
        first.length + last.length ≤ cs.length &&
        -- The dot of the pattern does not match the end of a line.
        !((cs.drop first.length).take (cs.length - first.length - last.length)).contains '\n'

/-- Each run of characters that are not kept becomes one hyphen. -/
def hyphenate (keep : Char → Bool) : (inRun : Bool) → List Char → List Char
  | _, [] => []
  | inRun, c :: cs =>
    if keep c then c :: hyphenate keep false cs
    else if inRun then hyphenate keep true cs else '-' :: hyphenate keep true cs

/-- `_slug` -/
def slugOf (value : String) : Result String := do
  let cs := hyphenate (fun c => c.isAlphanum || "._-".toList.contains c) false value.toList
  let slug := (dropAround (fun c => c = '-' || c = '.') cs).map Char.toLower
  requireWorktree (slug ≠ []) "repository and migration identifiers must not be empty"
  return String.ofList (slug.take 80)

/-- `_run_git` with `check=False`. -/
def gitCompleted (repo : String) (args : List String) : GitProg Completed :=
  tryCatch (GitCall.git repo args).run fun e =>
    if e.cls = .other "TimeoutExpired" then
      worktreeError ("git " ++ " ".intercalate args ++ " exceeded 20s timeout")
    else if e.cls = .osError then
      worktreeError ("unable to execute the fixed git binary: " ++ e.msg)
    else throw e

/-- `_run_git`, and its standard output. -/
def runGit (repo : String) (args : List String) : GitProg String := do
  let completed ← gitCompleted repo args
  requireWorktree (completed.returncode = 0)
    ("git " ++ " ".intercalate args ++ " failed in " ++ repo ++ ": " ++ strip completed.stdout)
  return completed.stdout

def statusArgs : List String := ["status", "--porcelain=v1", "-z", "--untracked-files=all"]

/-- `_reject_executable_local_config` -/
def rejectExecutableLocalConfig (repo : String) : GitProg Unit := do
  let completed ← gitCompleted repo
    ["config", "--local", "--no-includes", "--name-only", "--null", "--list"]
  requireWorktree (completed.returncode = 0)
    ("unable to audit repository-local git config: " ++ strip completed.stdout)
  let dangerous := sortBy id ((splitAt completed.stdout '\x00').filter isExecutableConfig)
  requireWorktree (dangerous = [])
    ("repository local git config contains executable settings: " ++ ", ".intercalate dangerous)

def safeRepositoryPath : String → Result String := safeRelativePath py .worktreeError "repository"

def safeRepositoryPaths (values : List String) : Result (List String) :=
  values.mapM (safeRepositoryPath py)

/-- The paths that the records of `git status -z` name, rename pairs included. -/
def statusPaths : List String → Result (List String)
  | [] => .ok []
  | record :: records =>
    if record = "" then statusPaths records
    else do
      requireWorktree (4 ≤ record.length && record.toList[2]? = some ' ')
        "malformed git porcelain record"
      let path ← safeRepositoryPath py (String.ofList (record.toList.drop 3))
      if (record.toList.take 2).any fun c => c = 'R' || c = 'C' then
        match records with
        | [] => worktreeError "rename/copy porcelain record is missing source path"
        | source :: records => do
          requireWorktree (source ≠ "") "rename/copy porcelain record is missing source path"
          let sourcePath ← safeRepositoryPath py source
          return path :: sourcePath :: (← statusPaths records)
      else return path :: (← statusPaths records)

/-- `git_status_paths` -/
def gitStatusPaths (repo : String) : GitProg (List String) := do
  let output ← runGit repo statusArgs
  return sortedSet (← statusPaths py (splitAt output '\x00'))

/-- `git_head_and_branch` -/
def gitHeadAndBranch (repo : String) : GitProg (String × String) := do
  let head ← runGit repo ["rev-parse", "HEAD"]
  let branch ← runGit repo ["symbolic-ref", "--quiet", "--short", "HEAD"]
  return (strip head, strip branch)

/-- The manager, with its resolved root. -/
structure WorktreeManager where
  root : String

/-- The reference of a branch. -/
def branchRef (branch : String) : String := "refs/heads/" ++ branch

namespace WorktreeManager

def branchPrefix : String := "lineagetx/"

def assertBaseUntouched (session : RepositorySession) : GitProg Unit := do
  let currentHead ← runGit session.baseRepo ["rev-parse", "HEAD"]
  let currentStatus ← runGit session.baseRepo statusArgs
  require (strip currentHead = session.baseSha && currentStatus = session.baseStatus)
    .baseRepositoryChanged
    "base checkout changed; refusing to continue the isolated transaction"

/-- The command that makes the branch and the worktree of a candidate. -/
def addArgs (branch destination sha : String) : List String :=
  ["worktree", "add", "-b", branch, destination, sha]

/-- The checks of `prepare` on the base repository: its path, HEAD and status. -/
def checkBase (m : WorktreeManager) (base : String) (baseSha : Option String) :
    GitProg (String × String × String) := do
  let baseRepo ← (GitCall.resolve base).run
  let topLevel ← (GitCall.resolve (strip (← runGit baseRepo ["rev-parse", "--show-toplevel"]))).run
  requireWorktree (topLevel = baseRepo) ("base_repo must be the repository root: " ++ topLevel)
  requireWorktree (m.root ≠ baseRepo && !isRelativeTo m.root baseRepo)
    "worktree manager root must be outside the base repository"
  rejectExecutableLocalConfig baseRepo
  let status ← runGit baseRepo statusArgs
  requireWorktree (status = "") "base repository must be clean before PREPARING"
  let head := strip (← runGit baseRepo ["rev-parse", "HEAD"])
  let requestedSha := match baseSha with
    | some sha => if sha = "" then head else sha
    | none => head
  let resolvedSha := strip (← runGit baseRepo
    ["rev-parse", requestedSha ++ "^\x7bcommit\x7d"])
  requireWorktree (resolvedSha = head)
    "base checkout HEAD must match the pinned base_sha before PREPARING"
  return (baseRepo, resolvedSha, status)

/-- `prepare`; the branch and the worktree exist from `worktree add` on. -/
def prepare (m : WorktreeManager) (repoId base migrationId : String) (baseSha : Option String)
    (candidateId : String) : GitProg RepositorySession := do
  let (baseRepo, resolvedSha, status) ← m.checkBase base baseSha
  let migrationSlug ← slugOf migrationId
  let candidate := if candidateId = "" then repoId else candidateId
  let candidateSlug ← slugOf candidate
  let branch := branchPrefix ++ migrationSlug ++ "/" ++ candidateSlug
  let destination ← (GitCall.resolve (m.root ++ "/" ++ migrationSlug ++ "/" ++ candidateSlug)).run
  requireWorktree (isRelativeTo destination m.root) "computed worktree escaped the manager root"
  requireWorktree (!(← (GitCall.isPresent destination).run))
    ("worktree destination already exists: " ++ destination)
  let branchLookup ← gitCompleted baseRepo ["show-ref", "--verify", "--quiet", branchRef branch]
  requireWorktree (branchLookup.returncode ≠ 0) ("candidate branch already exists: " ++ branch)
  (GitCall.makeDirectories (parentPath destination)).run
  rejectExecutableLocalConfig baseRepo
  let _ ← runGit baseRepo (addArgs branch destination resolvedSha)
  let session : RepositorySession := {
    repoId, candidateId := candidate, migrationId, baseRepo, worktree := destination, branch
    baseSha := resolvedSha, baseStatus := status }
  assertBaseUntouched session
  return session

/-- `_assert_owned_session` -/
def assertOwnedSession (m : WorktreeManager) (session : RepositorySession) : GitProg Unit := do
  let worktree ← (GitCall.resolve session.worktree).run
  requireWorktree (isRelativeTo worktree m.root) "session worktree is outside this manager's root"
  requireWorktree (startsWith session.branch branchPrefix)
    "refusing to manage a non-LineageTX branch"
  let base ← (GitCall.resolve session.baseRepo).run
  requireWorktree (base ≠ worktree) "base checkout cannot be used as a candidate worktree"

def changedFiles (m : WorktreeManager) (session : RepositorySession) : GitProg (List String) := do
  m.assertOwnedSession session
  gitStatusPaths py session.worktree

/-- The refusal of paths outside the allow-list, in the words of each of its two callers. -/
def requireAllowed (what : String) (changed allowed : List String) : Result Unit :=
  let unexpected := sortedSet (changed.filter fun path => !allowed.contains path)
  requireWorktree (unexpected = [])
    (what ++ " changed non-allow-listed files: " ++ py.reprContainer (texts unexpected))

/-- `validate_allowlist` without `require_all`. -/
def validateAllowlist (m : WorktreeManager) (session : RepositorySession)
    (allowedPaths : List String) : GitProg (List String) := do
  let allowed ← safeRepositoryPaths py allowedPaths
  let changed ← m.changedFiles py session
  requireAllowed py "candidate" changed allowed
  return sortedSet changed

def diff (m : WorktreeManager) (session : RepositorySession) : GitProg String := do
  m.assertOwnedSession session
  runGit session.worktree ["diff", "--no-ext-diff", "--binary", session.baseSha, "--"]

def commitCandidate (m : WorktreeManager) (session : RepositorySession) (allowedPaths : List String)
    (message : String) : GitProg String := do
  rejectExecutableLocalConfig session.baseRepo
  let changed ← m.validateAllowlist py session allowedPaths
  requireWorktree (changed ≠ []) "cannot commit an empty candidate"
  let _ ← runGit session.worktree (["add", "--"] ++ changed)
  let _ ← runGit session.worktree ["commit", "-m", message]
  let candidateSha := strip (← runGit session.worktree ["rev-parse", "HEAD"])
  assertBaseUntouched session
  return candidateSha

/-- Whether a name stands for the expected commit in the base repository. -/
def namesCommit (session : RepositorySession) (name expectedSha : String) : GitProg Bool := do
  let lookup ← gitCompleted session.baseRepo ["rev-parse", "--verify", name ++ "^\x7bcommit\x7d"]
  return lookup.returncode = 0 && strip lookup.stdout = expectedSha

/-- The checked-out HEAD, the branch, the commit object and its only parent. -/
def validateCommit (session : RepositorySession) (expectedSha : String) : GitProg Unit := do
  let (head, branch) ← gitHeadAndBranch session.worktree
  requireWorktree (head = expectedSha)
    "candidate worktree HEAD no longer matches the persisted commit"
  requireWorktree (branch = session.branch)
    "candidate worktree branch no longer matches the owned branch"
  requireWorktree (← namesCommit session (branchRef session.branch) expectedSha)
    "candidate branch ref no longer matches the persisted commit"
  requireWorktree (← namesCommit session expectedSha expectedSha)
    "persisted candidate commit object does not exist"
  let ancestry ← runGit session.baseRepo ["rev-list", "--parents", "-n", "1", expectedSha]
  requireWorktree (splitSpace (strip ancestry) = [expectedSha, session.baseSha])
    "candidate commit must have exactly the pinned base SHA as its parent"

/-- The committed diff, which must be the allow-list. -/
def validateDiff (session : RepositorySession) (expectedSha : String) (allowedPaths : List String) :
    GitProg (List String) := do
  let allowed ← safeRepositoryPaths py allowedPaths
  let output ← runGit session.baseRepo
    ["diff", "--no-ext-diff", "--no-renames", "--name-only", "-z", session.baseSha, expectedSha, "--"]
  let committed ← safeRepositoryPaths py ((splitAt output '\x00').filter (· ≠ ""))
  requireAllowed py "committed candidate" committed allowed
  requireWorktree (ContextData.sameSet committed allowed)
    ("committed candidate must change exactly " ++ py.reprContainer (texts (sortedSet allowed)) ++
      ", got " ++ py.reprContainer (texts (sortedSet committed)))
  return sortedSet committed

/-- `validate_committed_candidate` -/
def validateCommittedCandidate (m : WorktreeManager) (session : RepositorySession)
    (expectedSha : String) (allowedPaths : List String) : GitProg (List String) := do
  m.assertOwnedSession session
  rejectExecutableLocalConfig session.baseRepo
  assertBaseUntouched session
  let changed ← m.changedFiles py session
  requireWorktree (changed = []) "candidate worktree changed after verification"
  validateCommit session expectedSha
  validateDiff py session expectedSha allowedPaths

/-- The branches that contain a candidate which is not at its base. -/
def refuseMerged (session : RepositorySession) (branchSha : String) : GitProg Unit := do
  let containing ← runGit session.baseRepo
    ["for-each-ref", "--contains=" ++ branchSha, "--format=%(refname)", "refs/heads", "refs/remotes"]
  let refs := sortedSet ((lines containing).filter fun ref =>
    ref ≠ "" && ref ≠ branchRef session.branch)
  require (refs = []) .mergedCandidateError
    ("candidate is already merged or reachable from another branch; ABORT never rolls " ++
      "back merged changes (" ++ py.reprContainer (texts refs) ++ ")")
  -- A detached HEAD of the base is no reference.
  let baseHead ← runGit session.baseRepo ["rev-parse", "HEAD"]
  let merged ← gitCompleted session.baseRepo
    ["merge-base", "--is-ancestor", branchSha, strip baseHead]
  require (merged.returncode ≠ 0) .mergedCandidateError
    "candidate is already merged; ABORT never rolls back merged changes"

/-- The lines of `git worktree list`: the branch that is registered for the worktree. -/
def findRegistered (session : RepositorySession) :
    List String → (path branch : Option String) → GitProg (Option String)
  | [], _, _ => return none
  | line :: rest, path, branch => do
    if startsWith line "worktree " then
      let resolved ← (GitCall.resolve (String.ofList (line.toList.drop 9))).run
      findRegistered session rest (some resolved) none
    else if startsWith line "branch " then
      findRegistered session rest path (some (String.ofList (line.toList.drop 7)))
    else if line = "" then
      let worktree ← (GitCall.resolve session.worktree).run
      if path = some worktree then return branch
      else findRegistered session rest path branch
    else findRegistered session rest path branch

/-- `_registered_worktree_branch` -/
def registeredWorktreeBranch (session : RepositorySession) : GitProg (Option String) := do
  let output ← runGit session.baseRepo ["worktree", "list", "--porcelain"]
  findRegistered session (lines output ++ [""]) none none

def removeArgs (session : RepositorySession) : List String :=
  ["worktree", "remove", "--force", session.worktree]

def deleteArgs (session : RepositorySession) : List String := ["branch", "-D", session.branch]

/-- The two deletions of `abort`. -/
def removeCandidate (session : RepositorySession) : GitProg Unit := do
  let registered ← registeredWorktreeBranch session
  requireWorktree (registered.all fun ref => ref = "" || ref = branchRef session.branch)
    "registered worktree branch does not match the session"
  let isPresent ← (GitCall.isPresent session.worktree).run
  Prog.onlyWhen (isPresent = true) (do let _ ← runGit session.baseRepo (removeArgs session))
  let _ ← runGit session.baseRepo (deleteArgs session)
  assertBaseUntouched session

/-- `abort`: only an unmerged candidate is removed. -/
def abort (m : WorktreeManager) (session : RepositorySession) : GitProg Unit := do
  m.assertOwnedSession session
  let branchLookup ← gitCompleted session.baseRepo
    ["rev-parse", "--verify", branchRef session.branch]
  let branchSha := strip branchLookup.stdout
  Prog.onlyWhen (branchLookup.returncode = 0) do
    Prog.onlyWhen (branchSha ≠ session.baseSha) (refuseMerged py session branchSha)
    removeCandidate session

end WorktreeManager
end LineageTX
