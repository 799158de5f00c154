import LineageTX.PauseSnapshot

/-! The resume run of the live script, as far as the work root and the snapshot of the pause
are concerned: staging, reset, re-creation and restoring. -/
namespace LineageTX
open Library
variable (py : Python) (mac : KeyedDigest)

/-- The directory that holds the work root, the name of the work root, and the project;
paths are relative to the first. -/
structure ResumeSite where
  parent : String
  root : String
  project : String
  isName : IsPart root

namespace ResumeSite
variable (site : ResumeSite)

def snapshotName : String := "approval-pause.json"

/-- `work_root / PAUSE_SNAPSHOT_NAME` -/
def snapshot : String := site.root ++ "/" ++ snapshotName

/-- `_resume_snapshot_staging_path` -/
def staging : String := "." ++ site.root ++ "." ++ snapshotName ++ ".pending-reset"

/-- `root / LINEAGETX_REPLAY_MARKER` -/
def marker : String := site.root ++ "/" ++ ".lineagetx-local-replay.json"

/-- The document of the marker. -/
def expected : Json := .obj [
  ("kind", .str "lineagetx-local-replay"), ("project_root", .str site.project),
  ("schema_version", .int 1)]

def markerText : String := Json.dumps ⟨true, some 2, 0, 1⟩ site.expected ++ "\n"

def replayError {α : Type} (msg : String) : Result α := raise (.other "LineageTXReplayError") msg

def requireReplay (check : Bool) (msg : String) : Result Unit :=
  require check (.other "LineageTXReplayError") msg

def absolute : String := site.parent ++ "/" ++ site.root

/-- `_read_json` -/
def readJson (path : String) : FileProg Json := do
  let value ← tryCatch (do
    let text ← (FileOp.readText path).run
    py.jsonLoads (.other "JSONDecodeError") "" text) fun e =>
      if e.cls = .other "JSONDecodeError" then
        replayError ("fixture is not valid JSON: " ++ path ++ ": " ++ e.msg)
      else throw e
  requireReplay (isObj value) ("fixture must contain a JSON object: " ++ path)
  return value

/-- The refusal of a directory without the marker of this project. -/
def requireOwned : FileProg Unit := do
  let refusal := "refusing to reset a directory not owned by LineageTX: " ++ site.absolute
  let isFile ← (FileOp.isFile site.marker).run
  let isLink ← (FileOp.isLink site.marker).run
  requireReplay (isFile && !isLink) refusal
  let value ← readJson py site.marker
  requireReplay (Json.sortKeys value = Json.sortKeys site.expected) refusal

/-- Deletes what is in the way of a new work root. -/
def clear (reset : Bool) : FileProg Unit := do
  let isPresent ← (FileOp.isPresent site.root).run
  if isPresent then do
    let hasEntries ← (FileOp.hasEntries site.root).run
    if hasEntries then do
      requireReplay reset
        ("replay work root is not empty: " ++ site.absolute ++ "; pass --reset to replay")
      site.requireOwned py
      (FileOp.rmtree site.root).run
    else Prog.onlyWhen (reset = true) (FileOp.rmdir site.root).run
  else pure ()

/-- `_prepare_lineagetx_work_root` -/
def prepareWorkRoot (reset : Bool) : FileProg Unit := do
  let isLink ← (FileOp.isLink site.root).run
  requireReplay (!isLink) "replay work root may not be a symlink"
  requireReplay (site.absolute ≠ site.project && site.absolute ≠ site.project ++ "/fixtures/lineagetx")
    "replay work root must not replace project fixtures"
  site.clear py reset
  (FileOp.mkdir site.root false).run
  (FileOp.writeText site.marker site.markerText).run

/-- `_stage_resume_snapshot_for_reset` -/
def stageSnapshot (key : ByteArray) : FileProg (ApprovalPauseSnapshot py) := do
  let snapshotExists ← (FileOp.isFile site.snapshot).run
  let stagingExists ← (FileOp.isFile site.staging).run
  require (!(snapshotExists && stagingExists)) (.other "ResumeSnapshotError")
    "both active and pending-reset approval snapshots exist"
  let source := if snapshotExists then site.snapshot else site.staging
  let snapshot ← readSignedPauseSnapshot py mac source key
  Prog.onlyWhen (snapshotExists = true) (FileOp.rename site.snapshot site.staging).run
  return snapshot

/-- `_restore_staged_resume_snapshot` -/
def restoreSnapshot : FileProg Unit := do
  let stagingExists ← (FileOp.isFile site.staging).run
  require stagingExists (.other "ResumeSnapshotError")
    "pending-reset approval snapshot disappeared during reprepare"
  let snapshotExists ← (FileOp.isPresent site.snapshot).run
  require (!snapshotExists) (.other "ResumeSnapshotError")
    "approval snapshot path was unexpectedly recreated during reprepare"
  (FileOp.rename site.staging site.snapshot).run

/-- `run_live` in the phase `resume`, from staging to restoring; `fixtures` is the rest of what
materializes the fixture in the new work root. -/
def resume (key : ByteArray) (fixtures : FileProg Unit) : FileProg (ApprovalPauseSnapshot py) := do
  let snapshot ← site.stageSnapshot py mac key
  site.prepareWorkRoot py true
  fixtures
  site.restoreSnapshot
  return snapshot

/-- The call leaves a work root, its marker and both places of the snapshot as they are, also
when it is cut off. -/
def Spares (c : FileOp) : Prop :=
  ∀ t t' : Files, t.get? site.root = some .directory → t.Torn c t' →
    t'.get? site.root = t.get? site.root ∧ t'.get? site.marker = t.get? site.marker ∧
      t'.get? site.snapshot = t.get? site.snapshot ∧ t'.get? site.staging = t.get? site.staging

end ResumeSite
end LineageTX
