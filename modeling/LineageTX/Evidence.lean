import LineageTX.Context
import LineageTX.Files
import LineageTX.JsonLoads

/-! Evidence bundles: atomic writes of artifacts, the manifest that seals them and its
verification. The digest of bytes is a parameter. -/
namespace LineageTX
open Library
variable (py : Python) (digest : ByteArray → String)

/-- `_canonical_json` of the evidence, for a value that is JSON already. -/
def evidenceStyle : Json.Style := ⟨false, some 2, 0, 1⟩

def evidenceText (j : Json) : String := Json.dumps evidenceStyle j ++ "\n"

def evidenceError {α : Type} (msg : String) : Result α := raise .evidenceError msg

structure EvidenceFile where
  path : String
  sha256 : String
  sizeBytes : Nat
  deriving DecidableEq

def EvidenceFile.toJson (f : EvidenceFile) : Json :=
  .obj [("path", .str f.path), ("sha256", .str f.sha256), ("size_bytes", .int f.sizeBytes)]

/-- `EvidenceFile(**item)` of a document: its fields are whatever the document holds. -/
structure ListedFile where
  path : Json
  sha256 : Json
  sizeBytes : Json
  deriving DecidableEq

def EvidenceFile.listed (f : EvidenceFile) : ListedFile := ⟨.str f.path, .str f.sha256, .int f.sizeBytes⟩

def ListedFile.ofJson (item : Json) : Result ListedFile :=
  match item with
  | .obj m => do
    require (m.all fun e => ["path", "sha256", "size_bytes"].contains e.1) .typeError
      "EvidenceFile got an unexpected keyword argument"
    match m.lookup "path", m.lookup "sha256", m.lookup "size_bytes" with
    | some path, some sha256, some sizeBytes => return ⟨path, sha256, sizeBytes⟩
    | _, _, _ => raise .typeError "EvidenceFile missing required positional arguments"
  | _ => raise .typeError "argument after ** must be a mapping"

structure EvidenceManifest where
  migrationId : String
  generatedAt : String
  files : List ListedFile
  aggregateSha256 : String
  schemaVersion : Int := 1
  selfHashExcluded : Bool := true
  deriving DecidableEq

/-- `to_dict` of a manifest of the given files. -/
def manifestJson (migrationId generatedAt : String) (files : List EvidenceFile) (aggregate : String) :
    Json := .obj [
  ("aggregate_sha256", .str aggregate), ("files", .arr (files.map EvidenceFile.toJson)),
  ("generated_at", .str generatedAt), ("manifest_self_hash_excluded", .bool true),
  ("migration_id", .str migrationId), ("schema_version", .int 1)]

def EvidenceManifest.ofJson (value : Json) : Result EvidenceManifest := do
  let migrationId := py.str (← getItem value "migration_id")
  let generatedAt := py.str (← getItem value "generated_at")
  let files ← (← iterate (← getItem value "files")).mapM ListedFile.ofJson
  let aggregateSha256 := py.str (← getItem value "aggregate_sha256")
  let schemaVersion ← py.int (getD value "schema_version" (.int 1))
  let selfHashExcluded := truthy (getD value "manifest_self_hash_excluded" (.bool false))
  return { migrationId, generatedAt, files, aggregateSha256, schemaVersion, selfHashExcluded }

def isHashable : Json → Bool
  | .arr _ | .obj _ => false
  | _ => true

/-- The recorder, with its resolved root. -/
structure EvidenceRecorder where
  root : String
  migrationId : String
  named : isBlank migrationId = false

def manifestName : String := "manifest.json"

def temporarySuffix : String := ".lineagetx.tmp"

/-- `target.with_name(f".{target.name}.lineagetx.tmp")` -/
def temporaryOf (target : String) : String :=
  "/".intercalate ((pathParts target).dropLast ++
    ["." ++ (pathParts target).getLast?.getD "" ++ temporarySuffix])

/-- `_atomic_write` -/
def atomicWrite (target : String) (payload : ByteArray) : FileProg Unit := do
  let temporary := temporaryOf target
  let isPresent ← (FileOp.isPresent temporary).run
  Prog.onlyWhen (isPresent = true) (FileOp.unlink temporary).run
  (FileOp.create temporary).run
  (FileOp.write temporary payload).run
  (FileOp.rename temporary target).run

namespace EvidenceRecorder
variable (recorder : EvidenceRecorder)

/-- `_target`; without links on its way a path is the one that it resolves to. -/
def target (relativePath : String) : FileProg String := do
  let normalized ← safeRelativePath py .evidenceError "evidence" relativePath
  require (normalized ≠ manifestName) .evidenceError "manifest.json is managed by build_manifest"
  let onTheWay := (directoriesTo normalized ++ [normalized]).reverse
  let links ← onTheWay.mapM fun path => (FileOp.isLink path).run
  require (links.all (! ·)) .evidenceError "evidence paths may not traverse symbolic links"
  makeParent normalized
  return normalized

/-- `write_json` and `write_text`, with the bytes of the artifact. -/
def writeArtifact (relativePath : String) (payload : ByteArray) : FileProg EvidenceFile := do
  let target ← target py relativePath
  atomicWrite target payload
  return ⟨target, digest payload, payload.size⟩

/-- The name of a file that an atomic write has not completed. -/
def isIncomplete (path : String) : Bool := startsWith path "." && endsWith path temporarySuffix

/-- One turn of `_artifact_files`. -/
def artifact (path : String) (node : Node) : Result (Option EvidenceFile) :=
  if path = manifestName then .ok none
  else match node with
    | .link _ =>
      evidenceError ("evidence bundle contains a symlink: " ++ recorder.root ++ "/" ++ path)
    | .directory => .ok none
    | .special =>
      evidenceError ("evidence bundle contains a non-file: " ++ recorder.root ++ "/" ++ path)
    | .file payload =>
      if isIncomplete path then evidenceError "evidence bundle contains an incomplete atomic write"
      else .ok (some ⟨path, digest payload, payload.size⟩)

/-- `_artifact_files` -/
def artifactFiles (t : Files) : Result (List EvidenceFile) := do
  let found ← (sortBy (fun e : String × Node => pathParts e.1) t.val).mapM
    fun e => recorder.artifact digest e.1 e.2
  return sortBy EvidenceFile.path found.reduceOption

def aggregate (files : List EvidenceFile) : String :=
  digest (stableJson (.arr (files.map EvidenceFile.toJson))).toUTF8

/-- `build_manifest`, at a time that is the current one unless it is given. -/
def buildManifest (now : String) (generatedAt : Option String) (t : Files) :
    Result EvidenceManifest × Files :=
  match recorder.artifactFiles digest t with
  | .error e => (.error e, t)
  | .ok files =>
    let stamp := match generatedAt with
      | some time => if time = "" then now else time
      | none => now
    let text := evidenceText (manifestJson recorder.migrationId stamp files (aggregate digest files))
    match (atomicWrite manifestName text.toUTF8).exec Files.answer t with
    | (.error e, t') => (.error e, t')
    | (.ok _, t') => (.ok {
        migrationId := recorder.migrationId, generatedAt := stamp
        files := files.map EvidenceFile.listed, aggregateSha256 := aggregate digest files }, t')

/-- The manifest that is read; every failure to read it is an `EvidenceError`. -/
def readManifest (content : ByteArray) : Result EvidenceManifest :=
  tryCatch (do
    let value ← py.jsonLoads .valueError "" (← decodeText content)
    EvidenceManifest.ofJson py value) fun e =>
      if e.cls ∈ [.keyError, .typeError, .valueError] then
        evidenceError ("invalid evidence manifest: " ++ e.msg)
      else throw e

/-- `verify_manifest` -/
def verifyManifest (t : Files) : Result EvidenceManifest := do
  match t.get? manifestName with
  | some (.file content) =>
    let manifest ← readManifest py content
    require (manifest.migrationId = recorder.migrationId) .evidenceError
      "manifest belongs to another migration"
    require manifest.selfHashExcluded .evidenceError
      "manifest must explicitly document its self-hash exclusion"
    let actual ← recorder.artifactFiles digest t
    onlyIf (actual.map EvidenceFile.listed ≠ manifest.files) (do
      require (manifest.files.all fun f => isHashable f.path) .typeError "unhashable type"
      require (actual.all (fun f => (manifest.files.map (·.path)).contains (.str f.path)) &&
          manifest.files.all fun f => (actual.map fun a => Json.str a.path).contains f.path)
        .evidenceError "manifest file set does not match the evidence bundle"
      evidenceError "at least one evidence SHA-256 or size does not match")
    require (aggregate digest actual = manifest.aggregateSha256) .evidenceError
      "aggregate evidence SHA-256 does not match"
    return manifest
  | _ => evidenceError "evidence manifest is missing or unsafe"

end EvidenceRecorder
end LineageTX
