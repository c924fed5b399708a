import LlmInferenceSystems.Python.Effects
import LlmInferenceSystems.Python.FileTree
import LlmInferenceSystems.Stage2.BundleRecords
import LlmInferenceSystems.Stage2.PublicSafety

/-!
# Evidence bundles

A builder keeps one directory. It stands at the staging path, is filled with evidence file by file,
and is renamed to the final path when it is committed; there the state record gives way to the
manifest. Every file is written next to its place and moved there.

## Main definitions

* `Stage2BundleBuilder`: the directory, where it stands, and the sequence number
* `BundleSetting`: the world, and the arguments of the constructor
* `durableWrite`, `prepareEvidenceDestination`, `writeStateAt`: the file operations
* `writeEvidence`, `invalidate`, `commit`: the calls of a user
* `inspectBundleState`, `validateCommittedBundle`: what a reader of the directory does
-/

namespace Stage2

open Python

/-- `MAX_STAGE2_FILE_BYTES` -/
def maxStage2FileBytes : ℕ := 16 * 1024 * 1024

/-- `ALLOWED_TEXT_SUFFIXES` -/
def allowedTextSuffixes : List Str :=
  [lit ".json", lit ".jsonl", lit ".log", lit ".prom", lit ".txt"]

/-- A function from the files beneath `raw/` to those beneath `derived/`, as items in key order. -/
abbrev Reconstructor := List (Str × Bytes) → Except PyError (List (Str × Bytes))

/-- The name of the state record's file. -/
def stateName : Str := lit "bundle-state.json"

/-- The name of the manifest's file. -/
def manifestName : Str := lit "evidence-manifest.json"

/-- `_safe_relative` -/
def safeRelative (value : Str) : Except PyError PurePosixPath :=
  let path := PurePosixPath.ofStr value
  if value ≠ path.asPosix ∨ path.isAbsolute ∨ path.parts = [] ∨ lit ".." ∈ path.parts then
    .error (.stage2Bundle "bundle path is unsafe")
  else if ∃ part ∈ path.parts, part = [] ∨ part = lit "." then
    .error (.stage2Bundle "bundle path is not normalized")
  else .ok path

/-- The regular files beneath a directory of the tree. -/
def filesBeneath (directory : Str) (tree : FileTree) : List (Str × Bytes) :=
  tree.filesWhere fun path => path.head? = some directory

section

variable [Interpreter]

/-- `sha256_identity({path: _sha256(data) for path, data in sorted(actual.items())})` -/
def reconstructionIdentity (derived : List (Str × Bytes)) : Except PyError Str :=
  (PyValue.encode (.obj (derived.map fun f => (f.1, .str (Interpreter.hexdigest f.2))))).map
    Interpreter.hexdigest

/-- `BundleFileEntry(path=…, sha256=…, size=…)` -/
def BundleFileEntry.ofFile (file : Str × Bytes) : Except PyError BundleFileEntry :=
  let entry : BundleFileEntry := ⟨file.1, Interpreter.hexdigest file.2, file.2.length⟩
  if entry.Valid then .ok entry else .error (.validation "BundleFileEntry")

end

/-! ## The builder -/

/-- Where the bundle directory stands. -/
inductive Place where
  | staging
  | final
deriving DecidableEq

/-- The directory, and `_sequence`. -/
structure Stage2BundleBuilder where
  place : Place
  tree : FileTree
  sequence : ℕ

/-- The world, and the arguments of the constructor. -/
structure BundleSetting where
  world : World
  pid : ℕ
  repetitionIndex : ℤ
  sourceCommit : Str

/-- A program of the builder. -/
abbrev BundleEffect (α : Type) := Effect Stage2BundleBuilder α

section

variable [Interpreter]

/-- `_require_incomplete` -/
def Stage2BundleBuilder.requireIncomplete (builder : Stage2BundleBuilder) :
    Except PyError BundleStateRecord :=
  match if builder.place = .staging then builder.tree.readBytes [stateName] else none with
  | none => .error (.stage2Bundle "bundle has no mutable incomplete state")
  | some data => do
    let record ← modelValidateJson BundleStateRecord.ofJson data
    if record.state ≠ .incomplete then
      .error (.stage2Bundle "only an incomplete bundle can change state")
    else .ok record

/-- `_inventory` -/
def inventory (tree : FileTree) : Except PyError (List BundleFileEntry) :=
  collect BundleFileEntry.ofFile
    (tree.filesWhere fun path => path.getLast? ≠ some stateName ∧ path.getLast? ≠ some manifestName)

/-- `_validate_reconstruction` -/
def validateReconstruction (tree : FileTree) (reconstruct : Reconstructor) :
    Except PyError Str := do
  let expectedDerived ← reconstruct (filesBeneath (lit "raw") tree)
  let normalized ← collect (fun file : Str × Bytes => do
    let path ← safeRelative file.1
    if path.parts.head? ≠ some (lit "derived") then
      .error (.stage2Bundle "reconstruction output escaped derived/")
    else .ok (path.asPosix, file.2)) expectedDerived
  let actual := filesBeneath (lit "derived") tree
  if sortFields normalized ≠ actual then
    .error (.stage2Bundle "derived evidence differs from exact raw reconstruction")
  else reconstructionIdentity actual

/-- What `commit` computes before it changes anything: the inventory and the identity. -/
def validateForCommit (tree : FileTree) (reconstruct : Reconstructor) :
    Except PyError (List BundleFileEntry × Str) := do
  let reconstructionSha256 ← validateReconstruction tree reconstruct
  let inventory ← inventory tree
  if inventory = [] ∨ ¬ ∃ entry ∈ inventory, lit "raw/" <+: entry.path then
    .error (.stage2Bundle "committed bundles require retained raw evidence")
  else if ¬ ∃ entry ∈ inventory, lit "derived/" <+: entry.path then
    .error (.stage2Bundle "committed bundles require reconstructed evidence")
  else .ok (inventory, reconstructionSha256)

/-- The checks of `_write_evidence` that come before its file operations. -/
def checkEvidence (builder : Stage2BundleBuilder) (start : String) (relative : Str)
    (data : Bytes) : Except PyError PurePosixPath := do
  let _ ← builder.requireIncomplete
  let path ← safeRelative relative
  if path.parts.head? ≠ some (lit start) then
    .error (.stage2Bundle
      ("Stage 2 " ++ start ++ " evidence must remain beneath " ++ start ++ "/"))
  else if suffix (path.tail.getLastD []) ∉ allowedTextSuffixes then
    .error (.stage2Bundle "generated binary evidence is outside the Stage 2A policy")
  else
    match utf8Decode data with
    | none => .error (.stage2Bundle "Stage 2A durable evidence must be UTF-8 text")
    | some text => do
      requirePublicSafeEvidence text
      .ok path

end

/-! ## File operations -/

namespace BundleSetting

variable (setting : BundleSetting)

/-- A call on a file of the directory at `place`. -/
def fileCall (place : Place) (call : ℤ → FileTree → Option FileTree) : BundleEffect Unit :=
  syscall setting.world fun time builder =>
    if builder.place = place then
      (call time builder.tree).map fun tree => { builder with tree := tree }
    else none

/-- `_sync_path` of a directory of the bundle, and `os.fsync` of a file. -/
def syncPath (place : Place) (path : RelPath) : BundleEffect Unit :=
  setting.fileCall place fun _ tree => if tree.has path then some tree else none

/-- `_sync_path(self.parent)` -/
def syncParent : BundleEffect Unit := syscall setting.world fun _ builder => some builder

/-- `_replace(self.staging_path, self.final_path)` -/
def renameToFinal : BundleEffect Unit :=
  syscall setting.world fun _ builder =>
    if builder.place = .staging then some { builder with place := .final } else none

/-- `path.with_name(f".{path.name}.tmp-{os.getpid()}")` -/
def temporaryPath (path : RelPath) : RelPath :=
  path.dropLast ++ [lit "." ++ path.getLastD [] ++ lit ".tmp-" ++ decimal setting.pid]

/-- `_durable_write` -/
def durableWrite (place : Place) (path : RelPath) (data : Bytes) : BundleEffect Unit :=
  if maxStage2FileBytes < data.length then
    throwing (.stage2Bundle "bundle file exceeds the Stage 2 size limit")
  else
    let temporary := setting.temporaryPath path
    tryFinally
      (do
        compute (fsConvert temporary)
        setting.fileCall place fun time tree => tree.create temporary time
        setting.fileCall place fun time tree => tree.write temporary data time
        setting.syncPath place temporary
        setting.fileCall place fun _ tree => tree.replace temporary path
        setting.syncPath place path.dropLast)
      (do
        let builder ← getState
        if builder.place = place ∧ builder.tree.has temporary then
          setting.fileCall place fun _ tree => tree.unlink temporary
        else pure ())

/-- The loop of `_prepare_evidence_destination`: the directories below `current`. -/
def prepareParents : RelPath → RelPath → BundleEffect Unit
  | _, [] => pure ()
  | current, part :: parts => do
    let builder ← getState
    let directory := current ++ [part]
    if builder.tree.has directory then
      if builder.tree.isDir directory then prepareParents directory parts
      else throwing (.stage2Bundle "bundle evidence parent is not a directory")
    else do
      compute (fsConvert directory)
      setting.fileCall .staging fun _ tree => tree.mkdir directory
      setting.syncPath .staging current
      prepareParents directory parts

/-- `_prepare_evidence_destination` -/
def prepareEvidenceDestination (path : RelPath) : BundleEffect Unit :=
  setting.prepareParents [] path.dropLast

section

variable [Interpreter]

/-- `_write_state_at` -/
def writeStateAt (place : Place) (state : BundleState) (phase : Str)
    (reason lastValidBoundary : Option Str) : BundleEffect Unit := do
  setState fun builder => { builder with sequence := builder.sequence + 1 }
  let builder ← getState
  let record : BundleStateRecord := ⟨state, phase, reason, lastValidBoundary, builder.sequence⟩
  if record.Valid then do
    let data ← compute record.line
    setting.durableWrite place [stateName] data
  else throwing (.validation "BundleStateRecord")

/-- The constructor, once the staging directory is made. -/
def create : BundleEffect Unit := do
  setting.writeStateAt .staging .incomplete (lit "CREATED") none none
  setting.syncPath .staging []
  setting.syncParent

/-- `_record_commit_failure`; the directory stands at one of the two paths. -/
def recordCommitFailure : BundleEffect Unit := do
  let builder ← getState
  if builder.tree.has [manifestName] then
    setting.fileCall builder.place fun _ tree => tree.unlink [manifestName]
  setting.writeStateAt builder.place .invalid (lit "COMMIT")
    (some (lit "DURABILITY_OPERATION_FAILED")) (some (lit "RECONSTRUCTION_VALIDATED"))
  if builder.place = .final then setting.syncParent

/-! ## The calls -/

/-- `_write_evidence` -/
def writeEvidence (start : String) (relative : Str) (data : Bytes) : BundleEffect Unit := do
  let builder ← getState
  let path ← compute (checkEvidence builder start relative data)
  setting.prepareEvidenceDestination path.tail
  let prepared ← getState
  if prepared.tree.has path.tail then
    throwing (.stage2Bundle "bundle evidence file cannot be replaced")
  else do
    setting.durableWrite .staging path.tail data
    setting.writeStateAt .staging .incomplete (lit "EVIDENCE_RETAINED") none (some relative)

/-- `write_raw` -/
def writeRaw (relative : Str) (data : Bytes) : BundleEffect Unit :=
  setting.writeEvidence "raw" relative data

/-- `write_derived` -/
def writeDerived (relative : Str) (data : Bytes) : BundleEffect Unit :=
  setting.writeEvidence "derived" relative data

/-- `invalidate` -/
def invalidate (phase reason : Str) (lastValidBoundary : Option Str) : BundleEffect Unit := do
  let builder ← getState
  if builder.place ≠ .staging then
    throwing (.stage2Bundle "staging bundle no longer exists")
  else do
    let _ ← compute builder.requireIncomplete
    setting.writeStateAt .staging .invalid phase (some reason) lastValidBoundary

variable [Timestamps]

/-- `Stage2BundleManifest(…)` -/
def manifestOf (now : Timestamps.Timestamp) (inventory : List BundleFileEntry)
    (reconstructionSha256 : Str) : Except PyError Stage2BundleManifest :=
  let manifest : Stage2BundleManifest :=
    ⟨setting.repetitionIndex, setting.sourceCommit, now, inventory, reconstructionSha256⟩
  if manifest.Valid then .ok manifest else .error (.validation "Stage2BundleManifest")

/-- The steps of `commit` that make the bundle durable. -/
def publish (manifestBytes : Bytes) : BundleEffect Unit := do
  setting.syncPath .staging []
  setting.renameToFinal
  setting.syncParent
  setting.fileCall .final fun _ tree => tree.unlink [stateName]
  setting.syncPath .final []
  setting.durableWrite .final [manifestName] manifestBytes

/-- `commit`; `now` is `datetime.now(UTC)`. -/
def commit (reconstruct : Reconstructor) (crashBeforeManifest : Bool)
    (now : Timestamps.Timestamp) : BundleEffect Stage2BundleManifest := do
  let builder ← getState
  let _ ← compute builder.requireIncomplete
  match validateForCommit builder.tree reconstruct with
  | .error error => do
    setting.invalidate (lit "COMMIT_VALIDATION") (lit "RECONSTRUCTION_OR_INVENTORY_INVALID")
      (some (lit "RAW_EVIDENCE_RETAINED"))
    if error.isStage2Bundle then throwing error
    else throwing (.stage2Bundle "bundle commit validation failed")
  | .ok (inventory, reconstructionSha256) =>
    if crashBeforeManifest then
      throwing (.stage2Bundle "simulated crash before evidence manifest")
    else do
      let manifest ← compute (setting.manifestOf now inventory reconstructionSha256)
      let manifestBytes ← compute manifest.line
      tryExcept (setting.publish manifestBytes) (· = .os) fun _ => do
        tryExcept setting.recordCommitFailure (fun e => e = .os ∨ e.isStage2Bundle) fun _ =>
          throwing (.stage2Bundle
            "bundle commit failed and invalid-state durability could not be confirmed")
        throwing (.stage2Bundle "bundle fsync or atomic rename failed")
      pure manifest

end

end BundleSetting

/-- An empty staging directory, when nothing has been called yet. -/
def emptyBundle : Machine Stage2BundleBuilder := ⟨⟨.staging, .empty, 0⟩, 0⟩

/-- A world in which no call fails, and the arguments of a constructor. -/
def sampleSetting : BundleSetting :=
  ⟨⟨fun _ => .none, fun n => n⟩, 7, 1, List.replicate 40 97⟩

/-- A bundle with some raw files and a derived one. -/
def sampleBundle [Interpreter] (raw : List String) : Machine Stage2BundleBuilder :=
  (sampleSetting.writeDerived (lit "derived/a.json") [91, 93, 10]
    (raw.foldl (fun m path => (sampleSetting.writeRaw (lit path) [91, 93, 10] m).2)
      (sampleSetting.create emptyBundle).2)).2

/-- What derives that file. -/
def sampleReconstruct : Reconstructor := fun _ => .ok [(lit "derived/a.json", [91, 93, 10])]

/-! ## Readers -/

section

variable [Interpreter] [Timestamps]

/-- `inspect_bundle_state` -/
def inspectBundleState (directory : FileTree) : Except PyError BundleState :=
  match directory.readBytes [manifestName] with
  | some data => (modelValidateJson Stage2BundleManifest.ofJson data).map fun _ => .committed
  | none =>
    match directory.readBytes [stateName] with
    | none => .ok .incomplete
    | some data => (modelValidateJson BundleStateRecord.ofJson data).map (·.state)

/-- The check of one listed file, against the time of the manifest. -/
def checkListedFile (directory : FileTree) (manifestMtime : ℤ) (entry : BundleFileEntry) :
    Except PyError Unit :=
  match directory.get (PurePosixPath.ofStr entry.path).tail with
  | some (.file data mtime) =>
    if data.length ≠ entry.size ∨ Interpreter.hexdigest data ≠ entry.sha256 then
      .error (.stage2Bundle "bundle file size or hash differs")
    else if manifestMtime < mtime then
      .error (.stage2Bundle "evidence manifest was written before an inventoried file")
    else .ok ()
  | _ => .error .os

/-- `validate_committed_bundle` -/
def validateCommittedBundle (directory : FileTree) (reconstruct : Reconstructor) :
    Except PyError Stage2BundleManifest := do
  if (← inspectBundleState directory) ≠ .committed then
    .error (.stage2Bundle "summaries may consume only committed bundles")
  else
    match directory.get [manifestName] with
    | some (.file data manifestMtime) => do
      let manifest ← modelValidateJson Stage2BundleManifest.ofJson data
      let actual := directory.filesWhere fun path => path.getLast? ≠ some manifestName
      if actual.map (·.1) ≠ manifest.files.map (·.path) then
        .error (.stage2Bundle "bundle file inventory is incomplete or unexpected")
      else do
        each (checkListedFile directory manifestMtime) manifest.files
        let expected ← reconstruct (filesBeneath (lit "raw") directory)
        let actualDerived := filesBeneath (lit "derived") directory
        if sortFields expected ≠ actualDerived then
          .error (.stage2Bundle "committed derived evidence does not reconstruct exactly")
        else do
          let reconstructionSha ← reconstructionIdentity actualDerived
          if reconstructionSha ≠ manifest.reconstructionSha256 then
            .error (.stage2Bundle "reconstruction identity differs")
          else .ok manifest
    | _ => .error .os

end

end Stage2
