import RustFerry.Native.SourcePlan

/-!
# Transport of source bundles

The archive that is written from a plan, and what the receiving side does with it
(`crates/rustferry-remote/src/source.rs`, on Unix): the checks on the archive before anything
is extracted, the extraction below a fresh directory, and the scan of what was extracted. The
ZIP format is a parameter.
-/

namespace RustFerry.Source

open Except Snapshot

/-! ## ZIP archives -/

inductive CompressionMethod where
  | stored
  | deflated
  | other
  deriving DecidableEq

/-- Date and time in the form of MS-DOS. -/
structure DateTime where
  datepart : Nat
  timepart : Nat
  deriving DecidableEq

/-- The first of January 1980. -/
def DateTime.default : DateTime := ⟨33, 0⟩

/-- A file as it is given to the writer: its name, its options and its bytes. -/
structure ZipFile where
  name : String
  compressionMethod : CompressionMethod
  lastModifiedTime : DateTime
  unixPermissions : Nat
  data : List UInt8
  deriving DecidableEq

/-- An entry as the reader answers for it; its data unless they fail the integrity check. -/
structure ZipEntry where
  nameRaw : List UInt8
  encrypted : Bool
  isDir : Bool
  isSymlink : Bool
  unixMode : Option Nat
  lastModified : Option DateTime
  comment : List UInt8
  extraData : Option (List UInt8)
  size : UInt64
  compressedSize : UInt64
  compression : CompressionMethod
  data : Option (List UInt8)

structure ZipArchive where
  comment : List UInt8
  entries : List ZipEntry

/-- Writer and reader of the ZIP format. -/
structure ZipTools where
  write : List ZipFile → Option (List UInt8)
  read : List UInt8 → Option ZipArchive

/-! ## Writing -/

/-- `plan.executable_modes.get(&path)`. -/
def portableMode (modes : List (String × Bool)) (path : String) : Option Bool :=
  modes.lookup path

/-- `write_verified_zip_entry` of a file that does not change. -/
def verifiedZipEntry (host : Host) (modes : List (String × Bool)) (planned : PlannedSourceFile)
    (expected : SourceManifestEntry) (sha256 : List UInt8 → String) : SourceResult ZipFile :=
  match host.lookup planned.sourcePath with
  | .missing | .inaccessible => .error (.io "inspect planned source" expected.path)
  | .symlink => .error (.symlink expected.path)
  | .directory _ | .special => .error (.unsupportedFileType expected.path)
  | .file file => do
    rejectLinkCount file.links expected.path
    rejectIf (file.size != expected.size ||
        resolvedExecutableMode file.executable (portableMode modes expected.path) !=
          expected.executable)
      .manifestMismatch
    match file.contents with
    | none => .error (.io "read planned source" expected.path)
    | some contents => do
      rejectIf (contents.length > expected.size.toNat) (.changedDuringRead expected.path)
      rejectIf (contents.length != expected.size.toNat || sha256 contents != expected.sha256)
        .manifestMismatch
      return {
        name := expected.path
        compressionMethod := .stored
        lastModifiedTime := .default
        unixPermissions := if expected.executable then 0o755 else 0o644
        data := contents }

/-- Re-scan a request and require an exact match with an expected manifest. -/
def verifySourceManifest (env : PlanEnv) (request : SourceBundleRequest)
    (expected : SourceManifest) : SourceResult Unit := do
  validateSourceManifest env.tools expected request.limits
  let actual ← planSourceBundle env request
  rejectIf (actual.manifest != expected) .manifestMismatch

/-- The files of the archive of a plan. -/
def plannedZipFiles (env : PlanEnv) (plan : SourceBundlePlan) : SourceResult (List ZipFile) :=
  (plan.files.zip plan.manifest.entries).mapM fun (planned, expected) => do
    rejectIf (planned.bundlePath != expected.path) .manifestMismatch
    verifiedZipEntry env.host plan.executableModes planned expected env.tools.sha256

/-- The bytes that `create_source_bundle_archive` publishes, with their description. -/
def createSourceBundleArchive (env : PlanEnv) (zip : ZipTools) (plan : SourceBundlePlan)
    (limits : SourceArchiveLimits) : SourceResult (SourceArchive × List UInt8) := do
  validateArchiveLimits limits
  validateSourceManifest env.tools plan.manifest limits.source
  rejectIf (plan.manifest.entries.length != plan.files.length) .manifestMismatch
  verifySourceManifest env plan.request plan.manifest
  let files ← plannedZipFiles env plan
  match zip.write files with
  | none => .error (.zip "finish")
  | some bytes => do
    rejectIf (bytes.length > limits.maxArchiveSize.toNat)
      (.limitExceeded .archiveSize none limits.maxArchiveSize.toNat bytes.length)
    return (⟨UInt64.ofNat bytes.length, env.tools.sha256 bytes⟩, bytes)

/-! ## Preflight -/

structure ArchiveEntryMetadata where
  path : String
  size : UInt64
  executable : Bool
  deriving DecidableEq

structure PreflightState where
  entries : List ArchiveEntryMetadata
  exactPaths : List String
  collisions : Collisions
  totalSize : Nat

/-- A path in the text of an error. -/
def quoted (path : String) : String := "\"" ++ path ++ "\""

/-- The checks on the metadata of an entry that do not look at other entries. -/
def checkZipEntry (entry : ZipEntry) (path : String) : SourceResult Nat := do
  rejectIf entry.encrypted (.invalidArchive ("encrypted ZIP entry is forbidden: " ++ quoted path))
  rejectIf (entry.isDir || entry.isSymlink)
    (.invalidArchive ("link or directory ZIP entry is forbidden: " ++ quoted path))
  match entry.unixMode with
  | none => .error (.invalidArchive ("ZIP entry has no normalized Unix mode: " ++ quoted path))
  | some mode => do
    rejectIf (mode &&& 0o170000 != 0o100000) (.invalidArchive ("special ZIP entry is forbidden: " ++ quoted path))
    let permissions := mode &&& 0o777
    rejectIf (permissions != 0o644 && permissions != 0o755)
      (.invalidArchive ("ZIP entry has non-canonical permissions: " ++ quoted path))
    rejectIf (entry.lastModified != some .default)
      (.invalidArchive ("ZIP entry has a non-canonical timestamp: " ++ quoted path))
    rejectIf (!entry.comment.isEmpty || entry.extraData.any (!·.isEmpty))
      (.invalidArchive ("ZIP entry has forbidden auxiliary metadata: " ++ quoted path))
    return permissions

/-- How many times its compressed size an entry is, rounded up. -/
def compressionRatio (entry : ZipEntry) : Nat :=
  if entry.compressedSize == 0 then 2 ^ 64 - 1
  else (entry.size.toNat + entry.compressedSize.toNat - 1) / entry.compressedSize.toNat

/-- One iteration over the entries of an archive. -/
def preflightEntry (tools : SourceTools) (limits : SourceArchiveLimits) (state : PreflightState)
    (entry : ZipEntry) : SourceResult PreflightState :=
  match Text.fromUtf8 entry.nameRaw with
  | none => .error (.invalidArchive "entry name is not UTF-8")
  | some path => do
    requirePortable tools.unicode path false
    rejectSensitive tools.unicode path
    checkDepth path limits.source.maxDepth
    rejectIf (state.exactPaths.contains path) (.invalidArchive ("duplicate ZIP entry " ++ quoted path))
    let collisions ← registerPathComponents tools.unicode state.collisions path
    let permissions ← checkZipEntry entry path
    rejectIf (entry.size > limits.source.maxFileSize)
      (.limitExceeded .fileSize (some path) limits.source.maxFileSize.toNat entry.size.toNat)
    let totalSize := state.totalSize + entry.size.toNat
    -- the checked addition, whose overflow has an error of its own
    rejectIf (totalSize ≥ 2 ^ 64) (.invalidArchive "uncompressed source ZIP size overflow")
    rejectIf (totalSize > limits.source.maxTotalSize.toNat)
      (.limitExceeded .totalSize (some path) limits.source.maxTotalSize.toNat totalSize)
    rejectIf (entry.size > 0 && compressionRatio entry > limits.maxCompressionRatio.toNat)
      (.limitExceeded .compressionRatio (some path) limits.maxCompressionRatio.toNat
        (compressionRatio entry))
    rejectIf (entry.compression == .stored && entry.compressedSize != entry.size)
      (.invalidArchive ("stored ZIP entry size is inconsistent: " ++ quoted path))
    rejectIf (entry.compression != .stored)
      (.invalidArchive ("ZIP entry uses non-canonical compression: " ++ quoted path))
    return {
      entries := state.entries ++ [⟨path, entry.size, permissions == 0o755⟩]
      exactPaths := path :: state.exactPaths
      collisions
      totalSize }

def preflightArchive (tools : SourceTools) (archive : ZipArchive)
    (expectedManifest : SourceManifest) (limits : SourceArchiveLimits) : SourceResult Unit := do
  rejectIf (!archive.comment.isEmpty) (.invalidArchive "archive comment is forbidden")
  rejectIf (archive.entries.length > limits.source.maxFileCount)
    (.limitExceeded .fileCount none limits.source.maxFileCount archive.entries.length)
  let state ← archive.entries.foldlM (preflightEntry tools limits) ⟨[], [], [], 0⟩
  rejectIf (state.entries != expectedManifest.entries.map fun entry =>
    ⟨entry.path, entry.size, entry.executable⟩) .manifestMismatch

/-! ## Extraction -/

/-- What an extraction creates below its destination. -/
inductive ExtractedNode where
  | directory
  | file (contents : List UInt8) (executable : Bool)
  deriving DecidableEq

/-- The files and directories below the destination, without the destination itself. -/
abbrev Extracted := List (FsPath × ExtractedNode)

/-- Create the directories of these components below the ones before, where they are missing. -/
def createSafeParentDirectories (tree : Extracted) (front : FsPath) :
    FsPath → SourceResult Extracted
  | [] => .ok tree
  | name :: rest =>
    match tree.lookup (front ++ [name]) with
    | some (.file _ _) =>
      .error (.invalidArchive "extraction path encountered a non-directory component")
    | some .directory => createSafeParentDirectories tree (front ++ [name]) rest
    | none =>
      createSafeParentDirectories (tree ++ [(front ++ [name], .directory)]) (front ++ [name]) rest

/-- Extract one entry into a file that is created for it. -/
def extractVerifiedEntry (sha256 : List UInt8 → String) (tree : Extracted)
    (pair : ZipEntry × SourceManifestEntry) : SourceResult Extracted := do
  let (entry, expected) := pair
  let path := components expected.path
  let tree ← createSafeParentDirectories tree [] path.dropLast
  rejectIf (tree.lookup path).isSome (.io "create extracted source file" expected.path)
  rejectIf (entry.nameRaw != Text.utf8 expected.path) .manifestMismatch
  match entry.data with
  | none => .error (.invalidArchive ("ZIP entry " ++ quoted expected.path ++ " failed integrity verification"))
  | some data => do
    rejectIf (data.length != expected.size.toNat || sha256 data != expected.sha256)
      .manifestMismatch
    return tree ++ [(path, .file data expected.executable)]

/-- Extract the entries of a manifest; the archive has one entry for each. -/
def extractEntries (sha256 : List UInt8 → String) (archive : ZipArchive)
    (expectedManifest : SourceManifest) : SourceResult Extracted :=
  (archive.entries.zip expectedManifest.entries).foldlM (extractVerifiedEntry sha256) []

/-! ## Verification of what was extracted -/

/-- The names of the children of a directory. -/
def childNames (tree : Extracted) (directory : FsPath) : List (List Char) :=
  tree.filterMap fun (path, _) => if path.dropLast = directory then path.getLast? else none

structure VerifyState where
  directories : List (String × Unit)
  entries : List (String × SourceManifestEntry)
  collisions : Collisions
  totalSize : Nat
  traversal : TraversalBudget

/-- The entry of an extracted file. -/
def verifyFile (tools : SourceTools) (limits : SourceLimits) (state : VerifyState)
    (display : String) (contents : List UInt8) (executable : Bool) : SourceResult VerifyState := do
  rejectIf (state.entries.length ≥ limits.maxFileCount)
    (.limitExceeded .fileCount (some display) limits.maxFileCount (state.entries.length + 1))
  rejectIf (contents.length > limits.maxFileSize.toNat)
    (.limitExceeded .fileSize (some display) limits.maxFileSize.toNat contents.length)
  let nextTotal := state.totalSize + contents.length
  rejectIf (nextTotal ≥ 2 ^ 64)
    (.limitExceeded .totalSize (some display) limits.maxTotalSize.toNat (2 ^ 64 - 1))
  rejectIf (nextTotal > limits.maxTotalSize.toNat)
    (.limitExceeded .totalSize (some display) limits.maxTotalSize.toNat nextTotal)
  rejectSensitiveContents display contents
  let entry : SourceManifestEntry :=
    ⟨display, UInt64.ofNat contents.length, tools.sha256 contents, executable⟩
  return { state with
    totalSize := nextTotal, entries := BTreeMap.insert display entry state.entries }

/-- One child of a directory; a directory goes on the stack. -/
def scanCapabilityChild (tools : SourceTools) (limits : SourceLimits) (tree : Extracted)
    (directory : FsPath) (state : VerifyState × List FsPath) (name : List Char) :
    SourceResult (VerifyState × List FsPath) := do
  let path := directory ++ [name]
  let display := displayRelativePath path
  requirePortable tools.unicode display false
  rejectSensitive tools.unicode display
  checkDepth display limits.maxDepth
  match tree.lookup path with
  | none => .error (.io "inspect verified bundle entry" display)
  | some node => do
    let collisions ← registerCollisionKey tools.unicode state.1.collisions display
    match node with
    | .directory =>
      let directories := BTreeMap.insert display () state.1.directories
      return ({ state.1 with collisions, directories }, path :: state.2)
    | .file contents executable => do
      let next ← verifyFile tools limits { state.1 with collisions } display contents executable
      return (next, state.2)

/-- One turn of the scan: all children of a directory. -/
def scanCapabilityStep (tools : SourceTools) (limits : SourceLimits) (tree : Extracted)
    (state : VerifyState) (directory : FsPath) : SourceResult (VerifyState × List FsPath) := do
  let names := childNames tree directory
  let traversal ← names.foldlM (fun traversal _ =>
    traversal.consume 1 (some (displayRelativePath directory))) state.traversal
  (names.insertionSort (· ≤ ·)).reverse.foldlM (scanCapabilityChild tools limits tree directory)
    ({ state with traversal }, [])

/-- Scan what was extracted. -/
def scanCapabilityPaths (tools : SourceTools) (limits : SourceLimits) (tree : Extracted) :
    SourceResult ScanResult := do
  let traversal ← TraversalBudget.new maxSourceTraversalEntries
  let state ← Worklist.drain .manifestMismatch (scanCapabilityStep tools limits tree)
    (1 + maxSourceTraversalEntries) [[]] ⟨[], [], [], 0, traversal⟩
  return ⟨state.entries.map (·.2), state.directories.map (·.1), []⟩

def hasUnexpectedDirectory (directories : List String) (expected : SourceManifest) : Bool :=
  directories.any fun directory => !expected.entries.any fun entry =>
    (Text.stripFront directory.toList entry.path.toList).any fun rest => rest.head? == some '/'

/-- Verify an extracted bundle against its manifest. -/
def verifyMaterializedCapability (tools : SourceTools) (tree : Extracted)
    (expected : SourceManifest) (limits : SourceLimits) : SourceResult Unit := do
  let scan ← scanCapabilityPaths tools limits tree
  rejectIf (buildManifest tools expected.projectPath scan.entries != expected ||
    hasUnexpectedDirectory scan.directories expected) .manifestMismatch

end RustFerry.Source
