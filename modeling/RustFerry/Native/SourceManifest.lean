import RustFerry.Native.SnapshotSession
import RustFerry.Native.SourcePath

/-!
# Source manifests

The canonical description of a source snapshot, its limits and its checks, and the
descriptor that binds it to an archive (`crates/rustferry-remote/src/source.rs`). SHA-256 is
a parameter that yields the lowercase hexadecimal digest.
-/

namespace RustFerry.Source

open Except Snapshot

/-- What the source module takes from other crates. -/
structure SourceTools where
  unicode : Unicode
  /-- Lowercase hexadecimal SHA-256. -/
  sha256 : List UInt8 → String

/-! ## Limits -/

/-- Resource bounds applied while selecting or verifying snapshot source. -/
structure SourceLimits where
  maxFileCount : Nat
  maxFileSize : UInt64
  maxTotalSize : UInt64
  maxDepth : Nat
  maxIgnoreFileSize : UInt64
  maxIgnoreRules : Nat

def SourceLimits.default : SourceLimits where
  maxFileCount := 20000
  maxFileSize := 64 * 1024 * 1024
  maxTotalSize := 512 * 1024 * 1024
  maxDepth := 64
  maxIgnoreFileSize := 64 * 1024
  maxIgnoreRules := 1024

/-- Bounds enforced for source ZIP transport and extraction. -/
structure SourceArchiveLimits where
  source : SourceLimits
  maxArchiveSize : UInt64
  maxCompressionRatio : UInt64

def SourceArchiveLimits.default : SourceArchiveLimits where
  source := .default
  maxArchiveSize := 640 * 1024 * 1024
  maxCompressionRatio := 100

def checkSupportedDepth (limits : SourceLimits) : SourceResult Unit :=
  rejectIf (limits.maxDepth > maxSupportedDepth)
    (.unsupportedDepthLimit limits.maxDepth maxSupportedDepth)

def validateArchiveLimits (limits : SourceArchiveLimits) : SourceResult Unit := do
  checkSupportedDepth limits.source
  rejectIf (limits.maxCompressionRatio == 0)
    (.invalidArchive "maximum compression ratio must be positive")

/-! ## Digests -/

def manifestSchemaVersion : UInt32 := 1

/-- `rustferry-source-manifest-v1` and a zero byte. -/
def manifestDomain : List UInt8 := Text.utf8 "rustferry-source-manifest-v1" ++ [0]

def digestString (value : String) : List UInt8 :=
  BigEndian.toBytes 8 value.utf8ByteSize ++ Text.utf8 value

def digestEntry (entry : SourceManifestEntry) : List UInt8 :=
  digestString entry.path ++ BigEndian.toBytes 8 entry.size.toNat ++ digestString entry.sha256 ++
    [if entry.executable then 1 else 0]

def manifestDigest (tools : SourceTools) (projectPath : String)
    (entries : List SourceManifestEntry) (totalSize : UInt64) : String :=
  tools.sha256 (manifestDomain ++ digestString projectPath ++
    BigEndian.toBytes 8 entries.length ++ entries.flatMap digestEntry ++
    BigEndian.toBytes 8 totalSize.toNat)

def buildManifest (tools : SourceTools) (projectPath : String)
    (entries : List SourceManifestEntry) : SourceManifest :=
  let totalSize := (entries.map SourceManifestEntry.size).sum
  { schemaVersion := manifestSchemaVersion
    projectPath
    entries
    totalSize
    sha256 := manifestDigest tools projectPath entries totalSize }

def isLowercaseSha256 (value : String) : Bool :=
  value.utf8ByteSize == 64 &&
    value.toList.all fun c => c.isDigit || ('a' ≤ c && c ≤ 'f')

theorem utf8ByteSize_of_lowercaseHex {cs : List Char}
    (h : (cs.all fun c => c.isDigit || ('a' ≤ c && c ≤ 'f')) = true) :
    (String.ofList cs).utf8ByteSize = cs.length := by
  induction cs with
  | nil => rfl
  | cons c cs ih =>
    rw [List.all_cons, Bool.and_eq_true] at h
    obtain ⟨hc, hcs⟩ := h
    -- A hexadecimal digit is a character of one byte.
    have hsize : c.utf8Size = 1 := by
      rw [Char.utf8Size_eq_one_iff]
      simp only [Char.isDigit, Bool.or_eq_true, Bool.and_eq_true, decide_eq_true_eq] at hc
      rcases hc with hc | hc
      · exact UInt32.le_trans hc.2 (by decide)
      · exact UInt32.le_trans hc.2 (by decide)
    rw [String.ofList_cons, String.utf8ByteSize_append, String.utf8ByteSize_singleton, hsize,
      ih hcs, List.length_cons, Nat.add_comm]

/-- A digest is checked on its characters. -/
theorem isLowercaseSha256_ofList {cs : List Char} (hlength : cs.length = 64)
    (h : (cs.all fun c => c.isDigit || ('a' ≤ c && c ≤ 'f')) = true) :
    isLowercaseSha256 (String.ofList cs) = true := by
  rw [isLowercaseSha256, String.toList_ofList, h, utf8ByteSize_of_lowercaseHex h, hlength]
  rfl

def validateSha256 (value : String) : SourceResult Unit :=
  rejectIf (!isLowercaseSha256 value)
    (.invalidManifest "SHA-256 digest is not 64 lowercase hexadecimal characters")

/-! ## Validation of a manifest -/

/-- What the checks on the entries have seen so far. -/
structure ManifestState where
  previous : Option String
  collisions : Collisions
  filePaths : List String
  totalSize : Nat
  traversalEntries : Nat

def ManifestState.init : ManifestState := ⟨none, [], [], 0, 0⟩

def consumeManifestTraversal (total : Nat) (path : String) : SourceResult Nat := do
  let total := total + (components path).length
  rejectIf (total > maxSourceTraversalEntries)
    (.limitExceeded .traversalEntryCount (some path) maxSourceTraversalEntries total)
  return total

/-- One iteration over the entries of a manifest. -/
def validateManifestEntry (tools : SourceTools) (limits : SourceLimits) (projectPath : String)
    (state : ManifestState) (entry : SourceManifestEntry) : SourceResult ManifestState := do
  requirePortable tools.unicode entry.path false
  rejectSensitive tools.unicode entry.path
  checkDepth entry.path limits.maxDepth
  let traversalEntries ← consumeManifestTraversal state.traversalEntries entry.path
  let collisions ← registerPathComponents tools.unicode state.collisions entry.path
  -- the project path is compared as text only
  rejectIf (entry.path == projectPath) (.invalidManifest "project path is a file entry")
  rejectIf (hasFileAncestor entry.path state.filePaths)
    (.invalidManifest "a file entry is also used as a directory")
  rejectIf (state.previous.any fun previous => entry.path ≤ previous)
    (.invalidManifest "entries are not strictly sorted by path")
  rejectIf (entry.size > limits.maxFileSize)
    (.limitExceeded .fileSize (some entry.path) limits.maxFileSize.toNat entry.size.toNat)
  validateSha256 entry.sha256
  let totalSize := state.totalSize + entry.size.toNat
  rejectIf (totalSize ≥ 2 ^ 64) (.invalidManifest "total size overflow")
  rejectIf (totalSize > limits.maxTotalSize.toNat)
    (.limitExceeded .totalSize (some entry.path) limits.maxTotalSize.toNat totalSize)
  return { previous := some entry.path, collisions, filePaths := entry.path :: state.filePaths,
           totalSize, traversalEntries }

/-- Validate canonical ordering, bounds, paths, and digests in a manifest. -/
def validateSourceManifest (tools : SourceTools) (manifest : SourceManifest)
    (limits : SourceLimits) : SourceResult Unit := do
  rejectIf (manifest.schemaVersion != manifestSchemaVersion)
    (.invalidManifest "unsupported schema version")
  requirePortable tools.unicode manifest.projectPath true
  if manifest.projectPath != "." then rejectSensitive tools.unicode manifest.projectPath
  checkSupportedDepth limits
  rejectIf (manifest.entries.length > limits.maxFileCount)
    (.limitExceeded .fileCount none limits.maxFileCount manifest.entries.length)
  -- the project path takes no part in the collision map
  let state ← manifest.entries.foldlM
    (validateManifestEntry tools limits manifest.projectPath) .init
  rejectIf (state.totalSize != manifest.totalSize.toNat)
    (.invalidManifest "total size does not equal entry sizes")
  validateSha256 manifest.sha256
  rejectIf (manifestDigest tools manifest.projectPath manifest.entries manifest.totalSize !=
      manifest.sha256)
    (.invalidManifest "manifest digest does not match canonical fields")

/-! ## Descriptors -/

def sourceBundleDescriptorSchemaVersion : UInt32 := 1

/-- Validate the complete descriptor without reading archive bytes. -/
def validateDescriptor (tools : SourceTools) (self : SourceBundleDescriptor)
    (limits : SourceArchiveLimits) : SourceResult Unit := do
  rejectIf (self.schemaVersion != sourceBundleDescriptorSchemaVersion)
    (.invalidArchive "unsupported source-bundle descriptor schema version")
  validateArchiveLimits limits
  rejectIf (self.archive.size == 0) (.invalidArchive "source archive size must be positive")
  rejectIf (!isLowercaseSha256 self.archive.sha256)
    (.invalidArchive "source archive SHA-256 is not 64 lowercase hexadecimal characters")
  rejectIf (self.archive.size > limits.maxArchiveSize)
    (.limitExceeded .archiveSize none limits.maxArchiveSize.toNat self.archive.size.toNat)
  validateSourceManifest tools self.manifest limits.source

end RustFerry.Source
