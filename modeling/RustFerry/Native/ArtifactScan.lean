import Mathlib.Data.Prod.Lex
import RustFerry.ForStd.Except
import RustFerry.ForStd.Text

/-!
# The scan of a downloaded artifact

`scan_archive` of `crates/rustferry-github/src/artifact.rs` with its checks of names, metadata and
layout. What the ZIP reader reports of an entry is data; an entry that it cannot open is `none`.
-/

namespace RustFerry.DownloadedArtifact

open Except

/-! ## Required files -/

/-- One required root file in the artifact. -/
inductive RequiredArtifactFile where
  | ipa
  | manifest
  | signingReport
  | validationReport
  | sanitizedLog
  | appBundleArchive
  | signedXcarchive
  | dsymArchive
  deriving DecidableEq

namespace RequiredArtifactFile

def all : List RequiredArtifactFile :=
  [.ipa, .manifest, .signingReport, .validationReport, .sanitizedLog, .appBundleArchive,
    .signedXcarchive, .dsymArchive]

def fileName : RequiredArtifactFile → String
  | .ipa => "application-development.ipa"
  | .manifest => "artifact-manifest.json"
  | .signingReport => "signing-report.json"
  | .validationReport => "validation-report.json"
  | .sanitizedLog => "sanitized-build-log.txt"
  | .appBundleArchive => "application.app.zip"
  | .signedXcarchive => "application.xcarchive.zip"
  | .dsymArchive => "application.dSYM.zip"

def maxIpaBytes : Nat := 2 * 1024 * 1024 * 1024 + 16 * 1024 * 1024
def maxAppBundleArchiveBytes : Nat := maxIpaBytes
def maxXcarchiveBytes : Nat := 2 * 1024 * 1024 * 1024 + 32 * 1024 * 1024
def maxDsymArchiveBytes : Nat := 2 * 1024 * 1024 * 1024 + 32 * 1024 * 1024
def maxManifestBytes : Nat := 1024 * 1024
def maxReportBytes : Nat := 4 * 1024 * 1024
def maxSanitizedLogBytes : Nat := 4 * 1024 * 1024

def maximumSize : RequiredArtifactFile → Nat
  | .ipa => maxIpaBytes
  | .manifest => maxManifestBytes
  | .signingReport | .validationReport => maxReportBytes
  | .sanitizedLog => maxSanitizedLogBytes
  | .appBundleArchive => maxAppBundleArchiveBytes
  | .signedXcarchive => maxXcarchiveBytes
  | .dsymArchive => maxDsymArchiveBytes

def maxTotalExpandedBytes : Nat :=
  maxIpaBytes + maxAppBundleArchiveBytes + maxXcarchiveBytes + maxDsymArchiveBytes +
    maxManifestBytes + 2 * maxReportBytes + maxSanitizedLogBytes

def fromFileName (name : String) : Option RequiredArtifactFile :=
  all.find? fun file => file.fileName == name

end RequiredArtifactFile

open RequiredArtifactFile

/-- The errors of the scan. -/
inductive GithubArtifactError where
  | invalidArchive
  | invalidEntryCount
  | unsafeEntryName
  | nestedArchiveRoot
  | unexpectedEntry
  | duplicateEntry
  | portableNameCollision
  | encryptedEntry
  | unsupportedCompression
  | linkedOrSpecialEntry
  | missingEntry (file : RequiredArtifactFile)
  | entryTooLarge (file : RequiredArtifactFile)
  | expandedArchiveTooLarge
  | compressionRatioExceeded (file : RequiredArtifactFile)
  deriving DecidableEq

abbrev ScanResult := Except GithubArtifactError

/-! ## Entries -/

inductive CompressionMethod where
  | stored
  | deflated
  | other
  deriving DecidableEq

/-- An entry as the ZIP reader reports it. -/
structure ArchiveEntry where
  nameRaw : List UInt8
  encrypted : Bool
  compression : CompressionMethod
  isDir : Bool
  isSymlink : Bool
  unixMode : Option UInt32
  size : UInt64
  compressedSize : UInt64
  headerStart : UInt64
  dataStart : Option UInt64

def maxCompressionRatio : Nat := 200

def validateEntryName (rawName : List UInt8) : ScanResult String := do
  let name ← ofOption .unsafeEntryName (Text.fromUtf8 rawName)
  let chars := name.toList
  rejectIf (chars.isEmpty || chars.head? == some '/' || chars.head? == some '\\' ||
    chars.contains '\\' || chars.contains '\x00' || chars.any Text.isControl ||
    rawName[1]? == some 58) .unsafeEntryName
  let components := Text.split '/' chars
  rejectIf (components.any fun component =>
    component.isEmpty || component == ['.'] || component == ['.', '.']) .unsafeEntryName
  rejectIf (components.length != 1) .nestedArchiveRoot
  return name

/-- `value.saturating_mul(factor)`. -/
def saturatingMul (value factor : Nat) : Nat := min (value * factor) (2 ^ 64 - 1)

def validateEntryMetadata (entry : ArchiveEntry) (file : RequiredArtifactFile) :
    ScanResult Unit := do
  rejectIf entry.encrypted .encryptedEntry
  rejectIf (entry.compression == .other) .unsupportedCompression
  rejectIf (entry.isDir || entry.isSymlink) .linkedOrSpecialEntry
  rejectIf (entry.unixMode.any fun mode =>
    let kind := mode &&& 0o170000
    kind != 0 && kind != 0o100000) .linkedOrSpecialEntry
  rejectIf (entry.size == 0 || file.maximumSize < entry.size.toNat) (.entryTooLarge file)
  rejectIf (entry.compressedSize == 0 ||
    saturatingMul entry.compressedSize.toNat maxCompressionRatio < entry.size.toNat)
    (.compressionRatioExceeded file)

/-! ## The layout -/

/-- `value.checked_add(other)`. -/
def checkedAdd (value other : UInt64) : Option UInt64 :=
  if value.toNat + other.toNat < 2 ^ 64 then some (value + other) else none

/-- The derived order of pairs. -/
def rangeLe (a b : UInt64 × UInt64) : Bool := a.1 < b.1 || (a.1 == b.1 && a.2 ≤ b.2)

/-- Some range begins before the end of the range before it. -/
def neighboursOverlap : List (UInt64 × UInt64) → Bool
  | first :: second :: rest => second.1 < first.2 || neighboursOverlap (second :: rest)
  | _ => false

def zipLayoutHasAliases (headerStarts : List UInt64) (compressedRanges : List (UInt64 × UInt64)) :
    Bool :=
  let compressedRanges := compressedRanges.mergeSort rangeLe
  neighboursOverlap compressedRanges || compressedRanges.any fun (start, stop) =>
    start < stop && headerStarts.any fun header => start ≤ header && header < stop

/-! ## The scan -/

/-- Where a required file is, and its size. -/
structure EntryMetadata where
  index : Nat
  size : UInt64
  deriving DecidableEq

/-- The sets and sums of the loop. -/
structure Scan where
  exactNames : List String
  portableNames : List String
  headerStarts : List UInt64
  compressedRanges : List (UInt64 × UInt64)
  entries : List (RequiredArtifactFile × EntryMetadata)
  expandedSize : UInt64
  deriving DecidableEq

def Scan.empty : Scan := ⟨[], [], [], [], [], 0⟩

/-- One pass of the loop; the portable key of a name is a parameter. -/
def scanEntry (portableNameKey : String → String) (archiveSize : UInt64)
    (requiredFiles : List RequiredArtifactFile) (scan : Scan)
    (opened : Option ArchiveEntry × Nat) : ScanResult Scan := do
  let entry ← ofOption .invalidArchive opened.1
  let name ← validateEntryName entry.nameRaw
  rejectIf (scan.exactNames.contains name) .duplicateEntry
  rejectIf (scan.portableNames.contains (portableNameKey name)) .portableNameCollision
  let file ← ofOption .unexpectedEntry (fromFileName name)
  rejectIf (!requiredFiles.contains file) .unexpectedEntry
  validateEntryMetadata entry file
  rejectIf (scan.headerStarts.contains entry.headerStart) .linkedOrSpecialEntry
  let dataStart ← ofOption .invalidArchive entry.dataStart
  let dataEnd ← ofOption .invalidArchive (checkedAdd dataStart entry.compressedSize)
  rejectIf (archiveSize < dataEnd) .invalidArchive
  let expandedSize ← ofOption .expandedArchiveTooLarge (checkedAdd scan.expandedSize entry.size)
  rejectIf (maxTotalExpandedBytes < expandedSize.toNat) .expandedArchiveTooLarge
  rejectIf (scan.entries.any fun known => known.1 == file) .duplicateEntry
  return {
    exactNames := name :: scan.exactNames
    portableNames := portableNameKey name :: scan.portableNames
    headerStarts := entry.headerStart :: scan.headerStarts
    compressedRanges := scan.compressedRanges ++ [(dataStart, dataEnd)]
    entries := scan.entries ++ [(file, ⟨opened.2, entry.size⟩)]
    expandedSize }

/-- `scan_archive`; the required files are in order and each occurs once. -/
def scanArchive (portableNameKey : String → String) (archive : List (Option ArchiveEntry))
    (archiveSize : UInt64) (requiredFiles : List RequiredArtifactFile) :
    ScanResult (List (RequiredArtifactFile × EntryMetadata)) := do
  rejectIf (archive.length != requiredFiles.length) .invalidEntryCount
  let scan ← archive.zipIdx.foldlM (scanEntry portableNameKey archiveSize requiredFiles) .empty
  rejectIf (zipLayoutHasAliases scan.headerStarts scan.compressedRanges) .linkedOrSpecialEntry
  requiredFiles.forM fun file =>
    rejectIf (!scan.entries.any fun known => known.1 == file) (.missingEntry file)
  return scan.entries

end RustFerry.DownloadedArtifact
