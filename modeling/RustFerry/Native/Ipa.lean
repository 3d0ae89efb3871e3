import RustFerry.Native.UnsignedBundle
import RustFerry.Native.Protocol

/-!
# Inspection of an IPA

`inspect_ipa` of `crates/rustferry-remote/src/artifact.rs` over the list of ZIP
entries, the expectation that a build request produces for it
(`IosDeviceBuildRequest::ipa_expectation`, `crates/rustferry-remote/src/protocol.rs`),
and the IPA that packs an application directory.
-/

namespace RustFerry.Artifact

open Remote Except

/-! ## ZIP entries -/

/-- One entry of a ZIP archive; `bytes` is what it unpacks to, if it is intact. -/
structure ZipEntry where
  name : String
  unixMode : Option Nat
  compressedSize : Nat
  size : Nat
  bytes : Option (List UInt8)

def ZipEntry.isDir (entry : ZipEntry) : Bool := ['/'].isSuffixOf entry.name.toList

/-- An IPA: the bytes of the file and its entries in index order. -/
structure ZipArchive where
  fileBytes : List UInt8
  entries : List ZipEntry

/-- The checks on one component of a ZIP name. -/
def validateZipComponent (name : String) (index : Nat) (component : List Char) :
    ArtifactResult Unit := do
  rejectIf (component == [] || component == ['.'] || component == ['.', '.'])
    (.invalidIpa s!"unsafe ZIP entry name `{name}`")
  -- a drive letter is one byte, so the colon is the second character
  rejectIf (index == 0 && match component with
      | drive :: ':' :: _ => drive.utf8Size == 1
      | _ => false)
    (.invalidIpa s!"Windows drive path in ZIP entry `{name}`")

def validateZipName (name : String) : ArtifactResult Unit := do
  rejectIf (name == "" || name.utf8ByteSize > maxIpaEntryName ||
      ['/'].isPrefixOf name.toList || ['\\'].isPrefixOf name.toList ||
      name.toList.any (fun c => c == '\\' || c.toNat == 0) || name.toList.any Text.isControl)
    (.invalidIpa s!"unsafe ZIP entry name `{name}`")
  let trimmed := Text.trimEndMatches ['/'] name.toList.length name.toList
  rejectIf trimmed.isEmpty (.invalidIpa s!"unsafe ZIP entry name `{name}`")
  (Text.split '/' trimmed).zipIdx.forM fun (component, index) =>
    validateZipComponent name index component

def rejectSensitiveOrGeneratedName (tools : InspectionTools) (name : String) :
    ArtifactResult Unit :=
  let lower := tools.toLowercase name.toList
  let forbiddenSuffixes := [".p12", ".p8", ".key", ".pem", ".mobileprovision.bak",
    ".xcodeproj/project.pbxproj", ".swift", ".m", ".mm"]
  let forbiddenParts := ["/keychains/", "/credentials/", "/secrets/"]
  rejectIf (forbiddenSuffixes.any (fun suffix => suffix.toList.isSuffixOf lower) ||
      forbiddenParts.any fun part => lower.tails.any part.toList.isPrefixOf)
    (.invalidIpa s!"forbidden sensitive/generated entry `{name}`")

def isMainInfoPlist (name : String) : Bool :=
  match Text.split '/' name.toList with
  | [payload, app, info] =>
    payload == "Payload".toList && Text.hasAsciiExtension app "app".toList &&
      info == "Info.plist".toList
  | _ => false

/-- What the scan of the entries has collected. -/
structure ZipScan where
  entries : List String
  folded : List (List Char × String)
  totalSize : Nat
  appInfoPlists : List String

/-- File type bits 0o170000: none, a directory or a regular file. -/
def isPlainZipMode (mode : Nat) : Bool :=
  mode / 4096 % 16 == 0 || mode / 4096 % 16 == 4 || mode / 4096 % 16 == 8

/-- One iteration over the ZIP entries. -/
def scanZipEntry (tools : InspectionTools) (scan : ZipScan) (entry : ZipEntry) :
    ArtifactResult ZipScan := do
  let name := entry.name
  validateZipName name
  rejectIf (scan.entries.contains name) (.invalidIpa s!"duplicate ZIP entry `{name}`")
  let fold := canonicalArchiveKey tools name
  rejectIf (scan.folded.any fun seen => seen.1 == fold && seen.2 != name)
    (.invalidIpa s!"case-colliding ZIP entries with `{name}`")
  rejectIf (entry.size > maxIpaEntrySize)
    (.invalidIpa s!"entry `{name}` exceeds the per-file limit")
  let totalSize := scan.totalSize + entry.size
  rejectIf (totalSize ≥ 2 ^ 64) (.invalidIpa "uncompressed size overflow")
  rejectIf (totalSize > maxIpaTotalSize)
    (.invalidIpa "uncompressed IPA exceeds the total-size limit")
  rejectIf (entry.compressedSize > 0 && entry.size > 1024 * 1024 &&
      entry.size / entry.compressedSize > maxCompressionRatio)
    (.invalidIpa s!"entry `{name}` exceeds the compression-ratio limit")
  rejectIf (entry.unixMode.any fun mode => !isPlainZipMode mode)
    (.invalidIpa s!"entry `{name}` is a link or special file")
  rejectSensitiveOrGeneratedName tools name
  if !entry.isDir then
    match entry.bytes with
    | none => invalidIpa s!"entry `{name}` failed ZIP integrity verification"
    | some bytes =>
      rejectIf (bytes.length != entry.size)
        (.invalidIpa
          s!"entry `{name}` declared {entry.size} bytes but unpacked {bytes.length}")
  return {
    entries := name :: scan.entries
    folded := (fold, name) :: scan.folded
    totalSize
    appInfoPlists := if isMainInfoPlist name then name :: scan.appInfoPlists
      else scan.appInfoPlists }

def readZipEntry (archive : ZipArchive) (name : String) : ArtifactResult (List UInt8) :=
  match archive.entries.find? fun entry => entry.name == name with
  | none => invalidIpa s!"required entry `{name}` is missing"
  | some entry => do
    rejectIf (entry.size > maxIpaEntrySize)
      (.invalidIpa s!"entry `{name}` exceeds the read limit")
    match entry.bytes with
    | none => .error (.io "read entry from" name)
    | some bytes => do
      rejectIf (bytes.length > entry.size)
        (.invalidIpa s!"entry `{name}` exceeded its declared size")
      return bytes

def readZipPlist (tools : InspectionTools) (archive : ZipArchive) (name : String) :
    ArtifactResult Dictionary := do
  let bytes ← readZipEntry archive name
  match tools.parsePlist bytes with
  | none => invalidIpa s!"plist `{name}` is invalid"
  | some (.dictionary entries) => return entries
  | some _ => invalidIpa s!"plist `{name}` is not a dictionary"

def plistString (dictionary : Dictionary) (key : String) : ArtifactResult String :=
  match lookupString dictionary key with
  | some text => .ok text
  | none => invalidIpa s!"Info.plist has no string `{key}`"

/-! ## The main application -/

def validateIpaMinimumOs (context actual expected : String) : ArtifactResult Unit :=
  rejectIf ((parseAppleVersion actual).isNone ||
      parseAppleVersion actual != parseAppleVersion expected)
    (.invalidIpa s!"{context} minimum iOS version does not match the request")

def validateIpaMachOMinimumOs (relative : String) (evidence : List MachOSliceEvidence)
    (expected : String) : ArtifactResult Unit :=
  match parseAppleVersion expected with
  | none => invalidIpa "request minimum iOS version is invalid"
  | some expected =>
    rejectIf (evidence.any fun slice =>
        slice.minimumOs.bind parseAppleVersion != some expected)
      (.invalidIpa s!"Mach-O `{relative}` minimum iOS version does not match the request")

/-- Check the value that a plist has for a key against an optional expectation. -/
def validateOptionalPlistString (info : Dictionary) (key : String) (reason : String)
    (expected : Option String) : ArtifactResult Unit :=
  match expected with
  | none => .ok ()
  | some expected => do
    let actual ← plistString info key
    rejectIf (actual != expected) (.invalidIpa reason)

structure IpaApplication where
  bundleIdentifier : String
  executable : String
  mainExecutable : List MachOSliceEvidence

/-- The checks on the main `Info.plist` and the main executable. -/
def inspectIpaApplication (tools : InspectionTools) (expectation : IpaExpectation)
    (archive : ZipArchive) (infoPath appPath : String) : ArtifactResult IpaApplication := do
  let info ← readZipPlist tools archive infoPath
  let bundleIdentifier ← plistString info "CFBundleIdentifier"
  let executable ← plistString info "CFBundleExecutable"
  rejectIf (bundleIdentifier != expectation.bundleIdentifier)
    (.invalidIpa s!"CFBundleIdentifier mismatch: expected `{expectation.bundleIdentifier}`, found `{bundleIdentifier}`")
  rejectIf (executable != expectation.executable)
    (.invalidIpa s!"CFBundleExecutable mismatch: expected `{expectation.executable}`, found `{executable}`")
  validateOptionalPlistString info "CFBundleShortVersionString" "app version mismatch"
    expectation.appVersion
  validateOptionalPlistString info "CFBundleVersion" "build number mismatch"
    expectation.buildNumber
  let minimumOs ← plistString info "MinimumOSVersion"
  validateIpaMinimumOs "application" minimumOs expectation.minimumOs
  let executablePath := appPath ++ "/" ++ executable
  let mainBytes ← readZipEntry archive executablePath
  let mainExecutable ← inspectPhysicalIphoneMachO tools mainBytes
  validateIpaMachOMinimumOs executablePath mainExecutable expectation.minimumOs
  return { bundleIdentifier, executable, mainExecutable }

/-! ## Nested bundles -/

def infoPlistSuffix : String := "/Info.plist"

/-- A nested `Info.plist` whose bundle is the expected one. -/
structure LocatedBundle where
  root : String
  relativeRoot : String
  kind : UnsignedNestedBundleKind
  bundleIdentifier : String
  executable : String
  info : Dictionary

def isNestedInfoPlist (appPath name : String) : Bool :=
  (appPath.toList ++ ['/']).isPrefixOf name.toList &&
    (".appex/Info.plist".toList.isSuffixOf name.toList ||
      ".framework/Info.plist".toList.isSuffixOf name.toList)

def nestedKind (infoPath : String) : UnsignedNestedBundleKind :=
  if ".appex/Info.plist".toList.isSuffixOf infoPath.toList then .appExtension else .framework

/-- The bundle of a nested `Info.plist`, up to the comparison with its expectation. -/
def locateNestedBundle (tools : InspectionTools) (expectation : IpaExpectation)
    (archive : ZipArchive) (appPath infoPath : String) : ArtifactResult LocatedBundle := do
  let info ← readZipPlist tools archive infoPath
  let executable ← plistString info "CFBundleExecutable"
  let root := Text.trimEndMatches infoPlistSuffix.toList infoPath.toList.length infoPath.toList
  match Text.stripFront (appPath.toList ++ ['/']) root with
  | none => invalidIpa s!"nested bundle `{String.ofList root}` escaped the main application"
  | some relative =>
    let relativeRoot := String.ofList relative
    match expectation.nestedBundles.find? fun nested => nested.relativePath == relativeRoot with
    | none => invalidIpa s!"unexpected nested bundle `{relativeRoot}`"
    | some expected => do
      let kind := nestedKind infoPath
      let bundleIdentifier ← plistString info "CFBundleIdentifier"
      rejectIf (expected.kind != kind || expected.executable != executable ||
          expected.bundleIdentifier != bundleIdentifier)
        (.invalidIpa s!"nested bundle `{relativeRoot}` differs from its request expectation")
      return {
        root := String.ofList root
        relativeRoot, kind, bundleIdentifier, executable, info }

/-- The version rules for a nested bundle: those of the application. -/
def validateNestedVersions (expectation : IpaExpectation) (bundle : LocatedBundle) :
    ArtifactResult Unit := do
  validateOptionalPlistString bundle.info "CFBundleShortVersionString"
    s!"nested bundle `{bundle.relativeRoot}` has an unexpected app version"
    expectation.appVersion
  validateOptionalPlistString bundle.info "CFBundleVersion"
    s!"nested bundle `{bundle.relativeRoot}` has an unexpected build number"
    expectation.buildNumber

structure NestedScan where
  extensions : List String
  actualNested : List (String × Unit)
  nestedExecutables : CodeEvidence

/-- The checks on the executable of a nested bundle. -/
def inspectNestedExecutable (tools : InspectionTools) (expectation : IpaExpectation)
    (archive : ZipArchive) (scan : NestedScan) (bundle : LocatedBundle) :
    ArtifactResult NestedScan := do
  let minimumOs ← plistString bundle.info "MinimumOSVersion"
  validateIpaMinimumOs bundle.relativeRoot minimumOs expectation.minimumOs
  let path := bundle.root ++ "/" ++ bundle.executable
  let bytes ← readZipEntry archive path
  let evidence ← inspectPhysicalIphoneMachO tools bytes
  validateIpaMachOMinimumOs path evidence expectation.minimumOs
  return {
    extensions := if bundle.kind == .appExtension then bundle.bundleIdentifier :: scan.extensions
      else scan.extensions
    actualNested := BTreeMap.insert bundle.relativeRoot () scan.actualNested
    nestedExecutables := BTreeMap.insert path evidence scan.nestedExecutables }

/-- One iteration over the nested `Info.plist` files. -/
def inspectNestedBundle (tools : InspectionTools) (expectation : IpaExpectation)
    (archive : ZipArchive) (appPath : String) (scan : NestedScan) (infoPath : String) :
    ArtifactResult NestedScan := do
  let bundle ← locateNestedBundle tools expectation archive appPath infoPath
  validateNestedVersions expectation bundle
  inspectNestedExecutable tools expectation archive scan bundle

/-- The names of the nested `Info.plist` files, in index order. -/
def nestedInfoPlists (appPath : String) (archive : ZipArchive) : List String :=
  (archive.entries.map ZipEntry.name).filter (isNestedInfoPlist appPath)

/-! ## The inspector -/

/-- Evidence for one inspected IPA. -/
structure IpaInspection where
  appPath : String
  bundleIdentifier : String
  executable : String
  mainExecutable : List MachOSliceEvidence
  nestedExecutables : CodeEvidence
  extensions : List String
  provisioningProfilePresent : Bool
  entries : List String
  sha256 : String
  size : Nat

/-- Insert into the expected nested bundles; a second one with the same path is an error. -/
def insertNestedExpectation (seen : List String) (nested : UnsignedNestedBundleExpectation) :
    ArtifactResult (List String) := do
  rejectIf (seen.contains nested.relativePath)
    (.invalidIpa s!"duplicate nested bundle expectation `{nested.relativePath}`")
  return nested.relativePath :: seen

/-- One iteration over the dynamic libraries of the frameworks directory. -/
def inspectIpaDylib (tools : InspectionTools) (archive : ZipArchive) (evidence : CodeEvidence)
    (name : String) : ArtifactResult CodeEvidence := do
  let bytes ← readZipEntry archive name
  let slices ← inspectPhysicalIphoneMachO tools bytes
  return BTreeMap.insert name slices evidence

def expectedAppPath (expectation : IpaExpectation) : String :=
  "Payload/" ++ expectation.appDirectoryName

/-- Inspect an IPA against the expectation of the request. -/
def inspectIpa (tools : InspectionTools) (archive : ZipArchive) (expectation : IpaExpectation) :
    ArtifactResult IpaInspection := do
  rejectIf (archive.entries.length > maxIpaEntries)
    (.invalidIpa s!"archive has more than {maxIpaEntries} entries")
  let scan ← archive.entries.foldlM (scanZipEntry tools) ⟨[], [], 0, []⟩
  match scan.appInfoPlists with
  | [infoPath] => do
    let appPath := String.ofList
      (Text.trimEndMatches infoPlistSuffix.toList infoPath.toList.length infoPath.toList)
    rejectIf (appPath != expectedAppPath expectation)
      (.invalidIpa s!"application path is `{appPath}`, expected `{expectedAppPath expectation}`")
    let application ← inspectIpaApplication tools expectation archive infoPath appPath
    let provisioningProfilePresent := scan.entries.contains (appPath ++ "/embedded.mobileprovision")
    rejectIf (expectation.provisioningRequired && !provisioningProfilePresent)
      (.invalidIpa "embedded.mobileprovision is missing")
    -- two expectations of one path are refused
    let _ ← expectation.nestedBundles.foldlM insertNestedExpectation []
    let nested ← (nestedInfoPlists appPath archive).foldlM
      (inspectNestedBundle tools expectation archive appPath) ⟨[], [], []⟩
    rejectIf (nested.actualNested.map Prod.fst !=
        (nestedByPath expectation.nestedBundles).map Prod.fst)
      (.invalidIpa "nested bundle set differs from the request")
    -- a dynamic library comes without a property list
    let dylibs := (archive.entries.map ZipEntry.name).filter fun name =>
      (appPath ++ "/Frameworks/").toList.isPrefixOf name.toList && hasAsciiExtension name "dylib"
    let nestedExecutables ← dylibs.foldlM (inspectIpaDylib tools archive) nested.nestedExecutables
    return {
      appPath
      bundleIdentifier := application.bundleIdentifier
      executable := application.executable
      mainExecutable := application.mainExecutable
      nestedExecutables
      extensions := nested.extensions.insertionSort (· ≤ ·)
      provisioningProfilePresent
      entries := (archive.entries.map ZipEntry.name).insertionSort (· ≤ ·)
      sha256 := tools.sha256 archive.fileBytes
      size := archive.fileBytes.length }
  | plists =>
    invalidIpa s!"expected exactly one Payload/<App>.app/Info.plist, found {plists.length}"

/-! ## From a directory to an IPA -/

/-- The ZIP entry of a directory entry, stored without compression. -/
def packEntry (appPath : String) (entry : DirectoryEntry) : ZipEntry :=
  let name := appPath ++ "/" ++ entry.relative
  match entry.kind with
  | .directory =>
    { name := name ++ "/", unixMode := some (0x4000 + entry.mode), compressedSize := 0,
      size := 0, bytes := some [] }
  | .file bytes =>
    { name, unixMode := some (0x8000 + entry.mode), compressedSize := bytes.length,
      size := bytes.length, bytes := some bytes }
  | .other =>
    { name, unixMode := some (0xa000 + entry.mode), compressedSize := 0, size := 0,
      bytes := some [] }

/-- The entries of an IPA that holds exactly the given application directory. -/
def packIpa (filesystem : ArtifactFilesystem) : List ZipEntry :=
  filesystem.entries.map (packEntry ("Payload/" ++ filesystem.directoryName))

end RustFerry.Artifact
