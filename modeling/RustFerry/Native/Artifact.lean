import RustFerry.ForStd.BTreeMap
import RustFerry.ForStd.Except
import RustFerry.ForStd.Text
import RustFerry.Native.ArtifactManifest

/-!
# Independent iPhone artifact inspection

The two inspectors of the build pipeline (`crates/rustferry-remote/src/artifact.rs`):
`inspect_unsigned_app_bundle` checks the `.app` directory of the credential-free
compile phase, `inspect_ipa` the downloaded IPA.

Third-party code is a parameter (`InspectionTools`): the plist, Mach-O and JSON
readers, SHA-256 and the Unicode tables. A directory is the list of its entries in
the order in which they are scanned, and does not change while it is inspected; an
IPA is the list of its ZIP entries.
-/

namespace RustFerry.Artifact

open Remote Except

/-! ## Errors and tools -/

/-- Artifact or integrity validation failure. -/
inductive ArtifactError where
  | io (action path : String)
  | invalidIpa (reason : String)
  | invalidAppleBundle (reason : String)
  | invalidMachO (reason : String)
  | simulatorBinary
  | arm64Missing
  | devicePlatformUnproven (reason : String)

abbrev ArtifactResult := Except ArtifactError

inductive PlistValue where
  | string (text : String)
  | boolean (b : Bool)
  | array (items : List PlistValue)
  | dictionary (entries : List (String × PlistValue))
  | other

/-- A plist dictionary. -/
abbrev Dictionary := List (String × PlistValue)

/-- The load commands that the inspectors look at. -/
inductive LoadCommand where
  | buildVersion (platform minos sdk : UInt32)
  | versionMinIphoneos (version sdk : UInt32)
  | codeSignature (datasize : UInt32)
  | idDylib
  | other
  deriving DecidableEq

/-- One parsed Mach-O binary. -/
structure MachO where
  cputype : UInt32
  cpusubtype : UInt32
  filetype : UInt32
  loadCommands : List LoadCommand
  name : Option String
  libs : List String

inductive SingleArch where
  | machO (binary : MachO)
  | archive

/-- A parsed Mach-O file; an entry of a fat container may be malformed. -/
inductive Mach where
  | binary (binary : MachO)
  | fat (entries : List (Option SingleArch))

/-- Third-party code that the inspectors call. -/
structure InspectionTools where
  parsePlist : List UInt8 → Option PlistValue
  parseMach : List UInt8 → Option Mach
  parseJson : List UInt8 → Option Json
  sha256 : List UInt8 → String
  nfc : List Char → List Char
  nfkc : List Char → List Char
  toLowercase : List Char → List Char
  charToLowercase : Char → List Char

def invalidAppleBundle {α : Type} (reason : String) : ArtifactResult α :=
  .error (.invalidAppleBundle reason)

def invalidIpa {α : Type} (reason : String) : ArtifactResult α := .error (.invalidIpa reason)

/-! ## Limits -/

def maxIpaEntries : Nat := 50000
def maxIpaEntryName : Nat := 4096
def maxIpaEntrySize : Nat := 512 * 1024 * 1024
def maxIpaTotalSize : Nat := 2 * 1024 * 1024 * 1024
def maxCompressionRatio : Nat := 200
def maxBundleDepth : Nat := 128
def runtimeBridgeBundlePath : String := "Frameworks/FerryRuntimeBridge.framework"
def runtimeBridgeInstallName : String := "@rpath/FerryRuntimeBridge.framework/FerryRuntimeBridge"
def activityModelBundlePath : String := "Frameworks/FerryActivityModel.framework"
def activityModelInstallName : String := "@rpath/FerryActivityModel.framework/FerryActivityModel"
def liveActivityBundlePath : String := "PlugIns/FerryLiveActivityExtension.appex"

/-! ## Expectations -/

/-- Kind of code nested inside an application bundle. -/
inductive UnsignedNestedBundleKind where
  | appExtension
  | framework
  deriving DecidableEq

def UnsignedNestedBundleKind.packageType : UnsignedNestedBundleKind → String
  | .appExtension => "XPC!"
  | .framework => "FMWK"

def UnsignedNestedBundleKind.pathExtension : UnsignedNestedBundleKind → String
  | .appExtension => "appex"
  | .framework => "framework"

/-- Expected identity of one generated extension or framework in an unsigned app. -/
structure UnsignedNestedBundleExpectation where
  relativePath : String
  bundleIdentifier : String
  executable : String
  kind : UnsignedNestedBundleKind
  deriving DecidableEq

/-- Client-owned product identity used to validate both unsigned and signed outputs. -/
structure IosDeviceProductExpectation where
  appDirectoryName : String
  executable : String
  appVersion : String
  buildNumber : String
  nestedBundles : List UnsignedNestedBundleExpectation
  deriving DecidableEq

/-- Exact generated-product invariants for an unsigned physical-iPhone archive. -/
structure UnsignedXcarchiveExpectation where
  appDirectoryName : String
  bundleIdentifier : String
  executable : String
  appVersion : String
  buildNumber : String
  minimumOs : String
  sdkVersion : String
  sdkBuildVersion : String
  nestedBundles : List UnsignedNestedBundleExpectation
  requiredResources : List (String × String)
  deriving DecidableEq

/-- Expected metadata for client-side IPA inspection. -/
structure IpaExpectation where
  appDirectoryName : String
  bundleIdentifier : String
  executable : String
  appVersion : Option String
  buildNumber : Option String
  minimumOs : String
  nestedBundles : List UnsignedNestedBundleExpectation
  provisioningRequired : Bool

/-! ## Names and versions -/

def hasAsciiExtension (path expected : String) : Bool :=
  Text.hasAsciiExtension path.toList expected.toList

def canonicalArchiveKey (tools : InspectionTools) (name : String) : List Char :=
  (tools.nfc name.toList).flatMap tools.charToLowercase

/-- One to three numeric components. -/
def parseAppleVersion (value : String) : Option (Nat × Nat × Nat) := do
  match ← (Text.split '.' value.toList).mapM (Text.parseDigits (2 ^ 32)) with
  | [a] => return (a, 0, 0)
  | [a, b] => return (a, b, 0)
  | [a, b, c] => return (a, b, c)
  | _ => none

def validatePortableComponent (label component : String) : ArtifactResult Unit :=
  rejectIf (component == "" || component == "." || component == ".." ||
      component.utf8ByteSize > maxIpaEntryName ||
      component.toList.any (fun c => c == '/' || c == '\\' || c.toNat == 0 || c == ':') ||
      component.toList.any Text.isControl)
    (.invalidAppleBundle s!"{label} `{component}` is not portable")

def validatePortableRelativePath (label relative : String) : ArtifactResult Unit := do
  rejectIf (relative == "" || relative.utf8ByteSize > maxIpaEntryName ||
      ['/'].isPrefixOf relative.toList || ['\\'].isPrefixOf relative.toList ||
      relative.toList.any (fun c => c == '\\' || c.toNat == 0) ||
      relative.toList.any Text.isControl)
    (.invalidAppleBundle s!"{label} path `{relative}` is unsafe")
  (Text.split '/' relative.toList).forM fun component =>
    validatePortableComponent label (String.ofList component)

/-! ## Mach-O -/

/-- Apple platform encoded in `LC_BUILD_VERSION`. -/
inductive ApplePlatform where
  | ios
  | iosSimulator
  | macos
  | macCatalyst
  | visionOs
  | visionOsSimulator
  | other (value : UInt32)
  | legacyIphoneOs

/-- Cross-platform Mach-O platform evidence for one architecture slice. -/
structure MachOSliceEvidence where
  architecture : String
  platform : ApplePlatform
  minimumOs : Option String
  sdk : Option String

def cpuTypeArm64 : UInt32 := 0x0100000C
def cpuTypeArm : UInt32 := 12
def cpuTypeX8664 : UInt32 := 0x01000007
def cpuTypeX86 : UInt32 := 7
def cpuSubtypeArm64All : UInt32 := 0
def cpuSubtypeArm64V8 : UInt32 := 1
def mhExecute : UInt32 := 2
def mhDylib : UInt32 := 6

def applePlatform (value : UInt32) : ApplePlatform :=
  if value = 1 then .macos
  else if value = 2 then .ios
  else if value = 6 then .macCatalyst
  else if value = 7 then .iosSimulator
  else if value = 11 then .visionOs
  else if value = 12 then .visionOsSimulator
  else .other value

def architectureName (cputype : UInt32) : String :=
  if cputype = cpuTypeArm64 then "arm64"
  else if cputype = cpuTypeArm then "arm"
  else if cputype = cpuTypeX8664 then "x86_64"
  else if cputype = cpuTypeX86 then "x86"
  else "cpu-0x" ++ String.ofList (Nat.toDigits 16 cputype.toNat)

def decodeAppleVersion (value : UInt32) : String :=
  let n := value.toNat
  toString (n / 2 ^ 16) ++ "." ++ toString (n / 2 ^ 8 % 2 ^ 8) ++ "." ++ toString (n % 2 ^ 8)

/-- What the load commands of a slice have said so far. -/
structure SliceVersions where
  platform : Option ApplePlatform
  minimumOs : Option String
  sdk : Option String

def inspectLoadCommand (architecture : String) (versions : SliceVersions)
    (command : LoadCommand) : ArtifactResult SliceVersions :=
  match command with
  | .buildVersion platform minos sdk =>
    if versions.platform.isSome then
      .error (.invalidMachO s!"{architecture} slice has multiple LC_BUILD_VERSION commands")
    else .ok ⟨some (applePlatform platform), some (decodeAppleVersion minos),
      some (decodeAppleVersion sdk)⟩
  | .versionMinIphoneos version sdk =>
    if versions.platform.isNone then
      .ok ⟨some .legacyIphoneOs, some (decodeAppleVersion version),
        some (decodeAppleVersion sdk)⟩
    else .ok versions
  | _ => .ok versions

def inspectMachOSlice (binary : MachO) : ArtifactResult MachOSliceEvidence := do
  let architecture := architectureName binary.cputype
  let versions ← binary.loadCommands.foldlM (inspectLoadCommand architecture) ⟨none, none, none⟩
  match versions.platform with
  | none => .error (.devicePlatformUnproven
      s!"{architecture} slice has no Apple platform load command")
  | some platform =>
    return { architecture, platform, minimumOs := versions.minimumOs, sdk := versions.sdk }

def inspectFatEntry : Option SingleArch → ArtifactResult MachOSliceEvidence
  | none => .error (.invalidMachO "malformed fat entry")
  | some .archive => .error (.invalidMachO "fat executable contains a static archive slice")
  | some (.machO binary) => inspectMachOSlice binary

/-- Inspect a Mach-O and require physical-iPhone arm64 platform evidence. -/
def inspectPhysicalIphoneMachO (tools : InspectionTools) (bytes : List UInt8) :
    ArtifactResult (List MachOSliceEvidence) := do
  let evidence ← match tools.parseMach bytes with
    | none => .error (.invalidMachO "malformed Mach-O")
    | some (.binary binary) => (fun slice => [slice]) <$> inspectMachOSlice binary
    | some (.fat entries) => entries.mapM inspectFatEntry
  rejectIf (!evidence.any fun slice => slice.architecture == "arm64") .arm64Missing
  evidence.forM fun slice =>
    match slice.platform with
    | .ios => .ok ()
    | .iosSimulator => .error .simulatorBinary
    | _ => .error (.devicePlatformUnproven s!"{slice.architecture} slice is not physical iOS")
  return evidence.insertionSort fun a b => a.architecture ≤ b.architecture

inductive ExpectedMachOKind where
  | executable
  | dynamicLibrary

inductive FerryMachOLinkage where
  | none
  | runtimeBridge (activityModelRequired : Bool)
  | activityModel
  | liveActivityExtension

structure ExpectedUnsignedMachO where
  kind : ExpectedMachOKind
  linkage : FerryMachOLinkage
  minimumOs : String
  sdk : String
  prebuiltSwiftRuntime : Bool

def ferryMachOLinkage (relative : String) (liveActivityEnabled : Bool) : FerryMachOLinkage :=
  let parent := String.ofList (Text.parent relative.toList)
  if parent = runtimeBridgeBundlePath then .runtimeBridge liveActivityEnabled
  else if parent = activityModelBundlePath then .activityModel
  else if parent = liveActivityBundlePath then .liveActivityExtension
  else .none

def isFerryFrameworkDependency (dependency : String) : Bool :=
  (Text.split '/' dependency.toList).any fun component =>
    String.ofList component == "FerryRuntimeBridge.framework" ||
      String.ofList component == "FerryActivityModel.framework"

def expectedInstallName : FerryMachOLinkage → Option String
  | .runtimeBridge _ => some runtimeBridgeInstallName
  | .activityModel => some activityModelInstallName
  | .none | .liveActivityExtension => none

def expectedDependencies : FerryMachOLinkage → Option (List String)
  | .runtimeBridge true | .liveActivityExtension => some [activityModelInstallName]
  | .runtimeBridge false | .activityModel => some []
  | .none => none

def validateFerryMachOLinkage (relative : String) (binary : MachO)
    (expected : FerryMachOLinkage) : ArtifactResult Unit := do
  match expectedInstallName expected with
  | some installName =>
    rejectIf ((binary.loadCommands.filter (· == .idDylib)).length != 1 ||
        binary.name != some installName)
      (.invalidAppleBundle s!"Mach-O `{relative}` dylib ID is not exactly `{installName}`")
  | none => .ok ()
  match expectedDependencies expected with
  | some dependencies =>
    let actual := (binary.libs.drop 1).filter isFerryFrameworkDependency
    rejectIf (actual.insertionSort (· ≤ ·) != dependencies.insertionSort (· ≤ ·))
      (.invalidAppleBundle s!"Mach-O `{relative}` has unexpected Ferry framework dependencies")
  | none => .ok ()

def validateMachOBinaryHeader (relative : String) (kind : ExpectedMachOKind)
    (linkage : FerryMachOLinkage) (binary : MachO) : ArtifactResult Unit := do
  rejectIf (binary.cputype != cpuTypeArm64 ||
      !(binary.cpusubtype == cpuSubtypeArm64All || binary.cpusubtype == cpuSubtypeArm64V8))
    (.invalidAppleBundle s!"Mach-O `{relative}` does not use the expected arm64 CPU subtype")
  let filetype := match kind with
    | .executable => mhExecute
    | .dynamicLibrary => mhDylib
  rejectIf (binary.filetype != filetype)
    (.invalidAppleBundle s!"Mach-O `{relative}` has an unexpected file type")
  binary.loadCommands.forM fun command =>
    match command with
    | .codeSignature datasize =>
      rejectIf (datasize != 0)
        (.invalidAppleBundle s!"unsigned Mach-O `{relative}` contains a non-empty code signature")
    | _ => .ok ()
  validateFerryMachOLinkage relative binary linkage

def validateUnsignedMachOHeader (tools : InspectionTools) (relative : String)
    (bytes : List UInt8) (kind : ExpectedMachOKind) (linkage : FerryMachOLinkage) :
    ArtifactResult Unit :=
  match tools.parseMach bytes with
  | none => invalidAppleBundle s!"Mach-O `{relative}` is malformed"
  | some (.binary binary) => validateMachOBinaryHeader relative kind linkage binary
  | some (.fat entries) => do
    entries.forM fun entry =>
      match entry with
      | none => invalidAppleBundle s!"Mach-O `{relative}` fat slice is malformed"
      | some .archive => invalidAppleBundle s!"Mach-O `{relative}` contains a static archive slice"
      | some (.machO binary) => validateMachOBinaryHeader relative kind linkage binary
    rejectIf (entries.length != 1)
      (.invalidAppleBundle s!"Mach-O `{relative}` does not have exactly one slice")

/-- Lexicographic order of version triples. -/
def versionLe (a b : Nat × Nat × Nat) : Bool :=
  a.1 < b.1 || (a.1 == b.1 && (a.2.1 < b.2.1 || (a.2.1 == b.2.1 && a.2.2 ≤ b.2.2)))

def validateRecordedMachOVersions (relative : String) (evidence : MachOSliceEvidence)
    (expected : ExpectedUnsignedMachO) : ArtifactResult Unit :=
  match parseAppleVersion expected.minimumOs, parseAppleVersion expected.sdk,
      evidence.minimumOs.bind parseAppleVersion, evidence.sdk.bind parseAppleVersion with
  | none, _, _, _ => invalidAppleBundle s!"invalid expected minimum OS"
  | some _, none, _, _ => invalidAppleBundle s!"invalid expected SDK"
  | some _, some _, none, _ =>
    invalidAppleBundle s!"Mach-O `{relative}` has no numeric minimum OS"
  | some _, some _, some _, none => invalidAppleBundle s!"Mach-O `{relative}` has no numeric SDK"
  | some expectedMinimum, some expectedSdk, some actualMinimum, some actualSdk =>
    let versionsMatch :=
      if expected.prebuiltSwiftRuntime then
        versionLe actualMinimum expectedMinimum && versionLe actualSdk expectedSdk
      else actualMinimum == expectedMinimum && actualSdk == expectedSdk
    rejectIf (!versionsMatch)
      (.invalidAppleBundle s!"Mach-O `{relative}` records unexpected minOS and SDK versions")

def inspectExpectedUnsignedMachO (tools : InspectionTools) (relative : String)
    (bytes : List UInt8) (expected : ExpectedUnsignedMachO) :
    ArtifactResult (List MachOSliceEvidence) :=
  match inspectPhysicalIphoneMachO tools bytes with
  | .error _ => invalidAppleBundle s!"Mach-O `{relative}` is not physical-iPhone code"
  | .ok [slice] => do
    rejectIf (slice.architecture != "arm64")
      (.invalidAppleBundle s!"Mach-O `{relative}` is not exactly one arm64 slice")
    validateUnsignedMachOHeader tools relative bytes expected.kind expected.linkage
    validateRecordedMachOVersions relative slice expected
    return [slice]
  | .ok _ => invalidAppleBundle s!"Mach-O `{relative}` is not exactly one arm64 slice"

/-! ## Directories -/

inductive TreeEntryKind where
  | directory
  | file
  deriving DecidableEq

/-- What is found at a path. -/
inductive DirectoryEntryKind where
  | directory
  | file (bytes : List UInt8)
  | other

/-- One entry of the inspected directory, `depth` levels below its root. -/
structure DirectoryEntry where
  relative : String
  depth : Nat
  mode : Nat
  nlink : Nat
  kind : DirectoryEntryKind

/-- The inspected directory: its name and its entries in scan order. -/
structure ArtifactFilesystem where
  directoryName : String
  entries : List DirectoryEntry

structure TreeEntry where
  relative : String
  kind : TreeEntryKind

/-- State of the scan. -/
structure ScanState where
  entries : List TreeEntry
  canonical : List (List Char × String)
  totalSize : Nat

def rejectForbiddenBundleEntry (tools : InspectionTools) (relative : String) :
    ArtifactResult Unit :=
  let components := Text.split '/' (tools.toLowercase relative.toList)
  let last := components.getLastD []
  let forbiddenSuffixes := [".p12", ".p8", ".key", ".pem", ".mobileprovision", ".entitlements",
    ".xcent", ".swift", ".m", ".mm", ".a"]
  let forbiddenComponents := ["_codesignature", "sc_info", "keychains", "credentials", "secrets"]
  rejectIf (components.any (fun component => forbiddenComponents.any (·.toList == component)) ||
      last == "embedded.mobileprovision".toList || last == "project.pbxproj".toList ||
      forbiddenSuffixes.any fun suffix => suffix.toList.isSuffixOf last)
    (.invalidAppleBundle
      s!"forbidden signing, secret, source, or generated entry `{relative}`")

/-- Permission bits 0o6000. -/
def rejectDangerousMode (relative : String) (mode : Nat) : ArtifactResult Unit :=
  rejectIf (mode / 1024 % 4 != 0)
    (.invalidAppleBundle s!"entry `{relative}` has setuid or setgid mode bits")

def rejectHardlinkedFile (relative : String) (nlink : Nat) : ArtifactResult Unit :=
  rejectIf (nlink != 1)
    (.invalidAppleBundle s!"entry `{relative}` is a hard-linked regular file")

/-- One iteration of `scan_real_tree`. -/
def scanEntry (tools : InspectionTools) (state : ScanState) (entry : DirectoryEntry) :
    ArtifactResult ScanState := do
  let relative := entry.relative
  validatePortableComponent "artifact entry" (String.ofList (Text.fileName relative.toList))
  validatePortableRelativePath "artifact entry" relative
  rejectIf (state.entries.any fun seen => seen.relative == relative)
    (.invalidAppleBundle s!"duplicate entry `{relative}`")
  let key := canonicalArchiveKey tools relative
  -- one path spelled in two ways
  rejectIf (state.canonical.any fun seen => seen.1 == key && seen.2 != relative)
    (.invalidAppleBundle s!"case/Unicode-colliding entries with `{relative}`")
  rejectIf (state.entries.length ≥ maxIpaEntries)
    (.invalidAppleBundle s!"artifact has more than {maxIpaEntries} entries")
  rejectForbiddenBundleEntry tools relative
  let canonical := (key, relative) :: state.canonical
  match entry.kind with
  | .directory => do
    rejectIf (entry.depth + 1 > maxBundleDepth)
      (.invalidAppleBundle s!"entry `{relative}` exceeds maximum nesting depth")
    rejectDangerousMode relative entry.mode
    return { state with entries := ⟨relative, .directory⟩ :: state.entries, canonical }
  | .file bytes => do
    rejectDangerousMode relative entry.mode
    rejectHardlinkedFile relative entry.nlink
    rejectIf (bytes.length > maxIpaEntrySize)
      (.invalidAppleBundle s!"entry `{relative}` exceeds the per-file limit")
    let totalSize := state.totalSize + bytes.length
    rejectIf (totalSize ≥ 2 ^ 64) (.invalidAppleBundle "artifact logical size overflow")
    rejectIf (totalSize > maxIpaTotalSize)
      (.invalidAppleBundle "artifact exceeds the total logical-size limit")
    return { entries := ⟨relative, .file⟩ :: state.entries, canonical, totalSize }
  | .other => invalidAppleBundle s!"entry `{relative}` is a link or special file"

/-- The scanned entries, by path. -/
def scanRealTree (tools : InspectionTools) (filesystem : ArtifactFilesystem) :
    ArtifactResult (List TreeEntry) := do
  let state ← filesystem.entries.foldlM (scanEntry tools) ⟨[], [], 0⟩
  return state.entries.insertionSort fun a b => a.relative ≤ b.relative

/-- Read a regular file of the directory through the checks of `open_checked_file`. -/
def readCheckedFile (filesystem : ArtifactFilesystem) (relative : String) (limit : Nat) :
    ArtifactResult (List UInt8) := do
  validatePortableRelativePath "artifact file" relative
  match filesystem.entries.find? fun entry => entry.relative == relative with
  | some ⟨_, _, mode, nlink, .file bytes⟩ => do
    rejectDangerousMode relative mode
    rejectHardlinkedFile relative nlink
    rejectIf (bytes.length > limit)
      (.invalidAppleBundle s!"file `{relative}` exceeds the read limit")
    return bytes
  | some _ => invalidAppleBundle s!"`{relative}` is not a regular file"
  | none => .error (.io "inspect artifact file" relative)

def fileHasMachOMagic (filesystem : ArtifactFilesystem) (relative : String) :
    ArtifactResult Bool := do
  let bytes ← readCheckedFile filesystem relative maxIpaEntrySize
  match bytes with
  | a :: b :: c :: d :: _ =>
    return ([a, b, c] == [0xfe, 0xed, 0xfa] && (d == 0xce || d == 0xcf)) ||
      ((a == 0xce || a == 0xcf) && [b, c, d] == [0xfa, 0xed, 0xfe]) ||
      ([a, b, c] == [0xca, 0xfe, 0xba] && (d == 0xbe || d == 0xbf)) ||
      ((a == 0xbe || a == 0xbf) && [b, c, d] == [0xba, 0xfe, 0xca])
  | _ => return false

/-- Permission bits 0o111. -/
def validateExecutableMode (filesystem : ArtifactFilesystem) (relative : String) :
    ArtifactResult Unit := do
  let _ ← readCheckedFile filesystem relative maxIpaEntrySize
  match filesystem.entries.find? fun entry => entry.relative == relative with
  | some entry =>
    rejectIf (entry.mode % 2 == 0 && entry.mode / 8 % 2 == 0 && entry.mode / 64 % 2 == 0)
      (.invalidAppleBundle s!"Mach-O `{relative}` has no executable mode bit")
  | none => .error (.io "inspect executable mode for" relative)

/-! ## Plists -/

def PlistValue.asString : PlistValue → Option String
  | .string text => some text
  | _ => none

def lookupString (dictionary : Dictionary) (key : String) : Option String :=
  (dictionary.lookup key).bind PlistValue.asString

def readFilesystemPlist (tools : InspectionTools) (filesystem : ArtifactFilesystem)
    (relative : String) : ArtifactResult Dictionary := do
  let bytes ← readCheckedFile filesystem relative (16 * 1024 * 1024)
  match tools.parsePlist bytes with
  | none => invalidAppleBundle s!"plist `{relative}` is invalid"
  | some (.dictionary entries) => return entries
  | some _ => invalidAppleBundle s!"plist `{relative}` is not a dictionary"

def requiredPlistString (dictionary : Dictionary) (key context : String) :
    ArtifactResult String :=
  match lookupString dictionary key with
  | some text => .ok text
  | none => invalidAppleBundle s!"{context} has no string `{key}`"

def validatePlistString (dictionary : Dictionary) (context key expected : String) :
    ArtifactResult Unit := do
  let actual ← requiredPlistString dictionary key context
  rejectIf (actual != expected)
    (.invalidAppleBundle s!"{context} `{key}` is `{actual}`, expected `{expected}`")

def validatePlistIdentity (dictionary : Dictionary)
    (context bundleIdentifier appVersion buildNumber : String) : ArtifactResult Unit := do
  validatePlistString dictionary context "CFBundleIdentifier" bundleIdentifier
  validatePlistString dictionary context "CFBundleShortVersionString" appVersion
  validatePlistString dictionary context "CFBundleVersion" buildNumber

def plistStringArray (dictionary : Dictionary) (key context : String) :
    ArtifactResult (List String) :=
  match dictionary.lookup key with
  | some (.array items) => items.mapM fun item =>
    match item.asString with
    | some text => .ok text
    | none => invalidAppleBundle s!"{context} `{key}` contains a non-string value"
  | _ => invalidAppleBundle s!"{context} has no array `{key}`"

def validateMinimumOs (dictionary : Dictionary) (context expected : String) :
    ArtifactResult Unit := do
  let actual ← requiredPlistString dictionary "MinimumOSVersion" context
  rejectIf (parseAppleVersion actual != parseAppleVersion expected)
    (.invalidAppleBundle
      s!"{context} MinimumOSVersion is `{actual}`, expected `{expected}`")

def validateSupportedPlatform (dictionary : Dictionary) (context : String)
    (expectation : UnsignedXcarchiveExpectation) : ArtifactResult Unit := do
  let platforms ← plistStringArray dictionary "CFBundleSupportedPlatforms" context
  rejectIf (platforms != ["iPhoneOS"])
    (.invalidAppleBundle s!"{context} supported platforms are not exactly iPhoneOS")
  validatePlistString dictionary context "DTPlatformName" "iphoneos"
  let sdkName ← requiredPlistString dictionary "DTSDKName" context
  match Text.stripFront "iphoneos".toList sdkName.toList with
  | none => invalidAppleBundle s!"{context} DTSDKName `{sdkName}` is not an iPhoneOS SDK"
  | some sdkSuffix =>
    rejectIf (parseAppleVersion (String.ofList sdkSuffix) !=
        parseAppleVersion expectation.sdkVersion)
      (.invalidAppleBundle s!"{context} DTSDKName is `{sdkName}`, expected another version")
    validatePlistString dictionary context "DTSDKBuild" expectation.sdkBuildVersion

def validateExtensionPoint (dictionary : Dictionary) (context : String) :
    ArtifactResult Unit :=
  match dictionary.lookup "NSExtension" with
  | some (.dictionary ext) =>
    validatePlistString ext context "NSExtensionPointIdentifier" "com.apple.widgetkit-extension"
  | _ => invalidAppleBundle s!"extension `{context}` has no NSExtension dictionary"

end RustFerry.Artifact
