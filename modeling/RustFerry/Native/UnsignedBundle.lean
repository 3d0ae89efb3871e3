import RustFerry.Native.Artifact

/-!
# Inspection of an unsigned application bundle

`inspect_unsigned_app_bundle` of `crates/rustferry-remote/src/artifact.rs`: the
expectation is checked first, then the scanned tree, the main `Info.plist`, every
nested bundle, the generated resources and every Mach-O file.
-/

namespace RustFerry.Artifact

open Except

/-! ## The expectation -/

def validateExpectationIdentity (expectation : UnsignedXcarchiveExpectation) :
    ArtifactResult Unit := do
  validatePortableComponent "application directory" expectation.appDirectoryName
  rejectIf (!hasAsciiExtension expectation.appDirectoryName "app")
    (.invalidAppleBundle "expected application directory must end with `.app`")
  validatePortableComponent "main executable" expectation.executable
  [("bundle identifier", expectation.bundleIdentifier), ("app version", expectation.appVersion),
    ("build number", expectation.buildNumber),
    ("SDK build version", expectation.sdkBuildVersion)].forM fun (label, value) =>
      rejectIf (Text.isBlank value.toList || value.toList.any Text.isControl)
        (.invalidAppleBundle s!"expected {label} is empty or unsafe")
  rejectIf (parseAppleVersion expectation.minimumOs).isNone
    (.invalidAppleBundle
      s!"expected minimum iOS version `{expectation.minimumOs}` is not numeric")
  rejectIf (parseAppleVersion expectation.sdkVersion).isNone
    (.invalidAppleBundle
      s!"expected iPhoneOS SDK version `{expectation.sdkVersion}` is not numeric")

/-- Paths and identifiers of the nested bundles seen so far. -/
structure NestedIdentities where
  canonicalPaths : List (List Char)
  bundleIdentifiers : List String

def UnsignedNestedBundleKind.expectedParent : UnsignedNestedBundleKind → String
  | .appExtension => "PlugIns"
  | .framework => "Frameworks"

/-- One iteration of `validate_nested_expectations`. -/
def validateNestedExpectation (tools : InspectionTools) (seen : NestedIdentities)
    (nested : UnsignedNestedBundleExpectation) : ArtifactResult NestedIdentities := do
  validatePortableRelativePath "nested bundle" nested.relativePath
  validatePortableComponent "nested executable" nested.executable
  rejectIf (!hasAsciiExtension nested.relativePath nested.kind.pathExtension)
    (.invalidAppleBundle s!"nested path `{nested.relativePath}` has the wrong extension")
  rejectIf (Text.parent nested.relativePath.toList != nested.kind.expectedParent.toList)
    (.invalidAppleBundle s!"nested `{nested.relativePath}` is not directly below its parent")
  let canonical := canonicalArchiveKey tools nested.relativePath
  rejectIf (seen.canonicalPaths.contains canonical)
    (.invalidAppleBundle s!"nested bundle path `{nested.relativePath}` collides")
  rejectIf (Text.isBlank nested.bundleIdentifier.toList ||
      seen.bundleIdentifiers.contains nested.bundleIdentifier)
    (.invalidAppleBundle
      s!"nested bundle identifier `{nested.bundleIdentifier}` is empty or duplicated")
  return ⟨canonical :: seen.canonicalPaths, nested.bundleIdentifier :: seen.bundleIdentifiers⟩

def UnsignedXcarchiveExpectation.hasNested (expectation : UnsignedXcarchiveExpectation)
    (path : String) : Bool :=
  expectation.nestedBundles.any fun nested => nested.relativePath == path

def validateNestedExpectations (tools : InspectionTools)
    (expectation : UnsignedXcarchiveExpectation) : ArtifactResult Unit := do
  let _ ← expectation.nestedBundles.foldlM (validateNestedExpectation tools)
    ⟨[], [expectation.bundleIdentifier]⟩
  rejectIf (!expectation.hasNested runtimeBridgeBundlePath)
    (.invalidAppleBundle
      s!"generated archive expectation omitted `{runtimeBridgeBundlePath}`")
  rejectIf (expectation.hasNested activityModelBundlePath !=
      expectation.hasNested liveActivityBundlePath)
    (.invalidAppleBundle
      "FerryActivityModel and FerryLiveActivityExtension expectations must be present together")

def isSha256Digest (digest : String) : Bool :=
  digest.utf8ByteSize == 64 &&
    digest.toList.all fun c => c.isDigit || ('a' ≤ c && c ≤ 'f')

def validateResourceExpectations (expectation : UnsignedXcarchiveExpectation) :
    ArtifactResult Unit := do
  ["FerryResources.json", "FerryIcon.png", "FerrySplash.png"].forM fun required =>
    rejectIf (expectation.requiredResources.lookup required).isNone
      (.invalidAppleBundle
        s!"required generated resource expectation `{required}` is missing")
  expectation.requiredResources.forM fun (relative, digest) => do
    validatePortableRelativePath "required resource" relative
    rejectIf (!isSha256Digest digest)
      (.invalidAppleBundle s!"resource `{relative}` has a non-canonical SHA-256 expectation")

def validateUnsignedExpectation (tools : InspectionTools)
    (expectation : UnsignedXcarchiveExpectation) : ArtifactResult Unit := do
  validateExpectationIdentity expectation
  validateNestedExpectations tools expectation
  validateResourceExpectations expectation

/-! ## The bundle -/

def validateMainPlist (info : Dictionary) (expectation : UnsignedXcarchiveExpectation) :
    ArtifactResult Unit := do
  let context := "application Info.plist"
  validatePlistIdentity info context expectation.bundleIdentifier expectation.appVersion
    expectation.buildNumber
  validatePlistString info context "CFBundleExecutable" expectation.executable
  validatePlistString info context "CFBundlePackageType" "APPL"
  validateMinimumOs info context expectation.minimumOs
  match info.lookup "LSRequiresIPhoneOS" with
  | some (.boolean true) => .ok ()
  | _ => invalidAppleBundle "application does not require iPhoneOS"
  validateSupportedPlatform info context expectation
  let capabilities ← plistStringArray info "UIRequiredDeviceCapabilities" context
  rejectIf (!capabilities.contains "arm64")
    (.invalidAppleBundle "application does not declare the arm64 device capability")

/-- The version and build number that a nested bundle must record. -/
def nestedVersions (expectation : UnsignedXcarchiveExpectation) :
    UnsignedNestedBundleKind → String × String
  | .appExtension => (expectation.appVersion, expectation.buildNumber)
  | .framework => ("1.0", "1")

/-- The plist checks on one nested bundle. -/
def inspectUnsignedNestedBundle (tools : InspectionTools) (filesystem : ArtifactFilesystem)
    (expectation : UnsignedXcarchiveExpectation) (relative : String)
    (expected : UnsignedNestedBundleExpectation) : ArtifactResult Unit := do
  let info ← readFilesystemPlist tools filesystem (relative ++ "/Info.plist")
  validatePlistString info relative "CFBundleIdentifier" expected.bundleIdentifier
  validatePlistString info relative "CFBundleExecutable" expected.executable
  validatePlistString info relative "CFBundlePackageType" expected.kind.packageType
  let (nestedVersion, nestedBuild) := nestedVersions expectation expected.kind
  validatePlistString info relative "CFBundleShortVersionString" nestedVersion
  validatePlistString info relative "CFBundleVersion" nestedBuild
  validateMinimumOs info relative expectation.minimumOs
  validateSupportedPlatform info relative expectation
  match expected.kind with
  | .appExtension => validateExtensionPoint info relative
  | .framework => .ok ()

def validateFerryResourceMetadata (tools : InspectionTools) (bytes : List UInt8)
    (expectation : UnsignedXcarchiveExpectation) : ArtifactResult Unit :=
  match tools.parseJson bytes with
  | none => invalidAppleBundle "FerryResources.json is invalid JSON"
  | some (.object members) =>
    let text (key : String) : Option String :=
      match members.lookup key with
      | some (.string text) => some text
      | _ => none
    let schemaVersion := match members.lookup "schema_version" with
      | some (.number (.unsigned n)) => some n
      | _ => none
    rejectIf (schemaVersion != some 1 || text "generator" != some "cargo-ferry" ||
        text "rust_target" != some "aarch64-apple-ios" ||
        text "bundle_identifier" != some expectation.bundleIdentifier ||
        (text "ui_backend").getD "" == "")
      (.invalidAppleBundle
        "FerryResources.json does not describe the expected physical-iOS build")
  | some _ => invalidAppleBundle "FerryResources.json is not an object"

/-- Check one required resource and return its digest. -/
def inspectRequiredResource (tools : InspectionTools) (filesystem : ArtifactFilesystem)
    (expectation : UnsignedXcarchiveExpectation) (relative expectedSha256 : String) :
    ArtifactResult String := do
  let bytes ← readCheckedFile filesystem relative maxIpaEntrySize
  let actualSha256 := tools.sha256 bytes
  rejectIf (actualSha256 != expectedSha256)
    (.invalidAppleBundle s!"required resource `{relative}` has the wrong SHA-256")
  if relative == "FerryResources.json" then
    validateFerryResourceMetadata tools bytes expectation
  return actualSha256

def isPermittedSwiftRuntime (relative : String) : Bool :=
  let name := Text.fileName relative.toList
  Text.parent relative.toList == "Frameworks".toList &&
    "libswift".toList.isPrefixOf name && Text.hasAsciiExtension name "dylib".toList

/-- Mach-O evidence by path. -/
abbrev CodeEvidence := List (String × List MachOSliceEvidence)

/-- One iteration over the files of the bundle. -/
def inspectBundleFile (tools : InspectionTools) (filesystem : ArtifactFilesystem)
    (expectation : UnsignedXcarchiveExpectation)
    (expectedCode : List (String × ExpectedMachOKind)) (liveActivityEnabled : Bool)
    (discovered : CodeEvidence) (relative : String) : ArtifactResult CodeEvidence := do
  let isMachO ← fileHasMachOMagic filesystem relative
  let expectedKind := expectedCode.lookup relative
  let swiftRuntime := isPermittedSwiftRuntime relative
  if !isMachO then
    rejectIf (expectedKind.isSome || hasAsciiExtension relative "dylib")
      (.invalidAppleBundle s!"expected Mach-O code at `{relative}`")
    return discovered
  else
    match expectedKind.or (if swiftRuntime then some .dynamicLibrary else none) with
    | none => invalidAppleBundle s!"unexpected Mach-O code hidden at `{relative}`"
    | some kind => do
      validateExecutableMode filesystem relative
      let bytes ← readCheckedFile filesystem relative maxIpaEntrySize
      let evidence ← inspectExpectedUnsignedMachO tools relative bytes
        { kind, linkage := ferryMachOLinkage relative liveActivityEnabled,
          minimumOs := expectation.minimumOs, sdk := expectation.sdkVersion,
          prebuiltSwiftRuntime := swiftRuntime }
      return BTreeMap.insert relative evidence discovered

/-- Evidence for one unsigned application bundle. -/
structure UnsignedAppInspection where
  appDirectoryName : String
  bundleIdentifier : String
  executable : String
  mainExecutable : List MachOSliceEvidence
  nestedExecutables : CodeEvidence
  extensions : List String
  resources : List (String × String)
  entries : List String

/-- The nested bundles by path. -/
def nestedByPath (nestedBundles : List UnsignedNestedBundleExpectation) :
    List (String × UnsignedNestedBundleExpectation) :=
  BTreeMap.ofList (nestedBundles.map fun bundle => (bundle.relativePath, bundle))

/-- The executables that the bundle must have. -/
def expectedCodeFiles (executable : String)
    (nested : List (String × UnsignedNestedBundleExpectation)) :
    List (String × ExpectedMachOKind) :=
  BTreeMap.ofList ((executable, .executable) :: nested.map fun (relative, expected) =>
    (relative ++ "/" ++ expected.executable,
      match expected.kind with
      | .appExtension => .executable
      | .framework => .dynamicLibrary))

def inspectUnsignedAppBundleFromCapability (tools : InspectionTools)
    (filesystem : ArtifactFilesystem) (expectation : UnsignedXcarchiveExpectation) :
    ArtifactResult UnsignedAppInspection := do
  rejectIf (filesystem.directoryName != expectation.appDirectoryName)
    (.invalidAppleBundle s!"application directory name is `{filesystem.directoryName}`, expected `{expectation.appDirectoryName}`")
  let tree ← scanRealTree tools filesystem
  let info ← readFilesystemPlist tools filesystem "Info.plist"
  validateMainPlist info expectation
  let nested := nestedByPath expectation.nestedBundles
  let liveActivityEnabled := (nested.lookup liveActivityBundlePath).isSome
  let actualNested := tree.filter fun entry => entry.kind == .directory &&
    ["appex", "framework"].any (hasAsciiExtension entry.relative)
  -- the tree is sorted and without duplicates, as a `BTreeSet` is
  rejectIf (actualNested.map TreeEntry.relative != nested.map Prod.fst)
    (.invalidAppleBundle "nested bundle set mismatch")
  -- an application or a service inside the bundle is never expected
  tree.forM fun entry =>
    rejectIf (entry.kind == .directory &&
        (hasAsciiExtension entry.relative "app" || hasAsciiExtension entry.relative "xpc"))
      (.invalidAppleBundle s!"unexpected nested product `{entry.relative}`")
  nested.forM fun (relative, expected) =>
    inspectUnsignedNestedBundle tools filesystem expectation relative expected
  let resources ← expectation.requiredResources.mapM fun (relative, expectedSha256) => do
    let digest ← inspectRequiredResource tools filesystem expectation relative expectedSha256
    return (relative, digest)
  -- every file is read, so that code at any other path is found
  let expectedCode := expectedCodeFiles expectation.executable nested
  let files := (tree.filter fun entry => entry.kind == .file).map TreeEntry.relative
  let discovered ← files.foldlM
    (inspectBundleFile tools filesystem expectation expectedCode liveActivityEnabled) []
  expectedCode.forM fun (path, _) =>
    rejectIf (discovered.lookup path).isNone
      (.invalidAppleBundle s!"expected executable `{path}` is missing")
  match discovered.lookup expectation.executable with
  | none => invalidAppleBundle s!"main executable `{expectation.executable}` is missing"
  | some mainExecutable =>
    return {
      appDirectoryName := expectation.appDirectoryName
      bundleIdentifier := expectation.bundleIdentifier
      executable := expectation.executable
      mainExecutable
      nestedExecutables := discovered.filter fun entry => entry.1 != expectation.executable
      extensions := ((nested.filter fun entry => entry.2.kind == .appExtension).map
        fun entry => entry.2.bundleIdentifier).insertionSort (· ≤ ·)
      resources
      entries := tree.map TreeEntry.relative }

/-- Inspect the application bundle of the credential-free compile phase. -/
def inspectUnsignedAppBundle (tools : InspectionTools) (filesystem : ArtifactFilesystem)
    (expectation : UnsignedXcarchiveExpectation) : ArtifactResult UnsignedAppInspection := do
  validateUnsignedExpectation tools expectation
  inspectUnsignedAppBundleFromCapability tools filesystem expectation

end RustFerry.Artifact
