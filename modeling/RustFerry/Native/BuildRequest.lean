import RustFerry.Native.Artifact
import RustFerry.Native.Protocol

/-!
# The product of a build request

The part of `IosDeviceBuildRequest` (`crates/rustferry-remote/src/protocol.rs`) that
describes the built product, its checks, and the two expectations made from it: the one
of the compile phase (`archive_expectation`, `crates/rustferry-apple/src/device.rs`, which
the worker compares with the request field by field) and the one of the client
(`ipa_expectation`).
-/

namespace RustFerry.Artifact

open Remote Except

inductive SigningTargetKind where
  | dynamicLibrary
  | framework
  | ext
  | application
  deriving DecidableEq

structure SigningTarget where
  bundleIdentifier : String
  kind : SigningTargetKind
  deriving DecidableEq

structure SigningPlan where
  mode : SigningMode
  targets : List SigningTarget

/-- The product fields of a request for a physical-iPhone build. -/
structure IosDeviceBuildRequest where
  bundleIdentifier : String
  minimumIosVersion : String
  product : IosDeviceProductExpectation
  signing : SigningPlan

/-! ## Validation -/

def isBundleSegment (segment : List Char) : Bool :=
  !segment.isEmpty && segment.head? != some '-' && segment.getLast? != some '-' &&
    segment.all fun c => c.isAlphanum || c == '-'

def validateBundleIdentifier (value : String) : RemoteBuildResult Unit := do
  validateSafeText "bundle_identifier" value 255
  let segments := Text.split '.' value.toList
  rejectIf (segments.length < 2 || !segments.all isBundleSegment)
    (.invalidIdentifier "bundle_identifier"
      "value must contain at least two valid dot-separated segments")

/-- A decimal numeral without leading zeros, below `bound`. -/
def isCanonicalNumeral (bound : Nat) (component : List Char) : Bool :=
  (component.length ≤ 1 || component.head? != some '0') &&
    (Text.parseDigits bound component).isSome

/-- One to three canonical numeric components. -/
def validateNumericVersion (field value : String) (maximumBytes bound : Nat) :
    RemoteBuildResult Unit := do
  validateSafeText field value maximumBytes
  let components := Text.split '.' value.toList
  rejectIf (components.length > 3 || !components.all (isCanonicalNumeral bound))
    (.invalidIdentifier field "value must contain one to three canonical numeric components")

def validateIosVersion (value : String) : RemoteBuildResult Unit :=
  validateNumericVersion "minimum_ios_version" value 32 (2 ^ 16)

def validateBundleVersion (field value : String) : RemoteBuildResult Unit :=
  validateNumericVersion field value 64 (2 ^ 32)

def isReservedName (value : List Char) : Bool :=
  let basename := ((Text.split '.' value).headD []).map Char.toUpper
  ["CON", "PRN", "AUX", "NUL"].any (·.toList == basename) ||
    ["COM", "LPT"].any fun device =>
      match Text.stripFront device.toList basename with
      | some [digit] => '1' ≤ digit && digit ≤ '9'
      | _ => false

def validatePortableFilename (field value : String) : RemoteBuildResult Unit := do
  validateSafeText field value 255
  rejectIf (value == "." || value == ".." ||
      value.toList.any (fun c => ['/', '\\', ':', '*', '?', '"', '<', '>', '|'].contains c ||
        c.toNat == 0) ||
      value.toList.getLast? == some '.' || value.toList.getLast? == some ' ')
    (.invalidIdentifier field "value is not a portable filename component")
  rejectIf (isReservedName value.toList)
    (.invalidIdentifier field "value is reserved on a supported client filesystem")

def hasExactExtension (value expected : List Char) : Bool :=
  match Text.rsplitOnce '.' value with
  | some (_, ext) => ext == expected
  | none => false

def validateNestedBundlePath (path : String) (kind : UnsignedNestedBundleKind) :
    RemoteBuildResult Unit := do
  validateSafeText "nested_bundle_path" path 1024
  match Text.split '/' path.toList with
  | [directory, name] => do
    validatePortableFilename "nested_bundle_directory" (String.ofList name)
    let expectedDirectory := match kind with
      | .appExtension => "PlugIns"
      | .framework => "Frameworks"
    rejectIf (directory != expectedDirectory.toList ||
        !hasExactExtension name kind.pathExtension.toList)
      (.invalidIdentifier "nested_bundle_path" "value does not match its nested bundle kind")
  | _ => .error (.invalidIdentifier "nested_bundle_path"
      "value must be directly below PlugIns or Frameworks")

def portableNameKey (tools : InspectionTools) (value : String) : List Char :=
  (tools.nfkc value.toList).flatMap tools.charToLowercase

/-- What the checks on the nested bundles have seen so far. -/
structure ProductIdentities where
  previousPath : Option String
  portablePaths : List (List Char)
  bundleIdentifiers : List String

/-- One iteration over the nested bundles of the product. -/
def validateNestedProduct (tools : InspectionTools) (seen : ProductIdentities)
    (nested : UnsignedNestedBundleExpectation) : RemoteBuildResult ProductIdentities := do
  rejectIf (seen.previousPath.any fun previous => nested.relativePath ≤ previous)
    (.invalidEventPayload "ios_device_build_request"
      "nested product bundles must be strictly sorted by path")
  validateNestedBundlePath nested.relativePath nested.kind
  validatePortableFilename "nested_executable" nested.executable
  validateBundleIdentifier nested.bundleIdentifier
  let key := portableNameKey tools nested.relativePath
  rejectIf (seen.portablePaths.contains key ||
      seen.bundleIdentifiers.contains nested.bundleIdentifier)
    (.invalidEventPayload "ios_device_build_request"
      "nested product bundles contain duplicate or portable-colliding identities")
  return ⟨some nested.relativePath, key :: seen.portablePaths,
    nested.bundleIdentifier :: seen.bundleIdentifiers⟩

def UnsignedNestedBundleKind.signingKind : UnsignedNestedBundleKind → SigningTargetKind
  | .appExtension => .ext
  | .framework => .framework

def validateProductExpectation (tools : InspectionTools) (product : IosDeviceProductExpectation)
    (mainBundleIdentifier : String) (signing : SigningPlan) : RemoteBuildResult Unit := do
  validatePortableFilename "app_directory_name" product.appDirectoryName
  rejectIf (!hasExactExtension product.appDirectoryName.toList "app".toList)
    (.invalidIdentifier "app_directory_name" "value must end with .app")
  validatePortableFilename "executable" product.executable
  validateBundleVersion "app_version" product.appVersion
  validateBundleVersion "build_number" product.buildNumber
  rejectIf (product.nestedBundles.length > 512)
    (.invalidEventPayload "ios_device_build_request" "product contains too many nested bundles")
  let _ ← product.nestedBundles.foldlM (validateNestedProduct tools)
    ⟨none, [], [mainBundleIdentifier]⟩
  let productTargets := product.nestedBundles.map fun nested =>
    SigningTarget.mk nested.bundleIdentifier nested.kind.signingKind
  let signingTargets := signing.targets.filter fun target =>
    target.kind == .ext || target.kind == .framework
  rejectIf (!productTargets.all signingTargets.contains || !signingTargets.all productTargets.contains)
    (.invalidEventPayload "ios_device_build_request"
      "product nested bundle graph does not match signing targets")

/-- The checks of `validate` on the product fields. -/
def IosDeviceBuildRequest.validate (tools : InspectionTools) (request : IosDeviceBuildRequest) :
    RemoteBuildResult Unit := do
  validateBundleIdentifier request.bundleIdentifier
  validateIosVersion request.minimumIosVersion
  validateProductExpectation tools request.product request.bundleIdentifier request.signing
  let application := request.signing.targets.find? fun target => target.kind == .application
  rejectIf (application.map SigningTarget.bundleIdentifier != some request.bundleIdentifier)
    (.invalidEventPayload "ios_device_build_request"
      "signing plan application bundle identifier does not match request")

/-! ## The two expectations -/

/-- The expectation of the client for the IPA, without worker-provided metadata. -/
def IosDeviceBuildRequest.ipaExpectation (tools : InspectionTools)
    (request : IosDeviceBuildRequest) : RemoteBuildResult IpaExpectation := do
  request.validate tools
  return {
    appDirectoryName := request.product.appDirectoryName
    bundleIdentifier := request.bundleIdentifier
    executable := request.product.executable
    appVersion := some request.product.appVersion
    buildNumber := some request.product.buildNumber
    minimumOs := request.minimumIosVersion
    nestedBundles := request.product.nestedBundles
    provisioningRequired := request.signing.mode.isSigned }

/-- The iPhoneOS SDK of the worker. -/
structure DeviceSdk where
  version : String
  buildVersion : String

/-- The expectation of the compile phase: the client-owned fields are those of the request. -/
def IosDeviceBuildRequest.archiveExpectation (request : IosDeviceBuildRequest) (sdk : DeviceSdk)
    (requiredResources : List (String × String)) : UnsignedXcarchiveExpectation where
  appDirectoryName := request.product.appDirectoryName
  bundleIdentifier := request.bundleIdentifier
  executable := request.product.executable
  appVersion := request.product.appVersion
  buildNumber := request.product.buildNumber
  minimumOs := request.minimumIosVersion
  sdkVersion := sdk.version
  sdkBuildVersion := sdk.buildVersion
  nestedBundles := request.product.nestedBundles
  requiredResources := requiredResources

end RustFerry.Artifact
