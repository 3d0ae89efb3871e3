import RustFerry.ForStd.Except
import RustFerry.ForStd.Words

/-!
# The configuration of a project

`rustferry-core/src/config.rs`: what `ferry.toml` says, and the semantic checks, with the rule for
application identifiers of `naming.rs`. The version and the window of the application are left
out: nothing here reads them. `Url::parse` is a parameter.
-/

namespace RustFerry.Config

open Except

def configSchemaVersion : Nat := 1

/-! ## The document -/

inductive TargetPlatform where
  | android
  | ios
  deriving DecidableEq

def defaultPlatforms : List TargetPlatform := [.android, .ios]

structure AppConfig where
  name : String
  identifier : String
  displayVersion : String

inductive AndroidAbi where
  | arm64V8a
  | x86_64
  | armeabiV7a
  deriving DecidableEq

structure AndroidConfig where
  minSdk : UInt32 := 26
  targetSdk : String := "installed"
  abis : List AndroidAbi := [.arm64V8a]

structure IosConfig where
  minVersion : String := "16.0"

inductive NetworkMode where
  | none
  | status
  | optional
  | required
  deriving DecidableEq

structure NetworkCapability where
  mode : NetworkMode := .none
  probeUrl : Option String := .none
  probeTimeoutMs : UInt64 := 3000

structure NotificationCapability where
  push : Bool := false

structure DeepLinksCapability where
  schemes : List String := []

/-- The capabilities that the validation reads. -/
structure CapabilitiesConfig where
  network : NetworkCapability := {}
  notifications : NotificationCapability := {}
  deepLinks : DeepLinksCapability := {}

structure PermissionConfig where
  enabled : Bool := false
  purpose : Option String := none

structure PermissionsConfig where
  camera : PermissionConfig := {}
  photos : PermissionConfig := {}
  microphone : PermissionConfig := {}
  locationWhenInUse : PermissionConfig := {}
  localNetwork : PermissionConfig := {}

structure WidgetConfig where
  enabled : Bool := false
  appGroup : Option String := none

structure LiveActivityConfig where
  enabled : Bool := false

structure ExtensionsConfig where
  widget : WidgetConfig := {}
  liveActivity : LiveActivityConfig := {}

/-- Complete, versioned `ferry.toml` document. -/
structure FerryConfig where
  schemaVersion : UInt32
  platforms : List TargetPlatform := defaultPlatforms
  app : AppConfig
  android : AndroidConfig := {}
  ios : IosConfig := {}
  capabilities : CapabilitiesConfig := {}
  permissions : PermissionsConfig := {}
  extensions : ExtensionsConfig := {}

/-! ## Application identifiers -/

inductive NamingError where
  | invalidProjectName (reason : String)
  | invalidApplicationIdentifier (identifier reason : String)

def NamingError.message : NamingError → String
  | .invalidProjectName reason => "invalid project name: " ++ reason
  | .invalidApplicationIdentifier identifier reason =>
    "invalid application identifier " ++ "`" ++ identifier ++ "`: " ++ reason

abbrev NamingResult := Except NamingError

def validateIdentifierSegment (identifier : String) (segment : List Char) : NamingResult Unit :=
  match segment with
  | [] => .error (.invalidApplicationIdentifier identifier "empty segments are not allowed")
  | first :: characters => do
    rejectIf (!first.isLower) (.invalidApplicationIdentifier identifier
      "each segment must start with a lowercase ASCII letter")
    rejectIf (!characters.all fun c => c.isLower || c.isDigit)
      (.invalidApplicationIdentifier identifier
        "segments may contain only lowercase ASCII letters and digits")

/-- Validate the conservative intersection of Android application IDs and Apple bundle IDs. -/
def validateApplicationIdentifier (identifier : String) : NamingResult Unit := do
  rejectIf (identifier.utf8ByteSize > 255)
    (.invalidApplicationIdentifier identifier "it exceeds 255 bytes")
  let segments := Text.split '.' identifier.toList
  rejectIf (segments.length < 3) (.invalidApplicationIdentifier identifier
    "use at least three dot-separated segments, for example `com.example.app`")
  segments.forM (validateIdentifierSegment identifier)

/-! ## Checks -/

/-- One actionable configuration validation problem. -/
structure ValidationIssue where
  field : String
  message : String
  help : String

def issueIf (bad : Bool) (field message help : String) : List ValidationIssue :=
  if bad then [⟨field, message, help⟩] else []

/-- `str::parse::<u32>`. -/
def parseU32 (text : List Char) : Option Nat :=
  Text.parseDigits (2 ^ 32) ((Text.stripFront ['+'] text).getD text)

def parsePlatformVersion (value : String) : Option (Nat × Nat) :=
  match Text.split '.' value.toList with
  | [major, minor] =>
    match parseU32 major, parseU32 minor with
    | some major, some minor => some (major, minor)
    | _, _ => none
  | _ => none

def validUrlScheme (scheme : List Char) : Bool :=
  match scheme with
  | [] => false
  | first :: characters =>
    first.isAlpha && characters.all fun c => c.isAlphanum || c == '+' || c == '-' || c == '.'

def isBlank (text : String) : Bool := Text.isBlank text.toList

def targetSdkIssues (android : AndroidConfig) : List ValidationIssue :=
  if android.targetSdk != "installed" then
    match parseU32 android.targetSdk.toList with
    | some targetSdk =>
      if targetSdk < android.minSdk.toNat then
        issueIf true "android.target_sdk" "the target SDK cannot be lower than the minimum SDK"
          "Raise `android.target_sdk` or lower `android.min_sdk`."
      else
        issueIf (targetSdk > 100) "android.target_sdk"
          "the numeric target SDK is outside the supported range"
          "Use `installed` or a supported Android API number."
    | none =>
      issueIf true "android.target_sdk"
        "the target SDK must be `installed` or a numeric API level"
        "Use `target_sdk = \"installed\"` to select the newest compatible installed platform."
  else []

/-- `Url::parse`: the scheme, or the text of the error. -/
abbrev UrlParser := String → Except String String

def probeUrlIssues (urlParse : UrlParser) (probeUrl : String) : List ValidationIssue :=
  match urlParse probeUrl with
  | .ok scheme =>
    issueIf (!(scheme == "http" || scheme == "https")) "capabilities.network.probe_url"
      "only HTTP and HTTPS probe endpoints are supported"
      "Use an HTTPS health endpoint controlled by the application backend."
  | .error message =>
    issueIf true "capabilities.network.probe_url"
      ("the probe endpoint is not an absolute URL: " ++ message)
      "Use an absolute HTTPS URL, or omit it and pass an endpoint explicitly."

def networkIssues (urlParse : UrlParser) (network : NetworkCapability) : List ValidationIssue :=
  issueIf (network.mode == .none && network.probeUrl.isSome) "capabilities.network.probe_url"
    "a probe URL cannot be configured when network mode is `none`"
    "Remove `probe_url` or choose the `status`, `optional`, or `required` mode." ++
  issueIf (network.probeTimeoutMs == 0) "capabilities.network.probe_timeout_ms"
    "the probe timeout must be greater than zero"
    "Use 3000 milliseconds as a practical starting point." ++
  issueIf (network.probeTimeoutMs > 120000) "capabilities.network.probe_timeout_ms"
    "the probe timeout cannot exceed 120000 milliseconds"
    "Choose a bounded timeout appropriate for a user-facing operation." ++
  network.probeUrl.toList.flatMap (probeUrlIssues urlParse)

def schemeIssues (scheme : String) : List ValidationIssue :=
  issueIf (!validUrlScheme scheme.toList) "capabilities.deep_links.schemes"
    ("`" ++ scheme ++ "` is not a safe custom URL scheme")
    "Schemes must start with an ASCII letter and contain only letters, digits, `+`, `-`, or `.`."

def validatePermission (field : String) (permission : PermissionConfig) (help : String) :
    List ValidationIssue :=
  issueIf (permission.enabled && permission.purpose.all isBlank) (field ++ ".purpose")
    "an enabled permission requires a non-empty purpose string" help

def permissionIssues (permissions : PermissionsConfig) : List ValidationIssue :=
  validatePermission "permissions.camera" permissions.camera
    "Explain why the app needs camera access." ++
  validatePermission "permissions.photos" permissions.photos
    "Explain why the app needs photo-library access." ++
  validatePermission "permissions.microphone" permissions.microphone
    "Explain why the app needs microphone access." ++
  validatePermission "permissions.location_when_in_use" permissions.locationWhenInUse
    "Explain why the app needs location while in use." ++
  validatePermission "permissions.local_network" permissions.localNetwork
    "Explain which local devices or services the app connects to."

def appIssues (app : AppConfig) (platforms : List TargetPlatform) : List ValidationIssue :=
  issueIf (isBlank app.name) "app.name" "the display name cannot be empty"
    "Set a human-readable application name." ++
  issueIf platforms.isEmpty "platforms" "at least one target platform is required"
    "Use `platforms = [\"android\"]` or `platforms = [\"android\", \"ios\"]`." ++
  issueIf (platforms.dedup.length != platforms.length) "platforms"
    "the same target platform is listed more than once" "Remove the duplicate platform entry." ++
  (match validateApplicationIdentifier app.identifier with
    | .ok () => []
    | .error e =>
      [⟨"app.identifier", e.message, "Use an identifier such as `com.example.weather`."⟩]) ++
  issueIf (isBlank app.displayVersion) "app.display_version"
    "the display version cannot be empty"
    "Use a value visible to users, commonly the same value as `app.version`."

def androidIssues (android : AndroidConfig) : List ValidationIssue :=
  issueIf (!(21 ≤ android.minSdk && android.minSdk ≤ 100)) "android.min_sdk"
    "the supported range is 21 through 100"
    "Use 26 unless the application needs an older Android release." ++
  issueIf android.abis.isEmpty "android.abis" "at least one Android ABI is required"
    "Add `arm64-v8a` for physical devices or `x86_64` for an Intel emulator." ++
  issueIf (android.abis.dedup.length != android.abis.length) "android.abis"
    "the same Android ABI is listed more than once" "Remove duplicate ABI entries." ++
  targetSdkIssues android

/-- A version below another one, component by component. -/
def isLower (left right : Nat × Nat) : Bool :=
  left.1 < right.1 || (left.1 == right.1 && left.2 < right.2)

/-- Return every semantic validation issue rather than stopping at the first one. -/
def FerryConfig.validate (urlParse : UrlParser) (self : FerryConfig) : List ValidationIssue :=
  issueIf (self.schemaVersion.toNat != configSchemaVersion) "schema_version"
    ("schema version " ++ toString self.schemaVersion ++
      " is not supported; this cargo-ferry supports version " ++ toString configSchemaVersion)
    "Run `cargo ferry config migrate` with a cargo-ferry version that supports the source schema." ++
  appIssues self.app self.platforms ++
  androidIssues self.android ++
  issueIf (parsePlatformVersion self.ios.minVersion).isNone "ios.min_version"
    "the minimum iOS version must contain numeric major and minor components"
    "Use a value such as `16.0`." ++
  networkIssues urlParse self.capabilities.network ++
  issueIf self.capabilities.notifications.push "capabilities.notifications.push"
    "remote push is not implemented in schema version 1"
    "Set `push = false`; local notifications remain available." ++
  self.capabilities.deepLinks.schemes.flatMap schemeIssues ++
  issueIf (self.extensions.widget.enabled && self.extensions.widget.appGroup.isNone)
    "extensions.widget.app_group"
    "the widget extension needs an application group for shared state"
    ("Set `app_group = \"group." ++ self.app.identifier ++ "\"`.") ++
  issueIf (self.extensions.liveActivity.enabled &&
      (parsePlatformVersion self.ios.minVersion).any (isLower · (16, 1)))
    "ios.min_version" "Live Activities require iOS 16.1 or newer"
    "Set `ios.min_version = \"16.1\"` or disable the Live Activity extension." ++
  permissionIssues self.permissions

end RustFerry.Config
