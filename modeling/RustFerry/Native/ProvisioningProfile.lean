import Mathlib.Data.Finset.Dedup
import RustFerry.Native.Signing

/-!
# Provisioning profiles and signed entitlements

A provisioning profile is checked against a signing target when it is prepared
(`crates/rustferry-remote/src/profile.rs`, `crates/rustferry-remote/src/signing.rs`), and the
entitlements of the signed code are checked against the profile and the target when the signed
application is inspected (`crates/rustferry-worker-macos/src/signed_ipa.rs`).
-/

namespace RustFerry.Remote

open Serde Artifact Except

/-! ## Values -/

/-- `value.as_str()`. -/
def asStr : Json → Option String
  | .string text => some text
  | _ => none

/-- `value.as_bool()`. -/
def asBool : Json → Option Bool
  | .bool b => some b
  | _ => none

/-- `value.as_array()`. -/
def asArray : Json → Option (List Json)
  | .array items => some items
  | _ => none

/-- `text.strip_suffix(back)`. -/
def stripBack (back text : List Char) : Option (List Char) :=
  if back.isSuffixOf text then some (text.take (text.length - back.length)) else none

def EntitlementSet.get (self : EntitlementSet) (key : String) : Option Json :=
  self.values.lookup key

def applicationIdentifierKey : String := "application-identifier"
def teamIdentifierKey : String := "com.apple.developer.team-identifier"
def getTaskAllowKey : String := "get-task-allow"
def applicationGroupsKey : String := "com.apple.security.application-groups"

def maxAppGroupCount : Nat := 1024
def maxAppGroupBytes : Nat := 255

/-- `format!("{}.{}", team.id(), identifier)`. -/
def DevelopmentTeam.qualify (team : DevelopmentTeam) (identifier : String) : String :=
  team.id ++ "." ++ identifier

/-! ## Profile metadata -/

/-- Supported profile platform. -/
inductive ProvisioningPlatform where
  | ios
  deriving DecidableEq

/-- Public decoded provisioning-profile metadata; raw profile bytes are excluded. -/
structure ProvisioningProfile where
  uuid : String
  name : String
  team : DevelopmentTeam
  applicationIdentifier : String
  bundleIdentifierPattern : String
  wildcard : Bool
  createdAtUnixSeconds : UInt64
  expiresAtUnixSeconds : UInt64
  deviceUdidSha256s : List String
  entitlements : EntitlementSet
  platforms : Finset ProvisioningPlatform
  profileType : ProvisioningProfileType
  certificateFingerprints : List String
  deriving DecidableEq

/-- What `SigningValidationError` says of a profile. -/
inductive ProfileMetadataError where
  | invalidProvisioningProfileIdentifier
  | invalidProvisioningProfileName
  | invalidProvisioningProfileDates
  | profileBundleIdentifierMismatch
  | applicationIdentifierMismatch
  | profilePlatformMismatch
  | profileCertificateMismatch
  | invalidCertificateFingerprint
  | invalidDeviceIdentifier
  | deviceNotProvisioned
  | profileTypeMismatch
  | profileNotYetValid
  | profileExpired

def isProfileIdentifier (value : String) : Bool :=
  8 ≤ value.utf8ByteSize && value.utf8ByteSize ≤ 64 &&
    value.toList.all (fun c => c.isAlphanum || c == '-') &&
    value.toList.head? != some '-' && value.toList.getLast? != some '-'

/-- The bundle pattern is well formed. -/
def isBundlePattern (wildcard : Bool) (pattern : String) : Bool :=
  if wildcard then
    pattern == "*" || (stripBack ['.', '*'] pattern.toList).any fun front =>
      isExplicitBundleIdentifier (.ofList front)
  else isExplicitBundleIdentifier pattern

/-- The devices fit the category of the profile. -/
def checkDevices (profileType : ProvisioningProfileType) (devices : List String) :
    Except ProfileMetadataError Unit :=
  match profileType with
  | .development | .adHoc => rejectIf devices.isEmpty .deviceNotProvisioned
  | .appStore => rejectIf (!devices.isEmpty) .profileTypeMismatch

namespace ProvisioningProfile

/-- Validate public profile metadata without reading a profile or key. -/
def validateMetadata (self : ProvisioningProfile) : Except ProfileMetadataError Unit := do
  rejectIf (!isProfileIdentifier self.uuid) .invalidProvisioningProfileIdentifier
  rejectIf (!isSafeLabel self.name) .invalidProvisioningProfileName
  rejectIf (self.createdAtUnixSeconds > self.expiresAtUnixSeconds) .invalidProvisioningProfileDates
  rejectIf (!isBundlePattern self.wildcard self.bundleIdentifierPattern)
    .profileBundleIdentifierMismatch
  rejectIf (self.applicationIdentifier != self.team.qualify self.bundleIdentifierPattern)
    .applicationIdentifierMismatch
  rejectIf (.ios ∉ self.platforms) .profilePlatformMismatch
  rejectIf self.certificateFingerprints.isEmpty .profileCertificateMismatch
  rejectIf (!self.certificateFingerprints.all isFingerprint) .invalidCertificateFingerprint
  -- a malformed and a repeated device have the same error
  rejectIf (!self.deviceUdidSha256s.all isLowercaseSha256 || ¬self.deviceUdidSha256s.Nodup)
    .invalidDeviceIdentifier
  checkDevices self.profileType self.deviceUdidSha256s

/-- Validate metadata and reject an expired profile at a caller-supplied time. -/
def validateMetadataAt (self : ProvisioningProfile) (nowUnixSeconds : UInt64) :
    Except ProfileMetadataError Unit := do
  self.validateMetadata
  rejectIf (self.createdAtUnixSeconds > nowUnixSeconds) .profileNotYetValid
  rejectIf (self.expiresAtUnixSeconds ≤ nowUnixSeconds) .profileExpired

end ProvisioningProfile

/-! ## Validation for a target -/

/-- Target-specific validation request for one parsed provisioning profile. -/
structure ProfileValidationRequest where
  target : SigningTarget
  team : DevelopmentTeam
  device : Option DevicePlan
  certificate : SigningCertificate
  profileType : ProvisioningProfileType
  requiredEntitlements : EntitlementSet
  nowUnixSeconds : UInt64

/-- One independently typed reason a profile cannot authorize a target. -/
inductive ProfileValidationIssue where
  | invalidProfileMetadata
  | profileExpired
  | profileNotYetValid
  | targetBundleIdentifierMismatch
  | unsupportedTargetKind
  | profileTeamMismatch
  | invalidCertificate
  | certificateExpired
  | certificateTeamMismatch
  | profileCertificateMismatch
  | profileTypeMismatch
  | missingDevice
  | deviceNotProvisioned
  | missingEntitlement (key : String)
  | entitlementMismatch (key : String)
  | applicationIdentifierMismatch
  | getTaskAllowMismatch
  | applicationGroupMismatch
  deriving DecidableEq

/-- Public evidence produced after all target-specific profile checks pass. -/
structure ValidatedProvisioningProfile where
  profileUuid : String
  targetBundleIdentifier : String
  teamIdentifier : String
  certificateSha256Fingerprint : String
  profileType : ProvisioningProfileType
  applicationGroups : Finset String
  expiresAtUnixSeconds : UInt64
  deriving DecidableEq

def bundlePatternMatches (pattern bundleIdentifier : String) : Bool :=
  if pattern = "*" then true
  else match stripBack ['.', '*'] pattern.toList with
    | some front =>
      (Text.stripFront front bundleIdentifier.toList).any fun rest =>
        rest.head? == some '.' && 1 < rest.length
    | none => pattern = bundleIdentifier

/-- The name of one application group. -/
def applicationGroup (value : Json) : Option String :=
  (asStr value).filter fun group =>
    group.utf8ByteSize ≤ maxAppGroupBytes && "group.".toList.isPrefixOf group.toList &&
      isExplicitBundleIdentifier group

/-- The groups, when they are all well formed and none is repeated. -/
def distinctGroups (values : List Json) : Option (Finset String) :=
  if values.isEmpty || values.length > maxAppGroupCount then none
  else ((values.mapM applicationGroup).filter fun groups => groups.Nodup).map List.toFinset

def requestedApplicationGroups (required : Json) : Option (Finset String) :=
  (asArray required).bind distinctGroups

def profileApplicationGroups (profile : ProvisioningProfile) : Option (Finset String) :=
  (profile.entitlements.get applicationGroupsKey).bind requestedApplicationGroups

/-- `issues.push(issue)` when something is wrong. -/
def issueIf (bad : Bool) (issue : ProfileValidationIssue) : List ProfileValidationIssue :=
  if bad then [issue] else []

def pushUnique (issues : List ProfileValidationIssue) (issue : ProfileValidationIssue) :
    List ProfileValidationIssue :=
  if issue ∈ issues then issues else issues ++ [issue]

/-- The issue of the metadata, if there is one. -/
def metadataIssues : Except ProfileMetadataError Unit → List ProfileValidationIssue
  | .ok () => []
  | .error .profileNotYetValid => [.profileNotYetValid]
  | .error .profileExpired => [.profileExpired]
  | .error _ => [.invalidProfileMetadata]

/-- The issue of the selected device, if there is one. -/
def deviceIssues (profile : ProvisioningProfile) (profileType : ProvisioningProfileType)
    (device : Option DevicePlan) : List ProfileValidationIssue :=
  if profileType = .development ∨ profileType = .adHoc then
    match device with
    | some device =>
      issueIf (!profile.deviceUdidSha256s.contains device.udidSha256) .deviceNotProvisioned
    | none => [.missingDevice]
  else []

section

variable (profile : ProvisioningProfile) (request : ProfileValidationRequest)

/-- `request.profile_type == ProvisioningProfileType::Development`. -/
def expectedGetTaskAllow : Bool := request.profileType = .development

def expectedApplicationIdentifier : String :=
  request.team.qualify request.target.bundleIdentifier.value

/-- The issues found before the required entitlements are checked. -/
def profileIssues : List ProfileValidationIssue :=
  metadataIssues (profile.validateMetadataAt request.nowUnixSeconds) ++
    issueIf (profile.team.id != request.team.id) .profileTeamMismatch ++
    issueIf (profile.profileType ≠ request.profileType) .profileTypeMismatch ++
    issueIf (request.target.kind ≠ .application && request.target.kind ≠ .ext)
      .unsupportedTargetKind ++
    issueIf (!bundlePatternMatches profile.bundleIdentifierPattern
      request.target.bundleIdentifier.value) .targetBundleIdentifierMismatch ++
    issueIf (!request.certificate.errors.isEmpty) .invalidCertificate ++
    issueIf (request.certificate.expiresAtUnixSeconds ≤ request.nowUnixSeconds)
      .certificateExpired ++
    issueIf (request.certificate.team.id != request.team.id) .certificateTeamMismatch ++
    issueIf (!profile.certificateFingerprints.contains request.certificate.sha256Fingerprint)
      .profileCertificateMismatch ++
    deviceIssues profile request.profileType request.device ++
    issueIf ((profile.entitlements.get getTaskAllowKey).bind asBool !=
      some (expectedGetTaskAllow request)) .getTaskAllowMismatch ++
    issueIf ((profile.entitlements.get applicationIdentifierKey).bind asStr !=
      some profile.applicationIdentifier) .applicationIdentifierMismatch ++
    issueIf ((profile.entitlements.get teamIdentifierKey).any fun value =>
      asStr value != some request.team.id) (.entitlementMismatch teamIdentifierKey) ++
    issueIf ((profile.entitlements.get applicationGroupsKey).isSome &&
      (profileApplicationGroups profile).isNone) .applicationGroupMismatch

/-- The issues so far, and the application groups found in the required entitlements. -/
abbrev RequiredChecks : Type := List ProfileValidationIssue × Finset String

def checkRequiredGroups (checks : RequiredChecks) (required : Json) : RequiredChecks :=
  match requestedApplicationGroups required with
  | some groups =>
    if (profileApplicationGroups profile).any fun authorized => groups ⊆ authorized then
      (checks.1, groups)
    else (pushUnique checks.1 .applicationGroupMismatch, groups)
  | none => (pushUnique checks.1 .applicationGroupMismatch, checks.2)

/-- An entitlement that the profile has to hold with the same value. -/
def otherIssues (key : String) (required : Json) : List ProfileValidationIssue :=
  match profile.entitlements.get key with
  | none => [.missingEntitlement key]
  | some actual => issueIf (actual ≠ required) (.entitlementMismatch key)

/-- One iteration over the required entitlements. -/
def checkRequired (checks : RequiredChecks) (entry : String × Json) : RequiredChecks :=
  let (key, required) := entry
  if key = applicationIdentifierKey then
    (checks.1 ++ issueIf (asStr required != some (expectedApplicationIdentifier request))
      (.entitlementMismatch key), checks.2)
  else if key = getTaskAllowKey then
    if asBool required = some (expectedGetTaskAllow request) then checks
    else (pushUnique checks.1 .getTaskAllowMismatch, checks.2)
  else if key = applicationGroupsKey then checkRequiredGroups profile checks required
  else (checks.1 ++ otherIssues profile key required, checks.2)

/-- Validate one parsed profile against one exact signing target. -/
def validateProfileForTarget :
    Except (List ProfileValidationIssue) ValidatedProvisioningProfile :=
  let checks := request.requiredEntitlements.values.foldl (checkRequired profile request)
    (profileIssues profile request, ∅)
  if checks.1.isEmpty then
    .ok {
      profileUuid := profile.uuid
      targetBundleIdentifier := request.target.bundleIdentifier.value
      teamIdentifier := request.team.id
      certificateSha256Fingerprint := request.certificate.sha256Fingerprint
      profileType := request.profileType
      applicationGroups := checks.2
      expiresAtUnixSeconds := profile.expiresAtUnixSeconds }
  else .error checks.1

end

end RustFerry.Remote

namespace RustFerry.Worker

open Serde Remote Except

/-! ## Signed entitlements -/

def stringEntitlementAuthorized (pattern actual : String) : Bool :=
  pattern == actual || pattern == "*" || (stripBack ['*'] pattern.toList).any fun front =>
    !front.isEmpty && front.isPrefixOf actual.toList

mutual

def entitlementValueAuthorized (authorized : Json) : Json → Bool
  | .string value => match authorized with
    | .string pattern => stringEntitlementAuthorized pattern value
    | _ => authorized = .string value
  | .array actual => match authorized with
    | .array candidates => areItemsAuthorized candidates actual
    | _ => authorized = .array actual
  | .object actual => match authorized with
    | .object candidates => areMembersAuthorized candidates actual
    | _ => authorized = .object actual
  | .null => authorized = .null
  | .bool b => authorized = .bool b
  | .number n => authorized = .number n

/-- Every item is authorized by some candidate. -/
def areItemsAuthorized (authorized : List Json) : List Json → Bool
  | [] => true
  | item :: items =>
    authorized.any (fun candidate => entitlementValueAuthorized candidate item) &&
      areItemsAuthorized authorized items

/-- Every member is authorized by the candidate with its key. -/
def areMembersAuthorized (authorized : Members) : Members → Bool
  | [] => true
  | (key, value) :: members =>
    (authorized.lookup key).any (fun candidate => entitlementValueAuthorized candidate value) &&
      areMembersAuthorized authorized members

end

/-- The texts of the array, when none is repeated. -/
def jsonStringSet (value : Json) : Option (Finset String) := do
  let values ← asArray value
  let texts ← values.mapM asStr
  if texts.toFinset.card = values.length then some texts.toFinset else none

def requiredEntitlementMatches (key : String) (required actual : Json) : Bool :=
  if key = applicationGroupsKey then
    (jsonStringSet required).any fun required => jsonStringSet actual = some required
  else required = actual

/-- The failure of a signed application whose entitlements are wrong. -/
inductive EntitlementError where
  | entitlementsMismatch
  deriving DecidableEq

/-- The check of one entitlement of the signed code. -/
def isSignedEntitlementAuthorized (profile : ProvisioningProfile) (team : DevelopmentTeam)
    (entry : String × Json) : Bool :=
  let (key, actual) := entry
  if key = applicationIdentifierKey then true
  else if key = teamIdentifierKey then asStr actual = some team.id
  else if key = getTaskAllowKey then asBool actual = some true
  else (profile.entitlements.get key).any fun authorized =>
    entitlementValueAuthorized authorized actual

def validateSignedEntitlements (signed : EntitlementSet) (profile : ProvisioningProfile)
    (required : EntitlementSet) (target : SigningTarget) (team : DevelopmentTeam) :
    Except EntitlementError (Finset String) := do
  rejectIf ((signed.get applicationIdentifierKey).bind asStr !=
      some (team.qualify target.bundleIdentifier.value) ||
    (signed.get teamIdentifierKey).bind asStr != some team.id ||
    (signed.get getTaskAllowKey).bind asBool != some true) .entitlementsMismatch
  rejectIf (!required.values.all fun entry => (signed.get entry.1).any fun actual =>
    requiredEntitlementMatches entry.1 entry.2 actual) .entitlementsMismatch
  rejectIf (!signed.values.all (isSignedEntitlementAuthorized profile team)) .entitlementsMismatch
  return ((signed.get applicationGroupsKey).bind jsonStringSet).getD ∅

end RustFerry.Worker
