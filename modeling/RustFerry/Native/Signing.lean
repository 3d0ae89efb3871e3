import RustFerry.Native.BuildRequest

/-!
# Signing plans

The declarative signing plan of a build request and its structural checks
(`crates/rustferry-remote/src/signing.rs`, `crates/rustferry-remote/src/secret.rs`). Values
that the source builds only through a checked constructor carry the check as a field.
-/

namespace RustFerry.Remote

open Serde Artifact

/-! ## Errors -/

/-- Structural reason an entitlement value was rejected. -/
inductive EntitlementValueError where
  | null
  | floatingPoint
  | stringTooLong
  | collectionTooLarge
  | tooDeep
  deriving DecidableEq

/-- Reason a signing plan or an entitlement was rejected. -/
inductive SigningValidationError where
  | missingSigningReference
  | missingSigningPasswordReference
  | missingDevelopmentTeam
  | missingDevice
  | signingReferencesForbiddenForUnsigned
  | provisioningUpdatesForbiddenForUnsigned
  | invalidTargetName
  | invalidCertificateName
  | invalidCertificateFingerprint
  | invalidEntitlementKey (index : Option Nat)
  | invalidEntitlementValue (key : Option String) (reason : EntitlementValueError)
  | missingApplicationTarget
  | multipleApplicationTargets
  | duplicateTarget (target : String)
  | duplicateBundleIdentifier (bundleIdentifier : String)
  | unknownProvisioningTarget (target : String)
  | ambiguousProvisioningProfile (target : String)
  | missingProvisioningProfile (target : String)
  | unknownEntitlementTarget (target : String)
  | duplicateEntitlementPlan (target : String)
  | missingEntitlementPlan (target : String)
  | certificateTeamMismatch
  | profileTypeMismatch
  deriving DecidableEq

/-! ## Labels and identifiers -/

def maxLabelBytes : Nat := 128

/-- No text of two adjacent dots. -/
def hasDotSequence (text : List Char) : Bool :=
  match text with
  | '.' :: '.' :: _ => true
  | _ :: rest => hasDotSequence rest
  | [] => false

def isSafeLabel (value : String) : Bool :=
  value != "" && value.utf8ByteSize ≤ maxLabelBytes && !value.toList.any Text.isControl &&
    !value.toList.head?.any Text.isWhitespace && !value.toList.getLast?.any Text.isWhitespace

def isSafeIdentifier (value : String) : Bool :=
  value != "" && value.utf8ByteSize ≤ maxLabelBytes &&
    value.toList.all (fun c => c.isAlphanum || c == '_' || c == '-' || c == '.') &&
    !hasDotSequence value.toList

def isLowercaseSha256 (value : String) : Bool :=
  value.utf8ByteSize == 64 && value.toList.all fun c => c.isDigit || ('a' ≤ c && c ≤ 'f')

def isFingerprint (value : String) : Bool :=
  value.utf8ByteSize == 64 && value.toList.all fun c =>
    c.isDigit || ('a' ≤ c && c ≤ 'f') || ('A' ≤ c && c ≤ 'F')

/-- `BundleIdentifier::new` accepts the text. -/
def isExplicitBundleIdentifier (value : String) : Bool :=
  let segments := Text.split '.' value.toList
  value.utf8ByteSize ≤ 255 && 2 ≤ segments.length && segments.all fun segment =>
    segment.all (fun c => c.isAlphanum || c == '-') &&
      segment.head?.any Char.isAlphanum && segment.getLast?.any Char.isAlphanum

/-- Validated Apple application bundle identifier. -/
structure BundleIdentifier where
  value : String
  valid : isExplicitBundleIdentifier value = true
  deriving DecidableEq

/-- `DevelopmentTeam::new` accepts the identifier and the name. -/
def isDevelopmentTeam (id : String) (displayName : Option String) : Bool :=
  id.utf8ByteSize == 10 && id.toList.all (fun c => c.isUpper || c.isDigit) &&
    displayName.all isSafeLabel

/-- Apple development team selected for signing. -/
structure DevelopmentTeam where
  id : String
  displayName : Option String
  valid : isDevelopmentTeam id displayName = true
  deriving DecidableEq

/-- Registered physical iPhone selected for a development artifact. -/
structure DevicePlan where
  udidSha256 : String
  displayName : Option String
  valid : (isLowercaseSha256 udidSha256 && displayName.all isSafeLabel) = true
  deriving DecidableEq

/-! ## Secret references -/

def maxReferenceNameBytes : Nat := 128

/-- Storage namespace for an opaque secret reference. -/
inductive SecretReferenceKind where
  | environment
  | credentialStore
  | githubActions
  | worker
  deriving DecidableEq

def SecretReferenceKind.name : SecretReferenceKind → String
  | .environment => "environment"
  | .credentialStore => "credential_store"
  | .githubActions => "github_actions"
  | .worker => "worker"

/-- The characters of a reference's name after the first. -/
def SecretReferenceKind.allows : SecretReferenceKind → Char → Bool
  | .environment, c | .githubActions, c => c.isAlphanum || c == '_'
  | .credentialStore, c | .worker, c => c.isAlphanum || c == '_' || c == '-' || c == '.'

/-- `validate_reference_name` accepts the name. -/
def isReferenceName (kind : SecretReferenceKind) (name : String) : Bool :=
  name != "" && name.utf8ByteSize ≤ maxReferenceNameBytes && !hasDotSequence name.toList &&
    name.toList.head?.any (fun c => c.isAlpha || c == '_') && name.toList.all kind.allows

/-- Serializable reference to secret material, never the material itself. -/
structure SecretReference where
  kind : SecretReferenceKind
  name : String
  valid : isReferenceName kind name = true
  deriving DecidableEq

/-! ## Entitlements -/

def maxEntitlementKeyBytes : Nat := 255
def maxEntitlementStringBytes : Nat := 16 * 1024
def maxEntitlementCollectionItems : Nat := 1024
def maxEntitlementDepth : Nat := 16

def isEntitlementKeyChar (c : Char) : Bool := c.isAlphanum || c == '.' || c == '-' || c == '_'

def validateEntitlementKey (key : String) : Except SigningValidationError Unit :=
  if key = "" ∨ key.utf8ByteSize > maxEntitlementKeyBytes then .error (.invalidEntitlementKey none)
  else match key.toList.findIdx? fun c => !isEntitlementKeyChar c with
    | some index => .error (.invalidEntitlementKey (some index))
    | none => .ok ()

mutual

def validateEntitlementValue (key : Option String) (depth : Nat) (value : Json) :
    Except SigningValidationError Unit :=
  if depth > maxEntitlementDepth then .error (.invalidEntitlementValue key .tooDeep)
  else match value with
    | .null => .error (.invalidEntitlementValue key .null)
    | .number (.unsigned _) | .number (.negative _) => .ok ()
    | .number (.float _) => .error (.invalidEntitlementValue key .floatingPoint)
    | .string text =>
      if text.utf8ByteSize > maxEntitlementStringBytes then
        .error (.invalidEntitlementValue key .stringTooLong)
      else .ok ()
    | .bool _ => .ok ()
    | .array items =>
      if items.length > maxEntitlementCollectionItems then
        .error (.invalidEntitlementValue key .collectionTooLarge)
      else validateEntitlementItems key (depth + 1) items
    | .object members =>
      if members.length > maxEntitlementCollectionItems then
        .error (.invalidEntitlementValue key .collectionTooLarge)
      else validateEntitlementMembers (depth + 1) members

def validateEntitlementItems (key : Option String) (depth : Nat) (items : List Json) :
    Except SigningValidationError Unit :=
  match items with
  | [] => .ok ()
  | item :: items => do
    validateEntitlementValue key depth item
    validateEntitlementItems key depth items

def validateEntitlementMembers (depth : Nat) (members : List (String × Json)) :
    Except SigningValidationError Unit :=
  match members with
  | [] => .ok ()
  | (key, value) :: members => do
    validateEntitlementKey key
    validateEntitlementValue (some key) depth value
    validateEntitlementMembers depth members

end

/-- `EntitlementSet::new` on the mapping. -/
def validateEntitlements (values : Members) : Except SigningValidationError Unit :=
  if values.length > maxEntitlementCollectionItems then
    .error (.invalidEntitlementValue none .collectionTooLarge)
  else validateEntitlementMembers 0 values

/-- Validated entitlement dictionary for one signing target: a value of `serde_json`, so its
    integers have 64 bits and the keys of each map ascend. -/
structure EntitlementSet where
  values : Members
  canonical : (Json.object values).isValue = true
  valid : validateEntitlements values = .ok ()
  deriving DecidableEq

/-! ## The plan -/

/-- Public certificate metadata used for validation and reporting. -/
structure SigningCertificate where
  commonName : String
  sha256Fingerprint : String
  team : DevelopmentTeam
  expiresAtUnixSeconds : UInt64
  deriving DecidableEq

/-- Opaque reference to private-key material held outside project configuration. -/
structure SigningPrivateKeyReference where
  reference : SecretReference
  deriving DecidableEq

/-- Certificate metadata paired with an opaque private-key reference. -/
structure SigningIdentity where
  certificate : SigningCertificate
  privateKey : SigningPrivateKeyReference
  deriving DecidableEq

/-- Public identity metadata and opaque references. -/
structure SigningReference where
  identity : SigningIdentity
  password : Option SecretReference
  deriving DecidableEq

/-- Development team expectation carried by a signing plan. -/
structure DevelopmentTeamPlan where
  expected : DevelopmentTeam
  deriving DecidableEq

/-- Provisioning profile category. -/
inductive ProvisioningProfileType where
  | development
  | adHoc
  | appStore
  deriving DecidableEq

def ProvisioningProfileType.name : ProvisioningProfileType → String
  | .development => "development"
  | .adHoc => "ad-hoc"
  | .appStore => "app-store"

/-- One public signing target. -/
structure SigningTarget where
  name : String
  bundleIdentifier : BundleIdentifier
  kind : SigningTargetKind
  deriving DecidableEq

/-- Per-target provisioning-profile selection. -/
structure ProvisioningPlan where
  target : String
  profile : SecretReference
  profileType : ProvisioningProfileType
  deriving DecidableEq

/-- Per-target entitlement expectation. -/
structure EntitlementPlan where
  target : String
  required : EntitlementSet
  deriving DecidableEq

/-- Complete declarative physical-iPhone signing plan. -/
structure SigningPlan where
  mode : SigningMode
  signing : Option SigningReference
  team : Option DevelopmentTeamPlan
  device : Option DevicePlan
  targets : List SigningTarget
  provisioning : List ProvisioningPlan
  entitlements : List EntitlementPlan
  allowProvisioningUpdates : Bool
  deriving DecidableEq

/-! ## Validation -/

/-- `errors.push(error)` when the condition holds. -/
def errorIf (bad : Bool) (error : SigningValidationError) : List SigningValidationError :=
  if bad then [error] else []

def SigningMode.requiresDevice : SigningMode → Bool
  | .development | .manualDevelopment | .personalTeam | .adHoc => true
  | .unsignedCompileOnly | .appStore => false

def SigningMode.requiresIdentityReference : SigningMode → Bool
  | .development | .manualDevelopment | .adHoc | .appStore => true
  | .unsignedCompileOnly | .personalTeam => false

/-- The error of `SigningCertificate::validate`, if there is one. -/
def SigningCertificate.errors (self : SigningCertificate) : List SigningValidationError :=
  if !isSafeLabel self.commonName then [.invalidCertificateName]
  else errorIf (!isFingerprint self.sha256Fingerprint) .invalidCertificateFingerprint

/-- The checks on the identity, team and device of the mode. -/
def SigningPlan.modeErrors (self : SigningPlan) : List SigningValidationError :=
  if self.mode = .unsignedCompileOnly then
    errorIf (self.signing.isSome || !self.provisioning.isEmpty)
        .signingReferencesForbiddenForUnsigned ++
      errorIf self.allowProvisioningUpdates .provisioningUpdatesForbiddenForUnsigned
  else
    errorIf (self.mode.requiresIdentityReference && self.signing.isNone)
        .missingSigningReference ++
      (match self.signing with
        | none => []
        | some signing =>
          signing.identity.certificate.errors ++
            errorIf (self.team.any fun team =>
              team.expected.id != signing.identity.certificate.team.id) .certificateTeamMismatch) ++
      errorIf (self.mode = .manualDevelopment &&
        self.signing.any fun signing => signing.password.isNone) .missingSigningPasswordReference ++
      errorIf self.team.isNone .missingDevelopmentTeam ++
      errorIf (self.mode.requiresDevice && self.device.isNone) .missingDevice

/-- The loop over the targets; `seen` are those before. -/
def targetErrors (seen : List SigningTarget) : List SigningTarget → List SigningValidationError
  | [] => []
  | target :: rest =>
    errorIf (!isSafeIdentifier target.name) .invalidTargetName ++
      errorIf (seen.any (·.name == target.name)) (.duplicateTarget target.name) ++
      errorIf (seen.any (·.bundleIdentifier == target.bundleIdentifier))
        (.duplicateBundleIdentifier target.bundleIdentifier.value) ++
      targetErrors (target :: seen) rest

def SigningPlan.applicationErrors (self : SigningPlan) : List SigningValidationError :=
  match self.targets.countP fun target => target.kind == .application with
  | 0 => [.missingApplicationTarget]
  | 1 => []
  | _ => [.multipleApplicationTargets]

def expectedProfileType : SigningMode → Option ProvisioningProfileType
  | .unsignedCompileOnly => none
  | .development | .manualDevelopment | .personalTeam => some .development
  | .adHoc => some .adHoc
  | .appStore => some .appStore

/-- The loop over the provisioning plans; `seen` are the targets before. -/
def SigningPlan.provisioningErrors (self : SigningPlan) (seen : List String) :
    List ProvisioningPlan → List SigningValidationError
  | [] => []
  | plan :: rest =>
    errorIf (!self.targets.any (·.name == plan.target)) (.unknownProvisioningTarget plan.target) ++
      errorIf (seen.contains plan.target) (.ambiguousProvisioningProfile plan.target) ++
      errorIf ((expectedProfileType self.mode).any (· != plan.profileType)) .profileTypeMismatch ++
      self.provisioningErrors (plan.target :: seen) rest

/-- The loop over the entitlement plans; `seen` are the targets before. -/
def SigningPlan.entitlementErrors (self : SigningPlan) (seen : List String) :
    List EntitlementPlan → List SigningValidationError
  | [] => []
  | plan :: rest =>
    errorIf (!self.targets.any (·.name == plan.target)) (.unknownEntitlementTarget plan.target) ++
      errorIf (seen.contains plan.target) (.duplicateEntitlementPlan plan.target) ++
      self.entitlementErrors (plan.target :: seen) rest

/-- A signed application or extension needs a profile and an entitlement plan. -/
def SigningPlan.missingPlans (self : SigningPlan) (target : SigningTarget) :
    List SigningValidationError :=
  if !self.mode.isSigned || !(target.kind == .application || target.kind == .ext) then []
  else
    errorIf (!self.provisioning.any (·.target == target.name))
        (.missingProvisioningProfile target.name) ++
      errorIf (!self.entitlements.any (·.target == target.name))
        (.missingEntitlementPlan target.name)

/-- All independent structural failures of a plan. -/
def SigningPlan.errors (self : SigningPlan) : List SigningValidationError :=
  self.modeErrors ++ targetErrors [] self.targets ++ self.applicationErrors ++
    self.provisioningErrors [] self.provisioning ++
    self.entitlementErrors [] self.entitlements ++ self.targets.flatMap self.missingPlans

/-- Validate plan structure without accessing any secret or external service. -/
def SigningPlan.validate (self : SigningPlan) : Except (List SigningValidationError) Unit :=
  if self.errors.isEmpty then .ok () else .error self.errors

/-- The part of the plan that the checks on the product read. -/
def SigningPlan.product (self : SigningPlan) : Artifact.SigningPlan where
  mode := self.mode
  targets := self.targets.map fun target => ⟨target.bundleIdentifier.value, target.kind⟩

end RustFerry.Remote
