import RustFerry.ForStd.Directory
import RustFerry.Native.ProvisioningProfile

/-!
# Provisioning materials

The profiles of a development export: each is decoded and validated for its target
(`crates/rustferry-worker-macos/src/provisioning.rs`), mapped to the bundle identifier of the target
and written to the isolated home directory (`crates/rustferry-worker-macos/src/export.rs`). Where
the profiles are written there are no input or output errors but those of names.
-/

namespace RustFerry.Worker

open Remote Except

/-! ## Errors -/

inductive ProvisioningMaterialError where
  | invalidInput (field : String)
  | invalidSigningPlan
  | profileSelection
  | unsafePath
  | io (operation : String)
  | cmsDecode
  | parse
  | validate (issues : List ProfileValidationIssue)
  | evidence
  | cleanupIncomplete
  deriving DecidableEq

inductive DevelopmentExportError where
  | invalidInput (field : String)
  | profileEvidenceMismatch
  | profileSelection
  | unsafePath
  | io (operation : String) (kind : FileError)
  deriving DecidableEq

/-! ## Inputs -/

def maxEncodedProfileBytes : Nat := 8 * 1024 * 1024

/-- `is_safe_target_name` of both modules. -/
def isSafeTargetName (value : String) : Bool := isSafeIdentifier value

def isEncodedProfile (bytes : List UInt8) : Bool :=
  !bytes.isEmpty && bytes.length ≤ maxEncodedProfileBytes

/-- One opaque CMS provisioning profile assigned by exact signing target name. -/
structure ProfileSecretInput where
  targetName : String
  encodedProfile : List UInt8
  nameValid : isSafeTargetName targetName = true
  profileValid : isEncodedProfile encodedProfile = true

/-- The checks of `ProvisioningProfileMaterial::new`. -/
def checkMaterial (targetName : String) (profile : ProvisioningProfile)
    (validation : ValidatedProvisioningProfile) (encodedProfile : List UInt8) :
    Except DevelopmentExportError Unit := do
  rejectIf (!isSafeTargetName targetName) (.invalidInput "target_name")
  rejectIf (!isEncodedProfile encodedProfile) (.invalidInput "encoded_profile")
  rejectIf (profile.uuid != validation.profileUuid ||
    profile.team.id != validation.teamIdentifier ||
    profile.expiresAtUnixSeconds != validation.expiresAtUnixSeconds ||
    profile.profileType ≠ validation.profileType) .profileEvidenceMismatch

/-- Raw profile bytes paired with the exact public validation evidence produced from those bytes. -/
structure ProvisioningProfileMaterial where
  targetName : String
  profile : ProvisioningProfile
  validation : ValidatedProvisioningProfile
  encodedProfile : List UInt8
  valid : checkMaterial targetName profile validation encodedProfile = .ok ()
  deriving DecidableEq

/-- Bind one CMS profile to its target-specific validation evidence. -/
def ProvisioningProfileMaterial.new (targetName : String) (profile : ProvisioningProfile)
    (validation : ValidatedProvisioningProfile) (encodedProfile : List UInt8) :
    Except DevelopmentExportError ProvisioningProfileMaterial :=
  match h : checkMaterial targetName profile validation encodedProfile with
  | .error failure => .error failure
  | .ok () => .ok ⟨targetName, profile, validation, encodedProfile, h⟩

/-! ## Preparation -/

/-- Inputs for decoding and validating all development profiles. -/
structure ProvisioningMaterialRequest where
  signingPlan : SigningPlan
  certificate : SigningCertificate
  profiles : List ProfileSecretInput
  nowUnixSeconds : UInt64

/-- What preparation does outside the program: the checks of its directories, `security cms -D` on
    the temporary file of an input, and the plist of the decoded profile. -/
structure ProvisioningTools where
  checkDirectories : Except ProvisioningMaterialError Unit
  decodeCmsProfile : ProfileSecretInput → Except ProvisioningMaterialError (List UInt8)
  parseDecodedProvisioningProfile : List UInt8 → Option ProvisioningProfile

/-- Validated raw and public profile pairs ready for the export. -/
structure PreparedProvisioningMaterials where
  profiles : List ProvisioningProfileMaterial
  decodedInputsRemoved : Bool
  deriving DecidableEq

/-- Only an application or an extension has a profile. -/
def hasProfile (target : SigningTarget) : Bool :=
  target.kind = .application || target.kind = .ext

def targetsByName (plan : SigningPlan) : List (String × SigningTarget) :=
  BTreeMap.ofList (plan.targets.map fun target => (target.name, target))

def profilePlans (plan : SigningPlan) : List (String × ProvisioningPlan) :=
  BTreeMap.ofList (plan.provisioning.map fun profile => (profile.target, profile))

def entitlementPlans (plan : SigningPlan) : List (String × EntitlementPlan) :=
  BTreeMap.ofList (plan.entitlements.map fun entitlements => (entitlements.target, entitlements))

/-- The names of the targets that have a profile. -/
def requiredTargets (plan : SigningPlan) : Finset String :=
  ((plan.targets.filter hasProfile).map (·.name)).toFinset

/-- The profile in an input. -/
def readProfile (tools : ProvisioningTools) (input : ProfileSecretInput) :
    Except ProvisioningMaterialError ProvisioningProfile := do
  let decoded ← tools.decodeCmsProfile input
  ofOption .parse (tools.parseDecodedProvisioningProfile decoded)

section

variable (tools : ProvisioningTools) (request : ProvisioningMaterialRequest)

/-- The profile of an input, validated for its target. -/
def prepareProfile (team : DevelopmentTeam) (target : SigningTarget)
    (profilePlan : ProvisioningPlan) (entitlementPlan : EntitlementPlan)
    (input : ProfileSecretInput) :
    Except ProvisioningMaterialError ProvisioningProfileMaterial := do
  let parsed ← readProfile tools input
  let validation ← (validateProfileForTarget parsed {
    target
    team
    device := request.signingPlan.device
    certificate := request.certificate
    profileType := profilePlan.profileType
    requiredEntitlements := entitlementPlan.required
    nowUnixSeconds := request.nowUnixSeconds }).mapError .validate
  (ProvisioningProfileMaterial.new input.targetName parsed validation
    input.encodedProfile).mapError fun _ => .evidence

/-- The names of the targets so far, and their materials. -/
abbrev Preparation : Type := Finset String × List ProvisioningProfileMaterial

/-- One iteration over the inputs. -/
def prepareInput (team : DevelopmentTeam) (preparation : Preparation)
    (input : ProfileSecretInput) : Except ProvisioningMaterialError Preparation := do
  let name := input.targetName
  let target ← ofOption .profileSelection <|
    ((targetsByName request.signingPlan).lookup name).filter fun _ =>
      name ∈ requiredTargets request.signingPlan
  let profilePlan ← ofOption .profileSelection ((profilePlans request.signingPlan).lookup name)
  let entitlementPlan ←
    ofOption .profileSelection ((entitlementPlans request.signingPlan).lookup name)
  rejectIf (name ∈ preparation.1) .profileSelection
  let material ← prepareProfile tools request team target profilePlan entitlementPlan input
  return (insert name preparation.1, preparation.2 ++ [material])

/-- Decode and independently validate every target profile. -/
def prepareProvisioningMaterials :
    Except ProvisioningMaterialError PreparedProvisioningMaterials := do
  let plan := request.signingPlan
  plan.validate.mapError fun _ => .invalidSigningPlan
  rejectIf (plan.mode ≠ .manualDevelopment || plan.allowProvisioningUpdates || plan.team.isNone)
    .invalidSigningPlan
  tools.checkDirectories
  let team ← ofOption .invalidSigningPlan plan.team
  rejectIf (request.certificate.team.id != team.expected.id) .invalidSigningPlan
  rejectIf (request.profiles.length ≠ (requiredTargets plan).card) .profileSelection
  let (seen, prepared) ← request.profiles.foldlM (prepareInput tools request team.expected) (∅, [])
  rejectIf (seen ≠ requiredTargets plan) .profileSelection
  return ⟨prepared, true⟩

end

/-! ## Export -/

/-- What the protected export reads of its request before it runs Xcode. -/
structure DevelopmentExportRequest where
  signingPlan : SigningPlan
  team : DevelopmentTeam
  certificate : SigningCertificate
  profiles : List ProvisioningProfileMaterial

/-- The names of the targets so far, and the profile of each bundle identifier. -/
abbrev Mapping : Type := Finset String × List (String × String)

/-- One iteration over the materials. -/
def mapProfile (request : DevelopmentExportRequest) (mapping : Mapping)
    (material : ProvisioningProfileMaterial) : Except DevelopmentExportError Mapping := do
  let name := material.targetName
  let target ← ofOption .profileSelection ((targetsByName request.signingPlan).lookup name)
  rejectIf (name ∉ requiredTargets request.signingPlan || name ∈ mapping.1 ||
    target.bundleIdentifier.value != material.validation.targetBundleIdentifier ||
    material.validation.teamIdentifier != request.team.id ||
    material.validation.certificateSha256Fingerprint != request.certificate.sha256Fingerprint)
    .profileSelection
  return (insert name mapping.1,
    BTreeMap.insert target.bundleIdentifier.value material.profile.uuid mapping.2)

def profileMapping (request : DevelopmentExportRequest) :
    Except DevelopmentExportError (List (String × String)) := do
  let (seen, mapping) ← request.profiles.foldlM (mapProfile request) (∅, [])
  rejectIf (seen ≠ requiredTargets request.signingPlan) .profileSelection
  return mapping

/-! ## Installation -/

/-- How the volume of the home directory compares file names. -/
inductive Volume where
  | caseSensitive
  | caseInsensitive

/-- The name under which a file is found; names of profiles have only ASCII letters. -/
def Volume.key : Volume → String → String
  | .caseSensitive, name => name
  | .caseInsensitive, name => .ofList (name.toList.map Char.toLower)

/-- `"{}.mobileprovision"`. -/
def profileFileName (uuid : String) : String := uuid ++ ".mobileprovision"

/-- Create a file directly below the directory. -/
def writePrivateNewFile (volume : Volume) (directory : Directory) (name : String)
    (bytes : List UInt8) : Except DevelopmentExportError Directory := do
  rejectIf (name == "" || name == "." || name == ".." || name.toList.contains '/') .unsafePath
  let created ← (directory.createNew (volume.key name)).mapError fun kind =>
    .io "create private export file" kind
  return created.put (volume.key name) bytes

/-- Write the profiles to the directory for provisioning profiles of the isolated home. -/
def installProfiles (volume : Volume) (request : DevelopmentExportRequest)
    (directory : Directory) : Except DevelopmentExportError Directory :=
  -- one file a target, and each has to be new
  request.profiles.foldlM (fun directory material =>
    writePrivateNewFile volume directory (profileFileName material.profile.uuid)
      material.encodedProfile) directory

/-! ## The pipeline -/

/-- The request with which the pipeline exports what was prepared, for the team of the plan. -/
def exportRequest (request : ProvisioningMaterialRequest)
    (prepared : PreparedProvisioningMaterials) (team : DevelopmentTeamPlan) :
    DevelopmentExportRequest where
  signingPlan := request.signingPlan
  team := team.expected
  certificate := request.certificate
  profiles := prepared.profiles

end RustFerry.Worker
