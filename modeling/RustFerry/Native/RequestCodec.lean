import RustFerry.Native.DeviceRequest

/-!
# Canonical encodings of a request

How the derived serializers write a build request, and the byte strings that are hashed to
identify one (`crates/rustferry-remote/src/protocol.rs`): the request itself, its retry
template without the operation, and its Git snapshot template without the revision.
-/

namespace RustFerry.Remote

open Serde Artifact Except

/-! ## Enumerations -/

instance : Serialize BuildProfile := ⟨fun profile => .string profile.name⟩
instance : Serialize SourceMode := ⟨fun mode => .string mode.name⟩
instance : Serialize SecretReferenceKind := ⟨fun kind => .string kind.name⟩
instance : Serialize ProvisioningProfileType := ⟨fun type => .string type.name⟩

def signingTargetKindName : SigningTargetKind → String
  | .dynamicLibrary => "dynamic_library"
  | .framework => "framework"
  | .ext => "extension"
  | .application => "application"

instance : Serialize SigningTargetKind := ⟨fun kind => .string (signingTargetKindName kind)⟩

def nestedBundleKindName : UnsignedNestedBundleKind → String
  | .appExtension => "app_extension"
  | .framework => "framework"

instance : Serialize UnsignedNestedBundleKind := ⟨fun kind => .string (nestedBundleKindName kind)⟩

/-! ## Product and source -/

def nestedBundleFieldNames : List String :=
  ["relative_path", "bundle_identifier", "executable", "kind"]

def nestedBundleFields (b : UnsignedNestedBundleExpectation) : List (Option Json) :=
  [some (serialize b.relativePath), some (serialize b.bundleIdentifier),
    some (serialize b.executable), some (serialize b.kind)]

instance : Serialize UnsignedNestedBundleExpectation :=
  ⟨fun b => .object (serializeFields nestedBundleFieldNames (nestedBundleFields b))⟩

def productFieldNames : List String :=
  ["app_directory_name", "executable", "app_version", "build_number", "nested_bundles"]

def productFields (p : IosDeviceProductExpectation) : List (Option Json) :=
  [some (serialize p.appDirectoryName), some (serialize p.executable),
    some (serialize p.appVersion), some (serialize p.buildNumber),
    some (serialize p.nestedBundles)]

instance : Serialize IosDeviceProductExpectation :=
  ⟨fun p => .object (serializeFields productFieldNames (productFields p))⟩

def manifestEntryFieldNames : List String := ["path", "size", "sha256", "executable"]

def manifestEntryFields (e : Snapshot.SourceManifestEntry) : List (Option Json) :=
  [some (serialize e.path), some (serialize e.size), some (serialize e.sha256),
    some (serialize e.executable)]

instance : Serialize Snapshot.SourceManifestEntry :=
  ⟨fun e => .object (serializeFields manifestEntryFieldNames (manifestEntryFields e))⟩

def manifestFieldNames : List String :=
  ["schema_version", "project_path", "entries", "total_size", "sha256"]

def manifestFields (m : Snapshot.SourceManifest) : List (Option Json) :=
  [some (serialize m.schemaVersion), some (serialize m.projectPath), some (serialize m.entries),
    some (serialize m.totalSize), some (serialize m.sha256)]

instance : Serialize Snapshot.SourceManifest :=
  ⟨fun m => .object (serializeFields manifestFieldNames (manifestFields m))⟩

/-! ## Signing plan -/

instance : Serialize BundleIdentifier := ⟨fun identifier => .string identifier.value⟩
instance : Serialize EntitlementSet := ⟨fun entitlements => .object entitlements.values⟩

def SecretReference.fieldNames : List String := ["kind", "name"]

def SecretReference.fields (r : SecretReference) : List (Option Json) :=
  [some (serialize r.kind), some (serialize r.name)]

instance : Serialize SecretReference :=
  ⟨fun r => .object (serializeFields SecretReference.fieldNames r.fields)⟩

def DevelopmentTeam.fieldNames : List String := ["id", "display_name"]

def DevelopmentTeam.fields (t : DevelopmentTeam) : List (Option Json) :=
  [some (serialize t.id), some (nullable t.displayName)]

instance : Serialize DevelopmentTeam :=
  ⟨fun t => .object (serializeFields DevelopmentTeam.fieldNames t.fields)⟩

def DevelopmentTeamPlan.fieldNames : List String := ["expected"]

def DevelopmentTeamPlan.fields (p : DevelopmentTeamPlan) : List (Option Json) :=
  [some (serialize p.expected)]

instance : Serialize DevelopmentTeamPlan :=
  ⟨fun p => .object (serializeFields DevelopmentTeamPlan.fieldNames p.fields)⟩

def DevicePlan.fieldNames : List String := ["udid_sha256", "display_name"]

def DevicePlan.fields (p : DevicePlan) : List (Option Json) :=
  [some (serialize p.udidSha256), some (nullable p.displayName)]

instance : Serialize DevicePlan :=
  ⟨fun p => .object (serializeFields DevicePlan.fieldNames p.fields)⟩

def SigningCertificate.fieldNames : List String :=
  ["common_name", "sha256_fingerprint", "team", "expires_at_unix_seconds"]

def SigningCertificate.fields (c : SigningCertificate) : List (Option Json) :=
  [some (serialize c.commonName), some (serialize c.sha256Fingerprint), some (serialize c.team),
    some (serialize c.expiresAtUnixSeconds)]

instance : Serialize SigningCertificate :=
  ⟨fun c => .object (serializeFields SigningCertificate.fieldNames c.fields)⟩

def SigningPrivateKeyReference.fieldNames : List String := ["reference"]

def SigningPrivateKeyReference.fields (r : SigningPrivateKeyReference) : List (Option Json) :=
  [some (serialize r.reference)]

instance : Serialize SigningPrivateKeyReference :=
  ⟨fun r => .object (serializeFields SigningPrivateKeyReference.fieldNames r.fields)⟩

def SigningIdentity.fieldNames : List String := ["certificate", "private_key"]

def SigningIdentity.fields (i : SigningIdentity) : List (Option Json) :=
  [some (serialize i.certificate), some (serialize i.privateKey)]

instance : Serialize SigningIdentity :=
  ⟨fun i => .object (serializeFields SigningIdentity.fieldNames i.fields)⟩

def SigningReference.fieldNames : List String := ["identity", "password"]

def SigningReference.fields (r : SigningReference) : List (Option Json) :=
  [some (serialize r.identity), some (nullable r.password)]

instance : Serialize SigningReference :=
  ⟨fun r => .object (serializeFields SigningReference.fieldNames r.fields)⟩

def SigningTarget.fieldNames : List String := ["name", "bundle_identifier", "kind"]

def SigningTarget.fields (t : SigningTarget) : List (Option Json) :=
  [some (serialize t.name), some (serialize t.bundleIdentifier), some (serialize t.kind)]

instance : Serialize SigningTarget :=
  ⟨fun t => .object (serializeFields SigningTarget.fieldNames t.fields)⟩

def ProvisioningPlan.fieldNames : List String := ["target", "profile", "profile_type"]

def ProvisioningPlan.fields (p : ProvisioningPlan) : List (Option Json) :=
  [some (serialize p.target), some (serialize p.profile), some (serialize p.profileType)]

instance : Serialize ProvisioningPlan :=
  ⟨fun p => .object (serializeFields ProvisioningPlan.fieldNames p.fields)⟩

def EntitlementPlan.fieldNames : List String := ["target", "required"]

def EntitlementPlan.fields (p : EntitlementPlan) : List (Option Json) :=
  [some (serialize p.target), some (serialize p.required)]

instance : Serialize EntitlementPlan :=
  ⟨fun p => .object (serializeFields EntitlementPlan.fieldNames p.fields)⟩

def SigningPlan.fieldNames : List String :=
  ["mode", "signing", "team", "device", "targets", "provisioning", "entitlements",
    "allow_provisioning_updates"]

def SigningPlan.fields (p : SigningPlan) : List (Option Json) :=
  [some (serialize p.mode), some (nullable p.signing), some (nullable p.team),
    some (nullable p.device), some (serialize p.targets), some (serialize p.provisioning),
    some (serialize p.entitlements), some (serialize p.allowProvisioningUpdates)]

instance : Serialize SigningPlan :=
  ⟨fun p => .object (serializeFields SigningPlan.fieldNames p.fields)⟩

/-! ## The request -/

def IosDeviceBuildRequest.fieldNames : List String :=
  ["protocol_version", "operation_id", "product_name", "bundle_identifier",
    "minimum_ios_version", "product", "profile", "source_mode", "source_repository",
    "source_revision", "source", "signing", "requested_artifacts"]

def IosDeviceBuildRequest.fields (r : IosDeviceBuildRequest) : List (Option Json) :=
  [some (serialize r.protocolVersion), some (serialize r.operationId),
    some (serialize r.productName), some (serialize r.bundleIdentifier),
    some (serialize r.minimumIosVersion), some (serialize r.product), some (serialize r.profile),
    some (serialize r.sourceMode), skipNone r.sourceRepository, skipNone r.sourceRevision,
    some (serialize r.source), some (serialize r.signing), some (serialize r.requestedArtifacts)]

instance : Serialize IosDeviceBuildRequest :=
  ⟨fun r => .object (serializeFields IosDeviceBuildRequest.fieldNames r.fields)⟩

def toVec {α : Type} [Serialize α] (value : α) : List UInt8 :=
  Text.utf8 (String.ofList (serialize value).print)

/-! ## Canonical bytes -/

/-- Serialize one validated request using the protocol's deterministic field order. -/
def canonicalRequestBytes (tools : RequestTools) (request : IosDeviceBuildRequest) :
    RequestResult (List UInt8) := do
  request.validate tools
  return toVec request

/-- Lowercase SHA-256 of the canonical bytes. -/
def canonicalRequestSha256 (tools : RequestTools) (request : IosDeviceBuildRequest) :
    RequestResult String := do
  return tools.inspection.sha256 (← canonicalRequestBytes tools request)

/-- `rustferry-retry-template-v1` and a zero byte. -/
def retryTemplateDomain : List UInt8 := Text.utf8 "rustferry-retry-template-v1" ++ [0]

def operationIdPlaceholder : String := "semantic-retry-template-v1"

/-- The bytes that the retry identity hashes: the domain, then the request with the
    placeholder in place of its operation identifier. -/
def canonicalRetryTemplateBytesV1 (tools : RequestTools) (request : IosDeviceBuildRequest) :
    RequestResult (List UInt8) := do
  request.validate tools
  let template := { request with operationId := operationIdPlaceholder }
  return retryTemplateDomain ++ (← canonicalRequestBytes tools template)

/-- The semantic retry SHA-256 of one validated request. -/
def canonicalRetryTemplateSha256V1 (tools : RequestTools) (request : IosDeviceBuildRequest) :
    RequestResult String := do
  return tools.inspection.sha256 (← canonicalRetryTemplateBytesV1 tools request)

/-- The bytes that a Git snapshot descriptor hashes: the validated request without its source
    revision. A request that has none yet is validated with a placeholder. -/
def canonicalGitSnapshotRequestTemplateBytes (tools : RequestTools)
    (request : IosDeviceBuildRequest) : RequestResult (List UInt8) := do
  rejectIf (request.sourceMode != .gitSnapshot)
    (invalidRequest "Git snapshot template requires Git snapshot source mode")
  let revision := request.sourceRevision.getD (String.ofList (List.replicate 40 '0'))
  let validated := { request with sourceRevision := some revision }
  validated.validate tools
  return toVec { validated with sourceRevision := none }

/-- The canonical request-template SHA-256 embedded in a Git snapshot descriptor. -/
def canonicalGitSnapshotRequestTemplateSha256 (tools : RequestTools)
    (request : IosDeviceBuildRequest) : RequestResult String := do
  return tools.inspection.sha256 (← canonicalGitSnapshotRequestTemplateBytes tools request)

end RustFerry.Remote
