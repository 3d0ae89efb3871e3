import RustFerry.ForStd.Serde

/-!
# Artifact manifest

The manifest that binds source, worker, signing and downloaded bytes
(`crates/rustferry-remote/src/artifact.rs`), with the signing enums it carries
(`signing.rs`), and how they are written as JSON.
-/

namespace RustFerry.Remote

open Serde

/-! ## Enumerations -/

/-- Supported Apple signing mode. -/
inductive SigningMode where
  | unsignedCompileOnly
  | development
  | manualDevelopment
  | personalTeam
  | adHoc
  | appStore
  deriving DecidableEq

/-- Whether this mode produces a signed artifact. -/
def SigningMode.isSigned (mode : SigningMode) : Bool := mode ≠ .unsignedCompileOnly

def SigningMode.name : SigningMode → String
  | .unsignedCompileOnly => "unsigned-compile-only"
  | .development => "development"
  | .manualDevelopment => "manual-development"
  | .personalTeam => "personal-team"
  | .adHoc => "ad-hoc"
  | .appStore => "app-store"

instance : Serialize SigningMode := ⟨fun mode => .string mode.name⟩

instance : Deserialize SigningMode where
  deserialize := deserializeEnum
    ([.unsignedCompileOnly, .development, .manualDevelopment, .personalTeam, .adHoc,
      .appStore].map fun mode => (mode.name, mode))

/-- Fine-grained signing progress. -/
inductive SigningStatus where
  | unsigned
  | certificateValidated
  | profileValidated
  | nestedCodeSigned
  | applicationSigned
  | ipaExported
  | artifactValidated
  | invalid
  deriving DecidableEq

def SigningStatus.name : SigningStatus → String
  | .unsigned => "unsigned"
  | .certificateValidated => "certificate_validated"
  | .profileValidated => "profile_validated"
  | .nestedCodeSigned => "nested_code_signed"
  | .applicationSigned => "application_signed"
  | .ipaExported => "ipa_exported"
  | .artifactValidated => "artifact_validated"
  | .invalid => "invalid"

instance : Serialize SigningStatus := ⟨fun status => .string status.name⟩

instance : Deserialize SigningStatus where
  deserialize := deserializeEnum
    ([.unsigned, .certificateValidated, .profileValidated, .nestedCodeSigned,
      .applicationSigned, .ipaExported, .artifactValidated, .invalid].map
      fun status => (status.name, status))

/-- One validation level proven by a concrete build or inspection step. -/
inductive ValidationLevel where
  | sourceValidated
  | remoteBuilderValidated
  | deviceTargetCompiled
  | deviceBinaryBuilt
  | appBundleBuilt
  | archiveBuilt
  | certificateValidated
  | provisioningValidated
  | nestedCodeSigned
  | applicationSigned
  | ipaExported
  | artifactValidated
  | downloadedToClient
  | installValidated
  | launchValidated
  | runtimeValidated
  deriving DecidableEq

/-- Levels are ordered as they are declared. -/
instance : LinearOrder ValidationLevel :=
  LinearOrder.lift' ValidationLevel.ctorIdx (by
    intro a b h
    cases a <;> cases b <;> first | rfl | cases h)

def ValidationLevel.name : ValidationLevel → String
  | .sourceValidated => "source_validated"
  | .remoteBuilderValidated => "remote_builder_validated"
  | .deviceTargetCompiled => "device_target_compiled"
  | .deviceBinaryBuilt => "device_binary_built"
  | .appBundleBuilt => "app_bundle_built"
  | .archiveBuilt => "archive_built"
  | .certificateValidated => "certificate_validated"
  | .provisioningValidated => "provisioning_validated"
  | .nestedCodeSigned => "nested_code_signed"
  | .applicationSigned => "application_signed"
  | .ipaExported => "ipa_exported"
  | .artifactValidated => "artifact_validated"
  | .downloadedToClient => "downloaded_to_client"
  | .installValidated => "install_validated"
  | .launchValidated => "launch_validated"
  | .runtimeValidated => "runtime_validated"

instance : Serialize ValidationLevel := ⟨fun level => .string level.name⟩

instance : Deserialize ValidationLevel where
  deserialize := deserializeEnum
    ([.sourceValidated, .remoteBuilderValidated, .deviceTargetCompiled, .deviceBinaryBuilt,
      .appBundleBuilt, .archiveBuilt, .certificateValidated, .provisioningValidated,
      .nestedCodeSigned, .applicationSigned, .ipaExported, .artifactValidated,
      .downloadedToClient, .installValidated, .launchValidated, .runtimeValidated].map
      fun level => (level.name, level))

/-- Artifact kind returned by a remote build. -/
inductive ArtifactKind where
  | app
  | xcarchive
  | ipa
  | dsym
  | manifest
  | signingReport
  | validationReport
  | sanitizedLog
  deriving DecidableEq

def ArtifactKind.name : ArtifactKind → String
  | .app => "app"
  | .xcarchive => "xcarchive"
  | .ipa => "ipa"
  | .dsym => "dsym"
  | .manifest => "manifest"
  | .signingReport => "signing_report"
  | .validationReport => "validation_report"
  | .sanitizedLog => "sanitized_log"

instance : Serialize ArtifactKind := ⟨fun kind => .string kind.name⟩

instance : Deserialize ArtifactKind where
  deserialize := deserializeEnum
    ([.app, .xcarchive, .ipa, .dsym, .manifest, .signingReport, .validationReport,
      .sanitizedLog].map fun kind => (kind.name, kind))

/-- Cleanup result from the remote worker. -/
inductive CleanupStatus where
  | pending
  | confirmed
  | warning
  | failed
  deriving DecidableEq

def CleanupStatus.name : CleanupStatus → String
  | .pending => "pending"
  | .confirmed => "confirmed"
  | .warning => "warning"
  | .failed => "failed"

instance : Serialize CleanupStatus := ⟨fun status => .string status.name⟩

instance : Deserialize CleanupStatus where
  deserialize := deserializeEnum
    ([.pending, .confirmed, .warning, .failed].map fun status => (status.name, status))

/-! ## Records -/

/-- One downloadable artifact and its integrity metadata. -/
structure ArtifactRecord where
  artifactId : String
  kind : ArtifactKind
  fileName : String
  size : UInt64
  sha256 : String
  mediaType : Option String
  deriving DecidableEq

def ArtifactRecord.fieldNames : List String :=
  ["artifact_id", "kind", "file_name", "size", "sha256", "media_type"]

def ArtifactRecord.fields (r : ArtifactRecord) : List (Option Json) :=
  [some (serialize r.artifactId), some (serialize r.kind), some (serialize r.fileName),
    some (serialize r.size), some (serialize r.sha256), some (nullable r.mediaType)]

instance : Serialize ArtifactRecord :=
  ⟨fun r => .object (serializeFields ArtifactRecord.fieldNames r.fields)⟩

def ArtifactRecord.ofFields : List (Option Json) → Option ArtifactRecord
  | [artifactId, kind, fileName, size, sha256, mediaType] => do
    return {
      artifactId := ← requiredField artifactId, kind := ← requiredField kind
      fileName := ← requiredField fileName, size := ← requiredField size
      sha256 := ← requiredField sha256, mediaType := ← optionalField mediaType }
  | _ => none

instance : Deserialize ArtifactRecord :=
  ⟨fun v => (deserializeStruct ArtifactRecord.fieldNames true v).bind ArtifactRecord.ofFields⟩

/-- Worker and Apple toolchain evidence. -/
structure AppleToolchainEvidence where
  workerOs : String
  workerArchitecture : String
  xcodeVersion : String
  iphoneosSdkVersion : String
  rustVersion : String
  rustTarget : String
  deriving DecidableEq

def AppleToolchainEvidence.fieldNames : List String :=
  ["worker_os", "worker_architecture", "xcode_version", "iphoneos_sdk_version", "rust_version",
    "rust_target"]

def AppleToolchainEvidence.fields (e : AppleToolchainEvidence) : List (Option Json) :=
  [some (serialize e.workerOs), some (serialize e.workerArchitecture),
    some (serialize e.xcodeVersion), some (serialize e.iphoneosSdkVersion),
    some (serialize e.rustVersion), some (serialize e.rustTarget)]

instance : Serialize AppleToolchainEvidence :=
  ⟨fun e => .object (serializeFields AppleToolchainEvidence.fieldNames e.fields)⟩

def AppleToolchainEvidence.ofFields : List (Option Json) → Option AppleToolchainEvidence
  | [workerOs, workerArchitecture, xcodeVersion, iphoneosSdkVersion, rustVersion,
    rustTarget] => do
    return {
      workerOs := ← requiredField workerOs
      workerArchitecture := ← requiredField workerArchitecture
      xcodeVersion := ← requiredField xcodeVersion
      iphoneosSdkVersion := ← requiredField iphoneosSdkVersion
      rustVersion := ← requiredField rustVersion, rustTarget := ← requiredField rustTarget }
  | _ => none

instance : Deserialize AppleToolchainEvidence :=
  ⟨fun v =>
    (deserializeStruct AppleToolchainEvidence.fieldNames true v).bind AppleToolchainEvidence.ofFields⟩

/-- Public, non-secret signing evidence. -/
structure ArtifactSigningEvidence where
  mode : SigningMode
  status : SigningStatus
  teamId : Option String
  certificateFingerprint : Option String
  profileUuid : Option String
  profileExpiration : Option String
  entitlementsSha256 : Option String
  deriving DecidableEq

def ArtifactSigningEvidence.fieldNames : List String :=
  ["mode", "status", "team_id", "certificate_fingerprint", "profile_uuid",
    "profile_expiration", "entitlements_sha256"]

def ArtifactSigningEvidence.fields (e : ArtifactSigningEvidence) : List (Option Json) :=
  [some (serialize e.mode), some (serialize e.status), some (nullable e.teamId),
    some (nullable e.certificateFingerprint), some (nullable e.profileUuid),
    some (nullable e.profileExpiration), some (nullable e.entitlementsSha256)]

instance : Serialize ArtifactSigningEvidence :=
  ⟨fun e => .object (serializeFields ArtifactSigningEvidence.fieldNames e.fields)⟩

def ArtifactSigningEvidence.ofFields : List (Option Json) → Option ArtifactSigningEvidence
  | [mode, status, teamId, certificateFingerprint, profileUuid, profileExpiration,
    entitlementsSha256] => do
    return {
      mode := ← requiredField mode, status := ← requiredField status
      teamId := ← optionalField teamId
      certificateFingerprint := ← optionalField certificateFingerprint
      profileUuid := ← optionalField profileUuid
      profileExpiration := ← optionalField profileExpiration
      entitlementsSha256 := ← optionalField entitlementsSha256 }
  | _ => none

instance : Deserialize ArtifactSigningEvidence :=
  ⟨fun v =>
    (deserializeStruct ArtifactSigningEvidence.fieldNames true v).bind ArtifactSigningEvidence.ofFields⟩

/-- Immutable manifest binding source, worker, signing, and downloaded bytes. -/
structure ArtifactManifest where
  schemaVersion : UInt32
  operationId : String
  jobId : String
  projectId : String
  sourceRepository : Option String
  sourceRevision : Option String
  sourceSnapshot : Bool
  sourceSha256 : String
  cargoLockSha256 : String
  configSha256 : String
  rustferryVersion : String
  workerVersion : String
  provider : String
  toolchain : AppleToolchainEvidence
  appName : String
  appVersion : String
  buildNumber : String
  bundleIdentifier : String
  buildProfile : String
  architecture : String
  signing : ArtifactSigningEvidence
  extensions : List String
  artifacts : List ArtifactRecord
  validationLevels : Finset ValidationLevel
  startedAt : String
  finishedAt : String
  cleanupStatus : CleanupStatus
  deriving DecidableEq

def ArtifactManifest.fieldNames : List String :=
  ["schema_version", "operation_id", "job_id", "project_id", "source_repository",
    "source_revision", "source_snapshot", "source_sha256", "cargo_lock_sha256",
    "config_sha256", "rustferry_version", "worker_version", "provider", "toolchain",
    "app_name", "app_version", "build_number", "bundle_identifier", "build_profile",
    "architecture", "signing", "extensions", "artifacts", "validation_levels", "started_at",
    "finished_at", "cleanup_status"]

def ArtifactManifest.fields (m : ArtifactManifest) : List (Option Json) :=
  [some (serialize m.schemaVersion), some (serialize m.operationId), some (serialize m.jobId),
    some (serialize m.projectId), some (nullable m.sourceRepository),
    some (nullable m.sourceRevision), some (serialize m.sourceSnapshot),
    some (serialize m.sourceSha256), some (serialize m.cargoLockSha256),
    some (serialize m.configSha256), some (serialize m.rustferryVersion),
    some (serialize m.workerVersion), some (serialize m.provider),
    some (serialize m.toolchain), some (serialize m.appName), some (serialize m.appVersion),
    some (serialize m.buildNumber), some (serialize m.bundleIdentifier),
    some (serialize m.buildProfile), some (serialize m.architecture),
    some (serialize m.signing), some (serialize m.extensions),
    some (serialize m.artifacts), some (serialize m.validationLevels),
    some (serialize m.startedAt), some (serialize m.finishedAt),
    some (serialize m.cleanupStatus)]

instance : Serialize ArtifactManifest :=
  ⟨fun m => .object (serializeFields ArtifactManifest.fieldNames m.fields)⟩

def ArtifactManifest.ofFields : List (Option Json) → Option ArtifactManifest
  | [schemaVersion, operationId, jobId, projectId, sourceRepository, sourceRevision,
    sourceSnapshot, sourceSha256, cargoLockSha256, configSha256, rustferryVersion,
    workerVersion, provider, toolchain, appName, appVersion, buildNumber,
    bundleIdentifier, buildProfile, architecture, signing, extensions, artifacts,
    validationLevels, startedAt, finishedAt, cleanupStatus] => do
    return {
      schemaVersion := ← requiredField schemaVersion, operationId := ← requiredField operationId
      jobId := ← requiredField jobId, projectId := ← requiredField projectId
      sourceRepository := ← optionalField sourceRepository
      sourceRevision := ← optionalField sourceRevision
      sourceSnapshot := ← requiredField sourceSnapshot
      sourceSha256 := ← requiredField sourceSha256
      cargoLockSha256 := ← requiredField cargoLockSha256
      configSha256 := ← requiredField configSha256
      rustferryVersion := ← requiredField rustferryVersion
      workerVersion := ← requiredField workerVersion, provider := ← requiredField provider
      toolchain := ← requiredField toolchain, appName := ← requiredField appName
      appVersion := ← requiredField appVersion, buildNumber := ← requiredField buildNumber
      bundleIdentifier := ← requiredField bundleIdentifier
      buildProfile := ← requiredField buildProfile, architecture := ← requiredField architecture
      signing := ← requiredField signing, extensions := ← requiredField extensions
      artifacts := ← requiredField artifacts, validationLevels := ← requiredField validationLevels
      startedAt := ← requiredField startedAt, finishedAt := ← requiredField finishedAt
      cleanupStatus := ← requiredField cleanupStatus }
  | _ => none

instance : Deserialize ArtifactManifest :=
  ⟨fun v => (deserializeStruct ArtifactManifest.fieldNames true v).bind ArtifactManifest.ofFields⟩

end RustFerry.Remote
