import RustFerry.Native.DeviceRequest

/-!
# Parameters of a snapshot build

The compact request of a snapshot session with all its fields
(`crates/rustferry-remote/src/snapshot_session.rs`): how a request is split into parameters
and a separately sent descriptor, how it is put together again, and how the worker binds the
descriptor it receives (`crates/rustferry-worker-macos/src/snapshot_session.rs`).
-/

namespace RustFerry.Remote

open Artifact Except Source

/-- Compact build fields sent before the separately framed source descriptor. -/
structure SnapshotBuildParameters where
  protocolVersion : ProtocolVersion
  operationId : String
  productName : String
  bundleIdentifier : String
  minimumIosVersion : String
  product : IosDeviceProductExpectation
  profile : BuildProfile
  signing : SigningPlan
  requestedArtifacts : Finset IosArtifactType

namespace SnapshotBuildParameters

def invalid (reason : String) : RequestError :=
  .remote (.invalidEventPayload "snapshot_build_parameters" reason)

/-! ## The checks of the session -/

/-- `validate_bundle_identifier` of the session, which is not the one of the request. -/
def validateBundleIdentifier (value : String) : RequestResult Unit :=
  let segments := Text.split '.' value.toList
  rejectIf (value.utf8ByteSize > 255 || segments.length < 2 || segments.any fun segment =>
      segment.isEmpty || segment.head? == some '-' || segment.getLast? == some '-' ||
        !segment.all fun c => c.isAlphanum || c == '-')
    (invalid "bundle identifier is invalid")

/-- `validate_ios_version` of the session. -/
def validateIosVersion (value : String) : RequestResult Unit :=
  let segments := Text.split '.' value.toList
  rejectIf (segments.length > 3 || segments.any fun component => component.isEmpty ||
      (component.length > 1 && component.head? == some '0') ||
      (Text.parseDigits (2 ^ 16) component).isNone)
    (invalid "minimum iOS version is invalid")

def requireUnsignedXcarchive (signing : SigningPlan)
    (requestedArtifacts : Finset IosArtifactType) : RequestResult Unit := do
  rejectIf (signing.mode != .unsignedCompileOnly)
    (invalid "snapshot session v1 supports unsigned compile-only builds")
  rejectIf (requestedArtifacts ≠ {.xcarchive})
    (invalid "snapshot session v1 returns exactly one Xcode archive")

def validateShape (self : SnapshotBuildParameters) : RequestResult Unit := do
  let _ ← (currentProtocolVersion.negotiate self.protocolVersion).mapError .remote
  (validateIdentifier "operation_id" self.operationId).mapError .remote
  (Snapshot.validatePublicText self.productName 255 "snapshot_build_parameters").mapError .remote
  validateBundleIdentifier self.bundleIdentifier
  validateIosVersion self.minimumIosVersion
  (Snapshot.validatePortableComponentWithLimit self.product.appDirectoryName 255).mapError .remote
  (Snapshot.validatePortableComponentWithLimit self.product.executable 255).mapError .remote
  self.signing.validate.mapError fun _ => invalid "unsigned signing plan is invalid"
  requireUnsignedXcarchive self.signing self.requestedArtifacts

/-! ## Splitting a request and putting it together -/

/-- Convert one complete request into compact snapshot-session parameters. -/
def fromRequest (tools : RequestTools) (request : IosDeviceBuildRequest) :
    RequestResult SnapshotBuildParameters := do
  request.validate tools
  rejectIf (request.sourceMode != .snapshot)
    (invalid "snapshot session requires snapshot source mode")
  requireUnsignedXcarchive request.signing request.requestedArtifacts
  let parameters : SnapshotBuildParameters := {
    protocolVersion := request.protocolVersion
    operationId := request.operationId
    productName := request.productName
    bundleIdentifier := request.bundleIdentifier
    minimumIosVersion := request.minimumIosVersion
    product := request.product
    profile := request.profile
    signing := request.signing
    requestedArtifacts := request.requestedArtifacts }
  parameters.validateShape
  return parameters

/-- The request that the parameters and a manifest make. -/
def toRequest (self : SnapshotBuildParameters) (source : Snapshot.SourceManifest) :
    IosDeviceBuildRequest where
  protocolVersion := self.protocolVersion
  operationId := self.operationId
  productName := self.productName
  bundleIdentifier := self.bundleIdentifier
  minimumIosVersion := self.minimumIosVersion
  product := self.product
  profile := self.profile
  sourceMode := .snapshot
  sourceRepository := none
  sourceRevision := none
  source := source
  signing := self.signing
  requestedArtifacts := self.requestedArtifacts

/-- Reconstruct and fully validate a request using one separately received descriptor. -/
def reconstructRequest (tools : RequestTools) (self : SnapshotBuildParameters)
    (descriptor : Snapshot.SourceBundleDescriptor) (limits : SourceArchiveLimits) :
    RequestResult IosDeviceBuildRequest := do
  self.validateShape
  (validateDescriptor tools.source descriptor limits).mapError
    fun _ => invalid "source bundle descriptor is invalid"
  let request := self.toRequest descriptor.manifest
  request.validate tools
  requireUnsignedXcarchive request.signing request.requestedArtifacts
  return request

end SnapshotBuildParameters

/-! ## The start of a session -/

/-- Initial control frame for one snapshot-build session. -/
structure SnapshotBuildStart where
  schemaVersion : UInt32
  parameters : SnapshotBuildParameters
  sourceDescriptorSize : UInt64
  sourceDescriptorSha256 : String
  sourceArchive : Snapshot.SourceArchive

namespace SnapshotBuildStart

def invalid (reason : String) : RequestError :=
  .remote (.invalidEventPayload "snapshot_build_start" reason)

/-- Validate the bounded transfer declaration before reading large payloads. -/
def validate (self : SnapshotBuildStart) : RequestResult Unit := do
  (Snapshot.requireSchema self.schemaVersion "snapshot_build_start").mapError .remote
  self.parameters.validateShape
  rejectIf (self.sourceDescriptorSize == 0 ||
      self.sourceDescriptorSize > Snapshot.maxSnapshotSessionDescriptorBytes)
    (invalid "source descriptor size is outside the fixed limit")
  (Snapshot.validateSha256 self.sourceDescriptorSha256 "snapshot_build_start").mapError .remote
  (Snapshot.validateTransferArchive self.sourceArchive DataPlane.maxWorkerDataPlaneSourceBytes
    "snapshot_build_start").mapError .remote

/-- Construct one bounded source-transfer declaration. -/
def new (parameters : SnapshotBuildParameters) (sourceDescriptorSize : UInt64)
    (sourceDescriptorSha256 : String) (sourceArchive : Snapshot.SourceArchive) :
    RequestResult SnapshotBuildStart := do
  let start : SnapshotBuildStart := {
    schemaVersion := Snapshot.snapshotSessionSchemaVersion
    parameters
    sourceDescriptorSize
    sourceDescriptorSha256
    sourceArchive }
  start.validate
  return start

/-- Bind the received descriptor to the declared archive and reconstruct the full request. -/
def reconstructRequest (tools : RequestTools) (self : SnapshotBuildStart)
    (descriptor : Snapshot.SourceBundleDescriptor) (limits : SourceArchiveLimits) :
    RequestResult IosDeviceBuildRequest := do
  self.validate
  (validateDescriptor tools.source descriptor limits).mapError
    fun _ => invalid "source bundle descriptor is invalid"
  rejectIf (descriptor.archive != self.sourceArchive)
    (invalid "source archive declaration does not match the descriptor")
  self.parameters.reconstructRequest tools descriptor limits

/-- What the worker does with the payload of the descriptor frame; `parse` is the reader of
    JSON. The error is the code of the failure. -/
def receiveDescriptor (tools : RequestTools)
    (parse : List UInt8 → Option Snapshot.SourceBundleDescriptor) (self : SnapshotBuildStart)
    (payload : List UInt8) : Except String (IosDeviceBuildRequest × Snapshot.SourceBundleDescriptor) := do
  rejectIf (self.sourceDescriptorSize > Snapshot.maxSnapshotSessionDescriptorBytes)
    "source_descriptor_too_large"
  self.validate.mapError fun _ => "snapshot_start_invalid"
  rejectIf (payload.length != self.sourceDescriptorSize.toNat) "source_descriptor_size_mismatch"
  rejectIf (payload.length > Snapshot.maxSnapshotSessionDescriptorBytes.toNat)
    "source_descriptor_too_large"
  rejectIf (tools.inspection.sha256 payload != self.sourceDescriptorSha256)
    "source_descriptor_digest_mismatch"
  match parse payload with
  | none => .error "source_descriptor_invalid"
  | some descriptor => do
    let request ← (self.reconstructRequest tools descriptor .default).mapError
      fun _ => "snapshot_request_invalid"
    return (request, descriptor)

end SnapshotBuildStart

end RustFerry.Remote
