import RustFerry.ForStd.Except
import RustFerry.Native.Protocol

/-!
# Snapshot-session messages

Control messages of one framed SSH snapshot-build session
(`crates/rustferry-remote/src/snapshot_session.rs`) and the frames that carry them. A
frame holds its message as a value: the byte level is `DataPlane`. Of the build request
and the compile evidence the session only looks at the fields modelled here; the rest is
passed on as JSON text, and the checks on it are the parameters in `SessionRules`.
-/

namespace RustFerry.Snapshot

open Remote Except
open DataPlane (WorkerDataPlaneFrameKind WorkerDataPlaneFrameError WorkerDataPlaneFrameHeader)

/-- Current schema for snapshot-session control messages. -/
def snapshotSessionSchemaVersion : UInt32 := 1

/-- Maximum source-descriptor JSON size accepted by the interactive snapshot session. -/
def maxSnapshotSessionDescriptorBytes : UInt64 := 8 * 1024 * 1024

def maxPublicErrorCodeBytes : Nat := 96
def maxPublicErrorMessageBytes : Nat := 512
def maxArtifactFileNameBytes : Nat := 255
def maxMediaTypeBytes : Nat := 128

/-- The provider of the SSH session, `SSH_PROVIDER_ID` and `SSH_STDIO_PROVIDER_ID`. -/
def sshProviderId : String := "ssh-macos"

/-- `SSH_STDIO_WORKER_ID`. -/
def sshStdioWorkerId : String := "macos-stdio"

/-- `COMPILE_HANDOFF_SCHEMA_VERSION`. -/
def compileHandoffSchemaVersion : UInt32 := 1

/-! ## Build request -/

/-- Integrity descriptor for the deterministic source ZIP transport. -/
structure SourceArchive where
  size : UInt64
  sha256 : String
  deriving DecidableEq

/-- One file represented in a source snapshot. -/
structure SourceManifestEntry where
  path : String
  size : UInt64
  sha256 : String
  executable : Bool
  deriving DecidableEq

/-- Canonical description of a source snapshot. -/
structure SourceManifest where
  schemaVersion : UInt32
  projectPath : String
  entries : List SourceManifestEntry
  totalSize : UInt64
  sha256 : String
  deriving DecidableEq

/-- Versioned binding between one deterministic source ZIP and its manifest. -/
structure SourceBundleDescriptor where
  schemaVersion : UInt32
  archive : SourceArchive
  manifest : SourceManifest

/-- Compact build fields sent before the separately framed source descriptor; `build` is
    the text of the product, profile, signing and artifact fields. -/
structure SnapshotBuildParameters where
  protocolVersion : ProtocolVersion
  operationId : String
  build : String

/-- Initial control frame for one snapshot-build session. -/
structure SnapshotBuildStart where
  schemaVersion : UInt32
  parameters : SnapshotBuildParameters
  sourceDescriptorSize : UInt64
  sourceDescriptorSha256 : String
  sourceArchive : SourceArchive

/-- A request for a physical-iPhone build from a source snapshot. -/
structure IosDeviceBuildRequest where
  protocolVersion : ProtocolVersion
  operationId : String
  build : String
  source : SourceManifest
  deriving DecidableEq

/-! ## Worker messages -/

/-- Worker acknowledgement after allocating one snapshot job. -/
structure SnapshotJobAccepted where
  schemaVersion : UInt32
  protocolVersion : ProtocolVersion
  operationId : String
  jobId : String
  state : JobState
  createdAtMs : UInt64

/-- Public evidence of the compile phase; `transport` is the transport of the sealed
    archive and `details` is the text of the fields the session does not look at. -/
structure CompilePhaseEvidence where
  jobId : String
  provider : String
  requestSha256 : String
  sourceSha256 : String
  transport : SourceArchive
  details : String

/-- Exact unsigned archive record and compile evidence preceding artifact bytes. -/
structure SnapshotArtifactDescriptor where
  schemaVersion : UInt32
  protocolVersion : ProtocolVersion
  operationId : String
  jobId : String
  artifact : ArtifactRecord
  compile : CompilePhaseEvidence

/-- Successful terminal message emitted only after verified client receipt and cleanup. -/
structure SnapshotBuildComplete where
  schemaVersion : UInt32
  protocolVersion : ProtocolVersion
  operationId : String
  jobId : String
  cleanup : CleanupConfirmation

/-- Stable, secret-free terminal or pre-job session failure. -/
structure SnapshotSessionError where
  schemaVersion : UInt32
  protocolVersion : ProtocolVersion
  operationId : Option String
  jobId : Option String
  code : String
  message : String
  retryable : Bool
  cleanup : Option CleanupConfirmation
  deriving DecidableEq

/-- Client acknowledgement after exact artifact bytes are safely verified. -/
structure SnapshotArtifactReceipt where
  schemaVersion : UInt32
  protocolVersion : ProtocolVersion
  operationId : String
  jobId : String
  artifactId : String
  size : UInt64
  sha256 : String
  localPath : ProtocolPath

/-! ## Frames -/

/-- A message of the client. The source descriptor and the source archive are bytes. -/
inductive ClientMessage where
  | buildRequest (start : SnapshotBuildStart)
  | sourceDescriptor (bytes : List UInt8)
  | sourceArchive (bytes : List UInt8)
  | artifactReceipt (receipt : SnapshotArtifactReceipt)
  | cancel

/-- A message of the worker. The artifact is bytes. -/
inductive ServerMessage where
  | jobAccepted (accepted : SnapshotJobAccepted)
  | event (event : RemoteBuildEvent)
  | artifactDescriptor (descriptor : SnapshotArtifactDescriptor)
  | artifact (bytes : List UInt8)
  | complete (complete : SnapshotBuildComplete)
  | error (error : SnapshotSessionError)

/-- A message with its position in the stream. -/
structure Frame (M : Type) where
  sequence : UInt64
  message : M

/-- What a reader sees of a frame before its payload. -/
structure FrameHeader where
  kind : WorkerDataPlaneFrameKind
  sequence : UInt64
  payloadBytes : UInt64

def ClientMessage.kind : ClientMessage → WorkerDataPlaneFrameKind
  | .buildRequest _ => .buildRequest
  | .sourceDescriptor _ => .sourceDescriptor
  | .sourceArchive _ => .sourceArchive
  | .artifactReceipt _ => .artifactReceipt
  | .cancel => .cancel

def ServerMessage.kind : ServerMessage → WorkerDataPlaneFrameKind
  | .jobAccepted _ => .jobAccepted
  | .event _ => .event
  | .artifactDescriptor _ => .artifactDescriptor
  | .artifact _ => .artifact
  | .complete _ => .complete
  | .error _ => .error

/-- The bytes of a message that is not JSON. -/
def ClientMessage.bytes? : ClientMessage → Option (List UInt8)
  | .sourceDescriptor bytes | .sourceArchive bytes => some bytes
  | _ => none

def ServerMessage.bytes? : ServerMessage → Option (List UInt8)
  | .artifact bytes => some bytes
  | _ => none

/-- Accept exactly the next header in this direction (`WorkerDataPlaneSequence::accept`). -/
def acceptSequence (next : Option UInt64) (header : FrameHeader) :
    Except WorkerDataPlaneFrameError (Option UInt64) :=
  match next with
  | none => .error .sequenceExhausted
  | some expected =>
    if header.sequence ≠ expected then .error (.unexpectedSequence expected header.sequence)
    else .ok (DataPlane.WorkerDataPlaneSequence.checkedSucc expected)

/-! ## Validation -/

/-- What the session uses of the rest of the program and of its libraries: the checks on
    the build parameters, the request, the descriptor and the compile evidence, the digest
    of a request, the JSON reader of the descriptor, SHA-256 as lowercase hexadecimal, and
    the URL parser. -/
structure SessionRules where
  validateShape : SnapshotBuildParameters → Bool
  validateDescriptor : SourceBundleDescriptor → Bool
  validateRequest : IosDeviceBuildRequest → Bool
  canonicalRequestSha256 : IosDeviceBuildRequest → Option String
  validateCompileEvidence : CompilePhaseEvidence → Bool
  parseDescriptor : List UInt8 → Option SourceBundleDescriptor
  sha256 : List UInt8 → String
  parseUrl : ParseUrl

def invalid (event reason : String) : RemoteBuildError := .invalidEventPayload event reason

def requireSchema (version : UInt32) (event : String) : RemoteBuildResult Unit :=
  rejectIf (version != snapshotSessionSchemaVersion)
    (invalid event "snapshot session schema is unsupported")

def validateSha256 (value event : String) : RemoteBuildResult Unit :=
  rejectIf (!(value.utf8ByteSize == 64 && value.toList.all fun c =>
      c.isDigit || ('a' ≤ c && c ≤ 'f')))
    (invalid event "SHA-256 must be lowercase hexadecimal")

def validatePublicIdentifier (value : String) (maximum : Nat) (event : String) :
    RemoteBuildResult Unit :=
  rejectIf (!(value != "" && value.utf8ByteSize ≤ maximum && value.toList.all fun c =>
      c.isAlphanum || c == '-' || c == '_' || c == '.' || c == ':'))
    (invalid event "public identifier is invalid")

def validatePublicText (value : String) (maximum : Nat) (event : String) :
    RemoteBuildResult Unit :=
  rejectIf (!(value != "" && value.utf8ByteSize ≤ maximum && !value.toList.any Text.isControl))
    (invalid event "public text is empty, oversized, or contains controls")

def validateTransferArchive (archive : SourceArchive) (maximum : UInt64) (event : String) :
    RemoteBuildResult Unit := do
  rejectIf (archive.size == 0 || archive.size > maximum)
    (invalid event "transfer size is outside the fixed limit")
  validateSha256 archive.sha256 event

def validatePortableComponentWithLimit (value : String) (maximum : Nat) :
    RemoteBuildResult Unit :=
  rejectIf (value == "" || value.utf8ByteSize > maximum || value == "." || value == ".." ||
      value.toList.any (fun c => ['/', '\\', ':', '*', '?', '"', '<', '>', '|'].contains c ||
        c.toNat == 0) ||
      value.toList.getLast? == some '.' || value.toList.getLast? == some ' ' ||
      value.toList.any Text.isControl)
    (invalid "snapshot_artifact_descriptor" "filename component is not portable")

/-- Validate the bounded transfer declaration before reading large payloads. -/
def SnapshotBuildStart.validate (rules : SessionRules) (self : SnapshotBuildStart) :
    RemoteBuildResult Unit := do
  requireSchema self.schemaVersion "snapshot_build_start"
  rejectIf (!rules.validateShape self.parameters)
    (invalid "snapshot_build_parameters" "compact parameters are invalid")
  rejectIf (self.sourceDescriptorSize == 0 ||
      self.sourceDescriptorSize > maxSnapshotSessionDescriptorBytes)
    (invalid "snapshot_build_start" "source descriptor size is outside the fixed limit")
  validateSha256 self.sourceDescriptorSha256 "snapshot_build_start"
  validateTransferArchive self.sourceArchive DataPlane.maxWorkerDataPlaneSourceBytes
    "snapshot_build_start"

/-- Reconstruct and fully validate a request using one separately received descriptor. -/
def SnapshotBuildParameters.reconstructRequest (rules : SessionRules)
    (self : SnapshotBuildParameters) (descriptor : SourceBundleDescriptor) :
    RemoteBuildResult IosDeviceBuildRequest := do
  rejectIf (!rules.validateShape self)
    (invalid "snapshot_build_parameters" "compact parameters are invalid")
  rejectIf (!rules.validateDescriptor descriptor)
    (invalid "snapshot_build_parameters" "source bundle descriptor is invalid")
  let request : IosDeviceBuildRequest := {
    protocolVersion := self.protocolVersion
    operationId := self.operationId
    build := self.build
    source := descriptor.manifest }
  rejectIf (!rules.validateRequest request)
    (invalid "ios_device_build_request" "request is invalid")
  return request

/-- Bind the received descriptor to the declared archive and reconstruct the full request. -/
def SnapshotBuildStart.reconstructRequest (rules : SessionRules) (self : SnapshotBuildStart)
    (descriptor : SourceBundleDescriptor) : RemoteBuildResult IosDeviceBuildRequest := do
  self.validate rules
  rejectIf (!rules.validateDescriptor descriptor)
    (invalid "snapshot_build_start" "source bundle descriptor is invalid")
  rejectIf (descriptor.archive != self.sourceArchive)
    (invalid "snapshot_build_start" "source archive declaration does not match the descriptor")
  self.parameters.reconstructRequest rules descriptor

/-- Validate schema, protocol, identity, and initial-state invariants. -/
def SnapshotJobAccepted.validate (self : SnapshotJobAccepted) : RemoteBuildResult Unit := do
  requireSchema self.schemaVersion "snapshot_job_accepted"
  let _ ← currentProtocolVersion.negotiate self.protocolVersion
  validateIdentifier "operation_id" self.operationId
  validateIdentifier "job_id" self.jobId
  rejectIf (self.state != .created)
    (invalid "snapshot_job_accepted" "accepted job state must be created")

/-- Construct one initial job acknowledgement. -/
def SnapshotJobAccepted.new (operationId jobId : String) (createdAtMs : UInt64) :
    RemoteBuildResult SnapshotJobAccepted := do
  let accepted : SnapshotJobAccepted := {
    schemaVersion := snapshotSessionSchemaVersion
    protocolVersion := currentProtocolVersion
    operationId, jobId, state := .created, createdAtMs }
  accepted.validate
  return accepted

def validateArtifactRecord (record : ArtifactRecord) : RemoteBuildResult Unit := do
  validateIdentifier "artifact_id" record.artifactId
  rejectIf (record.kind != .xcarchive)
    (invalid "snapshot_artifact_descriptor" "artifact kind must be xcarchive")
  validatePortableComponentWithLimit record.fileName maxArtifactFileNameBytes
  rejectIf (!(".zip".toList).isSuffixOf (record.fileName.toList.map Char.toLower))
    (invalid "snapshot_artifact_descriptor" "xcarchive transport filename must end with .zip")
  rejectIf (record.size == 0 || record.size > DataPlane.maxWorkerDataPlaneArtifactBytes)
    (invalid "snapshot_artifact_descriptor" "artifact size is outside the fixed limit")
  validateSha256 record.sha256 "snapshot_artifact_descriptor"
  match record.mediaType with
  | some mediaType =>
    validatePublicText mediaType maxMediaTypeBytes "snapshot_artifact_descriptor"
  | none => .ok ()

/-- Validate exact unsigned-XCArchive artifact and public compile evidence. -/
def SnapshotArtifactDescriptor.validate (rules : SessionRules)
    (self : SnapshotArtifactDescriptor) : RemoteBuildResult Unit := do
  requireSchema self.schemaVersion "snapshot_artifact_descriptor"
  let _ ← currentProtocolVersion.negotiate self.protocolVersion
  validateIdentifier "operation_id" self.operationId
  validateIdentifier "job_id" self.jobId
  validateArtifactRecord self.artifact
  rejectIf (!rules.validateCompileEvidence self.compile)
    (invalid "snapshot_artifact_descriptor" "compile evidence is invalid")
  rejectIf (self.compile.jobId != self.jobId || self.compile.transport.size != self.artifact.size ||
      self.compile.transport.sha256 != self.artifact.sha256)
    (invalid "snapshot_artifact_descriptor" "artifact record does not match compile evidence")

/-- Construct an artifact descriptor bound to compile evidence. -/
def SnapshotArtifactDescriptor.new (rules : SessionRules) (operationId : String)
    (artifact : ArtifactRecord) (compile : CompilePhaseEvidence) :
    RemoteBuildResult SnapshotArtifactDescriptor := do
  let descriptor : SnapshotArtifactDescriptor := {
    schemaVersion := snapshotSessionSchemaVersion
    protocolVersion := currentProtocolVersion
    operationId, jobId := compile.jobId, artifact, compile }
  descriptor.validate rules
  return descriptor

/-- Validate the receipt against the exact offered artifact. -/
def SnapshotArtifactReceipt.validateFor (rules : SessionRules) (self : SnapshotArtifactReceipt)
    (descriptor : SnapshotArtifactDescriptor) : RemoteBuildResult Unit := do
  requireSchema self.schemaVersion "snapshot_artifact_receipt"
  let _ ← currentProtocolVersion.negotiate self.protocolVersion
  validateIdentifier "operation_id" self.operationId
  validateIdentifier "job_id" self.jobId
  validateIdentifier "artifact_id" self.artifactId
  validateSha256 self.sha256 "snapshot_artifact_receipt"
  self.localPath.validate rules.parseUrl
  rejectIf (self.localPath.semantics != .clientAbsolute)
    (invalid "snapshot_artifact_receipt" "receipt path must be client_absolute")
  descriptor.validate rules
  rejectIf (self.protocolVersion != descriptor.protocolVersion ||
      self.operationId != descriptor.operationId || self.jobId != descriptor.jobId ||
      self.artifactId != descriptor.artifact.artifactId ||
      self.size != descriptor.artifact.size || self.sha256 != descriptor.artifact.sha256)
    (invalid "snapshot_artifact_receipt" "receipt does not match the offered artifact")

/-- Construct a receipt from a validated descriptor and client path. -/
def SnapshotArtifactReceipt.new (rules : SessionRules) (descriptor : SnapshotArtifactDescriptor)
    (localPath : ProtocolPath) : RemoteBuildResult SnapshotArtifactReceipt := do
  descriptor.validate rules
  let receipt : SnapshotArtifactReceipt := {
    schemaVersion := snapshotSessionSchemaVersion
    protocolVersion := descriptor.protocolVersion
    operationId := descriptor.operationId
    jobId := descriptor.jobId
    artifactId := descriptor.artifact.artifactId
    size := descriptor.artifact.size
    sha256 := descriptor.artifact.sha256
    localPath }
  receipt.validateFor rules descriptor
  return receipt

/-- Validate that terminal success includes complete non-retaining cleanup. -/
def SnapshotBuildComplete.validate (self : SnapshotBuildComplete) : RemoteBuildResult Unit := do
  requireSchema self.schemaVersion "snapshot_build_complete"
  let _ ← currentProtocolVersion.negotiate self.protocolVersion
  validateIdentifier "operation_id" self.operationId
  validateIdentifier "job_id" self.jobId
  rejectIf (self.cleanup.jobId != self.jobId || !self.cleanup.workspaceRemoved ||
      !self.cleanup.signingMaterialRemoved || self.cleanup.artifactsRetained)
    (invalid "snapshot_build_complete" "successful completion requires non-retaining cleanup proof")

/-- Construct one successful terminal message. -/
def SnapshotBuildComplete.new (operationId : String) (cleanup : CleanupConfirmation) :
    RemoteBuildResult SnapshotBuildComplete := do
  let complete : SnapshotBuildComplete := {
    schemaVersion := snapshotSessionSchemaVersion
    protocolVersion := currentProtocolVersion
    operationId, jobId := cleanup.jobId, cleanup }
  complete.validate
  return complete

/-- Validate bounded public failure fields and optional cleanup identity. -/
def SnapshotSessionError.validate (self : SnapshotSessionError) : RemoteBuildResult Unit := do
  requireSchema self.schemaVersion "snapshot_session_error"
  let _ ← currentProtocolVersion.negotiate self.protocolVersion
  match self.operationId with
  | some operationId => validateIdentifier "operation_id" operationId
  | none => .ok ()
  match self.jobId with
  | some jobId => validateIdentifier "job_id" jobId
  | none => .ok ()
  validatePublicIdentifier self.code maxPublicErrorCodeBytes "snapshot_session_error"
  validatePublicText self.message maxPublicErrorMessageBytes "snapshot_session_error"
  match self.cleanup with
  | some cleanup =>
    rejectIf (self.jobId != some cleanup.jobId)
      (invalid "snapshot_session_error" "cleanup proof does not match the failed job")
  | none => .ok ()

/-- Construct one bounded, public session failure. -/
def SnapshotSessionError.new (operationId jobId : Option String) (code message : String)
    (retryable : Bool) (cleanup : Option CleanupConfirmation) :
    RemoteBuildResult SnapshotSessionError := do
  let error : SnapshotSessionError := {
    schemaVersion := snapshotSessionSchemaVersion
    protocolVersion := currentProtocolVersion
    operationId, jobId, code, message, retryable, cleanup }
  error.validate
  return error

end RustFerry.Snapshot
