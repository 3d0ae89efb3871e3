import RustFerry.ForStd.Prog
import RustFerry.Native.SnapshotSession

/-!
# Worker snapshot session

One-shot framed snapshot-build worker session
(`crates/rustferry-worker-macos/src/snapshot_session.rs`, on Unix) as a program over the
operations it performs: reading and writing frames, the job root directory, the compiler,
the control channel, and the local steps that can only succeed or fail. The control
monitor is a second program, started by `spawnMonitor`. The output is the worker's
`BoundedSessionOutput` (`session_output.rs`): once a write or flush has failed, it fails.
-/

namespace RustFerry.Snapshot

open Remote ProgM
open DataPlane (WorkerDataPlaneFrameKind WorkerDataPlaneFrameError)
open DataPlane.WorkerDataPlaneSequence (checkedSucc)

/-! ## Failures -/

/-- Public failure of a session. -/
structure SessionFailure where
  code : String
  message : String
  retryable : Bool

/-- Stable secret-free compile adapter failure. -/
structure SnapshotCompileFailure where
  code : String
  message : String
  retryable : Bool

/-- A failed read, and whether an input deadline has passed. -/
structure ReadFailure where
  error : WorkerDataPlaneFrameError
  timedOut : Bool

namespace SessionFailure

def invalid (code : String) : SessionFailure :=
  ⟨code, "snapshot session input was rejected", false⟩

def internal (code : String) : SessionFailure :=
  ⟨code, "snapshot worker could not complete the build", false⟩

def output (code : String) : SessionFailure :=
  ⟨code, "snapshot worker transport could not complete", true⟩

def cleanup (code : String) : SessionFailure :=
  ⟨code, "snapshot worker cleanup could not be confirmed", false⟩

def cancelled : SessionFailure :=
  ⟨"snapshot_build_cancelled", "snapshot build was cancelled", true⟩

def frame : WorkerDataPlaneFrameError → SessionFailure
  | .io => output "session_io_failed"
  | .emptyInput | .truncatedHeader | .truncatedPayload => output "session_input_truncated"
  | _ => invalid "session_frame_invalid"

def compile (error : SnapshotCompileFailure) : SessionFailure :=
  ⟨error.code, error.message, error.retryable⟩

end SessionFailure

def ReadFailure.frameFailure (failure : ReadFailure) : SessionFailure :=
  if failure.timedOut then .output "session_input_timed_out" else .frame failure.error

/-- Failure to complete a structured response on worker stdout. -/
inductive SnapshotSessionServeError where
  | output

/-! ## Operations -/

/-- An open directory. -/
abbrev DirectoryHandle := Nat

/-- What `same_file` compares of an open file. -/
abbrev FileIdentity := Nat

/-- What became of `remove_open_dir_all`. -/
inductive Removal where
  | removed
  | notFound
  | failed
  deriving DecidableEq

/-- Local steps of the worker that succeed or fail. -/
inductive LocalStep where
  | spawnInputReader
  | canonicalWorkerRoot
  | workerRootPermissions
  | openWorkerRoot
  | jobRootMetadata
  | encodeMarker
  | createMarker
  | writeMarker
  | syncJobRoot
  | jobRootUnchanged
  | createSourceArchive
  | syncSourceArchive
  | cloneJobRoot
  | extractSource
  | removeSourceArchive
  | createOutputDirectory
  | artifactMetadata
  | artifactRegular
  | artifactOpen
  | artifactIdentity
  | artifactUnchanged
  deriving DecidableEq

/-- Complete public handoff of the compile phase. -/
structure CompileHandoff where
  schemaVersion : UInt32
  request : IosDeviceBuildRequest
  compile : CompilePhaseEvidence

/-- Exact public output returned by a snapshot compiler adapter. -/
structure SnapshotCompileOutput where
  handoff : CompileHandoff
  artifactPath : String

/-- What the control monitor reports. -/
inductive ClientControl where
  | receipt (payload : ClientMessage)
  | cancelled
  | disconnected
  | failure (failure : SessionFailure)

/-- Why no control message was received. -/
inductive ReceiveFailure where
  | timeout
  | disconnected

/-- What became of a streamed artifact: the bytes that were sent, or an error of the
    file or of the output. -/
inductive Streamed where
  | sent (bytes : List UInt8)
  | failed (error : WorkerDataPlaneFrameError) (outputFailed : Bool)

/-- An operation of the worker's main thread. -/
inductive WorkerOp where
  | step (step : LocalStep)
  | readHeader
  | readPayload
  | newUuid
  | clock
  | createDirectory (name : String)
  | directoryIdentity (directory : DirectoryHandle)
  | removeTree (directory : DirectoryHandle)
  | isUnlinked (identity : FileIdentity)
  | syncWorkerRoot
  | spawnMonitor (sequence : Option UInt64)
  | write (frame : Frame ServerMessage)
  | streamArtifact (sequence : UInt64) (size : UInt64)
  | flush
  | compile (request : IosDeviceBuildRequest) (jobId : String)
  | isCancelled
  | tryReceiveControl
  | receiveControl
  | allowReceipt

abbrev WorkerRes : WorkerOp → Type
  | .step _ => Bool
  | .readHeader => Except ReadFailure FrameHeader
  | .readPayload => Except ReadFailure ClientMessage
  | .newUuid => String
  | .clock => UInt64
  | .createDirectory _ => Option DirectoryHandle
  | .directoryIdentity _ => Option FileIdentity
  | .removeTree _ => Removal
  | .isUnlinked _ => Option Bool
  | .syncWorkerRoot => Bool
  | .spawnMonitor _ => Bool
  | .write _ => Except WorkerDataPlaneFrameError Unit
  | .streamArtifact _ _ => Streamed
  | .flush => Bool
  | .compile _ _ => Except SnapshotCompileFailure SnapshotCompileOutput
  | .isCancelled => Bool
  | .tryReceiveControl => Option ClientControl
  | .receiveControl => Except ReceiveFailure ClientControl
  | .allowReceipt => Unit

/-- Perform an operation of the worker. -/
abbrev worker {σ ε : Type} (op : WorkerOp) : ProgM WorkerOp WorkerRes σ ε (WorkerRes op) :=
  perform op

/-! ## Job root -/

/-- Ownership of the job root directory. -/
structure JobRootGuard where
  directory : Option DirectoryHandle
  identity : Option FileIdentity
  owned : Bool

/-- Perform a local step that fails with the given failure. -/
def localStep {σ : Type} (step : LocalStep) (failure : SessionFailure) :
    ProgM WorkerOp WorkerRes σ SessionFailure Unit := do
  let done ← worker (.step step)
  ensure done failure

namespace JobRootGuard

/-- Remove the tree through its open directory. The guard gives up the directory before
    the removal, and its ownership only when the directory is known to be unlinked. -/
def cleanup : ProgM WorkerOp WorkerRes JobRootGuard SessionFailure Unit := do
  let guard ← get
  ensure guard.owned (.cleanup "job_root_changed")
  let identity ← ofOption (.cleanup "job_root_changed") guard.identity
  let directory ← ofOption (.cleanup "job_root_changed") guard.directory
  modify fun guard => { guard with directory := none }
  let current ← worker (.directoryIdentity directory)
  -- another directory has the name: the guard keeps its handle
  if current ≠ some identity then
    modify fun guard => { guard with directory := some directory }
    fail (.cleanup "job_root_changed")
  modify fun guard => { guard with identity := none }
  let removal ← worker (.removeTree directory)
  ensure (removal ≠ .failed) (.cleanup "worker_cleanup_failed")
  let unlinked ← worker (.isUnlinked identity)
  ensure (unlinked = some true) (.cleanup "worker_cleanup_failed")
  modify fun guard => { guard with owned := false }
  -- the root is gone by now, whatever this answers
  let synced ← worker .syncWorkerRoot
  ensure synced (.cleanup "worker_cleanup_failed")

/-- `Drop`. -/
def drop (guard : JobRootGuard) : Prog WorkerOp WorkerRes Unit :=
  if guard.owned then (cleanup guard).bind fun _ => .ret () else .ret ()

/-- Give a guard up with an error: clean up, without looking at the outcome, and drop. -/
def abandon {σ α : Type} (guard : JobRootGuard) (error : SessionFailure) :
    ProgM WorkerOp WorkerRes σ SessionFailure α := do
  let (_, guard) ← lift (cleanup guard)
  lift guard.drop
  fail error

/-- `validate_worker_root` and the open worker root. -/
def validateWorkerRoot {σ : Type} : ProgM WorkerOp WorkerRes σ SessionFailure Unit := do
  localStep .canonicalWorkerRoot (.internal "worker_root_invalid")
  localStep .workerRootPermissions (.internal "worker_root_permissions_invalid")
  localStep .openWorkerRoot (.internal "worker_root_invalid")

/-- Write the marker file of the job. -/
def writeMarker {σ : Type} : ProgM WorkerOp WorkerRes σ SessionFailure Unit := do
  localStep .encodeMarker (.internal "job_marker_failed")
  localStep .createMarker (.internal "worker_file_create_failed")
  localStep .writeMarker (.internal "job_marker_failed")
  localStep .syncJobRoot (.internal "worker_directory_sync_failed")

/-- Create the job root directory below the worker root, with its marker. A directory
    that cannot be used is removed, without looking at the outcome. -/
def create {σ : Type} (jobId : String) :
    ProgM WorkerOp WorkerRes σ SessionFailure JobRootGuard := do
  validateWorkerRoot
  let created ← worker (.createDirectory ("rustferry-compile-" ++ jobId))
  let directory ← ofOption (.internal "job_root_create_failed") created
  match ← worker (.directoryIdentity directory) with
  | none =>
    let _ ← worker (.removeTree directory)
    fail (.internal "job_root_create_failed")
  | some identity =>
    if !(← worker (.step .jobRootMetadata)) then
      let _ ← worker (.removeTree directory)
      fail (.internal "job_root_create_failed")
    else
      let guard : JobRootGuard := ⟨some directory, some identity, true⟩
      match ← attempt writeMarker with
      | .ok () => return guard
      | .error error => guard.abandon error

/-- The job root is still the directory that was created. -/
def verify {σ : Type} (guard : JobRootGuard) : ProgM WorkerOp WorkerRes σ SessionFailure Unit := do
  ensure guard.directory.isSome (.cleanup "job_root_changed")
  ensure guard.identity.isSome (.cleanup "job_root_changed")
  ensure guard.owned (.cleanup "job_root_changed")
  localStep .jobRootUnchanged (.cleanup "job_root_changed")

def cloneDirectoryHandle {σ : Type} (guard : JobRootGuard) :
    ProgM WorkerOp WorkerRes σ SessionFailure Unit := do
  guard.verify
  localStep .cloneJobRoot (.cleanup "job_root_changed")

end JobRootGuard

/-! ## Session -/

/-- State of a session; `outputFailed` is the flag of its `BoundedSessionOutput`. -/
structure Session where
  outputSequence : UInt64
  eventSequence : UInt64
  operationId : Option String
  jobId : Option String
  root : Option JobRootGuard
  outputFailed : Bool

def Session.new : Session := ⟨0, 0, none, none, none, false⟩

abbrev WorkerM := ProgM WorkerOp WorkerRes Session SessionFailure

/-- Write one message as the next frame. -/
def writeJson (message : ServerMessage) : WorkerM Unit := do
  let session ← get
  ensure (!session.outputFailed) (.frame .io)
  match ← worker (.write ⟨session.outputSequence, message⟩) with
  | .error error =>
    -- a frame over its limit is refused before anything is written
    modify fun session => { session with outputFailed := error == .io }
    fail (.frame error)
  | .ok () =>
    let next ← ofOption (.internal "output_sequence_exhausted")
      (checkedSucc session.outputSequence)
    modify fun session => { session with outputSequence := next }

def flushOutput : WorkerM Unit := do
  let session ← get
  ensure (!session.outputFailed) (.output "output_flush_failed")
  if !(← worker .flush) then
    modify fun session => { session with outputFailed := true }
    fail (.output "output_flush_failed")

/-- `RemoteBuildEvent::new`. -/
def newEvent (rules : SessionRules) (operationId jobId : String) (timestampMs : UInt64)
    (phase : String) (sequence : UInt64) (kind : RemoteBuildEventKind) :
    RemoteBuildResult RemoteBuildEvent := do
  let event : RemoteBuildEvent := {
    protocolVersion := currentProtocolVersion
    operationId, jobId, timestampMs, provider := sshProviderId, phase, sequence, kind }
  event.validate rules.parseUrl
  return event

def emitEvent (rules : SessionRules) (request : IosDeviceBuildRequest) (phase : String)
    (kind : RemoteBuildEventKind) : WorkerM Unit := do
  let session ← get
  let jobId ← ofOption (.internal "job_id_missing") session.jobId
  let now ← worker .clock
  let event ← ofOption (.internal "event_invalid")
    (newEvent rules request.operationId jobId now phase session.eventSequence kind).toOption
  let next ← ofOption (.internal "event_sequence_exhausted") (checkedSucc session.eventSequence)
  modify fun session => { session with eventSequence := next }
  writeJson (.event event)

/-- Stream the sealed archive as one frame, and check what was read of it. -/
def streamArtifact (rules : SessionRules) (descriptor : SnapshotArtifactDescriptor) :
    WorkerM Unit := do
  localStep .artifactMetadata (.internal "artifact_open_failed")
  localStep .artifactRegular (.internal "artifact_not_regular")
  localStep .artifactOpen (.internal "artifact_open_failed")
  localStep .artifactIdentity (.internal "artifact_identity_mismatch")
  let session ← get
  ensure (!session.outputFailed) (.frame .io)
  match ← worker (.streamArtifact session.outputSequence descriptor.artifact.size) with
  | .failed error outputFailed =>
    modify fun session => { session with outputFailed }
    fail (.frame error)
  | .sent bytes =>
    let next ← ofOption (.internal "output_sequence_exhausted")
      (checkedSucc session.outputSequence)
    modify fun session => { session with outputSequence := next }
    ensure (bytes.length == descriptor.artifact.size.toNat &&
      rules.sha256 bytes == descriptor.artifact.sha256) (.internal "artifact_changed_during_stream")
    localStep .artifactUnchanged (.internal "artifact_changed_during_stream")

/-- Remove the job root and confirm it; the guard is kept when this fails. -/
def cleanupRoot : WorkerM CleanupConfirmation := do
  let session ← get
  let jobId ← ofOption (.internal "job_id_missing") session.jobId
  let root ← ofOption (.internal "job_root_missing") session.root
  modify fun session => { session with root := none }
  match ← lift (JobRootGuard.cleanup root) with
  | (.error error, root) =>
    modify fun session => { session with root := some root }
    fail error
  | (.ok (), root) =>
    lift root.drop
    let now ← worker .clock
    return {
      jobId, completedAtMs := now, workspaceRemoved := true, signingMaterialRemoved := true
      artifactsRetained := false }

/-! ## Input -/

/-- Read the next header, in sequence and of the expected kind. -/
def readExpectedHeader (sequence : Option UInt64) (expected : WorkerDataPlaneFrameKind) :
    WorkerM (FrameHeader × Option UInt64) := do
  match ← worker .readHeader with
  | .error failure => fail failure.frameFailure
  | .ok header =>
    match acceptSequence sequence header with
    | .error error => fail (.frame error)
    | .ok next =>
      ensure (header.kind = expected) (.invalid "unexpected_frame_kind")
      return (header, next)

/-- The payload of the frame whose header was read last. A JSON payload that does not
    decode to the message of that header is some other message. -/
def readPayload : WorkerM ClientMessage := do
  match ← worker .readPayload with
  | .error failure => fail failure.frameFailure
  | .ok message => return message

/-- The build request and the source descriptor. -/
def receiveRequest (rules : SessionRules) :
    WorkerM (IosDeviceBuildRequest × SourceBundleDescriptor × Option UInt64) := do
  localStep .spawnInputReader (.internal "input_reader_failed")
  let (_, sequence) ← readExpectedHeader (some 0) .buildRequest
  match ← readPayload with
  | .buildRequest start =>
    ensure (start.sourceDescriptorSize ≤ maxSnapshotSessionDescriptorBytes)
      (.invalid "source_descriptor_too_large")
    ensure (start.validate rules).toBool (.invalid "snapshot_start_invalid")
    -- from here on an error frame names the operation
    modify fun session => { session with operationId := some start.parameters.operationId }
    let (header, sequence) ← readExpectedHeader sequence .sourceDescriptor
    ensure (header.payloadBytes == start.sourceDescriptorSize)
      (.invalid "source_descriptor_size_mismatch")
    ensure (header.payloadBytes ≤ maxSnapshotSessionDescriptorBytes)
      (.invalid "source_descriptor_too_large")
    let payload ← readPayload
    let bytes := payload.bytes?.getD []
    ensure (rules.sha256 bytes == start.sourceDescriptorSha256)
      (.invalid "source_descriptor_digest_mismatch")
    let descriptor ← ofOption (.invalid "source_descriptor_invalid") (rules.parseDescriptor bytes)
    let request ← ofOption (.invalid "snapshot_request_invalid")
      (start.reconstructRequest rules descriptor).toOption
    return (request, descriptor, sequence)
  | _ => fail (.invalid "control_json_invalid")

/-- `self.root.as_ref().ok_or_else(..)`. -/
def jobRoot : WorkerM JobRootGuard := do
  let session ← get
  ofOption (.internal "job_root_missing") session.root

/-- Copy the archive payload to its file and compare it with the descriptor. -/
def receiveSourceArchive (rules : SessionRules) (descriptor : SourceBundleDescriptor) :
    WorkerM Unit := do
  localStep .createSourceArchive (.internal "worker_file_create_failed")
  let payload ← readPayload
  let bytes := payload.bytes?.getD []
  localStep .syncSourceArchive (.internal "source_archive_write_failed")
  ensure (bytes.length == descriptor.archive.size.toNat &&
    rules.sha256 bytes == descriptor.archive.sha256) (.invalid "source_archive_digest_mismatch")

/-- Create the job root; from here on the session has a job. -/
def createJobRoot : WorkerM String := do
  let uuid ← worker .newUuid
  let jobId := "ssh-" ++ uuid
  let root ← JobRootGuard.create jobId
  modify fun session => { session with jobId := some jobId, root := some root }
  return jobId

/-- The source archive, extracted below the job root, and the control monitor. -/
def receiveSource (rules : SessionRules) (descriptor : SourceBundleDescriptor)
    (sequence : Option UInt64) : WorkerM Unit := do
  let (header, sequence) ← readExpectedHeader sequence .sourceArchive
  ensure (header.payloadBytes == descriptor.archive.size) (.invalid "source_archive_size_mismatch")
  let root ← jobRoot
  root.verify
  receiveSourceArchive rules descriptor
  let root ← jobRoot
  root.verify
  root.cloneDirectoryHandle
  localStep .extractSource (.invalid "source_archive_invalid")
  localStep .removeSourceArchive (.internal "source_archive_cleanup_failed")
  root.verify
  localStep .createOutputDirectory (.internal "worker_directory_create_failed")
  let spawned ← worker (.spawnMonitor sequence)
  ensure spawned (.internal "control_reader_failed")

/-! ## Run -/

/-- Accept the job and announce the build. -/
def announceJob (rules : SessionRules) (request : IosDeviceBuildRequest)
    (descriptor : SourceBundleDescriptor) (jobId : String) : WorkerM Unit := do
  let now ← worker .clock
  let accepted ← ofOption (.internal "job_acceptance_invalid")
    (SnapshotJobAccepted.new request.operationId jobId now).toOption
  writeJson (.jobAccepted accepted)
  emitEvent rules request "operation" (.operationStarted "worker.ssh_snapshot_build")
  emitEvent rules request "accepted" (.jobCreated .created)
  emitEvent rules request "accepted" (.workerAssigned sshStdioWorkerId)
  emitEvent rules request "source"
    (.sourcePrepared (UInt64.ofNat request.source.entries.length) request.source.totalSize)
  emitEvent rules request "source" (.sourceUploadStarted descriptor.archive.size)
  emitEvent rules request "source"
    (.sourceUploadProgress descriptor.archive.size descriptor.archive.size)
  emitEvent rules request "source" (.sourceVerified request.source.sha256)
  emitEvent rules request "build"
    (.phaseStarted (some "Compiling unsigned physical-iPhone archive"))
  flushOutput

/-- The failure of a cancelled build. -/
def cancellationFailure : WorkerM SessionFailure := do
  match ← worker .tryReceiveControl with
  | some (.failure failure) => return failure
  | _ => return .cancelled

/-- `output_directory.join(UNSIGNED_ARCHIVE_NAME)`. -/
def unsignedArchivePath (workerRoot jobId : String) : String :=
  workerRoot ++ "/rustferry-compile-" ++ jobId ++ "/artifacts/unsigned-archive.zip"

def validateCompileOutput (rules : SessionRules) (workerRoot : String)
    (request : IosDeviceBuildRequest) (jobId : String) (output : SnapshotCompileOutput) :
    WorkerM Unit := do
  ensure (output.artifactPath == unsignedArchivePath workerRoot jobId &&
      output.handoff.schemaVersion == compileHandoffSchemaVersion &&
      output.handoff.request = request && output.handoff.compile.jobId == jobId &&
      output.handoff.compile.provider == sshProviderId &&
      output.handoff.compile.sourceSha256 == request.source.sha256)
    (.internal "compile_evidence_mismatch")
  let digest ← ofOption (.internal "request_digest_failed") (rules.canonicalRequestSha256 request)
  ensure (output.handoff.compile.requestSha256 == digest) (.internal "compile_evidence_mismatch")

/-- The compiled output, checked against the request. -/
def compiledOutput (rules : SessionRules) (workerRoot : String) (request : IosDeviceBuildRequest)
    (jobId : String) :
    Except SnapshotCompileFailure SnapshotCompileOutput → WorkerM SnapshotCompileOutput
  | .error error => fail (.compile error)
  | .ok output => do
    validateCompileOutput rules workerRoot request jobId output
    return output

/-- Compile, unless the client has cancelled meanwhile. -/
def compileArchive (rules : SessionRules) (workerRoot : String) (request : IosDeviceBuildRequest)
    (jobId : String) : WorkerM SnapshotCompileOutput := do
  let compiled ← worker (.compile request jobId)
  let cancelled ← worker .isCancelled
  if cancelled then
    let failure ← cancellationFailure
    fail failure
  else compiledOutput rules workerRoot request jobId compiled

/-- The descriptor of the sealed archive and its bytes. -/
def offerArtifact (rules : SessionRules) (request : IosDeviceBuildRequest)
    (output : SnapshotCompileOutput) : WorkerM SnapshotArtifactDescriptor := do
  let transport := output.handoff.compile.transport
  let artifact : ArtifactRecord := {
    artifactId := "unsigned-xcarchive"
    kind := .xcarchive
    fileName := "unsigned-archive.zip"
    size := transport.size
    sha256 := transport.sha256
    mediaType := some "application/zip" }
  let descriptor ← ofOption (.internal "artifact_descriptor_invalid")
    (SnapshotArtifactDescriptor.new rules request.operationId artifact
      output.handoff.compile).toOption
  emitEvent rules request "artifact"
    (.artifactCreated descriptor.artifact.artifactId .xcarchive)
  emitEvent rules request "artifact"
    (.artifactUploadStarted descriptor.artifact.artifactId descriptor.artifact.size)
  writeJson (.artifactDescriptor descriptor)
  streamArtifact rules descriptor
  return descriptor

def waitForReceipt : WorkerM ClientMessage := do
  match ← worker .receiveControl with
  | .ok (.receipt payload) => return payload
  | .ok .cancelled | .ok .disconnected => fail .cancelled
  | .ok (.failure failure) => fail failure
  | .error .timeout => fail (.output "artifact_receipt_timed_out")
  | .error .disconnected => fail (.internal "control_reader_stopped")

/-- Let the monitor queue a receipt, and act on it only after the flush. -/
def awaitReceipt (rules : SessionRules) (descriptor : SnapshotArtifactDescriptor) :
    WorkerM Unit := do
  worker .allowReceipt
  flushOutput
  match ← waitForReceipt with
  | .artifactReceipt receipt =>
    ensure (receipt.validateFor rules descriptor).toBool (.invalid "artifact_receipt_mismatch")
  | _ => fail (.invalid "artifact_receipt_invalid")

/-- Clean up and complete. -/
def finishSuccess (rules : SessionRules) (request : IosDeviceBuildRequest) : WorkerM Unit := do
  emitEvent rules request "cleanup" .cleanupStarted
  let cleanup ← cleanupRoot
  emitEvent rules request "cleanup" (.cleanupFinished cleanup)
  let complete ← ofOption (.internal "completion_invalid")
    (SnapshotBuildComplete.new request.operationId cleanup).toOption
  writeJson (.complete complete)
  flushOutput

def Session.run (rules : SessionRules) (workerRoot : String) : WorkerM Unit := do
  let (request, descriptor, sequence) ← receiveRequest rules
  let jobId ← createJobRoot
  receiveSource rules descriptor sequence
  announceJob rules request descriptor jobId
  let output ← compileArchive rules workerRoot request jobId
  let artifact ← offerArtifact rules request output
  awaitReceipt rules artifact
  finishSuccess rules request

/-- Write the failure and its cleanup to the client. -/
def reportFailure (failure : SessionFailure) (cleanup : Option CleanupConfirmation) :
    ProgM WorkerOp WorkerRes Session SnapshotSessionServeError Unit := do
  let session ← get
  let error ← ofOption .output
    (SnapshotSessionError.new session.operationId session.jobId failure.code failure.message
      failure.retryable cleanup).toOption
  let written ← attempt (writeJson (.error error))
  ensure written.toBool .output
  let flushed ← attempt flushOutput
  ensure flushed.toBool .output

/-- `Session::finish_failure`: clean up if there is something to clean, and report. -/
def Session.finishFailure (failure : SessionFailure) :
    ProgM WorkerOp WorkerRes Session SnapshotSessionServeError Unit := do
  let session ← get
  if session.root.any JobRootGuard.owned then
    match ← attempt cleanupRoot with
    | .ok cleanup => reportFailure failure (some cleanup)
    | .error _ => reportFailure (.cleanup "worker_cleanup_failed") none
  else reportFailure failure none

/-- The end of a run. -/
def finish (result : Except SessionFailure Unit) :
    ProgM WorkerOp WorkerRes Session SnapshotSessionServeError Unit :=
  match result with
  | .ok () => pure ()
  | .error failure => Session.finishFailure failure

def dropRoot (session : Session) : Prog WorkerOp WorkerRes Unit :=
  match session.root with
  | some root => root.drop
  | none => .ret ()

/-- `serve_snapshot_session`, with the drop of the session. -/
def serveSnapshotSession (rules : SessionRules) (workerRoot : String) :
    Prog WorkerOp WorkerRes (Except SnapshotSessionServeError Unit) :=
  (Session.run rules workerRoot Session.new).bind fun (result, session) =>
    (finish result session).bind fun (result, session) =>
      (dropRoot session).bind fun _ => .ret result

/-! ## Control monitor -/

/-- An operation of the control monitor. -/
inductive MonitorOp where
  | readHeader
  | readPayload
  | receiptAllowed
  | send (message : ClientControl)
  | cancel

abbrev MonitorRes : MonitorOp → Type
  | .readHeader => Except ReadFailure FrameHeader
  | .readPayload => Except ReadFailure ClientMessage
  | .receiptAllowed => Bool
  | .send _ => Unit
  | .cancel => Unit

/-- The one control message of the client. -/
def readClientControl (sequence : Option UInt64) : Prog MonitorOp MonitorRes ClientControl :=
  .call .readHeader fun
    | .error failure =>
      .ret (if failure.error = .emptyInput then .disconnected else .failure failure.frameFailure)
    | .ok header =>
      match acceptSequence sequence header with
      | .error error => .ret (.failure (.frame error))
      | .ok _ =>
        match header.kind with
        | .cancel => .call .readPayload fun
          | .ok .cancel => .ret .cancelled
          | .ok _ => .ret (.failure (.invalid "cancellation_payload_invalid"))
          | .error failure => .ret (.failure (.frame failure.error))
        -- the phase is looked at before the payload is read
        | .artifactReceipt => .call .receiptAllowed fun allowed =>
          if allowed then .call .readPayload fun
            | .ok payload => .ret (.receipt payload)
            | .error failure => .ret (.failure failure.frameFailure)
          else .ret (.failure (.invalid "artifact_receipt_too_early"))
        | _ => .ret (.failure (.invalid "unexpected_client_control"))

def monitorClientControl (sequence : Option UInt64) : Prog MonitorOp MonitorRes Unit :=
  (readClientControl sequence).bind fun message =>
    .call (.send message) fun _ =>
      match message with
      | .receipt _ => .ret ()
      | _ => .call .cancel fun _ => .ret ()

end RustFerry.Snapshot
