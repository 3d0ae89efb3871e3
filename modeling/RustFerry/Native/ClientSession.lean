import RustFerry.ForStd.Prog
import RustFerry.Native.SnapshotSession

/-!
# Client snapshot session

Pure framed client for one SSH snapshot-build session (`crates/rustferry-ssh/src/session.rs`)
as a program over the operations it performs: reading and writing frames, the source files,
the artifact spool, and the two callbacks of its caller. A callback that panics unwinds the
session; this is the failure `unwound`, which no caller sees as an error.
-/

namespace RustFerry.Snapshot

open Remote ProgM
open DataPlane (WorkerDataPlaneFrameKind WorkerDataPlaneFrameError)
open DataPlane.WorkerDataPlaneSequence (checkedSucc)

/-! ## Results -/

/-- Stable fail-closed snapshot-session client failure. -/
inductive SnapshotSessionClientError where
  | dataPlane (error : WorkerDataPlaneFrameError)
  | invalidBuildStart
  | invalidSourceDescriptor
  | sourceDescriptorMismatch
  | sourceArchiveMismatch
  | sourceFileChanged
  | invalidControlFrame
  | unexpectedServerFrame (expected : String) (received : WorkerDataPlaneFrameKind)
  | jobIdentityMismatch
  | eventIdentityMismatch
  | eventSequenceMismatch
  | missingProgressEvent
  | artifactIdentityMismatch
  | compileEvidenceMismatch
  | artifactPayloadMismatch
  | artifactVerificationFailed
  | artifactPublicationFailed
  | artifactCommitNotAuthorized
  | artifactCleanupFailed
  | completionIdentityMismatch
  | server (error : SnapshotSessionError)
  | artifactSpoolInvalid
  | localIo
  | unwound
  deriving DecidableEq

/-- Validated terminal result of one snapshot session. -/
structure SnapshotSessionOutcome where
  accepted : SnapshotJobAccepted
  artifact : SnapshotArtifactDescriptor
  receipt : SnapshotArtifactReceipt
  complete : SnapshotBuildComplete

/-- The declaration of a build, and the check of its descriptor under the caller's limits. -/
structure SnapshotSessionRequest where
  start : SnapshotBuildStart
  validateDescriptor : SourceBundleDescriptor → Bool

/-! ## Operations -/

inductive SourceFile where
  | descriptor
  | archive

/-- What reading an open file to its end yields. -/
inductive FileRead where
  | bytes (bytes : List UInt8)
  | changed
  | unreadable
  | failed

/-- What became of a streamed source file. -/
inductive StreamedFile where
  | sent (bytes : List UInt8)
  | failed (error : WorkerDataPlaneFrameError)

/-- What the verifier of the caller returned. -/
inductive Verification where
  | published (path : ProtocolPath)
  | rejected
  | unwound

/-- Local steps of the client that succeed or fail. -/
inductive ClientStep where
  | seekSource
  | sourceMetadata
  | readBeyondSource
  | spoolMetadata
  | spoolNewLink
  | seekSpool
  | syncSpool
  | openPublication
  | syncPublication
  | authorizeCommit

/-- An operation of the client. -/
inductive ClientOp where
  | step (step : ClientStep)
  | readSource (file : SourceFile)
  | streamSource (file : SourceFile) (sequence : UInt64) (size : UInt64)
  | sourceUnchanged (file : SourceFile)
  | write (frame : Frame ClientMessage)
  | flush
  | readHeader
  | readPayload
  | deliver (event : RemoteBuildEvent)
  | verifyArtifact (descriptor : SnapshotArtifactDescriptor)
  | readSpool
  | readPublication (path : ProtocolPath)
  | cleanupSpool

abbrev ClientRes : ClientOp → Type
  | .step _ => Bool
  | .readSource _ => FileRead
  | .streamSource _ _ _ => StreamedFile
  | .sourceUnchanged _ => Bool
  | .write _ => Except WorkerDataPlaneFrameError Unit
  | .flush => Bool
  | .readHeader => Except WorkerDataPlaneFrameError FrameHeader
  | .readPayload => Except WorkerDataPlaneFrameError ServerMessage
  | .deliver _ => Bool
  | .verifyArtifact _ => Verification
  | .readSpool => FileRead
  | .readPublication _ => Option (List UInt8)
  | .cleanupSpool => Bool

inductive ClientOutputState where
  | uploading
  | cancelable
  | receiptStarted
  | receiptSent
  | cancelSent
  deriving DecidableEq

/-- `SnapshotSessionProgress`, and whether the `PreReceiptCancelGuard` is armed. -/
structure ClientOutput where
  progress : ClientOutputState
  armed : Bool

def ClientOutput.new : ClientOutput := ⟨.uploading, false⟩

def ClientOutput.canSendCancel (output : ClientOutput) : Bool := output.progress == .cancelable

abbrev ClientM := ProgM ClientOp ClientRes ClientOutput SnapshotSessionClientError

/-- Perform an operation of the client. -/
abbrev client {σ ε : Type} (op : ClientOp) : ProgM ClientOp ClientRes σ ε (ClientRes op) :=
  perform op

/-- Perform a local step that fails with the given error. -/
def clientStep (step : ClientStep) (error : SnapshotSessionClientError) : ClientM Unit := do
  let done ← client (.step step)
  ensure done error

/-! ## Upload -/

/-- What the session keeps of its request. -/
structure PreparedRequest where
  start : SnapshotBuildStart
  operationId : String
  protocolVersion : ProtocolVersion
  requestSha256 : String
  sourceSha256 : String

/-- The bytes of an open file have the expected size and digest. -/
def validateFileBytes (rules : SessionRules) (size : UInt64) (sha256 : String)
    (mismatch : SnapshotSessionClientError) : FileRead → ClientM Unit
  | .bytes bytes =>
    ensure (bytes.length == size.toNat && rules.sha256 bytes == sha256) mismatch
  | .changed => fail mismatch
  | .unreadable | .failed => fail .localIo

def validateOpenFileBytes (rules : SessionRules) (file : SourceFile) (size : UInt64)
    (sha256 : String) (mismatch : SnapshotSessionClientError) : ClientM Unit := do
  let read ← client (.readSource file)
  validateFileBytes rules size sha256 mismatch read

def parseValidatedDescriptor (rules : SessionRules) (size : UInt64) (sha256 : String) :
    ClientM SourceBundleDescriptor := do
  match ← client (.readSource .descriptor) with
  | .bytes bytes =>
    let descriptor ← ofOption .invalidSourceDescriptor (rules.parseDescriptor bytes)
    ensure (bytes.length == size.toNat && rules.sha256 bytes == sha256) .sourceDescriptorMismatch
    return descriptor
  | .changed => fail .sourceDescriptorMismatch
  | .unreadable => fail .invalidSourceDescriptor
  | .failed => fail .localIo

def prepareRequest (rules : SessionRules) (request : SnapshotSessionRequest) :
    ClientM PreparedRequest := do
  let start := request.start
  ensure (start.validate rules).toBool .invalidBuildStart
  validateOpenFileBytes rules .descriptor start.sourceDescriptorSize
    start.sourceDescriptorSha256 .sourceDescriptorMismatch
  validateOpenFileBytes rules .archive start.sourceArchive.size start.sourceArchive.sha256
    .sourceArchiveMismatch
  let descriptor ← parseValidatedDescriptor rules start.sourceDescriptorSize
    start.sourceDescriptorSha256
  let reconstructed ← ofOption .invalidSourceDescriptor
    (start.reconstructRequest { rules with validateDescriptor := request.validateDescriptor }
      descriptor).toOption
  let requestSha256 ← ofOption .invalidBuildStart (rules.canonicalRequestSha256 reconstructed)
  let protocolVersion ← ofOption .invalidBuildStart
    (currentProtocolVersion.negotiate reconstructed.protocolVersion).toOption
  clientStep .seekSource .localIo
  clientStep .seekSource .localIo
  return {
    start, operationId := reconstructed.operationId, protocolVersion, requestSha256
    sourceSha256 := reconstructed.source.sha256 }

/-- Write one message as one frame. -/
def writeJsonFrame (sequence : UInt64) (message : ClientMessage) : ClientM Unit := do
  match ← client (.write ⟨sequence, message⟩) with
  | .error error => fail (.dataPlane error)
  | .ok () => return ()

def SourceFile.kind : SourceFile → WorkerDataPlaneFrameKind
  | .descriptor => .sourceDescriptor
  | .archive => .sourceArchive

/-- Stream a file that was validated, and check that it did not change meanwhile. -/
def streamValidatedFile (rules : SessionRules) (sequence : UInt64) (file : SourceFile)
    (size : UInt64) (sha256 : String) (mismatch : SnapshotSessionClientError) : ClientM Unit := do
  validateOpenFileBytes rules file size sha256 mismatch
  clientStep .sourceMetadata .localIo
  clientStep .seekSource .localIo
  ensure (size ≤ file.kind.maximumPayloadBytes)
    (.dataPlane (.payloadTooLarge file.kind size file.kind.maximumPayloadBytes))
  match ← client (.streamSource file sequence size) with
  | .failed error => fail (.dataPlane error)
  | .sent bytes =>
    clientStep .readBeyondSource .localIo
    clientStep .sourceMetadata .localIo
    clientStep .seekSource .localIo
    let unchanged ← client (.sourceUnchanged file)
    ensure (unchanged && rules.sha256 bytes == sha256) .sourceFileChanged

def writeRequestFrames (rules : SessionRules) (start : SnapshotBuildStart) : ClientM Unit := do
  writeJsonFrame 0 (.buildRequest start)
  streamValidatedFile rules 1 .descriptor start.sourceDescriptorSize
    start.sourceDescriptorSha256 .sourceDescriptorMismatch
  streamValidatedFile rules 2 .archive start.sourceArchive.size start.sourceArchive.sha256
    .sourceArchiveMismatch

def flushClient : ClientM Unit := do
  let flushed ← client .flush
  ensure flushed (.dataPlane .io)

def validateNewLink : ClientM Unit := do
  clientStep .spoolMetadata .localIo
  clientStep .spoolNewLink .artifactSpoolInvalid

/-! ## Server frames -/

def readSequencedHeader (sequence : Option UInt64) :
    ClientM (FrameHeader × Option UInt64) := do
  match ← client .readHeader with
  | .error error => fail (.dataPlane error)
  | .ok header =>
    match acceptSequence sequence header with
    | .error error => fail (.dataPlane error)
    | .ok next => return (header, next)

/-- The payload of the frame whose header was read last. A JSON payload that does not
    decode to the message of that header is some other message. -/
def readServerMessage : ClientM ServerMessage := do
  match ← client .readPayload with
  | .error error => fail (.dataPlane error)
  | .ok message => return message

/-- The error carries the identity that the client knows: the operation, and the job once
    it was accepted. -/
def readServerError (prepared : PreparedRequest) (accepted : Option SnapshotJobAccepted) :
    ClientM SnapshotSessionError := do
  match ← readServerMessage with
  | .error error =>
    ensure error.validate.toBool .invalidControlFrame
    ensure (error.protocolVersion == prepared.protocolVersion &&
      error.operationId.all (· == prepared.operationId)) .jobIdentityMismatch
    match accepted with
    | some accepted =>
      ensure (error.operationId == some prepared.operationId &&
        error.jobId == some accepted.jobId) .jobIdentityMismatch
    -- before the acceptance no job ID is known
    | none => ensure error.jobId.isNone .jobIdentityMismatch
    return error
  | _ => fail .invalidControlFrame

/-- `Err(Server(read_server_error(..)?))`. -/
def failServer {α : Type} (prepared : PreparedRequest) (accepted : Option SnapshotJobAccepted) :
    ClientM α := do
  let error ← readServerError prepared accepted
  fail (.server error)

def readJobAccepted (prepared : PreparedRequest) (sequence : Option UInt64) :
    ClientM (SnapshotJobAccepted × Option UInt64) := do
  let (header, sequence) ← readSequencedHeader sequence
  match header.kind with
  | .jobAccepted =>
    match ← readServerMessage with
    | .jobAccepted accepted =>
      ensure accepted.validate.toBool .invalidControlFrame
      ensure (accepted.operationId == prepared.operationId &&
        accepted.protocolVersion == prepared.protocolVersion) .jobIdentityMismatch
      return (accepted, sequence)
    | _ => fail .invalidControlFrame
  | .error => failServer prepared none
  | received => fail (.unexpectedServerFrame "job_accepted or error" received)

/-- Read one event, check its identity and its place, and hand it to the caller. -/
def readEvent (rules : SessionRules) (prepared : PreparedRequest) (accepted : SnapshotJobAccepted)
    (nextEventSequence : UInt64) : ClientM UInt64 := do
  match ← readServerMessage with
  | .event event =>
    ensure (event.validate rules.parseUrl).toBool .invalidControlFrame
    ensure (event.protocolVersion == prepared.protocolVersion &&
      event.operationId == prepared.operationId && event.jobId == accepted.jobId &&
      event.provider == sshProviderId) .eventIdentityMismatch
    ensure (event.sequence == nextEventSequence) .eventSequenceMismatch
    let next ← ofOption .eventSequenceMismatch (checkedSucc nextEventSequence)
    let returned ← client (.deliver event)
    ensure returned .unwound
    return next
  | _ => fail .invalidControlFrame

def readArtifactDescriptor (rules : SessionRules) (prepared : PreparedRequest)
    (accepted : SnapshotJobAccepted) : ClientM SnapshotArtifactDescriptor := do
  match ← readServerMessage with
  | .artifactDescriptor artifact =>
    ensure (artifact.validate rules).toBool .invalidControlFrame
    ensure (artifact.operationId == prepared.operationId && artifact.jobId == accepted.jobId &&
      artifact.protocolVersion == prepared.protocolVersion) .artifactIdentityMismatch
    ensure (artifact.compile.requestSha256 == prepared.requestSha256 &&
      artifact.compile.sourceSha256 == prepared.sourceSha256 &&
      artifact.compile.provider == sshProviderId) .compileEvidenceMismatch
    return artifact
  | _ => fail .invalidControlFrame

/-- The loop accepts a header in every iteration, so it runs out of sequence numbers before
    it runs out of fuel. -/
def frameFuel : Nat := 2 ^ 64 + 1

def readUntilArtifactDescriptor (rules : SessionRules) (prepared : PreparedRequest)
    (accepted : SnapshotJobAccepted) : Nat → Option UInt64 → UInt64 →
    ClientM (SnapshotArtifactDescriptor × Option UInt64 × UInt64)
  | 0, _, _ => fail (.dataPlane .sequenceExhausted)
  | fuel + 1, sequence, nextEventSequence => do
    let (header, sequence) ← readSequencedHeader sequence
    match header.kind with
    | .event =>
      let nextEventSequence ← readEvent rules prepared accepted nextEventSequence
      readUntilArtifactDescriptor rules prepared accepted fuel sequence nextEventSequence
    | .artifactDescriptor =>
      let artifact ← readArtifactDescriptor rules prepared accepted
      return (artifact, sequence, nextEventSequence)
    | .error => failServer prepared (some accepted)
    | received => fail (.unexpectedServerFrame "event, artifact_descriptor, or error" received)

/-- Copy the artifact into the spool. -/
def receiveArtifact (rules : SessionRules) (artifact : SnapshotArtifactDescriptor)
    (header : FrameHeader) : ClientM Unit := do
  ensure (header.payloadBytes == artifact.artifact.size) .artifactPayloadMismatch
  validateNewLink
  clientStep .seekSpool .localIo
  let payload ← readServerMessage
  let bytes := payload.bytes?.getD []
  clientStep .syncSpool .localIo
  clientStep .spoolMetadata .localIo
  ensure (rules.sha256 bytes == artifact.artifact.sha256 &&
    bytes.length == artifact.artifact.size.toNat) .artifactPayloadMismatch

def readArtifactPayload (rules : SessionRules) (prepared : PreparedRequest)
    (accepted : SnapshotJobAccepted) (artifact : SnapshotArtifactDescriptor)
    (sequence : Option UInt64) : ClientM (Option UInt64) := do
  let (header, sequence) ← readSequencedHeader sequence
  match header.kind with
  | .error => failServer prepared (some accepted)
  | .artifact =>
    receiveArtifact rules artifact header
    return sequence
  | received =>
    fail (.unexpectedServerFrame "artifact immediately after artifact_descriptor" received)

def readComplete (prepared : PreparedRequest) (accepted : SnapshotJobAccepted) :
    ClientM SnapshotBuildComplete := do
  match ← readServerMessage with
  | .complete complete =>
    ensure complete.validate.toBool .invalidControlFrame
    ensure (complete.operationId == prepared.operationId && complete.jobId == accepted.jobId &&
      complete.protocolVersion == prepared.protocolVersion) .completionIdentityMismatch
    return complete
  | _ => fail .invalidControlFrame

def readUntilComplete (rules : SessionRules) (prepared : PreparedRequest)
    (accepted : SnapshotJobAccepted) : Nat → Option UInt64 → UInt64 →
    ClientM SnapshotBuildComplete
  | 0, _, _ => fail (.dataPlane .sequenceExhausted)
  | fuel + 1, sequence, nextEventSequence => do
    let (header, sequence) ← readSequencedHeader sequence
    match header.kind with
    | .event =>
      let nextEventSequence ← readEvent rules prepared accepted nextEventSequence
      readUntilComplete rules prepared accepted fuel sequence nextEventSequence
    | .complete => readComplete prepared accepted
    | .error => failServer prepared (some accepted)
    | received =>
      fail (.unexpectedServerFrame "event, complete, or error after artifact receipt" received)

/-! ## Receipt -/

def registerPublication (rules : SessionRules) (localPath : ProtocolPath) (size : UInt64)
    (sha256 : String) : ClientM Unit := do
  ensure (localPath.semantics == .clientAbsolute) .artifactPublicationFailed
  ensure (localPath.value.toList.head? == some '/' && !localPath.value.toList.any Text.isControl)
    .artifactPublicationFailed
  clientStep .openPublication .artifactPublicationFailed
  let published ← client (.readPublication localPath)
  let bytes ← ofOption .artifactPublicationFailed published
  ensure (bytes.length == size.toNat && rules.sha256 bytes == sha256) .artifactPublicationFailed
  clientStep .syncPublication .artifactPublicationFailed

/-- Verify and publish the artifact. -/
def verifyAndPublish (rules : SessionRules) (artifact : SnapshotArtifactDescriptor) :
    ClientM SnapshotArtifactReceipt := do
  clientStep .seekSpool .localIo
  match ← client (.verifyArtifact artifact) with
  | .unwound => fail .unwound
  | .rejected => fail .artifactVerificationFailed
  | .published localPath =>
    let read ← client .readSpool
    validateFileBytes rules artifact.artifact.size artifact.artifact.sha256
      .artifactVerificationFailed read
    let receipt ← ofOption .artifactVerificationFailed
      (SnapshotArtifactReceipt.new rules artifact localPath).toOption
    registerPublication rules receipt.localPath artifact.artifact.size artifact.artifact.sha256
    return receipt

/-- The receipt is frame three; from its start on nothing can be cancelled. -/
def sendReceipt (receipt : SnapshotArtifactReceipt) : ClientM Unit := do
  modify fun _ => { progress := .receiptStarted, armed := false }
  writeJsonFrame 3 (.artifactReceipt receipt)
  flushClient
  modify fun output => { output with progress := .receiptSent }

/-! ## Session -/

/-- The session while its cancel guard is alive. -/
def converse (rules : SessionRules) (prepared : PreparedRequest) :
    ClientM SnapshotSessionOutcome := do
  let (accepted, sequence) ← readJobAccepted prepared (some 0)
  let (artifact, sequence, nextEventSequence) ←
    readUntilArtifactDescriptor rules prepared accepted frameFuel sequence 0
  let sequence ← readArtifactPayload rules prepared accepted artifact sequence
  ensure (nextEventSequence != 0) .missingProgressEvent
  let receipt ← verifyAndPublish rules artifact
  sendReceipt receipt
  let complete ← readUntilComplete rules prepared accepted frameFuel sequence nextEventSequence
  return { accepted, artifact, receipt, complete }

/-- Drop of the `PreReceiptCancelGuard`. -/
def dropCancelGuard {ε : Type} : ProgM ClientOp ClientRes ClientOutput ε Unit := do
  let output ← get
  if output.armed && output.canSendCancel then
    match ← client (.write ⟨3, .cancel⟩) with
    | .error _ => return ()
    | .ok () =>
      let flushed ← client .flush
      if flushed then modify fun output => { output with progress := .cancelSent }
      else return ()
  else return ()

def runSnapshotSessionUncommitted (rules : SessionRules) (request : SnapshotSessionRequest) :
    ClientM SnapshotSessionOutcome := do
  let prepared ← prepareRequest rules request
  validateNewLink
  writeRequestFrames rules prepared.start
  flushClient
  modify fun _ => { progress := .cancelable, armed := true }
  let result ← attempt (converse rules prepared)
  dropCancelGuard
  ofExcept result

/-- `cleanup_session_error`; an unwinding session does not get here. -/
def cleanupSessionError {α : Type} (error : SnapshotSessionClientError) : ClientM α :=
  if error = .unwound then fail error
  else do
    let removed ← client .cleanupSpool
    ensure removed .artifactCleanupFailed
    fail error

def runSnapshotSessionDeferred (rules : SessionRules) (request : SnapshotSessionRequest) :
    ClientM SnapshotSessionOutcome := do
  match ← attempt (runSnapshotSessionUncommitted rules request) with
  | .ok outcome => return outcome
  | .error error => cleanupSessionError error

def runSnapshotSession (rules : SessionRules) (request : SnapshotSessionRequest) :
    ClientM SnapshotSessionOutcome := do
  let outcome ← runSnapshotSessionDeferred rules request
  let authorized ← client (.step .authorizeCommit)
  if authorized then return outcome
  else cleanupSessionError .artifactCommitNotAuthorized

end RustFerry.Snapshot
