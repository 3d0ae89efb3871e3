import RustFerry.Native.GithubProvider

/-!
# Worker jobs

The manifest of one isolated worker job, what its hooks answer, its errors and its report
(`crates/rustferry-worker-macos/src/job.rs`). Absolute paths below the job root are given by
their components.
-/

namespace RustFerry.Worker

open Remote Serde Artifact Except

/-! ## Text checks -/

def maxWorkerJobManifestBytes : Nat := 1024 * 1024
def maxWorkerJobReportBytes : Nat := 4 * 1024 * 1024
def maxWorkerPathBytes : Nat := 1024
def maxWorkerPathComponentBytes : Nat := 128
def maxPhaseTimings : Nat := 16
def maxArtifactCandidates : Nat := 32
def maxArtifactManifests : Nat := 16
def maxArtifactRecords : Nat := 64
def maxArtifactManifestBytes : Nat := 1024 * 1024
def maxPublicErrorCodeBytes : Nat := 96
def maxPublicErrorMessageBytes : Nat := 512

def iosDeviceRustTarget : String := "aarch64-apple-ios"
def iosDeviceSdk : String := "iphoneos"
def workerJobSchemaVersion : UInt32 := 1

/-- `validate_identifier` accepts the text. -/
def isIdentifier (value : String) : Bool :=
  value != "" && value.utf8ByteSize ≤ 160 && value.toList.all fun c =>
    c.isAlphanum || c == '-' || c == '_' || c == '.' || c == ':'

/-- `validate_sha256` accepts the text. -/
def isSha256 (value : String) : Bool :=
  value.utf8ByteSize == 64 && value.toList.all fun c => c.isDigit || ('a' ≤ c && c ≤ 'f')

def isSha256AnyCase (value : String) : Bool :=
  value.utf8ByteSize == 64 && value.toList.all fun c =>
    c.isDigit || ('a' ≤ c && c ≤ 'f') || ('A' ≤ c && c ≤ 'F')

def isSafeManifestText (value : String) (maximum : Nat) : Bool :=
  value != "" && value.utf8ByteSize ≤ maximum &&
    !value.toList.head?.any Text.isWhitespace && !value.toList.getLast?.any Text.isWhitespace &&
    !value.toList.any Text.isControl

/-- `validate_public_error_code` accepts the text. -/
def isPublicErrorCode (value : String) : Bool :=
  value != "" && value.utf8ByteSize ≤ maxPublicErrorCodeBytes &&
    value.toList.all (fun c => c.isLower || c.isDigit || c == '.' || c == '_' || c == '-') &&
    value.toList.head? != some '.' && value.toList.getLast? != some '.'

/-- `validate_public_message` accepts the text. -/
def isPublicMessage (value : String) : Bool :=
  isSafeManifestText value maxPublicErrorMessageBytes

/-! ## Paths -/

def isWorkerPathComponent (component : List Char) : Bool :=
  component != [] && component != ['.'] && component != ['.', '.'] &&
    component.length ≤ maxWorkerPathComponentBytes &&
    component.all (fun c => c.isAlphanum || c == '.' || c == '_' || c == '-') &&
    component.head? != some '.' && component.getLast? != some '.' &&
    !hasDotSequence component

/-- `validate_worker_relative_path` accepts the text. -/
def isWorkerRelativePath (value : String) : Bool :=
  value != "" && value.utf8ByteSize ≤ maxWorkerPathBytes &&
    value.toList.all (fun c => c != '\\' && c != ':' && !Text.isControl c) &&
    (Text.split '/' value.toList).all isWorkerPathComponent

/-- Lexically safe path below one isolated worker job root. -/
structure WorkerRelativePath where
  value : String
  valid : isWorkerRelativePath value = true
  deriving DecidableEq

/-- A path below the job root, as its components; the job root itself has none. -/
abbrev JobPath := List String

namespace WorkerRelativePath

/-- Resolve below the job root. -/
def resolve (self : WorkerRelativePath) : JobPath :=
  (Text.split '/' self.value.toList).map String.ofList

/-- This path is strictly below another worker-relative path. -/
def isDescendantOf (self parent : WorkerRelativePath) : Bool :=
  match Text.stripFront parent.value.toList self.value.toList with
  | some ('/' :: _ :: _) => true
  | _ => false

end WorkerRelativePath

def pathsOverlap (left right : WorkerRelativePath) : Bool :=
  left = right || left.isDescendantOf right || right.isDescendantOf left

/-- No two of the four directories overlap. -/
def areDisjoint (paths : List WorkerRelativePath) : Bool :=
  paths.Pairwise fun left right => pathsOverlap left right = false

/-- Fixed worker-owned locations for one job. -/
structure WorkerJobPaths where
  sourceDirectory : WorkerRelativePath
  artifactsDirectory : WorkerRelativePath
  temporaryDirectory : WorkerRelativePath
  logsDirectory : WorkerRelativePath
  valid : areDisjoint [sourceDirectory, artifactsDirectory, temporaryDirectory, logsDirectory]
    = true

def WorkerJobPaths.directories (self : WorkerJobPaths) : List WorkerRelativePath :=
  [self.sourceDirectory, self.artifactsDirectory, self.temporaryDirectory, self.logsDirectory]

/-! ## Errors -/

/-- Stable worker execution phases. -/
inductive WorkerJobPhase where
  | accepted
  | sourceVerification
  | build
  | sign
  | exporting
  | validate
  | cleanup
  | complete
  deriving DecidableEq

namespace WorkerJobPhase

def name : WorkerJobPhase → String
  | .accepted => "accepted"
  | .sourceVerification => "source_verification"
  | .build => "build"
  | .sign => "sign"
  | .exporting => "export"
  | .validate => "validate"
  | .cleanup => "cleanup"
  | .complete => "complete"

def eventId : WorkerJobPhase → String
  | .accepted => "accepted"
  | .sourceVerification => "source"
  | .build => "build"
  | .sign => "sign"
  | .exporting => "export"
  | .validate => "validate"
  | .cleanup => "cleanup"
  | .complete => "complete"

def safeMessage : WorkerJobPhase → String
  | .accepted => "Worker job accepted"
  | .sourceVerification => "Verifying exact source"
  | .build => "Building physical iPhone archive"
  | .sign => "Applying development signing"
  | .exporting => "Exporting requested artifacts"
  | .validate => "Independently validating artifacts"
  | .cleanup => "Removing source and signing material"
  | .complete => "Worker job complete"

end WorkerJobPhase

/-- Fixed, secret-free failure returned by a trusted worker hook or event sink. -/
structure WorkerHookFailure where
  code : String
  message : String
  retryable : Bool
  valid : (isPublicErrorCode code && isPublicMessage message) = true
  deriving DecidableEq

/-- Safe failure copied into persisted state and public reports. -/
structure WorkerPublicFailure where
  code : String
  message : String
  retryable : Bool

/-- Typed secret-free job-engine failure. -/
inductive WorkerJobError where
  | manifestTooLarge
  | reportTooLarge
  | unsupportedSchema
  | invalidIdentifier
  | overlappingWorkerPaths
  | invalidRequest
  | sourceModeMismatch
  | invalidSourceArchive
  | invalidState
  | invalidJobRoot
  | jobRootChanged
  | invalidWorkerDirectory
  | sourceVerificationFailed
  | invalidProjectDirectory
  | cancelled
  | invalidEvent
  | eventSink (failure : WorkerHookFailure)
  | clockRegressed
  | invalidStateTransition
  | invalidBuildOutput
  | invalidSigningOutput
  | invalidExportOutput
  | invalidArtifactEvidence
  | invalidCleanupProof
  | hook (phase : WorkerJobPhase) (failure : WorkerHookFailure)
  deriving DecidableEq

namespace WorkerJobError

/-- Stable public error code. -/
def code : WorkerJobError → String
  | .manifestTooLarge => "worker.manifest_size"
  | .reportTooLarge => "worker.report_size"
  | .unsupportedSchema => "worker.schema_unsupported"
  | .invalidIdentifier => "worker.identifier_invalid"
  | .overlappingWorkerPaths => "worker.path_overlap"
  | .invalidRequest => "worker.request_invalid"
  | .sourceModeMismatch => "worker.source_mode_mismatch"
  | .invalidSourceArchive => "worker.source_archive_invalid"
  | .invalidState => "worker.state_inconsistent"
  | .invalidJobRoot => "worker.root_invalid"
  | .jobRootChanged => "worker.root_changed"
  | .invalidWorkerDirectory => "worker.directory_invalid"
  | .sourceVerificationFailed => "worker.source_verification_failed"
  | .invalidProjectDirectory => "worker.project_directory_invalid"
  | .cancelled => "worker.cancelled"
  | .invalidEvent => "worker.event_invalid"
  | .eventSink _ => "worker.event_sink_failed"
  | .clockRegressed => "worker.clock_regressed"
  | .invalidStateTransition => "worker.state_transition_invalid"
  | .invalidBuildOutput => "worker.build_output_invalid"
  | .invalidSigningOutput => "worker.signing_output_invalid"
  | .invalidExportOutput => "worker.export_output_invalid"
  | .invalidArtifactEvidence => "worker.artifact_evidence_invalid"
  | .invalidCleanupProof => "worker.cleanup_proof_invalid"
  | .hook _ failure => failure.code

/-- Retrying an unchanged request may succeed. -/
def retryable : WorkerJobError → Bool
  | .cancelled => true
  | .eventSink failure | .hook _ failure => failure.retryable
  | _ => false

def safeMessage : WorkerJobError → String
  | .manifestTooLarge => "Worker job manifest exceeds its limit"
  | .reportTooLarge => "Worker job report exceeds its limit"
  | .unsupportedSchema => "Worker job schema is unsupported"
  | .invalidIdentifier => "Worker identifier is invalid"
  | .overlappingWorkerPaths => "Worker-owned paths overlap"
  | .invalidRequest => "Remote build request is invalid"
  | .sourceModeMismatch => "Worker source mode does not match the request"
  | .invalidSourceArchive => "Source archive descriptor is invalid"
  | .invalidState => "Persisted worker state is inconsistent"
  | .invalidJobRoot => "Isolated worker root is invalid"
  | .jobRootChanged => "Isolated worker root changed during execution"
  | .invalidWorkerDirectory => "Worker-owned directory is invalid"
  | .sourceVerificationFailed => "Exact source verification failed"
  | .invalidProjectDirectory => "Verified project directory is invalid"
  | .cancelled => "Worker job was cancelled"
  | .invalidEvent => "Worker event is invalid"
  | .eventSink _ => "Worker event sink failed"
  | .clockRegressed => "Worker monotonic clock regressed"
  | .invalidStateTransition => "Worker state transition is invalid"
  | .invalidBuildOutput => "Physical-iPhone build evidence is incomplete"
  | .invalidSigningOutput => "Signing evidence is incomplete"
  | .invalidExportOutput => "Exported artifact set is invalid"
  | .invalidArtifactEvidence => "Artifact validation evidence is invalid"
  | .invalidCleanupProof => "Worker cleanup could not be confirmed"
  | .hook _ failure => failure.message

def publicFailure (self : WorkerJobError) : WorkerPublicFailure where
  code := self.code
  message :=
    match self with
    | .hook _ failure | .eventSink failure => failure.message
    | _ => self.safeMessage
  retryable := self.retryable

end WorkerJobError

/-! ## Manifest -/

/-- Immutable source transport accepted by a worker. -/
inductive WorkerSourceInput where
  | snapshot (archivePath : WorkerRelativePath) (archive : Snapshot.SourceArchive)
  | git

/-- Artifact-retention policy; source and signing material are always removed. -/
structure WorkerCleanupPolicy where
  retainArtifactsOnSuccess : Bool
  retainArtifactsOnFailure : Bool

def WorkerCleanupPolicy.retainFor (self : WorkerCleanupPolicy) (state : JobState) : Bool :=
  if state = .succeeded then self.retainArtifactsOnSuccess else self.retainArtifactsOnFailure

/-- Worker job manifest; `validate` decides whether it is accepted. -/
structure WorkerJobManifest where
  schemaVersion : UInt32
  jobId : String
  workerId : String
  provider : String
  request : Remote.IosDeviceBuildRequest
  sourceInput : WorkerSourceInput
  paths : WorkerJobPaths
  cleanupPolicy : WorkerCleanupPolicy

def validateSourceArchive (archive : Snapshot.SourceArchive) : Except WorkerJobError Unit := do
  rejectIf (archive.size == 0 ||
    archive.size > Source.SourceArchiveLimits.default.maxArchiveSize) .invalidSourceArchive
  rejectIf (!isSha256 archive.sha256) .invalidSourceArchive

namespace WorkerJobManifest

/-- The source input is of the kind that the request names. -/
def validateSourceInput (self : WorkerJobManifest) : Except WorkerJobError Unit :=
  match self.request.sourceMode, self.sourceInput with
  | .snapshot, .snapshot archivePath archive => do
    validateSourceArchive archive
    rejectIf (self.paths.directories.any fun directory => pathsOverlap archivePath directory)
      .overlappingWorkerPaths
  | .git, .git => .ok ()
  | _, _ => .error .sourceModeMismatch

def validate (tools : RequestTools) (self : WorkerJobManifest) : Except WorkerJobError Unit := do
  rejectIf (self.schemaVersion != workerJobSchemaVersion) .unsupportedSchema
  rejectIf (!([self.jobId, self.workerId, self.provider].all isIdentifier)) .invalidIdentifier
  (self.request.validate tools).mapError fun _ => .invalidRequest
  self.validateSourceInput

/-- Canonical SHA-256 of the immutable remote request JSON. -/
def requestSha256 (tools : RequestTools) (self : WorkerJobManifest) :
    Except WorkerJobError String := do
  let bytes := toVec self.request
  rejectIf (bytes.length > maxWorkerJobManifestBytes) .manifestTooLarge
  return tools.inspection.sha256 bytes

def sourceDirectory (self : WorkerJobManifest) : JobPath := self.paths.sourceDirectory.resolve
def artifactsDirectory (self : WorkerJobManifest) : JobPath := self.paths.artifactsDirectory.resolve
def temporaryDirectory (self : WorkerJobManifest) : JobPath := self.paths.temporaryDirectory.resolve
def logsDirectory (self : WorkerJobManifest) : JobPath := self.paths.logsDirectory.resolve

def projectDirectory (self : WorkerJobManifest) : JobPath :=
  if self.request.source.projectPath = "." then self.sourceDirectory
  else self.sourceDirectory ++
    (Text.split '/' self.request.source.projectPath.toList).map String.ofList

end WorkerJobManifest

/-! ## What the hooks answer -/

/-- Sanitized build evidence returned by a build hook. -/
structure WorkerBuildEvidence where
  rustTarget : String
  sdk : String
  deviceBinaryProven : Bool
  archiveInspected : Bool

/-- `WorkerBuildOutput::new` accepts the parts. -/
def isBuildOutput (archivePath appPath : WorkerRelativePath) (evidence : WorkerBuildEvidence) :
    Bool :=
  archivePath ≠ appPath && evidence.rustTarget == iosDeviceRustTarget &&
    evidence.sdk == iosDeviceSdk && evidence.deviceBinaryProven && evidence.archiveInspected

/-- Safe paths plus public evidence returned by a build hook. -/
structure WorkerBuildOutput where
  archivePath : WorkerRelativePath
  appPath : WorkerRelativePath
  evidence : WorkerBuildEvidence
  valid : isBuildOutput archivePath appPath evidence = true

/-- `WorkerSignOutput::new` accepts the evidence. -/
def isSigningOutput (signing : ArtifactSigningEvidence) : Bool :=
  signing.status = .applicationSigned || signing.status = .ipaExported ||
    signing.status = .artifactValidated

/-- Public output from a signing hook. -/
structure WorkerSignOutput where
  signedArchivePath : WorkerRelativePath
  signing : ArtifactSigningEvidence
  valid : isSigningOutput signing = true

/-- One exported candidate awaiting independent validation. -/
structure WorkerArtifactCandidate where
  artifactId : String
  artifactType : IosArtifactType
  path : WorkerRelativePath
  valid : isIdentifier artifactId = true

/-- `WorkerExportOutput::new` accepts the candidates. -/
def isExportOutput (candidates : List WorkerArtifactCandidate) : Bool :=
  candidates ≠ [] && candidates.length ≤ maxArtifactCandidates &&
    (candidates.map (·.artifactId)).IsChain (· < ·) && (candidates.map (·.artifactType)).Nodup

/-- Bounded export-hook output. -/
structure WorkerExportOutput where
  candidates : List WorkerArtifactCandidate
  valid : isExportOutput candidates = true

/-- `WorkerValidationOutput::new` accepts the manifests. -/
def isValidationOutput (manifests : List ArtifactManifest) : Bool :=
  manifests ≠ [] && manifests.length ≤ maxArtifactManifests

/-- Independently validated artifact manifests from the validation hook. -/
structure WorkerValidationOutput where
  manifests : List ArtifactManifest
  valid : isValidationOutput manifests = true

/-! ## State and report -/

/-- Monotonic timing evidence for one completed phase. -/
structure WorkerPhaseTiming where
  phase : WorkerJobPhase
  startedAfterMs : UInt64
  durationMs : UInt64

/-- Versioned persisted state for one job. -/
structure WorkerJobState where
  schemaVersion : UInt32
  jobId : String
  requestSha256 : String
  state : JobState
  phase : WorkerJobPhase
  sequence : UInt64
  startedAtMs : UInt64
  updatedAtMs : UInt64
  sourceSha256 : Option String
  timings : List WorkerPhaseTiming
  failure : Option WorkerPublicFailure

def WorkerPublicFailure.validate (self : WorkerPublicFailure) : Except WorkerJobError Unit := do
  rejectIf (!isPublicErrorCode self.code) .invalidIdentifier
  rejectIf (!isPublicMessage self.message) .invalidIdentifier

def WorkerJobState.validate (self : WorkerJobState) : Except WorkerJobError Unit := do
  rejectIf (self.schemaVersion != workerJobSchemaVersion) .unsupportedSchema
  rejectIf (!isIdentifier self.jobId) .invalidIdentifier
  rejectIf (!isSha256 self.requestSha256) .invalidState
  rejectIf (!self.sourceSha256.all isSha256) .invalidState
  rejectIf (self.updatedAtMs < self.startedAtMs || self.timings.length > maxPhaseTimings)
    .invalidState
  rejectIf (¬(self.timings.map (·.phase)).Nodup) .invalidState
  forSome self.failure WorkerPublicFailure.validate

/-- Overall job outcome after mandatory cleanup. -/
inductive WorkerJobOutcome where
  | succeeded
  | failed
  | cancelled
  | cleanupFailed
  deriving DecidableEq

def WorkerJobOutcome.name : WorkerJobOutcome → String
  | .succeeded => "succeeded"
  | .failed => "failed"
  | .cancelled => "cancelled"
  | .cleanupFailed => "cleanup_failed"

/-- Redacted public evidence from one worker execution. -/
structure WorkerJobEvidence where
  requestSha256 : String
  sourceManifestSha256 : String
  sourceArchive : Option Snapshot.SourceArchive
  build : Option WorkerBuildEvidence
  signing : Option ArtifactSigningEvidence
  timings : List WorkerPhaseTiming
  cleanup : Option CleanupConfirmation

/-- Versioned redacted worker report. -/
structure WorkerJobReport where
  schemaVersion : UInt32
  outcome : WorkerJobOutcome
  result : IosDeviceBuildResult
  evidence : WorkerJobEvidence
  failure : Option WorkerPublicFailure
  state : WorkerJobState

/-! ## Encoding of the report -/

def sourceArchiveFields (a : Snapshot.SourceArchive) : List (Option Json) :=
  [some (serialize a.size), some (serialize a.sha256)]

instance : Serialize Snapshot.SourceArchive :=
  ⟨fun a => .object (serializeFields ["size", "sha256"] (sourceArchiveFields a))⟩

instance : Serialize WorkerJobPhase := ⟨fun phase => .string phase.name⟩
instance : Serialize WorkerJobOutcome := ⟨fun outcome => .string outcome.name⟩

def WorkerBuildEvidence.fields (e : WorkerBuildEvidence) : List (Option Json) :=
  [some (serialize e.rustTarget), some (serialize e.sdk), some (serialize e.deviceBinaryProven),
    some (serialize e.archiveInspected)]

instance : Serialize WorkerBuildEvidence :=
  ⟨fun e => .object (serializeFields
    ["rust_target", "sdk", "device_binary_proven", "archive_inspected"] e.fields)⟩

def WorkerPublicFailure.fields (f : WorkerPublicFailure) : List (Option Json) :=
  [some (serialize f.code), some (serialize f.message), some (serialize f.retryable)]

instance : Serialize WorkerPublicFailure :=
  ⟨fun f => .object (serializeFields ["code", "message", "retryable"] f.fields)⟩

def WorkerPhaseTiming.fields (t : WorkerPhaseTiming) : List (Option Json) :=
  [some (serialize t.phase), some (serialize t.startedAfterMs), some (serialize t.durationMs)]

instance : Serialize WorkerPhaseTiming :=
  ⟨fun t => .object (serializeFields ["phase", "started_after_ms", "duration_ms"] t.fields)⟩

def WorkerJobState.fieldNames : List String :=
  ["schema_version", "job_id", "request_sha256", "state", "phase", "sequence", "started_at_ms",
    "updated_at_ms", "source_sha256", "timings", "failure"]

def WorkerJobState.fields (s : WorkerJobState) : List (Option Json) :=
  [some (serialize s.schemaVersion), some (serialize s.jobId), some (serialize s.requestSha256),
    some (serialize s.state), some (serialize s.phase), some (serialize s.sequence),
    some (serialize s.startedAtMs), some (serialize s.updatedAtMs),
    some (nullable s.sourceSha256), some (serialize s.timings), some (nullable s.failure)]

instance : Serialize WorkerJobState :=
  ⟨fun s => .object (serializeFields WorkerJobState.fieldNames s.fields)⟩

def WorkerJobEvidence.fieldNames : List String :=
  ["request_sha256", "source_manifest_sha256", "source_archive", "build", "signing", "timings",
    "cleanup"]

def WorkerJobEvidence.fields (e : WorkerJobEvidence) : List (Option Json) :=
  [some (serialize e.requestSha256), some (serialize e.sourceManifestSha256),
    some (nullable e.sourceArchive), some (nullable e.build), some (nullable e.signing),
    some (serialize e.timings), some (nullable e.cleanup)]

instance : Serialize WorkerJobEvidence :=
  ⟨fun e => .object (serializeFields WorkerJobEvidence.fieldNames e.fields)⟩

def WorkerJobReport.fieldNames : List String :=
  ["schema_version", "outcome", "result", "evidence", "failure", "state"]

def WorkerJobReport.fields (r : WorkerJobReport) : List (Option Json) :=
  [some (serialize r.schemaVersion), some (serialize r.outcome), some (serialize r.result),
    some (serialize r.evidence), some (nullable r.failure), some (serialize r.state)]

instance : Serialize WorkerJobReport :=
  ⟨fun r => .object (serializeFields WorkerJobReport.fieldNames r.fields)⟩

/-- Encode bounded redacted report JSON. -/
def WorkerJobReport.encodeJson (self : WorkerJobReport) : Except WorkerJobError (List UInt8) := do
  let encoded := toVec self
  rejectIf (encoded.length > maxWorkerJobReportBytes) .reportTooLarge
  return encoded

end RustFerry.Worker
