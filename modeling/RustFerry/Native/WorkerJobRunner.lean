import RustFerry.ForStd.UnixPath
import RustFerry.Native.WorkerJob

/-!
# Runs of a worker job

`execute_worker_job` and its `WorkerJobRunner` (`crates/rustferry-worker-macos/src/job.rs`) as
a program over the operations that it performs: its hooks, its event sink, its clocks, its
cancellation token and the file system below the job root. The runner is changed in place, so
that a failed phase keeps what was changed before.

`root.verify` is one operation, answered with whether the job root is still the directory that
was opened. `RemoteBuildEvent::new` is an operation without an answer beside the check that it
makes, so that a run shows every event that is built, delivered or not.
-/

namespace RustFerry.Worker

open Remote Artifact ProgM
open Except (rejectIf)
open DataPlane.WorkerDataPlaneSequence (checkedSucc)

/-! ## Operations -/

/-- Answer of `fs::symlink_metadata`; links are among the other files. -/
inductive Metadata where
  | notFound
  | failed
  | directory
  | file
  | other
  deriving DecidableEq

/-- A canonical path: below the job root, or elsewhere. -/
inductive Canonical where
  | below (path : JobPath)
  | elsewhere
  deriving DecidableEq

/-- Where the identity of the job root is checked: before the cleanup hook is called, or
    anywhere else. -/
inductive RootCheck where
  | checkpoint
  | cleanup

/-- Read-only job context exposed to the hooks of the pipeline. -/
structure WorkerHookContext where
  jobId : String
  workerId : String
  provider : String
  sourceDirectory : JobPath
  projectDirectory : JobPath
  artifactsDirectory : JobPath
  temporaryDirectory : JobPath
  logsDirectory : JobPath
  request : Remote.IosDeviceBuildRequest

/-- Mandatory cleanup request supplied after every started job. -/
structure WorkerCleanupRequest where
  jobId : String
  paths : WorkerJobPaths
  sourceInput : WorkerSourceInput
  buildState : JobState
  removeArtifacts : Bool

inductive JobOp where
  | openRoot (jobRoot : String)
  | verifyRoot (site : RootCheck)
  | symlinkMetadata (path : JobPath)
  | canonicalize (path : JobPath)
  | createDir (path : JobPath)
  | removeFile (path : JobPath)
  | unixTimeMs
  | monotonicTimeMs
  | isCancelled
  | newEvent (event : RemoteBuildEvent)
  | emit (event : RemoteBuildEvent)
  | verifyAndExtractSourceBundle (archivePath : JobPath) (archive : Snapshot.SourceArchive)
      (source : Snapshot.SourceManifest) (destination : JobPath)
  | verifyMaterializedBundle (directory : JobPath) (source : Snapshot.SourceManifest)
  | verifyDownloadedFile (path : JobPath) (record : ArtifactRecord)
  | materializeGitSource (context : WorkerHookContext) (repository revision : String)
      (destination : JobPath)
  | build (context : WorkerHookContext)
  | sign (context : WorkerHookContext) (build : WorkerBuildOutput)
  | exportArtifacts (context : WorkerHookContext) (build : WorkerBuildOutput)
      (signing : Option WorkerSignOutput)
  | validate (context : WorkerHookContext) (build : WorkerBuildOutput)
      (signing : Option WorkerSignOutput) (exported : WorkerExportOutput)
  | cleanup (request : WorkerCleanupRequest)

abbrev HookResult := Except WorkerHookFailure

abbrev JobRes : JobOp → Type
  | .openRoot _ | .verifyRoot _ | .createDir _ | .removeFile _ | .isCancelled => Bool
  | .symlinkMetadata _ => Metadata
  | .canonicalize _ => Option Canonical
  | .unixTimeMs | .monotonicTimeMs => UInt64
  | .newEvent _ => Unit
  | .emit _ => HookResult Unit
  | .verifyAndExtractSourceBundle .. => Option Snapshot.SourceArchive
  | .verifyMaterializedBundle .. | .verifyDownloadedFile .. => Bool
  | .materializeGitSource .. => HookResult Unit
  | .build _ => HookResult WorkerBuildOutput
  | .sign .. => HookResult WorkerSignOutput
  | .exportArtifacts .. => HookResult WorkerExportOutput
  | .validate .. => HookResult WorkerValidationOutput
  | .cleanup _ => HookResult CleanupConfirmation

/-- The runner of a job, without what does not change while it runs. -/
structure WorkerJobRunner where
  state : WorkerJobState
  monotonicStartMs : UInt64
  activePhase : Option (WorkerJobPhase × UInt64)
  sourceArchive : Option Snapshot.SourceArchive
  buildEvidence : Option WorkerBuildEvidence
  signingEvidence : Option ArtifactSigningEvidence

abbrev JobM := ProgM JobOp JobRes WorkerJobRunner WorkerJobError

abbrev call {σ ε : Type} (op : JobOp) : ProgM JobOp JobRes σ ε (JobRes op) := perform op

/-- A hook of a phase; its failure names the phase. -/
def callHook {α : Type} (phase : WorkerJobPhase) (result : HookResult α) :
    Except WorkerJobError α :=
  result.mapError (.hook phase)

/-! ## Job root and files -/

def verifyRoot (site : RootCheck) : JobM Unit := do
  let bound ← call (.verifyRoot site)
  ensure bound .jobRootChanged

def ensureLexicallyBelow (path : JobPath) (error : WorkerJobError) : JobM Unit :=
  ensure (path ≠ []) error

/-- The path is what `fs::canonicalize` makes of it. -/
def requireCanonical (path : JobPath) (error : WorkerJobError) : JobM Unit := do
  let canonical ← call (.canonicalize path)
  ensure (canonical = some (.below path)) error

def validateBoundDirectory (directory : JobPath) (error : WorkerJobError) : JobM Unit := do
  ensureLexicallyBelow directory error
  let metadata ← call (.symlinkMetadata directory)
  ensure (metadata = .directory) error
  requireCanonical directory error
  verifyRoot .checkpoint

/-- `validate_output_file` and `validate_input_file`. -/
def validateFile (path : JobPath) (belowError error : WorkerJobError) : JobM Unit := do
  ensureLexicallyBelow path belowError
  let metadata ← call (.symlinkMetadata path)
  ensure (metadata = .file) error
  requireCanonical path error
  verifyRoot .checkpoint

def validateOutputFile (path : JobPath) : JobM Unit :=
  validateFile path .invalidWorkerDirectory .invalidExportOutput

def validateInputFile (path : JobPath) : JobM Unit :=
  validateFile path .sourceVerificationFailed .sourceVerificationFailed

def validateOutputDirectory (directory : JobPath) : JobM Unit :=
  validateBoundDirectory directory .invalidBuildOutput

def requirePathAbsent (path : JobPath) (error : WorkerJobError) : JobM Unit := do
  let metadata ← call (.symlinkMetadata path)
  ensure (metadata = .notFound) error

def removeVerifiedInputFile (path : JobPath) : JobM Unit := do
  validateInputFile path
  let removed ← call (.removeFile path)
  ensure removed .sourceVerificationFailed
  requirePathAbsent path .sourceVerificationFailed
  verifyRoot .checkpoint

def createOwnedDirectory (directory : JobPath) : JobM Unit := do
  let created ← call (.createDir directory)
  ensure created .invalidWorkerDirectory
  validateBoundDirectory directory .invalidWorkerDirectory

/-- One iteration of `prepare_owned_directory`. -/
def prepareOwnedComponent (current : JobPath) : JobM Unit := do
  match (← call (.symlinkMetadata current)) with
  | .directory => validateBoundDirectory current .invalidWorkerDirectory
  | .notFound => do
    verifyRoot .checkpoint
    createOwnedDirectory current
  | _ => fail .invalidWorkerDirectory

/-- The directory and those above it, outermost first. -/
def ancestors (directory : JobPath) : List JobPath := directory.inits.drop 1

def prepareOwnedDirectory (directory : JobPath) : JobM Unit := do
  ensureLexicallyBelow directory .invalidWorkerDirectory
  (ancestors directory).forM prepareOwnedComponent
  validateBoundDirectory directory .invalidWorkerDirectory

def prepareParentForFreshDirectory (destination : JobPath) : JobM Unit := do
  ensureLexicallyBelow destination .invalidWorkerDirectory
  requirePathAbsent destination .invalidWorkerDirectory
  if destination.dropLast ≠ [] then
    prepareOwnedDirectory destination.dropLast
  verifyRoot .checkpoint

def prepareFreshDirectory (directory : JobPath) : JobM Unit := do
  prepareParentForFreshDirectory directory
  verifyRoot .checkpoint
  createOwnedDirectory directory

def validateProjectDirectory (sourceDirectory projectDirectory : JobPath) : JobM Unit := do
  ensureLexicallyBelow sourceDirectory .invalidWorkerDirectory
  ensure (sourceDirectory.isPrefixOf projectDirectory) .invalidProjectDirectory
  validateBoundDirectory sourceDirectory .invalidProjectDirectory
  validateBoundDirectory projectDirectory .invalidProjectDirectory

/-! ## Events, phases and transitions -/

/-- What the protocol checks of a URL. -/
def eventUrl (tools : RequestTools) : ParseUrl := fun value =>
  (tools.parseUrl value).map fun url => (url.username, url.password)

/-- The time of the last change never goes back. -/
def WorkerJobState.touch (self : WorkerJobState) (now : UInt64) : WorkerJobState :=
  { self with updatedAtMs := max now self.updatedAtMs }

def updateState (f : WorkerJobState → WorkerJobState) : JobM Unit :=
  modify fun runner => { runner with state := f runner.state }

section

variable (tools : RequestTools) (job : WorkerJobManifest)

/-- The event that `emit` builds. -/
def jobEvent (phase : WorkerJobPhase) (sequence timestampMs : UInt64)
    (kind : RemoteBuildEventKind) : RemoteBuildEvent where
  protocolVersion := currentProtocolVersion
  operationId := job.request.operationId
  jobId := job.jobId
  timestampMs := timestampMs
  provider := job.provider
  phase := phase.eventId
  sequence := sequence
  kind := kind

/-- Build the next event and hand it to the sink; its sequence number is used up before the
    sink answers. -/
def emit (kind : RemoteBuildEventKind) : JobM Unit := do
  let runner ← get
  let sequence ← ofOption .invalidState (checkedSucc runner.state.sequence)
  let timestampMs ← call .unixTimeMs
  let event := jobEvent job runner.state.phase sequence timestampMs kind
  call (.newEvent event)
  ensure (event.validate (eventUrl tools)).toBool .invalidEvent
  updateState fun state => { state with sequence := sequence }.touch timestampMs
  let accepted ← call (.emit event)
  ofExcept (accepted.mapError .eventSink)

def checkCancelled : JobM Unit := do
  let cancelled ← call .isCancelled
  ensure (!cancelled) .cancelled

def transition (next : JobState) : JobM Unit := do
  let runner ← get
  ensure (runner.state.state.canTransitionTo next) .invalidStateTransition
  updateState fun state => { state with state := next }
  let now ← call .unixTimeMs
  updateState (·.touch now)

def transitionForCancellation : JobM Unit := do
  let runner ← get
  if runner.state.state ≠ .cancelling then
    transition .cancelling
  transition .cancelled

def startPhaseWithoutCancellation (phase : WorkerJobPhase) : JobM Unit := do
  let runner ← get
  ensure (runner.activePhase.isNone && runner.state.timings.length < maxPhaseTimings)
    .invalidState
  verifyRoot .checkpoint
  let started ← call .monotonicTimeMs
  ensure (runner.monotonicStartMs ≤ started) .clockRegressed
  modify fun runner => { runner with
    activePhase := some (phase, started)
    state := { runner.state with phase := phase } }
  emit tools job (.phaseStarted (some phase.safeMessage))

def startPhase (phase : WorkerJobPhase) : JobM Unit := do
  checkCancelled
  startPhaseWithoutCancellation tools job phase

def finishPhase : JobM Unit := do
  let runner ← get
  let (phase, started) ← ofOption .invalidState runner.activePhase
  modify fun runner => { runner with activePhase := none }
  let finished ← call .monotonicTimeMs
  ensure (started ≤ finished) .clockRegressed
  ensure (runner.monotonicStartMs ≤ started) .clockRegressed
  let timing : WorkerPhaseTiming :=
    { phase, startedAfterMs := started - runner.monotonicStartMs, durationMs := finished - started }
  updateState fun state => { state with timings := state.timings ++ [timing] }
  let now ← call .unixTimeMs
  updateState (·.touch now)
  verifyRoot .checkpoint

/-- Close the phase that a failed pipeline has left open. -/
def finishActivePhase : JobM Unit := do
  let runner ← get
  if runner.activePhase.isSome then
    finishPhase

def elapsedFromStart : JobM UInt64 := do
  let runner ← get
  let now ← call .monotonicTimeMs
  ensure (runner.monotonicStartMs ≤ now) .clockRegressed
  return now - runner.monotonicStartMs

/-- What every phase with a hook does when the hook has answered. -/
def settlePhase {α : Type} (result : Except WorkerJobError α) : JobM α := do
  let after ← attempt finishPhase
  let output ← ofExcept result
  ofExcept after
  checkCancelled
  verifyRoot .checkpoint
  return output

/-! ## Pipeline -/

def hookContext : WorkerHookContext where
  jobId := job.jobId
  workerId := job.workerId
  provider := job.provider
  sourceDirectory := job.sourceDirectory
  projectDirectory := job.projectDirectory
  artifactsDirectory := job.artifactsDirectory
  temporaryDirectory := job.temporaryDirectory
  logsDirectory := job.logsDirectory
  request := job.request

def prepareFixedDirectories : JobM Unit := do
  verifyRoot .checkpoint
  prepareParentForFreshDirectory job.sourceDirectory
  prepareOwnedDirectory job.logsDirectory
  verifyRoot .checkpoint

/-- The archive is removed as soon as it has been extracted. -/
def acceptSourceArchive (archivePath : JobPath) :
    Option Snapshot.SourceArchive → JobM (Except WorkerJobError Unit)
  | none => return .error .sourceVerificationFailed
  | some verified => attempt do
    removeVerifiedInputFile archivePath
    modify fun runner => { runner with sourceArchive := some verified }

def extractSnapshot (archivePath : JobPath) (archive : Snapshot.SourceArchive) :
    JobM (Except WorkerJobError Unit) := do
  validateInputFile archivePath
  let verified ← call (.verifyAndExtractSourceBundle archivePath archive job.request.source
    job.sourceDirectory)
  acceptSourceArchive archivePath verified

def materializeRevision : JobM (Except WorkerJobError Unit) := do
  let repository ← ofOption .invalidRequest job.request.sourceRepository
  let revision ← ofOption .invalidRequest job.request.sourceRevision
  let materialized ← call (.materializeGitSource (hookContext job) repository revision
    job.sourceDirectory)
  ofExcept (callHook .sourceVerification materialized)
  let verified ← call (.verifyMaterializedBundle job.sourceDirectory job.request.source)
  return if verified then .ok () else .error .sourceVerificationFailed

/-- The source is extracted or checked out; what fails early leaves the phase open. -/
def materializeSource : JobM (Except WorkerJobError Unit) :=
  match job.sourceInput with
  | .snapshot archivePath archive => extractSnapshot job archivePath.resolve archive
  | .git => materializeRevision job

def prepareSource : JobM Unit := do
  startPhase tools job .sourceVerification
  ensure (job.request.source.entries.length < 2 ^ 64) .sourceVerificationFailed
  emit tools job (.sourcePrepared (.ofNat job.request.source.entries.length)
    job.request.source.totalSize)
  let result ← materializeSource job
  settlePhase result
  validateProjectDirectory job.sourceDirectory job.projectDirectory
  updateState fun state => { state with sourceSha256 := some job.request.source.sha256 }
  emit tools job (.sourceVerified job.request.source.sha256)

def runBuild : JobM WorkerBuildOutput := do
  startPhase tools job .build
  let result ← call (.build (hookContext job))
  let output ← settlePhase (callHook .build result)
  ensure (output.archivePath.isDescendantOf job.paths.sourceDirectory &&
    output.appPath.isDescendantOf output.archivePath) .invalidBuildOutput
  validateOutputDirectory output.archivePath.resolve
  validateOutputDirectory output.appPath.resolve
  modify fun runner => { runner with buildEvidence := some output.evidence }
  return output

def signArchive (build : WorkerBuildOutput) : JobM WorkerSignOutput := do
  startPhase tools job .sign
  prepareFreshDirectory job.temporaryDirectory
  emit tools job (.signingStarted job.request.signing.mode)
  let result ← call (.sign (hookContext job) build)
  let output ← settlePhase (callHook .sign result)
  ensure (output.signedArchivePath.isDescendantOf job.paths.sourceDirectory &&
    output.signing.mode = job.request.signing.mode) .invalidSigningOutput
  validateOutputDirectory output.signedArchivePath.resolve
  modify fun runner => { runner with signingEvidence := some output.signing }
  return output

def runSign (build : WorkerBuildOutput) : JobM (Option WorkerSignOutput) :=
  if job.request.signing.mode.isSigned then do
    let output ← signArchive tools job build
    return some output
  else return none

/-- One iteration over the exported candidates. -/
def announceCandidate (candidate : WorkerArtifactCandidate) : JobM Unit := do
  ensure (candidate.path.isDescendantOf job.paths.artifactsDirectory) .invalidExportOutput
  validateOutputFile candidate.path.resolve
  emit tools job (.artifactCreated candidate.artifactId candidate.artifactType)

def runExport (build : WorkerBuildOutput) (signing : Option WorkerSignOutput) :
    JobM WorkerExportOutput := do
  startPhase tools job .exporting
  prepareFreshDirectory job.artifactsDirectory
  let result ← call (.exportArtifacts (hookContext job) build signing)
  let output ← settlePhase (callHook .exporting result)
  ensure ((output.candidates.map (·.artifactType)).toFinset = job.request.requestedArtifacts)
    .invalidExportOutput
  output.candidates.forM (announceCandidate tools job)
  return output

end

/-! ## Evidence of the artifacts -/

/-- `validate_artifact_record` accepts the record. -/
def isArtifactRecord (record : ArtifactRecord) : Bool :=
  isIdentifier record.artifactId &&
    record.fileName != "" && record.fileName.utf8ByteSize ≤ 255 &&
    record.fileName.toList.all (fun c => c != '/' && c != '\\' && !Text.isControl c) &&
    record.fileName != "." && record.fileName != ".." && record.size != 0 &&
    isSha256 record.sha256 && record.mediaType.all fun mediaType =>
      mediaType != "" && mediaType.utf8ByteSize ≤ 128 && !mediaType.toList.any Text.isControl

def validateToolchainEvidence (toolchain : AppleToolchainEvidence) : Bool :=
  isSafeManifestText toolchain.workerOs 128 && isSafeManifestText toolchain.workerArchitecture 64 &&
    isSafeManifestText toolchain.xcodeVersion 128 &&
    isSafeManifestText toolchain.iphoneosSdkVersion 128 &&
    isSafeManifestText toolchain.rustVersion 128

def validateArtifactSigning (job : WorkerJobManifest) (signing : ArtifactSigningEvidence) : Bool :=
  signing.mode = job.request.signing.mode &&
    if !signing.mode.isSigned then
      signing.status = .unsigned && signing.teamId.isNone &&
        signing.certificateFingerprint.isNone && signing.profileUuid.isNone &&
        signing.profileExpiration.isNone && signing.entitlementsSha256.isNone
    else
      signing.status = .artifactValidated &&
        signing.teamId = job.request.signing.team.map (·.expected.id) &&
        signing.certificateFingerprint.any isSha256AnyCase &&
        signing.profileUuid.any isIdentifier &&
        signing.profileExpiration.any (isSafeManifestText · 128) &&
        signing.entitlementsSha256.any isSha256

def validateManifestExtensions (extensions : List String) : Bool :=
  extensions.length ≤ maxArtifactRecords && extensions.all isExplicitBundleIdentifier &&
    extensions.IsChain (· < ·)

/-- The manifest names the operation, the source and the product of the job. -/
def bindsJob (job : WorkerJobManifest) (manifest : ArtifactManifest) : Bool :=
  manifest.operationId == job.request.operationId && manifest.jobId == job.jobId &&
    manifest.provider == job.provider &&
    manifest.sourceRepository == job.request.sourceRepository &&
    manifest.sourceRevision == job.request.sourceRevision &&
    manifest.sourceSnapshot == (job.request.sourceMode = .snapshot) &&
    manifest.sourceSha256 == job.request.source.sha256 &&
    manifest.bundleIdentifier == job.request.bundleIdentifier &&
    manifest.appName == job.request.productName &&
    manifest.buildProfile == job.request.profile.name

/-- The texts that the manifest itself brings are safe. -/
def hasSafeTexts (manifest : ArtifactManifest) : Bool :=
  isIdentifier manifest.projectId && isSha256 manifest.cargoLockSha256 &&
    isSha256 manifest.configSha256 && isSafeManifestText manifest.rustferryVersion 128 &&
    isSafeManifestText manifest.workerVersion 128 && isSafeManifestText manifest.appVersion 128 &&
    isSafeManifestText manifest.buildNumber 128 && isSafeManifestText manifest.startedAt 128 &&
    isSafeManifestText manifest.finishedAt 128

/-- The checks of `validate_artifact_output` on one manifest. -/
def acceptsManifest (job : WorkerJobManifest) (manifest : ArtifactManifest) : Bool :=
  (toVec manifest).length ≤ maxArtifactManifestBytes && manifest.schemaVersion == 1 &&
    bindsJob job manifest && hasSafeTexts manifest && manifest.architecture == "arm64" &&
    manifest.toolchain.rustTarget == iosDeviceRustTarget &&
    validateToolchainEvidence manifest.toolchain && validateArtifactSigning job manifest.signing &&
    validateManifestExtensions manifest.extensions && manifest.cleanupStatus = .pending &&
    manifest.artifacts ≠ [] && manifest.artifacts.length ≤ maxArtifactRecords &&
    .sourceValidated ∈ manifest.validationLevels && .artifactValidated ∈ manifest.validationLevels &&
    (!job.request.signing.mode.isSigned || manifest.signing.status = .artifactValidated) &&
    manifest.artifacts.all isArtifactRecord

def artifactKind : IosArtifactType → ArtifactKind
  | .ipa => .ipa
  | .xcarchive => .xcarchive
  | .appBundle => .app
  | .dsym => .dsym
  | .signingReport => .signingReport
  | .provisioningReport => .validationReport

/-- The records of all manifests. -/
def artifactRecords (manifests : List ArtifactManifest) : List ArtifactRecord :=
  manifests.flatMap (·.artifacts)

/-- The checks of `validate_artifact_output` before it reads any file. -/
def acceptsManifests (job : WorkerJobManifest) (exported : WorkerExportOutput)
    (manifests : List ArtifactManifest) : Bool :=
  manifests ≠ [] && manifests.length ≤ maxArtifactManifests &&
    manifests.all (acceptsManifest job) &&
    ((artifactRecords manifests).map (·.artifactId)).Nodup &&
    (artifactRecords manifests).length = exported.candidates.length

/-- The record of a candidate, when it is of its kind and names its file. -/
def candidateRecord (manifests : List ArtifactManifest) (candidate : WorkerArtifactCandidate) :
    Option ArtifactRecord :=
  ((artifactRecords manifests).find? (·.artifactId == candidate.artifactId)).filter fun record =>
    record.kind = artifactKind candidate.artifactType &&
      candidate.path.resolve.getLast? == some record.fileName

/-- One iteration over the candidates. -/
def verifyCandidate (manifests : List ArtifactManifest) (candidate : WorkerArtifactCandidate) :
    JobM Unit := do
  let record ← ofOption .invalidArtifactEvidence (candidateRecord manifests candidate)
  let verified ← call (.verifyDownloadedFile candidate.path.resolve record)
  ensure verified .invalidArtifactEvidence
  verifyRoot .checkpoint

section

variable (tools : RequestTools) (job : WorkerJobManifest)

def validateArtifactOutput (exported : WorkerExportOutput) (manifests : List ArtifactManifest) :
    JobM Unit := do
  ensure (acceptsManifests job exported manifests) .invalidArtifactEvidence
  exported.candidates.forM (verifyCandidate manifests)

def runValidation (build : WorkerBuildOutput) (signing : Option WorkerSignOutput)
    (exported : WorkerExportOutput) : JobM (List ArtifactManifest) := do
  startPhase tools job .validate
  let result ← call (.validate (hookContext job) build signing exported)
  let output ← settlePhase (callHook .validate result)
  validateArtifactOutput job exported output.manifests
  output.manifests.forM fun artifact => emit tools job (.artifactValidated artifact)
  return output.manifests

def runPipeline : JobM (List ArtifactManifest) := do
  emit tools job (.operationStarted "worker.ios_device_build")
  emit tools job (.jobCreated .created)
  emit tools job (.workerAssigned job.workerId)
  transition .running
  prepareFixedDirectories job
  prepareSource tools job
  let build ← runBuild tools job
  let signing ← runSign tools job build
  let exported ← runExport tools job build signing
  runValidation tools job build signing exported

/-! ## Cleanup -/

/-- `first_error.get_or_insert`. -/
def getOrInsert {α : Type} (first : Option WorkerJobError) :
    Except WorkerJobError α → Option WorkerJobError
  | .ok _ => first
  | .error error => first.or (some error)

structure CleanupRun where
  confirmation : Option CleanupConfirmation
  error : Option WorkerJobError

def startCleanupPhase : JobM Unit := do
  startPhaseWithoutCancellation tools job .cleanup
  emit tools job .cleanupStarted

def validateCleanupConfirmation (confirmation : CleanupConfirmation) (jobId : String)
    (artifactsRetained : Bool) : Except WorkerJobError Unit :=
  rejectIf (confirmation.jobId != jobId || confirmation.completedAtMs == 0 ||
    !confirmation.workspaceRemoved || !confirmation.signingMaterialRemoved ||
    confirmation.artifactsRetained != artifactsRetained) .invalidCleanupProof

/-- The input archive is gone. -/
def requireInputAbsent : JobM Unit :=
  match job.sourceInput with
  | .snapshot archivePath _ => requirePathAbsent archivePath.resolve .invalidCleanupProof
  | .git => return ()

def requireArtifacts (artifactsRetained : Bool) : JobM Unit :=
  if artifactsRetained then validateBoundDirectory job.artifactsDirectory .invalidCleanupProof
  else requirePathAbsent job.artifactsDirectory .invalidCleanupProof

def validateCleanupFilesystem (artifactsRetained : Bool) : JobM Unit := do
  verifyRoot .checkpoint
  requirePathAbsent job.sourceDirectory .invalidCleanupProof
  requirePathAbsent job.temporaryDirectory .invalidCleanupProof
  requireInputAbsent job
  requireArtifacts job artifactsRetained
  verifyRoot .checkpoint

/-- The checks on what the cleanup hook has confirmed. -/
def checkConfirmation (confirmation : CleanupConfirmation) (artifactsRetained : Bool) :
    JobM Unit := do
  ofExcept (validateCleanupConfirmation confirmation job.jobId artifactsRetained)
  verifyRoot .checkpoint
  validateCleanupFilesystem job artifactsRetained

/-- What becomes of the answer of the cleanup hook. -/
def acceptConfirmation (artifactsRetained : Bool) (first : Option WorkerJobError) :
    HookResult CleanupConfirmation → JobM CleanupRun
  | .error failure => return ⟨none, first.or (some (.hook .cleanup failure))⟩
  | .ok confirmation => do
    let checked ← attempt (checkConfirmation job confirmation artifactsRetained)
    return if checked.toBool then ⟨some confirmation, first⟩
      else ⟨none, first.or (some .invalidCleanupProof)⟩

def cleanupRequest (buildState : JobState) : WorkerCleanupRequest where
  jobId := job.jobId
  paths := job.paths
  sourceInput := job.sourceInput
  buildState := buildState
  removeArtifacts := !job.cleanupPolicy.retainFor buildState

def confirmCleanup (buildState : JobState) (first : Option WorkerJobError) : JobM CleanupRun := do
  let bound ← call (.verifyRoot .cleanup)
  if !bound then
    return ⟨none, first.or (some .jobRootChanged)⟩
  else
    let answer ← call (.cleanup (cleanupRequest job buildState))
    acceptConfirmation job (job.cleanupPolicy.retainFor buildState) first answer

def announceCleanup : Option CleanupConfirmation → JobM Unit
  | some confirmation => emit tools job (.cleanupFinished confirmation)
  | none => return ()

def cleanupTerminal (confirmation : Option CleanupConfirmation) : JobState :=
  if confirmation.isSome then .cleaned else .cleanupFailed

def runCleanup (buildState : JobState) : JobM CleanupRun := do
  let cleaning ← attempt (transition .cleaning)
  let started ← attempt (startCleanupPhase tools job)
  let confirmed ← confirmCleanup job buildState (getOrInsert (getOrInsert none cleaning) started)
  let finished ← attempt finishActivePhase
  let ended ← attempt (transition (cleanupTerminal confirmed.confirmation))
  let announced ← attempt (announceCleanup tools job confirmed.confirmation)
  return { confirmed with
    error := getOrInsert (getOrInsert (getOrInsert confirmed.error finished) ended) announced }

/-! ## Run -/

/-- How the build ended, before cleanup. -/
structure BuildEnd where
  buildState : JobState
  failure : Option WorkerPublicFailure
  cancelled : Bool
  manifests : List ArtifactManifest

def endBuild : Except WorkerJobError (List ArtifactManifest) → JobM BuildEnd
  | .ok manifests => do
    transition .succeeded
    return ⟨.succeeded, none, false, manifests⟩
  | .error .cancelled => do
    transitionForCancellation
    return ⟨.cancelled, none, true, []⟩
  | .error error => do
    transition .failed
    return ⟨.failed, some error.publicFailure, false, []⟩

/-- The result of the pipeline, once an open phase has been closed. -/
def pipelineResult (pipeline : Except WorkerJobError (List ArtifactManifest)) :
    Except WorkerJobError Unit → Except WorkerJobError (List ArtifactManifest)
  | .ok () => pipeline
  | .error error => .error error

def jobOutcome (ended : BuildEnd) (confirmation : Option CleanupConfirmation)
    (failure : Option WorkerPublicFailure) : WorkerJobOutcome :=
  if confirmation.isNone then .cleanupFailed
  else if failure.isSome then .failed
  else if ended.cancelled then .cancelled
  else if ended.buildState = .succeeded then .succeeded
  else .failed

def buildResult (ended : BuildEnd) (confirmation : Option CleanupConfirmation) :
    IosDeviceBuildResult where
  protocolVersion := currentProtocolVersion
  operationId := job.request.operationId
  jobId := job.jobId
  state := ended.buildState
  artifacts := ended.manifests
  cleanup := confirmation

def jobReport (runner : WorkerJobRunner) (outcome : WorkerJobOutcome)
    (result : IosDeviceBuildResult) (failure : Option WorkerPublicFailure) :
    WorkerJobReport where
  schemaVersion := workerJobSchemaVersion
  outcome := outcome
  result := result
  evidence := {
    requestSha256 := runner.state.requestSha256
    sourceManifestSha256 := job.request.source.sha256
    sourceArchive := runner.sourceArchive
    build := runner.buildEvidence
    signing := runner.signingEvidence
    timings := runner.state.timings
    cleanup := result.cleanup }
  failure := failure
  state := runner.state

def WorkerPublicFailure.errorInfo (self : WorkerPublicFailure) : RemoteErrorInfo where
  code := self.code
  message := self.message
  help := none
  retryable := self.retryable

def terminalEvent (ended : BuildEnd) (outcome : WorkerJobOutcome) (result : IosDeviceBuildResult)
    (failure : Option WorkerPublicFailure) (durationMs : UInt64) : RemoteBuildEventKind :=
  if ended.cancelled && failure.isNone then .operationCancelled "user_requested" durationMs
  else .operationFinished (outcome = .succeeded) durationMs (some result)
    (failure.map WorkerPublicFailure.errorInfo)

/-- The report of a job that has been cleaned up, and its terminal event. -/
def finishRun (ended : BuildEnd) (cleanup : CleanupRun) : JobM WorkerJobReport := do
  let failure := (cleanup.error.map WorkerJobError.publicFailure).or ended.failure
  let outcome := jobOutcome ended cleanup.confirmation failure
  updateState fun state => { state with phase := .complete, failure := failure }
  let now ← call .unixTimeMs
  updateState (·.touch now)
  let runner ← get
  ofExcept runner.state.validate
  let result := buildResult job ended cleanup.confirmation
  ofExcept (result.validate.mapError fun _ => .invalidArtifactEvidence)
  let durationMs ← elapsedFromStart
  emit tools job (terminalEvent ended outcome result failure durationMs)
  let last ← get
  let report := { jobReport job runner outcome result failure with state := last.state }
  let _ ← ofExcept report.encodeJson
  return report

def run : JobM WorkerJobReport := do
  let pipeline ← attempt (runPipeline tools job)
  let closed ← attempt finishActivePhase
  let ended ← endBuild (pipelineResult pipeline closed)
  let cleanup ← runCleanup tools job ended.buildState
  finishRun tools job ended cleanup

def WorkerJobRunner.new (startedAtMs monotonicStartMs : UInt64) :
    Except WorkerJobError WorkerJobRunner := do
  let requestSha256 ← job.requestSha256 tools
  let state : WorkerJobState := {
    schemaVersion := workerJobSchemaVersion
    jobId := job.jobId
    requestSha256
    state := .created
    phase := .accepted
    sequence := 0
    startedAtMs
    updatedAtMs := startedAtMs
    sourceSha256 := none
    timings := []
    failure := none }
  state.validate
  return {
    state, monotonicStartMs, activePhase := none, sourceArchive := none
    buildEvidence := none, signingEvidence := none }

def executeWorkerJob (jobRoot : String) :
    ProgM JobOp JobRes Unit WorkerJobError WorkerJobReport := do
  ofExcept (job.validate tools)
  ensure (UnixPath.isAbsolute jobRoot.toList) .invalidJobRoot
  let opened ← call (.openRoot jobRoot)
  ensure opened .invalidJobRoot
  let bound ← call (.verifyRoot .checkpoint)
  ensure bound .jobRootChanged
  let startedAtMs ← call .unixTimeMs
  let monotonicStartMs ← call .monotonicTimeMs
  let runner ← ofExcept (WorkerJobRunner.new tools job startedAtMs monotonicStartMs)
  fun _ => (run tools job runner).bind fun out => .ret (out.1, ())

end

end RustFerry.Worker
