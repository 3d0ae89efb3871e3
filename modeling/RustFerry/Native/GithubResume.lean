import RustFerry.Native.GitSnapshot

/-!
# Durable checkpoints of a GitHub job

`rustferry-github/src/provider.rs` and `snapshot.rs`: the secret-free checkpoint of
one provider job (`GithubJobResumeV1`), the checks a checkpoint passes by itself, and
the relation between a checkpoint and its replacement. `rustferry-core`'s encoding of
filesystem identities is here too.

Rebuilding the request of a workflow dispatch, the canonical text of a snapshot
descriptor and the text of the compile evidence are parameters.
-/

namespace RustFerry.Github

open Remote Except Source

/-! ## Limits and names -/

/-- `GITHUB_PROVIDER_ID`. -/
def githubProviderId : String := "github-actions"

/-- `GITHUB_PUBLICATION_QUIESCENCE_WINDOW_MS`. -/
def publicationQuiescenceWindowMs : UInt64 := 75 * 60 * 1000

/-- `GITHUB_JOB_RESUME_MAX_BYTES`. -/
def githubJobResumeMaxBytes : Nat := 16 * 1024 * 1024

/-- `IOS_DEVICE_RUST_TARGET`. -/
def iosDeviceRustTarget : String := "aarch64-apple-ios"

/-- `u64::MAX`. -/
def u64Max : UInt64 := 0xffffffffffffffff

/-- `u64::saturating_add`. -/
def saturatingAdd (a b : UInt64) : UInt64 :=
  if a.toNat + b.toNat < 2 ^ 64 then a + b else u64Max

/-! ## Filesystem identities -/

def isLowerHex (value : List Char) : Bool := value.all fun c => c.isDigit || ('a' ≤ c && c ≤ 'f')

def isLowerSha256 (value : String) : Bool := value.utf8ByteSize == 64 && isLowerHex value.toList

theorem isLowerSha256_ofList {cs : List Char} (hlength : cs.length = 64)
    (h : isLowerHex cs = true) : isLowerSha256 (String.ofList cs) = true :=
  Source.isLowercaseSha256_ofList hlength h

/-- Two hexadecimal texts of given lengths around the first colon. -/
def validPair (value : List Char) (firstLength secondLength : Nat) : Bool :=
  match value.span (· != ':') with
  | (first, _ :: second) =>
    first.length == firstLength && second.length == secondLength && isLowerHex first &&
      isLowerHex second
  | _ => false

def validIdentityEncoding (value kind : String) : Bool :=
  match Text.stripFront kind.toList value.toList with
  | none => false
  | some encoded =>
    match Text.stripFront "windows:".toList encoded, Text.stripFront "unix:".toList encoded with
    | some encoded, _ => validPair encoded 16 32
    | none, some encoded => validPair encoded 16 16
    | none, none => false

/-- `str::parse::<DirectoryFilesystemIdentity>`; the value keeps its text. -/
def parseDirectoryIdentity (value : String) : Option String :=
  if validIdentityEncoding value "rustferry-directory-v1:" then some value else none

/-- `str::parse::<RegularFileFilesystemIdentity>`. -/
def parseRegularFileIdentity (value : String) : Option String :=
  if validIdentityEncoding value "rustferry-regular-file-v1:" then some value else none

def validDistinctDirectoryIdentities (root store stage : String) : Bool :=
  (parseDirectoryIdentity root).isSome && (parseDirectoryIdentity store).isSome &&
    (parseDirectoryIdentity stage).isSome && root != store && root != stage && store != stage

/-! ## Evidence -/

/-- Public toolchain evidence of the compile phase; `details` is the text of the fields that no
    check reads. -/
structure CompileToolchainEvidence where
  iphoneosSdkVersion : String
  iphoneosSdkBuildVersion : String
  rustTarget : String
  details : String
  deriving DecidableEq

/-- Deterministic sealed unsigned archive descriptor. -/
structure SealedUnsignedArchive where
  schemaVersion : UInt32
  transport : Snapshot.SourceArchive
  contents : Snapshot.SourceManifest
  expectation : Artifact.UnsignedXcarchiveExpectation
  deriving DecidableEq

/-- Credential-free evidence of the compile phase; `details` is the text of the fields that no
    check reads. -/
structure CompilePhaseEvidence where
  schemaVersion : UInt32
  jobId : String
  provider : String
  requestSha256 : String
  sourceSha256 : String
  cargoLockSha256 : String
  configSha256 : String
  toolchain : CompileToolchainEvidence
  sealedArchive : SealedUnsignedArchive
  details : String
  deriving DecidableEq

/-- Authenticated principal kind and identity. -/
inductive GithubPrincipalIdentityV1 where
  | user (id : UInt64) (login : String)
  | repositoryCredential
  deriving DecidableEq

/-- Trigger event retained with an exact durable run identity. -/
inductive GithubRunEventV1 where
  | push
  | workflowDispatch
  deriving DecidableEq

/-- GitHub run status retained in a durable provider checkpoint. -/
inductive GithubRunStatusV1 where
  | requested
  | queued
  | pending
  | waiting
  | inProgress
  | completed
  deriving DecidableEq

/-- Terminal GitHub conclusion retained in a durable provider checkpoint. -/
inductive GithubRunConclusionV1 where
  | success
  | failure
  | cancelled
  | timedOut
  | neutral
  | skipped
  | stale
  | actionRequired
  | startupFailure
  deriving DecidableEq

/-- Exact GitHub Actions run and attempt identity. -/
structure GithubRunIdentityV1 where
  runId : UInt64
  workflowId : UInt64
  workflowPath : String
  headSha : String
  branch : String
  event : GithubRunEventV1
  runNumber : UInt64
  runAttempt : UInt64
  status : GithubRunStatusV1
  conclusion : Option GithubRunConclusionV1
  deriving DecidableEq

/-- Proof that one exact signed GitHub run attempt completed protected cleanup. -/
structure GithubSignedCleanupEvidenceV1 where
  schemaVersion : UInt32
  provider : String
  operationId : String
  jobId : String
  executionRepository : String
  executionRepositoryId : UInt64
  requestSha256 : String
  sourceRepository : String
  sourceRevision : String
  sourceSha256 : String
  dispatchRevision : String
  run : GithubRunIdentityV1
  compileEvidenceSha256 : String
  manifestSha256 : String
  signingReportSha256 : String
  validationReportSha256 : String
  githubArtifactId : UInt64
  githubArtifactApiSha256 : String
  deriving DecidableEq

/-! ## Snapshots -/

/-- Path-free durable authority for reopening one exact completed stage. -/
structure GitSnapshotStageLocatorV1 where
  schemaVersion : UInt32
  operationId : String
  isolationRootIdentity : String
  snapshotsStoreIdentity : String
  stageDirectoryIdentity : String
  metadataFileIdentity : String
  deriving DecidableEq

/-- Complete identity of the two blobs, three nested trees, and parentless commit. -/
structure GitSnapshotObjectGraphV1 where
  schemaVersion : UInt32
  archiveBlob : String
  descriptorBlob : String
  goal3Tree : String
  rustferryTree : String
  rootTree : String
  commit : String
  deriving DecidableEq

/-- Compact create-only metadata that binds a private stage to its canonical graph. -/
structure GitSnapshotStageV1 where
  schemaVersion : UInt32
  operationId : String
  isolationRootIdentity : String
  snapshotsStoreIdentity : String
  stageDirectoryIdentity : String
  sourceRepository : String
  sourceRef : String
  keepaliveRef : String
  sourceCreatedAtMs : UInt64
  consentSha256 : String
  requestTemplateSha256 : String
  manifestSha256 : String
  archive : Snapshot.SourceArchive
  descriptorSha256 : String
  finalRequest : IosDeviceBuildRequest
  archiveFileIdentity : String
  descriptorFileIdentity : String
  graph : GitSnapshotObjectGraphV1
  deriving DecidableEq

/-- Durable mutation phase for one exact Git snapshot. -/
inductive GithubGitSnapshotPhaseV1 where
  | prepared
  | keepaliveIntent
  | keepaliveExact
  | stageDeleteIntent
  | stageDeleted
  | sourcePublishIntent
  | sourceExact
  | sourceAbsent
  | sourceConflict
  | sourceCleanupIntent
  | sourceDeleted
  | keepaliveReleaseIntent
  | keepaliveReleased
  deriving DecidableEq

/-- Versioned resume state for one Git snapshot. -/
structure GithubGitSnapshotResumeV1 where
  schemaVersion : UInt32
  stageLocator : GitSnapshotStageLocatorV1
  stage : GitSnapshotStageV1
  phase : GithubGitSnapshotPhaseV1
  sourcePublicationAttempts : UInt8
  sourcePublicationStartedAtMs : UInt64
  sourcePublicationQuiescenceDeadlineMs : UInt64
  sourcePublicationProcessFenced : Bool
  sourcePublicationLeaseScopeSha256 : Option String
  sourcePublicationAbsenceObservations : UInt8
  sourcePublicationAbsenceFirstObservedAtMs : UInt64
  sourcePublicationAbsenceLastObservedAtMs : UInt64
  keepaliveReleaseAuthorizationSha256 : Option String
  deriving DecidableEq

/-! ## The checkpoint -/

/-- Exact run-ID receipt of a workflow dispatch. -/
structure GithubWorkflowDispatchReceiptV1 where
  runId : UInt64
  workflowId : UInt64
  workflowPath : String
  branch : String
  dispatchRevision : String
  runName : String
  deriving DecidableEq

/-- Durable no-resend boundary for one exact no-secret workflow dispatch. -/
structure GithubWorkflowDispatchResumeV1 where
  schemaVersion : UInt32
  workflowId : UInt64
  workflowPath : String
  branch : String
  operationId : String
  requestSha256 : String
  sourceRevision : String
  dispatchRevision : String
  bodySha256 : String
  runName : String
  uncertain : Bool
  receipt : Option GithubWorkflowDispatchReceiptV1
  deriving DecidableEq

/-- Versioned, secret-free durable state for one GitHub provider job. -/
structure GithubJobResumeV1 where
  schemaVersion : UInt32
  provider : String
  providerConfigSha256 : String
  principal : GithubPrincipalIdentityV1
  executionRepository : String
  executionRepositoryId : UInt64
  sourceRepository : String
  trustedSourceRef : String
  workflowPath : String
  workflowSha256 : String
  temporaryRef : String
  operationId : String
  jobId : String
  request : IosDeviceBuildRequest
  requestSha256 : String
  sourceRevision : String
  gitSnapshot : Option GithubGitSnapshotResumeV1
  preparedDispatchCommit : Option String
  dispatchCommit : Option String
  workflowDispatch : Option GithubWorkflowDispatchResumeV1
  run : Option GithubRunIdentityV1
  createdAtMs : UInt64
  publicationStartedAtMs : UInt64
  publicationQuiescenceDeadlineMs : UInt64
  state : JobState
  publicationIntent : Bool
  publicationUncertain : Bool
  publicationAbsent : Bool
  publicationNotAttempted : Bool
  publicationProcessFenced : Bool
  publicationLeaseScopeSha256 : Option String
  publicationAbsenceObservations : UInt8
  publicationAbsenceFirstObservedAtMs : UInt64
  cancellationRequested : Bool
  cancellationDispatched : Bool
  cleanupRequested : Bool
  removeArtifactsRequested : Bool
  artifactsRemoved : Bool
  temporaryRefDeleted : Bool
  verificationPendingEvent : Bool
  runDiscoveryAttempts : UInt16
  runDiscoveryDeadlineMs : UInt64
  manifests : List ArtifactManifest
  compileEvidence : Option CompilePhaseEvidence
  signedCleanupEvidence : Option GithubSignedCleanupEvidenceV1
  events : List RemoteBuildEvent
  deriving DecidableEq

/-- What the checks of a checkpoint take from other modules and crates. -/
structure ResumeTools where
  request : RequestTools
  parseUrl : ParseUrl
  /-- Size of the compact JSON text of a checkpoint with its newline. -/
  encodedLength : GithubJobResumeV1 → Nat
  /-- Compact JSON text of compile evidence. -/
  compileEvidenceBytes : CompilePhaseEvidence → List UInt8
  /-- `canonical_git_snapshot_descriptor_bytes`. -/
  descriptorBytes : GitSnapshotDescriptor → Option (List UInt8)
  /-- `WorkflowDispatchRequest::new` on what the checkpoint holds: the branch, the digest of
      the body and the run name. -/
  dispatchRequest : GithubJobResumeV1 → GithubWorkflowDispatchResumeV1 →
    Option (String × String × String)

/-! ## Checks -/

/-- Failures of a checkpoint: a provider failure with its code, or the request's own. -/
inductive ResumeError where
  | failure (code : String)
  | request (error : RequestError)
  deriving DecidableEq

abbrev ResumeResult := Except ResumeError

def resumeFailure (code : String) : ResumeError := .failure code

def optionCanBindOnce {α : Type} [DecidableEq α] : Option α → Option α → Bool
  | none, _ => true
  | some _, none => false
  | some previous, some next => previous == next

def boolIsMonotonic (previous next : Bool) : Bool := !previous || next

def isSafePublicIdentifier (value : String) : Bool :=
  value != "" && value.utf8ByteSize ≤ 255 &&
    value.toList.all fun c => c.isAlphanum || c == '-' || c == '_' || c == '.' || c == ':'

/-- Digest of the project file of that name in the source manifest. -/
def sourceProjectFileSha256 (request : IosDeviceBuildRequest) (fileName : String) :
    Option String :=
  let path := if request.source.projectPath == "." then fileName
    else request.source.projectPath ++ "/" ++ fileName
  (request.source.entries.find? fun entry => entry.path == path).map (·.sha256)

/-- The loop of `source_cargo_lock_sha256` on the components that are left, last one first. -/
def cargoLockSha256From (request : IosDeviceBuildRequest) : List (List Char) → Option String
  | [] => (request.source.entries.find? fun entry => entry.path == "Cargo.lock").map (·.sha256)
  | last :: rest =>
    let path := String.ofList (['/'].intercalate (last :: rest).reverse) ++ "/Cargo.lock"
    match request.source.entries.find? fun entry => entry.path == path with
    | some entry => some entry.sha256
    | none => cargoLockSha256From request rest

def sourceCargoLockSha256 (request : IosDeviceBuildRequest) : Option String :=
  cargoLockSha256From request <|
    if request.source.projectPath == "." then []
    else (Text.split '/' request.source.projectPath.toList).reverse

/-- `GithubArtifactExpectation::new` finds the compile evidence to differ from the request. -/
def compileEvidenceMismatch (evidence : CompilePhaseEvidence) (request : IosDeviceBuildRequest)
    (requestSha256 jobId : String) : Bool :=
  let expectation := evidence.sealedArchive.expectation
  let product := request.product
  !isSafePublicIdentifier jobId || !isSafePublicIdentifier githubProviderId ||
    evidence.schemaVersion != 1 || evidence.sealedArchive.schemaVersion != 1 ||
    evidence.jobId != jobId || evidence.provider != githubProviderId ||
    evidence.requestSha256 != requestSha256 || evidence.sourceSha256 != request.source.sha256 ||
    sourceProjectFileSha256 request "ferry.toml" != some evidence.configSha256 ||
    sourceCargoLockSha256 request != some evidence.cargoLockSha256 ||
    expectation.appDirectoryName != product.appDirectoryName ||
    expectation.bundleIdentifier != request.bundleIdentifier ||
    expectation.executable != product.executable ||
    expectation.appVersion != product.appVersion ||
    expectation.buildNumber != product.buildNumber ||
    expectation.minimumOs != request.minimumIosVersion ||
    expectation.nestedBundles != product.nestedBundles ||
    expectation.sdkVersion != evidence.toolchain.iphoneosSdkVersion ||
    expectation.sdkBuildVersion != evidence.toolchain.iphoneosSdkBuildVersion ||
    evidence.toolchain.rustTarget != iosDeviceRustTarget ||
    !isLowerSha256 evidence.sealedArchive.transport.sha256

def validateGithubCompilePhaseEvidence (tools : ResumeTools) (evidence : CompilePhaseEvidence)
    (request : IosDeviceBuildRequest) (jobId : String) : ResumeResult Unit := do
  (request.validate tools.request).mapError fun _ => resumeFailure "compile_evidence_invalid"
  let requestSha256 ← (canonicalRequestSha256 tools.request request).mapError
    fun _ => resumeFailure "compile_evidence_invalid"
  rejectIf (compileEvidenceMismatch evidence request requestSha256 jobId)
    (resumeFailure "compile_evidence_invalid")

def oneArtifact (manifest : ArtifactManifest) (kind : ArtifactKind) (code : String) :
    ResumeResult ArtifactRecord :=
  match manifest.artifacts.filter fun artifact => artifact.kind = kind with
  | [artifact] => .ok artifact
  | _ => .error (resumeFailure code)

namespace GithubSignedCleanupEvidenceV1

/-- The comparisons of `validate_for_resume`. -/
def mismatch (self : GithubSignedCleanupEvidenceV1) (resume : GithubJobResumeV1)
    (compile : CompilePhaseEvidence) (compileSha256 : String) (run : GithubRunIdentityV1)
    (manifest : ArtifactManifest) (manifestRecord signingReport validationReport : ArtifactRecord) :
    Bool :=
  self.schemaVersion != 1 || self.provider != githubProviderId ||
    self.operationId != resume.operationId || self.jobId != resume.jobId ||
    self.executionRepository != resume.executionRepository || self.executionRepositoryId == 0 ||
    self.executionRepositoryId != resume.executionRepositoryId ||
    self.requestSha256 != resume.requestSha256 ||
    self.sourceRepository != resume.sourceRepository ||
    self.sourceRevision != resume.sourceRevision ||
    self.sourceSha256 != resume.request.source.sha256 ||
    resume.dispatchCommit != some self.dispatchRevision || self.run != run ||
    self.run.status != .completed || self.run.conclusion != some .success ||
    self.compileEvidenceSha256 != compileSha256 ||
    self.manifestSha256 != manifestRecord.sha256 ||
    self.signingReportSha256 != signingReport.sha256 ||
    self.validationReportSha256 != validationReport.sha256 || self.githubArtifactId == 0 ||
    !isLowerSha256 self.compileEvidenceSha256 || !isLowerSha256 self.manifestSha256 ||
    !isLowerSha256 self.signingReportSha256 ||
    !isLowerSha256 self.validationReportSha256 ||
    !isLowerSha256 self.githubArtifactApiSha256 ||
    resume.request.signing.mode != .manualDevelopment ||
    manifest.operationId != resume.operationId || manifest.jobId != resume.jobId ||
    manifest.provider != githubProviderId ||
    manifest.sourceRepository != some resume.sourceRepository ||
    manifest.sourceRevision != some resume.sourceRevision ||
    manifest.sourceSha256 != compile.sourceSha256 ||
    manifest.cargoLockSha256 != compile.cargoLockSha256 ||
    manifest.configSha256 != compile.configSha256 || manifest.cleanupStatus != .confirmed ||
    manifest.signing.mode != .manualDevelopment ||
    manifest.signing.status != .artifactValidated

/-- Validate this proof against every durable identity and artifact digest in a checkpoint. -/
def validateForResume (tools : ResumeTools) (self : GithubSignedCleanupEvidenceV1)
    (resume : GithubJobResumeV1) : ResumeResult Unit :=
  match resume.compileEvidence with
  | none => .error (resumeFailure "signed_cleanup_compile_evidence_missing")
  | some compile => do
    validateGithubCompilePhaseEvidence tools compile resume.request resume.jobId
    match resume.run, resume.manifests with
    | none, _ => .error (resumeFailure "signed_cleanup_run_identity_missing")
    | some run, [manifest] => do
      let manifestRecord ← oneArtifact manifest .manifest "signed_cleanup_manifest_digest_missing"
      let signingReport ← oneArtifact manifest .signingReport
        "signed_cleanup_report_digest_missing"
      let validationReport ← oneArtifact manifest .validationReport
        "signed_cleanup_report_digest_missing"
      let compileSha256 := tools.request.inspection.sha256 (tools.compileEvidenceBytes compile)
      rejectIf (self.mismatch resume compile compileSha256 run manifest manifestRecord
          signingReport validationReport)
        (resumeFailure "signed_cleanup_evidence_mismatch")
    | some _, _ => .error (resumeFailure "signed_cleanup_manifest_set_invalid")

end GithubSignedCleanupEvidenceV1

/-! ## Snapshot checks -/

def GitSnapshotStageLocatorV1.validateForOperation (self : GitSnapshotStageLocatorV1)
    (operationId code : String) : ResumeResult Unit :=
  rejectIf (self.schemaVersion != 1 || self.operationId != operationId ||
      !(gitSnapshotRef operationId).toBool ||
      !validDistinctDirectoryIdentities self.isolationRootIdentity self.snapshotsStoreIdentity
        self.stageDirectoryIdentity ||
      (parseRegularFileIdentity self.metadataFileIdentity).isNone)
    (resumeFailure code)

/-- `GitSnapshotKeepaliveRef::for_operation`. -/
def gitSnapshotKeepaliveRef (operationId : String) : SourceResult String := do
  let _ ← gitSnapshotRef operationId
  return "refs/rustferry/goal3/keepalive/" ++ operationId

namespace GitSnapshotStageV1

/-- The comparisons of `validate_for_descriptor`. -/
def mismatch (self : GitSnapshotStageV1) (descriptor : GitSnapshotDescriptor)
    (sourceRef keepaliveRef : String) : Bool :=
  self.schemaVersion != 1 || self.sourceCreatedAtMs / 1000 > 0x7fffffffffffffff ||
    !validDistinctDirectoryIdentities self.isolationRootIdentity self.snapshotsStoreIdentity
      self.stageDirectoryIdentity ||
    !isLowerSha256 self.consentSha256 || !isLowerSha256 self.requestTemplateSha256 ||
    !isLowerSha256 self.manifestSha256 || !isLowerSha256 self.descriptorSha256 ||
    self.sourceRef != sourceRef || self.keepaliveRef != keepaliveRef ||
    self.sourceRef != descriptor.snapshotRef ||
    self.sourceRepository != descriptor.sourceRepository ||
    self.requestTemplateSha256 != descriptor.requestTemplateSha256 ||
    self.manifestSha256 != descriptor.bundle.manifest.sha256 ||
    self.archive != descriptor.bundle.archive ||
    (parseRegularFileIdentity self.archiveFileIdentity).isNone ||
    (parseRegularFileIdentity self.descriptorFileIdentity).isNone ||
    self.archiveFileIdentity == self.descriptorFileIdentity

/-- Compact fields and their exact canonical descriptor binding. -/
def validateForDescriptor (tools : ResumeTools) (self : GitSnapshotStageV1)
    (descriptor : GitSnapshotDescriptor) (failure : ResumeError) : ResumeResult Unit := do
  let sourceRef ← (gitSnapshotRef self.operationId).mapError fun _ => failure
  let keepaliveRef ← (gitSnapshotKeepaliveRef self.operationId).mapError fun _ => failure
  rejectIf (self.mismatch descriptor sourceRef keepaliveRef) failure
  (descriptor.validate tools.request gitSnapshotArchiveLimits).mapError fun _ => failure
  rejectIf (self.graph.schemaVersion != 1) failure
  (descriptor.validateForRequest tools.request self.finalRequest gitSnapshotArchiveLimits).mapError
    fun _ => failure
  rejectIf (self.finalRequest.operationId != self.operationId ||
    self.finalRequest.sourceRevision != some self.graph.commit) failure
  match tools.descriptorBytes descriptor with
  | none => .error failure
  | some bytes => rejectIf (tools.request.inspection.sha256 bytes != self.descriptorSha256) failure

/-- Exact binding to the already-durable final request and commit revision. -/
def validateForRequest (tools : ResumeTools) (self : GitSnapshotStageV1)
    (descriptor : GitSnapshotDescriptor) (request : IosDeviceBuildRequest)
    (failure : ResumeError) : ResumeResult Unit := do
  self.validateForDescriptor tools descriptor failure
  (descriptor.validateForRequest tools.request request gitSnapshotArchiveLimits).mapError
    fun _ => failure
  rejectIf (request != self.finalRequest || request.sourceRevision != some self.graph.commit)
    failure

end GitSnapshotStageV1

namespace GithubGitSnapshotPhaseV1

/-- Phases before the public source ref is touched. -/
def beforeSource : GithubGitSnapshotPhaseV1 → Bool
  | .prepared | .keepaliveIntent | .keepaliveExact | .stageDeleteIntent | .stageDeleted => true
  | _ => false

def keepaliveRelease : GithubGitSnapshotPhaseV1 → Bool
  | .keepaliveReleaseIntent | .keepaliveReleased => true
  | _ => false

/-- Phases that own an armed source publication. -/
def ownsSource : GithubGitSnapshotPhaseV1 → Bool
  | .sourceExact | .sourceConflict | .sourceCleanupIntent | .sourceDeleted
  | .keepaliveReleaseIntent | .keepaliveReleased => true
  | _ => false

/-- Phases in which a dispatch may be published. -/
def allowsDispatch : GithubGitSnapshotPhaseV1 → Bool
  | .sourceExact | .sourceCleanupIntent | .sourceDeleted | .keepaliveReleaseIntent
  | .keepaliveReleased => true
  | _ => false

/-- Phases in which the public source ref is gone or not this job's. -/
def sourceClean : GithubGitSnapshotPhaseV1 → Bool
  | .sourceAbsent | .sourceConflict | .sourceDeleted | .keepaliveReleaseIntent
  | .keepaliveReleased => true
  | _ => false

def canAdvanceTo (self next : GithubGitSnapshotPhaseV1) : Bool :=
  self = next || match self, next with
    | .prepared, .keepaliveIntent | .keepaliveIntent, .keepaliveExact
    | .keepaliveExact, .stageDeleteIntent | .stageDeleteIntent, .stageDeleted
    | .stageDeleted, .sourcePublishIntent | .sourceAbsent, .sourcePublishIntent
    | .sourcePublishIntent, .sourceExact | .sourcePublishIntent, .sourceAbsent
    | .sourcePublishIntent, .sourceConflict | .sourceExact, .sourceCleanupIntent
    | .sourceExact, .sourceConflict | .sourceCleanupIntent, .sourceDeleted
    | .sourceDeleted, .keepaliveReleaseIntent | .sourceAbsent, .keepaliveReleaseIntent
    | .sourceConflict, .keepaliveReleaseIntent
    | .keepaliveReleaseIntent, .keepaliveReleased => true
    | _, _ => false

end GithubGitSnapshotPhaseV1

namespace GithubGitSnapshotResumeV1

/-- The bindings and bounds of `validate_for_request`. -/
def bindingInvalid (self : GithubGitSnapshotResumeV1) : Bool :=
  self.stageLocator.operationId != self.stage.operationId ||
    self.stageLocator.isolationRootIdentity != self.stage.isolationRootIdentity ||
    self.stageLocator.snapshotsStoreIdentity != self.stage.snapshotsStoreIdentity ||
    self.stageLocator.stageDirectoryIdentity != self.stage.stageDirectoryIdentity ||
    self.sourcePublicationAttempts > 3 || self.sourcePublicationAbsenceObservations > 2 ||
    (self.sourcePublicationAbsenceObservations == 0) !=
      (self.sourcePublicationAbsenceFirstObservedAtMs == 0) ||
    (self.sourcePublicationAbsenceObservations == 0) !=
      (self.sourcePublicationAbsenceLastObservedAtMs == 0) ||
    self.sourcePublicationAbsenceLastObservedAtMs <
      self.sourcePublicationAbsenceFirstObservedAtMs ||
    self.sourcePublicationProcessFenced != self.sourcePublicationLeaseScopeSha256.isSome ||
    self.sourcePublicationLeaseScopeSha256.any (!isLowerSha256 ·) ||
    self.keepaliveReleaseAuthorizationSha256.any (!isLowerSha256 ·)

/-- The checks of `validate_for_request` on the phase and the source publication. -/
def validatePhase (self : GithubGitSnapshotResumeV1) : ResumeResult Unit := do
  let sourcePhase := !self.phase.beforeSource
  rejectIf (self.phase.beforeSource && (self.sourcePublicationAttempts != 0 ||
      self.sourcePublicationStartedAtMs != 0 || self.sourcePublicationQuiescenceDeadlineMs != 0 ||
      self.sourcePublicationProcessFenced || self.sourcePublicationAbsenceObservations != 0))
    (resumeFailure "resume_git_snapshot_source_started_early")
  rejectIf (sourcePhase && self.sourcePublicationAttempts == 0)
    (resumeFailure "resume_git_snapshot_source_intent_missing")
  rejectIf (sourcePhase && !self.sourcePublicationProcessFenced)
    (resumeFailure "resume_git_snapshot_source_fence_missing")
  rejectIf (self.sourcePublicationStartedAtMs == 0 && sourcePhase &&
      self.sourcePublicationQuiescenceDeadlineMs != u64Max)
    (resumeFailure "resume_git_snapshot_source_boundary_invalid")
  rejectIf (self.sourcePublicationStartedAtMs != 0 &&
      self.sourcePublicationQuiescenceDeadlineMs < self.sourcePublicationStartedAtMs)
    (resumeFailure "resume_git_snapshot_source_boundary_invalid")
  rejectIf (self.phase.ownsSource && self.sourcePublicationStartedAtMs == 0)
    (resumeFailure "resume_git_snapshot_source_ownership_unarmed")
  rejectIf (self.phase = .sourceAbsent && (!self.sourcePublicationProcessFenced ||
      self.sourcePublicationAbsenceObservations < 2 || self.sourcePublicationStartedAtMs == 0 ||
      self.sourcePublicationAbsenceLastObservedAtMs <
        self.sourcePublicationQuiescenceDeadlineMs))
    (resumeFailure "resume_git_snapshot_absence_unproven")
  rejectIf (self.phase.keepaliveRelease != self.keepaliveReleaseAuthorizationSha256.isSome)
    (resumeFailure "resume_git_snapshot_keepalive_release_authority_invalid")

def validateForRequest (tools : ResumeTools) (self : GithubGitSnapshotResumeV1)
    (request : IosDeviceBuildRequest) : ResumeResult Unit := do
  rejectIf (self.schemaVersion != 1 || request.sourceMode != .gitSnapshot ||
      request.signing.mode != .unsignedCompileOnly)
    (resumeFailure "resume_git_snapshot_mode_invalid")
  self.stageLocator.validateForOperation request.operationId
    "resume_git_snapshot_locator_invalid"
  let descriptor ← (GitSnapshotDescriptor.fromRequest tools.request request
    ⟨sourceBundleDescriptorSchemaVersion, self.stage.archive, request.source⟩).mapError
    fun _ => resumeFailure "resume_git_snapshot_descriptor_invalid"
  self.stage.validateForRequest tools descriptor request
    (resumeFailure "resume_git_snapshot_stage_invalid")
  rejectIf self.bindingInvalid (resumeFailure "resume_git_snapshot_binding_invalid")
  self.validatePhase

/-- The last checks of `validate_successor`: what may happen to the armed publication. -/
def validatePublicationSuccessor (self next : GithubGitSnapshotResumeV1) : ResumeResult Unit :=
  if self.phase = .sourceAbsent ∧ next.phase = .sourcePublishIntent then
    rejectIf (next.sourcePublicationStartedAtMs != 0 ||
        next.sourcePublicationQuiescenceDeadlineMs != u64Max ||
        next.sourcePublicationAbsenceObservations != 0 ||
        next.sourcePublicationAbsenceFirstObservedAtMs != 0 ||
        next.sourcePublicationAbsenceLastObservedAtMs != 0)
      (resumeFailure "resume_git_snapshot_retry_not_rearmed")
  else do
    rejectIf (self.sourcePublicationStartedAtMs != 0 &&
        self.sourcePublicationStartedAtMs != next.sourcePublicationStartedAtMs)
      (resumeFailure "resume_git_snapshot_start_changed")
    rejectIf (self.sourcePublicationQuiescenceDeadlineMs != 0 &&
        self.sourcePublicationStartedAtMs != 0 &&
        self.sourcePublicationQuiescenceDeadlineMs !=
          next.sourcePublicationQuiescenceDeadlineMs)
      (resumeFailure "resume_git_snapshot_deadline_changed")
    rejectIf (self.sourcePublicationAbsenceObservations >
          next.sourcePublicationAbsenceObservations ||
        self.sourcePublicationAbsenceFirstObservedAtMs != 0 &&
          self.sourcePublicationAbsenceFirstObservedAtMs !=
            next.sourcePublicationAbsenceFirstObservedAtMs ||
        self.sourcePublicationAbsenceLastObservedAtMs >
          next.sourcePublicationAbsenceLastObservedAtMs)
      (resumeFailure "resume_git_snapshot_absence_regressed")

/-- The attempts the successor must have; `none` on overflow. -/
def expectedAttempts (self next : GithubGitSnapshotResumeV1) : Option UInt8 :=
  if (self.phase = .sourceAbsent ∨ self.phase = .stageDeleted) ∧
      next.phase = .sourcePublishIntent then
    if self.sourcePublicationAttempts = 255 then none
    else some (self.sourcePublicationAttempts + 1)
  else some self.sourcePublicationAttempts

def validateSuccessor (self next : GithubGitSnapshotResumeV1) : ResumeResult Unit := do
  rejectIf (self.schemaVersion != next.schemaVersion || self.stageLocator != next.stageLocator ||
      self.stage != next.stage ||
      self.sourcePublicationProcessFenced && !next.sourcePublicationProcessFenced ||
      !optionCanBindOnce self.sourcePublicationLeaseScopeSha256
        next.sourcePublicationLeaseScopeSha256 ||
      !optionCanBindOnce self.keepaliveReleaseAuthorizationSha256
        next.keepaliveReleaseAuthorizationSha256)
    (resumeFailure "resume_git_snapshot_identity_changed")
  rejectIf (!self.phase.canAdvanceTo next.phase)
    (resumeFailure "resume_git_snapshot_phase_regressed")
  match self.expectedAttempts next with
  | none => .error (resumeFailure "resume_git_snapshot_attempt_overflow")
  | some attempts => do
    rejectIf (next.sourcePublicationAttempts != attempts)
      (resumeFailure "resume_git_snapshot_attempt_invalid")
    self.validatePublicationSuccessor next

end GithubGitSnapshotResumeV1

/-! ## Checkpoint checks -/

def publicationQuiescenceDeadline (startedAtMs firstObservedAtMs : UInt64) : UInt64 :=
  saturatingAdd (max startedAtMs firstObservedAtMs) publicationQuiescenceWindowMs

def runStatusPhase : GithubRunStatusV1 → Nat
  | .requested => 0
  | .queued | .pending | .waiting => 1
  | .inProgress => 2
  | .completed => 3

def jobStateCanReach (previous next : JobState) : Bool :=
  previous = next || match previous with
    | .created => true
    | .queued => next ≠ .created
    | .running => next ≠ .created && next ≠ .queued
    | .cancelling => next = .failed || next = .cancelled || next = .cleaning ||
        next = .cleaned || next = .cleanupFailed
    | .succeeded | .failed | .cancelled => next = .cleaning || next = .cleaned ||
        next = .cleanupFailed
    | .cleaning => next = .cleaned || next = .cleanupFailed
    | .cleaned => false
    | .cleanupFailed => next = .cleaning || next = .cleaned || next = .cleanupFailed

namespace GithubJobResumeV1

def publicationBoundaryIsArmed (self : GithubJobResumeV1) : Bool :=
  self.publicationStartedAtMs ≥ self.createdAtMs && self.publicationStartedAtMs != 0 &&
    (self.publicationAbsenceFirstObservedAtMs == 0 ||
      self.publicationAbsenceFirstObservedAtMs ≥ self.publicationStartedAtMs) &&
    self.publicationQuiescenceDeadlineMs == publicationQuiescenceDeadline
      self.publicationStartedAtMs self.publicationAbsenceFirstObservedAtMs

def publicationBoundaryIsUnarmed (self : GithubJobResumeV1) : Bool :=
  self.publicationStartedAtMs == 0 && self.publicationQuiescenceDeadlineMs == u64Max &&
    self.publicationAbsenceFirstObservedAtMs == 0

def publicationBoundaryCanAdvance (previous next : GithubJobResumeV1) : Bool :=
  (previous.publicationBoundaryIsUnarmed || previous.publicationBoundaryIsArmed) &&
    (next.publicationBoundaryIsUnarmed || next.publicationBoundaryIsArmed) &&
    (previous.publicationStartedAtMs == next.publicationStartedAtMs &&
        (previous.publicationQuiescenceDeadlineMs == next.publicationQuiescenceDeadlineMs ||
          previous.publicationAbsenceFirstObservedAtMs == 0 &&
            next.publicationAbsenceFirstObservedAtMs != 0) ||
      previous.publicationBoundaryIsUnarmed && next.publicationBoundaryIsArmed)

/-- The receipt of a dispatch differs from the dispatch. -/
def receiptMismatch (dispatch : GithubWorkflowDispatchResumeV1)
    (receipt : GithubWorkflowDispatchReceiptV1) : Bool :=
  receipt.runId == 0 || receipt.workflowId != dispatch.workflowId ||
    receipt.workflowPath != dispatch.workflowPath || receipt.branch != dispatch.branch ||
    receipt.dispatchRevision != dispatch.dispatchRevision || receipt.runName != dispatch.runName

/-- The run is the one that the receipt of the dispatch names. -/
def receiptBindsRun (dispatch : GithubWorkflowDispatchResumeV1)
    (receipt : GithubWorkflowDispatchReceiptV1) (run : GithubRunIdentityV1) : Bool :=
  receipt.runId == run.runId && receipt.workflowId == dispatch.workflowId &&
    receipt.workflowPath == dispatch.workflowPath && receipt.branch == dispatch.branch &&
    receipt.dispatchRevision == dispatch.dispatchRevision &&
    receipt.runName == dispatch.runName && run.workflowId == receipt.workflowId &&
    run.workflowPath == receipt.workflowPath && run.headSha == receipt.dispatchRevision &&
    run.branch == receipt.branch && run.event == .workflowDispatch && run.runAttempt == 1

/-- The part of `validate_trigger_binding` for an explicit dispatch. -/
def validateDispatchBinding (tools : ResumeTools) (self : GithubJobResumeV1)
    (dispatch : GithubWorkflowDispatchResumeV1) : ResumeResult Unit := do
  rejectIf (!self.publicationIntent || self.publicationUncertain ||
      self.dispatchCommit != some dispatch.dispatchRevision || dispatch.schemaVersion != 1 ||
      dispatch.workflowPath != self.workflowPath || dispatch.operationId != self.operationId ||
      dispatch.operationId != self.request.operationId ||
      dispatch.requestSha256 != self.requestSha256 ||
      dispatch.sourceRevision != self.sourceRevision ||
      dispatch.uncertain != dispatch.receipt.isNone)
    (resumeFailure "resume_workflow_dispatch_identity_mismatch")
  (self.request.validate tools.request).mapError .request
  let requestSha256 ← (canonicalRequestSha256 tools.request self.request).mapError .request
  rejectIf (requestSha256 != self.requestSha256)
    (resumeFailure "resume_workflow_dispatch_request_mismatch")
  match tools.dispatchRequest self dispatch with
  | none => .error (resumeFailure "resume_workflow_dispatch_identity_invalid")
  | some (branch, bodySha256, runName) => do
    rejectIf (dispatch.branch != branch)
      (resumeFailure "resume_workflow_dispatch_branch_mismatch")
    rejectIf (bodySha256 != dispatch.bodySha256 || runName != dispatch.runName)
      (resumeFailure "resume_workflow_dispatch_body_mismatch")
    rejectIf (dispatch.receipt.any (receiptMismatch dispatch))
      (resumeFailure "resume_workflow_dispatch_receipt_mismatch")
    match dispatch.receipt, self.run with
    | none, some _ => .error (resumeFailure "resume_workflow_dispatch_receipt_missing")
    -- the run may be found later
    | _, none => .ok ()
    | some receipt, some run =>
      rejectIf (!receiptBindsRun dispatch receipt run)
        (resumeFailure "resume_workflow_dispatch_run_mismatch")

/-- The trigger-specific durable projection, without live configuration or credentials. -/
def validateTriggerBinding (tools : ResumeTools) (self : GithubJobResumeV1) :
    ResumeResult Unit :=
  match self.workflowDispatch with
  | none =>
    rejectIf (self.run.any fun run =>
        self.principal = .repositoryCredential || run.event ≠ .push)
      (resumeFailure "resume_run_trigger_mismatch")
  | some dispatch => self.validateDispatchBinding tools dispatch

/-- `encode`: only the size bound of the record can fail. -/
def encode (tools : ResumeTools) (self : GithubJobResumeV1) : ResumeResult Unit :=
  rejectIf (tools.encodedLength self > githubJobResumeMaxBytes)
    (resumeFailure "resume_record_too_large")

/-- The immutable identity of a checkpoint, and its lease scope. -/
def identityChanged (self next : GithubJobResumeV1) : Bool :=
  self.schemaVersion != next.schemaVersion || self.provider != next.provider ||
    self.providerConfigSha256 != next.providerConfigSha256 ||
    self.principal != next.principal || self.executionRepository != next.executionRepository ||
    self.executionRepositoryId != next.executionRepositoryId ||
    self.sourceRepository != next.sourceRepository ||
    self.trustedSourceRef != next.trustedSourceRef || self.workflowPath != next.workflowPath ||
    self.workflowSha256 != next.workflowSha256 || self.temporaryRef != next.temporaryRef ||
    self.operationId != next.operationId || self.jobId != next.jobId ||
    self.request != next.request || self.requestSha256 != next.requestSha256 ||
    self.sourceRevision != next.sourceRevision || self.createdAtMs != next.createdAtMs ||
    self.publicationProcessFenced && !next.publicationProcessFenced ||
    !optionCanBindOnce self.publicationLeaseScopeSha256 next.publicationLeaseScopeSha256 ||
    next.publicationLeaseScopeSha256.any (!isLowerSha256 ·) ||
    self.runDiscoveryDeadlineMs != next.runDiscoveryDeadlineMs

def validateSnapshotSuccessor (tools : ResumeTools) (self next : GithubJobResumeV1) :
    ResumeResult Unit :=
  match self.gitSnapshot, next.gitSnapshot with
  | none, none => .ok ()
  | some previous, some successor => do
    previous.validateForRequest tools self.request
    successor.validateForRequest tools next.request
    previous.validateSuccessor successor
  | _, _ => .error (resumeFailure "resume_successor_git_snapshot_replaced")

/-- The signing material of a cleaned job is known to be gone. -/
def cleanupProven (self : GithubJobResumeV1) : Bool :=
  match self.request.signing.mode with
  | .unsignedCompileOnly => self.run.any fun run => run.status = .completed
  | .manualDevelopment => self.signedCleanupEvidence.isSome
  | _ => false

/-- What `validate_successor` asks of the replacement by itself. -/
def validateReplacement (tools : ResumeTools) (next : GithubJobResumeV1) : ResumeResult Unit := do
  forSome next.compileEvidence fun evidence =>
    validateGithubCompilePhaseEvidence tools evidence next.request next.jobId
  forSome next.signedCleanupEvidence fun evidence => evidence.validateForResume tools next
  rejectIf (next.state = .cleaned && !next.cleanupProven)
    (resumeFailure "resume_successor_signing_cleanup_evidence_missing")
  rejectIf ((next.state = .cleaning || next.state = .cleaned || next.state = .cleanupFailed) &&
      next.gitSnapshot.any fun snapshot => !snapshot.phase.sourceClean)
    (resumeFailure "resume_successor_snapshot_source_cleanup_missing")

/-- The intent of a dispatch is kept, and its receipt once there is one. -/
def dispatchChanged (previous candidate : GithubWorkflowDispatchResumeV1) : Bool :=
  previous.schemaVersion != candidate.schemaVersion ||
    previous.workflowId != candidate.workflowId ||
    previous.workflowPath != candidate.workflowPath || previous.branch != candidate.branch ||
    previous.operationId != candidate.operationId ||
    previous.requestSha256 != candidate.requestSha256 ||
    previous.sourceRevision != candidate.sourceRevision ||
    previous.dispatchRevision != candidate.dispatchRevision ||
    previous.bodySha256 != candidate.bodySha256 || previous.runName != candidate.runName ||
    previous.receipt.isSome && previous.receipt != candidate.receipt ||
    previous.receipt.isNone && candidate.receipt.isNone &&
      previous.uncertain != candidate.uncertain ||
    candidate.uncertain != candidate.receipt.isNone

def runIdentityChanged (previous candidate : GithubRunIdentityV1) : Bool :=
  previous.runId != candidate.runId || previous.workflowId != candidate.workflowId ||
    previous.workflowPath != candidate.workflowPath || previous.headSha != candidate.headSha ||
    previous.branch != candidate.branch || previous.event != candidate.event ||
    previous.runNumber != candidate.runNumber || previous.runAttempt != candidate.runAttempt

def validateWorkflowDispatchSuccessor :
    Option GithubWorkflowDispatchResumeV1 → Option GithubWorkflowDispatchResumeV1 →
    ResumeResult Unit
  | none, _ => .ok ()
  | some _, none => .error (resumeFailure "resume_successor_workflow_dispatch_intent_removed")
  | some previous, some candidate =>
    rejectIf (dispatchChanged previous candidate)
      (resumeFailure "resume_successor_workflow_dispatch_changed")

def validateRunSuccessor :
    Option GithubRunIdentityV1 → Option GithubRunIdentityV1 → ResumeResult Unit
  | none, _ => .ok ()
  | some _, none => .error (resumeFailure "resume_successor_run_removed")
  | some previous, some candidate => do
    rejectIf (runIdentityChanged previous candidate)
      (resumeFailure "resume_successor_run_identity_changed")
    rejectIf (runStatusPhase candidate.status < runStatusPhase previous.status ||
        previous.conclusion.isSome && previous.conclusion != candidate.conclusion)
      (resumeFailure "resume_successor_run_regressed")

/-- The commits, the dispatch and the run of the checkpoint. -/
def validateDispatchSuccessor (self next : GithubJobResumeV1) : ResumeResult Unit := do
  rejectIf (!optionCanBindOnce self.preparedDispatchCommit next.preparedDispatchCommit)
    (resumeFailure "resume_successor_prepared_dispatch_changed")
  rejectIf (!optionCanBindOnce self.dispatchCommit next.dispatchCommit)
    (resumeFailure "resume_successor_dispatch_changed")
  rejectIf (match next.preparedDispatchCommit, next.dispatchCommit with
      | some prepared, some dispatch => prepared != dispatch
      | _, _ => false)
    (resumeFailure "resume_successor_dispatch_binding_mismatch")
  validateWorkflowDispatchSuccessor self.workflowDispatch next.workflowDispatch
  validateRunSuccessor self.run next.run

/-- One of the flags went back. -/
def flagRegressed (self next : GithubJobResumeV1) : Bool :=
  !boolIsMonotonic self.publicationIntent next.publicationIntent ||
    !boolIsMonotonic self.publicationAbsent next.publicationAbsent ||
    !boolIsMonotonic self.publicationNotAttempted next.publicationNotAttempted ||
    !boolIsMonotonic self.cancellationRequested next.cancellationRequested ||
    !boolIsMonotonic self.cancellationDispatched next.cancellationDispatched ||
    !boolIsMonotonic self.cleanupRequested next.cleanupRequested ||
    !boolIsMonotonic self.removeArtifactsRequested next.removeArtifactsRequested ||
    !boolIsMonotonic self.artifactsRemoved next.artifactsRemoved ||
    !boolIsMonotonic self.temporaryRefDeleted next.temporaryRefDeleted ||
    !boolIsMonotonic self.verificationPendingEvent next.verificationPendingEvent

/-- Flags, counters, events and manifests. -/
def validateProgressSuccessor (self next : GithubJobResumeV1) : ResumeResult Unit := do
  rejectIf (flagRegressed self next) (resumeFailure "resume_successor_flag_regressed")
  rejectIf (self.publicationUncertain && !next.publicationUncertain &&
      next.dispatchCommit.isNone && !next.publicationAbsent)
    (resumeFailure "resume_successor_publication_evidence_removed")
  rejectIf (next.runDiscoveryAttempts < self.runDiscoveryAttempts)
    (resumeFailure "resume_successor_discovery_regressed")
  rejectIf (next.publicationAbsenceObservations < self.publicationAbsenceObservations)
    (resumeFailure "resume_successor_publication_observations_regressed")
  rejectIf (self.publicationAbsenceFirstObservedAtMs != 0 &&
      self.publicationAbsenceFirstObservedAtMs != next.publicationAbsenceFirstObservedAtMs)
    (resumeFailure "resume_successor_publication_first_observation_changed")
  rejectIf (self.events.length > next.events.length ||
      self.events != next.events.take self.events.length)
    (resumeFailure "resume_successor_events_regressed")
  rejectIf (self.manifests != [] && self.manifests != next.manifests)
    (resumeFailure "resume_successor_manifests_changed")

/-- `next` is a non-stale complete replacement for this checkpoint. -/
def validateSuccessor (tools : ResumeTools) (self next : GithubJobResumeV1) :
    ResumeResult Unit := do
  rejectIf (identityChanged self next) (resumeFailure "resume_successor_identity_changed")
  self.validateSnapshotSuccessor tools next
  rejectIf (next.publicationIntent &&
      next.gitSnapshot.any fun snapshot => !snapshot.phase.allowsDispatch)
    (resumeFailure "resume_successor_dispatch_before_snapshot_source")
  rejectIf (!publicationBoundaryCanAdvance self next)
    (resumeFailure "resume_successor_publication_boundary_changed")
  rejectIf (!jobStateCanReach self.state next.state)
    (resumeFailure "resume_successor_state_regressed")
  rejectIf (!optionCanBindOnce self.compileEvidence next.compileEvidence)
    (resumeFailure "resume_successor_compile_evidence_changed")
  rejectIf (!optionCanBindOnce self.signedCleanupEvidence next.signedCleanupEvidence)
    (resumeFailure "resume_successor_signed_cleanup_evidence_changed")
  next.validateReplacement tools
  self.validateDispatchSuccessor next
  self.validateProgressSuccessor next

end GithubJobResumeV1

end RustFerry.Github
