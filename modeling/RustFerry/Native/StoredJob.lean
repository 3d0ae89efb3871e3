import RustFerry.ForStd.UnixPath
import RustFerry.Native.GithubResume

/-!
# Stored job records

`cargo-ferry/src/job_store.rs`: the machine record of a remote build job, its
lifecycle tables, the checks of one record and of a record and its successor, and the
reducer that projects a provider checkpoint onto the record. Paths are those of Unix.
-/

namespace RustFerry.JobStore

open Remote Github Except

/-! ## Limits -/

def maxRevisionsPerJob : Nat := 4096
def maxIdentifierBytes : Nat := 160
def maxSafeTextBytes : Nat := 4096
def maxArtifacts : Nat := 128
def maxRetryChildren : Nat := 256

/-- Logical schema of the public payload. -/
def jobStoreSchemaVersion : UInt32 := 1

/-! ## Errors -/

def isWindowsReservedComponent (value : String) : Bool :=
  let basename := ((Text.split '.' value.toList).headD []).map Char.toLower
  ["con", "prn", "aux", "nul"].any (·.toList == basename) ||
    match (Text.stripFront "com".toList basename).orElse
        fun _ => Text.stripFront "lpt".toList basename with
    | some [digit] => '1' ≤ digit && digit ≤ '9'
    | _ => false

/-- `LocalJobId::new` accepts the text. -/
def isLocalJobId (value : String) : Bool :=
  value != "" && value.utf8ByteSize ≤ maxIdentifierBytes &&
    value.toList.head?.any Char.isAlphanum && value.toList.getLast?.any Char.isAlphanum &&
    (value.toList.all fun c => c.isLower || c.isDigit || c == '-' || c == '_') &&
    !isWindowsReservedComponent value

/-- Stable local identifier used as a single safe path component. -/
structure LocalJobId where
  value : String
  valid : isLocalJobId value = true
  deriving DecidableEq

/-- Typed failures from local job persistence or validation; the messages of the operating
    system are left out. -/
inductive JobStoreError where
  | readOnly
  | invalidIdentifier (field reason : String)
  | invalidRecord (reason : String)
  | unsupportedSchema (found supported : UInt32)
  | boundExceeded (kind : String) (maximum : Nat)
  | jobNotFound (localJobId : LocalJobId)
  | revisionNotFound (localJobId : LocalJobId) (revision : Nat)
  | jobBusy (localJobId : LocalJobId)
  | revisionConflict (expected found : Nat)
  | malformedLayout (reason : String)
  | malformedRevision (reason : String)
  | recoveryRequired (reason : String)
  | security (operation : String)
  | io (operation : String)
  | commitUncertain (reason : String)
  deriving DecidableEq

abbrev StoreResult := Except JobStoreError

def invalidRecord (reason : String) : JobStoreError := .invalidRecord reason

/-! ## Lifecycle -/

/-- Local lifecycle, more detailed than the remote wire `JobState`. -/
inductive StoredJobState where
  | created
  | sourcePreparing
  | sourceReady
  | submitting
  | queued
  | running
  | compileRunning
  | signingWaiting
  | signingRunning
  | artifactUploading
  | artifactReady
  | downloading
  | downloaded
  | validating
  | succeeded
  | failed
  | cancellationRequested
  | cancelled
  | cleanupPending
  | cleanupFailed
  | expired
  | unknown
  deriving DecidableEq

namespace StoredJobState

/-- The states that follow directly, apart from the state itself. -/
def successors : StoredJobState → List StoredJobState
  | .created => [.sourcePreparing, .sourceReady, .failed, .cancellationRequested, .unknown]
  | .sourcePreparing => [.sourceReady, .failed, .cancellationRequested, .unknown]
  | .sourceReady => [.submitting, .failed, .cancellationRequested, .cancelled, .unknown]
  | .submitting =>
    [.queued, .running, .compileRunning, .failed, .cancellationRequested, .cancelled, .unknown]
  | .queued => [.running, .compileRunning, .failed, .cancellationRequested, .cancelled, .unknown]
  | .running | .compileRunning =>
    [.compileRunning, .signingWaiting, .signingRunning, .artifactUploading, .artifactReady,
      .failed, .cancellationRequested, .cancelled, .unknown]
  | .signingWaiting =>
    [.signingRunning, .artifactUploading, .artifactReady, .failed, .cancellationRequested,
      .cancelled, .unknown]
  | .signingRunning =>
    [.artifactUploading, .artifactReady, .failed, .cancellationRequested, .cancelled, .unknown]
  | .artifactUploading => [.artifactReady, .failed, .cancellationRequested, .cancelled, .unknown]
  | .artifactReady =>
    [.downloading, .failed, .cancellationRequested, .cleanupPending, .cleanupFailed, .expired,
      .unknown]
  | .downloading =>
    [.downloaded, .failed, .cancellationRequested, .cleanupPending, .cleanupFailed, .expired,
      .unknown]
  | .downloaded => [.validating, .succeeded, .failed, .cleanupPending, .cleanupFailed, .unknown]
  | .validating => [.succeeded, .cleanupPending, .cleanupFailed, .failed, .unknown]
  | .cancellationRequested => [.cancelled, .failed, .cleanupPending, .cleanupFailed, .unknown]
  | .cleanupPending =>
    [.artifactReady, .downloading, .downloaded, .validating, .succeeded, .failed, .cancelled,
      .expired, .cleanupFailed, .unknown]
  | .failed | .cancelled | .expired => [.cleanupPending, .cleanupFailed]
  | .cleanupFailed => [.cleanupPending, .unknown]
  | .unknown | .succeeded => []

/-- One direct local lifecycle transition is structurally valid. -/
def canTransitionTo (self next : StoredJobState) : Bool :=
  self = next || self.successors.contains next

/-- The state requires at least one artifact record. -/
def requiresArtifacts : StoredJobState → Bool
  | .artifactReady | .downloading | .downloaded | .validating | .succeeded => true
  | _ => false

/-- The states that keep an underlying phase in `last_confirmed_state`. -/
def isOverlay : StoredJobState → Bool
  | .unknown | .cleanupPending | .cleanupFailed => true
  | _ => false

end StoredJobState

/-- Immutable build outcome, separate from cleanup and observation state. -/
inductive StoredBuildOutcome where
  | succeeded
  | failed
  | cancelled
  | expired
  deriving DecidableEq

/-- Durable cleanup policy status. -/
inductive StoredCleanupStatus where
  | notStarted
  | pending
  | confirmed
  | failed
  | uncertain
  deriving DecidableEq

def StoredCleanupStatus.canTransitionTo (self next : StoredCleanupStatus) : Bool :=
  self = next || match self with
    | .notStarted | .pending | .uncertain => next ≠ .notStarted
    | .failed => next = .pending || next = .confirmed || next = .uncertain
    | .confirmed => false

/-- Durable cancellation status, distinct from a provider acknowledgement. -/
inductive StoredCancellationStatus where
  | notRequested
  | requested
  | dispatched
  | confirmed
  | failed
  | uncertain
  deriving DecidableEq

def StoredCancellationStatus.canTransitionTo (self next : StoredCancellationStatus) : Bool :=
  self = next || match self with
    | .notRequested => next = .requested || next = .confirmed
    | .requested | .dispatched | .uncertain =>
      next = .dispatched || next = .confirmed || next = .failed || next = .uncertain
    | .failed =>
      next = .requested || next = .dispatched || next = .confirmed || next = .uncertain
    | .confirmed => false

/-! ## Records -/

/-- Stable project identity persisted outside the source tree. -/
structure StoredProjectIdentityV1 where
  canonicalRoot : String
  filesystemIdentity : String
  applicationIdentifier : String
  deriving DecidableEq

/-- Stable GitHub principal, execution repository, and config identity. -/
structure StoredProviderIdentityV1 where
  provider : String
  providerConfigSha256 : String
  principal : GithubPrincipalIdentityV1
  executionRepository : String
  executionRepositoryId : UInt64
  deriving DecidableEq

/-- Exact source identity bound to the request. -/
structure StoredSourceIdentityV1 where
  revision : Option String
  manifestSha256 : String
  deriving DecidableEq

/-- One artifact record plus machine-local publication state. -/
structure StoredArtifactV1 where
  record : ArtifactRecord
  downloadDestination : Option String
  downloadParentIdentity : Option String
  localPath : Option String
  localFileIdentity : Option String
  locallyValidated : Bool
  deriving DecidableEq

/-- Safe typed failure persisted without raw provider text. -/
structure StoredFailureV1 where
  code : String
  retryable : Bool
  deriving DecidableEq

/-- Retry ancestry and immutable child identifiers. -/
structure StoredRetryLineageV1 where
  attempt : UInt32
  parentJobId : Option LocalJobId
  childJobIds : List LocalJobId
  deriving DecidableEq

/-- Complete secret-free v1 job revision. -/
structure StoredJobV1 where
  schemaVersion : UInt32
  localJobId : LocalJobId
  revision : Nat
  project : StoredProjectIdentityV1
  provider : StoredProviderIdentityV1
  providerJobId : Option String
  providerRunId : Option String
  operationId : String
  request : IosDeviceBuildRequest
  requestSha256 : String
  semanticRetrySha256 : String
  source : StoredSourceIdentityV1
  target : String
  profile : BuildProfile
  signingMode : SigningMode
  createdAtMs : UInt64
  submittedAtMs : Option UInt64
  updatedAtMs : UInt64
  state : StoredJobState
  lastConfirmedState : Option StoredJobState
  terminalOutcome : Option StoredBuildOutcome
  compileEvidence : Option CompilePhaseEvidence
  signedCleanupEvidence : Option GithubSignedCleanupEvidenceV1
  artifacts : List StoredArtifactV1
  logLocation : Option String
  cleanupStatus : StoredCleanupStatus
  retryLineage : StoredRetryLineageV1
  cancellationStatus : StoredCancellationStatus
  failure : Option StoredFailureV1
  providerResume : Option GithubJobResumeV1
  deriving DecidableEq

/-! ## Text checks -/

def validateIdentifier (field value : String) : StoreResult Unit :=
  rejectIf (value == "" || value.utf8ByteSize > maxIdentifierBytes ||
      !value.toList.all fun c =>
        c.isAlphanum || c == '-' || c == '_' || c == '.' || c == ':')
    (.invalidIdentifier field
      "must be bounded ASCII letters, digits, hyphens, underscores, dots, or colons")

def validateSafeText (field value : String) : StoreResult Unit :=
  rejectIf (value == "" || value.utf8ByteSize > maxSafeTextBytes ||
      value.toList.any Text.isControl)
    (.invalidIdentifier field "must be non-empty bounded text without control characters")

def validateSha256 (field value : String) : StoreResult Unit :=
  rejectIf (!isLowerSha256 value)
    (.invalidIdentifier field "must be lowercase 64-character SHA-256 hex")

def validatePortableFilename (value : String) : StoreResult Unit :=
  rejectIf (value == "" || value.utf8ByteSize > 255 || value == "." || value == ".." ||
      value.toList.getLast? == some '.' || value.toList.getLast? == some ' ' ||
      value.toList.any (fun c => c.toNat < 0x20 || c.toNat == 0x7f ||
        ['/', '\\', ':', '*', '?', '"', '<', '>', '|'].contains c) ||
      isWindowsReservedComponent value)
    (invalidRecord "artifact filename is not one portable component")

/-- `str::contains` for a text. -/
def containsText (value text : String) : Bool := decide (text.toList <:+: value.toList)

def localPathHasNonNormalComponent (value : String) : Bool :=
  value.toList.getLast? == some '/' || containsText value "//" ||
    (Text.split '/' value.toList).any fun part => part == ['.'] || part == ['.', '.']

/-- The checks that the project root and the local paths of artifacts share. -/
def isPlainAbsolutePath (value : String) : Bool :=
  UnixPath.isAbsolute value.toList && !containsText value "://" && !value.toList.contains '#' &&
    UnixPath.hasFileName value.toList && !localPathHasNonNormalComponent value &&
    (UnixPath.components value.toList).all fun c => c ≠ .curDir && c ≠ .parentDir

def validateProjectRootPath (value : String) : StoreResult Unit := do
  validateSafeText "project.canonical_root" value
  rejectIf (!isPlainAbsolutePath value)
    (invalidRecord "project canonical root must be normalized and absolute")

def validateLocalArtifactPath (field value : String) : StoreResult Unit := do
  validateSafeText field value
  rejectIf (!isPlainAbsolutePath value || value.toList.contains '?')
    (invalidRecord "local artifact path must be normalized, absolute, and not a provider URL")

def validateManagedRelativePath (value : String) : StoreResult Unit := do
  validateSafeText "managed relative path" value
  rejectIf (UnixPath.isAbsolute value.toList || value.toList.contains '\\' ||
      (UnixPath.components value.toList).any fun c => !c.isNormal || c.text.contains ':')
    (invalidRecord "managed path is not a normalized relative path")

def localPathUniquenessKey (value : String) : List Char :=
  [Char.ofNat 0].intercalate ((UnixPath.components value.toList).map UnixPath.Component.text)

def validateGithubPrincipal (principal : GithubPrincipalIdentityV1)
    (executionRepositoryId : UInt64) : StoreResult Unit :=
  match principal with
  | .user id login =>
    if id ≠ 0 then validateSafeText "provider.principal.login" login
    else .error (invalidRecord "GitHub provider requires a stable authenticated user identity")
  | .repositoryCredential =>
    rejectIf (executionRepositoryId == 0) (invalidRecord
      "GitHub repository credential requires a stable execution repository identity")

def validateGithubExecutionRepository (value : String) : StoreResult Unit := do
  validateSafeText "provider.execution_repository" value
  match Text.stripFront "https://github.com/".toList value.toList with
  | none => .error (invalidRecord
      "GitHub execution repository must be a canonical credential-free HTTPS URL")
  | some slug =>
    rejectIf (match Text.split '/' slug with
        | [owner, repository] => owner == [] || repository == [] ||
          slug.any fun c => !(c.isAlphanum || c == '-' || c == '_' || c == '.' || c == '/')
        | _ => true)
      (invalidRecord "GitHub execution repository must be a canonical credential-free HTTPS URL")

/-- `parse` and the comparison of the canonical text. -/
def validateDirectoryIdentity (value what : String) : StoreResult Unit :=
  match parseDirectoryIdentity value with
  | none => .error (invalidRecord (what ++ " is invalid"))
  | some canonical => rejectIf (canonical != value) (invalidRecord (what ++ " is not canonical"))

def validateRegularFileIdentity (value what : String) : StoreResult Unit :=
  match parseRegularFileIdentity value with
  | none => .error (invalidRecord (what ++ " is invalid"))
  | some canonical => rejectIf (canonical != value) (invalidRecord (what ++ " is not canonical"))

/-! ## Checks of one record -/

/-- The destination of an artifact and the identity of its parent directory. -/
def validateArtifactDestinationIntent (artifact : StoredArtifactV1) : StoreResult Unit :=
  match artifact.downloadDestination, artifact.downloadParentIdentity with
  | none, none => .ok ()
  | some _, some identity => do
    validateSafeText "artifact.download_parent_identity" identity
    validateDirectoryIdentity identity "artifact download parent identity"
  | _, _ => .error (invalidRecord
      "artifact destination and parent identity must be bound together")

/-- The published file of an artifact and its identity. -/
def validateArtifactPublication (artifact : StoredArtifactV1) : StoreResult Unit :=
  match artifact.localPath, artifact.localFileIdentity with
  | none, none => rejectIf artifact.locallyValidated (invalidRecord
      "local artifact path, file identity, and validation evidence are inconsistent")
  | some path, some identity => do
    validateLocalArtifactPath "artifact.local_path" path
    rejectIf (artifact.downloadDestination != some path) (invalidRecord
      "local artifact path differs from its immutable download destination")
    validateSafeText "artifact.local_file_identity" identity
    validateRegularFileIdentity identity "local artifact file identity"
  | _, _ => .error (invalidRecord
      "local artifact path, file identity, and validation evidence are inconsistent")

def validateArtifact (artifact : StoredArtifactV1) : StoreResult Unit := do
  validateIdentifier "artifact.artifact_id" artifact.record.artifactId
  validatePortableFilename artifact.record.fileName
  validateSha256 "artifact.sha256" artifact.record.sha256
  forSome artifact.record.mediaType fun mediaType =>
    validateSafeText "artifact.media_type" mediaType
  forSome artifact.downloadDestination fun destination =>
    validateLocalArtifactPath "artifact.download_destination" destination
  validateArtifactDestinationIntent artifact
  validateArtifactPublication artifact

/-- The managed tree of a project: `target/ferry` under its root. -/
def managedRoot (projectRoot : String) : List UnixPath.Component :=
  UnixPath.components projectRoot.toList ++ [.normal "target".toList, .normal "ferry".toList]

def validateArtifactDestination (projectRoot : String) (artifact : StoredArtifactV1) :
    StoreResult Unit :=
  forSome artifact.downloadDestination fun destination =>
    let components := UnixPath.components destination.toList
    if managedRoot projectRoot <+: components then
      let relative := components.drop (managedRoot projectRoot).length
      rejectIf (relative == [] || !relative.all UnixPath.Component.isNormal) (invalidRecord
        "artifact download destination is not a managed target/ferry descendant")
    else .error (invalidRecord
      "artifact download destination is outside the exact project target/ferry tree")

/-- What the loop over the artifacts has seen. -/
structure SeenArtifacts where
  artifactIds : List String
  downloadDestinations : List (List Char)
  localFileIdentities : List String

def seeArtifact (projectRoot : String) (seen : SeenArtifacts) (artifact : StoredArtifactV1) :
    StoreResult SeenArtifacts := do
  validateArtifact artifact
  validateArtifactDestination projectRoot artifact
  rejectIf (seen.artifactIds.contains artifact.record.artifactId)
    (invalidRecord "artifact identifiers must be unique")
  rejectIf (artifact.downloadDestination.any fun destination =>
      seen.downloadDestinations.contains (localPathUniquenessKey destination))
    (invalidRecord "artifact download destinations must be unique")
  rejectIf (artifact.localFileIdentity.any fun identity =>
      seen.localFileIdentities.contains identity)
    (invalidRecord "local artifact file identities must be unique")
  return {
    artifactIds := artifact.record.artifactId :: seen.artifactIds
    downloadDestinations :=
      (artifact.downloadDestination.map localPathUniquenessKey).toList ++
        seen.downloadDestinations
    localFileIdentities := artifact.localFileIdentity.toList ++ seen.localFileIdentities }

def validateRetryLineage (localJobId : LocalJobId) (lineage : StoredRetryLineageV1) :
    StoreResult Unit := do
  rejectIf ((lineage.attempt == 0) != lineage.parentJobId.isNone)
    (invalidRecord "every retry must have a parent job")
  rejectIf (lineage.parentJobId == some localJobId)
    (invalidRecord "job cannot be its own retry parent")
  rejectIf (lineage.childJobIds.length > maxRetryChildren)
    (.boundExceeded "retry children" maxRetryChildren)
  rejectIf (lineage.childJobIds.contains localJobId || !decide lineage.childJobIds.Nodup)
    (invalidRecord "retry children must be unique and not self")

/-- The outcome that a state allows. -/
def validateStateOutcome (state : StoredJobState) (outcome : Option StoredBuildOutcome) :
    StoreResult Unit :=
  match state with
  | .succeeded => rejectIf (outcome ≠ some .succeeded)
      (invalidRecord "succeeded state requires a successful build outcome")
  | .failed => rejectIf (outcome = some .cancelled || outcome = some .expired)
      (invalidRecord "failed local state conflicts with the confirmed build outcome")
  | .cancelled => rejectIf (outcome ≠ some .cancelled)
      (invalidRecord "cancelled state requires a cancelled build outcome")
  | .expired => rejectIf (outcome ≠ some .expired)
      (invalidRecord "expired state requires an expired build outcome")
  | .artifactReady | .downloading | .downloaded | .validating =>
    rejectIf (outcome.any fun outcome => outcome ≠ .succeeded)
      (invalidRecord "local artifact processing permits only a successful build outcome")
  | .cleanupPending | .cleanupFailed | .unknown => .ok ()
  | _ => rejectIf outcome.isSome
      (invalidRecord "build outcome was recorded before a build-terminal state")

/-- What `last_confirmed_state` must hold in an overlay, and must not hold elsewhere. -/
def validateConfirmedState (state : StoredJobState) (confirmed : Option StoredJobState) :
    StoreResult Unit := do
  rejectIf (state = .unknown && (confirmed = none || confirmed = some .unknown))
    (invalidRecord "unknown state requires a distinct last confirmed state")
  rejectIf (state ≠ .unknown && confirmed = some .unknown)
    (invalidRecord "last confirmed state cannot be unknown")
  rejectIf ((state = .cleanupPending || state = .cleanupFailed) &&
      !confirmed.any fun phase => !phase.isOverlay)
    (invalidRecord "cleanup overlay requires the exact underlying confirmed local phase")

def failureRequired (record : StoredJobV1) : Bool :=
  record.terminalOutcome = some .failed || record.state = .failed || record.state = .cleanupFailed

def failureAllowed (record : StoredJobV1) : Bool :=
  failureRequired record || record.state = .cleanupPending || record.state = .unknown

def validateJobState (record : StoredJobV1) : StoreResult Unit := do
  validateConfirmedState record.state record.lastConfirmedState
  validateStateOutcome record.state record.terminalOutcome
  rejectIf (record.state = .succeeded && record.cleanupStatus ≠ .confirmed)
    (invalidRecord "succeeded state requires confirmed cleanup policy")
  rejectIf (record.state = .cleanupPending &&
      (record.cleanupStatus = .notStarted || record.cleanupStatus = .failed))
    (invalidRecord
      "cleanup-pending state requires a pending, uncertain, or confirmed cleanup status")
  rejectIf (record.state = .cleanupFailed && record.cleanupStatus ≠ .failed)
    (invalidRecord "cleanup-failed state requires failed cleanup status")
  rejectIf (record.state = .cancellationRequested &&
      !(record.cancellationStatus = .requested || record.cancellationStatus = .dispatched ||
        record.cancellationStatus = .uncertain))
    (invalidRecord "cancellation-requested state requires durable cancellation intent")
  rejectIf (record.state = .cancelled && record.cancellationStatus ≠ .confirmed)
    (invalidRecord "cancelled state requires provider terminal confirmation")
  rejectIf (failureRequired record && record.failure.isNone ||
      !failureAllowed record && record.failure.isSome)
    (invalidRecord "sanitized failure evidence is inconsistent with state and outcome")

/-! ## Checks of a record with its checkpoint -/

/-- Time of the latest event of a checkpoint. -/
def latestEventMs (resume : GithubJobResumeV1) : UInt64 :=
  (resume.events.map (·.timestampMs)).foldl max 0

def validateGithubPublicationBoundary (resume : GithubJobResumeV1) : StoreResult Unit := do
  let firstObserved := resume.publicationAbsenceFirstObservedAtMs
  let armed := resume.publicationStartedAtMs != 0 &&
    resume.publicationStartedAtMs ≥ resume.createdAtMs &&
    (firstObserved == 0 || firstObserved ≥ resume.publicationStartedAtMs) &&
    resume.publicationQuiescenceDeadlineMs == saturatingAdd
      (max resume.publicationStartedAtMs firstObserved) publicationQuiescenceWindowMs
  let unarmed := resume.publicationStartedAtMs == 0 &&
    resume.publicationQuiescenceDeadlineMs == u64Max && firstObserved == 0
  let observationTimeIsBound := resume.publicationAbsenceObservations != 0
  forSome resume.publicationLeaseScopeSha256 fun scope =>
    validateSha256 "provider_resume.publication_lease_scope_sha256" scope
  rejectIf (!(armed || unarmed) || resume.publicationIntent != armed ||
      resume.publicationProcessFenced && resume.publicationLeaseScopeSha256.isNone ||
      observationTimeIsBound != (firstObserved != 0) ||
      resume.publicationAbsenceObservations > 2 ||
      observationTimeIsBound && resume.preparedDispatchCommit.isNone ||
      resume.publicationAbsent && (resume.publicationAbsenceObservations < 2 ||
        resume.preparedDispatchCommit.isNone || resume.dispatchCommit.isSome ||
        resume.publicationUncertain || !resume.publicationProcessFenced ||
        !resume.temporaryRefDeleted ||
        latestEventMs resume < resume.publicationQuiescenceDeadlineMs))
    (invalidRecord "GitHub publication boundary or absence evidence is invalid")

/-- The run identifier of the run or of the receipt, in decimal digits. -/
def githubResumeProviderRunId (resume : GithubJobResumeV1) : StoreResult (Option String) :=
  let runId := resume.run.map (·.runId)
  let receiptId := (resume.workflowDispatch.bind (·.receipt)).map (·.runId)
  match runId, receiptId with
  | some run, some receipt =>
    if run ≠ receipt then
      .error (invalidRecord "GitHub workflow-dispatch receipt and run identifiers differ")
    else .ok (some (toString run.toNat))
  | some run, none => .ok (some (toString run.toNat))
  | none, receipt => .ok (receipt.map fun id => toString id.toNat)

def validateGithubManifestIdentity (record : StoredJobV1) (resume : GithubJobResumeV1)
    (manifest : ArtifactManifest) : StoreResult Unit :=
  rejectIf (manifest.schemaVersion != 1 || manifest.operationId != resume.operationId ||
      manifest.jobId != resume.jobId || manifest.provider != githubProviderId ||
      manifest.sourceRepository != some resume.sourceRepository ||
      manifest.sourceRevision != some resume.sourceRevision ||
      manifest.sourceSha256 != record.source.manifestSha256 || manifest.artifacts == [])
    (invalidRecord "GitHub artifact manifest identity differs from the local job")

def validateGithubSnapshotResumeIdentity (tools : ResumeTools) (record : StoredJobV1)
    (resume : GithubJobResumeV1) : StoreResult Unit :=
  match resume.gitSnapshot with
  | none => rejectIf (record.request.sourceMode = .gitSnapshot)
      (invalidRecord "Git snapshot request lacks its durable snapshot checkpoint")
  | some snapshot => do
    rejectIf (record.request.sourceMode ≠ .gitSnapshot)
      (invalidRecord "non-snapshot request carries a Git snapshot checkpoint")
    let descriptor ← (GitSnapshotDescriptor.fromRequest tools.request record.request
      ⟨Source.sourceBundleDescriptorSchemaVersion, snapshot.stage.archive,
        record.request.source⟩).mapError
      fun _ => invalidRecord "Git snapshot descriptor cannot be reconstructed"
    (snapshot.stageLocator.validateForOperation record.operationId "").mapError
      fun _ => invalidRecord "Git snapshot locator differs from the stored operation"
    (snapshot.stage.validateForRequest tools descriptor record.request
      (resumeFailure "")).mapError
      fun _ => invalidRecord "Git snapshot stage differs from the stored request"
    rejectIf (snapshot.phase.keepaliveRelease !=
        snapshot.keepaliveReleaseAuthorizationSha256.isSome)
      (invalidRecord "Git snapshot keepalive release phase lacks exact authorization")
    forSome snapshot.keepaliveReleaseAuthorizationSha256 fun authorization =>
      validateSha256 "provider_resume.git_snapshot.keepalive_release_authorization_sha256"
        authorization

def githubCommitShaIsValid (value : String) : Bool :=
  value.utf8ByteSize == 40 && isLowerHex value.toList

/-- The comparisons of `validate_github_resume_record_identity`. -/
def resumeIdentityDiffers (record : StoredJobV1) (resume : GithubJobResumeV1)
    (resumeRunId : Option String) : Bool :=
  resume.schemaVersion != 1 || resume.provider != githubProviderId ||
    record.provider.provider != githubProviderId ||
    resume.providerConfigSha256 != record.provider.providerConfigSha256 ||
    resume.principal != record.provider.principal ||
    resume.executionRepository != record.provider.executionRepository ||
    resume.executionRepositoryId != record.provider.executionRepositoryId ||
    resume.operationId != record.operationId || resume.jobId != resume.operationId ||
    resume.request != record.request || resume.requestSha256 != record.requestSha256 ||
    some resume.sourceRepository != record.request.sourceRepository ||
    some resume.sourceRevision != record.source.revision ||
    (record.providerJobId.any fun jobId => jobId != resume.jobId) ||
    (record.providerRunId.any fun runId => some runId != resumeRunId) ||
    resume.createdAtMs < record.createdAtMs

/-- The run of a checkpoint is not exactly the one of its dispatch. -/
def runDiffers (resume : GithubJobResumeV1) (run : GithubRunIdentityV1)
    (branch : List Char) (dispatchCommit : String) : Bool :=
  run.runId == 0 || run.workflowId == 0 || run.runNumber == 0 || run.runAttempt == 0 ||
    run.workflowPath != resume.workflowPath || run.headSha != dispatchCommit ||
    run.branch.toList != branch ||
    run.event != (if resume.workflowDispatch.isSome then .workflowDispatch else .push) ||
    (run.status == .completed) != run.conclusion.isSome

def validateResumeRun (resume : GithubJobResumeV1) (run : GithubRunIdentityV1) :
    StoreResult Unit :=
  match Text.stripFront "refs/heads/".toList resume.temporaryRef.toList, resume.dispatchCommit with
  | none, _ => .error (invalidRecord "GitHub temporary ref is not a full branch ref")
  | some _, none =>
    .error (invalidRecord "GitHub run identity lacks an exact dispatch commit")
  | some branch, some dispatchCommit =>
    rejectIf (runDiffers resume run branch dispatchCommit)
      (invalidRecord "GitHub run identity is not exactly bound to the dispatch")

/-- One event of a checkpoint at its position. -/
def validateResumeEvent (tools : ResumeTools) (record : StoredJobV1) (resume : GithubJobResumeV1)
    (index : Nat) (event : RemoteBuildEvent) : StoreResult Unit := do
  (event.validate tools.parseUrl).mapError fun _ => invalidRecord "GitHub provider event is invalid"
  rejectIf (event.operationId != resume.operationId || event.jobId != resume.jobId ||
      event.provider != githubProviderId || event.sequence.toNat != index + 1 ||
      event.timestampMs < resume.createdAtMs || event.kind == .unknown)
    (invalidRecord "GitHub provider event identity or ordering is invalid")
  match event.kind with
  | .artifactValidated artifact => do
    validateGithubManifestIdentity record resume artifact
    rejectIf (!resume.manifests.contains artifact) (invalidRecord
      "validated GitHub artifact event is absent from the durable manifests")
  | _ => .ok ()

/-- The bound run completed with success. -/
def runCompletedSuccess (resume : GithubJobResumeV1) : Bool :=
  resume.run.any fun run => run.status = .completed && run.conclusion = some .success

def validateGithubResumeRecordIdentity (tools : ResumeTools) (record : StoredJobV1)
    (resume : GithubJobResumeV1) : StoreResult Unit := do
  validateGithubPublicationBoundary resume
  (resume.validateTriggerBinding tools).mapError
    fun _ => invalidRecord "GitHub trigger-specific resume binding is invalid"
  validateGithubSnapshotResumeIdentity tools record resume
  validateIdentifier "provider_resume.job_id" resume.jobId
  let resumeRunId ← githubResumeProviderRunId resume
  rejectIf (resumeIdentityDiffers record resume resumeRunId)
    (invalidRecord "GitHub provider resume identity differs from the local job")
  rejectIf ((resume.preparedDispatchCommit.any (!githubCommitShaIsValid ·)) ||
      (resume.dispatchCommit.any (!githubCommitShaIsValid ·)) ||
      match resume.preparedDispatchCommit, resume.dispatchCommit with
      | some prepared, some dispatch => prepared != dispatch
      | _, _ => false)
    (invalidRecord "GitHub prepared or published dispatch commit is invalid")
  forSome resume.run (validateResumeRun resume)
  resume.events.zipIdx.forM fun (event, index) =>
    validateResumeEvent tools record resume index event
  resume.manifests.forM (validateGithubManifestIdentity record resume)
  rejectIf ((resume.state = .succeeded || resume.manifests ≠ []) && !runCompletedSuccess resume)
    (invalidRecord "GitHub artifact success contradicts the bound run conclusion")

/-- The artifacts of all manifests of a checkpoint. -/
def manifestArtifacts (resume : GithubJobResumeV1) : List ArtifactRecord :=
  resume.manifests.flatMap (·.artifacts)

/-- The map of `validate_github_artifact_projection`: the last record of each identifier, and
    no two different ones. -/
def expectedArtifact (expected : List (String × ArtifactRecord)) (artifact : ArtifactRecord) :
    StoreResult (List (String × ArtifactRecord)) := do
  rejectIf ((expected.lookup artifact.artifactId).any (· ≠ artifact))
    (invalidRecord "GitHub manifests contain conflicting artifact identities")
  return BTreeMap.insert artifact.artifactId artifact expected

def validateGithubArtifactProjection (record : StoredJobV1) (resume : GithubJobResumeV1) :
    StoreResult Unit := do
  let expected ← (manifestArtifacts resume).foldlM expectedArtifact []
  rejectIf (expected.length != record.artifacts.length ||
      record.artifacts.any fun artifact =>
        expected.lookup artifact.record.artifactId != some artifact.record)
    (invalidRecord "stored artifacts differ from the exact GitHub manifest set")

/-! ## Validation of a record -/

def revisionIsSupported (revision : Nat) : Bool := revision != 0 && revision ≤ maxRevisionsPerJob

/-- Schema, identities and texts of a record. -/
def StoredJobV1.validateIdentity (self : StoredJobV1) : StoreResult Unit := do
  rejectIf (self.schemaVersion != jobStoreSchemaVersion)
    (.unsupportedSchema self.schemaVersion jobStoreSchemaVersion)
  rejectIf (!revisionIsSupported self.revision)
    (invalidRecord "revision is outside the supported range")
  validateProjectRootPath self.project.canonicalRoot
  validateSafeText "project.filesystem_identity" self.project.filesystemIdentity
  validateDirectoryIdentity self.project.filesystemIdentity "project filesystem identity"
  validateSafeText "project.application_identifier" self.project.applicationIdentifier
  rejectIf (self.provider.provider != githubProviderId)
    (invalidRecord "stored provider identity is not the supported GitHub provider")
  validateSha256 "provider.provider_config_sha256" self.provider.providerConfigSha256
  validateGithubPrincipal self.provider.principal self.provider.executionRepositoryId
  validateGithubExecutionRepository self.provider.executionRepository
  rejectIf (self.provider.executionRepositoryId == 0)
    (invalidRecord "GitHub execution repository requires a stable numeric identity")
  forSome self.providerJobId (validateIdentifier "provider_job_id")
  forSome self.providerRunId (validateIdentifier "provider_run_id")
  validateIdentifier "operation_id" self.operationId
  validateIdentifier "target" self.target
  rejectIf (self.target != "iphone")
    (invalidRecord "target must be the physical-iPhone target")

/-- The request of a record and what is derived from it. -/
def StoredJobV1.validateRequest (tools : ResumeTools) (self : StoredJobV1) : StoreResult Unit := do
  (self.request.validate tools.request).mapError fun _ => invalidRecord "stored request is invalid"
  rejectIf (self.operationId != self.request.operationId)
    (invalidRecord "operation ID differs from the request")
  rejectIf (self.project.applicationIdentifier != self.request.bundleIdentifier)
    (invalidRecord "project application identifier differs from the request")
  rejectIf (self.profile ≠ self.request.profile || self.signingMode ≠ self.request.signing.mode)
    (invalidRecord "profile or signing mode differs from the request")
  -- both digests are computed again from the stored request
  let actualRequestSha256 ← (canonicalRequestSha256 tools.request self.request).mapError
    fun _ => invalidRecord "stored request cannot be hashed canonically"
  rejectIf (self.requestSha256 != actualRequestSha256)
    (invalidRecord "request SHA-256 differs from canonical bytes")
  let actualSemanticRetrySha256 ←
    (canonicalRetryTemplateSha256V1 tools.request self.request).mapError
      fun _ => invalidRecord "stored request cannot be retry-hashed canonically"
  rejectIf (self.semanticRetrySha256 != actualSemanticRetrySha256)
    (invalidRecord "semantic retry SHA-256 differs from the canonical request template")
  validateSha256 "request_sha256" self.requestSha256
  validateSha256 "semantic_retry_sha256" self.semanticRetrySha256
  validateSha256 "source.manifest_sha256" self.source.manifestSha256
  rejectIf (self.source.manifestSha256 != self.request.source.sha256 ||
      self.source.revision != self.request.sourceRevision)
    (invalidRecord "source identity differs from the request")
  rejectIf (self.updatedAtMs < self.createdAtMs || self.submittedAtMs.any fun submitted =>
      submitted < self.createdAtMs || submitted > self.updatedAtMs)
    (invalidRecord "job timestamps are not monotonic")

/-- The artifacts of a record and what its state asks of them. -/
def StoredJobV1.validateArtifacts (self : StoredJobV1) : StoreResult Unit := do
  rejectIf (self.artifacts.length > maxArtifacts) (.boundExceeded "artifact records" maxArtifacts)
  let _ ← self.artifacts.foldlM (seeArtifact self.project.canonicalRoot) ⟨[], [], []⟩
  rejectIf (self.state.requiresArtifacts && self.artifacts == [])
    (invalidRecord "current state requires artifact records")
  rejectIf ((self.state = .downloading || self.state = .downloaded || self.state = .validating ||
        self.state = .succeeded) &&
      self.artifacts.any fun artifact => artifact.downloadDestination.isNone)
    (invalidRecord "artifact download state requires immutable destinations")
  rejectIf ((self.state = .downloaded || self.state = .validating || self.state = .succeeded) &&
      self.artifacts.any fun artifact => artifact.localPath.isNone)
    (invalidRecord "downloaded state requires local artifact paths")
  rejectIf (self.state = .succeeded && self.artifacts.any fun artifact =>
      !artifact.locallyValidated)
    (invalidRecord "succeeded state requires local artifact validation")

/-- The states of a provider job that hold verified artifacts. -/
def verifiedArtifactState : JobState → Bool
  | .succeeded | .cleaning | .cleaned | .cleanupFailed => true
  | _ => false

/-- The last comparisons of `StoredJobV1::validate`. -/
def StoredJobV1.resumeDiffers (self : StoredJobV1) (resume : GithubJobResumeV1)
    (providerRunId : Option String) : Bool :=
  resume.providerConfigSha256 != self.provider.providerConfigSha256 ||
    resume.executionRepository != self.provider.executionRepository ||
    resume.executionRepositoryId != self.provider.executionRepositoryId ||
    resume.principal != self.provider.principal || resume.operationId != self.operationId ||
    resume.request != self.request || resume.requestSha256 != self.requestSha256 ||
    some resume.sourceRepository != self.request.sourceRepository ||
    some resume.sourceRevision != self.source.revision ||
    self.providerJobId != some resume.jobId || self.providerRunId != providerRunId ||
    self.compileEvidence != resume.compileEvidence ||
    self.signedCleanupEvidence != resume.signedCleanupEvidence

/-- The checkpoint of a record. -/
def StoredJobV1.validateResume (tools : ResumeTools) (self : StoredJobV1)
    (resume : GithubJobResumeV1) : StoreResult Unit := do
  let providerRunId ← githubResumeProviderRunId resume
  (resume.encode tools).mapError
    fun _ => invalidRecord "GitHub provider resume checkpoint is invalid"
  validateGithubPublicationBoundary resume
  rejectIf ((resume.manifests == []) != resume.compileEvidence.isNone)
    (invalidRecord "GitHub manifests and compile evidence must bind atomically")
  rejectIf (resume.manifests != [] && !verifiedArtifactState resume.state)
    (invalidRecord "GitHub verified artifact evidence is attached to a non-artifact state")
  rejectIf (self.request.signing.mode = .manualDevelopment &&
      verifiedArtifactState resume.state && resume.signedCleanupEvidence.isNone)
    (invalidRecord "signed GitHub completion requires protected-cleanup evidence")
  rejectIf (resume.signedCleanupEvidence.isSome && !verifiedArtifactState resume.state)
    (invalidRecord "signed cleanup evidence is attached to a non-artifact state")
  forSome resume.signedCleanupEvidence fun evidence =>
    (evidence.validateForResume tools resume).mapError
      fun _ => invalidRecord "signed cleanup evidence differs from the GitHub resume"
  validateGithubResumeRecordIdentity tools self resume
  validateGithubArtifactProjection self resume
  rejectIf (resume.provider != githubProviderId || self.provider.provider != githubProviderId)
    (invalidRecord "provider resume owner differs from the job provider")
  rejectIf (self.resumeDiffers resume providerRunId)
    (invalidRecord "GitHub provider resume identity differs from the local job")

/-- Compile evidence needs an allocated provider job. -/
def StoredJobV1.validateCompileEvidence (tools : ResumeTools) (self : StoredJobV1)
    (evidence : CompilePhaseEvidence) : StoreResult Unit :=
  match self.providerJobId with
  | none => .error (invalidRecord "compile evidence requires an allocated provider job")
  | some providerJobId =>
    (validateGithubCompilePhaseEvidence tools evidence self.request providerJobId).mapError
      fun _ => invalidRecord "compile evidence differs from the stored job or source"

/-- Schema, bounds, identities, request binding, lifecycle invariants, and safe paths. -/
def StoredJobV1.validate (tools : ResumeTools) (self : StoredJobV1) : StoreResult Unit := do
  self.validateIdentity
  self.validateRequest tools
  validateJobState self
  self.validateArtifacts
  forSome self.logLocation validateManagedRelativePath
  validateRetryLineage self.localJobId self.retryLineage
  forSome self.failure fun failure => validateIdentifier "failure.code" failure.code
  rejectIf ((self.state = .failed || self.state = .cleanupFailed) && self.failure.isNone)
    (invalidRecord "failed state requires a sanitized error code")
  rejectIf (self.provider.provider == githubProviderId &&
      (self.providerJobId.isSome || self.providerRunId.isSome) && self.providerResume.isNone)
    (invalidRecord
      "allocated GitHub provider identity requires a durable resume checkpoint")
  forSome self.compileEvidence (self.validateCompileEvidence tools)
  rejectIf (self.signedCleanupEvidence.isSome && self.compileEvidence.isNone)
    (invalidRecord "signed cleanup evidence requires verified compile evidence")
  match self.providerResume with
  | some resume => self.validateResume tools resume
  | none =>
    rejectIf (self.compileEvidence.isSome || self.signedCleanupEvidence.isSome)
      (invalidRecord "verified provider evidence requires a durable GitHub resume checkpoint")

def validateInitialJobRevision (record : StoredJobV1) : StoreResult Unit :=
  rejectIf (record.state ≠ .sourceReady || record.lastConfirmedState ≠ some .sourceReady ||
      record.providerJobId.isSome || record.providerRunId.isSome || record.submittedAtMs.isSome ||
      record.terminalOutcome.isSome || record.compileEvidence.isSome ||
      record.signedCleanupEvidence.isSome || record.artifacts != [] ||
      record.cleanupStatus ≠ .notStarted || record.cancellationStatus ≠ .notRequested ||
      record.logLocation.isSome || record.failure.isSome || record.providerResume.isSome ||
      record.retryLineage.childJobIds != [])
    (invalidRecord "the initial revision must contain only pre-provider source-ready intent")

/-! ## Projection of a checkpoint -/

/-- What the events of a checkpoint say about the end of the job. -/
structure GithubProjectionEvidence where
  outcome : Option StoredBuildOutcome
  failure : Option StoredFailureV1
  cancellationConfirmed : Bool
  cleanupStartedAtMs : Option UInt64
  cleanupConfirmation : Option CleanupConfirmation

def GithubProjectionEvidence.default : GithubProjectionEvidence := ⟨none, none, false, none, none⟩

def mergeGithubOutcome (evidence : GithubProjectionEvidence) (outcome : StoredBuildOutcome)
    (failure : Option StoredFailureV1) : StoreResult GithubProjectionEvidence := do
  rejectIf ((evidence.outcome.any fun existing => existing ≠ outcome) ||
      evidence.failure.any fun existing => failure ≠ some existing)
    (invalidRecord "GitHub provider terminal evidence is contradictory")
  rejectIf (outcome = .failed && failure.isNone || outcome ≠ .failed && failure.isSome)
    (invalidRecord "GitHub provider failure evidence is inconsistent")
  return { evidence with
    outcome := some outcome
    failure := if failure.isSome then failure else evidence.failure }

/-- `IosDeviceBuildResult::validate`. -/
def validateBuildResult (result : IosDeviceBuildResult) : RemoteBuildResult Unit := do
  let _ ← currentProtocolVersion.negotiate result.protocolVersion
  Remote.validateIdentifier "operation_id" result.operationId
  Remote.validateIdentifier "job_id" result.jobId
  rejectIf (!(result.state = .succeeded || result.state = .failed || result.state = .cancelled ||
      result.state = .cleaned || result.state = .cleanupFailed))
    (.invalidEventPayload "ios_device_build_result" "result state is not terminal")
  rejectIf (result.state = .succeeded && result.artifacts == [])
    (.invalidEventPayload "ios_device_build_result" "successful result has no artifact manifest")

/-- The build result of a finished operation names this job. -/
def validateFinishedResult (resume : GithubJobResumeV1) (result : IosDeviceBuildResult) :
    StoreResult Unit := do
  (validateBuildResult result).mapError fun _ => invalidRecord "GitHub build result is invalid"
  rejectIf (result.operationId != resume.operationId || result.jobId != resume.jobId)
    (invalidRecord "GitHub build result identity differs from the checkpoint")

def collectOperationFinished (resume : GithubJobResumeV1) (evidence : GithubProjectionEvidence)
    (success : Bool) (result : Option IosDeviceBuildResult) (info : Option RemoteErrorInfo) :
    StoreResult GithubProjectionEvidence := do
  forSome result (validateFinishedResult resume)
  if success then
    match result with
    | none => .error (invalidRecord "successful GitHub operation lacks a typed build result")
    | some result => do
      rejectIf (result.state ≠ .succeeded || result.artifacts != resume.manifests)
        (invalidRecord "successful GitHub build result differs from durable manifests")
      mergeGithubOutcome evidence .succeeded none
  else do
    rejectIf (result.any fun result => result.state ≠ .failed)
      (invalidRecord "failed GitHub operation has a non-failed build result")
    match info with
    | none => .error (invalidRecord "failed GitHub operation lacks typed failure evidence")
    | some info => mergeGithubOutcome evidence .failed (some ⟨info.code, info.retryable⟩)

def collectCleanupStarted (evidence : GithubProjectionEvidence) (timestampMs : UInt64) :
    StoreResult GithubProjectionEvidence := do
  rejectIf (evidence.cleanupStartedAtMs.isSome && evidence.cleanupConfirmation.isNone)
    (invalidRecord "GitHub cleanup retry started before the prior attempt completed")
  rejectIf (evidence.cleanupConfirmation.any fun confirmation =>
      timestampMs < confirmation.completedAtMs)
    (invalidRecord "GitHub cleanup retry evidence is out of order")
  return { evidence with cleanupStartedAtMs := some timestampMs, cleanupConfirmation := none }

def collectCleanupFinished (resume : GithubJobResumeV1) (evidence : GithubProjectionEvidence)
    (timestampMs : UInt64) (confirmation : CleanupConfirmation) :
    StoreResult GithubProjectionEvidence :=
  match evidence.cleanupStartedAtMs with
  | none =>
    .error (invalidRecord "GitHub cleanup confirmation identity or ordering is invalid")
  | some startedAtMs => do
    rejectIf (confirmation.completedAtMs < startedAtMs || confirmation.jobId != resume.jobId ||
        confirmation.completedAtMs < resume.createdAtMs || timestampMs < startedAtMs ||
        confirmation.completedAtMs > timestampMs || evidence.cleanupConfirmation.isSome)
      (invalidRecord "GitHub cleanup confirmation identity or ordering is invalid")
    return { evidence with cleanupConfirmation := some confirmation }

def collectEvent (resume : GithubJobResumeV1) (evidence : GithubProjectionEvidence)
    (event : RemoteBuildEvent) : StoreResult GithubProjectionEvidence :=
  match event.kind with
  | .operationFinished success _ result info =>
    collectOperationFinished resume evidence success result info
  | .operationCancelled _ _ =>
    mergeGithubOutcome { evidence with cancellationConfirmed := true } .cancelled none
  | .cleanupStarted => collectCleanupStarted evidence event.timestampMs
  | .cleanupFinished confirmation =>
    collectCleanupFinished resume evidence event.timestampMs confirmation
  | _ => .ok evidence

def collectGithubProjectionEvidence (resume : GithubJobResumeV1) :
    StoreResult GithubProjectionEvidence :=
  resume.events.foldlM (collectEvent resume) .default

def githubRunFailure (conclusion : GithubRunConclusionV1) : Option StoredFailureV1 :=
  let retryable := conclusion = .timedOut || conclusion = .stale || conclusion = .startupFailure
  match conclusion with
  | .failure => some ⟨"github.run_failed", retryable⟩
  | .timedOut => some ⟨"github.run_timed_out", retryable⟩
  | .neutral => some ⟨"github.run_neutral", retryable⟩
  | .skipped => some ⟨"github.run_skipped", retryable⟩
  | .stale => some ⟨"github.run_stale", retryable⟩
  | .actionRequired => some ⟨"github.run_action_required", retryable⟩
  | .startupFailure => some ⟨"github.run_startup_failure", retryable⟩
  | .success | .cancelled => none

/-- The failure that stands for a provider state without typed evidence. -/
def providerFailed : StoredFailureV1 := ⟨"github.provider_failed", false⟩

/-- The evidence with what the state of the checkpoint says about the outcome. -/
def mergeStateOutcome (previous : StoredJobV1) (resume : GithubJobResumeV1)
    (evidence : GithubProjectionEvidence) : StoreResult GithubProjectionEvidence :=
  match resume.state with
  | .succeeded => mergeGithubOutcome evidence .succeeded none
  | .failed =>
    mergeGithubOutcome evidence .failed (evidence.failure.orElse fun _ => some providerFailed)
  | .cancelled => do
    let runCancelled := resume.run.any fun run =>
      run.status = .completed && run.conclusion = some .cancelled
    rejectIf (!(evidence.cancellationConfirmed || runCancelled ||
        resume.publicationAbsent && resume.cancellationRequested))
      (invalidRecord "cancelled GitHub state lacks exact cancellation evidence")
    mergeGithubOutcome { evidence with cancellationConfirmed := true } .cancelled none
  -- the outcome is that of the run, unless one is on record
  | .cleaning | .cleaned | .cleanupFailed =>
    if evidence.outcome.isNone && previous.terminalOutcome.isNone then
      match resume.run.bind (·.conclusion) with
      | none => .ok evidence
      | some .success => mergeGithubOutcome evidence .succeeded none
      | some .cancelled => mergeGithubOutcome evidence .cancelled none
      | some conclusion => mergeGithubOutcome evidence .failed (githubRunFailure conclusion)
    else .ok evidence
  | .created | .queued | .running | .cancelling => do
    rejectIf evidence.outcome.isSome
      (invalidRecord "nonterminal GitHub state contains terminal build evidence")
    return evidence

/-- `derive_github_outcome`: the evidence it leaves behind, and the outcome. -/
def deriveGithubOutcome (previous : StoredJobV1) (resume : GithubJobResumeV1)
    (evidence : GithubProjectionEvidence) :
    StoreResult (GithubProjectionEvidence × Option StoredBuildOutcome) := do
  let evidence ← mergeStateOutcome previous resume evidence
  let outcome := evidence.outcome.orElse fun _ => previous.terminalOutcome
  rejectIf (previous.terminalOutcome.any fun previous => some previous ≠ outcome)
    (invalidRecord "GitHub provider build outcome changed")
  return (evidence, outcome)

def projectGithubArtifact (projected : List StoredArtifactV1) (artifact : ArtifactRecord) :
    StoreResult (List StoredArtifactV1) :=
  match projected.find? fun existing => existing.record.artifactId == artifact.artifactId with
  | some existing => do
    rejectIf (existing.record ≠ artifact)
      (invalidRecord "GitHub artifact identity changed between manifests")
    return projected
  | none => do
    let candidate : StoredArtifactV1 := ⟨artifact, none, none, none, none, false⟩
    validateArtifact candidate
    return projected ++ [candidate]

def projectGithubArtifacts (previous : StoredJobV1) (resume : GithubJobResumeV1) :
    StoreResult (List StoredArtifactV1) :=
  (manifestArtifacts resume).foldlM projectGithubArtifact previous.artifacts

def githubSnapshotSourceIsClean (resume : GithubJobResumeV1) : Bool :=
  resume.gitSnapshot.all fun snapshot => snapshot.phase.sourceClean

def githubCleanupIsConfirmed (resume : GithubJobResumeV1) (evidence : GithubProjectionEvidence) :
    Bool :=
  evidence.cleanupConfirmation.any fun confirmation =>
    confirmation.workspaceRemoved && confirmation.signingMaterialRemoved &&
      resume.temporaryRefDeleted && githubSnapshotSourceIsClean resume &&
      (!resume.removeArtifactsRequested || resume.artifactsRemoved) &&
      confirmation.artifactsRetained != resume.removeArtifactsRequested

def githubAbsentPublicationIsClean (resume : GithubJobResumeV1) : Bool :=
  resume.publicationAbsent && resume.temporaryRefDeleted && githubSnapshotSourceIsClean resume &&
    (!resume.removeArtifactsRequested || resume.artifactsRemoved)

def recoverableCleanupFailure (record : StoredJobV1) : Bool :=
  match record.failure with
  | none => false
  | some failure =>
    if failure.code == "github.cleanup_failed" then
      (record.cleanupStatus = .failed || record.cleanupStatus = .pending ||
          record.cleanupStatus = .uncertain) &&
        (record.state = .cleanupFailed || record.state = .cleanupPending ||
          record.state = .failed || record.state = .unknown) &&
        record.providerResume.any fun resume => resume.state = .cleanupFailed
    else
      failure.code == "controller.cleanup_unconfirmed" && failure.retryable &&
        (record.cleanupStatus = .pending || record.cleanupStatus = .uncertain) &&
        (record.state = .failed || record.state = .cleanupPending || record.state = .unknown)

def effectiveLocalPhase (previous : StoredJobV1) : StoredJobState :=
  if previous.state.isOverlay || recoverableCleanupFailure previous then
    match previous.lastConfirmedState with
    | some confirmed => if confirmed.isOverlay then previous.state else confirmed
    | none => previous.state
  else previous.state

/-- The closure of `project_github_state`. -/
def preserveArtifactPhase (previous : StoredJobV1) (resume : GithubJobResumeV1) :
    StoredJobState :=
  if previous.state = .cleanupPending ∧ resume.state ≠ .cleaned then .cleanupPending
  else match effectiveLocalPhase previous with
    | .artifactReady => .artifactReady
    | .downloading => .downloading
    | .downloaded => .downloaded
    | .validating => .validating
    | .failed => .failed
    | .cleanupPending => .cleanupPending
    | .succeeded => .succeeded
    | _ => .artifactReady

/-- The local state of a cleaned job with a successful build. -/
def projectCleanedSuccess (previous : StoredJobV1) (resume : GithubJobResumeV1)
    (artifacts : List StoredArtifactV1) : StoredJobState × StoredJobState :=
  if previous.failure.isSome && !recoverableCleanupFailure previous then
    (.failed, .artifactReady)
  else if (previous.state = .cleanupPending || previous.state = .cleanupFailed ||
      recoverableCleanupFailure previous) && effectiveLocalPhase previous = .validating then
    (.cleanupPending, .validating)
  else if artifacts != [] && artifacts.all fun artifact =>
      artifact.localPath.isSome && artifact.locallyValidated then
    (.succeeded, .succeeded)
  else (preserveArtifactPhase previous resume, .artifactReady)

/-- The local state and the confirmed state that a checkpoint projects to. -/
def projectGithubState (previous : StoredJobV1) (resume : GithubJobResumeV1)
    (outcome : Option StoredBuildOutcome) (artifacts : List StoredArtifactV1) :
    StoreResult (StoredJobState × StoredJobState) :=
  let effectivePrevious := effectiveLocalPhase previous
  match resume.state with
  | .created => .ok (.submitting, .submitting)
  | .queued => .ok (.queued, .queued)
  | .running =>
    .ok (match effectivePrevious with
      | .compileRunning => .compileRunning
      | .signingWaiting => .signingWaiting
      | .signingRunning => .signingRunning
      | .artifactUploading => .artifactUploading
      | _ => .running, .running)
  | .cancelling => .ok (.cancellationRequested, .cancellationRequested)
  | .succeeded =>
    let localState := preserveArtifactPhase previous resume
    .ok (localState, if localState = .cleanupPending then effectivePrevious else .artifactReady)
  | .failed => .ok (.failed, .failed)
  | .cancelled => .ok (.cancelled, .cancelled)
  | .cleaning => .ok (.cleanupPending, effectivePrevious)
  | .cleanupFailed => .ok (.cleanupFailed, effectivePrevious)
  | .cleaned =>
    match outcome with
    | some .succeeded => .ok (projectCleanedSuccess previous resume artifacts)
    | some .failed => .ok (.failed, .failed)
    | some .cancelled => .ok (.cancelled, .cancelled)
    | some .expired | none =>
      .error (invalidRecord "cleaned GitHub state lacks a supported build outcome")

/-- The cleanup status that the state of a checkpoint asks for. -/
def projectStateCleanup (resume : GithubJobResumeV1) (evidence : GithubProjectionEvidence)
    (cleanupStatus : StoredCleanupStatus) : StoreResult StoredCleanupStatus :=
  match resume.state with
  | .cleaning => do
    rejectIf evidence.cleanupStartedAtMs.isNone
      (invalidRecord "cleaning GitHub state lacks cleanup-started evidence")
    return .pending
  | .cleaned => do
    rejectIf (!resume.cleanupRequested || evidence.cleanupStartedAtMs.isNone ||
        !githubCleanupIsConfirmed resume evidence)
      (invalidRecord "cleaned GitHub state lacks exact resource-removal evidence")
    return .confirmed
  | .cleanupFailed => do
    rejectIf (!resume.cleanupRequested || evidence.cleanupStartedAtMs.isNone ||
        evidence.cleanupConfirmation.isNone || githubCleanupIsConfirmed resume evidence)
      (invalidRecord "cleanup-failed GitHub state lacks consistent negative cleanup evidence")
    return .failed
  | _ => .ok cleanupStatus

/-- A requested cleanup is pending until it is confirmed. -/
def requestedCleanup (resume : GithubJobResumeV1) (status : StoredCleanupStatus) :
    StoredCleanupStatus :=
  if resume.cleanupRequested && status ≠ .confirmed then .pending else status

/-- What the publication of a checkpoint says about its cleanup. -/
def publicationCleanup (resume : GithubJobResumeV1) (evidence : GithubProjectionEvidence)
    (status : StoredCleanupStatus) : StoredCleanupStatus :=
  if githubAbsentPublicationIsClean resume && resume.state ≠ .cleanupFailed then .confirmed
  else if resume.publicationUncertain && !resume.publicationAbsent &&
      !githubCleanupIsConfirmed resume evidence && status ≠ .confirmed &&
      resume.state ≠ .cleanupFailed then .uncertain
  else status

def projectCleanupStatus (previous : StoredJobV1) (resume : GithubJobResumeV1)
    (evidence : GithubProjectionEvidence) : StoreResult StoredCleanupStatus := do
  let status ← projectStateCleanup resume evidence (requestedCleanup resume previous.cleanupStatus)
  return publicationCleanup resume evidence status

/-- A dispatched cancellation is recorded unless a later status is known. -/
def dispatchedCancellation (resume : GithubJobResumeV1) (status : StoredCancellationStatus) :
    StoreResult StoredCancellationStatus :=
  if resume.cancellationDispatched && !(status = .confirmed || status = .uncertain) then do
    rejectIf (status = .notRequested)
      (invalidRecord "GitHub cancellation dispatch lacks a controller-owned durable intent")
    return .dispatched
  else .ok status

def projectCancellationStatus (previous : StoredJobV1) (resume : GithubJobResumeV1)
    (evidence : GithubProjectionEvidence) (outcome : Option StoredBuildOutcome) :
    StoreResult StoredCancellationStatus := do
  rejectIf (resume.cancellationRequested && previous.cancellationStatus = .notRequested)
    (invalidRecord "GitHub cancellation callback lacks a controller-owned durable intent")
  let status ← dispatchedCancellation resume previous.cancellationStatus
  return if evidence.cancellationConfirmed then .confirmed
    else if resume.cancellationRequested && outcome = some .failed then .failed
    else status

/-- The failure kept from the previous revision. -/
def retainedFailure (previous : StoredJobV1) (resume : GithubJobResumeV1)
    (cleanupStatus : StoredCleanupStatus) : Option StoredFailureV1 :=
  if recoverableCleanupFailure previous &&
      (resume.state = .cleaning && (cleanupStatus = .pending || cleanupStatus = .confirmed) ||
        resume.state = .cleaned && cleanupStatus = .confirmed) then none
  else previous.failure

/-- The failure of the projected revision. -/
def projectFailure (previous : StoredJobV1) (resume : GithubJobResumeV1)
    (evidence : GithubProjectionEvidence) (outcome : Option StoredBuildOutcome)
    (state : StoredJobState) (cleanupStatus : StoredCleanupStatus) : Option StoredFailureV1 :=
  (retainedFailure previous resume cleanupStatus).orElse fun _ =>
    if outcome = some .failed then evidence.failure.orElse fun _ => some providerFailed
    else if state = .failed || state = .cleanupFailed then some ⟨"github.cleanup_failed", false⟩
    else none

/-- The time of the projected revision. -/
def projectUpdatedAtMs (previous : StoredJobV1) (resume : GithubJobResumeV1) : UInt64 :=
  resume.events.foldl (fun latest event => max latest event.timestampMs)
    (max (max (max previous.updatedAtMs resume.createdAtMs) resume.publicationStartedAtMs)
      resume.publicationAbsenceFirstObservedAtMs)

def projectGithubResume (previous : StoredJobV1) (resume : GithubJobResumeV1) :
    StoreResult StoredJobV1 := do
  let (evidence, outcome) ←
    (collectGithubProjectionEvidence resume) >>= deriveGithubOutcome previous resume
  let artifacts ← projectGithubArtifacts previous resume
  rejectIf (outcome = some .succeeded && (resume.state = .succeeded || resume.state = .cleaned) &&
      artifacts == [])
    (invalidRecord "successful GitHub checkpoint lacks artifact evidence")
  let (state, lastConfirmedState) ← projectGithubState previous resume outcome artifacts
  let cleanupStatus ← projectCleanupStatus previous resume evidence
  let cancellationStatus ← projectCancellationStatus previous resume evidence outcome
  let providerRunId ← githubResumeProviderRunId resume
  return { previous with
    revision := previous.revision + 1
    providerJobId := some resume.jobId
    providerRunId
    submittedAtMs := if previous.submittedAtMs.isNone && resume.publicationIntent then
      some resume.publicationStartedAtMs else previous.submittedAtMs
    updatedAtMs := projectUpdatedAtMs previous resume
    state
    lastConfirmedState := some lastConfirmedState
    terminalOutcome := outcome
    compileEvidence := resume.compileEvidence
    signedCleanupEvidence := resume.signedCleanupEvidence
    artifacts
    cleanupStatus
    cancellationStatus
    failure := projectFailure previous resume evidence outcome state cleanupStatus
    providerResume := some resume }

/-! ## Successors -/

def optionCanBeBoundOnce {α : Type} [DecidableEq α] : Option α → Option α → Bool
  | none, _ => true
  | some previous, some next => previous == next
  | some _, none => false

/-- An artifact and its record in the next revision disagree on what is bound once. -/
def artifactRegressed (previous next : StoredArtifactV1) : Bool :=
  previous.record ≠ next.record ||
    !optionCanBeBoundOnce previous.downloadDestination next.downloadDestination ||
    !optionCanBeBoundOnce previous.downloadParentIdentity next.downloadParentIdentity ||
    !optionCanBeBoundOnce previous.localPath next.localPath ||
    !optionCanBeBoundOnce previous.localFileIdentity next.localFileIdentity ||
    previous.locallyValidated && !next.locallyValidated

/-- One artifact of the previous revision in the next one. -/
def validateArtifactNext (previous next : StoredArtifactV1) : StoreResult Unit := do
  rejectIf (artifactRegressed previous next)
    (invalidRecord "artifact identity, path, or validation regressed")
  rejectIf (previous.localPath.isNone && next.localPath.isSome &&
      (previous.downloadDestination.isNone || previous.downloadParentIdentity.isNone ||
        previous.downloadDestination != next.downloadDestination ||
        previous.downloadParentIdentity != next.downloadParentIdentity))
    (invalidRecord "artifact publication requires a previously durable destination intent")
  rejectIf (!previous.locallyValidated && next.locallyValidated &&
      (previous.localPath.isNone || previous.localFileIdentity.isNone))
    (invalidRecord "artifact validation requires a previously durable local file identity")

/-- The artifact with the same identifier. -/
def findArtifact (artifacts : List StoredArtifactV1) (artifactId : String) :
    Option StoredArtifactV1 :=
  artifacts.find? fun candidate => candidate.record.artifactId == artifactId

def validateArtifactSuccessor (previous next : List StoredArtifactV1) : StoreResult Unit := do
  previous.forM fun artifact =>
    match findArtifact next artifact.record.artifactId with
    | none => .error (invalidRecord "artifact record was removed between revisions")
    | some candidate => validateArtifactNext artifact candidate
  rejectIf (next.any fun artifact =>
      !(previous.any fun old => old.record.artifactId == artifact.record.artifactId) &&
        (artifact.localPath.isSome || artifact.localFileIdentity.isSome ||
          artifact.locallyValidated))
    (invalidRecord "new provider artifacts cannot introduce local publication evidence")

/-- The identity of a job changed. -/
def jobIdentityChanged (previous next : StoredJobV1) : Bool :=
  previous.localJobId ≠ next.localJobId || previous.project ≠ next.project ||
    previous.provider ≠ next.provider || previous.operationId != next.operationId ||
    previous.request ≠ next.request || previous.requestSha256 != next.requestSha256 ||
    previous.semanticRetrySha256 != next.semanticRetrySha256 || previous.source ≠ next.source ||
    previous.target != next.target || previous.profile ≠ next.profile ||
    previous.signingMode ≠ next.signingMode || previous.createdAtMs != next.createdAtMs ||
    previous.retryLineage.attempt != next.retryLineage.attempt ||
    previous.retryLineage.parentJobId ≠ next.retryLineage.parentJobId

def cleanupFailureHasExactRecovery (previous next : StoredJobV1) : Bool :=
  previous.state = .cleanupFailed && previous.cleanupStatus = .failed &&
    next.cleanupStatus = .confirmed &&
    [StoredJobState.artifactReady, .downloading, .downloaded, .validating, .succeeded, .failed,
      .cancelled, .expired].contains next.state &&
    next.providerResume.any fun resume => resume.state = .cleaned

def failureCanTransition (previous next : StoredJobV1) : Bool :=
  match previous.failure, next.failure with
  | none, _ => true
  | some previousFailure, some nextFailure => previousFailure = nextFailure
  | some _, none =>
    recoverableCleanupFailure previous &&
      (next.cleanupStatus = .pending || next.cleanupStatus = .confirmed) &&
      [StoredJobState.cleanupPending, .artifactReady, .downloading, .downloaded, .validating,
        .succeeded, .cancelled].contains next.state

/-- The lifecycle part of `validate_successor`. -/
def validateStateSuccessor (previous next : StoredJobV1) : StoreResult Unit := do
  rejectIf (previous.state ≠ .unknown && !previous.state.canTransitionTo next.state &&
      !cleanupFailureHasExactRecovery previous next)
    (invalidRecord "invalid local job state transition")
  rejectIf (next.state = .unknown && next.lastConfirmedState ≠
      (if previous.state = .unknown then previous.lastConfirmedState
        else some (effectiveLocalPhase previous)))
    (invalidRecord "unknown state must preserve the exact last confirmed state")
  rejectIf (next.state = .unknown && next.terminalOutcome ≠ previous.terminalOutcome)
    (invalidRecord "unknown state cannot introduce a terminal build outcome")
  -- the way out of a cleanup state has no such check
  rejectIf (previous.state = .unknown && next.state ≠ .unknown &&
      !previous.lastConfirmedState.any fun confirmed => confirmed.canTransitionTo next.state)
    (invalidRecord "recovery from unknown regressed the last confirmed local phase")
  rejectIf ((next.state = .cleanupPending || next.state = .cleanupFailed) &&
      next.lastConfirmedState ≠ some (effectiveLocalPhase previous))
    (invalidRecord "cleanup overlay changed its underlying confirmed local phase")
  rejectIf (previous.state = .unknown && (next.state = .succeeded || next.state = .failed ||
        next.state = .cancelled || next.state = .expired) &&
      next.lastConfirmedState ≠ some next.state)
    (invalidRecord "terminal recovery from unknown requires an exact confirmed state")

/-- What a terminal fact of the next revision must rest on. -/
def validateTerminalSuccessor (previous next : StoredJobV1) : StoreResult Unit := do
  rejectIf (previous.terminalOutcome.any fun outcome => next.terminalOutcome ≠ some outcome)
    (invalidRecord "terminal build outcome changed")
  -- only the provider's checkpoint is evidence of its outcomes
  let providerCheckpointChanged := previous.providerResume ≠ next.providerResume
  rejectIf (previous.terminalOutcome ≠ next.terminalOutcome &&
      (next.terminalOutcome = some .succeeded || next.terminalOutcome = some .cancelled) &&
      !providerCheckpointChanged)
    (invalidRecord "provider-owned terminal outcome lacks a changed provider checkpoint")
  rejectIf (previous.cancellationStatus ≠ .confirmed && next.cancellationStatus = .confirmed &&
      !providerCheckpointChanged)
    (invalidRecord "confirmed cancellation lacks a changed provider checkpoint")
  rejectIf (previous.cleanupStatus ≠ next.cleanupStatus &&
      (next.cleanupStatus = .confirmed || next.cleanupStatus = .failed) &&
      !providerCheckpointChanged)
    (invalidRecord "confirmed or failed cleanup lacks a changed provider checkpoint")
  rejectIf (!failureCanTransition previous next)
    (invalidRecord "sanitized failure evidence changed")
  rejectIf (!previous.cleanupStatus.canTransitionTo next.cleanupStatus ||
      !previous.cancellationStatus.canTransitionTo next.cancellationStatus)
    (invalidRecord "cleanup or cancellation status regressed")

/-- A changed checkpoint must be the projection of the previous revision. -/
def requireProjection (previous next : StoredJobV1) (resume : GithubJobResumeV1) :
    StoreResult Unit := do
  let projected ← projectGithubResume previous resume
  rejectIf (projected ≠ next)
    (invalidRecord "GitHub provider checkpoint differs from its canonical local projection")

def validateResumeSuccessor (tools : ResumeTools) (previous next : StoredJobV1) :
    StoreResult Unit :=
  match previous.providerResume, next.providerResume with
  | some previousResume, some nextResume => do
    (previousResume.validateSuccessor tools nextResume).mapError
      fun _ => invalidRecord "GitHub provider resume checkpoint regressed between revisions"
    if previousResume ≠ nextResume then requireProjection previous next nextResume else .ok ()
  | some _, none => .error
      (invalidRecord "GitHub provider resume checkpoint was removed between revisions")
  | none, some nextResume => requireProjection previous next nextResume
  | none, none => .ok ()

def validateSuccessor (tools : ResumeTools) (previous next : StoredJobV1) : StoreResult Unit := do
  rejectIf (jobIdentityChanged previous next)
    (invalidRecord "immutable job identity changed between revisions")
  rejectIf (next.updatedAtMs < previous.updatedAtMs)
    (invalidRecord "revision timestamp moved backwards")
  rejectIf (!optionCanBeBoundOnce previous.providerJobId next.providerJobId ||
      !optionCanBeBoundOnce previous.providerRunId next.providerRunId ||
      !optionCanBeBoundOnce previous.submittedAtMs next.submittedAtMs)
    (invalidRecord "provider identity or submission time was replaced")
  rejectIf (!optionCanBeBoundOnce previous.compileEvidence next.compileEvidence ||
      !optionCanBeBoundOnce previous.signedCleanupEvidence next.signedCleanupEvidence)
    (invalidRecord "verified provider evidence changed between revisions")
  rejectIf (!optionCanBeBoundOnce previous.logLocation next.logLocation)
    (invalidRecord "managed log location changed between revisions")
  validateStateSuccessor previous next
  validateTerminalSuccessor previous next
  rejectIf (previous.retryLineage.childJobIds !=
      next.retryLineage.childJobIds.take previous.retryLineage.childJobIds.length)
    (invalidRecord "retry children were removed or reordered")
  validateArtifactSuccessor previous.artifacts next.artifacts
  validateResumeSuccessor tools previous next

def validateRegularSuccessor (tools : ResumeTools) (previous next : StoredJobV1) :
    StoreResult Unit := do
  rejectIf (previous.retryLineage.childJobIds ≠ next.retryLineage.childJobIds)
    (invalidRecord "retry children may only be changed by the atomic lineage API")
  validateSuccessor tools previous next

def validateGithubResumeProjectionIdentity (tools : ResumeTools) (previous : StoredJobV1)
    (resume : GithubJobResumeV1) : StoreResult Unit := do
  validateGithubResumeRecordIdentity tools previous resume
  forSome previous.providerResume fun prior =>
    (prior.validateSuccessor tools resume).mapError
      fun _ => invalidRecord "GitHub provider resume checkpoint regressed between revisions"

end RustFerry.JobStore
