import RustFerry.Spec.RequestBytes
import RustFerry.Spec.SuccessorRules

/-!
# What the checks of one stored record ask for

The checks of `StoredJobV1::validate` as structures: the lifecycle facts of a record, and
all its parts. Two records of one job share what is checked about its identity and its
request.
-/

namespace RustFerry.JobStore

open Remote Github Except

section

variable {record a b : StoredJobV1}

/-! ## Lifecycle facts -/

/-- What `validate_job_state` asks of a record. -/
structure ValidState (record : StoredJobV1) : Prop where
  confirmed : validateConfirmedState record.state record.lastConfirmedState = .ok ()
  outcome : validateStateOutcome record.state record.terminalOutcome = .ok ()
  succeeded : record.state = .succeeded → record.cleanupStatus = .confirmed
  cleanupPending : record.state = .cleanupPending →
    record.cleanupStatus ≠ .notStarted ∧ record.cleanupStatus ≠ .failed
  cleanupFailed : record.state = .cleanupFailed → record.cleanupStatus = .failed
  cancellationRequested : record.state = .cancellationRequested →
    record.cancellationStatus = .requested ∨ record.cancellationStatus = .dispatched ∨
      record.cancellationStatus = .uncertain
  cancelled : record.state = .cancelled → record.cancellationStatus = .confirmed
  failureRequired : failureRequired record = true → record.failure.isSome
  failureAllowed : record.failure.isSome → failureAllowed record = true

/-- The lifecycle facts of a record, by its state. -/
theorem validateJobState_eq_ok :
    validateJobState record = .ok () ↔ ValidState record := by
  simp only [validateJobState, check_bind_eq_ok, rejectIf_eq_ok, Bool.and_eq_false_imp,
    Bool.or_eq_false_iff, Bool.not_eq_false', Bool.not_eq_true', decide_eq_true_eq,
    decide_eq_false_iff_not, ne_eq, not_not, Bool.or_eq_true, or_assoc,
    Option.isNone_eq_false_iff]
  constructor
  · intro hparts
    obtain ⟨h1, h2, h3, h4, h5, h6, h7, h8, h9⟩ := hparts
    refine ⟨h1, h2, h3, h4, h5, h6, h7, h8, ?_⟩
    intro hsome
    by_cases ha : JobStore.failureAllowed record = true
    · exact ha
    · exact absurd hsome (by simp [h9 (by simpa using ha)])
  · intro hparts
    obtain ⟨h1, h2, h3, h4, h5, h6, h7, h8, h9⟩ := hparts
    refine ⟨h1, h2, h3, h4, h5, h6, h7, h8, ?_⟩
    intro ha
    cases hf : record.failure.isSome with
    | false => rfl
    | true => cases (h9 hf).symm.trans ha

/-! ## Whole records -/

/-- What `validate` asks of a record. -/
structure ValidRecord (tools : ResumeTools) (record : StoredJobV1) : Prop where
  identity : record.validateIdentity = .ok ()
  request : record.validateRequest tools = .ok ()
  state : ValidState record
  artifacts : record.validateArtifacts = .ok ()
  logLocation : ∀ location, record.logLocation = some location →
    validateManagedRelativePath location = .ok ()
  lineage : validateRetryLineage record.localJobId record.retryLineage = .ok ()
  failureCode : ∀ failure, record.failure = some failure →
    validateIdentifier "failure.code" failure.code = .ok ()
  failed : record.state = .failed ∨ record.state = .cleanupFailed → record.failure.isSome
  allocated : record.provider.provider = githubProviderId →
    record.providerJobId.isSome ∨ record.providerRunId.isSome → record.providerResume.isSome
  compileEvidence : ∀ evidence, record.compileEvidence = some evidence →
    record.validateCompileEvidence tools evidence = .ok ()
  signedCleanup : record.signedCleanupEvidence.isSome → record.compileEvidence.isSome
  resume : ∀ resume, record.providerResume = some resume →
    record.validateResume tools resume = .ok ()
  noResume : record.providerResume = none →
    record.compileEvidence = none ∧ record.signedCleanupEvidence = none

/-- A record is valid exactly when `ValidRecord` holds. -/
theorem validate_eq_ok {tools : ResumeTools} :
    record.validate tools = .ok () ↔ ValidRecord tools record := by
  simp only [StoredJobV1.validate, check_bind_eq_ok, rejectIf_eq_ok, forSome_eq_ok,
    validateJobState_eq_ok, Bool.and_eq_false_imp, Bool.and_eq_true, Bool.or_eq_true,
    decide_eq_true_eq, beq_iff_eq, Option.isNone_eq_false_iff, and_imp]
  cases hr : record.providerResume with
  | none =>
    simp only [rejectIf_eq_ok, Bool.or_eq_false_iff, Option.isSome_eq_false_iff,
      Option.isNone_iff_eq_none]
    constructor
    · intro hparts
      obtain ⟨h1, h2, h3, h4, h5, h6, h7, h8, h9, h10, h11, h12⟩ := hparts
      exact ⟨h1, h2, h3, h4, h5, h6, h7, h8, by rwa [hr], h10, h11, by simp [hr], fun _ => h12⟩
    · intro hparts
      obtain ⟨h1, h2, h3, h4, h5, h6, h7, h8, h9, h10, h11, _, h13⟩ := hparts
      exact ⟨h1, h2, h3, h4, h5, h6, h7, h8, by rwa [hr] at h9, h10, h11, h13 hr⟩
  | some resume =>
    constructor
    · intro hparts
      obtain ⟨h1, h2, h3, h4, h5, h6, h7, h8, h9, h10, h11, h12⟩ := hparts
      exact ⟨h1, h2, h3, h4, h5, h6, h7, h8, by rwa [hr], h10, h11, by simpa [hr] using h12,
        by simp [hr]⟩
    · intro hparts
      obtain ⟨h1, h2, h3, h4, h5, h6, h7, h8, h9, h10, h11, h12, _⟩ := hparts
      exact ⟨h1, h2, h3, h4, h5, h6, h7, h8, by rwa [hr] at h9, h10, h11, h12 resume hr⟩

/-! ## Records of one job -/

/-- The identity of a record is the one of its job, but for what the provider allocates. -/
theorem validateIdentity_of_sameJob (hsame : SameJob a b) (h : a.validateIdentity = .ok ())
    (hschema : a.schemaVersion = b.schemaVersion)
    (hrevision : revisionIsSupported b.revision = true)
    (hjob : ∀ id, b.providerJobId = some id → validateIdentifier "provider_job_id" id = .ok ())
    (hrun : ∀ id, b.providerRunId = some id → validateIdentifier "provider_run_id" id = .ok ()) :
    b.validateIdentity = .ok () := by
  simp only [StoredJobV1.validateIdentity, check_bind_eq_ok, rejectIf_eq_ok, forSome_eq_ok,
    hsame.project, hsame.provider, hsame.operationId, hsame.target, hschema] at h ⊢
  obtain ⟨h1, _, h3, h4, h5, h6, h7, h8, h9, h10, h11, _, _, h14⟩ := h
  exact ⟨h1, by simp [hrevision], h3, h4, h5, h6, h7, h8, h9, h10, h11, hjob, hrun, h14⟩

/-- The request of a record is the one of its job; only its times are its own. -/
theorem validateRequest_of_sameJob {tools : ResumeTools} (hsame : SameJob a b)
    (h : a.validateRequest tools = .ok ()) (hupdated : b.createdAtMs ≤ b.updatedAtMs)
    (hsubmitted : ∀ submitted, b.submittedAtMs = some submitted → b.createdAtMs ≤ submitted ∧
      submitted ≤ b.updatedAtMs) :
    b.validateRequest tools = .ok () := by
  have htimes : (decide (b.updatedAtMs < b.createdAtMs) || b.submittedAtMs.any fun submitted =>
      decide (submitted < b.createdAtMs) || decide (submitted > b.updatedAtMs)) = false := by
    simp only [Bool.or_eq_false_iff, decide_eq_false_iff_not, UInt64.not_lt, Option.any_eq_false,
      gt_iff_lt]
    exact ⟨hupdated, hsubmitted⟩
  simp only [StoredJobV1.validateRequest, bind_eq_ok, rejectIf_eq_ok, hsame.request,
    hsame.operationId, hsame.project, hsame.profile, hsame.signingMode, hsame.requestSha256,
    hsame.semanticRetrySha256, hsame.source] at h ⊢
  grind

/-- What the checks of an artifact list leave to its state. -/
theorem validateArtifacts_of_seen
    (hseen : (record.artifacts.foldlM (seeArtifact record.project.canonicalRoot) ⟨[], [],
      []⟩).toBool = true)
    (hstate : record.artifacts.length ≤ maxArtifacts ∧ record.artifacts ≠ [] ∧
      ((record.state = .downloading || record.state = .downloaded || record.state =
        .validating || record.state = .succeeded) && record.artifacts.any fun artifact =>
        artifact.downloadDestination.isNone) = false ∧
      ((record.state = .downloaded || record.state = .validating || record.state =
        .succeeded) && record.artifacts.any fun artifact => artifact.localPath.isNone) = false ∧
      (record.state = .succeeded && record.artifacts.any fun artifact =>
        !artifact.locallyValidated) = false) :
    record.validateArtifacts = .ok () := by
  obtain ⟨hlength, hnonempty, hdestination, hlocal, hvalidated⟩ := hstate
  obtain ⟨seen, hfold⟩ := exists_eq_ok_of_toBool hseen
  have hneeded : (record.state.requiresArtifacts && record.artifacts == []) = false := by
    simp [hnonempty]
  rw [StoredJobV1.validateArtifacts, check_bind_eq_ok, rejectIf_eq_ok, bind_eq_ok]
  refine ⟨by simpa using hlength, seen, hfold, ?_⟩
  simp only [check_bind_eq_ok, rejectIf_eq_ok]
  exact ⟨hneeded, hdestination, hlocal, hvalidated⟩

/-- The checkpoint of a record is checked against its job, what the provider allocated, and the
    records of its artifacts. -/
theorem validateResume_of_sameJob {tools : ResumeTools} {resume : GithubJobResumeV1}
    (hsame : SameJob a b) (hjob : a.providerJobId = b.providerJobId)
    (hrun : a.providerRunId = b.providerRunId) (hcompile : a.compileEvidence = b.compileEvidence)
    (hsigned : a.signedCleanupEvidence = b.signedCleanupEvidence)
    (hartifacts : a.artifacts.map (·.record) = b.artifacts.map (·.record))
    (h : a.validateResume tools resume = .ok ()) : b.validateResume tools resume = .ok () := by
  have hmanifest : validateGithubManifestIdentity a = validateGithubManifestIdentity b := by
    funext resume manifest
    simp only [validateGithubManifestIdentity, hsame.source]
  have hevent : validateResumeEvent tools a = validateResumeEvent tools b := by
    funext resume index event
    simp only [validateResumeEvent, hmanifest]
  have hsnapshot : validateGithubSnapshotResumeIdentity tools a resume =
      validateGithubSnapshotResumeIdentity tools b resume := by
    simp only [validateGithubSnapshotResumeIdentity, hsame.request, hsame.operationId]
  have hidentity : validateGithubResumeRecordIdentity tools a resume =
      validateGithubResumeRecordIdentity tools b resume := by
    simp only [validateGithubResumeRecordIdentity, resumeIdentityDiffers, hmanifest, hevent,
      hsnapshot, hsame.provider, hsame.operationId, hsame.request, hsame.requestSha256,
      hsame.source, hsame.createdAtMs, hjob, hrun]
  have hprojection : validateGithubArtifactProjection a resume =
      validateGithubArtifactProjection b resume := by
    have hlength : a.artifacts.length = b.artifacts.length := by
      simpa using congrArg List.length hartifacts
    have hany : ∀ p : ArtifactRecord → Bool, (a.artifacts.any fun artifact => p artifact.record) =
        b.artifacts.any fun artifact => p artifact.record := by
      intro p
      have hmap := congrArg (List.any · p) hartifacts
      simpa only [List.any_map, Function.comp_def] using hmap
    simp only [validateGithubArtifactProjection, hlength]
    congr 1
    funext expected
    rw [hany fun record => expected.lookup record.artifactId != some record]
  simp only [StoredJobV1.validateResume, StoredJobV1.resumeDiffers, hidentity, hprojection,
    hsame.provider, hsame.operationId, hsame.request, hsame.requestSha256, hsame.source, hjob,
    hrun, hcompile, hsigned] at h ⊢
  exact h

end

/-! ## A job from its first revision to its success -/

namespace Sample

/-- A manifest with the files that compile evidence names. -/
def manifest : Snapshot.SourceManifest where
  schemaVersion := 1
  projectPath := "."
  entries := [
    ⟨"Cargo.lock", 12, "0c5c2f0b5b1c9c38ed2e8ebbee56d7b6e4ae2d9a7a1b4e8e0f1c6d5a4b3c2d1e", false⟩,
    ⟨"Cargo.toml", 10, "8a3cd5a81b3f9a621aa493d90c45f42ab571d4e42b8ae5aff351cb0a02d06d82", false⟩,
    ⟨"ferry.toml", 11, "5b0f6e2c1d3a4b5c6d7e8f90112233445566778899aabbccddeeff0011223344", false⟩]
  totalSize := 33
  sha256 := "a94d93224d9e65013f834c96556957f1dd0ee62f2a23a66441bfac40aad8d491"

/-- The digests of the three texts that the sample job hashes, told apart by their first bytes:
    of the request, of the manifest and of the retry template. -/
def sha256 (bytes : List UInt8) : String :=
  if bytes.head? = some 123 then "381f1056dd24aa3a9fdca4d4e530119373304a8ab7ce529cd8f39f32bcb00ee0"
  else if (bytes.drop 10).head? = some 115 then manifest.sha256
  else "957f14c0716ef97c07bd361fc3a254e4d4f04903b3824cb5ed2ae13a9611ceba"

/-- No sample has a snapshot, a signature or a dispatch, and all are small. -/
def tools : ResumeTools where
  request := { Remote.Sample.tools with
    inspection := { Remote.Sample.tools.inspection with sha256 := sha256 } }
  parseUrl := fun _ => none
  encodedLength := fun _ => 8192
  compileEvidenceBytes := fun _ => []
  descriptorBytes := fun _ => none
  dispatchRequest := fun _ _ => none

def request : IosDeviceBuildRequest :=
  { Remote.Sample.request with sourceMode := .git, source := manifest }

/-- The first revision of the sample job. -/
def created : StoredJobV1 where
  schemaVersion := 1
  localJobId := ⟨"job-1", by decide⟩
  revision := 1
  project := ⟨"/app", "rustferry-directory-v1:unix:0000000000000001:0000000000000002",
    "com.example.app"⟩
  provider := {
    provider := "github-actions"
    providerConfigSha256 := "381f1056dd24aa3a9fdca4d4e530119373304a8ab7ce529cd8f39f32bcb00ee0"
    principal := .user 7 "octocat"
    executionRepository := "https://github.com/example/app"
    executionRepositoryId := 42 }
  providerJobId := none
  providerRunId := none
  operationId := "operation-1"
  request := request
  requestSha256 := "381f1056dd24aa3a9fdca4d4e530119373304a8ab7ce529cd8f39f32bcb00ee0"
  semanticRetrySha256 := "957f14c0716ef97c07bd361fc3a254e4d4f04903b3824cb5ed2ae13a9611ceba"
  source := ⟨some "0123456789abcdef0123456789abcdef01234567", manifest.sha256⟩
  target := "iphone"
  profile := .release
  signingMode := .unsignedCompileOnly
  createdAtMs := 1000
  submittedAtMs := none
  updatedAtMs := 1000
  state := .sourceReady
  lastConfirmedState := some .sourceReady
  terminalOutcome := none
  compileEvidence := none
  signedCleanupEvidence := none
  artifacts := []
  logLocation := none
  cleanupStatus := .notStarted
  retryLineage := ⟨0, none, []⟩
  cancellationStatus := .notRequested
  failure := none
  providerResume := none

def submitting : StoredJobV1 :=
  { created with revision := 2, state := .submitting, lastConfirmedState := some .submitting }

def running : StoredJobV1 :=
  { submitting with revision := 3, state := .running, lastConfirmedState := some .running }

/-- The archive that the sample job builds. -/
def archive : ArtifactRecord where
  artifactId := "archive"
  kind := .xcarchive
  fileName := "App.xcarchive.tar"
  size := 4096
  sha256 := "5b0f6e2c1d3a4b5c6d7e8f90112233445566778899aabbccddeeff0011223344"
  mediaType := none

def artifactManifest : ArtifactManifest where
  schemaVersion := 1
  operationId := "operation-1"
  jobId := "operation-1"
  projectId := "com.example.app"
  sourceRepository := some "https://github.com/example/app"
  sourceRevision := some "0123456789abcdef0123456789abcdef01234567"
  sourceSnapshot := false
  sourceSha256 := manifest.sha256
  cargoLockSha256 := "0c5c2f0b5b1c9c38ed2e8ebbee56d7b6e4ae2d9a7a1b4e8e0f1c6d5a4b3c2d1e"
  configSha256 := "5b0f6e2c1d3a4b5c6d7e8f90112233445566778899aabbccddeeff0011223344"
  rustferryVersion := "0.1.0"
  workerVersion := "0.1.0"
  provider := "github-actions"
  toolchain := ⟨"macos", "arm64", "16.0", "18.0", "1.90.0", "aarch64-apple-ios"⟩
  appName := "App"
  appVersion := "1.0"
  buildNumber := "1"
  bundleIdentifier := "com.example.app"
  buildProfile := "release"
  architecture := "arm64"
  signing := ⟨.unsignedCompileOnly, .unsigned, none, none, none, none, none⟩
  extensions := []
  artifacts := [archive]
  validationLevels := ∅
  startedAt := "2025-01-01T00:00:00Z"
  finishedAt := "2025-01-01T00:10:00Z"
  cleanupStatus := .confirmed

def compileEvidence : CompilePhaseEvidence where
  schemaVersion := 1
  jobId := "operation-1"
  provider := "github-actions"
  requestSha256 := "381f1056dd24aa3a9fdca4d4e530119373304a8ab7ce529cd8f39f32bcb00ee0"
  sourceSha256 := manifest.sha256
  cargoLockSha256 := "0c5c2f0b5b1c9c38ed2e8ebbee56d7b6e4ae2d9a7a1b4e8e0f1c6d5a4b3c2d1e"
  configSha256 := "5b0f6e2c1d3a4b5c6d7e8f90112233445566778899aabbccddeeff0011223344"
  toolchain := ⟨"18.0", "22A3351", "aarch64-apple-ios", ""⟩
  sealedArchive := {
    schemaVersion := 1
    transport := ⟨4096, "5b0f6e2c1d3a4b5c6d7e8f90112233445566778899aabbccddeeff0011223344"⟩
    contents := manifest
    expectation := {
      appDirectoryName := "App.app"
      bundleIdentifier := "com.example.app"
      executable := "App"
      appVersion := "1.0"
      buildNumber := "1"
      minimumOs := "16.0"
      sdkVersion := "18.0"
      sdkBuildVersion := "22A3351"
      nestedBundles := []
      requiredResources := [] } }
  details := ""

/-- The checkpoint of a run that ended with the archive. -/
def built : GithubJobResumeV1 where
  schemaVersion := 1
  provider := "github-actions"
  providerConfigSha256 := "381f1056dd24aa3a9fdca4d4e530119373304a8ab7ce529cd8f39f32bcb00ee0"
  principal := .user 7 "octocat"
  executionRepository := "https://github.com/example/app"
  executionRepositoryId := 42
  sourceRepository := "https://github.com/example/app"
  trustedSourceRef := "refs/heads/main"
  workflowPath := ".github/workflows/rustferry.yml"
  workflowSha256 := "5b0f6e2c1d3a4b5c6d7e8f90112233445566778899aabbccddeeff0011223344"
  temporaryRef := "refs/heads/rustferry/operation-1"
  operationId := "operation-1"
  jobId := "operation-1"
  request := request
  requestSha256 := "381f1056dd24aa3a9fdca4d4e530119373304a8ab7ce529cd8f39f32bcb00ee0"
  sourceRevision := "0123456789abcdef0123456789abcdef01234567"
  gitSnapshot := none
  preparedDispatchCommit := some "89abcdef0123456789abcdef0123456789abcdef"
  dispatchCommit := some "89abcdef0123456789abcdef0123456789abcdef"
  workflowDispatch := none
  run := some {
    runId := 100
    workflowId := 5
    workflowPath := ".github/workflows/rustferry.yml"
    headSha := "89abcdef0123456789abcdef0123456789abcdef"
    branch := "rustferry/operation-1"
    event := .push
    runNumber := 3
    runAttempt := 1
    status := .completed
    conclusion := some .success }
  createdAtMs := 2000
  publicationStartedAtMs := 2000
  publicationQuiescenceDeadlineMs := 4502000
  state := .succeeded
  publicationIntent := true
  publicationUncertain := false
  publicationAbsent := false
  publicationNotAttempted := false
  publicationProcessFenced := false
  publicationLeaseScopeSha256 := none
  publicationAbsenceObservations := 0
  publicationAbsenceFirstObservedAtMs := 0
  cancellationRequested := false
  cancellationDispatched := false
  cleanupRequested := false
  removeArtifactsRequested := false
  artifactsRemoved := false
  temporaryRefDeleted := false
  verificationPendingEvent := false
  runDiscoveryAttempts := 1
  runDiscoveryDeadlineMs := 9000
  manifests := [artifactManifest]
  compileEvidence := some compileEvidence
  signedCleanupEvidence := none
  events := []

def event (sequence timestampMs : UInt64) (kind : RemoteBuildEventKind) : RemoteBuildEvent where
  protocolVersion := currentProtocolVersion
  operationId := "operation-1"
  jobId := "operation-1"
  timestampMs := timestampMs
  provider := "github-actions"
  phase := "cleanup"
  sequence := sequence
  kind := kind

/-- The events of a cleanup that removed everything but the artifacts. -/
def cleanupEvents : List RemoteBuildEvent :=
  [event 1 5000 .cleanupStarted,
    event 2 6000 (.cleanupFinished ⟨"operation-1", 5500, true, true, true⟩)]

/-- The checkpoint after the cleanup. -/
def cleaned : GithubJobResumeV1 :=
  { built with
    state := .cleaned
    cleanupRequested := true
    temporaryRefDeleted := true
    events := cleanupEvents }

/-- The revision with the checkpoint of the run. -/
def artifactReady : StoredJobV1 :=
  { running with
    revision := 4
    providerJobId := some "operation-1"
    providerRunId := some "100"
    submittedAtMs := some 2000
    updatedAtMs := 2000
    state := .artifactReady
    lastConfirmedState := some .artifactReady
    terminalOutcome := some .succeeded
    compileEvidence := some compileEvidence
    artifacts := [⟨archive, none, none, none, none, false⟩]
    providerResume := some built }

def destination : String := "/app/target/ferry/App.tar"

/-- The archive with its destination. -/
def intended : StoredArtifactV1 where
  record := archive
  downloadDestination := some destination
  downloadParentIdentity :=
    some "rustferry-directory-v1:unix:0000000000000001:0000000000000003"
  localPath := none
  localFileIdentity := none
  locallyValidated := false

def downloading : StoredJobV1 :=
  { artifactReady with
    revision := 5
    state := .downloading
    lastConfirmedState := some .downloading
    artifacts := [intended] }

/-- The archive with its local file. -/
def published : StoredArtifactV1 :=
  { intended with
    localPath := some destination
    localFileIdentity :=
      some "rustferry-regular-file-v1:unix:0000000000000001:0000000000000004" }

def downloaded : StoredJobV1 :=
  { downloading with
    revision := 6
    state := .downloaded
    lastConfirmedState := some .downloaded
    artifacts := [published] }

def validating : StoredJobV1 :=
  { downloaded with
    revision := 7
    state := .validating
    lastConfirmedState := some .validating
    artifacts := [{ published with locallyValidated := true }] }

def succeeded : StoredJobV1 :=
  { validating with
    revision := 8
    updatedAtMs := 6000
    state := .succeeded
    lastConfirmedState := some .succeeded
    cleanupStatus := .confirmed
    providerResume := some cleaned }


/-- The cleanup is pending while the archive is downloaded. -/
def cleanupPending : StoredJobV1 :=
  { downloading with
    revision := 6
    state := .cleanupPending
    lastConfirmedState := some .downloading
    cleanupStatus := .pending }

/-- The download goes on after the overlay. -/
def resumed : StoredJobV1 :=
  { cleanupPending with revision := 7, state := .downloading }

/-- The job is back at its artifacts after the overlay. -/
def rewound : StoredJobV1 :=
  { cleanupPending with revision := 7, state := .artifactReady }

/-! The records of the sample are valid. -/

/-- The manifest, the first revision, the artifact lists and the checkpoints pass their checks. -/
theorem checks_pass :
    (Source.validateSourceManifest tools.request.source manifest .default = .ok () ∧
        created.validateIdentity = .ok ()) ∧
      (∀ artifacts ∈ [artifactReady.artifacts, downloading.artifacts, downloaded.artifacts,
          validating.artifacts],
        (artifacts.foldlM (seeArtifact "/app") ⟨[], [], []⟩).toBool = true) ∧
      artifactReady.validateResume tools built = .ok () ∧
      succeeded.validateResume tools cleaned = .ok () ∧
      retryTemplateDomain =
        [114, 117, 115, 116, 102, 101, 114, 114, 121, 45, 114, 101, 116, 114, 121, 45, 116, 101, 109,
          112, 108, 97, 116, 101, 45, 118, 49, 0] := by
  decide +kernel

theorem validate_request : request.validate tools.request = .ok () :=
  Remote.validate_eq_ok.mpr
    { Remote.validate_eq_ok.mp Remote.Sample.validate_request with source := checks_pass.1.1 }

theorem validate_template :
    ({ request with operationId := operationIdPlaceholder }).validate tools.request = .ok () :=
  Remote.validate_eq_ok.mpr
    { Remote.validate_eq_ok.mp validate_request with operation := by decide }

theorem retryTemplateDomain_eq : retryTemplateDomain =
    [114, 117, 115, 116, 102, 101, 114, 114, 121, 45, 114, 101, 116, 114, 121, 45, 116, 101, 109,
      112, 108, 97, 116, 101, 45, 118, 49, 0] :=
  checks_pass.2.2.2.2

/-- A request starts with a brace, which no manifest and no template does. -/
theorem sha256_toVec (request : IosDeviceBuildRequest) :
    sha256 (toVec request) =
      "381f1056dd24aa3a9fdca4d4e530119373304a8ab7ce529cd8f39f32bcb00ee0" := by
  have hhead : (toVec request).head? = some 123 := by
    rw [toVec, Text.utf8_ofList]
    show ((Json.object _).print.flatMap String.utf8EncodeChar).head? = _
    rw [Json.print]
    rfl
  rw [sha256, if_pos hhead]

theorem sha256_template (bytes : List UInt8) :
    sha256 (retryTemplateDomain ++ bytes) =
      "957f14c0716ef97c07bd361fc3a254e4d4f04903b3824cb5ed2ae13a9611ceba" := by
  rw [sha256, if_neg (by simp [retryTemplateDomain_eq]), if_neg (by simp [retryTemplateDomain_eq])]

theorem requestSha256_request : canonicalRequestSha256 tools.request request =
    .ok "381f1056dd24aa3a9fdca4d4e530119373304a8ab7ce529cd8f39f32bcb00ee0" := by
  rw [canonicalRequestSha256, canonicalRequestBytes, validate_request]
  exact congrArg Except.ok (sha256_toVec request)

theorem validateRequest_created : created.validateRequest tools = .ok () := by
  have htemplate : canonicalRetryTemplateSha256V1 tools.request request =
      .ok "957f14c0716ef97c07bd361fc3a254e4d4f04903b3824cb5ed2ae13a9611ceba" := by
    simp only [canonicalRetryTemplateSha256V1, canonicalRetryTemplateBytesV1,
      canonicalRequestBytes, validate_request, validate_template]
    exact congrArg Except.ok
      (sha256_template (toVec { request with operationId := operationIdPlaceholder }))
  simp only [StoredJobV1.validateRequest, check_bind_eq_ok, mapError_eq_ok, created,
    requestSha256_request, htemplate, validate_request]
  decide +kernel

theorem validateIdentity_created : created.validateIdentity = .ok () := checks_pass.1.2

theorem valid_created : ValidRecord tools created where
  identity := validateIdentity_created
  request := validateRequest_created
  state := validateJobState_eq_ok.mp (by decide)
  artifacts := by decide
  logLocation := by simp [created]
  lineage := by decide
  failureCode := by simp [created]
  failed := by decide
  allocated := by decide
  compileEvidence := by simp [created]
  signedCleanup := by decide
  resume := by simp [created]
  noResume := by decide

theorem sameJob_submitting : SameJob created submitting := by
  constructor <;> rfl

theorem valid_submitting : ValidRecord tools submitting where
  identity := validateIdentity_of_sameJob sameJob_submitting validateIdentity_created rfl (by decide)
    (forall_of_eq_none rfl) (forall_of_eq_none rfl)
  request := validateRequest_of_sameJob sameJob_submitting validateRequest_created (by decide)
    (forall_of_eq_none rfl)
  state := validateJobState_eq_ok.mp (by decide)
  artifacts := by decide
  logLocation := forall_of_eq_none rfl
  lineage := by decide
  failureCode := forall_of_eq_none rfl
  failed := by decide
  allocated := by decide
  compileEvidence := forall_of_eq_none rfl
  signedCleanup := by decide
  resume := forall_of_eq_none rfl
  noResume := by decide

theorem sameJob_running : SameJob created running := by
  constructor <;> rfl

theorem valid_running : ValidRecord tools running where
  identity := validateIdentity_of_sameJob sameJob_running validateIdentity_created rfl (by decide)
    (forall_of_eq_none rfl) (forall_of_eq_none rfl)
  request := validateRequest_of_sameJob sameJob_running validateRequest_created (by decide)
    (forall_of_eq_none rfl)
  state := validateJobState_eq_ok.mp (by decide)
  artifacts := by decide
  logLocation := forall_of_eq_none rfl
  lineage := by decide
  failureCode := forall_of_eq_none rfl
  failed := by decide
  allocated := by decide
  compileEvidence := forall_of_eq_none rfl
  signedCleanup := by decide
  resume := forall_of_eq_none rfl
  noResume := by decide

theorem providerJobId_ok : ∀ id, some "operation-1" = some id →
    validateIdentifier "provider_job_id" id = .ok () := by
  intro id h
  rw [← Option.some.inj h]
  decide

theorem providerRunId_ok : ∀ id, some "100" = some id →
    validateIdentifier "provider_run_id" id = .ok () := by
  intro id h
  rw [← Option.some.inj h]
  decide

theorem submittedAtMs_ok : ∀ submitted, some (2000 : UInt64) = some submitted →
    1000 ≤ submitted ∧ submitted ≤ 2000 := by
  intro submitted h
  rw [← Option.some.inj h]
  decide

theorem validate_compileEvidence :
    validateGithubCompilePhaseEvidence tools compileEvidence request "operation-1" = .ok () := by
  rw [validateGithubCompilePhaseEvidence, validate_request, requestSha256_request]
  decide +kernel

theorem seen_artifacts : ∀ artifacts ∈
    [artifactReady.artifacts, downloading.artifacts, downloaded.artifacts, validating.artifacts],
    (artifacts.foldlM (seeArtifact "/app") ⟨[], [], []⟩).toBool = true :=
  checks_pass.2.1

theorem validateResume_built : artifactReady.validateResume tools built = .ok () :=
  checks_pass.2.2.1

theorem validateResume_cleaned : succeeded.validateResume tools cleaned = .ok () :=
  checks_pass.2.2.2.1

/-- The checkpoint of the run fits every later revision with its artifacts. -/
theorem resume_built {record : StoredJobV1} (hsame : SameJob artifactReady record)
    (hjob : record.providerJobId = some "operation-1") (hrun : record.providerRunId = some "100")
    (hcompile : record.compileEvidence = some compileEvidence)
    (hsigned : record.signedCleanupEvidence = none)
    (hartifacts : record.artifacts.map (·.record) = [archive]) :
    record.validateResume tools built = .ok () :=
  validateResume_of_sameJob hsame hjob.symm hrun.symm hcompile.symm hsigned.symm hartifacts.symm
    validateResume_built

/-- A record of the run, from what is its own: its number, its time, its state, its artifacts, the
    state of its cleanup and its checkpoint. -/
theorem valid_of_run {record : StoredJobV1} {checkpoint : GithubJobResumeV1}
    (hkeeps : { artifactReady with
      revision := record.revision, updatedAtMs := record.updatedAtMs, state := record.state,
      lastConfirmedState := record.lastConfirmedState, artifacts := record.artifacts,
      cleanupStatus := record.cleanupStatus, providerResume := record.providerResume } = record)
    (hcheckpoint : record.providerResume = some checkpoint)
    (hresume : record.validateResume tools checkpoint = .ok ())
    (hown : revisionIsSupported record.revision = true ∧ 2000 ≤ record.updatedAtMs ∧
      validateJobState record = .ok ())
    (hartifacts : record.validateArtifacts = .ok ()) : ValidRecord tools record := by
  obtain ⟨hrevision, hupdated, hstate⟩ := hown
  have hsame : SameJob created record := by
    rw [← hkeeps]
    constructor <;> rfl
  have hjob : record.providerJobId = some "operation-1" := congrArg (·.providerJobId) hkeeps.symm
  have hrun : record.providerRunId = some "100" := congrArg (·.providerRunId) hkeeps.symm
  have hsubmitted : record.submittedAtMs = some 2000 := congrArg (·.submittedAtMs) hkeeps.symm
  have hcreated : record.createdAtMs = 1000 := hsame.createdAtMs.symm
  have hcompile : record.compileEvidence = some compileEvidence :=
    congrArg (·.compileEvidence) hkeeps.symm
  have hsigned : record.signedCleanupEvidence = none :=
    congrArg (·.signedCleanupEvidence) hkeeps.symm
  have hfailure : record.failure = none := congrArg (·.failure) hkeeps.symm
  have hfacts := validateJobState_eq_ok.mp hstate
  exact {
    identity := validateIdentity_of_sameJob hsame validateIdentity_created
      (congrArg (·.schemaVersion) hkeeps) hrevision (hjob ▸ providerJobId_ok)
      (hrun ▸ providerRunId_ok)
    request := by
      apply validateRequest_of_sameJob hsame validateRequest_created
      · rw [hcreated]
        exact UInt64.le_trans (by decide) hupdated
      · intro submitted h
        rw [hsubmitted] at h
        rw [hcreated, ← Option.some.inj h]
        exact ⟨by decide, hupdated⟩
    state := hfacts
    artifacts := hartifacts
    logLocation := forall_of_eq_none (congrArg (·.logLocation) hkeeps.symm)
    lineage := by
      rw [← hsame.localJobId, show record.retryLineage = created.retryLineage from
        congrArg (·.retryLineage) hkeeps.symm]
      decide
    failureCode := forall_of_eq_none hfailure
    failed := by
      intro h
      apply hfacts.failureRequired
      rcases h with h | h <;> simp [JobStore.failureRequired, h]
    allocated := fun _ _ => by simp [hcheckpoint]
    compileEvidence := by
      intro evidence h
      rw [hcompile] at h
      rw [← Option.some.inj h, StoredJobV1.validateCompileEvidence, hjob, ← hsame.request]
      exact mapError_eq_ok.mpr validate_compileEvidence
    signedCleanup := by simp [hsigned]
    resume := by
      intro resume h
      rw [hcheckpoint] at h
      rw [← Option.some.inj h]
      exact hresume
    noResume := absurd_of_eq_some checkpoint hcheckpoint }

theorem valid_artifactReady : ValidRecord tools artifactReady :=
  valid_of_run rfl rfl validateResume_built (by decide)
    (validateArtifacts_of_seen (seen_artifacts _ (by decide)) (by decide))

theorem valid_downloading : ValidRecord tools downloading :=
  valid_of_run rfl rfl (resume_built (by constructor <;> rfl) rfl rfl rfl rfl rfl) (by decide)
    (validateArtifacts_of_seen (seen_artifacts _ (by decide)) (by decide))

theorem valid_downloaded : ValidRecord tools downloaded :=
  valid_of_run rfl rfl (resume_built (by constructor <;> rfl) rfl rfl rfl rfl rfl) (by decide)
    (validateArtifacts_of_seen (seen_artifacts _ (by decide)) (by decide))

theorem valid_validating : ValidRecord tools validating :=
  valid_of_run rfl rfl (resume_built (by constructor <;> rfl) rfl rfl rfl rfl rfl) (by decide)
    (validateArtifacts_of_seen (seen_artifacts _ (by decide)) (by decide))

theorem valid_succeeded : ValidRecord tools succeeded :=
  valid_of_run rfl rfl validateResume_cleaned (by decide)
    (validateArtifacts_of_seen (seen_artifacts _ (by decide)) (by decide))

theorem valid_cleanupPending : ValidRecord tools cleanupPending :=
  valid_of_run rfl rfl (resume_built (by constructor <;> rfl) rfl rfl rfl rfl rfl) (by decide)
    (validateArtifacts_of_seen (seen_artifacts _ (by decide)) (by decide))

theorem valid_resumed : ValidRecord tools resumed :=
  valid_of_run rfl rfl (resume_built (by constructor <;> rfl) rfl rfl rfl rfl rfl) (by decide)
    (validateArtifacts_of_seen (seen_artifacts _ (by decide)) (by decide))

theorem valid_rewound : ValidRecord tools rewound :=
  valid_of_run rfl rfl (resume_built (by constructor <;> rfl) rfl rfl rfl rfl rfl) (by decide)
    (validateArtifacts_of_seen (seen_artifacts _ (by decide)) (by decide))

end Sample

end RustFerry.JobStore
