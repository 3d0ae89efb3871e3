import RustFerry.Native.ProviderRequest
import RustFerry.Native.SnapshotSubmission

/-!
# The artifact context of a job

`rustferry-github/src/provider.rs` and `artifact_store.rs`: the record that a submission makes
of its request, what binds a record to a dispatch commit and to a run, the context that
`finish_success` builds of the record, and the check that the artifact store makes of it.

The provider holds the record only between its calls, so that one step here is what is done
under one lock. A section of the provider that changes none of the fields that say where an
artifact comes from is the step `other`.
-/

namespace RustFerry.Github

open Remote Except

/-! ## The record of a submission -/

/-- What the submissions take from other modules and crates. -/
structure ProviderTools where
  resume : ResumeTools
  /-- `canonical_signing_target_graph_sha256`. -/
  targetGraphSha256 : List SigningTarget → String
  /-- `GithubDispatchManifest::new`, its check and its encoding. -/
  dispatchManifest : GithubProviderConfig → TemporaryGitRef → IosDeviceBuildRequest →
    SubmissionResult Unit

def ProviderTools.submission (tools : ProviderTools) : SubmissionTools :=
  ⟨tools.resume.request, tools.targetGraphSha256⟩

/-- A failure of a resume, as the submission returns it. -/
def SubmissionError.ofResume : ResumeError → SubmissionError
  | .failure code => .failure code "durable GitHub job state failed strict identity validation"
  | .request inner => .request inner

/-- What a submission knows when it makes the record of its job. -/
structure NewJob where
  identity : Option (GithubPrincipalIdentityV1 × UInt64)
  snapshot : Option GithubGitSnapshotResumeV1
  request : IosDeviceBuildRequest
  requestSha256 : String
  prepared : PreparedSubmission
  createdAtMs : UInt64
  quiescenceDeadlineMs : UInt64
  discoveryDeadlineMs : UInt64

/-- The record before its first event. -/
def NewJob.record (job : NewJob) : JobRecord where
  principal := job.identity.map (·.1)
  executionRepositoryId := job.identity.map (·.2)
  operationId := job.request.operationId
  jobId := job.request.operationId
  sourceRevision := job.prepared.sourceRevision.value
  gitSnapshot := job.snapshot
  request := job.request
  requestSha256 := job.requestSha256
  temporaryRef := job.prepared.temporaryRef.branch.value
  preparedDispatchCommit := none
  dispatchCommit := none
  workflowDispatch := none
  createdAtMs := job.createdAtMs
  publicationStartedAtMs := 0
  publicationQuiescenceDeadlineMs := job.quiescenceDeadlineMs
  state := .created
  run := none
  publicationIntent := false
  publicationAbsent := false
  publicationNotAttempted := false
  publicationProcessFenced := false
  publicationLeaseScopeSha256 := none
  publicationTakeoverLeaseOwned := false
  snapshotSourceLeaseOwned := false
  publicationAbsenceObservations := 0
  publicationAbsenceFirstObservedAtMs := 0
  cancellationRequested := false
  cancellationDispatched := false
  cleanupRequested := false
  removeArtifactsRequested := false
  artifactsRemoved := false
  temporaryRefDeleted := false
  verificationPendingEvent := false
  publicationUncertain := false
  runDiscoveryAttempts := 0
  runDiscoveryDeadlineMs := job.discoveryDeadlineMs
  manifests := []
  compileEvidence := none
  signedCleanupEvidence := none
  events := []

/-- The clock and the policy of a submission. -/
structure SubmissionClock where
  nowMs : UInt64
  discoveryWindowMs : UInt64

/-- `submit` up to the record; without a durable sink there is no identity. -/
def submitRecord (tools : ProviderTools) (config : GithubProviderConfig) (clock : SubmissionClock)
    (identity : Option (GithubPrincipalIdentityV1 × UInt64)) (request : IosDeviceBuildRequest) :
    SubmissionResult JobRecord := do
  let prepared ← prepareSubmission tools.submission config identity.isSome request
  tools.dispatchManifest config prepared.temporaryRef request
  let requestSha256 ← (canonicalRequestSha256 tools.resume.request request).mapError .request
  pure (NewJob.record {
    identity, snapshot := none, request, requestSha256, prepared
    createdAtMs := clock.nowMs
    quiescenceDeadlineMs := 0
    discoveryDeadlineMs := saturatingAdd clock.nowMs clock.discoveryWindowMs })

/-- The snapshot of a submission before its first phase. -/
def preparedSnapshot (locator : GitSnapshotStageLocatorV1) (stage : GitSnapshotStageV1) :
    GithubGitSnapshotResumeV1 where
  schemaVersion := 1
  stageLocator := locator
  stage := stage
  phase := .prepared
  sourcePublicationAttempts := 0
  sourcePublicationStartedAtMs := 0
  sourcePublicationQuiescenceDeadlineMs := 0
  sourcePublicationProcessFenced := false
  sourcePublicationLeaseScopeSha256 := none
  sourcePublicationAbsenceObservations := 0
  sourcePublicationAbsenceFirstObservedAtMs := 0
  sourcePublicationAbsenceLastObservedAtMs := 0
  keepaliveReleaseAuthorizationSha256 := none

/-- A consent-bound submission, with the stage that its authority names or adopts. -/
structure GitSnapshotSubmission where
  request : IosDeviceBuildRequest
  identity : GithubPrincipalIdentityV1 × UInt64
  approvedConsentSha256 : String
  locator : GitSnapshotStageLocatorV1
  stage : GitSnapshotStageV1

def snapshotSourceRevision (request : IosDeviceBuildRequest) : SubmissionResult CommitSha :=
  match request.sourceRevision with
  | none => .error (.ofResume (resumeFailure "resume_source_revision_invalid"))
  | some revision => (CommitSha.new revision).mapError fun _ =>
      .ofResume (resumeFailure "resume_source_revision_invalid")

/-- `submit_git_snapshot` up to the record; `capable` says that the provider has the source
    mode among its capabilities. -/
def submitGitSnapshotRecord (tools : ProviderTools) (config : GithubProviderConfig)
    (clock : SubmissionClock) (capable : Bool) (submission : GitSnapshotSubmission) :
    SubmissionResult JobRecord := do
  let request := submission.request
  validateGitSnapshotSubmission tools.submission config request
  rejectIf (!capable) (.unsupported (.sourceMode .gitSnapshot))
  rejectIf (submission.stage.consentSha256 != submission.approvedConsentSha256)
    (.failure "snapshot_consent_changed"
      "Git snapshot stage differs from the explicitly accepted upload plan")
  let snapshot := preparedSnapshot submission.locator submission.stage
  (snapshot.validateForRequest tools.resume request).mapError .ofResume
  let temporaryRef ← formTemporaryRef config request
  let sourceRevision ← snapshotSourceRevision request
  tools.dispatchManifest config temporaryRef request
  let requestSha256 ← (canonicalRequestSha256 tools.resume.request request).mapError .request
  pure (NewJob.record {
    identity := some submission.identity
    snapshot := some snapshot
    request, requestSha256
    prepared := ⟨temporaryRef, sourceRevision⟩
    createdAtMs := submission.stage.sourceCreatedAtMs
    quiescenceDeadlineMs := u64Max
    discoveryDeadlineMs := saturatingAdd submission.stage.sourceCreatedAtMs
      clock.discoveryWindowMs })

/-! ## The dispatch commit and the run -/

/-- A run that the transport found for a commit; it checks the commit of the run itself. -/
abbrev RunOf (commit : String) := { run : GithubRunIdentityV1 // run.headSha = commit }

/-- The immutable identity of a run, which `transport.run` compares. -/
def sameHandle (a b : GithubRunIdentityV1) : Bool :=
  a.runId == b.runId && a.workflowId == b.workflowId && a.workflowPath == b.workflowPath &&
    a.headSha == b.headSha && a.branch == b.branch && a.event == b.event

def ensureSameRunAttempt (previous current : GithubRunIdentityV1) : ProviderResult Unit :=
  rejectIf (!sameHandle previous current || previous.runNumber != current.runNumber ||
      previous.runAttempt != current.runAttempt ||
      previous.status = .completed &&
        (current.status ≠ .completed || previous.conclusion != current.conclusion))
    (providerResumeFailure "github_run_attempt_changed")

/-- The push of the dispatch was found to have happened: `published` is what was prepared. -/
def JobRecord.recoverDispatch (record : JobRecord) (published : TemporaryRefPublication) :
    ProviderResult JobRecord :=
  if published.temporaryRef = record.temporaryRef ∧
      record.preparedDispatchCommit = some published.commit then
    .ok { record with
      dispatchCommit := some published.commit
      publicationUncertain := false
      publicationAbsent := false }
  else .ok { record with publicationUncertain := true, publicationAbsent := false }

/-- The ref is gone, but a run of the prepared commit exists. -/
def JobRecord.discoverRun (record : JobRecord)
    (find : (commit : String) → ProviderResult (RunOf commit)) : ProviderResult JobRecord :=
  match record.preparedDispatchCommit with
  | none => .error (.failure "publication_reconciliation_unavailable"
      "Durable publication does not contain an exact prepared commit" true)
  | some commit => do
    let run ← find commit
    rejectIf (run.val.runAttempt != 1)
      (providerResumeFailure "resume_recovered_run_attempt_invalid")
    pure { record with
      dispatchCommit := some commit
      run := some run.val
      publicationUncertain := false }

/-- The run of the dispatch commit: `find_run` looks it up, or the receipt of the dispatch
    names it. -/
def JobRecord.mapRun (record : JobRecord)
    (find : (commit : String) → ProviderResult (RunOf commit)) : ProviderResult JobRecord :=
  match record.dispatchCommit with
  | none => .ok record
  | some commit => do
    let run ← find commit
    rejectIf (run.val.runAttempt != 1) (.failure "run_initial_attempt_mismatch"
      "Initial GitHub run mapping observed an external rerun attempt" false)
    pure { record with run := some run.val }

/-- A new observation of the bound run. -/
def JobRecord.refreshRun (record : JobRecord) (current : GithubRunIdentityV1) :
    ProviderResult JobRecord :=
  match record.run with
  | none => .ok record
  | some previous => do
    ensureSameRunAttempt previous current
    pure { record with run := some current }

/-! ## Steps of a job -/

/-- How far the publication of the dispatch is. -/
inductive PublicationStage where
  | unstarted
  /-- A caller has written the intent and will settle the record with what it prepared. -/
  | inFlight (prepared : Option TemporaryRefPublication)
  | settled

/-- A job of a running provider. -/
structure LiveJob where
  record : JobRecord
  stage : PublicationStage

/-- The fields that say where an artifact of the job comes from are the same. -/
structure SameProvenance (a b : JobRecord) : Prop where
  jobId : a.jobId = b.jobId
  operationId : a.operationId = b.operationId
  sourceRevision : a.sourceRevision = b.sourceRevision
  request : a.request = b.request
  requestSha256 : a.requestSha256 = b.requestSha256
  prepared : a.preparedDispatchCommit = b.preparedDispatchCommit
  dispatch : a.dispatchCommit = b.dispatchCommit
  run : a.run = b.run

inductive LiveStep : LiveJob → LiveJob → Prop
  | intend {record : JobRecord} (prepared : Option TemporaryRefPublication) (scope : String) :
      LiveStep ⟨record, .unstarted⟩ ⟨record.intendDispatch prepared scope, .inFlight prepared⟩
  | settle {record : JobRecord} {prepared : Option TemporaryRefPublication}
      (published : TemporaryRefPublication) (uncertain : Bool) :
      LiveStep ⟨record, .inFlight prepared⟩
        ⟨record.settleDispatch published uncertain (bindingMismatch record prepared published),
          .settled⟩
  /-- The publication was not attempted, or its caller failed. -/
  | abandon {record : JobRecord} {prepared : Option TemporaryRefPublication} :
      LiveStep ⟨record, .inFlight prepared⟩ ⟨record, .settled⟩
  | recover {record record' : JobRecord} {stage : PublicationStage}
      (published : TemporaryRefPublication) (h : record.recoverDispatch published = .ok record') :
      LiveStep ⟨record, stage⟩ ⟨record', stage⟩
  | discover {record record' : JobRecord} {stage : PublicationStage}
      (find : (commit : String) → ProviderResult (RunOf commit))
      (h : record.discoverRun find = .ok record') : LiveStep ⟨record, stage⟩ ⟨record', stage⟩
  | map {record record' : JobRecord} {stage : PublicationStage}
      (find : (commit : String) → ProviderResult (RunOf commit))
      (h : record.mapRun find = .ok record') : LiveStep ⟨record, stage⟩ ⟨record', stage⟩
  | refresh {record record' : JobRecord} {stage : PublicationStage}
      (current : GithubRunIdentityV1) (h : record.refreshRun current = .ok record') :
      LiveStep ⟨record, stage⟩ ⟨record', stage⟩
  | other {record record' : JobRecord} {stage : PublicationStage}
      (same : SameProvenance record record') : LiveStep ⟨record, stage⟩ ⟨record', stage⟩

/-! ## Restored jobs -/

/-- What `into_record` checks of the fields that say where an artifact comes from, when it makes
    a record of a checkpoint; its other checks refuse more. -/
structure RestoredRecord (tools : ProviderTools) (config : GithubProviderConfig)
    (record : JobRecord) : Prop where
  request : validateProviderRequest tools.submission config record.request = .ok ()
  jobId : record.operationId = record.jobId
  operationId : record.operationId = record.request.operationId
  requestSha256 : canonicalRequestSha256 tools.resume.request record.request =
    .ok record.requestSha256
  sourceRevision : record.request.sourceRevision = some record.sourceRevision
  prepared : ∀ prepared dispatch, record.preparedDispatchCommit = some prepared →
    record.dispatchCommit = some dispatch → prepared = dispatch
  run : ∀ run, record.run = some run → record.dispatchCommit = some run.headSha
  /-- `RunSnapshot::restore`. -/
  attempt : ∀ run, record.run = some run → run.runAttempt ≠ 0
  /-- `snapshot_pre_dispatch`, without which a checkpoint has its intent. -/
  unstarted : record.publicationIntent = false →
    record.preparedDispatchCommit = none ∧ record.dispatchCommit = none ∧ record.run = none

/-- The jobs of a provider: submitted in either way or restored, then changed step by step. -/
inductive Live (tools : ProviderTools) (config : GithubProviderConfig) : LiveJob → Prop
  | submit {clock : SubmissionClock} {identity : Option (GithubPrincipalIdentityV1 × UInt64)}
      {request : IosDeviceBuildRequest} {record : JobRecord}
      (h : submitRecord tools config clock identity request = .ok record) :
      Live tools config ⟨record, .unstarted⟩
  | submitGitSnapshot {clock : SubmissionClock} {capable : Bool}
      {submission : GitSnapshotSubmission} {record : JobRecord}
      (h : submitGitSnapshotRecord tools config clock capable submission = .ok record) :
      Live tools config ⟨record, .unstarted⟩
  | restore {record : JobRecord} (h : RestoredRecord tools config record) :
      Live tools config
        ⟨record, if record.publicationIntent then .settled else .unstarted⟩
  | step {job next : LiveJob} (live : Live tools config job) (h : LiveStep job next) :
      Live tools config next

/-! ## The context -/

structure GithubArtifactContext where
  jobId : String
  operationId : String
  repository : Repository
  executionRepositoryId : Option UInt64
  run : GithubRunIdentityV1
  sourceRepository : String
  sourceRevision : String
  dispatchRevision : String
  request : IosDeviceBuildRequest
  requestSha256 : String

def artifactContext (config : GithubProviderConfig) (record : JobRecord) :
    Option GithubArtifactContext := do
  let run ← record.run
  let dispatchRevision ← record.dispatchCommit
  return {
    jobId := record.jobId
    operationId := record.operationId
    repository := config.repository
    executionRepositoryId := record.executionRepositoryId
    run
    sourceRepository := config.sourceRepository
    sourceRevision := record.sourceRevision
    dispatchRevision
    request := record.request
    requestSha256 := record.requestSha256 }

inductive GithubArtifactStoreError where
  | invalidContext

def validateContext (tools : RequestTools) (context : GithubArtifactContext) :
    Except GithubArtifactStoreError Unit := do
  (context.request.validate tools).mapError fun _ => .invalidContext
  let requestSha256 ← (canonicalRequestSha256 tools context.request).mapError fun _ =>
    .invalidContext
  rejectIf (context.jobId == "" || context.operationId != context.request.operationId ||
      context.jobId != context.operationId || context.requestSha256 != requestSha256 ||
      -- no other mode has a context, though its jobs are run
      context.request.sourceMode ≠ .git ||
      context.request.sourceRepository != some context.sourceRepository ||
      context.request.sourceRevision != some context.sourceRevision ||
      context.run.headSha != context.dispatchRevision || context.run.runAttempt == 0 ||
      context.run.status ≠ .completed || context.run.conclusion ≠ some .success)
    .invalidContext

end RustFerry.Github
