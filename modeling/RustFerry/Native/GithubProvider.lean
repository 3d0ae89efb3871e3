import RustFerry.ForStd.Prog
import RustFerry.Native.GithubResume

/-!
# Jobs of the GitHub provider

`rustferry-github/src/provider.rs`: the record that the provider keeps of a job, what changes
its state and its events, and the calls that its operations make. An operation is a program
over these calls that changes the record; the record is changed in place, so that a failed
operation keeps what was changed before.

A call of the publisher or of the transport is answered with the error that the provider makes
of its failure. `checkpoint_record` hands the resume of the record to the sink; its answer is
an error too when the resume could not be made. Poisoned locks are left out, and so are
providers without a sink.
-/

namespace RustFerry.Remote

open Except

def JobState.canTransitionTo : JobState → JobState → Bool
  | .created, .queued | .created, .running | .created, .cancelling | .created, .cancelled
  | .created, .failed | .queued, .running | .queued, .cancelling | .queued, .cancelled
  | .queued, .failed | .running, .succeeded | .running, .failed | .running, .cancelling
  | .running, .cancelled | .cancelling, .cancelled | .cancelling, .failed
  | .succeeded, .cleaning | .failed, .cleaning | .cancelled, .cleaning
  | .cleaning, .cleaned | .cleaning, .cleanupFailed => true
  | _, _ => false

/-- The build phase has completed, before optional cleanup. -/
def JobState.isBuildTerminal : JobState → Bool
  | .succeeded | .failed | .cancelled => true
  | _ => false

/-- No further transition is possible. -/
def JobState.isTerminal : JobState → Bool
  | .cleaned | .cleanupFailed => true
  | _ => false

def IosDeviceBuildResult.validate (self : IosDeviceBuildResult) : RemoteBuildResult Unit := do
  let _ ← currentProtocolVersion.negotiate self.protocolVersion
  validateIdentifier "operation_id" self.operationId
  validateIdentifier "job_id" self.jobId
  rejectIf (!self.state.isBuildTerminal && !self.state.isTerminal)
    (.invalidEventPayload "ios_device_build_result" "result state is not terminal")
  rejectIf (self.state = .succeeded && self.artifacts.isEmpty)
    (.invalidEventPayload "ios_device_build_result" "successful result has no artifact manifest")

end RustFerry.Remote

namespace RustFerry.Github

open Remote Except ProgM

/-! ## Errors -/

inductive ProviderError where
  | failure (code message : String) (retryable : Bool)
  | remote (error : RemoteBuildError)
  | invalidJobTransition (previous next : JobState)
  | cancelled

abbrev ProviderResult := Except ProviderError

/-- `resume_failure`, as an error of the provider. -/
def providerResumeFailure (code : String) : ProviderError :=
  .failure code "durable GitHub job state failed strict identity validation" false

/-! ## Records -/

/-- `provider::JobRecord`; the run handle and its snapshot are one field. -/
structure JobRecord where
  principal : Option GithubPrincipalIdentityV1
  executionRepositoryId : Option UInt64
  operationId : String
  jobId : String
  sourceRevision : String
  gitSnapshot : Option GithubGitSnapshotResumeV1
  request : IosDeviceBuildRequest
  requestSha256 : String
  temporaryRef : String
  preparedDispatchCommit : Option String
  dispatchCommit : Option String
  workflowDispatch : Option GithubWorkflowDispatchResumeV1
  createdAtMs : UInt64
  publicationStartedAtMs : UInt64
  publicationQuiescenceDeadlineMs : UInt64
  state : JobState
  run : Option GithubRunIdentityV1
  publicationIntent : Bool
  publicationAbsent : Bool
  publicationNotAttempted : Bool
  publicationProcessFenced : Bool
  publicationLeaseScopeSha256 : Option String
  publicationTakeoverLeaseOwned : Bool
  snapshotSourceLeaseOwned : Bool
  publicationAbsenceObservations : UInt8
  publicationAbsenceFirstObservedAtMs : UInt64
  cancellationRequested : Bool
  cancellationDispatched : Bool
  cleanupRequested : Bool
  removeArtifactsRequested : Bool
  artifactsRemoved : Bool
  temporaryRefDeleted : Bool
  verificationPendingEvent : Bool
  publicationUncertain : Bool
  runDiscoveryAttempts : UInt16
  runDiscoveryDeadlineMs : UInt64
  manifests : List ArtifactManifest
  compileEvidence : Option CompilePhaseEvidence
  signedCleanupEvidence : Option GithubSignedCleanupEvidenceV1
  events : List RemoteBuildEvent

/-- When a workflow runs. -/
inductive WorkflowRunTrigger where
  | push
  | workflowDispatch
  deriving DecidableEq

/-- Which remote mutations the user allows. -/
structure MutationAuthorization where
  manageGitSnapshotKeepalive : Bool
  publishGitSnapshotSource : Bool
  publishTemporaryRef : Bool
  deleteGitSnapshotSource : Bool

/-- What the operations read of `GithubProviderConfig`, and what they take from other modules. -/
structure ProviderConfig where
  parseUrl : ParseUrl
  sourceRepository : String
  runTrigger : WorkflowRunTrigger
  mutationAuthorization : MutationAuthorization
  /-- The configured source repository has the form of a repository URL. -/
  sourceRepositoryValid : Bool
  /-- `GithubDispatchManifest::new`, its check and its encoding. -/
  dispatchManifest : JobRecord → ProviderResult (List UInt8)

/-! ## States -/

/-- `MAX_JOB_EVENTS`. -/
def maxJobEvents : Nat := 64

/-- `transition_record` on the state; cleanup may be tried again. -/
def transitionState (state next : JobState) : ProviderResult JobState :=
  if state = next then .ok state
  else if state = .cleanupFailed ∧ next = .cleaning then .ok .cleaning
  else if state.canTransitionTo next then .ok next
  else .error (.invalidJobTransition state next)

/-! ## Calls -/

/-- A ref or a keepalive as the publisher finds it. -/
inductive GitSnapshotRefReconciliation where
  | exact
  | conflict
  | absent
  deriving DecidableEq

inductive GitSnapshotSourcePublication where
  | exact
  | conflict
  | uncertain

inductive TemporaryRefPublicationLease where
  | acquired
  | alreadyOwned
  | heldByOther
  | unsupported

/-- What the transport says of the source repository. -/
structure SourceRepositoryState where
  isPrivate : Bool
  isArchived : Bool
  isDisabled : Bool

/-- The ref and the commit of a dispatch. -/
structure TemporaryRefPublication where
  temporaryRef : String
  commit : String

/-- How a publication of a dispatch ends. -/
inductive DispatchPublication where
  | published (publication : TemporaryRefPublication)
  /-- The failure names a publication that may have happened. -/
  | possible (publication : TemporaryRefPublication)
  | notAttempted (error : ProviderError)

inductive ProviderCall where
  /-- `CancellationToken::is_cancelled`. -/
  | isCancelled
  | nowMs
  /-- `current_resume_identity`. -/
  | currentResumeIdentity
  /-- `Transport::repository` of the source repository. -/
  | sourceRepository
  | verifyExecutionWorkflow
  | reconcileGitSnapshotKeepalive (operationId keepaliveRef commit : String)
  | importGitSnapshot (locator : GitSnapshotStageLocatorV1) (stage : GitSnapshotStageV1)
  | createGitSnapshotKeepalive (operationId keepaliveRef commit : String)
  | deleteGitSnapshotStage (locator : GitSnapshotStageLocatorV1) (stage : GitSnapshotStageV1)
  | publicationLeaseScopeSha256
  | publicationAttemptIsProcessFenced
  | acquireGitSnapshotSourceLease (sourceRef : String)
  | releaseGitSnapshotSourceLease (sourceRef : String)
  | publishGitSnapshotSource (sourceRef commit : String) (authorized : Bool)
  | reconcileGitSnapshotSource (sourceRef commit : String)
  | prepare (temporaryRef operationId snapshotSourceRef : String) (manifest : List UInt8)
  | acquirePublicationLease (operationId temporaryRef : String)
  | releasePublicationLease (operationId temporaryRef : String)
  | publishPrepared (temporaryRef operationId : String) (prepared : Option TemporaryRefPublication)
      (authorized : Bool)

@[reducible] def ProviderAnswer : ProviderCall → Type
  | .isCancelled | .publicationAttemptIsProcessFenced => Bool
  | .nowMs => UInt64
  | .verifyExecutionWorkflow | .createGitSnapshotKeepalive _ _ _
  | .deleteGitSnapshotStage _ _ => ProviderResult Unit
  | .currentResumeIdentity => ProviderResult (GithubPrincipalIdentityV1 × UInt64)
  | .sourceRepository => ProviderResult SourceRepositoryState
  | .reconcileGitSnapshotKeepalive _ _ _ | .reconcileGitSnapshotSource _ _ =>
    ProviderResult GitSnapshotRefReconciliation
  | .importGitSnapshot _ _ => ProviderResult GitSnapshotObjectGraphV1
  | .publicationLeaseScopeSha256 => Option String
  | .acquireGitSnapshotSourceLease _ | .acquirePublicationLease _ _ =>
    ProviderResult TemporaryRefPublicationLease
  | .releaseGitSnapshotSourceLease _ | .releasePublicationLease _ _ => Unit
  | .publishGitSnapshotSource _ _ _ => ProviderResult GitSnapshotSourcePublication
  | .prepare _ _ _ _ => ProviderResult (Option TemporaryRefPublication)
  | .publishPrepared _ _ _ _ => DispatchPublication

/-- A call, or a record for the sink. -/
inductive ProviderOp where
  | call (call : ProviderCall)
  | checkpoint (record : JobRecord)

@[reducible] def ProviderResponse : ProviderOp → Type
  | .call call => ProviderAnswer call
  | .checkpoint _ => ProviderResult Unit

/-- An operation on the record of a job. -/
abbrev ProviderM := ProgM ProviderOp ProviderResponse JobRecord ProviderError

/-- One call. -/
def request (call : ProviderCall) : ProviderM (ProviderAnswer call) :=
  perform (ProviderOp.call call)

/-- A call whose failure is an error of the operation. -/
def tryCall {α : Type} (call : ProviderM (ProviderResult α)) : ProviderM α := call >>= ofExcept

/-- A step that is made under a condition. -/
def onlyIf (condition : Prop) [Decidable condition] (step : ProviderM Unit) : ProviderM Unit :=
  if condition then step else pure ()

/-- `CancellationToken::check`. -/
def checkCancellation : ProviderM Unit := do
  let cancelled ← request .isCancelled
  ensure (!cancelled) .cancelled

/-- Hand a record to the sink. -/
def offer (record : JobRecord) : ProviderM (ProviderResult Unit) :=
  perform (ProviderOp.checkpoint record)

def checkpointRecord : ProviderM Unit := do
  let record ← get
  let answer ← offer record
  ofExcept answer

/-! ## Events -/

def transitionRecord (next : JobState) : ProviderM Unit := do
  let record ← get
  let state ← ofExcept (transitionState record.state next)
  modify fun record => { record with state }

def appendEvent (config : ProviderConfig) (timestampMs : UInt64) (phase : String)
    (kind : RemoteBuildEventKind) : ProviderM Unit := do
  let record ← get
  ensure (record.events.length < maxJobEvents)
    (.failure "event_capacity_reached" "GitHub job reached its bounded event capacity" false)
  let event : RemoteBuildEvent := {
    protocolVersion := currentProtocolVersion
    operationId := record.operationId
    jobId := record.jobId
    timestampMs
    provider := githubProviderId
    phase
    sequence := UInt64.ofNat (record.events.length + 1)
    kind }
  ofExcept ((event.validate config.parseUrl).mapError .remote)
  modify fun record => { record with events := record.events ++ [event] }

def appendFailed (config : ProviderConfig) (timestampMs : UInt64) (code message : String)
    (retryable : Bool) : ProviderM Unit := do
  let record ← get
  let result : IosDeviceBuildResult := {
    protocolVersion := currentProtocolVersion
    operationId := record.operationId
    jobId := record.jobId
    state := .failed
    artifacts := []
    cleanup := none }
  ofExcept ((result.validate).mapError .remote)
  appendEvent config timestampMs "finished" <|
    .operationFinished false (timestampMs - min record.createdAtMs timestampMs) (some result)
      (some {
        code := "github." ++ code
        message
        help := some "Inspect sanitized GitHub Actions diagnostics and retry if appropriate"
        retryable })

/-- The boundary of a publication that was not attempted. -/
def JobRecord.withoutPublication (record : JobRecord) : JobRecord :=
  { record with
    publicationUncertain := false
    publicationAbsent := false
    publicationNotAttempted := true
    publicationAbsenceObservations := 0
    publicationAbsenceFirstObservedAtMs := 0
    publicationQuiescenceDeadlineMs :=
      if record.publicationStartedAtMs = 0 then u64Max
      else publicationQuiescenceDeadline record.publicationStartedAtMs 0
    temporaryRefDeleted := false }

def markPublicationNotAttempted (config : ProviderConfig) (timestampMs : UInt64)
    (code message : String) (retryable : Bool) : ProviderM Unit := do
  modify JobRecord.withoutPublication
  let record ← get
  onlyIf (!record.state.isBuildTerminal && !record.state.isTerminal) do
    transitionRecord .failed
    appendFailed config timestampMs code message retryable

/-! ## Identity -/

def validateRecordIdentity (record : JobRecord) (identity : GithubPrincipalIdentityV1 × UInt64) :
    ProviderResult Unit :=
  match record.principal, record.executionRepositoryId with
  | some principal, some repositoryId =>
    rejectIf (identity.1 != principal || identity.2 != repositoryId)
      (providerResumeFailure "resume_live_identity_changed")
  | _, _ => .ok ()

def currentPublicSnapshotSourceIdentity (config : ProviderConfig) :
    ProviderM (GithubPrincipalIdentityV1 × UInt64) := do
  let identity ← tryCall (request .currentResumeIdentity)
  let record ← get
  ofExcept (validateRecordIdentity record identity)
  ensure config.sourceRepositoryValid
    (.failure "source_repository_invalid" "configured source repository identity is invalid" false)
  let source ← tryCall (request .sourceRepository)
  ensure (!(source.isPrivate || source.isArchived || source.isDisabled))
    (.failure "snapshot_source_repository_not_public_writable"
      "Git snapshots require the exact configured public writable source repository" false)
  pure identity

def revalidatePublicSnapshotSource (config : ProviderConfig) : ProviderM Unit := do
  let _ ← currentPublicSnapshotSourceIdentity config

/-! ## Leases -/

/-- The source lease counts as acquired when the record already owns it. -/
def acceptSnapshotSourceLease (owned : Bool) : TemporaryRefPublicationLease → ProviderM Unit
  | .acquired => modify fun record => { record with snapshotSourceLeaseOwned := true }
  | .alreadyOwned =>
    ensure owned (.failure "snapshot_publication_owner_active"
      "Another live provider owns Git snapshot source publication" true)
  | .heldByOther => fail (.failure "snapshot_publication_owner_active"
      "Another live provider owns Git snapshot source publication" true)
  | .unsupported => fail (.failure "snapshot_publication_lease_unavailable"
      "Git snapshot source publication requires a cross-process lease" false)

/-- The lease scope of the publisher. -/
def acquireSnapshotSourceLease : ProviderM String := do
  let record ← get
  let snapshot ← ofOption (providerResumeFailure "resume_git_snapshot_binding_missing")
    record.gitSnapshot
  let found ← request .publicationLeaseScopeSha256
  let scope ← ofOption (.failure "snapshot_publication_lease_unavailable"
      "Git snapshot source publication has no exact process lease scope" true)
    (found.filter isLowerSha256)
  ensure (snapshot.sourcePublicationLeaseScopeSha256.all (· == scope))
    (.failure "snapshot_publication_lease_scope_changed"
      "Git snapshot source publication lease scope changed" true)
  let fenced ← request .publicationAttemptIsProcessFenced
  ensure fenced (.failure "snapshot_publication_process_unfenced"
    "Git snapshot source publication process cannot be fenced across restart" false)
  let lease ← tryCall (request (.acquireGitSnapshotSourceLease snapshot.stage.sourceRef))
  acceptSnapshotSourceLease record.snapshotSourceLeaseOwned lease
  pure scope

/-- `release_snapshot_source_lease` on a copy of the record, which loses its flag. -/
def releaseSnapshotSourceLeaseOf (record : JobRecord) : ProviderM JobRecord :=
  if record.snapshotSourceLeaseOwned then do
    let snapshot ← ofOption (providerResumeFailure "resume_git_snapshot_binding_missing")
      record.gitSnapshot
    request (.releaseGitSnapshotSourceLease snapshot.stage.sourceRef)
    pure { record with snapshotSourceLeaseOwned := false }
  else pure record

def releaseSnapshotSourceLease : ProviderM Unit := do
  let record ← get
  let released ← releaseSnapshotSourceLeaseOf record
  modify fun _ => released

/-- `release_record_publication_lease` on a copy of the record, which loses its flag. -/
def releaseRecordPublicationLeaseOf (record : JobRecord) : ProviderM JobRecord :=
  if record.publicationTakeoverLeaseOwned then do
    request (.releasePublicationLease record.operationId record.temporaryRef)
    pure { record with publicationTakeoverLeaseOwned := false }
  else pure record

def releaseRecordPublicationLease : ProviderM Unit := do
  let record ← get
  let released ← releaseRecordPublicationLeaseOf record
  modify fun _ => released

/-- The publication lease counts as acquired when the record already owns it. -/
def acceptSnapshotDispatchLease (owned : Bool) : TemporaryRefPublicationLease → ProviderM Unit
  | .acquired => pure ()
  | .alreadyOwned => ensure owned (.failure "publication_owner_active"
      "Another live provider owns snapshot dispatch publication" true)
  | .heldByOther => fail (.failure "publication_owner_active"
      "Another live provider owns snapshot dispatch publication" true)
  | .unsupported => fail (.failure "publication_lease_unavailable"
      "Snapshot dispatch publication requires a cross-process lease" false)

/-- `acquire_new_snapshot_dispatch_lease`: the lease scope; on success the record that was given
    owns the lease. -/
def acquireNewSnapshotDispatchLease (record : JobRecord) : ProviderM String := do
  let found ← request .publicationLeaseScopeSha256
  let scope ← ofOption (.failure "publication_lease_unavailable"
      "Snapshot dispatch publication has no cross-process ownership scope" false)
    (found.filter isLowerSha256)
  let fenced ← request .publicationAttemptIsProcessFenced
  ensure fenced (.failure "publication_process_unfenced"
    "Snapshot dispatch publication process cannot be fenced across restart" false)
  let lease ← tryCall (request (.acquirePublicationLease record.operationId record.temporaryRef))
  acceptSnapshotDispatchLease record.publicationTakeoverLeaseOwned lease
  pure scope

end RustFerry.Github
