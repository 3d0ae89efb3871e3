import RustFerry.Native.GithubProvider

/-!
# Submission of a Git snapshot

`rustferry-github/src/provider.rs`: `continue_git_snapshot_submission` with the publication of
the dispatch that follows an exact source. Every durable step changes the record and then
checkpoints it; a submission that was interrupted checkpoints its phase again first.
-/

namespace RustFerry.Github

open Remote Except ProgM

/-! ## Steps -/

/-- The snapshot of the record. -/
def currentSnapshot : ProviderM GithubGitSnapshotResumeV1 := do
  let record ← get
  ofOption (providerResumeFailure "resume_git_snapshot_binding_missing") record.gitSnapshot

def modifySnapshot (change : GithubGitSnapshotResumeV1 → GithubGitSnapshotResumeV1) :
    ProviderM Unit :=
  modify fun record => { record with gitSnapshot := record.gitSnapshot.map change }

/-- Enter a phase that is durable before the submission goes on. -/
def enterPhase (phase : GithubGitSnapshotPhaseV1) :
    ProviderM (Option GithubGitSnapshotPhaseV1) := do
  modifySnapshot fun snapshot => { snapshot with phase }
  checkpointRecord
  pure (some phase)

/-- The identity that a dispatched workflow needs before the record is locked. -/
def workflowDispatchSnapshotIdentity (config : ProviderConfig) :
    ProviderM (Option (GithubPrincipalIdentityV1 × UInt64)) :=
  if config.runTrigger = .workflowDispatch then do
    let snapshot ← currentSnapshot
    onlyIf (snapshot.phase = .prepared ∨ snapshot.phase = .sourceExact)
      (tryCall (request .verifyExecutionWorkflow))
    if snapshot.phase = .prepared ∨ snapshot.phase = .sourcePublishIntent ∨
        snapshot.phase = .sourceExact then do
      let identity ← currentPublicSnapshotSourceIdentity config
      pure (some identity)
    else pure none
  else pure none

/-- Compare the identity, or ask for it now. -/
def validateSnapshotSource (config : ProviderConfig) :
    Option (GithubPrincipalIdentityV1 × UInt64) → ProviderM Unit
  | some identity => do
    let record ← get
    ofExcept (validateRecordIdentity record identity)
  | none => revalidatePublicSnapshotSource config

def failSnapshotBeforeDispatch (config : ProviderConfig) (code message : String) :
    ProviderM Unit := do
  let record ← get
  onlyIf (record.state = .created) do
    transitionRecord .failed
    let timestampMs ← request .nowMs
    appendFailed config timestampMs code message false
  checkpointRecord

/-- The source ref is not this job's. -/
def sourceConflict (config : ProviderConfig) (code message : String) :
    ProviderM (Option GithubGitSnapshotPhaseV1) := do
  modifySnapshot fun snapshot => { snapshot with phase := .sourceConflict }
  failSnapshotBeforeDispatch config code message
  releaseSnapshotSourceLease
  pure none

/-! ## Keepalive and stage -/

/-- Create the keepalive ref unless it exists. -/
def establishKeepalive (operationId : String) (snapshot : GithubGitSnapshotResumeV1) :
    GitSnapshotRefReconciliation → ProviderM Unit
  | .exact => pure ()
  | .conflict => fail (.failure "snapshot_keepalive_conflict"
      "Git snapshot keepalive ref is occupied by another commit" false)
  | .absent => do
    let imported ← tryCall (request (.importGitSnapshot snapshot.stageLocator snapshot.stage))
    ensure (imported == snapshot.stage.graph) (.failure "snapshot_import_graph_mismatch"
      "Git snapshot import differs from the durable object graph" false)
    tryCall (request (.createGitSnapshotKeepalive operationId snapshot.stage.keepaliveRef
      snapshot.stage.graph.commit))

def submitKeepalive (config : ProviderConfig) (snapshot : GithubGitSnapshotResumeV1) :
    ProviderM (Option GithubGitSnapshotPhaseV1) := do
  ensure config.mutationAuthorization.manageGitSnapshotKeepalive
    (.failure "snapshot_keepalive_unauthorized"
      "Git snapshot keepalive mutation is not authorized" false)
  let record ← get
  let reconciliation ← tryCall (request (.reconcileGitSnapshotKeepalive record.operationId
    snapshot.stage.keepaliveRef snapshot.stage.graph.commit))
  establishKeepalive record.operationId snapshot reconciliation
  enterPhase .keepaliveExact

/-- The keepalive ref must exist before the stage is deleted. -/
def requireKeepalive : GitSnapshotRefReconciliation → ProviderM Unit
  | .exact => pure ()
  | .absent => fail (.failure "snapshot_keepalive_missing"
      "Git snapshot keepalive disappeared before stage deletion" false)
  | .conflict => fail (.failure "snapshot_keepalive_conflict"
      "Git snapshot keepalive changed before stage deletion" false)

def deleteStage (snapshot : GithubGitSnapshotResumeV1) :
    ProviderM (Option GithubGitSnapshotPhaseV1) := do
  let record ← get
  let reconciliation ← tryCall (request (.reconcileGitSnapshotKeepalive record.operationId
    snapshot.stage.keepaliveRef snapshot.stage.graph.commit))
  requireKeepalive reconciliation
  tryCall (request (.deleteGitSnapshotStage snapshot.stageLocator snapshot.stage))
  enterPhase .stageDeleted

/-! ## Source publication -/

/-- An unarmed attempt. -/
def GithubGitSnapshotResumeV1.armable (snapshot : GithubGitSnapshotResumeV1)
    (attempts : UInt8) : GithubGitSnapshotResumeV1 :=
  { snapshot with
    phase := .sourcePublishIntent
    sourcePublicationAttempts := attempts
    sourcePublicationStartedAtMs := 0
    sourcePublicationQuiescenceDeadlineMs := u64Max
    sourcePublicationAbsenceObservations := 0
    sourcePublicationAbsenceFirstObservedAtMs := 0
    sourcePublicationAbsenceLastObservedAtMs := 0 }

/-- The first attempt, which binds the lease scope. -/
def GithubGitSnapshotResumeV1.firstAttempt (snapshot : GithubGitSnapshotResumeV1)
    (scope : String) : GithubGitSnapshotResumeV1 :=
  { snapshot.armable 1 with
    sourcePublicationProcessFenced := true
    sourcePublicationLeaseScopeSha256 := some scope }

def intendSource : ProviderM (Option GithubGitSnapshotPhaseV1) := do
  let scope ← acquireSnapshotSourceLease
  modifySnapshot fun snapshot => snapshot.firstAttempt scope
  checkpointRecord
  pure (some .sourcePublishIntent)

/-- The attempt starts. -/
def GithubGitSnapshotResumeV1.armed (snapshot : GithubGitSnapshotResumeV1)
    (startedAtMs : UInt64) : GithubGitSnapshotResumeV1 :=
  { snapshot with
    sourcePublicationStartedAtMs := startedAtMs
    sourcePublicationQuiescenceDeadlineMs := publicationQuiescenceDeadline startedAtMs 0 }

/-- The outcome of the push is not known. -/
def GithubGitSnapshotResumeV1.uncertainAt (snapshot : GithubGitSnapshotResumeV1)
    (observedAtMs : UInt64) : GithubGitSnapshotResumeV1 :=
  { snapshot with
    sourcePublicationAbsenceObservations := 1
    sourcePublicationAbsenceFirstObservedAtMs := observedAtMs
    sourcePublicationAbsenceLastObservedAtMs := observedAtMs
    sourcePublicationQuiescenceDeadlineMs :=
      publicationQuiescenceDeadline snapshot.sourcePublicationStartedAtMs observedAtMs }

/-- The answer of the push. -/
def finishSourcePublication (config : ProviderConfig) :
    GitSnapshotSourcePublication → ProviderM (Option GithubGitSnapshotPhaseV1)
  | .exact => enterPhase .sourceExact
  | .conflict => sourceConflict config "snapshot_source_ref_conflict"
      "Git snapshot source ref is occupied by another commit"
  | .uncertain => do
    let observedAtMs ← request .nowMs
    modifySnapshot fun snapshot => snapshot.uncertainAt observedAtMs
    checkpointRecord
    fail (.failure "snapshot_source_publication_uncertain"
      "Git snapshot source publication requires exact reconciliation" true)

def publishSource (config : ProviderConfig)
    (identity : Option (GithubPrincipalIdentityV1 × UInt64))
    (snapshot : GithubGitSnapshotResumeV1) : ProviderM (Option GithubGitSnapshotPhaseV1) := do
  validateSnapshotSource config identity
  let startedAtMs ← request .nowMs
  modifySnapshot fun snapshot => snapshot.armed startedAtMs
  checkpointRecord
  let result ← tryCall (request (.publishGitSnapshotSource snapshot.stage.sourceRef
    snapshot.stage.graph.commit config.mutationAuthorization.publishGitSnapshotSource))
  finishSourcePublication config result

/-- The source ref was not there. -/
def GithubGitSnapshotResumeV1.absentAt (snapshot : GithubGitSnapshotResumeV1)
    (observedAtMs : UInt64) : GithubGitSnapshotResumeV1 :=
  let first := snapshot.sourcePublicationAbsenceObservations == 0
  { snapshot with
    sourcePublicationAbsenceFirstObservedAtMs :=
      if first then observedAtMs else snapshot.sourcePublicationAbsenceFirstObservedAtMs
    sourcePublicationQuiescenceDeadlineMs :=
      if first then publicationQuiescenceDeadline snapshot.sourcePublicationStartedAtMs observedAtMs
      else snapshot.sourcePublicationQuiescenceDeadlineMs
    -- `saturating_add(1).min(2)`
    sourcePublicationAbsenceObservations := if first then 1 else 2
    sourcePublicationAbsenceLastObservedAtMs := observedAtMs }

/-- The absence is proven. -/
def GithubGitSnapshotResumeV1.absenceProven (snapshot : GithubGitSnapshotResumeV1)
    (observedAtMs : UInt64) : Bool :=
  snapshot.sourcePublicationAbsenceObservations ≥ 2 && snapshot.sourcePublicationProcessFenced &&
    observedAtMs ≥ snapshot.sourcePublicationQuiescenceDeadlineMs

/-- The record after an observation, with the phase when the absence is proven. -/
def GithubGitSnapshotResumeV1.observeAbsence (snapshot : GithubGitSnapshotResumeV1)
    (observedAtMs : UInt64) : GithubGitSnapshotResumeV1 :=
  if (snapshot.absentAt observedAtMs).absenceProven observedAtMs then
    { snapshot.absentAt observedAtMs with phase := .sourceAbsent }
  else snapshot.absentAt observedAtMs

/-- What the reconciliation of an armed attempt finds. -/
def finishSourceReconciliation (config : ProviderConfig) :
    GitSnapshotRefReconciliation → ProviderM (Option GithubGitSnapshotPhaseV1)
  | .exact => enterPhase .sourceExact
  | .conflict => sourceConflict config "snapshot_source_ref_conflict"
      "Git snapshot source ref is occupied by another commit"
  | .absent => do
    let observedAtMs ← request .nowMs
    modifySnapshot fun snapshot => snapshot.observeAbsence observedAtMs
    checkpointRecord
    let snapshot ← currentSnapshot
    ensure (snapshot.absenceProven observedAtMs) (.failure "snapshot_source_reconciliation_pending"
      "Git snapshot source absence is not yet strongly proven" true)
    pure (some snapshot.phase)

def reconcileSource (config : ProviderConfig)
    (identity : Option (GithubPrincipalIdentityV1 × UInt64))
    (snapshot : GithubGitSnapshotResumeV1) : ProviderM (Option GithubGitSnapshotPhaseV1) := do
  validateSnapshotSource config identity
  let reconciliation ← tryCall (request (.reconcileGitSnapshotSource snapshot.stage.sourceRef
    snapshot.stage.graph.commit))
  finishSourceReconciliation config reconciliation

def continueSource (config : ProviderConfig)
    (identity : Option (GithubPrincipalIdentityV1 × UInt64))
    (snapshot : GithubGitSnapshotResumeV1) : ProviderM (Option GithubGitSnapshotPhaseV1) := do
  let _ ← acquireSnapshotSourceLease
  if snapshot.sourcePublicationStartedAtMs = 0 then publishSource config identity snapshot
  else reconcileSource config identity snapshot

/-- Three attempts in all. -/
def retrySource (config : ProviderConfig) (snapshot : GithubGitSnapshotResumeV1) :
    ProviderM (Option GithubGitSnapshotPhaseV1) :=
  if snapshot.sourcePublicationAttempts ≥ 3 then do
    failSnapshotBeforeDispatch config "snapshot_source_publication_absent"
      "Git snapshot source publication remained absent after bounded retries"
    releaseSnapshotSourceLease
    pure none
  else do
    let _ ← acquireSnapshotSourceLease
    modifySnapshot fun snapshot => snapshot.armable (snapshot.sourcePublicationAttempts + 1)
    checkpointRecord
    pure (some .sourcePublishIntent)

/-! ## Dispatch -/

/-- The snapshot of a record whose source is exact. -/
def exactSnapshot (record : JobRecord) : ProviderM GithubGitSnapshotResumeV1 :=
  ofOption (providerResumeFailure "resume_git_snapshot_source_not_exact")
    (record.gitSnapshot.filter fun snapshot => snapshot.phase = .sourceExact)

/-- Prepare the dispatch without a remote mutation. -/
def prepareDispatch (config : ProviderConfig) (record : JobRecord)
    (snapshot : GithubGitSnapshotResumeV1) : ProviderM (Option TemporaryRefPublication) := do
  let manifest ← ofExcept (config.dispatchManifest record)
  let prepared ← tryCall (request (.prepare record.temporaryRef record.operationId
    snapshot.stage.sourceRef manifest))
  ensure (prepared.all fun publication => publication.temporaryRef == record.temporaryRef)
    (.failure "temporary_ref_verification_failed"
      "temporary Git ref mutation failed" false)
  pure prepared

/-- The intent of the dispatch, not yet armed. -/
def JobRecord.intendDispatch (record : JobRecord) (prepared : Option TemporaryRefPublication)
    (scope : String) : JobRecord :=
  { record with
    preparedDispatchCommit := prepared.map (·.commit)
    publicationStartedAtMs := 0
    publicationQuiescenceDeadlineMs := u64Max
    publicationIntent := true
    publicationProcessFenced := true
    publicationLeaseScopeSha256 := some scope
    publicationTakeoverLeaseOwned := true }

def JobRecord.armDispatch (record : JobRecord) (startedAtMs : UInt64) : JobRecord :=
  { record with
    publicationStartedAtMs := startedAtMs
    publicationQuiescenceDeadlineMs := publicationQuiescenceDeadline startedAtMs 0 }

/-- The publisher answered with another ref or commit than it prepared. -/
def bindingMismatch (record : JobRecord) (prepared : Option TemporaryRefPublication)
    (published : TemporaryRefPublication) : Bool :=
  published.temporaryRef != record.temporaryRef ||
    prepared.any fun expected => expected.commit != published.commit

def JobRecord.settleDispatch (record : JobRecord) (published : TemporaryRefPublication)
    (uncertain mismatch : Bool) : JobRecord :=
  { record with
    dispatchCommit := if !mismatch && !uncertain then some published.commit else none
    publicationUncertain := uncertain || mismatch }

def appendEventNow (config : ProviderConfig) (phase : String) (kind : RemoteBuildEventKind) :
    ProviderM Unit := do
  let timestampMs ← request .nowMs
  appendEvent config timestampMs phase kind

def warnUncertainDispatch (config : ProviderConfig) : ProviderM Unit :=
  appendEventNow config "submit" <|
    .warning "github.snapshot_dispatch_publication_uncertain"
      "Snapshot dispatch ref push may have succeeded; cleanup ownership was retained"
      (some "Continue polling or reconcile this exact job")

/-- The job fails because of a binding mismatch. -/
def failMismatchedDispatch (config : ProviderConfig) : ProviderM Unit := do
  transitionRecord .failed
  appendEventNow config "cleanup" <|
    .warning "github.cleanup_required"
      ("Snapshot dispatch publisher violated its prepared ref/commit binding; " ++
        "automatic adoption was refused")
      (some "Inspect the alternate publisher and exact remote ref")
  let timestampMs ← request .nowMs
  appendFailed config timestampMs "snapshot_dispatch_binding_mismatch"
    "Snapshot dispatch publisher returned a different ref or commit after possible mutation" false

/-- A cancellation that was requested meanwhile. -/
def noteCancellation : ProviderM Unit := do
  let cancelled ← request .isCancelled
  modify fun record =>
    { record with cancellationRequested := record.cancellationRequested || cancelled }
  let record ← get
  onlyIf (record.cancellationRequested ∧ record.state ≠ .cancelling)
    (transitionRecord .cancelling)

/-! ### Push trigger -/

/-- Nothing was pushed: checkpoint that, release the leases and fail. -/
def abandonDispatch {α : Type} (config : ProviderConfig) (code message : String)
    (retryable : Bool) (error : ProviderError) : ProviderM α := do
  let timestampMs ← request .nowMs
  markPublicationNotAttempted config timestampMs code message retryable
  checkpointRecord
  releaseRecordPublicationLease
  releaseSnapshotSourceLease
  fail error

def queueDispatch (config : ProviderConfig) (uncertain : Bool) : ProviderM Unit :=
  if uncertain then warnUncertainDispatch config
  else onlyIf (config.runTrigger = .push) do
    let record ← get
    onlyIf (record.state = .created) (transitionRecord .queued)
    appendEventNow config "queue" (.jobQueued none)

def settleDispatch (config : ProviderConfig) (published : TemporaryRefPublication)
    (uncertain mismatch : Bool) : ProviderM Unit := do
  modify fun record => record.settleDispatch published uncertain mismatch
  checkpointRecord
  if mismatch then do
    failMismatchedDispatch config
    checkpointRecord
    releaseRecordPublicationLease
    releaseSnapshotSourceLease
  else do
    queueDispatch config uncertain
    noteCancellation
    checkpointRecord
    releaseSnapshotSourceLease
    let record ← get
    onlyIf (!record.publicationUncertain) releaseRecordPublicationLease

def finishDispatch (config : ProviderConfig) (record : JobRecord)
    (prepared : Option TemporaryRefPublication) : DispatchPublication → ProviderM Unit
  | .published publication =>
    settleDispatch config publication false (bindingMismatch record prepared publication)
  | .possible publication =>
    settleDispatch config publication true (bindingMismatch record prepared publication)
  | .notAttempted failure =>
    abandonDispatch config "snapshot_dispatch_publication_not_attempted"
      "Snapshot dispatch publication failed before any remote mutation" false failure

def publishNewDispatch (config : ProviderConfig) (record : JobRecord) : ProviderM Unit := do
  checkCancellation
  let snapshot ← exactSnapshot record
  revalidatePublicSnapshotSource config
  let prepared ← prepareDispatch config record snapshot
  let scope ← acquireNewSnapshotDispatchLease record
  modify fun record => record.intendDispatch prepared scope
  checkpointRecord
  (revalidatePublicSnapshotSource config).handle <|
    abandonDispatch config "snapshot_dispatch_identity_revalidation_failed"
      "GitHub identity or public snapshot source changed before dispatch publication" true
  let startedAtMs ← request .nowMs
  modify fun record => record.armDispatch startedAtMs
  checkpointRecord
  checkCancellation
  let outcome ← request (.publishPrepared record.temporaryRef record.operationId prepared
    config.mutationAuthorization.publishTemporaryRef)
  finishDispatch config record prepared outcome

def publishGitSnapshotDispatch (config : ProviderConfig) : ProviderM Unit := do
  let record ← get
  onlyIf (!record.publicationIntent) (publishNewDispatch config record)

/-! ### Workflow dispatch trigger

The record is locked only for the single steps; what happens between them is done with a copy. -/

/-- Nothing was pushed: checkpoint that, release the leases of the copy and fail. -/
def abandonWorkingDispatch {α : Type} (config : ProviderConfig) (working : JobRecord)
    (code message : String) (retryable : Bool) (error : ProviderError) : ProviderM α := do
  let timestampMs ← request .nowMs
  markPublicationNotAttempted config timestampMs code message retryable
  modify fun record =>
    { record with publicationTakeoverLeaseOwned := false, snapshotSourceLeaseOwned := false }
  checkpointRecord
  let _ ← (releaseRecordPublicationLeaseOf working).attempt
  let _ ← (releaseSnapshotSourceLeaseOf working).attempt
  fail error

/-- The record is still the one that was copied. -/
def ensureDispatchIdentity (unchanged : Bool) : ProviderM Unit :=
  ensure unchanged (providerResumeFailure "snapshot_dispatch_identity_changed")

/-- The last checks before the push. -/
def armWorkingDispatch (working : JobRecord) (snapshot : GithubGitSnapshotResumeV1)
    (identity : ProviderResult (GithubPrincipalIdentityV1 × UInt64))
    (cancellation : ProviderResult Unit) : ProviderM Unit := do
  let record ← get
  let identity ← ofExcept identity
  ofExcept cancellation
  ofExcept (validateRecordIdentity record identity)
  ensureDispatchIdentity (record.preparedDispatchCommit == working.preparedDispatchCommit &&
    record.publicationIntent && !record.publicationUncertain && record.dispatchCommit.isNone &&
    record.gitSnapshot == some snapshot)
  ensure (!record.cancellationRequested) (.failure "publication_cancelled_before_mutation"
    "GitHub snapshot dispatch was cancelled before any remote ref mutation" false)
  let startedAtMs ← request .nowMs
  modify fun record => record.armDispatch startedAtMs
  checkpointRecord

def settleWorkingDispatch (config : ProviderConfig) (working : JobRecord)
    (snapshot : GithubGitSnapshotResumeV1) (published : TemporaryRefPublication)
    (uncertain mismatch : Bool) : ProviderM Unit := do
  let record ← get
  -- the record may have changed while the push was running
  ensureDispatchIdentity (record.preparedDispatchCommit == working.preparedDispatchCommit &&
    record.publicationStartedAtMs == working.publicationStartedAtMs &&
    record.dispatchCommit.isNone && record.gitSnapshot == some snapshot)
  modify fun record => record.settleDispatch published uncertain mismatch
  noteCancellation
  onlyIf mismatch (failMismatchedDispatch config)
  onlyIf (!mismatch && uncertain) (warnUncertainDispatch config)
  modify fun record =>
    { record with
      snapshotSourceLeaseOwned := false
      publicationTakeoverLeaseOwned :=
        if !uncertain || mismatch then false else record.publicationTakeoverLeaseOwned }
  checkpointRecord
  let working ← releaseSnapshotSourceLeaseOf working
  onlyIf (!uncertain || mismatch) do
    let _ ← releaseRecordPublicationLeaseOf working

def finishWorkingDispatch (config : ProviderConfig) (working : JobRecord)
    (snapshot : GithubGitSnapshotResumeV1) (prepared : Option TemporaryRefPublication) :
    DispatchPublication → ProviderM Unit
  | .published publication =>
    settleWorkingDispatch config working snapshot publication false
      (bindingMismatch working prepared publication)
  | .possible publication =>
    settleWorkingDispatch config working snapshot publication true
      (bindingMismatch working prepared publication)
  | .notAttempted failure =>
    abandonWorkingDispatch config working "snapshot_dispatch_publication_not_attempted"
      "Snapshot dispatch publication failed before any remote mutation" false failure

/-- The intent of the dispatch in the record and in the copy, which is returned. -/
def intendWorkingDispatch (working : JobRecord)
    (snapshot : GithubGitSnapshotResumeV1) (prepared : Option TemporaryRefPublication)
    (identity : GithubPrincipalIdentityV1 × UInt64) : ProviderM JobRecord := do
  let scope ← acquireNewSnapshotDispatchLease working
  let record ← get
  ensureDispatchIdentity (record.gitSnapshot == some snapshot && !record.publicationIntent &&
    record.preparedDispatchCommit.isNone && record.dispatchCommit.isNone)
  ofExcept (validateRecordIdentity record identity)
  modify fun record => record.intendDispatch prepared scope
  checkpointRecord
  pure (working.intendDispatch prepared scope)

def publishNewWorkflowDispatch (config : ProviderConfig) (working : JobRecord) :
    ProviderM Unit := do
  let snapshot ← exactSnapshot working
  let initialIdentity ← currentPublicSnapshotSourceIdentity config
  let prepared ← prepareDispatch config working snapshot
  let working ← intendWorkingDispatch working snapshot prepared initialIdentity
  let identity ← (currentPublicSnapshotSourceIdentity config).attempt
  let cancellation ← checkCancellation.attempt
  (armWorkingDispatch working snapshot identity cancellation).handle <|
    abandonWorkingDispatch config working "snapshot_dispatch_identity_revalidation_failed"
      "GitHub identity or public snapshot source changed before dispatch publication" true
  let record ← get
  let outcome ← request (.publishPrepared working.temporaryRef working.operationId prepared
    config.mutationAuthorization.publishTemporaryRef)
  finishWorkingDispatch config (working.armDispatch record.publicationStartedAtMs) snapshot prepared
    outcome

def publishGitSnapshotDispatchWorkflowDispatch (config : ProviderConfig) : ProviderM Unit := do
  checkCancellation
  let working ← get
  onlyIf (!working.publicationIntent) (publishNewWorkflowDispatch config working)

/-! ## The submission -/

def publishDispatch (config : ProviderConfig) : ProviderM (Option GithubGitSnapshotPhaseV1) :=
  if config.runTrigger = .workflowDispatch then do
    publishGitSnapshotDispatchWorkflowDispatch config
    pure none
  else do
    let result ← (publishGitSnapshotDispatch config).attempt
    let record ← get
    onlyIf (!record.publicationIntent) releaseSnapshotSourceLease
    ofExcept result
    pure none

/-- The source ref is checked once more before the dispatch. -/
def finishExact (config : ProviderConfig) (reconciliation : GitSnapshotRefReconciliation) :
    ProviderM (Option GithubGitSnapshotPhaseV1) :=
  if reconciliation = .exact then publishDispatch config
  else
    sourceConflict config "snapshot_source_ownership_lost"
      "Git snapshot source ref changed before dispatch publication"

def continueExact (config : ProviderConfig)
    (identity : Option (GithubPrincipalIdentityV1 × UInt64))
    (snapshot : GithubGitSnapshotResumeV1) : ProviderM (Option GithubGitSnapshotPhaseV1) := do
  let _ ← acquireSnapshotSourceLease
  validateSnapshotSource config identity
  let reconciliation ← tryCall (request (.reconcileGitSnapshotSource snapshot.stage.sourceRef
    snapshot.stage.graph.commit))
  finishExact config reconciliation

def continuePhase (config : ProviderConfig)
    (identity : Option (GithubPrincipalIdentityV1 × UInt64))
    (snapshot : GithubGitSnapshotResumeV1) : ProviderM (Option GithubGitSnapshotPhaseV1) :=
  match snapshot.phase with
  | .prepared => do
    validateSnapshotSource config identity
    enterPhase .keepaliveIntent
  | .keepaliveIntent => submitKeepalive config snapshot
  | .keepaliveExact => enterPhase .stageDeleteIntent
  | .stageDeleteIntent => deleteStage snapshot
  | .stageDeleted => intendSource
  | .sourcePublishIntent => continueSource config identity snapshot
  | .sourceAbsent => retrySource config snapshot
  | .sourceConflict => do
    releaseSnapshotSourceLease
    pure none
  | .sourceExact => continueExact config identity snapshot
  -- these phases belong to the cleanup
  | .sourceCleanupIntent | .sourceDeleted | .keepaliveReleaseIntent | .keepaliveReleased =>
    pure none

/-- One iteration: the phase that it acknowledged, or none when the submission returns. -/
def continueStep (config : ProviderConfig) (acknowledged : Option GithubGitSnapshotPhaseV1) :
    ProviderM (Option GithubGitSnapshotPhaseV1) := do
  checkCancellation
  let identity ← workflowDispatchSnapshotIdentity config
  let snapshot ← currentSnapshot
  onlyIf (snapshot.phase ≠ .prepared ∧ acknowledged ≠ some snapshot.phase) checkpointRecord
  continuePhase config identity snapshot

/-- The iterations after an acknowledged phase; whether the submission returned within that
    many. -/
def continueLoop (config : ProviderConfig) :
    Nat → Option GithubGitSnapshotPhaseV1 → ProviderM Bool
  | 0, _ => pure false
  | steps + 1, acknowledged => do
    let next ← continueStep config acknowledged
    match next with
    | some phase => continueLoop config steps (some phase)
    | none => pure true

/-- `continue_git_snapshot_submission`, which makes at most `steps` iterations. -/
def continueGitSnapshotSubmission (config : ProviderConfig) (steps : Nat) : ProviderM Bool :=
  continueLoop config steps none

end RustFerry.Github
