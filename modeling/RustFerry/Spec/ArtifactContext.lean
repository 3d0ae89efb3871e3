import RustFerry.Native.ArtifactContext
import RustFerry.Spec.WorkflowDispatch
import RustFerry.Spec.SnapshotRun

/-!
# The artifact context of a job

The store accepts the context of a job exactly when the request of the job has the source mode
`git`. Everything else that it checks holds of every job, whatever the order of the steps that
bind the job to its commit and its run.
-/

namespace RustFerry.Github

open Remote Except

section

variable {commit : CommitSha} {request : IosDeviceBuildRequest} {job : LiveJob} {record : JobRecord}

/-! ## The request of a job -/

/-- The record holds an accepted request, under its own identifiers and digest. -/
structure JobRecord.Accepted (tools : ProviderTools) (config : GithubProviderConfig)
    (record : JobRecord) : Prop where
  request : validateProviderRequest tools.submission config record.request = .ok ()
  jobId : record.jobId = record.operationId
  operationId : record.operationId = record.request.operationId
  requestSha256 : canonicalRequestSha256 tools.resume.request record.request =
    .ok record.requestSha256
  sourceRevision : record.request.sourceRevision = some record.sourceRevision

theorem CommitSha.value_of_new {value : String} (h : CommitSha.new value = .ok commit) :
    commit.value = value := by
  unfold CommitSha.new at h
  split at h
  · exact Except.ok.inj h ▸ rfl
  · cases h

theorem sourceRevision_of_submission (h : submissionSourceRevision request = .ok commit) :
    request.sourceRevision = some commit.value := by
  unfold submissionSourceRevision at h
  cases hrevision : request.sourceRevision with
  | none => simp [hrevision] at h
  | some revision =>
    simp only [hrevision, mapError_eq_ok] at h
    rw [CommitSha.value_of_new h]

theorem sourceRevision_of_snapshot (h : snapshotSourceRevision request = .ok commit) :
    request.sourceRevision = some commit.value := by
  unfold snapshotSourceRevision at h
  cases hrevision : request.sourceRevision with
  | none => simp [hrevision] at h
  | some revision =>
    simp only [hrevision, mapError_eq_ok] at h
    rw [CommitSha.value_of_new h]

variable {tools : ProviderTools} {config : GithubProviderConfig}

/-- What a Git submission stores is a new job. -/
theorem submitRecord_eq_ok {clock : SubmissionClock}
    {identity : Option (GithubPrincipalIdentityV1 × UInt64)}
    (h : submitRecord tools config clock identity request = .ok record) :
    ∃ job : NewJob, record = job.record ∧ record.Accepted tools config := by
  rw [submitRecord, bind_eq_ok] at h
  obtain ⟨prepared, hprepared, h⟩ := h
  rw [check_bind_eq_ok, bind_eq_ok] at h
  obtain ⟨-, digest, hdigest, hrecord⟩ := h
  cases hrecord
  rw [prepareSubmission, check_bind_eq_ok, check_bind_eq_ok, bind_eq_ok] at hprepared
  obtain ⟨hvalid, -, temporaryRef, -, hsource⟩ := hprepared
  rw [bind_eq_ok] at hsource
  obtain ⟨source, hsource, hmade⟩ := hsource
  cases hmade
  rw [validateSubmission, check_bind_eq_ok] at hvalid
  exact ⟨_, rfl, hvalid.1, rfl, rfl, mapError_eq_ok.mp hdigest,
    sourceRevision_of_submission hsource⟩

/-- What a snapshot submission stores is a new job. -/
theorem submitGitSnapshotRecord_eq_ok {clock : SubmissionClock} {capable : Bool}
    {submission : GitSnapshotSubmission}
    (h : submitGitSnapshotRecord tools config clock capable submission = .ok record) :
    ∃ job : NewJob, record = job.record ∧ record.Accepted tools config := by
  simp only [submitGitSnapshotRecord, check_bind_eq_ok] at h
  obtain ⟨hvalid, -, -, -, h⟩ := h
  rw [bind_eq_ok] at h
  obtain ⟨temporaryRef, -, h⟩ := h
  rw [bind_eq_ok] at h
  obtain ⟨source, hsource, h⟩ := h
  rw [check_bind_eq_ok, bind_eq_ok] at h
  obtain ⟨-, digest, hdigest, hrecord⟩ := h
  cases hrecord
  rw [validateGitSnapshotSubmission, check_bind_eq_ok] at hvalid
  exact ⟨_, rfl, hvalid.1, rfl, rfl, mapError_eq_ok.mp hdigest, sourceRevision_of_snapshot hsource⟩

/-! ## The commit and the run of a job -/

/-- The run of the record is of its dispatch commit, as far as one is known; what was prepared
    is what was dispatched. -/
structure LiveJob.Bound (job : LiveJob) : Prop where
  unstarted : job.stage = .unstarted → job.record.preparedDispatchCommit = none ∧
    job.record.dispatchCommit = none ∧ job.record.run = none
  inFlight : ∀ prepared, job.stage = .inFlight prepared →
    job.record.preparedDispatchCommit = prepared.map (·.commit) ∧
      (prepared = none → job.record.dispatchCommit = none ∧ job.record.run = none)
  prepared : ∀ commit, job.record.preparedDispatchCommit = some commit →
    (∀ dispatch, job.record.dispatchCommit = some dispatch → dispatch = commit) ∧
      ∀ run, job.record.run = some run → run.headSha = commit
  unprepared : job.record.preparedDispatchCommit = none →
    ∀ run, job.record.run = some run → job.record.dispatchCommit = some run.headSha
  attempt : ∀ run, job.record.run = some run → run.runAttempt ≠ 0

/-- Whatever was prepared, the run is of the dispatch commit. -/
theorem LiveJob.Bound.headSha {job : LiveJob} (bound : job.Bound) {run : GithubRunIdentityV1}
    {dispatch : String} (hrun : job.record.run = some run)
    (hdispatch : job.record.dispatchCommit = some dispatch) : run.headSha = dispatch := by
  cases hprepared : job.record.preparedDispatchCommit with
  | none =>
    have hsame := bound.unprepared hprepared run hrun
    rw [hdispatch] at hsame
    exact (Option.some.inj hsame).symm
  | some commit =>
    obtain ⟨hcommit, hhead⟩ := bound.prepared commit hprepared
    rw [hhead run hrun, hcommit dispatch hdispatch]

theorem bound_of_unstarted {stage : PublicationStage}
    (hprepared : record.preparedDispatchCommit = none) (hdispatch : record.dispatchCommit = none)
    (hrun : record.run = none) (hstage : ∀ p, stage ≠ .inFlight p) :
    LiveJob.Bound ⟨record, stage⟩ where
  unstarted := fun _ => ⟨hprepared, hdispatch, hrun⟩
  inFlight := fun p h => absurd h (hstage p)
  prepared := fun commit h => by simp [hprepared] at h
  unprepared := fun _ run h => by simp [hrun] at h
  attempt := fun run h => by simp [hrun] at h

theorem headSha_of_sameHandle {a b : GithubRunIdentityV1} (h : sameHandle a b = true) :
    a.headSha = b.headSha := by
  simp only [sameHandle, Bool.and_eq_true, beq_iff_eq] at h
  exact h.1.1.2

/-- What the check of a run compares. -/
theorem ensureSameRunAttempt_eq_ok {previous current : GithubRunIdentityV1}
    (h : ensureSameRunAttempt previous current = .ok ()) :
    previous.headSha = current.headSha ∧ previous.runAttempt = current.runAttempt := by
  simp only [ensureSameRunAttempt, rejectIf_eq_ok, Bool.or_eq_false_iff, Bool.not_eq_false',
    bne_eq_false_iff_eq] at h
  exact ⟨headSha_of_sameHandle h.1.1.1, h.1.2⟩

/-- A run is bound to the commit that was prepared or dispatched. -/
theorem LiveJob.Bound.bindRun {record' : JobRecord} {stage : PublicationStage}
    (bound : LiveJob.Bound ⟨record, stage⟩) {commit : String} {run : GithubRunIdentityV1}
    (hcommit : record.preparedDispatchCommit = some commit ∨ record.dispatchCommit = some commit)
    (hhead : run.headSha = commit) (hattempt : run.runAttempt = 1)
    (hprepared' : record'.preparedDispatchCommit = record.preparedDispatchCommit)
    (hdispatch' : record'.dispatchCommit = some commit) (hrun' : record'.run = some run) :
    LiveJob.Bound ⟨record', stage⟩ where
  unstarted := by
    intro hstage
    obtain ⟨hprepared, hdispatch, -⟩ := bound.unstarted hstage
    cases hcommit with
    | inl h => rw [show record.preparedDispatchCommit = none from hprepared] at h; cases h
    | inr h => rw [show record.dispatchCommit = none from hdispatch] at h; cases h
  inFlight := by
    intro prepared hstage
    obtain ⟨hprepared, hnone⟩ := bound.inFlight prepared hstage
    refine ⟨hprepared'.trans hprepared, fun hempty => ?_⟩
    -- without a prepared commit there is no commit to bind to
    cases hcommit with
    | inl h =>
      rw [show record.preparedDispatchCommit = _ from hprepared, hempty] at h
      cases h
    | inr h =>
      rw [show record.dispatchCommit = none from (hnone hempty).1] at h
      cases h
  prepared := by
    intro prepared hprepared
    have hbefore : record.preparedDispatchCommit = some prepared := hprepared'.symm.trans hprepared
    have hsame : commit = prepared := by
      cases hcommit with
      | inl h => exact Option.some.inj (h.symm.trans hbefore)
      | inr h => exact (bound.prepared prepared hbefore).1 commit h
    constructor
    · intro dispatch h
      exact (Option.some.inj (hdispatch'.symm.trans h)).symm.trans hsame
    · intro other h
      rw [← Option.some.inj (hrun'.symm.trans h), hhead, hsame]
  unprepared := by
    intro _ other h
    rw [← Option.some.inj (hrun'.symm.trans h), hhead]
    exact hdispatch'
  attempt := by
    intro other h
    rw [← Option.some.inj (hrun'.symm.trans h), hattempt]
    decide

/-- The settled publication: what was prepared is what was published, or no commit is known. -/
theorem LiveJob.Bound.settle {prepared : Option TemporaryRefPublication}
    (bound : LiveJob.Bound ⟨record, .inFlight prepared⟩) (published : TemporaryRefPublication)
    (uncertain : Bool) :
    LiveJob.Bound ⟨record.settleDispatch published uncertain
      (bindingMismatch record prepared published), .settled⟩ := by
  obtain ⟨hprepared, hnone⟩ := bound.inFlight prepared rfl
  have hfield : record.preparedDispatchCommit = prepared.map (·.commit) := hprepared
  cases prepared with
  | none =>
    -- without a prepared commit no run could be found before
    have hempty : record.run = none := (hnone rfl).2
    have hrun : ∀ run, record.run = some run → False := fun run h => by simp [hempty] at h
    exact ⟨fun h => (by cases h), fun _ h => (by cases h),
      fun commit h => (by cases Eq.trans (Eq.symm h) hfield),
      fun _ run h => (hrun run h).elim, fun run h => (hrun run h).elim⟩
  | some expected =>
    -- a commit is written only when it is the prepared one
    have hdispatch : ∀ dispatch, (record.settleDispatch published uncertain
        (bindingMismatch record (some expected) published)).dispatchCommit = some dispatch →
        dispatch = expected.commit := by
      intro dispatch h
      simp only [JobRecord.settleDispatch] at h
      split at h
      · rename_i hgood
        simp only [bindingMismatch, Option.any_some, Bool.and_eq_true, Bool.not_eq_true',
          Bool.or_eq_false_iff, bne_eq_false_iff_eq] at hgood
        rw [← Option.some.inj h, hgood.1.2]
      · cases h
    refine ⟨fun h => (by cases h), fun _ h => (by cases h), fun commit h => ⟨fun dispatch hd => ?_,
      (bound.prepared commit h).2⟩, fun h => ?_, bound.attempt⟩
    · have hcommit : some commit = some expected.commit := Eq.trans (Eq.symm h) hfield
      rw [Option.some.inj hcommit]
      exact hdispatch dispatch hd
    · have hcommit : none = some expected.commit := Eq.trans (Eq.symm h) hfield
      cases hcommit

/-- A step changes nothing of the request and keeps the commit and the run together. -/
theorem LiveJob.Bound.step {job next : LiveJob} (bound : job.Bound) (h : LiveStep job next) :
    next.Bound := by
  cases h with
  | @intend record prepared scope =>
    obtain ⟨-, hdispatch, hrun⟩ := bound.unstarted rfl
    refine ⟨fun h => (by cases h), fun other h => ?_, fun commit _ => ⟨fun d hd => ?_,
      fun run hr => ?_⟩, fun _ run hr => ?_, bound.attempt⟩
    · cases h
      exact ⟨rfl, fun _ => ⟨hdispatch, hrun⟩⟩
    · rw [show (record.intendDispatch prepared scope).dispatchCommit = none from hdispatch] at hd
      cases hd
    · rw [show (record.intendDispatch prepared scope).run = none from hrun] at hr
      cases hr
    · rw [show (record.intendDispatch prepared scope).run = none from hrun] at hr
      cases hr
  | settle published uncertain => exact bound.settle published uncertain
  | abandon =>
    exact ⟨fun h => (by cases h), fun _ h => (by cases h), bound.prepared, bound.unprepared,
      bound.attempt⟩
  | @recover record record' stage published h =>
    unfold JobRecord.recoverDispatch at h
    split at h
    · rename_i hexact
      cases h
      refine ⟨fun hstage => ?_, fun prepared hstage => ?_, fun commit hcommit => ⟨fun d hd => ?_,
        fun run hr => (bound.prepared commit hcommit).2 run hr⟩, fun hnone => ?_, bound.attempt⟩
      · -- nothing is recovered before the intent
        have hnone := (bound.unstarted hstage).1
        rw [show record.preparedDispatchCommit = none from hnone] at hexact
        cases hexact.2
      · obtain ⟨hprepared, -⟩ := bound.inFlight prepared hstage
        refine ⟨hprepared, fun hempty => ?_⟩
        rw [show record.preparedDispatchCommit = _ from hprepared, hempty] at hexact
        cases hexact.2
      · rw [← Option.some.inj hd]
        exact Option.some.inj (hexact.2.symm.trans hcommit)
      · rw [show record.preparedDispatchCommit = none from hnone] at hexact
        cases hexact.2
    · cases h
      exact ⟨bound.unstarted, bound.inFlight, bound.prepared, bound.unprepared, bound.attempt⟩
  | @discover record record' stage find h =>
    unfold JobRecord.discoverRun at h
    cases hprepared : record.preparedDispatchCommit with
    | none => simp [hprepared] at h
    | some commit =>
      simp only [hprepared] at h
      rw [bind_eq_ok] at h
      obtain ⟨run, -, h⟩ := h
      rw [check_bind_eq_ok, rejectIf_eq_ok, bne_eq_false_iff_eq] at h
      obtain ⟨hattempt, h⟩ := h
      cases h
      exact bound.bindRun (Or.inl hprepared) run.property hattempt hprepared.symm rfl rfl
  | @map record record' stage find h =>
    unfold JobRecord.mapRun at h
    cases hdispatch : record.dispatchCommit with
    | none =>
      simp only [hdispatch] at h
      cases h
      exact bound
    | some commit =>
      simp only [hdispatch] at h
      rw [bind_eq_ok] at h
      obtain ⟨run, -, h⟩ := h
      rw [check_bind_eq_ok, rejectIf_eq_ok, bne_eq_false_iff_eq] at h
      obtain ⟨hattempt, h⟩ := h
      cases h
      exact bound.bindRun (Or.inr hdispatch) run.property hattempt rfl rfl rfl
  | @refresh record record' stage current h =>
    unfold JobRecord.refreshRun at h
    cases hrun : record.run with
    | none =>
      simp only [hrun] at h
      cases h
      exact bound
    | some previous =>
      simp only [hrun] at h
      rw [check_bind_eq_ok] at h
      obtain ⟨hsame, h⟩ := h
      cases h
      obtain ⟨hhead, hattempt⟩ := ensureSameRunAttempt_eq_ok hsame
      refine ⟨fun hstage => ?_, fun prepared hstage => ⟨(bound.inFlight prepared hstage).1,
        fun hempty => ?_⟩, fun commit hcommit => ⟨(bound.prepared commit hcommit).1,
        fun run hr => ?_⟩, fun hnone run hr => ?_, fun run hr => ?_⟩
      · have hnone := (bound.unstarted hstage).2.2
        rw [show record.run = none from hnone] at hrun
        cases hrun
      · have hnone := ((bound.inFlight prepared hstage).2 hempty).2
        rw [show record.run = none from hnone] at hrun
        cases hrun
      · rw [← Option.some.inj hr, ← hhead]
        exact (bound.prepared commit hcommit).2 previous hrun
      · rw [← Option.some.inj hr, ← hhead]
        exact bound.unprepared hnone previous hrun
      · rw [← Option.some.inj hr, ← hattempt]
        exact bound.attempt previous hrun
  | @other record record' stage same =>
    have hprepared := same.prepared
    have hdispatch := same.dispatch
    have hrun := same.run
    obtain ⟨h1, h2, h3, h4, h5⟩ := bound
    simp only [hprepared, hdispatch, hrun] at h1 h2 h3 h4 h5
    exact ⟨h1, h2, h3, h4, h5⟩

/-- The fields of the request are the same after a step. -/
structure SameRequest (a b : JobRecord) : Prop where
  jobId : a.jobId = b.jobId
  operationId : a.operationId = b.operationId
  sourceRevision : a.sourceRevision = b.sourceRevision
  request : a.request = b.request
  requestSha256 : a.requestSha256 = b.requestSha256

theorem LiveStep.sameRequest {next : LiveJob} (h : LiveStep job next) :
    SameRequest job.record next.record := by
  cases h with
  | intend => exact ⟨rfl, rfl, rfl, rfl, rfl⟩
  | settle => exact ⟨rfl, rfl, rfl, rfl, rfl⟩
  | abandon => exact ⟨rfl, rfl, rfl, rfl, rfl⟩
  | recover published h =>
    unfold JobRecord.recoverDispatch at h
    split at h <;> obtain rfl := Except.ok.inj h <;> exact ⟨rfl, rfl, rfl, rfl, rfl⟩
  | discover find h =>
    unfold JobRecord.discoverRun at h
    split at h
    · cases h
    · rw [bind_eq_ok] at h
      obtain ⟨run, -, h⟩ := h
      rw [check_bind_eq_ok] at h
      obtain rfl := Except.ok.inj h.2
      exact ⟨rfl, rfl, rfl, rfl, rfl⟩
  | map find h =>
    unfold JobRecord.mapRun at h
    split at h
    · cases h
      exact ⟨rfl, rfl, rfl, rfl, rfl⟩
    · rw [bind_eq_ok] at h
      obtain ⟨run, -, h⟩ := h
      rw [check_bind_eq_ok] at h
      obtain rfl := Except.ok.inj h.2
      exact ⟨rfl, rfl, rfl, rfl, rfl⟩
  | refresh current h =>
    unfold JobRecord.refreshRun at h
    split at h
    · cases h
      exact ⟨rfl, rfl, rfl, rfl, rfl⟩
    · rw [check_bind_eq_ok] at h
      obtain rfl := Except.ok.inj h.2
      exact ⟨rfl, rfl, rfl, rfl, rfl⟩
  | other same =>
    exact ⟨same.jobId, same.operationId, same.sourceRevision, same.request, same.requestSha256⟩

/-- Acceptance depends on the request alone. -/
theorem JobRecord.Accepted.of_same {record' : JobRecord} (accepted : record.Accepted tools config)
    (same : SameRequest record record') :
    record'.Accepted tools config := by
  obtain ⟨h1, h2, h3, h4, h5⟩ := accepted
  rw [same.request] at h1 h3 h4 h5
  rw [same.jobId] at h2
  rw [same.operationId] at h2 h3
  rw [same.requestSha256] at h4
  rw [same.sourceRevision] at h5
  exact ⟨h1, h2, h3, h4, h5⟩

/-! ## Every job -/

/-- Every job comes from an accepted request. -/
theorem Live.accepted (live : Live tools config job) :
    job.record.Accepted tools config := by
  induction live with
  | submit h =>
    obtain ⟨_, -, haccepted⟩ := submitRecord_eq_ok h
    exact haccepted
  | submitGitSnapshot h =>
    obtain ⟨_, -, haccepted⟩ := submitGitSnapshotRecord_eq_ok h
    exact haccepted
  | restore h => exact ⟨h.request, h.jobId.symm, h.operationId, h.requestSha256, h.sourceRevision⟩
  | step _ h ih => exact ih.of_same h.sameRequest

/-- Every run is bound to the dispatched commit. -/
theorem Live.bound (live : Live tools config job) : job.Bound := by
  induction live with
  | submit h =>
    obtain ⟨made, rfl, -⟩ := submitRecord_eq_ok h
    exact bound_of_unstarted rfl rfl rfl fun _ h => (by cases h)
  | submitGitSnapshot h =>
    obtain ⟨made, rfl, -⟩ := submitGitSnapshotRecord_eq_ok h
    exact bound_of_unstarted rfl rfl rfl fun _ h => (by cases h)
  | @restore record h =>
    by_cases hintent : record.publicationIntent = true
    · rw [if_pos hintent]
      refine ⟨fun h => (by cases h), fun _ h => (by cases h), fun commit hcommit =>
        ⟨fun d hd => (h.prepared commit d hcommit hd).symm, fun run hrun => ?_⟩,
        fun _ run hrun => h.run run hrun, h.attempt⟩
      exact (h.prepared commit _ hcommit (h.run run hrun)).symm
    · rw [if_neg hintent]
      obtain ⟨hprepared, hdispatch, hrun⟩ := h.unstarted (Bool.not_eq_true _ ▸ hintent)
      exact bound_of_unstarted hprepared hdispatch hrun fun _ h => (by cases h)
  | step _ h ih => exact ih.step h

/-! ## The check of the context -/

/-- What the context of a job is made of. -/
theorem artifactContext_eq_some {context : GithubArtifactContext}
    (h : artifactContext config record = some context) :
    ∃ run dispatch, record.run = some run ∧ record.dispatchCommit = some dispatch ∧
      context = ⟨record.jobId, record.operationId, config.repository,
        record.executionRepositoryId, run, config.sourceRepository, record.sourceRevision,
        dispatch, record.request, record.requestSha256⟩ := by
  cases hrun : record.run with
  | none => simp [artifactContext, hrun] at h
  | some run =>
    cases hdispatch : record.dispatchCommit with
    | none => simp [artifactContext, hrun, hdispatch] at h
    | some dispatch =>
      simp only [artifactContext, hrun, hdispatch, Option.bind_eq_bind, Option.bind_some,
        Option.pure_def, Option.some.injEq] at h
      exact ⟨run, dispatch, rfl, rfl, h.symm⟩

theorem validateContext_of_not_git {tools : RequestTools} {context : GithubArtifactContext}
    (h : context.request.sourceMode ≠ .git) :
    validateContext tools context = .error .invalidContext := by
  cases hcheck : validateContext tools context with
  | error failure =>
    cases failure
    rfl
  | ok =>
    rw [validateContext, check_bind_eq_ok, bind_eq_ok] at hcheck
    obtain ⟨-, _, -, hchecks⟩ := hcheck
    simp [h] at hchecks

/-- The store accepts the context of a job whose run succeeded exactly when the request of the
    job is for a commit of a Git repository, and not for a snapshot. -/
theorem context_valid_iff {job : LiveJob} (live : Live tools config job)
    {run : GithubRunIdentityV1} (hrun : job.record.run = some run)
    (hcompleted : run.status = .completed) (hsuccess : run.conclusion = some .success)
    {context : GithubArtifactContext} (hcontext : artifactContext config job.record = some context) :
    validateContext tools.resume.request context = .ok () ↔ job.record.request.sourceMode = .git := by
  have haccepted := live.accepted
  obtain ⟨run', dispatch, hrun', hdispatch, rfl⟩ := artifactContext_eq_some hcontext
  obtain rfl := Option.some.inj (hrun.symm.trans hrun')
  have hhead : run.headSha = dispatch := live.bound.headSha hrun hdispatch
  have hattempt : run.runAttempt ≠ 0 := live.bound.attempt run hrun
  have hprovider := haccepted.request
  simp only [validateProviderRequest, check_bind_eq_ok, mapError_eq_ok, rejectIf_eq_ok,
    Bool.or_eq_false_iff, bne_eq_false_iff_eq, Bool.not_eq_false'] at hprovider
  obtain ⟨-, hvalid, hsource, -, hsegment⟩ := hprovider
  have hnonempty : job.record.jobId ≠ "" := by
    intro hempty
    rw [haccepted.jobId, haccepted.operationId] at hempty
    rw [hempty] at hsegment
    exact absurd hsegment (by decide)
  rw [validateContext, check_bind_eq_ok, bind_eq_ok]
  simp only [mapError_eq_ok, rejectIf_eq_ok]
  constructor
  · intro hparts
    obtain ⟨-, digest, -, hchecks⟩ := hparts
    simp only [Bool.or_eq_false_iff, decide_eq_false_iff_not, not_not] at hchecks
    exact hchecks.1.1.1.1.1.1.2
  · -- every other comparison of the check holds
    intro hmode
    refine ⟨hvalid, _, haccepted.requestSha256, ?_⟩
    simp only [Bool.or_eq_false_iff, beq_eq_false_iff_ne, bne_eq_false_iff_eq,
      decide_eq_false_iff_not, not_not]
    exact ⟨⟨⟨⟨⟨⟨⟨⟨⟨⟨hnonempty, haccepted.operationId⟩, haccepted.jobId⟩, trivial⟩, hmode⟩,
      hsource.1.2⟩, haccepted.sourceRevision⟩, hhead⟩, hattempt⟩, hcompleted⟩, hsuccess⟩

end

/-! ## Two jobs -/

namespace ContextSample

/-- The run of the sample commit in its first attempt. -/
def run : GithubRunIdentityV1 where
  runId := 1
  workflowId := 7
  workflowPath := ".github/workflows/rustferry.yml"
  headSha := SubmissionSample.dispatchRevision.value
  branch := "rustferry/jobs/operation-1"
  event := .push
  runNumber := 1
  runAttempt := 1
  status := .completed
  conclusion := some .success

def publication (record : JobRecord) : TemporaryRefPublication :=
  ⟨record.temporaryRef, SubmissionSample.dispatchRevision.value⟩

/-- The record after its publication and the end of its run. -/
def completed (record : JobRecord) : JobRecord :=
  { (record.intendDispatch (some (publication record)) "").settleDispatch (publication record)
      false false with run := some run }

/-- A submitted job is published, and its run found when it has ended. -/
theorem live_completed {tools : ProviderTools} {config : GithubProviderConfig}
    {record : JobRecord} (live : Live tools config ⟨record, .unstarted⟩) :
    Live tools config ⟨completed record, .settled⟩ := by
  have hintend := live.step (.intend (some (publication record)) "")
  have hsettle := hintend.step (.settle (publication record) false)
  have hmatch : bindingMismatch (record.intendDispatch (some (publication record)) "")
      (some (publication record)) (publication record) = false := by
    simp [bindingMismatch, publication, JobRecord.intendDispatch]
  rw [hmatch] at hsettle
  apply hsettle.step
  refine .map (fun commit => if h : run.headSha = commit then .ok ⟨run, h⟩ else
    .error .cancelled) ?_
  simp only [JobRecord.mapRun, JobRecord.settleDispatch, Bool.not_false, Bool.and_self, if_true,
    show (publication record).commit = run.headSha from rfl, dif_pos]
  rfl

/-- The tools of the sample submission. -/
def gitTools : ProviderTools where
  resume := { Sample.tools with request := SubmissionSample.tools.request }
  targetGraphSha256 := fun _ => ""
  dispatchManifest := fun _ _ _ => .ok ()

/-- The record of the sample submission. -/
def gitRecord : JobRecord := NewJob.record {
  identity := some (.user 1 "octocat", 1)
  snapshot := none
  request := SubmissionSample.request
  requestSha256 := SubmissionSample.sha256 (toVec SubmissionSample.request)
  prepared := ⟨SubmissionSample.temporaryRef, SubmissionSample.sourceRevision⟩
  createdAtMs := 1
  quiescenceDeadlineMs := 0
  discoveryDeadlineMs := 2 }

theorem submitRecord_git :
    submitRecord gitTools SubmissionSample.config ⟨1, 1⟩ (some (.user 1 "octocat", 1))
      SubmissionSample.request = .ok gitRecord := by
  have hdigest : canonicalRequestSha256 gitTools.resume.request SubmissionSample.request =
      .ok gitRecord.requestSha256 := SubmissionSample.canonicalRequestSha256_request
  rw [submitRecord, bind_eq_ok]
  refine ⟨_, SubmissionSample.prepareSubmission_request, ?_⟩
  rw [check_bind_eq_ok, hdigest]
  exact ⟨rfl, rfl⟩

theorem live_git : Live gitTools SubmissionSample.config ⟨completed gitRecord, .settled⟩ :=
  live_completed (.submit submitRecord_git)

/-- The context of a successful build of a commit. -/
def gitContext : GithubArtifactContext where
  jobId := "operation-1"
  operationId := "operation-1"
  repository := SubmissionSample.repository
  executionRepositoryId := some 1
  run := run
  sourceRepository := "https://github.com/example/app"
  sourceRevision := SubmissionSample.sourceRevision.value
  dispatchRevision := SubmissionSample.dispatchRevision.value
  request := SubmissionSample.request
  requestSha256 := gitRecord.requestSha256

theorem artifactContext_git :
    artifactContext SubmissionSample.config (completed gitRecord) = some gitContext := rfl

theorem context_valid_of_commit :
    validateContext gitTools.resume.request gitContext = .ok () :=
  (context_valid_iff live_git rfl rfl rfl artifactContext_git).mpr rfl

/-! A job of a snapshot, with every permission. -/

def snapshotTools : ProviderTools where
  resume := Sample.tools
  targetGraphSha256 := fun _ => ""
  dispatchManifest := fun _ _ _ => .ok ()

def snapshotConfig : GithubProviderConfig :=
  { SubmissionSample.config with mutationAuthorization := ⟨⟨true, true, true, true⟩, true⟩ }

def snapshotSubmission : GitSnapshotSubmission where
  request := Remote.Sample.request
  identity := (.user 1 "octocat", 1)
  approvedConsentSha256 := Sample.stage.consentSha256
  locator := Sample.prepared.stageLocator
  stage := Sample.stage

def snapshotRecord : JobRecord := NewJob.record {
  identity := some (.user 1 "octocat", 1)
  snapshot := some Sample.prepared
  request := Remote.Sample.request
  requestSha256 := Remote.Sample.sha256 (toVec Remote.Sample.request)
  prepared := ⟨SubmissionSample.temporaryRef, SubmissionSample.sourceRevision⟩
  createdAtMs := Sample.stage.sourceCreatedAtMs
  quiescenceDeadlineMs := u64Max
  discoveryDeadlineMs := saturatingAdd Sample.stage.sourceCreatedAtMs 1 }

theorem validateGitSnapshotSubmission_sample :
    validateGitSnapshotSubmission snapshotTools.submission snapshotConfig Remote.Sample.request =
      .ok () := by
  have hvalid : Remote.Sample.request.validate snapshotTools.submission.request = .ok () :=
    Remote.Sample.validate_request
  have hmode : Remote.Sample.request.sourceMode = .gitSnapshot := rfl
  have hunsigned : Remote.Sample.request.signing.mode = .unsignedCompileOnly := rfl
  have hrepository : Remote.Sample.request.sourceRepository =
      some snapshotConfig.sourceRepository := rfl
  have hrevision : Remote.Sample.request.sourceRevision =
      some SubmissionSample.sourceRevision.value := rfl
  have hartifacts : Remote.Sample.request.requestedArtifacts = {.xcarchive} := rfl
  have hsegment : validateRefSegment Remote.Sample.request.operationId = true := by decide
  simp [validateGitSnapshotSubmission, validateProviderRequest, validateSourceAndSigning,
    validateExactArtifactRequest, bind_eq_ok, hvalid, hmode, hunsigned, hrepository, hrevision, hartifacts,
    hsegment, snapshotConfig]

theorem submitGitSnapshotRecord_sample :
    submitGitSnapshotRecord snapshotTools snapshotConfig ⟨1, 1⟩ true snapshotSubmission =
      .ok snapshotRecord := by
  have hdigest : canonicalRequestSha256 snapshotTools.resume.request Remote.Sample.request =
      .ok snapshotRecord.requestSha256 := by
    rw [canonicalRequestSha256, canonicalRequestBytes,
      show Remote.Sample.request.validate snapshotTools.resume.request = .ok () from
        Remote.Sample.validate_request]
    rfl
  have hsnapshot : (preparedSnapshot snapshotSubmission.locator
      snapshotSubmission.stage).validateForRequest snapshotTools.resume Remote.Sample.request =
        .ok () := Sample.validate_prepared
  have href : formTemporaryRef snapshotConfig Remote.Sample.request =
      .ok SubmissionSample.temporaryRef := by decide
  have hsource : snapshotSourceRevision Remote.Sample.request =
      .ok SubmissionSample.sourceRevision := rfl
  simp only [submitGitSnapshotRecord, check_bind_eq_ok]
  refine ⟨validateGitSnapshotSubmission_sample, rfl, ?_, ?_, ?_⟩
  · rw [rejectIf_eq_ok, bne_eq_false_iff_eq]
    rfl
  · rw [mapError_eq_ok]
    exact hsnapshot
  · rw [bind_eq_ok]
    refine ⟨_, href, ?_⟩
    rw [bind_eq_ok]
    refine ⟨_, hsource, ?_⟩
    rw [check_bind_eq_ok, show snapshotSubmission.request = Remote.Sample.request from rfl,
      hdigest]
    exact ⟨rfl, rfl⟩

theorem live_snapshot : Live snapshotTools snapshotConfig ⟨completed snapshotRecord, .settled⟩ :=
  live_completed (.submitGitSnapshot submitGitSnapshotRecord_sample)

/-- A snapshot that was built with success has a context that the store refuses. -/
theorem snapshot_context_refused :
    ∃ context, Live snapshotTools snapshotConfig ⟨completed snapshotRecord, .settled⟩ ∧
      (completed snapshotRecord).run = some run ∧ run.status = .completed ∧
      run.conclusion = some .success ∧
      artifactContext snapshotConfig (completed snapshotRecord) = some context ∧
      validateContext snapshotTools.resume.request context = .error .invalidContext := by
  refine ⟨_, live_snapshot, rfl, rfl, rfl, rfl, ?_⟩
  exact validateContext_of_not_git (by decide)

end ContextSample

end RustFerry.Github
