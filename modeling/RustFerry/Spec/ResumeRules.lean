import RustFerry.Spec.RecordChecks

/-!
# What the successor rules of a checkpoint ask for

The checks of `GithubJobResumeV1::validate_successor` as a structure, and what they say of
a checkpoint that follows itself: most of them compare and hold trivially, but some look at
the replacement alone, so that a checkpoint can fail to be its own successor.
-/

namespace RustFerry.JobStore

open Remote Github Except

variable {tools : ResumeTools} {resume : GithubJobResumeV1} {record : StoredJobV1}

/-! ## Steps of a checkpoint -/

/-- What `validate_successor` asks of two checkpoints. -/
structure ResumeStep (tools : ResumeTools) (previous next : GithubJobResumeV1) : Prop where
  identity : previous.identityChanged next = false
  snapshot : previous.validateSnapshotSuccessor tools next = .ok ()
  dispatchAfterSource : next.publicationIntent = true → ∀ snapshot,
    next.gitSnapshot = some snapshot → snapshot.phase.allowsDispatch = true
  boundary : previous.publicationBoundaryCanAdvance next = true
  state : jobStateCanReach previous.state next.state = true
  compileEvidence : optionCanBindOnce previous.compileEvidence next.compileEvidence = true
  signedCleanupEvidence :
    optionCanBindOnce previous.signedCleanupEvidence next.signedCleanupEvidence = true
  replacement : next.validateReplacement tools = .ok ()
  dispatch : previous.validateDispatchSuccessor next = .ok ()
  progress : previous.validateProgressSuccessor next = .ok ()

/-- Two checkpoints pass the checks exactly when `ResumeStep` holds. -/
theorem resumeStep_iff {previous next : GithubJobResumeV1} :
    previous.validateSuccessor tools next = .ok () ↔ ResumeStep tools previous next := by
  simp only [GithubJobResumeV1.validateSuccessor, check_bind_eq_ok, rejectIf_eq_ok,
    Bool.and_eq_false_imp, Option.any_eq_false, Bool.not_eq_false']
  constructor
  · intro hparts
    obtain ⟨h1, h2, h3, h4, h5, h6, h7, h8, h9, h10⟩ := hparts
    exact ⟨h1, h2, h3, h4, h5, h6, h7, h8, h9, h10⟩
  · intro hparts
    obtain ⟨h1, h2, h3, h4, h5, h6, h7, h8, h9, h10⟩ := hparts
    exact ⟨h1, h2, h3, h4, h5, h6, h7, h8, h9, h10⟩

/-! ## A checkpoint after itself -/

@[simp] theorem optionCanBindOnce_self {α : Type} [DecidableEq α] (a : Option α) :
    optionCanBindOnce a a = true := by
  cases a <;> simp [optionCanBindOnce]

@[simp] theorem boolIsMonotonic_self (a : Bool) : boolIsMonotonic a a = true := by
  cases a <;> rfl

theorem identityChanged_self (resume : GithubJobResumeV1)
    (hscope : ∀ scope, resume.publicationLeaseScopeSha256 = some scope →
      isLowerSha256 scope = true) : resume.identityChanged resume = false := by
  have hany : resume.publicationLeaseScopeSha256.any (!isLowerSha256 ·) = false := by
    simp only [Option.any_eq_false, Bool.not_eq_false']
    exact hscope
  simp [GithubJobResumeV1.identityChanged, hany]

theorem jobStateCanReach_self (state : JobState) : jobStateCanReach state state = true := by
  simp [jobStateCanReach]

/-- A snapshot is always its own successor. -/
theorem snapshot_validateSuccessor_self (snapshot : GithubGitSnapshotResumeV1) :
    snapshot.validateSuccessor snapshot = .ok () := by
  have hattempts : snapshot.expectedAttempts snapshot =
      some snapshot.sourcePublicationAttempts := by
    rw [GithubGitSnapshotResumeV1.expectedAttempts, if_neg]
    intro hparts
    obtain ⟨hphase, hintent⟩ := hparts
    rw [hintent] at hphase
    exact absurd hphase (by decide)
  have hpublication : snapshot.validatePublicationSuccessor snapshot = .ok () := by
    rw [GithubGitSnapshotResumeV1.validatePublicationSuccessor, if_neg]
    · simp [check_bind_eq_ok]
    · intro hparts
      obtain ⟨hphase, hintent⟩ := hparts
      rw [hintent] at hphase
      exact absurd hphase (by decide)
  simp [GithubGitSnapshotResumeV1.validateSuccessor, check_bind_eq_ok, hattempts, hpublication,
    GithubGitSnapshotPhaseV1.canAdvanceTo]

theorem validateSnapshotSuccessor_self :
    resume.validateSnapshotSuccessor tools resume = .ok () ↔
      ∀ snapshot, resume.gitSnapshot = some snapshot →
        snapshot.validateForRequest tools resume.request = .ok () := by
  cases hs : resume.gitSnapshot with
  | none => simp [GithubJobResumeV1.validateSnapshotSuccessor, hs]
  | some snapshot =>
    simp [GithubJobResumeV1.validateSnapshotSuccessor, hs, check_bind_eq_ok,
      snapshot_validateSuccessor_self]

/-- The progress of a checkpoint is never behind itself. -/
theorem validateProgressSuccessor_self (resume : GithubJobResumeV1) :
    resume.validateProgressSuccessor resume = .ok () := by
  simp [GithubJobResumeV1.validateProgressSuccessor, GithubJobResumeV1.flagRegressed,
    check_bind_eq_ok]

/-! ## Checkpoints of valid records -/

/-- What `validate_github_resume_record_identity` asks of a record and a checkpoint. -/
structure ResumeIdentity (tools : ResumeTools) (record : StoredJobV1)
    (resume : GithubJobResumeV1) : Prop where
  boundary : validateGithubPublicationBoundary resume = .ok ()
  trigger : resume.validateTriggerBinding tools = .ok ()
  snapshot : validateGithubSnapshotResumeIdentity tools record resume = .ok ()
  jobId : validateIdentifier "provider_resume.job_id" resume.jobId = .ok ()
  identity : ∃ runId, githubResumeProviderRunId resume = .ok runId ∧
    resumeIdentityDiffers record resume runId = false
  prepared : ∀ commit, resume.preparedDispatchCommit = some commit →
    githubCommitShaIsValid commit = true
  dispatched : ∀ commit, resume.dispatchCommit = some commit →
    githubCommitShaIsValid commit = true
  commits : ∀ prepared dispatch, resume.preparedDispatchCommit = some prepared →
    resume.dispatchCommit = some dispatch → prepared = dispatch
  run : ∀ run, resume.run = some run → validateResumeRun resume run = .ok ()
  events : ∀ entry ∈ resume.events.zipIdx,
    validateResumeEvent tools record resume entry.2 entry.1 = .ok ()
  manifests : ∀ manifest ∈ resume.manifests,
    validateGithubManifestIdentity record resume manifest = .ok ()
  success : resume.state = .succeeded ∨ resume.manifests ≠ [] → runCompletedSuccess resume = true

/-- Two commits differ only when both are known. -/
theorem commitsDiffer_eq_false {first second : Option String} :
    (match first, second with
      | some prepared, some dispatch => prepared != dispatch
      | _, _ => false) = false ↔
      ∀ prepared dispatch, first = some prepared → second = some dispatch →
        prepared = dispatch := by
  cases first <;> cases second <;> simp

/-- The identity of a checkpoint and its record. -/
theorem resumeIdentity_iff :
    validateGithubResumeRecordIdentity tools record resume = .ok () ↔
      ResumeIdentity tools record resume := by
  unfold validateGithubResumeRecordIdentity
  rw [check_bind_eq_ok, check_bind_eq_ok, check_bind_eq_ok, check_bind_eq_ok, bind_eq_ok]
  simp only [check_bind_eq_ok, mapError_eq_ok, rejectIf_eq_ok, Bool.or_eq_false_iff,
    Option.any_eq_false, Bool.not_eq_false', forSome_eq_ok, forM_eq_ok, Bool.and_eq_false_imp,
    Bool.or_eq_true, decide_eq_true_eq]
  constructor
  · intro hparts
    obtain ⟨h1, h2, h3, h4, runId, hrun, h5, ⟨⟨h6, h7⟩, h8⟩, h9, h10, h11, h12⟩ := hparts
    exact ⟨h1, h2, h3, h4, ⟨runId, hrun, h5⟩, h6, h7, commitsDiffer_eq_false.mp h8, h9, h10, h11,
      h12⟩
  · intro hparts
    obtain ⟨h1, h2, h3, h4, ⟨runId, hrun, h5⟩, h6, h7, h8, h9, h10, h11, h12⟩ := hparts
    exact ⟨h1, h2, h3, h4, runId, hrun, h5, ⟨⟨h6, h7⟩, commitsDiffer_eq_false.mpr h8⟩, h9, h10,
      h11, h12⟩

/-- What `validate` asks of a record and its checkpoint. -/
structure ValidResume (tools : ResumeTools) (record : StoredJobV1)
    (resume : GithubJobResumeV1) : Prop where
  encode : resume.encode tools = .ok ()
  evidenceBound : resume.manifests = [] ↔ resume.compileEvidence = none
  verifiedState : resume.manifests ≠ [] → verifiedArtifactState resume.state = true
  signedCompletion : record.request.signing.mode = .manualDevelopment →
    verifiedArtifactState resume.state = true → resume.signedCleanupEvidence.isSome
  signedState : resume.signedCleanupEvidence.isSome → verifiedArtifactState resume.state = true
  signedEvidence : ∀ evidence, resume.signedCleanupEvidence = some evidence →
    evidence.validateForResume tools resume = .ok ()
  identity : ResumeIdentity tools record resume
  artifacts : validateGithubArtifactProjection record resume = .ok ()
  owner : resume.provider = githubProviderId ∧ record.provider.provider = githubProviderId
  same : ∃ runId, githubResumeProviderRunId resume = .ok runId ∧
    record.resumeDiffers resume runId = false

/-- The checks of a checkpoint against its record. -/
theorem validResume_iff :
    record.validateResume tools resume = .ok () ↔ ValidResume tools record resume := by
  have hbound : ((resume.manifests == []) != resume.compileEvidence.isNone) = false ↔
      (resume.manifests = [] ↔ resume.compileEvidence = none) := by
    rw [bne_eq_false_iff_eq, Bool.eq_iff_iff, beq_iff_eq, Option.isNone_iff_eq_none]
  unfold StoredJobV1.validateResume
  rw [bind_eq_ok]
  simp only [check_bind_eq_ok, mapError_eq_ok, rejectIf_eq_ok, hbound, resumeIdentity_iff,
    forSome_eq_ok, Bool.and_eq_false_imp, Bool.and_eq_true, Bool.or_eq_false_iff,
    bne_eq_false_iff_eq, bne_iff_ne, Bool.not_eq_false', decide_eq_true_eq,
    Option.isNone_eq_false_iff, and_imp]
  constructor
  · intro hparts
    obtain ⟨runId, hrun, h1, _, h3, h4, h5, h6, h7, h8, h9, h10, h11⟩ := hparts
    exact ⟨h1, h3, h4, h5, h6, h7, h8, h9, h10, runId, hrun, h11⟩
  · intro hparts
    obtain ⟨h1, h3, h4, h5, h6, h7, h8, h9, h10, runId, hrun, h11⟩ := hparts
    exact ⟨runId, hrun, h1, h8.boundary, h3, h4, h5, h6, h7, h8, h9, h10, h11⟩

/-- The boundary of a checked publication is armed or unarmed. -/
theorem boundary_armed_or_unarmed (h : validateGithubPublicationBoundary resume = .ok ()) :
    resume.publicationBoundaryIsUnarmed = true ∨ resume.publicationBoundaryIsArmed = true := by
  simp only [validateGithubPublicationBoundary, check_bind_eq_ok, rejectIf_eq_ok,
    Bool.or_eq_false_iff, Bool.not_eq_false', Bool.or_eq_true, Bool.and_eq_true] at h
  simp only [GithubJobResumeV1.publicationBoundaryIsUnarmed,
    GithubJobResumeV1.publicationBoundaryIsArmed, publicationQuiescenceDeadline,
    Bool.and_eq_true, Bool.or_eq_true]
  cases h.2.1.1.1.1.1.1 with
  | inl harmed =>
    obtain ⟨⟨⟨hstarted, hcreated⟩, hobserved⟩, hdeadline⟩ := harmed
    exact Or.inr ⟨⟨⟨hcreated, hstarted⟩, hobserved⟩, hdeadline⟩
  | inr hunarmed => exact Or.inl hunarmed

theorem leaseScope_of_boundary (h : validateGithubPublicationBoundary resume = .ok ()) :
    ∀ scope, resume.publicationLeaseScopeSha256 = some scope → isLowerSha256 scope = true := by
  simp only [validateGithubPublicationBoundary, check_bind_eq_ok, forSome_eq_ok] at h
  intro scope hscope
  simpa [validateSha256] using h.1 scope hscope

/-- A bound dispatch is uncertain exactly as long as it has no receipt. -/
theorem uncertain_of_trigger (h : resume.validateTriggerBinding tools = .ok ()) :
    ∀ dispatch, resume.workflowDispatch = some dispatch →
      dispatch.uncertain = dispatch.receipt.isNone := by
  intro dispatch hdispatch
  simp only [GithubJobResumeV1.validateTriggerBinding, hdispatch,
    GithubJobResumeV1.validateDispatchBinding, check_bind_eq_ok, rejectIf_eq_ok,
    Bool.or_eq_false_iff, bne_eq_false_iff_eq] at h
  exact h.1.2

theorem validateDispatchSuccessor_self (h : ResumeIdentity tools record resume) :
    resume.validateDispatchSuccessor resume = .ok () := by
  have hcommits := commitsDiffer_eq_false.mpr h.commits
  have hdispatch : GithubJobResumeV1.validateWorkflowDispatchSuccessor resume.workflowDispatch
      resume.workflowDispatch = .ok () := by
    have hu := uncertain_of_trigger h.trigger
    cases hw : resume.workflowDispatch with
    | none => rfl
    | some dispatch =>
      simp [GithubJobResumeV1.validateWorkflowDispatchSuccessor,
        GithubJobResumeV1.dispatchChanged, hu dispatch hw]
  have hrun : GithubJobResumeV1.validateRunSuccessor resume.run resume.run = .ok () := by
    cases resume.run with
    | none => rfl
    | some run =>
      simp [GithubJobResumeV1.validateRunSuccessor, GithubJobResumeV1.runIdentityChanged,
        check_bind_eq_ok]
  simp only [GithubJobResumeV1.validateDispatchSuccessor, check_bind_eq_ok, rejectIf_eq_ok,
    optionCanBindOnce_self, Bool.not_true, true_and]
  exact ⟨hcommits, hdispatch, hrun⟩

/-- A checkpoint that may replace any checkpoint before it: the part of the successor rules
    that looks at the replacement alone and that the record does not check. -/
structure Replaceable (tools : ResumeTools) (resume : GithubJobResumeV1) : Prop where
  snapshot : ∀ snapshot, resume.gitSnapshot = some snapshot →
    snapshot.validateForRequest tools resume.request = .ok ()
  dispatchAfterSource : resume.publicationIntent = true → ∀ snapshot,
    resume.gitSnapshot = some snapshot → snapshot.phase.allowsDispatch = true
  cleanupProven : resume.state = .cleaned → resume.cleanupProven = true
  sourceClean : resume.state = .cleaning ∨ resume.state = .cleaned ∨
    resume.state = .cleanupFailed → ∀ snapshot, resume.gitSnapshot = some snapshot →
    snapshot.phase.sourceClean = true

section

variable (hvalid : ValidRecord tools record) (hresume : record.providerResume = some resume)

include hvalid hresume

/-- Compile evidence of a valid record fits its checkpoint. -/
theorem compileEvidence_of_valid :
    ∀ evidence, resume.compileEvidence = some evidence →
      validateGithubCompilePhaseEvidence tools evidence resume.request resume.jobId = .ok () := by
  intro evidence hevidence
  obtain ⟨runId, -, hsame⟩ := (validResume_iff.mp (hvalid.resume resume hresume)).same
  simp only [StoredJobV1.resumeDiffers, Bool.or_eq_false_iff, bne_eq_false_iff_eq] at hsame
  obtain ⟨⟨⟨⟨⟨⟨⟨⟨_, hrequest⟩, _⟩, _⟩, _⟩, hjob⟩, _⟩, hcompile⟩, _⟩ := hsame
  have hchecked := hvalid.compileEvidence evidence (hcompile.trans hevidence)
  rw [StoredJobV1.validateCompileEvidence, hjob, ← hrequest] at hchecked
  exact mapError_eq_ok.mp hchecked

/-- The checks of a checkpoint that replaces itself. -/
theorem validateReplacement_iff :
    resume.validateReplacement tools = .ok () ↔
      (resume.state = .cleaned → resume.cleanupProven = true) ∧
      (resume.state = .cleaning ∨ resume.state = .cleaned ∨ resume.state = .cleanupFailed →
        ∀ snapshot, resume.gitSnapshot = some snapshot → snapshot.phase.sourceClean = true) := by
  have hcompile := compileEvidence_of_valid hvalid hresume
  have hsigned := (validResume_iff.mp (hvalid.resume resume hresume)).signedEvidence
  simp only [GithubJobResumeV1.validateReplacement, check_bind_eq_ok, forSome_eq_ok,
    rejectIf_eq_ok, Bool.and_eq_false_imp, Option.any_eq_false, Bool.not_eq_false',
    decide_eq_true_eq, Bool.or_eq_true, or_assoc]
  constructor
  · intro hparts
    obtain ⟨_, _, hproven, hclean⟩ := hparts
    exact ⟨hproven, hclean⟩
  · intro hparts
    obtain ⟨hproven, hclean⟩ := hparts
    exact ⟨hcompile, hsigned, hproven, hclean⟩

/-- A checkpoint is its own successor exactly when it is `Replaceable`. -/
theorem validateSuccessor_self_iff :
    resume.validateSuccessor tools resume = .ok () ↔ Replaceable tools resume := by
  have hchecked := validResume_iff.mp (hvalid.resume resume hresume)
  have hboundary := hchecked.identity.boundary
  rw [resumeStep_iff]
  constructor
  · intro h
    obtain ⟨hproven, hclean⟩ := (validateReplacement_iff hvalid hresume).mp h.replacement
    exact ⟨validateSnapshotSuccessor_self.mp h.snapshot, h.dispatchAfterSource, hproven, hclean⟩
  · intro h
    have hadvance : resume.publicationBoundaryCanAdvance resume = true := by
      have harmed := boundary_armed_or_unarmed hboundary
      simp [GithubJobResumeV1.publicationBoundaryCanAdvance, harmed]
    exact {
      identity := identityChanged_self resume (leaseScope_of_boundary hboundary)
      snapshot := validateSnapshotSuccessor_self.mpr h.snapshot
      dispatchAfterSource := h.dispatchAfterSource
      boundary := hadvance
      state := jobStateCanReach_self resume.state
      compileEvidence := optionCanBindOnce_self _
      signedCleanupEvidence := optionCanBindOnce_self _
      replacement := (validateReplacement_iff hvalid hresume).mpr ⟨h.cleanupProven, h.sourceClean⟩
      dispatch := validateDispatchSuccessor_self hchecked.identity
      progress := validateProgressSuccessor_self resume }

end

end RustFerry.JobStore
