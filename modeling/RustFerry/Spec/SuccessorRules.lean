import RustFerry.Native.StoredJob

/-!
# What the successor rules of the job store ask for

The checks of `validate_successor` as relations between two revisions of a job: its
identity, what is bound once, the lifecycle step, the terminal facts and the
artifacts.
-/

namespace RustFerry.JobStore

open Remote Github Except

variable {previous next : StoredJobV1}

/-! ## Bound at most once -/

/-- There is nothing to show of the value of an option without one. -/
theorem forall_of_eq_none {α : Type} {a : Option α} {P : α → Prop} (h : a = none) :
    ∀ x, a = some x → P x := by
  intro x hx
  exact nomatch h.symm.trans hx

/-- What is bound stays bound to the same value. -/
def BoundOnce {α : Type} (a b : Option α) : Prop := ∀ x, a = some x → b = some x

theorem absurd_of_eq_some {α : Type} {a : Option α} {P : Prop} (x : α) (h : a = some x)
    (hn : a = none) : P :=
  nomatch h.symm.trans hn

namespace BoundOnce

variable {α : Type} {a b c : Option α}

theorem refl (a : Option α) : BoundOnce a a := fun _ h => h

theorem trans (hab : BoundOnce a b) (hbc : BoundOnce b c) : BoundOnce a c :=
  fun x hx => hbc x (hab x hx)

/-- Nothing may become anything. -/
theorem of_eq_none (h : a = none) : BoundOnce a b := by
  intro x hx
  exact nomatch h.symm.trans hx

theorem eq_of_isSome (h : BoundOnce a b) (ha : a.isSome) : b = a := by
  obtain ⟨x, hx⟩ := Option.isSome_iff_exists.mp ha
  rw [h x hx, hx]

end BoundOnce

/-- The check of the source. -/
theorem optionCanBeBoundOnce_iff {α : Type} [DecidableEq α] {a b : Option α} :
    optionCanBeBoundOnce a b = true ↔ BoundOnce a b := by
  cases a with
  | none => simp [optionCanBeBoundOnce, BoundOnce]
  | some x =>
    cases b with
    | none => simp [optionCanBeBoundOnce, BoundOnce]
    | some y =>
      simp only [optionCanBeBoundOnce, BoundOnce, beq_iff_eq, Option.some.injEq, forall_eq']
      exact eq_comm

/-! ## Identity -/

/-- The fields that a job never changes. -/
structure SameJob (a b : StoredJobV1) : Prop where
  localJobId : a.localJobId = b.localJobId
  project : a.project = b.project
  provider : a.provider = b.provider
  operationId : a.operationId = b.operationId
  request : a.request = b.request
  requestSha256 : a.requestSha256 = b.requestSha256
  semanticRetrySha256 : a.semanticRetrySha256 = b.semanticRetrySha256
  source : a.source = b.source
  target : a.target = b.target
  profile : a.profile = b.profile
  signingMode : a.signingMode = b.signingMode
  createdAtMs : a.createdAtMs = b.createdAtMs
  attempt : a.retryLineage.attempt = b.retryLineage.attempt
  parentJobId : a.retryLineage.parentJobId = b.retryLineage.parentJobId

theorem jobIdentityChanged_eq_false {a b : StoredJobV1} :
    jobIdentityChanged a b = false ↔ SameJob a b := by
  simp only [jobIdentityChanged, Bool.or_eq_false_iff, decide_eq_false_iff_not, not_not, ne_eq,
    bne_eq_false_iff_eq]
  constructor
  · intro hparts
    obtain ⟨⟨⟨⟨⟨⟨⟨⟨⟨⟨⟨⟨⟨h1, h2⟩, h3⟩, h4⟩, h5⟩, h6⟩, h7⟩, h8⟩, h9⟩, h10⟩, h11⟩, h12⟩, h13⟩, h14⟩ := hparts
    exact ⟨h1, h2, h3, h4, h5, h6, h7, h8, h9, h10, h11, h12, h13, h14⟩
  · intro hparts
    obtain ⟨h1, h2, h3, h4, h5, h6, h7, h8, h9, h10, h11, h12, h13, h14⟩ := hparts
    exact ⟨⟨⟨⟨⟨⟨⟨⟨⟨⟨⟨⟨⟨h1, h2⟩, h3⟩, h4⟩, h5⟩, h6⟩, h7⟩, h8⟩, h9⟩, h10⟩, h11⟩, h12⟩, h13⟩, h14⟩

theorem SameJob.trans {a b c : StoredJobV1} (hab : SameJob a b) (hbc : SameJob b c) :
    SameJob a c where
  localJobId := hab.localJobId.trans hbc.localJobId
  project := hab.project.trans hbc.project
  provider := hab.provider.trans hbc.provider
  operationId := hab.operationId.trans hbc.operationId
  request := hab.request.trans hbc.request
  requestSha256 := hab.requestSha256.trans hbc.requestSha256
  semanticRetrySha256 := hab.semanticRetrySha256.trans hbc.semanticRetrySha256
  source := hab.source.trans hbc.source
  target := hab.target.trans hbc.target
  profile := hab.profile.trans hbc.profile
  signingMode := hab.signingMode.trans hbc.signingMode
  createdAtMs := hab.createdAtMs.trans hbc.createdAtMs
  attempt := hab.attempt.trans hbc.attempt
  parentJobId := hab.parentJobId.trans hbc.parentJobId

/-! ## Lifecycle steps -/

/-- The phase that an overlay entered from a revision remembers. -/
def rememberedPhase (previous : StoredJobV1) : Option StoredJobState :=
  if previous.state = .unknown then previous.lastConfirmedState
  else some (effectiveLocalPhase previous)

/-- The lifecycle part of a step. -/
structure StateStep (previous next : StoredJobV1) : Prop where
  transition : previous.state ≠ .unknown → previous.state.canTransitionTo next.state = true ∨
    cleanupFailureHasExactRecovery previous next = true
  toUnknown : next.state = .unknown → next.lastConfirmedState = rememberedPhase previous
  unknownOutcome : next.state = .unknown → next.terminalOutcome = previous.terminalOutcome
  fromUnknown : previous.state = .unknown → next.state ≠ .unknown →
    ∃ confirmed, previous.lastConfirmedState = some confirmed ∧
      confirmed.canTransitionTo next.state = true
  toCleanup : next.state = .cleanupPending ∨ next.state = .cleanupFailed →
    next.lastConfirmedState = some (effectiveLocalPhase previous)
  terminalFromUnknown : previous.state = .unknown → next.state = .succeeded ∨
    next.state = .failed ∨ next.state = .cancelled ∨ next.state = .expired →
    next.lastConfirmedState = some next.state

theorem validateStateSuccessor_eq_ok :
    validateStateSuccessor previous next = .ok () ↔ StateStep previous next := by
  simp only [validateStateSuccessor, check_bind_eq_ok, rejectIf_eq_ok, Bool.and_eq_false_imp,
    Bool.and_eq_true, Bool.not_eq_true', Bool.not_eq_false', decide_eq_true_eq,
    decide_eq_false_iff_not, not_not, ne_eq, Bool.or_eq_true, Option.any_eq_true, and_imp]
  constructor
  · intro hparts
    obtain ⟨h1, h2, h3, h4, h5, h6⟩ := hparts
    refine ⟨?_, h2, h3, h4, h5, ?_⟩
    · intro hne
      cases ht : previous.state.canTransitionTo next.state with
      | true => exact Or.inl rfl
      | false => exact Or.inr (h1 hne ht)
    · intro hu hs
      apply h6 hu
      rcases hs with hs | hs | hs | hs <;> simp [hs]
  · intro hparts
    obtain ⟨h1, h2, h3, h4, h5, h6⟩ := hparts
    refine ⟨?_, h2, h3, h4, h5, ?_⟩
    · intro hne ht
      rcases h1 hne with h | h
      · cases h.symm.trans ht
      · exact h
    · intro hu hs
      apply h6 hu
      rcases hs with ((hs | hs) | hs) | hs <;> simp [hs]

/-- What the terminal facts of a step rest on. -/
structure TerminalStep (previous next : StoredJobV1) : Prop where
  outcome : BoundOnce previous.terminalOutcome next.terminalOutcome
  newOutcome : previous.terminalOutcome ≠ next.terminalOutcome →
    next.terminalOutcome = some .succeeded ∨ next.terminalOutcome = some .cancelled →
    previous.providerResume ≠ next.providerResume
  newCancellation : previous.cancellationStatus ≠ .confirmed →
    next.cancellationStatus = .confirmed → previous.providerResume ≠ next.providerResume
  newCleanup : previous.cleanupStatus ≠ next.cleanupStatus →
    next.cleanupStatus = .confirmed ∨ next.cleanupStatus = .failed →
    previous.providerResume ≠ next.providerResume
  failure : failureCanTransition previous next = true
  cleanup : previous.cleanupStatus.canTransitionTo next.cleanupStatus = true
  cancellation : previous.cancellationStatus.canTransitionTo next.cancellationStatus = true

/-- The rules for terminal facts. -/
theorem validateTerminalSuccessor_eq_ok :
    validateTerminalSuccessor previous next = .ok () ↔ TerminalStep previous next := by
  have houtcome : Option.any (fun outcome => decide (next.terminalOutcome ≠ some outcome))
      previous.terminalOutcome = false ↔
      BoundOnce previous.terminalOutcome next.terminalOutcome := by
    simp only [Option.any_eq_false, BoundOnce, decide_eq_false_iff_not, ne_eq, not_not]
  simp only [validateTerminalSuccessor, check_bind_eq_ok, rejectIf_eq_ok, houtcome,
    Bool.and_eq_false_imp, Bool.and_eq_true, Bool.not_eq_false', decide_eq_true_eq, ne_eq,
    Bool.or_eq_true, Bool.or_eq_false_iff, and_imp]
  constructor
  · intro hparts
    obtain ⟨h1, h2, h3, h4, h5, h6, h7⟩ := hparts
    exact ⟨h1, h2, h3, h4, h5, h6, h7⟩
  · intro hparts
    obtain ⟨h1, h2, h3, h4, h5, h6, h7⟩ := hparts
    exact ⟨h1, h2, h3, h4, h5, h6, h7⟩

/-! ## Artifacts -/

/-- What an artifact keeps from one revision to a later one. -/
structure ArtifactKept (previous next : StoredArtifactV1) : Prop where
  record : previous.record = next.record
  downloadDestination : BoundOnce previous.downloadDestination next.downloadDestination
  downloadParentIdentity : BoundOnce previous.downloadParentIdentity next.downloadParentIdentity
  localPath : BoundOnce previous.localPath next.localPath
  localFileIdentity : BoundOnce previous.localFileIdentity next.localFileIdentity
  locallyValidated : previous.locallyValidated = true → next.locallyValidated = true

theorem ArtifactKept.refl (a : StoredArtifactV1) : ArtifactKept a a :=
  ⟨rfl, .refl _, .refl _, .refl _, .refl _, id⟩

theorem ArtifactKept.trans {a b c : StoredArtifactV1} (hab : ArtifactKept a b)
    (hbc : ArtifactKept b c) : ArtifactKept a c where
  record := hab.record.trans hbc.record
  downloadDestination := hab.downloadDestination.trans hbc.downloadDestination
  downloadParentIdentity := hab.downloadParentIdentity.trans hbc.downloadParentIdentity
  localPath := hab.localPath.trans hbc.localPath
  localFileIdentity := hab.localFileIdentity.trans hbc.localFileIdentity
  locallyValidated := fun h => hbc.locallyValidated (hab.locallyValidated h)

/-- The step of one artifact: what it keeps, and what a new publication or validation needs. -/
structure ArtifactStep (previous next : StoredArtifactV1) : Prop extends
    ArtifactKept previous next where
  publication : previous.localPath = none → next.localPath.isSome →
    previous.downloadDestination.isSome ∧ previous.downloadParentIdentity.isSome ∧
      previous.downloadDestination = next.downloadDestination ∧
      previous.downloadParentIdentity = next.downloadParentIdentity
  validation : previous.locallyValidated = false → next.locallyValidated = true →
    previous.localPath.isSome ∧ previous.localFileIdentity.isSome

/-- The check of the source. -/
theorem artifactRegressed_eq_false {previous next : StoredArtifactV1} :
    artifactRegressed previous next = false ↔ ArtifactKept previous next := by
  simp only [artifactRegressed, Bool.or_eq_false_iff, decide_eq_false_iff_not, not_not, ne_eq,
    Bool.not_eq_false', optionCanBeBoundOnce_iff, Bool.and_eq_false_imp]
  constructor
  · intro hparts
    obtain ⟨⟨⟨⟨⟨h1, h2⟩, h3⟩, h4⟩, h5⟩, h6⟩ := hparts
    exact ⟨h1, h2, h3, h4, h5, h6⟩
  · intro hparts
    obtain ⟨h1, h2, h3, h4, h5, h6⟩ := hparts
    exact ⟨⟨⟨⟨⟨h1, h2⟩, h3⟩, h4⟩, h5⟩, h6⟩

/-- The rules for one artifact. -/
theorem validateArtifactNext_eq_ok {previous next : StoredArtifactV1} :
    validateArtifactNext previous next = .ok () ↔ ArtifactStep previous next := by
  simp only [validateArtifactNext, check_bind_eq_ok, rejectIf_eq_ok, artifactRegressed_eq_false,
    Bool.and_eq_false_imp, Bool.and_eq_true, Option.isNone_iff_eq_none, Bool.not_eq_true',
    Bool.or_eq_false_iff, bne_eq_false_iff_eq, and_imp, Option.isNone_eq_false_iff]
  constructor
  · intro hparts
    obtain ⟨h1, h2, h3⟩ := hparts
    refine ⟨h1, ?_, h3⟩
    intro hp hn
    obtain ⟨⟨⟨ha, hb⟩, hc⟩, hd⟩ := h2 hp hn
    exact ⟨ha, hb, hc, hd⟩
  · intro hparts
    obtain ⟨h1, h2, h3⟩ := hparts
    refine ⟨h1, ?_, h3⟩
    intro hp hn
    obtain ⟨ha, hb, hc, hd⟩ := h2 hp hn
    exact ⟨⟨⟨ha, hb⟩, hc⟩, hd⟩

/-- Nothing of an artifact has been published locally. -/
def StoredArtifactV1.Unpublished (artifact : StoredArtifactV1) : Prop :=
  artifact.localPath = none ∧ artifact.localFileIdentity = none ∧
    artifact.locallyValidated = false

/-- The step of all artifacts: each one is found again, and a new one has nothing local. -/
structure ArtifactsStep (previous next : List StoredArtifactV1) : Prop where
  found : ∀ artifact ∈ previous, ∃ candidate,
    findArtifact next artifact.record.artifactId = some candidate ∧
      ArtifactStep artifact candidate
  added : ∀ artifact ∈ next,
    (∀ old ∈ previous, old.record.artifactId ≠ artifact.record.artifactId) →
    artifact.Unpublished

/-- The rules for all artifacts. -/
theorem validateArtifactSuccessor_eq_ok {previous next : List StoredArtifactV1} :
    validateArtifactSuccessor previous next = .ok () ↔ ArtifactsStep previous next := by
  simp only [validateArtifactSuccessor, check_bind_eq_ok, rejectIf_eq_ok, forM_eq_ok,
    List.any_eq_false, Bool.and_eq_true, Bool.not_eq_true', List.any_eq_false, beq_iff_eq,
    not_and, Bool.or_eq_true, not_or, Option.isSome_iff_ne_none, ne_eq, not_not,
    Bool.not_eq_true]
  constructor
  · intro hparts
    obtain ⟨hfound, hadded⟩ := hparts
    refine ⟨?_, ?_⟩
    · intro artifact hmem
      have h := hfound artifact hmem
      cases hf : findArtifact next artifact.record.artifactId with
      | none =>
        rw [hf] at h
        cases h
      | some candidate =>
        rw [hf] at h
        exact ⟨candidate, rfl, validateArtifactNext_eq_ok.mp h⟩
    · intro artifact hmem hnew
      obtain ⟨⟨h1, h2⟩, h3⟩ := hadded artifact hmem hnew
      exact ⟨h1, h2, h3⟩
  · intro hparts
    obtain ⟨hfound, hadded⟩ := hparts
    refine ⟨?_, ?_⟩
    · intro artifact hmem
      obtain ⟨candidate, hf, hstep⟩ := hfound artifact hmem
      rw [hf]
      exact validateArtifactNext_eq_ok.mpr hstep
    · intro artifact hmem hnew
      obtain ⟨h1, h2, h3⟩ := hadded artifact hmem hnew
      exact ⟨⟨h1, h2⟩, h3⟩

/-! ## The whole step -/

/-- What `validate_successor` asks of two revisions. -/
structure Successor (tools : ResumeTools) (previous next : StoredJobV1) : Prop where
  sameJob : SameJob previous next
  updatedAtMs : previous.updatedAtMs ≤ next.updatedAtMs
  providerJobId : BoundOnce previous.providerJobId next.providerJobId
  providerRunId : BoundOnce previous.providerRunId next.providerRunId
  submittedAtMs : BoundOnce previous.submittedAtMs next.submittedAtMs
  compileEvidence : BoundOnce previous.compileEvidence next.compileEvidence
  signedCleanupEvidence : BoundOnce previous.signedCleanupEvidence next.signedCleanupEvidence
  logLocation : BoundOnce previous.logLocation next.logLocation
  state : StateStep previous next
  terminal : TerminalStep previous next
  children : previous.retryLineage.childJobIds <+: next.retryLineage.childJobIds
  artifacts : ArtifactsStep previous.artifacts next.artifacts
  resume : validateResumeSuccessor tools previous next = .ok ()

/-- Two revisions pass the checks exactly when `Successor` holds of them. -/
theorem validateSuccessor_eq_ok {tools : ResumeTools} :
    validateSuccessor tools previous next = .ok () ↔ Successor tools previous next := by
  simp only [validateSuccessor, check_bind_eq_ok, rejectIf_eq_ok, jobIdentityChanged_eq_false,
    Bool.or_eq_false_iff, Bool.not_eq_false', optionCanBeBoundOnce_iff, decide_eq_false_iff_not,
    UInt64.not_lt, bne_eq_false_iff_eq, ← List.prefix_iff_eq_take, validateStateSuccessor_eq_ok,
    validateTerminalSuccessor_eq_ok, validateArtifactSuccessor_eq_ok]
  constructor
  · intro hparts
    obtain ⟨h1, h2, ⟨⟨h3, h4⟩, h5⟩, ⟨h6, h7⟩, h8, h9, h10, h11, h12, h13⟩ := hparts
    exact ⟨h1, h2, h3, h4, h5, h6, h7, h8, h9, h10, h11, h12, h13⟩
  · intro hparts
    obtain ⟨h1, h2, h3, h4, h5, h6, h7, h8, h9, h10, h11, h12, h13⟩ := hparts
    exact ⟨h1, h2, ⟨⟨h3, h4⟩, h5⟩, ⟨h6, h7⟩, h8, h9, h10, h11, h12, h13⟩

/-- A step never removes the checkpoint, and a changed one is the projection of the step. -/
theorem validateResumeSuccessor_eq_ok {tools : ResumeTools} :
    validateResumeSuccessor tools previous next = .ok () ↔
      (∀ old, previous.providerResume = some old → ∃ new, next.providerResume = some new ∧
        old.validateSuccessor tools new = .ok ()) ∧
      ∀ new, next.providerResume = some new → previous.providerResume ≠ some new →
        projectGithubResume previous new = .ok next := by
  have hproject : ∀ resume, requireProjection previous next resume = .ok () ↔
      projectGithubResume previous resume = .ok next := by
    intro resume
    rw [requireProjection, bind_eq_ok]
    simp only [rejectIf_eq_ok, decide_eq_false_iff_not, ne_eq, not_not]
    constructor
    · intro hparts
      obtain ⟨projected, h, heq⟩ := hparts
      rw [h, heq]
    · intro h
      exact ⟨next, h, rfl⟩
  cases hp : previous.providerResume with
  | none =>
    cases hn : next.providerResume with
    | none => simp [validateResumeSuccessor, hp, hn]
    | some new => simp [validateResumeSuccessor, hp, hn, hproject]
  | some old =>
    cases hn : next.providerResume with
    | none => simp [validateResumeSuccessor, hp, hn]
    | some new =>
      simp only [validateResumeSuccessor, hp, hn, check_bind_eq_ok, mapError_eq_ok,
        Option.some.injEq, forall_eq', exists_eq_left', ne_eq]
      by_cases heq : old = new
      · simp [heq]
      · simp [heq, hproject]

end RustFerry.JobStore
