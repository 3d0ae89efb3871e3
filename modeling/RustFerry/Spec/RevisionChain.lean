import Mathlib.Data.List.Chain
import RustFerry.Spec.ResumeRules

/-!
# Revision chains

A revision chain of a job is what the store accepts: an initial revision, and then
revisions that are valid and pass the successor rules. Over a whole chain nothing that
was bound is lost, and the phase that an overlay remembers is a lower bound for every
later phase as long as no step falls behind it.
-/

namespace RustFerry.JobStore

open Remote Github Except

variable {previous : StoredJobV1} {next : StoredJobV1}

section

variable {chain : List StoredJobV1} {tools : ResumeTools} {previous next record : StoredJobV1}

/-! ## Accepted chains -/

/-- A revision that the store accepts after another one. -/
def AcceptedStep (tools : ResumeTools) (previous next : StoredJobV1) : Prop :=
  next.validate tools = .ok () ∧ validateSuccessor tools previous next = .ok ()

/-- A chain of revisions that the store accepts. -/
structure AcceptedChain (tools : ResumeTools) (chain : List StoredJobV1) : Prop where
  head : ∀ record, chain.head? = some record →
    record.validate tools = .ok () ∧ validateInitialJobRevision record = .ok ()
  steps : chain.IsChain (AcceptedStep tools)

/-- An accepted step is one of the rules. -/
theorem AcceptedStep.successor (h : AcceptedStep tools previous next) :
    Successor tools previous next :=
  validateSuccessor_eq_ok.mp h.2

/-- A property of initial revisions that every step carries over. -/
theorem AcceptedChain.forall_of_step (h : AcceptedChain tools chain) {P : StoredJobV1 → Prop}
    (hinitial : ∀ record, record.validate tools = .ok () → validateInitialJobRevision record = .ok
      () → P record)
    (hstep : ∀ previous next, AcceptedStep tools previous next → P previous → P next) :
    ∀ record ∈ chain, P record := by
  apply h.steps.induction P chain
  · intro previous next hs hp
    exact hstep previous next hs hp
  · intro hne
    obtain ⟨hvalid, hinit⟩ := h.head (chain.head hne) (List.head?_eq_some_head hne)
    exact hinitial _ hvalid hinit

/-- All records of a chain are valid. -/
theorem AcceptedChain.valid (h : AcceptedChain tools chain) :
    ∀ record ∈ chain, record.validate tools = .ok () :=
  h.forall_of_step (fun _ hvalid _ => hvalid) fun _ _ hstep _ => hstep.1

/-! ## What is never forgotten -/

/-- What a later revision keeps of an earlier one. -/
structure NeverForgets (earlier later : StoredJobV1) : Prop where
  sameJob : SameJob earlier later
  updatedAtMs : earlier.updatedAtMs ≤ later.updatedAtMs
  providerJobId : BoundOnce earlier.providerJobId later.providerJobId
  providerRunId : BoundOnce earlier.providerRunId later.providerRunId
  submittedAtMs : BoundOnce earlier.submittedAtMs later.submittedAtMs
  compileEvidence : BoundOnce earlier.compileEvidence later.compileEvidence
  signedCleanupEvidence : BoundOnce earlier.signedCleanupEvidence later.signedCleanupEvidence
  logLocation : BoundOnce earlier.logLocation later.logLocation
  artifacts : ∀ artifact ∈ earlier.artifacts,
    ∃ kept ∈ later.artifacts, ArtifactKept artifact kept
  terminalOutcome : BoundOnce earlier.terminalOutcome later.terminalOutcome
  cleanupStatus : earlier.cleanupStatus = .confirmed → later.cleanupStatus = .confirmed
  cancellationStatus : earlier.cancellationStatus = .confirmed →
    later.cancellationStatus = .confirmed
  childJobIds : earlier.retryLineage.childJobIds <+: later.retryLineage.childJobIds

theorem NeverForgets.trans {a b c : StoredJobV1} (hab : NeverForgets a b)
    (hbc : NeverForgets b c) : NeverForgets a c where
  sameJob := hab.sameJob.trans hbc.sameJob
  updatedAtMs := UInt64.le_trans hab.updatedAtMs hbc.updatedAtMs
  providerJobId := hab.providerJobId.trans hbc.providerJobId
  providerRunId := hab.providerRunId.trans hbc.providerRunId
  submittedAtMs := hab.submittedAtMs.trans hbc.submittedAtMs
  compileEvidence := hab.compileEvidence.trans hbc.compileEvidence
  signedCleanupEvidence := hab.signedCleanupEvidence.trans hbc.signedCleanupEvidence
  logLocation := hab.logLocation.trans hbc.logLocation
  artifacts := by
    intro artifact hmem
    obtain ⟨kept, hkept, hk⟩ := hab.artifacts artifact hmem
    obtain ⟨last, hlast, hl⟩ := hbc.artifacts kept hkept
    exact ⟨last, hlast, hk.trans hl⟩
  terminalOutcome := hab.terminalOutcome.trans hbc.terminalOutcome
  cleanupStatus := fun h => hbc.cleanupStatus (hab.cleanupStatus h)
  cancellationStatus := fun h => hbc.cancellationStatus (hab.cancellationStatus h)
  childJobIds := hab.childJobIds.trans hbc.childJobIds

instance : Trans NeverForgets NeverForgets NeverForgets := ⟨NeverForgets.trans⟩

theorem cleanup_confirmed_stays {a b : StoredCleanupStatus} (h : a.canTransitionTo b = true)
    (ha : a = .confirmed) : b = .confirmed := by
  subst ha
  cases b <;> first | rfl | cases h

theorem cancellation_confirmed_stays {a b : StoredCancellationStatus}
    (h : a.canTransitionTo b = true) (ha : a = .confirmed) : b = .confirmed := by
  subst ha
  cases b <;> first | rfl | cases h

theorem mem_of_findArtifact {artifacts : List StoredArtifactV1} {artifactId : String}
    {artifact : StoredArtifactV1} (h : findArtifact artifacts artifactId = some artifact) :
    artifact ∈ artifacts ∧ artifact.record.artifactId = artifactId := by
  have hp := List.find?_some h
  exact ⟨List.mem_of_find?_eq_some h, by simpa using hp⟩

/-- A successor forgets nothing. -/
theorem Successor.neverForgets (h : Successor tools previous next) :
    NeverForgets previous next where
  sameJob := h.sameJob
  updatedAtMs := h.updatedAtMs
  providerJobId := h.providerJobId
  providerRunId := h.providerRunId
  submittedAtMs := h.submittedAtMs
  compileEvidence := h.compileEvidence
  signedCleanupEvidence := h.signedCleanupEvidence
  logLocation := h.logLocation
  artifacts := by
    intro artifact hmem
    obtain ⟨candidate, hfound, hstep⟩ := h.artifacts.found artifact hmem
    exact ⟨candidate, (mem_of_findArtifact hfound).1, hstep.toArtifactKept⟩
  terminalOutcome := h.terminal.outcome
  cleanupStatus := cleanup_confirmed_stays h.terminal.cleanup
  cancellationStatus := cancellation_confirmed_stays h.terminal.cancellation
  childJobIds := h.children

/-- Along a chain nothing is forgotten. -/
theorem AcceptedChain.neverForgets {tools : ResumeTools} {chain : List StoredJobV1}
    (h : AcceptedChain tools chain) : chain.Pairwise NeverForgets := by
  rw [← List.isChain_iff_pairwise]
  apply h.steps.imp
  intro previous next hstep
  exact hstep.successor.neverForgets

/-! ## Phases -/

/-- How far a job has come: a cancellation is later than all work, and the four ends are
    equally far. The overlays are no phases. -/
def StoredJobState.lifecyclePhase : StoredJobState → Nat
  | .created => 0
  | .sourcePreparing => 1
  | .sourceReady => 2
  | .submitting => 3
  | .queued => 4
  | .running => 5
  | .compileRunning => 6
  | .signingWaiting => 7
  | .signingRunning => 8
  | .artifactUploading => 9
  | .artifactReady => 10
  | .downloading => 11
  | .downloaded => 12
  | .validating => 13
  | .cancellationRequested => 14
  | .succeeded | .failed | .cancelled | .expired => 15
  | .cleanupPending | .cleanupFailed | .unknown => 0

/-- Outside the overlays the lifecycle only goes forward. -/
theorem lifecyclePhase_le_of_canTransitionTo {a b : StoredJobState}
    (h : a.canTransitionTo b = true) (ha : a.isOverlay = false) (hb : b.isOverlay = false) :
    a.lifecyclePhase ≤ b.lifecyclePhase := by
  revert ha hb
  cases a <;> cases b <;> cases h <;> decide

theorem lifecyclePhase_le_failed (a : StoredJobState) :
    a.lifecyclePhase ≤ StoredJobState.failed.lifecyclePhase := by
  cases a <;> decide

/-- An overlay remembers a phase, not another overlay. -/
def RemembersPhase (record : StoredJobV1) : Prop :=
  record.state.isOverlay = true →
    ∃ confirmed, record.lastConfirmedState = some confirmed ∧ confirmed.isOverlay = false

/-- A recoverable failure of the cleanup is one of an overlay or of a failed job. -/
theorem state_of_recoverableCleanupFailure (h : recoverableCleanupFailure record = true) :
    record.state.isOverlay = true ∨ record.state = .failed := by
  unfold recoverableCleanupFailure at h
  cases hf : record.failure with
  | none => simp [hf] at h
  | some failure =>
    cases hs : record.state <;> simp_all [StoredJobState.isOverlay]

/-- The phase of an overlay is the one that it remembers. -/
theorem effectiveLocalPhase_of_overlay {confirmed : StoredJobState}
    (ho : record.state.isOverlay = true) (hc : record.lastConfirmedState = some confirmed)
    (hphase : confirmed.isOverlay = false) : effectiveLocalPhase record = confirmed := by
  simp [effectiveLocalPhase, ho, hc, hphase]

theorem effectiveLocalPhase_of_plain (ho : record.state.isOverlay = false)
    (hr : recoverableCleanupFailure record = false) :
    effectiveLocalPhase record = record.state := by
  simp [effectiveLocalPhase, ho, hr]

/-- Outside the overlays only a failed job has a phase of its own, and no later one. -/
theorem effectiveLocalPhase_le (ho : record.state.isOverlay = false) :
    (effectiveLocalPhase record).lifecyclePhase ≤ record.state.lifecyclePhase := by
  cases hr : recoverableCleanupFailure record with
  | false => rw [effectiveLocalPhase_of_plain ho hr]
  | true =>
    have hfailed : record.state = .failed := by
      simpa [ho] using state_of_recoverableCleanupFailure hr
    rw [hfailed]
    exact lifecyclePhase_le_failed _

/-- The phase of a record that remembers one is no overlay. -/
theorem RemembersPhase.effective (h : RemembersPhase record) :
    (effectiveLocalPhase record).isOverlay = false := by
  cases ho : record.state.isOverlay with
  | true =>
    obtain ⟨confirmed, hc, hphase⟩ := h ho
    rw [effectiveLocalPhase_of_overlay ho hc hphase]
    exact hphase
  | false =>
    unfold effectiveLocalPhase
    cases record.lastConfirmedState with
    | none => simp [ho]
    | some confirmed => cases hc : confirmed.isOverlay <;> split <;> simp_all

/-- What an overlay remembers is the phase of the revision before it. -/
theorem StateStep.remembered (h : StateStep previous next)
    (hp : RemembersPhase previous) (ho : next.state.isOverlay = true) :
    next.lastConfirmedState = some (effectiveLocalPhase previous) := by
  have hoverlay : next.state = .unknown ∨ next.state = .cleanupPending ∨
      next.state = .cleanupFailed := by
    revert ho
    cases next.state <;> decide
  cases hoverlay with
  | inr hcleanup => exact h.toCleanup hcleanup
  | inl hunknown =>
    rw [h.toUnknown hunknown, rememberedPhase]
    by_cases hu : previous.state = .unknown
    · -- from unknown to unknown the remembered phase is handed on
      have hpo : previous.state.isOverlay = true := by rw [hu]; rfl
      obtain ⟨confirmed, hc, hphase⟩ := hp hpo
      rw [if_pos hu, hc, effectiveLocalPhase_of_overlay hpo hc hphase]
    · rw [if_neg hu]

/-- A step remembers the phase. -/
theorem AcceptedStep.remembersPhase (h : AcceptedStep tools previous next)
    (hp : RemembersPhase previous) :
    RemembersPhase next :=
  fun ho => ⟨_, h.successor.state.remembered hp ho, hp.effective⟩

/-- So does every record of a chain. -/
theorem AcceptedChain.remembersPhase {tools : ResumeTools} {chain : List StoredJobV1}
    (h : AcceptedChain tools chain) : ∀ record ∈ chain, RemembersPhase record := by
  apply h.forall_of_step (P := RemembersPhase)
  · intro record _ hinitial
    have hstate : record.state = .sourceReady := by
      simp only [validateInitialJobRevision, rejectIf_eq_ok, Bool.or_eq_false_iff,
        decide_eq_false_iff_not, not_not, ne_eq] at hinitial
      grind
    intro ho
    rw [hstate] at ho
    cases ho
  · intro previous next hstep hp
    exact hstep.remembersPhase hp

/-! ## Steps that keep the phase -/

/-- The states of a job whose artifacts are there and not yet accepted. -/
def StoredJobState.inArtifactPhase : StoredJobState → Bool
  | .artifactReady | .downloading | .downloaded | .validating => true
  | _ => false

/-- A step does not fall behind the phase that its overlay remembers: not when it leaves a
    cleanup overlay for local artifact work, and not when it fails in a way that remembers a
    phase again. -/
structure KeepsPhase (previous next : StoredJobV1) : Prop where
  leaving : previous.state = .cleanupPending ∨ previous.state = .cleanupFailed →
    next.state.inArtifactPhase = true →
    ∀ confirmed, previous.lastConfirmedState = some confirmed →
      confirmed.lifecyclePhase ≤ next.state.lifecyclePhase
  failing : next.state = .failed → recoverableCleanupFailure next = true →
    (effectiveLocalPhase previous).lifecyclePhase ≤ (effectiveLocalPhase next).lifecyclePhase

/-- A later revision outside the overlays is not behind the phase an overlay remembers. -/
def PhaseKept (earlier later : StoredJobV1) : Prop :=
  ∀ confirmed, earlier.state.isOverlay = true → earlier.lastConfirmedState = some confirmed →
    later.state.isOverlay = false → confirmed.lifecyclePhase ≤ later.state.lifecyclePhase

/-- What follows a cleanup overlay, apart from the overlays. -/
theorem cleanup_exit (h : StateStep previous next)
    (hp : previous.state = .cleanupPending ∨ previous.state = .cleanupFailed)
    (ho : next.state.isOverlay = false) :
    next.state.inArtifactPhase = true ∨
      next.state.lifecyclePhase = StoredJobState.failed.lifecyclePhase := by
  have hne : previous.state ≠ .unknown := by
    cases hp with
    | inl hp => rw [hp]; decide
    | inr hp => rw [hp]; decide
  have hexact : cleanupFailureHasExactRecovery previous next = true →
      [StoredJobState.artifactReady, .downloading, .downloaded, .validating, .succeeded, .failed,
        .cancelled, .expired].contains next.state = true := by
    intro hr
    simp only [cleanupFailureHasExactRecovery, Bool.and_eq_true] at hr
    exact hr.1.2
  have hnext := h.transition hne
  generalize next.state = state at *
  cases hnext with
  | inl ht =>
    revert ht ho
    cases hp with
    | inl hp => rw [hp]; cases state <;> decide
    | inr hp => rw [hp]; cases state <;> decide
  | inr hr =>
    have hc := hexact hr
    revert hc ho
    cases state <;> decide

/-- One step: the phase only goes forward. -/
theorem StateStep.phase_le (h : StateStep previous next) (hk : KeepsPhase previous next)
    (hp : RemembersPhase previous) :
    (effectiveLocalPhase previous).lifecyclePhase ≤
      (effectiveLocalPhase next).lifecyclePhase := by
  cases ho : next.state.isOverlay with
  | true =>
    -- an overlay remembers the phase before it
    have hc := h.remembered hp ho
    rw [effectiveLocalPhase_of_overlay ho hc hp.effective]
  | false =>
    cases hr : recoverableCleanupFailure next with
    | true =>
      have hfailed : next.state = .failed := by
        simpa [ho] using state_of_recoverableCleanupFailure hr
      exact hk.failing hfailed hr
    | false =>
      rw [effectiveLocalPhase_of_plain ho hr]
      by_cases hu : previous.state = .unknown
      · have hpo : previous.state.isOverlay = true := by rw [hu]; rfl
        have hne : next.state ≠ .unknown := by
          intro hn
          rw [hn] at ho
          cases ho
        obtain ⟨confirmed, hc, ht⟩ := h.fromUnknown hu hne
        obtain ⟨confirmed', hc', hphase⟩ := hp hpo
        obtain rfl : confirmed = confirmed' := Option.some.inj (hc.symm.trans hc')
        rw [effectiveLocalPhase_of_overlay hpo hc hphase]
        exact lifecyclePhase_le_of_canTransitionTo ht hphase ho
      · by_cases hcleanup : previous.state = .cleanupPending ∨ previous.state = .cleanupFailed
        · have hpo : previous.state.isOverlay = true := by
            cases hcleanup with
            | inl hs => rw [hs]; rfl
            | inr hs => rw [hs]; rfl
          obtain ⟨confirmed, hc, hphase⟩ := hp hpo
          rw [effectiveLocalPhase_of_overlay hpo hc hphase]
          cases cleanup_exit h hcleanup ho with
          | inl hartifact => exact hk.leaving hcleanup hartifact confirmed hc
          | inr hend =>
            rw [hend]
            exact lifecyclePhase_le_failed confirmed
        · have hpo : previous.state.isOverlay = false := by
            revert hu hcleanup
            cases previous.state <;> decide
          have ht : previous.state.canTransitionTo next.state = true := by
            cases h.transition hu with
            | inl ht => exact ht
            | inr hexact =>
              simp only [cleanupFailureHasExactRecovery, Bool.and_eq_true, decide_eq_true_eq]
                at hexact
              exact absurd (Or.inr hexact.1.1.1.1) hcleanup
          calc (effectiveLocalPhase previous).lifecyclePhase
              ≤ previous.state.lifecyclePhase := effectiveLocalPhase_le hpo
            _ ≤ next.state.lifecyclePhase := lifecyclePhase_le_of_canTransitionTo ht hpo ho

/-- The order of two revisions by the phase that they have or remember. -/
def PhaseOrdered (a b : StoredJobV1) : Prop :=
  (effectiveLocalPhase a).lifecyclePhase ≤ (effectiveLocalPhase b).lifecyclePhase

instance : Trans PhaseOrdered PhaseOrdered PhaseOrdered := ⟨Nat.le_trans⟩

theorem AcceptedChain.phaseOrdered (h : AcceptedChain tools chain)
    (hkeeps : chain.IsChain KeepsPhase) :
    chain.Pairwise PhaseOrdered := by
  rw [← List.isChain_iff_pairwise, List.isChain_iff_getElem]
  intro i hi
  have hstep := List.isChain_iff_getElem.mp h.steps i hi
  have hk := List.isChain_iff_getElem.mp hkeeps i hi
  exact hstep.successor.state.phase_le hk (h.remembersPhase _ (List.getElem_mem _))

theorem AcceptedChain.phaseKept (h : AcceptedChain tools chain) (hkeeps : chain.IsChain KeepsPhase)
      :
    chain.Pairwise PhaseKept := by
  apply (h.phaseOrdered hkeeps).imp_of_mem
  intro earlier later hearlier _ hordered confirmed ho hc hlater
  obtain ⟨confirmed', hc', hphase⟩ := h.remembersPhase earlier hearlier ho
  obtain rfl : confirmed = confirmed' := Option.some.inj (hc.symm.trans hc')
  calc confirmed.lifecyclePhase
      = (effectiveLocalPhase earlier).lifecyclePhase := by
        rw [effectiveLocalPhase_of_overlay ho hc hphase]
    _ ≤ (effectiveLocalPhase later).lifecyclePhase := hordered
    _ ≤ later.state.lifecyclePhase := effectiveLocalPhase_le hlater

/-- Along an accepted chain nothing that is bound is lost; and as long as no step falls behind
    the phase that its overlay remembers, no later revision does. -/
theorem chain_never_regresses {tools : ResumeTools} {chain : List StoredJobV1}
    (h : AcceptedChain tools chain) :
    chain.Pairwise NeverForgets ∧ (chain.IsChain KeepsPhase → chain.Pairwise PhaseKept) :=
  ⟨h.neverForgets, h.phaseKept⟩

end

namespace Sample

/-! The steps of the sample job. -/

theorem built_to_built : built.validateSuccessor tools built = .ok () := by
  apply (validateSuccessor_self_iff valid_artifactReady rfl).mpr
  have hnone : built.gitSnapshot = none := rfl
  exact ⟨forall_of_eq_none hnone, fun _ => forall_of_eq_none hnone, by decide,
    fun _ => forall_of_eq_none hnone⟩

/-- The steps of the sample after the run, with what their artifacts become. -/
def steps : List (StoredJobV1 × StoredJobV1) :=
  [(running, artifactReady), (artifactReady, downloading), (downloading, downloaded),
    (downloaded, validating), (validating, succeeded), (downloading, cleanupPending),
    (cleanupPending, resumed), (cleanupPending, rewound)]

/-- What the steps of the sample job evaluate: of its two checkpoints, and of each step. -/
theorem steps_evaluate :
    (built.identityChanged cleaned = false ∧ built.validateDispatchSuccessor cleaned = .ok () ∧
      built.validateProgressSuccessor cleaned = .ok ()) ∧
    (projectGithubResume running built = .ok artifactReady ∧
      projectGithubResume validating cleaned = .ok succeeded) ∧
    ∀ step ∈ steps, validateTerminalSuccessor step.1 step.2 = .ok () ∧
      validateArtifactSuccessor step.1.artifacts step.2.artifacts = .ok () :=
  ⟨by decide +kernel, ⟨rfl, rfl⟩, by decide +kernel⟩

theorem steps_ok : ∀ step ∈ steps, validateTerminalSuccessor step.1 step.2 = .ok () ∧
    validateArtifactSuccessor step.1.artifacts step.2.artifacts = .ok () :=
  steps_evaluate.2.2

theorem built_to_cleaned : built.validateSuccessor tools cleaned = .ok () := by
  apply resumeStep_iff.mpr
  exact {
    identity := steps_evaluate.1.1
    snapshot := rfl
    dispatchAfterSource := fun _ => forall_of_eq_none rfl
    boundary := by decide
    state := rfl
    compileEvidence := optionCanBindOnce_self _
    signedCleanupEvidence := rfl
    replacement := (validateReplacement_iff valid_succeeded rfl).mpr
      ⟨by decide, fun _ => forall_of_eq_none rfl⟩
    dispatch := steps_evaluate.1.2.1
    progress := steps_evaluate.1.2.2 }

theorem step_mem (i : Fin 8) : steps.get i ∈ steps :=
  List.get_mem steps i

theorem validateTerminalSuccessor_step
    (h : (previous, next) ∈ steps) : validateTerminalSuccessor previous next = .ok () :=
  And.left (steps_ok _ h)

theorem validateArtifactSuccessor_step (h : (previous, next) ∈ steps) :
    validateArtifactSuccessor previous.artifacts next.artifacts = .ok () :=
  And.right (steps_ok _ h)

/-- A step that leaves alone what the provider owns. -/
theorem localStep (hvalid : ValidRecord tools next) (hkeeps : { previous with
      revision := next.revision, state := next.state, artifacts := next.artifacts,
      lastConfirmedState := next.lastConfirmedState, cleanupStatus := next.cleanupStatus } = next)
    (hstate : validateStateSuccessor previous next = .ok ())
    (hterminal : validateTerminalSuccessor previous next = .ok ())
    (hartifacts : validateArtifactSuccessor previous.artifacts next.artifacts = .ok ())
    (hresume : validateResumeSuccessor tools previous next = .ok ()) :
    AcceptedStep tools previous next := by
  -- every field a local step keeps, read off `hkeeps`
  have hsame : SameJob previous next :=
    jobIdentityChanged_eq_false.mp (by
      rw [← hkeeps]
      simp [jobIdentityChanged])
  have hupdated : previous.updatedAtMs = next.updatedAtMs := congrArg (·.updatedAtMs) hkeeps
  have hjob : previous.providerJobId = next.providerJobId := congrArg (·.providerJobId) hkeeps
  have hrun : previous.providerRunId = next.providerRunId := congrArg (·.providerRunId) hkeeps
  have hsubmitted : previous.submittedAtMs = next.submittedAtMs :=
    congrArg (·.submittedAtMs) hkeeps
  have hcompile : previous.compileEvidence = next.compileEvidence :=
    congrArg (·.compileEvidence) hkeeps
  have hsigned : previous.signedCleanupEvidence = next.signedCleanupEvidence :=
    congrArg (·.signedCleanupEvidence) hkeeps
  have hlog : previous.logLocation = next.logLocation := congrArg (·.logLocation) hkeeps
  have hlineage : previous.retryLineage = next.retryLineage := congrArg (·.retryLineage) hkeeps
  refine ⟨validate_eq_ok.mpr hvalid, validateSuccessor_eq_ok.mpr ?_⟩
  exact {
    sameJob := hsame
    updatedAtMs := hupdated ▸ UInt64.le_refl _
    providerJobId := hjob ▸ .refl _
    providerRunId := hrun ▸ .refl _
    submittedAtMs := hsubmitted ▸ .refl _
    compileEvidence := hcompile ▸ .refl _
    signedCleanupEvidence := hsigned ▸ .refl _
    logLocation := hlog ▸ .refl _
    state := validateStateSuccessor_eq_ok.mp hstate
    terminal := validateTerminalSuccessor_eq_ok.mp hterminal
    children := hlineage ▸ List.prefix_refl _
    artifacts := validateArtifactSuccessor_eq_ok.mp hartifacts
    resume := hresume }

/-- A step that keeps the checkpoint of the run. -/
theorem validateResumeSuccessor_built
    (hp : previous.providerResume = some built) (hn : next.providerResume = some built) :
    validateResumeSuccessor tools previous next = .ok () := by
  rw [validateResumeSuccessor_eq_ok, hp, hn]
  constructor
  · intro old hold
    rw [← Option.some.inj hold]
    exact ⟨built, rfl, built_to_built⟩
  · intro new hnew hne
    exact absurd hnew hne

theorem created_to_submitting : AcceptedStep tools created submitting :=
  localStep valid_submitting rfl (by decide) (by decide) rfl rfl

theorem submitting_to_running : AcceptedStep tools submitting running :=
  localStep valid_running rfl (by decide) (by decide) rfl rfl

theorem running_to_artifactReady : AcceptedStep tools running artifactReady := by
  refine ⟨validate_eq_ok.mpr valid_artifactReady, validateSuccessor_eq_ok.mpr ?_⟩
  exact {
    sameJob := by constructor <;> rfl
    updatedAtMs := by decide
    providerJobId := .of_eq_none rfl
    providerRunId := .of_eq_none rfl
    submittedAtMs := .of_eq_none rfl
    compileEvidence := .of_eq_none rfl
    signedCleanupEvidence := .of_eq_none rfl
    logLocation := .of_eq_none rfl
    state := validateStateSuccessor_eq_ok.mp (by decide)
    terminal := validateTerminalSuccessor_eq_ok.mp (validateTerminalSuccessor_step (step_mem 0))
    children := List.prefix_refl _
    artifacts := validateArtifactSuccessor_eq_ok.mp (validateArtifactSuccessor_step (step_mem 0))
    resume := by
      apply validateResumeSuccessor_eq_ok.mpr
      refine ⟨forall_of_eq_none rfl, ?_⟩
      intro new hnew _
      rw [← Option.some.inj hnew]
      exact steps_evaluate.2.1.1 }

theorem artifactReady_to_downloading : AcceptedStep tools artifactReady downloading :=
  localStep valid_downloading rfl (by decide) (validateTerminalSuccessor_step (step_mem 1))
    (validateArtifactSuccessor_step (step_mem 1)) (validateResumeSuccessor_built rfl rfl)

theorem downloading_to_downloaded : AcceptedStep tools downloading downloaded :=
  localStep valid_downloaded rfl (by decide) (validateTerminalSuccessor_step (step_mem 2))
    (validateArtifactSuccessor_step (step_mem 2)) (validateResumeSuccessor_built rfl rfl)

theorem downloaded_to_validating : AcceptedStep tools downloaded validating :=
  localStep valid_validating rfl (by decide) (validateTerminalSuccessor_step (step_mem 3))
    (validateArtifactSuccessor_step (step_mem 3)) (validateResumeSuccessor_built rfl rfl)

theorem validating_to_succeeded : AcceptedStep tools validating succeeded := by
  refine ⟨validate_eq_ok.mpr valid_succeeded, validateSuccessor_eq_ok.mpr ?_⟩
  exact {
    sameJob := by constructor <;> rfl
    updatedAtMs := by decide
    providerJobId := .refl _
    providerRunId := .refl _
    submittedAtMs := .refl _
    compileEvidence := .refl _
    signedCleanupEvidence := .refl _
    logLocation := .refl _
    state := validateStateSuccessor_eq_ok.mp (by decide)
    terminal := validateTerminalSuccessor_eq_ok.mp (validateTerminalSuccessor_step (step_mem 4))
    children := List.prefix_refl _
    artifacts := validateArtifactSuccessor_eq_ok.mp (validateArtifactSuccessor_step (step_mem 4))
    resume := by
      apply validateResumeSuccessor_eq_ok.mpr
      constructor
      · intro old hold
        rw [← Option.some.inj hold]
        exact ⟨cleaned, rfl, built_to_cleaned⟩
      · intro new hnew _
        rw [← Option.some.inj hnew]
        exact steps_evaluate.2.1.2 }

theorem downloading_to_cleanupPending : AcceptedStep tools downloading cleanupPending :=
  localStep valid_cleanupPending rfl (by decide) (validateTerminalSuccessor_step (step_mem 5))
    (validateArtifactSuccessor_step (step_mem 5)) (validateResumeSuccessor_built rfl rfl)

theorem cleanupPending_to_resumed : AcceptedStep tools cleanupPending resumed :=
  localStep valid_resumed rfl (by decide) (validateTerminalSuccessor_step (step_mem 6))
    (validateArtifactSuccessor_step (step_mem 6)) (validateResumeSuccessor_built rfl rfl)

theorem cleanupPending_to_rewound : AcceptedStep tools cleanupPending rewound :=
  localStep valid_rewound rfl (by decide) (validateTerminalSuccessor_step (step_mem 7))
    (validateArtifactSuccessor_step (step_mem 7)) (validateResumeSuccessor_built rfl rfl)

theorem initial_created : validateInitialJobRevision created = .ok () := by
  decide

/-- A chain that starts with the first sample revision. -/
theorem acceptedChain_of_steps {rest : List StoredJobV1}
    (h : (created :: rest).IsChain (AcceptedStep tools)) : AcceptedChain tools (created :: rest) := by
  refine ⟨?_, h⟩
  intro record hrecord
  rw [← Option.some.inj hrecord]
  exact ⟨validate_eq_ok.mpr valid_created, initial_created⟩

/-- The chain of the download that goes on. -/
def resumedChain : List StoredJobV1 :=
  [created, submitting, running, artifactReady, downloading, cleanupPending, resumed]

/-- The chain of the download that starts over. -/
def rewoundChain : List StoredJobV1 :=
  [created, submitting, running, artifactReady, downloading, cleanupPending, rewound]

theorem accepted_resumedChain : AcceptedChain tools resumedChain := by
  apply acceptedChain_of_steps
  simp only [List.isChain_cons_cons, List.isChain_singleton, and_true]
  exact ⟨created_to_submitting, submitting_to_running, running_to_artifactReady,
    artifactReady_to_downloading, downloading_to_cleanupPending, cleanupPending_to_resumed⟩

theorem accepted_rewoundChain : AcceptedChain tools rewoundChain := by
  apply acceptedChain_of_steps
  simp only [List.isChain_cons_cons, List.isChain_singleton, and_true]
  exact ⟨created_to_submitting, submitting_to_running, running_to_artifactReady,
    artifactReady_to_downloading, downloading_to_cleanupPending, cleanupPending_to_rewound⟩

theorem keepsPhase_resumedChain : resumedChain.IsChain KeepsPhase := by
  -- only the last step leaves an overlay, and no step fails
  have hplain : ∀ {previous next : StoredJobV1}, previous.state.isOverlay = false →
      next.state ≠ .failed → KeepsPhase previous next := by
    intro previous next ho hne
    refine ⟨?_, fun hfailed => absurd hfailed hne⟩
    intro hcleanup
    cases hcleanup with
    | inl hs => rw [hs] at ho; cases ho
    | inr hs => rw [hs] at ho; cases ho
  simp only [resumedChain, List.isChain_cons_cons, List.isChain_singleton, and_true]
  refine ⟨hplain rfl (by decide), hplain rfl (by decide), hplain rfl (by decide),
    hplain rfl (by decide), hplain rfl (by decide), ?_, fun h => absurd h (by decide)⟩
  intro _ _ confirmed hconfirmed
  rw [← Option.some.inj hconfirmed]
  decide

theorem chain_never_regresses_resumed :
    resumedChain.Pairwise NeverForgets ∧ resumedChain.Pairwise PhaseKept := by
  obtain ⟨hforgets, hphase⟩ := chain_never_regresses accepted_resumedChain
  exact ⟨hforgets, hphase keepsPhase_resumedChain⟩

/-- The store accepts a job that was downloading before the overlay and has its artifacts
    ready after it. -/
theorem rewound_phase_not_kept :
    AcceptedChain tools rewoundChain ∧ ¬ rewoundChain.Pairwise PhaseKept := by
  refine ⟨accepted_rewoundChain, ?_⟩
  intro h
  have hkept : PhaseKept cleanupPending rewound := by
    simp only [rewoundChain, List.pairwise_cons, List.mem_cons] at h
    exact h.2.2.2.2.2.1 rewound (Or.inl rfl)
  exact absurd (hkept .downloading rfl rfl rfl) (by decide)

end Sample

end RustFerry.JobStore
