import RustFerry.Spec.WorkerJobPipeline

/-!
# Mandatory cleanup

However the pipeline of a worker job has ended, the cleanup that follows cannot be skipped: no
step before the call of the cleanup hook lets a failure through.
-/

namespace RustFerry.Worker

open Remote Serde Artifact ProgM

variable {b : Nat} {v₀ : JobView} {α : Type} {result : Except WorkerJobError α} {retained : Bool}
  {cleanup : CleanupRun} {first : Option WorkerJobError} {tools : RequestTools}
  {job : WorkerJobManifest} {s s' : WorkerJobRunner} {v v' : JobView}

/-! ## States of the cleanup -/

/-- What the view says of the pipeline is as before. -/
structure Since (v v' : JobView) : Prop where
  cancelled : v'.cancelled = v.cancelled
  done : v'.done = v.done
  evidence : v'.evidence = v.evidence
  rejected : v'.rejected = v.rejected
  disturbed : v.disturbed = true → v'.disturbed = true

theorem Since.trans {v₁ v₂ v₃ : JobView} (h : Since v₁ v₂) (h' : Since v₂ v₃) : Since v₁ v₃ where
  cancelled := h'.cancelled.trans h.cancelled
  done := h'.done.trans h.done
  evidence := h'.evidence.trans h.evidence
  rejected := h'.rejected.trans h.rejected
  disturbed := fun hd => h'.disturbed (h.disturbed hd)

theorem Kept.since (h : Kept s v s' v') : Since v v' :=
  ⟨h.cancelled, h.done, h.evidence, h.rejected, h.disturbed⟩

theorem JobView.Checks.since (h : v.Checks v') : Since v v' :=
  ⟨h.cancelled, h.done, h.evidence, h.rejected, h.disturbed⟩

theorem Since.excused (h : Since v v') (hv : v.Excused) : v'.Excused := by
  unfold JobView.Excused at hv ⊢
  rw [h.done, h.evidence, h.rejected, h.cancelled]
  rcases hv with hv | hv | hv | hv | hv
  · exact .inl hv
  · exact .inr (.inl hv)
  · exact .inr (.inr (.inl hv))
  · exact .inr (.inr (.inr (.inl hv)))
  · exact .inr (.inr (.inr (.inr (h.disturbed hv))))

/-- The build has ended in a state of the job. -/
structure Ended (buildState : JobState) (s : WorkerJobRunner) (v : JobView) : Prop
    extends JobInv 59 s v where
  state : s.state.state = buildState
  terminal : buildState.canTransitionTo .cleaning = true
  root : v.root = none
  cleanups : v.cleanups = 0
  rank : s.state.phase.rank ≤ 5
  idle : s.activePhase = none

/-- The cleanup is under way: at most `b` events were sent since the build ended with the view
    `v₀`, and an error that is already known comes from a disturbance. -/
structure Cleaning (b : Nat) (v₀ : JobView) (first : Option WorkerJobError) (s : WorkerJobRunner)
    (v : JobView) : Prop extends JobInv b s v where
  state : s.state.state = .cleaning
  rank : s.state.phase.rank ≤ 6
  since : Since v₀ v
  first : first.isSome = true → v.disturbed = true

/-- The paths that a cleanup has to remove in any case. -/
def cleanupPaths (job : WorkerJobManifest) : List JobPath :=
  match job.sourceInput with
  | .snapshot archivePath _ =>
    [job.sourceDirectory, job.temporaryDirectory, archivePath.resolve]
  | .git => [job.sourceDirectory, job.temporaryDirectory]

/-- The identity of the job root was checked, and the cleanup hook called if it was found. -/
def Called (v : JobView) : Prop :=
  ∃ bound, v.root = some bound ∧ v.cleanups = if bound then 1 else 0

/-- What a confirmation says and what was found on the file system. -/
structure Confirmed (job : WorkerJobManifest) (v : JobView) (confirmation : CleanupConfirmation) :
    Prop where
  jobId : confirmation.jobId = job.jobId
  absent : ∀ path ∈ cleanupPaths job, path ∈ v.absent

/-- The outcome of a cleanup: there is a confirmation or an error, and an error beside a
    confirmation comes from a disturbance. -/
structure Outcome (job : WorkerJobManifest) (v : JobView) (cleanup : CleanupRun) : Prop where
  confirmed : ∀ confirmation, cleanup.confirmation = some confirmation →
    Confirmed job v confirmation
  failed : cleanup.confirmation = none → cleanup.error.isSome = true
  disturbed : cleanup.confirmation.isSome = true → cleanup.error.isSome = true →
    v.disturbed = true

theorem Cleaning.kept {b' : Nat} (hc : Cleaning b v₀ first s v) (hinv : JobInv b' s' v')
    (hkept : Kept s v s' v') (hrank : s'.state.phase.rank ≤ 6) :
    Cleaning b' v₀ first s' v' where
  toJobInv := hinv
  state := hkept.state.trans hc.state
  rank := hrank
  since := hc.since.trans hkept.since
  first := fun h => hkept.disturbed (hc.first h)

theorem isSome_getOrInsert (h : (getOrInsert first result).isSome = true) :
    first.isSome = true ∨ ∃ e, result = .error e := by
  cases result with
  | ok a => exact .inl h
  | error e => exact .inr ⟨e, rfl⟩

theorem isSome_getOrInsert_of (h : first.isSome = true) :
    (getOrInsert first result).isSome = true := by
  cases result with
  | ok a => exact h
  | error e => cases first <;> rfl

theorem Cleaning.insert (hc : Cleaning b v₀ first s v)
    (h : ∀ e, result = .error e → v.disturbed = true) :
    Cleaning b v₀ (getOrInsert first result) s v :=
  { hc with
    first := by
      intro hsome
      rcases isSome_getOrInsert hsome with hfirst | hfailed
      · exact hc.first hfirst
      · obtain ⟨e, he⟩ := hfailed
        exact h e he }

/-! ## Steps -/

section

variable (hjob : job.validate tools = .ok ()) (hc : Cleaning 59 v₀ none s v)
  (hrank : s.state.phase.rank ≤ 5) (hidle : s.activePhase = none)

include hjob hc hrank hidle

theorem wp_startCleanupPhase :
    wp (jobContract tools job) (startCleanupPhase tools job)
      (fun _ s' v' => Cleaning 61 v₀ none s' v' ∧ v'.root = v.root ∧ v'.cleanups = v.cleanups)
      (fun _ s' v' => (Cleaning 61 v₀ none s' v' ∧ v'.root = v.root ∧ v'.cleanups = v.cleanups) ∧
        v'.disturbed = true) s v := by
  have hlt : s.state.phase.rank < WorkerJobPhase.cleanup.rank := Nat.lt_succ_of_le hrank
  simp only [startCleanupPhase, wp_bind]
  apply wp_mono (wp_startPhaseWithoutCancellation hjob hc.toJobInv (by omega) hlt)
  · intro _ s₁ v₁ h
    obtain ⟨⟨hinv, hkept⟩, hphase, -⟩ := h
    have hc₁ : Cleaning 60 v₀ none s₁ v₁ := hc.kept hinv hkept (by rw [hphase]; decide)
    have hsent : ∀ s' v', Emitted .cleanupStarted s₁ v₁ s' v' ∧ JobInv 61 s' v' →
        Cleaning 61 v₀ none s' v' ∧ v'.root = v.root ∧ v'.cleanups = v.cleanups := by
      intro s' v' h
      have hkept' := h.1.kept
      obtain ⟨q, u, -, hs⟩ := h.1.runner
      exact ⟨hc₁.kept h.2 hkept' (by rw [hs]; exact hc₁.rank), hkept'.root.trans hkept.root,
        hkept'.cleanups.trans hkept.cleanups⟩
    apply wp_mono (wp_emit hjob hinv (by omega) safe_cleanupStarted rfl (fun h => (by cases h))
      fun h => (by cases h))
    · exact fun _ s' v' h => hsent s' v' h
    · exact fun _ s' v' h => ⟨hsent s' v' h.1, h.2.1⟩
  · intro e s₁ v₁ h
    obtain ⟨⟨hinv, hkept⟩, hle, -, hdisturbed⟩ := h
    exact ⟨⟨(hc.kept (hinv.mono (by omega)) hkept hle), hkept.root, hkept.cleanups⟩,
      hdisturbed hidle⟩

theorem wp_attemptStart :
    wp (jobContract tools job) (attempt (startCleanupPhase tools job) : JobM _)
      (fun started s' v' => Cleaning 61 v₀ (getOrInsert none started) s' v' ∧ v'.root = v.root ∧
        v'.cleanups = v.cleanups) (fun _ _ _ => False) s v := by
  rw [wp_attempt]
  apply wp_mono (wp_startCleanupPhase hjob hc hrank hidle)
  · exact fun _ s' v' h => h
  · intro e s' v' h
    obtain ⟨⟨hc', hkept⟩, hdisturbed⟩ := h
    exact ⟨hc'.insert fun _ _ => hdisturbed, hkept⟩

end

/-- The last phase is finished. -/
theorem wp_attemptFinish (hinv : JobInv b s v) :
    wp (jobContract tools job) (attempt finishActivePhase : JobM _)
      (fun finished s' v' => JobInv b s' v' ∧ Kept s v s' v' ∧
        ∀ e, finished = .error e → v'.disturbed = true) (fun _ _ _ => False) s v := by
  rw [wp_attempt]
  apply wp_mono (wp_finishActivePhase hinv)
  · exact fun _ s' v' h => ⟨h.1.1, h.1.2, fun _ h => (by cases h)⟩
  · exact fun e s' v' h => ⟨h.1.1, h.1.2, fun _ _ => h.2.2.2.2⟩

theorem wp_requirePathAbsent {path : JobPath} {error : WorkerJobError} :
    wp (jobContract tools job) (requirePathAbsent path error)
      (fun _ s' v' => s' = s ∧ v.Checks v' ∧ path ∈ v'.absent)
      (fun _ s' v' => s' = s ∧ v.Checks v') s v := by
  have hchecks : ∀ metadata, v.Checks (if metadata = Metadata.notFound then
      { v with absent := path :: v.absent } else v) := by
    intro metadata
    split
    · exact ⟨rfl, rfl, rfl, rfl, rfl, rfl, rfl, rfl, id, List.subset_cons_self _ _⟩
    · exact Std.Refl.refl v
  simp only [requirePathAbsent, wp_bind]
  apply wp_call
  · trivial
  intro metadata
  rw [wp_ensure]
  constructor
  · intro hfound
    refine ⟨rfl, hchecks metadata, ?_⟩
    show path ∈ (if metadata = Metadata.notFound then
      { v with absent := path :: v.absent } else v).absent
    rw [if_pos (of_decide_eq_true hfound)]
    exact List.mem_cons_self
  · exact fun _ => ⟨rfl, hchecks metadata⟩

theorem wp_requireInputAbsent :
    wp (jobContract tools job) (requireInputAbsent job)
      (fun _ s' v' => s' = s ∧ v.Checks v' ∧
        ∀ archivePath archive, job.sourceInput = .snapshot archivePath archive →
          archivePath.resolve ∈ v'.absent)
      (fun _ s' v' => s' = s ∧ v.Checks v') s v := by
  cases hinput : job.sourceInput with
  | snapshot archivePath archive =>
    simp only [requireInputAbsent, hinput]
    apply wp_imp wp_requirePathAbsent
    intro _ s' v' h
    obtain ⟨hs, hchecks, hmem⟩ := h
    refine ⟨hs, hchecks, ?_⟩
    intro _ _ heq
    rw [← (WorkerSourceInput.snapshot.inj heq).1]
    exact hmem
  | git =>
    simp only [requireInputAbsent, hinput]
    exact ⟨rfl, Std.Refl.refl v, fun _ _ h => (by cases h)⟩

theorem subset_cleanupPaths {absent : List JobPath} (hsource : job.sourceDirectory ∈ absent)
    (htemporary : job.temporaryDirectory ∈ absent)
    (hinput : ∀ archivePath archive, job.sourceInput = .snapshot archivePath archive →
      archivePath.resolve ∈ absent) : ∀ path ∈ cleanupPaths job, path ∈ absent := by
  intro path hpath
  unfold cleanupPaths at hpath
  split at hpath
  · rename_i archivePath archive heq
    have hmem := hinput archivePath archive heq
    simp only [List.mem_cons, List.not_mem_nil, or_false] at hpath
    rcases hpath with rfl | rfl | rfl
    · exact hsource
    · exact htemporary
    · exact hmem
  · simp only [List.mem_cons, List.not_mem_nil, or_false] at hpath
    rcases hpath with rfl | rfl
    · exact hsource
    · exact htemporary

/-- The file system checks pass only when all paths are absent that have to be. -/
theorem wp_validateCleanupFilesystem :
    wp (jobContract tools job) (validateCleanupFilesystem job retained)
      (fun _ s' v' => s' = s ∧ v.Checks v' ∧ ∀ path ∈ cleanupPaths job, path ∈ v'.absent)
      (fun _ s' v' => s' = s ∧ v.Checks v') s v := by
  simp only [validateCleanupFilesystem, wp_bind]
  apply quiet_verifyRoot.wp _ (fun _ _ h => ⟨rfl, h⟩)
  intro _ v₁ h₁
  apply wp_mono wp_requirePathAbsent
  · intro _ s₂ v₂ h
    obtain ⟨hs₂, h₂, hsource⟩ := h
    rw [hs₂]
    have h₁₂ := JobView.checks_trans h₁ h₂
    apply wp_mono wp_requirePathAbsent
    · intro _ s₃ v₃ h
      obtain ⟨hs₃, h₃, htemporary⟩ := h
      rw [hs₃]
      have h₁₃ := JobView.checks_trans h₁₂ h₃
      apply wp_mono wp_requireInputAbsent
      · intro _ s₄ v₄ h
        obtain ⟨hs₄, h₄, hinput⟩ := h
        rw [hs₄]
        have h₁₄ := JobView.checks_trans h₁₃ h₄
        apply (quiet_requireArtifacts retained).wp _
          (fun _ _ h => ⟨rfl, JobView.checks_trans h₁₄ h⟩)
        intro _ v₅ h₅
        have h₁₅ := JobView.checks_trans h₁₄ h₅
        apply quiet_verifyRoot.wp _ (fun _ _ h => ⟨rfl, JobView.checks_trans h₁₅ h⟩)
        intro _ v₆ h₆
        refine ⟨rfl, JobView.checks_trans h₁₅ h₆, ?_⟩
        -- what was found absent stays on the list
        have h₄₆ := (JobView.checks_trans h₅ h₆).absent
        apply subset_cleanupPaths
        · exact h₄₆ (h₄.absent (h₃.absent hsource))
        · exact h₄₆ (h₄.absent htemporary)
        · exact fun archivePath archive heq => h₄₆ (hinput archivePath archive heq)
      · exact fun _ _ _ h => ⟨h.1, JobView.checks_trans h₁₃ h.2⟩
    · exact fun _ _ _ h => ⟨h.1, JobView.checks_trans h₁₂ h.2⟩
  · exact fun _ _ _ h => ⟨h.1, JobView.checks_trans h₁ h.2⟩

/-- The checks on a confirmation pass only when all paths are absent that have to be. -/
theorem wp_checkConfirmation {confirmation : CleanupConfirmation} :
    wp (jobContract tools job) (checkConfirmation job confirmation retained)
      (fun _ s' v' => s' = s ∧ v.Checks v' ∧ Confirmed job v' confirmation)
      (fun _ s' v' => s' = s ∧ v.Checks v') s v := by
  simp only [checkConfirmation, wp_bind]
  rw [wp_ofExcept]
  refine ⟨fun _ hvalid => ?_, fun _ _ => ⟨rfl, Std.Refl.refl v⟩⟩
  have hjobId : confirmation.jobId = job.jobId := by
    simp only [validateCleanupConfirmation, Except.rejectIf_eq_ok, Bool.or_eq_false_iff,
      bne_eq_false_iff_eq] at hvalid
    exact hvalid.1.1.1.1
  apply quiet_verifyRoot.wp _ (fun _ _ h => ⟨rfl, h⟩)
  intro _ v₁ h₁
  apply wp_mono wp_validateCleanupFilesystem
  · intro _ s₂ v₂ h
    obtain ⟨hs₂, h₂, habsent⟩ := h
    exact ⟨hs₂, JobView.checks_trans h₁ h₂, hjobId, habsent⟩
  · exact fun _ _ _ h => ⟨h.1, JobView.checks_trans h₁ h.2⟩

/-! ## Cleanup -/

/-- The root of the job has been checked before cleanup. -/
theorem JobInv.checkedRoot (hinv : JobInv b s v) (bound d : Bool) :
    JobInv b s { v with root := some bound, disturbed := d } :=
  ⟨hinv.sequence, hinv.bound, hinv.announced, hinv.live, hinv.phases, hinv.timings, hinv.start,
    hinv.active⟩

/-- A call of the hook is counted. -/
theorem JobInv.called (hinv : JobInv b s v) (n : Nat) (absent : List JobPath) :
    JobInv b s { v with cleanups := n, absent := absent } :=
  ⟨hinv.sequence, hinv.bound, hinv.announced, hinv.live, hinv.phases, hinv.timings, hinv.start,
    hinv.active⟩

/-- What the cleanup hook has answered, the outcome is settled. -/
theorem wp_acceptConfirmation {answer : HookResult CleanupConfirmation}
    (hfirst : first.isSome = true → v.disturbed = true) :
    wp (jobContract tools job) (acceptConfirmation job retained first answer)
      (fun cleanup s' v' => s' = s ∧ v.Checks v' ∧ Outcome job v' cleanup)
      (fun _ _ _ => False) s v := by
  cases answer with
  | error failure =>
    refine ⟨rfl, Std.Refl.refl v, fun _ h => (by cases h), fun _ => ?_, fun h => (by cases h)⟩
    cases first <;> rfl
  | ok confirmation =>
    have hrefused : ∀ v', v.Checks v' →
        Outcome job v' ⟨none, first.or (some .invalidCleanupProof)⟩ := by
      intro v' _
      refine ⟨fun _ h => (by cases h), fun _ => ?_, fun h => (by cases h)⟩
      cases first <;> rfl
    simp only [acceptConfirmation, wp_bind, wp_attempt]
    apply wp_mono wp_checkConfirmation
    · intro _ s' v' h
      obtain ⟨hs, hchecks, hconfirmed⟩ := h
      refine ⟨hs, hchecks, ?_, fun h => (by cases h), fun _ h => hchecks.disturbed (hfirst h)⟩
      intro c hc
      rw [← Option.some.inj hc]
      exact hconfirmed
    · intro e s' v' h
      exact ⟨h.1, h.2, hrefused v' h.2⟩

/-- The cleanup hook is called exactly when the job root is still bound. -/
theorem wp_confirmCleanup {buildState : JobState} (hc : Cleaning 61 v₀ first s v)
    (hroot : v.root = none) (hcleanups : v.cleanups = 0) :
    wp (jobContract tools job) (confirmCleanup job buildState first)
      (fun cleanup s' v' => s' = s ∧ JobInv 61 s v' ∧ Since v₀ v' ∧ Called v' ∧
        Outcome job v' cleanup) (fun _ _ _ => False) s v := by
  simp only [confirmCleanup, wp_bind]
  apply wp_call
  · exact hroot
  intro bound
  cases bound with
  | false =>
    refine ⟨rfl, hc.toJobInv.checkedRoot _ _, ?_, ⟨false, rfl, hcleanups⟩, ?_⟩
    · exact hc.since.trans ⟨rfl, rfl, rfl, rfl, fun h => by simp [JobView.next, h]⟩
    · refine ⟨fun _ h => (by cases h), fun _ => ?_, fun h => (by cases h)⟩
      cases first <;> rfl
  | true =>
    simp only [Bool.not_true, Bool.false_eq_true, if_false, wp_bind]
    apply wp_call
    · exact ⟨rfl, hcleanups⟩
    intro answer
    -- the view once the hook has answered
    have hinv : JobInv 61 s { v with
        root := some true, disturbed := v.disturbed || false, cleanups := v.cleanups + 1
        absent := [] } :=
      (hc.toJobInv.checkedRoot true _).called _ _
    apply wp_imp (wp_acceptConfirmation (fun h => by
      show (v.disturbed || false) = true
      rw [hc.first h]
      rfl))
    intro cleanup s' v' h
    obtain ⟨hs, hchecks, houtcome⟩ := h
    refine ⟨hs, hinv.checks hchecks, ?_, ⟨true, hchecks.root, ?_⟩, houtcome⟩
    · apply hc.since.trans
      apply Since.trans _ hchecks.since
      exact ⟨rfl, rfl, rfl, rfl, fun h => by simp [JobView.next, h]⟩
    · rw [hchecks.cleanups]
      show v.cleanups + 1 = 1
      rw [hcleanups]

/-- The cleanup has ended: the job has its last state, and the outcome is settled. -/
structure CleanedUp (job : WorkerJobManifest) (v₀ : JobView) (cleanup : CleanupRun)
    (s : WorkerJobRunner) (v : JobView) : Prop extends JobInv 62 s v where
  state : s.state.state = cleanupTerminal cleanup.confirmation
  since : Since v₀ v
  called : Called v
  outcome : Outcome job v cleanup

theorem Outcome.kept (h : Outcome job v cleanup) (hkept : Kept s v s' v') :
    Outcome job v' cleanup where
  confirmed := by
    intro confirmation hconfirmation
    have hconfirmed := h.confirmed confirmation hconfirmation
    exact ⟨hconfirmed.jobId, fun path hpath => hkept.absent (hconfirmed.absent path hpath)⟩
  failed := h.failed
  disturbed := fun hsome herror => hkept.disturbed (h.disturbed hsome herror)

/-- A failure after the confirmation is remembered only if nothing has failed before. -/
theorem Outcome.insert (h : Outcome job v cleanup)
    (hresult : ∀ e, result = .error e → v.disturbed = true) :
    Outcome job v { cleanup with error := getOrInsert cleanup.error result } where
  confirmed := h.confirmed
  failed := fun hnone => isSome_getOrInsert_of (h.failed hnone)
  disturbed := by
    intro hsome herror
    rcases isSome_getOrInsert herror with hfirst | hfailed
    · exact h.disturbed hsome hfirst
    · obtain ⟨e, he⟩ := hfailed
      exact hresult e he

theorem Called.kept (h : Called v) (hkept : Kept s v s' v') : Called v' := by
  obtain ⟨bound, hroot, hcleanups⟩ := h
  exact ⟨bound, hkept.root.trans hroot, hkept.cleanups.trans hcleanups⟩

theorem canTransitionTo_cleanupTerminal (confirmation : Option CleanupConfirmation) :
    JobState.cleaning.canTransitionTo (cleanupTerminal confirmation) = true := by
  cases confirmation <;> rfl

/-- A change of the job state is invisible to the invariant. -/
theorem JobInv.withState (hinv : JobInv b s v) (state : JobState) (updatedAtMs : UInt64) :
    JobInv b { s with state := { s.state with state := state, updatedAtMs := updatedAtMs } } v :=
  ⟨hinv.sequence, hinv.bound, hinv.announced, hinv.live, hinv.phases, hinv.timings, hinv.start,
    hinv.active⟩

/-- The cleanup is announced. -/
theorem wp_announceCleanup (hjob : job.validate tools = .ok ()) (hinv : JobInv 61 s v)
    (hstate : s.state.state = cleanupTerminal cleanup.confirmation) (hsince : Since v₀ v)
    (hcalled : Called v) (houtcome : Outcome job v cleanup) :
    wp (jobContract tools job) (announceCleanup tools job cleanup.confirmation)
      (fun _ s' v' => CleanedUp job v₀ cleanup s' v')
      (fun _ s' v' => CleanedUp job v₀ cleanup s' v' ∧ v'.disturbed = true) s v := by
  cases hconfirmation : cleanup.confirmation with
  | none =>
    exact {
      toJobInv := hinv.mono (by omega)
      state := hstate, since := hsince, called := hcalled, outcome := houtcome }
  | some confirmation =>
    have hclean : Clean confirmation.jobId := by
      rw [(houtcome.confirmed _ hconfirmation).jobId]
      exact clean_of_identifier (isIdentifier_jobs hjob).1
    have hsent : ∀ s' v', Emitted (.cleanupFinished confirmation) s v s' v' ∧ JobInv 62 s' v' →
        CleanedUp job v₀ cleanup s' v' := by
      intro s' v' h
      have hkept := h.1.kept
      exact {
        toJobInv := h.2
        state := hkept.state.trans hstate
        since := hsince.trans hkept.since
        called := hcalled.kept hkept
        outcome := houtcome.kept hkept }
    apply wp_mono (wp_emit hjob hinv (by omega) (safe_cleanupFinished hclean) rfl
      (fun h => (by cases h)) fun h => (by cases h))
    · exact fun _ s' v' h => hsent s' v' h
    · exact fun _ s' v' h => ⟨hsent s' v' h.1, h.2.1⟩

/-- **Cleanup** cannot be skipped: whatever its steps answer, the root is checked, the hook is
    called if the root is bound, and the job ends in the state that the outcome asks for. -/
theorem wp_runCleanup {buildState : JobState} (hjob : job.validate tools = .ok ())
    (hended : Ended buildState s v) :
    wp (jobContract tools job) (runCleanup tools job buildState)
      (fun cleanup s' v' => CleanedUp job v cleanup s' v') (fun _ _ _ => False) s v := by
  simp only [runCleanup, wp_bind]
  -- the job can be cleaned up from every state in which a build ends
  rw [wp_attempt]
  apply wp_imp (wp_transition (by rw [hended.state]; exact hended.terminal))
  intro _ s₁ v₁ h
  obtain ⟨hv₁, u₁, hs₁⟩ := h
  have hc₁ : Cleaning 59 v none s₁ v := by
    rw [hs₁]
    exact {
      toJobInv := hended.toJobInv.withState _ _
      state := rfl
      rank := le_trans hended.rank (by decide)
      since := ⟨rfl, rfl, rfl, rfl, id⟩
      first := fun h => (by cases h) }
  have hrank : s₁.state.phase.rank ≤ 5 := by rw [hs₁]; exact hended.rank
  have hidle : s₁.activePhase = none := by rw [hs₁]; exact hended.idle
  rw [hv₁]
  -- the hook is reached whether or not the phase could be started
  apply wp_imp (wp_attemptStart hjob hc₁ hrank hidle)
  intro started s₂ v₂ h
  obtain ⟨hc₂, hroot, hcleanups⟩ := h
  apply wp_imp (wp_confirmCleanup hc₂ (hroot.trans hended.root) (hcleanups.trans hended.cleanups))
  intro cleanup s₃ v₃ h
  obtain ⟨hs₃, hinv₃, hsince₃, hcalled₃, houtcome₃⟩ := h
  rw [hs₃]
  -- the phase is closed and the last state reached, and what fails here is remembered
  apply wp_imp (wp_attemptFinish hinv₃)
  intro finished s₄ v₄ h
  obtain ⟨hinv₄, hkept₄, hfailed₄⟩ := h
  have houtcome₄ := (houtcome₃.kept hkept₄).insert hfailed₄
  rw [wp_attempt]
  apply wp_imp (wp_transition (by
    rw [hkept₄.state, hc₂.state]
    exact canTransitionTo_cleanupTerminal _))
  intro _ s₅ v₅ h
  obtain ⟨hv₅, u₅, hs₅⟩ := h
  rw [hv₅, hs₅, wp_attempt]
  apply wp_mono (wp_announceCleanup hjob (hinv₄.withState _ u₅) rfl (hsince₃.trans hkept₄.since)
    (hcalled₃.kept hkept₄) houtcome₄)
  · intro _ s' v' h
    exact h
  · intro e s' v' h
    obtain ⟨hcleaned, hdisturbed⟩ := h
    exact { hcleaned with outcome := hcleaned.outcome.insert fun _ _ => hdisturbed }

end RustFerry.Worker
