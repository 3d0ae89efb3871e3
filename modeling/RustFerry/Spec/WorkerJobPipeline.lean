import RustFerry.Spec.WorkerJobSteps

/-!
# Pipeline of a worker job

While the pipeline works, the job is running, nothing has been cancelled or refused, and the
cleanup has not begun. When it stops, the state of the job still allows every transition that
leads to the cleanup, and there is a reason for the failure.
-/

namespace RustFerry.Worker

open Remote Serde Artifact ProgM

variable {phase : WorkerJobPhase} {α : Type} {kind : RemoteBuildEventKind}
  {build : WorkerBuildOutput} {manifests : List ArtifactManifest} {exported : WorkerExportOutput}

/-! ## States of the pipeline -/

/-- The pipeline goes on: at most `b` events were sent and a phase of rank `n` was reached, and
    the hooks of the phases `d` have succeeded. -/
structure Working (b n : Nat) (d : List WorkerJobPhase) (s : WorkerJobRunner) (v : JobView) :
    Prop extends JobInv b s v where
  running : s.state.state = .running
  root : v.root = none
  cleanups : v.cleanups = 0
  cancelled : v.cancelled = false
  rejected : v.rejected = false
  rank : s.state.phase.rank ≤ n
  done : d ⊆ v.done
  validated : .validate ∈ v.done → .validate ∈ d

/-- The pipeline has failed with an error. Only a running job fails with a cancellation, so that
    its state can be left in every case. -/
structure Stopped (e : WorkerJobError) (s : WorkerJobRunner) (v : JobView) : Prop
    extends JobInv 59 s v where
  state : s.state.state = .running ∨ s.state.state = .created ∧ e ≠ .cancelled
  root : v.root = none
  cleanups : v.cleanups = 0
  rank : s.state.phase.rank ≤ 5
  excused : v.Excused

variable {tools : RequestTools} {job : WorkerJobManifest} {b n : Nat} {d : List WorkerJobPhase}
  {s s' : WorkerJobRunner} {v v' : JobView}

section

variable (hw : Working b n d s v)

include hw

theorem Working.kept {b' n' : Nat} (hinv : JobInv b' s' v')
    (hkept : Kept s v s' v') (hrank : s'.state.phase.rank ≤ n') : Working b' n' d s' v' where
  toJobInv := hinv
  running := hkept.state.trans hw.running
  root := hkept.root.trans hw.root
  cleanups := hkept.cleanups.trans hw.cleanups
  cancelled := hkept.cancelled.trans hw.cancelled
  rejected := hkept.rejected.trans hw.rejected
  rank := hrank
  done := hkept.done ▸ hw.done
  validated := hkept.done ▸ hw.validated

theorem Working.checks (h : v.Checks v') : Working b n d s v' :=
  hw.kept (hw.toJobInv.checks h) h.kept hw.rank

/-- What the pipeline records of sources and evidence changes nothing else. -/
theorem Working.same (hs : s'.state.state = s.state.state ∧ s'.state.sequence = s.state.sequence ∧
      s'.state.phase = s.state.phase ∧ s'.state.timings = s.state.timings ∧
      s'.monotonicStartMs = s.monotonicStartMs ∧ s'.activePhase = s.activePhase) :
    Working b n d s' v := by
  obtain ⟨hstate, hsequence, hphase, htimings, hstart, hactive⟩ := hs
  have hinv : JobInv b s' v := {
    sequence := by rw [hsequence, hw.sequence]
    bound := hw.bound
    announced := hw.announced
    live := hw.live
    phases := by rw [hphase]; exact hw.phases
    timings := by rw [hphase, htimings, hactive]; exact hw.timings
    start := by rw [hstart]; exact hw.start
    active := by rw [hstart, hactive]; exact hw.active }
  exact hw.kept hinv (Kept.refl.of_state hstate) (by rw [hphase]; exact hw.rank)

theorem Working.mono {b' n' : Nat} (hb : b ≤ b') (hn : n ≤ n') :
    Working b' n' d s v :=
  hw.kept (hw.toJobInv.mono hb) .refl (le_trans hw.rank hn)

/-- The next hook may be called. -/
theorem Working.allowsHook : v.AllowsHook :=
  ⟨hw.cancelled, hw.root, hw.cleanups⟩

/-- The work stops with an excuse. -/
theorem Working.stopped (hb : b ≤ 59) (hn : n ≤ 5) (h : v.Excused)
    (e : WorkerJobError) : Stopped e s v where
  toJobInv := hw.toJobInv.mono hb
  state := .inl hw.running
  root := hw.root
  cleanups := hw.cleanups
  rank := le_trans hw.rank hn
  excused := h

/-- Before the validation hook has succeeded, every failure is excused. -/
theorem Working.early (hd : .validate ∉ d) : v.Excused :=
  .inl fun h => hd (hw.validated h)

/-- Before the validation it needs none. -/
theorem Working.stoppedEarly (hb : b ≤ 59) (hn : n ≤ 5)
    (hd : .validate ∉ d) (e : WorkerJobError) : Stopped e s v :=
  hw.stopped hb hn (hw.early hd) e

theorem Working.disturbed (hb : b ≤ 59) (hn : n ≤ 5)
    (h : v.disturbed = true) (e : WorkerJobError) : Stopped e s v :=
  hw.stopped hb hn (.inr (.inr (.inr (.inr h)))) e

/-- The hook of a phase has succeeded. -/
theorem Working.settle (hphase : phase ≠ .validate) :
    Working b n (phase :: d) s { v with done := phase :: v.done } :=
  { hw with
    done := List.cons_subset_cons phase hw.done
    validated := fun h => by
      rcases List.mem_cons.mp h with h | h
      · exact absurd h.symm hphase
      · exact List.mem_cons_of_mem _ (hw.validated h) }

end

/-! ## Steps -/

theorem wp_quiet {x : JobM α} (hx : Quiet tools job x) (hw : Working b n d s v) (hb : b ≤ 59)
    (hn : n ≤ 5) (hd : .validate ∉ d) :
    wp (jobContract tools job) x (fun _ s' v' => s' = s ∧ Working b n d s v') Stopped s v :=
  hx.wp (fun _ _ h => ⟨rfl, hw.checks h⟩) fun _ _ h => (hw.checks h).stoppedEarly hb hn hd _

/-- An event of the pipeline. -/
theorem wp_pipelineEmit (hjob : job.validate tools = .ok ()) (hw : Working b n d s v)
    (hb : b + 1 ≤ 59) (hn : n ≤ 5) (hsafe : SafeKind tools kind)
    (hlive : isTerminalKind kind = false)
    (hfirst : kind ≠ .operationStarted "worker.ios_device_build")
    (hphase : isPhaseStarted kind = false) :
    wp (jobContract tools job) (emit tools job kind)
      (fun _ s' v' => Working (b + 1) n d s' v' ∧ v'.evidence = v.evidence) Stopped s v := by
  have hsent : ∀ s' v', Emitted kind s v s' v' ∧ JobInv (b + 1) s' v' →
      Working (b + 1) n d s' v' ∧ v'.evidence = v.evidence := by
    intro s' v' h
    obtain ⟨hsent, hinv⟩ := h
    obtain ⟨q, u, -, hs⟩ := hsent.runner
    have hrank : s'.state.phase.rank ≤ n := by
      rw [hs]
      exact hw.rank
    exact ⟨hw.kept hinv hsent.kept hrank, hsent.kept.evidence⟩
  apply wp_mono (wp_emit hjob hw.toJobInv (by omega) hsafe hlive hfirst fun h => by simp [hphase] at h)
  · exact fun _ s' v' h => hsent s' v' h
  · intro e s' v' h
    obtain ⟨h, hdisturbed, -⟩ := h
    exact (hsent s' v' h).1.disturbed hb hn hdisturbed e

/-- A look at the cancellation. -/
theorem wp_pipelineCheckCancelled (hw : Working b n d s v) (hb : b ≤ 59) (hn : n ≤ 5) :
    wp (jobContract tools job) checkCancelled (fun _ s' v' => s' = s ∧ v' = v) Stopped s v := by
  apply wp_mono (wp_checkCancelled hw.cancelled)
  · exact fun _ _ _ h => h
  · intro e s' v' h
    obtain ⟨-, hs, hv⟩ := h
    have hinv := hw.toJobInv.mono hb
    rw [hs, hv]
    exact {
      sequence := hinv.sequence, bound := hinv.bound, announced := hinv.announced
      live := hinv.live, phases := hinv.phases, timings := hinv.timings, start := hinv.start
      active := hinv.active
      state := .inl hw.running
      root := hw.root
      cleanups := hw.cleanups
      rank := le_trans hw.rank hn
      excused := .inr (.inr (.inr (.inl rfl))) }

theorem wp_startPhase (hjob : job.validate tools = .ok ()) (hw : Working b n d s v)
    (hb : b + 1 ≤ 59) (hrank : n < phase.rank) (hlast : phase.rank ≤ 5) (hd : .validate ∉ d) :
    wp (jobContract tools job) (startPhase tools job phase)
      (fun _ s' v' => Working (b + 1) phase.rank d s' v' ∧ s'.activePhase.isSome = true)
      Stopped s v := by
  simp only [startPhase, wp_bind]
  apply wp_mono (wp_pipelineCheckCancelled hw (by omega) (by omega))
  · intro _ s₁ v₁ h
    obtain ⟨hs, hv⟩ := h
    rw [hs, hv]
    have hcurrent : s.state.phase.rank < phase.rank := lt_of_le_of_lt hw.rank hrank
    apply wp_mono (wp_startPhaseWithoutCancellation hjob hw.toJobInv (by omega) hcurrent)
    · intro _ s' v' h
      obtain ⟨⟨hinv, hkept⟩, hphase, hactive⟩ := h
      exact ⟨hw.kept hinv hkept (by rw [hphase]), hactive⟩
    · intro e s' v' h
      obtain ⟨⟨hinv, hkept⟩, hle, -, -⟩ := h
      exact (hw.kept hinv hkept hle).stoppedEarly hb hlast hd e
  · exact fun _ _ _ h => h

/-- A hook has answered, and the phase is settled. Once the validation hook has succeeded, only
    a cancellation or a disturbance stops the pipeline here. -/
theorem wp_settlePhase {result : Except WorkerJobError α} (hw : Working b n d s v) (hb : b ≤ 59)
    (hn : n ≤ 5) (hactive : .validate ∈ d → s.activePhase.isSome = true)
    (hfailed : ∀ e, result = .error e → .validate ∉ d) :
    wp (jobContract tools job) (settlePhase result)
      (fun a s' v' => result = .ok a ∧ Working b n d s' v' ∧ v'.evidence = v.evidence)
      Stopped s v := by
  simp only [settlePhase, wp_bind, wp_attempt]
  apply wp_mono (wp_finishPhase hw.toJobInv)
  · intro _ s₁ v₁ h
    obtain ⟨⟨hinv, hkept⟩, hphase, -⟩ := h
    -- the end of the phase keeps what the phase has reached
    have hw₁ : Working b n d s₁ v₁ := hw.kept hinv hkept (by rw [hphase]; exact hw.rank)
    rw [wp_ofExcept]
    constructor
    · intro a hresult
      simp only [wp_ofExcept]
      refine ⟨fun _ _ => ?_, fun _ h => (by cases h)⟩
      apply wp_mono (wp_pipelineCheckCancelled hw₁ hb hn)
      · intro _ s₂ v₂ h
        obtain ⟨hs, hv⟩ := h
        rw [hs, hv]
        apply wp_mono (wp_verifyRoot rfl)
        · intro _ s' v' h
          obtain ⟨hs, hchecks⟩ := h
          rw [hs]
          exact ⟨hresult, hw₁.checks hchecks, hchecks.evidence.trans hkept.evidence⟩
        · intro e s' v' h
          obtain ⟨hs, hchecks, hdisturbed, -⟩ := h
          rw [hs]
          exact (hw₁.checks hchecks).disturbed hb hn hdisturbed e
      · exact fun _ _ _ h => h
    · exact fun e he => hw₁.stoppedEarly hb hn (hfailed e he) e
  · intro failure s₁ v₁ h
    obtain ⟨⟨hinv, hkept⟩, hphase, -, -, hdisturbed⟩ := h
    have hw₁ : Working b n d s₁ v₁ := hw.kept hinv hkept (by rw [hphase]; exact hw.rank)
    rw [wp_ofExcept]
    constructor
    · intro a hresult
      rw [wp_ofExcept]
      refine ⟨fun _ h => (by cases h), fun e _ => ?_⟩
      by_cases hd : .validate ∈ d
      · exact hw₁.disturbed hb hn (hdisturbed (hactive hd)) e
      · exact hw₁.stoppedEarly hb hn hd e
    · exact fun e he => hw₁.stoppedEarly hb hn (hfailed e he) e

/-! ## Source -/

/-- The hooks that have succeeded when the source is prepared. -/
def sourceHooks (job : WorkerJobManifest) : List WorkerJobPhase :=
  match job.sourceInput with
  | .snapshot .. => []
  | .git => [.sourceVerification]

/-- The archive is accepted. -/
theorem wp_acceptSourceArchive {path : JobPath} {verified : Option Snapshot.SourceArchive}
    (hw : Working b n d s v) :
    wp (jobContract tools job) (acceptSourceArchive path verified)
      (fun _ s' v' => Working b n d s' v') Stopped s v := by
  cases verified with
  | none => exact hw
  | some archive =>
    simp only [acceptSourceArchive, wp_attempt, wp_bind]
    apply (quiet_removeVerifiedInputFile path).wp
    · intro _ v' h
      exact (hw.checks h).same ⟨rfl, rfl, rfl, rfl, rfl, rfl⟩
    · exact fun _ v' h => hw.checks h

/-- The snapshot is extracted. -/
theorem wp_extractSnapshot {path : JobPath} {archive : Snapshot.SourceArchive}
    (hw : Working b n d s v) (hb : b ≤ 59) (hn : n ≤ 5) (hd : .validate ∉ d) :
    wp (jobContract tools job) (extractSnapshot job path archive)
      (fun _ s' v' => Working b n d s' v') Stopped s v := by
  simp only [extractSnapshot, wp_bind]
  apply wp_mono (wp_quiet (quiet_validateFile _ _ _) hw hb hn hd)
  · intro _ s₁ v₁ h
    obtain ⟨hs, hw₁⟩ := h
    rw [hs]
    exact wp_call trivial fun _ => wp_acceptSourceArchive hw₁
  · exact fun _ _ _ h => h

/-- The revision is checked out. -/
theorem wp_materializeRevision (hw : Working b n [] s v) (hb : b ≤ 59) (hn : n ≤ 5) :
    wp (jobContract tools job) (materializeRevision job)
      (fun _ s' v' => Working b n [.sourceVerification] s' v') Stopped s v := by
  have hd : WorkerJobPhase.validate ∉ ([] : List WorkerJobPhase) := List.not_mem_nil
  simp only [materializeRevision, wp_bind, wp_ofOption]
  refine ⟨fun repository _ => ⟨fun revision _ => ?_, ?_⟩, ?_⟩
  · apply wp_call
    · exact hw.allowsHook
    · intro result
      rw [wp_ofExcept]
      cases result with
      | ok _ =>
        refine ⟨fun _ _ => ?_, fun _ h => (by cases h)⟩
        exact wp_call trivial fun _ => hw.settle (by decide)
      | error failure =>
        exact ⟨fun _ h => (by cases h), fun e _ => hw.stoppedEarly hb hn hd e⟩
  · exact fun _ => hw.stoppedEarly hb hn hd _
  · exact fun _ => hw.stoppedEarly hb hn hd _

/-- The source, either way. -/
theorem wp_materializeSource (hw : Working b n [] s v) (hb : b ≤ 59) (hn : n ≤ 5) :
    wp (jobContract tools job) (materializeSource job)
      (fun _ s' v' => Working b n (sourceHooks job) s' v') Stopped s v := by
  cases hinput : job.sourceInput with
  | snapshot archivePath archive =>
    simp only [materializeSource, sourceHooks, hinput]
    exact wp_extractSnapshot hw hb hn List.not_mem_nil
  | git =>
    simp only [materializeSource, sourceHooks, hinput]
    exact wp_materializeRevision hw hb hn

theorem not_mem_sourceHooks : WorkerJobPhase.validate ∉ sourceHooks job := by
  unfold sourceHooks
  split <;> decide

theorem wp_prepareSource (hjob : job.validate tools = .ok ()) (hw : Working 3 0 [] s v) :
    wp (jobContract tools job) (prepareSource tools job)
      (fun _ s' v' => Working 6 1 (sourceHooks job) s' v') Stopped s v := by
  have hd : WorkerJobPhase.validate ∉ sourceHooks job := not_mem_sourceHooks
  simp only [prepareSource, wp_bind]
  apply wp_imp (wp_startPhase hjob hw (by omega) (by decide) (by decide) List.not_mem_nil)
  intro _ s₁ v₁ h
  obtain ⟨hw₁, -⟩ := h
  rw [wp_ensure]
  refine ⟨fun _ => ?_, fun _ => hw₁.stoppedEarly (by omega) (by decide) List.not_mem_nil _⟩
  apply wp_imp (wp_pipelineEmit hjob hw₁ (by omega) (by decide) (safe_sourcePrepared _ _) rfl
    (fun h => (by cases h)) rfl)
  intro _ s₂ v₂ h
  apply wp_imp (wp_materializeSource h.1 (by omega) (by decide))
  intro result s₃ v₃ hw₃
  apply wp_imp (wp_settlePhase hw₃ (by omega) (by decide) (fun h => absurd h hd)
    fun _ _ => hd)
  intro _ s₄ v₄ h
  obtain ⟨-, hw₄, -⟩ := h
  apply wp_imp (wp_quiet (quiet_validateProjectDirectory _ _) hw₄ (by omega) (by decide) hd)
  intro _ s₅ v₅ h
  obtain ⟨hs, hw₅⟩ := h
  rw [hs]
  have hw₆ : Working 5 1 (sourceHooks job) { s₄ with state :=
      { s₄.state with sourceSha256 := some job.request.source.sha256 } } v₅ :=
    hw₅.same ⟨rfl, rfl, rfl, rfl, rfl, rfl⟩
  apply wp_imp (wp_pipelineEmit hjob hw₆ (by omega) (by decide) (safe_sourceVerified hjob) rfl
    (fun h => (by cases h)) rfl)
  exact fun _ _ _ h => h.1

/-! ## Build, signing and export -/

/-- A hook before validation has answered: the phase is settled, and the hook has succeeded. -/
theorem wp_settleHook {result : HookResult α} (hphase : phase ≠ .validate) (hw : Working b n d s v)
    (hb : b ≤ 59) (hn : n ≤ 5) (hd : .validate ∉ d) :
    wp (jobContract tools job) (settlePhase (callHook phase result))
      (fun _ s' v' => Working b n (phase :: d) s' v') Stopped s (v.settle phase result) := by
  cases result with
  | error failure =>
    apply wp_imp (wp_settlePhase hw hb hn (fun h => absurd h hd) fun _ _ => hd)
    intro _ _ _ h
    cases h.1
  | ok output =>
    have hd' : WorkerJobPhase.validate ∉ phase :: d := by
      intro hmem
      rcases List.mem_cons.mp hmem with h | h
      · exact hphase h.symm
      · exact hd h
    apply wp_imp (wp_settlePhase (hw.settle hphase) hb hn (fun h => absurd h hd')
      fun _ _ => hd')
    exact fun _ _ _ h => h.2.1

theorem wp_runBuild (hjob : job.validate tools = .ok ()) (hw : Working 6 1 d s v)
    (hd : .validate ∉ d) :
    wp (jobContract tools job) (runBuild tools job)
      (fun _ s' v' => Working 7 2 (.build :: d) s' v') Stopped s v := by
  have hd' : WorkerJobPhase.validate ∉ WorkerJobPhase.build :: d := by simpa using hd
  simp only [runBuild, wp_bind]
  apply wp_imp (wp_startPhase hjob hw (by omega) (by decide) (by decide) hd)
  intro _ s₁ v₁ h
  obtain ⟨hw₁, -⟩ := h
  apply wp_call
  · exact hw₁.allowsHook
  intro result
  apply wp_imp (wp_settleHook (by decide) hw₁ (by omega) (by decide) hd)
  intro output s₂ v₂ hw₂
  rw [wp_ensure]
  refine ⟨fun _ => ?_, fun _ => hw₂.stoppedEarly (by omega) (by decide) hd' _⟩
  apply wp_imp (wp_quiet (quiet_validateBoundDirectory _ _) hw₂ (by omega) (by decide) hd')
  intro _ s₃ v₃ h
  obtain ⟨hs, hw₃⟩ := h
  rw [hs]
  apply wp_imp (wp_quiet (quiet_validateBoundDirectory _ _) hw₃ (by omega) (by decide) hd')
  intro _ s₄ v₄ h
  obtain ⟨hs, hw₄⟩ := h
  rw [hs]
  exact hw₄.same ⟨rfl, rfl, rfl, rfl, rfl, rfl⟩

/-- The archive is signed. -/
theorem wp_signArchive (hjob : job.validate tools = .ok ()) (hw : Working 7 2 d s v)
    (hd : .validate ∉ d) :
    wp (jobContract tools job) (signArchive tools job build)
      (fun _ s' v' => Working 9 3 (.sign :: d) s' v') Stopped s v := by
  have hd' : WorkerJobPhase.validate ∉ WorkerJobPhase.sign :: d := by simpa using hd
  simp only [signArchive, wp_bind]
  apply wp_imp (wp_startPhase hjob hw (by omega) (by decide) (by decide) hd)
  intro _ s₁ v₁ h
  obtain ⟨hw₁, -⟩ := h
  apply wp_imp (wp_quiet (quiet_prepareFreshDirectory _) hw₁ (by omega) (by decide) hd)
  intro _ s₂ v₂ h
  obtain ⟨hs, hw₂⟩ := h
  rw [hs]
  apply wp_imp (wp_pipelineEmit hjob hw₂ (by omega) (by decide) (safe_signingStarted _) rfl
    (fun h => (by cases h)) rfl)
  intro _ s₃ v₃ h
  obtain ⟨hw₃, -⟩ := h
  apply wp_call
  · exact hw₃.allowsHook
  intro result
  apply wp_imp (wp_settleHook (by decide) hw₃ (by omega) (by decide) hd)
  intro output s₄ v₄ hw₄
  rw [wp_ensure]
  refine ⟨fun _ => ?_, fun _ => hw₄.stoppedEarly (by omega) (by decide) hd' _⟩
  apply wp_imp (wp_quiet (quiet_validateBoundDirectory _ _) hw₄ (by omega) (by decide) hd')
  intro _ s₅ v₅ h
  obtain ⟨hs, hw₅⟩ := h
  rw [hs]
  exact hw₅.same ⟨rfl, rfl, rfl, rfl, rfl, rfl⟩

/-- The hooks that have succeeded when the build is signed, after those before. -/
def signHooks (job : WorkerJobManifest) : List WorkerJobPhase :=
  if job.request.signing.mode.isSigned then [.sign] else []

theorem not_mem_signHooks (hd : .validate ∉ d) : .validate ∉ signHooks job ++ d := by
  unfold signHooks
  split
  · simpa using hd
  · exact hd

/-- The signing phase, if any. -/
theorem wp_runSign (hjob : job.validate tools = .ok ()) (hw : Working 7 2 d s v)
    (hd : .validate ∉ d) :
    wp (jobContract tools job) (runSign tools job build)
      (fun _ s' v' => Working 9 3 (signHooks job ++ d) s' v') Stopped s v := by
  by_cases hsigned : job.request.signing.mode.isSigned = true
  · simp only [runSign, signHooks, hsigned, if_true, wp_bind]
    exact wp_signArchive hjob hw hd
  · simp only [runSign, signHooks, hsigned]
    exact hw.mono (by omega) (by omega)

/-- A candidate is announced. -/
theorem wp_announceCandidate {candidate : WorkerArtifactCandidate}
    (hjob : job.validate tools = .ok ()) (hw : Working b 4 d s v) (hb : b + 1 ≤ 59)
    (hd : .validate ∉ d) :
    wp (jobContract tools job) (announceCandidate tools job candidate)
      (fun _ s' v' => Working (b + 1) 4 d s' v') Stopped s v := by
  simp only [announceCandidate, wp_bind, wp_ensure]
  refine ⟨fun _ => ?_, fun _ => hw.stoppedEarly (by omega) (by decide) hd _⟩
  apply wp_imp (wp_quiet (quiet_validateFile _ _ _) hw (by omega) (by decide) hd)
  intro _ s₁ v₁ h
  obtain ⟨hs, hw₁⟩ := h
  rw [hs]
  apply wp_imp (wp_pipelineEmit hjob hw₁ hb (by decide) (safe_artifactCreated candidate) rfl
    (fun h => (by cases h)) rfl)
  exact fun _ _ _ h => h.1

theorem candidates_length (exported : WorkerExportOutput) : exported.candidates.length ≤ 32 := by
  have hvalid := exported.valid
  simp only [isExportOutput, Bool.and_eq_true, decide_eq_true_eq] at hvalid
  exact hvalid.1.1.2

theorem manifests_length (output : WorkerValidationOutput) : output.manifests.length ≤ 16 := by
  have hvalid := output.valid
  simp only [isValidationOutput, Bool.and_eq_true, decide_eq_true_eq] at hvalid
  exact hvalid.2

theorem wp_runExport {signing : Option WorkerSignOutput} (hjob : job.validate tools = .ok ())
    (hw : Working 9 3 d s v) (hd : .validate ∉ d) :
    wp (jobContract tools job) (runExport tools job build signing)
      (fun _ s' v' => Working 42 4 (.exporting :: d) s' v') Stopped s v := by
  have hd' : WorkerJobPhase.validate ∉ WorkerJobPhase.exporting :: d := by simpa using hd
  simp only [runExport, wp_bind]
  apply wp_imp (wp_startPhase hjob hw (by omega) (by decide) (by decide) hd)
  intro _ s₁ v₁ h
  obtain ⟨hw₁, -⟩ := h
  apply wp_imp (wp_quiet (quiet_prepareFreshDirectory _) hw₁ (by omega) (by decide) hd)
  intro _ s₂ v₂ h
  obtain ⟨hs, hw₂⟩ := h
  rw [hs]
  apply wp_call
  · exact hw₂.allowsHook
  intro result
  apply wp_imp (wp_settleHook (by decide) hw₂ (by omega) (by decide) hd)
  intro exported s₃ v₃ hw₃
  have hlength := candidates_length exported
  rw [wp_ensure]
  refine ⟨fun _ => ?_, fun _ => hw₃.stoppedEarly (by omega) (by decide) hd' _⟩
  -- one event for each candidate
  have hloop := wp_forM (C := jobContract tools job) (l := exported.candidates)
    (f := announceCandidate tools job)
    (I := fun done s' v' => Working (10 + done.length) 4 (.exporting :: d) s' v')
    (E := Stopped) hw₃ (by
      intro done candidate rest s' v' hsplit hw'
      have hmem : done.length + 1 ≤ exported.candidates.length := by
        rw [hsplit, List.length_append, List.length_cons]
        omega
      rw [List.length_append, List.length_singleton, ← Nat.add_assoc]
      exact wp_announceCandidate hjob hw' (by omega) hd')
  apply wp_mono hloop
  · exact fun _ _ _ hw' => hw'.mono (by omega) (by omega)
  · exact fun _ _ _ h => h

/-! ## Validation -/

/-- The validation hook has succeeded. -/
theorem Working.judge (hw : Working b n d s v) (evidence : Bool) :
    Working b n (.validate :: d) s
      { v with done := .validate :: v.done, evidence := some evidence } :=
  { hw with
    done := List.cons_subset_cons _ hw.done
    validated := fun _ => List.mem_cons_self }

/-- The record of a candidate is missing, its file does not match, or it is verified. -/
theorem wp_verifyCandidate {candidate : WorkerArtifactCandidate} (hw : Working b n d s v)
    (hb : b ≤ 59) (hn : n ≤ 5)
    (hmissing : candidateRecord manifests candidate = none → v.evidence = some false) :
    wp (jobContract tools job) (verifyCandidate manifests candidate)
      (fun _ s' v' => Working b n d s' v' ∧ v'.evidence = v.evidence ∧
        (candidateRecord manifests candidate).isSome = true) Stopped s v := by
  simp only [verifyCandidate, wp_bind, wp_ofOption]
  constructor
  · intro record hrecord
    apply wp_call
    · trivial
    intro verified
    rw [wp_ensure]
    constructor
    · intro hverified
      -- the file was verified, so the view has not changed
      have hview : v.next job (.verifyDownloadedFile candidate.path.resolve record) verified =
          v := by
        show { v with rejected := v.rejected || !verified } = v
        rw [hverified, Bool.not_true, Bool.or_false]
      rw [hview]
      apply wp_mono (wp_verifyRoot rfl)
      · intro _ s' v' h
        obtain ⟨hs, hchecks⟩ := h
        rw [hs]
        exact ⟨hw.checks hchecks, hchecks.evidence, by rw [hrecord]; rfl⟩
      · intro e s' v' h
        obtain ⟨hs, hchecks, hdisturbed, -⟩ := h
        rw [hs]
        exact (hw.checks hchecks).disturbed hb hn hdisturbed e
    · intro hverified
      have hview : v.next job (.verifyDownloadedFile candidate.path.resolve record) verified =
          { v with rejected := true } := by
        show { v with rejected := v.rejected || !verified } = { v with rejected := true }
        rw [hverified, Bool.not_false, Bool.or_true]
      rw [hview]
      have hinv := hw.toJobInv.mono hb
      exact {
        sequence := hinv.sequence, bound := hinv.bound, announced := hinv.announced
        live := hinv.live, phases := hinv.phases, timings := hinv.timings, start := hinv.start
        active := hinv.active
        state := .inl hw.running
        root := hw.root
        cleanups := hw.cleanups
        rank := le_trans hw.rank hn
        excused := .inr (.inr (.inl rfl)) }
  · exact fun hnone => hw.stopped hb hn (.inr (.inl (hmissing hnone))) _

/-- The manifests are checked once more. -/
theorem wp_validateArtifactOutput (hw : Working b n d s v) (hb : b ≤ 59) (hn : n ≤ 5)
    (hevidence : v.evidence = some (evidenceHolds job exported manifests)) :
    wp (jobContract tools job) (validateArtifactOutput job exported manifests)
      (fun _ s' v' => Working b n d s' v' ∧ v'.evidence = some true ∧
        acceptsManifests job exported manifests = true) Stopped s v := by
  simp only [validateArtifactOutput, wp_bind, wp_ensure]
  constructor
  · intro haccepts
    -- every candidate has its record, or the evidence does not hold
    have hloop := wp_forM (C := jobContract tools job) (l := exported.candidates)
      (f := verifyCandidate manifests)
      (I := fun done s' v' => Working b n d s' v' ∧ v'.evidence = v.evidence ∧
        ∀ candidate ∈ done, (candidateRecord manifests candidate).isSome = true)
      (E := Stopped) ⟨hw, rfl, by simp⟩ (by
        intro done candidate rest s' v' hsplit hdone
        obtain ⟨hw', hsame, hrecords⟩ := hdone
        have hmissing : candidateRecord manifests candidate = none → v'.evidence = some false := by
          intro hnone
          rw [hsame, hevidence, evidenceHolds, hsplit, List.all_append, List.all_cons, hnone]
          simp
        apply wp_imp (wp_verifyCandidate hw' hb hn hmissing)
        intro _ s₁ v₁ h
        obtain ⟨hw₁, hkeep, hrecord⟩ := h
        refine ⟨hw₁, hkeep.trans hsame, ?_⟩
        intro c hc
        rcases List.mem_append.mp hc with hc | hc
        · exact hrecords c hc
        · rw [List.mem_singleton.mp hc]
          exact hrecord)
    apply wp_imp hloop
    intro _ s' v' h
    obtain ⟨hw', hsame, hrecords⟩ := h
    refine ⟨hw', ?_, haccepts⟩
    rw [hsame, hevidence, evidenceHolds, haccepts, Bool.true_and, List.all_eq_true.mpr hrecords]
  · intro hrefused
    apply hw.stopped hb hn
    rw [evidenceHolds, hrefused, Bool.false_and] at hevidence
    exact .inr (.inl hevidence)

/-- The manifests with which a pipeline succeeds. -/
structure Accepted (job : WorkerJobManifest) (manifests : List ArtifactManifest) : Prop where
  nonempty : manifests ≠ []
  each : ∀ manifest ∈ manifests, acceptsManifest job manifest = true

theorem accepted_of_acceptsManifests (h : acceptsManifests job exported manifests = true) :
    Accepted job manifests := by
  simp only [acceptsManifests, Bool.and_eq_true, List.all_eq_true, decide_eq_true_eq] at h
  exact ⟨h.1.1.1.1, h.1.1.2⟩

theorem wp_runValidation {signing : Option WorkerSignOutput} (hjob : job.validate tools = .ok ())
    (hw : Working 42 4 d s v) (hd : .validate ∉ d) :
    wp (jobContract tools job) (runValidation tools job build signing exported)
      (fun manifests s' v' => Working 59 5 (.validate :: d) s' v' ∧ v'.evidence = some true ∧
        Accepted job manifests) Stopped s v := by
  simp only [runValidation, wp_bind]
  apply wp_imp (wp_startPhase hjob hw (by omega) (by decide) (by decide) hd)
  intro _ s₁ v₁ h
  obtain ⟨hw₁, hactive⟩ := h
  apply wp_call
  · exact hw₁.allowsHook
  intro result
  cases result with
  | error failure =>
    apply wp_imp (wp_settlePhase hw₁ (by omega) (by decide) (fun h => absurd h hd)
      fun _ _ => hd)
    intro _ _ _ h
    cases h.1
  | ok output =>
    have hlength := manifests_length output
    have hw₂ : Working 43 5 (.validate :: d) s₁ { v₁ with
        done := .validate :: v₁.done
        evidence := some (evidenceHolds job exported output.manifests) } := hw₁.judge _
    apply wp_imp (wp_settlePhase hw₂ (by omega) (by decide) (fun _ => hactive)
      fun _ h => (by cases h))
    intro settled s₂ v₂ h
    obtain ⟨hsettled, hw₃, hsame⟩ := h
    rw [← Except.ok.inj hsettled]
    apply wp_imp (wp_validateArtifactOutput hw₃ (by omega) (by decide) hsame)
    intro _ s₃ v₃ h
    obtain ⟨hw₄, hevidence, haccepts⟩ := h
    have haccepted := accepted_of_acceptsManifests haccepts
    -- one event for each manifest
    have hloop := wp_forM (C := jobContract tools job) (l := output.manifests)
      (f := fun artifact => emit tools job (.artifactValidated artifact))
      (I := fun done s' v' => Working (43 + done.length) 5 (.validate :: d) s' v' ∧
        v'.evidence = some true)
      (E := Stopped) ⟨hw₄, hevidence⟩ (by
        intro done artifact rest s' v' hsplit hdone
        obtain ⟨hw', hheld⟩ := hdone
        have hmem : artifact ∈ output.manifests := by
          rw [hsplit]
          exact List.mem_append_right done List.mem_cons_self
        have hcount : done.length + 1 ≤ output.manifests.length := by
          rw [hsplit, List.length_append, List.length_cons]
          omega
        have hsafe := safe_artifactValidated hjob (haccepted.each artifact hmem)
        rw [List.length_append, List.length_singleton, ← Nat.add_assoc]
        apply wp_imp (wp_pipelineEmit hjob hw' (by omega) (by decide) hsafe rfl
          (fun h => (by cases h)) rfl)
        intro _ s'' v'' h
        exact ⟨h.1, h.2.trans hheld⟩)
    apply wp_imp hloop
    intro _ s' v' h
    exact ⟨h.1.mono (by omega) (by omega), h.2, haccepted⟩

/-! ## Pipeline -/

/-- The hooks that have succeeded when the pipeline has. -/
def requiredHooks (job : WorkerJobManifest) : List WorkerJobPhase :=
  .validate :: .exporting :: (signHooks job ++ .build :: sourceHooks job)

/-- The runner and the view before the pipeline begins. -/
structure Fresh (s : WorkerJobRunner) (v : JobView) : Prop where
  sequence : s.state.sequence = 0
  state : s.state.state = .created
  phase : s.state.phase = .accepted
  timings : s.state.timings = []
  activePhase : s.activePhase = none
  events : v.events = []
  root : v.root = none
  cleanups : v.cleanups = 0
  cancelled : v.cancelled = false
  done : v.done = []
  rejected : v.rejected = false
  start : s.monotonicStartMs ≤ v.clock

/-- The job is announced, and not running yet. -/
structure Announced (b : Nat) (s : WorkerJobRunner) (v : JobView) : Prop extends JobInv b s v where
  state : s.state.state = .created
  phase : s.state.phase = .accepted
  root : v.root = none
  cleanups : v.cleanups = 0
  cancelled : v.cancelled = false
  done : v.done = []
  rejected : v.rejected = false

/-- The announcements stop. -/
theorem Announced.stopped (ha : Announced b s v) (hb : b ≤ 59) {e : WorkerJobError}
    (he : e ≠ .cancelled) : Stopped e s v where
  toJobInv := ha.toJobInv.mono hb
  state := .inr ⟨ha.state, he⟩
  root := ha.root
  cleanups := ha.cleanups
  rank := by rw [ha.phase]; decide
  excused := .inl (by rw [ha.done]; exact List.not_mem_nil)

/-- One announcement more. -/
theorem Announced.sent {b' : Nat} (ha : Announced b s v) (hsent : Emitted kind s v s' v')
    (hinv : JobInv b' s' v') : Announced b' s' v' := by
  have hkept := hsent.kept
  obtain ⟨q, u, -, hs⟩ := hsent.runner
  exact {
    toJobInv := hinv
    state := hkept.state.trans ha.state
    phase := by rw [hs]; exact ha.phase
    root := hkept.root.trans ha.root
    cleanups := hkept.cleanups.trans ha.cleanups
    cancelled := hkept.cancelled.trans ha.cancelled
    done := hkept.done.trans ha.done
    rejected := hkept.rejected.trans ha.rejected }

/-- An event is announced. -/
theorem wp_announce (hjob : job.validate tools = .ok ()) (ha : Announced b s v) (hb : b + 1 ≤ 59)
    (hsafe : SafeKind tools kind) (hlive : isTerminalKind kind = false)
    (hfirst : kind ≠ .operationStarted "worker.ios_device_build")
    (hphase : isPhaseStarted kind = false) :
    wp (jobContract tools job) (emit tools job kind) (fun _ s' v' => Announced (b + 1) s' v')
      Stopped s v := by
  apply wp_mono (wp_emit hjob ha.toJobInv (by omega) hsafe hlive hfirst fun h => by simp [hphase] at h)
  · exact fun _ _ _ h => ha.sent h.1 h.2
  · intro e s' v' h
    obtain ⟨⟨hsent, hinv⟩, -, hne⟩ := h
    exact (ha.sent hsent hinv).stopped hb hne

/-- The first event starts the job. -/
theorem wp_emitFirst (hjob : job.validate tools = .ok ()) (hf : Fresh s v) :
    wp (jobContract tools job) (emit tools job (.operationStarted "worker.ios_device_build"))
      (fun _ s' v' => Announced 1 s' v') Stopped s v := by
  have hzero : s.state.sequence.toNat = v.events.length := by rw [hf.sequence, hf.events]; rfl
  have hsent : ∀ s' v', Emitted (.operationStarted "worker.ios_device_build") s v s' v' →
      Announced 1 s' v' := by
    intro s' v' h
    obtain ⟨⟨event, hkind, hphase, -, hview⟩, ⟨q, u, hq, hs⟩, -⟩ := h
    rw [hf.events] at hview
    have hevents : v'.events = [event] := by rw [hview]
    have hphases : startedPhases v'.events = [] := by
      rw [hevents, startedPhases, List.filter_cons, hkind]
      rfl
    rw [hf.events] at hq
    exact {
      sequence := by rw [hevents, hs]; exact hq
      bound := by rw [hevents]; exact le_refl _
      announced := by rw [hevents]; exact List.cons_ne_nil _ _
      live := by
        intro e he
        rw [hevents, List.mem_singleton] at he
        rw [he, hkind]
        rfl
      phases := by
        rw [hphases]
        exact fun _ h => absurd h List.not_mem_nil
      timings := by
        rw [hs]
        show s.state.timings.length + s.activePhase.toList.length ≤ s.state.phase.rank
        rw [hf.timings, hf.activePhase, hf.phase]
        exact le_refl _
      start := by rw [hview, hs]; exact hf.start
      active := by
        intro p t h
        rw [hs] at h
        rw [show s.activePhase = none from hf.activePhase] at h
        cases h
      state := by rw [hs]; exact hf.state
      phase := by rw [hs]; exact hf.phase
      root := by rw [hview]; exact hf.root
      cleanups := by rw [hview]; exact hf.cleanups
      cancelled := by rw [hview]; exact hf.cancelled
      done := by rw [hview]; exact hf.done
      rejected := by rw [hview]; exact hf.rejected }
  -- the first event may be refused, but only by the sink
  apply wp_mono (wp_emit_kind hjob hzero (by rw [hf.events]; decide) safe_operationStarted _)
  · exact fun _ _ _ h => hsent _ _ h
  · exact fun _ _ _ h => (hsent _ _ h.1).stopped (by decide) h.2.2
  · intro event hkind hphase hseq
    exact {
      sequence := hseq
      first := by rw [hkind, hf.events]; simp
      live := by rw [hf.events]; simp
      phase := by rw [hkind]; exact fun h => (by cases h) }

/-- **The pipeline** ends with the manifests of a validated build, every required hook having
    succeeded, or it has stopped with a reason and in a state that can be left. -/
theorem wp_runPipeline (hjob : job.validate tools = .ok ()) (hf : Fresh s v) :
    wp (jobContract tools job) (runPipeline tools job)
      (fun manifests s' v' => Working 59 5 (requiredHooks job) s' v' ∧ v'.evidence = some true ∧
        Accepted job manifests) Stopped s v := by
  have hsource : WorkerJobPhase.validate ∉ sourceHooks job := not_mem_sourceHooks
  have hbuild : WorkerJobPhase.validate ∉ .build :: sourceHooks job := by simpa using hsource
  have hsign : WorkerJobPhase.validate ∉ signHooks job ++ .build :: sourceHooks job :=
    not_mem_signHooks hbuild
  have hexport : WorkerJobPhase.validate ∉
      .exporting :: (signHooks job ++ .build :: sourceHooks job) := by
    simpa using hsign
  simp only [runPipeline, wp_bind]
  -- the job is announced
  apply wp_imp (wp_emitFirst hjob hf)
  intro _ s₁ v₁ ha₁
  apply wp_imp (wp_announce hjob ha₁ (by omega) safe_jobCreated rfl (fun h => (by cases h)) rfl)
  intro _ s₂ v₂ ha₂
  apply wp_imp (wp_announce hjob ha₂ (by omega) (safe_workerAssigned hjob) rfl
    (fun h => (by cases h)) rfl)
  intro _ s₃ v₃ ha₃
  apply wp_imp (wp_transition (by rw [ha₃.state]; rfl))
  intro _ s₄ v₄ h
  obtain ⟨hv, u, hs⟩ := h
  have hw : Working 3 0 [] s₄ v₄ := by
    rw [hv, hs]
    exact {
      sequence := ha₃.sequence, bound := ha₃.bound, announced := ha₃.announced
      live := ha₃.live, phases := ha₃.phases, timings := ha₃.timings, start := ha₃.start
      active := ha₃.active
      running := rfl
      root := ha₃.root
      cleanups := ha₃.cleanups
      cancelled := ha₃.cancelled
      rejected := ha₃.rejected
      rank := by rw [ha₃.phase]; exact le_refl _
      done := List.nil_subset _
      validated := by rw [ha₃.done]; exact fun h => absurd h List.not_mem_nil }
  -- the phases follow each other
  apply wp_imp (wp_quiet quiet_prepareFixedDirectories hw (by omega) (by omega)
    List.not_mem_nil)
  intro _ s₅ v₅ h
  obtain ⟨hs, hw₅⟩ := h
  rw [hs]
  apply wp_imp (wp_prepareSource hjob hw₅)
  intro _ s₆ v₆ hw₆
  apply wp_imp (wp_runBuild hjob hw₆ hsource)
  intro build s₇ v₇ hw₇
  apply wp_imp (wp_runSign hjob hw₇ hbuild)
  intro signing s₈ v₈ hw₈
  apply wp_imp (wp_runExport hjob hw₈ hsign)
  intro exported s₉ v₉ hw₉
  exact wp_runValidation hjob hw₉ hexport

end RustFerry.Worker
