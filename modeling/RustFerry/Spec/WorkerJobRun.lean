import RustFerry.Spec.WorkerJobCleanup

/-!
# A whole run of a worker job

What a run of a worker job has done when it returns, whether with a report or with an error.
-/

namespace RustFerry.Worker

open Remote Serde Artifact ProgM

variable {pipeline : Except WorkerJobError (List ArtifactManifest)} {s₀ : WorkerJobRunner}
  {tools : RequestTools} {job : WorkerJobManifest} {s s' : WorkerJobRunner} {v v' : JobView}

/-! ## End of the build -/

/-- Every hook that the job needs has succeeded, its evidence holds, every file matched, and no
    cancellation was observed. -/
structure Succeeds (job : WorkerJobManifest) (v : JobView) : Prop where
  done : requiredHooks job ⊆ v.done
  evidence : v.evidence = some true
  rejected : v.rejected = false
  cancelled : v.cancelled = false

theorem Since.succeeds (h : Since v v') (hv : Succeeds job v) : Succeeds job v' :=
  ⟨h.done ▸ hv.done, h.evidence.trans hv.evidence, h.rejected.trans hv.rejected,
    h.cancelled.trans hv.cancelled⟩

theorem Kept.excused (h : Kept s v s' v') (hv : v.Excused) : v'.Excused := h.since.excused hv

/-- How the pipeline has ended, once no phase is open. -/
def PipelineEnd (job : WorkerJobManifest) (s : WorkerJobRunner) (v : JobView) :
    Except WorkerJobError (List ArtifactManifest) → Prop
  | .ok manifests => Working 59 5 (requiredHooks job) s v ∧ v.evidence = some true ∧
      Accepted job manifests
  | .error e => Stopped e s v

/-- What stopped stays so. -/
theorem Stopped.kept {e e' : WorkerJobError} (h : Stopped e s v) (hinv : JobInv 59 s' v')
    (hkept : Kept s v s' v') (hphase : s'.state.phase = s.state.phase)
    (he : e ≠ .cancelled → e' ≠ .cancelled) : Stopped e' s' v' where
  toJobInv := hinv
  state := by
    rw [hkept.state]
    rcases h.state with hrunning | hcreated
    · exact .inl hrunning
    · exact .inr ⟨hcreated.1, he hcreated.2⟩
  root := hkept.root.trans h.root
  cleanups := hkept.cleanups.trans h.cleanups
  rank := by rw [hphase]; exact h.rank
  excused := hkept.excused h.excused

/-- The invariant at the end of the pipeline. -/
theorem PipelineEnd.inv (h : PipelineEnd job s v pipeline) : JobInv 59 s v := by
  cases pipeline with
  | ok manifests => exact h.1.toJobInv
  | error e => exact h.toJobInv

/-- A phase that is still open is closed, and the pipeline has failed if that fails. -/
theorem wp_closePipeline (h : PipelineEnd job s v pipeline) :
    wp (jobContract tools job) (attempt finishActivePhase : JobM _)
      (fun closed s' v' => PipelineEnd job s' v' (pipelineResult pipeline closed) ∧
        s'.activePhase = none) (fun _ _ _ => False) s v := by
  rw [wp_attempt]
  apply wp_mono (wp_finishActivePhase h.inv)
  · intro _ s' v' hclosed
    obtain ⟨⟨hinv, hkept⟩, hphase, hidle⟩ := hclosed
    refine ⟨?_, hidle⟩
    cases pipeline with
    | ok manifests =>
      obtain ⟨hw, hevidence, haccepted⟩ := h
      exact ⟨hw.kept hinv hkept (by rw [hphase]; exact hw.rank),
        hkept.evidence.trans hevidence, haccepted⟩
    | error e => exact Stopped.kept h hinv hkept hphase id
  · intro e s' v' hfailed
    obtain ⟨⟨hinv, hkept⟩, hphase, hidle, hne, hdisturbed⟩ := hfailed
    refine ⟨?_, hidle⟩
    cases pipeline with
    | ok manifests =>
      have hw : Working 59 5 (requiredHooks job) s' v' :=
        h.1.kept hinv hkept (by rw [hphase]; exact h.1.rank)
      exact hw.disturbed (by omega) (by omega) hdisturbed e
    | error e' => exact Stopped.kept h hinv hkept hphase fun _ => hne

/-- The build has ended: it has succeeded with accepted manifests, or it has failed or was
    cancelled for a reason. -/
structure BuildEnded (job : WorkerJobManifest) (ended : BuildEnd) (s : WorkerJobRunner)
    (v : JobView) : Prop extends Ended ended.buildState s v where
  succeeded : ended.buildState = .succeeded → ended.failure = none ∧ ended.cancelled = false ∧
    Succeeds job v ∧ Accepted job ended.manifests
  stopped : ended.buildState ≠ .succeeded → (ended.failure = none ↔ ended.cancelled = true)
  excused : ended.buildState ≠ .succeeded → ended.manifests = [] ∧ v.Excused
  clean : ∀ failure, ended.failure = some failure → CleanFailure failure

/-- The end of the build is settled. -/
theorem wp_endBuild (h : PipelineEnd job s v pipeline) (hidle : s.activePhase = none) :
    wp (jobContract tools job) (endBuild pipeline) (fun ended s' v' => BuildEnded job ended s' v')
      (fun _ _ _ => False) s v := by
  cases pipeline with
  | ok manifests =>
    obtain ⟨hw, hevidence, haccepted⟩ := h
    simp only [endBuild, wp_bind]
    apply wp_imp (wp_transition (by rw [hw.running]; rfl))
    intro _ s' v' h
    obtain ⟨hv, u, hs⟩ := h
    rw [hv, hs]
    exact {
      toJobInv := hw.toJobInv.withState _ _
      state := rfl, terminal := rfl
      root := hw.root, cleanups := hw.cleanups, rank := hw.rank, idle := hidle
      succeeded := fun _ => ⟨rfl, rfl, ⟨hw.done, hevidence, hw.rejected, hw.cancelled⟩, haccepted⟩
      stopped := fun h => absurd rfl h
      excused := fun h => absurd rfl h
      clean := fun _ h => (by cases h) }
  | error e =>
    by_cases he : e = .cancelled
    · -- only a running job is cancelled
      have hrunning : s.state.state = .running := by
        rcases h.state with hrunning | hcreated
        · exact hrunning
        · exact absurd he hcreated.2
      rw [he]
      simp only [endBuild, transitionForCancellation, wp_bind, wp_get, hrunning]
      rw [if_pos (by decide), wp_bind]
      apply wp_imp (wp_transition (by rw [hrunning]; rfl))
      intro _ s₁ v₁ h₁
      obtain ⟨hv₁, u₁, hs₁⟩ := h₁
      apply wp_imp (wp_transition (by rw [hs₁]; rfl))
      intro _ s₂ v₂ h₂
      obtain ⟨hv₂, u₂, hs₂⟩ := h₂
      rw [hv₂, hv₁, hs₂, hs₁]
      exact {
        toJobInv := (h.toJobInv.withState _ _).withState _ _
        state := rfl, terminal := rfl
        root := h.root, cleanups := h.cleanups, rank := h.rank, idle := hidle
        succeeded := fun h => (by cases h)
        stopped := fun _ => ⟨fun _ => rfl, fun _ => rfl⟩
        excused := fun _ => ⟨rfl, h.excused⟩
        clean := fun _ h => (by cases h) }
    · have hfail : endBuild (.error e) = (do
          transition .failed
          return ⟨.failed, some e.publicFailure, false, []⟩ : JobM BuildEnd) := by
        cases e <;> first | rfl | exact absurd rfl he
      rw [hfail, wp_bind]
      have hcan : s.state.state.canTransitionTo .failed = true := by
        rcases h.state with hrunning | hcreated
        · rw [hrunning]; rfl
        · rw [hcreated.1]; rfl
      apply wp_imp (wp_transition hcan)
      intro _ s' v' h'
      obtain ⟨hv, u, hs⟩ := h'
      rw [hv, hs]
      exact {
        toJobInv := h.toJobInv.withState _ _
        state := rfl, terminal := rfl
        root := h.root, cleanups := h.cleanups, rank := h.rank, idle := hidle
        succeeded := fun h => (by cases h)
        stopped := fun _ => ⟨fun h => (by cases h), fun h => (by cases h)⟩
        excused := fun _ => ⟨rfl, h.excused⟩
        clean := fun failure hfailure => by
          rw [← Option.some.inj hfailure]
          exact clean_publicFailure e }

/-! ## Report -/

/-- The terminal event says the same as the report. -/
def Agrees (report : WorkerJobReport) : RemoteBuildEventKind → Prop
  | .operationFinished success _ result failure =>
    report.outcome ≠ .cancelled ∧ (success = true ↔ report.outcome = .succeeded) ∧
      result = some report.result ∧ (failure = none ↔ success = true)
  | .operationCancelled .. => report.outcome = .cancelled
  | _ => False

/-- What a report says of the run that returned it. -/
structure Truthful (job : WorkerJobManifest) (report : WorkerJobReport) (v : JobView) : Prop where
  succeeded : report.outcome = .succeeded → Succeeds job v ∧ report.result.cleanup.isSome = true
  succeeds : Succeeds job v → report.result.cleanup.isSome = true → v.disturbed = false →
    report.outcome = .succeeded
  built : report.result.state = .succeeded → Succeeds job v
  confirmed : ∀ confirmation, report.result.cleanup = some confirmation →
    Confirmed job v confirmation
  terminal : ∃ event earlier, v.events = event :: earlier ∧ isTerminalKind event.kind = true ∧
    (∀ e ∈ earlier, isTerminalKind e.kind = false) ∧ Agrees report event.kind

/-- How the outcome of a run comes about. -/
theorem jobOutcome_succeeded {ended : BuildEnd} {confirmation : Option CleanupConfirmation}
    {failure : Option WorkerPublicFailure} :
    jobOutcome ended confirmation failure = .succeeded ↔ confirmation.isSome = true ∧
      failure = none ∧ ended.cancelled = false ∧ ended.buildState = .succeeded := by
  unfold jobOutcome
  cases confirmation <;> cases failure <;> cases ended.cancelled <;> simp

theorem jobOutcome_cancelled {ended : BuildEnd} {confirmation : Option CleanupConfirmation}
    {failure : Option WorkerPublicFailure} :
    jobOutcome ended confirmation failure = .cancelled ↔ confirmation.isSome = true ∧
      failure = none ∧ ended.cancelled = true := by
  unfold jobOutcome
  by_cases hstate : ended.buildState = .succeeded <;>
    cases confirmation <;> cases failure <;> cases ended.cancelled <;> simp [hstate]

/-- The failure that the report shows. -/
def reportedFailure (ended : BuildEnd) (cleanup : CleanupRun) : Option WorkerPublicFailure :=
  (cleanup.error.map WorkerJobError.publicFailure).or ended.failure

section

variable {ended : BuildEnd} {cleanup : CleanupRun} {v₀ : JobView}

/-- When no failure is reported. -/
theorem reportedFailure_eq_none :
    reportedFailure ended cleanup = none ↔ cleanup.error = none ∧ ended.failure = none := by
  unfold reportedFailure
  cases cleanup.error <;> simp

theorem clean_reportedFailure (hended : BuildEnded job ended s v₀) {failure : WorkerPublicFailure}
    (h : reportedFailure ended cleanup = some failure) : CleanFailure failure := by
  unfold reportedFailure at h
  cases herror : cleanup.error with
  | none =>
    rw [herror] at h
    exact hended.clean failure h
  | some e =>
    rw [herror] at h
    rw [← Option.some.inj h]
    exact clean_publicFailure e

/-- Without a failure the cleanup is confirmed. -/
theorem Outcome.isSome_of_none (h : Outcome job v cleanup)
    (hnone : reportedFailure ended cleanup = none) : cleanup.confirmation.isSome = true := by
  obtain ⟨herror, -⟩ := reportedFailure_eq_none.mp hnone
  cases hconfirmation : cleanup.confirmation with
  | some _ => rfl
  | none =>
    have hsome := h.failed hconfirmation
    rw [herror] at hsome
    exact hsome

/-- Without a failure the build was cancelled, or it has succeeded. -/
theorem BuildEnded.succeeded_or_cancelled (hended : BuildEnded job ended s v₀)
    (hnone : ended.failure = none) : ended.cancelled = !decide (ended.buildState = .succeeded) := by
  by_cases hsucceeded : ended.buildState = .succeeded
  · rw [(hended.succeeded hsucceeded).2.1, decide_eq_true hsucceeded]
    rfl
  · rw [(hended.stopped hsucceeded).mp hnone, decide_eq_false hsucceeded]
    rfl

/-- The terminal event of a run: what it says is safe and agrees with the report. -/
theorem terminalEvent_spec (hjob : job.validate tools = .ok ())
    (hended : BuildEnded job ended s₀ v₀) (houtcome : Outcome job v cleanup)
    (report : WorkerJobReport) (durationMs : UInt64)
    (hresult : report.result = buildResult job ended cleanup.confirmation)
    (hreport : report.outcome = jobOutcome ended cleanup.confirmation (reportedFailure ended
      cleanup)) :
    SafeKind tools (terminalEvent ended report.outcome report.result
      (reportedFailure ended cleanup) durationMs) ∧
    isTerminalKind (terminalEvent ended report.outcome report.result
      (reportedFailure ended cleanup) durationMs) = true ∧
    Agrees report (terminalEvent ended report.outcome report.result
      (reportedFailure ended cleanup) durationMs) := by
  have hmanifests : ∀ manifest ∈ ended.manifests, acceptsManifest job manifest = true := by
    by_cases hsucceeded : ended.buildState = .succeeded
    · exact (hended.succeeded hsucceeded).2.2.2.each
    · rw [(hended.excused hsucceeded).1]
      exact fun _ h => absurd h List.not_mem_nil
  have hconfirmation : ∀ c, cleanup.confirmation = some c → Clean c.jobId := by
    intro c hc
    rw [(houtcome.confirmed c hc).jobId]
    exact clean_of_identifier (isIdentifier_jobs hjob).1
  -- without a failure the job was cancelled or has succeeded
  cases hfailure : reportedFailure ended cleanup with
  | none =>
    have hsome := houtcome.isSome_of_none hfailure
    have hstate := hended.succeeded_or_cancelled (reportedFailure_eq_none.mp hfailure).2
    cases hcancelled : ended.cancelled with
    | true =>
      have hout : report.outcome = .cancelled := by
        rw [hreport, jobOutcome_cancelled]
        exact ⟨hsome, hfailure, hcancelled⟩
      simp only [terminalEvent, hcancelled, Option.isNone_none, Bool.and_self, if_true]
      exact ⟨safe_operationCancelled durationMs, rfl, hout⟩
    | false =>
      have hout : report.outcome = .succeeded := by
        rw [hcancelled] at hstate
        rw [hreport, jobOutcome_succeeded]
        exact ⟨hsome, hfailure, hcancelled, of_decide_eq_true (by simpa using hstate)⟩
      simp only [terminalEvent, hcancelled, Bool.false_and, Bool.false_eq_true, if_false]
      refine ⟨?_, rfl, ?_⟩
      · rw [hresult, hout]
        exact safe_operationFinished durationMs hjob hmanifests hconfirmation
          (fun _ h => (by cases h)) rfl
      · rw [hout]
        simp [Agrees, hout]
  | some failure =>
    have hout : report.outcome ≠ .succeeded := by
      rw [hreport, ne_eq, jobOutcome_succeeded, hfailure]
      exact fun h => (by cases h.2.1)
    have hnotCancelled : report.outcome ≠ .cancelled := by
      rw [hreport, ne_eq, jobOutcome_cancelled, hfailure]
      exact fun h => (by cases h.2.1)
    simp only [terminalEvent, Option.isNone_some, Bool.and_false, Bool.false_eq_true, if_false]
    refine ⟨?_, rfl, ?_⟩
    · rw [hresult]
      apply safe_operationFinished durationMs hjob hmanifests hconfirmation
      · intro f hf
        rw [← Option.some.inj hf]
        exact clean_reportedFailure hended hfailure
      · rw [decide_eq_false hout]
        rfl
    · simp [Agrees, hout, hnotCancelled]

/-- What the report needs holds of the run before its terminal event. -/
theorem truthful_of_cleanedUp {report : WorkerJobReport} {event : RemoteBuildEvent}
    {events : List RemoteBuildEvent} (hended : BuildEnded job ended s₀ v₀) (hsince : Since v₀ v)
    (houtcome : Outcome job v cleanup)
    (hresult : report.result = buildResult job ended cleanup.confirmation)
    (hreport : report.outcome = jobOutcome ended cleanup.confirmation (reportedFailure ended
      cleanup))
    (hevents : v.events = event :: events) (hterminal : isTerminalKind event.kind = true)
    (hlive : ∀ e ∈ events, isTerminalKind e.kind = false) (hagrees : Agrees report event.kind) :
    Truthful job report v where
  succeeded := by
    intro h
    rw [hreport, jobOutcome_succeeded] at h
    obtain ⟨hsome, -, -, hstate⟩ := h
    rw [hresult]
    exact ⟨hsince.succeeds (hended.succeeded hstate).2.2.1, hsome⟩
  succeeds := by
    intro hsucceeds hsome hundisturbed
    rw [hresult] at hsome
    -- without a disturbance neither the build nor the cleanup has failed
    have hstate : ended.buildState = .succeeded := by
      by_contra hne
      have hexcused := hsince.excused (hended.excused hne).2
      unfold JobView.Excused at hexcused
      rw [hsucceeds.evidence, hsucceeds.rejected, hsucceeds.cancelled, hundisturbed] at hexcused
      have hvalidate : WorkerJobPhase.validate ∈ v.done := hsucceeds.done List.mem_cons_self
      simp [hvalidate] at hexcused
    obtain ⟨hfailure, hcancelled, -⟩ := hended.succeeded hstate
    have herror : cleanup.error = none := by
      cases herror : cleanup.error with
      | none => rfl
      | some e =>
        have hdisturbed := houtcome.disturbed hsome (by rw [herror]; rfl)
        rw [hundisturbed] at hdisturbed
        cases hdisturbed
    rw [hreport, jobOutcome_succeeded]
    exact ⟨hsome, reportedFailure_eq_none.mpr ⟨herror, hfailure⟩, hcancelled, hstate⟩
  built := by
    intro h
    rw [hresult] at h
    exact hsince.succeeds (hended.succeeded h).2.2.1
  confirmed := by
    rw [hresult]
    exact houtcome.confirmed
  terminal := ⟨event, events, hevents, hterminal, hlive, hagrees⟩

theorem isPhaseStarted_of_terminal {kind : RemoteBuildEventKind}
    (h : isTerminalKind kind = true) : isPhaseStarted kind = false := by
  cases kind <;> first | rfl | cases h

/-- The last phase is entered. -/
theorem JobInv.complete {b : Nat} (hinv : JobInv b s v) (updatedAtMs : UInt64)
    (failure : Option WorkerPublicFailure) :
    JobInv b { s with state := { s.state with
      phase := .complete, failure := failure, updatedAtMs := updatedAtMs } } v :=
  { hinv with
    phases := fun p hp => by
      obtain ⟨q, hq, -⟩ := hinv.phases p hp
      exact ⟨q, hq, rank_le q⟩
    timings := le_trans hinv.timings (rank_le _) }

/-- **The report** of a job that was cleaned up is truthful. -/
theorem wp_finishRun (hjob : job.validate tools = .ok ()) (hended : BuildEnded job ended s₀ v₀)
    (hcleaned : CleanedUp job v₀ cleanup s v) :
    wp (jobContract tools job) (finishRun tools job ended cleanup)
      (fun report _ v' => Truthful job report v' ∧ Called v') (fun _ _ v' => Called v') s v := by
  simp only [finishRun, updateState, wp_bind, wp_modify]
  apply wp_call
  · trivial
  intro now
  simp only [wp_get, wp_ofExcept]
  refine ⟨fun _ _ => ⟨fun _ _ => ?_, fun _ _ => hcleaned.called⟩, fun _ _ => hcleaned.called⟩
  -- the clock is read for the duration
  have hinv := hcleaned.toJobInv.complete (max now s.state.updatedAtMs)
    (reportedFailure ended cleanup)
  simp only [elapsedFromStart, wp_bind, wp_get]
  apply wp_monotonicTimeMs hinv
  intro finished v₁ hinv₁ hkept₁ hevents₁ _ _
  rw [wp_ensure]
  refine ⟨fun _ => ?_, fun _ => hcleaned.called.kept hkept₁⟩
  have houtcome₁ := hcleaned.outcome.kept hkept₁
  have hcalled₁ := hcleaned.called.kept hkept₁
  have hsince₁ := hcleaned.since.trans hkept₁.since
  simp only [wp_pure]
  obtain ⟨hsafe, hterminal, hagrees⟩ := terminalEvent_spec hjob hended houtcome₁
    (jobReport job s (jobOutcome ended cleanup.confirmation
      (reportedFailure ended cleanup)) (buildResult job ended cleanup.confirmation)
      (reportedFailure ended cleanup)) (finished - s.monotonicStartMs) rfl rfl
  apply wp_mono (wp_emit_kind hjob hinv₁.sequence (by have := hinv₁.bound; omega) hsafe _)
  · intro _ s₂ v₂ hsent
    have hkept₂ := hsent.kept
    obtain ⟨⟨event, hkind, -, -, hview⟩, -, -⟩ := hsent
    refine ⟨fun _ _ => ⟨?_, hcalled₁.kept hkept₂⟩, fun _ _ => hcalled₁.kept hkept₂⟩
    have hevents₂ : v₂.events = event :: v₁.events := by rw [hview]
    apply truthful_of_cleanedUp hended (hsince₁.trans hkept₂.since) (houtcome₁.kept hkept₂) rfl rfl
      hevents₂ (by rw [hkind]; exact hterminal) hinv₁.live
    rw [hkind]
    exact hagrees
  · exact fun _ _ _ h => hcalled₁.kept h.1.kept
  · intro event hkind _ hseq
    exact {
      sequence := hseq
      first := by
        rw [hkind]
        refine ⟨fun h => absurd h hinv₁.announced, fun h => ?_⟩
        rw [h] at hterminal
        cases hterminal
      live := hinv₁.live
      phase := by
        rw [hkind]
        intro h
        rw [isPhaseStarted_of_terminal hterminal] at h
        cases h }

/-- **A run** has called the cleanup hook when it returns, if the job root was still bound, and
    its report is truthful. -/
theorem wp_run (hjob : job.validate tools = .ok ()) (hf : Fresh s v) :
    wp (jobContract tools job) (run tools job)
      (fun report _ v' => Truthful job report v' ∧ Called v') (fun _ _ v' => Called v') s v := by
  simp only [run, wp_bind]
  have hpipeline : wp (jobContract tools job) (attempt (runPipeline tools job) : JobM _)
      (fun pipeline s' v' => PipelineEnd job s' v' pipeline) (fun _ _ v' => Called v') s v := by
    rw [wp_attempt]
    exact wp_runPipeline hjob hf
  apply wp_imp hpipeline
  intro pipeline s₁ v₁ h
  apply wp_mono (wp_closePipeline h) _ (fun _ _ _ h => h.elim)
  intro closed s₂ v₂ h
  obtain ⟨hend, hidle⟩ := h
  apply wp_mono (wp_endBuild hend hidle) _ (fun _ _ _ h => h.elim)
  intro ended s₃ v₃ hended
  apply wp_mono (wp_runCleanup hjob hended.toEnded) _ (fun _ _ _ h => h.elim)
  intro cleanup s₄ v₄ hcleaned
  exact wp_finishRun hjob hended hcleaned

end

end RustFerry.Worker
