import RustFerry.Spec.WorkerJobView

/-!
# Steps of a worker job

What the steps do that all phases share: sending an event, observing a cancellation, changing
the state of the job, and starting and finishing a phase.
-/

namespace RustFerry.Worker

open Remote Serde Artifact ProgM
open DataPlane.WorkerDataPlaneSequence (checkedSucc)

variable {s' : WorkerJobRunner} {v' : JobView}
  {E : WorkerJobError → WorkerJobRunner → JobView → Prop} {s : WorkerJobRunner} {v : JobView}
  {b : Nat} {kind : RemoteBuildEventKind}

/-! ## Invariant -/

/-- Between two steps: the sequence number counts the events, of which there are at most `b`;
    the job has been announced and not ended; every phase that was started is at most the
    current one, as is the number of phases that were finished or are open; and the clock has
    not been behind the start of the job or of the open phase. -/
structure JobInv (b : Nat) (s : WorkerJobRunner) (v : JobView) : Prop where
  sequence : s.state.sequence.toNat = v.events.length
  bound : v.events.length ≤ b
  announced : v.events ≠ []
  live : ∀ event ∈ v.events, isTerminalKind event.kind = false
  phases : ∀ p ∈ startedPhases v.events, ∃ q : WorkerJobPhase, p = q.eventId ∧
    q.rank ≤ s.state.phase.rank
  timings : s.state.timings.length + s.activePhase.toList.length ≤ s.state.phase.rank
  start : s.monotonicStartMs ≤ v.clock
  active : ∀ p t, s.activePhase = some (p, t) → s.monotonicStartMs ≤ t ∧ t ≤ v.clock

/-- What every step keeps of the runner and of the view. -/
structure Kept (s : WorkerJobRunner) (v : JobView) (s' : WorkerJobRunner) (v' : JobView) :
    Prop where
  state : s'.state.state = s.state.state
  root : v'.root = v.root
  cleanups : v'.cleanups = v.cleanups
  cancelled : v'.cancelled = v.cancelled
  done : v'.done = v.done
  evidence : v'.evidence = v.evidence
  rejected : v'.rejected = v.rejected
  disturbed : v.disturbed = true → v'.disturbed = true
  absent : v.absent ⊆ v'.absent

theorem Kept.refl {s : WorkerJobRunner} {v : JobView} : Kept s v s v :=
  ⟨rfl, rfl, rfl, rfl, rfl, rfl, rfl, id, List.Subset.refl _⟩

theorem Kept.trans {s₁ s₂ s₃ : WorkerJobRunner} {v₁ v₂ v₃ : JobView} (h : Kept s₁ v₁ s₂ v₂)
    (h' : Kept s₂ v₂ s₃ v₃) : Kept s₁ v₁ s₃ v₃ where
  state := h'.state.trans h.state
  root := h'.root.trans h.root
  cleanups := h'.cleanups.trans h.cleanups
  cancelled := h'.cancelled.trans h.cancelled
  done := h'.done.trans h.done
  evidence := h'.evidence.trans h.evidence
  rejected := h'.rejected.trans h.rejected
  disturbed := fun hd => h'.disturbed (h.disturbed hd)
  absent := fun _ hp => h'.absent (h.absent hp)

/-- The statement is about the state. -/
theorem Kept.of_state {s₁ : WorkerJobRunner} (h : Kept s₁ v s' v')
    (hs : s₁.state.state = s.state.state) : Kept s v s' v' :=
  { h with state := h.state.trans hs }

/-- A check keeps everything. -/
theorem JobView.Checks.kept (h : v.Checks v') :
    Kept s v s v' :=
  ⟨rfl, h.root, h.cleanups, h.cancelled, h.done, h.evidence, h.rejected, h.disturbed, h.absent⟩

theorem JobInv.checks (hinv : JobInv b s v) (h : v.Checks v') : JobInv b s v' := by
  obtain ⟨hseq, hbound, hannounced, hlive, hphases, htimings, hstart, hactive⟩ := hinv
  rw [← h.events] at hseq hbound hannounced hlive hphases
  rw [← h.clock] at hstart hactive
  exact ⟨hseq, hbound, hannounced, hlive, hphases, htimings, hstart, hactive⟩

theorem JobInv.mono {b' : Nat} (hinv : JobInv b s v) (hb : b ≤ b') : JobInv b' s v :=
  { hinv with bound := le_trans hinv.bound hb }

/-! ## Events -/

/-- An event of the kind was handed to the sink. -/
structure Emitted (kind : RemoteBuildEventKind) (s : WorkerJobRunner) (v : JobView)
    (s' : WorkerJobRunner) (v' : JobView) : Prop where
  event : ∃ event, event.kind = kind ∧ event.phase = s.state.phase.eventId ∧
    event.sequence.toNat = v.events.length + 1 ∧
    v' = { v with events := event :: v.events, disturbed := v'.disturbed }
  runner : ∃ sequence updatedAtMs, sequence.toNat = v.events.length + 1 ∧
    s' = { s with state := { s.state with sequence := sequence, updatedAtMs := updatedAtMs } }
  disturbed : v.disturbed = true → v'.disturbed = true

theorem checkedSucc_eq {n : UInt64} (hn : n.toNat + 1 < 2 ^ 64) :
    checkedSucc n = some (n + 1) ∧ (n + 1).toNat = n.toNat + 1 := by
  refine ⟨if_pos hn, ?_⟩
  rw [UInt64.toNat_add, show (1 : UInt64).toNat = 1 from rfl]
  exact Nat.mod_eq_of_lt hn

section

variable {tools : RequestTools} {job : WorkerJobManifest}

/-- An allowed event with a safe payload is built, counted and handed to the sink. -/
theorem wp_emit_kind (hjob : job.validate tools = .ok ())
    (hseq : s.state.sequence.toNat = v.events.length) (hlen : v.events.length + 1 < 2 ^ 64)
    (hsafe : SafeKind tools kind)
    (hallows : ∀ event : RemoteBuildEvent, event.kind = kind → event.phase = s.state.phase.eventId
      → event.sequence.toNat = v.events.length + 1 → v.AllowsEvent event) :
    wp (jobContract tools job) (emit tools job kind)
      (fun _ s' v' => Emitted kind s v s' v')
      (fun e s' v' => Emitted kind s v s' v' ∧ v'.disturbed = true ∧ e ≠ .cancelled) s v := by
  have hn : s.state.sequence.toNat + 1 < 2 ^ 64 := by rw [hseq]; exact hlen
  obtain ⟨hsucc, hnat⟩ := checkedSucc_eq hn
  rw [hseq] at hnat
  simp only [emit, wp_bind, wp_get, hsucc]
  -- the clock is read, and the event that is built is accepted
  intro timestampMs _
  refine ⟨trivial, ?_⟩
  have hvalid := hsafe.event_valid hjob s.state.phase (s.state.sequence + 1) timestampMs
  intro _ _
  refine ⟨hvalid, ?_⟩
  simp only [hvalid]
  -- the sink answers
  intro accepted _
  refine ⟨hallows _ rfl rfl hnat, ?_⟩
  have hrunner : ∃ (sequence updatedAtMs : UInt64), sequence.toNat = v.events.length + 1 ∧
      { s with state := { s.state with sequence := s.state.sequence + 1 }.touch timestampMs } =
        { s with state := { s.state with sequence := sequence, updatedAtMs := updatedAtMs } } :=
    ⟨s.state.sequence + 1, _, hnat, rfl⟩
  have hsent : ∀ d : Bool, (v.disturbed = true → d = true) →
      Emitted kind s v
        { s with state := { s.state with sequence := s.state.sequence + 1 }.touch timestampMs }
        { v with
          events := jobEvent job s.state.phase (s.state.sequence + 1) timestampMs kind :: v.events
          disturbed := d } :=
    fun d hd => ⟨⟨_, rfl, rfl, hnat, rfl⟩, hrunner, hd⟩
  have hkeep : ∀ d : Bool, v.disturbed = true → (v.disturbed || d) = true := by
    intro d h
    rw [h]
    rfl
  cases accepted with
  | ok _ => exact hsent _ (hkeep _)
  | error failure => exact ⟨hsent _ (hkeep _), Bool.or_true _, fun h => by cases h⟩

theorem Emitted.kept (h : Emitted kind s v s' v') :
    Kept s v s' v' := by
  obtain ⟨⟨event, -, -, -, hview⟩, ⟨q, u, -, rfl⟩, hdisturbed⟩ := h
  rw [hview]
  exact ⟨rfl, rfl, rfl, rfl, rfl, rfl, rfl, hdisturbed, List.Subset.refl _⟩

theorem Emitted.inv (h : Emitted kind s v s' v') (hinv : JobInv b s v)
    (hlive : isTerminalKind kind = false) : JobInv (b + 1) s' v' := by
  obtain ⟨⟨event, hkind, hphase, -, hview⟩, ⟨q, u, hq, rfl⟩, -⟩ := h
  rw [hview]
  exact {
    sequence := hq
    bound := Nat.succ_le_succ hinv.bound
    announced := List.cons_ne_nil _ _
    live := by
      intro e he
      rcases List.mem_cons.mp he with rfl | he
      · rw [hkind]; exact hlive
      · exact hinv.live e he
    phases := by
      intro p hp
      simp only [startedPhases, List.filter_cons] at hp
      split at hp
      · -- the event starts the current phase
        rcases List.mem_cons.mp hp with rfl | hp
        · exact ⟨s.state.phase, hphase, le_refl _⟩
        · exact hinv.phases p hp
      · exact hinv.phases p hp
    timings := hinv.timings
    start := hinv.start
    active := hinv.active }

/-- An event between the first and the last one. -/
theorem wp_emit (hjob : job.validate tools = .ok ()) (hinv : JobInv b s v) (hb : b + 1 < 2 ^ 64)
    (hsafe : SafeKind tools kind) (hlive : isTerminalKind kind = false)
    (hfirst : kind ≠ .operationStarted "worker.ios_device_build")
    (hphase : isPhaseStarted kind = true → s.state.phase.eventId ∉ startedPhases v.events) :
    wp (jobContract tools job) (emit tools job kind)
      (fun _ s' v' => Emitted kind s v s' v' ∧ JobInv (b + 1) s' v')
      (fun e s' v' => (Emitted kind s v s' v' ∧ JobInv (b + 1) s' v') ∧ v'.disturbed = true ∧
        e ≠ .cancelled) s v := by
  have hlen : v.events.length + 1 < 2 ^ 64 := by
    have := hinv.bound
    omega
  apply wp_mono (wp_emit_kind hjob hinv.sequence hlen hsafe _)
  · exact fun _ _ _ hsent => ⟨hsent, hsent.inv hinv hlive⟩
  · exact fun _ _ _ hend => ⟨⟨hend.1, hend.1.inv hinv hlive⟩, hend.2⟩
  · intro event hkind hevent hseq
    exact {
      sequence := hseq
      first := by
        rw [hkind]
        exact ⟨fun h => absurd h hinv.announced, fun h => absurd h hfirst⟩
      live := hinv.live
      phase := by
        rw [hkind, hevent]
        exact hphase }

/-! ## Checks -/

/-- An operation, whatever it answers. -/
theorem wp_call {op : JobOp} {Q : JobRes op → WorkerJobRunner → JobView → Prop}
    (hallows : v.Allows tools op) (hQ : ∀ r, Q r s (v.next job op r)) :
    wp (jobContract tools job) (call op) Q E s v :=
  fun r _ => ⟨hallows, hQ r⟩

theorem wp_verifyRoot {site : RootCheck} (hsite : site = .checkpoint) :
    wp (jobContract tools job) (verifyRoot site) (fun _ s' v' => s' = s ∧ v.Checks v')
      (fun e s' v' => s' = s ∧ v.Checks v' ∧ v'.disturbed = true ∧ e ≠ .cancelled) s v := by
  subst hsite
  intro bound _
  have hchecks : v.Checks { v with disturbed := v.disturbed || !bound } :=
    ⟨rfl, rfl, rfl, rfl, rfl, rfl, rfl, rfl, fun h => by simp [h], List.Subset.refl _⟩
  refine ⟨trivial, ?_⟩
  cases bound with
  | true => exact ⟨rfl, hchecks⟩
  | false => exact ⟨rfl, hchecks, Bool.or_true _, fun h => by cases h⟩

/-- A cancellation is observed, or nothing has changed. -/
theorem wp_checkCancelled (hv : v.cancelled = false) :
    wp (jobContract tools job) checkCancelled (fun _ s' v' => s' = s ∧ v' = v)
      (fun e s' v' => e = .cancelled ∧ s' = s ∧ v' = { v with cancelled := true }) s v := by
  intro cancelled _
  have hnext : (jobContract tools job).next v .isCancelled cancelled =
      { v with cancelled := cancelled } := by
    show { v with cancelled := v.cancelled || cancelled } = { v with cancelled := cancelled }
    rw [hv, Bool.false_or]
  refine ⟨trivial, ?_⟩
  rw [hnext]
  cases cancelled with
  | true => exact ⟨rfl, rfl, rfl⟩
  | false => exact ⟨rfl, by rw [← hv]⟩

/-- A transition that the life cycle allows does not fail. -/
theorem wp_transition {next : JobState} (h : s.state.state.canTransitionTo next = true) :
    wp (jobContract tools job) (transition next)
      (fun _ s' v' => v' = v ∧ ∃ updatedAtMs,
        s' = { s with state := { s.state with state := next, updatedAtMs := updatedAtMs } })
      E s v := by
  simp only [transition, wp_bind, wp_get, h]
  exact fun now _ => ⟨trivial, rfl, _, rfl⟩

/-! ## Phases -/

theorem eventId_injective : Function.Injective WorkerJobPhase.eventId := by
  intro p q h
  cases p <;> cases q <;> first | rfl | simp [WorkerJobPhase.eventId] at h

/-- There are eight ranks. -/
theorem rank_le (phase : WorkerJobPhase) : phase.rank ≤ 7 := by
  cases phase <;> decide

theorem JobInv.not_started (hinv : JobInv b s v) {phase : WorkerJobPhase}
    (hrank : s.state.phase.rank < phase.rank) :
    phase.eventId ∉ startedPhases v.events := by
  intro hmem
  obtain ⟨q, hq, hle⟩ := hinv.phases _ hmem
  rw [eventId_injective hq] at hrank
  omega

/-- The clock does not go back. -/
theorem le_max_clock (now clock : UInt64) : clock ≤ max now clock ∧ now ≤ max now clock := by
  show clock ≤ (if now ≤ clock then clock else now) ∧ now ≤ if now ≤ clock then clock else now
  split
  · exact ⟨UInt64.le_refl _, ‹_›⟩
  · exact ⟨UInt64.le_of_lt (UInt64.not_le.mp ‹_›), UInt64.le_refl _⟩

theorem JobInv.read (hinv : JobInv b s v) (now : UInt64) (d : Bool) :
    JobInv b s { v with clock := max now v.clock, disturbed := d } :=
  { hinv with
    start := UInt64.le_trans hinv.start (le_max_clock now v.clock).1
    active := fun p t h =>
      ⟨(hinv.active p t h).1, UInt64.le_trans (hinv.active p t h).2 (le_max_clock now v.clock).1⟩ }

/-- The clock is read: the reading is not behind the ones before it, or the view says so. -/
theorem wp_monotonicTimeMs {Q : UInt64 → WorkerJobRunner → JobView → Prop} (hinv : JobInv b s v)
    (hQ : ∀ now v', JobInv b s v' → Kept s v s v' → v'.events = v.events → now ≤ v'.clock → (now <
      v.clock → v'.disturbed = true) → Q now s v') :
    wp (jobContract tools job) (call .monotonicTimeMs) Q E s v := by
  intro now _
  refine ⟨trivial, hQ now _ (hinv.read now _)
    ⟨rfl, rfl, rfl, rfl, rfl, rfl, rfl, ?_, List.Subset.refl _⟩ rfl
    (le_max_clock now v.clock).2 ?_⟩
  · intro h
    show (v.disturbed || _) = true
    rw [h]
    rfl
  · intro h
    show (v.disturbed || decide (now < v.clock)) = true
    rw [decide_eq_true h, Bool.or_true]

/-- A later phase is started: it is open and announced. -/
theorem wp_startPhaseWithoutCancellation {phase : WorkerJobPhase}
    (hjob : job.validate tools = .ok ()) (hinv : JobInv b s v) (hb : b + 1 < 2 ^ 64)
    (hrank : s.state.phase.rank < phase.rank) :
    wp (jobContract tools job) (startPhaseWithoutCancellation tools job phase)
      (fun _ s' v' => (JobInv (b + 1) s' v' ∧ Kept s v s' v') ∧ s'.state.phase = phase ∧
        s'.activePhase.isSome = true)
      (fun e s' v' => (JobInv (b + 1) s' v' ∧ Kept s v s' v') ∧
        s'.state.phase.rank ≤ phase.rank ∧ e ≠ .cancelled ∧
        (s.activePhase = none → v'.disturbed = true)) s v := by
  have hle := le_of_lt hrank
  simp only [startPhaseWithoutCancellation, wp_bind, wp_get, wp_ensure]
  constructor
  · intro hidle
    rw [Bool.and_eq_true, Option.isNone_iff_eq_none] at hidle
    apply wp_mono (wp_verifyRoot rfl)
    · intro _ s₁ v₁ hchecked
      obtain ⟨hs, hchecks⟩ := hchecked
      rw [hs]
      apply wp_monotonicTimeMs (hinv.checks hchecks)
      intro started v₂ hinv₂ hread hevents hclock hregressed
      have hkept := hchecks.kept.trans hread
      constructor
      · intro hstart
        -- the phase is open before its event is sent
        have hopen : JobInv b { s with
            activePhase := some (phase, started), state := { s.state with phase := phase } } v₂ :=
          { hinv₂ with
            phases := fun p hp => by
              obtain ⟨q, hq, hqle⟩ := hinv₂.phases p hp
              exact ⟨q, hq, le_trans hqle hle⟩
            timings := by
              have := hinv₂.timings
              rw [hidle.1] at this
              simp only [Option.toList_none, Option.toList_some, List.length_nil,
                List.length_singleton] at this ⊢
              omega
            active := fun p t h => by
              obtain ⟨rfl, rfl⟩ := Prod.mk.inj (Option.some.inj h)
              exact ⟨of_decide_eq_true hstart, hclock⟩ }
        have hnew : phase.eventId ∉ startedPhases v₂.events := hinv₂.not_started hrank
        simp only [wp_modify]
        apply wp_mono (wp_emit hjob hopen hb (safe_phaseStarted phase) rfl (fun h => by cases h)
          fun _ => hnew)
        · intro _ s' v' hsent
          obtain ⟨hsent, hinv'⟩ := hsent
          obtain ⟨q, u, -, hs'⟩ := hsent.runner
          exact ⟨⟨hinv', hkept.trans (hsent.kept.of_state rfl)⟩, by rw [hs'], by rw [hs']; rfl⟩
        · intro e s' v' hfailed
          obtain ⟨⟨hsent, hinv'⟩, hdisturbed, hne⟩ := hfailed
          obtain ⟨q, u, -, hs'⟩ := hsent.runner
          exact ⟨⟨hinv', hkept.trans (hsent.kept.of_state rfl)⟩, by rw [hs'], hne,
            fun _ => hdisturbed⟩
      · intro hbehind
        -- a reading before the start of the job is behind the last one
        have hlt : started < v₁.clock := by
          apply UInt64.lt_of_lt_of_le (UInt64.not_le.mp (of_decide_eq_false hbehind))
          exact (hinv.checks hchecks).start
        exact ⟨⟨hinv₂.mono (Nat.le_succ b), hkept⟩, hle, fun h => (by cases h),
          fun _ => hregressed hlt⟩
    · intro e s₁ v₁ hfailed
      obtain ⟨hs, hchecks, hdisturbed, hne⟩ := hfailed
      rw [hs]
      exact ⟨⟨(hinv.checks hchecks).mono (Nat.le_succ b), hchecks.kept⟩, hle, hne,
        fun _ => hdisturbed⟩
  · intro hbusy
    refine ⟨⟨hinv.mono (Nat.le_succ b), .refl⟩, hle, fun h => (by cases h), ?_⟩
    -- an idle runner has finished fewer phases than fit into its state
    intro hidle
    have htimings := hinv.timings
    have hmax := rank_le s.state.phase
    rw [hidle] at hbusy htimings
    rw [Option.isNone_none, Bool.true_and, decide_eq_false_iff_not] at hbusy
    unfold maxPhaseTimings at hbusy
    omega

/-- The open phase is closed, also when finishing it fails. -/
theorem wp_finishPhase (hinv : JobInv b s v) :
    wp (jobContract tools job) finishPhase
      (fun _ s' v' => (JobInv b s' v' ∧ Kept s v s' v') ∧ s'.state.phase = s.state.phase ∧
        s'.activePhase = none)
      (fun e s' v' => (JobInv b s' v' ∧ Kept s v s' v') ∧ s'.state.phase = s.state.phase ∧
        s'.activePhase = none ∧ e ≠ .cancelled ∧
        (s.activePhase.isSome = true → v'.disturbed = true)) s v := by
  simp only [finishPhase, wp_bind, wp_get, wp_ofOption]
  constructor
  · intro openPhase hopen
    obtain ⟨phase, started⟩ := openPhase
    obtain ⟨hstart, hclock⟩ := hinv.active phase started hopen
    have htimings := hinv.timings
    rw [hopen] at htimings
    -- the phase is closed before the clock is read
    have hclosed : JobInv b { s with activePhase := none } v :=
      { hinv with
        timings := Nat.le_of_succ_le htimings
        active := fun _ _ h => (by cases h) }
    simp only [wp_modify]
    apply wp_monotonicTimeMs hclosed
    intro finished v₁ hinv₁ hread hevents hnow hregressed
    have hkept : Kept s v { s with activePhase := none } v₁ := hread.of_state rfl
    simp only [wp_ensure]
    constructor
    · intro _
      constructor
      · intro _
        simp only [updateState, wp_modify]
        intro now _
        refine ⟨trivial, ?_⟩
        -- the timing of the phase is recorded, then the job root is checked
        have htimed : ∀ timing : WorkerPhaseTiming, JobInv b
            { s with
              activePhase := none
              state := { s.state with timings := s.state.timings ++ [timing] }.touch now } v₁ :=
          fun timing =>
            { hinv₁ with
              timings := by
                show (s.state.timings ++ [timing]).length + 0 ≤ s.state.phase.rank
                rw [List.length_append]
                exact htimings }
        apply wp_mono (wp_verifyRoot rfl)
        · intro _ s' v' hchecked
          obtain ⟨hs, hchecks⟩ := hchecked
          rw [hs]
          exact ⟨⟨(htimed _).checks hchecks, hkept.trans (hchecks.kept.of_state rfl)⟩, rfl, rfl⟩
        · intro e s' v' hfailed
          obtain ⟨hs, hchecks, hdisturbed, hne⟩ := hfailed
          rw [hs]
          exact ⟨⟨(htimed _).checks hchecks, hkept.trans (hchecks.kept.of_state rfl)⟩, rfl, rfl,
            hne, fun _ => hdisturbed⟩
      · -- an open phase has not been started before the job
        intro hbehind
        exact absurd hstart (of_decide_eq_false hbehind)
    · intro hbehind
      have hlt : finished < v.clock :=
        UInt64.lt_of_lt_of_le (UInt64.not_le.mp (of_decide_eq_false hbehind)) hclock
      exact ⟨⟨hinv₁, hkept⟩, trivial, trivial, fun h => (by cases h), fun _ => hregressed hlt⟩
  · intro hidle
    exact ⟨⟨hinv, .refl⟩, trivial, hidle, fun h => (by cases h),
      fun h => by rw [hidle] at h; cases h⟩

/-- After a failed pipeline no phase is left open. -/
theorem wp_finishActivePhase (hinv : JobInv b s v) :
    wp (jobContract tools job) finishActivePhase
      (fun _ s' v' => (JobInv b s' v' ∧ Kept s v s' v') ∧ s'.state.phase = s.state.phase ∧
        s'.activePhase = none)
      (fun e s' v' => (JobInv b s' v' ∧ Kept s v s' v') ∧ s'.state.phase = s.state.phase ∧
        s'.activePhase = none ∧ e ≠ .cancelled ∧ v'.disturbed = true) s v := by
  simp only [finishActivePhase, wp_bind, wp_get]
  cases hactive : s.activePhase with
  | none => exact ⟨⟨hinv, .refl⟩, rfl, hactive⟩
  | some openPhase =>
    apply wp_mono (wp_finishPhase hinv)
    · exact fun _ _ _ h => h
    · intro e s' v' h
      obtain ⟨hkept, hphase, hidle, hne, hdisturbed⟩ := h
      exact ⟨hkept, hphase, hidle, hne, hdisturbed (by rw [hactive]; rfl)⟩

end

end RustFerry.Worker
