import RustFerry.Spec.WorkerJobWorld

/-!
# Honest cleanup

A cleanup hook is honest when it removes what it is told to and says so. Whether its
confirmation is accepted then depends only on the job root and, if the artifacts are to be
kept, on whether there is an artifacts directory: the checks after cleanup ask for one also
when the pipeline has failed before it was created.
-/

namespace RustFerry.Worker

open Remote Serde Artifact ProgM

section

variable {op : JobOp} {P : Prop} {buildState : JobState}

/-! ## Honest cleanup -/

/-- The job root when cleanup begins: whether it is still the directory that was opened, and
    what is found at the path of the artifacts directory. -/
structure CleanupWorld where
  bound : Bool
  artifacts : Metadata
  canonical : Option Canonical

/-- The confirmation says what the hook has done. When there are no artifacts to keep, it may
    say either that they were kept or that they were not. -/
structure HonestConfirmation (world : CleanupWorld) (request : WorkerCleanupRequest)
    (confirmation : CleanupConfirmation) : Prop where
  jobId : confirmation.jobId = request.jobId
  completed : confirmation.completedAtMs ≠ 0
  workspace : confirmation.workspaceRemoved = true
  signing : confirmation.signingMaterialRemoved = true
  removed : request.removeArtifacts = true → confirmation.artifactsRetained = false
  retained : request.removeArtifacts = false → world.artifacts ≠ .notFound →
    confirmation.artifactsRetained = true

/-- What is found at a path after the hook was called: the source, the temporary directory and
    the input archive are gone, and so are the artifacts exactly if they were to be removed. -/
structure HonestMetadata (job : WorkerJobManifest) (world : CleanupWorld) (removeArtifacts : Bool)
    (path : JobPath) (metadata : Metadata) : Prop where
  removed : path ∈ cleanupPaths job → metadata = .notFound
  artifacts : path = job.artifactsDirectory →
    metadata = if removeArtifacts then .notFound else world.artifacts

/-- An answer during an honest cleanup, after the hook was called with `removed`, if it was. The
    clocks, the sink and everything else answer as they like. -/
def Honest (job : WorkerJobManifest) (world : CleanupWorld) (removed : Option Bool) :
    (op : JobOp) → JobRes op → Prop
  | .verifyRoot _, bound => bound = world.bound
  | .cleanup request, answer => ∃ confirmation, answer = .ok confirmation ∧
      HonestConfirmation world request confirmation
  | .symlinkMetadata path, metadata => ∀ removeArtifacts, removed = some removeArtifacts →
      HonestMetadata job world removeArtifacts path metadata
  | .canonicalize path, canonical => path = job.artifactsDirectory → canonical = world.canonical
  | _, _ => True

/-- What the cleanup hook was asked to do with the artifacts, once it was called. -/
def askedToRemove (removed : Option Bool) : (op : JobOp) → JobRes op → Option Bool
  | .cleanup request, _ => some request.removeArtifacts
  | _, _ => removed

/-- The answers of an honest cleanup; nothing is asked of the engine. -/
def honestContract (job : WorkerJobManifest) (world : CleanupWorld) :
    Contract JobOp JobRes (Option Bool) where
  next := askedToRemove
  assume := Honest job world
  guarantee _ _ _ := True

/-- The job root is still bound, and there are artifacts to keep if any are to be kept. -/
def Confirmable (job : WorkerJobManifest) (world : CleanupWorld) (buildState : JobState) : Prop :=
  world.bound = true ∧ (job.cleanupPolicy.retainFor buildState = true →
    world.artifacts = .directory ∧ world.canonical = some (.below job.artifactsDirectory))

section

variable {tools : RequestTools} {job : WorkerJobManifest} {world : CleanupWorld}
  {s : WorkerJobRunner} {removed : Option Bool}

/-! ## Steps that do not call the hook -/

/-- Until the hook is called, and after it was, the steps of a cleanup leave that as it is. -/
abbrev Leaves {α : Type} (job : WorkerJobManifest) (world : CleanupWorld) (removed : Option Bool)
    (x : JobM α) : Prop :=
  Keeps (honestContract job world) (fun _ v => v = removed) x

theorem leaves_call (hop : isCleanupCall op = false) :
    Leaves job world removed (call op) := by
  apply keeps_perform
  intro s v r hv _
  refine ⟨trivial, ?_⟩
  cases op <;> first | exact hv | cases hop

theorem leaves_modify (f : WorkerJobRunner → WorkerJobRunner) :
    Leaves job world removed (modify f) :=
  keeps_modify fun _ _ h => h

theorem leaves_get : Leaves job world removed get := fun _ _ h => h

theorem leaves_transition (next : JobState) : Leaves job world removed (transition next) :=
  keeps_bind leaves_get fun _ =>
  keeps_bind keeps_ensure fun _ =>
  keeps_bind (leaves_modify _) fun _ =>
  keeps_bind (leaves_call rfl) fun _ => leaves_modify _

theorem leaves_emit (kind : RemoteBuildEventKind) :
    Leaves job world removed (emit tools job kind) :=
  keeps_bind leaves_get fun _ =>
  keeps_bind keeps_ofOption fun _ =>
  keeps_bind (leaves_call rfl) fun _ =>
  keeps_bind (leaves_call rfl) fun _ =>
  keeps_bind keeps_ensure fun _ =>
  keeps_bind (leaves_modify _) fun _ =>
  keeps_bind (leaves_call rfl) fun _ => keeps_ofExcept

theorem leaves_verifyRoot (site : RootCheck) : Leaves job world removed (verifyRoot site) :=
  keeps_bind (leaves_call rfl) fun _ => keeps_ensure

theorem leaves_startCleanupPhase : Leaves job world removed (startCleanupPhase tools job) :=
  keeps_bind (keeps_bind leaves_get fun _ =>
    keeps_bind keeps_ensure fun _ =>
    keeps_bind (leaves_verifyRoot _) fun _ =>
    keeps_bind (leaves_call rfl) fun _ =>
    keeps_bind keeps_ensure fun _ =>
    keeps_bind (leaves_modify _) fun _ => leaves_emit _) fun _ => leaves_emit _

theorem leaves_finishPhase : Leaves job world removed finishPhase :=
  keeps_bind leaves_get fun _ =>
  keeps_bind keeps_ofOption fun _ =>
  keeps_bind (leaves_modify _) fun _ =>
  keeps_bind (leaves_call rfl) fun _ =>
  keeps_bind keeps_ensure fun _ =>
  keeps_bind keeps_ensure fun _ =>
  keeps_bind (leaves_modify _) fun _ =>
  keeps_bind (leaves_call rfl) fun _ =>
  keeps_bind (leaves_modify _) fun _ => leaves_verifyRoot _

theorem leaves_finishActivePhase : Leaves job world removed finishActivePhase := by
  apply keeps_bind leaves_get
  intro runner
  split
  · exact leaves_finishPhase
  · exact keeps_pure

theorem leaves_announceCleanup (confirmation : Option CleanupConfirmation) :
    Leaves job world removed (announceCleanup tools job confirmation) := by
  cases confirmation with
  | none => exact keeps_pure
  | some confirmation => exact leaves_emit _

/-! ## Checks of a confirmation -/

/-- A check after the hook was called passes exactly when something holds of the job root. -/
abbrev Checked (job : WorkerJobManifest) (world : CleanupWorld) (removed : Option Bool) (P : Prop)
    (x : JobM Unit) : Prop :=
  ∀ s, wp (honestContract job world) x (fun _ s' v => s' = s ∧ v = removed ∧ P)
    (fun _ s' v => s' = s ∧ v = removed ∧ ¬P) s removed

theorem Checked.bind {Q : Prop} {x y : JobM Unit} (hx : Checked job world removed P x)
    (hy : Checked job world removed Q y) :
    Checked job world removed (P ∧ Q) (x >>= fun _ => y) := by
  intro s
  rw [wp_bind]
  apply wp_mono (hx s)
  · intro _ s₁ v₁ h
    obtain ⟨hs, hv, hP⟩ := h
    rw [hs, hv]
    apply wp_mono (hy s)
    · exact fun _ _ _ h => ⟨h.1, h.2.1, hP, h.2.2⟩
    · exact fun _ _ _ h => ⟨h.1, h.2.1, fun hPQ => h.2.2 hPQ.2⟩
  · exact fun _ _ _ h => ⟨h.1, h.2.1, fun hPQ => h.2.2 hPQ.1⟩

theorem Checked.iff {Q : Prop} {x : JobM Unit} (hx : Checked job world removed P x) (h : P ↔ Q) :
    Checked job world removed Q x := propext h ▸ hx

/-- One operation and a condition on its answer. -/
theorem checked_call {condition : JobRes op → Bool} {error : WorkerJobError}
    (hop : isCleanupCall op = false)
    (h : ∀ r, Honest job world removed op r → (condition r = true ↔ P)) :
    Checked job world removed P (call op >>= fun r => ensure (condition r) error) := by
  intro s r hr
  have hnext : askedToRemove removed op r = removed := by
    cases op <;> first | rfl | cases hop
  refine ⟨trivial, ?_⟩
  show wp (honestContract job world) (ensure (condition r) error) _ _ s
    (askedToRemove removed op r)
  rw [hnext, wp_ensure]
  constructor
  · exact fun hcondition => ⟨rfl, rfl, (h r hr).mp hcondition⟩
  · intro hcondition
    refine ⟨rfl, rfl, fun hP => ?_⟩
    rw [(h r hr).mpr hP] at hcondition
    cases hcondition

/-- The check of the root. -/
theorem checked_verifyRoot (site : RootCheck) :
    Checked job world removed (world.bound = true) (verifyRoot site) :=
  checked_call rfl fun r hr => by rw [show r = world.bound from hr]

theorem checked_requirePathAbsent {removeArtifacts : Bool} {path : JobPath}
    {error : WorkerJobError} (hpath : path ∈ cleanupPaths job) :
    Checked job world (some removeArtifacts) True (requirePathAbsent path error) :=
  checked_call rfl fun metadata hr => by
    have hmetadata := (hr removeArtifacts rfl).removed hpath
    simp [hmetadata]

theorem mem_cleanupPaths_source : job.sourceDirectory ∈ cleanupPaths job := by
  unfold cleanupPaths
  split <;> exact List.mem_cons_self

theorem mem_cleanupPaths_temporary : job.temporaryDirectory ∈ cleanupPaths job := by
  unfold cleanupPaths
  split <;> exact List.mem_cons_of_mem _ List.mem_cons_self

theorem checked_requireInputAbsent {removeArtifacts : Bool} :
    Checked job world (some removeArtifacts) True (requireInputAbsent job) := by
  cases hinput : job.sourceInput with
  | git =>
    simp only [requireInputAbsent, hinput]
    exact fun s => ⟨rfl, rfl, trivial⟩
  | snapshot archivePath archive =>
    simp only [requireInputAbsent, hinput]
    apply checked_requirePathAbsent
    unfold cleanupPaths
    rw [hinput]
    simp

/-- There is an artifacts directory. -/
def HasArtifacts (job : WorkerJobManifest) (world : CleanupWorld) : Prop :=
  world.artifacts = .directory ∧ world.canonical = some (.below job.artifactsDirectory)

theorem artifactsDirectory_ne_nil : job.artifactsDirectory ≠ [] := by
  unfold WorkerJobManifest.artifactsDirectory WorkerRelativePath.resolve Text.split
  simp [List.splitOnP_ne_nil]

/-- The artifacts are there, or they are gone, as the hook was asked. -/
theorem checked_requireArtifacts {retained : Bool} :
    Checked job world (some !retained)
      (retained = true → HasArtifacts job world ∧ world.bound = true)
      (requireArtifacts job retained) := by
  cases retained with
  | false =>
    apply Checked.iff (P := True) _ (by simp)
    apply checked_call rfl
    intro metadata hr
    have hmetadata := (hr true rfl).artifacts rfl
    simp [hmetadata]
  | true =>
    have hbelow : ensureLexicallyBelow job.artifactsDirectory .invalidCleanupProof =
        (pure () : JobM Unit) := by
      rw [ensureLexicallyBelow, decide_eq_true artifactsDirectory_ne_nil]
      rfl
    -- the directory is found, it is where it should be, and the root is checked again
    have hdirectory : Checked job world (some false) (world.artifacts = .directory)
        (call (.symlinkMetadata job.artifactsDirectory) >>= fun metadata =>
          ensure (metadata = .directory) .invalidCleanupProof) := by
      apply checked_call rfl
      intro metadata hr
      have hmetadata := (hr false rfl).artifacts rfl
      simp [hmetadata]
    have hcanonical : Checked job world (some false)
        (world.canonical = some (.below job.artifactsDirectory))
        (requireCanonical job.artifactsDirectory .invalidCleanupProof) := by
      apply checked_call rfl
      intro canonical hr
      have hsame : canonical = world.canonical := hr rfl
      simp [hsame]
    have hall := hdirectory.bind (hcanonical.bind (checked_verifyRoot .checkpoint))
    apply Checked.iff (P := world.artifacts = .directory ∧
      world.canonical = some (.below job.artifactsDirectory) ∧ world.bound = true) _
      (by simp [HasArtifacts, and_assoc])
    intro s
    have hs := hall s
    simp only [wp_bind] at hs
    rw [requireArtifacts, if_pos rfl, validateBoundDirectory, hbelow]
    simp only [wp_bind, wp_pure]
    exact hs

theorem checked_validateCleanupFilesystem {retained : Bool} :
    Checked job world (some !retained)
      (world.bound = true ∧ (retained = true → HasArtifacts job world))
      (validateCleanupFilesystem job retained) := by
  apply Checked.iff (P := world.bound = true ∧ True ∧ True ∧ True ∧
    (retained = true → HasArtifacts job world ∧ world.bound = true) ∧ world.bound = true)
  · exact (checked_verifyRoot _).bind <|
      (checked_requirePathAbsent mem_cleanupPaths_source).bind <|
      (checked_requirePathAbsent mem_cleanupPaths_temporary).bind <|
      checked_requireInputAbsent.bind <|
      checked_requireArtifacts.bind (checked_verifyRoot _)
  · cases retained <;> simp [and_comm]

/-- An honest confirmation is refused only if it says that nothing was kept where there was
    nothing to keep. -/
theorem validateCleanupConfirmation_honest {confirmation : CleanupConfirmation}
    (h : HonestConfirmation world (cleanupRequest job buildState) confirmation) :
    validateCleanupConfirmation confirmation job.jobId (job.cleanupPolicy.retainFor buildState) =
        .ok () ∨
      job.cleanupPolicy.retainFor buildState = true ∧ world.artifacts = .notFound := by
  have hjobId : confirmation.jobId = job.jobId := h.jobId
  have hcompleted := h.completed
  by_cases hmissing : job.cleanupPolicy.retainFor buildState = true ∧ world.artifacts = .notFound
  · exact .inr hmissing
  · left
    have hretained : confirmation.artifactsRetained = job.cleanupPolicy.retainFor buildState := by
      cases hretain : job.cleanupPolicy.retainFor buildState with
      | true =>
        have hremove : (cleanupRequest job buildState).removeArtifacts = false := by
          rw [cleanupRequest, hretain]
          rfl
        exact h.retained hremove fun hnone => hmissing ⟨hretain, hnone⟩
      | false =>
        have hremove : (cleanupRequest job buildState).removeArtifacts = true := by
          rw [cleanupRequest, hretain]
          rfl
        exact h.removed hremove
    rw [validateCleanupConfirmation, Except.rejectIf_eq_ok, hjobId, h.workspace, h.signing,
      hretained]
    simp [hcompleted]

/-- An honest confirmation passes. -/
theorem wp_checkConfirmation_honest {confirmation : CleanupConfirmation}
    (h : HonestConfirmation world (cleanupRequest job buildState) confirmation) :
    Checked job world (some !job.cleanupPolicy.retainFor buildState)
      (Confirmable job world buildState)
      (checkConfirmation job confirmation (job.cleanupPolicy.retainFor buildState)) := by
  intro s
  simp only [checkConfirmation, wp_bind]
  rcases validateCleanupConfirmation_honest h with hvalid | hmissing
  · rw [hvalid]
    have hfiles : Checked job world (some !job.cleanupPolicy.retainFor buildState)
        (world.bound = true ∧
          (job.cleanupPolicy.retainFor buildState = true → HasArtifacts job world))
        (validateCleanupFilesystem job (job.cleanupPolicy.retainFor buildState)) :=
      checked_validateCleanupFilesystem
    have hchecks := (checked_verifyRoot .checkpoint).bind hfiles
    have hs := (hchecks.iff (Q := Confirmable job world buildState)
      (by simp [Confirmable, HasArtifacts])) s
    rw [wp_bind] at hs
    exact hs
  · -- whatever the confirmation says, there are no artifacts to keep
    obtain ⟨hretain, hnone⟩ := hmissing
    have hnot : ¬Confirmable job world buildState := by
      intro hconfirmable
      have hdirectory := (hconfirmable.2 hretain).1
      rw [hnone] at hdirectory
      cases hdirectory
    rw [wp_ofExcept]
    constructor
    · intro _ _
      apply wp_mono (checked_verifyRoot .checkpoint s)
      · intro _ s₁ v₁ hroot
        obtain ⟨hs, hv, -⟩ := hroot
        rw [hs, hv]
        apply wp_mono (checked_validateCleanupFilesystem s)
        · intro _ _ _ hfiles
          have hartifacts := (hfiles.2.2.2 hretain).1
          rw [hnone] at hartifacts
          cases hartifacts
        · exact fun _ _ _ hfiles => ⟨hfiles.1, hfiles.2.1, hnot⟩
      · exact fun _ _ _ hroot => ⟨hroot.1, hroot.2.1, hnot⟩
    · exact fun _ _ => ⟨rfl, rfl, hnot⟩

/-! ## Cleanup -/

/-- A call with an honest answer. -/
theorem wp_callHonest {Q : JobRes op → WorkerJobRunner → Option Bool → Prop}
    {E : WorkerJobError → WorkerJobRunner → Option Bool → Prop}
    (hQ : ∀ r, Honest job world removed op r → Q r s (askedToRemove removed op r)) :
    wp (honestContract job world) (call op) Q E s removed :=
  fun r hr => ⟨trivial, hQ r hr⟩

/-- An honest cleanup is confirmed exactly when it can be. -/
theorem wp_confirmCleanup_honest {first : Option WorkerJobError} :
    wp (honestContract job world) (confirmCleanup job buildState first)
      (fun cleanup _ _ => cleanup.confirmation.isSome = true ↔ Confirmable job world buildState)
      (fun _ _ _ => False) s none := by
  simp only [confirmCleanup, wp_bind]
  apply wp_callHonest
  intro bound hbound
  rw [show bound = world.bound from hbound]
  cases hroot : world.bound with
  | false =>
    have hnot : ¬Confirmable job world buildState := by
      intro hconfirmable
      have hbad := hconfirmable.1
      rw [hroot] at hbad
      cases hbad
    exact ⟨fun h => (by cases h), fun h => absurd h hnot⟩
  | true =>
    simp only [Bool.not_true, Bool.false_eq_true, if_false, wp_bind]
    apply wp_callHonest
    intro answer hanswer
    obtain ⟨confirmation, hconfirmation, hhonest⟩ := hanswer
    rw [hconfirmation]
    simp only [acceptConfirmation, wp_bind, wp_attempt]
    apply wp_mono (wp_checkConfirmation_honest hhonest s)
    · exact fun _ _ _ h => ⟨fun _ => h.2.2, fun _ => rfl⟩
    · exact fun _ _ _ h => ⟨fun hsome => (by cases hsome), fun hcan => absurd hcan h.2.2⟩

/-- A step whose error is noted. -/
theorem wp_attemptHonest {α : Type} {x : JobM α} (hx : Leaves job world removed x) :
    wp (honestContract job world) (attempt x : JobM _) (fun _ _ v => v = removed)
      (fun _ _ _ => False) s removed := by
  rw [wp_attempt]
  exact hx s removed rfl

/-- Nothing before the hook can keep it from being called, and nothing after it changes whether
    there is a confirmation. -/
theorem wp_runCleanup_honest :
    wp (honestContract job world) (runCleanup tools job buildState)
      (fun cleanup _ _ => cleanup.confirmation.isSome = true ↔ Confirmable job world buildState)
      (fun _ _ _ => False) s none := by
  simp only [runCleanup, wp_bind]
  apply wp_imp (wp_attemptHonest (leaves_transition _))
  intro cleaning s₁ v₁ hv₁
  rw [hv₁]
  apply wp_imp (wp_attemptHonest leaves_startCleanupPhase)
  intro started s₂ v₂ hv₂
  rw [hv₂]
  apply wp_imp wp_confirmCleanup_honest
  intro cleanup s₃ v₃ hconfirmed
  apply wp_imp (wp_attemptHonest leaves_finishActivePhase)
  intro finished s₄ v₄ hv₄
  rw [hv₄]
  apply wp_imp (wp_attemptHonest (leaves_transition _))
  intro ended s₅ v₅ hv₅
  rw [hv₅]
  apply wp_imp (wp_attemptHonest (leaves_announceCleanup _))
  exact fun announced s₆ v₆ _ => hconfirmed

/-- **Honest cleanup.** From every state in which a pipeline can leave its job, with whatever
    clocks, sink and cleanup policy, a cleanup whose hook does what it is told and says so is
    confirmed, so that the job does not end as `CleanupFailed`, exactly when the job root is still
    bound and, if the policy keeps the artifacts of a build that has ended like this, there is
    an artifacts directory. -/
theorem runCleanup_confirms_iff {buildState : JobState} {s' : WorkerJobRunner}
    {h : History JobOp JobRes} {out : Except WorkerJobError CleanupRun}
    (hruns : Prog.Runs (runCleanup tools job buildState s) h (.ret (out, s')))
    (hhonest : (honestContract job world).Assumed none h) :
    ∃ cleanup, out = .ok cleanup ∧
      (cleanup.confirmation.isSome = true ↔ Confirmable job world buildState) ∧
      ∀ ended failure, jobOutcome ended cleanup.confirmation failure ≠ .cleanupFailed ↔
        Confirmable job world buildState := by
  obtain ⟨-, hend⟩ := Prog.wp_of_runs wp_runCleanup_honest hruns hhonest
  cases out with
  | error e => exact hend.elim
  | ok cleanup =>
    have hconfirmed : cleanup.confirmation.isSome = true ↔ Confirmable job world buildState := hend
    refine ⟨cleanup, rfl, hconfirmed, fun ended failure => ?_⟩
    rw [← hconfirmed, jobOutcome]
    cases cleanup.confirmation with
    | none => simp
    | some confirmation =>
      have hother : ∀ a b c : Prop, [Decidable a] → [Decidable b] → [Decidable c] →
          (if a then WorkerJobOutcome.failed else if b then .cancelled
            else if c then .succeeded else .failed) ≠ .cleanupFailed := by
        intro a b c _ _ _
        split
        · decide
        · split
          · decide
          · split <;> decide
      simp only [Option.isNone_some, Bool.false_eq_true, if_false, Option.isSome_some, iff_true]
      exact hother _ _ _

end

end

namespace Sample

/-- A hook that removes what it is told to, and confirms it. -/
def honestAnswer (world : CleanupWorld) (removed : Option Bool) : (op : JobOp) → JobRes op
  | .verifyRoot _ => world.bound
  | .symlinkMetadata path =>
    if path = job.artifactsDirectory ∧ removed ≠ some true then world.artifacts else .notFound
  | .canonicalize _ => world.canonical
  | .cleanup request => .ok {
      jobId := request.jobId
      completedAtMs := 1
      workspaceRemoved := true
      signingMaterialRemoved := true
      artifactsRetained := !request.removeArtifacts }
  | op => bound 1 0 failure op

theorem artifactsDirectory_not_mem : job.artifactsDirectory ∉ cleanupPaths job := by decide

theorem honest_honestAnswer (world : CleanupWorld) (removed : Option Bool) (op : JobOp) :
    Honest job world removed op (honestAnswer world removed op) := by
  cases op with
  | verifyRoot site => exact rfl
  | cleanup request =>
    have hcompleted : (1 : UInt64) ≠ 0 := by decide
    refine ⟨_, rfl, rfl, hcompleted, rfl, rfl, fun h => ?_, fun h _ => ?_⟩
    · show (!request.removeArtifacts) = false
      rw [h]
      rfl
    · show (!request.removeArtifacts) = true
      rw [h]
      rfl
  | symlinkMetadata path =>
    intro removeArtifacts hremoved
    constructor
    · intro hpath
      apply if_neg
      intro hboth
      rw [hboth.1] at hpath
      exact artifactsDirectory_not_mem hpath
    · intro hpath
      show (if path = job.artifactsDirectory ∧ removed ≠ some true then world.artifacts
        else .notFound) = _
      rw [hpath, hremoved]
      cases removeArtifacts <;> simp
  | canonicalize path => exact fun _ => rfl
  | _ => trivial

/-- Every honest cleanup of the sample job ends. -/
theorem exists_honest_cleanup (world : CleanupWorld) (buildState : JobState)
    (s : WorkerJobRunner) : ∃ h cleanup s',
      Prog.Runs (runCleanup tools job buildState s) h (.ret (.ok cleanup, s')) ∧
      (honestContract job world).Assumed none h ∧
      (cleanup.confirmation.isSome = true ↔ Confirmable job world buildState) := by
  have hwp : wp (honestContract job world) (runCleanup tools job buildState)
      (fun cleanup _ _ => cleanup.confirmation.isSome = true ↔ Confirmable job world buildState)
      (fun _ _ _ => False) s none := wp_runCleanup_honest
  obtain ⟨h, out, hruns, hhonest, hend⟩ := Prog.exists_runs_of_wp
    (honest_honestAnswer world) .start trivial hwp
  obtain ⟨out, s'⟩ := out
  cases out with
  | error e => exact hend.elim
  | ok cleanup => exact ⟨h, cleanup, s', hruns, hhonest, hend⟩

/-- The build has succeeded and has its artifacts directory: it is kept, and the cleanup is
    confirmed. -/
theorem runCleanup_confirms_iff_job : ∃ h cleanup s',
    Prog.Runs (runCleanup tools job .succeeded (validatedRunner.moved .succeeded)) h
      (.ret (.ok cleanup, s')) ∧ cleanup.confirmation.isSome = true := by
  have hworld : Confirmable job ⟨true, .directory, some (.below job.artifactsDirectory)⟩
    .succeeded := ⟨rfl, fun _ => ⟨rfl, rfl⟩⟩
  obtain ⟨h, cleanup, s', hruns, hhonest, -⟩ := exists_honest_cleanup
    ⟨true, .directory, some (.below job.artifactsDirectory)⟩ .succeeded
    (validatedRunner.moved .succeeded)
  obtain ⟨cleanup', hcleanup, hconfirmed, -⟩ := runCleanup_confirms_iff hruns hhonest
  rw [Except.ok.inj hcleanup] at hruns
  exact ⟨h, cleanup', s', hruns, hconfirmed.mpr hworld⟩

/-- The runner when the build hook has failed. -/
def failedRunner : WorkerJobRunner := ((sourced.opened .build).closed .build).moved .failed

/-- A build that fails before it has any artifacts, under a policy that keeps them: an honest
    cleanup is not confirmed, and the job ends as `CleanupFailed`. -/
theorem cleanup_without_artifacts : ∃ h cleanup s',
    Prog.Runs (runCleanup tools job .failed failedRunner) h (.ret (.ok cleanup, s')) ∧
      (honestContract job ⟨true, .notFound, none⟩).Assumed none h ∧
      cleanup.confirmation = none ∧
      ∀ ended failure, jobOutcome ended cleanup.confirmation failure = .cleanupFailed := by
  obtain ⟨h, cleanup, s', hruns, hhonest, hconfirmed⟩ :=
    exists_honest_cleanup ⟨true, .notFound, none⟩ .failed failedRunner
  have hnone : cleanup.confirmation = none := by
    cases hconfirmation : cleanup.confirmation with
    | none => rfl
    | some confirmation =>
      rw [hconfirmation] at hconfirmed
      cases ((hconfirmed.mp rfl).2 rfl).1
  refine ⟨h, cleanup, s', hruns, hhonest, hnone, fun ended failure => ?_⟩
  rw [jobOutcome, hnone]
  rfl

end Sample

end RustFerry.Worker
