import RustFerry.Spec.GitSnapshotBinding
import RustFerry.Spec.SnapshotSubmission

/-!
# Runs of a snapshot submission

A submission is called any number of times, and the process may stop between any two of its
steps; the next one starts from what the sink holds. Every value that it hands to the sink
follows the one that was accepted before, as long as the clock leaves the deadline of an armed
push alone.
-/

namespace RustFerry.Github

open Remote Except ProgM GithubGitSnapshotResumeV1

section

variable {β : Type} {timestampMs : UInt64} {phase : GithubGitSnapshotPhaseV1}
  {retryable uncertain : Bool} {e : ProviderError} {code message : String}
  {identity : Option (GithubPrincipalIdentityV1 × UInt64)} {snapshot : GithubGitSnapshotResumeV1}
  {working : JobRecord}

/-! ## What the sink has seen -/

/-- The last accepted snapshot, one that was handed over since without an answer, the last
    reading of the clock, and whether the last answer about the source was that it is missing. -/
structure SubmissionView where
  accepted : GithubGitSnapshotResumeV1
  offered : Option GithubGitSnapshotResumeV1
  clockMs : UInt64
  sourceMissing : Bool

def SubmissionView.next (view : SubmissionView) :
    (op : ProviderOp) → ProviderResponse op → SubmissionView
  | .call .nowMs, timeMs => { view with clockMs := timeMs }
  | .call (.publishGitSnapshotSource _ _ _), answer =>
    { view with sourceMissing := match answer with | .ok .uncertain => true | _ => false }
  | .call (.reconcileGitSnapshotSource _ _), answer =>
    { view with sourceMissing := match answer with | .ok .absent => true | _ => false }
  | .checkpoint record, .ok _ =>
    { view with accepted := record.gitSnapshot.getD view.accepted, offered := none }
  | .checkpoint record, .error _ => { view with offered := record.gitSnapshot }
  | _, _ => view

/-- The sink's own rules accept the snapshot of a record. -/
def Checkpointable (tools : ResumeTools) (accepted : GithubGitSnapshotResumeV1)
    (record : JobRecord) : Prop :=
  ∃ next, record.gitSnapshot = some next ∧
    next.validateForRequest tools record.request = .ok () ∧ accepted.validateSuccessor next = .ok ()

/-- A record for the sink holds a snapshot that may follow the accepted one. -/
def Offers (tools : ResumeTools) (build : IosDeviceBuildRequest) (view : SubmissionView)
    (record : JobRecord) : Prop :=
  record.request = build ∧ ∃ next, record.gitSnapshot = some next ∧
    Step tools build view.clockMs view.accepted next

/-- The clock never goes back, and reads as it `fits`; every other answer may be any. -/
def submissionContract (tools : ResumeTools) (build : IosDeviceBuildRequest)
    (fits : SubmissionView → UInt64 → Prop) :
    Contract ProviderOp ProviderResponse SubmissionView where
  next := SubmissionView.next
  assume view op answer :=
    match op, answer with
    | .call .nowMs, timeMs => view.clockMs ≤ timeMs ∧ fits view timeMs
    | _, _ => True
  guarantee view op _ :=
    match op with
    | .checkpoint record => Offers tools build view record
    | .call _ => True

/-- A push is not armed at time zero, and the first absence after it is observed at a time that
    gives the deadline that the push was armed with. -/
def QuiescenceKept (view : SubmissionView) (timeMs : UInt64) : Prop :=
  view.accepted.phase = .sourcePublishIntent →
    (view.accepted.sourcePublicationStartedAtMs = 0 → timeMs ≠ 0) ∧
    (view.accepted.sourcePublicationStartedAtMs ≠ 0 → view.sourceMissing = true →
      view.accepted.sourcePublicationAbsenceObservations = 0 →
      publicationQuiescenceDeadline view.accepted.sourcePublicationStartedAtMs timeMs =
        view.accepted.sourcePublicationQuiescenceDeadlineMs)

instance {tools : ResumeTools} {build : IosDeviceBuildRequest}
    {fits : SubmissionView → UInt64 → Prop} [∀ view timeMs, Decidable (fits view timeMs)]
    (view : SubmissionView) : ∀ op answer,
      Decidable ((submissionContract tools build fits).assume view op answer)
  | .call .nowMs, timeMs => inferInstanceAs (Decidable (view.clockMs ≤ timeMs ∧ fits view timeMs))
  | .checkpoint _, _ | .call .isCancelled, _ | .call .currentResumeIdentity, _
  | .call .sourceRepository, _ | .call .verifyExecutionWorkflow, _
  | .call (.reconcileGitSnapshotKeepalive _ _ _), _ | .call (.importGitSnapshot _ _), _
  | .call (.createGitSnapshotKeepalive _ _ _), _ | .call (.deleteGitSnapshotStage _ _), _
  | .call .publicationLeaseScopeSha256, _ | .call .publicationAttemptIsProcessFenced, _
  | .call (.acquireGitSnapshotSourceLease _), _ | .call (.releaseGitSnapshotSourceLease _), _
  | .call (.publishGitSnapshotSource _ _ _), _ | .call (.reconcileGitSnapshotSource _ _), _
  | .call (.prepare _ _ _ _), _ | .call (.acquirePublicationLease _ _), _
  | .call (.releasePublicationLease _ _), _ | .call (.publishPrepared _ _ _ _), _ =>
    inferInstanceAs (Decidable True)

instance (view : SubmissionView) (timeMs : UInt64) : Decidable (QuiescenceKept view timeMs) :=
  inferInstanceAs (Decidable (_ → _ ∧ _))

/-- How many iterations may follow, at most. -/
def GithubGitSnapshotResumeV1.rank (s : GithubGitSnapshotResumeV1) : Nat :=
  match s.phase with
  | .prepared => 9
  | .keepaliveIntent => 8
  | .keepaliveExact => 7
  | .stageDeleteIntent => 6
  | .stageDeleted => 5
  | .sourcePublishIntent => if s.sourcePublicationStartedAtMs = 0 then 2 else 4
  | .sourceAbsent => 3
  | .sourceExact => 1
  | .sourceConflict | .sourceCleanupIntent | .sourceDeleted | .keepaliveReleaseIntent
  | .keepaliveReleased => 0

/-! ## Steps that leave the snapshot alone -/

section Quiet

variable {tools : ResumeTools} {fits : SubmissionView → UInt64 → Prop}
  {build : IosDeviceBuildRequest} {memory accepted : GithubGitSnapshotResumeV1}
  {clockMs : UInt64} {config : ProviderConfig} {α : Type}

/-- The snapshot in memory and the accepted one. -/
structure Holds (build : IosDeviceBuildRequest) (memory accepted : GithubGitSnapshotResumeV1)
    (clockMs : UInt64) (record : JobRecord) (view : SubmissionView) : Prop where
  snapshot : record.gitSnapshot = some memory
  request : record.request = build
  accepted : view.accepted = accepted
  offered : ∀ s, view.offered = some s → s = memory ∨ s = view.accepted
  clock : clockMs ≤ view.clockMs

variable {record : JobRecord} {view : SubmissionView}

theorem Holds.of_record {record' : JobRecord} (h : Holds build memory accepted clockMs record view)
    (hsnapshot : record'.gitSnapshot = record.gitSnapshot)
    (hrequest : record'.request = record.request) :
    Holds build memory accepted clockMs record' view :=
  ⟨hsnapshot.trans h.snapshot, hrequest.trans h.request, h.accepted, h.offered, h.clock⟩

/-- A computation hands nothing to the sink and leaves the snapshot alone. -/
def Quiet (tools : ResumeTools) (fits : SubmissionView → UInt64 → Prop) (x : ProviderM α) : Prop :=
  ∀ build memory accepted clockMs,
    Keeps (submissionContract tools build fits) (Holds build memory accepted clockMs) x

variable {x : ProviderM α} {f : α → ProviderM β}

/-- Two quiet computations. -/
theorem Quiet.bind (hx : Quiet tools fits x)
    (hf : ∀ a, Quiet tools fits (f a)) : Quiet tools fits (x >>= f) :=
  fun r m a t => keeps_bind (hx r m a t) fun b => hf b r m a t

theorem quiet_pure {a : α} : Quiet tools fits (pure a : ProviderM α) :=
  fun _ _ _ _ => keeps_pure

theorem quiet_fail : Quiet tools fits (fail e : ProviderM α) :=
  fun _ _ _ _ => keeps_fail

theorem quiet_get : Quiet tools fits (get : ProviderM JobRecord) := fun _ _ _ _ _ _ h => h

theorem quiet_ensure {b : Bool} :
    Quiet tools fits (ensure b e : ProviderM Unit) :=
  fun _ _ _ _ => keeps_ensure

theorem quiet_ofExcept {x : ProviderResult α} : Quiet tools fits (ofExcept x : ProviderM α) :=
  fun _ _ _ _ => keeps_ofExcept

theorem quiet_ofOption {x : Option α} :
    Quiet tools fits (ofOption e x : ProviderM α) :=
  fun _ _ _ _ => keeps_ofOption

theorem quiet_modify {f : JobRecord → JobRecord}
    (hf : ∀ r, (f r).gitSnapshot = r.gitSnapshot ∧ (f r).request = r.request) :
    Quiet tools fits (modify f : ProviderM Unit) :=
  fun _ _ _ _ => keeps_modify fun r _ h => h.of_record (hf r).1 (hf r).2

theorem quiet_request {call : ProviderCall} : Quiet tools fits (request call) := by
  intro _ memory accepted clockMs
  apply keeps_perform
  intro record view answer h hassume
  cases call with
  | nowMs => exact ⟨trivial, h.snapshot, h.request, h.accepted, h.offered,
      UInt64.le_trans h.clock hassume.1⟩
  | _ => exact ⟨trivial, h.snapshot, h.request, h.accepted, h.offered, h.clock⟩

theorem quiet_onlyIf {condition : Prop} [Decidable condition] {step : ProviderM Unit}
    (hstep : Quiet tools fits step) : Quiet tools fits (onlyIf condition step) := by
  rw [onlyIf]
  split
  · exact hstep
  · exact quiet_pure

theorem quiet_tryCall {call : ProviderM (ProviderResult α)} (hcall : Quiet tools fits call) :
    Quiet tools fits (tryCall call) :=
  hcall.bind fun _ => quiet_ofExcept

theorem quiet_attempt (hx : Quiet tools fits x) :
    Quiet tools fits (x.attempt : ProviderM (ProviderResult α)) :=
  fun r m a t => keeps_attempt (hx r m a t)

theorem quiet_checkCancellation : Quiet tools fits checkCancellation :=
  .bind quiet_request fun _ => quiet_ensure

theorem quiet_transitionRecord {next : JobState} : Quiet tools fits (transitionRecord next) :=
  .bind quiet_get fun _ => .bind quiet_ofExcept fun _ =>
    quiet_modify fun _ => ⟨rfl, rfl⟩

variable {kind : RemoteBuildEventKind}

theorem quiet_appendEvent {phase : String} :
    Quiet tools fits (appendEvent config timestampMs phase kind) :=
  .bind quiet_get fun _ => .bind quiet_ensure fun _ => .bind quiet_ofExcept fun _ =>
    quiet_modify fun _ => ⟨rfl, rfl⟩

theorem quiet_appendFailed :
    Quiet tools fits (appendFailed config timestampMs code message retryable) :=
  .bind quiet_get fun _ => .bind quiet_ofExcept fun _ => quiet_appendEvent

theorem quiet_appendEventNow {phase : String} :
    Quiet tools fits (appendEventNow config phase kind) :=
  .bind quiet_request fun _ => quiet_appendEvent

theorem quiet_markPublicationNotAttempted :
    Quiet tools fits (markPublicationNotAttempted config timestampMs code message retryable) :=
  .bind (quiet_modify fun _ => ⟨rfl, rfl⟩) fun _ => .bind quiet_get fun _ =>
    quiet_onlyIf (Quiet.bind quiet_transitionRecord fun _ => quiet_appendFailed)

theorem quiet_currentPublicSnapshotSourceIdentity :
    Quiet tools fits (currentPublicSnapshotSourceIdentity config) :=
  (quiet_tryCall quiet_request).bind fun _ => .bind quiet_get fun _ =>
    .bind quiet_ofExcept fun _ => .bind quiet_ensure fun _ =>
      (quiet_tryCall quiet_request).bind fun _ => .bind quiet_ensure fun _ =>
        quiet_pure

theorem quiet_revalidatePublicSnapshotSource :
    Quiet tools fits (revalidatePublicSnapshotSource config) :=
  .bind quiet_currentPublicSnapshotSourceIdentity fun _ => quiet_pure

variable {lease : TemporaryRefPublicationLease}

theorem quiet_acceptSnapshotSourceLease {owned : Bool} :
    Quiet tools fits (acceptSnapshotSourceLease owned lease) := by
  cases lease with
  | acquired => exact quiet_modify fun _ => ⟨rfl, rfl⟩
  | alreadyOwned => exact quiet_ensure
  | heldByOther => exact quiet_fail
  | unsupported => exact quiet_fail

theorem quiet_acceptSnapshotDispatchLease {owned : Bool} :
    Quiet tools fits (acceptSnapshotDispatchLease owned lease) := by
  cases lease with
  | acquired => exact quiet_pure
  | alreadyOwned => exact quiet_ensure
  | heldByOther => exact quiet_fail
  | unsupported => exact quiet_fail

theorem quiet_acquireNewSnapshotDispatchLease :
    Quiet tools fits (acquireNewSnapshotDispatchLease record) :=
  .bind quiet_request fun _ => .bind quiet_ofOption fun _ =>
    .bind quiet_request fun _ => .bind quiet_ensure fun _ =>
      (quiet_tryCall quiet_request).bind fun _ =>
        .bind quiet_acceptSnapshotDispatchLease fun _ => quiet_pure

/-- A released copy has the snapshot of the record. -/
theorem wp_releaseSnapshotSourceLeaseOf {state : JobRecord}
    (h : Holds build memory accepted clockMs state view) :
    ProgM.wp (submissionContract tools build fits) (releaseSnapshotSourceLeaseOf record)
      (fun released state view => Holds build memory accepted clockMs state view ∧
        released.gitSnapshot = record.gitSnapshot ∧ released.request = record.request)
      (fun _ => Holds build memory accepted clockMs) state view := by
  rw [releaseSnapshotSourceLeaseOf]
  split
  · rw [wp_bind, wp_ofOption]
    refine ⟨fun snapshot _ => ?_, fun _ => h⟩
    rw [wp_bind]
    apply wp_mono (quiet_request _ _ _ _ _ _ h)
    · intro _ _ _ h'
      exact ⟨h', rfl, rfl⟩
    · intro _ _ _ h'
      exact h'
  · exact ⟨h, rfl, rfl⟩

theorem quiet_releaseSnapshotSourceLeaseOf :
    Quiet tools fits (releaseSnapshotSourceLeaseOf record) := by
  intro _ _ _ _ _ _ h
  exact wp_mono (wp_releaseSnapshotSourceLeaseOf h) (fun _ _ _ h' => h'.1) fun _ _ _ h' => h'

theorem quiet_releaseSnapshotSourceLease : Quiet tools fits releaseSnapshotSourceLease := by
  intro _ _ _ _ record view h
  rw [releaseSnapshotSourceLease, wp_bind, wp_get, wp_bind]
  apply wp_mono (wp_releaseSnapshotSourceLeaseOf h)
  · intro released state view' ⟨h', hsnapshot, hrequest⟩
    exact h'.of_record ((hsnapshot.trans h.snapshot).trans h'.snapshot.symm)
      ((hrequest.trans h.request).trans h'.request.symm)
  · intro _ _ _ h'
    exact h'

/-- The release of the publication. -/
theorem wp_releaseRecordPublicationLeaseOf {state : JobRecord}
    (h : Holds build memory accepted clockMs state view) :
    ProgM.wp (submissionContract tools build fits) (releaseRecordPublicationLeaseOf record)
      (fun released state view => Holds build memory accepted clockMs state view ∧
        released.gitSnapshot = record.gitSnapshot ∧ released.request = record.request)
      (fun _ => Holds build memory accepted clockMs) state view := by
  rw [releaseRecordPublicationLeaseOf]
  split
  · rw [wp_bind]
    apply wp_mono (quiet_request _ _ _ _ _ _ h)
    · intro _ _ _ h'
      exact ⟨h', rfl, rfl⟩
    · intro _ _ _ h'
      exact h'
  · exact ⟨h, rfl, rfl⟩

theorem quiet_releaseRecordPublicationLeaseOf :
    Quiet tools fits (releaseRecordPublicationLeaseOf record) := by
  intro _ _ _ _ _ _ h
  exact wp_mono (wp_releaseRecordPublicationLeaseOf h) (fun _ _ _ h' => h'.1) fun _ _ _ h' => h'

/-- The same for the current record. -/
theorem quiet_releaseRecordPublicationLease : Quiet tools fits releaseRecordPublicationLease := by
  intro _ _ _ _ record view h
  rw [releaseRecordPublicationLease, wp_bind, wp_get, wp_bind]
  apply wp_mono (wp_releaseRecordPublicationLeaseOf h)
  · intro released state view' ⟨h', hsnapshot, hrequest⟩
    exact h'.of_record ((hsnapshot.trans h.snapshot).trans h'.snapshot.symm)
      ((hrequest.trans h.request).trans h'.request.symm)
  · intro _ _ _ h'
    exact h'

theorem quiet_workflowDispatchSnapshotIdentity :
    Quiet tools fits (workflowDispatchSnapshotIdentity config) := by
  rw [workflowDispatchSnapshotIdentity]
  split
  · apply Quiet.bind (Quiet.bind quiet_get fun _ => quiet_ofOption)
    intro snapshot
    apply Quiet.bind (quiet_onlyIf (quiet_tryCall quiet_request))
    intro _
    split
    · exact .bind quiet_currentPublicSnapshotSourceIdentity fun _ => quiet_pure
    · exact quiet_pure
  · exact quiet_pure

theorem quiet_validateSnapshotSource :
    Quiet tools fits (validateSnapshotSource config identity) := by
  cases identity with
  | none => exact quiet_revalidatePublicSnapshotSource
  | some identity => exact .bind quiet_get fun _ => quiet_ofExcept

theorem quiet_noteCancellation : Quiet tools fits noteCancellation :=
  .bind quiet_request fun _ =>
    .bind (quiet_modify fun _ => ⟨rfl, rfl⟩) fun _ => .bind quiet_get fun _ =>
      quiet_onlyIf quiet_transitionRecord

theorem quiet_failMismatchedDispatch : Quiet tools fits (failMismatchedDispatch config) :=
  .bind quiet_transitionRecord fun _ => .bind quiet_appendEventNow fun _ =>
    .bind quiet_request fun _ => quiet_appendFailed

theorem quiet_prepareDispatch :
    Quiet tools fits (prepareDispatch config record snapshot) :=
  .bind quiet_ofExcept fun _ => (quiet_tryCall quiet_request).bind fun _ =>
    .bind quiet_ensure fun _ => quiet_pure

theorem quiet_queueDispatch :
    Quiet tools fits (queueDispatch config uncertain) := by
  rw [queueDispatch]
  split
  · exact quiet_appendEventNow
  · exact quiet_onlyIf (Quiet.bind quiet_get fun _ => (quiet_onlyIf quiet_transitionRecord).bind
      fun _ => quiet_appendEventNow)

/-! ## Steps that checkpoint the same snapshot again -/

/-- A checkpoint of a value that follows the accepted one. -/
theorem wp_checkpointRecord {Q : Unit → JobRecord → SubmissionView → Prop}
    {E : ProviderError → JobRecord → SubmissionView → Prop}
    (h : Holds build memory accepted clockMs record view)
    (hstep : Step tools build clockMs accepted memory)
    (hQ : ∀ view', Holds build memory memory clockMs record view' → Q () record view')
    (hE : ∀ e view', Holds build memory accepted clockMs record view' → E e record view') :
    ProgM.wp (submissionContract tools build fits) checkpointRecord Q E record view := by
  rw [checkpointRecord, wp_bind, wp_get, wp_bind, offer, wp_perform]
  intro answer _
  have hgood : Offers tools build view record :=
    ⟨h.request, memory, h.snapshot, hstep.sound.mono h.clock, h.accepted ▸ hstep.successor⟩
  refine ⟨hgood, ?_⟩
  cases answer with
  | ok _ =>
    apply hQ
    have haccepted : record.gitSnapshot.getD view.accepted = memory := by
      rw [h.snapshot]
      rfl
    exact ⟨h.snapshot, h.request, haccepted, fun _ hnone => (nomatch hnone), h.clock⟩
  | error e =>
    apply hE
    refine ⟨h.snapshot, h.request, h.accepted, fun s hs => .inl ?_, h.clock⟩
    exact (Option.some.inj (h.snapshot.symm.trans hs)).symm

/-- A computation hands only the accepted snapshot to the sink. -/
def Steady (tools : ResumeTools) (fits : SubmissionView → UInt64 → Prop) (x : ProviderM α) : Prop :=
  ∀ build memory clockMs, memory.Sound tools build clockMs →
    Keeps (submissionContract tools build fits) (Holds build memory memory clockMs) x

/-- Quiet computations are steady. -/
theorem Quiet.steady (hx : Quiet tools fits x) : Steady tools fits x :=
  fun build memory clockMs _ => hx build memory memory clockMs

/-- Two steady computations. -/
theorem Steady.bind (hx : Steady tools fits x)
    (hf : ∀ a, Steady tools fits (f a)) : Steady tools fits (x >>= f) :=
  fun b m t hsound => keeps_bind (hx b m t hsound) fun a => hf a b m t hsound

/-- A quiet one before a steady one. -/
theorem Quiet.andThen (hx : Quiet tools fits x)
    (hf : ∀ a, Steady tools fits (f a)) : Steady tools fits (x >>= f) :=
  Steady.bind (Quiet.steady hx) hf

theorem Steady.handle {f : ProviderError → ProviderM α}
    (hx : Steady tools fits x) (hf : ∀ e, Steady tools fits (f e)) :
    Steady tools fits (x.handle f) :=
  fun b m t hsound => keeps_handle (hx b m t hsound) fun e => hf e b m t hsound

/-- A failure that is kept. -/
theorem Steady.attempt (hx : Steady tools fits x) :
    Steady tools fits (x.attempt : ProviderM (ProviderResult α)) :=
  fun b m t hsound => keeps_attempt (hx b m t hsound)

theorem steady_onlyIf {condition : Prop} [Decidable condition] {step : ProviderM Unit}
    (hstep : Steady tools fits step) : Steady tools fits (onlyIf condition step) := by
  rw [onlyIf]
  split
  · exact hstep
  · exact Quiet.steady quiet_pure

theorem steady_checkpointRecord : Steady tools fits checkpointRecord := by
  intro build memory clockMs hsound record view h
  exact wp_checkpointRecord h hsound.step_self (fun _ h' => h') fun _ _ h' => h'

theorem steady_abandonDispatch :
    Steady tools fits (abandonDispatch config code message retryable e : ProviderM α) :=
  Quiet.andThen quiet_request fun _ => Quiet.andThen quiet_markPublicationNotAttempted fun _ =>
    Steady.bind steady_checkpointRecord fun _ =>
      Quiet.andThen quiet_releaseRecordPublicationLease fun _ =>
      Quiet.andThen quiet_releaseSnapshotSourceLease fun _ => Quiet.steady quiet_fail

variable {published : TemporaryRefPublication}

theorem steady_settleDispatch {mismatch : Bool} :
    Steady tools fits (settleDispatch config published uncertain mismatch) := by
  refine Quiet.andThen (quiet_modify fun _ => ⟨rfl, rfl⟩) fun _ => ?_
  apply Steady.bind steady_checkpointRecord
  intro _
  split
  · exact Quiet.andThen quiet_failMismatchedDispatch fun _ =>
      Steady.bind steady_checkpointRecord fun _ =>
      Quiet.andThen quiet_releaseRecordPublicationLease fun _ =>
        (Quiet.steady quiet_releaseSnapshotSourceLease)
  · exact Quiet.andThen quiet_queueDispatch fun _ => Quiet.andThen quiet_noteCancellation fun _ =>
      Steady.bind steady_checkpointRecord fun _ =>
        Quiet.andThen quiet_releaseSnapshotSourceLease fun _ =>
        Quiet.andThen quiet_get fun _ =>
          steady_onlyIf (Quiet.steady quiet_releaseRecordPublicationLease)

variable {prepared : Option TemporaryRefPublication} {outcome : DispatchPublication}

theorem steady_finishDispatch :
    Steady tools fits (finishDispatch config record prepared outcome) := by
  cases outcome with
  | published publication => exact steady_settleDispatch
  | possible publication => exact steady_settleDispatch
  | notAttempted failure => exact steady_abandonDispatch

theorem steady_publishGitSnapshotDispatch :
    Steady tools fits (publishGitSnapshotDispatch config) := by
  apply Quiet.andThen quiet_get
  intro record
  apply steady_onlyIf
  apply Quiet.andThen quiet_checkCancellation
  intro _
  apply Quiet.andThen quiet_ofOption
  intro snapshot
  apply Quiet.andThen quiet_revalidatePublicSnapshotSource
  intro _
  apply Quiet.andThen quiet_prepareDispatch
  intro prepared
  apply Quiet.andThen quiet_acquireNewSnapshotDispatchLease
  intro scope
  refine Quiet.andThen (quiet_modify fun _ => ⟨rfl, rfl⟩) fun _ => ?_
  apply Steady.bind steady_checkpointRecord
  intro _
  apply Steady.bind
    (Steady.handle (Quiet.steady quiet_revalidatePublicSnapshotSource) fun _ =>
      steady_abandonDispatch)
  intro _
  apply Quiet.andThen quiet_request
  intro startedAtMs
  refine Quiet.andThen (quiet_modify fun _ => ⟨rfl, rfl⟩) fun _ => ?_
  exact Steady.bind steady_checkpointRecord fun _ => Quiet.andThen quiet_checkCancellation fun _ =>
    Quiet.andThen quiet_request fun _ => steady_finishDispatch

theorem steady_abandonWorkingDispatch :
    Steady tools fits
      (abandonWorkingDispatch config working code message retryable e : ProviderM α) := by
  apply Quiet.andThen quiet_request
  intro timestampMs
  apply Quiet.andThen quiet_markPublicationNotAttempted
  intro _
  refine Quiet.andThen (quiet_modify fun _ => ⟨rfl, rfl⟩) fun _ => ?_
  exact Steady.bind steady_checkpointRecord fun _ =>
    Quiet.andThen (quiet_attempt quiet_releaseRecordPublicationLeaseOf) fun _ =>
      Quiet.andThen (quiet_attempt quiet_releaseSnapshotSourceLeaseOf) fun _ =>
        Quiet.steady quiet_fail

theorem steady_armWorkingDispatch {identity : ProviderResult (GithubPrincipalIdentityV1 × UInt64)}
    {cancellation : ProviderResult Unit} :
    Steady tools fits (armWorkingDispatch working snapshot identity cancellation) := by
  apply Quiet.andThen quiet_get
  intro record
  apply Quiet.andThen quiet_ofExcept
  intro identity
  apply Quiet.andThen quiet_ofExcept
  intro _
  apply Quiet.andThen quiet_ofExcept
  intro _
  apply Quiet.andThen quiet_ensure
  intro _
  apply Quiet.andThen quiet_ensure
  intro _
  exact Quiet.andThen quiet_request fun _ => Quiet.andThen (quiet_modify fun _ =>
    ⟨rfl, rfl⟩) fun _ =>
    steady_checkpointRecord

theorem steady_settleWorkingDispatch {mismatch : Bool} :
    Steady tools fits
      (settleWorkingDispatch config working snapshot published uncertain mismatch) := by
  apply Quiet.andThen quiet_get
  intro record
  apply Quiet.andThen quiet_ensure
  intro _
  refine Quiet.andThen (quiet_modify fun _ => ⟨rfl, rfl⟩) fun _ => ?_
  apply Quiet.andThen quiet_noteCancellation
  intro _
  apply (steady_onlyIf (Quiet.steady quiet_failMismatchedDispatch)).bind
  intro _
  apply Steady.bind (steady_onlyIf (Quiet.steady quiet_appendEventNow))
  intro _
  refine Quiet.andThen (quiet_modify fun _ => ⟨rfl, rfl⟩) fun _ => ?_
  exact Steady.bind steady_checkpointRecord fun _ =>
    Quiet.andThen quiet_releaseSnapshotSourceLeaseOf
    fun _ => steady_onlyIf
      (Quiet.andThen quiet_releaseRecordPublicationLeaseOf fun _ => Quiet.steady quiet_pure)

theorem steady_finishWorkingDispatch :
    Steady tools fits (finishWorkingDispatch config working snapshot prepared outcome) := by
  cases outcome with
  | published publication => exact steady_settleWorkingDispatch
  | possible publication => exact steady_settleWorkingDispatch
  | notAttempted failure => exact steady_abandonWorkingDispatch

theorem steady_intendWorkingDispatch {identity : GithubPrincipalIdentityV1 × UInt64} :
    Steady tools fits (intendWorkingDispatch working snapshot prepared identity) := by
  apply Quiet.andThen quiet_acquireNewSnapshotDispatchLease
  intro scope
  apply Quiet.andThen quiet_get
  intro record
  apply Quiet.andThen quiet_ensure
  intro _
  apply Quiet.andThen quiet_ofExcept
  intro _
  exact Quiet.andThen (quiet_modify fun _ => ⟨rfl, rfl⟩) fun _ =>
    Steady.bind steady_checkpointRecord fun _ =>
    (Quiet.steady quiet_pure)

theorem steady_publishGitSnapshotDispatchWorkflowDispatch :
    Steady tools fits (publishGitSnapshotDispatchWorkflowDispatch config) := by
  apply Quiet.andThen quiet_checkCancellation
  intro _
  apply Quiet.andThen quiet_get
  intro working
  apply steady_onlyIf
  apply Quiet.andThen quiet_ofOption
  intro snapshot
  apply Quiet.andThen quiet_currentPublicSnapshotSourceIdentity
  intro initialIdentity
  apply Quiet.andThen quiet_prepareDispatch
  intro prepared
  apply Steady.bind steady_intendWorkingDispatch
  intro working
  apply Quiet.andThen (quiet_attempt quiet_currentPublicSnapshotSourceIdentity)
  intro identity
  apply Quiet.andThen (quiet_attempt quiet_checkCancellation)
  intro cancellation
  apply Steady.bind (Steady.handle steady_armWorkingDispatch fun _ => steady_abandonWorkingDispatch)
  intro _
  exact Quiet.andThen quiet_get fun _ => Quiet.andThen quiet_request fun _ =>
    steady_finishWorkingDispatch

/-- The scope of the publisher's lease is a digest. -/
theorem wp_acquireSnapshotSourceLease (h : Holds build memory accepted clockMs record view) :
    ProgM.wp (submissionContract tools build fits) acquireSnapshotSourceLease
      (fun scope record view => Holds build memory accepted clockMs record view ∧
        isLowerSha256 scope = true)
      (fun _ => Holds build memory accepted clockMs) record view := by
  rw [acquireSnapshotSourceLease, wp_bind, wp_get, wp_bind, wp_ofOption]
  refine ⟨fun snapshot _ => ?_, fun _ => h⟩
  rw [wp_bind]
  apply wp_mono (quiet_request _ _ _ _ _ _ h) _ fun _ _ _ h' => h'
  intro found _ _ h
  rw [wp_bind, wp_ofOption]
  refine ⟨fun scope hscope => ?_, fun _ => h⟩
  have hlower : isLowerSha256 scope = true := (Option.filter_eq_some_iff.mp hscope).2
  -- what follows is quiet, and the scope is returned at its end
  rw [wp_bind]
  apply wp_mono (quiet_ensure _ _ _ _ _ _ h) _ fun _ _ _ h' => h'
  intro _ _ _ h
  rw [wp_bind]
  apply wp_mono (quiet_request _ _ _ _ _ _ h) _ fun _ _ _ h' => h'
  intro fenced _ _ h
  rw [wp_bind]
  apply wp_mono (quiet_ensure _ _ _ _ _ _ h) _ fun _ _ _ h' => h'
  intro _ _ _ h
  rw [wp_bind]
  apply wp_mono (quiet_tryCall quiet_request _ _ _ _ _ _ h) _ fun _ _ _ h' => h'
  intro lease _ _ h
  rw [wp_bind]
  apply wp_mono (quiet_acceptSnapshotSourceLease _ _ _ _ _ _ h) _ fun _ _ _ h' => h'
  intro _ _ _ h
  exact ⟨h, hlower⟩

theorem quiet_acquireSnapshotSourceLease : Quiet tools fits acquireSnapshotSourceLease := by
  intro _ _ _ _ _ _ h
  exact wp_mono (wp_acquireSnapshotSourceLease h) (fun _ _ _ h' => h'.1) fun _ _ _ h' => h'

/-! ## Steps of a submission -/

/-- Between two calls, and when a call is interrupted: the snapshot in memory follows the accepted
    one, and is the accepted one when the next iteration does not checkpoint it first. -/
structure Consistent (tools : ResumeTools) (build : IosDeviceBuildRequest)
    (acknowledged : Option GithubGitSnapshotPhaseV1) (memory : GithubGitSnapshotResumeV1)
    (record : JobRecord) (view : SubmissionView) : Prop where
  holds : Holds build memory view.accepted view.clockMs record view
  step : Step tools build view.clockMs view.accepted memory
  sound : view.accepted.Sound tools build view.clockMs
  current : memory.phase = .prepared ∨ acknowledged = some memory.phase → memory = view.accepted

/-- Some snapshot is in memory, and nothing was acknowledged in this call. -/
def Idle (tools : ResumeTools) (build : IosDeviceBuildRequest) (record : JobRecord)
    (view : SubmissionView) : Prop :=
  ∃ memory, Consistent tools build none memory record view

/-- The snapshot that an interrupted step leaves in memory. -/
theorem Holds.idle (h : Holds build memory accepted clockMs record view)
    (hstep : Step tools build clockMs accepted memory) (hsound : accepted.Sound tools build clockMs)
    (hphase : memory.phase = .prepared → memory = accepted) : Idle tools build record view := by
  have haccepted := h.accepted
  subst haccepted
  refine ⟨memory, ⟨⟨h.snapshot, h.request, rfl, h.offered, UInt64.le_refl _⟩,
    ⟨hstep.sound.mono h.clock, hstep.successor⟩, hsound.mono h.clock, ?_⟩⟩
  intro hcurrent
  cases hcurrent with
  | inl hprepared => exact hphase hprepared
  | inr hnone => cases hnone

/-- The accepted snapshot in memory. -/
theorem Holds.idle_self (h : Holds build memory memory clockMs record view)
    (hsound : memory.Sound tools build clockMs) : Idle tools build record view :=
  h.idle hsound.step_self hsound fun _ => rfl

/-- A step of the submission: what it returns when the submission goes on, and what it leaves when
    it stops. -/
def Advances (tools : ResumeTools) (fits : SubmissionView → UInt64 → Prop)
    (build : IosDeviceBuildRequest) (bound : Nat) (x : ProviderM (Option GithubGitSnapshotPhaseV1))
    (record : JobRecord) (view : SubmissionView) : Prop :=
  ProgM.wp (submissionContract tools build fits) x
    (fun next record view =>
      match next with
      | none => Idle tools build record view
      | some phase => ∃ memory, Consistent tools build (some phase) memory record view ∧
          memory.rank < bound)
    (fun _ => Idle tools build) record view

section Advances

variable {bound : Nat} {record : JobRecord} {view : SubmissionView}

section

variable (h : Holds build memory memory clockMs record view)
  (hsound : memory.Sound tools build clockMs)

include h hsound

/-- The submission goes on from an accepted snapshot. -/
theorem advances_some (hrank : memory.rank < bound) :
    Advances tools fits build bound (pure (some memory.phase)) record view := by
  have haccepted := h.accepted
  refine ⟨memory, ⟨?_, ?_, ?_, fun _ => haccepted.symm⟩, hrank⟩
  · exact ⟨h.snapshot, h.request, rfl, h.offered, UInt64.le_refl _⟩
  · rw [haccepted]
    exact (hsound.mono h.clock).step_self
  · rw [haccepted]
    exact hsound.mono h.clock

theorem advances_none :
    Advances tools fits build bound (pure none) record view :=
  h.idle_self hsound

theorem advances_fail :
    Advances tools fits build bound (fail e) record view :=
  h.idle_self hsound

end

/-- Steps that keep the accepted snapshot come before the others. -/
theorem advances_bind {f : α → ProviderM (Option GithubGitSnapshotPhaseV1)}
    (hx : Steady tools fits x) (h : Holds build memory memory clockMs record view)
    (hsound : memory.Sound tools build clockMs)
    (hf : ∀ a record view, Holds build memory memory clockMs record view →
      Advances tools fits build bound (f a) record view) :
    Advances tools fits build bound (x >>= f) record view := by
  rw [Advances, wp_bind]
  apply wp_mono (hx _ _ _ hsound _ _ h)
  · intro a record' view' h'
    exact hf a record' view' h'
  · intro _ _ _ h'
    exact h'.idle_self hsound

section

variable (h : Holds build memory memory clockMs record view)

include h

/-- The clock is read, and later steps are at that time. -/
theorem advances_now {f : UInt64 → ProviderM (Option GithubGitSnapshotPhaseV1)}
    (hf : ∀ timeMs view', clockMs ≤ timeMs → fits view timeMs →
      Holds build memory memory timeMs record view' →
      Advances tools fits build bound (f timeMs) record view') :
    Advances tools fits build bound (request .nowMs >>= f) record view := by
  rw [Advances, wp_bind, request, wp_perform]
  intro timeMs ⟨hclock, hfits⟩
  refine ⟨trivial, ?_⟩
  exact hf timeMs _ (UInt64.le_trans h.clock hclock) hfits
    ⟨h.snapshot, h.request, h.accepted, h.offered, UInt64.le_refl _⟩

/-- Change the snapshot and checkpoint it. -/
theorem advances_change {f : GithubGitSnapshotResumeV1 → GithubGitSnapshotResumeV1}
    {k : ProviderM (Option GithubGitSnapshotPhaseV1)}
    (hsound : memory.Sound tools build clockMs)
    (hstep : Step tools build clockMs memory (f memory)) (hphase : (f memory).phase ≠ .prepared)
    (hk : ∀ record view, Holds build (f memory) (f memory) clockMs record view →
      Advances tools fits build bound k record view) :
    Advances tools fits build bound (modifySnapshot f >>= fun _ => checkpointRecord >>= fun _ => k)
      record view := by
  have hoffered : ∀ s, view.offered = some s → s = f memory ∨ s = view.accepted := by
    intro s hs
    exact .inr ((h.offered s hs).elim (fun heq => heq.trans h.accepted.symm) id)
  have hchanged : Holds build (f memory) memory clockMs
      { record with gitSnapshot := record.gitSnapshot.map f } view :=
    ⟨by rw [h.snapshot]; rfl, h.request, h.accepted, hoffered, h.clock⟩
  rw [Advances, wp_bind, modifySnapshot, wp_modify, wp_bind]
  apply wp_checkpointRecord hchanged hstep
  · intro view' h'
    exact hk _ view' h'
  · intro _ view' h'
    exact h'.idle hstep hsound fun hprepared => absurd hprepared hphase

theorem advances_enter (hsound : memory.Sound tools build clockMs)
    (hstep : Step tools build clockMs memory { memory with phase }) (hphase : phase ≠ .prepared)
    (hrank : GithubGitSnapshotResumeV1.rank { memory with phase } < bound) :
    Advances tools fits build bound (enterPhase phase) record view :=
  advances_change h hsound hstep hphase fun _ _ h' => advances_some h' hstep.sound hrank

end

variable {reconciliation : GitSnapshotRefReconciliation}

theorem quiet_establishKeepalive {operationId : String} :
    Quiet tools fits (establishKeepalive operationId snapshot reconciliation) := by
  cases reconciliation with
  | exact => exact quiet_pure
  | conflict => exact quiet_fail
  | absent =>
    exact .bind (quiet_tryCall quiet_request) fun _ => .bind quiet_ensure fun _ =>
      quiet_tryCall quiet_request

theorem quiet_requireKeepalive :
    Quiet tools fits (requireKeepalive reconciliation) := by
  cases reconciliation with
  | exact => exact quiet_pure
  | conflict => exact quiet_fail
  | absent => exact quiet_fail

section

variable (h : Holds build memory memory clockMs record view)
  (hsound : memory.Sound tools build clockMs)

include h hsound

/-- A phase before the source changes nothing but the phase. -/
theorem advances_enter_before (hadvance : memory.phase.canAdvanceTo phase = true)
    (hbefore : phase.beforeSource = true) (hfrom : memory.phase.beforeSource = true)
    (hphase : phase ≠ .prepared)
    (hrank : GithubGitSnapshotResumeV1.rank { memory with phase } < bound) :
    Advances tools fits build bound (enterPhase phase) record view := by
  apply advances_enter h hsound _ hphase hrank
  apply hsound.enter hadvance
  · rintro rfl
    exact absurd hbefore (by decide)
  · rintro rfl
    exact absurd hbefore (by decide)
  · rw [hbefore, hfrom]
  · intro howns
    cases phase <;> first | exact absurd howns (by decide) | exact absurd hbefore (by decide)
  · have hrelease : ∀ p : GithubGitSnapshotPhaseV1, p.beforeSource = true →
        p.keepaliveRelease = false := by
      intro p
      cases p <;> decide
    rw [hrelease _ hbefore, hrelease _ hfrom]

theorem advances_submitKeepalive (hphase : memory.phase = .keepaliveIntent) :
    Advances tools fits build memory.rank (submitKeepalive config memory) record view := by
  apply advances_bind (Quiet.steady quiet_ensure) h hsound
  intro _ _ _ h
  apply advances_bind (Quiet.steady quiet_get) h hsound
  intro found _ _ h
  apply advances_bind (Quiet.steady (quiet_tryCall quiet_request)) h hsound
  intro reconciliation _ _ h
  apply advances_bind (Quiet.steady quiet_establishKeepalive) h hsound
  intro _ _ _ h
  have hadvance : memory.phase.canAdvanceTo .keepaliveExact = true := by
    rw [hphase]
    rfl
  exact advances_enter_before h hsound hadvance rfl (by rw [hphase]; rfl) (by decide)
    (by simp [rank, hphase])

theorem advances_deleteStage (hphase : memory.phase = .stageDeleteIntent) :
    Advances tools fits build memory.rank (deleteStage memory) record view := by
  apply advances_bind (Quiet.steady quiet_get) h hsound
  intro found _ _ h
  apply advances_bind (Quiet.steady (quiet_tryCall quiet_request)) h hsound
  intro reconciliation _ _ h
  apply advances_bind (Quiet.steady quiet_requireKeepalive) h hsound
  intro _ _ _ h
  apply advances_bind (Quiet.steady (quiet_tryCall quiet_request)) h hsound
  intro _ _ _ h
  have hadvance : memory.phase.canAdvanceTo .stageDeleted = true := by
    rw [hphase]
    rfl
  exact advances_enter_before h hsound hadvance rfl (by rw [hphase]; rfl) (by decide)
    (by simp [rank, hphase])

theorem advances_intendSource (hphase : memory.phase = .stageDeleted) :
    Advances tools fits build memory.rank intendSource record view := by
  rw [Advances, intendSource, wp_bind]
  apply wp_mono (wp_acquireSnapshotSourceLease h) _ fun _ _ _ h' => h'.idle_self hsound
  intro scope _ _ ⟨h, hscope⟩
  have hstep := hsound.firstAttempt hphase hscope
  apply advances_change h hsound hstep (by simp [GithubGitSnapshotResumeV1.firstAttempt, armable])
  intro _ _ h
  apply advances_some h hstep.sound
  simp [rank, hphase, GithubGitSnapshotResumeV1.firstAttempt, armable]

end

/-- The snapshot is the one in memory. -/
theorem wp_currentSnapshot (h : Holds build memory accepted clockMs record view) :
    ProgM.wp (submissionContract tools build fits) currentSnapshot
      (fun snapshot record view => Holds build memory accepted clockMs record view ∧
        snapshot = memory) (fun _ => Holds build memory accepted clockMs) record view := by
  rw [currentSnapshot, wp_bind, wp_get, h.snapshot]
  exact ⟨h, rfl⟩

/-- The job fails while its snapshot is ahead of the accepted one. -/
theorem wp_failSnapshotBeforeDispatch (h : Holds build memory accepted clockMs record view)
    (hstep : Step tools build clockMs accepted memory) :
    ProgM.wp (submissionContract tools build fits) (failSnapshotBeforeDispatch config code message)
      (fun _ => Holds build memory memory clockMs) (fun _ => Holds build memory accepted clockMs)
      record view := by
  rw [failSnapshotBeforeDispatch, wp_bind, wp_get, wp_bind]
  have hquiet : Quiet tools fits (onlyIf (record.state = .created) do
      transitionRecord .failed
      let timestampMs ← request .nowMs
      appendFailed config timestampMs code message false) :=
    quiet_onlyIf (Quiet.bind quiet_transitionRecord fun _ => .bind quiet_request fun _ =>
      quiet_appendFailed)
  apply wp_mono (hquiet _ _ _ _ _ _ h) _ fun _ _ _ h' => h'
  intro _ _ _ h
  exact wp_checkpointRecord h hstep (fun _ h' => h') fun _ _ h' => h'

theorem advances_sourceConflict (h : Holds build memory memory clockMs record view)
    (hsound : memory.Sound tools build clockMs)
    (hstep : Step tools build clockMs memory { memory with phase := .sourceConflict }) :
    Advances tools fits build bound (sourceConflict config code message) record view := by
  have hoffered : ∀ s, view.offered = some s →
      s = { memory with phase := .sourceConflict } ∨ s = view.accepted := by
    intro s hs
    exact .inr ((h.offered s hs).elim (fun heq => heq.trans h.accepted.symm) id)
  rw [Advances, sourceConflict, wp_bind, modifySnapshot, wp_modify, wp_bind]
  have hchanged : Holds build { memory with phase := .sourceConflict } memory clockMs
      { record with
        gitSnapshot := record.gitSnapshot.map (fun snapshot =>
          { snapshot with phase := .sourceConflict }) } view :=
    ⟨by rw [h.snapshot]; rfl, h.request, h.accepted, hoffered, h.clock⟩
  apply wp_mono (wp_failSnapshotBeforeDispatch hchanged hstep)
  · intro _ _ _ h'
    refine (advances_bind (Quiet.steady quiet_releaseSnapshotSourceLease) h' hstep.sound ?_ :
      Advances tools fits build bound _ _ _)
    exact fun _ _ _ h'' => advances_none h'' hstep.sound
  · intro _ _ _ h'
    exact h'.idle hstep hsound fun hprepared => nomatch hprepared

/-- An armed attempt becomes exact or conflicts. -/
theorem Sound.enterOwned (hsound : memory.Sound tools build clockMs)
    (hphase : memory.phase = .sourcePublishIntent ∨ memory.phase = .sourceExact)
    (harmed : memory.sourcePublicationStartedAtMs ≠ 0)
    (hnext : phase = .sourceConflict ∨ phase = .sourceExact ∧ memory.phase = .sourcePublishIntent) :
    Step tools build clockMs memory { memory with phase } := by
  have hkind : memory.phase.canAdvanceTo phase = true ∧ phase ≠ .sourcePublishIntent ∧
      phase ≠ .sourceAbsent ∧ phase.beforeSource = memory.phase.beforeSource ∧
      phase.keepaliveRelease = memory.phase.keepaliveRelease := by
    obtain rfl | ⟨rfl, hintent⟩ := hnext
    · cases hphase with
      | inl hintent => simp only [hintent]; decide
      | inr hexact => simp only [hexact]; decide
    · simp only [hintent]
      decide
  obtain ⟨hadvance, hintent, habsent, hbefore, hrelease⟩ := hkind
  exact hsound.enter hadvance hintent habsent hbefore (fun _ => harmed) hrelease

/-! ### The source -/

theorem advances_finishSourcePublication {result : GitSnapshotSourcePublication}
    (h : Holds build memory memory clockMs record view) (hsound : memory.Sound tools build clockMs)
    (hphase : memory.phase = .sourcePublishIntent)
    (harmed : memory.sourcePublicationStartedAtMs ≠ 0)
    (hobs : memory.sourcePublicationAbsenceObservations = 0)
    (hmissing : result = .uncertain → view.sourceMissing = true) (hbound : 1 < bound) :
    Advances tools QuiescenceKept build bound (finishSourcePublication config result) record
      view := by
  cases result with
  | exact =>
    apply advances_enter h hsound (Sound.enterOwned hsound (.inl hphase) harmed
      (.inr ⟨rfl, hphase⟩)) (by decide)
    exact hbound
  | conflict =>
    exact advances_sourceConflict h hsound (Sound.enterOwned hsound (.inl hphase) harmed (.inl rfl))
  | uncertain =>
    apply advances_now h
    intro timeMs _ hclock hfits h'
    -- the deadline that the first absence gives is the one of the push
    rw [QuiescenceKept, h.accepted] at hfits
    have hdeadline := (hfits hphase).2 harmed (hmissing rfl) hobs
    have hstep := hsound.uncertainAt hphase harmed hclock hobs hdeadline
    apply advances_change h' (hsound.mono hclock)
    · exact ⟨hstep.sound, hstep.successor⟩
    · simp [GithubGitSnapshotResumeV1.uncertainAt, hphase]
    · intro _ _ h''
      exact advances_fail h'' hstep.sound

theorem observeAbsence_phase {timeMs : UInt64}
    (hproven : (memory.observeAbsence timeMs).absenceProven timeMs = true) :
    (memory.observeAbsence timeMs).phase = .sourceAbsent := by
  rw [GithubGitSnapshotResumeV1.observeAbsence] at hproven ⊢
  split
  · rfl
  · rename_i hnot
    rw [if_neg hnot] at hproven
    exact absurd hproven hnot

theorem observeAbsence_ne_prepared {timeMs : UInt64}
    (hphase : memory.phase = .sourcePublishIntent) :
    (memory.observeAbsence timeMs).phase ≠ .prepared := by
  rw [GithubGitSnapshotResumeV1.observeAbsence]
  split
  · simp
  · rw [show (memory.absentAt timeMs).phase = memory.phase from rfl, hphase]
    decide

theorem advances_finishSourceReconciliation {result : GitSnapshotRefReconciliation}
    (h : Holds build memory memory clockMs record view) (hsound : memory.Sound tools build clockMs)
    (hphase : memory.phase = .sourcePublishIntent)
    (harmed : memory.sourcePublicationStartedAtMs ≠ 0)
    (hmissing : result = .absent → view.sourceMissing = true) :
    Advances tools QuiescenceKept build memory.rank (finishSourceReconciliation config result)
      record view := by
  have hrank : memory.rank = 4 := by simp [rank, hphase, harmed]
  cases result with
  | exact =>
    apply advances_enter h hsound (Sound.enterOwned hsound (.inl hphase) harmed
      (.inr ⟨rfl, hphase⟩)) (by decide)
    rw [hrank]
    exact (by decide : 1 < 4)
  | conflict =>
    exact advances_sourceConflict h hsound (Sound.enterOwned hsound (.inl hphase) harmed (.inl rfl))
  | absent =>
    apply advances_now h
    intro timeMs _ hclock hfits h'
    have hdeadline : memory.sourcePublicationAbsenceObservations = 0 →
        publicationQuiescenceDeadline memory.sourcePublicationStartedAtMs timeMs =
          memory.sourcePublicationQuiescenceDeadlineMs := by
      intro hobs
      rw [QuiescenceKept, h.accepted] at hfits
      exact (hfits hphase).2 harmed (hmissing rfl) hobs
    have hstep := hsound.observeAbsence hphase harmed hclock hdeadline
    apply advances_change h' (hsound.mono hclock) hstep (observeAbsence_ne_prepared hphase)
    intro _ _ h''
    rw [Advances, wp_bind]
    apply wp_mono (wp_currentSnapshot h'') _ fun _ _ _ h' => h'.idle_self hstep.sound
    intro snapshot _ _ ⟨h'', heq⟩
    rw [heq, wp_bind, wp_ensure]
    refine ⟨fun hproven => ?_, fun _ => h''.idle_self hstep.sound⟩
    have hthird : (memory.observeAbsence timeMs).rank = 3 := by
      simp [rank, observeAbsence_phase hproven]
    exact advances_some h'' hstep.sound (by omega)

/-- A missing source is noted. -/
theorem Holds.sourceMissing (h : Holds build memory accepted clockMs record view) (missing : Bool) :
    Holds build memory accepted clockMs record { view with sourceMissing := missing } :=
  ⟨h.snapshot, h.request, h.accepted, h.offered, h.clock⟩

section

variable (h : Holds build memory memory clockMs record view)
  (hsound : memory.Sound tools build clockMs)

include h hsound

theorem advances_publishSource (hphase : memory.phase = .sourcePublishIntent)
    (hunarmed : memory.sourcePublicationStartedAtMs = 0) :
    Advances tools QuiescenceKept build memory.rank (publishSource config identity snapshot)
      record view := by
  have hrank : memory.rank = 2 := by simp [rank, hphase, hunarmed]
  apply advances_bind (Quiet.steady quiet_validateSnapshotSource) h hsound
  intro _ _ _ h
  apply advances_now h
  intro timeMs _ hclock hfits h'
  rw [QuiescenceKept, h.accepted] at hfits
  have htime : timeMs ≠ 0 := (hfits hphase).1 hunarmed
  have hstep := hsound.armed hphase hunarmed htime
  have hobs : (memory.armed timeMs).sourcePublicationAbsenceObservations = 0 :=
    hsound.unarmed hunarmed
  have hkept : (memory.armed timeMs).phase = .sourcePublishIntent := by
    simp [GithubGitSnapshotResumeV1.armed, hphase]
  apply advances_change h' (hsound.mono hclock) hstep
  · simp [hkept]
  intro record' view' h''
  rw [Advances, wp_bind, tryCall, wp_bind, request, wp_perform]
  intro answer _
  refine ⟨trivial, ?_⟩
  cases answer with
  | error e => exact (h''.sourceMissing _).idle_self hstep.sound
  | ok result =>
    apply advances_finishSourcePublication (h''.sourceMissing _) hstep.sound hkept htime hobs
    · rintro rfl
      rfl
    · omega

theorem advances_reconcileSource (hphase : memory.phase = .sourcePublishIntent)
    (harmed : memory.sourcePublicationStartedAtMs ≠ 0) :
    Advances tools QuiescenceKept build memory.rank (reconcileSource config identity snapshot)
      record view := by
  apply advances_bind (Quiet.steady quiet_validateSnapshotSource) h hsound
  intro _ _ _ h
  rw [Advances, wp_bind, tryCall, wp_bind, request, wp_perform]
  intro answer _
  refine ⟨trivial, ?_⟩
  cases answer with
  | error e => exact (h.sourceMissing _).idle_self hsound
  | ok result =>
    apply advances_finishSourceReconciliation (h.sourceMissing _) hsound hphase harmed
    rintro rfl
    rfl

theorem advances_retrySource (hphase : memory.phase = .sourceAbsent) :
    Advances tools fits build memory.rank (retrySource config memory) record view := by
  rw [retrySource]
  split
  · have hsteady : Steady tools fits (failSnapshotBeforeDispatch config
        "snapshot_source_publication_absent"
        "Git snapshot source publication remained absent after bounded retries") := by
      intro _ _ _ hsound' _ _ h'
      exact wp_failSnapshotBeforeDispatch h' hsound'.step_self
    apply advances_bind hsteady h hsound
    intro _ _ _ h
    exact advances_bind (Quiet.steady quiet_releaseSnapshotSourceLease) h hsound
      fun _ _ _ h' => advances_none h' hsound
  · rename_i hattempts
    apply advances_bind (Quiet.steady quiet_acquireSnapshotSourceLease) h hsound
    intro _ _ _ h
    have hstep := hsound.retry hphase hattempts
    apply advances_change h hsound hstep (by simp [armable])
    intro _ _ h'
    apply advances_some h' hstep.sound
    simp [rank, hphase, armable]

/-! ### The dispatch -/

theorem advances_publishDispatch :
    Advances tools fits build bound (publishDispatch config) record view := by
  rw [publishDispatch]
  split
  · exact advances_bind steady_publishGitSnapshotDispatchWorkflowDispatch h hsound
      fun _ _ _ h' => advances_none h' hsound
  · apply advances_bind (Steady.attempt steady_publishGitSnapshotDispatch) h hsound
    intro result _ _ h
    apply advances_bind (Quiet.steady quiet_get) h hsound
    intro found _ _ h
    apply advances_bind (steady_onlyIf (Quiet.steady quiet_releaseSnapshotSourceLease)) h hsound
    intro _ _ _ h
    exact advances_bind (Quiet.steady quiet_ofExcept) h hsound
      fun _ _ _ h' => advances_none h' hsound

theorem advances_continueExact (hphase : memory.phase = .sourceExact) :
    Advances tools fits build bound (continueExact config identity memory) record view := by
  have harmed : memory.sourcePublicationStartedAtMs ≠ 0 :=
    hsound.publication.owned (by rw [hphase]; rfl)
  apply advances_bind (Quiet.steady quiet_acquireSnapshotSourceLease) h hsound
  intro _ _ _ h
  apply advances_bind (Quiet.steady quiet_validateSnapshotSource) h hsound
  intro _ _ _ h
  apply advances_bind (Quiet.steady (quiet_tryCall quiet_request)) h hsound
  intro reconciliation _ _ h
  rw [finishExact]
  split
  · exact advances_publishDispatch h hsound
  · exact advances_sourceConflict h hsound (Sound.enterOwned hsound (.inr hphase) harmed (.inl rfl))

/-! ### Iterations -/

theorem advances_continuePhase :
    Advances tools QuiescenceKept build memory.rank (continuePhase config identity memory) record
      view := by
  rw [continuePhase]
  cases hphase : memory.phase with
  | prepared =>
    apply advances_bind (Quiet.steady quiet_validateSnapshotSource) h hsound
    intro _ _ _ h
    exact advances_enter_before h hsound (by rw [hphase]; rfl) rfl (by rw [hphase]; rfl)
      (by decide) (by simp [rank, hphase])
  | keepaliveIntent => exact advances_submitKeepalive h hsound hphase
  | keepaliveExact =>
    exact advances_enter_before h hsound (by rw [hphase]; rfl) rfl (by rw [hphase]; rfl)
      (by decide) (by simp [rank, hphase])
  | stageDeleteIntent => exact advances_deleteStage h hsound hphase
  | stageDeleted => exact advances_intendSource h hsound hphase
  | sourcePublishIntent =>
    apply advances_bind (Quiet.steady quiet_acquireSnapshotSourceLease) h hsound
    intro _ _ _ h
    split
    · rename_i hunarmed
      exact advances_publishSource h hsound hphase hunarmed
    · rename_i harmed
      exact advances_reconcileSource h hsound hphase harmed
  | sourceAbsent => exact advances_retrySource h hsound hphase
  | sourceConflict =>
    exact advances_bind (Quiet.steady quiet_releaseSnapshotSourceLease) h hsound
      fun _ _ _ h' => advances_none h' hsound
  | sourceExact => exact advances_continueExact h hsound hphase
  | sourceCleanupIntent | sourceDeleted | keepaliveReleaseIntent | keepaliveReleased =>
    exact advances_none h hsound

end

variable {acknowledged : Option GithubGitSnapshotPhaseV1}

/-- An iteration begins with the accepted snapshot in memory, or checkpoints what is there. -/
theorem advances_continueStep (h : Consistent tools build acknowledged memory record view) :
    Advances tools QuiescenceKept build memory.rank (continueStep config acknowledged) record
      view := by
  obtain ⟨hholds, hstep, hsound, hcurrent⟩ := h
  have hidle : ∀ {record view'}, Holds build memory view.accepted view.clockMs record view' →
      Idle tools build record view' :=
    fun h' => h'.idle hstep hsound fun hprepared => hcurrent (.inl hprepared)
  rw [Advances, continueStep, wp_bind]
  apply wp_mono (quiet_checkCancellation _ _ _ _ _ _ hholds) _ fun _ _ _ h' => hidle h'
  intro _ _ _ h'
  rw [wp_bind]
  apply wp_mono (quiet_workflowDispatchSnapshotIdentity _ _ _ _ _ _ h') _ fun _ _ _ h' => hidle h'
  intro identity _ _ h'
  rw [wp_bind]
  apply wp_mono (wp_currentSnapshot h') _ fun _ _ _ h' => hidle h'
  intro snapshot _ _ ⟨h', heq⟩
  rw [heq, wp_bind, onlyIf]
  split
  · -- the phase is acknowledged first
    apply wp_checkpointRecord h' hstep
    · intro view'' h''
      exact advances_continuePhase h'' hstep.sound
    · intro _ view'' h''
      exact hidle h''
  · rename_i hskip
    have hsame : memory = view.accepted := by
      apply hcurrent
      by_contra hnot
      rw [not_or] at hnot
      exact hskip hnot
    rw [← hsame] at h'
    exact advances_continuePhase h' hstep.sound

/-- The loop, by induction on its turns. -/
theorem wp_continueLoop (steps : Nat) (h : Consistent tools build acknowledged memory record view) :
    ProgM.wp (submissionContract tools build QuiescenceKept)
      (continueLoop config steps acknowledged)
      (fun returned record view => Idle tools build record view ∧
        (memory.rank < steps → returned = true))
      (fun _ => Idle tools build) record view := by
  induction steps generalizing acknowledged memory record view with
  | zero =>
    refine ⟨h.holds.idle h.step h.sound fun hprepared => h.current (.inl hprepared), ?_⟩
    intro hlt
    exact absurd hlt (Nat.not_lt_zero _)
  | succ steps ih =>
    rw [continueLoop, wp_bind]
    apply wp_mono (advances_continueStep h) _ fun _ _ _ h' => h'
    intro next record' view' hnext
    cases next with
    | none => exact ⟨hnext, fun _ => rfl⟩
    | some phase =>
      obtain ⟨memory', hconsistent, hrank⟩ := hnext
      apply wp_mono (ih hconsistent) _ fun _ _ _ h' => h'
      intro returned _ _ ⟨hidle, hreturned⟩
      exact ⟨hidle, fun hlt => hreturned (by omega)⟩

theorem rank_le (s : GithubGitSnapshotResumeV1) : s.rank ≤ 9 := by
  rw [GithubGitSnapshotResumeV1.rank]
  split <;> first | omega | (split <;> omega)

/-- A call keeps memory and sink consistent, and ten iterations are enough for it to return. -/
theorem wp_continueGitSnapshotSubmission (steps : Nat) (h : Idle tools build record view) :
    ProgM.wp (submissionContract tools build QuiescenceKept)
      (continueGitSnapshotSubmission config steps)
      (fun returned record view => Idle tools build record view ∧ (10 ≤ steps → returned = true))
      (fun _ => Idle tools build) record view := by
  obtain ⟨memory, hconsistent⟩ := h
  apply wp_mono (wp_continueLoop steps hconsistent) _ fun _ _ _ h' => h'
  intro returned _ _ ⟨hidle, hreturned⟩
  have hle := rank_le memory
  exact ⟨hidle, fun hsteps => hreturned (by omega)⟩

end Advances

end Quiet

/-! ## Runs -/

section Runs

variable {tools : ResumeTools} {build : IosDeviceBuildRequest}
  {fits : SubmissionView → UInt64 → Prop} {config : ProviderConfig} {record : JobRecord}
  {view : SubmissionView}

/-- The sink holds a sound snapshot, and one that it may hold as well follows it. -/
structure Durable (tools : ResumeTools) (build : IosDeviceBuildRequest) (view : SubmissionView) :
    Prop where
  accepted : view.accepted.Sound tools build view.clockMs
  offered : ∀ s, view.offered = some s → Step tools build view.clockMs view.accepted s

/-- Between calls what is stored is sound. -/
theorem Idle.durable (h : Idle tools build record view) : Durable tools build view := by
  obtain ⟨memory, hholds, hstep, hsound, -⟩ := h
  refine ⟨hsound, ?_⟩
  intro s hs
  cases hholds.offered s hs with
  | inl hmemory => exact hmemory ▸ hstep
  | inr haccepted => exact haccepted ▸ hsound.step_self

/-- What the sink holds stays sound with every event. -/
theorem Durable.next (h : Durable tools build view) {op : ProviderOp} {answer : ProviderResponse op}
    (hassume : (submissionContract tools build fits).assume view op answer)
    (hgood : (submissionContract tools build fits).guarantee view op answer) :
    Durable tools build (view.next op answer) := by
  cases op with
  | checkpoint record =>
    obtain ⟨-, next, hsnapshot, hstep⟩ := hgood
    cases answer with
    | ok _ =>
      refine ⟨?_, fun _ hnone => (nomatch hnone)⟩
      simp only [SubmissionView.next, hsnapshot, Option.getD_some]
      exact hstep.sound
    | error e =>
      refine ⟨h.accepted, fun s hs => ?_⟩
      simp only [SubmissionView.next, hsnapshot, Option.some.injEq] at hs
      exact hs ▸ hstep
  | call call =>
    cases call with
    | nowMs =>
      have hclock : view.clockMs ≤ answer := hassume.1
      exact ⟨h.accepted.mono hclock, fun s hs =>
        ⟨(h.offered s hs).sound.mono hclock, (h.offered s hs).successor⟩⟩
    | _ => exact ⟨h.accepted, h.offered⟩

variable {history : History ProviderOp ProviderResponse}

/-- It stays so along a run. -/
theorem Durable.along (h : Durable tools build view)
    (hassumed : (submissionContract tools build fits).Assumed view history)
    (hgood : (submissionContract tools build fits).Guaranteed view history) :
    Durable tools build ((submissionContract tools build fits).view view history) := by
  induction history with
  | nil => exact h
  | cons event history ih =>
    obtain ⟨hassume, hassumed⟩ := hassumed
    obtain ⟨hevent, hgood⟩ := hgood
    exact (ih hassumed hgood).next hassume hevent

/-- The snapshot that a new process starts from. -/
def SubmissionView.restored (view : SubmissionView) (s : GithubGitSnapshotResumeV1) :
    SubmissionView :=
  { view with accepted := s, offered := none }

/-- A new process finds the accepted snapshot, or one whose checkpoint had no answer. -/
theorem Durable.restart (h : Durable tools build view) {s : GithubGitSnapshotResumeV1}
    (hs : s = view.accepted ∨ view.offered = some s) (hsnapshot : record.gitSnapshot = some s)
    (hrequest : record.request = build) : Idle tools build record (view.restored s) := by
  have hsound : s.Sound tools build view.clockMs := by
    obtain rfl | hoffered := hs
    · exact h.accepted
    · exact (h.offered s hoffered).sound
  refine ⟨s, ⟨⟨hsnapshot, hrequest, rfl, fun _ hnone => (nomatch hnone), UInt64.le_refl _⟩,
    hsound.step_self, hsound, fun _ => rfl⟩⟩

/-- The states between the calls of a job whose first snapshot is `start`: a call returns, or the
    process stops within one and a new process restores what the sink holds. -/
inductive Submitted (config : ProviderConfig)
    (C : Contract ProviderOp ProviderResponse SubmissionView) (build : IosDeviceBuildRequest)
    (start : GithubGitSnapshotResumeV1) (clockMs : UInt64) : JobRecord → SubmissionView → Prop where
  | submit {record : JobRecord} (hsnapshot : record.gitSnapshot = some start)
      (hrequest : record.request = build) :
      Submitted config C build start clockMs record ⟨start, none, clockMs, false⟩
  | call {record record' : JobRecord} {view : SubmissionView} {steps : Nat}
      {history : History ProviderOp ProviderResponse} {result : ProviderResult Bool} :
      Submitted config C build start clockMs record view →
      Prog.Runs (continueGitSnapshotSubmission config steps record) history
        (.ret (result, record')) →
      C.Assumed view history → Submitted config C build start clockMs record' (C.view view history)
  | restart {record record' : JobRecord} {view : SubmissionView} {steps : Nat}
      {history : History ProviderOp ProviderResponse} {rest} {s : GithubGitSnapshotResumeV1} :
      Submitted config C build start clockMs record view →
      Prog.Runs (continueGitSnapshotSubmission config steps record) history rest →
      C.Assumed view history →
      s = (C.view view history).accepted ∨ (C.view view history).offered = some s →
      record'.gitSnapshot = some s → record'.request = build →
      Submitted config C build start clockMs record' ((C.view view history).restored s)

variable {start : GithubGitSnapshotResumeV1} {clockMs : UInt64}

/-- A snapshot as it is submitted: valid, and nothing of it has happened yet. -/
theorem sound_of_prepared (hvalid : start.validateForRequest tools build = .ok ())
    (hphase : start.phase = .prepared) : start.Sound tools build clockMs := by
  have hp := (validateForRequest_iff.mp hvalid).2
  obtain ⟨-, hstarted, -, -, hobs⟩ := hp.early (by rw [hphase]; rfl)
  refine ⟨hvalid, ?_, ?_, fun _ => hobs⟩
  · rw [hstarted]
    exact UInt64.zero_le
  · rw [hp.last.mp hobs]
    exact UInt64.zero_le

/-- A call that begins between two calls keeps the contract at each of its events, and what it
    leaves is fit for the next call and for a new process. -/
theorem Idle.run (h : Idle tools build record view) {steps : Nat} {rest}
    (hruns : Prog.Runs (continueGitSnapshotSubmission config steps record) history rest)
    (hassumed : (submissionContract tools build QuiescenceKept).Assumed view history) :
    (submissionContract tools build QuiescenceKept).Guaranteed view history ∧
      Durable tools build ((submissionContract tools build QuiescenceKept).view view history) ∧
      ∀ result record', rest = .ret (result, record') → Idle tools build record'
        ((submissionContract tools build QuiescenceKept).view view history) := by
  obtain ⟨hgood, hrest⟩ :=
    Prog.wp_of_runs (wp_continueGitSnapshotSubmission steps h) hruns hassumed
  refine ⟨hgood, h.durable.along hassumed hgood, ?_⟩
  rintro result record' rfl
  cases result with
  | ok returned => exact hrest.1
  | error e => exact hrest

/-- After each call, and each restart. -/
theorem Submitted.idle (hvalid : start.validateForRequest tools build = .ok ())
    (hphase : start.phase = .prepared)
    (h : Submitted config (submissionContract tools build QuiescenceKept) build start clockMs
      record view) : Idle tools build record view := by
  induction h with
  | submit hsnapshot hrequest =>
    have hsound : start.Sound tools build clockMs := sound_of_prepared hvalid hphase
    exact ⟨start, ⟨⟨hsnapshot, hrequest, rfl, fun _ hnone => (nomatch hnone), UInt64.le_refl _⟩,
      hsound.step_self, hsound, fun _ => rfl⟩⟩
  | call _ hruns hassumed ih => exact (ih.run hruns hassumed).2.2 _ _ rfl
  | restart _ hruns hassumed hs hsnapshot hrequest ih =>
    exact (ih.run hruns hassumed).2.1.restart hs hsnapshot hrequest

/-- Whenever a call of the submission hands a record to the sink, the sink's own rules accept its
    snapshot after the accepted one, and ten iterations are enough for a call to return. -/
theorem submission_checkpoints_accepted (tools : ResumeTools) (config : ProviderConfig)
    (build : IosDeviceBuildRequest) (start : GithubGitSnapshotResumeV1) (clockMs : UInt64)
    (hvalid : start.validateForRequest tools build = .ok ()) (hphase : start.phase = .prepared)
    (record : JobRecord) (view : SubmissionView)
    (hsubmitted : Submitted config (submissionContract tools build QuiescenceKept) build start
      clockMs record view) (steps : Nat) (history : History ProviderOp ProviderResponse)
    (rest : Prog ProviderOp ProviderResponse (ProviderResult Bool × JobRecord))
    (hruns : Prog.Runs (continueGitSnapshotSubmission config steps record) history rest)
    (hassumed : (submissionContract tools build QuiescenceKept).Assumed view history) :
    (∀ late early offered answer, history = late ++ ⟨.checkpoint offered, answer⟩ :: early →
      Checkpointable tools
        ((submissionContract tools build QuiescenceKept).view view early).accepted offered) ∧
      ∀ record', 10 ≤ steps → rest ≠ .ret (.ok false, record') := by
  have hidle := hsubmitted.idle hvalid hphase
  refine ⟨?_, ?_⟩
  · rintro late early offered answer rfl
    obtain ⟨hrequest, next, hsnapshot, hstep⟩ :=
      Contract.guarantee_of_append (hidle.run hruns hassumed).1
    exact ⟨next, hsnapshot, hrequest ▸ hstep.sound.valid, hstep.successor⟩
  · rintro record' hsteps rfl
    have hreturned :=
      (Prog.wp_of_runs (wp_continueGitSnapshotSubmission steps hidle) hruns hassumed).2
    exact absurd (hreturned.2 hsteps) Bool.false_ne_true

end Runs

end

/-! ## A sample -/

namespace Sample

/-- The tools of the sample request; a descriptor is encoded as a brace. -/
def tools : ResumeTools where
  request := Remote.Sample.tools
  parseUrl := fun _ => none
  encodedLength := fun _ => 0
  compileEvidenceBytes := fun _ => []
  descriptorBytes := fun _ => some [0x7b]
  dispatchRequest := fun _ _ => none

/-- An identity of a file on Unix. -/
def identity (digit : Char) : String :=
  "unix:" ++ String.ofList (List.replicate 16 digit) ++ ":" ++
    String.ofList (List.replicate 16 digit)

/-- The stage of the sample request. -/
def stage : GitSnapshotStageV1 where
  schemaVersion := 1
  operationId := "operation-1"
  isolationRootIdentity := "rustferry-directory-v1:" ++ identity '1'
  snapshotsStoreIdentity := "rustferry-directory-v1:" ++ identity '2'
  stageDirectoryIdentity := "rustferry-directory-v1:" ++ identity '3'
  sourceRepository := "https://github.com/example/app"
  sourceRef := "refs/rustferry/goal3/snapshots/operation-1"
  keepaliveRef := "refs/rustferry/goal3/keepalive/operation-1"
  sourceCreatedAtMs := 1
  consentSha256 := Remote.Sample.manifest.sha256
  requestTemplateSha256 := Remote.Sample.descriptor.requestTemplateSha256
  manifestSha256 := Remote.Sample.manifest.sha256
  archive := Remote.Sample.bundle.archive
  descriptorSha256 := Remote.Sample.descriptor.requestTemplateSha256
  finalRequest := Remote.Sample.request
  archiveFileIdentity := "rustferry-regular-file-v1:" ++ identity '4'
  descriptorFileIdentity := "rustferry-regular-file-v1:" ++ identity '5'
  graph := ⟨1, "", "", "", "", "", "0123456789abcdef0123456789abcdef01234567"⟩

/-- The snapshot as it is submitted. -/
def prepared : GithubGitSnapshotResumeV1 where
  schemaVersion := 1
  stageLocator := {
    schemaVersion := 1
    operationId := stage.operationId
    isolationRootIdentity := stage.isolationRootIdentity
    snapshotsStoreIdentity := stage.snapshotsStoreIdentity
    stageDirectoryIdentity := stage.stageDirectoryIdentity
    metadataFileIdentity := stage.archiveFileIdentity }
  stage
  phase := .prepared
  sourcePublicationAttempts := 0
  sourcePublicationStartedAtMs := 0
  sourcePublicationQuiescenceDeadlineMs := 0
  sourcePublicationProcessFenced := false
  sourcePublicationLeaseScopeSha256 := none
  sourcePublicationAbsenceObservations := 0
  sourcePublicationAbsenceFirstObservedAtMs := 0
  sourcePublicationAbsenceLastObservedAtMs := 0
  keepaliveReleaseAuthorizationSha256 := none

theorem toList_identity (digit : Char) :
    (identity digit).toList =
      "unix:".toList ++ List.replicate 16 digit ++ ':' :: List.replicate 16 digit := by
  simp [identity]

theorem validIdentityEncoding_identity (kind : String) {digit : Char}
    (hdigit : isLowerHex [digit] = true) :
    validIdentityEncoding (kind ++ identity digit) kind = true := by
  have hstrip : Text.stripFront kind.toList (kind.toList ++ (identity digit).toList) =
      some (identity digit).toList := by
    rw [Text.stripFront, if_pos (by simp), List.drop_left]
  have hpair : validPair (List.replicate 16 digit ++ ':' :: List.replicate 16 digit) 16 16 =
      true := by
    have hcolon : digit ≠ ':' := by
      rintro rfl
      exact absurd hdigit (by decide)
    simp [isLowerHex] at hdigit
    simp [validPair, List.replicate, List.span, List.span.loop, bne_iff_ne.mpr hcolon, isLowerHex,
      hdigit]
  rw [validIdentityEncoding, String.toList_append, hstrip, toList_identity]
  exact hpair

theorem identity_ne (kind : String) {a b : Char} (h : a ≠ b) :
    kind ++ identity a ≠ kind ++ identity b := by
  intro heq
  have hlist := congrArg String.toList heq
  rw [String.toList_append, String.toList_append, toList_identity, toList_identity] at hlist
  simp [List.replicate] at hlist
  exact h hlist

theorem parseDirectoryIdentity_identity {d : Char} (hdigit : isLowerHex [d] = true) :
    parseDirectoryIdentity ("rustferry-directory-v1:" ++ identity d) =
      some ("rustferry-directory-v1:" ++ identity d) := by
  rw [parseDirectoryIdentity, validIdentityEncoding_identity _ hdigit]
  rfl

theorem parseRegularFileIdentity_identity {digit : Char} (hdigit : isLowerHex [digit] = true) :
    parseRegularFileIdentity ("rustferry-regular-file-v1:" ++ identity digit) =
      some ("rustferry-regular-file-v1:" ++ identity digit) := by
  rw [parseRegularFileIdentity, validIdentityEncoding_identity _ hdigit]
  rfl

theorem validDistinct_stage : validDistinctDirectoryIdentities stage.isolationRootIdentity
    stage.snapshotsStoreIdentity stage.stageDirectoryIdentity = true := by
  simp [validDistinctDirectoryIdentities, stage, parseDirectoryIdentity_identity (d := '1') rfl,
    parseDirectoryIdentity_identity (d := '2') rfl,
    parseDirectoryIdentity_identity (d := '3') rfl,
    identity_ne _ (show '1' ≠ '2' by decide), identity_ne _ (show '1' ≠ '3' by decide),
    identity_ne _ (show '2' ≠ '3' by decide)]

/-! The snapshot of the sample is valid for its request. -/

theorem templateSha256_request :
    canonicalGitSnapshotRequestTemplateSha256 tools.request Remote.Sample.request =
      .ok Remote.Sample.descriptor.requestTemplateSha256 := by
  apply templateSha256_eq_ok.mpr
  refine ⟨rfl, ?_, Remote.Sample.sha256_toVec _⟩
  exact @RequestOk.withRevision Remote.Sample.tools Remote.Sample.request _ _
    (validate_eq_ok.mp Remote.Sample.validate_request) rfl (by decide)

theorem fromRequest_request :
    GitSnapshotDescriptor.fromRequest tools.request Remote.Sample.request Remote.Sample.bundle =
      .ok Remote.Sample.descriptor :=
  fromRequest_of_ok rfl rfl rfl Remote.Sample.gitSnapshotRef_operation templateSha256_request
    Remote.Sample.validate_descriptor

theorem descriptor_validateForRequest :
    Remote.Sample.descriptor.validateForRequest tools.request Remote.Sample.request
      gitSnapshotArchiveLimits = .ok () :=
  validateForRequest_eq_ok.mpr ⟨validate_eq_ok.mp Remote.Sample.validate_request,
    Remote.Sample.validate_descriptor, ⟨rfl, rfl, rfl, rfl⟩, templateSha256_request⟩

theorem stage_mismatch : stage.mismatch Remote.Sample.descriptor
    Remote.Sample.descriptor.snapshotRef stage.keepaliveRef = false := by
  have hconsent : isLowerSha256 stage.consentSha256 = true :=
    isLowerSha256_ofList rfl (by decide)
  have htemplate : isLowerSha256 stage.requestTemplateSha256 = true :=
    isLowerSha256_ofList rfl (by decide)
  have harchive : parseRegularFileIdentity stage.archiveFileIdentity =
      some stage.archiveFileIdentity := parseRegularFileIdentity_identity rfl
  have hdescriptor : parseRegularFileIdentity stage.descriptorFileIdentity =
      some stage.descriptorFileIdentity := parseRegularFileIdentity_identity rfl
  have hne : stage.archiveFileIdentity ≠ stage.descriptorFileIdentity :=
    identity_ne _ (by decide)
  have hmanifest : isLowerSha256 stage.manifestSha256 = true := hconsent
  have hsha : isLowerSha256 stage.descriptorSha256 = true := htemplate
  simp only [GitSnapshotStageV1.mismatch, validDistinct_stage, hconsent, htemplate, hmanifest,
    hsha, harchive, hdescriptor, beq_eq_false_iff_ne.mpr hne, Option.isNone_some, Bool.not_true,
    Bool.or_false, Bool.or_eq_false_iff, bne_eq_false_iff_eq]
  decide

theorem gitSnapshotRef_stage : gitSnapshotRef stage.operationId = .ok stage.sourceRef :=
  Remote.Sample.gitSnapshotRef_operation

theorem stage_validateForDescriptor (failure : ResumeError) :
    stage.validateForDescriptor tools Remote.Sample.descriptor failure = .ok () := by
  have hkeepalive : gitSnapshotKeepaliveRef stage.operationId = .ok stage.keepaliveRef := by
    rw [gitSnapshotKeepaliveRef, gitSnapshotRef_stage]
    rfl
  have hdigest : Remote.Sample.sha256 [0x7b] = stage.descriptorSha256 := by
    rw [Remote.Sample.sha256, if_neg (by decide)]
    rfl
  exact GitSnapshotStageV1.validateForDescriptor_of_ok gitSnapshotRef_stage hkeepalive
    stage_mismatch Remote.Sample.validate_descriptor rfl descriptor_validateForRequest rfl rfl rfl
    hdigest

theorem prepared_locator : prepared.stageLocator.validateForOperation
    Remote.Sample.request.operationId "resume_git_snapshot_locator_invalid" = .ok () := by
  have hmetadata : parseRegularFileIdentity stage.archiveFileIdentity =
      some stage.archiveFileIdentity := parseRegularFileIdentity_identity rfl
  rw [GitSnapshotStageLocatorV1.validateForOperation,
    show prepared.stageLocator.operationId = Remote.Sample.request.operationId from rfl,
    show Remote.Sample.request.operationId = stage.operationId from rfl, gitSnapshotRef_stage,
    show prepared.stageLocator.isolationRootIdentity = stage.isolationRootIdentity from rfl,
    show prepared.stageLocator.snapshotsStoreIdentity = stage.snapshotsStoreIdentity from rfl,
    show prepared.stageLocator.stageDirectoryIdentity = stage.stageDirectoryIdentity from rfl,
    show prepared.stageLocator.metadataFileIdentity = stage.archiveFileIdentity from rfl,
    validDistinct_stage, hmetadata, bne_self_eq_false]
  rfl

theorem prepared_publication : prepared.PublicationOk where
  attempts := by decide
  observations := by decide
  first := by decide
  last := by decide
  ordered := by decide
  fenced := rfl
  scope := fun _ hnone => (nomatch hnone)
  authorization := fun _ hnone => (nomatch hnone)
  early := by decide
  begun := by decide
  boundary := by decide
  owned := by decide
  absent := fun h => (nomatch h)
  released := rfl

theorem validate_prepared :
    prepared.validateForRequest tools Remote.Sample.request = .ok () := by
  have hsame : (Remote.Sample.request != stage.finalRequest ||
      Remote.Sample.request.sourceRevision != some stage.graph.commit) = false := by
    rw [show stage.finalRequest = Remote.Sample.request from rfl, bne_self_eq_false,
      show Remote.Sample.request.sourceRevision = some stage.graph.commit from rfl,
      bne_self_eq_false]
    rfl
  have hdescriptor : GitSnapshotDescriptor.fromRequest tools.request Remote.Sample.request
      ⟨Source.sourceBundleDescriptorSchemaVersion, prepared.stage.archive,
        Remote.Sample.request.source⟩ = .ok Remote.Sample.descriptor := fromRequest_request
  have hstage : stage.validateForRequest tools Remote.Sample.descriptor Remote.Sample.request
      (resumeFailure "resume_git_snapshot_stage_invalid") = .ok () := by
    rw [GitSnapshotStageV1.validateForRequest, stage_validateForDescriptor,
      descriptor_validateForRequest, hsame]
    rfl
  exact validateForRequest_iff.mpr
    ⟨⟨rfl, prepared_locator, ⟨_, hdescriptor, hstage⟩, rfl, rfl, rfl, rfl⟩, prepared_publication⟩

/-- The job of the sample before its first call. -/
def submitted : JobRecord where
  principal := none
  executionRepositoryId := none
  operationId := "operation-1"
  jobId := "operation-1"
  sourceRevision := stage.graph.commit
  gitSnapshot := some prepared
  request := Remote.Sample.request
  requestSha256 := Remote.Sample.manifest.sha256
  temporaryRef := "rustferry/goal3/operation-1"
  preparedDispatchCommit := none
  dispatchCommit := none
  workflowDispatch := none
  createdAtMs := 1
  publicationStartedAtMs := 0
  publicationQuiescenceDeadlineMs := u64Max
  state := .created
  run := none
  publicationIntent := false
  publicationAbsent := false
  publicationNotAttempted := false
  publicationProcessFenced := false
  publicationLeaseScopeSha256 := none
  publicationTakeoverLeaseOwned := false
  snapshotSourceLeaseOwned := false
  publicationAbsenceObservations := 0
  publicationAbsenceFirstObservedAtMs := 0
  cancellationRequested := false
  cancellationDispatched := false
  cleanupRequested := false
  removeArtifactsRequested := false
  artifactsRemoved := false
  temporaryRefDeleted := false
  verificationPendingEvent := false
  publicationUncertain := false
  runDiscoveryAttempts := 0
  runDiscoveryDeadlineMs := 0
  manifests := []
  compileEvidence := none
  signedCleanupEvidence := none
  events := []

/-- A provider that may do everything. -/
def config : ProviderConfig where
  parseUrl := fun _ => none
  sourceRepository := "https://github.com/example/app"
  runTrigger := .push
  mutationAuthorization := ⟨true, true, true, true⟩
  sourceRepositoryValid := true
  dispatchManifest := fun _ => .ok []

/-- The push was asked for. -/
def pushed (history : History ProviderOp ProviderResponse) : Bool :=
  history.any fun event =>
    match event.op with
    | .call (.publishGitSnapshotSource _ _ _) => true
    | _ => false

/-- Everything goes well until the outcome of the push is uncertain; the clock reads 1000 until
    then, and `laterMs` afterwards. -/
def answers (laterMs : UInt64) (history : History ProviderOp ProviderResponse) :
    (op : ProviderOp) → ProviderResponse op
  | .checkpoint _ => .ok ()
  | .call .isCancelled => false
  | .call .nowMs => if pushed history then laterMs else 1000
  | .call .currentResumeIdentity => .ok (.user 7 "octocat", 42)
  | .call .sourceRepository => .ok ⟨false, false, false⟩
  | .call .verifyExecutionWorkflow => .ok ()
  | .call (.reconcileGitSnapshotKeepalive _ _ _) => .ok .exact
  | .call (.importGitSnapshot _ stage) => .ok stage.graph
  | .call (.createGitSnapshotKeepalive _ _ _) => .ok ()
  | .call (.deleteGitSnapshotStage _ _) => .ok ()
  | .call .publicationLeaseScopeSha256 => some Remote.Sample.manifest.sha256
  | .call .publicationAttemptIsProcessFenced => true
  | .call (.acquireGitSnapshotSourceLease _) => .ok .acquired
  | .call (.releaseGitSnapshotSourceLease _) => ()
  | .call (.publishGitSnapshotSource _ _ _) => .ok .uncertain
  | .call (.reconcileGitSnapshotSource _ _) => .ok .exact
  | .call (.prepare _ _ _ _) => .ok none
  | .call (.acquirePublicationLease _ _) => .ok .acquired
  | .call (.releasePublicationLease _ _) => ()
  | .call (.publishPrepared _ _ _ _) => .notAttempted .cancelled

/-- The first call of the sample until it has recorded that the push is uncertain. -/
def uncertainRun (laterMs : UInt64) :
    History ProviderOp ProviderResponse ×
      Prog ProviderOp ProviderResponse (ProviderResult Bool × JobRecord) :=
  Prog.drive (answers laterMs) 29 (continueGitSnapshotSubmission config 10 submitted) []

theorem runs_uncertainRun (laterMs : UInt64) :
    Prog.Runs (continueGitSnapshotSubmission config 10 submitted) (uncertainRun laterMs).1
      (uncertainRun laterMs).2 :=
  Prog.runs_drive 29 .start

/-- The last event hands over a snapshot that may not follow the one accepted before. -/
def refusedLast (tools : ResumeTools) (build : IosDeviceBuildRequest) (view : SubmissionView) :
    History ProviderOp ProviderResponse → Bool
  | ⟨.checkpoint offered, _⟩ :: early =>
    offered.gitSnapshot.all fun next =>
      ((submissionContract tools build fun _ _ => True).view view
        early).accepted.validateSuccessor next ≠ .ok ()
  | _ => false

/-- Both runs keep the contract, and the second one ends with a refused record. -/
theorem uncertainRuns_evaluate :
    (submissionContract tools Remote.Sample.request QuiescenceKept).Assumed
        ⟨prepared, none, 0, false⟩ (uncertainRun 1000).1 ∧
      (submissionContract tools Remote.Sample.request fun _ _ => True).Assumed
        ⟨prepared, none, 0, false⟩ (uncertainRun 2000).1 ∧
      refusedLast tools Remote.Sample.request ⟨prepared, none, 0, false⟩
        (uncertainRun 2000).1 = true := by
  decide +kernel

theorem assumed_uncertainRun :
    (submissionContract tools Remote.Sample.request QuiescenceKept).Assumed
      ⟨prepared, none, 0, false⟩ (uncertainRun 1000).1 :=
  uncertainRuns_evaluate.1

/-- With the clock at rest the first call keeps the contract until the push is uncertain. -/
theorem submission_checkpoints_accepted_at_rest :
    (∀ late early offered answer,
      (uncertainRun 1000).1 = late ++ ⟨.checkpoint offered, answer⟩ :: early →
      Checkpointable tools ((submissionContract tools Remote.Sample.request QuiescenceKept).view
        ⟨prepared, none, 0, false⟩ early).accepted offered) ∧
      ∀ record', 10 ≤ 10 → (uncertainRun 1000).2 ≠ .ret (.ok false, record') :=
  submission_checkpoints_accepted tools config Remote.Sample.request prepared 0 validate_prepared
    rfl submitted ⟨prepared, none, 0, false⟩ (.submit rfl rfl) 10 (uncertainRun 1000).1
    (uncertainRun 1000).2 (runs_uncertainRun 1000) assumed_uncertainRun

theorem exists_of_refusedLast {tools : ResumeTools} {build : IosDeviceBuildRequest}
    {view : SubmissionView} {history : History ProviderOp ProviderResponse}
    (h : refusedLast tools build view history = true) :
    ∃ early offered answer, history = ⟨.checkpoint offered, answer⟩ :: early ∧
      ¬Checkpointable tools ((submissionContract tools build fun _ _ => True).view view
        early).accepted offered := by
  cases history with
  | nil => exact absurd h Bool.false_ne_true
  | cons event early =>
    obtain ⟨op, answer⟩ := event
    cases op with
    | call call => exact absurd h Bool.false_ne_true
    | checkpoint offered =>
      refine ⟨early, offered, answer, rfl, ?_⟩
      intro hparts
      obtain ⟨next, hnext, _, hsuccessor⟩ := hparts
      rw [refusedLast, hnext, Option.all_some, decide_eq_true_eq] at h
      exact h hsuccessor

/-- With a clock that goes on, the first observation of the absence moves the deadline of the
    armed push, and the record of it is refused. -/
theorem uncertain_push_refused :
    ¬∀ (tools : ResumeTools) (config : ProviderConfig) (build : IosDeviceBuildRequest)
      (start : GithubGitSnapshotResumeV1) (clockMs : UInt64),
      start.validateForRequest tools build = .ok () → start.phase = .prepared →
      ∀ record view, Submitted config (submissionContract tools build fun _ _ => True) build start
        clockMs record view →
      ∀ steps history rest, Prog.Runs (continueGitSnapshotSubmission config steps record) history
        rest → (submissionContract tools build fun _ _ => True).Assumed view history →
      ∀ late early offered answer, history = late ++ ⟨.checkpoint offered, answer⟩ :: early →
        Checkpointable tools ((submissionContract tools build fun _ _ => True).view view
          early).accepted offered := by
  intro hclaim
  have hrefused : refusedLast tools Remote.Sample.request ⟨prepared, none, 0, false⟩
      (uncertainRun 2000).1 = true := uncertainRuns_evaluate.2.2
  obtain ⟨early, offered, answer, hhistory, hnot⟩ := exists_of_refusedLast hrefused
  apply hnot
  exact hclaim tools config Remote.Sample.request prepared 0 validate_prepared rfl submitted _
    (.submit rfl rfl) 10 _ _ (runs_uncertainRun 2000) uncertainRuns_evaluate.2.1 [] early offered answer
    hhistory

end Sample

end RustFerry.Github
