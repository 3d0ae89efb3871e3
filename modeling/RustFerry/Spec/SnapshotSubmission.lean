import RustFerry.Native.SnapshotSubmission
import RustFerry.Spec.ResumeRules

/-!
# The checkpoints of a snapshot submission

What the two checks of a snapshot say of the values that a submission hands to its sink.
-/

namespace RustFerry.Github

open Remote Except Source

variable {a b : GithubGitSnapshotResumeV1}

/-! ## The checks of one snapshot -/

variable {tools : ResumeTools}

/-- A stage is valid for a descriptor when each of its parts is. -/
theorem GitSnapshotStageV1.validateForDescriptor_of_ok
    {stage : GitSnapshotStageV1} {descriptor : GitSnapshotDescriptor} {failure : ResumeError}
    {sourceRef keepaliveRef : String} {bytes : List UInt8}
    (hsource : gitSnapshotRef stage.operationId = .ok sourceRef)
    (hkeepalive : gitSnapshotKeepaliveRef stage.operationId = .ok keepaliveRef)
    (hmismatch : stage.mismatch descriptor sourceRef keepaliveRef = false)
    (hdescriptor : descriptor.validate tools.request gitSnapshotArchiveLimits = .ok ())
    (hgraph : stage.graph.schemaVersion = 1)
    (hfinal : descriptor.validateForRequest tools.request stage.finalRequest
      gitSnapshotArchiveLimits = .ok ())
    (hoperation : stage.finalRequest.operationId = stage.operationId)
    (hrevision : stage.finalRequest.sourceRevision = some stage.graph.commit)
    (hbytes : tools.descriptorBytes descriptor = some bytes)
    (hdigest : tools.request.inspection.sha256 bytes = stage.descriptorSha256) :
    stage.validateForDescriptor tools descriptor failure = .ok () := by
  rw [validateForDescriptor, hsource, hkeepalive, hbytes]
  show (rejectIf _ _ >>= fun _ => _) = _
  simp only [check_bind_eq_ok, rejectIf_eq_ok, mapError_eq_ok, hmismatch, hdescriptor, hgraph,
    hfinal, hoperation, hrevision, hdigest, bne_self_eq_false, Bool.or_false, and_self]

namespace GithubGitSnapshotResumeV1

/-- What the checks ask of the source publication. -/
structure PublicationOk (s : GithubGitSnapshotResumeV1) : Prop where
  attempts : s.sourcePublicationAttempts ≤ 3
  observations : s.sourcePublicationAbsenceObservations ≤ 2
  first : s.sourcePublicationAbsenceObservations = 0 ↔
    s.sourcePublicationAbsenceFirstObservedAtMs = 0
  last : s.sourcePublicationAbsenceObservations = 0 ↔
    s.sourcePublicationAbsenceLastObservedAtMs = 0
  ordered : s.sourcePublicationAbsenceFirstObservedAtMs ≤
    s.sourcePublicationAbsenceLastObservedAtMs
  fenced : s.sourcePublicationProcessFenced = s.sourcePublicationLeaseScopeSha256.isSome
  scope : ∀ scope, s.sourcePublicationLeaseScopeSha256 = some scope → isLowerSha256 scope = true
  authorization : ∀ digest, s.keepaliveReleaseAuthorizationSha256 = some digest →
    isLowerSha256 digest = true
  early : s.phase.beforeSource = true → s.sourcePublicationAttempts = 0 ∧
    s.sourcePublicationStartedAtMs = 0 ∧ s.sourcePublicationQuiescenceDeadlineMs = 0 ∧
    s.sourcePublicationProcessFenced = false ∧ s.sourcePublicationAbsenceObservations = 0
  begun : s.phase.beforeSource = false → s.sourcePublicationAttempts ≠ 0 ∧
    s.sourcePublicationProcessFenced = true ∧
    (s.sourcePublicationStartedAtMs = 0 → s.sourcePublicationQuiescenceDeadlineMs = u64Max)
  boundary : s.sourcePublicationStartedAtMs ≠ 0 →
    s.sourcePublicationStartedAtMs ≤ s.sourcePublicationQuiescenceDeadlineMs
  owned : s.phase.ownsSource = true → s.sourcePublicationStartedAtMs ≠ 0
  absent : s.phase = .sourceAbsent → 2 ≤ s.sourcePublicationAbsenceObservations ∧
    s.sourcePublicationStartedAtMs ≠ 0 ∧
    s.sourcePublicationQuiescenceDeadlineMs ≤ s.sourcePublicationAbsenceLastObservedAtMs
  released : s.phase.keepaliveRelease = s.keepaliveReleaseAuthorizationSha256.isSome

/-- What the checks ask of the stage. -/
structure StageOk (tools : ResumeTools) (request : IosDeviceBuildRequest)
    (s : GithubGitSnapshotResumeV1) : Prop where
  mode : (s.schemaVersion != 1 || request.sourceMode != .gitSnapshot ||
    request.signing.mode != .unsignedCompileOnly) = false
  locator : s.stageLocator.validateForOperation request.operationId
    "resume_git_snapshot_locator_invalid" = .ok ()
  stage : ∃ descriptor, GitSnapshotDescriptor.fromRequest tools.request request
      ⟨sourceBundleDescriptorSchemaVersion, s.stage.archive, request.source⟩ = .ok descriptor ∧
    s.stage.validateForRequest tools descriptor request
      (resumeFailure "resume_git_snapshot_stage_invalid") = .ok ()
  binding : s.stageLocator.operationId = s.stage.operationId ∧
    s.stageLocator.isolationRootIdentity = s.stage.isolationRootIdentity ∧
    s.stageLocator.snapshotsStoreIdentity = s.stage.snapshotsStoreIdentity ∧
    s.stageLocator.stageDirectoryIdentity = s.stage.stageDirectoryIdentity

private theorem beq_eq_beq_zero {k : UInt8} {n : UInt64} :
    (k == 0) = (n == 0) ↔ (k = 0 ↔ n = 0) := by
  rw [Bool.eq_iff_iff, beq_iff_eq, beq_iff_eq]

variable {s : GithubGitSnapshotResumeV1}

/-- The locator, bound to its stage. -/
theorem bindingInvalid_eq_false :
    s.bindingInvalid = false ↔
      (s.stageLocator.operationId = s.stage.operationId ∧
        s.stageLocator.isolationRootIdentity = s.stage.isolationRootIdentity ∧
        s.stageLocator.snapshotsStoreIdentity = s.stage.snapshotsStoreIdentity ∧
        s.stageLocator.stageDirectoryIdentity = s.stage.stageDirectoryIdentity) ∧
      s.sourcePublicationAttempts ≤ 3 ∧ s.sourcePublicationAbsenceObservations ≤ 2 ∧
      (s.sourcePublicationAbsenceObservations = 0 ↔
        s.sourcePublicationAbsenceFirstObservedAtMs = 0) ∧
      (s.sourcePublicationAbsenceObservations = 0 ↔
        s.sourcePublicationAbsenceLastObservedAtMs = 0) ∧
      s.sourcePublicationAbsenceFirstObservedAtMs ≤ s.sourcePublicationAbsenceLastObservedAtMs ∧
      s.sourcePublicationProcessFenced = s.sourcePublicationLeaseScopeSha256.isSome ∧
      (∀ scope, s.sourcePublicationLeaseScopeSha256 = some scope → isLowerSha256 scope = true) ∧
      ∀ digest, s.keepaliveReleaseAuthorizationSha256 = some digest →
        isLowerSha256 digest = true := by
  simp only [bindingInvalid, Bool.or_eq_false_iff, bne_eq_false_iff_eq, beq_eq_beq_zero,
    decide_eq_false_iff_not, UInt8.not_lt, UInt64.not_lt, Option.any_eq_false,
    Bool.not_eq_false', and_assoc, gt_iff_lt]

/-- What a phase asks of the other fields. -/
theorem validatePhase_eq_ok :
    s.validatePhase = .ok () ↔
      (s.phase.beforeSource = true → s.sourcePublicationAttempts = 0 ∧
        s.sourcePublicationStartedAtMs = 0 ∧ s.sourcePublicationQuiescenceDeadlineMs = 0 ∧
        s.sourcePublicationProcessFenced = false ∧ s.sourcePublicationAbsenceObservations = 0) ∧
      (s.phase.beforeSource = false → s.sourcePublicationAttempts ≠ 0 ∧
        s.sourcePublicationProcessFenced = true ∧
        (s.sourcePublicationStartedAtMs = 0 →
          s.sourcePublicationQuiescenceDeadlineMs = u64Max)) ∧
      (s.sourcePublicationStartedAtMs ≠ 0 →
        s.sourcePublicationStartedAtMs ≤ s.sourcePublicationQuiescenceDeadlineMs) ∧
      (s.phase.ownsSource = true → s.sourcePublicationStartedAtMs ≠ 0) ∧
      (s.phase = .sourceAbsent → 2 ≤ s.sourcePublicationAbsenceObservations ∧
        s.sourcePublicationStartedAtMs ≠ 0 ∧
        s.sourcePublicationQuiescenceDeadlineMs ≤ s.sourcePublicationAbsenceLastObservedAtMs) ∧
      s.phase.keepaliveRelease = s.keepaliveReleaseAuthorizationSha256.isSome := by
  have habsent : s.phase = .sourceAbsent → s.phase.beforeSource = false := by
    intro h
    rw [h]
    rfl
  simp only [validatePhase, check_bind_eq_ok, rejectIf_eq_ok, Bool.and_eq_false_imp,
    Bool.or_eq_false_iff, bne_eq_false_iff_eq, beq_eq_false_iff_ne, bne_iff_ne,
    decide_eq_true_eq, decide_eq_false_iff_not, UInt8.not_lt, UInt64.not_lt, Bool.not_eq_false',
    Bool.not_eq_true']
  cases hb : s.phase.beforeSource <;> grind

variable {request : IosDeviceBuildRequest}

/-- Both parts of the check. -/
theorem validateForRequest_iff :
    s.validateForRequest tools request = .ok () ↔ s.StageOk tools request ∧ s.PublicationOk := by
  rw [validateForRequest, check_bind_eq_ok, check_bind_eq_ok, bind_eq_ok]
  simp only [check_bind_eq_ok, mapError_eq_ok, rejectIf_eq_ok, bindingInvalid_eq_false,
    validatePhase_eq_ok]
  constructor
  · intro hparts
    obtain ⟨hmode, hlocator, descriptor, hdescriptor, hstage, hrest⟩ := hparts
    obtain ⟨⟨hbinding, h1, h2, h3, h4, h5, h6, h7, h8⟩, h9, h10, h11, h12, h13, h14⟩ := hrest
    exact ⟨⟨hmode, hlocator, ⟨descriptor, hdescriptor, hstage⟩, hbinding⟩,
      ⟨h1, h2, h3, h4, h5, h6, h7, h8, h9, h10, h11, h12, h13, h14⟩⟩
  · intro hparts
    obtain ⟨hstage, hpublication⟩ := hparts
    obtain ⟨hmode, hlocator, ⟨descriptor, hdescriptor, hvalid⟩, hbinding⟩ := hstage
    obtain ⟨h1, h2, h3, h4, h5, h6, h7, h8, h9, h10, h11, h12, h13, h14⟩ := hpublication
    exact ⟨hmode, hlocator, descriptor, hdescriptor, hvalid,
      ⟨hbinding, h1, h2, h3, h4, h5, h6, h7, h8⟩, h9, h10, h11, h12, h13, h14⟩

/-! ## Successors -/

/-- What a submission never changes. -/
structure SameStage (a b : GithubGitSnapshotResumeV1) : Prop where
  schemaVersion : b.schemaVersion = a.schemaVersion
  stageLocator : b.stageLocator = a.stageLocator
  stage : b.stage = a.stage
  authorization :
    b.keepaliveReleaseAuthorizationSha256 = a.keepaliveReleaseAuthorizationSha256

/-- The first part is about the stage. -/
theorem StageOk.of_same (h : a.StageOk tools request) (same : SameStage a b) :
    b.StageOk tools request := by
  obtain ⟨hmode, hlocator, hstage, hbinding⟩ := h
  rw [← same.schemaVersion] at hmode
  rw [← same.stageLocator] at hlocator hbinding
  rw [← same.stage] at hstage hbinding
  exact ⟨hmode, hlocator, hstage, hbinding⟩

/-- The checks of a successor on the same stage. -/
theorem validateSuccessor_of_same (same : SameStage a b)
    (hfenced : a.sourcePublicationProcessFenced = true → b.sourcePublicationProcessFenced = true)
    (hscope : optionCanBindOnce a.sourcePublicationLeaseScopeSha256
      b.sourcePublicationLeaseScopeSha256 = true)
    (hphase : a.phase.canAdvanceTo b.phase = true)
    (hattempts : a.expectedAttempts b = some b.sourcePublicationAttempts)
    (hpublication : a.validatePublicationSuccessor b = .ok ()) :
    a.validateSuccessor b = .ok () := by
  have hbound :
      (a.sourcePublicationProcessFenced && !b.sourcePublicationProcessFenced) = false := by
    rw [Bool.and_eq_false_imp, Bool.not_eq_false']
    exact hfenced
  simp [validateSuccessor, check_bind_eq_ok, same.schemaVersion, same.stageLocator, same.stage,
    same.authorization, hbound, hscope, hphase, hattempts, hpublication]

/-- Without a new attempt the attempts stay the same. -/
theorem expectedAttempts_of_same
    (hattempts : b.sourcePublicationAttempts = a.sourcePublicationAttempts)
    (hnew : ¬((a.phase = .sourceAbsent ∨ a.phase = .stageDeleted) ∧ b.phase =
      .sourcePublishIntent)) :
    a.expectedAttempts b = some b.sourcePublicationAttempts := by
  rw [expectedAttempts, if_neg hnew, hattempts]

/-- A valid snapshot whose times are past, and whose observations belong to an armed attempt. -/
structure Sound (tools : ResumeTools) (request : IosDeviceBuildRequest) (clockMs : UInt64)
    (s : GithubGitSnapshotResumeV1) : Prop where
  valid : s.validateForRequest tools request = .ok ()
  started : s.sourcePublicationStartedAtMs ≤ clockMs
  observed : s.sourcePublicationAbsenceLastObservedAtMs ≤ clockMs
  unarmed : s.sourcePublicationStartedAtMs = 0 → s.sourcePublicationAbsenceObservations = 0

variable {tools : ResumeTools} {request : IosDeviceBuildRequest} {clockMs timeMs : UInt64}
  {s : GithubGitSnapshotResumeV1}

theorem Sound.mono (h : s.Sound tools request clockMs) (hle : clockMs ≤ timeMs) :
    s.Sound tools request timeMs :=
  ⟨h.valid, UInt64.le_trans h.started hle, UInt64.le_trans h.observed hle, h.unarmed⟩

/-- The second part of the check. -/
theorem Sound.publication (h : s.Sound tools request clockMs) : s.PublicationOk :=
  (validateForRequest_iff.mp h.valid).2

/-- A sound value that may follow the previous one. -/
structure Step (tools : ResumeTools) (request : IosDeviceBuildRequest) (clockMs : UInt64)
    (previous next : GithubGitSnapshotResumeV1) : Prop where
  sound : next.Sound tools request clockMs
  successor : previous.validateSuccessor next = .ok ()

/-- A checkpoint may be stored again. -/
theorem Sound.step_self (h : s.Sound tools request clockMs) : Step tools request clockMs s s :=
  ⟨h, JobStore.snapshot_validateSuccessor_self s⟩

variable {phase : GithubGitSnapshotPhaseV1}

/-- A phase that touches nothing of the source publication. -/
theorem Sound.enter (h : s.Sound tools request clockMs)
    (hadvance : s.phase.canAdvanceTo phase = true) (hintent : phase ≠ .sourcePublishIntent)
    (habsent : phase ≠ .sourceAbsent) (hbefore : phase.beforeSource = s.phase.beforeSource)
    (howns : phase.ownsSource = true → s.sourcePublicationStartedAtMs ≠ 0)
    (hrelease : phase.keepaliveRelease = s.phase.keepaliveRelease) :
    Step tools request clockMs s { s with phase } := by
  have same : SameStage s { s with phase } := ⟨rfl, rfl, rfl, rfl⟩
  have hp := h.publication
  refine ⟨⟨validateForRequest_iff.mpr ⟨(validateForRequest_iff.mp h.valid).1.of_same same, ?_⟩,
    h.started, h.observed, h.unarmed⟩, ?_⟩
  · exact { hp with
      early := fun hb => hp.early (hbefore ▸ hb)
      begun := fun hb => hp.begun (hbefore ▸ hb)
      owned := howns
      absent := fun ha => absurd ha habsent
      released := hrelease.trans hp.released }
  · apply validateSuccessor_of_same same id (JobStore.optionCanBindOnce_self _) hadvance
    · exact expectedAttempts_of_same rfl fun hnew => hintent hnew.2
    · rw [validatePublicationSuccessor, if_neg fun hnew => hintent hnew.2]
      simp [check_bind_eq_ok]

/-- The first attempt binds the scope of the publisher's lease. -/
theorem Sound.firstAttempt (h : s.Sound tools request clockMs) (hphase : s.phase = .stageDeleted)
    {scope : String} (hscope : isLowerSha256 scope = true) :
    Step tools request clockMs s (s.firstAttempt scope) := by
  have same : SameStage s (s.firstAttempt scope) := ⟨rfl, rfl, rfl, rfl⟩
  have hp := h.publication
  obtain ⟨hattempts, hstarted, -, hfenced, hobs⟩ := hp.early (by rw [hphase]; rfl)
  have hnone : s.sourcePublicationLeaseScopeSha256 = none := by
    have hsome := hp.fenced
    rw [hfenced] at hsome
    exact Option.not_isSome_iff_eq_none.mp (by rw [← hsome]; decide)
  have hrelease : s.keepaliveReleaseAuthorizationSha256.isSome = false := by
    rw [← hp.released, hphase]
    rfl
  have hok : (s.firstAttempt scope).PublicationOk := {
    attempts := by simp [GithubGitSnapshotResumeV1.firstAttempt, armable]
    observations := by simp [GithubGitSnapshotResumeV1.firstAttempt, armable]
    first := by simp [GithubGitSnapshotResumeV1.firstAttempt, armable]
    last := by simp [GithubGitSnapshotResumeV1.firstAttempt, armable]
    ordered := UInt64.le_refl _
    fenced := rfl
    scope := fun _ hsome => Option.some.inj hsome ▸ hscope
    authorization := hp.authorization
    early := fun hb => nomatch hb
    begun := fun _ => ⟨(by decide : (1 : UInt8) ≠ 0), rfl, fun _ => rfl⟩
    boundary := fun hne => absurd rfl hne
    owned := fun ho => nomatch ho
    absent := fun ha => nomatch ha
    released := hrelease.symm }
  refine ⟨⟨validateForRequest_iff.mpr ⟨(validateForRequest_iff.mp h.valid).1.of_same same, hok⟩,
    UInt64.zero_le, UInt64.zero_le, fun _ => rfl⟩, ?_⟩
  apply validateSuccessor_of_same same
  · exact fun _ => rfl
  · rw [hnone]
    rfl
  · rw [hphase]
    rfl
  · rw [expectedAttempts, if_pos ⟨.inr hphase, rfl⟩, hattempts]
    rfl
  · rw [validatePublicationSuccessor, if_neg (by simp [hphase])]
    have hfirst := hp.first.mp hobs
    have hlast := hp.last.mp hobs
    simp [check_bind_eq_ok, hstarted, hobs, hfirst, hlast, GithubGitSnapshotResumeV1.firstAttempt,
      armable]

/-- A new attempt after a proven absence. -/
theorem Sound.retry (h : s.Sound tools request clockMs) (hphase : s.phase = .sourceAbsent)
    (hattempts : ¬ s.sourcePublicationAttempts ≥ 3) :
    Step tools request clockMs s (s.armable (s.sourcePublicationAttempts + 1)) := by
  have same : SameStage s (s.armable (s.sourcePublicationAttempts + 1)) := ⟨rfl, rfl, rfl, rfl⟩
  have hp := h.publication
  obtain ⟨-, hfenced, -⟩ := hp.begun (by rw [hphase]; rfl)
  have hlt : s.sourcePublicationAttempts.toNat < 3 := by
    rw [ge_iff_le, UInt8.le_iff_toNat_le] at hattempts
    exact Nat.lt_of_not_le hattempts
  -- three attempts do not wrap around
  have hsucc : (s.sourcePublicationAttempts + 1).toNat = s.sourcePublicationAttempts.toNat + 1 := by
    rw [UInt8.toNat_add]
    exact Nat.mod_eq_of_lt (by simp; omega)
  have hrelease : s.keepaliveReleaseAuthorizationSha256.isSome = false := by
    rw [← hp.released, hphase]
    rfl
  have hok : (s.armable (s.sourcePublicationAttempts + 1)).PublicationOk := {
    attempts := by
      rw [UInt8.le_iff_toNat_le]
      show (s.sourcePublicationAttempts + 1).toNat ≤ 3
      omega
    observations := by simp [armable]
    first := by simp [armable]
    last := by simp [armable]
    ordered := UInt64.le_refl _
    fenced := hp.fenced
    scope := hp.scope
    authorization := hp.authorization
    early := fun hb => nomatch hb
    begun := by
      intro _
      refine ⟨?_, hfenced, fun _ => rfl⟩
      intro hzero
      have hnat : (s.sourcePublicationAttempts + 1).toNat = 0 := by
        rw [show s.sourcePublicationAttempts + 1 = 0 from hzero]
        rfl
      omega
    boundary := fun hne => absurd rfl hne
    owned := fun ho => nomatch ho
    absent := fun ha => nomatch ha
    released := hrelease.symm }
  refine ⟨⟨validateForRequest_iff.mpr ⟨(validateForRequest_iff.mp h.valid).1.of_same same, hok⟩,
    UInt64.zero_le, UInt64.zero_le, fun _ => rfl⟩, ?_⟩
  apply validateSuccessor_of_same same id (JobStore.optionCanBindOnce_self _)
  · rw [hphase]
    rfl
  · have hne : s.sourcePublicationAttempts ≠ 255 := by
      intro heq
      rw [heq] at hlt
      exact absurd hlt (by decide)
    rw [expectedAttempts, if_pos ⟨.inl hphase, rfl⟩, if_neg hne]
    rfl
  · rw [validatePublicationSuccessor, if_pos ⟨hphase, rfl⟩]
    simp [armable]

/-! ## Times -/

theorem le_saturatingAdd (a b : UInt64) : a ≤ saturatingAdd a b := by
  rw [UInt64.le_iff_toNat_le, saturatingAdd]
  split
  · rename_i hlt
    rw [UInt64.toNat_add, Nat.mod_eq_of_lt hlt]
    omega
  · exact Nat.le_of_lt_succ a.toNat_lt

theorem le_publicationQuiescenceDeadline (startedAtMs firstObservedAtMs : UInt64) :
    startedAtMs ≤ publicationQuiescenceDeadline startedAtMs firstObservedAtMs := by
  have hmax : startedAtMs ≤ max startedAtMs firstObservedAtMs := by
    rw [show max startedAtMs firstObservedAtMs =
      if startedAtMs ≤ firstObservedAtMs then firstObservedAtMs else startedAtMs from rfl]
    split
    · assumption
    · exact UInt64.le_refl _
  exact UInt64.le_trans hmax (le_saturatingAdd _ _)

theorem ne_zero_of_le {a b : UInt64} (ha : a ≠ 0) (hle : a ≤ b) : b ≠ 0 := by
  rintro rfl
  exact ha (UInt64.le_zero_iff.mp hle)

/-- The attempt is armed at a time that is not zero. -/
theorem Sound.armed (h : s.Sound tools request clockMs) (hphase : s.phase = .sourcePublishIntent)
    (hunarmed : s.sourcePublicationStartedAtMs = 0) (htime : timeMs ≠ 0) :
    Step tools request timeMs s (s.armed timeMs) := by
  have same : SameStage s (s.armed timeMs) := ⟨rfl, rfl, rfl, rfl⟩
  have hp := h.publication
  have hobs := h.unarmed hunarmed
  obtain ⟨hattempts, hfenced, -⟩ := hp.begun (by rw [hphase]; rfl)
  have hok : (s.armed timeMs).PublicationOk := { hp with
    early := fun hb => by
      rw [show (s.armed timeMs).phase = s.phase from rfl, hphase] at hb
      cases hb
    begun := fun _ => ⟨hattempts, hfenced, fun hzero => absurd hzero htime⟩
    boundary := by
      intro _
      simp only [GithubGitSnapshotResumeV1.armed]
      exact le_publicationQuiescenceDeadline timeMs 0
    owned := fun _ => htime
    absent := fun ha => by
      rw [show (s.armed timeMs).phase = s.phase from rfl, hphase] at ha
      exact nomatch ha }
  have hlast := hp.last.mp hobs
  refine ⟨⟨validateForRequest_iff.mpr ⟨(validateForRequest_iff.mp h.valid).1.of_same same, hok⟩,
    UInt64.le_refl _, ?_, fun hzero => absurd hzero htime⟩, ?_⟩
  · show s.sourcePublicationAbsenceLastObservedAtMs ≤ timeMs
    rw [hlast]
    exact UInt64.zero_le
  · apply validateSuccessor_of_same same id (JobStore.optionCanBindOnce_self _)
    · rw [show (s.armed timeMs).phase = s.phase from rfl, hphase]
      rfl
    · exact expectedAttempts_of_same rfl fun hnew => by simp [hphase] at hnew
    · rw [validatePublicationSuccessor, if_neg (by simp [hphase])]
      simp [check_bind_eq_ok, hunarmed, GithubGitSnapshotResumeV1.armed]

/-- An absence of the source that leaves the deadline of the armed attempt alone. -/
theorem Sound.absentAt (h : s.Sound tools request clockMs) (hphase : s.phase = .sourcePublishIntent)
    (harmed : s.sourcePublicationStartedAtMs ≠ 0) (hclock : clockMs ≤ timeMs)
    (hdeadline : s.sourcePublicationAbsenceObservations = 0 →
      publicationQuiescenceDeadline s.sourcePublicationStartedAtMs timeMs =
        s.sourcePublicationQuiescenceDeadlineMs)
    (hnext : phase = .sourcePublishIntent ∨ phase = .sourceAbsent ∧
      s.sourcePublicationAbsenceObservations ≠ 0 ∧
        s.sourcePublicationQuiescenceDeadlineMs ≤ timeMs) :
    Step tools request timeMs s { s.absentAt timeMs with phase } := by
  have same : SameStage s { s.absentAt timeMs with phase } := ⟨rfl, rfl, rfl, rfl⟩
  have hp := h.publication
  have htime : timeMs ≠ 0 := ne_zero_of_le harmed (UInt64.le_trans h.started hclock)
  obtain ⟨hattempts, hfenced, -⟩ := hp.begun (by rw [hphase]; rfl)
  have hkept : (s.absentAt timeMs).sourcePublicationQuiescenceDeadlineMs =
      s.sourcePublicationQuiescenceDeadlineMs := by
    by_cases hobs : s.sourcePublicationAbsenceObservations = 0
    · simp [GithubGitSnapshotResumeV1.absentAt, hobs, hdeadline hobs]
    · simp [GithubGitSnapshotResumeV1.absentAt, hobs]
  have hfirst : (s.absentAt timeMs).sourcePublicationAbsenceFirstObservedAtMs ≠ 0 ∧
      (s.absentAt timeMs).sourcePublicationAbsenceFirstObservedAtMs ≤ timeMs := by
    by_cases hobs : s.sourcePublicationAbsenceObservations = 0
    · simp [GithubGitSnapshotResumeV1.absentAt, hobs, htime]
    · have hle := UInt64.le_trans hp.ordered (UInt64.le_trans h.observed hclock)
      simp [GithubGitSnapshotResumeV1.absentAt, hobs, hle, hp.first.not.mp hobs]
  have hcount : (s.absentAt timeMs).sourcePublicationAbsenceObservations ≠ 0 ∧
      (s.absentAt timeMs).sourcePublicationAbsenceObservations ≤ 2 := by
    by_cases hobs : s.sourcePublicationAbsenceObservations = 0 <;>
      simp [GithubGitSnapshotResumeV1.absentAt, hobs]
  -- neither phase is before the source, owns it or releases the keepalive
  have hkind : phase.beforeSource = false ∧ phase.ownsSource = false ∧
      phase.keepaliveRelease = s.phase.keepaliveRelease ∧ s.phase.canAdvanceTo phase = true ∧
      ¬((s.phase = .sourceAbsent ∨ s.phase = .stageDeleted) ∧ phase = .sourcePublishIntent) := by
    obtain rfl | ⟨rfl, -, -⟩ := hnext <;> simp only [hphase] <;> decide
  obtain ⟨hbefore, howns, hrelease, hadvance, hnew⟩ := hkind
  have hok : ({ s.absentAt timeMs with phase } : GithubGitSnapshotResumeV1).PublicationOk := {
    attempts := hp.attempts
    observations := hcount.2
    first := iff_of_false hcount.1 hfirst.1
    last := iff_of_false hcount.1 htime
    ordered := hfirst.2
    fenced := hp.fenced
    scope := hp.scope
    authorization := hp.authorization
    early := fun hb => absurd hb (by simp [hbefore])
    begun := fun _ => ⟨hattempts, hfenced, fun hzero => absurd hzero harmed⟩
    boundary := by
      intro _
      simp only [hkept]
      exact hp.boundary harmed
    owned := fun ho => absurd ho (by simp [howns])
    absent := by
      intro habsent
      obtain rfl | ⟨-, hobs, hreached⟩ := hnext
      · cases habsent
      · simp only [hkept]
        exact ⟨by simp [GithubGitSnapshotResumeV1.absentAt, hobs], harmed, hreached⟩
    released := hrelease.trans hp.released }
  refine ⟨⟨validateForRequest_iff.mpr ⟨(validateForRequest_iff.mp h.valid).1.of_same same, hok⟩,
    UInt64.le_trans h.started hclock, UInt64.le_refl _, fun hzero => absurd hzero harmed⟩, ?_⟩
  apply validateSuccessor_of_same same id (JobStore.optionCanBindOnce_self _) hadvance
    (expectedAttempts_of_same rfl hnew)
  have hmonotone : s.sourcePublicationAbsenceObservations ≤
      (s.absentAt timeMs).sourcePublicationAbsenceObservations := by
    by_cases hobs : s.sourcePublicationAbsenceObservations = 0
    · simp [hobs]
    · simp [GithubGitSnapshotResumeV1.absentAt, hobs, hp.observations]
  have hbound : s.sourcePublicationAbsenceFirstObservedAtMs ≠ 0 →
      (s.absentAt timeMs).sourcePublicationAbsenceFirstObservedAtMs =
        s.sourcePublicationAbsenceFirstObservedAtMs := by
    intro hne
    simp [GithubGitSnapshotResumeV1.absentAt, hp.first.not.mpr hne]
  have hlater : s.sourcePublicationAbsenceLastObservedAtMs ≤ timeMs :=
    UInt64.le_trans h.observed hclock
  rw [validatePublicationSuccessor, if_neg (by simp [hphase])]
  simp only [check_bind_eq_ok, rejectIf_eq_ok]
  refine ⟨?_, ?_, ?_⟩
  · simp [GithubGitSnapshotResumeV1.absentAt]
  · simp only [hkept]
    simp
  · have hlast : (s.absentAt timeMs).sourcePublicationAbsenceLastObservedAtMs = timeMs := rfl
    simp only [hlast, Bool.or_eq_false_iff, decide_eq_false_iff_not, gt_iff_lt, UInt8.not_lt,
      UInt64.not_lt, Bool.and_eq_false_imp, bne_iff_ne, bne_eq_false_iff_eq]
    exact ⟨⟨hmonotone, fun hne => (hbound hne).symm⟩, hlater⟩

/-- A first absence after an uncertain push is recorded like any other. -/
theorem uncertainAt_eq (hobs : s.sourcePublicationAbsenceObservations = 0) :
    s.uncertainAt timeMs = s.absentAt timeMs := by
  simp [uncertainAt, GithubGitSnapshotResumeV1.absentAt, hobs]

section

variable (h : s.Sound tools request clockMs) (hphase : s.phase = .sourcePublishIntent)
  (harmed : s.sourcePublicationStartedAtMs ≠ 0) (hclock : clockMs ≤ timeMs)

include h hphase harmed hclock

/-- An uncertain publication. -/
theorem Sound.uncertainAt (hobs : s.sourcePublicationAbsenceObservations = 0)
    (hdeadline : publicationQuiescenceDeadline s.sourcePublicationStartedAtMs timeMs =
      s.sourcePublicationQuiescenceDeadlineMs) :
    Step tools request timeMs s (s.uncertainAt timeMs) := by
  have hstep := h.absentAt hphase harmed hclock (fun _ => hdeadline) (.inl hphase)
  rw [uncertainAt_eq hobs]
  exact hstep

theorem Sound.observeAbsence (hdeadline : s.sourcePublicationAbsenceObservations = 0 →
      publicationQuiescenceDeadline s.sourcePublicationStartedAtMs timeMs =
        s.sourcePublicationQuiescenceDeadlineMs) :
    Step tools request timeMs s (s.observeAbsence timeMs) := by
  rw [GithubGitSnapshotResumeV1.observeAbsence]
  split
  · rename_i hproven
    have hreached : s.sourcePublicationAbsenceObservations ≠ 0 ∧
        s.sourcePublicationQuiescenceDeadlineMs ≤ timeMs := by
      -- one observation alone proves nothing
      by_cases hobs : s.sourcePublicationAbsenceObservations = 0
      · simp [absenceProven, GithubGitSnapshotResumeV1.absentAt, hobs] at hproven
      · simp [absenceProven, GithubGitSnapshotResumeV1.absentAt, hobs] at hproven
        exact ⟨hobs, hproven.2⟩
    exact h.absentAt hphase harmed hclock hdeadline (.inr ⟨rfl, hreached⟩)
  · exact h.absentAt hphase harmed hclock hdeadline (.inl hphase)

end

end GithubGitSnapshotResumeV1

end RustFerry.Github
