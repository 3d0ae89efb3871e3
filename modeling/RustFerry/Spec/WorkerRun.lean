import RustFerry.Native.WorkerSession
import RustFerry.Spec.SessionMessages

/-!
# What a worker session can do

The events of a worker session, as far as its peer and its cleanup depend on them, are
followed by a `WorkerView`. `WorkerView.Allows` says when the session may write a frame
or touch its job root; the session keeps to it whatever its operations answer.
-/

namespace RustFerry.Snapshot

open Remote ProgM

variable {failure : SessionFailure} {E : SessionFailure → Session → WorkerView → Prop}
  {phase : String} {kind : RemoteBuildEventKind} {descriptor : SnapshotArtifactDescriptor}
  {guard : JobRootGuard} {jobId : String}

/-! ## View -/

/-- What has happened to the job root tree. -/
inductive RootState where
  | untouched
  | removing
  | removed
  | failed
  deriving DecidableEq

/-- The message claims a confirmed cleanup. -/
def ServerMessage.confirmsCleanup : ServerMessage → Bool
  | .event e =>
    match e.kind with
    | .cleanupFinished _ => true
    | _ => false
  | .complete _ => true
  | .error e => e.cleanup.isSome
  | _ => false

def ServerMessage.isError : ServerMessage → Bool
  | .error _ => true
  | _ => false

/-- The events of a worker session so far: the build request it read, its job and the job
    root, the frames it wrote (`frames` counts those that were acknowledged), the receipt
    it received, and whether it may not write any more (`closed`). -/
structure WorkerView where
  start : Option SnapshotBuildStart
  jobId : Option String
  hasJob : Bool
  directory : Option DirectoryHandle
  identity : Option FileIdentity
  root : RootState
  attempted : Bool
  frames : Nat
  accepted : Option SnapshotJobAccepted
  offered : Option SnapshotArtifactDescriptor
  receipt : Option SnapshotArtifactReceipt
  confirmed : Bool
  closed : Bool

namespace WorkerView

def init : WorkerView where
  start := none
  jobId := none
  hasJob := false
  directory := none
  identity := none
  root := .untouched
  attempted := false
  frames := 0
  accepted := none
  offered := none
  receipt := none
  confirmed := false
  closed := false

/-- The job of the session, once its root guard exists. -/
def job (v : WorkerView) : Option String := if v.hasJob then v.jobId else none

def operationId (v : WorkerView) : Option String := v.start.map (·.parameters.operationId)

/-- A frame was acknowledged. -/
def acknowledge (v : WorkerView) : ServerMessage → WorkerView
  | .jobAccepted accepted => { v with frames := v.frames + 1, accepted := some accepted }
  | .artifactDescriptor descriptor => { v with frames := v.frames + 1, offered := some descriptor }
  | _ => { v with frames := v.frames + 1 }

/-- A frame was handed to the output. -/
def write (v : WorkerView) (message : ServerMessage)
    (result : Except DataPlane.WorkerDataPlaneFrameError Unit) : WorkerView :=
  let v := { v with attempted := true, confirmed := v.confirmed || message.confirmsCleanup }
  match result with
  | .ok () => { v.acknowledge message with closed := v.closed || message.isError }
  | .error error => { v with closed := v.closed || message.isError || error == .io }

def next (v : WorkerView) : (op : WorkerOp) → WorkerRes op → WorkerView
  | .readPayload, .ok (.buildRequest start) => { v with start := v.start.or (some start) }
  | .newUuid, uuid => { v with jobId := some ("ssh-" ++ uuid) }
  | .step .syncJobRoot, true => { v with hasJob := true }
  | .createDirectory _, some directory => { v with directory := some directory }
  | .directoryIdentity _, some identity => { v with identity := v.identity.or (some identity) }
  | .removeTree _, removal =>
    { v with root := if removal = .failed then .failed else .removing }
  | .isUnlinked _, unlinked =>
    { v with root := if unlinked = some true then .removed else .failed }
  | .write frame, result => v.write frame.message result
  | .streamArtifact _ _, .sent _ => { v with attempted := true, frames := v.frames + 1 }
  | .streamArtifact _ _, .failed _ outputFailed =>
    { v with attempted := true, closed := v.closed || outputFailed }
  | .flush, false => { v with closed := true }
  | .receiveControl, .ok (.receipt (.artifactReceipt receipt)) =>
    { v with receipt := some receipt }
  | _, _ => v

/-- When a message may be written. -/
def AllowsMessage (rules : SessionRules) (v : WorkerView) : ServerMessage → Prop
  | .jobAccepted accepted => v.attempted = false ∧ v.job = some accepted.jobId ∧
    v.operationId = some accepted.operationId
  | .event event => v.accepted.isSome ∧
    ((ServerMessage.event event).confirmsCleanup → v.root = .removed)
  | .artifactDescriptor _ => v.accepted.isSome
  | .artifact _ => False
  | .complete _ => v.accepted.isSome ∧ v.root = .removed ∧ ∃ descriptor receipt,
    v.offered = some descriptor ∧ v.receipt = some receipt ∧
    receipt.validateFor rules descriptor = .ok ()
  | .error error => error.validate = .ok () ∧
    error.protocolVersion = currentProtocolVersion ∧
    (error.operationId.isSome → error.operationId = v.operationId) ∧
    error.jobId = v.job ∧
    (∀ accepted, v.accepted = some accepted →
      error.operationId = some accepted.operationId ∧ error.jobId = some accepted.jobId) ∧
    (error.cleanup.isSome → v.root = .removed)

/-- When an operation may be performed. -/
def Allows (rules : SessionRules) (v : WorkerView) : (op : WorkerOp) → WorkerRes op → Prop
  | .write frame, _ => v.closed = false ∧ frame.sequence.toNat = v.frames ∧
    v.AllowsMessage rules frame.message
  | .streamArtifact sequence _, _ => v.closed = false ∧ sequence.toNat = v.frames ∧
    v.accepted.isSome
  | .createDirectory _, _ => v.directory = none ∧ v.identity = none
  | .directoryIdentity directory, _ => v.directory = some directory
  | .removeTree directory, _ => v.root = .untouched ∧ v.directory = some directory ∧
    v.confirmed = false
  | .isUnlinked identity, _ => v.root = .removing ∧ v.identity = some identity ∧
    v.confirmed = false
  | _, _ => True

end WorkerView

/-- The contract of the worker's main thread, for any answers. -/
def workerContract (rules : SessionRules) : Contract WorkerOp WorkerRes WorkerView where
  next := WorkerView.next
  assume _ _ _ := True
  guarantee := WorkerView.Allows rules

variable {rules : SessionRules} {σ ε α : Type} {s : σ} {v : WorkerView}

/-! ## Operations -/

theorem next_step {step : LocalStep} (hstep : step ≠ .syncJobRoot) (done : Bool) :
    v.next (.step step) done = v := by
  cases step <;> first | rfl | exact absurd rfl hstep

theorem silent_localStep {step : LocalStep} (hstep : step ≠ .syncJobRoot) :
    Silent (workerContract rules) (localStep step failure : ProgM _ _ σ _ _) v := by
  refine silent_bind (silent_perform fun done => ⟨trivial, next_step hstep done⟩) ?_
  intro done
  exact silent_ensure

/-! ## Job root -/

/-- A guard that still has its identity owns the tree of the job, and has not touched it. -/
def Guards (guard : JobRootGuard) (v : WorkerView) : Prop :=
  ∀ identity, guard.identity = some identity → v.root = .untouched ∧ v.identity = some identity ∧
    ∀ directory, guard.directory = some directory → v.directory = some directory

theorem guards_of_identity_none (hnone : guard.identity = none) :
    Guards guard v := by
  intro identity hidentity
  rw [hnone] at hidentity
  cases hidentity

/-- Only the removal changes the view, and a removal that is not known to have succeeded
    leaves a guard that cannot try again. -/
theorem wp_cleanup {Q : Unit → JobRootGuard → WorkerView → Prop}
    {E : SessionFailure → JobRootGuard → WorkerView → Prop} (hguards : Guards guard v)
    (hconfirmed : v.confirmed = false)
    (hQ : ∀ guard', guard'.owned = false → Q () guard' { v with root := .removed })
    (hE : ∀ failure guard' root, Guards guard' { v with root } → E failure guard' { v with root }) :
    wp (workerContract rules) JobRootGuard.cleanup Q E guard v := by
  obtain ⟨directory, identity, owned⟩ := guard
  unfold JobRootGuard.cleanup
  simp only [wp_bind, wp_get, wp_ensure, wp_ofOption]
  refine ⟨?_, fun _ => hE _ _ v.root hguards⟩
  intro howned
  refine ⟨?_, fun _ => hE _ _ v.root hguards⟩
  intro i hi
  refine ⟨?_, fun _ => hE _ _ v.root hguards⟩
  intro d hd
  obtain ⟨hroot, hidentity, hdirectory⟩ := hguards i hi
  simp only [wp_modify]
  rw [wp_perform]
  intro current _
  -- the identity is known, so reading it again does not change the view
  have hsame : v.next (.directoryIdentity d) current = v := by
    cases current with
    | none => rfl
    | some current =>
      show { v with identity := v.identity.or (some current) } = v
      rw [hidentity, Option.some_or, ← hidentity]
  refine ⟨hdirectory d hd, ?_⟩
  show wp _ _ _ _ _ (v.next _ _)
  rw [hsame]
  split
  · simp only [wp_bind, wp_modify, wp_fail]
    refine hE _ _ v.root ?_
    intro i' hi'
    refine ⟨hroot, ?_, ?_⟩
    · rw [hidentity, ← hi]
      exact hi'
    · rintro d' ⟨⟩
      exact hdirectory d hd
  · simp only [wp_bind, wp_modify]
    rw [wp_perform]
    intro removal _
    refine ⟨⟨hroot, hdirectory d hd, hconfirmed⟩, ?_⟩
    rw [wp_ensure]
    refine ⟨?_, fun _ => hE _ _ _ (guards_of_identity_none rfl)⟩
    intro hremoval
    rw [wp_perform]
    intro unlinked _
    refine ⟨⟨?_, hidentity, hconfirmed⟩, ?_⟩
    · exact if_neg (of_decide_eq_true hremoval)
    rw [wp_ensure]
    refine ⟨?_, fun _ => hE _ _ _ (guards_of_identity_none rfl)⟩
    intro hunlinked
    rw [wp_perform]
    intro synced _
    refine ⟨trivial, ?_⟩
    rw [wp_ensure]
    refine ⟨?_, fun _ => hE _ _ _ (guards_of_identity_none rfl)⟩
    intro _
    have hroot' : (v.next (.removeTree d) removal).next (.isUnlinked i) unlinked =
        { v with root := .removed } := by
      simp [WorkerView.next, of_decide_eq_true hunlinked]
    show Q () _ ((v.next (.removeTree d) removal).next (.isUnlinked i) unlinked)
    rw [hroot']
    exact hQ _ rfl

variable {Q : Unit → WorkerView → Prop}

theorem wp_drop (hguards : Guards guard v)
    (hconfirmed : v.confirmed = false) (hQ : ∀ root, Q () { v with root }) :
    guard.drop.wp (workerContract rules) Q v := by
  unfold JobRootGuard.drop
  split
  · rw [Prog.wp_bind]
    have hcleanup : wp (workerContract rules) JobRootGuard.cleanup (fun _ _ g => Q () g)
        (fun _ _ g => Q () g) guard v :=
      wp_cleanup hguards hconfirmed (fun _ _ => hQ _) fun _ _ root _ => hQ root
    refine Prog.wp_mono ?_ hcleanup
    rintro ⟨_ | _, _⟩ g hout <;> exact hout
  · exact hQ v.root

/-- A guard that owns nothing. -/
theorem wp_drop_of_not_owned (howned : guard.owned = false)
    (hQ : Q () v) : guard.drop.wp (workerContract rules) Q v := by
  unfold JobRootGuard.drop
  rw [howned]
  exact hQ

/-- The tree is removed, or left to the drop of the guard. -/
theorem wp_abandon {Q : α → σ → WorkerView → Prop} {E : SessionFailure → σ → WorkerView → Prop}
    (hguards : Guards guard v) (hconfirmed : v.confirmed = false)
    (hE : ∀ root, E failure s { v with root }) :
    wp (workerContract rules) (guard.abandon failure) Q E s v := by
  unfold JobRootGuard.abandon
  refine wp_bind.mpr (wp_lift.mpr ?_)
  have hcleanup : wp (workerContract rules) JobRootGuard.cleanup
      (fun _ guard g => guard.drop.wp (workerContract rules) (fun _ g => E failure s g) g)
      (fun _ guard g => guard.drop.wp (workerContract rules) (fun _ g => E failure s g) g)
      guard v := by
    refine wp_cleanup hguards hconfirmed ?_ ?_
    · intro guard howned
      exact wp_drop_of_not_owned howned (hE _)
    · intro _ guard root hguard
      exact wp_drop hguard hconfirmed hE
  refine Prog.wp_mono ?_ hcleanup
  rintro ⟨_ | _, guard⟩ g hout <;> exact wp_bind.mpr (wp_lift.mpr hout)

/-- The marker is written, and with its last step the job exists. -/
theorem wp_writeMarker {Q : Unit → σ → WorkerView → Prop} {E : SessionFailure → σ → WorkerView → Prop}
    (hQ : Q () s { v with hasJob := true }) (hE : ∀ failure, E failure s v) :
    wp (workerContract rules) JobRootGuard.writeMarker Q E s v := by
  unfold JobRootGuard.writeMarker
  refine wp_bind.mpr ((silent_localStep (by decide)).wp (fun _ => ?_) hE)
  refine wp_bind.mpr ((silent_localStep (by decide)).wp (fun _ => ?_) hE)
  refine wp_bind.mpr ((silent_localStep (by decide)).wp (fun _ => ?_) hE)
  unfold localStep
  rw [wp_bind, wp_perform]
  intro done _
  refine ⟨trivial, ?_⟩
  cases done with
  | true => exact hQ
  | false => exact hE _

/-- Before the job root exists. -/
structure NoJob (v : WorkerView) : Prop where
  hasJob : v.hasJob = false
  directory : v.directory = none
  untouched : v.root = .untouched
  identity : v.identity = none
  confirmed : v.confirmed = false

/-- A new job root is guarded; without one there is no job, whatever remains on disk. -/
theorem wp_create {Q : JobRootGuard → σ → WorkerView → Prop}
    {E : SessionFailure → σ → WorkerView → Prop} (hv : NoJob v)
    (hQ : ∀ guard directory identity, Guards guard { v with directory, identity, hasJob := true } →
      Q guard s { v with directory, identity, hasJob := true })
    (hE : ∀ failure directory identity root, E failure s { v with directory, identity, root }) :
    wp (workerContract rules) (JobRootGuard.create jobId) Q E s v := by
  -- before the directory exists a failure changes nothing
  have hfail : ∀ failure, E failure s v := fun failure => hE failure v.directory v.identity v.root
  unfold JobRootGuard.create JobRootGuard.validateWorkerRoot
  simp only [wp_bind]
  refine (silent_localStep (by decide)).wp (fun _ => ?_) hfail
  refine (silent_localStep (by decide)).wp (fun _ => ?_) hfail
  refine (silent_localStep (by decide)).wp (fun _ => ?_) hfail
  rw [wp_perform]
  intro created _
  refine ⟨⟨hv.directory, hv.identity⟩, ?_⟩
  cases created with
  | none => exact hfail _
  | some directory =>
    simp only [ofOption, wp_pure]
    rw [wp_perform]
    intro found _
    refine ⟨rfl, ?_⟩
    cases found with
    | none =>
      rw [wp_bind, wp_perform]
      intro removal _
      exact ⟨⟨hv.untouched, rfl, hv.confirmed⟩, hE _ (some directory) v.identity _⟩
    | some identity =>
      simp only [wp_bind]
      rw [wp_perform]
      intro metadata _
      refine ⟨trivial, ?_⟩
      have hidentity : v.identity.or (some identity) = some identity := by
        rw [hv.identity, Option.none_or]
      cases metadata with
      | false =>
        simp only [Bool.not_false, if_true, wp_bind]
        rw [wp_perform]
        intro removal _
        exact ⟨⟨hv.untouched, rfl, hv.confirmed⟩, hE _ (some directory) _ _⟩
      | true =>
        simp only [Bool.not_true, Bool.false_eq_true, if_false]
        have hguards : Guards ⟨some directory, some identity, true⟩
            { v with directory := some directory, identity := v.identity.or (some identity) } := by
          rintro i ⟨⟩
          exact ⟨hv.untouched, hidentity, fun d hd => hd⟩
        refine wp_bind.mpr (wp_attempt.mpr (wp_writeMarker ?_ ?_))
        · exact hQ _ (some directory) (v.identity.or (some identity)) hguards
        · intro failure
          -- without a marker the directory is given up
          exact wp_abandon hguards hv.confirmed fun root => hE _ _ _ root

/-! ## Session -/

/-- The view follows the session. -/
structure Tracks (session : Session) (v : WorkerView) : Prop where
  closed : v.closed = session.outputFailed
  sequence : session.outputSequence.toNat = v.frames
  operation : session.operationId.isSome → session.operationId = v.operationId
  job : session.jobId = v.job
  accepted : ∀ accepted, v.accepted = some accepted →
    session.operationId = some accepted.operationId ∧ session.jobId = some accepted.jobId
  root : ∀ guard, session.root = some guard → Guards guard v ∧ v.confirmed = false

/-- A session that can still report a failure: it has written fewer frames than any
    session writes. -/
structure Failing (session : Session) (v : WorkerView) : Prop extends Tracks session v where
  bounded : v.frames ≤ 16

theorem checkedSucc_eq_some {n : UInt64} (hn : n.toNat + 1 < 2 ^ 64) :
    DataPlane.WorkerDataPlaneSequence.checkedSucc n = some (n + 1) ∧
      (n + 1).toNat = n.toNat + 1 := by
  constructor
  · exact if_pos hn
  · rw [UInt64.toNat_add]
    exact Nat.mod_eq_of_lt hn

variable {session : Session} {message : ServerMessage}

/-- A write that the session goes on after. -/
theorem Tracks.write {result : Except DataPlane.WorkerDataPlaneFrameError Unit}
    {next : UInt64} {outputFailed : Bool} (ht : Tracks session v)
    (haccepted : ∀ accepted, message = .jobAccepted accepted →
      session.operationId = some accepted.operationId ∧ session.jobId = some accepted.jobId)
    (hroot : message.confirmsCleanup = true → session.root = none)
    (hnext : next.toNat = (v.write message result).frames)
    (hfailed : outputFailed = (v.write message result).closed) :
    Tracks { session with outputSequence := next, outputFailed } (v.write message result) := by
  have hsame : (v.write message result).job = v.job ∧
      (v.write message result).operationId = v.operationId ∧
      (v.write message result).confirmed = (v.confirmed || message.confirmsCleanup) ∧
      ∀ guard, Guards guard v → Guards guard (v.write message result) := by
    cases result with
    | ok u => cases message <;> exact ⟨rfl, rfl, rfl, fun _ h => h⟩
    | error e => exact ⟨rfl, rfl, rfl, fun _ h => h⟩
  obtain ⟨hjob, hoperation, hconfirmed, hguards⟩ := hsame
  refine ⟨hfailed.symm, hnext, ?_, ?_, ?_, ?_⟩
  · rw [hoperation]
    exact ht.operation
  · rw [hjob]
    exact ht.job
  · intro accepted haccepted'
    cases result with
    | error e => exact ht.accepted accepted haccepted'
    | ok u =>
      cases message with
      | jobAccepted a =>
        obtain rfl := Option.some.inj haccepted'
        exact haccepted a rfl
      | event _ | artifactDescriptor _ | artifact _ | complete _ | error _ =>
        exact ht.accepted accepted haccepted'
  · intro guard hguard
    refine ⟨hguards guard (ht.root guard hguard).1, ?_⟩
    rw [hconfirmed, (ht.root guard hguard).2]
    cases hconfirms : message.confirmsCleanup with
    | false => rfl
    | true =>
      rw [hroot hconfirms] at hguard
      cases hguard

variable {Q : Unit → Session → WorkerView → Prop}

/-- A message is written, or the output has failed. -/
theorem wp_writeJson (ht : Failing session v)
    (hallows : v.closed = false → v.AllowsMessage rules message)
    (hQ : v.closed = false → ∀ next : UInt64, next.toNat = v.frames + 1 → Q () { session with
      outputSequence := next } (v.write message (.ok ())))
    (hE : ∀ failure error, v.closed = false → E failure { session with outputFailed := error == .io
      } (v.write message (.error error)))
    (hclosed : ∀ failure, v.closed = true → E failure session v) :
    wp (workerContract rules) (writeJson message) Q E session v := by
  unfold writeJson
  simp only [wp_bind, wp_get, wp_ensure, ← ht.closed]
  constructor
  · intro hopen
    have hopen : v.closed = false := by simpa using hopen
    rw [wp_perform]
    intro result _
    refine ⟨⟨hopen, ht.sequence, hallows hopen⟩, ?_⟩
    cases result with
    | error error =>
      simp only [wp_bind, wp_modify, wp_fail]
      exact hE _ error hopen
    | ok u =>
      have hn : session.outputSequence.toNat + 1 < 2 ^ 64 := by
        have := ht.bounded
        have := ht.sequence
        omega
      obtain ⟨hsucc, hnat⟩ := checkedSucc_eq_some hn
      simp only [wp_bind, hsucc, ofOption, wp_pure, wp_modify]
      exact hQ hopen _ (by rw [hnat, ht.sequence])
  · intro hnot
    exact hclosed _ (by simpa using hnot)

/-- The output is flushed, or has failed. -/
theorem wp_flushOutput (hQ : Q () session v)
    (hE : ∀ failure, E failure { session with outputFailed := true } { v with closed := true })
    (hfailed : ∀ failure, session.outputFailed = true → E failure session v) :
    wp (workerContract rules) flushOutput Q E session v := by
  unfold flushOutput
  simp only [wp_bind, wp_get, wp_ensure]
  constructor
  · intro _
    rw [wp_perform]
    intro flushed _
    refine ⟨trivial, ?_⟩
    cases flushed with
    | true => exact hQ
    | false => exact hE _
  · intro hnot
    exact hfailed _ (by simpa using hnot)

/-- The session has accepted the job and written `n` frames. -/
structure Building (n : Nat) (offered : Option SnapshotArtifactDescriptor)
    (receipt : Option SnapshotArtifactReceipt) (session : Session) (v : WorkerView) : Prop
    extends Tracks session v where
  frames : v.frames = n
  hasAccepted : v.accepted.isSome
  offered : v.offered = offered
  receipt : v.receipt = receipt

variable {n : Nat} {offered : Option SnapshotArtifactDescriptor}
  {receipt : Option SnapshotArtifactReceipt} {request : IosDeviceBuildRequest}

theorem Building.failing (hb : Building n offered receipt session v) (hn : n ≤ 16) :
    Failing session v :=
  ⟨hb.toTracks, hb.frames.le.trans hn⟩

/-- After the frame the session goes on building, with the root as it was. -/
theorem wp_writeBuilding (hb : Building n offered receipt session v) (hn : n < 16)
    (herror : message.isError = false) (haccepted : ∀ accepted, message ≠ .jobAccepted accepted)
    (hroot : message.confirmsCleanup = true → session.root = none)
    (hallows : v.AllowsMessage rules message) :
    wp (workerContract rules) (writeJson message)
      (fun _ session' v' => Building (n + 1)
        (match message with | .artifactDescriptor descriptor => some descriptor | _ => offered)
        receipt session' v' ∧ session'.root = session.root ∧ v'.root = v.root)
      (fun _ => Failing) session v := by
  have hne : ∀ accepted, message = .jobAccepted accepted →
      session.operationId = some accepted.operationId ∧ session.jobId = some accepted.jobId :=
    fun accepted h => absurd h (haccepted accepted)
  refine wp_writeJson (hb.failing hn.le) (fun _ => hallows) ?_ ?_ fun _ _ => hb.failing hn.le
  · intro hopen next hnext
    have hframes : (v.write message (.ok ())).frames = v.frames + 1 := by cases message <;> rfl
    have hfailed : session.outputFailed = (v.write message (.ok ())).closed := by
      rw [← hb.closed]
      cases message <;> simp_all [WorkerView.write, WorkerView.acknowledge]
    have ht := hb.toTracks.write hne hroot (hnext.trans hframes.symm) hfailed
    refine ⟨⟨ht, ?_, ?_, ?_, ?_⟩, rfl, ?_⟩
    · rw [hframes, hb.frames]
    · cases message with
      | jobAccepted a => exact absurd rfl (haccepted a)
      | event _ | artifactDescriptor _ | artifact _ | complete _ | error _ => exact hb.hasAccepted
    · cases message with
      | artifactDescriptor _ => rfl
      | jobAccepted _ | event _ | artifact _ | complete _ | error _ => exact hb.offered
    · cases message <;> exact hb.receipt
    · cases message <;> rfl
  · intro failure error hopen
    have hfailed : (error == .io) = (v.write message (.error error)).closed := by
      simp [WorkerView.write, hopen, herror]
    exact ⟨hb.toTracks.write hne hroot hb.sequence hfailed, hb.frames.le.trans hn.le⟩

theorem silent_clock : Silent (workerContract rules) (worker .clock : ProgM _ _ σ ε _) v :=
  silent_perform fun _ => ⟨trivial, rfl⟩

/-- The number of the next event. -/
theorem Building.eventSequence (hb : Building n offered receipt session v) (next : UInt64) :
    Building n offered receipt { session with eventSequence := next } v :=
  ⟨⟨hb.closed, hb.sequence, hb.operation, hb.job, hb.toTracks.accepted, hb.root⟩,
    hb.frames, hb.hasAccepted, hb.offered, hb.receipt⟩

variable {operationId : String}

theorem newEvent_kind {now sequence : UInt64} {event : RemoteBuildEvent}
    (h : (newEvent rules operationId jobId now phase sequence kind).toOption = some event) :
    event.kind = kind := by
  obtain ⟨-, -, hn⟩ := Except.bind_eq_ok.mp (Except.eq_ok_of_toOption h)
  cases hn
  rfl

def isCleanupFinished : RemoteBuildEventKind → Bool
  | .cleanupFinished _ => true
  | _ => false

section

variable (hb : Building n offered receipt session v)

include hb

/-- An event that confirms a cleanup comes after the removal. -/
theorem wp_emitEvent (hn : n < 16)
    (hkind : isCleanupFinished kind = true → session.root = none ∧ v.root = .removed) :
    wp (workerContract rules) (emitEvent rules request phase kind)
      (fun _ session' v' => Building (n + 1) offered receipt session' v' ∧
        session'.root = session.root ∧ v'.root = v.root)
      (fun _ => Failing) session v := by
  unfold emitEvent
  have hfail := hb.failing hn.le
  simp only [wp_bind, wp_get]
  refine silent_ofOption.wp (fun jobId => ?_) fun _ => hfail
  refine silent_clock.wp (fun now => ?_) fun _ => hfail
  rw [wp_ofOption]
  refine ⟨?_, fun _ => hfail⟩
  intro event hevent
  have hconfirms : (ServerMessage.event event).confirmsCleanup = isCleanupFinished kind := by
    rw [← newEvent_kind hevent]
    rfl
  refine silent_ofOption.wp (fun next => ?_) fun _ => hfail
  refine wp_writeBuilding (hb.eventSequence next) hn rfl ?_ ?_ ?_
  · intro _ h
    cases h
  · intro h
    exact (hkind (hconfirms ▸ h)).1
  · exact ⟨hb.hasAccepted, fun h => (hkind (hconfirms ▸ h)).2⟩

/-- An event that confirms nothing. -/
theorem wp_emitProgress {f : Unit → WorkerM α} {Q : α → Session → WorkerView → Prop} (hn : n < 16)
    (hkind : isCleanupFinished kind = false)
    (hf : ∀ session' v', Building (n + 1) offered receipt session' v' → wp (workerContract rules)
      (f ()) Q (fun _ => Failing) session' v') :
    wp (workerContract rules) (emitEvent rules request phase kind >>= f) Q (fun _ => Failing)
      session v := by
  rw [wp_bind]
  have hemit : wp (workerContract rules) (emitEvent rules request phase kind)
      (fun _ session' v' => Building (n + 1) offered receipt session' v' ∧
        session'.root = session.root ∧ v'.root = v.root)
      (fun _ => Failing) session v :=
    wp_emitEvent hb hn fun h => nomatch hkind.symm.trans h
  exact wp_mono hemit (fun _ session' v' h => hf session' v' h.1) fun _ _ _ h => h

/-- The output is flushed between two frames. -/
theorem wp_flushBuilding (hn : n ≤ 16) :
    wp (workerContract rules) flushOutput
      (fun _ session' v' => Building n offered receipt session' v' ∧
        session'.root = session.root ∧ v'.root = v.root)
      (fun _ => Failing) session v := by
  refine wp_flushOutput ⟨hb, rfl, rfl⟩ ?_ fun _ _ => hb.failing hn
  intro failure
  exact ⟨⟨rfl, hb.sequence, hb.operation, hb.job, hb.toTracks.accepted, hb.root⟩,
    hb.frames.le.trans hn⟩

theorem wp_streamArtifact (hn : n < 16) :
    wp (workerContract rules) (streamArtifact rules descriptor)
      (fun _ => Building (n + 1) offered receipt) (fun _ => Failing) session v := by
  have hfail := hb.failing hn.le
  unfold streamArtifact
  simp only [wp_bind, wp_get]
  refine (silent_localStep (by decide)).wp (fun _ => ?_) fun _ => hfail
  refine (silent_localStep (by decide)).wp (fun _ => ?_) fun _ => hfail
  refine (silent_localStep (by decide)).wp (fun _ => ?_) fun _ => hfail
  refine (silent_localStep (by decide)).wp (fun _ => ?_) fun _ => hfail
  rw [wp_ensure]
  refine ⟨?_, fun _ => hfail⟩
  intro hopen
  have hopen : v.closed = false := by
    rw [hb.closed]
    simpa using hopen
  rw [wp_perform]
  intro streamed _
  refine ⟨⟨hopen, hb.sequence, hb.hasAccepted⟩, ?_⟩
  cases streamed with
  | failed error outputFailed =>
    simp only [wp_bind, wp_modify, wp_fail]
    refine ⟨⟨?_, hb.sequence, hb.operation, hb.job, hb.toTracks.accepted, hb.root⟩, hfail.bounded⟩
    show (v.closed || outputFailed) = outputFailed
    rw [hopen, Bool.false_or]
  | sent bytes =>
    -- sixteen frames at most, so the sequence number cannot wrap
    have hsucc : session.outputSequence.toNat + 1 < 2 ^ 64 := by
      have := hb.sequence
      have := hb.frames
      omega
    obtain ⟨hsome, hnat⟩ := checkedSucc_eq_some hsucc
    simp only [wp_bind, hsome, ofOption, wp_pure, wp_modify]
    have hbuilding : Building (n + 1) offered receipt
        { session with outputSequence := session.outputSequence + 1 }
        { v with attempted := true, frames := v.frames + 1 } :=
      ⟨⟨hb.closed, by rw [hnat, hb.sequence], hb.operation, hb.job, hb.toTracks.accepted, hb.root⟩,
        congrArg (· + 1) hb.frames, hb.hasAccepted, hb.offered, hb.receipt⟩
    have hfailing := hbuilding.failing hn
    refine silent_ensure.wp (fun _ => ?_) fun _ => hfailing
    exact (silent_localStep (by decide)).wp (fun _ => hbuilding) fun _ => hfailing

end

/-! ## Cleanup -/

theorem Tracks.root_removed {root : RootState} {guard : Option JobRootGuard}
    (ht : Tracks session v)
    (hguard : ∀ g, guard = some g → Guards g { v with root } ∧ v.confirmed = false) :
    Tracks { session with root := guard } { v with root } :=
  ⟨ht.closed, ht.sequence, ht.operation, ht.job, ht.accepted, hguard⟩

/-- A confirmed cleanup removed the root and gave up its guard; a failed one confirms
    nothing, and keeps a guard that may not be able to try again. -/
theorem wp_cleanupRoot {Q : CleanupConfirmation → Session → WorkerView → Prop}
    (ht : Tracks session v)
    (hQ : ∀ confirmation, session.jobId = some confirmation.jobId → Q confirmation { session with
      root := none } { v with root := .removed })
    (hE : ∀ failure guard root, (∀ g, guard = some g → Guards g { v with root } ∧ v.confirmed =
      false) → E failure { session with root := guard } { v with root }) :
    wp (workerContract rules) cleanupRoot Q E session v := by
  have hfail : ∀ failure, E failure session v :=
    fun failure => hE failure session.root v.root ht.root
  unfold cleanupRoot
  simp only [wp_bind, wp_get]
  rw [wp_ofOption]
  refine ⟨?_, fun _ => hfail _⟩
  intro jobId hjobId
  rw [wp_ofOption]
  refine ⟨?_, fun _ => hfail _⟩
  intro guard hguard
  obtain ⟨hguards, hconfirmed⟩ := ht.root guard hguard
  simp only [wp_modify]
  rw [wp_lift]
  -- the guard gives the root up only when the removal answered
  have hcleanup : wp (workerContract rules) JobRootGuard.cleanup
      (fun _ guard' v' => guard'.owned = false ∧ v' = { v with root := .removed })
      (fun _ guard' v' => ∃ root, v' = { v with root } ∧ Guards guard' { v with root })
      guard v := by
    refine wp_cleanup hguards hconfirmed ?_ ?_
    · intro guard' howned
      exact ⟨howned, rfl⟩
    · intro _ guard' root hguard'
      exact ⟨root, rfl, hguard'⟩
  refine Prog.wp_mono ?_ hcleanup
  rintro ⟨failure | u, guard'⟩ g hout
  · obtain ⟨root, rfl, hguard'⟩ := hout
    simp only [wp_bind, wp_modify, wp_fail]
    refine hE failure (some guard') root ?_
    rintro g ⟨⟩
    exact ⟨hguard', hconfirmed⟩
  · obtain ⟨howned, rfl⟩ := hout
    simp only [wp_bind]
    rw [wp_lift]
    refine wp_drop_of_not_owned howned ?_
    exact silent_clock.wp (fun now => hQ _ hjobId) fun _ => hE _ none .removed (by intro _ h; cases h)

/-! ## Phases of a run -/

theorem silent_readExpectedHeader {sequence : Option UInt64}
    {expected : DataPlane.WorkerDataPlaneFrameKind} :
    Silent (workerContract rules) (readExpectedHeader sequence expected) v := by
  unfold readExpectedHeader
  refine silent_bind (silent_perform fun _ => ⟨trivial, rfl⟩) ?_
  intro result
  cases result with
  | error failure => exact silent_fail
  | ok header =>
    dsimp only
    split
    · exact silent_fail
    · exact silent_bind silent_ensure fun _ => silent_pure

/-- Only the first payload of a session can be its build request. -/
theorem silent_readPayload (hstart : v.start.isSome) :
    Silent (workerContract rules) readPayload v := by
  unfold readPayload
  refine silent_bind (silent_perform ?_) ?_
  · intro result
    refine ⟨trivial, ?_⟩
    obtain ⟨start, hstart⟩ := Option.isSome_iff_exists.mp hstart
    cases result with
    | error failure => rfl
    | ok message =>
      cases message with
      | buildRequest start' =>
        show { v with start := v.start.or (some start') } = v
        rw [hstart, Option.some_or, ← hstart]
      | sourceDescriptor _ | sourceArchive _ | artifactReceipt _ | cancel => rfl
  · intro result
    cases result with
    | error failure => exact silent_fail
    | ok message => exact silent_pure

/-- Nothing has been written, and there is no job. -/
structure Fresh (session : Session) (v : WorkerView) : Prop
    extends Tracks session v, NoJob v where
  attempted : v.attempted = false
  frames : v.frames = 0
  noAccepted : v.accepted = none
  offered : v.offered = none
  receipt : v.receipt = none
  noRoot : session.root = none

/-- A fresh session may fail. -/
theorem Fresh.failing (hf : Fresh session v) : Failing session v :=
  ⟨hf.toTracks, by rw [hf.frames]; exact Nat.zero_le _⟩

/-- The request is the one whose build request was read. -/
theorem wp_receiveRequest (hf : Fresh session v) (hstart : v.start = none)
    (hoperation : session.operationId = none) :
    wp (workerContract rules) (receiveRequest rules)
      (fun out session' v' => Fresh session' v' ∧ v'.start.isSome ∧
        session'.operationId = some out.1.operationId)
      (fun _ => Failing) session v := by
  have hfail := hf.failing
  unfold receiveRequest
  simp only [wp_bind]
  refine (silent_localStep (by decide)).wp (fun _ => ?_) fun _ => hfail
  refine silent_readExpectedHeader.wp (fun header => ?_) fun _ => hfail
  unfold readPayload
  simp only [wp_bind]
  rw [wp_perform]
  intro result _
  refine ⟨trivial, ?_⟩
  cases result with
  | error failure => exact hfail
  | ok message =>
    cases message with
    | sourceDescriptor _ | sourceArchive _ | artifactReceipt _ | cancel => exact hfail
    | buildRequest start =>
      have hor : v.start.or (some start) = some start := by rw [hstart, Option.none_or]
      have hread : Fresh session { v with start := v.start.or (some start) } := by
        refine ⟨⟨hf.closed, hf.sequence, ?_, hf.job, hf.accepted, hf.root⟩,
          ⟨hf.hasJob, hf.directory, hf.untouched, hf.identity, hf.confirmed⟩, hf.attempted, hf.frames,
          hf.noAccepted, hf.offered, hf.receipt, hf.noRoot⟩
        intro hsome
        rw [hoperation] at hsome
        cases hsome
      simp only [wp_pure, wp_bind]
      refine silent_ensure.wp (fun _ => ?_) fun _ => hread.failing
      refine silent_ensure.wp (fun _ => ?_) fun _ => hread.failing
      simp only [wp_modify]
      -- from here on a failure names the operation
      have hnamed : Fresh { session with operationId := some start.parameters.operationId }
          { v with start := v.start.or (some start) } := by
        refine ⟨⟨hread.closed, hread.sequence, ?_, hread.job, ?_, hread.root⟩,
          hread.toNoJob, hread.attempted, hread.frames, hread.noAccepted, hread.offered,
          hread.receipt, hread.noRoot⟩
        · intro _
          show _ = (v.start.or (some start)).map _
          rw [hor]
          rfl
        · intro accepted haccepted
          cases hf.noAccepted.symm.trans haccepted
      have hsome : (v.start.or (some start)).isSome := by rw [hor]; rfl
      refine silent_readExpectedHeader.wp (fun header => ?_) fun _ => hnamed.failing
      refine silent_ensure.wp (fun _ => ?_) fun _ => hnamed.failing
      refine silent_ensure.wp (fun _ => ?_) fun _ => hnamed.failing
      refine (silent_readPayload hsome).wp (fun payload => ?_) fun _ => hnamed.failing
      refine silent_ensure.wp (fun _ => ?_) fun _ => hnamed.failing
      refine silent_ofOption.wp (fun descriptor => ?_) fun _ => hnamed.failing
      rw [wp_ofOption]
      refine ⟨?_, fun _ => hnamed.failing⟩
      intro request hrequest
      refine ⟨hnamed, hsome, ?_⟩
      show some _ = some _
      rw [operationId_of_reconstructRequest hrequest]

/-- The job exists, and nothing has been written. -/
structure Ready (operationId jobId : String) (session : Session) (v : WorkerView) : Prop
    extends Tracks session v where
  attempted : v.attempted = false
  frames : v.frames = 0
  noAccepted : v.accepted = none
  offered : v.offered = none
  receipt : v.receipt = none
  operationId_eq : session.operationId = some operationId
  jobId_eq : session.jobId = some jobId
  started : v.start.isSome

/-- So may one that is ready. -/
theorem Ready.failing (hr : Ready operationId jobId session v) :
    Failing session v :=
  ⟨hr.toTracks, by rw [hr.frames]; exact Nat.zero_le _⟩

/-- The root of the job is created. -/
theorem wp_createJobRoot (hf : Fresh session v)
    (hstart : v.start.isSome) (hoperation : session.operationId = some operationId) :
    wp (workerContract rules) createJobRoot (fun jobId => Ready operationId jobId)
      (fun _ => Failing) session v := by
  -- nothing was accepted before there is a job
  have hnone : ∀ {w : WorkerView} (accepted : SnapshotJobAccepted), w.accepted = v.accepted →
      w.accepted = some accepted → False := by
    intro w accepted hsame haccepted
    cases hf.noAccepted.symm.trans (hsame.symm.trans haccepted)
  unfold createJobRoot
  simp only [wp_bind]
  rw [wp_perform]
  intro uuid _
  refine ⟨trivial, ?_⟩
  show wp _ _ _ _ _ { v with jobId := some ("ssh-" ++ uuid) }
  refine wp_create ⟨hf.hasJob, hf.directory, hf.untouched, hf.identity, hf.confirmed⟩ ?_ ?_
  · intro guard directory identity hguards
    refine ⟨⟨hf.closed, hf.sequence, hf.operation, rfl, ?_, ?_⟩, hf.attempted, hf.frames,
      hf.noAccepted, hf.offered, hf.receipt, hoperation, rfl, hstart⟩
    · intro accepted haccepted
      exact (hnone accepted rfl haccepted).elim
    · rintro g ⟨⟩
      exact ⟨hguards, hf.confirmed⟩
  · intro failure directory identity root
    refine ⟨⟨hf.closed, hf.sequence, hf.operation, ?_, ?_, ?_⟩, hf.failing.bounded⟩
    · rw [hf.job]
      show (if v.hasJob then _ else _) = if v.hasJob then _ else _
      rw [hf.hasJob]
      rfl
    · intro accepted haccepted
      exact (hnone accepted rfl haccepted).elim
    · intro g hg
      rw [hf.noRoot] at hg
      cases hg

theorem silent_jobRoot : Silent (workerContract rules) jobRoot v :=
  silent_bind silent_get fun _ => silent_ofOption

theorem silent_verify :
    Silent (workerContract rules) (guard.verify : ProgM _ _ σ _ _) v :=
  silent_bind silent_ensure fun _ => silent_bind silent_ensure fun _ =>
    silent_bind silent_ensure fun _ => silent_localStep (by decide)

/-- Nothing that is observed happens while the source is received. -/
theorem silent_receiveSource {descriptor : SourceBundleDescriptor} {sequence : Option UInt64}
    (hstart : v.start.isSome) :
    Silent (workerContract rules) (receiveSource rules descriptor sequence) v := by
  have hreceive : Silent (workerContract rules) (receiveSourceArchive rules descriptor) v :=
    silent_bind (silent_localStep (by decide)) fun _ =>
      silent_bind (silent_readPayload hstart) fun _ =>
        silent_bind (silent_localStep (by decide)) fun _ => silent_ensure
  have hclone : ∀ guard : JobRootGuard,
      Silent (workerContract rules) (guard.cloneDirectoryHandle : WorkerM Unit) v :=
    fun guard => silent_bind silent_verify fun _ => silent_localStep (by decide)
  unfold receiveSource
  refine silent_bind silent_readExpectedHeader fun header => ?_
  refine silent_bind silent_ensure fun _ => ?_
  refine silent_bind silent_jobRoot fun root => ?_
  refine silent_bind silent_verify fun _ => ?_
  refine silent_bind hreceive fun _ => ?_
  refine silent_bind silent_jobRoot fun root => ?_
  refine silent_bind silent_verify fun _ => ?_
  refine silent_bind (hclone root) fun _ => ?_
  refine silent_bind (silent_localStep (by decide)) fun _ => ?_
  refine silent_bind (silent_localStep (by decide)) fun _ => ?_
  refine silent_bind silent_verify fun _ => ?_
  refine silent_bind (silent_localStep (by decide)) fun _ => ?_
  exact silent_bind (silent_perform fun _ => ⟨trivial, rfl⟩) fun _ => silent_ensure

/-- The acceptance is the first frame. -/
theorem wp_writeAccepted {accepted : SnapshotJobAccepted} (hr : Ready operationId jobId session v)
    (haccepted : accepted.operationId = operationId ∧ accepted.jobId = jobId) :
    wp (workerContract rules) (writeJson (.jobAccepted accepted))
      (fun _ => Building 1 none none) (fun _ => Failing) session v := by
  have hids : ∀ a, ServerMessage.jobAccepted accepted = .jobAccepted a →
      session.operationId = some a.operationId ∧ session.jobId = some a.jobId := by
    rintro a ⟨⟩
    rw [haccepted.1, haccepted.2]
    exact ⟨hr.operationId_eq, hr.jobId_eq⟩
  obtain ⟨hoperation, hjob⟩ := hids accepted rfl
  have hallows : v.AllowsMessage rules (.jobAccepted accepted) := by
    refine ⟨hr.attempted, hr.job.symm.trans hjob, ?_⟩
    rw [← hr.operation (by rw [hoperation]; rfl), hoperation]
  refine wp_writeJson hr.failing (fun _ => hallows) ?_ ?_ fun _ _ => hr.failing
  · intro hopen next hnext
    have hfailed : session.outputFailed = (v.write (.jobAccepted accepted) (.ok ())).closed := by
      rw [← hr.closed]
      simp [WorkerView.write, WorkerView.acknowledge, ServerMessage.isError]
    exact ⟨hr.toTracks.write hids (fun h => nomatch h) hnext hfailed,
      congrArg (· + 1) hr.frames, rfl, hr.offered, hr.receipt⟩
  · intro failure error hopen
    have hfailed : (error == .io) = (v.write (.jobAccepted accepted) (.error error)).closed := by
      simp [WorkerView.write, hopen, ServerMessage.isError]
    exact ⟨hr.toTracks.write hids (fun h => nomatch h) hr.sequence hfailed, hr.failing.bounded⟩

theorem wp_announceJob {descriptor : SourceBundleDescriptor}
    (hr : Ready request.operationId jobId session v) :
    wp (workerContract rules) (announceJob rules request descriptor jobId)
      (fun _ => Building 9 none none) (fun _ => Failing) session v := by
  unfold announceJob
  simp only [wp_bind]
  refine silent_clock.wp (fun now => ?_) fun _ => hr.failing
  rw [wp_ofOption]
  refine ⟨?_, fun _ => hr.failing⟩
  intro accepted haccepted
  refine wp_mono (wp_writeAccepted hr (accepted_of_new haccepted)) ?_ fun _ _ _ h => h
  intro _ session v hb
  simp only [← wp_bind]
  refine wp_emitProgress hb (by decide) rfl fun session v hb => ?_
  refine wp_emitProgress hb (by decide) rfl fun session v hb => ?_
  refine wp_emitProgress hb (by decide) rfl fun session v hb => ?_
  refine wp_emitProgress hb (by decide) rfl fun session v hb => ?_
  refine wp_emitProgress hb (by decide) rfl fun session v hb => ?_
  refine wp_emitProgress hb (by decide) rfl fun session v hb => ?_
  refine wp_emitProgress hb (by decide) rfl fun session v hb => ?_
  refine wp_emitProgress hb (by decide) rfl fun session v hb => ?_
  exact wp_mono (wp_flushBuilding hb (by decide)) (fun _ _ _ h => h.1) fun _ _ _ h => h

theorem silent_compileArchive {workerRoot : String} :
    Silent (workerContract rules) (compileArchive rules workerRoot request jobId) v := by
  have hcancelled : Silent (workerContract rules) cancellationFailure v := by
    refine silent_bind (silent_perform fun _ => ⟨trivial, rfl⟩) ?_
    intro control
    split
    · exact silent_pure
    · exact silent_pure
  have hvalidate : ∀ output, Silent (workerContract rules)
      (validateCompileOutput rules workerRoot request jobId output) v :=
    fun output => silent_bind silent_ensure fun _ => silent_bind silent_ofOption fun _ =>
      silent_ensure
  unfold compileArchive
  refine silent_bind (silent_perform fun _ => ⟨trivial, rfl⟩) fun compiled => ?_
  refine silent_bind (silent_perform fun _ => ⟨trivial, rfl⟩) fun cancelled => ?_
  cases cancelled with
  | true => exact silent_bind hcancelled fun _ => silent_fail
  | false =>
    cases compiled with
    | error error => exact silent_fail
    | ok output => exact silent_bind (hvalidate output) fun _ => silent_pure

/-- The artifact is offered. -/
theorem wp_offerArtifact {output : SnapshotCompileOutput}
    (hb : Building 9 none none session v) :
    wp (workerContract rules) (offerArtifact rules request output)
      (fun descriptor => Building 13 (some descriptor) none) (fun _ => Failing) session v := by
  unfold offerArtifact
  refine wp_bind.mpr (silent_ofOption.wp (fun descriptor => ?_) fun _ => hb.failing (by decide))
  refine wp_emitProgress hb (by decide) rfl fun session v hb => ?_
  refine wp_emitProgress hb (by decide) rfl fun session v hb => ?_
  rw [wp_bind]
  refine wp_mono (wp_writeBuilding hb (by decide) rfl ?_ ?_ ?_) ?_ fun _ _ _ h => h
  · intro _ h
    cases h
  · intro h
    cases h
  · exact hb.hasAccepted
  · rintro _ session v ⟨hb, -⟩
    rw [wp_bind]
    exact wp_mono (wp_streamArtifact hb (by decide)) (fun _ _ _ h => h) fun _ _ _ h => h

/-- A receipt that is acted on is the receipt of the offered artifact. -/
theorem wp_awaitReceipt (hb : Building 13 (some descriptor) none session v) :
    wp (workerContract rules) (awaitReceipt rules descriptor)
      (fun _ session' v' => ∃ receipt, receipt.validateFor rules descriptor = .ok () ∧
        Building 13 (some descriptor) (some receipt) session' v')
      (fun _ => Failing) session v := by
  unfold awaitReceipt
  simp only [wp_bind]
  rw [wp_perform]
  intro _ _
  refine ⟨trivial, ?_⟩
  refine wp_mono (wp_flushBuilding hb (by decide)) ?_ fun _ _ _ h => h
  rintro _ session v ⟨hb, -⟩
  have hfail := hb.failing (by decide)
  unfold waitForReceipt
  simp only [wp_bind]
  rw [wp_perform]
  intro received _
  refine ⟨trivial, ?_⟩
  cases received with
  | error failure => cases failure <;> exact hfail
  | ok control =>
    cases control with
    | cancelled | disconnected | failure _ => exact hfail
    | receipt payload =>
      cases payload with
      | buildRequest _ | sourceDescriptor _ | sourceArchive _ | cancel => exact hfail
      | artifactReceipt receipt =>
        -- the one answer with which the session goes on
        have hreceived : Building 13 (some descriptor) (some receipt) session
            { v with receipt := some receipt } :=
          ⟨⟨hb.closed, hb.sequence, hb.operation, hb.job, hb.toTracks.accepted, hb.root⟩,
            hb.frames, hb.hasAccepted, hb.offered, rfl⟩
        simp only [wp_pure, wp_ensure]
        refine ⟨?_, fun _ => hreceived.failing (by decide)⟩
        intro hvalid
        obtain ⟨u, hvalid⟩ := Except.exists_eq_ok_of_toBool hvalid
        exact ⟨receipt, hvalid, hreceived⟩

/-- The session ends with success. -/
theorem wp_finishSuccess {receipt : SnapshotArtifactReceipt}
    (hvalid : receipt.validateFor rules descriptor = .ok ())
    (hb : Building 13 (some descriptor) (some receipt) session v) :
    wp (workerContract rules) (finishSuccess rules request) (fun _ => Failing) (fun _ => Failing)
      session v := by
  unfold finishSuccess
  refine wp_emitProgress hb (by decide) rfl fun session v hb => ?_
  rw [wp_bind]
  refine wp_cleanupRoot hb.toTracks ?_ ?_
  · intro confirmation _
    have hcleaned : Building 14 (some descriptor) (some receipt) { session with root := none }
        { v with root := .removed } :=
      ⟨hb.toTracks.root_removed (fun _ h => nomatch h), hb.frames, hb.hasAccepted, hb.offered,
        hb.receipt⟩
    rw [wp_bind]
    refine wp_mono (wp_emitEvent hcleaned (by decide) fun _ => ⟨rfl, rfl⟩) ?_ fun _ _ _ h => h
    rintro _ session v ⟨hb, hroot, hremoved⟩
    refine wp_bind.mpr (silent_ofOption.wp (fun complete => ?_) fun _ => hb.failing (by decide))
    rw [wp_bind]
    refine wp_mono (wp_writeBuilding hb (by decide) rfl ?_ (fun _ => hroot) ?_) ?_ fun _ _ _ h => h
    · intro _ h
      cases h
    · exact ⟨hb.hasAccepted, hremoved, descriptor, receipt, hb.offered, hb.receipt, hvalid⟩
    · rintro _ session v ⟨hb, -⟩
      exact wp_mono (wp_flushBuilding hb (by decide)) (fun _ _ _ h => h.1.failing (by decide))
        fun _ _ _ h => h
  · intro failure guard root hguard
    exact ⟨hb.toTracks.root_removed hguard, hb.frames.le.trans (by decide)⟩

/-! ## Whole sessions -/

/-- The session, until it ends or fails. -/
theorem wp_run (workerRoot : String) :
    wp (workerContract rules) (Session.run rules workerRoot) (fun _ => Failing) (fun _ => Failing)
      Session.new WorkerView.init := by
  have hfresh : Fresh Session.new WorkerView.init := by
    refine ⟨⟨rfl, rfl, ?_, rfl, ?_, ?_⟩, ⟨rfl, rfl, rfl, rfl, rfl⟩, rfl, rfl, rfl, rfl, rfl, rfl⟩
    · intro h
      cases h
    · intro _ h
      cases h
    · intro _ h
      cases h
  unfold Session.run
  rw [wp_bind]
  refine wp_mono (wp_receiveRequest hfresh rfl rfl) ?_ fun _ _ _ h => h
  rintro ⟨request, descriptor, sequence⟩ session v ⟨hfresh, hstart, hoperation⟩
  rw [wp_bind]
  refine wp_mono (wp_createJobRoot hfresh hstart hoperation) ?_ fun _ _ _ h => h
  intro jobId session v hready
  refine wp_bind.mpr
    ((silent_receiveSource hready.started).wp (fun _ => ?_) fun _ => hready.failing)
  rw [wp_bind]
  refine wp_mono (wp_announceJob hready) ?_ fun _ _ _ h => h
  intro _ session v hb
  refine wp_bind.mpr (silent_compileArchive.wp (fun output => ?_) fun _ => hb.failing (by decide))
  rw [wp_bind]
  refine wp_mono (wp_offerArtifact hb) ?_ fun _ _ _ h => h
  intro artifact session v hb
  rw [wp_bind]
  refine wp_mono (wp_awaitReceipt hb) ?_ fun _ _ _ h => h
  rintro _ session v ⟨receipt, hvalid, hb⟩
  exact wp_finishSuccess hvalid hb

/-- The guard that a finished session drops. -/
def Leaves (session : Session) (v : WorkerView) : Prop :=
  ∀ guard, session.root = some guard → Guards guard v ∧ v.confirmed = false

/-- The report of a failure, after its cleanup. -/
theorem wp_reportFailure {cleanup : Option CleanupConfirmation} (hf : Failing session v)
    (hcleanup : cleanup.isSome → session.root = none ∧ v.root = .removed) :
    wp (workerContract rules) (reportFailure failure cleanup) (fun _ => Leaves) (fun _ => Leaves)
      session v := by
  unfold reportFailure
  simp only [wp_bind, wp_get]
  rw [wp_ofOption]
  refine ⟨?_, fun _ => hf.root⟩
  intro error herror
  obtain ⟨hvalid, hversion, hoperation, hjob, rfl⟩ := error_of_new herror
  have hallows : v.AllowsMessage rules (.error error) := by
    refine ⟨hvalid, hversion, ?_, hjob.trans hf.job, ?_, fun h => (hcleanup h).2⟩
    · intro hsome
      rw [hoperation] at hsome ⊢
      exact hf.operation hsome
    · intro accepted haccepted
      obtain ⟨h1, h2⟩ := hf.accepted accepted haccepted
      exact ⟨hoperation.trans h1, hjob.trans h2⟩
  -- a guard is only left behind when nothing was confirmed
  have hleaves : ∀ {outputFailed : Bool} {next : UInt64}
      (result : Except DataPlane.WorkerDataPlaneFrameError Unit),
      Leaves { session with outputSequence := next, outputFailed }
        (v.write (.error error) result) := by
    intro outputFailed next result guard hguard
    have hroot : session.root = some guard := hguard
    have hnone : error.cleanup.isSome = false := by
      cases hc : error.cleanup.isSome with
      | false => rfl
      | true => cases (hcleanup hc).1.symm.trans hroot
    obtain ⟨hguards, hconfirmed⟩ := hf.root guard hroot
    have hsame : (v.write (.error error) result).confirmed = false := by
      cases result <;>
        simp [WorkerView.write, WorkerView.acknowledge, ServerMessage.confirmsCleanup, hconfirmed,
          hnone]
    cases result <;> exact ⟨hguards, hsame⟩
  rw [wp_attempt]
  refine wp_writeJson hf (fun _ => hallows) ?_ ?_ ?_
  · intro hopen next hnext
    refine silent_ensure.wp (fun _ => ?_) fun _ => hleaves _
    rw [wp_attempt]
    refine wp_flushOutput ?_ ?_ ?_
    · exact silent_ensure.wp (fun _ => hleaves _) fun _ => hleaves _
    · intro _
      have hclosed : Leaves { session with outputSequence := next, outputFailed := true }
          { v.write (.error error) (.ok ()) with closed := true } :=
        hleaves (.ok ())
      exact silent_ensure.wp (fun _ => hclosed) fun _ => hclosed
    · intro _ _
      exact silent_ensure.wp (fun _ => hleaves _) fun _ => hleaves _
  · intro _ e _
    rw [wp_ensure]
    exact ⟨(by intro h; cases h), fun _ => hleaves _⟩
  · intro _ _
    rw [wp_ensure]
    exact ⟨(by intro h; cases h), fun _ => hf.root⟩

/-- A failure is reported. -/
theorem wp_finishFailure (hf : Failing session v) :
    wp (workerContract rules) (Session.finishFailure failure) (fun _ => Leaves) (fun _ => Leaves)
      session v := by
  unfold Session.finishFailure
  simp only [wp_bind, wp_get]
  split
  · rw [wp_bind, wp_attempt]
    refine wp_cleanupRoot hf.toTracks ?_ ?_
    · intro confirmation _
      have hcleaned : Tracks { session with root := none } { v with root := .removed } :=
        hf.toTracks.root_removed (by intro _ h; cases h)
      exact wp_reportFailure ⟨hcleaned, hf.bounded⟩ fun _ => ⟨rfl, rfl⟩
    · intro _ guard root hguard
      refine wp_reportFailure ⟨hf.toTracks.root_removed hguard, hf.bounded⟩ ?_
      intro h
      cases h
  · refine wp_reportFailure hf ?_
    intro h
    cases h

/-- Whatever its operations answer, a worker session does only what its view allows. -/
theorem wp_serveSnapshotSession (rules : SessionRules) (workerRoot : String) :
    (serveSnapshotSession rules workerRoot).wp (workerContract rules) (fun _ _ => True)
      WorkerView.init := by
  have hdrop : ∀ (result : Except SnapshotSessionServeError Unit) (session : Session)
      (v : WorkerView), Leaves session v →
      ((dropRoot session).bind fun _ => .ret result).wp (workerContract rules) (fun _ _ => True)
        v := by
    intro result session v hleaves
    rw [Prog.wp_bind]
    unfold dropRoot
    cases hroot : session.root with
    | none => exact trivial
    | some guard =>
      obtain ⟨hguards, hconfirmed⟩ := hleaves guard hroot
      exact wp_drop hguards hconfirmed fun _ => trivial
  unfold serveSnapshotSession
  rw [Prog.wp_bind]
  refine Prog.wp_mono ?_ (wp_run workerRoot)
  rintro ⟨failure | u, session⟩ v hf
  · rw [Prog.wp_bind]
    refine Prog.wp_mono ?_ (wp_finishFailure hf)
    rintro ⟨e | u, session⟩ v hleaves <;> exact hdrop _ session v hleaves
  · exact hdrop (.ok ()) session v hf.root

end RustFerry.Snapshot
