import RustFerry.ForStd.ProgFrame
import RustFerry.Spec.WorkerJobEvents

/-!
# What a run of a worker job has done

The events of a run are summed up by a `JobView`, and `jobContract` says what the engine
guarantees of each operation, relative to the view before it: which hook may be called when,
and which event may be built and sent. Nothing is assumed of the answers.
-/

namespace RustFerry.Worker

open Remote Serde Artifact ProgM
open DataPlane.WorkerDataPlaneSequence (checkedSucc)

/-! ## View -/

/-- Position of a phase in a job. -/
def WorkerJobPhase.rank : WorkerJobPhase → Nat
  | .accepted => 0
  | .sourceVerification => 1
  | .build => 2
  | .sign => 3
  | .exporting => 4
  | .validate => 5
  | .cleanup => 6
  | .complete => 7

/-- The event ends the job. -/
def isTerminalKind : RemoteBuildEventKind → Bool
  | .operationFinished .. | .operationCancelled .. => true
  | _ => false

def isPhaseStarted : RemoteBuildEventKind → Bool
  | .phaseStarted _ => true
  | _ => false

/-- The phases that the events have started. -/
def startedPhases (events : List RemoteBuildEvent) : List String :=
  (events.filter fun event => isPhaseStarted event.kind).map (·.phase)

/-- The manifests of a validation hook are accepted as evidence for the exported candidates, as
    far as no file has to be read. -/
def evidenceHolds (job : WorkerJobManifest) (exported : WorkerExportOutput)
    (manifests : List ArtifactManifest) : Bool :=
  acceptsManifests job exported manifests &&
    exported.candidates.all fun candidate => (candidateRecord manifests candidate).isSome

/-- A run so far: the answer of the identity check before cleanup (`root`), the calls of the
    cleanup hook, whether a cancellation was observed (`cancelled`), the phases whose hook
    succeeded (`done`), whether the manifests of the validation hook hold as evidence, whether a
    file did not match its record (`rejected`), whether a sink, a clock or the job root failed the engine (`disturbed`), the latest reading of the monotonic
    clock, the events handed to the sink, latest first, and the paths that were found absent
    since the cleanup hook was called. -/
structure JobView where
  root : Option Bool
  cleanups : Nat
  cancelled : Bool
  done : List WorkerJobPhase
  evidence : Option Bool
  rejected : Bool
  disturbed : Bool
  clock : UInt64
  events : List RemoteBuildEvent
  absent : List JobPath

namespace JobView

def init : JobView where
  root := none
  cleanups := 0
  cancelled := false
  done := []
  evidence := none
  rejected := false
  disturbed := false
  clock := 0
  events := []
  absent := []

/-- The hook of a phase has answered. -/
def settle {α : Type} (v : JobView) (phase : WorkerJobPhase) : HookResult α → JobView
  | .ok _ => { v with done := phase :: v.done }
  | .error _ => v

/-- The validation hook has answered. -/
def judge (job : WorkerJobManifest) (exported : WorkerExportOutput) (v : JobView) :
    HookResult WorkerValidationOutput → JobView
  | .ok output => { v with
      done := .validate :: v.done
      evidence := some (evidenceHolds job exported output.manifests) }
  | .error _ => v

def next (job : WorkerJobManifest) (v : JobView) : (op : JobOp) → JobRes op → JobView
  | .verifyRoot .cleanup, bound =>
    { v with root := some bound, disturbed := v.disturbed || !bound }
  | .verifyRoot .checkpoint, bound => { v with disturbed := v.disturbed || !bound }
  | .symlinkMetadata path, metadata =>
    if metadata = .notFound then { v with absent := path :: v.absent } else v
  | .monotonicTimeMs, now =>
    { v with clock := max now v.clock, disturbed := v.disturbed || now < v.clock }
  | .isCancelled, cancelled => { v with cancelled := v.cancelled || cancelled }
  | .emit event, accepted =>
    { v with events := event :: v.events, disturbed := v.disturbed || !accepted.toBool }
  | .verifyDownloadedFile .., verified => { v with rejected := v.rejected || !verified }
  | .materializeGitSource .., result => v.settle .sourceVerification result
  | .build _, result => v.settle .build result
  | .sign .., result => v.settle .sign result
  | .exportArtifacts .., result => v.settle .exporting result
  | .validate _ _ _ exported, result => v.judge job exported result
  | .cleanup _, _ => { v with cleanups := v.cleanups + 1, absent := [] }
  | _, _ => v

/-- An event may be handed to the sink: it is the next one, the first one starts the job, none
    follows a terminal one, and none starts a phase again. -/
structure AllowsEvent (v : JobView) (event : RemoteBuildEvent) : Prop where
  sequence : event.sequence.toNat = v.events.length + 1
  first : v.events = [] ↔ event.kind = .operationStarted "worker.ios_device_build"
  live : ∀ earlier ∈ v.events, isTerminalKind earlier.kind = false
  phase : isPhaseStarted event.kind = true → event.phase ∉ startedPhases v.events

/-- The hooks of the pipeline run before cleanup, and only while no cancellation has been
    observed. -/
def AllowsHook (v : JobView) : Prop := v.cancelled = false ∧ v.root = none ∧ v.cleanups = 0

/-- When an operation may be performed. -/
def Allows (tools : RequestTools) (v : JobView) : JobOp → Prop
  | .verifyRoot .cleanup => v.root = none
  | .newEvent event => event.validate (eventUrl tools) = .ok ()
  | .emit event => v.AllowsEvent event
  | .materializeGitSource .. | .build _ | .sign .. | .exportArtifacts .. | .validate .. =>
    v.AllowsHook
  | .cleanup _ => v.root = some true ∧ v.cleanups = 0
  | _ => True

/-- Why a run may fail: the validation hook has not succeeded, its manifests do not hold as
    evidence or a file did not match, a cancellation was observed, or a sink, a clock or the job
    root failed the engine. -/
def Excused (v : JobView) : Prop :=
  .validate ∉ v.done ∨ v.evidence = some false ∨ v.rejected = true ∨ v.cancelled = true ∨
    v.disturbed = true

/-- Nothing has happened but checks of files and of the job root. -/
structure Checks (v v' : JobView) : Prop where
  root : v'.root = v.root
  cleanups : v'.cleanups = v.cleanups
  cancelled : v'.cancelled = v.cancelled
  done : v'.done = v.done
  evidence : v'.evidence = v.evidence
  rejected : v'.rejected = v.rejected
  clock : v'.clock = v.clock
  events : v'.events = v.events
  disturbed : v.disturbed = true → v'.disturbed = true
  absent : v.absent ⊆ v'.absent

instance : Std.Refl Checks where
  refl _ := ⟨rfl, rfl, rfl, rfl, rfl, rfl, rfl, rfl, id, List.Subset.refl _⟩

theorem checks_trans {a b c : JobView} (h : Checks a b) (h' : Checks b c) : Checks a c where
  root := h'.root.trans h.root
  cleanups := h'.cleanups.trans h.cleanups
  cancelled := h'.cancelled.trans h.cancelled
  done := h'.done.trans h.done
  evidence := h'.evidence.trans h.evidence
  rejected := h'.rejected.trans h.rejected
  clock := h'.clock.trans h.clock
  events := h'.events.trans h.events
  disturbed := fun hd => h'.disturbed (h.disturbed hd)
  absent := fun _ hp => h'.absent (h.absent hp)

instance : IsTrans JobView Checks := ⟨fun _ _ _ => checks_trans⟩

end JobView

/-- The contract that the engine keeps. -/
def jobContract (tools : RequestTools) (job : WorkerJobManifest) : Contract JobOp JobRes JobView where
  next := JobView.next job
  assume _ _ _ := True
  guarantee v op _ := v.Allows tools op

/-! ## Checks of files -/

section

variable {tools : RequestTools} {job : WorkerJobManifest}

/-- Whatever the checks find, neither the runner nor what the view says of hooks and events
    changes. -/
abbrev Quiet (tools : RequestTools) (job : WorkerJobManifest) {α : Type} (x : JobM α) : Prop :=
  Within (jobContract tools job) JobView.Checks x

theorem quiet_verifyRoot : Quiet tools job (verifyRoot .checkpoint) := by
  apply within_bind
  · apply within_perform
    intro v bound
    exact ⟨trivial, rfl, rfl, rfl, rfl, rfl, rfl, rfl, rfl,
      fun h => by simp [jobContract, JobView.next, h], List.Subset.refl _⟩
  · exact fun _ => within_ensure

theorem quiet_symlinkMetadata (path : JobPath) :
    Quiet tools job (call (.symlinkMetadata path)) := by
  apply within_perform
  intro v metadata
  refine ⟨trivial, ?_⟩
  show JobView.Checks v (if metadata = .notFound then { v with absent := path :: v.absent } else v)
  split
  · exact ⟨rfl, rfl, rfl, rfl, rfl, rfl, rfl, rfl, id, List.subset_cons_self _ _⟩
  · exact Std.Refl.refl v

/-- Operations that the view does not see. -/
theorem quiet_call {op : JobOp} (hallows : ∀ v : JobView, v.Allows tools op)
    (hnext : ∀ (v : JobView) r, v.next job op r = v) : Quiet tools job (call op) := by
  apply within_perform
  intro v r
  refine ⟨hallows v, ?_⟩
  show JobView.Checks v (v.next job op r)
  rw [hnext]
  exact Std.Refl.refl v

theorem quiet_requireCanonical (path : JobPath) (error : WorkerJobError) :
    Quiet tools job (requireCanonical path error) :=
  within_bind (quiet_call (fun _ => trivial) fun _ _ => rfl) fun _ => within_ensure

theorem quiet_validateBoundDirectory (directory : JobPath) (error : WorkerJobError) :
    Quiet tools job (validateBoundDirectory directory error) :=
  within_bind within_ensure fun _ =>
  within_bind (quiet_symlinkMetadata directory) fun _ =>
  within_bind within_ensure fun _ =>
  within_bind (quiet_requireCanonical directory error) fun _ => quiet_verifyRoot

theorem quiet_validateFile (path : JobPath) (belowError error : WorkerJobError) :
    Quiet tools job (validateFile path belowError error) :=
  within_bind within_ensure fun _ =>
  within_bind (quiet_symlinkMetadata path) fun _ =>
  within_bind within_ensure fun _ =>
  within_bind (quiet_requireCanonical path error) fun _ => quiet_verifyRoot

theorem quiet_requirePathAbsent (path : JobPath) (error : WorkerJobError) :
    Quiet tools job (requirePathAbsent path error) :=
  within_bind (quiet_symlinkMetadata path) fun _ => within_ensure

theorem quiet_removeVerifiedInputFile (path : JobPath) :
    Quiet tools job (removeVerifiedInputFile path) :=
  within_bind (quiet_validateFile _ _ _) fun _ =>
  within_bind (quiet_call (fun _ => trivial) fun _ _ => rfl) fun _ =>
  within_bind within_ensure fun _ =>
  within_bind (quiet_requirePathAbsent _ _) fun _ => quiet_verifyRoot

theorem quiet_createOwnedDirectory (directory : JobPath) :
    Quiet tools job (createOwnedDirectory directory) :=
  within_bind (quiet_call (fun _ => trivial) fun _ _ => rfl) fun _ =>
  within_bind within_ensure fun _ => quiet_validateBoundDirectory _ _

theorem quiet_prepareOwnedComponent (current : JobPath) :
    Quiet tools job (prepareOwnedComponent current) := by
  apply within_bind (quiet_symlinkMetadata current)
  intro metadata
  cases metadata with
  | directory => exact quiet_validateBoundDirectory _ _
  | notFound => exact within_bind quiet_verifyRoot fun _ => quiet_createOwnedDirectory _
  | failed | file | other => exact within_fail

theorem quiet_prepareOwnedDirectory (directory : JobPath) :
    Quiet tools job (prepareOwnedDirectory directory) :=
  within_bind within_ensure fun _ =>
  within_bind (within_forM quiet_prepareOwnedComponent) fun _ => quiet_validateBoundDirectory _ _

theorem quiet_prepareParentForFreshDirectory (destination : JobPath) :
    Quiet tools job (prepareParentForFreshDirectory destination) := by
  apply within_bind within_ensure
  intro _
  apply within_bind (quiet_requirePathAbsent _ _)
  intro _
  split
  · exact within_bind (quiet_prepareOwnedDirectory _) fun _ => quiet_verifyRoot
  · exact quiet_verifyRoot

theorem quiet_prepareFreshDirectory (directory : JobPath) :
    Quiet tools job (prepareFreshDirectory directory) :=
  within_bind (quiet_prepareParentForFreshDirectory _) fun _ =>
  within_bind quiet_verifyRoot fun _ => quiet_createOwnedDirectory _

theorem quiet_validateProjectDirectory (sourceDirectory projectDirectory : JobPath) :
    Quiet tools job (validateProjectDirectory sourceDirectory projectDirectory) :=
  within_bind within_ensure fun _ =>
  within_bind within_ensure fun _ =>
  within_bind (quiet_validateBoundDirectory _ _) fun _ => quiet_validateBoundDirectory _ _

theorem quiet_prepareFixedDirectories : Quiet tools job (prepareFixedDirectories job) :=
  within_bind quiet_verifyRoot fun _ =>
  within_bind (quiet_prepareParentForFreshDirectory _) fun _ =>
  within_bind (quiet_prepareOwnedDirectory _) fun _ => quiet_verifyRoot

theorem quiet_requireArtifacts (artifactsRetained : Bool) :
    Quiet tools job (requireArtifacts job artifactsRetained) := by
  unfold requireArtifacts
  split
  · exact quiet_validateBoundDirectory _ _
  · exact quiet_requirePathAbsent _ _

end

end RustFerry.Worker
