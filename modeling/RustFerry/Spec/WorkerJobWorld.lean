import RustFerry.Spec.WorkerJobReport

/-!
# A job whose environment cooperates

A disk that keeps what is created on it, hooks that succeed, and a sink that refuses some kinds
of events. In this environment the steps of a job are known exactly. It shows that a job may
fail although everything that it was asked to do has succeeded: the sink decides as well.
-/

namespace RustFerry.Worker

open Remote Serde Artifact ProgM Except

section

variable {e : WorkerJobError} {path : JobPath}

/-! ## Environment -/

/-- The directories and files below the job root. -/
structure Disk where
  directories : List JobPath
  files : List JobPath

/-- What the hooks answer, which directories the cleanup hook removes, and which events the sink
refuses. -/
structure Hooks where
  build : WorkerBuildOutput
  exported : WorkerExportOutput
  validated : WorkerValidationOutput
  confirmation : CleanupConfirmation
  removed : List JobPath
  refused : RemoteBuildEventKind → Bool
  failure : WorkerHookFailure

namespace Disk

local instance : LawfulBEq JobPath := inferInstance

/-- The answers: nothing fails, and the clocks stand still. -/
def answer (hooks : Hooks) (disk : Disk) : (op : JobOp) → JobRes op
  | .openRoot _ | .verifyRoot _ | .createDir _ | .removeFile _ | .verifyMaterializedBundle ..
  | .verifyDownloadedFile .. => true
  | .symlinkMetadata path =>
    if path ∈ disk.directories then .directory
    else if path ∈ disk.files then .file
    else .notFound
  | .canonicalize path => some (.below path)
  | .unixTimeMs => 1
  | .monotonicTimeMs => 0
  | .isCancelled => false
  | .newEvent _ => ()
  | .emit event => if hooks.refused event.kind then .error hooks.failure else .ok ()
  | .verifyAndExtractSourceBundle _ archive _ _ => some archive
  | .materializeGitSource .. => .ok ()
  | .build _ => .ok hooks.build
  | .sign .. => .error hooks.failure
  | .exportArtifacts .. => .ok hooks.exported
  | .validate .. => .ok hooks.validated
  | .cleanup _ => .ok hooks.confirmation

/-- What the operations leave on the disk. -/
def next (hooks : Hooks) (disk : Disk) : (op : JobOp) → JobRes op → Disk
  | .createDir path, _ => { disk with directories := path :: disk.directories }
  | .materializeGitSource _ _ _ destination, _ =>
    { disk with directories := destination :: disk.directories }
  | .build _, _ => { disk with directories :=
      hooks.build.archivePath.resolve :: hooks.build.appPath.resolve :: disk.directories }
  | .exportArtifacts .., _ =>
    { disk with files := hooks.exported.candidates.map (·.path.resolve) ++ disk.files }
  | .cleanup _, _ => { disk with directories := disk.directories.filter (· ∉ hooks.removed) }
  | _, _ => disk

end Disk

def worldContract (hooks : Hooks) : Contract JobOp JobRes Disk where
  next := Disk.next hooks
  assume disk op r := r = disk.answer hooks op
  guarantee _ _ _ := True

section

variable {tools : RequestTools} {job : WorkerJobManifest} {hooks : Hooks} {s : WorkerJobRunner}
  {disk : Disk} {E : WorkerJobError → WorkerJobRunner → Disk → Prop}

/-! ## Exact steps -/

/-- A call is answered by the disk. -/
theorem wp_call_world {op : JobOp} {Q : JobRes op → WorkerJobRunner → Disk → Prop}
    (hQ : Q (disk.answer hooks op) s (disk.next hooks op (disk.answer hooks op))) :
    wp (worldContract hooks) (call op) Q E s disk := by
  intro r hr
  rw [show r = disk.answer hooks op from hr]
  exact ⟨trivial, hQ⟩

variable {Q : Unit → WorkerJobRunner → Disk → Prop}

theorem wp_ensure_world {b : Bool} (hb : b = true) (hQ : Q () s disk) :
    wp (worldContract hooks) (ensure b e) Q E s disk := by
  rw [hb]
  exact hQ

/-- A loop with one iteration. -/
theorem wp_forM_one {α : Type} {f : α → JobM PUnit} {a : α}
    {Q : PUnit → WorkerJobRunner → Disk → Prop}
    (hQ : wp (worldContract hooks) (f a) Q E s disk) :
    wp (worldContract hooks) ([a].forM f) Q E s disk := by
  show wp (worldContract hooks) (f a >>= fun _ => pure PUnit.unit) Q E s disk
  rw [wp_bind]
  exact hQ

theorem wp_verifyRoot_world {site : RootCheck} (hQ : Q () s disk) :
    wp (worldContract hooks) (verifyRoot site) Q E s disk := by
  simp only [verifyRoot, wp_bind]
  exact wp_call_world (wp_ensure_world rfl hQ)

theorem wp_checkCancelled_world (hQ : Q () s disk) :
    wp (worldContract hooks) checkCancelled Q E s disk := by
  simp only [checkCancelled, wp_bind]
  exact wp_call_world (wp_ensure_world rfl hQ)

theorem wp_requirePathAbsent_world (hdirectory : path ∉ disk.directories)
    (hfile : path ∉ disk.files) (hQ : Q () s disk) :
    wp (worldContract hooks) (requirePathAbsent path e) Q E s disk := by
  simp only [requirePathAbsent, wp_bind]
  apply wp_call_world
  apply wp_ensure_world _ hQ
  simp [Disk.answer, hdirectory, hfile]

/-- The directory is there. -/
theorem wp_validateBoundDirectory_world (hpath : path ≠ []) (hdirectory : path ∈ disk.directories)
    (hQ : Q () s disk) :
    wp (worldContract hooks) (validateBoundDirectory path e) Q E s disk := by
  simp only [validateBoundDirectory, ensureLexicallyBelow, requireCanonical, wp_bind]
  apply wp_ensure_world (by simp [hpath])
  apply wp_call_world
  apply wp_ensure_world (by simp [Disk.answer, hdirectory])
  apply wp_call_world
  exact wp_ensure_world (by simp [Disk.answer]) (wp_verifyRoot_world hQ)

theorem wp_validateFile_world {e' : WorkerJobError} (hpath : path ≠ [])
    (hdirectory : path ∉ disk.directories) (hfile : path ∈ disk.files) (hQ : Q () s disk) :
    wp (worldContract hooks) (validateFile path e e') Q E s disk := by
  simp only [validateFile, ensureLexicallyBelow, requireCanonical, wp_bind]
  apply wp_ensure_world (by simp [hpath])
  apply wp_call_world
  apply wp_ensure_world (by simp [Disk.answer, hdirectory, hfile])
  apply wp_call_world
  exact wp_ensure_world (by simp [Disk.answer]) (wp_verifyRoot_world hQ)

/-- The directory is created. -/
theorem wp_createOwnedDirectory_world (hpath : path ≠ [])
    (hQ : Q () s { disk with directories := path :: disk.directories }) :
    wp (worldContract hooks) (createOwnedDirectory path) Q E s disk := by
  simp only [createOwnedDirectory, wp_bind]
  apply wp_call_world
  apply wp_ensure_world rfl
  exact wp_validateBoundDirectory_world hpath List.mem_cons_self hQ

/-- A directory directly below the job root. -/
theorem wp_prepareFreshDirectory_world {name : String} (hdirectory : [name] ∉ disk.directories)
    (hfile : [name] ∉ disk.files)
    (hQ : Q () s { disk with directories := [name] :: disk.directories }) :
    wp (worldContract hooks) (prepareFreshDirectory [name]) Q E s disk := by
  simp only [prepareFreshDirectory, prepareParentForFreshDirectory, ensureLexicallyBelow, wp_bind]
  apply wp_ensure_world rfl
  apply wp_requirePathAbsent_world hdirectory hfile
  exact wp_verifyRoot_world (wp_verifyRoot_world
    (wp_createOwnedDirectory_world (List.cons_ne_nil _ _) hQ))

/-- The runner after an event. -/
def WorkerJobRunner.sent (s : WorkerJobRunner) : WorkerJobRunner :=
  { s with state := { s.state with sequence := s.state.sequence + 1 }.touch 1 }

/-- The event is sent, or refused. -/
theorem wp_emit_world {kind : RemoteBuildEventKind} (hjob : job.validate tools = .ok ())
    (hsequence : s.state.sequence.toNat + 1 < 2 ^ 64) (hsafe : SafeKind tools kind)
    (hQ : if hooks.refused kind then E (.eventSink hooks.failure) s.sent disk
      else Q () s.sent disk) :
    wp (worldContract hooks) (emit tools job kind) Q E s disk := by
  obtain ⟨hsucc, -⟩ := checkedSucc_eq hsequence
  have hvalid := hsafe.event_valid hjob s.state.phase (s.state.sequence + 1) 1
  simp only [emit, wp_bind, wp_get, hsucc]
  apply wp_call_world
  apply wp_call_world
  show wp (worldContract hooks) (ensure ((jobEvent job s.state.phase (s.state.sequence + 1) 1
    kind).validate (eventUrl tools)).toBool .invalidEvent) _ E s disk
  apply wp_ensure_world (by rw [hvalid]; rfl)
  simp only [updateState, wp_modify]
  apply wp_call_world
  -- the sink looks at the kind of the event
  show wp (worldContract hooks) (ofExcept ((if hooks.refused kind then
    (.error hooks.failure : HookResult Unit) else .ok ()).mapError .eventSink)) Q E s.sent disk
  split at hQ
  · rename_i hrefused
    rw [if_pos hrefused]
    exact hQ
  · rename_i haccepted
    rw [if_neg haccepted]
    exact hQ

/-- The runner when a phase is open. -/
def WorkerJobRunner.opened (phase : WorkerJobPhase) (s : WorkerJobRunner) : WorkerJobRunner :=
  { s with activePhase := some (phase, 0), state := { s.state with phase := phase } }.sent

/-- The runner when the phase is closed again. -/
def WorkerJobRunner.closed (phase : WorkerJobPhase) (s : WorkerJobRunner) : WorkerJobRunner :=
  { s with
    activePhase := none
    state := { s.state with timings := s.state.timings ++
      [(⟨phase, 0 - 0, 0 - 0⟩ : WorkerPhaseTiming)] }.touch 1 }

section

variable {phase : WorkerJobPhase} (hjob : job.validate tools = .ok ())
  (hidle : s.activePhase = none) (htimings : s.state.timings.length < maxPhaseTimings)
  (hstart : s.monotonicStartMs = 0) (hsequence : s.state.sequence.toNat + 1 < 2 ^ 64)
  (haccepted : hooks.refused (.phaseStarted (some phase.safeMessage)) = false)
  (hQ : Q () (s.opened phase) disk)

include hjob hidle htimings hstart hsequence haccepted hQ

theorem wp_startPhaseWithoutCancellation_world :
    wp (worldContract hooks) (startPhaseWithoutCancellation tools job phase) Q E s disk := by
  simp only [startPhaseWithoutCancellation, wp_bind, wp_get]
  apply wp_ensure_world (by simp [hidle, htimings])
  apply wp_verifyRoot_world
  apply wp_call_world
  apply wp_ensure_world (by rw [hstart]; rfl)
  simp only [wp_modify]
  apply wp_emit_world (s := { s with
    activePhase := some (phase, 0), state := { s.state with phase := phase } }) hjob hsequence
    (safe_phaseStarted phase)
  rw [haccepted]
  exact hQ

theorem wp_startPhase_world :
    wp (worldContract hooks) (startPhase tools job phase) Q E s disk := by
  simp only [startPhase, wp_bind]
  exact wp_checkCancelled_world (wp_startPhaseWithoutCancellation_world hjob hidle htimings hstart
    hsequence haccepted hQ)

end

/-- The phase is finished. -/
theorem wp_finishPhase_world (phase : WorkerJobPhase) (hopen : s.activePhase = some (phase, 0))
    (hstart : s.monotonicStartMs = 0) (hQ : Q () (s.closed phase) disk) :
    wp (worldContract hooks) finishPhase Q E s disk := by
  simp only [finishPhase, wp_bind, wp_get, hopen, hstart]
  apply wp_call_world
  apply wp_ensure_world rfl
  apply wp_ensure_world rfl
  simp only [updateState, wp_modify]
  apply wp_call_world
  exact wp_verifyRoot_world hQ

/-- The same with a result. -/
theorem wp_settlePhase_world {α : Type} {a : α} {Q : α → WorkerJobRunner → Disk → Prop}
    (phase : WorkerJobPhase) (hopen : s.activePhase = some (phase, 0))
    (hstart : s.monotonicStartMs = 0) (hQ : Q a (s.closed phase) disk) :
    wp (worldContract hooks) (settlePhase (.ok a)) Q E s disk := by
  simp only [settlePhase, wp_bind]
  rw [wp_attempt]
  apply wp_finishPhase_world phase hopen hstart
  exact wp_checkCancelled_world (wp_verifyRoot_world hQ)

/-- The runner in another state. -/
def WorkerJobRunner.moved (next : JobState) (s : WorkerJobRunner) : WorkerJobRunner :=
  { s with state := { s.state with state := next }.touch 1 }

theorem wp_transition_world {next : JobState} (h : s.state.state.canTransitionTo next = true)
    (hQ : Q () (s.moved next) disk) :
    wp (worldContract hooks) (transition next) Q E s disk := by
  simp only [transition, wp_bind, wp_get]
  apply wp_ensure_world h
  simp only [updateState, wp_modify]
  exact wp_call_world hQ

end

end

/-! ## A validated build that is reported as failed -/

namespace Sample

def digest : String := "8a3cd5a81b3f9a621aa493d90c45f42ab571d4e42b8ae5aff351cb0a02d06d82"

def manifest : ArtifactManifest where
  schemaVersion := 1
  operationId := "operation-1"
  jobId := "job-1"
  projectId := "p"
  sourceRepository := some "https://github.com/example/app"
  sourceRevision := some "0123456789abcdef0123456789abcdef01234567"
  sourceSnapshot := false
  sourceSha256 := Remote.Sample.manifest.sha256
  cargoLockSha256 := digest
  configSha256 := digest
  rustferryVersion := "1"
  workerVersion := "1"
  provider := "mac"
  toolchain := ⟨"1", "1", "1", "1", "1", "aarch64-apple-ios"⟩
  appName := "App"
  appVersion := "1"
  buildNumber := "1"
  bundleIdentifier := "com.example.app"
  buildProfile := "release"
  architecture := "arm64"
  signing := ⟨.unsignedCompileOnly, .unsigned, none, none, none, none, none⟩
  extensions := []
  artifacts := [⟨"x", .xcarchive, "x", 1, digest, none⟩]
  validationLevels := {.sourceValidated, .artifactValidated}
  startedAt := "1"
  finishedAt := "1"
  cleanupStatus := .pending

def candidate : WorkerArtifactCandidate := ⟨"x", .xcarchive, ⟨"a/x", by decide⟩, by decide⟩

def exported : WorkerExportOutput := ⟨[candidate], by decide⟩

/-- Hooks that succeed, and a sink that accepts every event. -/
def hooks : Hooks where
  build := ⟨⟨"s/x", by decide⟩, ⟨"s/x/a", by decide⟩, ⟨"aarch64-apple-ios", "iphoneos", true, true⟩,
    by decide⟩
  exported := exported
  validated := ⟨[manifest], by decide⟩
  confirmation := ⟨"job-1", 1, true, true, true⟩
  removed := [["s"], ["s", "x"], ["s", "x", "a"], ["t"]]
  refused _ := false
  failure := failure

/-- The same with a sink that may refuse that the cleanup has finished. -/
def hooksWith (refuses : Bool) : Hooks :=
  { hooks with
    refused
      | .cleanupFinished _ => refuses
      | _ => false }

/-- The environment of the sample job. -/
abbrev environment (refuses : Bool) : Contract JobOp JobRes Disk :=
  worldContract (hooksWith refuses)

theorem isSha256_digest : isSha256 digest = true := by
  rw [digest]
  exact Source.isLowercaseSha256_ofList rfl (by decide)

theorem sort_validationLevels : manifest.validationLevels.sort (· ≤ ·) =
    [.sourceValidated, .artifactValidated] := by
  have hsorted := (List.toFinset_sort (α := ValidationLevel) (· ≤ ·)
    (l := [.sourceValidated, .artifactValidated]) (by decide)).mpr (by decide)
  rw [← hsorted]
  rfl

theorem fields_manifest : manifest.fields = manifest.fields.set 23
    (some (serialize [ValidationLevel.sourceValidated, ValidationLevel.artifactValidated])) := by
  have hlevels : serialize manifest.validationLevels =
      serialize [ValidationLevel.sourceValidated, ValidationLevel.artifactValidated] := by
    show serialize (manifest.validationLevels.sort (· ≤ ·)) = _
    rw [sort_validationLevels]
  rw [← hlevels]
  rfl

theorem serialize_manifest : serialize manifest = .object (serializeFields
    ArtifactManifest.fieldNames (manifest.fields.set 23 (some (serialize
      [ValidationLevel.sourceValidated, ValidationLevel.artifactValidated])))) := by
  rw [← fields_manifest]
  rfl

theorem sizeBound_manifest : (serialize manifest).sizeBound ≤ 8192 := by
  rw [serialize_manifest]
  decide +kernel

theorem acceptsManifest_manifest : acceptsManifest job manifest = true := by
  have hsize : (toVec manifest).length ≤ maxArtifactManifestBytes :=
    le_trans (length_toVec_le _) (le_trans sizeBound_manifest (by decide))
  have htexts : hasSafeTexts manifest = true := by
    rw [hasSafeTexts, show manifest.cargoLockSha256 = digest from rfl,
      show manifest.configSha256 = digest from rfl, isSha256_digest]
    decide
  have hrecords : manifest.artifacts.all isArtifactRecord = true := by
    show (isArtifactRecord ⟨"x", .xcarchive, "x", 1, digest, none⟩ && true) = true
    rw [isArtifactRecord, isSha256_digest]
    decide
  have hbinds : bindsJob job manifest = true := by decide +kernel
  have htools : validateToolchainEvidence manifest.toolchain = true := by decide
  rw [acceptsManifest, decide_eq_true hsize, htexts, hrecords, hbinds, htools]
  decide

theorem acceptsManifests_manifest : acceptsManifests job exported [manifest] = true := by
  rw [acceptsManifests, List.all_cons, acceptsManifest_manifest]
  decide

/-- The runner when the job was announced and is running. -/
def announced : WorkerJobRunner := runner.sent.sent.sent.moved .running

/-- The runner when the source was verified. -/
def sourced : WorkerJobRunner :=
  let settled := (announced.opened .sourceVerification).sent.closed .sourceVerification
  { settled with state := { settled.state with
    sourceSha256 := some job.request.source.sha256 } }.sent

def built : WorkerJobRunner :=
  { (sourced.opened .build).closed .build with buildEvidence := some hooks.build.evidence }

def exportedRunner : WorkerJobRunner := ((built.opened .exporting).closed .exporting).sent

/-- The runner when the pipeline has succeeded. -/
def validatedRunner : WorkerJobRunner :=
  ((exportedRunner.opened .validate).closed .validate).sent

section

variable {refuses : Bool} {E : WorkerJobError → WorkerJobRunner → Disk → Prop}
  {Q : Unit → WorkerJobRunner → Disk → Prop}

/-- Only the sink tells the two apart. -/
theorem wp_call_job {op : JobOp} {s : WorkerJobRunner} {disk : Disk}
    {Q : JobRes op → WorkerJobRunner → Disk → Prop}
    (hop : disk.answer (hooksWith refuses) op = disk.answer hooks op)
    (hQ : Q (disk.answer hooks op) s (disk.next hooks op (disk.answer hooks op))) :
    wp (environment refuses) (call op) Q E s disk := by
  apply wp_call_world
  rw [hop]
  exact hQ

theorem wp_prepareFixedDirectories_job {s : WorkerJobRunner} (hQ : Q () s ⟨[["l"]], []⟩) :
    wp (environment refuses) (prepareFixedDirectories job) Q E s ⟨[], []⟩ := by
  simp only [prepareFixedDirectories, wp_bind]
  apply wp_verifyRoot_world
  show wp (environment refuses) (prepareParentForFreshDirectory ["s"]) _ E s ⟨[], []⟩
  simp only [prepareParentForFreshDirectory, ensureLexicallyBelow, wp_bind]
  apply wp_ensure_world rfl
  apply wp_requirePathAbsent_world List.not_mem_nil List.not_mem_nil
  apply wp_verifyRoot_world
  -- the directory of the logs is created
  show wp (environment refuses) (prepareOwnedDirectory ["l"]) _ E s ⟨[], []⟩
  simp only [prepareOwnedDirectory, ensureLexicallyBelow, wp_bind]
  apply wp_ensure_world rfl
  apply wp_forM_one
  simp only [prepareOwnedComponent, wp_bind]
  apply wp_call_job rfl
  show wp (environment refuses) (do verifyRoot .checkpoint; createOwnedDirectory ["l"]) _ E s
    ⟨[], []⟩
  rw [wp_bind]
  apply wp_verifyRoot_world
  apply wp_createOwnedDirectory_world (by decide)
  apply wp_validateBoundDirectory_world (by decide) (by decide)
  exact wp_verifyRoot_world hQ

theorem wp_prepareSource_job (hQ : Q () sourced ⟨[["s"], ["l"]], []⟩) :
    wp (environment refuses) (prepareSource tools job) Q E announced ⟨[["l"]], []⟩ := by
  simp only [prepareSource, wp_bind]
  apply wp_startPhase_world validate_job rfl (by decide) rfl (by decide) rfl
  apply wp_ensure_world (by decide)
  apply wp_emit_world validate_job (by decide) (safe_sourcePrepared _ _)
  show wp (environment refuses) (materializeRevision job) _ E _ _
  simp only [materializeRevision, wp_bind]
  apply wp_call_job rfl
  apply wp_call_job rfl
  apply wp_settlePhase_world .sourceVerification rfl rfl
  simp only [validateProjectDirectory, ensureLexicallyBelow, wp_bind]
  apply wp_ensure_world (by decide)
  apply wp_ensure_world (by decide)
  apply wp_validateBoundDirectory_world (by decide) (by decide)
  apply wp_validateBoundDirectory_world (by decide) (by decide)
  simp only [updateState, wp_modify]
  apply wp_emit_world validate_job (by decide) (safe_sourceVerified validate_job)
  exact hQ

theorem wp_runBuild_job {Q : WorkerBuildOutput → WorkerJobRunner → Disk → Prop}
    (hQ : Q hooks.build built ⟨[["s", "x"], ["s", "x", "a"], ["s"], ["l"]], []⟩) :
    wp (environment refuses) (runBuild tools job) Q E sourced ⟨[["s"], ["l"]], []⟩ := by
  simp only [runBuild, wp_bind]
  apply wp_startPhase_world validate_job rfl (by decide) rfl (by decide) rfl
  apply wp_call_job rfl
  apply wp_settlePhase_world .build rfl rfl
  apply wp_ensure_world (by decide)
  apply wp_validateBoundDirectory_world (by decide) (by decide)
  apply wp_validateBoundDirectory_world (by decide) (by decide)
  exact hQ

theorem wp_runExport_job {Q : WorkerExportOutput → WorkerJobRunner → Disk → Prop}
    (hQ : Q exported exportedRunner
      ⟨[["a"], ["s", "x"], ["s", "x", "a"], ["s"], ["l"]], [["a", "x"]]⟩) :
    wp (environment refuses) (runExport tools job hooks.build none) Q E built
      ⟨[["s", "x"], ["s", "x", "a"], ["s"], ["l"]], []⟩ := by
  simp only [runExport, wp_bind]
  apply wp_startPhase_world validate_job rfl (by decide) rfl (by decide) rfl
  rw [show job.artifactsDirectory = ["a"] by decide]
  apply wp_prepareFreshDirectory_world (by decide) (by decide)
  apply wp_call_job rfl
  apply wp_settlePhase_world .exporting rfl rfl
  apply wp_ensure_world (by decide)
  apply wp_forM_one
  simp only [announceCandidate, wp_bind]
  apply wp_ensure_world (by decide)
  apply wp_validateFile_world (by decide) (by decide) (by decide)
  apply wp_emit_world validate_job (by decide) (safe_artifactCreated candidate)
  exact hQ

theorem wp_runValidation_job {Q : List ArtifactManifest → WorkerJobRunner → Disk → Prop}
    {disk : Disk} (hQ : Q [manifest] validatedRunner disk) :
    wp (environment refuses) (runValidation tools job hooks.build none exported) Q E
      exportedRunner disk := by
  have hrecord : candidateRecord [manifest] candidate =
      some ⟨"x", .xcarchive, "x", 1, digest, none⟩ := by decide
  simp only [runValidation, wp_bind]
  apply wp_startPhase_world validate_job rfl (by decide) rfl (by decide) rfl
  apply wp_call_job rfl
  apply wp_settlePhase_world .validate rfl rfl
  simp only [validateArtifactOutput, wp_bind]
  apply wp_ensure_world acceptsManifests_manifest
  apply wp_forM_one
  show wp (environment refuses) (verifyCandidate [manifest] candidate) _ E _ disk
  simp only [verifyCandidate, wp_bind, hrecord]
  apply wp_call_job rfl
  apply wp_ensure_world rfl
  apply wp_verifyRoot_world
  apply wp_forM_one
  apply wp_emit_world validate_job (by decide)
    (safe_artifactValidated validate_job acceptsManifest_manifest)
  exact hQ

theorem wp_runPipeline_job {Q : List ArtifactManifest → WorkerJobRunner → Disk → Prop}
    (hQ : Q [manifest] validatedRunner
      ⟨[["a"], ["s", "x"], ["s", "x", "a"], ["s"], ["l"]], [["a", "x"]]⟩) :
    wp (environment refuses) (runPipeline tools job) Q E runner ⟨[], []⟩ := by
  simp only [runPipeline, wp_bind]
  apply wp_emit_world validate_job (by decide) safe_operationStarted
  apply wp_emit_world validate_job (by decide) safe_jobCreated
  apply wp_emit_world validate_job (by decide) (safe_workerAssigned validate_job)
  apply wp_transition_world rfl
  apply wp_prepareFixedDirectories_job
  apply wp_prepareSource_job
  apply wp_runBuild_job
  show wp (environment refuses) (runExport tools job hooks.build none) _ E _ _
  apply wp_runExport_job
  exact wp_runValidation_job hQ

/-- The runner when the job is cleaned up. -/
def cleanedRunner : WorkerJobRunner :=
  (((((validatedRunner.moved .succeeded).moved .cleaning).opened .cleanup).sent.closed
    .cleanup).moved .cleaned).sent

/-- The cleanup is confirmed, and the sink may have refused to hear of it. -/
def cleanupRun (refuses : Bool) : CleanupRun :=
  ⟨some hooks.confirmation, if refuses then some (.eventSink failure) else none⟩

theorem wp_checkConfirmation_job {s : WorkerJobRunner}
    (hQ : Q () s ⟨[["a"], ["l"]], [["a", "x"]]⟩) :
    wp (environment refuses) (checkConfirmation job hooks.confirmation true) Q E s
      ⟨[["a"], ["l"]], [["a", "x"]]⟩ := by
  have hconfirmation : validateCleanupConfirmation hooks.confirmation job.jobId true = .ok () := by
    decide
  have hsource : job.sourceDirectory = ["s"] := by decide
  have htemporary : job.temporaryDirectory = ["t"] := by decide
  have hinput : requireInputAbsent job = pure () := rfl
  have hartifacts : requireArtifacts job true =
      validateBoundDirectory ["a"] .invalidCleanupProof := by
    rw [requireArtifacts, show job.artifactsDirectory = ["a"] by decide]
    rfl
  simp only [checkConfirmation, validateCleanupFilesystem, wp_bind, hconfirmation, hsource,
    htemporary, hinput, hartifacts, wp_pure]
  apply wp_verifyRoot_world
  apply wp_verifyRoot_world
  apply wp_requirePathAbsent_world (by decide) (by decide)
  apply wp_requirePathAbsent_world (by decide) (by decide)
  apply wp_validateBoundDirectory_world (by decide) (by decide)
  exact wp_verifyRoot_world hQ

theorem wp_runCleanup_job {Q : CleanupRun → WorkerJobRunner → Disk → Prop}
    (hQ : Q (cleanupRun refuses) cleanedRunner ⟨[["a"], ["l"]], [["a", "x"]]⟩) :
    wp (environment refuses) (runCleanup tools job .succeeded) Q E
      (validatedRunner.moved .succeeded)
      ⟨[["a"], ["s", "x"], ["s", "x", "a"], ["s"], ["l"]], [["a", "x"]]⟩ := by
  have hretain : job.cleanupPolicy.retainFor .succeeded = true := rfl
  simp only [runCleanup, wp_bind]
  rw [wp_attempt]
  apply wp_transition_world rfl
  rw [wp_attempt]
  simp only [startCleanupPhase, wp_bind]
  apply wp_startPhaseWithoutCancellation_world validate_job rfl (by decide) rfl (by decide) rfl
  apply wp_emit_world validate_job (by decide) safe_cleanupStarted
  -- the hook is called
  simp only [confirmCleanup, wp_bind]
  apply wp_call_job rfl
  simp only [Disk.answer, Bool.not_true, Bool.false_eq_true, if_false, wp_bind, hretain]
  apply wp_call_job rfl
  simp only [Disk.next, Disk.answer]
  rw [show [["a"], ["s", "x"], ["s", "x", "a"], ["s"], ["l"]].filter (· ∉ hooks.removed) =
    [["a"], ["l"]] by decide]
  simp only [acceptConfirmation, wp_bind]
  rw [wp_attempt]
  apply wp_checkConfirmation_job
  -- the phase is closed, and the sink refuses the event
  simp only [Except.toBool, if_true, wp_pure]
  rw [wp_attempt]
  show wp (environment refuses) finishPhase _ _ _ _
  apply wp_finishPhase_world .cleanup rfl rfl
  rw [wp_attempt]
  apply wp_transition_world rfl
  rw [wp_attempt]
  show wp (environment refuses) (emit tools job (.cleanupFinished hooks.confirmation)) _ _ _ _
  apply wp_emit_world validate_job (by decide)
    (safe_cleanupFinished (clean_of_identifier (by decide)))
  cases refuses <;> exact hQ

end

/-- What is said of the sink. -/
def sinkFailure (refuses : Bool) : Option WorkerPublicFailure :=
  (cleanupRun refuses).error.map WorkerJobError.publicFailure

/-- The runner of the report. -/
def finalRunner (refuses : Bool) : WorkerJobRunner :=
  { cleanedRunner with state := { cleanedRunner.state with
    phase := .complete
    failure := sinkFailure refuses }.touch 1 }

def ended : BuildEnd := ⟨.succeeded, none, false, [manifest]⟩

/-- The build has succeeded and is cleaned up; with a sink that refuses the job has failed. -/
def report (refuses : Bool) : WorkerJobReport :=
  { jobReport job (finalRunner refuses) (if refuses then .failed else .succeeded)
      (buildResult job ended (cleanupRun refuses).confirmation) (sinkFailure refuses) with
    state := (finalRunner refuses).sent.state }

theorem encodeJson_report (refuses : Bool) :
    (report refuses).encodeJson = .ok (toVec (report refuses)) := by
  have hresult : serialize (report refuses).result = .object (serializeFields
      IosDeviceBuildResult.fieldNames ((report refuses).result.fields.set 4
        (some (.array [serialize manifest])))) := rfl
  have hreport : serialize (report refuses) = .object (serializeFields WorkerJobReport.fieldNames
      ((report refuses).fields.set 2 (some (serialize (report refuses).result)))) := rfl
  have hbound : (serialize (report refuses)).sizeBound ≤ 32768 := by
    rw [hreport, hresult, serialize_manifest]
    cases refuses <;> decide +kernel
  have hsize : (toVec (report refuses)).length ≤ maxWorkerJobReportBytes :=
    le_trans (length_toVec_le _) (le_trans hbound (by decide))
  rw [WorkerJobReport.encodeJson, decide_eq_false (by omega)]
  rfl

theorem validate_finalRunner (refuses : Bool) :
    (finalRunner refuses).state.validate = .ok () := by
  have hrequest : isSha256 (finalRunner refuses).state.requestSha256 = true :=
    Source.isLowercaseSha256_ofList rfl (by decide)
  have hsource : isSha256 Remote.Sample.manifest.sha256 = true :=
    Source.isLowercaseSha256_ofList rfl (by decide)
  have hsourceSha256 : (finalRunner refuses).state.sourceSha256 =
    some Remote.Sample.manifest.sha256 := rfl
  have hjobId : isIdentifier (finalRunner refuses).state.jobId = true := by
    show isIdentifier "job-1" = true
    decide
  have htimings : (finalRunner refuses).state.timings = cleanedRunner.state.timings := by
    simp only [finalRunner, WorkerJobState.touch]
  have hphases : (cleanedRunner.state.timings.map (·.phase)).Nodup := by decide
  have hfailure : forSome (finalRunner refuses).state.failure WorkerPublicFailure.validate =
      .ok () := by
    cases refuses <;> decide
  have hclock : ((finalRunner refuses).state.updatedAtMs <
      (finalRunner refuses).state.startedAtMs ||
      (finalRunner refuses).state.timings.length > maxPhaseTimings) = false := by
    cases refuses <;> decide +kernel
  rw [WorkerJobState.validate, hclock, hrequest, hsourceSha256, Option.all_some, hsource, hjobId,
    htimings, decide_eq_false (not_not.mpr hphases), hfailure]
  rfl

section

variable {refuses : Bool} {E : WorkerJobError → WorkerJobRunner → Disk → Prop}
  {Q : WorkerJobReport → WorkerJobRunner → Disk → Prop}

theorem wp_finishRun_job {disk : Disk} (hQ : Q (report refuses) (finalRunner refuses).sent disk) :
    wp (environment refuses) (finishRun tools job ended (cleanupRun refuses)) Q E cleanedRunner
      disk := by
  have hmanifests : ∀ m ∈ ended.manifests, acceptsManifest job m = true := by
    intro m hm
    rw [List.mem_singleton.mp hm]
    exact acceptsManifest_manifest
  have hconfirmation : ∀ c, (cleanupRun refuses).confirmation = some c → Clean c.jobId := by
    intro c hc
    rw [← Option.some.inj hc]
    exact clean_of_identifier (by decide)
  have hfailure : ∀ f, sinkFailure refuses = some f →
      CleanFailure f := by
    intro f hf
    cases refuses with
    | false => cases hf
    | true =>
      rw [← Option.some.inj hf]
      exact clean_publicFailure _
  have hresult : (buildResult job ended (cleanupRun refuses).confirmation).validate = .ok () := by
    show (buildResult job ended (some hooks.confirmation)).validate = .ok ()
    decide
  have hsafe : ∀ durationMs, SafeKind tools (terminalEvent ended
      (if refuses then .failed else .succeeded)
      (buildResult job ended (cleanupRun refuses).confirmation) (sinkFailure refuses)
      durationMs) := fun durationMs =>
    safe_operationFinished durationMs validate_job hmanifests hconfirmation hfailure
      (by cases refuses <;> rfl)
  have hended : ((cleanupRun refuses).error.map WorkerJobError.publicFailure).or ended.failure =
    sinkFailure refuses := by
    cases refuses <;> rfl
  have houtcome : jobOutcome ended (cleanupRun refuses).confirmation
    (sinkFailure refuses) = if refuses then .failed else .succeeded := by
    cases refuses <;> rfl
  simp only [finishRun, updateState, wp_bind, wp_modify, hended, houtcome]
  apply wp_call_world
  simp only [wp_get]
  show wp (environment refuses) (ofExcept (finalRunner refuses).state.validate) _ E
    (finalRunner refuses) disk
  rw [validate_finalRunner, hresult]
  show wp (environment refuses) elapsedFromStart _ E (finalRunner refuses) disk
  simp only [elapsedFromStart, wp_bind, wp_get]
  apply wp_call_world
  apply wp_ensure_world rfl
  simp only [wp_pure]
  -- the terminal event is accepted
  apply wp_emit_world validate_job (by cases refuses <;> decide) (hsafe _)
  show wp (environment refuses) (ofExcept (report refuses).encodeJson) _ E
    (finalRunner refuses).sent disk
  rw [encodeJson_report]
  exact hQ

theorem wp_run_job
    (hQ : Q (report refuses) (finalRunner refuses).sent ⟨[["a"], ["l"]], [["a", "x"]]⟩) :
    wp (environment refuses) (run tools job) Q E runner ⟨[], []⟩ := by
  simp only [run, wp_bind]
  rw [wp_attempt]
  apply wp_runPipeline_job
  -- no phase is open
  rw [wp_attempt]
  show wp (environment refuses) (endBuild (.ok [manifest])) _ E validatedRunner _
  simp only [endBuild, wp_bind]
  apply wp_transition_world rfl
  show wp (environment refuses) (runCleanup tools job .succeeded) _ E
    (validatedRunner.moved .succeeded) _
  apply wp_runCleanup_job
  show wp (environment refuses) (finishRun tools job ended (cleanupRun refuses)) _ E
    cleanedRunner _
  exact wp_finishRun_job hQ

end

/-- A run of the sample job, from its first operation on. -/
theorem exists_run (refuses : Bool) : ∃ h,
    Prog.Runs (executeWorkerJob tools job "/jobs/1" ()) (h ++ preparation "/jobs/1" 1 0)
      (.ret (.ok (report refuses), ())) ∧
    Truthful job (report refuses)
      ((jobContract tools job).view .init (h ++ preparation "/jobs/1" 1 0)) := by
  have hwp : wp (environment refuses) (run tools job) (fun r _ _ => r = report refuses)
      (fun _ _ _ => False) runner ⟨[], []⟩ := wp_run_job rfl
  have hanswer : ∀ disk op, (environment refuses).assume disk op
      (disk.answer (hooksWith refuses) op) := fun _ _ => rfl
  obtain ⟨h, out, hruns, -, hend⟩ := Prog.exists_runs_of_wp hanswer .start trivial hwp
  obtain ⟨out, runner'⟩ := out
  cases out with
  | error e => exact hend.elim
  | ok r =>
    have hr : r = report refuses := hend
    rw [hr] at hruns
    have habsolute : UnixPath.isAbsolute "/jobs/1".toList = true := by decide
    have hwhole := runs_of_run failure validate_job habsolute new_job hruns
    obtain ⟨-, -, htruthful⟩ := view_of_runs "/jobs/1" validate_job new_job hruns
    exact ⟨h, hwhole, htruthful _ rfl⟩

/-- Every hook succeeds, the evidence is accepted, nothing is cancelled and the cleanup is
    confirmed, and the job has not succeeded: the sink has refused to hear of the cleanup. -/
theorem unannounced_cleanup : ∃ h, Prog.Runs (executeWorkerJob tools job "/jobs/1" ()) h
      (.ret (.ok (report true), ())) ∧
    Succeeds job ((jobContract tools job).view .init h) ∧
    (∃ confirmation, (report true).result.cleanup = some confirmation ∧
      Confirmed job ((jobContract tools job).view .init h) confirmation) ∧
    (report true).outcome ≠ .succeeded := by
  obtain ⟨h, hruns, htruthful⟩ := exists_run true
  exact ⟨_, hruns, htruthful.built rfl, ⟨_, rfl, htruthful.confirmed _ rfl⟩, by decide⟩

/-- A job that succeeds: all that its success says is true. -/
theorem executeWorkerJob_truthful_job : ∃ h,
    Prog.Runs (executeWorkerJob tools job "/jobs/1" ()) h (.ret (.ok (report false), ())) ∧
      (report false).outcome = .succeeded ∧ Succeeds job ((jobContract tools job).view .init h) ∧
      (∃ confirmation, (report false).result.cleanup = some confirmation ∧
        Confirmed job ((jobContract tools job).view .init h) confirmation) ∧
      TruthfulEvents tools (report false) h := by
  obtain ⟨h, hruns, -⟩ := exists_run false
  obtain ⟨hsucceeded, -, hevents⟩ := executeWorkerJob_truthful hruns
  obtain ⟨hbuilt, hconfirmed⟩ := hsucceeded rfl
  exact ⟨_, hruns, rfl, hbuilt, hconfirmed, hevents⟩

/-- The job whose hooks are all called, the cleanup last. -/
theorem executeWorkerJob_cleans_up_job : ∃ h,
    Prog.Runs (executeWorkerJob tools job "/jobs/1" ()) (h ++ preparation "/jobs/1" 1 0)
      (.ret (.ok (report false), ())) ∧
    ((∃ bound, h.filterMap cleanupRootCheck = [bound] ∧
      h.countP (isCleanupCall ·.op) = if bound then 1 else 0) ∧
    ∀ late e early, h = late ++ e :: early → isPipelineHook e.op = true →
      early.all (fun earlier => !isCleanupCall earlier.op) ∧
        early.any isCancellation = false) := by
  obtain ⟨h, hruns, -⟩ := exists_run false
  exact ⟨h, hruns, executeWorkerJob_cleans_up new_job hruns⟩

end Sample

end RustFerry.Worker
