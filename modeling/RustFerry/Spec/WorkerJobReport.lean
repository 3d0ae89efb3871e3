import RustFerry.Spec.RequestBytes
import RustFerry.Spec.WorkerJobRun

/-!
# Runs of `execute_worker_job`

What a complete run of `execute_worker_job` shows, from its first operation on: that the
cleanup cannot be skipped, and that the report and the events are truthful.
-/

namespace RustFerry.Worker

open Remote Serde Artifact ProgM

section

variable {startedAtMs : UInt64} {runner : WorkerJobRunner} {h : History JobOp JobRes}
  {out : Except WorkerJobError WorkerJobReport} {monotonicStartMs : UInt64} {tools : RequestTools}
  {job : WorkerJobManifest}

/-! ## Runs from the first operation -/

/-- The operations before the runner is built, latest first. -/
def preparation (jobRoot : String) (startedAtMs monotonicStartMs : UInt64) :
    History JobOp JobRes :=
  [⟨.monotonicTimeMs, monotonicStartMs⟩, ⟨.unixTimeMs, startedAtMs⟩,
    ⟨.verifyRoot .checkpoint, true⟩, ⟨.openRoot jobRoot, true⟩]

/-- The operations of a call that has not built its runner. -/
inductive Refused (tools : RequestTools) (job : WorkerJobManifest) (jobRoot : String) :
    History JobOp JobRes → Prop where
  | unchecked : Refused tools job jobRoot []
  | unopened : Refused tools job jobRoot [⟨.openRoot jobRoot, false⟩]
  | unbound :
    Refused tools job jobRoot [⟨.verifyRoot .checkpoint, false⟩, ⟨.openRoot jobRoot, true⟩]
  | unbuilt (startedAtMs monotonicStartMs : UInt64) (e : WorkerJobError)
    (h : WorkerJobRunner.new tools job startedAtMs monotonicStartMs = .error e) :
    Refused tools job jobRoot (preparation jobRoot startedAtMs monotonicStartMs)

variable {jobRoot : String}

/-- A call returns before it has built its runner, or it is a run of the runner. -/
theorem runs_executeWorkerJob {u : Unit}
    (hruns : Prog.Runs (executeWorkerJob tools job jobRoot ()) h (.ret (out, u))) :
    (Refused tools job jobRoot h ∧ ∃ e, out = .error e) ∨
      ∃ startedAtMs monotonicStartMs runner late runner',
        job.validate tools = .ok () ∧
        WorkerJobRunner.new tools job startedAtMs monotonicStartMs = .ok runner ∧
        h = late ++ preparation jobRoot startedAtMs monotonicStartMs ∧
        Prog.Runs (run tools job runner) late (.ret (out, runner')) := by
  cases hvalid : job.validate tools with
  | error e =>
    have hret : executeWorkerJob tools job jobRoot () = .ret (.error e, ()) := by
      rw [executeWorkerJob, hvalid]
      rfl
    rw [hret] at hruns
    obtain ⟨rfl, heq⟩ := Prog.runs_ret hruns
    cases heq
    exact .inl ⟨.unchecked, _, rfl⟩
  | ok _ =>
    cases habsolute : UnixPath.isAbsolute jobRoot.toList with
    | false =>
      have hret : executeWorkerJob tools job jobRoot () = .ret (.error .invalidJobRoot, ()) := by
        rw [executeWorkerJob, hvalid, habsolute]
        rfl
      rw [hret] at hruns
      obtain ⟨rfl, heq⟩ := Prog.runs_ret hruns
      cases heq
      exact .inl ⟨.unchecked, _, rfl⟩
    | true =>
      rw [executeWorkerJob, hvalid, habsolute] at hruns
      -- the job root is opened, and checked
      obtain ⟨opened, h₁, rfl, hopened⟩ := Prog.runs_call_ret hruns
      cases opened with
      | false =>
        obtain ⟨rfl, heq⟩ := Prog.runs_ret hopened
        cases heq
        exact .inl ⟨.unopened, _, rfl⟩
      | true =>
        obtain ⟨bound, h₂, rfl, hbound⟩ := Prog.runs_call_ret hopened
        cases bound with
        | false =>
          obtain ⟨rfl, heq⟩ := Prog.runs_ret hbound
          cases heq
          exact .inl ⟨.unbound, _, rfl⟩
        | true =>
          -- both clocks are read
          obtain ⟨startedAtMs, h₃, rfl, hstarted⟩ := Prog.runs_call_ret hbound
          obtain ⟨monotonicStartMs, h₄, rfl, hbuilt⟩ := Prog.runs_call_ret hstarted
          simp only [Prog.bind] at hbuilt
          cases hnew : WorkerJobRunner.new tools job startedAtMs monotonicStartMs with
          | error e =>
            rw [hnew] at hbuilt
            obtain ⟨rfl, heq⟩ := Prog.runs_ret hbuilt
            cases heq
            exact .inl ⟨.unbuilt _ _ e hnew, _, rfl⟩
          | ok runner =>
            rw [hnew] at hbuilt
            have hrunner : Prog.Runs ((run tools job runner).bind fun out => .ret (out.1, ())) h₄
              (.ret (out, u)) := hbuilt
            obtain ⟨⟨result, runner'⟩, late, early, rfl, hrun, hend⟩ := Prog.runs_bind hrunner
            obtain ⟨rfl, heq⟩ := Prog.runs_ret hend
            cases heq
            have hh : [] ++ early ++ [⟨.monotonicTimeMs, monotonicStartMs⟩] ++
                [⟨.unixTimeMs, startedAtMs⟩] ++ [⟨.verifyRoot .checkpoint, true⟩] ++
                [⟨.openRoot jobRoot, true⟩] =
                early ++ preparation jobRoot startedAtMs monotonicStartMs := by
              simp [preparation]
            have hvalid' : (Except.ok () : Except WorkerJobError Unit) = .ok () := rfl
            exact .inr ⟨startedAtMs, monotonicStartMs, runner, early, runner', hvalid', hnew, hh,
              hrun⟩

/-- The job root is as it was, the clocks stand still, and nothing else works. -/
def bound (unixTimeMs monotonicTimeMs : UInt64) (failure : WorkerHookFailure) :
    (op : JobOp) → JobRes op
  | .openRoot _ | .verifyRoot _ => true
  | .unixTimeMs => unixTimeMs
  | .monotonicTimeMs => monotonicTimeMs
  | .symlinkMetadata _ => .failed
  | .canonicalize _ | .verifyAndExtractSourceBundle .. => none
  | .createDir _ | .removeFile _ | .isCancelled | .verifyMaterializedBundle ..
  | .verifyDownloadedFile .. => false
  | .newEvent _ => ()
  | .emit _ | .materializeGitSource .. | .build _ | .sign .. | .exportArtifacts .. | .validate ..
  | .cleanup _ => .error failure

variable {late : History JobOp JobRes}

/-- A run of the runner is a run of the job. -/
theorem runs_of_run {runner' : WorkerJobRunner}
    (failure : WorkerHookFailure) (hvalid : job.validate tools = .ok ())
    (hroot : UnixPath.isAbsolute jobRoot.toList = true)
    (hnew : WorkerJobRunner.new tools job startedAtMs monotonicStartMs = .ok runner)
    (hruns : Prog.Runs (run tools job runner) late (.ret (out, runner'))) :
    Prog.Runs (executeWorkerJob tools job jobRoot ())
      (late ++ preparation jobRoot startedAtMs monotonicStartMs) (.ret (out, ())) := by
  have hbuilt : Prog.Runs ((ofExcept (WorkerJobRunner.new tools job startedAtMs
      monotonicStartMs) >>= fun runner _ => (run tools job runner).bind fun out =>
        .ret (out.1, ())) ()) late (.ret (out, ())) := by
    rw [hnew]
    exact hruns.bind
  -- the runner is built after four operations
  have hstart : Prog.Runs (executeWorkerJob tools job jobRoot ())
      (Prog.drive (fun _ => bound startedAtMs monotonicStartMs failure) 4
        (executeWorkerJob tools job jobRoot ()) []).1
      (Prog.drive (fun _ => bound startedAtMs monotonicStartMs failure) 4
        (executeWorkerJob tools job jobRoot ()) []).2 := Prog.runs_drive 4 .start
  have hdrive : Prog.drive (fun _ => bound startedAtMs monotonicStartMs failure) 4
      (executeWorkerJob tools job jobRoot ()) [] =
      (preparation jobRoot startedAtMs monotonicStartMs,
        (ofExcept (WorkerJobRunner.new tools job startedAtMs monotonicStartMs) >>= fun runner _ =>
          (run tools job runner).bind fun out => .ret (out.1, ())) ()) := by
    rw [executeWorkerJob, hvalid, hroot]
    rfl
  rw [hdrive] at hstart
  exact hstart.trans hbuilt

/-- The runner is built for a job that has done nothing. -/
theorem fresh_of_new
    (hnew : WorkerJobRunner.new tools job startedAtMs monotonicStartMs = .ok runner)
    (jobRoot : String) :
    Fresh runner ((jobContract tools job).view .init
      (preparation jobRoot startedAtMs monotonicStartMs)) := by
  obtain ⟨requestSha256, -, hnew⟩ := Except.bind_eq_ok.mp hnew
  obtain ⟨u, -, hnew⟩ := Except.bind_eq_ok.mp hnew
  rw [← Except.ok.inj hnew]
  exact {
    sequence := rfl, state := rfl, phase := rfl, timings := rfl, activePhase := rfl, events := rfl
    root := rfl, cleanups := rfl, cancelled := rfl, done := rfl, rejected := rfl
    start := (le_max_clock monotonicStartMs 0).2 }

/-! ## Histories -/

/-- The answer of the identity check before cleanup. -/
def cleanupRootCheck : Event JobOp JobRes → Option Bool
  | ⟨.verifyRoot .cleanup, bound⟩ => some bound
  | _ => none

def isCleanupCall : JobOp → Bool
  | .cleanup _ => true
  | _ => false

/-- The hooks of the pipeline. -/
def isPipelineHook : JobOp → Bool
  | .materializeGitSource .. | .build _ | .sign .. | .exportArtifacts .. | .validate .. => true
  | _ => false

/-- A cancellation was observed. -/
def isCancellation : Event JobOp JobRes → Bool
  | ⟨.isCancelled, cancelled⟩ => cancelled
  | _ => false

/-- An event that was handed to the sink. -/
def emitted : Event JobOp JobRes → Option RemoteBuildEvent
  | ⟨.emit event, _⟩ => some event
  | _ => none

/-- What an operation adds to the view. -/
structure Added (v v' : JobView) (e : Event JobOp JobRes) : Prop where
  root : v'.root = (cleanupRootCheck e).or v.root
  cleanups : v'.cleanups = v.cleanups + if isCleanupCall e.op then 1 else 0
  cancelled : v'.cancelled = (v.cancelled || isCancellation e)
  events : v'.events = (emitted e).toList ++ v.events

/-- One event more in the view. -/
theorem added_next (v : JobView) (e : Event JobOp JobRes) :
    Added v (v.next job e.op e.response) e := by
  obtain ⟨op, r⟩ := e
  have hcancelled : v.cancelled = (v.cancelled || false) := (Bool.or_false _).symm
  cases op with
  | verifyRoot site => cases site <;> exact ⟨rfl, rfl, hcancelled, rfl⟩
  | symlinkMetadata path =>
    show Added v (if r = Metadata.notFound then { v with absent := path :: v.absent } else v) _
    split <;> exact ⟨rfl, rfl, hcancelled, rfl⟩
  | materializeGitSource | build | sign | exportArtifacts =>
    show Added v (v.settle _ r) _
    cases r <;> exact ⟨rfl, rfl, hcancelled, rfl⟩
  | validate context build signing exported =>
    show Added v (v.judge job exported r) _
    cases r <;> exact ⟨rfl, rfl, hcancelled, rfl⟩
  | isCancelled => exact ⟨rfl, rfl, rfl, rfl⟩
  | cleanup request => exact ⟨rfl, rfl, hcancelled, rfl⟩
  | emit event => exact ⟨rfl, rfl, hcancelled, rfl⟩
  | _ => exact ⟨rfl, rfl, hcancelled, rfl⟩

theorem view_cleanups (h : History JobOp JobRes) :
    ((jobContract tools job).view .init h).cleanups = h.countP (isCleanupCall ·.op) := by
  induction h with
  | nil => rfl
  | cons e h ih =>
    rw [List.countP_cons, ← ih]
    exact (added_next _ e).cleanups

theorem view_cancelled (h : History JobOp JobRes) :
    ((jobContract tools job).view .init h).cancelled = h.any isCancellation := by
  induction h with
  | nil => rfl
  | cons e h ih =>
    rw [List.any_cons, ← ih, Bool.or_comm]
    exact (added_next _ e).cancelled

/-- The identity of the root is checked at most once before cleanup. -/
theorem view_root (hg : (jobContract tools job).Guaranteed .init h) :
    h.filterMap cleanupRootCheck = ((jobContract tools job).view .init h).root.toList := by
  induction h with
  | nil => rfl
  | cons e h ih =>
    obtain ⟨hallows, hg⟩ := hg
    have hview : ((jobContract tools job).view .init (e :: h)).root =
        (cleanupRootCheck e).or ((jobContract tools job).view .init h).root :=
      (added_next ((jobContract tools job).view .init h) e).root
    rw [hview]
    cases hcheck : cleanupRootCheck e with
    | none => rw [List.filterMap_cons_none hcheck, ih hg, Option.none_or]
    | some bound =>
      -- the check is allowed only once
      have hnone : ((jobContract tools job).view .init h).root = none := by
        obtain ⟨op, r⟩ := e
        cases op with
        | verifyRoot site =>
          cases site with
          | cleanup => exact hallows
          | checkpoint => cases hcheck
        | _ => cases hcheck
      rw [List.filterMap_cons_some hcheck, ih hg, hnone]
      rfl

/-- The hooks of the pipeline run before cleanup, and before a cancellation was observed. -/
theorem hooks_of_guaranteed {early : History JobOp JobRes} {e : Event JobOp JobRes}
    (hg : (jobContract tools job).Guaranteed .init h) (hsplit : h = late ++ e :: early)
    (hhook : isPipelineHook e.op = true) :
    early.all (fun earlier => !isCleanupCall earlier.op) ∧ early.any isCancellation = false := by
  rw [hsplit] at hg
  have hguarantee := Contract.guarantee_of_append hg
  have hallows : ((jobContract tools job).view .init early).AllowsHook := by
    obtain ⟨op, r⟩ := e
    cases op <;> first | exact hguarantee | cases hhook
  obtain ⟨hcancelled, -, hcleanups⟩ := hallows
  rw [view_cancelled] at hcancelled
  rw [view_cleanups, List.countP_eq_zero] at hcleanups
  refine ⟨List.all_eq_true.mpr fun earlier hmem => ?_, hcancelled⟩
  simpa using hcleanups earlier hmem

/-! ## Mandatory cleanup -/

/-- A runner that was built has run. -/
theorem runs_of_new {u : Unit}
    (hnew : WorkerJobRunner.new tools job startedAtMs monotonicStartMs = .ok runner)
    (hruns : Prog.Runs (executeWorkerJob tools job jobRoot ()) (h ++ preparation jobRoot
      startedAtMs monotonicStartMs) (.ret (out, u))) :
    job.validate tools = .ok () ∧ ∃ runner', Prog.Runs (run tools job runner) h
      (.ret (out, runner')) := by
  rcases runs_executeWorkerJob hruns with hrefused | hrun
  · obtain ⟨hrefused, -⟩ := hrefused
    generalize hh : h ++ preparation jobRoot startedAtMs monotonicStartMs = whole at hrefused
    have hlength := congrArg List.length hh
    rw [List.length_append, show (preparation jobRoot startedAtMs monotonicStartMs).length = 4
      from rfl] at hlength
    cases hrefused with
    | unchecked | unopened | unbound => simp at hlength
    | unbuilt startedAtMs' monotonicStartMs' e hfailed =>
      obtain ⟨-, hsame⟩ := List.append_inj' (hh.trans (List.nil_append _).symm) rfl
      simp only [preparation, List.cons.injEq, Event.mk.injEq, heq_eq_eq, true_and] at hsame
      obtain ⟨rfl, rfl, -⟩ := hsame
      rw [hnew] at hfailed
      cases hfailed
  · obtain ⟨startedAtMs', monotonicStartMs', runner₀, late, runner', hvalid, hnew', hh, hrun⟩ := hrun
    obtain ⟨rfl, hsame⟩ := List.append_inj' hh rfl
    simp only [preparation, List.cons.injEq, Event.mk.injEq, heq_eq_eq, true_and] at hsame
    obtain ⟨rfl, rfl, -⟩ := hsame
    rw [hnew] at hnew'
    cases hnew'
    exact ⟨hvalid, runner', hrun⟩

/-- The engine keeps its contract from the first operation on. -/
theorem guaranteed_preparation (jobRoot : String) (startedAtMs monotonicStartMs : UInt64) :
    (jobContract tools job).Guaranteed .init
      (preparation jobRoot startedAtMs monotonicStartMs) :=
  ⟨trivial, trivial, trivial, trivial, trivial⟩

/-- The answers may be anything. -/
theorem assumed (v : JobView) (h : History JobOp JobRes) :
    (jobContract tools job).Assumed v h := by
  induction h with
  | nil => trivial
  | cons e h ih => exact ⟨trivial, ih⟩

/-- What `wp_run` says of a run from the first operation on. -/
theorem view_of_runs (jobRoot : String) {runner' : WorkerJobRunner}
    (hvalid : job.validate tools = .ok ())
    (hnew : WorkerJobRunner.new tools job startedAtMs monotonicStartMs = .ok runner)
    (hruns : Prog.Runs (run tools job runner) h (.ret (out, runner'))) :
    let whole := h ++ preparation jobRoot startedAtMs monotonicStartMs
    (jobContract tools job).Guaranteed .init whole ∧
      Called ((jobContract tools job).view .init whole) ∧
      ∀ report, out = .ok report → Truthful job report ((jobContract tools job).view .init whole) := by
  intro whole
  obtain ⟨hg, hend⟩ := Prog.wp_of_runs (wp_run hvalid (fresh_of_new hnew jobRoot)) hruns
    (assumed _ _)
  rw [← Contract.view_append] at hend
  refine ⟨(guaranteed_preparation jobRoot _ _).append hg, ?_, ?_⟩
  · cases out with
    | ok report => exact hend.2
    | error e => exact hend
  · intro report hreport
    subst hreport
    exact hend.1

/-- **Mandatory cleanup.** Once the runner is built, and whatever the hooks, the sink, the clocks
    and the cancellation token answer, the identity of the job root is checked once before
    cleanup, and the cleanup hook is called exactly once if the root is still bound, before
    the call returns a report or an error. No hook of the pipeline runs after cleanup, or after
    a cancellation was observed. -/
theorem executeWorkerJob_cleans_up {jobRoot : String} {startedAtMs monotonicStartMs : UInt64}
    {runner : WorkerJobRunner} {h : History JobOp JobRes}
    {out : Except WorkerJobError WorkerJobReport}
    (hnew : WorkerJobRunner.new tools job startedAtMs monotonicStartMs = .ok runner)
    (hruns : Prog.Runs (executeWorkerJob tools job jobRoot ())
      (h ++ preparation jobRoot startedAtMs monotonicStartMs) (.ret (out, ()))) :
    (∃ bound, h.filterMap cleanupRootCheck = [bound] ∧
      h.countP (isCleanupCall ·.op) = if bound then 1 else 0) ∧
    ∀ late e early, h = late ++ e :: early → isPipelineHook e.op = true →
      early.all (fun earlier => !isCleanupCall earlier.op) ∧ early.any isCancellation = false := by
  obtain ⟨hvalid, runner', hrun⟩ := runs_of_new hnew hruns
  obtain ⟨hg, hcalled, -⟩ := view_of_runs jobRoot hvalid hnew hrun
  constructor
  · obtain ⟨bound, hroot, hcleanups⟩ := hcalled
    have hchecks := view_root hg
    -- nothing before the runner is built is part of a cleanup
    have hnone : (preparation jobRoot startedAtMs monotonicStartMs).filterMap cleanupRootCheck =
        [] := rfl
    rw [hroot, List.filterMap_append, hnone, List.append_nil] at hchecks
    rw [view_cleanups, List.countP_append] at hcleanups
    exact ⟨bound, hchecks, hcleanups⟩
  · intro late e early hsplit hhook
    have hsame : h ++ preparation jobRoot startedAtMs monotonicStartMs =
        late ++ e :: (early ++ preparation jobRoot startedAtMs monotonicStartMs) := by
      rw [hsplit, List.append_assoc, List.cons_append]
    have hwhole := hooks_of_guaranteed hg hsame hhook
    rw [List.all_append, List.any_append, Bool.and_eq_true, Bool.or_eq_false_iff] at hwhole
    exact ⟨hwhole.1.1, hwhole.2.1⟩

end

namespace Sample

/-- The digest of the sample request; everything else is hashed as before. -/
def sha256 (bytes : List UInt8) : String :=
  if bytes.head? = some 123 then "1eff22975d8201c1287d2c12786ff3a697571bab21b315e6a9738b1292525029"
  else Remote.Sample.sha256 bytes

def tools : RequestTools :=
  { Remote.Sample.tools with
    inspection := { Remote.Sample.tools.inspection with sha256 := sha256 } }

/-- A build of a commit whose artifacts are kept in any case. -/
def job : WorkerJobManifest where
  schemaVersion := 1
  jobId := "job-1"
  workerId := "worker-1"
  provider := "mac"
  request := { Remote.Sample.request with sourceMode := .git }
  sourceInput := .git
  paths := ⟨⟨"s", by decide⟩, ⟨"a", by decide⟩, ⟨"t", by decide⟩, ⟨"l", by decide⟩, by decide⟩
  cleanupPolicy := ⟨true, true⟩

theorem sha256_manifestBytes :
    sha256 Remote.Sample.manifestBytes = Remote.Sample.manifest.sha256 :=
  (if_neg (by decide)).trans (if_pos rfl)

theorem validate_job : job.validate tools = .ok () := by
  have hrequest : job.request.validate tools = .ok () :=
    validate_eq_ok.mpr { validate_eq_ok.mp Remote.Sample.validate_request with
      source := Remote.Sample.validateSourceManifest_manifest rfl sha256_manifestBytes
      sourceMode := rfl }
  have hidentifiers : [job.jobId, job.workerId, job.provider].all isIdentifier = true := by decide
  simp only [WorkerJobManifest.validate, hrequest, hidentifiers]
  rfl

/-- The runner of the sample job. -/
def runner : WorkerJobRunner where
  state := {
    schemaVersion := 1
    jobId := "job-1"
    requestSha256 := "1eff22975d8201c1287d2c12786ff3a697571bab21b315e6a9738b1292525029"
    state := .created
    phase := .accepted
    sequence := 0
    startedAtMs := 1
    updatedAtMs := 1
    sourceSha256 := none
    timings := []
    failure := none }
  monotonicStartMs := 0
  activePhase := none
  sourceArchive := none
  buildEvidence := none
  signingEvidence := none

theorem requestSha256_job : job.requestSha256 tools =
    .ok "1eff22975d8201c1287d2c12786ff3a697571bab21b315e6a9738b1292525029" := by
  have hsize : (toVec job.request).length ≤ maxWorkerJobManifestBytes :=
    le_trans (length_toVec_le _) (by decide +kernel)
  have hbrace : (toVec job.request).head? = some 123 := by
    rw [toVec, Text.utf8_ofList]
    rfl
  have hdigest : tools.inspection.sha256 (toVec job.request) =
      "1eff22975d8201c1287d2c12786ff3a697571bab21b315e6a9738b1292525029" := if_pos hbrace
  rw [WorkerJobManifest.requestSha256, hdigest, decide_eq_false (by omega)]
  rfl

theorem new_job : WorkerJobRunner.new tools job 1 0 = .ok runner := by
  have hdigest : isSha256 runner.state.requestSha256 = true :=
    Source.isLowercaseSha256_ofList rfl (by decide)
  have hjobId : isIdentifier runner.state.jobId = true := by decide
  have hstate : runner.state.validate = .ok () := by
    rw [WorkerJobState.validate, hdigest, hjobId]
    rfl
  rw [WorkerJobRunner.new, Except.bind_eq_ok]
  exact ⟨_, requestSha256_job, Except.bind_eq_ok.mpr ⟨(), hstate, rfl⟩⟩

/-- A failure of a hook. -/
def failure : WorkerHookFailure := ⟨"hook.failed", "The hook has failed", false, by decide⟩

end Sample

section

variable {tools : RequestTools} {job : WorkerJobManifest}

/-! ## Truthful reports -/

theorem view_events (h : History JobOp JobRes) :
    ((jobContract tools job).view .init h).events = h.filterMap emitted := by
  induction h with
  | nil => rfl
  | cons e h ih =>
    have hadded : ((jobContract tools job).view .init (e :: h)).events =
        (emitted e).toList ++ ((jobContract tools job).view .init h).events :=
      (added_next _ e).events
    rw [hadded, ih]
    cases hemitted : emitted e with
    | none => rw [List.filterMap_cons_none hemitted]; rfl
    | some event => rw [List.filterMap_cons_some hemitted]; rfl

/-- Every event, latest first, was allowed after the ones before it. -/
def Ordered : List RemoteBuildEvent → Prop
  | [] => True
  | event :: earlier => { JobView.init with events := earlier }.AllowsEvent event ∧ Ordered earlier

variable {h : History JobOp JobRes}

theorem ordered_of_guaranteed
    (hg : (jobContract tools job).Guaranteed .init h) : Ordered (h.filterMap emitted) := by
  induction h with
  | nil => trivial
  | cons e h ih =>
    obtain ⟨hallows, hg⟩ := hg
    cases hemitted : emitted e with
    | none =>
      rw [List.filterMap_cons_none hemitted]
      exact ih hg
    | some event =>
      rw [List.filterMap_cons_some hemitted]
      refine ⟨?_, ih hg⟩
      -- the operation is the one that sends the event
      have hevent : ((jobContract tools job).view .init h).AllowsEvent event := by
        obtain ⟨op, r⟩ := e
        cases op with
        | emit sent =>
          rw [← Option.some.inj hemitted]
          exact hallows
        | _ => cases hemitted
      obtain ⟨hsequence, hfirst, hlive, hphase⟩ := hevent
      rw [view_events] at hsequence hfirst hlive hphase
      exact ⟨hsequence, hfirst, hlive, hphase⟩

variable {events : List RemoteBuildEvent}

/-- The sequence numbers count the events from one on. -/
theorem Ordered.sequence (h : Ordered events) {i : Nat}
    {event : RemoteBuildEvent} (hi : events.reverse[i]? = some event) :
    event.sequence.toNat = i + 1 := by
  induction events with
  | nil => simp at hi
  | cons last earlier ih =>
    rw [List.reverse_cons, List.getElem?_append] at hi
    split at hi
    · exact ih h.2 hi
    · rename_i hlast
      rw [List.length_reverse] at hi hlast
      have hzero : i = earlier.length := by
        by_contra hne
        rw [List.getElem?_eq_none (by rw [List.length_singleton]; omega)] at hi
        cases hi
      rw [hzero, Nat.sub_self] at hi
      rw [hzero, ← Option.some.inj hi]
      exact h.1.sequence

/-- The first event starts the job. -/
theorem Ordered.head (h : Ordered events) (hne : events ≠ []) :
    ∃ event, events.reverse.head? = some event ∧
      event.kind = .operationStarted "worker.ios_device_build" := by
  induction events with
  | nil => exact absurd rfl hne
  | cons last earlier ih =>
    rw [List.reverse_cons]
    by_cases hearlier : earlier = []
    · rw [hearlier]
      exact ⟨last, rfl, h.1.first.mp hearlier⟩
    · obtain ⟨event, hhead, hkind⟩ := ih h.2 hearlier
      exact ⟨event, by rw [List.head?_append, hhead]; rfl, hkind⟩

/-- No phase is started twice. -/
theorem Ordered.nodup (h : Ordered events) :
    (startedPhases events).Nodup := by
  induction events with
  | nil => exact List.nodup_nil
  | cons last earlier ih =>
    rw [startedPhases, List.filter_cons]
    split
    · rename_i hstarted
      exact List.nodup_cons.mpr ⟨h.1.phase hstarted, ih h.2⟩
    · exact ih h.2

/-- Every event that the engine builds is accepted by the validator. -/
theorem valid_of_guaranteed
    (hg : (jobContract tools job).Guaranteed .init h) {event : RemoteBuildEvent} {r : Unit}
    (hmem : ⟨.newEvent event, r⟩ ∈ h) : event.validate (eventUrl tools) = .ok () := by
  obtain ⟨late, early, hsplit⟩ := List.append_of_mem hmem
  rw [hsplit] at hg
  exact Contract.guarantee_of_append hg

/-- The events of a run, in the order in which they were handed to the sink. -/
def sentEvents (h : History JobOp JobRes) : List RemoteBuildEvent := (h.filterMap emitted).reverse

/-- What holds of the events of a run that has returned a report. -/
structure TruthfulEvents (tools : RequestTools) (report : WorkerJobReport)
    (h : History JobOp JobRes) : Prop where
  sequence : ∀ i event, (sentEvents h)[i]? = some event → event.sequence.toNat = i + 1
  first : ∃ event, (sentEvents h).head? = some event ∧
    event.kind = .operationStarted "worker.ios_device_build"
  last : ∃ earlier event, sentEvents h = earlier ++ [event] ∧ isTerminalKind event.kind = true ∧
    (∀ e ∈ earlier, isTerminalKind e.kind = false) ∧ Agrees report event.kind
  phases : (startedPhases (sentEvents h)).Nodup
  valid : ∀ event r, ⟨.newEvent event, r⟩ ∈ h → event.validate (eventUrl tools) = .ok ()

theorem truthfulEvents {report : WorkerJobReport} (hg : (jobContract tools job).Guaranteed .init h)
    (htruthful : Truthful job report ((jobContract tools job).view .init h)) :
    TruthfulEvents tools report h := by
  have hordered := ordered_of_guaranteed hg
  obtain ⟨event, earlier, hevents, hterminal, hlive, hagrees⟩ := htruthful.terminal
  rw [view_events] at hevents
  exact {
    sequence := fun i event hi => hordered.sequence hi
    first := hordered.head (by rw [hevents]; exact List.cons_ne_nil _ _)
    last := by
      refine ⟨earlier.reverse, event, by rw [sentEvents, hevents, List.reverse_cons], hterminal,
        ?_, hagrees⟩
      intro e he
      exact hlive e (List.mem_reverse.mp he)
    phases := by
      have hnodup := hordered.nodup
      rw [startedPhases] at hnodup ⊢
      rw [sentEvents, List.filter_reverse, List.map_reverse, List.nodup_reverse]
      exact hnodup
    valid := fun _ _ hmem => valid_of_guaranteed hg hmem }

/-- **Truthful reports.** A job that has succeeded had every hook it needs succeed, its evidence
    accepted, no cancellation observed, and its cleanup confirmed with every path removed. A job
    for which all this holds has succeeded, unless the sink refused an event, a clock went back
    or the job root changed. The events of the job are numbered from one, start with the
    operation and end with the only terminal event, which agrees with the outcome. -/
theorem executeWorkerJob_truthful {jobRoot : String} {h : History JobOp JobRes}
    {report : WorkerJobReport} {u : Unit}
    (hruns : Prog.Runs (executeWorkerJob tools job jobRoot ()) h (.ret (.ok report, u))) :
    (report.outcome = .succeeded → Succeeds job ((jobContract tools job).view .init h) ∧
      ∃ confirmation, report.result.cleanup = some confirmation ∧
        Confirmed job ((jobContract tools job).view .init h) confirmation) ∧
    (Succeeds job ((jobContract tools job).view .init h) → report.result.cleanup.isSome = true →
      ((jobContract tools job).view .init h).disturbed = false → report.outcome = .succeeded) ∧
    TruthfulEvents tools report h := by
  rcases runs_executeWorkerJob hruns with hrefused | hrun
  · obtain ⟨-, e, he⟩ := hrefused
    cases he
  · obtain ⟨startedAtMs, monotonicStartMs, runner, late, runner', hvalid, hnew, hh, hrun⟩ := hrun
    obtain ⟨hg, -, htruthful⟩ := view_of_runs jobRoot hvalid hnew hrun
    rw [← hh] at hg htruthful
    have hreport := htruthful report rfl
    refine ⟨fun hsucceeded => ?_, hreport.succeeds, truthfulEvents hg hreport⟩
    obtain ⟨hsucceeds, hsome⟩ := hreport.succeeded hsucceeded
    obtain ⟨confirmation, hconfirmation⟩ := Option.isSome_iff_exists.mp hsome
    exact ⟨hsucceeds, confirmation, hconfirmation, hreport.confirmed _ hconfirmation⟩

end

end RustFerry.Worker
