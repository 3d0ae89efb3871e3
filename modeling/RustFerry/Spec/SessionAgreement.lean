import RustFerry.Spec.CleanupConfirmed
import RustFerry.Spec.SessionRun
import RustFerry.Spec.SessionSchedule

/-!
# Agreement of client and worker

A worker completes a session only after the client has acknowledged the artifact it was
offered and the job root is gone; and a client that returns an outcome agrees with the
worker on everything in it. Both hold in every state that the client, the worker and its
control monitor can come to, with any failure and any cancellation on the way.
-/

namespace RustFerry.Snapshot

open Remote

section

variable {op : ClientOp} {r : ClientRes op} {v : ClientView} {complete : SnapshotBuildComplete}
  {receipt : SnapshotArtifactReceipt}

section

variable {rules : SessionRules} {start : SnapshotBuildStart}

/-! ## What the view of a worker says about its past -/

theorem WorkerView.offered_next {v : WorkerView} {op : WorkerOp} {r : WorkerRes op}
    {descriptor : SnapshotArtifactDescriptor} (h : (v.next op r).offered = some descriptor) :
    v.offered = some descriptor ∨ ∃ sequence, (⟨op, r⟩ : Event WorkerOp WorkerRes) =
      ⟨.write ⟨sequence, .artifactDescriptor descriptor⟩, .ok ()⟩ := by
  unfold WorkerView.next at h
  split at h
  case h_8 frame result =>
    cases result with
    | error error => exact .inl h
    | ok u =>
      obtain ⟨sequence, written⟩ := frame
      cases written with
      | artifactDescriptor written =>
        cases h
        exact .inr ⟨sequence, rfl⟩
      | jobAccepted _ | event _ | artifact _ | complete _ | error _ => exact .inl h
  all_goals exact .inl h

theorem WorkerView.jobId_next {v : WorkerView} {op : WorkerOp} {r : WorkerRes op}
    {jobId : String} (h : (v.next op r).jobId = some jobId) :
    v.jobId = some jobId ∨ ∃ uuid, (⟨op, r⟩ : Event WorkerOp WorkerRes) = ⟨.newUuid, uuid⟩ ∧
      jobId = "ssh-" ++ uuid := by
  unfold WorkerView.next at h
  split at h
  case h_2 uuid => exact .inr ⟨uuid, rfl, (Option.some.inj h).symm⟩
  case h_8 frame result =>
    obtain ⟨sequence, written⟩ := frame
    cases result <;> cases written <;> exact .inl h
  all_goals exact .inl h

variable {past : History WorkerOp WorkerRes}

theorem mem_of_offered {descriptor : SnapshotArtifactDescriptor}
    (h : ((workerContract rules).view .init past).offered = some descriptor) :
    ∃ sequence, ⟨.write ⟨sequence, .artifactDescriptor descriptor⟩, .ok ()⟩ ∈ past := by
  have hevent : ∃ e ∈ past, ∃ sequence,
      e = ⟨.write ⟨sequence, .artifactDescriptor descriptor⟩, .ok ()⟩ :=
    Contract.exists_mem_of_view (P := fun v : WorkerView => v.offered = some descriptor)
      (by intro h; exact nomatch h) (fun _ _ _ => WorkerView.offered_next) h
  obtain ⟨e, hmem, sequence, rfl⟩ := hevent
  exact ⟨sequence, hmem⟩

theorem mem_of_receipt (h : ((workerContract rules).view .init past).receipt = some receipt) :
    ⟨.receiveControl, .ok (.receipt (.artifactReceipt receipt))⟩ ∈ past :=
  Contract.mem_of_view (P := fun v : WorkerView => v.receipt = some receipt)
    (by intro h; exact nomatch h) (fun _ _ _ => WorkerView.receipt_next) h

theorem mem_of_start {start : SnapshotBuildStart}
    (h : ((workerContract rules).view .init past).start = some start) :
    ⟨.readPayload, .ok (.buildRequest start)⟩ ∈ past :=
  Contract.mem_of_view (P := fun v : WorkerView => v.start = some start)
    (by intro h; exact nomatch h) (fun _ _ _ => WorkerView.start_next) h

theorem mem_of_job {jobId : String}
    (h : ((workerContract rules).view .init past).job = some jobId) :
    ∃ uuid, ⟨.newUuid, uuid⟩ ∈ past ∧ jobId = "ssh-" ++ uuid := by
  have h : ((workerContract rules).view .init past).jobId = some jobId := by
    unfold WorkerView.job at h
    split at h
    · exact h
    · cases h
  have hevent : ∃ e ∈ past, ∃ uuid, e = ⟨.newUuid, uuid⟩ ∧ jobId = "ssh-" ++ uuid :=
    Contract.exists_mem_of_view (P := fun v : WorkerView => v.jobId = some jobId)
      (by intro h; exact nomatch h) (fun _ _ _ => WorkerView.jobId_next) h
  obtain ⟨e, hmem, uuid, rfl, hid⟩ := hevent
  exact ⟨uuid, hmem, hid⟩

/-! ## What the view of a client says about its past -/

/-- The events that were handed to the caller, in order. -/
def deliveredEvents : History ClientOp ClientRes → List RemoteBuildEvent
  | [] => []
  | ⟨.deliver event, _⟩ :: past => deliveredEvents past ++ [event]
  | _ :: past => deliveredEvents past

theorem deliveredEvents_cons {past : History ClientOp ClientRes}
    (hop : ∀ event, op ≠ .deliver event) :
    deliveredEvents (⟨op, r⟩ :: past) = deliveredEvents past ∧
      (v.next op r).delivered = v.delivered := by
  cases op with
  | deliver event => exact absurd rfl (hop event)
  | readHeader => cases r <;> exact ⟨rfl, rfl⟩
  | readPayload => cases r <;> exact ⟨rfl, rfl⟩
  | readPublication path => cases r <;> exact ⟨rfl, rfl⟩
  | write frame =>
    refine ⟨rfl, ?_⟩
    cases r with
    | error error => rfl
    | ok u =>
      obtain ⟨sequence, written⟩ := frame
      cases written <;> rfl
  | step _ | readSource _ | streamSource _ _ _ | sourceUnchanged _ | flush | verifyArtifact _
  | readSpool | cleanupSpool => exact ⟨rfl, rfl⟩

/-- Events are delivered in sequence, from zero on. -/
theorem deliveredEvents_sequence {past : History ClientOp ClientRes}
    (hgood : (clientContract start).Guaranteed .init past) :
    (deliveredEvents past).map (·.sequence.toNat) =
      List.range ((clientContract start).view .init past).delivered := by
  induction past with
  | nil => rfl
  | cons e past ih =>
    obtain ⟨hevent, hearlier⟩ := hgood
    obtain ⟨op, r⟩ := e
    by_cases hop : ∃ event, op = .deliver event
    · obtain ⟨event, rfl⟩ := hop
      have hplace : event.sequence.toNat = ((clientContract start).view .init past).delivered :=
        hevent
      show (deliveredEvents past ++ [event]).map _ =
        List.range (((clientContract start).view .init past).delivered + 1)
      rw [List.map_append, ih hearlier, List.range_succ, List.map_singleton, hplace]
    · have hsame : deliveredEvents (⟨op, r⟩ :: past) = deliveredEvents past ∧
          (((clientContract start).view .init past).next op r).delivered =
            ((clientContract start).view .init past).delivered :=
        deliveredEvents_cons fun event h => hop ⟨event, h⟩
      rw [hsame.1, ih hearlier]
      exact congrArg List.range hsame.2.symm

theorem ClientView.published_next {path : ProtocolPath} {bytes : List UInt8}
    (h : (v.next op r).published = some (path, bytes)) :
    v.published = some (path, bytes) ∨
      (⟨op, r⟩ : Event ClientOp ClientRes) = ⟨.readPublication path, some bytes⟩ := by
  unfold ClientView.next at h
  split at h
  case h_6 path' found =>
    cases h
    exact .inr rfl
  case h_7 => split at h <;> exact .inl h
  all_goals exact .inl h

theorem ClientView.receipt_next (h : (v.next op r).receipt = some receipt) :
    v.receipt = some receipt ∨ ∃ sequence, (⟨op, r⟩ : Event ClientOp ClientRes) =
      ⟨.write ⟨sequence, .artifactReceipt receipt⟩, .ok ()⟩ := by
  unfold ClientView.next at h
  split at h
  case h_7 frame =>
    obtain ⟨sequence, written⟩ := frame
    cases written with
    | artifactReceipt written =>
      cases h
      exact .inr ⟨sequence, rfl⟩
    | buildRequest _ | sourceDescriptor _ | sourceArchive _ | cancel => exact .inl h
  all_goals exact .inl h

theorem ClientView.completes_next (h : (receipt, complete) ∈ (v.next op r).completes) :
    (receipt, complete) ∈ v.completes ∨ ((⟨op, r⟩ : Event ClientOp ClientRes) =
      ⟨.readPayload, .ok (.complete complete)⟩ ∧ v.receipt = some receipt) := by
  unfold ClientView.next at h
  split at h
  case h_3 message =>
    unfold ClientView.read at h
    split at h
    · rename_i read receipt' hreceipt
      rcases List.mem_cons.mp h with heq | h
      · cases heq
        exact .inr ⟨rfl, hreceipt⟩
      · exact .inl h
    · exact .inl h
  case h_7 => split at h <;> exact .inl h
  all_goals exact .inl h

variable {clientPast : History ClientOp ClientRes}

/-- What was read was an answer. -/
theorem mem_of_reads {message : ServerMessage}
    (h : message ∈ ((clientContract start).view .init clientPast).reads) :
    ⟨.readPayload, .ok message⟩ ∈ clientPast :=
  Contract.mem_of_view (P := fun v : ClientView => message ∈ v.reads)
    (by intro h; exact nomatch h) (fun _ _ _ => ClientView.mem_reads_next) h

theorem mem_of_published {path : ProtocolPath} {bytes : List UInt8}
    (h : ((clientContract start).view .init clientPast).published = some (path, bytes)) :
    ⟨.readPublication path, some bytes⟩ ∈ clientPast :=
  Contract.mem_of_view (P := fun v : ClientView => v.published = some (path, bytes))
    (by intro h; exact nomatch h) (fun _ _ _ => ClientView.published_next) h

/-- A completion counts only after the receipt. -/
theorem receipt_before_complete
    (h : (receipt, complete) ∈ ((clientContract start).view .init clientPast).completes) :
    ∃ late middle early sequence,
      clientPast = late ++ ⟨.readPayload, .ok (.complete complete)⟩ ::
        (middle ++ ⟨.write ⟨sequence, .artifactReceipt receipt⟩, .ok ()⟩ :: early) := by
  have hread : ∃ late e early, clientPast = late ++ e :: early ∧
      (e = ⟨.readPayload, .ok (.complete complete)⟩ ∧
        ((clientContract start).view .init early).receipt = some receipt) :=
    Contract.exists_event_of_view (P := fun v : ClientView => (receipt, complete) ∈ v.completes)
      (E := fun v e => e = ⟨.readPayload, .ok (.complete complete)⟩ ∧ v.receipt = some receipt)
      (by intro h; exact nomatch h) (fun _ _ _ => ClientView.completes_next) h
  obtain ⟨late, e, early, rfl, rfl, hreceipt⟩ := hread
  have hwrite : ∃ middle e early', early = middle ++ e :: early' ∧
      ∃ sequence, e = ⟨.write ⟨sequence, .artifactReceipt receipt⟩, .ok ()⟩ :=
    Contract.exists_event_of_view (P := fun v : ClientView => v.receipt = some receipt)
      (E := fun _ e => ∃ sequence, e = ⟨.write ⟨sequence, .artifactReceipt receipt⟩, .ok ()⟩)
      (by intro h; exact nomatch h) (fun _ _ _ => ClientView.receipt_next) hreceipt
  obtain ⟨middle, e, early', rfl, sequence, rfl⟩ := hwrite
  exact ⟨late, middle, early', sequence, rfl⟩

end

/-! ## Agreement -/

/-- The receipt names the artifact of the descriptor. -/
def SnapshotArtifactReceipt.Matches (receipt : SnapshotArtifactReceipt)
    (descriptor : SnapshotArtifactDescriptor) : Prop :=
  receipt.operationId = descriptor.operationId ∧ receipt.jobId = descriptor.jobId ∧
    receipt.artifactId = descriptor.artifact.artifactId ∧
    receipt.size = descriptor.artifact.size ∧ receipt.sha256 = descriptor.artifact.sha256

/-- The worker wrote the message. -/
def Wrote (past : History WorkerOp WorkerRes) (message : ServerMessage) : Prop :=
  ∃ sequence result, ⟨.write ⟨sequence, message⟩, result⟩ ∈ past

/-- What is agreed when the worker has completed: `early` is what it did before. -/
structure WorkerAgrees (system : System) (early : History WorkerOp WorkerRes) : Prop where
  removed : RootRemoved early
  receipt : ∃ sequence descriptor receipt,
    ⟨.write ⟨sequence, .artifactDescriptor descriptor⟩, .ok ()⟩ ∈ early ∧
    ⟨.receiveControl, .ok (.receipt (.artifactReceipt receipt))⟩ ∈ early ∧
    receipt.Matches descriptor ∧
    ∃ sequence result, ⟨.write ⟨sequence, .artifactReceipt receipt⟩, result⟩ ∈ system.client.past

/-- What is agreed when the client has returned an outcome. -/
structure ClientAgrees (rules : SessionRules) (request : SnapshotSessionRequest) (system : System)
    (outcome : SnapshotSessionOutcome) : Prop where
  completed : Wrote system.worker.past (.complete outcome.complete)
  receiptFirst : ∃ late middle early sequence,
    system.client.past = late ++ ⟨.readPayload, .ok (.complete outcome.complete)⟩ ::
      (middle ++ ⟨.write ⟨sequence, .artifactReceipt outcome.receipt⟩, .ok ()⟩ :: early)
  operation : ⟨.readPayload, .ok (.buildRequest request.start)⟩ ∈ system.worker.past ∧
    outcome.accepted.operationId = request.start.parameters.operationId ∧
    outcome.artifact.operationId = request.start.parameters.operationId ∧
    outcome.receipt.operationId = request.start.parameters.operationId ∧
    outcome.complete.operationId = request.start.parameters.operationId
  job : ∃ uuid, ⟨.newUuid, uuid⟩ ∈ system.worker.past ∧
    outcome.accepted.jobId = "ssh-" ++ uuid ∧ outcome.artifact.jobId = "ssh-" ++ uuid ∧
    outcome.receipt.jobId = "ssh-" ++ uuid ∧ outcome.complete.jobId = "ssh-" ++ uuid
  events : ∃ count, (deliveredEvents system.client.past).map (·.sequence.toNat) = List.range count
  artifact : Wrote system.worker.past (.artifactDescriptor outcome.artifact) ∧ ∃ bytes,
    ⟨.readPublication outcome.receipt.localPath, some bytes⟩ ∈ system.client.past ∧
    bytes.length = outcome.artifact.artifact.size.toNat ∧
    rules.sha256 bytes = outcome.artifact.artifact.sha256

section

variable {rules : SessionRules} {request : SnapshotSessionRequest} {system : System}

section

variable (hg : Genuine rules request system)

include hg

theorem Genuine.workerAgrees {late early : History WorkerOp WorkerRes} {sequence : UInt64}
    {result : Except DataPlane.WorkerDataPlaneFrameError Unit}
    (hpast : system.worker.past = late ++ ⟨.write ⟨sequence, .complete complete⟩, result⟩ :: early)
      :
    WorkerAgrees system early := by
  have hgood := hg.worker.past
  rw [hpast] at hgood
  obtain ⟨hevent, hearlier⟩ := Contract.guaranteed_append hgood
  obtain ⟨-, -, -, hremoved, descriptor, receipt, hoffered, hreceipt, hvalid⟩ := hevent
  have hmem := mem_of_receipt hreceipt
  refine ⟨(witnessed_of_guaranteed hearlier).removed hremoved, ?_⟩
  obtain ⟨place, hdescriptor⟩ := mem_of_offered hoffered
  refine ⟨place, descriptor, receipt, hdescriptor, hmem, receipt_eq_of_validateFor hvalid, ?_⟩
  exact hg.received _ (hpast ▸ List.mem_append_right _ (List.mem_cons_of_mem _ hmem))

/-- What the client read the worker wrote. -/
theorem Genuine.wrote {message : ServerMessage}
    (hread : message ∈ (system.clientView request.start).reads) (hbytes : message.bytes? = none) :
    Wrote system.worker.past message := by
  rcases hg.clientRead message (mem_of_reads hread) with hsome | hwrote
  · rw [hbytes] at hsome
    cases hsome
  · exact hwrote

/-- The job that the worker has accepted is the one it made, for the caller's build request. -/
theorem Genuine.accepted {accepted : SnapshotJobAccepted}
    (hwrote : Wrote system.worker.past (.jobAccepted accepted)) :
    ⟨.readPayload, .ok (.buildRequest request.start)⟩ ∈ system.worker.past ∧
      ∃ uuid, ⟨.newUuid, uuid⟩ ∈ system.worker.past ∧ accepted.jobId = "ssh-" ++ uuid := by
  obtain ⟨sequence, result, hmem⟩ := hwrote
  obtain ⟨late, early, hpast⟩ := List.append_of_mem hmem
  have hgood := hg.worker.past
  rw [hpast] at hgood
  obtain ⟨-, -, -, hjob, hoperation⟩ := Contract.guarantee_of_append hgood
  have hlater : ∀ e, e ∈ early → e ∈ system.worker.past := by
    intro e he
    rw [hpast]
    exact List.mem_append_right _ (List.mem_cons_of_mem _ he)
  constructor
  · obtain ⟨start, hstart, -⟩ := Option.map_eq_some_iff.mp hoperation
    have hread := hlater _ (mem_of_start hstart)
    have hsame : start = request.start := hg.workerRead _ hread
    exact hsame ▸ hread
  · obtain ⟨uuid, huuid, hid⟩ := mem_of_job hjob
    exact ⟨uuid, hlater _ huuid, hid⟩

theorem Genuine.clientAgrees {outcome : SnapshotSessionOutcome}
    {output : ClientOutput} (hreturned : system.client.rest = .ret (.ok outcome, output)) :
    ClientAgrees rules request system outcome := by
  have hpost : ClientPost rules request.start.parameters.operationId (.ok outcome, output)
      (system.clientView request.start) := hg.client.returned hreturned
  have hagreed := hpost.1
  obtain ⟨hstart, uuid, huuid, hid⟩ := hg.accepted (hg.wrote hagreed.accepted rfl)
  obtain ⟨hroperation, hrjob, -⟩ := receipt_eq_of_validateFor hagreed.receiptValid
  have hajob : outcome.artifact.jobId = "ssh-" ++ uuid := hagreed.artifactJob.trans hid
  obtain ⟨bytes, hbytes, hsize, hsha256⟩ := hagreed.published
  obtain ⟨late, middle, early, sequence, hpast⟩ := receipt_before_complete hagreed.complete
  have hcomplete : ⟨.readPayload, .ok (.complete outcome.complete)⟩ ∈ system.client.past := by
    rw [show system.client.past = _ from hpast]
    exact List.mem_append_right _ List.mem_cons_self
  constructor
  · rcases hg.clientRead _ hcomplete with hsome | hwrote
    · cases hsome
    · exact hwrote
  · exact ⟨late, middle, early, sequence, hpast⟩
  · exact ⟨hstart, hagreed.operation, hagreed.artifactOperation,
      hroperation.trans hagreed.artifactOperation, hagreed.completeOperation⟩
  · exact ⟨uuid, huuid, hid, hajob, hrjob.trans hajob, hagreed.completeJob.trans hid⟩
  · exact ⟨_, deliveredEvents_sequence hg.client.past⟩
  · exact ⟨hg.wrote hagreed.artifact rfl, bytes, mem_of_published hbytes, hsize, hsha256⟩

end

end

/-- In every state that a session can come to: (a) when the worker has written a completion,
    it had removed its job root before, and had received the client's receipt for the
    artifact it offered; (b) when the client has returned an outcome, the worker has written
    its completion, which the client read after it had sent the receipt, both agree on the
    operation and the job, the events were delivered in sequence, and the published bytes are
    those of the worker's descriptor. -/
theorem session_agreement (rules : SessionRules) (workerRoot : String)
    (request : SnapshotSessionRequest) (system : System)
    (hreachable : System.Reachable rules workerRoot request system) :
    (∀ late early sequence complete result,
      system.worker.past = late ++ ⟨.write ⟨sequence, .complete complete⟩, result⟩ :: early →
      WorkerAgrees system early) ∧
    (∀ outcome output, system.client.rest = .ret (.ok outcome, output) →
      ClientAgrees rules request system outcome) := by
  have hg := genuine_of_reachable hreachable
  constructor
  · intro late early sequence complete result hpast
    exact hg.workerAgrees hpast
  · intro outcome output hreturned
    exact hg.clientAgrees hreturned

end

/-! ## A session that completes -/

namespace Sample

/-- The rules of the session for these bytes. -/
def sessionRules : SessionRules :=
  { rules with
    parseDescriptor := fun bytes => if bytes = sourceJson then some descriptor else none
    sha256 := fun bytes =>
      if bytes = sourceJson then start.sourceDescriptorSha256
      else if bytes = archiveBytes then archive.sha256
      else if bytes = sealedArchive then
        "84e464b65a7fedb3408d2125c5696eb70bb16ae5f2a9ee352f9d91d2c994b7fd"
      else "" }

def request : SnapshotSessionRequest := ⟨start, fun _ => true⟩

def compiled (request : IosDeviceBuildRequest) (jobId : String) : SnapshotCompileOutput where
  handoff := {
    schemaVersion := compileHandoffSchemaVersion
    request
    compile := {
      jobId
      provider := sshProviderId
      requestSha256 := "040cbc992a366e79ada31bb639416b4e9ccd1d69042173550a1c450d5b90ac00"
      sourceSha256 := request.source.sha256
      transport := ⟨14, "84e464b65a7fedb3408d2125c5696eb70bb16ae5f2a9ee352f9d91d2c994b7fd"⟩
      details := "" } }
  artifactPath := unsignedArchivePath "/worker" jobId

/-- Every local operation succeeds. -/
def plan : Plan where
  worker
    | .step _ | .syncWorkerRoot | .spawnMonitor _ | .flush => true
    | .newUuid => "0123456789abcdef0123456789abcdef"
    | .clock => 0
    | .createDirectory _ => some 3
    | .directoryIdentity _ => some 7
    | .removeTree _ => .removed
    | .isUnlinked _ => some true
    | .compile request jobId => .ok (compiled request jobId)
    | .streamArtifact _ _ => .sent sealedArchive
    | .readHeader | .readPayload => .error ⟨.io, false⟩
    | .write _ => .error .io
    | .isCancelled => false
    | .tryReceiveControl => none
    | .receiveControl => .error .timeout
    | .allowReceipt => ()
  client
    | .step _ | .sourceUnchanged _ | .flush | .deliver _ | .cleanupSpool => true
    | .readSource .descriptor => .bytes sourceJson
    | .readSource .archive => .bytes archiveBytes
    | .streamSource .descriptor _ _ => .sent sourceJson
    | .streamSource .archive _ _ => .sent archiveBytes
    | .verifyArtifact _ => .published ⟨.clientAbsolute, "/tmp/unsigned-archive.zip"⟩
    | .readSpool => .bytes sealedArchive
    | .readPublication _ => some sealedArchive
    | .readHeader | .readPayload => .error .io
    | .write _ => .error .io

/-- The threads take turns. -/
def rounds (n : Nat) : List Turn := (List.replicate n [Turn.client, .worker, .monitor]).flatten

def completedRun : System := (System.new sessionRules "/worker" request).run plan (rounds 106)

def outcome? (system : System) : Option SnapshotSessionOutcome :=
  match system.client.rest with
  | .ret (.ok outcome, _) => some outcome
  | _ => none

theorem returned_of_outcome? {system : System} {outcome : SnapshotSessionOutcome}
    (h : outcome? system = some outcome) :
    ∃ output, system.client.rest = .ret (.ok outcome, output) := by
  unfold outcome? at h
  split at h
  · rename_i outcome' output hrest
    cases h
    exact ⟨output, hrest⟩
  · cases h

/-- The client uploads, the worker builds and writes the artifact, the client verifies it and
    sends its receipt, and the monitor reads its header and asks for the phase. The main thread
    has `more` turns after the artifact. -/
def receiptTurns (more : Nat) : List Turn :=
  List.replicate 25 .client ++ List.replicate (60 + more) .worker ++ List.replicate 49 .client ++
    List.replicate 2 .monitor

def foundPhase (allowed : Bool) : Event MonitorOp MonitorRes → Bool
  | ⟨.receiptAllowed, answer⟩ => answer == allowed
  | _ => false

/-- The monitor has asked for the phase, with the given answer. -/
def askedPhase (allowed : Bool) (system : System) : Bool :=
  system.monitor.any fun thread => thread.past.any (foundPhase allowed)

/-- The client does not write a receipt next, or the phase awaits it. -/
def receiptReady (system : System) : Bool :=
  match system.client.rest with
  | .call (.write ⟨_, .artifactReceipt _⟩) _ => system.shared.phase = .awaitingReceipt
  | _ => true

/-- Run a schedule, as long as every receipt is awaited. -/
def awaitedRun (plan : Plan) : System → List Turn → Option System
  | system, [] => some system
  | system, turn :: turns =>
    if receiptReady system then awaitedRun plan ((system.advance plan turn).getD system) turns
    else none

/-- The characters of the settings of `start`. -/
def buildChars : List Char :=
  ['\x7b', '"', 'p', 'r', 'o', 'd', 'u', 'c', 't', '_', 'n', 'a', 'm', 'e', '"', ':', '"', 'A', 'p',
    'p', '"', ',', '"', 'b', 'u', 'n', 'd', 'l', 'e', '_', 'i', 'd', 'e', 'n', 't', 'i', 'f', 'i',
    'e', 'r', '"', ':', '"', 'c', 'o', 'm', '.', 'e', 'x', 'a', 'm', 'p', 'l', 'e', '.', 'a', 'p',
    'p', '"', ',', '"', 'm', 'i', 'n', 'i', 'm', 'u', 'm', '_', 'i', 'o', 's', '_', 'v', 'e', 'r',
    's', 'i', 'o', 'n', '"', ':', '"', '1', '6', '.', '0', '"', ',', '"', 'p', 'r', 'o', 'd', 'u',
    'c', 't', '"', ':', '\x7b', '"', 'a', 'p', 'p', '_', 'd', 'i', 'r', 'e', 'c', 't', 'o', 'r',
    'y', '_', 'n', 'a', 'm', 'e', '"', ':', '"', 'A', 'p', 'p', '.', 'a', 'p', 'p', '"', ',', '"',
    'e', 'x', 'e', 'c', 'u', 't', 'a', 'b', 'l', 'e', '"', ':', '"', 'A', 'p', 'p', '"', ',', '"',
    'a', 'p', 'p', '_', 'v', 'e', 'r', 's', 'i', 'o', 'n', '"', ':', '"', '1', '.', '0', '"', ',',
    '"', 'b', 'u', 'i', 'l', 'd', '_', 'n', 'u', 'm', 'b', 'e', 'r', '"', ':', '"', '1', '"', ',',
    '"', 'n', 'e', 's', 't', 'e', 'd', '_', 'b', 'u', 'n', 'd', 'l', 'e', 's', '"', ':', '[', ']',
    '\x7d', ',', '"', 'p', 'r', 'o', 'f', 'i', 'l', 'e', '"', ':', '"', 'r', 'e', 'l', 'e', 'a',
    's', 'e', '"', ',', '"', 's', 'i', 'g', 'n', 'i', 'n', 'g', '"', ':', '\x7b', '"', 'm', 'o',
    'd', 'e', '"', ':', '"', 'u', 'n', 's', 'i', 'g', 'n', 'e', 'd', '-', 'c', 'o', 'm', 'p', 'i',
    'l', 'e', '-', 'o', 'n', 'l', 'y', '"', ',', '"', 's', 'i', 'g', 'n', 'i', 'n', 'g', '"', ':',
    'n', 'u', 'l', 'l', ',', '"', 't', 'e', 'a', 'm', '"', ':', 'n', 'u', 'l', 'l', ',', '"', 'd',
    'e', 'v', 'i', 'c', 'e', '"', ':', 'n', 'u', 'l', 'l', ',', '"', 't', 'a', 'r', 'g', 'e', 't',
    's', '"', ':', '[', '\x7b', '"', 'n', 'a', 'm', 'e', '"', ':', '"', 'A', 'p', 'p', '"', ',',
    '"', 'b', 'u', 'n', 'd', 'l', 'e', '_', 'i', 'd', 'e', 'n', 't', 'i', 'f', 'i', 'e', 'r', '"',
    ':', '"', 'c', 'o', 'm', '.', 'e', 'x', 'a', 'm', 'p', 'l', 'e', '.', 'a', 'p', 'p', '"', ',',
    '"', 'k', 'i', 'n', 'd', '"', ':', '"', 'a', 'p', 'p', 'l', 'i', 'c', 'a', 't', 'i', 'o', 'n',
    '"', '\x7d', ']', ',', '"', 'p', 'r', 'o', 'v', 'i', 's', 'i', 'o', 'n', 'i', 'n', 'g', '"',
    ':', '[', ']', ',', '"', 'e', 'n', 't', 'i', 't', 'l', 'e', 'm', 'e', 'n', 't', 's', '"', ':',
    '[', ']', ',', '"', 'a', 'l', 'l', 'o', 'w', '_', 'p', 'r', 'o', 'v', 'i', 's', 'i', 'o', 'n',
    'i', 'n', 'g', '_', 'u', 'p', 'd', 'a', 't', 'e', 's', '"', ':', 'f', 'a', 'l', 's', 'e',
    '\x7d', ',', '"', 'r', 'e', 'q', 'u', 'e', 's', 't', 'e', 'd', '_', 'a', 'r', 't', 'i', 'f',
    'a', 'c', 't', 's', '"', ':', '[', '"', 'x', 'c', 'a', 'r', 'c', 'h', 'i', 'v', 'e', '"', ']',
    '\x7d']

/-- `start` with its settings as a text that evaluates fast. -/
def quickStart : SnapshotBuildStart :=
  { start with parameters := { start.parameters with
    build := Text.ofChars buildChars } }

set_option maxRecDepth 4000 in
theorem start_eq_quickStart : start = quickStart := by
  rw [quickStart, ← Text.ofList_eq_ofChars]
  rfl

/-- A complete session, one with a receipt that comes too early, and one with a receipt in time. -/
theorem runs_finish :
    (outcome? completedRun).isSome = true ∧
      askedPhase false
        ((System.new sessionRules "/worker" request).run plan (receiptTurns 0)) = true ∧
      (awaitedRun plan (System.new sessionRules "/worker" request) (receiptTurns 2)).any
        (askedPhase true) = true := by
  delta completedRun request
  rw [start_eq_quickStart]
  decide +kernel

/-- A session in which nothing fails ends with an outcome that both agree on. -/
theorem agreement_of_completedRun :
    ∃ outcome, outcome? completedRun = some outcome ∧
      ClientAgrees sessionRules request completedRun outcome := by
  obtain ⟨outcome, houtcome⟩ := Option.isSome_iff_exists.mp runs_finish.1
  obtain ⟨output, hreturned⟩ := returned_of_outcome? houtcome
  have hreachable : System.Reachable sessionRules "/worker" request completedRun :=
    reachable_run _ _ _ _ _
  exact ⟨outcome, houtcome,
    (session_agreement sessionRules "/worker" request completedRun hreachable).2 outcome output
      hreturned⟩

end Sample

end RustFerry.Snapshot
