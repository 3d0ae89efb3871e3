import RustFerry.Spec.ServerErrors

/-!
# A client with any worker

A client returns an outcome only when it has seen to everything in it itself, whatever the worker
sends and whatever fails. In a session its worker keeps every frame in place.
-/

namespace RustFerry.Snapshot

section

variable {rules : SessionRules} {workerRoot : String} {request : SnapshotSessionRequest}

/-! ## Runs of a system -/

/-- In a session the client runs its program. -/
theorem runs_of_reachable {system : System}
    (hreachable : System.Reachable rules workerRoot request system) :
    Prog.Runs (runSnapshotSession rules request .new) system.client.past system.client.rest := by
  induction hreachable with
  | refl => exact .start
  | tail _ hstep ih =>
    cases hstep with
    | client hthread hshared => exact hthread.runs ih
    | worker _ _ | monitor _ _ _ | bestEffortCancel _ _ _ _ => exact ih

/-! ## Frames of a worker -/

/-- On the worker's stream a frame carries the kind of its payload, the number of the frames
    before it, if none of them was cut off, and nothing comes after an error. -/
theorem frames_in_place {system : System}
    (hreachable : System.Reachable rules workerRoot request system) :
    (∀ i s, system.shared.download.sent[i]? = some s →
      (∀ s' ∈ system.shared.download.sent.take i, s'.payload.isSome) →
      s.header.sequence.toNat = i) ∧
    (∀ s ∈ system.shared.download.sent, ∀ message, s.payload = some message →
      s.header.kind = message.kind) ∧
    ∀ i s, system.shared.download.sent[i]? = some s → s.header.kind = .error →
      i + 1 = system.shared.download.sent.length := by
  have hlogged := (ordered_of_reachable hreachable).2.logged
  exact ⟨hlogged.sequence, hlogged.kind, fun i s hs hkind => (hlogged.errorLast i s hs hkind).1⟩

/-! ## Outcome of a client -/

/-- What a client has seen to itself when it returns an outcome. -/
structure Verified (rules : SessionRules) (request : SnapshotSessionRequest)
    (h : History ClientOp ClientRes) (outcome : SnapshotSessionOutcome) : Prop where
  published : ∃ bytes, ⟨.readPublication outcome.receipt.localPath, some bytes⟩ ∈ h ∧
    bytes.length = outcome.artifact.artifact.size.toNat ∧
    rules.sha256 bytes = outcome.artifact.artifact.sha256
  read : ⟨.readPayload, .ok (.jobAccepted outcome.accepted)⟩ ∈ h ∧
    ⟨.readPayload, .ok (.artifactDescriptor outcome.artifact)⟩ ∈ h
  receiptFirst : ∃ late middle early sequence,
    h = late ++ ⟨.readPayload, .ok (.complete outcome.complete)⟩ ::
      (middle ++ ⟨.write ⟨sequence, .artifactReceipt outcome.receipt⟩, .ok ()⟩ :: early)
  receipt : outcome.receipt.Matches outcome.artifact
  operation : outcome.accepted.operationId = request.start.parameters.operationId ∧
    outcome.artifact.operationId = request.start.parameters.operationId ∧
    outcome.complete.operationId = request.start.parameters.operationId
  job : outcome.artifact.jobId = outcome.accepted.jobId ∧
    outcome.complete.jobId = outcome.accepted.jobId
  events : ∃ count, (deliveredEvents h).map (·.sequence.toNat) = List.range count
  requested : ∀ sequence start result, ⟨.write ⟨sequence, .buildRequest start⟩, result⟩ ∈ h →
    start = request.start

/-- A worker that does as it pleases cannot make a client return an outcome that it has not
    verified: the published bytes are those of the descriptor it has read, under the identity
    of its own request, and it has sent the receipt before it has read the completion. -/
theorem client_outcome_verified {h : History ClientOp ClientRes} {outcome : SnapshotSessionOutcome}
    {output : ClientOutput}
    (hruns : Prog.Runs (runSnapshotSession rules request .new) h (.ret (.ok outcome, output))) :
    Verified rules request h outcome := by
  have hassumed : ∀ h, (clientContract request.start).Assumed .init h := by
    intro h
    induction h with
    | nil => trivial
    | cons e h ih => exact ⟨trivial, ih⟩
  obtain ⟨hgood, hpost⟩ :=
    Prog.wp_of_runs (wp_runSnapshotSession rules request) hruns (hassumed h)
  have hagreed : Agreed rules request.start.parameters.operationId outcome
      ((clientContract request.start).view .init h) := hpost.1
  obtain ⟨bytes, hbytes, hsize, hsha256⟩ := hagreed.published
  constructor
  · exact ⟨bytes, mem_of_published hbytes, hsize, hsha256⟩
  · exact ⟨mem_of_reads hagreed.accepted, mem_of_reads hagreed.artifact⟩
  · exact receipt_before_complete hagreed.complete
  · exact receipt_eq_of_validateFor hagreed.receiptValid
  · exact ⟨hagreed.operation, hagreed.artifactOperation, hagreed.completeOperation⟩
  · exact ⟨hagreed.artifactJob, hagreed.completeJob⟩
  · exact ⟨_, deliveredEvents_sequence hgood⟩
  · intro sequence start result hmem
    obtain ⟨late, early, rfl⟩ := List.append_of_mem hmem
    exact Contract.guarantee_of_append hgood

end

/-! ## A session that completes -/

namespace Sample

theorem reachable_completedRun : System.Reachable sessionRules "/worker" request completedRun :=
  reachable_run _ _ _ _ _

theorem frames_in_place_of_completedRun :
    (∀ s ∈ completedRun.shared.download.sent, ∀ message, s.payload = some message →
      s.header.kind = message.kind) ∧
    ∀ i s, completedRun.shared.download.sent[i]? = some s → s.header.kind = .error →
      i + 1 = completedRun.shared.download.sent.length :=
  (frames_in_place reachable_completedRun).2

theorem outcome_verified_of_completedRun :
    ∃ outcome, outcome? completedRun = some outcome ∧
      Verified sessionRules request completedRun.client.past outcome := by
  obtain ⟨outcome, houtcome⟩ := Option.isSome_iff_exists.mp runs_finish.1
  obtain ⟨output, hreturned⟩ := returned_of_outcome? houtcome
  have hruns := runs_of_reachable reachable_completedRun
  exact ⟨outcome, houtcome, client_outcome_verified (hreturned ▸ hruns)⟩

end Sample

end RustFerry.Snapshot
