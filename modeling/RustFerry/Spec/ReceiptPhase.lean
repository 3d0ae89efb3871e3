import RustFerry.Spec.SessionAgreement

/-!
# Receipts and the control phase

The monitor reads a receipt only in the phase that awaits one. The main thread enters this
phase after it has written the whole artifact, so a client can have verified the artifact
and sent its receipt before: then the monitor takes the receipt for one that is too early.
When the phase is entered before the client writes its receipt, this does not happen.
-/

namespace RustFerry.Snapshot

open Remote

section

variable {header : FrameHeader} {shared : Shared}

/-- If this is the step in which the client writes a receipt, the phase awaits one. -/
def ReceiptAwaited (system system' : System) : Prop :=
  ∀ sequence receipt result,
    system'.client.past = ⟨.write ⟨sequence, .artifactReceipt receipt⟩, result⟩ :: system.client.past →
    system.shared.phase = .awaitingReceipt

/-- Whatever stands on the client's stream, or was read by the monitor, a receipt among it
    means that the phase awaits one; and the monitor has found no receipt too early. -/
structure Awaited (system : System) : Prop where
  sent : ∀ s ∈ system.shared.upload.sent, s.header.kind = .artifactReceipt →
    system.shared.phase = .awaitingReceipt
  read : ∀ thread header, system.monitor = some thread →
    ⟨.readHeader, .ok header⟩ ∈ thread.past → header.kind = .artifactReceipt →
    system.shared.phase = .awaitingReceipt
  early : ∀ thread, system.monitor = some thread → ⟨.receiptAllowed, false⟩ ∉ thread.past

section

variable {rules : SessionRules} {request : SnapshotSessionRequest} {system : System}

theorem mem_sent_append {stream : Stream ClientMessage} {message : ClientMessage}
    {delivery : Delivery} {s : Sent ClientMessage}
    (h : s ∈ (stream.append header message delivery).sent) :
    s ∈ stream.sent ∨ s.header = header := by
  cases delivery with
  | nothing => exact .inl h
  | torn | whole =>
    rcases List.mem_append.mp h with h | h
    · exact .inl h
    · rw [List.mem_singleton.mp h]
      exact .inr rfl

/-- A step of the client puts a receipt on its stream only by writing one. -/
theorem Shared.Client.upload_sent {shared' : Shared} {op : ClientOp} {r : ClientRes op}
    (h : shared.Client op r shared') {s : Sent ClientMessage} (hs : s ∈ shared'.upload.sent)
    (hkind : s.header.kind = .artifactReceipt) :
    s ∈ shared.upload.sent ∨ ∃ sequence receipt, op = .write ⟨sequence, .artifactReceipt receipt⟩ := by
  rcases h.effect.1 with hsame | ⟨header, message, delivery, happend, hheader, hmessage⟩
  · exact .inl (hsame ▸ hs)
  rw [happend] at hs
  rcases mem_sent_append hs with hs | rfl
  · exact .inl hs
  right
  -- no bytes are a receipt
  rw [hheader] at hkind
  rcases hmessage with ⟨sequence, rfl⟩ | hbytes
  · cases message with
    | artifactReceipt receipt => exact ⟨sequence, receipt, rfl⟩
    | buildRequest _ | sourceDescriptor _ | sourceArchive _ | cancel => cases hkind
  · cases message with
    | sourceDescriptor _ | sourceArchive _ => cases hkind
    | buildRequest _ | artifactReceipt _ | cancel => cases hbytes

theorem MonitorView.header_next {v : MonitorView} {op : MonitorOp} {r : MonitorRes op}
    (h : (v.next op r).header = some header) :
    v.header = some header ∨
      (⟨op, r⟩ : Event MonitorOp MonitorRes) = ⟨.readHeader, .ok header⟩ := by
  unfold MonitorView.next at h
  split at h
  · cases h
    exact .inr rfl
  · exact .inl h
  · exact .inl h

theorem mem_of_monitorHeader {past : History MonitorOp MonitorRes}
    (h : (monitorContract.view .init past).header = some header) :
    ⟨.readHeader, .ok header⟩ ∈ past :=
  Contract.mem_of_view (P := fun v : MonitorView => v.header = some header)
    (by intro h; exact nomatch h) (fun _ _ _ => MonitorView.header_next) h

/-- A step of the client that waits for its turn. -/
theorem Awaited.clientStep (ha : Awaited system) {op : ClientOp} {r : ClientRes op}
    {client : ClientThread} (hthread : system.client.Step op r client)
    (hshared : system.shared.Client op r shared)
    (hawaited : ReceiptAwaited system { system with client, shared }) :
    Awaited { system with client, shared } := by
  obtain ⟨-, -, -, hphase⟩ := hshared.effect
  have hphase : shared.phase = system.shared.phase := hphase
  refine ⟨?_, ?_, ha.early⟩
  · intro s hs hkind
    show shared.phase = _
    rw [hphase]
    rcases hshared.upload_sent hs hkind with hs | ⟨sequence, receipt, rfl⟩
    · exact ha.sent s hs hkind
    · exact hawaited sequence receipt r hthread.past_eq
  · intro thread header hmonitor hheader hkind
    show shared.phase = _
    rw [hphase]
    exact ha.read thread header hmonitor hheader hkind

theorem Awaited.workerStep (ha : Awaited system) {op : WorkerOp} {r : WorkerRes op}
    {worker : WorkerThread} (hshared : system.shared.Worker op r shared) :
    Awaited { system with worker, shared, monitor := spawned system.monitor op r } := by
  obtain ⟨-, hsent, -, hphase⟩ := hshared.effect
  refine ⟨?_, ?_, ?_⟩
  · intro s hs hkind
    rw [show shared.upload.sent = _ from hsent.sent] at hs
    exact hphase (ha.sent s hs hkind)
  · intro thread header hmonitor hheader hkind
    rcases spawned_cases hmonitor with hmonitor | ⟨sequence, rfl⟩
    · exact hphase (ha.read thread header hmonitor hheader hkind)
    · -- a monitor that was just started has read nothing yet
      cases hheader
  · intro thread hmonitor
    rcases spawned_cases hmonitor with hmonitor | ⟨sequence, rfl⟩
    · exact ha.early thread hmonitor
    · intro h
      cases h

/-- A step of the monitor. -/
theorem Awaited.monitorStep (hg : Genuine rules request system) (ha : Awaited system)
    {op : MonitorOp} {r : MonitorRes op} {thread monitor : MonitorThread}
    (hmonitor : system.monitor = some thread) (hthread : thread.Step op r monitor)
    (hshared : system.shared.Monitor op r shared) :
    Awaited { system with monitor := some monitor, shared } := by
  obtain ⟨hallows, -⟩ := (hg.monitor thread hmonitor).step hthread trivial
  obtain ⟨hsent, -, hphase, -⟩ := hshared.effect
  have hphase : shared.phase = system.shared.phase := hphase
  have hpast : monitor.past = ⟨op, r⟩ :: thread.past := hthread.past_eq
  refine ⟨?_, ?_, ?_⟩
  · intro s hs hkind
    show shared.phase = _
    rw [hphase]
    rw [show shared.upload.sent = _ from hsent.sent] at hs
    exact ha.sent s hs hkind
  · rintro _ header ⟨⟩ hheader hkind
    show shared.phase = _
    rw [hphase]
    rw [hpast] at hheader
    rcases List.mem_cons.mp hheader with hevent | hheader
    · cases hevent
      obtain ⟨upload, ⟨-, -, ⟨s, hnext, rfl⟩, -⟩, -⟩ := hshared
      exact ha.sent s (List.mem_of_getElem? hnext) hkind
    · exact ha.read thread header hmonitor hheader hkind
  · rintro _ ⟨⟩ hmem
    rw [hpast] at hmem
    rcases List.mem_cons.mp hmem with hevent | hmem
    · -- the phase was asked after the header of a receipt
      cases hevent
      obtain ⟨header, hheader, hkind⟩ := hallows
      have hawaiting := ha.read thread header hmonitor (mem_of_monitorHeader hheader) hkind
      obtain ⟨hanswer, -⟩ := hshared
      rw [hawaiting] at hanswer
      cases hanswer
    · exact ha.early thread hmonitor hmem

/-- Any step that meets the condition. -/
theorem Awaited.step {system' : System} (hg : Genuine rules request system) (ha : Awaited system)
    (h : system.Step system') (hawaited : ReceiptAwaited system system') : Awaited system' := by
  cases h with
  | client hthread hshared => exact ha.clientStep hthread hshared hawaited
  | worker hthread hshared => exact ha.workerStep hshared
  | monitor hmonitor hthread hshared => exact ha.monitorStep hg hmonitor hthread hshared
  | bestEffortCancel hreturned hcancel honce hwrite =>
    refine ⟨?_, ha.read, ha.early⟩
    intro s hs hkind
    obtain ⟨header, delivery, hheader, -, rfl⟩ := hwrite
    rcases mem_sent_append hs with hs | rfl
    · exact ha.sent s hs hkind
    · exact nomatch hheader.1.symm.trans hkind

end

/-- In every run in which the phase awaits a receipt whenever the client writes one, the phase
    awaits one when the monitor has read the header of a receipt, and the monitor finds no
    receipt too early. -/
theorem receipt_not_too_early (rules : SessionRules) (workerRoot : String)
    (request : SnapshotSessionRequest) (system : System)
    (hrun : Relation.ReflTransGen (fun s s' => s.Step s' ∧ ReceiptAwaited s s')
      (System.new rules workerRoot request) system) :
    ∀ thread, system.monitor = some thread → ⟨.receiptAllowed, false⟩ ∉ thread.past ∧
      ∀ header, ⟨.readHeader, .ok header⟩ ∈ thread.past → header.kind = .artifactReceipt →
        system.shared.phase = .awaitingReceipt := by
  have hinvariant : Genuine rules request system ∧ Awaited system := by
    induction hrun with
    | refl =>
      refine ⟨genuine_new, ?_, ?_, ?_⟩
      · intro s hs
        cases hs
      · intro thread header hmonitor
        cases hmonitor
      · intro thread hmonitor
        cases hmonitor
    | tail _ hstep ih =>
      obtain ⟨hstep, hawaited⟩ := hstep
      exact ⟨ih.1.step hstep, ih.2.step ih.1 hstep hawaited⟩
  intro thread hmonitor
  refine ⟨hinvariant.2.early thread hmonitor, ?_⟩
  intro header hmem hkind
  exact hinvariant.2.read thread header hmonitor hmem hkind

end

/-! ## A receipt that is found too early -/

namespace Sample

/-- The executable test for the monitor's question. -/
theorem askedPhase_spec {allowed : Bool} {system : System} (h : askedPhase allowed system = true) :
    ∃ thread, system.monitor = some thread ∧ ⟨.receiptAllowed, allowed⟩ ∈ thread.past := by
  obtain ⟨thread, hmonitor, hany⟩ := (Option.any_eq_true _ _).mp h
  obtain ⟨e, hmem, he⟩ := List.any_eq_true.mp hany
  unfold foundPhase at he
  split at he
  · rw [beq_iff_eq] at he
    exact ⟨thread, hmonitor, he ▸ hmem⟩
  · cases he

/-- The client writes its receipt after the last byte of the artifact and before the main
    thread goes on: the monitor finds it too early. -/
theorem receipt_too_early :
    ¬∀ (rules : SessionRules) (workerRoot : String) (request : SnapshotSessionRequest)
      (system : System), System.Reachable rules workerRoot request system →
      ∀ thread, system.monitor = some thread → ⟨.receiptAllowed, false⟩ ∉ thread.past := by
  intro hclaim
  have hasked : askedPhase false
      ((System.new sessionRules "/worker" request).run plan (receiptTurns 0)) = true :=
    runs_finish.2.1
  obtain ⟨thread, hmonitor, hmem⟩ := askedPhase_spec hasked
  exact hclaim sessionRules "/worker" request _ (reachable_run _ _ _ _ _) thread hmonitor hmem

theorem receiptAwaited_of_ready {system system' : System} {turn : Turn}
    (hready : receiptReady system = true) (h : system.advance plan turn = some system') :
    ReceiptAwaited system system' := by
  intro sequence receipt result hpast
  cases turn with
  | client =>
    obtain ⟨⟨e, client, shared⟩, hresume, rfl⟩ := Option.map_eq_some_iff.mp h
    obtain ⟨hthread, -⟩ := Thread.resume_eq_some hresume
    have hevent : e = ⟨.write ⟨sequence, .artifactReceipt receipt⟩, result⟩ :=
      (List.cons.inj (hthread.past_eq.symm.trans hpast)).1
    subst hevent
    generalize hclient : system.client = thread at hthread
    cases hthread with
    | answer =>
      unfold receiptReady at hready
      rw [hclient] at hready
      exact of_decide_eq_true hready
  | worker =>
    obtain ⟨⟨e, worker, shared⟩, hresume, rfl⟩ := Option.map_eq_some_iff.mp h
    exact absurd (congrArg List.length hpast) (by simp)
  | monitor =>
    obtain ⟨thread, hmonitor, h⟩ := Option.bind_eq_some_iff.mp h
    obtain ⟨⟨e, monitor, shared⟩, hresume, rfl⟩ := Option.map_eq_some_iff.mp h
    exact absurd (congrArg List.length hpast) (by simp)

theorem steps_awaitedRun {turns : List Turn} {system system' : System}
    (h : awaitedRun plan system turns = some system') :
    Relation.ReflTransGen (fun s s' => s.Step s' ∧ ReceiptAwaited s s') system system' := by
  induction turns generalizing system with
  | nil =>
    cases h
    exact .refl
  | cons turn turns ih =>
    rw [awaitedRun] at h
    split at h
    · rename_i hready
      cases hadvance : system.advance plan turn with
      | none =>
        rw [hadvance] at h
        exact ih h
      | some next =>
        rw [hadvance] at h
        exact .head ⟨step_of_advance hadvance, receiptAwaited_of_ready hready hadvance⟩ (ih h)
    · cases h

/-- Two turns later the monitor lets the receipt through. -/
theorem receipt_in_time :
    ∃ system thread, awaitedRun plan (System.new sessionRules "/worker" request) (receiptTurns 2) =
        some system ∧
      system.monitor = some thread ∧ ⟨.receiptAllowed, true⟩ ∈ thread.past ∧
      ⟨.receiptAllowed, false⟩ ∉ thread.past := by
  have hasked : (awaitedRun plan (System.new sessionRules "/worker" request)
      (receiptTurns 2)).any (askedPhase true) = true := runs_finish.2.2
  obtain ⟨system, hrun, hasked⟩ := (Option.any_eq_true _ _).mp hasked
  obtain ⟨thread, hmonitor, hmem⟩ := askedPhase_spec hasked
  have hnot := (receipt_not_too_early sessionRules "/worker" request system
    (steps_awaitedRun hrun) thread hmonitor).1
  exact ⟨system, thread, hrun, hmonitor, hmem, hnot⟩

end Sample

end RustFerry.Snapshot
