import RustFerry.Native.SessionSchedule

/-!
# Schedules are runs

Whatever a schedule comes to, the session can come to.
-/

namespace RustFerry.Snapshot

/-! ## Streams -/

theorem announces_of_headerOf? {M : Type} [StreamMessage M] {frame : Frame M}
    {header : FrameHeader} (h : headerOf? frame = some header) : header.Announces frame := by
  unfold headerOf? at h
  dsimp only at h
  split at h
  · rename_i hsize
    cases h
    refine ⟨rfl, rfl, ?_⟩
    intro bytes hbytes
    rw [hbytes] at hsize
    show (UInt64.ofNat ((StreamMessage.bytes? frame.message).getD []).length).toNat = bytes.length
    rw [hbytes, UInt64.toNat_ofNat']
    exact Nat.mod_eq_of_lt hsize
  · cases h

namespace Stream

variable {M ε : Type} {stream stream' : Stream M}

theorem readHeader_of_some {header : FrameHeader}
    (h : stream.readHeader? = some (header, stream')) :
    stream.ReadHeader (.ok header : Except ε FrameHeader) stream' := by
  unfold readHeader? at h
  split at h
  · cases h
  · rename_i hready
    rw [Bool.or_eq_true, not_or, Bool.not_eq_true, Bool.not_eq_true] at hready
    obtain ⟨sent, hnext, heq⟩ := Option.map_eq_some_iff.mp h
    cases heq
    exact ⟨hready.1, hready.2, ⟨sent, hnext, rfl⟩, rfl⟩

variable [StreamMessage M]

theorem readPayload_of_some {message : M} (h : stream.readPayload? = some (message, stream')) :
    stream.ReadPayload (.ok message : Except ε M) stream' := by
  unfold readPayload? at h
  split at h
  · cases h
  · rename_i hready
    rw [Bool.or_eq_true, not_or, Bool.not_eq_true, Bool.not_eq_true, Bool.not_eq_false'] at hready
    obtain ⟨sent, hnext, h⟩ := Option.bind_eq_some_iff.mp h
    obtain ⟨payload, hpayload, heq⟩ := Option.map_eq_some_iff.mp h
    cases heq
    exact ⟨hready.1, hready.2, sent, hnext, .inl ⟨hpayload, rfl⟩⟩

theorem write_of_some {frame : Frame M} (h : stream.write? frame = some stream') :
    stream.Write frame (.ok ()) stream' := by
  obtain ⟨header, hheader, rfl⟩ := Option.map_eq_some_iff.mp h
  exact ⟨header, .whole, announces_of_headerOf? hheader, rfl, rfl⟩

end Stream

/-! ## Answers -/

namespace Shared

variable {plan : Plan} {shared shared' : Shared}

theorem worker_of_some {op : WorkerOp} {r : WorkerRes op}
    (h : shared.worker? plan op = some (r, shared')) : shared.Worker op r shared' := by
  cases op with
  | readHeader =>
    obtain ⟨⟨header, upload⟩, hread, heq⟩ := Option.map_eq_some_iff.mp h
    cases heq
    exact ⟨upload, Stream.readHeader_of_some hread, rfl⟩
  | readPayload =>
    obtain ⟨⟨message, upload⟩, hread, heq⟩ := Option.map_eq_some_iff.mp h
    cases heq
    exact ⟨upload, Stream.readPayload_of_some hread, rfl⟩
  | write frame =>
    obtain ⟨download, hwrite, heq⟩ := Option.map_eq_some_iff.mp h
    cases heq
    exact ⟨download, Stream.write_of_some hwrite, rfl⟩
  | streamArtifact sequence size =>
    simp only [worker?] at h
    split at h
    · split at h
      · rename_i bytes _ hsize
        cases h
        exact ⟨hsize, rfl⟩
      · cases h
    · cases h
  | isCancelled =>
    cases h
    exact ⟨rfl, rfl⟩
  | tryReceiveControl =>
    simp only [worker?] at h
    split at h
    · rename_i hcontrol
      cases h
      exact ⟨hcontrol, rfl⟩
    · rename_i message control hcontrol
      cases h
      exact ⟨control, hcontrol, rfl⟩
  | receiveControl =>
    simp only [worker?] at h
    split at h
    · cases h
    · rename_i message control hcontrol
      cases h
      exact ⟨control, hcontrol, rfl⟩
  | allowReceipt | step _ | newUuid | clock | createDirectory _ | directoryIdentity _ | removeTree _
  | isUnlinked _ | syncWorkerRoot | spawnMonitor _ | flush | compile _ _ =>
    cases h
    rfl

theorem monitor_of_some {op : MonitorOp} {r : MonitorRes op}
    (h : shared.monitor? op = some (r, shared')) : shared.Monitor op r shared' := by
  cases op with
  | readHeader =>
    obtain ⟨⟨header, upload⟩, hread, heq⟩ := Option.map_eq_some_iff.mp h
    cases heq
    exact ⟨upload, Stream.readHeader_of_some hread, rfl⟩
  | readPayload =>
    obtain ⟨⟨message, upload⟩, hread, heq⟩ := Option.map_eq_some_iff.mp h
    cases heq
    exact ⟨upload, Stream.readPayload_of_some hread, rfl⟩
  | receiptAllowed =>
    cases h
    exact ⟨rfl, rfl⟩
  | send message | cancel =>
    cases h
    rfl

theorem client_of_some {op : ClientOp} {r : ClientRes op}
    (h : shared.client? plan op = some (r, shared')) : shared.Client op r shared' := by
  cases op with
  | readHeader =>
    obtain ⟨⟨header, download⟩, hread, heq⟩ := Option.map_eq_some_iff.mp h
    cases heq
    exact ⟨download, Stream.readHeader_of_some hread, rfl⟩
  | readPayload =>
    obtain ⟨⟨message, download⟩, hread, heq⟩ := Option.map_eq_some_iff.mp h
    cases heq
    exact ⟨download, Stream.readPayload_of_some hread, rfl⟩
  | write frame =>
    obtain ⟨upload, hwrite, heq⟩ := Option.map_eq_some_iff.mp h
    cases heq
    exact ⟨upload, Stream.write_of_some hwrite, rfl⟩
  | streamSource file sequence size =>
    simp only [client?] at h
    split at h
    · split at h
      · rename_i bytes _ hsize
        cases h
        exact ⟨hsize, rfl⟩
      · cases h
    · cases h
  | step _ | readSource _ | sourceUnchanged _ | flush | deliver _ | verifyArtifact _ | readSpool
  | readPublication _ | cleanupSpool =>
    cases h
    rfl

end Shared

/-! ## Turns -/

theorem step_of_advance {plan : Plan} {system system' : System} {turn : Turn}
    (h : system.advance plan turn = some system') : system.Step system' := by
  cases turn with
  | client =>
    obtain ⟨⟨e, client, shared⟩, hresume, rfl⟩ := Option.map_eq_some_iff.mp h
    obtain ⟨hthread, hanswer⟩ := Thread.resume_eq_some hresume
    exact .client hthread (Shared.client_of_some hanswer)
  | worker =>
    obtain ⟨⟨e, worker, shared⟩, hresume, rfl⟩ := Option.map_eq_some_iff.mp h
    obtain ⟨hthread, hanswer⟩ := Thread.resume_eq_some hresume
    exact .worker hthread (Shared.worker_of_some hanswer)
  | monitor =>
    obtain ⟨thread, hmonitor, h⟩ := Option.bind_eq_some_iff.mp h
    obtain ⟨⟨e, monitor, shared⟩, hresume, rfl⟩ := Option.map_eq_some_iff.mp h
    obtain ⟨hthread, hanswer⟩ := Thread.resume_eq_some hresume
    exact .monitor hmonitor hthread (Shared.monitor_of_some hanswer)

theorem steps_run {plan : Plan} (turns : List Turn) (system : System) :
    Relation.ReflTransGen System.Step system (system.run plan turns) := by
  induction turns generalizing system with
  | nil => exact .refl
  | cons turn turns ih =>
    show Relation.ReflTransGen _ system
      (System.run plan ((system.advance plan turn).getD system) turns)
    cases hadvance : system.advance plan turn with
    | none => exact ih system
    | some next => exact .head (step_of_advance hadvance) (ih next)

/-- What a schedule leads to is reachable. -/
theorem reachable_run (rules : SessionRules) (workerRoot : String)
    (request : SnapshotSessionRequest) (plan : Plan) (turns : List Turn) :
    System.Reachable rules workerRoot request
      ((System.new rules workerRoot request).run plan turns) :=
  steps_run turns _

end RustFerry.Snapshot
