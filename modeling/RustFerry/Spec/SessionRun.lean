import RustFerry.Native.SessionSystem
import RustFerry.Spec.ClientRun
import RustFerry.Spec.WorkerRun

/-!
# Runs of a session

What every run of a client and a worker preserves: the three threads keep their contracts,
and whatever one party has read was written by the other.
-/

namespace RustFerry.Snapshot

open Remote

variable {op : WorkerOp} {r : WorkerRes op}

/-! ## Control monitor -/

/-- What the control monitor has read. -/
structure MonitorView where
  header : Option FrameHeader
  payload : Option ClientMessage

namespace MonitorView

def init : MonitorView := ⟨none, none⟩

def next (v : MonitorView) : (op : MonitorOp) → MonitorRes op → MonitorView
  | .readHeader, .ok header => { v with header := some header }
  | .readPayload, .ok message => { v with payload := some message }
  | _, _ => v

/-- The phase is asked for a receipt only, and a receipt is passed on as it was read. -/
def Allows (v : MonitorView) : (op : MonitorOp) → MonitorRes op → Prop
  | .receiptAllowed, _ => ∃ header, v.header = some header ∧ header.kind = .artifactReceipt
  | .send (.receipt message), _ => v.payload = some message
  | _, _ => True

end MonitorView

def monitorContract : Contract MonitorOp MonitorRes MonitorView where
  next := MonitorView.next
  assume _ _ _ := True
  guarantee := MonitorView.Allows

/-- A control message was read before it is passed on. -/
theorem wp_readClientControl {sequence : Option UInt64} {v : MonitorView} :
    (readClientControl sequence).wp monitorContract
      (fun message v => ∀ payload, message = .receipt payload → v.payload = some payload) v := by
  intro result _
  refine ⟨trivial, ?_⟩
  cases result with
  | error failure =>
    intro payload (h : (if failure.error = .emptyInput then ClientControl.disconnected
      else .failure failure.frameFailure) = .receipt payload)
    split at h <;> cases h
  | ok header =>
    dsimp only
    cases acceptSequence sequence header with
    | error error =>
      intro payload h
      cases h
    | ok next =>
      dsimp only
      split
      · intro result _
        refine ⟨trivial, ?_⟩
        cases result with
        | error failure => exact fun _ h => nomatch h
        | ok message => cases message <;> exact fun _ h => nomatch h
      · rename_i hkind
        intro allowed _
        refine ⟨⟨header, rfl, hkind⟩, ?_⟩
        cases allowed with
        | false => exact fun _ h => nomatch h
        | true =>
          intro result _
          refine ⟨trivial, ?_⟩
          cases result with
          | error failure => exact fun _ h => nomatch h
          | ok message =>
            rintro payload ⟨⟩
            rfl
      · exact fun _ h => nomatch h

/-- The monitor keeps its contract. -/
theorem wp_monitorClientControl (sequence : Option UInt64) :
    (monitorClientControl sequence).wp monitorContract (fun _ _ => True) .init := by
  unfold monitorClientControl
  rw [Prog.wp_bind]
  refine Prog.wp_mono ?_ wp_readClientControl
  intro message v hreceipt _ _
  cases message with
  | receipt payload => exact ⟨hreceipt payload rfl, trivial⟩
  | cancelled | disconnected | failure _ => exact ⟨trivial, fun _ _ => ⟨trivial, trivial⟩⟩

/-! ## Streams -/

namespace Stream

variable {M ε : Type} {stream stream' : Stream M} {message : M}

/-- The messages of the whole frames that were sent. -/
def messages (stream : Stream M) : List M := stream.sent.filterMap (·.payload)

theorem mem_messages_append {header : FrameHeader} {m : M} {delivery : Delivery}
    (h : m ∈ (stream.append header message delivery).messages) :
    m ∈ stream.messages ∨ m = message := by
  cases delivery with
  | nothing => exact .inl h
  | torn =>
    have hsame : (stream.append header message .torn).messages = stream.messages := by
      simp [messages, append]
    exact .inl (hsame ▸ h)
  | whole =>
    have hmore : (stream.append header message .whole).messages = stream.messages ++ [message] := by
      simp [messages, append]
    rw [hmore, List.mem_append, List.mem_singleton] at h
    exact h

variable [StreamMessage M]

/-- A message that is a record and not the bytes of a file. -/
def isRecord (message : M) : Bool := (StreamMessage.bytes? message).isNone

def records (frames : List (Sent M)) : List M := (frames.filterMap (·.payload)).filter isRecord

/-- The records that were read. -/
def readRecords (stream : Stream M) : List M := records (stream.sent.take stream.taken)

/-- What a read leaves of a stream, with the message that was read. -/
structure Reads (stream : Stream M) (read : Option M) (stream' : Stream M) : Prop where
  sent : stream'.sent = stream.sent
  records : stream'.readRecords = stream.readRecords ++ read.toList.filter isRecord

theorem reads_same : stream.Reads none stream := ⟨rfl, (List.append_nil _).symm⟩

/-- A header takes no message. -/
theorem ReadHeader.reads {result : Except ε FrameHeader} (h : stream.ReadHeader result stream') :
    stream.Reads none stream' := by
  cases result with
  | error e =>
    obtain rfl : stream' = _ := h
    exact ⟨rfl, reads_same.records⟩
  | ok header =>
    obtain ⟨-, -, -, rfl⟩ := h
    exact ⟨rfl, reads_same.records⟩

/-- Bytes that were cut off can be misread, but not for a record. -/
theorem ReadPayload.reads {result : Except ε M} (h : stream.ReadPayload result stream') :
    stream.Reads result.toOption stream' := by
  cases result with
  | error e =>
    obtain rfl : stream' = _ := h
    exact ⟨rfl, reads_same.records⟩
  | ok message =>
    obtain ⟨-, -, sent, hnext, ⟨hpayload, rfl⟩ | ⟨-, -, ⟨bytes, hbytes, -⟩, rfl⟩⟩ := h
    · refine ⟨rfl, ?_⟩
      show Stream.records (stream.sent.take (stream.taken + 1)) = _
      rw [List.take_add_one, show stream.sent[stream.taken]? = some sent from hnext,
        Stream.records, List.filterMap_append, List.filter_append]
      simp [hpayload, readRecords, Stream.records, Except.toOption]
    · have hbytes : isRecord message = false := by rw [isRecord, hbytes]; rfl
      exact ⟨rfl, by simp [Except.toOption, hbytes, readRecords]⟩

/-- What is read was sent, or stands for bytes that were cut off. -/
theorem ReadPayload.mem_messages
    (h : stream.ReadPayload (.ok message : Except ε M) stream') :
    message ∈ stream.messages ∨ (StreamMessage.bytes? message).isSome := by
  obtain ⟨-, -, sent, hnext, ⟨hpayload, -⟩ | ⟨-, -, ⟨bytes, hbytes, -⟩, -⟩⟩ := h
  · exact .inl (List.mem_filterMap.mpr ⟨sent, List.mem_of_getElem? hnext, hpayload⟩)
  · exact .inr (by rw [hbytes]; rfl)

/-- What is written is in the stream. -/
theorem Write.mem_messages {frame : Frame M} {m : M}
    {result : Except DataPlane.WorkerDataPlaneFrameError Unit}
    (h : stream.Write frame result stream') (hm : m ∈ stream'.messages) :
    m ∈ stream.messages ∨ m = frame.message := by
  obtain ⟨header, delivery, -, -, rfl⟩ := h
  exact mem_messages_append hm

end Stream

theorem messages_eq {M : Type} {stream stream' : Stream M} (h : stream'.sent = stream.sent) :
    stream'.messages = stream.messages := by
  rw [Stream.messages, h, Stream.messages]

/-! ## Answers -/

/-- What an event has read. -/
def clientRead : Event ClientOp ClientRes → Option ServerMessage
  | ⟨.readPayload, result⟩ => result.toOption
  | _ => none

def workerRead : Event WorkerOp WorkerRes → Option ClientMessage
  | ⟨.readPayload, result⟩ => result.toOption
  | _ => none

def monitorRead : Event MonitorOp MonitorRes → Option ClientMessage
  | ⟨.readPayload, result⟩ => result.toOption
  | _ => none

namespace Shared

variable {shared shared' : Shared}

/-- What an operation of the client leaves behind: at most one more frame on its stream. -/
theorem Client.effect {op : ClientOp} {r : ClientRes op} (h : shared.Client op r shared') :
    (shared'.upload = shared.upload ∨ ∃ header message delivery,
      shared'.upload = shared.upload.append header message delivery ∧
        header.kind = message.kind ∧
        ((∃ sequence, op = .write ⟨sequence, message⟩) ∨ message.bytes?.isSome)) ∧
    shared.download.Reads (clientRead ⟨op, r⟩) shared'.download ∧
    shared'.control = shared.control ∧ shared'.phase = shared.phase := by
  cases op with
  | readHeader =>
    obtain ⟨download, hread, rfl⟩ := h
    exact ⟨.inl rfl, hread.reads, rfl, rfl⟩
  | readPayload =>
    obtain ⟨download, hread, rfl⟩ := h
    exact ⟨.inl rfl, hread.reads, rfl, rfl⟩
  | write frame =>
    obtain ⟨upload, ⟨header, delivery, hheader, -, rfl⟩, rfl⟩ := h
    exact ⟨.inr ⟨header, _, delivery, rfl, hheader.1, .inl ⟨frame.sequence, rfl⟩⟩,
      Stream.reads_same, rfl, rfl⟩
  | streamSource file sequence size =>
    have hfile : ∀ bytes, file.kind = (file.message bytes).kind ∧
        (file.message bytes).bytes?.isSome := by
      intro bytes
      cases file <;> exact ⟨rfl, rfl⟩
    cases r with
    | sent bytes =>
      obtain ⟨-, rfl⟩ := h
      exact ⟨.inr ⟨⟨file.kind, sequence, size⟩, file.message bytes, .whole, rfl, (hfile bytes).1,
        .inr (hfile bytes).2⟩, Stream.reads_same, rfl, rfl⟩
    | failed error =>
      obtain ⟨bytes, delivery, -, rfl⟩ := h
      exact ⟨.inr ⟨⟨file.kind, sequence, size⟩, file.message bytes, delivery, rfl, (hfile bytes).1,
        .inr (hfile bytes).2⟩, Stream.reads_same, rfl, rfl⟩
  | step _ | readSource _ | sourceUnchanged _ | flush | deliver _ | verifyArtifact _ | readSpool
  | readPublication _ | cleanupSpool =>
    obtain rfl : shared' = shared := h
    exact ⟨.inl rfl, Stream.reads_same, rfl, rfl⟩

theorem Client.mem_upload {op : ClientOp} {r : ClientRes op} (h : shared.Client op r shared')
    {m : ClientMessage} (hm : m ∈ shared'.upload.messages) :
    m ∈ shared.upload.messages ∨ (∃ sequence, op = .write ⟨sequence, m⟩) ∨ m.bytes?.isSome := by
  rcases h.effect.1 with hsame | ⟨header, message, delivery, happend, -, hmessage⟩
  · exact .inl (hsame ▸ hm)
  · rw [happend] at hm
    rcases Stream.mem_messages_append hm with hm | rfl
    · exact .inl hm
    · exact .inr hmessage

/-- The client reads what was sent, or bytes. -/
theorem Client.read {message : ServerMessage}
    (h : shared.Client .readPayload (.ok message) shared') :
    message ∈ shared.download.messages ∨ message.bytes?.isSome := by
  obtain ⟨download, hread, -⟩ := h
  exact hread.mem_messages

/-- What an operation of the worker leaves behind: at most one more frame on its stream. -/
theorem Worker.effect (h : shared.Worker op r shared') :
    (shared'.download = shared.download ∨ ∃ header message delivery,
      shared'.download = shared.download.append header message delivery ∧
        ((∃ sequence, op = .write ⟨sequence, message⟩) ∨ message.bytes?.isSome)) ∧
    shared.upload.Reads (workerRead ⟨op, r⟩) shared'.upload ∧ shared'.control ⊆ shared.control ∧
    (shared.phase = .awaitingReceipt → shared'.phase = .awaitingReceipt) := by
  cases op with
  | readHeader =>
    obtain ⟨upload, hread, rfl⟩ := h
    exact ⟨.inl rfl, hread.reads, fun _ => id, id⟩
  | readPayload =>
    obtain ⟨upload, hread, rfl⟩ := h
    exact ⟨.inl rfl, hread.reads, fun _ => id, id⟩
  | write frame =>
    obtain ⟨download, ⟨header, delivery, -, -, rfl⟩, rfl⟩ := h
    exact ⟨.inr ⟨header, _, delivery, rfl, .inl ⟨frame.sequence, rfl⟩⟩,
      Stream.reads_same, fun _ => id, id⟩
  | streamArtifact sequence size =>
    cases r with
    | sent bytes =>
      obtain ⟨-, rfl⟩ := h
      exact ⟨.inr ⟨⟨.artifact, sequence, size⟩, .artifact bytes, .whole, rfl, .inr rfl⟩,
        Stream.reads_same, fun _ => id, id⟩
    | failed error outputFailed =>
      obtain ⟨bytes, delivery, -, rfl⟩ := h
      exact ⟨.inr ⟨⟨.artifact, sequence, size⟩, .artifact bytes, delivery, rfl, .inr rfl⟩,
        Stream.reads_same, fun _ => id, id⟩
  | tryReceiveControl =>
    cases r with
    | none =>
      obtain ⟨-, rfl⟩ := h
      exact ⟨.inl rfl, Stream.reads_same, fun _ => id, id⟩
    | some message =>
      obtain ⟨control, hcontrol, rfl⟩ := h
      exact ⟨.inl rfl, Stream.reads_same, hcontrol ▸ List.subset_cons_self message control, id⟩
  | receiveControl =>
    cases r with
    | error e =>
      obtain ⟨-, rfl⟩ := h
      exact ⟨.inl rfl, Stream.reads_same, fun _ => id, id⟩
    | ok message =>
      obtain ⟨control, hcontrol, rfl⟩ := h
      exact ⟨.inl rfl, Stream.reads_same, hcontrol ▸ List.subset_cons_self message control, id⟩
  | isCancelled =>
    obtain ⟨-, rfl⟩ := h
    exact ⟨.inl rfl, Stream.reads_same, fun _ => id, id⟩
  | allowReceipt =>
    obtain rfl : shared' = _ := h
    exact ⟨.inl rfl, Stream.reads_same, fun _ => id, fun _ => rfl⟩
  | step _ | newUuid | clock | createDirectory _ | directoryIdentity _ | removeTree _
  | isUnlinked _ | syncWorkerRoot | spawnMonitor _ | flush | compile _ _ =>
    obtain rfl : shared' = _ := h
    exact ⟨.inl rfl, Stream.reads_same, fun _ => id, id⟩

theorem Worker.mem_download (h : shared.Worker op r shared') {m : ServerMessage}
    (hm : m ∈ shared'.download.messages) :
    m ∈ shared.download.messages ∨ (∃ sequence, op = .write ⟨sequence, m⟩) ∨ m.bytes?.isSome := by
  rcases h.effect.1 with hsame | ⟨header, message, delivery, happend, hmessage⟩
  · exact .inl (hsame ▸ hm)
  · rw [happend] at hm
    rcases Stream.mem_messages_append hm with hm | rfl
    · exact .inl hm
    · exact .inr hmessage

/-- The worker reads what was sent, or bytes. -/
theorem Worker.read {message : ClientMessage}
    (h : shared.Worker .readPayload (.ok message) shared') :
    message ∈ shared.upload.messages ∨ message.bytes?.isSome := by
  obtain ⟨upload, hread, -⟩ := h
  exact hread.mem_messages

/-- What it receives the monitor passed on. -/
theorem Worker.received {message : ClientControl}
    (h : shared.Worker .receiveControl (.ok message) shared') : message ∈ shared.control := by
  obtain ⟨control, hcontrol, -⟩ := h
  rw [hcontrol]
  exact List.mem_cons_self

/-- What an operation of the monitor leaves behind. -/
theorem Monitor.effect {op : MonitorOp} {r : MonitorRes op} (h : shared.Monitor op r shared') :
    shared.upload.Reads (monitorRead ⟨op, r⟩) shared'.upload ∧ shared'.download = shared.download ∧
    shared'.phase = shared.phase ∧
    ∀ message ∈ shared'.control, message ∈ shared.control ∨ op = .send message := by
  cases op with
  | readHeader =>
    obtain ⟨upload, hread, rfl⟩ := h
    exact ⟨hread.reads, rfl, rfl, fun _ => .inl⟩
  | readPayload =>
    obtain ⟨upload, hread, rfl⟩ := h
    exact ⟨hread.reads, rfl, rfl, fun _ => .inl⟩
  | receiptAllowed =>
    obtain ⟨-, rfl⟩ := h
    exact ⟨Stream.reads_same, rfl, rfl, fun _ => .inl⟩
  | send sent =>
    obtain rfl : shared' = _ := h
    refine ⟨Stream.reads_same, rfl, rfl, ?_⟩
    intro message hmem
    rcases List.mem_append.mp hmem with hmem | hmem
    · exact .inl hmem
    · exact .inr (by rw [List.mem_singleton.mp hmem])
  | cancel =>
    obtain rfl : shared' = _ := h
    exact ⟨Stream.reads_same, rfl, rfl, fun _ => .inl⟩

/-- The monitor reads what was sent, or bytes. -/
theorem Monitor.read {message : ClientMessage}
    (h : shared.Monitor .readPayload (.ok message) shared') :
    message ∈ shared.upload.messages ∨ message.bytes?.isSome := by
  obtain ⟨upload, hread, -⟩ := h
  exact hread.mem_messages

end Shared

/-! ## Views -/

def System.clientView (start : SnapshotBuildStart) (system : System) : ClientView :=
  system.client.view (clientContract start) .init

def System.workerView (rules : SessionRules) (system : System) : WorkerView :=
  system.worker.view (workerContract rules) .init

theorem ClientView.mem_reads_next {v : ClientView} {op : ClientOp} {r : ClientRes op}
    {message : ServerMessage} (h : message ∈ (v.next op r).reads) :
    message ∈ v.reads ∨ (⟨op, r⟩ : Event ClientOp ClientRes) = ⟨.readPayload, .ok message⟩ := by
  unfold ClientView.next at h
  split at h
  case h_3 read =>
    rcases List.mem_cons.mp h with rfl | h
    · exact .inr rfl
    · exact .inl h
  case h_7 => split at h <;> exact .inl h
  all_goals exact .inl h

theorem WorkerView.start_next {v : WorkerView} {start : SnapshotBuildStart}
    (h : (v.next op r).start = some start) :
    v.start = some start ∨
      (⟨op, r⟩ : Event WorkerOp WorkerRes) = ⟨.readPayload, .ok (.buildRequest start)⟩ := by
  unfold WorkerView.next at h
  split at h
  · rename_i read
    cases hstart : v.start with
    | none =>
      rw [hstart] at h
      cases h
      exact .inr rfl
    | some known =>
      rw [hstart] at h
      exact .inl h
  case h_8 frame result =>
    obtain ⟨sequence, written⟩ := frame
    cases result <;> cases written <;> exact .inl h
  all_goals exact .inl h

theorem WorkerView.receipt_next {v : WorkerView} {receipt : SnapshotArtifactReceipt}
    (h : (v.next op r).receipt = some receipt) :
    v.receipt = some receipt ∨ (⟨op, r⟩ : Event WorkerOp WorkerRes) =
      ⟨.receiveControl, .ok (.receipt (.artifactReceipt receipt))⟩ := by
  unfold WorkerView.next at h
  split at h
  case h_8 frame result =>
    obtain ⟨sequence, written⟩ := frame
    cases result <;> cases written <;> exact .inl h
  case h_12 =>
    cases h
    exact .inr rfl
  all_goals exact .inl h

theorem MonitorView.payload_next {v : MonitorView} {op : MonitorOp} {r : MonitorRes op}
    {message : ClientMessage} (h : (v.next op r).payload = some message) :
    v.payload = some message ∨
      (⟨op, r⟩ : Event MonitorOp MonitorRes) = ⟨.readPayload, .ok message⟩ := by
  unfold MonitorView.next at h
  split at h
  · exact .inl h
  · cases h
    exact .inr rfl
  · exact .inl h

/-! ## Who wrote what -/

/-- A message of the client: the build request is the caller's, and a receipt was written. -/
def FromClient (start : SnapshotBuildStart) (past : History ClientOp ClientRes) :
    ClientMessage → Prop
  | .buildRequest message => message = start
  | .artifactReceipt receipt =>
    ∃ sequence result, ⟨.write ⟨sequence, .artifactReceipt receipt⟩, result⟩ ∈ past
  | .sourceDescriptor _ | .sourceArchive _ | .cancel => True

/-- A message of the worker was written, or is the bytes of an artifact. -/
def FromWorker (past : History WorkerOp WorkerRes) (message : ServerMessage) : Prop :=
  message.bytes?.isSome ∨ ∃ sequence result, ⟨.write ⟨sequence, message⟩, result⟩ ∈ past

/-- What came from the client still does. -/
theorem FromClient.cons {start : SnapshotBuildStart} {past : History ClientOp ClientRes}
    {e : Event ClientOp ClientRes} {message : ClientMessage} (h : FromClient start past message) :
    FromClient start (e :: past) message := by
  cases message with
  | artifactReceipt receipt =>
    obtain ⟨sequence, result, hmem⟩ := h
    exact ⟨sequence, result, List.mem_cons_of_mem _ hmem⟩
  | buildRequest _ | sourceDescriptor _ | sourceArchive _ | cancel => exact h

/-- The same for the worker. -/
theorem FromWorker.cons {past : History WorkerOp WorkerRes} {e : Event WorkerOp WorkerRes}
    {message : ServerMessage} (h : FromWorker past message) : FromWorker (e :: past) message := by
  rcases h with h | ⟨sequence, result, hmem⟩
  · exact .inl h
  · exact .inr ⟨sequence, result, List.mem_cons_of_mem _ hmem⟩

theorem fromClient_of_bytes {start : SnapshotBuildStart} {past : History ClientOp ClientRes}
    {message : ClientMessage} (h : message.bytes?.isSome) : FromClient start past message := by
  cases message with
  | sourceDescriptor _ | sourceArchive _ => trivial
  | buildRequest _ | artifactReceipt _ | cancel => cases h

/-- What a client returns with. -/
def ClientPost (rules : SessionRules) (operationId : String) :
    Except SnapshotSessionClientError SnapshotSessionOutcome × ClientOutput → ClientView → Prop
  | (.ok outcome, _), v => Agreed rules operationId outcome v ∧ Calm v
  | (.error failure, _), v => Reported operationId failure v

/-- The threads keep their contracts, and whatever a party has read was written by the
    other. -/
structure Genuine (rules : SessionRules) (request : SnapshotSessionRequest) (system : System) :
    Prop where
  client : system.client.Keeps (clientContract request.start) .init
    (ClientPost rules request.start.parameters.operationId)
  worker : system.worker.Keeps (workerContract rules) .init fun _ _ => True
  monitor : ∀ thread, system.monitor = some thread →
    thread.Keeps monitorContract .init fun _ _ => True
  uploaded : ∀ message ∈ system.shared.upload.messages,
    FromClient request.start system.client.past message
  downloaded : ∀ message ∈ system.shared.download.messages, FromWorker system.worker.past message
  clientRead : ∀ message, ⟨.readPayload, .ok message⟩ ∈ system.client.past →
    FromWorker system.worker.past message
  workerRead : ∀ message, ⟨.readPayload, .ok message⟩ ∈ system.worker.past →
    FromClient request.start system.client.past message
  monitorRead : ∀ thread message, system.monitor = some thread →
    (thread.view monitorContract .init).payload = some message →
    FromClient request.start system.client.past message
  queued : ∀ message, .receipt message ∈ system.shared.control →
    FromClient request.start system.client.past message
  received : ∀ message, ⟨.receiveControl, .ok (.receipt message)⟩ ∈ system.worker.past →
    FromClient request.start system.client.past message

/-- A monitor is the one there was, or has just been started. -/
theorem spawned_cases {monitor : Option MonitorThread} {thread : MonitorThread}
    (h : spawned monitor op r = some thread) :
    monitor = some thread ∨ ∃ sequence, thread = .start (monitorClientControl sequence) := by
  unfold spawned at h
  split at h
  · exact .inr ⟨_, (Option.some.inj h).symm⟩
  · exact .inl h

section

variable {rules : SessionRules} {request : SnapshotSessionRequest} {system : System}

theorem genuine_new {workerRoot : String} : Genuine rules request (.new rules workerRoot request) where
  client := by
    refine Thread.keeps_start (Prog.wp_mono ?_ (wp_runSnapshotSession rules request))
    rintro ⟨_ | _, _⟩ v h <;> exact h
  worker := Thread.keeps_start (wp_serveSnapshotSession rules workerRoot)
  monitor _ h := nomatch h
  uploaded _ h := nomatch h
  downloaded _ h := nomatch h
  clientRead _ h := nomatch h
  workerRead _ h := nomatch h
  monitorRead _ _ h := nomatch h
  queued _ h := nomatch h
  received _ h := nomatch h

section

variable (hg : Genuine rules request system)

include hg

theorem Genuine.clientStep {op : ClientOp} {r : ClientRes op}
    {client : ClientThread} {shared : Shared} (hthread : system.client.Step op r client)
    (hshared : system.shared.Client op r shared) :
    Genuine rules request { system with client, shared } := by
  obtain ⟨hallows, hclient⟩ := hg.client.step hthread trivial
  -- the client writes the upload stream only
  obtain ⟨-, hdownload, hcontrol, -⟩ := hshared.effect
  have hpast : client.past = ⟨op, r⟩ :: system.client.past := hthread.past_eq
  have hmore : ∀ message, FromClient request.start system.client.past message →
      FromClient request.start client.past message := by
    intro message h
    rw [hpast]
    exact h.cons
  refine ⟨hclient, hg.worker, hg.monitor, ?_, ?_, ?_, ?_, ?_, ?_, ?_⟩
  · intro message hmem
    rcases hshared.mem_upload hmem with hmem | ⟨sequence, rfl⟩ | hbytes
    · exact hmore _ (hg.uploaded message hmem)
    · show FromClient request.start client.past message
      rw [hpast]
      cases message with
      | buildRequest start => exact hallows
      | artifactReceipt receipt => exact ⟨sequence, r, List.mem_cons_self⟩
      | sourceDescriptor _ | sourceArchive _ | cancel => trivial
    · exact fromClient_of_bytes hbytes
  · intro message hmem
    rw [show shared.download.messages = _ from messages_eq hdownload.sent] at hmem
    exact hg.downloaded message hmem
  · intro message hmem
    rw [show _ = _ from hpast] at hmem
    rcases List.mem_cons.mp hmem with hevent | hmem
    · cases hevent
      rcases hshared.read with hmem | hbytes
      · exact hg.downloaded message hmem
      · exact .inl hbytes
    · exact hg.clientRead message hmem
  · intro message hmem
    exact hmore _ (hg.workerRead message hmem)
  · intro thread message hmonitor hread
    exact hmore _ (hg.monitorRead thread message hmonitor hread)
  · intro message hmem
    rw [show shared.control = _ from hcontrol] at hmem
    exact hmore _ (hg.queued message hmem)
  · intro message hmem
    exact hmore _ (hg.received message hmem)

theorem Genuine.workerStep {worker : WorkerThread}
    {shared : Shared} (hthread : system.worker.Step op r worker)
    (hshared : system.shared.Worker op r shared) :
    Genuine rules request
      { system with worker, shared, monitor := spawned system.monitor op r } := by
  obtain ⟨-, hworker⟩ := hg.worker.step hthread trivial
  obtain ⟨-, hupload, hcontrol, -⟩ := hshared.effect
  have hpast : worker.past = ⟨op, r⟩ :: system.worker.past := hthread.past_eq
  have hmore : ∀ message, FromWorker system.worker.past message →
      FromWorker worker.past message := by
    intro message h
    rw [hpast]
    exact h.cons
  refine ⟨hg.client, hworker, ?_, ?_, ?_, ?_, ?_, ?_, ?_, ?_⟩
  · intro thread hmonitor
    rcases spawned_cases hmonitor with hmonitor | ⟨sequence, rfl⟩
    · exact hg.monitor thread hmonitor
    · exact Thread.keeps_start (wp_monitorClientControl sequence)
  · intro message hmem
    rw [show shared.upload.messages = _ from messages_eq hupload.sent] at hmem
    exact hg.uploaded message hmem
  · intro message hmem
    rcases hshared.mem_download hmem with hmem | ⟨sequence, rfl⟩ | hbytes
    · exact hmore _ (hg.downloaded message hmem)
    · refine .inr ⟨sequence, r, ?_⟩
      show _ ∈ worker.past
      rw [hpast]
      exact List.mem_cons_self
    · exact .inl hbytes
  · intro message hmem
    exact hmore _ (hg.clientRead message hmem)
  · intro message hmem
    rw [show _ = _ from hpast] at hmem
    rcases List.mem_cons.mp hmem with hevent | hmem
    · cases hevent
      rcases hshared.read with hmem | hbytes
      · exact hg.uploaded message hmem
      · exact fromClient_of_bytes hbytes
    · exact hg.workerRead message hmem
  · intro thread message hmonitor hread
    rcases spawned_cases hmonitor with hmonitor | ⟨sequence, rfl⟩
    · exact hg.monitorRead thread message hmonitor hread
    · cases hread
  · intro message hmem
    exact hg.queued message (hcontrol hmem)
  · intro message hmem
    rw [show _ = _ from hpast] at hmem
    rcases List.mem_cons.mp hmem with hevent | hmem
    · cases hevent
      exact hg.queued message hshared.received
    · exact hg.received message hmem

/-- A step of the monitor. -/
theorem Genuine.monitorStep {op : MonitorOp}
    {r : MonitorRes op} {thread monitor : MonitorThread} {shared : Shared}
    (hmonitor : system.monitor = some thread) (hthread : thread.Step op r monitor)
    (hshared : system.shared.Monitor op r shared) :
    Genuine rules request { system with monitor := some monitor, shared } := by
  obtain ⟨hallows, hkeeps⟩ := (hg.monitor thread hmonitor).step hthread trivial
  obtain ⟨hupload, hdownload, -, hcontrol⟩ := hshared.effect
  refine ⟨hg.client, hg.worker, ?_, ?_, ?_, hg.clientRead, hg.workerRead, ?_, ?_, hg.received⟩
  · rintro _ ⟨⟩
    exact hkeeps
  · intro message hmem
    rw [show shared.upload.messages = _ from messages_eq hupload.sent] at hmem
    exact hg.uploaded message hmem
  · intro message hmem
    rw [show shared.download = _ from hdownload] at hmem
    exact hg.downloaded message hmem
  · rintro _ message ⟨⟩ hread
    have hview : monitor.view monitorContract .init =
        (thread.view monitorContract .init).next op r := hthread.view_eq
    rw [hview] at hread
    rcases MonitorView.payload_next hread with hread | hevent
    · exact hg.monitorRead thread message hmonitor hread
    · cases hevent
      rcases hshared.read with hmem | hbytes
      · exact hg.uploaded _ hmem
      · exact fromClient_of_bytes hbytes
  · intro message hmem
    rcases hcontrol _ hmem with hmem | rfl
    · exact hg.queued message hmem
    · exact hg.monitorRead thread message hmonitor hallows

theorem Genuine.cancel {upload : Stream ClientMessage}
    {result : Except DataPlane.WorkerDataPlaneFrameError Unit}
    (hwrite : system.shared.upload.Write ⟨3, .cancel⟩ result upload) :
    Genuine rules request
      { system with shared := { system.shared with upload }, cancelAttempted := true } := by
  refine ⟨hg.client, hg.worker, hg.monitor, ?_, hg.downloaded, hg.clientRead, hg.workerRead,
    hg.monitorRead, hg.queued, hg.received⟩
  intro message hmem
  rcases hwrite.mem_messages hmem with hmem | rfl
  · exact hg.uploaded message hmem
  · trivial

theorem Genuine.step {system' : System}
    (h : system.Step system') : Genuine rules request system' := by
  cases h with
  | client hthread hshared => exact hg.clientStep hthread hshared
  | worker hthread hshared => exact hg.workerStep hthread hshared
  | monitor hmonitor hthread hshared => exact hg.monitorStep hmonitor hthread hshared
  | bestEffortCancel hreturned hcancel honce hwrite => exact hg.cancel hwrite

end

/-- In every state that a session can come to, nothing was read that was not written. -/
theorem genuine_of_reachable {workerRoot : String}
    (h : System.Reachable rules workerRoot request system) : Genuine rules request system := by
  induction h with
  | refl => exact genuine_new
  | tail _ hstep ih => exact ih.step hstep

end

end RustFerry.Snapshot
