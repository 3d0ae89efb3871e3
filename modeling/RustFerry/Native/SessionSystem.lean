import Mathlib.Logic.Relation
import RustFerry.ForStd.Thread
import RustFerry.Native.ClientSession
import RustFerry.Native.WorkerSession

/-!
# A client and a worker

One snapshot session as a system of three threads: the client, the worker's main thread and
the worker's control monitor. They share two streams of frames and, between the two threads
of the worker, the control phase (`ControlPhase`), the control channel and the cancellation
token. A step answers the next operation of one thread. Answers are as the environment
pleases: a read can fail at any time, a failed write leaves nothing, a part of its frame or
the whole of it, and every local operation can fail.
-/

namespace RustFerry.Snapshot

open DataPlane (WorkerDataPlaneFrameKind WorkerDataPlaneFrameError)

/-! ## Streams -/

/-- What a stream carries. -/
class StreamMessage (M : Type) where
  kind : M → WorkerDataPlaneFrameKind
  bytes? : M → Option (List UInt8)

instance : StreamMessage ClientMessage := ⟨ClientMessage.kind, ClientMessage.bytes?⟩
instance : StreamMessage ServerMessage := ⟨ServerMessage.kind, ServerMessage.bytes?⟩

/-- A frame on a stream; a frame that was cut off has no payload. -/
structure Sent (M : Type) where
  header : FrameHeader
  payload : Option M

/-- A stream of frames: all that was sent, how many frames were read, whether the header of
    the next one was, and whether the reader has lost its place. -/
structure Stream (M : Type) where
  sent : List (Sent M)
  taken : Nat
  opened : Bool
  broken : Bool

/-- What a write left on its stream. -/
inductive Delivery where
  | nothing
  | torn
  | whole

/-- A frame that cannot be written is refused before its header; only I/O fails later. -/
def Delivery.Follows : Delivery → Except WorkerDataPlaneFrameError Unit → Prop
  | delivery, .ok () => delivery = .whole
  | _, .error .io => True
  | delivery, .error _ => delivery = .nothing

/-- The header of a frame. The length of a JSON payload is not modelled. -/
def FrameHeader.Announces {M : Type} [StreamMessage M] (header : FrameHeader) (frame : Frame M) :
    Prop :=
  header.kind = StreamMessage.kind frame.message ∧ header.sequence = frame.sequence ∧
    ∀ bytes, StreamMessage.bytes? frame.message = some bytes →
      header.payloadBytes.toNat = bytes.length

namespace Stream

variable {M ε : Type}

def new : Stream M := ⟨[], 0, false, false⟩

def append (stream : Stream M) (header : FrameHeader) (message : M) : Delivery → Stream M
  | .nothing => stream
  | .torn => { stream with sent := stream.sent ++ [⟨header, none⟩] }
  | .whole => { stream with sent := stream.sent ++ [⟨header, some message⟩] }

/-- The frame that is read next. -/
def next? (stream : Stream M) : Option (Sent M) := stream.sent[stream.taken]?

def ReadHeader (stream : Stream M) : Except ε FrameHeader → Stream M → Prop
  | .ok header, stream' => stream.broken = false ∧ stream.opened = false ∧
    (∃ sent, stream.next? = some sent ∧ sent.header = header) ∧
    stream' = { stream with opened := true }
  | .error _, stream' => stream' = { stream with broken := true }

variable [StreamMessage M]

/-- Where the bytes of a payload were cut off, the reader takes what follows for the rest of
    it, and from there on it is inside some other frame. -/
def ReadPayload (stream : Stream M) : Except ε M → Stream M → Prop
  | .ok message, stream' => stream.broken = false ∧ stream.opened = true ∧
    ∃ sent, stream.next? = some sent ∧
      ((sent.payload = some message ∧
          stream' = { stream with taken := stream.taken + 1, opened := false }) ∨
        (sent.payload = none ∧ StreamMessage.kind message = sent.header.kind ∧
          (∃ bytes, StreamMessage.bytes? message = some bytes ∧
            bytes.length = sent.header.payloadBytes.toNat) ∧
          stream' = { stream with broken := true }))
  | .error _, stream' => stream' = { stream with broken := true }

def Write (stream : Stream M) (frame : Frame M) (result : Except WorkerDataPlaneFrameError Unit)
    (stream' : Stream M) : Prop :=
  ∃ header delivery, header.Announces frame ∧ delivery.Follows result ∧
    stream' = stream.append header frame.message delivery

end Stream

/-! ## Shared state -/

def SourceFile.message : SourceFile → List UInt8 → ClientMessage
  | .descriptor => .sourceDescriptor
  | .archive => .sourceArchive

inductive ControlPhaseState where
  | compiling
  | awaitingReceipt
  deriving DecidableEq

/-- What the threads share. -/
structure Shared where
  upload : Stream ClientMessage
  download : Stream ServerMessage
  phase : ControlPhaseState
  control : List ClientControl
  cancelled : Bool

def Shared.new : Shared := ⟨.new, .new, .compiling, [], false⟩

namespace Shared

/-- The answer to an operation of the worker's main thread. -/
def Worker (shared : Shared) : (op : WorkerOp) → WorkerRes op → Shared → Prop
  | .readHeader, result, shared' => ∃ upload, shared.upload.ReadHeader result upload ∧
    shared' = { shared with upload }
  | .readPayload, result, shared' => ∃ upload, shared.upload.ReadPayload result upload ∧
    shared' = { shared with upload }
  | .write frame, result, shared' => ∃ download, shared.download.Write frame result download ∧
    shared' = { shared with download }
  | .streamArtifact sequence size, .sent bytes, shared' => bytes.length = size.toNat ∧
    shared' = { shared with
      download := shared.download.append ⟨.artifact, sequence, size⟩ (.artifact bytes) .whole }
  -- a file that cannot be read to its end leaves a frame that is cut off
  | .streamArtifact sequence size, .failed _ outputFailed, shared' => ∃ bytes delivery,
    (delivery = .whole → outputFailed = true ∧ bytes.length = size.toNat) ∧
    shared' = { shared with
      download := shared.download.append ⟨.artifact, sequence, size⟩ (.artifact bytes) delivery }
  | .isCancelled, cancelled, shared' => cancelled = shared.cancelled ∧ shared' = shared
  | .tryReceiveControl, none, shared' => shared.control = [] ∧ shared' = shared
  | .tryReceiveControl, some message, shared' => ∃ control, shared.control = message :: control ∧
    shared' = { shared with control }
  | .receiveControl, .ok message, shared' => ∃ control, shared.control = message :: control ∧
    shared' = { shared with control }
  | .receiveControl, .error _, shared' => shared.control = [] ∧ shared' = shared
  | .allowReceipt, _, shared' => shared' = { shared with phase := .awaitingReceipt }
  | _, _, shared' => shared' = shared

/-- The answer to an operation of the control monitor. -/
def Monitor (shared : Shared) : (op : MonitorOp) → MonitorRes op → Shared → Prop
  | .readHeader, result, shared' => ∃ upload, shared.upload.ReadHeader result upload ∧
    shared' = { shared with upload }
  | .readPayload, result, shared' => ∃ upload, shared.upload.ReadPayload result upload ∧
    shared' = { shared with upload }
  | .receiptAllowed, allowed, shared' => allowed = decide (shared.phase = .awaitingReceipt) ∧
    shared' = shared
  | .send message, _, shared' => shared' = { shared with control := shared.control ++ [message] }
  | .cancel, _, shared' => shared' = { shared with cancelled := true }

/-- The answer to an operation of the client. -/
def Client (shared : Shared) : (op : ClientOp) → ClientRes op → Shared → Prop
  | .readHeader, result, shared' => ∃ download, shared.download.ReadHeader result download ∧
    shared' = { shared with download }
  | .readPayload, result, shared' => ∃ download, shared.download.ReadPayload result download ∧
    shared' = { shared with download }
  | .write frame, result, shared' => ∃ upload, shared.upload.Write frame result upload ∧
    shared' = { shared with upload }
  | .streamSource file sequence size, .sent bytes, shared' => bytes.length = size.toNat ∧
    shared' = { shared with
      upload := shared.upload.append ⟨file.kind, sequence, size⟩ (file.message bytes) .whole }
  | .streamSource file sequence size, .failed _, shared' => ∃ bytes delivery,
    (delivery = .whole → bytes.length = size.toNat) ∧
    shared' = { shared with
      upload := shared.upload.append ⟨file.kind, sequence, size⟩ (file.message bytes) delivery }
  | _, _, shared' => shared' = shared

end Shared

/-! ## System -/

abbrev ClientThread :=
  Thread ClientOp ClientRes (Except SnapshotSessionClientError SnapshotSessionOutcome × ClientOutput)

abbrev WorkerThread := Thread WorkerOp WorkerRes (Except SnapshotSessionServeError Unit)

abbrev MonitorThread := Thread MonitorOp MonitorRes Unit

/-- The threads of a session, what they share, and whether the client's transport has made
    its last attempt to cancel. -/
structure System where
  client : ClientThread
  worker : WorkerThread
  monitor : Option MonitorThread
  shared : Shared
  cancelAttempted : Bool

def System.new (rules : SessionRules) (workerRoot : String) (request : SnapshotSessionRequest) :
    System where
  client := .start (runSnapshotSession rules request .new)
  worker := .start (serveSnapshotSession rules workerRoot)
  monitor := none
  shared := .new
  cancelAttempted := false

/-- The monitor after an operation of the worker. -/
def spawned (monitor : Option MonitorThread) : (op : WorkerOp) → WorkerRes op → Option MonitorThread
  | .spawnMonitor sequence, true => some (.start (monitorClientControl sequence))
  | _, _ => monitor

/-- One step of one thread, or the transport's attempt to cancel a session that failed
    (`InterruptibleWriter::best_effort_cancel`). -/
inductive System.Step : System → System → Prop where
  | client {system : System} {op : ClientOp} {r : ClientRes op} {client : ClientThread}
      {shared : Shared} (hthread : system.client.Step op r client)
      (hshared : system.shared.Client op r shared) :
    Step system { system with client, shared }
  | worker {system : System} {op : WorkerOp} {r : WorkerRes op} {worker : WorkerThread}
      {shared : Shared} (hthread : system.worker.Step op r worker)
      (hshared : system.shared.Worker op r shared) :
    Step system { system with worker, shared, monitor := spawned system.monitor op r }
  | monitor {system : System} {op : MonitorOp} {r : MonitorRes op} {thread monitor : MonitorThread}
      {shared : Shared} (hmonitor : system.monitor = some thread)
      (hthread : thread.Step op r monitor) (hshared : system.shared.Monitor op r shared) :
    Step system { system with monitor := some monitor, shared }
  | bestEffortCancel {system : System} {error : SnapshotSessionClientError} {output : ClientOutput}
      {result : Except WorkerDataPlaneFrameError Unit} {upload : Stream ClientMessage}
      (hreturned : system.client.rest = .ret (.error error, output))
      (hcancel : output.canSendCancel = true) (honce : system.cancelAttempted = false)
      (hwrite : system.shared.upload.Write ⟨3, .cancel⟩ result upload) :
    Step system
      { system with shared := { system.shared with upload }, cancelAttempted := true }

/-- Everything that a session can come to. -/
def System.Reachable (rules : SessionRules) (workerRoot : String) (request : SnapshotSessionRequest) :
    System → Prop :=
  Relation.ReflTransGen System.Step (.new rules workerRoot request)

end RustFerry.Snapshot
