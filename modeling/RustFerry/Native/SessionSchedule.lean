import RustFerry.Native.SessionSystem

/-!
# Schedules

An executable scheduler for a session: a thread whose turn it is goes on by one operation,
unless it would have to wait. Reads and writes succeed; what the local operations answer is
a plan.
-/

namespace RustFerry.Snapshot

/-! ## Streams -/

/-- The header that announces a frame, unless its payload is too long for one. -/
def headerOf? {M : Type} [StreamMessage M] (frame : Frame M) : Option FrameHeader :=
  let size := ((StreamMessage.bytes? frame.message).getD []).length
  if size < 2 ^ 64 then
    some ⟨StreamMessage.kind frame.message, frame.sequence, UInt64.ofNat size⟩
  else none

namespace Stream

variable {M : Type}

def readHeader? (stream : Stream M) : Option (FrameHeader × Stream M) :=
  if stream.broken || stream.opened then none
  else stream.next?.map fun sent => (sent.header, { stream with opened := true })

def readPayload? (stream : Stream M) : Option (M × Stream M) :=
  if stream.broken || !stream.opened then none
  else stream.next?.bind fun sent => sent.payload.map fun message =>
    (message, { stream with taken := stream.taken + 1, opened := false })

def write? [StreamMessage M] (stream : Stream M) (frame : Frame M) : Option (Stream M) :=
  (headerOf? frame).map fun header => stream.append header frame.message .whole

end Stream

/-! ## Answers -/

/-- What the local operations answer. -/
structure Plan where
  client : (op : ClientOp) → ClientRes op
  worker : (op : WorkerOp) → WorkerRes op

namespace Shared

def worker? (plan : Plan) (shared : Shared) : (op : WorkerOp) → Option (WorkerRes op × Shared)
  | .readHeader => shared.upload.readHeader?.map fun (header, upload) =>
    (.ok header, { shared with upload })
  | .readPayload => shared.upload.readPayload?.map fun (message, upload) =>
    (.ok message, { shared with upload })
  | .write frame => (shared.download.write? frame).map fun download =>
    (.ok (), { shared with download })
  | .streamArtifact sequence size =>
    match plan.worker (.streamArtifact sequence size) with
    | .sent bytes =>
      if bytes.length = size.toNat then some (.sent bytes, { shared with
        download := shared.download.append ⟨.artifact, sequence, size⟩ (.artifact bytes) .whole })
      else none
    | .failed _ _ => none
  | .isCancelled => some (shared.cancelled, shared)
  | .tryReceiveControl =>
    match shared.control with
    | [] => some (none, shared)
    | message :: control => some (some message, { shared with control })
  | .receiveControl =>
    match shared.control with
    | [] => none
    | message :: control => some (.ok message, { shared with control })
  | .allowReceipt => some ((), { shared with phase := .awaitingReceipt })
  | op => some (plan.worker op, shared)

def monitor? (shared : Shared) : (op : MonitorOp) → Option (MonitorRes op × Shared)
  | .readHeader => shared.upload.readHeader?.map fun (header, upload) =>
    (.ok header, { shared with upload })
  | .readPayload => shared.upload.readPayload?.map fun (message, upload) =>
    (.ok message, { shared with upload })
  | .receiptAllowed => some (decide (shared.phase = .awaitingReceipt), shared)
  | .send message => some ((), { shared with control := shared.control ++ [message] })
  | .cancel => some ((), { shared with cancelled := true })

def client? (plan : Plan) (shared : Shared) : (op : ClientOp) → Option (ClientRes op × Shared)
  | .readHeader => shared.download.readHeader?.map fun (header, download) =>
    (.ok header, { shared with download })
  | .readPayload => shared.download.readPayload?.map fun (message, download) =>
    (.ok message, { shared with download })
  | .write frame => (shared.upload.write? frame).map fun upload => (.ok (), { shared with upload })
  | .streamSource file sequence size =>
    match plan.client (.streamSource file sequence size) with
    | .sent bytes =>
      if bytes.length = size.toNat then some (.sent bytes, { shared with
        upload := shared.upload.append ⟨file.kind, sequence, size⟩ (file.message bytes) .whole })
      else none
    | .failed _ => none
  | op => some (plan.client op, shared)

end Shared

/-! ## Turns -/

inductive Turn where
  | client
  | worker
  | monitor

/-- The thread whose turn it is goes on, if it can. -/
def System.advance (plan : Plan) (system : System) : Turn → Option System
  | .client => (system.client.resume (system.shared.client? plan)).map
    fun (_, client, shared) => { system with client, shared }
  | .worker => (system.worker.resume (system.shared.worker? plan)).map
    fun (e, worker, shared) =>
      { system with worker, shared, monitor := spawned system.monitor e.op e.response }
  | .monitor => system.monitor.bind fun thread =>
    (thread.resume system.shared.monitor?).map
      fun (_, monitor, shared) => { system with monitor := some monitor, shared }

def System.run (plan : Plan) (system : System) (turns : List Turn) : System :=
  turns.foldl (fun system turn => (system.advance plan turn).getD system) system

end RustFerry.Snapshot
