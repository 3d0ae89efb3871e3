import RustFerry.ForStd.BigEndian
import RustFerry.ForStd.ByteStream

/-!
# Worker data plane

Length-framed binary transport for large worker source and artifact payloads
(`crates/rustferry-remote/src/data_plane.rs`). A frame is a 24-byte header
(magic, schema, kind, sequence, payload length, all big-endian) followed by the
payload. Readers and writers are generic, as in the source; `usize` is 64 bits.
-/

namespace RustFerry.DataPlane

/-! ## Limits -/

/-- Current schema for binary worker data-plane frame headers. -/
def workerDataPlaneSchemaVersion : UInt16 := 1

/-- Exact encoded size of one binary worker data-plane frame header. -/
def workerDataPlaneHeaderBytes : Nat := 24

/-- Maximum build-request JSON size. -/
def maxWorkerDataPlaneRequestBytes : UInt64 := 1024 * 1024

/-- Maximum cancellation or acknowledgement JSON size. -/
def maxWorkerDataPlaneControlBytes : UInt64 := 64 * 1024

/-- Maximum source-bundle descriptor JSON size (`source.rs`). -/
def maxSourceBundleDescriptorBytes : UInt64 := 128 * 1024 * 1024

/-- Maximum terminal result JSON size. -/
def maxWorkerDataPlaneResultBytes : UInt64 := maxSourceBundleDescriptorBytes

/-- Maximum snapshot ZIP accepted from a client. -/
def maxWorkerDataPlaneSourceBytes : UInt64 := 640 * 1024 * 1024

/-- Maximum sealed physical-iPhone artifact returned by a worker. -/
def maxWorkerDataPlaneArtifactBytes : UInt64 := 2 * 1024 * 1024 * 1024

/-- Largest single NDJSON event accepted by the decoder (`protocol.rs`). -/
def maxEventLineBytes : Nat := 1024 * 1024

/-- `*b"RFDP"`. -/
def workerDataPlaneMagic : List UInt8 := [0x52, 0x46, 0x44, 0x50]

/-- Buffer size of the payload copy loop. -/
def copyBufferBytes : Nat := 16 * 1024

/-! ## Frame kinds -/

/-- Typed frame carried by the full-duplex worker data plane. -/
inductive WorkerDataPlaneFrameKind where
  | buildRequest
  | sourceDescriptor
  | sourceArchive
  | cancel
  | jobAccepted
  | event
  | artifactDescriptor
  | artifact
  | complete
  | error
  | artifactReceipt
  deriving DecidableEq

/-- Stable binary-frame parsing or serialization failure. -/
inductive WorkerDataPlaneFrameError where
  | io
  | emptyInput
  | truncatedHeader
  | invalidMagic
  | unsupportedSchemaVersion (supported received : UInt16)
  | unknownFrameKind
  | payloadTooLarge (kind : WorkerDataPlaneFrameKind) (payloadBytes maximum : UInt64)
  | truncatedPayload
  | payloadSizeUnsupported
  | streamingRequired (kind : WorkerDataPlaneFrameKind)
  | unexpectedSequence (expected received : UInt64)
  | sequenceExhausted
  deriving DecidableEq

namespace WorkerDataPlaneFrameKind

/-- Maximum payload bytes accepted for this frame kind. -/
def maximumPayloadBytes : WorkerDataPlaneFrameKind → UInt64
  | .buildRequest => maxWorkerDataPlaneRequestBytes
  | .sourceDescriptor | .artifactDescriptor => maxSourceBundleDescriptorBytes
  | .sourceArchive => maxWorkerDataPlaneSourceBytes
  | .cancel | .jobAccepted | .error | .artifactReceipt => maxWorkerDataPlaneControlBytes
  | .event => UInt64.ofNat maxEventLineBytes
  | .artifact => maxWorkerDataPlaneArtifactBytes
  | .complete => maxWorkerDataPlaneResultBytes

/-- The `#[repr(u16)]` discriminant. -/
def toWire : WorkerDataPlaneFrameKind → UInt16
  | .buildRequest => 1
  | .sourceDescriptor => 2
  | .sourceArchive => 3
  | .cancel => 4
  | .jobAccepted => 5
  | .event => 6
  | .artifactDescriptor => 7
  | .artifact => 8
  | .complete => 9
  | .error => 10
  | .artifactReceipt => 11

def fromWire (value : UInt16) : Except WorkerDataPlaneFrameError WorkerDataPlaneFrameKind :=
  match value.toNat with
  | 1 => .ok .buildRequest
  | 2 => .ok .sourceDescriptor
  | 3 => .ok .sourceArchive
  | 4 => .ok .cancel
  | 5 => .ok .jobAccepted
  | 6 => .ok .event
  | 7 => .ok .artifactDescriptor
  | 8 => .ok .artifact
  | 9 => .ok .complete
  | 10 => .ok .error
  | 11 => .ok .artifactReceipt
  | _ => .error .unknownFrameKind

/-- Kinds whose payload must be streamed instead of buffered. -/
def isRaw : WorkerDataPlaneFrameKind → Bool
  | .sourceArchive | .artifact => true
  | _ => false

end WorkerDataPlaneFrameKind

/-! ## Headers and sequences -/

/-- Validated header for one length-framed worker payload. The source keeps the
    fields private, so a header only exists with a payload size its kind allows. -/
structure WorkerDataPlaneFrameHeader where
  kind : WorkerDataPlaneFrameKind
  sequence : UInt64
  payloadBytes : UInt64
  bounded : payloadBytes ≤ kind.maximumPayloadBytes

/-- Construct one bounded frame header. -/
def WorkerDataPlaneFrameHeader.new (kind : WorkerDataPlaneFrameKind)
    (sequence payloadBytes : UInt64) :
    Except WorkerDataPlaneFrameError WorkerDataPlaneFrameHeader :=
  if h : payloadBytes ≤ kind.maximumPayloadBytes then
    .ok { kind, sequence, payloadBytes, bounded := h }
  else .error (.payloadTooLarge kind payloadBytes kind.maximumPayloadBytes)

namespace WorkerDataPlaneSequence

/-- `expected.checked_add(1)`. -/
def checkedSucc (n : UInt64) : Option UInt64 :=
  if n.toNat + 1 < 2 ^ 64 then some (n + 1) else none

end WorkerDataPlaneSequence

/-! ## Writers -/

section Write

variable {ω : Type} [ByteSink ω]

/-- The 24 bytes of a header. -/
def encodeHeader (header : WorkerDataPlaneFrameHeader) : List UInt8 :=
  workerDataPlaneMagic ++
  BigEndian.toBytes 2 workerDataPlaneSchemaVersion.toNat ++
  BigEndian.toBytes 2 header.kind.toWire.toNat ++
  BigEndian.toBytes 8 header.sequence.toNat ++
  BigEndian.toBytes 8 header.payloadBytes.toNat

/-- Encode one validated header without buffering its payload. -/
def writeWorkerDataPlaneHeader (writer : ω) (header : WorkerDataPlaneFrameHeader) :
    Except WorkerDataPlaneFrameError ω :=
  (ByteSink.writeAll writer (encodeHeader header)).mapError fun _ => .io

/-- Write one bounded in-memory frame. -/
def writeWorkerDataPlaneFrame (writer : ω) (kind : WorkerDataPlaneFrameKind)
    (sequence : UInt64) (payload : List UInt8) : Except WorkerDataPlaneFrameError ω := do
  if 2 ^ 64 ≤ payload.length then .error .payloadSizeUnsupported
  let header ← WorkerDataPlaneFrameHeader.new kind sequence (UInt64.ofNat payload.length)
  let writer ← writeWorkerDataPlaneHeader writer header
  (ByteSink.writeAll writer payload).mapError fun _ => .io

end Write

/-! ## Readers -/

section Read

variable {ρ ω : Type} [ByteSource ρ] [ByteSink ω]

/-- Fill a header buffer of `length` bytes, distinguishing an empty stream from a
    truncated one. -/
def readHeaderExact (reader : ρ) (length : Nat) :
    Except WorkerDataPlaneFrameError (List UInt8 × ρ) :=
  readExact .io (fun offset => if offset = 0 then .emptyInput else .truncatedHeader)
    reader [] length

/-- Fill a payload buffer of `length` bytes. -/
def readPayloadExact (reader : ρ) (length : Nat) :
    Except WorkerDataPlaneFrameError (List UInt8 × ρ) :=
  readExact .io (fun _ => .truncatedPayload) reader [] length

/-- `encoded[start..stop]`. -/
def slice (encoded : List UInt8) (start stop : Nat) : List UInt8 :=
  (encoded.drop start).take (stop - start)

/-- Validate the fields of a filled header buffer. -/
def decodeHeader (encoded : List UInt8) :
    Except WorkerDataPlaneFrameError WorkerDataPlaneFrameHeader := do
  if slice encoded 0 4 ≠ workerDataPlaneMagic then .error .invalidMagic
  let schemaVersion := UInt16.ofNat (BigEndian.ofBytes (slice encoded 4 6))
  if schemaVersion ≠ workerDataPlaneSchemaVersion then
    .error (.unsupportedSchemaVersion workerDataPlaneSchemaVersion schemaVersion)
  let kind ← WorkerDataPlaneFrameKind.fromWire
    (UInt16.ofNat (BigEndian.ofBytes (slice encoded 6 8)))
  let sequence := UInt64.ofNat (BigEndian.ofBytes (slice encoded 8 16))
  let payloadBytes := UInt64.ofNat (BigEndian.ofBytes (slice encoded 16 24))
  WorkerDataPlaneFrameHeader.new kind sequence payloadBytes

/-- Decode and validate one fixed-size frame header without reading its payload. -/
def readWorkerDataPlaneHeader (reader : ρ) :
    Except WorkerDataPlaneFrameError (WorkerDataPlaneFrameHeader × ρ) := do
  let (encoded, reader) ← readHeaderExact reader workerDataPlaneHeaderBytes
  let header ← decodeHeader encoded
  return (header, reader)

/-- Read one bounded in-memory payload after its validated header. -/
def readWorkerDataPlanePayload (reader : ρ) (header : WorkerDataPlaneFrameHeader) :
    Except WorkerDataPlaneFrameError (List UInt8 × ρ) :=
  if header.kind.isRaw then .error (.streamingRequired header.kind)
  else readPayloadExact reader header.payloadBytes.toNat

/-- Stream exactly one validated payload into a sink with constant memory. -/
def copyWorkerDataPlanePayload (reader : ρ) (writer : ω) (header : WorkerDataPlaneFrameHeader) :
    Except WorkerDataPlaneFrameError (Nat × ρ × ω) :=
  copyExact .io .truncatedPayload copyBufferBytes reader writer header.payloadBytes.toNat 0

/-- Write one header followed by an exact-length streamed payload. -/
def writeWorkerDataPlaneStream (writer : ω) (kind : WorkerDataPlaneFrameKind)
    (sequence : UInt64) (reader : ρ) (payloadBytes : UInt64) :
    Except WorkerDataPlaneFrameError (Nat × ρ × ω) := do
  let header ← WorkerDataPlaneFrameHeader.new kind sequence payloadBytes
  let writer ← writeWorkerDataPlaneHeader writer header
  copyWorkerDataPlanePayload reader writer header

end Read

end RustFerry.DataPlane
