import RustFerry.Native.DataPlane

/-!
# Data-plane round trip

Frames written one after the other are read back unchanged, however the
underlying reads are split. Reading consumes exactly the written bytes, ends in
`emptyInput` at a frame boundary and in a truncation error everywhere else.
-/

namespace RustFerry.DataPlane

/-! ## Frames -/

/-- One frame whose payload respects the limit of its kind. -/
structure WorkerDataPlaneFrame where
  kind : WorkerDataPlaneFrameKind
  sequence : UInt64
  payload : List UInt8
  bounded : payload.length ≤ kind.maximumPayloadBytes.toNat

/-- What a reader observes of a frame. -/
def WorkerDataPlaneFrame.contents (frame : WorkerDataPlaneFrame) :
    WorkerDataPlaneFrameKind × UInt64 × List UInt8 :=
  (frame.kind, frame.sequence, frame.payload)

/-- Read a header and then its payload, by the reader its kind requires. -/
def readFrame {ρ : Type} [ByteSource ρ] (reader : ρ) :
    Except WorkerDataPlaneFrameError ((WorkerDataPlaneFrameKind × UInt64 × List UInt8) × ρ) := do
  let (header, reader) ← readWorkerDataPlaneHeader reader
  if header.kind.isRaw then
    let (_, reader, payload) ← copyWorkerDataPlanePayload reader ([] : List UInt8) header
    return ((header.kind, header.sequence, payload), reader)
  else
    let (payload, reader) ← readWorkerDataPlanePayload reader header
    return ((header.kind, header.sequence, payload), reader)

/-- Read `n` frames. -/
def readFrames {ρ : Type} [ByteSource ρ] : Nat → ρ →
    Except WorkerDataPlaneFrameError (List (WorkerDataPlaneFrameKind × UInt64 × List UInt8) × ρ)
  | 0, reader => .ok ([], reader)
  | n + 1, reader => do
    let (frame, reader) ← readFrame reader
    let (frames, reader) ← readFrames n reader
    return (frame :: frames, reader)

/-- Write frames one after the other. -/
def writeFrames {ω : Type} [ByteSink ω] (writer : ω) :
    List WorkerDataPlaneFrame → Except WorkerDataPlaneFrameError ω
  | [] => .ok writer
  | frame :: frames => do
    let writer ← writeWorkerDataPlaneFrame writer frame.kind frame.sequence frame.payload
    writeFrames writer frames

/-! ## Header codec -/

/-- A slice that begins and ends with a part is that part. -/
private theorem slice_append (before middle after : List UInt8) {start stop : Nat}
    (hstart : before.length = start) (hstop : start + middle.length = stop) :
    slice (before ++ middle ++ after) start stop = middle := by
  subst hstart hstop
  simp [slice, List.append_assoc]

/-- A slice within bounds has its length. -/
private theorem length_slice (bytes : List UInt8) {start stop : Nat} (h : stop ≤ bytes.length)
    (hle : start ≤ stop) : (slice bytes start stop).length = stop - start := by
  simp only [slice, List.length_take, List.length_drop]
  omega

/-- Consecutive slices glue together. -/
private theorem slice_append_slice (bytes : List UInt8) {a b c : Nat} (hab : a ≤ b) (hbc : b ≤ c) :
    slice bytes a b ++ slice bytes b c = slice bytes a c := by
  have hb : bytes.drop b = (bytes.drop a).drop (b - a) := by
    rw [List.drop_drop]; congr 1; omega
  rw [slice, slice, slice, hb, ← List.take_add]
  congr 1
  omega

/-- Headers have one size. -/
@[simp] theorem length_encodeHeader (header : WorkerDataPlaneFrameHeader) :
    (encodeHeader header).length = workerDataPlaneHeaderBytes := by
  simp [encodeHeader, workerDataPlaneMagic, workerDataPlaneHeaderBytes]

theorem fromWire_toWire (kind : WorkerDataPlaneFrameKind) :
    WorkerDataPlaneFrameKind.fromWire kind.toWire = .ok kind := by
  cases kind <;> rfl

variable {kind : WorkerDataPlaneFrameKind}

theorem toWire_of_fromWire {value : UInt16}
    (h : WorkerDataPlaneFrameKind.fromWire value = .ok kind) : kind.toWire = value := by
  unfold WorkerDataPlaneFrameKind.fromWire at h
  split at h
  case h_12 => cases h
  all_goals
    rename_i hvalue
    cases h
    exact UInt16.toNat_inj.mp hvalue.symm

theorem WorkerDataPlaneFrameHeader.new_self (header : WorkerDataPlaneFrameHeader) :
    WorkerDataPlaneFrameHeader.new header.kind header.sequence header.payloadBytes =
      .ok header := by
  simp [WorkerDataPlaneFrameHeader.new, header.bounded]

theorem WorkerDataPlaneFrameHeader.new_ok
    {sequence payloadBytes : UInt64} {header : WorkerDataPlaneFrameHeader}
    (h : WorkerDataPlaneFrameHeader.new kind sequence payloadBytes = .ok header) :
    header.kind = kind ∧ header.sequence = sequence ∧ header.payloadBytes = payloadBytes := by
  unfold WorkerDataPlaneFrameHeader.new at h
  split at h
  · cases h
    exact ⟨rfl, rfl, rfl⟩
  · cases h

private theorem uint16_ofNat_toBytes (n : UInt16) :
    UInt16.ofNat (BigEndian.ofBytes (BigEndian.toBytes 2 n.toNat)) = n := by
  rw [BigEndian.ofBytes_toBytes_of_lt n.toNat_lt, UInt16.ofNat_toNat]

private theorem uint64_ofNat_toBytes (n : UInt64) :
    UInt64.ofNat (BigEndian.ofBytes (BigEndian.toBytes 8 n.toNat)) = n := by
  rw [BigEndian.ofBytes_toBytes_of_lt n.toNat_lt, UInt64.ofNat_toNat]

private theorem toBytes_uint16_ofNat (bytes : List UInt8) (h : bytes.length = 2) :
    BigEndian.toBytes 2 (UInt16.ofNat (BigEndian.ofBytes bytes)).toNat = bytes := by
  have hlt : BigEndian.ofBytes bytes < 2 ^ 16 := by
    simpa [h] using BigEndian.ofBytes_lt bytes
  rw [UInt16.toNat_ofNat_of_lt' hlt, ← h, BigEndian.toBytes_ofBytes]

private theorem toBytes_uint64_ofNat (bytes : List UInt8) (h : bytes.length = 8) :
    BigEndian.toBytes 8 (UInt64.ofNat (BigEndian.ofBytes bytes)).toNat = bytes := by
  have hlt : BigEndian.ofBytes bytes < 2 ^ 64 := by
    simpa [h] using BigEndian.ofBytes_lt bytes
  rw [UInt64.toNat_ofNat_of_lt' hlt, ← h, BigEndian.toBytes_ofBytes]

/-- The five fields sit at their fixed offsets. -/
private theorem slices_encodeHeader (header : WorkerDataPlaneFrameHeader) :
    slice (encodeHeader header) 0 4 = workerDataPlaneMagic ∧
    slice (encodeHeader header) 4 6 =
      BigEndian.toBytes 2 workerDataPlaneSchemaVersion.toNat ∧
    slice (encodeHeader header) 6 8 = BigEndian.toBytes 2 header.kind.toWire.toNat ∧
    slice (encodeHeader header) 8 16 = BigEndian.toBytes 8 header.sequence.toNat ∧
    slice (encodeHeader header) 16 24 = BigEndian.toBytes 8 header.payloadBytes.toNat := by
  refine ⟨?_, ?_, ?_, ?_, ?_⟩
  · simp [encodeHeader, slice, workerDataPlaneMagic]
  · rw [encodeHeader, List.append_assoc, List.append_assoc]
    exact slice_append _ _ _ rfl (by simp)
  · rw [encodeHeader, List.append_assoc]
    exact slice_append _ _ _ (by simp [workerDataPlaneMagic]) (by simp)
  · rw [encodeHeader]
    exact slice_append _ _ _ (by simp [workerDataPlaneMagic]) (by simp)
  · rw [encodeHeader, ← List.append_nil (_ ++ BigEndian.toBytes 8 header.payloadBytes.toNat)]
    exact slice_append _ _ _ (by simp [workerDataPlaneMagic]) (by simp)

/-- Decoding an encoded header gives it back. -/
theorem decodeHeader_encodeHeader (header : WorkerDataPlaneFrameHeader) :
    decodeHeader (encodeHeader header) = .ok header := by
  obtain ⟨hmagic, hschema, hkind, hseq, hlen⟩ := slices_encodeHeader header
  simp only [decodeHeader, hmagic, hschema, hkind, hseq, hlen, uint16_ofNat_toBytes,
    uint64_ofNat_toBytes, fromWire_toWire]
  exact header.new_self

/-- An accepted header buffer is the encoding of the header it denotes. -/
theorem encodeHeader_of_decodeHeader {bytes : List UInt8} {header : WorkerDataPlaneFrameHeader}
    (hlen : bytes.length = workerDataPlaneHeaderBytes)
    (h : decodeHeader bytes = .ok header) : encodeHeader header = bytes := by
  have hlen24 : bytes.length = 24 := hlen
  simp only [decodeHeader, bind, Except.bind] at h
  split at h
  · cases h
  · rename_i hmagic
    split at h
    · cases h
    · rename_i hschema
      split at h
      · cases h
      · rename_i kind hkind
        obtain ⟨hk, hs, hp⟩ := WorkerDataPlaneFrameHeader.new_ok h
        have hmagic' : slice bytes 0 4 = workerDataPlaneMagic := by
          by_contra hne; simp [hne] at hmagic
        have hschema' : UInt16.ofNat (BigEndian.ofBytes (slice bytes 4 6)) =
            workerDataPlaneSchemaVersion := by
          by_contra hne; simp [hne] at hschema
        rw [encodeHeader, hk, hs, hp, toWire_of_fromWire hkind, ← hmagic', ← hschema',
          toBytes_uint16_ofNat _ (length_slice _ (by omega) (by omega)),
          toBytes_uint16_ofNat _ (length_slice _ (by omega) (by omega)),
          toBytes_uint64_ofNat _ (length_slice _ (by omega) (by omega)),
          toBytes_uint64_ofNat _ (length_slice _ (by omega) (by omega)),
          slice_append_slice _ (by omega) (by omega), slice_append_slice _ (by omega) (by omega),
          slice_append_slice _ (by omega) (by omega), slice_append_slice _ (by omega) (by omega)]
        simp [slice, ← hlen24]

/-! ## One frame -/

theorem toNat_maximumPayloadBytes_lt (kind : WorkerDataPlaneFrameKind) :
    kind.maximumPayloadBytes.toNat < 2 ^ 64 := kind.maximumPayloadBytes.toNat_lt

namespace WorkerDataPlaneFrame

theorem toNat_ofNat_length (frame : WorkerDataPlaneFrame) :
    (UInt64.ofNat frame.payload.length).toNat = frame.payload.length :=
  UInt64.toNat_ofNat_of_lt'
    (Nat.lt_of_le_of_lt frame.bounded (toNat_maximumPayloadBytes_lt frame.kind))

/-- The header a writer puts in front of the payload. -/
def header (frame : WorkerDataPlaneFrame) : WorkerDataPlaneFrameHeader where
  kind := frame.kind
  sequence := frame.sequence
  payloadBytes := UInt64.ofNat frame.payload.length
  bounded := by
    rw [UInt64.le_iff_toNat_le, frame.toNat_ofNat_length]
    exact frame.bounded

/-- The bytes of a frame on the wire. -/
def encode (frame : WorkerDataPlaneFrame) : List UInt8 :=
  encodeHeader frame.header ++ frame.payload

/-- The length of a frame. -/
@[simp] theorem length_encode (frame : WorkerDataPlaneFrame) :
    frame.encode.length = workerDataPlaneHeaderBytes + frame.payload.length := by
  simp [encode]

@[simp] theorem header_payloadBytes (frame : WorkerDataPlaneFrame) :
    frame.header.payloadBytes.toNat = frame.payload.length := frame.toNat_ofNat_length

end WorkerDataPlaneFrame

/-- Writing a frame appends its encoding. -/
theorem writeWorkerDataPlaneFrame_eq (writer : List UInt8) (frame : WorkerDataPlaneFrame) :
    writeWorkerDataPlaneFrame writer frame.kind frame.sequence frame.payload =
      .ok (writer ++ frame.encode) := by
  have hlt : ¬ 2 ^ 64 ≤ frame.payload.length := by
    have := Nat.lt_of_le_of_lt frame.bounded (toNat_maximumPayloadBytes_lt frame.kind)
    omega
  have hnew : WorkerDataPlaneFrameHeader.new frame.kind frame.sequence
      (UInt64.ofNat frame.payload.length) = .ok frame.header :=
    WorkerDataPlaneFrameHeader.new_self frame.header
  simp only [writeWorkerDataPlaneFrame, hlt, hnew, writeWorkerDataPlaneHeader, bind, Except.bind,
    ByteSink.writeAll_list, Except.mapError, ↓reduceIte]
  rw [List.append_assoc, WorkerDataPlaneFrame.encode]

/-- A streamed write of the payload bytes puts the same frame on the wire, however
    the payload's own source splits its reads. -/
theorem writeWorkerDataPlaneStream_eq (writer : List UInt8) (frame : WorkerDataPlaneFrame)
    (source : ShortReader) (hsource : source.bytes = frame.payload) :
    ∃ source', writeWorkerDataPlaneStream writer frame.kind frame.sequence source
        (UInt64.ofNat frame.payload.length) =
      .ok (frame.payload.length, source', writer ++ frame.encode) ∧ source'.bytes = [] := by
  have hnew : WorkerDataPlaneFrameHeader.new frame.kind frame.sequence
      (UInt64.ofNat frame.payload.length) = .ok frame.header :=
    WorkerDataPlaneFrameHeader.new_self frame.header
  obtain ⟨calls, hcopy⟩ := ShortReader.copyExact_ok
    WorkerDataPlaneFrameError.io .truncatedPayload copyBufferBytes (by decide) source
    (writer ++ encodeHeader frame.header) frame.payload.length 0 (by rw [hsource])
  refine ⟨{ source with bytes := source.bytes.drop frame.payload.length, calls := calls }, ?_, ?_⟩
  · simp only [writeWorkerDataPlaneStream, hnew, writeWorkerDataPlaneHeader, bind, Except.bind,
      ByteSink.writeAll_list, Except.mapError, copyWorkerDataPlanePayload,
      WorkerDataPlaneFrame.header_payloadBytes, hcopy, Nat.zero_add, WorkerDataPlaneFrame.encode]
    rw [hsource, List.take_length, List.append_assoc]
  · simp [hsource]

/-- A complete header is read back, and only its bytes are consumed. -/
theorem readWorkerDataPlaneHeader_encodeHeader (header : WorkerDataPlaneFrameHeader)
    (rest : List UInt8) (r : ShortReader) (hr : r.bytes = encodeHeader header ++ rest) :
    ∃ calls, readWorkerDataPlaneHeader r =
      .ok (header, { r with bytes := rest, calls := calls }) := by
  have hlen := length_encodeHeader header
  obtain ⟨calls, hread⟩ := ShortReader.readExact_ok WorkerDataPlaneFrameError.io
    (fun offset => if offset = 0 then .emptyInput else .truncatedHeader) r []
    workerDataPlaneHeaderBytes (by rw [hr, List.length_append]; omega)
  refine ⟨calls, ?_⟩
  have htake : r.bytes.take workerDataPlaneHeaderBytes = encodeHeader header := by
    rw [hr, ← hlen, List.take_left]
  have hdrop : r.bytes.drop workerDataPlaneHeaderBytes = rest := by
    rw [hr, ← hlen, List.drop_left]
  rw [htake, hdrop, List.nil_append] at hread
  simp only [readWorkerDataPlaneHeader, readHeaderExact, hread, bind, Except.bind,
    decodeHeader_encodeHeader, pure, Except.pure]

/-- A header that was read is the encoding of the bytes it consumed. -/
theorem encodeHeader_of_readWorkerDataPlaneHeader {r r' : ShortReader}
    {header : WorkerDataPlaneFrameHeader}
    (h : readWorkerDataPlaneHeader r = .ok (header, r')) :
    r.bytes = encodeHeader header ++ r'.bytes := by
  by_cases hlen : workerDataPlaneHeaderBytes ≤ r.bytes.length
  · obtain ⟨calls, hread⟩ := ShortReader.readExact_ok WorkerDataPlaneFrameError.io
      (fun offset => if offset = 0 then .emptyInput else .truncatedHeader) r []
      workerDataPlaneHeaderBytes hlen
    simp only [readWorkerDataPlaneHeader, readHeaderExact, hread, bind, Except.bind] at h
    split at h
    · cases h
    · rename_i decoded hdecode
      simp only [pure, Except.pure, Except.ok.injEq, Prod.mk.injEq] at h
      obtain ⟨rfl, rfl⟩ := h
      rw [List.nil_append] at hdecode
      rw [encodeHeader_of_decodeHeader (by rw [List.length_take]; omega) hdecode,
        List.take_append_drop]
  · -- with fewer bytes the buffer is never filled
    have hshort := ShortReader.readExact_short WorkerDataPlaneFrameError.io
      (fun offset => if offset = 0 then .emptyInput else .truncatedHeader) r []
      workerDataPlaneHeaderBytes (by omega)
    simp only [readWorkerDataPlaneHeader, readHeaderExact, hshort, bind, Except.bind] at h
    cases h

/-- One frame is read back, and only its bytes are consumed. -/
theorem readFrame_encode (frame : WorkerDataPlaneFrame) (rest : List UInt8) (r : ShortReader)
    (hr : r.bytes = frame.encode ++ rest) :
    ∃ calls, readFrame r = .ok (frame.contents, { r with bytes := rest, calls := calls }) := by
  rw [WorkerDataPlaneFrame.encode, List.append_assoc] at hr
  obtain ⟨calls, hheader⟩ :=
    readWorkerDataPlaneHeader_encodeHeader frame.header (frame.payload ++ rest) r hr
  have hpayload := frame.header_payloadBytes
  simp only [readFrame, hheader, bind, Except.bind]
  by_cases hraw : frame.header.kind.isRaw = true
  · obtain ⟨calls', hcopy⟩ := ShortReader.copyExact_ok WorkerDataPlaneFrameError.io
      .truncatedPayload copyBufferBytes (by decide)
      { r with bytes := frame.payload ++ rest, calls := calls } [] frame.payload.length 0
      (by simp)
    refine ⟨calls', ?_⟩
    simp only [hraw, ↓reduceIte, copyWorkerDataPlanePayload, hpayload, hcopy, pure, Except.pure]
    simp [WorkerDataPlaneFrame.contents, WorkerDataPlaneFrame.header]
  · obtain ⟨calls', hread⟩ := ShortReader.readExact_ok WorkerDataPlaneFrameError.io
      (fun _ => .truncatedPayload)
      { r with bytes := frame.payload ++ rest, calls := calls } [] frame.payload.length (by simp)
    refine ⟨calls', ?_⟩
    simp only [hraw, Bool.false_eq_true, ↓reduceIte, readWorkerDataPlanePayload, readPayloadExact,
      hpayload, hread, pure, Except.pure]
    simp [WorkerDataPlaneFrame.contents, WorkerDataPlaneFrame.header]

/-! ## Truncation -/

/-- The error reported for a stream that stops after `cut` bytes of a frame. -/
def truncationError (cut : Nat) : WorkerDataPlaneFrameError :=
  if cut = 0 then .emptyInput
  else if cut < workerDataPlaneHeaderBytes then .truncatedHeader
  else .truncatedPayload

/-- Input that stops before the end of a frame is rejected, and the error tells
    an empty stream, a cut header and a cut payload apart. -/
theorem readFrame_truncated (frame : WorkerDataPlaneFrame) (cut : Nat) (r : ShortReader)
    (hcut : cut < frame.encode.length) (hr : r.bytes = frame.encode.take cut) :
    readFrame r = .error (truncationError cut) := by
  have hlen : r.bytes.length = cut := by rw [hr, List.length_take]; omega
  by_cases hheader : cut < workerDataPlaneHeaderBytes
  · have hshort := ShortReader.readExact_short WorkerDataPlaneFrameError.io
      (fun offset => if offset = 0 then .emptyInput else .truncatedHeader) r []
      workerDataPlaneHeaderBytes (by omega)
    simp only [readFrame, readWorkerDataPlaneHeader, readHeaderExact, hshort, bind, Except.bind,
      List.length_nil, Nat.zero_add, hlen, truncationError, hheader, ↓reduceIte]
  · -- the whole header is there, so the payload is what is cut
    have hne : ¬ cut = 0 := by
      simp only [workerDataPlaneHeaderBytes] at hheader; omega
    have hsplit : r.bytes = encodeHeader frame.header ++
        frame.payload.take (cut - workerDataPlaneHeaderBytes) := by
      rw [hr, WorkerDataPlaneFrame.encode, List.take_append, length_encodeHeader,
        List.take_of_length_le (by rw [length_encodeHeader]; omega)]
    obtain ⟨calls, hread⟩ := readWorkerDataPlaneHeader_encodeHeader frame.header _ r hsplit
    have hpayload := frame.header_payloadBytes
    have hmissing : (frame.payload.take (cut - workerDataPlaneHeaderBytes)).length <
        frame.payload.length := by
      rw [frame.length_encode] at hcut
      rw [List.length_take]; omega
    simp only [readFrame, hread, bind, Except.bind]
    by_cases hraw : frame.header.kind.isRaw = true
    · have hcopy := ShortReader.copyExact_short WorkerDataPlaneFrameError.io .truncatedPayload
        copyBufferBytes (by decide)
        { r with bytes := frame.payload.take (cut - workerDataPlaneHeaderBytes), calls := calls }
        [] frame.payload.length 0 hmissing
      simp only [hraw, ↓reduceIte, copyWorkerDataPlanePayload, hpayload, hcopy, truncationError,
        hne, hheader]
    · have hfill := ShortReader.readExact_short WorkerDataPlaneFrameError.io
        (fun _ => .truncatedPayload)
        { r with bytes := frame.payload.take (cut - workerDataPlaneHeaderBytes), calls := calls }
        [] frame.payload.length hmissing
      simp only [hraw, Bool.false_eq_true, ↓reduceIte, readWorkerDataPlanePayload,
        readPayloadExact, hpayload, hfill, truncationError, hne, hheader]

/-! ## Streams of frames -/

/-- The bytes of a list of frames on the wire. -/
def encodeFrames (frames : List WorkerDataPlaneFrame) : List UInt8 :=
  frames.flatMap WorkerDataPlaneFrame.encode

theorem writeFrames_eq (writer : List UInt8) (frames : List WorkerDataPlaneFrame) :
    writeFrames writer frames = .ok (writer ++ encodeFrames frames) := by
  induction frames generalizing writer with
  | nil => simp [writeFrames, encodeFrames]
  | cons frame frames ih =>
    simp only [writeFrames, writeWorkerDataPlaneFrame_eq, bind, Except.bind, ih]
    simp [encodeFrames]

/-- Reading back a written stream, whatever follows it. -/
theorem readFrames_encodeFrames (frames : List WorkerDataPlaneFrame) (rest : List UInt8)
    (r : ShortReader) (hr : r.bytes = encodeFrames frames ++ rest) :
    ∃ calls, readFrames frames.length r =
      .ok (frames.map WorkerDataPlaneFrame.contents,
        { r with bytes := rest, calls := calls }) := by
  induction frames generalizing r with
  | nil =>
    refine ⟨r.calls, ?_⟩
    simp only [encodeFrames, List.flatMap_nil, List.nil_append] at hr
    simp [readFrames, ← hr]
  | cons frame frames ih =>
    rw [encodeFrames, List.flatMap_cons, List.append_assoc] at hr
    obtain ⟨calls, hframe⟩ := readFrame_encode frame _ r hr
    obtain ⟨calls', hframes⟩ := ih
      { r with bytes := encodeFrames frames ++ rest, calls := calls } rfl
    refine ⟨calls', ?_⟩
    simp only [List.length_cons, readFrames, bind, Except.bind]
    rw [hframe]
    simp only [encodeFrames] at hframes ⊢
    simp only [hframes, pure, Except.pure, List.map_cons]

/-- Every strict prefix of a stream stops at some point of one of its frames. -/
theorem exists_cut_of_lt (frames : List WorkerDataPlaneFrame) (n : Nat)
    (hn : n < (encodeFrames frames).length) :
    ∃ before frame after cut, frames = before ++ frame :: after ∧ cut < frame.encode.length ∧
      (encodeFrames frames).take n = encodeFrames before ++ frame.encode.take cut := by
  induction frames generalizing n with
  | nil => simp [encodeFrames] at hn
  | cons frame frames ih =>
    have hsplit : encodeFrames (frame :: frames) = frame.encode ++ encodeFrames frames := rfl
    by_cases hcut : n < frame.encode.length
    · refine ⟨[], frame, frames, n, rfl, hcut, ?_⟩
      rw [hsplit, List.take_append_of_le_length (by omega)]
      simp [encodeFrames]
    · obtain ⟨before, frame', after, cut, rfl, hlt, htake⟩ := ih (n - frame.encode.length)
        (by rw [hsplit, List.length_append] at hn; omega)
      refine ⟨frame :: before, frame', after, cut, rfl, hlt, ?_⟩
      rw [hsplit, List.take_append, List.take_of_length_le (by omega), htake,
        ← List.append_assoc]
      rfl

/-- A reader whose input stops after a strict prefix delivers the complete frames
    and then the error of the place where the input stops. -/
theorem readFrames_strict_prefix (frames : List WorkerDataPlaneFrame) (n : Nat)
    (hn : n < (encodeFrames frames).length) (r : ShortReader)
    (hr : r.bytes = (encodeFrames frames).take n) :
    ∃ before frame after cut r', frames = before ++ frame :: after ∧
      cut < frame.encode.length ∧ n = (encodeFrames before).length + cut ∧
      readFrames before.length r = .ok (before.map WorkerDataPlaneFrame.contents, r') ∧
      readFrame r' = .error (truncationError cut) := by
  obtain ⟨before, frame, after, cut, hframes, hcut, htake⟩ := exists_cut_of_lt frames n hn
  obtain ⟨calls, hread⟩ := readFrames_encodeFrames before (frame.encode.take cut) r
    (hr.trans htake)
  have hlen : n = (encodeFrames before).length + cut := by
    have := congrArg List.length htake
    simp only [List.length_append, List.length_take] at this
    omega
  exact ⟨before, frame, after, cut, _, hframes, hcut, hlen, hread,
    readFrame_truncated frame cut _ hcut rfl⟩

/-- The data plane round trip: whatever the reads are split into, a written stream
    is read back frame by frame, exactly its bytes are consumed, its end is
    `emptyInput`, every strict prefix is `emptyInput` at a frame boundary and
    truncated inside a frame, and an accepted header is the encoding of itself. -/
theorem readFrames_writeFrames (frames : List WorkerDataPlaneFrame) (schedule : Nat → Nat) :
    ∃ bytes, writeFrames ([] : List UInt8) frames = .ok bytes ∧
      (∀ rest, ∃ r, readFrames frames.length (ShortReader.mk (bytes ++ rest) schedule 0) =
          .ok (frames.map WorkerDataPlaneFrame.contents, r) ∧ r.bytes = rest) ∧
      (∃ r, readFrames frames.length (ShortReader.mk bytes schedule 0) =
          .ok (frames.map WorkerDataPlaneFrame.contents, r) ∧
        readWorkerDataPlaneHeader r = .error .emptyInput) ∧
      (∀ n < bytes.length, ∃ before frame after cut r, frames = before ++ frame :: after ∧
        cut < frame.encode.length ∧ n = (encodeFrames before).length + cut ∧
        readFrames before.length (ShortReader.mk (bytes.take n) schedule 0) =
          .ok (before.map WorkerDataPlaneFrame.contents, r) ∧
        readFrame r = .error (if cut = 0 then .emptyInput
          else if cut < workerDataPlaneHeaderBytes then .truncatedHeader
          else .truncatedPayload)) ∧
      (∀ (r r' : ShortReader) (header : WorkerDataPlaneFrameHeader),
        readWorkerDataPlaneHeader r = .ok (header, r') →
          ∃ encoded, writeWorkerDataPlaneHeader ([] : List UInt8) header = .ok encoded ∧
            r.bytes = encoded ++ r'.bytes) := by
  refine ⟨encodeFrames frames, by simpa using writeFrames_eq [] frames, ?_, ?_, ?_, ?_⟩
  · intro rest
    obtain ⟨calls, hread⟩ := readFrames_encodeFrames frames rest
      (ShortReader.mk (encodeFrames frames ++ rest) schedule 0) rfl
    exact ⟨_, hread, rfl⟩
  · obtain ⟨calls, hread⟩ := readFrames_encodeFrames frames []
      (ShortReader.mk (encodeFrames frames) schedule 0) (by simp)
    refine ⟨_, hread, ?_⟩
    -- the next header ends before its first byte
    have hshort := ShortReader.readExact_short WorkerDataPlaneFrameError.io
      (fun offset => if offset = 0 then .emptyInput else .truncatedHeader)
      (ShortReader.mk [] schedule calls) [] workerDataPlaneHeaderBytes (by simp [workerDataPlaneHeaderBytes])
    simp only [readWorkerDataPlaneHeader, readHeaderExact, hshort, bind, Except.bind,
      List.length_nil, Nat.zero_add, ↓reduceIte]
  · intro n hn
    exact readFrames_strict_prefix frames n hn _ rfl
  · intro r r' header h
    refine ⟨encodeHeader header, ?_, encodeHeader_of_readWorkerDataPlaneHeader h⟩
    simp [writeWorkerDataPlaneHeader, Except.mapError]

end RustFerry.DataPlane
