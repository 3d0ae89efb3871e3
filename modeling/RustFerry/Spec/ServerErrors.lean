import RustFerry.Spec.SessionAgreement

/-!
# Errors of the worker at the client

When a worker fails, its last frame is an error with the identity of its job. What a client
makes of it depends on whether the two agree that there is a job: for the worker there is
one as soon as the guard of its job root exists, for the client only after it has read the
acceptance.
-/

namespace RustFerry.Snapshot

open Remote

section

variable {header : FrameHeader} {shared : Shared} {op : WorkerOp} {r : WorkerRes op}

/-! ## What a worker puts on its stream -/

/-- The output of the view did not move. -/
structure Quiet (v v' : WorkerView) : Prop where
  frames : v'.frames = v.frames
  accepted : v'.accepted = v.accepted
  attempted : v'.attempted = false → v.attempted = false
  closed : v'.closed = false → v.closed = false

/-- A frame was put on the stream, whole or not. -/
structure Appends (v v' : WorkerView) (op : WorkerOp) (s : Sent ServerMessage) : Prop where
  writable : v.closed = false
  sequence : s.header.sequence.toNat = v.frames
  attempted : v'.attempted = true
  frames : v'.closed = false → s.payload.isSome → v'.frames = v.frames + 1
  kind : ∀ message, s.payload = some message → s.header.kind = message.kind
  error : s.header.kind = .error → v'.closed = true
  errorPayload : ∀ error, s.payload = some (.error error) →
    ∃ sequence, op = .write ⟨sequence, .error error⟩
  accepted : (v'.accepted = v.accepted ∧ (v.accepted.isSome ∨ v'.closed = true)) ∨
    ∃ accepted, s.payload = some (.jobAccepted accepted) ∧ v'.accepted = some accepted ∧
      v.attempted = false

section

variable {rules : SessionRules} {v : WorkerView}

theorem quiet_next (hwrite : ∀ frame, op ≠ .write frame)
    (hstream : ∀ sequence size, op ≠ .streamArtifact sequence size) : Quiet v (v.next op r) := by
  unfold WorkerView.next
  split <;> first
    | exact ⟨rfl, rfl, id, id⟩
    | exact absurd rfl (hwrite _)
    | exact absurd rfl (hstream _ _)
    | exact ⟨rfl, rfl, id, fun h => nomatch h⟩

variable {frame : Frame ServerMessage}

/-- A failed write. -/
theorem quiet_write_error {error : DataPlane.WorkerDataPlaneFrameError} :
    Quiet v (v.next (.write frame) (.error error)) := by
  refine ⟨rfl, rfl, fun h => (nomatch h), ?_⟩
  intro h
  have h : (v.closed || frame.message.isError || error == .io) = false := h
  rw [Bool.or_eq_false_iff, Bool.or_eq_false_iff] at h
  exact h.1.1

variable {payload : Option ServerMessage}

theorem appends_write {result : Except DataPlane.WorkerDataPlaneFrameError Unit}
    (hallows : v.Allows rules (.write frame) result) (hheader : header.Announces frame)
    (hpayload : ∀ message, payload = some message → message = frame.message)
    (hresult : (result = .ok () ∧ payload = some frame.message) ∨ result = .error .io) :
    Appends v (v.next (.write frame) result) (.write frame) ⟨header, payload⟩ := by
  obtain ⟨hopen, hsequence, hmessage⟩ := hallows
  obtain ⟨hkind, hplace, -⟩ := hheader
  -- a torn frame or an error closes the stream
  have hio : result = .error .io → (v.next (.write frame) result).closed = true := by
    rintro rfl
    show (v.closed || frame.message.isError || true) = true
    rw [Bool.or_true]
  have herror : frame.message.kind = .error → (v.next (.write frame) result).closed = true := by
    intro h
    have hiserror : frame.message.isError = true := by
      cases hm : frame.message <;> rw [hm] at h <;> first | rfl | cases h
    cases result with
    | ok u =>
      show (v.closed || frame.message.isError) = true
      rw [hiserror, Bool.or_true]
    | error error =>
      show (v.closed || frame.message.isError || error == .io) = true
      rw [hiserror, Bool.or_true, Bool.true_or]
  constructor
  · exact hopen
  · show header.sequence.toNat = v.frames
    rw [hplace, hsequence]
  · obtain ⟨place, message⟩ := frame
    cases result with
    | ok u => cases message <;> rfl
    | error error => rfl
  · intro hclosed _
    rcases hresult with ⟨rfl, -⟩ | hfailed
    · obtain ⟨place, message⟩ := frame
      cases message <;> rfl
    · exact nomatch (hio hfailed).symm.trans hclosed
  · intro message h
    rw [hpayload message h]
    exact hkind
  · intro h
    exact herror (hkind.symm.trans h)
  · intro error h
    refine ⟨frame.sequence, ?_⟩
    rw [hpayload _ h]
  · obtain ⟨place, message⟩ := frame
    rcases hresult with ⟨rfl, rfl⟩ | rfl
    · cases message with
      | jobAccepted accepted => exact .inr ⟨accepted, rfl, rfl, hmessage.1⟩
      | event event => exact .inl ⟨rfl, .inl hmessage.1⟩
      | artifactDescriptor descriptor => exact .inl ⟨rfl, .inl hmessage⟩
      | artifact bytes => exact hmessage.elim
      | complete complete => exact .inl ⟨rfl, .inl hmessage.1⟩
      | error error => exact .inl ⟨rfl, .inr (herror rfl)⟩
    · exact .inl ⟨rfl, .inr (hio rfl)⟩

theorem appends_stream {sequence size : UInt64} {result : Streamed} (bytes : List UInt8)
    (hallows : v.Allows rules (.streamArtifact sequence size) result)
    (hpayload : ∀ message, payload = some message → message = .artifact bytes)
    (hresult : (∃ sent, result = .sent sent) ∨ ∃ error outputFailed,
      result = .failed error outputFailed ∧ (payload.isSome → outputFailed = true)) :
    Appends v (v.next (.streamArtifact sequence size) result) (.streamArtifact sequence size)
      ⟨⟨.artifact, sequence, size⟩, payload⟩ := by
  obtain ⟨hopen, hsequence, haccepted⟩ := hallows
  constructor
  · exact hopen
  · exact hsequence
  · cases result <;> rfl
  · intro hclosed hsome
    rcases hresult with ⟨sent, rfl⟩ | ⟨error, outputFailed, rfl, hfailed⟩
    · rfl
    · have hclosed : (v.closed || outputFailed) = false := hclosed
      rw [hfailed hsome, Bool.or_true] at hclosed
      cases hclosed
  · intro message h
    rw [hpayload message h]
    rfl
  · intro h
    cases h
  · intro error h
    exact nomatch hpayload _ h
  · left
    cases result <;> exact ⟨rfl, .inl haccepted⟩

/-- Every step of a worker leaves its stream alone or appends one frame. -/
theorem quiet_or_appends {shared' : Shared} (hallows : v.Allows rules op r)
    (h : shared.Worker op r shared') :
    (shared'.download.sent = shared.download.sent ∧ Quiet v (v.next op r)) ∨
      ∃ s, shared'.download.sent = shared.download.sent ++ [s] ∧
        Appends v (v.next op r) op s := by
  cases op with
  | write frame =>
    obtain ⟨download, ⟨header, delivery, hheader, hdelivery, rfl⟩, rfl⟩ := h
    cases r with
    | ok u =>
      -- a write that succeeds puts the whole frame on the stream
      obtain rfl : delivery = .whole := hdelivery
      exact .inr ⟨_, rfl, appends_write hallows hheader (fun _ h => (Option.some.inj h).symm)
        (.inl ⟨rfl, rfl⟩)⟩
    | error error =>
      cases delivery with
      | nothing => exact .inl ⟨rfl, quiet_write_error⟩
      | torn =>
        have hio : error = .io := by cases error <;> first | rfl | cases hdelivery
        exact .inr ⟨_, rfl, appends_write hallows hheader (fun _ h => nomatch h)
          (.inr (by rw [hio]))⟩
      | whole =>
        have hio : error = .io := by cases error <;> first | rfl | cases hdelivery
        exact .inr ⟨_, rfl, appends_write hallows hheader (fun _ h => (Option.some.inj h).symm)
          (.inr (by rw [hio]))⟩
  | streamArtifact sequence size =>
    cases r with
    | sent bytes =>
      obtain ⟨-, rfl⟩ := h
      exact .inr ⟨_, rfl, appends_stream bytes hallows (fun _ h => (Option.some.inj h).symm)
        (.inl ⟨bytes, rfl⟩)⟩
    | failed error outputFailed =>
      obtain ⟨bytes, delivery, hwhole, rfl⟩ := h
      cases delivery with
      | nothing =>
        refine .inl ⟨rfl, rfl, rfl, fun h => (nomatch h), ?_⟩
        intro h
        have h : (v.closed || outputFailed) = false := h
        exact (Bool.or_eq_false_iff.mp h).1
      | torn =>
        exact .inr ⟨_, rfl, appends_stream bytes hallows (fun _ h => nomatch h)
          (.inr ⟨error, outputFailed, rfl, fun h => nomatch h⟩)⟩
      | whole =>
        exact .inr ⟨_, rfl, appends_stream bytes hallows (fun _ h => (Option.some.inj h).symm)
          (.inr ⟨error, outputFailed, rfl, fun _ => (hwhole rfl).1⟩)⟩
  -- everything else leaves the stream alone
  | readHeader =>
    obtain ⟨upload, hread, rfl⟩ := h
    exact .inl ⟨rfl, quiet_next (fun _ h => nomatch h) fun _ _ h => nomatch h⟩
  | readPayload =>
    obtain ⟨upload, hread, rfl⟩ := h
    exact .inl ⟨rfl, quiet_next (fun _ h => nomatch h) fun _ _ h => nomatch h⟩
  | tryReceiveControl =>
    have hsame : shared'.download = shared.download := by
      cases r with
      | none => rw [h.2]
      | some message =>
        obtain ⟨control, -, rfl⟩ := h
        rfl
    exact .inl ⟨by rw [hsame], quiet_next (fun _ h => nomatch h) fun _ _ h => nomatch h⟩
  | receiveControl =>
    have hsame : shared'.download = shared.download := by
      cases r with
      | error error => rw [h.2]
      | ok message =>
        obtain ⟨control, -, rfl⟩ := h
        rfl
    exact .inl ⟨by rw [hsame], quiet_next (fun _ h => nomatch h) fun _ _ h => nomatch h⟩
  | isCancelled =>
    obtain ⟨-, rfl⟩ := h
    exact .inl ⟨rfl, quiet_next (fun _ h => nomatch h) fun _ _ h => nomatch h⟩
  | step _ | newUuid | clock | createDirectory _ | directoryIdentity _ | removeTree _
  | isUnlinked _ | syncWorkerRoot | spawnMonitor _ | flush | compile _ _ | allowReceipt =>
    obtain rfl : shared' = _ := h
    exact .inl ⟨rfl, quiet_next (fun _ h => nomatch h) fun _ _ h => nomatch h⟩

/-- What the worker has put on its stream. Frames carry their position as long as no frame
    before was cut off, the first one is the acceptance or an error, and an error is the
    last. -/
structure Logged (rules : SessionRules) (past : History WorkerOp WorkerRes) (v : WorkerView)
    (sent : List (Sent ServerMessage)) : Prop where
  view : v = (workerContract rules).view .init past
  fresh : v.attempted = false → sent = []
  sequence : ∀ i s, sent[i]? = some s → (∀ s' ∈ sent.take i, s'.payload.isSome) →
    s.header.sequence.toNat = i
  count : v.closed = false → (∀ s ∈ sent, s.payload.isSome) → sent.length = v.frames
  accepted : ∀ accepted, v.accepted = some accepted →
    ∃ header, sent[0]? = some ⟨header, some (.jobAccepted accepted)⟩
  notAccepted : v.accepted = none → v.closed = false → sent = []
  kind : ∀ s ∈ sent, ∀ message, s.payload = some message → s.header.kind = message.kind
  errorLast : ∀ i s, sent[i]? = some s → s.header.kind = .error →
    i + 1 = sent.length ∧ v.closed = true
  error : ∀ s ∈ sent, ∀ error, s.payload = some (.error error) →
    ∃ late early sequence written,
      past = late ++ ⟨.write ⟨sequence, .error error⟩, written⟩ :: early ∧
      ((((workerContract rules).view .init early).accepted = none ∧ sent.length = 1) ∨
        ∃ accepted header, ((workerContract rules).view .init early).accepted = some accepted ∧
          sent[0]? = some ⟨header, some (.jobAccepted accepted)⟩)

theorem logged_nil : Logged rules [] .init [] where
  view := rfl
  fresh _ := rfl
  sequence _ _ h := nomatch h
  count _ _ := rfl
  accepted _ h := nomatch h
  notAccepted _ _ := rfl
  kind _ h := nomatch h
  errorLast _ _ h := nomatch h
  error _ h := nomatch h

variable {past : History WorkerOp WorkerRes} {sent : List (Sent ServerMessage)}

/-- A quiet operation keeps the log. -/
theorem Logged.quiet (hl : Logged rules past v sent) (hq : Quiet v (v.next op r)) :
    Logged rules (⟨op, r⟩ :: past) (v.next op r) sent := by
  constructor
  · rw [hl.view]
    rfl
  · intro h
    exact hl.fresh (hq.attempted h)
  · exact hl.sequence
  · intro hclosed hwhole
    rw [hq.frames]
    exact hl.count (hq.closed hclosed) hwhole
  · intro accepted h
    exact hl.accepted accepted (hq.accepted ▸ h)
  · intro h hclosed
    exact hl.notAccepted (hq.accepted ▸ h) (hq.closed hclosed)
  · exact hl.kind
  · intro i s hs hkind
    obtain ⟨hlast, hclosed⟩ := hl.errorLast i s hs hkind
    refine ⟨hlast, ?_⟩
    by_contra hopen
    rw [hq.closed (Bool.not_eq_true _ ▸ hopen)] at hclosed
    cases hclosed
  · intro s hs error hpayload
    obtain ⟨late, early, sequence, written, rfl, hcases⟩ := hl.error s hs error hpayload
    exact ⟨⟨op, r⟩ :: late, early, sequence, written, rfl, hcases⟩

/-- No error is on the stream of a worker that may still write. -/
theorem Logged.noError (hl : Logged rules past v sent) (hopen : v.closed = false) :
    ∀ s ∈ sent, s.header.kind ≠ .error := by
  intro s hs hkind
  obtain ⟨i, hi⟩ := List.mem_iff_getElem?.mp hs
  rw [(hl.errorLast i s hi hkind).2] at hopen
  cases hopen

theorem Logged.append (hl : Logged rules past v sent) {s : Sent ServerMessage}
    (ha : Appends v (v.next op r) op s) :
    Logged rules (⟨op, r⟩ :: past) (v.next op r) (sent ++ [s]) := by
  have hzero : ∀ s', sent[0]? = some s' → (sent ++ [s])[0]? = some s' := by
    intro s' h
    rw [List.getElem?_append_left (List.getElem?_eq_some_iff.mp h).1]
    exact h
  -- a position of the longer stream is one of the shorter, or the last
  have hplace : ∀ i s', (sent ++ [s])[i]? = some s' →
      (i < sent.length ∧ sent[i]? = some s') ∨ (i = sent.length ∧ s' = s) := by
    intro i s' h
    by_cases hi : i < sent.length
    · rw [List.getElem?_append_left hi] at h
      exact .inl ⟨hi, h⟩
    · rw [List.getElem?_append_right (by omega)] at h
      obtain ⟨hlt, heq⟩ := List.getElem?_eq_some_iff.mp h
      have hlt : i - sent.length < 1 := hlt
      refine .inr ⟨by omega, ?_⟩
      rw [← heq, List.getElem_singleton]
  constructor
  · rw [hl.view]
    rfl
  · intro h
    exact nomatch ha.attempted.symm.trans h
  · intro i s' hs' hwhole
    rcases hplace i s' hs' with ⟨hi, hs'⟩ | ⟨rfl, rfl⟩
    · refine hl.sequence i s' hs' ?_
      rw [List.take_append_of_le_length (by omega)] at hwhole
      exact hwhole
    · rw [List.take_left'] at hwhole
      · rw [ha.sequence, hl.count ha.writable hwhole]
      · rfl
  · intro hclosed hwhole
    have hbefore : ∀ s' ∈ sent, s'.payload.isSome := by
      intro s' hs'
      exact hwhole s' (List.mem_append_left _ hs')
    have hlast : s.payload.isSome := hwhole s (List.mem_append_right _ List.mem_cons_self)
    rw [List.length_append, hl.count ha.writable hbefore, ha.frames hclosed hlast]
    rfl
  · intro accepted h
    rcases ha.accepted with ⟨hsame, -⟩ | ⟨accepted', hpayload, hsome, hfresh⟩
    · obtain ⟨header, hheader⟩ := hl.accepted accepted (hsame ▸ h)
      exact ⟨header, hzero _ hheader⟩
    · obtain rfl := Option.some.inj (hsome.symm.trans h)
      rw [hl.fresh hfresh]
      refine ⟨s.header, ?_⟩
      rw [← hpayload]
      rfl
  · intro h hclosed
    exfalso
    rcases ha.accepted with ⟨hsame, hsome | hshut⟩ | ⟨accepted', -, hsome, -⟩
    · rw [← hsame, h] at hsome
      cases hsome
    · exact nomatch hshut.symm.trans hclosed
    · exact nomatch h.symm.trans hsome
  · intro s' hs' message hpayload
    rcases List.mem_append.mp hs' with hs' | hs'
    · exact hl.kind s' hs' message hpayload
    · obtain rfl := List.mem_singleton.mp hs'
      exact ha.kind message hpayload
  · intro i s' hs' hkind
    rcases hplace i s' hs' with ⟨hi, hs'⟩ | ⟨rfl, rfl⟩
    · exact absurd hkind (hl.noError ha.writable s' (List.mem_of_getElem? hs'))
    · exact ⟨by rw [List.length_append]; rfl, ha.error hkind⟩
  · intro s' hs' error hpayload
    rcases List.mem_append.mp hs' with hs' | hs'
    · exact absurd (hl.kind s' hs' _ hpayload) (hl.noError ha.writable s' hs')
    · obtain rfl := List.mem_singleton.mp hs'
      obtain ⟨sequence, rfl⟩ := ha.errorPayload error hpayload
      refine ⟨[], past, sequence, r, rfl, ?_⟩
      rw [← hl.view]
      cases haccepted : v.accepted with
      | none =>
        left
        rw [hl.notAccepted haccepted ha.writable]
        exact ⟨rfl, rfl⟩
      | some accepted =>
        obtain ⟨header, hheader⟩ := hl.accepted accepted haccepted
        exact .inr ⟨accepted, header, rfl, hzero _ hheader⟩

end

/-- A step of the worker only adds to its stream. -/
theorem Shared.Worker.download_grows {shared' : Shared} (h : shared.Worker op r shared') :
    shared.download.sent <+: shared'.download.sent ∧
      shared'.download.taken = shared.download.taken ∧
      shared'.download.opened = shared.download.opened ∧
      shared'.download.broken = shared.download.broken := by
  rcases h.effect.1 with hsame | ⟨header, message, delivery, happend, -⟩
  · rw [hsame]
    exact ⟨List.prefix_refl _, rfl, rfl, rfl⟩
  · rw [happend]
    cases delivery with
    | nothing => exact ⟨List.prefix_refl _, rfl, rfl, rfl⟩
    | torn | whole => exact ⟨List.prefix_append _ _, rfl, rfl, rfl⟩

/-! ## What a client takes from its stream -/

/-- The client has read what stands on the stream, in order. When the bytes of an artifact
    were cut off, what it has read for them is not known. -/
structure Aligned (past : History ClientOp ClientRes) (v : ClientView)
    (stream : Stream ServerMessage) : Prop where
  headers : v.headers = stream.taken + if stream.opened then 1 else 0
  bound : v.headers ≤ stream.sent.length
  last : 0 < v.headers → ∃ s, stream.sent[v.headers - 1]? = some s ∧ v.header = some s.header
  seen : ∀ header, ⟨.readHeader, .ok header⟩ ∈ past →
    ∃ i s, i < v.headers ∧ stream.sent[i]? = some s ∧ s.header = header
  reads : stream.broken = false →
    v.reads.reverse.map some = (stream.sent.take stream.taken).map Sent.payload
  torn : stream.broken = true → stream.opened = true ∧
    ∃ s, stream.sent[stream.taken]? = some s ∧ s.header.kind = .artifact

section

variable {past : History ClientOp ClientRes} {v : ClientView} {stream stream' : Stream ServerMessage}

theorem aligned_new : Aligned [] .init .new where
  headers := rfl
  bound := Nat.le_refl 0
  last h := nomatch h
  seen _ h := nomatch h
  reads _ := rfl
  torn h := nomatch h

/-- More frames do not matter. -/
theorem Aligned.grow (ha : Aligned past v stream) (hsent : stream.sent <+: stream'.sent)
    (htaken : stream'.taken = stream.taken) (hopened : stream'.opened = stream.opened)
    (hbroken : stream'.broken = stream.broken) : Aligned past v stream' := by
  have hstill : ∀ (i : Nat) (s : Sent ServerMessage), stream.sent[i]? = some s →
      stream'.sent[i]? = some s := by
    intro i s h
    obtain ⟨more, hmore⟩ := hsent
    rw [← hmore, List.getElem?_append_left (List.getElem?_eq_some_iff.mp h).1]
    exact h
  have htake : stream'.sent.take stream'.taken = stream.sent.take stream.taken := by
    obtain ⟨more, hmore⟩ := hsent
    have hbound := ha.bound
    have hheaders := ha.headers
    rw [htaken, ← hmore, List.take_append_of_le_length (by omega)]
  constructor
  · rw [htaken, hopened]
    exact ha.headers
  · exact ha.bound.trans hsent.length_le
  · intro h
    obtain ⟨s, hs, hheader⟩ := ha.last h
    exact ⟨s, hstill _ s hs, hheader⟩
  · intro header h
    obtain ⟨i, s, hi, hs, hheader⟩ := ha.seen header h
    exact ⟨i, s, hi, hstill i s hs, hheader⟩
  · intro h
    rw [htake]
    exact ha.reads (hbroken ▸ h)
  · intro h
    obtain ⟨hopen, s, hs, hkind⟩ := ha.torn (hbroken ▸ h)
    exact ⟨hopened.trans hopen, s, by rw [htaken]; exact hstill _ s hs, hkind⟩

theorem Aligned.readHeader (ha : Aligned past v stream) {header : FrameHeader}
    (h : stream.ReadHeader (.ok header : Except DataPlane.WorkerDataPlaneFrameError FrameHeader)
      stream') :
    Aligned (⟨.readHeader, .ok header⟩ :: past) (v.next .readHeader (.ok header)) stream' := by
  obtain ⟨hbroken, hopened, ⟨s, hnext, rfl⟩, rfl⟩ := h
  have hheaders : v.headers = stream.taken := by
    have hheaders := ha.headers
    rw [hopened] at hheaders
    exact hheaders
  have hs : stream.sent[v.headers]? = some s := hheaders ▸ hnext
  have hlt : v.headers < stream.sent.length := (List.getElem?_eq_some_iff.mp hs).1
  constructor
  · show v.headers + 1 = stream.taken + 1
    rw [hheaders]
  · exact hlt
  · intro _
    exact ⟨s, hs, rfl⟩
  · intro header hmem
    rcases List.mem_cons.mp hmem with hevent | hmem
    · cases hevent
      exact ⟨v.headers, s, Nat.lt_succ_self _, hs, rfl⟩
    · obtain ⟨i, s', hi, hs', hheader⟩ := ha.seen header hmem
      exact ⟨i, s', Nat.lt_succ_of_lt hi, hs', hheader⟩
  · intro h
    exact ha.reads h
  · intro h
    exact nomatch hbroken.symm.trans h

theorem Aligned.readPayload (ha : Aligned past v stream) {message : ServerMessage}
    (h : stream.ReadPayload (.ok message : Except DataPlane.WorkerDataPlaneFrameError ServerMessage)
      stream') :
    Aligned (⟨.readPayload, .ok message⟩ :: past) (v.next .readPayload (.ok message)) stream' := by
  have hseen : ∀ header, ⟨.readHeader, .ok header⟩ ∈
      (⟨.readPayload, .ok message⟩ :: past : History ClientOp ClientRes) →
      ∃ i s, i < v.headers ∧ stream.sent[i]? = some s ∧ s.header = header := by
    intro header hmem
    rcases List.mem_cons.mp hmem with hevent | hmem
    · cases hevent
    · exact ha.seen header hmem
  obtain ⟨hbroken, hopened, s, hnext, ⟨hpayload, rfl⟩ | ⟨-, hkind, ⟨bytes, hbytes, -⟩, rfl⟩⟩ := h
  · -- a whole frame
    have hheaders : v.headers = stream.taken + 1 := by
      have hheaders := ha.headers
      rw [hopened] at hheaders
      exact hheaders
    refine ⟨hheaders, ha.bound, ha.last, hseen, ?_, ?_⟩
    · intro _
      show (message :: v.reads).reverse.map some =
        (stream.sent.take (stream.taken + 1)).map Sent.payload
      rw [List.reverse_cons, List.map_append, ha.reads hbroken, List.take_add_one, List.map_append,
        show stream.sent[stream.taken]? = some s from hnext]
      simp [hpayload]
    · intro h
      exact nomatch hbroken.symm.trans h
  · -- the bytes were cut off
    refine ⟨ha.headers, ha.bound, ha.last, hseen, fun h => (nomatch h), ?_⟩
    intro _
    refine ⟨hopened, s, hnext, ?_⟩
    rw [← hkind]
    cases message with
    | artifact bytes => rfl
    | jobAccepted _ | event _ | artifactDescriptor _ | complete _ | error _ => cases hbytes

/-- An operation that does not read. -/
theorem Aligned.other (ha : Aligned past v stream) {op : ClientOp} {r : ClientRes op}
    (hheader : op ≠ .readHeader) (hpayload : op ≠ .readPayload) :
    Aligned (⟨op, r⟩ :: past) (v.next op r) stream := by
  have hsame : (v.next op r).header = v.header ∧ (v.next op r).headers = v.headers ∧
      (v.next op r).reads = v.reads := by
    cases op with
    | readHeader => exact absurd rfl hheader
    | readPayload => exact absurd rfl hpayload
    | readPublication path => cases r <;> exact ⟨rfl, rfl, rfl⟩
    | write frame =>
      cases r with
      | error error => exact ⟨rfl, rfl, rfl⟩
      | ok u =>
        obtain ⟨sequence, written⟩ := frame
        cases written <;> exact ⟨rfl, rfl, rfl⟩
    | step _ | readSource _ | streamSource _ _ _ | sourceUnchanged _ | flush | deliver _
    | verifyArtifact _ | readSpool | cleanupSpool => exact ⟨rfl, rfl, rfl⟩
  obtain ⟨hlast, hheaders, hreads⟩ := hsame
  constructor
  · rw [hheaders]
    exact ha.headers
  · rw [hheaders]
    exact ha.bound
  · rw [hheaders, hlast]
    exact ha.last
  · intro header hmem
    rw [hheaders]
    rcases List.mem_cons.mp hmem with hevent | hmem
    · exact absurd (congrArg Event.op hevent).symm hheader
    · exact ha.seen header hmem
  · rw [hreads]
    exact ha.reads
  · exact ha.torn

end

/-! ## Runs -/

/-- The client reads in order what the worker has logged. -/
structure Ordered (rules : SessionRules) (request : SnapshotSessionRequest) (system : System) :
    Prop where
  logged : Logged rules system.worker.past (system.workerView rules) system.shared.download.sent
  aligned : (system.clientView request.start).readFailed = false →
    Aligned system.client.past (system.clientView request.start) system.shared.download

section

variable {rules : SessionRules} {request : SnapshotSessionRequest} {system : System}

theorem Ordered.clientStep (ho : Ordered rules request system) {op : ClientOp} {r : ClientRes op}
    {client : ClientThread} (hthread : system.client.Step op r client)
    (hshared : system.shared.Client op r shared) :
    Ordered rules request { system with client, shared } := by
  have hpast : client.past = ⟨op, r⟩ :: system.client.past := hthread.past_eq
  have hview : System.clientView request.start { system with client, shared } =
      (system.clientView request.start).next op r := hthread.view_eq
  -- what remains to show, once the stream is known
  have hsuffices : shared.download.sent = system.shared.download.sent →
      (((system.clientView request.start).next op r).readFailed = false →
        Aligned (⟨op, r⟩ :: system.client.past) ((system.clientView request.start).next op r)
          shared.download) →
      Ordered rules request { system with client, shared } := by
    intro hsent haligned
    refine ⟨?_, ?_⟩
    · show Logged rules system.worker.past (system.workerView rules) shared.download.sent
      rw [hsent]
      exact ho.logged
    · intro hread
      show Aligned client.past _ shared.download
      rw [hview] at hread ⊢
      rw [hpast]
      exact haligned hread
  cases op with
  | readHeader =>
    obtain ⟨download, hread, rfl⟩ := hshared
    refine hsuffices hread.reads.sent ?_
    intro hfailed
    cases r with
    | error error => cases hfailed
    | ok header => exact (ho.aligned hfailed).readHeader hread
  | readPayload =>
    obtain ⟨download, hread, rfl⟩ := hshared
    refine hsuffices hread.reads.sent ?_
    intro hfailed
    cases r with
    | error error => cases hfailed
    | ok message => exact (ho.aligned hfailed).readPayload hread
  | write frame =>
    obtain ⟨upload, hwrite, rfl⟩ := hshared
    refine hsuffices rfl ?_
    intro hfailed
    refine (ho.aligned ?_).other (fun h => nomatch h) fun h => nomatch h
    cases r with
    | error error => exact hfailed
    | ok u =>
      obtain ⟨sequence, written⟩ := frame
      cases written <;> exact hfailed
  | streamSource file sequence size =>
    have hsame : shared.download = system.shared.download := by
      cases r with
      | sent bytes => rw [hshared.2]
      | failed error =>
        obtain ⟨bytes, delivery, -, rfl⟩ := hshared
        rfl
    refine hsuffices (by rw [hsame]) ?_
    intro hfailed
    rw [hsame]
    exact (ho.aligned hfailed).other (fun h => nomatch h) fun h => nomatch h
  | readPublication path =>
    obtain rfl : shared = _ := hshared
    refine hsuffices rfl ?_
    intro hfailed
    refine (ho.aligned ?_).other (fun h => nomatch h) fun h => nomatch h
    cases r <;> exact hfailed
  | step _ | readSource _ | sourceUnchanged _ | flush | deliver _ | verifyArtifact _ | readSpool
  | cleanupSpool =>
    obtain rfl : shared = _ := hshared
    refine hsuffices rfl ?_
    intro hfailed
    exact (ho.aligned hfailed).other (fun h => nomatch h) fun h => nomatch h

theorem Ordered.workerStep (hg : Genuine rules request system) (ho : Ordered rules request system)
    {worker : WorkerThread} (hthread : system.worker.Step op r worker)
    (hshared : system.shared.Worker op r shared) :
    Ordered rules request
      { system with worker, shared, monitor := spawned system.monitor op r } := by
  obtain ⟨hallows, -⟩ := hg.worker.step hthread trivial
  have hpast : worker.past = ⟨op, r⟩ :: system.worker.past := hthread.past_eq
  have hview : System.workerView rules
      { system with worker, shared, monitor := spawned system.monitor op r } =
        (system.workerView rules).next op r := hthread.view_eq
  obtain ⟨hsent, htaken, hopened, hbroken⟩ := hshared.download_grows
  refine ⟨?_, ?_⟩
  · show Logged rules worker.past _ shared.download.sent
    rw [hview, hpast]
    rcases quiet_or_appends hallows hshared with ⟨hsame, hquiet⟩ | ⟨s, hsame, happends⟩
    · rw [hsame]
      exact ho.logged.quiet hquiet
    · rw [hsame]
      exact ho.logged.append happends
  · intro hfailed
    exact (ho.aligned hfailed).grow hsent htaken hopened hbroken

theorem Ordered.step {system' : System} (hg : Genuine rules request system)
    (ho : Ordered rules request system) (h : system.Step system') :
    Ordered rules request system' := by
  cases h with
  | client hthread hshared => exact ho.clientStep hthread hshared
  | worker hthread hshared => exact ho.workerStep hg hthread hshared
  | @monitor op r thread monitor shared hmonitor hthread hshared =>
    obtain ⟨-, hdownload, -⟩ := hshared.effect
    refine ⟨?_, ?_⟩
    · show Logged rules system.worker.past (system.workerView rules) shared.download.sent
      rw [hdownload]
      exact ho.logged
    · intro hfailed
      show Aligned system.client.past (system.clientView request.start) shared.download
      rw [hdownload]
      exact ho.aligned hfailed
  | bestEffortCancel hreturned hcancel honce hwrite => exact ⟨ho.logged, ho.aligned⟩

theorem ordered_of_reachable {workerRoot : String}
    (h : System.Reachable rules workerRoot request system) :
    Genuine rules request system ∧ Ordered rules request system := by
  induction h with
  | refl => exact ⟨genuine_new, logged_nil, fun _ => aligned_new⟩
  | tail _ hstep ih => exact ⟨ih.1.step hstep, ih.2.step ih.1 hstep⟩

end

/-! ## Identities -/

/-- The guard of the job root exists: the job has an identifier, and its directory was
    created with its marker. -/
def JobRootCreated (past : History WorkerOp WorkerRes) : Prop :=
  (∃ uuid, ⟨.newUuid, uuid⟩ ∈ past) ∧ ⟨.step .syncJobRoot, true⟩ ∈ past

/-- The acceptance was written. -/
def JobAcceptedWritten (past : History WorkerOp WorkerRes) : Prop :=
  ∃ sequence accepted, ⟨.write ⟨sequence, .jobAccepted accepted⟩, .ok ()⟩ ∈ past

/-- No read of the client failed. -/
def NoReadFailed (past : History ClientOp ClientRes) : Prop :=
  (∀ error, ⟨.readHeader, .error error⟩ ∉ past) ∧ ∀ error, ⟨.readPayload, .error error⟩ ∉ past

/-- The latest answer to the removal of the artifact spool. -/
def spoolRemoval : History ClientOp ClientRes → Option Bool
  | [] => none
  | ⟨.cleanupSpool, removed⟩ :: _ => some removed
  | _ :: past => spoolRemoval past

variable {accepted : SnapshotJobAccepted}

section

variable {rules : SessionRules} {start : SnapshotBuildStart} {v : WorkerView}

theorem next_job :
    (v.hasJob = true → (v.next op r).hasJob = true) ∧
      (v.jobId.isSome = true → (v.next op r).jobId.isSome = true) ∧
      (v.accepted.isSome = true → (v.next op r).accepted.isSome = true) := by
  unfold WorkerView.next
  split
  case h_8 frame result =>
    obtain ⟨sequence, message⟩ := frame
    cases result with
    | ok u =>
      cases message <;> first | exact ⟨id, id, id⟩ | exact ⟨id, id, fun _ => rfl⟩
    | error error => exact ⟨id, id, id⟩
  all_goals first
    | exact ⟨id, id, id⟩
    | exact ⟨fun _ => rfl, id, id⟩
    | exact ⟨id, fun _ => rfl, id⟩

theorem hasJob_next (h : (v.next op r).hasJob = true) :
    v.hasJob = true ∨ (⟨op, r⟩ : Event WorkerOp WorkerRes) = ⟨.step .syncJobRoot, true⟩ := by
  unfold WorkerView.next at h
  split at h
  case h_3 => exact .inr rfl
  case h_8 frame result =>
    obtain ⟨sequence, message⟩ := frame
    cases result <;> cases message <;> exact .inl h
  all_goals exact .inl h

theorem accepted_next (h : (v.next op r).accepted = some accepted) :
    v.accepted = some accepted ∨ ∃ sequence, (⟨op, r⟩ : Event WorkerOp WorkerRes) =
      ⟨.write ⟨sequence, .jobAccepted accepted⟩, .ok ()⟩ := by
  unfold WorkerView.next at h
  split at h
  case h_8 frame result =>
    obtain ⟨sequence, message⟩ := frame
    cases result with
    | error error => exact .inl h
    | ok u =>
      cases message with
      | jobAccepted written =>
        cases h
        exact .inr ⟨sequence, rfl⟩
      | event _ | artifactDescriptor _ | artifact _ | complete _ | error _ => exact .inl h
  all_goals exact .inl h

variable {past : History WorkerOp WorkerRes}

/-- The view has a job exactly when the guard of the job root exists. -/
theorem job_isSome_iff :
    ((workerContract rules).view .init past).job.isSome = true ↔ JobRootCreated past := by
  unfold WorkerView.job
  constructor
  · intro h
    split at h
    · rename_i hjob
      obtain ⟨jobId, hid⟩ := Option.isSome_iff_exists.mp h
      have huuid : ∃ e ∈ past, ∃ uuid, e = ⟨.newUuid, uuid⟩ ∧ jobId = "ssh-" ++ uuid :=
        Contract.exists_mem_of_view (P := fun v : WorkerView => v.jobId = some jobId)
          (by intro h; exact nomatch h) (fun _ _ _ => WorkerView.jobId_next) hid
      have hsync : ∃ e ∈ past, e = ⟨.step .syncJobRoot, true⟩ :=
        Contract.exists_mem_of_view (P := fun v : WorkerView => v.hasJob = true)
          (by intro h; exact nomatch h) (fun _ _ _ => hasJob_next) hjob
      obtain ⟨e, he, uuid, rfl, -⟩ := huuid
      obtain ⟨e', he', rfl⟩ := hsync
      exact ⟨⟨uuid, he⟩, he'⟩
    · cases h
  · rintro ⟨⟨uuid, huuid⟩, hsync⟩
    have hjob : ((workerContract rules).view .init past).hasJob = true :=
      Contract.view_of_mem (P := fun v : WorkerView => v.hasJob = true) (fun _ => rfl)
        (fun _ _ _ => next_job.1) hsync
    have hid : ((workerContract rules).view .init past).jobId.isSome = true :=
      Contract.view_of_mem (P := fun v : WorkerView => v.jobId.isSome = true) (fun _ => rfl)
        (fun _ _ _ => next_job.2.1) huuid
    rw [if_pos hjob]
    exact hid

/-- Whether a job was accepted. -/
theorem accepted_isSome_iff :
    ((workerContract rules).view .init past).accepted.isSome = true ↔ JobAcceptedWritten past := by
  constructor
  · intro h
    obtain ⟨accepted, haccepted⟩ := Option.isSome_iff_exists.mp h
    have hwrite : ∃ e ∈ past, ∃ sequence,
        e = ⟨.write ⟨sequence, .jobAccepted accepted⟩, .ok ()⟩ :=
      Contract.exists_mem_of_view (P := fun v : WorkerView => v.accepted = some accepted)
        (by intro h; exact nomatch h) (fun _ _ _ => accepted_next) haccepted
    obtain ⟨e, he, sequence, rfl⟩ := hwrite
    exact ⟨sequence, accepted, he⟩
  · rintro ⟨sequence, accepted, hmem⟩
    exact Contract.view_of_mem (P := fun v : WorkerView => v.accepted.isSome = true)
      (fun _ => rfl) (fun _ _ _ => next_job.2.2) hmem

theorem readFailed_next {v : ClientView} {op : ClientOp} {r : ClientRes op}
    (h : (v.next op r).readFailed = true) : v.readFailed = true ∨
      (∃ error, (⟨op, r⟩ : Event ClientOp ClientRes) = ⟨.readHeader, .error error⟩) ∨
      ∃ error, (⟨op, r⟩ : Event ClientOp ClientRes) = ⟨.readPayload, .error error⟩ := by
  unfold ClientView.next at h
  split at h
  case h_2 error => exact .inr (.inl ⟨error, rfl⟩)
  case h_4 error => exact .inr (.inr ⟨error, rfl⟩)
  case h_7 => split at h <;> exact .inl h
  all_goals exact .inl h

variable {past : History ClientOp ClientRes}

/-- Without failed reads the view has none. -/
theorem NoReadFailed.view (h : NoReadFailed past) :
    ((clientContract start).view .init past).readFailed = false := by
  by_contra hfailed
  have hevent : ∃ e ∈ past, (∃ error, e = ⟨.readHeader, .error error⟩) ∨
      ∃ error, e = ⟨.readPayload, .error error⟩ :=
    Contract.exists_mem_of_view (P := fun v : ClientView => v.readFailed = true)
      (by intro h; exact nomatch h) (fun _ _ _ => readFailed_next) (Bool.not_eq_false _ ▸ hfailed)
  obtain ⟨e, hmem, ⟨error, rfl⟩ | ⟨error, rfl⟩⟩ := hevent
  · exact h.1 error hmem
  · exact h.2 error hmem

theorem spoolLeft_eq :
    ((clientContract start).view .init past).spoolLeft = true ↔ spoolRemoval past = some false := by
  induction past with
  | nil =>
    constructor
    · intro h
      cases h
    · intro h
      cases h
  | cons e past ih =>
    obtain ⟨op, r⟩ := e
    cases op with
    | cleanupSpool =>
      show (!r) = true ↔ some r = some false
      cases r <;> simp
    | readHeader => cases r <;> exact ih
    | readPayload => cases r <;> exact ih
    | readPublication path => cases r <;> exact ih
    | write frame =>
      cases r with
      | error error => exact ih
      | ok u =>
        obtain ⟨sequence, written⟩ := frame
        cases written <;> exact ih
    | step _ | readSource _ | streamSource _ _ _ | sourceUnchanged _ | flush | deliver _
    | verifyArtifact _ | readSpool => exact ih

end

/-! ## Errors -/

section

variable {rules : SessionRules} {request : SnapshotSessionRequest} {system : System}

/-- The header of an error was the last one that was read, and it was in its place. -/
theorem Ordered.errorHeader (ho : Ordered rules request system)
    (hread : (system.clientView request.start).readFailed = false)
    (hmem : ⟨.readHeader, .ok header⟩ ∈ system.client.past) (hkind : header.kind = .error) :
    ∃ i s, system.shared.download.sent[i]? = some s ∧ s.header = header ∧
      (system.clientView request.start).headers = i + 1 ∧
      (system.clientView request.start).header = some header ∧
      header.sequence.toNat = i ∧ system.shared.download.broken = false := by
  have ha := ho.aligned hread
  obtain ⟨i, s, hi, hs, rfl⟩ := ha.seen header hmem
  obtain ⟨hlast, -⟩ := ho.logged.errorLast i s hs hkind
  have hheaders : (system.clientView request.start).headers = i + 1 := by
    have := ha.bound
    omega
  obtain ⟨s', hs', hheader⟩ := ha.last (by omega)
  rw [hheaders, Nat.add_sub_cancel, hs] at hs'
  cases hs'
  have htaken := ha.headers
  have hbroken : system.shared.download.broken = false := by
    by_contra hbroken
    obtain ⟨hopened, s', hs', hkind'⟩ := ha.torn (Bool.not_eq_false _ ▸ hbroken)
    -- the frame that was cut off would be this one
    rw [hopened, if_pos rfl, hheaders] at htaken
    rw [show system.shared.download.taken = i by omega, hs] at hs'
    cases hs'
    exact nomatch hkind.symm.trans hkind'
  refine ⟨i, s, hs, rfl, hheaders, hheader, ?_, hbroken⟩
  refine ho.logged.sequence i s hs ?_
  intro s' hs'
  have hle : i ≤ system.shared.download.taken := by
    split at htaken <;> omega
  have hmem : s'.payload ∈
      (system.shared.download.sent.take system.shared.download.taken).map Sent.payload :=
    List.mem_map_of_mem (List.take_subset_take_left _ hle hs')
  rw [← ha.reads hbroken] at hmem
  obtain ⟨message, -, hmessage⟩ := List.mem_map.mp hmem
  rw [← hmessage]
  rfl

/-- When the payload of an error was read, it is the worker's error, and what was read before
    it is what stands before it on the stream. -/
theorem Ordered.errorPayload (ho : Ordered rules request system)
    (hread : (system.clientView request.start).readFailed = false)
    (hbroken : system.shared.download.broken = false) {i : Nat} {s : Sent ServerMessage}
    (hs : system.shared.download.sent[i]? = some s) (hkind : s.header.kind = .error)
    {message : ServerMessage} {rest : List ServerMessage}
    (hreads : (system.clientView request.start).reads = message :: rest)
    (hlength : rest.length = i) :
    (∃ error, message = .error error ∧ s.payload = some (.error error)) ∧
      rest.reverse.map some = (system.shared.download.sent.take i).map Sent.payload := by
  have hsame := (ho.aligned hread).reads hbroken
  rw [hreads, List.reverse_cons, List.map_append] at hsame
  have hi : i < system.shared.download.sent.length := (List.getElem?_eq_some_iff.mp hs).1
  have htaken : system.shared.download.taken = i + 1 := by
    have hlengths := congrArg List.length hsame
    simp only [List.length_append, List.length_map, List.length_reverse, List.length_take,
      List.length_singleton, hlength] at hlengths
    have hheaders := (ho.aligned hread).headers
    have hbound := (ho.aligned hread).bound
    omega
  rw [htaken, List.take_add_one, hs, List.map_append] at hsame
  obtain ⟨hrest, hpayload⟩ := List.append_inj hsame (by simp [hlength]; omega)
  have hpayload : s.payload = some message := by
    simpa using hpayload.symm
  refine ⟨?_, hrest⟩
  have hmessage := ho.logged.kind s (List.mem_of_getElem? hs) message hpayload
  cases message with
  | error error => exact ⟨error, rfl, hpayload⟩
  | jobAccepted _ | event _ | artifactDescriptor _ | artifact _ | complete _ =>
    exact nomatch hkind.symm.trans hmessage

theorem knownJob_of_first {rest : List ServerMessage} {sent : List (Sent ServerMessage)} {i : Nat}
    (hrest : rest.reverse.map some = (sent.take i).map Sent.payload) (hi : 0 < i)
    (hfirst : sent[0]? = some ⟨header, some (.jobAccepted accepted)⟩) :
    knownJob rest = some accepted := by
  have hhead : (rest.reverse.map some).head? = some (some (.jobAccepted accepted)) := by
    rw [hrest, List.head?_map, List.head?_take, if_neg (by omega), List.head?_eq_getElem?, hfirst]
    rfl
  rw [List.head?_map, List.head?_reverse] at hhead
  obtain ⟨message, hlast, hmessage⟩ := Option.map_eq_some_iff.mp hhead
  cases hmessage
  unfold knownJob
  rw [hlast]

/-- The client takes the error for its own exactly when both agree that there is a job. -/
theorem Genuine.accepts_iff (hg : Genuine rules request system) {error : SnapshotSessionError}
    {late early : History WorkerOp WorkerRes} {sequence : UInt64}
    {written : Except DataPlane.WorkerDataPlaneFrameError Unit}
    (hpast : system.worker.past = late ++ ⟨.write ⟨sequence, .error error⟩, written⟩ :: early)
    {known : Option SnapshotJobAccepted}
    (hknown : ((workerContract rules).view .init early).accepted = known) :
    Accepts request.start.parameters.operationId error known ↔
      (¬JobRootCreated early ∨ JobAcceptedWritten early) := by
  have hgood := hg.worker.past
  rw [hpast] at hgood
  obtain ⟨-, -, hvalid, hversion, hoperation, hjob, haccepted, -⟩ :=
    Contract.guarantee_of_append hgood
  have hlater : ∀ e, e ∈ early → e ∈ system.worker.past := by
    intro e he
    rw [hpast]
    exact List.mem_append_right _ (List.mem_cons_of_mem _ he)
  cases known with
  | none =>
    have hnot : ¬JobAcceptedWritten early := by
      intro h
      have hsome : ((workerContract rules).view .init early).accepted.isSome = true :=
        accepted_isSome_iff.mpr h
      rw [hknown] at hsome
      cases hsome
    constructor
    · rintro ⟨-, -, -, hnone⟩
      left
      intro hcreated
      have hsome : ((workerContract rules).view .init early).job.isSome = true :=
        job_isSome_iff.mpr hcreated
      rw [← show error.jobId = _ from hjob, hnone] at hsome
      cases hsome
    · rintro (hcreated | hwritten)
      · refine ⟨hvalid, hversion, ?_, ?_⟩
        · intro o ho
          rw [ho] at hoperation
          obtain ⟨start, hstart, rfl⟩ := Option.map_eq_some_iff.mp (hoperation rfl).symm
          have hsame : start = request.start := hg.workerRead _ (hlater _ (mem_of_start hstart))
          rw [hsame]
        · rw [show error.jobId = _ from hjob]
          by_contra hsome
          exact hcreated (job_isSome_iff.mp (Option.isSome_iff_ne_none.mpr hsome))
      · exact absurd hwritten hnot
  | some accepted =>
    have hwritten : JobAcceptedWritten early := by
      have hsome : ((workerContract rules).view .init early).accepted.isSome = true := by
        rw [hknown]
        rfl
      exact accepted_isSome_iff.mp hsome
    refine ⟨fun _ => .inr hwritten, fun _ => ?_⟩
    obtain ⟨herrorOperation, herrorJob⟩ := haccepted accepted hknown
    refine ⟨hvalid, hversion, ?_, herrorJob⟩
    -- the worker's operation is the one of the caller's build request
    have hsome : error.operationId.isSome := by rw [herrorOperation]; rfl
    obtain ⟨start, hstart, hid⟩ :=
      Option.map_eq_some_iff.mp ((hoperation hsome).symm.trans herrorOperation)
    have hsame : start = request.start := hg.workerRead _ (hlater _ (mem_of_start hstart))
    rw [herrorOperation, ← hid, hsame]

end

/-- A client that reads the header of an error frame, and whose reads do not fail, returns the
    worker's error if and only if the worker failed before it had created its job root or
    after it had written the acceptance, and the client could remove its artifact spool. -/
theorem server_error_iff (rules : SessionRules) (workerRoot : String)
    (request : SnapshotSessionRequest) (system : System)
    (hreachable : System.Reachable rules workerRoot request system)
    (result : Except SnapshotSessionClientError SnapshotSessionOutcome) (output : ClientOutput)
    (hreturned : system.client.rest = .ret (result, output)) (header : FrameHeader)
    (hmem : ⟨.readHeader, .ok header⟩ ∈ system.client.past) (hkind : header.kind = .error)
    (hread : NoReadFailed system.client.past) :
    ∃ error late early sequence written,
      system.worker.past = late ++ ⟨.write ⟨sequence, .error error⟩, written⟩ :: early ∧
      (result = .error (.server error) ↔
        (¬JobRootCreated early ∨ JobAcceptedWritten early) ∧
          spoolRemoval system.client.past ≠ some false) := by
  obtain ⟨hg, ho⟩ := ordered_of_reachable hreachable
  have hfailed : (system.clientView request.start).readFailed = false := hread.view
  obtain ⟨i, s, hs, rfl, hheaders, hheader, hplace, hbroken⟩ := ho.errorHeader hfailed hmem hkind
  have hpost : ClientPost rules request.start.parameters.operationId (result, output)
      (system.clientView request.start) := hg.client.returned hreturned
  cases result with
  | ok outcome => exact absurd hkind (hpost.2 _ hheader)
  | error failure =>
    obtain ⟨original, hexplained, hreported⟩ := hpost
    obtain ⟨message, rest, hreads, hlength, hiff⟩ :=
      hexplained _ hheader hkind hfailed (by rw [hplace, hheaders])
    obtain ⟨⟨error, rfl, hpayload⟩, hrest⟩ :=
      ho.errorPayload hfailed hbroken hs hkind hreads (by omega)
    obtain ⟨late, early, sequence, written, hpast, hcases⟩ :=
      ho.logged.error s (List.mem_of_getElem? hs) error hpayload
    refine ⟨error, late, early, sequence, written, hpast, ?_⟩
    have hknown : ((workerContract rules).view .init early).accepted = knownJob rest := by
      have hi : i < system.shared.download.sent.length := (List.getElem?_eq_some_iff.mp hs).1
      rcases hcases with ⟨hnone, hone⟩ | ⟨accepted, header, hsome, hfirst⟩
      · -- the error is the only frame
        obtain rfl : rest = [] := List.length_eq_zero_iff.mp (by omega)
        exact hnone
      · have hpos : 0 < i := by
          rcases Nat.eq_zero_or_pos i with rfl | hpos
          · rw [hs] at hfirst
            cases hfirst
            cases hpayload
          · exact hpos
        rw [hsome, knownJob_of_first hrest hpos hfirst]
    have haccepts := hg.accepts_iff hpast hknown
    have hspool : (system.clientView request.start).spoolLeft = true ↔
        spoolRemoval system.client.past = some false := spoolLeft_eq
    split at hreported
    · rename_i hleft
      constructor
      · intro h
        exact absurd (Except.error.inj h) (hreported error)
      · rintro ⟨-, hremoved⟩
        exact absurd (hspool.mp hleft) hremoved
    · rename_i hleft
      subst hreported
      rw [Except.error.injEq, hiff error rfl, haccepts]
      exact ⟨fun h => ⟨h, fun hremoval => hleft (hspool.mpr hremoval)⟩, fun h => h.1⟩

end

/-! ## Failures while the job is set up -/

namespace Sample

/-- Everything succeeds but one step of the worker. -/
def planWithout (step : LocalStep) : Plan :=
  { plan with
    worker := fun
      | .step s => s ≠ step
      | op => plan.worker op }

def runWithout (step : LocalStep) : System :=
  (System.new sessionRules "/worker" request).run (planWithout step) (rounds 44)

def isErrorHeader : Event ClientOp ClientRes → Bool
  | ⟨.readHeader, .ok header⟩ => header.kind = .error
  | _ => false

def isFailedRead : Event ClientOp ClientRes → Bool
  | ⟨.readHeader, .error _⟩ | ⟨.readPayload, .error _⟩ => true
  | _ => false

def failure? (system : System) : Option SnapshotSessionClientError :=
  match system.client.rest with
  | .ret (.error failure, _) => some failure
  | _ => none

/-- The client has read an error frame, none of its reads failed, it has removed its spool,
    and returned with a failure of the given kind. -/
def failedWith (p : SnapshotSessionClientError → Bool) (system : System) : Bool :=
  (failure? system).any p && system.client.past.any isErrorHeader &&
    !system.client.past.any isFailedRead && spoolRemoval system.client.past == some true

/-- The executable test for a failed session. -/
theorem failedWith_spec {p : SnapshotSessionClientError → Bool} {system : System}
    (h : failedWith p system = true) :
    ∃ failure output header, p failure = true ∧ system.client.rest = .ret (.error failure, output) ∧
      ⟨.readHeader, .ok header⟩ ∈ system.client.past ∧ header.kind = .error ∧
      NoReadFailed system.client.past ∧ spoolRemoval system.client.past ≠ some false := by
  unfold failedWith at h
  simp only [Bool.and_eq_true, Bool.not_eq_true', beq_iff_eq] at h
  obtain ⟨⟨⟨hfailure, hheader⟩, hread⟩, hspool⟩ := h
  -- each part of the test, read as a fact about the run
  have hreturned : ∃ failure output, p failure = true ∧
      system.client.rest = .ret (.error failure, output) := by
    unfold failure? at hfailure
    split at hfailure
    · rename_i failure output hrest
      exact ⟨failure, output, hfailure, hrest⟩
    · cases hfailure
  have hkind : ∃ header, ⟨.readHeader, .ok header⟩ ∈ system.client.past ∧ header.kind = .error := by
    obtain ⟨e, hmem, he⟩ := List.any_eq_true.mp hheader
    unfold isErrorHeader at he
    split at he
    · rename_i header
      exact ⟨header, hmem, of_decide_eq_true he⟩
    · cases he
  have hnone : ∀ e ∈ system.client.past, isFailedRead e = false := by
    intro e he
    by_contra hfailed
    have hany : system.client.past.any isFailedRead = true :=
      List.any_eq_true.mpr ⟨e, he, Bool.not_eq_false _ ▸ hfailed⟩
    exact nomatch hread.symm.trans hany
  obtain ⟨failure, output, hp, hrest⟩ := hreturned
  obtain ⟨header, hmem, hkind⟩ := hkind
  refine ⟨failure, output, header, hp, hrest, hmem, hkind, ⟨?_, ?_⟩, ?_⟩
  · intro error he
    exact nomatch hnone _ he
  · intro error he
    exact nomatch hnone _ he
  · rw [hspool]
    decide

def isJobRootSynced : Event WorkerOp WorkerRes → Bool
  | ⟨.step .syncJobRoot, done⟩ => done
  | _ => false

/-- How the two sessions fail: without a worker root there is no job, and the client reads the
    error of the worker; a failure after the job directories is not told to the client. -/
theorem runs_fail :
    (failedWith (fun _ => true) (runWithout .canonicalWorkerRoot) &&
      !(runWithout .canonicalWorkerRoot).worker.past.any isJobRootSynced) = true ∧
    failedWith (fun failure => failure = .jobIdentityMismatch)
      (runWithout .createSourceArchive) = true := by
  decide +kernel

/-- A worker that cannot even use its worker root has no job, and its error gets through. -/
theorem server_error_of_rootFailure :
    ∃ error output,
      (runWithout .canonicalWorkerRoot).client.rest = .ret (.error (.server error), output) := by
  have hrun : (failedWith (fun _ => true) (runWithout .canonicalWorkerRoot) &&
      !(runWithout .canonicalWorkerRoot).worker.past.any isJobRootSynced) = true := runs_fail.1
  rw [Bool.and_eq_true, Bool.not_eq_true'] at hrun
  obtain ⟨hfailed, hsynced⟩ := hrun
  obtain ⟨failure, output, header, -, hreturned, hmem, hkind, hread, hspool⟩ :=
    failedWith_spec hfailed
  obtain ⟨error, late, early, sequence, written, hpast, hiff⟩ :=
    server_error_iff sessionRules "/worker" request (runWithout .canonicalWorkerRoot)
      (reachable_run _ _ _ _ _) (.error failure) output hreturned header hmem hkind hread
  have hnoRoot : ¬JobRootCreated early := by
    rintro ⟨-, hsync⟩
    have hany : (runWithout .canonicalWorkerRoot).worker.past.any isJobRootSynced = true := by
      refine List.any_eq_true.mpr ⟨⟨.step .syncJobRoot, true⟩, ?_, rfl⟩
      rw [hpast]
      exact List.mem_append_right _ (List.mem_cons_of_mem _ hsync)
    exact nomatch hsynced.symm.trans hany
  have hresult := hiff.mpr ⟨.inl hnoRoot, hspool⟩
  exact ⟨error, output, by rw [hreturned, hresult]⟩

/-- A worker that fails between the creation of its job root and the acceptance of the job
    reports an error that the client takes for that of another job. -/
theorem not_server_error_of_setupFailure :
    ¬∀ (rules : SessionRules) (workerRoot : String) (request : SnapshotSessionRequest)
      (system : System), System.Reachable rules workerRoot request system →
      ∀ result output header, system.client.rest = .ret (result, output) →
      ⟨.readHeader, .ok header⟩ ∈ system.client.past → header.kind = .error →
      NoReadFailed system.client.past → spoolRemoval system.client.past ≠ some false →
      ∃ error, result = .error (.server error) := by
  intro hclaim
  have hfailed : failedWith (fun failure => failure = .jobIdentityMismatch)
      (runWithout .createSourceArchive) = true := runs_fail.2
  obtain ⟨failure, output, header, hfailure, hreturned, hmem, hkind, hread, hspool⟩ :=
    failedWith_spec hfailed
  obtain ⟨error, herror⟩ := hclaim sessionRules "/worker" request (runWithout .createSourceArchive)
    (reachable_run _ _ _ _ _) _ output header hreturned hmem hkind hread hspool
  obtain rfl := of_decide_eq_true hfailure
  cases herror

end Sample

end RustFerry.Snapshot
