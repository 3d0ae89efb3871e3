import RustFerry.Native.ClientSession
import RustFerry.Spec.SessionMessages

/-!
# What a client session can do

The events of a client session, as far as agreement with the worker depends on them, are
followed by a `ClientView`. The results say what a client that returns has read, checked
and sent before; they hold for any worker.
-/

namespace RustFerry.Snapshot

open Remote ProgM

variable {Q : Unit → ClientOutput → ClientView → Prop} {message : ServerMessage}
  {events size : UInt64} {sha256 : String} {mismatch : SnapshotSessionClientError}
  {header : FrameHeader} {accepted : SnapshotJobAccepted} {artifact : SnapshotArtifactDescriptor}

/-! ## View -/

/-- The events of a client session so far: the headers and payloads it read (latest first),
    whether a read failed, the events it delivered, the artifact bytes it found published,
    the receipt it sent, the completions it read after a receipt, and whether the spool of a
    failed session is left. -/
structure ClientView where
  header : Option FrameHeader
  headers : Nat
  reads : List ServerMessage
  readFailed : Bool
  delivered : Nat
  published : Option (ProtocolPath × List UInt8)
  receipt : Option SnapshotArtifactReceipt
  completes : List (SnapshotArtifactReceipt × SnapshotBuildComplete)
  spoolLeft : Bool

namespace ClientView

def init : ClientView where
  header := none
  headers := 0
  reads := []
  readFailed := false
  delivered := 0
  published := none
  receipt := none
  completes := []
  spoolLeft := false

/-- A payload was read. -/
def read (v : ClientView) (message : ServerMessage) : ClientView :=
  { v with
    reads := message :: v.reads
    completes := match message, v.receipt with
      | .complete complete, some receipt => (receipt, complete) :: v.completes
      | _, _ => v.completes }

def next (v : ClientView) : (op : ClientOp) → ClientRes op → ClientView
  | .readHeader, .ok header => { v with header := some header, headers := v.headers + 1 }
  | .readHeader, .error _ => { v with readFailed := true }
  | .readPayload, .ok message => v.read message
  | .readPayload, .error _ => { v with readFailed := true }
  | .deliver _, _ => { v with delivered := v.delivered + 1 }
  | .readPublication path, some bytes => { v with published := some (path, bytes) }
  | .write frame, .ok () =>
    match frame.message with
    | .artifactReceipt receipt => { v with receipt := some receipt }
    | _ => v
  | .cleanupSpool, removed => { v with spoolLeft := !removed }
  | _, _ => v

/-- When an operation may be performed: the build request is the caller's, frame three is
    the receipt or a cancellation, and events are delivered in order. -/
def Allows (start : SnapshotBuildStart) (v : ClientView) : (op : ClientOp) → ClientRes op → Prop
  | .write frame, _ =>
    match frame.message with
    | .buildRequest message => message = start
    | .artifactReceipt _ | .cancel => True
    | .sourceDescriptor _ | .sourceArchive _ => False
  | .deliver event, _ => event.sequence.toNat = v.delivered
  | _, _ => True

end ClientView

/-- The contract of a client for a build request, for any answers. -/
def clientContract (start : SnapshotBuildStart) : Contract ClientOp ClientRes ClientView where
  next := ClientView.next
  assume _ _ _ := True
  guarantee := ClientView.Allows start

/-! ## Sequence numbers -/

/-- The sequence number expected after `n` accepted headers. -/
def expectedSequence (n : Nat) : Option UInt64 := if n < 2 ^ 64 then some (UInt64.ofNat n) else none

theorem acceptSequence_expected {n : Nat} {next : Option UInt64}
    (h : acceptSequence (expectedSequence n) header = .ok next) :
    header.sequence.toNat = n ∧ next = expectedSequence (n + 1) := by
  unfold expectedSequence at h
  split at h
  · rename_i hn
    have hnat : (UInt64.ofNat n).toNat = n := by
      rw [UInt64.toNat_ofNat']
      exact Nat.mod_eq_of_lt hn
    simp only [acceptSequence] at h
    split at h
    · cases h
    · rename_i heq
      cases h
      refine ⟨by rw [not_not.mp heq, hnat], ?_⟩
      unfold DataPlane.WorkerDataPlaneSequence.checkedSucc expectedSequence
      rw [hnat]
      split
      · congr 1
        apply UInt64.toNat.inj
        rw [UInt64.toNat_add, hnat, UInt64.toNat_ofNat']
        rfl
      · rfl
  · cases h

theorem acceptSequence_error {n : Nat} {error : DataPlane.WorkerDataPlaneFrameError}
    (h : acceptSequence (expectedSequence n) header = .error error) :
    header.sequence.toNat ≠ n := by
  rintro rfl
  have hlt : header.sequence.toNat < 2 ^ 64 := header.sequence.toNat_lt
  rw [expectedSequence, if_pos hlt] at h
  simp [acceptSequence] at h

/-! ## Error frames -/

/-- The job of the client: the first frame it read. -/
def knownJob (reads : List ServerMessage) : Option SnapshotJobAccepted :=
  match reads.getLast? with
  | some (.jobAccepted accepted) => some accepted
  | _ => none

/-- The identity of an error frame is the one the client expects. -/
def Accepts (operationId : String) (error : SnapshotSessionError) :
    Option SnapshotJobAccepted → Prop
  | some accepted => error.validate = .ok () ∧ error.protocolVersion = currentProtocolVersion ∧
    error.operationId = some operationId ∧ error.jobId = some accepted.jobId
  | none => error.validate = .ok () ∧ error.protocolVersion = currentProtocolVersion ∧
    (∀ o, error.operationId = some o → o = operationId) ∧ error.jobId = none

/-- When the last header was that of an error frame in its place, and reading did not fail,
    then its payload was read, and the failure is this error exactly if its identity is the
    expected one. -/
def Explained (operationId : String) (failure : SnapshotSessionClientError)
    (v : ClientView) : Prop :=
  ∀ header, v.header = some header → header.kind = .error → v.readFailed = false →
    header.sequence.toNat + 1 = v.headers →
    ∃ message rest, v.reads = message :: rest ∧ v.headers = rest.length + 1 ∧
      ∀ error, message = .error error →
        (failure = .server error ↔ Accepts operationId error (knownJob rest))

/-- The last header was not that of an error frame. -/
def Calm (v : ClientView) : Prop := ∀ header, v.header = some header → header.kind ≠ .error

variable {start : SnapshotBuildStart} {out : ClientOutput} {v : ClientView} {α : Type}
  {prepared : PreparedRequest} {operationId : String} {failure : SnapshotSessionClientError}
  {rules : SessionRules}

/-- Without an error frame any failure is explained. -/
theorem Calm.explained (hcalm : Calm v) : Explained operationId failure v := by
  intro header hheader hkind
  exact absurd hkind (hcalm header hheader)

/-- So it is after a failed read. -/
theorem explained_of_readFailed (hfailed : v.readFailed = true) :
    Explained operationId failure v := by
  intro _ _ _ hok
  exact nomatch hok.symm.trans hfailed

/-- Reading a message keeps the view calm. -/
theorem Calm.read {message : ServerMessage} (hcalm : Calm v) : Calm (v.read message) := hcalm

/-! ## Reading -/

/-- A header with the next number, or an explained failure. -/
theorem wp_readSequencedHeader {Q : FrameHeader × Option UInt64 → ClientOutput → ClientView → Prop}
    (hQ : ∀ header, header.sequence.toNat = v.headers →
      Q (header, expectedSequence (v.headers + 1)) out
        { v with header := some header, headers := v.headers + 1 }) :
    wp (clientContract start) (readSequencedHeader (expectedSequence v.headers)) Q
      (fun failure _ => Explained operationId failure) out v := by
  unfold readSequencedHeader
  rw [wp_bind, wp_perform]
  intro result _
  refine ⟨trivial, ?_⟩
  cases result with
  | error error => exact explained_of_readFailed rfl
  | ok header =>
    dsimp only
    cases haccept : acceptSequence (expectedSequence v.headers) header with
    | error error =>
      -- a header out of place
      rintro header' hheader - - hplace
      cases hheader
      exact absurd (Nat.succ.inj hplace) (acceptSequence_error haccept)
    | ok next =>
      obtain ⟨hplace, rfl⟩ := acceptSequence_expected haccept
      exact hQ header hplace

/-- A message is read, or a failure is explained. -/
theorem wp_readServerMessage {Q : ServerMessage → ClientOutput → ClientView → Prop}
    (hQ : ∀ message, Q message out (v.read message)) :
    wp (clientContract start) readServerMessage Q (fun failure _ => Explained operationId failure)
      out v := by
  unfold readServerMessage
  rw [wp_bind, wp_perform]
  intro result _
  refine ⟨trivial, ?_⟩
  cases result with
  | error error => exact explained_of_readFailed rfl
  | ok message => exact hQ message

variable {error : SnapshotSessionClientError}

/-- Local steps of the client are silent. -/
theorem silent_clientStep {step : ClientStep} :
    Silent (clientContract start) (clientStep step error) v :=
  silent_bind (silent_perform fun _ => ⟨trivial, rfl⟩) fun _ => silent_ensure

/-- An error frame in its place, read to its end. -/
theorem explained_of_error {error : SnapshotSessionError}
    (hreads : v.headers = v.reads.length + 1)
    (hiff : failure = .server error ↔ Accepts operationId error (knownJob v.reads)) :
    Explained operationId failure (v.read (.error error)) := by
  intro _ _ _ _ _
  refine ⟨.error error, v.reads, rfl, hreads, ?_⟩
  rintro e ⟨⟩
  exact hiff

theorem explained_of_other (hreads : v.headers = v.reads.length + 1)
    (hother : ∀ error, message ≠ .error error) :
    Explained operationId failure (v.read message) := by
  intro _ _ _ _ _
  exact ⟨message, v.reads, rfl, hreads, fun error h => absurd h (hother error)⟩

/-- What an error frame becomes. -/
theorem wp_failServer {Q : α → ClientOutput → ClientView → Prop}
    {accepted : Option SnapshotJobAccepted}
    (hcurrent : prepared.protocolVersion = currentProtocolVersion)
    (hreads : v.headers = v.reads.length + 1) (hknown : knownJob v.reads = accepted) :
    wp (clientContract start) (failServer prepared accepted) Q
      (fun failure _ => Explained prepared.operationId failure) out v := by
  unfold failServer readServerError
  rw [hcurrent]
  simp only [wp_bind]
  refine wp_readServerMessage ?_
  intro message
  cases message with
  | jobAccepted _ | event _ | artifactDescriptor _ | artifact _ | complete _ =>
    exact explained_of_other hreads (by intro _ h; cases h)
  | error error =>
    -- a failure that is not the error itself: the error is not accepted
    have hrejected : ∀ failure : SnapshotSessionClientError, (∀ e, failure ≠ .server e) →
        ¬Accepts prepared.operationId error accepted →
        Explained prepared.operationId failure (v.read (.error error)) := by
      intro failure hne hnot
      refine explained_of_error hreads ⟨fun h => absurd h (hne error), fun h => ?_⟩
      rw [hknown] at h
      exact absurd h hnot
    have hvalidate : ∀ accepted, Accepts prepared.operationId error accepted →
        error.validate = .ok () := by
      rintro (_ | accepted) ⟨h, -⟩ <;> exact h
    have hidentity : ∀ accepted, Accepts prepared.operationId error accepted →
        error.protocolVersion = currentProtocolVersion ∧
        ∀ o, error.operationId = some o → o = prepared.operationId := by
      rintro (_ | accepted) ⟨-, hversion, hoperation, -⟩
      · exact ⟨hversion, hoperation⟩
      · exact ⟨hversion, fun o ho => Option.some.inj (ho.symm.trans hoperation)⟩
    simp only [wp_bind]
    rw [wp_ensure]
    constructor
    swap
    · intro hinvalid
      refine hrejected _ (by intro _ h; cases h) fun haccepts => ?_
      rw [hvalidate accepted haccepts] at hinvalid
      cases hinvalid
    intro hvalid
    obtain ⟨⟨⟩, hvalid⟩ := Except.exists_eq_ok_of_toBool hvalid
    rw [wp_ensure]
    constructor
    swap
    · intro hfalse
      refine hrejected _ (by intro _ h; cases h) fun haccepts => ?_
      obtain ⟨hversion, hoperation⟩ := hidentity accepted haccepts
      rw [hversion, beq_self_eq_true, Bool.true_and] at hfalse
      cases ho : error.operationId with
      | none =>
        rw [ho] at hfalse
        cases hfalse
      | some o =>
        rw [ho] at hfalse
        simp [hoperation o ho] at hfalse
    intro hbase
    rw [Bool.and_eq_true, beq_iff_eq] at hbase
    obtain ⟨hversion, hall⟩ := hbase
    have hoperation : ∀ o, error.operationId = some o → o = prepared.operationId := by
      intro o ho
      rw [ho] at hall
      simpa using hall
    cases accepted with
    | none =>
      simp only [wp_bind, wp_ensure]
      constructor
      · intro hnone
        refine explained_of_error hreads ⟨fun _ => ?_, fun _ => rfl⟩
        rw [hknown]
        exact ⟨hvalid, hversion, hoperation, Option.isNone_iff_eq_none.mp hnone⟩
      · intro hsome
        refine hrejected _ (by intro _ h; cases h) fun haccepts => ?_
        rw [haccepts.2.2.2] at hsome
        cases hsome
    | some accepted =>
      simp only [wp_bind, wp_ensure, Bool.and_eq_true, beq_iff_eq]
      constructor
      · rintro ⟨ho, hj⟩
        refine explained_of_error hreads ⟨fun _ => ?_, fun _ => rfl⟩
        rw [hknown]
        exact ⟨hvalid, hversion, ho, hj⟩
      · intro hfalse
        refine hrejected _ (by intro _ h; cases h) fun haccepts => ?_
        simp [haccepts.2.2.1, haccepts.2.2.2] at hfalse

/-! ## Frames of a session -/

/-- The client has read whole frames in sequence, the first of them the acceptance, and
    delivered `events` events. -/
structure Conversing (prepared : PreparedRequest) (accepted : SnapshotJobAccepted)
    (events : UInt64) (v : ClientView) : Prop where
  headers : v.headers = v.reads.length
  known : knownJob v.reads = some accepted
  identity : accepted.operationId = prepared.operationId
  current : prepared.protocolVersion = currentProtocolVersion
  events : events.toNat = v.delivered
  calm : Calm v

theorem knownJob_cons {reads : List ServerMessage} (h : knownJob reads = some accepted) :
    knownJob (message :: reads) = some accepted := by
  unfold knownJob at h ⊢
  cases reads with
  | nil => cases h
  | cons m reads => exact h

theorem mem_of_knownJob {reads : List ServerMessage} (h : knownJob reads = some accepted) :
    .jobAccepted accepted ∈ reads := by
  unfold knownJob at h
  split at h
  · rename_i a hlast
    cases h
    exact List.mem_of_getLast? hlast
  · cases h

/-- The first message accepts the job. -/
theorem wp_readJobAccepted
    {Q : SnapshotJobAccepted × Option UInt64 → ClientOutput → ClientView → Prop}
    (hcurrent : prepared.protocolVersion = currentProtocolVersion)
    (hv : v.headers = 0) (hreads : v.reads = []) (hdelivered : v.delivered = 0)
    (hQ : ∀ accepted v', Conversing prepared accepted 0 v' →
      Q (accepted, expectedSequence v'.headers) out v') :
    wp (clientContract start) (readJobAccepted prepared (some 0)) Q
      (fun failure _ => Explained prepared.operationId failure) out v := by
  have hsequence : (some 0 : Option UInt64) = expectedSequence v.headers := by rw [hv]; rfl
  unfold readJobAccepted
  rw [wp_bind, hsequence]
  refine wp_readSequencedHeader ?_
  intro header hplace
  dsimp only
  split
  · rename_i hkind
    -- the header is no error, so any failure is explained
    have hcalm : Calm { v with header := some header, headers := v.headers + 1 } := by
      rintro h ⟨⟩ herror
      exact nomatch hkind.symm.trans herror
    rw [wp_bind]
    refine wp_readServerMessage ?_
    intro message
    have hfail : ∀ failure, Explained prepared.operationId failure
        ({ v with header := some header, headers := v.headers + 1 }.read message) :=
      fun _ => hcalm.read.explained
    cases message with
    | event _ | artifactDescriptor _ | artifact _ | complete _ | error _ => exact hfail _
    | jobAccepted accepted =>
      simp only [wp_bind]
      refine silent_ensure.wp (fun _ => ?_) hfail
      rw [wp_ensure]
      refine ⟨?_, fun _ => hfail _⟩
      intro hsame
      rw [Bool.and_eq_true, beq_iff_eq] at hsame
      refine hQ accepted
        ({ v with header := some header, headers := v.headers + 1 }.read (.jobAccepted accepted))
        ⟨?_, ?_, hsame.1, hcurrent, ?_, hcalm⟩
      · show v.headers + 1 = v.reads.length + 1
        rw [hv, hreads]
        rfl
      · show knownJob (.jobAccepted accepted :: v.reads) = _
        rw [hreads]
        rfl
      · show 0 = v.delivered
        exact hdelivered.symm
  · -- an error frame instead of the acceptance
    exact wp_failServer hcurrent (by rw [hv, hreads]; rfl) (by rw [hreads]; rfl)
  · rename_i kind hne herror
    refine Calm.explained ?_
    rintro h ⟨⟩ hkind
    exact herror hkind

/-- An event is delivered in its place. -/
theorem wp_readEvent {Q : UInt64 → ClientOutput → ClientView → Prop} (hcalm : Calm v)
    (hevents : events.toNat = v.delivered)
    (hQ : ∀ next message, next.toNat = v.delivered + 1 → Q next out { v.read message with delivered
      := v.delivered + 1 }) :
    wp (clientContract start) (readEvent rules prepared accepted events) Q
      (fun failure _ => Explained prepared.operationId failure) out v := by
  unfold readEvent
  rw [wp_bind]
  refine wp_readServerMessage ?_
  intro message
  have hfail : ∀ failure, Explained prepared.operationId failure (v.read message) :=
    fun _ => hcalm.read.explained
  cases message with
  | jobAccepted _ | artifactDescriptor _ | artifact _ | complete _ | error _ => exact hfail _
  | event event =>
    simp only [wp_bind]
    refine silent_ensure.wp (fun _ => ?_) hfail
    refine silent_ensure.wp (fun _ => ?_) hfail
    rw [wp_ensure]
    refine ⟨?_, fun _ => hfail _⟩
    intro hplace
    rw [wp_ofOption]
    refine ⟨?_, fun _ => hfail _⟩
    intro next hnext
    rw [wp_perform]
    intro returned _
    refine ⟨?_, ?_⟩
    · show event.sequence.toNat = v.delivered
      rw [beq_iff_eq.mp hplace, hevents]
    · refine silent_ensure.wp (fun _ => ?_) fun _ => Calm.explained hcalm
      refine hQ next (.event event) ?_
      unfold DataPlane.WorkerDataPlaneSequence.checkedSucc at hnext
      split at hnext
      · rename_i hlt
        cases hnext
        rw [UInt64.toNat_add, ← hevents]
        exact Nat.mod_eq_of_lt hlt
      · cases hnext

/-- After the header of a frame that is not an error. -/
theorem Conversing.calm_header (_ : Conversing prepared accepted events v)
    (hkind : header.kind ≠ .error) :
    Calm { v with header := some header, headers := v.headers + 1 } := by
  rintro h ⟨⟩
  exact hkind

/-- A frame of the conversation keeps it going. -/
theorem Conversing.readFrame (hc : Conversing prepared accepted events v)
    (hkind : header.kind ≠ .error) :
    Conversing prepared accepted events
      ({ v with header := some header, headers := v.headers + 1 }.read message) := by
  refine ⟨?_, knownJob_cons hc.known, hc.identity, hc.current, hc.events,
    (hc.calm_header hkind).read⟩
  show v.headers + 1 = v.reads.length + 1
  rw [hc.headers]

/-- So does an event, which is counted. -/
theorem Conversing.readEvent {next : UInt64} (hc : Conversing prepared accepted events v)
    (hkind : header.kind ≠ .error) (hnext : next.toNat = v.delivered + 1) :
    Conversing prepared accepted next
      { { v with header := some header, headers := v.headers + 1 }.read message with
        delivered := v.delivered + 1 } := by
  refine ⟨?_, knownJob_cons hc.known, hc.identity, hc.current, hnext, hc.calm_header hkind⟩
  show v.headers + 1 = v.reads.length + 1
  rw [hc.headers]

/-- The artifact that the worker announces. -/
theorem wp_readArtifactDescriptor
    {Q : SnapshotArtifactDescriptor → ClientOutput → ClientView → Prop} (hcalm : Calm v)
    (hQ : ∀ artifact, artifact.operationId = prepared.operationId → artifact.jobId = accepted.jobId
      → Q artifact out (v.read (.artifactDescriptor artifact))) :
    wp (clientContract start) (readArtifactDescriptor rules prepared accepted) Q
      (fun failure _ => Explained prepared.operationId failure) out v := by
  unfold readArtifactDescriptor
  rw [wp_bind]
  refine wp_readServerMessage ?_
  intro message
  have hfail : ∀ failure, Explained prepared.operationId failure (v.read message) :=
    fun _ => hcalm.read.explained
  cases message with
  | jobAccepted _ | event _ | artifact _ | complete _ | error _ => exact hfail _
  | artifactDescriptor artifact =>
    simp only [wp_bind]
    refine silent_ensure.wp (fun _ => ?_) hfail
    rw [wp_ensure]
    refine ⟨?_, fun _ => hfail _⟩
    intro hsame
    simp only [Bool.and_eq_true, beq_iff_eq] at hsame
    exact silent_ensure.wp (fun _ => hQ artifact hsame.1.1 hsame.1.2) hfail

/-- What the loop preserves, until a descriptor of the job is read. -/
theorem wp_readUntilArtifactDescriptor (fuel : Nat)
    {Q : SnapshotArtifactDescriptor × Option UInt64 × UInt64 → ClientOutput → ClientView → Prop}
    (hc : Conversing prepared accepted events v)
    (hQ : ∀ artifact events v', Conversing prepared accepted events v' → .artifactDescriptor
      artifact ∈ v'.reads → artifact.operationId = prepared.operationId → artifact.jobId =
      accepted.jobId → Q (artifact, expectedSequence v'.headers, events) out v') :
    wp (clientContract start)
      (readUntilArtifactDescriptor rules prepared accepted fuel (expectedSequence v.headers) events)
      Q (fun failure _ => Explained prepared.operationId failure) out v := by
  induction fuel generalizing v events with
  | zero => exact hc.calm.explained
  | succ fuel ih =>
    rw [readUntilArtifactDescriptor, wp_bind]
    refine wp_readSequencedHeader ?_
    intro header hplace
    dsimp only
    split
    · rename_i hkind
      have hne : header.kind ≠ .error := by rw [hkind]; decide
      rw [wp_bind]
      refine wp_readEvent (hc.calm_header hne) hc.events ?_
      intro next message hnext
      exact ih (hc.readEvent hne hnext)
    · rename_i hkind
      have hne : header.kind ≠ .error := by rw [hkind]; decide
      rw [wp_bind]
      refine wp_readArtifactDescriptor (hc.calm_header hne) ?_
      intro artifact hoperation hjob
      exact hQ artifact events _ (hc.readFrame hne) List.mem_cons_self hoperation hjob
    · exact wp_failServer hc.current (congrArg (· + 1) hc.headers) hc.known
    · rename_i hevent hdescriptor herror
      exact (hc.calm_header herror).explained

/-! ## Artifact -/

/-- Frames were read, and nothing was published or sent. -/
structure Later (v v' : ClientView) : Prop where
  receipt : v'.receipt = v.receipt
  published : v'.published = v.published
  reads : v.reads <:+ v'.reads

/-- What was read stays read. -/
theorem Later.mem {v' : ClientView} (h : Later v v') (hmem : message ∈ v.reads) :
    message ∈ v'.reads :=
  h.reads.subset hmem

/-- The bytes of an artifact arrive, or a failure is explained. -/
theorem wp_receiveArtifact (hcalm : Calm v) (hQ : ∀ message, Q () out (v.read message)) :
    wp (clientContract start) (receiveArtifact rules artifact header) Q
      (fun failure _ => Explained operationId failure) out v := by
  have hfail : ∀ failure, Explained operationId failure v := fun _ => hcalm.explained
  unfold receiveArtifact validateNewLink
  simp only [wp_bind]
  refine silent_ensure.wp (fun _ => ?_) hfail
  refine silent_clientStep.wp (fun _ => ?_) hfail
  refine silent_clientStep.wp (fun _ => ?_) hfail
  refine silent_clientStep.wp (fun _ => ?_) hfail
  refine wp_readServerMessage ?_
  intro message
  have hfail : ∀ failure, Explained operationId failure (v.read message) :=
    fun _ => hcalm.read.explained
  refine silent_clientStep.wp (fun _ => ?_) hfail
  refine silent_clientStep.wp (fun _ => ?_) hfail
  exact silent_ensure.wp (fun _ => hQ message) hfail

/-- A payload is read between two frames of the conversation. -/
theorem wp_readArtifactPayload {Q : Option UInt64 → ClientOutput → ClientView → Prop}
    (hc : Conversing prepared accepted events v)
    (hQ : ∀ v', Conversing prepared accepted events v' → Later v v' → Q (expectedSequence
      v'.headers) out v') :
    wp (clientContract start)
      (readArtifactPayload rules prepared accepted artifact (expectedSequence v.headers)) Q
      (fun failure _ => Explained prepared.operationId failure) out v := by
  unfold readArtifactPayload
  rw [wp_bind]
  refine wp_readSequencedHeader ?_
  intro header hplace
  dsimp only
  split
  · exact wp_failServer hc.current (congrArg (· + 1) hc.headers) hc.known
  · rename_i hkind
    have hne : header.kind ≠ .error := by rw [hkind]; decide
    rw [wp_bind]
    refine wp_receiveArtifact (hc.calm_header hne) ?_
    intro message
    exact hQ _ (hc.readFrame hne) ⟨rfl, rfl, List.suffix_cons message v.reads⟩
  · rename_i herror hartifact
    exact (hc.calm_header herror).explained

/-- The bytes that were found published. -/
def Published (rules : SessionRules) (artifact : SnapshotArtifactDescriptor)
    (path : ProtocolPath) (v : ClientView) : Prop :=
  ∃ bytes, v.published = some (path, bytes) ∧ bytes.length = artifact.artifact.size.toNat ∧
    rules.sha256 bytes = artifact.artifact.sha256

/-- A registered artifact is published. -/
theorem wp_registerPublication {path : ProtocolPath} (hcalm : Calm v)
    (hQ : ∀ published, Published rules artifact path { v with published } → Q () out { v with
      published }) :
    wp (clientContract start)
      (registerPublication rules path artifact.artifact.size artifact.artifact.sha256) Q
      (fun failure _ => Explained operationId failure) out v := by
  have hfail : ∀ failure, Explained operationId failure v := fun _ => hcalm.explained
  unfold registerPublication
  simp only [wp_bind]
  refine silent_ensure.wp (fun _ => ?_) hfail
  refine silent_ensure.wp (fun _ => ?_) hfail
  refine silent_clientStep.wp (fun _ => ?_) hfail
  rw [wp_perform]
  intro published _
  refine ⟨trivial, ?_⟩
  cases published with
  | none => exact hfail _
  | some bytes =>
    have hfail : ∀ failure, Explained operationId failure
        { v with published := some (path, bytes) } := fun _ => Calm.explained hcalm
    simp only [ofOption, wp_pure]
    rw [wp_ensure]
    refine ⟨?_, fun _ => hfail _⟩
    intro hsame
    rw [Bool.and_eq_true, beq_iff_eq, beq_iff_eq] at hsame
    exact silent_clientStep.wp (fun _ => hQ _ ⟨bytes, rfl, hsame⟩) hfail

theorem silent_validateFileBytes {read : FileRead} :
    Silent (clientContract start) (validateFileBytes rules size sha256 mismatch read) v := by
  cases read with
  | bytes bytes => exact silent_ensure
  | changed | unreadable | failed => exact silent_fail

/-- A receipt for the artifact that was found published. -/
theorem wp_verifyAndPublish {Q : SnapshotArtifactReceipt → ClientOutput → ClientView → Prop}
    (hcalm : Calm v)
    (hQ : ∀ receipt published, receipt.validateFor rules artifact = .ok () → Published rules
      artifact receipt.localPath { v with published } → Q receipt out { v with published }) :
    wp (clientContract start) (verifyAndPublish rules artifact) Q
      (fun failure _ => Explained operationId failure) out v := by
  have hfail : ∀ failure, Explained operationId failure v := fun _ => hcalm.explained
  unfold verifyAndPublish
  simp only [wp_bind]
  refine silent_clientStep.wp (fun _ => ?_) hfail
  rw [wp_perform]
  intro verification _
  refine ⟨trivial, ?_⟩
  cases verification with
  | unwound => exact hfail _
  | rejected => exact hfail _
  | published path =>
    simp only [wp_bind]
    rw [wp_perform]
    intro read _
    refine ⟨trivial, ?_⟩
    refine silent_validateFileBytes.wp (fun _ => ?_) hfail
    rw [wp_ofOption]
    refine ⟨?_, fun _ => hfail _⟩
    intro receipt hreceipt
    refine wp_registerPublication hcalm ?_
    intro published hpublished
    exact hQ receipt published (validateFor_of_new (Except.eq_ok_of_toOption hreceipt)) hpublished

/-! ## Completion -/

/-- The output is flushed, or a failure is explained. -/
theorem wp_flushClient (hcalm : Calm v) (hQ : Q () out v) :
    wp (clientContract start) flushClient Q (fun failure _ => Explained operationId failure)
      out v := by
  unfold flushClient
  rw [wp_bind, wp_perform]
  intro flushed _
  exact ⟨trivial, silent_ensure.wp (fun _ => hQ) fun _ => hcalm.explained⟩

variable {receipt : SnapshotArtifactReceipt}

/-- The receipt is sent, or a failure is explained. -/
theorem wp_sendReceipt (hcalm : Calm v) (hQ : ∀ out, Q () out { v with receipt := some receipt }) :
    wp (clientContract start) (sendReceipt receipt) Q
      (fun failure _ => Explained operationId failure) out v := by
  unfold sendReceipt writeJsonFrame
  simp only [wp_bind, wp_modify]
  rw [wp_perform]
  intro written _
  refine ⟨trivial, ?_⟩
  cases written with
  | error error => exact hcalm.explained
  | ok u => exact wp_flushClient hcalm (hQ _)

/-- The last message belongs to the job. -/
theorem wp_readComplete {Q : SnapshotBuildComplete → ClientOutput → ClientView → Prop}
    (hcalm : Calm v)
    (hQ : ∀ complete, complete.operationId = prepared.operationId → complete.jobId = accepted.jobId
      → Q complete out (v.read (.complete complete))) :
    wp (clientContract start) (readComplete prepared accepted) Q
      (fun failure _ => Explained operationId failure) out v := by
  unfold readComplete
  rw [wp_bind]
  refine wp_readServerMessage ?_
  intro message
  have hfail : ∀ failure, Explained operationId failure (v.read message) :=
    fun _ => hcalm.read.explained
  cases message with
  | jobAccepted _ | event _ | artifactDescriptor _ | artifact _ | error _ => exact hfail _
  | complete complete =>
    simp only [wp_bind]
    refine silent_ensure.wp (fun _ => ?_) hfail
    rw [wp_ensure]
    refine ⟨?_, fun _ => hfail _⟩
    intro hsame
    simp only [Bool.and_eq_true, beq_iff_eq] at hsame
    exact hQ complete hsame.1.1 hsame.1.2

/-- What the loop preserves, until a completion of the job is read. -/
theorem wp_readUntilComplete (fuel : Nat)
    {Q : SnapshotBuildComplete → ClientOutput → ClientView → Prop}
    (hc : Conversing prepared accepted events v)
    (hsent : v.receipt = some receipt)
    (hQ : ∀ complete v', Calm v' → Later v v' → (receipt, complete) ∈ v'.completes →
      complete.operationId = prepared.operationId → complete.jobId = accepted.jobId → Q complete
      out v') :
    wp (clientContract start)
      (readUntilComplete rules prepared accepted fuel (expectedSequence v.headers) events)
      Q (fun failure _ => Explained prepared.operationId failure) out v := by
  induction fuel generalizing v events with
  | zero => exact hc.calm.explained
  | succ fuel ih =>
    rw [readUntilComplete, wp_bind]
    refine wp_readSequencedHeader ?_
    intro header hplace
    dsimp only
    split
    · rename_i hkind
      have hne : header.kind ≠ .error := by rw [hkind]; decide
      rw [wp_bind]
      refine wp_readEvent (hc.calm_header hne) hc.events ?_
      intro next message hnext
      refine ih (hc.readEvent hne hnext) hsent ?_
      intro complete v' hcalm hlater
      exact hQ complete v' hcalm
        ⟨hlater.receipt, hlater.published, (List.suffix_cons message v.reads).trans hlater.reads⟩
    · rename_i hkind
      have hne : header.kind ≠ .error := by rw [hkind]; decide
      refine wp_readComplete (hc.calm_header hne) ?_
      intro complete hoperation hjob
      refine hQ complete _ (hc.calm_header hne) ⟨rfl, rfl, List.suffix_cons _ v.reads⟩ ?_
        hoperation hjob
      -- the receipt was sent before
      simp only [ClientView.read, hsent]
      exact List.mem_cons_self
    · exact wp_failServer hc.current (congrArg (· + 1) hc.headers) hc.known
    · rename_i hevent hcomplete herror
      exact (hc.calm_header herror).explained

/-- What an outcome rests on. -/
structure Agreed (rules : SessionRules) (operationId : String) (outcome : SnapshotSessionOutcome)
    (v : ClientView) : Prop where
  accepted : .jobAccepted outcome.accepted ∈ v.reads
  operation : outcome.accepted.operationId = operationId
  artifact : .artifactDescriptor outcome.artifact ∈ v.reads
  artifactOperation : outcome.artifact.operationId = operationId
  artifactJob : outcome.artifact.jobId = outcome.accepted.jobId
  published : Published rules outcome.artifact outcome.receipt.localPath v
  receipt : v.receipt = some outcome.receipt
  receiptValid : outcome.receipt.validateFor rules outcome.artifact = .ok ()
  complete : (outcome.receipt, outcome.complete) ∈ v.completes
  completeOperation : outcome.complete.operationId = operationId
  completeJob : outcome.complete.jobId = outcome.accepted.jobId

/-- What an outcome rests on, and when an error frame becomes `server`. -/
theorem wp_converse (hcurrent : prepared.protocolVersion = currentProtocolVersion)
    (hv : v.headers = 0) (hreads : v.reads = []) (hdelivered : v.delivered = 0) :
    wp (clientContract start) (converse rules prepared)
      (fun outcome _ v => Agreed rules prepared.operationId outcome v ∧ Calm v)
      (fun failure _ => Explained prepared.operationId failure) out v := by
  unfold converse
  rw [wp_bind]
  refine wp_readJobAccepted hcurrent hv hreads hdelivered ?_
  intro accepted v₁ hc₁
  dsimp only
  rw [wp_bind]
  refine wp_readUntilArtifactDescriptor frameFuel hc₁ ?_
  intro artifact events v₂ hc₂ hartifact hoperation hjob
  dsimp only
  rw [wp_bind]
  refine wp_readArtifactPayload hc₂ ?_
  intro v₃ hc₃ hlater
  simp only [wp_bind]
  refine silent_ensure.wp (fun _ => ?_) fun _ => hc₃.calm.explained
  refine wp_verifyAndPublish hc₃.calm ?_
  intro receipt published hvalid hpublished
  refine wp_sendReceipt (v := { v₃ with published }) hc₃.calm ?_
  intro out
  refine wp_readUntilComplete (v := { v₃ with published, receipt := some receipt }) frameFuel
    ⟨hc₃.headers, hc₃.known, hc₃.identity, hc₃.current, hc₃.events, hc₃.calm⟩ rfl ?_
  intro complete v₄ hcalm hlater' hcomplete hoperation' hjob'
  -- frames read stay read, so the descriptor is still among them
  have hread : ∀ message, message ∈ v₃.reads → message ∈ v₄.reads := fun _ => hlater'.mem
  obtain ⟨bytes, hbytes, hsize, hsha256⟩ := hpublished
  refine ⟨?_, hcalm⟩
  exact {
    accepted := hread _ (mem_of_knownJob hc₃.known)
    operation := hc₃.identity
    artifact := hread _ (hlater.mem hartifact)
    artifactOperation := hoperation
    artifactJob := hjob
    published := ⟨bytes, hlater'.published.trans hbytes, hsize, hsha256⟩
    receipt := hlater'.receipt
    receiptValid := hvalid
    complete := hcomplete
    completeOperation := hoperation'
    completeJob := hjob' }

/-! ## Upload -/

theorem silent_validateOpenFileBytes {file : SourceFile} :
    Silent (clientContract start) (validateOpenFileBytes rules file size sha256 mismatch) v :=
  silent_bind (silent_perform fun _ => ⟨trivial, rfl⟩) fun _ => silent_validateFileBytes

theorem silent_parseValidatedDescriptor :
    Silent (clientContract start) (parseValidatedDescriptor rules size sha256) v := by
  refine silent_bind (silent_perform fun _ => ⟨trivial, rfl⟩) ?_
  intro read
  cases read with
  | bytes bytes =>
    exact silent_bind silent_ofOption fun _ => silent_bind silent_ensure fun _ => silent_pure
  | changed | unreadable | failed => exact silent_fail

variable {request : SnapshotSessionRequest}

/-- The prepared request keeps the start. -/
theorem wp_prepareRequest {Q : PreparedRequest → ClientOutput → ClientView → Prop} (hcalm : Calm v)
    (hQ : ∀ prepared, prepared.start = request.start →
      prepared.operationId = request.start.parameters.operationId →
      prepared.protocolVersion = currentProtocolVersion → Q prepared out v) :
    wp (clientContract start) (prepareRequest rules request) Q
      (fun failure _ => Explained operationId failure) out v := by
  have hfail : ∀ failure, Explained operationId failure v := fun _ => hcalm.explained
  unfold prepareRequest
  simp only [wp_bind]
  refine silent_ensure.wp (fun _ => ?_) hfail
  refine silent_validateOpenFileBytes.wp (fun _ => ?_) hfail
  refine silent_validateOpenFileBytes.wp (fun _ => ?_) hfail
  refine silent_parseValidatedDescriptor.wp (fun descriptor => ?_) hfail
  rw [wp_ofOption]
  refine ⟨?_, fun _ => hfail _⟩
  intro reconstructed hreconstructed
  refine silent_ofOption.wp (fun requestSha256 => ?_) hfail
  rw [wp_ofOption]
  refine ⟨?_, fun _ => hfail _⟩
  intro version hversion
  refine silent_clientStep.wp (fun _ => ?_) hfail
  refine silent_clientStep.wp (fun _ => ?_) hfail
  exact hQ _ rfl (operationId_of_reconstructRequest hreconstructed)
    (negotiate_current (Except.eq_ok_of_toOption hversion))

theorem silent_streamValidatedFile {sequence : UInt64} {file : SourceFile} :
    Silent (clientContract start)
      (streamValidatedFile rules sequence file size sha256 mismatch) v := by
  refine silent_bind silent_validateOpenFileBytes fun _ => ?_
  refine silent_bind silent_clientStep fun _ => silent_bind silent_clientStep fun _ => ?_
  refine silent_bind silent_ensure fun _ => ?_
  refine silent_bind (silent_perform fun _ => ⟨trivial, rfl⟩) fun streamed => ?_
  cases streamed with
  | failed error => exact silent_fail
  | sent bytes =>
    refine silent_bind silent_clientStep fun _ => silent_bind silent_clientStep fun _ => ?_
    refine silent_bind silent_clientStep fun _ => ?_
    exact silent_bind (silent_perform fun _ => ⟨trivial, rfl⟩) fun _ => silent_ensure

/-- The build request that is written is the caller's. -/
theorem silent_writeRequestFrames :
    Silent (clientContract start) (writeRequestFrames rules start) v := by
  refine silent_bind ?_ fun _ =>
    silent_bind silent_streamValidatedFile fun _ => silent_streamValidatedFile
  refine silent_bind (silent_perform fun written => ⟨rfl, ?_⟩) fun written => ?_
  · cases written <;> rfl
  · cases written with
    | error error => exact silent_fail
    | ok u => exact silent_pure

/-! ## Session -/

/-- Dropping the guard leaves the view alone. -/
theorem wp_dropCancelGuard {ε : Type} {E : ε → ClientOutput → ClientView → Prop}
    (hQ : ∀ out, Q () out v) :
    wp (clientContract start) dropCancelGuard Q E out v := by
  unfold dropCancelGuard
  rw [wp_bind, wp_get]
  split
  · rw [wp_bind, wp_perform]
    intro written _
    refine ⟨trivial, ?_⟩
    cases written with
    | error error => exact hQ out
    | ok u =>
      rw [wp_bind, wp_perform]
      intro flushed _
      refine ⟨trivial, ?_⟩
      cases flushed with
      | true => exact hQ _
      | false => exact hQ out
  · exact hQ out

theorem calm_init : Calm .init := by
  intro header h
  cases h

/-- The session before its result is committed. -/
theorem wp_runSnapshotSessionUncommitted :
    wp (clientContract request.start) (runSnapshotSessionUncommitted rules request)
      (fun outcome _ v => Agreed rules request.start.parameters.operationId outcome v ∧ Calm v)
      (fun failure _ => Explained request.start.parameters.operationId failure) out .init := by
  have hfail : ∀ failure, Explained request.start.parameters.operationId failure .init :=
    fun _ => calm_init.explained
  unfold runSnapshotSessionUncommitted validateNewLink
  simp only [wp_bind]
  refine wp_prepareRequest calm_init ?_
  intro prepared hstart hoperation hcurrent
  rw [hstart]
  refine silent_clientStep.wp (fun _ => ?_) hfail
  refine silent_clientStep.wp (fun _ => ?_) hfail
  refine silent_writeRequestFrames.wp (fun _ => ?_) hfail
  refine wp_flushClient calm_init ?_
  rw [wp_modify, wp_attempt]
  rw [← hoperation]
  refine wp_mono (wp_converse hcurrent rfl rfl rfl) ?_ ?_
  · intro outcome out v hagreed
    exact wp_dropCancelGuard fun _ => hagreed
  · intro failure out v hexplained
    exact wp_dropCancelGuard fun _ => hexplained

/-- The failure of a whole session: a spool that could not be removed hides it. -/
def Reported (operationId : String) (failure : SnapshotSessionClientError) (v : ClientView) : Prop :=
  ∃ original, Explained operationId original v ∧
    if v.spoolLeft then ∀ error, failure ≠ .server error else failure = original

/-- A failure is reported with its cleanup. -/
theorem wp_cleanupSessionError
    {Q : α → ClientOutput → ClientView → Prop} (hexplained : Explained operationId error v) :
    wp (clientContract start) (cleanupSessionError error) Q
      (fun failure _ => Reported operationId failure) out v := by
  unfold cleanupSessionError
  split
  · rename_i hunwound
    -- an unwinding session does not remove its spool
    refine ⟨error, hexplained, ?_⟩
    split
    · intro e he
      exact nomatch hunwound.symm.trans he
    · rfl
  · rw [wp_bind, wp_perform]
    intro removed _
    refine ⟨trivial, ?_⟩
    cases removed with
    | true => exact ⟨error, hexplained, rfl⟩
    | false => exact ⟨error, hexplained, fun e he => nomatch he⟩

/-- Every run of a client: an outcome rests on the worker's frames, and a failure after an
    error frame is this error if its identity is the expected one. -/
theorem wp_runSnapshotSession (rules : SessionRules) (request : SnapshotSessionRequest) :
    wp (clientContract request.start) (runSnapshotSession rules request)
      (fun outcome _ v => Agreed rules request.start.parameters.operationId outcome v ∧ Calm v)
      (fun failure _ => Reported request.start.parameters.operationId failure) .new .init := by
  unfold runSnapshotSession runSnapshotSessionDeferred
  simp only [wp_bind]
  rw [wp_attempt]
  refine wp_mono wp_runSnapshotSessionUncommitted ?_ ?_
  · rintro outcome out v ⟨hagreed, hcalm⟩
    simp only [wp_pure]
    rw [wp_perform]
    intro authorized _
    refine ⟨trivial, ?_⟩
    cases authorized with
    | true => exact ⟨hagreed, hcalm⟩
    | false =>
      rw [if_neg Bool.false_ne_true]
      exact wp_cleanupSessionError hcalm.explained
  · intro failure out v hexplained
    exact wp_cleanupSessionError hexplained

end RustFerry.Snapshot
