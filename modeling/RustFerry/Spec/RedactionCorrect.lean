import RustFerry.ForStd.Segments
import RustFerry.Native.Redaction

/-!
# Redaction correctness

The scan of `drain_safe` leaves a trace of segments behind (`drainTrace`); its
rendering is what the redactor emits. A position whose remaining input is not a
possible secret prefix is decided for good: no later input changes the choice
made there (`fullMatch_append`), so cutting the input into chunks never changes
the trace (`drainTrace_append`).
-/

namespace RustFerry.Redaction

open Segment

namespace SecretRedactor

variable {secret : List UInt8} {finishing : Bool} {remaining : List UInt8}

/-- The decisions of `drainLoop` on `remaining`, and what stays pending. -/
def drainTrace (self : SecretRedactor) (finishing : Bool) (remaining : List UInt8) :
    List (Segment UInt8) × List UInt8 :=
  match remaining with
  | [] => ([], [])
  | b :: rest =>
    if self.isPartialSecret (b :: rest) then
      if finishing then ([.replaced (b :: rest)], []) else ([], b :: rest)
    else
      match _h : self.fullMatch (b :: rest) with
      | some secret =>
        let (segments, pending) := self.drainTrace finishing ((b :: rest).drop secret.length)
        (.replaced secret :: segments, pending)
      | none =>
        let (segments, pending) := self.drainTrace finishing rest
        (.kept b :: segments, pending)
termination_by remaining.length
decreasing_by
  · have := fullMatch_length_pos _h
    simp only [List.length_drop, List.length_cons]
    omega
  · simp

/-- The trace of a complete input. -/
def trace (self : SecretRedactor) (input : List UInt8) : List (Segment UInt8) :=
  (self.drainTrace true input).1

/-- The trace of what a stream has consumed after the chunks `done`. -/
def streamTrace (self : SecretRedactor) (done : List (List UInt8)) : List (Segment UInt8) :=
  (self.drainTrace false done.flatten).1

variable (self : SecretRedactor)

/-! ## One position -/

/-- A proper beginning of a secret. -/
theorem isPartialSecret_iff (remaining : List UInt8) :
    self.isPartialSecret remaining = true ↔
      ∃ secret ∈ self.secrets, remaining.length < secret.length ∧ remaining <+: secret := by
  simp [isPartialSecret, List.isPrefixOf_iff_prefix]

/-- No secret begins here. -/
theorem fullMatch_eq_none_iff (remaining : List UInt8) :
    self.fullMatch remaining = none ↔ ∀ secret ∈ self.secrets, ¬ secret <+: remaining := by
  simp [fullMatch, List.maxByKey_eq_none_iff, List.isPrefixOf_iff_prefix]

section

variable (hunmatched : self.isPartialSecret remaining = false) (later : List UInt8)

include hunmatched later

/-- Where no secret can still be completed, a secret that starts here once more
    input arrived had already been seen whole. -/
private theorem prefix_append_iff (hmem : secret ∈ self.secrets) :
    secret <+: remaining ++ later ↔ secret <+: remaining := by
  constructor
  · intro h
    by_cases hlen : secret.length ≤ remaining.length
    · exact List.prefix_of_prefix_length_le h (List.prefix_append _ _) hlen
    · have hpre : remaining <+: secret :=
        List.prefix_of_prefix_length_le (List.prefix_append _ _) h (by omega)
      have htrue : self.isPartialSecret remaining = true :=
        (self.isPartialSecret_iff remaining).mpr ⟨secret, hmem, by omega, hpre⟩
      rw [hunmatched] at htrue
      cases htrue
  · intro h
    exact h.trans (List.prefix_append _ _)

theorem isPartialSecret_append :
    self.isPartialSecret (remaining ++ later) = false := by
  rw [Bool.eq_false_iff, Ne, isPartialSecret_iff]
  rintro ⟨secret, hmem, hlen, hpre⟩
  rw [Bool.eq_false_iff, Ne, isPartialSecret_iff] at hunmatched
  simp only [List.length_append] at hlen
  exact hunmatched ⟨secret, hmem, by omega, (List.prefix_append _ _).trans hpre⟩

/-- The match chosen at a decided position does not depend on later input. -/
theorem fullMatch_append
      :
    self.fullMatch (remaining ++ later) = self.fullMatch remaining := by
  unfold fullMatch
  congr 1
  apply List.filter_congr
  intro secret hmem
  rw [Bool.eq_iff_iff, List.isPrefixOf_iff_prefix, List.isPrefixOf_iff_prefix]
  exact self.prefix_append_iff hunmatched later hmem

end

/-! ## The trace -/

/-- The loop stops at a partial secret. -/
theorem drainTrace_partial (hunmatched : self.isPartialSecret remaining = true) :
    self.drainTrace finishing remaining =
      if finishing = true ∧ remaining ≠ [] then ([.replaced remaining], []) else ([], remaining) := by
  cases remaining with
  | nil => simp [drainTrace]
  | cons b rest => cases finishing <;> simp [drainTrace, hunmatched]

/-- The loop replaces a whole secret. -/
theorem drainTrace_match (hne : remaining ≠ [])
    (hunmatched : self.isPartialSecret remaining = false)
    (hmatch : self.fullMatch remaining = some secret) :
    self.drainTrace finishing remaining =
      (.replaced secret :: (self.drainTrace finishing (remaining.drop secret.length)).1,
        (self.drainTrace finishing (remaining.drop secret.length)).2) := by
  cases remaining with
  | nil => exact absurd rfl hne
  | cons b rest =>
    rw [drainTrace, hunmatched]
    simp only [Bool.false_eq_true, if_false]
    split
    · rename_i s hs
      rw [hmatch] at hs
      cases hs
      rfl
    · rename_i hs
      rw [hmatch] at hs
      cases hs

/-- The loop keeps any other byte. -/
theorem drainTrace_kept {b : UInt8} {rest : List UInt8}
    (hunmatched : self.isPartialSecret (b :: rest) = false)
    (hmatch : self.fullMatch (b :: rest) = none) :
    self.drainTrace finishing (b :: rest) =
      (.kept b :: (self.drainTrace finishing rest).1, (self.drainTrace finishing rest).2) := by
  rw [drainTrace, hunmatched]
  simp only [Bool.false_eq_true, if_false]
  split
  · rename_i s hs
    rw [hmatch] at hs
    cases hs
  · rfl

/-- Induction over the scan: the input is used up, a secret prefix is pending, a
    secret is replaced or a byte is kept. -/
theorem scan_induction {motive : List UInt8 → Prop} (nil : motive [])
    (pending : ∀ remaining, remaining ≠ [] → self.isPartialSecret remaining = true →
      motive remaining)
    (hit : ∀ remaining secret, remaining ≠ [] → self.isPartialSecret remaining = false →
      self.fullMatch remaining = some secret → motive (remaining.drop secret.length) →
      motive remaining)
    (kept : ∀ b rest, self.isPartialSecret (b :: rest) = false →
      self.fullMatch (b :: rest) = none → motive rest → motive (b :: rest))
    (remaining : List UInt8) : motive remaining := by
  induction hn : remaining.length using Nat.strong_induction_on generalizing remaining with
  | _ n ih =>
    subst hn
    cases remaining with
    | nil => exact nil
    | cons b rest =>
      cases hunmatched : self.isPartialSecret (b :: rest) with
      | true => exact pending _ (by simp) hunmatched
      | false =>
        cases hmatch : self.fullMatch (b :: rest) with
        | none => exact kept b rest hunmatched hmatch (ih _ (by simp) rest rfl)
        | some secret =>
          have hpos := fullMatch_length_pos hmatch
          apply hit _ secret (by simp) hunmatched hmatch
          exact ih _ (by simp only [List.length_drop, List.length_cons]; omega) _ rfl

/-- The loop emits the rendering of its trace. -/
theorem drainLoop_eq (finishing : Bool) (output remaining : List UInt8) :
    self.drainLoop finishing output remaining =
      (output ++ render redactionMarkerBytes (self.drainTrace finishing remaining).1,
        (self.drainTrace finishing remaining).2) := by
  induction remaining using self.scan_induction generalizing output with
  | nil => simp [drainLoop, drainTrace]
  | pending remaining hne hunmatched =>
    obtain ⟨b, rest, rfl⟩ := List.exists_cons_of_ne_nil hne
    rw [self.drainTrace_partial hunmatched]
    cases finishing <;> simp [drainLoop, hunmatched, Segment.output]
  | hit remaining secret hne hunmatched hmatch ih =>
    obtain ⟨b, rest, rfl⟩ := List.exists_cons_of_ne_nil hne
    rw [self.drainTrace_match hne hunmatched hmatch, drainLoop]
    simp only [hunmatched, Bool.and_false, Bool.false_eq_true, if_false]
    split
    · rename_i s hs
      rw [hmatch] at hs
      cases hs
      rw [ih]
      simp [Segment.output]
    · rename_i hs
      rw [hmatch] at hs
      cases hs
  | kept b rest hunmatched hmatch ih =>
    rw [self.drainTrace_kept hunmatched hmatch, drainLoop]
    simp only [hunmatched, Bool.and_false, Bool.false_eq_true, if_false]
    split
    · rename_i s hs
      rw [hmatch] at hs
      cases hs
    · rw [ih]
      simp [Segment.output]

/-- The trace and what stays pending make up the input. -/
theorem source_drainTrace (finishing : Bool) (remaining : List UInt8) :
    source (self.drainTrace finishing remaining).1 ++
      (self.drainTrace finishing remaining).2 = remaining := by
  induction remaining using self.scan_induction with
  | nil => simp [drainTrace]
  | pending remaining hne hunmatched =>
    rw [self.drainTrace_partial hunmatched]
    cases finishing <;> simp [hne, input]
  | hit remaining secret hne hunmatched hmatch ih =>
    rw [self.drainTrace_match hne hunmatched hmatch]
    obtain ⟨tail, rfl⟩ := (fullMatch_mem hmatch).2
    simpa [input] using ih
  | kept b rest hunmatched hmatch ih =>
    rw [self.drainTrace_kept hunmatched hmatch]
    simpa [input] using ih

/-- Finishing leaves nothing pending. -/
theorem drainTrace_finishing_pending (remaining : List UInt8) :
    (self.drainTrace true remaining).2 = [] := by
  induction remaining using self.scan_induction with
  | nil => simp [drainTrace]
  | pending remaining hne hunmatched => rw [self.drainTrace_partial hunmatched]; simp [hne]
  | hit remaining secret hne hunmatched hmatch ih =>
    rw [self.drainTrace_match hne hunmatched hmatch]
    exact ih
  | kept b rest hunmatched hmatch ih =>
    rw [self.drainTrace_kept hunmatched hmatch]
    exact ih

/-- A complete trace accounts for every byte of its input. -/
theorem source_trace (input : List UInt8) : source (self.trace input) = input := by
  have h := self.source_drainTrace true input
  rwa [self.drainTrace_finishing_pending, List.append_nil] at h

/-- Scanning a chunk and then what it left pending together with the later input
    is scanning all of it at once. -/
theorem drainTrace_append (finishing : Bool) (remaining later : List UInt8) :
    self.drainTrace finishing (remaining ++ later) =
      ((self.drainTrace false remaining).1 ++
          (self.drainTrace finishing ((self.drainTrace false remaining).2 ++ later)).1,
        (self.drainTrace finishing ((self.drainTrace false remaining).2 ++ later)).2) := by
  induction remaining using self.scan_induction with
  | nil => simp [drainTrace]
  | pending remaining hne hunmatched =>
    rw [self.drainTrace_partial hunmatched]
    simp
  | hit remaining secret hne hunmatched hmatch ih =>
    rw [self.drainTrace_match (by simp [hne]) (self.isPartialSecret_append hunmatched later)
      ((self.fullMatch_append hunmatched later).trans hmatch)]
    rw [self.drainTrace_match hne hunmatched hmatch]
    -- the match ends within the chunk, so dropping it leaves the later input whole
    rw [List.drop_append_of_le_length (fullMatch_mem hmatch).2.length_le, ih]
    simp
  | kept b rest hunmatched hmatch ih =>
    rw [self.drainTrace_kept hunmatched hmatch]
    have hunmatched' := self.isPartialSecret_append hunmatched later
    have hmatch' := (self.fullMatch_append hunmatched later).trans hmatch
    rw [List.cons_append] at hunmatched' hmatch' ⊢
    rw [self.drainTrace_kept hunmatched' hmatch', ih]
    simp

/-- Without new input nothing that is pending can be decided. -/
theorem drainTrace_pending (remaining : List UInt8) :
    self.drainTrace false (self.drainTrace false remaining).2 =
      ([], (self.drainTrace false remaining).2) := by
  have h := self.drainTrace_append false remaining []
  simp only [List.append_nil] at h
  have hfst := congrArg Prod.fst h
  simp only [List.self_eq_append_right] at hfst
  exact Prod.ext hfst (congrArg Prod.snd h).symm

end SecretRedactor

/-! ## Streams -/

/-- Pushing chunks on an unfinished stream scans its pending bytes and the chunks. -/
theorem StreamingRedactor.pushAll_eq (self : StreamingRedactor) (hopen : self.finished = false)
    (hpending : self.redactor.drainTrace false self.pending = ([], self.pending))
    (chunks : List (List UInt8)) :
    self.pushAll chunks = some
      (render redactionMarkerBytes
          (self.redactor.drainTrace false (self.pending ++ chunks.flatten)).1,
        { self with
          pending := (self.redactor.drainTrace false (self.pending ++ chunks.flatten)).2 }) := by
  induction chunks generalizing self with
  | nil => simp [pushAll, hpending]
  | cons chunk chunks ih =>
    have hpush : self.push chunk = some
        (render redactionMarkerBytes (self.redactor.drainTrace false (self.pending ++ chunk)).1,
          { self with
            pending := (self.redactor.drainTrace false (self.pending ++ chunk)).2 }) := by
      simp [push, hopen, drainSafe, SecretRedactor.drainLoop_eq]
    have hstable := self.redactor.drainTrace_pending (self.pending ++ chunk)
    simp only [pushAll, hpush, Option.pure_def, Option.bind_eq_bind, Option.bind_some]
    rw [ih { self with pending := (self.redactor.drainTrace false (self.pending ++ chunk)).2 }
      hopen hstable]
    have happ := self.redactor.drainTrace_append false (self.pending ++ chunk) chunks.flatten
    simp only [List.flatten_cons, ← List.append_assoc]
    rw [happ]
    simp

namespace SecretRedactor

variable (self : SecretRedactor)

theorem stream_pushAll (chunks : List (List UInt8)) :
    self.stream.pushAll chunks = some
      (render redactionMarkerBytes (self.streamTrace chunks),
        { redactor := self, pending := (self.drainTrace false chunks.flatten).2,
          finished := false }) := by
  rw [StreamingRedactor.pushAll_eq _ rfl (by simp [stream, drainTrace])]
  simp [stream, streamTrace]

theorem redactChunks_eq (chunks : List (List UInt8)) :
    self.redactChunks chunks = some (render redactionMarkerBytes (self.trace chunks.flatten)) := by
  have happ := self.drainTrace_append true chunks.flatten []
  simp only [List.append_nil] at happ
  simp [redactChunks, stream_pushAll, StreamingRedactor.finish, StreamingRedactor.drainSafe,
    drainLoop_eq, trace, streamTrace, happ]

theorem redactBytes_eq (input : List UInt8) :
    self.redactBytes input = some (render redactionMarkerBytes (self.trace input)) := by
  have h := self.redactChunks_eq [input]
  simp only [List.flatten_cons, List.flatten_nil, List.append_nil] at h
  rw [← h]
  cases hpush : self.stream.push input <;>
    simp [redactBytes, redactChunks, StreamingRedactor.pushAll, hpush]

/-- **Chunking does not matter**: pushing the chunks of an input and finishing
    the stream emits exactly the one-shot redaction, and neither panics. -/
theorem redactChunks_eq_redactBytes (chunks : List (List UInt8)) :
    ∃ output, self.redactBytes chunks.flatten = some output ∧
      self.redactChunks chunks = some output :=
  ⟨_, self.redactBytes_eq chunks.flatten, self.redactChunks_eq chunks⟩

/-! ## Occurrences of secrets -/

/-- The first byte of an occurrence of a secret is never kept. -/
theorem replacedAt_of_occurrence (hmem : secret ∈ self.secrets) (input : List UInt8) (p : Nat)
    (hocc : secret <+: input.drop p) :
    ReplacedAt (self.trace input) p := by
  have hpos : 0 < secret.length := List.length_pos_of_ne_nil (self.nonempty secret hmem)
  unfold trace
  induction input using self.scan_induction generalizing p with
  | nil =>
    have := hocc.length_le
    simp only [List.drop_nil, List.length_nil] at this
    omega
  | pending remaining hne hunmatched =>
    -- the rest of the input is one replaced run
    have hlen := hocc.length_le
    rw [List.length_drop] at hlen
    rw [self.drainTrace_partial hunmatched, if_pos ⟨rfl, hne⟩]
    exact ReplacedAt.head _ _ (by omega)
  | hit remaining found hne hunmatched hmatch ih =>
    rw [self.drainTrace_match hne hunmatched hmatch]
    by_cases hp : p < found.length
    · exact ReplacedAt.head _ _ hp
    · have htail := ih (p - found.length) (by
        rw [List.drop_drop, Nat.add_sub_cancel' (by omega)]; exact hocc)
      have hat := htail.tail (.replaced found)
      simp only [input, Nat.add_sub_cancel' (Nat.le_of_not_lt hp)] at hat
      exact hat
  | kept b rest hunmatched hmatch ih =>
    rw [self.drainTrace_kept hunmatched hmatch]
    cases p with
    | zero => exact absurd hocc ((self.fullMatch_eq_none_iff _).mp hmatch secret hmem)
    | succ p =>
      have hat := (ih p (by simpa using hocc)).tail (.kept b)
      rw [Nat.add_comm] at hat
      exact hat

/-- A stream never moves past the start of a secret whose end it has not seen,
    unless an earlier match already covers that start. -/
theorem length_streamTrace_le (hmem : secret ∈ self.secrets) (pushed : List UInt8) (p : Nat)
    (hopen : pushed.length < p + secret.length) (hocc : pushed.drop p <+: secret)
    (houtside : ¬ InsideReplaced (self.drainTrace false pushed).1 p) :
    (source (self.drainTrace false pushed).1).length ≤ p := by
  induction pushed using self.scan_induction generalizing p with
  | nil => simp [drainTrace]
  | pending remaining hne hunmatched => simp [self.drainTrace_partial hunmatched]
  | hit remaining found hne hunmatched hmatch ih =>
    rw [self.drainTrace_match hne hunmatched hmatch] at houtside ⊢
    have hfound := (fullMatch_mem hmatch).2.length_le
    by_cases hp0 : p = 0
    · -- the secret could still be completed here, so the scan would have stopped
      subst hp0
      have hwait := (self.isPartialSecret_iff remaining).mpr
        ⟨secret, hmem, by omega, by simpa using hocc⟩
      rw [hunmatched] at hwait
      cases hwait
    · by_cases hp : p < found.length
      · exact absurd (InsideReplaced.head _ _ (by omega) hp) houtside
      · have hrest := ih (p - found.length)
          (by rw [List.length_drop]; omega)
          (by rw [List.drop_drop, Nat.add_sub_cancel' (by omega)]; exact hocc)
          (by
            intro hin
            have := hin.tail (.replaced found)
            simp only [input, Nat.add_sub_cancel' (Nat.le_of_not_lt hp)] at this
            exact houtside this)
        simp only [source_cons, input, List.length_append]
        omega
  | kept b rest hunmatched hmatch ih =>
    rw [self.drainTrace_kept hunmatched hmatch] at houtside ⊢
    cases p with
    | zero =>
      have hwait := (self.isPartialSecret_iff (b :: rest)).mpr
        ⟨secret, hmem, by omega, by simpa using hocc⟩
      rw [hunmatched] at hwait
      cases hwait
    | succ p =>
      have hrest := ih p (by simp only [List.length_cons] at hopen; omega)
        (by simpa using hocc)
        (by
          intro hin
          have := hin.tail (.kept b)
          rw [Nat.add_comm] at this
          exact houtside this)
      simp only [source_cons, input, List.length_append, List.length_singleton]
      omega

/-- **No secret survives redaction.** For every chunking, the output of the
    stream and of the one-shot call is the rendering of a trace of the input in
    which every occurrence of a secret begins in a replaced run; if no secret has
    a byte of the marker, the output has no secret in it at all. After any number
    of chunks `done`, an occurrence that ends later and does not begin inside an
    earlier match begins at or after the end of what was consumed so far, so that
    no byte of it has been emitted. -/
theorem redaction_hides_secrets (chunks : List (List UInt8)) :
    (∃ output,
      self.redactBytes chunks.flatten = some output ∧
      self.redactChunks chunks = some output ∧
      output = render redactionMarkerBytes (self.trace chunks.flatten) ∧
      source (self.trace chunks.flatten) = chunks.flatten ∧
      (∀ secret ∈ self.secrets, ∀ p, secret <+: chunks.flatten.drop p →
        ReplacedAt (self.trace chunks.flatten) p) ∧
      ((∀ secret ∈ self.secrets, ∀ b ∈ secret, b ∉ redactionMarkerBytes) →
        ∀ secret ∈ self.secrets, ¬ secret <:+: output)) ∧
    (∀ done later, chunks = done ++ later →
      ∃ emitted stream,
        self.stream.pushAll done = some (emitted, stream) ∧
        emitted = render redactionMarkerBytes (self.streamTrace done) ∧
        source (self.streamTrace done) ++ stream.pending = done.flatten ∧
        ∀ secret ∈ self.secrets, ∀ p, secret <+: chunks.flatten.drop p →
          done.flatten.length < p + secret.length →
          ¬ InsideReplaced (self.streamTrace done) p →
          (source (self.streamTrace done)).length ≤ p) := by
  constructor
  · refine ⟨_, self.redactBytes_eq _, self.redactChunks_eq _, rfl, self.source_trace _, ?_, ?_⟩
    · intro secret hmem p hocc
      exact self.replacedAt_of_occurrence hmem _ p hocc
    · intro hfree secret hmem hin
      -- an occurrence in the output was kept whole, so it occurs in the input
      obtain ⟨p, hkept, hocc⟩ := exists_kept_of_infix_render (by decide)
        (self.nonempty secret hmem) (hfree secret hmem) _ hin
      rw [self.source_trace] at hocc
      exact hkept.not_replacedAt (self.replacedAt_of_occurrence hmem _ p hocc)
  · rintro done later rfl
    refine ⟨_, _, self.stream_pushAll done, rfl, self.source_drainTrace false _, ?_⟩
    intro secret hmem p hocc hopen houtside
    refine self.length_streamTrace_le hmem done.flatten p hopen ?_ houtside
    -- what was pushed of the occurrence is the part of the secret seen so far
    have hpushed : done.flatten.drop p <+: (done ++ later).flatten.drop p := by
      rw [List.flatten_append]
      exact (List.prefix_append _ _).drop p
    apply List.prefix_of_prefix_length_le hpushed hocc
    rw [List.length_drop]
    omega

end SecretRedactor

end RustFerry.Redaction
