import RustFerry.ForStd.List

/-!
# Secret redaction

Central exact-value redactor for command output and protocol diagnostics
(`crates/rustferry-remote/src/redaction.rs`). A stream withholds a possible
secret prefix until more input arrives or the stream is finished.
-/

namespace RustFerry.Redaction

/-- Stable marker used in sanitized command output and protocol diagnostics. -/
def redactionMarker : String := "<redacted>"

/-- `REDACTION_MARKER.as_bytes()`. -/
def redactionMarkerBytes : List UInt8 :=
  redactionMarker.toList.map fun c => c.toNat.toUInt8

/-- Failure to configure the central redactor. -/
inductive RedactionError where
  | emptySecret

/-- Registered patterns. `registerBytes` is the only way in, so no pattern is empty. -/
structure SecretRedactor where
  secrets : List (List UInt8)
  nonempty : ∀ secret ∈ secrets, secret ≠ []

namespace SecretRedactor

/-- A redactor with no registered values. -/
def new : SecretRedactor := ⟨[], by simp⟩

def registerBytes (self : SecretRedactor) (secret : List UInt8) :
    Except RedactionError SecretRedactor :=
  if h : secret = [] then .error .emptySecret
  else if self.secrets.any (· == secret) then .ok self
  else .ok
    { secrets := self.secrets ++ [secret]
      nonempty := by
        intro s hs
        rcases List.mem_append.mp hs with hs | hs
        · exact self.nonempty s hs
        · rw [List.mem_singleton.mp hs]; exact h }

/-- Some secret is longer than what is left and starts with it. -/
def isPartialSecret (self : SecretRedactor) (remaining : List UInt8) : Bool :=
  self.secrets.any fun secret =>
    secret.length > remaining.length && remaining.isPrefixOf secret

/-- The longest secret that starts here. -/
def fullMatch (self : SecretRedactor) (remaining : List UInt8) : Option (List UInt8) :=
  (self.secrets.filter fun secret => secret.isPrefixOf remaining).maxByKey List.length

theorem fullMatch_mem {self : SecretRedactor} {remaining secret : List UInt8}
    (h : self.fullMatch remaining = some secret) :
    secret ∈ self.secrets ∧ secret <+: remaining := by
  have hmem := List.mem_of_maxByKey h
  rw [List.mem_filter, List.isPrefixOf_iff_prefix] at hmem
  exact hmem

/-- A match consumes at least one byte: this is what makes the loop end. -/
theorem fullMatch_length_pos {self : SecretRedactor} {remaining secret : List UInt8}
    (h : self.fullMatch remaining = some secret) : 0 < secret.length :=
  List.length_pos_of_ne_nil (self.nonempty secret (fullMatch_mem h).1)

/-- The loop of `drain_safe`: `remaining` is `self.pending[consumed..]`. Returns
    the output and what stays pending. -/
def drainLoop (self : SecretRedactor) (finishing : Bool) (output remaining : List UInt8) :
    List UInt8 × List UInt8 :=
  match remaining with
  | [] => (output, [])
  | b :: rest =>
    let mustWait := !finishing && self.isPartialSecret (b :: rest)
    if mustWait then
      (output, b :: rest)
    -- a secret that was cut off by the end is hidden, too
    else if finishing && self.isPartialSecret (b :: rest) then
      self.drainLoop finishing (output ++ redactionMarkerBytes)
        ((b :: rest).drop (b :: rest).length)
    else
      match _h : self.fullMatch (b :: rest) with
      | some secret =>
        self.drainLoop finishing (output ++ redactionMarkerBytes)
          ((b :: rest).drop secret.length)
      | none => self.drainLoop finishing (output ++ [b]) rest
termination_by remaining.length
decreasing_by
  · simp
  · have := fullMatch_length_pos _h
    simp only [List.length_drop, List.length_cons]
    omega
  · simp

end SecretRedactor

/-- Chunk-safe redaction state for one byte stream. -/
structure StreamingRedactor where
  redactor : SecretRedactor
  pending : List UInt8
  finished : Bool

namespace StreamingRedactor

def drainSafe (self : StreamingRedactor) (finishing : Bool) :
    List UInt8 × StreamingRedactor :=
  let (output, pending) := self.redactor.drainLoop finishing [] self.pending
  (output, { self with pending })

/-- Redact one chunk, returning only bytes safe to emit immediately; `none` is
    the panic after `finish`. -/
def push (self : StreamingRedactor) (chunk : List UInt8) :
    Option (List UInt8 × StreamingRedactor) :=
  if self.finished then none
  else some ({ self with pending := self.pending ++ chunk }.drainSafe false)

/-- Flush the final buffered bytes and mark the stream complete. -/
def finish (self : StreamingRedactor) : List UInt8 × StreamingRedactor :=
  if self.finished then ([], self)
  else { self with finished := true }.drainSafe true

/-- A caller's loop over the chunks of one stream. -/
def pushAll (self : StreamingRedactor) :
    List (List UInt8) → Option (List UInt8 × StreamingRedactor)
  | [] => some ([], self)
  | chunk :: chunks => do
    let (output, self) ← self.push chunk
    let (more, self) ← self.pushAll chunks
    return (output ++ more, self)

end StreamingRedactor

namespace SecretRedactor

/-- An independent chunk-safe stream redactor. -/
def stream (self : SecretRedactor) : StreamingRedactor :=
  { redactor := self, pending := [], finished := false }

/-- Redact registered values from one complete byte buffer. -/
def redactBytes (self : SecretRedactor) (input : List UInt8) : Option (List UInt8) := do
  let (output, stream) ← self.stream.push input
  return output ++ stream.finish.1

/-- Push every chunk on a fresh stream, then finish it. -/
def redactChunks (self : SecretRedactor) (chunks : List (List UInt8)) :
    Option (List UInt8) := do
  let (output, stream) ← self.stream.pushAll chunks
  return output ++ stream.finish.1

end SecretRedactor

end RustFerry.Redaction
