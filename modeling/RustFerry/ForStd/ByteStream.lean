import Mathlib.Data.List.Basic

/-!
# Byte sources and sinks

`ByteSource` is a reader whose `read n` returns at most `n` bytes, an empty
answer meaning end of input; `ByteSink` is a writer. `ShortReader` is a source
over a fixed byte string that answers each call with a prefix whose length is
chosen by an arbitrary schedule, so a statement about every `ShortReader` is a
statement about every way of splitting the underlying reads.

`readExact` is the fill-the-buffer loop and `copyExact` the copy loop with a
bounded buffer; on a `ShortReader` both depend only on the bytes, never on the
schedule.

`ScriptedWriter` is a writer whose calls may take a part of what they are given, be
interrupted, or fail.
-/

/-- A failed operating-system read or write. -/
inductive IoError where
  | failed
  deriving DecidableEq

/-- A byte source. An empty answer to `read n` with `0 < n` means end of input. -/
class ByteSource (ρ : Type) where
  read : ρ → Nat → Except IoError (List UInt8 × ρ)

/-- A byte sink that either takes a whole buffer or fails. -/
class ByteSink (ω : Type) where
  writeAll : ω → List UInt8 → Except IoError ω

/-- A growing in-memory buffer never fails. -/
instance : ByteSink (List UInt8) where
  writeAll buffer bytes := .ok (buffer ++ bytes)

@[simp] theorem ByteSink.writeAll_list (buffer bytes : List UInt8) :
    ByteSink.writeAll buffer bytes = .ok (buffer ++ bytes) := rfl

/-- A source over `bytes` whose `i`-th read returns at most `schedule i` bytes
    (and at least one, while any are left). -/
structure ShortReader where
  bytes : List UInt8
  schedule : Nat → Nat
  calls : Nat

namespace ShortReader

/-- Bytes handed out by the next call that asks for `n`. -/
def count (r : ShortReader) (n : Nat) : Nat := min n (max 1 (r.schedule r.calls))

/-- The reader after `k` more bytes were taken in one call. -/
def advance (r : ShortReader) (k : Nat) : ShortReader :=
  { r with bytes := r.bytes.drop k, calls := r.calls + 1 }

instance : ByteSource ShortReader where
  read r n := .ok (r.bytes.take (r.count n), r.advance (r.count n))

theorem read_eq (r : ShortReader) (n : Nat) :
    ByteSource.read r n = .ok (r.bytes.take (r.count n), r.advance (r.count n)) := rfl

theorem count_le (r : ShortReader) (n : Nat) : r.count n ≤ n := Nat.min_le_left _ _

theorem count_pos (r : ShortReader) {n : Nat} (hn : 0 < n) : 0 < r.count n := by
  simp only [count]; omega

end ShortReader

section Loops

variable {ρ ω ε : Type} [ByteSource ρ]

/-- Read until `remaining` more bytes were stored after `filled`. `ioError` is
    reported for a failed read and `endError offset` when input ends with
    `offset` bytes stored. -/
def readExact (ioError : ε) (endError : Nat → ε) (r : ρ) (filled : List UInt8)
    (remaining : Nat) : Except ε (List UInt8 × ρ) :=
  if remaining = 0 then .ok (filled, r)
  else
    match ByteSource.read r remaining with
    | .error _ => .error ioError
    | .ok (chunk, r') =>
      if chunk.length = 0 then .error (endError filled.length)
      else readExact ioError endError r' (filled ++ chunk) (remaining - chunk.length)
termination_by remaining
decreasing_by omega

/-- Copy `remaining` bytes through a buffer of `capacity` bytes. -/
def copyExact [ByteSink ω] (ioError endError : ε) (capacity : Nat) (r : ρ) (w : ω)
    (remaining copied : Nat) : Except ε (Nat × ρ × ω) :=
  if remaining = 0 then .ok (copied, r, w)
  else
    match ByteSource.read r (min remaining capacity) with
    | .error _ => .error ioError
    | .ok (chunk, r') =>
      if chunk.length = 0 then .error endError
      else
        match ByteSink.writeAll w chunk with
        | .error _ => .error ioError
        | .ok w' =>
          copyExact ioError endError capacity r' w' (remaining - chunk.length)
            (copied + chunk.length)
termination_by remaining
decreasing_by omega

/-- Read until the input ends or `remaining` more bytes were stored after `filled`. -/
def readToEnd (ioError : ε) (r : ρ) (filled : List UInt8) (remaining : Nat) :
    Except ε (List UInt8) :=
  if remaining = 0 then .ok filled
  else
    match ByteSource.read r remaining with
    | .error _ => .error ioError
    | .ok (chunk, r') =>
      if chunk.length = 0 then .ok filled
      else readToEnd ioError r' (filled ++ chunk) (remaining - chunk.length)
termination_by remaining
decreasing_by omega

end Loops

namespace ShortReader

variable {ε : Type}

/-- `r` after taking `n` bytes in `k` calls. -/
private theorem advance_drop (r : ShortReader) (k n calls : Nat) :
    { r.advance k with bytes := (r.advance k).bytes.drop n, calls := calls } =
      { r with bytes := r.bytes.drop (k + n), calls := calls } := by
  simp [advance, List.drop_drop]

/-- A read that returns nothing only happens at end of input. -/
private theorem take_count_length_eq_zero (r : ShortReader) {n : Nat} (hn : 0 < n) :
    (r.bytes.take (r.count n)).length = 0 ↔ r.bytes = [] := by
  have hpos := r.count_pos hn
  rw [List.length_take, ← List.length_eq_zero_iff]
  omega

/-- With enough bytes left, filling a buffer takes exactly the next `n` bytes. -/
theorem readExact_ok (ioError : ε) (endError : Nat → ε) (r : ShortReader) (filled : List UInt8)
    (n : Nat) (hn : n ≤ r.bytes.length) :
    ∃ calls, readExact ioError endError r filled n =
      .ok (filled ++ r.bytes.take n, { r with bytes := r.bytes.drop n, calls := calls }) := by
  induction n using Nat.strongRecOn generalizing r filled with
  | ind n ih =>
    unfold readExact
    by_cases hdone : n = 0
    · subst hdone
      exact ⟨r.calls, by simp⟩
    · have hpos : 0 < n := Nat.pos_of_ne_zero hdone
      have hc := r.count_pos hpos
      have hle := r.count_le n
      have hlen : (r.bytes.take (r.count n)).length = r.count n := by
        rw [List.length_take]; omega
      rw [if_neg hdone]
      simp only [read_eq, hlen]
      rw [if_neg (by omega)]
      obtain ⟨calls, hrec⟩ := ih (n - r.count n) (by omega) (r.advance (r.count n))
        (filled ++ r.bytes.take (r.count n))
        (by simp only [advance, List.length_drop]; omega)
      refine ⟨calls, ?_⟩
      rw [hrec, advance_drop]
      have hsum : r.count n + (n - r.count n) = n := by omega
      have htake : r.bytes.take n =
          r.bytes.take (r.count n) ++ (r.bytes.drop (r.count n)).take (n - r.count n) := by
        rw [← List.take_add, hsum]
      simp only [advance, hsum, List.append_assoc, htake]

/-- With too few bytes left, filling a buffer reports the end of input and the
    number of bytes stored so far. -/
theorem readExact_short (ioError : ε) (endError : Nat → ε) (r : ShortReader)
    (filled : List UInt8) (n : Nat) (hn : r.bytes.length < n) :
    readExact ioError endError r filled n =
      .error (endError (filled.length + r.bytes.length)) := by
  induction n using Nat.strongRecOn generalizing r filled with
  | ind n ih =>
    unfold readExact
    have hpos : 0 < n := by omega
    rw [if_neg (by omega)]
    simp only [read_eq]
    by_cases hend : (r.bytes.take (r.count n)).length = 0
    · have hnil := (r.take_count_length_eq_zero hpos).mp hend
      simp [hnil]
    · rw [if_neg hend, ih _ (by omega) _ _
        (by simp only [advance, List.length_drop, List.length_take] at *; omega)]
      simp only [advance, List.length_append, List.length_take, List.length_drop]
      congr 2
      omega

/-- With enough bytes left, the copy loop moves exactly the next `n` bytes. -/
theorem copyExact_ok (ioError endError : ε) (capacity : Nat) (hcap : 0 < capacity)
    (r : ShortReader) (w : List UInt8) (n copied : Nat) (hn : n ≤ r.bytes.length) :
    ∃ calls, copyExact ioError endError capacity r w n copied =
      .ok (copied + n, { r with bytes := r.bytes.drop n, calls := calls },
        w ++ r.bytes.take n) := by
  induction n using Nat.strongRecOn generalizing r w copied with
  | ind n ih =>
    unfold copyExact
    by_cases hdone : n = 0
    · subst hdone
      exact ⟨r.calls, by simp⟩
    · have hchunk : 0 < min n capacity := by omega
      have hc := r.count_pos hchunk
      have hle := r.count_le (min n capacity)
      have hlen : (r.bytes.take (r.count (min n capacity))).length = r.count (min n capacity) := by
        rw [List.length_take]; omega
      rw [if_neg hdone]
      simp only [read_eq, ByteSink.writeAll_list, hlen]
      rw [if_neg (by omega)]
      obtain ⟨calls, hrec⟩ := ih (n - r.count (min n capacity)) (by omega)
        (r.advance (r.count (min n capacity))) (w ++ r.bytes.take (r.count (min n capacity)))
        (copied + r.count (min n capacity))
        (by simp only [advance, List.length_drop]; omega)
      refine ⟨calls, ?_⟩
      rw [hrec, advance_drop]
      have hsum : r.count (min n capacity) + (n - r.count (min n capacity)) = n := by omega
      have htake : r.bytes.take n = r.bytes.take (r.count (min n capacity)) ++
          (r.bytes.drop (r.count (min n capacity))).take (n - r.count (min n capacity)) := by
        rw [← List.take_add, hsum]
      simp only [advance, hsum, List.append_assoc, htake, Nat.add_assoc]

/-- With too few bytes left, the copy loop reports the end of input. -/
theorem copyExact_short (ioError endError : ε) (capacity : Nat) (hcap : 0 < capacity)
    (r : ShortReader) (w : List UInt8) (n copied : Nat) (hn : r.bytes.length < n) :
    copyExact ioError endError capacity r w n copied = .error endError := by
  induction n using Nat.strongRecOn generalizing r w copied with
  | ind n ih =>
    unfold copyExact
    have hchunk : 0 < min n capacity := by omega
    rw [if_neg (by omega)]
    simp only [read_eq, ByteSink.writeAll_list]
    by_cases hend : (r.bytes.take (r.count (min n capacity))).length = 0
    · rw [if_pos hend]
    · rw [if_neg hend]
      exact ih _ (by omega) _ _ _
        (by simp only [advance, List.length_drop, List.length_take] at *; omega)

/-- Reading to the end takes everything up to the limit. -/
theorem readToEnd_eq (ioError : ε) (r : ShortReader) (filled : List UInt8) (n : Nat) :
    readToEnd ioError r filled n = .ok (filled ++ r.bytes.take n) := by
  induction n using Nat.strongRecOn generalizing r filled with
  | ind n ih =>
    unfold readToEnd
    by_cases hdone : n = 0
    · rw [if_pos hdone, hdone]
      simp
    · have hpos : 0 < n := Nat.pos_of_ne_zero hdone
      have hc := r.count_pos hpos
      have hle := r.count_le n
      rw [if_neg hdone]
      simp only [read_eq]
      by_cases hend : (r.bytes.take (r.count n)).length = 0
      · have hnil := (r.take_count_length_eq_zero hpos).mp hend
        simp [hnil]
      · rw [if_neg hend, ih _ (by omega)]
        have hlength : (r.bytes.take (r.count n)).length = min (r.count n) r.bytes.length :=
          List.length_take
        by_cases hfew : r.bytes.length ≤ r.count n
        · -- the last read takes what is left
          have hrest : r.bytes.drop (r.count n) = [] := List.drop_eq_nil_iff.mpr hfew
          rw [advance, hrest, List.take_nil, List.append_nil, List.take_of_length_le hfew,
            List.take_of_length_le (by omega)]
        · have hsum : n = r.count n + (n - r.count n) := by omega
          have htake : r.bytes.take n =
              r.bytes.take (r.count n) ++ (r.bytes.drop (r.count n)).take (n - r.count n) := by
            rw [← List.take_add, ← hsum]
          rw [hlength, Nat.min_eq_left (by omega), advance, htake, List.append_assoc]

end ShortReader

/-! ## Writers that take their time -/

/-- What one call of `write` answers: how many bytes it has taken, or why it has taken none. -/
inductive WriteAnswer where
  | accepted (n : Nat)
  | interrupted
  | failed
  deriving DecidableEq

/-- A writer with what it has taken and what its next calls answer; after those it takes
    whatever it is given. -/
structure ScriptedWriter where
  written : List UInt8
  answers : List WriteAnswer
  deriving DecidableEq

namespace ScriptedWriter

/-- The loop of `write_all`. -/
def writeAllFrom : List WriteAnswer → (written bytes : List UInt8) →
    Except IoError Unit × ScriptedWriter
  | answers, written, [] => (.ok (), ⟨written, answers⟩)
  | [], written, bytes => (.ok (), ⟨written ++ bytes, []⟩)
  | .accepted n :: answers, written, bytes =>
    if n = 0 then (.error .failed, ⟨written, answers⟩)
    else writeAllFrom answers (written ++ bytes.take n) (bytes.drop n)
  | .interrupted :: answers, written, bytes => writeAllFrom answers written bytes
  | .failed :: answers, written, _ => (.error .failed, ⟨written, answers⟩)

def writeAll (w : ScriptedWriter) (bytes : List UInt8) : Except IoError Unit × ScriptedWriter :=
  writeAllFrom w.answers w.written bytes

/-- After success all bytes are written. -/
private theorem written_of_writeAllFrom {answers : List WriteAnswer} {written bytes : List UInt8}
    (h : (writeAllFrom answers written bytes).1 = .ok ()) :
    (writeAllFrom answers written bytes).2.written = written ++ bytes := by
  induction answers generalizing written bytes with
  | nil =>
    cases bytes with
    | nil => simp [writeAllFrom]
    | cons b bytes => rfl
  | cons answer answers ih =>
    cases bytes with
    | nil => simp [writeAllFrom]
    | cons b bytes =>
      cases answer with
      | failed => cases h
      | interrupted => exact ih h
      | accepted n =>
        rw [writeAllFrom] at h ⊢
        · by_cases hzero : n = 0
          · rw [if_pos hzero] at h
            cases h
          · rw [if_neg hzero] at h ⊢
            rw [ih h, List.append_assoc, List.take_append_drop]
        all_goals exact nofun

/-- A writer that answers that everything was written has taken everything. -/
theorem written_of_writeAll {w w' : ScriptedWriter} {bytes : List UInt8}
    (h : w.writeAll bytes = (.ok (), w')) : w'.written = w.written ++ bytes := by
  have hwritten := @written_of_writeAllFrom w.answers w.written bytes (by
    rw [← writeAll, h])
  rw [← writeAll, h] at hwritten
  exact hwritten

end ScriptedWriter
