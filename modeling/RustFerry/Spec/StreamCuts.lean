import Mathlib.Data.List.TakeWhile
import RustFerry.Native.NdjsonDecoder

/-!
# Events and the cuts of the pipe

A stream is read line by line: the events before the first line that fails, and then its code.
The decoder gives just this for most ways of cutting the stream into chunks. It loses the events that
are completed in the same chunk as the failure, and it rejects a line of exactly the limit when a
chunk ends between its carriage return and its line feed.
-/

namespace RustFerry.Extension

open Except

namespace NdjsonDecoder

variable (engine : Engine) (maxLineBytes : LineLimit)

/-! ## The whole stream -/

/-- How a stream ends whose lines have all been read. -/
def tailEnd (tail : List Char) : StreamEnd :=
  if byteLength tail > maxLineBytes.bytes then .failed "protocol.line_too_large"
  else if isBlank tail then .finished
  else .failed "protocol.truncated"

/-- The events before the first line that fails, and how the stream ends. -/
def readLines : List (List Char) → List Char → List Event × StreamEnd
  | [], tail => ([], tailEnd maxLineBytes tail)
  | raw :: raws, tail =>
    match decodeLine engine maxLineBytes raw with
    | .error e => ([], .failed e.code)
    | .ok events => (events ++ (readLines raws tail).1, (readLines raws tail).2)

/-- The text of a stream; `after` is what the decoder of the bytes adds at the end. -/
def readText (text after : List Char) : List Event × StreamEnd :=
  readLines engine maxLineBytes (Text.lines text) (Text.lastLine text ++ after)

/-- What the decoder of the bytes adds at the end of a stream. -/
def afterText (bytes : List UInt8) : List Char :=
  engine.stringDecoder.finish (engine.stringDecoder.write engine.stringDecoder.start bytes).1

def readStream (bytes : List UInt8) : List Event × StreamEnd :=
  readText engine maxLineBytes
    (engine.stringDecoder.write engine.stringDecoder.start bytes).2 (afterText engine bytes)

/-! ## The condition -/

/-- The line is read without an error. -/
def passes (raw : List Char) : Bool := (decodeLine engine maxLineBytes raw).toBool

/-- No line of the text fails, and what follows the last of them is not too large. -/
def Fine (text : List Char) : Prop :=
  (∀ raw ∈ Text.lines text, passes engine maxLineBytes raw = true) ∧
    byteLength (Text.lastLine text) ≤ maxLineBytes.bytes

/-- The lines before the first that fails are blank. -/
def Eventless (text : List Char) : Prop :=
  ∀ raw ∈ (Text.lines text).takeWhile (passes engine maxLineBytes),
    isBlank (withoutReturn raw) = true

/-- The text is a line of exactly the limit with its carriage return, and the line feed is next. -/
def CutReturn (text next : List Char) : Prop :=
  ∃ line, text = line ++ ['\r'] ∧ byteLength line = maxLineBytes.bytes ∧ next.head? = some '\n'

/-- After blank lines comes one that is too large. -/
def BlankUntilTooLarge : List (List Char) → List Char → Prop
  | [], tail => maxLineBytes.bytes < byteLength tail
  | raw :: raws, tail =>
    maxLineBytes.bytes < byteLength (withoutReturn raw) ∨
      (isBlank (withoutReturn raw) = true ∧ BlankUntilTooLarge raws tail)

/-- In the first chunk that is not fine no event is completed before the failure; and if it ends
    between the carriage return and the line feed of a line of exactly the limit, the stream has
    only blank lines from there up to one that is too large. -/
def Keeps (after : List Char) : List Char → List (List Char) → Prop
  | _, [] => True
  | pending, text :: texts =>
    (Fine engine maxLineBytes (pending ++ text) →
      Keeps after (Text.lastLine (pending ++ text)) texts) ∧
    (¬ Fine engine maxLineBytes (pending ++ text) →
      Eventless engine maxLineBytes (pending ++ text) ∧
        ((∀ raw ∈ Text.lines (pending ++ text), passes engine maxLineBytes raw = true) →
          CutReturn maxLineBytes (Text.lastLine (pending ++ text)) texts.flatten →
          BlankUntilTooLarge maxLineBytes
            (Text.lines (Text.lastLine (pending ++ text) ++ texts.flatten))
            (Text.lastLine (Text.lastLine (pending ++ text) ++ texts.flatten) ++ after)))

/-- The condition on the chunks of a stream. -/
def KeepsEvents (chunks : List (List UInt8)) : Prop :=
  Keeps engine maxLineBytes (afterText engine chunks.flatten) []
    (engine.stringDecoder.texts engine.stringDecoder.start chunks)

/-! ## Lines -/

variable {engine : Engine} {maxLineBytes : LineLimit}

/-- Bytes of a concatenation. -/
theorem byteLength_append (a b : List Char) : byteLength (a ++ b) = byteLength a + byteLength b := by
  simp [byteLength]

theorem byteLength_pos {text : List Char} (h : text ≠ []) : 0 < byteLength text := by
  cases text with
  | nil => exact absurd rfl h
  | cons c rest =>
    have hc := Char.utf8Size_pos c
    simp only [byteLength, List.map_cons, List.sum_cons]
    omega

/-- A line within the limit. -/
theorem assertBounded_of_le {line : List Char} (h : byteLength line ≤ maxLineBytes.bytes) :
    assertBounded maxLineBytes line = .ok () := by
  simpa [assertBounded] using h

theorem assertBounded_of_lt {line : List Char} (h : maxLineBytes.bytes < byteLength line) :
    ∃ message, assertBounded maxLineBytes line =
      .error ⟨message, "protocol.line_too_large"⟩ := by
  rw [assertBounded, rejectIf, if_pos (decide_eq_true h)]
  exact ⟨_, rfl⟩

/-- The errors of an event have their own codes. -/
theorem code_of_parseProtocolEvent (source : List Char) :
    FailsWith (fun e : ProtocolError => e.code ≠ "protocol.line_too_large")
      (parseProtocolEvent engine source) := by
  have hinvalid : ∀ message, (ProtocolError.invalid message).code ≠ "protocol.line_too_large" := by
    intro message
    show "protocol.invalid" ≠ _
    decide
  have hstring : ∀ value name, FailsWith (fun e : ProtocolError =>
      e.code ≠ "protocol.line_too_large") (requireString value name) := by
    intro value name
    unfold requireString
    split
    · exact failsWith_ok ()
    · exact failsWith_error (hinvalid _)
  -- each check of the parser in turn, none with that code
  unfold parseProtocolEvent
  apply FailsWith.bind
  · unfold parseJsonObject
    split
    · exact failsWith_error (hinvalid _)
    · exact failsWith_ok _
    · exact failsWith_error (hinvalid _)
  · intro value
    apply FailsWith.bind
    · unfold assertProtocolVersion
      split
      · apply failsWith_rejectIf
        show "protocol.incompatible" ≠ "protocol.line_too_large"
        decide
      · apply failsWith_error
        show "protocol.incompatible" ≠ "protocol.line_too_large"
        decide
    · intro _
      apply (hstring _ _).bind
      intro _
      apply (hstring _ _).bind
      intro _
      apply FailsWith.bind
      · unfold requireNumber
        split
        · exact failsWith_ok ()
        · exact failsWith_error (hinvalid _)
      · intro _
        apply FailsWith.bind
        · unfold forSome
          split
          · exact failsWith_ok ()
          · exact hstring _ _
        · exact fun _ => failsWith_ok _

theorem decodeLine_of_lt {raw : List Char}
    (h : maxLineBytes.bytes < byteLength (withoutReturn raw)) :
    ∃ message, decodeLine engine maxLineBytes raw =
      .error ⟨message, "protocol.line_too_large"⟩ := by
  obtain ⟨message, hbounded⟩ := assertBounded_of_lt h
  refine ⟨message, ?_⟩
  rw [decodeLine, hbounded]
  rfl

theorem decodeLine_of_blank {raw : List Char}
    (h : byteLength (withoutReturn raw) ≤ maxLineBytes.bytes)
    (hblank : isBlank (withoutReturn raw) = true) :
    decodeLine engine maxLineBytes raw = .ok [] := by
  rw [decodeLine, assertBounded_of_le h]
  show (if isBlank (withoutReturn raw) then _ else _) = _
  rw [if_pos hblank]
  rfl

theorem decodeLine_of_event {raw : List Char}
    (h : byteLength (withoutReturn raw) ≤ maxLineBytes.bytes)
    (hblank : isBlank (withoutReturn raw) = false) :
    decodeLine engine maxLineBytes raw =
      (parseProtocolEvent engine (withoutReturn raw)).map ([·]) := by
  rw [decodeLine, assertBounded_of_le h]
  show (if isBlank (withoutReturn raw) then _ else _) = _
  rw [hblank, if_neg Bool.false_ne_true]
  cases parseProtocolEvent engine (withoutReturn raw) with
  | error e => rfl
  | ok event => rfl

/-- A line that passes has no event exactly when it is blank. -/
theorem eq_nil_iff_of_decodeLine {raw : List Char} {events : List Event}
    (h : decodeLine engine maxLineBytes raw = .ok events) :
    events = [] ↔ isBlank (withoutReturn raw) = true := by
  by_cases hlarge : maxLineBytes.bytes < byteLength (withoutReturn raw)
  · obtain ⟨message, herror⟩ := @decodeLine_of_lt engine _ _ hlarge
    rw [herror] at h
    cases h
  · by_cases hblank : isBlank (withoutReturn raw) = true
    · rw [decodeLine_of_blank (by omega) hblank] at h
      simp [← Except.ok.inj h, hblank]
    · rw [decodeLine_of_event (by omega) (Bool.eq_false_iff.mpr hblank)] at h
      cases hevent : parseProtocolEvent engine (withoutReturn raw) with
      | error e =>
        rw [hevent] at h
        cases h
      | ok event =>
        rw [hevent] at h
        simp [← Except.ok.inj h, hblank]

/-- When a stream ends without an event. -/
theorem readLines_eq_iff {raws : List (List Char)} {tail : List Char} :
    readLines engine maxLineBytes raws tail = ([], .failed "protocol.line_too_large") ↔
      BlankUntilTooLarge maxLineBytes raws tail := by
  induction raws with
  | nil =>
    rw [readLines, tailEnd, BlankUntilTooLarge]
    by_cases hlarge : byteLength tail > maxLineBytes.bytes
    · simp [hlarge]
    · by_cases hblank : isBlank tail = true
      · simp [hlarge, hblank]
      · simp [hlarge, hblank]
  | cons raw raws ih =>
    rw [readLines, BlankUntilTooLarge]
    by_cases hlarge : maxLineBytes.bytes < byteLength (withoutReturn raw)
    · obtain ⟨message, herror⟩ := @decodeLine_of_lt engine _ _ hlarge
      simp [herror, hlarge]
    · by_cases hblank : isBlank (withoutReturn raw) = true
      · rw [decodeLine_of_blank (by omega) hblank, ← ih]
        simp [hlarge, hblank]
      · rw [decodeLine_of_event (by omega) (Bool.eq_false_iff.mpr hblank)]
        -- an event, or an error with another code
        cases hevent : parseProtocolEvent engine (withoutReturn raw) with
        | error e =>
          have hcode := code_of_parseProtocolEvent _ e hevent
          simp [Except.map, hlarge, hblank, hcode]
        | ok event => simp [Except.map, hlarge, hblank]

/-! ## One chunk -/

/-- All lines pass, or they do up to the first that fails. -/
theorem mapM_decodeLine_cases (raws : List (List Char)) :
    (∃ events, raws.mapM (decodeLine engine maxLineBytes) = .ok events ∧
      (∀ raw ∈ raws, passes engine maxLineBytes raw = true) ∧
      (events.flatten = [] ↔ ∀ raw ∈ raws, isBlank (withoutReturn raw) = true) ∧
      ∀ more tail, readLines engine maxLineBytes (raws ++ more) tail =
        (events.flatten ++ (readLines engine maxLineBytes more tail).1,
          (readLines engine maxLineBytes more tail).2)) ∨
    ∃ e events, raws.mapM (decodeLine engine maxLineBytes) = .error e ∧
      (¬ ∀ raw ∈ raws, passes engine maxLineBytes raw = true) ∧
      (events = [] ↔ ∀ raw ∈ raws.takeWhile (passes engine maxLineBytes),
        isBlank (withoutReturn raw) = true) ∧
      ∀ more tail, readLines engine maxLineBytes (raws ++ more) tail = (events, .failed e.code) := by
  induction raws with
  | nil =>
    refine Or.inl ⟨[], rfl, ?_, ?_, ?_⟩
    · simp
    · simp
    · intro more tail
      rfl
  | cons raw raws ih =>
    -- the first line that fails ends both runs
    cases hraw : decodeLine engine maxLineBytes raw with
    | error e =>
      have hfails : passes engine maxLineBytes raw = false := by rw [passes, hraw]; rfl
      refine Or.inr ⟨e, [], ?_, ?_, ?_, ?_⟩
      · rw [List.mapM_cons, hraw]
        rfl
      · intro hall
        rw [hall raw List.mem_cons_self] at hfails
        cases hfails
      · simp [hfails]
      · intro more tail
        rw [List.cons_append, readLines, hraw]
    | ok here =>
      have hpasses : passes engine maxLineBytes raw = true := by rw [passes, hraw]; rfl
      have hblank := eq_nil_iff_of_decodeLine hraw
      cases ih with
      | inl hfine =>
        obtain ⟨events, hmap, hall, hnil, hread⟩ := hfine
        refine Or.inl ⟨here :: events, ?_, ?_, ?_, ?_⟩
        · rw [List.mapM_cons, hraw, hmap]
          rfl
        · simpa [hpasses] using hall
        · rw [List.flatten_cons, List.append_eq_nil_iff, hblank, hnil, List.forall_mem_cons]
        · intro more tail
          rw [List.cons_append, readLines, hraw, hread, List.flatten_cons, List.append_assoc]
      | inr hfails =>
        obtain ⟨e, events, hmap, hall, hnil, hread⟩ := hfails
        refine Or.inr ⟨e, here ++ events, ?_, ?_, ?_, ?_⟩
        · rw [List.mapM_cons, hraw, hmap]
          rfl
        · simpa [hpasses] using hall
        · rw [List.takeWhile_cons_of_pos hpasses, List.append_eq_nil_iff, hblank, hnil,
            List.forall_mem_cons]
        · intro more tail
          rw [List.cons_append, readLines, hraw, hread]

/-- A text of blank lines. -/
theorem eventless_iff {text : List Char}
    (h : ∀ raw ∈ Text.lines text, passes engine maxLineBytes raw = true) :
    Eventless engine maxLineBytes text ↔
      ∀ raw ∈ Text.lines text, isBlank (withoutReturn raw) = true := by
  rw [Eventless, List.takeWhile_eq_self_iff.mpr h]

/-- A line that was too large at a cut is too large, unless only its carriage return was. -/
theorem readText_of_lt {pending next after : List Char} (hfree : '\n' ∉ pending)
    (hlarge : maxLineBytes.bytes < byteLength pending) (hcut : ¬ CutReturn maxLineBytes pending next) :
    readText engine maxLineBytes (pending ++ next) after =
      ([], .failed "protocol.line_too_large") := by
  rw [readText, readLines_eq_iff]
  cases Text.newline_cases next with
  | inl hnext =>
    have hwhole : '\n' ∉ pending ++ next := by simp [hfree, hnext]
    rw [Text.lines_of_free hwhole, Text.lastLine_of_free hwhole, BlankUntilTooLarge,
      byteLength_append, byteLength_append]
    omega
  | inr hnext =>
    obtain ⟨front, rest, hfront, rfl⟩ := hnext
    have hline : '\n' ∉ pending ++ front := by simp [hfree, hfront]
    rw [← List.append_assoc, Text.lines_append_newline hline, BlankUntilTooLarge]
    left
    by_cases hreturn : (pending ++ front).getLast? = some '\r'
    · rw [withoutReturn, if_pos hreturn]
      obtain ⟨line, hsplit⟩ := List.getLast?_eq_some_iff.mp hreturn
      have hsize := congrArg byteLength hsplit
      have hone : byteLength ['\r'] = 1 := by decide
      rw [byteLength_append, byteLength_append, hone] at hsize
      rw [hsplit, List.dropLast_concat]
      by_cases hempty : front = []
      · -- the carriage return is the last character before the cut
        rw [hempty, List.append_nil] at hsplit
        have hfull : byteLength line ≠ maxLineBytes.bytes := by
          intro heq
          exact hcut ⟨line, hsplit, heq, by rw [hempty]; rfl⟩
        omega
      · have hpos := byteLength_pos hempty
        omega
    · rw [withoutReturn, if_neg hreturn, byteLength_append]
      omega

/-- After the last chunk only the end of the stream is left. -/
theorem receive_nil {self : NdjsonDecoder engine} (hopen : self.finished = false)
    (hfree : '\n' ∉ self.pending) :
    receive maxLineBytes self [] =
      readText engine maxLineBytes self.pending (engine.stringDecoder.finish self.decoder) := by
  rw [readText, Text.lines_of_free hfree, Text.lastLine_of_free hfree, readLines, receive, finish,
    hopen, tailEnd]
  generalize self.pending ++ engine.stringDecoder.finish self.decoder = tail
  simp only [Bool.false_eq_true, if_false]
  by_cases hlarge : maxLineBytes.bytes < byteLength tail
  · obtain ⟨message, herror⟩ := assertBounded_of_lt hlarge
    rw [if_pos hlarge, herror]
    rfl
  · rw [if_neg hlarge, assertBounded_of_le (by omega)]
    cases hblank : isBlank tail with
    | true => rfl
    | false => rfl

/-! ## A run -/

/-- Nothing is nothing and nothing. -/
theorem eq_append_iff {events : List Event} {rest : List Event × StreamEnd} {stop : StreamEnd} :
    (([], stop) : List Event × StreamEnd) = (events ++ rest.1, rest.2) ↔
      events = [] ∧ ([], stop) = rest := by
  obtain ⟨others, last⟩ := rest
  simp only [Prod.mk.injEq, List.nil_eq, List.append_eq_nil_iff, and_assoc]

/-- The same events before two rests. -/
theorem append_pair_inj {events : List Event} {left right : List Event × StreamEnd} :
    (events ++ left.1, left.2) = (events ++ right.1, right.2) ↔ left = right := by
  obtain ⟨_, _⟩ := left
  obtain ⟨_, _⟩ := right
  simp

/-- A run reads the rest of the stream, from any state that is not finished, exactly when the
    chunks keep its events. -/
theorem receive_eq_iff {self : NdjsonDecoder engine} (hopen : self.finished = false)
    (hfree : '\n' ∉ self.pending) (chunks : List (List UInt8)) :
    receive maxLineBytes self chunks =
        readText engine maxLineBytes
          (self.pending ++ (engine.stringDecoder.write self.decoder chunks.flatten).2)
          (engine.stringDecoder.finish
            (engine.stringDecoder.write self.decoder chunks.flatten).1) ↔
      Keeps engine maxLineBytes
        (engine.stringDecoder.finish
          (engine.stringDecoder.write self.decoder chunks.flatten).1)
        self.pending (engine.stringDecoder.texts self.decoder chunks) := by
  induction chunks generalizing self with
  | nil =>
    rw [List.flatten_nil, engine.stringDecoder.write_nil, List.append_nil, receive_nil hopen hfree]
    simp [Text.IncrementalDecoder.texts, Keeps]
  | cons chunk chunks ih =>
    rw [List.flatten_cons, engine.stringDecoder.write_append, Text.IncrementalDecoder.texts, Keeps,
      Text.IncrementalDecoder.flatten_texts, ← List.append_assoc]
    cases hwrite : engine.stringDecoder.write self.decoder chunk with
    | mk decoder text =>
      have hpush : push maxLineBytes self chunk =
          ((Text.lines (self.pending ++ text)).mapM (decodeLine engine maxLineBytes) >>=
            fun events => assertBounded maxLineBytes (Text.lastLine (self.pending ++ text)) >>=
              fun _ => .ok ({ self with
                decoder := decoder, pending := Text.lastLine (self.pending ++ text) },
                events.flatten)) := by
        rw [push, hopen, hwrite]
        rfl
      simp only [receive, hpush]
      generalize self.pending ++ text = whole at *
      have hnext := Text.newline_notMem_lastLine whole
      rw [readText, Text.lines_append, Text.lastLine_append]
      cases @mapM_decodeLine_cases engine maxLineBytes (Text.lines whole) with
      | inr hfails =>
        -- a line of this chunk fails
        obtain ⟨e, events, hmap, hall, hnil, hread⟩ := hfails
        have hbad : ¬ Fine engine maxLineBytes whole := fun hfine => hall hfine.1
        rw [hmap, hread]
        simp only [hbad, false_implies, true_and, not_false_eq_true, true_implies, hall, and_true]
        rw [Eventless, ← hnil]
        show (([] : List Event), StreamEnd.failed e.code) = _ ↔ _
        rw [Prod.mk.injEq]
        simp [eq_comm]
      | inl hpasses =>
        obtain ⟨events, hmap, hall, hnil, hread⟩ := hpasses
        rw [hmap, hread, eventless_iff hall, ← hnil]
        by_cases hlarge : maxLineBytes.bytes < byteLength (Text.lastLine whole)
        · -- what is left is too large, here or in the whole stream
          have hbad : ¬ Fine engine maxLineBytes whole := fun hfine => absurd hfine.2 (by omega)
          obtain ⟨message, herror⟩ := assertBounded_of_lt hlarge
          simp only [hbad, false_implies, true_and, not_false_eq_true, true_implies, bind, Except.bind,
            herror]
          rw [← readLines_eq_iff, ← readText, eq_append_iff]
          apply and_congr_right
          intro _
          by_cases hcut : CutReturn maxLineBytes (Text.lastLine whole)
            (engine.stringDecoder.write decoder chunks.flatten).2
          · simp only [hcut, true_implies]
            constructor
            · intro h _
              exact h.symm
            · intro h
              exact (h hall).symm
          · rw [readText_of_lt hnext hlarge hcut]
            simp [hcut]
        · -- the run goes on from the last line
          have hfine : Fine engine maxLineBytes whole := ⟨hall, by omega⟩
          have hbounded : assertBounded maxLineBytes (Text.lastLine whole) = .ok () :=
            assertBounded_of_le (by omega)
          simp only [hfine, true_implies, not_true_eq_false, false_implies, and_true]
          have hrun := @ih { self with decoder, pending := Text.lastLine whole } hopen hnext
          rw [← hrun]
          simp only [bind, Except.bind, hbounded]
          rw [← readText, append_pair_inj]

/-- A stream that is cut into chunks gives the events and the end of the whole stream exactly when
    the chunks keep its events; two cuts of a stream, one of which keeps them, agree exactly when
    the other one does, too. -/
theorem cuts_agree_iff (engine : Engine) (maxLineBytes : LineLimit) (chunks : List (List UInt8)) :
    (receive maxLineBytes (new engine) chunks = readStream engine maxLineBytes chunks.flatten ↔
        KeepsEvents engine maxLineBytes chunks) ∧
      ∀ chunks', chunks'.flatten = chunks.flatten → KeepsEvents engine maxLineBytes chunks →
        (receive maxLineBytes (new engine) chunks' = receive maxLineBytes (new engine) chunks ↔
          KeepsEvents engine maxLineBytes chunks') := by
  have hread : ∀ chunks, receive maxLineBytes (new engine) chunks =
      readStream engine maxLineBytes chunks.flatten ↔ KeepsEvents engine maxLineBytes chunks := by
    intro chunks
    exact receive_eq_iff rfl List.not_mem_nil chunks
  constructor
  · exact hread chunks
  · intro chunks' hsame hkeeps
    rw [(hread chunks).mpr hkeeps, ← hsame]
    exact hread chunks'

end NdjsonDecoder

/-! ## Two cuts -/

namespace Sample

open NdjsonDecoder

def eventLine : String :=
  "\x7b\"protocol_version\":1,\"event\":\"a\",\"operation_id\":\"b\",\"timestamp_ms\":0\x7d"

/-- The members of the line. -/
def event : Event :=
  [("protocol_version", .number (some 1)), ("event", .string "a"), ("operation_id", .string "b"),
    ("timestamp_ms", .number (some 0))]

theorem writeAscii_append (s : Unit) (a b : List UInt8) :
    (s, (a ++ b).map fun byte => Char.ofNat byte.toNat) =
      (s, (a.map fun byte => Char.ofNat byte.toNat) ++ b.map fun byte => Char.ofNat byte.toNat) := by
  rw [List.map_append]

/-- The decoder of a stream of ASCII characters. -/
def asciiDecoder : Text.IncrementalDecoder where
  State := Unit
  start := ()
  write s bytes := (s, bytes.map fun byte => Char.ofNat byte.toNat)
  finish _ := []
  write_nil _ := rfl
  write_append := writeAscii_append

def engine : Engine where
  jsonParse source :=
    if source = eventLine.toList then .ok (.object event) else .error "Unexpected token"
  numberText _ := "1"
  stringDecoder := asciiDecoder

theorem limit_valid : 0 < 100 ∧ 100 ≤ 9007199254740991 := by decide

def limit : LineLimit := ⟨100, limit_valid⟩

theorem smallLimit_valid : 0 < 1 ∧ 1 ≤ 9007199254740991 := by decide

def smallLimit : LineLimit := ⟨1, smallLimit_valid⟩

/-- A line with an event, and a line that is no JSON. -/
def first : List UInt8 := Text.utf8 eventLine ++ [10]

def second : List UInt8 := [120, 10]

/-- The event is lost when both lines are in one chunk. A line of exactly the limit is too large
    when its carriage return and its line feed are in two chunks. -/
theorem cuts_disagree :
    (receive limit (new engine) [first ++ second]).1.length = 0 ∧
      (receive limit (new engine) [first, second]).1.length = 1 ∧
      (receive smallLimit (new engine) [[32, 13, 10]]).2 = .finished ∧
      (receive smallLimit (new engine) [[32, 13], [10]]).2 =
        .failed "protocol.line_too_large" := by
  decide

end Sample

end RustFerry.Extension
