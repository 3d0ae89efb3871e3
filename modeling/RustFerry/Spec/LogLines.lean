import RustFerry.ForStd.Except
import RustFerry.Spec.JobLogRedaction

/-!
# The events of a log

The decoder emits one event for each line of its stream, however the stream is cut into chunks. A
protected region begins at a line that opens one and ends with the next line that closes it; the
state of the decoder within a line is a function of the bytes of the line so far.
-/

namespace RustFerry.JobLogs

open ByteScan Except

variable {line : List UInt8} {lines : List (List UInt8)}

/-! ## Lines -/

/-- The bytes of a line without one carriage return at its end. -/
def stripCr (line : List UInt8) : List UInt8 :=
  if line.getLast? = some 13 then line.dropLast else line

/-- Over the limit, not counting one carriage return at the end. -/
def overlong (line : List UInt8) : Bool := maxJobLogLineBytes < (stripCr line).length

/-- The line begins a protected region: a private key, too many bytes, or bytes of no text. -/
def opens (line : List UInt8) : Bool :=
  overlong line || (Text.fromUtf8 line).all fun text => (unsafeBlockTransition text).opens

/-- The line has a closing marker and no opening one. -/
def closes (line : List UInt8) : Bool :=
  (Text.fromUtf8 line).any fun text =>
    (unsafeBlockTransition text).closes && !(unsafeBlockTransition text).opens

/-- The lines of a stream: what ends with a line feed, and a tail that is not empty. -/
def streamLines (stream : List UInt8) : List (List UInt8) :=
  let parts := stream.splitOnP (· == 10)
  parts.dropLast ++ parts.getLast?.toList.filter fun line => !line.isEmpty

/-- A region goes on at a line: some line before it opened one that no line since has closed. -/
def InRegion (lines : List (List UInt8)) (index : Nat) : Prop :=
  ∃ opening, opening < index ∧ (∃ line, lines[opening]? = some line ∧ opens line = true) ∧
    ∀ between, opening < between → between < index →
      ∀ line, lines[between]? = some line → closes line = false

/-- The line is in a region, or opens one. -/
def Protected (lines : List (List UInt8)) (index : Nat) (line : List UInt8) : Prop :=
  opens line = true ∨ InRegion lines index

/-- One event for each line, with the ordinals from one on: the marker for a line of a region, and
for another line its own sanitization. -/
def EventsOf (lines : List (List UInt8)) (events : List Event) : Prop :=
  events.length = lines.length ∧
    ∀ index line event, lines[index]? = some line → events[index]? = some event →
      event.1.toNat = index + 1 ∧
      (Protected lines index line → event.2 = .unsafeMarker) ∧
      (¬ Protected lines index line → sanitizeLine (stripCr line) = .ok event.2)

/-- The sanitizer hands the line to the redaction, and the line ends in a flag without a name. -/
def handsBareFlag (line : List UInt8) : Bool :=
  (Text.fromUtf8 line).any fun text => !rejectsLine text && endsInBareFlag (Text.utf8 text)

open Classical in
/-- The event of a line. -/
noncomputable def lineEvent (lines : List (List UInt8)) (line : List UInt8 × Nat) :
    Except DecoderError Event :=
  if line.2 + 1 < 2 ^ 32 then
    (if Protected lines line.2 line.1 then .ok .unsafeMarker
      else (sanitizeLine (stripCr line.1)).mapError .fault).map
        fun message => (UInt32.ofNat (line.2 + 1), message)
  else .error .sourceSequenceOverflow

/-! ## The state within a line -/

/-- The decoder after some bytes of a line. -/
def lineState (unsafeBlock : Bool) (ordinal : Nat) (line : List UInt8) : LogLineDecoder :=
  if overlong line then ⟨[], true, true, UInt32.ofNat ordinal⟩
  else ⟨line, false, unsafeBlock, UInt32.ofNat ordinal⟩

theorem overlong_append (line : List UInt8) (byte : UInt8) : overlong (line ++ [byte]) =
    (maxJobLogLineBytes < line.length + 1 &&
      !(line.length + 1 == maxJobLogLineBytes + 1 && byte == 13)) := by
  unfold overlong stripCr
  by_cases hcr : byte = 13
  · simp only [hcr, List.getLast?_concat, if_true, List.dropLast_concat, maxJobLogLineBytes]
    by_cases hlt : 4096 < line.length
    · have hne : ¬ line.length = 4096 := by omega
      simp [hlt, hne, show 4096 < line.length + 1 by omega]
    · by_cases heq : line.length = 4096
      · simp [heq]
      · simp [hlt, show ¬ 4096 < line.length + 1 by omega]
  · have hbyte : (byte == 13) = false := by simpa using hcr
    simp [hcr, hbyte]

theorem overlong_of_overlong (h : overlong line = true) (byte : UInt8) :
    overlong (line ++ [byte]) = true := by
  have hlength : maxJobLogLineBytes < line.length := by
    unfold overlong stripCr at h
    split at h
    · rw [decide_eq_true_eq, List.length_dropLast] at h
      omega
    · exact decide_eq_true_eq.mp h
  rw [overlong_append]
  have hne : (line.length + 1 == maxJobLogLineBytes + 1) = false := by
    rw [beq_eq_false_iff_ne]
    omega
  simp [hne]
  omega

variable {fromUtf8Lossy : List UInt8 → String}

/-- A byte of a line. -/
theorem pushByte_step {byte : UInt8} (hbyte : byte ≠ 10) (unsafeBlock : Bool) (ordinal : Nat)
    (line : List UInt8) (events : List Event) :
    LogLineDecoder.pushByte fromUtf8Lossy (lineState unsafeBlock ordinal line, events) byte =
      .ok (lineState unsafeBlock ordinal (line ++ [byte]), events) := by
  simp only [LogLineDecoder.pushByte, if_neg hbyte]
  by_cases hover : overlong line = true
  · simp only [lineState, hover, overlong_of_overlong hover, if_true]
  · simp only [lineState, hover, Bool.false_eq_true, if_false, overlong_append, List.length_append,
      List.length_singleton]
    split
    · rfl
    · rfl

/-! ## Lines that are not sanitized -/

theorem trim_append_cr (text : List Char) : trim (text ++ ['\r']) = trim text := by
  have hcr : Text.isWhitespace '\r' = true := by decide
  unfold trim
  rw [List.dropWhile_append]
  by_cases hblank : (text.dropWhile Text.isWhitespace).isEmpty = true
  · rw [if_pos hblank, List.isEmpty_iff.mp hblank]
    simp [hcr]
  · rw [if_neg hblank, List.reverse_append]
    simp [hcr]

theorem unsafeBlockTransition_append_cr (text : List Char) :
    unsafeBlockTransition (String.ofList (text ++ ['\r'])) =
      unsafeBlockTransition (String.ofList text) := by
  simp only [unsafeBlockTransition, String.toList_ofList, trim_append_cr]

theorem unsafeBlockTransition_empty : unsafeBlockTransition "" = ⟨false, false, false⟩ := by
  decide

/-- The last byte of a text is a carriage return only as a character of its own. -/
theorem exists_append_cr {text : List Char}
    (h : (Text.utf8 (String.ofList text)).getLast? = some 13) :
    ∃ front, text = front ++ ['\r'] ∧
      (Text.utf8 (String.ofList text)).dropLast = Text.utf8 (String.ofList front) := by
  cases List.eq_nil_or_concat text with
  | inl hnil =>
    rw [hnil] at h
    cases h
  | inr hconcat =>
    obtain ⟨front, c, rfl⟩ := hconcat
    rw [List.concat_eq_append, Text.utf8_ofList, List.flatMap_append, List.flatMap_singleton] at h ⊢
    obtain ⟨hsmall, hencode⟩ | ⟨_, lead, rest, hencode, hlead, hrest⟩ := Text.encode_shape c
    · rw [hencode, List.getLast?_concat] at h
      have hcode := congrArg UInt8.toNat (Option.some.inj h)
      rw [UInt8.toNat_ofNat'] at hcode
      have hc : c = '\r' := by
        apply Char.toNat_inj.mp
        change c.toNat = 13
        have : (13 : UInt8).toNat = 13 := rfl
        omega
      refine ⟨front, by rw [hc], ?_⟩
      rw [hencode, List.dropLast_concat, Text.utf8_ofList]
    · -- The last byte of another character is at least 128.
      exfalso
      have hmem : (13 : UInt8) ∈ lead :: rest := by
        rw [hencode, List.getLast?_append] at h
        cases hlast : (lead :: rest).getLast? with
        | none => simp at hlast
        | some byte =>
          rw [hlast] at h
          have hsame : byte = 13 := by simpa using h
          rw [← hsame]
          exact List.mem_of_getLast? hlast
      have hvalue : (13 : UInt8).toNat = 13 := rfl
      cases List.mem_cons.mp hmem with
      | inl heq =>
        rw [← heq] at hlead
        omega
      | inr htail =>
        have := (hrest 13 htail).1
        omega

/-- A line that only closes a region, or is a workflow command, is sanitized to the marker. -/
theorem sanitizeLine_marker {text : String} (htext : Text.fromUtf8 line = some text)
    (h : (unsafeBlockTransition text).closes || (unsafeBlockTransition text).workflowCommand) :
    sanitizeLine (stripCr line) = .ok .unsafeMarker := by
  have hbytes := Text.utf8_of_fromUtf8 htext
  have hkey : ∃ stripped : String, stripCr line = Text.utf8 stripped ∧
      unsafeBlockTransition stripped = unsafeBlockTransition text := by
    unfold stripCr
    split
    · rename_i hcr
      obtain ⟨front, hfront, hdrop⟩ := @exists_append_cr text.toList (by
        rw [String.ofList_toList, hbytes]
        exact hcr)
      rw [String.ofList_toList, hbytes] at hdrop
      refine ⟨String.ofList front, hdrop, ?_⟩
      have hsame := unsafeBlockTransition_append_cr front
      rw [← hfront, String.ofList_toList] at hsame
      exact hsame.symm
    · exact ⟨text, hbytes.symm, rfl⟩
  obtain ⟨stripped, hstripped, htransition⟩ := hkey
  rw [hstripped]
  -- an empty line has no marker
  have hnonempty : (Text.utf8 stripped).isEmpty = false := by
    by_contra hempty
    have hnil : stripped = "" := by
      apply Text.utf8_injective
      have hbytes : Text.utf8 stripped = [] := by simpa using hempty
      rw [hbytes]
      rfl
    rw [← htransition, hnil, unsafeBlockTransition_empty] at h
    cases h
  have hrejects : rejectsLine stripped = true := by
    rw [← htransition] at h
    cases Bool.or_eq_true_iff.mp h with
    | inl hcloses => simp only [rejectsLine, hcloses, Bool.or_true, Bool.true_or]
    | inr hcommand => simp only [rejectsLine, hcommand, Bool.or_true, Bool.true_or]
  simp [sanitizeLine, hnonempty, Text.fromUtf8_utf8, hrejects]

/-! ## The end of a line -/

/-- The message of a line, in a region or not. -/
def lineMessage (unsafeBlock : Bool) (line : List UInt8) : Except DecoderError SanitizedLine :=
  if opens line || unsafeBlock then .ok .unsafeMarker
  else (sanitizeLine (stripCr line)).mapError .fault

/-- Whether the line after a line is in a region. -/
def blockAfter (unsafeBlock : Bool) (line : List UInt8) : Bool :=
  opens line || (unsafeBlock && !closes line)

theorem lineState_nil (unsafeBlock : Bool) (ordinal : Nat) :
    lineState unsafeBlock ordinal [] = ⟨[], false, unsafeBlock, UInt32.ofNat ordinal⟩ := rfl

/-- The bytes that the decoder keeps decide like the line. -/
theorem transition_of_lineState (fromUtf8Lossy : List UInt8 → String) (unsafeBlock : Bool)
    (ordinal : Nat) (line : List UInt8) :
    let decoder := lineState unsafeBlock ordinal line
    let transition := pendingTransition fromUtf8Lossy decoder.pending
    (if transition.closes && !transition.opens then false
      else decoder.unsafeBlock || transition.opens) = blockAfter unsafeBlock line ∧
    (if decoder.discardingUnsafe || decoder.unsafeBlock || transition.opens || transition.closes ||
        transition.workflowCommand then .ok .unsafeMarker
      else (sanitizeLine (if decoder.pending.getLast? = some 13 then decoder.pending.dropLast
        else decoder.pending)).mapError .fault) = lineMessage unsafeBlock line := by
  simp only []
  by_cases hover : overlong line = true
  · -- The bytes are gone, and the line opened a region.
    have hopens : opens line = true := by simp [opens, hover]
    have hpending : pendingTransition fromUtf8Lossy [] = ⟨false, false, false⟩ := by
      have hempty : Text.fromUtf8 [] = some "" := Text.fromUtf8_utf8 ""
      simp only [pendingTransition, hempty, unsafeBlockTransition_empty]
    simp only [lineState, hover, if_true, hpending, blockAfter, lineMessage, hopens]
    exact ⟨rfl, rfl⟩
  · have hover := Bool.eq_false_iff.mpr hover
    simp only [lineState, hover, Bool.false_eq_true, if_false]
    cases htext : Text.fromUtf8 line with
    | none =>
      have hopens : opens line = true := by simp [opens, htext]
      simp only [pendingTransition, htext, blockAfter, lineMessage, hopens]
      simp
    | some text =>
      have hopens : opens line = (unsafeBlockTransition text).opens := by simp [opens, htext, hover]
      have hcloses : closes line =
          ((unsafeBlockTransition text).closes && !(unsafeBlockTransition text).opens) := by
        simp [closes, htext]
      have hmarker := sanitizeLine_marker htext
      simp only [pendingTransition, htext, blockAfter, lineMessage, hopens, hcloses]
      generalize unsafeBlockTransition text = transition at hmarker
      obtain ⟨opening, closing, command⟩ := transition
      constructor
      · cases opening <;> cases closing <;> cases unsafeBlock <;> rfl
      · cases opening with
        | true => simp
        | false =>
          cases unsafeBlock with
          | true => simp
          | false =>
            cases hchecked : closing || command with
            | false =>
              obtain ⟨hclosing, hcommand⟩ := Bool.or_eq_false_iff.mp hchecked
              simp only [hclosing, hcommand]
              rfl
            | true =>
              have hsame := hmarker hchecked
              simp only [stripCr] at hsame
              simp [hchecked, hsame, stripCr, Except.mapError]

theorem emitPending_eq {ordinal : Nat} (hordinal : ordinal < 2 ^ 32) (unsafeBlock : Bool)
    (line : List UInt8) :
    (lineState unsafeBlock ordinal line).emitPending fromUtf8Lossy =
      if ordinal + 1 < 2 ^ 32 then
        (lineMessage unsafeBlock line).map fun message =>
          (lineState (blockAfter unsafeBlock line) (ordinal + 1) [],
            (UInt32.ofNat (ordinal + 1), message))
      else .error .sourceSequenceOverflow := by
  obtain ⟨hblock, hmessage⟩ := transition_of_lineState fromUtf8Lossy unsafeBlock ordinal line
  have hstored : (lineState unsafeBlock ordinal line).ordinal = UInt32.ofNat ordinal := by
    unfold lineState
    split <;> rfl
  have hnat : (UInt32.ofNat ordinal).toNat = ordinal := by
    rw [UInt32.toNat_ofNat']
    omega
  have hnext : UInt32.ofNat ordinal + 1 = UInt32.ofNat (ordinal + 1) := by
    apply UInt32.toNat_inj.mp
    rw [UInt32.toNat_add, hnat, UInt32.toNat_ofNat']
    rfl
  simp only [LogLineDecoder.emitPending, hstored, hnat, hblock, lineState_nil]
  -- ordinals are counted in 32 bits
  by_cases hfits : ordinal + 1 < 2 ^ 32
  · rw [if_pos hfits, if_pos hfits, hnext]
    simp only [bind, Except.bind]
    split
    · rename_i hunsafe
      rw [if_pos hunsafe] at hmessage
      rw [← hmessage]
      rfl
    · rename_i hsafe
      rw [if_neg hsafe] at hmessage
      rw [hmessage]
      cases lineMessage unsafeBlock line <;> rfl
  · rw [if_neg hfits, if_neg hfits]
    rfl

/-! ## The stream -/

/-- The events of some lines, from the state before them. -/
def runLines (unsafeBlock : Bool) (ordinal : Nat) :
    List (List UInt8) → Except DecoderError (List Event)
  | [] => .ok []
  | line :: rest =>
    if ordinal + 1 < 2 ^ 32 then do
      let message ← lineMessage unsafeBlock line
      let events ← runLines (blockAfter unsafeBlock line) (ordinal + 1) rest
      return (UInt32.ofNat (ordinal + 1), message) :: events
    else .error .sourceSequenceOverflow

/-- The lines of a stream after some bytes of a line. -/
def linesFrom (line : List UInt8) : List UInt8 → List (List UInt8)
  | [] => if line = [] then [] else [line]
  | byte :: rest => if byte = 10 then line :: linesFrom [] rest else linesFrom (line ++ [byte]) rest

/-- The events of a stream from within a line. -/
theorem run_eq (stream : List UInt8) (unsafeBlock : Bool) {ordinal : Nat}
    (hordinal : ordinal < 2 ^ 32) (line : List UInt8) (events : List Event) :
    (stream.foldlM (LogLineDecoder.pushByte fromUtf8Lossy)
        (lineState unsafeBlock ordinal line, events) >>= LogLineDecoder.finish fromUtf8Lossy) =
      (runLines unsafeBlock ordinal (linesFrom line stream)).map (events ++ ·) := by
  induction stream generalizing unsafeBlock ordinal line events with
  | nil =>
    change LogLineDecoder.finish fromUtf8Lossy (lineState unsafeBlock ordinal line, events) = _
    -- at the end a line without a newline is emitted, too
    by_cases hline : line = []
    · simp only [linesFrom, hline, if_true, lineState_nil, LogLineDecoder.finish]
      simp [runLines, Except.map, pure, Except.pure]
    · have htail : ((lineState unsafeBlock ordinal line).discardingUnsafe ||
          !(lineState unsafeBlock ordinal line).pending.isEmpty) = true := by
        unfold lineState
        split
        · rfl
        · simpa using hline
      simp only [linesFrom, hline, if_false, LogLineDecoder.finish, htail, if_true,
        emitPending_eq hordinal, runLines]
      by_cases hfits : ordinal + 1 < 2 ^ 32
      · rw [if_pos hfits, if_pos hfits]
        cases lineMessage unsafeBlock line <;> rfl
      · rw [if_neg hfits, if_neg hfits]
        rfl
  | cons byte rest ih =>
    rw [List.foldlM_cons, linesFrom]
    -- a newline ends the line, any other byte joins it
    by_cases hbyte : byte = 10
    · rw [if_pos hbyte, runLines]
      have hpush : LogLineDecoder.pushByte fromUtf8Lossy
          (lineState unsafeBlock ordinal line, events) byte =
          ((lineState unsafeBlock ordinal line).emitPending fromUtf8Lossy).map
            fun result => (result.1, events ++ [result.2]) := by
        simp only [LogLineDecoder.pushByte, if_pos hbyte]
        cases (lineState unsafeBlock ordinal line).emitPending fromUtf8Lossy <;> rfl
      rw [hpush, emitPending_eq hordinal]
      by_cases hfits : ordinal + 1 < 2 ^ 32
      · rw [if_pos hfits, if_pos hfits]
        cases lineMessage unsafeBlock line with
        | error failure => rfl
        | ok message =>
          have hrest := ih (blockAfter unsafeBlock line) hfits []
            (events ++ [(UInt32.ofNat (ordinal + 1), message)])
          refine Eq.trans hrest ?_
          cases runLines (blockAfter unsafeBlock line) (ordinal + 1) (linesFrom [] rest) with
          | error failure => rfl
          | ok later =>
            exact congrArg Except.ok (List.append_assoc _ _ _)
      · rw [if_neg hfits, if_neg hfits]
        rfl
    · rw [if_neg hbyte, pushByte_step hbyte]
      exact ih unsafeBlock hordinal (line ++ [byte]) events

theorem linesFrom_eq (stream line : List UInt8) :
    linesFrom line stream =
      let parts := (stream.splitOnP (· == 10)).modifyHead (line ++ ·)
      parts.dropLast ++ parts.getLast?.toList.filter fun line => !line.isEmpty := by
  induction stream generalizing line with
  | nil =>
    by_cases hline : line = []
    · simp [linesFrom, hline]
    · simp [linesFrom, hline]
  | cons byte rest ih =>
    rw [linesFrom, List.splitOnP_cons_eq_if_modifyHead]
    obtain ⟨first, others, hparts⟩ :=
      List.exists_cons_of_ne_nil (List.splitOnP_ne_nil (· == (10 : UInt8)) rest)
    by_cases hbyte : byte = 10
    · rw [if_pos hbyte, if_pos (by simpa using hbyte), ih, hparts]
      simp [List.dropLast_cons_of_ne_nil]
    · rw [if_neg hbyte, if_neg (by simpa using hbyte), ih, hparts]
      simp

theorem linesFrom_nil (stream : List UInt8) : linesFrom [] stream = streamLines stream := by
  rw [linesFrom_eq, streamLines]
  obtain ⟨first, others, hparts⟩ :=
    List.exists_cons_of_ne_nil (List.splitOnP_ne_nil (· == (10 : UInt8)) stream)
  rw [hparts]
  rfl

/-! ## Regions -/

/-- A region goes on after a line that opens it, and after one in it that does not close it. -/
theorem inRegion_succ {index : Nat} (hline : lines[index]? = some line) :
    InRegion lines (index + 1) ↔
      opens line = true ∨ (InRegion lines index ∧ closes line = false) := by
  constructor
  · intro hregion
    obtain ⟨opening, hlt, hopening, hbetween⟩ := hregion
    by_cases hlast : opening = index
    · left
      obtain ⟨found, hfound, hopens⟩ := hopening
      rw [hlast, hline] at hfound
      cases hfound
      exact hopens
    · right
      refine ⟨⟨opening, by omega, hopening, ?_⟩, hbetween index (by omega) (by omega) line hline⟩
      intro between hafter hbefore
      exact hbetween between hafter (by omega)
  · intro hcases
    cases hcases with
    | inl hopens =>
      refine ⟨index, by omega, ⟨line, hline, hopens⟩, ?_⟩
      intro between hafter hbefore
      omega
    | inr hgoes =>
      obtain ⟨⟨opening, hlt, hopening, hbetween⟩, hcloses⟩ := hgoes
      refine ⟨opening, by omega, hopening, ?_⟩
      intro between hafter hbefore found hfound
      by_cases hlast : between = index
      · rw [hlast, hline] at hfound
        cases hfound
        exact hcloses
      · exact hbetween between hafter (by omega) found hfound

/-- The state after some lines tells whether a region goes on. -/
theorem foldl_blockAfter {front rest : List (List UInt8)} (hlines : lines = front ++ rest) :
    front.foldl blockAfter false = true ↔ InRegion lines front.length := by
  induction front using List.reverseRecOn generalizing rest with
  | nil =>
    constructor
    · intro h
      cases h
    · intro h
      obtain ⟨_, hlt, _⟩ := h
      exact (Nat.not_lt_zero _ hlt).elim
  | append_singleton front line ih =>
    have hsplit : lines = front ++ line :: rest := by rw [hlines, List.append_assoc]; rfl
    have hline : lines[front.length]? = some line := by
      rw [hsplit, List.getElem?_append_right (le_refl _), Nat.sub_self]
      rfl
    rw [List.foldl_concat, List.length_append, List.length_singleton, inRegion_succ hline,
      ← ih hsplit, blockAfter]
    simp [Bool.or_eq_true, Bool.and_eq_true]

theorem runLines_eq {lines front rest : List (List UInt8)} (hlines : lines = front ++ rest) :
    runLines (front.foldl blockAfter false) front.length rest =
      (rest.zipIdx front.length).mapM (lineEvent lines) := by
  induction rest generalizing front with
  | nil => rfl
  | cons line rest ih =>
    have hnext := @ih (front ++ [line]) (by rw [hlines, List.append_assoc]; rfl)
    rw [List.foldl_concat, List.length_append, List.length_singleton] at hnext
    have hprotected : Protected lines front.length line ↔
        (opens line || front.foldl blockAfter false) = true := by
      rw [Protected, ← foldl_blockAfter hlines, Bool.or_eq_true]
    rw [List.zipIdx_cons, List.mapM_cons, runLines, lineEvent, hnext, lineMessage]
    by_cases hfits : front.length + 1 < 2 ^ 32
    · simp only [hfits, if_true, hprotected]
      split
      · rfl
      · cases sanitizeLine (stripCr line) <;> rfl
    · simp only [hfits, if_false]
      rfl

theorem foldlM_push (chunks : List (List UInt8)) (state : LogLineDecoder × List Event) :
    chunks.foldlM (LogLineDecoder.push fromUtf8Lossy) state =
      chunks.flatten.foldlM (LogLineDecoder.pushByte fromUtf8Lossy) state := by
  induction chunks generalizing state with
  | nil => rfl
  | cons chunk rest ih =>
    rw [List.foldlM_cons, List.flatten_cons, List.foldlM_append]
    congr 1
    funext next
    exact ih next

/-- The events of a stream are those of its lines. -/
theorem decode_eq (chunks : List (List UInt8)) :
    decode fromUtf8Lossy chunks = (streamLines chunks.flatten).zipIdx.mapM
      (lineEvent (streamLines chunks.flatten)) := by
  have hrun := @run_eq fromUtf8Lossy chunks.flatten false 0 (by decide) [] []
  have hlines := @runLines_eq (streamLines chunks.flatten) [] (streamLines chunks.flatten) rfl
  rw [linesFrom_nil] at hrun
  rw [decode, foldlM_push]
  refine Eq.trans hrun (Eq.trans ?_ hlines)
  change _ = runLines false 0 (streamLines chunks.flatten)
  cases runLines false 0 (streamLines chunks.flatten) <;> rfl

/-- The event of one line. -/
theorem lineEvent_eq_ok {index : Nat} {event : Event} : lineEvent lines (line, index) = .ok event ↔
      index + 1 < 2 ^ 32 ∧ event.1.toNat = index + 1 ∧
      (Protected lines index line → event.2 = .unsafeMarker) ∧
      (¬ Protected lines index line → sanitizeLine (stripCr line) = .ok event.2) := by
  obtain ⟨ordinal, message⟩ := event
  unfold lineEvent
  by_cases hfits : index + 1 < 2 ^ 32
  · have hordinal : ordinal.toNat = index + 1 ↔ ordinal = UInt32.ofNat (index + 1) := by
      rw [← UInt32.toNat_inj, UInt32.toNat_ofNat_of_lt' hfits]
    rw [if_pos hfits, hordinal]
    by_cases hprotected : Protected lines index line
    · rw [if_pos hprotected, and_iff_right hfits]
      simp [Except.map, hprotected, eq_comm]
    · rw [if_neg hprotected, and_iff_right hfits]
      cases sanitizeLine (stripCr line) <;> simp [Except.map, Except.mapError, hprotected, eq_comm]
  · rw [if_neg hfits]
    constructor
    · intro h
      cases h
    · intro h
      exact (hfits h.1).elim

/-- The decoder returns events exactly if there are ordinals for the lines, and the events are
those of the lines. -/
theorem decode_eq_ok {chunks : List (List UInt8)} {events : List Event} :
    decode fromUtf8Lossy chunks = .ok events ↔
      (streamLines chunks.flatten).length < 2 ^ 32 ∧
        EventsOf (streamLines chunks.flatten) events := by
  rw [decode_eq, mapM_eq_ok, List.forall₂_iff_get]
  generalize hlines : streamLines chunks.flatten = lines
  have hzip : lines.zipIdx.length = lines.length := List.length_zipIdx
  constructor
  · intro h
    obtain ⟨hlength, hevents⟩ := h
    have hat : ∀ index line event, lines[index]? = some line → events[index]? = some event →
        lineEvent lines (line, index) = .ok event := by
      intro index line event hline hevent
      obtain ⟨hindex, hline⟩ := List.getElem?_eq_some_iff.mp hline
      obtain ⟨hindex', hevent⟩ := List.getElem?_eq_some_iff.mp hevent
      have := hevents index (hzip.symm ▸ hindex) hindex'
      rw [List.get_eq_getElem, List.get_eq_getElem, List.getElem_zipIdx, Nat.zero_add] at this
      rw [← hline, ← hevent]
      exact this
    have hsame : events.length = lines.length := by omega
    refine ⟨?_, hsame, ?_⟩
    · -- the last line has an ordinal
      by_contra hmany
      have hindex : lines.length - 1 < lines.length := by omega
      have hlast := hat (lines.length - 1) _ _ (List.getElem?_eq_getElem hindex)
        (List.getElem?_eq_getElem (by omega))
      have := (lineEvent_eq_ok.mp hlast).1
      omega
    · intro index line event hline hevent
      exact (lineEvent_eq_ok.mp (hat index line event hline hevent)).2
  · intro h
    obtain ⟨hfits, hlength, hevents⟩ := h
    refine ⟨by omega, ?_⟩
    intro index hindex hindex'
    rw [hzip] at hindex
    rw [List.get_eq_getElem, List.get_eq_getElem, List.getElem_zipIdx, Nat.zero_add]
    exact lineEvent_eq_ok.mpr ⟨by omega, hevents index _ _ (List.getElem?_eq_getElem hindex)
      (List.getElem?_eq_getElem hindex')⟩

/-! ## Lines that can be sanitized -/

/-- A line is sanitized unless the redaction steps past a flag at its end. -/
theorem sanitizeLine_total_iff :
    (∃ message, sanitizeLine line = .ok message) ↔ handsBareFlag line = false := by
  unfold handsBareFlag
  cases htext : Text.fromUtf8 line with
  | none =>
    simp only [sanitizeLine, htext, Option.any_none, iff_true]
    split <;> exact ⟨_, rfl⟩
  | some text =>
    have hbytes := Text.utf8_of_fromUtf8 htext
    rw [Option.any_some, hbytes]
    by_cases hempty : line = []
    · have hnone : endsInBareFlag [] = false := endsInBareFlag_none rfl
      rw [hempty, hnone, Bool.and_false]
      exact ⟨fun _ => rfl, fun _ => ⟨_, rfl⟩⟩
    · have hnonempty : line.isEmpty = false := by simpa using hempty
      simp only [sanitizeLine, hnonempty, htext, Bool.false_eq_true, if_false]
      cases hrejects : rejectsLine text with
      | true => simp
      | false =>
        have hfuel : (Text.utf8 text).length < line.length + 1 := by rw [hbytes]; omega
        obtain ⟨hbare, hplain⟩ := redactLine_cases hfuel
        rw [hbytes] at hbare hplain
        cases hflag : endsInBareFlag line with
        | true => simp [hbare hflag, bind, Except.bind]
        | false =>
          obtain ⟨message, hmessage⟩ := hplain hflag
          simp [hmessage, bind, Except.bind, pure, Except.pure]

/-- However a stream is cut, it is decoded faithfully exactly if there are ordinals for its lines
and no line outside the regions is handed to the redaction with a flag without a name at its end.
Events that the decoder returns are those of the lines in any case. -/
theorem decode_events (fromUtf8Lossy : List UInt8 → String) (chunks : List (List UInt8)) :
    let lines := streamLines chunks.flatten
    ((∃ events, decode fromUtf8Lossy chunks = .ok events ∧ EventsOf lines events) ↔
      lines.length < 2 ^ 32 ∧ ∀ index line, lines[index]? = some line →
        ¬ Protected lines index line → handsBareFlag (stripCr line) = false) ∧
    ∀ events, decode fromUtf8Lossy chunks = .ok events → EventsOf lines events := by
  intro lines
  refine ⟨?_, fun events h => (decode_eq_ok.mp h).2⟩
  constructor
  · intro h
    obtain ⟨events, hdecode, hlength, hevents⟩ := h
    refine ⟨(decode_eq_ok.mp hdecode).1, ?_⟩
    intro index line hline houtside
    obtain ⟨hindex, -⟩ := List.getElem?_eq_some_iff.mp hline
    have hevent := List.getElem?_eq_getElem (hlength ▸ hindex)
    exact sanitizeLine_total_iff.mp ⟨_, (hevents index line _ hline hevent).2.2 houtside⟩
  · intro h
    obtain ⟨hfits, hlines⟩ := h
    -- each line has an event, so that all have
    have hall : ∀ entry ∈ lines.zipIdx, ∃ event, lineEvent lines entry = .ok event := by
      intro entry hentry
      obtain ⟨line, index⟩ := entry
      have hline : lines[index]? = some line := List.mem_zipIdx_iff_getElem?.mp hentry
      obtain ⟨hindex, -⟩ := List.getElem?_eq_some_iff.mp hline
      have hordinal : (UInt32.ofNat (index + 1)).toNat = index + 1 :=
        UInt32.toNat_ofNat_of_lt' (show index + 1 < 2 ^ 32 by omega)
      by_cases hprotected : Protected lines index line
      · exact ⟨(UInt32.ofNat (index + 1), .unsafeMarker), lineEvent_eq_ok.mpr
          ⟨by omega, hordinal, fun _ => rfl, fun houtside => absurd hprotected houtside⟩⟩
      · obtain ⟨message, hmessage⟩ := sanitizeLine_total_iff.mpr (hlines index line hline hprotected)
        exact ⟨(UInt32.ofNat (index + 1), message), lineEvent_eq_ok.mpr
          ⟨by omega, hordinal, fun hinside => absurd hinside hprotected, fun _ => hmessage⟩⟩
    obtain ⟨events, hevents⟩ := exists_mapM_eq_ok hall
    have hdecode : decode fromUtf8Lossy chunks = .ok events := (decode_eq chunks).trans hevents
    exact ⟨events, hdecode, (decode_eq_ok.mp hdecode).2⟩

/-- A log of one line with a flag without a name at its end. -/
theorem decode_bareFlag :
    ¬ ∃ events, decode (fun _ => "") [Text.utf8 "foo --\n"] = .ok events := by
  intro h
  obtain ⟨events, hdecode⟩ := h
  have hline : streamLines [Text.utf8 "foo --\n"].flatten = [Text.utf8 "foo --"] := by decide
  obtain ⟨-, hlength, hevents⟩ := decode_eq_ok.mp hdecode
  rw [hline] at hlength hevents
  obtain ⟨hhanded, hfind, hafter⟩ := searched_evaluate.2
  have hopens : opens (Text.utf8 "foo --") = false := by
    simp only [rejectsLine, Bool.or_eq_false_iff] at hhanded
    rw [opens, Text.fromUtf8_utf8, Option.all_some, hhanded.1.1.1.1.2]
    decide
  have houtside : ¬ Protected [Text.utf8 "foo --"] 0 (Text.utf8 "foo --") := by
    rintro (hopening | ⟨opening, hbefore, -⟩)
    · rw [hopens] at hopening
      cases hopening
    · exact absurd hbefore (Nat.not_lt_zero _)
  have hevent := List.getElem?_eq_getElem (hlength ▸ Nat.zero_lt_one : 0 < events.length)
  have hsanitized := (hevents 0 _ _ rfl hevent).2.2 houtside
  have hflag : handsBareFlag (stripCr (Text.utf8 "foo --")) = true := by
    have hstrip : stripCr (Text.utf8 "foo --") = Text.utf8 "foo --" := by decide
    have hbare : endsInBareFlag (Text.utf8 "foo --") = true := by
      rw [endsInBareFlag_some hfind, hafter]
      rfl
    rw [hstrip, handsBareFlag, Text.fromUtf8_utf8, Option.any_some, hhanded, hbare]
    rfl
  rw [sanitizeLine_total_iff.mp ⟨_, hsanitized⟩] at hflag
  cases hflag

end RustFerry.JobLogs
