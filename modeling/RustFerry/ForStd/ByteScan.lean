import Mathlib.Data.List.Chain
import Mathlib.Data.List.TakeWhile
import RustFerry.ForStd.Utf8

/-!
# Scanning of bytes

Slices of bytes and of texts that fail outside of their bounds, the first place of some bytes, steps
over bytes of a class, and loops that move a cursor over a text.
-/

namespace ByteScan

/-! ## Slices -/

/-- Why an operation does not return. -/
inductive Fault where
  | sliceOutOfRange
  | notCharBoundary
  | unfinished
  deriving DecidableEq

/-- `values[start..stop]`. -/
def slice {α : Type} (values : List α) (start stop : Nat) : Except Fault (List α) :=
  if start ≤ stop ∧ stop ≤ values.length then .ok ((values.drop start).take (stop - start))
  else .error .sliceOutOfRange

/-- `values[start..]`. -/
def sliceFrom {α : Type} (values : List α) (start : Nat) : Except Fault (List α) :=
  if start ≤ values.length then .ok (values.drop start) else .error .sliceOutOfRange

def isContinuation (byte : UInt8) : Bool := 128 ≤ byte.toNat && byte.toNat < 192

/-- `str::is_char_boundary` of the text with these bytes. -/
def isCharBoundary (bytes : List UInt8) (index : Nat) : Bool :=
  index == 0 || index == bytes.length || bytes[index]?.any fun byte => !isContinuation byte

/-- `text[start..]`. -/
def textFrom (bytes : List UInt8) (start : Nat) : Except Fault (List UInt8) :=
  if isCharBoundary bytes start then .ok (bytes.drop start) else .error .notCharBoundary

/-- `text[start..stop]`. -/
def textSlice (bytes : List UInt8) (start stop : Nat) : Except Fault (List UInt8) :=
  if start ≤ stop && isCharBoundary bytes start && isCharBoundary bytes stop then
    .ok ((bytes.drop start).take (stop - start))
  else .error .notCharBoundary

/-! ## Steps -/

/-- The first place of some bytes. -/
def find (needle : List UInt8) : List UInt8 → Option Nat
  | [] => if needle = [] then some 0 else none
  | byte :: rest =>
    if needle.isPrefixOf (byte :: rest) then some 0 else (find needle rest).map (· + 1)

/-- The index after the bytes of a class. -/
def skipWhile (p : UInt8 → Bool) (bytes : List UInt8) (index : Nat) : Nat :=
  index + ((bytes.drop index).takeWhile p).length

/-- The index of the first of the bytes of a class before an index. -/
def backWhile (p : UInt8 → Bool) (bytes : List UInt8) (index : Nat) : Nat :=
  index - ((bytes.take index).reverse.takeWhile p).length

/-- The index of the first byte of a class from a start on, or the end. -/
def stopAt (p : UInt8 → Bool) (bytes : List UInt8) (start stop : Nat) : Nat :=
  match bytes.findIdx? p with
  | some offset => start + offset
  | none => stop

/-! ## Boundaries of characters -/

/-- No character goes on after an ASCII byte. -/
def AsciiEnds (bytes : List UInt8) : Prop :=
  bytes.IsChain fun a b => a.toNat < 128 → isContinuation b = false

theorem isContinuation_eq_false {byte : UInt8} (h : byte.toNat < 128) :
    isContinuation byte = false := by
  simp [isContinuation, h]

/-- The bytes of a character, and the byte after it. -/
theorem asciiEnds_encode (c : Char) :
    AsciiEnds (String.utf8EncodeChar c) ∧
      (String.utf8EncodeChar c).head?.all fun byte => !isContinuation byte := by
  obtain ⟨hsmall, hencode⟩ | ⟨_, lead, rest, hencode, hlead, hrest⟩ := Text.encode_shape c
  · rw [hencode]
    have hbyte : (UInt8.ofNat c.toNat).toNat < 128 := by
      rw [UInt8.toNat_ofNat']
      omega
    exact ⟨.singleton _, by simp [isContinuation_eq_false hbyte]⟩
  · rw [hencode]
    constructor
    · -- None of the bytes is below 128.
      apply List.Pairwise.isChain
      apply List.pairwise_of_forall_mem_list
      intro a ha b _ hsmall
      cases List.mem_cons.mp ha with
      | inl heq =>
        rw [heq] at hsmall
        omega
      | inr hmem =>
        have := (hrest a hmem).1
        omega
    · have hnot : isContinuation lead = false := by
        simp only [isContinuation, Bool.and_eq_false_iff, decide_eq_false_iff_not]
        omega
      simp [hnot]

/-- UTF-8 text has this property. -/
theorem asciiEnds_utf8 (text : String) : AsciiEnds (Text.utf8 text) := by
  rw [Text.utf8_eq_flatMap]
  have hchars : ∀ chars : List Char, AsciiEnds (chars.flatMap String.utf8EncodeChar) ∧
      (chars.flatMap String.utf8EncodeChar).head?.all fun byte => !isContinuation byte := by
    intro chars
    induction chars with
    | nil => exact ⟨.nil, rfl⟩
    | cons c rest ih =>
      obtain ⟨hchain, hhead⟩ := asciiEnds_encode c
      rw [List.flatMap_cons]
      constructor
      · apply List.IsChain.append hchain ih.1
        intro a _ b hb _
        have hnext := ih.2
        rw [Option.mem_def.mp hb] at hnext
        simpa using hnext
      · cases hencode : String.utf8EncodeChar c with
        | nil => exact ih.2
        | cons byte bytes =>
          rw [hencode] at hhead
          exact hhead
  exact (hchars text.toList).1

variable {bytes : List UInt8}

theorem isCharBoundary_of_ascii {index : Nat} {byte : UInt8}
    (h : bytes[index]? = some byte) (hsmall : byte.toNat < 128) :
    isCharBoundary bytes index = true := by
  simp [isCharBoundary, h, isContinuation_eq_false hsmall]

theorem isCharBoundary_length (bytes : List UInt8) :
    isCharBoundary bytes bytes.length = true := by
  simp [isCharBoundary]

/-- A character ends after an ASCII byte. -/
theorem isCharBoundary_succ (hends : AsciiEnds bytes) {index : Nat}
    {byte : UInt8} (h : bytes[index]? = some byte) (hsmall : byte.toNat < 128) :
    isCharBoundary bytes (index + 1) = true := by
  obtain ⟨hindex, hbyte⟩ := List.getElem?_eq_some_iff.mp h
  by_cases hlast : index + 1 < bytes.length
  · have hnext := List.isChain_iff_getElem.mp hends index hlast
    rw [hbyte] at hnext
    simp [isCharBoundary, List.getElem?_eq_getElem hlast, hnext hsmall]
  · have hlength : index + 1 = bytes.length := by omega
    rw [hlength]
    exact isCharBoundary_length bytes

/-! ## Places -/

/-- Where the bytes are found. -/
theorem find_spec {needle : List UInt8} {place : Nat} (h : find needle bytes = some place) :
    place + needle.length ≤ bytes.length ∧ needle <+: bytes.drop place := by
  induction bytes generalizing place with
  | nil =>
    rw [find] at h
    by_cases hneedle : needle = []
    · rw [if_pos hneedle] at h
      cases h
      simp [hneedle]
    · simp [hneedle] at h
  | cons byte rest ih =>
    rw [find] at h
    by_cases hprefix : needle.isPrefixOf (byte :: rest) = true
    · rw [if_pos hprefix] at h
      cases h
      have hhere := List.isPrefixOf_iff_prefix.mp hprefix
      exact ⟨by simpa using hhere.length_le, hhere⟩
    · rw [if_neg hprefix] at h
      obtain ⟨before, hbefore, rfl⟩ := Option.map_eq_some_iff.mp h
      obtain ⟨hlength, hthere⟩ := ih hbefore
      exact ⟨by simp only [List.length_cons]; omega, by simpa using hthere⟩

variable {start : Nat}

/-- The byte at a place of the found bytes. -/
theorem getElem?_of_find {needle : List UInt8} {place index : Nat} {byte : UInt8}
    (h : find needle (bytes.drop start) = some place) (hbyte : needle[index]? = some byte) :
    bytes[start + place + index]? = some byte := by
  obtain ⟨_, hprefix⟩ := find_spec h
  obtain ⟨hindex, hvalue⟩ := List.getElem?_eq_some_iff.mp hbyte
  have hat := List.prefix_iff_getElem?.mp hprefix index hindex
  rw [hvalue, List.drop_drop, List.getElem?_drop] at hat
  exact hat

/-- What is found fits in the text. -/
theorem find_le {needle : List UInt8} {place : Nat} (hstart : start ≤ bytes.length)
    (h : find needle (bytes.drop start) = some place) :
    start + place + needle.length ≤ bytes.length := by
  have hlength := (find_spec h).1
  rw [List.length_drop] at hlength
  omega

section

variable {p : UInt8 → Bool} {bytes : List UInt8} {index : Nat}

theorem le_skipWhile : index ≤ skipWhile p bytes index := Nat.le_add_right _ _

/-- Skipping stays within the text. -/
theorem skipWhile_le (h : index ≤ bytes.length) : skipWhile p bytes index ≤ bytes.length := by
  have htake := (List.takeWhile_prefix (p := p) (l := bytes.drop index)).length_le
  rw [List.length_drop] at htake
  unfold skipWhile
  omega

/-- The bytes that are skipped are of the class. -/
theorem mem_of_lt_skipWhile (place : Nat) (hle : index ≤ place)
    (hlt : place < skipWhile p bytes index) :
    ∃ byte, bytes[place]? = some byte ∧ p byte = true := by
  have hat : place - index < ((bytes.drop index).takeWhile p).length := by
    unfold skipWhile at hlt
    omega
  have hmem := List.getElem_mem hat
  refine ⟨_, ?_, List.mem_takeWhile_imp hmem⟩
  have hprefix := List.takeWhile_prefix (p := p) (l := bytes.drop index)
  have hsame := List.prefix_iff_getElem?.mp hprefix _ hat
  rw [List.getElem?_drop, show index + (place - index) = place by omega] at hsame
  exact hsame

theorem backWhile_le : backWhile p bytes index ≤ index := Nat.sub_le _ _

/-- The bytes that are stepped over backwards are of the class. -/
theorem mem_of_backWhile_le (hindex : index ≤ bytes.length) (place : Nat)
    (hle : backWhile p bytes index ≤ place) (hlt : place < index) :
    ∃ byte, bytes[place]? = some byte ∧ p byte = true := by
  have hlength : (bytes.take index).reverse.length = index := by
    rw [List.length_reverse, List.length_take]
    omega
  have hat : index - 1 - place < ((bytes.take index).reverse.takeWhile p).length := by
    unfold backWhile at hle
    have hprefix := (List.takeWhile_prefix (p := p) (l := (bytes.take index).reverse)).length_le
    omega
  have hmem := List.getElem_mem hat
  refine ⟨_, ?_, List.mem_takeWhile_imp hmem⟩
  have hprefix := List.takeWhile_prefix (p := p) (l := (bytes.take index).reverse)
  have hsame := List.prefix_iff_getElem?.mp hprefix _ hat
  have hlast : index - 1 - place < (bytes.take index).length := by
    rw [List.length_take]
    omega
  rw [List.getElem?_reverse hlast, List.length_take, List.getElem?_take, if_pos (by omega),
    show min index bytes.length - 1 - (index - 1 - place) = place by omega] at hsame
  exact hsame

variable (hascii : ∀ byte, p byte = true → byte.toNat < 128)
include hascii

/-- Skipping stops at a boundary. -/
theorem isCharBoundary_skipWhile (hends : AsciiEnds bytes)
    (h : isCharBoundary bytes index = true) :
    isCharBoundary bytes (skipWhile p bytes index) = true := by
  by_cases hsame : skipWhile p bytes index = index
  · rwa [hsame]
  · have hle := @le_skipWhile p bytes index
    have hbefore : skipWhile p bytes index - 1 < skipWhile p bytes index := by omega
    obtain ⟨byte, hbyte, hp⟩ := mem_of_lt_skipWhile _ (by omega) hbefore
    have hnext := isCharBoundary_succ hends hbyte (hascii byte hp)
    rwa [show skipWhile p bytes index - 1 + 1 = skipWhile p bytes index by omega] at hnext

/-- Both ends of a nonempty word of the class are boundaries. -/
theorem isCharBoundary_backWhile (hends : AsciiEnds bytes) (hindex : index ≤ bytes.length)
    (h : backWhile p bytes index ≠ index) :
    isCharBoundary bytes (backWhile p bytes index) = true ∧ isCharBoundary bytes index = true := by
  have hle := @backWhile_le p bytes index
  obtain ⟨first, hfirst, hpfirst⟩ := mem_of_backWhile_le (p := p) hindex _ (le_refl _) (by omega)
  obtain ⟨last, hlast, hplast⟩ := mem_of_backWhile_le (p := p) hindex (index - 1) (by omega)
    (by omega)
  have hnext := isCharBoundary_succ hends hlast (hascii last hplast)
  rw [show index - 1 + 1 = index by omega] at hnext
  exact ⟨isCharBoundary_of_ascii hfirst (hascii first hpfirst), hnext⟩

end

/-- Where a scan for a class stops. -/
theorem stopAt_spec {p : UInt8 → Bool} (hstart : start ≤ bytes.length) :
    start ≤ stopAt p (bytes.drop start) start bytes.length ∧
      stopAt p (bytes.drop start) start bytes.length ≤ bytes.length ∧
      ((∀ byte, p byte = true → byte.toNat < 128) →
        isCharBoundary bytes (stopAt p (bytes.drop start) start bytes.length) = true) := by
  unfold stopAt
  cases hfind : (bytes.drop start).findIdx? p with
  | none => exact ⟨hstart, le_refl _, fun _ => isCharBoundary_length bytes⟩
  | some offset =>
    obtain ⟨hoffset, hp, _⟩ := List.findIdx?_eq_some_iff_getElem.mp hfind
    have hlength : offset < bytes.length - start := by simpa using hoffset
    change start ≤ start + offset ∧ start + offset ≤ bytes.length ∧ _
    refine ⟨by omega, by omega, ?_⟩
    intro hascii
    have hin : start + offset < bytes.length := by omega
    have hplace : bytes[start + offset]? = some bytes[start + offset] :=
      List.getElem?_eq_getElem hin
    rw [List.getElem_drop] at hp
    exact isCharBoundary_of_ascii hplace (hascii _ hp)

/-- A scan over a slice stops in it or at its end. -/
theorem stopAt_take {p : UInt8 → Bool} {stop : Nat} (hle : start ≤ stop)
    (hstop : stop ≤ bytes.length) :
    start ≤ stopAt p ((bytes.drop start).take (stop - start)) start stop ∧
      stopAt p ((bytes.drop start).take (stop - start)) start stop ≤ stop := by
  have hlength : ((bytes.drop start).take (stop - start)).length = stop - start := by
    rw [List.length_take, List.length_drop]
    omega
  unfold stopAt
  cases hfind : ((bytes.drop start).take (stop - start)).findIdx? p with
  | none => exact ⟨hle, le_refl _⟩
  | some offset =>
    obtain ⟨hoffset, _⟩ := List.findIdx?_eq_some_iff_getElem.mp hfind
    change start ≤ start + offset ∧ start + offset ≤ stop
    omega

/-! ## Loops -/

variable {σ : Type}

/-- A loop over a cursor and a state; its body returns nothing to end it. -/
def loop (body : Nat → σ → Except Fault (Option (Nat × σ))) :
    (fuel : Nat) → Nat → σ → Except Fault σ
  | 0, _, _ => .error .unfinished
  | fuel + 1, cursor, state => do
    match ← body cursor state with
    | none => return state
    | some (next, state) => loop body fuel next state

/-- The body moves the cursor forward. -/
def Advances (body : Nat → σ → Except Fault (Option (Nat × σ))) : Prop :=
  ∀ cursor state next state', body cursor state = .ok (some (next, state')) → cursor < next

/-- The body moves the cursor forward from place to place and keeps the size of the state. -/
structure Scans (At : Nat → Prop) (size : σ → Nat)
    (body : Nat → σ → Except Fault (Option (Nat × σ))) : Prop where
  step : ∀ cursor state, At cursor → ∃ result, body cursor state = .ok result ∧
    ∀ next state', result = some (next, state') →
      cursor < next ∧ At next ∧ size state' = size state
  outside : ∀ cursor state result, ¬ At cursor → body cursor state = .ok result → result = none

section

variable {At : Nat → Prop} {size : σ → Nat} {body : Nat → σ → Except Fault (Option (Nat × σ))}

/-- Such a body moves forward. -/
theorem Scans.advances (h : Scans At size body) : Advances body := by
  intro cursor state next state' hbody
  by_cases hat : At cursor
  · obtain ⟨result, hresult, hnext⟩ := h.step cursor state hat
    rw [hbody] at hresult
    exact (hnext next state' (Except.ok.inj hresult).symm).1
  · cases h.outside cursor state _ hat hbody

variable {cursor : Nat}

/-- A body that stops has a result. -/
theorem exists_step_none {state : σ} (h : body cursor state = .ok none) :
    ∃ result, body cursor state = .ok result ∧ ∀ next state', result = some (next, state') →
      cursor < next ∧ At next ∧ size state' = size state := by
  refine ⟨none, h, ?_⟩
  intro next state' hnone
  cases hnone

/-- A body that moves on has a result. -/
theorem exists_step_some {next : Nat} {state state' : σ}
    (h : body cursor state = .ok (some (next, state'))) (hless : cursor < next) (hat : At next)
    (hsize : size state' = size state) :
    ∃ result, body cursor state = .ok result ∧ ∀ next state', result = some (next, state') →
      cursor < next ∧ At next ∧ size state' = size state := by
  refine ⟨_, h, ?_⟩
  intro _ _ hsome
  cases hsome
  exact ⟨hless, hat, hsize⟩

/-- One turn of the loop. -/
theorem loop_succ {fuel next : Nat} {state state' : σ}
    (h : body cursor state = .ok (some (next, state'))) :
    loop body (fuel + 1) cursor state = loop body fuel next state' := by
  rw [loop, h]
  rfl

theorem loop_stop {fuel : Nat} {state : σ} (h : body cursor state = .ok none) :
    loop body (fuel + 1) cursor state = .ok state := by
  rw [loop, h]
  rfl

/-- A loop whose cursor moves forward over places within a bound ends without a fault. -/
theorem Scans.loop_eq_ok (h : Scans At size body) {bound : Nat}
    (hbound : ∀ cursor, At cursor → cursor ≤ bound) {fuel : Nat} (state : σ)
    (hat : At cursor) (hfuel : bound < fuel + cursor) :
    ∃ state', loop body fuel cursor state = .ok state' ∧ size state' = size state := by
  induction fuel generalizing cursor state with
  | zero =>
    have := hbound cursor hat
    omega
  | succ fuel ih =>
    obtain ⟨result, hbody, hnext⟩ := h.step cursor state hat
    cases result with
    | none => exact ⟨state, loop_stop hbody, rfl⟩
    | some step =>
      obtain ⟨next, state'⟩ := step
      obtain ⟨hless, hthere, hsize⟩ := hnext next state' rfl
      obtain ⟨last, hloop, hlast⟩ := ih state' hthere (by omega)
      exact ⟨last, (loop_succ hbody).trans hloop, hlast.trans hsize⟩

end

/-- A fold of steps that keep the size of the state ends without a fault. -/
theorem foldlM_eq_ok {α : Type} {size : σ → Nat} {f : σ → α → Except Fault σ} {n : Nat}
    {values : List α} (h : ∀ value ∈ values, ∀ state, size state = n →
      ∃ state', f state value = .ok state' ∧ size state' = n)
    (state : σ) (hstate : size state = n) :
    ∃ state', values.foldlM f state = .ok state' ∧ size state' = n := by
  induction values generalizing state with
  | nil => exact ⟨state, rfl, hstate⟩
  | cons value rest ih =>
    obtain ⟨next, hnext, hsize⟩ := h value List.mem_cons_self state hstate
    obtain ⟨last, hlast, hn⟩ := ih (fun v hv => h v (List.mem_cons_of_mem _ hv)) next hsize
    refine ⟨last, ?_, hn⟩
    rw [List.foldlM_cons, hnext]
    exact hlast

/-! ## Slices within bounds -/

theorem sliceFrom_eq_ok {α : Type} {values : List α} (h : start ≤ values.length) :
    sliceFrom values start = .ok (values.drop start) := if_pos h

theorem sliceFrom_eq_error {α : Type} {values : List α}
    (h : ¬ start ≤ values.length) : sliceFrom values start = .error .sliceOutOfRange := if_neg h

theorem slice_eq_ok {α : Type} {values : List α} {stop : Nat} (hle : start ≤ stop)
    (hstop : stop ≤ values.length) :
    slice values start stop = .ok ((values.drop start).take (stop - start)) := if_pos ⟨hle, hstop⟩

theorem textFrom_eq_ok (h : isCharBoundary bytes start = true) :
    textFrom bytes start = .ok (bytes.drop start) := if_pos h

theorem textFrom_eq_error
    (h : ¬ isCharBoundary bytes start = true) : textFrom bytes start = .error .notCharBoundary :=
  if_neg h

theorem textSlice_eq_ok {stop : Nat} (hle : start ≤ stop)
    (hstart : isCharBoundary bytes start = true) (hstop : isCharBoundary bytes stop = true) :
    textSlice bytes start stop = .ok ((bytes.drop start).take (stop - start)) := by
  simp [textSlice, hle, hstart, hstop]

/-- Boundaries are within the text. -/
theorem le_of_isCharBoundary {index : Nat}
    (h : isCharBoundary bytes index = true) : index ≤ bytes.length := by
  by_contra hgt
  have hnone : bytes[index]? = none := List.getElem?_eq_none (by omega)
  simp only [isCharBoundary, hnone, Bool.or_eq_true, beq_iff_eq, Option.any_none,
    Bool.false_eq_true, or_false] at h
  omega

end ByteScan
