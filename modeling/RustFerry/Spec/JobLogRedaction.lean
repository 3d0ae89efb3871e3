import RustFerry.Native.LogLines

/-!
# The redaction of a line

Every loop of the redaction moves its cursor forward over places of the line, and every slice is
within bounds and at boundaries of characters, except for the loop over flags: at the end of the
line it steps past a flag without a name.
-/

namespace RustFerry.JobLogs

open ByteScan Except

variable {start : Nat}

/-! ## Bytes -/

/-- A class of ASCII bytes. -/
def IsAscii (p : UInt8 → Bool) : Prop := ∀ byte, p byte = true → byte.toNat < 128

theorem isAscii_alphanumeric : IsAscii isAsciiAlphanumeric := by
  intro byte h
  simp only [isAsciiAlphanumeric, isAsciiAlphabetic, Bool.or_eq_true, Bool.and_eq_true,
    decide_eq_true_eq] at h
  omega

theorem isAscii_whitespace : IsAscii isAsciiWhitespace := by
  intro byte h
  simp only [isAsciiWhitespace, Bool.or_eq_true, beq_iff_eq] at h
  omega

theorem isAscii_byte {c : Char} (hc : c.toNat < 128) : IsAscii (isByte c) := by
  intro byte h
  rw [isByte, beq_iff_eq] at h
  omega

theorem IsAscii.or {p q : UInt8 → Bool} (hp : IsAscii p) (hq : IsAscii q) :
    IsAscii fun byte => p byte || q byte := by
  intro byte h
  cases Bool.or_eq_true_iff.mp h with
  | inl h => exact hp byte h
  | inr h => exact hq byte h

theorem isAscii_nameByte : IsAscii isNameByte :=
  ((isAscii_alphanumeric.or (isAscii_byte (by decide))).or (isAscii_byte (by decide))).or
    (isAscii_byte (by decide))

theorem isAscii_githubTokenByte : IsAscii isGithubTokenByte :=
  isAscii_alphanumeric.or (isAscii_byte (by decide))

theorem isAscii_valueEnd : IsAscii isValueEnd :=
  ((isAscii_whitespace.or (isAscii_byte (by decide))).or (isAscii_byte (by decide))).or
    (isAscii_byte (by decide))

theorem toNat_toAsciiLowercase (byte : UInt8) :
    (toAsciiLowercase byte).toNat =
      if 65 ≤ byte.toNat ∧ byte.toNat ≤ 90 then byte.toNat + 32 else byte.toNat := by
  unfold toAsciiLowercase
  by_cases hupper : 65 ≤ byte.toNat ∧ byte.toNat ≤ 90
  · rw [if_pos (by simpa using hupper), if_pos hupper, UInt8.toNat_ofNat']
    omega
  · rw [if_neg (by simpa using hupper), if_neg hupper]

theorem isContinuation_toAsciiLowercase (byte : UInt8) :
    isContinuation (toAsciiLowercase byte) = isContinuation byte := by
  have h := toNat_toAsciiLowercase byte
  simp only [isContinuation]
  split at h
  · rw [h]
    have hsmall : ¬ 128 ≤ byte.toNat := by omega
    have hlower : ¬ 128 ≤ byte.toNat + 32 := by omega
    simp [hsmall, hlower]
  · rw [h]

theorem toAsciiLowercase_small {byte : UInt8} (h : (toAsciiLowercase byte).toNat < 128) :
    byte.toNat < 128 := by
  rw [toNat_toAsciiLowercase] at h
  split at h <;> omega

/-- The line in lower case has the same boundaries. -/
theorem isCharBoundary_lower (bytes : List UInt8) (index : Nat) :
    isCharBoundary (bytes.map toAsciiLowercase) index = isCharBoundary bytes index := by
  simp only [isCharBoundary, List.length_map, List.getElem?_map]
  cases bytes[index]? with
  | none => rfl
  | some byte => simp [isContinuation_toAsciiLowercase]

/-- A mask keeps its length. -/
theorem length_mark (mask : Mask) (start stop : Nat) :
    (mark mask start stop).length = mask.length := by
  simp [mark]

/-! ## Places -/

/-- A place of a line, as bytes. -/
def Within (bytes : List UInt8) (cursor : Nat) : Prop := cursor ≤ bytes.length

/-- A place of a line, as a text. -/
def AtBoundary (bytes : List UInt8) (cursor : Nat) : Prop := isCharBoundary bytes cursor = true

variable {bytes : List UInt8}

/-- An ASCII text that is found in the lower case of a line stands between two boundaries. -/
theorem isCharBoundary_of_find {needle : List UInt8} {place : Nat} (hends : AsciiEnds bytes)
    (hneedle : needle ≠ [] ∧ ∀ b ∈ needle, b.toNat < 128)
    (h : find needle ((bytes.map toAsciiLowercase).drop start) = some place) :
    isCharBoundary bytes (start + place) = true ∧
      isCharBoundary bytes (start + place + needle.length) = true := by
  have hsmall : ∀ index, index < needle.length → ∃ byte, bytes[start + place + index]? = some byte ∧
      byte.toNat < 128 := by
    intro index hindex
    have hbyte := getElem?_of_find h (List.getElem?_eq_getElem hindex)
    rw [List.getElem?_map] at hbyte
    obtain ⟨byte, hbytes, hlower⟩ := Option.map_eq_some_iff.mp hbyte
    refine ⟨byte, hbytes, toAsciiLowercase_small ?_⟩
    rw [hlower]
    exact hneedle.2 _ (List.getElem_mem hindex)
  have hpos : 0 < needle.length := List.length_pos_iff.mpr hneedle.1
  obtain ⟨first, hfirst, hfirstSmall⟩ := hsmall 0 hpos
  obtain ⟨last, hlast, hlastSmall⟩ := hsmall (needle.length - 1) (by omega)
  have hnext := isCharBoundary_succ hends hlast hlastSmall
  have hsum : start + place + (needle.length - 1) + 1 = start + place + needle.length := by omega
  rw [hsum] at hnext
  exact ⟨isCharBoundary_of_ascii hfirst hfirstSmall, hnext⟩

/-- The closing quote is the last byte of the quoted value. -/
theorem quotedLength_spec {quote : UInt8} {escaped : Bool} {length : Nat}
    (h : quotedLength quote escaped bytes = some length) :
    1 ≤ length ∧ length ≤ bytes.length ∧ bytes[length - 1]? = some quote := by
  induction bytes generalizing escaped length with
  | nil => cases h
  | cons byte rest ih =>
    have hlater : ∀ {escaped}, (quotedLength quote escaped rest).map (· + 1) = some length →
        1 ≤ length ∧ length ≤ (byte :: rest).length ∧ (byte :: rest)[length - 1]? = some quote := by
      intro escaped hmap
      obtain ⟨before, hbefore, rfl⟩ := Option.map_eq_some_iff.mp hmap
      obtain ⟨hpos, hle, hquote⟩ := ih hbefore
      refine ⟨by omega, by simpa using hle, ?_⟩
      rw [show before + 1 - 1 = before - 1 + 1 by omega, List.getElem?_cons_succ]
      exact hquote
    rw [quotedLength] at h
    split at h
    · exact hlater h
    · split at h
      · exact hlater h
      · split at h
        · rename_i heq
          cases h
          exact ⟨le_refl _, by simp, by simp [eq_of_beq heq]⟩
        · exact hlater h

/-- The end of a value is a boundary after its start. -/
theorem sensitiveValueEnd_spec (hends : AsciiEnds bytes)
    (hstart : start ≤ bytes.length) (restOfLine : Bool) :
    start ≤ sensitiveValueEnd bytes start restOfLine ∧
      isCharBoundary bytes (sensitiveValueEnd bytes start restOfLine) = true := by
  unfold sensitiveValueEnd
  cases restOfLine with
  | true => exact ⟨hstart, isCharBoundary_length bytes⟩
  | false =>
    simp only [Bool.false_eq_true, if_false]
    cases hvalue : bytes.drop start with
    | nil =>
      have hend : start = bytes.length := by
        have := List.drop_eq_nil_iff.mp hvalue
        omega
      simp only [hend]
      exact ⟨le_refl _, isCharBoundary_length bytes⟩
    | cons quote rest =>
      simp only []
      have hrest : rest = bytes.drop (start + 1) := by
        rw [← List.drop_drop, hvalue]
        rfl
      by_cases hquote : (isByte '\'' quote || isByte '"' quote) = true
      · rw [if_pos hquote]
        cases hlength : quotedLength quote false rest with
        | none => exact ⟨hstart, isCharBoundary_length bytes⟩
        | some length =>
          obtain ⟨hpos, _, hlast⟩ := quotedLength_spec hlength
          have hsmall := (isAscii_byte (c := '\'') (by decide)).or
            (isAscii_byte (c := '"') (by decide)) quote hquote
          rw [hrest, List.getElem?_drop] at hlast
          -- the closing quote is one byte, so a boundary follows
          have hnext := isCharBoundary_succ hends hlast hsmall
          rw [show start + 1 + (length - 1) + 1 = start + 1 + length by omega] at hnext
          exact ⟨by simp only []; omega, hnext⟩
      · rw [if_neg hquote, ← hvalue]
        obtain ⟨hle, _, hboundary⟩ := stopAt_spec (p := isValueEnd) hstart
        exact ⟨hle, hboundary isAscii_valueEnd⟩

/-! ## Loops over bytes -/

theorem scans_urlBody (bytes : List UInt8) : Scans (Within bytes) List.length (urlBody bytes) := by
  constructor
  · intro cursor mask hat
    have hrest := sliceFrom_eq_ok hat
    cases hfind : find (Text.utf8 "://") (bytes.drop cursor) with
    | none =>
      apply exists_step_none
      simp only [urlBody, hrest, hfind, bind, Except.bind]
      rfl
    | some relative =>
      have hle : cursor + relative + 3 ≤ bytes.length := find_le hat hfind
      by_cases hscheme : (backWhile isSchemeByte bytes (cursor + relative) == cursor + relative ||
          !bytes[backWhile isSchemeByte bytes (cursor + relative)]?.any isAsciiAlphabetic) = true
      · apply exists_step_some
        · simp only [urlBody, hrest, hfind, bind, Except.bind]
          rw [if_pos hscheme]
          rfl
        · omega
        · exact hle
        · rfl
      · obtain ⟨hstop, hstopLe, _⟩ := stopAt_spec (p := isAsciiWhitespace) hle
        apply exists_step_some
        · simp only [urlBody, hrest, hfind, bind, Except.bind]
          rw [if_neg hscheme, sliceFrom_eq_ok hle]
          rfl
        · omega
        · exact hstopLe
        · exact length_mark _ _ _
  · intro cursor mask result hat hbody
    rw [urlBody, sliceFrom_eq_error hat] at hbody
    cases hbody

theorem scans_authorityBody (bytes : List UInt8) :
    Scans (Within bytes) List.length (authorityBody bytes) := by
  constructor
  · intro cursor mask hat
    have hrest := sliceFrom_eq_ok hat
    cases hfind : find (Text.utf8 "//") (bytes.drop cursor) with
    | none =>
      apply exists_step_none
      simp only [authorityBody, hrest, hfind, bind, Except.bind]
      rfl
    | some relative =>
      have hle : cursor + relative + 2 ≤ bytes.length := find_le hat hfind
      by_cases hcolon : (decide (0 < cursor + relative) &&
          bytes[cursor + relative - 1]?.any (isByte ':')) = true
      · apply exists_step_some
        · simp only [authorityBody, hrest, hfind, bind, Except.bind]
          rw [if_pos hcolon]
          rfl
        · omega
        · exact hle
        · rfl
      · obtain ⟨hstop, hstopLe, _⟩ := stopAt_spec (p := isAsciiWhitespace) hle
        generalize hend : stopAt isAsciiWhitespace (bytes.drop (cursor + relative + 2))
          (cursor + relative + 2) bytes.length = stop at hstop hstopLe
        -- The end of the authority is within the URL.
        have hurl := slice_eq_ok hstop hstopLe
        have hauthority : cursor + relative + 2 ≤ stopAt isAuthorityEnd
            ((bytes.drop (cursor + relative + 2)).take (stop - (cursor + relative + 2)))
            (cursor + relative + 2) stop ∧ stopAt isAuthorityEnd
            ((bytes.drop (cursor + relative + 2)).take (stop - (cursor + relative + 2)))
            (cursor + relative + 2) stop ≤ stop := stopAt_take hstop hstopLe
        apply exists_step_some
        · simp only [authorityBody, hrest, hfind, bind, Except.bind]
          rw [if_neg hcolon, sliceFrom_eq_ok hle]
          simp only [hend, hurl, slice_eq_ok hauthority.1 (le_trans hauthority.2 hstopLe)]
          rfl
        · omega
        · exact max_le hstopLe hle
        · split
          · exact length_mark _ _ _
          · rfl
  · intro cursor mask result hat hbody
    rw [authorityBody, sliceFrom_eq_error hat] at hbody
    cases hbody

theorem scans_jwtBody (bytes : List UInt8) : Scans (Within bytes) List.length (jwtBody bytes) := by
  constructor
  · intro cursor mask hat
    by_cases hroom : cursor + 4 < bytes.length
    · have hrest := sliceFrom_eq_ok hat
      by_cases htoken : ((Text.utf8 "eyJ").isPrefixOf (bytes.drop cursor) &&
          isTokenBoundary bytes cursor) = true
      · have hstop := skipWhile_le (p := isJwtByte) hat
        apply exists_step_some
        · simp only [jwtBody, hroom, if_true, hrest, bind, Except.bind]
          rw [if_pos htoken]
          rfl
        · omega
        · exact max_le hstop (by omega)
        · split
          · exact length_mark _ _ _
          · rfl
      · apply exists_step_some
        · simp only [jwtBody, hroom, if_true, hrest, bind, Except.bind]
          rw [if_neg htoken]
          rfl
        · omega
        · exact (show cursor + 1 ≤ bytes.length by omega)
        · rfl
    · apply exists_step_none
      simp only [jwtBody, hroom, if_false]
      rfl
  · -- too near to the end for a token
    intro cursor mask result hat hbody
    have hroom : ¬ cursor + 4 < bytes.length := by
      unfold Within at hat
      omega
    rw [jwtBody, if_neg hroom] at hbody
    exact (Except.ok.inj hbody).symm

/-! ## Loops over texts -/

/-- A word that a loop searches for: some ASCII bytes. -/
def IsAsciiWord (word : String) : Prop :=
  Text.utf8 word ≠ [] ∧ ∀ b ∈ Text.utf8 word, b.toNat < 128

instance (word : String) : Decidable (IsAsciiWord word) :=
  @instDecidableAnd _ _ inferInstance (List.decidableBAll _ _)

theorem textFrom_lower {cursor : Nat} (hat : AtBoundary bytes cursor) :
    textFrom (bytes.map toAsciiLowercase) cursor =
      .ok ((bytes.map toAsciiLowercase).drop cursor) := by
  apply textFrom_eq_ok
  rw [isCharBoundary_lower]
  exact hat

theorem textFrom_lower_error {cursor : Nat} (hat : ¬ AtBoundary bytes cursor) :
    textFrom (bytes.map toAsciiLowercase) cursor = .error .notCharBoundary := by
  apply textFrom_eq_error
  rw [isCharBoundary_lower]
  exact hat

/-- A name in lower case, between two boundaries. -/
theorem textSlice_lower {stop : Nat} (hle : start ≤ stop)
    (hstart : AtBoundary bytes start) (hstop : AtBoundary bytes stop) :
    textSlice (bytes.map toAsciiLowercase) start stop =
      .ok (((bytes.map toAsciiLowercase).drop start).take (stop - start)) := by
  apply textSlice_eq_ok hle
  · rw [isCharBoundary_lower]
    exact hstart
  · rw [isCharBoundary_lower]
    exact hstop

/-- Where the value after a key begins. -/
def valueStart (bytes : List UInt8) (hasMarker : Bool) (separator : Nat) : Nat :=
  if hasMarker then skipWhile isAsciiWhitespace bytes (separator + 1) else separator

/-- Where the value of an assignment starts. -/
theorem valueStart_spec {hasMarker : Bool} {keyEnd separator : Nat}
    (hmarker : (bytes[separator]?.any fun byte => isByte '=' byte || isByte ':' byte) = hasMarker)
    (hle : keyEnd ≤ separator) (hseparator : separator ≤ bytes.length) :
    keyEnd ≤ valueStart bytes hasMarker separator ∧
      valueStart bytes hasMarker separator ≤ bytes.length := by
  unfold valueStart
  cases hasMarker with
  | false => exact ⟨hle, hseparator⟩
  | true =>
    obtain ⟨byte, hbyte, _⟩ := (Option.any_eq_true _ _).mp hmarker
    have hlt := (List.getElem?_eq_some_iff.mp hbyte).1
    have hskip := @le_skipWhile isAsciiWhitespace bytes (separator + 1)
    exact ⟨by simp only [if_true]; omega, skipWhile_le hlt⟩

theorem exists_dashesBefore (hstart : start ≤ bytes.length) :
    ∃ dashes, dashesBefore bytes start = .ok dashes := by
  unfold dashesBefore
  by_cases htwo : 2 ≤ start
  · rw [if_pos htwo, slice_eq_ok (by omega) hstart]
    exact ⟨_, rfl⟩
  · rw [if_neg htwo]
    exact ⟨_, rfl⟩

section

variable {bytes : List UInt8} (hends : AsciiEnds bytes)
include hends

theorem scans_githubTokenBody {front : String} (hfront : IsAsciiWord front) :
    Scans (AtBoundary bytes) List.length
      (githubTokenBody bytes (bytes.map toAsciiLowercase) front) := by
  constructor
  · intro cursor mask hat
    have hrest := textFrom_lower hat
    cases hfind : find (Text.utf8 front) ((bytes.map toAsciiLowercase).drop cursor) with
    | none =>
      apply exists_step_none
      simp only [githubTokenBody, hrest, hfind, bind, Except.bind]
      rfl
    | some relative =>
      obtain ⟨_, hstop⟩ := isCharBoundary_of_find hends hfront hfind
      have hpos := List.length_pos_iff.mpr hfront.1
      have hskip := @le_skipWhile isGithubTokenByte bytes
        (cursor + relative + (Text.utf8 front).length)
      apply exists_step_some
      · simp only [githubTokenBody, hrest, hfind, bind, Except.bind]
        rfl
      · omega
      · exact isCharBoundary_skipWhile isAscii_githubTokenByte hends hstop
      · exact length_mark _ _ _
  · intro cursor mask result hat hbody
    rw [githubTokenBody, textFrom_lower_error hat] at hbody
    cases hbody

theorem scans_schemeBody {scheme : String} (hscheme : IsAsciiWord scheme) :
    Scans (AtBoundary bytes) List.length
      (schemeBody bytes (bytes.map toAsciiLowercase) scheme) := by
  constructor
  · intro cursor mask hat
    have hrest := textFrom_lower hat
    cases hfind : find (Text.utf8 scheme) ((bytes.map toAsciiLowercase).drop cursor) with
    | none =>
      apply exists_step_none
      simp only [schemeBody, hrest, hfind, bind, Except.bind]
      rfl
    | some relative =>
      obtain ⟨_, hstop⟩ := isCharBoundary_of_find hends hscheme hfind
      have hpos := List.length_pos_iff.mpr hscheme.1
      generalize hend : cursor + relative + (Text.utf8 scheme).length = stop at hstop
      -- a scheme in the middle of a word is skipped
      by_cases hword : (isWordBoundary bytes (cursor + relative) stop &&
          bytes[stop]?.any isAsciiWhitespace) = true
      · have hskip := @le_skipWhile isAsciiWhitespace bytes stop
        have hvalue := skipWhile_le (p := isAsciiWhitespace) (le_of_isCharBoundary hstop)
        obtain ⟨hle, hboundary⟩ := sensitiveValueEnd_spec hends hvalue false
        apply exists_step_some
        · simp only [schemeBody, hrest, hfind, hend, bind, Except.bind]
          rw [if_pos hword]
          rfl
        · omega
        · rw [max_eq_left (le_trans hskip hle)]
          exact hboundary
        · exact length_mark _ _ _
      · apply exists_step_some
        · simp only [schemeBody, hrest, hfind, hend, bind, Except.bind]
          rw [if_neg hword]
          rfl
        · omega
        · exact hstop
        · rfl
  · intro cursor mask result hat hbody
    rw [schemeBody, textFrom_lower_error hat] at hbody
    cases hbody

theorem scans_keyBody {key : String} (hkey : IsAsciiWord key) :
    Scans (AtBoundary bytes) List.length (keyBody bytes (bytes.map toAsciiLowercase) key) := by
  constructor
  · intro cursor mask hat
    have hrest := textFrom_lower hat
    cases hfind : find (Text.utf8 key) ((bytes.map toAsciiLowercase).drop cursor) with
    | none =>
      apply exists_step_none
      simp only [keyBody, hrest, hfind, bind, Except.bind]
      rfl
    | some relative =>
      obtain ⟨hstart, hstop⟩ := isCharBoundary_of_find hends hkey hfind
      have hpos := List.length_pos_iff.mpr hkey.1
      obtain ⟨dashes, hdashes⟩ := exists_dashesBefore (le_of_isCharBoundary hstart)
      generalize hend : cursor + relative + (Text.utf8 key).length = keyEnd at hstop
      by_cases hword : (!sensitiveKeyBoundary bytes (cursor + relative) keyEnd) = true
      · apply exists_step_some
        · simp only [keyBody, hrest, hfind, hend, bind, Except.bind]
          rw [if_pos hword]
          rfl
        · omega
        · exact hstop
        · rfl
      · have hskip := @le_skipWhile isAsciiWhitespace bytes keyEnd
        have hseparator := skipWhile_le (p := isAsciiWhitespace) (le_of_isCharBoundary hstop)
        generalize hspace : skipWhile isAsciiWhitespace bytes keyEnd = separator
          at hskip hseparator
        generalize hmarker : (bytes[separator]?.any fun byte =>
          isByte '=' byte || isByte ':' byte) = hasMarker
        by_cases hplain : (!hasMarker && !(dashes && decide (keyEnd < separator))) = true
        · apply exists_step_some
          · simp only [keyBody, hrest, hfind, hend, hdashes, hspace, hmarker, bind, Except.bind]
            rw [if_neg hword, if_pos hplain]
            rfl
          · omega
          · exact hstop
          · rfl
        · -- The value begins after the separator and its whitespace.
          obtain ⟨hvalueLe, hvalue⟩ : keyEnd ≤ valueStart bytes hasMarker separator ∧
              valueStart bytes hasMarker separator ≤ bytes.length :=
            valueStart_spec hmarker hskip hseparator
          obtain ⟨hle, hboundary⟩ := sensitiveValueEnd_spec hends hvalue
            (containsText "authorization" (Text.utf8 key))
          apply exists_step_some
          · simp only [keyBody, hrest, hfind, hend, hdashes, hspace, hmarker, bind, Except.bind]
            rw [if_neg hword, if_neg hplain]
            rfl
          · omega
          · rw [← valueStart, max_eq_left (le_trans hvalueLe hle)]
            exact hboundary
          · exact length_mark _ _ _
  · intro cursor mask result hat hbody
    rw [keyBody, textFrom_lower_error hat] at hbody
    cases hbody

/-- A named assignment is redacted without a fault. -/
theorem redactNamedAssignment_eq_ok {separator : Nat} (hseparator : separator ≤ bytes.length)
    (mask : Mask) :
    ∃ mask', redactNamedAssignment bytes (bytes.map toAsciiLowercase) mask separator = .ok mask' ∧
      mask'.length = mask.length := by
  unfold redactNamedAssignment
  split
  · exact ⟨mask, rfl, rfl⟩
  · simp only []
    generalize hkeyEnd : backWhile isAsciiWhitespace bytes separator = keyEnd
    have hle : keyEnd ≤ bytes.length := by
      rw [← hkeyEnd]
      exact le_trans backWhile_le hseparator
    by_cases hsame : backWhile isNameByte bytes keyEnd = keyEnd
    · rw [if_pos (by simpa using hsame)]
      exact ⟨mask, rfl, rfl⟩
    · obtain ⟨hstart, hend⟩ := isCharBoundary_backWhile isAscii_nameByte hends hle hsame
      rw [if_neg (by simpa using hsame), textSlice_lower backWhile_le hstart hend]
      simp only [bind, Except.bind]
      split
      · exact ⟨mask, rfl, rfl⟩
      · exact ⟨_, rfl, length_mark _ _ _⟩

end

/-! ## Flags -/

/-- Where the value of a flag begins in what follows its name. -/
def flagValueStart (after : List UInt8) : Nat :=
  if after[0]?.any (isByte '=') then 1 else skipWhile isAsciiWhitespace after 0

/-- What follows a flag: nothing at all, for a flag without a name at the end of the line. The flag
has the bytes of a name after `--`, and a value if the name is of something secret; one byte stands
for the name that is missing. -/
def afterFlag (rest : List UInt8) : Option (List UInt8) :=
  let name := rest.takeWhile isNameByte
  let after := rest.drop name.length
  if name.isEmpty then rest.tail?
  else if !sensitiveAssignmentName (name.map toAsciiLowercase) then some after
  else some (after.drop (sensitiveValueEnd after (flagValueStart after) false))

theorem length_afterFlag {rest after : List UInt8} (h : afterFlag rest = some after) :
    after.length ≤ rest.length := by
  unfold afterFlag at h
  simp only [] at h
  split at h
  · cases rest with
    | nil => cases h
    | cons byte rest =>
      cases h
      simp
  · split at h
    · cases h
      simp
    · cases h
      simp only [List.length_drop]
      omega

/-- Reading its flags from the left, the line ends in a flag without a name. -/
def endsInBareFlag (bytes : List UInt8) : Bool :=
  match _hfind : find (Text.utf8 "--") bytes with
  | none => false
  | some place =>
    match _hafter : afterFlag (bytes.drop (place + 2)) with
    | none => true
    | some after => endsInBareFlag after
termination_by bytes.length
decreasing_by
  have hplace := (find_spec _hfind).1
  have hlength : (Text.utf8 "--").length = 2 := rfl
  have hle := length_afterFlag _hafter
  rw [List.length_drop] at hle
  omega

theorem endsInBareFlag_none (hfind : find (Text.utf8 "--") bytes = none) :
    endsInBareFlag bytes = false := by
  unfold endsInBareFlag
  split
  · rfl
  · rename_i hsome
    rw [hfind] at hsome
    cases hsome

/-- A line with a flag ends in a flag without a name if nothing follows, or if what follows does. -/
theorem endsInBareFlag_some {place : Nat} (hfind : find (Text.utf8 "--") bytes = some place) :
    endsInBareFlag bytes = ((afterFlag (bytes.drop (place + 2))).map endsInBareFlag).getD true := by
  rw [endsInBareFlag]
  split
  · rename_i hnone
    rw [hfind] at hnone
    cases hnone
  · rename_i hsome
    rw [hfind] at hsome
    cases hsome
    split
    · rename_i hafter
      rw [hafter]
      rfl
    · rename_i hafter
      rw [hafter]
      rfl

theorem sensitiveValueEnd_drop (hstart : start ≤ bytes.length) (offset : Nat) :
    sensitiveValueEnd bytes (start + offset) false =
      start + sensitiveValueEnd (bytes.drop start) offset false := by
  unfold sensitiveValueEnd
  simp only [Bool.false_eq_true, if_false, List.drop_drop]
  cases bytes.drop (start + offset) with
  | nil => rfl
  | cons quote rest =>
    simp only []
    split
    · cases quotedLength quote false rest with
      | none =>
        simp only [List.length_drop]
        omega
      | some length =>
        simp only []
        omega
    · unfold stopAt
      cases (quote :: rest).findIdx? isValueEnd with
      | none =>
        simp only [List.length_drop]
        omega
      | some place =>
        simp only []
        omega

theorem skipWhile_drop {p : UInt8 → Bool} (bytes : List UInt8) (index offset : Nat) :
    skipWhile p bytes (index + offset) = index + skipWhile p (bytes.drop index) offset := by
  unfold skipWhile
  rw [List.drop_drop]
  omega

theorem sensitiveValueEnd_le (hends : AsciiEnds bytes)
    (hstart : start ≤ bytes.length) : sensitiveValueEnd bytes start false ≤ bytes.length :=
  le_of_isCharBoundary (sensitiveValueEnd_spec hends hstart false).2

theorem flagValueStart_le {after : List UInt8} : flagValueStart after ≤ after.length := by
  unfold flagValueStart
  split
  · rename_i hmarker
    obtain ⟨byte, hbyte, _⟩ := (Option.any_eq_true _ _).mp hmarker
    have := (List.getElem?_eq_some_iff.mp hbyte).1
    omega
  · exact skipWhile_le (Nat.zero_le _)

section

variable {bytes : List UInt8} (hends : AsciiEnds bytes) {cursor place : Nat}

/-- The loop ends without another flag. -/
theorem flagBody_none (hat : cursor ≤ bytes.length) (mask : Mask)
    (hfind : find (Text.utf8 "--") (bytes.drop cursor) = none) :
    flagBody bytes (bytes.map toAsciiLowercase) cursor mask = .ok none := by
  simp only [flagBody, sliceFrom_eq_ok hat, hfind, bind, Except.bind]
  rfl

/-- A flag without a name: the cursor moves over one more byte, also where there is none. -/
theorem flagBody_bare (hat : cursor ≤ bytes.length) (mask : Mask)
    (hfind : find (Text.utf8 "--") (bytes.drop cursor) = some place)
    (hname : (bytes.drop (cursor + place + 2)).takeWhile isNameByte = []) :
    flagBody bytes (bytes.map toAsciiLowercase) cursor mask =
      .ok (some (cursor + place + 3, mask)) := by
  have hend : skipWhile isNameByte bytes (cursor + place + 2) = cursor + place + 2 := by
    rw [skipWhile, hname]
    rfl
  simp only [flagBody, sliceFrom_eq_ok hat, hfind, hend, bind, Except.bind, beq_self_eq_true,
    if_true]
  rw [max_eq_right (by omega)]
  rfl

include hends

/-- A flag with a name: the cursor moves to what follows it. -/
theorem flagBody_named (hat : cursor ≤ bytes.length) (mask : Mask)
    (hfind : find (Text.utf8 "--") (bytes.drop cursor) = some place)
    (hname : (bytes.drop (cursor + place + 2)).takeWhile isNameByte ≠ []) :
    ∃ after next mask', afterFlag (bytes.drop (cursor + place + 2)) = some after ∧
      flagBody bytes (bytes.map toAsciiLowercase) cursor mask = .ok (some (next, mask')) ∧
      cursor < next ∧ next ≤ bytes.length ∧ bytes.drop next = after ∧
      mask'.length = mask.length := by
  have hstart : cursor + place + 2 ≤ bytes.length := find_le hat hfind
  generalize hnameStart : cursor + place + 2 = nameStart at hname hstart ⊢
  generalize hrest : bytes.drop nameStart = rest at hname ⊢
  generalize hword : rest.takeWhile isNameByte = name at hname
  have hend : skipWhile isNameByte bytes nameStart = nameStart + name.length := by
    rw [skipWhile, hrest, hword]
  have hpos := List.length_pos_iff.mpr hname
  have hle : nameStart + name.length ≤ bytes.length := by
    rw [← hend]
    exact skipWhile_le hstart
  have hafter : bytes.drop (nameStart + name.length) = rest.drop name.length := by
    rw [← hrest, List.drop_drop]
  -- The name is a text between two boundaries.
  have hnamed : nameStart < skipWhile isNameByte bytes nameStart := by omega
  obtain ⟨first, hfirst, hfirstName⟩ := mem_of_lt_skipWhile nameStart (le_refl _) hnamed
  have hboundary : AtBoundary bytes nameStart :=
    isCharBoundary_of_ascii hfirst (isAscii_nameByte first hfirstName)
  have hboundaryEnd : AtBoundary bytes (nameStart + name.length) := by
    have := isCharBoundary_skipWhile isAscii_nameByte hends hboundary
    rwa [hend] at this
  have hslice : textSlice (bytes.map toAsciiLowercase) nameStart (nameStart + name.length) =
      .ok (name.map toAsciiLowercase) := by
    rw [textSlice_lower (by omega) hboundary hboundaryEnd, ← List.map_drop, hrest,
      show nameStart + name.length - nameStart = name.length by omega, ← List.map_take,
      ← List.prefix_iff_eq_take.mp (hword ▸ List.takeWhile_prefix isNameByte)]
  have hne : (nameStart + name.length == nameStart) = false := by
    rw [beq_eq_false_iff_ne]
    omega
  have hisEmpty : name.isEmpty = false := by simpa using hname
  by_cases hsensitive : (!sensitiveAssignmentName (name.map toAsciiLowercase)) = true
  · refine ⟨rest.drop name.length, nameStart + name.length, mask, ?_, ?_, by omega, hle, hafter,
      rfl⟩
    · simp only [afterFlag, hword, hisEmpty, hsensitive, if_true, Bool.false_eq_true, if_false]
    · simp only [flagBody, sliceFrom_eq_ok hat, hfind, hnameStart, hend, hne, hslice, bind,
        Except.bind, Bool.false_eq_true, if_false, hsensitive, if_true]
      rw [max_eq_left (by omega)]
      rfl
  · -- The value is read from what follows the name.
    generalize hafterName : rest.drop name.length = after at hafter
    have hlength : after.length = bytes.length - (nameStart + name.length) := by
      rw [← hafter, List.length_drop]
    have hvalueStart : (if bytes[nameStart + name.length]?.any (isByte '=') then
        nameStart + name.length + 1
        else skipWhile isAsciiWhitespace bytes (nameStart + name.length)) =
        nameStart + name.length + flagValueStart after := by
      have hhead : bytes[nameStart + name.length]? = after[0]? := by
        rw [← hafter, List.getElem?_drop]
        rfl
      rw [hhead, flagValueStart]
      split
      · rfl
      · have := skipWhile_drop (p := isAsciiWhitespace) bytes (nameStart + name.length) 0
        rwa [hafter] at this
    have hvalueEnd := sensitiveValueEnd_drop hle (flagValueStart after)
    rw [hafter] at hvalueEnd
    have hvalueLe : nameStart + name.length + flagValueStart after ≤ bytes.length := by
      have := @flagValueStart_le after
      omega
    have hnextLe := sensitiveValueEnd_le hends hvalueLe
    generalize hstartOf : nameStart + name.length + flagValueStart after = start at *
    refine ⟨after.drop (sensitiveValueEnd after (flagValueStart after) false),
      sensitiveValueEnd bytes start false,
      mark mask (cursor + place) (max (sensitiveValueEnd bytes start false) start), ?_, ?_, ?_,
      hnextLe, ?_, length_mark _ _ _⟩
    · simp only [afterFlag, hword, hisEmpty, hsensitive, hafterName, Bool.false_eq_true, if_false]
    · simp only [flagBody, sliceFrom_eq_ok hat, hfind, hnameStart, hend, hne, hslice, bind,
        Except.bind, Bool.false_eq_true, if_false, hsensitive, hvalueStart]
      rw [max_eq_left (by omega)]
      rfl
    · omega
    · rw [hvalueEnd, ← List.drop_drop, hafter]

/-- The loop over flags ends without a fault exactly if no flag without a name ends the line. -/
theorem loop_flagBody {fuel : Nat} (mask : Mask) (hat : cursor ≤ bytes.length)
    (hfuel : bytes.length < fuel + cursor) :
    (endsInBareFlag (bytes.drop cursor) = true →
      loop (flagBody bytes (bytes.map toAsciiLowercase)) fuel cursor mask =
        .error .sliceOutOfRange) ∧
    (endsInBareFlag (bytes.drop cursor) = false →
      ∃ mask', loop (flagBody bytes (bytes.map toAsciiLowercase)) fuel cursor mask = .ok mask' ∧
        mask'.length = mask.length) := by
  induction fuel generalizing cursor mask with
  | zero => omega
  | succ fuel ih =>
    cases hfind : find (Text.utf8 "--") (bytes.drop cursor) with
    | none =>
      rw [endsInBareFlag_none hfind]
      refine ⟨by simp, ?_⟩
      intro _
      exact ⟨mask, loop_stop (flagBody_none hat mask hfind), rfl⟩
    | some place =>
      have hstart : cursor + place + 2 ≤ bytes.length := find_le hat hfind
      rw [endsInBareFlag_some hfind, List.drop_drop, ← Nat.add_assoc]
      by_cases hname : (bytes.drop (cursor + place + 2)).takeWhile isNameByte = []
      · have hbody := flagBody_bare hat mask hfind hname
        cases hrest : bytes.drop (cursor + place + 2) with
        | nil =>
          -- The cursor moves past the end of the line, and the next slice faults.
          have hlength : cursor + place + 2 = bytes.length := by
            have := List.drop_eq_nil_iff.mp hrest
            omega
          refine ⟨?_, by simp [afterFlag]⟩
          intro _
          rw [loop_succ hbody]
          cases fuel with
          | zero => omega
          | succ fuel =>
            rw [loop, flagBody, sliceFrom_eq_error (by omega)]
            rfl
        | cons byte rest =>
          have hnext : cursor + place + 3 ≤ bytes.length := by
            have := congrArg List.length hrest
            rw [List.length_drop, List.length_cons] at this
            omega
          have hdrop : bytes.drop (cursor + place + 3) = rest := by
            rw [← List.drop_drop (i := 1), hrest]
            rfl
          have hafter : afterFlag (byte :: rest) = some rest := by
            rw [hrest] at hname
            simp [afterFlag, hname]
          rw [hafter, loop_succ hbody, Option.map_some, Option.getD_some, ← hdrop]
          exact ih mask hnext (by omega)
      · obtain ⟨after, next, mask', hafter, hbody, hless, hle, hdrop, hsize⟩ :=
          flagBody_named hends hat mask hfind hname
        rw [hafter, loop_succ hbody, Option.map_some, Option.getD_some, ← hdrop, ← hsize]
        exact ih mask' hle (by omega)

theorem advances_flagBody : Advances (flagBody bytes (bytes.map toAsciiLowercase)) := by
  intro cursor mask next mask' hbody
  by_cases hat : cursor ≤ bytes.length
  · cases hfind : find (Text.utf8 "--") (bytes.drop cursor) with
    | none =>
      rw [flagBody_none hat mask hfind] at hbody
      cases hbody
    | some place =>
      by_cases hname : (bytes.drop (cursor + place + 2)).takeWhile isNameByte = []
      · rw [flagBody_bare hat mask hfind hname] at hbody
        cases hbody
        omega
      · obtain ⟨_, _, _, _, hnamed, hless, _⟩ := flagBody_named hends hat mask hfind hname
        rw [hnamed] at hbody
        cases hbody
        exact hless
  · rw [flagBody, sliceFrom_eq_error hat] at hbody
    cases hbody

end

/-! ## Rendering -/

/-- A mask with a bit for each byte has a slice for each character. -/
theorem foldlM_renderCharacter {mask : Mask} {chars : List Char} {rendering : Rendering}
    (h : rendering.index + (chars.flatMap String.utf8EncodeChar).length = mask.length) :
    ∃ last, chars.foldlM (renderCharacter mask) rendering = .ok last := by
  induction chars generalizing rendering with
  | nil => exact ⟨rendering, rfl⟩
  | cons c rest ih =>
    rw [List.flatMap_cons, List.length_append] at h
    have hstop : rendering.index + (String.utf8EncodeChar c).length ≤ mask.length := by omega
    have hslice := slice_eq_ok (Nat.le_add_right _ _) hstop
    have hstep : ∃ next, renderCharacter mask rendering c = .ok next ∧
        next.index = rendering.index + (String.utf8EncodeChar c).length := by
      simp only [renderCharacter, hslice, bind, Except.bind]
      split
      · exact ⟨_, rfl, rfl⟩
      · exact ⟨_, rfl, rfl⟩
    obtain ⟨next, hnext, hindex⟩ := hstep
    rw [List.foldlM_cons, hnext]
    exact ih (by omega)

/-- A mask of the right length is rendered. -/
theorem renderMasked_eq_ok {text : String} {mask : Mask}
    (h : mask.length = (Text.utf8 text).length) :
    ∃ message, renderMasked text mask = .ok message := by
  rw [Text.utf8_eq_flatMap] at h
  obtain ⟨last, hlast⟩ : ∃ last, text.toList.foldlM (renderCharacter mask) ⟨[], false, 0⟩ =
      .ok last := foldlM_renderCharacter (by simp [h])
  rw [renderMasked, hlast]
  exact ⟨_, rfl⟩

/-! ## The redaction -/

/-- The bodies of the loops for a line. -/
def loopBodies (text : String) : List Body :=
  let bytes := Text.utf8 text
  let lower := bytes.map toAsciiLowercase
  [urlBody bytes, authorityBody bytes, jwtBody bytes, flagBody bytes lower] ++
    githubTokenPrefixes.map (githubTokenBody bytes lower) ++
    sensitiveKeys.map (keyBody bytes lower) ++ authorizationSchemes.map (schemeBody bytes lower)

/-- The redaction of the line ends without a fault, whatever bound above its length the loops have,
and each loop moves its cursor forward. -/
def IsTotal (text : String) : Prop :=
  (∀ fuel, (Text.utf8 text).length < fuel → ∃ message, redactLine fuel text = .ok message) ∧
    ∀ body ∈ loopBodies text, Advances body

/-- The words that the loops search for, and a line that ends in a bare flag. -/
theorem searched_evaluate :
    ((∀ front ∈ githubTokenPrefixes, IsAsciiWord front) ∧ (∀ key ∈ sensitiveKeys, IsAsciiWord key) ∧
      ∀ scheme ∈ authorizationSchemes, IsAsciiWord scheme) ∧
    rejectsLine "foo --" = false ∧ find (Text.utf8 "--") (Text.utf8 "foo --") = some 4 ∧
      afterFlag ((Text.utf8 "foo --").drop (4 + 2)) = none := by
  decide +kernel

theorem isAsciiWord_searched :
    (∀ front ∈ githubTokenPrefixes, IsAsciiWord front) ∧ (∀ key ∈ sensitiveKeys, IsAsciiWord key) ∧
      ∀ scheme ∈ authorizationSchemes, IsAsciiWord scheme :=
  searched_evaluate.1

theorem advances_loopBodies (text : String) : ∀ body ∈ loopBodies text, Advances body := by
  have hends := asciiEnds_utf8 text
  intro body hbody
  simp only [loopBodies, List.mem_append, List.mem_cons, List.mem_map, List.not_mem_nil,
    or_false] at hbody
  obtain ((hbytes | ⟨front, hfront, rfl⟩) | ⟨key, hkey, rfl⟩) | ⟨scheme, hscheme, rfl⟩ := hbody
  · obtain rfl | rfl | rfl | rfl := hbytes
    · exact (scans_urlBody _).advances
    · exact (scans_authorityBody _).advances
    · exact (scans_jwtBody _).advances
    · exact advances_flagBody hends
  · exact (scans_githubTokenBody hends (isAsciiWord_searched.1 front hfront)).advances
  · exact (scans_keyBody hends (isAsciiWord_searched.2.1 key hkey)).advances
  · exact (scans_schemeBody hends (isAsciiWord_searched.2.2 scheme hscheme)).advances

section

variable {bytes : List UInt8} {fuel : Nat} (hfuel : bytes.length < fuel)
include hfuel

/-- A pass over bytes ends and keeps the length of the mask. -/
theorem loop_within {body : Body} (h : Scans (Within bytes) List.length body) (mask : Mask) :
    ∃ mask', loop body fuel 0 mask = .ok mask' ∧ mask'.length = mask.length :=
  h.loop_eq_ok (fun _ hat => hat) mask (Nat.zero_le _) hfuel

/-- The passes for some words end and keep the length of the mask. -/
theorem foldlM_loop {words : List String} {body : String → Body}
    (h : ∀ word ∈ words, Scans (AtBoundary bytes) List.length (body word)) (mask : Mask) :
    ∃ mask', words.foldlM (fun mask word => loop (body word) fuel 0 mask) mask = .ok mask' ∧
      mask'.length = mask.length := by
  apply foldlM_eq_ok _ mask rfl
  intro word hword state hstate
  obtain ⟨state', hloop, hsize⟩ := (h word hword).loop_eq_ok (fun _ => le_of_isCharBoundary) state
    (show isCharBoundary bytes 0 = true by simp [isCharBoundary]) hfuel
  exact ⟨state', hloop, hsize.trans hstate⟩

end

/-- The redaction faults at a flag without a name, and else ends with a message. -/
theorem redactLine_cases {text : String} {fuel : Nat} (hfuel : (Text.utf8 text).length < fuel) :
    (endsInBareFlag (Text.utf8 text) = true → redactLine fuel text = .error .sliceOutOfRange) ∧
      (endsInBareFlag (Text.utf8 text) = false →
        ∃ message, redactLine fuel text = .ok message) := by
  have hends := asciiEnds_utf8 text
  unfold redactLine
  generalize hbytes : Text.utf8 text = bytes at hfuel hends
  simp only []
  -- The passes before the loop over flags.
  obtain ⟨mask₁, hurls, hsize₁⟩ := loop_within hfuel (scans_urlBody bytes)
    (List.replicate bytes.length false)
  obtain ⟨mask₂, hauthorities, hsize₂⟩ := loop_within hfuel (scans_authorityBody bytes) mask₁
  obtain ⟨mask₃, htokens, hsize₃⟩ := foldlM_loop hfuel
    (fun front hfront => scans_githubTokenBody hends (isAsciiWord_searched.1 front hfront)) mask₂
  obtain ⟨mask₄, hjwts, hsize₄⟩ := loop_within hfuel (scans_jwtBody bytes) mask₃
  obtain ⟨mask₅, hnames, hsize₅⟩ : ∃ mask', (List.range bytes.length).foldlM
      (redactNamedAssignment bytes (bytes.map toAsciiLowercase)) mask₄ = .ok mask' ∧
      mask'.length = mask₄.length := by
    apply foldlM_eq_ok _ mask₄ rfl
    intro separator hseparator state hstate
    obtain ⟨state', hstep, hsize⟩ := redactNamedAssignment_eq_ok hends
      (Nat.le_of_lt (List.mem_range.mp hseparator)) state
    exact ⟨state', hstep, hsize.trans hstate⟩
  obtain ⟨hbare, hplain⟩ := loop_flagBody hends mask₅ (Nat.zero_le bytes.length) hfuel
  rw [List.drop_zero] at hbare hplain
  simp only [redactUrls, redactGithubTokens, redactJwts, redactSensitiveNamedAssignments, hurls,
    hauthorities, htokens, hjwts, hnames, bind, Except.bind]
  constructor
  · intro hflag
    rw [hbare hflag]
  · intro hflag
    obtain ⟨mask₆, hflags, hsize₆⟩ := hplain hflag
    obtain ⟨mask₇, hkeys, hsize₇⟩ := foldlM_loop hfuel
      (fun key hkey => scans_keyBody hends (isAsciiWord_searched.2.1 key hkey)) mask₆
    obtain ⟨mask₈, hschemes, hsize₈⟩ := foldlM_loop hfuel
      (fun scheme hscheme => scans_schemeBody hends (isAsciiWord_searched.2.2 scheme hscheme)) mask₇
    have hlength : mask₈.length = (Text.utf8 text).length := by
      rw [hsize₈, hsize₇, hsize₆, hsize₅, hsize₄, hsize₃, hsize₂, hsize₁, List.length_replicate,
        hbytes]
    simp only [redactSensitiveAssignments, redactAuthorizationSchemes, hflags, hkeys, hschemes]
    exact renderMasked_eq_ok hlength

/-- A line is redacted without a fault exactly if it does not end in a flag without a name. -/
theorem redactLine_total_iff (text : String) :
    IsTotal text ↔ endsInBareFlag (Text.utf8 text) = false := by
  constructor
  · intro htotal
    obtain ⟨message, hmessage⟩ := htotal.1 _ (Nat.lt_succ_self _)
    by_contra hflag
    have hfault := (redactLine_cases (Nat.lt_succ_self _)).1 (eq_true_of_ne_false hflag)
    rw [hfault] at hmessage
    cases hmessage
  · intro hflag
    refine ⟨?_, advances_loopBodies text⟩
    intro fuel hfuel
    exact (redactLine_cases hfuel).2 hflag

/-- The sanitizer hands the line to the redaction, which faults. -/
theorem sanitizeLine_bareFlag :
    rejectsLine "foo --" = false ∧
      sanitizeLine (Text.utf8 "foo --") = .error .sliceOutOfRange ∧ ¬ IsTotal "foo --" := by
  obtain ⟨hhanded, hfind, hafter⟩ := searched_evaluate.2
  have hflag : endsInBareFlag (Text.utf8 "foo --") = true := by
    rw [endsInBareFlag_some hfind, hafter]
    rfl
  have hfault := (redactLine_cases (Nat.lt_succ_self (Text.utf8 "foo --").length)).1 hflag
  refine ⟨hhanded, ?_, ?_⟩
  · have hnonempty : (Text.utf8 "foo --").isEmpty = false := rfl
    simp only [sanitizeLine, hnonempty, Text.fromUtf8_utf8, hhanded, hfault, Bool.false_eq_true,
      if_false, bind, Except.bind]
  · intro htotal
    obtain ⟨message, hmessage⟩ := htotal.1 _ (Nat.lt_succ_self _)
    rw [hfault] at hmessage
    cases hmessage

end RustFerry.JobLogs
