import RustFerry.Native.CertificateExpiration
import RustFerry.Spec.Timestamp

/-!
# Expirations and timestamps

The seconds that are read from the text of a date and a time are those whose timestamp the worker
writes for the same date and time. No value of the arithmetic overflows, and a day that its month
does not have is rejected.
-/

namespace RustFerry.CertificateExpiration

open Except JobStore Timestamp Gregorian

variable {n year : Int} {α : Type} {month day hour : Nat} {date : Date} {digits : List Char}
  {minute second : Nat}

/-! ## Seconds of a date -/

section

variable (hlow : -2 ^ 62 ≤ n) (hhigh : n ≤ 2 ^ 62)

include hlow hhigh

/-- Numbers in this range fit. -/
theorem fitsI64_eq : fitsI64 n = true := by
  simp only [fitsI64, Bool.and_eq_true, decide_eq_true_eq]
  omega

/-- A number that fits goes on. -/
theorem i64_bind (rest : Int → Except ExpirationFailure
      α) :
    (i64 n >>= rest) = rest n := by
  rw [i64, if_pos (fitsI64_eq hlow hhigh)]
  rfl

/-- The same for a checked operation. -/
theorem checked_eq : checked n = some n := by
  rw [checked, if_pos (fitsI64_eq hlow hhigh)]

/-- The same for the clock. -/
theorem fits_bind (rest : Int → Except ClockFailure α) :
    (fits n >>= rest) = rest n := by
  rw [fits, if_pos (fitsI64_eq hlow hhigh)]
  rfl

end

/-- The lengths of months are those of the calendar. -/
theorem daysInMonth_eq (year month : Nat) :
    daysInMonth (year : Int) month = monthLength year month := by
  have hmod4 : Int.tmod (year : Int) 4 = ((year % 4 : Nat) : Int) := rfl
  have hmod100 : Int.tmod (year : Int) 100 = ((year % 100 : Nat) : Int) := rfl
  have hmod400 : Int.tmod (year : Int) 400 = ((year % 400 : Nat) : Int) := rfl
  have hleap : (Int.tmod (year : Int) 4 = 0 ∧
      (Int.tmod (year : Int) 100 ≠ 0 ∨ Int.tmod (year : Int) 400 = 0)) ↔ isLeap year = true := by
    rw [hmod4, hmod100, hmod400, isLeap, decide_eq_true_eq]
    omega
  unfold daysInMonth
  simp only [hleap, List.mem_cons, List.not_mem_nil, or_false]
  by_cases hmonth : month ≤ 12
  · interval_cases month <;> simp [monthLength]
  · rw [if_neg (by omega), if_neg (by omega), if_neg (by omega)]
    unfold monthLength
    split <;> omega

/-- The values of the arithmetic, as natural numbers. -/
structure Parts (year : Int) (month day : Nat) where
  marchYear : Nat
  marchMonth : Nat
  era : Nat
  yearOfEra : Nat
  leapDays : Nat
  centuries : Nat
  monthDays : Nat
  days : Nat
  marchYear_eq : year - (if month ≤ 2 then 1 else 0) = marchYear
  marchMonth_eq : (month : Int) + (if month > 2 then -3 else 9) = marchMonth
  era_eq : (marchYear : Int) / 400 = era
  yearOfEra_eq : (marchYear : Int) - era * 400 = yearOfEra
  leapDays_eq : Int.tdiv yearOfEra 4 = leapDays
  centuries_eq : Int.tdiv yearOfEra 100 = centuries
  monthDays_eq : Int.tdiv (153 * marchMonth + 2) 5 = monthDays
  days_eq : (era : Int) * 146097 + ((yearOfEra : Int) * 365 + leapDays - centuries +
    ((monthDays : Int) + day - 1)) - 719468 = days
  small : marchYear < 10000 ∧ marchMonth ≤ 11 ∧ era < 10000 ∧ yearOfEra < 400 ∧ leapDays < 400 ∧
    centuries < 400 ∧ monthDays < 10000 ∧ day ≤ 31 ∧ days < 3000000

theorem secondsOf_eq_of_parts (parts : Parts year month day) (hhour : hour < 24)
    (hminute : minute < 60) (hsecond : second < 60) :
    secondsOf year month day hour minute second =
      .ok (parts.days * 86400 + hour * 3600 + minute * 60 + second) := by
  have hsmall := parts.small
  -- The equations of the parts stay out of the context of the bounds.
  unfold secondsOf
  simp only [parts.marchYear_eq, parts.marchMonth_eq]
  rw [i64_bind (by omega) (by omega), parts.era_eq, i64_bind (by omega) (by omega)]
  simp only [parts.yearOfEra_eq]
  rw [i64_bind (by omega) (by omega), i64_bind (by omega) (by omega),
    i64_bind (by omega) (by omega), i64_bind (by omega) (by omega)]
  simp only [parts.monthDays_eq]
  rw [i64_bind (by omega) (by omega), i64_bind (by omega) (by omega),
    i64_bind (by omega) (by omega)]
  simp only [parts.leapDays_eq]
  rw [i64_bind (by omega) (by omega)]
  simp only [parts.centuries_eq]
  rw [i64_bind (by omega) (by omega), i64_bind (by omega) (by omega),
    i64_bind (by omega) (by omega), i64_bind (by omega) (by omega)]
  simp only [parts.days_eq]
  rw [i64_bind (by omega) (by omega), checked_eq (by omega) (by omega), Option.bind_eq_bind,
    Option.bind_some, checked_eq (by omega) (by omega), Option.bind_some,
    checked_eq (by omega) (by omega), Option.bind_some, checked_eq (by omega) (by omega),
    Option.bind_some]
  have hvalue : (parts.days : Int) * 86400 + (hour : Int) * 3600 + (minute : Int) * 60 + second =
      ((parts.days * 86400 + hour * 3600 + minute * 60 + second : Nat) : Int) := by
    push_cast
    rfl
  rw [hvalue]
  rfl

/-- The parts of a date are those of its day number. -/
theorem exists_parts (hvalid : date.Valid) (hyear : 1970 ≤ date.year) (hlast : date.year < 10000) :
    ∃ parts : Parts date.year date.month date.day, parts.days = dayNumber date - 719468 := by
  obtain ⟨n, hn, hsmall⟩ := exists_dateOn hvalid hyear hlast
  have hnumber := dayNumber_dateOn n
  rw [hn] at hnumber
  obtain ⟨hera, hdayOfEra, _⟩ := dayNumber_parts hvalid (by omega)
  obtain ⟨hmonth, hmonth', hday, hday'⟩ := hvalid
  have hlength := (monthLength_pos date.year hmonth hmonth').2
  have hdayOfYear : date.dayOfYear = (153 * date.marchMonth + 2) / 5 + date.day - 1 := rfl
  have hmarch : (date.year : Int) - (if date.month ≤ 2 then 1 else 0) = (date.marchYear : Int) ∧
      date.marchYear < 10000 := by
    unfold Date.marchYear
    split_ifs <;> omega
  have hmarchMonth : (date.month : Int) + (if date.month > 2 then -3 else 9) =
      (date.marchMonth : Int) ∧ date.marchMonth ≤ 11 := by
    unfold Date.marchMonth
    by_cases hearly : date.month ≤ 2
    · rw [if_neg (by omega), if_pos hearly]
      omega
    · rw [if_pos (by omega), if_neg hearly]
      omega
  have hleap := tdiv_eq (date.marchYear % 400) 4
  have hcentury := tdiv_eq (date.marchYear % 400) 100
  have hmonthDays := tdiv_eq (153 * date.marchMonth + 2) 5
  push_cast at hmonthDays
  refine ⟨⟨date.marchYear, date.marchMonth, date.marchYear / 400, date.marchYear % 400,
    date.marchYear % 400 / 4, date.marchYear % 400 / 100, (153 * date.marchMonth + 2) / 5, n,
    hmarch.1, hmarchMonth.1, by omega, by omega, hleap, hcentury, ?_, by omega, by omega⟩, by
      show n = _
      omega⟩
  rw [hmonthDays]
  push_cast
  rfl

/-- The seconds of a date and a time, computed without an overflow. -/
theorem secondsOf_eq (hvalid : date.Valid) (hyear : 1970 ≤ date.year) (hlast : date.year < 10000)
    (hhour : hour < 24) (hminute : minute < 60) (hsecond : second < 60) :
    secondsOf date.year date.month date.day hour minute second =
      .ok ((dayNumber date - 719468) * 86400 + hour * 3600 + minute * 60 + second) := by
  obtain ⟨parts, hparts⟩ := exists_parts hvalid hyear hlast
  rw [secondsOf_eq_of_parts parts hhour hminute hsecond, hparts]

/-! ## Timestamps -/

theorem ok_bind_clock {β : Type} (a : α) (rest : α → Except ClockFailure β) :
    (ofOption ClockFailure.clockInvalid (some a) >>= rest) = rest a := rfl

/-- Division does not leave a range around zero. -/
theorem tdiv_bounds {a m : Int} (b : Nat) (hlow : -m ≤ a) (hhigh : a ≤ m) :
    -m ≤ a.tdiv b ∧ a.tdiv b ≤ m := by
  have habs : (a.tdiv b).natAbs ≤ a.natAbs := Int.natAbs_tdiv_le_natAbs a b
  omega

/-- The arithmetic of timestamps stays in range. -/
theorem civilFromDays_eq (hlow : 0 ≤ n) (hhigh : n ≤ 2 ^ 50) :
    civilFromDays n = ofOption .clockInvalid (Timestamp.civilFromDays n) := by
  have hfits : fitsI64 (n + 719468) = true := fitsI64_eq (by omega) (by omega)
  have hnonneg : n + 719468 ≥ 0 := by omega
  have hok : ∀ {α β : Type} (a : α) (rest : α → Except ClockFailure β),
      ((.ok a : Except ClockFailure α) >>= rest) = rest a := fun _ _ => rfl
  unfold civilFromDays Timestamp.civilFromDays
  simp only [checked_eq (n := n + 719468) (by omega) (by omega), hfits, hnonneg, if_true, ofOption,
    hok]
  generalize hera : (n + 719468).tdiv 146097 = era
  have hdiv := hera
  rw [Int.tdiv_eq_ediv_of_nonneg hnonneg] at hdiv
  generalize hday : n + 719468 - era * 146097 = day
  -- The days of an era are bounded; after that rough bounds are enough.
  have hday_bounds : -146096 ≤ day ∧ day ≤ 146096 := by omega
  have hera_bounds : 0 ≤ era ∧ era ≤ 2 ^ 40 := by omega
  generalize hfour : day.tdiv 1460 = fours
  generalize hhundred : day.tdiv 36524 = hundreds
  generalize hlast : day.tdiv 146096 = last
  have hfours := tdiv_bounds 1460 hday_bounds.1 hday_bounds.2
  have hhundreds := tdiv_bounds 36524 hday_bounds.1 hday_bounds.2
  have hlasts := tdiv_bounds 146096 hday_bounds.1 hday_bounds.2
  push_cast at hfours hhundreds hlasts
  rw [hfour] at hfours
  rw [hhundred] at hhundreds
  rw [hlast] at hlasts
  generalize hyear : (day - fours + hundreds - last).tdiv 365 = year
  have hyears := tdiv_bounds (m := 600000) (a := day - fours + hundreds - last) 365 (by omega)
    (by omega)
  push_cast at hyears
  rw [hyear] at hyears
  generalize hleap : year.tdiv 4 = leaps
  generalize hcentury : year.tdiv 100 = centuries
  have hleaps := tdiv_bounds 4 hyears.1 hyears.2
  have hcenturies := tdiv_bounds 100 hyears.1 hyears.2
  push_cast at hleaps hcenturies
  rw [hleap] at hleaps
  rw [hcentury] at hcenturies
  generalize hdayOfYear : day - (365 * year + leaps - centuries) = dayOfYear
  have hdays : -300000000 ≤ dayOfYear ∧ dayOfYear ≤ 300000000 := by omega
  generalize hmonth : (5 * dayOfYear + 2).tdiv 153 = month
  have hmonths := tdiv_bounds (m := 2000000000) (a := 5 * dayOfYear + 2) 153 (by omega) (by omega)
  push_cast at hmonths
  rw [hmonth] at hmonths
  generalize hbefore : (153 * month + 2).tdiv 5 = before
  have hbefores := tdiv_bounds (m := 400000000000) (a := 153 * month + 2) 5 (by omega) (by omega)
  push_cast at hbefores
  rw [hbefore] at hbefores
  -- Each value is in range, so that the two computations take the same steps.
  rw [fits_bind (by omega) (by omega)]
  clear hdiv hok hfits hnonneg
  simp (disch := omega) only [fits_bind, hera, hday, hfour, hhundred, hlast, hyear, hleap, hcentury,
    hdayOfYear, hmonth, hbefore]
  cases toU64 (month + if month < 10 then 3 else -9) with
  | none => rfl
  | some value => cases toU64 (dayOfYear - before + 1) <;> rfl

/-- The text of every number of seconds is that of the calendar. -/
theorem rfc3339FromUnix_eq (seconds : UInt64) :
    rfc3339FromUnix seconds = .ok (instantText seconds.toNat) := by
  have hbound := seconds.toNat_lt
  have hcivil := civilFromDays_eq (n := ((seconds.toNat / 86400 : Nat) : Int)) (by omega) (by omega)
  rw [civilFromDays_dateOn (by omega)] at hcivil
  unfold rfc3339FromUnix
  rw [checked_eq (by omega) (by omega), ok_bind_clock, hcivil, ok_bind_clock]
  rfl

/-! ## Words -/

theorem isAsciiWhitespace_of_isDigit {c : Char} (h : c.isDigit = true) :
    isAsciiWhitespace c = false := by
  have hne : ∀ d : Char, d.isDigit = false → c ≠ d := by
    intro d hd heq
    rw [heq, hd] at h
    cases h
  simp [isAsciiWhitespace, hne ' ' rfl, hne '\t' rfl, hne '\n' rfl, hne '\x0C' rfl, hne '\r' rfl]

theorem words_replicate (k : Nat) (rest : List Char) :
    Text.words isAsciiWhitespace (List.replicate k ' ' ++ rest) =
      Text.words isAsciiWhitespace rest := by
  induction k with
  | zero => rfl
  | succ k ih =>
    rw [List.replicate_succ, List.cons_append, Text.words_cons_separator rfl]
    exact ih

/-- A word ends at a space. -/
theorem words_append_space {word : List Char} (hne : word ≠ [])
    (hfree : ∀ c ∈ word, isAsciiWhitespace c = false) (rest : List Char) :
    Text.words isAsciiWhitespace (word ++ ' ' :: rest) =
      word :: Text.words isAsciiWhitespace rest :=
  Text.words_append hne hfree rfl rest

/-- Digits are a word. -/
theorem words_digits (hne : digits ≠ []) (h : ∀ c ∈ digits, c.isDigit = true) (rest : List Char) :
    Text.words isAsciiWhitespace (digits ++ ' ' :: rest) =
      digits :: Text.words isAsciiWhitespace rest :=
  words_append_space hne (fun c hc => isAsciiWhitespace_of_isDigit (h c hc)) rest

theorem parseU32_digits (h : ∀ c ∈ digits, c.isDigit = true) :
    parseU32 digits = Text.parseDigits (2 ^ 32) digits := by
  unfold parseU32
  split
  · exact absurd (h '+' List.mem_cons_self) (by decide)
  · rfl

theorem parseI64_digits (h : ∀ c ∈ digits, c.isDigit = true) :
    parseI64 digits = (Text.parseDigits (2 ^ 63) digits).map Int.ofNat := by
  unfold parseI64
  split
  · exact absurd (h '+' List.mem_cons_self) (by decide)
  · exact absurd (h '-' List.mem_cons_self) (by decide)
  · rfl

/-- Padded numbers are read back. -/
theorem parseU32_zeroPadded {width n : Nat} (h : n < 2 ^ 32) :
    parseU32 (zeroPadded width n) = some n := by
  rw [parseU32_digits isDigit_of_mem_zeroPadded, parseDigits_zeroPadded h]

/-! ## Text of an expiration -/

/-- The short name of a month. -/
def monthName (month : Nat) : List Char := monthNames.getD (month - 1) []

/-- `%2d`. -/
def spacePadded (n : Nat) : List Char :=
  List.replicate (2 - (Json.decimal n).length) ' ' ++ Json.decimal n

def clockText (hour minute second : Nat) : List Char :=
  zeroPadded 2 hour ++ ':' :: (zeroPadded 2 minute ++ ':' :: zeroPadded 2 second)

/-- The line of OpenSSL for a number of seconds, without its last character. -/
def notAfterLine (seconds : Nat) : List Char :=
  let date := dateOn (seconds / 86400)
  notAfter ++ monthName date.month ++ ' ' :: (spacePadded date.day ++ ' ' ::
    (clockText (seconds % 86400 / 3600) (seconds % 86400 % 3600 / 60) (seconds % 86400 % 60) ++
      ' ' :: (Json.decimal date.year ++ ' ' :: gmt)))

/-- The output of OpenSSL for a number of seconds. -/
def notAfterText (seconds : Nat) : String := String.ofList (notAfterLine seconds ++ ['\n'])

/-- Month names are read back. -/
theorem monthName_spec : ∀ month < 13, 1 ≤ month →
    parseMonth (monthName month) = some month ∧
      (notAfter ++ monthName month).all (fun c => !isAsciiWhitespace c) = true := by
  decide

theorem parseMonth_bounds {value : List Char} (h : parseMonth value = some month) :
    1 ≤ month ∧ month ≤ 12 := by
  unfold parseMonth at h
  split at h
  · rename_i hmem
    have hindex := List.idxOf_lt_length_of_mem hmem
    have hlength : monthNames.length = 12 := rfl
    have heq := Option.some.inj h
    omega
  · cases h

theorem isWhitespace_clock :
    ∀ c ∈ clockText hour minute second, isAsciiWhitespace c = false := by
  intro c hc
  have hdigits : ∀ n, ∀ c ∈ zeroPadded 2 n, isAsciiWhitespace c = false := fun n c hc =>
    isAsciiWhitespace_of_isDigit (isDigit_of_mem_zeroPadded c hc)
  simp only [clockText, List.mem_append, List.mem_cons] at hc
  obtain hc | rfl | hc | rfl | hc := hc
  · exact hdigits hour c hc
  · rfl
  · exact hdigits minute c hc
  · rfl
  · exact hdigits second c hc

theorem parseClock_clockText (hhour : hour < 24) (hminute : minute < 60) (hsecond : second < 60) :
    parseClock (clockText hour minute second) = some (hour, minute, second) := by
  have hfree : ∀ n, ∀ c ∈ zeroPadded 2 n, (c == ':') = false := by
    intro n c hc
    have hdigit := isDigit_of_mem_zeroPadded c hc
    simp only [beq_eq_false_iff_ne]
    intro heq
    rw [heq] at hdigit
    exact absurd hdigit (by decide)
  have hsplit : Text.split ':' (clockText hour minute second) =
      [zeroPadded 2 hour, zeroPadded 2 minute, zeroPadded 2 second] := by
    rw [Text.split, clockText, List.splitOnP_append_cons_of_forall_mem (hfree hour) ':' rfl,
      List.splitOnP_append_cons_of_forall_mem (hfree minute) ':' rfl,
      List.splitOnP_eq_singleton (hfree second)]
  unfold parseClock
  rw [hsplit]
  simp [parseU32_zeroPadded (show hour < 2 ^ 32 by omega),
    parseU32_zeroPadded (show minute < 2 ^ 32 by omega),
    parseU32_zeroPadded (show second < 2 ^ 32 by omega), hhour, hminute, hsecond]

/-- The words of the output. -/
theorem words_notAfterText (seconds : Nat) :
    Text.words isAsciiWhitespace (Text.trim (notAfterText seconds).toList) =
      [notAfter ++ monthName (dateOn (seconds / 86400)).month,
        Json.decimal (dateOn (seconds / 86400)).day,
        clockText (seconds % 86400 / 3600) (seconds % 86400 % 3600 / 60) (seconds % 86400 % 60),
        Json.decimal (dateOn (seconds / 86400)).year, gmt] := by
  obtain ⟨hvalid, _⟩ := valid_dateOn (seconds / 86400)
  have hmonth := (monthName_spec _ (Nat.lt_succ_of_le hvalid.month_le) hvalid.month_pos).2
  have hdecimal : ∀ n, ∀ c ∈ Json.decimal n, c.isDigit = true := Json.isDigit_of_mem_decimal
  -- The line starts with a letter and ends with one.
  have hhead : (notAfterLine seconds).head? = some 'n' := rfl
  have hlast : (notAfterLine seconds).getLast? = some 'T' := by
    simp only [notAfterLine, ← List.cons_append, ← List.append_assoc]
    rw [List.getLast?_append]
    rfl
  have htrim : Text.trim (notAfterText seconds).toList = notAfterLine seconds := by
    rw [notAfterText, String.toList_ofList]
    have hnewline : ∀ c ∈ ['\n'], Text.isWhitespace c = true := by
      intro c hc
      rw [List.mem_singleton.mp hc]
      decide
    apply @Text.trim_append [] (notAfterLine seconds) ['\n'] (by simp) hnewline
    · intro c hc
      rw [hhead] at hc
      cases hc
      decide
    · intro c hc
      rw [hlast] at hc
      cases hc
      decide
  have hday : ∀ rest, Text.words isAsciiWhitespace (spacePadded (dateOn (seconds / 86400)).day ++
      ' ' :: rest) = Json.decimal (dateOn (seconds / 86400)).day ::
        Text.words isAsciiWhitespace rest := by
    intro rest
    rw [spacePadded, List.append_assoc, words_replicate,
      words_digits (Json.decimal_ne_nil _) (hdecimal _)]
  have hclock : clockText (seconds % 86400 / 3600) (seconds % 86400 % 3600 / 60)
      (seconds % 86400 % 60) ≠ [] := by
    simp [clockText]
  have hfirst : ∀ c ∈ notAfter ++ monthName (dateOn (seconds / 86400)).month,
      isAsciiWhitespace c = false := by
    intro c hc
    simpa using List.all_eq_true.mp hmonth c hc
  have hgmt : Text.words isAsciiWhitespace gmt = [gmt] := by decide
  rw [htrim, notAfterLine, words_append_space (List.append_ne_nil_of_left_ne_nil (by decide) _) hfirst,
    hday, words_append_space hclock isWhitespace_clock,
    words_digits (Json.decimal_ne_nil _) (hdecimal _), hgmt]

/-! ## Reading an expiration -/

/-- Five words with the fields of a date and a time, whether the calendar has it or not. -/
structure Denotes (output : List UInt8) (year : Int) (month day hour minute second : Nat) :
    Prop where
  words : ∃ text first dayWord clock yearWord, Text.fromUtf8 output = some text ∧
    Text.words isAsciiWhitespace (Text.trim text.toList) = [first, dayWord, clock, yearWord, gmt] ∧
    (Text.stripFront notAfter first).bind parseMonth = some month ∧ parseU32 dayWord = some day ∧
    parseClock clock = some (hour, minute, second) ∧ parseI64 yearWord = some year

theorem parseClock_bounds {value : List Char} (h : parseClock value = some (hour, minute, second)) :
    hour < 24 ∧ minute < 60 ∧ second < 60 := by
  unfold parseClock at h
  split at h
  · obtain ⟨hour', -, h⟩ := Option.bind_eq_some_iff.mp h
    obtain ⟨minute', -, h⟩ := Option.bind_eq_some_iff.mp h
    obtain ⟨second', -, h⟩ := Option.bind_eq_some_iff.mp h
    split at h
    · rename_i hbounds
      cases h
      exact hbounds
    · cases h
  · cases h

theorem ok_bind_expiration {β : Type} (failure : ExpirationFailure) (a : α)
    (rest : α → Except ExpirationFailure β) : (ofOption failure (some a) >>= rest) = rest a := rfl

theorem rejectIf_false_bind (failure : ExpirationFailure) (rest : Unit → Except ExpirationFailure
      α) :
    (rejectIf false failure >>= rest) = rest () := rfl

theorem parseCertificateExpiration_of_denotes {output : List UInt8}
    (h : Denotes output year month day hour minute second) :
    parseCertificateExpiration output =
      expirationOf (some month) (some day) (some (hour, minute, second)) (some year) := by
  obtain ⟨text, first, dayWord, clock, yearWord, htext, hwords, hmonth, hday, hclock, hyear⟩ :=
    h.words
  unfold parseCertificateExpiration
  rw [htext, ok_bind_expiration, hwords]
  simp [hmonth, hday, hclock, hyear, rejectIf]
  rfl

/-- A date of the calendar before the year 10000 has its seconds, and any other one is rejected. -/
theorem expirationOf_cases (hmonth : 1 ≤ month ∧ month ≤ 12) (hhour : hour < 24)
    (hminute : minute < 60) (hsecond : second < 60) :
    (∃ date : Date, date.Valid ∧ (date.year : Int) = year ∧ date.month = month ∧ date.day = day ∧
      1970 ≤ date.year ∧ date.year < 10000 ∧
      expirationOf (some month) (some day) (some (hour, minute, second)) (some year) =
        .ok ((dayNumber date - 719468) * 86400 + hour * 3600 + minute * 60 + second)) ∨
      (¬ ∃ date : Date, date.Valid ∧ (date.year : Int) = year ∧ date.month = month ∧
        date.day = day ∧ 1970 ≤ date.year ∧ date.year < 10000) ∧
        expirationOf (some month) (some day) (some (hour, minute, second)) (some year) =
          .error (.invalidCommandOutput "expiration output has an invalid calendar date") := by
  have hchecked : expirationOf (some month) (some day) (some (hour, minute, second)) (some year) =
      (rejectIf (!(1970 ≤ year && year ≤ 9999) || day == 0 || daysInMonth year month < day)
        (.invalidCommandOutput "expiration output has an invalid calendar date") >>= fun _ =>
          secondsOf year month day hour minute second) := rfl
  rw [hchecked]
  -- the code's date check, against the calendar
  by_cases hdate : 1970 ≤ year ∧ year ≤ 9999 ∧ 1 ≤ day ∧ day ≤ daysInMonth year month
  · left
    obtain ⟨hfirst, hlast, hday, hlength⟩ := hdate
    obtain ⟨n, rfl⟩ := Int.eq_ofNat_of_zero_le (show 0 ≤ year by omega)
    rw [daysInMonth_eq] at hlength
    have hvalid : Date.Valid ⟨n, month, day⟩ := ⟨hmonth.1, hmonth.2, hday, hlength⟩
    refine ⟨⟨n, month, day⟩, hvalid, rfl, rfl, rfl, by simp only; omega, by simp only; omega, ?_⟩
    have hkept : (!(decide (1970 ≤ (n : Int)) && decide ((n : Int) ≤ 9999)) || day == 0 ||
        decide (daysInMonth n month < day)) = false := by
      rw [daysInMonth_eq]
      simp only [Bool.or_eq_false_iff, Bool.not_eq_false', Bool.and_eq_true, decide_eq_true_eq,
        beq_eq_false_iff_ne, decide_eq_false_iff_not]
      omega
    rw [hkept]
    exact secondsOf_eq hvalid (by simp only; omega) (by simp only; omega) hhour hminute hsecond
  · right
    constructor
    · intro hexists
      obtain ⟨date, hvalid, rfl, rfl, rfl, hfirst, hlast⟩ := hexists
      apply hdate
      rw [daysInMonth_eq]
      exact ⟨by omega, by omega, hvalid.day_pos, hvalid.day_le⟩
    · have hrejected : (!(decide (1970 ≤ year) && decide (year ≤ 9999)) || day == 0 ||
          decide (daysInMonth year month < day)) = true := by
        simp only [Bool.or_eq_true, Bool.not_eq_true', Bool.and_eq_false_iff, decide_eq_false_iff_not,
          beq_iff_eq, decide_eq_true_eq]
        omega
      rw [hrejected]
      rfl

theorem parseCertificateExpiration_ne_overflow (output : List UInt8) :
    parseCertificateExpiration output ≠ .error .overflow := by
  unfold parseCertificateExpiration
  cases Text.fromUtf8 output with
  | none => exact fun h => by cases h
  | some text =>
    rw [ok_bind_expiration]
    dsimp only
    generalize Text.words isAsciiWhitespace (Text.trim text.toList) = parts
    cases parts[4]? != some gmt || parts[5]?.isSome with
    | true => exact fun h => by cases h
    | false =>
      rw [rejectIf_false_bind]
      cases hmonth : parts[0]?.bind fun value => (Text.stripFront notAfter value).bind parseMonth with
      | none => exact fun h => by cases h
      | some month =>
        cases parts[1]?.bind parseU32 with
        | none => exact fun h => by cases h
        | some day =>
          cases hclock : parts[2]?.bind parseClock with
          | none => exact fun h => by cases h
          | some clock =>
            obtain ⟨hour, minute, second⟩ := clock
            cases parts[3]?.bind parseI64 with
            | none => exact fun h => by cases h
            | some year =>
              obtain ⟨_, -, hmonth⟩ := Option.bind_eq_some_iff.mp hmonth
              obtain ⟨_, -, hmonth⟩ := Option.bind_eq_some_iff.mp hmonth
              obtain ⟨_, -, hclock⟩ := Option.bind_eq_some_iff.mp hclock
              obtain ⟨hhour, hminute, hsecond⟩ := parseClock_bounds hclock
              rcases expirationOf_cases (parseMonth_bounds hmonth) hhour hminute hsecond with
                ⟨_, _, _, _, _, _, _, hok⟩ | ⟨_, herror⟩
              · rw [hok]
                exact fun h => by cases h
              · rw [herror]
                exact fun h => by cases h

theorem denotes_notAfterText {seconds : Nat} (hyear : BeforeYear10000 seconds) :
    Denotes (Text.utf8 (notAfterText seconds)) (dateOn (seconds / 86400)).year
      (dateOn (seconds / 86400)).month (dateOn (seconds / 86400)).day (seconds % 86400 / 3600)
      (seconds % 86400 % 3600 / 60) (seconds % 86400 % 60) := by
  obtain ⟨hvalid, -⟩ := valid_dateOn (seconds / 86400)
  have hdecimal : ∀ n, Json.decimal n = zeroPadded 0 n := by
    intro n
    rw [zeroPadded, Nat.zero_sub]
    rfl
  have hday : (dateOn (seconds / 86400)).day < 2 ^ 32 := by
    have hle := hvalid.day_le
    have hlength := (monthLength_pos (dateOn (seconds / 86400)).year hvalid.month_pos
      hvalid.month_le).2
    omega
  have hyear' : (dateOn (seconds / 86400)).year < 10000 := hyear
  refine ⟨_, _, _, _, _, Text.fromUtf8_utf8 _, words_notAfterText seconds, ?_, ?_, ?_, ?_⟩
  · have hstrip : Text.stripFront notAfter
        (notAfter ++ monthName (dateOn (seconds / 86400)).month) =
          some (monthName (dateOn (seconds / 86400)).month) := by
      rw [Text.stripFront, if_pos (List.isPrefixOf_iff_prefix.mpr (List.prefix_append _ _)),
        List.drop_left]
    rw [hstrip]
    exact (monthName_spec _ (Nat.lt_succ_of_le hvalid.month_le) hvalid.month_pos).1
  · rw [hdecimal, parseU32_zeroPadded hday]
  · exact parseClock_clockText (by omega) (by omega) (by omega)
  · rw [parseI64_digits (Json.isDigit_of_mem_decimal _), hdecimal,
      parseDigits_zeroPadded (show (dateOn (seconds / 86400)).year < 2 ^ 63 by omega)]
    rfl

theorem eq_of_fields {date' : Date} (hyear : date.year = date'.year)
    (hmonth : date.month = date'.month) (hday : date.day = date'.day) : date = date' := by
  cases date
  cases date'
  cases hyear
  cases hmonth
  cases hday
  rfl

/-- The text of every number of seconds before the year 10000 is read back as that number, whose
    timestamp is that of the calendar; a text with a day that the calendar does not have is
    rejected; and neither function overflows. -/
theorem expirations_agree :
    (∀ seconds : UInt64, BeforeYear10000 seconds.toNat →
      parseCertificateExpiration (Text.utf8 (notAfterText seconds.toNat)) = .ok seconds.toNat ∧
        rfc3339FromUnix seconds = .ok (instantText seconds.toNat)) ∧
    (∀ output year month day hour minute second,
      Denotes output year month day hour minute second →
      (¬ ∃ date : Date, date.Valid ∧ (date.year : Int) = year ∧ date.month = month ∧
        date.day = day) →
      ∃ reason, parseCertificateExpiration output = .error (.invalidCommandOutput reason)) ∧
    (∀ output, parseCertificateExpiration output ≠ .error .overflow) ∧
    ∀ seconds, rfc3339FromUnix seconds ≠ .error .overflow := by
  refine ⟨?_, ?_, parseCertificateExpiration_ne_overflow, ?_⟩
  · intro seconds hyear
    refine ⟨?_, rfc3339FromUnix_eq seconds⟩
    obtain ⟨hvalid, hfirst⟩ := valid_dateOn (seconds.toNat / 86400)
    rw [parseCertificateExpiration_of_denotes (denotes_notAfterText hyear)]
    have hhour : seconds.toNat % 86400 / 3600 < 24 := by omega
    have hminute : seconds.toNat % 86400 % 3600 / 60 < 60 := by omega
    have hsecond : seconds.toNat % 86400 % 60 < 60 := by omega
    rcases expirationOf_cases ⟨hvalid.month_pos, hvalid.month_le⟩ hhour hminute hsecond
      with ⟨date, _, hdateYear, hdateMonth, hdateDay, _, _, hok⟩ | ⟨hnone, _⟩
    · have hdate : date = dateOn (seconds.toNat / 86400) :=
        eq_of_fields (Int.ofNat.inj hdateYear) hdateMonth hdateDay
      refine hok.trans (congrArg Except.ok ?_)
      rw [hdate, dayNumber_dateOn]
      omega
    · -- the calendar day of the seconds is a day
      exact absurd ⟨_, hvalid, rfl, rfl, rfl, hfirst, hyear⟩ hnone
  · intro output year month day hour minute second hdenotes hnone
    obtain ⟨text, first, dayWord, clock, yearWord, _, _, hmonth, _, hclock, _⟩ := hdenotes.words
    obtain ⟨_, -, hmonth⟩ := Option.bind_eq_some_iff.mp hmonth
    obtain ⟨hhour, hminute, hsecond⟩ := parseClock_bounds hclock
    rw [parseCertificateExpiration_of_denotes hdenotes]
    rcases expirationOf_cases (parseMonth_bounds hmonth) hhour hminute hsecond with
      ⟨date, hvalid, hyear, hmonth, hday, _⟩ | ⟨_, herror⟩
    · exact absurd ⟨date, hvalid, hyear, hmonth, hday⟩ hnone
    · exact ⟨_, herror⟩
  · intro seconds
    rw [rfc3339FromUnix_eq]
    exact fun h => by cases h

theorem expirations_agree_march :
    parseCertificateExpiration (Text.utf8 (notAfterText 5097600)) = .ok 5097600 ∧
      rfc3339FromUnix 5097600 = .ok (instantText 5097600) :=
  have hdays : (5097600 : UInt64).toNat / 86400 = 59 := rfl
  have hyear : BeforeYear10000 (5097600 : UInt64).toNat := by
    rw [BeforeYear10000, hdays]
    decide +kernel
  expirations_agree.1 5097600 hyear

end RustFerry.CertificateExpiration
