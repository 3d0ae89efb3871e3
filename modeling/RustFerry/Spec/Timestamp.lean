import RustFerry.ForStd.FixedDigits
import RustFerry.ForStd.Gregorian
import RustFerry.Native.Timestamp
import RustFerry.Spec.RevisionFiles

/-!
# Timestamps and the calendar

The timestamp of a number of seconds has the date of the calendar and the time of the day. Its fields
have fixed widths, so the texts are ordered as the seconds are, and the validation accepts exactly the
timestamps of dates from 1970 to 9999.
-/

namespace RustFerry.Timestamp

open Gregorian JobStore

variable {bytes : List UInt8}

/-! ## Days -/

/-- The lengths of months are those of the calendar. -/
theorem daysInMonth_eq (year month : Nat) : daysInMonth year month = monthLength year month := by
  unfold daysInMonth monthLength
  split <;> simp [isLeap]

theorem marchMonth_of_dayOfYear {date : Date} (h : date.Valid) :
    (5 * date.dayOfYear + 2) / 153 = date.marchMonth := by
  obtain ⟨year, month, day⟩ := date
  obtain ⟨hmonth, hmonth', hday, hday'⟩ := h
  simp only at hmonth hmonth' hday hday'
  have hlength : day ≤ if month = 2 then 29 else monthLength year month := by
    split
    · rename_i heq
      rw [heq] at hday'
      have hfebruary : monthLength year 2 = if isLeap year then 29 else 28 := rfl
      rw [hfebruary] at hday'
      split at hday' <;> omega
    · exact hday'
  unfold Date.dayOfYear Date.marchMonth
  interval_cases month
  all_goals simp [monthLength] at hlength ⊢
  all_goals omega

theorem tdiv_eq (a b : Nat) : Int.tdiv (a : Int) (b : Int) = ((a / b : Nat) : Int) :=
  (Int.ofNat_tdiv a b).symm

/-- The year of an era, as the source computes it. -/
theorem tdiv_yearOfEra (day : Nat) :
    Int.tdiv ((day : Int) - Int.tdiv day 1460 + Int.tdiv day 36524 - Int.tdiv day 146096) 365 =
      (yearOfEra day : Int) := by
  have h1460 := tdiv_eq day 1460
  have h36524 := tdiv_eq day 36524
  have h146096 := tdiv_eq day 146096
  have hcast : (day : Int) - (day / 1460 : Nat) + (day / 36524 : Nat) - (day / 146096 : Nat) =
      ((day - day / 1460 + day / 36524 - day / 146096 : Nat) : Int) := by
    omega
  have hyear := tdiv_eq (day - day / 1460 + day / 36524 - day / 146096) 365
  simp only [Nat.cast_ofNat] at h1460 h36524 h146096 hyear
  rw [h1460, h36524, h146096, hcast, hyear]
  rfl

/-- The era arithmetic follows the calendar. -/
theorem civilFromDays_dateOn {n : Nat} (hn : n < 2 ^ 62) :
    civilFromDays n = some (((dateOn n).year : Int), (dateOn n).month, (dateOn n).day) := by
  obtain ⟨hvalid, hyear⟩ := valid_dateOn n
  have hnumber := dayNumber_dateOn n
  obtain ⟨hera, hday, hlimit⟩ := dayNumber_parts hvalid (by omega)
  have hmonthPrime := marchMonth_of_dayOfYear hvalid
  generalize dateOn n = date at *
  have hrange : date.marchYear % 400 < 400 := Nat.mod_lt _ (by decide)
  have hyearOf := yearOfEra_eq hrange hlimit
  -- Every intermediate value of the source is a natural number.
  have hdays : (n : Int) + 719468 = (dayNumber date : Int) := by omega
  have hfits : fitsI64 (dayNumber date : Int) = true := by
    simp only [fitsI64, Bool.and_eq_true, decide_eq_true_eq]
    omega
  have hnonneg : (dayNumber date : Int) ≥ 0 := by omega
  have hdiv := tdiv_eq (dayNumber date) 146097
  have hdayOfEra : (dayNumber date : Int) - (date.marchYear / 400 : Nat) * 146097 =
      ((dayNumber date % 146097 : Nat) : Int) := by
    omega
  have hdayOfYear : ((dayNumber date % 146097 : Nat) : Int) -
      (365 * ((date.marchYear % 400 : Nat) : Int) + Int.tdiv (date.marchYear % 400 : Nat) 4 -
        Int.tdiv (date.marchYear % 400 : Nat) 100) = (date.dayOfYear : Int) := by
    have h4 := tdiv_eq (date.marchYear % 400) 4
    have h100 := tdiv_eq (date.marchYear % 400) 100
    simp only [Nat.cast_ofNat] at h4 h100
    rw [h4, h100]
    omega
  have hprime : Int.tdiv (5 * (date.dayOfYear : Int) + 2) 153 = (date.marchMonth : Int) := by
    have h153 := tdiv_eq (5 * date.dayOfYear + 2) 153
    push_cast at h153
    rw [h153]
    omega
  have hback : Int.tdiv (153 * (date.marchMonth : Int) + 2) 5 =
      (((153 * date.marchMonth + 2) / 5 : Nat) : Int) := by
    have h5 := tdiv_eq (153 * date.marchMonth + 2) 5
    push_cast at h5 ⊢
    exact h5
  have hdate : (date.dayOfYear : Int) - (((153 * date.marchMonth + 2) / 5 : Nat) : Int) + 1 =
      (date.day : Int) := by
    have hpos := hvalid.day_pos
    unfold Date.dayOfYear
    omega
  have hmonth : (date.marchMonth : Int) + (if (date.marchMonth : Int) < 10 then 3 else -9) =
      (date.month : Int) := by
    have hpos := hvalid.month_pos
    have hle := hvalid.month_le
    unfold Date.marchMonth
    split_ifs <;> omega
  have hcivil : ((date.marchYear % 400 : Nat) : Int) + ((date.marchYear / 400 : Nat) : Int) * 400 +
      (if (date.month : Int) ≤ 2 then 1 else 0) = (date.year : Int) := by
    have hparts : ((date.marchYear % 400 : Nat) : Int) + ((date.marchYear / 400 : Nat) : Int) * 400 =
        (date.marchYear : Int) := by
      omega
    rw [hparts]
    unfold Date.marchYear
    split_ifs <;> omega
  simp only [Nat.cast_ofNat, hera] at hdiv
  rw [← hday] at hyearOf
  have hmonthValue : toU64 (date.month : Int) = some date.month := rfl
  have hdayValue : toU64 (date.day : Int) = some date.day := rfl
  unfold civilFromDays
  simp only [hdays, hfits, hnonneg, if_true, hdiv, hdayOfEra, tdiv_yearOfEra, hyearOf, hdayOfYear,
    hprime, hback, hdate, hmonth, hcivil, hmonthValue, hdayValue]
  rfl

/-! ## Texts -/

/-- A date and a time whose fields fit their widths. -/
structure Fits (year month day hour minute second : Nat) : Prop where
  year_lt : year < 10000
  month_lt : month < 100
  day_lt : day < 100
  hour_lt : hour < 100
  minute_lt : minute < 100
  second_lt : second < 100

theorem isDigits_zeroPadded (width n : Nat) : Json.IsDigits (zeroPadded width n) :=
  isDigit_of_mem_zeroPadded

/-- Texts of one width are ordered like numbers. -/
theorem zeroPadded_append_lt_iff {width a b : Nat} {x y : List Char} (hwidth : 0 < width)
    (ha : a < 10 ^ width) (hb : b < 10 ^ width) :
    zeroPadded width a ++ x < zeroPadded width b ++ y ↔ a < b ∨ (a = b ∧ x < y) := by
  have hlength : (zeroPadded width a).length = (zeroPadded width b).length := by
    rw [length_zeroPadded hwidth ha, length_zeroPadded hwidth hb]
  have hlt := Json.lt_iff_ofDigits_lt (isDigits_zeroPadded width a) (isDigits_zeroPadded width b)
    hlength
  rw [ofDigits_zeroPadded, ofDigits_zeroPadded] at hlt
  have heq : zeroPadded width a = zeroPadded width b ↔ a = b := by
    constructor
    · intro h
      have hvalue := congrArg Json.ofDigits h
      rwa [ofDigits_zeroPadded, ofDigits_zeroPadded] at hvalue
    · intro h
      rw [h]
  rw [Json.append_lt_append_iff hlength, hlt, heq]

theorem cons_lt_cons_iff_tail {c : Char} {x y : List Char} : c :: x < c :: y ↔ x < y := by
  rw [List.cons_lt_cons_iff]
  simp

/-- The texts are ordered as their fields, from the year on. -/
theorem timestampText_lt_iff {year month day hour minute second : Nat}
    {year' month' day' hour' minute' second' : Nat} (h : Fits year month day hour minute second)
    (h' : Fits year' month' day' hour' minute' second') :
    timestampText year month day hour minute second <
        timestampText year' month' day' hour' minute' second' ↔
      year < year' ∨ (year = year' ∧ (month < month' ∨ (month = month' ∧ (day < day' ∨
        (day = day' ∧ (hour < hour' ∨ (hour = hour' ∧ (minute < minute' ∨ (minute = minute' ∧
          second < second'))))))))) := by
  unfold timestampText
  rw [String.lt_iff_toList_lt, String.toList_ofList, String.toList_ofList,
    zeroPadded_append_lt_iff (by decide) h.year_lt h'.year_lt, cons_lt_cons_iff_tail,
    zeroPadded_append_lt_iff (by decide) h.month_lt h'.month_lt, cons_lt_cons_iff_tail,
    zeroPadded_append_lt_iff (by decide) h.day_lt h'.day_lt, cons_lt_cons_iff_tail,
    zeroPadded_append_lt_iff (by decide) h.hour_lt h'.hour_lt, cons_lt_cons_iff_tail,
    zeroPadded_append_lt_iff (by decide) h.minute_lt h'.minute_lt, cons_lt_cons_iff_tail,
    zeroPadded_append_lt_iff (by decide) h.second_lt h'.second_lt]
  simp

/-! ## Seconds -/

/-- The timestamp of the calendar. -/
def instantText (seconds : Nat) : String :=
  let date := dateOn (seconds / 86400)
  timestampText date.year date.month date.day (seconds % 86400 / 3600)
    (seconds % 86400 % 3600 / 60) (seconds % 86400 % 60)

/-- The year is written with four digits. -/
def BeforeYear10000 (seconds : Nat) : Prop := (dateOn (seconds / 86400)).year < 10000

theorem fits_instant {seconds : Nat} (h : BeforeYear10000 seconds) :
    Fits (dateOn (seconds / 86400)).year (dateOn (seconds / 86400)).month
      (dateOn (seconds / 86400)).day (seconds % 86400 / 3600) (seconds % 86400 % 3600 / 60)
      (seconds % 86400 % 60) := by
  obtain ⟨hvalid, _⟩ := valid_dateOn (seconds / 86400)
  have hmonth := hvalid.month_le
  have hday := hvalid.day_le
  have hlength := (monthLength_pos (dateOn (seconds / 86400)).year hvalid.month_pos
    hvalid.month_le).2
  exact ⟨h, by omega, by omega, by omega, by omega, by omega⟩

/-- Later seconds have later texts. -/
theorem instantText_lt {a b : Nat} (ha : BeforeYear10000 a) (hb : BeforeYear10000 b) (h : a < b) :
    instantText a < instantText b := by
  unfold instantText
  rw [timestampText_lt_iff (fits_instant ha) (fits_instant hb)]
  by_cases hday : a / 86400 = b / 86400
  · -- On one day the time decides.
    rw [hday]
    omega
  · have hbefore := dateOn_before (a := a / 86400) (b := b / 86400) (by omega)
    unfold Date.Before at hbefore
    omega

/-- Texts of instants are ordered like instants. -/
theorem instantText_lt_iff {a b : Nat} (ha : BeforeYear10000 a) (hb : BeforeYear10000 b) :
    instantText a < instantText b ↔ a < b := by
  constructor
  · intro h
    by_cases hle : b ≤ a
    · by_cases heq : b = a
      · rw [heq] at h
        exact absurd h (String.lt_irrefl _)
      · have hback := instantText_lt hb ha (by omega)
        exact absurd (String.lt_trans h hback) (String.lt_irrefl _)
    · omega
  · exact instantText_lt ha hb

theorem workerTimestampFromUnix_eq (seconds : UInt64) :
    workerTimestampFromUnix seconds =
      if (dateOn (seconds.toNat / 86400)).year < 10000 then some (instantText seconds.toNat)
      else none := by
  have hbound := seconds.toNat_lt
  have hdays : fitsI64 ((seconds.toNat / 86400 : Nat) : Int) = true := by
    simp only [fitsI64, Bool.and_eq_true, decide_eq_true_eq]
    omega
  have hcivil := civilFromDays_dateOn (n := seconds.toNat / 86400) (by omega)
  unfold workerTimestampFromUnix
  simp only [hcivil, hdays, Option.bind_eq_bind]
  by_cases hyear : (dateOn (seconds.toNat / 86400)).year < 10000
  · rw [if_pos hyear]
    have hrange : (0 : Int) ≤ (dateOn (seconds.toNat / 86400)).year ∧
        ((dateOn (seconds.toNat / 86400)).year : Int) ≤ 9999 := by omega
    simp [guard, hrange, instantText]
  · rw [if_neg hyear]
    simp [guard]
    omega

/-- The two conversions are the same. -/
theorem rfc3339FromUnix_eq (seconds : UInt64) :
    rfc3339FromUnix seconds = workerTimestampFromUnix seconds := rfl

/-! ## Validation -/

/-- The bytes of digits parse as their number. -/
theorem foldlM_parseDecimal {text : List Char} (h : Json.IsDigits text) {n : Nat}
    (hn : (n + 1) * 10 ^ text.length ≤ 2 ^ 64) :
    (text.map Text.asciiByte).foldlM (fun value byte =>
      if value * 10 < 2 ^ 64 ∧ 48 ≤ byte.toNat ∧ value * 10 + (byte.toNat - 48) < 2 ^ 64 then
        some (value * 10 + (byte.toNat - 48))
      else none) n = some (text.foldl (fun n c => n * 10 + Json.digitValue c) n) := by
  induction text generalizing n with
  | nil => rfl
  | cons c rest ih =>
    obtain ⟨hcode, hdigit⟩ := Json.toNat_of_isDigit h.head
    have hbyte := Text.toNat_asciiByte (c := c) (by omega)
    have hpos : 1 ≤ 10 ^ rest.length := Nat.one_le_pow _ _ (by decide)
    rw [List.length_cons, Nat.pow_succ] at hn
    have hgrow : (n * 10 + 10) * 1 ≤ (n * 10 + 10) * 10 ^ rest.length :=
      Nat.mul_le_mul_left _ hpos
    have hunits : (n + 1) * (10 ^ rest.length * 10) = (n * 10 + 10) * 10 ^ rest.length := by ring
    have hnext : (n * 10 + Json.digitValue c + 1) * 10 ^ rest.length ≤ 2 ^ 64 := by
      have hle : (n * 10 + Json.digitValue c + 1) * 10 ^ rest.length ≤
          (n * 10 + 10) * 10 ^ rest.length := Nat.mul_le_mul_right _ (by omega)
      omega
    have hvalue : (Text.asciiByte c).toNat - 48 = Json.digitValue c := by omega
    rw [List.map_cons, List.foldlM_cons, List.foldl_cons, hvalue, if_pos (by omega)]
    exact ih h.tail hnext

theorem parseDecimal_digits {text : List Char} (h : Json.IsDigits text)
    (hlength : text.length ≤ 18) :
    parseDecimal (text.map Text.asciiByte) = some (Json.ofDigits text) := by
  have hpow : 10 ^ text.length ≤ 10 ^ 18 := Nat.pow_le_pow_right (by decide) hlength
  exact foldlM_parseDecimal h (by omega)

theorem isDigit_asciiByte {c : Char} (h : c.toNat < 128) :
    isDigit (Text.asciiByte c) = true ↔ c.isDigit = true := by
  have hbyte := Text.toNat_asciiByte h
  simp only [isDigit, Char.isDigit, Bool.and_eq_true, decide_eq_true_eq, hbyte, ge_iff_le,
    UInt32.le_iff_toNat_le]
  exact Iff.rfl

theorem exists_four {α : Type} {l : List α} (h : l.length = 4) : ∃ a b c d, l = [a, b, c, d] := by
  obtain ⟨a, rest, rfl⟩ := List.exists_of_length_succ l h
  obtain ⟨b, c, d, rfl⟩ := List.length_eq_three.mp (by simpa using h)
  exact ⟨a, b, c, d, rfl⟩

/-- A timestamp whose fields fit their widths is accepted exactly if they are those of a date. -/
theorem isWorkerTimestamp_timestampText {year month day hour minute second : Nat}
    (h : Fits year month day hour minute second) :
    isWorkerTimestamp (timestampText year month day hour minute second) =
      validParts year month day hour minute second := by
  have hdigits : ∀ width n, ∀ c ∈ zeroPadded width n, c.toNat < 128 ∧ c.isDigit = true := by
    intro width n c hc
    have hdigit := isDigit_of_mem_zeroPadded c hc
    obtain ⟨hcode, hle⟩ := Json.toNat_of_isDigit hdigit
    exact ⟨by omega, hdigit⟩
  have hparse : ∀ width {n}, 0 < width → width ≤ 4 → n < 10 ^ width →
      parseDecimal ((zeroPadded width n).map Text.asciiByte) = some n := by
    intro width n hpos hle hn
    rw [parseDecimal_digits (isDigits_zeroPadded width n)
      (by rw [length_zeroPadded hpos hn]; omega), ofDigits_zeroPadded]
  have hy := hparse 4 (by decide) (by decide) h.year_lt
  have hmo := hparse 2 (by decide) (by decide) h.month_lt
  have hd := hparse 2 (by decide) (by decide) h.day_lt
  have hh := hparse 2 (by decide) (by decide) h.hour_lt
  have hmi := hparse 2 (by decide) (by decide) h.minute_lt
  have hs := hparse 2 (by decide) (by decide) h.second_lt
  have hdigit : ∀ width n, ∀ c ∈ zeroPadded width n, isDigit (Text.asciiByte c) = true := by
    intro width n c hc
    exact (isDigit_asciiByte (hdigits width n c hc).1).mpr (hdigits width n c hc).2
  have hascii : ∀ c ∈ (timestampText year month day hour minute second).toList, c.toNat < 128 := by
    intro c hc
    simp only [timestampText, String.toList_ofList, List.mem_append, List.mem_cons,
      List.not_mem_nil, or_false] at hc
    obtain hc | rfl | hc | rfl | hc | rfl | hc | rfl | hc | rfl | hc | rfl := hc
    all_goals first | decide | exact (hdigits _ _ _ hc).1
  -- The text, character by character.
  obtain ⟨y₁, y₂, y₃, y₄, hyear⟩ := exists_four (length_zeroPadded (by decide) h.year_lt)
  have htwo : ∀ {n}, n < 10 ^ 2 → (zeroPadded 2 n).length = 2 := by
    intro n hn
    exact length_zeroPadded (by decide) hn
  obtain ⟨m₁, m₂, hmonth⟩ := List.length_eq_two.mp (htwo h.month_lt)
  obtain ⟨d₁, d₂, hday⟩ := List.length_eq_two.mp (htwo h.day_lt)
  obtain ⟨h₁, h₂, hhour⟩ := List.length_eq_two.mp (htwo h.hour_lt)
  obtain ⟨n₁, n₂, hminute⟩ := List.length_eq_two.mp (htwo h.minute_lt)
  obtain ⟨s₁, s₂, hsecond⟩ := List.length_eq_two.mp (htwo h.second_lt)
  have hy' := hdigit 4 year
  have hmo' := hdigit 2 month
  have hd' := hdigit 2 day
  have hh' := hdigit 2 hour
  have hmi' := hdigit 2 minute
  have hs' := hdigit 2 second
  have hbytes : Text.utf8 (timestampText year month day hour minute second) =
      (timestampText year month day hour minute second).toList.map Text.asciiByte := by
    rw [Text.utf8_eq_flatMap, Text.flatMap_encode_eq_map hascii]
  simp only [timestampText, String.toList_ofList, hyear, hmonth, hday, hhour, hminute, hsecond,
    List.cons_append, List.nil_append, List.map_cons, List.map_nil] at hbytes hy hmo hd hh hmi hs
  simp only [hyear, hmonth, hday, hhour, hminute, hsecond, List.mem_cons, List.not_mem_nil,
    or_false, forall_eq_or_imp, forall_eq] at hy' hmo' hd' hh' hmi' hs'
  unfold isWorkerTimestamp
  simp only [timestampText, hyear, hmonth, hday, hhour, hminute, hsecond, List.cons_append,
    List.nil_append]
  rw [hbytes]
  have hlayout : hasLayout [Text.asciiByte y₁, Text.asciiByte y₂, Text.asciiByte y₃,
      Text.asciiByte y₄, Text.asciiByte '-', Text.asciiByte m₁, Text.asciiByte m₂,
      Text.asciiByte '-', Text.asciiByte d₁, Text.asciiByte d₂, Text.asciiByte 'T',
      Text.asciiByte h₁, Text.asciiByte h₂, Text.asciiByte ':', Text.asciiByte n₁,
      Text.asciiByte n₂, Text.asciiByte ':', Text.asciiByte s₁, Text.asciiByte s₂,
      Text.asciiByte 'Z'] = true := by
    have hdash : Text.asciiByte '-' = 45 := rfl
    have ht : Text.asciiByte 'T' = 84 := rfl
    have hcolon : Text.asciiByte ':' = 58 := rfl
    have hz : Text.asciiByte 'Z' = 90 := rfl
    simp [hasLayout, separators, List.zipIdx_cons, hy', hmo', hd', hh', hmi', hs', hdash, ht, hcolon,
      hz]
  simp only [hlayout, slice, List.take, List.drop, hy, hmo, hd, hh, hmi, hs]
  simp

/-! ### Accepted texts -/

theorem drop_eq_slice_append {i j : Nat} (hij : i ≤ j) :
    bytes.drop i = slice bytes i j ++ bytes.drop j := by
  have hdrop : bytes.drop j = (bytes.drop i).drop (j - i) := by
    rw [List.drop_drop, Nat.add_sub_cancel' hij]
  unfold slice
  rw [List.drop_take, hdrop, List.take_append_drop]

/-- What is between two separators, and the second one. -/
theorem drop_eq_block {i j : Nat} {separator : UInt8} (hij : i ≤ j)
    (hget : bytes[j]? = some separator) :
    bytes.drop i = slice bytes i j ++ separator :: bytes.drop (j + 1) := by
  obtain ⟨hj, hvalue⟩ := List.getElem?_eq_some_iff.mp hget
  rw [drop_eq_slice_append hij, List.drop_eq_getElem_cons hj, hvalue]

/-- The bytes between separators are digits. -/
theorem isDigit_slice {i j : Nat} (hlayout : hasLayout bytes = true)
    (hfree : ∀ k, i ≤ k → k < j → k ∉ separators.map Prod.fst) :
    ∀ b ∈ slice bytes i j, isDigit b = true := by
  intro b hb
  obtain ⟨k, hk, hget⟩ := List.getElem_of_mem hb
  have hlength : k < j - i := by
    simp only [slice, List.length_drop, List.length_take] at hk
    omega
  have hbyte : bytes[i + k]? = some b := by
    have hsome : (slice bytes i j)[k]? = some b := by
      rw [List.getElem?_eq_getElem hk, hget]
    unfold slice at hsome
    rw [List.getElem?_drop, List.getElem?_take] at hsome
    split at hsome
    · exact hsome
    · cases hsome
  obtain ⟨hall, hdigits⟩ : _ ∧ _ := by simpa only [hasLayout, Bool.and_eq_true] using hlayout
  have hmem : (b, i + k) ∈ bytes.zipIdx := by
    rw [List.mem_zipIdx_iff_getElem?]
    exact hbyte
  have hentry := List.all_eq_true.mp hdigits _ hmem
  have hnot : (separators.map Prod.fst).contains (i + k) = false := by
    simpa using hfree (i + k) (by omega) (by omega)
  simp only [hnot, Bool.false_or] at hentry
  exact hentry

/-- A block of digits of a text, with the number that it is parsed as. -/
theorem exists_block {rest : List Char} {block tail : List UInt8} (separator : Char)
    (hsmall : separator.toNat < 128) (hpos : 0 < block.length)
    (hbytes : rest.map Text.asciiByte = block ++ Text.asciiByte separator :: tail)
    (hascii : ∀ c ∈ rest, c.toNat < 128) (hdigits : ∀ b ∈ block, isDigit b = true)
    (hlength : block.length ≤ 18) :
    ∃ rest' n, rest = zeroPadded block.length n ++ separator :: rest' ∧ n < 10 ^ block.length ∧
      parseDecimal block = some n ∧ rest'.map Text.asciiByte = tail ∧
      ∀ c ∈ rest', c.toNat < 128 := by
  obtain ⟨text, after, rfl, hblock, hafter⟩ := List.map_eq_append_iff.mp hbytes
  obtain ⟨c, rest', rfl, hc, htail⟩ := List.map_eq_cons_iff.mp hafter
  have hsmall' : c.toNat < 128 := hascii c (by simp)
  obtain rfl : c = separator := by
    have hvalue := congrArg UInt8.toNat hc
    rw [Text.toNat_asciiByte hsmall, Text.toNat_asciiByte hsmall'] at hvalue
    exact Char.toNat_inj.mp hvalue
  have htext : Json.IsDigits text := by
    intro d hd
    have hbyte := hdigits (Text.asciiByte d) (by rw [← hblock]; exact List.mem_map_of_mem hd)
    exact (isDigit_asciiByte (hascii d (by simp [hd]))).mp hbyte
  have hlen : text.length = block.length := by rw [← hblock, List.length_map]
  have hlt := Json.ofDigits_lt htext
  rw [hlen] at hlt
  -- The digits are those that the number is written with.
  have hpadded : zeroPadded block.length (Json.ofDigits text) = text := by
    apply Json.ofDigits_inj (isDigits_zeroPadded _ _) htext
    · rw [length_zeroPadded hpos hlt, hlen]
    · rw [ofDigits_zeroPadded]
  refine ⟨rest', Json.ofDigits text, by rw [hpadded], hlt, ?_, htail, ?_⟩
  · rw [← hblock]
    exact parseDecimal_digits htext (by omega)
  · intro d hd
    exact hascii d (by simp [hd])

theorem toNat_lt_of_hasLayout (hlayout : hasLayout bytes = true) :
    ∀ b ∈ bytes, b.toNat < 128 := by
  intro b hb
  obtain ⟨k, hk, hget⟩ := List.getElem_of_mem hb
  have hbyte : bytes[k]? = some b := by rw [List.getElem?_eq_getElem hk, hget]
  obtain ⟨hall, hdigits⟩ : _ ∧ _ := by simpa only [hasLayout, Bool.and_eq_true] using hlayout
  have hentry := List.all_eq_true.mp hdigits (b, k) (by
    rw [List.mem_zipIdx_iff_getElem?]
    exact hbyte)
  simp only [Bool.or_eq_true, List.contains_iff_mem] at hentry
  obtain hplace | hdigit := hentry
  · obtain ⟨pair, hpair, rfl⟩ := List.mem_map.mp hplace
    have hvalue := List.all_eq_true.mp hall pair hpair
    have hsep : bytes[pair.1]? = some pair.2 := by simpa using hvalue
    obtain rfl : b = pair.2 := by
      rw [hbyte] at hsep
      exact Option.some.inj hsep
    have hsmall : ∀ p ∈ separators, p.2.toNat < 128 := by decide
    exact hsmall pair hpair
  · simp only [isDigit, Bool.and_eq_true, decide_eq_true_eq] at hdigit
    omega

/-- What is accepted is the timestamp of a date and a time. -/
theorem exists_of_isWorkerTimestamp {text : String} (h : isWorkerTimestamp text = true) :
    ∃ year month day hour minute second, Fits year month day hour minute second ∧
      text = timestampText year month day hour minute second ∧
      validParts year month day hour minute second = true := by
  unfold isWorkerTimestamp at h
  generalize hbytes : Text.utf8 text = bytes at h
  simp only at h
  split at h
  · cases h
  rename_i hlength
  split at h
  · cases h
  rename_i hlayout
  have hlayout : hasLayout bytes = true := by simpa using hlayout
  have hseparators : ∀ index separator, (index, separator) ∈ separators →
      bytes[index]? = some separator := by
    intro index separator hmem
    obtain ⟨hall, _⟩ : _ ∧ _ := by simpa only [hasLayout, Bool.and_eq_true] using hlayout
    simpa using List.all_eq_true.mp hall _ hmem
  have hlen : bytes.length = 20 := by simpa using hlength
  have hslice : ∀ i j, j ≤ 20 → (slice bytes i j).length = j - i := by
    intro i j hj
    simp only [slice, List.length_drop, List.length_take]
    omega
  have l₀ := hslice 0 4 (by decide)
  have l₁ := hslice 5 7 (by decide)
  have l₂ := hslice 8 10 (by decide)
  have l₃ := hslice 11 13 (by decide)
  have l₄ := hslice 14 16 (by decide)
  have l₅ := hslice 17 19 (by decide)
  -- The bytes are blocks of digits and separators.
  have h₀ := drop_eq_block (i := 0) (j := 4) (by decide) (hseparators 4 45 (by decide))
  have h₁ := drop_eq_block (i := 5) (j := 7) (by decide) (hseparators 7 45 (by decide))
  have h₂ := drop_eq_block (i := 8) (j := 10) (by decide) (hseparators 10 84 (by decide))
  have h₃ := drop_eq_block (i := 11) (j := 13) (by decide) (hseparators 13 58 (by decide))
  have h₄ := drop_eq_block (i := 14) (j := 16) (by decide) (hseparators 16 58 (by decide))
  have h₅ := drop_eq_block (i := 17) (j := 19) (by decide) (hseparators 19 90 (by decide))
  have hend : bytes.drop 20 = [] := List.drop_eq_nil_of_le (by omega)
  have d₀ := isDigit_slice (i := 0) (j := 4) hlayout (by decide)
  have d₁ := isDigit_slice (i := 5) (j := 7) hlayout (by decide)
  have d₂ := isDigit_slice (i := 8) (j := 10) hlayout (by decide)
  have d₃ := isDigit_slice (i := 11) (j := 13) hlayout (by decide)
  have d₄ := isDigit_slice (i := 14) (j := 16) hlayout (by decide)
  have d₅ := isDigit_slice (i := 17) (j := 19) hlayout (by decide)
  have hsmall : ∀ b ∈ Text.utf8 text, b.toNat < 128 := by
    rw [hbytes]
    exact toNat_lt_of_hasLayout hlayout
  have hmap : text.toList.map Text.asciiByte = bytes.drop 0 := by
    rw [← Text.utf8_eq_map hsmall, hbytes, List.drop_zero]
  rw [h₀] at hmap
  obtain ⟨rest₁, year, htext, hyear, hy, hmap, ha₁⟩ := exists_block '-' (by decide)
    (by rw [l₀]; decide) hmap (Text.toNat_lt_of_utf8 hsmall) d₀
    (by rw [l₀]; decide)
  rw [h₁] at hmap
  obtain ⟨rest₂, month, hrest₁, hmonth, hmo, hmap, ha₂⟩ := exists_block '-' (by decide)
    (by rw [l₁]; decide) hmap ha₁ d₁ (by rw [l₁]; decide)
  rw [h₂] at hmap
  obtain ⟨rest₃, day, hrest₂, hday, hd, hmap, ha₃⟩ := exists_block 'T' (by decide)
    (by rw [l₂]; decide) hmap ha₂ d₂ (by rw [l₂]; decide)
  rw [h₃] at hmap
  obtain ⟨rest₄, hour, hrest₃, hhour, hh, hmap, ha₄⟩ := exists_block ':' (by decide)
    (by rw [l₃]; decide) hmap ha₃ d₃
    (by rw [l₃]; decide)
  rw [h₄] at hmap
  obtain ⟨rest₅, minute, hrest₄, hminute, hmi, hmap, ha₅⟩ := exists_block ':'
    (by decide) (by rw [l₄]; decide) hmap ha₄ d₄
    (by rw [l₄]; decide)
  rw [h₅] at hmap
  obtain ⟨rest₆, second, hrest₅, hsecond, hs, hmap, _⟩ := exists_block 'Z' (by decide)
    (by rw [l₅]; decide) hmap ha₅ d₅
    (by rw [l₅]; decide)
  rw [hend, List.map_eq_nil_iff] at hmap
  rw [hy, hmo, hd, hh, hmi, hs] at h
  simp only [l₀, l₁, l₂, Nat.reduceSub] at htext hyear hrest₁ hmonth hrest₂ hday
  simp only [l₃, l₄, l₅, Nat.reduceSub] at hrest₃ hhour hrest₄ hminute hrest₅ hsecond
  refine ⟨year, month, day, hour, minute, second,
    ⟨hyear, hmonth, hday, hhour, hminute, hsecond⟩, ?_, h⟩
  apply String.toList_injective
  rw [htext, hrest₁, hrest₂, hrest₃, hrest₄, hrest₅, hmap, timestampText, String.toList_ofList]

/-! ## The conversions and the validation -/

/-- The parts of the timestamp of a date are valid. -/
theorem validParts_instant (seconds : Nat) :
    validParts (dateOn (seconds / 86400)).year (dateOn (seconds / 86400)).month
      (dateOn (seconds / 86400)).day (seconds % 86400 / 3600) (seconds % 86400 % 3600 / 60)
      (seconds % 86400 % 60) = true := by
  obtain ⟨hvalid, hyear⟩ := valid_dateOn (seconds / 86400)
  obtain ⟨hpos, hle, hday, hday'⟩ := hvalid
  have hhour : seconds % 86400 / 3600 < 24 := by omega
  have hminute : seconds % 3600 / 60 < 60 := by omega
  have hsecond : seconds % 60 < 60 := by omega
  simp [validParts, daysInMonth_eq, hyear, hpos, hle, hday, hday', hhour, hminute, hsecond]

/-- The number of a day determines its date. -/
theorem dayNumber_inj {a b : Date} (ha : a.Valid) (hb : b.Valid) (hyear : 1 ≤ a.year)
    (hyear' : 1 ≤ b.year) (h : dayNumber a = dayNumber b) : a = b := by
  obtain ⟨hera, hday, hlimit⟩ := dayNumber_parts ha hyear
  obtain ⟨hera', hday', hlimit'⟩ := dayNumber_parts hb hyear'
  have hof := yearOfEra_eq (Nat.mod_lt a.marchYear (by decide)) hlimit
  have hof' := yearOfEra_eq (Nat.mod_lt b.marchYear (by decide)) hlimit'
  rw [h] at hera hday
  have hyears : a.marchYear % 400 = b.marchYear % 400 := by
    rw [← hday] at hof
    rw [← hday'] at hof'
    rw [← hof, hof']
  have hmarch : a.marchYear = b.marchYear := by omega
  have hdayOfYear : a.dayOfYear = b.dayOfYear := by
    rw [hyears] at hday
    omega
  have hmonth : a.marchMonth = b.marchMonth := by
    rw [← marchMonth_of_dayOfYear ha, ← marchMonth_of_dayOfYear hb, hdayOfYear]
  obtain ⟨year, month, day⟩ := a
  obtain ⟨year', month', day'⟩ := b
  obtain ⟨hpos, hle, hdayPos, _⟩ := ha
  obtain ⟨hpos', hle', hdayPos', _⟩ := hb
  simp only [Date.mk.injEq]
  unfold Date.dayOfYear at hdayOfYear
  rw [hmonth] at hdayOfYear
  unfold Date.marchMonth at hmonth
  unfold Date.marchYear at hmarch
  simp only at *
  split_ifs at hmonth hmarch <;> omega

theorem daysBefore_ge (year : Nat) (h : 1969 ≤ year) :
    719162 ≤ daysBefore year ∧ (1970 ≤ year → 719527 ≤ daysBefore year) := by
  have hfourth : year / 4 = 25 * (year / 100) + year % 100 / 4 := by omega
  have hcentury : 4 ≤ year / 400 := by omega
  unfold daysBefore
  by_cases h19 : year / 100 = 19
  · have hrest : 17 ≤ year % 100 / 4 := by omega
    omega
  · omega

/-- Every date from 1970 on is reached. -/
theorem exists_dateOn {date : Date} (h : date.Valid) (hyear : 1970 ≤ date.year)
    (hlast : date.year < 10000) : ∃ n, dateOn n = date ∧ n < 3000000 := by
  have hlow : 719468 ≤ dayNumber date := by
    have hpos := h.day_pos
    have hmonth := h.month_pos
    unfold dayNumber Date.dayOfYear Date.marchYear Date.marchMonth
    split_ifs
    · have hdays := (daysBefore_ge (date.year - 1) (by omega)).1
      omega
    · have hdays := (daysBefore_ge date.year (by omega)).2 hyear
      omega
  have hhigh : dayNumber date < 3719468 := by
    obtain ⟨_, _, hlimit⟩ := dayNumber_parts h (by omega)
    have hdays : date.dayOfYear ≤ 365 := by
      split_ifs at hlimit <;> omega
    unfold dayNumber daysBefore Date.marchYear
    split_ifs <;> omega
  refine ⟨dayNumber date - 719468, ?_, by omega⟩
  obtain ⟨hvalid, hyear'⟩ := valid_dateOn (dayNumber date - 719468)
  apply dayNumber_inj hvalid h (by omega) (by omega)
  rw [dayNumber_dateOn]
  omega

/-- A valid text is a timestamp of the calendar. -/
theorem exists_instant {text : String} (h : isWorkerTimestamp text = true) :
    ∃ seconds : UInt64, BeforeYear10000 seconds.toNat ∧ text = instantText seconds.toNat := by
  obtain ⟨year, month, day, hour, minute, second, hfits, rfl, hvalid⟩ :=
    exists_of_isWorkerTimestamp h
  simp only [validParts, Bool.and_eq_true, decide_eq_true_eq, daysInMonth_eq] at hvalid
  obtain ⟨⟨⟨⟨⟨hyear, hmonth⟩, hday⟩, hhour⟩, hminute⟩, hsecond⟩ := hvalid
  have hdate : Date.Valid ⟨year, month, day⟩ := ⟨hmonth.1, hmonth.2, hday.1, hday.2⟩
  obtain ⟨n, hn, hsmall⟩ := exists_dateOn hdate hyear hfits.year_lt
  obtain ⟨time, htime, hday', hhours, hminutes, hseconds⟩ : ∃ time, time < 86400 ∧
      (n * 86400 + time) / 86400 = n ∧ time / 3600 = hour ∧ time % 3600 / 60 = minute ∧
      time % 60 = second :=
    ⟨hour * 3600 + minute * 60 + second, by omega, by omega, by omega, by omega, by omega⟩
  have hrest : (n * 86400 + time) % 86400 = time := by omega
  have hvalue : (UInt64.ofNat (n * 86400 + time)).toNat = n * 86400 + time := by
    rw [UInt64.toNat_ofNat']
    omega
  refine ⟨UInt64.ofNat (n * 86400 + time), ?_, ?_⟩
  · rw [BeforeYear10000, hvalue, hday', hn]
    exact hfits.year_lt
  · rw [hvalue, instantText, hday', hrest, hn, hhours, hminutes, hseconds]

/-- Below the year 10000 both conversions yield the timestamp of the calendar, which is valid; the
texts are ordered as the seconds; and each valid text is the timestamp of one number of seconds. -/
theorem timestamps_agree :
    (∀ seconds : UInt64, BeforeYear10000 seconds.toNat →
      workerTimestampFromUnix seconds = some (instantText seconds.toNat) ∧
        rfc3339FromUnix seconds = some (instantText seconds.toNat) ∧
        isWorkerTimestamp (instantText seconds.toNat) = true) ∧
    (∀ a b : UInt64, ∀ text text', workerTimestampFromUnix a = some text →
      workerTimestampFromUnix b = some text' → (text < text' ↔ a < b)) ∧
    ∀ text, isWorkerTimestamp text = true →
      ∃ seconds, workerTimestampFromUnix seconds = some text ∧
        ∀ other, workerTimestampFromUnix other = some text → other = seconds := by
  have hinstant : ∀ seconds text, workerTimestampFromUnix seconds = some text →
      BeforeYear10000 seconds.toNat ∧ text = instantText seconds.toNat := by
    intro seconds text h
    rw [workerTimestampFromUnix_eq] at h
    split at h
    · rename_i hyear
      exact ⟨hyear, (Option.some.inj h).symm⟩
    · cases h
  refine ⟨?_, ?_, ?_⟩
  · intro seconds hyear
    have heq : workerTimestampFromUnix seconds = some (instantText seconds.toNat) := by
      rw [workerTimestampFromUnix_eq]
      exact if_pos hyear
    refine ⟨heq, by rw [rfc3339FromUnix_eq, heq], ?_⟩
    rw [instantText, isWorkerTimestamp_timestampText (fits_instant hyear)]
    exact validParts_instant seconds.toNat
  · intro a b text text' ha hb
    obtain ⟨hyear, rfl⟩ := hinstant a text ha
    obtain ⟨hyear', rfl⟩ := hinstant b text' hb
    rw [instantText_lt_iff hyear hyear', UInt64.lt_iff_toNat_lt]
  · intro text h
    obtain ⟨seconds, hyear, rfl⟩ := exists_instant h
    have heq : workerTimestampFromUnix seconds = some (instantText seconds.toNat) := by
      rw [workerTimestampFromUnix_eq]
      exact if_pos hyear
    refine ⟨seconds, heq, ?_⟩
    intro other hother
    obtain ⟨hyear', heq⟩ := hinstant other _ hother
    -- Texts of different seconds are ordered, so they differ.
    have hnot : ¬ seconds.toNat < other.toNat := by
      intro hlt
      have hless := instantText_lt hyear hyear' hlt
      rw [← heq] at hless
      exact String.lt_irrefl _ hless
    have hnot' : ¬ other.toNat < seconds.toNat := by
      intro hlt
      have hless := instantText_lt hyear' hyear hlt
      rw [← heq] at hless
      exact String.lt_irrefl _ hless
    exact UInt64.toNat_inj.mp (by omega)

/-- The first of March 1970. -/
theorem timestamps_agree_march :
    workerTimestampFromUnix 5097600 = some (instantText 5097600) ∧
      rfc3339FromUnix 5097600 = some (instantText 5097600) ∧
      isWorkerTimestamp (instantText 5097600) = true := by
  have hdays : (5097600 : UInt64).toNat / 86400 = 59 := rfl
  have hyear : BeforeYear10000 (5097600 : UInt64).toNat := by
    rw [BeforeYear10000, hdays]
    decide +kernel
  exact timestamps_agree.1 5097600 hyear

end RustFerry.Timestamp
