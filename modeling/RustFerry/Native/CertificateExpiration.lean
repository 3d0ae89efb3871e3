import RustFerry.ForStd.Words
import RustFerry.Native.Timestamp

/-!
# Expiration of a signing certificate

`parse_certificate_expiration` with its helpers of `crates/rustferry-worker-macos/src/keychain.rs`,
and `rfc3339_from_unix` with `civil_from_days` of `pipeline.rs`. A value that does not fit `i64` is
an overflow.
-/

namespace RustFerry.CertificateExpiration

open Except JobStore Timestamp

/-! ## Machine integers -/

/-- `InvalidCommandOutput` with its reason, or an arithmetic overflow. -/
inductive ExpirationFailure where
  | invalidCommandOutput (reason : String)
  | overflow

/-- The value of an operation on `i64`. -/
def i64 (n : Int) : Except ExpirationFailure Int :=
  if fitsI64 n then .ok n else .error .overflow

/-- `checked_mul`, `checked_add`. -/
def checked (n : Int) : Option Int := if fitsI64 n then some n else none

/-- `str::parse::<u32>`. -/
def parseU32 : List Char → Option Nat
  | '+' :: digits => Text.parseDigits (2 ^ 32) digits
  | digits => Text.parseDigits (2 ^ 32) digits

/-- `str::parse::<i64>`. -/
def parseI64 : List Char → Option Int
  | '+' :: digits => (Text.parseDigits (2 ^ 63) digits).map Int.ofNat
  | '-' :: digits => (Text.parseDigits (2 ^ 63 + 1) digits).map fun n => -Int.ofNat n
  | digits => (Text.parseDigits (2 ^ 63) digits).map Int.ofNat

/-! ## Fields -/

def isAsciiWhitespace (c : Char) : Bool :=
  c == ' ' || c == '\t' || c == '\n' || c == '\x0C' || c == '\r'

def monthNames : List (List Char) :=
  [['J', 'a', 'n'], ['F', 'e', 'b'], ['M', 'a', 'r'], ['A', 'p', 'r'], ['M', 'a', 'y'],
    ['J', 'u', 'n'], ['J', 'u', 'l'], ['A', 'u', 'g'], ['S', 'e', 'p'], ['O', 'c', 't'],
    ['N', 'o', 'v'], ['D', 'e', 'c']]

def parseMonth (value : List Char) : Option Nat :=
  if value ∈ monthNames then some (monthNames.idxOf value + 1) else none

def parseClock (value : List Char) : Option (Nat × Nat × Nat) :=
  match Text.split ':' value with
  | [hour, minute, second] => do
    let hour ← parseU32 hour
    let minute ← parseU32 minute
    let second ← parseU32 second
    if hour < 24 ∧ minute < 60 ∧ second < 60 then some (hour, minute, second) else none
  | _ => none

def daysInMonth (year : Int) (month : Nat) : Nat :=
  if month ∈ [1, 3, 5, 7, 8, 10, 12] then 31
  else if month ∈ [4, 6, 9, 11] then 30
  else if month = 2 then
    if year.tmod 4 = 0 ∧ (year.tmod 100 ≠ 0 ∨ year.tmod 400 = 0) then 29 else 28
  else 0

/-- `notAfter=`. -/
def notAfter : List Char := ['n', 'o', 't', 'A', 'f', 't', 'e', 'r', '=']

def gmt : List Char := ['G', 'M', 'T']

/-! ## Seconds -/

/-- The seconds of a date and a time of the day. -/
def secondsOf (year : Int) (month day hour minute second : Nat) : Except ExpirationFailure Nat := do
  let adjustedYear ← i64 (year - if month ≤ 2 then 1 else 0)
  let era := adjustedYear / 400
  let erasBefore ← i64 (era * 400)
  let yearOfEra ← i64 (adjustedYear - erasBefore)
  let adjustedMonth ← i64 (month + if month > 2 then -3 else 9)
  let monthDays ← i64 (153 * adjustedMonth)
  let monthDays ← i64 (monthDays + 2)
  let monthDays ← i64 (monthDays.tdiv 5 + day)
  let dayOfYear ← i64 (monthDays - 1)
  let yearDays ← i64 (yearOfEra * 365)
  let yearDays ← i64 (yearDays + yearOfEra.tdiv 4)
  let yearDays ← i64 (yearDays - yearOfEra.tdiv 100)
  let dayOfEra ← i64 (yearDays + dayOfYear)
  let eraDays ← i64 (era * 146097)
  let days ← i64 (eraDays + dayOfEra)
  let days ← i64 (days - 719468)
  -- The factors of the time are below 86 400, so that their products fit.
  ofOption (.invalidCommandOutput "expiration timestamp is outside the supported range") do
    let value ← checked (days * 86400)
    let value ← checked (value + hour * 3600)
    let value ← checked (value + minute * 60)
    let value ← checked (value + second)
    toU64 value

/-- The tests of the fields after the shape of the output. -/
def expirationOf (month day : Option Nat) (time : Option (Nat × Nat × Nat)) (year : Option Int) :
    Except ExpirationFailure Nat := do
  let (month, day, (hour, minute, second), year) ←
    ofOption (.invalidCommandOutput "expiration output has an invalid date") do
      return (← month, ← day, ← time, ← year)
  rejectIf (!(1970 ≤ year && year ≤ 9999) || day == 0 || daysInMonth year month < day)
    (.invalidCommandOutput "expiration output has an invalid calendar date")
  secondsOf year month day hour minute second

def parseCertificateExpiration (output : List UInt8) : Except ExpirationFailure Nat := do
  let text ← ofOption (.invalidCommandOutput "expiration output is not UTF-8") (Text.fromUtf8 output)
  let parts := Text.words isAsciiWhitespace (Text.trim text.toList)
  let month := parts[0]?.bind fun value => (Text.stripFront notAfter value).bind parseMonth
  let day := parts[1]?.bind parseU32
  let time := parts[2]?.bind parseClock
  let year := parts[3]?.bind parseI64
  rejectIf (parts[4]? != some gmt || parts[5]?.isSome)
    (.invalidCommandOutput "expiration output has an unexpected shape")
  expirationOf month day time year

/-! ## Text of a number of seconds -/

/-- `PipelineError::ClockInvalid`, or an arithmetic overflow. -/
inductive ClockFailure where
  | clockInvalid
  | overflow

def fits (n : Int) : Except ClockFailure Int := if fitsI64 n then .ok n else .error .overflow

def civilFromDays (daysSinceEpoch : Int) : Except ClockFailure (Int × Nat × Nat) := do
  -- each operation of the source is checked for overflow
  let days ← ofOption .clockInvalid (checked (daysSinceEpoch + 719468))
  let shifted ← fits (if days ≥ 0 then days else days - 146096)
  let era := shifted.tdiv 146097
  let eraDays ← fits (era * 146097)
  let dayOfEra ← fits (days - eraDays)
  let leaps ← fits (dayOfEra - dayOfEra.tdiv 1460)
  let leaps ← fits (leaps + dayOfEra.tdiv 36524)
  let leaps ← fits (leaps - dayOfEra.tdiv 146096)
  let yearOfEra := leaps.tdiv 365
  let eraYears ← fits (era * 400)
  let year ← fits (yearOfEra + eraYears)
  let yearDays ← fits (365 * yearOfEra)
  let yearDays ← fits (yearDays + yearOfEra.tdiv 4)
  let yearDays ← fits (yearDays - yearOfEra.tdiv 100)
  let dayOfYear ← fits (dayOfEra - yearDays)
  let monthDays ← fits (5 * dayOfYear)
  let monthDays ← fits (monthDays + 2)
  let monthPrime := monthDays.tdiv 153
  let daysBefore ← fits (153 * monthPrime)
  let daysBefore ← fits (daysBefore + 2)
  let day ← fits (dayOfYear - daysBefore.tdiv 5)
  let day ← fits (day + 1)
  let month ← fits (monthPrime + if monthPrime < 10 then 3 else -9)
  let year ← fits (year + if month ≤ 2 then 1 else 0)
  let month ← ofOption .clockInvalid (toU64 month)
  let day ← ofOption .clockInvalid (toU64 day)
  return (year, month, day)

/-- `rfc3339_from_unix`; the years after the epoch are not negative. -/
def rfc3339FromUnix (seconds : UInt64) : Except ClockFailure String := do
  let days ← ofOption .clockInvalid (checked (seconds.toNat / 86400 : Nat))
  let daySeconds := seconds.toNat % 86400
  let (year, month, day) ← civilFromDays days
  return timestampText year.toNat month day (daySeconds / 3600) (daySeconds % 3600 / 60)
    (daySeconds % 60)

end RustFerry.CertificateExpiration
