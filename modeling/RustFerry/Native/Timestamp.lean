import RustFerry.Native.RevisionStore

/-!
# Timestamps of workers

`is_worker_timestamp`, `worker_timestamp_from_unix` and `civil_from_days` of
`crates/rustferry-github/src/artifact.rs`, and `rfc3339_from_unix` of `artifact_store.rs`, whose own
`civil_from_days` has the same text.
-/

namespace RustFerry.Timestamp

open JobStore (zeroPadded)

/-! ## From seconds -/

/-- `i64`. -/
def fitsI64 (n : Int) : Bool := -2 ^ 63 ≤ n && n < 2 ^ 63

/-- `u64::try_from`. -/
def toU64 (n : Int) : Option Nat := if 0 ≤ n then some n.toNat else none

/-- `civil_from_days`; division truncates. -/
def civilFromDays (daysSinceEpoch : Int) : Option (Int × Nat × Nat) := do
  let days := daysSinceEpoch + 719468
  guard (fitsI64 days)
  let era := Int.tdiv (if days ≥ 0 then days else days - 146096) 146097
  let dayOfEra := days - era * 146097
  let yearOfEra := Int.tdiv (dayOfEra - Int.tdiv dayOfEra 1460 + Int.tdiv dayOfEra 36524 -
    Int.tdiv dayOfEra 146096) 365
  let year := yearOfEra + era * 400
  let dayOfYear := dayOfEra - (365 * yearOfEra + Int.tdiv yearOfEra 4 - Int.tdiv yearOfEra 100)
  let monthPrime := Int.tdiv (5 * dayOfYear + 2) 153
  let day := dayOfYear - Int.tdiv (153 * monthPrime + 2) 5 + 1
  let month := monthPrime + if monthPrime < 10 then 3 else -9
  let year := year + if month ≤ 2 then 1 else 0
  let month ← toU64 month
  let day ← toU64 day
  return (year, month, day)

/-- The format of a date and a time, for years that are not negative. -/
def timestampText (year month day hour minute second : Nat) : String :=
  String.ofList (zeroPadded 4 year ++ '-' :: (zeroPadded 2 month ++ '-' :: (zeroPadded 2 day ++
    'T' :: (zeroPadded 2 hour ++ ':' :: (zeroPadded 2 minute ++ ':' :: (zeroPadded 2 second ++
    ['Z']))))))

def workerTimestampFromUnix (seconds : UInt64) : Option String := do
  let days := seconds.toNat / 86400
  guard (fitsI64 days)
  let daySeconds := seconds.toNat % 86400
  let (year, month, day) ← civilFromDays days
  guard (0 ≤ year ∧ year ≤ 9999)
  let hour := daySeconds / 3600
  let minute := daySeconds % 3600 / 60
  let second := daySeconds % 60
  return timestampText year.toNat month day hour minute second

/-- `rfc3339_from_unix` of the artifact store. -/
def rfc3339FromUnix (seconds : UInt64) : Option String := do
  let days := seconds.toNat / 86400
  guard (fitsI64 days)
  let daySeconds := seconds.toNat % 86400
  let (year, month, day) ← civilFromDays days
  guard (0 ≤ year ∧ year ≤ 9999)
  return timestampText year.toNat month day (daySeconds / 3600) (daySeconds % 3600 / 60)
    (daySeconds % 60)

/-! ## Validation -/

def parseDecimal (bytes : List UInt8) : Option Nat :=
  bytes.foldlM (fun value byte =>
    if value * 10 < 2 ^ 64 ∧ 48 ≤ byte.toNat ∧ value * 10 + (byte.toNat - 48) < 2 ^ 64 then
      some (value * 10 + (byte.toNat - 48))
    else none) 0

def daysInMonth (year : Nat) : Nat → Nat
  | 1 | 3 | 5 | 7 | 8 | 10 | 12 => 31
  | 4 | 6 | 9 | 11 => 30
  | 2 => if year % 400 = 0 ∨ (year % 4 = 0 ∧ year % 100 ≠ 0) then 29 else 28
  | _ => 0

/-- The bytes from an index to another. -/
def slice (bytes : List UInt8) (start stop : Nat) : List UInt8 := (bytes.take stop).drop start

/-- The separators of a timestamp, with their places. -/
def separators : List (Nat × UInt8) := [(4, 45), (7, 45), (10, 84), (13, 58), (16, 58), (19, 90)]

def isDigit (byte : UInt8) : Bool := 48 ≤ byte.toNat && byte.toNat ≤ 57

/-- Whether the bytes have the layout of a timestamp. -/
def hasLayout (bytes : List UInt8) : Bool :=
  separators.all (fun (index, separator) => bytes[index]? == some separator) &&
    bytes.zipIdx.all fun (byte, index) =>
      (separators.map Prod.fst).contains index || isDigit byte

/-- The numbers of a timestamp are those of a date and a time. -/
def validParts (year month day hour minute second : Nat) : Bool :=
  1970 ≤ year && (1 ≤ month && month ≤ 12) && (1 ≤ day && day ≤ daysInMonth year month) &&
    hour < 24 && minute < 60 && second < 60

def isWorkerTimestamp (value : String) : Bool :=
  let bytes := Text.utf8 value
  if bytes.length ≠ 20 then false
  else if !hasLayout bytes then false
  else
    match parseDecimal (slice bytes 0 4), parseDecimal (slice bytes 5 7),
      parseDecimal (slice bytes 8 10), parseDecimal (slice bytes 11 13),
      parseDecimal (slice bytes 14 16), parseDecimal (slice bytes 17 19) with
    | some year, some month, some day, some hour, some minute, some second =>
      validParts year month day hour minute second
    | _, _, _, _, _, _ => false

end RustFerry.Timestamp
