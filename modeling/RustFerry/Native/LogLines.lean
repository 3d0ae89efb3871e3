import RustFerry.Native.JobLogs

/-!
# The decoder of job-log lines

`LogLineDecoder`, `sanitize_line` and `unsafe_block_transition` of
`crates/rustferry-github/src/job_logs.rs`. What `String::from_utf8_lossy` makes of invalid bytes is
a parameter.
-/

namespace RustFerry.JobLogs

open ByteScan

/-! ## Texts -/

/-- `text.trim()`. -/
def trim (text : List Char) : List Char :=
  ((text.dropWhile Text.isWhitespace).reverse.dropWhile Text.isWhitespace).reverse

/-- The bytes of a text in ASCII lower case. -/
def lowerBytes (text : List Char) : List UInt8 :=
  (Text.utf8 (String.ofList text)).map toAsciiLowercase

/-- What a line does to the protected region, and whether it is a workflow command. -/
structure Transition where
  opens : Bool
  closes : Bool
  workflowCommand : Bool
  deriving DecidableEq

def openingMarkers : List String :=
  ["-----begin ", "---- begin ", "begin ssh2 encrypted private key", "putty-user-key-file-",
    "private-lines:"]

def closingMarkers : List String :=
  ["-----end ", "---- end ", "end ssh2 encrypted private key", "private-mac:"]

def workflowCommandMarkers : List String :=
  ["::add-mask::", "::set-output ", "::save-state ", "::set-secret::", "::stop-commands::"]

def unsafeBlockTransition (text : String) : Transition :=
  let lower := lowerBytes (trim text.toList)
  ⟨openingMarkers.any (containsText · lower), closingMarkers.any (containsText · lower),
    workflowCommandMarkers.any (containsText · lower)⟩

/-! ## Checks of a line -/

def isUnsafeLogCharacter (c : Char) : Bool :=
  Text.isControl c || (0x200b ≤ c.toNat && c.toNat ≤ 0x200f) ||
    (0x202a ≤ c.toNat && c.toNat ≤ 0x202e) || c.toNat == 0x2060 ||
    (0x2066 ≤ c.toNat && c.toNat ≤ 0x2069) || c.toNat == 0xfeff

/-- The bytes between two separators are long enough for a credential. -/
def containsOpaqueCredentialShapedToken (bytes : List UInt8) : Bool :=
  (bytes.splitOnP fun byte => !(isAsciiAlphanumeric byte || isByte '+' byte || isByte '/' byte ||
    isByte '_' byte || isByte '-' byte || isByte '=' byte)).any fun part => 20 ≤ part.length

/-- A name of something secret stands before the separator, with or without a quote after it. -/
def sensitiveNameBefore (bytes lower : List UInt8) (separator : Nat) : Bool :=
  let keyEnd := backWhile isAsciiWhitespace bytes separator
  let quoted := 0 < keyEnd && bytes[keyEnd - 1]?.any fun byte => isByte '\'' byte || isByte '"' byte
  let keyEnd := if quoted then keyEnd - 1 else keyEnd
  let keyStart := backWhile isNameByte bytes keyEnd
  keyStart != keyEnd && sensitiveAssignmentName ((lower.drop keyStart).take (keyEnd - keyStart))

/-- A name of something secret, whitespace and a value, from a cursor on. -/
def hasSpaceDelimitedSensitiveValue (bytes lower : List UInt8) : (fuel : Nat) → Nat → Bool
  | 0, _ => false
  | fuel + 1, cursor =>
    match bytes[cursor]? with
    | none => false
    | some byte =>
      if !isAsciiAlphanumeric byte then
        hasSpaceDelimitedSensitiveValue bytes lower fuel (cursor + 1)
      else
        let nameEnd := skipWhile isNameByte bytes cursor
        let name := (lower.drop cursor).take (nameEnd - cursor)
        let sensitiveName := sensitiveAssignmentName name || name == Text.utf8 "bearer" ||
          name == Text.utf8 "basic"
        let valueStart := skipWhile isAsciiWhitespace bytes nameEnd
        if sensitiveName && nameEnd < valueStart && valueStart < bytes.length then true
        else hasSpaceDelimitedSensitiveValue bytes lower fuel nameEnd

def containsSensitiveAssignmentOrAuthorization (bytes : List UInt8) : Bool :=
  let lower := bytes.map toAsciiLowercase
  ((List.range bytes.length).any fun separator =>
    (bytes[separator]?.any fun byte => isByte '=' byte || isByte ':' byte) &&
      sensitiveNameBefore bytes lower separator) ||
    hasSpaceDelimitedSensitiveValue bytes lower (bytes.length + 1) 0

/-! ## Checks of a message -/

def unsafeOutputMarkers : List String :=
  ["authorization:", "authorization =", "bearer ", "basic ", "github_pat_", "ghp_", "gho_", "ghu_",
    "ghs_", "ghr_", "password=", "password:", "client_secret", "access_token", "refresh_token",
    "private_key", " token ", " secret ", " password ", "-----begin "]

def unsafeOutputPrefixes : List String := ["token ", "secret ", "password "]

/-- What follows the first `://` of a word. -/
def afterScheme : List Char → Option (List Char)
  | ':' :: '/' :: '/' :: rest => some rest
  | _ :: rest => afterScheme rest
  | [] => none

/-- A URL whose authority names a user. -/
def credentialUrl (text : List Char) : Bool :=
  (text.splitOnP Text.isWhitespace).any fun word =>
    (afterScheme word).any fun remainder =>
      (remainder.takeWhile fun c => c != '/' && c != '?' && c != '#').contains '@'

def outputStillUnsafe (text : List Char) : Bool :=
  let lower := lowerBytes text
  unsafeOutputMarkers.any (containsText · lower) ||
    unsafeOutputPrefixes.any (fun marker => (Text.utf8 marker).isPrefixOf lower) ||
    text.contains '?' || credentialUrl text

/-- The length of the message as a JSON string, with the envelope. -/
def projectedStoreRecordBytes (message : String) : Nat :=
  projectedStoreEventEnvelopeBytes +
    (Text.utf8 (String.ofList (Json.printString message))).length

/-! ## Sanitizing -/

structure SanitizedLine where
  message : String
  unsafeLine : Bool

def SanitizedLine.unsafeMarker : SanitizedLine := ⟨unsafeJobLogLineMarker, true⟩

/-- The line is not handed to the redaction. -/
def rejectsLine (text : String) : Bool :=
  let transition := unsafeBlockTransition text
  text.toList.any isUnsafeLogCharacter || transition.opens || transition.closes ||
    transition.workflowCommand || containsSensitiveAssignmentOrAuthorization (Text.utf8 text) ||
    containsOpaqueCredentialShapedToken (Text.utf8 text)

/-- The message of the redaction is not safe. -/
def rejectsMessage (message : String) : Bool :=
  message == "" || maxJobLogLineBytes < (Text.utf8 message).length ||
    message.toList.any Text.isControl || outputStillUnsafe message.toList ||
    maxProjectedStoreEventBytes < projectedStoreRecordBytes message

/-- `sanitize_line`; each loop of the redaction has an iteration for each byte, and one to end. -/
def sanitizeLine (bytes : List UInt8) : Except Fault SanitizedLine :=
  if bytes.isEmpty then .ok ⟨emptyJobLogLineMarker, false⟩
  else
    match Text.fromUtf8 bytes with
    | none => .ok .unsafeMarker
    | some text =>
      if rejectsLine text then .ok .unsafeMarker
      else do
        let message ← redactLine (bytes.length + 1) text
        return if rejectsMessage message then .unsafeMarker else ⟨message, false⟩

/-! ## The decoder -/

/-- Why the decoder stops. -/
inductive DecoderError where
  | sourceSequenceOverflow
  | fault (fault : Fault)

structure LogLineDecoder where
  pending : List UInt8
  discardingUnsafe : Bool
  unsafeBlock : Bool
  ordinal : UInt32

def LogLineDecoder.default : LogLineDecoder := ⟨[], false, false, 0⟩

/-- An ordinal with its line. -/
abbrev Event := UInt32 × SanitizedLine

/-- The transition of the pending bytes; invalid bytes open a region. -/
def pendingTransition (fromUtf8Lossy : List UInt8 → String) (pending : List UInt8) : Transition :=
  match Text.fromUtf8 pending with
  | some text => unsafeBlockTransition text
  | none => ⟨true, (unsafeBlockTransition (fromUtf8Lossy pending)).closes, true⟩

/-- `emit_pending`: the event of the pending bytes, and the decoder after it. -/
def LogLineDecoder.emitPending (fromUtf8Lossy : List UInt8 → String) (self : LogLineDecoder) :
    Except DecoderError (LogLineDecoder × Event) := do
  let ordinal ← if self.ordinal.toNat + 1 < 2 ^ 32 then .ok (self.ordinal + 1)
    else .error .sourceSequenceOverflow
  let transition := pendingTransition fromUtf8Lossy self.pending
  let line ←
    -- a line in or at the edge of a protected region is not looked at
    if self.discardingUnsafe || self.unsafeBlock || transition.opens || transition.closes ||
        transition.workflowCommand then .ok .unsafeMarker
    else
      -- the carriage return of a CRLF line
      let line := if self.pending.getLast? = some 13 then self.pending.dropLast else self.pending
      (sanitizeLine line).mapError .fault
  let unsafeBlock := self.unsafeBlock || transition.opens
  let unsafeBlock := if transition.closes && !transition.opens then false else unsafeBlock
  return (⟨[], false, unsafeBlock, ordinal⟩, (ordinal, line))

/-- One byte of `push`. -/
def LogLineDecoder.pushByte (fromUtf8Lossy : List UInt8 → String)
    (self : LogLineDecoder × List Event) (byte : UInt8) :
    Except DecoderError (LogLineDecoder × List Event) :=
  let (decoder, events) := self
  if byte = 10 then do
    let (decoder, event) ← decoder.emitPending fromUtf8Lossy
    return (decoder, events ++ [event])
  else if decoder.discardingUnsafe then .ok self
  else
    let pending := decoder.pending ++ [byte]
    -- one more byte for the carriage return
    let permittedCrlf := pending.length == maxJobLogLineBytes + 1 && byte == 13
    if maxJobLogLineBytes < pending.length && !permittedCrlf then
      .ok ({ decoder with pending := [], discardingUnsafe := true, unsafeBlock := true }, events)
    else .ok ({ decoder with pending }, events)

def LogLineDecoder.push (fromUtf8Lossy : List UInt8 → String)
    (self : LogLineDecoder × List Event) (chunk : List UInt8) :
    Except DecoderError (LogLineDecoder × List Event) :=
  chunk.foldlM (pushByte fromUtf8Lossy) self

def LogLineDecoder.finish (fromUtf8Lossy : List UInt8 → String)
    (self : LogLineDecoder × List Event) : Except DecoderError (List Event) := do
  let (decoder, events) := self
  if decoder.discardingUnsafe || !decoder.pending.isEmpty then
    let (_, event) ← decoder.emitPending fromUtf8Lossy
    return events ++ [event]
  else return events

/-- The chunks are pushed in order, and the decoder is finished. -/
def decode (fromUtf8Lossy : List UInt8 → String) (chunks : List (List UInt8)) :
    Except DecoderError (List Event) := do
  let decoder ← chunks.foldlM (LogLineDecoder.push fromUtf8Lossy) (.default, [])
  LogLineDecoder.finish fromUtf8Lossy decoder

end RustFerry.JobLogs
