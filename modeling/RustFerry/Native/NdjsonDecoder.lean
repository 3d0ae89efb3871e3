import RustFerry.ForStd.ChunkedLines
import RustFerry.ForStd.Except

/-!
# Events of a command

`editors/vscode/src/cli/protocol.ts`: the decoder of the newline-delimited events that
`cargo-ferry` writes, and the checks of one event. `JSON.parse`, `String(number)` and the UTF-8
`StringDecoder` belong to the engine that runs the extension.
-/

namespace RustFerry.Extension

open Except

/-! ## Values -/

/-- What `JSON.parse` returns; a number that is too large is infinite. The members of an object
    have different names. -/
inductive JsValue where
  | null
  | bool (value : Bool)
  | number (value : Option Rat)
  | string (value : String)
  | array (items : List JsValue)
  | object (members : List (String × JsValue))

abbrev Event := List (String × JsValue)

structure Engine where
  /-- `JSON.parse`, with the message of its exception. -/
  jsonParse : List Char → Except String JsValue
  /-- `String(value)` of a number. -/
  numberText : Option Rat → String
  /-- `StringDecoder("utf8")`. -/
  stringDecoder : Text.IncrementalDecoder

structure ProtocolError where
  message : String
  code : String

/-- An error with the code that a `ProtocolError` has by default. -/
def ProtocolError.invalid (message : String) : ProtocolError := ⟨message, "protocol.invalid"⟩

abbrev ProtocolResult := Except ProtocolError

/-! ## One event -/

def protocolVersion : Rat := 1

def protocolMinVersion : String := "1"

def protocolMaxVersion : String := "1"

def parseJsonObject (engine : Engine) (source : List Char) (context : String) :
    ProtocolResult Event :=
  match engine.jsonParse source with
  | .error message => .error (.invalid (context ++ " returned invalid JSON: " ++ message))
  | .ok (.object members) => .ok members
  | .ok _ => .error (.invalid (context ++ " returned JSON that was not an object."))

def assertProtocolVersion (engine : Engine) (value : Event) (context : String) :
    ProtocolResult Unit :=
  match value.lookup "protocol_version" with
  | some (.number version) =>
    rejectIf (version != some protocolVersion)
      ⟨context ++ " uses IDE protocol " ++ engine.numberText version ++
        "; this extension requires " ++ protocolMinVersion ++ "–" ++ protocolMaxVersion ++ ".",
        "protocol.incompatible"⟩
  | _ =>
    .error ⟨context ++ " uses IDE protocol missing; this extension requires " ++
      protocolMinVersion ++ "–" ++ protocolMaxVersion ++ ".", "protocol.incompatible"⟩

def requireString (value : Option JsValue) (name : String) : ProtocolResult Unit :=
  match value with
  | some (.string _) => .ok ()
  | _ => .error (.invalid (name ++ " must be a string."))

def requireNumber (value : Option JsValue) (name : String) : ProtocolResult Unit :=
  match value with
  | some (.number (some _)) => .ok ()
  | _ => .error (.invalid (name ++ " must be a finite number."))

def parseProtocolEvent (engine : Engine) (source : List Char) : ProtocolResult Event := do
  let value ← parseJsonObject engine source "cargo-ferry stream"
  assertProtocolVersion engine value "cargo-ferry stream"
  requireString (value.lookup "event") "event.event"
  requireString (value.lookup "operation_id") "event.operation_id"
  requireNumber (value.lookup "timestamp_ms") "event.timestamp_ms"
  forSome (value.lookup "parent_operation_id") fun parent =>
    requireString (some parent) "event.parent_operation_id"
  return value

/-! ## The stream -/

/-- `Buffer.byteLength(text, "utf8")`. -/
def byteLength (text : List Char) : Nat := (text.map Char.utf8Size).sum

/-- White space and line terminators of JavaScript. -/
def isJsWhitespace (c : Char) : Bool :=
  (0x09 ≤ c.toNat && c.toNat ≤ 0x0d) || c.toNat == 0x20 || c.toNat == 0xa0 ||
    c.toNat == 0x1680 || (0x2000 ≤ c.toNat && c.toNat ≤ 0x200a) || c.toNat == 0x2028 ||
    c.toNat == 0x2029 || c.toNat == 0x202f || c.toNat == 0x205f || c.toNat == 0x3000 ||
    c.toNat == 0xfeff

/-- `text.trim().length === 0`. -/
def isBlank (text : List Char) : Bool := text.all isJsWhitespace

/-- The bounds that the constructor accepts: positive safe integers. -/
structure LineLimit where
  bytes : Nat
  valid : 0 < bytes ∧ bytes ≤ 9007199254740991

structure NdjsonDecoder (engine : Engine) where
  decoder : engine.stringDecoder.State
  pending : List Char
  finished : Bool

namespace NdjsonDecoder

def new (engine : Engine) : NdjsonDecoder engine where
  decoder := engine.stringDecoder.start
  pending := []
  finished := false

variable {engine : Engine}

def assertBounded (maxLineBytes : LineLimit) (line : List Char) : ProtocolResult Unit :=
  rejectIf (byteLength line > maxLineBytes.bytes)
    ⟨"cargo-ferry emitted an IDE protocol line larger than " ++ toString maxLineBytes.bytes ++
      " bytes.", "protocol.line_too_large"⟩

/-- `raw.endsWith("\r") ? raw.slice(0, -1) : raw`. -/
def withoutReturn (raw : List Char) : List Char :=
  if raw.getLast? = some '\r' then raw.dropLast else raw

/-- One turn of the loop of `push`: the event of a line, unless the line is blank. -/
def decodeLine (engine : Engine) (maxLineBytes : LineLimit) (raw : List Char) :
    ProtocolResult (List Event) := do
  let line := withoutReturn raw
  assertBounded maxLineBytes line
  if isBlank line then return []
  else do
    let event ← parseProtocolEvent engine line
    return [event]

def push (maxLineBytes : LineLimit) (self : NdjsonDecoder engine) (chunk : List UInt8) :
    ProtocolResult (NdjsonDecoder engine × List Event) := do
  rejectIf self.finished (.invalid "Cannot append data after the NDJSON stream finished.")
  let (decoder, text) := engine.stringDecoder.write self.decoder chunk
  let pending := self.pending ++ text
  -- a line that fails takes the events before it with it
  let events ← (Text.lines pending).mapM (decodeLine engine maxLineBytes)
  -- with its carriage return, unlike a complete line
  assertBounded maxLineBytes (Text.lastLine pending)
  return ({ self with decoder, pending := Text.lastLine pending }, events.flatten)

def finish (maxLineBytes : LineLimit) (self : NdjsonDecoder engine) :
    ProtocolResult (NdjsonDecoder engine × List Event) :=
  if self.finished then .ok (self, [])
  else do
    let pending := self.pending ++ engine.stringDecoder.finish self.decoder
    assertBounded maxLineBytes pending
    rejectIf (!isBlank pending)
      ⟨"cargo-ferry ended with a truncated NDJSON event.", "protocol.truncated"⟩
    return ({ self with pending := [], finished := true }, [])

/-! ## Reading a stream -/

/-- How a stream ends: the decoder finished, or the code of the first error. -/
inductive StreamEnd where
  | finished
  | failed (code : String)
  deriving DecidableEq

/-- Feeding the chunks and then finishing, up to the first error. -/
def receive (maxLineBytes : LineLimit) :
    NdjsonDecoder engine → List (List UInt8) → List Event × StreamEnd
  | self, [] =>
    match self.finish maxLineBytes with
    | .error e => ([], .failed e.code)
    | .ok (_, events) => (events, .finished)
  | self, chunk :: chunks =>
    match self.push maxLineBytes chunk with
    | .error e => ([], .failed e.code)
    | .ok (next, events) =>
      (events ++ (receive maxLineBytes next chunks).1, (receive maxLineBytes next chunks).2)

end NdjsonDecoder

end RustFerry.Extension
