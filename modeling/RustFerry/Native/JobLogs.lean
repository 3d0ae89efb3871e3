import RustFerry.ForStd.ByteScan
import RustFerry.ForStd.Json

/-!
# Lines of a job log

`LogLineDecoder` and `sanitize_line` of `crates/rustferry-github/src/job_logs.rs`, with the six
redaction passes over the bytes of a line. A slice out of its bounds, or not at the boundary of a
character, is a fault, and so is a loop that does not end.
-/

namespace RustFerry.JobLogs

open ByteScan

def maxJobLogLineBytes : Nat := 4096
def emptyJobLogLineMarker : String := "[empty GitHub log line]"
def unsafeJobLogLineMarker : String := "[unsafe GitHub log line redacted]"
def redactionMarker : String := "<redacted>"
def maxProjectedStoreEventBytes : Nat := 8 * 1024
def projectedStoreEventEnvelopeBytes : Nat := 1024

/-! ## Bytes -/

def isAsciiAlphabetic (byte : UInt8) : Bool :=
  (65 ≤ byte.toNat && byte.toNat ≤ 90) || (97 ≤ byte.toNat && byte.toNat ≤ 122)

def isAsciiAlphanumeric (byte : UInt8) : Bool :=
  isAsciiAlphabetic byte || (48 ≤ byte.toNat && byte.toNat ≤ 57)

/-- `u8::is_ascii_whitespace`. -/
def isAsciiWhitespace (byte : UInt8) : Bool :=
  byte.toNat == 9 || byte.toNat == 10 || byte.toNat == 12 || byte.toNat == 13 || byte.toNat == 32

def isByte (c : Char) (byte : UInt8) : Bool := byte.toNat == c.toNat

/-- The bytes of a name: letters, digits, `_`, `-` and `.`. -/
def isNameByte (byte : UInt8) : Bool :=
  isAsciiAlphanumeric byte || isByte '_' byte || isByte '-' byte || isByte '.' byte

def toAsciiLowercase (byte : UInt8) : UInt8 :=
  if 65 ≤ byte.toNat && byte.toNat ≤ 90 then UInt8.ofNat (byte.toNat + 32) else byte

/-- `text.contains(needle)`. -/
def containsText (needle : String) (bytes : List UInt8) : Bool :=
  (find (Text.utf8 needle) bytes).isSome

/-! ## Masks -/

/-- Which bytes are redacted. -/
abbrev Mask := List Bool

def mark (mask : Mask) (start stop : Nat) : Mask :=
  mask.mapIdx fun index selected => selected || (start ≤ index && index < stop)

/-- A loop over the cursor of a pass and its mask. -/
abbrev Body := Nat → Mask → Except Fault (Option (Nat × Mask))

/-! ## URLs -/

def isSchemeByte (byte : UInt8) : Bool :=
  isAsciiAlphanumeric byte || isByte '+' byte || isByte '-' byte || isByte '.' byte

/-- The first loop of `redact_urls`. -/
def urlBody (bytes : List UInt8) : Body := fun cursor mask => do
  let rest ← sliceFrom bytes cursor
  match find (Text.utf8 "://") rest with
  | none => return none
  | some relative =>
    let schemeEnd := cursor + relative
    let schemeStart := backWhile isSchemeByte bytes schemeEnd
    if schemeStart == schemeEnd || !bytes[schemeStart]?.any isAsciiAlphabetic then
      return some (schemeEnd + 3, mask)
    else
      let urlBodyStart := schemeEnd + 3
      let rest ← sliceFrom bytes urlBodyStart
      let stop := stopAt isAsciiWhitespace rest urlBodyStart bytes.length
      return some (stop, mark mask schemeStart stop)

def isAuthorityEnd (byte : UInt8) : Bool := isByte '/' byte || isByte '?' byte || isByte '#' byte

/-- The second loop of `redact_urls`. -/
def authorityBody (bytes : List UInt8) : Body := fun cursor mask => do
  let rest ← sliceFrom bytes cursor
  match find (Text.utf8 "//") rest with
  | none => return none
  | some relative =>
    let start := cursor + relative
    if 0 < start && bytes[start - 1]?.any (isByte ':') then return some (start + 2, mask)
    else
      let rest ← sliceFrom bytes (start + 2)
      let stop := stopAt isAsciiWhitespace rest (start + 2) bytes.length
      let url ← slice bytes (start + 2) stop
      let authorityEnd := stopAt isAuthorityEnd url (start + 2) stop
      let authority ← slice bytes (start + 2) authorityEnd
      let mask := if authority.any (isByte '@') then mark mask start stop else mask
      return some (max stop (start + 2), mask)

def redactUrls (fuel : Nat) (bytes : List UInt8) (mask : Mask) : Except Fault Mask := do
  let mask ← loop (urlBody bytes) fuel 0 mask
  loop (authorityBody bytes) fuel 0 mask

/-! ## Tokens -/

def githubTokenPrefixes : List String := ["github_pat_", "ghp_", "gho_", "ghu_", "ghs_", "ghr_"]

def isGithubTokenByte (byte : UInt8) : Bool := isAsciiAlphanumeric byte || isByte '_' byte

/-- The loop of `redact_github_tokens` for one prefix. -/
def githubTokenBody (bytes lower : List UInt8) (front : String) : Body := fun cursor mask => do
  let rest ← textFrom lower cursor
  match find (Text.utf8 front) rest with
  | none => return none
  | some relative =>
    let start := cursor + relative
    let stop := skipWhile isGithubTokenByte bytes (start + (Text.utf8 front).length)
    return some (stop, mark mask start stop)

def redactGithubTokens (fuel : Nat) (bytes lower : List UInt8) (mask : Mask) :
    Except Fault Mask :=
  githubTokenPrefixes.foldlM
    (fun mask front => loop (githubTokenBody bytes lower front) fuel 0 mask) mask

def isJwtByte (byte : UInt8) : Bool := isNameByte byte || isByte '=' byte

def isTokenBoundary (bytes : List UInt8) (start : Nat) : Bool :=
  start == 0 || !bytes[start - 1]?.any fun byte =>
    isAsciiAlphanumeric byte || isByte '_' byte || isByte '-' byte

/-- The loop of `redact_jwts`. -/
def jwtBody (bytes : List UInt8) : Body := fun cursor mask => do
  if cursor + 4 < bytes.length then
    let rest ← sliceFrom bytes cursor
    if (Text.utf8 "eyJ").isPrefixOf rest && isTokenBoundary bytes cursor then
      let stop := skipWhile isJwtByte bytes cursor
      let dots := ((bytes.drop cursor).take (stop - cursor)).countP (isByte '.')
      let mask := if dots == 2 && 20 ≤ stop - cursor then mark mask cursor stop else mask
      return some (max stop (cursor + 1), mask)
    else return some (cursor + 1, mask)
  else return none

def redactJwts (fuel : Nat) (bytes : List UInt8) (mask : Mask) : Except Fault Mask :=
  loop (jwtBody bytes) fuel 0 mask

/-! ## Sensitive names -/

/-- `name` in lower case is the name of something secret. -/
def sensitiveAssignmentName (name : List UInt8) : Bool :=
  let components := (name.splitOnP fun byte => !isAsciiAlphanumeric byte).filter (!·.isEmpty)
  let has := fun word : String => components.contains (Text.utf8 word)
  ["token", "secret", "password", "passphrase", "authorization", "credential",
      "credentials"].any has ||
    (has "private" && has "key") || (has "api" && has "key") ||
    (has "access" && (has "key" || has "token")) ||
    ["token", "secret", "password", "passphrase", "credential", "authorization", "privatekey",
      "apikey", "accesskey"].any fun marker => containsText marker name

def isValueEnd (byte : UInt8) : Bool :=
  isAsciiWhitespace byte || isByte '&' byte || isByte ',' byte || isByte ';' byte

/-- The number of bytes up to the closing quote, with it. -/
def quotedLength (quote : UInt8) (escaped : Bool) : List UInt8 → Option Nat
  | [] => none
  | byte :: rest =>
    if escaped then (quotedLength quote false rest).map (· + 1)
    else if isByte '\\' byte then (quotedLength quote true rest).map (· + 1)
    else if byte == quote then some 1
    else (quotedLength quote false rest).map (· + 1)

def sensitiveValueEnd (bytes : List UInt8) (start : Nat) (restOfLine : Bool) : Nat :=
  if restOfLine then bytes.length
  else
    match bytes.drop start with
    | [] => start
    | quote :: rest =>
      if isByte '\'' quote || isByte '"' quote then
        match quotedLength quote false rest with
        | some length => start + 1 + length
        | none => bytes.length
      else stopAt isValueEnd (quote :: rest) start bytes.length

/-- One step of the first loop of `redact_sensitive_named_assignments`. -/
def redactNamedAssignment (bytes lower : List UInt8) (mask : Mask) (separator : Nat) :
    Except Fault Mask := do
  if !bytes[separator]?.any fun byte => isByte '=' byte || isByte ':' byte then return mask
  else
    let keyEnd := backWhile isAsciiWhitespace bytes separator
    let keyStart := backWhile isNameByte bytes keyEnd
    if keyStart == keyEnd then return mask
    else
      let name ← textSlice lower keyStart keyEnd
      if !sensitiveAssignmentName name then return mask
      else
        let valueStart := skipWhile isAsciiWhitespace bytes (separator + 1)
        let valueEnd := sensitiveValueEnd bytes valueStart false
        return mark mask keyStart (max valueEnd valueStart)

/-- The second loop of `redact_sensitive_named_assignments`. -/
def flagBody (bytes lower : List UInt8) : Body := fun cursor mask => do
  let rest ← sliceFrom bytes cursor
  match find (Text.utf8 "--") rest with
  | none => return none
  | some relative =>
    let flagStart := cursor + relative
    let nameStart := flagStart + 2
    let nameEnd := skipWhile isNameByte bytes nameStart
    -- at the end of the line this cursor is past the last byte
    if nameEnd == nameStart then return some (max nameEnd (nameStart + 1), mask)
    else
      let name ← textSlice lower nameStart nameEnd
      if !sensitiveAssignmentName name then return some (max nameEnd (nameStart + 1), mask)
      else
        let valueStart :=
          if bytes[nameEnd]?.any (isByte '=') then nameEnd + 1
          else skipWhile isAsciiWhitespace bytes nameEnd
        let valueEnd := sensitiveValueEnd bytes valueStart false
        return some (max valueEnd nameEnd, mark mask flagStart (max valueEnd valueStart))

def redactSensitiveNamedAssignments (fuel : Nat) (bytes lower : List UInt8) (mask : Mask) :
    Except Fault Mask := do
  let mask ← (List.range bytes.length).foldlM (redactNamedAssignment bytes lower) mask
  loop (flagBody bytes lower) fuel 0 mask

/-! ## Sensitive keys -/

def sensitiveKeys : List String :=
  ["proxy-authorization", "authorization", "aws_secret_access_key", "secret_access_key",
    "signing_password", "p12_password", "github_token", "gh_token", "refresh_token",
    "refresh-token", "refresh token", "access_token", "access-token", "access token",
    "client_secret", "client-secret", "client secret", "private_key", "private-key", "private key",
    "api_key", "api-key", "api key", "password", "passphrase", "token", "secret"]

def sensitiveKeyBoundary (bytes : List UInt8) (start stop : Nat) : Bool :=
  let inWord := fun byte => isAsciiAlphanumeric byte || isByte '_' byte
  !(0 < start && bytes[start - 1]?.any inWord) && !bytes[stop]?.any inWord

/-- The two bytes before the start are `--`. -/
def dashesBefore (bytes : List UInt8) (start : Nat) : Except Fault Bool := do
  if 2 ≤ start then
    let dashes ← slice bytes (start - 2) start
    return dashes == Text.utf8 "--"
  else return false

/-- The loop of `redact_sensitive_assignments` for one key. -/
def keyBody (bytes lower : List UInt8) (key : String) : Body := fun cursor mask => do
  let rest ← textFrom lower cursor
  match find (Text.utf8 key) rest with
  | none => return none
  | some relative =>
    let start := cursor + relative
    let keyEnd := start + (Text.utf8 key).length
    if !sensitiveKeyBoundary bytes start keyEnd then return some (keyEnd, mask)
    else
      let separator := skipWhile isAsciiWhitespace bytes keyEnd
      let hasMarker := bytes[separator]?.any fun byte => isByte '=' byte || isByte ':' byte
      let dashes ← dashesBefore bytes start
      let commandFlag := dashes && keyEnd < separator
      if !hasMarker && !commandFlag then return some (keyEnd, mask)
      else
        let separator :=
          if hasMarker then skipWhile isAsciiWhitespace bytes (separator + 1) else separator
        let stop := sensitiveValueEnd bytes separator (containsText "authorization" (Text.utf8 key))
        -- the dashes of a flag are hidden with its name
        let markerStart := if dashes then start - 2 else start
        return some (max stop keyEnd, mark mask markerStart (max stop separator))

def redactSensitiveAssignments (fuel : Nat) (bytes lower : List UInt8) (mask : Mask) :
    Except Fault Mask :=
  sensitiveKeys.foldlM (fun mask key => loop (keyBody bytes lower key) fuel 0 mask) mask

/-! ## Authorization schemes -/

def authorizationSchemes : List String := ["bearer", "basic"]

def isWordBoundary (bytes : List UInt8) (start stop : Nat) : Bool :=
  !(0 < start && bytes[start - 1]?.any isAsciiAlphanumeric) && !bytes[stop]?.any isAsciiAlphanumeric

/-- The loop of `redact_authorization_schemes` for one scheme. -/
def schemeBody (bytes lower : List UInt8) (scheme : String) : Body := fun cursor mask => do
  let rest ← textFrom lower cursor
  match find (Text.utf8 scheme) rest with
  | none => return none
  | some relative =>
    let start := cursor + relative
    let stop := start + (Text.utf8 scheme).length
    if isWordBoundary bytes start stop && bytes[stop]?.any isAsciiWhitespace then
      let value := skipWhile isAsciiWhitespace bytes stop
      let valueEnd := sensitiveValueEnd bytes value false
      return some (max valueEnd stop, mark mask start (max valueEnd value))
    else return some (stop, mask)

def redactAuthorizationSchemes (fuel : Nat) (bytes lower : List UInt8) (mask : Mask) :
    Except Fault Mask :=
  authorizationSchemes.foldlM
    (fun mask scheme => loop (schemeBody bytes lower scheme) fuel 0 mask) mask

/-! ## Rendering -/

/-- What was rendered, and the index of the next byte. -/
structure Rendering where
  output : List Char
  redacting : Bool
  index : Nat

def renderCharacter (mask : Mask) (rendering : Rendering) (c : Char) :
    Except Fault Rendering := do
  let stop := rendering.index + (String.utf8EncodeChar c).length
  let bits ← slice mask rendering.index stop
  if bits.any id then
    let output :=
      if rendering.redacting then rendering.output else rendering.output ++ redactionMarker.toList
    return ⟨output, true, stop⟩
  else return ⟨rendering.output ++ [c], false, stop⟩

def renderMasked (text : String) (mask : Mask) : Except Fault String := do
  let rendering ← text.toList.foldlM (renderCharacter mask) ⟨[], false, 0⟩
  return String.ofList rendering.output

/-- `redact_line`, with a bound on the iterations of each loop. -/
def redactLine (fuel : Nat) (text : String) : Except Fault String := do
  let bytes := Text.utf8 text
  let lower := bytes.map toAsciiLowercase
  let mask := List.replicate bytes.length false
  let mask ← redactUrls fuel bytes mask
  let mask ← redactGithubTokens fuel bytes lower mask
  let mask ← redactJwts fuel bytes mask
  let mask ← redactSensitiveNamedAssignments fuel bytes lower mask
  let mask ← redactSensitiveAssignments fuel bytes lower mask
  let mask ← redactAuthorizationSchemes fuel bytes lower mask
  renderMasked text mask

end RustFerry.JobLogs
