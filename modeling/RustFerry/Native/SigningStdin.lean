import Mathlib.Data.Finset.Dedup
import RustFerry.Native.JobCleanup

/-!
# Secrets on the standard input of the signing phase

`signing_secret_references`, `read_signing_secret_stdin`, `parse_signing_secret_frame_in_place` and
their helpers of `crates/rustferry-worker-macos/src/main.rs`. The buffer of a frame is part of what
the functions return.
-/

namespace RustFerry.SigningStdin

open Except Remote Worker

/-! ## Limits -/

def maxEncodedSecretBytes : Nat := 48 * 1024
def maxDecodedSigningBlobBytes : Nat := maxEncodedSecretBytes / 4 * 3
def maxSigningPasswordBytes : Nat := 4 * 1024
def maxSigningProfiles : Nat := 3
def maxSigningSecretRecords : Nat := 2 + maxSigningProfiles
def maxSigningReferenceNameBytes : Nat := 128

/-- `RFSIGN`. -/
def signingFrameFront : List UInt8 := [82, 70, 83, 73, 71, 78]

/-- `RFSIGNV2`. -/
def signingSecretFrameV2Magic : List UInt8 := signingFrameFront ++ [86, 50]

def maxSigningStdinBytes : Nat :=
  signingSecretFrameV2Magic.length + 4 +
    maxSigningSecretRecords * (2 + 4 + maxSigningReferenceNameBytes + maxEncodedSecretBytes)

/-- The limits that a frame is parsed with. -/
structure FrameLimits where
  maximumEncodedBlobBytes : Nat
  maximumPasswordBytes : Nat
  maximumDecodedBlobBytes : Nat

/-! ## References -/

def invalidSigningStdin : CliFailure :=
  CliFailure.input "invalid_signing_stdin"
    "protected signing stdin is malformed, truncated, oversized, or noncanonical"

def invalidSecretReference : CliFailure :=
  CliFailure.input "invalid_secret_reference" "public signing secret reference is invalid"

def isAsciiUppercase (byte : UInt8) : Bool := 65 ≤ byte.toNat && byte.toNat ≤ 90
def isAsciiDigit (byte : UInt8) : Bool := 48 ≤ byte.toNat && byte.toNat ≤ 57

/-- `validate_public_secret_reference_name` accepts the name. -/
def isPublicReferenceName (name : String) : Bool :=
  let bytes := Text.utf8 name
  bytes ≠ [] && bytes.length ≤ 128 && bytes.head?.any (fun byte => isAsciiUppercase byte || byte == 95) &&
    bytes.all (fun byte => isAsciiUppercase byte || isAsciiDigit byte || byte == 95) &&
    !(Text.utf8 "GITHUB_").isPrefixOf bytes

def validatePublicSecretReferenceName (name : String) : Except CliFailure Unit :=
  rejectIf (!isPublicReferenceName name) invalidSecretReference

structure SigningSecretReferences where
  certificate : SecretReference
  password : SecretReference
  profiles : List SecretReference

namespace SigningSecretReferences

def ordered (references : SigningSecretReferences) : List SecretReference :=
  references.certificate :: references.password :: references.profiles

def expectedNames (references : SigningSecretReferences) : Finset String :=
  (references.ordered.map SecretReference.name).toFinset

def referenceNamed (references : SigningSecretReferences) (name : String) : Option SecretReference :=
  references.ordered.find? (·.name == name)

end SigningSecretReferences

/-- `signing_secret_references`, of the signing plan of a request. -/
def signingSecretReferences (signing : SigningPlan) : Except CliFailure SigningSecretReferences := do
  let reference ← ofOption (CliFailure.input "missing_signing_plan" "manual signing plan is incomplete")
    signing.signing
  let password ← ofOption (CliFailure.input "missing_signing_password"
    "manual signing password reference is missing") reference.password
  rejectIf (signing.provisioning.isEmpty || maxSigningProfiles < signing.provisioning.length)
    (CliFailure.input "invalid_profile_reference_count"
      "manual signing profile reference count is unsupported")
  let references : SigningSecretReferences :=
    { certificate := reference.identity.privateKey.reference
      password := password
      profiles := signing.provisioning.map ProvisioningPlan.profile }
  rejectIf (references.ordered.any (fun reference => reference.kind != .githubActions) ||
      references.expectedNames.card != references.ordered.length)
    (CliFailure.input "invalid_secret_reference"
      "GitHub signing references are invalid or reused across roles")
  return references

def validateSecretRoleBindings (signing : SigningPlan) (certificateReference : String)
    (passwordReference : String) (profileReferences : List String) : Except CliFailure Unit := do
  let expected ← signingSecretReferences signing
  rejectIf (expected.certificate.name != certificateReference ||
      expected.password.name != passwordReference ||
      profileReferences.toFinset.card != profileReferences.length ||
      profileReferences.toFinset != (expected.profiles.map SecretReference.name).toFinset)
    (CliFailure.input "secret_role_mismatch"
      "protected environment names do not match the signing plan")

/-- The references of the signing phase: its arguments are public names and those of the plan. -/
def protectedSigningReferences (signing : SigningPlan) (certificateReference : String)
    (passwordReference : String) (profileReferences : List String) :
    Except CliFailure SigningSecretReferences := do
  (certificateReference :: passwordReference :: profileReferences).forM
    validatePublicSecretReferenceName
  validateSecretRoleBindings signing certificateReference passwordReference profileReferences
  signingSecretReferences signing

/-! ## Base64 -/

/-- `base64_value`. -/
def base64Value (byte : UInt8) : Option UInt8 :=
  if 65 ≤ byte ∧ byte ≤ 90 then some (byte - 65)
  else if 97 ≤ byte ∧ byte ≤ 122 then some (byte - 97 + 26)
  else if 48 ≤ byte ∧ byte ≤ 57 then some (byte - 48 + 52)
  else if byte = 43 then some 62
  else if byte = 47 then some 63
  else none

/-- The bytes of a chunk; only the last chunk may be padded. -/
def decodeChunk (last : Bool) (first second third fourth : UInt8) : Option (List UInt8) := do
  let a ← base64Value first
  let b ← base64Value second
  if third = 61 then
    if !last || fourth != 61 || b &&& 0x0f != 0 then none else some [(a <<< 2) ||| (b >>> 4)]
  else do
    let c ← base64Value third
    if fourth = 61 then
      if !last || c &&& 0x03 != 0 then none
      else some [(a <<< 2) ||| (b >>> 4), (b <<< 4) ||| (c >>> 2)]
    else do
      let d ← base64Value fourth
      some [(a <<< 2) ||| (b >>> 4), (b <<< 4) ||| (c >>> 2), (c <<< 6) ||| d]

/-- The chunks of a text whose length is a multiple of four. -/
def decodeChunks : List UInt8 → Option (List UInt8)
  | first :: second :: third :: fourth :: rest => do
    let bytes ← decodeChunk rest.isEmpty first second third fourth
    let more ← decodeChunks rest
    return bytes ++ more
  | _ => some []

/-- `decode_base64`. -/
def decodeBase64 (input : List UInt8) (maximumDecodedBytes : Nat) : Option (List UInt8) := do
  guard (input.length ≠ 0 ∧ input.length % 4 = 0)
  let output ← decodeChunks input
  guard (output ≠ [] ∧ output.length ≤ maximumDecodedBytes)
  return output

/-! ## Records -/

/-- `take_frame_bytes`, on the bytes from the offset on. -/
def takeFrameBytes (frame : List UInt8) (length : Nat) : Option (List UInt8 × List UInt8) :=
  if length ≤ frame.length then some (frame.take length, frame.drop length) else none

/-- `read_frame_u16` and `read_frame_u32`: a number of so many bytes. -/
def readFrameNumber (width : Nat) (frame : List UInt8) : Option (Nat × List UInt8) := do
  let (bytes, frame) ← takeFrameBytes frame width
  return (BigEndian.ofBytes bytes, frame)

def readFrameU16 : List UInt8 → Option (Nat × List UInt8) := readFrameNumber 2
def readFrameU32 : List UInt8 → Option (Nat × List UInt8) := readFrameNumber 4

def validateSigningPassword (value : List UInt8) (maximum : Nat) : Except CliFailure Unit :=
  rejectIf (maximum < value.length || (Text.fromUtf8 value).isNone ||
      value.any (fun byte => byte == 0 || byte == 13 || byte == 10))
    (CliFailure.input "invalid_signing_password" "protected signing password is not bounded safe UTF-8")

/-- The secrets of a resolver. -/
abbrev Secrets := SecretReference → Option (List UInt8)

def Secrets.empty : Secrets := fun _ => none

/-- `secrets.insert`. -/
def Secrets.insert (secrets : Secrets) (reference : SecretReference) (secret : List UInt8) : Secrets :=
  fun other => if other = reference then some secret else secrets other

/-- The secret of the value of a record. -/
def decodeValue (references : SigningSecretReferences) (limits : FrameLimits)
    (reference : SecretReference) (value : List UInt8) : Except CliFailure (List UInt8) :=
  if reference = references.password then do
    validateSigningPassword value limits.maximumPasswordBytes
    return value
  else do
    rejectIf (limits.maximumEncodedBlobBytes < value.length) invalidSigningStdin
    ofOption invalidSigningStdin (decodeBase64 value limits.maximumDecodedBlobBytes)

/-- The bytes from the offset on, and the variables of the loop. -/
structure FrameState where
  frame : List UInt8
  seen : Finset String
  secrets : Secrets

/-- A pass of the loop over the records. -/
def readRecord (references : SigningSecretReferences) (limits : FrameLimits) (state : FrameState) :
    Except CliFailure FrameState := do
  let (nameLength, frame) ← ofOption invalidSigningStdin (readFrameU16 state.frame)
  let (valueLength, frame) ← ofOption invalidSigningStdin (readFrameU32 frame)
  rejectIf (nameLength == 0 || maxSigningReferenceNameBytes < nameLength ||
      max limits.maximumEncodedBlobBytes limits.maximumPasswordBytes < valueLength)
    invalidSigningStdin
  let (nameBytes, frame) ← ofOption invalidSigningStdin (takeFrameBytes frame nameLength)
  let name ← ofOption invalidSigningStdin (Text.fromUtf8 nameBytes)
  validatePublicSecretReferenceName name
  rejectIf (name ∉ references.expectedNames) (CliFailure.input "unknown_signing_secret_record"
    "protected signing stdin contains an unknown secret reference")
  rejectIf (name ∈ state.seen) (CliFailure.input "duplicate_signing_secret_record"
    "protected signing stdin repeats a secret reference")
  let (value, frame) ← ofOption invalidSigningStdin (takeFrameBytes frame valueLength)
  -- `expect`: the name is that of a reference.
  let reference ← ofOption invalidSigningStdin (references.referenceNamed name)
  let secret ← decodeValue references limits reference value
  return ⟨frame, insert name state.seen, state.secrets.insert reference secret⟩

def readRecords (references : SigningSecretReferences) (limits : FrameLimits) :
    (count : Nat) → FrameState → Except CliFailure FrameState
  | 0, state => .ok state
  | count + 1, state => do
    let state ← readRecord references limits state
    readRecords references limits count state

/-! ## Frames -/

/-- `parse_signing_secret_frame_v2`. -/
def parseSigningSecretFrameV2 (frame : List UInt8) (references : SigningSecretReferences)
    (limits : FrameLimits) : Except CliFailure Secrets := do
  rejectIf (!signingSecretFrameV2Magic.isPrefixOf frame)
    (CliFailure.input "unsupported_signing_secret_frame_version"
      "protected signing stdin frame version is unsupported")
  let (count, frame) ← ofOption invalidSigningStdin
    (readFrameU32 (frame.drop signingSecretFrameV2Magic.length))
  rejectIf (count != references.ordered.length || maxSigningSecretRecords < count)
    (CliFailure.input "signing_secret_count_mismatch"
      "protected signing stdin has an unexpected record count")
  let state ← readRecords references limits count ⟨frame, ∅, Secrets.empty⟩
  rejectIf (state.frame ≠ []) (CliFailure.input "trailing_signing_secret_frame_bytes"
    "protected signing stdin contains trailing bytes")
  rejectIf (state.seen ≠ references.expectedNames) (CliFailure.input "missing_signing_secret_record"
    "protected signing stdin omits a required secret reference")
  return state.secrets

/-- The places of the first three zero bytes. -/
def separators (frame : List UInt8) : List Nat :=
  (frame.zipIdx.filterMap fun (byte, index) => if byte = 0 then some index else none).take 3

/-- The secrets of the three values of a legacy frame. -/
def legacySecrets (references : SigningSecretReferences) (limits : FrameLimits)
    (certificate password profile : List UInt8) : Except CliFailure Secrets := do
  rejectIf (limits.maximumEncodedBlobBytes < certificate.length ||
    limits.maximumPasswordBytes < password.length ||
    limits.maximumEncodedBlobBytes < profile.length) invalidSigningStdin
  let certificateP12 ← ofOption invalidSigningStdin
    (decodeBase64 certificate limits.maximumDecodedBlobBytes)
  let provisioningProfile ← ofOption invalidSigningStdin
    (decodeBase64 profile limits.maximumDecodedBlobBytes)
  validateSigningPassword password limits.maximumPasswordBytes
  -- the legacy frame has no names: its values go by position
  let first ← ofOption invalidSigningStdin references.profiles.head?
  return ((Secrets.empty.insert references.certificate certificateP12).insert references.password
    password).insert first provisioningProfile

def parseLegacySigningSecretFrame (frame : List UInt8) (references : SigningSecretReferences)
    (limits : FrameLimits) : Except CliFailure Secrets :=
  match separators frame with
  | [certificateEnd, passwordEnd] =>
    legacySecrets references limits (frame.take certificateEnd)
      ((frame.take passwordEnd).drop (certificateEnd + 1)) (frame.drop (passwordEnd + 1))
  | _ => .error invalidSigningStdin

/-- `frame.fill(0)`. -/
def fillZero (frame : List UInt8) : List UInt8 := frame.map fun _ => 0

def parseSigningSecretFrameInPlace (frame : List UInt8) (references : SigningSecretReferences)
    (limits : FrameLimits) : Except CliFailure Secrets × List UInt8 :=
  let result :=
    if signingFrameFront.isPrefixOf frame then parseSigningSecretFrameV2 frame references limits
    else if references.profiles.length = 1 then
      parseLegacySigningSecretFrame frame references limits
    else .error (CliFailure.input "legacy_signing_frame_requires_single_profile"
      "legacy protected signing stdin is valid only for a single-profile plan")
  (result, fillZero frame)

/-! ## Standard input -/

/-- What a call of `read` returns. -/
inductive ReadResult where
  | read (count : Nat)
  | interrupted
  | failed

/-- What a call of `read` writes into the buffer it is given, and what it returns. -/
structure ReadCall where
  written : List UInt8
  result : ReadResult

/-- The buffer after a call that was given the bytes from the length on. -/
def overwrite (buffer : List UInt8) (length : Nat) (written : List UInt8) : List UInt8 :=
  buffer.take length ++ written.take (buffer.length - length) ++
    buffer.drop (length + written.length)

/-- The loop of `read_bounded_signing_secret_stdin`; the input is at its end after the calls. -/
def readLoop (buffer : List UInt8) (length : Nat) : List ReadCall →
    Except CliFailure Nat × List UInt8
  | [] => if length = buffer.length then (.error invalidSigningStdin, fillZero buffer)
    else (.ok length, buffer)
  | call :: calls =>
    if length = buffer.length then (.error invalidSigningStdin, fillZero buffer)
    else
      let buffer := overwrite buffer length call.written
      match call.result with
      | .interrupted => readLoop buffer length calls
      | .failed => (.error invalidSigningStdin, fillZero buffer)
      | .read count =>
        if count = 0 then (.ok length, buffer)
        else if count ≤ buffer.length - length then readLoop buffer (length + count) calls
        else (.error invalidSigningStdin, fillZero buffer)

/-- `read_bounded_signing_secret_stdin`: the frame, or the buffer that is dropped. -/
def readBoundedSigningSecretStdin (calls : List ReadCall) : Except CliFailure Unit × List UInt8 :=
  match readLoop (List.replicate (maxSigningStdinBytes + 1) 0) 0 calls with
  | (.ok length, buffer) => (.ok (), buffer.take length)
  | (.error failure, buffer) => (.error failure, buffer)

/-- The limits of the signing phase. -/
def signingLimits : FrameLimits :=
  ⟨maxEncodedSecretBytes, maxSigningPasswordBytes, maxDecodedSigningBlobBytes⟩

def readSigningSecretStdin (calls : List ReadCall) (references : SigningSecretReferences) :
    Except CliFailure Secrets × List UInt8 :=
  match readBoundedSigningSecretStdin calls with
  | (.ok _, frame) => parseSigningSecretFrameInPlace frame references signingLimits
  | (.error failure, buffer) => (.error failure, buffer)

end RustFerry.SigningStdin
