import RustFerry.Native.RequestCodec

/-!
# Worker stdio envelopes

The envelopes of one-request worker control planes (`crates/rustferry-remote/src/stdio.rs`,
with the provider types of `crates/rustferry-remote/src/provider.rs`). What is written is the
serialized form of the public types; what is read goes through a family of strict types that
deny unknown fields. Semantic versions are a parameter.
-/

namespace RustFerry.Remote

open Serde Artifact Except

/-- `semver::Version`: how a version is displayed and parsed. -/
class Semver (V : Type) where
  display : V → String
  parse : String → Option V

/-! ## Limits -/

def workerStdioSchemaVersion : UInt32 := 1

def maxWorkerStdioRequestBytes : Nat := 64 * 1024

def maxWorkerStdioResponseBytes : Nat := 1024 * 1024

def maxRequiredFeatures : Nat := 64

def maxVersionBytes : Nat := 128

def maxProviderChecks : Nat := 256

def maxCheckMessageBytes : Nat := 512

def maxCheckHelpBytes : Nat := 1024

/-! ## Provider types -/

theorem SourceMode.ctorIdx_injective : Function.Injective SourceMode.ctorIdx := by
  intro a b h
  cases a <;> cases b <;> first | rfl | cases h

/-- Source modes are ordered as they are declared. -/
instance : LinearOrder SourceMode :=
  LinearOrder.lift' SourceMode.ctorIdx SourceMode.ctorIdx_injective

theorem SigningMode.ctorIdx_injective : Function.Injective SigningMode.ctorIdx := by
  intro a b h
  cases a <;> cases b <;> first | rfl | cases h

/-- Signing modes are ordered as they are declared. -/
instance : LinearOrder SigningMode :=
  LinearOrder.lift' SigningMode.ctorIdx SigningMode.ctorIdx_injective

/-- One typed feature that a caller may require from a provider. -/
inductive ProviderFeature where
  | sourceMode (value : SourceMode)
  | iosDeviceBuild
  | iosSimulatorBuild
  | signingMode (value : SigningMode)
  | personalTeam
  | liveEvents
  | liveLogs
  | cancellation
  | artifactType (value : IosArtifactType)
  | cache
  | artifactListing
  | artifactDownload
  | cleanup
  | physicalDeviceAccess
  deriving DecidableEq

/-- Deterministic capability inventory returned during handshake and doctor. -/
structure ProviderCapabilities where
  sourceModes : Finset SourceMode
  iosDeviceBuild : Bool
  iosSimulatorBuild : Bool
  signingModes : Finset SigningMode
  personalTeam : Bool
  liveEvents : Bool
  liveLogs : Bool
  cancellation : Bool
  artifactTypes : Finset IosArtifactType
  cache : Bool
  maxSourceBytes : Option UInt64
  retentionSeconds : Option UInt64
  artifactListing : Bool
  artifactDownload : Bool
  cleanup : Bool
  physicalDeviceAccess : Bool

structure HandshakeRequest (V : Type) where
  protocolVersion : ProtocolVersion
  clientVersion : V
  requiredFeatures : List ProviderFeature

structure HandshakeResponse (V : Type) where
  protocolVersion : ProtocolVersion
  workerVersion : V
  provider : String
  workerId : String
  capabilities : ProviderCapabilities

structure ProviderDoctorRequest where
  protocolVersion : ProtocolVersion
  operationId : String
  requireSigning : Bool

/-- Result status of one provider doctor check. -/
inductive ProviderCheckStatus where
  | ready
  | warning
  | error
  deriving DecidableEq

def ProviderCheckStatus.name : ProviderCheckStatus → String
  | .ready => "ready"
  | .warning => "warning"
  | .error => "error"

structure ProviderCheck where
  code : String
  status : ProviderCheckStatus
  message : String
  help : Option String

structure ProviderDoctorReport where
  protocolVersion : ProtocolVersion
  provider : String
  ready : Bool
  checks : List ProviderCheck
  capabilities : ProviderCapabilities

/-! ## Envelopes -/

inductive WorkerStdioRequest (V : Type) where
  | handshake (request : HandshakeRequest V)
  | providerDoctor (request : ProviderDoctorRequest)

/-- One strict, versioned worker stdio request. -/
structure WorkerStdioRequestEnvelope (V : Type) where
  schemaVersion : UInt32
  request : WorkerStdioRequest V

/-- Stable secret-free stdio failure payload. -/
structure WorkerStdioErrorResponse where
  code : String
  message : String
  retryable : Bool

inductive WorkerStdioResponse (V : Type) where
  | handshake (response : HandshakeResponse V)
  | providerDoctor (response : ProviderDoctorReport)
  | error (failure : WorkerStdioErrorResponse)

/-- One strict, versioned worker stdio response. -/
structure WorkerStdioResponseEnvelope (V : Type) where
  schemaVersion : UInt32
  response : WorkerStdioResponse V

/-- Sanitized failure returned by the bounded stdio codec. -/
inductive WorkerStdioCodecError where
  | io
  | emptyInput
  | truncatedJson
  | malformedJson
  | requestTooLarge
  | responseTooLarge
  | unsupportedSchemaVersion (supported received : UInt32)
  | incompatibleProtocolVersion (supported received : ProtocolVersion)
  | invalidRequest
  | invalidResponse
  deriving DecidableEq

abbrev StdioResult := Except WorkerStdioCodecError

/-! ## Validation -/

def validateSchemaVersion (version : UInt32) : StdioResult Unit :=
  if version = workerStdioSchemaVersion then .ok ()
  else .error (.unsupportedSchemaVersion workerStdioSchemaVersion version)

/-- The version has to be compatible with the current one. -/
def checkProtocolVersion (version : ProtocolVersion) : StdioResult Unit :=
  match currentProtocolVersion.negotiate version with
  | .ok _ => .ok ()
  | .error _ => .error (.incompatibleProtocolVersion currentProtocolVersion version)

def isIdentifierByte (byte : UInt8) : Bool :=
  (48 ≤ byte && byte ≤ 57) || (65 ≤ byte && byte ≤ 90) || (97 ≤ byte && byte ≤ 122) ||
    byte == 45 || byte == 95 || byte == 46 || byte == 58

def validIdentifier (value : String) : Bool :=
  value != "" && value.utf8ByteSize ≤ 160 && (Text.utf8 value).all isIdentifierByte

def validPublicText (value : String) (maximumBytes : Nat) : Bool :=
  value != "" && value.utf8ByteSize ≤ maximumBytes && !value.toList.any Text.isControl

section

variable {V : Type} [Semver V]

def WorkerStdioRequestEnvelope.validate (self : WorkerStdioRequestEnvelope V) :
    StdioResult Unit := do
  validateSchemaVersion self.schemaVersion
  match self.request with
  | .handshake request => do
    checkProtocolVersion request.protocolVersion
    rejectIf (request.requiredFeatures.length > maxRequiredFeatures) .invalidRequest
    rejectIf ((Semver.display request.clientVersion).utf8ByteSize > maxVersionBytes)
      .invalidRequest
  | .providerDoctor request => do
    checkProtocolVersion request.protocolVersion
    rejectIf (!validIdentifier request.operationId) .invalidRequest

def validProviderCheck (check : ProviderCheck) : Bool :=
  validIdentifier check.code && validPublicText check.message maxCheckMessageBytes &&
    check.help.all fun help => validPublicText help maxCheckHelpBytes

def WorkerStdioResponseEnvelope.validate (self : WorkerStdioResponseEnvelope V) :
    StdioResult Unit := do
  validateSchemaVersion self.schemaVersion
  match self.response with
  | .handshake response => do
    checkProtocolVersion response.protocolVersion
    rejectIf (!validIdentifier response.provider || !validIdentifier response.workerId)
      .invalidResponse
    rejectIf ((Semver.display response.workerVersion).utf8ByteSize > maxVersionBytes)
      .invalidResponse
  | .providerDoctor response => do
    checkProtocolVersion response.protocolVersion
    rejectIf (!validIdentifier response.provider) .invalidResponse
    rejectIf (response.checks.length > maxProviderChecks ||
        response.checks.any (fun check => !validProviderCheck check) ||
        response.ready != response.checks.all fun check => check.status != .error)
      .invalidResponse
  | .error failure =>
    rejectIf (!validIdentifier failure.code ||
        !validPublicText failure.message maxCheckMessageBytes)
      .invalidResponse

end

/-! ## What is written -/

instance : Serialize ProviderCheckStatus := ⟨fun status => .string status.name⟩

/-- The name of a feature, and its value if it has one. -/
def ProviderFeature.parts : ProviderFeature → String × Option Json
  | .sourceMode value => ("source_mode", some (serialize value))
  | .iosDeviceBuild => ("ios_device_build", none)
  | .iosSimulatorBuild => ("ios_simulator_build", none)
  | .signingMode value => ("signing_mode", some (serialize value))
  | .personalTeam => ("personal_team", none)
  | .liveEvents => ("live_events", none)
  | .liveLogs => ("live_logs", none)
  | .cancellation => ("cancellation", none)
  | .artifactType value => ("artifact_type", some (serialize value))
  | .cache => ("cache", none)
  | .artifactListing => ("artifact_listing", none)
  | .artifactDownload => ("artifact_download", none)
  | .cleanup => ("cleanup", none)
  | .physicalDeviceAccess => ("physical_device_access", none)

instance : Serialize ProviderFeature :=
  ⟨fun feature => adjacent "feature" "value" feature.parts.1 feature.parts.2⟩

def ProviderCapabilities.fieldNames : List String :=
  ["source_modes", "ios_device_build", "ios_simulator_build", "signing_modes", "personal_team",
    "live_events", "live_logs", "cancellation", "artifact_types", "cache", "max_source_bytes",
    "retention_seconds", "artifact_listing", "artifact_download", "cleanup",
    "physical_device_access"]

def ProviderCapabilities.fields (c : ProviderCapabilities) : List (Option Json) :=
  [some (serialize c.sourceModes), some (serialize c.iosDeviceBuild),
    some (serialize c.iosSimulatorBuild), some (serialize c.signingModes),
    some (serialize c.personalTeam), some (serialize c.liveEvents), some (serialize c.liveLogs),
    some (serialize c.cancellation), some (serialize c.artifactTypes), some (serialize c.cache),
    some (nullable c.maxSourceBytes), some (nullable c.retentionSeconds),
    some (serialize c.artifactListing), some (serialize c.artifactDownload),
    some (serialize c.cleanup), some (serialize c.physicalDeviceAccess)]

instance : Serialize ProviderCapabilities :=
  ⟨fun c => .object (serializeFields ProviderCapabilities.fieldNames c.fields)⟩

def ProviderDoctorRequest.fieldNames : List String :=
  ["protocol_version", "operation_id", "require_signing"]

def ProviderDoctorRequest.fields (r : ProviderDoctorRequest) : List (Option Json) :=
  [some (serialize r.protocolVersion), some (serialize r.operationId),
    some (serialize r.requireSigning)]

instance : Serialize ProviderDoctorRequest :=
  ⟨fun r => .object (serializeFields ProviderDoctorRequest.fieldNames r.fields)⟩

def ProviderCheck.fieldNames : List String := ["code", "status", "message", "help"]

def ProviderCheck.fields (c : ProviderCheck) : List (Option Json) :=
  [some (serialize c.code), some (serialize c.status), some (serialize c.message),
    skipNone c.help]

instance : Serialize ProviderCheck :=
  ⟨fun c => .object (serializeFields ProviderCheck.fieldNames c.fields)⟩

def ProviderDoctorReport.fieldNames : List String :=
  ["protocol_version", "provider", "ready", "checks", "capabilities"]

def ProviderDoctorReport.fields (r : ProviderDoctorReport) : List (Option Json) :=
  [some (serialize r.protocolVersion), some (serialize r.provider), some (serialize r.ready),
    some (serialize r.checks), some (serialize r.capabilities)]

instance : Serialize ProviderDoctorReport :=
  ⟨fun r => .object (serializeFields ProviderDoctorReport.fieldNames r.fields)⟩

def WorkerStdioErrorResponse.fieldNames : List String := ["code", "message", "retryable"]

def WorkerStdioErrorResponse.fields (e : WorkerStdioErrorResponse) : List (Option Json) :=
  [some (serialize e.code), some (serialize e.message), some (serialize e.retryable)]

instance : Serialize WorkerStdioErrorResponse :=
  ⟨fun e => .object (serializeFields WorkerStdioErrorResponse.fieldNames e.fields)⟩

def requestEnvelopeFieldNames : List String := ["schema_version", "request"]

def responseEnvelopeFieldNames : List String := ["schema_version", "response"]

section

variable {V : Type} [Semver V]

/-- A version is written as it is displayed. -/
def serializeVersion (version : V) : Json := .string (Semver.display version)

def deserializeVersion : Option Json → Option V
  | some (.string text) => Semver.parse text
  | _ => none

def HandshakeRequest.fieldNames : List String :=
  ["protocol_version", "client_version", "required_features"]

def HandshakeRequest.fields (r : HandshakeRequest V) : List (Option Json) :=
  [some (serialize r.protocolVersion), some (serializeVersion r.clientVersion),
    some (serialize r.requiredFeatures)]

instance : Serialize (HandshakeRequest V) :=
  ⟨fun r => .object (serializeFields HandshakeRequest.fieldNames r.fields)⟩

def HandshakeResponse.fieldNames : List String :=
  ["protocol_version", "worker_version", "provider", "worker_id", "capabilities"]

def HandshakeResponse.fields (r : HandshakeResponse V) : List (Option Json) :=
  [some (serialize r.protocolVersion), some (serializeVersion r.workerVersion),
    some (serialize r.provider), some (serialize r.workerId), some (serialize r.capabilities)]

instance : Serialize (HandshakeResponse V) :=
  ⟨fun r => .object (serializeFields HandshakeResponse.fieldNames r.fields)⟩

/-- `RequestRef`. -/
instance : Serialize (WorkerStdioRequest V) where
  serialize
    | .handshake request => adjacent "operation" "payload" "handshake" (some (serialize request))
    | .providerDoctor request =>
      adjacent "operation" "payload" "provider_doctor" (some (serialize request))

/-- `RequestEnvelopeRef`. -/
instance : Serialize (WorkerStdioRequestEnvelope V) :=
  ⟨fun e => .object (serializeFields requestEnvelopeFieldNames
    [some (serialize e.schemaVersion), some (serialize e.request)])⟩

/-- `ResponseRef`. -/
instance : Serialize (WorkerStdioResponse V) where
  serialize
    | .handshake response => adjacent "operation" "payload" "handshake" (some (serialize response))
    | .providerDoctor response =>
      adjacent "operation" "payload" "provider_doctor" (some (serialize response))
    | .error failure => adjacent "operation" "payload" "error" (some (serialize failure))

/-- `ResponseEnvelopeRef`. -/
instance : Serialize (WorkerStdioResponseEnvelope V) :=
  ⟨fun e => .object (serializeFields responseEnvelopeFieldNames
    [some (serialize e.schemaVersion), some (serialize e.response)])⟩

end

/-! ## What is read -/

instance : Deserialize SourceMode where
  deserialize := deserializeEnum
    ([.git, .gitSnapshot, .snapshot].map fun mode => (mode.name, mode))

instance : Deserialize ProviderCheckStatus where
  deserialize := deserializeEnum
    ([.ready, .warning, .error].map fun status => (status.name, status))

structure StrictProtocolVersion where
  major : UInt16
  minor : UInt16

def StrictProtocolVersion.ofFields : List (Option Json) → Option StrictProtocolVersion
  | [major, minor] => do
    return { major := ← requiredField major, minor := ← requiredField minor }
  | _ => none

instance : Deserialize StrictProtocolVersion :=
  ⟨fun v => (deserializeStruct ["major", "minor"] true v).bind StrictProtocolVersion.ofFields⟩

def StrictProtocolVersion.into (version : StrictProtocolVersion) : ProtocolVersion :=
  ⟨version.major, version.minor⟩

inductive StrictProviderFeature where
  | sourceMode (value : SourceMode)
  | iosDeviceBuild
  | iosSimulatorBuild
  | signingMode (value : SigningMode)
  | personalTeam
  | liveEvents
  | liveLogs
  | cancellation
  | artifactType (value : IosArtifactType)
  | cache
  | artifactListing
  | artifactDownload
  | cleanup
  | physicalDeviceAccess

/-- How the content of each variant is read. -/
def StrictProviderFeature.variants :
    List (String × (Option Json → Option StrictProviderFeature)) :=
  [("source_mode", fun value => (requiredField value).map .sourceMode),
    ("ios_device_build", fun value => (unitContent value).map fun _ => .iosDeviceBuild),
    ("ios_simulator_build", fun value => (unitContent value).map fun _ => .iosSimulatorBuild),
    ("signing_mode", fun value => (requiredField value).map .signingMode),
    ("personal_team", fun value => (unitContent value).map fun _ => .personalTeam),
    ("live_events", fun value => (unitContent value).map fun _ => .liveEvents),
    ("live_logs", fun value => (unitContent value).map fun _ => .liveLogs),
    ("cancellation", fun value => (unitContent value).map fun _ => .cancellation),
    ("artifact_type", fun value => (requiredField value).map .artifactType),
    ("cache", fun value => (unitContent value).map fun _ => .cache),
    ("artifact_listing", fun value => (unitContent value).map fun _ => .artifactListing),
    ("artifact_download", fun value => (unitContent value).map fun _ => .artifactDownload),
    ("cleanup", fun value => (unitContent value).map fun _ => .cleanup),
    ("physical_device_access", fun value => (unitContent value).map fun _ => .physicalDeviceAccess)]

instance : Deserialize StrictProviderFeature where
  deserialize v := do
    let (name, value) ← deserializeAdjacent "feature" "value" true v
    let read ← deserializeEnum StrictProviderFeature.variants name
    read value

def StrictProviderFeature.into : StrictProviderFeature → ProviderFeature
  | .sourceMode value => .sourceMode value
  | .iosDeviceBuild => .iosDeviceBuild
  | .iosSimulatorBuild => .iosSimulatorBuild
  | .signingMode value => .signingMode value
  | .personalTeam => .personalTeam
  | .liveEvents => .liveEvents
  | .liveLogs => .liveLogs
  | .cancellation => .cancellation
  | .artifactType value => .artifactType value
  | .cache => .cache
  | .artifactListing => .artifactListing
  | .artifactDownload => .artifactDownload
  | .cleanup => .cleanup
  | .physicalDeviceAccess => .physicalDeviceAccess

structure StrictProviderDoctorRequest where
  protocolVersion : StrictProtocolVersion
  operationId : String
  requireSigning : Bool

def StrictProviderDoctorRequest.ofFields :
    List (Option Json) → Option StrictProviderDoctorRequest
  | [protocolVersion, operationId, requireSigning] => do
    return {
      protocolVersion := ← requiredField protocolVersion
      operationId := ← requiredField operationId
      requireSigning := ← requiredField requireSigning }
  | _ => none

instance : Deserialize StrictProviderDoctorRequest :=
  ⟨fun v => (deserializeStruct ["protocol_version", "operation_id", "require_signing"] true v).bind
    StrictProviderDoctorRequest.ofFields⟩

structure StrictProviderCheck where
  code : String
  status : ProviderCheckStatus
  message : String
  help : Option String

def StrictProviderCheck.ofFields : List (Option Json) → Option StrictProviderCheck
  | [code, status, message, help] => do
    return {
      code := ← requiredField code
      status := ← requiredField status
      message := ← requiredField message
      help := ← optionalField help }
  | _ => none

instance : Deserialize StrictProviderCheck :=
  ⟨fun v => (deserializeStruct ["code", "status", "message", "help"] true v).bind
    StrictProviderCheck.ofFields⟩

structure StrictProviderCapabilities where
  sourceModes : Finset SourceMode
  iosDeviceBuild : Bool
  iosSimulatorBuild : Bool
  signingModes : Finset SigningMode
  personalTeam : Bool
  liveEvents : Bool
  liveLogs : Bool
  cancellation : Bool
  artifactTypes : Finset IosArtifactType
  cache : Bool
  maxSourceBytes : Option UInt64
  retentionSeconds : Option UInt64
  artifactListing : Bool
  artifactDownload : Bool
  cleanup : Bool
  physicalDeviceAccess : Bool

def StrictProviderCapabilities.fieldNames : List String :=
  ["source_modes", "ios_device_build", "ios_simulator_build", "signing_modes", "personal_team",
    "live_events", "live_logs", "cancellation", "artifact_types", "cache", "max_source_bytes",
    "retention_seconds", "artifact_listing", "artifact_download", "cleanup",
    "physical_device_access"]

def StrictProviderCapabilities.ofFields : List (Option Json) → Option StrictProviderCapabilities
  | [sourceModes, iosDeviceBuild, iosSimulatorBuild, signingModes, personalTeam, liveEvents,
      liveLogs, cancellation, artifactTypes, cache, maxSourceBytes, retentionSeconds,
      artifactListing, artifactDownload, cleanup, physicalDeviceAccess] => do
    return {
      sourceModes := ← requiredField sourceModes
      iosDeviceBuild := ← requiredField iosDeviceBuild
      iosSimulatorBuild := ← requiredField iosSimulatorBuild
      signingModes := ← requiredField signingModes
      personalTeam := ← requiredField personalTeam
      liveEvents := ← requiredField liveEvents
      liveLogs := ← requiredField liveLogs
      cancellation := ← requiredField cancellation
      artifactTypes := ← requiredField artifactTypes
      cache := ← requiredField cache
      maxSourceBytes := ← optionalField maxSourceBytes
      retentionSeconds := ← optionalField retentionSeconds
      artifactListing := ← requiredField artifactListing
      artifactDownload := ← requiredField artifactDownload
      cleanup := ← requiredField cleanup
      physicalDeviceAccess := ← requiredField physicalDeviceAccess }
  | _ => none

instance : Deserialize StrictProviderCapabilities :=
  ⟨fun v => (deserializeStruct StrictProviderCapabilities.fieldNames true v).bind
    StrictProviderCapabilities.ofFields⟩

def StrictProviderCapabilities.into (c : StrictProviderCapabilities) : ProviderCapabilities where
  sourceModes := c.sourceModes
  iosDeviceBuild := c.iosDeviceBuild
  iosSimulatorBuild := c.iosSimulatorBuild
  signingModes := c.signingModes
  personalTeam := c.personalTeam
  liveEvents := c.liveEvents
  liveLogs := c.liveLogs
  cancellation := c.cancellation
  artifactTypes := c.artifactTypes
  cache := c.cache
  maxSourceBytes := c.maxSourceBytes
  retentionSeconds := c.retentionSeconds
  artifactListing := c.artifactListing
  artifactDownload := c.artifactDownload
  cleanup := c.cleanup
  physicalDeviceAccess := c.physicalDeviceAccess

structure StrictProviderDoctorReport where
  protocolVersion : StrictProtocolVersion
  provider : String
  ready : Bool
  checks : List StrictProviderCheck
  capabilities : StrictProviderCapabilities

def StrictProviderDoctorReport.ofFields : List (Option Json) → Option StrictProviderDoctorReport
  | [protocolVersion, provider, ready, checks, capabilities] => do
    return {
      protocolVersion := ← requiredField protocolVersion
      provider := ← requiredField provider
      ready := ← requiredField ready
      checks := ← requiredField checks
      capabilities := ← requiredField capabilities }
  | _ => none

instance : Deserialize StrictProviderDoctorReport :=
  ⟨fun v => (deserializeStruct ["protocol_version", "provider", "ready", "checks",
    "capabilities"] true v).bind StrictProviderDoctorReport.ofFields⟩

def WorkerStdioErrorResponse.ofFields : List (Option Json) → Option WorkerStdioErrorResponse
  | [code, message, retryable] => do
    return {
      code := ← requiredField code
      message := ← requiredField message
      retryable := ← requiredField retryable }
  | _ => none

instance : Deserialize WorkerStdioErrorResponse :=
  ⟨fun v => (deserializeStruct WorkerStdioErrorResponse.fieldNames true v).bind
    WorkerStdioErrorResponse.ofFields⟩

section

variable {V : Type} [Semver V]

structure StrictHandshakeRequest (V : Type) where
  protocolVersion : StrictProtocolVersion
  clientVersion : V
  requiredFeatures : List StrictProviderFeature

def StrictHandshakeRequest.ofFields : List (Option Json) → Option (StrictHandshakeRequest V)
  | [protocolVersion, clientVersion, requiredFeatures] => do
    return {
      protocolVersion := ← requiredField protocolVersion
      clientVersion := ← deserializeVersion clientVersion
      requiredFeatures := ← requiredField requiredFeatures }
  | _ => none

instance : Deserialize (StrictHandshakeRequest V) :=
  ⟨fun v => (deserializeStruct ["protocol_version", "client_version", "required_features"] true
    v).bind StrictHandshakeRequest.ofFields⟩

structure StrictHandshakeResponse (V : Type) where
  protocolVersion : StrictProtocolVersion
  workerVersion : V
  provider : String
  workerId : String
  capabilities : StrictProviderCapabilities

def StrictHandshakeResponse.ofFields : List (Option Json) → Option (StrictHandshakeResponse V)
  | [protocolVersion, workerVersion, provider, workerId, capabilities] => do
    return {
      protocolVersion := ← requiredField protocolVersion
      workerVersion := ← deserializeVersion workerVersion
      provider := ← requiredField provider
      workerId := ← requiredField workerId
      capabilities := ← requiredField capabilities }
  | _ => none

instance : Deserialize (StrictHandshakeResponse V) :=
  ⟨fun v => (deserializeStruct ["protocol_version", "worker_version", "provider", "worker_id",
    "capabilities"] true v).bind StrictHandshakeResponse.ofFields⟩

inductive StrictRequest (V : Type) where
  | handshake (request : StrictHandshakeRequest V)
  | providerDoctor (request : StrictProviderDoctorRequest)

def StrictRequest.variants : List (String × (Option Json → Option (StrictRequest V))) :=
  [("handshake", fun payload => (requiredField payload).map .handshake),
    ("provider_doctor", fun payload => (requiredField payload).map .providerDoctor)]

instance : Deserialize (StrictRequest V) where
  deserialize v := do
    let (name, payload) ← deserializeAdjacent "operation" "payload" true v
    let read ← deserializeEnum StrictRequest.variants name
    read payload

structure StrictRequestEnvelope (V : Type) where
  schemaVersion : UInt32
  request : StrictRequest V

def StrictRequestEnvelope.ofFields : List (Option Json) → Option (StrictRequestEnvelope V)
  | [schemaVersion, request] => do
    return { schemaVersion := ← requiredField schemaVersion, request := ← requiredField request }
  | _ => none

instance : Deserialize (StrictRequestEnvelope V) :=
  ⟨fun v => (deserializeStruct ["schema_version", "request"] true v).bind
    StrictRequestEnvelope.ofFields⟩

def StrictRequestEnvelope.into (envelope : StrictRequestEnvelope V) :
    WorkerStdioRequestEnvelope V where
  schemaVersion := envelope.schemaVersion
  request :=
    match envelope.request with
    | .handshake request => .handshake {
        protocolVersion := request.protocolVersion.into
        clientVersion := request.clientVersion
        requiredFeatures := request.requiredFeatures.map StrictProviderFeature.into }
    | .providerDoctor request => .providerDoctor {
        protocolVersion := request.protocolVersion.into
        operationId := request.operationId
        requireSigning := request.requireSigning }

instance : Deserialize (WorkerStdioRequestEnvelope V) :=
  ⟨fun v => (deserialize v).map StrictRequestEnvelope.into⟩

inductive StrictResponse (V : Type) where
  | handshake (response : StrictHandshakeResponse V)
  | providerDoctor (response : StrictProviderDoctorReport)
  | error (failure : WorkerStdioErrorResponse)

def StrictResponse.variants : List (String × (Option Json → Option (StrictResponse V))) :=
  [("handshake", fun payload => (requiredField payload).map .handshake),
    ("provider_doctor", fun payload => (requiredField payload).map .providerDoctor),
    ("error", fun payload => (requiredField payload).map .error)]

instance : Deserialize (StrictResponse V) where
  deserialize v := do
    let (name, payload) ← deserializeAdjacent "operation" "payload" true v
    let read ← deserializeEnum StrictResponse.variants name
    read payload

structure StrictResponseEnvelope (V : Type) where
  schemaVersion : UInt32
  response : StrictResponse V

def StrictResponseEnvelope.ofFields : List (Option Json) → Option (StrictResponseEnvelope V)
  | [schemaVersion, response] => do
    return { schemaVersion := ← requiredField schemaVersion, response := ← requiredField response }
  | _ => none

instance : Deserialize (StrictResponseEnvelope V) :=
  ⟨fun v => (deserializeStruct ["schema_version", "response"] true v).bind
    StrictResponseEnvelope.ofFields⟩

def StrictResponseEnvelope.into (envelope : StrictResponseEnvelope V) :
    WorkerStdioResponseEnvelope V where
  schemaVersion := envelope.schemaVersion
  response :=
    match envelope.response with
    | .handshake response => .handshake {
        protocolVersion := response.protocolVersion.into
        workerVersion := response.workerVersion
        provider := response.provider
        workerId := response.workerId
        capabilities := response.capabilities.into }
    | .providerDoctor response => .providerDoctor {
        protocolVersion := response.protocolVersion.into
        provider := response.provider
        ready := response.ready
        checks := response.checks.map fun check =>
          ⟨check.code, check.status, check.message, check.help⟩
        capabilities := response.capabilities.into }
    | .error failure => .error failure

instance : Deserialize (WorkerStdioResponseEnvelope V) :=
  ⟨fun v => (deserialize v).map StrictResponseEnvelope.into⟩

end

/-! ## The codec -/

/-- `serde_json`: how it cuts a text into pieces as it writes it, and whether it reports a
    failure to read a request or a response as an early end of the input. -/
structure JsonTools where
  pieces : List UInt8 → List (List UInt8)
  flatten_pieces : ∀ bytes, (pieces bytes).flatten = bytes
  isEof : Bool → List UInt8 → Bool

/-- A buffer of bounded size. -/
structure BoundedOutput where
  bytes : List UInt8
  maximum : Nat
  exceeded : Bool

def BoundedOutput.new (maximum : Nat) : BoundedOutput := ⟨[], maximum, false⟩

def BoundedOutput.write (self : BoundedOutput) (bytes : List UInt8) :
    Except IoError Unit × BoundedOutput :=
  if bytes.length > self.maximum - self.bytes.length then
    (.error .failed, { self with exceeded := true })
  else (.ok (), { self with bytes := self.bytes ++ bytes })

/-- Write the pieces of a text up to the first failure. -/
def BoundedOutput.writePieces (self : BoundedOutput) :
    List (List UInt8) → Except IoError Unit × BoundedOutput
  | [] => (.ok (), self)
  | piece :: pieces =>
    match self.write piece with
    | (.ok (), next) => next.writePieces pieces
    | (.error failure, next) => (.error failure, next)

/-- Write one bounded document plus a newline. -/
def encodeBounded (json : JsonTools) (maximum : Nat) (tooLarge invalid : WorkerStdioCodecError)
    (writer : ScriptedWriter) (document : Json) : StdioResult Unit × ScriptedWriter :=
  let text := Text.utf8 (String.ofList document.print)
  match (BoundedOutput.new maximum).writePieces (json.pieces text) with
  | (.error _, encoded) => (.error (if encoded.exceeded then tooLarge else invalid), writer)
  | (.ok (), encoded) =>
    match encoded.write [10] with
    | (.error _, _) => (.error tooLarge, writer)
    | (.ok (), encoded) =>
      match writer.writeAll encoded.bytes with
      | (.error _, writer) => (.error .io, writer)
      | (.ok (), writer) => (.ok (), writer)

def isAsciiWhitespace (byte : UInt8) : Bool :=
  byte == 32 || byte == 9 || byte == 10 || byte == 12 || byte == 13

def readBounded {ρ : Type} [ByteSource ρ] (reader : ρ) (maximum : Nat) (request : Bool) :
    StdioResult (List UInt8) := do
  let bytes ← readToEnd WorkerStdioCodecError.io reader [] (maximum + 1)
  rejectIf (bytes.length > maximum) (if request then .requestTooLarge else .responseTooLarge)
  rejectIf (bytes.all isAsciiWhitespace) .emptyInput
  return bytes

/-- `serde_json::from_slice`. -/
def decodeJson {α : Type} [Deserialize α] (json : JsonTools) (request : Bool)
    (bytes : List UInt8) : StdioResult α :=
  match (Text.fromUtf8 bytes).bind fun text => (Json.parse text.toList).bind deserialize with
  | some value => .ok value
  | none => .error (if json.isEof request bytes then .truncatedJson else .malformedJson)

section

variable {V : Type} [Semver V] {ρ : Type} [ByteSource ρ]

/-- Decode exactly one bounded request document from a reader. -/
def decodeWorkerStdioRequest (json : JsonTools) (reader : ρ) :
    StdioResult (WorkerStdioRequestEnvelope V) := do
  let bytes ← readBounded reader maxWorkerStdioRequestBytes true
  let envelope : WorkerStdioRequestEnvelope V ← decodeJson json true bytes
  envelope.validate
  return envelope

/-- Encode and write exactly one bounded request document plus a newline. -/
def encodeWorkerStdioRequest (json : JsonTools) (writer : ScriptedWriter)
    (request : WorkerStdioRequestEnvelope V) : StdioResult Unit × ScriptedWriter :=
  match request.validate with
  | .error failure => (.error failure, writer)
  | .ok () => encodeBounded json maxWorkerStdioRequestBytes .requestTooLarge .invalidRequest writer
      (serialize request)

/-- Encode and write exactly one bounded response document plus a newline. -/
def encodeWorkerStdioResponse (json : JsonTools) (writer : ScriptedWriter)
    (response : WorkerStdioResponseEnvelope V) : StdioResult Unit × ScriptedWriter :=
  match response.validate with
  | .error failure => (.error failure, writer)
  | .ok () => encodeBounded json maxWorkerStdioResponseBytes .responseTooLarge .invalidResponse
      writer (serialize response)

/-- Decode exactly one bounded response document from a reader. -/
def decodeWorkerStdioResponse (json : JsonTools) (reader : ρ) :
    StdioResult (WorkerStdioResponseEnvelope V) := do
  let bytes ← readBounded reader maxWorkerStdioResponseBytes false
  let envelope : WorkerStdioResponseEnvelope V ← decodeJson json false bytes
  envelope.validate
  return envelope

end

end RustFerry.Remote
