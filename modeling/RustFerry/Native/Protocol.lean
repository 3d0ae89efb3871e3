import RustFerry.ForStd.Text
import RustFerry.Native.ArtifactManifest
import RustFerry.Native.DataPlane

/-!
# Remote build protocol

Event envelopes of the remote-build wire protocol and their NDJSON codec
(`crates/rustferry-remote/src/protocol.rs`). `url::Url::parse` is a parameter: it
yields the user name and password of a valid URI.
-/

namespace RustFerry.Remote

open Serde

/-! ## Versions and errors -/

/-- Semantic version of the remote-build wire protocol. -/
structure ProtocolVersion where
  major : UInt16
  minor : UInt16
  deriving DecidableEq

/-- Current Ferry Remote Build Protocol version. -/
def currentProtocolVersion : ProtocolVersion := ⟨1, 0⟩

def ProtocolVersion.isCompatibleWith (self other : ProtocolVersion) : Bool :=
  self.major = other.major && (self.major != 0 || self.minor = other.minor)

/-- Typed failures crossing the remote-build boundary. `malformedEvent` also
    stands for `TruncatedEvent`: which of the two is reported depends on where
    `serde_json` stopped reading. -/
inductive RemoteBuildError where
  | incompatibleProtocolVersion (supported received : ProtocolVersion)
  | malformedEvent
  | eventTooLarge (bytes maximum : Nat)
  | invalidIdentifier (field reason : String)
  | unsafeEventText (field : String)
  | invalidEventPayload (event reason : String)
  deriving DecidableEq

abbrev RemoteBuildResult := Except RemoteBuildError

/-- Select the common version or return a typed incompatibility error. -/
def ProtocolVersion.negotiate (self other : ProtocolVersion) :
    RemoteBuildResult ProtocolVersion :=
  if self.isCompatibleWith other then .ok ⟨self.major, min self.minor other.minor⟩
  else .error (.incompatibleProtocolVersion self other)

def ProtocolVersion.fieldNames : List String := ["major", "minor"]

def ProtocolVersion.fields (v : ProtocolVersion) : List (Option Json) :=
  [some (serialize v.major), some (serialize v.minor)]

instance : Serialize ProtocolVersion :=
  ⟨fun v => .object (serializeFields ProtocolVersion.fieldNames v.fields)⟩

def ProtocolVersion.ofFields : List (Option Json) → Option ProtocolVersion
  | [major, minor] => do
    return { major := ← requiredField major, minor := ← requiredField minor }
  | _ => none

instance : Deserialize ProtocolVersion :=
  ⟨fun v => (deserializeStruct ProtocolVersion.fieldNames false v).bind ProtocolVersion.ofFields⟩

/-! ## Text checks -/

def validateIdentifier (field value : String) : RemoteBuildResult Unit :=
  if value = "" then .error (.invalidIdentifier field "value is empty")
  else if value.utf8ByteSize > 160 then
    .error (.invalidIdentifier field "value exceeds 160 bytes")
  else if !value.toList.all fun c =>
      c.isAlphanum || c == '-' || c == '_' || c == '.' || c == ':' then
    .error (.invalidIdentifier field "value contains unsupported characters")
  else .ok ()

def validateSafeText (field value : String) (maximumBytes : Nat) : RemoteBuildResult Unit :=
  if value = "" then .error (.invalidIdentifier field "value is empty")
  else if value.utf8ByteSize > maximumBytes then
    .error (.invalidIdentifier field "value exceeds its protocol limit")
  else if value.toList.any Text.isControl then
    .error (.invalidIdentifier field "value contains control characters")
  else .ok ()

def isAbsolutePathText (value : String) : Bool :=
  match value.toList with
  | '/' :: _ => true
  | '\\' :: '\\' :: _ => true
  -- a drive counts only with a separator behind it
  | drive :: ':' :: separator :: _ =>
    drive.isAlpha && (separator == '/' || separator == '\\')
  | _ => false

/-! ## Paths -/

/-- Explicit interpretation of a path carried by the wire protocol. -/
inductive ProtocolPathSemantics where
  | projectRelative
  | workerRelative
  | clientAbsolute
  | providerUri
  deriving DecidableEq

def ProtocolPathSemantics.name : ProtocolPathSemantics → String
  | .projectRelative => "project_relative"
  | .workerRelative => "worker_relative"
  | .clientAbsolute => "client_absolute"
  | .providerUri => "provider_uri"

instance : Serialize ProtocolPathSemantics := ⟨fun semantics => .string semantics.name⟩

instance : Deserialize ProtocolPathSemantics where
  deserialize := deserializeEnum
    ([.projectRelative, .workerRelative, .clientAbsolute, .providerUri].map
      fun semantics => (semantics.name, semantics))

/-- Path string paired with explicit machine and root semantics. -/
structure ProtocolPath where
  semantics : ProtocolPathSemantics
  value : String
  deriving DecidableEq

def ProtocolPath.fieldNames : List String := ["semantics", "value"]

def ProtocolPath.fields (p : ProtocolPath) : List (Option Json) :=
  [some (serialize p.semantics), some (serialize p.value)]

instance : Serialize ProtocolPath :=
  ⟨fun p => .object (serializeFields ProtocolPath.fieldNames p.fields)⟩

def ProtocolPath.ofFields : List (Option Json) → Option ProtocolPath
  | [semantics, value] => do
    return { semantics := ← requiredField semantics, value := ← requiredField value }
  | _ => none

instance : Deserialize ProtocolPath :=
  ⟨fun v => (deserializeStruct ProtocolPath.fieldNames false v).bind ProtocolPath.ofFields⟩

/-- User name and password of a URI, as far as `url::Url::parse` accepts it. -/
abbrev ParseUrl := String → Option (String × Option String)

/-- Lexical path safety without touching the filesystem. -/
def ProtocolPath.validate (parseUrl : ParseUrl) (self : ProtocolPath) :
    RemoteBuildResult Unit := do
  validateSafeText "path" self.value 4096
  match self.semantics with
  | .projectRelative | .workerRelative =>
    if isAbsolutePathText self.value then
      throw (.invalidIdentifier "path" "relative path must not be absolute")
    if (self.value.toList.splitOnP fun c => c == '/' || c == '\\').any fun component =>
        component == [] || component == ['.'] || component == ['.', '.'] then
      throw (.invalidIdentifier "path"
        "relative path contains an empty, current, or parent component")
  | .clientAbsolute =>
    if !isAbsolutePathText self.value then
      throw (.invalidIdentifier "path" "client path must be absolute")
  | .providerUri =>
    match parseUrl self.value with
    | none => throw (.invalidIdentifier "path" "provider URI is invalid")
    | some (username, password) =>
      if username != "" || password.isSome then
        throw (.invalidIdentifier "path" "provider URI must not contain credentials")

/-! ## Build state and results -/

/-- Physical-iPhone artifact type requested or advertised by a provider. -/
inductive IosArtifactType where
  | ipa
  | xcarchive
  | appBundle
  | dsym
  | signingReport
  | provisioningReport
  deriving DecidableEq

def IosArtifactType.name : IosArtifactType → String
  | .ipa => "ipa"
  | .xcarchive => "xcarchive"
  | .appBundle => "app_bundle"
  | .dsym => "dsym"
  | .signingReport => "signing_report"
  | .provisioningReport => "provisioning_report"

instance : Serialize IosArtifactType := ⟨fun type => .string type.name⟩

instance : Deserialize IosArtifactType where
  deserialize := deserializeEnum
    ([.ipa, .xcarchive, .appBundle, .dsym, .signingReport, .provisioningReport].map
      fun type => (type.name, type))

/-- Lifecycle state of one provider job. -/
inductive JobState where
  | created
  | queued
  | running
  | cancelling
  | succeeded
  | failed
  | cancelled
  | cleaning
  | cleaned
  | cleanupFailed
  deriving DecidableEq

def JobState.name : JobState → String
  | .created => "created"
  | .queued => "queued"
  | .running => "running"
  | .cancelling => "cancelling"
  | .succeeded => "succeeded"
  | .failed => "failed"
  | .cancelled => "cancelled"
  | .cleaning => "cleaning"
  | .cleaned => "cleaned"
  | .cleanupFailed => "cleanup_failed"

instance : Serialize JobState := ⟨fun state => .string state.name⟩

instance : Deserialize JobState where
  deserialize := deserializeEnum
    ([.created, .queued, .running, .cancelling, .succeeded, .failed, .cancelled, .cleaning,
      .cleaned, .cleanupFailed].map fun state => (state.name, state))

/-- Proof that provider-owned job material was removed or deliberately retained. -/
structure CleanupConfirmation where
  jobId : String
  completedAtMs : UInt64
  workspaceRemoved : Bool
  signingMaterialRemoved : Bool
  artifactsRetained : Bool
  deriving DecidableEq

def CleanupConfirmation.fieldNames : List String :=
  ["job_id", "completed_at_ms", "workspace_removed", "signing_material_removed",
    "artifacts_retained"]

def CleanupConfirmation.fields (c : CleanupConfirmation) : List (Option Json) :=
  [some (serialize c.jobId), some (serialize c.completedAtMs),
    some (serialize c.workspaceRemoved), some (serialize c.signingMaterialRemoved),
    some (serialize c.artifactsRetained)]

instance : Serialize CleanupConfirmation :=
  ⟨fun c => .object (serializeFields CleanupConfirmation.fieldNames c.fields)⟩

def CleanupConfirmation.ofFields : List (Option Json) → Option CleanupConfirmation
  | [jobId, completedAtMs, workspaceRemoved, signingMaterialRemoved, artifactsRetained] => do
    return {
      jobId := ← requiredField jobId, completedAtMs := ← requiredField completedAtMs
      workspaceRemoved := ← requiredField workspaceRemoved
      signingMaterialRemoved := ← requiredField signingMaterialRemoved
      artifactsRetained := ← requiredField artifactsRetained }
  | _ => none

instance : Deserialize CleanupConfirmation :=
  ⟨fun v =>
    (deserializeStruct CleanupConfirmation.fieldNames false v).bind CleanupConfirmation.ofFields⟩

/-- Provider result after a physical-iPhone build reaches a build-terminal state. -/
structure IosDeviceBuildResult where
  protocolVersion : ProtocolVersion
  operationId : String
  jobId : String
  state : JobState
  artifacts : List ArtifactManifest
  cleanup : Option CleanupConfirmation
  deriving DecidableEq

def IosDeviceBuildResult.fieldNames : List String :=
  ["protocol_version", "operation_id", "job_id", "state", "artifacts", "cleanup"]

def IosDeviceBuildResult.fields (r : IosDeviceBuildResult) : List (Option Json) :=
  [some (serialize r.protocolVersion), some (serialize r.operationId),
    some (serialize r.jobId), some (serialize r.state), some (serialize r.artifacts),
    skipNone r.cleanup]

instance : Serialize IosDeviceBuildResult :=
  ⟨fun r => .object (serializeFields IosDeviceBuildResult.fieldNames r.fields)⟩

def IosDeviceBuildResult.ofFields : List (Option Json) → Option IosDeviceBuildResult
  | [protocolVersion, operationId, jobId, state, artifacts, cleanup] => do
    return {
      protocolVersion := ← requiredField protocolVersion
      operationId := ← requiredField operationId, jobId := ← requiredField jobId
      state := ← requiredField state, artifacts := ← requiredField artifacts
      cleanup := ← optionalField cleanup }
  | _ => none

instance : Deserialize IosDeviceBuildResult :=
  ⟨fun v =>
    (deserializeStruct IosDeviceBuildResult.fieldNames false v).bind IosDeviceBuildResult.ofFields⟩

/-- Normalized diagnostic severity. -/
inductive DiagnosticSeverity where
  | information
  | warning
  | error
  deriving DecidableEq

def DiagnosticSeverity.name : DiagnosticSeverity → String
  | .information => "information"
  | .warning => "warning"
  | .error => "error"

instance : Serialize DiagnosticSeverity := ⟨fun severity => .string severity.name⟩

instance : Deserialize DiagnosticSeverity where
  deserialize := deserializeEnum
    ([.information, .warning, .error].map fun severity => (severity.name, severity))

/-- Sanitized, optionally file-bound worker diagnostic. -/
structure RemoteDiagnostic where
  code : String
  severity : DiagnosticSeverity
  message : String
  help : Option String
  path : Option ProtocolPath
  line : Option UInt32
  column : Option UInt32
  deriving DecidableEq

def RemoteDiagnostic.fieldNames : List String :=
  ["code", "severity", "message", "help", "path", "line", "column"]

def RemoteDiagnostic.fields (d : RemoteDiagnostic) : List (Option Json) :=
  [some (serialize d.code), some (serialize d.severity), some (serialize d.message),
    skipNone d.help, skipNone d.path, skipNone d.line, skipNone d.column]

instance : Serialize RemoteDiagnostic :=
  ⟨fun d => .object (serializeFields RemoteDiagnostic.fieldNames d.fields)⟩

def RemoteDiagnostic.ofFields : List (Option Json) → Option RemoteDiagnostic
  | [code, severity, message, help, path, line, column] => do
    return {
      code := ← requiredField code, severity := ← requiredField severity
      message := ← requiredField message, help := ← optionalField help
      path := ← optionalField path, line := ← optionalField line
      column := ← optionalField column }
  | _ => none

instance : Deserialize RemoteDiagnostic :=
  ⟨fun v => (deserializeStruct RemoteDiagnostic.fieldNames false v).bind RemoteDiagnostic.ofFields⟩

/-- Sanitized error embedded in an operation-finished event. -/
structure RemoteErrorInfo where
  code : String
  message : String
  help : Option String
  retryable : Bool
  deriving DecidableEq

def RemoteErrorInfo.fieldNames : List String := ["code", "message", "help", "retryable"]

def RemoteErrorInfo.fields (e : RemoteErrorInfo) : List (Option Json) :=
  [some (serialize e.code), some (serialize e.message), skipNone e.help,
    some (serialize e.retryable)]

instance : Serialize RemoteErrorInfo :=
  ⟨fun e => .object (serializeFields RemoteErrorInfo.fieldNames e.fields)⟩

def RemoteErrorInfo.ofFields : List (Option Json) → Option RemoteErrorInfo
  | [code, message, help, retryable] => do
    return {
      code := ← requiredField code, message := ← requiredField message
      help := ← optionalField help, retryable := ← requiredField retryable }
  | _ => none

instance : Deserialize RemoteErrorInfo :=
  ⟨fun v => (deserializeStruct RemoteErrorInfo.fieldNames false v).bind RemoteErrorInfo.ofFields⟩

/-! ## Events -/

/-- Typed Ferry Remote Build Protocol v1 event payload; `unknown` is a same-major
    future event ignored by this reader. -/
inductive RemoteBuildEventKind where
  | operationStarted (command : String)
  | jobCreated (state : JobState)
  | jobQueued (position : Option UInt64)
  | workerAssigned (workerId : String)
  | sourcePrepared (fileCount : UInt64) (totalBytes : UInt64)
  | sourceUploadStarted (totalBytes : UInt64)
  | sourceUploadProgress (uploadedBytes : UInt64) (totalBytes : UInt64)
  | sourceVerified (sha256 : String)
  | phaseStarted (message : Option String)
  | progress (message : String) (current : Option UInt64) (total : Option UInt64)
  | commandStarted (tool : String) (arguments : List String)
  | diagnostic (diagnostic : RemoteDiagnostic)
  | signingStarted (mode : SigningMode)
  | artifactCreated (artifactId : String) (artifactType : IosArtifactType)
  | artifactValidated (artifact : ArtifactManifest)
  | artifactUploadStarted (artifactId : String) (totalBytes : UInt64)
  | artifactDownloadStarted (artifactId : String) (totalBytes : UInt64)
  | artifactDownloadProgress (artifactId : String) (downloadedBytes : UInt64) (totalBytes : UInt64)
  | artifactDownloaded (artifact : ArtifactManifest) (localPath : ProtocolPath)
  | warning (code : String) (message : String) (help : Option String)
  | cleanupStarted
  | cleanupFinished (confirmation : CleanupConfirmation)
  | operationFinished (success : Bool) (durationMs : UInt64) (result : Option IosDeviceBuildResult)
      (error : Option RemoteErrorInfo)
  | operationCancelled (reason : String) (durationMs : UInt64)
  | unknown
  deriving DecidableEq

/-- Stable serialized event name. -/
def RemoteBuildEventKind.eventName : RemoteBuildEventKind → String
  | .operationStarted .. => "operation_started"
  | .jobCreated .. => "job_created"
  | .jobQueued .. => "job_queued"
  | .workerAssigned .. => "worker_assigned"
  | .sourcePrepared .. => "source_prepared"
  | .sourceUploadStarted .. => "source_upload_started"
  | .sourceUploadProgress .. => "source_upload_progress"
  | .sourceVerified .. => "source_verified"
  | .phaseStarted .. => "phase_started"
  | .progress .. => "progress"
  | .commandStarted .. => "command_started"
  | .diagnostic .. => "diagnostic"
  | .signingStarted .. => "signing_started"
  | .artifactCreated .. => "artifact_created"
  | .artifactValidated .. => "artifact_validated"
  | .artifactUploadStarted .. => "artifact_upload_started"
  | .artifactDownloadStarted .. => "artifact_download_started"
  | .artifactDownloadProgress .. => "artifact_download_progress"
  | .artifactDownloaded .. => "artifact_downloaded"
  | .warning .. => "warning"
  | .cleanupStarted => "cleanup_started"
  | .cleanupFinished .. => "cleanup_finished"
  | .operationFinished .. => "operation_finished"
  | .operationCancelled .. => "operation_cancelled"
  | .unknown => "unknown"

/-- Event names in the order of their variants. -/
def remoteBuildEventNames : List String :=
  ["operation_started", "job_created", "job_queued", "worker_assigned", "source_prepared",
    "source_upload_started", "source_upload_progress", "source_verified", "phase_started",
    "progress", "command_started", "diagnostic", "signing_started", "artifact_created",
    "artifact_validated", "artifact_upload_started", "artifact_download_started",
    "artifact_download_progress", "artifact_downloaded", "warning", "cleanup_started",
    "cleanup_finished", "operation_finished", "operation_cancelled", "unknown"]

/-- Members of an event after its tag. -/
def RemoteBuildEventKind.members : RemoteBuildEventKind → Members
  | .operationStarted command => serializeFields ["command"] [some (serialize command)]
  | .jobCreated state => serializeFields ["state"] [some (serialize state)]
  | .jobQueued position => serializeFields ["position"] [skipNone position]
  | .workerAssigned workerId => serializeFields ["worker_id"] [some (serialize workerId)]
  | .sourcePrepared fileCount totalBytes =>
    serializeFields ["file_count", "total_bytes"]
      [some (serialize fileCount), some (serialize totalBytes)]
  | .sourceUploadStarted totalBytes => serializeFields ["total_bytes"] [some (serialize totalBytes)]
  | .sourceUploadProgress uploadedBytes totalBytes =>
    serializeFields ["uploaded_bytes", "total_bytes"]
      [some (serialize uploadedBytes), some (serialize totalBytes)]
  | .sourceVerified sha256 => serializeFields ["sha256"] [some (serialize sha256)]
  | .phaseStarted message => serializeFields ["message"] [skipNone message]
  | .progress message current total =>
    serializeFields ["message", "current", "total"]
      [some (serialize message), skipNone current, skipNone total]
  | .commandStarted tool arguments =>
    serializeFields ["tool", "arguments"] [some (serialize tool), some (serialize arguments)]
  | .diagnostic payload => serializeFields ["diagnostic"] [some (serialize payload)]
  | .signingStarted mode => serializeFields ["mode"] [some (serialize mode)]
  | .artifactCreated artifactId artifactType =>
    serializeFields ["artifact_id", "artifact_type"]
      [some (serialize artifactId), some (serialize artifactType)]
  | .artifactValidated artifact => serializeFields ["artifact"] [some (serialize artifact)]
  | .artifactUploadStarted artifactId totalBytes =>
    serializeFields ["artifact_id", "total_bytes"]
      [some (serialize artifactId), some (serialize totalBytes)]
  | .artifactDownloadStarted artifactId totalBytes =>
    serializeFields ["artifact_id", "total_bytes"]
      [some (serialize artifactId), some (serialize totalBytes)]
  | .artifactDownloadProgress artifactId downloadedBytes totalBytes =>
    serializeFields ["artifact_id", "downloaded_bytes", "total_bytes"]
      [some (serialize artifactId), some (serialize downloadedBytes), some (serialize totalBytes)]
  | .artifactDownloaded artifact localPath =>
    serializeFields ["artifact", "local_path"]
      [some (serialize artifact), some (serialize localPath)]
  | .warning code message help =>
    serializeFields ["code", "message", "help"]
      [some (serialize code), some (serialize message), skipNone help]
  | .cleanupStarted => []
  | .cleanupFinished confirmation =>
    serializeFields ["confirmation"] [some (serialize confirmation)]
  | .operationFinished success durationMs result error =>
    serializeFields ["success", "duration_ms", "result", "error"]
      [some (serialize success), some (serialize durationMs), skipNone result, skipNone error]
  | .operationCancelled reason durationMs =>
    serializeFields ["reason", "duration_ms"] [some (serialize reason), some (serialize durationMs)]
  | .unknown => []

/-- The variant named by a tag: by name, or by its position among the variants. Every
    other name or position is the catch-all variant. -/
def eventVariant : Json → Option String
  | .string name => some name
  | .number (.unsigned n) => some (remoteBuildEventNames.getD n "unknown")
  | _ => none

def RemoteBuildEventKind.ofMembers (variant : String) (members : Members) :
    Option RemoteBuildEventKind :=
  match variant with
  | "operation_started" => do
    match ← deserializeFields ["command"] false members with
    | [command] => return .operationStarted (← requiredField command)
    | _ => none
  | "job_created" => do
    match ← deserializeFields ["state"] false members with
    | [state] => return .jobCreated (← requiredField state)
    | _ => none
  | "job_queued" => do
    match ← deserializeFields ["position"] false members with
    | [position] => return .jobQueued (← optionalField position)
    | _ => none
  | "worker_assigned" => do
    match ← deserializeFields ["worker_id"] false members with
    | [workerId] => return .workerAssigned (← requiredField workerId)
    | _ => none
  | "source_prepared" => do
    match ← deserializeFields ["file_count", "total_bytes"] false members with
    | [fileCount, totalBytes] =>
      return .sourcePrepared (← requiredField fileCount) (← requiredField totalBytes)
    | _ => none
  | "source_upload_started" => do
    match ← deserializeFields ["total_bytes"] false members with
    | [totalBytes] => return .sourceUploadStarted (← requiredField totalBytes)
    | _ => none
  | "source_upload_progress" => do
    match ← deserializeFields ["uploaded_bytes", "total_bytes"] false members with
    | [uploadedBytes, totalBytes] =>
      return .sourceUploadProgress (← requiredField uploadedBytes) (← requiredField totalBytes)
    | _ => none
  | "source_verified" => do
    match ← deserializeFields ["sha256"] false members with
    | [sha256] => return .sourceVerified (← requiredField sha256)
    | _ => none
  | "phase_started" => do
    match ← deserializeFields ["message"] false members with
    | [message] => return .phaseStarted (← optionalField message)
    | _ => none
  | "progress" => do
    match ← deserializeFields ["message", "current", "total"] false members with
    | [message, current, total] =>
      return .progress (← requiredField message) (← optionalField current) (← optionalField total)
    | _ => none
  | "command_started" => do
    match ← deserializeFields ["tool", "arguments"] false members with
    | [tool, arguments] => return .commandStarted (← requiredField tool) (← requiredField arguments)
    | _ => none
  | "diagnostic" => do
    match ← deserializeFields ["diagnostic"] false members with
    | [payload] => return .diagnostic (← requiredField payload)
    | _ => none
  | "signing_started" => do
    match ← deserializeFields ["mode"] false members with
    | [mode] => return .signingStarted (← requiredField mode)
    | _ => none
  | "artifact_created" => do
    match ← deserializeFields ["artifact_id", "artifact_type"] false members with
    | [artifactId, artifactType] =>
      return .artifactCreated (← requiredField artifactId) (← requiredField artifactType)
    | _ => none
  | "artifact_validated" => do
    match ← deserializeFields ["artifact"] false members with
    | [artifact] => return .artifactValidated (← requiredField artifact)
    | _ => none
  | "artifact_upload_started" => do
    match ← deserializeFields ["artifact_id", "total_bytes"] false members with
    | [artifactId, totalBytes] =>
      return .artifactUploadStarted (← requiredField artifactId) (← requiredField totalBytes)
    | _ => none
  | "artifact_download_started" => do
    match ← deserializeFields ["artifact_id", "total_bytes"] false members with
    | [artifactId, totalBytes] =>
      return .artifactDownloadStarted (← requiredField artifactId) (← requiredField totalBytes)
    | _ => none
  | "artifact_download_progress" => do
    match ← deserializeFields ["artifact_id", "downloaded_bytes", "total_bytes"] false members with
    | [artifactId, downloadedBytes, totalBytes] =>
      return .artifactDownloadProgress
        (← requiredField artifactId) (← requiredField downloadedBytes) (← requiredField totalBytes)
    | _ => none
  | "artifact_downloaded" => do
    match ← deserializeFields ["artifact", "local_path"] false members with
    | [artifact, localPath] =>
      return .artifactDownloaded (← requiredField artifact) (← requiredField localPath)
    | _ => none
  | "warning" => do
    match ← deserializeFields ["code", "message", "help"] false members with
    | [code, message, help] =>
      return .warning (← requiredField code) (← requiredField message) (← optionalField help)
    | _ => none
  | "cleanup_started" => some .cleanupStarted
  | "cleanup_finished" => do
    match ← deserializeFields ["confirmation"] false members with
    | [confirmation] => return .cleanupFinished (← requiredField confirmation)
    | _ => none
  | "operation_finished" => do
    match ← deserializeFields ["success", "duration_ms", "result", "error"] false members with
    | [success, durationMs, result, error] =>
      return .operationFinished
        (← requiredField success) (← requiredField durationMs) (← optionalField result)
        (← optionalField error)
    | _ => none
  | "operation_cancelled" => do
    match ← deserializeFields ["reason", "duration_ms"] false members with
    | [reason, durationMs] =>
      return .operationCancelled (← requiredField reason) (← requiredField durationMs)
    | _ => none
  | _ => some .unknown

/-- One self-contained NDJSON event envelope. -/
structure RemoteBuildEvent where
  protocolVersion : ProtocolVersion
  operationId : String
  jobId : String
  timestampMs : UInt64
  provider : String
  phase : String
  sequence : UInt64
  kind : RemoteBuildEventKind
  deriving DecidableEq

/-- The fields of the envelope itself; the event's members are flattened into it. -/
def RemoteBuildEvent.fieldNames : List String :=
  ["protocol_version", "operation_id", "job_id", "timestamp_ms", "provider", "phase", "sequence"]

def RemoteBuildEvent.fields (e : RemoteBuildEvent) : List (Option Json) :=
  [some (serialize e.protocolVersion), some (serialize e.operationId), some (serialize e.jobId),
    some (serialize e.timestampMs), some (serialize e.provider), some (serialize e.phase),
    some (serialize e.sequence)]

instance : Serialize RemoteBuildEvent :=
  ⟨fun e => .object (serializeFields RemoteBuildEvent.fieldNames e.fields ++
    ("event", .string e.kind.eventName) :: e.kind.members)⟩

def RemoteBuildEvent.ofFields (kind : RemoteBuildEventKind) :
    List (Option Json) → Option RemoteBuildEvent
  | [protocolVersion, operationId, jobId, timestampMs, provider, phase, sequence] => do
    return {
      protocolVersion := ← requiredField protocolVersion
      operationId := ← requiredField operationId, jobId := ← requiredField jobId
      timestampMs := ← requiredField timestampMs, provider := ← requiredField provider
      phase := ← requiredField phase, sequence := ← requiredField sequence, kind }
  | _ => none

instance : Deserialize RemoteBuildEvent where
  deserialize
    | .object members => do
      let values ← deserializeFields RemoteBuildEvent.fieldNames false members
      let (tag, rest) ← takeTag "event" (flattened RemoteBuildEvent.fieldNames members)
      let kind ← RemoteBuildEventKind.ofMembers (← eventVariant tag) rest
      RemoteBuildEvent.ofFields kind values
    | _ => none

/-! ## Validation -/

mutual

/-- No string of the value holds an escape character. -/
def validateNoTerminalEscape : Json → RemoteBuildResult Unit
  | .string text =>
    if text.toList.contains (Char.ofNat 0x1b) then .error (.unsafeEventText "event") else .ok ()
  | .array items => validateNoTerminalEscapeItems items
  | .object members => validateNoTerminalEscapeMembers members
  | _ => .ok ()

def validateNoTerminalEscapeItems : List Json → RemoteBuildResult Unit
  | [] => .ok ()
  | v :: rest => do
    validateNoTerminalEscape v
    validateNoTerminalEscapeItems rest

def validateNoTerminalEscapeMembers : Members → RemoteBuildResult Unit
  | [] => .ok ()
  | (_, v) :: rest => do
    validateNoTerminalEscape v
    validateNoTerminalEscapeMembers rest

end

/-- Payload invariants of one event. -/
def RemoteBuildEventKind.validate (parseUrl : ParseUrl) : RemoteBuildEventKind →
    RemoteBuildResult Unit
  | .jobCreated state =>
    if state ≠ .created then
      .error (.invalidEventPayload "job_created" "initial state must be created")
    else .ok ()
  | .sourceUploadProgress uploadedBytes totalBytes =>
    if uploadedBytes > totalBytes then
      .error (.invalidEventPayload "source_upload_progress" "uploaded bytes exceed total bytes")
    else .ok ()
  | .progress _ (some current) (some total) =>
    if current > total then
      .error (.invalidEventPayload "progress" "completed units exceed total units")
    else .ok ()
  | .artifactDownloadProgress _ downloadedBytes totalBytes =>
    if downloadedBytes > totalBytes then
      .error (.invalidEventPayload "artifact_download_progress"
        "downloaded bytes exceed total bytes")
    else .ok ()
  | .artifactDownloaded _ localPath => do
    localPath.validate parseUrl
    if localPath.semantics ≠ .clientAbsolute then
      throw (.invalidEventPayload "artifact_downloaded"
        "download destination must be client_absolute")
  | .diagnostic payload =>
    match payload.path with
    | some path => path.validate parseUrl
    | none => .ok ()
  | .operationFinished true _ _ (some _) =>
    .error (.invalidEventPayload "operation_finished"
      "successful operation must not contain an error")
  | .operationFinished false _ _ none =>
    .error (.invalidEventPayload "operation_finished" "failed operation requires a typed error")
  | _ => .ok ()

namespace RemoteBuildEvent

/-- Envelope, progress, path, and terminal-event invariants. -/
def validate (parseUrl : ParseUrl) (self : RemoteBuildEvent) : RemoteBuildResult Unit := do
  let _ ← currentProtocolVersion.negotiate self.protocolVersion
  validateIdentifier "operation_id" self.operationId
  validateIdentifier "job_id" self.jobId
  validateIdentifier "provider" self.provider
  validateIdentifier "phase" self.phase
  self.kind.validate parseUrl
  validateNoTerminalEscape (serialize self)

/-! ## Lines -/

/-- Encode one compact JSON object followed by a newline. -/
def encodeLine (parseUrl : ParseUrl) (self : RemoteBuildEvent) : RemoteBuildResult String := do
  self.validate parseUrl
  return String.ofList ((serialize self).print ++ ['\n'])

/-- Decode exactly one UTF-8 JSON object, tolerating trailing whitespace. -/
def decodeLine (parseUrl : ParseUrl) (encoded : String) : RemoteBuildResult RemoteBuildEvent := do
  if encoded.utf8ByteSize > DataPlane.maxEventLineBytes then
    throw (.eventTooLarge encoded.utf8ByteSize DataPlane.maxEventLineBytes)
  match (Json.parse encoded.toList).bind deserialize with
  | none => throw .malformedEvent
  | some event => do
    RemoteBuildEvent.validate parseUrl event
    return event

end RemoteBuildEvent

end RustFerry.Remote
