import RustFerry.Native.StoredJob

/-!
# The revision files of a job

`cargo-ferry/src/job_store.rs`: the two encodings of a revision, the names of revision
files, the scan of a revisions directory and the operations that publish the next
revision: create, append, update, checkpoint and migrate. A directory is what the scan
sees of it, a list of named files in the order of `read_dir`; locks, file modes and
failing system calls are left out here.
-/

namespace RustFerry.JobStore

open Remote Github Except Serde

/-! ## Limits -/

/-- Current schema of the envelope of a revision. -/
def jobRevisionSchemaVersion : UInt32 := 2
def legacyJobRevisionSchemaVersion : UInt32 := 1

def maxLegacyJobRevisionBytes : Nat := 2 * githubJobResumeMaxBytes + 1024 * 1024
def maxJobRevisionBytes : Nat := maxLegacyJobRevisionBytes + 512

def revisionDigits : Nat := 20

/-! ## JSON of a record -/

def StoredJobState.name : StoredJobState → String
  | .created => "created"
  | .sourcePreparing => "source_preparing"
  | .sourceReady => "source_ready"
  | .submitting => "submitting"
  | .queued => "queued"
  | .running => "running"
  | .compileRunning => "compile_running"
  | .signingWaiting => "signing_waiting"
  | .signingRunning => "signing_running"
  | .artifactUploading => "artifact_uploading"
  | .artifactReady => "artifact_ready"
  | .downloading => "downloading"
  | .downloaded => "downloaded"
  | .validating => "validating"
  | .succeeded => "succeeded"
  | .failed => "failed"
  | .cancellationRequested => "cancellation_requested"
  | .cancelled => "cancelled"
  | .cleanupPending => "cleanup_pending"
  | .cleanupFailed => "cleanup_failed"
  | .expired => "expired"
  | .unknown => "unknown"

def StoredBuildOutcome.name : StoredBuildOutcome → String
  | .succeeded => "succeeded"
  | .failed => "failed"
  | .cancelled => "cancelled"
  | .expired => "expired"

def StoredCleanupStatus.name : StoredCleanupStatus → String
  | .notStarted => "not_started"
  | .pending => "pending"
  | .confirmed => "confirmed"
  | .failed => "failed"
  | .uncertain => "uncertain"

def StoredCancellationStatus.name : StoredCancellationStatus → String
  | .notRequested => "not_requested"
  | .requested => "requested"
  | .dispatched => "dispatched"
  | .confirmed => "confirmed"
  | .failed => "failed"
  | .uncertain => "uncertain"

instance : Serialize StoredJobState := ⟨fun state => .string state.name⟩
instance : Serialize StoredBuildOutcome := ⟨fun outcome => .string outcome.name⟩
instance : Serialize StoredCleanupStatus := ⟨fun status => .string status.name⟩
instance : Serialize StoredCancellationStatus := ⟨fun status => .string status.name⟩
instance : Serialize LocalJobId := ⟨fun id => .string id.value⟩

instance : Serialize StoredProjectIdentityV1 := ⟨fun project => .object
  [("canonical_root", serialize project.canonicalRoot),
    ("filesystem_identity", serialize project.filesystemIdentity),
    ("application_identifier", serialize project.applicationIdentifier)]⟩

instance : Serialize GithubPrincipalIdentityV1 where
  serialize
    | .user id login =>
      .object [("kind", .string "user"), ("id", serialize id), ("login", serialize login)]
    | .repositoryCredential => .object [("kind", .string "repository_credential")]

instance : Serialize StoredProviderIdentityV1 := ⟨fun provider => .object
  [("provider", serialize provider.provider),
    ("provider_config_sha256", serialize provider.providerConfigSha256),
    ("principal", serialize provider.principal),
    ("execution_repository", serialize provider.executionRepository),
    ("execution_repository_id", serialize provider.executionRepositoryId)]⟩

instance : Serialize StoredSourceIdentityV1 := ⟨fun source => .object
  [("revision", nullable source.revision),
    ("manifest_sha256", serialize source.manifestSha256)]⟩

instance : Serialize StoredArtifactV1 := ⟨fun artifact => .object
  [("record", serialize artifact.record),
    ("download_destination", nullable artifact.downloadDestination),
    ("download_parent_identity", nullable artifact.downloadParentIdentity),
    ("local_path", nullable artifact.localPath),
    ("local_file_identity", nullable artifact.localFileIdentity),
    ("locally_validated", serialize artifact.locallyValidated)]⟩

instance : Serialize StoredFailureV1 := ⟨fun failure => .object
  [("code", serialize failure.code), ("retryable", serialize failure.retryable)]⟩

instance : Serialize StoredRetryLineageV1 := ⟨fun lineage => .object
  [("attempt", serialize lineage.attempt), ("parent_job_id", nullable lineage.parentJobId),
    ("child_job_ids", serialize lineage.childJobIds)]⟩

/-- What the codec of a record takes from the crates of its parts: the JSON of the evidence and
    of the checkpoint, and the decoding of a whole record. -/
structure RecordCodec where
  compileEvidence : CompilePhaseEvidence → Json
  signedCleanupEvidence : GithubSignedCleanupEvidenceV1 → Json
  providerResume : GithubJobResumeV1 → Json
  /-- `Deserialize` of `StoredJobV1`. -/
  decode : Json → Option StoredJobV1

/-- `Serialize` of `StoredJobV1`. -/
def RecordCodec.recordJson (codec : RecordCodec) (record : StoredJobV1) : Json := .object
  [("schema_version", serialize record.schemaVersion),
    ("local_job_id", serialize record.localJobId),
    ("revision", .number (.unsigned record.revision)),
    ("project", serialize record.project),
    ("provider", serialize record.provider),
    ("provider_job_id", nullable record.providerJobId),
    ("provider_run_id", nullable record.providerRunId),
    ("operation_id", serialize record.operationId),
    ("request", serialize record.request),
    ("request_sha256", serialize record.requestSha256),
    ("semantic_retry_sha256", serialize record.semanticRetrySha256),
    ("source", serialize record.source),
    ("target", serialize record.target),
    ("profile", serialize record.profile),
    ("signing_mode", serialize record.signingMode),
    ("created_at_ms", serialize record.createdAtMs),
    ("submitted_at_ms", nullable record.submittedAtMs),
    ("updated_at_ms", serialize record.updatedAtMs),
    ("state", serialize record.state),
    ("last_confirmed_state", nullable record.lastConfirmedState),
    ("terminal_outcome", nullable record.terminalOutcome),
    ("compile_evidence", (record.compileEvidence.map codec.compileEvidence).getD .null),
    ("signed_cleanup_evidence",
      (record.signedCleanupEvidence.map codec.signedCleanupEvidence).getD .null),
    ("artifacts", serialize record.artifacts),
    ("log_location", nullable record.logLocation),
    ("cleanup_status", serialize record.cleanupStatus),
    ("retry_lineage", serialize record.retryLineage),
    ("cancellation_status", serialize record.cancellationStatus),
    ("failure", nullable record.failure),
    ("provider_resume", (record.providerResume.map codec.providerResume).getD .null)]

/-- Current disk envelope around the stable public logical job payload. -/
structure StoredJobRevisionV2 where
  schemaVersion : UInt32
  previousRevisionSha256 : Option String
  job : StoredJobV1

def RecordCodec.envelopeJson (codec : RecordCodec) (envelope : StoredJobRevisionV2) : Json :=
  .object
    [("schema_version", serialize envelope.schemaVersion),
      ("previous_revision_sha256", nullable envelope.previousRevisionSha256),
      ("job", codec.recordJson envelope.job)]

/-- `Deserialize` of the envelope, which has no other fields. -/
def RecordCodec.decodeEnvelope (codec : RecordCodec) (json : Json) :
    Option StoredJobRevisionV2 := do
  match ← deserializeStruct ["schema_version", "previous_revision_sha256", "job"] true json with
  | [schemaVersion, previous, some job] =>
    some ⟨← requiredField schemaVersion, ← optionalField previous, ← codec.decode job⟩
  | _ => none

/-- `serde_json::to_vec` and the final newline. -/
def jsonLine (json : Json) : List UInt8 := Text.utf8 (String.ofList (json.print ++ ['\n']))

/-- `serde_json::from_slice` of a JSON text. -/
def jsonOfBytes (bytes : List UInt8) : Option Json :=
  (Text.fromUtf8 bytes).bind fun text => Json.parse text.toList

/-- What the store takes from other crates. -/
structure StoreTools where
  resume : ResumeTools
  codec : RecordCodec

/-- `sha256_hex`. -/
def StoreTools.sha256 (tools : StoreTools) : List UInt8 → String :=
  tools.resume.request.inspection.sha256

/-! ## Encodings of a revision -/

def encodeLegacyRevision (tools : StoreTools) (record : StoredJobV1) :
    StoreResult (List UInt8) := do
  let bytes := jsonLine (tools.codec.recordJson record)
  rejectIf (bytes.length > maxLegacyJobRevisionBytes)
    (.boundExceeded "legacy job revision bytes" maxLegacyJobRevisionBytes)
  return bytes

/-- The predecessor that an envelope names fits its revision. -/
def validatePredecessor (revision : Nat) (previousRevisionSha256 : Option String) :
    StoreResult Unit :=
  match previousRevisionSha256 with
  | none => rejectIf (revision != 1)
      (invalidRecord "a later v2 revision requires the exact predecessor SHA-256")
  | some sha256 => do
    rejectIf (revision == 1) (invalidRecord "the first v2 revision cannot name a predecessor")
    rejectIf (!isLowerSha256 sha256)
      (invalidRecord "a later v2 revision requires the exact predecessor SHA-256")

def encodeRevisionV2 (tools : StoreTools) (record : StoredJobV1)
    (previousRevisionSha256 : Option String) : StoreResult (List UInt8) := do
  validatePredecessor record.revision previousRevisionSha256
  let bytes := jsonLine (tools.codec.envelopeJson
    ⟨jobRevisionSchemaVersion, previousRevisionSha256, record⟩)
  rejectIf (bytes.length > maxJobRevisionBytes)
    (.boundExceeded "job revision bytes" maxJobRevisionBytes)
  return bytes

/-! ## Names of revision files -/

/-- A number with leading zeros. -/
def zeroPadded (width n : Nat) : List Char :=
  List.replicate (width - (Json.decimal n).length) '0' ++ Json.decimal n

def revisionFilename (revision : Nat) (sha256 : String) : String :=
  String.ofList (zeroPadded revisionDigits revision ++ '-' :: sha256.toList ++ ".json".toList)

/-- `str::strip_suffix`. -/
def stripBack (back text : List Char) : Option (List Char) :=
  if back <:+ text then some (text.take (text.length - back.length)) else none

def splitOnce (separator : Char) (text : List Char) : Option (List Char × List Char) :=
  match text.span (· != separator) with
  | (front, _ :: back) => some (front, back)
  | (_, []) => none

def parseRevisionFilename (name : String) : StoreResult (Nat × String) :=
  match stripBack ".json".toList name.toList with
  | none => .error (.malformedLayout "revision filename has an unsupported suffix")
  | some stem =>
    match splitOnce '-' stem with
    | none => .error (.malformedLayout "revision filename is missing its digest")
    | some (digits, sha256) => do
      rejectIf (digits.length != revisionDigits || !digits.all Char.isDigit ||
          !isLowerSha256 (String.ofList sha256))
        (.malformedLayout "revision filename is not canonical")
      match Text.parseDigits (2 ^ 64) digits with
      | none => .error (.malformedLayout "revision number is invalid")
      | some revision => do
        rejectIf (!revisionIsSupported revision)
          (.malformedLayout "revision number is outside the supported range")
        return (revision, String.ofList sha256)

def isRevisionStagingName (name : String) : Bool :=
  match (Text.stripFront ".revision-".toList name.toList).bind (stripBack ".tmp".toList) with
  | none => false
  | some identifier => identifier.length == 32 && isLowerHex identifier

/-! ## Directories -/

/-- One file of a revisions directory. -/
structure RevisionFile where
  name : String
  bytes : List UInt8

/-- The revisions directory of a job; no two files have one name. -/
structure RevisionDirectory where
  owner : LocalJobId
  files : List RevisionFile
  distinct : (files.map (·.name)).Nodup

structure RevisionEntry where
  revision : Nat
  sha256 : String
  name : String
  deriving DecidableEq

structure DecodedRevision where
  record : StoredJobV1
  schemaVersion : UInt32
  bytes : List UInt8

/-- The schema that a revision names, as `RevisionSchemaProbe` reads it. -/
def probeSchemaVersion (json : Json) : Option UInt32 := do
  match ← deserializeStruct ["schema_version"] false json with
  | [schemaVersion] => requiredField schemaVersion
  | _ => none

def decodeLegacyRevision (tools : StoreTools) (bytes : List UInt8) (json : Json) :
    StoreResult StoredJobV1 := do
  rejectIf (bytes.length > maxLegacyJobRevisionBytes)
    (.boundExceeded "legacy job revision bytes" maxLegacyJobRevisionBytes)
  match tools.codec.decode json with
  | none => .error (.malformedRevision "revision fields do not match the formal v1 schema")
  | some record => do
    let encoded ← encodeLegacyRevision tools record
    rejectIf (encoded != bytes)
      (.malformedRevision "revision bytes are not the canonical secret-free v1 encoding")
    return record

/-- The predecessor that the envelope of a revision has to name. -/
def expectedPrevious (revision : Nat) (previousRevisionSha256 : Option String) :
    StoreResult (Option String) :=
  if revision = 1 then .ok none
  else match previousRevisionSha256 with
    | none => .error (.malformedLayout "a v2 revision is missing its predecessor file")
    | some sha256 => .ok (some sha256)

def decodeRevisionV2 (tools : StoreTools) (bytes : List UInt8) (json : Json) (revision : Nat)
    (previousRevisionSha256 : Option String) : StoreResult StoredJobV1 :=
  match tools.codec.decodeEnvelope json with
  | none => .error (.malformedRevision "revision fields do not match the v2 envelope schema")
  | some envelope => do
    let expected ← expectedPrevious revision previousRevisionSha256
    rejectIf (envelope.schemaVersion != jobRevisionSchemaVersion ||
        envelope.previousRevisionSha256 != expected)
      (.malformedRevision
        "v2 predecessor binding differs from the immutable revision chain")
    let encoded ← encodeRevisionV2 tools envelope.job expected
    rejectIf (encoded != bytes)
      (.malformedRevision "revision bytes are not the canonical secret-free v2 encoding")
    return envelope.job

/-- The record of a revision by the schema that it names. -/
def decodeBySchema (tools : StoreTools) (bytes : List UInt8) (json : Json) (schema : UInt32)
    (revision : Nat) (previousRevisionSha256 : Option String) : StoreResult StoredJobV1 :=
  if schema = legacyJobRevisionSchemaVersion then decodeLegacyRevision tools bytes json
  else if schema = jobRevisionSchemaVersion then
    decodeRevisionV2 tools bytes json revision previousRevisionSha256
  else .error (.unsupportedSchema schema jobRevisionSchemaVersion)

/-- The first revision of a job holds only its initial intent. -/
def validateIfInitial (record : StoredJobV1) : StoreResult Unit :=
  if record.revision = 1 then validateInitialJobRevision record else .ok ()

def decodeRevisionBytes (tools : StoreTools) (bytes : List UInt8) (revision : Nat)
    (previousRevisionSha256 : Option String) : StoreResult DecodedRevision :=
  match jsonOfBytes bytes with
  | none => .error (.malformedRevision "revision is not valid JSON")
  | some json =>
    match probeSchemaVersion json with
    | none => .error (.malformedRevision "revision has no unique numeric schema version")
    | some schema => do
      let record ← decodeBySchema tools bytes json schema revision previousRevisionSha256
      rejectIf (record.revision != revision)
        (.malformedRevision "payload revision differs from its filename")
      record.validate tools.resume
      validateIfInitial record
      return ⟨record, schema, bytes⟩

/-- The file of that name. -/
def RevisionDirectory.find (directory : RevisionDirectory) (name : String) :
    Option RevisionFile :=
  directory.files.find? fun file => file.name == name

def readDecodedRevisionWithPrevious (tools : StoreTools) (directory : RevisionDirectory)
    (entry : RevisionEntry) (previousRevisionSha256 : Option String) :
    StoreResult DecodedRevision :=
  match directory.find entry.name with
  | none => .error (.io "open private job revision")
  | some file => do
    rejectIf (file.bytes.length > maxJobRevisionBytes)
      (.boundExceeded "job revision bytes" maxJobRevisionBytes)
    rejectIf (tools.sha256 file.bytes != entry.sha256)
      (.malformedRevision "revision bytes do not match the filename digest")
    decodeRevisionBytes tools file.bytes entry.revision previousRevisionSha256

/-- One file of the directory in the loop of `previous_revision_sha256`. -/
def findPredecessor (expected : Nat) (found : Option String) (file : RevisionFile) :
    StoreResult (Option String) :=
  if isRevisionStagingName file.name then .ok found
  else do
    let (revision, sha256) ← parseRevisionFilename file.name
    rejectIf (revision == expected && found.isSome)
      (.malformedLayout "revision predecessor is duplicated")
    return if revision = expected then some sha256 else found

def previousRevisionSha256 (directory : RevisionDirectory) (revision : Nat) :
    StoreResult (Option String) :=
  if revision = 1 then .ok none
  else do
    let found ← directory.files.foldlM (findPredecessor (revision - 1)) none
    rejectIf found.isNone (.malformedLayout "revision predecessor is missing")
    return found

def readDecodedRevision (tools : StoreTools) (directory : RevisionDirectory)
    (entry : RevisionEntry) : StoreResult DecodedRevision := do
  let previous ← previousRevisionSha256 directory entry.revision
  readDecodedRevisionWithPrevious tools directory entry previous

/-! ## The scan -/

/-- One file in the loop of `scan_revision_files`. -/
def scanEntry (file : RevisionFile) (index : Nat) : StoreResult RevisionEntry := do
  rejectIf (index + 1 > maxRevisionsPerJob * 2)
    (.boundExceeded "revision directory entries" (maxRevisionsPerJob * 2))
  rejectIf (isRevisionStagingName file.name)
    (.recoveryRequired "a staging entry remains after exclusive recovery")
  let (revision, sha256) ← parseRevisionFilename file.name
  rejectIf (file.bytes.length > maxJobRevisionBytes)
    (.boundExceeded "job revision bytes" maxJobRevisionBytes)
  return ⟨revision, sha256, file.name⟩

/-- What the loop over the sorted revisions has seen. -/
structure ScanState where
  sawV2 : Bool
  previous : Option (String × StoredJobV1)

def scanRevision (tools : StoreTools) (directory : RevisionDirectory) (state : ScanState)
    (entry : RevisionEntry) : StoreResult ScanState := do
  let decoded ← readDecodedRevisionWithPrevious tools directory entry
    (state.previous.map (·.1))
  rejectIf (decoded.schemaVersion = legacyJobRevisionSchemaVersion && state.sawV2)
    (.malformedRevision "a legacy v1 revision appears after the v2 chain began")
  rejectIf (decoded.record.localJobId ≠ directory.owner)
    (.malformedRevision "revision local job ID differs from its job directory")
  forSome state.previous fun previous => validateSuccessor tools.resume previous.2 decoded.record
  return ⟨state.sawV2 || decoded.schemaVersion = jobRevisionSchemaVersion,
    some (entry.sha256, decoded.record)⟩

def validateScannedRevisionChain (tools : StoreTools) (directory : RevisionDirectory)
    (revisions : List RevisionEntry) : StoreResult (List RevisionEntry) := do
  rejectIf (revisions.length > maxRevisionsPerJob) (.boundExceeded "job revisions" maxRevisionsPerJob)
  let sorted := revisions.mergeSort fun a b => a.revision ≤ b.revision
  rejectIf (sorted.zipIdx.any fun (entry, index) => entry.revision != index + 1)
    (.malformedLayout "job revisions are duplicated or non-contiguous")
  let _ ← sorted.foldlM (scanRevision tools directory) ⟨false, none⟩
  return sorted

def scanRevisionFiles (tools : StoreTools) (directory : RevisionDirectory) :
    StoreResult (List RevisionEntry) := do
  let revisions ← directory.files.zipIdx.mapM fun (file, index) => scanEntry file index
  validateScannedRevisionChain tools directory revisions

/-! ## Operations -/

structure RevisionReceipt where
  localJobId : LocalJobId
  revision : Nat
  sha256 : String
  alreadyPresent : Bool

/-- What an operation leaves: the directory, its receipt, and the record that it published. -/
structure OperationResult where
  directory : RevisionDirectory
  receipt : Option RevisionReceipt
  published : Option StoredJobV1

/-- The link of a complete file to a name that is free. -/
def publishCreateOnly (directory : RevisionDirectory) (file : RevisionFile) :
    StoreResult RevisionDirectory :=
  if h : file.name ∈ directory.files.map (·.name) then
    .error (.io "publish immutable revision without overwrite")
  else .ok {
    directory with
    files := directory.files ++ [file]
    distinct := by
      rw [List.map_append]
      apply List.nodup_append.mpr
      refine ⟨directory.distinct, List.nodup_singleton _, ?_⟩
      intro a ha b hb heq
      rw [List.map_singleton, List.mem_singleton] at hb
      exact h (hb ▸ heq ▸ ha) }

/-- Encode a revision and publish it under its name. -/
def publishRevision (tools : StoreTools) (directory : RevisionDirectory) (record : StoredJobV1)
    (previousRevisionSha256 : Option String) : StoreResult OperationResult := do
  let bytes ← encodeRevisionV2 tools record previousRevisionSha256
  let sha256 := tools.sha256 bytes
  let directory ← publishCreateOnly directory ⟨revisionFilename record.revision sha256, bytes⟩
  return ⟨directory, some ⟨record.localJobId, record.revision, sha256, false⟩, some record⟩

/-- An existing revision is read once more and found to be the record. -/
def ensureRevisionDurable (tools : StoreTools) (directory : RevisionDirectory)
    (entry : RevisionEntry) (record : StoredJobV1) : StoreResult Unit := do
  let decoded ← readDecodedRevision tools directory entry
  rejectIf (entry.revision != record.revision || decoded.record ≠ record ||
      entry.sha256 != tools.sha256 decoded.bytes)
    (.malformedRevision "existing revision identity differs from the idempotent record")

def readJobRevision (tools : StoreTools) (directory : RevisionDirectory)
    (entry : RevisionEntry) : StoreResult StoredJobV1 := do
  let decoded ← readDecodedRevision tools directory entry
  rejectIf (decoded.record.localJobId ≠ directory.owner)
    (.malformedRevision "revision local job ID differs from its job directory")
  return decoded.record

/-- `append_inner` on the revision that the chain already ends with. -/
def appendExisting (tools : StoreTools) (directory : RevisionDirectory) (latest : RevisionEntry)
    (record : StoredJobV1) : StoreResult OperationResult := do
  let existing ← readJobRevision tools directory latest
  rejectIf (existing ≠ record) (.revisionConflict (latest.revision + 1) record.revision)
  ensureRevisionDurable tools directory latest existing
  return ⟨directory, some ⟨record.localJobId, record.revision, latest.sha256, true⟩, none⟩

/-- `append_inner` after the last revision of a chain. -/
def appendAfter (tools : StoreTools) (directory : RevisionDirectory) (latest : RevisionEntry)
    (record : StoredJobV1) (creating : Bool) : StoreResult OperationResult := do
  rejectIf (record.revision != latest.revision + 1 || creating)
    (.revisionConflict (latest.revision + 1) record.revision)
  let previous ← readJobRevision tools directory latest
  validateRegularSuccessor tools.resume previous record
  publishRevision tools directory record (some latest.sha256)

/-- `append_inner` on an empty chain. -/
def appendFirst (tools : StoreTools) (directory : RevisionDirectory) (record : StoredJobV1)
    (creating : Bool) : StoreResult OperationResult := do
  rejectIf (!creating)
    (invalidRecord "append cannot publish the first revision of an empty job chain")
  rejectIf (record.revision != 1) (.revisionConflict 1 record.revision)
  publishRevision tools directory record none

/-- The directory is the one of the record's job. -/
def appendInner (tools : StoreTools) (directory : RevisionDirectory) (record : StoredJobV1)
    (creating : Bool) : StoreResult OperationResult := do
  record.validate tools.resume
  validateIfInitial record
  let revisions ← scanRevisionFiles tools directory
  match revisions.getLast? with
  | some latest =>
    if record.revision = latest.revision then appendExisting tools directory latest record
    else appendAfter tools directory latest record creating
  | none => appendFirst tools directory record creating

/-- `publish_admin_job_revision` for a first revision. -/
def publishInitialRevision (tools : StoreTools) (directory : RevisionDirectory)
    (record : StoredJobV1) : StoreResult OperationResult := do
  record.validate tools.resume
  validateInitialJobRevision record
  publishRevision tools directory record none

/-- `create`; `owned` says that a durable job already owns the operation of the record. -/
def createRevision (tools : StoreTools) (directory : RevisionDirectory) (record : StoredJobV1)
    (owned : Bool) : StoreResult OperationResult := do
  rejectIf (record.revision != 1) (.revisionConflict 1 record.revision)
  rejectIf record.providerResume.isSome
    (invalidRecord "the initial job revision cannot contain a provider checkpoint")
  if owned then appendInner tools directory record false
  else do
    let revisions ← scanRevisionFiles tools directory
    rejectIf (revisions != [])
      (invalidRecord "initial job target gained a revision without owning its operation")
    publishInitialRevision tools directory record

/-- The last revision of a scanned chain. -/
def latestRevision (directory : RevisionDirectory) (revisions : List RevisionEntry) :
    StoreResult RevisionEntry :=
  match revisions.getLast? with
  | none => .error (.jobNotFound directory.owner)
  | some latest => .ok latest

/-- The update of a chain whose last record is known. -/
def publishUpdate (tools : StoreTools) (directory : RevisionDirectory) (latest : RevisionEntry)
    (previous : StoredJobV1) : Option StoredJobV1 → StoreResult OperationResult
  | none => do
    ensureRevisionDurable tools directory latest previous
    return ⟨directory, none, none⟩
  | some next => do
    next.validate tools.resume
    rejectIf (next.localJobId ≠ directory.owner || next.revision != previous.revision + 1)
      (.revisionConflict (previous.revision + 1) next.revision)
    validateRegularSuccessor tools.resume previous next
    publishRevision tools directory next (some latest.sha256)

def updateOptional (tools : StoreTools) (directory : RevisionDirectory)
    (update : StoredJobV1 → StoreResult (Option StoredJobV1)) : StoreResult OperationResult := do
  let revisions ← scanRevisionFiles tools directory
  let latest ← latestRevision directory revisions
  let previous ← readJobRevision tools directory latest
  let next ← update previous
  publishUpdate tools directory latest previous next

/-- The callback of `checkpoint_github_resume`. -/
def checkpointUpdate (tools : ResumeTools) (resume : GithubJobResumeV1) (previous : StoredJobV1) :
    StoreResult (Option StoredJobV1) := do
  validateGithubResumeProjectionIdentity tools previous resume
  if previous.providerResume = some resume then .ok none
  else (projectGithubResume previous resume).map some

def checkpointGithubResume (tools : StoreTools) (directory : RevisionDirectory)
    (resume : GithubJobResumeV1) : StoreResult OperationResult := do
  (resume.encode tools.resume).mapError
    fun _ => invalidRecord "GitHub provider resume checkpoint is invalid"
  updateOptional tools directory (checkpointUpdate tools.resume resume)

/-- The logical no-op successor of a legacy revision. -/
def migrateLatest (tools : StoreTools) (directory : RevisionDirectory) (latest : RevisionEntry)
    (previous : StoredJobV1) : StoreResult OperationResult := do
  rejectIf (!revisionIsSupported (previous.revision + 1))
    (.boundExceeded "job revisions required for migration" maxRevisionsPerJob)
  let migrated := { previous with revision := previous.revision + 1 }
  migrated.validate tools.resume
  validateRegularSuccessor tools.resume previous migrated
  publishRevision tools directory migrated (some latest.sha256)

def migrateJob (tools : StoreTools) (directory : RevisionDirectory) :
    StoreResult OperationResult := do
  let revisions ← scanRevisionFiles tools directory
  let latest ← latestRevision directory revisions
  let decoded ← readDecodedRevision tools directory latest
  rejectIf (decoded.record.localJobId ≠ directory.owner)
    (.malformedRevision "revision local job ID differs from its job directory")
  if decoded.schemaVersion = jobRevisionSchemaVersion then do
    ensureRevisionDurable tools directory latest decoded.record
    return ⟨directory, some ⟨directory.owner, latest.revision, latest.sha256, true⟩, none⟩
  else migrateLatest tools directory latest decoded.record

/-- The operations that publish revisions of a job. A record selects the directory of its own
    job, so it belongs to the owner of the directory. -/
inductive StoreOperation (owner : LocalJobId) where
  | create (record : StoredJobV1) (ofJob : record.localJobId = owner) (owned : Bool)
  | append (record : StoredJobV1) (ofJob : record.localJobId = owner)
  | update (callback : StoredJobV1 → StoreResult (Option StoredJobV1))
  | checkpoint (resume : GithubJobResumeV1)
  | migrate

/-- An operation on the directory of its job. -/
def RevisionDirectory.run (tools : StoreTools) (directory : RevisionDirectory) :
    StoreOperation directory.owner → StoreResult OperationResult
  | .create record _ owned => createRevision tools directory record owned
  | .append record _ => appendInner tools directory record false
  | .update callback => updateOptional tools directory callback
  | .checkpoint resume => checkpointGithubResume tools directory resume
  | .migrate => migrateJob tools directory

end RustFerry.JobStore
