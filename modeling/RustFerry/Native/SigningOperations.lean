import RustFerry.ForStd.ProgGuard
import RustFerry.Native.Signing

/-!
# Operations of the protected signing phase

What `sign_protected_phase` and the keychain engine below it
(`crates/rustferry-worker-macos/src/{pipeline,keychain}.rs`) perform: calls of the file system,
commands of `openssl` and `security`, and the steps of the phase that other modules of the worker
implement. A command, and a step that runs tools, is answered with its result and with the
user's keychain search list after it.
-/

namespace RustFerry.Worker

open Remote ProgM

namespace Protected

/-! ## File system -/

/-- An absolute path, as its components below the file system's root. -/
abbrev Path := List String

/-- `std::io::ErrorKind`, as far as the code tells kinds apart. -/
inductive IoErrorKind where
  | notFound
  | alreadyExists
  | other
  deriving DecidableEq

abbrev IoResult := Except IoErrorKind

inductive FileType where
  | directory
  | file
  | symlink
  | other
  deriving DecidableEq

/-- Answer of `fs::symlink_metadata`; the identity is the device and the inode. -/
structure FileInfo where
  fileType : FileType
  links : Nat
  mode : Nat
  identity : Nat × Nat

def FileInfo.isDirectory (self : FileInfo) : Bool := self.fileType == .directory
def FileInfo.isRegular (self : FileInfo) : Bool := self.fileType == .file && self.links == 1

/-! ## Commands -/

/-- A fixed command with its arguments. -/
inductive Command where
  | decode (p12 pem : Path) (password : String)
  | checkValidity (pem : Path)
  | extractDer (pem : Path)
  | digestSha1 (der : List UInt8)
  | subject (pem : Path)
  | expiration (pem : Path)
  | random (bytes : Nat)
  | querySearchList
  | setSearchList (paths : List Path)
  | createKeychain (keychain : Path) (password : String)
  | settings (keychain : Path)
  | unlock (keychain : Path) (password : String)
  | importIdentity (pem keychain : Path)
  | keyAccess (keychain : Path) (password : String)
  | findIdentity (keychain : Path)
  | deleteKeychain (keychain : Path)

/-- The label of a command in its errors. -/
def Command.operation : Command → String
  | .decode .. => "PKCS#12 decode"
  | .checkValidity _ => "certificate validity check"
  | .extractDer _ => "certificate DER extraction"
  | .digestSha1 _ => "certificate SHA-1 derivation"
  | .subject _ => "certificate subject query"
  | .expiration _ => "certificate expiration query"
  | .random _ => "random secret generation"
  | .querySearchList => "keychain search-list query"
  | .setSearchList _ => "keychain search-list update"
  | .createKeychain .. => "ephemeral keychain creation"
  | .settings _ => "ephemeral keychain settings"
  | .unlock .. => "ephemeral keychain unlock"
  | .importIdentity .. => "signing identity import"
  | .keyAccess .. => "private-key access configuration"
  | .findIdentity _ => "keychain identity query"
  | .deleteKeychain _ => "ephemeral keychain deletion"

/-- How `run_command` fails. -/
inductive CommandFailure where
  | spawn (kind : IoErrorKind)
  | input (kind : IoErrorKind)
  | timedOut
  | outputTooLarge
  | failed (exitCode : Option Int)

/-- The result of what ran tools, and the search list that the user has after it. -/
structure ToolAnswer (α : Type) where
  result : α
  searchList : List Path

/-! ## Steps of the phase -/

/-- Stable, redacted phase failures. -/
inductive PipelineError where
  | invalidRequest
  | invalidPublicMetadata
  | invalidToolchainSelection
  | unsafePath
  | sourceVerificationFailed
  | sourceChangedDuringBuild
  | configRejected
  | toolchainDiscoveryFailed
  | buildPlanRejected
  | unsignedBuildFailed
  | buildEvidenceMismatch
  | archiveSealFailed
  | dsymGenerationFailed
  | compileEvidenceRejected
  | archiveUnsealFailed
  | archiveHandoffMismatch
  | signingPlanRejected
  | secretResolutionFailed
  | signingPasswordRejected
  | signingIdentityRejected
  | provisioningRejected
  | developmentExportFailed
  | artifactPathRejected
  | signedArtifactRejected
  | reportEncodingFailed
  | artifactPublicationFailed
  | cleanupIncomplete
  | clockInvalid
  | io (operation : String) (kind : IoErrorKind)
  deriving DecidableEq

/-- The public proof that every secret-bearing path was removed. -/
structure ProtectedCleanupEvidence where
  keychainSearchListRestored : Bool
  keychainRemoved : Bool
  keychainSigningFilesRemoved : Bool
  keychainJobDirectoryRemoved : Bool
  isolatedHomeRemoved : Bool
  exportOptionsRemoved : Bool
  validationWorkspaceRemoved : Bool
  privateWorkspaceRemoved : Bool

def ProtectedCleanupEvidence.isComplete (self : ProtectedCleanupEvidence) : Bool :=
  self.keychainSearchListRestored && self.keychainRemoved && self.keychainSigningFilesRemoved &&
    self.keychainJobDirectoryRemoved && self.isolatedHomeRemoved && self.exportOptionsRemoved &&
    self.validationWorkspaceRemoved && self.privateWorkspaceRemoved

/-- What unsealing found, to be compared with the compile evidence. -/
structure UnsealedArchive where
  inspection : Json
  descriptor : Json

/-- Evidence of the exporter: where the IPA is, and what it removed. -/
structure DevelopmentExport where
  ipaPath : Path
  isolatedHomeRemoved : Bool
  exportOptionsRemoved : Bool

/-- Evidence of the independent validation of the IPA. -/
structure SignedIpaValidation where
  evidence : Json
  cleanupConfirmed : Bool

/-- What was published, by file name. -/
structure PublishedArtifacts where
  records : List Json
  reportPaths : List Path
  productPaths : List Path

/-- A step that another module of the worker implements. -/
inductive PhaseStep where
  /-- the checks of `validate_protected_request` that read no directory -/
  | validateRequest
  | inspectSealedArchive (path : Path)
  /-- discovery, comparison with the compile evidence, and the probes -/
  | discoverToolchain
  | unixTimeNow
  | unseal (sealedArchive destination : Path)
  | resolveSecret (reference : SecretReference)
  | prepareProvisioning (jobRoot scratch : Path)
  | exportIpa (archive exportDirectory isolatedHome temporary : Path)
  | normalizeIpaPath (artifactDirectory exported : Path)
  /-- the expectation of the request, and the validation against it -/
  | validateIpa (ipa workspace : Path)
  | createProducts (ipa archive artifactDirectory workspace : Path)
  | encodeReport (validation products : Json) (cleanup : ProtectedCleanupEvidence)
  | publish (ipa artifactDirectory : Path) (report : List UInt8)
  | buildManifest (records : List Json) (cleanup : ProtectedCleanupEvidence)

/-- What each step answers; the provisioning step with whether the decoded inputs were
removed. -/
abbrev PhaseStep.Answer : PhaseStep → Type
  | .validateRequest | .inspectSealedArchive _ => Except PipelineError Unit
  | .discoverToolchain => Except PipelineError Path
  | .unixTimeNow => Except PipelineError UInt64
  | .unseal .. => Option UnsealedArchive
  | .resolveSecret _ => Option (List UInt8)
  | .prepareProvisioning .. => ToolAnswer (Option Bool)
  | .exportIpa .. => ToolAnswer (Option DevelopmentExport)
  | .normalizeIpaPath .. => Except PipelineError Path
  | .validateIpa .. => ToolAnswer (Except PipelineError SignedIpaValidation)
  | .createProducts .. => ToolAnswer (Option Json)
  | .encodeReport .. => Option (List UInt8)
  | .publish .. => Except PipelineError PublishedArtifacts
  | .buildManifest .. => Except PipelineError Json

/-! ## Operations -/

inductive SignOp where
  | metadata (path : Path)
  | symlinkMetadata (path : Path)
  | canonicalize (path : Path)
  | openHandle (path : Path)
  | createDir (path : Path)
  | createTempDir (parent : Path)
  | closeTempDir (path : Path)
  | setPermissions (path : Path)
  | createNew (path : Path)
  | writeAll (path : Path) (contents : List UInt8)
  | syncAll (path : Path)
  | removeFile (path : Path)
  | removeDir (path : Path)
  | removeDirAll (path : Path)
  | readDir (path : Path)
  | openOrCreate (path : Path)
  | lockExclusive (path : Path)
  | run (command : Command)
  | step (step : PhaseStep)

/-- The answers; the lock is answered with whether it was taken before the deadline. -/
abbrev SignRes : SignOp → Type
  | .symlinkMetadata _ => IoResult FileInfo
  | .canonicalize _ | .createTempDir _ => IoResult Path
  | .openHandle _ => IoResult (Nat × Nat)
  | .readDir _ => IoResult (List (IoResult String))
  | .lockExclusive _ => IoResult Bool
  | .run _ => ToolAnswer (Except CommandFailure (List UInt8))
  | .step step => step.Answer
  | .metadata _ | .createDir _ | .closeTempDir _ | .setPermissions _ | .createNew _
  | .openOrCreate _ | .writeAll .. | .syncAll _ | .removeFile _ | .removeDir _ | .removeDirAll _ => IoResult Unit

/-- Perform one operation. -/
abbrev call {σ ε : Type} (op : SignOp) : ProgM SignOp SignRes σ ε (SignRes op) := perform op

end Protected

end RustFerry.Worker
