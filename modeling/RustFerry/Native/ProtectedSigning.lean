import RustFerry.Native.SigningKeychain

/-!
# The protected signing phase

`sign_protected_phase` (`crates/rustferry-worker-macos/src/pipeline.rs`): the sealed archive is
unsealed into a private workspace, the identity is imported into an ephemeral keychain, the IPA
is exported and validated, and everything private is removed before the artifacts are published.
The workspace and the keychain are guards: what is not cleaned up explicitly is cleaned up when
they are dropped.
-/

namespace RustFerry.Worker

namespace Protected

open Remote ProgM

def maxReportBytes : Nat := 4 * 1024 * 1024
def maxSigningPasswordBytes : Nat := 4 * 1024
def maxEncodedProfileBytes : Nat := 8 * 1024 * 1024

/-- The request of the phase: the signing plan of the build request, what is read of the compile
evidence, and the paths. -/
structure ProtectedSignPhaseRequest where
  signing : SigningPlan
  archiveInspection : Json
  sealedArchive : Json
  sealedArchivePath : Path
  jobRoot : Path
  workerRoot : Path
  artifactDirectory : Path
  commandTimeout : Nat

/-- The result of the phase. -/
structure ProtectedSignPhaseOutput where
  ipaPath : Path
  published : PublishedArtifacts
  report : List UInt8
  artifactManifest : Json

/-- A computation of the phase, on no state. -/
abbrev PhaseM (σ : Type) := ProgM SignOp SignRes σ PipelineError

section

variable {σ : Type}

/-- `map_err(|source| io_error(operation, source))`. -/
def phaseIo {α : Type} (operation : String) (answer : IoResult α) : PhaseM σ α :=
  ofExcept (answer.mapError (.io operation))

/-- Perform a step that answers with its own error. -/
def phaseStep {α : Type} (step : PhaseStep) (h : step.Answer = Except PipelineError α) :
    PhaseM σ α := do
  let answer ← call (.step step)
  ofExcept (h ▸ answer)

/-! ## Directories -/

/-- `Path::exists`: a path that cannot be inspected does not exist. -/
def pathExists (path : Path) : PhaseM σ Bool := do
  let answer ← call (.metadata path)
  return answer.isOk

def canonicalRealDirectory (path : Path) : PhaseM σ Path := do
  let answer ← call (.symlinkMetadata path)
  let info ← phaseIo "inspect pipeline directory" answer
  ensure info.isDirectory .unsafePath
  let canonical ← call (.canonicalize path)
  phaseIo "canonicalize pipeline directory" canonical

def parent (path : Path) : Option Path := if path.isEmpty then none else some path.dropLast

def cleanupArtifactDirectory (jobRoot artifactDirectory : Path) : PhaseM σ Unit := do
  let present ← pathExists artifactDirectory
  if present then
    let jobRoot ← canonicalRealDirectory jobRoot
    let answer ← call (.symlinkMetadata artifactDirectory)
    let info ← phaseIo "inspect failed artifact directory" answer
    let parent ← ofOption .cleanupIncomplete (parent artifactDirectory)
    ensure info.isDirectory .cleanupIncomplete
    let parent ← canonicalRealDirectory parent
    ensure (parent == jobRoot) .cleanupIncomplete
    let removed ← call (.removeDirAll artifactDirectory)
    ensure removed.isOk .cleanupIncomplete
    let remains ← pathExists artifactDirectory
    ensure (!remains) .cleanupIncomplete
  else pure ()

end

/-! ## The private workspace -/

structure ProtectedWorkspace where
  root : Path
  identity : Nat × Nat
  /-- whether the temporary directory is still to be closed -/
  temporary : Bool

/-- A computation that changes the workspace. -/
abbrev WorkspaceM := PhaseM ProtectedWorkspace

namespace ProtectedWorkspace

/-- `create`; a directory that cannot be bound is removed as it is dropped. -/
def create {σ : Type} (jobRoot : Path) : PhaseM σ ProtectedWorkspace := do
  let root ← canonicalRealDirectory jobRoot
  let answer ← call (.createTempDir root)
  let path ← phaseIo "create protected signing workspace" answer
  match ← call (.openHandle path) with
  | .ok identity => pure ⟨path, identity, true⟩
  | .error kind => do
    let _ ← call (.closeTempDir path)
    fail (.io "bind protected signing workspace" kind)

def verify : WorkspaceM Unit := do
  let self ← get
  let answer ← call (.symlinkMetadata self.root)
  let info ← phaseIo "inspect protected signing workspace" answer
  let handle ← call (.openHandle self.root)
  let rebound ← phaseIo "rebind protected signing workspace" handle
  ensure (info.isDirectory && rebound == self.identity) .unsafePath

/-- `create_child_directory`, for a name that is a safe path component. -/
def createChildDirectory (name : String) : WorkspaceM Path := do
  verify
  let self ← get
  let path := self.root ++ [name]
  let created ← call (.createDir path)
  phaseIo "create protected workspace directory" created
  verify
  canonicalRealDirectory path

def cleanup : WorkspaceM Unit := do
  verify
  let self ← get
  ensure self.temporary .cleanupIncomplete
  modify fun self => { self with temporary := false }
  let closed ← call (.closeTempDir self.root)
  ensure closed.isOk .cleanupIncomplete
  let remains ← pathExists self.root
  ensure (!remains) .cleanupIncomplete

/-- `Drop`: a temporary directory that is still open is closed, and the result is lost. -/
def drop {σ : Type} (self : ProtectedWorkspace) : PhaseM σ Unit := do
  if self.temporary then
    let _ ← call (.closeTempDir self.root)
    return ()
  else pure ()

end ProtectedWorkspace

/-! ## Stages -/

/-- The paths of the workspace that the phase works with. -/
structure PhaseDirectories where
  workspace : Path
  unsealedArchive : Path
  keychainRoot : Path
  profileScratch : Path
  temporaryDirectory : Path
  validationWorkspace : Path
  productWorkspace : Path
  isolatedHome : Path

section

variable (parsers : OutputParsers) (phase : ProtectedSignPhaseRequest)

def validateProtectedRequest {σ : Type} : PhaseM σ Unit := do
  phaseStep .validateRequest rfl
  let present ← pathExists phase.artifactDirectory
  ensure (!present) .unsafePath
  let workerRoot ← canonicalRealDirectory phase.workerRoot
  let jobRoot ← canonicalRealDirectory phase.jobRoot
  let artifactParent ← ofOption .unsafePath (parent phase.artifactDirectory)
  ensure (jobRoot != workerRoot && workerRoot.isPrefixOf jobRoot) .unsafePath
  let artifactParent ← canonicalRealDirectory artifactParent
  ensure (artifactParent == jobRoot &&
    !phase.artifactDirectory.isPrefixOf phase.sealedArchivePath) .unsafePath
  phaseStep (.inspectSealedArchive phase.sealedArchivePath) rfl
  ensure (minCommandTimeout ≤ phase.commandTimeout && phase.commandTimeout ≤ maxCommandTimeout)
    .invalidRequest

def expectedCertificate : Except PipelineError SigningCertificate :=
  match phase.signing.signing with
  | some signing => .ok signing.identity.certificate
  | none => .error .signingPlanRejected

/-- The set-up of the workspace: the archive is unsealed, and the directories are made. -/
def setUp : WorkspaceM PhaseDirectories := do
  let self ← get
  let unsealedArchive := self.root ++ ["unsigned.xcarchive"]
  let unsealed ← call (.step (.unseal phase.sealedArchivePath unsealedArchive))
  let unsealed ← ofOption .archiveUnsealFailed unsealed
  ensure (unsealed.inspection == phase.archiveInspection &&
    unsealed.descriptor == phase.sealedArchive) .archiveHandoffMismatch
  let keychainRoot ← ProtectedWorkspace.createChildDirectory "keychain"
  let profileScratch ← ProtectedWorkspace.createChildDirectory "profiles"
  let temporaryDirectory ← ProtectedWorkspace.createChildDirectory "temporary"
  let validationWorkspace ← ProtectedWorkspace.createChildDirectory "validation"
  let productWorkspace ← ProtectedWorkspace.createChildDirectory "products"
  return {
    workspace := self.root
    unsealedArchive := unsealedArchive
    keychainRoot := keychainRoot
    profileScratch := profileScratch
    temporaryDirectory := temporaryDirectory
    validationWorkspace := validationWorkspace
    productWorkspace := productWorkspace
    isolatedHome := self.root ++ ["isolated-home"] }

/-! ### Signing -/

/-- A computation that holds the keychain once it is imported. -/
abbrev SigningM := PhaseM (Option EphemeralSigningKeychain)

/-- `secrets.resolve(reference)`. -/
def resolveSecret (reference : SecretReference) : SigningM (List UInt8) := do
  let answer ← call (.step (.resolveSecret reference))
  ofOption .secretResolutionFailed answer

/-- `secret_bytes_to_utf8`. -/
def secretBytesToUtf8 (bytes : List UInt8) : Except PipelineError String :=
  if maxSigningPasswordBytes < bytes.length then .error .signingPasswordRejected
  else match Text.fromUtf8 bytes with
    | some text => .ok text
    | none => .error .signingPasswordRejected

/-- `resolve_profile_inputs`, with the checks of `ProfileSecretInput::new` on the bytes. -/
def resolveProfileInputs : SigningM Unit :=
  phase.signing.provisioning.forM fun planned => do
    let bytes ← resolveSecret planned.profile
    ensure (isSafeIdentifier planned.target && !bytes.isEmpty &&
      bytes.length ≤ maxEncodedProfileBytes) .provisioningRejected

/-- The identity is imported and checked. -/
def importSigningIdentity (keychainRoot : Path) (certificate : SigningCertificate) :
    SigningM Unit := do
  let signing ← ofOption .signingPlanRejected phase.signing.signing
  let identityBytes ← resolveSecret signing.identity.privateKey.reference
  let passwordReference ← ofOption .signingPlanRejected signing.password
  let passwordBytes ← resolveSecret passwordReference
  let password ← ofExcept (secretBytesToUtf8 passwordBytes)
  let input ← ofExcept ((signingKeychainInput identityBytes password).mapError
    fun _ => .signingIdentityRejected)
  ofExcept ((keychainOptions phase.commandTimeout (24 * 60 * 60 * nanosPerSecond)).mapError
    fun _ => .signingIdentityRejected)
  let imported ← mapError (createKeychain parsers phase.workerRoot keychainRoot input)
    fun _ => .signingIdentityRejected
  match imported.validateIdentity certificate with
  | .ok _ => modify fun _ => some imported
  | .error _ => do
    let _ ← mapError imported.cleanup fun _ => PipelineError.cleanupIncomplete
    fail .signingIdentityRejected

/-- What the phase keeps of its operation. -/
structure ProtectedOperationOutput where
  ipaPath : Path
  validation : SignedIpaValidation
  signedProducts : Json
  isolatedHomeRemoved : Bool
  exportOptionsRemoved : Bool

/-- The profiles are prepared, and the IPA is exported, validated and packed. -/
def exportAndValidate (directories : PhaseDirectories) : SigningM ProtectedOperationOutput := do
  resolveProfileInputs phase
  let prepared ← call (.step (.prepareProvisioning directories.workspace
    directories.profileScratch))
  let decodedInputsRemoved ← ofOption .provisioningRejected prepared.result
  ensure decodedInputsRemoved .cleanupIncomplete
  ensure phase.signing.team.isSome .signingPlanRejected
  let exported ← call (.step (.exportIpa directories.unsealedArchive phase.artifactDirectory
    directories.isolatedHome directories.temporaryDirectory))
  let exported ← ofOption .developmentExportFailed exported.result
  ensure (exported.isolatedHomeRemoved && exported.exportOptionsRemoved) .cleanupIncomplete
  let ipaPath ← phaseStep (.normalizeIpaPath phase.artifactDirectory exported.ipaPath) rfl
  let validation ← call (.step (.validateIpa ipaPath directories.validationWorkspace))
  let validation ← ofExcept validation.result
  ensure validation.cleanupConfirmed .cleanupIncomplete
  let products ← call (.step (.createProducts ipaPath directories.unsealedArchive
    phase.artifactDirectory directories.productWorkspace))
  let products ← ofOption .signedArtifactRejected products.result
  return {
    ipaPath := ipaPath
    validation := validation
    signedProducts := products
    isolatedHomeRemoved := exported.isolatedHomeRemoved
    exportOptionsRemoved := exported.exportOptionsRemoved }

/-- The operation of the phase. -/
def operate (directories : PhaseDirectories) (certificate : SigningCertificate) :
    SigningM ProtectedOperationOutput := do
  importSigningIdentity parsers phase directories.keychainRoot certificate
  exportAndValidate phase directories

/-! ### Completion -/

def cleanupEvidence (keychain : KeychainCleanupConfirmation)
    (isolatedHomeRemoved exportOptionsRemoved validationWorkspaceRemoved
      privateWorkspaceRemoved : Bool) : ProtectedCleanupEvidence where
  keychainSearchListRestored := keychain.searchListRestored
  keychainRemoved := keychain.keychainRemoved
  keychainSigningFilesRemoved := keychain.signingFilesRemoved
  keychainJobDirectoryRemoved := keychain.jobDirectoryRemoved
  isolatedHomeRemoved := isolatedHomeRemoved
  exportOptionsRemoved := exportOptionsRemoved
  validationWorkspaceRemoved := validationWorkspaceRemoved
  privateWorkspaceRemoved := privateWorkspaceRemoved

/-- The artifacts are removed before the error is returned. -/
def failAfterArtifacts {α : Type} (error : PipelineError) : WorkspaceM α := do
  cleanupArtifactDirectory phase.jobRoot phase.artifactDirectory
  fail error

/-- Go on with the value, or remove the artifacts and fail. -/
def orFailAfterArtifacts {α : Type} : Except PipelineError α → WorkspaceM α
  | .ok a => pure a
  | .error e => failAfterArtifacts phase e

/-- The report is encoded, and the artifacts are published. -/
def publishOutput (operation : ProtectedOperationOutput) (cleanup : ProtectedCleanupEvidence) :
    WorkspaceM ProtectedSignPhaseOutput := do
  let report ← call (.step (.encodeReport operation.validation.evidence
    operation.signedProducts cleanup))
  let report ← orFailAfterArtifacts phase (encodedReport report)
  let published ← call (.step (.publish operation.ipaPath phase.artifactDirectory report))
  let published ← orFailAfterArtifacts phase published
  let manifest ← call (.step (.buildManifest published.records cleanup))
  let manifest ← orFailAfterArtifacts phase manifest
  return ⟨operation.ipaPath, published, report, manifest⟩
where
  /-- The report is neither empty nor too long. -/
  encodedReport : Option (List UInt8) → Except PipelineError (List UInt8)
    | some report =>
      if report.isEmpty || maxReportBytes < report.length then .error .reportEncodingFailed
      else .ok report
    | none => .error .reportEncodingFailed

/-- The keychain that is held is cleaned up: whether that failed, and what was confirmed. -/
def cleanupKeychain : Option EphemeralSigningKeychain →
    WorkspaceM (Bool × Option KeychainCleanupConfirmation)
  | none => pure (false, none)
  | some keychain => do
    let out ← attempt keychain.cleanup
    return (!out.isOk, out.toOption)

/-- What follows the operation, whatever its outcome. -/
def finish (operation : Except PipelineError ProtectedOperationOutput)
    (keychain : Option EphemeralSigningKeychain) : WorkspaceM ProtectedSignPhaseOutput := do
  let (keychainFailed, keychainCleanup) ← cleanupKeychain keychain
  let privateCleanup ← attempt ProtectedWorkspace.cleanup
  if keychainFailed || !privateCleanup.isOk then
    failAfterArtifacts phase .cleanupIncomplete
  else do
    let operation ← orFailAfterArtifacts phase operation
    let keychainCleanup ← orFailAfterArtifacts phase (confirmed keychainCleanup)
    let cleanup := cleanupEvidence keychainCleanup operation.isolatedHomeRemoved
      operation.exportOptionsRemoved operation.validation.cleanupConfirmed true
    if cleanup.isComplete then publishOutput phase operation cleanup
    else failAfterArtifacts phase .cleanupIncomplete
where
  confirmed : Option KeychainCleanupConfirmation → Except PipelineError KeychainCleanupConfirmation
    | some confirmation => .ok confirmation
    | none => .error .cleanupIncomplete

/-- The phase in its workspace. -/
def signInWorkspace (certificate : SigningCertificate) :
    WorkspaceM ProtectedSignPhaseOutput := do
  let setup ← attempt (setUp phase)
  match setup with
  | .error error => do
    ProtectedWorkspace.cleanup
    fail error
  | .ok directories => do
    let (operation, keychain) ← runOn none (operate parsers phase directories certificate)
    finish phase operation keychain

def signProtectedPhase : PhaseM Unit ProtectedSignPhaseOutput := do
  validateProtectedRequest phase
  let _ ← phaseStep .discoverToolchain rfl
  let certificate ← ofExcept (expectedCertificate phase)
  let _ ← phaseStep .unixTimeNow rfl
  let workspace ← ProtectedWorkspace.create phase.jobRoot
  let (out, workspace) ← runOn workspace (signInWorkspace parsers phase certificate)
  workspace.drop
  ofExcept out

end

end Protected

end RustFerry.Worker
