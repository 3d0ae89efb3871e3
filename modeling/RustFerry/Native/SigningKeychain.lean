import RustFerry.Native.SigningOperations

/-!
# Ephemeral signing keychains

The macOS part of `crates/rustferry-worker-macos/src/keychain.rs`. The keychain is changed in
place. When its construction fails it is dropped, and dropping it cleans up as far as that goes.
The parsers of the commands' outputs are parameters.
-/

namespace RustFerry.Worker

namespace Protected

open Remote ProgM
open Except (rejectIf)

/-! ## Errors and evidence -/

/-- Public identity component that failed independent validation. -/
inductive IdentityEvidenceMismatch where
  | expectedCertificate
  | commonName
  | sha256Fingerprint
  | team
  | expiration
  | privateKey

/-- Typed, secret-free failure from the keychain engine. -/
inductive KeychainError where
  | invalidInput (field reason : String)
  | io (operation : String) (kind : IoErrorKind)
  | lockTimedOut
  | commandSpawn (operation : String) (kind : IoErrorKind)
  | commandTimedOut (operation : String)
  | commandOutputTooLarge (operation : String)
  | commandFailed (operation : String) (exitCode : Option Int)
  | invalidCommandOutput (operation reason : String)
  | certificateNotCurrentlyValid
  | identityMismatch (component : IdentityEvidenceMismatch)
  | cleanupIncomplete (searchListRestored keychainRemoved signingFilesRemoved
      jobDirectoryRemoved : Bool)

/-- Successful proof that job-scoped signing state was removed. -/
structure KeychainCleanupConfirmation where
  searchListRestored : Bool
  keychainRemoved : Bool
  signingFilesRemoved : Bool
  jobDirectoryRemoved : Bool

def KeychainCleanupConfirmation.isComplete (self : KeychainCleanupConfirmation) : Bool :=
  self.searchListRestored && self.keychainRemoved && self.signingFilesRemoved &&
    self.jobDirectoryRemoved

/-- Independently derived public evidence for the imported private-key identity. -/
structure KeychainIdentityEvidence where
  commonName : String
  teamId : String
  sha1Fingerprint : String
  sha256Fingerprint : String
  expiresAtUnixSeconds : UInt64

/-- What the code reads out of the commands' outputs. -/
structure OutputParsers where
  sha256 : List UInt8 → List UInt8
  uppercaseHex : List UInt8 → String
  parseHexOutput : List UInt8 → (expectedLength : Nat) → Except KeychainError String
  parseCertificateSubject : List UInt8 → Except KeychainError (String × String)
  parseCertificateExpiration : List UInt8 → Except KeychainError UInt64
  parseSearchList : List UInt8 → Except KeychainError (List Path)
  validateKeychainIdentityListing : List UInt8 → (sha1 : String) → Except KeychainError Unit

/-! ## Inputs -/

def maxP12Bytes : Nat := 64 * 1024 * 1024
def maxPasswordBytes : Nat := 4 * 1024
def nanosPerSecond : Nat := 1000000000
def minCommandTimeout : Nat := nanosPerSecond
def maxCommandTimeout : Nat := 5 * 60 * nanosPerSecond
def minStaleAge : Nat := 60 * 60 * nanosPerSecond
def maxStaleAge : Nat := 30 * 24 * 60 * 60 * nanosPerSecond

/-- `KeychainOptions::new`, on durations in nanoseconds. -/
def keychainOptions (commandTimeout staleAfter : Nat) : Except KeychainError Unit := do
  rejectIf (!(minCommandTimeout ≤ commandTimeout && commandTimeout ≤ maxCommandTimeout))
    (.invalidInput "command_timeout" "must be between one second and five minutes")
  rejectIf (!(minStaleAge ≤ staleAfter && staleAfter ≤ maxStaleAge))
    (.invalidInput "stale_after" "must be between one hour and thirty days")

structure SigningKeychainInput where
  pkcs12 : List UInt8
  password : String

/-- `SigningKeychainInput::new`. -/
def signingKeychainInput (pkcs12 : List UInt8) (password : String) :
    Except KeychainError SigningKeychainInput := do
  rejectIf pkcs12.isEmpty (.invalidInput "pkcs12" "must not be empty")
  rejectIf (maxP12Bytes < pkcs12.length)
    (.invalidInput "pkcs12" "exceeds the 64 MiB worker limit")
  rejectIf (maxPasswordBytes < password.utf8ByteSize)
    (.invalidInput "pkcs12_password" "exceeds the 4 KiB worker limit")
  rejectIf (password.toList.any fun c => c == '\x00' || c == '\n' || c == '\r')
    (.invalidInput "pkcs12_password" "must not contain NUL or newline bytes")
  return ⟨pkcs12, password⟩

def validateIdentityEvidence (evidence : KeychainIdentityEvidence)
    (expected : SigningCertificate) : Except KeychainError Unit := do
  rejectIf (!expected.errors.isEmpty) (.identityMismatch .expectedCertificate)
  rejectIf (evidence.commonName != expected.commonName) (.identityMismatch .commonName)
  rejectIf (!Text.eqIgnoreAsciiCase evidence.sha256Fingerprint.toList
    expected.sha256Fingerprint.toList) (.identityMismatch .sha256Fingerprint)
  rejectIf (evidence.teamId != expected.team.id) (.identityMismatch .team)
  rejectIf (evidence.expiresAtUnixSeconds != expected.expiresAtUnixSeconds)
    (.identityMismatch .expiration)

/-! ## The keychain -/

def jobPrefix : String := "rustferry-signing-v1-"
def ownerMarker : String := ".rustferry-signing-owner-v1"
def p12File : String := "certificate.p12"
def pemFile : String := "certificate.pem"
def keychainFile : String := "signing.keychain-db"
def searchListLock : String := ".rustferry-keychain-search-list.lock"

def validateOwnedJobName (name : String) : Bool :=
  (Text.stripFront jobPrefix.toList name.toList).any fun token =>
    token.length == 32 && token.all fun c => c.isDigit || ('a' ≤ c && c ≤ 'f')

def cleanupEntryIsAllowlisted (entry : String) : Bool :=
  [ownerMarker, p12File, pemFile, keychainFile].contains entry

structure PlatformKeychain where
  root : Path
  jobDir : Path
  jobIdentity : Nat × Nat
  priorSearchList : List Path
  searchListMutated : Bool
  keychainCreated : Bool
  active : Bool

namespace PlatformKeychain

def keychainPath (self : PlatformKeychain) : Path := self.jobDir ++ [keychainFile]
def p12Path (self : PlatformKeychain) : Path := self.jobDir ++ [p12File]
def pemPath (self : PlatformKeychain) : Path := self.jobDir ++ [pemFile]
def markerPath (self : PlatformKeychain) : Path := self.jobDir ++ [ownerMarker]

end PlatformKeychain

/-- A computation of the engine, on no state. -/
abbrev EngineM (σ : Type) := ProgM SignOp SignRes σ KeychainError

/-- A computation that changes the keychain. -/
abbrev KeychainM := EngineM PlatformKeychain

section

variable {σ : Type}

/-- `map_err(|source| io_error(operation, source))`. -/
def ioError {α : Type} (operation : String) (answer : IoResult α) : EngineM σ α :=
  ofExcept (answer.mapError (.io operation))

def CommandFailure.error (operation : String) : CommandFailure → KeychainError
  | .spawn kind => .commandSpawn operation kind
  | .input kind => .io "write bounded command input" kind
  | .timedOut => .commandTimedOut operation
  | .outputTooLarge => .commandOutputTooLarge operation
  | .failed exitCode => .commandFailed operation exitCode

def runCommand (command : Command) : EngineM σ (List UInt8) := do
  let answer ← call (.run command)
  ofExcept (answer.result.mapError (CommandFailure.error command.operation))

/-! ### Files -/

def isRegularFile (path : Path) : EngineM σ Bool := do
  match ← call (.symlinkMetadata path) with
  | .ok info => pure info.isRegular
  | .error .notFound => pure false
  | .error kind => fail (.io "inspect signing file" kind)

def removeRegularFile (path : Path) : EngineM σ Unit := do
  match ← call (.symlinkMetadata path) with
  | .ok info =>
    ensure info.isRegular (.invalidInput "signing_file" "refusing to remove a non-regular file")
    let removed ← call (.removeFile path)
    ioError "remove signing file" removed
  | .error .notFound => pure ()
  | .error kind => fail (.io "inspect signing file for removal" kind)

def pathIsAbsent (path : Path) : EngineM σ Bool := do
  match ← call (.symlinkMetadata path) with
  | .ok _ => pure false
  | .error .notFound => pure true
  | .error kind => fail (.io "confirm signing path removal" kind)

def directoryIdentity (path : Path) : EngineM σ (Nat × Nat) := do
  let answer ← call (.symlinkMetadata path)
  let info ← ioError "inspect signing job directory identity" answer
  ensure info.isDirectory (.invalidInput "job_directory" "must remain a real directory")
  return info.identity

def secureRegularFile (path : Path) : EngineM σ Unit := do
  let answer ← call (.symlinkMetadata path)
  let info ← ioError "inspect private signing file" answer
  ensure info.isRegular (.invalidInput "signing_file" "must be a regular file, not a symlink")
  let secured ← call (.setPermissions path)
  ioError "secure private signing file" secured

def writePrivateFile (path : Path) (contents : List UInt8) : EngineM σ Unit := do
  let created ← call (.createNew path)
  ioError "create private signing file" created
  let written ← call (.writeAll path contents)
  ioError "write private signing file" written
  let synced ← call (.syncAll path)
  ioError "sync private signing file" synced
  let secured ← call (.setPermissions path)
  ioError "secure private signing file" secured

def createPrivateFile (path : Path) : EngineM σ Unit := do
  let created ← call (.createNew path)
  ioError "create decoded signing file" created
  let secured ← call (.setPermissions path)
  ioError "secure decoded signing file" secured

/-- The entries of the job directory, of which there are at most as many as remain. -/
def entriesAreAllowlisted (directory : Path) :
    (remaining : Nat) → List (IoResult String) → EngineM σ Bool
  | _, [] => pure true
  | 0, _ :: _ => pure false
  | remaining + 1, entry :: rest => do
    let name ← ioError "read stale signing entry" entry
    let answer ← call (.symlinkMetadata (directory ++ [name]))
    let info ← ioError "inspect stale signing entry" answer
    if info.isRegular && cleanupEntryIsAllowlisted name then
      entriesAreAllowlisted directory remaining rest
    else pure false

def directoryContentsAreAllowlisted (directory : Path) : EngineM σ Bool := do
  let answer ← call (.readDir directory)
  let entries ← ioError "read stale signing directory" answer
  entriesAreAllowlisted directory 4 entries

def removeOwnedJobDirectory (root directory : Path) : EngineM σ Unit := do
  let name ← ofOption (.invalidInput "job_directory" "refusing to remove a non-worker directory")
    (directory.getLast?.filter validateOwnedJobName)
  ensure (directory == root ++ [name])
    (.invalidInput "job_directory" "does not belong directly to the signing root")
  match ← call (.symlinkMetadata directory) with
  | .ok info =>
    ensure info.isDirectory
      (.invalidInput "job_directory" "refusing to remove a non-directory or symlink")
    let removed ← call (.removeDir directory)
    ioError "remove signing job directory" removed
  | .error .notFound => pure ()
  | .error kind => fail (.io "inspect signing job directory" kind)

/-! ### Tools -/

def querySearchList (parsers : OutputParsers) : EngineM σ (List Path) := do
  let output ← runCommand .querySearchList
  ofExcept (parsers.parseSearchList output)

def setSearchList (paths : List Path) : EngineM σ Unit := do
  let _ ← runCommand (.setSearchList paths)
  return ()

def generateHexValue (parsers : OutputParsers) (bytes : Nat) : EngineM σ String := do
  let output ← runCommand (.random bytes)
  ofExcept (parsers.parseHexOutput output (bytes * 2))

/-- `SearchListLock::acquire`. -/
def acquireSearchListLock (workerRoot : Path) : EngineM σ Unit := do
  let path := workerRoot ++ [searchListLock]
  let answer ← call (.symlinkMetadata path)
  ofExcept (validateLockPath answer)
  let opened ← call (.openOrCreate path)
  ioError "open keychain lock" opened
  let secured ← call (.setPermissions path)
  ioError "secure keychain lock" secured
  let answer ← call (.lockExclusive path)
  let locked ← ioError "lock keychain search list" answer
  ensure locked .lockTimedOut
where
  validateLockPath : IoResult FileInfo → Except KeychainError Unit
    | .ok info => rejectIf (!info.isRegular)
      (.invalidInput "worker_path" "keychain lock must be a single-link regular file")
    | .error .notFound => .ok ()
    | .error kind => .error (.io "validate keychain lock" kind)

end

/-! ## Cleanup -/

section

variable {σ : Type}

/-- `x.is_ok()`. -/
def succeeds {α : Type} (x : EngineM σ α) : EngineM σ Bool := do
  let out ← attempt x
  return out.isOk

/-- `x.unwrap_or(false)`. -/
def orFalse (x : EngineM σ Bool) : EngineM σ Bool := do
  let out ← attempt x
  return out.toOption.getD false

/-- `condition && x`. -/
def andThen (condition : Bool) (x : EngineM σ Bool) : EngineM σ Bool :=
  if condition then x else pure false

/-- `condition || x`. -/
def orElse (condition : Bool) (x : EngineM σ Bool) : EngineM σ Bool :=
  if condition then pure true else x

/-- `remove(path).is_ok() && path_is_absent(path).unwrap_or(false)`, below a directory that is
still the job's. -/
def removeAndConfirm (intact : Bool) (remove : EngineM σ Unit) (path : Path) :
    EngineM σ Bool := do
  let removed ← andThen intact (succeeds remove)
  andThen removed (orFalse (pathIsAbsent path))

end

namespace PlatformKeychain

def restoreSearchList : KeychainM Unit := do
  let self ← get
  if self.searchListMutated then
    setSearchList self.priorSearchList
    modify fun self => { self with searchListMutated := false }
  else pure ()

def jobDirectoryMatches : KeychainM Bool := do
  let self ← get
  let identity ← directoryIdentity self.jobDir
  return identity == self.jobIdentity

/-- The keychain may have been created, and its file is there. -/
def hasKeychain : KeychainM Bool := do
  let self ← get
  andThen self.keychainCreated (isRegularFile self.keychainPath)

/-- The keychain is deleted by its tool if it is there; an error is kept for later. -/
def deleteKeychain : KeychainM (Option KeychainError) := do
  let regular ← hasKeychain
  let self ← get
  if regular then
    let out ← attempt (runCommand (.deleteKeychain self.keychainPath))
    return match out with
      | .ok _ => none
      | .error e => some e
  else pure none

def removeKeychain : KeychainM Unit := do
  let commandError ← deleteKeychain
  modify fun self => { self with keychainCreated := false }
  let self ← get
  let fileResult ← attempt (removeRegularFile self.keychainPath)
  match commandError with
  | some e => fail e
  | none => ofExcept fileResult

/-- What was confirmed. -/
def confirmCleanup : KeychainM KeychainCleanupConfirmation := do
  let self ← get
  let searchListRestored ← succeeds restoreSearchList
  let intact ← orFalse jobDirectoryMatches
  let keychainRemoved ← removeAndConfirm intact removeKeychain self.keychainPath
  let p12Removed ← removeAndConfirm intact (removeRegularFile self.p12Path) self.p12Path
  let pemRemoved ← removeAndConfirm intact (removeRegularFile self.pemPath) self.pemPath
  let signingFilesRemoved := p12Removed && pemRemoved
  let recoverable ← andThen (searchListRestored && keychainRemoved && signingFilesRemoved)
    (orFalse (directoryContentsAreAllowlisted self.jobDir))
  let markerRemoved ← removeAndConfirm recoverable (removeRegularFile self.markerPath)
    self.markerPath
  let absent ← orFalse (pathIsAbsent self.jobDir)
  let jobDirectoryRemoved ← orElse absent
    (removeAndConfirm markerRemoved (removeOwnedJobDirectory self.root self.jobDir) self.jobDir)
  return ⟨searchListRestored, keychainRemoved, signingFilesRemoved, jobDirectoryRemoved⟩

def cleanup : KeychainM KeychainCleanupConfirmation := do
  let confirmation ← confirmCleanup
  if confirmation.isComplete then
    modify fun self => { self with active := false }
    return confirmation
  else
    fail (.cleanupIncomplete confirmation.searchListRestored confirmation.keychainRemoved
      confirmation.signingFilesRemoved confirmation.jobDirectoryRemoved)

/-- `Drop`: an active keychain is cleaned up, and the result is lost. -/
def drop {σ ε : Type} (self : PlatformKeychain) : ProgM SignOp SignRes σ ε Unit := do
  if self.active then
    let _ ← runOn self cleanup
    return ()
  else pure ()

end PlatformKeychain

/-! ## Construction -/

section

variable {σ : Type}

/-- `prepare_existing_worker_root`, on an absolute path. -/
def prepareExistingWorkerRoot (root : Path) : EngineM σ Path := do
  let answer ← call (.symlinkMetadata root)
  let info ← ioError "inspect shared worker root" answer
  ensure info.isDirectory
    (.invalidInput "worker_root" "must be an existing real directory, not a symlink")
  ensure (info.mode &&& 0o022 == 0)
    (.invalidInput "worker_root" "must not be group- or world-writable")
  let canonical ← call (.canonicalize root)
  ioError "canonicalize shared worker root" canonical

/-- `prepare_signing_root`, on an absolute path. -/
def prepareSigningRoot (root : Path) : EngineM σ Path := do
  let answer ← call (.symlinkMetadata root)
  let info ← ioError "inspect signing root" answer
  ensure info.isDirectory (.invalidInput "signing_root" "must be a real directory, not a symlink")
  let secured ← call (.setPermissions root)
  ioError "secure signing root" secured
  let canonical ← call (.canonicalize root)
  ioError "canonicalize signing root" canonical

def prepareRoots (workerRoot signingRoot : Path) : EngineM σ (Path × Path) := do
  let workerRoot ← prepareExistingWorkerRoot workerRoot
  let signingRoot ← prepareSigningRoot signingRoot
  ensure (signingRoot != workerRoot && workerRoot.isPrefixOf signingRoot)
    (.invalidInput "signing_root" "must be isolated below the shared worker root")
  return (workerRoot, signingRoot)

/-- `create_unique_job_directory`, with the attempts that remain. -/
def createUniqueJobDirectory (parsers : OutputParsers) (root : Path) :
    (attempts : Nat) → EngineM σ Path
  | 0 => fail (.invalidCommandOutput "random job-name generation"
      "could not allocate a unique worker-owned directory")
  | attempts + 1 => do
    let token ← generateHexValue parsers 16
    let directory := root ++ [jobPrefix ++ token]
    match ← call (.createDir directory) with
    | .ok _ =>
      let secured ← call (.setPermissions directory)
      ioError "secure signing job directory" secured
      return directory
    | .error .alreadyExists => createUniqueJobDirectory parsers root attempts
    | .error kind => fail (.io "create signing job directory" kind)

def writeOwnerMarker (jobDir marker : Path) : EngineM σ Unit := do
  let name ← ofOption (.invalidInput "job_directory" "does not have a worker-owned name")
    (jobDir.getLast?.filter validateOwnedJobName)
  writePrivateFile marker (Text.utf8 (name ++ "
"))

def inspectDecodedCertificate (parsers : OutputParsers) (pem : Path) :
    EngineM σ KeychainIdentityEvidence := do
  let _ ← mapError (runCommand (.checkValidity pem)) notCurrentlyValid
  let der ← runCommand (.extractDer pem)
  ensure (!der.isEmpty)
    (.invalidCommandOutput "certificate DER extraction" "DER output is empty")
  let sha1 ← runCommand (.digestSha1 der)
  ensure (sha1.length == 20)
    (.invalidCommandOutput "certificate SHA-1 derivation" "digest output length is invalid")
  let subject ← runCommand (.subject pem)
  let (commonName, teamId) ← ofExcept (parsers.parseCertificateSubject subject)
  let expiration ← runCommand (.expiration pem)
  let expiresAtUnixSeconds ← ofExcept (parsers.parseCertificateExpiration expiration)
  return {
    commonName := commonName
    teamId := teamId
    sha1Fingerprint := parsers.uppercaseHex sha1
    sha256Fingerprint := parsers.uppercaseHex (parsers.sha256 der)
    expiresAtUnixSeconds := expiresAtUnixSeconds }
where
  notCurrentlyValid : KeychainError → KeychainError
    | .commandFailed .. => .certificateNotCurrentlyValid
    | e => e

def confirmImportedIdentity (parsers : OutputParsers) (keychain : Path) (sha1 : String) :
    EngineM σ Unit := do
  let output ← runCommand (.findIdentity keychain)
  ofExcept (parsers.validateKeychainIdentityListing output sha1)

end

namespace PlatformKeychain

/-- The job directory is still the one that was created. -/
def requireJobDirectory (reason : String) : KeychainM Unit := do
  let intact ← jobDirectoryMatches
  ensure intact (.invalidInput "job_directory" reason)

/-- `create` up to the evidence: the signing files are written and decoded. -/
def decodeIdentity (parsers : OutputParsers) (input : SigningKeychainInput) :
    KeychainM KeychainIdentityEvidence := do
  requireJobDirectory "changed after worker creation"
  let self ← get
  writeOwnerMarker self.jobDir self.markerPath
  writePrivateFile self.p12Path input.pkcs12
  createPrivateFile self.pemPath
  requireJobDirectory "changed while materializing signing input"
  let _ ← runCommand (.decode self.p12Path self.pemPath input.password)
  secureRegularFile self.pemPath
  removeRegularFile self.p12Path
  inspectDecodedCertificate parsers self.pemPath

/-- The search list is captured, under its lock. -/
def captureSearchList (parsers : OutputParsers) (workerRoot : Path) : KeychainM Unit := do
  acquireSearchListLock workerRoot
  let prior ← querySearchList parsers
  modify fun self => { self with priorSearchList := prior, searchListMutated := true }

def createAndUnlockKeychain (password : String) : KeychainM Unit := do
  modify fun self => { self with keychainCreated := true }
  let self ← get
  let _ ← runCommand (.createKeychain self.keychainPath password)
  secureRegularFile self.keychainPath
  let _ ← runCommand (.settings self.keychainPath)
  let _ ← runCommand (.unlock self.keychainPath password)
  return ()

/-- The rest of `create`: the keychain is made, and put first in the search list. -/
def importKeychain (parsers : OutputParsers) (evidence : KeychainIdentityEvidence) :
    KeychainM Unit := do
  requireJobDirectory "changed before keychain import"
  let password ← generateHexValue parsers 32
  createAndUnlockKeychain password
  let self ← get
  let _ ← runCommand (.importIdentity self.pemPath self.keychainPath)
  let _ ← runCommand (.keyAccess self.keychainPath password)
  confirmImportedIdentity parsers self.keychainPath evidence.sha1Fingerprint
  removeRegularFile self.pemPath
  setSearchList (self.keychainPath ::
    self.priorSearchList.filter (· != self.keychainPath))

/-- The part of `create` that works on the keychain. -/
def populate (parsers : OutputParsers) (workerRoot : Path) (input : SigningKeychainInput) :
    KeychainM KeychainIdentityEvidence := do
  let evidence ← decodeIdentity parsers input
  captureSearchList parsers workerRoot
  importKeychain parsers evidence
  return evidence

end PlatformKeychain

/-- RAII guard for one imported signing identity and its isolated keychain. -/
structure EphemeralSigningKeychain where
  inner : PlatformKeychain
  identityEvidence : KeychainIdentityEvidence

/-- `EphemeralSigningKeychain::create`: a keychain that could not be completed is dropped. -/
def createKeychain {σ : Type} (parsers : OutputParsers) (workerRoot signingRoot : Path)
    (input : SigningKeychainInput) : EngineM σ EphemeralSigningKeychain := do
  let (workerRoot, root) ← prepareRoots workerRoot signingRoot
  let jobDir ← createUniqueJobDirectory parsers root 8
  let jobIdentity ← directoryIdentity jobDir
  let (out, keychain) ← runOn (PlatformKeychain.mk root jobDir jobIdentity [] false false true)
    (PlatformKeychain.populate parsers workerRoot input)
  match out with
  | .ok evidence => pure ⟨keychain, evidence⟩
  | .error e => do
    -- the destructor cleans up, and its result is lost
    keychain.drop
    fail e

namespace EphemeralSigningKeychain

def validateIdentity (self : EphemeralSigningKeychain) (expected : SigningCertificate) :
    Except KeychainError Unit :=
  validateIdentityEvidence self.identityEvidence expected

/-- `cleanup(self)`: what is left of the guard is dropped. -/
def cleanup {σ : Type} (self : EphemeralSigningKeychain) :
    EngineM σ KeychainCleanupConfirmation := do
  let (out, inner) ← runOn self.inner PlatformKeychain.cleanup
  inner.drop
  ofExcept out

end EphemeralSigningKeychain

end Protected

end RustFerry.Worker
