import RustFerry.ForStd.SharedThreads
import RustFerry.Native.SigningKeychain

/-!
# Workers that share a search list

The keychain engine of `crates/rustferry-worker-macos/src/keychain.rs` with the lock of the user's
search list: when it is taken and released, and the collection of stale keychains. The calls of all
workers of one user run interleaved, on the user's search list and on the lock files; every file
operation and every tool may fail, but a restoration of the search list does not.
-/

namespace RustFerry.Worker

namespace SharedKeychain

open ProgM Protected

/-! ## Operations -/

/-- A planned garbage-collection candidate. -/
structure StaleJob where
  directory : Path
  safeToRemove : Bool

def StaleJob.keychainPath (self : StaleJob) : Path := self.directory ++ [keychainFile]

/-- What a call performs: operations of the engine, those of a cleanup marked; the release of a
lock; `plan_stale_jobs`; and the time in which the caller has a keychain. -/
inductive WorkerOp where
  | tool (restoring : Bool) (op : SignOp)
  | unlock (path : Path)
  | planStaleJobs (root : Path)
  | hold (keychain : Path)

/-- The answers; the caller answers whether it cleans up or drops the keychain. -/
abbrev WorkerRes : WorkerOp → Type
  | .tool _ op => SignRes op
  | .unlock _ => Unit
  | .planStaleJobs _ => Except KeychainError (List StaleJob)
  | .hold _ => Bool

abbrev WorkerM (σ : Type) := ProgM WorkerOp WorkerRes σ KeychainError

/-- A computation of the engine. -/
def during {σ α : Type} (restoring : Bool) (x : EngineM σ α) : WorkerM σ α :=
  @through SignOp WorkerOp WorkerRes σ KeychainError α (WorkerOp.tool restoring) x

/-! ## The keychain and its lock -/

/-- The keychain with its `search_lock`, a lock file. -/
structure LockedKeychain where
  keychain : PlatformKeychain
  searchLock : Option Path

/-- A computation on the keychain. -/
def onKeychain {α : Type} (restoring : Bool) (x : KeychainM α) : WorkerM LockedKeychain α :=
  zoom LockedKeychain.keychain (fun keychain self => { self with keychain })
    (during restoring x)

section

variable {σ : Type}

/-- `SearchListLock::acquire`, with the lock file. -/
def acquireLock (workerRoot : Path) : WorkerM σ Path := do
  during false (acquireSearchListLock workerRoot)
  return workerRoot ++ [searchListLock]

/-- A lock is dropped. -/
def releaseLock (lock : Option Path) : WorkerM σ Unit :=
  match lock with
  | none => pure ()
  | some path => do
    let _ ← perform (.unlock path)
    return ()

end

namespace LockedKeychain

/-- The search list is captured under its lock, which is dropped when that fails. -/
def captureSearchList (parsers : OutputParsers) (workerRoot : Path) :
    WorkerM LockedKeychain Unit := do
  let lock ← acquireLock workerRoot
  let prior ← handle (onKeychain false (querySearchList parsers)) fun e => do
    releaseLock (some lock)
    fail e
  modify fun self => {
    keychain := { self.keychain with priorSearchList := prior, searchListMutated := true }
    searchLock := some lock }

/-- The part of `create` that works on the keychain. -/
def populate (parsers : OutputParsers) (workerRoot : Path) (input : SigningKeychainInput) :
    WorkerM LockedKeychain KeychainIdentityEvidence := do
  let evidence ← onKeychain false (PlatformKeychain.decodeIdentity parsers input)
  captureSearchList parsers workerRoot
  onKeychain false (PlatformKeychain.importKeychain parsers evidence)
  return evidence

/-- `PlatformKeychain::cleanup`: the lock is dropped when the cleanup is complete. -/
def cleanup : WorkerM LockedKeychain KeychainCleanupConfirmation := do
  let confirmation ← onKeychain true PlatformKeychain.cleanup
  let self ← get
  releaseLock self.searchLock
  modify fun self => { self with searchLock := none }
  return confirmation

/-- A keychain is dropped, and then its fields. -/
def drop {σ : Type} (self : LockedKeychain) : WorkerM σ Unit := do
  during true self.keychain.drop
  releaseLock self.searchLock

end LockedKeychain

/-- RAII guard for one imported signing identity and its isolated keychain. -/
structure KeychainGuard where
  inner : LockedKeychain
  identityEvidence : KeychainIdentityEvidence

namespace KeychainGuard

def create {σ : Type} (parsers : OutputParsers) (workerRoot signingRoot : Path)
    (input : SigningKeychainInput) : WorkerM σ KeychainGuard := do
  let (workerRoot, root) ← during false (prepareRoots workerRoot signingRoot)
  let jobDir ← during false (createUniqueJobDirectory parsers root 8)
  let jobIdentity ← during false (directoryIdentity jobDir)
  let (out, inner) ← runOn ⟨.mk root jobDir jobIdentity [] false false true, none⟩
    (LockedKeychain.populate parsers workerRoot input)
  match out with
  | .ok evidence => pure ⟨inner, evidence⟩
  | .error e => do
    inner.drop
    fail e

/-- `cleanup(self)`: what is left of the guard is dropped. -/
def cleanup {σ : Type} (self : KeychainGuard) : WorkerM σ KeychainCleanupConfirmation := do
  let (out, inner) ← runOn self.inner LockedKeychain.cleanup
  inner.drop
  ofExcept out

end KeychainGuard

/-! ## Garbage collection -/

/-- Result of one conservative startup garbage-collection pass. -/
structure KeychainGarbageCollection where
  removedJobs : Nat
  skippedJobs : Nat
  removedSearchListEntries : Nat

section

variable {σ : Type}

/-- The keychain of a stale job is deleted by its tool if it is there. -/
def deleteStaleKeychain (keychain : Path) : EngineM σ Bool := do
  let regular ← isRegularFile keychain
  if regular then succeeds (runCommand (.deleteKeychain keychain)) else pure true

/-- Whether a stale job was removed. -/
def removeStaleJob (root : Path) (job : StaleJob) : EngineM σ Bool := do
  let keychainDeleted ← deleteStaleKeychain job.keychainPath
  let p12Removed ← succeeds (removeRegularFile (job.directory ++ [p12File]))
  let pemRemoved ← andThen p12Removed (succeeds (removeRegularFile (job.directory ++ [pemFile])))
  let keychainRemoved ← andThen pemRemoved (succeeds (removeRegularFile job.keychainPath))
  let filesRemoved ← andThen keychainRemoved
    (succeeds (removeRegularFile (job.directory ++ [ownerMarker])))
  let directoryRemoved ← removeAndConfirm filesRemoved
    (removeOwnedJobDirectory root job.directory) job.directory
  return keychainDeleted && directoryRemoved

def removeStaleJobs (root : Path) :
    List StaleJob → KeychainGarbageCollection → EngineM σ KeychainGarbageCollection
  | [], report => pure report
  | job :: jobs, report => do
    let removed ← andThen job.safeToRemove (removeStaleJob root job)
    removeStaleJobs root jobs (
      if removed then { report with removedJobs := report.removedJobs + 1 }
      else { report with skippedJobs := report.skippedJobs + 1 })

/-- The search list is set when entries are removed. -/
def retainSearchList (current retained : List Path) : EngineM σ Unit :=
  if current.length - retained.length > 0 then setSearchList retained else pure ()

/-- The keychains of the stale jobs are taken off the search list, and the jobs removed. -/
def collectPlanned (parsers : OutputParsers) (root : Path) (jobs : List StaleJob) :
    EngineM σ KeychainGarbageCollection := do
  let current ← querySearchList parsers
  let stale := (jobs.filter (·.safeToRemove)).map StaleJob.keychainPath
  let retained := current.filter fun path => !stale.contains path
  retainSearchList current retained
  removeStaleJobs root jobs ⟨0, 0, current.length - retained.length⟩

/-- The collection under the lock. -/
def collectStaleJobs (parsers : OutputParsers) (root : Path) :
    WorkerM σ KeychainGarbageCollection := do
  let planned ← perform (.planStaleJobs root)
  let jobs ← ofExcept planned
  if jobs.isEmpty then pure ⟨0, 0, 0⟩ else during false (collectPlanned parsers root jobs)

def garbageCollect (parsers : OutputParsers) (workerRoot signingRoot : Path) :
    WorkerM σ KeychainGarbageCollection := do
  let (workerRoot, root) ← during false (prepareRoots workerRoot signingRoot)
  let lock ← acquireLock workerRoot
  let out ← attempt (collectStaleJobs parsers root)
  releaseLock (some lock)
  ofExcept out

end

/-! ## Calls -/

/-- A call of a worker: a keychain is created, held, and then cleaned up or dropped; or stale
keychains are collected. -/
inductive KeychainCall where
  | sign (signingRoot : Path) (input : SigningKeychainInput)
  | collect (signingRoot : Path)

inductive CallOutcome where
  | signed (result : Except KeychainError (Option KeychainCleanupConfirmation))
  | collected (result : Except KeychainError KeychainGarbageCollection)

/-- The keychain is cleaned up, or it is dropped and nothing is confirmed. -/
def finish (guard : KeychainGuard) (explicit : Bool) :
    WorkerM Unit (Option KeychainCleanupConfirmation) :=
  if explicit then do
    let confirmation ← guard.cleanup
    return some confirmation
  else do
    guard.inner.drop
    return none

def signingSession (parsers : OutputParsers) (workerRoot signingRoot : Path)
    (input : SigningKeychainInput) : WorkerM Unit (Option KeychainCleanupConfirmation) := do
  let guard ← KeychainGuard.create parsers workerRoot signingRoot input
  let explicit ← perform (.hold guard.inner.keychain.keychainPath)
  finish guard explicit

def KeychainCall.program (parsers : OutputParsers) (workerRoot : Path) :
    KeychainCall → Prog WorkerOp WorkerRes CallOutcome
  | .sign signingRoot input =>
    (signingSession parsers workerRoot signingRoot input ()).bind fun out => .ret (.signed out.1)
  | .collect signingRoot =>
    (garbageCollect parsers workerRoot signingRoot ()).bind fun out => .ret (.collected out.1)

/-! ## The user -/

/-- What the workers share: the user's search list, and who holds each lock file. -/
structure UserState (ι : Type) where
  searchList : List Path
  holder : Path → Option ι

/-- What the workers of one user have in common: the tools, and the worker root, which every process
running as the worker user shares and which always has the same canonical path. -/
structure Workers where
  parsers : OutputParsers
  workerRoot : Path
  canonicalRoot : Path

/-- The effect of a command on the search list. A command may fail, also after its effect; the
restoration of the list does not. -/
def Workers.CommandEffect (self : Workers) (restoring : Bool) (command : Command)
    (before : List Path) (answer : ToolAnswer (Except CommandFailure (List UInt8))) : Prop :=
  match command with
  | .querySearchList => answer.searchList = before ∧
    ∀ output paths, answer.result = .ok output → self.parsers.parseSearchList output = .ok paths →
      paths = before
  | .setSearchList paths =>
    if restoring then answer.result.isOk = true ∧ answer.searchList = paths
    else (answer.result.isOk = true → answer.searchList = paths) ∧
      (answer.searchList = paths ∨ answer.searchList = before)
  | .createKeychain keychain _ =>
    -- the tool may add the new keychain
    answer.searchList.filter (· != keychain) = before.filter (· != keychain)
  | .deleteKeychain keychain =>
    answer.searchList = before ∨ answer.searchList = before.filter (· != keychain)
  | _ => answer.searchList = before

/-- An operation of the engine. -/
def Workers.ToolEffect {ι : Type} [DecidableEq ι] (self : Workers) (restoring : Bool) (i : ι)
    (s : UserState ι) : (op : SignOp) → SignRes op → UserState ι → Prop
  | .run command, answer, s' => self.CommandEffect restoring command s.searchList answer ∧
    s' = { s with searchList := answer.searchList }
  | .lockExclusive path, answer, s' =>
    match answer with
    | .ok true => s.holder path = none ∧
      s' = { s with holder := Function.update s.holder path (some i) }
    | _ => s' = s
  | .canonicalize path, answer, s' =>
    (path = self.workerRoot → ∀ canonical, answer = .ok canonical →
      canonical = self.canonicalRoot) ∧ s' = s
  | _, _, s' => s' = s

/-- An operation of a call. -/
def Workers.Effect {ι : Type} [DecidableEq ι] (self : Workers) (i : ι) (s : UserState ι) :
    (op : WorkerOp) → WorkerRes op → UserState ι → Prop
  | .tool restoring op, answer, s' => self.ToolEffect restoring i s op answer s'
  | .unlock path, _, s' =>
    s' = if s.holder path = some i then
      { s with holder := Function.update s.holder path none } else s
  | .planStaleJobs _, _, s' | .hold _, _, s' => s' = s

/-- The workers of one user: any number of calls, on an initial search list. -/
def Workers.start {ι : Type} (self : Workers) (calls : ι → KeychainCall)
    (searchList : List Path) : SharedThreads ι WorkerOp WorkerRes CallOutcome (UserState ι) where
  threads i := (calls i).program self.parsers self.workerRoot
  shared := ⟨searchList, fun _ => none⟩

end SharedKeychain

end RustFerry.Worker
