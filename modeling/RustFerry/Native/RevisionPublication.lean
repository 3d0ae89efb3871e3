import RustFerry.ForStd.Prog
import RustFerry.Native.RevisionStore

/-!
# Publication of a revision file on Unix

`cargo-ferry/src/job_store.rs`: `publish_create_only_platform`,
`publish_revision_with_reconciliation` and `recover_revision_staging` as programs over the
system calls they make. A call is answered by the directory, or it fails; the store holds
the exclusive lock of the job, so that nobody else changes the directory. All entries are
private regular files. The three functions that only read revisions, a scan, one revision
and a predecessor, are one call each, which fails when a system call inside them does.
A crash stops the program between two calls, or inside one that fails; what a call has done
stays done.
-/

namespace RustFerry.JobStore

open Except ProgM

/-! ## Directories with links -/

/-- One name of a directory and the file that it links to. -/
structure DirectoryLink where
  name : String
  inode : Nat

/-- A directory whose names link to files; no name occurs twice, and the files that it names
    were created before. -/
structure UnixDirectory where
  owner : LocalJobId
  entries : List DirectoryLink
  contents : Nat → List UInt8
  nextInode : Nat
  distinct : (entries.map (·.name)).Nodup
  used : ∀ entry ∈ entries, entry.inode < nextInode

namespace UnixDirectory

/-- The file that a name links to. -/
def inodeOf (directory : UnixDirectory) (name : String) : Option Nat :=
  (directory.entries.find? fun entry => entry.name == name).map (·.inode)

/-- The number of names of a file. -/
def links (directory : UnixDirectory) (inode : Nat) : Nat :=
  directory.entries.countP fun entry => entry.inode == inode

/-- The files of the directory with their contents. -/
def revisions (directory : UnixDirectory) : RevisionDirectory where
  owner := directory.owner
  files := directory.entries.map fun entry => ⟨entry.name, directory.contents entry.inode⟩
  distinct := by
    rw [List.map_map]
    exact directory.distinct

/-- A new name of a file. -/
def addLink (directory : UnixDirectory) (name : String) (inode : Nat) : UnixDirectory :=
  if h : name ∉ directory.entries.map (·.name) ∧ inode < directory.nextInode then {
    directory with
    entries := directory.entries ++ [⟨name, inode⟩]
    distinct := by
      rw [List.map_append, List.map_singleton]
      apply List.nodup_append.mpr
      refine ⟨directory.distinct, List.nodup_singleton _, ?_⟩
      intro a ha b hb heq
      rw [heq, List.mem_singleton.mp hb] at ha
      exact h.1 ha
    used := by
      intro entry hmem
      cases List.mem_append.mp hmem with
      | inl hold => exact directory.used entry hold
      | inr hnew =>
        rw [List.mem_singleton.mp hnew]
        exact h.2 }
  else directory

/-- A new empty file. -/
def create (directory : UnixDirectory) (name : String) : UnixDirectory :=
  addLink { directory with
    contents := Function.update directory.contents directory.nextInode []
    nextInode := directory.nextInode + 1
    used := fun entry hmem => Nat.lt_succ_of_lt (directory.used entry hmem) }
    name directory.nextInode

def write (directory : UnixDirectory) (inode : Nat) (bytes : List UInt8) : UnixDirectory :=
  { directory with contents := Function.update directory.contents inode bytes }

/-- One name less. -/
def unlink (directory : UnixDirectory) (name : String) : UnixDirectory :=
  { directory with
    entries := directory.entries.filter fun entry => entry.name != name
    distinct := directory.distinct.sublist (List.filter_sublist.map _)
    used := fun entry hmem => directory.used entry (List.mem_of_mem_filter hmem) }

/-- One entry in the loop of `scan_revision_files`: the file has no other name. -/
def scanEntry (directory : UnixDirectory) (entry : DirectoryLink) (index : Nat) :
    StoreResult RevisionEntry := do
  rejectIf (index + 1 > maxRevisionsPerJob * 2)
    (.boundExceeded "revision directory entries" (maxRevisionsPerJob * 2))
  rejectIf (isRevisionStagingName entry.name)
    (.recoveryRequired "a staging entry remains after exclusive recovery")
  let (revision, sha256) ← parseRevisionFilename entry.name
  rejectIf (directory.links entry.inode != 1) (.security "verify Unix private file")
  rejectIf ((directory.contents entry.inode).length > maxJobRevisionBytes)
    (.boundExceeded "job revision bytes" maxJobRevisionBytes)
  return ⟨revision, sha256, entry.name⟩

def scanRevisionFiles (tools : StoreTools) (directory : UnixDirectory) :
    StoreResult (List RevisionEntry) := do
  let revisions ← directory.entries.zipIdx.mapM fun (entry, index) =>
    directory.scanEntry entry index
  validateScannedRevisionChain tools directory.revisions revisions

/-- `read_decoded_revision`: the file of the revision has no other name. -/
def readDecodedRevision (tools : StoreTools) (directory : UnixDirectory)
    (entry : RevisionEntry) : StoreResult DecodedRevision := do
  let previous ← previousRevisionSha256 directory.revisions entry.revision
  rejectIf ((directory.inodeOf entry.name).any fun inode => directory.links inode != 1)
    (.security "verify Unix private file")
  readDecodedRevisionWithPrevious tools directory.revisions entry previous

end UnixDirectory

/-! ## System calls -/

inductive FileCall where
  /-- `OpenOptions::create_new`. -/
  | createNew (name : String)
  /-- `write_all` and `sync_all`. -/
  | writeAll (file : Nat) (bytes : List UInt8)
  | syncAll (file : Nat)
  | metadata (file : Nat)
  | symlinkMetadata (name : String)
  /-- `File::try_clone`. -/
  | tryClone (file : Nat)
  /-- `same_file::Handle::from_file`. -/
  | fromFile (file : Nat)
  /-- `same_file::Handle::from_path`. -/
  | fromPath (name : String)
  | hardLink (source target : String)
  | removeFile (name : String)
  | openFile (name : String)
  | readToEnd (file : Nat)
  | readDir
  | syncDirectory
  | scanRevisionFiles
  | readDecodedRevision (entry : RevisionEntry)
  | previousRevisionSha256 (revision : Nat)
  deriving DecidableEq

structure FileMetadata where
  length : Nat
  nlink : Nat

/-- The value of a call that succeeds. -/
@[reducible] def FileValue : FileCall → Type
  | .createNew _ | .symlinkMetadata _ | .fromFile _ | .fromPath _ | .openFile _ => Nat
  | .metadata _ => FileMetadata
  | .readToEnd _ => List UInt8
  | .readDir => List String
  | .writeAll _ _ | .syncAll _ | .tryClone _ | .hardLink _ _ | .removeFile _
  | .syncDirectory => Unit
  | .scanRevisionFiles => StoreResult (List RevisionEntry)
  | .readDecodedRevision _ => StoreResult DecodedRevision
  | .previousRevisionSha256 _ => StoreResult (Option String)

/-- A failed call: in a reading function the system call that failed, in a write the number of
    bytes that were written. -/
structure CallFailure where
  operation : String
  written : Nat

@[reducible] def FileAnswer (call : FileCall) : Type := Except CallFailure (FileValue call)

/-- The value, or the failure of a call on a name that does not fit. -/
def orRefused {α : Type} (value : Option α) : Except CallFailure α :=
  match value with
  | some a => .ok a
  | none => .error ⟨"", 0⟩

namespace UnixDirectory

/-- What the directory answers. -/
def answer (tools : StoreTools) (directory : UnixDirectory) : (call : FileCall) → FileAnswer call
  | .createNew name =>
    orRefused (if (directory.inodeOf name).isSome then none else some directory.nextInode)
  | .writeAll _ _ | .syncAll _ | .tryClone _ | .syncDirectory => .ok ()
  | .metadata file => .ok ⟨(directory.contents file).length, directory.links file⟩
  | .symlinkMetadata name | .fromPath name | .openFile name => orRefused (directory.inodeOf name)
  | .fromFile file => .ok file
  -- the link is made only under a free name
  | .hardLink source target =>
    orRefused (if (directory.inodeOf source).isSome && (directory.inodeOf target).isNone
      then some () else none)
  | .removeFile name => orRefused ((directory.inodeOf name).map fun _ => ())
  | .readToEnd file => .ok (directory.contents file)
  | .readDir => .ok (directory.entries.map (·.name))
  | .scanRevisionFiles => .ok (directory.scanRevisionFiles tools)
  | .readDecodedRevision entry => .ok (directory.readDecodedRevision tools entry)
  | .previousRevisionSha256 revision =>
    .ok (previousRevisionSha256 directory.revisions revision)

/-- The directory after a call that succeeds. -/
def afterCall (directory : UnixDirectory) : FileCall → UnixDirectory
  | .createNew name => directory.create name
  | .writeAll file bytes => directory.write file bytes
  | .hardLink source target =>
    match directory.inodeOf source with
    | some inode => directory.addLink target inode
    | none => directory
  | .removeFile name => directory.unlink name
  | _ => directory

/-- The directory after a call that fails: only a write changes something. -/
def afterFailure (directory : UnixDirectory) (call : FileCall) (failure : CallFailure) :
    UnixDirectory :=
  match call with
  | .writeAll file bytes => directory.write file (bytes.take failure.written)
  | _ => directory

def after (directory : UnixDirectory) (call : FileCall) : FileAnswer call → UnixDirectory
  | .ok _ => directory.afterCall call
  | .error failure => directory.afterFailure call failure

end UnixDirectory

abbrev FileM := ProgM FileCall FileAnswer Unit JobStoreError

/-- A system call, and the error when it fails. -/
def callOr (call : FileCall) (error : CallFailure → JobStoreError) : FileM (FileValue call) :=
  perform call >>= fun answer => ofExcept (answer.mapError error)

/-- A system call whose failure is reported as such. -/
def callIo (call : FileCall) (operation : String) : FileM (FileValue call) :=
  callOr call fun _ => .io operation

/-- A call that reads revisions. -/
def callRead {α : Type} (read : FileM (StoreResult α)) : FileM α := read >>= ofExcept

/-- The failure inside a reading function. -/
def readFailure (failure : CallFailure) : JobStoreError := .io failure.operation

/-! ## Verification -/

def verifyUnixPrivateFile (file : Nat) (path : String) (expectedLinks : Nat) : FileM Unit := do
  let metadata ← callIo (.metadata file) "inspect open private file"
  let linked ← callIo (.symlinkMetadata path) "inspect linked private file"
  ensure (metadata.nlink == expectedLinks && linked == file) (.security "verify Unix private file")

def verifyFileIdentity (file : Nat) (path : String) : FileM Unit := do
  callIo (.tryClone file) "clone private file handle"
  let opened ← callIo (.fromFile file) "identify open private file"
  let linked ← callIo (.fromPath path) "identify linked private file"
  ensure (opened == linked) (.security "verify private file identity")

def openPrivateRevisionFile (path : String) : FileM Nat := do
  let file ← callIo (.openFile path) "open private job revision"
  verifyUnixPrivateFile file path 1
  pure file

/-! ## Publication -/

def removeOwnedUnixStaging (file : Nat) (path : String) : FileM Unit := do
  verifyUnixPrivateFile file path 1
  callIo (.removeFile path) "remove unpublished revision staging file"

/-- Remove the staging file, and fail with the original error. -/
def failUnpublishedUnixStaging {α : Type} (file : Nat) (path : String) (original : JobStoreError) :
    FileM α := do
  (removeOwnedUnixStaging file path).mapError fun _ =>
    .recoveryRequired "an unpublished Unix staging file could not be safely removed"
  fail original

/-- The part of the publication before its final name exists. -/
def stageRevision (staging finalName : String) (bytes : List UInt8) : FileM Nat := do
  let file ← callIo (.createNew staging) "create private revision staging file"
  (callIo (.writeAll file bytes) "write private revision staging file").handle
    (failUnpublishedUnixStaging file staging)
  (verifyUnixPrivateFile file staging 1).mapError fun _ =>
    .recoveryRequired "an unpublished Unix staging file violates the private-file policy"
  (callIo (.hardLink staging finalName) "publish immutable revision without overwrite").handle
    (failUnpublishedUnixStaging file staging)
  pure file

/-- The part of the publication after its final name exists. -/
def finishRevision (file : Nat) (staging finalName : String) (bytes : List UInt8) :
    FileM Unit := do
  (verifyUnixPrivateFile file staging 2).mapError fun _ =>
    .commitUncertain "published Unix file did not retain the exact two-link state"
  (verifyFileIdentity file finalName).mapError fun _ =>
    .commitUncertain "published Unix path differs from the staged file"
  callOr (.syncAll file) fun _ =>
    .commitUncertain "published Unix revision metadata could not be flushed"
  -- from here on the revision has its final name only
  callOr (.removeFile staging) fun _ =>
    .commitUncertain "published Unix file retains its staging link"
  let final ← (openPrivateRevisionFile finalName).mapError fun _ =>
    .commitUncertain "published Unix revision failed final private-file verification"
  let actual ← callOr (.readToEnd final) fun _ =>
    .commitUncertain "published Unix revision could not be reread"
  ensure (actual.take (maxJobRevisionBytes + 1) == bytes)
    (.commitUncertain "published Unix revision bytes changed")
  (verifyFileIdentity final finalName).mapError fun _ =>
    .commitUncertain "published Unix revision identity changed"
  -- a plain error, although the revision is published
  callIo .syncDirectory "sync revision directory"

/-- `staging` is the name with a fresh identifier. -/
def publishCreateOnlyPlatform (staging finalName : String) (bytes : List UInt8) : FileM Unit := do
  let file ← stageRevision staging finalName bytes
  finishRevision file staging finalName bytes

/-! ## Recovery -/

/-- The extension of a name is `tmp`. -/
def hasTmpExtension (name : String) : Bool :=
  (stripBack ".tmp".toList name.toList).any fun stem => stem != []

/-- One name in the loop of `revision_staging_paths`. -/
def stagingName (staging : List String) (name : String) (index : Nat) :
    StoreResult (List String) := do
  rejectIf (index + 1 > maxRevisionsPerJob * 2)
    (.boundExceeded "revision directory entries" (maxRevisionsPerJob * 2))
  if ".revision-".toList.isPrefixOf name.toList || hasTmpExtension name then do
    rejectIf (!isRevisionStagingName name)
      (.recoveryRequired "an unrecognized staging entry occupies the revisions directory")
    return staging ++ [name]
  else return staging

def revisionStagingPaths (names : List String) : StoreResult (List String) := do
  let staging ← names.zipIdx.foldlM (fun staging (name, index) => stagingName staging name index) []
  return staging.mergeSort fun a b => a ≤ b

def readRecoveryBytes (file : Nat) : FileM (List UInt8) := do
  let metadata ← callIo (.metadata file) "inspect recovery staging file"
  ensure (metadata.length ≤ maxJobRevisionBytes)
    (.recoveryRequired "a recovery staging file exceeds the revision bound")
  let content ← callIo (.readToEnd file) "read recovery staging file"
  let bytes := content.take (maxJobRevisionBytes + 1)
  ensure (bytes.length == metadata.length && bytes.length ≤ maxJobRevisionBytes)
    (.recoveryRequired "a recovery staging file changed while it was read")
  pure bytes

/-- A revision file that links to the staging file. -/
def matchFinalLink (staging : Nat) (found : Option RevisionEntry) (entry : RevisionEntry) :
    FileM (Option RevisionEntry) := do
  let _ ← callIo (.symlinkMetadata entry.name) "inspect recovery final link"
  let identity ← callIo (.fromPath entry.name) "identify recovery final link"
  if identity == staging then do
    ensure found.isNone
      (.recoveryRequired "a staging file has more than one candidate final link")
    pure (some entry)
  else pure found

/-- One name in the loop of `recovery_final_link`; other names are passed over. -/
def finalLinkStep (staging : Nat) (found : Option RevisionEntry) (name : String) (index : Nat) :
    FileM (Option RevisionEntry) := do
  ensure (index + 1 ≤ maxRevisionsPerJob * 2)
    (.boundExceeded "revision directory entries" (maxRevisionsPerJob * 2))
  match parseRevisionFilename name with
  | .error _ => pure found
  | .ok (revision, sha256) => matchFinalLink staging found ⟨revision, sha256, name⟩

def recoveryFinalLink (tools : StoreTools) (staging : Nat) (bytes : List UInt8) :
    FileM RevisionEntry := do
  callIo (.tryClone staging) "clone recovery staging handle"
  let identity ← callIo (.fromFile staging) "identify recovery staging handle"
  let names ← callIo .readDir "scan recovery final links"
  let found ← names.zipIdx.foldlM
    (fun found (name, index) => finalLinkStep identity found name index) none
  let entry ← ofOption
    (.recoveryRequired "a two-link staging file has no canonical final revision link") found
  ensure (tools.sha256 bytes == entry.sha256)
    (.recoveryRequired "a recovered final link does not bind its staged bytes")
  let previous ← (callRead (callOr (.previousRevisionSha256 entry.revision)
      readFailure)).mapError fun _ =>
    .recoveryRequired "a published recovery pair has no exact predecessor"
  ensure (decodeRevisionBytes tools bytes entry.revision previous).toBool
    (.recoveryRequired "a published recovery pair is not a canonical supported revision")
  pure entry

/-- A staging file whose final name exists. -/
def recoverPair (tools : StoreTools) (file : Nat) (path : String) : FileM Unit := do
  verifyUnixPrivateFile file path 2
  let bytes ← readRecoveryBytes file
  let finalLink ← recoveryFinalLink tools file bytes
  verifyUnixPrivateFile file path 2
  callOr (.removeFile path) fun _ =>
    .recoveryRequired "a recovered Unix staging link could not be removed"
  let _ ← callRead (callOr (.readDecodedRevision finalLink) readFailure)

/-- A staging file by its number of names. -/
def recoverLinks (tools : StoreTools) (file : Nat) (path : String) : Nat → FileM Unit
  | 1 => (removeOwnedUnixStaging file path).mapError fun _ =>
    .recoveryRequired "an unpublished Unix staging file could not be safely removed"
  | 2 => recoverPair tools file path
  | _ => fail (.recoveryRequired "a Unix staging entry has an unexpected hard-link count")

def recoverStaging (tools : StoreTools) (path : String) : FileM Unit := do
  let file ← callIo (.openFile path) "open Unix recovery staging file"
  let metadata ← callIo (.metadata file) "inspect Unix recovery staging file"
  recoverLinks tools file path metadata.nlink
  callIo .syncDirectory "sync revision directory"

def recoverRevisionStaging (tools : StoreTools) : FileM Unit := do
  let names ← callIo .readDir "read revisions for recovery"
  let paths ← ofExcept (revisionStagingPaths names)
  paths.foldlM (fun _ path => recoverStaging tools path) ()

/-! ## Reconciliation -/

/-- The revision that a chain ends with is the one that was published. -/
def reconcileLatest (latest : RevisionEntry) (finalName : String) (record : StoredJobV1)
    (bytes : List UInt8) (sha256 : String) (error : JobStoreError) : FileM Bool := do
  ensure (latest.revision == record.revision && latest.sha256 == sha256 &&
    latest.name == finalName) error
  let existing ← callRead (callOr (.readDecodedRevision latest) readFailure)
  ensure (existing.record = record && existing.schemaVersion = jobRevisionSchemaVersion &&
    existing.bytes == bytes) error
  callOr .syncDirectory fun _ => error
  pure true

/-- What follows an uncertain publication. -/
def reconcilePublication (tools : StoreTools) (finalName : String) (record : StoredJobV1)
    (bytes : List UInt8) (sha256 : String) (error : JobStoreError) : FileM Bool := do
  recoverRevisionStaging tools
  let revisions ← callRead (callOr .scanRevisionFiles readFailure)
  match revisions.getLast? with
  | none => fail error
  | some latest => reconcileLatest latest finalName record bytes sha256 error

def publishRevisionWithReconciliation (tools : StoreTools) (staging finalName : String)
    (record : StoredJobV1) (bytes : List UInt8) (sha256 : String) : FileM Bool :=
  (do publishCreateOnlyPlatform staging finalName bytes; pure false).handle fun error =>
    match error with
    | .commitUncertain reason =>
      reconcilePublication tools finalName record bytes sha256 (.commitUncertain reason)
    | error => fail error

end RustFerry.JobStore
