import RustFerry.ForStd.Worklist
import RustFerry.Native.Signing

/-!
# Job roots and their cleanup

A job root is a private directory directly below the trusted worker root, with a marker that
binds it to its job. The command `cleanup` checks the binding and removes the job root
(`crates/rustferry-worker-macos/src/main.rs`).

The tree below a job root is a value; the keychain tool, the codec of the marker and what the
system leaves of a directory that it cannot remove are parameters.
-/

namespace RustFerry.Worker

open Except

/-! ## Files -/

/-- What the checks read of the metadata of a file or directory. -/
structure FileMetadata where
  uid : Nat
  mode : Nat
  links : Nat

/-- A file, a symbolic link, or a directory with its entries in the order of `read_dir`. -/
inductive TreeNode where
  | file (metadata : FileMetadata) (content : List UInt8)
  | symlink
  | directory (metadata : FileMetadata) (entries : List (String × TreeNode))

abbrev Entries : Type := List (String × TreeNode)

namespace FileMetadata

/-- Nobody but the owner has any access. -/
def isPrivate (self : FileMetadata) : Bool := self.mode &&& 0o077 == 0

def isReadable (self : FileMetadata) : Bool := self.mode &&& 0o400 != 0
def isWritable (self : FileMetadata) : Bool := self.mode &&& 0o200 != 0
def isSearchable (self : FileMetadata) : Bool := self.mode &&& 0o100 != 0

end FileMetadata

/-- The entries of the directory can be read and inspected by its owner. -/
def isListable (metadata : FileMetadata) (entries : Entries) : Bool :=
  metadata.isReadable && (entries.isEmpty || metadata.isSearchable)

mutual

/-- The owner can remove the node with everything in it. -/
def TreeNode.isRemovable : TreeNode → Bool
  | .file .. | .symlink => true
  | .directory metadata entries =>
    isListable metadata entries && (entries.isEmpty || metadata.isWritable) &&
      areRemovable entries

def areRemovable : Entries → Bool
  | [] => true
  | (_, node) :: entries => node.isRemovable && areRemovable entries

end

/-! ## Failures -/

inductive CliFailureKind where
  | input
  | execution
  | cleanup
  deriving DecidableEq

structure CliFailure where
  kind : CliFailureKind
  code : String
  message : String
  deriving DecidableEq

def CliFailure.input (code message : String) : CliFailure := ⟨.input, code, message⟩
def CliFailure.execution (code message : String) : CliFailure := ⟨.execution, code, message⟩
def CliFailure.cleanup (code message : String) : CliFailure := ⟨.cleanup, code, message⟩

/-! ## Job roots -/

def cliSchemaVersion : Nat := 1
def jobMarkerName : String := ".rustferry-worker-job-v1.json"
def maxMarkerBytes : Nat := 16 * 1024

inductive JobPhase where
  | compile
  | sign
  deriving DecidableEq

structure JobMarker where
  schemaVersion : Nat
  owner : String
  jobName : String
  phase : JobPhase
  operationId : String

/-- The encoding of the marker, and its strict decoding. -/
structure MarkerCodec where
  toVecPretty : JobMarker → List UInt8
  decodeStrictJson : List UInt8 → Option JobMarker

/-- What the worker uses of the system. -/
structure CleanupHost where
  uid : Nat
  codec : MarkerCodec
  /-- whether `garbage_collect_stale_keychains` succeeds, and what it leaves below the job root -/
  garbageCollectStaleKeychains : Entries → Bool × Entries
  /-- what is left of a directory that cannot be removed completely -/
  leftover : TreeNode → TreeNode

/-- The trusted worker root, a canonical directory that others cannot write. -/
structure WorkerRoot where
  path : List String
  metadata : FileMetadata
  children : Entries
  trusted : path ≠ [] ∧ metadata.mode &&& 0o022 = 0

def JobPhase.jobPrefix : Option JobPhase → String
  | some .compile => "rustferry-compile-"
  | some .sign => "rustferry-sign-"
  | none => "rustferry-"

def isJobNameChar (c : Char) : Bool := c.isLower || c.isDigit || c == '-'

def validateJobName (name : String) (phase : Option JobPhase) : Except CliFailure Unit :=
  let rest := (Text.stripFront (JobPhase.jobPrefix phase).toList name.toList).getD []
  rejectIf (name.utf8ByteSize > 128 || rest.isEmpty || !rest.all isJobNameChar ||
    !rest.head?.any Char.isAlphanum || !rest.getLast?.any Char.isAlphanum)
    (.input "invalid_job_root" "worker job root name is invalid")

def safeRefOperation (value : String) : Bool :=
  value != "" && value.utf8ByteSize ≤ 128 && value.toList.head? != some '.' &&
    value.toList.getLast? != some '.' && !".lock".toList.isSuffixOf value.toList &&
    !Remote.hasDotSequence value.toList &&
    value.toList.all fun c => c.isAlphanum || c == '-' || c == '_' || c == '.'

/-- The directory of the job root is real, private, and of the owner of the worker root. -/
def validatePrivateOwnedDirectory (root : WorkerRoot) :
    Option TreeNode → Except CliFailure (FileMetadata × Entries)
  | some (.directory metadata entries) => do
    rejectIf (metadata.uid != root.metadata.uid || !metadata.isPrivate)
      (.input "unsafe_job_root" "worker job root must be privately owned")
    return (metadata, entries)
  | some _ => .error (.input "invalid_job_root" "worker job root must be a real directory")
  | none => .error (.input "invalid_job_root" "worker job root could not be inspected")

/-! ## Creation -/

/-- `normalized_new_directory_path`: the name is new below the canonical parent. -/
def normalizedNewName (root : WorkerRoot) (parent : List String) (name : String) :
    Except CliFailure Unit := do
  rejectIf (parent == root.path && (root.children.lookup name).isSome)
    (.input "output_exists" "worker output path already exists")
  rejectIf (name == "" || name == "." || name == ".." || name.utf8ByteSize > 255)
    (.input "invalid_output_path" "worker output name is invalid")

def validateNewWorkerChild (root : WorkerRoot) (parent : List String) : Except CliFailure Unit :=
  rejectIf (parent != root.path)
    (.input "outside_worker_root" "worker path must be a direct child of the trusted worker root")

def jobMarker (name : String) (phase : JobPhase) (operationId : String) : JobMarker where
  schemaVersion := cliSchemaVersion
  owner := "rustferry-worker-macos"
  jobName := name
  phase := phase
  operationId := operationId

/-- The directory that `create_private_directory` creates. -/
def privateDirectory (host : CleanupHost) (entries : Entries) : TreeNode :=
  .directory ⟨host.uid, 0o700, 2⟩ entries

/-- The file that `atomic_write_new` publishes. -/
def privateFile (host : CleanupHost) (content : List UInt8) : TreeNode :=
  .file ⟨host.uid, 0o600, 1⟩ content

/-- Create a job root with its marker; the parent of the supplied path is canonical. -/
def createJobRoot (host : CleanupHost) (root : WorkerRoot) (parent : List String) (name : String)
    (phase : JobPhase) (operationId environmentId : Option String) :
    Except CliFailure WorkerRoot := do
  normalizedNewName root parent name
  validateJobName name (some phase)
  validateNewWorkerChild root parent
  let operationId := (operationId.or environmentId).getD "host-operation"
  rejectIf (!safeRefOperation operationId)
    (.input "invalid_operation_id" "worker operation identifier is invalid")
  let _ ← validatePrivateOwnedDirectory root (some (privateDirectory host []))
  let marker := privateFile host (host.codec.toVecPretty (jobMarker name phase operationId))
  return { root with
    children := (name, privateDirectory host [(jobMarkerName, marker)]) :: root.children }

/-! ## Validation -/

/-- The marker is a private file of the owner of the job root, with one link; its bytes are
    read within their bound. -/
def readPrivateMarker (metadata : FileMetadata) :
    Option TreeNode → Except CliFailure (List UInt8)
  | some (.file marker content) => do
    rejectIf (marker.uid != metadata.uid || marker.links != 1 || !marker.isPrivate)
      (.cleanup "cleanup_marker_invalid" "worker cleanup marker is invalid")
    rejectIf (content.length > maxMarkerBytes)
      (.input "invalid_file" "required file violates its size or type bound")
    rejectIf (!marker.isReadable) (.input "invalid_file" "required file could not be opened")
    return content
  | some .symlink =>
    .error (.input "symlink_rejected" "worker input path contains a symbolic link")
  | some (.directory ..) =>
    .error (.input "invalid_file" "required file is not a real regular file")
  | none => .error (.input "invalid_file" "required file is unavailable")

def decodeMarker (host : CleanupHost) (content : List UInt8) : Except CliFailure JobMarker :=
  match host.codec.decodeStrictJson content with
  | some marker => .ok marker
  | none => .error (.input "invalid_json" "bounded JSON document is invalid")

/-- The entry of a directory that can be searched. -/
def lookupEntry (metadata : FileMetadata) (entries : Entries) (name : String) : Option TreeNode :=
  if metadata.isSearchable then entries.lookup name else none

/-- The marker is the one that `create_job_root` wrote for a job of this name. -/
def isMarkerOf (name : String) (marker : JobMarker) : Bool :=
  marker.schemaVersion == cliSchemaVersion && marker.owner == "rustferry-worker-macos" &&
    marker.jobName == name && safeRefOperation marker.operationId &&
    (validateJobName name (some marker.phase)).toBool

/-- A job root that is bound to its marker. -/
structure OwnedJobRoot where
  name : String
  metadata : FileMetadata
  entries : Entries
  marker : JobMarker

/-- The supplied path is what `canonical_real_directory` makes of it. -/
def validateOwnedJobRoot (host : CleanupHost) (root : WorkerRoot)
    (supplied : Except CliFailure (List String)) : Except CliFailure OwnedJobRoot := do
  let canonical ← supplied
  let name := canonical.getLast?.getD ""
  validateJobName name none
  rejectIf (canonical.dropLast != root.path)
    (.cleanup "outside_worker_root" "worker job root is not directly below the trusted root")
  let (metadata, entries) ← validatePrivateOwnedDirectory root (root.children.lookup name)
  let content ← readPrivateMarker metadata (lookupEntry metadata entries jobMarkerName)
  let marker ← decodeMarker host content
  rejectIf (!isMarkerOf name marker)
    (.cleanup "cleanup_marker_invalid" "worker cleanup marker is invalid")
  return { name, metadata, entries, marker }

/-! ## Inventory -/

def maxWalkDepth : Nat := 16
def maxWalkCount : Nat := 100000

/-- A directory on the stack, with its depth below the job root. -/
structure WalkItem where
  metadata : FileMetadata
  entries : Entries
  depth : Nat

/-- The directories among the entries. -/
def subdirectories (depth : Nat) : Entries → List WalkItem
  | [] => []
  | (_, .directory metadata entries) :: rest =>
    ⟨metadata, entries, depth⟩ :: subdirectories depth rest
  | _ :: rest => subdirectories depth rest

/-- One turn of `walk_bounded`: the entries are visited, and the last directory among them is
    on top of the stack. -/
def walkStep (visited : Entries) (item : WalkItem) :
    Except CliFailure (Entries × List WalkItem) := do
  -- the bound is looked at when a directory is popped
  rejectIf (item.depth > maxWalkDepth || visited.length > maxWalkCount)
    (.cleanup "cleanup_inventory_exceeded" "worker cleanup inventory exceeded its bound")
  rejectIf (!isListable item.metadata item.entries)
    (.cleanup "cleanup_inventory_failed" "worker cleanup inventory failed")
  return (visited ++ item.entries, (subdirectories (item.depth + 1) item.entries).reverse)

mutual

/-- The number of entries in the node and below. -/
def TreeNode.count : TreeNode → Nat
  | .file .. | .symlink => 0
  | .directory _ entries => countEntries entries

def countEntries : Entries → Nat
  | [] => 0
  | (_, node) :: entries => 1 + node.count + countEntries entries

end

/-- The entries that `walk_bounded` visits; each directory but the first is one of them. -/
def walkBounded (metadata : FileMetadata) (entries : Entries) : Except CliFailure Entries :=
  Worklist.drain
    (.cleanup "cleanup_inventory_exceeded" "worker cleanup inventory exceeded its bound")
    walkStep (countEntries entries + 1) [⟨metadata, entries, 0⟩] []

def isKeychainRoot (name : String) : Bool :=
  "rustferry-signing-v1-".toList.isPrefixOf name.toList

def isOwnedSigningMaterial (name : String) : Bool :=
  isKeychainRoot name || name == ".rustferry-signing-owner-v1" || name == "certificate.p12" ||
    name == "certificate.pem" || name == "signing.keychain-db"

def TreeNode.isDirectory : TreeNode → Bool
  | .directory .. => true
  | _ => false

def hasKeychainRoots (visited : Entries) : Bool :=
  visited.any fun (name, node) => node.isDirectory && isKeychainRoot name

/-- The stale keychains are collected when there are any. -/
def garbageCollect (host : CleanupHost) (entries visited : Entries) :
    Except CliFailure Unit × Entries :=
  if hasKeychainRoots visited then
    let (collected, entries) := host.garbageCollectStaleKeychains entries
    (rejectIf (!collected)
      (.cleanup "keychain_cleanup_failed" "worker keychain garbage collection failed"), entries)
  else (.ok (), entries)

/-- What is below the job root after `cleanup_stale_keychains_below`. -/
def cleanupStaleKeychainsBelow (host : CleanupHost) (metadata : FileMetadata) (entries : Entries) :
    Except CliFailure Unit × Entries :=
  match walkBounded metadata entries with
  | .error failure => (.error failure, entries)
  | .ok visited => garbageCollect host entries visited

def rejectSigningMaterial (metadata : FileMetadata) (entries : Entries) :
    Except CliFailure Unit := do
  let visited ← walkBounded metadata entries
  rejectIf (visited.any fun (name, _) => isOwnedSigningMaterial name)
    (.cleanup "signing_cleanup_incomplete" "worker-owned signing material remains active")

/-! ## Cleanup -/

/-- The worker root with another tree below the job root. -/
def WorkerRoot.replace (self : WorkerRoot) (name : String) (node : TreeNode) : WorkerRoot :=
  { self with children := self.children.map fun child =>
      if child.1 = name then (name, node) else child }

def WorkerRoot.without (self : WorkerRoot) (name : String) : WorkerRoot :=
  { self with children := self.children.filter fun child => child.1 ≠ name }

/-- `fs::remove_dir_all`, and the confirmation that the job root is gone. -/
def removeDirAll (host : CleanupHost) (root : WorkerRoot) (job : OwnedJobRoot)
    (entries : Entries) : Except CliFailure JobPhase × WorkerRoot :=
  let node := TreeNode.directory job.metadata entries
  if node.isRemovable then (.ok job.marker.phase, root.without job.name)
  else (.error (.cleanup "job_cleanup_failed" "worker job root could not be removed"),
    root.replace job.name (host.leftover node))

/-- The inventory of a job root of the sign phase: what is below it after the stale keychains
    are gone, and whether it may be removed. -/
def inventoryOwnedJobRoot (host : CleanupHost) (job : OwnedJobRoot) :
    Except CliFailure Unit × Entries :=
  let (collected, entries) := cleanupStaleKeychainsBelow host job.metadata job.entries
  (collected *> rejectSigningMaterial job.metadata entries, entries)

/-- Only a job root of the sign phase is searched for signing material. -/
def removeOwnedJobRoot (host : CleanupHost) (root : WorkerRoot) (job : OwnedJobRoot) :
    Except CliFailure JobPhase × WorkerRoot :=
  if job.marker.phase = .sign then
    match inventoryOwnedJobRoot host job with
    | (.error failure, entries) =>
      (.error failure, root.replace job.name (.directory job.metadata entries))
    | (.ok (), entries) => removeDirAll host root job entries
  else removeDirAll host root job job.entries

/-- The command `cleanup`: the phase of the removed job root, and what is below the worker root
    afterwards. -/
def runCleanupCommand (host : CleanupHost) (root : WorkerRoot) (requireComplete : Bool)
    (supplied : Except CliFailure (List String)) : Except CliFailure JobPhase × WorkerRoot :=
  if !requireComplete then
    (.error (.input "cleanup_confirmation_required" "cleanup requires --require-complete"), root)
  else match validateOwnedJobRoot host root supplied with
    | .error failure => (.error failure, root)
    | .ok job => removeOwnedJobRoot host root job

end RustFerry.Worker
