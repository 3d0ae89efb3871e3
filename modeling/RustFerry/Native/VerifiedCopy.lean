import RustFerry.ForStd.Prog
import RustFerry.ForStd.UnixPath
import RustFerry.Native.GithubResume

/-!
# Publication of a verified copy on Unix

`crates/rustferry-github/src/artifact_store.rs`: `atomic_verified_copy`, `ExactPublicationGuard` and
`remove_exact_published_file` as programs over the system calls they make, with
`RegularFileFilesystemIdentity::capture` of `rustferry-core`. Before each call another process may
place something at the destination or remove what is there. A call is answered by what the paths
name, or it fails and changes nothing.
-/

namespace RustFerry.ArtifactStore

open Except ProgM Remote Github

/-! ## Files -/

abbrev Path := List UnixPath.Component

inductive IoErrorKind where
  | notFound
  | alreadyExists
  | other (code : Nat)
  deriving DecidableEq

inductive GithubArtifactStoreError where
  | invalidCacheRoot
  | invalidSealedArchive
  | invalidDestination
  | io (kind : IoErrorKind)
  deriving DecidableEq

inductive FileType where
  | file
  | symlink
  | directory
  | other
  deriving DecidableEq

/-- Device and inode: of the file that the copy creates, or of another one. -/
inductive FileIdentity where
  | created
  | foreign (id : Nat)
  deriving DecidableEq

inductive ForeignKind where
  | file (nlink : Nat)
  | symlink (target : Path)
  | directory
  | other
  deriving DecidableEq

/-- Something that the copy did not create. -/
structure ForeignNode where
  id : Nat
  kind : ForeignKind
  deriving DecidableEq

/-- What a path names. -/
inductive Node where
  | created
  | foreign (node : ForeignNode)
  deriving DecidableEq

namespace Node

def fileType : Node → FileType
  | .created => .file
  | .foreign node =>
    match node.kind with
    | .file _ => .file
    | .symlink _ => .symlink
    | .directory => .directory
    | .other => .other

def identity : Node → FileIdentity
  | .created => .created
  | .foreign node => .foreign node.id

end Node

/-! ## System calls -/

inductive FileCall where
  /-- `TEMPORARY_FILE_SEQUENCE.fetch_add`. -/
  | nextSequence
  | symlinkMetadata (path : Path)
  | canonicalize (path : Path)
  /-- `OpenOptions::create_new`. -/
  | createNew (path : Path)
  /-- `File::open` of the source, and calls on its handle. -/
  | openSource (path : Path)
  | sourceMetadata
  | readSource
  /-- `write_all` and `sync_all` on the handle of the created file. -/
  | writeAll (bytes : List UInt8)
  | syncAll
  | hardLink (original link : Path)
  | removeFile (path : Path)
  /-- `File::try_clone` of that handle, and `same_file::Handle::from_file`. -/
  | tryClone
  | fromFile
  /-- `same_file::Handle::from_path`, which follows symbolic links. -/
  | fromPath (path : Path)
  /-- `open` with `O_NOFOLLOW`, and the metadata of the handle. -/
  | openNoFollow (path : Path)
  | metadata (file : FileIdentity)

structure SourceMetadata where
  isFile : Bool
  len : UInt64

structure FileMetadata where
  isFile : Bool
  nlink : Nat
  identity : FileIdentity

@[reducible] def FileValue : FileCall → Type
  | .nextSequence => UInt64
  | .symlinkMetadata _ => Except IoErrorKind FileType
  | .canonicalize _ => Except IoErrorKind Path
  | .sourceMetadata => Except IoErrorKind SourceMetadata
  | .readSource => Except IoErrorKind (List UInt8)
  | .fromFile | .fromPath _ | .openNoFollow _ => Except IoErrorKind FileIdentity
  | .metadata _ => Except IoErrorKind FileMetadata
  | .createNew _ | .openSource _ | .writeAll _ | .syncAll | .hardLink _ _ | .removeFile _
  | .tryClone => Except IoErrorKind Unit

/-- What another process does at the destination before a call. -/
inductive Interference where
  | nothing
  | removes
  | places (node : ForeignNode)

@[reducible] def FileAnswer (call : FileCall) : Type := Interference × FileValue call

/-- A computation of the store. Its state is what `remove_exact_published_file` has returned so far;
the program does not read it. -/
abbrev StoreM := ProgM FileCall FileAnswer (List (Except GithubArtifactStoreError Unit))

def call {ε : Type} (call : FileCall) : StoreM ε (FileValue call) :=
  perform call >>= fun answer => pure answer.2

/-- A system call whose failure is returned. -/
def io {α : Type} (call : StoreM GithubArtifactStoreError (Except IoErrorKind α)) :
    StoreM GithubArtifactStoreError α :=
  call >>= fun value => ofExcept (value.mapError .io)

/-! ## Identities -/

/-- A plain file: not a symbolic link, and `is_file`. -/
def isPlain (fileType : FileType) : Bool := fileType != .symlink && fileType == .file

/-- `path_matches_open_file` with the handle of the created file. -/
def pathMatchesOpenFile (path : Path) : StoreM GithubArtifactStoreError Bool := do
  io (call .tryClone)
  let openIdentity ← io (call .fromFile)
  let pathIdentity ← io (call (.fromPath path))
  return openIdentity == pathIdentity

/-- `open_regular_file` of `filesystem_identity.rs`; an error is its code of the system, if any. -/
def openIdentityFile (path : Path) : StoreM (Option IoErrorKind) FileIdentity := do
  let fileType ← call (.symlinkMetadata path)
  ensure (fileType.toOption != some .symlink) none
  let opened ← call (.openNoFollow path)
  match opened with
  | .ok file => pure file
  | .error kind => do
    -- The second look at the path only chooses the kind of the error.
    let _ ← call (.symlinkMetadata path)
    fail (some kind)

def queryRegularFileIdentity (file : FileIdentity) :
    StoreM (Option IoErrorKind) FileIdentity := do
  let result ← call (.metadata file)
  let metadata ← ofExcept (result.mapError some)
  ensure metadata.isFile none
  ensure (metadata.nlink == 1) none
  return metadata.identity

def capture (path : Path) : StoreM (Option IoErrorKind) FileIdentity := do
  ensure (path.head? == some .rootDir) none
  let file ← openIdentityFile path
  let identity ← queryRegularFileIdentity file
  let reopened ← openIdentityFile path
  let again ← queryRegularFileIdentity reopened
  ensure (again == identity) none
  let last ← queryRegularFileIdentity file
  ensure (last == identity) none
  return identity

def mapLocalIdentityError : Option IoErrorKind → GithubArtifactStoreError
  | some kind => .io kind
  | none => .invalidDestination

/-! ## The publication guard -/

/-- The part of `remove_exact_published_file` after its first look at the destination. -/
def removePublished (destination : Path) (fileType : FileType) :
    StoreM GithubArtifactStoreError Unit := do
  ensure (isPlain fileType) .invalidDestination
  let same ← pathMatchesOpenFile destination
  ensure same .invalidDestination
  -- looked at once more right before the removal
  let finalType ← io (call (.symlinkMetadata destination))
  ensure (isPlain finalType) .invalidDestination
  let same ← pathMatchesOpenFile destination
  ensure same .invalidDestination
  io (call (.removeFile destination))

/-- `remove_exact_published_file` without the record of its result. -/
def removeExact (destination : Path) : StoreM GithubArtifactStoreError Unit := do
  let fileType ← call (.symlinkMetadata destination)
  match fileType with
  | .ok fileType => removePublished destination fileType
  | .error .notFound => pure ()
  | .error kind => fail (.io kind)

def removeExactPublishedFile (destination : Path) : StoreM GithubArtifactStoreError Unit := do
  let result ← attempt (removeExact destination)
  modify fun results => results ++ [result]
  ofExcept result

/-- An armed guard goes out of scope; nobody sees that the removal fails. -/
def dropGuard (destination : Path) : StoreM GithubArtifactStoreError Unit :=
  (removeExactPublishedFile destination).handle fun _ => pure ()

/-- `rollback`; the guard stays armed when the removal fails. -/
def rollback (destination : Path) : StoreM GithubArtifactStoreError Unit :=
  (removeExactPublishedFile destination).handle fun error => do
    dropGuard destination
    fail error

def verifyDestination (destination : Path) : StoreM GithubArtifactStoreError Unit := do
  let fileType ← io (call (.symlinkMetadata destination))
  ensure (isPlain fileType) .invalidDestination
  let same ← pathMatchesOpenFile destination
  ensure same .invalidDestination

def identity (destination : Path) : StoreM GithubArtifactStoreError FileIdentity := do
  let identity ← (capture destination).mapError mapLocalIdentityError
  let same ← pathMatchesOpenFile destination
  ensure same .invalidDestination
  return identity

def linkError : IoErrorKind → GithubArtifactStoreError
  | .alreadyExists => .invalidDestination
  | kind => .io kind

def link (temporary destination : Path) : StoreM GithubArtifactStoreError Unit := do
  let linked ← call (.hardLink temporary destination)
  ofExcept (linked.mapError linkError)
  (verifyDestination destination).handle fun error => do
    dropGuard destination
    fail error

def removeNewFile (path : Path) : StoreM GithubArtifactStoreError Unit :=
  io (call (.removeFile path))

/-- The copy from the link to the commit. -/
def publish (temporary destination : Path) : StoreM GithubArtifactStoreError FileIdentity := do
  link temporary destination
  let unlinked ← attempt (removeNewFile temporary)
  match unlinked with
  -- an error of the rollback takes its place
  | .error unlinkError => do
    rollback destination
    fail unlinkError
  | .ok () =>
    (identity destination).handle fun error => do
      rollback destination
      fail error

/-! ## The copy -/

def copyBufferBytes : Nat := 64 * 1024

def temporaryNameAttempts : Nat := 128

def parent (path : Path) : Option Path :=
  match path.getLast? with
  | none | some .rootDir => none
  | some _ => some path.dropLast

def fileName (path : Path) : Option (List Char) :=
  match path.getLast? with
  | some (.normal name) => some name
  | _ => none

def isNormalPath (path : Path) : Bool :=
  path.all fun component => component != .curDir && component != .parentDir

def validatedDestination (parseUrl : ParseUrl) (destination : ProtocolPath) :
    StoreM GithubArtifactStoreError Path := do
  ofExcept ((destination.validate parseUrl).mapError fun _ => .invalidDestination)
  ensure (destination.semantics == .clientAbsolute) .invalidDestination
  let path := UnixPath.components destination.value.toList
  ensure (UnixPath.isAbsolute destination.value.toList && isNormalPath path) .invalidDestination
  let parentPath ← ofOption .invalidDestination (parent path)
  let parentType ← io (call (.symlinkMetadata parentPath))
  ensure (parentType != .symlink && parentType == .directory) .invalidDestination
  let canonicalParent ← io (call (.canonicalize parentPath))
  -- no component above the file is a link
  ensure (canonicalParent == parentPath) .invalidDestination
  let name ← ofOption .invalidDestination (fileName path)
  ensure (name != []) .invalidDestination
  return canonicalParent ++ [.normal name]

def temporaryName (processId : UInt32) (fileName : List Char) (sequence : UInt64) : List Char :=
  '.' :: fileName ++ ".rustferry-".toList ++ Json.decimal processId.toNat ++ '-' ::
    Json.decimal sequence.toNat ++ ".tmp".toList

/-- A new file under the first name that is free. -/
def createTemporary (processId : UInt32) (parentPath : Path) (fileName : List Char) :
    Nat → StoreM GithubArtifactStoreError Path
  | 0 => fail (.io .alreadyExists)
  | attempts + 1 => do
    let sequence ← call .nextSequence
    let candidate := parentPath ++ [.normal (temporaryName processId fileName sequence)]
    let created ← call (.createNew candidate)
    match created with
    | .ok () => pure candidate
    | .error .alreadyExists => createTemporary processId parentPath fileName attempts
    | .error kind => fail (.io kind)

/-- `open_regular_file` of the source. -/
def openRegularFile (source : String) : StoreM GithubArtifactStoreError Unit := do
  ensure (UnixPath.isAbsolute source.toList) .invalidCacheRoot
  let fileType ← io (call (.symlinkMetadata (UnixPath.components source.toList)))
  ensure (isPlain fileType) .invalidCacheRoot
  io (call (.openSource (UnixPath.components source.toList)))
  let metadata ← io (call .sourceMetadata)
  ensure metadata.isFile .invalidCacheRoot

/-- The loop of the copy from the bytes that it has hashed; every iteration but the last reads a
byte, and there are no more than `size`. -/
def copyLoop (size : Nat) : Nat → List UInt8 → StoreM GithubArtifactStoreError (List UInt8)
  | 0, _ => fail .invalidSealedArchive
  | fuel + 1, hashed => do
    let buffer ← io (call .readSource)
    if buffer = [] then pure hashed
    else do
      let copied := hashed.length + buffer.length
      -- the checked addition of the source
      ensure (copied < 2 ^ 64) .invalidSealedArchive
      ensure (copied ≤ size) .invalidSealedArchive
      io (call (.writeAll buffer))
      copyLoop size fuel (hashed ++ buffer)

/-- The closure of the copy; `sha256` is the digest in lower-case hexadecimal. -/
def copyAndPublish (sha256 : List UInt8 → String) (source : String) (record : ArtifactRecord)
    (temporary destination : Path) : StoreM GithubArtifactStoreError FileIdentity := do
  openRegularFile source
  let metadata ← io (call .sourceMetadata)
  ensure (metadata.len == record.size && isLowerSha256 record.sha256) .invalidSealedArchive
  let hashed ← copyLoop record.size.toNat (record.size.toNat + 1) []
  io (call .syncAll)
  ensure (hashed.length == record.size.toNat && sha256 hashed == record.sha256)
    .invalidSealedArchive
  publish temporary destination

def atomicVerifiedCopy (parseUrl : ParseUrl) (sha256 : List UInt8 → String) (processId : UInt32)
    (source : String) (record : ArtifactRecord) (destination : ProtocolPath) :
    StoreM GithubArtifactStoreError FileIdentity := do
  let path ← validatedDestination parseUrl destination
  let existing ← call (.symlinkMetadata path)
  ensure (!existing.toBool) .invalidDestination
  let parentPath ← ofOption .invalidDestination (parent path)
  let name ← ofOption .invalidDestination (fileName path)
  let temporary ← createTemporary processId parentPath name temporaryNameAttempts
  (copyAndPublish sha256 source record temporary path).handle fun error => do
    let _ ← call (.removeFile temporary)
    fail error

/-! ## The file system -/

/-- What the paths name, with the bytes of the created file and the names that it was given. -/
structure FileSystem where
  entries : Path → Option Node
  contents : List UInt8
  names : List Path
  /-- What others placed at the destination since the program last looked at its type. -/
  recent : List ForeignNode

namespace FileSystem

def nlink (fs : FileSystem) : Nat := fs.names.countP fun name => fs.entries name == some .created

/-- What a path names when symbolic links are followed. -/
def resolve (fs : FileSystem) : (fuel : Nat) → Path → Option Node
  | 0, _ => none
  | fuel + 1, path =>
    match fs.entries path with
    | some (.foreign ⟨_, .symlink target⟩) => fs.resolve fuel target
    | node => node

def maxSymlinks : Nat := 40

def interfere (destination : Path) (fs : FileSystem) : Interference → FileSystem
  | .nothing => fs
  | .removes => { fs with entries := Function.update fs.entries destination none }
  | .places node =>
    { fs with
      entries := Function.update fs.entries destination (some (.foreign node))
      recent := node :: fs.recent }

/-- The answer of a call is true of the file system. -/
def Answers (fs : FileSystem) : (call : FileCall) → FileValue call → Prop
  | .symlinkMetadata path, .ok fileType => (fs.entries path).map Node.fileType = some fileType
  | .symlinkMetadata path, .error .notFound => fs.entries path = none
  | .createNew path, .ok () => fs.entries path = none
  | .readSource, .ok buffer => buffer.length ≤ copyBufferBytes
  | .hardLink original link, .ok () =>
    fs.entries link = none ∧ (fs.entries original).map Node.fileType = some .file
  | .removeFile path, .ok () => ∃ node, fs.entries path = some node ∧ node.fileType ≠ .directory
  | .fromFile, .ok identity => identity = .created
  | .fromPath path, .ok identity =>
    (fs.resolve maxSymlinks path).map Node.identity = some identity
  | .openNoFollow path, .ok file =>
    ∃ node, fs.entries path = some node ∧ node.fileType ≠ .symlink ∧ node.identity = file
  | .metadata file, .ok metadata => metadata.identity = file ∧
    (file = .created → metadata.isFile = true ∧ metadata.nlink = fs.nlink)
  | _, _ => True

/-- The file system after a call. -/
def after (destination : Path) (fs : FileSystem) : (call : FileCall) → FileValue call → FileSystem
  | .createNew path, .ok () =>
    { fs with
      entries := Function.update fs.entries path (some .created)
      contents := []
      names := path :: fs.names }
  | .writeAll bytes, .ok () => { fs with contents := fs.contents ++ bytes }
  | .hardLink original link, .ok () =>
    { fs with
      entries := Function.update fs.entries link (fs.entries original)
      names := link :: fs.names }
  | .removeFile path, .ok () => { fs with entries := Function.update fs.entries path none }
  | .symlinkMetadata path, _ => if path = destination then { fs with recent := [] } else fs
  | _, _ => fs

end FileSystem

end RustFerry.ArtifactStore
