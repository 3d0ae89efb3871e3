import Mathlib.Data.List.Sort
import RustFerry.ForStd.BTreeMap
import RustFerry.ForStd.Worklist
import RustFerry.Native.SourceContents
import RustFerry.Native.SourceManifest

/-!
# Planning of source bundles

How `plan_source_bundle` selects the files of a snapshot
(`crates/rustferry-remote/src/source.rs`, on Unix): the roots of the request, the exclusions
and ignore rules, the include roots, and the scan that walks from the include roots through
the tree. The file system is what its calls answer while nothing changes it.
-/

namespace RustFerry.Source

open Except Snapshot

/-! ## The file system -/

/-- A path by its components; a relative path without components is `.`. -/
abbrev FsPath := List (List Char)

/-- One answer of a directory iterator. -/
inductive DirEntry where
  | name (name : List Char)
  | nonUtf8
  | failed
  deriving DecidableEq

/-- A regular file: its metadata, and its contents unless they cannot be read. -/
structure RegularFile where
  size : UInt64
  executable : Bool
  links : Nat
  contents : Option (List UInt8)
  bounded : ∀ bytes ∈ contents, bytes.length < 2 ^ 64
  deriving DecidableEq

/-- What `symlink_metadata` finds; a directory comes with the answers of its iterator, unless
    it cannot be read. -/
inductive Node where
  | missing
  | inaccessible
  | symlink
  | directory (entries : Option (List DirEntry))
  | file (file : RegularFile)
  | special
  deriving DecidableEq

/-- A name that a directory iterator can answer. -/
def IsName (name : List Char) : Prop :=
  name ≠ [] ∧ '/' ∉ name ∧ name ≠ ['.'] ∧ name ≠ ['.', '.']

instance (name : List Char) : Decidable (IsName name) := by
  unfold IsName; infer_instance

/-- The file system of the host. -/
structure Host where
  /-- Whether a configured root is a symbolic link, unless it cannot be inspected. -/
  rootIsSymlink : String → Option Bool
  /-- `fs::canonicalize`. -/
  canonicalize : String → Option FsPath
  /-- `fs::symlink_metadata` below a canonical directory. -/
  lookup : FsPath → Node
  /-- `Path::try_exists`, which follows symbolic links. -/
  tryExists : FsPath → Option Bool
  canonical_valid : ∀ text path, canonicalize text = some path → ∀ name ∈ path, IsName name
  names_valid : ∀ path entries name, lookup path = .directory (some entries) →
    .name name ∈ entries → IsName name

/-! ## Requests -/

/-- Local request used to select source for a snapshot. -/
structure SourceBundleRequest where
  workspaceRoot : String
  projectRoot : String
  workspaceInputs : List String
  workspaceExclusions : List String
  executableModes : List (String × Bool)
  maxTraversalEntries : Nat
  limits : SourceLimits

/-- What the functions of the planner read of their surroundings. -/
structure PlanEnv where
  tools : SourceTools
  host : Host

/-! ## Paths -/

/-- The components joined by `/`. -/
def joinPath : FsPath → List Char
  | [] => []
  | [name] => name
  | name :: names => name ++ '/' :: joinPath names

def displayRelativePath (path : FsPath) : String :=
  if path.isEmpty then "." else String.ofList (joinPath path)

/-- `path.components().count()` of a path as it is written. -/
def componentCount (path : String) : Nat :=
  let segments := components path
  (if path.toList.head? == some '/' then 1 else 0) +
    (if segments.head? == some ['.'] then 1 else 0) +
    (segments.filter fun segment => !segment.isEmpty && segment != ['.']).length

def pathIsWithin (path root : String) : Bool :=
  path == root ||
    (Text.stripFront root.toList path.toList).any fun rest => rest.head? == some '/'

def isWorkspaceExcluded (path : String) (exclusions : List String) : Bool :=
  exclusions.any (pathIsWithin path)

structure IgnoreRule where
  base : String
  path : String

def isIgnored (path : String) (rules : List IgnoreRule) : Bool :=
  rules.any fun rule =>
    let relative :=
      if rule.base == "." then some path.toList
      else (Text.stripFront rule.base.toList path.toList).bind (Text.stripFront ['/'])
    relative.any fun relative => relative == rule.path.toList ||
      (Text.stripFront rule.path.toList relative).any fun rest => rest.head? == some '/'

/-! ## The traversal budget -/

structure TraversalBudget where
  maximum : Nat
  visited : Nat
  deriving DecidableEq

def TraversalBudget.new (maximum : Nat) : SourceResult TraversalBudget := do
  rejectIf (maximum > maxSourceTraversalEntries)
    (.unsupportedTraversalLimit maximum maxSourceTraversalEntries)
  return ⟨maximum, 0⟩

def TraversalBudget.consume (self : TraversalBudget) (count : Nat) (path : Option String) :
    SourceResult TraversalBudget := do
  let actual := self.visited + count
  rejectIf (actual > self.maximum)
    (.limitExceeded .traversalEntryCount path self.maximum actual)
  return { self with visited := actual }

/-! ## Roots -/

structure ResolvedRoots where
  workspace : FsPath
  project : FsPath
  projectRelative : FsPath

def rejectRootSymlink (host : Host) (path root : String) : SourceResult Unit :=
  match host.rootIsSymlink path with
  | none => .error (.io "inspect" root)
  | some isSymlink => rejectIf isSymlink (.invalidRoot root "root is a symbolic link")

def canonicalDirectory (host : Host) (path root : String) : SourceResult FsPath :=
  match host.canonicalize path with
  | none => .error (.io "canonicalize" root)
  | some canonical =>
    match host.lookup canonical with
    | .directory _ => .ok canonical
    | .missing | .inaccessible => .error (.io "inspect" root)
    | _ => .error (.invalidRoot root "not a directory")

/-- The project has a portable name below the workspace. -/
def checkProjectRelative (env : PlanEnv) (projectRelative : FsPath) : SourceResult Unit := do
  let display := displayRelativePath projectRelative
  requirePortable env.tools.unicode display true
  if display == "." then .ok () else rejectSensitive env.tools.unicode display

def ResolvedRoots.resolve (env : PlanEnv) (request : SourceBundleRequest) :
    SourceResult ResolvedRoots := do
  rejectRootSymlink env.host request.workspaceRoot "workspace root"
  rejectRootSymlink env.host request.projectRoot "project root"
  let workspace ← canonicalDirectory env.host request.workspaceRoot "workspace root"
  let project ← canonicalDirectory env.host request.projectRoot "project root"
  rejectIf (!workspace.isPrefixOf project) .projectOutsideWorkspace
  let projectRelative := project.drop workspace.length
  checkProjectRelative env projectRelative
  return { workspace, project, projectRelative }

/-! ## Modes, exclusions and ignore rules -/

/-- One iteration of `validate_executable_modes`. -/
def validateExecutableMode (env : PlanEnv) (limits : SourceLimits)
    (state : List (String × Bool) × Collisions × TraversalBudget) (mode : String × Bool) :
    SourceResult (List (String × Bool) × Collisions × TraversalBudget) := do
  let (modes, collisions, traversal) := state
  let (path, executable) := mode
  let traversal ← traversal.consume (componentCount path) (some path)
  requirePortable env.tools.unicode path false
  rejectSensitive env.tools.unicode path
  checkDepth path limits.maxDepth
  let collisions ← registerPathComponents env.tools.unicode collisions path
  rejectIf (modes.any (·.1 == path)) (.duplicateExecutableMode path)
  return (BTreeMap.insert path executable modes, collisions, traversal)

def validateExecutableModes (env : PlanEnv) (request : SourceBundleRequest)
    (traversal : TraversalBudget) : SourceResult (List (String × Bool) × TraversalBudget) := do
  let (modes, _, traversal) ← request.executableModes.foldlM
    (validateExecutableMode env request.limits) ([], [], traversal)
  return (modes, traversal)

/-- One iteration over the exclusions of a request. -/
def validateWorkspaceExclusion (env : PlanEnv) (limits : SourceLimits)
    (state : List (String × Unit) × Collisions × TraversalBudget) (path : String) :
    SourceResult (List (String × Unit) × Collisions × TraversalBudget) := do
  let (requested, collisions, traversal) := state
  requirePortable env.tools.unicode path false
  checkDepth path limits.maxDepth
  let collisions ← registerPathComponents env.tools.unicode collisions path
  let traversal ← traversal.consume (components path).length (some path)
  return (BTreeMap.insert path () requested, collisions, traversal)

/-- Exclusions that no other exclusion contains. -/
def outermost (exclusions : List String) : List String → List String
  | [] => exclusions
  | display :: rest =>
    if exclusions.any (pathIsWithin display) then outermost exclusions rest
    else outermost (exclusions ++ [display]) rest

def validateWorkspaceExclusions (env : PlanEnv) (request : SourceBundleRequest)
    (traversal : TraversalBudget) : SourceResult (List String × TraversalBudget) := do
  let (requested, _, traversal) ← request.workspaceExclusions.foldlM
    (validateWorkspaceExclusion env request.limits) ([], [], traversal)
  return (outermost [] (requested.map (·.1)), traversal)

def rejectLinkCount (links : Nat) (path : String) : SourceResult Unit :=
  match links with
  | 1 => .ok ()
  | 0 => .error (.hardLinkInspectionUnavailable path)
  | links => .error (.hardLink path links)

/-- `read_bounded_file` of a file that does not change. -/
def readBoundedFile (file : RegularFile) (display : String) (maximum : UInt64)
    (limitKind : SourceLimitKind) : SourceResult (List UInt8) := do
  rejectLinkCount file.links display
  match file.contents with
  | none => .error (.io "read" display)
  | some contents =>
    -- one byte more than the limit is read, unless that is no longer a machine word
    let contents := contents.take (min (maximum.toNat + 1) (2 ^ 64 - 1))
    rejectIf (contents.length > maximum.toNat)
      (.limitExceeded limitKind (some display) maximum.toNat contents.length)
    rejectIf (contents.length != file.size.toNat) (.changedDuringRead display)
    return contents

/-- `text.lines()`: a line ends with a line feed, which may follow a carriage return, or with
    the text. -/
def textLines (text : List Char) : List (List Char) :=
  let pieces := Text.split '\n' text
  let ended := pieces.dropLast.map fun line =>
    if line.getLast? == some '\r' then line.dropLast else line
  ended ++ (pieces.getLast?.filter (!·.isEmpty)).toList

/-- A line of an ignore file that is neither empty nor a comment. -/
def parseIgnoreRule (env : PlanEnv) (file : String) (base : FsPath) (limits : SourceLimits)
    (rules : List IgnoreRule) (line : List Char) (lineNumber : Nat) :
    SourceResult (List IgnoreRule) := do
  let invalid (reason : IgnoreRuleReason) : SourceError := .invalidIgnoreRule file lineNumber reason
  let isBlank (c : Char) : Bool := c == ' ' || c == '\t'
  rejectIf ((String.ofList line).utf8ByteSize > maxIgnorePatternBytes) (invalid .patternTooLong)
  rejectIf (line.head?.any isBlank || line.getLast?.any isBlank) (invalid .edgeWhitespace)
  -- a rule only excludes
  rejectIf (line.head? == some '!') (invalid .negation)
  rejectIf (line.any fun c => c == '*' || c == '?' || c == '[' || c == ']') (invalid .glob)
  let pattern := if line.getLast? == some '/' then line.dropLast else line
  rejectIf pattern.isEmpty (invalid .emptyDirectoryPattern)
  (validatePortablePathStr env.tools.unicode (String.ofList pattern) false).mapError
    fun reason => invalid (.nonPortable reason)
  rejectIf (rules.length ≥ limits.maxIgnoreRules)
    (.limitExceeded .ignoreRuleCount (some file) limits.maxIgnoreRules (rules.length + 1))
  return rules ++ [⟨displayRelativePath base, String.ofList pattern⟩]

/-- One iteration of `parse_ignore_file`. -/
def parseIgnoreLine (env : PlanEnv) (file : String) (base : FsPath) (limits : SourceLimits)
    (rules : List IgnoreRule) (numbered : List Char × Nat) : SourceResult (List IgnoreRule) :=
  let line := if numbered.1.getLast? == some '\r' then numbered.1.dropLast else numbered.1
  if line.isEmpty || line.head? == some '#' then .ok rules
  else parseIgnoreRule env file base limits rules line (numbered.2 + 1)

def relativeIgnorePath (base : FsPath) : String :=
  if displayRelativePath base == "." then ".ferryignore"
  else displayRelativePath base ++ "/.ferryignore"

/-- The text of an ignore file. -/
def readIgnoreFile (file : RegularFile) (display : String) (limits : SourceLimits) :
    SourceResult String := do
  rejectLinkCount file.links display
  rejectIf (file.size > limits.maxIgnoreFileSize)
    (.limitExceeded .ignoreFileSize (some display) limits.maxIgnoreFileSize.toNat
      file.size.toNat)
  let bytes ← readBoundedFile file display limits.maxIgnoreFileSize .ignoreFileSize
  match Text.fromUtf8 bytes with
  | none => .error (.invalidIgnoreRule display 1 (.nonPortable .invalidCharacter))
  | some text => return text

/-- The rules of one ignore file, added to those before. -/
def loadIgnoreFile (env : PlanEnv) (exclusions : List String) (limits : SourceLimits)
    (rules : List IgnoreRule) (location : FsPath × FsPath) : SourceResult (List IgnoreRule) :=
  let display := relativeIgnorePath location.1
  if isWorkspaceExcluded display exclusions then .ok rules
  else
    match env.host.lookup location.2 with
    | .missing => .ok rules
    | .inaccessible => .error (.io "inspect" display)
    | .symlink => .error (.symlink display)
    | .directory _ | .special => .error (.unsupportedFileType display)
    | .file file => do
      let text ← readIgnoreFile file display limits
      (textLines text.toList).zipIdx.foldlM (parseIgnoreLine env display location.1 limits) rules

def loadIgnoreRules (env : PlanEnv) (roots : ResolvedRoots) (exclusions : List String)
    (limits : SourceLimits) : SourceResult (List IgnoreRule) :=
  let workspace := ([], roots.workspace ++ [".ferryignore".toList])
  let project := (roots.projectRelative, roots.project ++ [".ferryignore".toList])
  let locations := if roots.project != roots.workspace then [workspace, project] else [workspace]
  locations.foldlM (loadIgnoreFile env exclusions limits) []

/-! ## Include roots -/

def workspaceBuildInputs : List String :=
  ["Cargo.toml", "Cargo.lock", "rust-toolchain", "rust-toolchain.toml", ".cargo/config",
    ".cargo/config.toml"]

/-- Insert into an ordered set of paths. -/
def insertRoot (path : FsPath) : List FsPath → List FsPath
  | [] => [path]
  | first :: rest =>
    if path = first then first :: rest
    else if path < first then path :: first :: rest
    else first :: insertRoot path rest

/-- One of the inputs that every workspace may have. -/
def collectBuildInput (env : PlanEnv) (workspace : FsPath) (includeRoots : List FsPath)
    (path : String) : SourceResult (List FsPath) :=
  match env.host.tryExists (workspace ++ components path) with
  | none => .error (.io "inspect" path)
  | some false => .ok includeRoots
  | some true => .ok (insertRoot (components path) includeRoots)

/-- No component of the path so far and these ones is a symbolic link. -/
def ensureNoSymlinkComponents (env : PlanEnv) (workspace relative : FsPath) :
    (front rest : FsPath) → SourceResult Unit
  | _, [] => .ok ()
  | front, name :: rest =>
    match env.host.lookup (workspace ++ (front ++ [name])) with
    | .symlink => .error (.symlink (displayRelativePath (front ++ [name])))
    | .missing => .error (.missingInput (displayRelativePath relative))
    | .inaccessible => .error (.io "inspect" (displayRelativePath (front ++ [name])))
    | _ => ensureNoSymlinkComponents env workspace relative (front ++ [name]) rest

/-- An input of the request that is not excluded has to exist. -/
def addWorkspaceInput (env : PlanEnv) (workspace : FsPath) (includeRoots : List FsPath)
    (input : String) : SourceResult (List FsPath) := do
  let relative := components input
  ensureNoSymlinkComponents env workspace relative [] relative
  match env.host.tryExists (workspace ++ relative) with
  | none => .error (.io "inspect" input)
  | some false => .error (.missingInput input)
  | some true => return insertRoot relative includeRoots

/-- One of the inputs of the request. -/
def collectWorkspaceInput (env : PlanEnv) (workspace : FsPath) (exclusions : List String)
    (state : List FsPath × TraversalBudget) (input : String) :
    SourceResult (List FsPath × TraversalBudget) := do
  let traversal ← state.2.consume (componentCount input) (some input)
  requirePortable env.tools.unicode input false
  rejectSensitive env.tools.unicode input
  if isWorkspaceExcluded input exclusions then .ok (state.1, traversal)
  else do
    let includeRoots ← addWorkspaceInput env workspace state.1 input
    return (includeRoots, traversal)

def collectIncludeRoots (env : PlanEnv) (request : SourceBundleRequest) (roots : ResolvedRoots)
    (exclusions : List String) (traversal : TraversalBudget) :
    SourceResult (List FsPath × TraversalBudget) := do
  let includeRoots ← workspaceBuildInputs.foldlM (collectBuildInput env roots.workspace)
    [roots.projectRelative]
  request.workspaceInputs.foldlM (collectWorkspaceInput env roots.workspace exclusions)
    (includeRoots, traversal)

/-! ## The scan -/

/-- What stays the same during a scan. -/
structure ScanEnv extends PlanEnv where
  root : FsPath
  exclusions : List String
  ignoreRules : List IgnoreRule
  limits : SourceLimits

structure ScanState where
  visitedDirectories : List String
  directories : List (String × Unit)
  entries : List (String × SourceManifestEntry)
  collisions : Collisions
  excludedSensitivePaths : List (String × Unit)
  totalSize : Nat
  traversal : TraversalBudget

def ScanState.init (traversal : TraversalBudget) : ScanState :=
  ⟨[], [], [], [], [], 0, traversal⟩

/-- What the name of a path decides before it is looked at. -/
inductive Admission where
  | sensitive
  | skip
  | visit

def admitPath (env : ScanEnv) (relative : FsPath) : SourceResult Admission :=
  let display := displayRelativePath relative
  if display == "." then .ok .visit
  else do
    requirePortable env.tools.unicode display false
    checkDepth display env.limits.maxDepth
    return if isSensitivePath env.tools.unicode display then .sensitive
      else if isWorkspaceExcluded display env.exclusions then .skip
      else if isIgnored display env.ignoreRules then .skip
      else .visit

/-- One answer of the iterator of a directory. -/
def readDirectoryChild (display : String) (state : List (List Char) × TraversalBudget)
    (entry : DirEntry) : SourceResult (List (List Char) × TraversalBudget) := do
  let (children, traversal) := state
  let traversal ← traversal.consume 1 (some display)
  match entry with
  | .failed => .error (.io "read directory entry" display)
  | .nonUtf8 => .error .nonUtf8Path
  | .name name => return (children ++ [name], traversal)

def readDirectoryChildren (entries : Option (List DirEntry)) (display : String)
    (traversal : TraversalBudget) : SourceResult (List (List Char) × TraversalBudget) :=
  match entries with
  | none => .error (.io "read directory" display)
  | some entries => entries.foldlM (readDirectoryChild display) ([], traversal)

/-- A directory other than the root is registered. -/
def registerDirectory (env : ScanEnv) (state : ScanState) (display : String) :
    SourceResult ScanState :=
  if display == "." then .ok state
  else do
    let collisions ← registerCollisionKey env.tools.unicode state.collisions display
    return { state with collisions, directories := BTreeMap.insert display () state.directories }

/-- The scan at a directory: its children go on the stack when it is seen first. -/
def visitDirectory (env : ScanEnv) (state : ScanState) (relative : FsPath)
    (entries : Option (List DirEntry)) : SourceResult (ScanState × List FsPath) := do
  let display := displayRelativePath relative
  let state ← registerDirectory env state display
  if state.visitedDirectories.contains display then .ok (state, [])
  else do
    let (children, traversal) ← readDirectoryChildren entries display state.traversal
    let children := children.insertionSort (· ≤ ·)
    return ({ state with visitedDirectories := display :: state.visitedDirectories, traversal },
      children.map fun child => relative ++ [child])

/-- The entry of a file that is selected first. -/
def addEntry (env : ScanEnv) (state : ScanState) (display : String) (file : RegularFile) :
    SourceResult ScanState := do
  rejectIf (state.entries.length ≥ env.limits.maxFileCount)
    (.limitExceeded .fileCount (some display) env.limits.maxFileCount (state.entries.length + 1))
  rejectIf (file.size > env.limits.maxFileSize)
    (.limitExceeded .fileSize (some display) env.limits.maxFileSize.toNat file.size.toNat)
  let nextTotal := state.totalSize + file.size.toNat
  rejectIf (nextTotal ≥ 2 ^ 64)
    (.limitExceeded .totalSize (some display) env.limits.maxTotalSize.toNat (2 ^ 64 - 1))
  rejectIf (nextTotal > env.limits.maxTotalSize.toNat)
    (.limitExceeded .totalSize (some display) env.limits.maxTotalSize.toNat nextTotal)
  -- the size is that of the metadata, so the read is bounded again
  let contents ← readBoundedFile file display env.limits.maxFileSize .fileSize
  rejectSensitiveContents display contents
  let entry : SourceManifestEntry :=
    ⟨display, file.size, env.tools.sha256 contents, file.executable⟩
  return { state with totalSize := nextTotal, entries := BTreeMap.insert display entry state.entries }

/-- The scan at a regular file. -/
def visitFile (env : ScanEnv) (state : ScanState) (relative : FsPath) (file : RegularFile) :
    SourceResult ScanState := do
  let display := displayRelativePath relative
  rejectLinkCount file.links display
  let collisions ← registerCollisionKey env.tools.unicode state.collisions display
  let state := { state with collisions }
  if state.entries.any (·.1 == display) then .ok state else addEntry env state display file

/-- One turn of the scan. -/
def scanStep (env : ScanEnv) (state : ScanState) (relative : FsPath) :
    SourceResult (ScanState × List FsPath) := do
  let display := displayRelativePath relative
  match ← admitPath env relative with
  | .sensitive =>
    let excludedSensitivePaths := BTreeMap.insert display () state.excludedSensitivePaths
    return ({ state with excludedSensitivePaths }, [])
  | .skip => return (state, [])
  | .visit =>
    match env.host.lookup (env.root ++ relative) with
    | .missing => .error (.missingInput display)
    | .inaccessible => .error (.io "inspect" display)
    | .symlink => .error (.symlink display)
    | .directory entries => visitDirectory env state relative entries
    | .special => .error (.unsupportedFileType display)
    | .file file => return (← visitFile env state relative file, [])

structure ScanResult where
  entries : List SourceManifestEntry
  directories : List String
  excludedSensitivePaths : List String

/-- The scan. Each path that it pushes was paid for, so what is left of the budget and the
    include roots bound its turns. -/
def scanPaths (env : ScanEnv) (includeRoots : List FsPath) (traversal : TraversalBudget) :
    SourceResult (ScanResult × TraversalBudget) := do
  let state ← Worklist.drain .manifestMismatch (scanStep env)
    (includeRoots.length + (traversal.maximum - traversal.visited)) includeRoots
    (.init traversal)
  return (⟨state.entries.map (·.2), state.directories.map (·.1),
    state.excludedSensitivePaths.map (·.1)⟩, state.traversal)

/-! ## The plan -/

/-- `resolved_executable_mode` on Unix. -/
def resolvedExecutableMode (filesystem : Bool) (portable : Option Bool) : Bool :=
  filesystem || portable.getD false

def applyExecutableMode (entries : List SourceManifestEntry) (mode : String × Bool) :
    SourceResult (List SourceManifestEntry) := do
  rejectIf (!entries.any (·.path == mode.1)) (.executableModePathNotSelected mode.1)
  return entries.map fun entry =>
    if entry.path == mode.1 then
      { entry with executable := resolvedExecutableMode entry.executable (some mode.2) }
    else entry

def consumePlannedManifestTraversal (traversal : TraversalBudget)
    (entries : List SourceManifestEntry) : SourceResult TraversalBudget :=
  entries.foldlM (fun traversal entry =>
    traversal.consume (components entry.path).length (some entry.path)) traversal

/-- One local file selected by a bundle plan. -/
structure PlannedSourceFile where
  sourcePath : FsPath
  bundlePath : String

/-- Deterministic source selection and local inputs needed to materialize it. -/
structure SourceBundlePlan where
  request : SourceBundleRequest
  manifest : SourceManifest
  files : List PlannedSourceFile
  executableModes : List (String × Bool)
  excludedSensitivePaths : List String

/-- Select allowed source files and compute a deterministic manifest. -/
def planSourceBundle (env : PlanEnv) (request : SourceBundleRequest) :
    SourceResult SourceBundlePlan := do
  checkSupportedDepth request.limits
  let traversal ← TraversalBudget.new request.maxTraversalEntries
  let roots ← ResolvedRoots.resolve env request
  let projectPath := displayRelativePath roots.projectRelative
  let (executableModes, traversal) ← validateExecutableModes env request traversal
  let (exclusions, traversal) ← validateWorkspaceExclusions env request traversal
  let ignoreRules ← loadIgnoreRules env roots exclusions request.limits
  let (includeRoots, traversal) ← collectIncludeRoots env request roots exclusions traversal
  let (scan, traversal) ← scanPaths
    { env with root := roots.workspace, exclusions, ignoreRules, limits := request.limits }
    includeRoots traversal
  let entries ← executableModes.foldlM applyExecutableMode scan.entries
  let _ ← consumePlannedManifestTraversal traversal entries
  let manifest := buildManifest env.tools projectPath entries
  -- the sender's own manifest passes the receiver's checks
  validateSourceManifest env.tools manifest request.limits
  return {
    request
    manifest
    files := manifest.entries.map fun entry =>
      ⟨roots.workspace ++ components entry.path, entry.path⟩
    executableModes
    excludedSensitivePaths := scan.excludedSensitivePaths }

end RustFerry.Source
