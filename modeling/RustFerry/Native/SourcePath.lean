import RustFerry.ForStd.Except
import RustFerry.ForStd.Text

/-!
# Source paths

Paths of a source bundle (`crates/rustferry-remote/src/source.rs`): which of them are
portable, which are sensitive, when two of them collide on a file system that ignores case
or normalizes names, and the errors of the source module. The tables of Unicode are a
parameter.
-/

namespace RustFerry.Source

open Except

/-! ## Errors -/

/-- Portable-path validation failure. -/
inductive PortablePathReason where
  | empty
  | absolute
  | drivePrefix
  | uncPrefix
  | backslash
  | dotComponent
  | emptyComponent
  | invalidCharacter
  | trailingDotOrSpace
  | nonNfc
  | reservedName
  | pathTooLong
  | segmentTooLong
  deriving DecidableEq

/-- Resource limit that was exceeded. -/
inductive SourceLimitKind where
  | fileCount
  | fileSize
  | totalSize
  | depth
  | ignoreFileSize
  | ignoreRuleCount
  | traversalEntryCount
  | archiveSize
  | descriptorSize
  | gitSnapshotSize
  | compressionRatio
  deriving DecidableEq

/-- Reason a `.ferryignore` line was rejected. -/
inductive IgnoreRuleReason where
  | negation
  | glob
  | edgeWhitespace
  | patternTooLong
  | emptyDirectoryPattern
  | nonPortable (reason : PortablePathReason)
  deriving DecidableEq

/-- Source planning or verification failure. An error of the operating system is the name of
    the operation that failed and its path. -/
inductive SourceError where
  | invalidRoot (root reason : String)
  | projectOutsideWorkspace
  | nonUtf8Path
  | nonPortablePath (path : String) (reason : PortablePathReason)
  | sensitivePath (path : String)
  | sensitiveContent (path : String)
  | missingInput (path : String)
  | symlink (path : String)
  | hardLink (path : String) (links : Nat)
  | hardLinkInspectionUnavailable (path : String)
  | unsupportedFileType (path : String)
  | caseCollision (first second : String)
  | limitExceeded (kind : SourceLimitKind) (path : Option String) (maximum actual : Nat)
  | unsupportedDepthLimit (requested maximum : Nat)
  | unsupportedTraversalLimit (requested maximum : Nat)
  | duplicateExecutableMode (path : String)
  | executableModePathNotSelected (path : String)
  | invalidIgnoreRule (file : String) (line : Nat) (reason : IgnoreRuleReason)
  | changedDuringRead (path : String)
  | invalidManifest (reason : String)
  | manifestMismatch
  | outputExists (path : String)
  | destinationExists (path : String)
  | invalidDestination (reason : String)
  | invalidArchive (reason : String)
  | invalidGitSnapshot (reason : String)
  | archiveIntegrityMismatch (reason : String)
  | cleanupFailed (path : String) (original : SourceError)
  | zip (operation : String)
  | io (operation path : String)
  deriving DecidableEq

abbrev SourceResult := Except SourceError

/-! ## Unicode -/

/-- Normalization and case mapping of Unicode: canonical composition, the lowercase of one
    character, and the lowercase of a text (which looks at the neighbours of a sigma). -/
structure Unicode where
  nfc : List Char → List Char
  charToLowercase : Char → List Char
  toLowercase : List Char → List Char

/-! ## Limits -/

def maxPortablePathBytes : Nat := 4096
def maxPortableSegmentBytes : Nat := 255
def maxIgnorePatternBytes : Nat := 1024
def maxSupportedDepth : Nat := 256

/-- Defensive ceiling for selected directory entries and manifest path nodes. -/
def maxSourceTraversalEntries : Nat := 100000

/-! ## Components -/

/-- The components of a path. -/
def components (path : String) : List (List Char) := Text.split '/' path.toList

/-- The prefixes of a path made of the components so far and these ones. -/
def prefixesFrom (front : List Char) : List (List Char) → List String
  | [] => []
  | name :: names =>
    let front := if front.isEmpty then name else front ++ '/' :: name
    String.ofList front :: prefixesFrom front names

/-- The ancestors of a path and the path itself, the shortest first. -/
def pathPrefixes (path : String) : List String := prefixesFrom [] (components path)

def checkDepth (path : String) (maximum : Nat) : SourceResult Unit :=
  rejectIf ((components path).length > maximum)
    (.limitExceeded .depth (some path) maximum (components path).length)

/-! ## Portable paths -/

def isUnsafeUnicodeFormat (c : Char) : Bool :=
  let n := c.toNat
  n == 0x061c || (0x200b ≤ n && n ≤ 0x200f) || (0x202a ≤ n && n ≤ 0x202e) || n == 0x2060 ||
    (0x2066 ≤ n && n ≤ 0x2069) || n == 0xfeff

/-- The suffixes of `COM` and `LPT` that name a device. -/
def isDeviceSuffix (suffix : List Char) : Bool :=
  match suffix with
  | [c] => ('1' ≤ c && c ≤ '9') || c.toNat == 0xb9 || c.toNat == 0xb2 || c.toNat == 0xb3
  | _ => false

def isWindowsReservedName (stem : List Char) : Bool :=
  let upper := stem.map Char.toUpper
  ["CON", "PRN", "AUX", "NUL", "CLOCK$", "CONIN$", "CONOUT$"].any (·.toList == upper) ||
    (Text.stripFront "COM".toList upper).any isDeviceSuffix ||
    (Text.stripFront "LPT".toList upper).any isDeviceSuffix

def validateSegment (unicode : Unicode) (segment : List Char) :
    Except PortablePathReason Unit := do
  rejectIf segment.isEmpty .emptyComponent
  rejectIf (segment == ['.'] || segment == ['.', '.']) .dotComponent
  rejectIf ((String.ofList segment).utf8ByteSize > maxPortableSegmentBytes) .segmentTooLong
  rejectIf (segment.getLast? == some '.' || segment.getLast? == some ' ') .trailingDotOrSpace
  rejectIf (unicode.nfc segment != segment) .nonNfc
  rejectIf (segment.any fun c => Text.isControl c ||
      ['<', '>', ':', '"', '|', '?', '*'].contains c || isUnsafeUnicodeFormat c)
    .invalidCharacter
  rejectIf (isWindowsReservedName ((Text.split '.' segment).headD segment)) .reservedName

def hasDrivePrefix (path : List Char) : Bool :=
  match path with
  | drive :: ':' :: _ => drive.isAlpha
  | _ => false

def validatePortablePathStr (unicode : Unicode) (path : String) (allowDot : Bool) :
    Except PortablePathReason Unit :=
  if allowDot && path == "." then .ok ()
  else do
    rejectIf (path == "") .empty
    rejectIf (path.utf8ByteSize > maxPortablePathBytes) .pathTooLong
    rejectIf (['/', '/'].isPrefixOf path.toList || ['\\', '\\'].isPrefixOf path.toList) .uncPrefix
    rejectIf (hasDrivePrefix path.toList) .drivePrefix
    rejectIf (path.toList.head? == some '/') .absolute
    rejectIf (path.toList.contains '\\') .backslash
    (components path).forM (validateSegment unicode)

/-- `validate_portable_path_str` with the error of the source module. -/
def requirePortable (unicode : Unicode) (path : String) (allowDot : Bool) : SourceResult Unit :=
  (validatePortablePathStr unicode path allowDot).mapError (.nonPortablePath path)

/-! ## Sensitive paths -/

def sensitiveDirectories : List String :=
  [".aws", ".azure", ".git", ".gnupg", ".hg", ".kube", ".svn", ".goal2", ".goal3", ".cache",
    ".ssh", ".tmp", ".venv", "__pycache__", "build", "credentials", "deriveddata",
    "device-pairing", "dist", "keychains", "node_modules", "out", "provisioning", "secrets",
    "signing", "target"]

def sensitiveFileNames : List String :=
  [".envrc", ".git-credentials", ".netrc", ".npmrc", ".pypirc",
    "application_default_credentials.json", "credentials", "credentials.json",
    "credentials.toml", "credentials.yaml", "credentials.yml", "id_dsa", "id_ecdsa",
    "id_ed25519", "id_rsa", "keystore.properties", "service-account.json",
    "service_account.json"]

def sensitiveExtensions : List String :=
  ["cer", "crd", "crt", "der", "ipa", "jks", "key", "keystore", "mobileprovision", "p12", "p8",
    "pem", "ppk", "provisionprofile", "xcarchive"]

/-- `names.contains(&text)` for a table of names. -/
def inTable (names : List String) (text : List Char) : Bool :=
  names.any (·.toList == text)

def isSensitiveDirectory (unicode : Unicode) (component : List Char) : Bool :=
  inTable sensitiveDirectories (unicode.toLowercase component)

def isSensitiveFileName (unicode : Unicode) (fileName : List Char) : Bool :=
  let lower := unicode.toLowercase fileName
  inTable sensitiveDirectories lower || inTable sensitiveFileNames lower ||
    lower == ".env".toList || ".env.".toList.isPrefixOf lower ||
    (Text.rsplitOnce '.' lower).any fun (_, ext) => inTable sensitiveExtensions ext

def isSensitivePath (unicode : Unicode) (path : String) : Bool :=
  match (components path).getLast? with
  | none => false
  | some fileName =>
    -- file names are looked at in the last component only
    (components path).dropLast.any (isSensitiveDirectory unicode) ||
      isSensitiveFileName unicode fileName

def rejectSensitive (unicode : Unicode) (path : String) : SourceResult Unit :=
  rejectIf (isSensitivePath unicode path) (.sensitivePath path)

/-! ## Collisions -/

/-- Collision keys with the path that each was registered for. -/
abbrev Collisions := List (List Char × String)

def collisionKey (unicode : Unicode) (path : String) : List Char :=
  unicode.nfc ((unicode.nfc path.toList).flatMap unicode.charToLowercase)

def registerCollisionKey (unicode : Unicode) (collisions : Collisions) (path : String) :
    SourceResult Collisions :=
  match collisions.lookup (collisionKey unicode path) with
  | some existing =>
    if existing != path then .error (.caseCollision existing path) else .ok collisions
  | none => .ok ((collisionKey unicode path, path) :: collisions)

def registerPathComponents (unicode : Unicode) (collisions : Collisions) (path : String) :
    SourceResult Collisions :=
  (pathPrefixes path).foldlM (registerCollisionKey unicode) collisions

def hasFileAncestor (path : String) (filePaths : List String) : Bool :=
  (pathPrefixes path).dropLast.any filePaths.contains

end RustFerry.Source
