import RustFerry.Native.Signing
import RustFerry.Native.SourceManifest

/-!
# Build requests

The complete `IosDeviceBuildRequest` with its checks and its canonical encodings
(`crates/rustferry-remote/src/protocol.rs`), and the descriptor of a Git snapshot
(`crates/rustferry-remote/src/source.rs`). `url::Url::parse` is a parameter.
-/

namespace RustFerry.Remote

open Serde Artifact Except Source

/-! ## Data -/

/-- Optimization profile requested from the remote worker. -/
inductive BuildProfile where
  | debug
  | release
  deriving DecidableEq

def BuildProfile.name : BuildProfile → String
  | .debug => "debug"
  | .release => "release"

/-- How a remote provider obtains source input. -/
inductive SourceMode where
  | git
  | gitSnapshot
  | snapshot
  deriving DecidableEq

def SourceMode.name : SourceMode → String
  | .git => "git"
  | .gitSnapshot => "git_snapshot"
  | .snapshot => "snapshot"

theorem IosArtifactType.ctorIdx_injective : Function.Injective IosArtifactType.ctorIdx := by
  intro a b h
  cases a <;> cases b <;> first | rfl | cases h

/-- Artifact types are ordered as they are declared. -/
instance : LinearOrder IosArtifactType :=
  LinearOrder.lift' IosArtifactType.ctorIdx IosArtifactType.ctorIdx_injective

/-- Declarative request for an official physical-iPhone build. -/
structure IosDeviceBuildRequest where
  protocolVersion : ProtocolVersion
  operationId : String
  productName : String
  bundleIdentifier : String
  minimumIosVersion : String
  product : IosDeviceProductExpectation
  profile : BuildProfile
  sourceMode : SourceMode
  sourceRepository : Option String
  sourceRevision : Option String
  source : Snapshot.SourceManifest
  signing : SigningPlan
  requestedArtifacts : Finset IosArtifactType
  deriving DecidableEq

/-- The parts of a URL that the checks read. -/
structure ParsedUrl where
  scheme : String
  host : Option String
  port : Option Nat
  username : String
  password : Option String
  query : Option String
  fragment : Option String
  pathSegments : List String

/-- What the checks of a request take from other crates. -/
structure RequestTools where
  inspection : InspectionTools
  parseUrl : String → Option ParsedUrl

/-- The tables and the digest of the source module. -/
def RequestTools.source (tools : RequestTools) : SourceTools where
  unicode := ⟨tools.inspection.nfc, tools.inspection.charToLowercase, tools.inspection.toLowercase⟩
  sha256 := tools.inspection.sha256

/-! ## Validation -/

/-- Errors of a request: those of the protocol, and `InvalidSourceManifest` with the error of
    the source module in place of its text. -/
inductive RequestError where
  | remote (error : RemoteBuildError)
  | invalidSourceManifest (error : SourceError)
  deriving DecidableEq

abbrev RequestResult := Except RequestError

def invalidRequest (reason : String) : RequestError :=
  .remote (.invalidEventPayload "ios_device_build_request" reason)

def validateRequestedArtifactSelection (signingMode : SigningMode)
    (requestedArtifacts : Finset IosArtifactType) : RequestResult Unit := do
  rejectIf (signingMode = .unsignedCompileOnly && .ipa ∈ requestedArtifacts)
    (invalidRequest "unsigned compile-only mode cannot request an installable IPA")
  rejectIf (signingMode.isSigned && .ipa ∉ requestedArtifacts)
    (invalidRequest "signed builds must request the installable IPA")
  rejectIf (signingMode.isSigned && .signingReport ∉ requestedArtifacts)
    (invalidRequest "signed builds must request the signing report")

def isGithubName (value : String) : Bool :=
  value != "" && value != "." && value != ".." &&
    value.toList.all fun c => c.isAlphanum || c == '-' || c == '_' || c == '.'

def validateGithubRepository (tools : RequestTools) (value : String) : RemoteBuildResult Unit := do
  validateSafeText "source_repository" value 2048
  match tools.parseUrl value with
  | none => .error (.invalidIdentifier "source_repository" "value is not a valid URL")
  | some url => do
    rejectIf (url.scheme != "https" || url.host != some "github.com" || url.port.isSome ||
        url.username != "" || url.password.isSome || url.query.isSome || url.fragment.isSome)
      (.invalidIdentifier "source_repository"
        "value must be a credential-free HTTPS GitHub repository URL")
    match url.pathSegments with
    | [owner, repository] => do
      rejectIf (!isGithubName owner || !isGithubName repository)
        (.invalidIdentifier "source_repository"
          "value must contain exactly one GitHub owner and repository")
      rejectIf (value != "https://github.com/" ++ owner ++ "/" ++ repository)
        (.invalidIdentifier "source_repository" "value is not normalized")
    | _ => .error (.invalidIdentifier "source_repository"
        "value must contain exactly one GitHub owner and repository")

def validateGitRevision (value : String) : RemoteBuildResult Unit :=
  rejectIf (!(value.utf8ByteSize == 40 && value.toList.all fun c =>
      c.isDigit || ('a' ≤ c && c ≤ 'f')))
    (.invalidIdentifier "source_revision" "value must be an exact lowercase 40-hex commit SHA")

/-- The checks on how the source is obtained. -/
def IosDeviceBuildRequest.validateSourceMode (tools : RequestTools)
    (self : IosDeviceBuildRequest) : RequestResult Unit :=
  match self.sourceMode with
  | .git | .gitSnapshot =>
    match self.sourceRepository, self.sourceRevision with
    | none, _ =>
      .error (invalidRequest "Git source requires a normalized HTTPS GitHub repository URL")
    | some _, none => .error (invalidRequest "Git source requires an exact commit SHA")
    | some repository, some revision => do
      (validateGithubRepository tools repository).mapError .remote
      (validateGitRevision revision).mapError .remote
  | .snapshot =>
    rejectIf (self.sourceRepository.isSome || self.sourceRevision.isSome)
      (invalidRequest "snapshot source forbids repository and revision fields")

/-- Validate protocol and identifier fields before provider submission. -/
def IosDeviceBuildRequest.validate (tools : RequestTools) (self : IosDeviceBuildRequest) :
    RequestResult Unit := do
  let _ ← (currentProtocolVersion.negotiate self.protocolVersion).mapError .remote
  (validateIdentifier "operation_id" self.operationId).mapError .remote
  (validateSafeText "product_name" self.productName 255).mapError .remote
  (validateBundleIdentifier self.bundleIdentifier).mapError .remote
  (validateIosVersion self.minimumIosVersion).mapError .remote
  (validateProductExpectation tools.inspection self.product self.bundleIdentifier
    self.signing.product).mapError .remote
  (validateSourceManifest tools.source self.source .default).mapError .invalidSourceManifest
  self.signing.validate.mapError fun _ => invalidRequest "signing plan is invalid"
  let application := self.signing.targets.find? fun target => target.kind == .application
  rejectIf (application.map (·.bundleIdentifier.value) != some self.bundleIdentifier)
    (invalidRequest "signing plan application bundle identifier does not match request")
  validateRequestedArtifactSelection self.signing.mode self.requestedArtifacts
  self.validateSourceMode tools
  rejectIf (self.requestedArtifacts = ∅) (invalidRequest "at least one artifact type is required")

end RustFerry.Remote
