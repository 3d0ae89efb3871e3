import RustFerry.Native.WorkflowDispatch
import RustFerry.Native.WorkerStdio

/-!
# Requests of the GitHub provider

`rustferry-github/src/provider.rs` and `workflow.rs`: the parts of the configuration that the
checks of a submission read, `validate_submission`, `validate_git_snapshot_submission`, and the
temporary ref that `submit` forms before it reserves the job.
-/

namespace RustFerry.Github

open Remote Except

/-! ## Configuration -/

/-- `MAX_SIGNING_PROFILES`. -/
def maxSigningProfiles : Nat := 3

structure SigningTargetIdentity where
  name : String
  bundleIdentifier : String
  kind : Artifact.SigningTargetKind
  deriving DecidableEq

/-- The derived order: name, bundle identifier, kind. -/
def SigningTargetIdentity.le (a b : SigningTargetIdentity) : Bool :=
  if a.name ≠ b.name then a.name < b.name
  else if a.bundleIdentifier ≠ b.bundleIdentifier then a.bundleIdentifier < b.bundleIdentifier
  else a.kind.ctorIdx ≤ b.kind.ctorIdx

/-- Opaque GitHub secret references needed for manual development signing; a profile without a
    target is the one of a legacy configuration. -/
structure SigningSecretNames where
  certificateP12 : String
  certificatePassword : String
  provisioningProfiles : List (Option String × String)
  targetGraph : Option (List SigningTargetIdentity)
  targetGraphSha256 : Option String

def SigningSecretNames.usesLegacyProfileBinding (self : SigningSecretNames) : Bool :=
  match self.provisioningProfiles with
  | [(target, _)] => target.isNone
  | _ => false

/-- The name of the application's profile; only the branch of a legacy binding reads it, whose
    one profile it is. -/
def SigningSecretNames.provisioningProfile (self : SigningSecretNames) : Option String :=
  (self.provisioningProfiles.find? fun profile =>
    profile.2 == "RUSTFERRY_GOAL3_IOS_PROVISIONING_PROFILE").or self.provisioningProfiles.head?
    |>.map Prod.snd

def SigningSecretNames.profileForTarget (self : SigningSecretNames) (target : String) :
    Option String :=
  (self.provisioningProfiles.find? fun profile => profile.1.all (· == target)).map Prod.snd

def validSigningTargetName (value : String) : Bool :=
  value != "" && value.utf8ByteSize ≤ 128 && value.toList.all isNameCharacter &&
    !hasPair '.' '.' value.toList

/-- `canonical_signing_target_graph`, with `none` for its error. -/
def canonicalSigningTargetGraph (targets : List SigningTarget) :
    Option (List SigningTargetIdentity) :=
  let graph := targets.map fun target =>
    SigningTargetIdentity.mk target.name target.bundleIdentifier.value target.kind
  if graph.all (fun target => validSigningTargetName target.name) &&
      decide (graph.map (·.name)).Nodup && decide (graph.map (·.bundleIdentifier)).Nodup &&
      (graph.countP fun target => target.kind == .application) == 1 then
    some (graph.mergeSort SigningTargetIdentity.le)
  else none

/-- The parts of `WorkflowConfig` that the checks read. -/
structure WorkflowConfig where
  runTrigger : WorkflowRunTrigger
  temporaryBranchNamespace : TemporaryBranchNamespace
  secretNames : SigningSecretNames

/-- External mutation authority, with the deletion of the temporary ref. -/
structure GithubMutationAuthorization extends MutationAuthorization where
  deleteTemporaryRef : Bool

/-- The parts of `GithubProviderConfig` that the checks of a submission read. -/
structure GithubProviderConfig where
  repository : Repository
  sourceRepository : String
  workflow : WorkflowConfig
  mutationAuthorization : GithubMutationAuthorization

/-! ## Errors -/

/-- What the checks of a submission return; an error of the request keeps its own. -/
inductive SubmissionError where
  | failure (code message : String)
  | unsupported (feature : ProviderFeature)
  | request (error : RequestError)
  deriving DecidableEq

abbrev SubmissionResult := Except SubmissionError

/-! ## Checks -/

def githubRemoteMatches (actual expectedHttps : String) : Bool :=
  let slashless := Text.trimEndMatches ['/'] actual.toList.length actual.toList
  let bare := Text.trimEndMatches ".git".toList slashless.length slashless
  Text.eqIgnoreAsciiCase bare expectedHttps.toList ||
    match Text.stripFront "https://github.com/".toList expectedHttps.toList with
    | none => false
    | some slug =>
      Text.eqIgnoreAsciiCase bare ("git@github.com:".toList ++ slug) ||
        Text.eqIgnoreAsciiCase bare ("ssh://git@github.com/".toList ++ slug)

def validateRefSegment (value : String) : Bool :=
  !(value == "" || value.utf8ByteSize > 160 || !value.toList.head?.any Char.isAlphanum ||
    endsWith value "." ||
    (match Text.rsplitOnce '.' value.toList with
      | some (_, ext) => Text.eqIgnoreAsciiCase ext "lock".toList
      | none => false) ||
    hasPair '.' '.' value.toList || !value.toList.all isNameCharacter)

def exactGithubSecret (reference : SecretReference) (expectedName : String) : Bool :=
  reference.kind = .githubActions && reference.name == expectedName

/-- The least artifact type that is requested and not expected. -/
def extraArtifact (requested expected : Finset IosArtifactType) : Option IosArtifactType :=
  ((requested \ expected).sort (· ≤ ·)).head?

def validateExactArtifactRequest (request : IosDeviceBuildRequest)
    (expected : Finset IosArtifactType) : SubmissionResult Unit :=
  if request.requestedArtifacts = expected then .ok ()
  else
    match extraArtifact request.requestedArtifacts expected with
    | some extra => .error (.unsupported (.artifactType extra))
    | none => .error (.failure "artifact_request_mismatch"
        "requested artifacts do not exactly match the selected signing mode")

def validateSignedArtifactRequest (request : IosDeviceBuildRequest) : SubmissionResult Unit :=
  match extraArtifact request.requestedArtifacts
      {.ipa, .appBundle, .xcarchive, .dsym, .signingReport} with
  | some extra => .error (.unsupported (.artifactType extra))
  | none =>
    rejectIf (!decide ({.ipa, .signingReport} ⊆ request.requestedArtifacts))
      (.failure "artifact_request_mismatch"
        "signed builds require the IPA and signing report artifact set")

/-- `names.matches_target_graph`. -/
def matchesTargetGraph (targetGraphSha256 : List SigningTarget → String)
    (names : SigningSecretNames) (targets : List SigningTarget) : Bool :=
  names.targetGraph.any fun expected =>
    canonicalSigningTargetGraph targets == some expected &&
      names.targetGraphSha256 == some (targetGraphSha256 targets)

/-- `validate_signing_secret_references`; the digest of a target graph is the one of the
    protocol crate. -/
def validateSigningSecretReferences (targetGraphSha256 : List SigningTarget → String)
    (config : GithubProviderConfig) (request : IosDeviceBuildRequest) : SubmissionResult Unit :=
  let names := config.workflow.secretNames
  let identityReferencesMatch := request.signing.signing.any fun signing =>
    exactGithubSecret signing.identity.privateKey.reference names.certificateP12 &&
      signing.password.any fun password => exactGithubSecret password names.certificatePassword
  let profilesMatch :=
    if names.usesLegacyProfileBinding then
      match request.signing.provisioning with
      | [profile] => names.provisioningProfile.any (exactGithubSecret profile.profile)
      | _ => false
    else
      matchesTargetGraph targetGraphSha256 names request.signing.targets &&
        request.signing.provisioning.length == names.provisioningProfiles.length &&
        request.signing.provisioning.all fun profile =>
          (names.profileForTarget profile.target).any (exactGithubSecret profile.profile)
  rejectIf (!identityReferencesMatch || !profilesMatch)
    (.failure "signing_secret_reference_mismatch"
      "signed GitHub builds require the exact configured GitHub Actions secret roles")

/-- What the checks of a submission take from other modules and crates. -/
structure SubmissionTools where
  request : RequestTools
  /-- `canonical_signing_target_graph_sha256`. -/
  targetGraphSha256 : List SigningTarget → String

/-- The checks that depend on how the source is obtained and how the product is signed. -/
def validateSourceAndSigning (tools : SubmissionTools) (config : GithubProviderConfig)
    (request : IosDeviceBuildRequest) : SubmissionResult Unit :=
  match request.sourceMode, request.signing.mode with
  | .git, .unsignedCompileOnly | .gitSnapshot, .unsignedCompileOnly =>
    validateExactArtifactRequest request {.xcarchive}
  | .gitSnapshot, _ => .error (.failure "snapshot_signing_unsupported"
      "GitHub snapshots support unsigned compilation only")
  | .git, .manualDevelopment => do
    rejectIf (githubRemoteMatches config.sourceRepository (repositoryUrl config.repository))
      (.failure "separate_signing_repository_required"
        "signed builds require a separate private execution repository")
    validateSigningSecretReferences tools.targetGraphSha256 config request
    validateSignedArtifactRequest request
  | _, mode => .error (.unsupported (.signingMode mode))

def validateProviderRequest (tools : SubmissionTools) (config : GithubProviderConfig)
    (request : IosDeviceBuildRequest) : SubmissionResult Unit := do
  rejectIf (request.signing.mode = .manualDevelopment &&
      !(1 ≤ request.signing.provisioning.length &&
        request.signing.provisioning.length ≤ maxSigningProfiles))
    (.failure "profile_mapping_unsupported"
      "GitHub provider accepts one application profile and at most two extension profiles")
  (request.validate tools.request).mapError .request
  rejectIf (!(request.sourceMode = .git || request.sourceMode = .gitSnapshot) ||
      request.sourceRepository != some config.sourceRepository || request.sourceRevision.isNone)
    (.failure "unsupported_source_request"
      "GitHub provider requires its exact configured Git source repository and commit")
  validateSourceAndSigning tools config request
  rejectIf (!validateRefSegment request.operationId)
    (.failure "operation_id_not_ref_safe" "operation ID cannot form a safe temporary Git ref")

def validateSubmission (tools : SubmissionTools) (config : GithubProviderConfig)
    (request : IosDeviceBuildRequest) : SubmissionResult Unit := do
  validateProviderRequest tools config request
  rejectIf (request.sourceMode ≠ .git)
    (.failure "snapshot_submission_requires_consent"
      "Git snapshots require the explicit consent-bound submission path")

def validateGitSnapshotSubmission (tools : SubmissionTools) (config : GithubProviderConfig)
    (request : IosDeviceBuildRequest) : SubmissionResult Unit := do
  validateProviderRequest tools config request
  rejectIf (request.sourceMode ≠ .gitSnapshot || request.signing.mode ≠ .unsignedCompileOnly)
    (.failure "unsupported_snapshot_request"
      "GitHub snapshots require an unsigned physical-iPhone XCArchive request")
  let authorization := config.mutationAuthorization
  rejectIf (!authorization.publishTemporaryRef || !authorization.deleteTemporaryRef ||
      !authorization.publishGitSnapshotSource || !authorization.deleteGitSnapshotSource ||
      !authorization.manageGitSnapshotKeepalive)
    (.failure "snapshot_mutation_unauthorized"
      "Git snapshot publication and cleanup authority are not configured")

/-! ## The temporary ref -/

def operationNotRefSafe : SubmissionError :=
  .failure "operation_id_not_ref_safe" "operation ID cannot form a safe temporary Git ref"

/-- The branch that `submit` names after the operation, and the ref that it is. -/
def formTemporaryRef (config : GithubProviderConfig) (request : IosDeviceBuildRequest) :
    SubmissionResult TemporaryGitRef := do
  let branch ← (BranchName.new (config.workflow.temporaryBranchNamespace.value ++ "/" ++
    request.operationId)).mapError fun _ => operationNotRefSafe
  (TemporaryGitRef.new config.workflow.temporaryBranchNamespace branch).mapError fun _ =>
    operationNotRefSafe

/-- The commit that `submit` reads from the request. -/
def submissionSourceRevision (request : IosDeviceBuildRequest) : SubmissionResult CommitSha :=
  match request.sourceRevision with
  | none => .error (.failure "invalid_source_revision" "source revision is not an exact commit SHA")
  | some revision => (CommitSha.new revision).mapError fun _ =>
      .failure "invalid_source_revision" "source revision is not an exact commit SHA"

/-- A submission past its checks and with its ref. -/
structure PreparedSubmission where
  temporaryRef : TemporaryGitRef
  sourceRevision : CommitSha

/-- The part of `submit` before the job is reserved. -/
def prepareSubmission (tools : SubmissionTools) (config : GithubProviderConfig) (durable : Bool)
    (request : IosDeviceBuildRequest) : SubmissionResult PreparedSubmission := do
  validateSubmission tools config request
  rejectIf (config.workflow.runTrigger = .workflowDispatch && !durable)
    (.failure "workflow_dispatch_checkpoint_required"
      "Workflow dispatch requires a durable provider checkpoint sink")
  let temporaryRef ← formTemporaryRef config request
  let sourceRevision ← submissionSourceRevision request
  pure ⟨temporaryRef, sourceRevision⟩

end RustFerry.Github
