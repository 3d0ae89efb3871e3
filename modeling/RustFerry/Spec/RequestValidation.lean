import RustFerry.Native.RequestCodec

/-!
# Validated requests

What `IosDeviceBuildRequest::validate` accepts, check by check. The checks read each field
by itself, so a request stays valid when a field is replaced by one that passes its check.
-/

namespace RustFerry.Remote

open Artifact Except

variable {tools : RequestTools} {request : IosDeviceBuildRequest}

/-- The checks of a request, one by one. -/
structure RequestOk (tools : RequestTools) (request : IosDeviceBuildRequest) : Prop where
  version : ∃ v, currentProtocolVersion.negotiate request.protocolVersion = .ok v
  operation : validateIdentifier "operation_id" request.operationId = .ok ()
  productName : validateSafeText "product_name" request.productName 255 = .ok ()
  bundle : validateBundleIdentifier request.bundleIdentifier = .ok ()
  iosVersion : validateIosVersion request.minimumIosVersion = .ok ()
  product : validateProductExpectation tools.inspection request.product request.bundleIdentifier
    request.signing.product = .ok ()
  source : Source.validateSourceManifest tools.source request.source .default = .ok ()
  signing : request.signing.validate = .ok ()
  application : (request.signing.targets.find? fun target => target.kind == .application).map
    (·.bundleIdentifier.value) = some request.bundleIdentifier
  artifacts : validateRequestedArtifactSelection request.signing.mode
    request.requestedArtifacts = .ok ()
  sourceMode : request.validateSourceMode tools = .ok ()
  nonempty : request.requestedArtifacts ≠ ∅

/-- A request is valid exactly when it passes each check. -/
theorem validate_eq_ok : request.validate tools = .ok () ↔ RequestOk tools request := by
  unfold IosDeviceBuildRequest.validate
  rw [bind_eq_ok]
  simp only [check_bind_eq_ok, mapError_eq_ok, rejectIf_eq_ok, bne_eq_false_iff_eq,
    decide_eq_false_iff_not]
  constructor
  · intro hparts
    obtain ⟨v, hv, h1, h2, h3, h4, h5, h6, h7, h8, h9, h10, h11⟩ := hparts
    exact ⟨⟨v, hv⟩, h1, h2, h3, h4, h5, h6, h7, h8, h9, h10, h11⟩
  · intro hparts
    obtain ⟨⟨v, hv⟩, h1, h2, h3, h4, h5, h6, h7, h8, h9, h10, h11⟩ := hparts
    exact ⟨v, hv, h1, h2, h3, h4, h5, h6, h7, h8, h9, h10, h11⟩

/-- A manifest is checked in the same way by tools that read texts and hash its digest alike. -/
theorem validateSourceManifest_congr {tools tools' : Source.SourceTools}
    {manifest : Snapshot.SourceManifest} {limits : Source.SourceLimits}
    (hunicode : tools'.unicode = tools.unicode)
    (hdigest : Source.manifestDigest tools' manifest.projectPath manifest.entries
      manifest.totalSize = Source.manifestDigest tools manifest.projectPath manifest.entries
        manifest.totalSize) :
    Source.validateSourceManifest tools' manifest limits =
      Source.validateSourceManifest tools manifest limits := by
  have hentry : Source.validateManifestEntry tools' = Source.validateManifestEntry tools := by
    funext limits projectPath state entry
    simp only [Source.validateManifestEntry, hunicode]
  simp only [Source.validateSourceManifest, hunicode, hentry, hdigest]

end RustFerry.Remote
