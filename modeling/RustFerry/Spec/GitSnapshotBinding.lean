import RustFerry.Native.GitSnapshot
import RustFerry.Spec.RequestBytes

/-!
# Binding of Git snapshot descriptors

A descriptor made before the snapshot is published validates for the published request, and a
descriptor that validates for two requests binds them to one template: they agree on every
field but the source revision, or their templates are a collision of SHA-256.
-/

namespace RustFerry.Remote

open Except Source

/-- Two byte strings that the digest does not tell apart. -/
def Collides (sha256 : List UInt8 → String) (x y : List UInt8) : Prop :=
  x ≠ y ∧ sha256 x = sha256 y

/-- The request with its source revision erased. -/
def IosDeviceBuildRequest.withoutRevision (self : IosDeviceBuildRequest) :
    IosDeviceBuildRequest :=
  { self with sourceRevision := none }

section

variable {tools : RequestTools} {request : IosDeviceBuildRequest}

/-! ## Templates -/

/-- The revision that the template is validated with. -/
def templateRevision (request : IosDeviceBuildRequest) : String :=
  request.sourceRevision.getD (String.ofList (List.replicate 40 '0'))

/-- The digest of an accepted request. -/
theorem templateSha256_eq_ok {digest : String} :
    canonicalGitSnapshotRequestTemplateSha256 tools request = .ok digest ↔
      request.sourceMode = .gitSnapshot ∧
      RequestOk tools { request with sourceRevision := some (templateRevision request) } ∧
      tools.inspection.sha256 (toVec request.withoutRevision) = digest := by
  rw [canonicalGitSnapshotRequestTemplateSha256, bind_eq_ok]
  simp only [canonicalGitSnapshotRequestTemplateBytes, check_bind_eq_ok, rejectIf_eq_ok,
    bne_eq_false_iff_eq, validate_eq_ok]
  constructor
  · intro hparts
    obtain ⟨bytes, ⟨hmode, hvalid, hbytes⟩, hdigest⟩ := hparts
    cases hbytes
    exact ⟨hmode, hvalid, Except.ok.inj hdigest⟩
  · intro hparts
    obtain ⟨hmode, hvalid, hdigest⟩ := hparts
    exact ⟨_, ⟨hmode, hvalid, rfl⟩, congrArg _ hdigest⟩

/-- A valid Git snapshot request stays valid with another valid revision. -/
theorem RequestOk.withRevision {revision revision' : String}
    (h : RequestOk tools { request with sourceRevision := some revision })
    (hmode : request.sourceMode = .gitSnapshot) (hrevision : validateGitRevision revision' = .ok ()) :
    RequestOk tools { request with sourceRevision := some revision' } := by
  have hsource := h.sourceMode
  simp only [IosDeviceBuildRequest.validateSourceMode, hmode] at hsource
  refine { h with sourceMode := ?_ }
  simp only [IosDeviceBuildRequest.validateSourceMode, hmode]
  cases hrepository : request.sourceRepository with
  | none =>
    rw [hrepository] at hsource
    cases hsource
  | some repository =>
    rw [hrepository] at hsource
    simp only [check_bind_eq_ok, mapError_eq_ok] at hsource ⊢
    exact ⟨hsource.1, hrevision⟩

/-! ## Descriptors -/

/-- What a descriptor made from a request holds. -/
theorem fromRequest_eq_ok {bundle : Snapshot.SourceBundleDescriptor}
    {descriptor : GitSnapshotDescriptor}
    (h : GitSnapshotDescriptor.fromRequest tools request bundle = .ok descriptor) :
    request.sourceMode = .gitSnapshot ∧ request.source = descriptor.bundle.manifest ∧
      request.sourceRepository = some descriptor.sourceRepository ∧
      request.operationId = descriptor.operationId ∧
      canonicalGitSnapshotRequestTemplateSha256 tools request =
        .ok descriptor.requestTemplateSha256 ∧
      descriptor.validate tools gitSnapshotArchiveLimits = .ok () := by
  unfold GitSnapshotDescriptor.fromRequest at h
  simp only [check_bind_eq_ok, rejectIf_eq_ok, bne_eq_false_iff_eq] at h
  obtain ⟨hmode, hmanifest, h⟩ := h
  split at h
  · cases h
  · rename_i repository hrepository
    simp only [bind_eq_ok, mapError_eq_ok] at h
    obtain ⟨ref, -, digest, hdigest, _, hvalid, hdescriptor⟩ := h
    cases hdescriptor
    exact ⟨hmode, hmanifest.symm, hrepository, rfl, hdigest, hvalid⟩

/-- A descriptor is made when each of its parts can be made and it is valid. -/
theorem fromRequest_of_ok {bundle : Snapshot.SourceBundleDescriptor}
    {sourceRepository snapshotRef requestTemplateSha256 : String}
    (hmode : request.sourceMode = .gitSnapshot) (hsource : bundle.manifest = request.source)
    (hrepository : request.sourceRepository = some sourceRepository)
    (href : gitSnapshotRef request.operationId = .ok snapshotRef)
    (hdigest : canonicalGitSnapshotRequestTemplateSha256 tools request =
      .ok requestTemplateSha256)
    (hvalid : GitSnapshotDescriptor.validate tools ⟨gitSnapshotDescriptorSchemaVersion,
      request.operationId, sourceRepository, snapshotRef, requestTemplateSha256, bundle⟩
      gitSnapshotArchiveLimits = .ok ()) :
    GitSnapshotDescriptor.fromRequest tools request bundle =
      .ok ⟨gitSnapshotDescriptorSchemaVersion, request.operationId, sourceRepository, snapshotRef,
        requestTemplateSha256, bundle⟩ := by
  unfold GitSnapshotDescriptor.fromRequest
  simp only [hmode, hsource, hrepository, href, hdigest, bne_self_eq_false, rejectIf, bind,
    Except.bind, Except.mapError, Bool.false_eq_true, if_false, hvalid]
  rfl

/-- What a descriptor is checked against. -/
theorem validateForRequest_eq_ok {descriptor : GitSnapshotDescriptor}
    {limits : SourceArchiveLimits} :
    descriptor.validateForRequest tools request limits = .ok () ↔
      RequestOk tools request ∧ descriptor.validate tools limits = .ok () ∧
      (request.sourceMode = .gitSnapshot ∧ request.operationId = descriptor.operationId ∧
        request.sourceRepository = some descriptor.sourceRepository ∧
        request.source = descriptor.bundle.manifest) ∧
      canonicalGitSnapshotRequestTemplateSha256 tools request =
        .ok descriptor.requestTemplateSha256 := by
  unfold GitSnapshotDescriptor.validateForRequest
  simp only [check_bind_eq_ok, mapError_eq_ok, rejectIf_eq_ok, bne_eq_false_iff_eq,
    Bool.or_eq_false_iff, validate_eq_ok]
  simp only [bind_eq_ok, mapError_eq_ok, rejectIf_eq_ok, bne_eq_false_iff_eq]
  constructor
  · intro hparts
    obtain ⟨hvalid, hdescriptor, ⟨⟨⟨hmode, hoperation⟩, hrepository⟩, hsource⟩, digest, hdigest, heq⟩ := hparts
    obtain rfl := heq
    exact ⟨hvalid, hdescriptor, ⟨hmode, hoperation, hrepository, hsource⟩, hdigest⟩
  · intro hparts
    obtain ⟨hvalid, hdescriptor, ⟨hmode, hoperation, hrepository, hsource⟩, hdigest⟩ := hparts
    exact ⟨hvalid, hdescriptor, ⟨⟨⟨hmode, hoperation⟩, hrepository⟩, hsource⟩, _, hdigest, rfl⟩

/-- Requests with one template digest are equal up to the revision, or their templates
    collide. -/
theorem withoutRevision_eq_of_digest {a b : IosDeviceBuildRequest} {digest : String}
    (ha : canonicalGitSnapshotRequestTemplateSha256 tools a = .ok digest)
    (hb : canonicalGitSnapshotRequestTemplateSha256 tools b = .ok digest)
    (hfree : ¬ Collides tools.inspection.sha256 (toVec a.withoutRevision)
      (toVec b.withoutRevision)) :
    a.withoutRevision = b.withoutRevision := by
  obtain ⟨-, -, hdigest⟩ := templateSha256_eq_ok.mp ha
  obtain ⟨-, -, hdigest'⟩ := templateSha256_eq_ok.mp hb
  apply toVec_injective
  by_contra hne
  exact hfree ⟨hne, hdigest.trans hdigest'.symm⟩

end

/-- **Binding**: the descriptor made from a request without a revision validates for the
    request completed with any valid revision. A request that a descriptor validates for has
    the template the descriptor was made from, and two requests that it validates for differ
    in the revision only, where SHA-256 does not collide on their templates. -/
theorem git_snapshot_binding (tools : RequestTools) :
    (∀ request bundle descriptor revision, request.sourceRevision = none →
      GitSnapshotDescriptor.fromRequest tools request bundle = .ok descriptor →
      validateGitRevision revision = .ok () →
      descriptor.validateForRequest tools { request with sourceRevision := some revision }
        gitSnapshotArchiveLimits = .ok ()) ∧
    (∀ origin bundle descriptor request limits,
      GitSnapshotDescriptor.fromRequest tools origin bundle = .ok descriptor →
      descriptor.validateForRequest tools request limits = .ok () →
      ¬ Collides tools.inspection.sha256 (toVec request.withoutRevision)
        (toVec origin.withoutRevision) →
      request.withoutRevision = origin.withoutRevision) ∧
    (∀ descriptor a b limits limits',
      GitSnapshotDescriptor.validateForRequest tools descriptor a limits = .ok () →
      GitSnapshotDescriptor.validateForRequest tools descriptor b limits' = .ok () →
      ¬ Collides tools.inspection.sha256 (toVec a.withoutRevision) (toVec b.withoutRevision) →
      a.withoutRevision = b.withoutRevision) := by
  refine ⟨?_, ?_, ?_⟩
  · intro request bundle descriptor revision _ hmade hrevision
    obtain ⟨hmode, hsource, hrepository, hoperation, hdigest, hdescriptor⟩ :=
      fromRequest_eq_ok hmade
    obtain ⟨-, hvalid, htemplate⟩ := templateSha256_eq_ok.mp hdigest
    have hcompleted := hvalid.withRevision hmode hrevision
    -- the completed request has the same template
    have hdigest' : canonicalGitSnapshotRequestTemplateSha256 tools
        { request with sourceRevision := some revision } = .ok descriptor.requestTemplateSha256 :=
      templateSha256_eq_ok.mpr ⟨hmode, hcompleted, htemplate⟩
    exact validateForRequest_eq_ok.mpr
      ⟨hcompleted, hdescriptor, ⟨hmode, hoperation, hrepository, hsource⟩, hdigest'⟩
  · intro origin bundle descriptor request limits hmade hvalidated hfree
    obtain ⟨-, -, -, -, hdigest, -⟩ := fromRequest_eq_ok hmade
    obtain ⟨-, -, -, hdigest'⟩ := validateForRequest_eq_ok.mp hvalidated
    exact withoutRevision_eq_of_digest hdigest' hdigest hfree
  · intro descriptor a b limits limits' ha hb hfree
    obtain ⟨-, -, -, hdigest⟩ := validateForRequest_eq_ok.mp ha
    obtain ⟨-, -, -, hdigest'⟩ := validateForRequest_eq_ok.mp hb
    exact withoutRevision_eq_of_digest hdigest hdigest' hfree

namespace Sample

/-- The sample request before its snapshot is published. -/
def unpublished : IosDeviceBuildRequest := request.withoutRevision

def bundle : Snapshot.SourceBundleDescriptor where
  schemaVersion := 1
  archive := ⟨22, "8739c76e681f900923b900c9df0ef75cf421d39cabb54650c4b9ad19b6a76d85"⟩
  manifest := manifest

def descriptor : GitSnapshotDescriptor where
  schemaVersion := 1
  operationId := "operation-1"
  sourceRepository := "https://github.com/example/app"
  snapshotRef := "refs/rustferry/goal3/snapshots/operation-1"
  requestTemplateSha256 := "10bde322622a431024a9e5fae689b7240d99388036ed2e894cfdc70437d5227a"
  bundle := bundle

/-- A request starts with a brace, so its digest is not the one of the manifest. -/
theorem sha256_toVec (request : IosDeviceBuildRequest) :
    sha256 (toVec request) = descriptor.requestTemplateSha256 := by
  have hhead : (toVec request).head? = some 0x7b := by
    rw [toVec, Text.utf8_ofList]
    show ((Json.object _).print.flatMap String.utf8EncodeChar).head? = _
    rw [Json.print]
    rfl
  have hne : toVec request ≠ manifestBytes := by
    intro h
    rw [h] at hhead
    exact absurd hhead (by decide)
  rw [sha256, if_neg hne]
  rfl

theorem descriptor_checks : gitSnapshotRef "operation-1" = .ok descriptor.snapshotRef ∧
    descriptor.validate tools gitSnapshotArchiveLimits = .ok () := by
  decide +kernel

theorem gitSnapshotRef_operation : gitSnapshotRef "operation-1" = .ok descriptor.snapshotRef :=
  descriptor_checks.1

theorem validate_descriptor : descriptor.validate tools gitSnapshotArchiveLimits = .ok () :=
  descriptor_checks.2

theorem fromRequest_unpublished :
    GitSnapshotDescriptor.fromRequest tools unpublished bundle = .ok descriptor := by
  have hvalid : RequestOk tools
      { unpublished with sourceRevision := some (templateRevision unpublished) } :=
    @RequestOk.withRevision tools unpublished _ _ (validate_eq_ok.mp validate_request) rfl
      (by decide)
  have hdigest : canonicalGitSnapshotRequestTemplateSha256 tools unpublished =
      .ok descriptor.requestTemplateSha256 :=
    templateSha256_eq_ok.mpr ⟨rfl, hvalid, sha256_toVec _⟩
  exact fromRequest_of_ok rfl rfl rfl gitSnapshotRef_operation hdigest validate_descriptor

/-- The descriptor of the sample validates for the published request, whose template is the
    one it was made from. -/
theorem git_snapshot_binding_of_request :
    descriptor.validateForRequest tools request gitSnapshotArchiveLimits = .ok () ∧
      request.withoutRevision = unpublished.withoutRevision := by
  obtain ⟨hcomplete, htemplate, -⟩ := git_snapshot_binding tools
  have hvalidated := hcomplete unpublished bundle descriptor
    "0123456789abcdef0123456789abcdef01234567" rfl fromRequest_unpublished (by decide)
  exact ⟨hvalidated, htemplate unpublished bundle descriptor request gitSnapshotArchiveLimits
    fromRequest_unpublished hvalidated fun ⟨hne, _⟩ => hne rfl⟩

end Sample

end RustFerry.Remote
