import RustFerry.Native.SnapshotParameters
import RustFerry.Spec.CleanupConfirmed
import RustFerry.Spec.GitSnapshotBinding

/-!
# Splitting and reconstructing a request

The checks of the snapshot session accept every request that the checks of the request
accept, so a valid request can always be split into parameters and a descriptor, and the
worker gets the same request back. A start binds the archive of the descriptor; the bytes of
the descriptor are bound by the worker, which compares their size and digest first.
-/

namespace RustFerry.Remote

open Artifact Except Source

section

variable {field value : String} {limits : SourceArchiveLimits} {start : SnapshotBuildStart}
  {descriptor : Snapshot.SourceBundleDescriptor}

section

variable {tools : RequestTools} {request : IosDeviceBuildRequest}

/-! ## The checks of the session follow from those of the request -/

theorem validateSafeText_eq_ok {maximum : Nat} :
    validateSafeText field value maximum = .ok () ↔
      value ≠ "" ∧ value.utf8ByteSize ≤ maximum ∧ value.toList.any Text.isControl = false := by
  unfold validateSafeText
  by_cases hempty : value = ""
  · simp [hempty]
  · by_cases hsize : value.utf8ByteSize > maximum
    · simp [hempty, hsize]
    · rw [if_neg hempty, if_neg hsize]
      by_cases hcontrol : value.toList.any Text.isControl = true
      · rw [if_pos hcontrol, hcontrol]
        simp
      · rw [if_neg hcontrol]
        have hfalse := Bool.eq_false_iff.mpr hcontrol
        simp only [true_iff]
        exact ⟨hempty, by omega, hfalse⟩

theorem validatePublicText_of_safeText {event : String} {maximum : Nat}
    (h : validateSafeText field value maximum = .ok ()) :
    Snapshot.validatePublicText value maximum event = .ok () := by
  obtain ⟨hempty, hsize, hcontrol⟩ := validateSafeText_eq_ok.mp h
  rw [Snapshot.validatePublicText, rejectIf_eq_ok]
  simp [hempty, hsize, hcontrol]

theorem session_bundleIdentifier (h : validateBundleIdentifier value = .ok ()) :
    SnapshotBuildParameters.validateBundleIdentifier value = .ok () := by
  rw [validateBundleIdentifier, check_bind_eq_ok, rejectIf_eq_ok] at h
  obtain ⟨htext, hsegments⟩ := h
  obtain ⟨-, hsize, -⟩ := validateSafeText_eq_ok.mp htext
  simp only [Bool.or_eq_false_iff, decide_eq_false_iff_not, Bool.not_eq_false'] at hsegments
  obtain ⟨hlength, hall⟩ := hsegments
  rw [SnapshotBuildParameters.validateBundleIdentifier, rejectIf_eq_ok]
  have hany : ∀ segment ∈ Text.split '.' value.toList, isBundleSegment segment = true :=
    List.all_eq_true.mp hall
  simp only [Bool.or_eq_false_iff, decide_eq_false_iff_not, List.any_eq_false]
  refine ⟨⟨by omega, hlength⟩, ?_⟩
  intro segment hmem
  have hsegment := hany segment hmem
  simp only [isBundleSegment, Bool.and_eq_true, Bool.not_eq_true', bne_iff_ne] at hsegment
  obtain ⟨⟨⟨hnonempty, hhead⟩, hlast⟩, hchars⟩ := hsegment
  simp [hnonempty, hhead, hlast, hchars]

theorem session_iosVersion (h : validateIosVersion value = .ok ()) :
    SnapshotBuildParameters.validateIosVersion value = .ok () := by
  rw [validateIosVersion, validateNumericVersion, check_bind_eq_ok, rejectIf_eq_ok] at h
  obtain ⟨-, hcomponents⟩ := h
  simp only [Bool.or_eq_false_iff, decide_eq_false_iff_not, Bool.not_eq_false'] at hcomponents
  obtain ⟨hlength, hall⟩ := hcomponents
  rw [SnapshotBuildParameters.validateIosVersion, rejectIf_eq_ok]
  simp only [Bool.or_eq_false_iff, decide_eq_false_iff_not, List.any_eq_false]
  refine ⟨hlength, ?_⟩
  intro component hmem
  have hcomponent := List.all_eq_true.mp hall component hmem
  simp only [isCanonicalNumeral, Bool.and_eq_true, Bool.or_eq_true, decide_eq_true_eq,
    bne_iff_ne] at hcomponent
  obtain ⟨hzero, hdigits⟩ := hcomponent
  -- a numeral has at least one digit
  have hnonempty : component.isEmpty = false := by
    cases component with
    | nil => cases hdigits
    | cons _ _ => rfl
  have hnone : (Text.parseDigits (2 ^ 16) component).isNone = false := by
    rw [Option.isNone_eq_false_iff]
    exact hdigits
  have hleading : (decide (component.length > 1) && component.head? == some '0') = false := by
    rcases hzero with hlen | hhead
    · simp [show ¬ component.length > 1 by omega]
    · simp [hhead]
  simp only [hnonempty, hnone, hleading, Bool.or_self, Bool.false_eq_true, not_false_eq_true]

theorem session_portableComponent (h : validatePortableFilename field value = .ok ()) :
    Snapshot.validatePortableComponentWithLimit value 255 = .ok () := by
  rw [validatePortableFilename, check_bind_eq_ok, check_bind_eq_ok, rejectIf_eq_ok] at h
  obtain ⟨htext, hchars, -⟩ := h
  obtain ⟨hempty, hsize, hcontrol⟩ := validateSafeText_eq_ok.mp htext
  simp only [Bool.or_eq_false_iff] at hchars
  obtain ⟨⟨⟨⟨hdot, hdots⟩, hany⟩, hlast⟩, hlast'⟩ := hchars
  rw [Snapshot.validatePortableComponentWithLimit, rejectIf_eq_ok]
  simp only [Bool.or_eq_false_iff, decide_eq_false_iff_not]
  exact ⟨⟨⟨⟨⟨⟨⟨by simpa using hempty, by omega⟩, hdot⟩, hdots⟩, hany⟩, hlast⟩, hlast'⟩, hcontrol⟩

theorem portable_of_product {product : IosDeviceProductExpectation} {bundleIdentifier : String}
    {signing : Artifact.SigningPlan}
    (h : validateProductExpectation tools.inspection product bundleIdentifier signing = .ok ()) :
    validatePortableFilename "app_directory_name" product.appDirectoryName = .ok () ∧
      validatePortableFilename "executable" product.executable = .ok () := by
  unfold validateProductExpectation at h
  simp only [check_bind_eq_ok] at h
  obtain ⟨hdirectory, -, hexecutable, -⟩ := h
  exact ⟨hdirectory, hexecutable⟩

theorem requireUnsignedXcarchive_eq_ok {signing : SigningPlan}
    {requestedArtifacts : Finset IosArtifactType} :
    SnapshotBuildParameters.requireUnsignedXcarchive signing requestedArtifacts = .ok () ↔
      signing.mode = .unsignedCompileOnly ∧ requestedArtifacts = {.xcarchive} := by
  rw [SnapshotBuildParameters.requireUnsignedXcarchive, check_bind_eq_ok]
  simp

/-- The parameters that a request is split into. -/
def parametersOf (request : IosDeviceBuildRequest) : SnapshotBuildParameters where
  protocolVersion := request.protocolVersion
  operationId := request.operationId
  productName := request.productName
  bundleIdentifier := request.bundleIdentifier
  minimumIosVersion := request.minimumIosVersion
  product := request.product
  profile := request.profile
  signing := request.signing
  requestedArtifacts := request.requestedArtifacts

/-- The session rejects the shape of no request that is valid, unsigned and asks for the
    archive. -/
theorem validateShape_parametersOf (hvalid : RequestOk tools request)
    (hunsigned : request.signing.mode = .unsignedCompileOnly)
    (hartifacts : request.requestedArtifacts = {.xcarchive}) :
    (parametersOf request).validateShape = .ok () := by
  obtain ⟨version, hversion⟩ := hvalid.version
  obtain ⟨hdirectory, hexecutable⟩ := portable_of_product hvalid.product
  unfold SnapshotBuildParameters.validateShape
  rw [bind_eq_ok]
  simp only [check_bind_eq_ok, mapError_eq_ok]
  exact ⟨version, hversion, hvalid.operation, validatePublicText_of_safeText hvalid.productName,
    session_bundleIdentifier hvalid.bundle, session_iosVersion hvalid.iosVersion,
    session_portableComponent hdirectory, session_portableComponent hexecutable, hvalid.signing,
    requireUnsignedXcarchive_eq_ok.mpr ⟨hunsigned, hartifacts⟩⟩

/-! ## The round trip -/

theorem fromRequest_parametersOf (hvalid : request.validate tools = .ok ())
    (hmode : request.sourceMode = .snapshot)
    (hunsigned : request.signing.mode = .unsignedCompileOnly)
    (hartifacts : request.requestedArtifacts = {.xcarchive}) :
    SnapshotBuildParameters.fromRequest tools request = .ok (parametersOf request) := by
  have hshape := validateShape_parametersOf (validate_eq_ok.mp hvalid) hunsigned hartifacts
  unfold SnapshotBuildParameters.fromRequest
  simp only [check_bind_eq_ok, rejectIf_eq_ok, bne_eq_false_iff_eq]
  exact ⟨hvalid, hmode, requireUnsignedXcarchive_eq_ok.mpr ⟨hunsigned, hartifacts⟩, hshape, rfl⟩

/-- A valid snapshot request has neither a repository nor a revision, so nothing is lost. -/
theorem toRequest_parametersOf (hvalid : RequestOk tools request)
    (hmode : request.sourceMode = .snapshot) :
    (parametersOf request).toRequest request.source = request := by
  have hsource := hvalid.sourceMode
  rw [IosDeviceBuildRequest.validateSourceMode, hmode] at hsource
  simp only [rejectIf_eq_ok, Bool.or_eq_false_iff, Option.isSome_eq_false_iff,
    Option.isNone_iff_eq_none] at hsource
  obtain ⟨hrepository, hrevision⟩ := hsource
  unfold SnapshotBuildParameters.toRequest parametersOf
  rw [← hrepository, ← hmode]
  nth_rewrite 2 [hrepository]
  rw [← hrevision]

theorem reconstructRequest_parametersOf (hvalid : request.validate tools = .ok ())
    (hmode : request.sourceMode = .snapshot)
    (hunsigned : request.signing.mode = .unsignedCompileOnly)
    (hartifacts : request.requestedArtifacts = {.xcarchive})
    (hmanifest : descriptor.manifest = request.source)
    (hdescriptor : validateDescriptor tools.source descriptor limits = .ok ()) :
    (parametersOf request).reconstructRequest tools descriptor limits = .ok request := by
  have hshape := validateShape_parametersOf (validate_eq_ok.mp hvalid) hunsigned hartifacts
  have hrequest := toRequest_parametersOf (validate_eq_ok.mp hvalid) hmode
  unfold SnapshotBuildParameters.reconstructRequest
  simp only [check_bind_eq_ok, mapError_eq_ok, hmanifest, hrequest]
  exact ⟨hshape, hdescriptor, hvalid, requireUnsignedXcarchive_eq_ok.mpr ⟨hunsigned, hartifacts⟩,
    rfl⟩

/-! ## What a start is bound to -/

theorem validateDescriptor_of_manifest {tools : SourceTools}
    (hschema : descriptor.schemaVersion = sourceBundleDescriptorSchemaVersion)
    (hsize : 0 < descriptor.archive.size ∧ descriptor.archive.size ≤
      SourceArchiveLimits.default.maxArchiveSize)
    (hdigest : isLowercaseSha256 descriptor.archive.sha256 = true)
    (hmanifest : validateSourceManifest tools descriptor.manifest .default = .ok ()) :
    validateDescriptor tools descriptor .default = .ok () := by
  have hlimits : validateArchiveLimits .default = .ok () := by decide
  unfold validateDescriptor
  simp only [check_bind_eq_ok, rejectIf_eq_ok, bne_eq_false_iff_eq, Bool.not_eq_false',
    decide_eq_false_iff_not, beq_eq_false_iff_ne]
  refine ⟨hschema, hlimits, ?_, hdigest, UInt64.not_lt.mpr hsize.2, hmanifest⟩
  intro hzero
  rw [hzero] at hsize
  exact absurd hsize.1 (by decide)

theorem start_reconstructRequest (hstart : start.validate = .ok ())
    (hdescriptor : validateDescriptor tools.source descriptor limits = .ok ())
    (harchive : descriptor.archive = start.sourceArchive)
    (hrequest : start.parameters.reconstructRequest tools descriptor limits = .ok request) :
    start.reconstructRequest tools descriptor limits = .ok request := by
  unfold SnapshotBuildStart.reconstructRequest
  simp only [check_bind_eq_ok, mapError_eq_ok, rejectIf_eq_ok, bne_eq_false_iff_eq]
  exact ⟨hstart, hdescriptor, harchive, hrequest⟩

theorem archive_of_reconstructRequest
    (h : start.reconstructRequest tools descriptor limits = .ok request) :
    descriptor.archive = start.sourceArchive := by
  unfold SnapshotBuildStart.reconstructRequest at h
  simp only [check_bind_eq_ok, rejectIf_eq_ok, bne_eq_false_iff_eq] at h
  obtain ⟨-, -, harchive, -⟩ := h
  exact harchive

/-- The worker goes on with a payload of the declared size and digest only. -/
theorem receiveDescriptor_eq_ok {parse : List UInt8 → Option Snapshot.SourceBundleDescriptor}
    {payload : List UInt8}
    (h : start.receiveDescriptor tools parse payload = .ok (request, descriptor)) :
    payload.length = start.sourceDescriptorSize.toNat ∧
      tools.inspection.sha256 payload = start.sourceDescriptorSha256 ∧
      parse payload = some descriptor ∧
      start.reconstructRequest tools descriptor .default = .ok request := by
  unfold SnapshotBuildStart.receiveDescriptor at h
  simp only [check_bind_eq_ok, mapError_eq_ok, rejectIf_eq_ok, bne_eq_false_iff_eq] at h
  obtain ⟨-, -, hsize, -, hdigest, hparse⟩ := h
  cases hparsed : parse payload with
  | none =>
    rw [hparsed] at hparse
    cases hparse
  | some received =>
    rw [hparsed] at hparse
    simp only [bind_eq_ok, mapError_eq_ok] at hparse
    obtain ⟨_, hrequest, hpair⟩ := hparse
    obtain ⟨rfl, rfl⟩ := Prod.mk.inj (Except.ok.inj hpair)
    exact ⟨hsize, hdigest, rfl, hrequest⟩

end

/-- **Splitting a request**: a valid unsigned snapshot request for the archive is split, and
    every valid descriptor of its manifest gives it back. What a start goes on with has the
    declared archive, and the worker's copy of the descriptor is byte for byte the one whose
    size and digest the start declares, where SHA-256 does not collide on the two. -/
theorem snapshot_parameters_roundtrip (tools : RequestTools) :
    (∀ request, request.validate tools = .ok () → request.sourceMode = .snapshot →
      request.signing.mode = .unsignedCompileOnly → request.requestedArtifacts = {.xcarchive} →
      ∃ parameters, SnapshotBuildParameters.fromRequest tools request = .ok parameters ∧
        ∀ descriptor limits, descriptor.manifest = request.source →
          validateDescriptor tools.source descriptor limits = .ok () →
          parameters.reconstructRequest tools descriptor limits = .ok request) ∧
    (∀ start descriptor limits request,
      SnapshotBuildStart.reconstructRequest tools start descriptor limits = .ok request →
      descriptor.archive = start.sourceArchive) ∧
    (∀ (parse : List UInt8 → Option Snapshot.SourceBundleDescriptor) parameters bytes size digest
        archive start payload received,
      SnapshotBuildStart.new parameters size digest archive = .ok start →
      bytes.length = size.toNat → tools.inspection.sha256 bytes = digest →
      start.receiveDescriptor tools parse payload = .ok received →
      ¬ Collides tools.inspection.sha256 payload bytes →
      payload = bytes ∧ parse bytes = some received.2 ∧ received.2.archive = archive) := by
  refine ⟨?_, ?_, ?_⟩
  · intro request hvalid hmode hunsigned hartifacts
    refine ⟨parametersOf request, fromRequest_parametersOf hvalid hmode hunsigned hartifacts, ?_⟩
    intro descriptor limits hmanifest hdescriptor
    exact reconstructRequest_parametersOf hvalid hmode hunsigned hartifacts hmanifest hdescriptor
  · intro start descriptor limits request h
    exact archive_of_reconstructRequest h
  · intro parse parameters bytes size digest archive start payload received hstart hsize hdigest
      hreceived hfree
    -- the start declares what it was made with
    rw [SnapshotBuildStart.new, check_bind_eq_ok] at hstart
    obtain rfl := Except.ok.inj hstart.2
    obtain ⟨-, hpayload, hparse, hrequest⟩ := receiveDescriptor_eq_ok hreceived
    have hbytes : payload = bytes := by
      by_contra hne
      exact hfree ⟨hne, hpayload.trans hdigest.symm⟩
    rw [hbytes] at hparse
    exact ⟨hbytes, hparse, archive_of_reconstructRequest hrequest⟩

end

namespace Sample

/-- The manifest of the same file with other contents. -/
def otherManifest : Snapshot.SourceManifest where
  schemaVersion := 1
  projectPath := "."
  entries := [⟨"Cargo.toml", 10,
    "592de7a6332d7d2ce90526e296d21074f4d9bc04181eab742da9ff0fa82f436e", false⟩]
  totalSize := 10
  sha256 := "e826f35c3fe0f45822fc385013fa85c97b3012bdc1918a29485e245569bcad25"

def otherManifestBytes : List UInt8 :=
  [114, 117, 115, 116, 102, 101, 114, 114, 121, 45, 115, 111, 117, 114, 99, 101, 45, 109, 97,
    110, 105, 102, 101, 115, 116, 45, 118, 49, 0, 0, 0, 0, 0, 0, 0, 0, 1, 46, 0, 0, 0, 0, 0, 0,
    0, 1, 0, 0, 0, 0, 0, 0, 0, 10, 67, 97, 114, 103, 111, 46, 116, 111, 109, 108, 0, 0, 0, 0, 0,
    0, 0, 10, 0, 0, 0, 0, 0, 0, 0, 64, 53, 57, 50, 100, 101, 55, 97, 54, 51, 51, 50, 100, 55,
    100, 50, 99, 101, 57, 48, 53, 50, 54, 101, 50, 57, 54, 100, 50, 49, 48, 55, 52, 102, 52,
    100, 57, 98, 99, 48, 52, 49, 56, 49, 101, 97, 98, 55, 52, 50, 100, 97, 57, 102, 102, 48,
    102, 97, 56, 50, 102, 52, 51, 54, 101, 0, 0, 0, 0, 0, 0, 0, 0, 10]

/-- The JSON text of the sample bundle. -/
def bundleBytes : List UInt8 := Snapshot.Sample.sourceJson

def bundleDigest : String := "9b3b704273162857cb4a0754dea65cce80a03352418c8c507f51638e735220a6"

/-- The digests of the two manifests and of the JSON text of the bundle. -/
def bundleSha256 (bytes : List UInt8) : String :=
  if bytes = manifestBytes then manifest.sha256
  else if bytes = otherManifestBytes then otherManifest.sha256
  else bundleDigest

def bundleTools : RequestTools :=
  { tools with inspection := { tools.inspection with sha256 := bundleSha256 } }

/-- The request to build an uploaded snapshot. -/
def snapshotRequest : IosDeviceBuildRequest :=
  { request with sourceMode := .snapshot, sourceRepository := none, sourceRevision := none }

/-- The bundle with another manifest for the same archive. -/
def substituted : Snapshot.SourceBundleDescriptor :=
  { bundle with manifest := otherManifest }

def buildStart : SnapshotBuildStart where
  schemaVersion := 1
  parameters := parametersOf snapshotRequest
  sourceDescriptorSize := 400
  sourceDescriptorSha256 := bundleDigest
  sourceArchive := bundle.archive

theorem bundleSha256_manifestBytes : bundleSha256 manifestBytes = manifest.sha256 := if_pos rfl

theorem validate_manifest :
    validateSourceManifest bundleTools.source manifest .default = .ok () :=
  validateSourceManifest_manifest rfl bundleSha256_manifestBytes

theorem validate_otherManifest :
    validateSourceManifest bundleTools.source otherManifest .default = .ok () := by
  decide +kernel

theorem lowercase_archive : isLowercaseSha256 bundle.archive.sha256 = true :=
  isLowercaseSha256_ofList rfl (by decide)

theorem lowercase_bundleDigest : isLowercaseSha256 bundleDigest = true :=
  isLowercaseSha256_ofList rfl (by decide)

theorem validateSha256_buildStart :
    Snapshot.validateSha256 bundleDigest "snapshot_build_start" = .ok () ∧
      Snapshot.validateSha256 bundle.archive.sha256 "snapshot_build_start" = .ok () :=
  ⟨rejectIf_eq_ok.mpr (congrArg not lowercase_bundleDigest),
    rejectIf_eq_ok.mpr (congrArg not lowercase_archive)⟩

theorem requestOk_snapshotRequest : RequestOk bundleTools snapshotRequest :=
  { validate_eq_ok.mp validate_request with
    source := validate_manifest
    sourceMode := rfl }

theorem requestOk_substituted :
    RequestOk bundleTools { snapshotRequest with source := otherManifest } :=
  { requestOk_snapshotRequest with source := validate_otherManifest }

theorem validate_bundle : validateDescriptor bundleTools.source bundle .default = .ok () :=
  validateDescriptor_of_manifest rfl (by decide) lowercase_archive validate_manifest

theorem validate_substituted :
    validateDescriptor bundleTools.source substituted .default = .ok () :=
  validateDescriptor_of_manifest rfl (by decide) lowercase_archive validate_otherManifest

theorem validate_buildStart : buildStart.validate = .ok () := by
  have hshape : buildStart.parameters.validateShape = .ok () :=
    validateShape_parametersOf requestOk_snapshotRequest rfl rfl
  unfold SnapshotBuildStart.validate
  simp only [check_bind_eq_ok, mapError_eq_ok, rejectIf_eq_ok]
  exact ⟨by decide, hshape, by decide, validateSha256_buildStart⟩

theorem new_buildStart :
    SnapshotBuildStart.new (parametersOf snapshotRequest) 400 bundleDigest bundle.archive =
      .ok buildStart := by
  rw [SnapshotBuildStart.new, check_bind_eq_ok]
  exact ⟨validate_buildStart, rfl⟩

theorem reconstruct_bundle :
    buildStart.reconstructRequest bundleTools bundle .default = .ok snapshotRequest :=
  start_reconstructRequest validate_buildStart validate_bundle rfl
    (reconstructRequest_parametersOf (validate_eq_ok.mpr requestOk_snapshotRequest) rfl rfl rfl rfl
      validate_bundle)

/-- The start of the sample accepts the bundle it was made with and one with another
    manifest, which gives another request. -/
theorem start_accepts_substituted :
    SnapshotBuildStart.new (parametersOf snapshotRequest) 400 bundleDigest bundle.archive =
        .ok buildStart ∧
      buildStart.reconstructRequest bundleTools bundle .default = .ok snapshotRequest ∧
      buildStart.reconstructRequest bundleTools substituted .default =
        .ok { snapshotRequest with source := otherManifest } ∧
      substituted ≠ bundle := by
  have hrequest : (parametersOf { snapshotRequest with source := otherManifest }).reconstructRequest
      bundleTools substituted .default = .ok { snapshotRequest with source := otherManifest } :=
    reconstructRequest_parametersOf (validate_eq_ok.mpr requestOk_substituted) rfl rfl rfl rfl
      validate_substituted
  refine ⟨new_buildStart, reconstruct_bundle, ?_, ?_⟩
  · exact start_reconstructRequest validate_buildStart validate_substituted rfl hrequest
  · intro h
    have hdigest := congrArg (·.manifest.sha256) h
    exact absurd hdigest (by decide)

/-- The reader of JSON on the sample bundle. -/
def parseBundle (bytes : List UInt8) : Option Snapshot.SourceBundleDescriptor :=
  if bytes = bundleBytes then some bundle else none

theorem bundleBytes_ok : bundleBytes.length = 400 ∧
    bundleTools.inspection.sha256 bundleBytes = buildStart.sourceDescriptorSha256 := by
  decide +kernel

theorem length_bundleBytes : bundleBytes.length = 400 :=
  And.left bundleBytes_ok

theorem sha256_bundleBytes :
    bundleTools.inspection.sha256 bundleBytes = buildStart.sourceDescriptorSha256 :=
  And.right bundleBytes_ok

theorem receive_bundle :
    buildStart.receiveDescriptor bundleTools parseBundle bundleBytes =
      .ok (snapshotRequest, bundle) := by
  have hparse : parseBundle bundleBytes = some bundle := if_pos rfl
  unfold SnapshotBuildStart.receiveDescriptor
  simp only [check_bind_eq_ok, mapError_eq_ok, rejectIf_eq_ok, bne_eq_false_iff_eq, hparse,
    length_bundleBytes]
  refine ⟨by decide, validate_buildStart, by decide, by decide, sha256_bundleBytes, ?_⟩
  rw [reconstruct_bundle]
  rfl

/-- The sample request is split, put together again, and the worker's copy of the bundle is
    the one the start declares. -/
theorem snapshot_parameters_roundtrip_of_bundle :
    (∃ parameters, SnapshotBuildParameters.fromRequest bundleTools snapshotRequest =
        .ok parameters ∧
      parameters.reconstructRequest bundleTools bundle .default = .ok snapshotRequest) ∧
    bundle.archive = buildStart.sourceArchive ∧
    parseBundle bundleBytes = some bundle := by
  obtain ⟨hsplit, harchive, hreceive⟩ := snapshot_parameters_roundtrip bundleTools
  obtain ⟨parameters, hparameters, hreconstruct⟩ := hsplit snapshotRequest
    (validate_eq_ok.mpr requestOk_snapshotRequest) rfl rfl rfl
  obtain ⟨-, hparse, -⟩ := hreceive parseBundle (parametersOf snapshotRequest) bundleBytes 400
    bundleDigest bundle.archive buildStart bundleBytes (snapshotRequest, bundle) new_buildStart
    length_bundleBytes sha256_bundleBytes receive_bundle fun ⟨hne, _⟩ => hne rfl
  exact ⟨⟨parameters, hparameters, hreconstruct bundle .default rfl validate_bundle⟩,
    harchive buildStart bundle .default snapshotRequest reconstruct_bundle, hparse⟩

end Sample

end RustFerry.Remote
