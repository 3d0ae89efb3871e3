import RustFerry.Spec.EventCodec
import RustFerry.Spec.RequestValidation

/-!
# Canonical bytes of requests

Every value that a request holds is told apart by what it writes, down to the entitlements,
whose nesting is bounded. So the canonical bytes identify a validated request, and the bytes
of its retry template identify it up to the operation.
-/

namespace RustFerry.Remote

open Serde Artifact Except

/-! ## Enumerations -/

/-- A value that is written as its name. -/
theorem faithfulSerialize_name {α : Type} [Serialize α] {name : α → String}
    (hserialize : ∀ a, serialize a = .string (name a))
    (hname : Function.Injective name := by
      intro a b h
      cases a <;> cases b <;> first | rfl | exact absurd h (by decide)) :
    FaithfulSerialize α 0 where
  serialize_injective a b h := by
    rw [hserialize, hserialize] at h
    exact hname (Json.string.inj h)
  serialize_fits a := by
    rw [hserialize]
    exact .string _
  ne_null a h := by
    rw [hserialize] at h
    cases h

instance : FaithfulSerialize BuildProfile 0 :=
  faithfulSerialize_name fun _ => rfl

instance : FaithfulSerialize SourceMode 0 :=
  faithfulSerialize_name fun _ => rfl

instance : FaithfulSerialize SecretReferenceKind 0 :=
  faithfulSerialize_name fun _ => rfl

instance : FaithfulSerialize ProvisioningProfileType 0 :=
  faithfulSerialize_name fun _ => rfl

instance : FaithfulSerialize SigningTargetKind 0 :=
  faithfulSerialize_name fun _ => rfl

instance : FaithfulSerialize UnsignedNestedBundleKind 0 :=
  faithfulSerialize_name fun _ => rfl

instance : FaithfulSerialize BundleIdentifier 0 :=
  faithfulSerialize_name (fun _ => rfl) (by
    intro a b h
    cases a
    cases b
    simpa using h)

/-! ## Product and source -/

instance : FaithfulSerialize UnsignedNestedBundleExpectation 1 :=
  faithfulSerialize_struct (fun _ => rfl)
    (fun a b h => by cases a; cases b; simpa [nestedBundleFields] using h)
    (fun _ => by simp [nestedBundleFields])

instance : FaithfulSerialize IosDeviceProductExpectation 3 :=
  faithfulSerialize_struct (fun _ => rfl)
    (fun a b h => by cases a; cases b; simpa [productFields] using h)
    (fun _ => by simp [productFields])

instance : FaithfulSerialize Snapshot.SourceManifestEntry 1 :=
  faithfulSerialize_struct (fun _ => rfl)
    (fun a b h => by cases a; cases b; simpa [manifestEntryFields] using h)
    (fun _ => by simp [manifestEntryFields])

instance : FaithfulSerialize Snapshot.SourceManifest 3 :=
  faithfulSerialize_struct (fun _ => rfl)
    (fun a b h => by cases a; cases b; simpa [manifestFields] using h)
    (fun _ => by simp [manifestFields])

/-! ## Entitlements -/

mutual

/-- The nesting of an accepted value is bounded by what is left of the depth. -/
theorem fits_of_entitlementValue (key : Option String) (depth : Nat) (value : Json)
    (h : validateEntitlementValue key depth value = .ok ()) (hvalue : value.isValue = true) :
    value.Fits (maxEntitlementDepth + 1 - depth) := by
  rw [validateEntitlementValue.eq_def] at h
  split at h
  · cases h
  · rename_i hdepth
    have hleft : maxEntitlementDepth + 1 - depth = maxEntitlementDepth + 1 - (depth + 1) + 1 := by
      omega
    cases value with
    | null => cases h
    | bool b => exact .bool b
    | string s => exact .string s
    | number n =>
      cases n with
      | unsigned n => exact .number (by simpa [Json.isValue, Json.isInteger64] using hvalue)
      | negative n =>
        have hbounds : 0 < n ∧ n ≤ 2 ^ 63 := by
          simpa [Json.isValue, Json.isInteger64] using hvalue
        exact .negative hbounds.1 hbounds.2
      | float lexeme => cases h
    | array items =>
      simp only at h
      split at h
      · cases h
      · rw [Json.isValue] at hvalue
        rw [hleft]
        exact .array (fits_of_entitlementItems key (depth + 1) items h hvalue)
    | object members =>
      simp only at h
      split at h
      · cases h
      · rw [Json.isValue] at hvalue
        rw [hleft]
        exact .object (fits_of_entitlementMembers (depth + 1) none members h hvalue)

theorem fits_of_entitlementItems (key : Option String) (depth : Nat) (items : List Json)
    (h : validateEntitlementItems key depth items = .ok ())
    (hvalues : Json.areValues items = true) :
    ∀ v ∈ items, v.Fits (maxEntitlementDepth + 1 - depth) := by
  cases items with
  | nil => exact fun v hv => nomatch hv
  | cons item items =>
    rw [validateEntitlementItems, check_bind_eq_ok] at h
    rw [Json.areValues, Bool.and_eq_true] at hvalues
    have hitem := fits_of_entitlementValue key depth item h.1 hvalues.1
    have hitems := fits_of_entitlementItems key depth items h.2 hvalues.2
    exact List.forall_mem_cons.mpr ⟨hitem, hitems⟩

theorem fits_of_entitlementMembers (depth : Nat) (previous : Option String) (members : Members)
    (h : validateEntitlementMembers depth members = .ok ())
    (hvalues : Json.areMembers previous members = true) :
    ∀ m ∈ members, m.2.Fits (maxEntitlementDepth + 1 - depth) := by
  cases members with
  | nil => exact fun m hm => nomatch hm
  | cons member members =>
    obtain ⟨key, value⟩ := member
    rw [validateEntitlementMembers, check_bind_eq_ok, check_bind_eq_ok] at h
    rw [Json.areMembers, Bool.and_eq_true, Bool.and_eq_true] at hvalues
    have hvalue := fits_of_entitlementValue (some key) depth value h.2.1 hvalues.1.2
    have hmembers := fits_of_entitlementMembers depth (some key) members h.2.2 hvalues.2
    exact List.forall_mem_cons.mpr ⟨hvalue, hmembers⟩

end

instance : FaithfulSerialize EntitlementSet 18 where
  serialize_injective a b h := by
    cases a
    cases b
    simpa using Json.object.inj h
  serialize_fits a := by
    have hvalid := a.valid
    have hcanonical := a.canonical
    rw [validateEntitlements] at hvalid
    rw [Json.isValue] at hcanonical
    split at hvalid
    · cases hvalid
    · exact .object (fits_of_entitlementMembers 0 none a.values hvalid hcanonical)
  ne_null _ h := nomatch h

/-! ## Signing plan -/

instance : FaithfulSerialize SecretReference 1 :=
  faithfulSerialize_struct (fun _ => rfl)
    (fun a b h => by cases a; cases b; simpa [SecretReference.fields] using h)
    (fun _ => by simp [SecretReference.fields])

instance : FaithfulSerialize DevelopmentTeam 1 :=
  faithfulSerialize_struct (fun _ => rfl)
    (fun a b h => by cases a; cases b; simpa [DevelopmentTeam.fields] using h)
    (fun _ => by simp [DevelopmentTeam.fields])

instance : FaithfulSerialize DevelopmentTeamPlan 2 :=
  faithfulSerialize_struct (fun _ => rfl)
    (fun a b h => by cases a; cases b; simpa [DevelopmentTeamPlan.fields] using h)
    (fun _ => by simp [DevelopmentTeamPlan.fields])

instance : FaithfulSerialize DevicePlan 1 :=
  faithfulSerialize_struct (fun _ => rfl)
    (fun a b h => by cases a; cases b; simpa [DevicePlan.fields] using h)
    (fun _ => by simp [DevicePlan.fields])

instance : FaithfulSerialize SigningCertificate 2 :=
  faithfulSerialize_struct (fun _ => rfl)
    (fun a b h => by cases a; cases b; simpa [SigningCertificate.fields] using h)
    (fun _ => by simp [SigningCertificate.fields])

instance : FaithfulSerialize SigningPrivateKeyReference 2 :=
  faithfulSerialize_struct (fun _ => rfl)
    (fun a b h => by cases a; cases b; simpa [SigningPrivateKeyReference.fields] using h)
    (fun _ => by simp [SigningPrivateKeyReference.fields])

instance : FaithfulSerialize SigningIdentity 3 :=
  faithfulSerialize_struct (fun _ => rfl)
    (fun a b h => by cases a; cases b; simpa [SigningIdentity.fields] using h)
    (fun _ => by simp [SigningIdentity.fields])

instance : FaithfulSerialize SigningReference 4 :=
  faithfulSerialize_struct (fun _ => rfl)
    (fun a b h => by cases a; cases b; simpa [SigningReference.fields] using h)
    (fun _ => by simp [SigningReference.fields])

instance : FaithfulSerialize SigningTarget 1 :=
  faithfulSerialize_struct (fun _ => rfl)
    (fun a b h => by cases a; cases b; simpa [SigningTarget.fields] using h)
    (fun _ => by simp [SigningTarget.fields])

instance : FaithfulSerialize ProvisioningPlan 2 :=
  faithfulSerialize_struct (fun _ => rfl)
    (fun a b h => by cases a; cases b; simpa [ProvisioningPlan.fields] using h)
    (fun _ => by simp [ProvisioningPlan.fields])

instance : FaithfulSerialize EntitlementPlan 19 :=
  faithfulSerialize_struct (fun _ => rfl)
    (fun a b h => by cases a; cases b; simpa [EntitlementPlan.fields] using h)
    (fun _ => by simp [EntitlementPlan.fields])

instance : FaithfulSerialize SigningPlan 21 :=
  faithfulSerialize_struct (fun _ => rfl)
    (fun a b h => by cases a; cases b; simpa [SigningPlan.fields] using h)
    (fun _ => by simp [SigningPlan.fields])

/-! ## Requests -/

instance : FaithfulSerialize IosDeviceBuildRequest 22 :=
  faithfulSerialize_struct (fun _ => rfl)
    (fun a b h => by cases a; cases b; simpa [IosDeviceBuildRequest.fields] using h)
    (fun _ => by simp [IosDeviceBuildRequest.fields])

/-- The bytes of a request determine it. -/
theorem toVec_injective : Function.Injective (toVec : IosDeviceBuildRequest → List UInt8) := by
  intro a b h
  have hprint : (serialize a).print = (serialize b).print :=
    String.ofList_injective (Text.utf8_injective h)
  have hserialize := Json.print_injective (FaithfulSerialize.serialize_fits a)
    (FaithfulSerialize.serialize_fits b) (by decide) hprint
  exact FaithfulSerialize.serialize_injective hserialize

/-! ## Canonical bytes -/

section

variable {tools : RequestTools}

/-- A bound of the encoded size that reads only the byte lengths of the texts. -/
theorem length_toVec_le {α : Type} [Serialize α] (value : α) :
    (toVec value).length ≤ (serialize value).sizeBound := by
  have hsize : (toVec value).length = (String.ofList (serialize value).print).utf8ByteSize := by
    rw [toVec, Text.utf8, Array.length_toList]
    rfl
  rw [hsize, Json.utf8ByteSize_ofList, Json.textSize_print]
  exact Json.compactSize_le_sizeBound _

theorem canonicalRequestBytes_of_valid {request : IosDeviceBuildRequest}
    (h : request.validate tools = .ok ()) :
    canonicalRequestBytes tools request = .ok (toVec request) := by
  rw [canonicalRequestBytes, h]
  rfl

private theorem validateIdentifier_placeholder :
    validateIdentifier "operation_id" operationIdPlaceholder = .ok () := by
  decide

/-- The placeholder passes the check of an operation identifier. -/
theorem RequestOk.template {request : IosDeviceBuildRequest} (h : RequestOk tools request) :
    RequestOk tools { request with operationId := operationIdPlaceholder } :=
  { h with operation := validateIdentifier_placeholder }

theorem canonicalRetryTemplateBytesV1_of_valid {request : IosDeviceBuildRequest}
    (h : request.validate tools = .ok ()) :
    canonicalRetryTemplateBytesV1 tools request = .ok (retryTemplateDomain ++
      toVec { request with operationId := operationIdPlaceholder }) := by
  have htemplate := validate_eq_ok.mpr (validate_eq_ok.mp h).template
  have hbytes := canonicalRequestBytes_of_valid htemplate
  simp only [canonicalRetryTemplateBytesV1, h, bind, Except.bind, hbytes]
  rfl

/-- **Canonical bytes**: two validated requests have the same canonical bytes when they are
    equal, and the same retry template when they agree on every field but the operation. -/
theorem canonical_bytes_iff {a b : IosDeviceBuildRequest} (ha : a.validate tools = .ok ())
    (hb : b.validate tools = .ok ()) :
    ∃ template template' bytes bytes',
      canonicalRetryTemplateBytesV1 tools a = .ok template ∧
      canonicalRetryTemplateBytesV1 tools b = .ok template' ∧
      canonicalRequestBytes tools a = .ok bytes ∧ canonicalRequestBytes tools b = .ok bytes' ∧
      (template = template' ↔ { a with operationId := b.operationId } = b) ∧
      (bytes = bytes' ↔ a = b) := by
  refine ⟨_, _, _, _, canonicalRetryTemplateBytesV1_of_valid ha,
    canonicalRetryTemplateBytesV1_of_valid hb, canonicalRequestBytes_of_valid ha,
    canonicalRequestBytes_of_valid hb, ?_, toVec_injective.eq_iff⟩
  rw [List.append_cancel_left_eq, toVec_injective.eq_iff]
  -- both templates have the placeholder, so the other fields are compared
  cases a
  cases b
  simp

end

namespace Sample

/-- The bytes that the digest of the sample manifest is made of. -/
def manifestBytes : List UInt8 :=
  [114, 117, 115, 116, 102, 101, 114, 114, 121, 45, 115, 111, 117, 114, 99, 101, 45, 109, 97, 110,
    105, 102, 101, 115, 116, 45, 118, 49, 0, 0, 0, 0, 0, 0, 0, 0, 1, 46, 0, 0, 0, 0, 0, 0, 0, 1, 0,
    0, 0, 0, 0, 0, 0, 10, 67, 97, 114, 103, 111, 46, 116, 111, 109, 108, 0, 0, 0, 0, 0, 0, 0, 10,
    0, 0, 0, 0, 0, 0, 0, 64, 56, 97, 51, 99, 100, 53, 97, 56, 49, 98, 51, 102, 57, 97, 54, 50, 49,
    97, 97, 52, 57, 51, 100, 57, 48, 99, 52, 53, 102, 52, 50, 97, 98, 53, 55, 49, 100, 52, 101, 52,
    50, 98, 56, 97, 101, 53, 97, 102, 102, 51, 53, 49, 99, 98, 48, 97, 48, 50, 100, 48, 54, 100,
    56, 50, 0, 0, 0, 0, 0, 0, 0, 0, 10]

/-- A manifest of one file with its digests. -/
def manifest : Snapshot.SourceManifest where
  schemaVersion := 1
  projectPath := "."
  entries := [⟨"Cargo.toml", 10,
    "8a3cd5a81b3f9a621aa493d90c45f42ab571d4e42b8ae5aff351cb0a02d06d82", false⟩]
  totalSize := 10
  sha256 := "3237589487aa53b430e440cec65a8c6c93f9154ae7dbc259051055d5b8b01c4e"

/-- The digests of the byte strings that the samples hash: of the sample manifest, and of
    anything else the template of the sample request. -/
def sha256 (bytes : List UInt8) : String :=
  if bytes = manifestBytes then manifest.sha256
  else "10bde322622a431024a9e5fae689b7240d99388036ed2e894cfdc70437d5227a"

def tools : RequestTools where
  inspection := {
    parsePlist := fun _ => none
    parseMach := fun _ => none
    parseJson := fun _ => none
    sha256 := sha256
    nfc := id
    nfkc := id
    toLowercase := fun text => text.map Char.toLower
    charToLowercase := fun c => [c.toLower] }
  parseUrl value :=
    if value = "https://github.com/example/app" then
      some ⟨"https", some "github.com", none, "", none, none, none, ["example", "app"]⟩
    else none

def entitlements : EntitlementSet where
  values := [("get-task-allow", .bool true)]
  canonical := rfl
  valid := by decide

def signing : SigningPlan where
  mode := .unsignedCompileOnly
  signing := none
  team := none
  device := none
  targets := [⟨"App", ⟨"com.example.app", by decide⟩, .application⟩]
  provisioning := []
  entitlements := [⟨"App", entitlements⟩]
  allowProvisioningUpdates := false

/-- A request to build a snapshot in Git. -/
def request : IosDeviceBuildRequest where
  protocolVersion := currentProtocolVersion
  operationId := "operation-1"
  productName := "App"
  bundleIdentifier := "com.example.app"
  minimumIosVersion := "16.0"
  product := ⟨"App.app", "App", "1.0", "1", []⟩
  profile := .release
  sourceMode := .gitSnapshot
  sourceRepository := some "https://github.com/example/app"
  sourceRevision := some "0123456789abcdef0123456789abcdef01234567"
  source := manifest
  signing := signing
  requestedArtifacts := {.xcarchive}

/-- The bytes that the manifest is hashed from, and the checks of the request. -/
theorem request_evaluates :
    Source.manifestDomain ++ Source.digestString manifest.projectPath ++
        BigEndian.toBytes 8 manifest.entries.length ++ manifest.entries.flatMap Source.digestEntry ++
        BigEndian.toBytes 8 manifest.totalSize.toNat = manifestBytes ∧
      request.validate tools = .ok () := by
  decide +kernel

theorem validate_request : request.validate tools = .ok () := request_evaluates.2

/-- The manifest passes its checks with any other digests, as long as its own is the same. -/
theorem validateSourceManifest_manifest {tools' : RequestTools}
    (hunicode : tools'.source.unicode = tools.source.unicode)
    (hsha256 : tools'.source.sha256 manifestBytes = manifest.sha256) :
    Source.validateSourceManifest tools'.source manifest .default = .ok () := by
  have hdigest : ∀ t : Source.SourceTools, Source.manifestDigest t manifest.projectPath
      manifest.entries manifest.totalSize = t.sha256 manifestBytes :=
    fun t => congrArg t.sha256 request_evaluates.1
  have hsame : tools.source.sha256 manifestBytes = manifest.sha256 :=
    show sha256 manifestBytes = manifest.sha256 from if_pos rfl
  rw [validateSourceManifest_congr hunicode ((hdigest _).trans (hsha256.trans
    (hsame.symm.trans (hdigest _).symm)))]
  exact (validate_eq_ok.mp validate_request).source

theorem canonical_bytes_of_retry :
    canonicalRetryTemplateBytesV1 tools request =
        canonicalRetryTemplateBytesV1 tools { request with operationId := "operation-2" } ∧
      canonicalRequestBytes tools request ≠
        canonicalRequestBytes tools { request with operationId := "operation-2" } := by
  have hretry : ({ request with operationId := "operation-2" }).validate tools = .ok () :=
    validate_eq_ok.mpr { validate_eq_ok.mp validate_request with operation := by decide }
  obtain ⟨template, template', bytes, bytes', ha, hb, ha', hb', htemplate, hbytes⟩ :=
    canonical_bytes_iff validate_request hretry
  constructor
  · rw [ha, hb, htemplate.mpr rfl]
  · rw [ha', hb']
    intro h
    have hoperation := congrArg IosDeviceBuildRequest.operationId (hbytes.mp (Except.ok.inj h))
    exact absurd hoperation (by decide)

end Sample

end RustFerry.Remote
