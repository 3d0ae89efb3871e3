import RustFerry.ForStd.JsonStrings
import RustFerry.Native.WorkerJobRunner
import RustFerry.Spec.RequestValidation

/-!
# Events of a worker job

The validator of the protocol accepts every event that a worker job builds: its identifiers
are those of an accepted manifest, its payload is of the right form, and no text in it holds
an escape character. The texts that a hook brings have been checked before they are sent.
-/

namespace RustFerry.Worker

open Remote Serde Artifact Except Json

variable {value : String} {text : String}

/-! ## Escape characters -/

/-- The escape character. -/
def esc : Char := Char.ofNat 0x1b

/-- The text holds no escape character. -/
def Clean (text : String) : Prop := esc ∉ text.toList

theorem clean_ofList {cs : List Char} (h : esc ∉ cs) : Clean (String.ofList cs) := by
  rw [Clean, String.toList_ofList]
  exact h

theorem clean_of_all {p : Char → Bool} (hp : p esc = false) (h : text.toList.all p = true) :
    Clean text := by
  intro hmem
  have hesc := List.all_eq_true.mp h esc hmem
  rw [hp] at hesc
  exact Bool.noConfusion hesc

theorem clean_of_not_control (h : text.toList.any Text.isControl = false) :
    Clean text := by
  intro hmem
  have hesc := List.any_eq_false.mp h esc hmem
  exact hesc (by decide)

theorem clean_of_identifier (h : isIdentifier text = true) : Clean text := by
  simp only [isIdentifier, Bool.and_eq_true] at h
  exact clean_of_all (by decide) h.2

theorem clean_of_sha256 (h : isSha256 text = true) : Clean text := by
  simp only [isSha256, Bool.and_eq_true] at h
  exact clean_of_all (by decide) h.2

theorem clean_of_sha256AnyCase (h : isSha256AnyCase text = true) : Clean text := by
  simp only [isSha256AnyCase, Bool.and_eq_true] at h
  exact clean_of_all (by decide) h.2

theorem clean_of_manifestText {maximum : Nat} (h : isSafeManifestText text maximum = true) :
    Clean text := by
  simp only [isSafeManifestText, Bool.and_eq_true, Bool.not_eq_true'] at h
  exact clean_of_not_control h.2

theorem clean_of_errorCode (h : isPublicErrorCode text = true) : Clean text := by
  simp only [isPublicErrorCode, Bool.and_eq_true] at h
  exact clean_of_all (by decide) h.1.1.2

theorem clean_of_safeText {field : String} {maximum : Nat}
    (h : validateSafeText field value maximum = .ok ()) : Clean value := by
  apply clean_of_not_control
  cases hany : value.toList.any Text.isControl with
  | false => rfl
  | true =>
    -- with a control character every branch of the check is an error
    simp only [validateSafeText, hany, if_true] at h
    split at h
    · cases h
    · split at h <;> cases h

theorem mem_intercalate {separator c : Char} {segments : List (List Char)}
    (hmem : c ∈ [separator].intercalate segments) :
    c = separator ∨ ∃ segment ∈ segments, c ∈ segment := by
  induction segments with
  | nil => simp at hmem
  | cons first rest ih =>
    cases rest with
    | nil =>
      rw [List.intercalate_singleton] at hmem
      exact .inr ⟨first, List.mem_cons_self, hmem⟩
    | cons second rest =>
      rw [List.intercalate_cons_cons, List.mem_append, List.mem_append, List.mem_singleton] at hmem
      rcases hmem with (hfirst | hsep) | hrest
      · exact .inr ⟨first, List.mem_cons_self, hfirst⟩
      · exact .inl hsep
      · apply (ih hrest).imp_right
        intro hfound
        obtain ⟨segment, hsegment, hc⟩ := hfound
        exact ⟨segment, List.mem_cons_of_mem _ hsegment, hc⟩

theorem mem_split {separator c : Char} {text : List Char} (hmem : c ∈ text) :
    c = separator ∨ ∃ segment ∈ Text.split separator text, c ∈ segment := by
  apply mem_intercalate
  show c ∈ [separator].intercalate (text.splitOn separator)
  rw [List.intercalate_splitOn]
  exact hmem

theorem clean_of_bundleIdentifier (h : isExplicitBundleIdentifier text = true) : Clean text := by
  simp only [isExplicitBundleIdentifier, Bool.and_eq_true, List.all_eq_true] at h
  intro hmem
  have hsplit : esc = '.' ∨ ∃ segment ∈ Text.split '.' text.toList, esc ∈ segment := mem_split hmem
  rcases hsplit with hsep | hsegment
  · exact absurd hsep (by decide)
  · obtain ⟨segment, hsegment, hesc⟩ := hsegment
    have hchar := (h.2 segment hsegment).1.1 esc hesc
    exact absurd hchar (by decide)

theorem validateNoTerminalEscapeItems_ok {items : List Json}
    (h : ∀ v ∈ items, validateNoTerminalEscape v = .ok ()) :
    validateNoTerminalEscapeItems items = .ok () := by
  induction items with
  | nil => rfl
  | cons v rest ih =>
    rw [validateNoTerminalEscapeItems, h v List.mem_cons_self]
    exact ih fun v hv => h v (List.mem_cons_of_mem _ hv)

theorem validateNoTerminalEscapeMembers_ok {members : Members}
    (h : ∀ m ∈ members, validateNoTerminalEscape m.2 = .ok ()) :
    validateNoTerminalEscapeMembers members = .ok () := by
  induction members with
  | nil => rfl
  | cons m rest ih =>
    obtain ⟨name, v⟩ := m
    rw [validateNoTerminalEscapeMembers, h (name, v) List.mem_cons_self]
    exact ih fun m hm => h m (List.mem_cons_of_mem _ hm)

theorem validateNoTerminalEscape_of_clean {v : Json} (h : Strings Clean v) :
    validateNoTerminalEscape v = .ok () := by
  induction h with
  | null | bool _ | number _ => simp only [validateNoTerminalEscape]
  | string hclean =>
    rw [validateNoTerminalEscape, if_neg]
    simpa [Clean, esc] using hclean
  | array _ ih =>
    rw [validateNoTerminalEscape]
    exact validateNoTerminalEscapeItems_ok ih
  | object _ ih =>
    rw [validateNoTerminalEscape]
    exact validateNoTerminalEscapeMembers_ok ih

/-! ## Accepted manifests of jobs -/

section

variable {tools : RequestTools} {job : WorkerJobManifest}

theorem isIdentifier_jobs (h : job.validate tools = .ok ()) :
    isIdentifier job.jobId = true ∧ isIdentifier job.workerId = true ∧
      isIdentifier job.provider = true := by
  rw [WorkerJobManifest.validate, check_bind_eq_ok, check_bind_eq_ok] at h
  have hids := h.2.1
  simp only [rejectIf_eq_ok, Bool.not_eq_false', List.all_cons, List.all_nil, Bool.and_true,
    Bool.and_eq_true] at hids
  exact hids

theorem request_validate (h : job.validate tools = .ok ()) :
    job.request.validate tools = .ok () := by
  rw [WorkerJobManifest.validate, check_bind_eq_ok, check_bind_eq_ok, check_bind_eq_ok] at h
  exact mapError_eq_ok.mp h.2.2.1

theorem validateIdentifier_of_isIdentifier (h : isIdentifier value = true) (field : String) :
    validateIdentifier field value = .ok () := by
  simp only [isIdentifier, Bool.and_eq_true, decide_eq_true_eq, bne_iff_ne] at h
  obtain ⟨⟨hne, hlen⟩, hchars⟩ := h
  rw [validateIdentifier, if_neg hne, if_neg (by omega), hchars]
  rfl

theorem clean_of_validateIdentifier {field : String} (h : validateIdentifier field value = .ok ()) :
    Clean value := by
  apply clean_of_all (p := fun c => c.isAlphanum || c == '-' || c == '_' || c == '.' || c == ':')
    (by decide)
  cases hall : value.toList.all fun c =>
      c.isAlphanum || c == '-' || c == '_' || c == '.' || c == ':' with
  | true => rfl
  | false =>
    -- with another character every branch of the check is an error
    simp only [validateIdentifier, hall, Bool.not_false, if_true] at h
    split at h
    · cases h
    · split at h <;> cases h

/-- The texts of a request that its checks read. -/
structure CleanRequest (request : Remote.IosDeviceBuildRequest) : Prop where
  operationId : Clean request.operationId
  productName : Clean request.productName
  bundleIdentifier : Clean request.bundleIdentifier
  sourceSha256 : Clean request.source.sha256
  sourceRepository : ∀ repository, request.sourceRepository = some repository → Clean repository
  sourceRevision : ∀ revision, request.sourceRevision = some revision → Clean revision

theorem clean_of_revision (h : validateGitRevision value = .ok ()) :
    Clean value := by
  simp only [validateGitRevision, rejectIf_eq_ok, Bool.not_eq_false', Bool.and_eq_true] at h
  exact clean_of_all (by decide) h.2

theorem clean_of_repository (h : validateGithubRepository tools value = .ok ()) : Clean value := by
  rw [validateGithubRepository, check_bind_eq_ok] at h
  exact clean_of_safeText h.1

theorem clean_of_manifestSha256 {source : Snapshot.SourceManifest} {limits : Source.SourceLimits}
    {rules : Source.SourceTools} (h : Source.validateSourceManifest rules source limits = .ok ()) :
    Clean source.sha256 := by
  -- the check of the project path stands before the rest of the checks
  have hrest : ∀ {rest : Unit → Source.SourceResult Unit} {check : Source.SourceResult Unit}
      {c : Bool}, (if c = true then check >>= rest else rest ()) = .ok () → rest () = .ok () := by
    intro rest check c hif
    cases c with
    | false => exact hif
    | true => exact (check_bind_eq_ok.mp hif).2
  unfold Source.validateSourceManifest at h
  rw [check_bind_eq_ok, check_bind_eq_ok] at h
  replace h := hrest h.2.2
  simp only [check_bind_eq_ok] at h
  obtain ⟨-, -, h⟩ := h
  obtain ⟨state, -, h⟩ := bind_eq_ok.mp h
  simp only [check_bind_eq_ok, Source.validateSha256, rejectIf_eq_ok, Bool.not_eq_false'] at h
  have hsha256 := h.2.1
  simp only [Source.isLowercaseSha256, Bool.and_eq_true] at hsha256
  exact clean_of_all (by decide) hsha256.2

theorem cleanRequest {request : Remote.IosDeviceBuildRequest}
    (h : request.validate tools = .ok ()) : CleanRequest request := by
  obtain hok := Remote.validate_eq_ok.mp h
  have hbundle := hok.bundle
  rw [validateBundleIdentifier, check_bind_eq_ok] at hbundle
  have hmode := hok.sourceMode
  rw [IosDeviceBuildRequest.validateSourceMode] at hmode
  have hnames : (∀ repository, request.sourceRepository = some repository → Clean repository) ∧
      ∀ revision, request.sourceRevision = some revision → Clean revision := by
    cases hsource : request.sourceMode with
    | snapshot =>
      simp only [hsource, rejectIf_eq_ok, Bool.or_eq_false_iff, Option.isSome_eq_false_iff,
        Option.isNone_iff_eq_none] at hmode
      simp [hmode.1, hmode.2]
    | git | gitSnapshot =>
      simp only [hsource] at hmode
      split at hmode
      · cases hmode
      · cases hmode
      · rename_i repository revision hrepository hrevision
        rw [check_bind_eq_ok, mapError_eq_ok, mapError_eq_ok] at hmode
        rw [hrepository, hrevision]
        constructor
        · intro _ heq
          rw [← Option.some.inj heq]
          exact clean_of_repository hmode.1
        · intro _ heq
          rw [← Option.some.inj heq]
          exact clean_of_revision hmode.2
  exact {
    operationId := clean_of_validateIdentifier hok.operation
    productName := clean_of_safeText hok.productName
    bundleIdentifier := clean_of_safeText hbundle.1
    sourceSha256 := clean_of_manifestSha256 hok.source
    sourceRepository := hnames.1
    sourceRevision := hnames.2 }

/-! ## Payloads -/

/-- The payload of an event is accepted in every envelope. -/
structure SafeKind (tools : RequestTools) (kind : RemoteBuildEventKind) : Prop where
  valid : kind.validate (eventUrl tools) = .ok ()
  clean : ∀ m ∈ kind.members, Strings Clean m.2

theorem clean_eventName (kind : RemoteBuildEventKind) : Clean kind.eventName := by
  cases kind <;> exact clean_ofList (by decide)

theorem clean_eventId (phase : WorkerJobPhase) : Clean phase.eventId := by
  cases phase <;> exact clean_ofList (by decide)

theorem clean_safeMessage (phase : WorkerJobPhase) : Clean phase.safeMessage := by
  cases phase <;> exact clean_ofList (by decide)

theorem validateIdentifier_eventId (phase : WorkerJobPhase) :
    validateIdentifier "phase" phase.eventId = .ok () := by
  cases phase <;> rfl

variable {kind : RemoteBuildEventKind}

/-- **Events**: with a safe payload, an event of an accepted job is accepted. -/
theorem SafeKind.event_valid (hkind : SafeKind tools kind)
    (hjob : job.validate tools = .ok ()) (phase : WorkerJobPhase) (sequence timestampMs : UInt64) :
    (jobEvent job phase sequence timestampMs kind).validate (eventUrl tools) = .ok () := by
  obtain ⟨hjobId, -, hprovider⟩ := isIdentifier_jobs hjob
  have hrequest := Remote.validate_eq_ok.mp (request_validate hjob)
  have hclean : Strings Clean (serialize (jobEvent job phase sequence timestampMs kind)) := by
    apply Strings.object
    intro m hm
    rcases List.mem_append.mp hm with hm | hm
    · -- the envelope
      refine Strings.of_mem_fields ?_ m hm
      have hversion : Strings Clean (serialize currentProtocolVersion) :=
        Strings.object_fields (by simp [ProtocolVersion.fields, Strings.Fields.nil])
      simp [RemoteBuildEvent.fields, jobEvent, hversion, Strings.Fields.nil,
        clean_of_validateIdentifier hrequest.operation, clean_of_identifier hjobId,
        clean_of_identifier hprovider, clean_eventId]
    · -- the tag, then the members of the payload
      rcases List.mem_cons.mp hm with rfl | hm
      · exact .string (clean_eventName kind)
      · exact hkind.clean m hm
  unfold RemoteBuildEvent.validate
  rw [bind_eq_ok]
  refine ⟨_, rfl, ?_⟩
  simp only [check_bind_eq_ok, jobEvent]
  exact ⟨hrequest.operation, validateIdentifier_of_isIdentifier hjobId _,
    validateIdentifier_of_isIdentifier hprovider _, validateIdentifier_eventId phase,
    hkind.valid, validateNoTerminalEscape_of_clean hclean⟩

/-! ## Payloads without artifacts -/

theorem safe_of_fields {names : List String}
    {values : List (Option Json)} (hvalid : kind.validate (eventUrl tools) = .ok ())
    (hmembers : kind.members = serializeFields names values)
    (hvalues : Strings.Fields Clean values) : SafeKind tools kind where
  valid := hvalid
  clean := hmembers ▸ Strings.of_mem_fields hvalues

theorem safe_operationStarted : SafeKind tools (.operationStarted "worker.ios_device_build") := by
  apply safe_of_fields rfl rfl
  simp only [Strings.Fields.cons_some, Strings.serialize_string]
  exact ⟨clean_ofList (by decide), .nil⟩

theorem safe_jobCreated : SafeKind tools (.jobCreated .created) := by
  apply safe_of_fields rfl rfl
  exact Strings.Fields.cons_some.mpr ⟨.string (clean_ofList (by decide)), .nil⟩

theorem safe_workerAssigned (hjob : job.validate tools = .ok ()) :
    SafeKind tools (.workerAssigned job.workerId) := by
  apply safe_of_fields rfl rfl
  simp only [Strings.Fields.cons_some, Strings.serialize_string]
  exact ⟨clean_of_identifier (isIdentifier_jobs hjob).2.1, .nil⟩

theorem safe_sourcePrepared (fileCount totalBytes : UInt64) :
    SafeKind tools (.sourcePrepared fileCount totalBytes) := by
  apply safe_of_fields rfl rfl
  simp [Strings.Fields.nil]

theorem safe_sourceVerified (hjob : job.validate tools = .ok ()) :
    SafeKind tools (.sourceVerified job.request.source.sha256) := by
  apply safe_of_fields rfl rfl
  simp only [Strings.Fields.cons_some, Strings.serialize_string]
  exact ⟨(cleanRequest (request_validate hjob)).sourceSha256, .nil⟩

theorem safe_phaseStarted (phase : WorkerJobPhase) :
    SafeKind tools (.phaseStarted (some phase.safeMessage)) := by
  apply safe_of_fields rfl rfl
  apply Strings.Fields.cons_skipNone _ .nil
  intro message hmessage
  rw [← Option.some.inj hmessage]
  exact .string (clean_safeMessage phase)

theorem clean_signingMode (mode : SigningMode) : Strings Clean (serialize mode) := by
  apply Strings.string
  cases mode <;> exact clean_ofList (by decide)

theorem safe_signingStarted (mode : SigningMode) : SafeKind tools (.signingStarted mode) := by
  apply safe_of_fields rfl rfl
  exact Strings.Fields.cons_some.mpr ⟨clean_signingMode mode, .nil⟩

theorem safe_artifactCreated (candidate : WorkerArtifactCandidate) :
    SafeKind tools (.artifactCreated candidate.artifactId candidate.artifactType) := by
  have htype : Strings Clean (serialize candidate.artifactType) := by
    apply Strings.string
    cases candidate.artifactType <;> exact clean_ofList (by decide)
  apply safe_of_fields rfl rfl
  simp only [Strings.Fields.cons_some, Strings.serialize_string]
  exact ⟨clean_of_identifier candidate.valid, htype, .nil⟩

theorem safe_cleanupStarted : SafeKind tools .cleanupStarted where
  valid := rfl
  clean := by simp [RemoteBuildEventKind.members]

variable {confirmation : CleanupConfirmation}

theorem clean_confirmation
    (h : Clean confirmation.jobId) : Strings Clean (serialize confirmation) := by
  apply Strings.object_fields
  simp [CleanupConfirmation.fields, h, Strings.Fields.nil]

theorem safe_cleanupFinished
    (h : Clean confirmation.jobId) : SafeKind tools (.cleanupFinished confirmation) := by
  apply safe_of_fields rfl rfl
  exact Strings.Fields.cons_some.mpr ⟨clean_confirmation h, .nil⟩

theorem safe_operationCancelled (durationMs : UInt64) :
    SafeKind tools (.operationCancelled "user_requested" durationMs) := by
  apply safe_of_fields rfl rfl
  simp only [Strings.Fields.cons_some, Strings.serialize_string, Strings.serialize_uint64]
  exact ⟨clean_ofList (by decide), trivial, .nil⟩

/-! ## Payloads with artifact manifests -/

theorem clean_artifactRecord {record : ArtifactRecord} (h : isArtifactRecord record = true) :
    Strings Clean (serialize record) := by
  simp only [isArtifactRecord, Bool.and_eq_true] at h
  obtain ⟨⟨⟨⟨⟨⟨⟨⟨hid, -⟩, -⟩, hname⟩, -⟩, -⟩, -⟩, hsha256⟩, hmedia⟩ := h
  have hkind : Strings Clean (serialize record.kind) := by
    apply Strings.string
    cases record.kind <;> exact clean_ofList (by decide)
  have hmediaType : Strings Clean (nullable record.mediaType) := by
    apply Strings.serialize_nullable
    intro mediaType hsome
    rw [hsome, Option.all_some, Bool.and_eq_true, Bool.not_eq_true'] at hmedia
    exact .string (clean_of_not_control hmedia.2)
  apply Strings.object_fields
  simp only [ArtifactRecord.fields, Strings.Fields.cons_some, Strings.serialize_string,
    Strings.serialize_uint64]
  exact ⟨clean_of_identifier hid, hkind, clean_of_all (by decide) hname, trivial,
    clean_of_sha256 hsha256, hmediaType, .nil⟩

theorem clean_toolchain {toolchain : AppleToolchainEvidence}
    (h : validateToolchainEvidence toolchain = true)
    (htarget : toolchain.rustTarget = iosDeviceRustTarget) :
    Strings Clean (serialize toolchain) := by
  simp only [validateToolchainEvidence, Bool.and_eq_true] at h
  obtain ⟨⟨⟨⟨hos, harch⟩, hxcode⟩, hsdk⟩, hrust⟩ := h
  apply Strings.object_fields
  simp only [AppleToolchainEvidence.fields, Strings.Fields.cons_some, Strings.serialize_string,
    htarget]
  exact ⟨clean_of_manifestText hos, clean_of_manifestText harch, clean_of_manifestText hxcode,
    clean_of_manifestText hsdk, clean_of_manifestText hrust,
    clean_ofList (by decide), .nil⟩

variable {text : Option String}

/-- An optional text of the signing evidence: absent, or checked. -/
theorem clean_nullable_of_any {p : String → Bool}
    (hp : ∀ s, p s = true → Clean s) (h : text.any p = true) : Strings Clean (nullable text) := by
  apply Strings.serialize_nullable
  intro value hvalue
  rw [hvalue, Option.any_some] at h
  exact .string (hp value h)

theorem clean_nullable_of_isNone (h : text.isNone = true) :
    Strings Clean (nullable text) := by
  rw [Option.isNone_iff_eq_none.mp h]
  exact .null

theorem clean_teamId (team : DevelopmentTeam) : Clean team.id := by
  have hvalid := team.valid
  simp only [isDevelopmentTeam, Bool.and_eq_true] at hvalid
  exact clean_of_all (by decide) hvalid.1.2

theorem clean_signing {signing : ArtifactSigningEvidence}
    (h : validateArtifactSigning job signing = true) : Strings Clean (serialize signing) := by
  have hstatus : Strings Clean (serialize signing.status) := by
    apply Strings.string
    cases signing.status <;> exact clean_ofList (by decide)
  apply Strings.object_fields
  simp only [ArtifactSigningEvidence.fields, Strings.Fields.cons_some]
  rw [validateArtifactSigning, Bool.and_eq_true] at h
  obtain ⟨-, h⟩ := h
  cases hsigned : signing.mode.isSigned with
  | false =>
    simp only [hsigned, Bool.not_false, if_true, Bool.and_eq_true] at h
    obtain ⟨⟨⟨⟨⟨-, hteam⟩, hcertificate⟩, hprofile⟩, hexpiration⟩, hentitlements⟩ := h
    exact ⟨clean_signingMode _, hstatus, clean_nullable_of_isNone hteam,
      clean_nullable_of_isNone hcertificate, clean_nullable_of_isNone hprofile,
      clean_nullable_of_isNone hexpiration, clean_nullable_of_isNone hentitlements,
      .nil⟩
  | true =>
    simp only [hsigned, Bool.not_true, if_false, Bool.and_eq_true, Bool.false_eq_true] at h
    obtain ⟨⟨⟨⟨⟨-, hteam⟩, hcertificate⟩, hprofile⟩, hexpiration⟩, hentitlements⟩ := h
    have hteamId : Strings Clean (nullable signing.teamId) := by
      rw [of_decide_eq_true hteam]
      apply Strings.serialize_nullable
      intro id hid
      obtain ⟨team, -, rfl⟩ := Option.map_eq_some_iff.mp hid
      exact .string (clean_teamId team.expected)
    exact ⟨clean_signingMode _, hstatus, hteamId,
      clean_nullable_of_any (fun _ => clean_of_sha256AnyCase) hcertificate,
      clean_nullable_of_any (fun _ => clean_of_identifier) hprofile,
      clean_nullable_of_any (fun _ => clean_of_manifestText) hexpiration,
      clean_nullable_of_any (fun _ => clean_of_sha256) hentitlements, .nil⟩

theorem clean_extensions {extensions : List String}
    (h : validateManifestExtensions extensions = true) : Strings Clean (serialize extensions) := by
  simp only [validateManifestExtensions, Bool.and_eq_true, List.all_eq_true] at h
  apply Strings.serialize_list
  intro ext hmem
  exact .string (clean_of_bundleIdentifier (h.1.2 ext hmem))

theorem clean_nullable_of_eq {expected : Option String} (heq : text = expected)
    (h : ∀ value, expected = some value → Clean value) : Strings Clean (nullable text) := by
  rw [heq]
  apply Strings.serialize_nullable
  intro value hvalue
  exact .string (h value hvalue)

variable {manifest : ArtifactManifest}

theorem clean_artifactManifest (hjob : job.validate tools = .ok ())
    (h : acceptsManifest job manifest = true) : Strings Clean (serialize manifest) := by
  have hrequest := cleanRequest (request_validate hjob)
  obtain ⟨hjobId, -, hprovider⟩ := isIdentifier_jobs hjob
  simp only [acceptsManifest, bindsJob, hasSafeTexts, Bool.and_eq_true, beq_iff_eq] at h
  obtain ⟨⟨⟨⟨⟨⟨⟨⟨⟨⟨⟨⟨⟨⟨⟨-, -⟩, hbinds⟩, htexts⟩, harch⟩, htarget⟩, htools⟩, hsigning⟩, hext⟩, -⟩, -⟩,
    -⟩, -⟩, -⟩, -⟩, hrecords⟩ := h
  obtain ⟨⟨⟨⟨⟨⟨⟨⟨⟨hoperation, hjobEq⟩, hproviderEq⟩, hrepository⟩, hrevision⟩, -⟩, hsource⟩, hbundle⟩,
    hname⟩, hprofile⟩ := hbinds
  obtain ⟨⟨⟨⟨⟨⟨⟨⟨hproject, hlock⟩, hconfig⟩, hferry⟩, hworker⟩, happ⟩, hbuild⟩, hstart⟩, hfinish⟩ :=
    htexts
  have hlevels : Strings Clean (serialize manifest.validationLevels) := by
    apply Strings.serialize_finset
    intro level _
    apply Strings.string
    cases level <;> exact clean_ofList (by decide)
  have hartifacts : Strings Clean (serialize manifest.artifacts) := by
    apply Strings.serialize_list
    intro record hrecord
    exact clean_artifactRecord (List.all_eq_true.mp hrecords record hrecord)
  have hcleanup : Strings Clean (serialize manifest.cleanupStatus) := by
    apply Strings.string
    cases manifest.cleanupStatus <;> exact clean_ofList (by decide)
  have hbuildProfile : Clean job.request.profile.name := by
    cases job.request.profile <;> exact clean_ofList (by decide)
  apply Strings.object_fields
  simp only [ArtifactManifest.fields, Strings.Fields.cons_some, Strings.serialize_string,
    Strings.serialize_uint32, Strings.serialize_bool, true_and, hoperation, hjobEq, hproviderEq,
    hsource, hbundle, hname, hprofile, harch]
  exact ⟨hrequest.operationId, clean_of_identifier hjobId, clean_of_identifier hproject,
    clean_nullable_of_eq hrepository hrequest.sourceRepository,
    clean_nullable_of_eq hrevision hrequest.sourceRevision, hrequest.sourceSha256,
    clean_of_sha256 hlock, clean_of_sha256 hconfig, clean_of_manifestText hferry,
    clean_of_manifestText hworker, clean_of_identifier hprovider, clean_toolchain htools htarget,
    hrequest.productName, clean_of_manifestText happ, clean_of_manifestText hbuild,
    hrequest.bundleIdentifier, hbuildProfile, clean_ofList (by decide),
    clean_signing hsigning,
    clean_extensions hext, hartifacts, hlevels, clean_of_manifestText hstart,
    clean_of_manifestText hfinish, hcleanup, .nil⟩

theorem safe_artifactValidated (hjob : job.validate tools = .ok ())
    (h : acceptsManifest job manifest = true) : SafeKind tools (.artifactValidated manifest) := by
  apply safe_of_fields rfl rfl
  exact Strings.Fields.cons_some.mpr ⟨clean_artifactManifest hjob h, .nil⟩

/-- The failure of a report is safe to print. -/
structure CleanFailure (failure : WorkerPublicFailure) : Prop where
  code : Clean failure.code
  message : Clean failure.message

theorem clean_publicFailure (error : WorkerJobError) : CleanFailure error.publicFailure := by
  have hhook : ∀ failure : WorkerHookFailure, Clean failure.code ∧ Clean failure.message := by
    intro failure
    have hvalid := failure.valid
    rw [Bool.and_eq_true] at hvalid
    exact ⟨clean_of_errorCode hvalid.1, clean_of_manifestText hvalid.2⟩
  cases error with
  | hook phase failure => exact ⟨(hhook failure).1, (hhook failure).2⟩
  | eventSink failure =>
    exact ⟨clean_ofList (by decide), (hhook failure).2⟩
  | _ => exact ⟨clean_ofList (by decide), clean_ofList (by decide)⟩

variable {confirmation : Option CleanupConfirmation}

theorem clean_buildResult {ended : BuildEnd} (hjob : job.validate tools = .ok ())
    (hmanifests : ∀ manifest ∈ ended.manifests, acceptsManifest job manifest = true)
    (hconfirmation : ∀ c, confirmation = some c → Clean c.jobId) :
    Strings Clean (serialize (buildResult job ended confirmation)) := by
  have hversion : Strings Clean (serialize currentProtocolVersion) :=
    Strings.object_fields (by simp [ProtocolVersion.fields, Strings.Fields.nil])
  have hstate : Strings Clean (serialize ended.buildState) := by
    apply Strings.string
    cases ended.buildState <;> exact clean_ofList (by decide)
  have hartifacts : Strings Clean (serialize ended.manifests) := by
    apply Strings.serialize_list
    intro manifest hmem
    exact clean_artifactManifest hjob (hmanifests manifest hmem)
  have hcleanup : Strings.Fields Clean [skipNone confirmation] := by
    apply Strings.Fields.cons_skipNone _ .nil
    intro c hc
    exact clean_confirmation (hconfirmation c hc)
  apply Strings.object_fields
  simp only [IosDeviceBuildResult.fields, buildResult, Strings.Fields.cons_some,
    Strings.serialize_string]
  exact ⟨hversion, (cleanRequest (request_validate hjob)).operationId,
    clean_of_identifier (isIdentifier_jobs hjob).1, hstate, hartifacts, hcleanup⟩

/-- A terminal event says that the job failed exactly when it carries an error. -/
theorem safe_operationFinished {ended : BuildEnd}
    {failure : Option WorkerPublicFailure} {success : Bool} (durationMs : UInt64)
    (hjob : job.validate tools = .ok ())
    (hmanifests : ∀ manifest ∈ ended.manifests, acceptsManifest job manifest = true)
    (hconfirmation : ∀ c, confirmation = some c → Clean c.jobId)
    (hfailure : ∀ f, failure = some f → CleanFailure f) (hsuccess : success = failure.isNone) :
    SafeKind tools (.operationFinished success durationMs
      (some (buildResult job ended confirmation))
      (failure.map WorkerPublicFailure.errorInfo)) := by
  apply safe_of_fields _ rfl
  · simp only [Strings.Fields.cons_some, Strings.serialize_bool, Strings.serialize_uint64, true_and]
    apply Strings.Fields.cons_skipNone
    · intro result hresult
      rw [← Option.some.inj hresult]
      exact clean_buildResult hjob hmanifests hconfirmation
    · apply Strings.Fields.cons_skipNone _ .nil
      intro info hinfo
      obtain ⟨f, hf, rfl⟩ := Option.map_eq_some_iff.mp hinfo
      apply Strings.object_fields
      simp only [RemoteErrorInfo.fields, WorkerPublicFailure.errorInfo, Strings.Fields.cons_some,
        Strings.serialize_string]
      refine ⟨(hfailure f hf).code, (hfailure f hf).message, ?_⟩
      apply Strings.Fields.cons_skipNone _ (by simp [Strings.Fields.nil])
      intro help hhelp
      cases hhelp
  · rw [hsuccess]
    cases failure <;> rfl

end

end RustFerry.Worker
