import RustFerry.Spec.RevisionScan

/-!
# Migration of legacy chains

The migration of a legacy chain publishes the last record once more in the current encoding.
A valid record is almost always its own successor; only the successor rules of its checkpoint
look at the checkpoint itself, and a checkpoint that the chain holds for the first time has
never been through them.
-/

namespace RustFerry.JobStore

open Remote Github Except Serde

/-! ## The no-op successor -/

/-- The record that the migration publishes. -/
def noOpSuccessor (record : StoredJobV1) : StoredJobV1 :=
  { record with revision := record.revision + 1 }

variable {record : StoredJobV1}

/-- Only the identity of a record names its revision. -/
theorem ValidRecord.noOp {tools : ResumeTools}
    (h : ValidRecord tools record) (hsupported : revisionIsSupported (record.revision + 1) = true) :
    ValidRecord tools (noOpSuccessor record) where
  identity := by
    have hidentity := h.identity
    simp only [StoredJobV1.validateIdentity, check_bind_eq_ok, rejectIf_eq_ok] at hidentity ⊢
    exact ⟨hidentity.1, by simp [noOpSuccessor, hsupported], hidentity.2.2⟩
  request := h.request
  state := ⟨h.state.confirmed, h.state.outcome, h.state.succeeded, h.state.cleanupPending,
    h.state.cleanupFailed, h.state.cancellationRequested, h.state.cancelled,
    h.state.failureRequired, h.state.failureAllowed⟩
  artifacts := h.artifacts
  logLocation := h.logLocation
  lineage := h.lineage
  failureCode := h.failureCode
  failed := h.failed
  allocated := h.allocated
  compileEvidence := h.compileEvidence
  signedCleanup := h.signedCleanup
  resume := h.resume
  noResume := h.noResume

theorem canTransitionTo_self (state : StoredJobState) : state.canTransitionTo state = true := by
  simp [StoredJobState.canTransitionTo]

/-- Every state is its own successor: an overlay remembers its phase. -/
theorem stateStep_noOp (hphase : RemembersPhase record) :
    StateStep record (noOpSuccessor record) where
  transition := fun _ => .inl (canTransitionTo_self record.state)
  toUnknown := by
    intro hunknown
    rw [rememberedPhase, if_pos (show record.state = .unknown from hunknown)]
    rfl
  unknownOutcome := fun _ => rfl
  fromUnknown := fun hunknown hne => absurd hunknown hne
  toCleanup := by
    intro hcleanup
    have ho : record.state.isOverlay = true := by
      cases hcleanup with
      | inl hpending => rw [show record.state = .cleanupPending from hpending]; rfl
      | inr hfailed => rw [show record.state = .cleanupFailed from hfailed]; rfl
    obtain ⟨confirmed, hconfirmed, hplain⟩ := hphase ho
    rw [effectiveLocalPhase_of_overlay ho hconfirmed hplain]
    exact hconfirmed
  terminalFromUnknown := by
    intro hunknown hterminal
    have hsame : (noOpSuccessor record).state = .unknown := hunknown
    rw [hsame] at hterminal
    exact absurd hterminal (by decide)

theorem terminalStep_noOp (record : StoredJobV1) : TerminalStep record (noOpSuccessor record) where
  outcome := .refl _
  newOutcome := fun hne => absurd rfl hne
  newCancellation := fun hne heq => absurd heq hne
  newCleanup := fun hne => absurd rfl hne
  failure := by
    show failureCanTransition record (noOpSuccessor record) = true
    rw [failureCanTransition, noOpSuccessor]
    cases record.failure <;> simp
  cleanup := by simp [StoredCleanupStatus.canTransitionTo, noOpSuccessor]
  cancellation := by simp [StoredCancellationStatus.canTransitionTo, noOpSuccessor]

/-- An artifact is found by its identifier when no identifier repeats. -/
theorem findArtifact_of_mem {artifacts : List StoredArtifactV1}
    (h : (artifacts.map (·.record.artifactId)).Nodup) {artifact : StoredArtifactV1}
    (hmem : artifact ∈ artifacts) :
    findArtifact artifacts artifact.record.artifactId = some artifact := by
  rw [findArtifact]
  cases hfound : artifacts.find? (·.record.artifactId == artifact.record.artifactId) with
  | none =>
    have hno := List.find?_eq_none.mp hfound artifact hmem
    exact absurd (beq_self_eq_true _) hno
  | some found =>
    have hid : found.record.artifactId = artifact.record.artifactId := by
      simpa using List.find?_some hfound
    rw [List.inj_on_of_nodup_map h (List.mem_of_find?_eq_some hfound) hmem hid]

theorem artifactStep_refl (artifact : StoredArtifactV1) : ArtifactStep artifact artifact where
  toArtifactKept := .refl artifact
  publication := by
    intro hnone hsome
    rw [hnone] at hsome
    cases hsome
  validation := by
    intro hfalse htrue
    rw [hfalse] at htrue
    cases htrue

theorem artifactsStep_refl {artifacts : List StoredArtifactV1}
    (h : (artifacts.map (·.record.artifactId)).Nodup) : ArtifactsStep artifacts artifacts where
  found := fun artifact hmem => ⟨artifact, findArtifact_of_mem h hmem, artifactStep_refl artifact⟩
  added := fun artifact hmem hnew => absurd rfl (hnew artifact hmem)

/-- The checkpoint of the no-op successor is the same one. -/
theorem validateResumeSuccessor_noOp {tools : ResumeTools} :
    validateResumeSuccessor tools record (noOpSuccessor record) = .ok () ↔
      ∀ resume, record.providerResume = some resume →
        resume.validateSuccessor tools resume = .ok () := by
  rw [validateResumeSuccessor_eq_ok]
  constructor
  · intro hparts resume hresume
    obtain ⟨hkept, _⟩ := hparts
    obtain ⟨new, hnew, hsuccessor⟩ := hkept resume hresume
    have hsame : resume = new := Option.some.inj (hresume.symm.trans hnew)
    rw [← hsame] at hsuccessor
    exact hsuccessor
  · intro hself
    constructor
    · intro old hold
      exact ⟨old, hold, hself old hold⟩
    · intro new hnew hne
      exact absurd hnew hne

/-- **No-op steps** of valid records: everything but the checkpoint is its own successor. -/
theorem validateSuccessor_noOp_iff {tools : ResumeTools}
    (hvalid : ValidRecord tools record) (hphase : RemembersPhase record) :
    validateRegularSuccessor tools record (noOpSuccessor record) = .ok () ↔
      ∀ resume, record.providerResume = some resume → Replaceable tools resume := by
  have hresume : validateResumeSuccessor tools record (noOpSuccessor record) = .ok () ↔
      ∀ resume, record.providerResume = some resume → Replaceable tools resume := by
    rw [validateResumeSuccessor_noOp]
    constructor
    · intro h resume hr
      exact (validateSuccessor_self_iff hvalid hr).mp (h resume hr)
    · intro h resume hr
      exact (validateSuccessor_self_iff hvalid hr).mpr (h resume hr)
  rw [validateRegularSuccessor, check_bind_eq_ok, validateSuccessor_eq_ok, ← hresume]
  constructor
  · intro hparts
    obtain ⟨_, h⟩ := hparts
    exact h.resume
  · intro h
    -- only the revision changes
    refine ⟨by simp [noOpSuccessor], ?_⟩
    exact {
      sameJob := ⟨rfl, rfl, rfl, rfl, rfl, rfl, rfl, rfl, rfl, rfl, rfl, rfl, rfl, rfl⟩
      updatedAtMs := UInt64.le_refl record.updatedAtMs
      providerJobId := .refl _
      providerRunId := .refl _
      submittedAtMs := .refl _
      compileEvidence := .refl _
      signedCleanupEvidence := .refl _
      logLocation := .refl _
      state := stateStep_noOp hphase
      terminal := terminalStep_noOp record
      children := List.prefix_refl _
      artifacts := artifactsStep_refl (artifacts_checked hvalid.artifacts).1
      resume := h }

/-! ## Sizes -/

/-- The JSON of the no-op successor is at most one digit longer. -/
theorem compactSize_noOp_le (codec : RecordCodec) (record : StoredJobV1) :
    (codec.recordJson (noOpSuccessor record)).compactSize ≤
      (codec.recordJson record).compactSize + 1 := by
  have hdigits : (Json.number (.unsigned (record.revision + 1))).compactSize ≤
      (Json.number (.unsigned record.revision)).compactSize + 1 := by
    rw [Json.compactSize, Json.compactSize, Json.numberSize, Json.numberSize]
    exact Json.decimalSize_succ_le record.revision
  exact Json.compactSize_object_le [_, _] hdigits

variable {sha256 : String}

/-- A digest needs no escapes. -/
theorem stringSize_sha256 (h : isLowerSha256 sha256 = true) :
    Json.stringSize sha256 = 66 := by
  simp only [isLowerSha256, Bool.and_eq_true, beq_iff_eq, isLowerHex, List.all_eq_true] at h
  obtain ⟨hlength, hhex⟩ := h
  have hplain : ∀ c ∈ sha256.toList, 0x20 ≤ c.toNat ∧ c ≠ '"' ∧ c ≠ '\\' := by
    intro c hc
    have hdigit := hhex c hc
    have hlow : 0x20 ≤ c.toNat := by
      simp only [Bool.or_eq_true, Char.isDigit, Bool.and_eq_true, decide_eq_true_eq, ge_iff_le,
        Char.le_def, UInt32.le_iff_toNat_le] at hdigit
      simp only [Char.toNat]
      cases hdigit with
      | inl hdigit =>
        have hzero : '0'.val.toNat = 48 := rfl
        omega
      | inr hletter =>
        have ha : 'a'.val.toNat = 97 := rfl
        omega
    refine ⟨hlow, ?_, ?_⟩
    · intro heq
      rw [heq] at hdigit
      exact absurd hdigit (by decide)
    · intro heq
      rw [heq] at hdigit
      exact absurd hdigit (by decide)
  rw [Json.stringSize_of_plain hplain, hlength]

/-- The envelope adds its own fields to the JSON of the record. -/
theorem compactSize_envelopeJson_le (codec : RecordCodec)
    (hsha256 : isLowerSha256 sha256 = true) (record : StoredJobV1) :
    (codec.envelopeJson ⟨jobRevisionSchemaVersion, some sha256, record⟩).compactSize ≤
      (codec.recordJson record).compactSize + 256 := by
  have hdigest := stringSize_sha256 hsha256
  have hfields := fieldSizes_le
  show 2 + (Json.stringSize "schema_version" + 1 + (Json.number (.unsigned 2)).compactSize +
    (1 + Json.stringSize "previous_revision_sha256" + 1 + Json.stringSize sha256 +
      (1 + Json.stringSize "job" + 1 + (codec.recordJson record).compactSize + 0))) ≤ _
  omega

/-- The current encoding of the no-op successor fits when the legacy encoding did. -/
theorem encodeRevisionV2_noOp {tools : StoreTools} {bytes : List UInt8}
    (hlegacy : encodeLegacyRevision tools record = .ok bytes) (hpositive : 0 < record.revision)
    (hsha256 : isLowerSha256 sha256 = true) :
    encodeRevisionV2 tools (noOpSuccessor record) (some sha256) =
      .ok (jsonLine (tools.codec.envelopeJson
        ⟨jobRevisionSchemaVersion, some sha256, noOpSuccessor record⟩)) := by
  simp only [encodeLegacyRevision, check_bind_eq_ok, rejectIf_eq_ok, decide_eq_false_iff_not,
    not_lt, gt_iff_lt] at hlegacy
  have hfits := hlegacy.1
  rw [length_jsonLine] at hfits
  have hrecord := compactSize_noOp_le tools.codec record
  have henvelope := compactSize_envelopeJson_le tools.codec hsha256 (noOpSuccessor record)
  apply encodeRevisionV2_eq_ok.mpr
  refine ⟨?_, ?_, rfl⟩
  · have hlater : ((noOpSuccessor record).revision == 1) = false := by
      rw [beq_eq_false_iff_ne]
      show record.revision + 1 ≠ 1
      omega
    rw [validatePredecessor, hlater, hsha256]
    rfl
  · have hlimit : maxJobRevisionBytes = maxLegacyJobRevisionBytes + 512 := rfl
    have hlength := length_jsonLine (tools.codec.envelopeJson
      ⟨jobRevisionSchemaVersion, some sha256, noOpSuccessor record⟩)
    omega

/-! ## The migration -/

section Migration

variable {tools : StoreTools} {directory : RevisionDirectory} {entries : List RevisionEntry}
  {chain : List DecodedRevision} {latest : RevisionEntry} {decoded : DecodedRevision}

/-- What a migration does: the last record is published once more under the next revision, and
    a second migration publishes nothing. -/
def Migrates (tools : StoreTools) (directory : RevisionDirectory) (entries : List RevisionEntry)
    (record : StoredJobV1) : Prop :=
  ∃ result, migrateJob tools directory = .ok result ∧
    result.published = some (noOpSuccessor record) ∧
    PublishedRevision tools directory entries (noOpSuccessor record) result.directory ∧
    ∃ again, migrateJob tools result.directory = .ok again ∧
      again.published = none ∧ again.directory = result.directory

/-- The name of the next revision of an accepted directory is free. -/
theorem Accepted.free (h : Accepted tools directory entries chain)
    (hsha256 : isLowerSha256 sha256 = true)
    (hsupported : revisionIsSupported (entries.length + 1) = true) :
    revisionFilename (entries.length + 1) sha256 ∉ directory.files.map (·.name) := by
  intro hmem
  obtain ⟨file, hfile, hname⟩ := List.mem_map.mp hmem
  obtain ⟨raw, hraw, hperm⟩ := h.files
  obtain ⟨i, hi, rfl⟩ := List.getElem_of_mem hfile
  have hlength : i < raw.length := hraw.length_eq ▸ hi
  have hscanned : ScannedFile directory.files[i] raw[i] := hraw.get hi hlength
  -- the file would parse as a revision that the chain does not have
  have hparsed := hscanned.parsed
  rw [hname, parseRevisionFilename_revisionFilename hsupported hsha256] at hparsed
  have hrevision : entries.length + 1 = raw[i].revision :=
    congrArg Prod.fst (Except.ok.inj hparsed)
  have hentry : raw[i].revision ∈ entries.map (·.revision) :=
    List.mem_map_of_mem (hperm.mem_iff.mp (List.getElem_mem hlength))
  rw [h.contiguous, List.mem_range'_1] at hentry
  omega

/-- The last record of an accepted directory: it is valid and remembers its phase, and a legacy
    one has a legacy encoding. -/
structure LastRecord (tools : StoreTools) (directory : RevisionDirectory) (latest : RevisionEntry)
    (decoded : DecodedRevision) : Prop where
  owner : decoded.record.localJobId = directory.owner
  sameRevision : decoded.record.revision = latest.revision
  sameBytes : tools.sha256 decoded.bytes = latest.sha256
  valid : ValidRecord tools.resume decoded.record
  phase : RemembersPhase decoded.record
  legacy : decoded.schemaVersion ≠ jobRevisionSchemaVersion →
    ∃ bytes, encodeLegacyRevision tools decoded.record = .ok bytes

theorem Accepted.lastRecord (h : Accepted tools directory entries chain)
    (hlatest : entries.getLast? = some latest)
    (hread : readDecodedRevision tools directory latest = .ok decoded) :
    LastRecord tools directory latest decoded := by
  obtain ⟨last, hlast, hagain, howner, hrevision⟩ := h.readLatest hlatest
  rw [hread] at hagain
  cases hagain
  obtain ⟨front, rfl⟩ := List.getLast?_eq_some_iff.mp hlatest
  obtain ⟨rest, other, hsplit, -⟩ := h.scanned.front
  have hphase : RemembersPhase decoded.record :=
    h.acceptedChain.remembersPhase _ (List.mem_map_of_mem (List.mem_of_getLast? hlast))
  subst hsplit
  rw [List.getLast?_concat] at hlast
  cases hlast
  obtain ⟨file, hfind, -, hdigest, hdecode⟩ :=
    readDecodedRevisionWithPrevious_eq_ok.mp h.scanned.last.1
  have hok := decodeRevisionBytes_eq_ok hdecode
  refine ⟨howner, hrevision, by rw [hok.sameBytes, hdigest], validate_eq_ok.mp hok.valid, hphase, ?_⟩
  intro hnot
  cases hok.encoding with
  | inl hlegacy => exact ⟨_, hlegacy.2⟩
  | inr hcurrent => exact absurd hcurrent.1 hnot

/-- The last revision of an accepted directory is found to be its record. -/
theorem LastRecord.durable (h : LastRecord tools directory latest decoded)
    (hread : readDecodedRevision tools directory latest = .ok decoded) :
    ensureRevisionDurable tools directory latest decoded.record = .ok () := by
  rw [ensureRevisionDurable, hread]
  apply rejectIf_eq_ok.mpr
  simp [h.sameRevision, h.sameBytes]

/-- What a migration does to an accepted directory. -/
theorem Accepted.migrateJob_eq (h : Accepted tools directory entries chain)
    (hlatest : entries.getLast? = some latest)
    (hread : readDecodedRevision tools directory latest = .ok decoded)
    (howner : decoded.record.localJobId = directory.owner) :
    migrateJob tools directory =
      if decoded.schemaVersion = jobRevisionSchemaVersion then do
        ensureRevisionDurable tools directory latest decoded.record
        return ⟨directory, some ⟨directory.owner, latest.revision, latest.sha256, true⟩, none⟩
      else migrateLatest tools directory latest decoded.record := by
  rw [migrateJob, scan_eq_ok_iff.mpr ⟨chain, h⟩]
  show (latestRevision directory entries >>= _) = _
  rw [latestRevision_eq_ok.mpr hlatest]
  show (readDecodedRevision tools directory latest >>= _) = _
  rw [hread]
  show (rejectIf (decoded.record.localJobId ≠ directory.owner) _ >>= _) = _
  rw [rejectIf, if_neg (by simpa using howner)]
  rfl

/-- A chain that ends with a current revision is not migrated again. -/
theorem migrateJob_of_current (hscan : scanRevisionFiles tools directory = .ok entries)
    (hlatest : entries.getLast? = some latest)
    (hread : readDecodedRevision tools directory latest = .ok decoded)
    (hcurrent : decoded.schemaVersion = jobRevisionSchemaVersion) :
    ∃ result, migrateJob tools directory = .ok result ∧ result.published = none ∧
      result.directory = directory := by
  obtain ⟨chain, h⟩ := scan_eq_ok_iff.mp hscan
  have hlast := h.lastRecord hlatest hread
  rw [h.migrateJob_eq hlatest hread hlast.owner, if_pos hcurrent, hlast.durable hread]
  exact ⟨_, rfl, rfl, rfl⟩

section

variable (hsha256 : ∀ bytes, isLowerSha256 (tools.sha256 bytes) = true)
  (h : Accepted tools directory entries chain)

include hsha256 h

/-- A legacy chain whose no-op step is allowed is migrated. -/
theorem exists_migrateJob (hlatest : entries.getLast? = some latest)
    (hlast : LastRecord tools directory latest decoded)
    (hnot : decoded.schemaVersion ≠ jobRevisionSchemaVersion)
    (hbelow : latest.revision < maxRevisionsPerJob)
    (hsuccessor : validateRegularSuccessor tools.resume decoded.record
      (noOpSuccessor decoded.record) = .ok ()) :
    ∃ result, migrateLatest tools directory latest decoded.record = .ok result ∧
      result.published = some (noOpSuccessor decoded.record) := by
  have hcount : latest.revision = entries.length := by
    obtain ⟨front, rfl⟩ := List.getLast?_eq_some_iff.mp hlatest
    rw [h.last_revision, List.length_append, List.length_singleton]
  have hsupported : revisionIsSupported (decoded.record.revision + 1) = true := by
    rw [hlast.sameRevision, revisionIsSupported_iff]
    omega
  have hpositive : 0 < decoded.record.revision := by
    have hself := revisionIsSupported_of_valid (validate_eq_ok.mpr hlast.valid)
    exact (revisionIsSupported_iff.mp hself).1
  have hdigest : isLowerSha256 latest.sha256 = true := hlast.sameBytes ▸ hsha256 decoded.bytes
  -- the legacy encoding fits, so the next revision does, and no file has its name
  obtain ⟨bytes, hbytes⟩ := hlast.legacy hnot
  have hencode := encodeRevisionV2_noOp hbytes hpositive hdigest
  have hname : (noOpSuccessor decoded.record).revision = entries.length + 1 := by
    rw [← hcount, ← hlast.sameRevision]
    rfl
  have hfree : ∀ bytes, revisionFilename (noOpSuccessor decoded.record).revision
      (tools.sha256 bytes) ∉ directory.files.map (·.name) := by
    intro bytes
    rw [hname]
    exact h.free (hsha256 bytes) (by rw [← hcount, ← hlast.sameRevision]; exact hsupported)
  obtain ⟨result, hpublish⟩ := exists_publishRevision hencode (hfree _)
  refine ⟨result, ?_, published_of_publishRevision hpublish⟩
  rw [migrateLatest]
  refine check_bind_eq_ok.mpr ⟨by simp [hsupported], check_bind_eq_ok.mpr ⟨?_, ?_⟩⟩
  · exact validate_eq_ok.mpr (hlast.valid.noOp hsupported)
  · exact check_bind_eq_ok.mpr ⟨hsuccessor, hpublish⟩

/-- A migration that publishes leaves nothing to migrate. -/
theorem migrates_of_published
    (hfaithful : FaithfulRecord tools.codec (noOpSuccessor record)) {result : OperationResult}
    (hrun : migrateJob tools directory = .ok result)
    (hpublished : result.published = some (noOpSuccessor record)) :
    Migrates tools directory entries record := by
  have hclosed : ClosedBy tools directory entries result := by
    apply h.migrateJob_closed hsha256 _ hrun
    intro other hother
    rw [hpublished] at hother
    rw [← Option.some.inj hother]
    exact hfaithful
  cases hclosed with
  | inl hnone => exact absurd (hpublished.symm.trans hnone.1) (Option.some_ne_none _)
  | inr hsome =>
    obtain ⟨other, hother, hrevision⟩ := hsome
    rw [hpublished] at hother
    rw [← Option.some.inj hother] at hrevision
    obtain ⟨entry, bytes, -, hscan, hread, -⟩ := hrevision.appended
    exact ⟨result, hrun, hpublished, hrevision,
      migrateJob_of_current hscan List.getLast?_concat hread rfl⟩

end

/-- A migration checks the no-op step. -/
theorem successor_of_migrateJob (h : Accepted tools directory entries chain)
    (hlatest : entries.getLast? = some latest)
    (hread : readDecodedRevision tools directory latest = .ok decoded)
    (hnot : decoded.schemaVersion ≠ jobRevisionSchemaVersion) {result : OperationResult}
    (hrun : migrateJob tools directory = .ok result) :
    validateRegularSuccessor tools.resume decoded.record (noOpSuccessor decoded.record) =
      .ok () := by
  rw [h.migrateJob_eq hlatest hread (h.lastRecord hlatest hread).owner, if_neg hnot,
    migrateLatest] at hrun
  obtain ⟨-, hrest⟩ := check_bind_eq_ok.mp hrun
  obtain ⟨-, hrest⟩ := check_bind_eq_ok.mp hrest
  exact (check_bind_eq_ok.mp hrest).1

/-- **Migration of a legacy chain**: it succeeds exactly when the checkpoint of the last record
    may replace itself. -/
theorem migrateJob_iff_replaceable
    (hsha256 : ∀ bytes, isLowerSha256 (tools.sha256 bytes) = true)
    (hscan : scanRevisionFiles tools directory = .ok entries)
    (hlatest : entries.getLast? = some latest)
    (hread : readDecodedRevision tools directory latest = .ok decoded)
    (hlegacy : decoded.schemaVersion = legacyJobRevisionSchemaVersion)
    (hbelow : latest.revision < maxRevisionsPerJob)
    (hfaithful : FaithfulRecord tools.codec (noOpSuccessor decoded.record)) :
    Migrates tools directory entries decoded.record ↔
      ∀ resume, decoded.record.providerResume = some resume →
        Replaceable tools.resume resume := by
  obtain ⟨chain, h⟩ := scan_eq_ok_iff.mp hscan
  have hlast := h.lastRecord hlatest hread
  have hnot : decoded.schemaVersion ≠ jobRevisionSchemaVersion := by
    rw [hlegacy]
    decide
  have hmigrate := h.migrateJob_eq hlatest hread hlast.owner
  rw [if_neg hnot] at hmigrate
  rw [← validateSuccessor_noOp_iff hlast.valid hlast.phase]
  constructor
  · intro hparts
    obtain ⟨result, hrun, _⟩ := hparts
    exact successor_of_migrateJob h hlatest hread hnot hrun
  · intro hsuccessor
    obtain ⟨result, hrun, hpublished⟩ :=
      exists_migrateJob hsha256 h hlatest hlast hnot hbelow hsuccessor
    exact migrates_of_published hsha256 h hfaithful (hmigrate.trans hrun) hpublished

end Migration

/-! ## Legacy chains of the sample job -/

namespace Sample

/-- The events of a failed operation whose cleanup finished. -/
def abandonedEvents : List RemoteBuildEvent :=
  [event 1 4000 (.operationFinished false 10 none
      (some ⟨"github.run_failed", "The run failed.", none, false⟩)),
    event 2 5000 .cleanupStarted,
    event 3 6000 (.cleanupFinished ⟨"operation-1", 5500, true, true, true⟩)]

/-- A checkpoint of a job that was cleaned although its run never completed. -/
def abandoned : GithubJobResumeV1 :=
  { built with
    run := none
    state := .cleaned
    cleanupRequested := true
    temporaryRefDeleted := true
    manifests := []
    compileEvidence := none
    events := abandonedEvents }

/-- The first revision with a checkpoint, which is this one. -/
def abandonedJob : StoredJobV1 :=
  { created with
    revision := 2
    providerJobId := some "operation-1"
    submittedAtMs := some 2000
    updatedAtMs := 6000
    state := .failed
    lastConfirmedState := some .failed
    terminalOutcome := some .failed
    cleanupStatus := .confirmed
    failure := some ⟨"github.run_failed", false⟩
    providerResume := some abandoned }

/-- The JSON of a checkpoint without a snapshot, a dispatch, a run or evidence. -/
def checkpointJson (resume : GithubJobResumeV1) : Json := .object
  [("schema_version", serialize resume.schemaVersion), ("provider", serialize resume.provider),
    ("provider_config_sha256", serialize resume.providerConfigSha256),
    ("principal", serialize resume.principal),
    ("execution_repository", serialize resume.executionRepository),
    ("execution_repository_id", serialize resume.executionRepositoryId),
    ("source_repository", serialize resume.sourceRepository),
    ("trusted_source_ref", serialize resume.trustedSourceRef),
    ("workflow_path", serialize resume.workflowPath),
    ("workflow_sha256", serialize resume.workflowSha256),
    ("temporary_ref", serialize resume.temporaryRef),
    ("operation_id", serialize resume.operationId), ("job_id", serialize resume.jobId),
    ("request", serialize resume.request), ("request_sha256", serialize resume.requestSha256),
    ("source_revision", serialize resume.sourceRevision),
    ("prepared_dispatch_commit", nullable resume.preparedDispatchCommit),
    ("dispatch_commit", nullable resume.dispatchCommit),
    ("created_at_ms", serialize resume.createdAtMs),
    ("publication_started_at_ms", serialize resume.publicationStartedAtMs),
    ("publication_quiescence_deadline_ms", serialize resume.publicationQuiescenceDeadlineMs),
    ("state", serialize resume.state), ("publication_intent", serialize resume.publicationIntent),
    ("publication_uncertain", serialize resume.publicationUncertain),
    ("publication_absent", serialize resume.publicationAbsent),
    ("publication_not_attempted", serialize resume.publicationNotAttempted),
    ("publication_process_fenced", serialize resume.publicationProcessFenced),
    ("publication_absence_observations",
      .number (.unsigned resume.publicationAbsenceObservations.toNat)),
    ("publication_absence_first_observed_at_ms",
      serialize resume.publicationAbsenceFirstObservedAtMs),
    ("cancellation_requested", serialize resume.cancellationRequested),
    ("cancellation_dispatched", serialize resume.cancellationDispatched),
    ("cleanup_requested", serialize resume.cleanupRequested),
    ("remove_artifacts_requested", serialize resume.removeArtifactsRequested),
    ("artifacts_removed", serialize resume.artifactsRemoved),
    ("temporary_ref_deleted", serialize resume.temporaryRefDeleted),
    ("verification_pending_event", serialize resume.verificationPendingEvent),
    ("run_discovery_attempts", serialize resume.runDiscoveryAttempts),
    ("run_discovery_deadline_ms", serialize resume.runDiscoveryDeadlineMs),
    ("manifests", .array []), ("events", serialize resume.events)]

def legacyParts : RecordCodec := { parts with providerResume := checkpointJson }

/-- The store of the legacy chains: it knows their records. -/
def legacyStore : StoreTools where
  resume := tools
  codec := { legacyParts with
    decode := fun json => [created, noOpSuccessor created, abandonedJob].find? fun record =>
      legacyParts.recordJson record = json }

theorem isLowerSha256_legacy : ∀ bytes, isLowerSha256 (legacyStore.sha256 bytes) = true :=
  isLowerSha256_sha256

theorem recordJson_legacyStore (record : StoredJobV1) :
    legacyStore.codec.recordJson record = legacyParts.recordJson record := rfl

theorem decode_legacyStore (json : Json) : legacyStore.codec.decode json =
    [created, noOpSuccessor created, abandonedJob].find? fun record =>
      legacyParts.recordJson record = json := rfl

/-- The legacy line of a record. -/
def legacyBytes (record : StoredJobV1) : List UInt8 :=
  jsonLine (legacyParts.recordJson record)

def legacyEntry (record : StoredJobV1) : RevisionEntry where
  revision := record.revision
  sha256 := legacyStore.sha256 (legacyBytes record)
  name := revisionFilename record.revision (legacyStore.sha256 (legacyBytes record))

def legacyFile (record : StoredJobV1) : RevisionFile :=
  ⟨(legacyEntry record).name, legacyBytes record⟩

def legacyDecoded (record : StoredJobV1) : DecodedRevision :=
  ⟨record, legacyJobRevisionSchemaVersion, legacyBytes record⟩

/-- A record that the store of the legacy chains holds. -/
structure LegacySample (record : StoredJobV1) : Prop where
  faithful : FaithfulRecord legacyStore.codec record
  size : (legacyParts.recordJson record).compactSize ≤ 65000
  valid : ValidRecord tools record
  initial : validateIfInitial record = .ok ()
  owner : record.localJobId = created.localJobId

namespace LegacySample

variable {record : StoredJobV1}

theorem supported (h : LegacySample record) : revisionIsSupported record.revision = true :=
  revisionIsSupported_of_valid (validate_eq_ok.mpr h.valid)

theorem schema (h : LegacySample record) :
    record.schemaVersion = legacyJobRevisionSchemaVersion := by
  have hidentity := h.valid.identity
  simp only [StoredJobV1.validateIdentity, check_bind_eq_ok, rejectIf_eq_ok] at hidentity
  have hschema : record.schemaVersion = jobStoreSchemaVersion := by simpa using hidentity.1
  exact hschema

theorem legacyLimit_le : 65536 ≤ maxJobRevisionBytes := by decide

theorem bytes_le (h : LegacySample record) : (legacyBytes record).length ≤ 65536 := by
  have hsize := h.size
  rw [legacyBytes, length_jsonLine]
  omega

theorem encode (h : LegacySample record) :
    encodeLegacyRevision legacyStore record = .ok (legacyBytes record) := by
  have hlimit : 65536 ≤ maxLegacyJobRevisionBytes := by decide
  have hbytes := h.bytes_le
  rw [encodeLegacyRevision]
  refine check_bind_eq_ok.mpr ⟨rejectIf_eq_ok.mpr ?_, rfl⟩
  rw [decide_eq_false_iff_not, gt_iff_lt, not_lt]
  exact hbytes.trans hlimit

theorem scanned (h : LegacySample record) : ScannedFile (legacyFile record) (legacyEntry record) where
  notStaging := isRevisionStagingName_revisionFilename _
  parsed := by
    simp only [legacyFile, legacyEntry]
    exact parseRevisionFilename_revisionFilename h.supported (isLowerSha256_legacy _)
  name := rfl
  size := by
    simp only [legacyFile]
    exact Nat.le_trans h.bytes_le legacyLimit_le

theorem read (h : LegacySample record) {directory : RevisionDirectory}
    (hfind : directory.find (legacyEntry record).name = some (legacyFile record))
    (previous : Option String) :
    readDecodedRevisionWithPrevious legacyStore directory (legacyEntry record) previous =
      .ok (legacyDecoded record) := by
  rw [readDecodedRevisionWithPrevious_eq_ok]
  refine ⟨_, hfind, h.scanned.size, ?_⟩
  simp only [legacyFile, legacyEntry, legacyDecoded, true_and]
  exact decodeRevisionBytes_of_legacy h.encode h.schema h.faithful (validate_eq_ok.mpr h.valid)
    h.initial previous

end LegacySample

/-- The legacy directory of the first revision. -/
def legacyOnce : RevisionDirectory where
  owner := created.localJobId
  files := [legacyFile created]
  distinct := List.nodup_singleton _

theorem sample_created : LegacySample created where
  faithful := ⟨⟨20, by decide, fits_created⟩, by
    rw [recordJson_legacyStore, decode_legacyStore, List.find?_cons_of_pos (by simp)]⟩
  size := size_created.trans (by decide)
  valid := valid_created
  initial := initial_created
  owner := rfl

theorem accepted_legacyOnce :
    Accepted legacyStore legacyOnce [legacyEntry created] [legacyDecoded created] where
  bound := by decide
  files := ⟨_, .cons sample_created.scanned .nil, .refl _⟩
  contiguous := rfl
  scanned := by
    have hfind : legacyOnce.find (legacyEntry created).name = some (legacyFile created) := by
      simp [RevisionDirectory.find, legacyOnce, legacyFile]
    apply ScannedChain.snoc .nil (sample_created.read hfind _)
    · simp
    · rfl
    · intro previous hprevious
      exact absurd hprevious (Option.some_ne_none _).symm

theorem scan_legacyOnce : scanRevisionFiles legacyStore legacyOnce = .ok [legacyEntry created] :=
  scan_eq_ok_iff.mpr ⟨_, accepted_legacyOnce⟩

theorem latest_legacyOnce : [legacyEntry created].getLast? = some (legacyEntry created) := rfl

theorem read_legacyOnce : readDecodedRevision legacyStore legacyOnce (legacyEntry created) =
    .ok (legacyDecoded created) := by
  obtain ⟨decoded, hlast, hread, -⟩ := accepted_legacyOnce.readLatest latest_legacyOnce
  have heq : legacyDecoded created = decoded := Option.some.inj hlast
  rw [hread, heq]

/-- The records of the legacy directory have different JSON, which is small, and its abandoned job
    comes from the abandoned checkpoint. -/
theorem legacy_evaluates :
    ((Json.fitsIn 20 (legacyParts.recordJson (noOpSuccessor created)) = true ∧
        legacyParts.recordJson created ≠ legacyParts.recordJson (noOpSuccessor created)) ∧
      (Json.fitsIn 20 (legacyParts.recordJson abandonedJob) = true ∧
        (legacyParts.recordJson abandonedJob).sizeBound ≤ 65000) ∧
      legacyParts.recordJson created ≠ legacyParts.recordJson abandonedJob ∧
      legacyParts.recordJson (noOpSuccessor created) ≠ legacyParts.recordJson abandonedJob) ∧
    abandonedJob.validateResume tools abandoned = .ok () ∧
    validateTerminalSuccessor created abandonedJob = .ok () ∧
    projectGithubResume created abandoned = .ok abandonedJob := by
  decide +kernel

theorem faithful_noOp : FaithfulRecord legacyStore.codec (noOpSuccessor created) where
  fits := ⟨20, by decide, .of_fitsIn legacy_evaluates.1.1.1⟩
  decode := by
    have hne := legacy_evaluates.1.1.2
    rw [recordJson_legacyStore, decode_legacyStore, List.find?_cons_of_neg (by simpa using hne),
      List.find?_cons_of_pos (by simp)]

theorem run_legacyOnce : ∃ result, legacyOnce.run legacyStore .migrate = .ok result ∧
    result.published = some (noOpSuccessor created) := by
  have hlast := accepted_legacyOnce.lastRecord latest_legacyOnce read_legacyOnce
  have hnot : (legacyDecoded created).schemaVersion ≠ jobRevisionSchemaVersion := by decide
  have hsuccessor := (validateSuccessor_noOp_iff hlast.valid hlast.phase).mpr
    (forall_of_eq_none rfl)
  obtain ⟨result, hrun, hpublished⟩ := exists_migrateJob isLowerSha256_legacy accepted_legacyOnce
    latest_legacyOnce hlast hnot (by decide) hsuccessor
  have hmigrate := accepted_legacyOnce.migrateJob_eq latest_legacyOnce read_legacyOnce hlast.owner
  rw [if_neg hnot] at hmigrate
  exact ⟨result, hmigrate.trans hrun, hpublished⟩

theorem publication_closed_legacyOnce : ∃ result,
    legacyOnce.run legacyStore .migrate = .ok result ∧
      result.published = some (noOpSuccessor created) ∧
      ClosedBy legacyStore legacyOnce [legacyEntry created] result := by
  obtain ⟨result, hrun, hpublished⟩ := run_legacyOnce
  refine ⟨result, hrun, hpublished, ?_⟩
  apply (publication_closed isLowerSha256_legacy scan_legacyOnce).2 _ result hrun
  intro record hrecord
  rw [hpublished] at hrecord
  rw [← Option.some.inj hrecord]
  exact faithful_noOp

theorem migrateJob_legacyOnce :
    Migrates legacyStore legacyOnce [legacyEntry created] created := by
  have hresume : created.providerResume = none := rfl
  exact (migrateJob_iff_replaceable isLowerSha256_legacy scan_legacyOnce latest_legacyOnce read_legacyOnce rfl
    (by decide) faithful_noOp).mpr (forall_of_eq_none hresume)

theorem sameJob_abandonedJob : SameJob created abandonedJob := by
  constructor <;> rfl

theorem valid_abandonedJob : ValidRecord tools abandonedJob where
  identity := validateIdentity_of_sameJob sameJob_abandonedJob valid_created.identity rfl
    (by decide) providerJobId_ok (forall_of_eq_none rfl)
  request := validateRequest_of_sameJob sameJob_abandonedJob valid_created.request (by decide)
    (fun t h => ⟨(submittedAtMs_ok t h).1, by rw [← Option.some.inj h]; decide⟩)
  state := validateJobState_eq_ok.mp (by decide)
  artifacts := by decide
  logLocation := forall_of_eq_none rfl
  lineage := by decide
  failureCode := fun _ h => Option.some.inj h ▸ by decide
  failed := by decide
  allocated := by decide
  compileEvidence := forall_of_eq_none rfl
  signedCleanup := by decide
  resume := fun _ h => Option.some.inj h ▸ legacy_evaluates.2.1
  noResume := absurd_of_eq_some abandoned rfl

theorem created_to_abandonedJob : AcceptedStep tools created abandonedJob := by
  refine ⟨validate_eq_ok.mpr valid_abandonedJob, validateSuccessor_eq_ok.mpr ?_⟩
  exact {
    sameJob := sameJob_abandonedJob
    updatedAtMs := by decide
    providerJobId := .of_eq_none rfl
    providerRunId := .of_eq_none rfl
    submittedAtMs := .of_eq_none rfl
    compileEvidence := .of_eq_none rfl
    signedCleanupEvidence := .of_eq_none rfl
    logLocation := .of_eq_none rfl
    state := validateStateSuccessor_eq_ok.mp (by decide)
    terminal := validateTerminalSuccessor_eq_ok.mp legacy_evaluates.2.2.1
    children := List.prefix_refl _
    artifacts := validateArtifactSuccessor_eq_ok.mp (by decide)
    resume := by
      apply validateResumeSuccessor_eq_ok.mpr
      refine ⟨forall_of_eq_none rfl, ?_⟩
      intro new hnew _
      rw [← Option.some.inj hnew]
      exact legacy_evaluates.2.2.2 }

theorem sample_abandonedJob : LegacySample abandonedJob where
  faithful := ⟨⟨20, by decide, .of_fitsIn legacy_evaluates.1.2.1.1⟩, by
    obtain ⟨hfirst, hsecond⟩ := legacy_evaluates.1.2.2
    rw [recordJson_legacyStore, decode_legacyStore,
      List.find?_cons_of_neg (by simpa using hfirst),
      List.find?_cons_of_neg (by simpa using hsecond), List.find?_cons_of_pos (by simp)]⟩
  size := (Json.compactSize_le_sizeBound _).trans legacy_evaluates.1.2.1.2
  valid := valid_abandonedJob
  initial := rfl
  owner := rfl

theorem name_ne : (legacyEntry created).name ≠ (legacyEntry abandonedJob).name := by
  intro heq
  have hcreated := sample_created.scanned.parsed
  have habandoned := sample_abandonedJob.scanned.parsed
  rw [show (legacyFile created).name = (legacyFile abandonedJob).name from heq, habandoned]
    at hcreated
  exact absurd (congrArg Prod.fst (Except.ok.inj hcreated)) (by decide)

/-- The legacy directory of both revisions. -/
def legacyTwice : RevisionDirectory where
  owner := created.localJobId
  files := [legacyFile created, legacyFile abandonedJob]
  distinct := by simpa [legacyFile] using name_ne

theorem accepted_legacyTwice : Accepted legacyStore legacyTwice
    ([legacyEntry created] ++ [legacyEntry abandonedJob])
    ([legacyDecoded created] ++ [legacyDecoded abandonedJob]) where
  bound := by decide
  files := ⟨_, .cons sample_created.scanned (.cons sample_abandonedJob.scanned .nil), .refl _⟩
  contiguous := rfl
  scanned := by
    have hfirst : legacyTwice.find (legacyEntry created).name = some (legacyFile created) := by
      simp [RevisionDirectory.find, legacyTwice, legacyFile]
    have hsecond : legacyTwice.find (legacyEntry abandonedJob).name =
        some (legacyFile abandonedJob) := by
      have hne : ((legacyEntry created).name == (legacyEntry abandonedJob).name) = false :=
        beq_eq_false_iff_ne.mpr name_ne
      simp [RevisionDirectory.find, legacyTwice, legacyFile, hne]
    apply ScannedChain.snoc _ (sample_abandonedJob.read hsecond _)
    · intro _ earlier hmem
      rw [List.mem_singleton.mp hmem]
      rfl
    · rfl
    · intro previous hprevious
      have heq : legacyDecoded created = previous := Option.some.inj hprevious
      rw [← heq]
      exact validateSuccessor_eq_ok.mpr created_to_abandonedJob.successor
    · apply ScannedChain.snoc .nil (sample_created.read hfirst _)
      · simp
      · rfl
      · intro previous hprevious
        exact absurd hprevious (Option.some_ne_none _).symm

/-- The chain that ends with this checkpoint is a legacy chain, and it is not migrated. -/
theorem legacyTwice_not_migrated :
    scanRevisionFiles legacyStore legacyTwice =
        .ok [legacyEntry created, legacyEntry abandonedJob] ∧
      readDecodedRevision legacyStore legacyTwice (legacyEntry abandonedJob) =
        .ok (legacyDecoded abandonedJob) ∧
      (legacyDecoded abandonedJob).schemaVersion = legacyJobRevisionSchemaVersion ∧
      abandonedJob.revision < maxRevisionsPerJob ∧
      ¬ ∃ result, migrateJob legacyStore legacyTwice = .ok result := by
  have hlatest : ([legacyEntry created] ++ [legacyEntry abandonedJob]).getLast? =
      some (legacyEntry abandonedJob) := rfl
  have hread : readDecodedRevision legacyStore legacyTwice (legacyEntry abandonedJob) =
      .ok (legacyDecoded abandonedJob) := by
    obtain ⟨decoded, hlast, hread, -⟩ := accepted_legacyTwice.readLatest hlatest
    have heq : legacyDecoded abandonedJob = decoded := Option.some.inj hlast
    rw [hread, heq]
  refine ⟨scan_eq_ok_iff.mpr ⟨_, accepted_legacyTwice⟩, hread, rfl, by decide, ?_⟩
  intro hparts
  obtain ⟨result, hrun⟩ := hparts
  have hsuccessor := successor_of_migrateJob accepted_legacyTwice hlatest hread
    (show legacyJobRevisionSchemaVersion ≠ jobRevisionSchemaVersion by decide) hrun
  have hlast := accepted_legacyTwice.lastRecord hlatest hread
  have hreplaceable := (validateSuccessor_noOp_iff hlast.valid hlast.phase).mp hsuccessor
    abandoned rfl
  exact absurd (hreplaceable.cleanupProven rfl) (by decide)

end Sample

end RustFerry.JobStore
