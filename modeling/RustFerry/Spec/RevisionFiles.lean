import RustFerry.Native.RevisionStore
import RustFerry.Spec.RecordChecks

/-!
# Names and bytes of revision files

What the operations of the store write is what the scan reads: the name of a published
file parses back, and its bytes decode to the record.
-/

namespace RustFerry.JobStore

open Remote Github Except Serde

variable {n width : Nat} {json : Json} {revision : Nat} {tools : StoreTools} {record : StoredJobV1}
  {previous : Option String} {bytes : List UInt8}

/-! ## Names -/

theorem length_decimal_le {k : Nat} (hk : 0 < k) (h : n < 10 ^ k) :
    (Json.decimal n).length ≤ k := by
  induction k generalizing n with
  | zero => omega
  | succ k ih =>
    rw [Json.decimal]
    split
    · simp
    · rename_i hge
      rw [List.length_append, List.length_singleton]
      cases k with
      | zero => omega
      | succ k =>
        have hdiv : n / 10 < 10 ^ (k + 1) := by
          rw [Nat.div_lt_iff_lt_mul (by omega)]
          rw [Nat.pow_succ] at h
          exact h
        have := ih (by omega) hdiv
        omega

theorem length_zeroPadded (hwidth : 0 < width) (h : n < 10 ^ width) :
    (zeroPadded width n).length = width := by
  have := length_decimal_le hwidth h
  rw [zeroPadded, List.length_append, List.length_replicate]
  omega

theorem zeroPadded_ne_nil (width n : Nat) : zeroPadded width n ≠ [] :=
  List.append_ne_nil_of_right_ne_nil _ (Json.decimal_ne_nil n)

theorem isDigit_of_mem_zeroPadded : ∀ c ∈ zeroPadded width n, c.isDigit = true := by
  intro c hc
  cases List.mem_append.mp hc with
  | inl hzero =>
    rw [List.eq_of_mem_replicate hzero]
    decide
  | inr hdigit => exact Json.isDigit_of_mem_decimal n c hdigit

/-- Leading zeros do not change the value. -/
theorem ofDigits_zeroPadded (width n : Nat) : Json.ofDigits (zeroPadded width n) = n := by
  have hzeros : ∀ k, (List.replicate k '0').foldl (fun n c => n * 10 + Json.digitValue c) 0 = 0 := by
    intro k
    induction k with
    | zero => rfl
    | succ k ih =>
      rw [List.replicate_succ, List.foldl_cons]
      exact ih
  rw [Json.ofDigits, zeroPadded, List.foldl_append, hzeros]
  exact Json.ofDigits_decimal n

theorem parseDigits_zeroPadded {bound : Nat} (hn : n < bound) :
    Text.parseDigits bound (zeroPadded width n) = some n := by
  have hne : (zeroPadded width n).isEmpty = false := by
    simp [zeroPadded_ne_nil]
  have hall : (zeroPadded width n).all Char.isDigit = true :=
    List.all_eq_true.mpr isDigit_of_mem_zeroPadded
  have hvalue : (zeroPadded width n).foldl (fun n c => n * 10 + (c.toNat - 48)) 0 = n :=
    ofDigits_zeroPadded width n
  rw [Text.parseDigits, hne, hall, hvalue]
  simp [hn]

theorem stripBack_append (front back : List Char) : stripBack back (front ++ back) = some front := by
  rw [stripBack, if_pos (List.suffix_append front back)]
  simp

/-- A text is split at the first separator. -/
theorem splitOnce_append {separator : Char} {front : List Char} (h : separator ∉ front)
    (back : List Char) : splitOnce separator (front ++ separator :: back) = some (front, back) := by
  have hspan : (front ++ separator :: back).span (· != separator) = (front, separator :: back) := by
    induction front with
    | nil => simp [List.span_eq_takeWhile_dropWhile]
    | cons c front ih =>
      rw [List.mem_cons, not_or] at h
      have hc : (c != separator) = true := by simp [Ne.symm h.1]
      have := ih h.2
      rw [List.span_eq_takeWhile_dropWhile] at this ⊢
      simp only [List.cons_append, List.takeWhile_cons, List.dropWhile_cons, hc, if_true]
      simp_all
  rw [splitOnce, hspan]

/-- The supported revisions. -/
theorem revisionIsSupported_iff :
    revisionIsSupported revision = true ↔ 0 < revision ∧ revision ≤ maxRevisionsPerJob := by
  simp [revisionIsSupported, Nat.pos_iff_ne_zero]

theorem toList_revisionFilename (revision : Nat) (sha256 : String) :
    (revisionFilename revision sha256).toList =
      zeroPadded revisionDigits revision ++ '-' :: sha256.toList ++ ".json".toList :=
  String.toList_ofList

/-- **Round trip** of the name of a revision file. -/
theorem parseRevisionFilename_revisionFilename {sha256 : String}
    (hrevision : revisionIsSupported revision = true) (hsha256 : isLowerSha256 sha256 = true) :
    parseRevisionFilename (revisionFilename revision sha256) = .ok (revision, sha256) := by
  obtain ⟨_, hmax⟩ := revisionIsSupported_iff.mp hrevision
  have hbound : revision ≤ 4096 := hmax
  have hdash : '-' ∉ zeroPadded revisionDigits revision := by
    intro hmem
    exact absurd (isDigit_of_mem_zeroPadded '-' hmem) (by decide)
  have hlength : (zeroPadded revisionDigits revision).length = revisionDigits :=
    length_zeroPadded (by decide) (Nat.lt_of_le_of_lt hbound (by decide))
  have hdigits : (zeroPadded revisionDigits revision).all Char.isDigit = true :=
    List.all_eq_true.mpr isDigit_of_mem_zeroPadded
  have hparse : Text.parseDigits (2 ^ 64) (zeroPadded revisionDigits revision) = some revision :=
    parseDigits_zeroPadded (Nat.lt_of_le_of_lt hbound (by decide))
  have hstrip : stripBack ".json".toList (revisionFilename revision sha256).toList =
      some (zeroPadded revisionDigits revision ++ '-' :: sha256.toList) := by
    rw [toList_revisionFilename, stripBack_append]
  rw [parseRevisionFilename, hstrip]
  simp only [splitOnce_append hdash, hlength, hdigits, String.ofList_toList, hsha256, hparse,
    hrevision, bne_self_eq_false, Bool.not_true, Bool.or_self, rejectIf]
  rfl

/-- A revision file is never taken for a staging file. -/
theorem isRevisionStagingName_revisionFilename (sha256 : String) :
    isRevisionStagingName (revisionFilename revision sha256) = false := by
  have hfront : Text.stripFront ".revision-".toList (revisionFilename revision sha256).toList =
      none := by
    rw [Text.stripFront, if_neg]
    intro hprefix
    obtain ⟨rest, hrest⟩ := List.isPrefixOf_iff_prefix.mp hprefix
    rw [toList_revisionFilename] at hrest
    -- the name starts with a digit, the staging files with a dot
    have hhead := congrArg List.head? hrest
    obtain ⟨c, digits, hdigits⟩ :=
      List.exists_cons_of_ne_nil (zeroPadded_ne_nil revisionDigits revision)
    have hdigit := isDigit_of_mem_zeroPadded c (hdigits ▸ List.mem_cons_self)
    rw [hdigits] at hhead
    have hdot : some '.' = some c := hhead
    rw [← Option.some.inj hdot] at hdigit
    exact absurd hdigit (by decide)
  rw [isRevisionStagingName, hfront]
  rfl

/-! ## Bytes -/

/-- The JSON of a record is read back as the record. -/
structure FaithfulRecord (codec : RecordCodec) (record : StoredJobV1) : Prop where
  fits : ∃ n, n + 1 < Json.recursionLimit ∧ Json.Fits n (codec.recordJson record)
  decode : codec.decode (codec.recordJson record) = some record

theorem jsonOfBytes_jsonLine (h : Json.Fits n json) (hn : n < Json.recursionLimit) :
    jsonOfBytes (jsonLine json) = some json := by
  rw [jsonOfBytes, jsonLine, Text.fromUtf8_utf8]
  show Json.parse (String.ofList (json.print ++ ['\n'])).toList = some json
  rw [String.toList_ofList]
  exact Json.parse_print h hn

/-- A line is the compact text and a newline. -/
theorem length_jsonLine (json : Json) : (jsonLine json).length = json.compactSize + 1 := by
  have hnewline : Char.utf8Size '\n' = 1 := by decide
  rw [jsonLine, Text.length_utf8, Json.utf8ByteSize_ofList, Json.textSize_append, Json.textSize_print]
  simp [hnewline]

/-- When a revision is encoded, and to what. -/
theorem encodeRevisionV2_eq_ok :
    encodeRevisionV2 tools record previous = .ok bytes ↔
      validatePredecessor record.revision previous = .ok () ∧
      bytes.length ≤ maxJobRevisionBytes ∧
      bytes = jsonLine (tools.codec.envelopeJson ⟨jobRevisionSchemaVersion, previous, record⟩) := by
  simp only [encodeRevisionV2, check_bind_eq_ok, rejectIf_eq_ok, decide_eq_false_iff_not, not_lt,
    gt_iff_lt]
  constructor
  · intro hparts
    obtain ⟨hprevious, hsize, hbytes⟩ := hparts
    cases hbytes
    exact ⟨hprevious, hsize, rfl⟩
  · intro hparts
    obtain ⟨hprevious, hsize, hbytes⟩ := hparts
    subst hbytes
    exact ⟨hprevious, hsize, rfl⟩

/-- The predecessor that an encoded revision names is the one the scan expects. -/
theorem expectedPrevious_of_valid (h : validatePredecessor revision previous = .ok ()) :
    expectedPrevious revision previous = .ok previous := by
  cases previous with
  | none =>
    have hone : revision = 1 := by simpa [validatePredecessor] using h
    rw [expectedPrevious, if_pos hone]
  | some sha256 =>
    simp only [validatePredecessor, check_bind_eq_ok, rejectIf_eq_ok, beq_eq_false_iff_ne] at h
    rw [expectedPrevious, if_neg h.1]

theorem fits_envelopeJson {codec : RecordCodec} (h : Json.Fits n (codec.recordJson record)) :
    Json.Fits (n + 1) (codec.envelopeJson ⟨jobRevisionSchemaVersion, previous, record⟩) := by
  apply Json.Fits.object
  intro member hmember
  simp only [List.mem_cons, List.not_mem_nil, or_false] at hmember
  rcases hmember with rfl | rfl | rfl
  · exact .number (by decide)
  · cases previous with
    | none => exact .null
    | some sha256 => exact .string sha256
  · exact h

theorem decodeEnvelope_envelopeJson {codec : RecordCodec}
    (h : codec.decode (codec.recordJson record) = some record) :
    codec.decodeEnvelope (codec.envelopeJson ⟨jobRevisionSchemaVersion, previous, record⟩) =
      some ⟨jobRevisionSchemaVersion, previous, record⟩ := by
  have hprevious : optionalField (some (nullable previous)) = some previous := by
    cases previous <;> rfl
  have hfields : deserializeStruct ["schema_version", "previous_revision_sha256", "job"] true
      (codec.envelopeJson ⟨jobRevisionSchemaVersion, previous, record⟩) =
      some [some (serialize jobRevisionSchemaVersion), some (nullable previous),
        some (codec.recordJson record)] := rfl
  rw [RecordCodec.decodeEnvelope, hfields]
  simp only [Option.bind_eq_bind, Option.bind_some, hprevious, h]
  rfl

theorem probeSchemaVersion_envelopeJson (codec : RecordCodec) (previous : Option String)
    (record : StoredJobV1) :
    probeSchemaVersion (codec.envelopeJson ⟨jobRevisionSchemaVersion, previous, record⟩) =
      some jobRevisionSchemaVersion := by
  rfl

/-- **Round trip** of a published revision: the scan decodes the record that was encoded. -/
theorem decodeRevisionBytes_of_encode (hencode : encodeRevisionV2 tools record previous = .ok bytes)
    (hfaithful : FaithfulRecord tools.codec record) (hvalid : record.validate tools.resume = .ok ())
    (hinitial : validateIfInitial record = .ok ()) :
    decodeRevisionBytes tools bytes record.revision previous =
      .ok ⟨record, jobRevisionSchemaVersion, bytes⟩ := by
  obtain ⟨hprevious, -, hbytes⟩ := encodeRevisionV2_eq_ok.mp hencode
  obtain ⟨n, hn, hfits⟩ := hfaithful.fits
  have hjson : jsonOfBytes bytes =
      some (tools.codec.envelopeJson ⟨jobRevisionSchemaVersion, previous, record⟩) := by
    rw [hbytes]
    exact jsonOfBytes_jsonLine (fits_envelopeJson hfits) hn
  have hdecode : decodeRevisionV2 tools bytes
      (tools.codec.envelopeJson ⟨jobRevisionSchemaVersion, previous, record⟩) record.revision
      previous = .ok record := by
    rw [decodeRevisionV2, decodeEnvelope_envelopeJson hfaithful.decode]
    apply bind_eq_ok.mpr
    refine ⟨previous, expectedPrevious_of_valid hprevious, check_bind_eq_ok.mpr ⟨by simp, ?_⟩⟩
    exact bind_eq_ok.mpr ⟨bytes, hencode, check_bind_eq_ok.mpr ⟨by simp, rfl⟩⟩
  have hschema : decodeBySchema tools bytes
      (tools.codec.envelopeJson ⟨jobRevisionSchemaVersion, previous, record⟩)
      jobRevisionSchemaVersion record.revision previous = .ok record := by
    rw [decodeBySchema, if_neg (by decide), if_pos rfl, hdecode]
  rw [decodeRevisionBytes, hjson]
  simp only [probeSchemaVersion_envelopeJson]
  apply bind_eq_ok.mpr
  refine ⟨record, hschema, check_bind_eq_ok.mpr ⟨by simp, ?_⟩⟩
  exact check_bind_eq_ok.mpr ⟨hvalid, check_bind_eq_ok.mpr ⟨hinitial, rfl⟩⟩

theorem probeSchemaVersion_recordJson (codec : RecordCodec) (record : StoredJobV1) :
    probeSchemaVersion (codec.recordJson record) = some record.schemaVersion := by
  have hfields : deserializeStruct ["schema_version"] false (codec.recordJson record) =
      some [some (serialize record.schemaVersion)] := rfl
  rw [probeSchemaVersion, hfields]
  simp only [Option.bind_eq_bind, Option.bind_some]
  exact requiredField_serialize record.schemaVersion

/-- Round trip of a legacy revision. -/
theorem decodeRevisionBytes_of_legacy (hencode : encodeLegacyRevision tools record = .ok bytes)
    (hschema : record.schemaVersion = legacyJobRevisionSchemaVersion)
    (hfaithful : FaithfulRecord tools.codec record) (hvalid : record.validate tools.resume = .ok ())
    (hinitial : validateIfInitial record = .ok ()) (previous : Option String) :
    decodeRevisionBytes tools bytes record.revision previous =
      .ok ⟨record, legacyJobRevisionSchemaVersion, bytes⟩ := by
  obtain ⟨n, hn, hfits⟩ := hfaithful.fits
  have hsize := (check_bind_eq_ok.mp hencode).1
  have hbytes : jsonLine (tools.codec.recordJson record) = bytes :=
    Except.ok.inj (check_bind_eq_ok.mp hencode).2
  have hjson : jsonOfBytes bytes = some (tools.codec.recordJson record) := by
    rw [← hbytes]
    exact jsonOfBytes_jsonLine hfits (by omega)
  have hlegacy : decodeLegacyRevision tools bytes (tools.codec.recordJson record) = .ok record := by
    rw [decodeLegacyRevision, hfaithful.decode]
    apply check_bind_eq_ok.mpr ⟨hbytes ▸ hsize, ?_⟩
    exact bind_eq_ok.mpr ⟨bytes, hencode, check_bind_eq_ok.mpr ⟨by simp, rfl⟩⟩
  rw [decodeRevisionBytes, hjson]
  simp only [probeSchemaVersion_recordJson, hschema]
  apply bind_eq_ok.mpr
  refine ⟨record, ?_, check_bind_eq_ok.mpr ⟨by simp, ?_⟩⟩
  · rw [decodeBySchema, if_pos rfl, hlegacy]
  · exact check_bind_eq_ok.mpr ⟨hvalid, check_bind_eq_ok.mpr ⟨hinitial, rfl⟩⟩

/-- What a decoded revision is known to be: a valid record in one of the two encodings. -/
structure DecodedOk (tools : StoreTools) (bytes : List UInt8) (revision : Nat)
    (previous : Option String) (decoded : DecodedRevision) : Prop where
  sameBytes : decoded.bytes = bytes
  sameRevision : decoded.record.revision = revision
  valid : decoded.record.validate tools.resume = .ok ()
  initial : validateIfInitial decoded.record = .ok ()
  encoding : decoded.schemaVersion = legacyJobRevisionSchemaVersion ∧
      encodeLegacyRevision tools decoded.record = .ok bytes ∨
    decoded.schemaVersion = jobRevisionSchemaVersion ∧ ∃ expected,
      expectedPrevious revision previous = .ok expected ∧
      encodeRevisionV2 tools decoded.record expected = .ok bytes

/-- Legacy bytes are those of their record. -/
theorem decodeLegacyRevision_eq_ok (h : decodeLegacyRevision tools bytes json = .ok record) :
    encodeLegacyRevision tools record = .ok bytes := by
  rw [decodeLegacyRevision, check_bind_eq_ok] at h
  obtain ⟨-, h⟩ := h
  cases hdecode : tools.codec.decode json with
  | none =>
    rw [hdecode] at h
    cases h
  | some decoded =>
    rw [hdecode] at h
    obtain ⟨encoded, hencode, h⟩ := bind_eq_ok.mp h
    obtain ⟨hsame, hrecord⟩ := check_bind_eq_ok.mp h
    have heq : encoded = bytes := by simpa using hsame
    cases hrecord
    rw [hencode, heq]

/-- Current bytes are those of record and predecessor. -/
theorem decodeRevisionV2_eq_ok
    (h : decodeRevisionV2 tools bytes json revision previous = .ok record) :
    ∃ expected, expectedPrevious revision previous = .ok expected ∧
      encodeRevisionV2 tools record expected = .ok bytes := by
  rw [decodeRevisionV2] at h
  cases hdecode : tools.codec.decodeEnvelope json with
  | none =>
    rw [hdecode] at h
    cases h
  | some envelope =>
    rw [hdecode] at h
    obtain ⟨expected, hexpected, h⟩ := bind_eq_ok.mp h
    obtain ⟨-, h⟩ := check_bind_eq_ok.mp h
    obtain ⟨encoded, hencode, h⟩ := bind_eq_ok.mp h
    obtain ⟨hsame, hrecord⟩ := check_bind_eq_ok.mp h
    have heq : encoded = bytes := by simpa using hsame
    cases hrecord
    exact ⟨expected, hexpected, heq ▸ hencode⟩

/-- What is known of a decoded revision. -/
theorem decodeRevisionBytes_eq_ok {decoded : DecodedRevision}
    (h : decodeRevisionBytes tools bytes revision previous = .ok decoded) :
    DecodedOk tools bytes revision previous decoded := by
  rw [decodeRevisionBytes] at h
  cases hjson : jsonOfBytes bytes with
  | none =>
    rw [hjson] at h
    cases h
  | some json =>
    rw [hjson] at h
    cases hprobe : probeSchemaVersion json with
    | none =>
      simp only [hprobe] at h
      cases h
    | some schema =>
      simp only [hprobe] at h
      obtain ⟨record, hrecord, h⟩ := bind_eq_ok.mp h
      obtain ⟨hrevision, h⟩ := check_bind_eq_ok.mp h
      obtain ⟨hvalid, h⟩ := check_bind_eq_ok.mp h
      obtain ⟨hinitial, h⟩ := check_bind_eq_ok.mp h
      cases h
      refine ⟨rfl, by simpa using hrevision, hvalid, hinitial, ?_⟩
      rw [decodeBySchema] at hrecord
      split at hrecord
      · rename_i hlegacy
        exact Or.inl ⟨hlegacy, decodeLegacyRevision_eq_ok hrecord⟩
      · split at hrecord
        · rename_i hv2
          exact Or.inr ⟨hv2, decodeRevisionV2_eq_ok hrecord⟩
        · cases hrecord

end RustFerry.JobStore
