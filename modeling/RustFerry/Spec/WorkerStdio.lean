import RustFerry.Native.WorkerStdio
import RustFerry.Spec.RequestBytes

/-!
# Worker stdio round trips

Every envelope that the encoder accepts is read back by the strict decoder, from any way of
cutting the bytes into reads. A failure of the encoder leaves the writer untouched, unless it
is the writer that failed.
-/

namespace RustFerry.Remote

open Serde Artifact Except

/-! ## Provider types -/

instance : LawfulSerde SourceMode 0 where
  deserialize_serialize mode := by cases mode <;> decide
  fits_serialize _ := .string _
  serialize_ne_null _ h := nomatch h

instance : LawfulSerde ProviderCheckStatus 0 where
  deserialize_serialize status := by cases status <;> decide
  fits_serialize _ := .string _
  serialize_ne_null _ h := nomatch h

/-- What is read for a version. -/
def strictVersion (v : ProtocolVersion) : StrictProtocolVersion := ⟨v.major, v.minor⟩

@[simp] theorem read_protocolVersion (v : ProtocolVersion) :
    (deserialize (serialize v) : Option StrictProtocolVersion) = some (strictVersion v) := by
  rw [deserialize_serialize_struct (by decide) (fun _ => rfl) (fun _ => rfl) (fun _ => rfl)]
  simp [ProtocolVersion.fields, StrictProtocolVersion.ofFields, strictVersion]

/-- What is read for a feature. -/
def strictFeature : ProviderFeature → StrictProviderFeature
  | .sourceMode value => .sourceMode value
  | .iosDeviceBuild => .iosDeviceBuild
  | .iosSimulatorBuild => .iosSimulatorBuild
  | .signingMode value => .signingMode value
  | .personalTeam => .personalTeam
  | .liveEvents => .liveEvents
  | .liveLogs => .liveLogs
  | .cancellation => .cancellation
  | .artifactType value => .artifactType value
  | .cache => .cache
  | .artifactListing => .artifactListing
  | .artifactDownload => .artifactDownload
  | .cleanup => .cleanup
  | .physicalDeviceAccess => .physicalDeviceAccess

@[simp] theorem read_feature (feature : ProviderFeature) :
    (deserialize (serialize feature) : Option StrictProviderFeature) =
      some (strictFeature feature) := by
  have hadjacent := deserializeAdjacent_adjacent (show "feature" ≠ "value" by decide) true
    feature.parts.1 feature.parts.2
  show (deserializeAdjacent "feature" "value" true
    (adjacent "feature" "value" feature.parts.1 feature.parts.2)).bind _ = _
  rw [hadjacent]
  cases feature with
  | sourceMode value => cases value <;> rfl
  | signingMode value => cases value <;> rfl
  | artifactType value => cases value <;> rfl
  | _ => rfl

theorem into_strictFeature (feature : ProviderFeature) :
    (strictFeature feature).into = feature := by
  cases feature <;> rfl

instance : FaithfulSerialize ProviderFeature 1 :=
  faithfulSerialize_of_read read_feature into_strictFeature
    (fun feature => by
      apply fits_adjacent
      intro v hv
      cases feature with
      | sourceMode value | signingMode value | artifactType value =>
        rw [← Option.some.inj hv]
        exact .string _
      | _ => simp [ProviderFeature.parts] at hv)
    (fun _ h => nomatch h)

/-- What is read for an inventory. -/
def strictCapabilities (c : ProviderCapabilities) : StrictProviderCapabilities where
  sourceModes := c.sourceModes
  iosDeviceBuild := c.iosDeviceBuild
  iosSimulatorBuild := c.iosSimulatorBuild
  signingModes := c.signingModes
  personalTeam := c.personalTeam
  liveEvents := c.liveEvents
  liveLogs := c.liveLogs
  cancellation := c.cancellation
  artifactTypes := c.artifactTypes
  cache := c.cache
  maxSourceBytes := c.maxSourceBytes
  retentionSeconds := c.retentionSeconds
  artifactListing := c.artifactListing
  artifactDownload := c.artifactDownload
  cleanup := c.cleanup
  physicalDeviceAccess := c.physicalDeviceAccess

@[simp] theorem read_capabilities (c : ProviderCapabilities) :
    (deserialize (serialize c) : Option StrictProviderCapabilities) =
      some (strictCapabilities c) := by
  rw [deserialize_serialize_struct (by decide) (fun _ => rfl) (fun _ => rfl) (fun _ => rfl)]
  simp [ProviderCapabilities.fields, StrictProviderCapabilities.ofFields, strictCapabilities]

instance : FaithfulSerialize ProviderCapabilities 2 :=
  @faithfulSerialize_of_read _ _ _ _ _ _ StrictProviderCapabilities.into read_capabilities
    (fun _ => rfl)
    (fun c => fits_object_serializeFields _ (by simp [ProviderCapabilities.fields]))
    (fun _ h => nomatch h)

/-- What is read for a check. -/
def strictCheck (c : ProviderCheck) : StrictProviderCheck :=
  ⟨c.code, c.status, c.message, c.help⟩

@[simp] theorem read_check (c : ProviderCheck) :
    (deserialize (serialize c) : Option StrictProviderCheck) = some (strictCheck c) := by
  rw [deserialize_serialize_struct (by decide) (fun _ => rfl) (fun _ => rfl) (fun _ => rfl)]
  simp [ProviderCheck.fields, StrictProviderCheck.ofFields, strictCheck]

instance : FaithfulSerialize ProviderCheck 1 :=
  @faithfulSerialize_of_read _ _ _ _ _ _ (fun c => ⟨c.code, c.status, c.message, c.help⟩)
    read_check (fun _ => rfl)
    (fun c => fits_object_serializeFields _ (by simp [ProviderCheck.fields]))
    (fun _ h => nomatch h)

/-! ## Payloads -/

/-- A version is read back from how it is displayed. -/
class LawfulSemver (V : Type) [Semver V] : Prop where
  parse_display (version : V) : Semver.parse (Semver.display version) = some version

variable {V : Type} [Semver V] [LawfulSemver V]

@[simp] theorem read_version (version : V) :
    deserializeVersion (some (serializeVersion version)) = some version :=
  LawfulSemver.parse_display version

omit [LawfulSemver V] in
@[simp] theorem FieldsFit.version_cons {n : Nat} (version : V) (values : List (Option Json)) :
    FieldsFit n (some (serializeVersion version) :: values) ↔ FieldsFit n values := by
  have h : (serializeVersion version).Fits n := .string _
  simp [FieldsFit, h]

def strictHandshakeRequest (r : HandshakeRequest V) : StrictHandshakeRequest V :=
  ⟨strictVersion r.protocolVersion, r.clientVersion, r.requiredFeatures.map strictFeature⟩

@[simp] theorem read_handshakeRequest (r : HandshakeRequest V) :
    (deserialize (serialize r) : Option (StrictHandshakeRequest V)) =
      some (strictHandshakeRequest r) := by
  rw [deserialize_serialize_struct (by decide) (fun _ => rfl) (fun _ => rfl) (fun _ => rfl)]
  simp [HandshakeRequest.fields, StrictHandshakeRequest.ofFields, requiredField,
    deserialize_serialize_list read_feature, strictHandshakeRequest]

def strictDoctorRequest (r : ProviderDoctorRequest) : StrictProviderDoctorRequest :=
  ⟨strictVersion r.protocolVersion, r.operationId, r.requireSigning⟩

@[simp] theorem read_doctorRequest (r : ProviderDoctorRequest) :
    (deserialize (serialize r) : Option StrictProviderDoctorRequest) =
      some (strictDoctorRequest r) := by
  rw [deserialize_serialize_struct (by decide) (fun _ => rfl) (fun _ => rfl) (fun _ => rfl)]
  simp [ProviderDoctorRequest.fields, StrictProviderDoctorRequest.ofFields, requiredField,
    strictDoctorRequest]

def strictHandshakeResponse (r : HandshakeResponse V) : StrictHandshakeResponse V :=
  ⟨strictVersion r.protocolVersion, r.workerVersion, r.provider, r.workerId,
    strictCapabilities r.capabilities⟩

@[simp] theorem read_handshakeResponse (r : HandshakeResponse V) :
    (deserialize (serialize r) : Option (StrictHandshakeResponse V)) =
      some (strictHandshakeResponse r) := by
  rw [deserialize_serialize_struct (by decide) (fun _ => rfl) (fun _ => rfl) (fun _ => rfl)]
  simp [HandshakeResponse.fields, StrictHandshakeResponse.ofFields, requiredField,
    strictHandshakeResponse]

def strictDoctorReport (r : ProviderDoctorReport) : StrictProviderDoctorReport :=
  ⟨strictVersion r.protocolVersion, r.provider, r.ready, r.checks.map strictCheck,
    strictCapabilities r.capabilities⟩

@[simp] theorem read_doctorReport (r : ProviderDoctorReport) :
    (deserialize (serialize r) : Option StrictProviderDoctorReport) =
      some (strictDoctorReport r) := by
  rw [deserialize_serialize_struct (by decide) (fun _ => rfl) (fun _ => rfl) (fun _ => rfl)]
  simp [ProviderDoctorReport.fields, StrictProviderDoctorReport.ofFields, requiredField,
    deserialize_serialize_list read_check, strictDoctorReport]

instance : LawfulSerde WorkerStdioErrorResponse 1 :=
  lawfulSerde_struct (fun _ => rfl) (fun _ => rfl)
    (fun e => by simp [WorkerStdioErrorResponse.fields, WorkerStdioErrorResponse.ofFields])
    (fun e => by simp [WorkerStdioErrorResponse.fields])

/-! ## Envelopes -/

def strictRequest : WorkerStdioRequest V → StrictRequest V
  | .handshake request => .handshake (strictHandshakeRequest request)
  | .providerDoctor request => .providerDoctor (strictDoctorRequest request)

/-- The variant with this name reads the payload. -/
theorem read_adjacent {α β : Type} [Deserialize β]
    {variants : List (String × (Option Json → Option α))} {name : String} {payload : Json}
    (wrap : β → α) {value : β}
    (hlookup : variants.lookup name = some fun payload => (requiredField payload).map wrap)
    (hread : deserialize payload = some value) :
    ((deserializeAdjacent "operation" "payload" true
      (adjacent "operation" "payload" name (some payload))).bind fun pair =>
        (deserializeEnum variants pair.1).bind fun read => read pair.2) = some (wrap value) := by
  rw [deserializeAdjacent_adjacent (by decide), Option.bind_some]
  show (variants.lookup name).bind (fun read => read (some payload)) = _
  rw [hlookup, Option.bind_some]
  show (deserialize payload).map wrap = _
  rw [hread, Option.map_some]

@[simp] theorem read_request (r : WorkerStdioRequest V) :
    (deserialize (serialize r) : Option (StrictRequest V)) = some (strictRequest r) := by
  cases r with
  | handshake request =>
    exact read_adjacent StrictRequest.handshake rfl (read_handshakeRequest request)
  | providerDoctor request =>
    exact read_adjacent StrictRequest.providerDoctor rfl (read_doctorRequest request)

def strictResponse : WorkerStdioResponse V → StrictResponse V
  | .handshake response => .handshake (strictHandshakeResponse response)
  | .providerDoctor response => .providerDoctor (strictDoctorReport response)
  | .error failure => .error failure

@[simp] theorem read_response (r : WorkerStdioResponse V) :
    (deserialize (serialize r) : Option (StrictResponse V)) = some (strictResponse r) := by
  cases r with
  | handshake response =>
    exact read_adjacent StrictResponse.handshake rfl (read_handshakeResponse response)
  | providerDoctor response =>
    exact read_adjacent StrictResponse.providerDoctor rfl (read_doctorReport response)
  | error failure => exact read_adjacent StrictResponse.error rfl (deserialize_serialize failure)

omit [LawfulSemver V] in
theorem fits_request (r : WorkerStdioRequest V) : (serialize r).Fits 4 := by
  cases r with
  | handshake request =>
    have hfits : (serialize request).Fits 3 :=
      fits_object_serializeFields _ (by simp [HandshakeRequest.fields])
    exact fits_adjacent _ _ _ (by simpa using hfits)
  | providerDoctor request =>
    have hfits : (serialize request).Fits 3 :=
      fits_object_serializeFields _ (by simp [ProviderDoctorRequest.fields])
    exact fits_adjacent _ _ _ (by simpa using hfits)

omit [LawfulSemver V] in
theorem fits_response (r : WorkerStdioResponse V) : (serialize r).Fits 4 := by
  cases r with
  | handshake response =>
    have hfits : (serialize response).Fits 3 :=
      fits_object_serializeFields _ (by simp [HandshakeResponse.fields])
    exact fits_adjacent _ _ _ (by simpa using hfits)
  | providerDoctor response =>
    have hfits : (serialize response).Fits 3 :=
      fits_object_serializeFields _ (by simp [ProviderDoctorReport.fields])
    exact fits_adjacent _ _ _ (by simpa using hfits)
  | error failure =>
    have hfits : (serialize failure).Fits 3 := (fits_serialize failure).mono (by decide)
    exact fits_adjacent _ _ _ (by simpa using hfits)

/-- The strict types take each field of a request from where it was written. -/
instance : LawfulSerde (WorkerStdioRequestEnvelope V) 5 where
  deserialize_serialize e := by
    have hread : (deserialize (serialize e) : Option (StrictRequestEnvelope V)) =
        some ⟨e.schemaVersion, strictRequest e.request⟩ := by
      rw [deserialize_serialize_struct (by decide) (fun _ => rfl) (fun _ => rfl) (fun _ => rfl)]
      simp [StrictRequestEnvelope.ofFields, requiredField]
    show (deserialize (serialize e)).map StrictRequestEnvelope.into = some e
    rw [hread, Option.map_some]
    obtain ⟨version, request⟩ := e
    cases request with
    | handshake request =>
      have hfeatures : (request.requiredFeatures.map strictFeature).map
          StrictProviderFeature.into = request.requiredFeatures := by
        rw [List.map_map]
        exact (List.map_congr_left fun feature _ => into_strictFeature feature).trans
          (List.map_id _)
      simp [StrictRequestEnvelope.into, strictRequest, strictHandshakeRequest, hfeatures,
        strictVersion, StrictProtocolVersion.into]
    | providerDoctor request => rfl
  fits_serialize e := by
    apply fits_object_serializeFields
    simp [FieldsFit, fits_request e.request, (fits_serialize e.schemaVersion).mono]
  serialize_ne_null _ h := nomatch h

instance : LawfulSerde (WorkerStdioResponseEnvelope V) 5 where
  deserialize_serialize e := by
    have hread : (deserialize (serialize e) : Option (StrictResponseEnvelope V)) =
        some ⟨e.schemaVersion, strictResponse e.response⟩ := by
      rw [deserialize_serialize_struct (by decide) (fun _ => rfl) (fun _ => rfl) (fun _ => rfl)]
      simp [StrictResponseEnvelope.ofFields, requiredField]
    show (deserialize (serialize e)).map StrictResponseEnvelope.into = some e
    rw [hread, Option.map_some]
    obtain ⟨version, response⟩ := e
    cases response with
    | handshake response => rfl
    | providerDoctor response =>
      have hchecks : (response.checks.map strictCheck).map (fun check =>
          (⟨check.code, check.status, check.message, check.help⟩ : ProviderCheck)) =
          response.checks := by
        rw [List.map_map]
        exact List.map_id _
      simp [StrictResponseEnvelope.into, strictResponse, strictDoctorReport, hchecks,
        strictVersion, StrictProtocolVersion.into, strictCapabilities,
        StrictProviderCapabilities.into]
    | error failure => rfl
  fits_serialize e := by
    apply fits_object_serializeFields
    simp [FieldsFit, fits_response e.response, (fits_serialize e.schemaVersion).mono]
  serialize_ne_null _ h := nomatch h

/-! ## The codec -/

/-- Pieces that were all written are in the buffer, which is not larger than it may be. -/
theorem BoundedOutput.writePieces_eq_ok {output output' : BoundedOutput}
    {pieces : List (List UInt8)} (hbound : output.bytes.length ≤ output.maximum)
    (h : output.writePieces pieces = (.ok (), output')) :
    output'.bytes = output.bytes ++ pieces.flatten ∧ output'.maximum = output.maximum ∧
      output'.bytes.length ≤ output'.maximum := by
  induction pieces generalizing output with
  | nil =>
    obtain rfl := (Prod.mk.inj h).2
    exact ⟨by simp, rfl, hbound⟩
  | cons piece pieces ih =>
    rw [writePieces, write] at h
    by_cases hlarge : piece.length > output.maximum - output.bytes.length
    · rw [if_pos hlarge] at h
      exact nomatch (Prod.mk.inj h).1
    · rw [if_neg hlarge] at h
      obtain ⟨hbytes, hmaximum, hle⟩ := @ih
        { output with bytes := output.bytes ++ piece } (by
          show (output.bytes ++ piece).length ≤ output.maximum
          rw [List.length_append]
          omega) h
      refine ⟨?_, hmaximum, hle⟩
      rw [hbytes, List.flatten_cons, List.append_assoc]

section

omit [Semver V] [LawfulSemver V]

/-- A document that was written is the text with its newline, within the bound. -/
theorem encodeBounded_eq_ok {json : JsonTools} {maximum : Nat}
    {tooLarge invalid : WorkerStdioCodecError} {writer writer' : ScriptedWriter} {document : Json}
    (h : encodeBounded json maximum tooLarge invalid writer document = (.ok (), writer')) :
    ∃ bytes, bytes = Text.utf8 (String.ofList (document.print ++ ['\n'])) ∧
      bytes.length ≤ maximum ∧ writer'.written = writer.written ++ bytes := by
  have htext : Text.utf8 (String.ofList (document.print ++ ['\n'])) =
      Text.utf8 (String.ofList document.print) ++ [10] := by
    rw [Text.utf8_ofList, Text.utf8_ofList, List.flatMap_append]
    rfl
  refine ⟨_, rfl, ?_⟩
  rw [htext]
  unfold encodeBounded at h
  dsimp only at h
  cases hpieces : (BoundedOutput.new maximum).writePieces
      (json.pieces (Text.utf8 (String.ofList document.print))) with
  | mk result encoded =>
    rw [hpieces] at h
    cases result with
    | error failure => exact nomatch (Prod.mk.inj h).1
    | ok u =>
      obtain ⟨hbytes, hmaximum, hle⟩ :=
        BoundedOutput.writePieces_eq_ok (Nat.zero_le _) hpieces
      rw [json.flatten_pieces] at hbytes
      replace hbytes : encoded.bytes = Text.utf8 (String.ofList document.print) := hbytes
      replace hmaximum : encoded.maximum = maximum := hmaximum
      dsimp only at h
      rw [BoundedOutput.write] at h
      -- the newline is counted, too
      by_cases hlarge : [(10 : UInt8)].length > encoded.maximum - encoded.bytes.length
      · rw [if_pos hlarge] at h
        exact nomatch (Prod.mk.inj h).1
      · rw [if_neg hlarge] at h
        dsimp only at h
        cases hwrite : writer.writeAll (encoded.bytes ++ [10]) with
        | mk result after =>
          rw [hwrite] at h
          cases result with
          | error failure => exact nomatch (Prod.mk.inj h).1
          | ok u =>
            obtain rfl := (Prod.mk.inj h).2
            rw [← hbytes]
            refine ⟨?_, ScriptedWriter.written_of_writeAll hwrite⟩
            rw [List.length_append]
            omega

/-- Only a failing writer has been given anything when a document was not written. -/
theorem encodeBounded_eq_error {json : JsonTools} {maximum : Nat}
    {tooLarge invalid failure : WorkerStdioCodecError} {writer writer' : ScriptedWriter}
    {document : Json}
    (h : encodeBounded json maximum tooLarge invalid writer document = (.error failure, writer'))
    (hio : failure ≠ .io) : writer' = writer := by
  unfold encodeBounded at h
  dsimp only at h
  split at h
  · exact (Prod.mk.inj h).2.symm
  · split at h
    · exact (Prod.mk.inj h).2.symm
    · split at h
      · exact absurd (Except.error.inj (Prod.mk.inj h).1).symm hio
      · exact nomatch (Prod.mk.inj h).1

/-- The bytes of a document are read in full, whatever the reads return. -/
theorem readBounded_eq_ok {bytes : List UInt8} {schedule : Nat → Nat} {maximum : Nat}
    {request : Bool} (hle : bytes.length ≤ maximum)
    (htext : bytes.all isAsciiWhitespace = false) :
    readBounded (⟨bytes, schedule, 0⟩ : ShortReader) maximum request = .ok bytes := by
  rw [readBounded, ShortReader.readToEnd_eq, List.nil_append]
  show (do rejectIf (decide ((bytes.take (maximum + 1)).length > maximum)) _; _) = _
  rw [List.take_of_length_le (by omega), check_bind_eq_ok, check_bind_eq_ok, rejectIf_eq_ok,
    rejectIf_eq_ok]
  refine ⟨?_, htext, rfl⟩
  rw [decide_eq_false_iff_not]
  omega

/-- A type that is read back is decoded. -/
theorem decodeJson_eq_ok {α : Type} [Serialize α] [Deserialize α] {depth : Nat}
    [LawfulSerde α depth] (hdepth : depth < Json.recursionLimit) (json : JsonTools)
    (request : Bool) (a : α) :
    decodeJson json request (Text.utf8 (String.ofList ((serialize a).print ++ ['\n']))) =
      .ok a := by
  unfold decodeJson
  rw [Text.fromUtf8_utf8, Option.bind_some, String.toList_ofList,
    Json.parse_print (fits_serialize a) hdepth, Option.bind_some, deserialize_serialize]

/-- An object is not blank. -/
theorem not_whitespace_object (members : Members) :
    (Text.utf8 (String.ofList ((Json.object members).print ++ ['\n']))).all isAsciiWhitespace =
      false := by
  rw [Json.print, Text.utf8_ofList, List.cons_append, List.flatMap_cons, List.all_append,
    Bool.and_eq_false_iff]
  left
  decide

end

/-- **Round trip**: what the encoder accepts is read back, whatever the reads return; and an
    encoder that fails for another reason than the writer has written nothing. -/
theorem stdio_roundtrip (V : Type) [Semver V] [LawfulSemver V] (json : JsonTools) :
    (∀ writer writer' (request : WorkerStdioRequestEnvelope V),
      encodeWorkerStdioRequest json writer request = (.ok (), writer') →
      ∃ bytes, writer'.written = writer.written ++ bytes ∧ ∀ schedule,
        decodeWorkerStdioRequest json (⟨bytes, schedule, 0⟩ : ShortReader) = .ok request) ∧
    (∀ writer writer' (response : WorkerStdioResponseEnvelope V),
      encodeWorkerStdioResponse json writer response = (.ok (), writer') →
      ∃ bytes, writer'.written = writer.written ++ bytes ∧ ∀ schedule,
        decodeWorkerStdioResponse json (⟨bytes, schedule, 0⟩ : ShortReader) = .ok response) ∧
    (∀ writer writer' (request : WorkerStdioRequestEnvelope V) failure,
      encodeWorkerStdioRequest json writer request = (.error failure, writer') →
      failure ≠ .io → writer' = writer) ∧
    ∀ writer writer' (response : WorkerStdioResponseEnvelope V) failure,
      encodeWorkerStdioResponse json writer response = (.error failure, writer') →
      failure ≠ .io → writer' = writer := by
  refine ⟨?_, ?_, ?_, ?_⟩
  · intro writer writer' request h
    unfold encodeWorkerStdioRequest at h
    cases hvalid : request.validate with
    | error failure =>
      rw [hvalid] at h
      exact nomatch (Prod.mk.inj h).1
    | ok u =>
      rw [hvalid] at h
      obtain ⟨bytes, rfl, hle, hwritten⟩ := encodeBounded_eq_ok h
      refine ⟨_, hwritten, ?_⟩
      intro schedule
      rw [decodeWorkerStdioRequest, bind_eq_ok]
      -- the bytes end with the closing brace, so nothing trails
      refine ⟨_, readBounded_eq_ok hle (not_whitespace_object _), ?_⟩
      rw [bind_eq_ok]
      refine ⟨request, decodeJson_eq_ok (by decide) json true request, ?_⟩
      exact check_bind_eq_ok.mpr ⟨hvalid, rfl⟩
  · intro writer writer' response h
    unfold encodeWorkerStdioResponse at h
    cases hvalid : response.validate with
    | error failure =>
      rw [hvalid] at h
      exact nomatch (Prod.mk.inj h).1
    | ok u =>
      rw [hvalid] at h
      obtain ⟨bytes, rfl, hle, hwritten⟩ := encodeBounded_eq_ok h
      refine ⟨_, hwritten, ?_⟩
      intro schedule
      rw [decodeWorkerStdioResponse, bind_eq_ok]
      refine ⟨_, readBounded_eq_ok hle (not_whitespace_object _), ?_⟩
      rw [bind_eq_ok]
      refine ⟨response, decodeJson_eq_ok (by decide) json false response, ?_⟩
      exact check_bind_eq_ok.mpr ⟨hvalid, rfl⟩
  · intro writer writer' request failure h hio
    unfold encodeWorkerStdioRequest at h
    split at h
    · exact (Prod.mk.inj h).2.symm
    · exact encodeBounded_eq_error h hio
  · intro writer writer' response failure h hio
    unfold encodeWorkerStdioResponse at h
    split at h
    · exact (Prod.mk.inj h).2.symm
    · exact encodeBounded_eq_error h hio

namespace Sample

/-- The version 0.1.0. -/
inductive Version010 where
  | v

instance : Semver Version010 where
  display _ := "0.1.0"
  parse text := if text = "0.1.0" then some .v else none

instance : LawfulSemver Version010 where
  parse_display _ := rfl

/-- A text is written in one piece. -/
def jsonTools : JsonTools := ⟨fun bytes => [bytes], by simp, fun _ _ => false⟩

def handshakeEnvelope : WorkerStdioRequestEnvelope Version010 where
  schemaVersion := 1
  request := .handshake ⟨⟨1, 0⟩, .v, [.sourceMode .snapshot, .liveLogs]⟩

/-- The envelope is encoded by a writer that is interrupted, and not by one that fails. -/
theorem handshake_encoded :
    (encodeWorkerStdioRequest jsonTools ⟨[], [.accepted 5, .interrupted]⟩
        handshakeEnvelope).1 = .ok () ∧
      encodeWorkerStdioRequest jsonTools ⟨[], [.accepted 1, .failed]⟩ handshakeEnvelope =
        (.error .io, ⟨[123], []⟩) := by
  decide +kernel

/-- A request is read back after a short and an interrupted write. -/
theorem handshake_read_back :
    ∃ writer', encodeWorkerStdioRequest jsonTools ⟨[], [.accepted 5, .interrupted]⟩
        handshakeEnvelope = (.ok (), writer') ∧
      ∃ bytes, writer'.written = [] ++ bytes ∧ ∀ schedule,
        decodeWorkerStdioRequest jsonTools (⟨bytes, schedule, 0⟩ : ShortReader) =
          .ok handshakeEnvelope := by
  have hok : (encodeWorkerStdioRequest jsonTools ⟨[], [.accepted 5, .interrupted]⟩
      handshakeEnvelope).1 = .ok () := handshake_encoded.1
  refine ⟨_, Prod.ext hok rfl, ?_⟩
  exact (stdio_roundtrip Version010 jsonTools).1 ⟨[], [.accepted 5, .interrupted]⟩ _ _
    (Prod.ext hok rfl)

/-- A writer that fails after the first byte has taken it. -/
theorem failing_writer_keeps_byte :
    encodeWorkerStdioRequest jsonTools ⟨[], [.accepted 1, .failed]⟩ handshakeEnvelope =
      (.error .io, ⟨[123], []⟩) :=
  handshake_encoded.2

end Sample

end RustFerry.Remote
