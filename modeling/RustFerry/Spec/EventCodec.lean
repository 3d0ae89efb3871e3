import RustFerry.Native.Protocol

/-!
# Event codec

Every event is read back from the members it writes (`LawfulSerde` of each type it
carries), and both directions of the codec run the same `validate`. What the two
directions do not share is the line limit: `decode_line` refuses a line of more
than `maxEventLineBytes` bytes, `encode_line` never looks at the length.
-/

namespace RustFerry.Remote

open Serde

/-! ## Enumerations -/

instance : LawfulSerde SigningMode 0 where
  deserialize_serialize mode := by cases mode <;> decide
  fits_serialize _ := .string _
  serialize_ne_null _ h := nomatch h

instance : LawfulSerde SigningStatus 0 where
  deserialize_serialize status := by cases status <;> decide
  fits_serialize _ := .string _
  serialize_ne_null _ h := nomatch h

instance : LawfulSerde ValidationLevel 0 where
  deserialize_serialize level := by cases level <;> decide
  fits_serialize _ := .string _
  serialize_ne_null _ h := nomatch h

instance : LawfulSerde ArtifactKind 0 where
  deserialize_serialize kind := by cases kind <;> decide
  fits_serialize _ := .string _
  serialize_ne_null _ h := nomatch h

instance : LawfulSerde CleanupStatus 0 where
  deserialize_serialize status := by cases status <;> decide
  fits_serialize _ := .string _
  serialize_ne_null _ h := nomatch h

instance : LawfulSerde ProtocolPathSemantics 0 where
  deserialize_serialize semantics := by cases semantics <;> decide
  fits_serialize _ := .string _
  serialize_ne_null _ h := nomatch h

instance : LawfulSerde IosArtifactType 0 where
  deserialize_serialize type := by cases type <;> decide
  fits_serialize _ := .string _
  serialize_ne_null _ h := nomatch h

instance : LawfulSerde JobState 0 where
  deserialize_serialize state := by cases state <;> decide
  fits_serialize _ := .string _
  serialize_ne_null _ h := nomatch h

instance : LawfulSerde DiagnosticSeverity 0 where
  deserialize_serialize severity := by cases severity <;> decide
  fits_serialize _ := .string _
  serialize_ne_null _ h := nomatch h

/-! ## Records -/

instance : LawfulSerde ArtifactRecord 1 :=
  lawfulSerde_struct (fun _ => rfl) (fun _ => rfl)
    (fun a => by simp [ArtifactRecord.fields, ArtifactRecord.ofFields])
    (fun a => by simp [ArtifactRecord.fields])

instance : LawfulSerde AppleToolchainEvidence 1 :=
  lawfulSerde_struct (fun _ => rfl) (fun _ => rfl)
    (fun a => by simp [AppleToolchainEvidence.fields, AppleToolchainEvidence.ofFields])
    (fun a => by simp [AppleToolchainEvidence.fields])

instance : LawfulSerde ArtifactSigningEvidence 1 :=
  lawfulSerde_struct (fun _ => rfl) (fun _ => rfl)
    (fun a => by simp [ArtifactSigningEvidence.fields, ArtifactSigningEvidence.ofFields])
    (fun a => by simp [ArtifactSigningEvidence.fields])

instance : LawfulSerde ArtifactManifest 3 :=
  lawfulSerde_struct (fun _ => rfl) (fun _ => rfl)
    (fun a => by simp [ArtifactManifest.fields, ArtifactManifest.ofFields])
    (fun a => by simp [ArtifactManifest.fields])

instance : LawfulSerde ProtocolVersion 1 :=
  lawfulSerde_struct (fun _ => rfl) (fun _ => rfl)
    (fun a => by simp [ProtocolVersion.fields, ProtocolVersion.ofFields])
    (fun a => by simp [ProtocolVersion.fields])

instance : LawfulSerde ProtocolPath 1 :=
  lawfulSerde_struct (fun _ => rfl) (fun _ => rfl)
    (fun a => by simp [ProtocolPath.fields, ProtocolPath.ofFields])
    (fun a => by simp [ProtocolPath.fields])

instance : LawfulSerde CleanupConfirmation 1 :=
  lawfulSerde_struct (fun _ => rfl) (fun _ => rfl)
    (fun a => by simp [CleanupConfirmation.fields, CleanupConfirmation.ofFields])
    (fun a => by simp [CleanupConfirmation.fields])

instance : LawfulSerde IosDeviceBuildResult 5 :=
  lawfulSerde_struct (fun _ => rfl) (fun _ => rfl)
    (fun a => by simp [IosDeviceBuildResult.fields, IosDeviceBuildResult.ofFields])
    (fun a => by simp [IosDeviceBuildResult.fields])

instance : LawfulSerde RemoteDiagnostic 2 :=
  lawfulSerde_struct (fun _ => rfl) (fun _ => rfl)
    (fun a => by simp [RemoteDiagnostic.fields, RemoteDiagnostic.ofFields])
    (fun a => by simp [RemoteDiagnostic.fields])

instance : LawfulSerde RemoteErrorInfo 1 :=
  lawfulSerde_struct (fun _ => rfl) (fun _ => rfl)
    (fun a => by simp [RemoteErrorInfo.fields, RemoteErrorInfo.ofFields])
    (fun a => by simp [RemoteErrorInfo.fields])

/-! ## Events -/

/-- Every event is read back from its own members. -/
theorem RemoteBuildEventKind.ofMembers_members (kind : RemoteBuildEventKind) :
    RemoteBuildEventKind.ofMembers kind.eventName kind.members = some kind := by
  cases kind with
  | unknown => rfl
  | _ =>
    rw [ofMembers.eq_def]
    simp only [eventName, members]
    try rw [deserializeFields_serializeFields (by decide) rfl]
    try simp

/-- No member of an event collides with the envelope or with the tag. -/
theorem RemoteBuildEventKind.members_fresh (kind : RemoteBuildEventKind) :
    ∀ m ∈ kind.members, m.1 ∉ RemoteBuildEvent.fieldNames ∧ m.1 ≠ "event" := by
  have hfresh : ∀ (names : List String) (values : List (Option Json)),
      (∀ name ∈ names, name ∉ RemoteBuildEvent.fieldNames ∧ name ≠ "event") →
      ∀ m ∈ serializeFields names values, m.1 ∉ RemoteBuildEvent.fieldNames ∧ m.1 ≠ "event" :=
    fun _ _ h m hm => h _ (mem_names_of_mem_serializeFields m hm)
  cases kind with
  | cleanupStarted => exact fun _ hm => nomatch hm
  | unknown => exact fun _ hm => nomatch hm
  | _ => exact hfresh _ _ (by decide)

theorem RemoteBuildEventKind.fits_members (kind : RemoteBuildEventKind) :
    ∀ m ∈ kind.members, m.2.Fits 5 := by
  cases kind with
  | cleanupStarted => exact fun _ hm => nomatch hm
  | unknown => exact fun _ hm => nomatch hm
  | _ => exact fits_of_mem_serializeFields (by simp)

private theorem tagged_fresh (kind : RemoteBuildEventKind) :
    ∀ m ∈ (("event", Json.string kind.eventName) :: kind.members : Members),
      m.1 ∉ RemoteBuildEvent.fieldNames := by
  intro m hm
  rcases List.mem_cons.mp hm with rfl | hm
  · show "event" ∉ RemoteBuildEvent.fieldNames
    decide
  · exact (kind.members_fresh m hm).1

instance : LawfulSerde RemoteBuildEvent 6 where
  deserialize_serialize e := by
    have hrest := tagged_fresh e.kind
    have hlen : e.fields.length = RemoteBuildEvent.fieldNames.length := rfl
    have hfields := deserializeFields_append (by decide) hlen hrest
    have hown : ∀ m ∈ serializeFields RemoteBuildEvent.fieldNames e.fields,
        m.1 ∈ RemoteBuildEvent.fieldNames := mem_names_of_mem_serializeFields
    have hflat := flattened_append hown hrest
    have htag : takeTag "event" (("event", Json.string e.kind.eventName) :: e.kind.members) =
        some (.string e.kind.eventName, e.kind.members) :=
      takeTag_cons fun m hm => (e.kind.members_fresh m hm).2
    simp only [serialize, deserialize] at hfields hflat ⊢
    rw [hfields, hflat]
    simp only [Option.bind_eq_bind, Option.bind_some, htag, eventVariant,
      e.kind.ofMembers_members]
    simp [RemoteBuildEvent.fields, RemoteBuildEvent.ofFields]
  fits_serialize e := by
    apply Json.Fits.object
    intro m hm
    rcases List.mem_append.mp hm with hm | hm
    · exact fits_of_mem_serializeFields (by simp [RemoteBuildEvent.fields]) m hm
    · rcases List.mem_cons.mp hm with rfl | hm
      · exact .string _
      · exact e.kind.fits_members m hm
  serialize_ne_null _ h := nomatch h

/-! ## Lines -/

namespace RemoteBuildEvent

/-- Bytes of the line of an event: its compact JSON form and a newline. -/
def lineSize (event : RemoteBuildEvent) : Nat := (serialize event).compactSize + 1

private theorem utf8ByteSize_line (event : RemoteBuildEvent) :
    (String.ofList ((serialize event).print ++ ['\n'])).utf8ByteSize = event.lineSize := by
  have hnewline : Char.utf8Size '\n' = 1 := by decide
  rw [Json.utf8ByteSize_ofList, Json.textSize_append, Json.textSize_print]
  simp [lineSize, hnewline]

/-- The encoder has no other outcome than the event's line. -/
theorem encodeLine_eq_ok_iff {parseUrl : ParseUrl} {event : RemoteBuildEvent} {line : String} :
    event.encodeLine parseUrl = .ok line ↔
      event.validate parseUrl = .ok () ∧
        line = String.ofList ((serialize event).print ++ ['\n']) := by
  unfold encodeLine
  cases hvalid : event.validate parseUrl with
  | error e =>
    constructor
    · intro h; cases h
    · rintro ⟨h, -⟩; cases h
  | ok u =>
    constructor
    · intro h; exact ⟨rfl, (Except.ok.inj h).symm⟩
    · rintro ⟨-, rfl⟩; rfl

/-- The decoder on the line of a valid event: only the length decides. -/
theorem decodeLine_line {parseUrl : ParseUrl} {event : RemoteBuildEvent}
    (hvalid : event.validate parseUrl = .ok ()) :
    decodeLine parseUrl (String.ofList ((serialize event).print ++ ['\n'])) =
      if event.lineSize ≤ DataPlane.maxEventLineBytes then .ok event
      else .error (.eventTooLarge event.lineSize DataPlane.maxEventLineBytes) := by
  have hparse : (Json.parse (String.ofList ((serialize event).print ++ ['\n'])).toList).bind
      deserialize = some event := by
    rw [String.toList_ofList, Json.parse_print (fits_serialize event) (by decide)]
    exact deserialize_serialize event
  unfold decodeLine
  rw [event.utf8ByteSize_line, hparse]
  by_cases hshort : event.lineSize ≤ DataPlane.maxEventLineBytes
  · rw [if_pos hshort, if_neg (Nat.not_lt.mpr hshort)]
    simp only [hvalid]
    rfl
  · rw [if_neg hshort, if_pos (Nat.lt_of_not_le hshort)]
    rfl

/-- **The codec up to the line limit**: an event that the encoder accepts is read
    back from its line if and only if the line is at most `maxEventLineBytes` bytes
    long; nothing else the decoder checks can refuse it. -/
theorem decodeLine_encodeLine_iff (parseUrl : ParseUrl) (event : RemoteBuildEvent) (line : String)
    (h : event.encodeLine parseUrl = .ok line) :
    decodeLine parseUrl line = .ok event ↔ event.lineSize ≤ DataPlane.maxEventLineBytes := by
  obtain ⟨hvalid, rfl⟩ := encodeLine_eq_ok_iff.mp h
  rw [decodeLine_line hvalid]
  by_cases hshort : event.lineSize ≤ DataPlane.maxEventLineBytes
  · rw [if_pos hshort]
    exact ⟨fun _ => hshort, fun _ => rfl⟩
  · rw [if_neg hshort]
    exact ⟨fun h => (nomatch h), fun h => absurd h hshort⟩

/-- An operation boundary opened by a command of `n` letters. -/
def longCommandEvent (n : Nat) : RemoteBuildEvent where
  protocolVersion := currentProtocolVersion
  operationId := "op-1"
  jobId := "job-1"
  timestampMs := 0
  provider := "ssh-macos"
  phase := "build"
  sequence := 0
  kind := .operationStarted (String.ofList (List.replicate n 'a'))

private theorem serialize_longCommandEvent (n : Nat) :
    serialize (longCommandEvent n) = .object
      [("protocol_version", serialize currentProtocolVersion), ("operation_id", .string "op-1"),
        ("job_id", .string "job-1"), ("timestamp_ms", .number (.unsigned 0)),
        ("provider", .string "ssh-macos"), ("phase", .string "build"),
        ("sequence", .number (.unsigned 0)), ("event", .string "operation_started"),
        ("command", .string (String.ofList (List.replicate n 'a')))] := rfl

/-- The only check that reads the command looks for escape characters. -/
private theorem validate_longCommandEvent (n : Nat) :
    (longCommandEvent n).validate (fun _ => none) = .ok () := by
  have hcommand : validateNoTerminalEscape
      (.string (String.ofList (List.replicate n 'a'))) = .ok () := by
    rw [validateNoTerminalEscape, String.toList_ofList, if_neg]
    rw [List.contains_eq_mem, decide_eq_true_eq, List.mem_replicate]
    rintro ⟨-, h⟩
    exact absurd h (by decide)
  have hescape : validateNoTerminalEscape (serialize (longCommandEvent n)) = .ok () := by
    rw [serialize_longCommandEvent]
    simp only [validateNoTerminalEscape, validateNoTerminalEscapeMembers] at hcommand ⊢
    rw [hcommand]
    rfl
  have hid : ∀ field, ∀ value ∈ ["op-1", "job-1", "ssh-macos", "build"],
      validateIdentifier field value = .ok () := by
    intro field value hvalue
    have hok : value ≠ "" ∧ ¬ value.utf8ByteSize > 160 ∧ (value.toList.all fun c =>
        c.isAlphanum || c == '-' || c == '_' || c == '.' || c == ':') = true := by
      revert value
      decide
    rw [validateIdentifier, if_neg hok.1, if_neg hok.2.1, hok.2.2]
    rfl
  unfold validate
  rw [hescape]
  simp only [longCommandEvent, hid _ "op-1" (by simp), hid _ "job-1" (by simp),
    hid _ "ssh-macos" (by simp), hid _ "build" (by simp)]
  rfl

private theorem lt_lineSize_longCommandEvent (n : Nat) : n < (longCommandEvent n).lineSize := by
  have hletter : Json.charSize 'a' = 1 := by decide
  have hcommand : (Json.string (String.ofList (List.replicate n 'a'))).compactSize = 2 + n := by
    simp [Json.compactSize, Json.stringSize, hletter]
  rw [lineSize, serialize_longCommandEvent]
  calc n < 2 + n := by omega
    _ = (Json.string (String.ofList (List.replicate n 'a'))).compactSize := hcommand.symm
    _ < _ := Json.compactSize_lt_object (m := ("command", _)) (by simp)
    _ < _ := Nat.lt_succ_self _

/-- A short command is read back from its line. -/
theorem decodeLine_encodeLine_short :
    ∃ line, (longCommandEvent 5).encodeLine (fun _ => none) = .ok line ∧
      decodeLine (fun _ => none) line = .ok (longCommandEvent 5) := by
  have hencode := encodeLine_eq_ok_iff.mpr ⟨validate_longCommandEvent 5, rfl⟩
  have hsize : (longCommandEvent 5).lineSize ≤ DataPlane.maxEventLineBytes := by decide +kernel
  exact ⟨_, hencode, (decodeLine_encodeLine_iff _ _ _ hencode).mpr hsize⟩

/-- A command line of one mebibyte is encoded, and the decoder refuses the line. -/
theorem decodeLine_encodeLine_long :
    ∃ line, (longCommandEvent DataPlane.maxEventLineBytes).encodeLine (fun _ => none) = .ok line ∧
      decodeLine (fun _ => none) line ≠ .ok (longCommandEvent DataPlane.maxEventLineBytes) := by
  have hvalid := validate_longCommandEvent DataPlane.maxEventLineBytes
  have hlong := lt_lineSize_longCommandEvent DataPlane.maxEventLineBytes
  refine ⟨_, encodeLine_eq_ok_iff.mpr ⟨hvalid, rfl⟩, ?_⟩
  rw [decodeLine_line hvalid, if_neg (by omega)]
  intro h
  cases h

end RemoteBuildEvent

end RustFerry.Remote
