import RustFerry.Spec.SigningStdin

/-!
# Round trip of the frames of signing secrets

A frame of version 2 is parsed to the secrets that were encoded, in whatever order their records
stand, and it is the only frame among those that it begins or that begin with it. The buffer is
overwritten whatever the result.
-/

namespace RustFerry.SigningStdin

open Except Remote Worker

section

variable {references : SigningSecretReferences} {limits : FrameLimits} {frame : List UInt8}
  {secrets : Secrets}

/-! ## References of a plan -/

theorem of_signingSecretReferences {signing : SigningPlan}
    (h : signingSecretReferences signing = .ok references) :
    (references.ordered.map SecretReference.name).Nodup ∧
      references.profiles.length ≤ maxSigningProfiles := by
  unfold signingSecretReferences at h
  obtain ⟨reference, _, h⟩ := bind_eq_ok.mp h
  obtain ⟨password, _, h⟩ := bind_eq_ok.mp h
  obtain ⟨hcount, h⟩ := check_bind_eq_ok.mp h
  obtain ⟨hdistinct, h⟩ := check_bind_eq_ok.mp h
  cases h
  simp only [rejectIf_eq_ok, Bool.or_eq_false_iff, decide_eq_false_iff_not] at hcount
  simp only [rejectIf_eq_ok, Bool.or_eq_false_iff, bne_eq_false_iff_eq,
    SigningSecretReferences.expectedNames] at hdistinct
  refine ⟨?_, by simpa using hcount.2⟩
  -- As many names as references: none is repeated.
  apply Multiset.coe_nodup.mp
  apply Multiset.toFinset_card_eq_card_iff_nodup.mp
  rw [Multiset.coe_card, List.length_map]
  exact hdistinct.2

/-- The names that the signing phase reads are public: they are those of its arguments. -/
theorem isPlan_of_protectedSigningReferences {signing : SigningPlan} {certificate password : String}
    {profiles : List String}
    (h : protectedSigningReferences signing certificate password profiles = .ok references) :
    IsPlan references := by
  unfold protectedSigningReferences at h
  obtain ⟨hpublic, h⟩ := check_bind_eq_ok.mp h
  obtain ⟨hroles, hreferences⟩ := check_bind_eq_ok.mp h
  obtain ⟨hnames, hcount⟩ := of_signingSecretReferences hreferences
  unfold validateSecretRoleBindings at hroles
  obtain ⟨expected, hexpected, hroles⟩ := bind_eq_ok.mp hroles
  obtain rfl := Except.ok.inj (hexpected.symm.trans hreferences)
  simp only [rejectIf_eq_ok, Bool.or_eq_false_iff, bne_eq_false_iff_eq] at hroles
  obtain ⟨⟨⟨hcertificate, hpassword⟩, _⟩, hprofiles⟩ := hroles
  have hallowed : ∀ name ∈ certificate :: password :: profiles, isPublicReferenceName name = true := by
    intro name hname
    have h := forM_eq_ok.mp hpublic name hname
    simpa [validatePublicSecretReferenceName] using h
  refine ⟨hnames, ?_, hcount⟩
  intro reference hmem
  apply hallowed
  obtain rfl | hmem := List.mem_cons.mp hmem
  · simp [hcertificate]
  obtain rfl | hmem := List.mem_cons.mp hmem
  · simp [hpassword]
  · have hname : reference.name ∈ profiles.toFinset := by
      rw [hprofiles]
      exact List.mem_toFinset.mpr (List.mem_map_of_mem hmem)
    simp [List.mem_toFinset.mp hname]

/-! ## Values -/

/-- The value of a record: a password as it is, a blob in canonical Base64. -/
def encodeValue (references : SigningSecretReferences) (reference : SecretReference)
    (secret : List UInt8) : List UInt8 :=
  if reference = references.password then secret else Base64.encode secret

/-- A password that is within the limits. -/
structure IsPassword (limits : FrameLimits) (secret : List UInt8) : Prop where
  length : secret.length ≤ limits.maximumPasswordBytes
  text : (Text.fromUtf8 secret).isSome
  bytes : ∀ byte ∈ secret, byte ≠ 0 ∧ byte ≠ 13 ∧ byte ≠ 10

/-- A blob that is within the limits. -/
structure IsBlob (limits : FrameLimits) (secret : List UInt8) : Prop where
  notEmpty : secret ≠ []
  decoded : secret.length ≤ limits.maximumDecodedBlobBytes
  encoded : (Base64.encode secret).length ≤ limits.maximumEncodedBlobBytes

/-- A secret that is within the limits of its role. -/
def IsWithin (references : SigningSecretReferences) (limits : FrameLimits)
    (reference : SecretReference) (secret : List UInt8) : Prop :=
  if reference = references.password then IsPassword limits secret else IsBlob limits secret

/-- The accepted passwords. -/
theorem validateSigningPassword_eq_ok {value : List UInt8} :
    validateSigningPassword value limits.maximumPasswordBytes = .ok () ↔ IsPassword limits value := by
  unfold validateSigningPassword
  rw [rejectIf_eq_ok]
  simp only [Bool.or_eq_false_iff, decide_eq_false_iff_not, List.any_eq_false,
    Option.isNone_eq_false_iff, Bool.or_eq_true, beq_iff_eq, not_lt, not_or]
  constructor
  · intro h
    obtain ⟨⟨hlength, htext⟩, hbytes⟩ := h
    exact ⟨hlength, htext, fun byte hbyte => ⟨(hbytes byte hbyte).1.1, (hbytes byte hbyte).1.2,
      (hbytes byte hbyte).2⟩⟩
  · intro h
    exact ⟨⟨h.length, h.text⟩, fun byte hbyte => ⟨⟨(h.bytes byte hbyte).1, (h.bytes byte hbyte).2.1⟩,
      (h.bytes byte hbyte).2.2⟩⟩

/-- A value is decoded to a secret within the limits whose value it is. -/
theorem decodeValue_eq_ok {reference : SecretReference} {value secret : List UInt8} :
    decodeValue references limits reference value = .ok secret ↔
      value = encodeValue references reference secret ∧
        IsWithin references limits reference secret := by
  unfold decodeValue encodeValue IsWithin
  by_cases hrole : reference = references.password
  · simp only [if_pos hrole]
    constructor
    · intro h
      obtain ⟨hvalid, h⟩ := check_bind_eq_ok.mp h
      cases h
      exact ⟨rfl, validateSigningPassword_eq_ok.mp hvalid⟩
    · intro h
      obtain ⟨rfl, hpassword⟩ := h
      rw [validateSigningPassword_eq_ok.mpr hpassword]
      rfl
  · simp only [if_neg hrole]
    constructor
    · intro h
      obtain ⟨hlength, h⟩ := check_bind_eq_ok.mp h
      rw [ofOption_eq_ok] at h
      obtain ⟨rfl, hne, hdecoded⟩ := decodeBase64_eq_some.mp h
      rw [rejectIf_eq_ok, decide_eq_false_iff_not, not_lt] at hlength
      exact ⟨rfl, hne, hdecoded, hlength⟩
    · intro h
      obtain ⟨rfl, hblob⟩ := h
      apply check_bind_eq_ok.mpr
      refine ⟨?_, ?_⟩
      · rw [rejectIf_eq_ok, decide_eq_false_iff_not, not_lt]
        exact hblob.encoded
      · rw [ofOption_eq_ok]
        exact decodeBase64_eq_some.mpr ⟨rfl, hblob.notEmpty, hblob.decoded⟩

/-! ## Secrets of a frame -/

/-- The record of a reference, for the secrets that a frame is to hold. -/
def recordOf (references : SigningSecretReferences) (secret : SecretReference → List UInt8)
    (reference : SecretReference) : Record :=
  ⟨reference, encodeValue references reference (secret reference)⟩

/-- The secrets of the references of a plan. -/
def secretsOf (references : SigningSecretReferences) (secret : SecretReference → List UInt8) :
    Secrets :=
  fun reference => if reference ∈ references.ordered then some (secret reference) else none

/-- The secret of each reference is within its limits, and its value has a length of four bytes. -/
structure IsEncodable (references : SigningSecretReferences) (limits : FrameLimits)
    (secret : SecretReference → List UInt8) : Prop where
  within : ∀ reference ∈ references.ordered,
    IsWithin references limits reference (secret reference)
  size : ∀ reference ∈ references.ordered,
    (encodeValue references reference (secret reference)).length < 256 ^ 4

/-- After the insertions of different references each one has its own secret. -/
theorem insertAll_apply (secrets : Secrets) {entries : List (Record × List UInt8)}
    (hnodup : (entries.map fun entry => entry.1.reference).Nodup) (reference : SecretReference) :
    (∀ entry ∈ entries, entry.1.reference = reference →
        insertAll secrets entries reference = some entry.2) ∧
      ((∀ entry ∈ entries, entry.1.reference ≠ reference) →
        insertAll secrets entries reference = secrets reference) := by
  induction entries generalizing secrets with
  | nil => simp [insertAll]
  | cons head rest ih =>
    obtain ⟨hhead, hrest⟩ := List.nodup_cons.mp hnodup
    obtain ⟨hfound, hother⟩ := ih (secrets.insert head.1.reference head.2) hrest
    have hstep : insertAll secrets (head :: rest) =
        insertAll (secrets.insert head.1.reference head.2) rest := rfl
    rw [hstep]
    constructor
    · intro entry hmem heq
      obtain rfl | hmem := List.mem_cons.mp hmem
      · -- The references after the first one are different from it.
        have hapart : ∀ other ∈ rest, other.1.reference ≠ reference := by
          intro other hother' hsame
          apply hhead
          exact List.mem_map.mpr ⟨other, hother', hsame.trans heq.symm⟩
        rw [hother hapart]
        simp [Secrets.insert, heq]
      · exact hfound entry hmem heq
    · intro hapart
      rw [hother fun other hmem => hapart other (List.mem_cons_of_mem _ hmem)]
      have hne := hapart head List.mem_cons_self
      simp [Secrets.insert, Ne.symm hne]

/-- A frame of version 2 is accepted if it is the encoding of secrets within the limits, and its
secrets are these. -/
theorem parseV2_eq_ok_iff (hplan : IsPlan references) :
    parseSigningSecretFrameV2 frame references limits = .ok secrets ↔
      ∃ (order : List SecretReference) (secret : SecretReference → List UInt8),
        order.Perm references.ordered ∧ IsEncodable references limits secret ∧
          frame = encodeFrame (order.map (recordOf references secret)) ∧
          secrets = secretsOf references secret := by
  rw [parseV2_eq_ok hplan]
  have hdistinct : references.ordered.Nodup := List.Nodup.of_map _ hplan.names
  constructor
  · intro h
    obtain ⟨entries, hperm, hall, rfl, rfl⟩ := h
    have hnodup := hperm.nodup_iff.mpr hdistinct
    have happly := insertAll_apply Secrets.empty hnodup
    -- references are distinct, so the map has the value of each record
    have hsecret : ∀ entry ∈ entries,
        (insertAll Secrets.empty entries entry.1.reference).getD [] = entry.2 := by
      intro entry hmem
      rw [(happly entry.1.reference).1 entry hmem rfl]
      rfl
    refine ⟨_, fun reference => (insertAll Secrets.empty entries reference).getD [], hperm,
      ⟨?_, ?_⟩, ?_, ?_⟩
    · intro reference hmem
      obtain ⟨entry, hentry, rfl⟩ := List.mem_map.mp (hperm.mem_iff.mpr hmem)
      rw [hsecret entry hentry]
      exact (decodeValue_eq_ok.mp (hall entry hentry).decodes).2
    · intro reference hmem
      obtain ⟨entry, hentry, rfl⟩ := List.mem_map.mp (hperm.mem_iff.mpr hmem)
      rw [hsecret entry hentry, ← (decodeValue_eq_ok.mp (hall entry hentry).decodes).1]
      exact (hall entry hentry).size
    · congr 1
      rw [List.map_map]
      apply List.map_congr_left
      intro entry hentry
      have hvalue := (decodeValue_eq_ok.mp (hall entry hentry).decodes).1
      rw [← hsecret entry hentry] at hvalue
      exact congrArg (Record.mk entry.1.reference) hvalue
    · funext reference
      by_cases hmem : reference ∈ references.ordered
      · obtain ⟨entry, hentry, rfl⟩ := List.mem_map.mp (hperm.mem_iff.mpr hmem)
        simp [secretsOf, hmem, (happly entry.1.reference).1 entry hentry rfl]
      · have hapart : ∀ entry ∈ entries, entry.1.reference ≠ reference := by
          intro entry hentry heq
          exact hmem (heq ▸ (hall entry hentry).mem)
        simp [secretsOf, hmem, (happly reference).2 hapart, Secrets.empty]
  · intro h
    obtain ⟨order, secret, hperm, hencodable, rfl, rfl⟩ := h
    -- the records of an order of the references, each with its secret
    have hmap : ((order.map fun reference => (recordOf references secret reference,
        secret reference)).map fun entry => entry.1.reference) = order := by
      simp [recordOf, Function.comp_def]
    have hnodup : order.Nodup := hperm.nodup_iff.mpr hdistinct
    refine ⟨order.map fun reference => (recordOf references secret reference, secret reference),
      ?_, ?_, ?_, ?_⟩
    · rw [hmap]
      exact hperm
    · intro entry hentry
      obtain ⟨reference, hmem, rfl⟩ := List.mem_map.mp hentry
      have hmem := hperm.mem_iff.mp hmem
      exact ⟨hmem, hencodable.size reference hmem,
        decodeValue_eq_ok.mpr ⟨rfl, hencodable.within reference hmem⟩⟩
    · rw [List.map_map]
      rfl
    · have happly := insertAll_apply Secrets.empty (hmap ▸ hnodup)
      funext reference
      by_cases hmem : reference ∈ references.ordered
      · rw [secretsOf, if_pos hmem, eq_comm]
        exact (happly reference).1 (recordOf references secret reference, secret reference)
          (List.mem_map.mpr ⟨reference, hperm.mem_iff.mpr hmem, rfl⟩) rfl
      · rw [secretsOf, if_neg hmem, eq_comm]
        apply (happly reference).2
        intro entry hentry heq
        obtain ⟨other, hother, rfl⟩ := List.mem_map.mp hentry
        exact hmem (heq ▸ hperm.mem_iff.mp hother)

/-! ## Framing -/

/-- A record tells where it ends. -/
theorem selfDelimiting_encodeRecord (hplan : IsPlan references) :
    Framing.SelfDelimiting (fun record : Record => record.reference ∈ references.ordered ∧
      record.value.length < 256 ^ 4) encodeRecord := by
  intro a b ha hb x y heq
  have hlength := (length_of_isPublicReferenceName (hplan.publicNames _ ha.1)).2
  have hlength' := (length_of_isPublicReferenceName (hplan.publicNames _ hb.1)).2
  simp only [encodeRecord, List.append_assoc] at heq
  obtain ⟨hname, heq⟩ := Framing.selfDelimiting_toBytes 2 _ _ (by omega) (by omega) _ _ heq
  obtain ⟨hvalue, heq⟩ := Framing.selfDelimiting_toBytes 4 _ _ ha.2 hb.2 _ _ heq
  obtain ⟨hbytes, heq⟩ := List.append_inj heq hname
  obtain ⟨hvalues, hrest⟩ := List.append_inj heq hvalue
  have hreference := hplan.eq_of_name ha.1 hb.1 (Text.utf8_injective hbytes)
  obtain ⟨reference, value⟩ := a
  obtain ⟨reference', value'⟩ := b
  exact ⟨congrArg₂ Record.mk hreference hvalues, hrest⟩

/-- No frame of as many records begins another one. -/
theorem encodeFrame_append_eq (hplan : IsPlan references) {records records' : List Record}
    (hcount : records.length = records'.length)
    (hall : ∀ record ∈ records, record.reference ∈ references.ordered ∧ record.value.length < 256 ^
      4)
    (hall' : ∀ record ∈ records', record.reference ∈ references.ordered ∧ record.value.length < 256
      ^ 4)
    {rest : List UInt8} (h : encodeFrame records ++ rest = encodeFrame records') : rest = [] := by
  simp only [encodeFrame, List.append_assoc, hcount, List.append_cancel_left_eq] at h
  rw [← List.append_nil (records'.flatMap encodeRecord)] at h
  exact ((selfDelimiting_encodeRecord hplan).flatMap_eq hcount hall hall' h).2

theorem of_recordOf {secret : SecretReference → List UInt8} {order : List SecretReference}
    (hperm : order.Perm references.ordered) (hencodable : IsEncodable references limits secret) :
    ∀ record ∈ order.map (recordOf references secret),
      record.reference ∈ references.ordered ∧ record.value.length < 256 ^ 4 := by
  intro record hrecord
  obtain ⟨reference, hmem, rfl⟩ := List.mem_map.mp hrecord
  have hmem := hperm.mem_iff.mp hmem
  exact ⟨hmem, hencodable.size reference hmem⟩

/-! ## Legacy frames -/

/-- The places of the zero bytes, of a frame that begins at a place. -/
def zeros (frame : List UInt8) (start : Nat) : List Nat :=
  (frame.zipIdx start).filterMap fun (byte, index) => if byte = 0 then some index else none

/-- Bytes that are not zero. -/
theorem zeros_of_notMem (h : (0 : UInt8) ∉ frame) (start : Nat) :
    zeros frame start = [] := by
  unfold zeros
  rw [List.filterMap_eq_nil_iff]
  intro entry hentry
  have hmem : entry.1 ∈ frame := List.fst_mem_of_mem_zipIdx hentry
  have hne : entry.1 ≠ 0 := fun heq => h (heq ▸ hmem)
  simp [hne]

/-- The first zero byte, and those after it. -/
theorem zeros_append {value : List UInt8} (h : (0 : UInt8) ∉ value) (rest : List UInt8)
    (start : Nat) :
    zeros (value ++ 0 :: rest) start =
      (start + value.length) :: zeros rest (start + value.length + 1) := by
  have hfirst := zeros_of_notMem h start
  unfold zeros at hfirst ⊢
  rw [List.zipIdx_append, List.filterMap_append, hfirst, List.zipIdx_cons]
  simp

/-- A frame without zero bytes, or with a first one. -/
theorem zeros_cases (frame : List UInt8) :
    (0 : UInt8) ∉ frame ∨
      ∃ value rest, frame = value ++ 0 :: rest ∧ (0 : UInt8) ∉ value := by
  by_cases h : (0 : UInt8) ∈ frame
  · obtain ⟨value, rest, heq, hvalue⟩ := List.eq_append_cons_of_mem h
    exact .inr ⟨value, rest, heq, hvalue⟩
  · exact .inl h

/-- A legacy frame has three values, with a zero byte between them. -/
theorem separators_eq {certificateEnd passwordEnd : Nat}
    (h : separators frame = [certificateEnd, passwordEnd]) :
    ∃ certificate password profile, frame = certificate ++ 0 :: (password ++ 0 :: profile) ∧
      certificateEnd = certificate.length ∧
      passwordEnd = certificate.length + 1 + password.length ∧
      (0 : UInt8) ∉ certificate ∧ (0 : UInt8) ∉ password ∧ (0 : UInt8) ∉ profile := by
  replace h : (zeros frame 0).take 3 = [certificateEnd, passwordEnd] := h
  obtain hnone | ⟨certificate, rest, rfl, hcertificate⟩ := zeros_cases frame
  · rw [zeros_of_notMem hnone] at h
    cases h
  rw [zeros_append hcertificate, Nat.zero_add] at h
  obtain hnone | ⟨password, profile, rfl, hpassword⟩ := zeros_cases rest
  · rw [zeros_of_notMem hnone] at h
    cases h
  rw [zeros_append hpassword] at h
  obtain hnone | ⟨profile, rest, rfl, hprofile⟩ := zeros_cases profile
  · rw [zeros_of_notMem hnone] at h
    simp only [List.take_succ_cons, List.take_nil, List.cons.injEq, and_true] at h
    exact ⟨certificate, password, profile, rfl, h.1.symm, h.2.symm, hcertificate, hpassword, hnone⟩
  · -- A third separator is one too many.
    rw [zeros_append hprofile] at h
    simp at h

/-- The values of the references, with a zero byte between them. -/
def legacyFrame (references : SigningSecretReferences) (secret : SecretReference → List UInt8) :
    List UInt8 :=
  [0].intercalate
    (references.ordered.map fun reference => encodeValue references reference (secret reference))

/-- The secrets of a plan with one profile. -/
def legacySecret (references : SigningSecretReferences)
    (certificate password profile : List UInt8) (reference : SecretReference) : List UInt8 :=
  if reference = references.certificate then certificate
  else if reference = references.password then password
  else profile

/-- An accepted legacy frame has the values of the references, and nothing else. -/
theorem parseLegacy_eq_ok (hplan : IsPlan references) (hsingle : references.profiles.length = 1)
    (h : parseLegacySigningSecretFrame frame references limits = .ok secrets) :
    ∃ secret : SecretReference → List UInt8,
      (∀ reference ∈ references.ordered,
        IsWithin references limits reference (secret reference)) ∧
      frame = legacyFrame references secret ∧ secrets = secretsOf references secret := by
  obtain ⟨first, hfirst⟩ := List.length_eq_one_iff.mp hsingle
  have hordered : references.ordered = [references.certificate, references.password, first] := by
    rw [SigningSecretReferences.ordered, hfirst]
  have hdistinct : references.ordered.Nodup := List.Nodup.of_map _ hplan.names
  simp only [hordered, List.nodup_cons, List.mem_cons, List.not_mem_nil, or_false, not_or] at hdistinct
  obtain ⟨⟨hpassword, hprofile⟩, hprofile', _⟩ := hdistinct
  unfold parseLegacySigningSecretFrame at h
  split at h
  · rename_i certificateEnd passwordEnd hseparators
    obtain ⟨certificate, password, profile, rfl, rfl, rfl, _⟩ := separators_eq hseparators
    -- the three parts between the two separators
    have htake : (certificate ++ 0 :: (password ++ 0 :: profile)).take
        (certificate.length + 1 + password.length) = certificate ++ 0 :: password := by
      rw [show certificate ++ 0 :: (password ++ 0 :: profile) =
        (certificate ++ 0 :: password) ++ 0 :: profile by simp]
      exact List.take_left' (by simp; omega)
    have hdrop : (certificate ++ 0 :: (password ++ 0 :: profile)).drop
        (certificate.length + 1 + password.length + 1) = profile := by
      rw [show certificate ++ 0 :: (password ++ 0 :: profile) =
        (certificate ++ 0 :: password ++ [0]) ++ profile by simp]
      exact List.drop_left' (by simp; omega)
    have hmiddle : (certificate ++ 0 :: password).drop (certificate.length + 1) = password := by
      rw [show certificate ++ 0 :: password = (certificate ++ [0]) ++ password by simp]
      exact List.drop_left' (by simp)
    rw [htake, hdrop, hmiddle, List.take_left] at h
    unfold legacySecrets at h
    obtain ⟨hlengths, h⟩ := check_bind_eq_ok.mp h
    obtain ⟨certificateP12, hcertificate, h⟩ := bind_eq_ok.mp h
    obtain ⟨provisioningProfile, hprovisioning, h⟩ := bind_eq_ok.mp h
    obtain ⟨hvalid, h⟩ := check_bind_eq_ok.mp h
    rw [hfirst] at h
    cases h
    rw [ofOption_eq_ok] at hcertificate hprovisioning
    obtain ⟨rfl, hnotEmpty, hdecoded⟩ := decodeBase64_eq_some.mp hcertificate
    obtain ⟨rfl, hnotEmpty', hdecoded'⟩ := decodeBase64_eq_some.mp hprovisioning
    simp only [rejectIf_eq_ok, Bool.or_eq_false_iff, decide_eq_false_iff_not, not_lt] at hlengths
    refine ⟨legacySecret references certificateP12 password provisioningProfile, ?_, ?_, ?_⟩
    · have hblob : IsBlob limits certificateP12 := ⟨hnotEmpty, hdecoded, hlengths.1.1⟩
      have hblob' : IsBlob limits provisioningProfile := ⟨hnotEmpty', hdecoded', hlengths.2⟩
      have hsafe := validateSigningPassword_eq_ok.mp hvalid
      simp [hordered, IsWithin, legacySecret, hpassword, Ne.symm hpassword, Ne.symm hprofile,
        Ne.symm hprofile', hblob, hblob', hsafe]
    · simp [legacyFrame, hordered, encodeValue, legacySecret, List.intercalate, hpassword,
        Ne.symm hpassword, Ne.symm hprofile, Ne.symm hprofile']
    · -- the map of the three, reference by reference
      funext reference
      simp only [Secrets.insert, Secrets.empty, secretsOf, hordered, legacySecret, List.mem_cons,
        List.not_mem_nil, or_false]
      by_cases hthird : reference = first
      · simp [hthird, Ne.symm hprofile, Ne.symm hprofile']
      by_cases hsecond : reference = references.password
      · simp [hsecond, hprofile', Ne.symm hpassword]
      by_cases hone : reference = references.certificate
      · simp [hone, hprofile, hpassword]
      · simp [hthird, hsecond, hone]
  · cases h

/-! ## The parser -/

theorem parse_of_isPrefix (h : signingFrameFront <+: frame) (references : SigningSecretReferences)
    (limits : FrameLimits) :
    (parseSigningSecretFrameInPlace frame references limits).1 =
      parseSigningSecretFrameV2 frame references limits := by
  unfold parseSigningSecretFrameInPlace
  rw [if_pos (List.isPrefixOf_iff_prefix.mpr h)]

theorem parse_of_not_isPrefix (h : ¬ signingFrameFront <+: frame)
    (hparse : (parseSigningSecretFrameInPlace frame references limits).1 = .ok secrets) :
    references.profiles.length = 1 ∧
      parseLegacySigningSecretFrame frame references limits = .ok secrets := by
  unfold parseSigningSecretFrameInPlace at hparse
  rw [if_neg (fun hfront => h (List.isPrefixOf_iff_prefix.mp hfront))] at hparse
  by_cases hsingle : references.profiles.length = 1
  · rw [if_pos hsingle] at hparse
    exact ⟨hsingle, hparse⟩
  · rw [if_neg hsingle] at hparse
    cases hparse

theorem front_isPrefix_encodeFrame (records : List Record) :
    signingFrameFront <+: encodeFrame records := by
  rw [encodeFrame, signingSecretFrameV2Magic, List.append_assoc]
  exact List.prefix_append _ _

/-- The beginning of the magic is no frame: it has no zero byte. -/
theorem not_parse_of_isPrefix_front (h : frame <+: signingFrameFront)
    (hne : ¬ signingFrameFront <+: frame) :
    (parseSigningSecretFrameInPlace frame references limits).1 ≠ .ok secrets := by
  intro hparse
  obtain ⟨_, hlegacy⟩ := parse_of_not_isPrefix hne hparse
  have hzero : (0 : UInt8) ∉ frame := by
    intro hmem
    have hfront : (0 : UInt8) ∈ signingFrameFront := h.subset hmem
    revert hfront
    decide
  have hnone : separators frame = [] := by
    show (zeros frame 0).take 3 = []
    rw [zeros_of_notMem hzero]
    rfl
  unfold parseLegacySigningSecretFrame at hlegacy
  rw [hnone] at hlegacy
  cases hlegacy

/-- No accepted frame of version 2 begins another one. -/
theorem eq_of_isPrefix (hplan : IsPlan references) {frame' : List UInt8} {secrets' : Secrets}
    (h : parseSigningSecretFrameV2 frame references limits = .ok secrets)
    (h' : parseSigningSecretFrameV2 frame' references limits = .ok secrets')
    (hbegins : frame <+: frame') : frame = frame' := by
  obtain ⟨order, secret, hperm, hencodable, rfl, _⟩ := (parseV2_eq_ok_iff hplan).mp h
  obtain ⟨order', secret', hperm', hencodable', rfl, _⟩ := (parseV2_eq_ok_iff hplan).mp h'
  obtain ⟨rest, hrest⟩ := hbegins
  have hcount : (order.map (recordOf references secret)).length =
      (order'.map (recordOf references secret')).length := by
    rw [List.length_map, List.length_map, hperm.length_eq, hperm'.length_eq]
  have hnil := encodeFrame_append_eq hplan hcount (of_recordOf hperm hencodable)
    (of_recordOf hperm' hencodable') hrest
  rw [← hrest, hnil, List.append_nil]

/-- Neither a truncation nor an extension of an accepted frame of version 2 is accepted. -/
theorem eq_of_isPrefix_or (hplan : IsPlan references) {frame' : List UInt8} {secrets' : Secrets}
    (hfront : signingFrameFront <+: frame)
    (h : (parseSigningSecretFrameInPlace frame references limits).1 = .ok secrets)
    (h' : (parseSigningSecretFrameInPlace frame' references limits).1 = .ok secrets')
    (hbegins : frame' <+: frame ∨ frame <+: frame') : frame' = frame := by
  rw [parse_of_isPrefix hfront] at h
  by_cases hfront' : signingFrameFront <+: frame'
  · rw [parse_of_isPrefix hfront'] at h'
    obtain hbegins | hbegins := hbegins
    · exact eq_of_isPrefix hplan h' h hbegins
    · exact (eq_of_isPrefix hplan h h' hbegins).symm
  · obtain hbegins | hbegins := hbegins
    · -- A truncation without the magic stands in front of its end.
      obtain hshort | hlong := List.prefix_or_prefix_of_prefix hbegins hfront
      · exact absurd h' (not_parse_of_isPrefix_front hshort hfront')
      · exact absurd hlong hfront'
    · exact absurd (hfront.trans hbegins) hfront'

/-- The frame is overwritten. -/
theorem fillZero_eq (frame : List UInt8) : fillZero frame = List.replicate frame.length 0 := by
  simp [fillZero]

/-- A failed call of the loop leaves zero bytes. -/
theorem readLoop_eq_error {buffer buffer' : List UInt8} {length : Nat} {calls : List ReadCall}
    {failure : CliFailure} (h : readLoop buffer length calls = (.error failure, buffer')) :
    ∀ byte ∈ buffer', byte = 0 := by
  have hzero : ∀ buffer : List UInt8, ∀ byte ∈ fillZero buffer, byte = 0 := by
    intro buffer byte hbyte
    rw [fillZero_eq] at hbyte
    exact List.eq_of_mem_replicate hbyte
  fun_induction readLoop buffer length calls with
  | case1 => exact (Prod.mk.inj h).2 ▸ hzero _
  | case2 => cases (Prod.mk.inj h).1
  | case3 => exact (Prod.mk.inj h).2 ▸ hzero _
  | case4 =>
    rename_i ih
    exact ih h
  | case5 => exact (Prod.mk.inj h).2 ▸ hzero _
  | case6 => cases (Prod.mk.inj h).1
  | case7 =>
    rename_i ih
    exact ih h
  | case8 => exact (Prod.mk.inj h).2 ▸ hzero _

theorem readSigningSecretStdin_zero (calls : List ReadCall) (references : SigningSecretReferences) :
    ∀ byte ∈ (readSigningSecretStdin calls references).2, byte = 0 := by
  unfold readSigningSecretStdin readBoundedSigningSecretStdin
  cases hread : readLoop (List.replicate (maxSigningStdinBytes + 1) 0) 0 calls with
  | mk result buffer =>
    cases result with
    | error failure => exact readLoop_eq_error hread
    | ok length =>
      intro byte hbyte
      simp only [parseSigningSecretFrameInPlace, fillZero_eq] at hbyte
      exact List.eq_of_mem_replicate hbyte

/-- A frame of version 2 is parsed to the secrets that it is the encoding of; an accepted frame has
a value for each reference and nothing else; an accepted frame of version 2 can be neither truncated
nor extended; and no byte of a frame is left. -/
theorem signingFrames_agree {references : SigningSecretReferences} (hplan : IsPlan references)
    (limits : FrameLimits) :
    (∀ (secret : SecretReference → List UInt8) (order : List SecretReference),
      IsEncodable references limits secret → order.Perm references.ordered →
      (parseSigningSecretFrameInPlace (encodeFrame (order.map (recordOf references secret)))
        references limits).1 = .ok (secretsOf references secret)) ∧
    (∀ (frame : List UInt8) (secrets : Secrets),
      (parseSigningSecretFrameInPlace frame references limits).1 = .ok secrets →
      ∃ secret : SecretReference → List UInt8,
        (∀ reference ∈ references.ordered,
          IsWithin references limits reference (secret reference)) ∧
        secrets = secretsOf references secret ∧
        if signingFrameFront <+: frame then
          ∃ order : List SecretReference, order.Perm references.ordered ∧
            frame = encodeFrame (order.map (recordOf references secret))
        else references.profiles.length = 1 ∧ frame = legacyFrame references secret) ∧
    (∀ (frame frame' : List UInt8) (secrets : Secrets), signingFrameFront <+: frame →
      (parseSigningSecretFrameInPlace frame references limits).1 = .ok secrets →
      frame' ≠ frame → (frame' <+: frame ∨ frame <+: frame') →
      ∃ failure, (parseSigningSecretFrameInPlace frame' references limits).1 = .error failure) ∧
    (∀ frame : List UInt8, (parseSigningSecretFrameInPlace frame references limits).2 =
      List.replicate frame.length 0) ∧
    ∀ calls : List ReadCall, ∀ byte ∈ (readSigningSecretStdin calls references).2, byte = 0 := by
  refine ⟨?_, ?_, ?_, fun frame => fillZero_eq frame,
    fun calls => readSigningSecretStdin_zero calls references⟩
  · intro secret order hencodable hperm
    rw [parse_of_isPrefix (front_isPrefix_encodeFrame _)]
    exact (parseV2_eq_ok_iff hplan).mpr ⟨order, secret, hperm, hencodable, rfl, rfl⟩
  · intro frame secrets h
    by_cases hfront : signingFrameFront <+: frame
    · rw [parse_of_isPrefix hfront] at h
      obtain ⟨order, secret, hperm, hencodable, hframe, hsecrets⟩ := (parseV2_eq_ok_iff hplan).mp h
      refine ⟨secret, hencodable.within, hsecrets, ?_⟩
      rw [if_pos hfront]
      exact ⟨order, hperm, hframe⟩
    · obtain ⟨hsingle, hlegacy⟩ := parse_of_not_isPrefix hfront h
      obtain ⟨secret, hwithin, hframe, hsecrets⟩ := parseLegacy_eq_ok hplan hsingle hlegacy
      refine ⟨secret, hwithin, hsecrets, ?_⟩
      rw [if_neg hfront]
      exact ⟨hsingle, hframe⟩
  · -- two accepted frames with one front, one a prefix of the other, agree
    intro frame frame' secrets hfront h hne hbegins
    cases h' : (parseSigningSecretFrameInPlace frame' references limits).1 with
    | error failure => exact ⟨failure, rfl⟩
    | ok secrets' => exact absurd (eq_of_isPrefix_or hplan hfront h h' hbegins) hne

end

namespace Sample

theorem referenceNames_valid : isReferenceName .githubActions "C" = true ∧
    isReferenceName .githubActions "P" = true ∧ isReferenceName .githubActions "Q" = true := by
  decide +kernel

/-- A plan with one profile. -/
def references : SigningSecretReferences :=
  ⟨⟨.githubActions, "C", referenceNames_valid.1⟩, ⟨.githubActions, "P", referenceNames_valid.2.1⟩,
    [⟨.githubActions, "Q", referenceNames_valid.2.2⟩]⟩

theorem isPlan : IsPlan references :=
  ⟨by decide, by decide, by decide⟩

/-- The values `QUJD`, `p` and `QUJD`. -/
def frame : List UInt8 := [81, 85, 74, 68, 0, 112, 0, 81, 85, 74, 68]

/-- The password `p`, the certificate `ABC`, and a profile of two bytes. -/
def secret (reference : SecretReference) : List UInt8 :=
  if reference = references.password then [112]
  else if reference = references.certificate then [65, 66, 67] else [1, 255]

theorem isEncodable : IsEncodable references signingLimits secret where
  within reference _ := by
    unfold IsWithin secret
    split_ifs
    · exact ⟨by decide, by decide, by simp⟩
    · exact ⟨by decide, by decide, by decide⟩
    · exact ⟨by decide, by decide, by decide⟩
  size reference _ := by
    unfold encodeValue secret
    split_ifs <;> decide

end Sample

/-- A legacy frame does not tell where its last value ends; a password has to be UTF-8. -/
theorem legacyFrame_extends :
    IsPlan Sample.references ∧
    (parseSigningSecretFrameInPlace Sample.frame Sample.references signingLimits).1.toBool = true ∧
    (parseSigningSecretFrameInPlace (Sample.frame ++ [81, 85, 74, 68]) Sample.references
      signingLimits).1.toBool = true ∧
    validateSigningPassword [255] signingLimits.maximumPasswordBytes ≠ .ok () :=
  ⟨Sample.isPlan, by decide +kernel⟩

/-- The frame of version 2 with the records in reverse order. -/
theorem signingFrames_agree_reverse :
    (parseSigningSecretFrameInPlace
      (encodeFrame (Sample.references.ordered.reverse.map
        (recordOf Sample.references Sample.secret)))
      Sample.references signingLimits).1 = .ok (secretsOf Sample.references Sample.secret) :=
  (signingFrames_agree Sample.isPlan signingLimits).1 _ _ Sample.isEncodable
    (List.reverse_perm _)

end RustFerry.SigningStdin
