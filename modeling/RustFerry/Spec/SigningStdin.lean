import RustFerry.ForStd.Base64
import RustFerry.ForStd.Framing
import RustFerry.ForStd.Utf8
import RustFerry.Native.SigningStdin

/-!
# Frames of signing secrets

A frame of version 2 is read exactly when it is the encoding of one record for each reference of the
plan, in some order, with a value that the limits allow. Its records are self-delimiting, so that no
accepted frame begins another one. A legacy frame has no lengths: its last value ends with the frame.
-/

namespace RustFerry.SigningStdin

open Except Remote Worker

variable {b c : UInt8} {frame : List UInt8} {name : String} {limits : FrameLimits}

/-! ## Base64 -/

/-- The value of a letter. -/
theorem base64Value_eq_some {byte v : UInt8} :
    base64Value byte = some v ↔ Base64.value byte = some v.toNat := by
  have hsub : ∀ k : UInt8, k.toNat ≤ byte.toNat → (byte - k).toNat = byte.toNat - k.toNat :=
    fun k hk => UInt8.toNat_sub_of_le _ _ (UInt8.le_iff_toNat_le.mpr hk)
  unfold base64Value Base64.value
  simp only [UInt8.le_iff_toNat_le, UInt8.reduceToNat]
  have hlarge := byte.toNat_lt
  split_ifs with hupper hlower hdigit hplus hslash
  · have h := hsub 65 hupper.1
    simp only [Option.some.injEq, ← UInt8.toNat_inj, h]
    rfl
  · have h := hsub 97 hlower.1
    have hsum : (byte - 97 + 26).toNat = byte.toNat - 71 := by
      rw [UInt8.toNat_add, h]
      show (byte.toNat - 97 + 26) % 256 = _
      have : 97 ≤ byte.toNat := hlower.1
      have : byte.toNat ≤ 122 := hlower.2
      omega
    simp only [Option.some.injEq, ← UInt8.toNat_inj, hsum]
  · have h := hsub 48 hdigit.1
    have hsum : (byte - 48 + 52).toNat = byte.toNat + 4 := by
      rw [UInt8.toNat_add, h]
      show (byte.toNat - 48 + 52) % 256 = _
      have : 48 ≤ byte.toNat := hdigit.1
      have : byte.toNat ≤ 57 := hdigit.2
      omega
    simp only [Option.some.injEq, ← UInt8.toNat_inj, hsum]
  · simp only [Option.some.injEq, ← UInt8.toNat_inj]
    rfl
  · simp only [Option.some.injEq, ← UInt8.toNat_inj]
    rfl
  · simp

/-- The bits of two bytes, one after the other. -/
theorem toNat_shiftLeft_or (x y : UInt8) {k : Nat} (hk : k < 8) (hy : y.toNat < 2 ^ k) :
    ((x <<< UInt8.ofNat k) ||| y).toNat = x.toNat % 2 ^ (8 - k) * 2 ^ k + y.toNat := by
  have hshift : (x <<< UInt8.ofNat k).toNat = (x.toNat % 2 ^ (8 - k)) <<< k := by
    rw [UInt8.toNat_shiftLeft, UInt8.toNat_ofNat', Nat.mod_eq_of_lt (by omega : k < 2 ^ 8),
      Nat.mod_eq_of_lt hk, Nat.shiftLeft_eq, Nat.shiftLeft_eq]
    have hpow : 2 ^ 8 = 2 ^ (8 - k) * 2 ^ k := by
      rw [← Nat.pow_add]
      congr 1
      omega
    rw [hpow, Nat.mul_mod_mul_right]
  rw [UInt8.toNat_or, hshift, ← Nat.shiftLeft_add_eq_or_of_lt hy, Nat.shiftLeft_eq]

theorem toNat_and_mask (x : UInt8) (k : Nat) (hk : k < 8) :
    (x &&& UInt8.ofNat (2 ^ k - 1)).toNat = x.toNat % 2 ^ k := by
  have hle : 2 ^ k ≤ 2 ^ 7 := Nat.pow_le_pow_right (by decide) (by omega)
  rw [UInt8.toNat_and, UInt8.toNat_ofNat', Nat.mod_eq_of_lt (by omega),
    Nat.and_two_pow_sub_one_eq_mod]

/-- The six bits of a letter. -/
theorem letter_of_base64Value {byte v : UInt8} (h : base64Value byte = some v) :
    v.toNat < 64 ∧ byte = Base64.letter v.toNat := by
  obtain ⟨hlt, hletter⟩ := Base64.letter_of_value (base64Value_eq_some.mp h)
  exact ⟨hlt, hletter.symm⟩

/-- A letter is read as its six bits. -/
theorem exists_base64Value {n : Nat} (h : n < 64) :
    ∃ v : UInt8, v.toNat = n ∧ base64Value (Base64.letter n) = some v := by
  have hbits : (UInt8.ofNat n).toNat = n := by
    rw [UInt8.toNat_ofNat']
    omega
  refine ⟨UInt8.ofNat n, hbits, ?_⟩
  rw [base64Value_eq_some, hbits]
  exact Base64.value_letter n h

/-- The first byte of a chunk. -/
theorem firstByte {a : UInt8} (ha : a.toNat < 64) (hb : b.toNat < 64) :
    ((a <<< 2) ||| (b >>> 4)).toNat = a.toNat * 4 + b.toNat / 16 := by
  have hright : (b >>> 4).toNat = b.toNat / 16 := by
    rw [UInt8.toNat_shiftRight, Nat.shiftRight_eq_div_pow]
    rfl
  have h := toNat_shiftLeft_or a (b >>> 4) (k := 2) (by omega) (by rw [hright]; omega)
  rw [hright] at h
  rw [show (2 : UInt8) = UInt8.ofNat 2 from rfl, h]
  omega

/-- The second byte of three. -/
theorem secondByte (hc : c.toNat < 64) :
    ((b <<< 4) ||| (c >>> 2)).toNat = b.toNat % 16 * 16 + c.toNat / 4 := by
  have hright : (c >>> 2).toNat = c.toNat / 4 := by
    rw [UInt8.toNat_shiftRight, Nat.shiftRight_eq_div_pow]
    rfl
  have h := toNat_shiftLeft_or b (c >>> 2) (k := 4) (by omega) (by rw [hright]; omega)
  rw [hright] at h
  exact h

theorem thirdByte {d : UInt8} (hd : d.toNat < 64) :
    ((c <<< 6) ||| d).toNat = c.toNat % 4 * 64 + d.toNat := by
  exact toNat_shiftLeft_or c d (k := 6) (by omega) (by omega)

theorem low4_eq_zero : b &&& 0x0f = 0 ↔ b.toNat % 16 = 0 := by
  rw [← UInt8.toNat_inj]
  have h := toNat_and_mask b 4 (by omega)
  rw [show (0x0f : UInt8) = UInt8.ofNat (2 ^ 4 - 1) from rfl, h]
  rfl

theorem low2_eq_zero : c &&& 0x03 = 0 ↔ c.toNat % 4 = 0 := by
  rw [← UInt8.toNat_inj]
  have h := toNat_and_mask c 2 (by omega)
  rw [show (0x03 : UInt8) = UInt8.ofNat (2 ^ 2 - 1) from rfl, h]
  rfl

/-- A chunk is decoded to the bytes that it encodes; all but the last one have three. -/
theorem decodeChunk_eq_some {last : Bool} {first second third fourth : UInt8}
    {bytes : List UInt8} :
    decodeChunk last first second third fourth = some bytes ↔
      Base64.encode bytes = [first, second, third, fourth] ∧ (last = true ∨ bytes.length = 3) := by
  constructor
  · intro h
    unfold decodeChunk at h
    simp only [Option.bind_eq_bind, Option.bind_eq_some_iff] at h
    obtain ⟨a, ha, b, hb, h⟩ := h
    obtain ⟨ha64, rfl⟩ := letter_of_base64Value ha
    obtain ⟨hb64, rfl⟩ := letter_of_base64Value hb
    have hone := firstByte ha64 hb64
    by_cases hthird : third = 61
    · rw [if_pos hthird] at h
      split at h
      · cases h
      · rename_i hpad
        cases h
        simp only [Bool.or_eq_true, Bool.not_eq_true', bne_iff_ne, ne_eq, not_or, not_not,
          Bool.not_eq_false, low4_eq_zero] at hpad
        obtain ⟨⟨hlast, rfl⟩, hlow⟩ := hpad
        refine ⟨?_, .inl hlast⟩
        rw [hthird, Base64.encode, hone, show (a.toNat * 4 + b.toNat / 16) / 4 = a.toNat by omega,
          show (a.toNat * 4 + b.toNat / 16) % 4 * 16 = b.toNat by omega]
        rfl
    · rw [if_neg hthird, Option.bind_eq_some_iff] at h
      obtain ⟨c, hc, h⟩ := h
      obtain ⟨hc64, rfl⟩ := letter_of_base64Value hc
      have htwo := secondByte (b := b) hc64
      by_cases hfourth : fourth = 61
      · rw [if_pos hfourth] at h
        split at h
        · cases h
        · rename_i hpad
          cases h
          simp only [Bool.or_eq_true, Bool.not_eq_true', bne_iff_ne, ne_eq, not_or, not_not,
            Bool.not_eq_false, low2_eq_zero] at hpad
          obtain ⟨hlast, hlow⟩ := hpad
          refine ⟨?_, .inl hlast⟩
          rw [hfourth, Base64.encode, hone, htwo,
            show (a.toNat * 4 + b.toNat / 16) / 4 = a.toNat by omega,
            show (a.toNat * 4 + b.toNat / 16) % 4 * 16 + (b.toNat % 16 * 16 + c.toNat / 4) / 16 =
              b.toNat by omega,
            show (b.toNat % 16 * 16 + c.toNat / 4) % 16 * 4 = c.toNat by omega]
          rfl
      · rw [if_neg hfourth, Option.bind_eq_some_iff] at h
        obtain ⟨d, hd, h⟩ := h
        obtain ⟨hd64, rfl⟩ := letter_of_base64Value hd
        cases h
        have hthree := thirdByte (c := c) hd64
        refine ⟨?_, .inr rfl⟩
        rw [Base64.encode, Base64.encode, hone, htwo, hthree,
          show (a.toNat * 4 + b.toNat / 16) / 4 = a.toNat by omega,
          show (a.toNat * 4 + b.toNat / 16) % 4 * 16 + (b.toNat % 16 * 16 + c.toNat / 4) / 16 =
            b.toNat by omega,
          show (b.toNat % 16 * 16 + c.toNat / 4) % 16 * 4 + (c.toNat % 4 * 64 + d.toNat) / 64 =
            c.toNat by omega,
          show (c.toNat % 4 * 64 + d.toNat) % 64 = d.toNat by omega]
  · intro h
    obtain ⟨hencode, hlast⟩ := h
    have hlength := congrArg List.length hencode
    rw [Base64.length_encode] at hlength
    simp only [List.length_cons, List.length_nil] at hlength
    unfold decodeChunk
    -- A code of one chunk is that of one, two or three bytes.
    obtain _ | ⟨a, _ | ⟨b, _ | ⟨c, _ | ⟨d, rest⟩⟩⟩⟩ := bytes
    · cases hencode
    · have hbyte := a.toNat_lt
      obtain ⟨u, hu, hfirst⟩ := exists_base64Value (n := a.toNat / 4) (by omega)
      obtain ⟨v, hv, hsecond⟩ := exists_base64Value (n := a.toNat % 4 * 16) (by omega)
      have hlow : v &&& 0x0f = 0 := low4_eq_zero.mpr (by omega)
      have hone : u <<< 2 ||| v >>> 4 = a := by
        rw [← UInt8.toNat_inj, firstByte (by omega) (by omega)]
        omega
      simp only [Base64.encode, Base64.pad, List.cons.injEq, and_true] at hencode
      obtain ⟨rfl, rfl, rfl, rfl⟩ := hencode
      have htrue : last = true := by simpa using hlast
      simp [hfirst, hsecond, htrue, hlow, hone]
    · have hbyte := a.toNat_lt
      have hbyte' := b.toNat_lt
      obtain ⟨u, hu, hfirst⟩ := exists_base64Value (n := a.toNat / 4) (by omega)
      obtain ⟨v, hv, hsecond⟩ := exists_base64Value (n := a.toNat % 4 * 16 + b.toNat / 16) (by omega)
      obtain ⟨w, hw, hthird⟩ := exists_base64Value (n := b.toNat % 16 * 4) (by omega)
      have hpad := Base64.letter_ne_pad (b.toNat % 16 * 4) (by omega)
      have hlow : w &&& 0x03 = 0 := low2_eq_zero.mpr (by omega)
      have hone : u <<< 2 ||| v >>> 4 = a := by
        rw [← UInt8.toNat_inj, firstByte (by omega) (by omega)]
        omega
      have htwo : v <<< 4 ||| w >>> 2 = b := by
        rw [← UInt8.toNat_inj, secondByte (by omega)]
        omega
      simp only [Base64.encode, Base64.pad, List.cons.injEq, and_true] at hencode hpad
      obtain ⟨rfl, rfl, rfl, rfl⟩ := hencode
      have htrue : last = true := by simpa using hlast
      simp [hfirst, hsecond, hthird, hpad, htrue, hlow, hone, htwo]
    · have hbyte := a.toNat_lt
      have hbyte' := b.toNat_lt
      have hbyte'' := c.toNat_lt
      obtain ⟨u, hu, hfirst⟩ := exists_base64Value (n := a.toNat / 4) (by omega)
      obtain ⟨v, hv, hsecond⟩ := exists_base64Value (n := a.toNat % 4 * 16 + b.toNat / 16) (by omega)
      obtain ⟨w, hw, hthird⟩ := exists_base64Value (n := b.toNat % 16 * 4 + c.toNat / 64) (by omega)
      obtain ⟨x, hx, hfourth⟩ := exists_base64Value (n := c.toNat % 64) (by omega)
      have hpad := Base64.letter_ne_pad (b.toNat % 16 * 4 + c.toNat / 64) (by omega)
      have hpad' := Base64.letter_ne_pad (c.toNat % 64) (by omega)
      have hone : u <<< 2 ||| v >>> 4 = a := by
        rw [← UInt8.toNat_inj, firstByte (by omega) (by omega)]
        omega
      have htwo : v <<< 4 ||| w >>> 2 = b := by
        rw [← UInt8.toNat_inj, secondByte (by omega)]
        omega
      have hthree : w <<< 6 ||| x = c := by
        rw [← UInt8.toNat_inj, thirdByte (by omega)]
        omega
      simp only [Base64.encode, Base64.pad, List.cons.injEq, and_true] at hencode hpad hpad'
      obtain ⟨rfl, rfl, rfl, rfl⟩ := hencode
      simp [hfirst, hsecond, hthird, hfourth, hpad, hpad', hone, htwo, hthree]
    · simp only [List.length_cons] at hlength
      omega

/-- Chunks are decoded to the bytes that they encode. -/
theorem decodeChunks_eq_some {input output : List UInt8} (h : input.length % 4 = 0) :
    decodeChunks input = some output ↔ Base64.encode output = input := by
  fun_induction decodeChunks input generalizing output with
  | case1 first second third fourth rest ih =>
    have hrest : rest.length % 4 = 0 := by
      simp only [List.length_cons] at h
      omega
    have ih := fun output => @ih output hrest
    simp only [Option.bind_eq_bind, Option.bind_eq_some_iff]
    constructor
    · intro hparts
      obtain ⟨bytes, hbytes, more, hmore, hout⟩ := hparts
      cases hout
      obtain ⟨hencode, hlast⟩ := decodeChunk_eq_some.mp hbytes
      have hmore := (ih more).mp hmore
      obtain hend | hthree := hlast
      · -- The last chunk has nothing after it.
        obtain rfl := List.isEmpty_iff.mp hend
        have hnil : more = [] := by
          by_contra hne
          exact Base64.encode_ne_nil hne hmore
        rw [hnil, List.append_nil, hencode]
      · obtain ⟨a, b, c, rfl⟩ := List.length_eq_three.mp hthree
        simp only [Base64.encode, List.cons.injEq, and_true] at hencode
        simp only [List.cons_append, List.nil_append, Base64.encode, hencode, hmore]
    · intro hencode
      obtain ⟨chunk, more, rfl, hchunk, hmore, hlast⟩ := Base64.encode_eq_cons hencode
      have hend : rest.isEmpty = true ∨ chunk.length = 3 := by
        simpa only [List.isEmpty_iff] using hlast
      exact ⟨chunk, decodeChunk_eq_some.mpr ⟨hchunk, hend⟩, more, (ih more).mpr hmore, rfl⟩
  | case2 input hshort =>
    -- A text of fewer than four letters is empty.
    have hnil : input = [] := by
      obtain _ | ⟨a, _ | ⟨b, _ | ⟨c, _ | ⟨d, rest⟩⟩⟩⟩ := input
      · rfl
      · simp at h
      · simp at h
      · simp at h
      · exact absurd rfl (hshort a b c d rest)
    rw [hnil, Option.some.injEq]
    constructor
    · intro heq
      rw [← heq]
      rfl
    · intro hencode
      by_contra hne
      exact Base64.encode_ne_nil (fun heq => hne heq.symm) hencode

/-- A text is decoded to the bytes that it encodes, if there are some and not too many. -/
theorem decodeBase64_eq_some {input output : List UInt8} {maximum : Nat} :
    decodeBase64 input maximum = some output ↔
      input = Base64.encode output ∧ output ≠ [] ∧ output.length ≤ maximum := by
  have hguard : ∀ {P : Prop} [Decidable P] {u : Unit}, guard P = some u ↔ P := by
    intro P _ u
    by_cases hP : P <;> simp [hP, guard]
  unfold decodeBase64
  simp only [Option.bind_eq_bind, Option.bind_eq_some_iff, hguard]
  constructor
  · intro hparts
    obtain ⟨_, hlength, decoded, hdecoded, _, hbounds, hout⟩ := hparts
    cases hout
    exact ⟨((decodeChunks_eq_some hlength.2).mp hdecoded).symm, hbounds⟩
  · intro hparts
    obtain ⟨rfl, hbounds⟩ := hparts
    have hlength := Base64.length_encode output
    have hpos := List.length_pos_iff.mpr hbounds.1
    refine ⟨(), ⟨by omega, by omega⟩, output, ?_, (), hbounds, rfl⟩
    exact (decodeChunks_eq_some (by omega)).mpr rfl

/-! ## Records -/

/-- A record of a frame. -/
structure Record where
  reference : SecretReference
  value : List UInt8

def encodeRecord (record : Record) : List UInt8 :=
  BigEndian.toBytes 2 (Text.utf8 record.reference.name).length ++
    (BigEndian.toBytes 4 record.value.length ++ (Text.utf8 record.reference.name ++ record.value))

/-- A frame of version 2. -/
def encodeFrame (records : List Record) : List UInt8 :=
  signingSecretFrameV2Magic ++ (BigEndian.toBytes 4 records.length ++ records.flatMap encodeRecord)

/-- The names of a plan: distinct, public, and at most those of three profiles. -/
structure IsPlan (references : SigningSecretReferences) : Prop where
  names : (references.ordered.map SecretReference.name).Nodup
  publicNames : ∀ reference ∈ references.ordered, isPublicReferenceName reference.name = true
  profiles : references.profiles.length ≤ maxSigningProfiles

/-- A record that the loop reads, and its secret. -/
structure Allowed (references : SigningSecretReferences) (limits : FrameLimits) (record : Record)
    (secret : List UInt8) : Prop where
  mem : record.reference ∈ references.ordered
  size : record.value.length < 256 ^ 4
  decodes : decodeValue references limits record.reference record.value = .ok secret

theorem takeFrameBytes_eq_some {bytes rest : List UInt8} {length : Nat} :
    takeFrameBytes frame length = some (bytes, rest) ↔
      frame = bytes ++ rest ∧ bytes.length = length := by
  unfold takeFrameBytes
  constructor
  · intro h
    split at h
    · rename_i hle
      obtain ⟨rfl, rfl⟩ := Prod.mk.inj (Option.some.inj h)
      exact ⟨(List.take_append_drop length frame).symm, by simpa using hle⟩
    · cases h
  · intro h
    obtain ⟨rfl, rfl⟩ := h
    simp

/-- A number at the front of a frame. -/
theorem readFrameNumber_eq_some {rest : List UInt8} {width n : Nat} :
    readFrameNumber width frame = some (n, rest) ↔
      frame = BigEndian.toBytes width n ++ rest ∧ n < 256 ^ width := by
  unfold readFrameNumber
  simp only [Option.bind_eq_bind, Option.bind_eq_some_iff]
  constructor
  · intro h
    obtain ⟨⟨bytes, frame'⟩, htake, h⟩ := h
    obtain ⟨rfl, rfl⟩ := takeFrameBytes_eq_some.mp htake
    obtain ⟨rfl, rfl⟩ := Prod.mk.inj (Option.some.inj h)
    rw [BigEndian.toBytes_ofBytes]
    exact ⟨rfl, BigEndian.ofBytes_lt bytes⟩
  · intro h
    obtain ⟨rfl, hlt⟩ := h
    refine ⟨(BigEndian.toBytes width n, rest), ?_, ?_⟩
    · exact takeFrameBytes_eq_some.mpr ⟨rfl, BigEndian.length_toBytes width n⟩
    · show some (BigEndian.ofBytes (BigEndian.toBytes width n), rest) = _
      rw [BigEndian.ofBytes_toBytes_of_lt hlt]

theorem length_of_isPublicReferenceName (h : isPublicReferenceName name = true) :
    0 < (Text.utf8 name).length ∧ (Text.utf8 name).length ≤ 128 := by
  simp only [isPublicReferenceName, Bool.and_eq_true, decide_eq_true_eq] at h
  exact ⟨List.length_pos_iff.mpr h.1.1.1.1, h.1.1.1.2⟩

namespace IsPlan

variable {references : SigningSecretReferences} (hplan : IsPlan references)

include hplan

/-- The references of a plan have different names. -/
theorem eq_of_name {a b : SecretReference} (ha : a ∈ references.ordered)
    (hb : b ∈ references.ordered) (h : a.name = b.name) : a = b :=
  List.inj_on_of_nodup_map hplan.names ha hb h

/-- A reference that is found by name. -/
theorem referenceNamed_eq_some {reference : SecretReference} :
    references.referenceNamed name = some reference ↔
      reference ∈ references.ordered ∧ reference.name = name := by
  unfold SigningSecretReferences.referenceNamed
  constructor
  · intro h
    exact ⟨List.mem_of_find?_eq_some h, by simpa using List.find?_some h⟩
  · intro h
    obtain ⟨hmem, rfl⟩ := h
    cases hfind : references.ordered.find? (·.name == reference.name) with
    | none => exact absurd (List.find?_eq_none.mp hfind reference hmem) (by simp)
    | some found =>
      have hname : found.name = reference.name := by simpa using List.find?_some hfind
      rw [hplan.eq_of_name (List.mem_of_find?_eq_some hfind) hmem hname]

end IsPlan

variable {references : SigningSecretReferences}

theorem mem_expectedNames :
    name ∈ references.expectedNames ↔ ∃ reference ∈ references.ordered, reference.name = name := by
  simp [SigningSecretReferences.expectedNames]

/-- What a value decodes to is within the limits. -/
theorem length_le_of_decodeValue {reference : SecretReference} {value secret : List UInt8}
    (h : decodeValue references limits reference value = .ok secret) :
    value.length ≤ max limits.maximumEncodedBlobBytes limits.maximumPasswordBytes := by
  unfold decodeValue at h
  split at h
  · obtain ⟨hpassword, -⟩ := check_bind_eq_ok.mp h
    simp only [validateSigningPassword, rejectIf_eq_ok, Bool.or_eq_false_iff,
      decide_eq_false_iff_not] at hpassword
    omega
  · obtain ⟨hlength, -⟩ := check_bind_eq_ok.mp h
    simp only [rejectIf_eq_ok, decide_eq_false_iff_not] at hlength
    omega

/-- A pass of the loop reads the record of a reference that it has not seen. -/
theorem readRecord_eq_ok (hplan : IsPlan references) {state state' : FrameState} :
    readRecord references limits state = .ok state' ↔
      ∃ record secret, Allowed references limits record secret ∧
        record.reference.name ∉ state.seen ∧ state.frame = encodeRecord record ++ state'.frame ∧
        state'.seen = insert record.reference.name state.seen ∧
        state'.secrets = state.secrets.insert record.reference secret := by
  unfold readRecord
  constructor
  · intro h
    -- the reads take the fields off the frame one by one
    obtain ⟨⟨nameLength, frame₁⟩, hnameLength, h⟩ := bind_eq_ok.mp h
    obtain ⟨⟨valueLength, frame₂⟩, hvalueLength, h⟩ := bind_eq_ok.mp h
    obtain ⟨_, h⟩ := check_bind_eq_ok.mp h
    obtain ⟨⟨nameBytes, frame₃⟩, hnameBytes, h⟩ := bind_eq_ok.mp h
    obtain ⟨name, hname, h⟩ := bind_eq_ok.mp h
    obtain ⟨_, h⟩ := check_bind_eq_ok.mp h
    obtain ⟨_, h⟩ := check_bind_eq_ok.mp h
    obtain ⟨hseen, h⟩ := check_bind_eq_ok.mp h
    obtain ⟨⟨value, frame₄⟩, hvalue, h⟩ := bind_eq_ok.mp h
    obtain ⟨reference, hreference, h⟩ := bind_eq_ok.mp h
    obtain ⟨secret, hsecret, h⟩ := bind_eq_ok.mp h
    cases h
    rw [ofOption_eq_ok] at hnameLength hvalueLength hnameBytes hname hvalue hreference
    obtain ⟨hframe, hnameLt⟩ := readFrameNumber_eq_some.mp hnameLength
    obtain ⟨hframe₁, hvalueLt⟩ := readFrameNumber_eq_some.mp hvalueLength
    obtain ⟨hframe₂, hnameEq⟩ := takeFrameBytes_eq_some.mp hnameBytes
    obtain ⟨hframe₃, hvalueEq⟩ := takeFrameBytes_eq_some.mp hvalue
    obtain ⟨hmem, rfl⟩ := hplan.referenceNamed_eq_some.mp hreference
    obtain rfl := Text.fromUtf8_eq_some.mp hname
    refine ⟨⟨reference, value⟩, secret, ⟨hmem, ?_, hsecret⟩, ?_, ?_, rfl, rfl⟩
    · show value.length < 256 ^ 4
      omega
    · simpa using hseen
    · simp only [hframe, hframe₁, hframe₂, hframe₃, encodeRecord, hnameEq, hvalueEq,
        List.append_assoc]
  · intro h
    obtain ⟨record, secret, hallowed, hseen, hframe, hseen', hsecrets⟩ := h
    -- a plan has names and values of such lengths
    have hpublic := hplan.publicNames _ hallowed.mem
    have hlength := length_of_isPublicReferenceName hpublic
    have hvalue := length_le_of_decodeValue hallowed.decodes
    have hbounds : ((Text.utf8 record.reference.name).length == 0 ||
        decide (maxSigningReferenceNameBytes < (Text.utf8 record.reference.name).length) ||
        decide (max limits.maximumEncodedBlobBytes limits.maximumPasswordBytes <
          record.value.length)) = false := by
      have hmax : maxSigningReferenceNameBytes = 128 := rfl
      simp only [Bool.or_eq_false_iff, beq_eq_false_iff_ne, decide_eq_false_iff_not]
      omega
    have hexpected : record.reference.name ∈ references.expectedNames :=
      mem_expectedNames.mpr ⟨_, hallowed.mem, rfl⟩
    have hnamed : references.referenceNamed record.reference.name = some record.reference :=
      hplan.referenceNamed_eq_some.mpr ⟨hallowed.mem, rfl⟩
    have hnameLength : readFrameU16 state.frame = some ((Text.utf8 record.reference.name).length,
        BigEndian.toBytes 4 record.value.length ++ (Text.utf8 record.reference.name ++
          (record.value ++ state'.frame))) := by
      apply readFrameNumber_eq_some.mpr
      rw [hframe]
      exact ⟨by simp only [encodeRecord, List.append_assoc], by omega⟩
    have hvalueLength : readFrameU32 (BigEndian.toBytes 4 record.value.length ++
        (Text.utf8 record.reference.name ++ (record.value ++ state'.frame))) =
        some (record.value.length, Text.utf8 record.reference.name ++
          (record.value ++ state'.frame)) :=
      readFrameNumber_eq_some.mpr ⟨rfl, hallowed.size⟩
    have hstate : state' = ⟨state'.frame, insert record.reference.name state.seen,
        state.secrets.insert record.reference secret⟩ := by
      rw [← hseen', ← hsecrets]
    simp only [bind_eq_ok, ofOption_eq_ok]
    refine ⟨_, hnameLength, _, hvalueLength, (), ?_, _, takeFrameBytes_eq_some.mpr ⟨rfl, rfl⟩, _,
      Text.fromUtf8_utf8 _, (), ?_, (), ?_, (), ?_, _, takeFrameBytes_eq_some.mpr ⟨rfl, rfl⟩, _,
      hnamed, _, hallowed.decodes, ?_⟩
    · exact rejectIf_eq_ok.mpr hbounds
    · simp [validatePublicSecretReferenceName, hpublic]
    · simp [hexpected]
    · simp [hseen]
    · rw [hstate]
      rfl

/-- The names of records, each with its secret. -/
def names (entries : List (Record × List UInt8)) : List String :=
  entries.map fun entry => entry.1.reference.name

/-- The map after the insertions of the records. -/
def insertAll (secrets : Secrets) (entries : List (Record × List UInt8)) : Secrets :=
  entries.foldl (fun secrets entry => secrets.insert entry.1.reference entry.2) secrets

/-- The loop reads as many records, of different references. -/
theorem readRecords_eq_ok (hplan : IsPlan references) {count : Nat} {state state' : FrameState} :
    readRecords references limits count state = .ok state' ↔
      ∃ entries : List (Record × List UInt8), entries.length = count ∧
        (∀ entry ∈ entries, Allowed references limits entry.1 entry.2) ∧ (names entries).Nodup ∧
        (∀ name ∈ names entries, name ∉ state.seen) ∧
        state.frame = (entries.map Prod.fst).flatMap encodeRecord ++ state'.frame ∧
        state'.seen = state.seen ∪ (names entries).toFinset ∧
        state'.secrets = insertAll state.secrets entries := by
  -- one record a turn: what was seen grows by its name
  induction count generalizing state with
  | zero =>
    constructor
    · intro h
      cases h
      exact ⟨[], rfl, by simp, by simp [names], by simp [names], rfl, by simp [names], rfl⟩
    · intro h
      obtain ⟨entries, hlength, _, _, _, hframe, hseen, hsecrets⟩ := h
      obtain rfl := List.length_eq_zero_iff.mp hlength
      have hstate : state' = state := by
        obtain ⟨frame, seen, secrets⟩ := state
        obtain ⟨frame', seen', secrets'⟩ := state'
        simp_all [names, insertAll]
      rw [hstate]
      rfl
  | succ count ih =>
    rw [readRecords, bind_eq_ok]
    constructor
    · intro h
      obtain ⟨middle, hfirst, hrest⟩ := h
      obtain ⟨record, secret, hallowed, hnew, hframe, hseen, hsecrets⟩ :=
        (readRecord_eq_ok hplan).mp hfirst
      obtain ⟨entries, hlength, hall, hnodup, hapart, hframe', hseen', hsecrets'⟩ := ih.mp hrest
      have hnot : ∀ name ∈ names entries, name ≠ record.reference.name ∧ name ∉ state.seen := by
        intro name hname
        have h := hapart name hname
        rw [hseen, Finset.mem_insert, not_or] at h
        exact h
      refine ⟨(record, secret) :: entries, by simp [hlength], ?_, ?_, ?_, ?_, ?_, ?_⟩
      · simpa using ⟨hallowed, fun a b h => hall (a, b) h⟩
      · refine List.nodup_cons.mpr ⟨?_, hnodup⟩
        intro hmem
        exact (hnot _ hmem).1 rfl
      · intro name hname
        obtain rfl | hname := List.mem_cons.mp hname
        · exact hnew
        · exact (hnot name hname).2
      · rw [hframe, hframe']
        simp
      · rw [hseen', hseen]
        simp [names, Finset.insert_union, Finset.union_insert]
      · rw [hsecrets', hsecrets]
        rfl
    · intro h
      obtain ⟨entries, hlength, hall, hnodup, hapart, hframe, hseen, hsecrets⟩ := h
      obtain _ | ⟨⟨record, secret⟩, entries⟩ := entries
      · simp at hlength
      · obtain ⟨hhead, hnodup⟩ := List.nodup_cons.mp hnodup
        -- the state after the first record
        let middle : FrameState :=
          ⟨(entries.map Prod.fst).flatMap encodeRecord ++ state'.frame,
            insert record.reference.name state.seen, state.secrets.insert record.reference secret⟩
        refine ⟨middle, (readRecord_eq_ok hplan).mpr ⟨record, secret, ?_, ?_, ?_, rfl, rfl⟩,
          ih.mpr ⟨entries, ?_, ?_, hnodup, ?_, rfl, ?_, hsecrets⟩⟩
        · exact hall _ List.mem_cons_self
        · exact hapart _ List.mem_cons_self
        · rw [hframe]
          simp [middle]
        · simpa using hlength
        · intro entry hentry
          exact hall entry (List.mem_cons_of_mem _ hentry)
        · intro name hname
          have hne : name ≠ record.reference.name := by
            rintro rfl
            exact hhead hname
          simp only [middle, Finset.mem_insert, not_or]
          exact ⟨hne, hapart name (List.mem_cons_of_mem _ hname)⟩
        · rw [hseen]
          simp [middle, names, Finset.insert_union, Finset.union_insert]

/-! ## Frames of version 2 -/

theorem length_ordered_le (hplan : IsPlan references) :
    references.ordered.length ≤ maxSigningSecretRecords := by
  have hprofiles := hplan.profiles
  simp only [SigningSecretReferences.ordered, List.length_cons, maxSigningSecretRecords]
  omega

/-- The references of records whose names are those of the plan are the ones of the plan. -/
theorem perm_ordered (hplan : IsPlan references) {entries : List (Record × List UInt8)}
    (hall : ∀ entry ∈ entries, Allowed references limits entry.1 entry.2)
    (hnodup : (names entries).Nodup) (hnames : (names entries).toFinset = references.expectedNames)
      :
    (entries.map fun entry => entry.1.reference).Perm references.ordered := by
  have hmap : names entries =
      (entries.map fun entry => entry.1.reference).map SecretReference.name := by
    simp [names]
  have hleft : (entries.map fun entry => entry.1.reference).Nodup :=
    List.Nodup.of_map _ (hmap ▸ hnodup)
  apply (List.perm_ext_iff_of_nodup hleft (List.Nodup.of_map _ hplan.names)).mpr
  intro reference
  constructor
  · intro hmem
    obtain ⟨entry, hentry, rfl⟩ := List.mem_map.mp hmem
    exact (hall entry hentry).mem
  · intro hmem
    have hname : reference.name ∈ (names entries).toFinset := by
      rw [hnames]
      exact mem_expectedNames.mpr ⟨reference, hmem, rfl⟩
    obtain ⟨entry, hentry, heq⟩ := List.mem_map.mp (List.mem_toFinset.mp hname)
    have hsame := hplan.eq_of_name (hall entry hentry).mem hmem heq
    exact List.mem_map.mpr ⟨entry, hentry, hsame⟩

/-- The accepted frames of version 2. -/
theorem parseV2_eq_ok (hplan : IsPlan references) {secrets : Secrets} :
    parseSigningSecretFrameV2 frame references limits = .ok secrets ↔
      ∃ entries : List (Record × List UInt8),
        (entries.map fun entry => entry.1.reference).Perm references.ordered ∧
        (∀ entry ∈ entries, Allowed references limits entry.1 entry.2) ∧
        frame = encodeFrame (entries.map Prod.fst) ∧ secrets = insertAll Secrets.empty entries := by
  unfold parseSigningSecretFrameV2
  constructor
  · intro h
    obtain ⟨hmagic, h⟩ := check_bind_eq_ok.mp h
    obtain ⟨⟨count, rest⟩, hcount, h⟩ := bind_eq_ok.mp h
    obtain ⟨hcounts, h⟩ := check_bind_eq_ok.mp h
    obtain ⟨state, hstate, h⟩ := bind_eq_ok.mp h
    obtain ⟨htrailing, h⟩ := check_bind_eq_ok.mp h
    obtain ⟨hmissing, h⟩ := check_bind_eq_ok.mp h
    cases h
    obtain ⟨entries, hlength, hall, hnodup, _, hframe, hseen, hsecrets⟩ :=
      (readRecords_eq_ok hplan).mp hstate
    rw [ofOption_eq_ok] at hcount
    obtain ⟨hdrop, _⟩ := readFrameNumber_eq_some.mp hcount
    -- nothing is left, and no reference is missing
    have hempty : state.frame = [] := by simpa using htrailing
    have hnames : (names entries).toFinset = references.expectedNames := by
      have heq : state.seen = references.expectedNames := by simpa using hmissing
      rw [← heq, hseen, Finset.empty_union]
    refine ⟨entries, perm_ordered hplan hall hnodup hnames, hall, ?_, hsecrets⟩
    have hfront : signingSecretFrameV2Magic <+: frame := by
      rw [rejectIf_eq_ok, Bool.not_eq_false'] at hmagic
      exact List.isPrefixOf_iff_prefix.mp hmagic
    obtain ⟨tail, rfl⟩ := hfront
    rw [List.drop_left] at hdrop
    rw [hdrop, encodeFrame, List.length_map, hlength, show rest = _ from hframe, hempty,
      List.append_nil]
  · intro h
    obtain ⟨entries, hperm, hall, rfl, rfl⟩ := h
    -- a permutation has as many records as there are references
    have hlength : entries.length = references.ordered.length := by
      rw [← hperm.length_eq, List.length_map]
    have hbound := length_ordered_le hplan
    have hmax : maxSigningSecretRecords = 5 := rfl
    have hmap : names entries =
        (entries.map fun entry => entry.1.reference).map SecretReference.name := by
      simp [names]
    have hnodup : (names entries).Nodup := by
      rw [hmap]
      exact (hperm.map SecretReference.name).nodup_iff.mpr hplan.names
    have hnames : (names entries).toFinset = references.expectedNames := by
      rw [hmap]
      exact List.toFinset_eq_of_perm _ _ (hperm.map SecretReference.name)
    simp only [bind_eq_ok, ofOption_eq_ok]
    refine ⟨(), ?_, (entries.length, (entries.map Prod.fst).flatMap encodeRecord), ?_, (), ?_,
      ⟨[], references.expectedNames, insertAll Secrets.empty entries⟩, ?_, (), ?_, (), ?_, rfl⟩
    · rw [rejectIf_eq_ok, Bool.not_eq_false']
      exact List.isPrefixOf_iff_prefix.mpr (List.prefix_append _ _)
    · apply readFrameNumber_eq_some.mpr
      rw [encodeFrame, List.drop_left, List.length_map]
      exact ⟨rfl, by omega⟩
    · rw [rejectIf_eq_ok, Bool.or_eq_false_iff, bne_eq_false_iff_eq, decide_eq_false_iff_not]
      show entries.length = _ ∧ ¬ maxSigningSecretRecords < entries.length
      omega
    · exact (readRecords_eq_ok hplan).mpr ⟨entries, rfl, hall, hnodup, by simp, by simp,
        by rw [hnames, Finset.empty_union], rfl⟩
    · simp
    · simp

end RustFerry.SigningStdin
