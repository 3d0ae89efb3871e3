import RustFerry.ForStd.Text

/-!
# The bytes of a text

A character below 128 is one byte of a text, and any other one is a leading byte with continuation
bytes. So a text of small bytes is a text of small characters, byte for byte, and a byte below 128 is
always a character of its own.
-/

namespace Text

/-- An ASCII character is one byte. -/
theorem encode_ascii {c : Char} (h : c.toNat < 128) :
    String.utf8EncodeChar c = [UInt8.ofNat c.toNat] := by
  unfold String.utf8EncodeChar
  have hle : c.val.toNat ≤ 0x7f := by
    have : c.val.toNat < 128 := h
    omega
  simp only [if_pos hle]
  rfl

/-- The bytes of a character: itself, or a leading byte and continuation bytes. -/
theorem encode_shape (c : Char) :
    (c.toNat < 128 ∧ String.utf8EncodeChar c = [UInt8.ofNat c.toNat]) ∨
      (128 ≤ c.toNat ∧ ∃ lead rest, String.utf8EncodeChar c = lead :: rest ∧ 192 ≤ lead.toNat ∧
        ∀ b ∈ rest, 128 ≤ b.toNat ∧ b.toNat < 192) := by
  by_cases hsmall : c.toNat < 128
  · exact .inl ⟨hsmall, encode_ascii hsmall⟩
  · right
    apply And.intro (by omega)
    have hlarge : ¬ c.val.toNat ≤ 0x7f := by
      have : ¬ c.val.toNat < 128 := hsmall
      omega
    unfold String.utf8EncodeChar
    simp only [if_neg hlarge]
    split_ifs
    all_goals
      refine ⟨_, _, rfl, ?_, ?_⟩
      · rw [UInt8.toNat_ofNat']
        omega
      · intro b hb
        simp only [List.mem_cons, List.not_mem_nil, or_false] at hb
        rcases hb with rfl | rfl | rfl <;> (rw [UInt8.toNat_ofNat']; omega)

/-- The text of `chars`. Its bytes are one list, which is cheaper to evaluate than the bytes of
    `String.ofList chars`: these are appended one after the other. -/
def ofChars (chars : List Char) : String :=
  ⟨⟨⟨chars.flatMap String.utf8EncodeChar⟩⟩, ⟨chars, by simp [List.utf8Encode, ByteArray.ext_iff]⟩⟩

theorem ofList_eq_ofChars (chars : List Char) : String.ofList chars = ofChars chars := by
  simp [ofChars, String.ofList, List.utf8Encode, ByteArray.ext_iff]

theorem utf8_eq_flatMap (text : String) :
    utf8 text = text.toList.flatMap String.utf8EncodeChar := by
  have h := utf8_ofList text.toList
  rwa [String.ofList_toList] at h

/-- Decoded bytes are encoded back. -/
theorem utf8_of_fromUtf8 {bytes : List UInt8} {text : String} (h : fromUtf8 bytes = some text) :
    utf8 text = bytes := by
  rw [fromUtf8, String.fromUTF8?] at h
  split at h
  · cases h
    simp [utf8, String.fromUTF8]
  · cases h

/-- Decoding inverts encoding. -/
theorem fromUtf8_eq_some {bytes : List UInt8} {text : String} :
    fromUtf8 bytes = some text ↔ bytes = utf8 text := by
  constructor
  · intro h
    exact (utf8_of_fromUtf8 h).symm
  · intro h
    rw [h, fromUtf8_utf8]

/-- The byte of a small character. -/
def asciiByte (c : Char) : UInt8 := UInt8.ofNat c.toNat

theorem toNat_asciiByte {c : Char} (h : c.toNat < 128) : (asciiByte c).toNat = c.toNat := by
  rw [asciiByte, UInt8.toNat_ofNat']
  omega

/-- ASCII text, byte by byte. -/
theorem flatMap_encode_eq_map {text : List Char} (h : ∀ c ∈ text, c.toNat < 128) :
    text.flatMap String.utf8EncodeChar = text.map asciiByte := by
  induction text with
  | nil => rfl
  | cons c rest ih =>
    have hrest := ih fun d hd => h d (List.mem_cons_of_mem _ hd)
    rw [List.flatMap_cons, encode_ascii (h c List.mem_cons_self), hrest]
    rfl

/-- A text of small bytes is one of small characters. -/
theorem toNat_lt_of_utf8 {text : String} (h : ∀ b ∈ utf8 text, b.toNat < 128) :
    ∀ c ∈ text.toList, c.toNat < 128 := by
  intro c hc
  obtain hsmall | ⟨_, lead, rest, hencode, hlead, _⟩ := encode_shape c
  · exact hsmall.1
  · have hmem : lead ∈ utf8 text := by
      rw [utf8_eq_flatMap]
      exact List.mem_flatMap.mpr ⟨c, hc, by rw [hencode]; exact List.mem_cons_self⟩
    have := h lead hmem
    omega

theorem utf8_eq_map {text : String} (h : ∀ b ∈ utf8 text, b.toNat < 128) :
    utf8 text = text.toList.map asciiByte := by
  rw [utf8_eq_flatMap, flatMap_encode_eq_map (toNat_lt_of_utf8 h)]

end Text
