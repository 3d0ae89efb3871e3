import RustFerry.ForStd.BigEndian
import RustFerry.ForStd.Text

/-!
# Self-delimiting encodings

An encoding is self-delimiting on a set of values when the code of a value can be told from what
follows it. Such encodings can be put one after the other: the concatenation still determines every
part.
-/

namespace Framing

/-- The code of a value that satisfies `P` is determined by any text that it begins. -/
def SelfDelimiting {α β : Type} (P : α → Prop) (encode : α → List β) : Prop :=
  ∀ a b, P a → P b → ∀ x y, encode a ++ x = encode b ++ y → a = b ∧ x = y

namespace SelfDelimiting

variable {α β γ : Type} {P : α → Prop} {Q : γ → Prop} {encode : α → List β}

theorem injOn (h : SelfDelimiting P encode) {a b : α} (ha : P a) (hb : P b)
    (heq : encode a = encode b) : a = b := by
  have hparts := h a b ha hb [] [] (by rw [heq])
  exact hparts.1

theorem mono {P' : α → Prop} (h : SelfDelimiting P encode) (hle : ∀ a, P' a → P a) :
    SelfDelimiting P' encode :=
  fun a b ha hb => h a b (hle a ha) (hle b hb)

/-- Codes of one length that differ for different values. -/
theorem ofLength {n : Nat} (hlength : ∀ a, P a → (encode a).length = n)
    (hinj : ∀ a b, P a → P b → encode a = encode b → a = b) : SelfDelimiting P encode := by
  intro a b ha hb x y heq
  have hlen : (encode a).length = (encode b).length := by rw [hlength a ha, hlength b hb]
  obtain ⟨hcode, hrest⟩ := List.append_inj heq hlen
  exact ⟨hinj a b ha hb hcode, hrest⟩

/-- The code of a part of a value, or of another form of it. -/
theorem comap {f : γ → α} (h : SelfDelimiting P encode) (hf : Function.Injective f) :
    SelfDelimiting (fun c => P (f c)) fun c => encode (f c) := by
  intro a b ha hb x y heq
  obtain ⟨hvalue, hrest⟩ := h _ _ ha hb x y heq
  exact ⟨hf hvalue, hrest⟩

/-- Two codes, one after the other. -/
theorem append {encode' : γ → List β} (h : SelfDelimiting P encode)
    (h' : SelfDelimiting Q encode') :
    SelfDelimiting (fun c : α × γ => P c.1 ∧ Q c.2) fun c => encode c.1 ++ encode' c.2 := by
  intro a b ha hb x y heq
  rw [List.append_assoc, List.append_assoc] at heq
  obtain ⟨hfirst, hrest⟩ := h _ _ ha.1 hb.1 _ _ heq
  obtain ⟨hsecond, htail⟩ := h' _ _ ha.2 hb.2 _ _ hrest
  exact ⟨Prod.ext hfirst hsecond, htail⟩

/-- A text after its length. -/
theorem framed {N : Nat → Prop} {number : Nat → List β} (h : SelfDelimiting N number) :
    SelfDelimiting (fun text : List β => N text.length) fun text =>
      number text.length ++ text := by
  intro a b ha hb x y heq
  rw [List.append_assoc, List.append_assoc] at heq
  obtain ⟨hlength, hrest⟩ := h _ _ ha hb _ _ heq
  exact List.append_inj hrest hlength

/-- Lists of one length are told apart. -/
theorem flatMap_eq (h : SelfDelimiting P encode) {l l' : List α} (hlength : l.length = l'.length)
    (hl : ∀ a ∈ l, P a) (hl' : ∀ a ∈ l', P a) {x y : List β}
    (heq : l.flatMap encode ++ x = l'.flatMap encode ++ y) : l = l' ∧ x = y := by
  induction l generalizing l' with
  | nil =>
    obtain rfl : l' = [] := by simpa [eq_comm] using hlength
    exact ⟨rfl, heq⟩
  | cons a rest ih =>
    cases l' with
    | nil => simp at hlength
    | cons b rest' =>
      simp only [List.flatMap_cons, List.append_assoc] at heq
      have ha := hl a List.mem_cons_self
      have hb := hl' b List.mem_cons_self
      obtain ⟨rfl, hrest⟩ := h a b ha hb _ _ heq
      have htail : rest.length = rest'.length := by simpa using hlength
      obtain ⟨rfl, hend⟩ := ih htail (fun c hc => hl c (List.mem_cons_of_mem _ hc))
        (fun c hc => hl' c (List.mem_cons_of_mem _ hc)) hrest
      exact ⟨rfl, hend⟩

/-- Any number of codes, after their number. -/
theorem counted {N : Nat → Prop} {number : Nat → List β} (hnumber : SelfDelimiting N number)
    (h : SelfDelimiting P encode) :
    SelfDelimiting (fun l : List α => N l.length ∧ ∀ a ∈ l, P a) fun l =>
      number l.length ++ l.flatMap encode := by
  intro a b ha hb x y heq
  rw [List.append_assoc, List.append_assoc] at heq
  obtain ⟨hlength, hrest⟩ := hnumber _ _ ha.1 hb.1 _ _ heq
  exact h.flatMap_eq hlength ha.2 hb.2 hrest

end SelfDelimiting

/-! ## Numbers -/

/-- A big-endian number of a fixed width. -/
theorem selfDelimiting_toBytes (width : Nat) :
    SelfDelimiting (fun n => n < 256 ^ width) (BigEndian.toBytes width) := by
  apply SelfDelimiting.ofLength fun n _ => BigEndian.length_toBytes width n
  intro a b ha hb heq
  have hof := congrArg BigEndian.ofBytes heq
  rwa [BigEndian.ofBytes_toBytes_of_lt ha, BigEndian.ofBytes_toBytes_of_lt hb] at hof

/-- A text without the separator, before the separator. -/
theorem append_separator_eq {β : Type} {separator : β} {a b x y : List β} (ha : separator ∉ a)
    (hb : separator ∉ b) (heq : a ++ separator :: x = b ++ separator :: y) : a = b ∧ x = y := by
  induction a generalizing b with
  | nil =>
    cases b with
    | nil => exact ⟨rfl, by simpa using heq⟩
    | cons d rest =>
      obtain ⟨rfl, _⟩ : separator = d ∧ x = rest ++ separator :: y := by simpa using heq
      exact absurd List.mem_cons_self hb
  | cons c rest ih =>
    cases b with
    | nil =>
      obtain ⟨rfl, _⟩ : c = separator ∧ rest ++ separator :: x = y := by simpa using heq
      exact absurd List.mem_cons_self ha
    | cons d rest' =>
      obtain ⟨rfl, htail⟩ : c = d ∧ rest ++ separator :: x = rest' ++ separator :: y := by
        simpa using heq
      rw [List.mem_cons, not_or] at ha hb
      obtain ⟨rfl, hend⟩ := ih ha.2 hb.2 htail
      exact ⟨rfl, hend⟩

/-- The bytes of the decimal text of a number. -/
def decimalBytes (n : Nat) : List UInt8 := Text.utf8 (toString n)

theorem decimalBytes_eq (n : Nat) :
    decimalBytes n = (Nat.toDigits 10 n).flatMap String.utf8EncodeChar := by
  show Text.utf8 (Nat.repr n) = _
  rw [Nat.repr_eq_ofList_toDigits, Text.utf8_ofList]

/-- The bytes of a decimal text are digits. -/
theorem notMem_decimalBytes {b : UInt8} (hb : 57 < b.toNat) (n : Nat) : b ∉ decimalBytes n := by
  rw [decimalBytes_eq]
  intro hmem
  obtain ⟨c, hc, hbyte⟩ := List.mem_flatMap.mp hmem
  have hdigit := Nat.isDigit_of_mem_toDigits (by decide) (by decide) hc
  have hrange : c.val.toNat ≤ 57 := by
    simp only [Char.isDigit, Bool.and_eq_true, decide_eq_true_eq, UInt32.le_iff_toNat_le] at hdigit
    simpa using hdigit.2
  have hsize : c.utf8Size = 1 := by
    unfold Char.utf8Size
    rw [if_pos]
    have hle : c.val.toNat ≤ 127 := by omega
    exact UInt32.le_iff_toNat_le.mpr hle
  rw [String.utf8EncodeChar_eq_singleton hsize] at hbyte
  have heq := congrArg UInt8.toNat (List.mem_singleton.mp hbyte)
  have hlow : c.val.toUInt8.toNat = c.val.toNat := by
    rw [UInt32.toNat_toUInt8]
    omega
  omega

/-- Numbers are told apart. -/
theorem decimalBytes_injective : Function.Injective decimalBytes := by
  intro a b h
  have htext : Nat.repr a = Nat.repr b := Text.utf8_injective h
  have hdigits := congrArg String.toList htext
  rw [Nat.toList_repr, Nat.toList_repr] at hdigits
  have hof := congrArg (fun digits => Nat.ofDigitChars 10 digits 0) hdigits
  simpa using hof

/-- A decimal number, and a separator. -/
theorem selfDelimiting_decimal {separator : UInt8} (hseparator : 57 < separator.toNat) :
    SelfDelimiting (fun _ => True) fun n => decimalBytes n ++ [separator] := by
  intro a b _ _ x y heq
  rw [List.append_assoc, List.append_assoc] at heq
  obtain ⟨htext, hrest⟩ := append_separator_eq (notMem_decimalBytes hseparator a)
    (notMem_decimalBytes hseparator b) heq
  exact ⟨decimalBytes_injective htext, hrest⟩

end Framing
