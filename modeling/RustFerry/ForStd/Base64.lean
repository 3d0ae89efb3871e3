import Mathlib.Data.List.Basic
import Mathlib.Data.UInt

/-!
# Base64

The encoding of bytes by four letters for three bytes, with padding, and its inverse. A text is read
only if it is what some bytes are encoded to: padding stands at the end, and the bits that it leaves
over are zero.
-/

namespace Base64

/-- The letter of a number below 64. -/
def letter (n : Nat) : UInt8 :=
  if n < 26 then UInt8.ofNat (n + 65)
  else if n < 52 then UInt8.ofNat (n + 71)
  else if n < 62 then UInt8.ofNat (n - 4)
  else if n = 62 then 43
  else 47

/-- The padding character. -/
def pad : UInt8 := 61

/-- The canonical encoding. -/
def encode : List UInt8 → List UInt8
  | [] => []
  | [a] => [letter (a.toNat / 4), letter (a.toNat % 4 * 16), pad, pad]
  | [a, b] =>
    [letter (a.toNat / 4), letter (a.toNat % 4 * 16 + b.toNat / 16), letter (b.toNat % 16 * 4), pad]
  | a :: b :: c :: rest =>
    letter (a.toNat / 4) :: letter (a.toNat % 4 * 16 + b.toNat / 16) ::
      letter (b.toNat % 16 * 4 + c.toNat / 64) :: letter (c.toNat % 64) :: encode rest

/-- The value of a letter. -/
def value (byte : UInt8) : Option Nat :=
  if 65 ≤ byte.toNat ∧ byte.toNat ≤ 90 then some (byte.toNat - 65)
  else if 97 ≤ byte.toNat ∧ byte.toNat ≤ 122 then some (byte.toNat - 71)
  else if 48 ≤ byte.toNat ∧ byte.toNat ≤ 57 then some (byte.toNat + 4)
  else if byte = 43 then some 62
  else if byte = 47 then some 63
  else none

theorem value_letter : ∀ n < 64, value (letter n) = some n := by decide

theorem letter_ne_pad : ∀ n < 64, letter n ≠ pad := by decide

/-- A letter has a value below 64, whose letter it is. -/
theorem letter_of_value {byte : UInt8} {n : Nat} (h : value byte = some n) :
    n < 64 ∧ letter n = byte := by
  unfold value at h
  split_ifs at h with hupper hlower hdigit hplus hslash <;> simp only [Option.some.injEq] at h
  all_goals subst h
  · apply And.intro (by omega)
    unfold letter
    rw [if_pos (by omega), Nat.sub_add_cancel hupper.1, UInt8.ofNat_toNat]
  · apply And.intro (by omega)
    unfold letter
    rw [if_neg (by omega), if_pos (by omega), Nat.sub_add_cancel (by omega), UInt8.ofNat_toNat]
  · apply And.intro (by omega)
    unfold letter
    rw [if_neg (by omega), if_neg (by omega), if_pos (by omega), Nat.add_sub_cancel,
      UInt8.ofNat_toNat]
  · exact ⟨by decide, hplus ▸ rfl⟩
  · exact ⟨by decide, hslash ▸ rfl⟩

theorem encode_ne_nil {bytes : List UInt8} (h : bytes ≠ []) : encode bytes ≠ [] := by
  unfold encode
  split <;> simp_all

/-- The first four letters are those of up to three bytes, and of three if more follow. -/
theorem encode_eq_cons {bytes rest : List UInt8} {first second third fourth : UInt8}
    (h : encode bytes = first :: second :: third :: fourth :: rest) :
    ∃ chunk more, bytes = chunk ++ more ∧ encode chunk = [first, second, third, fourth] ∧
      encode more = rest ∧ (rest = [] ∨ chunk.length = 3) := by
  obtain _ | ⟨a, _ | ⟨b, _ | ⟨c, more⟩⟩⟩ := bytes
  · cases h
  · simp only [encode, List.cons.injEq] at h
    obtain ⟨rfl, rfl, rfl, rfl, rfl⟩ := h
    exact ⟨[a], [], rfl, rfl, rfl, .inl rfl⟩
  · simp only [encode, List.cons.injEq] at h
    obtain ⟨rfl, rfl, rfl, rfl, rfl⟩ := h
    exact ⟨[a, b], [], rfl, rfl, rfl, .inl rfl⟩
  · simp only [encode, List.cons.injEq] at h
    obtain ⟨rfl, rfl, rfl, rfl, rfl⟩ := h
    exact ⟨[a, b, c], more, rfl, rfl, rfl, .inr rfl⟩

/-- Three bytes make four letters. -/
theorem length_encode (bytes : List UInt8) :
    (encode bytes).length = (bytes.length + 2) / 3 * 4 := by
  fun_induction encode bytes with
  | case1 => rfl
  | case2 => simp
  | case3 => simp
  | case4 a b c rest ih =>
    simp only [List.length_cons, ih]
    omega

end Base64
