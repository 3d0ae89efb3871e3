import Mathlib.Data.Nat.Basic
import Mathlib.Data.UInt

/-!
# Fixed-width big-endian integers

`toBytes width n` is the `width`-byte big-endian encoding of `n`, `ofBytes` the
number a byte string denotes. The two are inverse to each other below
`256 ^ width` and on strings of length `width`.
-/

namespace BigEndian

/-- The `width` big-endian bytes of `n`; bits above `8 * width` are dropped. -/
def toBytes : Nat → Nat → List UInt8
  | 0, _ => []
  | width + 1, n => UInt8.ofNat (n / 256 ^ width) :: toBytes width n

/-- The number denoted by a big-endian byte string. -/
def ofBytes : List UInt8 → Nat
  | [] => 0
  | b :: rest => b.toNat * 256 ^ rest.length + ofBytes rest

@[simp] theorem length_toBytes (width n : Nat) : (toBytes width n).length = width := by
  induction width with
  | zero => rfl
  | succ width ih => simp [toBytes, ih]

/-- A number fits in its bytes. -/
theorem ofBytes_lt (bytes : List UInt8) : ofBytes bytes < 256 ^ bytes.length := by
  induction bytes with
  | nil => simp [ofBytes]
  | cons b rest ih =>
    have hb : b.toNat + 1 ≤ 256 := b.toNat_lt
    calc ofBytes (b :: rest)
        < b.toNat * 256 ^ rest.length + 256 ^ rest.length := by
          simp only [ofBytes]; omega
      _ = (b.toNat + 1) * 256 ^ rest.length := by rw [Nat.succ_mul]
      _ ≤ 256 * 256 ^ rest.length := Nat.mul_le_mul_right _ hb
      _ = 256 ^ (b :: rest).length := by rw [List.length_cons, Nat.pow_succ, Nat.mul_comm]

/-- Decoding the encoding keeps the low `8 * width` bits. -/
theorem ofBytes_toBytes (width n : Nat) : ofBytes (toBytes width n) = n % 256 ^ width := by
  induction width with
  | zero => simp [toBytes, ofBytes, Nat.mod_one]
  | succ width ih =>
    have hbyte : (UInt8.ofNat (n / 256 ^ width)).toNat = n / 256 ^ width % 256 := by
      simp
    rw [toBytes, ofBytes, ih, length_toBytes, hbyte, Nat.mod_pow_succ, Nat.mul_comm, Nat.add_comm]

theorem ofBytes_toBytes_of_lt {width n : Nat} (h : n < 256 ^ width) :
    ofBytes (toBytes width n) = n := by
  rw [ofBytes_toBytes, Nat.mod_eq_of_lt h]

/-- The encoding only reads the low `8 * width` bits. -/
private theorem toBytes_add_mul (width n k : Nat) :
    toBytes width (k * 256 ^ width + n) = toBytes width n := by
  induction width generalizing k with
  | zero => rfl
  | succ width ih =>
    have hsplit : k * 256 ^ (width + 1) + n = k * 256 * 256 ^ width + n := by
      rw [Nat.pow_succ, Nat.mul_comm (256 ^ width), Nat.mul_assoc]
    have hdiv : (k * 256 ^ (width + 1) + n) / 256 ^ width = n / 256 ^ width + k * 256 := by
      rw [hsplit, Nat.add_comm, Nat.add_mul_div_right _ _ (Nat.pow_pos (by decide))]
    have hhead : UInt8.ofNat (n / 256 ^ width + k * 256) = UInt8.ofNat (n / 256 ^ width) := by
      apply UInt8.toNat_inj.mp
      simp
    rw [toBytes, toBytes, hdiv, hhead, hsplit, ih]

/-- Encoding the value of a byte string gives the string back. -/
theorem toBytes_ofBytes (bytes : List UInt8) : toBytes bytes.length (ofBytes bytes) = bytes := by
  induction bytes with
  | nil => rfl
  | cons b rest ih =>
    have hdiv : (b.toNat * 256 ^ rest.length + ofBytes rest) / 256 ^ rest.length = b.toNat := by
      rw [Nat.add_comm, Nat.add_mul_div_right _ _ (Nat.pow_pos (by decide)),
        Nat.div_eq_of_lt (ofBytes_lt rest), Nat.zero_add]
    rw [List.length_cons, toBytes, ofBytes, hdiv, toBytes_add_mul, ih, UInt8.ofNat_toNat]

end BigEndian
