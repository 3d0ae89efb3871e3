import Mathlib.Tactic.Ring
import RustFerry.ForStd.JsonRoundtrip
import RustFerry.ForStd.Utf8

/-!
# Decimal texts of one width

Texts of digits of the same length are ordered as the numbers that they denote, and determined by
them.
-/

namespace Json

/-- A text of digits. -/
def IsDigits (text : List Char) : Prop := ∀ c ∈ text, c.isDigit = true

theorem IsDigits.head {c : Char} {text : List Char} (h : IsDigits (c :: text)) : c.isDigit = true :=
  h c List.mem_cons_self

theorem IsDigits.tail {c : Char} {text : List Char} (h : IsDigits (c :: text)) : IsDigits text :=
  fun d hd => h d (List.mem_cons_of_mem _ hd)

/-- The code and the value of a digit. -/
theorem toNat_of_isDigit {c : Char} (h : c.isDigit = true) :
    c.toNat = 48 + digitValue c ∧ digitValue c ≤ 9 := by
  simp only [Char.isDigit, Bool.and_eq_true, decide_eq_true_eq, UInt32.le_iff_toNat_le] at h
  obtain ⟨hlow, hhigh⟩ := h
  have hlow' : 48 ≤ c.toNat := hlow
  have hhigh' : c.toNat ≤ 57 := hhigh
  unfold digitValue
  omega

/-- The fold from any start. -/
theorem foldl_ofDigits (text : List Char) (n : Nat) :
    text.foldl (fun n c => n * 10 + digitValue c) n = n * 10 ^ text.length + ofDigits text := by
  induction text generalizing n with
  | nil => simp [ofDigits]
  | cons c rest ih =>
    rw [ofDigits, List.foldl_cons, List.foldl_cons, ih, ih (0 * 10 + digitValue c)]
    rw [List.length_cons, Nat.pow_succ]
    ring

theorem ofDigits_cons (c : Char) (text : List Char) :
    ofDigits (c :: text) = digitValue c * 10 ^ text.length + ofDigits text := by
  rw [ofDigits, List.foldl_cons, foldl_ofDigits]
  simp

/-- A bound by the width. -/
theorem ofDigits_lt {text : List Char} (h : IsDigits text) : ofDigits text < 10 ^ text.length := by
  induction text with
  | nil => decide
  | cons c rest ih =>
    have hrest := ih h.tail
    have hdigit := (toNat_of_isDigit h.head).2
    have hle : digitValue c * 10 ^ rest.length ≤ 9 * 10 ^ rest.length :=
      Nat.mul_le_mul_right _ hdigit
    rw [ofDigits_cons, List.length_cons, Nat.pow_succ]
    omega

/-- Digits are ordered by value. -/
theorem lt_iff_digitValue {c d : Char} (hc : c.isDigit = true) (hd : d.isDigit = true) :
    c < d ↔ digitValue c < digitValue d := by
  obtain ⟨hcode, _⟩ := toNat_of_isDigit hc
  obtain ⟨hcode', _⟩ := toNat_of_isDigit hd
  rw [Char.lt_def, UInt32.lt_iff_toNat_lt]
  show c.toNat < d.toNat ↔ _
  omega

/-- A digit is known by its value. -/
theorem eq_of_digitValue {c d : Char} (hc : c.isDigit = true) (hd : d.isDigit = true)
    (h : digitValue c = digitValue d) : c = d := by
  obtain ⟨hcode, _⟩ := toNat_of_isDigit hc
  obtain ⟨hcode', _⟩ := toNat_of_isDigit hd
  exact Char.toNat_inj.mp (by omega)

/-- Equal numbers have equal first digits and equal rests. -/
theorem ofDigits_inj {a b : List Char} (ha : IsDigits a) (hb : IsDigits b)
    (hlength : a.length = b.length) (h : ofDigits a = ofDigits b) : a = b := by
  induction a generalizing b with
  | nil =>
    cases b with
    | nil => rfl
    | cons d rest => simp at hlength
  | cons c rest ih =>
    cases b with
    | nil => simp at hlength
    | cons d rest' =>
      have hlen : rest.length = rest'.length := by simpa using hlength
      have hlt := ofDigits_lt ha.tail
      have hlt' := ofDigits_lt hb.tail
      rw [ofDigits_cons, ofDigits_cons, hlen] at h
      rw [hlen] at hlt
      have hhead : digitValue c = digitValue d := by
        have hdiv := congrArg (· / 10 ^ rest'.length) h
        have hpos : 0 < 10 ^ rest'.length := Nat.pow_pos (by decide)
        simp only [Nat.mul_comm _ (10 ^ rest'.length), Nat.mul_add_div hpos,
          Nat.div_eq_of_lt hlt, Nat.div_eq_of_lt hlt', Nat.add_zero] at hdiv
        exact hdiv
      rw [eq_of_digitValue ha.head hb.head hhead, ih ha.tail hb.tail hlen (by rw [hhead] at h; omega)]

/-- Texts of one width are ordered by value. -/
theorem lt_iff_ofDigits_lt {a b : List Char} (ha : IsDigits a) (hb : IsDigits b)
    (hlength : a.length = b.length) : a < b ↔ ofDigits a < ofDigits b := by
  induction a generalizing b with
  | nil =>
    cases b with
    | nil => simp [ofDigits]
    | cons d rest => simp at hlength
  | cons c rest ih =>
    cases b with
    | nil => simp at hlength
    | cons d rest' =>
      have hlen : rest.length = rest'.length := by simpa using hlength
      have hlt := ofDigits_lt ha.tail
      have hlt' := ofDigits_lt hb.tail
      rw [hlen] at hlt
      rw [List.cons_lt_cons_iff, ofDigits_cons, ofDigits_cons, hlen, ih ha.tail hb.tail hlen,
        lt_iff_digitValue ha.head hb.head]
      -- The first digit decides, as the rest is smaller than one of its units.
      constructor
      · intro h
        obtain hless | ⟨rfl, hrest⟩ := h
        · have hstep : (digitValue c + 1) * 10 ^ rest'.length ≤ digitValue d * 10 ^ rest'.length :=
            Nat.mul_le_mul_right _ hless
          rw [Nat.add_mul] at hstep
          omega
        · omega
      · intro h
        by_cases hless : digitValue c < digitValue d
        · exact .inl hless
        · right
          by_cases heq : digitValue c = digitValue d
          · exact ⟨eq_of_digitValue ha.head hb.head heq, by rw [heq] at h; omega⟩
          · have hstep : (digitValue d + 1) * 10 ^ rest'.length ≤
                digitValue c * 10 ^ rest'.length := Nat.mul_le_mul_right _ (by omega)
            rw [Nat.add_mul] at hstep
            omega

/-- Texts that begin with parts of one length are compared part by part. -/
theorem append_lt_append_iff {a b x y : List Char} (hlength : a.length = b.length) :
    a ++ x < b ++ y ↔ a < b ∨ (a = b ∧ x < y) := by
  induction a generalizing b with
  | nil =>
    obtain rfl : b = [] := by simpa [eq_comm] using hlength
    simp
  | cons c rest ih =>
    cases b with
    | nil => simp at hlength
    | cons d rest' =>
      have hlen : rest.length = rest'.length := by simpa using hlength
      simp only [List.cons_append, List.cons_lt_cons_iff, ih hlen, List.cons.injEq]
      tauto

end Json
