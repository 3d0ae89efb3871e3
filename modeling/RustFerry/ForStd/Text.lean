import Mathlib.Data.List.Basic
import Mathlib.Data.UInt

/-!
# Text operations

The string operations of the Rust standard library that the inspectors use, on
lists of characters. Upper and lower case are ASCII only.
-/

namespace Text

/-- `char::is_control`: Unicode category Cc. -/
def isControl (c : Char) : Bool := c.toNat < 0x20 || (0x7f ≤ c.toNat && c.toNat ≤ 0x9f)

/-- `char::is_whitespace`: the `White_Space` property. -/
def isWhitespace (c : Char) : Bool :=
  (0x09 ≤ c.toNat && c.toNat ≤ 0x0d) || c.toNat == 0x20 || c.toNat == 0x85 ||
    c.toNat == 0xa0 || c.toNat == 0x1680 || (0x2000 ≤ c.toNat && c.toNat ≤ 0x200a) ||
    c.toNat == 0x2028 || c.toNat == 0x2029 || c.toNat == 0x202f || c.toNat == 0x205f ||
    c.toNat == 0x3000

/-- `text.trim().is_empty()`. -/
def isBlank (text : List Char) : Bool := text.all isWhitespace

/-- `text.as_bytes()`. -/
def utf8 (text : String) : List UInt8 := text.toByteArray.data.toList

/-- `str::from_utf8(bytes)`. -/
def fromUtf8 (bytes : List UInt8) : Option String := String.fromUTF8? ⟨bytes.toArray⟩

/-- `text.split(separator)`. -/
def split (separator : Char) (text : List Char) : List (List Char) :=
  text.splitOnP (· == separator)

/-- `text.rsplit_once(separator)`: what stands before and after the last separator. -/
def rsplitOnce (separator : Char) (text : List Char) : Option (List Char × List Char) :=
  match text with
  | [] => none
  | c :: rest =>
    match rsplitOnce separator rest with
    | some (front, back) => some (c :: front, back)
    | none => if c = separator then some ([], rest) else none

/-- `left.eq_ignore_ascii_case(right)`. -/
def eqIgnoreAsciiCase (left right : List Char) : Bool :=
  left.map Char.toLower == right.map Char.toLower

/-- `text.strip_prefix(front)`. -/
def stripFront (front text : List Char) : Option (List Char) :=
  if front.isPrefixOf text then some (text.drop front.length) else none

/-- `text.trim_end_matches(back)`: the suffix is removed as often as it is there. -/
def trimEndMatches (back : List Char) : (fuel : Nat) → List Char → List Char
  | 0, text => text
  | fuel + 1, text =>
    if back.isSuffixOf text then trimEndMatches back fuel (text.take (text.length - back.length))
    else text

/-- The path without its last component; the model's paths have no empty components. -/
def parent (path : List Char) : List Char :=
  match rsplitOnce '/' path with
  | some (front, _) => front
  | none => []

/-- The last component of a path. -/
def fileName (path : List Char) : List Char :=
  match rsplitOnce '/' path with
  | some (_, back) => back
  | none => path

/-- `has_ascii_extension`: the text after the last dot, up to ASCII case. -/
def hasAsciiExtension (path expected : List Char) : Bool :=
  match rsplitOnce '.' path with
  | some (_, ext) => eqIgnoreAsciiCase ext expected
  | none => false

/-- Decimal value of a nonempty run of ASCII digits below `bound`. -/
def parseDigits (bound : Nat) (digits : List Char) : Option Nat :=
  if digits.isEmpty || !digits.all Char.isDigit then none
  else
    let n := digits.foldl (fun n c => n * 10 + (c.toNat - 48)) 0
    if n < bound then some n else none

/-! ## Lemmas -/

/-- The last separator splits. -/
theorem rsplitOnce_append {separator : Char} {back : List Char} (hback : separator ∉ back)
    (front : List Char) :
    rsplitOnce separator (front ++ separator :: back) = some (front, back) := by
  have hnone : rsplitOnce separator back = none := by
    induction back with
    | nil => rfl
    | cons c back ih =>
      rw [rsplitOnce, ih fun h => hback (List.mem_cons_of_mem _ h)]
      have hne : c ≠ separator := by rintro rfl; exact hback List.mem_cons_self
      simp [hne]
  induction front with
  | nil => rw [List.nil_append, rsplitOnce, hnone]; simp
  | cons c front ih => rw [List.cons_append, rsplitOnce, ih]

/-- Trimming a text that ends in `back` exactly once. -/
theorem trimEndMatches_append {back front : List Char} (hfront : ¬ back <:+ front) {fuel : Nat}
    (hfuel : 2 ≤ fuel) : trimEndMatches back fuel (front ++ back) = front := by
  obtain ⟨fuel, rfl⟩ : ∃ k, fuel = k + 2 := ⟨fuel - 2, by omega⟩
  have hsuffix : back.isSuffixOf (front ++ back) = true := by
    rw [List.isSuffixOf_iff_suffix]
    exact List.suffix_append front back
  have hstop : back.isSuffixOf front = false := by
    rw [Bool.eq_false_iff, Ne, List.isSuffixOf_iff_suffix]
    exact hfront
  rw [trimEndMatches, hsuffix, if_pos rfl]
  simp only [List.length_append, Nat.add_sub_cancel, List.take_left']
  rw [trimEndMatches, hstop]
  rfl

theorem utf8_ofList (text : List Char) :
    utf8 (String.ofList text) = text.flatMap String.utf8EncodeChar := by
  simp [utf8, List.utf8Encode]

theorem fromUtf8_utf8 (text : String) : fromUtf8 (utf8 text) = some text := by
  have hbytes : (⟨(utf8 text).toArray⟩ : ByteArray) = text.toByteArray := by
    rw [utf8, Array.toArray_toList]
  rw [fromUtf8, hbytes, String.fromUTF8?, dif_pos text.isValidUTF8]
  rfl

theorem length_utf8 (text : String) : (utf8 text).length = text.utf8ByteSize := by
  rw [utf8, Array.length_toList]
  rfl

theorem utf8_injective : Function.Injective utf8 := by
  intro a b h
  apply String.toByteArray_inj.mp
  exact ByteArray.ext (Array.toList_inj.mp h)

end Text
