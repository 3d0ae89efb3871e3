import Mathlib.Data.List.TakeWhile
import RustFerry.ForStd.Text

/-!
# Words of a text

The texts between separators, without the empty ones, and texts without their white space at both
ends.
-/

namespace Text

/-- The nonempty texts between separators. -/
def words (isSeparator : Char → Bool) (text : List Char) : List (List Char) :=
  (text.splitOnP isSeparator).filter (!·.isEmpty)

/-- `text.trim()`. -/
def trim (text : List Char) : List Char :=
  (text.dropWhile isWhitespace).reverse.dropWhile isWhitespace |>.reverse

/-- The front is taken off. -/
theorem stripFront_eq_some {front text rest : List Char} :
    stripFront front text = some rest ↔ text = front ++ rest := by
  unfold stripFront
  constructor
  · intro h
    split at h
    · rename_i hfront
      cases h
      exact (List.prefix_iff_eq_append.mp (List.isPrefixOf_iff_prefix.mp hfront)).symm
    · cases h
  · intro h
    rw [h, if_pos (List.isPrefixOf_iff_prefix.mpr (List.prefix_append _ _)), List.drop_left]

section

variable {isSeparator : Char → Bool}

theorem words_cons_separator {c : Char} (hc : isSeparator c = true) (rest : List Char) :
    words isSeparator (c :: rest) = words isSeparator rest := by
  simp [words, List.splitOnP_cons_eq_if_modifyHead, hc]

/-- The first word ends at the first separator after it. -/
theorem words_append {word : List Char} (hne : word ≠ [])
    (hfree : ∀ c ∈ word, isSeparator c = false) {c : Char} (hc : isSeparator c = true)
    (rest : List Char) : words isSeparator (word ++ c :: rest) = word :: words isSeparator rest := by
  have hsplit : (word ++ c :: rest).splitOnP isSeparator = word :: rest.splitOnP isSeparator :=
    List.splitOnP_append_cons_of_forall_mem hfree c hc rest
  simp [words, hsplit, hne]

end

/-- A text is trimmed up to its first and its last character that is no white space. -/
theorem trim_append {front text back : List Char} (hfront : ∀ c ∈ front, isWhitespace c = true)
    (hback : ∀ c ∈ back, isWhitespace c = true)
    (hhead : ∀ c ∈ text.head?, isWhitespace c = false)
    (hlast : ∀ c ∈ text.getLast?, isWhitespace c = false) :
    trim (front ++ (text ++ back)) = text := by
  have hdrop : ∀ {blank rest : List Char}, (∀ c ∈ blank, isWhitespace c = true) →
      (blank ++ rest).dropWhile isWhitespace = rest.dropWhile isWhitespace := by
    intro blank rest hblank
    rw [List.dropWhile_append_of_pos hblank]
  have hkeep : ∀ {rest : List Char}, (∀ c ∈ rest.head?, isWhitespace c = false) →
      rest.dropWhile isWhitespace = rest := by
    intro rest hrest
    cases rest with
    | nil => rfl
    | cons c rest => simp [hrest c rfl]
  cases text with
  | nil =>
    have hall : (front ++ ([] ++ back)).dropWhile isWhitespace = [] := by
      rw [hdrop hfront, List.nil_append]
      exact List.dropWhile_eq_nil_iff.mpr hback
    rw [trim, hall]
    rfl
  | cons c rest =>
    have hfirst : isWhitespace c = false := hhead c rfl
    have hstart : (front ++ (c :: rest ++ back)).dropWhile isWhitespace = c :: rest ++ back := by
      rw [hdrop hfront]
      exact hkeep (by simpa using hfirst)
    have hend : ∀ d ∈ (c :: rest).reverse.head?, isWhitespace d = false := by
      rw [List.head?_reverse]
      exact hlast
    rw [trim, hstart, List.reverse_append, hdrop (by simpa using hback), hkeep hend,
      List.reverse_reverse]

end Text
