import RustFerry.ForStd.Text

/-!
# Lines of a text that arrives in pieces

The lines of a text that are complete, and the last one, which is not; and decoders whose output
does not depend on how their input is cut.
-/

namespace Text

/-- The lines that end in a line feed, without it. -/
def lines (text : List Char) : List (List Char) := (split '\n' text).dropLast

/-- `text.split_inclusive('\n')`: the lines with their line feed. -/
def splitInclusive : List Char → List (List Char)
  | [] => []
  | c :: rest =>
    if c = '\n' then ['\n'] :: splitInclusive rest
    else
      match splitInclusive rest with
      | [] => [[c]]
      | line :: lines => (c :: line) :: lines

/-- What follows the last line feed. -/
def lastLine (text : List Char) : List Char := (split '\n' text).getLastD []

section

variable {line rest : List Char}

/-- A text without a newline is one piece. -/
theorem split_of_free (h : '\n' ∉ line) : split '\n' line = [line] := by
  apply List.splitOnP_eq_singleton
  intro c hc
  rw [beq_eq_false_iff_ne]
  intro heq
  exact h (heq ▸ hc)

/-- The first line is split off. -/
theorem split_append_newline (h : '\n' ∉ line) (rest : List Char) :
    split '\n' (line ++ '\n' :: rest) = line :: split '\n' rest := by
  apply List.splitOnP_append_cons_of_forall_mem
  · intro c hc
    rw [beq_eq_false_iff_ne]
    intro heq
    exact h (heq ▸ hc)
  · rfl

theorem lines_of_free (h : '\n' ∉ line) : lines line = [] := by
  rw [lines, split_of_free h]
  rfl

theorem lastLine_of_free (h : '\n' ∉ line) : lastLine line = line := by
  rw [lastLine, split_of_free h]
  rfl

/-- The first line comes first. -/
theorem lines_append_newline (h : '\n' ∉ line) (rest : List Char) :
    lines (line ++ '\n' :: rest) = line :: lines rest := by
  have hne : split '\n' rest ≠ [] := List.splitOnP_ne_nil _ _
  rw [lines, split_append_newline h, List.dropLast_cons_of_ne_nil hne]
  rfl

/-- The rest is that of what follows. -/
theorem lastLine_append_newline (h : '\n' ∉ line) (rest : List Char) :
    lastLine (line ++ '\n' :: rest) = lastLine rest := by
  have hne : split '\n' rest ≠ [] := List.splitOnP_ne_nil _ _
  rw [lastLine, lastLine, split_append_newline h]
  cases hsplit : split '\n' rest with
  | nil => exact absurd hsplit hne
  | cons first others => rfl

end

/-- A text without a line feed, or its first line and the rest. -/
theorem newline_cases (text : List Char) :
    '\n' ∉ text ∨ ∃ line rest, '\n' ∉ line ∧ text = line ++ '\n' :: rest := by
  by_cases h : '\n' ∈ text
  · obtain ⟨line, rest, htext, hline⟩ := List.eq_append_cons_of_mem h
    exact Or.inr ⟨line, rest, hline, htext⟩
  · exact Or.inl h

/-- Lines of a concatenation, and its rest. -/
theorem append_spec (a b : List Char) :
    lines (a ++ b) = lines a ++ lines (lastLine a ++ b) ∧
      lastLine (a ++ b) = lastLine (lastLine a ++ b) ∧ '\n' ∉ lastLine a := by
  induction hlength : a.length using Nat.strongRecOn generalizing a with
  | _ n ih =>
    cases newline_cases a with
    | inl hfree =>
      rw [lines_of_free hfree, lastLine_of_free hfree]
      exact ⟨rfl, rfl, hfree⟩
    | inr hline =>
      obtain ⟨line, rest, hline, rfl⟩ := hline
      have hshort : rest.length < n := by
        rw [← hlength, List.length_append, List.length_cons]
        omega
      obtain ⟨hlines, hlast, hfree⟩ := ih rest.length hshort rest rfl
      rw [lines_append_newline hline, lastLine_append_newline hline, List.append_assoc,
        List.cons_append, lines_append_newline hline, lastLine_append_newline hline, hlines, hlast]
      exact ⟨rfl, rfl, hfree⟩

theorem lines_append (a b : List Char) : lines (a ++ b) = lines a ++ lines (lastLine a ++ b) :=
  (append_spec a b).1

theorem lastLine_append (a b : List Char) : lastLine (a ++ b) = lastLine (lastLine a ++ b) :=
  (append_spec a b).2.1

theorem newline_notMem_lastLine (text : List Char) : '\n' ∉ lastLine text :=
  (append_spec text []).2.2

/-- A line keeps its newline. -/
theorem splitInclusive_append_newline {line : List Char} (h : '\n' ∉ line) (rest : List Char) :
    splitInclusive (line ++ '\n' :: rest) = (line ++ ['\n']) :: splitInclusive rest := by
  induction line with
  | nil => simp [splitInclusive]
  | cons c line ih =>
    rw [List.mem_cons, not_or] at h
    rw [List.cons_append, splitInclusive, if_neg (Ne.symm h.1), ih h.2]
    rfl

/-- A last line without a newline. -/
theorem splitInclusive_of_free {line : List Char} (hne : line ≠ []) (h : '\n' ∉ line) :
    splitInclusive line = [line] := by
  induction line with
  | nil => exact absurd rfl hne
  | cons c line ih =>
    rw [List.mem_cons, not_or] at h
    rw [splitInclusive, if_neg (Ne.symm h.1)]
    cases line with
    | nil => rfl
    | cons d line => rw [ih (List.cons_ne_nil d line) h.2]

/-- Complete lines are split on their own. -/
theorem splitInclusive_append {front : List Char} (h : lastLine front = []) (back : List Char) :
    splitInclusive (front ++ back) = splitInclusive front ++ splitInclusive back := by
  induction hlength : front.length using Nat.strongRecOn generalizing front with
  | _ n ih =>
    cases newline_cases front with
    | inl hfree =>
      rw [lastLine_of_free hfree] at h
      rw [h]
      rfl
    | inr hline =>
      obtain ⟨line, rest, hline, rfl⟩ := hline
      rw [lastLine_append_newline hline] at h
      have hshort : rest.length < n := by
        rw [← hlength, List.length_append, List.length_cons]
        omega
      rw [List.append_assoc, List.cons_append, splitInclusive_append_newline hline,
        splitInclusive_append_newline hline, ih rest.length hshort h rfl, List.cons_append]

/-- The pieces make up the text. -/
theorem flatten_splitInclusive (text : List Char) : (splitInclusive text).flatten = text := by
  induction text with
  | nil => rfl
  | cons c rest ih =>
    rw [splitInclusive]
    by_cases hc : c = '\n'
    · rw [if_pos hc, List.flatten_cons, ih, hc]
      rfl
    · rw [if_neg hc]
      cases hlines : splitInclusive rest with
      | nil =>
        rw [hlines] at ih
        simp [← ih]
      | cons line lines =>
        rw [hlines] at ih
        simp [← ih]

/-! ## Decoders -/

/-- A decoder of bytes that keeps what is not complete, and writes the same text however its input
    is cut. -/
structure IncrementalDecoder where
  State : Type
  start : State
  write : State → List UInt8 → State × List Char
  finish : State → List Char
  write_nil : ∀ s, write s [] = (s, [])
  write_append : ∀ s a b, write s (a ++ b) =
    ((write (write s a).1 b).1, (write s a).2 ++ (write (write s a).1 b).2)

namespace IncrementalDecoder

/-- The texts that the decoder writes for the pieces. -/
def texts (decoder : IncrementalDecoder) : decoder.State → List (List UInt8) → List (List Char)
  | _, [] => []
  | s, chunk :: chunks => (decoder.write s chunk).2 :: texts decoder (decoder.write s chunk).1 chunks

/-- Chunks decode like their concatenation. -/
theorem flatten_texts (decoder : IncrementalDecoder) (s : decoder.State)
    (chunks : List (List UInt8)) :
    (decoder.texts s chunks).flatten = (decoder.write s chunks.flatten).2 := by
  induction chunks generalizing s with
  | nil => rw [List.flatten_nil, decoder.write_nil, texts, List.flatten_nil]
  | cons chunk chunks ih =>
    rw [texts, List.flatten_cons, ih, List.flatten_cons, decoder.write_append]

end IncrementalDecoder

end Text
