import Mathlib.Data.List.Infix

/-!
# Segment traces of a replacing scan

A scanner that walks over a list and either keeps an element or replaces a
nonempty run of elements by a fixed marker leaves a list of segments behind.
`Segment.source` gives the input back, `Segment.render` the output.
-/

variable {α : Type}

/-- One decision of a replacing scan. -/
inductive Segment (α : Type) where
  | kept (a : α)
  | replaced (run : List α)
  deriving DecidableEq

namespace Segment

/-- The input elements a segment stands for. -/
def input : Segment α → List α
  | kept a => [a]
  | replaced run => run

/-- The output elements a segment stands for. -/
def output (marker : List α) : Segment α → List α
  | kept a => [a]
  | replaced _ => marker

/-- The scanned input of a trace. -/
def source (segments : List (Segment α)) : List α :=
  segments.flatMap input

/-- The output of a trace. -/
def render (marker : List α) (segments : List (Segment α)) : List α :=
  segments.flatMap (output marker)

/-- Input position `p` lies in a run that was replaced by the marker. -/
def ReplacedAt (segments : List (Segment α)) (p : Nat) : Prop :=
  ∃ before run after, segments = before ++ replaced run :: after ∧
    (source before).length ≤ p ∧ p < (source before).length + run.length

/-- Input position `p` lies in a replaced run that begins before `p`. -/
def InsideReplaced (segments : List (Segment α)) (p : Nat) : Prop :=
  ∃ before run after, segments = before ++ replaced run :: after ∧
    (source before).length < p ∧ p < (source before).length + run.length

/-- The input element at position `p` was kept. -/
def KeptAt (segments : List (Segment α)) (p : Nat) : Prop :=
  ∃ before a after, segments = before ++ kept a :: after ∧ p = (source before).length

@[simp] theorem source_nil : source ([] : List (Segment α)) = [] := rfl

@[simp] theorem source_cons (s : Segment α) (rest : List (Segment α)) :
    source (s :: rest) = s.input ++ source rest := by
  simp [source]

@[simp] theorem source_append (a b : List (Segment α)) :
    source (a ++ b) = source a ++ source b := by
  simp [source]

@[simp] theorem render_nil (marker : List α) : render marker [] = [] := rfl

@[simp] theorem render_cons (marker : List α) (s : Segment α) (rest : List (Segment α)) :
    render marker (s :: rest) = s.output marker ++ render marker rest := by
  simp [render]

@[simp] theorem render_append (marker : List α) (a b : List (Segment α)) :
    render marker (a ++ b) = render marker a ++ render marker b := by
  simp [render]

/-! ## Positions -/

theorem ReplacedAt.head (run : List α) (rest : List (Segment α)) {p : Nat}
    (hp : p < run.length) : ReplacedAt (replaced run :: rest) p :=
  ⟨[], run, rest, rfl, Nat.zero_le p, by simpa using hp⟩

/-- In a later run. -/
theorem ReplacedAt.tail (s : Segment α) {rest : List (Segment α)} {p : Nat}
    (h : ReplacedAt rest p) : ReplacedAt (s :: rest) (s.input.length + p) := by
  obtain ⟨before, run, after, rfl, hle, hlt⟩ := h
  refine ⟨s :: before, run, after, rfl, ?_, ?_⟩
  · simp only [source_cons, List.length_append]; omega
  · simp only [source_cons, List.length_append]; omega

theorem InsideReplaced.head (run : List α) (rest : List (Segment α)) {p : Nat}
    (hpos : 0 < p) (hp : p < run.length) : InsideReplaced (replaced run :: rest) p :=
  ⟨[], run, rest, rfl, hpos, by simpa using hp⟩

/-- In a later run. -/
theorem InsideReplaced.tail (s : Segment α) {rest : List (Segment α)} {p : Nat}
    (h : InsideReplaced rest p) : InsideReplaced (s :: rest) (s.input.length + p) := by
  obtain ⟨before, run, after, rfl, hle, hlt⟩ := h
  refine ⟨s :: before, run, after, rfl, ?_, ?_⟩
  · simp only [source_cons, List.length_append]; omega
  · simp only [source_cons, List.length_append]; omega

theorem KeptAt.tail (s : Segment α) {rest : List (Segment α)} {p : Nat}
    (h : KeptAt rest p) : KeptAt (s :: rest) (s.input.length + p) := by
  obtain ⟨before, a, after, rfl, rfl⟩ := h
  exact ⟨s :: before, a, after, rfl, by simp⟩

/-- A position is never both kept and replaced. -/
theorem KeptAt.not_replacedAt {segments : List (Segment α)} {p : Nat}
    (hk : KeptAt segments p) : ¬ ReplacedAt segments p := by
  rintro ⟨before', run, after', h', hle, hlt⟩
  obtain ⟨before, a, after, rfl, rfl⟩ := hk
  -- compare the two ways of cutting the trace at position `p`
  rcases List.append_eq_append_iff.mp h' with ⟨mid, rfl, hmid⟩ | ⟨mid, rfl, hmid⟩
  · cases mid with
    | nil => simp at hmid
    | cons s mid =>
      obtain ⟨rfl, -⟩ := List.cons.inj hmid
      simp only [source_append, source_cons, input, List.length_append, List.length_singleton] at hle
      omega
  · cases mid with
    | nil => simp at hmid
    | cons s mid =>
      obtain ⟨rfl, -⟩ := List.cons.inj hmid
      simp only [source_append, source_cons, input, List.length_append] at hlt
      omega

/-! ## Words of the output -/

/-- A marker-free prefix of the output is a prefix of the input. -/
private theorem prefix_source_of_prefix_render {marker word : List α}
    (hmarker : marker ≠ []) (hfree : ∀ a ∈ word, a ∉ marker) (segments : List (Segment α))
    (h : word <+: render marker segments) : word <+: source segments := by
  induction segments generalizing word with
  | nil => simpa using h
  | cons s rest ih =>
    cases word with
    | nil => exact List.nil_prefix
    | cons w word =>
      cases s with
      | kept a =>
        simp only [render_cons, output, List.singleton_append, List.cons_prefix_cons] at h
        obtain ⟨rfl, h⟩ := h
        have hrest := ih (fun a ha => hfree a (List.mem_cons_of_mem _ ha)) h
        simpa [input] using hrest
      | replaced run =>
        -- the first element of the word would be the first marker element
        obtain ⟨m, marker', rfl⟩ := List.exists_cons_of_ne_nil hmarker
        simp only [render_cons, output, List.cons_append, List.cons_prefix_cons] at h
        exact absurd (by simp [h.1]) (hfree w List.mem_cons_self)

/-- A nonempty marker-free word of the output sits in the input at a position
    whose element was kept. -/
theorem exists_kept_of_infix_render {marker word : List α} (hmarker : marker ≠ [])
    (hword : word ≠ []) (hfree : ∀ a ∈ word, a ∉ marker) (segments : List (Segment α))
    (h : word <:+: render marker segments) :
    ∃ p, KeptAt segments p ∧ word <+: (source segments).drop p := by
  obtain ⟨front, back, h⟩ := h
  induction segments generalizing front with
  | nil => simp at h; exact absurd h.2.1 hword
  | cons s rest ih =>
    cases s with
    | kept a =>
      cases front with
      | nil =>
        -- the word starts at this very segment
        refine ⟨0, ⟨[], a, rest, rfl, rfl⟩, ?_⟩
        rw [List.drop_zero]
        apply prefix_source_of_prefix_render hmarker hfree
        exact ⟨back, by simpa using h⟩
      | cons f front =>
        simp only [render_cons, output, List.cons_append, List.cons.injEq,
          List.nil_append] at h
        obtain ⟨p, hkept, hp⟩ := ih front h.2
        refine ⟨1 + p, hkept.tail (kept a), ?_⟩
        rw [Nat.add_comm]
        simpa [input] using hp
    | replaced run =>
      -- the marker has to be part of what precedes the word
      simp only [render_cons, output, List.append_assoc] at h
      rcases List.append_eq_append_iff.mp h with ⟨mid, hm, hrest⟩ | ⟨mid, rfl, hrest⟩
      · cases mid with
        | nil =>
          obtain ⟨p, hkept, hp⟩ := ih [] (by simpa using hrest)
          exact ⟨run.length + p, hkept.tail (replaced run), by simpa [input] using hp⟩
        | cons m mid =>
          obtain ⟨w, word', rfl⟩ := List.exists_cons_of_ne_nil hword
          simp only [List.cons_append, List.cons.injEq] at hrest
          exact absurd (by simp [hm, hrest.1]) (hfree w List.mem_cons_self)
      · obtain ⟨p, hkept, hp⟩ := ih mid (by simpa using hrest.symm)
        exact ⟨run.length + p, hkept.tail (replaced run), by simpa [input] using hp⟩

end Segment
