import Mathlib.Data.List.Basic
import Mathlib.Data.UInt

/-!
# Listings in pages

A service returns a listing in pages of a fixed size; a page with fewer rows is the last one. A loop
that folds over the rows of each page as it comes is a fold over the rows of the listing, followed
by what the ending of the listing calls for.
-/

namespace Paging

variable {ε α σ : Type}

/-- Why no page follows. -/
inductive Ending (ε : Type) where
  | short
  | cutOff
  | failed (error : ε)
  deriving DecidableEq

/-- The rows of the pages that were read. -/
structure Listing (ε α : Type) where
  rows : List α
  ending : Ending ε

/-- Pages from a number on, with a bound on how many. -/
def listing (perPage : Nat) (request : Nat → Except ε (List α)) : Nat → Nat → Listing ε α
  | 0, _ => ⟨[], .cutOff⟩
  | pages + 1, page =>
    match request page with
    | .error error => ⟨[], .failed error⟩
    | .ok rows =>
      if rows.length < perPage then ⟨rows, .short⟩
      else
        let rest := listing perPage request pages (page + 1)
        ⟨rows ++ rest.rows, rest.ending⟩

/-- The loop: it folds over each page, and stops at a short one. -/
def foldPages (perPage : Nat) (cutOff : ε) (request : Nat → Except ε (List α))
    (step : σ → α → Except ε σ) : Nat → Nat → σ → Except ε σ
  | 0, _, _ => throw cutOff
  | pages + 1, page, state => do
    let rows ← request page
    let state ← rows.foldlM step state
    if rows.length < perPage then pure state
    else foldPages perPage cutOff request step pages (page + 1) state

/-- What the ending makes of the state. -/
def Ending.result (cutOff : ε) (state : σ) : Ending ε → Except ε σ
  | .short => .ok state
  | .cutOff => .error cutOff
  | .failed error => .error error

/-- The loop is a fold over the rows of the listing. -/
theorem foldPages_eq (perPage : Nat) (cutOff : ε) (request : Nat → Except ε (List α))
    (step : σ → α → Except ε σ) (pages page : Nat) (state : σ) :
    foldPages perPage cutOff request step pages page state =
      (listing perPage request pages page).rows.foldlM step state >>= fun state =>
        (listing perPage request pages page).ending.result cutOff state := by
  induction pages generalizing page state with
  | zero => rfl
  | succ pages ih =>
    rw [foldPages, listing]
    cases hrequest : request page with
    | error error => rfl
    | ok rows =>
      change (rows.foldlM step state >>= _) = _
      by_cases hshort : rows.length < perPage
      · simp only [hshort, if_true]
        rfl
      · simp only [hshort, if_false, List.foldlM_append, bind_assoc]
        congr 1
        funext next
        exact ih (page + 1) next

/-- A listing fails with the failure of one of its pages. -/
theorem exists_of_failed {perPage : Nat} {request : Nat → Except ε (List α)} {pages page : Nat}
    {failure : ε} (h : (listing perPage request pages page).ending = .failed failure) :
    ∃ page, request page = .error failure := by
  induction pages generalizing page with
  | zero => cases h
  | succ pages ih =>
    rw [listing] at h
    cases hrequest : request page with
    | error found =>
      rw [hrequest] at h
      cases h
      exact ⟨page, hrequest⟩
    | ok rows =>
      rw [hrequest] at h
      by_cases hshort : rows.length < perPage
      · simp [hshort] at h
      · simp only [hshort, if_false] at h
        exact ih h

/-! ## Unique rows -/

/-- Keeps the first row, and refuses a row that is not equal to it. -/
def keepUnique [DecidableEq α] (ambiguous : ε) (kept : Option α) (row : α) :
    Except ε (Option α) :=
  match kept with
  | none => .ok (some row)
  | some previous => if previous = row then .ok kept else .error ambiguous

/-- All rows are the first one. -/
theorem foldlM_keepUnique_some [DecidableEq α] (ambiguous : ε) (first : α) (rows : List α) :
    rows.foldlM (keepUnique ambiguous) (some first) =
      if ∀ row ∈ rows, row = first then .ok (some first) else .error ambiguous := by
  induction rows with
  | nil => simp [pure, Except.pure]
  | cons row rest ih =>
    rw [List.foldlM_cons]
    by_cases hrow : first = row
    · have hstep : keepUnique ambiguous (some first) row = .ok (some first) := if_pos hrow
      rw [hstep]
      change rest.foldlM (keepUnique ambiguous) (some first) = _
      rw [ih]
      simp [hrow]
    · have hstep : keepUnique ambiguous (some first) row = .error ambiguous := if_neg hrow
      have hne : row ≠ first := fun heq => hrow heq.symm
      rw [hstep, if_neg (by simp [hne])]
      rfl

/-- The fold accepts rows that are all equal. -/
theorem foldlM_keepUnique [DecidableEq α] (ambiguous : ε) (rows : List α) :
    rows.foldlM (keepUnique ambiguous) none =
      if ∀ a ∈ rows, ∀ b ∈ rows, a = b then .ok rows.head? else .error ambiguous := by
  cases rows with
  | nil => simp [pure, Except.pure]
  | cons first rest =>
    rw [List.foldlM_cons]
    change rest.foldlM (keepUnique ambiguous) (some first) = _
    rw [foldlM_keepUnique_some]
    have hequal : (∀ row ∈ rest, row = first) ↔
        ∀ a ∈ first :: rest, ∀ b ∈ first :: rest, a = b := by
      constructor
      · intro h a ha b hb
        have hall : ∀ row ∈ first :: rest, row = first := by simpa using h
        rw [hall a ha, hall b hb]
      · intro h row hrow
        exact h row (List.mem_cons_of_mem _ hrow) first List.mem_cons_self
    simp only [hequal, List.head?_cons]

end Paging
