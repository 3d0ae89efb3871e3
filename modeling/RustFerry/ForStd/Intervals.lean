import Mathlib.Order.Defs.LinearOrder
import Mathlib.Data.List.Pairwise
import Mathlib.Data.UInt

/-!
# Half-open intervals

Intervals from a start to an end, without the end. If each interval of a list ends before the next one
begins, then no two intervals of the list have a point in common; intervals may be empty.
-/

namespace Intervals

variable {α : Type} [LinearOrder α]

/-- A point of an interval. -/
def Contains (range : α × α) (point : α) : Prop := range.1 ≤ point ∧ point < range.2

/-- An interval ends before another one begins. -/
def Before (a b : α × α) : Prop := a.2 ≤ b.1

/-- No point in common. -/
def Separate (a b : α × α) : Prop := ∀ point, ¬ (Contains a point ∧ Contains b point)

theorem Separate.symm {a b : α × α} (h : Separate a b) : Separate b a :=
  fun point hpoint => h point hpoint.symm

theorem Before.separate {a b : α × α} (h : Before a b) : Separate a b := by
  intro point hpoint
  have hless := lt_of_lt_of_le hpoint.1.2 h
  exact absurd hpoint.2.1 (not_le.mpr hless)

/-- Neighbours in order are in order with everything after them. -/
theorem pairwise_before {ranges : List (α × α)} (hordered : ∀ range ∈ ranges, range.1 ≤ range.2)
    (h : ranges.IsChain Before) : ranges.Pairwise Before := by
  induction ranges with
  | nil => exact .nil
  | cons first rest ih =>
    cases rest with
    | nil => exact .cons (by simp) .nil
    | cons second rest =>
      obtain ⟨hfirst, hchain⟩ := List.isChain_cons_cons.mp h
      have hsecond := hordered second (by simp)
      have hrest := ih (fun range hrange => hordered range (List.mem_cons_of_mem _ hrange)) hchain
      apply List.Pairwise.cons _ hrest
      intro range hrange
      cases List.mem_cons.mp hrange with
      | inl heq =>
        rw [heq]
        exact hfirst
      | inr hlater =>
        have hnext := (List.pairwise_cons.mp hrest).1 range hlater
        exact le_trans hfirst (le_trans hsecond hnext)

end Intervals
