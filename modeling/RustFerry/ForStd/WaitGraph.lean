import Mathlib.Data.Fintype.Card
import Mathlib.Data.UInt
import Mathlib.Logic.Relation
import Mathlib.Order.WellFounded

/-!
# Graphs of waiting

A relation without cycles, as the threads of a system that wait for each other should have it.
Edges may be added as long as they do not close a cycle, and in a finite system every chain of
waiting ends at a thread that does not wait.
-/

namespace WaitGraph

open Relation

variable {α : Type*} {r r' : α → α → Prop}

def Acyclic (r : α → α → Prop) : Prop := ∀ a, ¬ TransGen r a a

namespace Acyclic

/-- A graph without edges. -/
theorem of_empty (h : ∀ a b, ¬ r a b) : Acyclic r := by
  intro a hcycle
  obtain ⟨b, -, hedge⟩ := TransGen.tail'_iff.mp hcycle
  exact h b a hedge

theorem mono (h : Acyclic r) (hle : ∀ a b, r' a b → r a b) : Acyclic r' := by
  intro a hcycle
  exact h a (TransGen.mono hle a a hcycle)

/-- Edges out of one element that does not have the ends of the edges before it. -/
theorem add {t : α} (h : Acyclic r)
    (hnew : ∀ a b, r' a b → r a b ∨ (a = t ∧ ¬ ReflTransGen r b t)) : Acyclic r' := by
  -- a path to `t` that stops there for the first time has no new edge
  have hback : ∀ b, ReflTransGen r' b t → ReflTransGen r b t := by
    intro b hpath
    induction hpath using ReflTransGen.head_induction_on with
    | refl => exact .refl
    | head hedge _ ih =>
      rcases hnew _ _ hedge with hold | ⟨rfl, -⟩
      · exact .head hold ih
      · exact .refl
  -- a path has no new edge, or it leads through `t`
  have hsplit : ∀ a c, TransGen r' a c →
      TransGen r a c ∨ ∃ b, ReflTransGen r' a t ∧ ¬ ReflTransGen r b t ∧ ReflTransGen r' b c := by
    intro a c hpath
    induction hpath with
    | single hedge =>
      rcases hnew _ _ hedge with hold | ⟨rfl, hnot⟩
      · exact .inl (.single hold)
      · exact .inr ⟨_, .refl, hnot, .refl⟩
    | tail hpath hedge ih =>
      rcases ih with hold | ⟨b, hfront, hnot, hrest⟩
      · rcases hnew _ _ hedge with hlast | ⟨rfl, hnot⟩
        · exact .inl (.tail hold hlast)
        · exact .inr ⟨_, hpath.to_reflTransGen, hnot, .refl⟩
      · exact .inr ⟨b, hfront, hnot, hrest.tail hedge⟩
  intro a hcycle
  rcases hsplit a a hcycle with hold | ⟨b, hfront, hnot, hrest⟩
  · exact h a hold
  · exact hnot (hback b (hrest.trans hfront))

/-- Some node waits for nobody. -/
theorem exists_sink [Finite α] (h : Acyclic r) (a : α) :
    ∃ b, ReflTransGen r a b ∧ ∀ c, ¬ r b c := by
  have htrans : IsTrans α fun b c => TransGen r c b := ⟨fun _ _ _ hab hbc => hbc.trans hab⟩
  have hirrefl : Std.Irrefl fun b c => TransGen r c b := ⟨h⟩
  have hwf : WellFounded fun b c => TransGen r c b :=
    Finite.wellFounded_of_trans_of_irrefl _
  induction a using hwf.induction with
  | h a ih =>
    by_cases hsink : ∀ c, ¬ r a c
    · exact ⟨a, .refl, hsink⟩
    · obtain ⟨c, hedge⟩ := not_forall_not.mp hsink
      obtain ⟨b, hpath, hb⟩ := ih c (.single hedge)
      exact ⟨b, .head hedge hpath, hb⟩

end Acyclic

end WaitGraph
