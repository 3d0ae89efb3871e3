import RustFerry.ForStd.ProgFrame

/-!
# Guards and driven runs

A computation on a state of its own, as a block with local variables has it, and the run of a
program whose operations are answered by a function of the view.
-/

namespace ProgM

variable {Op : Type} {Res : Op → Type} {σ τ ε ε' α γ : Type} {C : Contract Op Res γ}

/-- Run a computation on a state of its own; the outcome comes back with that state. -/
def runOn (t : τ) (x : ProgM Op Res τ ε α) : ProgM Op Res σ ε' (Except ε α × τ) := fun s =>
  (x t).bind fun out => .ret (.ok out, s)

/-- The other state is left alone. -/
theorem wp_runOn {t : τ} {x : ProgM Op Res τ ε α} {Q : Except ε α × τ → σ → γ → Prop}
    {E : ε' → σ → γ → Prop} {s : σ} {g : γ} :
    wp C (runOn t x) Q E s g ↔
      wp C x (fun a t' g' => Q (.ok a, t') s g') (fun e t' g' => Q (.error e, t') s g') t g := by
  show ((x t).bind _).wp C _ g ↔ _
  rw [Prog.wp_bind]
  constructor
  · apply Prog.wp_mono
    rintro ⟨_ | _, _⟩ g hout <;> exact hout
  · apply Prog.wp_mono
    rintro ⟨_ | _, _⟩ g hout <;> exact hout

variable {R : γ → γ → Prop} {P : σ → γ → Prop}

theorem keeps_get : Keeps C P (get : ProgM Op Res σ ε σ) := fun _ _ h => h

/-- What is read of the state is part of a state that satisfies the predicate. -/
theorem keeps_get_bind {f : σ → ProgM Op Res σ ε α}
    (hf : ∀ s g, P s g → Keeps C P (f s)) : Keeps C P (get >>= f) :=
  fun s g h => hf s g h s g h

/-- A computation within a relation keeps what the relation keeps. -/
theorem Within.keeps {x : ProgM Op Res σ ε α} (hx : Within C R x)
    (hP : ∀ s g g', P s g → R g g' → P s g') : Keeps C P x := by
  intro s g h
  apply hx.wp
  · exact fun _ g' hR => hP s g g' h hR
  · exact fun _ g' hR => hP s g g' h hR

/-- The rule of a sequence whose first part keeps a predicate. -/
theorem Keeps.wp_bind {β : Type} {x : ProgM Op Res σ ε α} {f : α → ProgM Op Res σ ε β}
    {Q : β → σ → γ → Prop} {E : ε → σ → γ → Prop} {s : σ} {g : γ} (hx : Keeps C P x) (h : P s g)
    (hf : ∀ a s' g', P s' g' → wp C (f a) Q E s' g') (hE : ∀ e s' g', P s' g' → E e s' g') :
    wp C (x >>= f) Q E s g := by
  rw [ProgM.wp_bind]
  exact wp_mono (hx s g h) hf hE

/-- More may change. -/
theorem Within.mono {R' : γ → γ → Prop} {x : ProgM Op Res σ ε α} (hx : Within C R x)
    (hR : ∀ g g', R g g' → R' g g') : Within C R' x := by
  intro s g
  apply hx.wp
  · exact fun _ g' h => ⟨rfl, hR g g' h⟩
  · exact fun _ g' h => ⟨rfl, hR g g' h⟩

end ProgM

namespace Contract

variable {Op : Type} {Res : Op → Type} {γ : Type}

/-- The view depends on nothing else of the contract. -/
theorem view_congr {C D : Contract Op Res γ} (hnext : D.next = C.next) {g : γ}
    (h : History Op Res) : D.view g h = C.view g h := by
  induction h with
  | nil => rfl
  | cons e h ih => rw [view, view, ih, hnext]

/-- What one contract and another one assume, when both have the same view. -/
theorem Assumed.and {C D : Contract Op Res γ} (hnext : D.next = C.next) {g : γ}
    {h : History Op Res} (hC : C.Assumed g h) (hD : D.Assumed g h) :
    ({ C with assume := fun g op r => C.assume g op r ∧ D.assume g op r } :
      Contract Op Res γ).Assumed g h := by
  induction h with
  | nil => trivial
  | cons e h ih =>
    apply And.intro
    · have hown := view_congr (C := C)
        (D := { C with assume := fun g op r => C.assume g op r ∧ D.assume g op r }) rfl (g := g) h
      rw [hown]
      exact ⟨hC.1, view_congr hnext h ▸ hD.1⟩
    · exact ih hC.2 hD.2

end Contract

namespace Prog

variable {Op : Type} {Res : Op → Type} {α γ : Type}

/-- A driven run is a run, and it is answered as every contract with this view assumes of the
function's answers. -/
theorem exists_runs_exec {C : Contract Op Res γ} (answer : γ → (op : Op) → Res op)
    {p q : Prog Op Res α} {g : γ} {h : History Op Res} (hruns : Runs p h q)
    (hassumed : ∀ D : Contract Op Res γ, D.next = C.next →
      (∀ g op, D.assume g op (answer g op)) → D.Assumed g h) :
    ∃ history, Runs p history (.ret (exec C answer q (C.view g h)).1) ∧
      (∀ D : Contract Op Res γ, D.next = C.next →
        (∀ g op, D.assume g op (answer g op)) → D.Assumed g history) ∧
      C.view g history = (exec C answer q (C.view g h)).2 := by
  induction q generalizing h with
  | ret a => exact ⟨h, hruns, hassumed, rfl⟩
  | call op next ih =>
    apply ih _ (hruns.step (answer (C.view g h) op))
    intro D hnext hanswer
    refine ⟨?_, hassumed D hnext hanswer⟩
    rw [Contract.view_congr hnext h]
    exact hanswer _ _

end Prog
