import RustFerry.ForStd.Prog

/-!
# Frames of computations

Computations that leave the state alone and change the view only along a preorder, and loops.
-/

namespace ProgM

variable {Op : Type} {Res : Op → Type} {σ ε ε' α β γ : Type} {C : Contract Op Res γ}

/-- A loop establishes what its iterations add up to. -/
theorem wp_forM {l : List α} {f : α → ProgM Op Res σ ε PUnit} {I : List α → σ → γ → Prop}
    {E : ε → σ → γ → Prop} {s : σ} {g : γ} (hI : I [] s g)
    (hstep : ∀ done a rest s g, l = done ++ a :: rest → I done s g →
      wp C (f a) (fun _ s' g' => I (done ++ [a]) s' g') E s g) :
    wp C (l.forM f) (fun _ s' g' => I l s' g') E s g := by
  suffices h : ∀ rest done s g, l = done ++ rest → I done s g →
      wp C (rest.forM f) (fun _ s' g' => I l s' g') E s g from h l [] s g rfl hI
  intro rest
  induction rest with
  | nil =>
    intro done s g hl hdone
    rw [hl, List.append_nil]
    exact hdone
  | cons a rest ih =>
    intro done s g hl hdone
    show wp C (f a >>= fun _ => rest.forM f) _ E s g
    rw [wp_bind]
    apply wp_mono (hstep done a rest s g hl hdone)
    · intro _ s' g' hnext
      exact ih (done ++ [a]) s' g' (by rw [hl, List.append_assoc]; rfl) hnext
    · intro e s' g' he
      exact he

/-- However the computation ends, the state is as before, and the view has changed along `R`. -/
def Within (C : Contract Op Res γ) (R : γ → γ → Prop) (x : ProgM Op Res σ ε α) : Prop :=
  ∀ s g, wp C x (fun _ s' g' => s' = s ∧ R g g') (fun _ s' g' => s' = s ∧ R g g') s g

section Within

variable {R : γ → γ → Prop}

/-- What a step may change. -/
theorem Within.wp {x : ProgM Op Res σ ε α} {Q : α → σ → γ → Prop} {E : ε → σ → γ → Prop} {s : σ}
    {g : γ} (hx : Within C R x) (hQ : ∀ a g', R g g' → Q a s g') (hE : ∀ e g', R g g' → E e s g') :
    wp C x Q E s g := by
  apply wp_mono (hx s g)
  · intro a s' g' hend
    obtain ⟨rfl, hR⟩ := hend
    exact hQ a g' hR
  · intro e s' g' hend
    obtain ⟨rfl, hR⟩ := hend
    exact hE e g' hR

theorem within_perform {op : Op} (hop : ∀ g r, C.guarantee g op r ∧ R g (C.next g op r)) :
    Within C R (perform op : ProgM Op Res σ ε (Res op)) := by
  intro s g r _
  obtain ⟨hgood, hR⟩ := hop g r
  exact ⟨hgood, rfl, hR⟩

variable [Std.Refl R]

theorem within_pure {a : α} : Within C R (pure a : ProgM Op Res σ ε α) :=
  fun _ g => ⟨rfl, Std.Refl.refl g⟩

theorem within_fail {e : ε} : Within C R (fail e : ProgM Op Res σ ε α) :=
  fun _ g => ⟨rfl, Std.Refl.refl g⟩

theorem within_ensure {b : Bool} {e : ε} : Within C R (ensure b e : ProgM Op Res σ ε Unit) := by
  cases b
  · exact within_fail
  · exact within_pure

theorem within_ofOption {x : Option α} {e : ε} :
    Within C R (ofOption e x : ProgM Op Res σ ε α) := by
  cases x
  · exact within_fail
  · exact within_pure

theorem within_ofExcept {x : Except ε α} : Within C R (ofExcept x : ProgM Op Res σ ε α) := by
  cases x
  · exact within_fail
  · exact within_pure

omit [Std.Refl R] in
/-- One after the other. -/
theorem within_bind [IsTrans γ R] {x : ProgM Op Res σ ε α} {f : α → ProgM Op Res σ ε β}
    (hx : Within C R x) (hf : ∀ a, Within C R (f a)) : Within C R (x >>= f) := by
  intro s g
  rw [wp_bind]
  apply hx.wp
  · intro a g' hR
    apply (hf a).wp
    · exact fun _ g'' hR' => ⟨rfl, IsTrans.trans _ _ _ hR hR'⟩
    · exact fun _ g'' hR' => ⟨rfl, IsTrans.trans _ _ _ hR hR'⟩
  · exact fun _ g' hR => ⟨rfl, hR⟩

/-- Every iteration. -/
theorem within_forM [IsTrans γ R] {l : List α} {f : α → ProgM Op Res σ ε PUnit} (hf : ∀ a, Within C R (f a)) :
    Within C R (l.forM f) := by
  induction l with
  | nil => exact within_pure
  | cons a l ih =>
    show Within C R (f a >>= fun _ => l.forM f)
    exact within_bind (hf a) fun _ => ih

end Within

/-! ## Kinds of operations -/

/-- The contract of the operations that satisfy `P`. -/
def onlyOps (P : Op → Prop) : Contract Op Res Unit where
  next _ _ _ := ()
  assume _ _ _ := True
  guarantee _ op _ := P op

/-- The computation leaves the state alone, and all its operations satisfy `P`. -/
abbrev Performs (P : Op → Prop) (x : ProgM Op Res σ ε α) : Prop := Within (onlyOps P) Eq x

section Performs

variable {P : Op → Prop} {x : ProgM Op Res σ ε α}

theorem performs_perform {op : Op} (hop : P op) :
    Performs P (perform op : ProgM Op Res σ ε (Res op)) :=
  within_perform fun _ _ => ⟨hop, rfl⟩

/-- What every operation keeps of the view is kept to the end. -/
theorem wp_of_onlyOps {p : Prog Op Res α} {Q : α → Unit → Prop} {I : γ → Prop} {g : γ}
    (hp : p.wp (onlyOps P) Q ())
    (hop : ∀ g op r, P op → I g → C.assume g op r → C.guarantee g op r ∧ I (C.next g op r))
    (hg : I g) : p.wp C (fun a g => Q a () ∧ I g) g := by
  induction p generalizing g with
  | ret a => exact ⟨hp, hg⟩
  | call op next ih =>
    intro r hr
    obtain ⟨hP, hnext⟩ := hp r trivial
    obtain ⟨hgood, hI⟩ := hop g op r hP hg hr
    exact ⟨hgood, ih r hnext hI⟩

/-- Such operations keep an invariant. -/
theorem Performs.wp (hx : Performs P x) {I : γ → Prop} {s : σ} {g : γ}
    (hop : ∀ g op r, P op → I g → C.assume g op r → C.guarantee g op r ∧ I (C.next g op r))
    (hg : I g) :
    ProgM.wp C x (fun _ s' g' => s' = s ∧ I g') (fun _ s' g' => s' = s ∧ I g') s g := by
  apply Prog.wp_mono _ (wp_of_onlyOps (hx s ()) hop hg)
  intro out g' hout
  obtain ⟨result, s'⟩ := out
  cases result with
  | ok a => exact ⟨hout.1.1, hout.2⟩
  | error e => exact ⟨hout.1.1, hout.2⟩

/-- Such operations change no more. -/
theorem Performs.within {R : γ → γ → Prop} [Std.Refl R] [IsTrans γ R] (hx : Performs P x)
    (hop : ∀ g op r, P op → C.guarantee g op r ∧ R g (C.next g op r)) : Within C R x := by
  intro s g
  apply hx.wp _ (Std.Refl.refl g)
  intro g' op r hP hR _
  obtain ⟨hgood, hnext⟩ := hop g' op r hP
  exact ⟨hgood, IsTrans.trans _ _ _ hR hnext⟩

/-- Such operations change nothing. -/
theorem Performs.silent {g : γ} (hx : Performs P x)
    (hop : ∀ op r, P op → C.guarantee g op r ∧ C.next g op r = g) : Silent C x g := by
  intro s
  apply hx.wp (I := fun g' => g' = g) _ rfl
  intro g' op r hP heq _
  rw [heq]
  exact hop op r hP

end Performs

end ProgM
