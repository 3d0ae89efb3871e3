import Mathlib.Data.List.Forall2

/-!
# Fallible computations

Inversion of computations in `Except`: a sequence succeeds exactly when each of
its parts does.
-/

namespace Except

variable {ε α β : Type} {x : Except ε α} {l : List α}

/-- Stop with an error when something is wrong. -/
def rejectIf (bad : Bool) (error : ε) : Except ε Unit :=
  if bad then .error error else .ok ()

@[simp] theorem rejectIf_eq_ok {bad : Bool} {error : ε} {u : Unit} :
    rejectIf bad error = .ok u ↔ bad = false := by
  cases bad <;> simp [rejectIf]

variable {f : α → Except ε β}

/-- Both steps succeed. -/
theorem bind_eq_ok {b : β} :
    (x >>= f) = .ok b ↔ ∃ a, x = .ok a ∧ f a = .ok b := by
  cases x with
  | error e =>
    constructor
    · intro h; cases h
    · rintro ⟨a, h, -⟩; cases h
  | ok a =>
    constructor
    · intro h; exact ⟨a, rfl, h⟩
    · rintro ⟨a', h, hf⟩
      cases h
      exact hf

/-- A check, then the rest. -/
theorem check_bind_eq_ok {x : Except ε Unit} {f : Unit → Except ε β} {b : β} :
    (x >>= f) = .ok b ↔ x = .ok () ∧ f () = .ok b := by
  rw [bind_eq_ok]
  constructor
  · intro hparts
    obtain ⟨_, hx, hf⟩ := hparts
    exact ⟨hx, hf⟩
  · intro hparts
    obtain ⟨hx, hf⟩ := hparts
    exact ⟨(), hx, hf⟩

@[simp] theorem mapError_eq_ok {ε' : Type} {f : ε → ε'} {a : α} :
    x.mapError f = .ok a ↔ x = .ok a := by
  cases x <;> simp [Except.mapError]

/-- A check of an optional value: there is nothing to check when it is absent. -/
def forSome (value : Option α) (f : α → Except ε Unit) : Except ε Unit :=
  match value with
  | none => .ok ()
  | some a => f a

/-- Nothing is asked of an absent value. -/
theorem forSome_eq_ok {value : Option α} {f : α → Except ε Unit} {u : Unit} :
    forSome value f = .ok u ↔ ∀ a, value = some a → f a = .ok () := by
  cases value with
  | none => simp [forSome]
  | some a => simp [forSome]

/-- `value.ok_or(error)`. -/
def ofOption (error : ε) : Option α → Except ε α
  | none => .error error
  | some a => .ok a

theorem ofOption_eq_ok {error : ε} {value : Option α} {a : α} :
    ofOption error value = .ok a ↔ value = some a := by
  cases value <;> simp [ofOption]

theorem exists_eq_ok_of_toBool (h : x.toBool = true) : ∃ a, x = .ok a := by
  cases x with
  | error e => cases h
  | ok a => exact ⟨a, rfl⟩

theorem eq_ok_of_toOption {a : α} (h : x.toOption = some a) : x = .ok a := by
  cases x with
  | error e => cases h
  | ok b => rw [Option.some.inj h]

/-- A loop succeeds when every iteration does. -/
theorem forM_eq_ok {f : α → Except ε Unit} {u : Unit} :
    l.forM f = .ok u ↔ ∀ a ∈ l, f a = .ok () := by
  induction l with
  | nil => simp [pure, Except.pure]
  | cons a l ih =>
    show (f a >>= fun _ => l.forM f) = .ok u ↔ _
    rw [bind_eq_ok]
    constructor
    · rintro ⟨⟨⟩, ha, hl⟩ x hx
      rcases List.mem_cons.mp hx with rfl | hx
      · exact ha
      · exact ih.mp hl x hx
    · intro h
      exact ⟨(), h a List.mem_cons_self, ih.mpr fun x hx => h x (List.mem_cons_of_mem _ hx)⟩

/-- What a loop with state preserves, and what every iteration it ran establishes. -/
theorem foldlM_eq_ok {σ : Type} {f : σ → α → Except ε σ} {s t : σ} {Inv : σ → Prop}
    {Post : α → Prop} (hstep : ∀ s a s', Inv s → f s a = .ok s' → Inv s' ∧ Post a) (hinit : Inv s)
    (h : l.foldlM f s = .ok t) : Inv t ∧ ∀ a ∈ l, Post a := by
  induction l generalizing s with
  | nil =>
    cases h
    exact ⟨hinit, by simp⟩
  | cons a l ih =>
    rw [List.foldlM_cons, bind_eq_ok] at h
    obtain ⟨s', hs', hrest⟩ := h
    obtain ⟨hinv, hpost⟩ := hstep s a s' hinit hs'
    obtain ⟨ht, hall⟩ := ih hinv hrest
    refine ⟨ht, ?_⟩
    intro x hx
    rcases List.mem_cons.mp hx with rfl | hx
    · exact hpost
    · exact hall x hx

/-- From the middle of the loop. -/
private theorem foldlM_through_from {σ : Type} {done : List α} {f : σ → α → Except ε σ} {s t : σ}
    {Inv : List α → σ → Prop}
    (hstep : ∀ done a s s', Inv done s → f s a = .ok s' → Inv (done ++ [a]) s') (hinit : Inv done s)
    (h : l.foldlM f s = .ok t) : Inv (done ++ l) t := by
  induction l generalizing done s with
  | nil =>
    cases h
    rw [List.append_nil]
    exact hinit
  | cons a l ih =>
    rw [List.foldlM_cons, bind_eq_ok] at h
    obtain ⟨s', hs', hrest⟩ := h
    have hinv := ih (hstep done a s s' hinit hs') hrest
    rw [List.append_assoc] at hinv
    exact hinv

/-- What a loop establishes about the part of the list that it went through. -/
theorem foldlM_through {σ : Type} {f : σ → α → Except ε σ} {s t : σ} {Inv : List α → σ → Prop}
    (hstep : ∀ done a s s', Inv done s → f s a = .ok s' → Inv (done ++ [a]) s') (hinit : Inv [] s)
    (h : l.foldlM f s = .ok t) : Inv l t :=
  foldlM_through_from hstep hinit h

/-- From the middle of the loop. -/
private theorem foldlM_progress_from {σ : Type} {done : List α} {f : σ → α → Except ε σ} {s : σ}
    {Inv : List α → σ → Prop}
    (hstep : ∀ front a rest s, done ++ l = front ++ a :: rest → Inv front s →
      ∃ s', f s a = .ok s' ∧ Inv (front ++ [a]) s')
    (hinit : Inv done s) : ∃ t, l.foldlM f s = .ok t ∧ Inv (done ++ l) t := by
  induction l generalizing done s with
  | nil => exact ⟨s, rfl, by rw [List.append_nil]; exact hinit⟩
  | cons a l ih =>
    obtain ⟨s', hs', hinv⟩ := hstep done a l s rfl hinit
    have hrest : ∃ t, l.foldlM f s' = .ok t ∧ Inv (done ++ [a] ++ l) t := by
      apply ih _ hinv
      intro front b rest s hsplit
      apply hstep front b rest s
      rw [← hsplit, List.append_assoc]
      rfl
    obtain ⟨t, ht, hend⟩ := hrest
    refine ⟨t, ?_, ?_⟩
    · rw [List.foldlM_cons, bind_eq_ok]
      exact ⟨s', hs', ht⟩
    · rw [List.append_assoc] at hend
      exact hend

/-- A loop succeeds when each iteration does on what the ones before have established. -/
theorem foldlM_progress {σ : Type} {l : List α} {f : σ → α → Except ε σ} {s : σ}
    {Inv : List α → σ → Prop}
    (hstep : ∀ front a rest s, l = front ++ a :: rest → Inv front s →
      ∃ s', f s a = .ok s' ∧ Inv (front ++ [a]) s')
    (hinit : Inv [] s) : ∃ t, l.foldlM f s = .ok t ∧ Inv l t :=
  foldlM_progress_from hstep hinit

/-- A map succeeds when it does on every element. -/
theorem mapM_eq_ok {r : List β} :
    l.mapM f = .ok r ↔ List.Forall₂ (fun a b => f a = .ok b) l r := by
  induction l generalizing r with
  | nil =>
    rw [List.mapM_nil, List.forall₂_nil_left_iff]
    constructor
    · intro h
      exact (Except.ok.inj h).symm
    · intro h
      rw [h]
      rfl
  | cons a l ih =>
    rw [List.mapM_cons, bind_eq_ok]
    constructor
    · intro hparts
      obtain ⟨b, hb, hrest⟩ := hparts
      obtain ⟨bs, hbs, hr⟩ := bind_eq_ok.mp hrest
      cases hr
      exact .cons hb (ih.mp hbs)
    · intro h
      cases h with
      | cons hb hbs => exact ⟨_, hb, bind_eq_ok.mpr ⟨_, ih.mpr hbs, rfl⟩⟩

/-- A map over elements on each of which it succeeds. -/
theorem exists_mapM_eq_ok (h : ∀ a ∈ l, ∃ b, f a = .ok b) : ∃ r, l.mapM f = .ok r := by
  induction l with
  | nil => exact ⟨[], rfl⟩
  | cons a l ih =>
    obtain ⟨b, hb⟩ := h a List.mem_cons_self
    obtain ⟨r, hr⟩ := ih fun a ha => h a (List.mem_cons_of_mem _ ha)
    refine ⟨b :: r, ?_⟩
    rw [List.mapM_cons, hb, hr]
    rfl

/-- What a loop collects: what was there, and what each iteration adds. -/
theorem foldlM_collects {σ β : Type} {f : σ → α → Except ε σ} {s t : σ} (Has : σ → β → Prop)
    (Adds : α → β → Prop) (hstep : ∀ s a s', f s a = .ok s' → ∀ b, Has s' b ↔ Has s b ∨ Adds a b)
    (h : l.foldlM f s = .ok t) (b : β) : Has t b ↔ Has s b ∨ ∃ a ∈ l, Adds a b := by
  induction l generalizing s with
  | nil =>
    cases h
    simp
  | cons a l ih =>
    rw [List.foldlM_cons, bind_eq_ok] at h
    obtain ⟨s', hs', hrest⟩ := h
    rw [ih hrest, hstep s a s' hs' b]
    simp only [List.mem_cons, exists_eq_or_imp, or_assoc]

/-! ## Errors -/

/-- Every error of the computation has the property. -/
def FailsWith (P : ε → Prop) (x : Except ε α) : Prop := ∀ e, x = .error e → P e

section

variable {P : ε → Prop}

theorem failsWith_ok (a : α) : FailsWith P (.ok a : Except ε α) := by
  intro e h
  cases h

theorem failsWith_error {e : ε} (h : P e) : FailsWith P (.error e : Except ε α) := by
  intro e' he
  cases he
  exact h

/-- Both steps fail as allowed. -/
theorem FailsWith.bind (hx : FailsWith P x) (hf : ∀ a, FailsWith P (f a)) :
    FailsWith P (x >>= f) := by
  cases x with
  | error e => exact failsWith_error (hx e rfl)
  | ok a => exact hf a

theorem failsWith_rejectIf {bad : Bool} {e : ε} (h : P e) : FailsWith P (rejectIf bad e) := by
  cases bad with
  | false => exact failsWith_ok ()
  | true => exact failsWith_error h

/-- A missing value fails with its error. -/
theorem failsWith_ofOption {e : ε} (h : P e) (value : Option α) :
    FailsWith P (ofOption e value) := by
  cases value with
  | none => exact failsWith_error h
  | some a => exact failsWith_ok a

/-- Errors may be renamed. -/
theorem failsWith_mapError {ε' : Type} {f : ε' → ε} (h : ∀ e, P (f e)) (x : Except ε' α) :
    FailsWith P (x.mapError f) := by
  cases x with
  | error e => exact failsWith_error (h e)
  | ok a => exact failsWith_ok a

/-- The result does not matter. -/
theorem FailsWith.map {x : Except ε α} (h : FailsWith P x) (f : α → β) :
    FailsWith P (x.map f) := by
  cases x with
  | error e => exact failsWith_error (h e rfl)
  | ok a => exact failsWith_ok (f a)

/-- Every iteration fails as allowed. -/
theorem failsWith_mapM (h : ∀ a, FailsWith P (f a)) :
    FailsWith P (l.mapM f) := by
  induction l with
  | nil => exact failsWith_ok []
  | cons a l ih =>
    rw [List.mapM_cons]
    exact (h a).bind fun _ => ih.bind fun _ => failsWith_ok _

end

end Except
