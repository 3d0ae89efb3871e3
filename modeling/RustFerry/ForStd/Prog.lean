import Mathlib.Data.List.Basic

/-!
# Programs with operations

A program returns, or performs an operation and goes on with its response. Nothing is
said here about the responses, so that a program can be run alone against any
environment, or beside others in a system that gives the operations a meaning.

What a program does is specified by a contract: a view that follows the events of a run,
and for every event what may be assumed of the response and what is guaranteed, both
relative to the view before it.
-/

/-- A program over operations `Op` with responses `Res`. -/
inductive Prog (Op : Type) (Res : Op → Type) (α : Type) : Type where
  | ret (a : α)
  | call (op : Op) (next : Res op → Prog Op Res α)

/-- A performed operation with its response. -/
structure Event (Op : Type) (Res : Op → Type) where
  op : Op
  response : Res op

/-- The events of a run, latest first. -/
abbrev History (Op : Type) (Res : Op → Type) := List (Event Op Res)

/-- What is specified of a program: a view of its events so far, what may be assumed of a
response, and what is guaranteed of an event. -/
structure Contract (Op : Type) (Res : Op → Type) (γ : Type) where
  next : γ → (op : Op) → Res op → γ
  assume : γ → (op : Op) → Res op → Prop
  guarantee : γ → (op : Op) → Res op → Prop

namespace Contract

variable {Op : Type} {Res : Op → Type} {γ : Type}

/-- The view after a history. -/
def view (C : Contract Op Res γ) (g : γ) : History Op Res → γ
  | [] => g
  | e :: h => C.next (C.view g h) e.op e.response

/-- Every event was answered as assumed. -/
def Assumed (C : Contract Op Res γ) (g : γ) : History Op Res → Prop
  | [] => True
  | e :: h => C.assume (C.view g h) e.op e.response ∧ C.Assumed g h

instance decidableAssumed {C : Contract Op Res γ} [∀ v op r, Decidable (C.assume v op r)] (g : γ) :
    ∀ h : History Op Res, Decidable (C.Assumed g h)
  | [] => .isTrue trivial
  | e :: h =>
    have : Decidable (C.Assumed g h) := decidableAssumed g h
    inferInstanceAs (Decidable (C.assume (C.view g h) e.op e.response ∧ C.Assumed g h))

/-- Every event is as guaranteed. -/
def Guaranteed (C : Contract Op Res γ) (g : γ) : History Op Res → Prop
  | [] => True
  | e :: h => C.guarantee (C.view g h) e.op e.response ∧ C.Guaranteed g h

variable {C : Contract Op Res γ} {g : γ} {late early : History Op Res}

theorem view_append (late early : History Op Res) :
    C.view g (late ++ early) = C.view (C.view g early) late := by
  induction late with
  | nil => rfl
  | cons e late ih => rw [List.cons_append, view, view, ih]

/-- A history keeps the guarantee when each of its parts does. -/
theorem Guaranteed.append (hearly : C.Guaranteed g early)
    (hlate : C.Guaranteed (C.view g early) late) : C.Guaranteed g (late ++ early) := by
  induction late with
  | nil => exact hearly
  | cons e late ih =>
    have hgood := hlate.1
    rw [← view_append] at hgood
    exact ⟨hgood, ih hlate.2⟩

theorem guaranteed_append (h : C.Guaranteed g (late ++ early)) :
    C.Guaranteed g early := by
  induction late with
  | nil => exact h
  | cons e late ih => exact ih h.2

variable {h : History Op Res} {P : γ → Prop}

/-- What is true of a view, and was not at first, was made true by an event. -/
theorem exists_event_of_view {E : γ → Event Op Res → Prop} (hinit : ¬P g)
    (hnext : ∀ v op r, P (C.next v op r) → P v ∨ E v ⟨op, r⟩)
    (hP : P (C.view g h)) : ∃ late e early, h = late ++ e :: early ∧ E (C.view g early) e := by
  induction h with
  | nil => exact absurd hP hinit
  | cons e h ih =>
    rcases hnext (C.view g h) e.op e.response hP with hP | hE
    · obtain ⟨late, e', early, rfl, hE⟩ := ih hP
      exact ⟨e :: late, e', early, rfl, hE⟩
    · exact ⟨[], e, h, rfl, hE⟩

/-- What an event makes true of a view, and no event undoes, is true ever after. -/
theorem view_of_mem {e : Event Op Res} (hset : ∀ v, P (C.next v e.op e.response))
    (hkeep : ∀ v op r, P v → P (C.next v op r)) (hmem : e ∈ h) :
    P (C.view g h) := by
  induction h with
  | nil => cases hmem
  | cons e' h ih =>
    rcases List.mem_cons.mp hmem with rfl | hmem
    · exact hset _
    · exact hkeep _ _ _ (ih hmem)

theorem exists_mem_of_view {E : Event Op Res → Prop} (hinit : ¬P g)
    (hnext : ∀ v op r, P (C.next v op r) → P v ∨ E ⟨op, r⟩)
    (hP : P (C.view g h)) : ∃ e ∈ h, E e := by
  obtain ⟨late, e, early, rfl, hE⟩ := exists_event_of_view (E := fun _ => E) hinit hnext hP
  exact ⟨e, List.mem_append_right late List.mem_cons_self, hE⟩

theorem mem_of_view {e : Event Op Res} (hinit : ¬P g)
    (hnext : ∀ v op r, P (C.next v op r) → P v ∨ ⟨op, r⟩ = e)
    (hP : P (C.view g h)) : e ∈ h := by
  obtain ⟨e, hmem, rfl⟩ := exists_mem_of_view (E := (· = e)) hinit hnext hP
  exact hmem

/-- The guarantee for one event of a history, relative to the events before it. -/
theorem guarantee_of_append {e : Event Op Res} (h : C.Guaranteed g (late ++ e :: early)) :
    C.guarantee (C.view g early) e.op e.response :=
  (guaranteed_append h).1

end Contract

namespace Prog

variable {Op : Type} {Res : Op → Type} {α β γ : Type} {p q : Prog Op Res α} {h : History Op Res}

/-! ## Sequencing -/

def bind : Prog Op Res α → (α → Prog Op Res β) → Prog Op Res β
  | .ret a, f => f a
  | .call op next, f => .call op fun r => (next r).bind f

instance : Monad (Prog Op Res) where
  pure := .ret
  bind := bind

/-- Perform one operation. -/
def perform (op : Op) : Prog Op Res (Res op) := .call op .ret

/-! ## Runs -/

/-- `Runs p h q`: after the events `h`, what remains of `p` is `q`. -/
inductive Runs (p : Prog Op Res α) : History Op Res → Prog Op Res α → Prop where
  | start : Runs p [] p
  | step {h : History Op Res} {op : Op} {next : Res op → Prog Op Res α} (r : Res op) :
    Runs p h (.call op next) → Runs p (⟨op, r⟩ :: h) (next r)

/-- A program that has returned does nothing more. -/
theorem runs_ret {a : α} (hruns : Runs (.ret a) h q) :
    h = [] ∧ q = .ret a := by
  induction hruns with
  | start => exact ⟨rfl, rfl⟩
  | step r hprev ih => cases ih.2

/-- A run begins with its first operation. -/
theorem runs_first {op : Op} {next : Res op → Prog Op Res α} {r : Res op}
    (hruns : Runs (next r) h q) :
    Runs (.call op next) (h ++ [⟨op, r⟩]) q := by
  induction hruns with
  | start => exact .step r .start
  | step r' hprev ih => exact .step r' ih

/-- A program that begins with an operation has performed it first. -/
theorem runs_call {op : Op} {next : Res op → Prog Op Res α} (hruns : Runs (.call op next) h q) :
    (h = [] ∧ q = .call op next) ∨ ∃ r late, h = late ++ [⟨op, r⟩] ∧ Runs (next r) late q := by
  induction hruns with
  | start => exact .inl ⟨rfl, rfl⟩
  | step r hprev ih =>
    rcases ih with hstart | hlater
    · obtain ⟨hh, hq⟩ := hstart
      cases hq
      rw [hh]
      exact .inr ⟨r, [], rfl, .start⟩
    · obtain ⟨r', late, hh, hlate⟩ := hlater
      rw [hh]
      exact .inr ⟨r', _ :: late, rfl, hlate.step r⟩

/-- A finished run has a first operation. -/
theorem runs_call_ret {op : Op} {next : Res op → Prog Op Res α} {a : α}
    (hruns : Runs (.call op next) h (.ret a)) :
    ∃ r late, h = late ++ [⟨op, r⟩] ∧ Runs (next r) late (.ret a) := by
  rcases runs_call hruns with hstart | hlater
  · cases hstart.2
  · exact hlater

variable {f : α → Prog Op Res β}

/-- A sequence that has returned ran its first part, and then the second. -/
theorem runs_bind {b : β} (hruns : Runs (p.bind f) h (.ret b)) :
    ∃ a late early, h = late ++ early ∧ Runs p early (.ret a) ∧ Runs (f a) late (.ret b) := by
  induction p generalizing h with
  | ret a => exact ⟨a, h, [], (List.append_nil h).symm, .start, hruns⟩
  | call op next ih =>
    obtain ⟨r, late, hh, hlate⟩ := runs_call_ret hruns
    obtain ⟨a, late', early, hsplit, hp, hf⟩ := ih r hlate
    exact ⟨a, late', early ++ [⟨op, r⟩], by rw [hh, hsplit, List.append_assoc], runs_first hp, hf⟩

theorem Runs.bind (hruns : Runs p h q) : Runs (p.bind f) h (q.bind f) := by
  induction hruns with
  | start => exact .start
  | step r hprev ih => exact .step r ih

theorem Runs.trans {q' : Prog Op Res α} {late early : History Op Res} (hearly : Runs p early q)
    (hlate : Runs q late q') : Runs p (late ++ early) q' := by
  induction hlate with
  | start => exact hearly
  | step r hprev ih => exact .step r ih

/-- Answer the next `n` operations by a function of the events before them. -/
def drive (answer : History Op Res → (op : Op) → Res op) :
    Nat → Prog Op Res α → History Op Res → History Op Res × Prog Op Res α
  | 0, p, h => (h, p)
  | _ + 1, .ret a, h => (h, .ret a)
  | n + 1, .call op next, h => drive answer n (next (answer h op)) (⟨op, answer h op⟩ :: h)

/-- Driving a program is a run. -/
theorem runs_drive {answer : History Op Res → (op : Op) → Res op} (n : Nat) (hruns : Runs p h q) :
    Runs p (drive answer n q h).1 (drive answer n q h).2 := by
  induction n generalizing q h with
  | zero => exact hruns
  | succ n ih =>
    cases q with
    | ret a => exact hruns
    | call op next => exact ih (hruns.step _)

/-- The run whose operations are answered by the view. -/
def exec (C : Contract Op Res γ) (answer : γ → (op : Op) → Res op) :
    Prog Op Res α → γ → α × γ
  | .ret a, g => (a, g)
  | .call op next, g => exec C answer (next (answer g op)) (C.next g op (answer g op))

/-! ## Weakest preconditions -/

/-- Every run from here keeps the contract, and returns only with `Q`. -/
def wp (C : Contract Op Res γ) : Prog Op Res α → (α → γ → Prop) → γ → Prop
  | .ret a, Q, g => Q a g
  | .call op next, Q, g => ∀ r, C.assume g op r →
    C.guarantee g op r ∧ wp C (next r) Q (C.next g op r)

variable {C : Contract Op Res γ}

/-- The rule of sequence. -/
theorem wp_bind {Q : β → γ → Prop} {g : γ} :
    wp C (p.bind f) Q g ↔ wp C p (fun a g => wp C (f a) Q g) g := by
  induction p generalizing g with
  | ret a => exact Iff.rfl
  | call op next ih =>
    constructor
    · intro hwp r hr
      obtain ⟨hgood, hnext⟩ := hwp r hr
      exact ⟨hgood, (ih r).mp hnext⟩
    · intro hwp r hr
      obtain ⟨hgood, hnext⟩ := hwp r hr
      exact ⟨hgood, (ih r).mpr hnext⟩

variable {Q : α → γ → Prop}

/-- The rule of consequence. -/
theorem wp_mono {Q' : α → γ → Prop} (hQ : ∀ a g, Q a g → Q' a g) {g : γ} (hp : wp C p Q g) :
    wp C p Q' g := by
  induction p generalizing g with
  | ret a => exact hQ a g hp
  | call op next ih =>
    intro r hr
    obtain ⟨hgood, hnext⟩ := hp r hr
    exact ⟨hgood, ih r hnext⟩

/-- Along every run the contract is kept, and what remains still keeps it. -/
theorem wp_of_runs {g : γ} (hp : wp C p Q g) (hruns : Runs p h q) (hassumed : C.Assumed g h) :
    C.Guaranteed g h ∧ wp C q Q (C.view g h) := by
  induction hruns with
  | start => exact ⟨trivial, hp⟩
  | step r hprev ih =>
    obtain ⟨hr, hearlier⟩ := hassumed
    obtain ⟨hgood, hq⟩ := ih hearlier
    obtain ⟨hevent, hnext⟩ := hq r hr
    exact ⟨⟨hevent, hgood⟩, hnext⟩

/-- Some run, answered as assumed, ends as specified. -/
theorem exists_runs_of_wp {answer : γ → (op : Op) → Res op} {g : γ}
    (hanswer : ∀ g op, C.assume g op (answer g op)) (hruns : Runs p h q) (hassumed : C.Assumed g h)
    (hq : wp C q Q (C.view g h)) :
    ∃ history a, Runs p history (.ret a) ∧ C.Assumed g history ∧ Q a (C.view g history) := by
  induction q generalizing h with
  | ret a => exact ⟨h, a, hruns, hassumed, hq⟩
  | call op next ih =>
    have hr := hanswer (C.view g h) op
    exact ih _ (hruns.step _) ⟨hr, hassumed⟩ (hq _ hr).2

/-! ## Implementing operations -/

/-- Replace every operation by a program over other operations. -/
def interpret {Op' : Type} {Res' : Op' → Type} (handler : (op : Op) → Prog Op' Res' (Res op)) :
    Prog Op Res α → Prog Op' Res' α
  | .ret a => .ret a
  | .call op next => (handler op).bind fun r => (next r).interpret handler

end Prog

/-! ## Fallible computations on a state -/

/-- A computation that changes a state and can fail; the changes survive a failure. -/
def ProgM (Op : Type) (Res : Op → Type) (σ ε α : Type) : Type :=
  σ → Prog Op Res (Except ε α × σ)

namespace ProgM

variable {Op : Type} {Res : Op → Type} {σ ε ε' α β γ : Type}

instance : Monad (ProgM Op Res σ ε) where
  pure a := fun s => .ret (.ok a, s)
  bind x f := fun s => (x s).bind fun out =>
    match out with
    | (.ok a, s) => f a s
    | (.error e, s) => .ret (.error e, s)

/-- Perform one operation. -/
def perform (op : Op) : ProgM Op Res σ ε (Res op) := fun s => .call op fun r => .ret (.ok r, s)

def fail (e : ε) : ProgM Op Res σ ε α := fun s => .ret (.error e, s)

def get : ProgM Op Res σ ε σ := fun s => .ret (.ok s, s)

def modify (f : σ → σ) : ProgM Op Res σ ε Unit := fun s => .ret (.ok (), f s)

/-- Fail unless a condition holds. -/
def ensure (b : Bool) (e : ε) : ProgM Op Res σ ε Unit := if b then pure () else fail e

/-- The value, or the failure. -/
def ofExcept : Except ε α → ProgM Op Res σ ε α
  | .ok a => pure a
  | .error e => fail e

/-- The value, or the failure if there is none. -/
def ofOption (e : ε) : Option α → ProgM Op Res σ ε α
  | some a => pure a
  | none => fail e

/-- Go on after a failure, with the result as a value. -/
def attempt (x : ProgM Op Res σ ε α) : ProgM Op Res σ ε' (Except ε α) := fun s =>
  (x s).bind fun out => .ret (.ok out.1, out.2)

/-- Go on after a failure with another computation. -/
def handle (x : ProgM Op Res σ ε α) (f : ε → ProgM Op Res σ ε' α) : ProgM Op Res σ ε' α := fun s =>
  (x s).bind fun out =>
    match out with
    | (.ok a, s) => .ret (.ok a, s)
    | (.error e, s) => f e s

/-- Fail with another error. -/
def mapError (x : ProgM Op Res σ ε α) (f : ε → ε') : ProgM Op Res σ ε' α :=
  x.handle fun e => fail (f e)

/-- Run a program that cannot fail and does not see the state. -/
def lift (p : Prog Op Res α) : ProgM Op Res σ ε α := fun s => p.bind fun a => .ret (.ok a, s)

/-- Weakest precondition with one postcondition for success and one for failure. -/
def wp (C : Contract Op Res γ) (x : ProgM Op Res σ ε α) (Q : α → σ → γ → Prop)
    (E : ε → σ → γ → Prop) (s : σ) (g : γ) : Prop :=
  (x s).wp C (fun out g =>
    match out with
    | (.ok a, s) => Q a s g
    | (.error e, s) => E e s g) g

variable {C : Contract Op Res γ} {Q : α → σ → γ → Prop} {E : ε → σ → γ → Prop} {s : σ} {g : γ}
  {e : ε}

@[simp] theorem wp_pure {a : α} : wp C (pure a : ProgM Op Res σ ε α) Q E s g ↔ Q a s g := Iff.rfl

@[simp] theorem wp_fail : wp C (fail e : ProgM Op Res σ ε α) Q E s g ↔ E e s g := Iff.rfl

@[simp] theorem wp_get {Q : σ → σ → γ → Prop} :
    wp C (get : ProgM Op Res σ ε σ) Q E s g ↔ Q s s g := Iff.rfl

@[simp] theorem wp_modify {f : σ → σ} {Q : Unit → σ → γ → Prop} :
    wp C (modify f : ProgM Op Res σ ε Unit) Q E s g ↔ Q () (f s) g := Iff.rfl

theorem wp_perform {op : Op} {Q : Res op → σ → γ → Prop} :
    wp C (perform op : ProgM Op Res σ ε (Res op)) Q E s g ↔
      ∀ r, C.assume g op r → C.guarantee g op r ∧ Q r s (C.next g op r) := Iff.rfl

@[simp] theorem wp_bind {x : ProgM Op Res σ ε α} {f : α → ProgM Op Res σ ε β}
    {Q : β → σ → γ → Prop} :
    wp C (x >>= f) Q E s g ↔ wp C x (fun a s g => wp C (f a) Q E s g) E s g := by
  show ((x s).bind _).wp C _ g ↔ _
  rw [Prog.wp_bind]
  have hsame : ∀ (out : Except ε α × σ) (g : γ),
      Prog.wp C (match out with
        | (.ok a, s) => f a s
        | (.error e, s) => .ret (.error e, s)) (fun out g =>
        match out with
        | (.ok b, s) => Q b s g
        | (.error e, s) => E e s g) g ↔
      match out with
        | (.ok a, s) => wp C (f a) Q E s g
        | (.error e, s) => E e s g := by
    rintro ⟨_ | _, _⟩ g <;> exact Iff.rfl
  constructor
  · exact Prog.wp_mono fun out g => (hsame out g).mp
  · exact Prog.wp_mono fun out g => (hsame out g).mpr

theorem wp_ensure {b : Bool} {Q : Unit → σ → γ → Prop} :
    wp C (ensure b e : ProgM Op Res σ ε Unit) Q E s g ↔
      (b = true → Q () s g) ∧ (b = false → E e s g) := by
  cases b <;> simp [ensure]

theorem wp_ofExcept {x : Except ε α} :
    wp C (ofExcept x : ProgM Op Res σ ε α) Q E s g ↔
      (∀ a, x = .ok a → Q a s g) ∧ ∀ e, x = .error e → E e s g := by
  cases x <;> simp [ofExcept]

theorem wp_ofOption {x : Option α} :
    wp C (ofOption e x : ProgM Op Res σ ε α) Q E s g ↔
      (∀ a, x = some a → Q a s g) ∧ (x = none → E e s g) := by
  cases x <;> simp [ofOption]

variable {x : ProgM Op Res σ ε α}

/-- Errors become results. -/
theorem wp_attempt {Q : Except ε α → σ → γ → Prop} {E : ε' → σ → γ → Prop} :
    wp C (attempt x) Q E s g ↔
      wp C x (fun a s g => Q (.ok a) s g) (fun e s g => Q (.error e) s g) s g := by
  show ((x s).bind _).wp C _ g ↔ _
  rw [Prog.wp_bind]
  constructor
  · refine Prog.wp_mono ?_
    rintro ⟨_ | _, _⟩ g hout <;> exact hout
  · refine Prog.wp_mono ?_
    rintro ⟨_ | _, _⟩ g hout <;> exact hout

/-- Errors go to the handler. -/
theorem wp_handle {f : ε → ProgM Op Res σ ε' α} {E : ε' → σ → γ → Prop} :
    wp C (x.handle f) Q E s g ↔ wp C x Q (fun e s g => wp C (f e) Q E s g) s g := by
  show ((x s).bind _).wp C _ g ↔ _
  rw [Prog.wp_bind]
  constructor
  · refine Prog.wp_mono ?_
    rintro ⟨_ | _, _⟩ g hout <;> exact hout
  · refine Prog.wp_mono ?_
    rintro ⟨_ | _, _⟩ g hout <;> exact hout

theorem wp_mapError {f : ε → ε'} {E : ε' → σ → γ → Prop} :
    wp C (x.mapError f) Q E s g ↔ wp C x Q (fun e s g => E (f e) s g) s g :=
  wp_handle

theorem wp_lift {p : Prog Op Res α} :
    wp C (lift p : ProgM Op Res σ ε α) Q E s g ↔ p.wp C (fun a g => Q a s g) g := by
  show (p.bind _).wp C _ g ↔ _
  rw [Prog.wp_bind]
  exact Iff.rfl

theorem wp_mono {Q' : α → σ → γ → Prop} {E' : ε → σ → γ → Prop}
    (hx : wp C x Q E s g) (hQ : ∀ a s g, Q a s g → Q' a s g) (hE : ∀ e s g, E e s g → E' e s g) :
    wp C x Q' E' s g := by
  apply Prog.wp_mono _ hx
  rintro ⟨_ | a, s⟩ g hout
  · exact hE _ s g hout
  · exact hQ a s g hout

/-- What holds of a result may be weakened alone. -/
theorem wp_imp {Q' : α → σ → γ → Prop} (hx : wp C x Q E s g)
    (hQ : ∀ a s g, Q a s g → Q' a s g) : wp C x Q' E s g :=
  wp_mono hx hQ fun _ _ _ h => h

/-- A loop keeps what each of its iterations keeps. -/
theorem wp_foldlM {l : List α} {f : β → α → ProgM Op Res σ ε β} {b : β}
    {I : List α → β → σ → γ → Prop} (hI : I [] b s g)
    (hstep : ∀ done a rest b s g, l = done ++ a :: rest → I done b s g →
      wp C (f b a) (fun b' s' g' => I (done ++ [a]) b' s' g') E s g) :
    wp C (l.foldlM f b) (fun b s g => I l b s g) E s g := by
  suffices h : ∀ done rest b s g, l = done ++ rest → I done b s g →
      wp C (rest.foldlM f b) (fun b s g => I l b s g) E s g from h [] l b s g rfl hI
  intro done rest
  induction rest generalizing done with
  | nil =>
    intro b s g hl hdone
    rw [hl, List.append_nil]
    exact hdone
  | cons a rest ih =>
    intro b s g hl hdone
    rw [List.foldlM_cons, wp_bind]
    apply wp_mono (hstep done a rest b s g hl hdone)
    · intro b' s' g' hnext
      exact ih (done ++ [a]) b' s' g' (by rw [hl, List.append_assoc]; rfl) hnext
    · intro e s' g' he
      exact he

/-! ### Computations that keep a predicate -/

/-- However the computation ends, what was true of the state and the view is still true. -/
def Keeps (C : Contract Op Res γ) (P : σ → γ → Prop) (x : ProgM Op Res σ ε α) : Prop :=
  ∀ s g, P s g → wp C x (fun _ => P) (fun _ => P) s g

section Keeps

variable {P : σ → γ → Prop}

theorem keeps_pure {a : α} : Keeps C P (pure a : ProgM Op Res σ ε α) := fun _ _ h => h

theorem keeps_fail : Keeps C P (fail e : ProgM Op Res σ ε α) := fun _ _ h => h

theorem keeps_modify {f : σ → σ} (hf : ∀ s g, P s g → P (f s) g) :
    Keeps C P (modify f : ProgM Op Res σ ε Unit) := hf

theorem keeps_ensure {b : Bool} : Keeps C P (ensure b e : ProgM Op Res σ ε Unit) := by
  cases b
  · exact keeps_fail
  · exact keeps_pure

theorem keeps_ofExcept {x : Except ε α} : Keeps C P (ofExcept x : ProgM Op Res σ ε α) := by
  cases x
  · exact keeps_fail
  · exact keeps_pure

theorem keeps_ofOption {x : Option α} :
    Keeps C P (ofOption e x : ProgM Op Res σ ε α) := by
  cases x
  · exact keeps_fail
  · exact keeps_pure

theorem keeps_perform {op : Op} (hop : ∀ s g r, P s g → C.assume g op r →
    C.guarantee g op r ∧ P s (C.next g op r)) :
    Keeps C P (perform op : ProgM Op Res σ ε (Res op)) := fun s g h r hr => hop s g r h hr

theorem keeps_bind {f : α → ProgM Op Res σ ε β}
    (hx : Keeps C P x) (hf : ∀ a, Keeps C P (f a)) : Keeps C P (x >>= f) := by
  intro s g h
  rw [wp_bind]
  exact wp_mono (hx s g h) (fun a s' g' h' => hf a s' g' h') fun _ _ _ h' => h'

theorem keeps_attempt (hx : Keeps C P x) :
    Keeps C P (attempt x : ProgM Op Res σ ε' (Except ε α)) :=
  fun s g h => wp_attempt.mpr (hx s g h)

theorem keeps_handle {f : ε → ProgM Op Res σ ε' α}
    (hx : Keeps C P x) (hf : ∀ e, Keeps C P (f e)) : Keeps C P (x.handle f) := by
  intro s g h
  rw [wp_handle]
  exact wp_mono (hx s g h) (fun _ _ _ h' => h') fun e s' g' h' => hf e s' g' h'

end Keeps

/-! ### Computations that leave no trace -/

/-- Whatever the computation does, neither the state nor the view changes. -/
def Silent (C : Contract Op Res γ) (x : ProgM Op Res σ ε α) (g : γ) : Prop :=
  ∀ s, wp C x (fun _ s' g' => s' = s ∧ g' = g) (fun _ s' g' => s' = s ∧ g' = g) s g

/-- What a silent step leaves. -/
theorem Silent.wp (hx : Silent C x g) (hQ : ∀ a, Q a s g) (hE : ∀ e, E e s g) : wp C x Q E s g := by
  refine wp_mono (hx s) ?_ ?_
  · rintro a s' g' ⟨rfl, rfl⟩
    exact hQ a
  · rintro e s' g' ⟨rfl, rfl⟩
    exact hE e

theorem silent_pure {a : α} : Silent C (pure a : ProgM Op Res σ ε α) g := fun _ => ⟨rfl, rfl⟩

theorem silent_fail : Silent C (fail e : ProgM Op Res σ ε α) g := fun _ => ⟨rfl, rfl⟩

theorem silent_get : Silent C (get : ProgM Op Res σ ε σ) g := fun _ => ⟨rfl, rfl⟩

theorem silent_ensure {b : Bool} : Silent C (ensure b e : ProgM Op Res σ ε Unit) g := by
  cases b
  · exact silent_fail
  · exact silent_pure

theorem silent_ofOption {x : Option α} :
    Silent C (ofOption e x : ProgM Op Res σ ε α) g := by
  cases x
  · exact silent_fail
  · exact silent_pure

theorem silent_perform {op : Op} (hop : ∀ r, C.guarantee g op r ∧ C.next g op r = g) :
    Silent C (perform op : ProgM Op Res σ ε (Res op)) g := by
  intro s r hr
  obtain ⟨hgood, hnext⟩ := hop r
  exact ⟨hgood, rfl, hnext⟩

theorem silent_bind {f : α → ProgM Op Res σ ε β}
    (hx : Silent C x g) (hf : ∀ a, Silent C (f a) g) : Silent C (x >>= f) g := by
  intro s
  rw [wp_bind]
  exact hx.wp (fun a => hf a s) fun e => ⟨rfl, rfl⟩

end ProgM
