import Mathlib.Data.UInt
import Mathlib.Logic.Function.Basic
import RustFerry.ForStd.ProgGuard

/-!
# Threads on a shared state

A system of programs of which one at a time performs its next operation on a state that all of them
share. What a thread knows is the view of a contract; a relation between the views and the shared
state justifies what the contracts assume, and is kept by what they guarantee.
-/

/-- Threads that share a state. -/
structure SharedThreads (ι Op : Type) (Res : Op → Type) (α σ : Type) where
  threads : ι → Prog Op Res α
  shared : σ

namespace SharedThreads

variable {ι Op : Type} {Res : Op → Type} {α σ γ : Type} [DecidableEq ι]

/-- A thread performs its next operation, which has an effect on the shared state. -/
inductive Step (effect : ι → σ → (op : Op) → Res op → σ → Prop) :
    SharedThreads ι Op Res α σ → ι → Event Op Res → SharedThreads ι Op Res α σ → Prop where
  | perform {s : SharedThreads ι Op Res α σ} {i : ι} {op : Op} {next : Res op → Prog Op Res α}
    {r : Res op} {shared : σ} (hnext : s.threads i = .call op next)
    (heffect : effect i s.shared op r shared) :
    Step effect s i ⟨op, r⟩ ⟨Function.update s.threads i (next r), shared⟩

/-- `Runs effect start h s`: after the operations `h`, latest first, the system is `s`. -/
inductive Runs (effect : ι → σ → (op : Op) → Res op → σ → Prop)
    (start : SharedThreads ι Op Res α σ) :
    List (ι × Event Op Res) → SharedThreads ι Op Res α σ → Prop where
  | start : Runs effect start [] start
  | step {h : List (ι × Event Op Res)} {s s' : SharedThreads ι Op Res α σ} {i : ι}
    {e : Event Op Res} : Runs effect start h s → Step effect s i e s' →
    Runs effect start ((i, e) :: h) s'

variable {effect : ι → σ → (op : Op) → Res op → σ → Prop} {s : SharedThreads ι Op Res α σ}

/-- What the next operation of a thread guarantees, and what the threads know after it. -/
theorem Step.views {C : Contract Op Res γ}
    {Q : α → γ → Prop} {s' : SharedThreads ι Op Res α σ} {i : ι} {e : Event Op Res}
    {views : ι → γ} (hstep : Step effect s i e s')
    (hassume : ∀ op r shared, effect i s.shared op r shared → C.assume (views i) op r)
    (hwp : ∀ j, (s.threads j).wp C Q (views j)) :
    effect i s.shared e.op e.response s'.shared ∧ C.guarantee (views i) e.op e.response ∧
      ∀ j, (s'.threads j).wp C Q
        (Function.update views i (C.next (views i) e.op e.response) j) := by
  cases hstep with
  | perform hnext heffect =>
    have hown := hwp i
    rw [hnext] at hown
    obtain ⟨hgood, hrest⟩ := hown _ (hassume _ _ _ heffect)
    refine ⟨heffect, hgood, ?_⟩
    intro j
    by_cases hj : j = i
    · subst hj
      simp only [Function.update_self]
      exact hrest
    · simp only [Function.update_of_ne hj]
      exact hwp j

/-- A relation between what the threads know and the shared state holds along every run. -/
theorem Runs.views {C : Contract Op Res γ}
    {Q : α → γ → Prop} {R : List (ι × Event Op Res) → (ι → γ) → σ → Prop}
    {start : SharedThreads ι Op Res α σ} {h : List (ι × Event Op Res)} {views₀ : ι → γ}
    (hassume : ∀ h views shared i op r shared', R h views shared → effect i shared op r shared' →
      C.assume (views i) op r)
    (hkeep : ∀ h views shared i op r shared', R h views shared → effect i shared op r shared' →
      C.guarantee (views i) op r →
      R ((i, ⟨op, r⟩) :: h) (Function.update views i (C.next (views i) op r)) shared')
    (hinit : R [] views₀ start.shared) (hwp : ∀ i, (start.threads i).wp C Q (views₀ i))
    (hruns : Runs effect start h s) :
    ∃ views, R h views s.shared ∧ ∀ i, (s.threads i).wp C Q (views i) := by
  induction hruns with
  | start => exact ⟨views₀, hinit, hwp⟩
  | @step h s s' i e _ hstep ih =>
    obtain ⟨views, hR, hkept⟩ := ih
    obtain ⟨heffect, hgood, hnext⟩ :=
      hstep.views (fun op r shared => hassume h views _ i op r shared hR) hkept
    exact ⟨_, hkeep h views _ i _ _ _ hR heffect hgood, hnext⟩

/-- A thread performs its next operations, answered by a function of the shared state. -/
def advance (answer : σ → (op : Op) → Res op × σ) (i : ι) :
    (steps : Nat) → SharedThreads ι Op Res α σ → SharedThreads ι Op Res α σ
  | 0, s => s
  | steps + 1, s =>
    match s.threads i with
    | .ret _ => s
    | .call op next => advance answer i steps
      ⟨Function.update s.threads i (next (answer s.shared op).1), (answer s.shared op).2⟩

/-- Steps of one thread extend a run. -/
theorem Runs.advance {start : SharedThreads ι Op Res α σ} {h : List (ι × Event Op Res)}
    {answer : σ → (op : Op) → Res op × σ} {i : ι} (hruns : Runs effect start h s)
    (hanswer : ∀ shared op, effect i shared op (answer shared op).1 (answer shared op).2)
    (steps : Nat) : ∃ h', Runs effect start h' (s.advance answer i steps) := by
  induction steps generalizing h s with
  | zero => exact ⟨h, hruns⟩
  | succ steps ih =>
    rw [SharedThreads.advance]
    cases hnext : s.threads i with
    | ret a => exact ⟨h, hruns⟩
    | call op next => exact ih (hruns.step (.perform hnext (hanswer s.shared op)))

end SharedThreads

/-! ## Renamed operations -/

variable {Op Op' : Type} {Res' : Op' → Type} {σ ε α γ : Type}

/-- The contract as it reads for the operations before they are renamed. -/
def Contract.through (C : Contract Op' Res' γ) (f : Op → Op') :
    Contract Op (fun op => Res' (f op)) γ where
  next g op r := C.next g (f op) r
  assume g op r := C.assume g (f op) r
  guarantee g op r := C.guarantee g (f op) r

theorem Prog.wp_interpret_perform {C : Contract Op' Res' γ} {f : Op → Op'}
    {p : Prog Op (fun op => Res' (f op)) α} {Q : α → γ → Prop} {g : γ} :
    (p.interpret fun op => Prog.perform (f op)).wp C Q g ↔ p.wp (C.through f) Q g := by
  induction p generalizing g with
  | ret a => exact Iff.rfl
  | call op next ih =>
    apply forall_congr'
    intro r
    apply imp_congr_right
    intro _
    exact and_congr_right fun _ => ih r

namespace ProgM

/-- Every operation is performed under another name. -/
def through (f : Op → Op') (x : ProgM Op (fun op => Res' (f op)) σ ε α) :
    ProgM Op' Res' σ ε α :=
  fun s => (x s).interpret fun op => Prog.perform (f op)

theorem wp_through {C : Contract Op' Res' γ} {f : Op → Op'}
    {x : ProgM Op (fun op => Res' (f op)) σ ε α} {Q : α → σ → γ → Prop} {E : ε → σ → γ → Prop}
    {s : σ} {g : γ} : wp C (through f x) Q E s g ↔ wp (C.through f) x Q E s g :=
  Prog.wp_interpret_perform

/-- A computation on one part of the state. -/
def zoom {τ : Type} {Res : Op → Type} (get : σ → τ) (set : τ → σ → σ)
    (x : ProgM Op Res τ ε α) : ProgM Op Res σ ε α :=
  fun s => (x (get s)).bind fun out => .ret (out.1, set out.2 s)

/-- A part of the state. -/
theorem wp_zoom {τ : Type} {Res : Op → Type} {get : σ → τ} {set : τ → σ → σ}
    {C : Contract Op Res γ} {x : ProgM Op Res τ ε α} {Q : α → σ → γ → Prop}
    {E : ε → σ → γ → Prop} {s : σ} {g : γ} :
    wp C (zoom get set x) Q E s g ↔
      wp C x (fun a t g => Q a (set t s) g) (fun e t g => E e (set t s) g) (get s) g := by
  show ((x (get s)).bind _).wp C _ g ↔ _
  rw [Prog.wp_bind]
  constructor
  · apply Prog.wp_mono
    intro out g hout
    obtain ⟨_ | _, _⟩ := out <;> exact hout
  · apply Prog.wp_mono
    intro out g hout
    obtain ⟨_ | _, _⟩ := out <;> exact hout

variable {Res : Op → Type} {C : Contract Op Res γ} {g : γ}

/-- An operation without effect on the view, when it is answered as assumed. -/
theorem silent_assumed {op : Op}
    (hop : ∀ r, C.assume g op r → C.guarantee g op r ∧ C.next g op r = g) :
    Silent C (perform op : ProgM Op Res σ ε (Res op)) g := by
  intro s r hr
  obtain ⟨hgood, hnext⟩ := hop r hr
  exact ⟨hgood, rfl, hnext⟩

theorem silent_ofExcept {x : Except ε α} :
    Silent C (ofExcept x : ProgM Op Res σ ε α) g := by
  cases x
  · exact silent_fail
  · exact silent_pure

theorem silent_mapError {ε' : Type} {f : ε → ε'} {x : ProgM Op Res σ ε α} (hx : Silent C x g) :
    Silent C (mapError x f) g := by
  intro s
  rw [wp_mapError]
  exact hx.wp (fun _ => ⟨rfl, rfl⟩) fun _ => ⟨rfl, rfl⟩

/-- What leaves no trace keeps every predicate. -/
theorem Silent.keeps {P : σ → γ → Prop} {x : ProgM Op Res σ ε α}
    (hx : ∀ s g, P s g → Silent C x g) : Keeps C P x :=
  fun s g h => (hx s g h).wp (fun _ => h) fun _ => h

end ProgM
