import RustFerry.ForStd.Prog

/-!
# Threads

A thread is a program with its past. In a system of threads every step answers the next
operation of one of them; a contract that a program keeps from the start is kept by its
thread, as long as the answers are as assumed.
-/

/-- What remains of a program, and the events so far. -/
structure Thread (Op : Type) (Res : Op → Type) (α : Type) where
  rest : Prog Op Res α
  past : History Op Res

namespace Thread

variable {Op : Type} {Res : Op → Type} {α γ : Type}

def start (p : Prog Op Res α) : Thread Op Res α := ⟨p, []⟩

/-- The next operation of the thread is answered. -/
inductive Step : Thread Op Res α → (op : Op) → Res op → Thread Op Res α → Prop where
  | answer {op : Op} {next : Res op → Prog Op Res α} {h : History Op Res} (r : Res op) :
    Step ⟨.call op next, h⟩ op r ⟨next r, ⟨op, r⟩ :: h⟩

/-- The view of a contract after the events so far. -/
def view (C : Contract Op Res γ) (g : γ) (t : Thread Op Res α) : γ := C.view g t.past

/-- The contract was kept so far, and will be. -/
structure Keeps (C : Contract Op Res γ) (g : γ) (Q : α → γ → Prop) (t : Thread Op Res α) :
    Prop where
  past : C.Guaranteed g t.past
  rest : t.rest.wp C Q (t.view C g)

/-- Let the next operation be answered, together with some other state. -/
def resume {σ : Type} (t : Thread Op Res α) (answer : (op : Op) → Option (Res op × σ)) :
    Option (Event Op Res × Thread Op Res α × σ) :=
  match t.rest with
  | .ret _ => none
  | .call op next => (answer op).map fun (r, s) => (⟨op, r⟩, ⟨next r, ⟨op, r⟩ :: t.past⟩, s)

/-- A resumed thread makes a step. -/
theorem resume_eq_some {σ : Type} {t t' : Thread Op Res α} {s : σ} {e : Event Op Res}
    {answer : (op : Op) → Option (Res op × σ)} (h : t.resume answer = some (e, t', s)) :
    t.Step e.op e.response t' ∧ answer e.op = some (e.response, s) := by
  obtain ⟨rest, past⟩ := t
  cases rest with
  | ret a => cases h
  | call op next =>
    obtain ⟨⟨r, s'⟩, hanswer, heq⟩ := Option.map_eq_some_iff.mp h
    cases heq
    exact ⟨.answer r, hanswer⟩

variable {C : Contract Op Res γ} {g : γ} {Q : α → γ → Prop} {t t' : Thread Op Res α} {op : Op}
  {r : Res op}

theorem Step.past_eq (h : Step t op r t') : t'.past = ⟨op, r⟩ :: t.past := by
  cases h with
  | answer => rfl

/-- A thread has the past of a run of its program. -/
theorem Step.runs {p : Prog Op Res α} (h : Step t op r t') (hruns : p.Runs t.past t.rest) :
    p.Runs t'.past t'.rest := by
  cases h with
  | answer => exact .step r hruns

theorem Step.view_eq (h : Step t op r t') : t'.view C g = C.next (t.view C g) op r := by
  cases h with
  | answer => rfl

theorem keeps_start {p : Prog Op Res α} (h : p.wp C Q g) : (start p).Keeps C g Q := ⟨trivial, h⟩

/-- A step that is answered as assumed keeps the contract. -/
theorem Keeps.step (hk : t.Keeps C g Q) (h : Step t op r t')
    (hassume : C.assume (t.view C g) op r) :
    C.guarantee (t.view C g) op r ∧ t'.Keeps C g Q := by
  cases h with
  | answer =>
    obtain ⟨hevent, hnext⟩ := hk.rest r hassume
    exact ⟨hevent, ⟨hevent, hk.past⟩, hnext⟩

/-- A thread that has returned did so with its postcondition. -/
theorem Keeps.returned {a : α} (hk : t.Keeps C g Q) (h : t.rest = .ret a) :
    Q a (t.view C g) := by
  have hrest := hk.rest
  rw [h] at hrest
  exact hrest

end Thread
