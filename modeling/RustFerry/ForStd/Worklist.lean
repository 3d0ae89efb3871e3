import RustFerry.ForStd.Except

/-!
# Work lists

The loop `while let Some(item) = stack.pop()` whose body may fail and may push more items.
The loop runs on fuel; each turn takes one item off the stack and pays for each item that it
pushes, so the length of the stack and what is left to pay bound the number of turns.
-/

namespace Worklist

open Except

variable {ε σ α : Type}

/-- One turn for each item of the stack, its top first. -/
def drain (exhausted : ε) (step : σ → α → Except ε (σ × List α)) :
    (fuel : Nat) → List α → σ → Except ε σ
  | _, [], state => .ok state
  | 0, _ :: _, _ => .error exhausted
  | fuel + 1, item :: stack, state => do
    let (state, pushed) ← step state item
    drain exhausted step fuel (pushed ++ stack) state

variable {exhausted : ε} {step : σ → α → Except ε (σ × List α)}

@[simp] theorem drain_nil {fuel : Nat} {state : σ} :
    drain exhausted step fuel [] state = .ok state := by
  cases fuel <;> rfl

/-- One item is taken. -/
theorem drain_cons_eq_ok {fuel : Nat} {item : α} {stack : List α} {state final : σ} :
    drain exhausted step (fuel + 1) (item :: stack) state = .ok final ↔
      ∃ state' pushed, step state item = .ok (state', pushed) ∧
        drain exhausted step fuel (pushed ++ stack) state' = .ok final := by
  rw [drain, bind_eq_ok]
  constructor
  · intro hparts
    obtain ⟨⟨state', pushed⟩, hstep, hrest⟩ := hparts
    exact ⟨state', pushed, hstep, hrest⟩
  · intro hparts
    obtain ⟨state', pushed, hstep, hrest⟩ := hparts
    exact ⟨(state', pushed), hstep, hrest⟩

/-- What every turn preserves holds when the stack is empty. -/
theorem drain_invariant {Inv : List α → σ → Prop}
    (hstep : ∀ item stack state state' pushed, Inv (item :: stack) state →
      step state item = .ok (state', pushed) → Inv (pushed ++ stack) state')
    {fuel : Nat} {stack : List α} {state final : σ} (hinit : Inv stack state)
    (h : drain exhausted step fuel stack state = .ok final) : Inv [] final := by
  induction fuel generalizing stack state with
  | zero =>
    cases stack with
    | nil =>
      cases h
      exact hinit
    | cons _ _ => cases h
  | succ fuel ih =>
    cases stack with
    | nil =>
      cases h
      exact hinit
    | cons item stack =>
      obtain ⟨state', pushed, hturn, hrest⟩ := drain_cons_eq_ok.mp h
      exact ih (hstep item stack state state' pushed hinit hturn) hrest

/-- A loop ends with its invariant when each turn succeeds, keeps it and pays for what it
    pushes. -/
theorem drain_progress {Inv : List α → σ → Prop} {credit : σ → Nat}
    (hstep : ∀ item stack state, Inv (item :: stack) state → ∃ state' pushed,
      step state item = .ok (state', pushed) ∧ Inv (pushed ++ stack) state' ∧
        pushed.length + credit state' ≤ credit state)
    {fuel : Nat} {stack : List α} {state : σ} (hinit : Inv stack state)
    (hfuel : stack.length + credit state ≤ fuel) :
    ∃ final, drain exhausted step fuel stack state = .ok final ∧ Inv [] final := by
  induction fuel generalizing stack state with
  | zero =>
    cases stack with
    | nil => exact ⟨state, drain_nil, hinit⟩
    | cons item stack => simp at hfuel
  | succ fuel ih =>
    cases stack with
    | nil => exact ⟨state, drain_nil, hinit⟩
    | cons item stack =>
      obtain ⟨state', pushed, hturn, hinv, hcredit⟩ := hstep item stack state hinit
      have hless : (pushed ++ stack).length + credit state' ≤ fuel := by
        rw [List.length_append]
        rw [List.length_cons] at hfuel
        omega
      obtain ⟨final, hfinal, hend⟩ := ih hinv hless
      exact ⟨final, drain_cons_eq_ok.mpr ⟨state', pushed, hturn, hfinal⟩, hend⟩

/-- With fuel for the stack and for what is left to pay, more fuel changes nothing, and the
    error of an exhausted loop does not occur. -/
theorem drain_fuel {exhausted' : ε} {credit : σ → Nat}
    (hstep : ∀ item state state' pushed, step state item = .ok (state', pushed) →
      pushed.length + credit state' ≤ credit state)
    {fuel fuel' : Nat} {stack : List α} {state : σ}
    (hfuel : stack.length + credit state ≤ fuel) (hfuel' : stack.length + credit state ≤ fuel') :
    drain exhausted step fuel stack state = drain exhausted' step fuel' stack state := by
  induction fuel generalizing fuel' stack state with
  | zero =>
    cases stack with
    | nil => rw [drain_nil, drain_nil]
    | cons item stack => simp at hfuel
  | succ fuel ih =>
    cases stack with
    | nil => rw [drain_nil, drain_nil]
    | cons item stack =>
      cases fuel' with
      | zero => simp at hfuel'
      | succ fuel' =>
        rw [drain, drain]
        cases hturn : step state item with
        | error e => rfl
        | ok next =>
          obtain ⟨state', pushed⟩ := next
          have hcredit := hstep item state state' pushed hturn
          rw [List.length_cons] at hfuel hfuel'
          apply ih
          · rw [List.length_append]
            omega
          · rw [List.length_append]
            omega

end Worklist
