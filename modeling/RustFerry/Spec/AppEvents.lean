import Mathlib.Algebra.BigOperators.Group.Finset.Basic
import Mathlib.Data.Fintype.BigOperators
import RustFerry.ForStd.BTreeMap
import RustFerry.ForStd.WaitGraph
import RustFerry.Native.AppEvents

/-!
# Subscriptions are dropped safely

Whatever the threads of an application do, a listener counts its running callbacks, and after the
drop of a subscription has returned none of its callbacks starts or runs on another thread. That
some thread can always go on needs more: two callbacks that drop each other's subscriptions wait
for each other. It is enough that no drop closes a cycle of waiting.
-/

namespace RustFerry.AppEvents

open Relation

section

variable {Thread Event Status : Type} [DecidableEq Thread] {s' : State Thread Event Status}

/-! ## Running callbacks -/

def Frame.isBody (listener : ListenerRef) : Frame Event → Bool
  | .body running => running == listener
  | _ => false

/-- The callbacks of a listener that run on a thread. -/
def running (s : State Thread Event Status) (thread : Thread) (listener : ListenerRef) : Nat :=
  (s.frames thread).countP (Frame.isBody listener)

/-- The thread is blocked by a callback on the other one. -/
def WaitsFor (s : State Thread Event Status) (thread other : Thread) : Prop :=
  ∃ subscription listener own rest, s.frames thread = .waiting subscription listener own :: rest ∧
    other ≠ thread ∧ 0 < running s other listener

omit [DecidableEq Thread] in
theorem running_pos {s : State Thread Event Status} {thread : Thread} {listener : ListenerRef} :
    0 < running s thread listener ↔ .body listener ∈ s.frames thread := by
  rw [running, List.countP_pos_iff]
  constructor
  · intro h
    obtain ⟨frame, hmem, hbody⟩ := h
    cases frame with
    | body found =>
      have hsame : found = listener := by simpa [Frame.isBody] using hbody
      rw [← hsame]
      exact hmem
    | _ => cases hbody
  · intro h
    exact ⟨_, h, by simp [Frame.isBody]⟩

/-- A new stack changes what its thread runs. -/
theorem running_setStack (s : State Thread Event Status) (thread other : Thread)
    (stack : List (Frame Event)) (listener : ListenerRef) :
    running (s.setStack thread stack) other listener =
      if other = thread then stack.countP (Frame.isBody listener)
      else running s other listener := by
  unfold running State.setStack
  by_cases hother : other = thread
  · simp [hother]
  · simp [hother]

variable {state : ListenerState Thread} {listeners : List ListenerRef}

theorem running_begin (s : State Thread Event Status) (thread other : Thread) {event : Event}
    {listener found : ListenerRef} {rest : List (Frame Event)}
    (htop : s.frames thread = .calling event (listener :: listeners) :: rest) :
    running ((s.setListener listener state).setStack thread
        (.body listener :: .calling event listeners :: rest)) other found =
      running s other found + if other = thread ∧ found = listener then 1 else 0 := by
  rw [running_setStack]
  by_cases hother : other = thread
  · have hcount : running s thread found = rest.countP (Frame.isBody found) := by
      rw [running, htop, List.countP_cons_of_neg (by simp [Frame.isBody])]
    rw [if_pos hother, hother, hcount, List.countP_cons,
      List.countP_cons_of_neg (by simp [Frame.isBody])]
    by_cases hsame : found = listener
    · simp [Frame.isBody, hsame]
    · simp [Frame.isBody, hsame, Ne.symm hsame]
  · rw [if_neg hother, if_neg fun hboth => hother hboth.1]
    rfl

theorem running_leave (s : State Thread Event Status) (thread other : Thread)
    {listener found : ListenerRef} {rest : List (Frame Event)} (state : ListenerState Thread)
    (htop : s.frames thread = .body listener :: rest) :
    running s other found =
      running ((s.setListener listener state).setStack thread rest) other found +
        if other = thread ∧ found = listener then 1 else 0 := by
  rw [running_setStack]
  by_cases hother : other = thread
  · rw [if_pos hother, hother, running, htop, List.countP_cons]
    by_cases hsame : found = listener
    · simp [Frame.isBody, hsame]
    · simp [Frame.isBody, hsame, Ne.symm hsame]
  · rw [if_neg hother, if_neg fun hboth => hother hboth.1]
    rfl

theorem leave_executing (state : ListenerState Thread) (thread other : Thread) :
    (state.leave thread).executing other =
      if other = thread then state.executing other - 1 else state.executing other := by
  unfold ListenerState.leave
  by_cases hother : other = thread
  · simp [hother]
  · simp [hother]

/-! ## Invariant -/

/-- The listeners that a frame refers to were allocated. -/
def Frame.Ok (allocated : Nat) : Frame Event → Prop
  | .calling _ listeners => ∀ listener ∈ listeners, listener < allocated
  | .body listener => listener < allocated
  | .deactivating subscription listener | .waiting subscription listener _ =>
    listener = subscription.listener ∧ listener < allocated
  | .inserting _ | .recording _ | .collecting _ => True

/-- Allocation keeps frames in order. -/
theorem Frame.Ok.mono {allocated allocated' : Nat} {frame : Frame Event} (h : frame.Ok allocated)
    (hle : allocated ≤ allocated') : frame.Ok allocated' := by
  cases frame with
  | calling => exact fun listener hmem => lt_of_lt_of_le (h listener hmem) hle
  | body => exact lt_of_lt_of_le (b := allocated) h hle
  | deactivating | waiting => exact ⟨h.1, lt_of_lt_of_le h.2 hle⟩
  | inserting | recording | collecting => trivial

def Frame.isWaiting : Frame Event → Bool
  | .waiting _ _ _ => true
  | _ => false

/-- What a step changes that does not begin to wait: the stack of the thread, and the state of one
listener. -/
structure Changes (s s' : State Thread Event Status) (thread : Thread)
    (stack : List (Frame Event)) (listener : ListenerRef) (state : ListenerState Thread) : Prop
      where
  frames : s'.frames = Function.update s.frames thread stack
  heap : s'.heap = Function.update s.heap listener state
  allocated : s'.allocated = s.allocated
  listeners : s'.listeners = s.listeners
  subscriptions : s'.subscriptions = s.subscriptions
  returned : s'.returned = s.returned

variable {stack : List (Frame Event)} {s' : State Thread Event Status}

/-- The bodies that run after such a step. -/
theorem Changes.running {s : State Thread Event Status} {thread : Thread} {listener : ListenerRef}
    (h : Changes s s' thread stack listener state) (other : Thread) (found : ListenerRef) :
    running s' other found = if other = thread then stack.countP (Frame.isBody found)
      else running s other found := by
  unfold AppEvents.running
  rw [h.frames]
  by_cases hother : other = thread
  · simp [hother]
  · simp [hother]

theorem changes_setListener (s : State Thread Event Status) (thread : Thread)
    (stack : List (Frame Event)) (listener : ListenerRef) (state : ListenerState Thread) :
    Changes s ((s.setListener listener state).setStack thread stack) thread stack listener state :=
  ⟨rfl, rfl, rfl, rfl, rfl, rfl⟩

section

variable [Fintype Thread]

structure Inv (s : State Thread Event Status) : Prop where
  executing : ∀ listener thread,
    (s.heap listener).executing thread = running s thread listener
  inFlight : ∀ listener, (s.heap listener).inFlight = ∑ thread, running s thread listener
  frames : ∀ thread, ∀ frame ∈ s.frames thread, frame.Ok s.allocated
  /-- A thread that waits does nothing else. -/
  below : ∀ thread, ∀ frame ∈ (s.frames thread).tail, frame.isWaiting = false
  /-- The bus knows the listeners of the subscriptions. -/
  registered : ∀ subscription ∈ s.subscriptions,
    s.listeners.lookup subscription.id = some subscription.listener
  distinct : s.subscriptions.Pairwise fun a b => a.id ≠ b.id
  listeners : ∀ entry ∈ s.listeners, entry.2 < s.allocated
  waiting : ∀ thread subscription listener own rest,
    s.frames thread = .waiting subscription listener own :: rest →
      (s.heap listener).active = false ∧ own = running s thread listener
  acyclic : WaitGraph.Acyclic (WaitsFor s)
  returned : ∀ drop ∈ s.returned, drop.1 < s.allocated ∧ (s.heap drop.1).active = false ∧
    ∀ other, other ≠ drop.2 → running s other drop.1 = 0

variable {s : State Thread Event Status} {thread : Thread} {listener : ListenerRef}
  {frame : Frame Event} {rest : List (Frame Event)} {subscription : Subscription}

omit [DecidableEq Thread] in
/-- A state that has the same frames, listeners and subscriptions. -/
theorem Inv.congr (h : Inv s) (hframes : s'.frames = s.frames) (hheap : s'.heap = s.heap)
    (hallocated : s'.allocated = s.allocated) (hlisteners : s'.listeners = s.listeners)
    (hsubscriptions : s'.subscriptions = s.subscriptions) (hreturned : s'.returned = s.returned) :
    Inv s' := by
  obtain ⟨_, _, _, _, heap, allocated, subscriptions, frames, _, returned⟩ := s'
  simp only at hframes hheap hallocated hlisteners hsubscriptions hreturned
  subst hframes hheap hallocated hlisteners hsubscriptions hreturned
  exact ⟨h.executing, h.inFlight, h.frames, h.below, h.registered, h.distinct, h.listeners,
    h.waiting, h.acyclic, h.returned⟩

/-- A step that counts what it starts keeps the invariant. -/
theorem Inv.changes (h : Inv s) (hchanges : Changes s s' thread stack listener state)
    (hok : ∀ frame ∈ stack, frame.Ok s.allocated ∧ frame.isWaiting = false)
    (hexecuting : ∀ other, state.executing other = running s' other listener)
    (hinFlight : state.inFlight = ∑ other, running s' other listener)
    (hsame : ∀ found, found ≠ listener → stack.countP (Frame.isBody found) = running s thread found)
    (hactive : (s.heap listener).active = false → state.active = false ∧ stack.countP (Frame.isBody
      listener) ≤ running s thread listener) :
    Inv s' := by
  have hothers : ∀ other found, other ≠ thread → running s' other found = running s other found := by
    intro other found hne
    rw [hchanges.running, if_neg hne]
  have hkept : ∀ other found, found ≠ listener → running s' other found = running s other found := by
    intro other found hne
    rw [hchanges.running]
    split
    · rename_i hthread
      rw [hsame found hne, hthread]
    · rfl
  -- an inactive listener stays so, and no callback of it is begun
  have hinactive : ∀ found, (s.heap found).active = false → (s'.heap found).active = false ∧
      ∀ other, running s' other found ≤ running s other found := by
    intro found hfalse
    rw [hchanges.heap]
    by_cases hfound : found = listener
    · rw [hfound] at hfalse ⊢
      obtain ⟨hstate, hle⟩ := hactive hfalse
      rw [Function.update_self]
      refine ⟨hstate, ?_⟩
      intro other
      rw [hchanges.running]
      split
      · rename_i hthread
        rw [hthread]
        exact hle
      · exact le_refl _
    · rw [Function.update_of_ne hfound]
      exact ⟨hfalse, fun other => (hkept other found hfound).le⟩
  -- a thread that waits is another one
  have hwaits : ∀ {other subscription found own rest},
      s'.frames other = .waiting subscription found own :: rest →
        other ≠ thread ∧ s.frames other = .waiting subscription found own :: rest := by
    intro other subscription found own rest htop
    rw [hchanges.frames] at htop
    by_cases hthread : other = thread
    · rw [hthread, Function.update_self] at htop
      have hnot := (hok (.waiting subscription found own) (htop ▸ List.mem_cons_self)).2
      cases hnot
    · rw [Function.update_of_ne hthread] at htop
      exact ⟨hthread, htop⟩
  constructor
  · intro found other
    rw [hchanges.heap]
    by_cases hfound : found = listener
    · rw [hfound, Function.update_self]
      exact hexecuting other
    · rw [Function.update_of_ne hfound, hkept other found hfound]
      exact h.executing found other
  · intro found
    rw [hchanges.heap]
    by_cases hfound : found = listener
    · rw [hfound, Function.update_self]
      exact hinFlight
    · simp only [Function.update_of_ne hfound, hkept _ found hfound]
      exact h.inFlight found
  · intro other frame hframe
    rw [hchanges.frames] at hframe
    rw [hchanges.allocated]
    by_cases hthread : other = thread
    · rw [hthread, Function.update_self] at hframe
      exact (hok frame hframe).1
    · rw [Function.update_of_ne hthread] at hframe
      exact h.frames other frame hframe
  · intro other frame hframe
    rw [hchanges.frames] at hframe
    by_cases hthread : other = thread
    · rw [hthread, Function.update_self] at hframe
      exact (hok frame (List.mem_of_mem_tail hframe)).2
    · rw [Function.update_of_ne hthread] at hframe
      exact h.below other frame hframe
  · rw [hchanges.subscriptions, hchanges.listeners]
    exact h.registered
  · rw [hchanges.subscriptions]
    exact h.distinct
  · rw [hchanges.listeners, hchanges.allocated]
    exact h.listeners
  · intro other subscription found own rest htop
    obtain ⟨hne, hold⟩ := hwaits htop
    obtain ⟨hfalse, hown⟩ := h.waiting other subscription found own rest hold
    rw [hothers other found hne]
    exact ⟨(hinactive found hfalse).1, hown⟩
  · apply h.acyclic.mono
    intro a b hedge
    obtain ⟨subscription, found, own, rest, htop, hne, hpos⟩ := hedge
    obtain ⟨-, hold⟩ := hwaits htop
    obtain ⟨hfalse, -⟩ := h.waiting a subscription found own rest hold
    exact ⟨subscription, found, own, rest, hold, hne,
      lt_of_lt_of_le hpos ((hinactive found hfalse).2 b)⟩
  · intro drop hdrop
    rw [hchanges.returned] at hdrop
    obtain ⟨hallocated, hfalse, hzero⟩ := h.returned drop hdrop
    rw [hchanges.allocated]
    refine ⟨hallocated, (hinactive drop.1 hfalse).1, ?_⟩
    intro other hother
    have hle := (hinactive drop.1 hfalse).2 other
    rw [hzero other hother] at hle
    exact Nat.le_zero.mp hle

/-- The stack of a thread changes, but not the callbacks on it. -/
theorem Inv.setStack (h : Inv s)
    (hcount : ∀ listener, stack.countP (Frame.isBody listener) = running s thread listener)
    (hok : ∀ frame ∈ stack, frame.Ok s.allocated ∧ frame.isWaiting = false) :
    Inv (s.setStack thread stack) := by
  have hrunning : ∀ other listener,
      running (s.setStack thread stack) other listener = running s other listener := by
    intro other listener
    rw [running_setStack]
    split
    · rename_i hsame
      rw [hcount, hsame]
    · rfl
  have hchanges : Changes s (s.setStack thread stack) thread stack 0 (s.heap 0) := by
    refine ⟨rfl, ?_, rfl, rfl, rfl, rfl⟩
    rw [Function.update_eq_self]
    rfl
  apply h.changes hchanges hok
  · intro other
    rw [hrunning]
    exact h.executing 0 other
  · simp only [hrunning]
    exact h.inFlight 0
  · intro found _
    exact hcount found
  · intro hfalse
    exact ⟨hfalse, (hcount 0).le⟩

/-- The drop of a subscription returns. -/
theorem Inv.dropReturned (h : Inv s)
    (hcount : ∀ listener, stack.countP (Frame.isBody listener) = running s thread listener)
    (hok : ∀ frame ∈ stack, frame.Ok s.allocated ∧ frame.isWaiting = false)
    (hallocated : subscription.listener < s.allocated)
    (hinactive : (s.heap subscription.listener).active = false)
    (hothers : ∀ other, other ≠ thread → running s other subscription.listener = 0) :
    Inv (s.dropReturned thread subscription stack) := by
  have hreturned : Inv { s with returned := (subscription.listener, thread) :: s.returned } := by
    refine ⟨h.executing, h.inFlight, h.frames, h.below, h.registered, h.distinct, h.listeners,
      h.waiting, h.acyclic, ?_⟩
    intro drop hdrop
    rcases List.mem_cons.mp hdrop with rfl | hdrop
    · exact ⟨hallocated, hinactive, hothers⟩
    · exact h.returned drop hdrop
  exact hreturned.setStack hcount hok

/-! ## Callbacks -/

/-- The sum of a count that grows on one thread. -/
theorem sum_add_ite (f : Thread → Nat) (thread : Thread) :
    ∑ other, (f other + if other = thread then 1 else 0) = ∑ other, f other + 1 := by
  simp only [Finset.sum_add_distrib, Finset.sum_ite_eq', Finset.mem_univ, if_true]

/-- A callback is begun. -/
theorem Inv.begin (h : Inv s) {event : Event}
    (htop : s.frames thread = .calling event (listener :: listeners) :: rest)
    (hbegin : (s.heap listener).begin thread = some state) :
    Inv ((s.setListener listener state).setStack thread
      (.body listener :: .calling event listeners :: rest)) := by
  -- only this thread gains a running body, of this listener
  have hrunning : ∀ other, running ((s.setListener listener state).setStack thread
      (.body listener :: .calling event listeners :: rest)) other listener =
        running s other listener + if other = thread then 1 else 0 := by
    intro other
    rw [running_begin s thread other htop]
    simp
  have hcalling := h.frames thread (.calling event (listener :: listeners))
    (htop ▸ List.mem_cons_self)
  unfold ListenerState.begin at hbegin
  split at hbegin
  · cases hbegin
  · rename_i hactive
    cases hbegin
    apply h.changes (changes_setListener s thread _ listener _)
    · intro frame hframe
      rcases List.mem_cons.mp hframe with rfl | hframe
      · exact ⟨hcalling listener List.mem_cons_self, rfl⟩
      · rcases List.mem_cons.mp hframe with rfl | hframe
        · exact ⟨fun found hfound => hcalling found (List.mem_cons_of_mem _ hfound), rfl⟩
        · exact ⟨h.frames thread frame (htop ▸ List.mem_cons_of_mem _ hframe),
            h.below thread frame (htop ▸ hframe)⟩
    · intro other
      rw [hrunning]
      by_cases hthread : other = thread
      · simp [hthread, h.executing]
      · simp [hthread, h.executing]
    · simp only [hrunning, sum_add_ite]
      rw [h.inFlight]
    · intro found hfound
      rw [List.countP_cons_of_neg (by simp [Frame.isBody, Ne.symm hfound]),
        List.countP_cons_of_neg (by simp [Frame.isBody]), running, htop,
        List.countP_cons_of_neg (by simp [Frame.isBody])]
    · intro hfalse
      simp [hfalse] at hactive

/-- A callback returns. -/
theorem Inv.leave (h : Inv s) (htop : s.frames thread = .body listener :: rest) :
    Inv ((s.setListener listener ((s.heap listener).leave thread)).setStack thread rest) := by
  have hrunning : ∀ other, running s other listener =
      running ((s.setListener listener ((s.heap listener).leave thread)).setStack thread rest)
        other listener + if other = thread then 1 else 0 := by
    intro other
    rw [running_leave s thread other ((s.heap listener).leave thread) htop]
    simp
  apply h.changes (changes_setListener s thread _ listener _)
  · intro frame hframe
    exact ⟨h.frames thread frame (htop ▸ List.mem_cons_of_mem _ hframe),
      h.below thread frame (htop ▸ hframe)⟩
  · intro other
    have hexecuting := h.executing listener other
    rw [hrunning] at hexecuting
    rw [leave_executing]
    by_cases hthread : other = thread
    · rw [if_pos hthread] at hexecuting ⊢
      rw [hexecuting, Nat.add_sub_cancel]
    · rw [if_neg hthread] at hexecuting ⊢
      rw [hexecuting, Nat.add_zero]
  · have hinFlight := h.inFlight listener
    simp only [hrunning, sum_add_ite] at hinFlight
    show (s.heap listener).inFlight - 1 = _
    rw [hinFlight, Nat.add_sub_cancel]
  · intro found hfound
    rw [running, htop, List.countP_cons_of_neg (by simp [Frame.isBody, Ne.symm hfound])]
  · intro hfalse
    refine ⟨hfalse, ?_⟩
    rw [running, htop]
    exact (List.sublist_cons_self _ _).countP_le

/-! ## Waiting -/

/-- What one thread has at least is all there is. -/
theorem eq_zero_of_sum_le {f : Thread → Nat} (h : ∑ other, f other ≤ f thread) (other : Thread)
    (hne : other ≠ thread) : f other = 0 := by
  have hsum := Finset.add_sum_erase Finset.univ f (Finset.mem_univ thread)
  have hzero : ∑ rest ∈ Finset.univ.erase thread, f rest = 0 := by omega
  exact Finset.sum_eq_zero_iff.mp hzero other (Finset.mem_erase.mpr ⟨hne, Finset.mem_univ _⟩)

/-- A drop begins to wait and closes no cycle. -/
theorem Inv.wait (h : Inv s) (htop : s.frames thread = .deactivating subscription listener :: rest)
    (hinactive : (s.heap listener).active = false)
    (hcareful : ∀ other, other ≠ thread → 0 < running s other listener → ¬ ReflTransGen (WaitsFor
      s) other thread) :
    Inv (s.setStack thread
      (.waiting subscription listener (running s thread listener) :: rest)) := by
  generalize hstack : (.waiting subscription listener (running s thread listener) :: rest :
    List (Frame Event)) = stack
  have hself : (s.setStack thread stack).frames thread = stack := Function.update_self _ _ _
  have hframes : ∀ other, other ≠ thread →
      (s.setStack thread stack).frames other = s.frames other := by
    intro other hother
    exact Function.update_of_ne hother _ _
  have hrunning : ∀ other found,
      running (s.setStack thread stack) other found = running s other found := by
    intro other found
    rw [running_setStack]
    split
    · rename_i hthread
      rw [hthread, ← hstack, List.countP_cons_of_neg (by simp [Frame.isBody]), running, htop,
        List.countP_cons_of_neg (by simp [Frame.isBody])]
    · rfl
  constructor
  · intro found other
    rw [hrunning]
    exact h.executing found other
  · intro found
    simp only [hrunning]
    exact h.inFlight found
  · intro other frame hframe
    by_cases hthread : other = thread
    · rw [hthread, hself, ← hstack] at hframe
      rcases List.mem_cons.mp hframe with rfl | hframe
      · exact h.frames thread (.deactivating subscription listener) (htop ▸ List.mem_cons_self)
      · exact h.frames thread frame (htop ▸ List.mem_cons_of_mem _ hframe)
    · rw [hframes other hthread] at hframe
      exact h.frames other frame hframe
  · intro other frame hframe
    by_cases hthread : other = thread
    · rw [hthread, hself, ← hstack] at hframe
      exact h.below thread frame (htop ▸ hframe)
    · rw [hframes other hthread] at hframe
      exact h.below other frame hframe
  · exact h.registered
  · exact h.distinct
  · exact h.listeners
  · intro other sub found own rest' htop'
    rw [hrunning]
    by_cases hthread : other = thread
    · rw [hthread, hself, ← hstack] at htop'
      obtain ⟨hframe, -⟩ := List.cons.inj htop'
      obtain ⟨rfl, rfl, rfl⟩ := Frame.waiting.inj hframe
      exact ⟨hinactive, by rw [hthread]⟩
    · rw [hframes other hthread] at htop'
      exact h.waiting other sub found own rest' htop'
  · -- the new edges lead to threads that do not wait for this one
    apply h.acyclic.add
    intro a b hedge
    obtain ⟨sub, found, own, rest', htop', hne, hpos⟩ := hedge
    rw [hrunning] at hpos
    by_cases hthread : a = thread
    · right
      rw [hthread, hself, ← hstack] at htop'
      obtain ⟨hframe, -⟩ := List.cons.inj htop'
      obtain ⟨rfl, rfl, rfl⟩ := Frame.waiting.inj hframe
      exact ⟨hthread, hcareful b (hthread ▸ hne) hpos⟩
    · left
      rw [hframes a hthread] at htop'
      exact ⟨sub, found, own, rest', htop', hne, hpos⟩
  · intro drop hdrop
    simp only [hrunning]
    exact h.returned drop hdrop

omit [DecidableEq Thread] in
/-- The rest of a stack can be gone on with. -/
theorem Inv.rest_ok (h : Inv s) (htop : s.frames thread = frame :: rest) :
    ∀ other ∈ rest, other.Ok s.allocated ∧ other.isWaiting = false := by
  intro other hother
  exact ⟨h.frames thread other (htop ▸ List.mem_cons_of_mem _ hother),
    h.below thread other (htop ▸ hother)⟩

/-- A careful deactivation closes no cycle of waiting. -/
theorem Inv.deactivate (h : Inv s)
    (htop : s.frames thread = .deactivating subscription listener :: rest)
    (hcareful : ∀ other, other ≠ thread → 0 < running s other listener → ¬ ReflTransGen (WaitsFor
      s) other thread) :
    Inv (s.deactivate thread subscription listener rest) := by
  obtain ⟨hlistener, hallocated⟩ := h.frames thread (.deactivating subscription listener)
    (htop ▸ List.mem_cons_self)
  have hinactive : Inv (s.setListener listener { s.heap listener with active := false }) := by
    have hchanges : Changes s (s.setListener listener { s.heap listener with active := false })
        thread (s.frames thread) listener { s.heap listener with active := false } := by
      refine ⟨?_, rfl, rfl, rfl, rfl, rfl⟩
      rw [Function.update_eq_self]
      rfl
    apply h.changes hchanges
    · rw [htop]
      intro frame hframe
      rcases List.mem_cons.mp hframe with rfl | hframe
      · exact ⟨⟨hlistener, hallocated⟩, rfl⟩
      · exact h.rest_ok htop frame hframe
    · exact h.executing listener
    · exact h.inFlight listener
    · intro found _
      rfl
    · intro _
      exact ⟨rfl, le_refl _⟩
  have hactive : ((s.setListener listener { s.heap listener with active := false }).heap
      listener).active = false := by
    show (Function.update s.heap listener { s.heap listener with active := false }
      listener).active = false
    rw [Function.update_self]
  have hown := h.executing listener thread
  unfold State.deactivate
  simp only
  split
  · rw [hown]
    exact hinactive.wait htop hactive hcareful
  · rename_i hnone
    -- all callbacks that run are on the thread itself
    have hothers : ∀ other, other ≠ thread → running s other listener = 0 := by
      apply eq_zero_of_sum_le
      rw [← h.inFlight, ← hown]
      exact Nat.not_lt.mp hnone
    rw [hlistener] at hactive hothers ⊢
    apply (hlistener ▸ hinactive).dropReturned
    · intro found
      show _ = running s thread found
      rw [running, htop, List.countP_cons_of_neg (by simp [Frame.isBody])]
    · exact h.rest_ok htop
    · exact hlistener ▸ hallocated
    · exact hactive
    · exact hothers

/-! ## Subscriptions -/

omit [DecidableEq Thread] in
/-- A new listener is inserted under an id that is not taken. -/
theorem Inv.insertListener (h : Inv s) {id : UInt64} (hfree : s.listeners.lookup id = none) :
    Inv (s.insertListener id) := by
  have hheap : ∀ listener, listener ≠ s.allocated →
      (s.insertListener id).heap listener = s.heap listener := by
    intro listener hne
    exact Function.update_of_ne hne _ _
  have hnew : (s.insertListener id).heap s.allocated = .new := Function.update_self _ _ _
  -- no callback of the new listener runs
  have hzero : ∀ thread, running s thread s.allocated = 0 := by
    intro thread
    by_contra hpos
    have hbody := running_pos.mp (Nat.pos_of_ne_zero hpos)
    exact lt_irrefl _ (h.frames thread _ hbody)
  have hne : ∀ subscription ∈ s.subscriptions, subscription.id ≠ id := by
    intro subscription hmem hid
    have hfound := h.registered subscription hmem
    rw [hid, hfree] at hfound
    cases hfound
  constructor
  · intro listener thread
    show _ = running s thread listener
    by_cases hsame : listener = s.allocated
    · rw [hsame, hnew, hzero]
      rfl
    · rw [hheap listener hsame]
      exact h.executing listener thread
  · intro listener
    show _ = ∑ thread, running s thread listener
    by_cases hsame : listener = s.allocated
    · simp only [hsame, hnew, hzero, Finset.sum_const_zero]
      rfl
    · rw [hheap listener hsame]
      exact h.inFlight listener
  · intro thread frame hframe
    exact (h.frames thread frame hframe).mono (Nat.le_succ _)
  · exact h.below
  · intro subscription hmem
    show List.lookup _ ((id, s.allocated) :: s.listeners.filter fun entry => entry.1 != id) = _
    rw [List.lookup_cons]
    rcases List.mem_cons.mp hmem with rfl | hmem
    · simp
    · have hbeq : (subscription.id == id) = false := by simpa using hne subscription hmem
      rw [hbeq, BTreeMap.lookup_remove, if_neg (hne subscription hmem)]
      exact h.registered subscription hmem
  · apply List.pairwise_cons.mpr
    refine ⟨?_, h.distinct⟩
    intro subscription hmem
    exact (hne subscription hmem).symm
  · intro entry hentry
    rcases List.mem_cons.mp hentry with rfl | hentry
    · exact Nat.lt_succ_self _
    · exact Nat.lt_succ_of_lt (h.listeners entry (List.mem_of_mem_filter hentry))
  · intro thread subscription listener own rest htop
    have hold : s.frames thread = .waiting subscription listener own :: rest := htop
    have hok := (h.frames thread (.waiting subscription listener own)
      (hold ▸ List.mem_cons_self)).2
    rw [hheap listener hok.ne]
    exact h.waiting thread subscription listener own rest htop
  · exact h.acyclic
  · intro drop hdrop
    obtain ⟨hallocated, hinactive, hothers⟩ := h.returned drop hdrop
    rw [hheap drop.1 hallocated.ne]
    exact ⟨Nat.lt_succ_of_lt hallocated, hinactive, hothers⟩

omit [DecidableEq Thread] in
/-- Subscriptions with the same id are the same. -/
theorem Inv.eq_of_id (h : Inv s) {a b : Subscription} (ha : a ∈ s.subscriptions)
    (hb : b ∈ s.subscriptions) (hid : a.id = b.id) : a = b := by
  have hnodup : (s.subscriptions.map Subscription.id).Nodup := List.pairwise_map.mpr h.distinct
  exact List.inj_on_of_nodup_map hnodup ha hb hid

omit [DecidableEq Thread] in
theorem Inv.allocated_of_mem (h : Inv s) (hmem : subscription ∈ s.subscriptions) :
    subscription.listener < s.allocated := by
  have hfound := h.registered subscription hmem
  obtain ⟨front, back, hlisteners, -⟩ := List.lookup_eq_some_iff.mp hfound
  exact h.listeners (subscription.id, subscription.listener) (by rw [hlisteners]; simp)

omit [DecidableEq Thread] in
/-- A thread can begin an operation on top of what it does. -/
theorem Inv.frames_ok (h : Inv s) (hbegin : s.mayBegin thread = true) :
    ∀ frame ∈ s.frames thread, frame.Ok s.allocated ∧ frame.isWaiting = false := by
  intro frame hframe
  refine ⟨h.frames thread frame hframe, ?_⟩
  unfold State.mayBegin at hbegin
  cases hstack : s.frames thread with
  | nil =>
    rw [hstack] at hframe
    cases hframe
  | cons top rest =>
    rw [hstack] at hframe hbegin
    rcases List.mem_cons.mp hframe with rfl | hframe
    · cases frame with
      | waiting => cases hbegin
      | _ => rfl
    · exact h.below thread frame (hstack ▸ hframe)

/-- The drop of a subscription begins. -/
theorem Inv.drop (h : Inv s) (hbegin : s.mayBegin thread = true)
    (hmem : subscription ∈ s.subscriptions) :
    Inv (s.drop thread subscription) := by
  have hfound := h.registered subscription hmem
  have hothers : ∀ other ∈ s.subscriptions.erase subscription,
      other ∈ s.subscriptions ∧ other.id ≠ subscription.id := by
    intro other hother
    have hnodup : s.subscriptions.Nodup := by
      apply h.distinct.imp
      intro a b hne hsame
      exact hne (congrArg _ hsame)
    obtain ⟨hne, hold⟩ := hnodup.mem_erase_iff.mp hother
    exact ⟨hold, fun hid => hne (h.eq_of_id hold hmem hid)⟩
  -- first the entry goes, then the listener is deactivated
  have hremoved : Inv { s with
      subscriptions := s.subscriptions.erase subscription
      listeners := s.listeners.filter fun entry => entry.1 != subscription.id } := by
    refine ⟨h.executing, h.inFlight, h.frames, h.below, ?_, ?_, ?_, h.waiting, h.acyclic,
      h.returned⟩
    · intro other hother
      obtain ⟨hold, hne⟩ := hothers other hother
      show List.lookup _ (s.listeners.filter fun entry => entry.1 != subscription.id) = _
      rw [BTreeMap.lookup_remove, if_neg hne]
      exact h.registered other hold
    · exact h.distinct.sublist List.erase_sublist
    · intro entry hentry
      exact h.listeners entry (List.mem_of_mem_filter hentry)
  unfold State.drop
  simp only [hfound]
  apply hremoved.setStack
  · intro listener
    rw [List.countP_cons_of_neg (by simp [Frame.isBody])]
    rfl
  · intro frame hframe
    rcases List.mem_cons.mp hframe with rfl | hframe
    · exact ⟨⟨rfl, h.allocated_of_mem hmem⟩, rfl⟩
    · exact h.frames_ok hbegin frame hframe

/-! ## Steps -/

/-- The step draws no id that is taken, and does not begin to wait for a thread that waits, perhaps
through others, for this one. -/
def Careful (s : State Thread Event Status) (thread : Thread) : Action Event → Prop
  | .advance =>
    match s.frames thread with
    | .inserting id :: _ => s.listeners.lookup id = none
    | .deactivating _ listener :: _ => ∀ other, other ≠ thread → 0 < running s other listener →
      ¬ ReflTransGen (WaitsFor s) other thread
    | _ => True
  | _ => True

/-- One frame that is no callback is replaced. -/
theorem Inv.replaceTop (h : Inv s) {frame' : Frame Event} (htop : s.frames thread = frame :: rest)
    (hbody : ∀ listener, frame.isBody listener = false)
    (hbody' : ∀ listener, frame'.isBody listener = false) (hok : frame'.Ok s.allocated)
    (hwaiting : frame'.isWaiting = false) : Inv (s.setStack thread (frame' :: rest)) := by
  apply h.setStack
  · intro listener
    rw [List.countP_cons_of_neg (by simp [hbody']), running, htop,
      List.countP_cons_of_neg (by simp [hbody])]
  · intro other hother
    rcases List.mem_cons.mp hother with rfl | hother
    · exact ⟨hok, hwaiting⟩
    · exact h.rest_ok htop other hother

/-- One frame that is no callback is removed. -/
theorem Inv.popTop (h : Inv s) (htop : s.frames thread = frame :: rest)
    (hbody : ∀ listener, frame.isBody listener = false) : Inv (s.setStack thread rest) := by
  apply h.setStack
  · intro listener
    rw [running, htop, List.countP_cons_of_neg (by simp [hbody])]
  · exact h.rest_ok htop

/-- A frame of a new operation. -/
theorem Inv.pushTop (h : Inv s) (hbegin : s.mayBegin thread = true)
    (hbody : ∀ listener, frame.isBody listener = false) (hok : frame.Ok s.allocated)
    (hwaiting : frame.isWaiting = false) :
    Inv (s.setStack thread (frame :: s.frames thread)) := by
  apply h.setStack
  · intro listener
    rw [List.countP_cons_of_neg (by simp [hbody])]
    rfl
  · intro other hother
    rcases List.mem_cons.mp hother with rfl | hother
    · exact ⟨hok, hwaiting⟩
    · exact h.frames_ok hbegin other hother

/-- The next section of an operation. -/
theorem Inv.advance (h : Inv s)
    (htop : s.frames thread = frame :: rest) (hcareful : Careful s thread .advance)
    (hstep : s.advance thread rest frame = some s') : Inv s' := by
  simp only [Careful, htop] at hcareful
  cases frame with
  | inserting id =>
    cases hstep
    exact (h.insertListener hcareful).popTop htop fun _ => rfl
  | recording event =>
    cases hstep
    have hlast : Inv { s with lastEvent := some event } := h.congr rfl rfl rfl rfl rfl rfl
    exact hlast.replaceTop htop (fun _ => rfl) (fun _ => rfl) trivial rfl
  | collecting event =>
    cases hstep
    apply h.replaceTop htop (fun _ => rfl) (fun _ => rfl) _ rfl
    intro listener hmem
    obtain ⟨entry, hentry, rfl⟩ := List.mem_map.mp hmem
    exact h.listeners entry ((List.perm_insertionSort _ _).mem_iff.mp hentry)
  | calling event listeners =>
    cases listeners with
    | nil =>
      cases hstep
      exact h.popTop htop fun _ => rfl
    | cons listener listeners =>
      simp only [State.advance] at hstep
      split at hstep
      · cases hstep
        have hcalling := h.frames thread (.calling event (listener :: listeners))
          (htop ▸ List.mem_cons_self)
        apply h.replaceTop htop (fun _ => rfl) (fun _ => rfl) _ rfl
        intro found hfound
        exact hcalling found (List.mem_cons_of_mem _ hfound)
      · rename_i state hbegin
        cases hstep
        exact h.begin htop hbegin
  | body listener => cases hstep
  | deactivating subscription listener =>
    cases hstep
    exact h.deactivate htop hcareful
  | waiting subscription listener own =>
    simp only [State.advance] at hstep
    split at hstep
    · cases hstep
    · rename_i hdrained
      cases hstep
      obtain ⟨hinactive, hown⟩ := h.waiting thread subscription listener own rest htop
      obtain ⟨hlistener, hallocated⟩ := h.frames thread (.waiting subscription listener own)
        (htop ▸ List.mem_cons_self)
      rw [h.inFlight, hown] at hdrained
      -- the count is that of this thread's own bodies, so no other runs one
      have hothers := eq_zero_of_sum_le (f := fun other => running s other listener)
        (Nat.not_lt.mp hdrained)
      apply h.dropReturned
      · intro found
        rw [running, htop, List.countP_cons_of_neg (by simp [Frame.isBody])]
      · exact h.rest_ok htop
      · exact hlistener ▸ hallocated
      · exact hlistener ▸ hinactive
      · exact hlistener ▸ hothers

variable [DecidableEq Status]

/-- What one step preserves. -/
theorem Inv.step (h : Inv s) {network : Event → Option Status} {action : Action Event}
    {s' : State Thread Event Status} (hcareful : Careful s thread action)
    (hstep : AppEvents.step network s thread action = some s') : Inv s' := by
  cases action with
  | subscribe =>
    obtain ⟨hbegin, hstep⟩ := Option.ite_none_right_eq_some.mp hstep
    cases hstep
    have hid : Inv { s with nextId := s.nextId + 1 } := h.congr rfl rfl rfl rfl rfl rfl
    exact hid.pushTop hbegin (fun _ => rfl) trivial rfl
  | dispatch event =>
    obtain ⟨hbegin, hstep⟩ := Option.ite_none_right_eq_some.mp hstep
    cases hstep
    unfold State.dispatch
    split
    · exact h.pushTop hbegin (fun _ => rfl) trivial rfl
    · split
      · exact h
      · rename_i status _ _
        have hlast : Inv { s with lastNetwork := some status } := h.congr rfl rfl rfl rfl rfl rfl
        exact hlast.pushTop hbegin (fun _ => rfl) trivial rfl
  | drop subscription =>
    obtain ⟨hboth, hstep⟩ := Option.ite_none_right_eq_some.mp hstep
    cases hstep
    rw [Bool.and_eq_true] at hboth
    exact h.drop hboth.1 (List.contains_iff_mem.mp hboth.2)
  | finish =>
    unfold AppEvents.step at hstep
    simp only at hstep
    split at hstep
    · split at hstep
      · cases hstep
      · cases hstep
        exact h.congr rfl rfl rfl rfl rfl rfl
    · rename_i listener rest htop
      cases hstep
      exact h.leave htop
    · cases hstep
  | advance =>
    unfold AppEvents.step at hstep
    simp only at hstep
    split at hstep
    · cases hstep
    · rename_i frame rest htop
      exact h.advance htop hcareful hstep

/-! ## Progress -/

/-- The thread is in a `deactivate` that waits. -/
def Waiting (s : State Thread Event Status) (thread : Thread) : Prop :=
  ∃ subscription listener own rest, s.frames thread = .waiting subscription listener own :: rest

def CanStep (network : Event → Option Status) (s : State Thread Event Status) (thread : Thread) :
    Prop :=
  ∃ action s', AppEvents.step network s thread action = some s'

omit [Fintype Thread] in
theorem canStep_of_advance {network : Event → Option Status}
    (htop : s.frames thread = frame :: rest) (h : (s.advance thread rest frame).isSome = true) :
    CanStep network s thread := by
  obtain ⟨s', hs'⟩ := Option.isSome_iff_exists.mp h
  refine ⟨.advance, s', ?_⟩
  unfold AppEvents.step
  simp only [htop]
  exact hs'

omit [Fintype Thread] in
/-- A thread that is in an operation goes on unless it waits. -/
theorem canStep_of_not_waiting {network : Event → Option Status} (hne : s.frames thread ≠ [])
    (hwaiting : ¬ Waiting s thread) : CanStep network s thread := by
  obtain ⟨frame, rest, htop⟩ := List.exists_cons_of_ne_nil hne
  cases frame with
  | body listener =>
    refine ⟨.finish, (s.setListener listener ((s.heap listener).leave thread)).setStack thread rest,
      ?_⟩
    unfold AppEvents.step
    simp only [htop]
  | waiting subscription listener own =>
    exact absurd ⟨subscription, listener, own, rest, htop⟩ hwaiting
  | calling event listeners =>
    apply canStep_of_advance htop
    cases listeners with
    | nil => rfl
    | cons listener listeners =>
      simp only [State.advance]
      split <;> rfl
  | inserting | recording | collecting | deactivating => exact canStep_of_advance htop rfl

/-- Where a chain of waiting ends, some thread can go on. -/
theorem Inv.exists_canStep (h : Inv s) (network : Event → Option Status)
    (hwaiting : Waiting s thread) : ∃ other, s.frames other ≠ [] ∧ CanStep network s other := by
  obtain ⟨last, hpath, hsink⟩ := h.acyclic.exists_sink thread
  -- the last thread is the first one, or a callback that is waited for runs on it
  have hne : s.frames last ≠ [] := by
    rcases hpath.cases_tail with hsame | ⟨before, -, hedge⟩
    · obtain ⟨subscription, listener, own, rest, htop⟩ := hwaiting
      rw [hsame, htop]
      simp
    · obtain ⟨_, listener, _, _, -, -, hpos⟩ := hedge
      exact List.ne_nil_of_mem (running_pos.mp hpos)
  by_cases hlast : Waiting s last
  · obtain ⟨subscription, listener, own, rest, htop⟩ := hlast
    -- no callback of another thread is left
    have hothers : ∀ other ∈ Finset.univ, other ≠ last → running s other listener = 0 := by
      intro other _ hother
      by_contra hpos
      exact hsink other ⟨subscription, listener, own, rest, htop, hother, Nat.pos_of_ne_zero hpos⟩
    have hsum := Finset.sum_eq_single_of_mem last (Finset.mem_univ _) hothers
    obtain ⟨-, hown⟩ := h.waiting last subscription listener own rest htop
    refine ⟨last, hne, canStep_of_advance htop ?_⟩
    simp only [State.advance]
    rw [h.inFlight, hsum, ← hown, if_neg (lt_irrefl _)]
    rfl
  · exact ⟨last, hne, canStep_of_not_waiting hne hlast⟩

/-! ## Inactive listeners -/

omit [Fintype Thread] in
/-- One step changes the stack of its thread, and begins no callback of an inactive listener. -/
theorem step_frames {network : Event → Option Status} {action : Action Event}
    (hstep : AppEvents.step network s thread action = some s') :
    ∃ stack, s'.frames = Function.update s.frames thread stack ∧
      ∀ listener, (s.heap listener).active = false →
        stack.countP (Frame.isBody listener) ≤ running s thread listener := by
  have hsame : s'.frames = s.frames → ∃ stack, s'.frames = Function.update s.frames thread stack ∧
      ∀ listener, (s.heap listener).active = false →
        stack.countP (Frame.isBody listener) ≤ running s thread listener := by
    intro heq
    refine ⟨s.frames thread, ?_, fun _ _ => le_refl _⟩
    rw [heq, Function.update_eq_self]
  have hpush : ∀ frame : Frame Event, (∀ listener, frame.isBody listener = false) →
      ∀ listener, (frame :: s.frames thread).countP (Frame.isBody listener) ≤
        running s thread listener := by
    intro frame hbody listener
    rw [List.countP_cons_of_neg (by simp [hbody])]
    exact le_refl _
  cases action with
  | subscribe =>
    obtain ⟨-, hstep⟩ := Option.ite_none_right_eq_some.mp hstep
    cases hstep
    exact ⟨_, rfl, fun listener _ => hpush _ (fun _ => rfl) listener⟩
  | dispatch event =>
    obtain ⟨-, hstep⟩ := Option.ite_none_right_eq_some.mp hstep
    cases hstep
    unfold State.dispatch
    split
    · exact ⟨_, rfl, fun listener _ => hpush _ (fun _ => rfl) listener⟩
    · split
      · exact ⟨s.frames thread, (Function.update_eq_self _ _).symm, fun _ _ => le_refl _⟩
      · exact ⟨_, rfl, fun listener _ => hpush _ (fun _ => rfl) listener⟩
  | drop subscription =>
    obtain ⟨-, hstep⟩ := Option.ite_none_right_eq_some.mp hstep
    cases hstep
    unfold State.drop
    simp only
    split
    · exact ⟨_, rfl, fun _ _ => le_refl _⟩
    · exact ⟨_, rfl, fun listener _ => hpush _ (fun _ => rfl) listener⟩
  | finish =>
    unfold AppEvents.step at hstep
    simp only at hstep
    split at hstep
    · split at hstep
      · cases hstep
      · cases hstep
        exact hsame rfl
    · rename_i found rest htop
      cases hstep
      refine ⟨rest, rfl, ?_⟩
      intro listener _
      rw [running, htop]
      exact (List.sublist_cons_self _ _).countP_le
    · cases hstep
  | advance =>
    unfold AppEvents.step at hstep
    simp only at hstep
    split at hstep
    · cases hstep
    · rename_i frame rest htop
      have hpop : ∀ listener, rest.countP (Frame.isBody listener) ≤ running s thread listener := by
        intro listener
        rw [running, htop]
        exact (List.sublist_cons_self _ _).countP_le
      have hreplace : ∀ frame' : Frame Event, (∀ listener, frame'.isBody listener = false) →
          ∀ listener, (frame' :: rest).countP (Frame.isBody listener) ≤
            running s thread listener := by
        intro frame' hbody listener
        rw [List.countP_cons_of_neg (by simp [hbody])]
        exact hpop listener
      cases frame with
      | inserting | recording | collecting =>
        cases hstep
        exact ⟨_, rfl, fun listener _ => hpop listener⟩
      | calling event listeners =>
        cases listeners with
        | nil =>
          cases hstep
          exact ⟨_, rfl, fun listener _ => hpop listener⟩
        | cons found listeners =>
          simp only [State.advance] at hstep
          split at hstep
          · cases hstep
            exact ⟨_, rfl, fun listener _ => hreplace _ (fun _ => rfl) listener⟩
          · rename_i state hbegin
            cases hstep
            refine ⟨_, rfl, ?_⟩
            intro listener hinactive
            -- a callback is begun only where the listener is active
            have hne : found ≠ listener := by
              rintro rfl
              simp [ListenerState.begin, hinactive] at hbegin
            rw [List.countP_cons_of_neg (by simp [Frame.isBody, hne])]
            exact hreplace _ (fun _ => rfl) listener
      | body listener => cases hstep
      | deactivating subscription found =>
        cases hstep
        unfold State.deactivate
        simp only
        split
        · exact ⟨_, rfl, fun listener _ => hreplace _ (fun _ => rfl) listener⟩
        · exact ⟨_, rfl, fun listener _ => hpop listener⟩
      | waiting subscription found own =>
        simp only [State.advance] at hstep
        split at hstep
        · cases hstep
        · cases hstep
          exact ⟨_, rfl, fun listener _ => hpop listener⟩

/-! ## Safety -/

/-- What holds in every state of an event bus that is used safely. -/
structure Safe (network : Event → Option Status) (s : State Thread Event Status) : Prop where
  /-- The count is zero when no callback runs, and each callback that returns was counted. -/
  inFlight : ∀ listener, (s.heap listener).inFlight = ∑ thread, running s thread listener
  executing : ∀ listener thread, (s.heap listener).executing thread = running s thread listener
  /-- After a drop has returned, no callback runs on another thread. -/
  stopped : ∀ listener thread, (listener, thread) ∈ s.returned →
    ∀ other, other ≠ thread → running s other listener = 0
  /-- After a drop has returned, no callback starts. -/
  quiet : ∀ listener thread, (listener, thread) ∈ s.returned →
    ∀ other action s', AppEvents.step network s other action = some s' →
      ∀ found, running s' found listener ≤ running s found listener
  /-- While a thread waits, some thread goes on with an operation. -/
  live : ∀ thread, Waiting s thread → ∃ other, s.frames other ≠ [] ∧ CanStep network s other

/-- The invariant rules out deadlocks and late calls. -/
theorem Inv.safe (h : Inv s) (network : Event → Option Status) : Safe network s := by
  constructor
  · exact h.inFlight
  · exact h.executing
  · intro listener thread hmem
    exact (h.returned (listener, thread) hmem).2.2
  · intro listener thread hmem other action s' hstep found
    obtain ⟨stack, hframes, hle⟩ := step_frames hstep
    rw [running, hframes]
    by_cases hfound : found = other
    · rw [hfound, Function.update_self]
      exact hle listener (h.returned (listener, thread) hmem).2.1
    · rw [Function.update_of_ne hfound]
      exact le_refl _
  · intro thread hwaiting
    exact h.exists_canStep network hwaiting

omit [DecidableEq Thread] [DecidableEq Status] in
/-- The new state keeps the invariant. -/
theorem Inv.new : Inv (.new : State Thread Event Status) := by
  constructor
  · intro listener thread
    rfl
  · intro listener
    show 0 = ∑ _, 0
    rw [Finset.sum_const_zero]
  · intro thread frame hframe
    cases hframe
  · intro thread frame hframe
    cases hframe
  · intro subscription hmem
    cases hmem
  · exact List.Pairwise.nil
  · intro entry hentry
    cases hentry
  · intro thread subscription listener own rest htop
    cases htop
  · apply WaitGraph.Acyclic.of_empty
    intro a b hedge
    obtain ⟨_, _, _, _, htop, -⟩ := hedge
    cases htop
  · intro drop hdrop
    cases hdrop

/-- The states of the runs from the start whose steps are all careful. -/
inductive CarefulRun (network : Event → Option Status) : State Thread Event Status → Prop where
  | new : CarefulRun network .new
  | step {s s' : State Thread Event Status} {thread : Thread} {action : Action Event} :
    CarefulRun network s → Careful s thread action →
    AppEvents.step network s thread action = some s' → CarefulRun network s'

/-- **Subscriptions are safe** as long as no drop closes a cycle of waiting and no id is taken. -/
theorem careful_safe (network : Event → Option Status) (s : State Thread Event Status)
    (h : CarefulRun network s) : Safe network s := by
  have hinv : Inv s := by
    induction h with
    | new => exact .new
    | step _ hcareful hstep ih => exact ih.step hcareful hstep
  exact hinv.safe network

end

end

/-! ## Runs of two threads -/

namespace Sample

/-- No event is a network event. -/
def network (_ : Unit) : Option Unit := none

abbrev TwoThreads := State Bool Unit Unit

/-- The thread waits, and a callback that it waits for has not returned. -/
def blocked (s : TwoThreads) (thread : Bool) : Bool :=
  match s.frames thread with
  | .waiting _ listener own :: _ => own < (s.heap listener).inFlight
  | _ => false

variable {s : TwoThreads}

theorem waiting_of_blocked {thread : Bool} (h : blocked s thread = true) :
    Waiting s thread ∧ ¬ CanStep network s thread := by
  unfold blocked at h
  split at h
  · rename_i subscription listener own rest htop
    refine ⟨⟨subscription, listener, own, rest, htop⟩, ?_⟩
    intro hstep
    obtain ⟨action, s', hstep⟩ := hstep
    have hbegin : s.mayBegin thread = false := by
      rw [State.mayBegin, htop]
    cases action with
    | subscribe | dispatch | drop => simp [AppEvents.step, hbegin] at hstep
    | finish => simp [AppEvents.step, htop] at hstep
    | advance =>
      simp only [AppEvents.step, htop, State.advance] at hstep
      rw [if_pos (by simpa using h)] at hstep
      cases hstep
  · cases h

/-- A sufficient condition for a careful step: the threads that run the callbacks do not wait. -/
def isCareful (s : TwoThreads) (thread : Bool) : Action Unit → Bool
  | .advance =>
    match s.frames thread with
    | .inserting id :: _ => (s.listeners.lookup id).isNone
    | .deactivating _ _ :: _ => (s.frames !thread).all fun frame => !frame.isWaiting
    | _ => true
  | _ => true

theorem careful_of_isCareful {thread : Bool} {action : Action Unit}
    (h : isCareful s thread action = true) : Careful s thread action := by
  cases action with
  | subscribe | dispatch | drop | finish => trivial
  | advance =>
    simp only [isCareful] at h
    simp only [Careful]
    cases htop : s.frames thread with
    | nil => trivial
    | cons frame rest =>
      rw [htop] at h
      cases frame with
      | inserting id => simpa using h
      | deactivating subscription listener =>
        intro other hne _ hpath
        have hother : other = !thread := by
          cases other <;> cases thread <;> simp_all
        -- the path begins at a thread that does not wait
        rcases hpath.cases_head with hsame | ⟨next, hedge, -⟩
        · exact hne hsame
        · obtain ⟨_, _, _, _, hwaits, -⟩ := hedge
          rw [← hother, List.all_eq_true] at h
          have hfalse := h _ (hwaits ▸ List.mem_cons_self)
          cases hfalse
      | recording | collecting | calling | body | waiting => trivial

/-- A run whose steps are seen to be careful. -/
def carefulRun (s : TwoThreads) : List (Bool × Action Unit) → Option TwoThreads
  | [] => some s
  | (thread, action) :: rest =>
    if isCareful s thread action then
      (step network s thread action).bind fun s => carefulRun s rest
    else none

/-- A trace that passes the tests is a careful run. -/
theorem carefulRun_eq_some {s' : TwoThreads} {trace : List (Bool × Action Unit)}
    (hstart : CarefulRun network s) (h : carefulRun s trace = some s') : CarefulRun network s' := by
  induction trace generalizing s with
  | nil =>
    cases h
    exact hstart
  | cons first trace ih =>
    obtain ⟨thread, action⟩ := first
    obtain ⟨hcareful, h⟩ := Option.ite_none_right_eq_some.mp h
    obtain ⟨next, hstep, hrest⟩ := Option.bind_eq_some_iff.mp h
    exact ih (hstart.step (careful_of_isCareful hcareful) hstep) hrest

/-- One thread drops a subscription while its callback runs on the other one. -/
def dropTrace : List (Bool × Action Unit) :=
  [(false, .subscribe), (false, .advance), (true, .dispatch ()), (true, .advance),
    (true, .advance), (true, .advance), (false, .drop ⟨0, 0⟩), (false, .advance),
    (true, .finish), (false, .advance)]

theorem dropTrace_returns :
    (carefulRun .new dropTrace).any (fun s => s.returned == [(0, false)]) = true := by
  decide +kernel

theorem careful_safe_dropTrace :
    ∃ s, carefulRun .new dropTrace = some s ∧ (0, false) ∈ s.returned ∧ Safe network s := by
  obtain ⟨s, hs, hreturned⟩ := (Option.any_eq_true _ _).mp dropTrace_returns
  refine ⟨s, hs, ?_, careful_safe network s (carefulRun_eq_some .new hs)⟩
  rw [beq_iff_eq.mp hreturned]
  exact List.mem_cons_self

/-- Two callbacks drop each other's subscriptions. -/
def mutualTrace : List (Bool × Action Unit) :=
  [(false, .subscribe), (false, .advance), (false, .subscribe), (false, .advance),
    (false, .dispatch ()), (false, .advance), (false, .advance), (false, .advance),
    (true, .dispatch ()), (true, .advance), (true, .advance), (true, .advance), (true, .finish),
    (true, .advance), (false, .drop ⟨1, 1⟩), (false, .advance), (true, .drop ⟨0, 0⟩),
    (true, .advance)]

theorem mutualTrace_blocked :
    (run network .new mutualTrace).any (fun s => blocked s false && blocked s true) = true := by
  decide +kernel

/-- Both threads wait for each other. -/
theorem mutual_drop_stuck : ∃ s, run network .new mutualTrace = some s ∧ ¬ Safe network s ∧
    ∀ thread, Waiting s thread ∧ ¬ CanStep network s thread := by
  obtain ⟨s, hs, hblocked⟩ := (Option.any_eq_true _ _).mp mutualTrace_blocked
  rw [Bool.and_eq_true] at hblocked
  have hall : ∀ thread, Waiting s thread ∧ ¬ CanStep network s thread := by
    intro thread
    cases thread with
    | false => exact waiting_of_blocked hblocked.1
    | true => exact waiting_of_blocked hblocked.2
  refine ⟨s, hs, ?_, hall⟩
  intro hsafe
  obtain ⟨other, -, hstep⟩ := hsafe.live false (hall false).1
  exact (hall other).2 hstep

end Sample

end RustFerry.AppEvents
