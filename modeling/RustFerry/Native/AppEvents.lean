import Mathlib.Data.List.Sort
import Mathlib.Data.UInt
import Mathlib.Logic.Function.Basic
import Mathlib.Order.Basic

/-!
# Event delivery

The event bus of an application (`crates/rustferry/src/app_events.rs`), used by any number of
threads. A thread has a stack of the operations that it is in: callbacks run on the stack of the
thread that dispatches, and may begin operations of their own. One step is one section under a
lock, or the begin or end of a callback.

The bus outlives its subscriptions here, so a subscription that is dropped always finds it.
-/

namespace RustFerry.AppEvents

/-! ## Listeners -/

/-- A listener on the heap. -/
abbrev ListenerRef := Nat

/-- `ListenerState`; a thread that is not in `executing` has no callback there. -/
structure ListenerState (Thread : Type) where
  active : Bool
  inFlight : Nat
  executing : Thread → Nat

section

variable {Thread : Type} [DecidableEq Thread]

def ListenerState.new : ListenerState Thread where
  active := true
  inFlight := 0
  executing := fun _ => 0

/-- The first section of `call`: the callback is begun if the listener is active. -/
def ListenerState.begin (state : ListenerState Thread) (thread : Thread) :
    Option (ListenerState Thread) :=
  if !state.active then none
  else some { state with
    inFlight := state.inFlight + 1
    executing := Function.update state.executing thread (state.executing thread + 1) }

/-- The last section of `call`, after the callback. -/
def ListenerState.leave (state : ListenerState Thread) (thread : Thread) : ListenerState Thread :=
  { state with
    inFlight := state.inFlight - 1
    executing := Function.update state.executing thread (state.executing thread - 1) }

end

/-! ## States -/

/-- A registration. Its listener is what `subscribe` inserted for it; the code only has the id. -/
structure Subscription where
  id : UInt64
  listener : ListenerRef
  deriving DecidableEq

/-- An operation that a thread is in, at the section that comes next. -/
inductive Frame (Event : Type) where
  /-- `subscribe` has its id. -/
  | inserting (id : UInt64)
  /-- `dispatch` has passed the check on network events. -/
  | recording (event : Event)
  | collecting (event : Event)
  /-- `dispatch` goes through the listeners. -/
  | calling (event : Event) (listeners : List ListenerRef)
  /-- The callback of a listener is running. -/
  | body (listener : ListenerRef)
  /-- `drop` has removed the listener. -/
  | deactivating (subscription : Subscription) (listener : ListenerRef)
  /-- `deactivate` waits for the callbacks of other threads. -/
  | waiting (subscription : Subscription) (listener : ListenerRef) (ownCallbacks : Nat)

structure State (Thread Event Status : Type) where
  nextId : UInt64
  listeners : List (UInt64 × ListenerRef)
  lastNetwork : Option Status
  lastEvent : Option Event
  heap : ListenerRef → ListenerState Thread
  allocated : Nat
  /-- The subscriptions that were not dropped yet. -/
  subscriptions : List Subscription
  frames : Thread → List (Frame Event)
  exited : Thread → Bool
  /-- The listeners whose subscription was dropped, with the thread on which `drop` returned. -/
  returned : List (ListenerRef × Thread)

/-- What a thread does next. -/
inductive Action (Event : Type) where
  | subscribe
  | dispatch (event : Event)
  | drop (subscription : Subscription)
  /-- The running callback returns, or the thread exits. -/
  | finish
  /-- The next section of the operation that the thread is in. -/
  | advance

section

variable {Thread Event Status : Type} [DecidableEq Thread] [DecidableEq Status]

def State.new : State Thread Event Status where
  nextId := 0
  listeners := []
  lastNetwork := none
  lastEvent := none
  heap := fun _ => .new
  allocated := 0
  subscriptions := []
  frames := fun _ => []
  exited := fun _ => false
  returned := []

def State.setStack (s : State Thread Event Status) (thread : Thread)
    (stack : List (Frame Event)) : State Thread Event Status :=
  { s with frames := Function.update s.frames thread stack }

def State.setListener (s : State Thread Event Status) (listener : ListenerRef)
    (state : ListenerState Thread) : State Thread Event Status :=
  { s with heap := Function.update s.heap listener state }

/-- A thread can begin an operation outside of all operations and in a callback. -/
def State.mayBegin (s : State Thread Event Status) (thread : Thread) : Bool :=
  match s.frames thread with
  | [] => !s.exited thread
  | .body _ :: _ => true
  | _ => false

/-! ## Operations -/

/-- The first section of `subscribe`. -/
def State.subscribe (s : State Thread Event Status) (thread : Thread) :
    State Thread Event Status :=
  { s with nextId := s.nextId + 1 }.setStack thread (.inserting s.nextId :: s.frames thread)

/-- The second section of `subscribe`: the new listener is inserted. -/
def State.insertListener (s : State Thread Event Status) (id : UInt64) :
    State Thread Event Status :=
  { s with
    listeners := (id, s.allocated) :: s.listeners.filter fun entry => entry.1 != id
    heap := Function.update s.heap s.allocated .new
    allocated := s.allocated + 1
    subscriptions := ⟨id, s.allocated⟩ :: s.subscriptions }

/-- The first section of `dispatch`; it ends there for a network event that changes nothing. -/
def State.dispatch (network : Event → Option Status) (s : State Thread Event Status)
    (thread : Thread) (event : Event) : State Thread Event Status :=
  match network event with
  | none => s.setStack thread (.recording event :: s.frames thread)
  | some status =>
    if s.lastNetwork = some status then s
    else { s with lastNetwork := some status }.setStack thread
      (.recording event :: s.frames thread)

/-- `listeners.values()`, by increasing id. -/
def State.values (s : State Thread Event Status) : List ListenerRef :=
  (s.listeners.insertionSort fun a b => a.1 ≤ b.1).map Prod.snd

/-- `drop` returns. -/
def State.dropReturned (s : State Thread Event Status) (thread : Thread)
    (subscription : Subscription) (stack : List (Frame Event)) : State Thread Event Status :=
  { s with returned := (subscription.listener, thread) :: s.returned }.setStack thread stack

/-- The first section of `drop`: the listener is removed from the bus. -/
def State.drop (s : State Thread Event Status) (thread : Thread) (subscription : Subscription) :
    State Thread Event Status :=
  let s := { s with subscriptions := s.subscriptions.erase subscription }
  match s.listeners.lookup subscription.id with
  | none => s.dropReturned thread subscription (s.frames thread)
  | some listener =>
    { s with listeners := s.listeners.filter fun entry => entry.1 != subscription.id }.setStack
      thread (.deactivating subscription listener :: s.frames thread)

/-- The first section of `deactivate`, up to the first check of the loop. -/
def State.deactivate (s : State Thread Event Status) (thread : Thread)
    (subscription : Subscription) (listener : ListenerRef) (rest : List (Frame Event)) :
    State Thread Event Status :=
  let state := { s.heap listener with active := false }
  let ownCallbacks := state.executing thread
  let s := s.setListener listener state
  -- it waits for the callbacks of all other threads
  if state.inFlight > ownCallbacks then
    s.setStack thread (.waiting subscription listener ownCallbacks :: rest)
  else s.dropReturned thread subscription rest

/-- The next section of the operation on top of a stack. -/
def State.advance (s : State Thread Event Status) (thread : Thread) (rest : List (Frame Event)) :
    Frame Event → Option (State Thread Event Status)
  | .inserting id => some ((s.insertListener id).setStack thread rest)
  | .recording event =>
    some ({ s with lastEvent := some event }.setStack thread (.collecting event :: rest))
  -- the listeners are copied, and called without the lock
  | .collecting event => some (s.setStack thread (.calling event s.values :: rest))
  | .calling _ [] => some (s.setStack thread rest)
  | .calling event (listener :: listeners) =>
    match (s.heap listener).begin thread with
    -- it was deactivated after the copy
    | none => some (s.setStack thread (.calling event listeners :: rest))
    | some state => some ((s.setListener listener state).setStack thread
        (.body listener :: .calling event listeners :: rest))
  | .body _ => none
  | .deactivating subscription listener =>
    some (s.deactivate thread subscription listener rest)
  | .waiting subscription listener ownCallbacks =>
    -- a waiter that is woken checks again
    if (s.heap listener).inFlight > ownCallbacks then none
    else some (s.dropReturned thread subscription rest)

/-- One step of a thread. -/
def step (network : Event → Option Status) (s : State Thread Event Status) (thread : Thread) :
    Action Event → Option (State Thread Event Status)
  | .subscribe => if s.mayBegin thread then some (s.subscribe thread) else none
  | .dispatch event => if s.mayBegin thread then some (s.dispatch network thread event) else none
  | .drop subscription =>
    if s.mayBegin thread && s.subscriptions.contains subscription then
      some (s.drop thread subscription)
    else none
  | .finish =>
    match s.frames thread with
    | [] =>
      if s.exited thread then none
      else some { s with exited := Function.update s.exited thread true }
    | .body listener :: rest =>
      some ((s.setListener listener ((s.heap listener).leave thread)).setStack thread rest)
    | _ => none
  | .advance =>
    match s.frames thread with
    | [] => none
    | frame :: rest => s.advance thread rest frame

/-- A run of several threads. -/
def run (network : Event → Option Status) (s : State Thread Event Status) :
    List (Thread × Action Event) → Option (State Thread Event Status)
  | [] => some s
  | (thread, action) :: rest => (step network s thread action).bind fun s => run network s rest

end

end RustFerry.AppEvents
