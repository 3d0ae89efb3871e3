import Mathlib.Data.Finmap
import Mathlib.Data.Finset.Max
import Mathlib.Data.Prod.Lex
import RustFerry.Native.GithubProvider

/-!
# Reservations of jobs

`rustferry-github/src/provider.rs`: the jobs of one provider, the reservation that a submission
makes before it has a record, and the guard that removes the record of a failed submission.
Every section under the state lock is one step of the provider; the sections of any number of
submissions and of the other operations are interleaved. Cancellation reservations are left
out: no section here reads them.
-/

namespace RustFerry.Github

open Remote Except

def recordIsRecyclable (record : JobRecord) : Bool :=
  record.state.isTerminal || record.publicationNotAttempted ||
    (record.publicationAbsent && record.temporaryRefDeleted)

/-- The jobs and the reserved ids of a provider. -/
structure ProviderState where
  jobs : Finmap fun _ : String => JobRecord
  reservations : Finset String

namespace ProviderState

/-! ## Sections under the lock -/

def empty : ProviderState := ⟨∅, ∅⟩

def removeJob (state : ProviderState) (jobId : String) : ProviderState :=
  { state with jobs := state.jobs.erase jobId }

def createdAtMs (state : ProviderState) (jobId : String) : Nat :=
  ((state.jobs.lookup jobId).map fun record => record.createdAtMs.toNat).getD 0

def recyclableIds (state : ProviderState) : Finset String :=
  state.jobs.keys.filter fun jobId => (state.jobs.lookup jobId).any recordIsRecyclable

/-- The oldest recyclable job; of several, the one with the smallest id. -/
def oldestRecyclable (state : ProviderState) : Option String :=
  let candidates := state.recyclableIds.image fun jobId => toLex (state.createdAtMs jobId, jobId)
  if h : candidates.Nonempty then some (ofLex (candidates.min' h)).2 else none

/-- The id is reserved, or it has a job that stays. -/
def occupied (state : ProviderState) (jobId : String) (allowRecycling : Bool) : Bool :=
  jobId ∈ state.reservations ||
    (state.jobs.lookup jobId).any fun record => !allowRecycling || !recordIsRecyclable record

/-- A recyclable job with the same id makes room for the new one. -/
def recycleSame (state : ProviderState) (jobId : String) (allowRecycling : Bool) : ProviderState :=
  if allowRecycling && (state.jobs.lookup jobId).any recordIsRecyclable then
    state.removeJob jobId
  else state

/-- At the capacity the oldest recyclable job makes room. -/
def makeRoom (state : ProviderState) (maximum : Nat) (allowRecycling : Bool) :
    ProviderResult ProviderState :=
  if state.jobs.keys.card + state.reservations.card < maximum then .ok state
  else if !allowRecycling then
    .error (.failure "job_capacity_reached"
      "GitHub provider reached its bounded durable job capacity" true)
  else
    match state.oldestRecyclable with
    | some jobId => .ok (state.removeJob jobId)
    | none => .error (.failure "job_capacity_reached"
        "GitHub provider reached its bounded in-memory job capacity" true)

def reserve (state : ProviderState) (jobId : String) : ProviderState :=
  { state with reservations := insert jobId state.reservations }

def acquire (state : ProviderState) (jobId : String) (maximum : Nat) (allowRecycling : Bool) :
    ProviderResult ProviderState := do
  rejectIf (state.occupied jobId allowRecycling)
    (.failure "duplicate_job_id" "operation already has a GitHub provider job" false)
  let state ← (state.recycleSame jobId allowRecycling).makeRoom maximum allowRecycling
  return state.reserve jobId

def insertPending (state : ProviderState) (jobId : String) (record : JobRecord) :
    ProviderState where
  jobs := state.jobs.insert jobId record
  reservations := state.reservations.erase jobId

/-- The drop of an active reservation. -/
def dropReservation (state : ProviderState) (jobId : String) : ProviderState :=
  { state with reservations := state.reservations.erase jobId }

/-- The drop of a pending record that is not retained. -/
def dropPending (state : ProviderState) (jobId : String) : ProviderState := state.removeJob jobId

/-- Any other section that changes the record of a job. -/
def updateRecord (state : ProviderState) (jobId : String) (change : JobRecord → JobRecord) :
    ProviderState :=
  match state.jobs.lookup jobId with
  | some record => { state with jobs := state.jobs.insert jobId (change record) }
  | none => state

def insertRestoredRecords (state : ProviderState) (restored : Finmap fun _ : String => JobRecord)
    (maximum : Nat) : ProviderResult ProviderState := do
  rejectIf (state.reservations.Nonempty ||
      state.jobs.keys.card + restored.keys.card > maximum ||
      ¬Disjoint restored.keys state.jobs.keys)
    (providerResumeFailure "resume_state_conflict")
  return { state with jobs := restored ∪ state.jobs }

end ProviderState

/-! ## Interleaved submissions -/

/-- What a submission holds: an active reservation, or a record that its drop removes unless it
    is retained. -/
inductive JobGuard where
  | reservation (jobId : String)
  | pending (jobId : String) (retain : Bool)

/-- A provider with its submissions, numbered as they begin. `owner` is not in the code: it says
    whose record was last put under an id, where a restored record is no submission's. -/
structure Submissions where
  state : ProviderState
  started : Nat
  guards : Nat → Option JobGuard
  owner : String → Option Nat

/-- The atomic steps. -/
inductive SubmissionEvent where
  /-- A new submission asks for its id. -/
  | acquire (jobId : String) (allowRecycling : Bool)
  /-- It fails before it has a record. -/
  | dropReservation (submission : Nat)
  | insertPending (submission : Nat) (record : JobRecord)
  | retain (submission : Nat)
  /-- It fails, or returns: the guard of its record is dropped. -/
  | dropPending (submission : Nat)
  | updateRecord (jobId : String) (change : JobRecord → JobRecord)
  | insertRestoredRecords (restored : Finmap fun _ : String => JobRecord)

namespace Submissions

def initial : Submissions := ⟨.empty, 0, fun _ => none, fun _ => none⟩

def setGuard (system : Submissions) (submission : Nat) (guard : Option JobGuard) : Submissions :=
  { system with guards := Function.update system.guards submission guard }

/-- A new submission, with a reservation if it got one. -/
def begin (system : Submissions) (jobId : String) :
    ProviderResult ProviderState → Submissions
  | .ok state =>
    { system with
      state
      started := system.started + 1
      guards := Function.update system.guards system.started (some (.reservation jobId)) }
  | .error _ => { system with started := system.started + 1 }

/-- The step of an event, if its submission holds the guard for it. -/
def step (system : Submissions) (maxJobs : Nat) : SubmissionEvent → Option Submissions
  | .acquire jobId allowRecycling =>
    some (system.begin jobId (system.state.acquire jobId maxJobs allowRecycling))
  | .dropReservation submission =>
    match system.guards submission with
    | some (.reservation jobId) =>
      some { system.setGuard submission none with state := system.state.dropReservation jobId }
    | _ => none
  | .insertPending submission record =>
    match system.guards submission with
    | some (.reservation jobId) =>
      some { system.setGuard submission (some (.pending jobId false)) with
        state := system.state.insertPending jobId record
        owner := Function.update system.owner jobId (some submission) }
    | _ => none
  | .retain submission =>
    match system.guards submission with
    | some (.pending jobId _) => some (system.setGuard submission (some (.pending jobId true)))
    | _ => none
  -- the record is removed by its ID, whoever put it there
  | .dropPending submission =>
    match system.guards submission with
    | some (.pending jobId false) =>
      some { system.setGuard submission none with state := system.state.dropPending jobId }
    | some (.pending _ true) => some (system.setGuard submission none)
    | _ => none
  | .updateRecord jobId change =>
    some { system with state := system.state.updateRecord jobId change }
  | .insertRestoredRecords restored =>
    match system.state.insertRestoredRecords restored maxJobs with
    | .ok state => some { system with
        state
        owner := fun jobId => if jobId ∈ restored then none else system.owner jobId }
    | .error _ => some system

end Submissions

end RustFerry.Github
