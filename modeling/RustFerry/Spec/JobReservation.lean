import RustFerry.Native.JobReservation
import RustFerry.Spec.SnapshotRun

/-!
# Submissions side by side

What holds of a provider however the sections of its submissions are interleaved: an id is
reserved or has a job, not both, and all of them fit the capacity. A job is removed only when it
may be recycled or by the guard of its own submission, as long as no record is put under an id
that the guard of an earlier submission may still remove.
-/

namespace RustFerry.Github

open Remote Except

section

variable {record : JobRecord} {submission : Nat}

/-! ## Recycling -/

variable {restored : Finmap fun _ : String => JobRecord}

namespace ProviderState

variable {state state' state'' : ProviderState} {jobId : String} {maximum : Nat}
  {allowRecycling : Bool}

/-- All that is used of the capacity. -/
def used (state : ProviderState) : Nat := state.jobs.keys.card + state.reservations.card

/-- Some recyclable jobs are removed. -/
structure Recycles (state state' : ProviderState) : Prop where
  reservations : state'.reservations = state.reservations
  lookup : ∀ id record, state.jobs.lookup id = some record →
    state'.jobs.lookup id = some record ∨
      state'.jobs.lookup id = none ∧ recordIsRecyclable record = true
  absent : ∀ id, state.jobs.lookup id = none → state'.jobs.lookup id = none

theorem Recycles.refl (state : ProviderState) : Recycles state state :=
  ⟨rfl, fun _ _ h => .inl h, fun _ h => h⟩

theorem Recycles.trans (h : Recycles state state') (h' : Recycles state' state'') :
    Recycles state state'' where
  reservations := h'.reservations.trans h.reservations
  lookup := by
    intro id record hrecord
    obtain hkept | ⟨hgone, hrecyclable⟩ := h.lookup id record hrecord
    · exact h'.lookup id record hkept
    · exact .inr ⟨h'.absent id hgone, hrecyclable⟩
  absent := fun id hnone => h'.absent id (h.absent id hnone)

theorem Recycles.keys_subset (h : Recycles state state') : state'.jobs.keys ⊆ state.jobs.keys := by
  intro id hid
  rw [Finmap.mem_keys] at hid ⊢
  by_contra hnot
  exact Finmap.lookup_eq_none.mp (h.absent id (Finmap.lookup_eq_none.mpr hnot)) hid

theorem Recycles.used_le (h : Recycles state state') : state'.used ≤ state.used := by
  have hcard := Finset.card_le_card h.keys_subset
  rw [used, used, h.reservations]
  omega

theorem recycles_removeJob (h : (state.jobs.lookup jobId).any recordIsRecyclable = true) :
    Recycles state (state.removeJob jobId) where
  reservations := rfl
  lookup := by
    intro id record hrecord
    by_cases hid : id = jobId
    · subst hid
      rw [hrecord] at h
      exact .inr ⟨Finmap.lookup_erase _ _, h⟩
    · exact .inl ((Finmap.lookup_erase_ne hid).trans hrecord)
  absent := by
    intro id hnone
    by_cases hid : id = jobId
    · subst hid
      exact Finmap.lookup_erase _ _
    · exact (Finmap.lookup_erase_ne hid).trans hnone

theorem recycles_recycleSame : Recycles state (state.recycleSame jobId allowRecycling) := by
  rw [recycleSame]
  split
  · rename_i h
    exact recycles_removeJob (Bool.and_eq_true_iff.mp h).2
  · exact .refl state

theorem recyclable_of_oldestRecyclable (h : state.oldestRecyclable = some jobId) :
    jobId ∈ state.jobs.keys ∧ (state.jobs.lookup jobId).any recordIsRecyclable = true := by
  rw [oldestRecyclable] at h
  split at h
  · rename_i hnonempty
    obtain ⟨id, hid, hmin⟩ := Finset.mem_image.mp (Finset.min'_mem _ hnonempty)
    rw [← hmin] at h
    obtain rfl : id = jobId := Option.some.inj h
    exact Finset.mem_filter.mp hid
  · cases h

/-- Room is made by recycling, and one more reservation fits then. -/
theorem makeRoom_eq_ok (h : state.makeRoom maximum allowRecycling = .ok state') :
    Recycles state state' ∧ (state.used ≤ maximum → state'.used < maximum) := by
  rw [makeRoom] at h
  split at h
  · rename_i hroom
    cases h
    exact ⟨.refl _, fun _ => hroom⟩
  · split at h
    · cases h
    · cases holdest : state.oldestRecyclable with
      | none =>
        rw [holdest] at h
        cases h
      | some jobId =>
        rw [holdest] at h
        cases h
        obtain ⟨hmem, hrecyclable⟩ := recyclable_of_oldestRecyclable holdest
        refine ⟨recycles_removeJob hrecyclable, fun hused => ?_⟩
        -- one job less
        have hcard := Finset.card_erase_lt_of_mem hmem
        have hremoved : (state.removeJob jobId).used =
            (state.jobs.keys.erase jobId).card + state.reservations.card := by
          rw [used, removeJob, Finmap.keys_erase]
        rw [used] at hused
        omega

/-- A reservation recycles jobs, and the id is free of jobs then. -/
structure Acquires (jobId : String) (maximum : Nat) (state state' : ProviderState) : Prop where
  unreserved : jobId ∉ state.reservations
  free : jobId ∉ state'.jobs
  room : ∃ recycled, Recycles state recycled ∧ state' = recycled.reserve jobId ∧
    (state.used ≤ maximum → recycled.used < maximum)

/-- What a successful reservation did. -/
theorem acquire_eq_ok (h : state.acquire jobId maximum allowRecycling = .ok state') :
    Acquires jobId maximum state state' := by
  rw [acquire, check_bind_eq_ok, bind_eq_ok] at h
  obtain ⟨hoccupied, recycled, hroom, hreserve⟩ := h
  cases hreserve
  rw [rejectIf_eq_ok, occupied, Bool.or_eq_false_iff, decide_eq_false_iff_not] at hoccupied
  obtain ⟨hunreserved, hstays⟩ := hoccupied
  obtain ⟨hrecycles, hused⟩ := makeRoom_eq_ok hroom
  have hsame : Recycles state (state.recycleSame jobId allowRecycling) := recycles_recycleSame
  refine ⟨hunreserved, ?_, recycled, hsame.trans hrecycles, rfl,
    fun hle => hused (hsame.used_le.trans hle)⟩
  -- a job under the id is recyclable, and recycled first
  apply Finmap.lookup_eq_none.mp
  apply hrecycles.absent
  rw [recycleSame]
  split
  · exact Finmap.lookup_erase _ _
  · rename_i hkept
    cases hrecord : state.jobs.lookup jobId with
    | none => rfl
    | some record =>
      rw [hrecord, Option.any_some] at hstays hkept
      cases allowRecycling <;> cases hrecyclable : recordIsRecyclable record <;> simp_all

/-! ## Insertions and updates -/

/-- A pending job is one more. -/
theorem keys_insertPending :
    (state.insertPending jobId record).jobs.keys = insert jobId state.jobs.keys := by
  ext id
  simp [insertPending, Finmap.mem_keys]

variable {change : JobRecord → JobRecord}

/-- An update keeps the jobs. -/
theorem keys_updateRecord :
    (state.updateRecord jobId change).jobs.keys = state.jobs.keys := by
  rw [updateRecord]
  split
  · rename_i record hrecord
    ext id
    simp only [Finmap.mem_keys, Finmap.mem_insert]
    refine ⟨fun h => ?_, .inr⟩
    obtain rfl | h := h
    · exact Finmap.mem_of_lookup_eq_some hrecord
    · exact h
  · rfl

theorem reservations_updateRecord :
    (state.updateRecord jobId change).reservations = state.reservations := by
  rw [updateRecord]
  split <;> rfl

/-- Jobs are restored within the capacity. -/
theorem insertRestoredRecords_eq_ok
    (h : state.insertRestoredRecords restored maximum = .ok state') :
    state.reservations = ∅ ∧ state.jobs.keys.card + restored.keys.card ≤ maximum ∧
      Disjoint restored.keys state.jobs.keys ∧
      state' = { state with jobs := restored ∪ state.jobs } := by
  rw [insertRestoredRecords, check_bind_eq_ok] at h
  obtain ⟨hconflict, heq⟩ := h
  rw [rejectIf_eq_ok, Bool.or_eq_false_iff, Bool.or_eq_false_iff, decide_eq_false_iff_not,
    decide_eq_false_iff_not, decide_eq_false_iff_not, not_not, not_lt,
    Finset.not_nonempty_iff_eq_empty] at hconflict
  exact ⟨hconflict.1.1, hconflict.1.2, hconflict.2, (Except.ok.inj heq).symm⟩

end ProviderState

/-! ## What every run keeps -/

namespace Submissions

variable {maxJobs : Nat} {system system' : Submissions} {event : SubmissionEvent}
  {fits : Submissions → SubmissionEvent → Prop}

/-- An id is not both reserved and taken, the capacity is kept, and every reservation is held by
    one submission; no other id is reserved. -/
structure Inv (maxJobs : Nat) (system : Submissions) : Prop where
  disjoint : Disjoint system.state.reservations system.state.jobs.keys
  bounded : system.state.used ≤ maxJobs
  reserved : ∀ n id, system.guards n = some (.reservation id) → id ∈ system.state.reservations
  unique : ∀ m n id, system.guards m = some (.reservation id) →
    system.guards n = some (.reservation id) → m = n
  held : ∀ id ∈ system.state.reservations, ∃ n, system.guards n = some (.reservation id)
  fresh : ∀ n, system.started ≤ n → system.guards n = none

theorem inv_initial : Inv maxJobs initial where
  disjoint := Finset.disjoint_empty_left _
  bounded := Nat.zero_le _
  reserved := fun _ _ h => (nomatch h)
  unique := fun _ _ _ h => (nomatch h)
  held := fun _ h => absurd h (Finset.notMem_empty _)
  fresh := fun _ _ => rfl

/-- A submission that has begun holds a guard. -/
theorem Inv.lt_started (h : Inv maxJobs system) {n : Nat} {guard : JobGuard}
    (hguard : system.guards n = some guard) : n < system.started := by
  by_contra hnot
  rw [h.fresh n (Nat.not_lt.mp hnot)] at hguard
  cases hguard

/-- Only the guard of one submission changes. -/
theorem guard_of_setGuard {submission n : Nat} {guard : Option JobGuard} {held : JobGuard}
    (hguard : guard ≠ some held)
    (h : Function.update system.guards submission guard n = some held) :
    n ≠ submission ∧ system.guards n = some held := by
  by_cases hn : n = submission
  · subst hn
    rw [Function.update_self] at h
    exact absurd h hguard
  · rw [Function.update_of_ne hn] at h
    exact ⟨hn, h⟩

variable {held : JobGuard}

theorem Inv.fresh_setGuard (h : Inv maxJobs system)
    (hheld : system.guards submission = some held) (guard : Option JobGuard) (n : Nat)
    (hn : system.started ≤ n) : Function.update system.guards submission guard n = none := by
  have hlt := h.lt_started hheld
  rw [Function.update_of_ne (by omega)]
  exact h.fresh n hn

variable {id : String}

/-- A reservation that stays is still held. -/
theorem Inv.held_setGuard (h : Inv maxJobs system)
    (hheld : system.guards submission = some held) (guard : Option JobGuard)
    (hid : id ∈ system.state.reservations) (hother : held ≠ .reservation id) :
    ∃ n, Function.update system.guards submission guard n = some (.reservation id) := by
  obtain ⟨n, hn⟩ := h.held id hid
  refine ⟨n, (Function.update_of_ne ?_ _ _).trans hn⟩
  rintro rfl
  exact hother (Option.some.inj (hheld.symm.trans hn))

variable {jobId : String}

theorem Inv.held_erase (h : Inv maxJobs system)
    (hheld : system.guards submission = some (.reservation jobId)) (guard : Option JobGuard)
    (hid : id ∈ system.state.reservations.erase jobId) :
    ∃ n, Function.update system.guards submission guard n = some (.reservation id) := by
  obtain ⟨hne, hid⟩ := Finset.mem_erase.mp hid
  exact h.held_setGuard hheld guard hid fun heq => hne (JobGuard.reservation.inj heq).symm

variable {state : ProviderState}

/-- A reservation that was acquired. -/
theorem Inv.begin (h : Inv maxJobs system)
    (hacquires : ProviderState.Acquires jobId maxJobs system.state state) :
    Inv maxJobs (system.begin jobId (.ok state)) := by
  obtain ⟨hunreserved, hfree, recycled, hrecycles, rfl, hused⟩ := hacquires
  have hreservations : recycled.reservations = system.state.reservations :=
    hrecycles.reservations
  -- the guard is the new one, or one of an earlier submission
  have hguard : ∀ n id, Function.update system.guards system.started
      (some (.reservation jobId)) n = some (.reservation id) →
      n = system.started ∧ id = jobId ∨
        n < system.started ∧ system.guards n = some (.reservation id) := by
    intro n id hn
    by_cases hstarted : n = system.started
    · subst hstarted
      rw [Function.update_self] at hn
      injection hn with hn
      injection hn with hn
      exact .inl ⟨rfl, hn.symm⟩
    · rw [Function.update_of_ne hstarted] at hn
      exact .inr ⟨h.lt_started hn, hn⟩
  refine ⟨?_, ?_, ?_, ?_, ?_, ?_⟩
  · show Disjoint (insert jobId recycled.reservations) recycled.jobs.keys
    rw [Finset.disjoint_insert_left, hreservations]
    refine ⟨fun hmem => hfree (Finmap.mem_keys.mp hmem), ?_⟩
    exact h.disjoint.mono_right hrecycles.keys_subset
  · show recycled.jobs.keys.card + (insert jobId recycled.reservations).card ≤ maxJobs
    have hcard := Finset.card_insert_le jobId recycled.reservations
    -- one place was free
    have hlt := hused h.bounded
    rw [ProviderState.used] at hlt
    omega
  · intro n id hn
    show id ∈ insert jobId recycled.reservations
    rw [hreservations]
    obtain ⟨-, rfl⟩ | ⟨-, hn⟩ := hguard n id hn
    · exact Finset.mem_insert_self _ _
    · exact Finset.mem_insert_of_mem (h.reserved n id hn)
  · intro m n id hm hn
    obtain ⟨rfl, rfl⟩ | ⟨-, hm'⟩ := hguard m id hm
    · obtain ⟨rfl, -⟩ | ⟨-, hn'⟩ := hguard n id hn
      · rfl
      · exact absurd (h.reserved n id hn') hunreserved
    · obtain ⟨rfl, rfl⟩ | ⟨-, hn'⟩ := hguard n id hn
      · exact absurd (h.reserved m id hm') hunreserved
      · exact h.unique m n id hm' hn'
  · intro id hid
    have hid : id ∈ insert jobId recycled.reservations := hid
    rw [hreservations] at hid
    rcases Finset.mem_insert.mp hid with rfl | hid
    · exact ⟨system.started, Function.update_self _ _ _⟩
    · obtain ⟨n, hn⟩ := h.held id hid
      exact ⟨n, (Function.update_of_ne (h.lt_started hn).ne _ _).trans hn⟩
  · intro n hn
    have hlt : system.started + 1 ≤ n := hn
    show Function.update system.guards system.started _ n = none
    rw [Function.update_of_ne (by omega)]
    exact h.fresh n (by omega)

variable {submission : Nat}

/-- A reservation that is dropped. -/
theorem Inv.dropReservation (h : Inv maxJobs system)
    (hheld : system.guards submission = some (.reservation jobId)) :
    Inv maxJobs { system.setGuard submission none with
      state := system.state.dropReservation jobId } := by
  refine ⟨?_, ?_, ?_, ?_, ?_, fun n hn => h.fresh_setGuard hheld none n hn⟩
  · exact h.disjoint.mono_left (Finset.erase_subset _ _)
  · have hcard := Finset.card_erase_le (a := jobId) (s := system.state.reservations)
    have hbounded := h.bounded
    show system.state.jobs.keys.card + (system.state.reservations.erase jobId).card ≤ maxJobs
    rw [ProviderState.used] at hbounded
    omega
  · intro n id hn
    obtain ⟨hne, hn'⟩ := guard_of_setGuard (Option.some_ne_none _).symm hn
    apply Finset.mem_erase_of_ne_of_mem _ (h.reserved n id hn')
    rintro rfl
    exact hne (h.unique n submission id hn' hheld)
  · intro m n id hm hn
    exact h.unique m n id (guard_of_setGuard (Option.some_ne_none _).symm hm).2
      (guard_of_setGuard (Option.some_ne_none _).symm hn).2
  · exact fun id hid => h.held_erase hheld none hid

variable {owner : String → Option Nat}

/-- A reservation that becomes a pending job. -/
theorem Inv.insertPending (h : Inv maxJobs system) {record : JobRecord}
    (hheld : system.guards submission = some (.reservation jobId)) :
    Inv maxJobs { system.setGuard submission (some (.pending jobId false)) with
      state := system.state.insertPending jobId record
      owner } := by
  have hpending : ∀ id, some (JobGuard.pending jobId false) ≠ some (.reservation id) := by
    intro id hsome
    injection hsome with hsome
    cases hsome
  have hmem := h.reserved submission jobId hheld
  refine ⟨?_, ?_, ?_, ?_, ?_, fun n hn => h.fresh_setGuard hheld _ n hn⟩
  · show Disjoint (system.state.reservations.erase jobId) _
    rw [ProviderState.keys_insertPending, Finset.disjoint_insert_right]
    refine ⟨Finset.notMem_erase _ _, ?_⟩
    exact h.disjoint.mono_left (Finset.erase_subset _ _)
  · -- one reservation less, at most one job more
    have hcard := Finset.card_insert_le jobId system.state.jobs.keys
    have herase := Finset.card_erase_add_one hmem
    have hbounded := h.bounded
    show (system.state.insertPending jobId record).jobs.keys.card +
      (system.state.reservations.erase jobId).card ≤ maxJobs
    rw [ProviderState.keys_insertPending]
    rw [ProviderState.used] at hbounded
    omega
  · intro n id hn
    obtain ⟨hne, hn'⟩ := guard_of_setGuard (hpending id) hn
    apply Finset.mem_erase_of_ne_of_mem _ (h.reserved n id hn')
    rintro rfl
    exact hne (h.unique n submission id hn' hheld)
  · intro m n id hm hn
    exact h.unique m n id (guard_of_setGuard (hpending id) hm).2
      (guard_of_setGuard (hpending id) hn).2
  · exact fun id hid => h.held_erase hheld _ hid

/-- A guard of a record changes, and jobs may be removed. -/
theorem Inv.setGuard (h : Inv maxJobs system) {guard : Option JobGuard}
    (hheld : system.guards submission = some held) (hheldOther : ∀ id, held ≠ .reservation id)
    (hguard : ∀ id, guard ≠ some (.reservation id))
    (hreservations : state.reservations = system.state.reservations)
    (hkeys : state.jobs.keys ⊆ system.state.jobs.keys) :
    Inv maxJobs { system.setGuard submission guard with state := state } where
  disjoint := hreservations ▸ h.disjoint.mono_right hkeys
  bounded := by
    have hcard := Finset.card_le_card hkeys
    have hbounded := h.bounded
    show state.used ≤ maxJobs
    rw [ProviderState.used] at hbounded ⊢
    rw [hreservations]
    omega
  reserved := fun n id hn => hreservations ▸ h.reserved n id (guard_of_setGuard (hguard id) hn).2
  unique := fun m n id hm hn => h.unique m n id (guard_of_setGuard (hguard id) hm).2
    (guard_of_setGuard (hguard id) hn).2
  held := fun id hid => h.held_setGuard hheld guard (hreservations ▸ hid) (hheldOther id)
  fresh := fun n hn => h.fresh_setGuard hheld guard n hn

/-- Jobs that are restored. -/
theorem Inv.insertRestoredRecords (h : Inv maxJobs system)
    (hstate : system.state.insertRestoredRecords restored maxJobs = .ok state) :
    Inv maxJobs { system with state := state, owner := owner } := by
  obtain ⟨hempty, hcapacity, -, rfl⟩ := ProviderState.insertRestoredRecords_eq_ok hstate
  refine ⟨?_, ?_, h.reserved, h.unique, h.held, h.fresh⟩
  · show Disjoint system.state.reservations _
    rw [hempty]
    exact Finset.disjoint_empty_left _
  · show (restored ∪ system.state.jobs).keys.card + system.state.reservations.card ≤ maxJobs
    have hcard := Finset.card_union_le restored.keys system.state.jobs.keys
    rw [Finmap.keys_union, hempty, Finset.card_empty]
    omega

/-- A step keeps the invariant. -/
theorem Inv.step (h : Inv maxJobs system) (hstep : system.step maxJobs event = some system') :
    Inv maxJobs system' := by
  cases event with
  | acquire jobId allowRecycling =>
    cases hstep
    cases hacquire : system.state.acquire jobId maxJobs allowRecycling with
    | ok state => exact h.begin (ProviderState.acquire_eq_ok hacquire)
    | error e =>
      exact ⟨h.disjoint, h.bounded, h.reserved, h.unique, h.held,
        fun n hn => h.fresh n (Nat.le_of_succ_le hn)⟩
  | dropReservation submission =>
    simp only [Submissions.step] at hstep
    split at hstep
    · rename_i jobId hheld
      cases hstep
      exact h.dropReservation hheld
    · cases hstep
  | insertPending submission record =>
    simp only [Submissions.step] at hstep
    split at hstep
    · rename_i jobId hheld
      cases hstep
      exact h.insertPending hheld
    · cases hstep
  | retain submission =>
    simp only [Submissions.step] at hstep
    split at hstep
    · rename_i jobId retain hheld
      cases hstep
      apply h.setGuard hheld nofun _ rfl (Finset.Subset.refl _)
      intro id hsome
      injection hsome with hsome
      cases hsome
    · cases hstep
  | dropPending submission =>
    simp only [Submissions.step] at hstep
    split at hstep
    · rename_i jobId hheld
      cases hstep
      refine h.setGuard hheld nofun (fun _ => (Option.some_ne_none _).symm) rfl ?_
      rw [ProviderState.dropPending, ProviderState.removeJob, Finmap.keys_erase]
      exact Finset.erase_subset _ _
    · rename_i jobId hheld
      cases hstep
      exact h.setGuard hheld nofun (fun _ => (Option.some_ne_none _).symm) rfl (Finset.Subset.refl _)
    · cases hstep
  | updateRecord jobId change =>
    cases hstep
    have hkeys : (system.state.updateRecord jobId change).jobs.keys = system.state.jobs.keys :=
      ProviderState.keys_updateRecord
    have hreservations : (system.state.updateRecord jobId change).reservations =
        system.state.reservations := ProviderState.reservations_updateRecord
    -- an update changes neither jobs nor reservations
    refine ⟨?_, ?_, ?_, h.unique, ?_, h.fresh⟩
    · rw [hkeys, hreservations]
      exact h.disjoint
    · rw [ProviderState.used, hkeys, hreservations]
      exact h.bounded
    · rw [hreservations]
      exact h.reserved
    · rw [hreservations]
      exact h.held
  | insertRestoredRecords restored =>
    simp only [Submissions.step] at hstep
    split at hstep
    · rename_i state hstate
      cases hstep
      exact h.insertRestoredRecords hstate
    · cases hstep
      exact h

/-- The states of runs whose steps are all as described. -/
inductive Reachable (maxJobs : Nat) (fits : Submissions → SubmissionEvent → Prop) :
    Submissions → Prop where
  | initial : Reachable maxJobs fits initial
  | step {system system' : Submissions} {event : SubmissionEvent} :
    Reachable maxJobs fits system → fits system event →
    system.step maxJobs event = some system' → Reachable maxJobs fits system'

theorem Reachable.inv (h : Reachable maxJobs fits system) : Inv maxJobs system := by
  induction h with
  | initial => exact inv_initial
  | step _ _ hstep ih => exact ih.step hstep

/-- The state after some events. -/
def run (maxJobs : Nat) (events : List SubmissionEvent) : Option Submissions :=
  events.foldlM (fun system event => system.step maxJobs event) initial

theorem reachable_of_foldlM {maxJobs : Nat} {system system' : Submissions}
    (h : Reachable maxJobs (fun _ _ => True) system) (events : List SubmissionEvent)
    (hrun : events.foldlM (fun system event => system.step maxJobs event) system = some system') :
    Reachable maxJobs (fun _ _ => True) system' := by
  induction events generalizing system with
  | nil =>
    cases hrun
    exact h
  | cons event events ih =>
    rw [List.foldlM_cons] at hrun
    obtain ⟨next, hnext, hrest⟩ := Option.bind_eq_some_iff.mp hrun
    exact ih (.step h trivial hnext) hrest
/-! ## Removals -/

/-- No record is put under an id that the guard of an earlier submission may still remove. -/
def Separate (system : Submissions) : SubmissionEvent → Prop
  | .insertPending submission _ => ∀ id, system.guards submission = some (.reservation id) →
    ∀ m, system.guards m ≠ some (.pending id false)
  | .insertRestoredRecords restored =>
    ∀ id ∈ restored, ∀ m, system.guards m ≠ some (.pending id false)
  | _ => True

/-- A guard that may remove a job belongs to its submission. -/
def Owned (system : Submissions) : Prop :=
  ∀ n id, system.guards n = some (.pending id false) → id ∈ system.state.jobs →
    system.owner id = some n

theorem Owned.step (h : Owned system) (hseparate : Separate system event)
    (hstep : system.step maxJobs event = some system') : Owned system' := by
  cases event with
  | acquire jobId allowRecycling =>
    cases hstep
    cases hacquire : system.state.acquire jobId maxJobs allowRecycling with
    | error e => exact h
    | ok state =>
      obtain ⟨-, -, recycled, hrecycles, rfl, -⟩ := ProviderState.acquire_eq_ok hacquire
      intro n id hn hid
      have hn' : Function.update system.guards system.started (some (.reservation jobId)) n =
        some (.pending id false) := hn
      by_cases hstarted : n = system.started
      · rw [hstarted, Function.update_self] at hn'
        injection hn' with hn'
        cases hn'
      · rw [Function.update_of_ne hstarted] at hn'
        exact h n id hn' (Finmap.mem_keys.mp (hrecycles.keys_subset (Finmap.mem_keys.mpr hid)))
  | dropReservation submission =>
    simp only [Submissions.step] at hstep
    split at hstep
    · rename_i jobId hheld
      cases hstep
      intro n id hn hid
      exact h n id (guard_of_setGuard (Option.some_ne_none _).symm hn).2 hid
    · cases hstep
  | insertPending submission record =>
    simp only [Submissions.step] at hstep
    split at hstep
    · rename_i jobId hheld
      cases hstep
      intro n id hn hid
      have hn' : Function.update system.guards submission (some (.pending jobId false)) n =
        some (.pending id false) := hn
      show Function.update system.owner jobId (some submission) id = some n
      by_cases hsubmission : n = submission
      · rw [hsubmission, Function.update_self] at hn'
        injection hn' with hn'
        injection hn' with hn'
        rw [hn', hsubmission, Function.update_self]
      · -- no other guard may remove a job under this id
        rw [Function.update_of_ne hsubmission] at hn'
        have hother : id ≠ jobId := by
          rintro rfl
          exact hseparate id hheld n hn'
        rw [Function.update_of_ne hother]
        apply h n id hn'
        have hkeys : id ∈ (system.state.insertPending jobId record).jobs.keys :=
          Finmap.mem_keys.mpr hid
        rw [ProviderState.keys_insertPending] at hkeys
        exact Finmap.mem_keys.mp (Finset.mem_of_mem_insert_of_ne hkeys hother)
    · cases hstep
  | retain submission =>
    simp only [Submissions.step] at hstep
    split at hstep
    · rename_i jobId retain hheld
      cases hstep
      intro n id hn hid
      refine h n id (guard_of_setGuard (fun hsome => ?_) hn).2 hid
      injection hsome with hsome
      injection hsome with _ hsome
      cases hsome
    · cases hstep
  | dropPending submission =>
    simp only [Submissions.step] at hstep
    split at hstep
    · rename_i jobId hheld
      cases hstep
      intro n id hn hid
      refine h n id (guard_of_setGuard (Option.some_ne_none _).symm hn).2 ?_
      exact (Finmap.mem_erase.mp hid).2
    · rename_i jobId hheld
      cases hstep
      intro n id hn hid
      exact h n id (guard_of_setGuard (Option.some_ne_none _).symm hn).2 hid
    · cases hstep
  | updateRecord jobId change =>
    cases hstep
    intro n id hn hid
    apply h n id hn
    have hkeys : id ∈ (system.state.updateRecord jobId change).jobs.keys :=
      Finmap.mem_keys.mpr hid
    rw [ProviderState.keys_updateRecord] at hkeys
    exact Finmap.mem_keys.mp hkeys
  | insertRestoredRecords restored =>
    simp only [Submissions.step] at hstep
    split at hstep
    · rename_i state hstate
      cases hstep
      obtain ⟨-, -, -, rfl⟩ := ProviderState.insertRestoredRecords_eq_ok hstate
      intro n id hn hid
      have hother : id ∉ restored := fun hmem => hseparate id hmem n hn
      show (if id ∈ restored then none else system.owner id) = some n
      rw [if_neg hother]
      obtain hmem | hmem := Finmap.mem_union.mp hid
      · exact absurd hmem hother
      · exact h n id hn hmem
    · cases hstep
      exact h

theorem Reachable.owned (h : Reachable maxJobs fits system)
    (hfits : ∀ system event, fits system event → Separate system event) : Owned system := by
  induction h with
  | initial => exact fun _ _ hnone => nomatch hnone
  | step _ hfit hstep ih => exact ih.step (hfits _ _ hfit) hstep

/-- A step removes a job only if it is recyclable, or by a guard that is dropped. -/
theorem removed_by_step (hstep : system.step maxJobs event = some system')
    (hrecord : system.state.jobs.lookup id = some record)
    (hremoved : system'.state.jobs.lookup id = none) :
    recordIsRecyclable record = true ∨ ∃ submission, event = .dropPending submission ∧
      system.guards submission = some (.pending id false) := by
  have hmem : id ∈ system.state.jobs := Finmap.mem_of_lookup_eq_some hrecord
  have hkept : id ∉ system'.state.jobs := Finmap.lookup_eq_none.mp hremoved
  -- only a reservation and a dropped guard remove jobs
  cases event with
  | acquire jobId allowRecycling =>
    cases hstep
    cases hacquire : system.state.acquire jobId maxJobs allowRecycling with
    | error e =>
      rw [hacquire] at hkept
      exact absurd hmem hkept
    | ok state =>
      rw [hacquire] at hremoved
      obtain ⟨-, -, recycled, hrecycles, rfl, -⟩ := ProviderState.acquire_eq_ok hacquire
      obtain hsame | ⟨-, hrecyclable⟩ := hrecycles.lookup id record hrecord
      · have hnone : recycled.jobs.lookup id = none := hremoved
        rw [hsame] at hnone
        cases hnone
      · exact .inl hrecyclable
  | dropReservation submission =>
    simp only [Submissions.step] at hstep
    split at hstep
    · cases hstep
      exact absurd hmem hkept
    · cases hstep
  | insertPending submission inserted =>
    simp only [Submissions.step] at hstep
    split at hstep
    · cases hstep
      exact absurd (Finmap.mem_insert.mpr (.inr hmem)) hkept
    · cases hstep
  | retain submission =>
    simp only [Submissions.step] at hstep
    split at hstep
    · cases hstep
      exact absurd hmem hkept
    · cases hstep
  | dropPending submission =>
    simp only [Submissions.step] at hstep
    split at hstep
    · rename_i jobId hheld
      cases hstep
      have hid : id = jobId := by
        by_contra hne
        exact hkept (Finmap.mem_erase.mpr ⟨hne, hmem⟩)
      exact .inr ⟨submission, rfl, hid ▸ hheld⟩
    · cases hstep
      exact absurd hmem hkept
    · cases hstep
  | updateRecord jobId change =>
    cases hstep
    rw [← Finmap.mem_keys] at hkept
    have hkeys : (system.state.updateRecord jobId change).jobs.keys = system.state.jobs.keys :=
      ProviderState.keys_updateRecord
    exact absurd (hkeys ▸ Finmap.mem_keys.mpr hmem) hkept
  | insertRestoredRecords restored =>
    simp only [Submissions.step] at hstep
    split at hstep
    · rename_i state hstate
      cases hstep
      obtain ⟨-, -, -, rfl⟩ := ProviderState.insertRestoredRecords_eq_ok hstate
      exact absurd (Finmap.mem_union.mpr (.inr hmem)) hkept
    · cases hstep
      exact absurd hmem hkept

theorem step_dropPending (hguard : system.guards submission = some (.pending id false)) :
    system.step maxJobs (.dropPending submission) =
      some { system.setGuard submission none with state := system.state.dropPending id } := by
  simp only [Submissions.step, hguard]

/-- Without the condition the guard of the earlier submission removes the new record. -/
theorem removed_unless_separate
    (hstep : system.step maxJobs (.insertPending submission record) = some system')
    (hnot : ¬Separate system (.insertPending submission record)) :
    ∃ earlier id system'', earlier ≠ submission ∧ system'.owner id = some submission ∧
      system'.state.jobs.lookup id = some record ∧
      system'.step maxJobs (.dropPending earlier) = some system'' ∧
      system''.state.jobs.lookup id = none := by
  simp only [Separate, not_forall, not_not] at hnot
  obtain ⟨id, hheld, earlier, hearlier⟩ := hnot
  have hne : earlier ≠ submission := by
    rintro rfl
    rw [hheld] at hearlier
    injection hearlier with hguard
    cases hguard
  simp only [Submissions.step, hheld, Option.some.injEq] at hstep
  subst hstep
  have hguard : Function.update system.guards submission (some (.pending id false)) earlier =
      some (.pending id false) := (Function.update_of_ne hne _ _).trans hearlier
  exact ⟨earlier, id, _, hne, Function.update_self _ _ _, Finmap.lookup_insert _,
    step_dropPending hguard, Finmap.lookup_erase _ _⟩

/-- In every run no id is both reserved and taken, and the capacity is kept. As long as no record
    is put under an id that an earlier guard may remove, a job is removed only when it is
    recyclable or by the guard of the submission that inserted it. -/
theorem jobs_removed_rightly (maxJobs : Nat) (fits : Submissions → SubmissionEvent → Prop)
    (system : Submissions) (h : Reachable maxJobs fits system) :
    Disjoint system.state.reservations system.state.jobs.keys ∧
      system.state.jobs.keys.card + system.state.reservations.card ≤ maxJobs ∧
      ((∀ system event, fits system event → Separate system event) →
        ∀ event system', system.step maxJobs event = some system' →
        ∀ id record, system.state.jobs.lookup id = some record →
          (system'.state.jobs.lookup id = none → recordIsRecyclable record = true ∨
            ∃ submission, event = .dropPending submission ∧ system.owner id = some submission) ∧
          ∀ submission, event = .dropPending submission → system.owner id ≠ some submission →
            system'.state.jobs.lookup id ≠ none) := by
  refine ⟨h.inv.disjoint, h.inv.bounded, ?_⟩
  intro hfits event system' hstep id record hrecord
  have howned := h.owned hfits
  have hmem : id ∈ system.state.jobs := Finmap.mem_of_lookup_eq_some hrecord
  constructor
  · intro hremoved
    obtain hrecyclable | ⟨submission, hevent, hguard⟩ := removed_by_step hstep hrecord hremoved
    · exact .inl hrecyclable
    · exact .inr ⟨submission, hevent, howned submission id hguard hmem⟩
  · -- the guard removes by its ID, which it owns
    rintro submission rfl hother hremoved
    simp only [Submissions.step] at hstep
    split at hstep
    · rename_i jobId hheld
      cases hstep
      have hid : id = jobId := by
        by_contra hne
        exact Finmap.lookup_eq_none.mp hremoved (Finmap.mem_erase.mpr ⟨hne, hmem⟩)
      exact hother (howned submission id (hid ▸ hheld) hmem)
    · cases hstep
      exact Finmap.lookup_eq_none.mp hremoved hmem
    · cases hstep

/-- No reservation leaks: an id is reserved exactly while one submission holds its reservation. -/
theorem reserved_iff_held (h : Reachable maxJobs fits system) (id : String) :
    id ∈ system.state.reservations ↔ ∃! n, system.guards n = some (.reservation id) := by
  constructor
  · intro hid
    obtain ⟨n, hn⟩ := h.inv.held id hid
    exact ⟨n, hn, fun m hm => h.inv.unique m n id hm hn⟩
  · rintro ⟨n, hn, -⟩
    exact h.inv.reserved n id hn

theorem reserved_iff_held_of_acquire : ∃ system,
    initial.step 2 (.acquire "operation-1" true) = some system ∧
      ("operation-1" ∈ system.state.reservations ↔
        ∃! n, system.guards n = some (.reservation "operation-1")) := by
  obtain ⟨system, hstep⟩ : ∃ system, initial.step 2 (.acquire "operation-1" true) = some system :=
    ⟨_, rfl⟩
  have hreachable : Reachable 2 (fun _ _ => True) system := .step .initial trivial hstep
  exact ⟨system, hstep, reserved_iff_held hreachable "operation-1"⟩

end Submissions

end

/-! ## A sample -/

namespace Sample

open Submissions

/-- The sample job without a snapshot. -/
def created : JobRecord := { submitted with gitSnapshot := none }

/-- A submission whose publication was not attempted, and a second one of the same operation that
    recycles its record before its guard is dropped. -/
def resubmission : List SubmissionEvent :=
  [.acquire "operation-1" true, .insertPending 0 created,
    .updateRecord "operation-1" JobRecord.withoutPublication, .acquire "operation-1" true]

theorem run_resubmission : ∃ system, run 2 resubmission = some system ∧
    system.guards 0 = some (.pending "operation-1" false) ∧
    system.guards 1 = some (.reservation "operation-1") := ⟨_, rfl, rfl, rfl⟩

/-- The guard of a failed submission removes the record of the next one. -/
theorem resubmitted_job_lost :
    ¬∀ (maxJobs : Nat) (system : Submissions), Reachable maxJobs (fun _ _ => True) system →
      Disjoint system.state.reservations system.state.jobs.keys ∧
      system.state.jobs.keys.card + system.state.reservations.card ≤ maxJobs ∧
      ∀ event system', system.step maxJobs event = some system' →
      ∀ id record, system.state.jobs.lookup id = some record →
        (system'.state.jobs.lookup id = none → recordIsRecyclable record = true ∨
          ∃ submission, event = .dropPending submission ∧ system.owner id = some submission) ∧
        ∀ submission, event = .dropPending submission → system.owner id ≠ some submission →
          system'.state.jobs.lookup id ≠ none := by
  intro hclaim
  obtain ⟨system, hrun, hfirst, hsecond⟩ := run_resubmission
  have hreachable := reachable_of_foldlM .initial resubmission hrun
  have hinsert : ∃ inserted, system.step 2 (.insertPending 1 created) = some inserted := by
    rw [Submissions.step, hsecond]
    exact ⟨_, rfl⟩
  obtain ⟨inserted, hinsert⟩ := hinsert
  have hnot : ¬Separate system (.insertPending 1 created) :=
    fun hseparate => hseparate "operation-1" hsecond 0 hfirst
  obtain ⟨earlier, id, removed, hearlier, howner, hrecord, hdrop, hgone⟩ :=
    removed_unless_separate hinsert hnot
  have hother : inserted.owner id ≠ some earlier := by
    rw [howner]
    exact fun h => hearlier (Option.some.inj h).symm
  obtain ⟨-, -, hremovals⟩ := hclaim 2 inserted (.step hreachable trivial hinsert)
  exact (hremovals _ removed hdrop id created hrecord).2 earlier rfl hother hgone

/-- A submission that fails, and after it a second one of the same operation. -/
def inOrder : List SubmissionEvent :=
  [.acquire "operation-1" true, .insertPending 0 created, .dropPending 0,
    .acquire "operation-1" true, .insertPending 1 created]

/-- The second record of the operation: only the guard of its own submission may remove it. -/
theorem jobs_removed_rightly_of_submissions : ∃ system, run 2 inOrder = some system ∧
    Disjoint system.state.reservations system.state.jobs.keys ∧
      system.state.jobs.keys.card + system.state.reservations.card ≤ 2 ∧
      ∀ event system', system.step 2 event = some system' →
      ∀ id record, system.state.jobs.lookup id = some record →
        (system'.state.jobs.lookup id = none → recordIsRecyclable record = true ∨
          ∃ submission, event = .dropPending submission ∧ system.owner id = some submission) ∧
        ∀ submission, event = .dropPending submission → system.owner id ≠ some submission →
          system'.state.jobs.lookup id ≠ none := by
  obtain ⟨s₁, s₂, s₃, s₄, s₅, h₁, h₂, h₃, h₄, h₅, hrun, hguards₁, hguards₂, hguards₃, hguards₄⟩ :
      ∃ s₁ s₂ s₃ s₄ s₅, initial.step 2 (.acquire "operation-1" true) = some s₁ ∧
      s₁.step 2 (.insertPending 0 created) = some s₂ ∧ s₂.step 2 (.dropPending 0) = some s₃ ∧
      s₃.step 2 (.acquire "operation-1" true) = some s₄ ∧
      s₄.step 2 (.insertPending 1 created) = some s₅ ∧ run 2 inOrder = some s₅ ∧
      s₁.guards = Function.update (fun _ => none) 0 (some (.reservation "operation-1")) ∧
      s₂.guards = Function.update s₁.guards 0 (some (.pending "operation-1" false)) ∧
      s₃.guards = Function.update s₂.guards 0 none ∧
      s₄.guards = Function.update s₃.guards 1 (some (.reservation "operation-1")) :=
    ⟨_, _, _, _, _, rfl, rfl, rfl, rfl, rfl, rfl, rfl, rfl, rfl, rfl⟩
  -- at either insertion no earlier guard may remove the record
  have hfirst : Separate s₁ (.insertPending 0 created) := by
    intro id _ m
    rw [hguards₁, Function.update_apply]
    split_ifs <;> simp
  have hsecond : Separate s₄ (.insertPending 1 created) := by
    intro id _ m
    rw [hguards₄, hguards₃, hguards₂, hguards₁]
    simp only [Function.update_apply]
    split_ifs <;> simp
  have hreachable : Reachable 2 Separate s₅ := by
    refine .step (.step (.step (.step (.step .initial ?_ h₁) hfirst h₂) ?_ h₃) ?_ h₄) hsecond h₅
    all_goals trivial
  obtain ⟨hdisjoint, hbounded, hremovals⟩ := jobs_removed_rightly 2 Separate s₅ hreachable
  exact ⟨s₅, hrun, hdisjoint, hbounded, hremovals fun _ _ h => h⟩

end Sample

end RustFerry.Github
