import RustFerry.Native.KeychainWorkers
import RustFerry.Spec.SigningKeychain

/-!
# The search list of concurrent workers

Each call of a worker knows the search list while it holds the lock: the list that is, and the list
that is to be left behind. The calls are verified one by one against a contract on this knowledge,
and the knowledge of all calls is related to the shared state along every interleaving.
-/

namespace RustFerry.Worker

namespace SharedKeychain

open ProgM Protected

/-! ## What a call knows -/

/-- A call does not have the lock, has just taken it, or has it and knows the list and the list that
is to be left behind. -/
inductive LockPhase where
  | outside
  | acquired
  | holding (list base : List Path)

/-- A call creates a keychain or collects stale ones. -/
inductive CallRole where
  | creator
  | collector

def KeychainCall.role : KeychainCall → CallRole
  | .sign .. => .creator
  | .collect _ => .collector

/-- What a call knows; it may take the keychains that are its own off the list. -/
structure CallView where
  role : CallRole
  phase : LockPhase
  own : List Path

variable {list : List Path} {g : CallView}

namespace CallView

/-- The list that is to be left behind, after a command. -/
def baseAfter (g : CallView) (command : Command) (list base list' : List Path) : List Path :=
  match g.role, command with
  | .collector, _ => list'
  | .creator, .deleteKeychain keychain =>
    if list' = list then base else base.filter (· != keychain)
  | .creator, _ => base

def afterCommand (g : CallView) (command : Command) (list' : List Path) : CallView :=
  match g.phase with
  | .outside => g
  | .acquired => { g with phase := .holding list' list' }
  | .holding list base => { g with phase := .holding list' (g.baseAfter command list base list') }

@[simp] theorem afterCommand_role {g : CallView} {command : Command} {list' : List Path} :
    (g.afterCommand command list').role = g.role := by
  unfold afterCommand
  split <;> rfl

@[simp] theorem afterCommand_own {g : CallView} {command : Command} {list' : List Path} :
    (g.afterCommand command list').own = g.own := by
  unfold afterCommand
  split <;> rfl

/-- A command changes the list of its holder. -/
theorem afterCommand_holding {command : Command} {base list' : List Path}
    (hphase : g.phase = .holding list base) :
    (g.afterCommand command list').phase =
      .holding list' (g.baseAfter command list base list') := by
  rw [afterCommand, hphase]

def afterTool (w : Workers) (g : CallView) : (op : SignOp) → SignRes op → CallView
  | .run command, answer => g.afterCommand command answer.searchList
  | .lockExclusive path, answer =>
    match answer with
    | .ok true => if path = w.canonicalRoot ++ [searchListLock] then { g with phase := .acquired }
      else g
    | _ => g
  | .createDir path, answer =>
    match answer with
    | .ok () => { g with own := (path ++ [keychainFile]) :: g.own }
    | .error _ => g
  | _, _ => g

/-- The keychains of the planned jobs that may be removed. -/
def plannedKeychains (jobs : List StaleJob) : List Path :=
  (jobs.filter (·.safeToRemove)).map StaleJob.keychainPath

def next (w : Workers) (g : CallView) : (op : WorkerOp) → WorkerRes op → CallView
  | .tool _ op, answer => g.afterTool w op answer
  | .unlock _, _ => { g with phase := .outside }
  | .planStaleJobs _, answer =>
    match answer with
    | .ok jobs => { g with own := plannedKeychains jobs ++ g.own }
    | .error _ => g
  | .hold _, _ => g

/-- What is assumed of an answer. -/
def Assumes (w : Workers) (g : CallView) : (op : WorkerOp) → WorkerRes op → Prop
  | .tool restoring (.run command), answer => ∃ list,
    w.CommandEffect restoring command list answer ∧
      ∀ list' base, g.phase = .holding list' base → list' = list
  | .tool _ (.canonicalize path), answer => path = w.workerRoot → ∀ canonical,
    answer = .ok canonical → canonical = w.canonicalRoot
  | _, _ => True

/-- A list to which a call may set the search list. -/
def MaySet (g : CallView) (restoring : Bool) (list base paths : List Path) : Prop :=
  match g.role with
  | .creator =>
    if restoring then paths = base
    else ∃ keychain ∈ g.own, paths = keychain :: base.filter (· != keychain)
  | .collector => restoring = false ∧ ∃ stale : List Path, (∀ path ∈ stale, path ∈ g.own) ∧
    paths = list.filter fun path => !stale.contains path

/-- What is guaranteed of a command. -/
def GuaranteesCommand (g : CallView) (restoring : Bool) : Command → Prop
  | .querySearchList => g.phase = .acquired
  | .setSearchList paths => ∃ list base, g.phase = .holding list base ∧
    g.MaySet restoring list base paths
  | .createKeychain .. => g.role = .creator ∧ ∃ list base, g.phase = .holding list base
  | .deleteKeychain keychain => keychain ∈ g.own ∧ ∃ base, g.phase = .holding base base
  | _ => g.phase ≠ .acquired

/-- What is guaranteed of an operation. -/
def Guarantees (w : Workers) (g : CallView) : (op : WorkerOp) → Prop
  | .tool restoring (.run command) => g.GuaranteesCommand restoring command
  | .tool _ (.lockExclusive path) => path = w.canonicalRoot ++ [searchListLock] ∧
    g.phase = .outside
  | .unlock path => path = w.canonicalRoot ++ [searchListLock] ∧
    (g.phase = .acquired ∨ ∃ base, g.phase = .holding base base)
  | .hold keychain => g.role = .creator ∧ keychain ∈ g.own ∧
    ∃ base, g.phase = .holding (keychain :: base.filter (· != keychain)) base
  | .planStaleJobs _ => g.role = .collector
  | _ => True

end CallView

/-- The contract of every call. -/
def callContract (w : Workers) : Contract WorkerOp WorkerRes CallView where
  next := CallView.next w
  assume := CallView.Assumes w
  guarantee g op _ := g.Guarantees w op

/-- The contract for the operations of the engine. -/
abbrev toolContract (w : Workers) (restoring : Bool) : Contract SignOp SignRes CallView :=
  (callContract w).through (WorkerOp.tool restoring)

variable {restoring : Bool}

/-- A block is judged by its tools. -/
theorem wp_during {w : Workers} {σ α : Type} {x : EngineM σ α}
    {Q : α → σ → CallView → Prop} {E : KeychainError → σ → CallView → Prop} {s : σ} :
    wp (callContract w) (during restoring x) Q E s g ↔
      wp (toolContract w restoring) x Q E s g :=
  wp_through

/-- The same for a computation on the keychain. -/
theorem wp_onKeychain {w : Workers} {α : Type} {x : KeychainM α}
    {Q : α → LockedKeychain → CallView → Prop} {E : KeychainError → LockedKeychain → CallView → Prop}
    {s : LockedKeychain} :
    wp (callContract w) (onKeychain restoring x) Q E s g ↔
      wp (toolContract w restoring) x (fun a keychain => Q a { s with keychain })
        (fun e keychain => E e { s with keychain }) s.keychain g := by
  rw [onKeychain, wp_zoom, wp_during]

/-! ## Operations without effect -/

/-- The operation neither takes the lock nor creates a directory, and is no command. -/
def IsQuiet : SignOp → Prop
  | .run _ | .lockExclusive _ | .createDir _ => False
  | _ => True

/-- The command neither reads nor changes the search list. -/
def IsAside : Command → Prop
  | .querySearchList | .setSearchList _ | .createKeychain .. | .deleteKeychain _ => False
  | _ => True

section

variable {w : Workers} {restoring : Bool} {σ : Type} {g : CallView}
  {E : KeychainError → σ → CallView → Prop} {Q : Unit → σ → CallView → Prop}
  {input : SigningKeychainInput} {signingRoot root : Path} {own list' : List Path}

theorem silent_call {op : SignOp} (hop : IsQuiet op) :
    Silent (toolContract w restoring) (Protected.call op : EngineM σ (SignRes op)) g := by
  apply silent_perform
  intro r
  cases op with
  | run _ | lockExclusive _ | createDir _ => exact hop.elim
  | _ => exact ⟨trivial, rfl⟩

/-- What is done to files leaves no trace. -/
theorem silent_files {α : Type} {x : EngineM σ α} (hx : Performs (IsFileOp []) x) :
    Silent (toolContract w restoring) x g := by
  apply hx.silent
  intro op r hop
  cases op with
  | run _ | lockExclusive _ | createDir _ => exact hop.elim
  | _ => exact ⟨trivial, rfl⟩

/-- A creator that is not between the lock and the query. -/
def IsSteady (g : CallView) : Prop := g.role = .creator ∧ g.phase ≠ .acquired

/-- A command aside leaves the list alone. -/
theorem silent_runCommand {command : Command} (hcommand : IsAside command) (hg : IsSteady g) :
    Silent (toolContract w restoring) (runCommand command : EngineM σ (List UInt8)) g := by
  apply silent_bind
  · apply silent_assumed
    intro r hr
    obtain ⟨role, phase, own⟩ := g
    obtain ⟨rfl, hphase⟩ := hg
    cases command with
    | querySearchList | setSearchList _ | createKeychain _ _ | deleteKeychain _ =>
      exact hcommand.elim
    | _ =>
      refine ⟨hphase, ?_⟩
      cases phase with
      | outside => rfl
      | acquired => exact absurd rfl hphase
      | holding list base =>
        obtain ⟨before, heffect, hlist⟩ := hr
        have hsame : r.searchList = list := heffect.trans (hlist list base rfl).symm
        show CallView.mk .creator (.holding r.searchList base) own = _
        rw [hsame]
  · exact fun _ => silent_ofExcept

theorem silent_generateHexValue {bytes : Nat} (hg : IsSteady g) :
    Silent (toolContract w restoring) (generateHexValue w.parsers bytes : EngineM σ String) g := by
  apply silent_bind
  · exact silent_runCommand trivial hg
  exact fun _ => silent_ofExcept

theorem silent_inspectDecodedCertificate {pem : Path} (hg : IsSteady g) :
    Silent (toolContract w restoring)
      (inspectDecodedCertificate w.parsers pem : EngineM σ KeychainIdentityEvidence) g := by
  apply silent_bind
  · exact silent_mapError (silent_runCommand trivial hg)
  intro _
  apply silent_bind
  · exact silent_runCommand trivial hg
  intro der
  apply silent_bind silent_ensure
  intro _
  apply silent_bind
  · exact silent_runCommand trivial hg
  intro sha1
  apply silent_bind silent_ensure
  intro _
  apply silent_bind
  · exact silent_runCommand trivial hg
  intro subject
  apply silent_bind silent_ofExcept
  intro names
  apply silent_bind
  · exact silent_runCommand trivial hg
  intro expiration
  exact silent_bind silent_ofExcept fun _ => silent_pure

theorem silent_requireJobDirectory {reason : String} :
    Silent (toolContract w restoring) (PlatformKeychain.requireJobDirectory reason) g := by
  apply silent_bind
  · apply silent_bind silent_get
    intro self
    exact silent_bind (silent_files performs_directoryIdentity) fun _ => silent_pure
  · exact fun _ => silent_ensure

theorem silent_decodeIdentity (hg : IsSteady g) :
    Silent (toolContract w restoring) (PlatformKeychain.decodeIdentity w.parsers input) g := by
  apply silent_bind silent_requireJobDirectory
  intro _
  apply silent_bind silent_get
  intro self
  apply silent_bind (silent_files (performs_writeOwnerMarker List.nil_prefix))
  intro _
  apply silent_bind (silent_files (performs_writePrivateFile List.nil_prefix))
  intro _
  apply silent_bind (silent_files (performs_createPrivateFile List.nil_prefix))
  intro _
  apply silent_bind silent_requireJobDirectory
  intro _
  apply silent_bind
  · exact silent_runCommand trivial hg
  intro _
  apply silent_bind (silent_files performs_secureRegularFile)
  intro _
  apply silent_bind (silent_files performs_removeRegularFile)
  intro _
  exact silent_inspectDecodedCertificate hg

/-! ## Roots and lock -/

/-- The canonical worker root is the shared one. -/
theorem wp_prepareRoots {s : σ} {Q : Path × Path → σ → CallView → Prop}
    (hQ : ∀ root, Q (w.canonicalRoot, root) s g) (hE : ∀ e, E e s g) :
    wp (toolContract w restoring) (prepareRoots w.workerRoot signingRoot) Q E s g := by
  have hsigning : Silent (toolContract w restoring)
      (prepareSigningRoot signingRoot : EngineM σ Path) g := by
    apply silent_bind
    · exact silent_call trivial
    intro answer
    apply silent_bind silent_ofExcept
    intro info
    apply silent_bind silent_ensure
    intro _
    apply silent_bind
    · exact silent_call trivial
    intro _
    apply silent_bind silent_ofExcept
    intro _
    apply silent_bind
    · exact silent_call trivial
    · exact fun _ => silent_ofExcept
  rw [prepareRoots, wp_bind, prepareExistingWorkerRoot, wp_bind]
  apply Silent.wp _ _ hE
  · exact silent_call trivial
  intro answer
  rw [wp_bind]
  apply silent_ofExcept.wp _ hE
  intro info
  rw [wp_bind]
  apply silent_ensure.wp _ hE
  intro _
  rw [wp_bind]
  apply silent_ensure.wp _ hE
  intro _
  rw [wp_bind]
  -- the answer for the shared root is its canonical path
  intro canonical hcanonical
  refine ⟨trivial, ?_⟩
  cases canonical with
  | error kind => exact hE _
  | ok path =>
    obtain rfl : path = w.canonicalRoot := hcanonical rfl path rfl
    show wp (toolContract w restoring) (_ >>= fun _ => _) Q E s g
    rw [wp_bind]
    apply hsigning.wp _ hE
    intro root
    rw [wp_bind]
    exact silent_ensure.wp (fun _ => hQ root) hE

/-- The lock is taken, or nothing has happened. -/
theorem wp_acquireLock {s : σ} {Q : Path → σ → CallView → Prop} (hg : g.phase = .outside)
    (hQ : Q (w.canonicalRoot ++ [searchListLock]) s { g with phase := .acquired })
    (hE : ∀ e, E e s g) :
    wp (callContract w) (acquireLock w.canonicalRoot) Q E s g := by
  rw [acquireLock, wp_bind, wp_during, acquireSearchListLock, wp_bind]
  apply Silent.wp _ _ hE
  · exact silent_call trivial
  intro answer
  rw [wp_bind]
  apply silent_ofExcept.wp _ hE
  intro _
  rw [wp_bind]
  apply Silent.wp _ _ hE
  · exact silent_call trivial
  intro opened
  rw [wp_bind]
  apply silent_ofExcept.wp _ hE
  intro _
  rw [wp_bind]
  apply Silent.wp _ _ hE
  · exact silent_call trivial
  intro secured
  rw [wp_bind]
  apply silent_ofExcept.wp _ hE
  intro _
  rw [wp_bind]
  intro locked _
  refine ⟨⟨rfl, hg⟩, ?_⟩
  -- only the answer `Ok(true)` takes the lock
  obtain kind | _ | _ := locked
  · exact hE _
  · exact hE _
  · have hnext : (toolContract w false).next g
        (.lockExclusive (w.canonicalRoot ++ [searchListLock])) (.ok true) =
          { g with phase := .acquired } := if_pos rfl
    rw [hnext]
    exact hQ

/-- The lock is released while the list is as it is to be left behind. -/
theorem wp_releaseLock {s : σ} (hg : g.phase = .acquired ∨ ∃ base, g.phase = .holding base base)
    (hQ : Q () s { g with phase := .outside }) :
    wp (callContract w) (releaseLock (some (w.canonicalRoot ++ [searchListLock]))) Q E s g :=
  fun _ _ => ⟨⟨rfl, hg⟩, hQ⟩

/-- The job directory is new, and its keychain the caller's own. -/
theorem wp_createUniqueJobDirectory {attempts : Nat} {s : σ} {Q : Path → σ → CallView → Prop}
    (hg : IsSteady g)
    (hQ : ∀ jobDir, Q jobDir s { g with own := (jobDir ++ [keychainFile]) :: g.own })
    (hE : ∀ e own, E e s { g with own }) :
    wp (toolContract w restoring) (createUniqueJobDirectory w.parsers root attempts) Q E s g := by
  induction attempts with
  | zero => exact hE _ _
  | succ attempts ih =>
    rw [createUniqueJobDirectory, wp_bind]
    apply (silent_generateHexValue hg).wp _ fun e => hE e _
    intro token
    rw [wp_bind]
    intro answer _
    refine ⟨trivial, ?_⟩
    obtain kind | _ := answer
    · by_cases hexists : kind = .alreadyExists
      · subst hexists
        exact ih
      · -- every other failure ends the attempts
        cases kind <;> first | exact absurd rfl hexists | exact hE _ _
    · show wp (toolContract w restoring) (_ >>= fun _ => _) Q E s _
      rw [wp_bind]
      apply Silent.wp _ _ fun e => hE e _
      · exact silent_call trivial
      intro secured
      rw [wp_bind]
      exact silent_ofExcept.wp (fun _ => hQ _) fun e => hE e _

/-! ## Capture -/

/-- The list is queried right after the lock was taken. -/
theorem wp_querySearchList {s : σ} {Q : List Path → σ → CallView → Prop} {role : CallRole}
    (hQ : ∀ list, Q list s ⟨role, .holding list list, own⟩)
    (hE : ∀ e list, E e s ⟨role, .holding list list, own⟩) :
    wp (toolContract w restoring) (querySearchList w.parsers) Q E s ⟨role, .acquired, own⟩ := by
  rw [querySearchList, wp_bind, runCommand, wp_bind]
  intro answer hanswer
  obtain ⟨before, ⟨hsame, hparsed⟩, _⟩ := hanswer
  refine ⟨rfl, ?_⟩
  obtain ⟨result, list⟩ := answer
  obtain failure | output := result
  · exact hE _ _
  · show wp (toolContract w restoring) (ofExcept (w.parsers.parseSearchList output)) Q E s
      ⟨role, .holding list list, own⟩
    rw [wp_ofExcept]
    apply And.intro
    · intro paths hpaths
      obtain rfl : paths = list := (hparsed output paths rfl hpaths).trans hsame.symm
      exact hQ _
    · exact fun e _ => hE e _

/-- The outcome of a tool that is a command. -/
theorem wp_runCommand {command : Command} {s : σ} {Q : List UInt8 → σ → CallView → Prop}
    (hguarantee : g.GuaranteesCommand restoring command)
    (hQ : ∀ answer output, (callContract w).assume g (.tool restoring (.run command)) answer →
      answer.result.isOk = true → Q output s (g.afterCommand command answer.searchList))
    (hE : ∀ answer e, (callContract w).assume g (.tool restoring (.run command)) answer →
      answer.result.isOk = false → E e s (g.afterCommand command answer.searchList)) :
    wp (toolContract w restoring) (runCommand command) Q E s g := by
  rw [runCommand, wp_bind]
  intro answer hanswer
  refine ⟨hguarantee, ?_⟩
  show wp (toolContract w restoring) (ofExcept _) Q E s (g.afterCommand command answer.searchList)
  rw [wp_ofExcept]
  apply And.intro
  · intro output hok
    apply hQ answer output hanswer
    obtain ⟨failure | output, list⟩ := answer
    · cases hok
    · rfl
  · intro e he
    apply hE answer e hanswer
    obtain ⟨failure | output, list⟩ := answer
    · rfl
    · cases he

/-! ## The cleanup -/

/-- A keychain that may be cleaned up: what it would restore is the list to be left behind. `held`
says whether the call has the lock. -/
structure Pending (held : Bool) (k : PlatformKeychain) (g : CallView) : Prop where
  role : g.role = .creator
  own : k.keychainPath ∈ g.own
  active : k.active = true
  free : held = false →
    g.phase = .outside ∧ k.searchListMutated = false ∧ k.keychainCreated = false
  locked : held = true → ∃ list base, g.phase = .holding list base ∧
    if k.searchListMutated then k.priorSearchList = base else list = base

/-- A keychain whose search list was restored. -/
structure Restored (held active : Bool) (k : PlatformKeychain) (g : CallView) : Prop where
  role : g.role = .creator
  own : k.keychainPath ∈ g.own
  active : k.active = active
  restored : k.searchListMutated = false
  free : held = false → g.phase = .outside ∧ k.keychainCreated = false
  locked : held = true → ∃ base, g.phase = .holding base base

variable {held active : Bool} {k : PlatformKeychain}

/-- What is restored was pending. -/
theorem Restored.pending (h : Restored held true k g) : Pending held k g where
  role := h.role
  own := h.own
  active := h.active
  free hheld := ⟨(h.free hheld).1, h.restored, (h.free hheld).2⟩
  locked := by
    intro hheld
    obtain ⟨base, hbase⟩ := h.locked hheld
    refine ⟨base, base, hbase, ?_⟩
    simp [h.restored]

/-- The restoration sets the list that is to be left behind. -/
theorem wp_restoreSearchList {E : KeychainError → PlatformKeychain → CallView → Prop}
    (h : Pending held k g) :
    wp (toolContract w true) PlatformKeychain.restoreSearchList (fun _ => Restored held true) E
      k g := by
  rw [PlatformKeychain.restoreSearchList, wp_bind, wp_get]
  cases hmutated : k.searchListMutated with
  | false =>
    refine ⟨h.role, h.own, h.active, hmutated, fun hheld => ?_, fun hheld => ?_⟩
    · exact ⟨(h.free hheld).1, (h.free hheld).2.2⟩
    · obtain ⟨list, base, hphase, hlist⟩ := h.locked hheld
      rw [if_neg (by simp [hmutated])] at hlist
      exact ⟨base, hlist ▸ hphase⟩
  | true =>
    -- a list that was mutated is set under the lock
    have hheld : held = true := by
      by_contra hfree
      have := (h.free (by simpa using hfree)).2.1
      simp [hmutated] at this
    obtain ⟨list, base, hphase, hprior⟩ := h.locked hheld
    rw [if_pos hmutated] at hprior
    rw [if_pos rfl, wp_bind, setSearchList, wp_bind]
    apply wp_runCommand
    · refine ⟨list, base, hphase, ?_⟩
      simp [CallView.MaySet, h.role, hprior]
    · intro answer output hanswer _
      obtain ⟨before, ⟨_, hset⟩, _⟩ := hanswer
      refine ⟨CallView.afterCommand_role.trans h.role, ?_, h.active, rfl, ?_, ?_⟩
      · rw [CallView.afterCommand_own]
        exact h.own
      · intro hfree
        rw [hheld] at hfree
        cases hfree
      · intro _
        refine ⟨base, ?_⟩
        rw [CallView.afterCommand_holding hphase, hset, hprior]
        simp [CallView.baseAfter, h.role]
    · -- the tool does not fail
      intro answer e hanswer hfailed
      obtain ⟨before, ⟨hok, _⟩, _⟩ := hanswer
      rw [hok] at hfailed
      cases hfailed

/-- The tool may take the deleted keychain off the list, and off the list to be left behind. -/
theorem keeps_deleteKeychain :
    Keeps (toolContract w restoring) (Restored held active) PlatformKeychain.deleteKeychain := by
  intro k g h
  rw [PlatformKeychain.deleteKeychain, wp_bind, PlatformKeychain.hasKeychain, wp_bind, wp_get]
  cases hcreated : k.keychainCreated with
  | false => exact h
  | true =>
    -- a keychain is created under the lock
    have hheld : held = true := by
      by_contra hfree
      have hnone := (h.free (by simpa using hfree)).2
      rw [hcreated] at hnone
      cases hnone
    obtain ⟨base, hbase⟩ := h.locked hheld
    have hown : k.keychainPath ∈ g.own := h.own
    have hafter : ∀ answer : ToolAnswer (Except CommandFailure (List UInt8)),
        (callContract w).assume g (.tool restoring (.run (.deleteKeychain k.keychainPath)))
          answer →
        Restored held active k
          (g.afterCommand (.deleteKeychain k.keychainPath) answer.searchList) := by
      intro answer hanswer
      obtain ⟨before, heffect, hbefore⟩ := hanswer
      obtain rfl := hbefore base base hbase
      refine ⟨CallView.afterCommand_role.trans h.role, ?_, h.active, h.restored, ?_, ?_⟩
      · rw [CallView.afterCommand_own]
        exact hown
      · intro hfree
        rw [hheld] at hfree
        cases hfree
      · intro _
        refine ⟨answer.searchList, ?_⟩
        rw [CallView.afterCommand_holding hbase]
        by_cases hsame : answer.searchList = base
        · simp [CallView.baseAfter, h.role, hsame]
        · have hwithout : answer.searchList = base.filter (· != k.keychainPath) :=
            heffect.resolve_left hsame
          simp only [CallView.baseAfter, h.role, if_neg hsame]
          rw [hwithout]
    apply (silent_files performs_isRegularFile).wp _ fun _ => h
    intro regular
    cases regular with
    | false => exact h
    | true =>
      show wp (toolContract w restoring)
        (attempt (runCommand (.deleteKeychain k.keychainPath)) >>= fun _ => _) _ _ k g
      rw [wp_bind, wp_attempt]
      apply wp_runCommand
      · exact ⟨hown, base, hbase⟩
      · exact fun answer _ hanswer _ => hafter answer hanswer
      · exact fun answer _ hanswer _ => hafter answer hanswer

/-- What is left of a cleanup keeps the list restored. -/
theorem keepsCleanup : KeepsCleanup (toolContract w restoring) (Restored held active) where
  deleteKeychain := keeps_deleteKeychain
  deleted _ _ h := ⟨h.role, h.own, h.active, h.restored, fun hfree => ⟨(h.free hfree).1, rfl⟩,
    h.locked⟩
  files hx := Silent.keeps fun _ _ _ => silent_files (hx [])

/-- The list is restored by every cleanup, also by one that is not complete. -/
theorem wp_cleanup (h : Pending held k g) :
    wp (toolContract w true) PlatformKeychain.cleanup (fun _ => Restored held false)
      (fun _ => Restored held true) k g := by
  rw [PlatformKeychain.cleanup, wp_bind]
  apply wp_mono (Q := fun _ => Restored held true) (E := fun _ => Restored held true)
  · apply KeepsCleanup.wp_confirmCleanup (P := fun _ => Restored held true)
    · exact fun _ => keepsCleanup
    · exact wp_restoreSearchList h
    · exact fun _ _ _ _ h' => h'
  · intro confirmation k' g' h'
    cases confirmation.isComplete with
    | true => exact ⟨h'.role, h'.own, rfl, h'.restored, h'.free, h'.locked⟩
    | false => exact h'
  · exact fun _ _ _ h' => h'

/-- A keychain and its lock, if it has it. -/
structure Guarded (w : Workers) (l : LockedKeychain) (g : CallView) : Prop where
  pending : Pending l.searchLock.isSome l.keychain g
  lock : ∀ path, l.searchLock = some path → path = w.canonicalRoot ++ [searchListLock]

/-- A keychain that was cleaned up. -/
structure Released (l : LockedKeychain) (g : CallView) : Prop where
  inactive : l.keychain.active = false
  unlocked : l.searchLock = none
  outside : g.phase = .outside

variable {self : LockedKeychain}

/-- The lock of a restored list is released. -/
theorem wp_releaseSearchLock {lock : Option Path} {s : σ}
    (hlock : ∀ path, lock = some path → path = w.canonicalRoot ++ [searchListLock])
    (h : Restored lock.isSome active k g) (hQ : Q () s { g with phase := .outside }) :
    wp (callContract w) (releaseLock lock) Q E s g := by
  cases lock with
  | none =>
    have hg : g = { g with phase := .outside } := by
      rw [← (h.free rfl).1]
    rw [hg]
    exact hQ
  | some path =>
    obtain rfl := hlock path rfl
    exact wp_releaseLock (.inr (h.locked rfl)) hQ

/-- The lock is released when the cleanup is complete, and kept otherwise. -/
theorem wp_lockedCleanup (h : Guarded w self g) :
    wp (callContract w) LockedKeychain.cleanup (fun _ => Released) (fun _ => Guarded w)
      self g := by
  rw [LockedKeychain.cleanup, wp_bind, wp_onKeychain]
  apply wp_mono (wp_cleanup h.pending)
  · intro confirmation k' g' h'
    rw [wp_bind, wp_get, wp_bind]
    apply wp_releaseSearchLock h.lock h'
    exact ⟨h'.active, rfl, rfl⟩
  · exact fun e k' g' h' => ⟨h'.pending, h.lock⟩

/-- A dropped keychain restores the list and then releases the lock. -/
theorem wp_drop {s : σ} (h : Guarded w self g) (hQ : ∀ g', g'.phase = .outside → Q () s g') :
    wp (callContract w) self.drop Q E s g := by
  rw [LockedKeychain.drop, wp_bind, wp_during, PlatformKeychain.drop, h.pending.active,
    if_pos rfl, wp_bind, wp_runOn]
  apply wp_mono (wp_cleanup h.pending)
  · exact fun _ _ g' h' => wp_releaseSearchLock h.lock h' (hQ _ rfl)
  · exact fun _ _ g' h' => wp_releaseSearchLock h.lock h' (hQ _ rfl)

/-- Of a keychain that was cleaned up nothing is left to be dropped. -/
theorem Released.wp_drop {s : σ} (h : Released self g) (hQ : Q () s g) :
    wp (callContract w) self.drop Q E s g := by
  rw [LockedKeychain.drop, wp_bind, wp_during, PlatformKeychain.drop, h.inactive,
    if_neg Bool.false_ne_true, h.unlocked]
  exact hQ

/-! ## Construction -/

/-- The list is captured under the lock, which is released when that fails. -/
theorem wp_captureSearchList (h : Guarded w self g) (hnone : self.searchLock = none) :
    wp (callContract w) (LockedKeychain.captureSearchList w.parsers w.canonicalRoot)
      (fun _ self' g' => Guarded w self' g' ∧ self'.searchLock.isSome = true ∧
        self'.keychain.searchListMutated = true)
      (fun _ => Guarded w) self g := by
  have hpending : Pending false self.keychain g := by
    have hkept := h.pending
    rwa [hnone] at hkept
  have houtside := hpending.free rfl
  rw [LockedKeychain.captureSearchList, wp_bind]
  apply wp_acquireLock houtside.1
  · rw [wp_bind, wp_handle, wp_onKeychain]
    apply wp_querySearchList
    · intro list
      refine ⟨⟨⟨hpending.role, hpending.own, hpending.active, fun hheld => (by cases hheld),
        fun _ => ⟨list, list, rfl, rfl⟩⟩, ?_⟩, rfl, rfl⟩
      intro path hpath
      cases hpath
      rfl
    · intro e list
      rw [wp_bind]
      apply wp_releaseLock (.inr ⟨list, rfl⟩)
      refine ⟨?_, h.lock⟩
      rw [hnone]
      exact ⟨hpending.role, hpending.own, hpending.active, fun _ => ⟨rfl, houtside.2⟩,
        fun hheld => (by cases hheld)⟩
  · exact fun _ => h

/-- A keychain that is being imported, with the list captured. -/
structure Importing (k : PlatformKeychain) (g : CallView) : Prop extends Pending true k g where
  mutated : k.searchListMutated = true

/-- An import changes no list. -/
theorem Importing.steady (h : Importing k g) : IsSteady g := by
  apply And.intro h.role
  intro hacquired
  obtain ⟨list, base, hphase, _⟩ := h.locked rfl
  rw [hacquired] at hphase
  cases hphase

/-- The list was captured before the import. -/
theorem Importing.captured (h : Importing k g) :
    ∃ list, g.phase = .holding list k.priorSearchList := by
  obtain ⟨list, base, hphase, hprior⟩ := h.locked rfl
  rw [if_pos h.mutated] at hprior
  exact ⟨list, hprior ▸ hphase⟩

/-- Whatever list the tool leaves, the captured one can be restored. -/
theorem Importing.afterCommand (h : Importing k g) {command : Command}
    (hbase : ∀ list, g.baseAfter command list k.priorSearchList list' = k.priorSearchList) :
    Importing k (g.afterCommand command list') := by
  obtain ⟨list, hphase⟩ := h.captured
  refine ⟨⟨CallView.afterCommand_role.trans h.role, ?_, h.active, fun hheld => (by cases hheld),
    ?_⟩, h.mutated⟩
  · rw [CallView.afterCommand_own]
    exact h.own
  · intro _
    refine ⟨list', k.priorSearchList, ?_, ?_⟩
    · rw [CallView.afterCommand_holding hphase, hbase]
    · rw [if_pos h.mutated]

theorem keeps_createAndUnlockKeychain {password : String} :
    Keeps (toolContract w false) Importing (PlatformKeychain.createAndUnlockKeychain password) := by
  apply keeps_bind
  · apply keeps_modify
    exact fun k g h => ⟨⟨h.role, h.own, h.active, fun hheld => (by cases hheld), h.locked⟩,
      h.mutated⟩
  intro _
  apply keeps_get_bind
  intro self g _
  apply keeps_bind
  · intro k g h
    have hafter : ∀ list', Importing k
        (g.afterCommand (.createKeychain self.keychainPath password) list') := by
      intro list'
      apply h.afterCommand
      intro list
      simp [CallView.baseAfter, h.role]
    apply wp_runCommand
    · obtain ⟨list, hphase⟩ := h.captured
      exact ⟨h.role, list, _, hphase⟩
    · exact fun _ _ _ _ => hafter _
    · exact fun _ _ _ _ => hafter _
  intro _
  apply keeps_bind (Silent.keeps fun _ _ _ => (silent_files performs_secureRegularFile))
  intro _
  apply keeps_bind
  · exact Silent.keeps fun _ _ h => silent_runCommand trivial h.steady
  intro _
  apply keeps_bind
  · exact Silent.keeps fun _ _ h => silent_runCommand trivial h.steady
  · exact fun _ => keeps_pure

/-- The keychain is first in the list. -/
def InFront (k : PlatformKeychain) (g : CallView) : Prop :=
  ∃ base, g.phase = .holding (k.keychainPath :: base.filter (· != k.keychainPath)) base

/-- The imported keychain is put first in the list. -/
theorem wp_importKeychain {evidence : KeychainIdentityEvidence} (h : Importing k g) :
    wp (toolContract w false) (PlatformKeychain.importKeychain w.parsers evidence)
      (fun _ k' g' => Pending true k' g' ∧ InFront k' g') (fun _ => Pending true) k g := by
  have hE : ∀ (e : KeychainError) k g, Importing k g → Pending true k g :=
    fun _ _ _ h => h.toPending
  rw [PlatformKeychain.importKeychain, wp_bind]
  apply silent_requireJobDirectory.wp _ fun e => hE e _ _ h
  intro _
  rw [wp_bind]
  apply (silent_generateHexValue h.steady).wp _ fun e => hE e _ _ h
  intro password
  apply keeps_createAndUnlockKeychain.wp_bind h _ hE
  intro _ k' g' h'
  rw [wp_bind, wp_get, wp_bind]
  apply Silent.wp _ _ fun e => hE e _ _ h'
  · exact silent_runCommand trivial h'.steady
  intro _
  rw [wp_bind]
  apply Silent.wp _ _ fun e => hE e _ _ h'
  · exact silent_runCommand trivial h'.steady
  intro _
  rw [wp_bind, confirmImportedIdentity, wp_bind]
  apply Silent.wp _ _ fun e => hE e _ _ h'
  · exact silent_runCommand trivial h'.steady
  intro listing
  apply silent_ofExcept.wp _ fun e => hE e _ _ h'
  intro _
  rw [wp_bind]
  apply (silent_files performs_removeRegularFile).wp _ fun e => hE e _ _ h'
  intro _
  -- the captured list behind the keychain
  obtain ⟨list, hphase⟩ := h'.captured
  have hafter : ∀ list', Importing k' (g'.afterCommand (.setSearchList
      (k'.keychainPath :: k'.priorSearchList.filter (· != k'.keychainPath))) list') := by
    intro list'
    apply h'.afterCommand
    intro list
    simp [CallView.baseAfter, h'.role]
  rw [setSearchList, wp_bind]
  apply @wp_runCommand _ _ _ _ _ (.setSearchList
    (k'.keychainPath :: k'.priorSearchList.filter (· != k'.keychainPath)))
  · refine ⟨list, _, hphase, ?_⟩
    simp only [CallView.MaySet, h'.role]
    exact ⟨_, h'.own, rfl⟩
  · intro answer output hanswer hok
    refine ⟨(hafter _).toPending, k'.priorSearchList, ?_⟩
    obtain ⟨before, ⟨hset, _⟩, _⟩ := hanswer
    rw [CallView.afterCommand_holding hphase, hset hok]
    simp [CallView.baseAfter, h'.role]
  · exact fun answer e _ _ => (hafter _).toPending

/-- A keychain that is populated is first in the list; one that is not can still be cleaned up. -/
theorem wp_populate (h : Guarded w self g) (hnone : self.searchLock = none) :
    wp (callContract w) (LockedKeychain.populate w.parsers w.canonicalRoot input)
      (fun _ self' g' => Guarded w self' g' ∧ InFront self'.keychain g')
      (fun _ => Guarded w) self g := by
  have hsteady : IsSteady g := by
    apply And.intro h.pending.role
    have hfree := h.pending.free
    rw [hnone] at hfree
    rw [(hfree rfl).1]
    simp
  rw [LockedKeychain.populate, wp_bind, wp_onKeychain]
  apply (silent_decodeIdentity hsteady).wp _ fun _ => h
  intro evidence
  rw [wp_bind]
  apply wp_mono (wp_captureSearchList h hnone)
  · intro _ self' g' hcaptured
    obtain ⟨h', hlocked, hmutated⟩ := hcaptured
    have himporting : Importing self'.keychain g' := by
      refine ⟨?_, hmutated⟩
      rw [← hlocked]
      exact h'.pending
    rw [wp_bind, wp_onKeychain]
    apply wp_mono (wp_importKeychain himporting)
    · intro _ k' g'' himported
      refine ⟨⟨?_, h'.lock⟩, himported.2⟩
      rw [hlocked]
      exact himported.1
    · intro e k' g'' hpending
      refine ⟨?_, h'.lock⟩
      rw [hlocked]
      exact hpending
  · exact fun _ _ _ h' => h'

/-- A created keychain is first in the list, under the lock; on every error the list is restored
and the lock released. -/
theorem wp_create {s : σ} {Q : KeychainGuard → σ → CallView → Prop} (hrole : g.role = .creator)
    (houtside : g.phase = .outside)
    (hQ : ∀ guard g', Guarded w guard.inner g' → InFront guard.inner.keychain g' → Q guard s g')
    (hE : ∀ e g', g'.phase = .outside → E e s g') :
    wp (callContract w) (KeychainGuard.create w.parsers w.workerRoot signingRoot input) Q E
      s g := by
  have hsteady : IsSteady g := by
    apply And.intro hrole
    rw [houtside]
    simp
  rw [KeychainGuard.create, wp_bind, wp_during]
  apply wp_prepareRoots _ fun e => hE e g houtside
  intro root
  simp only
  rw [wp_bind, wp_during]
  apply wp_createUniqueJobDirectory hsteady _ fun e own => hE e _ houtside
  intro jobDir
  rw [wp_bind, wp_during]
  apply (silent_files performs_directoryIdentity).wp
  · intro jobIdentity
    rw [wp_bind, wp_runOn]
    apply wp_mono (wp_populate _ rfl)
    · exact fun evidence inner g' h' => hQ _ g' h'.1 h'.2
    · intro e inner g' h'
      simp only
      rw [wp_bind]
      exact wp_drop h' (hE e)
    · -- the new keychain is the call's own, and nothing is to be restored
      refine ⟨⟨hrole, ?_, rfl, fun _ => ⟨houtside, rfl, rfl⟩, fun hheld => (by cases hheld)⟩,
        fun path hpath => (by cases hpath)⟩
      exact List.mem_cons_self
  · exact fun e => hE e _ houtside

/-- An explicit cleanup restores the list and releases the lock, also when it is not complete. -/
theorem wp_guardCleanup {guard : KeychainGuard} {s : σ}
    {Q : KeychainCleanupConfirmation → σ → CallView → Prop} (h : Guarded w guard.inner g)
    (hQ : ∀ confirmation g', g'.phase = .outside → Q confirmation s g')
    (hE : ∀ e g', g'.phase = .outside → E e s g') :
    wp (callContract w) guard.cleanup Q E s g := by
  rw [KeychainGuard.cleanup, wp_bind, wp_runOn]
  apply wp_mono (wp_lockedCleanup h)
  · intro confirmation inner g' h'
    rw [wp_bind]
    exact h'.wp_drop (hQ confirmation g' h'.outside)
  · intro e inner g' h'
    rw [wp_bind]
    exact wp_drop h' (hE e)

/-- A session holds its keychain first in the list, and ends without the lock. -/
theorem wp_signingSession (hrole : g.role = .creator) (houtside : g.phase = .outside) :
    wp (callContract w) (signingSession w.parsers w.workerRoot signingRoot input)
      (fun _ _ g' => g'.phase = .outside) (fun _ _ g' => g'.phase = .outside) () g := by
  rw [signingSession, wp_bind]
  apply wp_create hrole houtside _ fun _ _ h => h
  intro guard g' h hfront
  rw [wp_bind]
  intro explicit _
  refine ⟨⟨h.pending.role, h.pending.own, hfront⟩, ?_⟩
  show wp (callContract w) (finish guard explicit) _ _ () g'
  cases explicit with
  | true =>
    rw [finish, if_pos rfl, wp_bind]
    exact wp_guardCleanup h (fun _ _ h' => h') fun _ _ h' => h'
  | false =>
    rw [finish, if_neg Bool.false_ne_true, wp_bind]
    exact wp_drop h fun _ h' => h'

/-! ## Garbage collection -/

/-- A collector that has the lock and leaves the list behind as it is. -/
structure Collecting (stale : List Path) (g : CallView) : Prop where
  role : g.role = .collector
  own : ∀ path ∈ stale, path ∈ g.own
  locked : ∃ base, g.phase = .holding base base

variable {stale : List Path}

/-- A command keeps the collection going. -/
theorem Collecting.afterCommand (h : Collecting stale g) {command : Command} :
    Collecting stale (g.afterCommand command list') := by
  obtain ⟨base, hbase⟩ := h.locked
  refine ⟨CallView.afterCommand_role.trans h.role, ?_, list', ?_⟩
  · rw [CallView.afterCommand_own]
    exact h.own
  · rw [CallView.afterCommand_holding hbase]
    simp [CallView.baseAfter, h.role]

theorem keeps_deleteStaleKeychain {keychain : Path} (hstale : keychain ∈ stale) :
    Keeps (toolContract w false) (fun (_ : σ) g => Collecting stale g)
      (deleteStaleKeychain keychain) := by
  apply keeps_bind (Silent.keeps fun _ _ _ => (silent_files performs_isRegularFile))
  intro regular
  cases regular with
  | false => exact keeps_pure
  | true =>
    rw [if_pos rfl]
    apply keeps_succeeds
    intro s g h
    apply wp_runCommand
    · exact ⟨h.own _ hstale, h.locked⟩
    · exact fun _ _ _ _ => h.afterCommand
    · exact fun _ _ _ _ => h.afterCommand

theorem keeps_removeStaleJob {job : StaleJob} (hstale : job.keychainPath ∈ stale) :
    Keeps (toolContract w false) (fun (_ : σ) g => Collecting stale g)
      (removeStaleJob root job) := by
  have hremove : ∀ path, Keeps (toolContract w false) (fun (_ : σ) g => Collecting stale g)
      (succeeds (removeRegularFile path)) :=
    fun path => keeps_succeeds (Silent.keeps fun _ _ _ => (silent_files performs_removeRegularFile))
  apply keeps_bind (keeps_deleteStaleKeychain hstale)
  intro keychainDeleted
  apply keeps_bind (hremove _)
  intro p12Removed
  apply keeps_bind (keeps_andThen (hremove _))
  intro pemRemoved
  apply keeps_bind (keeps_andThen (hremove _))
  intro keychainRemoved
  apply keeps_bind (keeps_andThen (hremove _))
  intro filesRemoved
  apply keeps_bind
  · apply keeps_removeAndConfirm
    · exact Silent.keeps fun _ _ _ => (silent_files performs_removeOwnedJobDirectory)
    · exact Silent.keeps fun _ _ _ => (silent_files performs_pathIsAbsent)
  · exact fun _ => keeps_pure

variable {jobs : List StaleJob}

theorem keeps_removeStaleJobs {report : KeychainGarbageCollection}
    (hstale : ∀ job ∈ jobs, job.safeToRemove = true → job.keychainPath ∈ stale) :
    Keeps (toolContract w false) (fun (_ : σ) g => Collecting stale g)
      (removeStaleJobs root jobs report) := by
  induction jobs generalizing report with
  | nil => exact keeps_pure
  | cons job jobs ih =>
    apply keeps_bind
    · cases hsafe : job.safeToRemove with
      | false => exact keeps_pure
      | true => exact keeps_removeStaleJob (hstale job List.mem_cons_self hsafe)
    · exact fun _ => ih fun job' hjob' => hstale job' (List.mem_cons_of_mem _ hjob')

theorem keychainPath_mem_plannedKeychains {job : StaleJob}
    (hjob : job ∈ jobs) (hsafe : job.safeToRemove = true) :
    job.keychainPath ∈ CallView.plannedKeychains jobs :=
  List.mem_map_of_mem (List.mem_filter.mpr ⟨hjob, hsafe⟩)

/-- The collection removes the planned keychains from the list it has queried. -/
theorem wp_collectPlanned {s : σ} (hown : ∀ path ∈ CallView.plannedKeychains jobs, path ∈ own) :
    wp (toolContract w false) (collectPlanned w.parsers root jobs)
      (fun _ _ g' => ∃ base, g'.phase = .holding base base)
      (fun _ _ g' => ∃ base, g'.phase = .holding base base) s ⟨.collector, .acquired, own⟩ := by
  rw [collectPlanned, wp_bind]
  apply wp_querySearchList
  · intro list
    have h : Collecting (CallView.plannedKeychains jobs) ⟨.collector, .holding list list, own⟩ :=
      ⟨rfl, hown, list, rfl⟩
    simp only
    rw [wp_bind, retainSearchList]
    -- the list is set when something is removed
    have hrest : ∀ report (s' : σ) g', Collecting (CallView.plannedKeychains jobs) g' →
        wp (toolContract w false) (removeStaleJobs root jobs report)
          (fun _ _ g' => ∃ base, g'.phase = .holding base base)
          (fun _ _ g' => ∃ base, g'.phase = .holding base base) s' g' := by
      intro report s' g' h'
      apply wp_mono (keeps_removeStaleJobs
        (fun job => keychainPath_mem_plannedKeychains) s' g' h')
      · exact fun _ _ _ h'' => h''.locked
      · exact fun _ _ _ h'' => h''.locked
    split
    · rw [setSearchList, wp_bind]
      apply wp_runCommand
      · exact ⟨list, list, rfl, rfl, CallView.plannedKeychains jobs, hown, rfl⟩
      · exact fun _ _ _ _ => hrest _ _ _ h.afterCommand
      · exact fun _ _ _ _ => h.afterCommand.locked
    · exact hrest _ _ _ h
  · exact fun e list => ⟨list, rfl⟩

/-- The collection under the lock leaves the list behind as it is. -/
theorem wp_collectStaleJobs {s : σ} :
    wp (callContract w) (collectStaleJobs w.parsers root)
      (fun _ _ g' => g'.phase = .acquired ∨ ∃ base, g'.phase = .holding base base)
      (fun _ _ g' => g'.phase = .acquired ∨ ∃ base, g'.phase = .holding base base)
      s ⟨.collector, .acquired, own⟩ := by
  rw [collectStaleJobs, wp_bind]
  intro planned _
  refine ⟨rfl, ?_⟩
  obtain e | jobs := planned
  · exact .inl rfl
  · show wp (callContract w) (if jobs.isEmpty then _ else _) _ _ s
      ⟨.collector, .acquired, CallView.plannedKeychains jobs ++ own⟩
    split
    · exact .inl rfl
    · rw [wp_during]
      apply wp_mono (wp_collectPlanned fun path hpath => List.mem_append_left _ hpath)
      · exact fun _ _ _ h => .inr h
      · exact fun _ _ _ h => .inr h

/-- A collection ends without the lock. -/
theorem wp_garbageCollect {s : σ} (hrole : g.role = .collector) (houtside : g.phase = .outside) :
    wp (callContract w) (garbageCollect w.parsers w.workerRoot signingRoot)
      (fun _ _ g' => g'.phase = .outside) (fun _ _ g' => g'.phase = .outside) s g := by
  obtain ⟨role, phase, own⟩ := g
  obtain rfl : role = .collector := hrole
  rw [garbageCollect, wp_bind, wp_during]
  apply wp_prepareRoots _ fun _ => houtside
  intro root
  simp only
  rw [wp_bind]
  apply wp_acquireLock houtside _ fun _ => houtside
  rw [wp_bind, wp_attempt]
  have hrelease : ∀ (out : Except KeychainError KeychainGarbageCollection) (s' : σ) g',
      (g'.phase = .acquired ∨ ∃ base, g'.phase = .holding base base) →
      wp (callContract w) (releaseLock (some (w.canonicalRoot ++ [searchListLock])) >>= fun _ =>
        ofExcept out) (fun _ _ g' => g'.phase = .outside) (fun _ _ g' => g'.phase = .outside)
        s' g' := by
    intro out s' g' h
    rw [wp_bind]
    apply wp_releaseLock h
    exact silent_ofExcept.wp (fun _ => rfl) fun _ => rfl
  apply wp_mono wp_collectStaleJobs
  · exact fun _ s' g' h => hrelease _ s' g' h
  · exact fun _ s' g' h => hrelease _ s' g' h

/-! ## Calls -/

/-- Every call keeps its contract, and ends without the lock. -/
theorem wp_program {call : KeychainCall} :
    (call.program w.parsers w.workerRoot).wp (callContract w)
      (fun _ g' => g'.phase = .outside) ⟨call.role, .outside, own⟩ := by
  cases call with
  | sign signingRoot input =>
    show ((signingSession w.parsers w.workerRoot signingRoot input ()).bind _).wp _ _ _
    rw [Prog.wp_bind]
    apply Prog.wp_mono _ (wp_signingSession rfl rfl)
    intro out g' h
    obtain ⟨_ | _, _⟩ := out <;> exact h
  | collect signingRoot =>
    show ((garbageCollect w.parsers w.workerRoot signingRoot ()).bind _).wp _ _ _
    rw [Prog.wp_bind]
    apply Prog.wp_mono _ (wp_garbageCollect rfl rfl)
    intro out g' h
    obtain ⟨_ | _, _⟩ := out <;> exact h

end

/-! ## All calls -/

/-- The lock file of the search list. -/
def Workers.lock (w : Workers) : Path := w.canonicalRoot ++ [searchListLock]

section

variable {ι : Type}

/-- The keychain of a stale job that was to be collected. -/
def Collected (h : List (ι × Event WorkerOp WorkerRes)) (path : Path) : Prop :=
  ∃ i root jobs, (i, ⟨.planStaleJobs root, .ok jobs⟩) ∈ h ∧ path ∈ CallView.plannedKeychains jobs

/-- The keychain of a job whose directory was created. -/
def Created (h : List (ι × Event WorkerOp WorkerRes)) (path : Path) : Prop :=
  ∃ i restoring directory, (i, ⟨.tool restoring (.createDir directory), .ok ()⟩) ∈ h ∧
    path = directory ++ [keychainFile]

/-- What remains of a list when some paths are taken off it. -/
def Remains (removable : Path → Prop) (initial base : List Path) : Prop :=
  ∃ removed : List Path, (∀ path ∈ removed, removable path) ∧
    base = initial.filter fun path => !removed.contains path

variable {removable : Path → Prop} {initial base : List Path}

section

variable (h : Remains removable initial base)

include h

theorem Remains.mono {removable' : Path → Prop}
    (hmono : ∀ path, removable path → removable' path) : Remains removable' initial base := by
  obtain ⟨removed, hremoved, hbase⟩ := h
  exact ⟨removed, fun path hpath => hmono path (hremoved path hpath), hbase⟩

/-- What may be removed is left out. -/
theorem Remains.without (stale : List Path) (hstale : ∀ path ∈ stale, removable path) :
    Remains removable initial (base.filter fun path => !stale.contains path) := by
  obtain ⟨removed, hremoved, rfl⟩ := h
  refine ⟨removed ++ stale, ?_, ?_⟩
  · intro path hpath
    cases List.mem_append.mp hpath with
    | inl hold => exact hremoved path hold
    | inr hnew => exact hstale path hnew
  · rw [List.filter_filter]
    apply List.filter_congr
    intro path _
    by_cases hold : path ∈ removed <;> by_cases hnew : path ∈ stale <;> simp [hold, hnew]

/-- The same for one keychain. -/
theorem Remains.erase {keychain : Path} (hkeychain : removable keychain) :
    Remains removable initial (base.filter (· != keychain)) := by
  have hwithout := h.without [keychain] (by simpa using hkeychain)
  have hsame : (base.filter fun path => !([keychain] : List Path).contains path) =
      base.filter (· != keychain) := by
    apply List.filter_congr
    intro path _
    by_cases hpath : path = keychain <;> simp [hpath]
  rwa [hsame] at hwithout

/-- Only what is on the list is taken off it. -/
theorem Remains.restrict {removable' : Path → Prop}
    (hmono : ∀ path ∈ initial, removable path → removable' path) :
    Remains removable' initial base := by
  obtain ⟨removed, hremoved, rfl⟩ := h
  refine ⟨removed.filter (initial.contains ·), ?_, ?_⟩
  · intro path hpath
    obtain ⟨hold, hinitial⟩ := List.mem_filter.mp hpath
    exact hmono path (by simpa using hinitial) (hremoved path hold)
  · apply List.filter_congr
    intro path hpath
    by_cases hold : path ∈ removed <;> simp [hold, hpath]

end

variable {path : Path}

/-- Nothing is on the list but what was. -/
theorem Remains.subset (h : Remains removable initial base) (hpath : path ∈ base) :
    path ∈ initial := by
  obtain ⟨removed, _, rfl⟩ := h
  exact List.mem_of_mem_filter hpath

/-- A keychain that the calls may take off the list. -/
def Removable (h : List (ι × Event WorkerOp WorkerRes)) (path : Path) : Prop :=
  Created h path ∨ Collected h path

variable {h : List (ι × Event WorkerOp WorkerRes)} {e : ι × Event WorkerOp WorkerRes}

/-- What was created stays so. -/
theorem Created.later (hpath : Created h path) : Created (e :: h) path := by
  obtain ⟨i, restoring, directory, hmem, hfile⟩ := hpath
  exact ⟨i, restoring, directory, List.mem_cons_of_mem e hmem, hfile⟩

/-- What was collected stays so. -/
theorem Collected.later (hpath : Collected h path) : Collected (e :: h) path := by
  obtain ⟨i, root, jobs, hmem, hplanned⟩ := hpath
  exact ⟨i, root, jobs, List.mem_cons_of_mem e hmem, hplanned⟩

/-- What a call knows agrees with the list and the list to be left behind. -/
def CallView.Knows (g : CallView) (searchList base : List Path) : Prop :=
  match g.phase with
  | .outside => True
  | .acquired => searchList = base
  | .holding list base' => list = searchList ∧ base' = base ∧ (g.role = .collector → list = base')

/-- What the calls know, and what they share. -/
structure Related (w : Workers) (calls : ι → KeychainCall) (initial : List Path)
    (h : List (ι × Event WorkerOp WorkerRes)) (views : ι → CallView) (s : UserState ι)
    (base : List Path) : Prop where
  role : ∀ i, (views i).role = (calls i).role
  lock : ∀ i, (views i).phase ≠ .outside ↔ s.holder w.lock = some i
  own : ∀ i, ∀ path ∈ (views i).own, Created h path ∨
    ((views i).role = .collector ∧ Collected h path)
  remains : Remains (Removable h) initial base
  free : s.holder w.lock = none → s.searchList = base
  knows : ∀ i, (views i).Knows s.searchList base

variable {w : Workers} {calls : ι → KeychainCall}
  {h : List (ι × Event WorkerOp WorkerRes)} {views : ι → CallView} {s s' : UserState ι} {i : ι}
  {e : ι × Event WorkerOp WorkerRes}

/-- While a call has the lock, the others know nothing of the list. -/
theorem Related.alone (hR : Related w calls initial h views s base)
    (hi : (views i).phase ≠ .outside) {j : ι} (hj : j ≠ i) (list' base' : List Path) :
    (views j).Knows list' base' := by
  have houtside : (views j).phase = .outside := by
    by_contra hheld
    have hsame := ((hR.lock i).mp hi).symm.trans ((hR.lock j).mp hheld)
    exact hj (Option.some.inj hsame).symm
  simp [CallView.Knows, houtside]

theorem Related.own_removable (hR : Related w calls initial h views s base)
    (hpath : path ∈ (views i).own) : Removable h path := by
  cases hR.own i path hpath with
  | inl hcreated => exact .inl hcreated
  | inr hcollected => exact .inr hcollected.2

/-- What may be removed stays so. -/
theorem Removable.later (hpath : Removable h path) : Removable (e :: h) path :=
  hpath.imp Created.later Collected.later

variable {base' : List Path}

/-- What is known of the list while it is held. -/
theorem Related.held (hR : Related w calls initial h views s base)
    (hphase : (views i).phase = .holding list base') :
    s.holder w.lock = some i ∧ list = s.searchList ∧ base' = base ∧
      ((views i).role = .collector → list = base') := by
  apply And.intro
  · apply (hR.lock i).mp
    simp [hphase]
  · have hknows := hR.knows i
    simpa only [CallView.Knows, hphase] using hknows

variable {answer : ToolAnswer (Except CommandFailure (List UInt8))}

/-- What a command of the call that has the lock takes off the list may be taken off it. -/
theorem Related.remains_baseAfter (hR : Related w calls initial h views s base) {command : Command}
    (hphase : (views i).phase = .holding list base')
    (heffect : w.CommandEffect restoring command s.searchList answer)
    (hgood : (views i).GuaranteesCommand restoring command) :
    Remains (Removable h) initial
      ((views i).baseAfter command list base' answer.searchList) := by
  obtain ⟨_, rfl, rfl, hcollector⟩ := hR.held hphase
  have hsame := hR.remains
  cases hrole : (views i).role with
  | creator =>
    cases command with
    | deleteKeychain keychain =>
      simp only [CallView.baseAfter, hrole]
      split
      · exact hsame
      · exact hsame.erase (hR.own_removable hgood.1)
    | _ =>
      simp only [CallView.baseAfter, hrole]
      exact hsame
  | collector =>
    have hlist := hcollector hrole
    have hbase : (views i).baseAfter command s.searchList base' answer.searchList =
        answer.searchList := by
      simp [CallView.baseAfter, hrole]
    rw [hbase]
    cases command with
    | setSearchList paths =>
      obtain ⟨list, base'', hphase', hset⟩ := hgood
      rw [hphase] at hphase'
      cases hphase'
      simp only [CallView.MaySet, hrole] at hset
      obtain ⟨_, stale, hstale, rfl⟩ := hset
      have hafter := hsame.without stale fun path hpath => hR.own_removable (hstale path hpath)
      rw [← hlist] at hsame hafter
      -- the list is set, or the tool failed before it
      simp only [Workers.CommandEffect] at heffect
      split at heffect
      · rwa [heffect.2]
      · cases heffect.2 with
        | inl hset => rwa [hset]
        | inr hkept => rwa [hkept]
    | createKeychain keychain password =>
      have hcreator := hgood.1
      rw [hrole] at hcreator
      cases hcreator
    | deleteKeychain keychain =>
      have hafter := hsame.erase (hR.own_removable hgood.1)
      rw [← hlist] at hsame hafter
      cases heffect with
      | inl hkept => rwa [hkept]
      | inr hwithout => rwa [hwithout]
    | querySearchList =>
      rw [show answer.searchList = s.searchList from heffect.1, hlist]
      exact hsame
    | _ =>
      rw [show answer.searchList = s.searchList from heffect, hlist]
      exact hsame

/-- Only a worker that holds the list changes it. -/
theorem searchList_of_not_holding {g : CallView} {command : Command}
    {list : List Path} (heffect : w.CommandEffect restoring command list answer)
    (hgood : g.GuaranteesCommand restoring command)
    (hphase : ∀ list base, g.phase ≠ .holding list base) : answer.searchList = list := by
  cases command with
  | querySearchList => exact heffect.1
  | setSearchList paths =>
    obtain ⟨list, base, hholding, _⟩ := hgood
    exact absurd hholding (hphase list base)
  | createKeychain keychain password =>
    obtain ⟨_, list, base, hholding⟩ := hgood
    exact absurd hholding (hphase list base)
  | deleteKeychain keychain =>
    obtain ⟨_, base, hholding⟩ := hgood
    exact absurd hholding (hphase base base)
  | _ => exact heffect

variable [DecidableEq ι] {system : SharedThreads ι WorkerOp WorkerRes CallOutcome (UserState ι)}

section

variable (hR : Related w calls initial h views s base)

include hR

/-- One call knows something new, and the shared state has changed accordingly. -/
theorem Related.update (hrole : g.role = (views i).role)
    (hlock : g.phase ≠ .outside ↔ s'.holder w.lock = some i)
    (hothers : ∀ j, j ≠ i → (s'.holder w.lock = some j ↔ s.holder w.lock = some j))
    (hown : ∀ path ∈ g.own, path ∈ (views i).own ∨ Created (e :: h) path ∨
      (g.role = .collector ∧ Collected (e :: h) path))
    (hremains : Remains (Removable (e :: h)) initial base')
    (hfree : s'.holder w.lock = none → s'.searchList = base')
    (hknows : g.Knows s'.searchList base')
    (hrest : ∀ j, j ≠ i → (views j).Knows s'.searchList base') :
    Related w calls initial (e :: h) (Function.update views i g) s' base' where
  role := by
    intro j
    by_cases hj : j = i
    · subst hj
      rw [Function.update_self, hrole]
      exact hR.role j
    · rw [Function.update_of_ne hj]
      exact hR.role j
  lock := by
    intro j
    by_cases hj : j = i
    · subst hj
      rw [Function.update_self]
      exact hlock
    · rw [Function.update_of_ne hj, hothers j hj]
      exact hR.lock j
  own := by
    -- what was created or collected stays so
    have hlater : ∀ j, ∀ path ∈ (views j).own, Created (e :: h) path ∨
        ((views j).role = .collector ∧ Collected (e :: h) path) := by
      intro j path hpath
      cases hR.own j path hpath with
      | inl hcreated => exact .inl hcreated.later
      | inr hcollected => exact .inr ⟨hcollected.1, hcollected.2.later⟩
    intro j path hpath
    by_cases hj : j = i
    · subst hj
      rw [Function.update_self] at hpath ⊢
      cases hown path hpath with
      | inl hold =>
        rw [hrole]
        exact hlater j path hold
      | inr hnew => exact hnew
    · rw [Function.update_of_ne hj] at hpath ⊢
      exact hlater j path hpath
  remains := hremains
  free := hfree
  knows := by
    intro j
    by_cases hj : j = i
    · subst hj
      rw [Function.update_self]
      exact hknows
    · rw [Function.update_of_ne hj]
      exact hrest j hj

/-- Nothing happens but that a call may have new keychains of its own. -/
theorem Related.grow {own : List Path}
    (hown : ∀ path ∈ own, path ∈ (views i).own ∨ Created (e :: h) path ∨
      ((views i).role = .collector ∧ Collected (e :: h) path)) :
    Related w calls initial (e :: h) (Function.update views i { views i with own }) s base := by
  apply hR.update
  · rfl
  · exact hR.lock i
  · exact fun _ _ => Iff.rfl
  · exact hown
  · exact hR.remains.mono fun _ => Removable.later
  · exact hR.free
  · exact hR.knows i
  · exact fun j _ => hR.knows j

/-- Nothing happens. -/
theorem Related.still :
    Related w calls initial (e :: h) (Function.update views i (views i)) s base :=
  hR.grow fun _ hpath => .inl hpath

/-- A free lock is taken. -/
theorem Related.acquire (hfree : s.holder w.lock = none) :
    Related w calls initial (e :: h)
      (Function.update views i { views i with phase := .acquired })
      { s with holder := Function.update s.holder w.lock (some i) } base := by
  have hlist := hR.free hfree
  apply hR.update
  · rfl
  · simp
  · intro j hj
    simp [hfree, hj.symm]
  · exact fun _ hpath => .inl hpath
  · exact hR.remains.mono fun _ => Removable.later
  · simp
  · exact hlist
  · exact fun j _ => hR.knows j

/-- The lock is released with the list that is to be left behind. -/
theorem Related.release
    (hphase : (views i).phase = .acquired ∨ ∃ base, (views i).phase = .holding base base) :
    Related w calls initial (e :: h)
      (Function.update views i { views i with phase := .outside })
      { s with holder := Function.update s.holder w.lock none } base := by
  have hheld : s.holder w.lock = some i := by
    apply (hR.lock i).mp
    cases hphase with
    | inl hacquired => simp [hacquired]
    | inr hholding =>
      obtain ⟨base', hbase'⟩ := hholding
      simp [hbase']
  have hlist : s.searchList = base := by
    have hknows := hR.knows i
    cases hphase with
    | inl hacquired => simpa only [CallView.Knows, hacquired] using hknows
    | inr hholding =>
      obtain ⟨base', hbase'⟩ := hholding
      simp only [CallView.Knows, hbase'] at hknows
      exact hknows.1.symm.trans hknows.2.1
  apply hR.update
  · rfl
  · simp
  · intro j hj
    simp [hheld, hj.symm]
  · exact fun _ hpath => .inl hpath
  · exact hR.remains.mono fun _ => Removable.later
  · exact fun _ => hlist
  · trivial
  · exact fun j _ => hR.knows j

/-- The list is changed by the call that has the lock. -/
theorem Related.change {command : Command}
    {list' : List Path} (hphase : (views i).phase = .holding list base')
    (hremains : Remains (Removable h) initial ((views i).baseAfter command list base' list')) :
    Related w calls initial (e :: h)
      (Function.update views i ((views i).afterCommand command list'))
      { s with searchList := list' } ((views i).baseAfter command list base' list') := by
  obtain ⟨hheld, _, _, _⟩ := hR.held hphase
  have hnext : ((views i).afterCommand command list').phase =
      .holding list' ((views i).baseAfter command list base' list') :=
    CallView.afterCommand_holding hphase
  apply hR.update
  · exact CallView.afterCommand_role
  · rw [hnext]
    simp [hheld]
  · exact fun _ _ => Iff.rfl
  · intro path hpath
    rw [CallView.afterCommand_own] at hpath
    exact .inl hpath
  · exact hremains.mono fun _ => Removable.later
  · intro hfree
    rw [hheld] at hfree
    cases hfree
  · simp only [CallView.Knows, hnext, true_and, CallView.afterCommand_role]
    intro hcollector
    simp [CallView.baseAfter, hcollector]
  · intro j hj
    apply hR.alone _ hj
    simp [hphase]

/-- A command keeps what is known of the list. -/
theorem Related.command {command : Command}
    (heffect : w.CommandEffect restoring command s.searchList answer)
    (hgood : (views i).GuaranteesCommand restoring command) :
    ∃ base', Related w calls initial (e :: h)
      (Function.update views i ((views i).afterCommand command answer.searchList))
      { s with searchList := answer.searchList } base' := by
  cases hphase : (views i).phase with
  | outside =>
    -- without the lock, only commands aside are run
    have hsame := searchList_of_not_holding heffect hgood (by simp [hphase])
    have hview : (views i).afterCommand command answer.searchList = views i := by
      rw [CallView.afterCommand, hphase]
    rw [hview, hsame]
    exact ⟨base, hR.still⟩
  | acquired =>
    -- right after the lock, the list is queried
    have hsame := searchList_of_not_holding heffect hgood (by simp [hphase])
    have hlist : s.searchList = base := by
      have hknows := hR.knows i
      simpa only [CallView.Knows, hphase] using hknows
    have hheld : s.holder w.lock = some i := (hR.lock i).mp (by simp [hphase])
    have hview : (views i).afterCommand command answer.searchList =
        { views i with phase := .holding base base } := by
      rw [CallView.afterCommand, hphase, hsame, hlist]
    rw [hview, hsame]
    refine ⟨base, ?_⟩
    apply hR.update
    · rfl
    · simp [hheld]
    · exact fun _ _ => Iff.rfl
    · exact fun _ hpath => .inl hpath
    · exact hR.remains.mono fun _ => Removable.later
    · exact fun _ => hlist
    · exact ⟨hlist.symm, rfl, fun _ => rfl⟩
    · exact fun j _ => hR.knows j
  | holding list base' => exact ⟨_, hR.change hphase (hR.remains_baseAfter hphase heffect hgood)⟩

/-- An operation of the engine keeps what is known. -/
theorem Related.tool {op : SignOp} {r : SignRes op} (heffect : w.ToolEffect restoring i s op r s')
    (hgood : (views i).Guarantees w (.tool restoring op)) :
    ∃ base', Related w calls initial ((i, ⟨.tool restoring op, r⟩) :: h)
      (Function.update views i ((views i).afterTool w op r)) s' base' := by
  cases op with
  | run command =>
    obtain ⟨heffect, rfl⟩ := heffect
    exact hR.command heffect hgood
  | lockExclusive path =>
    obtain ⟨rfl, houtside⟩ := hgood
    obtain kind | _ | _ := r
    · obtain rfl : s' = s := heffect
      exact ⟨base, hR.still⟩
    · obtain rfl : s' = s := heffect
      exact ⟨base, hR.still⟩
    · obtain ⟨hfree, rfl⟩ := heffect
      have hview : (views i).afterTool w (.lockExclusive w.lock) (.ok true) =
          { views i with phase := .acquired } := if_pos rfl
      exact ⟨base, hview ▸ hR.acquire hfree⟩
  | createDir path =>
    obtain rfl : s' = s := heffect
    obtain kind | _ := r
    · exact ⟨base, hR.still⟩
    · refine ⟨base, hR.grow ?_⟩
      intro path' hpath
      cases hpath with
      | head => exact .inr (.inl ⟨i, restoring, path, List.mem_cons_self, rfl⟩)
      | tail _ hold => exact .inl hold
  | canonicalize path =>
    obtain ⟨_, rfl⟩ := heffect
    exact ⟨base, hR.still⟩
  | _ =>
    obtain rfl : s' = s := heffect
    exact ⟨base, hR.still⟩

/-- Every operation keeps what is known. -/
theorem Related.step {op : WorkerOp}
    {r : WorkerRes op} (heffect : w.Effect i s op r s') (hgood : (views i).Guarantees w op) :
    ∃ base', Related w calls initial ((i, ⟨op, r⟩) :: h)
      (Function.update views i ((views i).next w op r)) s' base' := by
  cases op with
  | tool restoring op => exact hR.tool heffect hgood
  | unlock path =>
    obtain ⟨rfl, hphase⟩ := hgood
    have hheld : s.holder w.lock = some i := by
      apply (hR.lock i).mp
      obtain hacquired | ⟨base', hbase'⟩ := hphase
      · simp [hacquired]
      · simp [hbase']
    have hafter : s' = { s with holder := Function.update s.holder w.lock none } :=
      heffect.trans (if_pos hheld)
    rw [hafter]
    exact ⟨base, hR.release hphase⟩
  | planStaleJobs root =>
    obtain rfl : s' = s := heffect
    obtain e | jobs := r
    · exact ⟨base, hR.still⟩
    · refine ⟨base, hR.grow ?_⟩
      intro path hpath
      cases List.mem_append.mp hpath with
      | inl hplanned =>
        exact .inr (.inr ⟨hgood, i, root, jobs, List.mem_cons_self, hplanned⟩)
      | inr hold => exact .inl hold
  | hold keychain =>
    obtain rfl : s' = s := heffect
    exact ⟨base, hR.still⟩

/-- What is assumed of the answers is so. -/
theorem Related.assumes {op : WorkerOp}
    {r : WorkerRes op} (heffect : w.Effect i s op r s') : (views i).Assumes w op r := by
  cases op with
  | tool restoring op =>
    cases op with
    | run command => exact ⟨s.searchList, heffect.1, fun _ _ hphase => (hR.held hphase).2.1⟩
    | canonicalize path => exact heffect.1
    | _ => trivial
  | _ => trivial

end

/-- What the calls know is related to what they share, along every interleaving. -/
theorem exists_related {initial : List Path}
    (hruns : SharedThreads.Runs w.Effect (w.start calls initial) h system) :
    ∃ views base, Related w calls initial h views system.shared base ∧
      ∀ i, (system.threads i).wp (callContract w) (fun _ g => g.phase = .outside) (views i) := by
  have hinit : ∃ base, Related w calls initial [] (fun i => ⟨(calls i).role, .outside, []⟩)
      (w.start calls initial).shared base := by
    refine ⟨initial, fun _ => rfl, ?_, ?_, ⟨[], ?_, ?_⟩, fun _ => rfl, fun _ => trivial⟩
    · intro i
      simp [Workers.start]
    · exact fun _ _ hpath => absurd hpath List.not_mem_nil
    · exact fun _ hpath => absurd hpath List.not_mem_nil
    · simp
  have hkept := SharedThreads.Runs.views (C := callContract w)
    (Q := fun _ g => g.phase = .outside)
    (R := fun h views shared => ∃ base, Related w calls initial h views shared base) ?_ ?_ hinit
    (fun _ => wp_program) hruns
  · obtain ⟨views, ⟨base, hR⟩, hwp⟩ := hkept
    exact ⟨views, base, hR, hwp⟩
  · intro h views shared i op r shared' hR heffect
    obtain ⟨base, hR⟩ := hR
    exact hR.assumes heffect
  · intro h views shared i op r shared' hR heffect hgood
    obtain ⟨base, hR⟩ := hR
    exact hR.step heffect hgood

/-! ## The search list -/

/-- What the search list is while the calls run, relative to the list `base` that is left behind. -/
structure Consistent (w : Workers) (calls : ι → KeychainCall)
    (h : List (ι × Event WorkerOp WorkerRes))
    (system : SharedThreads ι WorkerOp WorkerRes CallOutcome (UserState ι))
    (base : List Path) : Prop where
  /-- No call that creates a keychain has the lock. -/
  unguarded : (∀ i, system.shared.holder w.lock = some i → (calls i).role = .collector) →
    system.shared.searchList = base
  /-- A call has a keychain. -/
  guarded : ∀ i keychain next, system.threads i = .call (.hold keychain) next →
    system.shared.holder w.lock = some i ∧ Created h keychain ∧
      system.shared.searchList = keychain :: base.filter (· != keychain)
  /-- A call is about to query the list. -/
  captured : ∀ i restoring next,
    system.threads i = .call (.tool restoring (.run .querySearchList)) next →
    system.shared.holder w.lock = some i ∧ system.shared.searchList = base
  /-- A cleanup is about to set the list. -/
  restored : ∀ i paths next,
    system.threads i = .call (.tool true (.run (.setSearchList paths))) next →
    system.shared.holder w.lock = some i ∧ paths = base
  /-- A call has returned. -/
  returned : ∀ i outcome, system.threads i = .ret outcome →
    system.shared.holder w.lock ≠ some i

omit [DecidableEq ι] in
/-- What the next operation of a call guarantees, if it can be answered. -/
theorem guarantees_next {Q : CallOutcome → CallView → Prop} {op : WorkerOp}
    {next : WorkerRes op → Prog WorkerOp WorkerRes CallOutcome}
    (hwp : ∀ i, (system.threads i).wp (callContract w) Q (views i))
    (hnext : system.threads i = .call op next) (r : WorkerRes op) (hr : (views i).Assumes w op r) :
    (views i).Guarantees w op := by
  have hnow := hwp i
  rw [hnext] at hnow
  exact (hnow r hr).1

omit [DecidableEq ι] in
theorem Related.consistent (hR : Related w calls initial h views system.shared base)
    (hwp : ∀ i, (system.threads i).wp (callContract w) (fun _ g => g.phase = .outside) (views i)) :
    Consistent w calls h system base where
  unguarded := by
    intro hcollector
    cases hholder : system.shared.holder w.lock with
    | none => exact hR.free hholder
    | some i =>
      have hrole := (hR.role i).trans (hcollector i hholder)
      have hheld := (hR.lock i).mpr hholder
      have hknows := hR.knows i
      -- a creator that has the lock has set nothing but the list itself
      cases hphase : (views i).phase with
      | outside => exact absurd hphase hheld
      | acquired => simpa only [CallView.Knows, hphase] using hknows
      | holding list base' =>
        obtain ⟨_, hlist, hbase, hsame⟩ := hR.held hphase
        exact hlist.symm.trans ((hsame hrole).trans hbase)
  guarded := by
    intro i keychain next hnext
    obtain ⟨hrole, hown, base', hphase⟩ := guarantees_next hwp hnext true trivial
    obtain ⟨hheld, hlist, rfl, _⟩ := hR.held hphase
    refine ⟨hheld, ?_, hlist.symm⟩
    cases hR.own i keychain hown with
    | inl hcreated => exact hcreated
    | inr hcollected =>
      rw [hrole] at hcollected
      cases hcollected.1
  captured := by
    intro i restoring next hnext
    have hphase : (views i).phase = .acquired := by
      -- the query is promised to every call that has just got the lock
      apply guarantees_next hwp hnext
        (⟨.error .timedOut, system.shared.searchList⟩ : ToolAnswer _)
      refine ⟨system.shared.searchList, ⟨rfl, ?_⟩, fun _ _ hphase => (hR.held hphase).2.1⟩
      intro output paths hfalse
      cases hfalse
    apply And.intro
    · exact (hR.lock i).mp (by simp [hphase])
    · have hknows := hR.knows i
      simpa only [CallView.Knows, hphase] using hknows
  restored := by
    intro i paths next hnext
    obtain ⟨list, base', hphase, hset⟩ := guarantees_next hwp hnext
      (⟨.ok [], paths⟩ : ToolAnswer _)
      ⟨system.shared.searchList, ⟨rfl, rfl⟩, fun _ _ hphase => (hR.held hphase).2.1⟩
    obtain ⟨hheld, _, rfl, _⟩ := hR.held hphase
    apply And.intro hheld
    cases hrole : (views i).role with
    | creator => simpa [CallView.MaySet, hrole] using hset
    | collector => simp [CallView.MaySet, hrole] at hset
  returned := by
    intro i outcome hreturned hheld
    have houtside : (views i).phase = .outside := by
      have hend := hwp i
      rw [hreturned] at hend
      exact hend
    exact (hR.lock i).mpr hheld houtside

/-- **The search list of concurrent workers**: along every interleaving there is one list to be left
behind, the initial one without the keychains that were collected. It is the search list while no
call that creates a keychain has the lock; a live keychain is followed by it; it is what every query
captures and every cleanup restores; and no call keeps the lock. A keychain that was on the list
before its job directory was created is taken off the list with that job. -/
theorem searchList_consistent
    {system : SharedThreads ι WorkerOp WorkerRes CallOutcome (UserState ι)}
    (hruns : SharedThreads.Runs w.Effect (w.start calls initial) h system) :
    ∃ base, Remains (Removable h) initial base ∧ Consistent w calls h system base ∧
      ((∀ path ∈ initial, ¬Created h path) →
        Remains (Collected h) initial base ∧ (∀ path ∈ base, ¬Created h path) ∧
          ∀ i keychain next, system.threads i = .call (.hold keychain) next →
            system.shared.searchList = keychain :: base) := by
  obtain ⟨views, base, hR, hwp⟩ := exists_related hruns
  have hconsistent := hR.consistent hwp
  refine ⟨base, hR.remains, hconsistent, ?_⟩
  intro hfresh
  have hbase : ∀ path ∈ base, ¬Created h path :=
    fun path hpath => hfresh path (hR.remains.subset hpath)
  refine ⟨?_, hbase, ?_⟩
  · apply hR.remains.restrict
    intro path hpath hremovable
    exact hremovable.resolve_left (hfresh path hpath)
  · -- a live keychain is not on the list to be left behind
    intro i keychain next hnext
    obtain ⟨_, hcreated, hlist⟩ := hconsistent.guarded i keychain next hnext
    have hsame : base.filter (· != keychain) = base := by
      apply List.filter_eq_self.mpr
      intro path hpath
      apply bne_iff_ne.mpr
      intro heq
      exact hbase path hpath (heq ▸ hcreated)
    rw [hlist, hsame]

end

/-! ## A live keychain -/

namespace Sample

def searchList : List Path := [["login.keychain-db"]]

def token : String := "0123456789abcdef0123456789abcdef"

def keychain : Path := ["worker", "signing", jobPrefix ++ token, keychainFile]

def workers : Workers where
  parsers := {
    sha256 := fun _ => []
    uppercaseHex := fun _ => ""
    parseHexOutput := fun _ _ => .ok token
    parseCertificateSubject := fun _ => .ok ("Dev", "ABCDE12345")
    parseCertificateExpiration := fun _ => .ok 0
    parseSearchList := fun _ => .ok searchList
    validateKeychainIdentityListing := fun _ _ => .ok () }
  workerRoot := ["worker"]
  canonicalRoot := ["worker"]

/-- One call creates a keychain while the other one collects. -/
def calls : Bool → KeychainCall
  | true => .sign ["worker", "signing"] ⟨[1], "password"⟩
  | false => .collect ["worker", "signing"]

def info (path : Path) : FileInfo :=
  if path.getLast?.any fun name => searchListLock == name || cleanupEntryIsAllowlisted name
  then ⟨.file, 1, 0o600, (0, 0)⟩ else ⟨.directory, 1, 0o700, (0, 0)⟩

def answerCommand (list : List Path) : Command → ToolAnswer (Except CommandFailure (List UInt8))
  | .querySearchList => if list = searchList then ⟨.ok [], list⟩ else ⟨.error .timedOut, list⟩
  | .setSearchList paths => ⟨.ok [], paths⟩
  | .digestSha1 _ => ⟨.ok (List.replicate 20 0), list⟩
  | _ => ⟨.ok [1], list⟩

/-- Everything succeeds. -/
def answerTool (i : Bool) (s : UserState Bool) : (op : SignOp) → SignRes op × UserState Bool
  | .symlinkMetadata path => (.ok (info path), s)
  | .canonicalize path => (.ok path, s)
  | .createTempDir parent => (.ok parent, s)
  | .openHandle _ => (.ok (0, 0), s)
  | .readDir _ => (.ok [], s)
  | .lockExclusive path =>
    if s.holder path = none then
      (.ok true, { s with holder := Function.update s.holder path (some i) })
    else (.ok false, s)
  | .run command => (answerCommand s.searchList command,
    { s with searchList := (answerCommand s.searchList command).searchList })
  | .step step => (failedStep step, s)
  | .metadata _ | .createDir _ | .closeTempDir _ | .setPermissions _ | .createNew _
  | .openOrCreate _ | .writeAll .. | .syncAll _ | .removeFile _ | .removeDir _
  | .removeDirAll _ => (.ok (), s)
where
  failedStep : (step : PhaseStep) → step.Answer
    | .validateRequest | .inspectSealedArchive _ => .ok ()
    | .discoverToolchain => .ok []
    | .unixTimeNow => .ok 0
    | .unseal .. | .resolveSecret _ | .encodeReport .. => none
    | .prepareProvisioning .. | .exportIpa .. | .createProducts .. => ⟨none, []⟩
    | .normalizeIpaPath .. | .publish .. | .buildManifest .. => .error .artifactPathRejected
    | .validateIpa .. => ⟨.error .signedArtifactRejected, []⟩

def answer (i : Bool) (s : UserState Bool) : (op : WorkerOp) → WorkerRes op × UserState Bool
  | .tool _ op => answerTool i s op
  | .unlock path => ((), if s.holder path = some i then
      { s with holder := Function.update s.holder path none } else s)
  | .planStaleJobs _ => (.ok [], s)
  | .hold _ => (true, s)

/-- The sample tools do what the hypotheses ask. -/
theorem answerCommand_effect (restoring : Bool) (list : List Path) (command : Command) :
    workers.CommandEffect restoring command list (answerCommand list command) := by
  cases command with
  | querySearchList =>
    simp only [answerCommand]
    split
    · rename_i hlist
      refine ⟨rfl, fun output paths _ hpaths => ?_⟩
      cases hpaths
      exact hlist.symm
    · exact ⟨rfl, fun output paths houtput _ => by cases houtput⟩
  | setSearchList paths =>
    cases restoring
    · exact ⟨fun _ => rfl, .inl rfl⟩
    · exact ⟨rfl, rfl⟩
  | deleteKeychain path => exact .inl rfl
  | _ => rfl

theorem answer_effect (i : Bool) (s : UserState Bool) (op : WorkerOp) :
    workers.Effect i s op (answer i s op).1 (answer i s op).2 := by
  cases op with
  | tool restoring op =>
    cases op with
    | run command => exact ⟨answerCommand_effect restoring s.searchList command, rfl⟩
    | canonicalize path =>
      refine ⟨fun hpath canonical hcanonical => ?_, rfl⟩
      cases hcanonical
      exact hpath
    | lockExclusive path =>
      by_cases hfree : s.holder path = none
      · simp only [Workers.Effect, Workers.ToolEffect, answer, answerTool, if_pos hfree]
        exact ⟨hfree, trivial⟩
      · simp only [Workers.Effect, Workers.ToolEffect, answer, answerTool, if_neg hfree]
    | _ => rfl
  | _ => rfl

abbrev System := SharedThreads Bool WorkerOp WorkerRes CallOutcome (UserState Bool)

/-- A call performs its next operations. -/
def System.steps (s : System) (i : Bool) (steps : Nat) : System := s.advance (answer i) i steps

/-- The collecting call has the lock while the other one prepares its job directory, which then
    gets as far as its keychain. -/
def interleaved : System :=
  let collecting := System.steps (workers.start calls searchList) false 9
  (((collecting.steps true 34).steps false 2).steps true 15)

/-- The keychain that a call has. -/
def liveKeychain : Prog WorkerOp WorkerRes CallOutcome → Option Path
  | .call (.hold keychain) _ => some keychain
  | _ => none

theorem after_live : liveKeychain (interleaved.threads true) = some keychain := by
  decide +kernel

theorem exists_next_of_liveKeychain {program : Prog WorkerOp WorkerRes CallOutcome} {path : Path}
    (hlive : liveKeychain program = some path) :
    ∃ next, program = .call (.hold path) next := by
  unfold liveKeychain at hlive
  split at hlive
  · rename_i next
    cases hlive
    exact ⟨next, rfl⟩
  · cases hlive

/-- The first call has its keychain: it is followed by what remains of the list. -/
theorem searchList_consistent_live :
    ∃ h, SharedThreads.Runs workers.Effect (workers.start calls searchList) h interleaved ∧
      liveKeychain (interleaved.threads true) = some keychain ∧
      ∃ base, Remains (Removable h) searchList base ∧ Consistent workers calls h interleaved base ∧
        interleaved.shared.searchList = keychain :: base.filter (· != keychain) := by
  obtain ⟨h₁, hcollecting⟩ := SharedThreads.Runs.start.advance (answer_effect false) 9
  obtain ⟨h₂, hpreparing⟩ := hcollecting.advance (answer_effect true) 34
  obtain ⟨h₃, hcollected⟩ := hpreparing.advance (answer_effect false) 2
  obtain ⟨h, hruns⟩ := hcollected.advance (answer_effect true) 15
  obtain ⟨base, hremains, hconsistent, _⟩ := searchList_consistent hruns
  obtain ⟨next, hnext⟩ := exists_next_of_liveKeychain after_live
  exact ⟨h, hruns, after_live, base, hremains, hconsistent,
    (hconsistent.guarded true keychain next hnext).2.2⟩

end Sample

end SharedKeychain

end RustFerry.Worker
