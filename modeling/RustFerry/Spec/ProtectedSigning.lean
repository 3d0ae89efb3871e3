import RustFerry.Native.ProtectedSigning
import RustFerry.Spec.SigningKeychain

/-!
# What the protected signing phase leaves behind

A view of the events of the phase says what may still be there: the private workspace, signing
files, the artifact directory, and the user's keychain search list beside the one that was
captured. The phase returns without `CleanupIncomplete` only when everything is gone, unless a
failure is lost on the way: the restoration of the search list in a keychain that could not be
completed, the removal of a workspace whose set-up failed and that is no longer the one that was
created, or the inspection of the artifact directory before its removal.
-/

namespace RustFerry.Worker

namespace Protected

open Remote ProgM

/-! ## View -/

/-- What may be there after the events so far. -/
structure SignView where
  /-- the private directory, and what it is bound to -/
  root : Option Path
  identity : Option (Nat × Nat)
  workspacePresent : Bool
  /-- the last check found the directory that was bound -/
  intact : Bool
  /-- every directory of the workspace has been made -/
  ready : Bool
  artifactsPresent : Bool
  /-- where signing files may be -/
  signingFiles : List Path
  searchList : List Path
  captured : Option (List Path)
  /-- the search list has been set to another one than the captured one -/
  activated : Bool

namespace SignView

variable (phase : ProtectedSignPhaseRequest) (g : SignView)

/-- What a command leaves. -/
def afterCommand (command : Command)
    (answer : ToolAnswer (Except CommandFailure (List UInt8))) : SignView :=
  let g := { g with searchList := answer.searchList }
  match command with
  | .querySearchList =>
    if answer.result.isOk && g.captured.isNone then { g with captured := some answer.searchList }
    else g
  | .setSearchList paths =>
    { g with activated := g.activated || (answer.result.isOk && g.captured != some paths) }
  | .createKeychain keychain _ => { g with signingFiles := keychain :: g.signingFiles }
  | _ => g

/-- What a step of the phase leaves. -/
def afterStep : (step : PhaseStep) → step.Answer → SignView
  | .prepareProvisioning _ scratch, answer =>
    { g with searchList := answer.searchList, signingFiles := scratch :: g.signingFiles }
  | .exportIpa _ _ isolatedHome temporary, answer =>
    { g with
      searchList := answer.searchList
      signingFiles := isolatedHome :: temporary :: g.signingFiles
      artifactsPresent := true }
  | .normalizeIpaPath .., _ | .publish .., _ => { g with artifactsPresent := true }
  | .validateIpa _ workspace, answer =>
    { g with searchList := answer.searchList, signingFiles := workspace :: g.signingFiles }
  | .createProducts _ _ _ workspace, answer =>
    { g with
      searchList := answer.searchList
      signingFiles := workspace :: g.signingFiles
      artifactsPresent := true }
  | _, _ => g

def next : (op : SignOp) → SignRes op → SignView
  | .metadata path, answer =>
    if path = phase.artifactDirectory ∧ answer = .error .notFound then
      { g with artifactsPresent := false }
    else g
  | .symlinkMetadata path, answer =>
    if g.root = some path then
      { g with intact := match answer with
        | .ok info => info.isDirectory
        | .error _ => false }
    else g
  | .openHandle path, answer =>
    if g.root = some path then
      match g.identity, answer with
      | none, .ok identity => { g with identity := some identity, intact := true }
      | some bound, .ok identity => { g with intact := g.intact && identity == bound }
      | _, .error _ => { g with intact := false }
    else g
  | .canonicalize path, answer =>
    { g with ready := g.ready || (answer.isOk && g.root.any fun root =>
      path == root ++ ["products"]) }
  | .createTempDir _, .ok path => { g with root := some path, workspacePresent := true }
  | .closeTempDir path, .ok _ =>
    if g.root = some path then
      { g with
        workspacePresent := false
        signingFiles := g.signingFiles.filter fun file => !path.isPrefixOf file }
    else g
  | .createNew path, _ => { g with signingFiles := path :: g.signingFiles }
  | .removeFile path, .ok _ => { g with signingFiles := g.signingFiles.filter (· != path) }
  | .removeDirAll path, .ok _ =>
    if path = phase.artifactDirectory then { g with artifactsPresent := false } else g
  | .run command, answer => g.afterCommand command answer
  | .step step, answer => g.afterStep step answer
  | _, _ => g

/-- At first there is no workspace; the user's search list and the artifact directory are as they
are. -/
def start (searchList : List Path) (artifactsPresent : Bool) : SignView where
  root := none
  identity := none
  workspacePresent := false
  intact := false
  ready := false
  artifactsPresent := artifactsPresent
  signingFiles := []
  searchList := searchList
  captured := none
  activated := false

/-- Nothing private is left, and the search list is the one that was captured; after a failure
there are no artifacts either. -/
structure IsClean (failed : Bool) (g : SignView) : Prop where
  workspace : g.workspacePresent = false
  signingFiles : g.signingFiles = []
  searchList : ∀ captured, g.captured = some captured → g.searchList = captured
  artifacts : failed = true → g.artifactsPresent = false

/-! ## Assumptions -/

/-- What the tools and the file system are documented to do. The canonical form of a path in the
private workspace is in the workspace; the query prints the search list and leaves it alone; a
search list that was set is the one that was given; and a deleted keychain is at most taken off
the search list. -/
def Documented (parsers : OutputParsers) : (op : SignOp) → SignRes op → Prop
  | .canonicalize path, .ok canonical => ∀ root, g.root = some root → root <+: path → root <+: canonical
  | .run .querySearchList, answer =>
    answer.searchList = g.searchList ∧ ∀ output, answer.result = .ok output →
      ∀ paths, parsers.parseSearchList output = .ok paths → paths = g.searchList
  | .run (.setSearchList paths), answer => answer.result.isOk = true → answer.searchList = paths
  | .run (.deleteKeychain path), answer =>
    answer.searchList = g.searchList ∨ answer.searchList = g.searchList.filter (· != path)
  | _, _ => True

/-- The job root, or the parent of the artifact directory. -/
def isArtifactParent (path : Path) : Prop :=
  path = phase.jobRoot ∨ some path = parent phase.artifactDirectory

/-- No failure is lost. -/
def Meets : (op : SignOp) → SignRes op → Prop
  | .metadata path, answer =>
    path = phase.artifactDirectory → answer.isOk = true ∨ answer = .error .notFound
  | .symlinkMetadata path, answer =>
    (path = phase.artifactDirectory → answer.isOk = true) ∧
    (isArtifactParent phase path → ∃ info, answer = .ok info ∧ info.isDirectory = true)
  | .canonicalize path, answer => isArtifactParent phase path → answer.isOk = true
  | .closeTempDir path, answer =>
    g.root = some path → g.intact = false → g.ready = false → answer.isOk = true
  | .run .querySearchList, answer => answer.result.isOk = true →
    ∀ root, g.root = some root → ∀ path ∈ answer.searchList, ¬root <+: path
  | .run (.setSearchList paths), answer =>
    g.captured = some paths → g.activated = false → answer.searchList = paths
  | _, _ => True

end SignView

open SignView

/-- A contract that says how the operations are answered; the view follows the events. -/
def answeredAs (phase : ProtectedSignPhaseRequest)
    (P : SignView → (op : SignOp) → SignRes op → Prop) : Contract SignOp SignRes SignView where
  next := SignView.next phase
  assume := P
  guarantee _ _ _ := True

/-! ## Frames -/

section

variable {parsers : OutputParsers} {phase : ProtectedSignPhaseRequest} {σ ε α : Type} {s : σ}
  {path : Path} {workerRoot : Path}

/-- What the proofs are relative to. -/
abbrev signContract (parsers : OutputParsers) (phase : ProtectedSignPhaseRequest) :
    Contract SignOp SignRes SignView :=
  answeredAs phase fun g op r => g.Documented parsers op r ∧ g.Meets phase op r

/-- The search list is still the captured one, if one was captured. -/
def Settled (g : SignView) : Prop := ∀ captured, g.captured = some captured → g.searchList = captured

/-- The workspace and the captured list are the same, and new signing files are below `dir`. -/
structure Frame (dir : Path) (g g' : SignView) : Prop where
  root : g'.root = g.root
  identity : g'.identity = g.identity
  captured : g'.captured = g.captured
  activated : g'.activated = g.activated
  ready : g.ready = true → g'.ready = true
  files : ∀ file ∈ g'.signingFiles, file ∈ g.signingFiles ∨ dir <+: file

/-- Beside that, a search list that was restored stays so. -/
structure StillFrame (dir : Path) (g g' : SignView) : Prop extends Frame dir g g' where
  settled : (∀ captured, g.captured = some captured → ∀ path ∈ captured, ¬dir <+: path) →
    Settled g → Settled g'

variable {g : SignView} {dir : Path} {g' : SignView}

theorem Frame.of_eq (h : g' = g) : Frame dir g g' := by
  rw [h]
  exact ⟨rfl, rfl, rfl, rfl, id, fun _ => .inl⟩

/-- The search list was left alone. -/
theorem StillFrame.of_searchList (hframe : Frame dir g g')
    (hlist : g'.searchList = g.searchList) : StillFrame dir g g' where
  toFrame := hframe
  settled := by
    intro _ hsettled captured hcaptured
    rw [hframe.captured] at hcaptured
    rw [hlist]
    exact hsettled captured hcaptured

variable {g₃ : SignView} {g₂ : SignView} {g₁ : SignView}

/-- Two such parts, one after the other. -/
theorem Frame.trans (h : Frame dir g₁ g₂) (h' : Frame dir g₂ g₃) : Frame dir g₁ g₃ where
  root := h'.root.trans h.root
  identity := h'.identity.trans h.identity
  captured := h'.captured.trans h.captured
  activated := h'.activated.trans h.activated
  ready := fun hready => h'.ready (h.ready hready)
  files := by
    intro file hfile
    rcases h'.files file hfile with hold | hnew
    · exact h.files file hold
    · exact .inr hnew

/-- The same without the search list. -/
theorem StillFrame.trans (h : StillFrame dir g₁ g₂)
    (h' : StillFrame dir g₂ g₃) : StillFrame dir g₁ g₃ where
  toFrame := h.toFrame.trans h'.toFrame
  settled := by
    intro hdir hsettled
    apply h'.settled
    · intro captured hcaptured
      exact hdir captured (h.captured ▸ hcaptured)
    · exact h.settled hdir hsettled

instance {dir : Path} : Std.Refl (StillFrame dir) :=
  ⟨fun _ => .of_searchList (.of_eq rfl) rfl⟩

instance {dir : Path} : IsTrans SignView (StillFrame dir) :=
  ⟨fun _ _ _ h h' => h.trans h'⟩

instance {dir : Path} : Std.Refl (Frame dir) := ⟨fun _ => .of_eq rfl⟩

instance {dir : Path} : IsTrans SignView (Frame dir) := ⟨fun _ _ _ h h' => h.trans h'⟩

/-- The operation changes nothing but what the frame allows. -/
def IsStill (dir : Path) : SignOp → Prop
  | .metadata _ | .symlinkMetadata _ | .canonicalize _ | .createDir _ | .setPermissions _
  | .openOrCreate _ | .writeAll .. | .syncAll _ | .removeFile _ | .removeDir _ | .removeDirAll _
  | .readDir _ | .lockExclusive _ => True
  | .createNew path => dir <+: path
  | _ => False

/-- Still operations keep to their directory. -/
theorem still_next (phase : ProtectedSignPhaseRequest) (dir : Path) (op : SignOp)
    (hop : IsStill dir op) (g : SignView) (r : SignRes op) :
    StillFrame dir g (g.next phase op r) := by
  cases op with
  | metadata path =>
    simp only [SignView.next]
    split
    · exact .of_searchList ⟨rfl, rfl, rfl, rfl, id, fun _ => .inl⟩ rfl
    · exact .of_searchList (.of_eq rfl) rfl
  | symlinkMetadata path =>
    simp only [SignView.next]
    split
    · exact .of_searchList ⟨rfl, rfl, rfl, rfl, id, fun _ => .inl⟩ rfl
    · exact .of_searchList (.of_eq rfl) rfl
  | canonicalize path =>
    refine .of_searchList ⟨rfl, rfl, rfl, rfl, ?_, fun _ => .inl⟩ rfl
    intro hready
    simp [SignView.next, hready]
  | createNew path =>
    refine .of_searchList ⟨rfl, rfl, rfl, rfl, id, ?_⟩ rfl
    intro file hfile
    rcases List.mem_cons.mp hfile with hnew | hold
    · rw [hnew]
      exact .inr hop
    · exact .inl hold
  | removeFile path =>
    cases r with
    | ok _ =>
      refine .of_searchList ⟨rfl, rfl, rfl, rfl, id, ?_⟩ rfl
      exact fun file hfile => .inl (List.mem_filter.mp hfile).1
    | error _ => exact .of_searchList (.of_eq rfl) rfl
  | removeDirAll path =>
    cases r with
    | ok _ =>
      simp only [SignView.next]
      split
      · exact .of_searchList ⟨rfl, rfl, rfl, rfl, id, fun _ => .inl⟩ rfl
      · exact .of_searchList (.of_eq rfl) rfl
    | error _ => exact .of_searchList (.of_eq rfl) rfl
  | createDir _ | setPermissions _ | openOrCreate _ | writeAll _ _ | syncAll _ | removeDir _
  | readDir _ | lockExclusive _ => exact .of_searchList (.of_eq rfl) rfl
  | openHandle _ | createTempDir _ | closeTempDir _ | run _ | step _ => exact hop.elim

/-- So does a call of one. -/
theorem within_call {op : SignOp} (hop : IsStill dir op) :
    Within (signContract parsers phase) (StillFrame dir)
      (call op : ProgM SignOp SignRes σ ε (SignRes op)) :=
  within_perform fun g r => ⟨trivial, still_next phase dir op hop g r⟩

/-! ### Files of the keychain -/

theorem still_of_fileOp {op : SignOp} (h : IsFileOp dir op) : IsStill dir op := by
  cases op <;> trivial

/-- What is done to files of the keychain. -/
theorem within_files {x : ProgM SignOp SignRes σ ε α} (hx : Performs (IsFileOp dir) x) :
    Within (signContract parsers phase) (StillFrame dir) x :=
  hx.within fun g op r hop => ⟨trivial, still_next phase dir op (still_of_fileOp hop) g r⟩

theorem within_acquireSearchListLock :
    Within (signContract parsers phase) (StillFrame dir)
      (acquireSearchListLock (σ := σ) workerRoot) := by
  apply within_bind
  · exact within_call trivial
  intro _
  apply within_bind within_ofExcept
  intro _
  apply within_bind
  · exact within_call trivial
  intro _
  apply within_bind within_ofExcept
  intro _
  apply within_bind
  · exact within_call trivial
  intro _
  apply within_bind within_ofExcept
  intro _
  apply within_bind
  · exact within_call trivial
  intro _
  exact within_bind within_ofExcept fun _ => within_ensure

/-! ### Commands -/

/-- A command, from what its tool documents. -/
theorem wp_runCommand {command : Command} {Q : List UInt8 → σ → SignView → Prop}
    {E : KeychainError → σ → SignView → Prop} {g : SignView}
    (hQ : ∀ answer output, g.Documented parsers (.run command) answer →
      g.Meets phase (.run command) answer → answer.result = .ok output →
      Q output s (g.next phase (.run command) answer))
    (hE : ∀ answer e, g.Documented parsers (.run command) answer →
      g.Meets phase (.run command) answer → answer.result.isOk = false →
      E e s (g.next phase (.run command) answer)) :
    wp (signContract parsers phase) (runCommand command) Q E s g := by
  rw [runCommand, wp_bind]
  intro answer hanswer
  refine ⟨trivial, ?_⟩
  show wp (signContract parsers phase)
    (ofExcept (answer.result.mapError (CommandFailure.error command.operation))) Q E s _
  cases hresult : answer.result with
  | ok output => exact hQ answer output hanswer.1 hanswer.2 hresult
  | error e => exact hE answer _ hanswer.1 hanswer.2 (by rw [hresult]; rfl)

/-- The command neither reads nor sets the search list. -/
def IsAside (dir : Path) : Command → Prop
  | .querySearchList | .setSearchList _ => False
  | .createKeychain keychain _ => dir <+: keychain
  | _ => True

theorem within_runCommand {command : Command} (hcommand : IsAside dir command) :
    Within (signContract parsers phase) (Frame dir) (runCommand (σ := σ) command) := by
  apply within_bind
  · apply within_perform
    intro g r
    refine ⟨trivial, ?_⟩
    cases command with
    | querySearchList => exact hcommand.elim
    | setSearchList _ => exact hcommand.elim
    | createKeychain keychain _ =>
      refine ⟨rfl, rfl, rfl, rfl, id, ?_⟩
      intro file hfile
      rcases List.mem_cons.mp hfile with hnew | hold
      · rw [hnew]
        exact .inr hcommand
      · exact .inl hold
    | _ => exact ⟨rfl, rfl, rfl, rfl, id, fun _ => .inl⟩
  · exact fun _ => within_ofExcept

/-! ## Cleanup of the keychain -/

/-- The workspace is bound, its signing files are in it, and the captured search list names none
of its files. -/
structure Bound (root : Path) (identity : Nat × Nat) (g : SignView) : Prop where
  bound : g.root = some root
  handle : g.identity = some identity
  ready : g.ready = true
  files : ∀ file ∈ g.signingFiles, root <+: file
  captured : ∀ captured, g.captured = some captured → ∀ path ∈ captured, ¬root <+: path

/-- A keychain in the workspace knows the captured search list until the list is restored. -/
structure Holds (root : Path) (identity : Nat × Nat) (k : PlatformKeychain) (g : SignView) : Prop
    extends Bound root identity g where
  jobDir : root <+: k.jobDir
  restored : k.searchListMutated = false → Settled g
  prior : k.searchListMutated = true → g.captured = some k.priorSearchList

variable {root : Path} {identity : Nat × Nat} {k : PlatformKeychain} {g g' : SignView}

theorem Bound.frame (h : Bound root identity g) (hframe : Frame root g g') :
    Bound root identity g' where
  bound := hframe.root.trans h.bound
  handle := hframe.identity.trans h.handle
  ready := hframe.ready h.ready
  files := by
    intro file hfile
    rcases hframe.files file hfile with hold | hnew
    · exact h.files file hold
    · exact hnew
  captured := fun captured hcaptured => h.captured captured (hframe.captured ▸ hcaptured)

/-- The keychain stays held. -/
theorem Holds.still (h : Holds root identity k g) (hframe : StillFrame root g g') :
    Holds root identity k g' where
  toBound := h.toBound.frame hframe.toFrame
  jobDir := h.jobDir
  restored := fun hk => hframe.settled h.captured (h.restored hk)
  prior := fun hk => hframe.captured.trans (h.prior hk)

/-- A keychain that is being cleaned up; `settled` says when the search list is the captured one. -/
structure Cleaning (root : Path) (identity : Nat × Nat) (settled : Prop) (k : PlatformKeychain)
    (g : SignView) : Prop extends Holds root identity k g where
  settled : settled → Settled g

variable {settled : Prop}

theorem Cleaning.still (h : Cleaning root identity settled k g) (hframe : StillFrame root g g') :
    Cleaning root identity settled k g' where
  toHolds := h.toHolds.still hframe
  settled := fun hsettled => hframe.settled h.captured (h.settled hsettled)

variable {x : KeychainM α}

theorem keeps_cleaning (hx : Within (signContract parsers phase) (StillFrame root) x) :
    Keeps (signContract parsers phase) (Cleaning root identity settled) x :=
  hx.keeps fun _ _ _ h hframe => h.still hframe

/-- The keychain's tool takes nothing off a search list that was restored. -/
theorem Cleaning.delete (phase : ProtectedSignPhaseRequest)
    {answer : SignRes (.run (.deleteKeychain path))} (h : Cleaning root identity settled k g)
    (hpath : root <+: path) (hanswer : g.Documented parsers (.run (.deleteKeychain path)) answer) :
    Cleaning root identity settled k (g.next phase (.run (.deleteKeychain path)) answer) := by
  apply h.still
  refine ⟨⟨rfl, rfl, rfl, rfl, id, fun _ => .inl⟩, ?_⟩
  intro houtside hsettled captured hcaptured
  have hlist := hsettled captured hcaptured
  rcases hanswer with hsame | hwithout
  · exact hsame.trans hlist
  · rw [show (g.next phase (.run (.deleteKeychain path)) answer).searchList = _ from hwithout, hlist]
    rw [List.filter_eq_self]
    intro entry hentry
    have hne : entry ≠ path := by
      rintro rfl
      exact houtside captured hcaptured entry hentry hpath
    exact bne_iff_ne.mpr hne

theorem keeps_deleteKeychain :
    Keeps (signContract parsers phase) (Cleaning root identity settled)
      PlatformKeychain.deleteKeychain := by
  apply keeps_bind
  · apply keeps_bind keeps_get
    exact fun _ => keeps_andThen (keeps_cleaning (within_files performs_isRegularFile))
  intro regular k g h
  rw [wp_bind, wp_get]
  cases regular with
  | false => exact h
  | true =>
    have hpath : root <+: k.keychainPath := h.jobDir.trans (List.prefix_append _ _)
    rw [if_pos rfl, wp_bind, wp_attempt]
    apply wp_runCommand
    · exact fun _ _ hdocumented _ _ => h.delete phase hpath hdocumented
    · exact fun _ _ hdocumented _ _ => h.delete phase hpath hdocumented

/-- What is left of a cleanup leaves the search list alone. -/
theorem keepsCleanup :
    KeepsCleanup (signContract parsers phase) (Cleaning root identity settled) where
  deleteKeychain := keeps_deleteKeychain
  deleted _ _ h := ⟨⟨h.toBound, h.jobDir, h.restored, h.prior⟩, h.settled⟩
  files hx := keeps_cleaning (within_files (hx _))

/-- A restored search list is the captured one; before the list was activated it is so in any
case. -/
theorem wp_restoreSearchList (h : Holds root identity k g) :
    wp (signContract parsers phase) PlatformKeychain.restoreSearchList
      (fun _ k' g' => Holds root identity k' g' ∧ Settled g')
      (fun _ k' g' => Holds root identity k' g' ∧ (g.activated = false → Settled g')) k g := by
  simp only [PlatformKeychain.restoreSearchList, wp_bind, wp_get]
  cases hmutated : k.searchListMutated with
  | false => exact ⟨h, h.restored hmutated⟩
  | true =>
    have hprior := h.prior hmutated
    have hframe : ∀ answer : SignRes (.run (.setSearchList k.priorSearchList)),
        Frame root g (g.next phase (.run (.setSearchList k.priorSearchList)) answer) := by
      intro answer
      refine ⟨rfl, rfl, rfl, ?_, id, fun _ => .inl⟩
      simp [SignView.next, SignView.afterCommand, hprior]
    have hsettled : ∀ answer : SignRes (.run (.setSearchList k.priorSearchList)),
        answer.searchList = k.priorSearchList →
        Settled (g.next phase (.run (.setSearchList k.priorSearchList)) answer) := by
      intro answer hlist captured hcaptured
      rw [(hframe answer).captured, hprior] at hcaptured
      cases hcaptured
      exact hlist
    rw [if_pos rfl, wp_bind, setSearchList, wp_bind]
    apply wp_runCommand
    · -- the tool succeeded
      intro answer output hdocumented _ hresult
      have hlist := hsettled answer (hdocumented (by rw [hresult]; rfl))
      exact ⟨⟨h.toBound.frame (hframe answer), h.jobDir, fun _ => hlist, fun hk => (by cases hk)⟩,
        hlist⟩
    · -- the tool failed: the captured list is still known
      intro answer e _ hmeets _
      refine ⟨⟨h.toBound.frame (hframe answer), h.jobDir, ?_,
        fun _ => (hframe answer).captured.trans hprior⟩, ?_⟩
      · intro hk
        rw [hmutated] at hk
        cases hk
      · exact fun hactivated => hsettled answer (hmeets hprior hactivated)

/-- What a cleanup of the keychain leaves, and what it confirms. -/
theorem wp_confirmCleanup (h : Holds root identity k g) :
    wp (signContract parsers phase) PlatformKeychain.confirmCleanup
      (fun confirmation => Cleaning root identity
        (confirmation.searchListRestored = true ∨ g.activated = false))
      (fun _ => Cleaning root identity (g.activated = false)) k g := by
  apply KeepsCleanup.wp_confirmCleanup
    (P := fun restored => Cleaning root identity (restored = true ∨ g.activated = false))
  · exact fun _ => keepsCleanup
  · apply wp_mono (wp_restoreSearchList h)
    · exact fun _ k' g' hend => ⟨hend.1, fun _ => hend.2⟩
    · intro e k' g' hend
      refine ⟨hend.1, ?_⟩
      rintro (hrestored | hactivated)
      · cases hrestored
      · exact hend.2 hactivated
  · exact fun _ _ _ _ h' => ⟨h'.toHolds, fun hactivated => h'.settled (.inr hactivated)⟩

/-- A cleanup that succeeds has restored the search list; one that fails has, if the list was
never activated. -/
theorem wp_cleanup (h : Holds root identity k g) :
    wp (signContract parsers phase) PlatformKeychain.cleanup
      (fun confirmation k' g' => (Bound root identity g' ∧ Settled g') ∧ k'.active = false ∧
        confirmation.isComplete = true)
      (fun _ k' g' => Holds root identity k' g' ∧ (g.activated = false → Settled g')) k g := by
  rw [PlatformKeychain.cleanup, wp_bind]
  apply wp_mono (wp_confirmCleanup h)
  · intro confirmation k' g' h'
    cases hcomplete : confirmation.isComplete with
    | true =>
      have hrestored : confirmation.searchListRestored = true := by
        simp only [KeychainCleanupConfirmation.isComplete, Bool.and_eq_true] at hcomplete
        exact hcomplete.1.1.1
      rw [if_pos rfl, wp_bind, wp_modify]
      exact ⟨⟨h'.toBound, h'.settled (.inl hrestored)⟩, rfl, hcomplete⟩
    | false => exact ⟨h'.toHolds, fun hactivated => h'.settled (.inr hactivated)⟩
  · exact fun _ k' g' h' => ⟨h'.toHolds, h'.settled⟩

/-- A dropped keychain that was never activated leaves the captured search list. -/
theorem wp_drop {E : ε → σ → SignView → Prop} (h : Holds root identity k g) :
    wp (signContract parsers phase) (k.drop : ProgM SignOp SignRes σ ε Unit)
      (fun _ s' g' => s' = s ∧ Bound root identity g' ∧
        (k.active = true → g.activated = false → Settled g'))
      E s g := by
  rw [PlatformKeychain.drop]
  cases hactive : k.active with
  | true =>
    rw [if_pos rfl, wp_bind, wp_runOn]
    apply wp_mono (wp_cleanup h)
    · exact fun _ _ _ hend => ⟨rfl, hend.1.1, fun _ _ => hend.1.2⟩
    · exact fun _ _ _ hend => ⟨rfl, hend.1.toBound, fun _ => hend.2⟩
  | false => exact ⟨rfl, h.toBound, fun hk => (by cases hk)⟩

/-- The explicit cleanup of an imported keychain. -/
theorem wp_cleanupImported {imported : EphemeralSigningKeychain}
    (h : Holds root identity imported.inner g) :
    wp (signContract parsers phase) imported.cleanup
      (fun confirmation s' g' => s' = s ∧ (Bound root identity g' ∧ Settled g') ∧
        confirmation.isComplete = true)
      (fun _ s' g' => s' = s ∧ Bound root identity g') s g := by
  rw [EphemeralSigningKeychain.cleanup, wp_bind, wp_runOn]
  apply wp_mono (wp_cleanup h)
  · -- nothing is left to be dropped
    intro confirmation k' g' hend
    rw [wp_bind, PlatformKeychain.drop, hend.2.1, if_neg Bool.false_ne_true]
    exact ⟨rfl, hend.1, hend.2.2⟩
  · intro e k' g' hend
    rw [wp_bind]
    apply wp_mono (wp_drop hend.1)
    · exact fun _ s' g'' hdropped => ⟨hdropped.1, hdropped.2.1⟩
    · exact fun _ _ _ hfalse => hfalse

/-! ## Construction of the keychain -/

/-- A keychain that is imported has captured the search list. -/
structure Imported (root : Path) (identity : Nat × Nat) (k : PlatformKeychain) (g : SignView) : Prop
    extends Holds root identity k g where
  mutated : k.searchListMutated = true

/-- The import stays valid. -/
theorem Imported.frame (h : Imported root identity k g) (hframe : Frame root g g') :
    Imported root identity k g' where
  toBound := h.toBound.frame hframe
  jobDir := h.jobDir
  restored := by
    intro hk
    rw [h.mutated] at hk
    cases hk
  prior := fun hk => hframe.captured.trans (h.prior hk)
  mutated := h.mutated

/-- A keychain that is not yet in the search list, and is cleaned up when it is dropped. -/
structure Inactive (root : Path) (identity : Nat × Nat) (k : PlatformKeychain) (g : SignView) : Prop
    extends Holds root identity k g where
  inactive : g.activated = false
  active : k.active = true

/-- A keychain that is being made; `late` says whether the search list has been captured. -/
structure Building (root : Path) (identity : Nat × Nat) (late : Bool) (k : PlatformKeychain)
    (g : SignView) : Prop extends Inactive root identity k g where
  mutated : k.searchListMutated = late
  fresh : late = false → g.captured = none

variable {late : Bool}

/-- The construction goes on. -/
theorem Building.frame (h : Building root identity late k g) (hframe : Frame root g g') :
    Building root identity late k g' where
  toBound := h.toBound.frame hframe
  jobDir := h.jobDir
  restored := by
    intro hk captured hcaptured
    rw [hframe.captured, h.fresh (h.mutated ▸ hk)] at hcaptured
    cases hcaptured
  prior := fun hk => hframe.captured.trans (h.prior hk)
  mutated := h.mutated
  fresh := fun hfresh => hframe.captured.trans (h.fresh hfresh)
  inactive := hframe.activated.trans h.inactive
  active := h.active

/-- Files below the job directory are in the workspace. -/
theorem Holds.below (h : Holds root identity k g) (name : String) : root <+: k.jobDir ++ [name] :=
  h.jobDir.trans (List.prefix_append _ _)

theorem keeps_building (hx : Within (signContract parsers phase) (Frame root) x) :
    Keeps (signContract parsers phase) (Building root identity late) x :=
  hx.keeps fun _ _ _ h hframe => h.frame hframe

theorem keeps_building_still (hx : Within (signContract parsers phase) (StillFrame root) x) :
    Keeps (signContract parsers phase) (Building root identity late) x :=
  keeps_building (hx.mono fun _ _ hframe => hframe.toFrame)

theorem within_generateHexValue {bytes : Nat} :
    Within (signContract parsers phase) (Frame root) (generateHexValue (σ := σ) parsers bytes) := by
  apply within_bind
  · exact within_runCommand trivial
  · exact fun _ => within_ofExcept

theorem within_inspectDecodedCertificate {pem : Path} :
    Within (signContract parsers phase) (Frame root)
      (inspectDecodedCertificate (σ := σ) parsers pem) := by
  apply within_bind
  · intro s g
    rw [wp_mapError]
    exact within_runCommand (by trivial) s g
  intro _
  apply within_bind (within_runCommand (by trivial))
  intro der
  apply within_bind within_ensure
  intro _
  apply within_bind (within_runCommand (by trivial))
  intro sha1
  apply within_bind within_ensure
  intro _
  apply within_bind (within_runCommand (by trivial))
  intro subject
  apply within_bind within_ofExcept
  intro names
  apply within_bind (within_runCommand (by trivial))
  intro expiration
  exact within_bind within_ofExcept fun _ => within_pure

theorem keeps_requireJobDirectory {reason : String} :
    Keeps (signContract parsers phase) (Building root identity late)
      (PlatformKeychain.requireJobDirectory reason) := by
  apply keeps_bind
  · apply keeps_bind keeps_get
    intro self
    exact keeps_bind (keeps_building_still (within_files performs_directoryIdentity)) fun _ => keeps_pure
  · exact fun _ => keeps_ensure

variable {input : SigningKeychainInput}

theorem keeps_decodeIdentity :
    Keeps (signContract parsers phase) (Building root identity late)
      (PlatformKeychain.decodeIdentity parsers input) := by
  apply keeps_bind keeps_requireJobDirectory
  intro _
  apply keeps_get_bind
  intro self g h
  apply keeps_bind
  · exact keeps_building_still (within_files (performs_writeOwnerMarker (h.below _)))
  intro _
  apply keeps_bind
  · exact keeps_building_still (within_files (performs_writePrivateFile (h.below _)))
  intro _
  apply keeps_bind
  · exact keeps_building_still (within_files (performs_createPrivateFile (h.below _)))
  intro _
  apply keeps_bind keeps_requireJobDirectory
  intro _
  apply keeps_bind
  · exact keeps_building (within_runCommand trivial)
  intro _
  apply keeps_bind
  · exact keeps_building_still (within_files performs_secureRegularFile)
  intro _
  apply keeps_bind
  · exact keeps_building_still (within_files performs_removeRegularFile)
  intro _
  exact keeps_building within_inspectDecodedCertificate

/-- The captured list is the one that the user has, and names no file of the workspace. -/
theorem wp_captureSearchList (h : Building root identity false k g) :
    wp (signContract parsers phase) (PlatformKeychain.captureSearchList parsers workerRoot)
      (fun _ => Building root identity true) (fun _ => Inactive root identity) k g := by
  rw [PlatformKeychain.captureSearchList]
  apply (keeps_building_still within_acquireSearchListLock).wp_bind h
  · intro _ k g h
    have hnone := h.fresh rfl
    rw [querySearchList, wp_bind, wp_bind]
    apply wp_runCommand
    · intro answer output hdocumented hmeets hresult
      have hnext : g.next phase (.run .querySearchList) answer =
          { g with searchList := answer.searchList, captured := some answer.searchList } := by
        simp [SignView.next, SignView.afterCommand, hresult, hnone, Except.isOk, Except.toBool]
      have hbound : Bound root identity (g.next phase (.run .querySearchList) answer) := by
        rw [hnext]
        exact {
          bound := h.bound
          handle := h.handle
          ready := h.ready
          files := h.files
          captured := by
            intro captured hcaptured
            cases hcaptured
            exact hmeets (by rw [hresult]; rfl) root h.bound }
      have hsettled : Settled (g.next phase (.run .querySearchList) answer) := by
        rw [hnext]
        intro captured hcaptured
        cases hcaptured
        rfl
      have hinactive : (g.next phase (.run .querySearchList) answer).activated = false := by
        rw [hnext]
        exact h.inactive
      rw [wp_ofExcept]
      constructor
      · -- what is parsed is the list that the user has
        intro paths hpaths
        have hlist := hdocumented.2 output hresult paths hpaths
        rw [wp_modify]
        refine ⟨⟨⟨hbound, h.jobDir, fun _ => hsettled, fun _ => ?_⟩, hinactive, h.active⟩, rfl,
          fun hlate => (by cases hlate)⟩
        rw [hnext, hlist, hdocumented.1]
      · intro e _
        refine ⟨⟨hbound, h.jobDir, fun _ => hsettled, fun hk => ?_⟩, hinactive, h.active⟩
        rw [h.mutated] at hk
        cases hk
    · intro answer e hdocumented _ hresult
      have hnext : g.next phase (.run .querySearchList) answer =
          { g with searchList := answer.searchList } := by
        simp [SignView.next, SignView.afterCommand, hresult]
      have hframe : Frame root g (g.next phase (.run .querySearchList) answer) := by
        rw [hnext]
        exact ⟨rfl, rfl, rfl, rfl, id, fun _ => .inl⟩
      exact (h.frame hframe).toInactive
  · exact fun _ _ _ h => h.toInactive

theorem keeps_createAndUnlockKeychain {password : String} :
    Keeps (signContract parsers phase) (Building root identity late)
      (PlatformKeychain.createAndUnlockKeychain password) := by
  apply keeps_bind
  · apply keeps_modify
    intro k g h
    exact ⟨⟨⟨h.toBound, h.jobDir, h.restored, h.prior⟩, h.inactive, h.active⟩, h.mutated, h.fresh⟩
  intro _
  apply keeps_get_bind
  intro self g h
  apply keeps_bind
  · exact keeps_building (within_runCommand (h.below _))
  intro _
  apply keeps_bind
  · exact keeps_building_still (within_files performs_secureRegularFile)
  intro _
  apply keeps_bind
  · exact keeps_building (within_runCommand trivial)
  intro _
  apply keeps_bind
  · exact keeps_building (within_runCommand trivial)
  exact fun _ => keeps_pure

/-- The keychain is put first in the search list as the last step; until then the list is not
activated. -/
theorem wp_importKeychain {evidence : KeychainIdentityEvidence}
    (h : Building root identity true k g) :
    wp (signContract parsers phase) (PlatformKeychain.importKeychain parsers evidence)
      (fun _ => Imported root identity) (fun _ => Inactive root identity) k g := by
  have hrest : ∀ (e : KeychainError) k' g', Building root identity true k' g' →
      Inactive root identity k' g' := fun _ _ _ h => h.toInactive
  rw [PlatformKeychain.importKeychain]
  apply keeps_requireJobDirectory.wp_bind h _ hrest
  intro _ k₁ g₁ h₁
  apply (keeps_building within_generateHexValue).wp_bind h₁ _ hrest
  intro password k₂ g₂ h₂
  apply keeps_createAndUnlockKeychain.wp_bind h₂ _ hrest
  intro _ k₃ g₃ h₃
  rw [wp_bind, wp_get]
  apply (keeps_building (within_runCommand (by trivial))).wp_bind h₃ _ hrest
  intro _ k₄ g₄ h₄
  apply (keeps_building (within_runCommand (by trivial))).wp_bind h₄ _ hrest
  intro _ k₅ g₅ h₅
  have hconfirm : Within (signContract parsers phase) (Frame root)
      (confirmImportedIdentity (σ := PlatformKeychain) parsers k₃.keychainPath
        evidence.sha1Fingerprint) := by
    apply within_bind (within_runCommand (by trivial))
    exact fun _ => within_ofExcept
  apply (keeps_building hconfirm).wp_bind h₅ _ hrest
  intro _ k₆ g₆ h₆
  apply (keeps_building_still (within_files performs_removeRegularFile)).wp_bind h₆ _ hrest
  intro _ k₇ g₇ h₇
  rw [setSearchList, wp_bind]
  -- the workspace and the captured list are the same, whatever the tool does
  have hnext : ∀ (paths : List Path) (answer : SignRes (.run (.setSearchList paths))),
      Holds root identity k₇ (g₇.next phase (.run (.setSearchList paths)) answer) := by
    intro paths answer
    refine ⟨⟨h₇.bound, h₇.handle, h₇.ready, h₇.files, h₇.captured⟩, h₇.jobDir, ?_, h₇.prior⟩
    intro hk
    rw [h₇.mutated] at hk
    cases hk
  apply wp_runCommand
  · exact fun answer _ _ _ _ => ⟨hnext _ answer, h₇.mutated⟩
  · intro answer e _ _ hresult
    refine ⟨hnext _ answer, ?_, h₇.active⟩
    simp [SignView.next, SignView.afterCommand, hresult, h₇.inactive]

/-- The keychain is imported, or left inactive. -/
theorem wp_populate (h : Building root identity false k g) :
    wp (signContract parsers phase) (PlatformKeychain.populate parsers workerRoot input)
      (fun _ => Imported root identity) (fun _ => Inactive root identity) k g := by
  rw [PlatformKeychain.populate]
  apply keeps_decodeIdentity.wp_bind h
  · intro evidence k₁ g₁ h₁
    rw [wp_bind]
    apply wp_mono (wp_captureSearchList h₁)
    · intro _ k₂ g₂ h₂
      rw [wp_bind]
      exact wp_importKeychain h₂
    · exact fun _ _ _ h₂ => h₂
  · exact fun _ _ _ h₁ => h₁.toInactive

/-- Before a keychain is made, no search list has been captured. -/
structure Fresh (root : Path) (identity : Nat × Nat) (g : SignView) : Prop
    extends Bound root identity g where
  uncaptured : g.captured = none
  inactive : g.activated = false

/-- A fresh workspace stays so. -/
theorem Fresh.frame (h : Fresh root identity g) (hframe : Frame root g g') :
    Fresh root identity g' where
  toBound := h.toBound.frame hframe
  uncaptured := hframe.captured.trans h.uncaptured
  inactive := hframe.activated.trans h.inactive

/-- Nothing was captured yet. -/
theorem Fresh.isSettled (h : Fresh root identity g) : Settled g := by
  intro captured hcaptured
  rw [h.uncaptured] at hcaptured
  cases hcaptured

theorem keeps_fresh {x : EngineM σ α} (hx : Within (signContract parsers phase) (Frame root) x) :
    Keeps (signContract parsers phase) (fun s' g' => s' = s ∧ Fresh root identity g') x :=
  hx.keeps fun _ _ _ h hframe => ⟨h.1, h.2.frame hframe⟩

theorem keeps_fresh_still {x : EngineM σ α}
    (hx : Within (signContract parsers phase) (StillFrame root) x) :
    Keeps (signContract parsers phase) (fun s' g' => s' = s ∧ Fresh root identity g') x :=
  keeps_fresh (hx.mono fun _ _ hframe => hframe.toFrame)

/-- The canonical signing root is still in the workspace. -/
theorem wp_prepareSigningRoot (h : Fresh root identity g) (hpath : root <+: path) :
    wp (signContract parsers phase) (prepareSigningRoot path)
      (fun canonical s' g' => (s' = s ∧ Fresh root identity g') ∧ root <+: canonical)
      (fun _ s' g' => s' = s ∧ Fresh root identity g') s g := by
  have hrest : ∀ (e : KeychainError) s' g', (s' = s ∧ Fresh root identity g') →
      s' = s ∧ Fresh root identity g' := fun _ _ _ h => h
  rw [prepareSigningRoot]
  apply (keeps_fresh_still (within_call (by trivial))).wp_bind ⟨rfl, h⟩ _ hrest
  intro answer s₁ g₁ h₁
  apply (keeps_fresh_still within_ofExcept).wp_bind h₁ _ hrest
  intro info s₂ g₂ h₂
  apply (keeps_fresh_still within_ensure).wp_bind h₂ _ hrest
  intro _ s₃ g₃ h₃
  apply (keeps_fresh_still (within_call (by trivial))).wp_bind h₃ _ hrest
  intro secured s₄ g₄ h₄
  apply (keeps_fresh_still within_ofExcept).wp_bind h₄ _ hrest
  intro _ s₅ g₅ h₅
  rw [wp_bind]
  intro canonical hanswer
  have hframe := still_next phase root (.canonicalize path) trivial g₅ canonical
  have h₆ := h₅.2.frame hframe.toFrame
  refine ⟨trivial, ?_⟩
  cases canonical with
  | ok canonical => exact ⟨⟨h₅.1, h₆⟩, hanswer.1 root h₅.2.bound hpath⟩
  | error kind => exact ⟨h₅.1, h₆⟩

theorem within_prepareExistingWorkerRoot :
    Within (signContract parsers phase) (StillFrame root)
      (prepareExistingWorkerRoot (σ := σ) path) := by
  apply within_bind
  · exact within_call trivial
  intro answer
  apply within_bind within_ofExcept
  intro info
  apply within_bind within_ensure
  intro _
  apply within_bind within_ensure
  intro _
  apply within_bind
  · exact within_call trivial
  · exact fun _ => within_ofExcept

/-- The roots are prepared inside the workspace. -/
theorem wp_prepareRoots {signingRoot : Path} (h : Fresh root identity g)
    (hpath : root <+: signingRoot) :
    wp (signContract parsers phase) (prepareRoots workerRoot signingRoot)
      (fun roots s' g' => (s' = s ∧ Fresh root identity g') ∧ root <+: roots.2)
      (fun _ s' g' => s' = s ∧ Fresh root identity g') s g := by
  rw [prepareRoots]
  apply (keeps_fresh_still within_prepareExistingWorkerRoot).wp_bind ⟨rfl, h⟩
  · intro canonicalWorker s₁ g₁ h₁
    obtain ⟨hs, hfresh⟩ := h₁
    rw [hs, wp_bind]
    apply wp_mono (wp_prepareSigningRoot hfresh hpath)
    · intro canonical s₂ g₂ h₂
      rw [wp_bind, wp_ensure]
      exact ⟨fun _ => h₂, fun _ => h₂.1⟩
    · exact fun _ _ _ h₂ => h₂
  · exact fun _ _ _ h₁ => h₁

/-- The job directory is made below the signing root. -/
theorem wp_createUniqueJobDirectory (hpath : root <+: path) (attempts : Nat)
    (h : Fresh root identity g) :
    wp (signContract parsers phase) (createUniqueJobDirectory parsers path attempts)
      (fun directory s' g' => (s' = s ∧ Fresh root identity g') ∧ root <+: directory)
      (fun _ s' g' => s' = s ∧ Fresh root identity g') s g := by
  induction attempts generalizing g with
  | zero => exact ⟨rfl, h⟩
  | succ attempts ih =>
    have hrest : ∀ (e : KeychainError) s' g', (s' = s ∧ Fresh root identity g') →
        s' = s ∧ Fresh root identity g' := fun _ _ _ h => h
    rw [createUniqueJobDirectory]
    apply (keeps_fresh within_generateHexValue).wp_bind ⟨rfl, h⟩ _ hrest
    intro token s₁ g₁ h₁
    apply (keeps_fresh_still (within_call (by trivial))).wp_bind h₁ _ hrest
    intro created s₂ g₂ h₂
    rcases created with kind | _
    · cases kind with
      | alreadyExists =>
        -- the name is taken: another attempt
        obtain ⟨hs, hfresh⟩ := h₂
        rw [hs]
        exact ih hfresh
      | notFound => exact h₂
      | other => exact h₂
    · apply (keeps_fresh_still (within_call (by trivial))).wp_bind h₂ _ hrest
      intro secured s₃ g₃ h₃
      apply (keeps_fresh_still within_ofExcept).wp_bind h₃ _ hrest
      intro _ s₄ g₄ h₄
      exact ⟨h₄, hpath.trans (List.prefix_append _ _)⟩

/-- An imported keychain holds the captured list; when the construction fails, the list that was
captured is the user's list again. -/
theorem wp_createKeychain {signingRoot : Path}
    (h : Fresh root identity g) (hpath : root <+: signingRoot) :
    wp (signContract parsers phase) (createKeychain parsers workerRoot signingRoot input)
      (fun imported s' g' => s' = s ∧ Imported root identity imported.inner g')
      (fun _ s' g' => s' = s ∧ Bound root identity g' ∧ Settled g') s g := by
  have hfail : ∀ (e : KeychainError) s' g', (s' = s ∧ Fresh root identity g') →
      s' = s ∧ Bound root identity g' ∧ Settled g' :=
    fun _ _ _ h => ⟨h.1, h.2.toBound, h.2.isSettled⟩
  rw [createKeychain, wp_bind]
  apply wp_mono (wp_prepareRoots h hpath) _ hfail
  intro roots s₁ g₁ h₁
  obtain ⟨⟨hs₁, hfresh₁⟩, hroot⟩ := h₁
  rw [hs₁, wp_bind]
  apply wp_mono (wp_createUniqueJobDirectory hroot 8 hfresh₁) _ hfail
  intro jobDir s₂ g₂ h₂
  obtain ⟨hfresh₂, hjobDir⟩ := h₂
  apply (keeps_fresh_still (within_files performs_directoryIdentity)).wp_bind hfresh₂ _ hfail
  intro jobIdentity s₃ g₃ h₃
  obtain ⟨hs₃, hfresh₃⟩ := h₃
  rw [hs₃, wp_bind, wp_runOn]
  have hbuilding : Building root identity false
      ⟨roots.2, jobDir, jobIdentity, [], false, false, true⟩ g₃ :=
    { toBound := hfresh₃.toBound
      jobDir := hjobDir
      restored := fun _ => hfresh₃.isSettled
      prior := fun hk => (by cases hk)
      inactive := hfresh₃.inactive
      active := rfl
      mutated := rfl
      fresh := fun _ => hfresh₃.uncaptured }
  apply wp_mono (wp_populate hbuilding)
  · exact fun _ _ _ hholds => ⟨rfl, hholds⟩
  · -- the keychain is dropped
    intro e keychain g₄ hinactive
    show wp (signContract parsers phase) (keychain.drop >>= fun _ => fail e) _ _ s g₄
    rw [wp_bind]
    apply wp_mono (wp_drop hinactive.toHolds)
    · exact fun _ s' g' hend =>
        ⟨hend.1, hend.2.1, hend.2.2 hinactive.active hinactive.inactive⟩
    · exact fun _ _ _ hfalse => hfalse

/-! ## Signing -/

/-- What the step works on is in the workspace. -/
def IsInside (root : Path) : PhaseStep → Prop
  | .prepareProvisioning _ scratch => root <+: scratch
  | .exportIpa _ _ isolatedHome temporary => root <+: isolatedHome ∧ root <+: temporary
  | .validateIpa _ workspace | .createProducts _ _ _ workspace => root <+: workspace
  | _ => True

variable {step : PhaseStep}

/-- A step inside the workspace. -/
theorem within_step (hstep : IsInside root step) :
    Within (signContract parsers phase) (Frame root)
      (call (.step step) : ProgM SignOp SignRes σ ε (SignRes (.step step))) := by
  apply within_perform
  intro g r
  refine ⟨trivial, ?_⟩
  cases step with
  | prepareProvisioning _ scratch =>
    refine ⟨rfl, rfl, rfl, rfl, id, ?_⟩
    intro file hfile
    rcases List.mem_cons.mp hfile with hnew | hold
    · rw [hnew]; exact .inr hstep
    · exact .inl hold
  | exportIpa _ _ isolatedHome temporary =>
    refine ⟨rfl, rfl, rfl, rfl, id, ?_⟩
    intro file hfile
    rcases List.mem_cons.mp hfile with hhome | hfile
    · rw [hhome]; exact .inr hstep.1
    · rcases List.mem_cons.mp hfile with htemporary | hold
      · rw [htemporary]; exact .inr hstep.2
      · exact .inl hold
  | validateIpa _ workspace =>
    refine ⟨rfl, rfl, rfl, rfl, id, ?_⟩
    intro file hfile
    rcases List.mem_cons.mp hfile with hnew | hold
    · rw [hnew]; exact .inr hstep
    · exact .inl hold
  | createProducts _ _ _ workspace =>
    refine ⟨rfl, rfl, rfl, rfl, id, ?_⟩
    intro file hfile
    rcases List.mem_cons.mp hfile with hnew | hold
    · rw [hnew]; exact .inr hstep
    · exact .inl hold
  | _ => exact ⟨rfl, rfl, rfl, rfl, id, fun _ => .inl⟩

/-- The same for its answer. -/
theorem within_phaseStep {α : Type} {h : step.Answer = Except PipelineError α}
    (hstep : IsInside root step) :
    Within (signContract parsers phase) (Frame root) (phaseStep (σ := σ) step h) := by
  apply within_bind (within_step hstep)
  exact fun _ => within_ofExcept

/-- The directories that the phase works in are in the workspace. -/
structure Inside (root : Path) (directories : PhaseDirectories) : Prop where
  keychainRoot : root <+: directories.keychainRoot
  profileScratch : root <+: directories.profileScratch
  temporaryDirectory : root <+: directories.temporaryDirectory
  validationWorkspace : root <+: directories.validationWorkspace
  productWorkspace : root <+: directories.productWorkspace
  isolatedHome : root <+: directories.isolatedHome

variable {directories : PhaseDirectories} {certificate : SigningCertificate}

theorem within_resolveSecret {reference : SecretReference} :
    Within (signContract parsers phase) (Frame root) (resolveSecret reference) := by
  apply within_bind
  · exact within_step trivial
  · exact fun _ => within_ofOption

theorem within_exportAndValidate (h : Inside root directories) :
    Within (signContract parsers phase) (Frame root) (exportAndValidate phase directories) := by
  apply within_bind
  · apply within_forM
    intro planned
    exact within_bind within_resolveSecret fun _ => within_ensure
  intro _
  apply within_bind
  · exact within_step h.profileScratch
  intro prepared
  apply within_bind within_ofOption
  intro decodedInputsRemoved
  apply within_bind within_ensure
  intro _
  apply within_bind within_ensure
  intro _
  apply within_bind
  · exact within_step ⟨h.isolatedHome, h.temporaryDirectory⟩
  intro exported
  apply within_bind within_ofOption
  intro exported
  apply within_bind within_ensure
  intro _
  apply within_bind
  · exact within_phaseStep trivial
  intro ipaPath
  apply within_bind
  · exact within_step h.validationWorkspace
  intro validation
  apply within_bind within_ofExcept
  intro validation
  apply within_bind within_ensure
  intro _
  apply within_bind
  · exact within_step h.productWorkspace
  intro products
  apply within_bind within_ofOption
  exact fun _ => within_pure

/-- The keychain that is held, if the import went that far; without one, the search list is the
captured one unless an incomplete cleanup is reported. -/
def Held (root : Path) (identity : Nat × Nat) (incomplete : Prop) :
    Option EphemeralSigningKeychain → SignView → Prop
  | none, g => Bound root identity g ∧ (¬incomplete → Settled g)
  | some imported, g => Imported root identity imported.inner g

/-- The identity is imported, or nothing is left of it. -/
theorem wp_importSigningIdentity {keychainRoot : Path} (h : Fresh root identity g)
    (hroot : root <+: keychainRoot) :
    wp (signContract parsers phase)
      (importSigningIdentity parsers phase keychainRoot certificate)
      (fun _ s' g' => ∃ imported, s' = some imported ∧ Imported root identity imported.inner g')
      (fun e s' g' => Held root identity (e = .cleanupIncomplete) s' g') none g := by
  have hkeep : ∀ {α : Type} {x : SigningM α}, Within (signContract parsers phase) (Frame root) x →
      Keeps (signContract parsers phase) (fun s' g' => s' = none ∧ Fresh root identity g') x :=
    fun hx => hx.keeps fun _ _ _ h hframe => ⟨h.1, h.2.frame hframe⟩
  have hfail : ∀ (e : PipelineError) s' g', (s' = none ∧ Fresh root identity g') →
      Held root identity (e = .cleanupIncomplete) s' g' := by
    intro e s' g' hend
    rw [hend.1]
    exact ⟨hend.2.toBound, fun _ => hend.2.isSettled⟩
  rw [importSigningIdentity]
  apply (hkeep within_ofOption).wp_bind ⟨rfl, h⟩ _ hfail
  intro signing s₁ g₁ h₁
  apply (hkeep within_resolveSecret).wp_bind h₁ _ hfail
  intro identityBytes s₂ g₂ h₂
  apply (hkeep within_ofOption).wp_bind h₂ _ hfail
  intro passwordReference s₃ g₃ h₃
  apply (hkeep within_resolveSecret).wp_bind h₃ _ hfail
  intro passwordBytes s₄ g₄ h₄
  apply (hkeep within_ofExcept).wp_bind h₄ _ hfail
  intro password s₅ g₅ h₅
  apply (hkeep within_ofExcept).wp_bind h₅ _ hfail
  intro input s₆ g₆ h₆
  apply (hkeep within_ofExcept).wp_bind h₆ _ hfail
  intro _ s₇ g₇ h₇
  obtain ⟨hs₇, hfresh⟩ := h₇
  rw [hs₇, wp_bind, wp_mapError]
  apply wp_mono (wp_createKeychain hfresh hroot)
  · intro imported s₈ g₈ h₈
    obtain ⟨hs₈, himported⟩ := h₈
    rw [hs₈]
    cases hvalid : imported.validateIdentity certificate with
    | ok _ => exact ⟨imported, rfl, himported⟩
    | error e =>
      -- the keychain of another identity is cleaned up at once
      rw [wp_bind, wp_mapError]
      apply wp_mono (wp_cleanupImported himported.toHolds)
      · intro _ s₉ g₉ h₉
        rw [h₉.1]
        exact ⟨h₉.2.1.1, fun _ => h₉.2.1.2⟩
      · intro _ s₉ g₉ h₉
        rw [h₉.1]
        exact ⟨h₉.2, fun hincomplete => absurd rfl hincomplete⟩
  · intro e s₈ g₈ h₈
    rw [h₈.1]
    exact ⟨h₈.2.1, fun _ => h₈.2.2⟩

/-- The operation ends with an imported identity. -/
theorem wp_operate (h : Fresh root identity g) (hinside : Inside root directories) :
    wp (signContract parsers phase) (operate parsers phase directories certificate)
      (fun _ s' g' => ∃ imported, s' = some imported ∧ Imported root identity imported.inner g')
      (fun e s' g' => Held root identity (e = .cleanupIncomplete) s' g') none g := by
  rw [operate, wp_bind]
  apply wp_mono (wp_importSigningIdentity h hinside.keychainRoot)
  · intro _ s₁ g₁ h₁
    obtain ⟨imported, hs₁, himported⟩ := h₁
    rw [hs₁]
    apply (within_exportAndValidate hinside).wp
    · exact fun _ g₂ hframe => ⟨imported, rfl, himported.frame hframe⟩
    · exact fun _ g₂ hframe => himported.frame hframe
  · exact fun _ _ _ h₁ => h₁

/-! ## Workspace -/

variable {workspace : ProtectedWorkspace}

/-- A check of the directory that was bound; when it fails, the view says so. -/
theorem wp_verify
    (hroot : g.root = some workspace.root) (hidentity : g.identity = some workspace.identity) :
    wp (signContract parsers phase) ProtectedWorkspace.verify
      (fun _ s' g' => s' = workspace ∧ g' = { g with intact := true })
      (fun _ s' g' => s' = workspace ∧ g' = { g with intact := false }) workspace g := by
  rw [ProtectedWorkspace.verify, wp_bind, wp_get, wp_bind]
  intro answer _
  refine ⟨trivial, ?_⟩
  rcases answer with kind | info
  · -- the directory cannot be inspected
    have hnext : g.next phase (.symlinkMetadata workspace.root) (.error kind) =
        { g with intact := false } := by
      simp [SignView.next, hroot]
    exact ⟨rfl, hnext⟩
  · have hnext : g.next phase (.symlinkMetadata workspace.root) (.ok info) =
        { g with intact := info.isDirectory } := by
      simp [SignView.next, hroot]
    show wp (signContract parsers phase) (call (.openHandle workspace.root) >>= _) _ _ workspace
      (g.next phase (.symlinkMetadata workspace.root) (.ok info))
    rw [hnext, wp_bind]
    intro handle _
    refine ⟨trivial, ?_⟩
    rcases handle with kind | rebound
    · have hnext : ({ g with intact := info.isDirectory } : SignView).next phase
          (.openHandle workspace.root) (.error kind) = { g with intact := false } := by
        simp [SignView.next, hroot]
      exact ⟨rfl, hnext⟩
    · have hnext : ({ g with intact := info.isDirectory } : SignView).next phase
          (.openHandle workspace.root) (.ok rebound) =
          { g with intact := info.isDirectory && rebound == workspace.identity } := by
        simp [SignView.next, hroot, hidentity]
      show wp (signContract parsers phase)
        (ensure (info.isDirectory && rebound == workspace.identity) PipelineError.unsafePath) _ _ workspace
        (({ g with intact := info.isDirectory } : SignView).next phase
          (.openHandle workspace.root) (.ok rebound))
      rw [hnext, wp_ensure]
      constructor
      · intro hsame
        rw [hsame]
        exact ⟨rfl, rfl⟩
      · intro hother
        rw [hother]
        exact ⟨rfl, rfl⟩

/-- What is private is gone, and the rest is as before. -/
structure Closed (g g' : SignView) : Prop where
  workspace : g'.workspacePresent = false
  files : g'.signingFiles = []
  searchList : g'.searchList = g.searchList
  captured : g'.captured = g.captured
  artifacts : g.artifactsPresent = false → g'.artifactsPresent = false

/-- Closing the temporary directory removes the files in it. -/
theorem closed_of_close (phase : ProtectedSignPhaseRequest) (hroot : g.root = some root)
    (hfiles : ∀ file ∈ g.signingFiles, root <+: file) :
    Closed g (g.next phase (.closeTempDir root) (.ok ())) := by
  have hnext : g.next phase (.closeTempDir root) (.ok ()) =
      { g with
        workspacePresent := false
        signingFiles := g.signingFiles.filter fun file => !root.isPrefixOf file } := by
    simp [SignView.next, hroot]
  rw [hnext]
  refine ⟨rfl, ?_, rfl, rfl, id⟩
  rw [List.filter_eq_nil_iff]
  intro file hfile
  rw [List.isPrefixOf_iff_prefix.mpr (hfiles file hfile)]
  exact Bool.false_ne_true

/-- A look at a closed workspace. -/
theorem Closed.metadata (h : Closed g g') {answer : SignRes (.metadata path)} :
    Closed g (g'.next phase (.metadata path) answer) := by
  simp only [SignView.next]
  split
  · exact ⟨h.workspace, h.files, h.searchList, h.captured, fun _ => rfl⟩
  · exact h

/-- The cleanup of the workspace removes everything, or is incomplete, or it finds that the
directory is not the one that was bound. -/
theorem wp_cleanupWorkspace
    (hroot : g.root = some workspace.root) (hidentity : g.identity = some workspace.identity)
    (htemporary : workspace.temporary = true)
    (hfiles : ∀ file ∈ g.signingFiles, workspace.root <+: file) :
    wp (signContract parsers phase) ProtectedWorkspace.cleanup
      (fun _ s' g' => s'.temporary = false ∧ Closed g g')
      (fun e s' g' => (e = .cleanupIncomplete ∧ s'.temporary = false) ∨
        (s' = workspace ∧ g' = { g with intact := false })) workspace g := by
  rw [ProtectedWorkspace.cleanup, wp_bind]
  apply wp_mono (wp_verify hroot hidentity)
  · intro _ s₁ g₁ h₁
    obtain ⟨hs₁, hg₁⟩ := h₁
    rw [hs₁, hg₁, wp_bind, wp_get, wp_bind, wp_ensure]
    refine ⟨fun _ => ?_, fun hopen => ?_⟩
    · rw [wp_bind, wp_modify, wp_bind]
      intro closed _
      refine ⟨trivial, ?_⟩
      rcases closed with kind | _
      · exact .inl ⟨rfl, rfl⟩
      · have hclosed := closed_of_close phase (g := { g with intact := true }) hroot hfiles
        have hclosed : Closed g _ :=
          ⟨hclosed.workspace, hclosed.files, hclosed.searchList, hclosed.captured,
            hclosed.artifacts⟩
        intro remains _
        refine ⟨trivial, ?_⟩
        show wp (signContract parsers phase) (ensure (!remains.isOk) PipelineError.cleanupIncomplete) _ _ _ _
        rw [wp_ensure]
        exact ⟨fun _ => ⟨rfl, hclosed.metadata⟩, fun _ => .inl ⟨rfl, rfl⟩⟩
    · rw [htemporary] at hopen
      cases hopen
  · exact fun _ _ _ h₁ => .inr h₁

/-! ### Set-up -/

/-- The workspace is being set up: there is nothing in it yet, and no artifact. -/
structure Starting (workspace : ProtectedWorkspace) (g : SignView) : Prop where
  bound : g.root = some workspace.root
  handle : g.identity = some workspace.identity
  unready : g.ready = false
  files : g.signingFiles = []
  uncaptured : g.captured = none
  inactive : g.activated = false
  artifacts : g.artifactsPresent = false

variable {workspace : ProtectedWorkspace}

section

variable (h : Starting workspace g)

include h

/-- At the start nothing is captured. -/
theorem Starting.isSettled : Settled g := by
  intro captured hcaptured
  rw [h.uncaptured] at hcaptured
  cases hcaptured

theorem Starting.setIntact {b : Bool} :
    Starting workspace { g with intact := b } :=
  ⟨h.bound, h.handle, h.unready, h.files, h.uncaptured, h.inactive, h.artifacts⟩

/-- The workspace is created. -/
theorem Starting.fresh :
    Fresh workspace.root workspace.identity { g with ready := true } where
  bound := h.bound
  handle := h.handle
  ready := rfl
  files := by
    intro file hfile
    rw [show ({ g with ready := true } : SignView).signingFiles = [] from h.files] at hfile
    cases hfile
  captured := by
    intro captured hcaptured
    rw [show ({ g with ready := true } : SignView).captured = none from h.uncaptured] at hcaptured
    cases hcaptured
  uncaptured := h.uncaptured
  inactive := h.inactive

/-- A child directory is in the workspace; the last one completes the set-up. -/
theorem wp_createChildDirectory {name : String} :
    wp (signContract parsers phase) (ProtectedWorkspace.createChildDirectory name)
      (fun path s' g' => s' = workspace ∧ workspace.root <+: path ∧
        if name = "products" then Fresh workspace.root workspace.identity g'
        else Starting workspace g')
      (fun _ s' g' => s' = workspace ∧ Starting workspace g') workspace g := by
  have hchild : workspace.root <+: workspace.root ++ [name] := List.prefix_append _ _
  have hother : workspace.root ≠ workspace.root ++ [name] := by simp
  rw [ProtectedWorkspace.createChildDirectory, wp_bind]
  -- the workspace is verified before and after the creation
  apply wp_mono (wp_verify h.bound h.handle)
  · intro _ s₁ g₁ h₁
    obtain ⟨hs₁, hg₁⟩ := h₁
    have hstarting : Starting workspace g₁ := hg₁ ▸ h.setIntact
    rw [hs₁, wp_bind, wp_get, wp_bind]
    intro created _
    refine ⟨trivial, ?_⟩
    show wp (signContract parsers phase) _ _ _ workspace g₁
    rw [wp_bind, phaseIo, wp_ofExcept]
    refine ⟨fun _ _ => ?_, fun _ _ => ⟨rfl, hstarting⟩⟩
    rw [wp_bind]
    apply wp_mono (wp_verify hstarting.bound hstarting.handle)
    · intro _ s₂ g₂ h₂
      obtain ⟨hs₂, hg₂⟩ := h₂
      have hstarting₂ : Starting workspace g₂ := hg₂ ▸ hstarting.setIntact
      rw [hs₂, canonicalRealDirectory, wp_bind]
      intro answer _
      refine ⟨trivial, ?_⟩
      have hsame : g₂.next phase (.symlinkMetadata (workspace.root ++ [name])) answer = g₂ := by
        simp only [SignView.next, hstarting₂.bound, Option.some.injEq, if_neg hother]
      show wp (signContract parsers phase) _ _ _ workspace
        (g₂.next phase (.symlinkMetadata (workspace.root ++ [name])) answer)
      rw [hsame, wp_bind, phaseIo, wp_ofExcept]
      refine ⟨fun info _ => ?_, fun _ _ => ⟨rfl, hstarting₂⟩⟩
      rw [wp_bind, wp_ensure]
      refine ⟨fun _ => ?_, fun _ => ⟨rfl, hstarting₂⟩⟩
      rw [wp_bind]
      intro canonical hanswer
      refine ⟨trivial, ?_⟩
      -- the workspace is ready once its last directory has been resolved
      rcases canonical with kind | canonical
      · have hnext : g₂.next phase (.canonicalize (workspace.root ++ [name])) (.error kind) = g₂ := by
          simp [SignView.next, Except.isOk, Except.toBool]
        show workspace = workspace ∧
          Starting workspace (g₂.next phase (.canonicalize (workspace.root ++ [name])) (.error kind))
        rw [hnext]
        exact ⟨rfl, hstarting₂⟩
      · have hnext : g₂.next phase (.canonicalize (workspace.root ++ [name])) (.ok canonical) =
            { g₂ with ready := name == "products" } := by
          simp [SignView.next, Except.isOk, Except.toBool, hstarting₂.bound, hstarting₂.unready]
        have hinside := hanswer.1 workspace.root hstarting₂.bound hchild
        show workspace = workspace ∧ workspace.root <+: canonical ∧
          if name = "products" then
            Fresh workspace.root workspace.identity
              (g₂.next phase (.canonicalize (workspace.root ++ [name])) (.ok canonical))
          else Starting workspace
            (g₂.next phase (.canonicalize (workspace.root ++ [name])) (.ok canonical))
        rw [hnext]
        refine ⟨rfl, hinside, ?_⟩
        split
        · rename_i hname
          rw [hname]
          exact hstarting₂.fresh
        · rename_i hname
          rw [beq_false_of_ne hname]
          exact ⟨hstarting₂.bound, hstarting₂.handle, rfl, hstarting₂.files,
            hstarting₂.uncaptured, hstarting₂.inactive, hstarting₂.artifacts⟩
    · intro _ s₂ g₂ h₂
      exact ⟨h₂.1, h₂.2 ▸ hstarting.setIntact⟩
  · intro _ s₁ g₁ h₁
    exact ⟨h₁.1, h₁.2 ▸ h.setIntact⟩

/-- A set-up that succeeds leaves a workspace that is ready; one that fails leaves it as it was. -/
theorem wp_setUp :
    wp (signContract parsers phase) (setUp phase)
      (fun directories s' g' => s' = workspace ∧ Inside workspace.root directories ∧
        Fresh workspace.root workspace.identity g')
      (fun _ s' g' => s' = workspace ∧ Starting workspace g') workspace g := by
  have hfail : ∀ (e : PipelineError) s' g', (s' = workspace ∧ Starting workspace g') →
      s' = workspace ∧ Starting workspace g' := fun _ _ _ h => h
  rw [setUp, wp_bind, wp_get, wp_bind]
  intro unsealed _
  refine ⟨trivial, ?_⟩
  show wp (signContract parsers phase) _ _ _ workspace g
  rw [wp_bind, wp_ofOption]
  refine ⟨fun unsealed _ => ?_, fun _ => ⟨rfl, h⟩⟩
  rw [wp_bind, wp_ensure]
  refine ⟨fun _ => ?_, fun _ => ⟨rfl, h⟩⟩
  -- the five directories
  rw [wp_bind]
  apply wp_mono (wp_createChildDirectory h) _ hfail
  intro keychainRoot s₁ g₁ h₁
  obtain ⟨hs₁, hkeychain, hstarting₁⟩ := h₁
  rw [if_neg (by decide)] at hstarting₁
  rw [hs₁, wp_bind]
  apply wp_mono (wp_createChildDirectory hstarting₁) _ hfail
  intro profileScratch s₂ g₂ h₂
  obtain ⟨hs₂, hprofiles, hstarting₂⟩ := h₂
  rw [if_neg (by decide)] at hstarting₂
  rw [hs₂, wp_bind]
  apply wp_mono (wp_createChildDirectory hstarting₂) _ hfail
  intro temporaryDirectory s₃ g₃ h₃
  obtain ⟨hs₃, htemporary, hstarting₃⟩ := h₃
  rw [if_neg (by decide)] at hstarting₃
  rw [hs₃, wp_bind]
  apply wp_mono (wp_createChildDirectory hstarting₃) _ hfail
  intro validationWorkspace s₄ g₄ h₄
  obtain ⟨hs₄, hvalidation, hstarting₄⟩ := h₄
  rw [if_neg (by decide)] at hstarting₄
  rw [hs₄, wp_bind]
  apply wp_mono (wp_createChildDirectory hstarting₄) _ hfail
  intro productWorkspace s₅ g₅ h₅
  obtain ⟨hs₅, hproducts, hfresh⟩ := h₅
  rw [if_pos rfl] at hfresh
  exact ⟨hs₅, ⟨hkeychain, hprofiles, htemporary, hvalidation, hproducts, List.prefix_append _ _⟩,
    hfresh⟩

end

/-! ## Completion -/

/-- What the removal of the artifacts leaves alone. -/
structure Tail (g g' : SignView) : Prop where
  workspace : g'.workspacePresent = g.workspacePresent
  files : g'.signingFiles = g.signingFiles
  searchList : g'.searchList = g.searchList
  captured : g'.captured = g.captured

theorem Tail.of_eq (h : g' = g) : Tail g g' := by
  rw [h]
  exact ⟨rfl, rfl, rfl, rfl⟩

theorem Tail.trans (h : Tail g₁ g₂) (h' : Tail g₂ g₃) : Tail g₁ g₃ :=
  ⟨h'.workspace.trans h.workspace, h'.files.trans h.files, h'.searchList.trans h.searchList,
    h'.captured.trans h.captured⟩

/-- Nothing private is left, and the search list is the captured one. -/
structure Private (g : SignView) : Prop where
  workspace : g.workspacePresent = false
  files : g.signingFiles = []
  settled : Settled g

/-- What is private stays so. -/
theorem Private.tail (h : Private g) (htail : Tail g g') : Private g' where
  workspace := htail.workspace.trans h.workspace
  files := htail.files.trans h.files
  settled := by
    intro captured hcaptured
    rw [htail.captured] at hcaptured
    rw [htail.searchList]
    exact h.settled captured hcaptured

/-- Such a state is clean. -/
theorem Private.isClean {failed : Bool} (h : Private g)
    (hartifacts : failed = true → g.artifactsPresent = false) : g.IsClean failed :=
  ⟨h.workspace, h.files, h.settled, hartifacts⟩

/-- A closed and settled workspace leaves nothing. -/
theorem Closed.isPrivate (h : Closed g g') (hsettled : Settled g) : Private g' where
  workspace := h.workspace
  files := h.files
  settled := by
    intro captured hcaptured
    rw [h.captured] at hcaptured
    rw [h.searchList]
    exact hsettled captured hcaptured

/-- The operation only looks at files, or removes directories. -/
def IsLook : SignOp → Prop
  | .metadata _ | .symlinkMetadata _ | .canonicalize _ | .removeDirAll _ => True
  | _ => False

theorem tail_next (phase : ProtectedSignPhaseRequest) (op : SignOp) (hop : IsLook op)
    (g : SignView) (r : SignRes op) : Tail g (g.next phase op r) := by
  cases op with
  | metadata _ => simp only [SignView.next]; split <;> exact ⟨rfl, rfl, rfl, rfl⟩
  | symlinkMetadata _ => simp only [SignView.next]; split <;> exact ⟨rfl, rfl, rfl, rfl⟩
  | canonicalize _ => exact ⟨rfl, rfl, rfl, rfl⟩
  | removeDirAll _ =>
    cases r with
    | ok _ => simp only [SignView.next]; split <;> exact ⟨rfl, rfl, rfl, rfl⟩
    | error _ => exact .of_eq rfl
  | _ => exact hop.elim

variable {E : PipelineError → σ → SignView → Prop}

/-- A path that is not there does not exist; for the artifact directory the view follows. -/
theorem wp_pathExists {Q : Bool → σ → SignView → Prop} (hQ : ∀ (present : Bool) g', Tail g g' →
      (path = phase.artifactDirectory → present = false → g'.artifactsPresent = false) →
      Q present s g') :
    wp (signContract parsers phase) (pathExists path) Q E s g := by
  rw [pathExists, wp_bind]
  intro answer hanswer
  refine ⟨trivial, ?_⟩
  apply hQ
  · exact tail_next phase (.metadata path) trivial g answer
  · intro hpath habsent
    rcases hanswer.2 hpath with hok | hnotFound
    · rw [show answer.isOk = false from habsent] at hok
      cases hok
    · show (g.next phase (.metadata path) answer).artifactsPresent = false
      simp [SignView.next, hpath, hnotFound]

/-- The job root and the parent of the artifact directory are real directories. -/
theorem wp_canonicalArtifactParent {Q : Path → σ → SignView → Prop}
    (hpath : SignView.isArtifactParent phase path)
    (hQ : ∀ canonical g', Tail g g' → Q canonical s g') :
    wp (signContract parsers phase) (canonicalRealDirectory path) Q E s g := by
  rw [canonicalRealDirectory, wp_bind]
  intro answer hanswer
  obtain ⟨info, hinfo, hdirectory⟩ := hanswer.2.2 hpath
  have htail := tail_next phase (.symlinkMetadata path) trivial g answer
  refine ⟨trivial, ?_⟩
  rw [hinfo]
  rw [hinfo] at htail
  show wp (signContract parsers phase) (ensure info.isDirectory PipelineError.unsafePath >>= _) Q E s _
  rw [wp_bind, hdirectory]
  intro canonical hcanonical
  refine ⟨trivial, ?_⟩
  have hok := hcanonical.2 hpath
  rcases canonical with kind | canonical
  · cases hok
  · exact hQ canonical _ (htail.trans (tail_next phase (.canonicalize path)
      trivial _ _))

/-- The artifacts are removed, or the cleanup is incomplete. -/
theorem wp_cleanupArtifactDirectory :
    wp (signContract parsers phase)
      (cleanupArtifactDirectory phase.jobRoot phase.artifactDirectory)
      (fun _ s' g' => s' = s ∧ Tail g g' ∧ g'.artifactsPresent = false)
      (fun e s' _ => s' = s ∧ e = .cleanupIncomplete) s g := by
  rw [cleanupArtifactDirectory, wp_bind]
  apply wp_pathExists
  intro present g₁ htail₁ habsent
  cases present with
  | false => exact ⟨rfl, htail₁, habsent rfl rfl⟩
  | true =>
    rw [if_pos rfl, wp_bind]
    apply wp_canonicalArtifactParent (.inl rfl)
    intro jobRoot g₂ htail₂
    rw [wp_bind]
    intro answer hanswer
    refine ⟨trivial, ?_⟩
    have htail₃ := tail_next phase (.symlinkMetadata phase.artifactDirectory)
      trivial g₂ answer
    -- a directory that is there can be looked at
    have hok := hanswer.2.1 rfl
    rcases answer with kind | info
    · cases hok
    show wp (signContract parsers phase) (ofOption PipelineError.cleanupIncomplete
      (parent phase.artifactDirectory) >>= _) _ _ s _
    rw [wp_bind, wp_ofOption]
    refine ⟨fun artifactParent hparent => ?_, fun _ => ⟨rfl, rfl⟩⟩
    rw [wp_bind, wp_ensure]
    refine ⟨fun _ => ?_, fun _ => ⟨rfl, rfl⟩⟩
    rw [wp_bind]
    apply wp_canonicalArtifactParent (.inr hparent.symm)
    intro canonicalParent g₄ htail₄
    rw [wp_bind, wp_ensure]
    refine ⟨fun _ => ?_, fun _ => ⟨rfl, rfl⟩⟩
    rw [wp_bind]
    intro removed _
    refine ⟨trivial, ?_⟩
    have htail₅ := tail_next phase (.removeDirAll phase.artifactDirectory)
      trivial g₄ removed
    show wp (signContract parsers phase)
      (ensure removed.isOk PipelineError.cleanupIncomplete >>= _) _ _ s _
    rw [wp_bind, wp_ensure]
    refine ⟨fun _ => ?_, fun _ => ⟨rfl, rfl⟩⟩
    rw [wp_bind]
    apply wp_pathExists
    -- the removal counts only when nothing is found afterwards
    intro remains g₆ htail₆ hgone
    rw [wp_ensure]
    refine ⟨fun hremains => ?_, fun _ => ⟨rfl, rfl⟩⟩
    have htail := htail₁.trans (htail₂.trans (htail₃.trans (htail₄.trans (htail₅.trans htail₆))))
    exact ⟨rfl, htail, hgone rfl (Bool.not_eq_true' _ ▸ hremains)⟩

/-- How the phase may end once it has a workspace: cleanly, or with an incomplete cleanup. -/
def Ends (closed : Bool) (e : PipelineError) (g : SignView) : Prop :=
  e ≠ .cleanupIncomplete → closed = true ∧ g.IsClean true

variable {Q : α → ProtectedWorkspace → SignView → Prop}

/-- A failure takes the artifacts with it. -/
theorem wp_failAfterArtifacts {error : PipelineError} {s : ProtectedWorkspace}
    (h : error ≠ .cleanupIncomplete → s.temporary = false ∧ Private g) :
    wp (signContract parsers phase) (failAfterArtifacts phase error) Q
      (fun e s' g' => Ends (!s'.temporary) e g') s g := by
  rw [failAfterArtifacts, wp_bind]
  apply wp_mono wp_cleanupArtifactDirectory
  · intro _ s₁ g₁ h₁ herror
    obtain ⟨hclosed, hprivate⟩ := h herror
    refine ⟨?_, (hprivate.tail h₁.2.1).isClean fun _ => h₁.2.2⟩
    rw [h₁.1, hclosed]
    rfl
  · exact fun e _ _ h₁ hincomplete => absurd h₁.2 hincomplete

/-- A result, or such a failure. -/
theorem wp_orFailAfterArtifacts {out : Except PipelineError α} {s : ProtectedWorkspace}
    (hclosed : s.temporary = false)
    (h : Private g) (hQ : ∀ a, out = .ok a → Q a s g) :
    wp (signContract parsers phase) (orFailAfterArtifacts phase out) Q
      (fun e s' g' => Ends (!s'.temporary) e g') s g := by
  cases out with
  | ok a => exact hQ a rfl
  | error e => exact wp_failAfterArtifacts fun _ => ⟨hclosed, h⟩

/-- The publication touches nothing private. -/
theorem wp_publishOutput {operation : ProtectedOperationOutput}
    {cleanup : ProtectedCleanupEvidence} {s : ProtectedWorkspace}
    (hclosed : s.temporary = false) (h : Private g) :
    wp (signContract parsers phase) (publishOutput phase operation cleanup)
      (fun _ s' g' => s'.temporary = false ∧ g'.IsClean false)
      (fun e s' g' => Ends (!s'.temporary) e g') s g := by
  rw [publishOutput, wp_bind]
  intro report _
  refine ⟨trivial, ?_⟩
  show wp (signContract parsers phase) _ _ _ s g
  rw [wp_bind]
  apply wp_orFailAfterArtifacts hclosed h
  intro report _
  rw [wp_bind]
  intro published _
  refine ⟨trivial, ?_⟩
  have h₁ : Private { g with artifactsPresent := true } := ⟨h.workspace, h.files, h.settled⟩
  show wp (signContract parsers phase) _ _ _ s { g with artifactsPresent := true }
  rw [wp_bind]
  apply wp_orFailAfterArtifacts hclosed h₁
  intro published _
  rw [wp_bind]
  intro manifest _
  refine ⟨trivial, ?_⟩
  show wp (signContract parsers phase) _ _ _ s { g with artifactsPresent := true }
  rw [wp_bind]
  apply wp_orFailAfterArtifacts hclosed h₁
  intro manifest _
  exact ⟨hclosed, h₁.isClean fun hfailed => (by cases hfailed)⟩

/-- The keychain that is held is cleaned up, and the search list is the captured one unless that
failed. -/
theorem wp_cleanupKeychain {incomplete : Prop} {keychain : Option EphemeralSigningKeychain}
    {s : ProtectedWorkspace} (h : Held root identity incomplete keychain g) :
    wp (signContract parsers phase) (cleanupKeychain keychain)
      (fun out s' g' => s' = s ∧ Bound root identity g' ∧
        (out.1 = false → ¬incomplete ∨ keychain.isSome = true → Settled g'))
      (fun _ _ _ => False) s g := by
  cases keychain with
  | none =>
    refine ⟨rfl, h.1, ?_⟩
    rintro - (hcomplete | hsome)
    · exact h.2 hcomplete
    · cases hsome
  | some imported =>
    rw [cleanupKeychain, wp_bind, wp_attempt]
    apply wp_mono (wp_cleanupImported h.toHolds)
    · exact fun _ s' g' hend => ⟨hend.1, hend.2.1.1, fun _ _ => hend.2.1.2⟩
    · intro e s' g' hend
      refine ⟨hend.1, hend.2, ?_⟩
      intro hfailed
      cases hfailed

/-- What follows the operation: everything private is removed, or the error says that it is not. -/
theorem wp_finish {operation : Except PipelineError ProtectedOperationOutput}
    (keychain : Option EphemeralSigningKeychain) (incomplete : Prop)
    (htemporary : workspace.temporary = true)
    (h : Held workspace.root workspace.identity incomplete keychain g)
    (herror : incomplete → operation = .error .cleanupIncomplete) :
    wp (signContract parsers phase) (finish phase operation keychain)
      (fun _ s' g' => s'.temporary = false ∧ g'.IsClean false)
      (fun e s' g' => Ends (!s'.temporary) e g') workspace g := by
  rw [finish, wp_bind]
  apply wp_mono (wp_cleanupKeychain h)
  · intro out s₁ g₁ h₁
    obtain ⟨hs₁, hbound, hsettled⟩ := h₁
    obtain ⟨keychainFailed, keychainCleanup⟩ := out
    rw [hs₁]
    show wp (signContract parsers phase) (attempt ProtectedWorkspace.cleanup >>= _) _ _ _ _
    rw [wp_bind, wp_attempt]
    apply wp_mono (wp_cleanupWorkspace hbound.bound hbound.handle htemporary hbound.files)
    · -- the workspace is gone
      intro _ s₂ g₂ h₂
      obtain ⟨hclosed, hgone⟩ := h₂
      cases keychainFailed with
      | true => exact wp_failAfterArtifacts fun hincomplete => absurd rfl hincomplete
      | false =>
        show wp (signContract parsers phase) (orFailAfterArtifacts phase operation >>= _) _ _ s₂ g₂
        by_cases hcomplete : incomplete
        · -- an incomplete cleanup was reported by the operation
          rw [herror hcomplete, wp_bind]
          exact wp_failAfterArtifacts fun hincomplete => absurd rfl hincomplete
        · have hprivate := hgone.isPrivate (hsettled rfl (.inl hcomplete))
          rw [wp_bind]
          apply wp_orFailAfterArtifacts hclosed hprivate
          intro output _
          rw [wp_bind]
          apply wp_orFailAfterArtifacts hclosed hprivate
          intro confirmation _
          dsimp only
          split
          · exact wp_publishOutput hclosed hprivate
          · exact wp_failAfterArtifacts fun hincomplete => absurd rfl hincomplete
    · -- it may still be there: the cleanup is incomplete
      intro e s₂ g₂ _
      show wp (signContract parsers phase)
        (if (keychainFailed || !(Except.error e : Except PipelineError Unit).isOk) = true then _
          else _) _ _ s₂ g₂
      have hcondition : (keychainFailed || !(Except.error e : Except PipelineError Unit).isOk) =
          true := Bool.or_true _
      rw [if_pos hcondition]
      exact wp_failAfterArtifacts fun hincomplete => absurd rfl hincomplete
  · exact fun _ _ _ hfalse => hfalse.elim

/-- The phase in its workspace, up to the end of the workspace's scope. -/
theorem wp_signInWorkspace (h : Starting workspace g) (htemporary : workspace.temporary = true) :
    wp (signContract parsers phase) (signInWorkspace parsers phase certificate)
      (fun _ s' g' => s'.temporary = false ∧ g'.IsClean false)
      (fun e s' g' => Ends (!s'.temporary) e g' ∨
        (s' = workspace ∧ Starting workspace g' ∧ g'.intact = false)) workspace g := by
  rw [signInWorkspace, wp_bind, wp_attempt]
  apply wp_mono (wp_setUp h)
  · -- the operation, and what follows it
    intro directories s₁ g₁ h₁
    obtain ⟨hs₁, hinside, hfresh⟩ := h₁
    rw [hs₁]
    show wp (signContract parsers phase)
      (runOn none (operate parsers phase directories certificate) >>= _) _ _ workspace g₁
    rw [wp_bind, wp_runOn]
    apply wp_mono (wp_operate hfresh hinside)
    · intro output keychain g₂ h₂
      obtain ⟨imported, hkeychain, himported⟩ := h₂
      rw [hkeychain]
      apply wp_mono (wp_finish (some imported) False htemporary himported fun hfalse => hfalse.elim)
      · exact fun _ _ _ hend => hend
      · exact fun _ _ _ hend => .inl hend
    · intro e keychain g₂ h₂
      have hreported : e = .cleanupIncomplete →
          (.error e : Except PipelineError ProtectedOperationOutput) =
            .error .cleanupIncomplete := by
        intro he
        rw [he]
      apply wp_mono (wp_finish keychain _ htemporary h₂ hreported)
      · exact fun _ _ _ hend => hend
      · exact fun _ _ _ hend => .inl hend
  · -- the set-up failed: the workspace is cleaned up
    intro e s₁ g₁ h₁
    obtain ⟨hs₁, hstarting⟩ := h₁
    rw [hs₁]
    show wp (signContract parsers phase) (ProtectedWorkspace.cleanup >>= fun _ => fail e) _ _
      workspace g₁
    have hfiles : ∀ file ∈ g₁.signingFiles, workspace.root <+: file := by
      rw [hstarting.files]
      exact fun _ hfile => absurd hfile List.not_mem_nil
    rw [wp_bind]
    apply wp_mono (wp_cleanupWorkspace hstarting.bound hstarting.handle htemporary hfiles)
    · intro _ s₂ g₂ h₂
      obtain ⟨hclosed, hgone⟩ := h₂
      refine .inl fun _ => ⟨by rw [hclosed]; rfl, ?_⟩
      exact (hgone.isPrivate hstarting.isSettled).isClean fun _ =>
        hgone.artifacts hstarting.artifacts
    · intro e' s₂ g₂ h₂
      rcases h₂ with hincomplete | hunbound
      · exact .inl fun hcomplete => absurd hincomplete.1 hcomplete
      · rw [hunbound.2]
        exact .inr ⟨hunbound.1, hstarting.setIntact, rfl⟩

/-! ## The phase -/

/-- There is no workspace yet. -/
structure Before (g : SignView) : Prop where
  root : g.root = none
  identity : g.identity = none
  ready : g.ready = false
  files : g.signingFiles = []
  captured : g.captured = none
  activated : g.activated = false

/-- The operation only looks at the file system, or is a step that runs no tools. -/
def IsPrelude : SignOp → Prop
  | .metadata _ | .symlinkMetadata _ | .canonicalize _ => True
  | .step .validateRequest | .step (.inspectSealedArchive _) | .step .discoverToolchain
  | .step .unixTimeNow => True
  | _ => False

/-- The prelude creates nothing but the artifact directory. -/
theorem Before.next (phase : ProtectedSignPhaseRequest) (op : SignOp) (hop : IsPrelude op)
    (h : Before g) (r : SignRes op) : Before (g.next phase op r) ∧
      (g.artifactsPresent = false → (g.next phase op r).artifactsPresent = false) := by
  cases op with
  | metadata _ =>
    simp only [SignView.next]
    split
    · exact ⟨⟨h.root, h.identity, h.ready, h.files, h.captured, h.activated⟩, fun _ => rfl⟩
    · exact ⟨h, id⟩
  | symlinkMetadata path =>
    simp only [SignView.next, h.root, if_neg (Option.some_ne_none path).symm]
    exact ⟨h, id⟩
  | canonicalize _ =>
    refine ⟨⟨h.root, h.identity, ?_, h.files, h.captured, h.activated⟩, id⟩
    simp [SignView.next, h.root, h.ready]
  | step step =>
    cases step with
    | validateRequest => exact ⟨h, id⟩
    | inspectSealedArchive _ => exact ⟨h, id⟩
    | discoverToolchain => exact ⟨h, id⟩
    | unixTimeNow => exact ⟨h, id⟩
    | _ => exact hop.elim
  | _ => exact hop.elim

/-- No workspace yet, and no artifacts either when `known`. -/
def Prelude (known : Prop) (g : SignView) : Prop :=
  Before g ∧ (known → g.artifactsPresent = false)

variable {known : Prop}

theorem keeps_preludeCall {op : SignOp} (hop : IsPrelude op) :
    Keeps (signContract parsers phase) (fun (_ : σ) g => Prelude known g)
      (call op : ProgM SignOp SignRes σ ε (SignRes op)) := by
  apply keeps_perform
  intro s g r h _
  have hnext := h.1.next phase op hop r
  exact ⟨trivial, hnext.1, fun hknown => hnext.2 (h.2 hknown)⟩

/-- A step of the prelude. -/
theorem keeps_preludeStep {h : step.Answer = Except PipelineError α}
    (hop : IsPrelude (.step step)) :
    Keeps (signContract parsers phase) (fun (_ : σ) g => Prelude known g)
      (phaseStep step h : PhaseM σ α) :=
  keeps_bind (keeps_preludeCall hop) fun _ => keeps_ofExcept

theorem keeps_canonicalRealDirectory :
    Keeps (signContract parsers phase) (fun (_ : σ) g => Prelude known g)
      (canonicalRealDirectory path) := by
  apply keeps_bind
  · exact keeps_preludeCall trivial
  intro answer
  apply keeps_bind keeps_ofExcept
  intro info
  apply keeps_bind keeps_ensure
  intro _
  apply keeps_bind
  · exact keeps_preludeCall trivial
  · exact fun _ => keeps_ofExcept

/-- A request that is accepted names an artifact directory that is not there. -/
theorem wp_validateProtectedRequest (h : Before g) :
    wp (signContract parsers phase) (validateProtectedRequest phase)
      (fun _ _ g' => Prelude True g') (fun _ _ g' => Before g') s g := by
  have hfail : ∀ {known : Prop} (e : PipelineError) (s' : σ) g', Prelude known g' → Before g' :=
    fun _ _ _ h => h.1
  rw [validateProtectedRequest]
  have hstart : Prelude False g := ⟨h, fun hfalse => hfalse.elim⟩
  apply (keeps_preludeStep (by trivial)).wp_bind hstart _ hfail
  intro _ s₁ g₁ h₁
  rw [wp_bind, pathExists, wp_bind]
  intro answer hanswer
  have hnext := h₁.1.next phase (.metadata phase.artifactDirectory) trivial answer
  refine ⟨trivial, ?_⟩
  show wp (signContract parsers phase)
    (ensure (!answer.isOk) PipelineError.unsafePath >>= _) _ _ s₁
    (g₁.next phase (.metadata phase.artifactDirectory) answer)
  rw [wp_bind, wp_ensure]
  refine ⟨fun habsent => ?_, fun _ => hnext.1⟩
  -- the artifact directory is not there
  have hartifacts : (g₁.next phase (.metadata phase.artifactDirectory) answer).artifactsPresent =
      false := by
    rcases hanswer.2 rfl with hok | hnotFound
    · rw [hok] at habsent
      cases habsent
    · simp [SignView.next, hnotFound]
  have h₂ : Prelude True (g₁.next phase (.metadata phase.artifactDirectory) answer) :=
    ⟨hnext.1, fun _ => hartifacts⟩
  apply keeps_canonicalRealDirectory.wp_bind h₂ _ hfail
  intro workerRoot s₃ g₃ h₃
  apply keeps_canonicalRealDirectory.wp_bind h₃ _ hfail
  intro jobRoot s₄ g₄ h₄
  rw [wp_bind, wp_ofOption]
  refine ⟨fun artifactParent _ => ?_, fun _ => h₄.1⟩
  rw [wp_bind, wp_ensure]
  refine ⟨fun _ => ?_, fun _ => h₄.1⟩
  apply keeps_canonicalRealDirectory.wp_bind h₄ _ hfail
  intro canonicalParent s₅ g₅ h₅
  rw [wp_bind, wp_ensure]
  refine ⟨fun _ => ?_, fun _ => h₅.1⟩
  apply (keeps_preludeStep (by trivial)).wp_bind h₅ _ hfail
  intro _ s₆ g₆ h₆
  rw [wp_ensure]
  exact ⟨fun _ => h₆, fun _ => h₆.1⟩

/-- The workspace is bound, or it is not there. -/
theorem wp_createWorkspace (h : Prelude True g) :
    wp (signContract parsers phase) (ProtectedWorkspace.create phase.jobRoot)
      (fun workspace _ g' => Starting workspace g' ∧ workspace.temporary = true)
      (fun _ _ g' => g'.identity = none) s g := by
  rw [ProtectedWorkspace.create]
  apply keeps_canonicalRealDirectory.wp_bind h
  · intro jobRoot s₁ g₁ h₁
    rw [wp_bind]
    intro answer _
    refine ⟨trivial, ?_⟩
    rcases answer with kind | path
    · exact h₁.1.identity
    have hnext : g₁.next phase (.createTempDir jobRoot) (.ok path) =
        { g₁ with root := some path, workspacePresent := true } := rfl
    show wp (signContract parsers phase) (call (.openHandle path) >>= _) _ _ s₁
      (g₁.next phase (.createTempDir jobRoot) (.ok path))
    rw [hnext, wp_bind]
    intro handle _
    refine ⟨trivial, ?_⟩
    rcases handle with kind | identity
    · -- the directory cannot be bound: it is removed as it is dropped
      have hunbound : ({ g₁ with root := some path, workspacePresent := true } : SignView).next
          phase (.openHandle path) (.error kind) =
          { g₁ with root := some path, workspacePresent := true, intact := false } := by
        simp [SignView.next, h₁.1.identity]
      show wp (signContract parsers phase) (call (.closeTempDir path) >>= _) _ _ s₁
        (({ g₁ with root := some path, workspacePresent := true } : SignView).next phase
          (.openHandle path) (.error kind))
      rw [hunbound, wp_bind]
      intro closed _
      refine ⟨trivial, ?_⟩
      rcases closed with kind | _
      · exact h₁.1.identity
      · show (({ g₁ with root := some path, workspacePresent := true, intact := false } :
          SignView).next phase (.closeTempDir path) (.ok ())).identity = none
        simp [SignView.next, h₁.1.identity]
    · have hbound : ({ g₁ with root := some path, workspacePresent := true } : SignView).next
          phase (.openHandle path) (.ok identity) =
          { g₁ with
            root := some path
            workspacePresent := true
            identity := some identity
            intact := true } := by
        simp [SignView.next, h₁.1.identity]
      show Starting ⟨path, identity, true⟩ _ ∧ true = true
      refine ⟨?_, rfl⟩
      show Starting ⟨path, identity, true⟩
        (({ g₁ with root := some path, workspacePresent := true } : SignView).next phase
          (.openHandle path) (.ok identity))
      rw [hbound]
      exact ⟨rfl, rfl, h₁.1.ready, h₁.1.files, h₁.1.captured, h₁.1.activated, h₁.2 trivial⟩
  · exact fun _ _ _ h₁ => h₁.1.identity

/-- When the scope of the workspace ends, nothing is left, or the error says so. -/
theorem wp_dropWorkspace {e : PipelineError} {s' : ProtectedWorkspace}
    (htemporary : workspace.temporary = true)
    (h : Ends (!s'.temporary) e g ∨ (s' = workspace ∧ Starting workspace g ∧ g.intact = false)) :
    wp (signContract parsers phase) (s'.drop : PhaseM σ Unit)
      (fun _ _ g' => e ≠ .cleanupIncomplete → g'.IsClean true) E s g := by
  rw [ProtectedWorkspace.drop]
  rcases h with hends | hunbound
  · cases htemporary : s'.temporary with
    | false => exact fun hcomplete => (hends hcomplete).2
    | true =>
      rw [if_pos rfl, wp_bind]
      intro closed _
      refine ⟨trivial, fun hcomplete => ?_⟩
      have hclosed := (hends hcomplete).1
      rw [htemporary] at hclosed
      cases hclosed
  · obtain ⟨hs', hstarting, hintact⟩ := hunbound
    rw [hs', if_pos htemporary, wp_bind]
    intro closed hanswer
    refine ⟨trivial, fun _ => ?_⟩
    have hok := hanswer.2 hstarting.bound hintact hstarting.unready
    rcases closed with kind | _
    · cases hok
    have hfiles : ∀ file ∈ g.signingFiles, workspace.root <+: file := by
      rw [hstarting.files]
      exact fun _ hfile => absurd hfile List.not_mem_nil
    have hgone := closed_of_close phase hstarting.bound hfiles
    exact (hgone.isPrivate hstarting.isSettled).isClean fun _ => hgone.artifacts hstarting.artifacts

/-- The whole phase: once the workspace is bound, a result without `CleanupIncomplete` means that
nothing is left. -/
theorem wp_signProtectedPhase (h : Before g) :
    wp (signContract parsers phase) (signProtectedPhase parsers phase)
      (fun _ _ g' => g'.IsClean false)
      (fun e _ g' => g'.identity.isSome = true → e ≠ .cleanupIncomplete → g'.IsClean true) () g := by
  -- before the workspace exists there is no identity to clean up
  have hunbound : ∀ {P : Prop} {g' : SignView}, g'.identity = none → g'.identity.isSome = true →
      P := by
    intro P g' hnone hsome
    rw [hnone] at hsome
    cases hsome
  rw [signProtectedPhase, wp_bind]
  apply wp_mono (wp_validateProtectedRequest h)
  · intro _ s₁ g₁ h₁
    apply (keeps_preludeStep (by trivial)).wp_bind h₁
    · intro developerDirectory s₂ g₂ h₂
      rw [wp_bind, wp_ofExcept]
      refine ⟨fun certificate _ => ?_, fun _ _ => hunbound h₂.1.identity⟩
      apply (keeps_preludeStep (by trivial)).wp_bind h₂
      · intro now s₃ g₃ h₃
        rw [wp_bind]
        apply wp_mono (wp_createWorkspace h₃)
        · intro workspace s₄ g₄ h₄
          obtain ⟨hstarting, htemporary⟩ := h₄
          rw [wp_bind, wp_runOn]
          apply wp_mono (wp_signInWorkspace hstarting htemporary)
          · intro output s₅ g₅ h₅
            show wp (signContract parsers phase)
              (s₅.drop >>= fun _ => ofExcept (Except.ok output)) _ _ s₄ g₅
            rw [wp_bind, ProtectedWorkspace.drop, h₅.1, if_neg Bool.false_ne_true]
            exact h₅.2
          · -- the destructor runs here and its answer is dropped
            intro e s₅ g₅ h₅
            show wp (signContract parsers phase)
              (s₅.drop >>= fun _ => ofExcept (Except.error e)) _ _ s₄ g₅
            rw [wp_bind]
            apply wp_mono (wp_dropWorkspace (E := fun _ _ _ => False) htemporary h₅)
            · exact fun _ _ _ hend _ hcomplete => hend hcomplete
            · exact fun _ _ _ hfalse => hfalse.elim
        · exact fun _ _ _ h₄ => hunbound h₄
      · exact fun _ _ _ h₃ => hunbound h₃.1.identity
    · exact fun _ _ _ h₂ => hunbound h₂.1.identity
  · exact fun _ _ _ h₁ => hunbound h₁.identity

end

/-- The view after a run. -/
def viewAfter (phase : ProtectedSignPhaseRequest) (searchList : List Path)
    (artifactsPresent : Bool) (history : History SignOp SignRes) : SignView :=
  (answeredAs phase fun _ _ _ => True).view (SignView.start searchList artifactsPresent) history

theorem view_answeredAs {phase : ProtectedSignPhaseRequest}
    {P : SignView → (op : SignOp) → SignRes op → Prop} {g : SignView}
    (history : History SignOp SignRes) :
    (answeredAs phase P).view g history = (answeredAs phase fun _ _ _ => True).view g history := by
  induction history with
  | nil => rfl
  | cons e history ih => rw [Contract.view, Contract.view, ih]; rfl

/-- In every run of the phase that has a workspace, that is answered as documented, and in which no
failure is lost: when the phase returns without `CleanupIncomplete`, the workspace and the signing
files are gone, the search list is the captured one, and after a failure the artifacts are gone. -/
theorem signProtectedPhase_clean (parsers : OutputParsers) (phase : ProtectedSignPhaseRequest)
    (searchList : List Path) (artifactsPresent : Bool) (history : History SignOp SignRes)
    (out : Except PipelineError ProtectedSignPhaseOutput)
    (hruns : Prog.Runs (signProtectedPhase parsers phase ()) history (.ret (out, ())))
    (hdocumented : (answeredAs phase fun g => g.Documented parsers).Assumed
      (SignView.start searchList artifactsPresent) history)
    (hmeets : (answeredAs phase fun g => g.Meets phase).Assumed
      (SignView.start searchList artifactsPresent) history)
    (hbound : (viewAfter phase searchList artifactsPresent history).identity.isSome = true)
    (hout : ∀ e, out = .error e → e ≠ .cleanupIncomplete) :
    (viewAfter phase searchList artifactsPresent history).IsClean (!out.isOk) := by
  have hbefore : Before (SignView.start searchList artifactsPresent) :=
    ⟨rfl, rfl, rfl, rfl, rfl, rfl⟩
  have hassumed := Contract.Assumed.and (by rfl) hdocumented hmeets
  have hend := (Prog.wp_of_runs (wp_signProtectedPhase hbefore) hruns hassumed).2
  rw [view_answeredAs] at hend
  cases out with
  | ok output => exact hend
  | error e => exact hend hbound (hout e rfl)

/-! ## A keychain that cannot be created -/

namespace Sample

def reference : SecretReference := ⟨.worker, "key", .refl true⟩

def signing : SigningPlan where
  mode := .manualDevelopment
  signing := some {
    identity := {
      certificate := {
        commonName := "Dev"
        sha256Fingerprint := ""
        team := ⟨"ABCDE12345", none, .refl true⟩
        expiresAtUnixSeconds := 0 }
      privateKey := ⟨reference⟩ }
    password := some reference }
  team := none
  device := none
  targets := []
  provisioning := []
  entitlements := []
  allowProvisioningUpdates := false

def phase : ProtectedSignPhaseRequest where
  signing := signing
  archiveInspection := .null
  sealedArchive := .null
  sealedArchivePath := ["worker", "job", "sealed.zip"]
  jobRoot := ["worker", "job"]
  workerRoot := ["worker"]
  artifactDirectory := ["worker", "job", "artifacts"]
  commandTimeout := minCommandTimeout

def searchList : List Path := [["login.keychain-db"]]

def token : String := "0123456789abcdef0123456789abcdef"

def parsers : OutputParsers where
  sha256 _ := []
  uppercaseHex _ := ""
  parseHexOutput _ _ := .ok token
  parseCertificateSubject _ := .ok ("Dev", "ABCDE12345")
  parseCertificateExpiration _ := .ok 0
  parseSearchList _ := .ok searchList
  validateKeychainIdentityListing _ _ := .ok ()

/-- The file names of the keychain, and of the lock. -/
def isSigningFile (path : Path) : Bool :=
  path.getLast?.any fun name => searchListLock == name || cleanupEntryIsAllowlisted name

def info (fileType : FileType) : FileInfo := ⟨fileType, 1, 0o700, (0, 0)⟩

/-- The keychain cannot be created, although the tool has put it on the search list; everything
else succeeds, except the restoration of the search list and the deletion unless `restores`. -/
def answerCommand (restores : Bool) (g : SignView) :
    (command : Command) → SignRes (.run command)
  | .querySearchList =>
    if g.searchList = searchList ∧ g.root.all (fun root => !root.isPrefixOf ["login.keychain-db"])
    then ⟨.ok [], g.searchList⟩ else ⟨.error .timedOut, g.searchList⟩
  | .setSearchList paths =>
    if restores then ⟨.ok [], paths⟩ else ⟨.error .timedOut, g.searchList⟩
  | .createKeychain keychain _ => ⟨.error .timedOut, keychain :: g.searchList⟩
  | .deleteKeychain keychain =>
    if restores then ⟨.ok [], g.searchList.filter (· != keychain)⟩
    else ⟨.error .timedOut, g.searchList⟩
  | .digestSha1 _ => ⟨.ok (List.replicate 20 0), g.searchList⟩
  | .extractDer _ => ⟨.ok [1], g.searchList⟩
  | _ => ⟨.ok [], g.searchList⟩

def answerStep (g : SignView) : (step : PhaseStep) → step.Answer
  | .validateRequest | .inspectSealedArchive _ => .ok ()
  | .discoverToolchain => .ok ["Developer"]
  | .unixTimeNow => .ok 0
  | .unseal .. => some ⟨.null, .null⟩
  | .resolveSecret _ => some [65]
  | .prepareProvisioning .. | .exportIpa .. | .createProducts .. => ⟨none, g.searchList⟩
  | .normalizeIpaPath .. | .publish .. | .buildManifest .. => .error .artifactPathRejected
  | .validateIpa .. => ⟨.error .signedArtifactRejected, g.searchList⟩
  | .encodeReport .. => none

def answer (restores : Bool) (g : SignView) : (op : SignOp) → SignRes op
  | .metadata _ => .error .notFound
  | .symlinkMetadata path =>
    if path ∈ g.signingFiles ∧ isSigningFile path then .ok (info .file)
    else if isSigningFile path then .error .notFound
    else .ok (info .directory)
  | .canonicalize path => .ok path
  | .openHandle _ => .ok (0, 0)
  | .createTempDir parent => .ok (parent ++ ["private"])
  | .readDir _ => .ok []
  | .lockExclusive _ => .ok true
  | .run command => answerCommand restores g command
  | .step step => answerStep g step
  | .createDir _ | .closeTempDir _ | .setPermissions _ | .createNew _ | .openOrCreate _
  | .writeAll .. | .syncAll _ | .removeFile _ | .removeDir _ | .removeDirAll _ => .ok ()

theorem answer_documented (restores : Bool) (g : SignView) (op : SignOp) :
    g.Documented parsers op (answer restores g op) := by
  cases op with
  | canonicalize path => exact fun root _ h => h
  | run command =>
    cases command with
    | querySearchList =>
      simp only [answer, answerCommand]
      split
      · rename_i h
        exact ⟨rfl, fun output _ paths hpaths => by cases hpaths; exact h.1.symm⟩
      · exact ⟨rfl, fun output houtput => by cases houtput⟩
    | setSearchList paths =>
      cases restores
      · exact fun h => by cases h
      · exact fun _ => rfl
    | deleteKeychain path =>
      cases restores
      · exact .inl rfl
      · exact .inr rfl
    | _ => trivial
  | _ => trivial

theorem isSigningFile_phase {path : Path} (hpath : path = phase.artifactDirectory ∨
    SignView.isArtifactParent phase path) : isSigningFile path = false := by
  rcases hpath with rfl | rfl | hparent
  · decide
  · decide
  · cases hparent
    decide

theorem answer_meets (g : SignView) (op : SignOp) : g.Meets phase op (answer true g op) := by
  cases op with
  | metadata path => exact fun _ => .inr rfl
  | symlinkMetadata path =>
    have hdirectory : path = phase.artifactDirectory ∨ SignView.isArtifactParent phase path →
        answer true g (.symlinkMetadata path) = .ok (info .directory) := by
      intro hpath
      simp [answer, isSigningFile_phase hpath]
    constructor
    · intro hpath
      rw [hdirectory (.inl hpath)]
      rfl
    · exact fun hpath => ⟨info .directory, hdirectory (.inr hpath), rfl⟩
  | canonicalize path => exact fun _ => rfl
  | closeTempDir path => exact fun _ _ _ => rfl
  | run command =>
    cases command with
    | querySearchList =>
      simp only [answer, answerCommand]
      split
      · rename_i h
        intro _ root hroot path hpath
        rw [h.1] at hpath
        have houtside := h.2
        rw [hroot, Option.all_some, Bool.not_eq_true', ← Bool.not_eq_true,
          List.isPrefixOf_iff_prefix] at houtside
        rw [List.mem_singleton.mp hpath]
        exact houtside
      · exact fun h => by cases h
    | setSearchList paths => exact fun _ _ => rfl
    | _ => trivial
  | _ => trivial

/-- The run in which the search list is, or is not, restored. -/
def run (restores : Bool) : (Except PipelineError ProtectedSignPhaseOutput × Unit) × SignView :=
  Prog.exec (answeredAs phase fun _ _ _ => True) (answer restores)
    (signProtectedPhase parsers phase ()) (SignView.start searchList true)

def isRejected : Except PipelineError ProtectedSignPhaseOutput → Bool
  | .error .signingIdentityRejected => true
  | _ => false

theorem eq_of_isRejected {out : Except PipelineError ProtectedSignPhaseOutput × Unit}
    (h : isRejected out.1 = true) : out = (.error .signingIdentityRejected, ()) := by
  obtain ⟨out, _⟩ := out
  unfold isRejected at h
  split at h
  · rename_i hout
    rw [show out = _ from hout]
  · cases h

/-- The keychain could not be created, and it was dropped: the identity is said to be rejected. -/
theorem run_rejected (restores : Bool) : isRejected (run restores).1.1 = true ∧
    (run restores).2.identity.isSome = true ∧ (run restores).2.captured = some searchList ∧
    ((run restores).2.searchList = searchList → restores = true) := by
  have hruns : ∀ restores, isRejected (run restores).1.1 = true ∧
      (run restores).2.identity.isSome = true ∧ (run restores).2.captured = some searchList ∧
      ((run restores).2.searchList = searchList → restores = true) := by
    decide +kernel
  exact hruns restores

/-- The run, with what is assumed of its answers. -/
theorem exists_run (restores : Bool) :
    ∃ history, Prog.Runs (signProtectedPhase parsers phase ()) history
        (.ret (run restores).1) ∧
      (∀ P : SignView → (op : SignOp) → SignRes op → Prop,
        (∀ g op, P g op (answer restores g op)) →
        (answeredAs phase P).Assumed (SignView.start searchList true) history) ∧
      viewAfter phase searchList true history = (run restores).2 := by
  obtain ⟨history, hruns, hassumed, hview⟩ := Prog.exists_runs_exec
    (C := answeredAs phase fun _ _ _ => True) (g := SignView.start searchList true)
    (answer restores) (Prog.Runs.start (p := signProtectedPhase parsers phase ()))
    (fun _ _ _ => trivial)
  exact ⟨history, hruns, fun P hP => hassumed (answeredAs phase P) rfl hP, hview⟩

/-- The restoration succeeds: nothing is left behind. -/
theorem signProtectedPhase_clean_restored :
    ∃ history, Prog.Runs (signProtectedPhase parsers phase ()) history
        (.ret (.error .signingIdentityRejected, ())) ∧
      (viewAfter phase searchList true history).IsClean true := by
  obtain ⟨history, hruns, hassumed, hview⟩ := exists_run true
  obtain ⟨hrejected, hbound, -⟩ := run_rejected true
  rw [eq_of_isRejected hrejected] at hruns
  have hclean := signProtectedPhase_clean parsers phase searchList true history _ hruns
    (hassumed _ (answer_documented true)) (hassumed _ answer_meets) (hview ▸ hbound)
    (fun e he => by cases he; decide)
  exact ⟨history, hruns, hclean⟩

/-- The restoration and the deletion fail, and the phase fails with another error than
`CleanupIncomplete`: the search list is not the captured one. -/
theorem lost_restoration :
    ∃ history, Prog.Runs (signProtectedPhase parsers phase ()) history
        (.ret (.error .signingIdentityRejected, ())) ∧
      (answeredAs phase fun g => g.Documented parsers).Assumed (SignView.start searchList true)
        history ∧
      (viewAfter phase searchList true history).identity.isSome = true ∧
      ¬(viewAfter phase searchList true history).IsClean true := by
  obtain ⟨history, hruns, hassumed, hview⟩ := exists_run false
  obtain ⟨hrejected, hbound, hcaptured, hlost⟩ := run_rejected false
  rw [eq_of_isRejected hrejected] at hruns
  refine ⟨history, hruns, hassumed _ (answer_documented false), hview ▸ hbound, ?_⟩
  intro hclean
  have hlist := hclean.searchList searchList (hview ▸ hcaptured)
  rw [hview] at hlist
  exact Bool.false_ne_true (hlost hlist)

end Sample

end Protected

end RustFerry.Worker
