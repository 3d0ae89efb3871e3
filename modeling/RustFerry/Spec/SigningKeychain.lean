import RustFerry.Native.SigningKeychain

/-!
# Rules for the cleanup of a signing keychain

The rules hold for every contract of the engine's operations: which operations are performed on the
files of a keychain, and that what the parts of a cleanup keep is kept by the cleanup.
-/

namespace RustFerry.Worker

namespace Protected

open ProgM

variable {op : SignOp}

section

variable {σ γ : Type} {C : Contract SignOp SignRes γ} {P : σ → γ → Prop}

/-! ## Combinators -/

theorem keeps_succeeds {α : Type} {x : EngineM σ α} (hx : Keeps C P x) : Keeps C P (succeeds x) :=
  keeps_bind (keeps_attempt hx) fun _ => keeps_pure

theorem keeps_orFalse {x : EngineM σ Bool} (hx : Keeps C P x) : Keeps C P (orFalse x) :=
  keeps_bind (keeps_attempt hx) fun _ => keeps_pure

theorem keeps_andThen {condition : Bool} {x : EngineM σ Bool} (hx : Keeps C P x) :
    Keeps C P (andThen condition x) := by
  cases condition
  · exact keeps_pure
  · exact hx

theorem keeps_orElse {condition : Bool} {x : EngineM σ Bool} (hx : Keeps C P x) :
    Keeps C P (orElse condition x) := by
  cases condition
  · exact hx
  · exact keeps_pure

theorem keeps_removeAndConfirm {intact : Bool} {remove : EngineM σ Unit} {path : Path}
    (hremove : Keeps C P remove) (habsent : Keeps C P (pathIsAbsent path)) :
    Keeps C P (removeAndConfirm intact remove path) := by
  apply keeps_bind
  · exact keeps_andThen (keeps_succeeds hremove)
  · exact fun _ => keeps_andThen (keeps_orFalse habsent)

end

/-! ## Files -/

/-- An operation on files and directories that creates files below `dir` only. -/
def IsFileOp (dir : Path) : SignOp → Prop
  | .metadata _ | .symlinkMetadata _ | .canonicalize _ | .setPermissions _ | .writeAll ..
  | .syncAll _ | .removeFile _ | .removeDir _ | .readDir _ => True
  | .createNew path => dir <+: path
  | _ => False

section Files

variable {σ α β : Type} {dir path : Path}

theorem performs_fileOp (hop : IsFileOp dir op) :
    Performs (IsFileOp dir) (call op : EngineM σ (SignRes op)) :=
  performs_perform hop

/-- An operation whose failure is the failure of the computation. -/
theorem performs_io (hop : IsFileOp dir op) {read : SignRes op → Except KeychainError β}
    {k : β → EngineM σ α} (hk : ∀ b, Performs (IsFileOp dir) (k b)) :
    Performs (IsFileOp dir) (call op >>= fun answer => ofExcept (read answer) >>= k) :=
  within_bind (performs_fileOp hop) fun _ => within_bind within_ofExcept hk

theorem performs_lastIo (hop : IsFileOp dir op) {read : SignRes op → Except KeychainError β} :
    Performs (IsFileOp dir) (call op >>= fun answer => (ofExcept (read answer) : EngineM σ β)) :=
  within_bind (performs_fileOp hop) fun _ => within_ofExcept

theorem performs_isRegularFile :
    Performs (IsFileOp dir) (isRegularFile path : EngineM σ Bool) := by
  apply within_bind
  · exact performs_fileOp trivial
  intro answer
  rcases answer with kind | info
  · cases kind
    · exact within_pure
    · exact within_fail
    · exact within_fail
  · exact within_pure

theorem performs_removeRegularFile :
    Performs (IsFileOp dir) (removeRegularFile path : EngineM σ Unit) := by
  apply within_bind
  · exact performs_fileOp trivial
  intro answer
  rcases answer with kind | info
  · cases kind
    · exact within_pure
    · exact within_fail
    · exact within_fail
  · apply within_bind within_ensure
    intro _
    exact performs_lastIo (by trivial)

theorem performs_pathIsAbsent :
    Performs (IsFileOp dir) (pathIsAbsent path : EngineM σ Bool) := by
  apply within_bind
  · exact performs_fileOp trivial
  intro answer
  rcases answer with kind | info
  · cases kind
    · exact within_pure
    · exact within_fail
    · exact within_fail
  · exact within_pure

theorem performs_directoryIdentity :
    Performs (IsFileOp dir) (directoryIdentity path : EngineM σ (Nat × Nat)) := by
  apply performs_io
  · exact trivial
  intro info
  exact within_bind within_ensure fun _ => within_pure

theorem performs_secureRegularFile :
    Performs (IsFileOp dir) (secureRegularFile path : EngineM σ Unit) := by
  apply performs_io
  · exact trivial
  intro info
  apply within_bind within_ensure
  intro _
  exact performs_lastIo (by trivial)

theorem performs_writePrivateFile {contents : List UInt8} (hpath : dir <+: path) :
    Performs (IsFileOp dir) (writePrivateFile path contents : EngineM σ Unit) := by
  apply performs_io
  · exact hpath
  intro _
  apply performs_io
  · exact trivial
  intro _
  apply performs_io
  · exact trivial
  intro _
  exact performs_lastIo (by trivial)

theorem performs_createPrivateFile (hpath : dir <+: path) :
    Performs (IsFileOp dir) (createPrivateFile path : EngineM σ Unit) := by
  apply performs_io
  · exact hpath
  intro _
  exact performs_lastIo (by trivial)

theorem performs_directoryContentsAreAllowlisted :
    Performs (IsFileOp dir) (directoryContentsAreAllowlisted path : EngineM σ Bool) := by
  apply performs_io
  · exact trivial
  intro entries
  -- the loop over the entries ends with the entries, or with the number that remains
  suffices h : ∀ remaining, Performs (IsFileOp dir)
      (entriesAreAllowlisted path remaining entries : EngineM σ Bool) from h 4
  induction entries with
  | nil =>
    intro remaining
    simp only [entriesAreAllowlisted]
    exact within_pure
  | cons entry rest ih =>
    intro remaining
    cases remaining with
    | zero => exact within_pure
    | succ remaining =>
      apply within_bind within_ofExcept
      intro name
      apply performs_io
      · exact trivial
      intro info
      split
      · exact ih remaining
      · exact within_pure

theorem performs_removeOwnedJobDirectory {root : Path} :
    Performs (IsFileOp dir) (removeOwnedJobDirectory root path : EngineM σ Unit) := by
  apply within_bind within_ofOption
  intro name
  apply within_bind within_ensure
  intro _
  apply within_bind
  · exact performs_fileOp trivial
  intro answer
  rcases answer with kind | info
  · cases kind
    · exact within_pure
    · exact within_fail
    · exact within_fail
  · apply within_bind within_ensure
    intro _
    exact performs_lastIo (by trivial)

theorem performs_writeOwnerMarker {jobDir marker : Path} (hmarker : dir <+: marker) :
    Performs (IsFileOp dir) (writeOwnerMarker jobDir marker : EngineM σ Unit) := by
  apply within_bind within_ofOption
  intro name
  exact performs_writePrivateFile hmarker

end Files

/-! ## The cleanup -/

variable {γ : Type} {C : Contract SignOp SignRes γ}

/-- The parts of a cleanup after the restoration keep a predicate. -/
structure KeepsCleanup (C : Contract SignOp SignRes γ) (P : PlatformKeychain → γ → Prop) :
    Prop where
  deleteKeychain : Keeps C P PlatformKeychain.deleteKeychain
  deleted : ∀ k g, P k g → P { k with keychainCreated := false } g
  files : ∀ {α : Type} {x : KeychainM α}, (∀ dir, Performs (IsFileOp dir) x) → Keeps C P x

namespace KeepsCleanup

variable {P : PlatformKeychain → γ → Prop}

/-- The check of the directory. -/
theorem jobDirectoryMatches (hP : KeepsCleanup C P) :
    Keeps C P PlatformKeychain.jobDirectoryMatches := by
  apply keeps_bind keeps_get
  intro self
  exact keeps_bind (hP.files fun _ => performs_directoryIdentity) fun _ => keeps_pure

/-- The removal of the keychain. -/
theorem removeKeychain (hP : KeepsCleanup C P) : Keeps C P PlatformKeychain.removeKeychain := by
  apply keeps_bind hP.deleteKeychain
  intro commandError
  apply keeps_bind
  · exact keeps_modify hP.deleted
  intro _
  apply keeps_bind keeps_get
  intro self
  apply keeps_bind
  · exact keeps_attempt (hP.files fun _ => performs_removeRegularFile)
  intro fileResult
  cases commandError
  · exact keeps_ofExcept
  · exact keeps_fail

/-- A removal that is confirmed. -/
theorem removeAndConfirm (hP : KeepsCleanup C P) {intact : Bool} {remove : KeychainM Unit} {path : Path}
    (hremove : Keeps C P remove) : Keeps C P (removeAndConfirm intact remove path) :=
  keeps_removeAndConfirm hremove (hP.files fun _ => performs_pathIsAbsent)

/-- What holds after the restoration, and is kept by the other parts, holds after the cleanup. -/
theorem wp_confirmCleanup {P : (restored : Bool) → PlatformKeychain → γ → Prop}
    {E : KeychainError → PlatformKeychain → γ → Prop} {k : PlatformKeychain} {g : γ}
    (hP : ∀ restored, KeepsCleanup C (P restored))
    (hrestore : wp C PlatformKeychain.restoreSearchList (fun _ => P true) (fun _ => P false) k g)
    (hE : ∀ restored e k g, P restored k g → E e k g) :
    wp C PlatformKeychain.confirmCleanup (fun confirmation => P confirmation.searchListRestored)
      E k g := by
  rw [PlatformKeychain.confirmCleanup, wp_bind, wp_get, wp_bind]
  -- the search list first
  apply wp_mono (Q := P) (E := fun _ _ _ => False)
  · rw [succeeds, wp_bind, wp_attempt]
    exact hrestore
  · -- then everything else, with the search list left alone
    intro restored k' g' h'
    have hfiles := hP restored
    have hrest := hE restored
    apply (keeps_orFalse hfiles.jobDirectoryMatches).wp_bind h' _ hrest
    intro intact k₁ g₁ h₁
    apply (hfiles.removeAndConfirm hfiles.removeKeychain).wp_bind h₁ _ hrest
    intro keychainRemoved k₂ g₂ h₂
    apply (hfiles.removeAndConfirm (hfiles.files fun _ => performs_removeRegularFile)).wp_bind h₂ _ hrest
    intro p12Removed k₃ g₃ h₃
    apply (hfiles.removeAndConfirm (hfiles.files fun _ => performs_removeRegularFile)).wp_bind h₃ _ hrest
    intro pemRemoved k₄ g₄ h₄
    apply (keeps_andThen (keeps_orFalse
      (hfiles.files fun _ => performs_directoryContentsAreAllowlisted))).wp_bind h₄ _ hrest
    intro recoverable k₅ g₅ h₅
    apply (hfiles.removeAndConfirm (hfiles.files fun _ => performs_removeRegularFile)).wp_bind h₅ _ hrest
    intro markerRemoved k₆ g₆ h₆
    apply (keeps_orFalse (hfiles.files fun _ => performs_pathIsAbsent)).wp_bind h₆ _ hrest
    intro absent k₇ g₇ h₇
    apply (keeps_orElse (hfiles.removeAndConfirm
      (hfiles.files fun _ => performs_removeOwnedJobDirectory))).wp_bind h₇ _ hrest
    exact fun _ _ _ h₈ => h₈
  · exact fun _ _ _ hfalse => hfalse.elim

end KeepsCleanup

end Protected

end RustFerry.Worker
