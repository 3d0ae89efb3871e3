import RustFerry.ForStd.ProgGuard
import RustFerry.Native.VerifiedCopy

/-!
# Verified copies are create-only

Between any two system calls of the copy others may place something at the destination. What the
copy relies on is that nobody else brings its own file back there: once the destination has stopped
naming the created file, it never names it again.
-/

namespace RustFerry.ArtifactStore

open Except ProgM Remote Github FileSystem

section

variable {E : ε → Removals → FileSystem → Prop} {fuel : Nat} {fs' : FileSystem} {temporary : Path}

/-! ## The contract -/

/-- What others have put somewhere stays there. At the destination it can be removed if it was
placed there since the program last looked. -/
def Respects (destination : Path) (call : FileCall) (before after : FileSystem) : Prop :=
  ∀ path node, before.entries path = some (.foreign node) →
    after.entries path = some (.foreign node) ∨
      (path = destination ∧ call = .removeFile destination ∧ node ∈ before.recent)

/-- The calls of a copy on a file system that others use as well. -/
def copyContract (destination : Path) : Contract FileCall FileAnswer FileSystem where
  next fs call answer := (fs.interfere destination answer.1).after destination call answer.2
  assume fs call answer := (fs.interfere destination answer.1).Answers call answer.2
  guarantee fs call answer :=
    Respects destination call (fs.interfere destination answer.1)
      ((fs.interfere destination answer.1).after destination call answer.2)

/-! ## What others change -/

/-- Nothing but the destination changes, and the created file does not come back there. -/
structure Drift (destination : Path) (fs fs' : FileSystem) : Prop where
  contents : fs'.contents = fs.contents
  others : ∀ path, path ≠ destination → fs'.entries path = fs.entries path
  here : fs'.entries destination = some .created → fs.entries destination = some .created

/-- And what is new at the destination was placed there since the last look. -/
structure Since (destination : Path) (fs fs' : FileSystem) : Prop extends
    Drift destination fs fs' where
  recent : ∀ node ∈ fs.recent, node ∈ fs'.recent
  placed : fs'.entries destination = fs.entries destination ∨
    fs'.entries destination = none ∨
    ∃ node ∈ fs'.recent, fs'.entries destination = some (.foreign node)

variable {destination : Path}

instance : Std.Refl (Drift destination) := ⟨fun _ => ⟨rfl, fun _ _ => rfl, id⟩⟩

variable {fs' : FileSystem}

theorem Drift.trans {fs fs'' : FileSystem} (h : Drift destination fs fs')
    (h' : Drift destination fs' fs'') : Drift destination fs fs'' where
  contents := h'.contents.trans h.contents
  others path hpath := (h'.others path hpath).trans (h.others path hpath)
  here hlast := h.here (h'.here hlast)

instance : IsTrans FileSystem (Drift destination) := ⟨fun _ _ _ => Drift.trans⟩

instance : Std.Refl (Since destination) :=
  ⟨fun fs => ⟨Std.Refl.refl fs, fun _ hnode => hnode, .inl rfl⟩⟩

theorem Since.trans {fs fs'' : FileSystem} (h : Since destination fs fs')
    (h' : Since destination fs' fs'') : Since destination fs fs'' where
  toDrift := h.toDrift.trans h'.toDrift
  recent node hnode := h'.recent node (h.recent node hnode)
  placed := by
    obtain hsame | hnone | hnew := h'.placed
    · rw [hsame]
      obtain hsame | hnone | ⟨node, hnode, hentry⟩ := h.placed
      · exact .inl hsame
      · exact .inr (.inl hnone)
      · exact .inr (.inr ⟨node, h'.recent node hnode, hentry⟩)
    · exact .inr (.inl hnone)
    · exact .inr (.inr hnew)

theorem interfere_since (fs : FileSystem) (interference : Interference) :
    Since destination fs (fs.interfere destination interference) := by
  cases interference with
  | nothing => exact Std.Refl.refl fs
  | removes =>
    refine ⟨⟨rfl, ?_, ?_⟩, fun _ hnode => hnode, .inr (.inl ?_)⟩
    · intro path hpath
      simp [interfere, hpath]
    · simp [interfere]
    · simp [interfere]
  | places node =>
    refine ⟨⟨rfl, ?_, ?_⟩, ?_, .inr (.inr ⟨node, ?_, ?_⟩)⟩
    · intro path hpath
      simp [interfere, hpath]
    · simp [interfere]
    · exact fun _ hold => List.mem_cons_of_mem _ hold
    · exact List.mem_cons_self
    · simp [interfere]

/-! ## Calls -/

/-- The call leaves every path and every byte alone. -/
def Quiet : FileCall → Prop
  | .createNew _ | .writeAll _ | .hardLink _ _ | .removeFile _ => False
  | _ => True

/-- The call is not a look at the destination. -/
def Blind (destination : Path) : FileCall → Prop
  | .symlinkMetadata path => path ≠ destination
  | _ => True

theorem after_drift (call : FileCall) (hcall : Quiet call) (fs : FileSystem)
    (value : FileValue call) : Drift destination fs (fs.after destination call value) := by
  cases call <;> first | exact hcall.elim | skip
  case symlinkMetadata path =>
    by_cases hpath : path = destination
    · simp only [FileSystem.after, hpath, if_true]
      exact ⟨rfl, fun _ _ => rfl, id⟩
    · simp only [FileSystem.after, hpath, if_false]
      exact Std.Refl.refl fs
  all_goals exact Std.Refl.refl fs

theorem after_entries (call : FileCall) (hcall : Quiet call) (fs : FileSystem)
    (value : FileValue call) : (fs.after destination call value).entries = fs.entries := by
  cases call <;> first | exact hcall.elim | skip
  case symlinkMetadata path =>
    simp only [FileSystem.after]
    split <;> rfl
  all_goals rfl

/-- Blind calls change nothing at all. -/
theorem after_blind (call : FileCall) (hcall : Quiet call) (hblind : Blind destination call)
    (fs : FileSystem) (value : FileValue call) : fs.after destination call value = fs := by
  cases call <;> first | exact hcall.elim | skip
  case symlinkMetadata path => simp only [FileSystem.after, if_neg hblind]
  all_goals rfl

/-- Entries that are kept are respected. -/
theorem respects_of_entries {call : FileCall} {before after : FileSystem}
    (h : after.entries = before.entries) : Respects destination call before after := by
  intro path node hnode
  rw [h]
  exact .inl hnode

abbrev StoreError := GithubArtifactStoreError

/-- The results of the removals so far. -/
abbrev Removals := List (Except StoreError Unit)

variable {α ε : Type} {removals : Removals} {fs : FileSystem}

/-- The rule of a call: others act, then it is answered. -/
theorem wp_call {c : FileCall} {Q : FileValue c → Removals → FileSystem → Prop}
    (h : ∀ fs' value, Since destination fs fs' → fs'.Answers c value → Respects destination c fs'
      (fs'.after destination c value) ∧ Q value removals (fs'.after destination c value)) :
    wp (copyContract destination) (call c) Q E removals fs := by
  intro answer hanswer
  exact h _ answer.2 (interfere_since fs answer.1) hanswer

/-- A quiet call. -/
theorem wp_quiet (c : FileCall) (hc : Quiet c) {Q : FileValue c → Removals → FileSystem → Prop}
    (h : ∀ fs' value, Since destination fs fs' → fs'.Answers c value → Q value removals (fs'.after
      destination c value)) :
    wp (copyContract destination) (call c) Q E removals fs := by
  apply wp_call
  intro fs' value hsince hanswer
  exact ⟨respects_of_entries (after_entries c hc fs' value), h fs' value hsince hanswer⟩

variable {x : StoreM StoreError (Except IoErrorKind α)}

/-- A call whose failure is returned. -/
theorem wp_io {Q : α → Removals → FileSystem → Prop}
    {E : StoreError → Removals → FileSystem → Prop} :
    wp (copyContract destination) (io x) Q E removals fs ↔
      wp (copyContract destination) x (fun value removals' fs' =>
        (∀ a, value = .ok a → Q a removals' fs') ∧
          ∀ kind, value = .error kind → E (.io kind) removals' fs') E removals fs := by
  rw [io, wp_bind]
  have hsame : ∀ (value : Except IoErrorKind α) (removals' : Removals) (fs' : FileSystem),
      wp (copyContract destination) (ProgM.ofExcept (value.mapError .io) : StoreM StoreError α)
        Q E removals' fs' ↔ (∀ a, value = .ok a → Q a removals' fs') ∧
          ∀ kind, value = .error kind → E (.io kind) removals' fs' := by
    intro value removals' fs'
    cases value <;> simp [Except.mapError, ProgM.ofExcept]
  simp only [hsame]

theorem within_quiet (c : FileCall) (hc : Quiet c) :
    Within (copyContract destination) (Drift destination) (call c : StoreM ε (FileValue c)) := by
  intro removals fs
  apply wp_quiet c hc
  intro fs' value hsince _
  exact ⟨rfl, hsince.toDrift.trans (after_drift c hc fs' value)⟩

/-! ## Looks at the destination -/

/-- What the type of the destination tells, from when the call looked. -/
theorem wp_look {Q : Except IoErrorKind FileType → Removals → FileSystem → Prop}
    (h : ∀ fs' value, Drift destination fs fs' → fs'.recent = [] → fs'.Answers (.symlinkMetadata
      destination) value → Q value removals fs') :
    wp (copyContract destination) (call (.symlinkMetadata destination)) Q E removals fs := by
  apply wp_quiet (.symlinkMetadata destination) trivial
  intro fs' value hsince hanswer
  have hdrift := hsince.toDrift.trans (after_drift (.symlinkMetadata destination) trivial fs' value)
  have hrecent : (fs'.after destination (.symlinkMetadata destination) value).recent = [] := by
    simp [FileSystem.after]
  apply h _ value hdrift hrecent
  have hentries : (fs'.after destination (.symlinkMetadata destination) value).entries =
      fs'.entries := after_entries (.symlinkMetadata destination) trivial fs' value
  cases value with
  | ok fileType =>
    simp only [Answers, hentries]
    exact hanswer
  | error kind =>
    cases kind with
    | notFound =>
      simp only [Answers, hentries]
      exact hanswer
    | alreadyExists => trivial
    | other code => trivial

theorem exists_of_resolve {path : Path} (h : fs.resolve fuel path = some .created) :
    ∃ q, fs.entries q = some .created := by
  induction fuel generalizing path with
  | zero => cases h
  | succ fuel ih =>
    rw [resolve] at h
    split at h
    · exact ih h
    · exact ⟨path, h⟩

/-- A link at the destination cannot lead to a file that nothing else names. -/
theorem entries_of_resolve (honly : ∀ path, fs.entries path = some .created → path = destination)
    (h : fs.resolve fuel destination = some .created) :
    fs.entries destination = some .created := by
  obtain ⟨q, hq⟩ := exists_of_resolve h
  rw [← honly q hq]
  exact hq

theorem resolve_of_plain {path : Path} {node found : Node} (hentry : fs.entries path = some node)
    (htype : node.fileType = .file) (h : fs.resolve fuel path = some found) :
    found = node := by
  cases fuel with
  | zero => cases h
  | succ fuel =>
    rw [resolve, hentry] at h
    split at h
    · rename_i hlink
      cases hlink
      cases htype
    · exact (Option.some.inj h).symm

theorem identity_eq_created {node : Node} : node.identity = .created ↔ node = .created := by
  cases node <;> simp [Node.identity]

/-- The identities match exactly if the path leads to the created file. -/
theorem wp_pathMatchesOpenFile :
    wp (copyContract destination) (pathMatchesOpenFile destination)
      (fun same removals' fs' => removals' = removals ∧ Since destination fs fs' ∧
        ∃ node, fs'.resolve maxSymlinks destination = some node ∧
          (same = true ↔ node = .created))
      (fun error removals' fs' => removals' = removals ∧ Since destination fs fs' ∧
        ∃ kind, error = .io kind) removals fs := by
  rw [pathMatchesOpenFile, wp_bind, wp_io]
  apply wp_quiet .tryClone trivial
  intro fs₁ cloned hsince₁ _
  rw [after_blind .tryClone trivial trivial]
  refine ⟨?_, fun kind _ => ⟨rfl, hsince₁, kind, rfl⟩⟩
  intro _ _
  rw [wp_bind, wp_io]
  apply wp_quiet .fromFile trivial
  intro fs₂ opened hsince₂ hopened
  rw [after_blind .fromFile trivial trivial]
  refine ⟨?_, fun kind _ => ⟨rfl, hsince₁.trans hsince₂, kind, rfl⟩⟩
  intro openIdentity hok
  rw [hok] at hopened
  rw [wp_bind, wp_io]
  apply wp_quiet (.fromPath destination) trivial
  intro fs₃ found hsince₃ hfound
  rw [after_blind (.fromPath destination) trivial trivial]
  refine ⟨?_, fun kind _ => ⟨rfl, (hsince₁.trans hsince₂).trans hsince₃, kind, rfl⟩⟩
  intro pathIdentity hok
  rw [hok] at hfound
  obtain ⟨node, hnode, hidentity⟩ := Option.map_eq_some_iff.mp hfound
  refine ⟨rfl, (hsince₁.trans hsince₂).trans hsince₃, node, hnode, ?_⟩
  have hcreated : openIdentity = .created := hopened
  rw [hcreated, ← hidentity, beq_iff_eq, eq_comm]
  exact identity_eq_created

/-! ## Removal -/

/-- The destination no longer names the created file, unless a system call failed. -/
theorem wp_removePublished {fileType : FileType}
    (hfirst : fs.entries destination = some .created → fileType = .file) :
    wp (copyContract destination) (removePublished destination fileType)
      (fun _ removals' fs' => removals' = removals ∧ Drift destination fs fs' ∧
        fs'.entries destination ≠ some .created)
      (fun error removals' fs' => removals' = removals ∧ Drift destination fs fs' ∧
        (fs'.entries destination = some .created → ∃ kind, error = .io kind)) removals fs := by
  have hplain : isPlain .file = true := rfl
  rw [removePublished, wp_bind, wp_ensure]
  constructor
  rotate_left
  · intro hnot
    refine ⟨rfl, Std.Refl.refl fs, ?_⟩
    intro hcreated
    rw [hfirst hcreated, hplain] at hnot
    cases hnot
  intro _
  rw [wp_bind]
  apply wp_mono wp_pathMatchesOpenFile
  rotate_left
  · intro error removals₁ fs₁ hend
    obtain ⟨rfl, hsince₁, hio⟩ := hend
    exact ⟨rfl, hsince₁.toDrift, fun _ => hio⟩
  intro same removals₁ fs₁ hend
  obtain ⟨rfl, hsince₁, found, hfound, hsame⟩ := hend
  rw [wp_bind, wp_ensure]
  constructor
  rotate_left
  · intro hnot
    refine ⟨rfl, hsince₁.toDrift, ?_⟩
    intro hcreated
    have := hsame.mpr (resolve_of_plain hcreated rfl hfound)
    rw [hnot] at this
    cases this
  intro _
  rw [wp_bind, wp_io]
  apply wp_look
  intro fs₂ value hdrift₂ hrecent hanswer
  have hdrift := hsince₁.toDrift.trans hdrift₂
  refine ⟨?_, fun kind _ => ⟨rfl, hdrift, fun _ => ⟨kind, rfl⟩⟩⟩
  intro finalType hok
  rw [hok] at hanswer
  obtain ⟨looked, hlooked, htype⟩ := Option.map_eq_some_iff.mp hanswer
  rw [wp_bind, wp_ensure]
  constructor
  rotate_left
  · intro hnot
    refine ⟨rfl, hdrift, ?_⟩
    intro hcreated
    rw [hlooked] at hcreated
    rw [Option.some.inj hcreated] at htype
    rw [← htype] at hnot
    cases hnot
  intro hregular
  have hfile : looked.fileType = .file := by
    rw [htype]
    simpa [isPlain] using (Bool.and_eq_true_iff.mp hregular).2
  rw [wp_bind]
  apply wp_mono wp_pathMatchesOpenFile
  rotate_left
  · intro error removals₃ fs₃ hend
    obtain ⟨rfl, hsince₃, hio⟩ := hend
    exact ⟨rfl, hdrift.trans hsince₃.toDrift, fun _ => hio⟩
  intro same removals₃ fs₃ hend
  obtain ⟨rfl, hsince₃, found, hfound, hsame⟩ := hend
  rw [wp_bind, wp_ensure]
  constructor
  rotate_left
  · intro hnot
    refine ⟨rfl, hdrift.trans hsince₃.toDrift, ?_⟩
    intro hcreated
    have := hsame.mpr (resolve_of_plain hcreated rfl hfound)
    rw [hnot] at this
    cases this
  intro hmatches
  rw [hsame.mp hmatches] at hfound
  rw [wp_io]
  apply wp_call
  intro fs₄ removed hsince₄ _
  have hbefore := hdrift.trans (hsince₃.trans hsince₄).toDrift
  cases removed with
  | error kind =>
    refine ⟨respects_of_entries rfl, ?_, fun kind' _ => ⟨rfl, hbefore, fun _ => ⟨kind', rfl⟩⟩⟩
    intro _ hvalue
    cases hvalue
  | ok _ =>
    have hdestination : (fs₄.after destination (.removeFile destination) (.ok ())).entries =
        Function.update fs₄.entries destination none := rfl
    refine ⟨?_, ?_, ?_⟩
    · intro path node hnode
      rw [hdestination]
      by_cases hpath : path = destination
      · -- The node was not there when the identities matched.
        right
        rw [hpath] at hnode
        refine ⟨hpath, rfl, ?_⟩
        obtain hkept | hnone | ⟨placed, hplaced, hentry⟩ := hsince₄.placed
        · rw [hkept] at hnode
          obtain hkept | hnone | ⟨placed, hplaced, hentry⟩ := hsince₃.placed
          · rw [hkept, hlooked] at hnode
            have := resolve_of_plain (hkept.trans hlooked) hfile hfound
            rw [← this] at hnode
            cases hnode
          · rw [hnone] at hnode
            cases hnode
          · rw [hentry] at hnode
            cases hnode
            exact hsince₄.recent _ hplaced
        · rw [hnone] at hnode
          cases hnode
        · rw [hentry] at hnode
          cases hnode
          exact hplaced
      · left
        simpa [hpath] using hnode
    · intro _ _
      refine ⟨rfl, ⟨hbefore.contents, ?_, ?_⟩, ?_⟩
      · intro path hpath
        rw [hdestination, ← hbefore.others path hpath]
        simp [hpath]
      · rw [hdestination]
        simp
      · rw [hdestination]
        simp
    · intro kind hvalue
      cases hvalue

theorem wp_removeExact :
    wp (copyContract destination) (removeExact destination)
      (fun _ removals' fs' => removals' = removals ∧ Drift destination fs fs' ∧
        fs'.entries destination ≠ some .created)
      (fun error removals' fs' => removals' = removals ∧ Drift destination fs fs' ∧
        (fs'.entries destination = some .created → ∃ kind, error = .io kind)) removals fs := by
  rw [removeExact, wp_bind]
  apply wp_look
  intro fs₁ value hdrift _ hanswer
  cases value with
  | ok fileType =>
    have hfirst : fs₁.entries destination = some .created → fileType = .file := by
      intro hcreated
      have htype : (fs₁.entries destination).map Node.fileType = some fileType := hanswer
      rw [hcreated] at htype
      exact (Option.some.inj htype).symm
    apply wp_mono (wp_removePublished hfirst)
    · intro _ removals' fs' hend
      exact ⟨hend.1, hdrift.trans hend.2.1, hend.2.2⟩
    · intro error removals' fs' hend
      exact ⟨hend.1, hdrift.trans hend.2.1, hend.2.2⟩
  | error kind =>
    cases kind with
    | notFound =>
      have hnone : fs₁.entries destination = none := hanswer
      refine ⟨rfl, hdrift, ?_⟩
      rw [hnone]
      intro h
      cases h
    | alreadyExists => exact ⟨rfl, hdrift, fun _ => ⟨_, rfl⟩⟩
    | other code => exact ⟨rfl, hdrift, fun _ => ⟨_, rfl⟩⟩

/-- While the destination names the created file, every removal has failed in the system. -/
def Undone (destination : Path) (removals : Removals) (fs : FileSystem) : Prop :=
  fs.entries destination = some .created → ∀ result ∈ removals, ∃ kind, result = .error (.io kind)

theorem Undone.drift (h : Undone destination removals fs) (hdrift : Drift destination fs fs') :
    Undone destination removals fs' :=
  fun hcreated => h (hdrift.here hcreated)

/-- A removal was tried, and the published file is gone unless the system failed. -/
def Removed (destination : Path) (fs : FileSystem) (removals' : Removals) (fs' : FileSystem) :
    Prop :=
  removals' ≠ [] ∧ Undone destination removals' fs' ∧ Drift destination fs fs'

/-- The published file is gone, or a system call failed. -/
theorem wp_removeExactPublishedFile (h : Undone destination removals fs) :
    wp (copyContract destination) (removeExactPublishedFile destination)
      (fun _ removals' fs' => Removed destination fs removals' fs' ∧
        fs'.entries destination ≠ some .created)
      (fun _ removals' fs' => Removed destination fs removals' fs') removals fs := by
  rw [removeExactPublishedFile, wp_bind, wp_attempt]
  apply wp_mono wp_removeExact
  · intro _ removals₁ fs₁ hend
    obtain ⟨rfl, hdrift, hgone⟩ := hend
    have hundone : Undone destination (removals₁ ++ [.ok ()]) fs₁ := fun hcreated =>
      (hgone hcreated).elim
    exact ⟨⟨by simp, hundone, hdrift⟩, hgone⟩
  · intro error removals₁ fs₁ hend
    obtain ⟨rfl, hdrift, hio⟩ := hend
    refine ⟨by simp, ?_, hdrift⟩
    intro hcreated result hresult
    cases List.mem_append.mp hresult with
    | inl hearlier => exact h.drift hdrift hcreated result hearlier
    | inr hlast =>
      obtain ⟨kind, hkind⟩ := hio hcreated
      exact ⟨kind, by rw [List.mem_singleton.mp hlast, hkind]⟩

/-- A guard that goes out of scope removes the file as `rollback` does. -/
theorem wp_dropGuard (h : Undone destination removals fs)
    {E : StoreError → Removals → FileSystem → Prop} :
    wp (copyContract destination) (dropGuard destination)
      (fun _ removals' fs' => Removed destination fs removals' fs') E removals fs := by
  rw [dropGuard, wp_handle]
  apply wp_mono (wp_removeExactPublishedFile h)
  · intro _ removals' fs' hend
    exact hend.1
  · intro _ removals' fs' hend
    exact hend

theorem Removed.trans {removals₁ removals₂ : Removals} {fs₁ fs₂ : FileSystem}
    (h : Removed destination fs removals₁ fs₁) (h' : Removed destination fs₁ removals₂ fs₂) :
    Removed destination fs removals₂ fs₂ :=
  ⟨h'.1, h'.2.1, h.2.2.trans h'.2.2⟩

/-- After a failed removal the guard is still armed, and tries once more. -/
theorem wp_rollback (h : Undone destination removals fs) :
    wp (copyContract destination) (rollback destination)
      (fun _ removals' fs' => Removed destination fs removals' fs')
      (fun _ removals' fs' => Removed destination fs removals' fs') removals fs := by
  rw [rollback, wp_handle]
  apply wp_mono (wp_removeExactPublishedFile h)
  · intro _ removals' fs' hend
    exact hend.1
  · intro error removals₁ fs₁ hfirst
    rw [wp_bind]
    apply wp_mono (wp_dropGuard hfirst.2.1)
    · intro _ removals₂ fs₂ hsecond
      exact hfirst.trans hsecond
    · intro _ _ _ hend
      exact hend

/-! ## The published identity -/

/-- A file is opened for its identity. -/
theorem wp_openIdentityFile :
    wp (copyContract destination) (openIdentityFile destination)
      (fun file removals' fs' => removals' = removals ∧ Drift destination fs fs' ∧
        (fs'.entries destination = some .created → file = .created))
      (fun _ removals' fs' => removals' = removals ∧ Drift destination fs fs') removals fs := by
  rw [openIdentityFile, wp_bind]
  apply wp_look
  intro fs₁ fileType hdrift₁ _ _
  rw [wp_bind, wp_ensure]
  refine ⟨?_, fun _ => ⟨rfl, hdrift₁⟩⟩
  intro _
  rw [wp_bind]
  apply wp_quiet (.openNoFollow destination) trivial
  intro fs₂ opened hsince₂ hanswer
  rw [after_blind (.openNoFollow destination) trivial trivial]
  have hdrift := hdrift₁.trans hsince₂.toDrift
  cases opened with
  | ok file =>
    refine ⟨rfl, hdrift, ?_⟩
    intro hcreated
    obtain ⟨node, hnode, _, hidentity⟩ := hanswer
    rw [hcreated] at hnode
    rw [← hidentity, ← Option.some.inj hnode]
    rfl
  | error kind =>
    show wp _ (call (.symlinkMetadata destination) >>= fun _ => fail (some kind)) _ _ _ _
    rw [wp_bind]
    apply wp_look
    intro fs₃ _ hdrift₃ _ _
    exact ⟨rfl, hdrift.trans hdrift₃⟩

/-- The identity of an open file. -/
theorem wp_queryRegularFileIdentity {file : FileIdentity} :
    wp (copyContract destination) (queryRegularFileIdentity file)
      (fun identity removals' fs' => removals' = removals ∧ Drift destination fs fs' ∧
        identity = file)
      (fun _ removals' fs' => removals' = removals ∧ Drift destination fs fs') removals fs := by
  rw [queryRegularFileIdentity, wp_bind]
  apply wp_quiet (.metadata file) trivial
  intro fs₁ result hsince hanswer
  rw [after_blind (.metadata file) trivial trivial, wp_bind, wp_ofExcept]
  refine ⟨?_, fun _ _ => ⟨rfl, hsince.toDrift⟩⟩
  intro metadata hmetadata
  cases result with
  | error kind => cases hmetadata
  | ok found =>
    cases hmetadata
    rw [wp_bind, wp_ensure]
    refine ⟨?_, fun _ => ⟨rfl, hsince.toDrift⟩⟩
    intro _
    rw [wp_bind, wp_ensure]
    refine ⟨?_, fun _ => ⟨rfl, hsince.toDrift⟩⟩
    intro _
    exact ⟨rfl, hsince.toDrift, hanswer.1⟩

/-- A captured identity is that of the created file, or the destination has stopped naming it. -/
theorem wp_capture :
    wp (copyContract destination) (capture destination)
      (fun identity removals' fs' => removals' = removals ∧ Drift destination fs fs' ∧
        (fs'.entries destination = some .created → identity = .created))
      (fun _ removals' fs' => removals' = removals ∧ Drift destination fs fs') removals fs := by
  rw [capture, wp_bind, wp_ensure]
  refine ⟨?_, fun _ => ⟨rfl, Std.Refl.refl fs⟩⟩
  intro _
  rw [wp_bind]
  apply wp_mono wp_openIdentityFile
  rotate_left
  · exact fun _ _ _ hend => hend
  intro file removals₁ fs₁ hopened
  obtain ⟨rfl, hdrift₁, hfile⟩ := hopened
  rw [wp_bind]
  apply wp_mono wp_queryRegularFileIdentity
  rotate_left
  · exact fun _ _ _ hend => ⟨hend.1, hdrift₁.trans hend.2⟩
  intro identity removals₂ fs₂ hqueried
  obtain ⟨rfl, hdrift₂, rfl⟩ := hqueried
  rw [wp_bind]
  apply wp_mono wp_openIdentityFile
  rotate_left
  · exact fun _ _ _ hend => ⟨hend.1, (hdrift₁.trans hdrift₂).trans hend.2⟩
  intro reopened removals₃ fs₃ hreopened
  obtain ⟨rfl, hdrift₃, _⟩ := hreopened
  have hdrift := (hdrift₁.trans hdrift₂).trans hdrift₃
  rw [wp_bind]
  apply wp_mono wp_queryRegularFileIdentity
  rotate_left
  · exact fun _ _ _ hend => ⟨hend.1, hdrift.trans hend.2⟩
  intro again removals₄ fs₄ hqueried
  obtain ⟨rfl, hdrift₄, _⟩ := hqueried
  rw [wp_bind, wp_ensure]
  refine ⟨?_, fun _ => ⟨rfl, hdrift.trans hdrift₄⟩⟩
  intro _
  rw [wp_bind]
  apply wp_mono wp_queryRegularFileIdentity
  rotate_left
  · exact fun _ _ _ hend => ⟨hend.1, (hdrift.trans hdrift₄).trans hend.2⟩
  intro last removals₅ fs₅ hqueried
  obtain ⟨rfl, hdrift₅, _⟩ := hqueried
  rw [wp_bind, wp_ensure]
  refine ⟨?_, fun _ => ⟨rfl, (hdrift.trans hdrift₄).trans hdrift₅⟩⟩
  intro _
  -- the identity is that of the first look, the others only confirm it
  have hlater := ((hdrift₂.trans hdrift₃).trans hdrift₄).trans hdrift₅
  exact ⟨rfl, hdrift₁.trans hlater, fun hcreated => hfile (hlater.here hcreated)⟩

/-- Nothing but the destination names the created file. -/
def OnlyHere (destination : Path) (fs : FileSystem) : Prop :=
  ∀ path, fs.entries path = some .created → path = destination

/-- It stays the only place. -/
theorem OnlyHere.drift (h : OnlyHere destination fs) (hdrift : Drift destination fs fs') :
    OnlyHere destination fs' := by
  intro path hpath
  by_contra hne
  rw [hdrift.others path hne] at hpath
  exact hne (h path hpath)

/-- The identity of the destination. -/
theorem wp_identity (h : OnlyHere destination fs) :
    wp (copyContract destination) (identity destination)
      (fun identity removals' fs' => removals' = removals ∧ Drift destination fs fs' ∧
        fs'.entries destination = some .created ∧ identity = .created)
      (fun _ removals' fs' => removals' = removals ∧ Drift destination fs fs') removals fs := by
  rw [identity, wp_bind, wp_mapError]
  apply wp_mono wp_capture
  rotate_left
  · exact fun _ _ _ hend => hend
  intro identity removals₁ fs₁ hcaptured
  obtain ⟨rfl, hdrift₁, hidentity⟩ := hcaptured
  rw [wp_bind]
  apply wp_mono wp_pathMatchesOpenFile
  rotate_left
  · exact fun _ _ _ hend => ⟨hend.1, hdrift₁.trans hend.2.1.toDrift⟩
  intro same removals₂ fs₂ hend
  obtain ⟨rfl, hsince₂, node, hnode, hsame⟩ := hend
  have hdrift := hdrift₁.trans hsince₂.toDrift
  rw [wp_bind, wp_ensure]
  refine ⟨?_, fun _ => ⟨rfl, hdrift⟩⟩
  intro hmatches
  rw [hsame.mp hmatches] at hnode
  have hcreated := entries_of_resolve (h.drift hdrift) hnode
  exact ⟨rfl, hdrift, hcreated, hidentity (hsince₂.here hcreated)⟩

/-! ## Publication -/

/-- The destination is what was created. -/
theorem wp_verifyDestination :
    wp (copyContract destination) (verifyDestination destination)
      (fun _ removals' fs' => removals' = removals ∧ Drift destination fs fs')
      (fun _ removals' fs' => removals' = removals ∧ Drift destination fs fs') removals fs := by
  rw [verifyDestination, wp_bind, wp_io]
  apply wp_look
  intro fs₁ value hdrift₁ _ _
  refine ⟨?_, fun _ _ => ⟨rfl, hdrift₁⟩⟩
  intro fileType _
  rw [wp_bind, wp_ensure]
  refine ⟨?_, fun _ => ⟨rfl, hdrift₁⟩⟩
  intro _
  rw [wp_bind]
  apply wp_mono wp_pathMatchesOpenFile
  rotate_left
  · exact fun _ _ _ hend => ⟨hend.1, hdrift₁.trans hend.2.1.toDrift⟩
  intro same removals₂ fs₂ hend
  rw [wp_ensure]
  exact ⟨fun _ => ⟨hend.1, hdrift₁.trans hend.2.1.toDrift⟩,
    fun _ => ⟨hend.1, hdrift₁.trans hend.2.1.toDrift⟩⟩

/-- Only the temporary and the destination can name the created file, and no file of another
process has the name of the temporary. -/
structure Held (destination temporary : Path) (fs : FileSystem) : Prop where
  apart : temporary ≠ destination
  owned : ∀ path, fs.entries path = some .created → path = temporary ∨ path = destination
  temporary : fs.entries temporary = none ∨ fs.entries temporary = some .created

/-- The temporary file stays held. -/
theorem Held.drift (h : Held destination temporary fs) (hdrift : Drift destination fs fs') :
    Held destination temporary fs' where
  apart := h.apart
  owned path hpath := by
    by_cases hne : path = destination
    · exact .inr hne
    · rw [hdrift.others path hne] at hpath
      exact h.owned path hpath
  temporary := by
    rw [hdrift.others temporary h.apart]
    exact h.temporary

/-- What a failed publication leaves behind. -/
structure Leftover (destination temporary : Path) (removals : Removals) (fs : FileSystem) :
    Prop where
  held : Held destination temporary fs
  undone : Undone destination removals fs
  tried : fs.entries destination = some .created → removals ≠ []

/-- After the removal the temporary file is left. -/
theorem Removed.leftover {removals' : Removals} (h : Removed destination fs removals' fs')
    (hheld : Held destination temporary fs) :
    Leftover destination temporary removals' fs' :=
  ⟨hheld.drift h.2.2, h.2.1, fun _ => h.1⟩

theorem Undone.nil (destination : Path) (fs : FileSystem) : Undone destination [] fs := by
  intro _ result hresult
  cases hresult

/-- A file that is not at the destination needs no removal. -/
theorem leftover_of_ne (hheld : Held destination temporary fs)
    (hnew : fs.entries destination ≠ some .created) : Leftover destination temporary [] fs :=
  ⟨hheld, Undone.nil destination fs, fun hcreated => (hnew hcreated).elim⟩

theorem Drift.ne_created (hdrift : Drift destination fs fs')
    (hnew : fs.entries destination ≠ some .created) : fs'.entries destination ≠ some .created :=
  fun hcreated => hnew (hdrift.here hcreated)

theorem wp_link (hheld : Held destination temporary fs)
    (hnew : fs.entries destination ≠ some .created) :
    wp (copyContract destination) (link temporary destination)
      (fun _ removals' fs' => removals' = [] ∧ Held destination temporary fs' ∧
        fs'.contents = fs.contents)
      (fun _ removals' fs' => Leftover destination temporary removals' fs') [] fs := by
  rw [link, wp_bind]
  apply wp_call
  intro fs₁ linked hsince hanswer
  have hheld₁ := hheld.drift hsince.toDrift
  cases linked with
  | error kind =>
    refine ⟨respects_of_entries rfl, ?_⟩
    rw [wp_bind]
    exact leftover_of_ne hheld₁ (hsince.ne_created hnew)
  | ok _ =>
    -- the name was free, so nothing is replaced
    obtain ⟨hfree, _⟩ := hanswer
    have hentries : (fs₁.after destination (.hardLink temporary destination) (.ok ())).entries =
        Function.update fs₁.entries destination (fs₁.entries temporary) := rfl
    have hheld₂ : Held destination temporary
        (fs₁.after destination (.hardLink temporary destination) (.ok ())) := by
      refine ⟨hheld.apart, ?_, ?_⟩
      · intro path hpath
        by_cases hne : path = destination
        · exact .inr hne
        · rw [hentries, Function.update_of_ne hne] at hpath
          exact hheld₁.owned path hpath
      · rw [hentries, Function.update_of_ne hheld.apart]
        exact hheld₁.temporary
    constructor
    · intro path node hnode
      left
      rw [hentries]
      by_cases hpath : path = destination
      · rw [hpath, hfree] at hnode
        cases hnode
      · rw [Function.update_of_ne hpath]
        exact hnode
    · rw [wp_bind, wp_ofExcept]
      refine ⟨?_, fun _ h => by cases h⟩
      intro _ _
      rw [wp_handle]
      -- the guard of the destination is dropped on an error
      apply wp_mono wp_verifyDestination
      · intro _ removals' fs' hend
        exact ⟨hend.1, hheld₂.drift hend.2, hend.2.contents.trans hsince.contents⟩
      · intro error removals' fs' hend
        obtain ⟨rfl, hdrift⟩ := hend
        rw [wp_bind]
        apply wp_mono (wp_dropGuard (Undone.nil destination fs'))
        · intro _ removals'' fs'' hremoved
          exact hremoved.leftover (hheld₂.drift hdrift)
        · exact fun _ _ _ hend => hend

/-- The call that removes the temporary. -/
theorem wp_removeTemporary (hheld : Held destination temporary fs)
    {Q : Except IoErrorKind Unit → Removals → FileSystem → Prop}
    (herror : ∀ fs' kind, Drift destination fs fs' → Q (.error kind) removals fs')
    (hok : ∀ fs', Held destination temporary fs' → OnlyHere destination fs' → fs'.contents =
      fs.contents → (fs'.entries destination = some .created → fs.entries destination = some
      .created) → Q (.ok ()) removals fs') :
    wp (copyContract destination) (call (.removeFile temporary)) Q E removals fs := by
  apply wp_call
  intro fs₁ removed hsince _
  have hheld₁ := hheld.drift hsince.toDrift
  cases removed with
  | error kind => exact ⟨respects_of_entries rfl, herror fs₁ kind hsince.toDrift⟩
  | ok _ =>
    have hentries : (fs₁.after destination (.removeFile temporary) (.ok ())).entries =
        Function.update fs₁.entries temporary none := rfl
    have honly : OnlyHere destination
        (fs₁.after destination (.removeFile temporary) (.ok ())) := by
      intro path hpath
      by_cases hne : path = temporary
      · rw [hentries, hne, Function.update_self] at hpath
        cases hpath
      · rw [hentries, Function.update_of_ne hne] at hpath
        exact (hheld₁.owned path hpath).resolve_left hne
    constructor
    · intro path node hnode
      left
      rw [hentries]
      by_cases hpath : path = temporary
      · -- Nobody else uses the name.
        rw [hpath] at hnode
        cases hheld₁.temporary with
        | inl hnone =>
          rw [hnone] at hnode
          cases hnode
        | inr hcreated =>
          rw [hcreated] at hnode
          cases hnode
      · rw [Function.update_of_ne hpath]
        exact hnode
    · apply hok _ ⟨hheld.apart, fun path hpath => .inr (honly path hpath), ?_⟩ honly hsince.contents
      · rw [hentries, Function.update_of_ne hheld.apart.symm]
        exact hsince.here
      · left
        rw [hentries, Function.update_self]

/-- A publication names the created file at the destination only, or it leaves nothing there that
the system let it remove. -/
theorem wp_publish (hheld : Held destination temporary fs)
    (hnew : fs.entries destination ≠ some .created) :
    wp (copyContract destination) (publish temporary destination)
      (fun identity _ fs' => identity = .created ∧ fs'.entries destination = some .created ∧
        OnlyHere destination fs' ∧ fs'.contents = fs.contents)
      (fun _ removals' fs' => Leftover destination temporary removals' fs') [] fs := by
  rw [publish, wp_bind]
  apply wp_mono (wp_link hheld hnew)
  rotate_left
  · exact fun _ _ _ hend => hend
  intro _ removals₁ fs₁ hlinked
  obtain ⟨rfl, hheld₁, hcontents⟩ := hlinked
  rw [wp_bind, wp_attempt, removeNewFile, wp_io]
  apply wp_removeTemporary hheld₁
  · intro fs₂ kind hdrift
    constructor
    · intro _ hok
      cases hok
    · intro kind' _
      -- the temporary file stays, so the published one is rolled back
      show wp _ (rollback destination >>= fun _ => fail _) _ _ _ _
      rw [wp_bind]
      apply wp_mono (wp_rollback (Undone.nil destination fs₂))
      · intro _ removals' fs' hremoved
        exact hremoved.leftover (hheld₁.drift hdrift)
      · intro _ removals' fs' hremoved
        exact hremoved.leftover (hheld₁.drift hdrift)
  · intro fs₂ hheld₂ honly hcontents₂ _
    constructor
    · intro _ _
      show wp _ ((identity destination).handle _) _ _ _ _
      rw [wp_handle]
      -- the identity is taken after the temporary file is gone
      apply wp_mono (wp_identity honly)
      · intro identity removals' fs' hend
        obtain ⟨_, hdrift, hcreated, hidentity⟩ := hend
        exact ⟨hidentity, hcreated, honly.drift hdrift,
          hdrift.contents.trans (hcontents₂.trans hcontents)⟩
      · intro error removals₃ fs₃ hend
        obtain ⟨rfl, hdrift⟩ := hend
        rw [wp_bind]
        apply wp_mono (wp_rollback (Undone.nil destination fs₃))
        · intro _ removals' fs' hremoved
          exact hremoved.leftover (hheld₂.drift hdrift)
        · intro _ removals' fs' hremoved
          exact hremoved.leftover (hheld₂.drift hdrift)
    · intro _ herror
      cases herror

/-! ## The copy -/

theorem within_io (hx : Within (copyContract destination) (Drift destination) x) :
    Within (copyContract destination) (Drift destination) (io x) :=
  within_bind hx fun _ => within_ofExcept

theorem within_openRegularFile (source : String) :
    Within (copyContract destination) (Drift destination) (openRegularFile source) := by
  apply within_bind within_ensure
  intro _
  apply within_bind (within_io (within_quiet (.symlinkMetadata _) trivial))
  intro _
  apply within_bind within_ensure
  intro _
  apply within_bind (within_io (within_quiet (.openSource _) trivial))
  intro _
  apply within_bind (within_io (within_quiet .sourceMetadata trivial))
  exact fun _ => within_ensure

/-- A file in progress: not at the destination yet, with the bytes that were written. -/
structure Staged (destination temporary : Path) (bytes : List UInt8) (fs : FileSystem) : Prop where
  held : Held destination temporary fs
  hidden : fs.entries destination ≠ some .created
  contents : fs.contents = bytes

theorem Staged.drift {temporary : Path} {bytes : List UInt8}
    (h : Staged destination temporary bytes fs) (hdrift : Drift destination fs fs') :
    Staged destination temporary bytes fs' :=
  ⟨h.held.drift hdrift, hdrift.ne_created h.hidden, hdrift.contents.trans h.contents⟩

/-- A staged file is left over. -/
theorem Staged.leftover {bytes : List UInt8} (h : Staged destination temporary bytes fs) :
    Leftover destination temporary [] fs :=
  leftover_of_ne h.held h.hidden

/-- The loop hashes what it writes. -/
theorem wp_copyLoop {size : Nat} {hashed : List UInt8} (h : Staged destination temporary hashed fs)
      :
    wp (copyContract destination) (copyLoop size fuel hashed)
      (fun hashed' removals' fs' => removals' = [] ∧ Staged destination temporary hashed' fs')
      (fun _ removals' fs' => Leftover destination temporary removals' fs') [] fs := by
  -- the staged bytes are the hashed ones before each turn
  induction fuel generalizing hashed fs with
  | zero => exact h.leftover
  | succ fuel ih =>
    rw [copyLoop, wp_bind, wp_io]
    apply wp_quiet .readSource trivial
    intro fs₁ value hsince _
    rw [after_blind .readSource trivial trivial]
    have h₁ := h.drift hsince.toDrift
    refine ⟨?_, fun _ _ => h₁.leftover⟩
    intro buffer _
    -- an empty read is the end of the source
    by_cases hend : buffer = []
    · rw [if_pos hend]
      exact ⟨rfl, h₁⟩
    · rw [if_neg hend, wp_bind, wp_ensure]
      refine ⟨?_, fun _ => h₁.leftover⟩
      intro _
      rw [wp_bind, wp_ensure]
      refine ⟨?_, fun _ => h₁.leftover⟩
      intro _
      rw [wp_bind, wp_io]
      apply wp_call
      intro fs₂ written hsince₂ _
      have h₂ := h₁.drift hsince₂.toDrift
      cases written with
      | error kind =>
        refine ⟨respects_of_entries rfl, ?_, fun _ _ => h₂.leftover⟩
        intro _ hok
        cases hok
      | ok _ =>
        refine ⟨respects_of_entries rfl, ?_, ?_⟩
        · intro _ _
          apply ih
          exact ⟨⟨h₂.held.apart, h₂.held.owned, h₂.held.temporary⟩, h₂.hidden,
            congrArg (· ++ buffer) h₂.contents⟩
        · intro _ herror
          cases herror

/-- The destination is the created file with the bytes of the record, under no other name. -/
structure Complete (sha256 : List UInt8 → String) (record : ArtifactRecord) (destination : Path)
    (fs : FileSystem) : Prop where
  created : fs.entries destination = some .created
  onlyHere : OnlyHere destination fs
  size : fs.contents.length = record.size.toNat
  digest : sha256 fs.contents = record.sha256

/-- The file is copied and published. -/
theorem wp_copyAndPublish {sha256 : List UInt8 → String} {source : String} {record : ArtifactRecord}
    (h : Staged destination temporary [] fs) :
    wp (copyContract destination) (copyAndPublish sha256 source record temporary destination)
      (fun identity _ fs' => identity = .created ∧ Complete sha256 record destination fs')
      (fun _ removals' fs' => Leftover destination temporary removals' fs') [] fs := by
  rw [copyAndPublish, wp_bind]
  apply (within_openRegularFile source).wp
  rotate_left
  · exact fun _ _ hdrift => (h.drift hdrift).leftover
  intro _ fs₁ hdrift₁
  rw [wp_bind]
  apply (within_io (within_quiet .sourceMetadata trivial)).wp
  rotate_left
  · exact fun _ _ hdrift => ((h.drift hdrift₁).drift hdrift).leftover
  intro metadata fs₂ hdrift₂
  have h₂ := (h.drift hdrift₁).drift hdrift₂
  rw [wp_bind, wp_ensure]
  refine ⟨?_, fun _ => h₂.leftover⟩
  intro _
  rw [wp_bind]
  apply wp_mono (wp_copyLoop h₂)
  rotate_left
  · exact fun _ _ _ hend => hend
  intro hashed removals₃ fs₃ hcopied
  obtain ⟨rfl, h₃⟩ := hcopied
  rw [wp_bind]
  apply (within_io (within_quiet .syncAll trivial)).wp
  rotate_left
  · exact fun _ _ hdrift => (h₃.drift hdrift).leftover
  intro _ fs₄ hdrift₄
  have h₄ := h₃.drift hdrift₄
  rw [wp_bind, wp_ensure]
  refine ⟨?_, fun _ => h₄.leftover⟩
  -- size and digest are those of what was written
  intro hchecked
  obtain ⟨hsize, hdigest⟩ := Bool.and_eq_true_iff.mp hchecked
  apply wp_mono (wp_publish h₄.held h₄.hidden)
  · intro identity removals₅ fs₅ hend
    obtain ⟨hidentity, hcreated, honly, hcontents⟩ := hend
    rw [h₄.contents] at hcontents
    refine ⟨hidentity, hcreated, honly, ?_, ?_⟩
    · rw [hcontents]
      exact beq_iff_eq.mp hsize
    · rw [hcontents]
      exact beq_iff_eq.mp hdigest
  · exact fun _ _ _ hend => hend

/-! ## The temporary -/

/-- The copy has not created a file. -/
def Fresh (fs : FileSystem) : Prop := ∀ path, fs.entries path ≠ some .created

theorem Fresh.drift (h : Fresh fs) (hdrift : Drift destination fs fs') :
    Fresh fs' := by
  intro path hpath
  by_cases hne : path = destination
  · rw [hne] at hpath
    exact h destination (hdrift.here hpath)
  · rw [hdrift.others path hne] at hpath
    exact h path hpath

/-- The name of the temporary is longer than that of the destination. -/
theorem temporaryName_ne (processId : UInt32) (name : List Char) (sequence : UInt64) :
    temporaryName processId name sequence ≠ name := by
  intro h
  have := congrArg List.length h
  simp only [temporaryName, List.length_append, List.length_cons] at this
  omega

/-- A temporary file, within some attempts. -/
theorem wp_createTemporary {processId : UInt32} {parentPath : Path} {name : List Char}
    (hdestination : destination = parentPath ++ [.normal name]) (attempts : Nat) (h : Fresh fs) :
    wp (copyContract destination) (createTemporary processId parentPath name attempts)
      (fun temporary removals' fs' => removals' = [] ∧ Staged destination temporary [] fs')
      (fun _ removals' fs' => removals' = [] ∧ Fresh fs') [] fs := by
  -- a name that is taken costs one attempt
  induction attempts generalizing fs with
  | zero => exact ⟨rfl, h⟩
  | succ attempts ih =>
    rw [createTemporary, wp_bind]
    apply wp_quiet .nextSequence trivial
    intro fs₁ sequence hsince₁ _
    rw [after_blind .nextSequence trivial trivial, wp_bind]
    -- temporary names differ from every final one
    have hapart : parentPath ++ [.normal (temporaryName processId name sequence)] ≠
        destination := by
      rw [hdestination]
      intro hsame
      have hlast := (List.cons.inj (List.append_cancel_left hsame)).1
      exact temporaryName_ne processId name sequence (UnixPath.Component.normal.inj hlast)
    generalize parentPath ++ [.normal (temporaryName processId name sequence)] = candidate at hapart
    apply wp_call
    intro fs₂ created hsince₂ hanswer
    have hfresh := (h.drift hsince₁.toDrift).drift hsince₂.toDrift
    cases created with
    | error kind =>
      refine ⟨respects_of_entries rfl, ?_⟩
      cases kind with
      | alreadyExists => exact ih hfresh
      | notFound => exact ⟨rfl, hfresh⟩
      | other code => exact ⟨rfl, hfresh⟩
    | ok _ =>
      have hfree : fs₂.entries candidate = none := hanswer
      have hentries : (fs₂.after destination (.createNew candidate) (.ok ())).entries =
          Function.update fs₂.entries candidate (some .created) := rfl
      constructor
      · intro path node hnode
        left
        rw [hentries]
        by_cases hpath : path = candidate
        · rw [hpath, hfree] at hnode
          cases hnode
        · rw [Function.update_of_ne hpath]
          exact hnode
      · refine ⟨rfl, ⟨hapart, ?_, ?_⟩, ?_, rfl⟩
        · intro path hpath
          by_cases hne : path = candidate
          · exact .inl hne
          · rw [hentries, Function.update_of_ne hne] at hpath
            exact (hfresh path hpath).elim
        · right
          rw [hentries, Function.update_self]
        · rw [hentries, Function.update_of_ne hapart.symm]
          exact hfresh destination

/-! ## Destinations -/

theorem eq_of_parent_fileName {path parentPath : Path} {name : List Char}
    (hparent : parent path = some parentPath) (hname : fileName path = some name) :
    path = parentPath ++ [.normal name] := by
  have hlast : path.getLast? = some (.normal name) := by
    unfold fileName at hname
    split at hname
    · rename_i found hfound
      cases hname
      exact hfound
    · cases hname
  simp only [parent, hlast] at hparent
  rw [← Option.some.inj hparent]
  exact (List.dropLast_append_getLast? _ hlast).symm

/-- The path of a destination. -/
def destinationPath (destination : ProtocolPath) : Path :=
  UnixPath.components destination.value.toList

variable {protocolPath : ProtocolPath}

/-- The destination lies where the path says. -/
theorem wp_validatedDestination {parseUrl : ParseUrl}
    (hdestination : destinationPath protocolPath = destination) :
    wp (copyContract destination) (validatedDestination parseUrl protocolPath)
      (fun path removals' fs' => removals' = removals ∧ Drift destination fs fs' ∧
        path = destination)
      (fun _ removals' fs' => removals' = removals ∧ Drift destination fs fs') removals fs := by
  have hrefl : Drift destination fs fs := Std.Refl.refl fs
  rw [validatedDestination, wp_bind, wp_ofExcept]
  refine ⟨?_, fun _ _ => ⟨rfl, hrefl⟩⟩
  intro _ _
  rw [wp_bind, wp_ensure]
  refine ⟨?_, fun _ => ⟨rfl, hrefl⟩⟩
  intro _
  rw [wp_bind, wp_ensure]
  refine ⟨?_, fun _ => ⟨rfl, hrefl⟩⟩
  intro _
  rw [wp_bind, wp_ofOption]
  refine ⟨?_, fun _ => ⟨rfl, hrefl⟩⟩
  intro parentPath hparent
  rw [wp_bind]
  apply (within_io (within_quiet (.symlinkMetadata parentPath) trivial)).wp
  rotate_left
  · exact fun _ _ hdrift => ⟨rfl, hdrift⟩
  intro parentType fs₁ hdrift₁
  rw [wp_bind, wp_ensure]
  refine ⟨?_, fun _ => ⟨rfl, hdrift₁⟩⟩
  intro _
  rw [wp_bind]
  apply (within_io (within_quiet (.canonicalize parentPath) trivial)).wp
  rotate_left
  · exact fun _ _ hdrift => ⟨rfl, hdrift₁.trans hdrift⟩
  intro canonicalParent fs₂ hdrift₂
  have hdrift := hdrift₁.trans hdrift₂
  rw [wp_bind, wp_ensure]
  refine ⟨?_, fun _ => ⟨rfl, hdrift⟩⟩
  intro hcanonical
  rw [wp_bind, wp_ofOption]
  refine ⟨?_, fun _ => ⟨rfl, hdrift⟩⟩
  intro name hname
  rw [wp_bind, wp_ensure]
  refine ⟨?_, fun _ => ⟨rfl, hdrift⟩⟩
  intro _
  refine ⟨rfl, hdrift, ?_⟩
  rw [beq_iff_eq.mp hcanonical, ← eq_of_parent_fileName hparent hname]
  exact hdestination

/-! ## Whole runs -/

theorem wp_atomicVerifiedCopy (parseUrl : ParseUrl) (sha256 : List UInt8 → String)
    (processId : UInt32) (source : String) (record : ArtifactRecord)
    (hdestination : destinationPath protocolPath = destination) (h : Fresh fs) :
    wp (copyContract destination)
      (atomicVerifiedCopy parseUrl sha256 processId source record protocolPath)
      (fun identity _ fs' => identity = .created ∧ Complete sha256 record destination fs')
      (fun _ removals' fs' => Undone destination removals' fs' ∧
        (fs'.entries destination = some .created → removals' ≠ [])) [] fs := by
  -- before the temporary file there is nothing to undo
  have hnone : ∀ {fs' : FileSystem}, Fresh fs' → Undone destination [] fs' ∧
      (fs'.entries destination = some .created → ([] : Removals) ≠ []) := by
    intro fs' hfresh
    exact ⟨Undone.nil destination fs', fun hcreated => (hfresh destination hcreated).elim⟩
  rw [atomicVerifiedCopy, wp_bind]
  apply wp_mono (wp_validatedDestination hdestination)
  rotate_left
  · intro _ removals₁ fs₁ hend
    obtain ⟨rfl, hdrift⟩ := hend
    exact hnone (h.drift hdrift)
  intro path removals₁ fs₁ hend
  obtain ⟨rfl, hdrift₁, rfl⟩ := hend
  rw [wp_bind]
  apply wp_look
  intro fs₂ existing hdrift₂ _ _
  have hfresh := (h.drift hdrift₁).drift hdrift₂
  rw [wp_bind, wp_ensure]
  refine ⟨?_, fun _ => hnone hfresh⟩
  intro _
  rw [wp_bind, wp_ofOption]
  refine ⟨?_, fun _ => hnone hfresh⟩
  intro parentPath hparent
  rw [wp_bind, wp_ofOption]
  refine ⟨?_, fun _ => hnone hfresh⟩
  intro name hname
  rw [wp_bind]
  have hpath := eq_of_parent_fileName hparent hname
  apply wp_mono (wp_createTemporary hpath temporaryNameAttempts hfresh)
  rotate_left
  · intro _ removals₃ fs₃ hend
    obtain ⟨rfl, hfresh₃⟩ := hend
    exact hnone hfresh₃
  intro temporary removals₃ fs₃ hend
  obtain ⟨rfl, hstaged⟩ := hend
  -- from here on every error removes the temporary file
  rw [wp_handle]
  apply wp_mono (wp_copyAndPublish hstaged)
  · exact fun _ _ _ hend => hend
  intro error removals₄ fs₄ hleft
  rw [wp_bind]
  apply wp_removeTemporary hleft.held
  · intro fs₅ kind hdrift
    exact ⟨hleft.undone.drift hdrift, fun hcreated => hleft.tried (hdrift.here hcreated)⟩
  · intro fs₅ _ _ _ hhere
    exact ⟨fun hcreated => hleft.undone (hhere hcreated),
      fun hcreated => hleft.tried (hhere hcreated)⟩

/-- **Create-only and all-or-nothing**: at every moment of every run, whatever fails and whatever
others place at the destination, nothing that the copy did not create is replaced, and only what was
placed at the destination after the last look at it can be removed. A copy that succeeds has
published a new file with the bytes of the record, returned its identity, and removed its
temporary. After an error the destination does not name the created file, unless each removal that
was tried failed in the system. -/
theorem atomicVerifiedCopy_atomic (parseUrl : ParseUrl) (sha256 : List UInt8 → String)
    (processId : UInt32) (source : String) (record : ArtifactRecord) (protocolPath : ProtocolPath)
    {fs : FileSystem} (hfresh : Fresh fs) {history : History FileCall FileAnswer}
    {rest : Prog FileCall FileAnswer (Except StoreError FileIdentity × Removals)}
    (hruns : Prog.Runs
      (atomicVerifiedCopy parseUrl sha256 processId source record protocolPath []) history rest)
    (hassumed : (copyContract (destinationPath protocolPath)).Assumed fs history) :
    (copyContract (destinationPath protocolPath)).Guaranteed fs history ∧
    (∀ identity removals, rest = .ret (.ok identity, removals) → identity = .created ∧
      Complete sha256 record (destinationPath protocolPath)
        ((copyContract (destinationPath protocolPath)).view fs history)) ∧
    ∀ error removals, rest = .ret (.error error, removals) →
      ((copyContract (destinationPath protocolPath)).view fs history).entries
          (destinationPath protocolPath) = some .created →
        removals ≠ [] ∧ ∀ result ∈ removals, ∃ kind, result = .error (.io kind) := by
  have hpath : destinationPath protocolPath = destinationPath protocolPath := rfl
  have hwp := wp_atomicVerifiedCopy parseUrl sha256 processId source record hpath hfresh
  obtain ⟨hguaranteed, hrest⟩ := Prog.wp_of_runs hwp hruns hassumed
  refine ⟨hguaranteed, ?_, ?_⟩
  · intro identity removals hreturned
    rw [hreturned] at hrest
    exact hrest
  · intro error removals hreturned hcreated
    rw [hreturned] at hrest
    exact ⟨hrest.2 hcreated, hrest.1 hcreated⟩

/-! ## Runs on a file system -/

/-- The bytes of the source, `log` and a line feed. -/
def sampleSource : List UInt8 := [108, 111, 103, 10]

/-- What the file system answers when no call fails; the source is read to its end. -/
def FileSystem.answer (fs : FileSystem) : (call : FileCall) → FileValue call
  | .nextSequence => 1
  | .symlinkMetadata path =>
    match fs.entries path with
    | some node => .ok node.fileType
    | none => .error .notFound
  | .canonicalize path => .ok path
  | .createNew path => if fs.entries path = none then .ok () else .error .alreadyExists
  | .sourceMetadata => .ok ⟨true, 4⟩
  | .readSource => .ok (sampleSource.drop fs.contents.length)
  | .hardLink original link =>
    if fs.entries link = none ∧ (fs.entries original).map Node.fileType = some .file then .ok ()
    else .error .alreadyExists
  | .removeFile path =>
    match fs.entries path with
    | some node => if node.fileType = .directory then .error (.other 21) else .ok ()
    | none => .error .notFound
  | .fromFile => .ok .created
  | .fromPath path =>
    match fs.resolve maxSymlinks path with
    | some node => .ok node.identity
    | none => .error .notFound
  | .openNoFollow path =>
    match fs.entries path with
    | some node => if node.fileType = .symlink then .error (.other 62) else .ok node.identity
    | none => .error .notFound
  | .metadata file => .ok ⟨true, fs.nlink, file⟩
  | .openSource _ | .writeAll _ | .syncAll | .tryClone => .ok ()

theorem answers_answer (fs : FileSystem) (call : FileCall) : fs.Answers call (fs.answer call) := by
  cases call with
  | symlinkMetadata path =>
    cases h : fs.entries path <;> simp [FileSystem.answer, Answers, h]
  | createNew path =>
    by_cases h : fs.entries path = none <;> simp [FileSystem.answer, Answers, h]
  | hardLink original link =>
    by_cases h : fs.entries link = none ∧ (fs.entries original).map Node.fileType = some .file
    · simp only [FileSystem.answer, if_pos h]
      exact h
    · simp only [FileSystem.answer, if_neg h]
      trivial
  | removeFile path =>
    cases h : fs.entries path with
    | none => simp [FileSystem.answer, Answers, h]
    | some node => by_cases hdirectory : node.fileType = .directory <;>
        simp [FileSystem.answer, Answers, h, hdirectory]
  | fromPath path =>
    cases h : fs.resolve maxSymlinks path <;> simp [FileSystem.answer, Answers, h]
  | openNoFollow path =>
    cases h : fs.entries path with
    | none => simp [FileSystem.answer, Answers, h]
    | some node => by_cases hlink : node.fileType = .symlink <;>
        simp [FileSystem.answer, Answers, h, hlink]
  | readSource =>
    show (sampleSource.drop _).length ≤ copyBufferBytes
    rw [List.length_drop]
    exact (Nat.sub_le _ _).trans (by decide)
  | fromFile => rfl
  | metadata file => exact ⟨rfl, fun _ => ⟨rfl, rfl⟩⟩
  | nextSequence => trivial
  | canonicalize path => trivial
  | openSource path => trivial
  | sourceMetadata => trivial
  | writeAll bytes => trivial
  | syncAll => trivial
  | tryClone => trivial

end

namespace Sample

/-- The digests of the source and of nothing. -/
def sha256 (bytes : List UInt8) : String :=
  if bytes = sampleSource then "9b75290f6a6359a2a3471022cbba4b724e45105b313ae8f6c103a2f79e82a857"
  else "e3b0c44298fc1c149afbf4c8996fb92427ae41e4649b934ca495991b7852b855"

def record : ArtifactRecord := ⟨"log", .sanitizedLog, "log.txt", 4, sha256 sampleSource, none⟩

def protocolPath : ProtocolPath := ⟨.clientAbsolute, "/d"⟩

def path : Path := [.rootDir, .normal ['d']]

/-- A root directory with a source. -/
def fileSystem : FileSystem where
  entries path :=
    if path = [.rootDir] then some (.foreign ⟨0, .directory⟩)
    else if path = [.rootDir, .normal ['s']] then some (.foreign ⟨1, .file 1⟩)
    else none
  contents := []
  names := []
  recent := []

def foreign : ForeignNode := ⟨2, .file 1⟩

/-- No file can be removed. -/
def stuck (fs : FileSystem) : (call : FileCall) → FileAnswer call
  | .removeFile _ => (.nothing, .error (.other 1))
  | call => (.nothing, fs.answer call)

/-- The temporary cannot be removed, and a file is placed just before the removal of the
destination. -/
def late (fs : FileSystem) : (call : FileCall) → FileAnswer call
  | .removeFile target =>
    if target = path then (.places foreign, .ok ()) else (.nothing, .error (.other 1))
  | call => (.nothing, fs.answer call)

/-- Every call succeeds. -/
def smooth (fs : FileSystem) (call : FileCall) : FileAnswer call := (.nothing, fs.answer call)

def copy : Prog FileCall FileAnswer (Except StoreError FileIdentity × Removals) :=
  atomicVerifiedCopy (fun _ => none) sha256 1 "/s" record protocolPath []

def outcome (answer : FileSystem → (call : FileCall) → FileAnswer call) :
    (Except StoreError FileIdentity × Removals) × FileSystem :=
  Prog.exec (copyContract path) answer copy fileSystem

theorem fileSystem_fresh : Fresh fileSystem := by
  intro path h
  simp only [fileSystem] at h
  split at h
  · cases h
  · split at h <;> cases h

/-- What is assumed of every answer, whatever the file system is, is true of the whole run. -/
theorem forall_of_assumed {D : Contract FileCall FileAnswer FileSystem} {P : Interference → Prop}
    (hassume : ∀ fs call answer, D.assume fs call answer → P answer.1) {fs : FileSystem}
    {history : History FileCall FileAnswer} (h : D.Assumed fs history) :
    ∀ event ∈ history, P event.response.1 := by
  induction history with
  | nil =>
    intro event hmem
    cases hmem
  | cons last earlier ih =>
    intro event hmem
    cases List.mem_cons.mp hmem with
    | inl hlast =>
      rw [hlast]
      exact hassume _ _ _ h.1
    | inr hearlier => exact ih h.2 event hearlier

/-- The run with given answers, if they are true and of a kind. -/
theorem exists_run {answer : FileSystem → (call : FileCall) → FileAnswer call}
    (htrue : ∀ (fs : FileSystem) call,
      (fs.interfere path (answer fs call).1).Answers call (answer fs call).2)
    {P : Interference → Prop} (hP : ∀ fs call, P (answer fs call).1) :
    ∃ history, Prog.Runs copy history (.ret (outcome answer).1) ∧
      (copyContract path).Assumed fileSystem history ∧
      (∀ event ∈ history, P event.response.1) ∧
      (copyContract path).view fileSystem history = (outcome answer).2 := by
  obtain ⟨history, hruns, hassumed, hview⟩ := @Prog.exists_runs_exec _ _ _ _ (copyContract path)
    answer copy copy fileSystem [] .start (fun _ _ _ => trivial)
  refine ⟨history, hruns, hassumed (copyContract path) rfl htrue, ?_, hview⟩
  exact forall_of_assumed (fun _ _ _ h => h)
    (hassumed { copyContract path with assume := fun _ _ answer => P answer.1 } rfl hP)

theorem stuck_true (fs : FileSystem) (call : FileCall) :
    (fs.interfere path (stuck fs call).1).Answers call (stuck fs call).2 := by
  cases call <;> first | exact trivial | exact answers_answer fs _

theorem late_true (fs : FileSystem) (call : FileCall) :
    (fs.interfere path (late fs call).1).Answers call (late fs call).2 := by
  cases call <;> first | exact answers_answer fs _ | skip
  case removeFile target =>
    by_cases htarget : target = path
    · simp only [late, if_pos htarget]
      refine ⟨.foreign foreign, ?_, by decide⟩
      rw [htarget]
      simp [interfere]
    · simp only [late, if_neg htarget]
      trivial

theorem outcomes :
    ((outcome stuck).1.1 = .error (.io (.other 1)) ∧
        (outcome stuck).2.entries path = some .created) ∧
      ((outcome late).1.1 = .error (.io (.other 1)) ∧ (outcome late).2.recent = [foreign] ∧
        (outcome late).2.entries path = none) ∧
      (outcome smooth).1 = (.ok .created, []) := by
  decide +kernel

end Sample

/-- A run without failures publishes the file. -/
theorem atomicVerifiedCopy_smooth :
    ∃ history, Prog.Runs Sample.copy history (.ret (.ok .created, [])) ∧
      Complete Sample.sha256 Sample.record Sample.path
        ((copyContract Sample.path).view Sample.fileSystem history) := by
  have htrue : ∀ (fs : FileSystem) call,
      (fs.interfere Sample.path (Sample.smooth fs call).1).Answers call (Sample.smooth fs call).2 :=
    answers_answer
  obtain ⟨history, hruns, hassumed, _, _⟩ := @Sample.exists_run _ htrue (fun _ => True)
    (fun _ _ => trivial)
  rw [Sample.outcomes.2.2] at hruns
  have hpath : destinationPath Sample.protocolPath = Sample.path := by decide +kernel
  rw [← hpath] at hassumed
  have hatomic := atomicVerifiedCopy_atomic (fun _ => none) Sample.sha256 1 "/s" Sample.record
    Sample.protocolPath Sample.fileSystem_fresh hruns hassumed
  rw [hpath] at hatomic
  exact ⟨history, hruns, (hatomic.2.1 _ _ rfl).2⟩

/-- Without interference the destination can keep the created file after an error, as when no file
can be removed; and a file that is placed there just before the removal is lost. -/
theorem atomicVerifiedCopy_leftover_or_loss :
    (∃ history error removals, Prog.Runs Sample.copy history (.ret (.error error, removals)) ∧
      (copyContract Sample.path).Assumed Sample.fileSystem history ∧
      (∀ event ∈ history, event.response.1 = .nothing) ∧
      ((copyContract Sample.path).view Sample.fileSystem history).entries Sample.path =
        some .created) ∧
    ∃ history error removals, Prog.Runs Sample.copy history (.ret (.error error, removals)) ∧
      (copyContract Sample.path).Assumed Sample.fileSystem history ∧
      (∀ event ∈ history, event.response.1 ≠ .removes) ∧
      ((copyContract Sample.path).view Sample.fileSystem history).recent = [Sample.foreign] ∧
      ((copyContract Sample.path).view Sample.fileSystem history).entries Sample.path = none := by
  constructor
  · obtain ⟨history, hruns, hassumed, hnothing, hview⟩ := @Sample.exists_run _ Sample.stuck_true
      (fun interference => interference = .nothing) (fun _ call => by cases call <;> rfl)
    obtain ⟨herror, hentry⟩ := Sample.outcomes.1
    refine ⟨history, .io (.other 1), (Sample.outcome Sample.stuck).1.2, ?_, hassumed, hnothing, ?_⟩
    · rw [← herror, Prod.eta]
      exact hruns
    · rw [hview]
      exact hentry
  · have hkept : ∀ fs call, (Sample.late fs call).1 ≠ .removes := by
      intro fs call
      cases call <;> first | exact Interference.noConfusion | skip
      case removeFile target =>
        simp only [Sample.late]
        split <;> exact Interference.noConfusion
    obtain ⟨history, hruns, hassumed, hnever, hview⟩ := @Sample.exists_run _ Sample.late_true
      (fun interference => interference ≠ .removes) hkept
    obtain ⟨herror, hrecent, hentry⟩ := Sample.outcomes.2.1
    refine ⟨history, .io (.other 1), (Sample.outcome Sample.late).1.2, ?_, hassumed, hnever, ?_⟩
    · rw [← herror, Prod.eta]
      exact hruns
    · rw [hview]
      exact ⟨hrecent, hentry⟩

end RustFerry.ArtifactStore
