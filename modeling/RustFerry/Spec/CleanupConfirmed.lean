import RustFerry.ForStd.Utf8
import RustFerry.Spec.WorkerRun

/-!
# Confirmed cleanup

A worker session claims a confirmed cleanup in three frames: the event
`cleanup_finished`, the completion, and an error that carries a confirmation. Success,
failure, cancellation, a lost control channel and the drop of the guard reach the cleanup
along different paths; on all of them the claim is made only after the session's own job
root tree was removed, and never in a session where the removal failed.
-/

namespace RustFerry.Snapshot

open Remote

/-- The session created a job root directory and removed it: the removal of the tree was
    answered with success, and after that the directory is known to be unlinked. -/
def RootRemoved (h : History WorkerOp WorkerRes) : Prop :=
  ∃ name directory identity removal late early, h = late ++ early ∧
    ⟨.isUnlinked identity, some true⟩ ∈ late ∧
    removal ≠ Removal.failed ∧ ⟨.removeTree directory, removal⟩ ∈ early ∧
    ⟨.createDirectory name, some directory⟩ ∈ h ∧
    ⟨.directoryIdentity directory, some identity⟩ ∈ h

/-- The removal of a tree failed, or the directory is not known to be unlinked after it. -/
def RemovalFailed (h : History WorkerOp WorkerRes) : Prop :=
  (∃ directory, ⟨.removeTree directory, Removal.failed⟩ ∈ h) ∨
    ∃ identity unlinked, unlinked ≠ some true ∧ ⟨.isUnlinked identity, unlinked⟩ ∈ h

/-- A frame that claims a confirmed cleanup was handed to the output. -/
def Confirms (h : History WorkerOp WorkerRes) : Prop :=
  ∃ frame result, ⟨.write frame, result⟩ ∈ h ∧ frame.message.confirmsCleanup = true

/-! ## What the view says about the events -/

/-- The view of the job root is witnessed by events. -/
structure Witnessed (h : History WorkerOp WorkerRes) (v : WorkerView) : Prop where
  directory : ∀ directory, v.directory = some directory →
    ∃ name, ⟨.createDirectory name, some directory⟩ ∈ h
  identity : ∀ identity, v.identity = some identity → ∃ directory,
    v.directory = some directory ∧ ⟨.directoryIdentity directory, some identity⟩ ∈ h
  removing : v.root = .removing → ∃ directory removal, v.directory = some directory ∧
    removal ≠ Removal.failed ∧ ⟨.removeTree directory, removal⟩ ∈ h
  removed : v.root = .removed → RootRemoved h
  failed : RemovalFailed h → v.root = .failed
  silent : v.root = .failed → v.confirmed = false
  confirmed : Confirms h → v.confirmed = true

section Events

variable {rules : SessionRules} {h : History WorkerOp WorkerRes} {v w : WorkerView}
  {e : Event WorkerOp WorkerRes}

/-- What was removed stays removed. -/
theorem RootRemoved.cons (hremoved : RootRemoved h) : RootRemoved (e :: h) := by
  obtain ⟨name, directory, identity, removal, late, early, rfl, hlate, hremoval, hearly, hcreate,
    hidentity⟩ := hremoved
  exact ⟨name, directory, identity, removal, e :: late, early, rfl, List.mem_cons_of_mem _ hlate,
    hremoval, hearly, List.mem_cons_of_mem _ hcreate, List.mem_cons_of_mem _ hidentity⟩

/-- An event that neither touches the job root nor confirms its cleanup. -/
def Plain (e : Event WorkerOp WorkerRes) : Prop :=
  (∀ directory, e ≠ ⟨.removeTree directory, .failed⟩) ∧
    (∀ identity unlinked, e ≠ ⟨.isUnlinked identity, unlinked⟩) ∧
    ∀ frame result, e = ⟨.write frame, result⟩ → frame.message.confirmsCleanup = false

theorem Plain.removalFailed (he : Plain e) (hfailed : RemovalFailed (e :: h)) :
    RemovalFailed h := by
  obtain ⟨directory, hmem⟩ | ⟨identity, unlinked, hne, hmem⟩ := hfailed
  · rcases List.mem_cons.mp hmem with hmem | hmem
    · exact absurd hmem.symm (he.1 directory)
    · exact .inl ⟨directory, hmem⟩
  · rcases List.mem_cons.mp hmem with hmem | hmem
    · exact absurd hmem.symm (he.2.1 identity unlinked)
    · exact .inr ⟨identity, unlinked, hne, hmem⟩

/-- A plain event confirms nothing. -/
theorem Plain.confirms (he : Plain e) (hconfirms : Confirms (e :: h)) : Confirms h := by
  obtain ⟨frame, result, hmem, hconfirms⟩ := hconfirms
  rcases List.mem_cons.mp hmem with hmem | hmem
  · rw [he.2.2 frame result hmem.symm] at hconfirms
    cases hconfirms
  · exact ⟨frame, result, hmem, hconfirms⟩

/-- An event that leaves the job root of the view as it is. -/
theorem Witnessed.plain (hw : Witnessed h v) (he : Plain e) (hdirectory : w.directory = v.directory)
    (hidentity : w.identity = v.identity) (hroot : w.root = v.root)
    (hconfirmed : w.confirmed = v.confirmed) : Witnessed (e :: h) w := by
  constructor
  · intro directory hsome
    obtain ⟨name, hmem⟩ := hw.directory directory (hdirectory ▸ hsome)
    exact ⟨name, List.mem_cons_of_mem _ hmem⟩
  · intro identity hsome
    obtain ⟨directory, hd, hmem⟩ := hw.identity identity (hidentity ▸ hsome)
    exact ⟨directory, hdirectory.trans hd, List.mem_cons_of_mem _ hmem⟩
  · intro hremoving
    obtain ⟨directory, removal, hd, hne, hmem⟩ := hw.removing (hroot ▸ hremoving)
    exact ⟨directory, removal, hdirectory.trans hd, hne, List.mem_cons_of_mem _ hmem⟩
  · intro hremoved
    exact (hw.removed (hroot ▸ hremoved)).cons
  · intro hfailed
    exact hroot.trans (hw.failed (he.removalFailed hfailed))
  · intro hfailed
    exact hconfirmed.trans (hw.silent (hroot ▸ hfailed))
  · intro hconfirms
    exact hconfirmed.trans (hw.confirmed (he.confirms hconfirms))

theorem plain_of_op {op : WorkerOp} {r : WorkerRes op} (hremove : ∀ d, op ≠ .removeTree d)
    (hunlinked : ∀ i, op ≠ .isUnlinked i) (hwrite : ∀ frame, op ≠ .write frame) :
    Plain ⟨op, r⟩ := by
  refine ⟨?_, ?_, ?_⟩
  · intro directory heq
    exact hremove directory (congrArg Event.op heq)
  · intro identity unlinked heq
    exact hunlinked identity (congrArg Event.op heq)
  · intro frame result heq
    exact absurd (congrArg Event.op heq) (hwrite frame)

/-- A removal, with the result it had. -/
theorem Witnessed.removeTree {directory : DirectoryHandle} {removal : Removal}
    (hw : Witnessed h v) (hallows : v.Allows rules (.removeTree directory) removal) :
    Witnessed (⟨.removeTree directory, removal⟩ :: h) (v.next (.removeTree directory) removal) := by
  obtain ⟨huntouched, hdirectory, hconfirmed⟩ := hallows
  have hnext : v.next (.removeTree directory) removal =
      { v with root := if removal = .failed then .failed else .removing } := rfl
  rw [hnext]
  -- the root is untouched, so no removal has failed before
  have hnotFailed : ¬RemovalFailed h := by
    intro hfailed
    exact nomatch huntouched.symm.trans (hw.failed hfailed)
  constructor
  · intro d hd
    obtain ⟨name, hmem⟩ := hw.directory d hd
    exact ⟨name, List.mem_cons_of_mem _ hmem⟩
  · intro i hi
    obtain ⟨d, hd, hmem⟩ := hw.identity i hi
    exact ⟨d, hd, List.mem_cons_of_mem _ hmem⟩
  · intro hremoving
    refine ⟨directory, removal, hdirectory, ?_, List.mem_cons_self⟩
    rintro rfl
    cases hremoving
  · intro hremoved
    exfalso
    dsimp only at hremoved
    split at hremoved
    · cases hremoved
    · cases hremoved
  · intro hfailed
    obtain ⟨d, hmem⟩ | ⟨i, u, hne, hmem⟩ := hfailed
    · rcases List.mem_cons.mp hmem with heq | hmem
      · cases heq
        rfl
      · exact (hnotFailed (.inl ⟨d, hmem⟩)).elim
    · rcases List.mem_cons.mp hmem with heq | hmem
      · cases heq
      · exact (hnotFailed (.inr ⟨i, u, hne, hmem⟩)).elim
  · intro _
    exact hconfirmed
  · rintro ⟨frame, result, hmem, hconfirms⟩
    rcases List.mem_cons.mp hmem with heq | hmem
    · cases heq
    · exact hw.confirmed ⟨frame, result, hmem, hconfirms⟩

/-- The look at a removed directory. -/
theorem Witnessed.isUnlinked {identity : FileIdentity} {unlinked : Option Bool}
    (hw : Witnessed h v) (hallows : v.Allows rules (.isUnlinked identity) unlinked) :
    Witnessed (⟨.isUnlinked identity, unlinked⟩ :: h)
      (v.next (.isUnlinked identity) unlinked) := by
  obtain ⟨hremoving, hidentity, hconfirmed⟩ := hallows
  have hnext : v.next (.isUnlinked identity) unlinked =
      { v with root := if unlinked = some true then .removed else .failed } := rfl
  rw [hnext]
  -- the tree that was removed is the one that is looked at
  obtain ⟨d, removal, hd, hremoval, hremove⟩ := hw.removing hremoving
  obtain ⟨name, hcreate⟩ := hw.directory d hd
  obtain ⟨d', hd', hfound⟩ := hw.identity identity hidentity
  obtain rfl : d = d' := Option.some.inj (hd.symm.trans hd')
  have hnotFailed : ¬RemovalFailed h := by
    intro hfailed
    exact nomatch hremoving.symm.trans (hw.failed hfailed)
  constructor
  · intro d hd
    obtain ⟨name, hmem⟩ := hw.directory d hd
    exact ⟨name, List.mem_cons_of_mem _ hmem⟩
  · intro i hi
    obtain ⟨d, hd, hmem⟩ := hw.identity i hi
    exact ⟨d, hd, List.mem_cons_of_mem _ hmem⟩
  · intro hstill
    exfalso
    dsimp only at hstill
    split at hstill
    · cases hstill
    · cases hstill
  · intro hremoved
    dsimp only at hremoved
    split at hremoved
    · rename_i htrue
      subst htrue
      exact ⟨name, d, identity, removal, [_], h, rfl, List.mem_cons_self, hremoval, hremove,
        List.mem_cons_of_mem _ hcreate, List.mem_cons_of_mem _ hfound⟩
    · cases hremoved
  · intro hfailed
    obtain ⟨d, hmem⟩ | ⟨i, u, hne, hmem⟩ := hfailed
    · rcases List.mem_cons.mp hmem with heq | hmem
      · cases heq
      · exact (hnotFailed (.inl ⟨d, hmem⟩)).elim
    · rcases List.mem_cons.mp hmem with heq | hmem
      · cases heq
        exact if_neg hne
      · exact (hnotFailed (.inr ⟨i, u, hne, hmem⟩)).elim
  · intro _
    exact hconfirmed
  · rintro ⟨frame, result, hmem, hconfirms⟩
    rcases List.mem_cons.mp hmem with heq | hmem
    · cases heq
    · exact hw.confirmed ⟨frame, result, hmem, hconfirms⟩

/-- The creation of the root. -/
theorem Witnessed.createDirectory {name : String} {created : Option DirectoryHandle}
    (hw : Witnessed h v) (hallows : v.Allows rules (.createDirectory name) created) :
    Witnessed (⟨.createDirectory name, created⟩ :: h)
      (v.next (.createDirectory name) created) := by
  obtain ⟨hdirectory, hidentity⟩ := hallows
  have hplain : Plain ⟨.createDirectory name, created⟩ :=
    plain_of_op (fun _ h => nomatch h) (fun _ h => nomatch h) fun _ h => nomatch h
  cases created with
  | none => exact hw.plain hplain rfl rfl rfl rfl
  | some directory =>
    have hstill : Witnessed (⟨.createDirectory name, some directory⟩ :: h) v :=
      hw.plain hplain rfl rfl rfl rfl
    refine ⟨?_, ?_, ?_, hstill.removed, hstill.failed, hstill.silent, hstill.confirmed⟩
    · intro d hd
      cases hd
      exact ⟨name, List.mem_cons_self⟩
    · intro i hi
      exact nomatch hidentity.symm.trans hi
    · intro hremoving
      obtain ⟨d, removal, hd, -⟩ := hw.removing hremoving
      exact nomatch hdirectory.symm.trans hd

/-- The identity of the root. -/
theorem Witnessed.directoryIdentity {directory : DirectoryHandle} {found : Option FileIdentity}
    (hw : Witnessed h v) (hallows : v.Allows rules (.directoryIdentity directory) found) :
    Witnessed (⟨.directoryIdentity directory, found⟩ :: h)
      (v.next (.directoryIdentity directory) found) := by
  have hdirectory : v.directory = some directory := hallows
  have hstill : Witnessed (⟨.directoryIdentity directory, found⟩ :: h) v :=
    hw.plain (plain_of_op (fun _ h => nomatch h) (fun _ h => nomatch h) fun _ h => nomatch h)
      rfl rfl rfl rfl
  cases found with
  | none => exact hstill
  | some identity =>
    refine ⟨hstill.directory, ?_, hstill.removing, hstill.removed, hstill.failed, hstill.silent,
      hstill.confirmed⟩
    intro i hi
    have hi : v.identity.or (some identity) = some i := hi
    cases hknown : v.identity with
    | none =>
      rw [hknown, Option.none_or] at hi
      cases hi
      exact ⟨directory, hdirectory, List.mem_cons_self⟩
    | some known =>
      rw [hknown, Option.some_or] at hi
      exact hstill.identity i (hknown.trans hi)

theorem confirmsCleanup_removed {frame : Frame ServerMessage}
    (result : Except DataPlane.WorkerDataPlaneFrameError Unit)
    (hallows : v.Allows rules (.write frame) result)
    (hconfirms : frame.message.confirmsCleanup = true) : v.root = .removed := by
  obtain ⟨-, -, hmessage⟩ := hallows
  cases hframe : frame.message with
  | event event =>
    rw [hframe] at hmessage hconfirms
    exact hmessage.2 hconfirms
  | complete complete =>
    rw [hframe] at hmessage
    exact hmessage.2.1
  | error error =>
    rw [hframe] at hmessage hconfirms
    exact hmessage.2.2.2.2.2 hconfirms
  | jobAccepted _ | artifactDescriptor _ | artifact _ =>
    rw [hframe] at hconfirms
    cases hconfirms

/-- A frame that confirms a cleanup has its witness. -/
theorem Witnessed.write {frame : Frame ServerMessage}
    {result : Except DataPlane.WorkerDataPlaneFrameError Unit} (hw : Witnessed h v)
    (hallows : v.Allows rules (.write frame) result) :
    Witnessed (⟨.write frame, result⟩ :: h) (v.next (.write frame) result) := by
  have hview : (v.next (.write frame) result).directory = v.directory ∧
      (v.next (.write frame) result).identity = v.identity ∧
      (v.next (.write frame) result).root = v.root ∧
      (v.next (.write frame) result).confirmed =
        (v.confirmed || frame.message.confirmsCleanup) := by
    obtain ⟨sequence, message⟩ := frame
    cases result with
    | ok u => cases message <;> exact ⟨rfl, rfl, rfl, rfl⟩
    | error e => exact ⟨rfl, rfl, rfl, rfl⟩
  obtain ⟨hdirectory, hidentity, hroot, hconfirmed⟩ := hview
  cases hconfirms : frame.message.confirmsCleanup with
  | false =>
    rw [hconfirms, Bool.or_false] at hconfirmed
    refine hw.plain ⟨?_, ?_, ?_⟩ hdirectory hidentity hroot hconfirmed
    · intro _ heq
      cases heq
    · intro _ _ heq
      cases heq
    · rintro frame' result' heq
      cases heq
      exact hconfirms
  | true =>
    -- the root is removed, so no removal has failed
    have hremoved := confirmsCleanup_removed result hallows hconfirms
    rw [hconfirms, Bool.or_true] at hconfirmed
    refine ⟨?_, ?_, ?_, fun _ => (hw.removed hremoved).cons, ?_, ?_, fun _ => hconfirmed⟩
    · intro d hd
      obtain ⟨name, hmem⟩ := hw.directory d (hdirectory ▸ hd)
      exact ⟨name, List.mem_cons_of_mem _ hmem⟩
    · intro i hi
      obtain ⟨d, hd, hmem⟩ := hw.identity i (hidentity ▸ hi)
      exact ⟨d, hdirectory.trans hd, List.mem_cons_of_mem _ hmem⟩
    · intro hremoving
      exact nomatch hremoved.symm.trans (hroot.symm.trans hremoving)
    · intro hfailed
      have hfailed' : RemovalFailed h := by
        obtain ⟨d, hmem⟩ | ⟨i, u, hne, hmem⟩ := hfailed
        · rcases List.mem_cons.mp hmem with heq | hmem
          · cases heq
          · exact .inl ⟨d, hmem⟩
        · rcases List.mem_cons.mp hmem with heq | hmem
          · cases heq
          · exact .inr ⟨i, u, hne, hmem⟩
      exact nomatch hremoved.symm.trans (hw.failed hfailed')
    · intro hfailed
      exact nomatch hremoved.symm.trans (hroot.symm.trans hfailed)

theorem next_root {op : WorkerOp} {r : WorkerRes op} (hcreate : ∀ name, op ≠ .createDirectory name)
    (hfound : ∀ d, op ≠ .directoryIdentity d) (hremove : ∀ d, op ≠ .removeTree d)
    (hunlinked : ∀ i, op ≠ .isUnlinked i) (hwrite : ∀ frame, op ≠ .write frame) :
    (v.next op r).directory = v.directory ∧ (v.next op r).identity = v.identity ∧
      (v.next op r).root = v.root ∧ (v.next op r).confirmed = v.confirmed := by
  unfold WorkerView.next
  split <;> first
    | exact ⟨rfl, rfl, rfl, rfl⟩
    | exact absurd rfl (hcreate _)
    | exact absurd rfl (hfound _)
    | exact absurd rfl (hremove _)
    | exact absurd rfl (hunlinked _)
    | exact absurd rfl (hwrite _)

/-- What one event preserves. -/
theorem Witnessed.next {op : WorkerOp} {r : WorkerRes op} (hw : Witnessed h v)
    (hallows : v.Allows rules op r) : Witnessed (⟨op, r⟩ :: h) (v.next op r) := by
  cases op with
  | createDirectory name => exact hw.createDirectory hallows
  | directoryIdentity directory => exact hw.directoryIdentity hallows
  | removeTree directory => exact hw.removeTree hallows
  | isUnlinked identity => exact hw.isUnlinked hallows
  | write frame => exact hw.write hallows
  | step _ | readHeader | readPayload | newUuid | clock | syncWorkerRoot | spawnMonitor _
  | streamArtifact _ _ | flush | compile _ _ | isCancelled | tryReceiveControl | receiveControl
  | allowReceipt =>
    obtain ⟨hdirectory, hidentity, hroot, hconfirmed⟩ := next_root (v := v) (r := r)
      (fun _ h => nomatch h) (fun _ h => nomatch h) (fun _ h => nomatch h) (fun _ h => nomatch h)
      fun _ h => nomatch h
    exact hw.plain (plain_of_op (fun _ h => nomatch h) (fun _ h => nomatch h) fun _ h => nomatch h)
      hdirectory hidentity hroot hconfirmed

/-- What a whole run preserves. -/
theorem witnessed_of_guaranteed (hgood : (workerContract rules).Guaranteed .init h) :
    Witnessed h ((workerContract rules).view .init h) := by
  induction h with
  | nil =>
    refine ⟨fun _ h => (nomatch h), fun _ h => (nomatch h), fun h => (nomatch h),
      fun h => (nomatch h), ?_, fun h => (nomatch h), ?_⟩
    · rintro (⟨_, hmem⟩ | ⟨_, _, _, hmem⟩) <;> cases hmem
    · rintro ⟨_, _, hmem, _⟩
      cases hmem
  | cons e h ih =>
    obtain ⟨hevent, hearlier⟩ := hgood
    exact (ih hearlier).next hevent

theorem guaranteed_of_runs {workerRoot : String}
    {q : Prog WorkerOp WorkerRes (Except SnapshotSessionServeError Unit)}
    (hruns : Prog.Runs (serveSnapshotSession rules workerRoot) h q) :
    (workerContract rules).Guaranteed .init h := by
  have hassumed : ∀ h, (workerContract rules).Assumed .init h := by
    intro h
    induction h with
    | nil => trivial
    | cons e h ih => exact ⟨trivial, ih⟩
  exact (Prog.wp_of_runs (wp_serveSnapshotSession rules workerRoot) hruns (hassumed h)).1

end Events

/-- In every run of a worker session, whatever fails and whoever cancels, a frame that claims
    a confirmed cleanup is handed to the output only after the session's own job root tree was
    removed; and if a removal failed, no such frame is written in that run, before or after. -/
theorem confirmation_only_after_removal (rules : SessionRules) (workerRoot : String)
    (h : History WorkerOp WorkerRes)
    (q : Prog WorkerOp WorkerRes (Except SnapshotSessionServeError Unit))
    (hruns : Prog.Runs (serveSnapshotSession rules workerRoot) h q) :
    (∀ late early frame result, h = late ++ ⟨.write frame, result⟩ :: early →
      frame.message.confirmsCleanup = true → RootRemoved early) ∧
    (RemovalFailed h → ¬Confirms h) := by
  have hgood := guaranteed_of_runs hruns
  constructor
  · rintro late early frame result rfl hconfirms
    obtain ⟨hevent, hearlier⟩ := Contract.guaranteed_append hgood
    exact (witnessed_of_guaranteed hearlier).removed (confirmsCleanup_removed result hevent hconfirms)
  · intro hfailed hconfirms
    have hw := witnessed_of_guaranteed hgood
    have hsilent := hw.silent (hw.failed hfailed)
    rw [hw.confirmed hconfirms] at hsilent
    cases hsilent

/-! ## A session that fails after its job root was created -/

namespace Sample

def utf8 (text : String) : List UInt8 := text.toByteArray.data.toList

def archive : SourceArchive := ⟨22, "8739c76e681f900923b900c9df0ef75cf421d39cabb54650c4b9ad19b6a76d85"⟩

/-- An empty ZIP. -/
def archiveBytes : List UInt8 := [0x50, 0x4b, 5, 6] ++ List.replicate 18 0

def descriptor : SourceBundleDescriptor where
  schemaVersion := 1
  archive := archive
  manifest := {
    schemaVersion := 1
    projectPath := "."
    entries := [⟨"Cargo.toml", 10,
      "8a3cd5a81b3f9a621aa493d90c45f42ab571d4e42b8ae5aff351cb0a02d06d82", false⟩]
    totalSize := 10
    sha256 := "3237589487aa53b430e440cec65a8c6c93f9154ae7dbc259051055d5b8b01c4e" }

def descriptorBytes : List UInt8 := utf8
  "\x7b\"schema_version\":1,\"archive\":\x7b\"size\":22,\"sha256\":\"8739c76e681f900923b900c9df0ef75cf421d39cabb54650c4b9ad19b6a76d85\"\x7d,\"manifest\":\x7b\"schema_version\":1,\"project_path\":\".\",\"entries\":[\x7b\"path\":\"Cargo.toml\",\"size\":10,\"sha256\":\"8a3cd5a81b3f9a621aa493d90c45f42ab571d4e42b8ae5aff351cb0a02d06d82\",\"executable\":false\x7d],\"total_size\":10,\"sha256\":\"3237589487aa53b430e440cec65a8c6c93f9154ae7dbc259051055d5b8b01c4e\"\x7d\x7d"

def artifactBytes : List UInt8 := utf8 "sealed archive"

/-- The bytes of `descriptorBytes`, written out. -/
def sourceJson : List UInt8 :=
  [123, 34, 115, 99, 104, 101, 109, 97, 95, 118, 101, 114, 115, 105, 111, 110, 34, 58, 49, 44, 34,
    97, 114, 99, 104, 105, 118, 101, 34, 58, 123, 34, 115, 105, 122, 101, 34, 58, 50, 50, 44, 34,
    115, 104, 97, 50, 53, 54, 34, 58, 34, 56, 55, 51, 57, 99, 55, 54, 101, 54, 56, 49, 102, 57,
    48, 48, 57, 50, 51, 98, 57, 48, 48, 99, 57, 100, 102, 48, 101, 102, 55, 53, 99, 102, 52, 50,
    49, 100, 51, 57, 99, 97, 98, 98, 53, 52, 54, 53, 48, 99, 52, 98, 57, 97, 100, 49, 57, 98, 54,
    97, 55, 54, 100, 56, 53, 34, 125, 44, 34, 109, 97, 110, 105, 102, 101, 115, 116, 34, 58, 123,
    34, 115, 99, 104, 101, 109, 97, 95, 118, 101, 114, 115, 105, 111, 110, 34, 58, 49, 44, 34,
    112, 114, 111, 106, 101, 99, 116, 95, 112, 97, 116, 104, 34, 58, 34, 46, 34, 44, 34, 101, 110,
    116, 114, 105, 101, 115, 34, 58, 91, 123, 34, 112, 97, 116, 104, 34, 58, 34, 67, 97, 114, 103,
    111, 46, 116, 111, 109, 108, 34, 44, 34, 115, 105, 122, 101, 34, 58, 49, 48, 44, 34, 115, 104,
    97, 50, 53, 54, 34, 58, 34, 56, 97, 51, 99, 100, 53, 97, 56, 49, 98, 51, 102, 57, 97, 54, 50,
    49, 97, 97, 52, 57, 51, 100, 57, 48, 99, 52, 53, 102, 52, 50, 97, 98, 53, 55, 49, 100, 52,
    101, 52, 50, 98, 56, 97, 101, 53, 97, 102, 102, 51, 53, 49, 99, 98, 48, 97, 48, 50, 100, 48,
    54, 100, 56, 50, 34, 44, 34, 101, 120, 101, 99, 117, 116, 97, 98, 108, 101, 34, 58, 102, 97,
    108, 115, 101, 125, 93, 44, 34, 116, 111, 116, 97, 108, 95, 115, 105, 122, 101, 34, 58, 49,
    48, 44, 34, 115, 104, 97, 50, 53, 54, 34, 58, 34, 51, 50, 51, 55, 53, 56, 57, 52, 56, 55, 97,
    97, 53, 51, 98, 52, 51, 48, 101, 52, 52, 48, 99, 101, 99, 54, 53, 97, 56, 99, 54, 99, 57, 51,
    102, 57, 49, 53, 52, 97, 101, 55, 100, 98, 99, 50, 53, 57, 48, 53, 49, 48, 53, 53, 100, 53,
    98, 56, 98, 48, 49, 99, 52, 101, 34, 125, 125]

/-- The bytes of `artifactBytes`, written out. -/
def sealedArchive : List UInt8 := [115, 101, 97, 108, 101, 100, 32, 97, 114, 99, 104, 105, 118, 101]

def start : SnapshotBuildStart where
  schemaVersion := 1
  parameters := {
    protocolVersion := currentProtocolVersion
    operationId := "operation-1"
    build := "\x7b\"product_name\":\"App\",\"bundle_identifier\":\"com.example.app\",\"minimum_ios_version\":\"16.0\",\"product\":\x7b\"app_directory_name\":\"App.app\",\"executable\":\"App\",\"app_version\":\"1.0\",\"build_number\":\"1\",\"nested_bundles\":[]\x7d,\"profile\":\"release\",\"signing\":\x7b\"mode\":\"unsigned-compile-only\",\"signing\":null,\"team\":null,\"device\":null,\"targets\":[\x7b\"name\":\"App\",\"bundle_identifier\":\"com.example.app\",\"kind\":\"application\"\x7d],\"provisioning\":[],\"entitlements\":[],\"allow_provisioning_updates\":false\x7d,\"requested_artifacts\":[\"xcarchive\"]\x7d" }
  sourceDescriptorSize := 400
  sourceDescriptorSha256 := "9b3b704273162857cb4a0754dea65cce80a03352418c8c507f51638e735220a6"
  sourceArchive := archive

/-- The rules of the session, as far as the samples use them. -/
def rules : SessionRules where
  validateShape _ := true
  validateDescriptor _ := true
  validateRequest _ := true
  canonicalRequestSha256 _ :=
    some "040cbc992a366e79ada31bb639416b4e9ccd1d69042173550a1c450d5b90ac00"
  validateCompileEvidence _ := true
  parseDescriptor bytes := if bytes = descriptorBytes then some descriptor else none
  sha256 bytes :=
    if bytes = descriptorBytes then start.sourceDescriptorSha256
    else if bytes = archiveBytes then archive.sha256
    else if bytes = artifactBytes then
      "84e464b65a7fedb3408d2125c5696eb70bb16ae5f2a9ee352f9d91d2c994b7fd"
    else ""
  parseUrl _ := none

/-- The frames of the client. -/
def uploads : List (Frame ClientMessage) :=
  [⟨0, .buildRequest start⟩, ⟨1, .sourceDescriptor descriptorBytes⟩,
    ⟨2, .sourceArchive archiveBytes⟩]

def isRead : Event WorkerOp WorkerRes → Bool
  | ⟨.readPayload, _⟩ => true
  | _ => false

def headerOf (frame : Frame ClientMessage) : FrameHeader :=
  ⟨frame.message.kind, frame.sequence, UInt64.ofNat (frame.message.bytes?.getD []).length⟩

/-- Everything succeeds but the file for the source archive. -/
def answer (h : History WorkerOp WorkerRes) : (op : WorkerOp) → WorkerRes op
  | .step step => step ≠ .createSourceArchive
  | .readHeader =>
    match uploads[h.countP isRead]? with
    | some frame => .ok (headerOf frame)
    | none => .error ⟨.emptyInput, false⟩
  | .readPayload =>
    match uploads[h.countP isRead]? with
    | some frame => .ok frame.message
    | none => .error ⟨.truncatedPayload, false⟩
  | .newUuid => "0123456789abcdef0123456789abcdef"
  | .clock => 0
  | .createDirectory _ => some 3
  | .directoryIdentity _ => some 7
  | .removeTree _ => .removed
  | .isUnlinked _ => some true
  | .syncWorkerRoot => true
  | .spawnMonitor _ => true
  | .write _ => .ok ()
  | .streamArtifact _ _ => .failed .io true
  | .flush => true
  | .compile _ _ => .error ⟨"build_failed", "build failed", false⟩
  | .isCancelled => false
  | .tryReceiveControl => none
  | .receiveControl => .error .timeout
  | .allowReceipt => ()

def failedRun : History WorkerOp WorkerRes ×
    Prog WorkerOp WorkerRes (Except SnapshotSessionServeError Unit) :=
  Prog.drive answer 64 (serveSnapshotSession rules "/worker") []

def confirmsB : Event WorkerOp WorkerRes → Bool
  | ⟨.write frame, _⟩ => frame.message.confirmsCleanup
  | _ => false

theorem confirms_of_any {h : History WorkerOp WorkerRes} (hany : h.any confirmsB = true) :
    Confirms h := by
  obtain ⟨⟨op, result⟩, hmem, hconfirms⟩ := List.any_eq_true.mp hany
  cases op with
  | write frame => exact ⟨frame, result, hmem, hconfirms⟩
  | _ => exact absurd hconfirms Bool.false_ne_true

set_option maxRecDepth 4000 in
theorem descriptorBytes_eq : descriptorBytes = sourceJson :=
  (Text.utf8_ofList _).trans (by decide +kernel)

theorem confirmsB_failedRun : failedRun.1.any confirmsB = true := by
  -- The encoding of the descriptor is compared as the bytes that it is.
  delta failedRun answer uploads rules
  rw [descriptorBytes_eq]
  decide +kernel

/-- The failed session confirms its cleanup, so it did not fail to remove its job root. -/
theorem confirmation_of_failedRun : Confirms failedRun.1 ∧ ¬RemovalFailed failedRun.1 := by
  have hconfirms : Confirms failedRun.1 := confirms_of_any confirmsB_failedRun
  have hruns : Prog.Runs (serveSnapshotSession rules "/worker") failedRun.1 failedRun.2 :=
    Prog.runs_drive 64 .start
  have hremoval := (confirmation_only_after_removal rules "/worker" _ _ hruns).2
  exact ⟨hconfirms, fun hfailed => hremoval hfailed hconfirms⟩

end Sample

end RustFerry.Snapshot
