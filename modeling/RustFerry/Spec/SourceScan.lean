import RustFerry.Spec.SourcePaths

/-!
# What the scan selects

The scan of the planner walks a stack of paths and remembers what it has seen. Here it is
compared with the set it is meant to compute: the files that can be reached from an include
root through directories that the rules of the bundle allow by name.
-/

namespace RustFerry.Source

open Except Snapshot

variable {root path : FsPath} {display : String} {file : RegularFile}
  {budget budget' : TraversalBudget} {state state' : ScanState} {pushed roots : List FsPath}
  {env : ScanEnv}

/-! ## Reachable files -/

/-- The rules on names let the scan look at a path. -/
def Admitted (env : ScanEnv) (path : FsPath) : Prop :=
  path = [] ∨
    (isSensitivePath env.tools.unicode (displayRelativePath path) = false ∧
      isWorkspaceExcluded (displayRelativePath path) env.exclusions = false ∧
      isIgnored (displayRelativePath path) env.ignoreRules = false)

/-- A directory that has a child of this name. -/
def Lists (env : ScanEnv) (path : FsPath) (name : List Char) : Prop :=
  ∃ entries, env.host.lookup (env.root ++ path) = .directory (some entries) ∧ .name name ∈ entries

/-- A path that is reached from a root through admitted directories. -/
inductive Reaches (env : ScanEnv) (root : FsPath) : FsPath → Prop where
  | root : Admitted env root → Reaches env root root
  | child {path : FsPath} {name : List Char} : Reaches env root path → Lists env path name →
      Admitted env (path ++ [name]) → Reaches env root (path ++ [name])

theorem Reaches.admitted (h : Reaches env root path) : Admitted env path := by
  cases h with
  | root h => exact h
  | child _ _ h => exact h

theorem Reaches.isPrefix (h : Reaches env root path) : root <+: path := by
  induction h with
  | root _ => exact List.prefix_refl _
  | child _ _ _ ih => exact ih.trans (List.prefix_append _ _)

theorem Reaches.validPath (hroot : ValidPath root) (h : Reaches env root path) :
    ValidPath path := by
  induction h with
  | root _ => exact hroot
  | child _ hlists _ ih =>
    obtain ⟨entries, hlookup, hname⟩ := hlists
    exact ih.append_singleton (env.host.names_valid _ _ _ hlookup hname)

/-- Every path between the root and a reached path is admitted. -/
theorem Reaches.admitted_between {front : FsPath} (h : Reaches env root path)
    (hroot : root <+: front) (hfront : front <+: path) : Admitted env front := by
  induction h with
  | root h =>
    rw [List.IsPrefix.eq_of_length hfront (le_antisymm hfront.length_le hroot.length_le)]
    exact h
  | @child path name hreach _ hadmitted ih =>
    rcases List.prefix_concat_iff.mp hfront with rfl | hfront
    · exact hadmitted
    · exact ih hfront

/-- The entry that the manifest has for a file. -/
structure EntryOf (env : ScanEnv) (path : FsPath) (file : RegularFile)
    (entry : SourceManifestEntry) : Prop where
  path_eq : entry.path = displayRelativePath path
  size_eq : entry.size = file.size
  executable_eq : entry.executable = file.executable
  links_eq : file.links = 1
  contents_eq : ∃ contents, file.contents = some contents ∧ contents.length = file.size.toNat ∧
    entry.sha256 = env.tools.sha256 contents ∧
    rejectSensitiveContents entry.path contents = .ok ()

/-! ## One turn -/

/-- A visited path is admitted. -/
theorem admit_eq_ok {admission : Admission} (hvalid : ValidPath path)
    (h : admitPath env path = .ok admission) : admission = .visit ↔ Admitted env path := by
  unfold admitPath at h
  by_cases hdot : displayRelativePath path = "."
  · rw [if_pos (by simp [hdot])] at h
    cases h
    exact iff_of_true rfl (Or.inl ((display_eq_dot_iff hvalid).mp hdot))
  · have hne : path ≠ [] := fun hnil => hdot ((display_eq_dot_iff hvalid).mpr hnil)
    rw [if_neg (by simp [hdot])] at h
    simp only [check_bind_eq_ok] at h
    obtain ⟨-, -, hadmission⟩ := h
    cases hadmission
    unfold Admitted
    split_ifs with hsensitive hexcluded hignored
    · simp [hne, hsensitive]
    · simp [hne, hexcluded]
    · simp [hne, hignored]
    · simp [hsensitive, hexcluded, hignored]

/-- The budget of a traversal. -/
theorem consume_eq_ok {count : Nat} {path : Option String} :
    budget.consume count path = .ok budget' ↔
      budget.visited + count ≤ budget.maximum ∧
        budget' = { budget with visited := budget.visited + count } := by
  rw [TraversalBudget.consume, check_bind_eq_ok, rejectIf_eq_ok]
  simp only [decide_eq_false_iff_not, Nat.not_lt, gt_iff_lt]
  constructor
  · intro hparts
    obtain ⟨hle, heq⟩ := hparts
    exact ⟨hle, (Except.ok.inj heq).symm⟩
  · intro hparts
    obtain ⟨hle, heq⟩ := hparts
    rw [heq]
    exact ⟨hle, rfl⟩

/-- Reading the entries of a directory takes all of them, which are names, and pays for
    each. -/
theorem foldlM_readDirectoryChild {list : List DirEntry} {front children : List (List Char)}
    (h : list.foldlM (readDirectoryChild display) (front, budget) = .ok (children, budget')) :
    ∃ rest, children = front ++ rest ∧ list = rest.map .name ∧
      rest.length ≤ budget.maximum - budget.visited ∧
      budget' = { budget with visited := budget.visited + rest.length } := by
  induction list generalizing front budget with
  | nil =>
    obtain ⟨rfl, rfl⟩ := Prod.mk.inj (Except.ok.inj h)
    exact ⟨[], by simp, rfl, by simp, rfl⟩
  | cons entry list ih =>
    rw [List.foldlM_cons, bind_eq_ok] at h
    obtain ⟨⟨front', budget₁⟩, hentry, hrest⟩ := h
    rw [readDirectoryChild, bind_eq_ok] at hentry
    obtain ⟨paid, hpaid, hentry⟩ := hentry
    obtain ⟨hle, rfl⟩ := consume_eq_ok.mp hpaid
    cases entry with
    | failed => cases hentry
    | nonUtf8 => cases hentry
    | name name =>
      obtain ⟨rfl, rfl⟩ := Prod.mk.inj (Except.ok.inj hentry)
      obtain ⟨rest, hchildren, hlist, hlength, hbudget⟩ := ih hrest
      refine ⟨name :: rest, ?_, ?_, ?_, ?_⟩
      · rw [hchildren, List.append_assoc]
        rfl
      · rw [hlist]
        rfl
      · simp only [List.length_cons] at hlength ⊢
        omega
      · rw [hbudget, List.length_cons]
        simp only [TraversalBudget.mk.injEq, true_and]
        omega

/-- The children, paid by the budget. -/
theorem readDirectoryChildren_eq_ok {entries : Option (List DirEntry)} {children : List (List Char)}
    (h : readDirectoryChildren entries display budget = .ok (children, budget')) :
    entries = some (children.map .name) ∧
      children.length ≤ budget.maximum - budget.visited ∧
      budget' = { budget with visited := budget.visited + children.length } := by
  cases entries with
  | none => cases h
  | some list =>
    obtain ⟨rest, hchildren, hlist, hlength, hbudget⟩ := foldlM_readDirectoryChild h
    rw [List.nil_append] at hchildren
    subst hchildren
    exact ⟨congrArg some hlist, hlength, hbudget⟩

/-- What is left of the budget of a scan. -/
def ScanState.credit (state : ScanState) : Nat :=
  state.traversal.maximum - state.traversal.visited

/-- A directory is no entry. -/
theorem registerDirectory_eq_ok (h : registerDirectory env state display = .ok state') :
    state'.entries = state.entries ∧ state'.visitedDirectories = state.visitedDirectories ∧
      state'.traversal = state.traversal := by
  unfold registerDirectory at h
  by_cases hdot : (display == ".") = true
  · rw [if_pos hdot] at h
    cases h
    exact ⟨rfl, rfl, rfl⟩
  · rw [if_neg hdot, bind_eq_ok] at h
    obtain ⟨collisions, -, h⟩ := h
    cases h
    exact ⟨rfl, rfl, rfl⟩

/-- The scan at a directory either has seen it before, or puts its children on the stack. -/
theorem visitDirectory_cases {entries : Option (List DirEntry)}
    (h : visitDirectory env state path entries = .ok (state', pushed)) :
    state'.entries = state.entries ∧ pushed.length + state'.credit ≤ state.credit ∧
    ((displayRelativePath path ∈ state.visitedDirectories ∧ pushed = [] ∧
        state'.visitedDirectories = state.visitedDirectories) ∨
      (displayRelativePath path ∉ state.visitedDirectories ∧
        state'.visitedDirectories = displayRelativePath path :: state.visitedDirectories ∧
        ∃ children : List (List Char), entries = some (children.map .name) ∧
          ∀ child, child ∈ pushed ↔ ∃ name ∈ children, child = path ++ [name])) := by
  rw [visitDirectory, bind_eq_ok] at h
  obtain ⟨registered, hregistered, h⟩ := h
  obtain ⟨hentries, hvisited, htraversal⟩ := registerDirectory_eq_ok hregistered
  rw [← hentries, ← hvisited]
  have hcredit : registered.credit = state.credit := by
    rw [ScanState.credit, htraversal, ScanState.credit]
  rw [← hcredit]
  -- a directory is listed once, whichever root leads to it
  by_cases hseen : displayRelativePath path ∈ registered.visitedDirectories
  · rw [if_pos (List.contains_iff_mem.mpr hseen)] at h
    obtain ⟨rfl, rfl⟩ := Prod.mk.inj (Except.ok.inj h)
    exact ⟨rfl, by simp, Or.inl ⟨hseen, rfl, rfl⟩⟩
  · rw [if_neg (fun hcontains => hseen (List.contains_iff_mem.mp hcontains)), bind_eq_ok] at h
    obtain ⟨⟨children, traversal⟩, hread, h⟩ := h
    obtain ⟨hlist, hlength, rfl⟩ := readDirectoryChildren_eq_ok hread
    obtain ⟨rfl, rfl⟩ := Prod.mk.inj (Except.ok.inj h)
    refine ⟨rfl, ?_, Or.inr ⟨hseen, rfl, children, hlist, ?_⟩⟩
    · simp only [ScanState.credit, List.length_map, List.length_insertionSort] at hlength ⊢
      omega
    · intro child
      simp only [List.mem_map, List.mem_insertionSort]
      constructor
      · intro hparts
        obtain ⟨name, hname, hchild⟩ := hparts
        exact ⟨name, hname, hchild.symm⟩
      · intro hparts
        obtain ⟨name, hname, hchild⟩ := hparts
        exact ⟨name, hname, hchild.symm⟩

theorem rejectLinkCount_eq_ok {links : Nat} {path : String} :
    rejectLinkCount links path = .ok () ↔ links = 1 := by
  unfold rejectLinkCount
  split
  · simp
  · simp
  · rename_i hone _
    simpa using hone

/-- A file that was read has its contents as its metadata say. -/
theorem readBoundedFile_eq_ok {maximum : UInt64} {kind : SourceLimitKind} {contents : List UInt8}
    (h : readBoundedFile file display maximum kind = .ok contents) :
    file.links = 1 ∧ file.contents = some contents ∧ contents.length = file.size.toNat := by
  rw [readBoundedFile, check_bind_eq_ok, rejectLinkCount_eq_ok] at h
  obtain ⟨hlinks, h⟩ := h
  cases hcontents : file.contents with
  | none =>
    rw [hcontents] at h
    cases h
  | some bytes =>
    have hbound := file.bounded bytes (by rw [hcontents]; rfl)
    rw [hcontents] at h
    simp only [check_bind_eq_ok, rejectIf_eq_ok, decide_eq_false_iff_not, bne_eq_false_iff_eq] at h
    obtain ⟨hmaximum, hsize, heq⟩ := h
    -- nothing was cut off
    have hall : bytes.take (min (maximum.toNat + 1) (2 ^ 64 - 1)) = bytes := by
      apply List.take_of_length_le
      rw [List.length_take] at hmaximum
      omega
    rw [hall] at heq hsize
    cases heq
    exact ⟨hlinks, rfl, hsize⟩

/-- A file is one entry more. -/
theorem addEntry_eq_ok (h : addEntry env state (displayRelativePath path) file = .ok state') :
    state'.visitedDirectories = state.visitedDirectories ∧ state'.traversal = state.traversal ∧
      ∃ entry, EntryOf env path file entry ∧
        state'.entries = BTreeMap.insert (displayRelativePath path) entry state.entries := by
  unfold addEntry at h
  simp only [check_bind_eq_ok, rejectIf_eq_ok] at h
  obtain ⟨-, -, -, -, h⟩ := h
  obtain ⟨contents, hread, h⟩ := bind_eq_ok.mp h
  obtain ⟨hsensitive, h⟩ := check_bind_eq_ok.mp h
  obtain ⟨hlinks, hcontents, hsize⟩ := readBoundedFile_eq_ok hread
  cases h
  exact ⟨rfl, rfl, _, ⟨rfl, rfl, rfl, hlinks, contents, hcontents, hsize, rfl, hsensitive⟩, rfl⟩

/-- The scan at a file either has its entry already, or adds it. -/
theorem visitFile_cases (h : visitFile env state path file = .ok state') :
    state'.visitedDirectories = state.visitedDirectories ∧ state'.traversal = state.traversal ∧
    ((state'.entries = state.entries ∧ ∃ entry, (displayRelativePath path, entry) ∈ state.entries) ∨
      ∃ entry, EntryOf env path file entry ∧
        state'.entries = BTreeMap.insert (displayRelativePath path) entry state.entries) := by
  rw [visitFile, check_bind_eq_ok] at h
  obtain ⟨-, h⟩ := h
  obtain ⟨collisions, -, h⟩ := bind_eq_ok.mp h
  dsimp only at h
  split at h
  · rename_i hany
    cases h
    obtain ⟨⟨key, entry⟩, hmem, hkey⟩ := List.any_eq_true.mp hany
    obtain rfl : key = _ := by simpa using hkey
    exact ⟨rfl, rfl, Or.inl ⟨rfl, entry, hmem⟩⟩
  · obtain ⟨hvisited, htraversal, hentry⟩ := addEntry_eq_ok h
    exact ⟨hvisited, htraversal, Or.inr hentry⟩

/-- What one turn of the scan does with the path from the top of the stack. -/
inductive Turn (env : ScanEnv) (path : FsPath) (state state' : ScanState) :
    List FsPath → Prop where
  | rejected : ¬ Admitted env path → state'.entries = state.entries →
      state'.visitedDirectories = state.visitedDirectories → Turn env path state state' []
  | seen {entries : Option (List DirEntry)} : Admitted env path →
      env.host.lookup (env.root ++ path) = .directory entries →
      displayRelativePath path ∈ state.visitedDirectories → state'.entries = state.entries →
      state'.visitedDirectories = state.visitedDirectories → Turn env path state state' []
  | directory {pushed : List FsPath} {children : List (List Char)} : Admitted env path →
      env.host.lookup (env.root ++ path) = .directory (some (children.map .name)) →
      (∀ child, child ∈ pushed ↔ ∃ name ∈ children, child = path ++ [name]) →
      state'.entries = state.entries →
      state'.visitedDirectories = displayRelativePath path :: state.visitedDirectories →
      Turn env path state state' pushed
  | file {file : RegularFile} : Admitted env path →
      env.host.lookup (env.root ++ path) = .file file →
      ((state'.entries = state.entries ∧
          ∃ entry, (displayRelativePath path, entry) ∈ state.entries) ∨
        ∃ entry, EntryOf env path file entry ∧
          state'.entries = BTreeMap.insert (displayRelativePath path) entry state.entries) →
      state'.visitedDirectories = state.visitedDirectories → Turn env path state state' []

/-- What one turn of the scan does. -/
theorem scanStep_cases (hvalid : ValidPath path)
    (h : scanStep env state path = .ok (state', pushed)) :
    Turn env path state state' pushed := by
  rw [scanStep, bind_eq_ok] at h
  obtain ⟨admission, hadmission, h⟩ := h
  have hadmitted := admit_eq_ok hvalid hadmission
  cases admission with
  | sensitive =>
    obtain ⟨rfl, rfl⟩ := Prod.mk.inj (Except.ok.inj h)
    exact .rejected (fun ha => nomatch hadmitted.mpr ha) rfl rfl
  | skip =>
    obtain ⟨rfl, rfl⟩ := Prod.mk.inj (Except.ok.inj h)
    exact .rejected (fun ha => nomatch hadmitted.mpr ha) rfl rfl
  | visit =>
    have ha := hadmitted.mp rfl
    cases hlookup : env.host.lookup (env.root ++ path) with
    | missing | inaccessible | symlink | special =>
      rw [hlookup] at h
      cases h
    | directory entries =>
      rw [hlookup] at h
      obtain ⟨hentries, -, hcases⟩ := visitDirectory_cases h
      rcases hcases with ⟨hseen, rfl, hvisited⟩ | ⟨-, hvisited, children, rfl, hpushed⟩
      · exact .seen ha hlookup hseen hentries hvisited
      · exact .directory ha hlookup hpushed hentries hvisited
    | file file =>
      rw [hlookup] at h
      obtain ⟨next, hvisit, h⟩ := bind_eq_ok.mp h
      obtain ⟨rfl, rfl⟩ := Prod.mk.inj (Except.ok.inj h)
      obtain ⟨hvisited, -, hcases⟩ := visitFile_cases hvisit
      exact .file ha hlookup hcases hvisited

/-! ## The whole scan -/

/-- The scan is through with a path. -/
def Done (env : ScanEnv) (state : ScanState) (path : FsPath) : Prop :=
  ¬ Admitted env path ∨
    ((∃ entries, env.host.lookup (env.root ++ path) = .directory entries) ∧
      displayRelativePath path ∈ state.visitedDirectories) ∨
    ((∃ file, env.host.lookup (env.root ++ path) = .file file) ∧
      ∃ entry, (displayRelativePath path, entry) ∈ state.entries)

section

variable (h : Turn env path state state' pushed)

include h

theorem Turn.entries_mono {key : String}
    (hkey : ∃ entry, (key, entry) ∈ state.entries) : ∃ entry, (key, entry) ∈ state'.entries := by
  cases h with
  | rejected _ hentries _ => rw [hentries]; exact hkey
  | seen _ _ _ hentries _ => rw [hentries]; exact hkey
  | directory _ _ _ hentries _ => rw [hentries]; exact hkey
  | file _ _ hentries _ =>
    rcases hentries with ⟨hentries, -⟩ | ⟨entry, -, hentries⟩
    · rw [hentries]
      exact hkey
    · rw [hentries]
      exact BTreeMap.exists_mem_insert _ _ _ _ (Or.inr hkey)

theorem Turn.visited_mono
    (hdisplay : display ∈ state.visitedDirectories) : display ∈ state'.visitedDirectories := by
  cases h with
  | rejected _ _ hvisited => rw [hvisited]; exact hdisplay
  | seen _ _ _ _ hvisited => rw [hvisited]; exact hdisplay
  | directory _ _ _ _ hvisited => rw [hvisited]; exact List.mem_cons_of_mem _ hdisplay
  | file _ _ _ hvisited => rw [hvisited]; exact hdisplay

theorem Turn.done_mono {other : FsPath} (hdone : Done env state other) :
    Done env state' other := by
  rcases hdone with hnot | ⟨hdirectory, hvisited⟩ | ⟨hfile, hentry⟩
  · exact Or.inl hnot
  · exact Or.inr (Or.inl ⟨hdirectory, h.visited_mono hvisited⟩)
  · exact Or.inr (Or.inr ⟨hfile, h.entries_mono hentry⟩)

/-- A turn is through with its path. -/
theorem Turn.done : Done env state' path := by
  cases h with
  | rejected hnot _ _ => exact Or.inl hnot
  | seen _ hlookup hseen _ hvisited =>
    exact Or.inr (Or.inl ⟨⟨_, hlookup⟩, hvisited ▸ hseen⟩)
  | directory _ hlookup _ _ hvisited =>
    exact Or.inr (Or.inl ⟨⟨_, hlookup⟩, hvisited ▸ List.mem_cons_self⟩)
  | file _ hlookup hentries _ =>
    refine Or.inr (Or.inr ⟨⟨_, hlookup⟩, ?_⟩)
    rcases hentries with ⟨hentries, hentry⟩ | ⟨entry, -, hentries⟩
    · rw [hentries]
      exact hentry
    · rw [hentries]
      exact BTreeMap.exists_mem_insert _ _ _ _ (Or.inl rfl)

end

/-- What holds of the stack and the state in every turn. -/
structure ScanInv (env : ScanEnv) (roots stack : List FsPath) (state : ScanState) : Prop where
  pending : ∀ path ∈ stack, path ∈ roots ∨ ∃ front name, path = front ++ [name] ∧
    (∃ root ∈ roots, Reaches env root front) ∧ Lists env front name
  sound : ∀ key entry, (key, entry) ∈ state.entries → ∃ root ∈ roots, ∃ path file,
    Reaches env root path ∧ env.host.lookup (env.root ++ path) = .file file ∧
      EntryOf env path file entry ∧ key = displayRelativePath path
  roots_done : ∀ path ∈ roots, path ∈ stack ∨ Done env state path
  children_done : ∀ path, ValidPath path → displayRelativePath path ∈ state.visitedDirectories →
    ∀ name, Lists env path name → path ++ [name] ∈ stack ∨ Done env state (path ++ [name])

/-- At first all roots are to be done. -/
theorem ScanInv.init (roots : List FsPath) (budget : TraversalBudget) :
    ScanInv env roots roots (.init budget) where
  pending _ hpath := Or.inl hpath
  sound _ _ h := nomatch h
  roots_done _ hpath := Or.inl hpath
  children_done _ _ h := nomatch h

/-- A path of the stack that is admitted is reached. -/
theorem ScanInv.reaches {stack : List FsPath} (hinv : ScanInv env roots (path :: stack) state)
    (hadmitted : Admitted env path) :
    ∃ root ∈ roots, Reaches env root path := by
  rcases hinv.pending path List.mem_cons_self with hroot | ⟨front, name, rfl, ⟨root, hroot, hfront⟩,
    hlists⟩
  · exact ⟨path, hroot, .root hadmitted⟩
  · exact ⟨root, hroot, hfront.child hlists hadmitted⟩

/-- What is to be done is a valid path. -/
theorem ScanInv.validPath {roots stack : List FsPath} {state : ScanState} {path : FsPath}
    (hinv : ScanInv env roots (path :: stack) state) (hroots : ∀ root ∈ roots, ValidPath root) :
    ValidPath path := by
  rcases hinv.pending path List.mem_cons_self with hroot | ⟨front, name, rfl, ⟨root, hroot, hfront⟩,
    hlists⟩
  · exact hroots path hroot
  · obtain ⟨entries, hlookup, hname⟩ := hlists
    exact (hfront.validPath (hroots root hroot)).append_singleton
      (env.host.names_valid _ _ _ hlookup hname)

section

variable (hroots : ∀ root ∈ roots, ValidPath root)

include hroots

theorem ScanInv.step {stack : List FsPath}
    (hinv : ScanInv env roots (path :: stack) state) (hturn : Turn env path state state' pushed) :
    ScanInv env roots (pushed ++ stack) state' := by
  -- what was waiting still waits, or it was the path of this turn
  have hwaits : ∀ other, other ∈ path :: stack ∨ Done env state other →
      other ∈ pushed ++ stack ∨ Done env state' other := by
    intro other hother
    rcases hother with hmem | hdone
    · rcases List.mem_cons.mp hmem with rfl | hmem
      · exact Or.inr hturn.done
      · exact Or.inl (List.mem_append_right _ hmem)
    · exact Or.inr (hturn.done_mono hdone)
  refine ⟨?_, ?_, fun other hother => hwaits other (hinv.roots_done other hother), ?_⟩
  · intro other hother
    rcases List.mem_append.mp hother with hpushed | hstack
    · cases hturn with
      | rejected => cases hpushed
      | seen => cases hpushed
      | file => cases hpushed
      | directory hadmitted hlookup hchildren _ _ =>
        obtain ⟨name, hname, rfl⟩ := (hchildren other).mp hpushed
        exact Or.inr ⟨path, name, rfl, hinv.reaches hadmitted, _, hlookup,
          List.mem_map_of_mem hname⟩
    · exact hinv.pending other (List.mem_cons_of_mem _ hstack)
  · intro key entry hentry
    cases hturn with
    | rejected _ hentries _ => exact hinv.sound key entry (hentries ▸ hentry)
    | seen _ _ _ hentries _ => exact hinv.sound key entry (hentries ▸ hentry)
    | directory _ _ _ hentries _ => exact hinv.sound key entry (hentries ▸ hentry)
    | file hadmitted hlookup hentries _ =>
      rcases hentries with ⟨hentries, -⟩ | ⟨added, hadded, hentries⟩
      · exact hinv.sound key entry (hentries ▸ hentry)
      · rw [hentries] at hentry
        rcases BTreeMap.mem_of_mem_insert hentry with hnew | hold
        · obtain ⟨rfl, rfl⟩ := Prod.mk.inj hnew
          obtain ⟨root, hroot, hreach⟩ := hinv.reaches hadmitted
          exact ⟨root, hroot, path, _, hreach, hlookup, hadded, rfl⟩
        · exact hinv.sound key entry hold
  · intro front hfront hvisited name hlists
    by_cases hbefore : displayRelativePath front ∈ state.visitedDirectories
    · exact hwaits _ (hinv.children_done front hfront hbefore name hlists)
    · -- only the directory of this turn can be new
      cases hturn with
      | rejected _ _ heq => exact absurd (heq ▸ hvisited) hbefore
      | seen _ _ _ _ heq => exact absurd (heq ▸ hvisited) hbefore
      | file _ _ _ heq => exact absurd (heq ▸ hvisited) hbefore
      | directory _ hlookup hchildren _ heq =>
        rw [heq] at hvisited
        rcases List.mem_cons.mp hvisited with hdisplay | hold
        · obtain rfl := display_injective hfront (hinv.validPath hroots) hdisplay
          obtain ⟨entries, hentries, hname⟩ := hlists
          rw [hlookup] at hentries
          obtain rfl := Option.some.inj (Node.directory.inj hentries)
          obtain ⟨_, hchild, hnamed⟩ := List.mem_map.mp hname
          obtain rfl := DirEntry.name.inj hnamed
          exact Or.inl (List.mem_append_left _ ((hchildren _).mpr ⟨_, hchild, rfl⟩))
        · exact absurd hold hbefore

/-- At the end the scan is through with every path that is reached. -/
theorem ScanInv.done_of_reaches
    (hinv : ScanInv env roots [] state) (hroot : root ∈ roots) (h : Reaches env root path) :
    Done env state path := by
  induction h with
  | root _ => exact (hinv.roots_done root hroot).resolve_left List.not_mem_nil
  | @child front name hfront hlists _ ih =>
    have hvisited : displayRelativePath front ∈ state.visitedDirectories := by
      rcases ih with hnot | ⟨-, hvisited⟩ | ⟨⟨file, hfile⟩, -⟩
      · exact absurd hfront.admitted hnot
      · exact hvisited
      · obtain ⟨entries, hlookup, -⟩ := hlists
        rw [hfile] at hlookup
        cases hlookup
    exact (hinv.children_done front (hfront.validPath (hroots root hroot)) hvisited name
      hlists).resolve_left List.not_mem_nil

/-- Every file that is reached has an entry at the end. -/
theorem ScanInv.entry_of_reaches
    (hinv : ScanInv env roots [] state) (hroot : root ∈ roots) (h : Reaches env root path)
    (hfile : env.host.lookup (env.root ++ path) = .file file) :
    ∃ entry, (displayRelativePath path, entry) ∈ state.entries := by
  rcases hinv.done_of_reaches hroots hroot h with hnot | ⟨⟨entries, hdirectory⟩, -⟩ | ⟨-, hentry⟩
  · exact absurd h.admitted hnot
  · rw [hfile] at hdirectory
    cases hdirectory
  · exact hentry

/-- **Selection**: the scan has an entry exactly for the files that are reached from an
    include root. -/
theorem scanPaths_entries {result : ScanResult}
    (h : scanPaths env roots budget = .ok (result, budget')) :
    (∀ entry ∈ result.entries, ∃ root ∈ roots, ∃ path file, Reaches env root path ∧
      env.host.lookup (env.root ++ path) = .file file ∧ EntryOf env path file entry) ∧
    ∀ root ∈ roots, ∀ path file, Reaches env root path →
      env.host.lookup (env.root ++ path) = .file file →
      ∃ entry ∈ result.entries, entry.path = displayRelativePath path := by
  rw [scanPaths, bind_eq_ok] at h
  obtain ⟨state, hdrain, h⟩ := h
  obtain ⟨rfl, -⟩ := Prod.mk.inj (Except.ok.inj h)
  have hinv : ScanInv env roots [] state :=
    Worklist.drain_invariant (fun path stack state state' pushed hinv hstep =>
      hinv.step hroots (scanStep_cases (hinv.validPath hroots) hstep)) (.init roots budget) hdrain
  constructor
  · intro entry hentry
    obtain ⟨⟨key, _⟩, hmem, rfl⟩ := List.mem_map.mp hentry
    obtain ⟨root, hroot, path, file, hreach, hlookup, hof, -⟩ := hinv.sound key _ hmem
    exact ⟨root, hroot, path, file, hreach, hlookup, hof⟩
  · intro root hroot path file hreach hfile
    obtain ⟨entry, hentry⟩ := hinv.entry_of_reaches hroots hroot hreach hfile
    obtain ⟨_, _, path', _, _, _, hof, hkey⟩ := hinv.sound _ entry hentry
    refine ⟨entry, List.mem_map_of_mem hentry, ?_⟩
    rw [hof.path_eq, hkey]

end

/-- Each path that a turn pushes was paid for. -/
theorem scanStep_credit (h : scanStep env state path = .ok (state', pushed)) :
    pushed.length + state'.credit ≤ state.credit := by
  rw [scanStep, bind_eq_ok] at h
  obtain ⟨admission, -, h⟩ := h
  cases admission with
  | sensitive =>
    obtain ⟨rfl, rfl⟩ := Prod.mk.inj (Except.ok.inj h)
    simp [ScanState.credit]
  | skip =>
    obtain ⟨rfl, rfl⟩ := Prod.mk.inj (Except.ok.inj h)
    simp
  | visit =>
    cases hlookup : env.host.lookup (env.root ++ path) with
    | missing | inaccessible | symlink | special =>
      rw [hlookup] at h
      cases h
    | directory entries =>
      rw [hlookup] at h
      exact (visitDirectory_cases h).2.1
    | file file =>
      rw [hlookup] at h
      obtain ⟨next, hvisit, h⟩ := bind_eq_ok.mp h
      obtain ⟨rfl, rfl⟩ := Prod.mk.inj (Except.ok.inj h)
      obtain ⟨-, htraversal, -⟩ := visitFile_cases hvisit
      rw [ScanState.credit, ScanState.credit, htraversal]
      simp

/-- The bound on the turns of the scan is never reached: more turns, or another error at the
    bound, give the same result. -/
theorem scan_fuel (error : SourceError) (more : Nat) :
    Worklist.drain .manifestMismatch (scanStep env)
        (roots.length + (budget.maximum - budget.visited)) roots (.init budget) =
      Worklist.drain error (scanStep env)
        (roots.length + (budget.maximum - budget.visited) + more) roots (.init budget) :=
  @Worklist.drain_fuel _ _ _ _ _ error ScanState.credit
    (fun _ _ _ _ h => scanStep_credit h) _ _ _ _ (Nat.le_refl _) (Nat.le_add_right _ _)

end RustFerry.Source
