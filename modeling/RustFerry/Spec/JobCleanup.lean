import RustFerry.Native.JobCleanup

/-!
# The cleanup of a job root

The cleanup removes a job root of the compile phase whatever is in it. A job root of the sign
phase is searched for signing material first, and the search has bounds of its own: the trees
that the phase itself may unpack can exceed them.
-/

namespace RustFerry.Worker

open Except

section

variable {visited : Entries} {entry : String × TreeNode} {other : String} {phase : JobPhase}
  {item : WalkItem} {stack : List WalkItem} {metadata : FileMetadata} {job : OwnedJobRoot}
  {entries : Entries}

/-! ## Measures of a tree -/

mutual

/-- The directories of the node, counted in levels. -/
def TreeNode.levels : TreeNode → Nat
  | .file .. | .symlink => 0
  | .directory _ entries => 1 + levelsBelow entries

def levelsBelow : Entries → Nat
  | [] => 0
  | (_, node) :: entries => max node.levels (levelsBelow entries)

end

/-- The entries below the given ones, without these. -/
def countBelow (entries : Entries) : Nat := (entries.map (·.2.count)).sum

mutual

/-- The entries that are read of a directory and below it before the last directory below it is
    read: each time, the first directory among the entries is read last. -/
def TreeNode.readBefore : TreeNode → Nat
  | .file .. | .symlink => 0
  | .directory _ entries => (readBeforeFirst entries).elim 0 fun before => entries.length + before

/-- The same for the directories among the entries, if there are any. -/
def readBeforeFirst : Entries → Option Nat
  | [] => none
  | (_, node) :: entries =>
    if node.isDirectory then some (node.readBefore + countBelow entries)
    else readBeforeFirst entries

end

mutual

/-- All entries in the node and below. -/
def TreeNode.contents : TreeNode → Entries
  | .file .. | .symlink => []
  | .directory _ entries => entriesBelow entries

def entriesBelow : Entries → Entries
  | [] => []
  | (name, node) :: entries => (name, node) :: (node.contents ++ entriesBelow entries)

end

mutual

/-- Every directory of the node can be listed by its owner. -/
def TreeNode.isOpen : TreeNode → Bool
  | .file .. | .symlink => true
  | .directory metadata entries => isListable metadata entries && areOpen entries

def areOpen : Entries → Bool
  | [] => true
  | (_, node) :: entries => node.isOpen && areOpen entries

end

/-! ## The search -/

/-- The search gets through the directory and what is below it. -/
structure WalkItem.Fits (item : WalkItem) : Prop where
  depth : item.depth + levelsBelow item.entries ≤ maxWalkDepth
  listable : isListable item.metadata item.entries = true
  opened : areOpen item.entries = true

/-- The entries that are read of the directories on the stack before the last one is read. -/
def stackBefore : List WalkItem → Nat
  | [] => 0
  | [item] => (TreeNode.directory item.metadata item.entries).readBefore
  | item :: next :: rest => countEntries item.entries + stackBefore (next :: rest)

theorem countEntries_eq (entries : Entries) :
    countEntries entries = entries.length + countBelow entries := by
  induction entries with
  | nil => rfl
  | cons entry entries ih =>
    rw [countEntries, ih, List.length_cons, countBelow, countBelow, List.map_cons, List.sum_cons]
    omega

theorem stackBefore_cons (h : stack ≠ []) :
    stackBefore (item :: stack) = countEntries item.entries + stackBefore stack := by
  cases stack with
  | nil => exact absurd rfl h
  | cons next rest => rfl

/-- Directories above a stack are all read before its last one. -/
theorem stackBefore_append {above : List WalkItem} (h : stack ≠ []) :
    stackBefore (above ++ stack) =
      (above.map fun item => countEntries item.entries).sum + stackBefore stack := by
  induction above with
  | nil => simp
  | cons item above ih =>
    have hne : above ++ stack ≠ [] := by simp [h]
    rw [List.cons_append, stackBefore_cons hne, ih, List.map_cons, List.sum_cons]
    omega

theorem sum_subdirectories (depth : Nat) (entries : Entries) :
    ((subdirectories depth entries).map fun item => countEntries item.entries).sum =
      countBelow entries := by
  induction entries with
  | nil => rfl
  | cons entry entries ih =>
    obtain ⟨name, node⟩ := entry
    rw [countBelow] at ih
    cases node with
    | directory metadata below =>
      rw [subdirectories, List.map_cons, List.sum_cons, ih]
      rfl
    | file | symlink =>
      show ((subdirectories depth entries).map fun item => countEntries item.entries).sum = _
      rw [ih, countBelow, List.map_cons, List.sum_cons]
      exact (Nat.zero_add _).symm

/-- The last of the pushed directories is the first one among the entries. -/
theorem stackBefore_subdirectories (depth : Nat) (entries : Entries) :
    (readBeforeFirst entries = none ∧ subdirectories depth entries = []) ∨
      (subdirectories depth entries ≠ [] ∧
        readBeforeFirst entries = some (stackBefore (subdirectories depth entries).reverse)) := by
  induction entries with
  | nil => exact .inl ⟨rfl, rfl⟩
  | cons entry entries ih =>
    obtain ⟨name, node⟩ := entry
    cases node with
    | directory metadata below =>
      right
      rw [subdirectories, List.reverse_cons, stackBefore_append (List.cons_ne_nil _ _),
        List.map_reverse, List.sum_reverse, sum_subdirectories]
      refine ⟨List.cons_ne_nil _ _, ?_⟩
      have hdirectory : (TreeNode.directory metadata below).isDirectory = true := rfl
      rw [readBeforeFirst, if_pos hdirectory, stackBefore, Nat.add_comm]
    | file | symlink => exact ih

/-- A turn reads the entries of the directory that it takes off the stack. -/
theorem stackBefore_turn (item : WalkItem) (stack : List WalkItem) :
    let pushed := (subdirectories (item.depth + 1) item.entries).reverse
    if pushed ++ stack = [] then stackBefore (item :: stack) = 0
    else stackBefore (item :: stack) = item.entries.length + stackBefore (pushed ++ stack) := by
  intro pushed
  by_cases hstack : stack = []
  · rw [hstack, List.append_nil]
    rcases stackBefore_subdirectories (item.depth + 1) item.entries with hnone | hsome
    · have hpushed : pushed = [] := List.reverse_eq_nil_iff.mpr hnone.2
      rw [if_pos hpushed, stackBefore, TreeNode.readBefore, hnone.1]
      rfl
    · have hpushed : pushed ≠ [] := fun h => hsome.1 (List.reverse_eq_nil_iff.mp h)
      rw [if_neg hpushed, stackBefore, TreeNode.readBefore, hsome.2]
      rfl
  · have hne : pushed ++ stack ≠ [] := by simp [hstack]
    rw [if_neg hne, stackBefore_cons hstack, stackBefore_append hstack, countEntries_eq,
      List.map_reverse, List.sum_reverse, sum_subdirectories]
    omega

/-- When one turn of the search succeeds. -/
theorem walkStep_eq_ok {next : Entries × List WalkItem} :
    walkStep visited item = .ok next ↔ item.depth ≤ maxWalkDepth ∧
      visited.length ≤ maxWalkCount ∧ isListable item.metadata item.entries = true ∧
      (visited ++ item.entries, (subdirectories (item.depth + 1) item.entries).reverse) = next := by
  rw [walkStep, check_bind_eq_ok, check_bind_eq_ok, rejectIf_eq_ok, rejectIf_eq_ok,
    Bool.or_eq_false_iff, decide_eq_false_iff_not, decide_eq_false_iff_not, not_lt, not_lt,
    Bool.not_eq_false']
  constructor
  · intro h
    exact ⟨h.1.1, h.1.2, h.2.1, Except.ok.inj h.2.2⟩
  · intro h
    exact ⟨⟨h.1, h.2.1⟩, h.2.2.1, congrArg Except.ok h.2.2.2⟩

/-- A directory fits when it can be listed at its depth and the directories in it fit. -/
theorem fits_iff :
    item.Fits ↔ item.depth ≤ maxWalkDepth ∧ isListable item.metadata item.entries = true ∧
      ∀ sub ∈ subdirectories (item.depth + 1) item.entries, sub.Fits := by
  -- one directory's entries, by induction on them
  have hsubs : ∀ (depth : Nat) (entries : Entries), depth ≤ maxWalkDepth →
      (depth + levelsBelow entries ≤ maxWalkDepth ∧ areOpen entries = true ↔
        ∀ sub ∈ subdirectories (depth + 1) entries, sub.Fits) := by
    intro depth entries hdepth
    induction entries with
    | nil => simpa [subdirectories, levelsBelow, areOpen] using hdepth
    | cons entry entries ih =>
      obtain ⟨name, node⟩ := entry
      rw [levelsBelow, areOpen, Bool.and_eq_true]
      cases node with
      | file | symlink =>
        show depth + max 0 (levelsBelow entries) ≤ maxWalkDepth ∧ true = true ∧ _ ↔
          ∀ sub ∈ subdirectories (depth + 1) entries, sub.Fits
        rw [Nat.zero_max, ← ih]
        simp
      | directory metadata below =>
        rw [subdirectories, List.forall_mem_cons, ← ih, TreeNode.levels, TreeNode.isOpen,
          Bool.and_eq_true]
        constructor
        · intro h
          obtain ⟨hlevels, ⟨hlistable, hopen⟩, hrest⟩ := h
          refine ⟨⟨?_, hlistable, hopen⟩, ?_, hrest⟩
          · dsimp only
            omega
          · omega
        · intro h
          obtain ⟨hfits, hlevels, hrest⟩ := h
          have hfitsDepth := hfits.depth
          dsimp only at hfitsDepth
          exact ⟨by omega, ⟨hfits.listable, hfits.opened⟩, hrest⟩
  constructor
  · intro h
    have hdepth := h.depth
    have hle : item.depth ≤ maxWalkDepth := by omega
    exact ⟨hle, h.listable, (hsubs item.depth item.entries hle).mp ⟨hdepth, h.opened⟩⟩
  · intro h
    obtain ⟨hdepth, hopen⟩ := (hsubs item.depth item.entries h.1).mpr h.2.2
    exact ⟨hdepth, h.2.1, hopen⟩

theorem length_subdirectories (depth : Nat) (entries : Entries) :
    (subdirectories depth entries).length ≤ entries.length := by
  induction entries with
  | nil => exact le_rfl
  | cons entry entries ih =>
    obtain ⟨name, node⟩ := entry
    cases node with
    | directory metadata below =>
      rw [subdirectories, List.length_cons, List.length_cons]
      omega
    | file | symlink =>
      show (subdirectories depth entries).length ≤ entries.length + 1
      omega

/-- The entries below the directories on the stack. -/
def stackCount (stack : List WalkItem) : Nat :=
  (stack.map fun item => countEntries item.entries).sum

/-- The search gets through its stack exactly when each directory fits, and no more entries than
    its bound are read before the last one. -/
theorem drain_ok_iff {exhausted : CliFailure} {fuel : Nat}
    (hfuel : stack.length + stackCount stack ≤ fuel) :
    (∃ final, Worklist.drain exhausted walkStep fuel stack visited = .ok final) ↔
      (∀ item ∈ stack, item.Fits) ∧
        (stack ≠ [] → visited.length + stackBefore stack ≤ maxWalkCount) := by
  induction fuel generalizing stack visited with
  | zero =>
    have hnil : stack = [] := List.length_eq_zero_iff.mp (by omega)
    simp [hnil]
  | succ fuel ih =>
    cases stack with
    | nil => simp
    | cons item stack =>
      have hcount : stackCount (item :: stack) = countEntries item.entries + stackCount stack := by
        rw [stackCount, List.map_cons, List.sum_cons]
        rfl
      have hpushed : stackCount ((subdirectories (item.depth + 1) item.entries).reverse ++ stack) =
          countBelow item.entries + stackCount stack := by
        rw [stackCount, List.map_append, List.sum_append, List.map_reverse, List.sum_reverse,
          sum_subdirectories]
        rfl
      have hlength := length_subdirectories (item.depth + 1) item.entries
      have hentries := countEntries_eq item.entries
      -- the directories that are pushed are paid for by the entries that are read
      have hpaid : ((subdirectories (item.depth + 1) item.entries).reverse ++ stack).length +
          stackCount ((subdirectories (item.depth + 1) item.entries).reverse ++ stack) ≤ fuel := by
        rw [hpushed, List.length_append, List.length_reverse]
        rw [hcount, List.length_cons] at hfuel
        omega
      have hturn := stackBefore_turn item stack
      have hsplit : (∃ final, Worklist.drain exhausted walkStep (fuel + 1) (item :: stack) visited =
          .ok final) ↔ (item.depth ≤ maxWalkDepth ∧ visited.length ≤ maxWalkCount ∧
            isListable item.metadata item.entries = true) ∧
          ∃ final, Worklist.drain exhausted walkStep fuel
            ((subdirectories (item.depth + 1) item.entries).reverse ++ stack)
            (visited ++ item.entries) = .ok final := by
        constructor
        · intro h
          obtain ⟨final, hfinal⟩ := h
          obtain ⟨state', pushed, hstep, hrest⟩ := Worklist.drain_cons_eq_ok.mp hfinal
          obtain ⟨hdepth, hvisited, hlistable, heq⟩ := walkStep_eq_ok.mp hstep
          obtain ⟨rfl, rfl⟩ := Prod.mk.inj heq
          exact ⟨⟨hdepth, hvisited, hlistable⟩, final, hrest⟩
        · intro h
          obtain ⟨⟨hdepth, hvisited, hlistable⟩, final, hrest⟩ := h
          exact ⟨final, Worklist.drain_cons_eq_ok.mpr ⟨_, _,
            walkStep_eq_ok.mpr ⟨hdepth, hvisited, hlistable, rfl⟩, hrest⟩⟩
      rw [hsplit, ih hpaid, List.forall_mem_cons, List.forall_mem_append, fits_iff]
      simp only [List.mem_reverse, List.length_append]
      dsimp only at hturn
      constructor
      · intro h
        obtain ⟨⟨hdepth, hvisited, hlistable⟩, ⟨hsubs, hstack⟩, hbound⟩ := h
        refine ⟨⟨⟨hdepth, hlistable, hsubs⟩, hstack⟩, fun _ => ?_⟩
        split at hturn
        · omega
        · rename_i hne
          have hread := hbound hne
          omega
      · intro h
        obtain ⟨⟨⟨hdepth, hlistable, hsubs⟩, hstack⟩, hbound⟩ := h
        have hread := hbound (List.cons_ne_nil _ _)
        refine ⟨⟨hdepth, by omega, hlistable⟩, ⟨hsubs, hstack⟩, fun hne => ?_⟩
        rw [if_neg hne] at hturn
        omega

/-- **The bounds of the search.** It gets through a directory exactly when everything in it can
    be listed, no directory lies too deep, and no more entries than the bound are read before
    the last directory. -/
theorem walkBounded_ok_iff :
    (∃ visited, walkBounded metadata entries = .ok visited) ↔
      (TreeNode.directory metadata entries).isOpen = true ∧
        levelsBelow entries ≤ maxWalkDepth ∧
        (TreeNode.directory metadata entries).readBefore ≤ maxWalkCount := by
  have hfuel : [(⟨metadata, entries, 0⟩ : WalkItem)].length +
      stackCount [⟨metadata, entries, 0⟩] ≤ countEntries entries + 1 := by
    rw [stackCount, List.map_singleton, List.sum_singleton, List.length_singleton]
    dsimp only
    omega
  rw [walkBounded, drain_ok_iff hfuel, TreeNode.isOpen, Bool.and_eq_true]
  constructor
  · intro h
    obtain ⟨hfits, hbound⟩ := h
    obtain ⟨hdepth, hlistable, hopen⟩ := hfits _ List.mem_cons_self
    have hread := hbound (List.cons_ne_nil _ _)
    rw [stackBefore, List.length_nil] at hread
    dsimp only at hdepth hread
    exact ⟨⟨hlistable, hopen⟩, by omega, by omega⟩
  · intro h
    obtain ⟨⟨hlistable, hopen⟩, hdepth, hread⟩ := h
    constructor
    · intro item hitem
      rw [List.mem_singleton.mp hitem]
      exact ⟨by dsimp only; omega, hlistable, hopen⟩
    · intro _
      rw [stackBefore, List.length_nil]
      dsimp only
      omega

/-- The entries below are those of the directory and those below its directories. -/
theorem mem_entriesBelow_iff (depth : Nat) : entry ∈ entriesBelow entries ↔
    entry ∈ entries ∨ ∃ sub ∈ subdirectories depth entries, entry ∈ entriesBelow sub.entries := by
  induction entries with
  | nil => simp [entriesBelow, subdirectories]
  | cons head entries ih =>
    obtain ⟨name, node⟩ := head
    rw [entriesBelow, List.mem_cons, List.mem_cons, List.mem_append, ih, or_assoc]
    cases node with
    | directory metadata below =>
      simp only [TreeNode.contents, subdirectories, List.exists_mem_cons_iff]
      exact or_congr_right or_left_comm
    | file | symlink => simp [TreeNode.contents, subdirectories]

/-- An entry of the tree was visited, or it lies below a directory on the stack. -/
def VisitsBelow (entries : Entries) (stack : List WalkItem) (visited : Entries) : Prop :=
  ∀ entry, entry ∈ entriesBelow entries ↔
    entry ∈ visited ∨ ∃ item ∈ stack, entry ∈ entriesBelow item.entries

theorem visitsBelow_turn {visited' : Entries} {pushed : List WalkItem}
    (hinv : VisitsBelow entries (item :: stack) visited)
    (hstep : walkStep visited item = .ok (visited', pushed)) :
    VisitsBelow entries (pushed ++ stack) visited' := by
  obtain ⟨-, -, -, heq⟩ := walkStep_eq_ok.mp hstep
  obtain ⟨rfl, rfl⟩ := Prod.mk.inj heq
  intro e
  rw [hinv e, List.exists_mem_cons_iff, mem_entriesBelow_iff (item.depth + 1), List.mem_append]
  -- what was pushed takes the place of the directory
  simp only [List.mem_append, List.mem_reverse, or_and_right, exists_or, or_assoc]

/-- The search visits the entries of the tree. -/
theorem mem_walkBounded_iff (h : walkBounded metadata entries = .ok visited) :
    entry ∈ visited ↔ entry ∈ entriesBelow entries := by
  have hstart : VisitsBelow entries [⟨metadata, entries, 0⟩] [] := by
    intro e
    simp
  have hend : VisitsBelow entries [] visited := Worklist.drain_invariant
    (fun _ _ _ _ _ hinv hstep => visitsBelow_turn hinv hstep) hstart h
  simpa using (hend entry).symm

theorem any_walkBounded (h : walkBounded metadata entries = .ok visited)
    (p : String × TreeNode → Bool) : visited.any p = (entriesBelow entries).any p := by
  rw [Bool.eq_iff_iff, List.any_eq_true, List.any_eq_true]
  simp only [mem_walkBounded_iff h]

/-! ## Only owned job roots are removed -/

section

variable {host : CleanupHost} {root : WorkerRoot} {name : String}

/-- A direct child of the worker root that is private, owned, and bound to its marker. -/
structure OwnedChild (host : CleanupHost) (root : WorkerRoot) (name : String)
    (metadata : FileMetadata) (entries : Entries) (marker : JobMarker) : Prop where
  child : root.children.lookup name = some (.directory metadata entries)
  owner : metadata.uid = root.metadata.uid
  isPrivate : metadata.isPrivate = true
  named : validateJobName name none = .ok ()
  bound : isMarkerOf name marker = true
  markerFile : ∃ file content, entries.lookup jobMarkerName = some (.file file content) ∧
    file.uid = metadata.uid ∧ file.links = 1 ∧ file.isPrivate = true ∧
    host.codec.decodeStrictJson content = some marker

/-- Which directories are private. -/
theorem validatePrivateOwnedDirectory_eq_ok {node : Option TreeNode} :
    validatePrivateOwnedDirectory root node = .ok (metadata, entries) ↔
      node = some (.directory metadata entries) ∧ metadata.uid = root.metadata.uid ∧
        metadata.isPrivate = true := by
  cases node with
  | none => simp [validatePrivateOwnedDirectory]
  | some node =>
    cases node with
    | file metadata content => simp [validatePrivateOwnedDirectory]
    | symlink => simp [validatePrivateOwnedDirectory]
    | directory metadata' entries' =>
      rw [validatePrivateOwnedDirectory, check_bind_eq_ok, rejectIf_eq_ok, Bool.or_eq_false_iff,
        bne_eq_false_iff_eq, Bool.not_eq_false']
      constructor
      · intro h
        obtain ⟨⟨howner, hprivate⟩, heq⟩ := h
        obtain ⟨rfl, rfl⟩ := Prod.mk.inj (Except.ok.inj heq)
        exact ⟨rfl, howner, hprivate⟩
      · intro h
        obtain ⟨heq, howner, hprivate⟩ := h
        obtain ⟨rfl, rfl⟩ := TreeNode.directory.inj (Option.some.inj heq)
        exact ⟨⟨howner, hprivate⟩, rfl⟩

/-- A marker that is read is a private file. -/
theorem readPrivateMarker_eq_ok {node : Option TreeNode} {content : List UInt8}
    (h : readPrivateMarker metadata node = .ok content) :
    ∃ file, node = some (.file file content) ∧ file.uid = metadata.uid ∧ file.links = 1 ∧
      file.isPrivate = true := by
  cases node with
  | none => cases h
  | some node =>
    cases node with
    | symlink => cases h
    | directory => cases h
    | file file bytes =>
      simp only [readPrivateMarker, check_bind_eq_ok, rejectIf_eq_ok, Bool.or_eq_false_iff,
        bne_eq_false_iff_eq, Bool.not_eq_false'] at h
      obtain ⟨⟨⟨howner, hlinks⟩, hprivate⟩, -, -, hbytes⟩ := h
      rw [Except.ok.inj hbytes]
      exact ⟨file, rfl, howner, hlinks, hprivate⟩

theorem validateOwnedJobRoot_ok {supplied : Except CliFailure (List String)}
    (h : validateOwnedJobRoot host root supplied = .ok job) :
    supplied = .ok (root.path ++ [job.name]) ∧
      OwnedChild host root job.name job.metadata job.entries job.marker := by
  obtain ⟨canonical, rfl, h⟩ := bind_eq_ok.mp h
  obtain ⟨hname, h⟩ := check_bind_eq_ok.mp h
  obtain ⟨hparent, h⟩ := check_bind_eq_ok.mp h
  obtain ⟨⟨metadata, entries⟩, hdirectory, h⟩ := bind_eq_ok.mp h
  obtain ⟨content, hcontent, h⟩ := bind_eq_ok.mp h
  obtain ⟨marker, hmarker, h⟩ := bind_eq_ok.mp h
  obtain ⟨hbound, h⟩ := check_bind_eq_ok.mp h
  rw [rejectIf_eq_ok] at hparent hbound
  obtain ⟨hchild, howner, hprivate⟩ := validatePrivateOwnedDirectory_eq_ok.mp hdirectory
  obtain ⟨file, hfile, hfileOwner, hlinks, hfilePrivate⟩ := readPrivateMarker_eq_ok hcontent
  rw [← Except.ok.inj h]
  constructor
  · -- an empty path has no valid name
    cases hlast : canonical.getLast? with
    | none =>
      rw [hlast] at hname
      cases hname
    | some last =>
      have hcanonical := List.dropLast_append_getLast? last hlast
      rw [bne_eq_false_iff_eq] at hparent
      rw [hparent] at hcanonical
      exact congrArg Except.ok hcanonical.symm
  · have hdecoded : host.codec.decodeStrictJson content = some marker := by
      unfold decodeMarker at hmarker
      split at hmarker
      · rename_i decoded hdecoded
        rw [hdecoded, Except.ok.inj hmarker]
      · cases hmarker
    have hlookup : entries.lookup jobMarkerName = some (.file file content) := by
      unfold lookupEntry at hfile
      split at hfile
      · exact hfile
      · cases hfile
    exact {
      child := hchild
      owner := howner
      isPrivate := hprivate
      named := hname
      bound := by simpa using hbound
      markerFile := ⟨file, content, hlookup, hfileOwner, hlinks, hfilePrivate, hdecoded⟩ }

theorem lookup_replace {node : TreeNode} (h : other ≠ name) :
    (root.replace name node).children.lookup other = root.children.lookup other := by
  show List.lookup other (root.children.map _) = _
  induction root.children with
  | nil => rfl
  | cons child children ih =>
    obtain ⟨key, old⟩ := child
    by_cases hkey : key = name
    · have hother : (other == name) = false := beq_false_of_ne h
      simp only [List.map_cons, hkey, if_true, List.lookup_cons, hother]
      exact ih
    · simp only [List.map_cons, hkey, if_false, List.lookup_cons]
      split
      · rfl
      · exact ih

theorem lookup_without (h : other ≠ name) :
    (root.without name).children.lookup other = root.children.lookup other := by
  show List.lookup other (root.children.filter _) = _
  induction root.children with
  | nil => rfl
  | cons child children ih =>
    obtain ⟨key, node⟩ := child
    by_cases hkey : key = name
    · have hother : (other == name) = false := beq_false_of_ne h
      rw [List.filter_cons_of_neg (by simp [hkey]), ih, hkey]
      simp only [List.lookup_cons, hother]
    · rw [List.filter_cons_of_pos (by simp [hkey])]
      simp only [List.lookup_cons]
      split
      · rfl
      · exact ih

/-- What is done to the children of the worker root concerns the job root only. -/
theorem lookup_removeOwnedJobRoot (h : other ≠ job.name) :
    (removeOwnedJobRoot host root job).2.children.lookup other = root.children.lookup other := by
  have hremove : ∀ entries,
      (removeDirAll host root job entries).2.children.lookup other =
        root.children.lookup other := by
    intro entries
    unfold removeDirAll
    dsimp only
    split
    · exact lookup_without h
    · exact lookup_replace h
  unfold removeOwnedJobRoot
  split
  · split
    · exact lookup_replace h
    · exact hremove _
  · exact hremove _

/-- **Nothing else is removed.** The cleanup changes nothing, or what it changes is a direct
    child of the worker root that is private, owned and bound to its marker. -/
theorem runCleanupCommand_owned (requireComplete : Bool)
    (supplied : Except CliFailure (List String)) :
    (runCleanupCommand host root requireComplete supplied).2 = root ∨
      ∃ name metadata entries marker, supplied = .ok (root.path ++ [name]) ∧
        OwnedChild host root name metadata entries marker ∧
        ∀ other, other ≠ name →
          (runCleanupCommand host root requireComplete supplied).2.children.lookup other =
            root.children.lookup other := by
  unfold runCleanupCommand
  split
  · exact .inl rfl
  · split
    · exact .inl rfl
    · rename_i job hjob
      obtain ⟨hsupplied, howned⟩ := validateOwnedJobRoot_ok hjob
      exact .inr ⟨job.name, job.metadata, job.entries, job.marker, hsupplied, howned,
        fun other hother => lookup_removeOwnedJobRoot hother⟩

/-! ## Created job roots -/

/-- A created job root whose phase has put entries into it: its directory and its marker are as
    they were, and nothing else is known of the entries. -/
structure Filled (created filled : WorkerRoot) (name : String) (entries : Entries) : Prop where
  path : filled.path = created.path
  metadata : filled.metadata = created.metadata
  directory : ∃ metadata old, created.children.lookup name = some (.directory metadata old) ∧
    filled.children.lookup name = some (.directory metadata entries) ∧
    entries.lookup jobMarkerName = old.lookup jobMarkerName

/-- The codec reads the marker that it has written. -/
def CleanupHost.ReadsMarker (host : CleanupHost) (marker : JobMarker) : Prop :=
  host.codec.decodeStrictJson (host.codec.toVecPretty marker) = some marker ∧
    (host.codec.toVecPretty marker).length ≤ maxMarkerBytes

/-- The names of job roots. -/
theorem validateJobName_eq_ok {phase : Option JobPhase} :
    validateJobName name phase = .ok () ↔ name.utf8ByteSize ≤ 128 ∧ ∃ rest : List Char,
      name.toList = (JobPhase.jobPrefix phase).toList ++ rest ∧ rest.all isJobNameChar = true ∧
        rest.head?.any Char.isAlphanum = true ∧ rest.getLast?.any Char.isAlphanum = true := by
  unfold validateJobName
  dsimp only
  rw [rejectIf_eq_ok]
  simp only [Bool.or_eq_false_iff, decide_eq_false_iff_not, not_lt, Bool.not_eq_false']
  constructor
  · intro h
    obtain ⟨⟨⟨⟨hsize, hne⟩, hall⟩, hhead⟩, hlast⟩ := h
    refine ⟨hsize, _, ?_, hall, hhead, hlast⟩
    unfold Text.stripFront at hne ⊢
    split at hne
    · rename_i hprefix
      obtain ⟨rest, hrest⟩ := List.isPrefixOf_iff_prefix.mp hprefix
      rw [if_pos hprefix, Option.getD_some, ← hrest, List.drop_left]
    · cases hne
  · intro h
    obtain ⟨hsize, rest, hname, hall, hhead, hlast⟩ := h
    have hprefix : (JobPhase.jobPrefix phase).toList.isPrefixOf name.toList = true :=
      List.isPrefixOf_iff_prefix.mpr ⟨rest, hname.symm⟩
    have hstrip : (Text.stripFront (JobPhase.jobPrefix phase).toList name.toList).getD [] = rest := by
      rw [Text.stripFront, if_pos hprefix, Option.getD_some, hname, List.drop_left]
    rw [hstrip]
    cases rest with
    | nil => cases hhead
    | cons c rest => exact ⟨⟨⟨⟨hsize, rfl⟩, hall⟩, hhead⟩, hlast⟩

/-- The name of a job root is accepted when its phase is not known yet. -/
theorem validateJobName_none (h : validateJobName name (some phase) = .ok ()) :
    validateJobName name none = .ok () := by
  obtain ⟨hsize, rest, hname, hall, hhead, hlast⟩ := validateJobName_eq_ok.mp h
  have hsplit : ∃ word : List Char, (JobPhase.jobPrefix (some phase)).toList =
      (JobPhase.jobPrefix none).toList ++ word ∧ word.all isJobNameChar = true ∧
        word.head?.any Char.isAlphanum = true := by
    cases phase with
    | compile => exact ⟨"compile-".toList, by decide, by decide, by decide⟩
    | sign => exact ⟨"sign-".toList, by decide, by decide, by decide⟩
  obtain ⟨word, hword, hwordAll, hwordHead⟩ := hsplit
  apply validateJobName_eq_ok.mpr
  refine ⟨hsize, word ++ rest, by rw [hname, hword, List.append_assoc], ?_, ?_, ?_⟩
  · rw [List.all_append, hwordAll, hall]
    rfl
  · cases word with
    | nil => cases hwordHead
    | cons c word => exact hwordHead
  · rw [List.getLast?_append]
    cases hback : rest.getLast? with
    | none =>
      rw [hback] at hlast
      cases hlast
    | some c =>
      rw [hback] at hlast
      exact hlast

/-- What `create_job_root` leaves. -/
theorem createJobRoot_ok {created : WorkerRoot} {parent : List String}
    {operationId environmentId : Option String}
    (h : createJobRoot host root parent name phase operationId environmentId = .ok created) :
    ∃ operation, operation = (operationId.or environmentId).getD "host-operation" ∧
      safeRefOperation operation = true ∧ validateJobName name (some phase) = .ok () ∧
      host.uid = root.metadata.uid ∧ created.metadata = root.metadata ∧
      created.children.lookup name = some (privateDirectory host [(jobMarkerName,
        privateFile host (host.codec.toVecPretty (jobMarker name phase operation)))]) := by
  obtain ⟨-, h⟩ := check_bind_eq_ok.mp h
  obtain ⟨hname, h⟩ := check_bind_eq_ok.mp h
  obtain ⟨-, h⟩ := check_bind_eq_ok.mp h
  obtain ⟨hoperation, h⟩ := check_bind_eq_ok.mp h
  obtain ⟨⟨metadata, entries⟩, hdirectory, h⟩ := bind_eq_ok.mp h
  obtain ⟨hnode, howner, -⟩ := validatePrivateOwnedDirectory_eq_ok.mp hdirectory
  obtain ⟨rfl, rfl⟩ := TreeNode.directory.inj (Option.some.inj hnode)
  rw [rejectIf_eq_ok, Bool.not_eq_false'] at hoperation
  rw [← Except.ok.inj h]
  exact ⟨_, rfl, hoperation, hname, howner, rfl, List.lookup_cons_self⟩

/-- A created job root is still bound to its marker when it is filled. -/
theorem validateOwnedJobRoot_created {created filled : WorkerRoot} {parent : List String}
    {operationId environmentId : Option String}
    (hcreated : createJobRoot host root parent name phase operationId environmentId = .ok created)
    (hmarker : host.ReadsMarker (jobMarker name phase ((operationId.or environmentId).getD
      "host-operation")))
    (hfilled : Filled created filled name entries) :
    ∃ job, validateOwnedJobRoot host filled (.ok (filled.path ++ [name])) = .ok job ∧
      job.name = name ∧ job.marker.phase = phase ∧ job.entries = entries ∧
      filled.children.lookup name = some (.directory job.metadata entries) := by
  obtain ⟨operation, hoperation, hsafe, hname, howner, hmetadata, hchild⟩ :=
    createJobRoot_ok hcreated
  obtain ⟨metadata, old, hold, hdirectory, hmarkerFile⟩ := hfilled.directory
  rw [hchild] at hold
  obtain ⟨rfl, rfl⟩ := TreeNode.directory.inj (Option.some.inj hold)
  rw [← hoperation] at hmarker
  obtain ⟨hdecode, hsize⟩ := hmarker
  -- the directory and the marker pass their checks again
  have hprivate : validatePrivateOwnedDirectory filled (filled.children.lookup name) =
      .ok (⟨host.uid, 0o700, 2⟩, entries) := by
    rw [validatePrivateOwnedDirectory_eq_ok]
    exact ⟨hdirectory, by rw [hfilled.metadata, hmetadata]; exact howner,
      by simp [FileMetadata.isPrivate]⟩
  have hlookup : lookupEntry ⟨host.uid, 0o700, 2⟩ entries jobMarkerName =
      some (privateFile host (host.codec.toVecPretty (jobMarker name phase operation))) := by
    have hsearchable : (⟨host.uid, 0o700, 2⟩ : FileMetadata).isSearchable = true := by
      simp [FileMetadata.isSearchable]
    rw [lookupEntry, if_pos hsearchable, hmarkerFile]
    exact List.lookup_cons_self
  have hread : readPrivateMarker ⟨host.uid, 0o700, 2⟩ (lookupEntry ⟨host.uid, 0o700, 2⟩ entries
      jobMarkerName) = .ok (host.codec.toVecPretty (jobMarker name phase operation)) := by
    have hfilePrivate : (⟨host.uid, 0o600, 1⟩ : FileMetadata).isPrivate = true := by
      simp [FileMetadata.isPrivate]
    have hfileReadable : (⟨host.uid, 0o600, 1⟩ : FileMetadata).isReadable = true := by
      simp [FileMetadata.isReadable]
    rw [hlookup, privateFile, readPrivateMarker]
    simp only [bne_self_eq_false, Bool.false_or, hfilePrivate, hfileReadable,
      decide_eq_false (not_lt.mpr hsize)]
    rfl
  have hbound : isMarkerOf name (jobMarker name phase operation) = true := by
    simp [isMarkerOf, jobMarker, hsafe, hname, Except.toBool]
  refine ⟨⟨name, ⟨host.uid, 0o700, 2⟩, entries, jobMarker name phase operation⟩, ?_, rfl, rfl, rfl,
    hdirectory⟩
  have hlast : (filled.path ++ [name]).getLast?.getD "" = name := by simp
  have hparent : ((filled.path ++ [name]).dropLast != filled.path) = false := by simp
  apply bind_eq_ok.mpr
  refine ⟨_, rfl, ?_⟩
  dsimp only
  rw [hlast, validateJobName_none hname, hparent, hprivate]
  apply bind_eq_ok.mpr
  refine ⟨(), rfl, ?_⟩
  apply bind_eq_ok.mpr
  refine ⟨(), rfl, ?_⟩
  apply bind_eq_ok.mpr
  refine ⟨_, rfl, ?_⟩
  dsimp only
  rw [hread]
  apply bind_eq_ok.mpr
  refine ⟨_, rfl, ?_⟩
  rw [decodeMarker, hdecode]
  apply bind_eq_ok.mpr
  refine ⟨_, rfl, ?_⟩
  rw [hbound]
  rfl

/-! ## Which job roots are removed -/

/-- When a tree can be removed. -/
theorem removeDirAll_removes_iff (hphase : job.marker.phase = phase) :
    removeDirAll host root job entries = (.ok phase, root.without job.name) ↔
      (TreeNode.directory job.metadata entries).isRemovable = true := by
  unfold removeDirAll
  dsimp only
  split
  · rename_i hremovable
    simp [hphase, hremovable]
  · rename_i hkept
    simp [hkept]

/-- What the search gets through. -/
def IsSearchable (metadata : FileMetadata) (entries : Entries) : Prop :=
  (TreeNode.directory metadata entries).isOpen = true ∧ levelsBelow entries ≤ maxWalkDepth ∧
    (TreeNode.directory metadata entries).readBefore ≤ maxWalkCount

/-- No file and no directory has a name of signing material. -/
def IsClean (entries : Entries) : Prop :=
  ∀ entry ∈ entriesBelow entries, isOwnedSigningMaterial entry.1 = false

/-- What is below a job root when its stale keychains are collected: directories with the name of
    a keychain root are handed to the collection, which may fail. -/
def collected (host : CleanupHost) (entries : Entries) : Option Entries :=
  if hasKeychainRoots (entriesBelow entries) then
    let (done, rest) := host.garbageCollectStaleKeychains entries
    if done then some rest else none
  else some entries

/-- The owner can remove the tree. In the sign phase the search gets through it before and after
    the collection of the stale keychains, and finds no name of signing material. -/
def IsCleanable (host : CleanupHost) (metadata : FileMetadata) (entries : Entries) :
    JobPhase → Prop
  | .compile => (TreeNode.directory metadata entries).isRemovable = true
  | .sign => IsSearchable metadata entries ∧ ∃ rest, collected host entries = some rest ∧
    IsSearchable metadata rest ∧ IsClean rest ∧
      (TreeNode.directory metadata rest).isRemovable = true

/-- When no signing material is found. -/
theorem rejectSigningMaterial_eq_ok : rejectSigningMaterial metadata entries = .ok () ↔
    IsSearchable metadata entries ∧ IsClean entries := by
  rw [IsSearchable, ← walkBounded_ok_iff, rejectSigningMaterial, bind_eq_ok]
  have hnames : ∀ visited, walkBounded metadata entries = .ok visited →
      ((visited.any fun entry => isOwnedSigningMaterial entry.1) = false ↔ IsClean entries) := by
    intro visited hwalk
    rw [any_walkBounded hwalk, List.any_eq_false]
    exact forall₂_congr fun entry _ =>
      iff_of_eq (Bool.not_eq_true (isOwnedSigningMaterial entry.1))
  constructor
  · intro h
    obtain ⟨visited, hwalk, hreject⟩ := h
    exact ⟨⟨visited, hwalk⟩, (hnames visited hwalk).mp (rejectIf_eq_ok.mp hreject)⟩
  · intro h
    obtain ⟨⟨visited, hwalk⟩, hclean⟩ := h
    exact ⟨visited, hwalk, rejectIf_eq_ok.mpr ((hnames visited hwalk).mpr hclean)⟩

/-- When all keychains are collected. -/
theorem cleanupStaleKeychainsBelow_eq_ok {rest : Entries} :
    cleanupStaleKeychainsBelow host metadata entries = (.ok (), rest) ↔
      IsSearchable metadata entries ∧ collected host entries = some rest := by
  rw [IsSearchable, ← walkBounded_ok_iff, cleanupStaleKeychainsBelow]
  cases hwalk : walkBounded metadata entries with
  | error failure => simp
  | ok visited =>
    rw [and_iff_right ⟨visited, rfl⟩]
    show garbageCollect host entries visited = _ ↔ _
    rw [garbageCollect, collected, hasKeychainRoots, hasKeychainRoots, any_walkBounded hwalk]
    split
    · cases (host.garbageCollectStaleKeychains entries).1 <;> simp [rejectIf]
    · simp

/-- The search of a job root of the sign phase lets it be removed. -/
theorem inventory_eq_ok {rest : Entries} : inventoryOwnedJobRoot host job = (.ok (), rest) ↔
    IsSearchable job.metadata job.entries ∧ collected host job.entries = some rest ∧
      IsSearchable job.metadata rest ∧ IsClean rest := by
  rw [← and_assoc, ← cleanupStaleKeychainsBelow_eq_ok, ← rejectSigningMaterial_eq_ok,
    inventoryOwnedJobRoot]
  rcases cleanupStaleKeychainsBelow host job.metadata job.entries with ⟨failure | u, left⟩
  · simp [SeqRight.seqRight, Except.bind]
  · constructor
    · intro h
      obtain ⟨hreject, rfl⟩ := Prod.mk.inj h
      exact ⟨rfl, hreject⟩
    · intro h
      obtain ⟨hleft, hreject⟩ := h
      obtain ⟨-, rfl⟩ := Prod.mk.inj hleft
      exact congrArg (·, left) hreject

/-- **Which job roots are cleaned.** A created job root that its phase has filled is removed
    exactly when its owner can remove it and, in the sign phase, the search gets through its tree
    and no name in it is one of signing material. Whatever the cleanup is called with, it changes
    nothing but a private, owned and marker-bound child of the worker root. -/
theorem runCleanupCommand_removes_iff {created filled : WorkerRoot} {parent : List String}
    {phase : JobPhase} {operationId environmentId : Option String} {entries : Entries}
    (hcreated : createJobRoot host root parent name phase operationId environmentId = .ok created)
    (hmarker : host.ReadsMarker
      (jobMarker name phase ((operationId.or environmentId).getD "host-operation")))
    (hfilled : Filled created filled name entries) :
    (runCleanupCommand host filled true (.ok (filled.path ++ [name])) =
        (.ok phase, filled.without name) ↔
      ∃ metadata, filled.children.lookup name = some (.directory metadata entries) ∧
        IsCleanable host metadata entries phase) ∧
    ∀ requireComplete supplied,
      (runCleanupCommand host filled requireComplete supplied).2 = filled ∨
        ∃ name metadata entries marker, supplied = .ok (filled.path ++ [name]) ∧
          OwnedChild host filled name metadata entries marker ∧
          ∀ other, other ≠ name →
            (runCleanupCommand host filled requireComplete supplied).2.children.lookup other =
              filled.children.lookup other := by
  refine ⟨?_, fun requireComplete supplied => runCleanupCommand_owned requireComplete supplied⟩
  obtain ⟨job, hjob, rfl, hphase, rfl, hchild⟩ :=
    validateOwnedJobRoot_created hcreated hmarker hfilled
  have hmetadata : (∃ metadata, filled.children.lookup job.name =
      some (.directory metadata job.entries) ∧ IsCleanable host metadata job.entries phase) ↔
      IsCleanable host job.metadata job.entries phase := by
    constructor
    · intro h
      obtain ⟨metadata, hlookup, hcondition⟩ := h
      rw [hchild] at hlookup
      obtain ⟨rfl, -⟩ := TreeNode.directory.inj (Option.some.inj hlookup)
      exact hcondition
    · exact fun h => ⟨job.metadata, hchild, h⟩
  have hrun : runCleanupCommand host filled true (.ok (filled.path ++ [job.name])) =
      removeOwnedJobRoot host filled job := by
    simp only [runCleanupCommand, Bool.not_true, Bool.false_eq_true, if_false, hjob]
  rw [hrun, hmetadata]
  unfold removeOwnedJobRoot
  cases phase with
  | compile =>
    have hcompile : job.marker.phase ≠ .sign := by
      rw [hphase]
      decide
    rw [if_neg hcompile, removeDirAll_removes_iff hphase]
    rfl
  | sign =>
    rw [if_pos hphase, IsCleanable]
    have hinventory := @inventory_eq_ok job host
    rcases hresult : inventoryOwnedJobRoot host job with ⟨failure | u, rest⟩
    · -- a search that fails leaves the job root
      simp only [hresult] at hinventory
      constructor
      · intro h
        cases h
      · intro h
        obtain ⟨hsearchable, rest, hcollected, hafter, hclean, -⟩ := h
        cases hinventory.mpr ⟨hsearchable, hcollected, hafter, hclean⟩
    · obtain ⟨hsearchable, hcollected, hafter, hclean⟩ := hinventory.mp hresult
      dsimp only
      rw [removeDirAll_removes_iff hphase, and_iff_right hsearchable]
      constructor
      · exact fun h => ⟨rest, hcollected, hafter, hclean, h⟩
      · intro h
        obtain ⟨rest', hrest, -, -, hremovable⟩ := h
        rw [hcollected] at hrest
        rwa [Option.some.inj hrest]

end

end

/-! ## An archive that is too deep for the search -/

namespace Sample

def signMarker : JobMarker := jobMarker "rustferry-sign-1" .sign "operation-1"

def markerText : String :=
  "\x7b\n  \"schema_version\": 1,\n  \"owner\": \"rustferry-worker-macos\",\n" ++
    "  \"job_name\": \"rustferry-sign-1\",\n  \"phase\": \"sign\",\n" ++
    "  \"operation_id\": \"operation-1\"\n\x7d"

def markerBytes : List UInt8 := Text.utf8 markerText

/-- The codec of one marker. -/
def cleanupHost : CleanupHost where
  uid := 501
  codec := {
    toVecPretty := fun _ => markerBytes
    decodeStrictJson := fun content => if content = markerBytes then some signMarker else none }
  garbageCollectStaleKeychains := fun entries => (false, entries)
  leftover := id

def workerRoot : WorkerRoot where
  path := ["worker"]
  metadata := ⟨501, 0o700, 2⟩
  children := []
  trusted := ⟨by decide, by decide⟩

def markerEntry : String × TreeNode := (jobMarkerName, privateFile cleanupHost markerBytes)

/-- The worker root with the job root of a sign phase. -/
def signRoot (entries : Entries) : WorkerRoot :=
  { workerRoot with children := [("rustferry-sign-1", privateDirectory cleanupHost entries)] }

theorem create_signRoot : createJobRoot cleanupHost workerRoot ["worker"] "rustferry-sign-1" .sign
    (some "operation-1") none = .ok (signRoot [markerEntry]) := by
  have hname : normalizedNewName workerRoot ["worker"] "rustferry-sign-1" = .ok () := by decide
  have hjob : validateJobName "rustferry-sign-1" (some .sign) = .ok () := by decide
  have hoperation : safeRefOperation (((some "operation-1").or none).getD "host-operation") =
    true := by decide
  rw [createJobRoot, hname, hjob]
  dsimp only
  rw [hoperation]
  rfl

theorem filled_signRoot (entries : Entries) :
    Filled (signRoot [markerEntry]) (signRoot (markerEntry :: entries)) "rustferry-sign-1"
      (markerEntry :: entries) where
  path := rfl
  metadata := rfl
  directory := ⟨⟨501, 0o700, 2⟩, [markerEntry], rfl, rfl, rfl⟩

/-- Directories in each other, with one file in the last one. -/
def nested : Nat → Entries
  | 0 => [("Info.plist", privateFile cleanupHost [])]
  | depth + 1 => [("nested", privateDirectory cleanupHost (nested depth))]

/-- What an interrupted sign phase leaves: its workspace with the unpacked archive. -/
def interrupted : Entries :=
  [("protected", privateDirectory cleanupHost
    [("unsigned.xcarchive", privateDirectory cleanupHost (nested 15))])]

/-- Neither tree has signing material, the command refuses the deep one, and the marker is small. -/
theorem signRoots_evaluate :
    ((∀ entry ∈ entriesBelow (markerEntry :: interrupted),
          isOwnedSigningMaterial entry.1 = false) ∧
        ∀ entry ∈ entriesBelow (markerEntry :: nested 3),
          isOwnedSigningMaterial entry.1 = false) ∧
      ((runCleanupCommand cleanupHost (signRoot (markerEntry :: interrupted)) true
          (.ok ["worker", "rustferry-sign-1"])).1 = .error (.cleanup "cleanup_inventory_exceeded"
            "worker cleanup inventory exceeded its bound") ∧
        ((runCleanupCommand cleanupHost (signRoot (markerEntry :: interrupted)) true
          (.ok ["worker", "rustferry-sign-1"])).2.children.map (·.1)) = ["rustferry-sign-1"]) ∧
      markerText.utf8ByteSize ≤ maxMarkerBytes := by
  decide +kernel

/-- One file in an archive of fifteen levels, within the limits of a sealed archive: the job root
    is refused, and stays. -/
theorem uncleanable_signRoot :
    createJobRoot cleanupHost workerRoot ["worker"] "rustferry-sign-1" .sign (some "operation-1")
      none = .ok (signRoot [markerEntry]) ∧
    Filled (signRoot [markerEntry]) (signRoot (markerEntry :: interrupted)) "rustferry-sign-1"
      (markerEntry :: interrupted) ∧
    (∀ entry ∈ entriesBelow (markerEntry :: interrupted),
      isOwnedSigningMaterial entry.1 = false) ∧
    levelsBelow (nested 15) ≤ 128 ∧ countEntries (nested 15) ≤ 50000 ∧
    (runCleanupCommand cleanupHost (signRoot (markerEntry :: interrupted)) true
      (.ok ["worker", "rustferry-sign-1"])).1 = .error (.cleanup "cleanup_inventory_exceeded"
        "worker cleanup inventory exceeded its bound") ∧
    ((runCleanupCommand cleanupHost (signRoot (markerEntry :: interrupted)) true
      (.ok ["worker", "rustferry-sign-1"])).2.children.map (·.1)) = ["rustferry-sign-1"] :=
  ⟨create_signRoot, filled_signRoot interrupted, signRoots_evaluate.1.1, by decide, by decide,
    signRoots_evaluate.2.1⟩

/-- A job root with a shallow tree is removed. -/
theorem runCleanupCommand_removes_signRoot :
    runCleanupCommand cleanupHost (signRoot (markerEntry :: nested 3)) true
        (.ok ["worker", "rustferry-sign-1"]) =
      (.ok .sign, (signRoot (markerEntry :: nested 3)).without "rustferry-sign-1") := by
  have hlength : markerBytes.length = markerText.utf8ByteSize := by
    rw [markerBytes, Text.utf8, Array.length_toList]
    rfl
  have hdecode : (if markerBytes = markerBytes then some signMarker else none) = some signMarker :=
    if_pos rfl
  have hsize := signRoots_evaluate.2.2
  have hmarker : cleanupHost.ReadsMarker signMarker := ⟨hdecode, le_trans (le_of_eq hlength) hsize⟩
  have hsearchable : IsSearchable ⟨501, 0o700, 2⟩ (markerEntry :: nested 3) :=
    ⟨by decide, by decide, by decide⟩
  have hcollected : collected cleanupHost (markerEntry :: nested 3) =
      some (markerEntry :: nested 3) := if_neg (by decide)
  exact (runCleanupCommand_removes_iff create_signRoot hmarker (filled_signRoot (nested 3))).1.mpr
    ⟨⟨501, 0o700, 2⟩, rfl, hsearchable, _, hcollected, hsearchable, signRoots_evaluate.1.2,
      by decide⟩

end Sample

end RustFerry.Worker
