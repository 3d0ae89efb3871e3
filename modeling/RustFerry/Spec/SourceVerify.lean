import Mathlib.Algebra.Order.BigOperators.Group.List
import RustFerry.Spec.SourceExtraction

/-!
# Verification of extracted bundles

The scan of an extracted bundle goes through every directory once and looks at each child. On
what was extracted from a valid manifest it finds the entries of the manifest, unless a
directory is sensitive, which the checks on the manifest do not exclude.
-/

namespace RustFerry.Source

open Except Snapshot

variable {path : FsPath} {manifest : SourceManifest} {node : ExtractedNode} {name : List Char}
  {seen : List FsPath} {state : VerifyState} {directory : FsPath}

section

variable {tools : SourceTools} {limits : SourceLimits} {items : List Item} {tree : Extracted}

/-- The entries of the items. -/
def entriesOf (items : List Item) : List SourceManifestEntry := items.map (·.1)

/-- What the checks on a manifest and its files establish. -/
structure BundleOk (tools : SourceTools) (limits : SourceLimits) (items : List Item)
    (tree : Extracted) : Prop where
  entries : EntriesOk tools limits (entriesOf items)
  count : items.length ≤ limits.maxFileCount
  size : ∀ item ∈ items, item.2.length = item.1.size.toNat
  digest : ∀ item ∈ items, tools.sha256 item.2 = item.1.sha256
  harmless : ∀ item ∈ items, rejectSensitiveContents item.1.path item.2 = .ok ()
  materialized : Materialized items tree

theorem mem_entriesOf {item : Item} (h : item ∈ items) : item.1 ∈ entriesOf items :=
  List.mem_map_of_mem h

section

variable (hok : BundleOk tools limits items tree)

include hok

/-- A node is an ancestor of a file, or a file. -/
theorem BundleOk.isPrefix_of_mem (h : (path, node) ∈ tree)
      :
    path ≠ [] ∧ ∃ item ∈ items, path <+: components item.1.path := by
  rcases (hok.materialized.mem _ _).mp h with ⟨item, hitem, rfl, -⟩ | ⟨-, hne, item, hitem, hle, -⟩
  · exact ⟨components_ne_nil _, item, hitem, List.prefix_refl _⟩
  · exact ⟨hne, item, hitem, hle⟩

/-- Extracted paths are valid. -/
theorem BundleOk.validPath {path : FsPath}
    {node : ExtractedNode} (h : (path, node) ∈ tree) : ValidPath path := by
  obtain ⟨-, item, hitem, hle⟩ := hok.isPrefix_of_mem h
  exact (hok.entries.validPath (mem_entriesOf hitem)).of_isPrefix hle

/-- The parent of a node is the root or a directory. -/
theorem BundleOk.parent (h : (path ++ [name], node) ∈
      tree) :
    path = [] ∨ (path, .directory) ∈ tree := by
  by_cases hnil : path = []
  · exact Or.inl hnil
  · right
    obtain ⟨-, item, hitem, hle⟩ := hok.isPrefix_of_mem h
    refine (hok.materialized.mem _ _).mpr (Or.inr ⟨rfl, hnil, item, hitem, ?_, ?_⟩)
    · exact (List.prefix_append _ _).trans hle
    · intro heq
      have hlength := hle.length_le
      rw [← heq, List.length_append, List.length_singleton] at hlength
      omega

/-- There are not too many. -/
theorem BundleOk.length_le :
    tree.length ≤ maxSourceTraversalEntries := by
  have hlength := hok.materialized.length
  have hbudget := hok.entries.traversal
  rw [entriesOf, List.map_map] at hbudget
  exact hlength.trans hbudget

end

/-! ## Children -/

theorem mem_childNames :
    name ∈ childNames tree directory ↔ ∃ node, (directory ++ [name], node) ∈ tree := by
  rw [childNames, List.mem_filterMap]
  constructor
  · intro hparts
    obtain ⟨⟨path, node⟩, hmem, hname⟩ := hparts
    dsimp only at hname
    split at hname
    · rename_i hparent
      refine ⟨node, ?_⟩
      rw [← hparent, List.dropLast_append_getLast? name hname]
      exact hmem
    · cases hname
  · intro hparts
    obtain ⟨node, hmem⟩ := hparts
    refine ⟨_, hmem, ?_⟩
    simp

theorem nodup_childNames (hnodup : (tree.map (·.1)).Nodup) (directory : FsPath) :
    (childNames tree directory).Nodup := by
  induction tree with
  | nil => exact List.nodup_nil
  | cons first rest ih =>
    obtain ⟨path, node⟩ := first
    obtain ⟨hfresh, hrest⟩ := List.nodup_cons.mp hnodup
    by_cases hparent : path.dropLast = directory
    · cases hlast : path.getLast? with
      | none =>
        have hcons : childNames ((path, node) :: rest) directory = childNames rest directory := by
          simp [childNames, hparent, hlast]
        rw [hcons]
        exact ih hrest
      | some name =>
        have hcons : childNames ((path, node) :: rest) directory =
            name :: childNames rest directory := by
          simp [childNames, hparent, hlast]
        rw [hcons]
        refine List.nodup_cons.mpr ⟨?_, ih hrest⟩
        intro hname
        obtain ⟨node', hmem⟩ := mem_childNames.mp hname
        apply hfresh
        rw [← List.dropLast_append_getLast? name hlast, hparent]
        exact List.mem_map.mpr ⟨_, hmem, rfl⟩
    · have hcons : childNames ((path, node) :: rest) directory = childNames rest directory := by
        simp [childNames, hparent]
      rw [hcons]
      exact ih hrest

/-- The nodes whose parents are among these directories. -/
def below (tree : Extracted) (directories : List FsPath) : List (FsPath × ExtractedNode) :=
  tree.filter fun node => node.1.dropLast ∈ directories

/-- One directory more adds its children. -/
theorem length_below_cons {directories : List FsPath} (hne : ∀ node ∈ tree, node.1 ≠ [])
    (hfresh : directory ∉ directories) :
    (below tree (directory :: directories)).length =
      (below tree directories).length + (childNames tree directory).length := by
  induction tree with
  | nil => rfl
  | cons first rest ih =>
    obtain ⟨path, node⟩ := first
    have hrest := ih fun node hnode => hne node (List.mem_cons_of_mem _ hnode)
    have hpath : path ≠ [] := hne (path, node) List.mem_cons_self
    obtain ⟨name, hlast⟩ := Option.isSome_iff_exists.mp (List.getLast?_isSome.mpr hpath)
    unfold below childNames at hrest ⊢
    by_cases hparent : path.dropLast = directory
    · have hnot : path.dropLast ∉ directories := hparent ▸ hfresh
      rw [List.filter_cons_of_pos (by simp [hparent]), List.filter_cons_of_neg (by simpa using hnot),
        List.filterMap_cons_some (by simp [hparent, hlast]; rfl), List.length_cons,
        List.length_cons, hrest]
      omega
    · rw [List.filterMap_cons_none (by simp [hparent])]
      by_cases hother : path.dropLast ∈ directories
      · rw [List.filter_cons_of_pos (by simp [hother]), List.filter_cons_of_pos (by simp [hother]),
          List.length_cons, List.length_cons, hrest]
        omega
      · rw [List.filter_cons_of_neg (by simp [hother, hparent]),
          List.filter_cons_of_neg (by simp [hother]), hrest]

/-! ## One child -/

/-- What the scan remembers of the nodes it has seen. -/
structure VerifyInv (tools : SourceTools) (items : List Item) (tree : Extracted)
    (seen : List FsPath) (state : VerifyState) : Prop where
  entries : ∃ handled : List SourceManifestEntry,
    state.entries.Perm (handled.map fun entry => (entry.path, entry)) ∧ handled.Nodup ∧
      (∀ entry, entry ∈ handled ↔ entry ∈ entriesOf items ∧ components entry.path ∈ seen) ∧
      state.totalSize = (handled.map fun entry => entry.size.toNat).sum
  sorted : BTreeMap.Sorted state.entries
  directories : ∀ key u, (key, u) ∈ state.directories →
    ∃ path, (path, .directory) ∈ tree ∧ key = displayRelativePath path
  collisions : RegistersOnly tools.unicode state.collisions (allPaths (entriesOf items))

/-- The state up to order. -/
theorem VerifyInv.congr {seen' : List FsPath} {state' : VerifyState}
    (hinv : VerifyInv tools items tree seen state) (hseen : ∀ path, path ∈ seen ↔ path ∈ seen')
    (hentries : state'.entries = state.entries) (htotal : state'.totalSize = state.totalSize)
    (hdirectories : state'.directories = state.directories)
    (hcollisions : state'.collisions = state.collisions) :
    VerifyInv tools items tree seen' state' := by
  obtain ⟨handled, hperm, hnodup, hmem, hsum⟩ := hinv.entries
  refine ⟨⟨handled, hentries ▸ hperm, hnodup, ?_, htotal ▸ hsum⟩, hentries ▸ hinv.sorted, ?_,
    hcollisions ▸ hinv.collisions⟩
  · intro entry
    rw [hmem, hseen]
  · rw [hdirectories]
    exact hinv.directories

/-- The file of an item is added to the entries, within all limits. -/
theorem verifyFile_eq_ok (hok : BundleOk tools limits items tree)
    (hinv : VerifyInv tools items tree seen state) {item : Item} (hitem : item ∈ items)
    (hfresh : components item.1.path ∉ seen) :
    ∃ state', verifyFile tools limits state item.1.path item.2 item.1.executable = .ok state' ∧
      state'.traversal = state.traversal ∧
      VerifyInv tools items tree (components item.1.path :: seen) state' := by
  obtain ⟨handled, hperm, hnodup, hmem, hsum⟩ := hinv.entries
  have hentry := mem_entriesOf hitem
  have hnew : item.1 ∉ handled := fun hold => hfresh ((hmem item.1).mp hold).2
  have hall : (item.1 :: handled).Subperm (entriesOf items) := by
    apply List.subperm_of_subset (List.nodup_cons.mpr ⟨hnew, hnodup⟩)
    intro entry hentry'
    rcases List.mem_cons.mp hentry' with rfl | hentry'
    · exact hentry
    · exact ((hmem entry).mp hentry').1
  -- the limits hold of all entries together, so of those seen so far
  have hlength : state.entries.length + 1 ≤ items.length := by
    have hle := hall.length_le
    rw [List.length_cons, entriesOf, List.length_map] at hle
    rw [hperm.length_eq, List.length_map]
    exact hle
  have htotal : state.totalSize + item.2.length ≤ limits.maxTotalSize.toNat := by
    have hle : ((item.1 :: handled).map fun entry => entry.size.toNat).sum ≤
        ((entriesOf items).map fun entry => entry.size.toNat).sum := by
      obtain ⟨middle, hpermutes, hsublist⟩ := hall
      rw [(hpermutes.map _).sum_eq.symm]
      exact (hsublist.map _).sum_le_sum fun _ _ => Nat.zero_le _
    have hlimit := hok.entries.total
    rw [List.map_cons, List.sum_cons] at hle
    rw [hsum, hok.size item hitem]
    omega
  have hsize := (hok.entries.each item.1 hentry).size
  have hcount := hok.count
  have hword := limits.maxTotalSize.toNat_lt
  have hentryEq : (⟨item.1.path, UInt64.ofNat item.2.length, tools.sha256 item.2,
      item.1.executable⟩ : SourceManifestEntry) = item.1 := by
    rw [hok.size item hitem, hok.digest item hitem, UInt64.ofNat_toNat]
  refine ⟨{ state with
    totalSize := state.totalSize + item.2.length
    entries := BTreeMap.insert item.1.path item.1 state.entries }, ?_, rfl, ?_⟩
  · unfold verifyFile
    simp only [check_bind_eq_ok, rejectIf_eq_ok, decide_eq_false_iff_not]
    refine ⟨by omega, ?_, by omega, by omega, hok.harmless item hitem, ?_⟩
    · rw [hok.size item hitem]
      omega
    · rw [hentryEq]
      rfl
  · refine ⟨⟨item.1 :: handled, ?_, List.nodup_cons.mpr ⟨hnew, hnodup⟩, ?_, ?_⟩,
      BTreeMap.sorted_insert hinv.sorted, hinv.directories, hinv.collisions⟩
    · have hkeys : ∀ entry ∈ state.entries, entry.1 ≠ item.1.path := by
        intro entry hentry' hkey
        obtain ⟨other, hother, rfl⟩ := List.mem_map.mp (hperm.subset hentry')
        have hsame := hok.entries.eq_of_path ((hmem other).mp hother).1 hentry hkey
        exact hnew (hsame ▸ hother)
      exact (BTreeMap.insert_perm hkeys).trans (hperm.cons _)
    · intro entry
      rw [List.mem_cons, List.mem_cons, hmem]
      constructor
      · intro h
        rcases h with rfl | ⟨hin, hseen⟩
        · exact ⟨hentry, Or.inl rfl⟩
        · exact ⟨hin, Or.inr hseen⟩
      · intro hparts
        obtain ⟨hin, h⟩ := hparts
        rcases h with heq | hseen
        · left
          exact hok.entries.eq_of_isPrefix hin hentry (heq ▸ List.prefix_refl _)
        · exact Or.inr ⟨hin, hseen⟩
    · show state.totalSize + item.2.length = _
      rw [List.map_cons, List.sum_cons, hsum, hok.size item hitem]
      omega

/-- A node that is not sensitive passes the checks; a directory goes on the stack. -/
theorem scanCapabilityChild_eq_ok (hok : BundleOk tools limits items tree) (pushed : List FsPath)
    (hinv : VerifyInv tools items tree seen state) (hmem : (directory ++ [name], node) ∈ tree)
    (hfresh : directory ++ [name] ∉ seen)
    (hclear : isSensitivePath tools.unicode (displayRelativePath (directory ++ [name])) = false) :
    ∃ state', scanCapabilityChild tools limits tree directory (state, pushed) name =
        .ok (state', if node = .directory then (directory ++ [name]) :: pushed else pushed) ∧
      state'.traversal = state.traversal ∧
      VerifyInv tools items tree ((directory ++ [name]) :: seen) state' := by
  obtain ⟨hne, item, hitem, hle⟩ := hok.isPrefix_of_mem hmem
  have hvalid := hok.validPath hmem
  have hentry := mem_entriesOf hitem
  have hportable := portable_of_isPrefix (hok.entries.each item.1 hentry).portable hne hle
  have hdepth : (components (displayRelativePath (directory ++ [name]))).length ≤
      limits.maxDepth := by
    rw [components_display hvalid hne]
    exact hle.length_le.trans (hok.entries.each item.1 hentry).depth
  have hlookup := (List.lookup_eq_some_iff_mem hok.materialized.nodup).mpr hmem
  obtain ⟨collisions, hregister, honly⟩ := registerCollisionKey_of_collisionFree
    hok.entries.collisionFree hinv.collisions (mem_allPaths hok.entries hentry hne hle)
  have hregistered : VerifyInv tools items tree seen { state with collisions } :=
    { hinv with collisions := honly }
  have hchecks : ∀ {rest : Unit → SourceResult (VerifyState × List FsPath)} {result},
      rest () = .ok result →
      (requirePortable tools.unicode (displayRelativePath (directory ++ [name])) false >>= fun _ =>
        rejectSensitive tools.unicode (displayRelativePath (directory ++ [name])) >>= fun _ =>
        checkDepth (displayRelativePath (directory ++ [name])) limits.maxDepth >>= rest) =
        .ok result := by
    intro rest result hrest
    simp only [check_bind_eq_ok]
    refine ⟨mapError_eq_ok.mpr hportable, ?_, ?_, hrest⟩
    · rw [rejectSensitive, rejectIf_eq_ok]
      exact hclear
    · rw [checkDepth, rejectIf_eq_ok, decide_eq_false_iff_not]
      omega
  cases node with
  | directory =>
    refine ⟨{ state with
      collisions
      directories := BTreeMap.insert (displayRelativePath (directory ++ [name])) ()
        state.directories }, ?_, rfl, ?_⟩
    · rw [scanCapabilityChild]
      apply hchecks
      rw [hlookup]
      dsimp only
      rw [bind_eq_ok]
      exact ⟨collisions, hregister, rfl⟩
    · obtain ⟨handled, hperm, hnodup, hhandled, hsum⟩ := hregistered.entries
      refine ⟨⟨handled, hperm, hnodup, ?_, hsum⟩, hinv.sorted, ?_, honly⟩
      · -- a directory is not a file
        intro entry
        rw [hhandled, List.mem_cons]
        constructor
        · intro hparts
          obtain ⟨hin, hseen⟩ := hparts
          exact ⟨hin, Or.inr hseen⟩
        · intro hparts
          obtain ⟨hin, h⟩ := hparts
          refine ⟨hin, h.resolve_left ?_⟩
          intro heq
          obtain ⟨other, hother, rfl⟩ := List.mem_map.mp hin
          have hfile := (hok.materialized.mem _ _).mpr (Or.inl ⟨other, hother, rfl, rfl⟩)
          rw [heq] at hfile
          have hlookup' := (List.lookup_eq_some_iff_mem hok.materialized.nodup).mpr hfile
          rw [hlookup] at hlookup'
          cases hlookup'
      · intro key u hkey
        rcases BTreeMap.mem_of_mem_insert hkey with hnew | hold
        · exact ⟨_, hmem, (Prod.mk.inj hnew).1⟩
        · exact hinv.directories key u hold
  | file contents executable =>
    rcases (hok.materialized.mem _ _).mp hmem with ⟨other, hother, hpath, hnode⟩ | ⟨hnode, -⟩
    · obtain ⟨rfl, rfl⟩ := ExtractedNode.file.inj hnode
      rw [hpath] at hfresh
      obtain ⟨state', hverify, htraversal, hnext⟩ := verifyFile_eq_ok hok hregistered hother hfresh
      refine ⟨state', ?_, htraversal, ?_⟩
      · rw [scanCapabilityChild]
        apply hchecks
        rw [hlookup]
        dsimp only
        rw [bind_eq_ok]
        refine ⟨collisions, hregister, ?_⟩
        rw [bind_eq_ok]
        refine ⟨state', ?_, rfl⟩
        rw [hpath, display_components]
        exact hverify
      · rw [hpath]
        exact hnext
    · cases hnode

/-! ## One directory -/

/-- Children are paid one by one. -/
theorem consumeEach_eq_ok {names : List (List Char)} {budget : TraversalBudget}
    {path : Option String} (h : budget.visited + names.length ≤ budget.maximum) :
    names.foldlM (fun budget _ => budget.consume 1 path) budget =
      .ok { budget with visited := budget.visited + names.length } := by
  induction names generalizing budget with
  | nil => rfl
  | cons name names ih =>
    rw [List.length_cons] at h
    rw [List.foldlM_cons, bind_eq_ok]
    refine ⟨_, consume_eq_ok.mpr ⟨by omega, rfl⟩, ?_⟩
    rw [ih (by dsimp only; omega)]
    simp only [List.length_cons, Except.ok.injEq, TraversalBudget.mk.injEq, true_and]
    omega

theorem mem_below {directories : List FsPath} :
    path ∈ (below tree directories).map (·.1) ↔
      path.dropLast ∈ directories ∧ ∃ node, (path, node) ∈ tree := by
  rw [List.mem_map]
  constructor
  · intro hparts
    obtain ⟨⟨_, node⟩, hmem, heq⟩ := hparts
    obtain ⟨htree, hparent⟩ := List.mem_filter.mp hmem
    dsimp only at heq hparent
    subst heq
    exact ⟨by simpa using hparent, node, htree⟩
  · intro hparts
    obtain ⟨hparent, node, htree⟩ := hparts
    exact ⟨(path, node), List.mem_filter.mpr ⟨htree, by simpa using hparent⟩, rfl⟩

/-- What holds of the walk through the directories: those processed so far, those on the
    stack, and what was seen. -/
structure WalkInv (tools : SourceTools) (items : List Item) (tree : Extracted)
    (processed stack : List FsPath) (state : VerifyState) : Prop where
  nodup : (stack ++ processed).Nodup
  root : [] ∈ stack ++ processed
  parent : ∀ directory ∈ stack ++ processed,
    directory = [] ∨ ((directory, .directory) ∈ tree ∧ directory.dropLast ∈ processed)
  children : ∀ directory, (directory, .directory) ∈ tree → directory.dropLast ∈ processed →
    directory ∈ stack ++ processed
  maximum : state.traversal.maximum = maxSourceTraversalEntries
  visited : state.traversal.visited = (below tree processed).length
  seen : VerifyInv tools items tree ((below tree processed).map (·.1)) state

/-- No directory of the bundle is sensitive. -/
def DirectoriesClear (tools : SourceTools) (tree : Extracted) : Prop :=
  ∀ path, (path, .directory) ∈ tree →
    isSensitivePath tools.unicode (displayRelativePath path) = false

/-- No path is sensitive if no directory is. -/
theorem BundleOk.clear (hok : BundleOk tools limits items tree)
    (hclear : DirectoriesClear tools tree) (h : (path, node) ∈ tree) :
    isSensitivePath tools.unicode (displayRelativePath path) = false := by
  cases node with
  | directory => exact hclear path h
  | file contents executable =>
    rcases (hok.materialized.mem _ _).mp h with ⟨item, hitem, rfl, -⟩ | ⟨hnode, -⟩
    · rw [display_components]
      exact (hok.entries.each item.1 (mem_entriesOf hitem)).notSensitive
    · cases hnode

/-- What the loop over the children of a directory has done. -/
structure ChildrenInv (tools : SourceTools) (items : List Item) (tree : Extracted)
    (directory : FsPath) (seen : List FsPath) (budget : TraversalBudget)
    (names : List (List Char)) (state : VerifyState × List FsPath) : Prop where
  seen : VerifyInv tools items tree ((names.map fun name => directory ++ [name]) ++ seen) state.1
  traversal : state.1.traversal = budget
  nodup : state.2.Nodup
  pushed : ∀ path, path ∈ state.2 ↔
    ∃ name ∈ names, path = directory ++ [name] ∧ (path, .directory) ∈ tree
  length : state.2.length ≤ names.length

theorem ChildrenInv.step (hok : BundleOk tools limits items tree)
    (hclear : DirectoriesClear tools tree) {budget : TraversalBudget} {names : List (List Char)}
    {state : VerifyState × List FsPath}
    (hinv : ChildrenInv tools items tree directory seen budget names state)
    (hname : name ∈ childNames tree directory) (hnew : name ∉ names)
    (hfresh : directory ++ [name] ∉ seen) :
    ∃ state', scanCapabilityChild tools limits tree directory state name = .ok state' ∧
      ChildrenInv tools items tree directory seen budget (names ++ [name]) state' := by
  obtain ⟨node, hnode⟩ := mem_childNames.mp hname
  have hunseen : directory ++ [name] ∉ (names.map fun name => directory ++ [name]) ++ seen := by
    intro hmem
    rcases List.mem_append.mp hmem with hmem | hmem
    · obtain ⟨other, hother, heq⟩ := List.mem_map.mp hmem
      obtain rfl : other = name := by simpa using heq
      exact hnew hother
    · exact hfresh hmem
  obtain ⟨state', hchild, htraversal, hnext⟩ := scanCapabilityChild_eq_ok hok
    state.2 hinv.seen hnode hunseen (hok.clear hclear hnode)
  refine ⟨_, hchild, ?_, htraversal.trans hinv.traversal, ?_, ?_, ?_⟩
  · refine hnext.congr ?_ rfl rfl rfl rfl
    intro path
    simp only [List.mem_cons, List.mem_append, List.mem_map, List.not_mem_nil, or_false]
    constructor
    · intro h
      rcases h with rfl | ⟨other, hother, rfl⟩ | h
      · exact Or.inl ⟨name, Or.inr rfl, rfl⟩
      · exact Or.inl ⟨other, Or.inl hother, rfl⟩
      · exact Or.inr h
    · intro h
      rcases h with ⟨other, hother | rfl, rfl⟩ | h
      · exact Or.inr (Or.inl ⟨other, hother, rfl⟩)
      · exact Or.inl rfl
      · exact Or.inr (Or.inr h)
  · split
    · refine List.nodup_cons.mpr ⟨?_, hinv.nodup⟩
      intro hmem
      obtain ⟨other, hother, heq, -⟩ := (hinv.pushed _).mp hmem
      obtain rfl : name = other := by simpa using heq
      exact hnew hother
    · exact hinv.nodup
  · intro path
    have hsplit : (∃ other ∈ names ++ [name], path = directory ++ [other] ∧
        (path, ExtractedNode.directory) ∈ tree) ↔
        (∃ other ∈ names, path = directory ++ [other] ∧ (path, .directory) ∈ tree) ∨
          path = directory ++ [name] ∧ (path, .directory) ∈ tree := by
      simp only [List.mem_append, List.mem_singleton, or_and_right, exists_or, exists_eq_left]
    rw [hsplit, ← hinv.pushed]
    by_cases hdirectory : node = .directory
    · rw [if_pos hdirectory, List.mem_cons]
      rw [hdirectory] at hnode
      constructor
      · intro h
        rcases h with rfl | h
        · exact Or.inr ⟨rfl, hnode⟩
        · exact Or.inl h
      · intro h
        rcases h with h | ⟨rfl, -⟩
        · exact Or.inr h
        · exact Or.inl rfl
    · rw [if_neg hdirectory]
      constructor
      · intro h
        exact Or.inl h
      · intro h
        rcases h with h | ⟨rfl, hother⟩
        · exact h
        · -- the node is a file
          have hfirst := (List.lookup_eq_some_iff_mem hok.materialized.nodup).mpr hnode
          rw [(List.lookup_eq_some_iff_mem hok.materialized.nodup).mpr hother] at hfirst
          exact absurd (Option.some.inj hfirst).symm hdirectory
  · have hlength := hinv.length
    rw [List.length_append, List.length_singleton]
    split
    · rw [List.length_cons]
      omega
    · show state.2.length ≤ _
      omega

/-- One turn of the walk succeeds, keeps the invariant and pays for what it pushes. -/
theorem WalkInv.step (hok : BundleOk tools limits items tree)
    (hclear : DirectoriesClear tools tree) {processed stack : List FsPath} {directory : FsPath}
    {state : VerifyState} (hinv : WalkInv tools items tree processed (directory :: stack) state) :
    ∃ state' pushed, scanCapabilityStep tools limits tree state directory = .ok (state', pushed) ∧
      WalkInv tools items tree (directory :: processed) (pushed ++ stack) state' ∧
      pushed.length + (state'.traversal.maximum - state'.traversal.visited) ≤
        state.traversal.maximum - state.traversal.visited := by
  have hnotProcessed : directory ∉ processed := by
    intro hmem
    have hnodup := hinv.nodup
    rw [List.cons_append, List.nodup_cons] at hnodup
    exact hnodup.1 (List.mem_append_right _ hmem)
  have hpaths : ∀ node ∈ tree, node.1 ≠ [] := fun node hnode => (hok.isPrefix_of_mem hnode).1
  have hlength := length_below_cons hpaths hnotProcessed
  have hbudget : state.traversal.visited + (childNames tree directory).length ≤
      state.traversal.maximum := by
    have hle : (below tree (directory :: processed)).length ≤ tree.length := List.length_filter_le _ _
    have htree := hok.length_le
    rw [hinv.maximum, hinv.visited]
    omega
  -- the children in the order in which they are looked at
  let names := ((childNames tree directory).insertionSort (· ≤ ·)).reverse
  have hnames : ∀ name, name ∈ names ↔ name ∈ childNames tree directory := by
    intro name
    rw [List.mem_reverse, List.mem_insertionSort]
  have hnamesNodup : names.Nodup :=
    List.nodup_reverse.mpr ((List.perm_insertionSort _ _).nodup_iff.mpr
      (nodup_childNames hok.materialized.nodup directory))
  have hnamesLength : names.length = (childNames tree directory).length := by
    rw [List.length_reverse, List.length_insertionSort]
  let budget : TraversalBudget :=
    { state.traversal with visited := state.traversal.visited + (childNames tree directory).length }
  obtain ⟨⟨state', pushed⟩, hfold, hchildren⟩ := @foldlM_progress _ _ _ names
    (scanCapabilityChild tools limits tree directory) ({ state with traversal := budget }, [])
    (ChildrenInv tools items tree directory ((below tree processed).map (·.1)) budget) (by
      intro front name rest current hsplit hcurrent
      have hmem : name ∈ names := by
        rw [hsplit]
        exact List.mem_append_right _ List.mem_cons_self
      have hnodup := hnamesNodup
      rw [hsplit] at hnodup
      refine hcurrent.step hok hclear ((hnames name).mp hmem) ?_ ?_
      · intro hfront
        exact (List.nodup_append.mp hnodup).2.2 name hfront name List.mem_cons_self rfl
      · intro hseen
        obtain ⟨hparent, -⟩ := mem_below.mp hseen
        rw [List.dropLast_concat] at hparent
        exact hnotProcessed hparent)
    ⟨hinv.seen.congr (fun _ => by simp) rfl rfl rfl rfl, rfl, List.nodup_nil, by simp, by simp⟩
  have hpushed : ∀ path, path ∈ pushed ↔
      ∃ name ∈ names, path = directory ++ [name] ∧ (path, .directory) ∈ tree := hchildren.pushed
  have hpushedParent : ∀ path ∈ pushed, path ≠ [] ∧ path.dropLast = directory := by
    intro path hpath
    obtain ⟨name, -, rfl, -⟩ := (hpushed path).mp hpath
    exact ⟨by simp, List.dropLast_concat⟩
  have htraversal : state'.traversal = budget := hchildren.traversal
  refine ⟨state', pushed, ?_, ?_, ?_⟩
  · rw [scanCapabilityStep, bind_eq_ok]
    exact ⟨budget, consumeEach_eq_ok hbudget, hfold⟩
  · refine ⟨?_, ?_, ?_, ?_, ?_, ?_, ?_⟩
    · -- a child is new: its parent was not processed before
      have hold : (directory :: (stack ++ processed)).Nodup := hinv.nodup
      rw [List.append_assoc, List.nodup_append]
      refine ⟨hchildren.nodup, ?_, ?_⟩
      · exact (List.perm_middle.nodup_iff).mpr hold
      · intro path hpath other hother heq
        subst heq
        obtain ⟨hne, hparent⟩ := hpushedParent path hpath
        have hmem : path ∈ directory :: stack ++ processed := by
          rw [List.cons_append]
          rcases List.mem_append.mp hother with hother | hother
          · exact List.mem_cons_of_mem _ (List.mem_append_left _ hother)
          · rcases List.mem_cons.mp hother with rfl | hother
            · exact List.mem_cons_self
            · exact List.mem_cons_of_mem _ (List.mem_append_right _ hother)
        rcases hinv.parent path hmem with hnil | ⟨-, hprocessed⟩
        · exact hne hnil
        · rw [hparent] at hprocessed
          exact hnotProcessed hprocessed
    · have hroot := hinv.root
      simp only [List.mem_append, List.mem_cons] at hroot ⊢
      tauto
    · intro other hother
      rw [List.append_assoc] at hother
      rcases List.mem_append.mp hother with hother | hother
      · obtain ⟨name, -, rfl, htree⟩ := (hpushed other).mp hother
        right
        rw [List.dropLast_concat]
        exact ⟨htree, List.mem_cons_self⟩
      · have hmem : other ∈ directory :: stack ++ processed := by
          simp only [List.mem_append, List.mem_cons] at hother ⊢
          tauto
        rcases hinv.parent other hmem with hnil | ⟨htree, hprocessed⟩
        · exact Or.inl hnil
        · exact Or.inr ⟨htree, List.mem_cons_of_mem _ hprocessed⟩
    · intro other htree hparent
      rcases List.mem_cons.mp hparent with hparent | hparent
      · have hne := hpaths _ htree
        obtain ⟨front, name, hconcat⟩ := List.eq_nil_or_concat other |>.resolve_left hne
        rw [List.concat_eq_append] at hconcat
        rw [hconcat, List.dropLast_concat] at hparent
        rw [hparent] at hconcat
        have hpath : other ∈ pushed := by
          rw [hpushed]
          refine ⟨name, (hnames name).mpr (mem_childNames.mpr ⟨.directory, ?_⟩), hconcat, htree⟩
          rw [← hconcat]
          exact htree
        exact List.mem_append_left _ (List.mem_append_left _ hpath)
      · have hmem := hinv.children other htree hparent
        simp only [List.mem_append, List.mem_cons] at hmem ⊢
        tauto
    · rw [htraversal]
      exact hinv.maximum
    · rw [htraversal, hlength, ← hinv.visited]
    · refine hchildren.seen.congr ?_ rfl rfl rfl rfl
      intro path
      rw [List.mem_append, List.mem_map, mem_below, mem_below]
      constructor
      · intro h
        rcases h with ⟨name, hname, rfl⟩ | ⟨hparent, hnode⟩
        · rw [List.dropLast_concat]
          exact ⟨List.mem_cons_self, mem_childNames.mp ((hnames name).mp hname)⟩
        · exact ⟨List.mem_cons_of_mem _ hparent, hnode⟩
      · intro hparts
        obtain ⟨hparent, node, hnode⟩ := hparts
        rcases List.mem_cons.mp hparent with hparent | hparent
        · left
          obtain ⟨front, name, hconcat⟩ :=
            List.eq_nil_or_concat path |>.resolve_left (hpaths _ hnode)
          rw [List.concat_eq_append] at hconcat
          rw [hconcat, List.dropLast_concat] at hparent
          rw [hparent] at hconcat
          refine ⟨name, (hnames name).mpr (mem_childNames.mpr ⟨node, ?_⟩), hconcat.symm⟩
          rw [← hconcat]
          exact hnode
        · exact Or.inr ⟨hparent, node, hnode⟩
  · have hpushedLength : pushed.length ≤ names.length := hchildren.length
    rw [htraversal]
    dsimp only [budget]
    omega

/-! ## The whole walk -/

/-- At first the root is to be visited. -/
theorem WalkInv.init :
    WalkInv tools items tree [] [[]] ⟨[], [], [], 0, ⟨maxSourceTraversalEntries, 0⟩⟩ where
  nodup := List.nodup_singleton _
  root := List.mem_singleton_self _
  parent := by simp
  children := by simp
  maximum := rfl
  visited := by simp [below]
  seen := by
    refine ⟨⟨[], List.Perm.refl _, List.nodup_nil, ?_, rfl⟩, List.Pairwise.nil, by simp, ?_⟩
    · intro entry
      simp [below]
    · intro key path h
      cases h

/-- At the end the parent of every node was processed. -/
theorem parent_processed (hok : BundleOk tools limits items tree) {processed : List FsPath}
    (hroot : [] ∈ processed)
    (hchildren : ∀ directory, (directory, .directory) ∈ tree → directory.dropLast ∈ processed →
      directory ∈ processed) :
    ∀ path node, (path, node) ∈ tree → path.dropLast ∈ processed := by
  intro path
  induction path using List.reverseRecOn with
  | nil =>
    intro node h
    exact absurd rfl (hok.isPrefix_of_mem h).1
  | append_singleton front name ih =>
    intro node h
    rw [List.dropLast_concat]
    rcases hok.parent h with rfl | hdirectory
    · exact hroot
    · exact hchildren front hdirectory (ih .directory hdirectory)

/-- The scan of a bundle without sensitive directories finds its entries. -/
theorem scanCapabilityPaths_eq_ok (hok : BundleOk tools limits items tree)
    (hclear : DirectoriesClear tools tree) :
    ∃ scan, scanCapabilityPaths tools limits tree = .ok scan ∧ scan.entries = entriesOf items ∧
      ∀ key ∈ scan.directories, ∃ path, (path, .directory) ∈ tree ∧
        key = displayRelativePath path := by
  obtain ⟨state, hdrain, processed, hinv⟩ := @Worklist.drain_progress _ _ _
    SourceError.manifestMismatch (scanCapabilityStep tools limits tree)
    (fun stack state => ∃ processed, WalkInv tools items tree processed stack state)
    (fun state => state.traversal.maximum - state.traversal.visited)
    (fun directory stack state ⟨processed, hinv⟩ => by
      obtain ⟨state', pushed, hstep, hnext, hcredit⟩ := hinv.step hok hclear
      exact ⟨state', pushed, hstep, ⟨_, hnext⟩, hcredit⟩)
    (1 + maxSourceTraversalEntries) [[]] _ ⟨[], .init⟩ (Nat.le_refl _)
  have hall := parent_processed hok hinv.root hinv.children
  refine ⟨⟨state.entries.map (·.2), state.directories.map (·.1), []⟩, ?_, ?_, ?_⟩
  · rw [scanCapabilityPaths, bind_eq_ok]
    refine ⟨⟨maxSourceTraversalEntries, 0⟩, by decide, ?_⟩
    rw [bind_eq_ok]
    exact ⟨state, hdrain, rfl⟩
  · obtain ⟨handled, hperm, hnodup, hmem, -⟩ := hinv.seen.entries
    -- every file was seen
    have hhandled : handled.Perm (entriesOf items) := by
      refine (List.perm_ext_iff_of_nodup hnodup ?_).mpr ?_
      · refine List.Pairwise.imp ?_ hok.entries.sorted
        intro a b hlt heq
        rw [heq] at hlt
        exact lt_irrefl _ hlt
      · intro entry
        rw [hmem]
        refine ⟨fun h => h.1, fun h => ⟨h, ?_⟩⟩
        obtain ⟨item, hitem, rfl⟩ := List.mem_map.mp h
        have hfile := (hok.materialized.mem _ _).mpr (Or.inl ⟨item, hitem, rfl, rfl⟩)
        exact mem_below.mpr ⟨hall _ _ hfile, _, hfile⟩
    have hsorted : BTreeMap.Sorted ((entriesOf items).map fun entry => (entry.path, entry)) :=
      List.pairwise_map.mpr hok.entries.sorted
    have heq := BTreeMap.eq_of_perm hinv.seen.sorted hsorted (hperm.trans (hhandled.map _))
    show state.entries.map (·.2) = entriesOf items
    rw [heq, List.map_map]
    exact List.map_id _
  · intro key hkey
    obtain ⟨⟨_, u⟩, hmem, rfl⟩ := List.mem_map.mp hkey
    exact hinv.seen.directories _ u hmem

/-! ## Sensitive directories -/

/-- A child that passes is not sensitive, and a directory goes on the stack. -/
theorem scanCapabilityChild_passed {state state' : VerifyState × List FsPath}
    (h : scanCapabilityChild tools limits tree directory state name = .ok state') :
    isSensitivePath tools.unicode (displayRelativePath (directory ++ [name])) = false ∧
      (∀ path ∈ state.2, path ∈ state'.2) ∧
      (tree.lookup (directory ++ [name]) = some .directory → directory ++ [name] ∈ state'.2) := by
  rw [scanCapabilityChild, check_bind_eq_ok, check_bind_eq_ok, check_bind_eq_ok] at h
  obtain ⟨-, hsensitive, -, h⟩ := h
  rw [rejectSensitive, rejectIf_eq_ok] at hsensitive
  refine ⟨hsensitive, ?_⟩
  cases hlookup : tree.lookup (directory ++ [name]) with
  | none =>
    rw [hlookup] at h
    cases h
  | some node =>
    rw [hlookup] at h
    obtain ⟨collisions, -, h⟩ := bind_eq_ok.mp h
    cases node with
    | directory =>
      cases h
      exact ⟨fun path hpath => List.mem_cons_of_mem _ hpath, fun _ => List.mem_cons_self⟩
    | file contents executable =>
      obtain ⟨next, -, h⟩ := bind_eq_ok.mp h
      cases h
      exact ⟨fun path hpath => hpath, by intro hdirectory; cases hdirectory⟩

theorem scanCapabilityStep_passed (hnodup : (tree.map (·.1)).Nodup) {state' : VerifyState}
    {pushed : List FsPath}
    (h : scanCapabilityStep tools limits tree state directory = .ok (state', pushed)) :
    ∀ name node, (directory ++ [name], node) ∈ tree →
      isSensitivePath tools.unicode (displayRelativePath (directory ++ [name])) = false ∧
        (node = .directory → directory ++ [name] ∈ pushed) := by
  rw [scanCapabilityStep, bind_eq_ok] at h
  obtain ⟨budget, -, hfold⟩ := h
  have hpassed := @foldlM_through _ _ _ _ _ _ _
    (fun (done : List (List Char)) (state : VerifyState × List FsPath) => ∀ name ∈ done,
      isSensitivePath tools.unicode (displayRelativePath (directory ++ [name])) = false ∧
        (tree.lookup (directory ++ [name]) = some .directory → directory ++ [name] ∈ state.2))
    (by
      intro done name state state' hdone hchild other hother
      obtain ⟨hsensitive, hkept, hpushed⟩ := scanCapabilityChild_passed hchild
      rcases List.mem_append.mp hother with hother | hother
      · obtain ⟨hclear, hdirectory⟩ := hdone other hother
        exact ⟨hclear, fun hlookup => hkept _ (hdirectory hlookup)⟩
      · rw [List.mem_singleton.mp hother]
        exact ⟨hsensitive, hpushed⟩)
    (by simp) hfold
  intro name node hnode
  have hname : name ∈ ((childNames tree directory).insertionSort (· ≤ ·)).reverse := by
    rw [List.mem_reverse, List.mem_insertionSort]
    exact mem_childNames.mpr ⟨node, hnode⟩
  obtain ⟨hclear, hdirectory⟩ := hpassed name hname
  refine ⟨hclear, ?_⟩
  intro hnodeEq
  rw [hnodeEq] at hnode
  exact hdirectory ((List.lookup_eq_some_iff_mem hnodup).mpr hnode)

/-- A bundle that passes the scan has no sensitive directory. -/
theorem directoriesClear_of_scan (hok : BundleOk tools limits items tree) {scan : ScanResult}
    (h : scanCapabilityPaths tools limits tree = .ok scan) : DirectoriesClear tools tree := by
  rw [scanCapabilityPaths, bind_eq_ok] at h
  obtain ⟨budget, -, h⟩ := h
  obtain ⟨state, hdrain, -⟩ := bind_eq_ok.mp h
  -- what is processed has passed, and its directories are queued
  obtain ⟨processed, hroot, hpassed⟩ := @Worklist.drain_invariant _ _ _ _ _
    (fun (stack : List FsPath) (_ : VerifyState) => ∃ processed : List FsPath,
      [] ∈ stack ++ processed ∧ ∀ directory ∈ processed, ∀ name node,
        (directory ++ [name], node) ∈ tree →
        isSensitivePath tools.unicode (displayRelativePath (directory ++ [name])) = false ∧
          (node = .directory → directory ++ [name] ∈ stack ++ processed))
    (by
      intro directory stack state state' pushed ⟨processed, hroot, hpassed⟩ hstep
      have hchildren := scanCapabilityStep_passed hok.materialized.nodup hstep
      have hkept : ∀ path ∈ directory :: stack ++ processed,
          path ∈ pushed ++ stack ++ directory :: processed := by
        intro path hpath
        simp only [List.mem_append, List.mem_cons] at hpath ⊢
        tauto
      refine ⟨directory :: processed, hkept [] hroot, ?_⟩
      intro other hother name node hnode
      rcases List.mem_cons.mp hother with rfl | hother
      · obtain ⟨hclear, hpushed⟩ := hchildren name node hnode
        refine ⟨hclear, fun hdirectory => ?_⟩
        exact List.mem_append_left _ (List.mem_append_left _ (hpushed hdirectory))
      · obtain ⟨hclear, hstack⟩ := hpassed other hother name node hnode
        exact ⟨hclear, fun hdirectory => hkept _ (hstack hdirectory)⟩)
    _ _ _ _ ⟨[], List.mem_singleton_self _, by simp⟩ hdrain
  -- the stack is empty at the end, so every directory was processed
  have hall := parent_processed hok hroot (by
    intro directory hdirectory hparent
    obtain ⟨front, name, hconcat⟩ :=
      List.eq_nil_or_concat directory |>.resolve_left (hok.isPrefix_of_mem hdirectory).1
    rw [List.concat_eq_append] at hconcat
    rw [hconcat, List.dropLast_concat] at hparent
    rw [hconcat] at hdirectory ⊢
    exact (hpassed front hparent name .directory hdirectory).2 rfl)
  intro path hdirectory
  have hparent := hall path .directory hdirectory
  obtain ⟨front, name, hconcat⟩ :=
    List.eq_nil_or_concat path |>.resolve_left (hok.isPrefix_of_mem hdirectory).1
  rw [List.concat_eq_append] at hconcat
  rw [hconcat, List.dropLast_concat] at hparent
  rw [hconcat] at hdirectory ⊢
  exact (hpassed front hparent name .directory hdirectory).1

/-! ## Comparison with the manifest -/

theorem toNat_sum (sizes : List UInt64) :
    sizes.sum.toNat = (sizes.map UInt64.toNat).sum % 2 ^ 64 := by
  induction sizes with
  | nil => rfl
  | cons size sizes ih =>
    rw [List.sum_cons, UInt64.toNat_add, ih, List.map_cons, List.sum_cons, Nat.add_mod_mod]

/-- A manifest that is valid is built from its entries. -/
theorem buildManifest_of_valid (h : validateSourceManifest tools manifest limits = .ok ()) :
    buildManifest tools manifest.projectPath manifest.entries = manifest := by
  obtain ⟨hschema, -, -, htotal, hdigest⟩ := validateSourceManifest_eq_ok h
  have hsum : (manifest.entries.map SourceManifestEntry.size).sum = manifest.totalSize := by
    apply UInt64.toNat_inj.mp
    have hword := manifest.totalSize.toNat_lt
    rw [toNat_sum, List.map_map]
    show (manifest.entries.map fun entry => entry.size.toNat).sum % _ = _
    rw [htotal]
    exact Nat.mod_eq_of_lt hword
  unfold buildManifest
  rw [hsum]
  dsimp only
  rw [hdigest, ← hschema]

theorem not_hasUnexpectedDirectory (hok : BundleOk tools limits items tree)
    (hitems : entriesOf items = manifest.entries) {directories : List String}
    (h : ∀ key ∈ directories, ∃ path, (path, .directory) ∈ tree ∧ key = displayRelativePath path) :
    hasUnexpectedDirectory directories manifest = false := by
  unfold hasUnexpectedDirectory
  rw [List.any_eq_false]
  intro key hkey
  obtain ⟨path, hdirectory, rfl⟩ := h key hkey
  rcases (hok.materialized.mem _ _).mp hdirectory with
    ⟨_, _, _, hnode⟩ | ⟨-, hne, item, hitem, ⟨rest, hrest⟩, hproper⟩
  · cases hnode
  · have hrest' : rest ≠ [] := by
      intro hnil
      rw [hnil, List.append_nil] at hrest
      exact hproper hrest
    have hpath : item.1.path = displayRelativePath path ++ "/" ++ displayRelativePath rest := by
      rw [← display_append hne hrest', hrest, display_components]
    have hfound : (manifest.entries.any fun entry =>
        (Text.stripFront (displayRelativePath path).toList entry.path.toList).any
          fun rest => rest.head? == some '/') = true := by
      rw [List.any_eq_true]
      refine ⟨item.1, hitems ▸ mem_entriesOf hitem, ?_⟩
      rw [Option.any_eq_true]
      refine ⟨'/' :: (displayRelativePath rest).toList, Text.stripFront_eq_some.mpr ?_, rfl⟩
      rw [hpath, String.toList_append, String.toList_append, List.append_assoc]
      rfl
    rw [hfound]
    decide

/-- **Verification**: what was extracted from a valid manifest is accepted exactly when no
    directory is sensitive. -/
theorem verifyMaterialized_iff (hok : BundleOk tools limits items tree)
    (hitems : entriesOf items = manifest.entries)
    (hvalid : validateSourceManifest tools manifest limits = .ok ()) :
    verifyMaterializedCapability tools tree manifest limits = .ok () ↔
      DirectoriesClear tools tree := by
  constructor
  · intro h
    rw [verifyMaterializedCapability, bind_eq_ok] at h
    obtain ⟨scan, hscan, -⟩ := h
    exact directoriesClear_of_scan hok hscan
  · intro hclear
    obtain ⟨scan, hscan, hentries, hdirectories⟩ := scanCapabilityPaths_eq_ok hok hclear
    rw [verifyMaterializedCapability, bind_eq_ok]
    refine ⟨scan, hscan, ?_⟩
    rw [rejectIf_eq_ok, hentries, hitems, buildManifest_of_valid hvalid,
      not_hasUnexpectedDirectory hok hitems hdirectories]
    simp

end

end RustFerry.Source
