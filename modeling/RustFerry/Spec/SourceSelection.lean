import RustFerry.Spec.SensitivePaths

/-!
# The selected files

What the scan of the planner selects, said on the components of paths: the files that lie at or
below an include root and that no rule prunes, neither themselves nor at a directory on the way
from the root. Reducing the exclusions and the include roots changes nothing.
-/

namespace RustFerry.Source

open Except Snapshot

section

variable {budget budget' : TraversalBudget}

/-! ## Rules -/

/-- What a rule ignores, by components. -/
def IgnoreRule.components (rule : IgnoreRule) : FsPath :=
  (if rule.base = "." then [] else Source.components rule.base) ++ Source.components rule.path

/-- A rule prunes the path itself; the root of the workspace is never pruned. -/
def Pruned (env : ScanEnv) (path : FsPath) : Prop :=
  path ≠ [] ∧ (sensitiveParts env.tools.unicode path = true ∨
    (∃ excluded ∈ env.exclusions, components excluded <+: path) ∨
    ∃ rule ∈ env.ignoreRules, rule.components <+: path)

theorem components_injective {a b : String} (h : components a = components b) : a = b := by
  rw [← display_components a, h, display_components]

theorem toList_below (front : String) (rest : List Char) :
    (front ++ "/" ++ String.ofList rest).toList = front.toList ++ '/' :: rest := by
  simp [String.toList_append]

/-- A path is within another when its components start with those of the other. -/
theorem pathIsWithin_iff_isPrefix {path root : String} :
    pathIsWithin path root = true ↔ components root <+: components path := by
  rw [pathIsWithin_iff]
  constructor
  · intro h
    obtain rfl | ⟨rest, hrest⟩ := h
    · exact List.prefix_refl _
    · have hpath : path = root ++ "/" ++ String.ofList rest := by
        apply String.toList_injective
        rw [hrest, toList_below]
      rw [hpath, components_below]
      exact List.prefix_append _ _
  · intro h
    obtain ⟨rest, hrest⟩ := h
    by_cases hnil : rest = []
    · rw [hnil, List.append_nil] at hrest
      exact Or.inl (components_injective hrest).symm
    · have hpath : path = root ++ "/" ++ displayRelativePath rest := by
        rw [← display_components path, ← hrest, display_append (components_ne_nil root) hnil,
          display_components]
      refine Or.inr ⟨(displayRelativePath rest).toList, ?_⟩
      rw [← toList_below, String.ofList_toList, hpath]

theorem isWorkspaceExcluded_iff {path : String} {exclusions : List String} :
    isWorkspaceExcluded path exclusions = true ↔
      ∃ excluded ∈ exclusions, components excluded <+: components path := by
  simp only [isWorkspaceExcluded, List.any_eq_true, pathIsWithin_iff_isPrefix]

/-- What follows the base of a rule in a path. -/
theorem stripBase_eq_some {base path : String} {relative : List Char} :
    (Text.stripFront base.toList path.toList).bind (Text.stripFront ['/']) = some relative ↔
      path = base ++ "/" ++ String.ofList relative := by
  rw [Option.bind_eq_some_iff]
  simp only [Text.stripFront_eq_some]
  constructor
  · intro h
    obtain ⟨rest, hpath, rfl⟩ := h
    apply String.toList_injective
    rw [hpath, toList_below]
    rfl
  · intro h
    exact ⟨'/' :: relative, by rw [h, toList_below], rfl⟩

theorem isIgnored_iff {path : String} {rules : List IgnoreRule} :
    isIgnored path rules = true ↔ ∃ rule ∈ rules, rule.components <+: components path := by
  simp only [isIgnored, List.any_eq_true]
  apply exists_congr
  intro rule
  apply and_congr_right
  intro _
  -- the rule's own path is matched against what follows its base
  have hmatch : ∀ relative : List Char, (relative == rule.path.toList ||
      (Text.stripFront rule.path.toList relative).any fun rest => rest.head? == some '/') = true ↔
      components rule.path <+: components (String.ofList relative) := by
    intro relative
    rw [← pathIsWithin_iff_isPrefix, pathIsWithin, String.toList_ofList, Bool.or_eq_true,
      Bool.or_eq_true, beq_iff_eq, beq_iff_eq]
    apply or_congr_left
    constructor
    · intro h
      rw [h, String.ofList_toList]
    · intro h
      rw [← h, String.toList_ofList]
  by_cases hbase : rule.base = "."
  · rw [IgnoreRule.components, if_pos hbase, List.nil_append, if_pos (by simpa using hbase),
      Option.any_some, hmatch, String.ofList_toList]
  · rw [IgnoreRule.components, if_neg hbase, if_neg (by simpa using hbase), Option.any_eq_true]
    simp only [hmatch, stripBase_eq_some]
    constructor
    · intro h
      obtain ⟨relative, hpath, hprefix⟩ := h
      rw [hpath, components_below]
      exact (List.prefix_append_right_inj _).mpr hprefix
    · intro h
      have hfront := (List.prefix_append _ _).trans h
      obtain ⟨rest, hrest⟩ := hfront
      rw [← hrest, List.prefix_append_right_inj] at h
      have hne : rest ≠ [] := by
        intro hnil
        rw [hnil, List.prefix_nil] at h
        exact components_ne_nil _ h
      have hpath : path = rule.base ++ "/" ++ displayRelativePath rest := by
        rw [← display_components path, ← hrest, display_append (components_ne_nil _) hne,
          display_components]
      refine ⟨(displayRelativePath rest).toList, ?_, ?_⟩
      · rw [hpath, String.ofList_toList]
      · have hcomponents := congrArg components hpath
        rw [components_below, ← hrest] at hcomponents
        rw [String.ofList_toList, ← List.append_cancel_left hcomponents]
        exact h

/-- What is not pruned is admitted. -/
theorem admitted_iff {env : ScanEnv} {path : FsPath} (hvalid : ValidPath path) :
    Admitted env path ↔ ¬ Pruned env path := by
  by_cases hnil : path = []
  · simp [Admitted, Pruned, hnil]
  · have hcomponents := components_display hvalid hnil
    have hexcluded := @isWorkspaceExcluded_iff (displayRelativePath path) env.exclusions
    have hignored := @isIgnored_iff (displayRelativePath path) env.ignoreRules
    rw [hcomponents] at hexcluded hignored
    simp only [Admitted, Pruned, hnil, isSensitivePath_display hvalid hnil, ← hexcluded, ← hignored,
      false_or, ne_eq, not_false_eq_true, true_and, not_or, Bool.not_eq_true]

/-! ## Selection -/

/-- The path lies at the root or below it, in the directories on the way. -/
def LiesBelow (env : ScanEnv) (root path : FsPath) : Prop :=
  root <+: path ∧ ∀ front name, root <+: front → front ++ [name] <+: path → Lists env front name

/-- A regular file at or below one of the roots that no rule prunes, neither itself nor at a
    directory on the way from that root. -/
structure Selected (env : ScanEnv) (roots : List FsPath) (path : FsPath) (file : RegularFile) :
    Prop where
  below : ∃ root ∈ roots, LiesBelow env root path ∧
    ∀ front, root <+: front → front <+: path → ¬ Pruned env front
  regular : env.host.lookup (env.root ++ path) = .file file

/-- The entries are those of the selected files, each once. -/
structure SelectsExactly (env : ScanEnv) (roots : List FsPath)
    (entries : List SourceManifestEntry) : Prop where
  distinct : (entries.map (·.path)).Nodup
  sound : ∀ entry ∈ entries, ∃ path file, Selected env roots path file ∧
    EntryOf env path file entry
  complete : ∀ path file, Selected env roots path file →
    ∃ entry ∈ entries, EntryOf env path file entry

section

variable {env : ScanEnv} {root path : FsPath}

theorem Reaches.liesBelow (h : Reaches env root path) : LiesBelow env root path := by
  refine ⟨h.isPrefix, ?_⟩
  induction h with
  | root _ =>
    intro front name hroot hfront
    -- nothing is strictly between the root and itself
    have hlength := hroot.length_le.trans_lt (Nat.lt_succ_self _)
    have hle := hfront.length_le
    rw [List.length_append, List.length_singleton] at hle
    omega
  | @child path last hreach hlists _ ih =>
    intro front name hroot hfront
    obtain heq | hfront := List.prefix_concat_iff.mp hfront
    · obtain ⟨rfl, hname⟩ := List.append_inj' heq rfl
      obtain rfl := List.singleton_inj.mp hname
      exact hlists
    · exact ih front name hroot hfront

theorem reaches_of_liesBelow (hroot : ValidPath root) (hbelow : LiesBelow env root path)
    (hpruned : ∀ front, root <+: front → front <+: path → ¬ Pruned env front) :
    Reaches env root path := by
  obtain ⟨⟨rest, rfl⟩, hlists⟩ := hbelow
  -- the names below the root, from the last one
  induction rest using List.reverseRecOn with
  | nil =>
    rw [List.append_nil]
    exact .root ((admitted_iff hroot).mpr (hpruned root (List.prefix_refl _)
      (List.prefix_append _ _)))
  | append_singleton rest name ih =>
    rw [← List.append_assoc] at hpruned hlists ⊢
    have hfront : Reaches env root (root ++ rest) := by
      apply ih
      · intro front hroot hfront
        exact hpruned front hroot (hfront.trans (List.prefix_append _ _))
      · intro front name' hroot hfront
        exact hlists front name' hroot (hfront.trans (List.prefix_append _ _))
    have hlast := hlists (root ++ rest) name (List.prefix_append _ _) (List.prefix_refl _)
    have hvalid : ValidPath (root ++ rest ++ [name]) := by
      obtain ⟨entries, hlookup, hname⟩ := hlast
      exact (hfront.validPath hroot).append_singleton (env.host.names_valid _ _ _ hlookup hname)
    exact .child hfront hlast ((admitted_iff hvalid).mpr
      (hpruned _ ((List.prefix_append root rest).trans (List.prefix_append _ _))
        (List.prefix_refl _)))

variable {roots : List FsPath} {file : RegularFile}

/-- Selected files are those that the scan reaches. -/
theorem selected_iff_reaches (hroots : ∀ root ∈ roots, ValidPath root) :
    Selected env roots path file ↔ (∃ root ∈ roots, Reaches env root path) ∧
      env.host.lookup (env.root ++ path) = .file file := by
  constructor
  · intro h
    obtain ⟨root, hroot, hbelow, hpruned⟩ := h.below
    exact ⟨⟨root, hroot, reaches_of_liesBelow (hroots root hroot) hbelow hpruned⟩, h.regular⟩
  · intro h
    obtain ⟨⟨root, hroot, hreach⟩, hfile⟩ := h
    refine ⟨⟨root, hroot, hreach.liesBelow, ?_⟩, hfile⟩
    intro front hfront hpath
    have hvalid := (hreach.validPath (hroots root hroot)).of_isPrefix hpath
    exact (admitted_iff hvalid).mp (hreach.admitted_between hfront hpath)

/-- The entries of a scan are ordered by their keys. -/
theorem Turn.sorted {state state' : ScanState} {pushed : List FsPath}
    (h : Turn env path state state' pushed) (hsorted : BTreeMap.Sorted state.entries) :
    BTreeMap.Sorted state'.entries := by
  cases h with
  | rejected _ hentries _ => rw [hentries]; exact hsorted
  | seen _ _ _ hentries _ => rw [hentries]; exact hsorted
  | directory _ _ _ hentries _ => rw [hentries]; exact hsorted
  | file _ _ hentries _ =>
    obtain ⟨hentries, -⟩ | ⟨entry, -, hentries⟩ := hentries
    · rw [hentries]
      exact hsorted
    · rw [hentries]
      exact BTreeMap.sorted_insert hsorted

theorem scanPaths_distinct {result : ScanResult} (hroots : ∀ root ∈ roots, ValidPath root)
    (h : scanPaths env roots budget = .ok (result, budget')) :
    (result.entries.map (·.path)).Nodup := by
  rw [scanPaths, bind_eq_ok] at h
  obtain ⟨state, hdrain, h⟩ := h
  obtain ⟨rfl, -⟩ := Prod.mk.inj (Except.ok.inj h)
  have hstep : ∀ path stack state state' pushed,
      (ScanInv env roots (path :: stack) state ∧ BTreeMap.Sorted state.entries) →
      scanStep env state path = .ok (state', pushed) →
      ScanInv env roots (pushed ++ stack) state' ∧ BTreeMap.Sorted state'.entries := by
    intro path stack state state' pushed hinv hturn
    have hcases := scanStep_cases (hinv.1.validPath hroots) hturn
    exact ⟨hinv.1.step hroots hcases, hcases.sorted hinv.2⟩
  obtain ⟨hinv, hsorted⟩ := @Worklist.drain_invariant _ _ _ _ _
    (fun stack state => ScanInv env roots stack state ∧ BTreeMap.Sorted state.entries) hstep _ _ _ _
    ⟨.init roots budget, List.Pairwise.nil⟩ hdrain
  -- the key of an entry is its path
  have hkeys : (state.entries.map (·.2)).map (·.path) = state.entries.map (·.1) := by
    rw [List.map_map]
    apply List.map_congr_left
    intro pair hpair
    obtain ⟨_, _, path, file, _, _, hof, hkey⟩ := hinv.sound pair.1 pair.2 hpair
    exact hof.path_eq.trans hkey.symm
  show ((state.entries.map (·.2)).map (·.path)).Nodup
  rw [hkeys]
  exact List.pairwise_map.mpr (hsorted.imp fun hlt => ne_of_lt hlt)

theorem scanPaths_selectsExactly {result : ScanResult} (hroots : ∀ root ∈ roots, ValidPath root)
    (h : scanPaths env roots budget = .ok (result, budget')) :
    SelectsExactly env roots result.entries := by
  obtain ⟨hsound, hcomplete⟩ := scanPaths_entries hroots h
  have hselected : ∀ entry ∈ result.entries, ∃ path file, Selected env roots path file ∧
      EntryOf env path file entry := by
    intro entry hentry
    obtain ⟨root, hroot, path, file, hreach, hfile, hof⟩ := hsound entry hentry
    exact ⟨path, file, (selected_iff_reaches hroots).mpr ⟨⟨root, hroot, hreach⟩, hfile⟩, hof⟩
  refine ⟨scanPaths_distinct hroots h, hselected, ?_⟩
  intro path file hpath
  obtain ⟨⟨root, hroot, hreach⟩, hfile⟩ := (selected_iff_reaches hroots).mp hpath
  obtain ⟨entry, hentry, hdisplay⟩ := hcomplete root hroot path file hreach hfile
  obtain ⟨path', file', hselected', hof⟩ := hselected entry hentry
  obtain ⟨⟨root', hroot', hreach'⟩, hfile'⟩ := (selected_iff_reaches hroots).mp hselected'
  -- entries with the same path are of the same file
  have hsame : path = path' := by
    apply display_injective (hreach.validPath (hroots root hroot))
      (hreach'.validPath (hroots root' hroot'))
    rw [← hdisplay, hof.path_eq]
  rw [← hsame] at hfile' hof
  rw [hfile] at hfile'
  rw [← Node.file.inj hfile'] at hof
  exact ⟨entry, hentry, hof⟩

end

/-! ## Reduced lists -/

/-- The scan with these exclusions. -/
def ScanEnv.excluding (env : ScanEnv) (exclusions : List String) : ScanEnv := { env with exclusions }

/-- The include roots as they are given: the project, the build inputs that the workspace has, and
    all inputs of the request. -/
def givenRoots (env : PlanEnv) (request : SourceBundleRequest) (roots : ResolvedRoots) :
    List FsPath :=
  roots.projectRelative :: ((workspaceBuildInputs.map components).filter fun path =>
    env.host.tryExists (roots.workspace ++ path) = some true) ++
    request.workspaceInputs.map components

section

variable {env : ScanEnv} {request : SourceBundleRequest}

/-- Lists that exclude the same paths exclude the same components. -/
theorem excluded_congr {a b : List String}
    (h : ∀ path, isWorkspaceExcluded path a = isWorkspaceExcluded path b) {path : FsPath}
    (hexcluded : ∃ excluded ∈ a, components excluded <+: path) :
    ∃ excluded ∈ b, components excluded <+: path := by
  obtain ⟨excluded, hmem, hprefix⟩ := hexcluded
  have hself := isWorkspaceExcluded_iff.mpr ⟨excluded, hmem, List.prefix_refl _⟩
  rw [h] at hself
  obtain ⟨other, hother, hbelow⟩ := isWorkspaceExcluded_iff.mp hself
  exact ⟨other, hother, hbelow.trans hprefix⟩

theorem Selected.excluding_congr {a b : List String} {roots : List FsPath} {path : FsPath}
    {file : RegularFile} (hpaths : ∀ path, isWorkspaceExcluded path a = isWorkspaceExcluded path b)
    (h : Selected (env.excluding a) roots path file) :
    Selected (env.excluding b) roots path file := by
  obtain ⟨⟨root, hroot, hbelow, hpruned⟩, hfile⟩ := h
  refine ⟨⟨root, hroot, hbelow, ?_⟩, hfile⟩
  intro front hrootFront hfrontPath hprunedFront
  apply hpruned front hrootFront hfrontPath
  obtain ⟨hne, hsensitive | hexcluded | hignored⟩ := hprunedFront
  · exact ⟨hne, Or.inl hsensitive⟩
  · exact ⟨hne, Or.inr (Or.inl (excluded_congr (fun path => (hpaths path).symm) hexcluded))⟩
  · exact ⟨hne, Or.inr (Or.inr hignored)⟩

/-- More roots select more. -/
theorem Selected.mono {roots roots' : List FsPath} {path : FsPath} {file : RegularFile}
    (h : Selected env roots path file)
    (hroots : ∀ root ∈ roots, ¬ Pruned env root → root ∈ roots') :
    Selected env roots' path file := by
  obtain ⟨⟨root, hroot, hbelow, hpruned⟩, hfile⟩ := h
  exact ⟨⟨root, hroots root hroot (hpruned root (List.prefix_refl _) hbelow.1), hbelow, hpruned⟩,
    hfile⟩

/-- The include roots that are collected are those given, but for inputs that are excluded. -/
theorem mem_collectIncludeRoots {roots : ResolvedRoots} {exclusions : List String}
    {reduced : List FsPath}
    (h : collectIncludeRoots env.toPlanEnv request roots exclusions budget = .ok (reduced, budget'))
    (root : FsPath) :
    root ∈ reduced ↔ root ∈ roots.projectRelative ::
        ((workspaceBuildInputs.map components).filter fun path =>
          env.host.tryExists (roots.workspace ++ path) = some true) ∨
      ∃ input ∈ request.workspaceInputs, root = components input ∧
        isWorkspaceExcluded input exclusions = false := by
  rw [mem_collected h]
  apply or_congr_left
  simp only [List.mem_cons, List.mem_filter, List.mem_map, decide_eq_true_eq, List.not_mem_nil,
    or_false]
  apply or_congr_right
  constructor
  · intro hpath
    obtain ⟨path, hmem, hroot, hexists⟩ := hpath
    exact ⟨⟨path, hmem, hroot.symm⟩, hexists⟩
  · intro hpath
    obtain ⟨⟨path, hmem, hroot⟩, hexists⟩ := hpath
    exact ⟨path, hmem, hroot.symm, hexists⟩

theorem selected_collectIncludeRoots {roots : ResolvedRoots} {exclusions : List String}
    {reduced : List FsPath}
    (h : collectIncludeRoots env.toPlanEnv request roots exclusions budget = .ok (reduced, budget'))
    (path : FsPath) (file : RegularFile) :
    Selected (env.excluding exclusions) reduced path file ↔
      Selected (env.excluding exclusions) (givenRoots env.toPlanEnv request roots) path file := by
  constructor
  · intro hselected
    apply hselected.mono
    intro root hroot _
    obtain hroot | ⟨input, hinput, rfl, -⟩ := (mem_collectIncludeRoots h root).mp hroot
    · exact List.mem_append_left _ hroot
    · exact List.mem_append_right _ (List.mem_map.mpr ⟨input, hinput, rfl⟩)
  · intro hselected
    apply hselected.mono
    intro root hroot hpruned
    apply (mem_collectIncludeRoots h root).mpr
    obtain hroot | hroot := List.mem_append.mp hroot
    · exact Or.inl hroot
    · obtain ⟨input, hinput, rfl⟩ := List.mem_map.mp hroot
      refine Or.inr ⟨input, hinput, rfl, ?_⟩
      -- an excluded input is pruned as a root
      by_contra hexcluded
      rw [Bool.not_eq_false] at hexcluded
      exact hpruned ⟨components_ne_nil input,
        Or.inr (Or.inl (isWorkspaceExcluded_iff.mp hexcluded))⟩

end

/-- **The selection of a scan**: from any include roots a scan that succeeds selects exactly the
regular files at or below them that no rule prunes, each once; the reduced exclusions and the
collected include roots select the same files as those given. -/
theorem scan_selects (env : ScanEnv) (request : SourceBundleRequest) :
    (∀ roots budget budget' result, (∀ root ∈ roots, ValidPath root) →
      scanPaths env roots budget = .ok (result, budget') →
      SelectsExactly env roots result.entries) ∧
    (∀ budget budget' exclusions,
      validateWorkspaceExclusions env.toPlanEnv request budget = .ok (exclusions, budget') →
      ∀ roots path file, Selected (env.excluding exclusions) roots path file ↔
        Selected (env.excluding request.workspaceExclusions) roots path file) ∧
    ∀ roots exclusions budget budget' reduced,
      collectIncludeRoots env.toPlanEnv request roots exclusions budget = .ok (reduced, budget') →
      ∀ path file, Selected (env.excluding exclusions) reduced path file ↔
        Selected (env.excluding exclusions) (givenRoots env.toPlanEnv request roots) path file := by
  refine ⟨?_, ?_, ?_⟩
  · intro roots budget budget' result hroots hscan
    exact scanPaths_selectsExactly hroots hscan
  · intro budget budget' exclusions hexclusions roots path file
    have hpaths := validateWorkspaceExclusions_eq_ok hexclusions
    exact ⟨fun h => h.excluding_congr hpaths, fun h => h.excluding_congr fun path =>
      (hpaths path).symm⟩
  · intro roots exclusions budget budget' reduced hcollect path file
    exact selected_collectIncludeRoots hcollect path file

end

/-! ## Overlapping roots -/

namespace Sample

def scanEnv : ScanEnv :=
  { planEnv with root := ["w".toList], exclusions := [], ignoreRules := [], limits := .default }

/-- The whole workspace, and a file in it twice. -/
def overlappingRoots : List FsPath := [["lib.rs".toList], [], ["lib.rs".toList]]

theorem scan_overlappingRoots :
    (scanPaths scanEnv overlappingRoots ⟨maxSourceTraversalEntries, 0⟩).toBool = true := by
  decide +kernel

/-- Inputs that are given twice or excluded, and exclusions of which one contains another. -/
def overlappingRequest : SourceBundleRequest :=
  { plainRequest with
    workspaceInputs := ["lib.rs", "keys.pem/notes.txt", "lib.rs"]
    workspaceExclusions := ["keys.pem/notes.txt", "docs/old", "docs"] }

def roots : ResolvedRoots := ⟨["w".toList], ["w".toList], []⟩

def reducedExclusions : List String := ["docs", "keys.pem/notes.txt"]

theorem reduced_overlappingRequest :
    ((validateWorkspaceExclusions planEnv overlappingRequest
      ⟨maxSourceTraversalEntries, 0⟩).toOption.map (·.1) = some reducedExclusions ∧
    (collectIncludeRoots planEnv overlappingRequest roots reducedExclusions
      ⟨maxSourceTraversalEntries, 0⟩).toOption.map (·.1) = some [[], ["lib.rs".toList]]) := by
  decide +kernel

/-- A file that two include roots and the workspace lead to is selected once, and the two
    exclusions and the two roots that are left say the same as those given. -/
theorem scan_selects_overlapping :
    (∃ result budget,
      scanPaths scanEnv overlappingRoots ⟨maxSourceTraversalEntries, 0⟩ = .ok (result, budget) ∧
        SelectsExactly scanEnv overlappingRoots result.entries) ∧
    (∀ path file, Selected (scanEnv.excluding reducedExclusions) overlappingRoots path file ↔
      Selected (scanEnv.excluding overlappingRequest.workspaceExclusions) overlappingRoots path
        file) ∧
    ∀ path file, Selected (scanEnv.excluding reducedExclusions) [[], ["lib.rs".toList]] path file ↔
      Selected (scanEnv.excluding reducedExclusions) (givenRoots planEnv overlappingRequest roots)
        path file := by
  obtain ⟨hscans, hexcludes, hcollects⟩ := scan_selects scanEnv overlappingRequest
  obtain ⟨hreduced, hcollected⟩ := reduced_overlappingRequest
  refine ⟨?_, ?_, ?_⟩
  · obtain ⟨⟨result, budget⟩, hscan⟩ := exists_eq_ok_of_toBool scan_overlappingRoots
    have hroots : ∀ root ∈ overlappingRoots, ValidPath root := by
      unfold ValidPath
      decide +kernel
    exact ⟨result, budget, hscan, hscans _ _ _ _ hroots hscan⟩
  · obtain ⟨⟨exclusions, budget⟩, hvalidate, rfl⟩ := Option.map_eq_some_iff.mp hreduced
    exact hexcludes _ _ _ (eq_ok_of_toOption hvalidate) overlappingRoots
  · obtain ⟨⟨reduced, budget⟩, hcollect, rfl⟩ := Option.map_eq_some_iff.mp hcollected
    exact hcollects _ _ _ _ _ (eq_ok_of_toOption hcollect)

end Sample

end RustFerry.Source
