import RustFerry.ForStd.Words
import RustFerry.Spec.SourceScan

/-!
# Files below sensitive paths

A path is sensitive for one of two kinds of reasons: some component is the name of a sensitive
directory, or the last component is the name of a sensitive file. Only the first kind carries
over to what lies below, so an include root below a path of the second kind is not rejected,
and the planner selects the files it leads to.
-/

namespace RustFerry.Source

open Except Snapshot

section

variable {root workspace : FsPath} {budget budget' : TraversalBudget} {front path : String}
  {roots : ResolvedRoots} {exclusions : List String}

/-! ## The predicate -/

/-- `toLowercase` maps text in ASCII letter by letter. -/
def LowersAscii (unicode : Unicode) : Prop :=
  ∀ text : List Char, (∀ c ∈ text, c.toNat < 128) → unicode.toLowercase text = text.map Char.toLower

/-- The path lies strictly below the other one. -/
def IsBelow (path front : String) : Prop := ∃ rest, path = front ++ "/" ++ rest

/-- The components of a path below another. -/
theorem components_below (front rest : String) :
    components (front ++ "/" ++ rest) = components front ++ components rest := by
  unfold components Text.split
  rw [String.toList_append, String.toList_append, List.append_assoc]
  show (front.toList ++ '/' :: rest.toList).splitOnP (· == '/') = _
  exact List.splitOnP_append_cons _ _ rfl

/-- Below a sensitive directory everything is sensitive. -/
theorem isSensitivePath_below {unicode : Unicode} {rest : String}
    (h : ∃ component ∈ components front, isSensitiveDirectory unicode component = true) :
    isSensitivePath unicode (front ++ "/" ++ rest) = true := by
  obtain ⟨component, hmem, hsensitive⟩ := h
  rw [isSensitivePath_eq, components_below, sensitiveParts,
    List.dropLast_append_of_ne_nil (components_ne_nil rest), List.any_append,
    List.any_eq_true.mpr ⟨component, hmem, hsensitive⟩]
  rfl

/-- A harmless name does not make a path sensitive. -/
theorem isSensitivePath_below_harmless {unicode : Unicode} (hlower : LowersAscii unicode)
    (h : ¬ ∃ component ∈ components front, isSensitiveDirectory unicode component = true) :
    isSensitivePath unicode (front ++ "/" ++ "a") = false := by
  have hlast : components "a" = [['a']] := by decide
  have hfile : isSensitiveFileName unicode ['a'] = false := by
    rw [isSensitiveFileName, hlower ['a'] (by simp)]
    decide +kernel
  have hfront : (components front).any (isSensitiveDirectory unicode) = false := by
    rw [List.any_eq_false]
    intro component hmem hsensitive
    exact h ⟨component, hmem, hsensitive⟩
  rw [isSensitivePath_eq, components_below, hlast, sensitiveParts, List.dropLast_concat,
    List.getLast?_concat, hfront]
  simpa using hfile

/-! ## Include roots -/

/-- A path from which the scan starts: the project, a build input that the workspace has, or
    an input of the request that is not excluded. -/
def IncludeRoot (env : PlanEnv) (request : SourceBundleRequest) (workspace project root : FsPath) :
    Prop :=
  root = project.drop workspace.length ∨
    (∃ path ∈ workspaceBuildInputs, root = components path ∧
      env.host.tryExists (workspace ++ root) = some true) ∨
    ∃ input ∈ request.workspaceInputs, root = components input ∧
      isWorkspaceExcluded input request.workspaceExclusions = false

/-- What the scan of a request walks through. -/
def requestScope (env : PlanEnv) (request : SourceBundleRequest) (workspace : FsPath)
    (rules : List IgnoreRule) : ScanEnv :=
  { env with
    root := workspace
    exclusions := request.workspaceExclusions
    ignoreRules := rules
    limits := request.limits }

/-- Every include root that leads to a file lies below no sensitive path. -/
def RootsClear (env : PlanEnv) (request : SourceBundleRequest) : Prop :=
  ∀ workspace project rules, env.host.canonicalize request.workspaceRoot = some workspace →
    env.host.canonicalize request.projectRoot = some project →
    loadIgnoreRules env ⟨workspace, project, project.drop workspace.length⟩
      request.workspaceExclusions request.limits = .ok rules →
    ∀ root path file, IncludeRoot env request workspace project root →
      Reaches (requestScope env request workspace rules) root path →
      env.host.lookup (workspace ++ path) = .file file →
      ∀ front, IsBelow (displayRelativePath root) front →
        isSensitivePath env.tools.unicode front = false

variable {env : PlanEnv} {request : SourceBundleRequest}

/-! ## Exclusions -/

/-- A path is within its own prefix. -/
theorem pathIsWithin_iff {root : String} :
    pathIsWithin path root = true ↔
      path = root ∨ ∃ rest, path.toList = root.toList ++ '/' :: rest := by
  rw [pathIsWithin, Bool.or_eq_true, beq_iff_eq, Option.any_eq_true]
  apply or_congr_right
  constructor
  · intro hparts
    obtain ⟨rest, hrest, hslash⟩ := hparts
    rw [Text.stripFront_eq_some] at hrest
    cases rest with
    | nil => cases hslash
    | cons c rest =>
      obtain rfl : c = '/' := by simpa using hslash
      exact ⟨rest, hrest⟩
  · intro hparts
    obtain ⟨rest, hrest⟩ := hparts
    exact ⟨'/' :: rest, Text.stripFront_eq_some.mpr hrest, rfl⟩

theorem pathIsWithin_trans {a b c : String} (hab : pathIsWithin a b = true)
    (hbc : pathIsWithin b c = true) : pathIsWithin a c = true := by
  rw [pathIsWithin_iff] at hab hbc ⊢
  rcases hab with rfl | ⟨rest, hab⟩
  · exact hbc
  · rcases hbc with rfl | ⟨rest', hbc⟩
    · exact Or.inr ⟨rest, hab⟩
    · refine Or.inr ⟨rest' ++ '/' :: rest, ?_⟩
      rw [hab, hbc, List.append_assoc]
      rfl

/-- Dropping exclusions that others contain changes nothing. -/
theorem isWorkspaceExcluded_outermost (path : String) (kept rest : List String) :
    isWorkspaceExcluded path (outermost kept rest) = true ↔
      isWorkspaceExcluded path kept = true ∨ isWorkspaceExcluded path rest = true := by
  induction rest generalizing kept with
  | nil => simp [outermost, isWorkspaceExcluded]
  | cons display rest ih =>
    rw [outermost]
    split
    · rename_i hinside
      rw [ih]
      simp only [isWorkspaceExcluded, List.any_cons, Bool.or_eq_true]
      constructor
      · intro h
        rcases h with h | h
        · exact Or.inl h
        · exact Or.inr (Or.inr h)
      · intro h
        rcases h with h | h | h
        · exact Or.inl h
        · -- the dropped exclusion lies within one that is kept
          obtain ⟨ancestor, hmem, hwithin⟩ := List.any_eq_true.mp hinside
          exact Or.inl (List.any_eq_true.mpr ⟨ancestor, hmem, pathIsWithin_trans h hwithin⟩)
        · exact Or.inr h
    · rw [ih]
      simp only [isWorkspaceExcluded, List.any_append, List.any_cons, List.any_nil, Bool.or_false,
        Bool.or_eq_true, or_assoc]

theorem validateWorkspaceExclusion_collects
    {state state' : List (String × Unit) × Collisions × TraversalBudget}
    (h : validateWorkspaceExclusion env request.limits state path = .ok state') (key : String) :
    (∃ u, (key, u) ∈ state'.1) ↔ (∃ u, (key, u) ∈ state.1) ∨ key = path := by
  simp only [validateWorkspaceExclusion, check_bind_eq_ok] at h
  obtain ⟨-, -, h⟩ := h
  obtain ⟨_, -, h⟩ := bind_eq_ok.mp h
  obtain ⟨_, -, h⟩ := bind_eq_ok.mp h
  cases h
  constructor
  · intro hparts
    obtain ⟨u, hu⟩ := hparts
    rcases BTreeMap.mem_of_mem_insert hu with hnew | hold
    · exact Or.inr (Prod.mk.inj hnew).1
    · exact Or.inl ⟨u, hold⟩
  · intro hkey
    exact BTreeMap.exists_mem_insert _ _ _ _ hkey.symm

/-- Duplicates exclude nothing new. -/
theorem validateWorkspaceExclusions_eq_ok
    (h : validateWorkspaceExclusions env request budget = .ok (exclusions, budget')) (path :
      String) :
    isWorkspaceExcluded path exclusions = isWorkspaceExcluded path request.workspaceExclusions := by
  rw [validateWorkspaceExclusions, bind_eq_ok] at h
  obtain ⟨⟨requested, collisions, budget₁⟩, hfold, h⟩ := h
  obtain ⟨rfl, -⟩ := Prod.mk.inj (Except.ok.inj h)
  have hkeys : ∀ key, (∃ u, (key, u) ∈ requested) ↔ key ∈ request.workspaceExclusions := by
    intro key
    have hcollects := foldlM_collects (fun state key => ∃ u, (key, u) ∈ state.1)
      (fun path key => key = path)
      (fun _ _ _ hstep key => validateWorkspaceExclusion_collects hstep key) hfold key
    simpa using hcollects
  have hiff : isWorkspaceExcluded path (outermost [] (requested.map (·.1))) = true ↔
      isWorkspaceExcluded path request.workspaceExclusions = true := by
    rw [isWorkspaceExcluded_outermost]
    simp only [isWorkspaceExcluded, List.any_nil, Bool.false_eq_true, false_or, List.any_eq_true,
      List.mem_map]
    constructor
    · intro hparts
      obtain ⟨key, ⟨⟨_, u⟩, hmem, rfl⟩, hwithin⟩ := hparts
      exact ⟨_, (hkeys _).mp ⟨u, hmem⟩, hwithin⟩
    · intro hparts
      obtain ⟨key, hmem, hwithin⟩ := hparts
      obtain ⟨u, hu⟩ := (hkeys key).mpr hmem
      exact ⟨key, ⟨(key, u), hu, rfl⟩, hwithin⟩
  exact Bool.eq_iff_iff.mpr hiff

theorem loadIgnoreRules_congr {a b : List String} {limits : SourceLimits}
    (h : ∀ path, isWorkspaceExcluded path a = isWorkspaceExcluded path b) :
    loadIgnoreRules env roots a limits = loadIgnoreRules env roots b limits := by
  have hfile : loadIgnoreFile env a limits = loadIgnoreFile env b limits := by
    funext rules location
    unfold loadIgnoreFile
    simp only [h]
  rw [loadIgnoreRules, loadIgnoreRules, hfile]

/-- Which paths are reached depends on the exclusions through what they exclude only. -/
theorem Reaches.congr {a b : ScanEnv} {path : FsPath} (hplan : a.toPlanEnv = b.toPlanEnv)
    (hroot : a.root = b.root) (hrules : a.ignoreRules = b.ignoreRules)
    (hexclusions : ∀ path, isWorkspaceExcluded path a.exclusions = isWorkspaceExcluded path
      b.exclusions)
    (h : Reaches a root path) : Reaches b root path := by
  have hadmitted : ∀ path, Admitted a path → Admitted b path := by
    intro path hpath
    unfold Admitted at hpath ⊢
    rw [← hplan, ← hrules, ← hexclusions]
    exact hpath
  induction h with
  | root hadmit => exact .root (hadmitted _ hadmit)
  | child _ hlists hadmit ih =>
    obtain ⟨entries, hlookup, hname⟩ := hlists
    refine .child ih ⟨entries, ?_, hname⟩ (hadmitted _ hadmit)
    rw [← hplan, ← hroot]
    exact hlookup

/-! ## The roots of a plan -/

theorem mem_insertRoot {path other : FsPath} {roots : List FsPath} :
    other ∈ insertRoot path roots ↔ other = path ∨ other ∈ roots := by
  induction roots with
  | nil => simp [insertRoot]
  | cons first roots ih =>
    rw [insertRoot]
    split_ifs with heq hlt
    · simp [heq]
    · simp
    · simp only [List.mem_cons, ih]
      tauto

/-- A directory that is found. -/
theorem canonicalDirectory_eq_ok {host : Host} {root : String} {canonical : FsPath}
    (h : canonicalDirectory host path root = .ok canonical) :
    host.canonicalize path = some canonical := by
  unfold canonicalDirectory at h
  cases hcanonical : host.canonicalize path with
  | none =>
    rw [hcanonical] at h
    cases h
  | some found =>
    rw [hcanonical] at h
    cases hlookup : host.lookup found with
    | directory entries =>
      simp only [hlookup] at h
      rw [Except.ok.inj h]
    | missing | inaccessible | symlink | special =>
      simp only [hlookup] at h
      cases h
    | file file =>
      simp only [hlookup] at h
      cases h

/-- The roots of a request. -/
theorem resolve_eq_ok (h : ResolvedRoots.resolve env request = .ok roots) :
    env.host.canonicalize request.workspaceRoot = some roots.workspace ∧
      env.host.canonicalize request.projectRoot = some roots.project ∧
      roots.projectRelative = roots.project.drop roots.workspace.length := by
  rw [ResolvedRoots.resolve, check_bind_eq_ok, check_bind_eq_ok] at h
  obtain ⟨-, -, h⟩ := h
  obtain ⟨workspace, hworkspace, h⟩ := bind_eq_ok.mp h
  obtain ⟨project, hproject, h⟩ := bind_eq_ok.mp h
  obtain ⟨-, h⟩ := check_bind_eq_ok.mp h
  obtain ⟨-, h⟩ := check_bind_eq_ok.mp h
  cases h
  exact ⟨canonicalDirectory_eq_ok hworkspace, canonicalDirectory_eq_ok hproject, rfl⟩

theorem collectBuildInput_collects {roots roots' : List FsPath}
    (h : collectBuildInput env workspace roots path = .ok roots') (root : FsPath) :
    root ∈ roots' ↔ root ∈ roots ∨
      (root = components path ∧ env.host.tryExists (workspace ++ root) = some true) := by
  unfold collectBuildInput at h
  cases hexists : env.host.tryExists (workspace ++ components path) with
  | none =>
    rw [hexists] at h
    cases h
  | some found =>
    rw [hexists] at h
    cases found with
    | false =>
      cases h
      constructor
      · intro hroot
        exact Or.inl hroot
      · intro hroot
        rcases hroot with hroot | ⟨rfl, htrue⟩
        · exact hroot
        · rw [hexists] at htrue
          cases htrue
    | true =>
      cases h
      rw [mem_insertRoot]
      constructor
      · intro hroot
        rcases hroot with rfl | hroot
        · exact Or.inr ⟨rfl, hexists⟩
        · exact Or.inl hroot
      · intro hroot
        rcases hroot with hroot | ⟨rfl, -⟩
        · exact Or.inr hroot
        · exact Or.inl rfl

variable {state' : List FsPath × TraversalBudget} {state : List FsPath × TraversalBudget}

theorem collectWorkspaceInput_collects
    {input : String} (h : collectWorkspaceInput env workspace exclusions state input = .ok state')
    (root : FsPath) :
    root ∈ state'.1 ↔ root ∈ state.1 ∨
      (root = components input ∧ isWorkspaceExcluded input exclusions = false) := by
  rw [collectWorkspaceInput, bind_eq_ok] at h
  obtain ⟨budget, -, h⟩ := h
  obtain ⟨-, h⟩ := check_bind_eq_ok.mp h
  obtain ⟨-, h⟩ := check_bind_eq_ok.mp h
  cases hexcluded : isWorkspaceExcluded input exclusions with
  | true =>
    rw [hexcluded, if_pos rfl] at h
    cases h
    simp
  | false =>
    rw [hexcluded, if_neg Bool.false_ne_true, bind_eq_ok] at h
    obtain ⟨roots, hadd, h⟩ := h
    cases h
    rw [addWorkspaceInput, check_bind_eq_ok] at hadd
    obtain ⟨-, hadd⟩ := hadd
    split at hadd
    · cases hadd
    · cases hadd
    · cases hadd
      rw [mem_insertRoot, or_comm]
      simp

/-- What is collected: the project, the build inputs that exist, and the inputs that are not
excluded. -/
theorem mem_collected {includeRoots : List FsPath}
    (h : collectIncludeRoots env request roots exclusions budget = .ok (includeRoots, budget'))
    (root : FsPath) :
    root ∈ includeRoots ↔ (root ∈ [roots.projectRelative] ∨ ∃ path ∈ workspaceBuildInputs,
        root = components path ∧ env.host.tryExists (roots.workspace ++ root) = some true) ∨
      ∃ input ∈ request.workspaceInputs, root = components input ∧
        isWorkspaceExcluded input exclusions = false := by
  rw [collectIncludeRoots, bind_eq_ok] at h
  obtain ⟨builtin, hbuiltin, h⟩ := h
  have hinputs := foldlM_collects (fun state root => root ∈ state.1)
    (fun input root => root = components input ∧ isWorkspaceExcluded input exclusions = false)
    (fun _ _ _ hstep root => collectWorkspaceInput_collects hstep root) h root
  have hbuiltins := foldlM_collects (fun roots root => root ∈ roots)
    (fun path root => root = components path ∧
      env.host.tryExists (roots.workspace ++ root) = some true)
    (fun _ _ _ hstep root => collectBuildInput_collects hstep root) hbuiltin root
  dsimp only at hinputs hbuiltins
  rw [hinputs, hbuiltins]

/-- The include roots that a request collects are those it is meant to have. -/
theorem collectIncludeRoots_eq_ok {includeRoots : List FsPath}
    (hrelative : roots.projectRelative = roots.project.drop roots.workspace.length)
    (hexclusions : ∀ path, isWorkspaceExcluded path exclusions = isWorkspaceExcluded path
      request.workspaceExclusions)
    (h : collectIncludeRoots env request roots exclusions budget = .ok (includeRoots, budget'))
    (root : FsPath) :
    root ∈ includeRoots ↔ IncludeRoot env request roots.workspace roots.project root := by
  rw [mem_collected h, IncludeRoot, hrelative]
  simp only [List.mem_singleton, hexclusions, or_assoc]

theorem components_builtin_valid (h : path ∈ workspaceBuildInputs) :
    ValidPath (components path) := by
  have hall : (workspaceBuildInputs.all fun path =>
      (components path).all fun name => decide (IsName name)) = true := by
    decide +kernel
  intro name hname
  exact of_decide_eq_true (List.all_eq_true.mp (List.all_eq_true.mp hall path h) name hname)

theorem collectWorkspaceInput_portable
    {input : String} (h : collectWorkspaceInput env workspace exclusions state input = .ok state') :
    ValidPath (components input) := by
  rw [collectWorkspaceInput, bind_eq_ok] at h
  obtain ⟨budget, -, h⟩ := h
  obtain ⟨hportable, -⟩ := check_bind_eq_ok.mp h
  exact validPath_of_portable (mapError_eq_ok.mp hportable) (Or.inl rfl)

theorem includeRoot_valid {includeRoots : List FsPath}
    (hproject : env.host.canonicalize request.projectRoot = some roots.project)
    (hrelative : roots.projectRelative = roots.project.drop roots.workspace.length)
    (hexclusions : ∀ path, isWorkspaceExcluded path exclusions = isWorkspaceExcluded path
      request.workspaceExclusions)
    (h : collectIncludeRoots env request roots exclusions budget = .ok (includeRoots, budget')) :
    ∀ root ∈ includeRoots, ValidPath root := by
  intro root hroot
  have hinputs : ∀ input ∈ request.workspaceInputs, ValidPath (components input) := by
    rw [collectIncludeRoots, bind_eq_ok] at h
    obtain ⟨builtin, -, h⟩ := h
    have hstep : ∀ state input state', True →
        collectWorkspaceInput env roots.workspace exclusions state input = .ok state' →
        True ∧ ValidPath (components input) :=
      fun state input state' _ hstep => ⟨trivial, collectWorkspaceInput_portable hstep⟩
    exact (foldlM_eq_ok hstep trivial h).2
  rcases (collectIncludeRoots_eq_ok hrelative hexclusions h root).mp hroot with
    rfl | ⟨path, hpath, rfl, -⟩ | ⟨input, hinput, rfl, -⟩
  · intro name hname
    exact env.host.canonical_valid _ _ hproject name (List.mem_of_mem_drop hname)
  · exact components_builtin_valid hpath
  · exact hinputs input hinput

/-! ## What a plan selects -/

/-- The phases of a plan that succeeded. -/
structure PlanPhases (env : PlanEnv) (request : SourceBundleRequest) (plan : SourceBundlePlan) where
  roots : ResolvedRoots
  exclusions : List String
  rules : List IgnoreRule
  includeRoots : List FsPath
  scan : ScanResult
  entries : List SourceManifestEntry
  resolved : ResolvedRoots.resolve env request = .ok roots
  excluded : ∀ path, isWorkspaceExcluded path exclusions =
    isWorkspaceExcluded path request.workspaceExclusions
  loaded : loadIgnoreRules env roots exclusions request.limits = .ok rules
  collected : ∃ before after,
    collectIncludeRoots env request roots exclusions before = .ok (includeRoots, after)
  scanned : ∃ before after, scanPaths
    { env with root := roots.workspace, exclusions, ignoreRules := rules, limits := request.limits }
    includeRoots before = .ok (scan, after)
  applied : plan.executableModes.foldlM applyExecutableMode scan.entries = .ok entries
  manifest_eq : plan.manifest =
    buildManifest env.tools (displayRelativePath roots.projectRelative) entries
  manifest_valid : validateSourceManifest env.tools plan.manifest request.limits = .ok ()
  files_eq : plan.files = plan.manifest.entries.map fun entry =>
    ⟨roots.workspace ++ components entry.path, entry.path⟩

variable {plan : SourceBundlePlan}

/-- A plan that succeeds has these phases. -/
theorem planSourceBundle_eq_ok
    (h : planSourceBundle env request = .ok plan) : Nonempty (PlanPhases env request plan) := by
  rw [planSourceBundle, check_bind_eq_ok] at h
  obtain ⟨-, h⟩ := h
  obtain ⟨budget, -, h⟩ := bind_eq_ok.mp h
  obtain ⟨roots, hroots, h⟩ := bind_eq_ok.mp h
  obtain ⟨⟨modes, budget₁⟩, -, h⟩ := bind_eq_ok.mp h
  obtain ⟨⟨exclusions, budget₂⟩, hexclusions, h⟩ := bind_eq_ok.mp h
  obtain ⟨rules, hrules, h⟩ := bind_eq_ok.mp h
  obtain ⟨⟨includeRoots, budget₃⟩, hinclude, h⟩ := bind_eq_ok.mp h
  obtain ⟨⟨scan, budget₄⟩, hscan, h⟩ := bind_eq_ok.mp h
  obtain ⟨entries, hentries, h⟩ := bind_eq_ok.mp h
  obtain ⟨budget₅, -, h⟩ := bind_eq_ok.mp h
  obtain ⟨hvalid, h⟩ := check_bind_eq_ok.mp h
  cases h
  exact ⟨{
    roots, exclusions, rules, includeRoots, scan, entries
    resolved := hroots
    excluded := validateWorkspaceExclusions_eq_ok hexclusions
    loaded := hrules
    collected := ⟨_, _, hinclude⟩
    scanned := ⟨_, _, hscan⟩
    applied := hentries
    manifest_eq := rfl
    manifest_valid := hvalid
    files_eq := rfl }⟩

/-- The modes of a request change the executable bits only. -/
theorem applyExecutableModes_mem {modes : List (String × Bool)}
    {entries entries' : List SourceManifestEntry}
    (h : modes.foldlM applyExecutableMode entries = .ok entries') :
    entries'.map (·.path) = entries.map (·.path) ∧
      ∀ entry' ∈ entries', ∃ entry ∈ entries, ∃ executable,
        entry' = { entry with executable := executable } := by
  induction modes generalizing entries with
  | nil =>
    cases h
    exact ⟨rfl, fun entry hentry => ⟨entry, hentry, entry.executable, rfl⟩⟩
  | cons mode modes ih =>
    rw [List.foldlM_cons, bind_eq_ok] at h
    obtain ⟨entries₁, hfirst, hrest⟩ := h
    rw [applyExecutableMode, check_bind_eq_ok] at hfirst
    obtain rfl := Except.ok.inj hfirst.2
    obtain ⟨hpaths, hmem⟩ := ih hrest
    constructor
    · rw [hpaths, List.map_map]
      apply List.map_congr_left
      intro entry _
      simp only [Function.comp_apply]
      split <;> rfl
    · intro entry' hentry'
      obtain ⟨entry₁, hentry₁, executable, rfl⟩ := hmem entry' hentry'
      obtain ⟨entry, hentry, rfl⟩ := List.mem_map.mp hentry₁
      refine ⟨entry, hentry, executable, ?_⟩
      split <;> rfl

section

variable {plan : SourceBundlePlan} (phases : PlanPhases env request plan)
include phases

theorem PlanPhases.workspace_eq :
    env.host.canonicalize request.workspaceRoot = some phases.roots.workspace :=
  (resolve_eq_ok phases.resolved).1

/-- The project, resolved. -/
theorem PlanPhases.project_eq :
    env.host.canonicalize request.projectRoot = some phases.roots.project :=
  (resolve_eq_ok phases.resolved).2.1

theorem PlanPhases.roots_eq :
    phases.roots = ⟨phases.roots.workspace, phases.roots.project,
      phases.roots.project.drop phases.roots.workspace.length⟩ := by
  rw [← (resolve_eq_ok phases.resolved).2.2]

theorem PlanPhases.rules_eq :
    loadIgnoreRules env ⟨phases.roots.workspace, phases.roots.project,
      phases.roots.project.drop phases.roots.workspace.length⟩ request.workspaceExclusions
      request.limits = .ok phases.rules := by
  rw [← phases.roots_eq, ← loadIgnoreRules_congr phases.excluded]
  exact phases.loaded

theorem PlanPhases.mem_includeRoots (root : FsPath) :
    root ∈ phases.includeRoots ↔
      IncludeRoot env request phases.roots.workspace phases.roots.project root := by
  obtain ⟨before, after, hcollected⟩ := phases.collected
  exact collectIncludeRoots_eq_ok (resolve_eq_ok phases.resolved).2.2 phases.excluded hcollected root

theorem PlanPhases.valid_includeRoots : ∀ root ∈ phases.includeRoots, ValidPath root := by
  obtain ⟨before, after, hcollected⟩ := phases.collected
  exact includeRoot_valid phases.project_eq (resolve_eq_ok phases.resolved).2.2 phases.excluded
    hcollected

/-- The environment of the scan of the plan. -/
def PlanPhases.scanEnv : ScanEnv :=
  { env with
    root := phases.roots.workspace
    exclusions := phases.exclusions
    ignoreRules := phases.rules
    limits := request.limits }

/-- The scan reaches what the request does. -/
theorem PlanPhases.reaches_iff {path : FsPath} :
    Reaches phases.scanEnv root path ↔
      Reaches (requestScope env request phases.roots.workspace phases.rules) root path :=
  ⟨Reaches.congr rfl rfl rfl phases.excluded,
    Reaches.congr rfl rfl rfl fun path => (phases.excluded path).symm⟩

/-- The manifest has the entries of the scan. -/
theorem PlanPhases.entries_eq : plan.manifest.entries = phases.entries := by
  rw [phases.manifest_eq]
  rfl

/-- The manifest of a plan has exactly the files that an include root leads to. -/
theorem PlanPhases.selects :
    (∀ entry ∈ plan.manifest.entries, ∃ root, ValidPath root ∧
      IncludeRoot env request phases.roots.workspace phases.roots.project root ∧
      ∃ path file, Reaches (requestScope env request phases.roots.workspace phases.rules) root path ∧
        env.host.lookup (phases.roots.workspace ++ path) = .file file ∧
        ∃ executable, EntryOf phases.scanEnv path file { entry with executable := executable }) ∧
    ∀ root path file, IncludeRoot env request phases.roots.workspace phases.roots.project root →
      Reaches (requestScope env request phases.roots.workspace phases.rules) root path →
      env.host.lookup (phases.roots.workspace ++ path) = .file file →
      ∃ entry ∈ plan.manifest.entries, entry.path = displayRelativePath path := by
  obtain ⟨before, after, hscanned⟩ := phases.scanned
  obtain ⟨hsound, hcomplete⟩ :=
    scanPaths_entries phases.valid_includeRoots hscanned
  obtain ⟨hpaths, hmem⟩ := applyExecutableModes_mem phases.applied
  rw [phases.entries_eq]
  constructor
  · intro entry hentry
    obtain ⟨scanned, hscan, executable, rfl⟩ := hmem entry hentry
    obtain ⟨root, hroot, path, file, hreach, hlookup, hof⟩ := hsound scanned hscan
    exact ⟨root, phases.valid_includeRoots root hroot, (phases.mem_includeRoots root).mp hroot,
      path, file, phases.reaches_iff.mp hreach, hlookup, scanned.executable, hof⟩
  · intro root path file hroot hreach hlookup
    obtain ⟨entry, hentry, hpath⟩ := hcomplete root ((phases.mem_includeRoots root).mpr hroot) path
      file (phases.reaches_iff.mpr hreach) hlookup
    have hmapped : entry.path ∈ phases.entries.map (·.path) := by
      rw [hpaths]
      exact List.mem_map_of_mem hentry
    obtain ⟨entry', hentry', heq⟩ := List.mem_map.mp hmapped
    exact ⟨entry', hentry', heq.trans hpath⟩

end

/-! ## Below and above -/

theorem isBelow_trans {a b c : String} (hab : IsBelow a b) (hbc : IsBelow b c) : IsBelow a c := by
  obtain ⟨rest, rfl⟩ := hab
  obtain ⟨rest', rfl⟩ := hbc
  refine ⟨rest' ++ "/" ++ rest, ?_⟩
  simp only [String.append_assoc]

/-- Nothing is above the workspace. -/
theorem not_isBelow_root : ¬ IsBelow (displayRelativePath []) front := by
  intro hparts
  obtain ⟨rest, hrest⟩ := hparts
  have hlength := congrArg (fun text => (components text).length) hrest
  simp only [components_below, List.length_append] at hlength
  have hone : (components (displayRelativePath [])).length = 1 := by decide
  have hfront := List.length_pos_iff.mpr (components_ne_nil front)
  have hrest := List.length_pos_iff.mpr (components_ne_nil rest)
  omega

/-- A path is below what a root below it is below. -/
theorem isBelow_of_isPrefix {path : FsPath} (hextends : root <+: path) (hroot : root ≠ [])
    (h : IsBelow (displayRelativePath root) front) :
    IsBelow (displayRelativePath path) front := by
  obtain ⟨rest, rfl⟩ := hextends
  by_cases hrest : rest = []
  · rw [hrest, List.append_nil]
    exact h
  · exact isBelow_trans ⟨_, display_append hroot hrest⟩ h

/-- What a displayed path lies below is one of its proper prefixes. -/
theorem isBelow_display_iff {path : FsPath} (hvalid : ValidPath path) (hne : path ≠ []) :
    IsBelow (displayRelativePath path) front ↔
      components front <+: path ∧ components front ≠ path := by
  constructor
  · intro hparts
    obtain ⟨rest, hrest⟩ := hparts
    have hcomponents := components_display hvalid hne
    rw [hrest, components_below] at hcomponents
    refine ⟨⟨_, hcomponents⟩, ?_⟩
    intro heq
    rw [heq] at hcomponents
    exact components_ne_nil rest (List.append_right_eq_self.mp hcomponents)
  · intro hparts
    obtain ⟨⟨rest, hrest⟩, hproper⟩ := hparts
    have hrest' : rest ≠ [] := by
      intro hnil
      rw [hnil, List.append_nil] at hrest
      exact hproper hrest
    refine ⟨displayRelativePath rest, ?_⟩
    rw [← hrest, display_append (components_ne_nil front) hrest', display_components]

/-! ## Files below sensitive paths -/

/-- No file of the manifest lies below a sensitive path. -/
def SelectsNothingBelowSensitive (tools : SourceTools) (manifest : SourceManifest) : Prop :=
  ∀ entry ∈ manifest.entries, ∀ front, IsBelow entry.path front →
    isSensitivePath tools.unicode front = false

theorem rootsClear_of_selects (phases : PlanPhases env request plan)
    (h : SelectsNothingBelowSensitive env.tools plan.manifest) : RootsClear env request := by
  intro workspace project rules hworkspace hproject hrules root path file hroot hreach hfile front
    hbelow
  -- the roots and the rules are those of the plan
  obtain rfl := Option.some.inj (hworkspace.symm.trans phases.workspace_eq)
  obtain rfl := Option.some.inj (hproject.symm.trans phases.project_eq)
  obtain rfl := Except.ok.inj (hrules.symm.trans phases.rules_eq)
  obtain ⟨entry, hentry, hpath⟩ := phases.selects.2 root path file hroot hreach hfile
  apply h entry hentry
  rw [hpath]
  by_cases hnil : root = []
  · rw [hnil] at hbelow
    exact absurd hbelow not_isBelow_root
  · exact isBelow_of_isPrefix hreach.isPrefix hnil hbelow

theorem selects_of_rootsClear (phases : PlanPhases env request plan)
    (h : RootsClear env request) : SelectsNothingBelowSensitive env.tools plan.manifest := by
  intro entry hentry front hbelow
  obtain ⟨root, hvalid, hroot, path, file, hreach, hlookup, executable, hof⟩ :=
    phases.selects.1 entry hentry
  have hpath : entry.path = displayRelativePath path := hof.path_eq
  have hvalidPath := hreach.validPath hvalid
  have hne : path ≠ [] := by
    intro hnil
    rw [hpath, hnil] at hbelow
    exact not_isBelow_root hbelow
  rw [hpath, isBelow_display_iff hvalidPath hne] at hbelow
  obtain ⟨hfront, hproper⟩ := hbelow
  -- the sensitive path is between the root and the file, or above the root
  rcases List.prefix_or_prefix_of_prefix hreach.isPrefix hfront with hbetween | habove
  · have hadmitted := hreach.admitted_between hbetween hfront
    rcases hadmitted with hnil | ⟨hsensitive, -, -⟩
    · exact absurd hnil (components_ne_nil front)
    · rw [display_components] at hsensitive
      exact hsensitive
  · by_cases hequal : components front = root
    · rcases (hreach.admitted_between (hequal ▸ List.prefix_refl _) hfront) with hnil | ⟨hsens, -, -⟩
      · exact absurd hnil (components_ne_nil front)
      · rw [display_components] at hsens
        exact hsens
    · have hroots : root ≠ [] := by
        intro hnil
        rw [hnil] at habove
        exact components_ne_nil front (List.prefix_nil.mp habove)
      exact h _ _ _ phases.workspace_eq phases.project_eq phases.rules_eq root path file hroot hreach
        hlookup front ((isBelow_display_iff hvalid hroots).mpr ⟨habove, hequal⟩)

/-- **Sensitive paths**: a sensitive path makes everything below sensitive exactly when one of
    its components names a sensitive directory, and a plan selects nothing below a sensitive
    path exactly when every include root that leads to a file lies below none. -/
theorem sensitive_below_iff (env : PlanEnv) (hlower : LowersAscii env.tools.unicode) :
    (∀ path, isSensitivePath env.tools.unicode path = true →
      ((∀ rest, isSensitivePath env.tools.unicode (path ++ "/" ++ rest) = true) ↔
        ∃ component ∈ components path,
          isSensitiveDirectory env.tools.unicode component = true)) ∧
    ∀ request plan, planSourceBundle env request = .ok plan →
      (SelectsNothingBelowSensitive env.tools plan.manifest ↔ RootsClear env request) := by
  constructor
  · intro path _
    constructor
    · intro hall
      by_contra hnone
      have hharmless := isSensitivePath_below_harmless hlower hnone
      rw [hall "a"] at hharmless
      cases hharmless
    · intro hdirectory rest
      exact isSensitivePath_below hdirectory
  · intro request plan hplan
    obtain ⟨phases⟩ := planSourceBundle_eq_ok hplan
    exact ⟨rootsClear_of_selects phases, selects_of_rootsClear phases⟩

end

namespace Sample

/-- The manifest of the one file `lib.rs`, which is empty, as it is hashed. -/
def plainBytes : List UInt8 :=
  [114, 117, 115, 116, 102, 101, 114, 114, 121, 45, 115, 111, 117, 114, 99, 101, 45, 109, 97,
    110, 105, 102, 101, 115, 116, 45, 118, 49, 0, 0, 0, 0, 0, 0, 0, 0, 1, 46, 0, 0, 0, 0, 0, 0,
    0, 1, 0, 0, 0, 0, 0, 0, 0, 6, 108, 105, 98, 46, 114, 115, 0, 0, 0, 0, 0, 0, 0, 0, 0, 0, 0,
    0, 0, 0, 0, 64, 101, 51, 98, 48, 99, 52, 52, 50, 57, 56, 102, 99, 49, 99, 49, 52, 57, 97,
    102, 98, 102, 52, 99, 56, 57, 57, 54, 102, 98, 57, 50, 52, 50, 55, 97, 101, 52, 49, 101, 52,
    54, 52, 57, 98, 57, 51, 52, 99, 97, 52, 57, 53, 57, 57, 49, 98, 55, 56, 53, 50, 98, 56, 53,
    53, 0, 0, 0, 0, 0, 0, 0, 0, 0]

/-- The manifest of `keys.pem/notes.txt` and `lib.rs`, both empty, as it is hashed. -/
def leakyBytes : List UInt8 :=
  [114, 117, 115, 116, 102, 101, 114, 114, 121, 45, 115, 111, 117, 114, 99, 101, 45, 109, 97,
    110, 105, 102, 101, 115, 116, 45, 118, 49, 0, 0, 0, 0, 0, 0, 0, 0, 1, 46, 0, 0, 0, 0, 0, 0,
    0, 2, 0, 0, 0, 0, 0, 0, 0, 18, 107, 101, 121, 115, 46, 112, 101, 109, 47, 110, 111, 116,
    101, 115, 46, 116, 120, 116, 0, 0, 0, 0, 0, 0, 0, 0, 0, 0, 0, 0, 0, 0, 0, 64, 101, 51, 98,
    48, 99, 52, 52, 50, 57, 56, 102, 99, 49, 99, 49, 52, 57, 97, 102, 98, 102, 52, 99, 56, 57,
    57, 54, 102, 98, 57, 50, 52, 50, 55, 97, 101, 52, 49, 101, 52, 54, 52, 57, 98, 57, 51, 52,
    99, 97, 52, 57, 53, 57, 57, 49, 98, 55, 56, 53, 50, 98, 56, 53, 53, 0, 0, 0, 0, 0, 0, 0, 0,
    6, 108, 105, 98, 46, 114, 115, 0, 0, 0, 0, 0, 0, 0, 0, 0, 0, 0, 0, 0, 0, 0, 64, 101, 51, 98,
    48, 99, 52, 52, 50, 57, 56, 102, 99, 49, 99, 49, 52, 57, 97, 102, 98, 102, 52, 99, 56, 57,
    57, 54, 102, 98, 57, 50, 52, 50, 55, 97, 101, 52, 49, 101, 52, 54, 52, 57, 98, 57, 51, 52,
    99, 97, 52, 57, 53, 57, 57, 49, 98, 55, 56, 53, 50, 98, 56, 53, 53, 0, 0, 0, 0, 0, 0, 0, 0,
    0]

/-- The digests of the two manifests and of an empty file. -/
def sourceSha256 (bytes : List UInt8) : String :=
  if bytes = plainBytes then
    "f9fc1cabe6fe359cb53ca7d0786b0d91f5bbf2b4bb46fb55b36d827c22caa5a5"
  else if bytes = leakyBytes then
    "9ea402f028f4f51a8d14c5cf9b6e37ceeadffdb4ab01020e46685f013807250b"
  else "e3b0c44298fc1c149afbf4c8996fb92427ae41e4649b934ca495991b7852b855"

def asciiUnicode : Unicode where
  nfc := id
  charToLowercase c := [c.toLower]
  toLowercase := List.map Char.toLower

def emptyFile : RegularFile where
  size := 0
  executable := false
  links := 1
  contents := some []
  bounded := by simp

/-- A workspace with a file and a directory with the name of a key. -/
def workspaceNode (path : FsPath) : Node :=
  if path = ["w".toList] then
    .directory (some [.name "keys.pem".toList, .name "lib.rs".toList])
  else if path = ["w".toList, "lib.rs".toList] then .file emptyFile
  else if path = ["w".toList, "keys.pem".toList] then
    .directory (some [.name "notes.txt".toList])
  else if path = ["w".toList, "keys.pem".toList, "notes.txt".toList] then .file emptyFile
  else .missing

def host : Host where
  rootIsSymlink _ := some false
  canonicalize _ := some ["w".toList]
  lookup := workspaceNode
  tryExists path := some (workspaceNode path != .missing)
  canonical_valid := by
    intro text path hpath
    cases hpath
    decide
  names_valid := by
    intro path entries name hlookup hname
    have hnames : ∀ entry ∈ entries, ∀ name, entry = .name name → IsName name := by
      unfold workspaceNode at hlookup
      split_ifs at hlookup
      · obtain rfl := Option.some.inj (Node.directory.inj hlookup)
        simp only [List.mem_cons, List.not_mem_nil, or_false, forall_eq_or_imp, forall_eq,
          DirEntry.name.injEq, forall_eq']
        decide
      · obtain rfl := Option.some.inj (Node.directory.inj hlookup)
        simp only [List.mem_cons, List.not_mem_nil, or_false, forall_eq, DirEntry.name.injEq,
          forall_eq']
        decide
    exact hnames _ hname name rfl

def planEnv : PlanEnv := ⟨⟨asciiUnicode, sourceSha256⟩, host⟩

def plainRequest : SourceBundleRequest where
  workspaceRoot := "w"
  projectRoot := "w"
  workspaceInputs := []
  workspaceExclusions := []
  executableModes := []
  maxTraversalEntries := maxSourceTraversalEntries
  limits := .default

/-- A request that also includes a file below the directory with the name of a key. -/
def leakyRequest : SourceBundleRequest :=
  { plainRequest with workspaceInputs := ["keys.pem/notes.txt"] }

/-- What the two requests select, and which paths are sensitive. -/
theorem plans_sensitive :
    ((planSourceBundle planEnv leakyRequest).map (fun plan =>
        (plan.manifest.entries.map (·.path), plan.excludedSensitivePaths)) =
        .ok (["keys.pem/notes.txt", "lib.rs"], ["keys.pem"]) ∧
      (planSourceBundle planEnv plainRequest).map (·.manifest.entries.map (·.path)) =
        .ok ["lib.rs"]) ∧
      isSensitivePath asciiUnicode "keys.pem" = true ∧
      isSensitivePath asciiUnicode ("keys.pem" ++ "/" ++ "notes.txt") = false ∧
      (isSensitivePath asciiUnicode "target" = true ∧ "target".toList ∈ components "target" ∧
        isSensitiveDirectory asciiUnicode "target".toList = true) := by
  decide +kernel

theorem plan_leaky :
    (planSourceBundle planEnv leakyRequest).map (fun plan =>
      (plan.manifest.entries.map (·.path), plan.excludedSensitivePaths)) =
      .ok (["keys.pem/notes.txt", "lib.rs"], ["keys.pem"]) :=
  plans_sensitive.1.1

theorem plan_plain :
    (planSourceBundle planEnv plainRequest).map (·.manifest.entries.map (·.path)) =
      .ok ["lib.rs"] :=
  plans_sensitive.1.2

theorem isSensitivePath_key : isSensitivePath asciiUnicode "keys.pem" = true :=
  plans_sensitive.2.1

/-- A manifest of one file at the top has nothing below any path. -/
theorem selectsNothing_of_lib {tools : SourceTools} {manifest : SourceManifest}
    (h : manifest.entries.map (·.path) = ["lib.rs"]) :
    SelectsNothingBelowSensitive tools manifest := by
  intro entry hentry front hbelow
  have hpath : entry.path ∈ manifest.entries.map (·.path) := List.mem_map_of_mem hentry
  rw [h, List.mem_singleton] at hpath
  -- a path of one component is below nothing
  have hone : displayRelativePath ["lib.rs".toList] = "lib.rs" := by decide
  have hvalid : ValidPath ["lib.rs".toList] := by
    unfold ValidPath
    decide
  rw [hpath, ← hone, isBelow_display_iff hvalid (by decide)] at hbelow
  obtain ⟨hfront, hproper⟩ := hbelow
  rcases List.prefix_concat_iff.mp (show components front <+: [] ++ ["lib.rs".toList] from hfront)
    with heq | hnil
  · exact absurd heq hproper
  · exact absurd (List.prefix_nil.mp hnil) (components_ne_nil front)

theorem not_selectsNothing_of_key {tools : SourceTools} {manifest : SourceManifest}
    (hkey : isSensitivePath tools.unicode "keys.pem" = true)
    (h : manifest.entries.map (·.path) = ["keys.pem/notes.txt", "lib.rs"]) :
    ¬ SelectsNothingBelowSensitive tools manifest := by
  intro hnothing
  have hmem : "keys.pem/notes.txt" ∈ manifest.entries.map (·.path) := by
    rw [h]
    exact List.mem_cons_self
  obtain ⟨entry, hentry, hpath⟩ := List.mem_map.mp hmem
  have hclear := hnothing entry hentry "keys.pem" ⟨"notes.txt", hpath.trans (by decide)⟩
  rw [hkey] at hclear
  cases hclear

/-- The path of a key is sensitive, a file below it is not, and the planner selects it. -/
theorem planner_selects_below_key :
    isSensitivePath asciiUnicode "keys.pem" = true ∧
      isSensitivePath asciiUnicode ("keys.pem" ++ "/" ++ "notes.txt") = false ∧
      ∃ plan, planSourceBundle planEnv leakyRequest = .ok plan ∧
        ¬ SelectsNothingBelowSensitive planEnv.tools plan.manifest := by
  refine ⟨isSensitivePath_key, plans_sensitive.2.2.1, ?_⟩
  have hplan := plan_leaky
  cases hresult : planSourceBundle planEnv leakyRequest with
  | error e =>
    rw [hresult] at hplan
    cases hplan
  | ok plan =>
    rw [hresult] at hplan
    obtain ⟨hentries, -⟩ := Prod.mk.inj (Except.ok.inj hplan)
    exact ⟨plan, rfl, not_selectsNothing_of_key isSensitivePath_key hentries⟩

/-- Without that input every include root is clear, and everything below `target` is
    sensitive. -/
theorem sensitive_below_of_plain :
    (∀ rest, isSensitivePath asciiUnicode ("target" ++ "/" ++ rest) = true) ∧
      RootsClear planEnv plainRequest := by
  obtain ⟨hpaths, hplans⟩ := sensitive_below_iff planEnv fun _ _ => rfl
  obtain ⟨htarget, hcomponent, hdirectory⟩ := plans_sensitive.2.2.2
  constructor
  · exact (hpaths "target" htarget).mpr ⟨"target".toList, hcomponent, hdirectory⟩
  · have hplan := plan_plain
    cases hresult : planSourceBundle planEnv plainRequest with
    | error e =>
      rw [hresult] at hplan
      cases hplan
    | ok plan =>
      rw [hresult] at hplan
      have hentries : plan.manifest.entries.map (·.path) = ["lib.rs"] := Except.ok.inj hplan
      exact (hplans plainRequest plan hresult).mp (selectsNothing_of_lib hentries)

end Sample

end RustFerry.Source
