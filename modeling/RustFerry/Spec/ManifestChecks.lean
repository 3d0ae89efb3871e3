import RustFerry.Spec.SourcePaths

/-!
# Validated manifests

What `validate_source_manifest` accepts, as properties of the whole list of entries: the
order, the absence of files below files, the absence of collisions among all directories and
files, and the sums.
-/

namespace RustFerry.Source

open Except Snapshot

variable {unicode : Unicode} {path : String} {collisions : Collisions} {tools : SourceTools}
  {limits : SourceLimits}

/-! ## Ancestors of a path -/

theorem joinPath_isEmpty {path : FsPath} (hvalid : ValidPath path) :
    (joinPath path).isEmpty = path.isEmpty := by
  cases path with
  | nil => rfl
  | cons name path =>
    have hname : name ≠ [] := (hvalid name List.mem_cons_self).1
    obtain ⟨c, cs, rfl⟩ := List.exists_cons_of_ne_nil hname
    cases path <;> rfl

theorem mem_prefixesFrom {front names : FsPath} (hvalid : ValidPath front) {text : String}
    (hnames : ValidPath names) :
    text ∈ prefixesFrom (joinPath front) names ↔
      ∃ rest, rest ≠ [] ∧ rest <+: names ∧ text = displayRelativePath (front ++ rest) := by
  induction names generalizing front with
  | nil =>
    constructor
    · intro h
      cases h
    · intro hparts
      obtain ⟨rest, hrest, hnil, _⟩ := hparts
      exact absurd (List.prefix_nil.mp hnil) hrest
  | cons name names ih =>
    have hname := hnames name List.mem_cons_self
    -- the separator is left out at the front only
    have hjoin : (if (joinPath front).isEmpty then name else joinPath front ++ '/' :: name) =
        joinPath (front ++ [name]) := by
      rw [joinPath_isEmpty hvalid]
      cases hfront : front with
      | nil => rfl
      | cons first rest =>
        rw [joinPath_append (by simp) (by simp)]
        rfl
    rw [prefixesFrom, hjoin, List.mem_cons,
      ih (hvalid.append_singleton hname) fun n hn => hnames n (List.mem_cons_of_mem _ hn)]
    constructor
    · intro h
      rcases h with rfl | ⟨rest, hrest, hle, rfl⟩
      · refine ⟨[name], by simp, ⟨names, rfl⟩, ?_⟩
        rw [display_of_ne_nil (by simp)]
      · refine ⟨name :: rest, by simp, List.prefix_cons_inj _ |>.mpr hle, ?_⟩
        rw [List.append_assoc]
        rfl
    · intro hparts
      obtain ⟨rest, hrest, hle, htext⟩ := hparts
      cases rest with
      | nil => exact absurd rfl hrest
      | cons first rest =>
        obtain ⟨rfl, hrest'⟩ := List.cons_prefix_cons.mp hle
        by_cases hnil : rest = []
        · left
          rw [htext, hnil, display_of_ne_nil (by simp)]
        · right
          refine ⟨rest, hnil, hrest', ?_⟩
          rw [htext, List.append_assoc]
          rfl

/-- The ancestors of a path and the path itself are the prefixes of its components. -/
theorem mem_pathPrefixes {text : String} (hvalid : ValidPath (components path)) :
    text ∈ pathPrefixes path ↔
      ∃ front, front ≠ [] ∧ front <+: components path ∧ text = displayRelativePath front := by
  rw [pathPrefixes]
  exact @mem_prefixesFrom [] _ (fun _ h => nomatch h) text hvalid

theorem prefixesFrom_concat (front : List Char) (names : FsPath) (name : List Char) :
    ∃ last, prefixesFrom front (names ++ [name]) = prefixesFrom front names ++ [last] := by
  induction names generalizing front with
  | nil => exact ⟨_, rfl⟩
  | cons first names ih =>
    obtain ⟨last, hlast⟩ := ih (if front.isEmpty then first else front ++ '/' :: first)
    refine ⟨last, ?_⟩
    rw [List.cons_append, prefixesFrom, hlast]
    rfl

/-- The proper ancestors of a path. -/
theorem mem_pathPrefixes_dropLast {text : String} (hvalid : ValidPath (components path)) :
    text ∈ (pathPrefixes path).dropLast ↔
      ∃ front, front ≠ [] ∧ front <+: components path ∧ front ≠ components path ∧
        text = displayRelativePath front := by
  obtain ⟨names, name, hpath⟩ := List.eq_nil_or_concat _ |>.resolve_left (components_ne_nil path)
  rw [List.concat_eq_append] at hpath
  rw [hpath] at hvalid ⊢
  obtain ⟨last, hlast⟩ := prefixesFrom_concat [] names name
  have hnames : ValidPath names := hvalid.of_isPrefix (List.prefix_append _ _)
  rw [pathPrefixes, hpath, hlast, List.dropLast_concat]
  refine (@mem_prefixesFrom [] names (fun _ h => nomatch h) text hnames).trans ?_
  constructor
  · intro hparts
    obtain ⟨front, hfront, hle, htext⟩ := hparts
    refine ⟨front, hfront, hle.trans (List.prefix_append _ _), ?_, htext⟩
    intro heq
    have hlength := hle.length_le
    rw [heq, List.length_append, List.length_singleton] at hlength
    omega
  · intro hparts
    obtain ⟨front, hfront, hle, hproper, htext⟩ := hparts
    rcases List.prefix_concat_iff.mp hle with heq | hle
    · exact absurd heq hproper
    · exact ⟨front, hfront, hle, htext⟩

/-! ## Collisions -/

/-- A path that is registered under its key. -/
def Registered (unicode : Unicode) (collisions : Collisions) (path : String) : Prop :=
  collisions.lookup (collisionKey unicode path) = some path

/-- A key that is registered. -/
theorem registerCollisionKey_eq_ok {collisions' : Collisions}
    (h : registerCollisionKey unicode collisions path = .ok collisions') :
    Registered unicode collisions' path ∧
      ∀ other, Registered unicode collisions other → Registered unicode collisions' other := by
  unfold registerCollisionKey at h
  cases hlookup : collisions.lookup (collisionKey unicode path) with
  | some existing =>
    rw [hlookup] at h
    by_cases hsame : existing = path
    · rw [hsame] at hlookup
      simp only [hsame, bne_self_eq_false, Bool.false_eq_true, if_false] at h
      cases h
      exact ⟨hlookup, fun _ hother => hother⟩
    · simp only [bne_iff_ne, ne_eq, hsame, not_false_eq_true, if_true] at h
      cases h
  | none =>
    rw [hlookup] at h
    cases h
    refine ⟨?_, ?_⟩
    · rw [Registered, List.lookup_cons_self]
    · intro other hother
      -- a key that was there is another one
      have hne : (collisionKey unicode other == collisionKey unicode path) = false := by
        rw [beq_eq_false_iff_ne]
        intro hkey
        rw [Registered, hkey, hlookup] at hother
        cases hother
      rw [Registered, List.lookup_cons, hne]
      exact hother

/-- All prefixes of a path are registered. -/
theorem registerPathComponents_eq_ok {collisions' : Collisions}
    (h : registerPathComponents unicode collisions path = .ok collisions') :
    (∀ text ∈ pathPrefixes path, Registered unicode collisions' text) ∧
      ∀ other, Registered unicode collisions other → Registered unicode collisions' other := by
  have hstep : ∀ done text state state',
      ((∀ t ∈ done, Registered unicode state t) ∧
        ∀ other, Registered unicode collisions other → Registered unicode state other) →
      registerCollisionKey unicode state text = .ok state' →
      ((∀ t ∈ done ++ [text], Registered unicode state' t) ∧
        ∀ other, Registered unicode collisions other → Registered unicode state' other) := by
    intro done text state state' ⟨hdone, hold⟩ hregister
    obtain ⟨hnew, hkeep⟩ := registerCollisionKey_eq_ok hregister
    refine ⟨?_, fun other hother => hkeep other (hold other hother)⟩
    intro t ht
    rcases List.mem_append.mp ht with ht | ht
    · exact hkeep t (hdone t ht)
    · rw [List.mem_singleton.mp ht]
      exact hnew
  exact foldlM_through hstep ⟨fun _ h => absurd h List.not_mem_nil, fun _ h => h⟩ h

/-- No two of these paths have the same key. -/
def CollisionFree (unicode : Unicode) (paths : List String) : Prop :=
  ∀ a ∈ paths, ∀ b ∈ paths, collisionKey unicode a = collisionKey unicode b → a = b

theorem collisionFree_of_registered {paths : List String}
    (h : ∀ path ∈ paths, Registered unicode collisions path) :
    CollisionFree unicode paths := by
  intro a ha b hb hkey
  have hlookup := h a ha
  rw [Registered, hkey, h b hb] at hlookup
  exact (Option.some.inj hlookup).symm

/-- Every registered path is one of these, under its own key. -/
def RegistersOnly (unicode : Unicode) (collisions : Collisions) (paths : List String) : Prop :=
  ∀ key path, collisions.lookup key = some path → path ∈ paths ∧ key = collisionKey unicode path

/-- Paths without collisions can be registered. -/
theorem registerCollisionKey_of_collisionFree {paths : List String}
    (hfree : CollisionFree unicode paths) (honly : RegistersOnly unicode collisions paths)
    (hpath : path ∈ paths) :
    ∃ collisions', registerCollisionKey unicode collisions path = .ok collisions' ∧
      RegistersOnly unicode collisions' paths := by
  unfold registerCollisionKey
  cases hlookup : collisions.lookup (collisionKey unicode path) with
  | some existing =>
    obtain ⟨hexisting, hkey⟩ := honly _ _ hlookup
    have hsame : existing = path := hfree existing hexisting path hpath hkey.symm
    refine ⟨collisions, ?_, honly⟩
    simp [hsame]
  | none =>
    refine ⟨_, rfl, ?_⟩
    intro key other hother
    rw [List.lookup_cons] at hother
    split at hother
    · rename_i hkey
      cases hother
      exact ⟨hpath, beq_iff_eq.mp hkey⟩
    · exact honly key other hother

/-! ## Entries -/

/-- All directories and files that some entries need. -/
def allPaths (entries : List SourceManifestEntry) : List String :=
  entries.flatMap fun entry => pathPrefixes entry.path

/-- The checks on one entry by itself. -/
structure EntryOk (tools : SourceTools) (limits : SourceLimits) (entry : SourceManifestEntry) :
    Prop where
  portable : validatePortablePathStr tools.unicode entry.path false = .ok ()
  notSensitive : isSensitivePath tools.unicode entry.path = false
  depth : (components entry.path).length ≤ limits.maxDepth
  size : entry.size.toNat ≤ limits.maxFileSize.toNat

/-- The checks on all entries so far. -/
structure EntriesOk (tools : SourceTools) (limits : SourceLimits)
    (entries : List SourceManifestEntry) : Prop where
  each : ∀ entry ∈ entries, EntryOk tools limits entry
  sorted : entries.Pairwise fun a b => a.path < b.path
  separate : entries.Pairwise fun a b => a.path ∉ (pathPrefixes b.path).dropLast
  collisionFree : CollisionFree tools.unicode (allPaths entries)
  traversal : (entries.map fun entry => (components entry.path).length).sum ≤
    maxSourceTraversalEntries
  total : (entries.map fun entry => entry.size.toNat).sum ≤ limits.maxTotalSize.toNat

/-- Entries have valid paths. -/
theorem EntriesOk.validPath {entries : List SourceManifestEntry}
    (h : EntriesOk tools limits entries) {entry : SourceManifestEntry} (hentry : entry ∈ entries) :
    ValidPath (components entry.path) :=
  validPath_of_portable (h.each entry hentry).portable (.inl rfl)

/-- What the loop over the entries remembers of those it went through. -/
structure ManifestInv (tools : SourceTools) (limits : SourceLimits)
    (entries : List SourceManifestEntry) (state : ManifestState) : Prop where
  each : ∀ entry ∈ entries, EntryOk tools limits entry
  sorted : entries.Pairwise fun a b => a.path < b.path
  separate : entries.Pairwise fun a b => a.path ∉ (pathPrefixes b.path).dropLast
  previous : ∀ entry ∈ entries, ∃ previous ∈ state.previous, entry.path ≤ previous
  registered : ∀ path ∈ allPaths entries, Registered tools.unicode state.collisions path
  filePaths : ∀ entry ∈ entries, entry.path ∈ state.filePaths
  traversal : state.traversalEntries =
    (entries.map fun entry => (components entry.path).length).sum
  traversalLimit : state.traversalEntries ≤ maxSourceTraversalEntries
  total : state.totalSize = (entries.map fun entry => entry.size.toNat).sum
  totalLimit : state.totalSize ≤ limits.maxTotalSize.toNat

theorem ManifestInv.init {tools : SourceTools} {limits : SourceLimits} :
    ManifestInv tools limits [] .init := by
  constructor <;> simp [ManifestState.init, allPaths]

theorem ManifestInv.step {projectPath : String} {entries : List SourceManifestEntry}
    {entry : SourceManifestEntry} {state state' : ManifestState}
    (hinv : ManifestInv tools limits entries state)
    (h : validateManifestEntry tools limits projectPath state entry = .ok state') :
    ManifestInv tools limits (entries ++ [entry]) state' := by
  unfold validateManifestEntry at h
  simp only [check_bind_eq_ok] at h
  obtain ⟨hportable, hsensitive, hdepth, h⟩ := h
  obtain ⟨traversal, htraversal, h⟩ := bind_eq_ok.mp h
  obtain ⟨collisions, hcollisions, h⟩ := bind_eq_ok.mp h
  simp only [check_bind_eq_ok, rejectIf_eq_ok] at h
  obtain ⟨-, hancestor, hprevious, hsize, -, -, htotal, h⟩ := h
  cases h
  rw [consumeManifestTraversal, check_bind_eq_ok, rejectIf_eq_ok, decide_eq_false_iff_not]
    at htraversal
  obtain ⟨htraversalLimit, htraversal⟩ := htraversal
  cases htraversal
  obtain ⟨hregistered, hkeep⟩ := registerPathComponents_eq_ok hcollisions
  rw [rejectSensitive, rejectIf_eq_ok] at hsensitive
  rw [checkDepth, rejectIf_eq_ok, decide_eq_false_iff_not] at hdepth
  rw [decide_eq_false_iff_not, UInt64.not_lt, UInt64.le_iff_toNat_le] at hsize
  rw [decide_eq_false_iff_not] at htotal
  have hentry : EntryOk tools limits entry :=
    ⟨mapError_eq_ok.mp hportable, hsensitive, by omega, hsize⟩
  -- every path before is at most the previous one, which is smaller than the new one
  have hless : ∀ other ∈ entries, other.path < entry.path := by
    intro other hother
    obtain ⟨previous, hmem, hle⟩ := hinv.previous other hother
    have hlt : ¬ entry.path ≤ previous := by
      rw [hmem] at hprevious
      simpa using hprevious
    exact lt_of_le_of_lt hle (not_le.mp hlt)
  have hnot : ∀ other ∈ entries, other.path ∉ (pathPrefixes entry.path).dropLast := by
    intro other hother hmem
    have hany : hasFileAncestor entry.path state.filePaths = true := by
      rw [hasFileAncestor, List.any_eq_true]
      exact ⟨other.path, hmem, List.contains_iff_mem.mpr (hinv.filePaths other hother)⟩
    rw [hany] at hancestor
    cases hancestor
  refine ⟨?_, ?_, ?_, ?_, ?_, ?_, ?_, ?_, ?_, ?_⟩
  · intro other hother
    rcases List.mem_append.mp hother with hother | hother
    · exact hinv.each other hother
    · rw [List.mem_singleton.mp hother]
      exact hentry
  · exact List.pairwise_append.mpr ⟨hinv.sorted, List.pairwise_singleton _ _, by simpa using hless⟩
  · exact List.pairwise_append.mpr ⟨hinv.separate, List.pairwise_singleton _ _, by simpa using hnot⟩
  · intro other hother
    refine ⟨entry.path, rfl, ?_⟩
    rcases List.mem_append.mp hother with hother | hother
    · exact le_of_lt (hless other hother)
    · rw [List.mem_singleton.mp hother]
  · intro path hpath
    rw [allPaths, List.flatMap_append] at hpath
    rcases List.mem_append.mp hpath with hpath | hpath
    · exact hkeep path (hinv.registered path hpath)
    · exact hregistered path (by simpa using hpath)
  · intro other hother
    rcases List.mem_append.mp hother with hother | hother
    · exact List.mem_cons_of_mem _ (hinv.filePaths other hother)
    · rw [List.mem_singleton.mp hother]
      exact List.mem_cons_self
  · simp [hinv.traversal]
  · exact Nat.not_lt.mp htraversalLimit
  · simp [hinv.total]
  · exact Nat.not_lt.mp htotal

theorem ManifestInv.entriesOk {entries : List SourceManifestEntry} {state : ManifestState}
    (h : ManifestInv tools limits entries state) : EntriesOk tools limits entries where
  each := h.each
  sorted := h.sorted
  separate := h.separate
  collisionFree := collisionFree_of_registered h.registered
  traversal := h.traversal ▸ h.traversalLimit
  total := h.total ▸ h.totalLimit

/-- A check that is made only in some cases does not keep the rest from being made. -/
theorem skip_check {α : Type} {rest : Unit → SourceResult α} {check : SourceResult Unit} {c : Bool}
    {result : α} (h : (if c = true then check >>= rest else rest ()) = .ok result) :
    rest () = .ok result := by
  cases c with
  | false => exact h
  | true => exact (check_bind_eq_ok.mp h).2

/-- **Valid manifests**: what the checks on a manifest establish. -/
theorem validateSourceManifest_eq_ok {manifest : SourceManifest}
    (h : validateSourceManifest tools manifest limits = .ok ()) :
    manifest.schemaVersion = manifestSchemaVersion ∧
      manifest.entries.length ≤ limits.maxFileCount ∧
      EntriesOk tools limits manifest.entries ∧
      (manifest.entries.map fun entry => entry.size.toNat).sum = manifest.totalSize.toNat ∧
      manifestDigest tools manifest.projectPath manifest.entries manifest.totalSize =
        manifest.sha256 := by
  unfold validateSourceManifest at h
  rw [check_bind_eq_ok, check_bind_eq_ok, rejectIf_eq_ok, bne_eq_false_iff_eq] at h
  obtain ⟨hschema, -, h⟩ := h
  -- the check of the project path stands before the rest of the checks
  replace h := skip_check h
  simp only [check_bind_eq_ok, rejectIf_eq_ok] at h
  obtain ⟨-, hcount, h⟩ := h
  obtain ⟨state, hfold, h⟩ := bind_eq_ok.mp h
  simp only [check_bind_eq_ok, rejectIf_eq_ok, bne_eq_false_iff_eq] at h
  obtain ⟨htotal, -, hdigest⟩ := h
  have hinv : ManifestInv tools limits manifest.entries state :=
    foldlM_through (fun _ _ _ _ hinv hstep => hinv.step hstep) .init hfold
  rw [decide_eq_false_iff_not] at hcount
  exact ⟨hschema, Nat.not_lt.mp hcount, hinv.entriesOk, hinv.total ▸ htotal, hdigest⟩

end RustFerry.Source
