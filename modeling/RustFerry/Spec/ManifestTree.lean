import RustFerry.Spec.ManifestChecks

/-!
# The tree of a manifest

A manifest that is accepted describes a tree that can be materialized on a file system that
ignores case or normalizes names: its entries are the leaves, no two files or directories of it
share a name, and nothing is below a file. Its project path is not one of the files, but it may be
below one, or name one by another spelling.
-/

namespace RustFerry.Source

open Except Snapshot

/-! ## Order -/

theorem lt_append_cons (front rest : List Char) (c : Char) : front < front ++ c :: rest := by
  induction front with
  | nil => exact List.nil_lt_cons _ _
  | cons first front ih =>
    rw [List.cons_append, List.cons_lt_cons_iff]
    exact .inr ⟨rfl, ih⟩

/-- A proper ancestor of a path is smaller. -/
theorem lt_of_components_prefix {a b : String} (h : components a <+: components b)
    (hne : components a ≠ components b) : a < b := by
  obtain ⟨rest, hrest⟩ := h
  have hnonempty : rest ≠ [] := by
    rintro rfl
    rw [List.append_nil] at hrest
    exact hne hrest
  have htext : b.toList = a.toList ++ '/' :: joinPath rest := by
    have hjoin := joinPath_append (components_ne_nil a) hnonempty
    rw [hrest, components, components, joinPath_split, joinPath_split] at hjoin
    exact hjoin
  rw [String.lt_iff_toList_lt, htext]
  exact lt_append_cons _ _ _

/-! ## Tree -/

/-- What an accepted manifest says about the tree that it describes. -/
structure IsTree (tools : SourceTools) (limits : SourceLimits) (manifest : SourceManifest) :
    Prop where
  sorted : manifest.entries.Pairwise fun a b => a.path < b.path
  portable : ∀ entry ∈ manifest.entries,
    validatePortablePathStr tools.unicode entry.path false = .ok ()
  pathLength : ∀ entry ∈ manifest.entries, entry.path.utf8ByteSize ≤ maxPortablePathBytes
  segmentLength : ∀ entry ∈ manifest.entries, ∀ segment ∈ components entry.path,
    (String.ofList segment).utf8ByteSize ≤ maxPortableSegmentBytes
  notSensitive : ∀ entry ∈ manifest.entries, isSensitivePath tools.unicode entry.path = false
  depth : ∀ entry ∈ manifest.entries, (components entry.path).length ≤ limits.maxDepth
  total : (manifest.entries.map fun entry => entry.size.toNat).sum = manifest.totalSize.toNat
  totalLimit : manifest.totalSize ≤ limits.maxTotalSize
  separate : ∀ a ∈ manifest.entries, ∀ b ∈ manifest.entries,
    components a.path <+: components b.path → a.path = b.path
  collisionFree : ∀ a ∈ manifest.entries, ∀ b ∈ manifest.entries, ∀ p q : FsPath,
    p ≠ [] → q ≠ [] → p <+: components a.path → q <+: components b.path →
    collisionKey tools.unicode (displayRelativePath p) =
      collisionKey tools.unicode (displayRelativePath q) → p = q

theorem pathLength_of_portable {unicode : Unicode} {path : String}
    (h : validatePortablePathStr unicode path false = .ok ()) :
    path.utf8ByteSize ≤ maxPortablePathBytes := by
  unfold validatePortablePathStr at h
  rw [if_neg (by simp)] at h
  simp only [check_bind_eq_ok, rejectIf_eq_ok, decide_eq_false_iff_not] at h
  exact Nat.not_lt.mp h.2.1

theorem segmentLength_of_portable {unicode : Unicode} {path : String}
    (h : validatePortablePathStr unicode path false = .ok ()) {segment : List Char}
    (hsegment : segment ∈ components path) :
    (String.ofList segment).utf8ByteSize ≤ maxPortableSegmentBytes := by
  have hvalid := forM_validateSegment_of_portable h (.inl rfl) segment hsegment
  unfold validateSegment at hvalid
  simp only [check_bind_eq_ok, rejectIf_eq_ok, decide_eq_false_iff_not] at hvalid
  exact Nat.not_lt.mp hvalid.2.2.1

variable {limits : SourceLimits}

/-- An entry that is an ancestor of another one is that entry. -/
theorem EntriesOk.eq_of_prefix {tools : SourceTools}
    {entries : List SourceManifestEntry} (h : EntriesOk tools limits entries)
    {a b : SourceManifestEntry} (ha : a ∈ entries) (hb : b ∈ entries)
    (hle : components a.path <+: components b.path) : a.path = b.path := by
  by_contra hne
  have hcomponents : components a.path ≠ components b.path := by
    intro heq
    apply hne
    rw [← display_components a.path, heq, display_components]
  have hlt := lt_of_components_prefix hle hcomponents
  -- the ancestor stands before, so it was among the files when the other entry was checked
  have hmem : a.path ∈ (pathPrefixes b.path).dropLast := by
    rw [mem_pathPrefixes_dropLast (h.validPath hb)]
    exact ⟨components a.path, components_ne_nil _, hle, hcomponents, (display_components _).symm⟩
  have hordered : entries.Pairwise fun x y =>
      x.path < y.path ∧ x.path ∉ (pathPrefixes y.path).dropLast := by
    exact List.pairwise_and_iff.mpr ⟨h.sorted, h.separate⟩
  have hpair : ∀ x ∈ entries, ∀ y ∈ entries, x.path < y.path →
      x.path ∉ (pathPrefixes y.path).dropLast := by
    intro x hx y hy
    have hfront : entries.Pairwise fun x y =>
        x.path < y.path → x.path ∉ (pathPrefixes y.path).dropLast := by
      apply hordered.imp
      intro x y hxy _
      exact hxy.2
    have hback : entries.Pairwise (flip fun x y =>
        x.path < y.path → x.path ∉ (pathPrefixes y.path).dropLast) := by
      apply hordered.imp
      intro x y hxy hless
      exact absurd (lt_trans hxy.1 hless) (lt_irrefl _)
    apply hfront.forall_of_forall_of_flip _ hback hx hy
    intro x _ hless
    exact absurd hless (lt_irrefl _)
  exact hpair a ha b hb hlt hmem

/-- Two files or directories of the tree with the same key are the same. -/
theorem EntriesOk.eq_of_collisionKey {tools : SourceTools}
    {entries : List SourceManifestEntry} (h : EntriesOk tools limits entries)
    {a b : SourceManifestEntry} (ha : a ∈ entries) (hb : b ∈ entries) {p q : FsPath}
    (hp : p ≠ []) (hq : q ≠ []) (hpa : p <+: components a.path) (hqb : q <+: components b.path)
    (hkey : collisionKey tools.unicode (displayRelativePath p) =
      collisionKey tools.unicode (displayRelativePath q)) : p = q := by
  have hmem : ∀ {c : SourceManifestEntry} {r : FsPath}, c ∈ entries → r ≠ [] →
      r <+: components c.path → displayRelativePath r ∈ allPaths entries := by
    intro c r hc hr hrc
    apply List.mem_flatMap.mpr
    refine ⟨c, hc, (mem_pathPrefixes (h.validPath hc)).mpr ⟨r, hr, hrc, rfl⟩⟩
  have hsame := h.collisionFree _ (hmem ha hp hpa) _ (hmem hb hq hqb) hkey
  exact display_injective ((h.validPath ha).of_isPrefix hpa) ((h.validPath hb).of_isPrefix hqb)
    hsame

/-- **Accepted manifests describe trees** that can be materialized. -/
theorem validateSourceManifest_isTree (tools : SourceTools) (limits : SourceLimits)
    (manifest : SourceManifest) (h : validateSourceManifest tools manifest limits = .ok ()) :
    IsTree tools limits manifest := by
  obtain ⟨-, -, hentries, htotal, -⟩ := validateSourceManifest_eq_ok h
  exact {
    sorted := hentries.sorted
    portable := fun entry hentry => (hentries.each entry hentry).portable
    pathLength := fun entry hentry => pathLength_of_portable (hentries.each entry hentry).portable
    segmentLength := fun entry hentry _ hsegment =>
      segmentLength_of_portable (hentries.each entry hentry).portable hsegment
    notSensitive := fun entry hentry => (hentries.each entry hentry).notSensitive
    depth := fun entry hentry => (hentries.each entry hentry).depth
    total := htotal
    totalLimit := by
      rw [UInt64.le_iff_toNat_le, ← htotal]
      exact hentries.total
    separate := fun a ha b hb => hentries.eq_of_prefix ha hb
    collisionFree := fun a ha b hb p q => hentries.eq_of_collisionKey ha hb }

namespace Sample

def unicode : Unicode where
  nfc := id
  charToLowercase c := [c.toLower]
  toLowercase text := text.map Char.toLower

/-- Source tools for one manifest, whose digest this is. -/
def tools (digest : String) : SourceTools := ⟨unicode, fun _ => digest⟩

/-- A file with the text `x`. -/
def file (path : String) : SourceManifestEntry where
  path
  size := 1
  sha256 := "2d711642b726b04401627ca9fbac32f5c8530fb1903cc4db02258717921a4881"
  executable := false

def applicationDigest : String :=
  "f2755ffbf48477bcaf797e5937a617f0ad5adfe2ad1d46aaa6cc792dba84ffa1"

def application : SourceManifest where
  schemaVersion := 1
  projectPath := "app"
  entries := [file "app/ferry.toml", file "lib/a.rs"]
  totalSize := 2
  sha256 := applicationDigest

def nestedDigest : String :=
  "b6c2beffb499831e02296e5ca12c244544b9905491c90becc9fc5e46e545dc17"

/-- A manifest with its project path below a file. -/
def nested : SourceManifest where
  schemaVersion := 1
  projectPath := "a/b"
  entries := [file "a"]
  totalSize := 1
  sha256 := nestedDigest

theorem manifests_valid :
    validateSourceManifest (tools applicationDigest) application .default = .ok () ∧
      validateSourceManifest (tools nestedDigest) nested .default = .ok () := by
  decide +kernel

theorem application_valid :
    validateSourceManifest (tools applicationDigest) application .default = .ok () :=
  manifests_valid.1

theorem validateSourceManifest_isTree_application :
    IsTree (tools applicationDigest) .default application :=
  validateSourceManifest_isTree _ _ _ application_valid

end Sample

/-! ## Project path -/

/-- No entry is the project path or an ancestor of it, by any spelling. -/
def ProjectIsDirectory (unicode : Unicode) (manifest : SourceManifest) : Prop :=
  manifest.projectPath ≠ "." → ∀ entry ∈ manifest.entries, ∀ front : FsPath,
    front ≠ [] → front <+: components manifest.projectPath →
    collisionKey unicode entry.path ≠ collisionKey unicode (displayRelativePath front)

/-- The project path is below no entry. -/
def ProjectBelowNoFile (manifest : SourceManifest) : Prop :=
  hasFileAncestor manifest.projectPath (manifest.entries.map SourceManifestEntry.path) = false

/-- An entry with the key of the project path or of an ancestor of it is spelled the same. -/
def ProjectSpelledSame (unicode : Unicode) (manifest : SourceManifest) : Prop :=
  ∀ entry ∈ manifest.entries, ∀ text ∈ pathPrefixes manifest.projectPath,
    collisionKey unicode entry.path = collisionKey unicode text → entry.path = text

instance (manifest : SourceManifest) : Decidable (ProjectBelowNoFile manifest) :=
  inferInstanceAs (Decidable (_ = _))

instance (unicode : Unicode) (manifest : SourceManifest) :
    Decidable (ProjectSpelledSame unicode manifest) :=
  inferInstanceAs (Decidable (∀ entry ∈ manifest.entries,
    ∀ text ∈ pathPrefixes manifest.projectPath, _ = _ → _ = _))

/-- No prefix of the project path is a file. -/
theorem projectBelowNoFile_iff {manifest : SourceManifest} :
    ProjectBelowNoFile manifest ↔ ∀ entry ∈ manifest.entries,
      entry.path ∉ (pathPrefixes manifest.projectPath).dropLast := by
  rw [ProjectBelowNoFile, hasFileAncestor, List.any_eq_false]
  simp only [List.contains_iff_mem, List.mem_map, not_exists, not_and]
  constructor
  · intro h entry hentry hmem
    exact h _ hmem entry hentry rfl
  · intro h text htext entry hentry heq
    rw [← heq] at htext
    exact h entry hentry htext

theorem validateManifestEntry_ne {tools : SourceTools}
    {projectPath : String} {state state' : ManifestState} {entry : SourceManifestEntry}
    (h : validateManifestEntry tools limits projectPath state entry = .ok state') :
    entry.path ≠ projectPath := by
  unfold validateManifestEntry at h
  simp only [check_bind_eq_ok] at h
  obtain ⟨-, -, -, h⟩ := h
  obtain ⟨_, -, h⟩ := bind_eq_ok.mp h
  obtain ⟨_, -, h⟩ := bind_eq_ok.mp h
  simp only [check_bind_eq_ok, rejectIf_eq_ok] at h
  exact beq_eq_false_iff_ne.mp h.1

/-- What an accepted manifest says about its project path. -/
theorem validateSourceManifest_project {tools : SourceTools}
    {manifest : SourceManifest} (h : validateSourceManifest tools manifest limits = .ok ()) :
    validatePortablePathStr tools.unicode manifest.projectPath true = .ok () ∧
      ∀ entry ∈ manifest.entries, entry.path ≠ manifest.projectPath := by
  unfold validateSourceManifest at h
  rw [check_bind_eq_ok, check_bind_eq_ok] at h
  obtain ⟨-, hportable, h⟩ := h
  obtain ⟨state, hfold⟩ : ∃ state, manifest.entries.foldlM
      (validateManifestEntry tools limits manifest.projectPath) .init = .ok state := by
    have hrest := skip_check h
    simp only [check_bind_eq_ok] at hrest
    obtain ⟨state, hfold, -⟩ := bind_eq_ok.mp hrest.2.2
    exact ⟨state, hfold⟩
  refine ⟨mapError_eq_ok.mp hportable, ?_⟩
  have hstep : ∀ (done : List SourceManifestEntry) (entry : SourceManifestEntry)
      (state state' : ManifestState),
      (∀ other ∈ done, other.path ≠ manifest.projectPath) →
      validateManifestEntry tools limits manifest.projectPath state entry = .ok state' →
      ∀ other ∈ done ++ [entry], other.path ≠ manifest.projectPath := by
    intro done entry state state' hdone hentry other hother
    rcases List.mem_append.mp hother with hother | hother
    · exact hdone other hother
    · rw [List.mem_singleton.mp hother]
      exact validateManifestEntry_ne hentry
  have hnil : ∀ other ∈ ([] : List SourceManifestEntry), other.path ≠ manifest.projectPath := by
    simp
  exact foldlM_through hstep hnil hfold

/-- **When the project path can be a directory** of the tree of an accepted manifest. -/
theorem validateSourceManifest_project_iff (tools : SourceTools) (limits : SourceLimits)
    (manifest : SourceManifest) (h : validateSourceManifest tools manifest limits = .ok ()) :
    ProjectIsDirectory tools.unicode manifest ↔
      manifest.projectPath = "." ∨
        (ProjectBelowNoFile manifest ∧ ProjectSpelledSame tools.unicode manifest) := by
  obtain ⟨hportable, hne⟩ := validateSourceManifest_project h
  by_cases hdot : manifest.projectPath = "."
  · simp [ProjectIsDirectory, hdot]
  · have hvalid : ValidPath (components manifest.projectPath) :=
      validPath_of_portable hportable (.inr hdot)
    rw [or_iff_right hdot, projectBelowNoFile_iff]
    constructor
    · intro hdirectory
      constructor
      · intro entry hentry hmem
        obtain ⟨front, hfront, hle, -, htext⟩ := (mem_pathPrefixes_dropLast hvalid).mp hmem
        exact hdirectory hdot entry hentry front hfront hle (congrArg _ htext)
      · intro entry hentry text htext hkey
        obtain ⟨front, hfront, hle, rfl⟩ := (mem_pathPrefixes hvalid).mp htext
        exact absurd hkey (hdirectory hdot entry hentry front hfront hle)
    · intro hparts
      obtain ⟨hbelow, hspelled⟩ := hparts
      intro _ entry hentry front hfront hle hkey
      have hmem : displayRelativePath front ∈ pathPrefixes manifest.projectPath :=
        (mem_pathPrefixes hvalid).mpr ⟨front, hfront, hle, rfl⟩
      have hsame := hspelled entry hentry _ hmem hkey
      -- the entry is the project path, which is checked, or a proper ancestor of it
      by_cases hfull : front = components manifest.projectPath
      · apply hne entry hentry
        rw [hsame, hfull, display_components]
      · apply hbelow entry hentry
        exact (mem_pathPrefixes_dropLast hvalid).mpr ⟨front, hfront, hle, hfull, hsame⟩

namespace Sample

theorem application_below_spelled :
    ProjectBelowNoFile application ∧ ProjectSpelledSame unicode application := by
  decide

theorem validateSourceManifest_project_application :
    ProjectIsDirectory unicode application :=
  (validateSourceManifest_project_iff _ _ _ application_valid).mpr
    (.inr application_below_spelled)

theorem project_below_file :
    validateSourceManifest (tools nestedDigest) nested .default = .ok () ∧
      ¬ ProjectIsDirectory unicode nested := by
  refine ⟨manifests_valid.2, ?_⟩
  intro hdirectory
  have hprefix : components "a" <+: components "a/b" := ⟨[['b']], by decide⟩
  have hkey := hdirectory (by decide) (file "a") List.mem_cons_self (components "a") (by decide)
    hprefix
  rw [display_components] at hkey
  exact hkey rfl

end Sample

end RustFerry.Source
