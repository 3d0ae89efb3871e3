import RustFerry.Spec.SourceVerify

/-!
# Planned bundles and the receiving side

The receiver checks an archive entry by entry, extracts it, and scans every directory and file
of the result. All of its rules but one are implied by what the planner has checked: the
receiver also rejects a sensitive directory, and the planner checks the paths of files only.
-/

namespace RustFerry.Source

open Except Snapshot

section

variable {entry : SourceManifestEntry} {file : ZipFile} {archived : ZipEntry} {unicode : Unicode}
  {tools : SourceTools} {limits : SourceArchiveLimits}

/-! ## The ZIP format -/

/-- What the reader answers for a file that was written. -/
structure Records (file : ZipFile) (entry : ZipEntry) : Prop where
  nameRaw : entry.nameRaw = Text.utf8 file.name
  encrypted : entry.encrypted = false
  isDir : entry.isDir = (file.name.toList.getLast?.any fun c => c == '/' || c == '\\')
  isSymlink : entry.isSymlink = false
  unixMode : entry.unixMode = some (0o100000 ||| file.unixPermissions)
  lastModified : entry.lastModified = some file.lastModifiedTime
  comment : entry.comment = []
  extraData : entry.extraData.any (!·.isEmpty) = false
  size : entry.size = UInt64.ofNat file.data.length
  compressedSize : file.compressionMethod = .stored → entry.compressedSize = entry.size
  compression : entry.compression = file.compressionMethod
  data : entry.data = some file.data

/-- An archive that was written is read back. -/
def ZipLawful (zip : ZipTools) : Prop :=
  ∀ files bytes, zip.write files = some bytes → ∃ archive, zip.read bytes = some archive ∧
    archive.comment = [] ∧ List.Forall₂ Records files archive.entries

/-! ## What the archive of a plan holds -/

/-- The file that is written for an entry of the manifest. -/
structure Packs (host : Host) (workspace : FsPath) (sha256 : List UInt8 → String)
    (entry : SourceManifestEntry) (file : ZipFile) : Prop where
  name : file.name = entry.path
  stored : file.compressionMethod = .stored
  time : file.lastModifiedTime = .default
  permissions : file.unixPermissions = if entry.executable then 0o755 else 0o644
  size : file.data.length = entry.size.toNat
  digest : sha256 file.data = entry.sha256
  source : ∃ regular, host.lookup (workspace ++ components entry.path) = .file regular ∧
    regular.contents = some file.data

theorem verifiedZipEntry_eq_ok {host : Host} {modes : List (String × Bool)} {workspace : FsPath}
    {sha256 : List UInt8 → String}
    (h : verifiedZipEntry host modes ⟨workspace ++ components entry.path, entry.path⟩ entry sha256
      = .ok file) :
    Packs host workspace sha256 entry file := by
  unfold verifiedZipEntry at h
  cases hlookup : host.lookup (workspace ++ components entry.path) with
  | missing | inaccessible | symlink | special =>
    simp only [hlookup] at h
    cases h
  | directory entries =>
    simp only [hlookup] at h
    cases h
  | file regular =>
    simp only [hlookup] at h
    rw [check_bind_eq_ok, check_bind_eq_ok] at h
    obtain ⟨-, -, h⟩ := h
    cases hcontents : regular.contents with
    | none =>
      rw [hcontents] at h
      cases h
    | some contents =>
      rw [hcontents] at h
      simp only [check_bind_eq_ok, rejectIf_eq_ok, Bool.or_eq_false_iff, bne_eq_false_iff_eq] at h
      obtain ⟨-, ⟨hsize, hdigest⟩, h⟩ := h
      cases h
      exact ⟨rfl, rfl, rfl, rfl, hsize, hdigest, regular, hlookup, hcontents⟩

variable {env : PlanEnv} {request : SourceBundleRequest} {plan : SourceBundlePlan}

theorem plannedZipFiles_eq_ok (phases : PlanPhases env request plan) {files : List ZipFile}
    (h : plannedZipFiles env plan = .ok files) :
    List.Forall₂ (Packs env.host phases.roots.workspace env.tools.sha256) plan.manifest.entries
      files := by
  have hzip : plan.files.zip plan.manifest.entries = plan.manifest.entries.map fun entry =>
      ((⟨phases.roots.workspace ++ components entry.path, entry.path⟩ : PlannedSourceFile),
        entry) := by
    rw [phases.files_eq]
    induction plan.manifest.entries with
    | nil => rfl
    | cons entry entries ih => rw [List.map_cons, List.zip_cons_cons, ih, List.map_cons]
  rw [plannedZipFiles, hzip, mapM_eq_ok, List.forall₂_map_left_iff] at h
  refine h.imp ?_
  intro entry file hfile
  exact verifiedZipEntry_eq_ok (check_bind_eq_ok.mp hfile).2

/-- The contents of a planned file hold no credentials. -/
theorem Packs.harmless (phases : PlanPhases env request plan)
    (hentry : entry ∈ plan.manifest.entries) (hvalid : ValidPath (components entry.path))
    (h : Packs env.host phases.roots.workspace env.tools.sha256 entry file) :
    rejectSensitiveContents entry.path file.data = .ok () := by
  obtain ⟨root, hroot, -, path, regular, hreach, hlookup, executable, hof⟩ :=
    phases.selects.1 entry hentry
  have hpath : entry.path = displayRelativePath path := hof.path_eq
  have hvalidPath := hreach.validPath hroot
  have hne : path ≠ [] := by
    intro hnil
    rw [hpath, hnil] at hvalid
    exact (hvalid ['.'] (by decide)).2.2.1 rfl
  have hcomponents : components entry.path = path := by
    rw [hpath, components_display hvalidPath hne]
  -- both read the same file
  obtain ⟨contents, hcontents, -, -, hharmless⟩ := hof.contents_eq
  obtain ⟨regular', hlookup', hcontents'⟩ := h.source
  rw [hcomponents, hlookup] at hlookup'
  obtain rfl := Node.file.inj hlookup'
  rw [hcontents] at hcontents'
  cases hcontents'
  exact hharmless

/-! ## Preflight -/

/-- An archive entry for an entry of the manifest, with the file in between. -/
structure Transports (tools : SourceTools) (archived : ZipEntry) (item : Item) : Prop where
  nameRaw : archived.nameRaw = Text.utf8 item.1.path
  plain : archived.encrypted = false ∧ archived.isSymlink = false ∧ archived.comment = [] ∧
    archived.extraData.any (!·.isEmpty) = false
  isDir : archived.isDir = (item.1.path.toList.getLast?.any fun c => c == '/' || c == '\\')
  unixMode : archived.unixMode = some (0o100000 ||| if item.1.executable then 0o755 else 0o644)
  time : archived.lastModified = some .default
  size : archived.size = item.1.size
  stored : archived.compression = .stored ∧ archived.compressedSize = item.1.size
  carries : Carries tools.sha256 archived item
  harmless : rejectSensitiveContents item.1.path item.2 = .ok ()

theorem transports_of_records {host : Host} {workspace : FsPath}
    (hpacks : Packs host workspace tools.sha256 entry file) (hrecords : Records file archived)
    (hharmless : rejectSensitiveContents entry.path file.data = .ok ()) :
    Transports tools archived (entry, file.data) := by
  have hsize : archived.size = entry.size := by
    rw [hrecords.size, hpacks.size, UInt64.ofNat_toNat]
  exact {
    nameRaw := by rw [hrecords.nameRaw, hpacks.name]
    plain := ⟨hrecords.encrypted, hrecords.isSymlink, hrecords.comment, hrecords.extraData⟩
    isDir := by rw [hrecords.isDir, hpacks.name]
    unixMode := by rw [hrecords.unixMode, hpacks.permissions]
    time := by rw [hrecords.lastModified, hpacks.time]
    size := hsize
    stored := ⟨hrecords.compression.trans hpacks.stored,
      (hrecords.compressedSize hpacks.stored).trans hsize⟩
    carries := ⟨by rw [hrecords.nameRaw, hpacks.name], hrecords.data, hpacks.size, hpacks.digest⟩
    harmless := hharmless }

/-- A path whose components are names does not end with a separator. -/
theorem not_endsWithSeparator {path : String}
    (h : validatePortablePathStr unicode path false = .ok ()) :
    (path.toList.getLast?.any fun c => c == '/' || c == '\\') = false := by
  have hvalid := validPath_of_portable h (Or.inl rfl)
  have hbackslash : '\\' ∉ path.toList := by
    unfold validatePortablePathStr at h
    rw [if_neg (by simp)] at h
    simp only [check_bind_eq_ok, rejectIf_eq_ok] at h
    obtain ⟨-, -, -, -, -, hnone, -⟩ := h
    simpa using hnone
  rw [Bool.eq_false_iff]
  intro hany
  obtain ⟨c, hlast, hc⟩ := (Option.any_eq_true _ _).mp hany
  rw [Bool.or_eq_true, beq_iff_eq, beq_iff_eq] at hc
  rcases hc with rfl | rfl
  · -- the component after the last slash would be empty
    obtain ⟨front, hfront⟩ := List.getLast?_eq_some_iff.mp hlast
    have hempty : [] ∈ components path := by
      rw [components, hfront, Text.split]
      show [] ∈ (front ++ '/' :: []).splitOnP (· == '/')
      rw [List.splitOnP_append_cons _ _ rfl]
      exact List.mem_append_right _ (List.mem_singleton_self _)
    exact (hvalid [] hempty).1 rfl
  · exact hbackslash (List.mem_of_getLast? hlast)

/-- A transported entry passes the checks. -/
theorem checkZipEntry_eq_ok {item : Item} (htransports : Transports tools archived item)
    (hportable : validatePortablePathStr unicode item.1.path false = .ok ()) :
    checkZipEntry archived item.1.path = .ok (if item.1.executable then 0o755 else 0o644) := by
  obtain ⟨hencrypted, hsymlink, hcomment, hextra⟩ := htransports.plain
  have hdir : archived.isDir = false := by
    rw [htransports.isDir]
    exact not_endsWithSeparator hportable
  unfold checkZipEntry
  rw [htransports.unixMode, hencrypted, hsymlink, hdir, hcomment, hextra, htransports.time]
  cases item.1.executable <;> rfl

theorem compressionRatio_stored (hlimits : validateArchiveLimits limits = .ok ())
    (hsize : archived.compressedSize = archived.size) :
    (decide (archived.size > 0) &&
      decide (compressionRatio archived > limits.maxCompressionRatio.toNat)) = false := by
  rw [validateArchiveLimits, check_bind_eq_ok, rejectIf_eq_ok, beq_eq_false_iff_ne] at hlimits
  by_cases hzero : archived.size = 0
  · simp [hzero]
  · have hpositive : 0 < archived.size.toNat := by
      rw [Nat.pos_iff_ne_zero]
      intro hnat
      exact hzero (UInt64.toNat_inj.mp hnat)
    have hratio : compressionRatio archived = 1 := by
      rw [compressionRatio, hsize, if_neg (by simpa using hzero)]
      have htwice : archived.size.toNat + archived.size.toNat - 1 =
          archived.size.toNat * 1 + (archived.size.toNat - 1) := by
        omega
      rw [htwice, Nat.mul_add_div hpositive, Nat.div_eq_of_lt (by omega)]
    have hmaximum : 0 < limits.maxCompressionRatio.toNat := by
      rw [Nat.pos_iff_ne_zero]
      intro hnat
      exact hlimits.2 (UInt64.toNat_inj.mp hnat)
    rw [hratio, Bool.and_eq_false_iff]
    right
    rw [decide_eq_false_iff_not]
    omega

theorem registerPathComponents_of_collisionFree {collisions : Collisions} {paths : List String}
    (hfree : CollisionFree unicode paths) (honly : RegistersOnly unicode collisions paths)
    {path : String} (hpath : ∀ text ∈ pathPrefixes path, text ∈ paths) :
    ∃ collisions', registerPathComponents unicode collisions path = .ok collisions' ∧
      RegistersOnly unicode collisions' paths := by
  rw [registerPathComponents]
  apply @foldlM_progress _ _ _ _ _ _ (fun _ state => RegistersOnly unicode state paths) ?_ honly
  intro front text rest state hsplit hstate
  apply registerCollisionKey_of_collisionFree hfree hstate
  apply hpath
  rw [hsplit]
  exact List.mem_append_right _ List.mem_cons_self

/-- What the loop over the archive knows of the entries it went through. -/
structure PreflightInv (tools : SourceTools) (entries : List SourceManifestEntry)
    (done : List (ZipEntry × Item)) (state : PreflightState) : Prop where
  entries_eq : state.entries =
    done.map fun pair => ⟨pair.2.1.path, pair.2.1.size, pair.2.1.executable⟩
  exactPaths : ∀ path ∈ state.exactPaths, ∃ pair ∈ done, path = pair.2.1.path
  collisions : RegistersOnly tools.unicode state.collisions (allPaths entries)
  totalSize : state.totalSize = (done.map fun pair => pair.2.1.size.toNat).sum

/-- One entry of the archive passes, where the entries before have. -/
theorem PreflightInv.step {items : List Item} {done rest : List (ZipEntry × Item)}
    {pair : ZipEntry × Item} {state : PreflightState}
    (hlimits : validateArchiveLimits limits = .ok ())
    (hok : EntriesOk tools limits.source (entriesOf items))
    (hsplit : items = done.map (·.2) ++ pair.2 :: rest.map (·.2))
    (htransports : Transports tools pair.1 pair.2)
    (hinv : PreflightInv tools (entriesOf items) done state) :
    ∃ state', preflightEntry tools limits state pair.1 = .ok state' ∧
      PreflightInv tools (entriesOf items) (done ++ [pair]) state' := by
  obtain ⟨archived, item⟩ := pair
  dsimp only at hsplit htransports ⊢
  have hitem : item ∈ items := by
    rw [hsplit]
    exact List.mem_append_right _ List.mem_cons_self
  have hentry := hok.each item.1 (mem_entriesOf hitem)
  -- the path of an entry before is smaller
  have hfresh : state.exactPaths.contains item.1.path = false := by
    rw [Bool.eq_false_iff, ne_eq, List.contains_iff_mem]
    intro hmem
    obtain ⟨other, hother, hpath⟩ := hinv.exactPaths _ hmem
    have hsorted := hok.sorted
    rw [entriesOf, hsplit, List.map_append, List.map_cons] at hsorted
    have hlt := (List.pairwise_append.mp hsorted).2.2 other.2.1
      (List.mem_map_of_mem (List.mem_map_of_mem hother)) item.1 List.mem_cons_self
    rw [hpath] at hlt
    exact lt_irrefl _ hlt
  obtain ⟨collisions, hregister, honly⟩ :=
    registerPathComponents_of_collisionFree hok.collisionFree hinv.collisions (by
      intro text htext
      exact List.mem_flatMap.mpr ⟨item.1, mem_entriesOf hitem, htext⟩)
  -- the sizes so far are part of the sum of all sizes
  have hsum : state.totalSize + item.1.size.toNat ≤ limits.source.maxTotalSize.toNat := by
    have htotal := hok.total
    rw [entriesOf, hsplit, List.map_append, List.map_cons, List.map_append, List.map_cons,
      List.sum_append, List.sum_cons] at htotal
    have hdone : ((done.map (·.2)).map (·.1)).map (fun entry => entry.size.toNat) =
        done.map fun pair => pair.2.1.size.toNat := by
      rw [List.map_map, List.map_map]
      rfl
    rw [hdone] at htotal
    rw [hinv.totalSize]
    omega
  have hword := limits.source.maxTotalSize.toNat_lt
  have hratio := compressionRatio_stored hlimits
    (htransports.stored.2.trans htransports.size.symm)
  rw [htransports.size] at hratio
  have hstored : (archived.compression == .stored && archived.compressedSize != item.1.size) =
      false := by
    rw [htransports.stored.2, bne_self_eq_false, Bool.and_false]
  have hcompression : (archived.compression != .stored) = false := by
    rw [htransports.stored.1]
    rfl
  have hpermissions : ((if item.1.executable then 0o755 else 0o644) == 0o755) =
      item.1.executable := by
    cases item.1.executable <;> rfl
  refine ⟨⟨state.entries ++ [⟨item.1.path, item.1.size, item.1.executable⟩],
    item.1.path :: state.exactPaths, collisions, state.totalSize + item.1.size.toNat⟩, ?_, ?_⟩
  · unfold preflightEntry
    rw [htransports.nameRaw, Text.fromUtf8_utf8]
    dsimp only
    rw [check_bind_eq_ok, check_bind_eq_ok, check_bind_eq_ok, check_bind_eq_ok]
    refine ⟨mapError_eq_ok.mpr hentry.portable, rejectIf_eq_ok.mpr hentry.notSensitive, ?_,
      rejectIf_eq_ok.mpr hfresh, ?_⟩
    · rw [checkDepth, rejectIf_eq_ok, decide_eq_false_iff_not]
      exact Nat.not_lt.mpr hentry.depth
    · rw [bind_eq_ok]
      refine ⟨collisions, hregister, ?_⟩
      rw [bind_eq_ok]
      refine ⟨_, checkZipEntry_eq_ok htransports hentry.portable, ?_⟩
      simp only [check_bind_eq_ok, rejectIf_eq_ok, hratio, hstored, hcompression, hpermissions,
        htransports.size, decide_eq_false_iff_not, true_and]
      refine ⟨?_, ?_, ?_, rfl⟩
      · rw [UInt64.not_lt, UInt64.le_iff_toNat_le]
        exact hentry.size
      · omega
      · omega
  · constructor
    · rw [hinv.entries_eq, List.map_append, List.map_singleton]
    · intro path hpath
      rcases List.mem_cons.mp hpath with rfl | hpath
      · exact ⟨(archived, item), List.mem_append_right _ List.mem_cons_self, rfl⟩
      · obtain ⟨pair, hpair, heq⟩ := hinv.exactPaths path hpath
        exact ⟨pair, List.mem_append_left _ hpair, heq⟩
    · exact honly
    · rw [hinv.totalSize, List.map_append, List.map_singleton, List.sum_append, List.sum_singleton]

/-- The archive of a valid manifest passes the checks before extraction. -/
theorem preflightArchive_eq_ok {archive : ZipArchive} {manifest : SourceManifest}
    {items : List Item} (hlimits : validateArchiveLimits limits = .ok ())
    (hvalid : validateSourceManifest tools manifest limits.source = .ok ())
    (hitems : entriesOf items = manifest.entries) (hcomment : archive.comment = [])
    (htransports : List.Forall₂ (Transports tools) archive.entries items) :
    preflightArchive tools archive manifest limits = .ok () := by
  obtain ⟨-, hcount, hok, -, -⟩ := validateSourceManifest_eq_ok hvalid
  rw [← hitems] at hok
  have hlength : archive.entries.length ≤ limits.source.maxFileCount := by
    rw [← hitems, entriesOf, List.length_map] at hcount
    exact htransports.length_eq ▸ hcount
  have hfirst : (archive.entries.zip items).map (·.1) = archive.entries :=
    List.map_fst_zip (le_of_eq htransports.length_eq)
  have hsecond : (archive.entries.zip items).map (·.2) = items :=
    List.map_snd_zip (le_of_eq htransports.length_eq.symm)
  -- what the fold keeps, entry by entry of the archive
  obtain ⟨state, hfold, hinv⟩ := @foldlM_progress _ _ _ (archive.entries.zip items)
    (fun state pair => preflightEntry tools limits state pair.1) ⟨[], [], [], 0⟩
    (PreflightInv tools (entriesOf items)) (by
      intro done pair rest state hsplit hdone
      have hpair : pair ∈ archive.entries.zip items := by
        rw [hsplit]
        exact List.mem_append_right _ List.mem_cons_self
      have hitemsSplit : items = done.map (·.2) ++ pair.2 :: rest.map (·.2) := by
        rw [← hsecond, hsplit, List.map_append, List.map_cons]
      exact hdone.step hlimits hok hitemsSplit (List.forall₂_zip htransports hpair))
    ⟨rfl, (by intro _ h; cases h), (by intro _ _ h; cases h), rfl⟩
  unfold preflightArchive
  rw [check_bind_eq_ok, check_bind_eq_ok, rejectIf_eq_ok, rejectIf_eq_ok, hcomment]
  refine ⟨rfl, ?_, ?_⟩
  · rw [decide_eq_false_iff_not]
    exact Nat.not_lt.mpr hlength
  · rw [bind_eq_ok]
    refine ⟨state, ?_, ?_⟩
    · rw [← List.foldlM_map, hfirst] at hfold
      exact hfold
    · have hexpected : (archive.entries.zip items).map (fun pair =>
          (⟨pair.2.1.path, pair.2.1.size, pair.2.1.executable⟩ : ArchiveEntryMetadata)) =
          manifest.entries.map fun entry => ⟨entry.path, entry.size, entry.executable⟩ := by
        rw [← hitems, entriesOf, ← hsecond, List.map_map, List.map_map, hsecond]
        rfl
      rw [rejectIf_eq_ok, hinv.entries_eq, hexpected, bne_self_eq_false]

/-! ## The receiving side -/

/-- The receiver reads the archive, checks it, extracts it and verifies the result. -/
def Accepts (tools : SourceTools) (zip : ZipTools) (manifest : SourceManifest)
    (limits : SourceArchiveLimits) (bytes : List UInt8) : Prop :=
  ∃ archive tree, zip.read bytes = some archive ∧
    preflightArchive tools archive manifest limits = .ok () ∧
    extractEntries tools.sha256 archive manifest = .ok tree ∧
    verifyMaterializedCapability tools tree manifest limits.source = .ok ()

/-- What an archive is made of. -/
theorem createSourceBundleArchive_eq_ok {zip : ZipTools} {described : SourceArchive}
    {bytes : List UInt8}
    (h : createSourceBundleArchive env zip plan limits = .ok (described, bytes)) :
    validateArchiveLimits limits = .ok () ∧
      validateSourceManifest env.tools plan.manifest limits.source = .ok () ∧
      ∃ files, plannedZipFiles env plan = .ok files ∧ zip.write files = some bytes := by
  rw [createSourceBundleArchive, check_bind_eq_ok, check_bind_eq_ok, check_bind_eq_ok,
    check_bind_eq_ok] at h
  obtain ⟨hlimits, hvalid, -, -, h⟩ := h
  obtain ⟨files, hfiles, h⟩ := bind_eq_ok.mp h
  cases hwrite : zip.write files with
  | none =>
    rw [hwrite] at h
    cases h
  | some written =>
    rw [hwrite] at h
    obtain ⟨-, h⟩ := check_bind_eq_ok.mp h
    obtain ⟨-, rfl⟩ := Prod.mk.inj (Except.ok.inj h)
    exact ⟨hlimits, hvalid, files, hfiles, hwrite⟩

/-- The items of a plan, as they were written and as they are read. -/
theorem exists_items (phases : PlanPhases env request plan) {files : List ZipFile}
    {archived : List ZipEntry} {entries : List SourceManifestEntry}
    (hentries : ∀ entry ∈ entries, entry ∈ plan.manifest.entries)
    (hvalid : ∀ entry ∈ entries, ValidPath (components entry.path))
    (hpacks : List.Forall₂ (Packs env.host phases.roots.workspace env.tools.sha256) entries files)
    (hrecords : List.Forall₂ Records files archived) :
    ∃ items, entriesOf items = entries ∧ List.Forall₂ (Transports env.tools) archived items := by
  induction hpacks generalizing archived with
  | nil =>
    cases hrecords
    exact ⟨[], rfl, .nil⟩
  | @cons entry file entries files hpack hpacks ih =>
    cases hrecords with
    | cons hrecord hrecords =>
      obtain ⟨items, hitems, htransports⟩ :=
        ih (fun e he => hentries e (List.mem_cons_of_mem _ he))
          (fun e he => hvalid e (List.mem_cons_of_mem _ he)) hrecords
      have hharmless := hpack.harmless phases (hentries entry List.mem_cons_self)
        (hvalid entry List.mem_cons_self)
      refine ⟨(entry, file.data) :: items, ?_, .cons ?_ htransports⟩
      · rw [entriesOf, List.map_cons]
        exact congrArg _ hitems
      · exact transports_of_records hpack hrecord hharmless

/-- The directories of a bundle are the proper ancestors of its files. -/
theorem directoriesClear_iff {limits : SourceLimits} {items : List Item} {tree : Extracted}
    {manifest : SourceManifest} (hok : BundleOk tools limits items tree)
    (hitems : entriesOf items = manifest.entries) :
    DirectoriesClear tools tree ↔ SelectsNothingBelowSensitive tools manifest := by
  constructor
  · intro hclear entry hentry front hbelow
    rw [← hitems] at hentry
    have hvalid := hok.entries.validPath hentry
    obtain ⟨item, hitem, rfl⟩ := List.mem_map.mp hentry
    rw [← display_components item.1.path, isBelow_display_iff hvalid (components_ne_nil _)] at hbelow
    have hdirectory : (components front, .directory) ∈ tree :=
      (hok.materialized.mem _ _).mpr
        (Or.inr ⟨rfl, components_ne_nil front, item, hitem, hbelow.1, hbelow.2⟩)
    have hfront := hclear _ hdirectory
    rw [display_components] at hfront
    exact hfront
  · intro hnothing path hpath
    have hvalidPath := hok.validPath hpath
    rcases (hok.materialized.mem _ _).mp hpath with ⟨_, _, _, hnode⟩ |
      ⟨-, hne, item, hitem, hle, hproper⟩
    · cases hnode
    · have hvalid := hok.entries.validPath (mem_entriesOf hitem)
      apply hnothing item.1 (hitems ▸ mem_entriesOf hitem)
      rw [← display_components item.1.path, isBelow_display_iff hvalid (components_ne_nil _),
        components_display hvalidPath hne]
      exact ⟨hle, hproper⟩

/-- The archive of a plan is read back, checked and extracted, and only the verification of the
    result depends on the include roots. -/
theorem archive_received {zip : ZipTools} (hzip : ZipLawful zip) {described : SourceArchive}
    {bytes : List UInt8} (hplan : planSourceBundle env request = .ok plan)
    (hcreate : createSourceBundleArchive env zip plan limits = .ok (described, bytes)) :
    ∃ archive tree, zip.read bytes = some archive ∧
      preflightArchive env.tools archive plan.manifest limits = .ok () ∧
      extractEntries env.tools.sha256 archive plan.manifest = .ok tree ∧
      (verifyMaterializedCapability env.tools tree plan.manifest limits.source = .ok () ↔
        RootsClear env request) := by
  obtain ⟨phases⟩ := planSourceBundle_eq_ok hplan
  obtain ⟨hlimits, hvalid, files, hfiles, hwrite⟩ := createSourceBundleArchive_eq_ok hcreate
  obtain ⟨archive, hread, hcomment, hrecords⟩ := hzip files bytes hwrite
  obtain ⟨-, hcount, hentries, -, -⟩ := validateSourceManifest_eq_ok hvalid
  obtain ⟨items, hitems, htransports⟩ := exists_items phases (fun _ h => h)
    (fun _ h => hentries.validPath h) (plannedZipFiles_eq_ok phases hfiles) hrecords
  obtain ⟨tree, htree, hmaterialized⟩ := extractEntries_eq_ok hentries hitems
    (htransports.imp fun _ _ h => h.carries)
  -- what the receiver relies on, from what was sent
  have heach : ∀ item ∈ items, ∃ archived, Transports env.tools archived item := by
    intro item hitem
    exact htransports.exists_of_mem_right hitem
  have hok : BundleOk env.tools limits.source items tree := {
    entries := by rw [hitems]; exact hentries
    count := by rw [← hitems, entriesOf, List.length_map] at hcount; exact hcount
    size := fun item hitem => (heach item hitem).elim fun _ h => h.carries.size
    digest := fun item hitem => (heach item hitem).elim fun _ h => h.carries.digest
    harmless := fun item hitem => (heach item hitem).elim fun _ h => h.harmless
    materialized := hmaterialized }
  refine ⟨archive, tree, hread, ?_, htree, ?_⟩
  · exact preflightArchive_eq_ok hlimits hvalid hitems hcomment htransports
  · rw [verifyMaterialized_iff hok hitems hvalid, directoriesClear_iff hok hitems]
    exact ⟨rootsClear_of_selects phases, selects_of_rootsClear phases⟩

/-- **Acceptance**: the receiver accepts the archive of a plan, under the limits it was written
    with, exactly when every include root that leads to a file lies below no sensitive path. -/
theorem archive_accepted_iff (env : PlanEnv) (zip : ZipTools) (hzip : ZipLawful zip)
    (request : SourceBundleRequest) (plan : SourceBundlePlan) (limits : SourceArchiveLimits)
    (described : SourceArchive) (bytes : List UInt8)
    (hplan : planSourceBundle env request = .ok plan)
    (hcreate : createSourceBundleArchive env zip plan limits = .ok (described, bytes)) :
    Accepts env.tools zip plan.manifest limits bytes ↔ RootsClear env request := by
  obtain ⟨archive, tree, hread, hpreflight, htree, hiff⟩ := archive_received hzip hplan hcreate
  rw [← hiff]
  constructor
  · intro hparts
    obtain ⟨archive', tree', hread', _, htree', hverify⟩ := hparts
    obtain rfl := Option.some.inj (hread.symm.trans hread')
    obtain rfl := Except.ok.inj (htree.symm.trans htree')
    exact hverify
  · intro hverify
    exact ⟨archive, tree, hread, hpreflight, htree, hverify⟩

end

namespace Sample

/-- The archive of the empty file `lib.rs`. -/
def plainArchive : List UInt8 :=
  [80, 75, 3, 4, 10, 0, 0, 0, 0, 0, 0, 0, 33, 0, 0, 0, 0, 0, 0, 0, 0, 0, 0, 0, 0, 0, 6, 0, 0, 0,
    108, 105, 98, 46, 114, 115, 80, 75, 1, 2, 20, 3, 10, 0, 0, 0, 0, 0, 0, 0, 33, 0, 0, 0, 0, 0,
    0, 0, 0, 0, 0, 0, 0, 0, 6, 0, 0, 0, 0, 0, 0, 0, 0, 0, 0, 0, 164, 129, 0, 0, 0, 0, 108, 105,
    98, 46, 114, 115, 80, 75, 5, 6, 0, 0, 0, 0, 1, 0, 1, 0, 52, 0, 0, 0, 36, 0, 0, 0, 0, 0]

/-- The archive of the empty files `keys.pem/notes.txt` and `lib.rs`. -/
def leakyArchive : List UInt8 :=
  [80, 75, 3, 4, 10, 0, 0, 0, 0, 0, 0, 0, 33, 0, 0, 0, 0, 0, 0, 0, 0, 0, 0, 0, 0, 0, 18, 0, 0, 0,
    107, 101, 121, 115, 46, 112, 101, 109, 47, 110, 111, 116, 101, 115, 46, 116, 120, 116, 80, 75,
    3, 4, 10, 0, 0, 0, 0, 0, 0, 0, 33, 0, 0, 0, 0, 0, 0, 0, 0, 0, 0, 0, 0, 0, 6, 0, 0, 0, 108,
    105, 98, 46, 114, 115, 80, 75, 1, 2, 20, 3, 10, 0, 0, 0, 0, 0, 0, 0, 33, 0, 0, 0, 0, 0, 0, 0,
    0, 0, 0, 0, 0, 0, 18, 0, 0, 0, 0, 0, 0, 0, 0, 0, 0, 0, 164, 129, 0, 0, 0, 0, 107, 101, 121,
    115, 46, 112, 101, 109, 47, 110, 111, 116, 101, 115, 46, 116, 120, 116, 80, 75, 1, 2, 20, 3,
    10, 0, 0, 0, 0, 0, 0, 0, 33, 0, 0, 0, 0, 0, 0, 0, 0, 0, 0, 0, 0, 0, 6, 0, 0, 0, 0, 0, 0, 0, 0,
    0, 0, 0, 164, 129, 48, 0, 0, 0, 108, 105, 98, 46, 114, 115, 80, 75, 5, 6, 0, 0, 0, 0, 2, 0, 2,
    0, 116, 0, 0, 0, 84, 0, 0, 0, 0, 0]

/-- The digests of the two archives and of what they are made from. -/
def archiveSha256 (bytes : List UInt8) : String :=
  if bytes = plainArchive then
    "cdfbe902c0a97b24ce7da05d5972db56f7d3abc5ae528cd15e19ddfaeca20f63"
  else if bytes = leakyArchive then
    "6d20c1d978a61b94e3cd100dd6518f3732e663c6cfebe56146af3774e185ee81"
  else sourceSha256 bytes

def archiveEnv : PlanEnv := ⟨⟨asciiUnicode, archiveSha256⟩, host⟩

/-- An empty file that is stored. -/
def storedFile (name : String) : ZipFile := ⟨name, .stored, .default, 0o644, []⟩

/-- A file as it is read back. -/
def storedEntry (name : String) : ZipEntry where
  nameRaw := Text.utf8 name
  encrypted := false
  isDir := name.toList.getLast?.any fun c => c == '/' || c == '\\'
  isSymlink := false
  unixMode := some 0o100644
  lastModified := some .default
  comment := []
  extraData := none
  size := 0
  compressedSize := 0
  compression := .stored
  data := some []

def plainNames : List String := ["lib.rs"]

def leakyNames : List String := ["keys.pem/notes.txt", "lib.rs"]

/-- Writer and reader of the two archives. -/
def zipTools : ZipTools where
  write files :=
    if files = plainNames.map storedFile then some plainArchive
    else if files = leakyNames.map storedFile then some leakyArchive
    else none
  read bytes :=
    if bytes = plainArchive then some ⟨[], plainNames.map storedEntry⟩
    else if bytes = leakyArchive then some ⟨[], leakyNames.map storedEntry⟩
    else none

theorem records_stored (name : String) : Records (storedFile name) (storedEntry name) := by
  constructor
  case unixMode => exact (by decide : some 0o100644 = some (0o100000 ||| 0o644))
  case compressedSize => exact fun _ => rfl
  all_goals rfl

theorem zipTools_lawful : ZipLawful zipTools := by
  have hrecords : ∀ names : List String,
      List.Forall₂ Records (names.map storedFile) (names.map storedEntry) := by
    intro names
    rw [List.forall₂_map_left_iff, List.forall₂_map_right_iff, List.forall₂_same]
    exact fun name _ => records_stored name
  intro files bytes hwrite
  simp only [zipTools] at hwrite
  split_ifs at hwrite with hplain hleaky
  · cases hwrite
    exact ⟨⟨[], plainNames.map storedEntry⟩, rfl, rfl, hplain ▸ hrecords plainNames⟩
  · cases hwrite
    have hread : zipTools.read leakyArchive = some ⟨[], leakyNames.map storedEntry⟩ := by
      simp only [zipTools]
      rw [if_neg (by decide), if_pos trivial]
    exact ⟨_, hread, rfl, hleaky ▸ hrecords leakyNames⟩

/-- Plan and archive of a request. -/
def planAndArchive (request : SourceBundleRequest) :
    SourceResult (List String × List UInt8) := do
  let plan ← planSourceBundle archiveEnv request
  let archive ← createSourceBundleArchive archiveEnv zipTools plan .default
  return (plan.manifest.entries.map (·.path), archive.2)

theorem planAndArchive_eq_ok {request : SourceBundleRequest} {paths : List String}
    {bytes : List UInt8} (h : planAndArchive request = .ok (paths, bytes)) :
    ∃ plan described, planSourceBundle archiveEnv request = .ok plan ∧
      createSourceBundleArchive archiveEnv zipTools plan .default = .ok (described, bytes) ∧
      plan.manifest.entries.map (·.path) = paths := by
  rw [planAndArchive, bind_eq_ok] at h
  obtain ⟨plan, hplan, h⟩ := h
  obtain ⟨⟨described, written⟩, hcreate, h⟩ := bind_eq_ok.mp h
  obtain ⟨hpaths, rfl⟩ := Prod.mk.inj (Except.ok.inj h)
  exact ⟨plan, described, hplan, hcreate, hpaths⟩

theorem archives_written : planAndArchive leakyRequest = .ok (leakyNames, leakyArchive) ∧
    planAndArchive plainRequest = .ok (plainNames, plainArchive) := by
  decide +kernel

/-- The archive with a file below a directory with the name of a key is written and not
    accepted. -/
theorem archive_below_key_rejected :
    ∃ plan described, planSourceBundle archiveEnv leakyRequest = .ok plan ∧
      createSourceBundleArchive archiveEnv zipTools plan .default =
        .ok (described, leakyArchive) ∧
      ¬ Accepts archiveEnv.tools zipTools plan.manifest .default leakyArchive := by
  obtain ⟨plan, described, hplan, hcreate, hentries⟩ := planAndArchive_eq_ok archives_written.1
  refine ⟨plan, described, hplan, hcreate, ?_⟩
  intro hparts
  obtain ⟨archive, tree, hread, _, htree, hverify⟩ := hparts
  obtain ⟨archive', tree', hread', -, htree', hiff⟩ :=
    archive_received zipTools_lawful hplan hcreate
  obtain rfl := Option.some.inj (hread.symm.trans hread')
  obtain rfl := Except.ok.inj (htree.symm.trans htree')
  obtain ⟨phases⟩ := planSourceBundle_eq_ok hplan
  have hnothing := selects_of_rootsClear phases (hiff.mp hverify)
  exact not_selectsNothing_of_key isSensitivePath_key hentries hnothing

theorem archive_plain_accepted :
    ∃ plan described, planSourceBundle archiveEnv plainRequest = .ok plan ∧
      createSourceBundleArchive archiveEnv zipTools plan .default =
        .ok (described, plainArchive) ∧
      Accepts archiveEnv.tools zipTools plan.manifest .default plainArchive := by
  obtain ⟨plan, described, hplan, hcreate, hentries⟩ := planAndArchive_eq_ok archives_written.2
  refine ⟨plan, described, hplan, hcreate, ?_⟩
  apply (archive_accepted_iff archiveEnv zipTools zipTools_lawful plainRequest plan .default
    described plainArchive hplan hcreate).mpr
  obtain ⟨phases⟩ := planSourceBundle_eq_ok hplan
  exact rootsClear_of_selects phases (selectsNothing_of_lib hentries)

end Sample

end RustFerry.Source
