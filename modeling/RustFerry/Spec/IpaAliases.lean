import RustFerry.Spec.NestedVersions
import RustFerry.Spec.SourcePaths

/-!
# Aliases in an IPA

The inspection of an IPA compares the names of whole entries by their canonical keys. It does not
look at the directories that the names imply, and the name of a directory entry keeps its slash. So
two files with the same key are refused, but every alias that involves a directory goes unnoticed.
-/

namespace RustFerry.Artifact

open Except
open Source (joinPath joinPath_split)

section

variable {entry : ZipEntry} {entries : List ZipEntry} {tools : InspectionTools}

/-! ## Objects of an archive -/

/-- The components of the name of an entry, without the slash of a directory. -/
def ZipEntry.path (entry : ZipEntry) : List (List Char) :=
  Text.split '/' (Text.trimEndMatches ['/'] entry.name.toList.length entry.name.toList)

/-- The directories that an entry names or implies. -/
def ZipEntry.directories (entry : ZipEntry) : List (List (List Char)) :=
  entry.path.inits.filter fun front => front != [] && (entry.isDir || front != entry.path)

/-- The key of a file or directory. -/
def pathKey (tools : InspectionTools) (path : List (List Char)) : List Char :=
  canonicalArchiveKey tools (String.ofList (joinPath path))

theorem mem_directories {path : List (List Char)} :
    path ∈ entry.directories ↔
      path ≠ [] ∧ path <+: entry.path ∧ (entry.isDir = true ∨ path ≠ entry.path) := by
  simp only [ZipEntry.directories, List.mem_filter, List.mem_inits, Bool.and_eq_true,
    Bool.or_eq_true, bne_iff_ne]
  constructor
  · intro h
    exact ⟨h.2.1, h.1, h.2.2⟩
  · intro h
    exact ⟨h.2.1, h.1, h.2.2⟩

theorem path_ne_nil (entry : ZipEntry) : entry.path ≠ [] :=
  List.splitOnP_ne_nil _ _

/-- A prefix of the path of an entry is a directory, or the file itself. -/
theorem mem_directories_or_file {path : List (List Char)} (hne : path ≠ [])
    (hle : path <+: entry.path) :
    path ∈ entry.directories ∨ (entry.isDir = false ∧ path = entry.path) := by
  rw [mem_directories]
  by_cases hdir : entry.isDir = true
  · exact .inl ⟨hne, hle, .inl hdir⟩
  · by_cases hfull : path = entry.path
    · exact .inr ⟨by simpa using hdir, hfull⟩
    · exact .inl ⟨hne, hle, .inr hfull⟩

/-- The path of a file is its name. -/
theorem joinPath_path_of_file (h : entry.isDir = false) :
    joinPath entry.path = entry.name.toList := by
  have htrim : Text.trimEndMatches ['/'] entry.name.toList.length entry.name.toList =
      entry.name.toList := by
    cases hlength : entry.name.toList.length with
    | zero => rfl
    | succ n =>
      rw [Text.trimEndMatches]
      rw [ZipEntry.isDir] at h
      rw [h]
      rfl
  rw [ZipEntry.path, htrim, joinPath_split]

theorem pathKey_path_of_file (h : entry.isDir = false) :
    pathKey tools entry.path = canonicalArchiveKey tools entry.name := by
  rw [pathKey, joinPath_path_of_file h, String.ofList_toList]

/-! ## What the scan compares -/

/-- The names that were scanned have different keys. -/
structure ScanInv (tools : InspectionTools) (entries : List ZipEntry) (scan : ZipScan) :
    Prop where
  names : ∀ entry ∈ entries, entry.name ∈ scan.entries
  folded : ∀ entry ∈ entries, (canonicalArchiveKey tools entry.name, entry.name) ∈ scan.folded
  distinct : entries.Pairwise fun a b =>
    canonicalArchiveKey tools a.name ≠ canonicalArchiveKey tools b.name

/-- Nothing was scanned yet. -/
theorem ScanInv.init : ScanInv tools [] ⟨[], [], 0, []⟩ := by
  constructor <;> simp

/-- A scanned entry joins the others. -/
theorem ScanInv.step {scan scan' : ZipScan} (hinv : ScanInv tools entries scan)
    (h : scanZipEntry tools scan entry = .ok scan') :
    ScanInv tools (entries ++ [entry]) scan' := by
  unfold scanZipEntry at h
  simp only [check_bind_eq_ok, rejectIf_eq_ok] at h
  obtain ⟨-, hname, hfold, -, -, -, -, -, -, h⟩ := h
  have hscan : scan'.entries = entry.name :: scan.entries ∧
      scan'.folded = (canonicalArchiveKey tools entry.name, entry.name) :: scan.folded := by
    have hpure : ∀ {result : ArtifactResult Unit} {state : ZipScan},
        (result >>= fun _ => pure state) = .ok scan' → scan' = state := by
      intro result state hbind
      exact (Except.ok.inj (check_bind_eq_ok.mp hbind).2).symm
    split at h
    · split at h
      · cases h
      · rw [hpure h]
        exact ⟨rfl, rfl⟩
    · cases h
      exact ⟨rfl, rfl⟩
  -- the key was not seen, neither with this name nor with another one
  have hnew : ∀ other ∈ entries,
      canonicalArchiveKey tools other.name ≠ canonicalArchiveKey tools entry.name := by
    intro other hother hkey
    have hseen := List.any_eq_false.mp hfold _ (hinv.folded other hother)
    have hsame : other.name = entry.name := by simpa [hkey] using hseen
    have hcontains := List.contains_iff_mem.mpr (hinv.names other hother)
    rw [hsame, hname] at hcontains
    cases hcontains
  constructor
  · intro other hother
    rw [hscan.1]
    rcases List.mem_append.mp hother with hother | hother
    · exact List.mem_cons_of_mem _ (hinv.names other hother)
    · rw [List.mem_singleton.mp hother]
      exact List.mem_cons_self
  · intro other hother
    rw [hscan.2]
    rcases List.mem_append.mp hother with hother | hother
    · exact List.mem_cons_of_mem _ (hinv.folded other hother)
    · rw [List.mem_singleton.mp hother]
      exact List.mem_cons_self
  · apply List.pairwise_append.mpr
    exact ⟨hinv.distinct, List.pairwise_singleton _ _, by simpa using hnew⟩

/-- Accepted entries have different keys. -/
theorem inspectIpa_distinct {archive : ZipArchive} {expectation : IpaExpectation}
    {inspection : IpaInspection} (h : inspectIpa tools archive expectation = .ok inspection) :
    archive.entries.Pairwise fun a b =>
      canonicalArchiveKey tools a.name ≠ canonicalArchiveKey tools b.name := by
  unfold inspectIpa at h
  rw [check_bind_eq_ok] at h
  obtain ⟨scan, hscan, -⟩ := bind_eq_ok.mp h.2
  have hinv : ScanInv tools archive.entries scan :=
    foldlM_through (fun _ _ _ _ hinv hstep => hinv.step hstep) .init hscan
  exact hinv.distinct

/-- Entries with the same key are the same. -/
theorem eq_of_canonicalArchiveKey
    (h : entries.Pairwise fun a b => canonicalArchiveKey tools a.name ≠ canonicalArchiveKey tools
      b.name)
    {a b : ZipEntry} (ha : a ∈ entries) (hb : b ∈ entries)
    (hkey : canonicalArchiveKey tools a.name = canonicalArchiveKey tools b.name) : a = b := by
  have hnodup : (entries.map fun entry => canonicalArchiveKey tools entry.name).Nodup :=
    List.pairwise_map.mpr h
  exact List.inj_on_of_nodup_map hnodup ha hb hkey

/-! ## Aliases -/

/-- No two entries of an archive name the same file or directory, at any component and by any
spelling. -/
structure AliasFree (tools : InspectionTools) (entries : List ZipEntry) : Prop where
  spelled : ∀ a ∈ entries, ∀ b ∈ entries, ∀ p q : List (List Char), p ≠ [] → q ≠ [] →
    p <+: a.path → q <+: b.path → pathKey tools p = pathKey tools q → p = q
  distinct : entries.Pairwise fun a b => pathKey tools a.path ≠ pathKey tools b.path
  leaves : ∀ a ∈ entries, ∀ b ∈ entries, a.isDir = false → a.path <+: b.path → a = b

/-- The directories of an archive have different keys, also from those of the files, and no two
entries name the same directory. -/
structure DirectoriesSeparate (tools : InspectionTools) (entries : List ZipEntry) : Prop where
  directories : ∀ a ∈ entries, ∀ b ∈ entries, ∀ p ∈ a.directories, ∀ q ∈ b.directories,
    pathKey tools p = pathKey tools q → p = q
  files : ∀ a ∈ entries, ∀ b ∈ entries, ∀ q ∈ b.directories,
    pathKey tools a.path = pathKey tools q → a.isDir = true
  named : ∀ a ∈ entries, ∀ b ∈ entries, a.isDir = true → b.isDir = true → a.path = b.path →
    a.name = b.name

theorem AliasFree.directoriesSeparate (h : AliasFree tools entries) :
    DirectoriesSeparate tools entries := by
  have hsame : ∀ a ∈ entries, ∀ b ∈ entries, a.path = b.path → a = b := by
    intro a ha b hb hpath
    have hnodup : (entries.map fun entry => pathKey tools entry.path).Nodup :=
      List.pairwise_map.mpr h.distinct
    exact List.inj_on_of_nodup_map hnodup ha hb (congrArg _ hpath)
  constructor
  · intro a ha b hb p hp q hq hkey
    obtain ⟨hpne, hpa, -⟩ := mem_directories.mp hp
    obtain ⟨hqne, hqb, -⟩ := mem_directories.mp hq
    exact h.spelled a ha b hb p q hpne hqne hpa hqb hkey
  · intro a ha b hb q hq hkey
    obtain ⟨hqne, hqb, hdir⟩ := mem_directories.mp hq
    have hpath := h.spelled a ha b hb a.path q (path_ne_nil a) hqne (List.prefix_refl _) hqb hkey
    by_contra hfile
    -- the file is an ancestor of the other entry, so it is that entry, which is not a directory
    rw [← hpath] at hqb hdir
    obtain rfl := h.leaves a ha b hb (by simpa using hfile) hqb
    rcases hdir with hdir | hdir
    · exact hfile hdir
    · exact hdir rfl
  · intro a ha b hb _ _ hpath
    rw [hsame a ha b hb hpath]

theorem DirectoriesSeparate.aliasFree (h : DirectoriesSeparate tools entries)
    (hdistinct : entries.Pairwise fun a b => canonicalArchiveKey tools a.name ≠ canonicalArchiveKey
      tools b.name) :
    AliasFree tools entries := by
  -- files carry their keys in the archive's own key set
  have hfiles : ∀ a ∈ entries, ∀ b ∈ entries, a.isDir = false → b.isDir = false →
      pathKey tools a.path = pathKey tools b.path → a = b := by
    intro a ha b hb hafile hbfile hkey
    rw [pathKey_path_of_file hafile, pathKey_path_of_file hbfile] at hkey
    exact eq_of_canonicalArchiveKey hdistinct ha hb hkey
  -- a prefix is a directory, or the file itself
  have hspelled : ∀ a ∈ entries, ∀ b ∈ entries, ∀ p q : List (List Char), p ≠ [] → q ≠ [] →
      p <+: a.path → q <+: b.path → pathKey tools p = pathKey tools q → p = q := by
    intro a ha b hb p q hpne hqne hpa hqb hkey
    rcases mem_directories_or_file hpne hpa with hp | ⟨hafile, rfl⟩
    · rcases mem_directories_or_file hqne hqb with hq | ⟨hbfile, rfl⟩
      · exact h.directories a ha b hb p hp q hq hkey
      · have hdir := h.files b hb a ha p hp hkey.symm
        rw [hbfile] at hdir
        cases hdir
    · rcases mem_directories_or_file hqne hqb with hq | ⟨hbfile, rfl⟩
      · have hdir := h.files a ha b hb q hq hkey
        rw [hafile] at hdir
        cases hdir
      · rw [hfiles a ha b hb hafile hbfile hkey]
  have hleaves : ∀ a ∈ entries, ∀ b ∈ entries, a.isDir = false → a.path <+: b.path → a = b := by
    intro a ha b hb hafile hle
    rcases mem_directories_or_file (path_ne_nil a) hle with hq | ⟨hbfile, hpath⟩
    · have hdir := h.files a ha b hb a.path hq rfl
      rw [hafile] at hdir
      cases hdir
    · exact hfiles a ha b hb hafile hbfile (congrArg (pathKey tools) hpath)
  have hkeys : ∀ a ∈ entries, ∀ b ∈ entries,
      pathKey tools a.path = pathKey tools b.path → a = b := by
    intro a ha b hb hkey
    have hpath := hspelled a ha b hb a.path b.path (path_ne_nil a) (path_ne_nil b)
      (List.prefix_refl _) (List.prefix_refl _) hkey
    by_cases hafile : a.isDir = false
    · exact hleaves a ha b hb hafile (hpath ▸ List.prefix_refl _)
    · by_cases hbfile : b.isDir = false
      · exact (hleaves b hb a ha hbfile (hpath ▸ List.prefix_refl _)).symm
      · have hname := h.named a ha b hb (by simpa using hafile) (by simpa using hbfile) hpath
        exact eq_of_canonicalArchiveKey hdistinct ha hb
          (congrArg (canonicalArchiveKey tools) hname)
  refine ⟨hspelled, ?_, hleaves⟩
  apply hdistinct.imp_of_mem
  intro a b ha hb hne hkey
  obtain rfl := hkeys a ha b hb hkey
  exact hne rfl

/-- **Aliases**: an accepted archive is free of them exactly if its directories are separate. -/
theorem inspectIpa_aliasFree_iff (tools : InspectionTools) (archive : ZipArchive)
    (expectation : IpaExpectation) (inspection : IpaInspection)
    (h : inspectIpa tools archive expectation = .ok inspection) :
    AliasFree tools archive.entries ↔ DirectoriesSeparate tools archive.entries := by
  constructor
  · exact AliasFree.directoriesSeparate
  · intro hseparate
    exact hseparate.aliasFree (inspectIpa_distinct h)

end

namespace AliasSample

def info : Dictionary :=
  [("CFBundleIdentifier", .string "a.b"), ("CFBundleExecutable", .string "A"),
    ("MinimumOSVersion", .string "17.0")]

def tools : InspectionTools :=
  { Sample.readers "1.0" "1" with
    parsePlist := fun bytes =>
      if bytes = Sample.xmlPlist info then some (.dictionary info) else none }

def expectation : IpaExpectation where
  appDirectoryName := "A.app"
  bundleIdentifier := "a.b"
  executable := "A"
  appVersion := none
  buildNumber := none
  minimumOs := "17.0"
  nestedBundles := []
  provisioningRequired := false

/-- A regular file, stored without compression. -/
def file (name : String) (bytes : List UInt8) : ZipEntry where
  name
  unixMode := some 0o100644
  compressedSize := bytes.length
  size := bytes.length
  bytes := some bytes

def application : List ZipEntry :=
  [file "Payload/A.app/A" Sample.mainCode,
    file "Payload/A.app/Info.plist" (Sample.xmlPlist info)]

/-- An application with a file that is also a directory, and with directories that differ by
case. -/
def aliased : List ZipEntry :=
  application ++ [file "Payload/x" [], file "Payload/x/y" [], file "payload/z" []]

/-- Both archives are accepted; the directories of the first are separate, and in the second a
file is the directory of another one. -/
theorem archives_evaluate :
    ([application, aliased].all fun entries =>
      (inspectIpa tools ⟨[], entries⟩ expectation).toBool) = true ∧
    (∀ a ∈ application, ∀ b ∈ application, ∀ p ∈ a.directories, ∀ q ∈ b.directories,
      pathKey tools p = pathKey tools q → p = q) ∧
    (∀ a ∈ application, ∀ b ∈ application, ∀ q ∈ b.directories,
      pathKey tools a.path = pathKey tools q → a.isDir = true) ∧
    (∀ a ∈ application, ∀ b ∈ application, a.isDir = true → b.isDir = true → a.path = b.path →
      a.name = b.name) ∧
    (file "Payload/x" []).isDir = false ∧
    (file "Payload/x" []).path <+: (file "Payload/x/y" []).path := by
  decide +kernel

theorem archives_accepted :
    ([application, aliased].all fun entries =>
      (inspectIpa tools ⟨[], entries⟩ expectation).toBool) = true :=
  archives_evaluate.1

theorem application_separate : DirectoriesSeparate tools application :=
  ⟨archives_evaluate.2.1, archives_evaluate.2.2.1, archives_evaluate.2.2.2.1⟩

theorem application_aliasFree : AliasFree tools application := by
  have haccepted := List.all_eq_true.mp archives_accepted application List.mem_cons_self
  obtain ⟨inspection, h⟩ := exists_eq_ok_of_toBool haccepted
  exact (inspectIpa_aliasFree_iff tools ⟨[], application⟩ expectation inspection h).mpr
    application_separate

/-- The archive is accepted with a file below a file, and with two spellings of a directory. -/
theorem aliased_accepted :
    (∃ inspection, inspectIpa tools ⟨[], aliased⟩ expectation = .ok inspection) ∧
      ¬ AliasFree tools aliased := by
  have hmem : aliased ∈ [application, aliased] := List.mem_cons_of_mem _ List.mem_cons_self
  refine ⟨exists_eq_ok_of_toBool (List.all_eq_true.mp archives_accepted aliased hmem), ?_⟩
  intro h
  have hsame := h.leaves (file "Payload/x" []) (by simp [aliased]) (file "Payload/x/y" [])
    (by simp [aliased]) archives_evaluate.2.2.2.2.1 archives_evaluate.2.2.2.2.2
  exact absurd (congrArg ZipEntry.name hsame) (by decide)

end AliasSample

end RustFerry.Artifact
