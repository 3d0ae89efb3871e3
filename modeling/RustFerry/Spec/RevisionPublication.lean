import RustFerry.Native.RevisionPublication
import RustFerry.Spec.RevisionScan

/-!
# Faults and crashes of a publication

A publication takes its directory through four stages: nothing, a staging file, both names
of the file, the revision. Whatever fails, and wherever it stops, it is in one of them, and
recovery ends either with the old chain or with the revision.
-/

namespace RustFerry.JobStore

open Remote Github Except Serde ProgM

variable {tools : StoreTools}

section

variable {parsed : Nat × String} {e : JobStoreError} {name : String} {call : FileCall}
  {view : PublicationView}

/-! ## Names -/

/-- What a suffix was removed from. -/
theorem stripBack_eq_some {back text front : List Char} (h : stripBack back text = some front) :
    text = front ++ back := by
  rw [stripBack] at h
  split at h
  · rename_i hsuffix
    obtain ⟨rest, rfl⟩ := hsuffix
    cases h
    simp
  · cases h

theorem splitOnce_eq_some {separator : Char} {text front back : List Char}
    (h : splitOnce separator text = some (front, back)) : ∃ c, text = front ++ c :: back := by
  rw [splitOnce, List.span_eq_takeWhile_dropWhile] at h
  have htext := List.takeWhile_append_dropWhile (p := (· != separator)) (l := text)
  cases hdrop : text.dropWhile (· != separator) with
  | nil =>
    rw [hdrop] at h
    cases h
  | cons c rest =>
    rw [hdrop] at h htext
    obtain ⟨rfl, rfl⟩ := Prod.mk.inj (Option.some.inj h)
    exact ⟨c, htext.symm⟩

/-- The name of a revision begins with a digit and ends like JSON. -/
theorem shape_of_parse (h : parseRevisionFilename name = .ok parsed) :
    ∃ digit rest, digit.isDigit = true ∧ name.toList = digit :: rest ++ ".json".toList := by
  rw [parseRevisionFilename] at h
  split at h
  · cases h
  · rename_i stem hstem
    split at h
    · cases h
    · rename_i digits sha256 hsplit
      rw [check_bind_eq_ok, rejectIf_eq_ok, Bool.or_eq_false_iff, Bool.or_eq_false_iff,
        bne_eq_false_iff_eq, Bool.not_eq_false', List.all_eq_true] at h
      obtain ⟨⟨⟨hlength, hall⟩, -⟩, -⟩ := h
      obtain ⟨c, rfl⟩ := splitOnce_eq_some hsplit
      cases digits with
      | nil => exact absurd hlength (by decide)
      | cons digit digits =>
        refine ⟨digit, digits ++ c :: sha256, hall digit List.mem_cons_self, ?_⟩
        rw [stripBack_eq_some hstem, List.cons_append]

/-- A revision is not taken for a staging file. -/
theorem passed_over_of_parse (h : parseRevisionFilename name = .ok parsed) :
    (".revision-".toList.isPrefixOf name.toList || hasTmpExtension name) = false := by
  obtain ⟨digit, rest, hdigit, hname⟩ := shape_of_parse h
  rw [Bool.or_eq_false_iff]
  constructor
  · rw [hname, Bool.eq_false_iff]
    intro hprefix
    have hhead : '.' = digit := (List.cons_prefix_cons.mp (List.isPrefixOf_iff_prefix.mp hprefix)).1
    rw [← hhead] at hdigit
    exact absurd hdigit (by decide)
  · rw [hasTmpExtension, Option.any_eq_false]
    intro stem hstem
    have hlast := congrArg List.getLast? (hname.symm.trans (stripBack_eq_some hstem))
    have hn : (digit :: rest ++ ".json".toList).getLast? = some 'n' := by
      rw [show ".json".toList = ".jso".toList ++ ['n'] from rfl, ← List.append_assoc,
        List.getLast?_concat]
    have hp : (stem ++ ".tmp".toList).getLast? = some 'p' := by
      rw [show ".tmp".toList = ".tm".toList ++ ['p'] from rfl, ← List.append_assoc,
        List.getLast?_concat]
    rw [hn, hp] at hlast
    exact absurd hlast (by decide)

theorem stagingName_of_parse {staging : List String} {index : Nat}
    (h : parseRevisionFilename name = .ok parsed) (hindex : index + 1 ≤ maxRevisionsPerJob * 2) :
    stagingName staging name index = .ok staging := by
  rw [stagingName, passed_over_of_parse h, check_bind_eq_ok, rejectIf_eq_ok,
    decide_eq_false_iff_not, not_lt]
  exact ⟨hindex, rfl⟩

theorem stagingName_of_isStaging {staging : List String} {index : Nat}
    (h : isRevisionStagingName name = true) (hindex : index + 1 ≤ maxRevisionsPerJob * 2) :
    stagingName staging name index = .ok (staging ++ [name]) := by
  have hprefix : ".revision-".toList.isPrefixOf name.toList = true := by
    rw [isRevisionStagingName, Text.stripFront] at h
    by_contra hnot
    rw [if_neg hnot] at h
    exact absurd h Bool.false_ne_true
  rw [stagingName, hprefix, check_bind_eq_ok, rejectIf_eq_ok, decide_eq_false_iff_not, not_lt]
  refine ⟨hindex, ?_⟩
  rw [Bool.true_or, if_pos rfl, check_bind_eq_ok, rejectIf_eq_ok, h]
  exact ⟨rfl, rfl⟩

/-- The name of a staging file is not the name of a revision. -/
theorem parse_of_isStaging (h : isRevisionStagingName name = true) :
    ∃ error, parseRevisionFilename name = .error error := by
  cases hparse : parseRevisionFilename name with
  | error error => exact ⟨error, rfl⟩
  | ok parsed =>
    have hname : stagingName [] name 0 = .ok [name] := stagingName_of_isStaging h (by decide)
    rw [stagingName_of_parse hparse (by decide)] at hname
    cases hname

theorem isStaging_of_parse (h : parseRevisionFilename name = .ok parsed) :
    isRevisionStagingName name = false := by
  rw [Bool.eq_false_iff]
  intro hstaging
  obtain ⟨error, herror⟩ := parse_of_isStaging hstaging
  rw [h] at herror
  cases herror

/-- Among revisions and staging files the loop collects the staging files. -/
theorem foldlM_stagingName {names found : List String} {k : Nat}
    (hnames : ∀ name ∈ names,
      (∃ parsed, parseRevisionFilename name = .ok parsed) ∨ isRevisionStagingName name = true)
    (hlength : k + names.length ≤ maxRevisionsPerJob * 2) :
    (names.zipIdx k).foldlM (fun staging (name, index) => stagingName staging name index) found =
      .ok (found ++ names.filter isRevisionStagingName) := by
  induction names generalizing found k with
  | nil => simp [pure, Except.pure]
  | cons name names ih =>
    rw [List.length_cons] at hlength
    have hindex : k + 1 ≤ maxRevisionsPerJob * 2 := by omega
    have hrest := fun n hn => hnames n (List.mem_cons_of_mem _ hn)
    rw [List.zipIdx_cons, List.foldlM_cons, bind_eq_ok]
    obtain ⟨parsed, hparsed⟩ | hstaging := hnames name List.mem_cons_self
    · refine ⟨found, stagingName_of_parse hparsed hindex, ?_⟩
      rw [ih hrest (by omega), List.filter_cons_of_neg]
      rw [isStaging_of_parse hparsed]
      exact Bool.false_ne_true
    · refine ⟨found ++ [name], stagingName_of_isStaging hstaging hindex, ?_⟩
      rw [ih hrest (by omega), List.filter_cons_of_pos hstaging, List.append_assoc]
      rfl

/-! ## Publications -/

/-- What an operation of the store hands to its publication: an accepted directory whose files
    have one name each, and a file that continues its chain. -/
structure Publication (tools : StoreTools) where
  old : UnixDirectory
  entries : List RevisionEntry
  scanned : scanRevisionFiles tools old.revisions = .ok entries
  single : (old.entries.map (·.inode)).Nodup
  staging : String
  isStaging : isRevisionStagingName staging = true
  entry : RevisionEntry
  record : StoredJobV1
  bytes : List UInt8
  target : RevisionDirectory
  created : publishCreateOnly old.revisions ⟨entry.name, bytes⟩ = .ok target
  rescanned : scanRevisionFiles tools target = .ok (entries ++ [entry])
  reread : readDecodedRevision tools target entry =
    .ok ⟨record, jobRevisionSchemaVersion, bytes⟩

variable {entries : List RevisionEntry}

namespace Publication

variable {tools : StoreTools} (P : Publication tools)

/-- The file that the publication creates. -/
def inode : Nat := P.old.nextInode

/-- The names of a scanned directory are no staging names. -/
theorem notStaging_of_scan {directory : RevisionDirectory}
    (h : scanRevisionFiles tools directory = .ok entries) :
    ∀ file ∈ directory.files, isRevisionStagingName file.name = false := by
  obtain ⟨chain, haccepted⟩ := scan_eq_ok_iff.mp h
  obtain ⟨raw, hraw, -⟩ := haccepted.files
  intro file hmem
  obtain ⟨i, hi, rfl⟩ := List.getElem_of_mem hmem
  exact (hraw.get hi (hraw.length_eq ▸ hi)).notStaging

theorem target_owner : P.target.owner = P.old.owner := (publishCreateOnly_eq_ok P.created).1

theorem target_files : P.target.files = P.old.revisions.files ++ [⟨P.entry.name, P.bytes⟩] :=
  (publishCreateOnly_eq_ok P.created).2.1

theorem final_not_mem : P.entry.name ∉ P.old.entries.map (·.name) := by
  have hfree := (publishCreateOnly_eq_ok P.created).2.2
  rw [UnixDirectory.revisions, List.map_map] at hfree
  exact hfree

theorem final_notStaging : isRevisionStagingName P.entry.name = false := by
  apply notStaging_of_scan P.rescanned ⟨P.entry.name, P.bytes⟩
  rw [P.target_files]
  exact List.mem_append_right _ (List.mem_singleton_self _)

theorem staging_ne_final : P.staging ≠ P.entry.name := by
  intro heq
  have hfinal := P.final_notStaging
  rw [← heq, P.isStaging] at hfinal
  exact absurd hfinal (by decide)

theorem staging_not_mem : P.staging ∉ P.old.entries.map (·.name) := by
  intro hmem
  obtain ⟨entry, hentry, hname⟩ := List.mem_map.mp hmem
  have hfile : (⟨entry.name, P.old.contents entry.inode⟩ : RevisionFile) ∈ P.old.revisions.files :=
    List.mem_map_of_mem hentry
  have hnot := notStaging_of_scan P.scanned _ hfile
  rw [hname, P.isStaging] at hnot
  exact absurd hnot (by decide)

theorem old_parses (h : name ∈ P.old.entries.map (·.name)) :
    ∃ parsed, parseRevisionFilename name = .ok parsed := by
  obtain ⟨entry, hentry, rfl⟩ := List.mem_map.mp h
  obtain ⟨chain, haccepted⟩ := scan_eq_ok_iff.mp P.scanned
  obtain ⟨raw, hraw, -⟩ := haccepted.files
  have hfile : (⟨entry.name, P.old.contents entry.inode⟩ : RevisionFile) ∈ P.old.revisions.files :=
    List.mem_map_of_mem hentry
  obtain ⟨i, hi, hget⟩ := List.getElem_of_mem hfile
  have hparsed := (hraw.get hi (hraw.length_eq ▸ hi)).parsed
  rw [List.get_eq_getElem, hget] at hparsed
  exact ⟨_, hparsed⟩

theorem final_parses :
    parseRevisionFilename P.entry.name = .ok (P.entry.revision, P.entry.sha256) := by
  obtain ⟨chain, haccepted⟩ := scan_eq_ok_iff.mp P.rescanned
  obtain ⟨raw, hraw, hperm⟩ := haccepted.files
  have hmem : P.entry ∈ raw :=
    hperm.mem_iff.mpr (List.mem_append_right _ (List.mem_singleton_self _))
  obtain ⟨i, hi, hget⟩ := List.getElem_of_mem hmem
  have hscanned := hraw.get (hraw.length_eq ▸ hi) hi
  rw [List.get_eq_getElem, List.get_eq_getElem, hget] at hscanned
  rw [hscanned.name]
  exact hscanned.parsed

/-- There is room for the new names below the bound of a directory. -/
theorem length_old : P.old.entries.length + 1 ≤ maxRevisionsPerJob := by
  obtain ⟨chain, haccepted⟩ := scan_eq_ok_iff.mp P.rescanned
  have hbound := haccepted.bound
  rw [P.target_files, List.length_append, UnixDirectory.revisions, List.length_map] at hbound
  exact hbound

end Publication

theorem revisionDirectory_ext {a b : RevisionDirectory} (howner : a.owner = b.owner)
    (hfiles : a.files = b.files) : a = b := by
  cases a
  cases b
  cases howner
  cases hfiles
  rfl

/-- Every revision that an operation of the store publishes is such a publication. -/
theorem exists_publication {old : UnixDirectory}
    {record : StoredJobV1} {result : RevisionDirectory} {staging : String}
    (hscan : scanRevisionFiles tools old.revisions = .ok entries)
    (hsingle : (old.entries.map (·.inode)).Nodup) (hstaging : isRevisionStagingName staging = true)
    (hpublished : PublishedRevision tools old.revisions entries record result) :
    ∃ P : Publication tools, P.old = old ∧ P.staging = staging ∧ P.record = record ∧
      P.target = result := by
  obtain ⟨entry, bytes, hfiles, hrescan, hreread, -⟩ := hpublished.appended
  have hfree : entry.name ∉ old.revisions.files.map (·.name) := by
    have hdistinct := result.distinct
    rw [hfiles, List.map_append, List.nodup_append] at hdistinct
    intro hmem
    exact hdistinct.2.2 _ hmem _ (List.mem_singleton_self _) rfl
  have hcreated : publishCreateOnly old.revisions ⟨entry.name, bytes⟩ = .ok result := by
    rw [publishCreateOnly, dif_neg hfree]
    exact congrArg Except.ok (revisionDirectory_ext hpublished.owner.symm hfiles.symm)
  let P : Publication tools := {
    old, entries, staging, entry, record, bytes
    scanned := hscan
    single := hsingle
    isStaging := hstaging
    target := result
    created := hcreated
    rescanned := hrescan
    reread := hreread }
  exact ⟨P, rfl, rfl, rfl, rfl⟩

/-! ## Stages -/

/-- How far a publication is: the staging file has bytes, has its final name too, or only its
    final name. -/
inductive Stage where
  | untouched
  | staged
  | linked
  | published
  deriving DecidableEq

/-- The stage without the staging name. -/
def Stage.unstaged : Stage → Stage
  | .untouched | .staged => .untouched
  | .linked | .published => .published

namespace Publication

variable {tools : StoreTools} (P : Publication tools)

/-- The names that a stage adds to the directory. -/
def links : Stage → List DirectoryLink
  | .untouched => []
  | .staged => [⟨P.staging, P.inode⟩]
  | .linked => [⟨P.staging, P.inode⟩, ⟨P.entry.name, P.inode⟩]
  | .published => [⟨P.entry.name, P.inode⟩]

/-- A directory in a stage of the publication. -/
structure At (stage : Stage) (directory : UnixDirectory) : Prop where
  owner : directory.owner = P.old.owner
  entries : directory.entries = P.old.entries ++ P.links stage
  contents : ∀ inode < P.inode, directory.contents inode = P.old.contents inode
  written : stage = .linked ∨ stage = .published → directory.contents P.inode = P.bytes
  inodeUsed : stage = .staged → P.inode < directory.nextInode

/-- Before the publication. -/
theorem at_old : P.At .untouched P.old where
  owner := rfl
  entries := (List.append_nil _).symm
  contents := fun _ _ => rfl
  written := by simp
  inodeUsed := by simp

section At

variable {P} {stage : Stage} {directory : UnixDirectory}

/-- What a new name leads to. -/
theorem At.inodeOf (h : P.At stage directory) {name : String}
    (hname : name ∉ P.old.entries.map (·.name)) :
    directory.inodeOf name =
      ((P.links stage).find? fun entry => entry.name == name).map (·.inode) := by
  have hnone : P.old.entries.find? (fun entry => entry.name == name) = none := by
    apply List.find?_eq_none.mpr
    intro entry hmem heq
    exact hname (beq_iff_eq.mp heq ▸ List.mem_map_of_mem hmem)
  rw [UnixDirectory.inodeOf, h.entries, List.find?_append, hnone, Option.none_or]

/-- What the staging name leads to. -/
theorem At.inodeOf_staging (h : P.At stage directory) :
    directory.inodeOf P.staging =
      if stage = .staged ∨ stage = .linked then some P.inode else none := by
  have hne : (P.entry.name == P.staging) = false := beq_eq_false_iff_ne.mpr P.staging_ne_final.symm
  rw [h.inodeOf P.staging_not_mem]
  cases stage <;> simp [links, hne]

/-- What the final name leads to. -/
theorem At.inodeOf_final (h : P.At stage directory) :
    directory.inodeOf P.entry.name =
      if stage = .linked ∨ stage = .published then some P.inode else none := by
  have hne : (P.staging == P.entry.name) = false := beq_eq_false_iff_ne.mpr P.staging_ne_final
  rw [h.inodeOf P.final_not_mem]
  cases stage <;> simp [links, hne]

theorem countP_old : P.old.entries.countP (fun entry => entry.inode == P.inode) = 0 := by
  rw [List.countP_eq_zero]
  intro entry hmem
  have hused := P.old.used entry hmem
  simp only [beq_iff_eq]
  exact Nat.ne_of_lt hused

/-- The names of the file in every stage. -/
theorem At.links_inode (h : P.At stage directory) :
    directory.links P.inode = (P.links stage).length := by
  rw [UnixDirectory.links, h.entries, List.countP_append, countP_old, Nat.zero_add]
  cases stage <;> simp [Publication.links]

/-- An old file keeps its one name. -/
theorem At.links_old (h : P.At stage directory) {entry : DirectoryLink}
    (hmem : entry ∈ P.old.entries) : directory.links entry.inode = 1 := by
  have hne : entry.inode ≠ P.inode := Nat.ne_of_lt (P.old.used entry hmem)
  have hnew : (P.links stage).countP (fun other => other.inode == entry.inode) = 0 := by
    cases stage <;> simp [Publication.links, hne.symm]
  have hold : P.old.entries.countP (fun other => other.inode == entry.inode) = 1 := by
    have hcount := List.count_eq_one_of_mem P.single (List.mem_map_of_mem hmem)
    rw [List.count_eq_countP, List.countP_map] at hcount
    exact hcount
  rw [UnixDirectory.links, h.entries, List.countP_append, hold, hnew]

/-- The revisions at a stage. -/
theorem At.files (h : P.At stage directory) : directory.revisions.files =
    P.old.revisions.files ++ (P.links stage).map fun entry =>
      ⟨entry.name, directory.contents P.inode⟩ := by
  have hold : P.old.entries.map (fun entry =>
      (⟨entry.name, directory.contents entry.inode⟩ : RevisionFile)) = P.old.revisions.files := by
    apply List.map_congr_left
    intro entry hmem
    rw [h.contents entry.inode (P.old.used entry hmem)]
  show directory.entries.map _ = _
  rw [h.entries, List.map_append, hold]
  cases stage <;> rfl

theorem At.revisions_untouched (h : P.At .untouched directory) :
    directory.revisions = P.old.revisions :=
  revisionDirectory_ext h.owner (h.files.trans (List.append_nil _))

/-- In the end they are the new ones. -/
theorem At.revisions_published (h : P.At .published directory) :
    directory.revisions = P.target := by
  apply revisionDirectory_ext (h.owner.trans P.target_owner.symm)
  rw [h.files, P.target_files, h.written (.inr rfl)]
  rfl

/-- What the scan reads of files with one name is what it reads of the directory. -/
theorem scanRevisionFiles_of_single {directory : UnixDirectory}
    (hsingle : ∀ entry ∈ directory.entries, directory.links entry.inode = 1)
    (h : JobStore.scanRevisionFiles tools directory.revisions = .ok entries) :
    directory.scanRevisionFiles tools = .ok entries := by
  obtain ⟨raw, hraw, hchain⟩ := bind_eq_ok.mp h
  refine bind_eq_ok.mpr ⟨raw, mapM_eq_ok.mpr ?_, hchain⟩
  have hall := mapM_eq_ok.mp hraw
  rw [show directory.revisions.files = directory.entries.map _ from rfl, List.zipIdx_map,
    List.forall₂_map_left_iff] at hall
  have hlinks : ∀ p ∈ directory.entries.zipIdx, directory.links p.1.inode = 1 :=
    fun p hmem => hsingle p.1 (List.fst_mem_of_mem_zipIdx hmem)
  apply ((List.forall₂_and_left _ _).mpr ⟨hlinks, hall⟩).imp
  intro slot found hparts
  obtain ⟨entry, index⟩ := slot
  obtain ⟨hone, hfound⟩ := hparts
  -- the only further check is the number of names
  simp only [JobStore.scanEntry, UnixDirectory.scanEntry, Prod.map_apply, id_eq, check_bind_eq_ok]
    at hfound ⊢
  obtain ⟨hindex, hstaging, hrest⟩ := hfound
  obtain ⟨parsed, hparsed, hrest⟩ := bind_eq_ok.mp hrest
  obtain ⟨hsize, hentry⟩ := check_bind_eq_ok.mp hrest
  refine ⟨hindex, hstaging, bind_eq_ok.mpr ⟨parsed, hparsed, ?_⟩⟩
  exact check_bind_eq_ok.mpr ⟨by simp [hone], check_bind_eq_ok.mpr ⟨hsize, hentry⟩⟩

/-- Between stages no file has two names. -/
theorem At.links_eq_one (h : P.At stage directory) (hstage : stage ≠ .linked) :
    ∀ entry ∈ directory.entries, directory.links entry.inode = 1 := by
  intro entry hmem
  rw [h.entries] at hmem
  cases List.mem_append.mp hmem with
  | inl hold => exact h.links_old hold
  | inr hnew =>
    have hinode : entry.inode = P.inode := by
      cases stage <;> simp_all [Publication.links]
    rw [hinode, h.links_inode]
    cases stage <;> simp_all [Publication.links]

theorem At.scan_untouched (h : P.At .untouched directory) :
    directory.scanRevisionFiles tools = .ok P.entries :=
  scanRevisionFiles_of_single (h.links_eq_one (by decide)) (h.revisions_untouched ▸ P.scanned)

theorem At.scan_published (h : P.At .published directory) :
    directory.scanRevisionFiles tools = .ok (P.entries ++ [P.entry]) :=
  scanRevisionFiles_of_single (h.links_eq_one (by decide)) (h.revisions_published ▸ P.rescanned)

/-- The new revision is read back. -/
theorem At.read_published (h : P.At .published directory) :
    directory.readDecodedRevision tools P.entry =
      .ok ⟨P.record, jobRevisionSchemaVersion, P.bytes⟩ := by
  have hreread := P.reread
  rw [← h.revisions_published] at hreread
  obtain ⟨previous, hprevious, hread⟩ := bind_eq_ok.mp hreread
  refine bind_eq_ok.mpr ⟨previous, hprevious, check_bind_eq_ok.mpr ⟨?_, hread⟩⟩
  have hinode : directory.inodeOf P.entry.name = some P.inode := by
    rw [h.inodeOf_final, if_pos (Or.inr rfl)]
  rw [hinode, Option.any_some, h.links_inode]
  rfl

/-- The new revision is bounded, has its digest in its name, and decodes after its predecessor. -/
theorem reread_parts : P.bytes.length ≤ maxJobRevisionBytes ∧
    tools.sha256 P.bytes = P.entry.sha256 ∧
    ∃ previous, previousRevisionSha256 P.target P.entry.revision = .ok previous ∧
      (decodeRevisionBytes tools P.bytes P.entry.revision previous).toBool = true := by
  obtain ⟨previous, hprevious, hread⟩ := bind_eq_ok.mp P.reread
  obtain ⟨file, hfind, hsize, hsha256, hdecode⟩ := readDecodedRevisionWithPrevious_eq_ok.mp hread
  have hfile := (find_of_publish P.created).1
  rw [hfind] at hfile
  rw [Option.some.inj hfile] at hsize hsha256 hdecode
  exact ⟨hsize, hsha256, previous, hprevious, by rw [hdecode]; rfl⟩

/-- A staging file is passed over in the search for the predecessor. -/
theorem At.previous_linked (h : P.At .linked directory) (revision : Nat) :
    previousRevisionSha256 directory.revisions revision =
      previousRevisionSha256 P.target revision := by
  have hskip : ∀ found, findPredecessor (revision - 1) found ⟨P.staging, P.bytes⟩ = .ok found := by
    intro found
    rw [findPredecessor, if_pos P.isStaging]
  have hfiles : directory.revisions.files =
      P.old.revisions.files ++ [⟨P.staging, P.bytes⟩, ⟨P.entry.name, P.bytes⟩] := by
    rw [h.files, h.written (.inl rfl)]
    rfl
  have hfold : directory.revisions.files.foldlM (findPredecessor (revision - 1)) none =
      P.target.files.foldlM (findPredecessor (revision - 1)) none := by
    rw [hfiles, P.target_files, List.foldlM_append, List.foldlM_append]
    congr 1
    funext found
    rw [List.foldlM_cons, hskip]
    rfl
  rw [previousRevisionSha256, previousRevisionSha256, hfold]

/-! ## Steps between the stages -/

theorem at_create : P.At .staged (P.old.create P.staging) := by
  have hfree : P.staging ∉ P.old.entries.map (·.name) ∧ P.old.nextInode < P.old.nextInode + 1 :=
    ⟨P.staging_not_mem, Nat.lt_succ_self _⟩
  rw [UnixDirectory.create, UnixDirectory.addLink, dif_pos hfree]
  exact {
    owner := rfl
    entries := rfl
    contents := fun inode hlt => Function.update_of_ne (Nat.ne_of_lt hlt) _ _
    written := by simp
    inodeUsed := fun _ => Nat.lt_succ_self _ }

theorem At.write (h : P.At .staged directory) (bytes : List UInt8) :
    P.At .staged (directory.write P.inode bytes) where
  owner := h.owner
  entries := h.entries
  contents := fun inode hlt =>
    (Function.update_of_ne (Nat.ne_of_lt hlt) _ _).trans (h.contents inode hlt)
  written := by simp
  inodeUsed := h.inodeUsed

theorem At.addLink (h : P.At .staged directory)
    (hbytes : directory.contents P.inode = P.bytes) :
    P.At .linked (directory.addLink P.entry.name P.inode) := by
  have hfree : P.entry.name ∉ directory.entries.map (·.name) ∧ P.inode < directory.nextInode := by
    refine ⟨?_, h.inodeUsed rfl⟩
    rw [h.entries, List.map_append, List.mem_append, not_or]
    refine ⟨P.final_not_mem, ?_⟩
    simp [Publication.links, P.staging_ne_final.symm]
  rw [UnixDirectory.addLink, dif_pos hfree]
  exact {
    owner := h.owner
    entries := by
      show directory.entries ++ _ = _
      rw [h.entries, List.append_assoc]
      rfl
    contents := h.contents
    written := fun _ => hbytes
    inodeUsed := by simp }

/-- The staging name is removed. -/
theorem At.unlink (h : P.At stage directory) :
    P.At stage.unstaged (directory.unlink P.staging) where
  owner := h.owner
  entries := by
    have hold : P.old.entries.filter (fun entry => entry.name != P.staging) = P.old.entries := by
      apply List.filter_eq_self.mpr
      intro entry hmem
      rw [bne_iff_ne]
      intro heq
      exact P.staging_not_mem (heq ▸ List.mem_map_of_mem hmem)
    have hne : (P.entry.name != P.staging) = true := bne_iff_ne.mpr P.staging_ne_final.symm
    show directory.entries.filter _ = _
    rw [h.entries, List.filter_append, hold]
    cases stage <;> simp [Publication.links, Stage.unstaged, hne]
  contents := h.contents
  written := by
    intro hstage
    apply h.written
    cases stage <;> simp_all [Stage.unstaged]
  inodeUsed := by cases stage <;> simp [Stage.unstaged]

end At

end Publication

/-! ## Faults -/

/-- How the faults of a publication fall: whether the file has its final name, whether a fault
    made this uncertain, and what a fault of the reconciliation does then. -/
inductive Phase where
  | unpublished
  | linked
  | reconciling
  | rescanned
  | uncertain
  | escaped
  deriving DecidableEq

/-- After the link, a fault of the last directory sync escapes, and every other one starts the
    reconciliation; there, most faults escape. -/
def Phase.next : Phase → FileCall → (failed : Bool) → Phase
  | .unpublished, .hardLink _ _, false => .linked
  | .linked, .syncDirectory, true => .escaped
  | .linked, _, true => .reconciling
  | .reconciling, .scanRevisionFiles, false => .rescanned
  | .reconciling, .removeFile _, true => .uncertain
  | .reconciling, .previousRevisionSha256 _, true => .uncertain
  | .reconciling, _, true => .escaped
  | .rescanned, .syncDirectory, true => .uncertain
  | .rescanned, _, true => .escaped
  | phase, _, _ => phase

/-- What a fault of a query makes of the phase. -/
def Phase.fault : Phase → Phase
  | .linked => .reconciling
  | .reconciling | .rescanned => .escaped
  | phase => phase

/-- Calls that only look at names and files. -/
def FileCall.isQuery : FileCall → Bool
  | .metadata _ | .symlinkMetadata _ | .tryClone _ | .fromFile _ | .fromPath _ | .openFile _
  | .readToEnd _ | .readDir | .readDecodedRevision _ => true
  | _ => false

theorem next_of_isQuery (h : call.isQuery = true) (phase : Phase) :
    phase.next call false = phase := by
  cases call <;> first | exact absurd h Bool.false_ne_true | (cases phase <;> rfl)

theorem fault_of_isQuery (h : call.isQuery = true) (phase : Phase) :
    phase.next call true = phase.fault := by
  cases call <;> first | exact absurd h Bool.false_ne_true | (cases phase <;> rfl)

theorem afterCall_of_isQuery (h : call.isQuery = true) {directory : UnixDirectory} :
    directory.afterCall call = directory := by
  cases call <;> first | exact absurd h Bool.false_ne_true | rfl

theorem afterFailure_of_isQuery (h : call.isQuery = true) {directory : UnixDirectory}
    (failure : CallFailure) :
    directory.afterFailure call failure = directory := by
  cases call <;> first | exact absurd h Bool.false_ne_true | rfl

/-- Whether calls fail. -/
inductive Fault where
  | never
  | possible
  | certain

/-- What is seen of a publication. -/
structure PublicationView where
  directory : UnixDirectory
  phase : Phase

namespace Publication

variable {tools : StoreTools} (P : Publication tools)

/-- Calls are answered by the directory or fail as planned, and the directory stays in a stage of
    the publication. -/
def contract (plan : FileCall → Fault) : Contract FileCall FileAnswer PublicationView where
  next view call answer :=
    ⟨view.directory.after call answer, view.phase.next call (!answer.toBool)⟩
  assume view call answer :=
    match plan call with
    | .never => answer = view.directory.answer tools call
    | .possible =>
      answer = view.directory.answer tools call ∨ ∃ failure, answer = .error failure
    | .certain => ∃ failure, answer = .error failure
  guarantee view call answer := ∃ stage, P.At stage (view.directory.after call answer)

variable {Q : FileValue call → Unit → PublicationView → Prop}
  {E : JobStoreError → Unit → PublicationView → Prop} {value : FileValue call}
  {error : CallFailure → JobStoreError}

/-- A call that the directory answers with a value. -/
theorem wp_callOr {plan : FileCall → Fault} (hanswer : view.directory.answer tools call = .ok value)
    (hdone : ∃ stage, P.At stage (view.directory.afterCall call))
    (hfailed : ∀ failure, ∃ stage, P.At stage (view.directory.afterFailure call failure))
    (hQ : plan call ≠ .certain → Q value () ⟨view.directory.afterCall call, view.phase.next call
      false⟩)
    (hE : plan call ≠ .never → ∀ failure, E (error failure) () ⟨view.directory.afterFailure call
      failure, view.phase.next call true⟩) :
    wp (P.contract plan) (callOr call error) Q E () view := by
  rw [callOr, wp_bind, wp_perform]
  intro answer hassume
  cases answer with
  | ok found =>
    have hfound : found = value ∧ plan call ≠ .certain := by
      simp only [contract, hanswer] at hassume
      cases hplan : plan call <;> simp_all
    obtain ⟨rfl, hplan⟩ := hfound
    exact ⟨hdone, hQ hplan⟩
  | error failure =>
    have hplan : plan call ≠ .never := by
      intro hnever
      simp only [contract, hanswer, hnever] at hassume
      cases hassume
    exact ⟨hfailed failure, hE hplan failure⟩

variable {stage : Stage}

/-- A call that changes nothing. -/
theorem wp_query {plan : FileCall → Fault} {directory : UnixDirectory} {phase : Phase}
    (hat : P.At stage directory)
    (hanswer : directory.answer tools call = .ok value)
    (hdone : directory.afterCall call = directory)
    (hfailed : ∀ failure, directory.afterFailure call failure = directory)
    (hQ : plan call ≠ .certain → Q value () ⟨directory, phase.next call false⟩)
    (hE : plan call ≠ .never → ∀ failure, E (error failure) () ⟨directory, phase.next call true⟩) :
    wp (P.contract plan) (callOr call error) Q E () ⟨directory, phase⟩ := by
  apply P.wp_callOr hanswer
  · exact ⟨stage, hdone.symm ▸ hat⟩
  · intro failure
    exact ⟨stage, (hfailed failure).symm ▸ hat⟩
  · rw [hdone]
    exact hQ
  · intro hplan failure
    rw [hfailed failure]
    exact hE hplan failure

/-! ### Queries -/

section Queries

variable {P} {plan : FileCall → Fault} {stage : Stage} {directory : UnixDirectory} {phase : Phase}

/-- Some call may fail, and it is not the last directory sync. -/
def Faulty (plan : FileCall → Fault) : Prop := ∃ call, call ≠ .syncDirectory ∧ plan call ≠ .never

/-- An ordinary fault of a call that changes nothing. -/
def Faulted (plan : FileCall → Fault) (directory : UnixDirectory) (phase : Phase)
    (error : JobStoreError) (_ : Unit) (view : PublicationView) : Prop :=
  (∃ operation, error = .io operation) ∧ view = ⟨directory, phase.fault⟩ ∧ Faulty plan

/-- A query, or the fault of its call. -/
theorem wp_inquiry {operation : String} (hat : P.At stage directory)
    (hquery : call.isQuery = true) (hanswer : directory.answer tools call = .ok value) :
    wp (P.contract plan) (callIo call operation)
      (fun found _ view => found = value ∧ view = ⟨directory, phase⟩)
      (Faulted plan directory phase) () ⟨directory, phase⟩ := by
  apply P.wp_query hat hanswer (afterCall_of_isQuery hquery) (afterFailure_of_isQuery hquery)
  · intro _
    exact ⟨rfl, by rw [next_of_isQuery hquery]⟩
  · intro hplan failure
    refine ⟨⟨_, rfl⟩, by rw [fault_of_isQuery hquery], call, ?_, hplan⟩
    intro heq
    rw [heq] at hquery
    exact absurd hquery Bool.false_ne_true

variable {path : String}

/-- The check of a private file. -/
theorem wp_verifyUnixPrivateFile {file : Nat} {expectedLinks : Nat}
    (hat : P.At stage directory) (hlinks : directory.links file = expectedLinks)
    (hinode : directory.inodeOf path = some file) :
    wp (P.contract plan) (verifyUnixPrivateFile file path expectedLinks)
      (fun _ _ view => view = ⟨directory, phase⟩) (Faulted plan directory phase) ()
      ⟨directory, phase⟩ := by
  rw [verifyUnixPrivateFile, wp_bind]
  apply wp_imp (wp_inquiry hat rfl rfl)
  rintro metadata _ _ ⟨rfl, rfl⟩
  have hlinked : directory.answer tools (.symlinkMetadata path) = .ok file := by
    rw [UnixDirectory.answer, hinode]
    rfl
  rw [wp_bind]
  apply wp_imp (wp_inquiry hat rfl hlinked)
  rintro linked _ _ ⟨rfl, rfl⟩
  rw [wp_ensure]
  refine ⟨fun _ => rfl, fun hbad => ?_⟩
  simp [hlinks] at hbad

/-- The check of its identity. -/
theorem wp_verifyFileIdentity {file : Nat} (hat : P.At stage directory)
    (hinode : directory.inodeOf path = some file) :
    wp (P.contract plan) (verifyFileIdentity file path)
      (fun _ _ view => view = ⟨directory, phase⟩) (Faulted plan directory phase) ()
      ⟨directory, phase⟩ := by
  have hlinked : directory.answer tools (.fromPath path) = .ok file := by
    rw [UnixDirectory.answer, hinode]
    rfl
  rw [verifyFileIdentity, wp_bind]
  apply wp_imp (wp_inquiry hat rfl rfl)
  rintro _ _ _ ⟨-, rfl⟩
  rw [wp_bind]
  apply wp_imp (wp_inquiry hat rfl rfl)
  rintro opened _ _ ⟨hopened, rfl⟩
  rw [wp_bind]
  apply wp_imp (wp_inquiry hat rfl hlinked)
  rintro linked _ _ ⟨hfound, rfl⟩
  rw [wp_ensure]
  refine ⟨fun _ => rfl, fun hbad => ?_⟩
  simp [hopened, hfound] at hbad

theorem wp_openPrivateRevisionFile {file : Nat} (hat : P.At stage directory)
    (hlinks : directory.links file = 1) (hinode : directory.inodeOf path = some file) :
    wp (P.contract plan) (openPrivateRevisionFile path)
      (fun opened _ view => opened = file ∧ view = ⟨directory, phase⟩)
      (Faulted plan directory phase) () ⟨directory, phase⟩ := by
  have hopened : directory.answer tools (.openFile path) = .ok file := by
    rw [UnixDirectory.answer, hinode]
    rfl
  rw [openPrivateRevisionFile, wp_bind]
  apply wp_imp (wp_inquiry hat rfl hopened)
  rintro opened _ _ ⟨rfl, rfl⟩
  rw [wp_bind]
  apply wp_imp (wp_verifyUnixPrivateFile hat hlinks hinode)
  rintro _ _ _ rfl
  exact ⟨rfl, rfl⟩

end Queries

/-! ### Staging files -/

section Recovery

variable {P} {plan : FileCall → Fault} {stage : Stage} {directory : UnixDirectory} {phase : Phase}

theorem At.names (h : P.At stage directory) : directory.entries.map (·.name) =
    P.old.entries.map (·.name) ++ (P.links stage).map (·.name) := by
  rw [h.entries, List.map_append]

theorem At.length_names (h : P.At stage directory) :
    (directory.entries.map (·.name)).length ≤ maxRevisionsPerJob * 2 := by
  have hold := P.length_old
  have hmax : maxRevisionsPerJob = 4096 := rfl
  rw [h.names, List.length_append, List.length_map, List.length_map]
  have hlinks : (P.links stage).length ≤ 2 := by cases stage <;> simp [Publication.links]
  omega

/-- The staging names of a stage. -/
def stagingNames (P : Publication tools) : Stage → List String
  | .staged | .linked => [P.staging]
  | .untouched | .published => []

/-- The staging files at a stage. -/
theorem At.revisionStagingPaths (h : P.At stage directory) :
    revisionStagingPaths (directory.entries.map (·.name)) = .ok (P.stagingNames stage) := by
  have hnames : ∀ name ∈ directory.entries.map (·.name),
      (∃ parsed, parseRevisionFilename name = .ok parsed) ∨ isRevisionStagingName name = true := by
    intro name hmem
    rw [h.names] at hmem
    cases List.mem_append.mp hmem with
    | inl hold => exact .inl (P.old_parses hold)
    | inr hnew =>
      have hcases : name = P.staging ∨ name = P.entry.name := by
        cases stage <;> simp [Publication.links] at hnew <;> simp [hnew]
      obtain rfl | rfl := hcases
      · exact .inr P.isStaging
      · exact .inl ⟨_, P.final_parses⟩
  have hold : (P.old.entries.map (·.name)).filter isRevisionStagingName = [] := by
    rw [List.filter_eq_nil_iff]
    intro name hmem
    obtain ⟨parsed, hparsed⟩ := P.old_parses hmem
    rw [isStaging_of_parse hparsed]
    exact Bool.false_ne_true
  have hstaging := P.isStaging
  have hfinal := P.final_notStaging
  rw [JobStore.revisionStagingPaths, foldlM_stagingName hnames (by simpa using h.length_names),
    h.names, List.filter_append, hold]
  cases stage <;>
    simp [stagingNames, Publication.links, hstaging, hfinal, bind, Except.bind] <;> rfl

end Recovery

/-! ### Before the link -/

section Staging

variable {P} {plan : FileCall → Fault} {directory : UnixDirectory} {phase : Phase}

/-- Nothing has its final name. -/
def Unpublished (P : Publication tools) (view : PublicationView) : Prop :=
  view.phase = .unpublished ∧ (P.At .untouched view.directory ∨ P.At .staged view.directory)

/-- A fault before the link publishes nothing. -/
theorem Faulted.unpublished (h : Faulted plan directory .unpublished e () view)
    (hat : P.At stage directory) (hstage : stage = .untouched ∨ stage = .staged) :
    P.Unpublished view ∧ Faulty plan := by
  obtain ⟨-, rfl, hfaulty⟩ := h
  refine ⟨⟨rfl, ?_⟩, hfaulty⟩
  obtain rfl | rfl := hstage
  · exact .inl hat
  · exact .inr hat

/-- The staging file is removed. -/
theorem wp_removeOwnedUnixStaging (hat : P.At .staged directory) :
    wp (P.contract plan) (removeOwnedUnixStaging P.inode P.staging)
      (fun _ _ view => view = ⟨directory.unlink P.staging, phase⟩)
      (fun _ _ view => (view = ⟨directory, phase.fault⟩ ∨
        view = ⟨directory, phase.next (.removeFile P.staging) true⟩) ∧ Faulty plan) ()
      ⟨directory, phase⟩ := by
  have hinode : directory.inodeOf P.staging = some P.inode := hat.inodeOf_staging
  have hremoved : directory.answer tools (.removeFile P.staging) = .ok () := by
    rw [UnixDirectory.answer, hinode]
    rfl
  rw [removeOwnedUnixStaging, wp_bind]
  apply wp_mono (wp_verifyUnixPrivateFile hat hat.links_inode hinode)
  · rintro _ _ _ rfl
    apply P.wp_callOr hremoved ⟨_, hat.unlink⟩ fun _ => ⟨_, hat⟩
    · intro _
      cases phase <;> rfl
    · intro hplan _
      exact ⟨.inr rfl, _, fun h => FileCall.noConfusion h, hplan⟩
  · intro _ _ _ ⟨_, hview, hfaulty⟩
    exact ⟨.inl hview, hfaulty⟩

/-- The publication ended before the link, with an error that says so. -/
def Abandoned (P : Publication tools) (plan : FileCall → Fault) (e : JobStoreError) (_ : Unit)
    (view : PublicationView) : Prop :=
  P.Unpublished view ∧ Faulty plan ∧ ∀ reason, e ≠ .commitUncertain reason

/-- A failure takes the staging file with it. -/
theorem wp_failUnpublishedUnixStaging {α : Type} {original : JobStoreError}
    {Q : α → Unit → PublicationView → Prop} (hat : P.At .staged directory) (hfaulty : Faulty plan)
    (horiginal : ∀ reason, original ≠ .commitUncertain reason) :
    wp (P.contract plan) (failUnpublishedUnixStaging P.inode P.staging original) Q
      (Abandoned P plan) () ⟨directory, .unpublished⟩ := by
  rw [failUnpublishedUnixStaging, wp_bind, wp_mapError]
  apply wp_mono (wp_removeOwnedUnixStaging hat)
  · rintro _ _ _ rfl
    exact ⟨⟨rfl, .inl hat.unlink⟩, hfaulty, horiginal⟩
  · rintro _ _ _ ⟨rfl | rfl, -⟩
    · exact ⟨⟨rfl, .inr hat⟩, hfaulty, fun _ h => nomatch h⟩
    · exact ⟨⟨rfl, .inr hat⟩, hfaulty, fun _ h => nomatch h⟩

/-- The revision is staged and linked. -/
theorem wp_stageRevision :
    wp (P.contract plan) (stageRevision P.staging P.entry.name P.bytes)
      (fun file _ view => file = P.inode ∧ view.phase = .linked ∧ P.At .linked view.directory)
      (Abandoned P plan) () ⟨P.old, .unpublished⟩ := by
  have hfree : P.old.inodeOf P.staging = none := P.at_old.inodeOf_staging
  have hcreated : P.old.answer tools (.createNew P.staging) = .ok P.inode := by
    rw [UnixDirectory.answer, hfree]
    rfl
  rw [stageRevision, wp_bind]
  apply P.wp_callOr hcreated ⟨_, P.at_create⟩ fun _ => ⟨_, P.at_old⟩
  rotate_left
  · intro hplan _
    exact ⟨⟨rfl, .inl P.at_old⟩, ⟨_, fun h => FileCall.noConfusion h, hplan⟩, fun _ h => nomatch h⟩
  intro _
  have hat : P.At .staged (P.old.create P.staging) := P.at_create
  rw [wp_bind, wp_handle]
  apply P.wp_callOr rfl ⟨_, hat.write _⟩ fun _ => ⟨_, hat.write _⟩
  rotate_left
  · intro hplan failure
    exact wp_failUnpublishedUnixStaging (hat.write _) ⟨_, fun h => FileCall.noConfusion h, hplan⟩
      fun _ h => nomatch h
  intro _
  -- the staging file has all its bytes
  have hat := hat.write P.bytes
  have hbytes : ((P.old.create P.staging).write P.inode P.bytes).contents P.inode = P.bytes :=
    Function.update_self _ _ _
  generalize hdirectory : (P.old.create P.staging).write P.inode P.bytes = directory at hat hbytes
  have hinode : directory.inodeOf P.staging = some P.inode := hat.inodeOf_staging
  rw [wp_bind, wp_mapError]
  show wp _ _ _ _ ()
    (PublicationView.mk ((P.old.create P.staging).write P.inode P.bytes) .unpublished)
  rw [hdirectory]
  apply wp_mono (wp_verifyUnixPrivateFile hat hat.links_inode hinode)
  rotate_left
  · intro _ _ _ hfault
    obtain ⟨hunpublished, hfaulty⟩ := hfault.unpublished hat (.inr rfl)
    exact ⟨hunpublished, hfaulty, fun _ h => nomatch h⟩
  rintro _ _ _ rfl
  have hfinal : directory.inodeOf P.entry.name = none := hat.inodeOf_final
  have hlinked : directory.answer tools (.hardLink P.staging P.entry.name) = .ok () := by
    rw [UnixDirectory.answer, hinode, hfinal]
    rfl
  have hafter : directory.afterCall (.hardLink P.staging P.entry.name) =
      directory.addLink P.entry.name P.inode := by
    rw [UnixDirectory.afterCall, hinode]
  rw [wp_bind, wp_handle]
  apply P.wp_callOr hlinked ⟨.linked, hafter ▸ hat.addLink hbytes⟩ fun _ => ⟨_, hat⟩
  · intro _
    exact ⟨rfl, rfl, hafter ▸ hat.addLink hbytes⟩
  · intro hplan _
    exact wp_failUnpublishedUnixStaging hat ⟨_, fun h => FileCall.noConfusion h, hplan⟩
      fun _ h => nomatch h

end Staging

/-! ### After the link -/

section Finishing

variable {P} {plan : FileCall → Fault} {directory : UnixDirectory}

/-- The final directory sync failed, or the publication is uncertain. -/
inductive Unfinished (P : Publication tools) (plan : FileCall → Fault) :
    JobStoreError → PublicationView → Prop where
  | escaped {directory : UnixDirectory} (operation : String) (hat : P.At .published directory)
      (hplan : plan .syncDirectory ≠ .never) :
      Unfinished P plan (.io operation) ⟨directory, .escaped⟩
  | uncertain {stage : Stage} {directory : UnixDirectory} (reason : String)
      (hat : P.At stage directory) (hstage : stage = .linked ∨ stage = .published)
      (hfaulty : Faulty plan) :
      Unfinished P plan (.commitUncertain reason) ⟨directory, .reconciling⟩

/-- A fault after the link is uncertain. -/
theorem Faulted.uncertain {e : JobStoreError} {view : PublicationView}
    (h : Faulted plan directory .linked e () view) (hat : P.At stage directory)
    (hstage : stage = .linked ∨ stage = .published) (reason : String) :
    Unfinished P plan (.commitUncertain reason) view := by
  obtain ⟨-, rfl, hfaulty⟩ := h
  exact .uncertain reason hat hstage hfaulty

theorem At.take_written (hat : P.At stage directory)
    (hstage : stage = .linked ∨ stage = .published) :
    (directory.contents P.inode).take (maxJobRevisionBytes + 1) = P.bytes := by
  have hsize : P.bytes.length ≤ maxJobRevisionBytes := P.reread_parts.1
  rw [hat.written hstage, List.take_of_length_le (by omega)]

/-- The staging name is removed. -/
theorem wp_finishRevision (hat : P.At .linked directory) :
    wp (P.contract plan) (finishRevision P.inode P.staging P.entry.name P.bytes)
      (fun _ _ view => view.phase = .linked ∧ P.At .published view.directory ∧
        plan .syncDirectory ≠ .certain)
      (fun e _ view => Unfinished P plan e view) () ⟨directory, .linked⟩ := by
  have hstaging : directory.inodeOf P.staging = some P.inode := hat.inodeOf_staging
  have hfinal : directory.inodeOf P.entry.name = some P.inode := hat.inodeOf_final
  rw [finishRevision, wp_bind, wp_mapError]
  apply wp_mono (wp_verifyUnixPrivateFile hat hat.links_inode hstaging) _
    fun _ _ _ hfault => hfault.uncertain hat (.inl rfl) _
  rintro _ _ _ rfl
  rw [wp_bind, wp_mapError]
  apply wp_mono (wp_verifyFileIdentity hat hfinal) _
    fun _ _ _ hfault => hfault.uncertain hat (.inl rfl) _
  rintro _ _ _ rfl
  rw [wp_bind]
  apply P.wp_query hat rfl rfl (fun _ => rfl) _
    fun hplan _ => .uncertain _ hat (.inl rfl) ⟨_, fun h => FileCall.noConfusion h, hplan⟩
  intro _
  have hremoved : directory.answer tools (.removeFile P.staging) = .ok () := by
    rw [UnixDirectory.answer, hstaging]
    rfl
  rw [wp_bind]
  apply P.wp_callOr hremoved ⟨_, hat.unlink⟩ (fun _ => ⟨_, hat⟩) _
    fun hplan _ => .uncertain _ hat (.inl rfl) ⟨_, fun h => FileCall.noConfusion h, hplan⟩
  intro _
  -- the revision is published, and what follows only looks at it
  have hat : P.At .published (directory.unlink P.staging) := hat.unlink
  show wp _ _ _ _ () (PublicationView.mk (directory.unlink P.staging) .linked)
  generalize directory.unlink P.staging = directory at hat
  have hfinal : directory.inodeOf P.entry.name = some P.inode := hat.inodeOf_final
  rw [wp_bind, wp_mapError]
  apply wp_mono (wp_openPrivateRevisionFile hat hat.links_inode hfinal) _
    fun _ _ _ hfault => hfault.uncertain hat (.inr rfl) _
  rintro final _ _ ⟨rfl, rfl⟩
  rw [wp_bind]
  apply P.wp_query hat rfl rfl (fun _ => rfl) _
    fun hplan _ => .uncertain _ hat (.inr rfl) ⟨_, fun h => FileCall.noConfusion h, hplan⟩
  intro _
  rw [wp_bind, wp_ensure, hat.take_written (.inr rfl)]
  refine ⟨fun _ => ?_, fun hchanged => absurd hchanged (by simp)⟩
  rw [wp_bind, wp_mapError]
  apply wp_mono (wp_verifyFileIdentity hat hfinal) _
    fun _ _ _ hfault => hfault.uncertain hat (.inr rfl) _
  rintro _ _ _ rfl
  apply P.wp_query hat rfl rfl fun _ => rfl
  · intro hplan
    exact ⟨rfl, hat, hplan⟩
  · intro hplan _
    exact .escaped _ hat hplan

end Finishing

/-! ### Recovery -/

section Recovering

variable {P} {plan : FileCall → Fault} {stage : Stage} {directory : UnixDirectory}

/-- A fault ends the recovery of a revision that has its final name: most escape, two do not. -/
structure Interrupted (P : Publication tools) (plan : FileCall → Fault) (e : JobStoreError)
    (view : PublicationView) : Prop where
  fault : ∃ call, plan call ≠ .never
  final : P.At .linked view.directory ∨ P.At .published view.directory
  kind : (∃ operation, e = .io operation) ∧ view.phase = .escaped ∨
    (∃ reason, e = .recoveryRequired reason) ∧ view.phase = .uncertain

/-- A fault interrupts the recovery. -/
theorem Faulted.interrupted (h : Faulted plan directory .reconciling e () view)
    (hat : P.At .linked directory ∨ P.At .published directory) : Interrupted P plan e view := by
  obtain ⟨hio, rfl, call, -, hplan⟩ := h
  exact ⟨⟨call, hplan⟩, hat, .inl ⟨hio, rfl⟩⟩

/-- A fault comes from the plan. -/
theorem Faulted.fault {phase : Phase} (h : Faulted plan directory phase e () view) :
    ∃ call, plan call ≠ .never := by
  obtain ⟨-, -, call, -, hplan⟩ := h
  exact ⟨call, hplan⟩

/-- A staging file that has no other name is removed. -/
theorem wp_recoverStaging_staged (hat : P.At .staged directory) :
    wp (P.contract plan) (recoverStaging tools P.staging)
      (fun _ _ view => view.phase = .reconciling ∧ P.At .untouched view.directory)
      (fun _ _ _ => ∃ call, plan call ≠ .never) () ⟨directory, .reconciling⟩ := by
  have hinode : directory.inodeOf P.staging = some P.inode := hat.inodeOf_staging
  have hopened : directory.answer tools (.openFile P.staging) = .ok P.inode := by
    rw [UnixDirectory.answer, hinode]
    rfl
  rw [recoverStaging, wp_bind]
  apply wp_mono (wp_inquiry hat rfl hopened) _ fun _ _ _ hfault => hfault.fault
  rintro file _ _ ⟨rfl, rfl⟩
  rw [wp_bind]
  apply wp_mono (wp_inquiry hat rfl rfl) _ fun _ _ _ hfault => hfault.fault
  rintro metadata _ _ ⟨rfl, rfl⟩
  have hlinks : directory.links P.inode = 1 := hat.links_inode
  rw [wp_bind, hlinks, recoverLinks, wp_mapError]
  apply wp_mono (wp_removeOwnedUnixStaging hat)
  · rintro _ _ _ rfl
    have hat : P.At .untouched (directory.unlink P.staging) := hat.unlink
    apply P.wp_query hat rfl rfl fun _ => rfl
    · exact fun _ => ⟨rfl, hat⟩
    · exact fun hplan _ => ⟨_, hplan⟩
  · rintro _ _ _ ⟨-, call, -, hplan⟩
    exact ⟨call, hplan⟩

/-- The recovery reads the bytes. -/
theorem wp_readRecoveryBytes (hat : P.At .linked directory) :
    wp (P.contract plan) (readRecoveryBytes P.inode)
      (fun bytes _ view => bytes = P.bytes ∧ view = ⟨directory, .reconciling⟩)
      (fun e _ view => Interrupted P plan e view) () ⟨directory, .reconciling⟩ := by
  have hsize : P.bytes.length ≤ maxJobRevisionBytes := P.reread_parts.1
  have hcontents := hat.written (.inl rfl)
  rw [readRecoveryBytes, wp_bind]
  apply wp_mono (wp_inquiry hat rfl rfl) _ fun _ _ _ hfault => hfault.interrupted (.inl hat)
  rintro metadata _ _ ⟨rfl, rfl⟩
  rw [wp_bind, wp_ensure, hcontents]
  refine ⟨fun _ => ?_, fun hbound => absurd hsize (by simpa using hbound)⟩
  rw [wp_bind]
  apply wp_mono (wp_inquiry hat rfl rfl) _ fun _ _ _ hfault => hfault.interrupted (.inl hat)
  rintro content _ _ ⟨rfl, rfl⟩
  rw [hat.take_written (.inl rfl), wp_bind, wp_ensure]
  refine ⟨fun _ => ⟨rfl, rfl⟩, fun hchanged => ?_⟩
  simp at hchanged
  omega

/-- Old names lead to other files. -/
theorem At.inodeOf_old (hat : P.At stage directory) (hname : name ∈ P.old.entries.map (·.name)) :
    ∃ inode, directory.inodeOf name = some inode ∧ inode ≠ P.inode := by
  obtain ⟨entry, hentry, hentryName⟩ := List.mem_map.mp hname
  cases hfind : P.old.entries.find? fun entry => entry.name == name with
  | none =>
    have hne := List.find?_eq_none.mp hfind entry hentry
    exact absurd (beq_iff_eq.mpr hentryName) hne
  | some found =>
    refine ⟨found.inode, ?_, Nat.ne_of_lt (P.old.used found (List.mem_of_find?_eq_some hfind))⟩
    rw [UnixDirectory.inodeOf, hat.entries, List.find?_append, hfind, Option.some_or]
    rfl

section

variable (hat : P.At .linked directory)

include hat

/-- A name of another file is passed over, the final name is taken. -/
theorem wp_matchFinalLink {found : Option RevisionEntry}
    {entry : RevisionEntry} {inode : Nat} (hinode : directory.inodeOf entry.name = some inode)
    (hfound : inode = P.inode → found = none) :
    wp (P.contract plan) (matchFinalLink P.inode found entry)
      (fun found' _ view => found' = (if inode = P.inode then some entry else found) ∧
        view = ⟨directory, .reconciling⟩)
      (fun e _ view => Interrupted P plan e view) () ⟨directory, .reconciling⟩ := by
  have hmetadata : directory.answer tools (.symlinkMetadata entry.name) = .ok inode := by
    rw [UnixDirectory.answer, hinode]
    rfl
  have hpath : directory.answer tools (.fromPath entry.name) = .ok inode := by
    rw [UnixDirectory.answer, hinode]
    rfl
  rw [matchFinalLink, wp_bind]
  apply wp_mono (wp_inquiry hat rfl hmetadata) _
    fun _ _ _ hfault => hfault.interrupted (.inl hat)
  rintro _ _ _ ⟨-, rfl⟩
  rw [wp_bind]
  apply wp_mono (wp_inquiry hat rfl hpath) _
    fun _ _ _ hfault => hfault.interrupted (.inl hat)
  rintro identity _ _ ⟨hidentity, rfl⟩
  rw [hidentity]
  by_cases hsame : inode = P.inode
  · rw [if_pos (beq_iff_eq.mpr hsame), if_pos hsame, wp_bind, wp_ensure, hfound hsame]
    exact ⟨fun _ => ⟨rfl, rfl⟩, fun hnone => absurd hnone (by simp)⟩
  · rw [if_neg (fun heq => hsame (beq_iff_eq.mp heq)), if_neg hsame]
    exact ⟨rfl, rfl⟩

/-- The names up to some point hold the final link, or not yet. -/
theorem wp_finalLinks :
    wp (P.contract plan) ((directory.entries.map (·.name)).zipIdx.foldlM
        (fun found (name, index) => finalLinkStep P.inode found name index) none)
      (fun found _ view => found = some P.entry ∧ view = ⟨directory, .reconciling⟩)
      (fun e _ view => Interrupted P plan e view) () ⟨directory, .reconciling⟩ := by
  have hnodup : (directory.entries.map (·.name)).Nodup := directory.distinct
  have hfinalMem : P.entry.name ∈ directory.entries.map (·.name) := by
    rw [hat.names]
    simp [Publication.links]
  have hfold := @wp_foldlM _ _ _ _ _ _ _ (P.contract plan)
    (fun e _ view => Interrupted P plan e view) () ⟨directory, .reconciling⟩
    (directory.entries.map (·.name)).zipIdx
    (fun found (p : String × Nat) => finalLinkStep P.inode found p.1 p.2) none
    (fun done found _ view => view = ⟨directory, .reconciling⟩ ∧
      found = if P.entry.name ∈ done.map Prod.fst then some P.entry else none)
    ⟨rfl, by simp⟩ ?_
  · apply wp_mono hfold
    · rintro found _ _ ⟨rfl, rfl⟩
      rw [List.zipIdx_map_fst, if_pos hfinalMem]
      exact ⟨rfl, rfl⟩
    · exact fun _ _ _ h => h
  · rintro done ⟨name, index⟩ rest found _ _ hsplit ⟨rfl, hfound⟩
    have hmem : (name, index) ∈ (directory.entries.map (·.name)).zipIdx := by
      rw [hsplit]
      exact List.mem_append_right _ List.mem_cons_self
    have hindex : index + 1 ≤ maxRevisionsPerJob * 2 := by
      obtain ⟨hi, -⟩ := List.getElem?_eq_some_iff.mp (List.mem_zipIdx_iff_getElem?.mp hmem)
      exact Nat.le_trans hi hat.length_names
    have hname : name ∈ directory.entries.map (·.name) := List.fst_mem_of_mem_zipIdx hmem
    have hnew : name ∉ done.map Prod.fst := by
      have hnames := congrArg (List.map Prod.fst) hsplit
      rw [List.zipIdx_map_fst, List.map_append] at hnames
      rw [hnames] at hnodup
      exact fun hold => (List.nodup_append.mp hnodup).2.2 name hold name List.mem_cons_self rfl
    have hother : P.entry.name ≠ name →
        (if P.entry.name ∈ (done ++ [(name, index)]).map Prod.fst then some P.entry else none) =
          found := by
      intro hne
      rw [hfound, List.map_append, List.map_singleton]
      simp only [List.mem_append, List.mem_singleton, hne, or_false]
    show wp _ (finalLinkStep P.inode found name index) _ _ () _
    rw [finalLinkStep, wp_bind, wp_ensure]
    refine ⟨fun _ => ?_, fun hbound => absurd hindex (by simpa using hbound)⟩
    rw [hat.names] at hname
    obtain hold | hadded := List.mem_append.mp hname
    · -- a revision of the old chain
      obtain ⟨⟨revision, sha256⟩, hparsed⟩ := P.old_parses hold
      obtain ⟨inode, hinode, hne⟩ := hat.inodeOf_old hold
      rw [hparsed]
      apply wp_imp (wp_matchFinalLink hat hinode fun heq => absurd heq hne)
      rintro found' _ _ ⟨rfl, rfl⟩
      refine ⟨rfl, ?_⟩
      rw [if_neg hne, hother]
      rintro rfl
      exact P.final_not_mem hold
    · have hcases : name = P.staging ∨ name = P.entry.name := by
        simpa [Publication.links] using hadded
      obtain rfl | rfl := hcases
      · -- the staging name itself
        obtain ⟨error, herror⟩ := parse_of_isStaging P.isStaging
        rw [herror]
        exact ⟨rfl, (hother P.staging_ne_final.symm).symm⟩
      · -- the final name
        have hinode : directory.inodeOf P.entry.name = some P.inode := hat.inodeOf_final
        rw [P.final_parses]
        apply wp_imp (@wp_matchFinalLink _ P plan directory hat found P.entry P.inode hinode
          fun _ => by rw [hfound, if_neg hnew])
        rintro found' _ _ ⟨rfl, rfl⟩
        refine ⟨rfl, ?_⟩
        rw [if_pos rfl, if_pos (by simp)]

/-- It finds the final name. -/
theorem wp_recoveryFinalLink :
    wp (P.contract plan) (recoveryFinalLink tools P.inode P.bytes)
      (fun found _ view => found = P.entry ∧ view = ⟨directory, .reconciling⟩)
      (fun e _ view => Interrupted P plan e view) () ⟨directory, .reconciling⟩ := by
  obtain ⟨-, hsha256, previous, hprevious, hdecode⟩ := P.reread_parts
  rw [recoveryFinalLink, wp_bind]
  apply wp_mono (wp_inquiry hat rfl rfl) _ fun _ _ _ hfault => hfault.interrupted (.inl hat)
  rintro _ _ _ ⟨-, rfl⟩
  rw [wp_bind]
  apply wp_mono (wp_inquiry hat rfl rfl) _ fun _ _ _ hfault => hfault.interrupted (.inl hat)
  rintro identity _ _ ⟨hidentity, rfl⟩
  rw [wp_bind]
  apply wp_mono (wp_inquiry hat rfl rfl) _ fun _ _ _ hfault => hfault.interrupted (.inl hat)
  rintro names _ _ ⟨hnames, rfl⟩
  rw [hidentity, hnames, wp_bind]
  apply wp_imp (wp_finalLinks hat)
  rintro found _ _ ⟨rfl, rfl⟩
  rw [wp_bind, wp_ofOption]
  refine ⟨fun entry hentry => ?_, fun hnone => absurd hnone (Option.some_ne_none _)⟩
  cases hentry
  rw [wp_bind, wp_ensure]
  refine ⟨fun _ => ?_, fun hbad => absurd hbad (by simp [hsha256])⟩
  -- the predecessor is read past the staging file
  have hanswer : directory.answer tools (.previousRevisionSha256 P.entry.revision) =
      .ok (.ok previous) := by
    rw [UnixDirectory.answer, hat.previous_linked, hprevious]
  rw [wp_bind, wp_mapError, callRead, wp_bind]
  apply P.wp_query hat hanswer rfl fun _ => rfl
  · intro _
    rw [wp_ofExcept]
    refine ⟨fun predecessor hpredecessor => ?_, fun _ herror => nomatch herror⟩
    cases hpredecessor
    rw [wp_bind, wp_ensure, hdecode]
    exact ⟨fun _ => ⟨rfl, rfl⟩, fun hbad => absurd hbad (by decide)⟩
  · exact fun hplan _ => ⟨⟨_, hplan⟩, .inl hat, .inr ⟨⟨_, rfl⟩, rfl⟩⟩

/-- It completes a pair of names. -/
theorem wp_recoverPair :
    wp (P.contract plan) (recoverPair tools P.inode P.staging)
      (fun _ _ view => view.phase = .reconciling ∧ P.At .published view.directory)
      (fun e _ view => Interrupted P plan e view) () ⟨directory, .reconciling⟩ := by
  have hinode : directory.inodeOf P.staging = some P.inode := hat.inodeOf_staging
  rw [recoverPair, wp_bind]
  apply wp_mono (wp_verifyUnixPrivateFile hat hat.links_inode hinode) _
    fun _ _ _ hfault => hfault.interrupted (.inl hat)
  rintro _ _ _ rfl
  rw [wp_bind]
  apply wp_imp (wp_readRecoveryBytes hat)
  rintro bytes _ _ ⟨rfl, rfl⟩
  rw [wp_bind]
  apply wp_imp (wp_recoveryFinalLink hat)
  rintro finalLink _ _ ⟨rfl, rfl⟩
  rw [wp_bind]
  apply wp_mono (wp_verifyUnixPrivateFile hat hat.links_inode hinode) _
    fun _ _ _ hfault => hfault.interrupted (.inl hat)
  rintro _ _ _ rfl
  -- both names are there, so the staging name can go
  have hremoved : directory.answer tools (.removeFile P.staging) = .ok () := by
    rw [UnixDirectory.answer, hinode]
    rfl
  rw [wp_bind]
  apply P.wp_callOr hremoved ⟨_, hat.unlink⟩ fun _ => ⟨_, hat⟩
  · intro _
    have hat : P.At .published (directory.unlink P.staging) := hat.unlink
    have hread : (directory.unlink P.staging).answer tools (.readDecodedRevision P.entry) =
        .ok (.ok ⟨P.record, jobRevisionSchemaVersion, P.bytes⟩) := by
      rw [UnixDirectory.answer, hat.read_published]
    rw [wp_bind, callRead, wp_bind]
    apply P.wp_query hat hread rfl fun _ => rfl
    · intro _
      rw [wp_ofExcept]
      exact ⟨fun _ _ => ⟨rfl, hat⟩, fun _ herror => nomatch herror⟩
    · exact fun hplan _ => ⟨⟨_, hplan⟩, .inr hat, .inl ⟨⟨_, rfl⟩, rfl⟩⟩
  · exact fun hplan _ => ⟨⟨_, hplan⟩, .inl hat, .inr ⟨⟨_, rfl⟩, rfl⟩⟩

/-- A staging file with its final name loses the staging name. -/
theorem wp_recoverStaging_linked :
    wp (P.contract plan) (recoverStaging tools P.staging)
      (fun _ _ view => view.phase = .reconciling ∧ P.At .published view.directory)
      (fun e _ view => Interrupted P plan e view) () ⟨directory, .reconciling⟩ := by
  have hinode : directory.inodeOf P.staging = some P.inode := hat.inodeOf_staging
  have hopened : directory.answer tools (.openFile P.staging) = .ok P.inode := by
    rw [UnixDirectory.answer, hinode]
    rfl
  rw [recoverStaging, wp_bind]
  apply wp_mono (wp_inquiry hat rfl hopened) _
    fun _ _ _ hfault => hfault.interrupted (.inl hat)
  rintro file _ _ ⟨rfl, rfl⟩
  rw [wp_bind]
  apply wp_mono (wp_inquiry hat rfl rfl) _ fun _ _ _ hfault => hfault.interrupted (.inl hat)
  rintro metadata _ _ ⟨rfl, rfl⟩
  have hlinks : directory.links P.inode = 2 := hat.links_inode
  rw [wp_bind, hlinks, recoverLinks]
  apply wp_imp (wp_recoverPair hat)
  rintro _ _ ⟨directory, _⟩ ⟨rfl, hat⟩
  apply P.wp_query hat rfl rfl fun _ => rfl
  · exact fun _ => ⟨rfl, hat⟩
  · exact fun hplan _ => ⟨⟨_, hplan⟩, .inr hat, .inl ⟨⟨_, rfl⟩, rfl⟩⟩

end

/-- What recovery is specified by: it removes the staging name. -/
theorem wp_recoverRevisionStaging (hat : P.At stage directory) :
    wp (P.contract plan) (recoverRevisionStaging tools)
      (fun _ _ view => view.phase = .reconciling ∧ P.At stage.unstaged view.directory)
      (fun e _ view => (∃ call, plan call ≠ .never) ∧
        (stage = .linked ∨ stage = .published → Interrupted P plan e view)) ()
      ⟨directory, .reconciling⟩ := by
  have hfaulted : ∀ e view, Faulted plan directory .reconciling e () view →
      (∃ call, plan call ≠ .never) ∧
        (stage = .linked ∨ stage = .published → Interrupted P plan e view) := by
    intro e view hfault
    refine ⟨hfault.fault, ?_⟩
    rintro (rfl | rfl)
    · exact hfault.interrupted (.inl hat)
    · exact hfault.interrupted (.inr hat)
  rw [recoverRevisionStaging, wp_bind]
  apply wp_mono (wp_inquiry hat rfl rfl) _ fun e _ view h => hfaulted e view h
  rintro names _ _ ⟨rfl, rfl⟩
  rw [wp_bind, wp_ofExcept, hat.revisionStagingPaths]
  refine ⟨fun paths hpaths => ?_, fun _ herror => nomatch herror⟩
  cases hpaths
  cases stage with
  | untouched => exact ⟨rfl, hat⟩
  | published => exact ⟨rfl, hat⟩
  | staged =>
    rw [stagingNames, List.foldlM_cons, wp_bind]
    apply wp_mono (wp_recoverStaging_staged hat)
    · exact fun _ _ _ h => h
    · exact fun _ _ _ h => ⟨h, fun hstage => absurd hstage (by decide)⟩
  | linked =>
    rw [stagingNames, List.foldlM_cons, wp_bind]
    apply wp_mono (wp_recoverStaging_linked hat)
    · exact fun _ _ _ h => h
    · exact fun _ _ _ h => ⟨h.fault, fun _ => h⟩

end Recovering

end Publication

/-! ## The whole publication -/

/-- Errors that do not tell the caller to look at the store again. -/
def JobStoreError.isOrdinary : JobStoreError → Bool
  | .commitUncertain _ | .recoveryRequired _ => false
  | _ => true

namespace Publication

variable {tools : StoreTools} {P : Publication tools} {plan : FileCall → Fault}
  {stage : Stage} {directory : UnixDirectory}

/-- How a publication fails. -/
inductive Failure (P : Publication tools) : JobStoreError → PublicationView → Prop where
  | unpublished {e : JobStoreError} {view : PublicationView} (h : P.Unpublished view) :
      Failure P e view
  | escaped {e : JobStoreError} {view : PublicationView} (hordinary : e.isOrdinary = true)
      (hphase : view.phase = .escaped)
      (hat : P.At .linked view.directory ∨ P.At .published view.directory) : Failure P e view
  | uncertain {e : JobStoreError} {view : PublicationView} (huncertain : e.isOrdinary = false)
      (hphase : view.phase = .uncertain) : Failure P e view

/-- An interrupted recovery is a failure. -/
theorem Interrupted.failure (h : Interrupted P plan e view) :
    Failure P e view := by
  obtain ⟨-, hfinal, ⟨⟨_, rfl⟩, hphase⟩ | ⟨⟨_, rfl⟩, hphase⟩⟩ := h
  · exact .escaped rfl hphase hfinal
  · exact .uncertain rfl hphase

/-- The published revision has the revision of its record. -/
theorem record_revision (P : Publication tools) : P.record.revision = P.entry.revision := by
  obtain ⟨previous, -, hread⟩ := bind_eq_ok.mp P.reread
  obtain ⟨file, -, -, -, hdecode⟩ := readDecodedRevisionWithPrevious_eq_ok.mp hread
  exact (decodeRevisionBytes_eq_ok hdecode).sameRevision

/-- The latest revision is the new one. -/
theorem wp_reconcileLatest {reason : String} (hat : P.At .published directory) :
    wp (P.contract plan)
      (reconcileLatest P.entry P.entry.name P.record P.bytes P.entry.sha256
        (.commitUncertain reason))
      (fun _ _ view => view.phase = .rescanned) (fun e _ view => Failure P e view) ()
      ⟨directory, .rescanned⟩ := by
  have hread : directory.answer tools (.readDecodedRevision P.entry) =
      .ok (.ok ⟨P.record, jobRevisionSchemaVersion, P.bytes⟩) := by
    rw [UnixDirectory.answer, hat.read_published]
  rw [reconcileLatest, wp_bind, wp_ensure]
  refine ⟨fun _ => ?_, fun hbad => absurd hbad (by simp [P.record_revision])⟩
  rw [wp_bind, callRead, wp_bind]
  apply P.wp_query hat hread rfl fun _ => rfl
  · intro _
    rw [wp_ofExcept]
    refine ⟨fun existing hexisting => ?_, fun _ herror => nomatch herror⟩
    cases hexisting
    rw [wp_bind, wp_ensure]
    refine ⟨fun _ => ?_, fun hbad => absurd hbad (by simp)⟩
    rw [wp_bind]
    apply P.wp_query hat rfl rfl fun _ => rfl
    · exact fun _ => rfl
    · exact fun _ _ => .uncertain rfl rfl
  · exact fun _ _ => .escaped rfl rfl (.inr hat)

/-- After an uncertain publication its revision is found published, or a fault is reported. -/
theorem wp_reconcilePublication {reason : String} (hat : P.At stage directory)
    (hstage : stage = .linked ∨ stage = .published) :
    wp (P.contract plan)
      (reconcilePublication tools P.entry.name P.record P.bytes P.entry.sha256
        (.commitUncertain reason))
      (fun _ _ view => view.phase ≠ .escaped) (fun e _ view => Failure P e view) ()
      ⟨directory, .reconciling⟩ := by
  have hunstaged : stage.unstaged = .published := by
    obtain rfl | rfl := hstage <;> rfl
  rw [reconcilePublication, wp_bind]
  apply wp_mono (wp_recoverRevisionStaging hat)
  · rintro _ _ ⟨directory, _⟩ ⟨rfl, hat⟩
    rw [hunstaged] at hat
    have hscan : directory.answer tools .scanRevisionFiles =
        .ok (.ok (P.entries ++ [P.entry])) := by
      rw [UnixDirectory.answer, hat.scan_published]
    rw [wp_bind, callRead, wp_bind]
    apply P.wp_query hat hscan rfl fun _ => rfl
    · intro _
      rw [wp_ofExcept]
      refine ⟨fun revisions hrevisions => ?_, fun _ herror => nomatch herror⟩
      cases hrevisions
      rw [List.getLast?_concat]
      apply wp_imp (wp_reconcileLatest hat)
      intro _ _ view hphase hescaped
      rw [hphase] at hescaped
      cases hescaped
    · exact fun _ _ => .escaped rfl rfl (.inr hat)
  · intro _ _ _ ⟨_, hinterrupted⟩
    exact (hinterrupted hstage).failure

/-- The publication, with its reconciliation. -/
theorem wp_publishRevisionWithReconciliation :
    wp (P.contract plan)
      (publishRevisionWithReconciliation tools P.staging P.entry.name P.record P.bytes
        P.entry.sha256)
      (fun _ _ view => view.phase ≠ .escaped) (fun e _ view => Failure P e view) ()
      ⟨P.old, .unpublished⟩ := by
  rw [publishRevisionWithReconciliation, wp_handle, wp_bind,
    publishCreateOnlyPlatform, wp_bind]
  apply wp_mono wp_stageRevision
  · rintro file _ ⟨directory, _⟩ ⟨rfl, rfl, hat⟩
    apply wp_mono (wp_finishRevision hat)
    · intro _ _ _ ⟨hphase, _⟩ hescaped
      rw [hphase] at hescaped
      cases hescaped
    · intro _ _ _ hunfinished
      cases hunfinished with
      | escaped _ hat _ => exact .escaped rfl rfl (.inr hat)
      | uncertain _ hat hstage _ => exact wp_reconcilePublication hat hstage
  · intro e _ view ⟨hunpublished, _, hcertain⟩
    cases e with
    | commitUncertain reason => exact absurd rfl (hcertain reason)
    | _ => exact .unpublished hunpublished

/-! ### What a fault and a crash leave -/

/-- The revision files of a directory. -/
def finalFiles (directory : UnixDirectory) : List RevisionFile :=
  directory.revisions.files.filter fun file => !isRevisionStagingName file.name

/-- The revisions, without staging files. -/
theorem At.finalFiles (hat : P.At stage directory) : Publication.finalFiles directory =
    P.old.revisions.files ++
      if stage = .linked ∨ stage = .published then [⟨P.entry.name, P.bytes⟩] else [] := by
  have hold : P.old.revisions.files.filter (fun file => !isRevisionStagingName file.name) =
      P.old.revisions.files := by
    apply List.filter_eq_self.mpr
    intro file hmem
    rw [notStaging_of_scan P.scanned file hmem]
    rfl
  have hstaging := P.isStaging
  have hfinal := P.final_notStaging
  have hwritten := hat.written
  rw [Publication.finalFiles, hat.files, List.filter_append, hold]
  cases stage <;> simp_all [Publication.links]

/-- An error that is not uncertain leaves the revision files alone. -/
def KeepsRevisions (P : Publication tools) (result : StoreResult Bool) (directory : UnixDirectory) :
    Prop :=
  ∀ e, result = .error e → e.isOrdinary = true →
    Publication.finalFiles directory = P.old.revisions.files

/-- A failure keeps the promise unless a fault escaped. -/
theorem Failure.keepsRevisions_iff (h : Failure P e view) :
    P.KeepsRevisions (.error e) view.directory ↔ view.phase ≠ .escaped := by
  cases h with
  | unpublished h =>
    obtain ⟨hphase, hat⟩ := h
    refine ⟨fun _ hescaped => ?_, fun _ _ _ _ => ?_⟩
    · rw [hphase] at hescaped
      cases hescaped
    · obtain hat | hat := hat
      · simp [hat.finalFiles]
      · simp [hat.finalFiles]
  | escaped hordinary hphase hat =>
    refine ⟨fun hkeeps => ?_, fun hne => absurd hphase hne⟩
    have hsame := hkeeps e rfl hordinary
    obtain hat | hat := hat
    · simp [hat.finalFiles] at hsame
    · simp [hat.finalFiles] at hsame
  | uncertain huncertain hphase =>
    refine ⟨fun _ hescaped => ?_, fun _ e' he' hordinary => ?_⟩
    · rw [hphase] at hescaped
      cases hescaped
    · rw [← Except.error.inj he', huncertain] at hordinary
      exact absurd hordinary Bool.false_ne_true

/-- After recovery no staging file is left, and the chain is the old one or has the complete new
    revision. -/
def Recovered (P : Publication tools) (directory : UnixDirectory) : Prop :=
  (∀ entry ∈ directory.entries, isRevisionStagingName entry.name = false) ∧
    (directory.revisions = P.old.revisions ∧ directory.scanRevisionFiles tools = .ok P.entries ∨
      directory.revisions = P.target ∧
        directory.scanRevisionFiles tools = .ok (P.entries ++ [P.entry]) ∧
        directory.readDecodedRevision tools P.entry =
          .ok ⟨P.record, jobRevisionSchemaVersion, P.bytes⟩)

/-- Without the staging name the directory is recovered. -/
theorem At.recovered (hat : P.At stage.unstaged directory) : P.Recovered directory := by
  constructor
  · intro entry hmem
    have hname : entry.name ∈ directory.entries.map (·.name) := List.mem_map_of_mem hmem
    have hpaths := hat.revisionStagingPaths
    rw [hat.names] at hname
    obtain hold | hnew := List.mem_append.mp hname
    · obtain ⟨parsed, hparsed⟩ := P.old_parses hold
      exact isStaging_of_parse hparsed
    · have hfinal : entry.name = P.entry.name := by
        cases stage <;> simp_all [Publication.links, Stage.unstaged]
      rw [hfinal]
      exact P.final_notStaging
  · cases stage with
    | untouched => exact .inl ⟨hat.revisions_untouched, hat.scan_untouched⟩
    | staged => exact .inl ⟨hat.revisions_untouched, hat.scan_untouched⟩
    | linked => exact .inr ⟨hat.revisions_published, hat.scan_published, hat.read_published⟩
    | published => exact .inr ⟨hat.revisions_published, hat.scan_published, hat.read_published⟩

variable {history : History FileCall FileAnswer}

/-- Wherever a publication is, it is in one of its stages. -/
theorem exists_stage (hgood : (P.contract plan).Guaranteed ⟨P.old, .unpublished⟩ history) :
    ∃ stage, P.At stage ((P.contract plan).view ⟨P.old, .unpublished⟩ history).directory := by
  cases history with
  | nil => exact ⟨_, P.at_old⟩
  | cons event history => exact hgood.1

/-- Recovery from any stage, whatever fails in it. -/
theorem recovers_at_every_stage (hat : P.At stage directory) {result : StoreResult Unit}
    (hruns : Prog.Runs (recoverRevisionStaging tools ()) history (.ret (result, ())))
    (hassumed : (P.contract plan).Assumed ⟨directory, .reconciling⟩ history) :
    (result = .ok () →
      P.Recovered ((P.contract plan).view ⟨directory, .reconciling⟩ history).directory) ∧
    ((∀ call, plan call = .never) → result = .ok ()) := by
  have hwp := (Prog.wp_of_runs (wp_recoverRevisionStaging hat) hruns hassumed).2
  cases result with
  | ok _ => exact ⟨fun _ => At.recovered hwp.2, fun _ => rfl⟩
  | error e =>
    obtain ⟨⟨call, hcall⟩, -⟩ := hwp
    exact ⟨fun hok => (nomatch hok), fun hnever => absurd (hnever call) hcall⟩

end Publication

/-- At every point of a publication, with any faults until then, the next recovery that succeeds
    leaves no staging file and the old chain or the new one, and it succeeds when nothing fails in
    it. A publication that returns has kept the revision files under an ordinary error exactly
    when no fault escaped after the link. -/
theorem publication_faults {tools : StoreTools} (P : Publication tools) (plan : FileCall → Fault)
    (history : History FileCall FileAnswer)
    (rest : Prog FileCall FileAnswer (StoreResult Bool × Unit))
    (hruns : Prog.Runs (publishRevisionWithReconciliation tools P.staging P.entry.name P.record
      P.bytes P.entry.sha256 ()) history rest)
    (hassumed : (P.contract plan).Assumed ⟨P.old, .unpublished⟩ history) :
    (∀ recoveryPlan recovery result,
      Prog.Runs (recoverRevisionStaging tools ()) recovery (.ret (result, ())) →
      (P.contract recoveryPlan).Assumed
        ⟨((P.contract plan).view ⟨P.old, .unpublished⟩ history).directory, .reconciling⟩
        recovery →
      (result = .ok () → P.Recovered ((P.contract recoveryPlan).view
        ⟨((P.contract plan).view ⟨P.old, .unpublished⟩ history).directory, .reconciling⟩
        recovery).directory) ∧
      ((∀ call, recoveryPlan call = .never) → result = .ok ())) ∧
    ∀ result, rest = .ret (result, ()) →
      (P.KeepsRevisions result ((P.contract plan).view ⟨P.old, .unpublished⟩ history).directory ↔
        ((P.contract plan).view ⟨P.old, .unpublished⟩ history).phase ≠ .escaped) := by
  obtain ⟨hgood, hrest⟩ :=
    Prog.wp_of_runs Publication.wp_publishRevisionWithReconciliation hruns hassumed
  obtain ⟨stage, hat⟩ := Publication.exists_stage hgood
  refine ⟨fun _ _ _ hruns hassumed => Publication.recovers_at_every_stage hat hruns hassumed, ?_⟩
  rintro result rfl
  cases result with
  | ok _ => exact ⟨fun _ => hrest, fun _ _ herror => nomatch herror⟩
  | error e => exact Publication.Failure.keepsRevisions_iff hrest

end

namespace Sample

/-- Every call succeeds until the directory is synced for the last time. -/
def unsynced (call : FileCall) : Fault := if call = .syncDirectory then .certain else .never

theorem not_faulty_unsynced : ¬Publication.Faulty unsynced := by
  intro hparts
  obtain ⟨call, hcall, hplan⟩ := hparts
  rw [unsynced, if_neg hcall] at hplan
  exact hplan rfl

/-- Such a publication fails with an ordinary error, and its revision is there. -/
theorem wp_unsynced (P : Publication tools) :
    wp (P.contract unsynced)
      (publishRevisionWithReconciliation tools P.staging P.entry.name P.record P.bytes
        P.entry.sha256)
      (fun _ _ _ => False)
      (fun e _ view => e.isOrdinary = true ∧ P.At .published view.directory) ()
      ⟨P.old, .unpublished⟩ := by
  rw [publishRevisionWithReconciliation, wp_handle, wp_bind,
    publishCreateOnlyPlatform, wp_bind]
  apply wp_mono Publication.wp_stageRevision
  · rintro file _ ⟨directory, _⟩ ⟨rfl, rfl, hat⟩
    apply wp_mono (Publication.wp_finishRevision hat)
    · intro _ _ _ ⟨_, _, hplan⟩
      exact hplan (if_pos rfl)
    · intro _ _ _ hunfinished
      cases hunfinished with
      | escaped _ hat _ => exact ⟨rfl, hat⟩
      | uncertain _ _ _ hfaulty => exact absurd hfaulty not_faulty_unsynced
  · intro _ _ _ ⟨_, hfaulty, _⟩
    exact absurd hfaulty not_faulty_unsynced

/-- What the calls of such a publication answer. -/
def unsyncedAnswer (tools : StoreTools) (view : PublicationView) (call : FileCall) :
    FileAnswer call :=
  if call = .syncDirectory then .error ⟨"sync revision directory", 0⟩
  else view.directory.answer tools call

theorem assume_unsyncedAnswer (P : Publication tools) (view : PublicationView) (call : FileCall) :
    (P.contract unsynced).assume view call (unsyncedAnswer tools view call) := by
  by_cases hcall : call = .syncDirectory
  · simp only [Publication.contract, unsynced, unsyncedAnswer, if_pos hcall]
    exact ⟨_, rfl⟩
  · simp only [Publication.contract, unsynced, unsyncedAnswer, if_neg hcall]

/-- The job before its first revision. -/
def unixEmpty : UnixDirectory where
  owner := created.localJobId
  entries := []
  contents := fun _ => []
  nextInode := 0
  distinct := List.nodup_nil
  used := fun _ hmem => nomatch hmem

/-- The publication of its first revision. -/
theorem exists_publication_created : ∃ P : Publication store, P.old = unixEmpty := by
  obtain ⟨chain, haccepted⟩ := scan_eq_ok_iff.mp scan_empty
  obtain ⟨result, hrun, hpublished⟩ := run_created
  have hfaithful : ∀ record, result.published = some record →
      FaithfulRecord store.codec record := by
    intro record hrecord
    rw [hpublished] at hrecord
    rw [← Option.some.inj hrecord]
    exact faithful_created
  have hclosed := haccepted.createRevision_closed isLowerSha256_sha256 hfaithful rfl hrun
  obtain ⟨hnone, -⟩ | ⟨record, -, hrecord⟩ := hclosed
  · rw [hpublished] at hnone
    exact absurd hnone (Option.some_ne_none _)
  · have hstaging :
        isRevisionStagingName ".revision-00000000000000000000000000000000.tmp" = true := by decide
    have hscan : scanRevisionFiles store unixEmpty.revisions = .ok [] := scan_empty
    obtain ⟨P, hold, -⟩ := exists_publication hscan List.nodup_nil hstaging hrecord
    exact ⟨P, hold⟩

/-- A publication that ends with an ordinary error and leaves its revision. -/
structure UnsyncedRun (P : Publication store) (history : History FileCall FileAnswer)
    (result : StoreResult Bool) : Prop where
  runs : Prog.Runs (publishRevisionWithReconciliation store P.staging P.entry.name P.record
    P.bytes P.entry.sha256 ()) history (.ret (result, ()))
  assumed : (P.contract unsynced).Assumed ⟨P.old, .unpublished⟩ history
  failed : ∃ e, result = .error e ∧ e.isOrdinary = true
  published : P.At .published ((P.contract unsynced).view ⟨P.old, .unpublished⟩ history).directory

theorem exists_unsyncedRun : ∃ P history result, UnsyncedRun P history result := by
  obtain ⟨P, -⟩ := exists_publication_created
  obtain ⟨history, ⟨result, _⟩, hruns, hassumed, hend⟩ := Prog.exists_runs_of_wp
    (assume_unsyncedAnswer P) .start trivial (wp_unsynced P)
  cases result with
  | ok _ => exact hend.elim
  | error e => exact ⟨P, history, .error e, hruns, hassumed, ⟨e, rfl, hend.1⟩, hend.2⟩

theorem UnsyncedRun.not_keepsRevisions {P : Publication store}
    {history : History FileCall FileAnswer} {result : StoreResult Bool}
    (h : UnsyncedRun P history result) : ¬P.KeepsRevisions result
      ((P.contract unsynced).view ⟨P.old, .unpublished⟩ history).directory := by
  intro hkeeps
  obtain ⟨e, he, hordinary⟩ := h.failed
  have hsame := hkeeps e he hordinary
  rw [h.published.finalFiles, if_pos (.inr rfl)] at hsame
  simp at hsame

/-- The recovery after it, when nothing fails. -/
theorem UnsyncedRun.exists_recovery {P : Publication store}
    {history : History FileCall FileAnswer} {result : StoreResult Bool}
    (h : UnsyncedRun P history result) : ∃ recovery result',
      Prog.Runs (recoverRevisionStaging store ()) recovery (.ret (result', ())) ∧
      (P.contract fun _ => .never).Assumed
        ⟨((P.contract unsynced).view ⟨P.old, .unpublished⟩ history).directory, .reconciling⟩
        recovery := by
  have hanswer : ∀ view call, (P.contract fun _ => .never).assume view call
      (view.directory.answer store call) := fun _ _ => rfl
  obtain ⟨recovery, ⟨result', _⟩, hruns, hassumed, -⟩ := Prog.exists_runs_of_wp hanswer .start
    trivial (Publication.wp_recoverRevisionStaging h.published)
  exact ⟨recovery, result', hruns, hassumed⟩

/-- The last directory sync of the first revision fails: recovery finds the revision. -/
theorem publication_faults_unsynced : ∃ (P : Publication store) (history : _) (result : _)
    (recovery : _), UnsyncedRun P history result ∧
      Prog.Runs (recoverRevisionStaging store ()) recovery (.ret (.ok (), ())) ∧
      P.Recovered ((P.contract fun _ => .never).view
        ⟨((P.contract unsynced).view ⟨P.old, .unpublished⟩ history).directory, .reconciling⟩
        recovery).directory ∧
      ((P.contract unsynced).view ⟨P.old, .unpublished⟩ history).phase = .escaped := by
  obtain ⟨P, history, result, h⟩ := exists_unsyncedRun
  obtain ⟨recovery, result', hruns, hassumed⟩ := h.exists_recovery
  obtain ⟨hrecovery, hreturned⟩ := publication_faults P unsynced history _ h.runs h.assumed
  obtain ⟨hrecovered, hok⟩ := hrecovery _ recovery result' hruns hassumed
  obtain rfl := hok fun _ => rfl
  refine ⟨P, history, result, recovery, h, hruns, hrecovered rfl, ?_⟩
  by_contra hphase
  exact h.not_keepsRevisions ((hreturned result rfl).mpr hphase)

/-- An ordinary error can leave one more revision. -/
theorem unsynced_revision_left : ¬∀ (P : Publication store) (plan : FileCall → Fault)
    (history : History FileCall FileAnswer) (result : StoreResult Bool),
    Prog.Runs (publishRevisionWithReconciliation store P.staging P.entry.name P.record P.bytes
      P.entry.sha256 ()) history (.ret (result, ())) →
    (P.contract plan).Assumed ⟨P.old, .unpublished⟩ history →
    P.KeepsRevisions result
      ((P.contract plan).view ⟨P.old, .unpublished⟩ history).directory := by
  intro hall
  obtain ⟨P, history, result, h⟩ := exists_unsyncedRun
  exact h.not_keepsRevisions (hall P unsynced history result h.runs h.assumed)

end Sample

end RustFerry.JobStore
