import RustFerry.Spec.RevisionFiles
import RustFerry.Spec.SuccessEvidence

/-!
# Scanned directories and their chains

A directory that the scan accepts holds a chain: its entries have the revisions 1, 2, …,
each file decodes with the digest of the file before it, legacy revisions come first, and
the records form an accepted chain. Every operation of the store keeps this.
-/

namespace RustFerry.JobStore

open Remote Github Except Serde

section

variable {file : RevisionFile} {bigger : RevisionDirectory} {entry latest : RevisionEntry}
  {record : StoredJobV1}

/-! ## Chains of decoded revisions -/

/-- The entries of a directory and what they decode to, oldest first. -/
inductive ScannedChain (tools : StoreTools) (directory : RevisionDirectory) :
    List RevisionEntry → List DecodedRevision → Prop where
  | nil : ScannedChain tools directory [] []
  | snoc {entries : List RevisionEntry} {chain : List DecodedRevision} {entry : RevisionEntry}
      {decoded : DecodedRevision} (rest : ScannedChain tools directory entries chain)
      (read : readDecodedRevisionWithPrevious tools directory entry
        (entries.getLast?.map (·.sha256)) = .ok decoded)
      (legacy : decoded.schemaVersion = legacyJobRevisionSchemaVersion →
        ∀ earlier ∈ chain, earlier.schemaVersion = legacyJobRevisionSchemaVersion)
      (owner : decoded.record.localJobId = directory.owner)
      (successor : ∀ previous, chain.getLast? = some previous →
        validateSuccessor tools.resume previous.record decoded.record = .ok ()) :
      ScannedChain tools directory (entries ++ [entry]) (chain ++ [decoded])

section Chains

variable {tools : StoreTools} {directory : RevisionDirectory} {entries : List RevisionEntry}
  {chain : List DecodedRevision}

/-- When a revision is read. -/
theorem readDecodedRevisionWithPrevious_eq_ok {previous : Option String} {decoded :
      DecodedRevision} :
    readDecodedRevisionWithPrevious tools directory entry previous = .ok decoded ↔
      ∃ file, directory.find entry.name = some file ∧
        file.bytes.length ≤ maxJobRevisionBytes ∧ tools.sha256 file.bytes = entry.sha256 ∧
        decodeRevisionBytes tools file.bytes entry.revision previous = .ok decoded := by
  rw [readDecodedRevisionWithPrevious]
  cases hfind : directory.find entry.name with
  | none => simp
  | some file =>
    simp only [check_bind_eq_ok, rejectIf_eq_ok, decide_eq_false_iff_not, not_lt, gt_iff_lt,
      bne_eq_false_iff_eq, Option.some.injEq, exists_eq_left']

/-- A decoded revision has one of the two schemas. -/
theorem schema_of_read {previous : Option String} {decoded : DecodedRevision}
    (h : readDecodedRevisionWithPrevious tools directory entry previous = .ok decoded) :
    decoded.schemaVersion = legacyJobRevisionSchemaVersion ∨
      decoded.schemaVersion = jobRevisionSchemaVersion := by
  obtain ⟨file, -, -, -, hdecode⟩ := readDecodedRevisionWithPrevious_eq_ok.mp h
  cases (decodeRevisionBytes_eq_ok hdecode).encoding with
  | inl hlegacy => exact Or.inl hlegacy.1
  | inr hv2 => exact Or.inr hv2.1

/-- What the loop of the scan remembers of a chain. -/
def scanStateOf (entries : List RevisionEntry) (chain : List DecodedRevision) : ScanState where
  sawV2 := chain.any fun decoded => decoded.schemaVersion = jobRevisionSchemaVersion
  previous := match entries.getLast?, chain.getLast? with
    | some entry, some decoded => some (entry.sha256, decoded.record)
    | _, _ => none

section

variable (h : ScannedChain tools directory entries chain)

include h

/-- One record for each entry. -/
theorem ScannedChain.length_eq : entries.length = chain.length := by
  induction h with
  | nil => rfl
  | snoc _ _ _ _ _ ih => simp [ih]

theorem ScannedChain.schema : ∀ decoded ∈ chain,
    decoded.schemaVersion = legacyJobRevisionSchemaVersion ∨
      decoded.schemaVersion = jobRevisionSchemaVersion := by
  induction h with
  | nil => intro decoded hmem; cases hmem
  | snoc _ read _ _ _ ih =>
    intro decoded hmem
    cases List.mem_append.mp hmem with
    | inl hold => exact ih decoded hold
    | inr hlast =>
      rw [List.mem_singleton.mp hlast]
      exact schema_of_read read

/-- Both lists of a chain end together. -/
theorem ScannedChain.getLast?_cases :
    entries = [] ∧ chain = [] ∨ ∃ entry decoded, entries.getLast? = some entry ∧
      chain.getLast? = some decoded := by
  cases h with
  | nil => exact Or.inl ⟨rfl, rfl⟩
  | snoc _ _ _ _ _ => exact Or.inr ⟨_, _, List.getLast?_concat, List.getLast?_concat⟩

theorem scanStateOf_previous_map :
    (scanStateOf entries chain).previous.map (·.1) = entries.getLast?.map (·.sha256) := by
  cases h.getLast?_cases with
  | inl hnil => simp [scanStateOf, hnil.1, hnil.2]
  | inr hlast =>
    obtain ⟨entry, decoded, he, hd⟩ := hlast
    simp [scanStateOf, he, hd]

theorem sawV2_scanStateOf :
    (scanStateOf entries chain).sawV2 = false ↔
      ∀ decoded ∈ chain, decoded.schemaVersion = legacyJobRevisionSchemaVersion := by
  simp only [scanStateOf, List.any_eq_false, decide_eq_true_eq]
  constructor
  · intro hall decoded hmem
    exact (h.schema decoded hmem).resolve_right (hall decoded hmem)
  · intro hall decoded hmem hv2
    exact absurd ((hall decoded hmem).symm.trans hv2) (by decide)

end

/-- What a chain says of its last revision. -/
theorem ScannedChain.last {decoded : DecodedRevision}
    (h : ScannedChain tools directory (entries ++ [entry]) (chain ++ [decoded])) :
    readDecodedRevisionWithPrevious tools directory entry (entries.getLast?.map (·.sha256)) =
        .ok decoded ∧
      (decoded.schemaVersion = legacyJobRevisionSchemaVersion →
        ∀ earlier ∈ chain, earlier.schemaVersion = legacyJobRevisionSchemaVersion) ∧
      decoded.record.localJobId = directory.owner ∧
      ∀ previous, chain.getLast? = some previous →
        validateSuccessor tools.resume previous.record decoded.record = .ok () := by
  generalize hentries : entries ++ [entry] = allEntries at h
  generalize hchain : chain ++ [decoded] = all at h
  cases h with
  | nil => simp at hchain
  | snoc _ read legacy owner successor =>
    obtain ⟨rfl, rfl⟩ := List.append_singleton_inj.mp hentries
    obtain ⟨rfl, rfl⟩ := List.append_singleton_inj.mp hchain
    exact ⟨read, legacy, owner, successor⟩

/-- A chain without its last revision. -/
theorem ScannedChain.front (h : ScannedChain tools directory (entries ++ [entry]) chain) :
    ∃ rest decoded, chain = rest ++ [decoded] ∧ ScannedChain tools directory entries rest := by
  generalize hentries : entries ++ [entry] = all at h
  cases h with
  | nil => simp at hentries
  | snoc rest _ _ _ _ =>
    obtain ⟨rfl, rfl⟩ := List.append_singleton_inj.mp hentries
    exact ⟨_, _, rfl, rest⟩

/-- One step of the loop adds one revision to the chain. -/
theorem scanRevision_eq_ok (h : ScannedChain tools directory entries chain) {state : ScanState} :
    scanRevision tools directory (scanStateOf entries chain) entry = .ok state ↔
      ∃ decoded, ScannedChain tools directory (entries ++ [entry]) (chain ++ [decoded]) ∧
        state = scanStateOf (entries ++ [entry]) (chain ++ [decoded]) := by
  have hsuccessor : ∀ record, forSome (scanStateOf entries chain).previous
      (fun previous => validateSuccessor tools.resume previous.2 record) = .ok () ↔
      ∀ previous, chain.getLast? = some previous →
        validateSuccessor tools.resume previous.record record = .ok () := by
    intro record
    rw [forSome_eq_ok]
    cases h.getLast?_cases with
    | inl hnil => simp [scanStateOf, hnil.1, hnil.2]
    | inr hlast =>
      obtain ⟨last, decoded, he, hd⟩ := hlast
      simp [scanStateOf, he, hd]
  have hstate : ∀ decoded : DecodedRevision,
      (⟨(scanStateOf entries chain).sawV2 || decoded.schemaVersion = jobRevisionSchemaVersion,
        some (entry.sha256, decoded.record)⟩ : ScanState) =
      scanStateOf (entries ++ [entry]) (chain ++ [decoded]) := by
    intro decoded
    simp [scanStateOf]
  rw [scanRevision, bind_eq_ok, scanStateOf_previous_map h]
  simp only [check_bind_eq_ok, rejectIf_eq_ok, Bool.and_eq_false_imp, decide_eq_true_eq,
    sawV2_scanStateOf h, decide_eq_false_iff_not, ne_eq, not_not, hsuccessor, hstate]
  constructor
  · intro hparts
    obtain ⟨decoded, hread, hlegacy, howner, hnext, hresult⟩ := hparts
    exact ⟨decoded, .snoc h hread hlegacy howner hnext, (Except.ok.inj hresult).symm⟩
  · intro hparts
    obtain ⟨decoded, hchain, hresult⟩ := hparts
    obtain ⟨hread, hlegacy, howner, hnext⟩ := hchain.last
    exact ⟨decoded, hread, hlegacy, howner, hnext, hresult ▸ rfl⟩

/-- The loop of the scan succeeds exactly on the entries of a chain. -/
theorem foldlM_scanRevision {state : ScanState} :
    entries.foldlM (scanRevision tools directory) ⟨false, none⟩ = .ok state ↔
      ∃ chain, ScannedChain tools directory entries chain ∧ state = scanStateOf entries chain := by
  -- the newest revision is the last one scanned
  induction entries using List.reverseRecOn generalizing state with
  | nil =>
    constructor
    · intro h
      cases h
      exact ⟨[], .nil, rfl⟩
    · intro hparts
      obtain ⟨chain, hchain, hstate⟩ := hparts
      have hnil : chain = [] := List.length_eq_zero_iff.mp hchain.length_eq.symm
      rw [hstate, hnil]
      rfl
  | append_singleton entries entry ih =>
    rw [List.foldlM_append, bind_eq_ok]
    constructor
    · intro hparts
      obtain ⟨middle, hfold, hlast⟩ := hparts
      obtain ⟨chain, hchain, rfl⟩ := ih.mp hfold
      rw [List.foldlM_cons, bind_eq_ok] at hlast
      obtain ⟨next, hnext, hdone⟩ := hlast
      cases hdone
      obtain ⟨decoded, hscanned, hstate⟩ := (scanRevision_eq_ok hchain).mp hnext
      exact ⟨_, hscanned, hstate⟩
    · intro hparts
      obtain ⟨chain, hchain, hstate⟩ := hparts
      obtain ⟨front, decoded, hsplit, hfront⟩ := hchain.front
      subst hsplit
      refine ⟨_, ih.mpr ⟨front, hfront, rfl⟩, ?_⟩
      rw [List.foldlM_cons, bind_eq_ok]
      exact ⟨state, (scanRevision_eq_ok hfront).mpr ⟨decoded, hchain, hstate⟩, rfl⟩

/-! ## Accepted directories -/

/-- One file of the scan and its entry. -/
structure ScannedFile (file : RevisionFile) (entry : RevisionEntry) : Prop where
  notStaging : isRevisionStagingName file.name = false
  parsed : parseRevisionFilename file.name = .ok (entry.revision, entry.sha256)
  name : entry.name = file.name
  size : file.bytes.length ≤ maxJobRevisionBytes

/-- When an entry is scanned. -/
theorem scanEntry_eq_ok {index : Nat} :
    scanEntry file index = .ok entry ↔
      index + 1 ≤ maxRevisionsPerJob * 2 ∧ ScannedFile file entry := by
  rw [scanEntry, check_bind_eq_ok, check_bind_eq_ok, bind_eq_ok]
  simp only [check_bind_eq_ok, rejectIf_eq_ok, decide_eq_false_iff_not, not_lt, gt_iff_lt]
  constructor
  · intro hparts
    obtain ⟨hindex, hstaging, ⟨revision, sha256⟩, hparse, hsize, hentry⟩ := hparts
    cases hentry
    exact ⟨hindex, hstaging, hparse, rfl, hsize⟩
  · intro hparts
    obtain ⟨hindex, hstaging, hparse, hname, hsize⟩ := hparts
    refine ⟨hindex, hstaging, _, hparse, hsize, ?_⟩
    rw [← hname]
    rfl

/-- What the scan accepts: the files and the chain of their sorted entries. -/
structure Accepted (tools : StoreTools) (directory : RevisionDirectory)
    (entries : List RevisionEntry) (chain : List DecodedRevision) : Prop where
  bound : directory.files.length ≤ maxRevisionsPerJob
  files : ∃ raw, List.Forall₂ ScannedFile directory.files raw ∧ raw.Perm entries
  contiguous : entries.map (·.revision) = List.range' 1 entries.length
  scanned : ScannedChain tools directory entries chain

theorem contiguous_iff :
    (entries.zipIdx.any fun (entry, index) => entry.revision != index + 1) = false ↔
      entries.map (·.revision) = List.range' 1 entries.length := by
  rw [List.any_eq_false]
  constructor
  · intro h
    apply List.ext_getElem
    · simp
    · intro i hi _
      have hlength : i < entries.length := by simpa using hi
      have hmem : (entries[i], i) ∈ entries.zipIdx :=
        List.mem_zipIdx_iff_getElem?.mpr (List.getElem?_eq_getElem hlength)
      have hrevision : entries[i].revision = i + 1 := by simpa using h _ hmem
      simp [hrevision, Nat.add_comm]
  · intro h ⟨entry, i⟩ hmem
    have hget := List.mk_mem_zipIdx_iff_getElem?.mp hmem
    have hrevision := congrArg (·[i]?) h
    obtain ⟨hi, rfl⟩ := List.getElem?_eq_some_iff.mp hget
    have heq : entries[i].revision = 1 + i := by simpa [hi] using hrevision
    simp [heq, Nat.add_comm]

theorem sorted_of_contiguous (h : entries.map (·.revision) = List.range' 1 entries.length) :
    entries.Pairwise fun a b => a.revision < b.revision := by
  rw [← List.pairwise_map, h]
  exact List.pairwise_lt_range'

/-- Entries with increasing revisions are what sorting any order of them gives. -/
theorem mergeSort_eq_of_perm {raw entries : List RevisionEntry} (hperm : raw.Perm entries)
    (hsorted : entries.Pairwise fun a b => a.revision < b.revision) :
    raw.mergeSort (fun a b => a.revision ≤ b.revision) = entries := by
  have htrans : ∀ a b c : RevisionEntry, decide (a.revision ≤ b.revision) = true →
      decide (b.revision ≤ c.revision) = true → decide (a.revision ≤ c.revision) = true := by
    simp only [decide_eq_true_eq]
    omega
  have htotal : ∀ a b : RevisionEntry,
      (decide (a.revision ≤ b.revision) || decide (b.revision ≤ a.revision)) = true := by
    simp only [Bool.or_eq_true, decide_eq_true_eq]
    omega
  have hle := List.pairwise_mergeSort htrans htotal raw
  apply List.Perm.eq_of_pairwise _ hle (hsorted.imp fun h => by simpa using Nat.le_of_lt h)
    ((List.mergeSort_perm raw _).trans hperm)
  intro a b ha hb hab hba
  have hequal : a.revision = b.revision := by simp at hab hba; omega
  have hain : a ∈ entries := hperm.mem_iff.mp (List.mem_mergeSort.mp ha)
  cases hsorted.eq_or_rel hain hb with
  | inl heq => exact heq
  | inr hlt => omega

/-- What an accepted directory is. -/
theorem scan_eq_ok_iff :
    scanRevisionFiles tools directory = .ok entries ↔
      ∃ chain, Accepted tools directory entries chain := by
  have hfst : directory.files.zipIdx.map Prod.fst = directory.files := List.zipIdx_map_fst _ _
  rw [scanRevisionFiles, bind_eq_ok]
  constructor
  · intro hparts
    obtain ⟨raw, hraw, h⟩ := hparts
    have hfiles : List.Forall₂ ScannedFile directory.files raw := by
      rw [← hfst, List.forall₂_map_left_iff]
      exact (mapM_eq_ok.mp hraw).imp fun _ _ hentry => (scanEntry_eq_ok.mp hentry).2
    rw [validateScannedRevisionChain, check_bind_eq_ok, check_bind_eq_ok, bind_eq_ok] at h
    obtain ⟨hbound, hcontiguous, state, hfold, hentries⟩ := h
    cases hentries
    obtain ⟨chain, hchain, -⟩ := foldlM_scanRevision.mp hfold
    exact ⟨chain, by simpa [hfiles.length_eq] using hbound,
      ⟨raw, hfiles, (List.mergeSort_perm raw _).symm⟩, contiguous_iff.mp (by simpa using hcontiguous),
      hchain⟩
  · intro hparts
    obtain ⟨chain, hbound, ⟨raw, hfiles, hperm⟩, hcontiguous, hchain⟩ := hparts
    -- the order of the listing does not matter
    have hsorted := mergeSort_eq_of_perm hperm (sorted_of_contiguous hcontiguous)
    refine ⟨raw, ?_, ?_⟩
    · apply mapM_eq_ok.mpr
      have hindex : ∀ p ∈ directory.files.zipIdx, p.2 + 1 ≤ maxRevisionsPerJob * 2 := by
        intro slot hmem
        obtain ⟨file, index⟩ := slot
        obtain ⟨hi, -⟩ := List.getElem?_eq_some_iff.mp (List.mem_zipIdx_iff_getElem?.mp hmem)
        show index + 1 ≤ _
        omega
      rw [← hfst, List.forall₂_map_left_iff] at hfiles
      have hboth := (List.forall₂_and_left _ _).mpr ⟨hindex, hfiles⟩
      exact hboth.imp fun _ _ hentry => scanEntry_eq_ok.mpr hentry
    · rw [validateScannedRevisionChain, check_bind_eq_ok, check_bind_eq_ok, bind_eq_ok, hsorted]
      refine ⟨by simpa [← hfiles.length_eq] using hbound, ?_, _,
        foldlM_scanRevision.mpr ⟨chain, hchain, rfl⟩, rfl⟩
      simpa using contiguous_iff.mpr hcontiguous

/-! ## The chain of an accepted directory -/

/-- What each entry of a chain decodes to. -/
theorem ScannedChain.decoded (h : ScannedChain tools directory entries chain) :
    List.Forall₂ (fun entry decoded => ∃ file previous,
      directory.find entry.name = some file ∧ tools.sha256 file.bytes = entry.sha256 ∧
      DecodedOk tools file.bytes entry.revision previous decoded) entries chain := by
  induction h with
  | nil => exact .nil
  | snoc _ read _ _ _ ih =>
    obtain ⟨file, hfind, -, hsha256, hdecode⟩ := readDecodedRevisionWithPrevious_eq_ok.mp read
    exact List.rel_append ih
      (.cons ⟨file, _, hfind, hsha256, decodeRevisionBytes_eq_ok hdecode⟩ .nil)

/-- Neighbours pass the successor rules. -/
theorem ScannedChain.steps (h : ScannedChain tools directory entries chain) :
    (chain.map (·.record)).IsChain (AcceptedStep tools.resume) := by
  induction h with
  | nil => exact .nil
  | snoc _ read _ _ successor ih =>
    obtain ⟨file, -, -, -, hdecode⟩ := readDecodedRevisionWithPrevious_eq_ok.mp read
    rw [List.map_append, List.isChain_append]
    refine ⟨ih, .singleton _, ?_⟩
    intro previous hprevious next hnext
    rw [List.getLast?_map] at hprevious
    obtain ⟨last, hlast, rfl⟩ := Option.map_eq_some_iff.mp hprevious
    cases hnext
    exact ⟨(decodeRevisionBytes_eq_ok hdecode).valid, successor last hlast⟩

/-- The records of an accepted directory are an accepted chain. -/
theorem Accepted.acceptedChain (h : Accepted tools directory entries chain) :
    AcceptedChain tools.resume (chain.map (·.record)) := by
  refine ⟨?_, h.scanned.steps⟩
  intro record hrecord
  cases h.scanned.decoded with
  | nil => cases hrecord
  | @cons entry decoded entries chain hdecoded _ =>
    cases hrecord
    obtain ⟨file, previous, -, -, hok⟩ := hdecoded
    have hfirst : entry.revision = 1 := by
      have hcontiguous := h.contiguous
      simpa [List.range'_succ] using congrArg List.head? hcontiguous
    have hinitial := hok.initial
    rw [validateIfInitial, if_pos (hok.sameRevision.trans hfirst)] at hinitial
    exact ⟨hok.valid, hinitial⟩

/-- The digest before a revision, as the loop over the names finds it. -/
theorem foldlM_findPredecessor {files : List RevisionFile} {raw : List RevisionEntry}
    (hfiles : List.Forall₂ ScannedFile files raw) {expected : Nat} {found : Option String}
    (hnodup : (raw.map (·.revision)).Nodup)
    (hfound : found.isSome → expected ∉ raw.map (·.revision)) :
    files.foldlM (findPredecessor expected) found =
      .ok (((raw.find? fun entry => entry.revision == expected).map (·.sha256)).or found) := by
  -- revisions are distinct, so at most one file is found
  induction hfiles generalizing found with
  | nil => simp [pure, Except.pure]
  | @cons file entry files raw hfile _ ih =>
    obtain ⟨hfresh, hrest⟩ := List.nodup_cons.mp hnodup
    have hstep : findPredecessor expected found file =
        .ok (if entry.revision = expected then some entry.sha256 else found) := by
      rw [findPredecessor, hfile.notStaging, if_neg (by decide), hfile.parsed]
      apply check_bind_eq_ok.mpr
      refine ⟨?_, rfl⟩
      rw [rejectIf_eq_ok, Bool.and_eq_false_imp, beq_iff_eq]
      intro heq
      cases hf : found.isSome with
      | false => rfl
      | true =>
        have hno := hfound hf
        simp [heq] at hno
    rw [List.foldlM_cons, hstep]
    show files.foldlM (findPredecessor expected)
      (if entry.revision = expected then some entry.sha256 else found) = _
    by_cases heq : entry.revision = expected
    · rw [if_pos heq, ih hrest (fun _ => heq ▸ hfresh)]
      have hnone : raw.find? (fun entry => entry.revision == expected) = none := by
        apply List.find?_eq_none.mpr
        intro other hmem hother
        apply hfresh
        have hsame : entry.revision = other.revision := heq.trans (beq_iff_eq.mp hother).symm
        show entry.revision ∈ _
        rw [hsame]
        exact List.mem_map_of_mem hmem
      simp [heq, hnone]
    · rw [if_neg heq, ih hrest (fun hf hmem => hfound hf (List.mem_cons_of_mem _ hmem))]
      simp [heq]

/-- Revisions are distinct. -/
theorem Accepted.nodup
    (h : Accepted tools directory entries chain) : (entries.map (·.revision)).Nodup := by
  rw [h.contiguous]
  exact List.nodup_range'

/-- The last entry of an accepted directory has the length of the chain as its revision. -/
theorem Accepted.last_revision {front : List RevisionEntry}
    (h : Accepted tools directory (front ++ [latest]) chain) :
    latest.revision = front.length + 1 := by
  have hlast := congrArg List.getLast? h.contiguous
  simpa [List.range'_concat, Nat.add_comm] using hlast

theorem Accepted.revision_eq (h : Accepted tools directory entries chain) {i : Nat}
    (hi : entries[i]? = some entry) : entry.revision = i + 1 := by
  obtain ⟨hlength, rfl⟩ := List.getElem?_eq_some_iff.mp hi
  have hrevision := congrArg (·[i]?) h.contiguous
  simpa [hlength, Nat.add_comm] using hrevision

/-- The predecessor of the last revision is the digest of the entry before it. -/
theorem Accepted.previous {front : List RevisionEntry}
    (h : Accepted tools directory (front ++ [latest]) chain) :
    previousRevisionSha256 directory latest.revision =
      .ok (front.getLast?.map (·.sha256)) := by
  have hrevision := h.last_revision
  rw [previousRevisionSha256]
  cases hfront : front.getLast? with
  | none =>
    rw [List.getLast?_eq_none_iff] at hfront
    rw [hrevision, hfront]
    rfl
  | some before =>
    have hne : front ≠ [] := by
      intro hnil
      rw [hnil] at hfront
      cases hfront
    have hpositive : 0 < front.length := List.length_pos_iff.mpr hne
    -- revisions count from one without a gap
    have hbefore : before.revision = front.length := by
      have hget : (front ++ [latest])[front.length - 1]? = some before := by
        rw [List.getElem?_append_left (by omega), ← List.getLast?_eq_getElem?, hfront]
      have := h.revision_eq hget
      omega
    obtain ⟨raw, hfiles, hperm⟩ := h.files
    have hnodup : (raw.map (·.revision)).Nodup := (hperm.map _).nodup_iff.mpr h.nodup
    have hmem : before ∈ raw :=
      hperm.mem_iff.mpr (List.mem_append_left _ (List.mem_of_getLast? hfront))
    have hfind : raw.find? (fun entry => entry.revision == latest.revision - 1) = some before := by
      cases hfound : raw.find? (fun entry => entry.revision == latest.revision - 1) with
      | none =>
        have hno := List.find?_eq_none.mp hfound before hmem
        simp [hbefore, hrevision] at hno
      | some found =>
        have hsame : found.revision = latest.revision - 1 := by simpa using List.find?_some hfound
        have hinside := List.mem_of_find?_eq_some hfound
        rw [List.inj_on_of_nodup_map hnodup hinside hmem (by omega)]
    rw [if_neg (by omega), bind_eq_ok]
    refine ⟨_, foldlM_findPredecessor hfiles hnodup (by simp), ?_⟩
    rw [hfind]
    rfl

/-- The last revision reads as the last record of the chain. -/
theorem Accepted.readLatest (h : Accepted tools directory entries chain)
    (hlatest : entries.getLast? = some latest) :
    ∃ decoded, chain.getLast? = some decoded ∧
      readDecodedRevision tools directory latest = .ok decoded ∧
      decoded.record.localJobId = directory.owner ∧
      decoded.record.revision = latest.revision := by
  obtain ⟨front, rfl⟩ := List.getLast?_eq_some_iff.mp hlatest
  obtain ⟨rest, decoded, rfl, -⟩ := h.scanned.front
  obtain ⟨hread, -, howner, -⟩ := h.scanned.last
  refine ⟨decoded, List.getLast?_concat, ?_, howner, ?_⟩
  · rw [readDecodedRevision, h.previous]
    exact hread
  · obtain ⟨file, -, -, -, hdecode⟩ := readDecodedRevisionWithPrevious_eq_ok.mp hread
    exact (decodeRevisionBytes_eq_ok hdecode).sameRevision

/-- Legacy revisions come first. -/
theorem ScannedChain.legacyFirst (h : ScannedChain tools directory entries chain) :
    ∃ legacy current, chain = legacy ++ current ∧
      (∀ decoded ∈ legacy, decoded.schemaVersion = legacyJobRevisionSchemaVersion) ∧
      ∀ decoded ∈ current, decoded.schemaVersion = jobRevisionSchemaVersion := by
  induction h with
  | nil => exact ⟨[], [], rfl, by simp, by simp⟩
  | @snoc entries chain entry decoded _ read hlegacy _ _ ih =>
    cases schema_of_read read with
    | inl hschema =>
      refine ⟨chain ++ [decoded], [], by simp, ?_, by simp⟩
      intro other hmem
      cases List.mem_append.mp hmem with
      | inl hold => exact hlegacy hschema other hold
      | inr hlast => rw [List.mem_singleton.mp hlast, hschema]
    | inr hschema =>
      obtain ⟨legacy, current, hsplit, hold, hnew⟩ := ih
      refine ⟨legacy, current ++ [decoded], by rw [hsplit, List.append_assoc], hold, ?_⟩
      intro other hmem
      cases List.mem_append.mp hmem with
      | inl hcurrent => exact hnew other hcurrent
      | inr hlast => rw [List.mem_singleton.mp hlast, hschema]

/-! ## Publishing into an accepted directory -/

variable {directory : RevisionDirectory}

/-- A chain is read the same in a directory with more files. -/
theorem ScannedChain.mono
    (h : ScannedChain tools directory entries chain) (howner : directory.owner = bigger.owner)
    (hfind : ∀ name file, directory.find name = some file → bigger.find name = some file) :
    ScannedChain tools bigger entries chain := by
  induction h with
  | nil => exact .nil
  | snoc _ read legacy owner successor ih =>
    refine .snoc ih ?_ legacy (owner.trans howner) successor
    obtain ⟨file, hfile, hsize, hsha256, hdecode⟩ := readDecodedRevisionWithPrevious_eq_ok.mp read
    exact readDecodedRevisionWithPrevious_eq_ok.mpr
      ⟨file, hfind _ _ hfile, hsize, hsha256, hdecode⟩

/-- A file is added under a free name. -/
theorem publishCreateOnly_eq_ok (h : publishCreateOnly directory file = .ok bigger) :
    bigger.owner = directory.owner ∧ bigger.files = directory.files ++ [file] ∧
      file.name ∉ directory.files.map (·.name) := by
  rw [publishCreateOnly] at h
  split at h
  · cases h
  · rename_i hfree
    cases h
    exact ⟨rfl, rfl, hfree⟩

/-- The files of a directory after a publication, by their names. -/
theorem find_of_publish (h : publishCreateOnly directory file = .ok bigger) :
    bigger.find file.name = some file ∧
      ∀ name old, directory.find name = some old → bigger.find name = some old := by
  obtain ⟨-, hfiles, hfree⟩ := publishCreateOnly_eq_ok h
  constructor
  · have hnone : directory.files.find? (fun other => other.name == file.name) = none := by
      apply List.find?_eq_none.mpr
      intro other hmem hname
      exact hfree (beq_iff_eq.mp hname ▸ List.mem_map_of_mem hmem)
    rw [RevisionDirectory.find, hfiles, List.find?_append, hnone]
    simp
  · intro name old hold
    rw [RevisionDirectory.find] at hold ⊢
    rw [hfiles, List.find?_append, hold]
    rfl

/-- What a published revision is: one more file, which the scan reads as the record, and which
    names the digest of the file before it. -/
structure PublishedRevision (tools : StoreTools) (directory : RevisionDirectory)
    (entries : List RevisionEntry) (record : StoredJobV1) (result : RevisionDirectory) : Prop where
  owner : result.owner = directory.owner
  appended : ∃ entry bytes, result.files = directory.files ++ [⟨entry.name, bytes⟩] ∧
    scanRevisionFiles tools result = .ok (entries ++ [entry]) ∧
    readDecodedRevision tools result entry = .ok ⟨record, jobRevisionSchemaVersion, bytes⟩ ∧
    ∃ previous, bytes = jsonLine (tools.codec.envelopeJson
        ⟨jobRevisionSchemaVersion, previous, record⟩) ∧
      (entries = [] → previous = none) ∧
      ∀ latest, entries.getLast? = some latest → ∃ before ∈ directory.files,
        before.name = latest.name ∧ previous = some (tools.sha256 before.bytes)

/-- The file of the last entry of an accepted directory. -/
theorem Accepted.latestFile (h : Accepted tools directory entries chain)
    (hlatest : entries.getLast? = some latest) :
    ∃ before ∈ directory.files, before.name = latest.name ∧
      tools.sha256 before.bytes = latest.sha256 := by
  obtain ⟨front, rfl⟩ := List.getLast?_eq_some_iff.mp hlatest
  obtain ⟨rest, decoded, rfl, -⟩ := h.scanned.front
  obtain ⟨file, hfind, -, hsha256, -⟩ :=
    readDecodedRevisionWithPrevious_eq_ok.mp h.scanned.last.1
  exact ⟨file, List.mem_of_find?_eq_some hfind, by simpa using List.find?_some hfind, hsha256⟩

theorem revisionIsSupported_of_valid {tools : ResumeTools} (h : record.validate tools = .ok ()) :
    revisionIsSupported record.revision = true := by
  have hidentity := (validate_eq_ok.mp h).identity
  simp only [StoredJobV1.validateIdentity, check_bind_eq_ok, rejectIf_eq_ok,
    Bool.not_eq_false'] at hidentity
  exact hidentity.2.1

/-- A valid next record is published into an accepted directory as its next revision. -/
theorem Accepted.publish (h : Accepted tools directory entries chain)
    (hsha256 : ∀ bytes, isLowerSha256 (tools.sha256 bytes) = true)
    (hfaithful : FaithfulRecord tools.codec record) (hvalid : record.validate tools.resume = .ok ())
    (hinitial : validateIfInitial record = .ok ()) (howner : record.localJobId = directory.owner)
    (hrevision : record.revision = entries.length + 1)
    (hsuccessor : ∀ previous, chain.getLast? = some previous → validateSuccessor tools.resume
      previous.record record = .ok ())
    {result : OperationResult}
    (hpublish : publishRevision tools directory record (entries.getLast?.map (·.sha256)) = .ok
      result) :
    result.published = some record ∧
      PublishedRevision tools directory entries record result.directory := by
  obtain ⟨bytes, hencode, hrest⟩ := bind_eq_ok.mp hpublish
  obtain ⟨bigger, hcreate, hresult⟩ := bind_eq_ok.mp hrest
  cases hresult
  obtain ⟨hsameOwner, hfiles, -⟩ := publishCreateOnly_eq_ok hcreate
  obtain ⟨hnew, hold⟩ := find_of_publish hcreate
  obtain ⟨-, hsize, hbytes⟩ := encodeRevisionV2_eq_ok.mp hencode
  have hsupported := revisionIsSupported_of_valid hvalid
  let entry : RevisionEntry :=
    ⟨record.revision, tools.sha256 bytes, revisionFilename record.revision (tools.sha256 bytes)⟩
  let decoded : DecodedRevision := ⟨record, jobRevisionSchemaVersion, bytes⟩
  have hread : readDecodedRevisionWithPrevious tools bigger entry
      (entries.getLast?.map (·.sha256)) = .ok decoded :=
    readDecodedRevisionWithPrevious_eq_ok.mpr ⟨_, hnew, hsize, rfl,
      decodeRevisionBytes_of_encode hencode hfaithful hvalid hinitial⟩
  have hscanned : ScannedFile ⟨entry.name, bytes⟩ entry :=
    ⟨isRevisionStagingName_revisionFilename _,
      parseRevisionFilename_revisionFilename hsupported (hsha256 bytes), rfl, hsize⟩
  -- the new file is the last one of the longer chain
  have haccepted : Accepted tools bigger (entries ++ [entry]) (chain ++ [decoded]) := by
    obtain ⟨raw, hraw, hperm⟩ := h.files
    refine ⟨?_, ⟨raw ++ [entry], ?_, hperm.append_right _⟩, ?_, ?_⟩
    · rw [hfiles, List.length_append, hraw.length_eq, hperm.length_eq, List.length_singleton,
        ← hrevision]
      exact (revisionIsSupported_iff.mp hsupported).2
    · rw [hfiles]
      exact List.rel_append hraw (.cons hscanned .nil)
    · rw [List.map_append, h.contiguous, List.length_append, List.length_singleton,
        List.range'_concat]
      simp [entry, hrevision, Nat.add_comm]
    · apply ScannedChain.snoc (h.scanned.mono hsameOwner.symm hold) hread
      · intro hlegacy
        exact absurd hlegacy (show jobRevisionSchemaVersion ≠ legacyJobRevisionSchemaVersion by decide)
      · exact howner.trans hsameOwner.symm
      · exact hsuccessor
  refine ⟨rfl, hsameOwner, entry, bytes, hfiles, scan_eq_ok_iff.mpr ⟨_, haccepted⟩, ?_, _, hbytes,
    ?_, ?_⟩
  · obtain ⟨last, hlast, hreadLatest, -⟩ := haccepted.readLatest List.getLast?_concat
    rw [List.getLast?_concat] at hlast
    rw [hreadLatest, ← Option.some.inj hlast]
  · intro hnil
    rw [hnil]
    rfl
  · intro latest hlatest
    obtain ⟨before, hmem, hname, hdigest⟩ := h.latestFile hlatest
    exact ⟨before, hmem, hname, by rw [hlatest, hdigest]; rfl⟩

/-! ## The operations -/

/-- What an operation leaves of an accepted directory: the directory itself, or the directory
    with the record that it published. -/
def ClosedBy (tools : StoreTools) (directory : RevisionDirectory) (entries : List RevisionEntry)
    (result : OperationResult) : Prop :=
  (result.published = none ∧ result.directory = directory) ∨
    ∃ record, result.published = some record ∧
      PublishedRevision tools directory entries record result.directory

end Chains

section Operations

variable {tools : StoreTools} {directory : RevisionDirectory} {entries : List RevisionEntry}
  {chain : List DecodedRevision} {result : OperationResult}

/-- A record is published with the revision that it has. -/
theorem published_of_publishRevision {previous : Option String}
    (h : publishRevision tools directory record previous = .ok result) :
    result.published = some record := by
  obtain ⟨bytes, -, hrest⟩ := bind_eq_ok.mp h
  obtain ⟨bigger, -, hresult⟩ := bind_eq_ok.mp hrest
  cases hresult
  rfl

/-- An encoded revision is published under a free name. -/
theorem exists_publishRevision {previous : Option String} {bytes : List UInt8}
    (hencode : encodeRevisionV2 tools record previous = .ok bytes)
    (hfree : revisionFilename record.revision (tools.sha256 bytes) ∉ directory.files.map (·.name)) :
    ∃ result, publishRevision tools directory record previous = .ok result := by
  have hcreate : ∃ bigger, publishCreateOnly directory
      ⟨revisionFilename record.revision (tools.sha256 bytes), bytes⟩ = .ok bigger := by
    rw [publishCreateOnly, dif_neg hfree]
    exact ⟨_, rfl⟩
  obtain ⟨bigger, hbigger⟩ := hcreate
  exact ⟨_, bind_eq_ok.mpr ⟨bytes, hencode, bind_eq_ok.mpr ⟨bigger, hbigger, rfl⟩⟩⟩

/-- The record that follows the last one of an accepted directory. -/
theorem Accepted.publishAfter (h : Accepted tools directory entries chain)
    (hsha256 : ∀ bytes, isLowerSha256 (tools.sha256 bytes) = true)
    (hfaithful : ∀ record, result.published = some record → FaithfulRecord tools.codec record)
    (hlatest : entries.getLast? = some latest) {previous : DecodedRevision}
    (hprevious : chain.getLast? = some previous) (hvalid : record.validate tools.resume = .ok ())
    (howner : record.localJobId = directory.owner)
    (hrevision : record.revision = latest.revision + 1)
    (hsuccessor : validateRegularSuccessor tools.resume previous.record record = .ok ())
    (hpublish : publishRevision tools directory record (some latest.sha256) = .ok result) :
    ClosedBy tools directory entries result := by
  have hcount : latest.revision = entries.length := by
    obtain ⟨front, rfl⟩ := List.getLast?_eq_some_iff.mp hlatest
    rw [h.last_revision, List.length_append, List.length_singleton]
  have hinitial : validateIfInitial record = .ok () := by
    have hpositive : 0 < entries.length := by
      apply List.length_pos_iff.mpr
      intro hnil
      rw [hnil] at hlatest
      cases hlatest
    rw [validateIfInitial, if_neg (by omega)]
  have hnext : ∀ last, chain.getLast? = some last →
      validateSuccessor tools.resume last.record record = .ok () := by
    intro last hlast
    rw [hprevious] at hlast
    cases hlast
    exact (check_bind_eq_ok.mp hsuccessor).2
  obtain ⟨hpublished, hclosed⟩ := h.publish hsha256
    (hfaithful _ (published_of_publishRevision hpublish)) hvalid hinitial howner
    (by rw [hrevision, hcount]) hnext (by rw [hlatest]; exact hpublish)
  exact .inr ⟨record, hpublished, hclosed⟩

/-- The first record of an empty directory. -/
theorem Accepted.publishFirst (h : Accepted tools directory [] chain)
    (hsha256 : ∀ bytes, isLowerSha256 (tools.sha256 bytes) = true)
    (hfaithful : ∀ record, result.published = some record → FaithfulRecord tools.codec record)
    (hvalid : record.validate tools.resume = .ok ()) (hinitial : validateIfInitial record = .ok ())
    (howner : record.localJobId = directory.owner) (hrevision : record.revision = 1)
    (hpublish : publishRevision tools directory record none = .ok result) :
    ClosedBy tools directory [] result := by
  have hempty : chain = [] := List.length_eq_zero_iff.mp h.scanned.length_eq.symm
  have hnext : ∀ last, chain.getLast? = some last →
      validateSuccessor tools.resume last.record record = .ok () := by
    intro last hlast
    rw [hempty, List.getLast?_nil] at hlast
    exact absurd hlast (Option.some_ne_none last).symm
  obtain ⟨hpublished, hclosed⟩ := h.publish hsha256
    (hfaithful _ (published_of_publishRevision hpublish)) hvalid hinitial howner hrevision hnext
    hpublish
  exact .inr ⟨record, hpublished, hclosed⟩

/-- The last record of an accepted directory, as an operation reads it. -/
theorem Accepted.readJobRevision_eq_ok (h : Accepted tools directory entries chain)
    (hlatest : entries.getLast? = some latest) {previous : StoredJobV1}
    (hread : readJobRevision tools directory latest = .ok previous) :
    ∃ decoded, chain.getLast? = some decoded ∧ decoded.record = previous ∧
      previous.revision = latest.revision := by
  obtain ⟨decoded, hlast, hdecoded, -, hrevision⟩ := h.readLatest hlatest
  rw [readJobRevision, hdecoded] at hread
  have hrecord : decoded.record = previous := by
    have hrest := (check_bind_eq_ok.mp hread).2
    exact Except.ok.inj hrest
  exact ⟨decoded, hlast, hrecord, hrecord ▸ hrevision⟩

theorem Accepted.appendInner_closed (h : Accepted tools directory entries chain)
    (hsha256 : ∀ bytes, isLowerSha256 (tools.sha256 bytes) = true)
    (hfaithful : ∀ record, result.published = some record → FaithfulRecord tools.codec record)
    {creating : Bool} (howner : record.localJobId = directory.owner)
    (hrun : appendInner tools directory record creating = .ok result) :
    ClosedBy tools directory entries result := by
  obtain ⟨hvalid, hrest⟩ := check_bind_eq_ok.mp hrun
  obtain ⟨hinitial, hrest⟩ := check_bind_eq_ok.mp hrest
  obtain ⟨scanned, hscan, hrest⟩ := bind_eq_ok.mp hrest
  rw [scan_eq_ok_iff.mpr ⟨chain, h⟩] at hscan
  cases hscan
  cases hlatest : entries.getLast? with
  | none =>
    rw [hlatest] at hrest
    obtain ⟨-, hrest⟩ := check_bind_eq_ok.mp hrest
    obtain ⟨hrevision, hpublish⟩ := check_bind_eq_ok.mp hrest
    obtain rfl := List.getLast?_eq_none_iff.mp hlatest
    exact h.publishFirst hsha256 hfaithful hvalid hinitial howner (by simpa using hrevision)
      hpublish
  | some latest =>
    rw [hlatest] at hrest
    by_cases hsame : record.revision = latest.revision
    · -- The chain already ends with this revision: nothing is published.
      simp only [if_pos hsame] at hrest
      obtain ⟨existing, -, hrest⟩ := bind_eq_ok.mp hrest
      obtain ⟨-, hrest⟩ := check_bind_eq_ok.mp hrest
      obtain ⟨-, hresult⟩ := check_bind_eq_ok.mp hrest
      cases hresult
      exact .inl ⟨rfl, rfl⟩
    · simp only [if_neg hsame] at hrest
      obtain ⟨hrevision, hrest⟩ := check_bind_eq_ok.mp hrest
      obtain ⟨previous, hread, hrest⟩ := bind_eq_ok.mp hrest
      obtain ⟨hsuccessor, hpublish⟩ := check_bind_eq_ok.mp hrest
      obtain ⟨decoded, hlast, rfl, -⟩ := h.readJobRevision_eq_ok hlatest hread
      have hnext : record.revision = latest.revision + 1 := by
        simp only [rejectIf_eq_ok, Bool.or_eq_false_iff, bne_eq_false_iff_eq] at hrevision
        exact hrevision.1
      exact h.publishAfter hsha256 hfaithful hlatest hlast hvalid howner hnext hsuccessor hpublish

theorem Accepted.createRevision_closed (h : Accepted tools directory entries chain)
    (hsha256 : ∀ bytes, isLowerSha256 (tools.sha256 bytes) = true)
    (hfaithful : ∀ record, result.published = some record → FaithfulRecord tools.codec record)
    {owned : Bool} (howner : record.localJobId = directory.owner)
    (hrun : createRevision tools directory record owned = .ok result) :
    ClosedBy tools directory entries result := by
  obtain ⟨hrevision, hrest⟩ := check_bind_eq_ok.mp hrun
  obtain ⟨-, hrest⟩ := check_bind_eq_ok.mp hrest
  cases owned with
  | true => exact h.appendInner_closed hsha256 hfaithful howner hrest
  | false =>
    obtain ⟨scanned, hscan, hrest⟩ := bind_eq_ok.mp hrest
    rw [scan_eq_ok_iff.mpr ⟨chain, h⟩] at hscan
    cases hscan
    obtain ⟨hempty, hfirst⟩ := check_bind_eq_ok.mp hrest
    obtain rfl : entries = [] := by simpa using hempty
    obtain ⟨hvalid, hrest⟩ := check_bind_eq_ok.mp hfirst
    obtain ⟨hinitial, hpublish⟩ := check_bind_eq_ok.mp hrest
    have hone : record.revision = 1 := by simpa using hrevision
    exact h.publishFirst hsha256 hfaithful hvalid (by rw [validateIfInitial, if_pos hone, hinitial])
      howner hone hpublish

theorem latestRevision_eq_ok :
    latestRevision directory entries = .ok latest ↔ entries.getLast? = some latest := by
  rw [latestRevision]
  cases entries.getLast? <;> simp

section

variable (h : Accepted tools directory entries chain)
  (hsha256 : ∀ bytes, isLowerSha256 (tools.sha256 bytes) = true)
  (hfaithful : ∀ record, result.published = some record → FaithfulRecord tools.codec record)

include h hsha256 hfaithful

theorem Accepted.updateOptional_closed {callback : StoredJobV1 → StoreResult (Option StoredJobV1)}
    (hrun : updateOptional tools directory callback = .ok result) :
    ClosedBy tools directory entries result := by
  obtain ⟨scanned, hscan, hrest⟩ := bind_eq_ok.mp hrun
  rw [scan_eq_ok_iff.mpr ⟨chain, h⟩] at hscan
  cases hscan
  obtain ⟨latest, hlatest, hrest⟩ := bind_eq_ok.mp hrest
  rw [latestRevision_eq_ok] at hlatest
  obtain ⟨previous, hread, hrest⟩ := bind_eq_ok.mp hrest
  obtain ⟨next, -, hrest⟩ := bind_eq_ok.mp hrest
  obtain ⟨decoded, hlast, rfl, hsame⟩ := h.readJobRevision_eq_ok hlatest hread
  cases next with
  | none =>
    obtain ⟨-, hresult⟩ := check_bind_eq_ok.mp hrest
    cases hresult
    exact .inl ⟨rfl, rfl⟩
  | some next =>
    obtain ⟨hvalid, hrest⟩ := check_bind_eq_ok.mp hrest
    obtain ⟨hidentity, hrest⟩ := check_bind_eq_ok.mp hrest
    obtain ⟨hsuccessor, hpublish⟩ := check_bind_eq_ok.mp hrest
    simp only [rejectIf_eq_ok, Bool.or_eq_false_iff, decide_eq_false_iff_not, not_not,
      bne_eq_false_iff_eq] at hidentity
    exact h.publishAfter hsha256 hfaithful hlatest hlast hvalid hidentity.1
      (by rw [hidentity.2, hsame]) hsuccessor hpublish

theorem Accepted.migrateJob_closed (hrun : migrateJob tools directory = .ok result) :
    ClosedBy tools directory entries result := by
  obtain ⟨scanned, hscan, hrest⟩ := bind_eq_ok.mp hrun
  rw [scan_eq_ok_iff.mpr ⟨chain, h⟩] at hscan
  cases hscan
  obtain ⟨latest, hlatest, hrest⟩ := bind_eq_ok.mp hrest
  rw [latestRevision_eq_ok] at hlatest
  obtain ⟨decoded, hlast, hread, howner, hsame⟩ := h.readLatest hlatest
  obtain ⟨again, hagain, hrest⟩ := bind_eq_ok.mp hrest
  rw [hread] at hagain
  cases hagain
  obtain ⟨-, hrest⟩ := check_bind_eq_ok.mp hrest
  by_cases hschema : decoded.schemaVersion = jobRevisionSchemaVersion
  · rw [if_pos hschema] at hrest
    obtain ⟨-, hresult⟩ := check_bind_eq_ok.mp hrest
    cases hresult
    exact .inl ⟨rfl, rfl⟩
  · rw [if_neg hschema] at hrest
    obtain ⟨-, hrest⟩ := check_bind_eq_ok.mp hrest
    obtain ⟨hvalid, hrest⟩ := check_bind_eq_ok.mp hrest
    obtain ⟨hsuccessor, hpublish⟩ := check_bind_eq_ok.mp hrest
    exact h.publishAfter hsha256 hfaithful hlatest hlast hvalid howner
      (congrArg (· + 1) hsame) hsuccessor hpublish

end

/-- **Chain of an accepted directory**: contiguous revisions from 1, the legacy ones first. -/
theorem scan_chain (h : scanRevisionFiles tools directory = .ok entries) :
    ∃ legacy current, Accepted tools directory entries (legacy ++ current) ∧
      (∀ decoded ∈ legacy, decoded.schemaVersion = legacyJobRevisionSchemaVersion) ∧
      ∀ decoded ∈ current, decoded.schemaVersion = jobRevisionSchemaVersion := by
  obtain ⟨chain, haccepted⟩ := scan_eq_ok_iff.mp h
  obtain ⟨legacy, current, rfl, hlegacy, hcurrent⟩ := haccepted.scanned.legacyFirst
  exact ⟨legacy, current, haccepted, hlegacy, hcurrent⟩

/-- **Append closure**: an accepted directory holds legacy revisions and then current ones,
    numbered from 1, and every operation leaves it as it is or adds one revision to it. -/
theorem publication_closed (hsha256 : ∀ bytes, isLowerSha256 (tools.sha256 bytes) = true)
    (hscan : scanRevisionFiles tools directory = .ok entries) :
    (∃ legacy current, Accepted tools directory entries (legacy ++ current) ∧
      (∀ decoded ∈ legacy, decoded.schemaVersion = legacyJobRevisionSchemaVersion) ∧
      ∀ decoded ∈ current, decoded.schemaVersion = jobRevisionSchemaVersion) ∧
    ∀ (operation : StoreOperation directory.owner) (result : OperationResult),
      directory.run tools operation = .ok result →
      (∀ record, result.published = some record → FaithfulRecord tools.codec record) →
      ClosedBy tools directory entries result := by
  refine ⟨scan_chain hscan, ?_⟩
  intro operation result hrun hfaithful
  obtain ⟨chain, h⟩ := scan_eq_ok_iff.mp hscan
  cases operation with
  | create record howner owned => exact h.createRevision_closed hsha256 hfaithful howner hrun
  | append record howner => exact h.appendInner_closed hsha256 hfaithful howner hrun
  | update callback => exact h.updateOptional_closed hsha256 hfaithful hrun
  | checkpoint resume =>
    exact h.updateOptional_closed hsha256 hfaithful (check_bind_eq_ok.mp hrun).2
  | migrate => exact h.migrateJob_closed hsha256 hfaithful hrun

end Operations

/-- The sizes of the names in an envelope. -/
theorem fieldSizes_le : Json.stringSize "schema_version" +
    Json.stringSize "previous_revision_sha256" + Json.stringSize "job" +
      (Json.number (.unsigned 2)).compactSize ≤ 60 := by
  decide +kernel

end

namespace Sample

/-- The parts that no sample has here have no JSON. -/
def parts : RecordCodec where
  compileEvidence := fun _ => .null
  signedCleanupEvidence := fun _ => .null
  providerResume := fun _ => .null
  decode := fun _ => none

/-- The store of the first revision. -/
def store : StoreTools where
  resume := tools
  codec := { parts with
    decode := fun json => if json = parts.recordJson created then some created else none }

theorem isLowerSha256_sha256 (bytes : List UInt8) : isLowerSha256 (store.sha256 bytes) = true := by
  show isLowerSha256 (sha256 bytes) = true
  rw [sha256]
  split_ifs
  all_goals exact Github.isLowerSha256_ofList rfl (by decide)

/-- The directory of a job that is not created yet. -/
def empty : RevisionDirectory := ⟨created.localJobId, [], List.nodup_nil⟩

theorem scan_empty : scanRevisionFiles store empty = .ok [] :=
  scan_eq_ok_iff.mpr ⟨[], by decide, ⟨[], .nil, .nil⟩, rfl, .nil⟩

theorem bounds_created : Json.fitsIn 20 (parts.recordJson created) = true ∧
    (parts.recordJson created).sizeBound ≤ 32768 := by
  decide +kernel

theorem fits_created : (parts.recordJson created).Fits 20 := .of_fitsIn bounds_created.1

theorem faithful_created : FaithfulRecord store.codec created :=
  ⟨⟨20, by decide, fits_created⟩, if_pos rfl⟩

theorem size_created : (parts.recordJson created).compactSize ≤ 32768 :=
  (Json.compactSize_le_sizeBound _).trans bounds_created.2

theorem compactSize_firstEnvelope (codec : RecordCodec) (record : StoredJobV1) :
    (codec.envelopeJson ⟨jobRevisionSchemaVersion, none, record⟩).compactSize ≤
      (codec.recordJson record).compactSize + 256 := by
  have hfields := fieldSizes_le
  show 2 + (Json.stringSize "schema_version" + 1 + (Json.number (.unsigned 2)).compactSize +
    (1 + Json.stringSize "previous_revision_sha256" + 1 + 4 +
      (1 + Json.stringSize "job" + 1 + (codec.recordJson record).compactSize + 0))) ≤ _
  omega

theorem encode_created : encodeRevisionV2 store created none =
    .ok (jsonLine (store.codec.envelopeJson ⟨jobRevisionSchemaVersion, none, created⟩)) := by
  apply encodeRevisionV2_eq_ok.mpr
  refine ⟨by decide, ?_, rfl⟩
  have hrecord : (store.codec.recordJson created).compactSize ≤ 32768 := size_created
  have henvelope := compactSize_firstEnvelope store.codec created
  have hlimit : 65536 ≤ maxJobRevisionBytes := by decide
  rw [length_jsonLine]
  omega

theorem run_created : ∃ result, empty.run store (.create created rfl false) = .ok result ∧
    result.published = some created := by
  have hpublish : ∃ result, publishRevision store empty created none = .ok result :=
    exists_publishRevision encode_created (List.not_mem_nil)
  obtain ⟨result, hpublish⟩ := hpublish
  refine ⟨result, ?_, published_of_publishRevision hpublish⟩
  refine check_bind_eq_ok.mpr ⟨rfl, check_bind_eq_ok.mpr ⟨rfl, ?_⟩⟩
  refine bind_eq_ok.mpr ⟨[], scan_empty, check_bind_eq_ok.mpr ⟨rfl, ?_⟩⟩
  exact check_bind_eq_ok.mpr
    ⟨validate_eq_ok.mpr valid_created, check_bind_eq_ok.mpr ⟨initial_created, hpublish⟩⟩

end Sample

end RustFerry.JobStore
