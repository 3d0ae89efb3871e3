import Mathlib.Order.Nat
import RustFerry.ForStd.Intervals
import RustFerry.ForStd.List
import RustFerry.Native.ArtifactScan

/-!
# The layout of an accepted artifact

The scan compares each range of compressed data with the next one after sorting, and looks for
headers in each range. This excludes every pair of entries that share a byte, and every header in the
data of an entry.
-/

namespace RustFerry.DownloadedArtifact

open Except Intervals

/-! ## Data -/

/-- A byte of the archive belongs to the compressed data of an entry. -/
def ArchiveEntry.HasData (entry : ArchiveEntry) (byte : Nat) : Prop :=
  ∃ start, entry.dataStart = some start ∧ start.toNat ≤ byte ∧
    byte < start.toNat + entry.compressedSize.toNat

def toNats (range : UInt64 × UInt64) : Nat × Nat := (range.1.toNat, range.2.toNat)

/-- The range that the loop computes for an entry. -/
structure RangeOf (entry : ArchiveEntry) (range : UInt64 × UInt64) : Prop where
  start : entry.dataStart = some range.1
  stop : range.2.toNat = range.1.toNat + entry.compressedSize.toNat

/-- The bytes of an entry are those of its range. -/
theorem RangeOf.hasData_iff {entry : ArchiveEntry} {range : UInt64 × UInt64}
    (h : RangeOf entry range) (byte : Nat) : entry.HasData byte ↔ Contains (toNats range) byte := by
  unfold ArchiveEntry.HasData Contains toNats
  rw [h.start, h.stop]
  simp

/-- A checked sum is the sum. -/
theorem checkedAdd_eq_some {value other sum : UInt64} (h : checkedAdd value other = some sum) :
    sum.toNat = value.toNat + other.toNat := by
  unfold checkedAdd at h
  split at h
  · rename_i hlt
    cases h
    rw [UInt64.toNat_add, Nat.mod_eq_of_lt hlt]
  · cases h

/-! ## The loop -/

variable {portableNameKey : String → String} {archiveSize : UInt64}
  {requiredFiles : List RequiredArtifactFile}

/-- What one pass adds. -/
theorem scanEntry_eq_ok {scan scan' : Scan} {opened : Option ArchiveEntry × Nat}
    (h : scanEntry portableNameKey archiveSize requiredFiles scan opened = .ok scan') :
    ∃ entry range, opened.1 = some entry ∧ RangeOf entry range ∧
      scan'.compressedRanges = scan.compressedRanges ++ [range] ∧
      scan'.headerStarts = entry.headerStart :: scan.headerStarts := by
  simp only [scanEntry, bind_eq_ok, ofOption_eq_ok] at h
  obtain ⟨entry, hentry, name, _, _, _, _, _, file, _, _, _, _, _, _, _, dataStart, hstart, dataEnd,
    hend, _, _, expandedSize, _, _, _, _, _, h⟩ := h
  cases h
  exact ⟨entry, (dataStart, dataEnd), hentry, ⟨hstart, checkedAdd_eq_some hend⟩, rfl, rfl⟩

/-- The loop collects the range and the header of every entry. -/
theorem foldlM_scanEntry {archive : List (Option ArchiveEntry × Nat)} {scan scan' : Scan}
    (h : archive.foldlM (scanEntry portableNameKey archiveSize requiredFiles) scan = .ok scan') :
    ∃ entries ranges, archive.map Prod.fst = entries.map some ∧
      List.Forall₂ RangeOf entries ranges ∧
      scan'.compressedRanges = scan.compressedRanges ++ ranges ∧
      ∀ header, header ∈ scan.headerStarts ∨ header ∈ entries.map ArchiveEntry.headerStart →
        header ∈ scan'.headerStarts := by
  induction archive generalizing scan with
  | nil =>
    cases h
    exact ⟨[], [], rfl, .nil, by simp, by simp⟩
  | cons opened rest ih =>
    rw [List.foldlM_cons] at h
    obtain ⟨next, hstep, hrest⟩ := bind_eq_ok.mp h
    obtain ⟨entry, range, hopened, hrange, hranges, hheaders⟩ := scanEntry_eq_ok hstep
    obtain ⟨entries, ranges, hmap, hall, hcollected, hfound⟩ := ih hrest
    refine ⟨entry :: entries, range :: ranges, ?_, .cons hrange hall, ?_, ?_⟩
    · rw [List.map_cons, List.map_cons, hmap, hopened]
    · rw [hcollected, hranges, List.append_assoc, List.singleton_append]
    · intro header hheader
      apply hfound
      rw [hheaders]
      simp only [List.map_cons, List.mem_cons] at hheader ⊢
      tauto

/-! ## The layout -/

theorem isChain_of_neighbours {ranges : List (UInt64 × UInt64)}
    (h : neighboursOverlap ranges = false) : (ranges.map toNats).IsChain Before := by
  fun_induction neighboursOverlap ranges with
  | case1 first second rest ih =>
    rw [Bool.or_eq_false_iff] at h
    have hbefore : Before (toNats first) (toNats second) := by
      have hnot : ¬ second.1 < first.2 := by simpa using h.1
      rw [UInt64.lt_iff_toNat_lt] at hnot
      exact Nat.le_of_not_lt hnot
    exact .cons_cons hbefore (ih h.2)
  | case2 ranges hshort =>
    cases ranges with
    | nil => exact .nil
    | cons first rest =>
      cases rest with
      | nil => exact .singleton _
      | cons second rest => exact (hshort first second rest rfl).elim

/-- Ranges without aliases are separate, and have no header. -/
theorem separate_of_noAliases {headers : List UInt64} {ranges : List (UInt64 × UInt64)}
    (hordered : ∀ range ∈ ranges, range.1.toNat ≤ range.2.toNat)
    (h : zipLayoutHasAliases headers ranges = false) :
    ranges.Pairwise (fun a b => Separate (toNats a) (toNats b)) ∧
      ∀ range ∈ ranges, ∀ header ∈ headers, ¬ Contains (toNats range) header.toNat := by
  simp only [zipLayoutHasAliases, Bool.or_eq_false_iff] at h
  obtain ⟨hneighbours, hheaders⟩ := h
  have hperm := List.mergeSort_perm ranges rangeLe
  constructor
  · have hnats : ∀ range ∈ (ranges.mergeSort rangeLe).map toNats, range.1 ≤ range.2 := by
      intro range hrange
      obtain ⟨original, hmem, rfl⟩ := List.mem_map.mp hrange
      exact hordered original (hperm.mem_iff.mp hmem)
    have hsorted := pairwise_before hnats (isChain_of_neighbours hneighbours)
    rw [List.pairwise_map] at hsorted
    have hseparate := hsorted.imp (fun hbefore => Before.separate hbefore)
    exact hperm.pairwise_iff (fun hab => hab.symm) |>.mp hseparate
  · intro range hrange header hheader hcontains
    have hnone := List.any_eq_false.mp hheaders range (hperm.mem_iff.mpr hrange)
    obtain ⟨hlow, hhigh⟩ := hcontains
    apply hnone
    simp only [Bool.and_eq_true, decide_eq_true_eq, List.any_eq_true, UInt64.lt_iff_toNat_lt,
      UInt64.le_iff_toNat_le]
    exact ⟨Nat.lt_of_le_of_lt hlow hhigh, header, hheader, hlow, hhigh⟩

/-- Two entries of an accepted archive share no byte of data, and the header of one is not in the
data of the other. -/
theorem scanArchive_layout {archive : List (Option ArchiveEntry)}
    {entries : List (RequiredArtifactFile × EntryMetadata)}
    (h : scanArchive portableNameKey archive archiveSize requiredFiles = .ok entries) :
    ∀ (i j : Nat) (a b : ArchiveEntry), archive[i]? = some (some a) →
      archive[j]? = some (some b) → i ≠ j →
      (∀ byte, ¬ (a.HasData byte ∧ b.HasData byte)) ∧ ¬ b.HasData a.headerStart.toNat := by
  simp only [scanArchive, bind_eq_ok, rejectIf_eq_ok] at h
  obtain ⟨_, _, scan, hloop, _, haliases, _⟩ := h
  obtain ⟨opened, ranges, hmap, hranges, hcollected, hheaders⟩ := foldlM_scanEntry hloop
  have hopened : archive = opened.map some := by
    rw [← hmap, List.zipIdx_map_fst]
  have hcollected : scan.compressedRanges = ranges := by simpa [Scan.empty] using hcollected
  rw [hcollected] at haliases
  have hordered : ∀ range ∈ ranges, range.1.toNat ≤ range.2.toNat := by
    intro range hrange
    obtain ⟨entry, hof⟩ := hranges.exists_of_mem_right hrange
    have := hof.stop
    omega
  obtain ⟨hseparate, hnone⟩ := separate_of_noAliases hordered haliases
  have hget : ∀ (i : Nat) (a : ArchiveEntry), archive[i]? = some (some a) →
      ∃ range, ranges[i]? = some range ∧ RangeOf a range ∧ a ∈ opened := by
    intro i a ha
    rw [hopened, List.getElem?_map] at ha
    obtain ⟨entry, hentry, heq⟩ := Option.map_eq_some_iff.mp ha
    cases heq
    obtain ⟨range, hrange, hof⟩ := hranges.exists_getElem? hentry
    exact ⟨range, hrange, hof, List.mem_of_getElem? hentry⟩
  intro i j a b ha hb hne
  obtain ⟨rangeA, hrangeA, hofA, hmemA⟩ := hget i a ha
  obtain ⟨rangeB, hrangeB, hofB, _⟩ := hget j b hb
  -- Being separate is symmetric, so the order of the two entries does not matter.
  have hpair : Separate (toNats rangeA) (toNats rangeB) := by
    obtain ⟨hi, hvalueA⟩ := List.getElem?_eq_some_iff.mp hrangeA
    obtain ⟨hj, hvalueB⟩ := List.getElem?_eq_some_iff.mp hrangeB
    rw [← hvalueA, ← hvalueB]
    by_cases hij : i < j
    · exact List.pairwise_iff_getElem.mp hseparate i j hi hj hij
    · exact (List.pairwise_iff_getElem.mp hseparate j i hj hi (by omega)).symm
  constructor
  · intro byte hbyte
    exact hpair byte ⟨(hofA.hasData_iff byte).mp hbyte.1, (hofB.hasData_iff byte).mp hbyte.2⟩
  · intro hdata
    have hheader := hheaders a.headerStart (.inr (List.mem_map_of_mem hmemA))
    exact hnone rangeB (List.mem_of_getElem? hrangeB) _ hheader ((hofB.hasData_iff _).mp hdata)

/-! ## An accepted archive -/

def reportEntry : ArchiveEntry :=
  ⟨Text.utf8 "signing-report.json", false, .stored, false, false, none, 4, 4, 0, some 49⟩

def manifestEntry : ArchiveEntry :=
  ⟨Text.utf8 "artifact-manifest.json", false, .deflated, false, false, some 0o100644, 9, 4, 53,
    some 105⟩

theorem zipLayoutHasAliases_touching :
    zipLayoutHasAliases [53, 0] [(49, 53), (105, 109)] = false := by
  have hsorted : [((49 : UInt64), (53 : UInt64)), (105, 109)].mergeSort rangeLe =
      [(49, 53), (105, 109)] := List.mergeSort_of_pairwise (by decide)
  rw [zipLayoutHasAliases, hsorted]
  decide

/-- The first data ends where the second header begins. -/
theorem scanArchive_touching :
    scanArchive id [some reportEntry, some manifestEntry] 109 [.manifest, .signingReport] =
      .ok [(.signingReport, ⟨0, 4⟩), (.manifest, ⟨1, 9⟩)] := by
  have hloop : [some reportEntry, some manifestEntry].zipIdx.foldlM
      (scanEntry id 109 [.manifest, .signingReport]) .empty =
      .ok ⟨["artifact-manifest.json", "signing-report.json"],
        ["artifact-manifest.json", "signing-report.json"], [53, 0], [(49, 53), (105, 109)],
        [(.signingReport, ⟨0, 4⟩), (.manifest, ⟨1, 9⟩)], 13⟩ := by
    decide +kernel
  simp only [scanArchive, bind_eq_ok, rejectIf_eq_ok]
  exact ⟨(), rfl, _, hloop, (), zipLayoutHasAliases_touching, (), by decide, rfl⟩

theorem scanArchive_layout_touching :
    (∀ byte, ¬ (reportEntry.HasData byte ∧ manifestEntry.HasData byte)) ∧
      ¬ manifestEntry.HasData reportEntry.headerStart.toNat :=
  scanArchive_layout scanArchive_touching 0 1 reportEntry manifestEntry rfl rfl (by decide)

end RustFerry.DownloadedArtifact
