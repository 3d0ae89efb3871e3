import RustFerry.ForStd.Framing
import RustFerry.Native.SigningTargetGraph

/-!
# What a digest binds

The digests of a signing target graph and of a source manifest are SHA-256 of bytes that determine
the graph and the manifest: every field is self-delimiting, and so is their sequence. The targets of a
graph are sorted first, so the bytes are the same for every order of the targets and only then.
-/

namespace RustFerry

open Framing

/-! ## Signing target graphs -/

namespace Remote

open Artifact

theorem signingTargetKindName_injective : Function.Injective signingTargetKindName := by
  intro a b h
  cases a <;> cases b <;> first | rfl | (revert h; decide)

theorem byteKey_injective : Function.Injective byteKey := by
  intro a b h
  apply Text.utf8_injective
  exact List.map_injective_iff.mpr (fun _ _ hbyte => UInt8.toNat_inj.mp hbyte) h

/-- The key of a target determines it. -/
theorem sortKey_injective : Function.Injective SigningTarget.sortKey := by
  intro a b h
  obtain ⟨name, identifier, kind⟩ := a
  obtain ⟨name', identifier', kind'⟩ := b
  have hparts := toLex.injective h
  simp only [Prod.mk.injEq, EmbeddingLike.apply_eq_iff_eq] at hparts
  obtain ⟨hname, hidentifier, hkind⟩ := hparts
  obtain rfl : name = name' := byteKey_injective hname
  obtain rfl : kind = kind' := signingTargetKindName_injective (byteKey_injective hkind)
  obtain ⟨value, valid⟩ := identifier
  obtain ⟨value', valid'⟩ := identifier'
  obtain rfl : value = value' := byteKey_injective hidentifier
  rfl

/-- Permutations of one list are sorted into the same list. -/
theorem mergeSort_eq_of_perm {a b : List SigningTarget} (h : a.Perm b) :
    a.mergeSort SigningTarget.sortLe = b.mergeSort SigningTarget.sortLe := by
  have htrans : ∀ x y z : SigningTarget, x.sortLe y → y.sortLe z → x.sortLe z := by
    intro x y z hxy hyz
    simp only [SigningTarget.sortLe, decide_eq_true_eq] at hxy hyz ⊢
    exact le_trans hxy hyz
  have htotal : ∀ x y : SigningTarget, (x.sortLe y || y.sortLe x) = true := by
    intro x y
    simp only [SigningTarget.sortLe, Bool.or_eq_true, decide_eq_true_eq]
    exact le_total _ _
  have hsorted := List.pairwise_mergeSort htrans htotal
  have hperm := ((List.mergeSort_perm a SigningTarget.sortLe).trans h).trans
    (List.mergeSort_perm b SigningTarget.sortLe).symm
  apply hperm.eq_of_pairwise _ (hsorted a) (hsorted b)
  intro x y _ _ hxy hyx
  simp only [SigningTarget.sortLe, decide_eq_true_eq] at hxy hyx
  exact sortKey_injective (le_antisymm hxy hyx)

theorem selfDelimiting_canonicalLength : SelfDelimiting (fun _ => True) canonicalLength :=
  selfDelimiting_decimal (by decide)

theorem selfDelimiting_canonicalField : SelfDelimiting (fun _ => True) canonicalField := by
  have hframed := selfDelimiting_canonicalLength.framed.comap Text.utf8_injective
  simp only [Text.length_utf8] at hframed
  exact hframed

theorem selfDelimiting_canonicalTarget : SelfDelimiting (fun _ => True) canonicalTarget := by
  have hfields := (selfDelimiting_canonicalField.append selfDelimiting_canonicalField).append
    selfDelimiting_canonicalField
  have hinj : Function.Injective fun target : SigningTarget =>
      ((signingTargetKindName target.kind, target.name), target.bundleIdentifier.value) := by
    intro a b h
    simp only [Prod.mk.injEq] at h
    apply sortKey_injective
    simp only [SigningTarget.sortKey, h.1.1, h.1.2, h.2]
  exact (hfields.comap hinj).mono fun _ _ => ⟨⟨trivial, trivial⟩, trivial⟩

/-- **The digest binds the graph** up to the order of its targets. -/
theorem canonicalTargetGraph_eq_iff (sha256 : List UInt8 → String) (a b : List SigningTarget) :
    canonicalSigningTargetGraphSha256 sha256 a = sha256 (canonicalTargetGraph a) ∧
      (canonicalTargetGraph a = canonicalTargetGraph b ↔ a.Perm b) := by
  apply And.intro rfl
  constructor
  · intro h
    simp only [canonicalTargetGraph, List.append_assoc, List.append_cancel_left_eq] at h
    -- The sorted lists are read off the bytes one target at a time.
    have hsorted := (selfDelimiting_canonicalLength.counted
      selfDelimiting_canonicalTarget).injOn ⟨trivial, fun _ _ => trivial⟩
      ⟨trivial, fun _ _ => trivial⟩ h
    have hb := List.mergeSort_perm b SigningTarget.sortLe
    rw [← hsorted] at hb
    exact (List.mergeSort_perm a SigningTarget.sortLe).symm.trans hb
  · intro h
    unfold canonicalTargetGraph
    rw [mergeSort_eq_of_perm h]

end Remote

/-! ## Source manifests -/

namespace Source

open Snapshot

/-- The bytes that the digest of a manifest is computed from. -/
def manifestPreimage (projectPath : String) (entries : List SourceManifestEntry)
    (totalSize : UInt64) : List UInt8 :=
  manifestDomain ++ digestString projectPath ++ BigEndian.toBytes 8 entries.length ++
    entries.flatMap digestEntry ++ BigEndian.toBytes 8 totalSize.toNat

/-- The lengths of strings and vectors are numbers of 64 bits. -/
structure FitsMemory (projectPath : String) (entries : List SourceManifestEntry) : Prop where
  projectSize : projectPath.utf8ByteSize < 2 ^ 64
  count : entries.length < 2 ^ 64
  pathSize : ∀ entry ∈ entries, entry.path.utf8ByteSize < 2 ^ 64
  sha256Size : ∀ entry ∈ entries, entry.sha256.utf8ByteSize < 2 ^ 64

theorem selfDelimiting_digestString :
    SelfDelimiting (fun value : String => value.utf8ByteSize < 2 ^ 64) digestString := by
  have hframed := (selfDelimiting_toBytes 8).framed.comap Text.utf8_injective
  simp only [Text.length_utf8] at hframed
  exact hframed

theorem selfDelimiting_size :
    SelfDelimiting (fun _ : UInt64 => True) fun size => BigEndian.toBytes 8 size.toNat := by
  have h := (selfDelimiting_toBytes 8).comap fun a b : UInt64 => UInt64.toNat_inj.mp
  exact h.mono fun size _ => size.toNat_lt

theorem selfDelimiting_executable :
    SelfDelimiting (fun _ : Bool => True) fun executable => [if executable then (1 : UInt8) else 0] := by
  apply SelfDelimiting.ofLength (n := 1) fun _ _ => rfl
  intro a b _ _ h
  cases a <;> cases b <;> first | rfl | (revert h; decide)

theorem selfDelimiting_digestEntry :
    SelfDelimiting (fun entry : SourceManifestEntry =>
      entry.path.utf8ByteSize < 2 ^ 64 ∧ entry.sha256.utf8ByteSize < 2 ^ 64) digestEntry := by
  have hfields := ((selfDelimiting_digestString.append selfDelimiting_size).append
    selfDelimiting_digestString).append selfDelimiting_executable
  have hinj : Function.Injective fun entry : SourceManifestEntry =>
      (((entry.path, entry.size), entry.sha256), entry.executable) := by
    intro a b h
    obtain ⟨path, size, sha256, executable⟩ := a
    obtain ⟨path', size', sha256', executable'⟩ := b
    simp only [Prod.mk.injEq] at h
    obtain ⟨⟨⟨rfl, rfl⟩, rfl⟩, rfl⟩ := h
    rfl
  exact (hfields.comap hinj).mono fun _ h => ⟨⟨⟨h.1, trivial⟩, h.2⟩, trivial⟩

/-- **The digest binds the manifest**: it is the SHA-256 of bytes that only one manifest has. -/
theorem manifestDigest_preimage {projectPath projectPath' : String}
    {entries entries' : List SourceManifestEntry} {totalSize totalSize' : UInt64}
    (h : FitsMemory projectPath entries) (h' : FitsMemory projectPath' entries') :
    (∀ tools, manifestDigest tools projectPath entries totalSize =
        tools.sha256 (manifestPreimage projectPath entries totalSize)) ∧
      (manifestPreimage projectPath entries totalSize =
          manifestPreimage projectPath' entries' totalSize' →
        projectPath = projectPath' ∧ entries = entries' ∧ totalSize = totalSize') := by
  apply And.intro fun _ => rfl
  intro heq
  simp only [manifestPreimage, List.append_assoc, List.append_cancel_left_eq] at heq
  obtain ⟨hpath, heq⟩ := selfDelimiting_digestString _ _ h.projectSize h'.projectSize _ _ heq
  have hcounted := (selfDelimiting_toBytes 8).counted selfDelimiting_digestEntry
  obtain ⟨hentries, heq⟩ := hcounted entries entries'
    ⟨h.count, fun entry hentry => ⟨h.pathSize entry hentry, h.sha256Size entry hentry⟩⟩
    ⟨h'.count, fun entry hentry => ⟨h'.pathSize entry hentry, h'.sha256Size entry hentry⟩⟩ _ _
    (by simpa using heq)
  exact ⟨hpath, hentries, selfDelimiting_size.injOn trivial trivial heq⟩

/-- Two files whose paths have the same characters in a row. -/
def pair (first second : String) : List SourceManifestEntry :=
  [⟨first, 1, "00", false⟩, ⟨second, 2, "01", true⟩]

/-- The bytes show where a path ends. -/
theorem manifestDigest_preimage_pair :
    FitsMemory "." (pair "ab" "c") ∧ FitsMemory "." (pair "a" "bc") ∧
      manifestPreimage "." (pair "ab" "c") 3 ≠ manifestPreimage "." (pair "a" "bc") 3 := by
  have h : FitsMemory "." (pair "ab" "c") := ⟨by decide, by decide, by decide, by decide⟩
  have h' : FitsMemory "." (pair "a" "bc") := ⟨by decide, by decide, by decide, by decide⟩
  refine ⟨h, h', ?_⟩
  intro heq
  obtain ⟨-, hentries, -⟩ := (manifestDigest_preimage h h').2 heq
  exact absurd hentries (by simp [pair])

end Source

end RustFerry
