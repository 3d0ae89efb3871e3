import RustFerry.ForStd.List
import RustFerry.Native.SourceTransport
import RustFerry.Spec.ManifestChecks
import RustFerry.Spec.SensitivePaths

/-!
# Extraction of source bundles

An extraction creates the directories and files of a manifest one after the other. In a valid
manifest no file is above another one, so nothing is in the way, and the result has exactly
the files of the manifest and their ancestors.
-/

namespace RustFerry.Source

open Except Snapshot

/-! ## Paths of a valid manifest -/

theorem toList_lt_append {text rest : List Char} (h : rest ≠ []) : text < text ++ rest := by
  induction text with
  | nil =>
    obtain ⟨c, cs, rfl⟩ := List.exists_cons_of_ne_nil h
    exact List.nil_lt_cons c cs
  | cons c text ih => exact List.cons_lt_cons_self.mpr ih

/-- A path comes before what is below it. -/
theorem lt_of_isBelow {path front : String} (h : IsBelow path front) : front < path := by
  obtain ⟨rest, rfl⟩ := h
  show front.toList < (front ++ "/" ++ rest).toList
  rw [String.toList_append, String.toList_append, List.append_assoc]
  exact toList_lt_append (by simp)

section

variable {tools : SourceTools} {limits : SourceLimits} {entries : List SourceManifestEntry}

theorem EntriesOk.eq_of_path (h : EntriesOk tools limits entries) {a b : SourceManifestEntry}
    (ha : a ∈ entries) (hb : b ∈ entries) (hpath : a.path = b.path) : a = b := by
  rcases h.sorted.eq_or_rel ha hb with heq | hlt | hlt
  · exact heq
  · exact absurd hlt (hpath ▸ lt_irrefl _)
  · exact absurd hlt (hpath ▸ lt_irrefl _)

/-- No file is the ancestor of another one. -/
theorem EntriesOk.eq_of_isPrefix (h : EntriesOk tools limits entries) {a b : SourceManifestEntry}
    (ha : a ∈ entries) (hb : b ∈ entries) (hle : components a.path <+: components b.path) :
    a = b := by
  by_cases heq : components a.path = components b.path
  · apply h.eq_of_path ha hb
    rw [← display_components a.path, heq, display_components]
  · have hproper : a.path ∈ (pathPrefixes b.path).dropLast :=
      (mem_pathPrefixes_dropLast (h.validPath hb)).mpr
        ⟨_, components_ne_nil _, hle, heq, (display_components _).symm⟩
    have hbelow : IsBelow b.path a.path := by
      rw [← display_components b.path]
      exact (isBelow_display_iff (h.validPath hb) (components_ne_nil _)).mpr ⟨hle, heq⟩
    rcases (h.sorted.and h.separate).eq_or_rel ha hb with hsame | ⟨-, hnot⟩ | ⟨hlt, -⟩
    · exact hsame
    · exact absurd hproper hnot
    · exact absurd hlt (lt_asymm (lt_of_isBelow hbelow))

theorem mem_allPaths (h : EntriesOk tools limits entries) {entry : SourceManifestEntry}
    (hentry : entry ∈ entries) {front : FsPath} (hne : front ≠ [])
    (hle : front <+: components entry.path) : displayRelativePath front ∈ allPaths entries :=
  List.mem_flatMap.mpr ⟨entry, hentry,
    (mem_pathPrefixes (h.validPath hentry)).mpr ⟨front, hne, hle, rfl⟩⟩

end

theorem hasDrivePrefix_append {text tail : List Char} (h : hasDrivePrefix text = true) :
    hasDrivePrefix (text ++ tail) = true := by
  match text with
  | [] => cases h
  | [_] => cases h
  | drive :: colon :: rest =>
    by_cases hcolon : colon = ':'
    · rw [hcolon] at h ⊢
      exact h
    · simp [hasDrivePrefix, hcolon] at h

/-- The ancestors of a portable path are portable. -/
theorem portable_of_isPrefix {unicode : Unicode} {path : String} {front : FsPath}
    (h : validatePortablePathStr unicode path false = .ok ()) (hne : front ≠ [])
    (hle : front <+: components path) :
    validatePortablePathStr unicode (displayRelativePath front) false = .ok () := by
  have hvalid := (validPath_of_portable h (Or.inl rfl)).of_isPrefix hle
  have hsegments := forM_validateSegment_of_portable h (Or.inl rfl)
  -- the text of the ancestor is the start of the text of the path
  have htext : (displayRelativePath front).toList <+: path.toList := by
    obtain ⟨rest, hrest⟩ := hle
    by_cases hnil : rest = []
    · rw [hnil, List.append_nil] at hrest
      rw [hrest, display_components]
    · have hpath : path = displayRelativePath front ++ "/" ++ displayRelativePath rest := by
        rw [← display_append hne hnil, hrest, display_components]
      rw [hpath, String.append_assoc, String.toList_append]
      exact List.prefix_append _ _
  have hcomponents := components_display hvalid hne
  unfold validatePortablePathStr at h ⊢
  rw [if_neg (by simp)] at h ⊢
  simp only [check_bind_eq_ok, rejectIf_eq_ok, decide_eq_false_iff_not] at h ⊢
  obtain ⟨-, hsize, hunc, hdrive, habsolute, hbackslash, -⟩ := h
  refine ⟨?_, ?_, ?_, ?_, ?_, ?_, ?_⟩
  · rw [beq_eq_false_iff_ne]
    intro hempty
    rw [hempty] at hcomponents
    have hname := hvalid [] (by rw [← hcomponents]; decide)
    exact hname.1 rfl
  · obtain ⟨tail, htail⟩ := htext
    have hpath : path = displayRelativePath front ++ String.ofList tail := by
      apply String.toList_injective
      rw [String.toList_append, String.toList_ofList, htail]
    rw [hpath, String.utf8ByteSize_append] at hsize
    omega
  · rw [Bool.or_eq_false_iff, Bool.eq_false_iff, Bool.eq_false_iff, ne_eq, ne_eq,
      List.isPrefixOf_iff_prefix, List.isPrefixOf_iff_prefix] at hunc ⊢
    exact ⟨fun hslashes => hunc.1 (hslashes.trans htext),
      fun hslashes => hunc.2 (hslashes.trans htext)⟩
  · rw [Bool.eq_false_iff] at hdrive ⊢
    intro hdriven
    apply hdrive
    obtain ⟨tail, htail⟩ := htext
    rw [← htail]
    exact hasDrivePrefix_append hdriven
  · rw [beq_eq_false_iff_ne] at habsolute ⊢
    intro hhead
    apply habsolute
    obtain ⟨tail, htail⟩ := htext
    rw [← htail, List.head?_append, hhead]
    rfl
  · rw [Bool.eq_false_iff] at hbackslash ⊢
    intro hcontains
    apply hbackslash
    rw [List.contains_iff_mem] at hcontains ⊢
    exact htext.subset hcontains
  · rw [hcomponents]
    exact forM_eq_ok.mpr fun segment hsegment => hsegments segment (hle.subset hsegment)

/-! ## Extraction -/

/-- A file of the bundle with its contents. -/
abbrev Item := SourceManifestEntry × List UInt8

/-- The directories and files that the items need, and nothing else. -/
structure Materialized (items : List Item) (tree : Extracted) : Prop where
  nodup : (tree.map (·.1)).Nodup
  mem : ∀ path node, (path, node) ∈ tree ↔
    (∃ item ∈ items, path = components item.1.path ∧ node = .file item.2 item.1.executable) ∨
      (node = .directory ∧ path ≠ [] ∧ ∃ item ∈ items, path <+: components item.1.path ∧
        path ≠ components item.1.path)
  length : tree.length ≤ (items.map fun item => (components item.1.path).length).sum

/-- Nothing was extracted. -/
theorem Materialized.init : Materialized [] [] := by
  constructor <;> simp

/-- Where no file is in the way, the missing directories are created. -/
theorem createSafeParentDirectories_eq_ok {tree : Extracted} {front rest : FsPath}
    (hnodup : (tree.map (·.1)).Nodup)
    (hfree : ∀ names contents executable, names ≠ [] → names <+: rest →
      (front ++ names, .file contents executable) ∉ tree) :
    ∃ tree', createSafeParentDirectories tree front rest = .ok tree' ∧
      (tree'.map (·.1)).Nodup ∧
      (∀ path node, (path, node) ∈ tree' ↔ (path, node) ∈ tree ∨
        (node = .directory ∧ ∃ names, names ≠ [] ∧ names <+: rest ∧ path = front ++ names)) ∧
      tree'.length ≤ tree.length + rest.length := by
  induction rest generalizing tree front with
  | nil =>
    refine ⟨tree, rfl, hnodup, ?_, Nat.le_refl _⟩
    intro path node
    constructor
    · intro h
      exact Or.inl h
    · intro h
      rcases h with h | ⟨-, names, hne, hnil, -⟩
      · exact h
      · exact absurd (List.prefix_nil.mp hnil) hne
  | cons name rest ih =>
    -- a prefix is the first component, or goes on below it
    have hsplit : ∀ path, (∃ names, names ≠ [] ∧ names <+: name :: rest ∧ path = front ++ names) ↔
        path = front ++ [name] ∨
          ∃ names, names ≠ [] ∧ names <+: rest ∧ path = front ++ [name] ++ names := by
      intro path
      constructor
      · intro hparts
        obtain ⟨names, hne, hle, hpath⟩ := hparts
        cases names with
        | nil => exact absurd rfl hne
        | cons first names =>
          obtain ⟨rfl, hle'⟩ := List.cons_prefix_cons.mp hle
          by_cases hnil : names = []
          · left
            rw [hpath, hnil]
          · right
            refine ⟨names, hnil, hle', ?_⟩
            rw [hpath, List.append_assoc]
            rfl
      · intro h
        rcases h with rfl | ⟨names, hne, hle, rfl⟩
        · exact ⟨[name], by simp, ⟨rest, rfl⟩, rfl⟩
        · refine ⟨name :: names, by simp, (List.prefix_cons_inj name).mpr hle, ?_⟩
          rw [List.append_assoc]
          rfl
    have hfree' : ∀ names contents executable, names ≠ [] → names <+: rest →
        (front ++ [name] ++ names, .file contents executable) ∉ tree := by
      intro names contents executable hne hle
      have hnot := hfree (name :: names) contents executable (by simp)
        ((List.prefix_cons_inj name).mpr hle)
      rw [List.append_assoc]
      exact hnot
    rw [createSafeParentDirectories]
    cases hlookup : tree.lookup (front ++ [name]) with
    | some node =>
      have hmem := (List.lookup_eq_some_iff_mem hnodup).mp hlookup
      cases node with
      | file contents executable =>
        exact absurd hmem (hfree [name] contents executable (by simp) ⟨rest, rfl⟩)
      | directory =>
        obtain ⟨tree', htree', hnodup', hmem', hlength'⟩ := ih hnodup hfree'
        refine ⟨tree', htree', hnodup', ?_, ?_⟩
        · intro path node
          rw [hmem', hsplit]
          constructor
          · intro h
            rcases h with h | ⟨hnode, h⟩
            · exact Or.inl h
            · exact Or.inr ⟨hnode, Or.inr h⟩
          · intro h
            rcases h with h | ⟨rfl, rfl | h⟩
            · exact Or.inl h
            · exact Or.inl hmem
            · exact Or.inr ⟨rfl, h⟩
        · rw [List.length_cons]
          omega
    | none =>
      have hfresh := List.lookup_eq_none_iff_notMem.mp hlookup
      have hnodup₁ : ((tree ++ [(front ++ [name], ExtractedNode.directory)]).map (·.1)).Nodup := by
        rw [List.map_append, List.map_singleton]
        exact List.nodup_append.mpr ⟨hnodup, List.nodup_singleton _, by
          intro a ha b hb heq
          rw [heq, List.mem_singleton.mp hb] at ha
          exact hfresh ha⟩
      have hfree₁ : ∀ names contents executable, names ≠ [] → names <+: rest →
          (front ++ [name] ++ names, .file contents executable) ∉
            tree ++ [(front ++ [name], .directory)] := by
        intro names contents executable hne hle hmem
        rcases List.mem_append.mp hmem with hmem | hmem
        · exact hfree' names contents executable hne hle hmem
        · exact nomatch (Prod.mk.inj (List.mem_singleton.mp hmem)).2
      obtain ⟨tree', htree', hnodup', hmem', hlength'⟩ := ih hnodup₁ hfree₁
      refine ⟨tree', htree', hnodup', ?_, ?_⟩
      · intro path node
        rw [hmem', hsplit, List.mem_append, List.mem_singleton, Prod.mk.injEq, and_or_left,
          or_assoc, and_comm (a := path = front ++ [name])]
      · rw [List.length_append, List.length_singleton] at hlength'
        rw [List.length_cons]
        omega

/-- What an archive holds for a file of the manifest. -/
structure Carries (sha256 : List UInt8 → String) (entry : ZipEntry) (item : Item) : Prop where
  name : entry.nameRaw = Text.utf8 item.1.path
  data : entry.data = some item.2
  size : item.2.length = item.1.size.toNat
  digest : sha256 item.2 = item.1.sha256

theorem Materialized.extract {sha256 : List UInt8 → String} {items : List Item} {item : Item}
    {tree : Extracted} {entry : ZipEntry} (htree : Materialized items tree)
    (hcarries : Carries sha256 entry item)
    (hseparate : ∀ other ∈ items, ¬ components other.1.path <+: components item.1.path ∧
      ¬ components item.1.path <+: components other.1.path) :
    ∃ tree', extractVerifiedEntry sha256 tree (entry, item.1) = .ok tree' ∧
      Materialized (items ++ [item]) tree' := by
  have hpath := components_ne_nil item.1.path
  have hdrop : (components item.1.path).dropLast <+: components item.1.path :=
    List.dropLast_prefix _
  obtain ⟨parents, hparents, hnodup, hmem, hlength⟩ :=
    @createSafeParentDirectories_eq_ok tree [] (components item.1.path).dropLast htree.nodup (by
      intro names contents executable _ hle hfile
      -- a file of an earlier item cannot be above this one
      rcases (htree.mem _ _).mp hfile with ⟨other, hother, heq, -⟩ | ⟨hnode, -⟩
      · rw [List.nil_append] at heq
        exact (hseparate other hother).1 (heq ▸ hle.trans hdrop)
      · exact nomatch hnode)
  -- the new file is not there yet
  have hfresh : ∀ node, (components item.1.path, node) ∉ parents := by
    intro node hnode
    rcases (hmem _ _).mp hnode with hold | ⟨-, names, -, hle, heq⟩
    · rcases (htree.mem _ _).mp hold with ⟨other, hother, heq, -⟩ | ⟨-, -, other, hother, hle, -⟩
      · exact (hseparate other hother).1 (heq ▸ List.prefix_refl _)
      · exact (hseparate other hother).2 hle
    · have hshorter := hle.length_le
      rw [List.nil_append] at heq
      rw [← heq, List.length_dropLast] at hshorter
      have hpositive := List.length_pos_iff.mpr hpath
      omega
  have hlookup : parents.lookup (components item.1.path) = none := by
    rw [List.lookup_eq_none_iff_notMem]
    intro hkey
    obtain ⟨⟨_, node⟩, hnode, rfl⟩ := List.mem_map.mp hkey
    exact hfresh node hnode
  refine ⟨parents ++ [(components item.1.path, .file item.2 item.1.executable)], ?_, ?_, ?_, ?_⟩
  · rw [extractVerifiedEntry, bind_eq_ok]
    refine ⟨parents, hparents, ?_⟩
    simp only [check_bind_eq_ok, rejectIf_eq_ok, hlookup, hcarries.name, hcarries.data,
      hcarries.size, hcarries.digest, bne_self_eq_false, Bool.or_self, Option.isSome_none, true_and]
    rfl
  · rw [List.map_append, List.map_singleton]
    refine List.nodup_append.mpr ⟨hnodup, List.nodup_singleton _, ?_⟩
    intro a ha b hb heq
    obtain ⟨⟨_, node⟩, hnode, rfl⟩ := List.mem_map.mp ha
    rw [List.mem_singleton] at hb
    dsimp only at heq
    rw [heq, hb] at hnode
    exact hfresh node hnode
  · intro path node
    rw [List.mem_append, List.mem_singleton, Prod.mk.injEq, hmem, htree.mem]
    -- the directories that were created are the proper ancestors of the new file
    have hancestors : (∃ names, names ≠ [] ∧ names <+: (components item.1.path).dropLast ∧
        path = [] ++ names) ↔
        path ≠ [] ∧ path <+: components item.1.path ∧ path ≠ components item.1.path := by
      constructor
      · intro hparts
        obtain ⟨names, hne, hle, heq⟩ := hparts
        rw [List.nil_append] at heq
        subst heq
        refine ⟨hne, hle.trans hdrop, ?_⟩
        intro hsame
        have hshorter := hle.length_le
        rw [hsame, List.length_dropLast] at hshorter
        have hpositive := List.length_pos_iff.mpr hpath
        omega
      · intro hparts
        obtain ⟨hne, hle, hproper⟩ := hparts
        refine ⟨path, hne, ?_, rfl⟩
        obtain ⟨front, last, hconcat⟩ := List.eq_nil_or_concat _ |>.resolve_left hpath
        rw [List.concat_eq_append] at hconcat
        rw [hconcat] at hle hproper ⊢
        rw [List.dropLast_concat]
        exact (List.prefix_concat_iff.mp hle).resolve_left hproper
    have hfiles : (∃ other ∈ items ++ [item], path = components other.1.path ∧
        node = .file other.2 other.1.executable) ↔
        (∃ other ∈ items, path = components other.1.path ∧
          node = .file other.2 other.1.executable) ∨
          path = components item.1.path ∧ node = .file item.2 item.1.executable := by
      simp only [List.mem_append, List.mem_singleton, or_and_right, exists_or, exists_eq_left]
    have hdirectories : (∃ other ∈ items ++ [item], path <+: components other.1.path ∧
        path ≠ components other.1.path) ↔
        (∃ other ∈ items, path <+: components other.1.path ∧ path ≠ components other.1.path) ∨
          path <+: components item.1.path ∧ path ≠ components item.1.path := by
      simp only [List.mem_append, List.mem_singleton, or_and_right, exists_or, exists_eq_left]
    rw [hancestors, hfiles, hdirectories]
    constructor
    · intro h
      rcases h with ((hold | ⟨hnode, hne, hold⟩) | ⟨hnode, hne, hnew⟩) | hnew
      · exact Or.inl (Or.inl hold)
      · exact Or.inr ⟨hnode, hne, Or.inl hold⟩
      · exact Or.inr ⟨hnode, hne, Or.inr hnew⟩
      · exact Or.inl (Or.inr hnew)
    · intro h
      rcases h with (hold | hnew) | ⟨hnode, hne, hold | hnew⟩
      · exact Or.inl (Or.inl (Or.inl hold))
      · exact Or.inr hnew
      · exact Or.inl (Or.inl (Or.inr ⟨hnode, hne, hold⟩))
      · exact Or.inl (Or.inr ⟨hnode, hne, hnew⟩)
  · rw [List.length_append, List.length_singleton, List.map_append, List.sum_append,
      List.map_singleton, List.sum_singleton]
    have hitems := htree.length
    have hpositive := List.length_pos_iff.mpr hpath
    rw [List.length_dropLast] at hlength
    omega

/-- The files of a valid manifest are extracted. -/
theorem extractEntries_eq_ok {tools : SourceTools} {limits : SourceLimits}
    {manifest : SourceManifest} {archive : ZipArchive} {items : List Item}
    (hentries : EntriesOk tools limits manifest.entries)
    (hitems : items.map (·.1) = manifest.entries)
    (hcarries : List.Forall₂ (Carries tools.sha256) archive.entries items) :
    ∃ tree, extractEntries tools.sha256 archive manifest = .ok tree ∧ Materialized items tree := by
  have hzip : archive.entries.zip manifest.entries =
      (archive.entries.zip items).map fun pair => (pair.1, pair.2.1) := by
    rw [← hitems, List.zip_map_right]
    rfl
  have hsecond : (archive.entries.zip items).map (·.2) = items :=
    List.map_snd_zip (le_of_eq hcarries.length_eq.symm)
  rw [extractEntries, hzip, List.foldlM_map]
  obtain ⟨tree, htree, hmaterialized⟩ := @foldlM_progress _ _ _ (archive.entries.zip items)
    (fun tree pair => extractVerifiedEntry tools.sha256 tree (pair.1, pair.2.1)) []
    (fun done tree => Materialized (done.map (·.2)) tree) (by
      intro done pair rest tree hsplit hdone
      have hpair : pair ∈ archive.entries.zip items := by
        rw [hsplit]
        exact List.mem_append_right _ List.mem_cons_self
      have hmem : ∀ other ∈ done.map (·.2) ++ [pair.2], other ∈ items := by
        intro other hother
        rw [← hsecond, hsplit, List.map_append, List.map_cons]
        rcases List.mem_append.mp hother with hother | hother
        · exact List.mem_append_left _ hother
        · rw [List.mem_singleton.mp hother]
          exact List.mem_append_right _ List.mem_cons_self
      have hentry : ∀ other ∈ items, other.1 ∈ manifest.entries := by
        intro other hother
        rw [← hitems]
        exact List.mem_map_of_mem hother
      -- entries that stand apart in the manifest are different
      have hapart : ∀ other ∈ done.map (·.2), other.1 ≠ pair.2.1 := by
        intro other hother heq
        have hsorted := hentries.sorted
        rw [← hitems, ← hsecond, hsplit, List.map_append, List.map_cons, List.map_append] at hsorted
        have hlt := (List.pairwise_append.mp hsorted).2.2 other.1 (List.mem_map_of_mem hother)
          pair.2.1 List.mem_cons_self
        rw [heq] at hlt
        exact lt_irrefl _ hlt
      obtain ⟨tree', htree', hnext⟩ := hdone.extract
        (List.forall₂_zip hcarries (by simpa using hpair)) (by
          intro other hother
          have hmem₁ := hentry other (hmem other (List.mem_append_left _ hother))
          have hmem₂ := hentry pair.2 (hmem pair.2 (List.mem_append_right _ List.mem_cons_self))
          exact ⟨fun hle => hapart other hother (hentries.eq_of_isPrefix hmem₁ hmem₂ hle),
            fun hle => hapart other hother (hentries.eq_of_isPrefix hmem₂ hmem₁ hle).symm⟩)
      refine ⟨tree', htree', ?_⟩
      rw [List.map_append]
      exact hnext) .init
  refine ⟨tree, htree, ?_⟩
  rw [hsecond] at hmaterialized
  exact hmaterialized

end RustFerry.Source
