import RustFerry.Native.SourcePlan

/-!
# Paths and their components

A path as it is displayed and the list of its components determine each other, so the
predicates on displayed paths can be read on components.
-/

namespace RustFerry.Source

open Except

variable {front : FsPath} {unicode : Unicode} {path : FsPath}

/-- Every component is a name. -/
def ValidPath (path : FsPath) : Prop := ∀ name ∈ path, IsName name

theorem ValidPath.append_singleton {name : List Char} (h : ValidPath path) (hname : IsName name) :
    ValidPath (path ++ [name]) := by
  intro x hx
  rcases List.mem_append.mp hx with hx | hx
  · exact h x hx
  · rw [List.mem_singleton.mp hx]
    exact hname

theorem ValidPath.of_isPrefix (h : ValidPath path) (hfront : front <+: path) :
    ValidPath front :=
  fun name hname => h name (hfront.subset hname)

/-! ## Displayed paths -/

theorem joinPath_eq_intercalate (path : FsPath) : joinPath path = ['/'].intercalate path := by
  induction path with
  | nil => rfl
  | cons name path ih =>
    cases path with
    | nil => simp [joinPath]
    | cons name' path =>
      rw [joinPath, ih, List.intercalate_cons_cons]
      · simp
      · simp

/-- Joined names are split again. -/
theorem split_joinPath (hvalid : ∀ name ∈ path, '/' ∉ name) (hne : path ≠ []) :
    Text.split '/' (joinPath path) = path := by
  rw [joinPath_eq_intercalate]
  exact List.splitOn_intercalate '/' hvalid hne

/-- And the other way round. -/
theorem joinPath_split (text : List Char) : joinPath (Text.split '/' text) = text := by
  rw [joinPath_eq_intercalate]
  exact List.intercalate_splitOn '/'

/-- There is always one component. -/
theorem components_ne_nil (path : String) : components path ≠ [] :=
  List.splitOnP_ne_nil _ _

theorem display_of_ne_nil (hne : path ≠ []) :
    displayRelativePath path = String.ofList (joinPath path) := by
  unfold displayRelativePath
  rw [if_neg (by simpa using hne)]

/-- The components of a displayed path. -/
theorem components_display (hvalid : ValidPath path) (hne : path ≠ []) :
    components (displayRelativePath path) = path := by
  rw [display_of_ne_nil hne, components, String.toList_ofList]
  exact split_joinPath (fun name hname => (hvalid name hname).2.1) hne

/-- The display of the components of a path. -/
theorem display_components (path : String) : displayRelativePath (components path) = path := by
  rw [display_of_ne_nil (components_ne_nil path), components, joinPath_split,
    String.ofList_toList]

theorem display_ne_dot (hvalid : ValidPath path) (hne : path ≠ []) :
    displayRelativePath path ≠ "." := by
  intro h
  have hcomponents := components_display hvalid hne
  rw [h] at hcomponents
  have hdot : components "." = [['.']] := by decide
  rw [hdot] at hcomponents
  exact (hvalid ['.'] (hcomponents ▸ List.mem_singleton_self _)).2.2.1 rfl

/-- The dot stands for the root. -/
theorem display_eq_dot_iff (hvalid : ValidPath path) :
    displayRelativePath path = "." ↔ path = [] := by
  constructor
  · intro h
    by_contra hne
    exact display_ne_dot hvalid hne h
  · intro h
    rw [h]
    rfl

/-- Valid paths are displayed differently. -/
theorem display_injective {a b : FsPath} (ha : ValidPath a) (hb : ValidPath b)
    (h : displayRelativePath a = displayRelativePath b) : a = b := by
  by_cases hne : a = []
  · have hdot := (display_eq_dot_iff ha).mpr hne
    rw [h] at hdot
    rw [hne, (display_eq_dot_iff hb).mp hdot]
  · have hne' : b ≠ [] := by
      intro hb'
      apply display_ne_dot ha hne
      rw [h, hb']
      rfl
    rw [← components_display ha hne, h, components_display hb hne']

theorem joinPath_append {rest : FsPath} (hfront : front ≠ []) (hrest : rest ≠ []) :
    joinPath (front ++ rest) = joinPath front ++ '/' :: joinPath rest := by
  induction front with
  | nil => exact absurd rfl hfront
  | cons name front ih =>
    cases front with
    | nil =>
      obtain ⟨name', rest', rfl⟩ := List.exists_cons_of_ne_nil hrest
      rfl
    | cons name' front =>
      show name ++ '/' :: joinPath (name' :: front ++ rest) = _
      rw [ih (by simp)]
      simp [joinPath]

theorem display_append {rest : FsPath} (hfront : front ≠ []) (hrest : rest ≠ []) :
    displayRelativePath (front ++ rest) =
      displayRelativePath front ++ "/" ++ displayRelativePath rest := by
  rw [display_of_ne_nil (by simp [hfront]), display_of_ne_nil hfront, display_of_ne_nil hrest,
    joinPath_append hfront hrest]
  apply String.toList_injective
  simp [String.toList_append]

/-! ## Portable paths -/

/-- All segments are checked. -/
theorem forM_validateSegment_of_portable {path : String} {allowDot : Bool}
    (h : validatePortablePathStr unicode path allowDot = .ok ())
    (hdot : allowDot = false ∨ path ≠ ".") :
    ∀ segment ∈ components path, validateSegment unicode segment = .ok () := by
  have hnot : ¬ (allowDot && path == ".") = true := by
    rcases hdot with hdot | hdot
    · simp [hdot]
    · simp [hdot]
  unfold validatePortablePathStr at h
  rw [if_neg hnot] at h
  simp only [check_bind_eq_ok] at h
  obtain ⟨-, -, -, -, -, -, hsegments⟩ := h
  exact forM_eq_ok.mp hsegments

theorem isName_of_validateSegment {segment : List Char}
    (h : validateSegment unicode segment = .ok ()) (hslash : '/' ∉ segment) : IsName segment := by
  unfold validateSegment at h
  simp only [check_bind_eq_ok, rejectIf_eq_ok] at h
  obtain ⟨hempty, hdots, -⟩ := h
  simp only [Bool.or_eq_false_iff, beq_eq_false_iff_ne] at hdots
  refine ⟨?_, hslash, hdots.1, hdots.2⟩
  intro hnil
  rw [hnil] at hempty
  cases hempty

theorem not_mem_of_mem_split {separator : Char} {text piece : List Char}
    (h : piece ∈ Text.split separator text) : separator ∉ piece := by
  induction text generalizing piece with
  | nil =>
    rw [List.mem_singleton.mp h]
    exact List.not_mem_nil
  | cons c text ih =>
    rw [Text.split, List.splitOnP_cons_eq_if_modifyHead] at h
    by_cases hc : (c == separator) = true
    · rw [if_pos hc] at h
      rcases List.mem_cons.mp h with rfl | h
      · exact List.not_mem_nil
      · exact ih h
    · rw [if_neg hc] at h
      obtain ⟨first, rest, hsplit⟩ :=
        List.exists_cons_of_ne_nil (List.splitOnP_ne_nil (· == separator) text)
      rw [hsplit, List.modifyHead_cons] at h
      rcases List.mem_cons.mp h with rfl | h
      · have hfirst : separator ∉ first := ih (by rw [Text.split, hsplit]; exact List.mem_cons_self)
        have hne : separator ≠ c := fun heq => hc (by simp [heq])
        simp [hne, hfirst]
      · exact ih (by rw [Text.split, hsplit]; exact List.mem_cons_of_mem _ h)

/-- The components of a portable path are names. -/
theorem validPath_of_portable {path : String} {allowDot : Bool}
    (h : validatePortablePathStr unicode path allowDot = .ok ())
    (hdot : allowDot = false ∨ path ≠ ".") : ValidPath (components path) := by
  intro segment hmem
  exact isName_of_validateSegment (forM_validateSegment_of_portable h hdot segment hmem)
    (not_mem_of_mem_split hmem)

/-! ## Sensitive paths -/

/-- What makes a path sensitive, on its components. -/
def sensitiveParts (unicode : Unicode) (path : FsPath) : Bool :=
  path.dropLast.any (isSensitiveDirectory unicode) || path.getLast?.any (isSensitiveFileName unicode)

theorem isSensitivePath_eq (unicode : Unicode) (path : String) :
    isSensitivePath unicode path = sensitiveParts unicode (components path) := by
  unfold isSensitivePath sensitiveParts
  cases hlast : (components path).getLast? with
  | none => exact absurd (List.getLast?_eq_none_iff.mp hlast) (components_ne_nil path)
  | some fileName => rfl

theorem isSensitivePath_display (hvalid : ValidPath path) (hne : path ≠ []) :
    isSensitivePath unicode (displayRelativePath path) = sensitiveParts unicode path := by
  rw [isSensitivePath_eq, components_display hvalid hne]

end RustFerry.Source
