import RustFerry.ForStd.PathResolution
import RustFerry.Spec.SnapshotParameters

/-!
# Relative paths of the protocol

The validation of a relative path refuses roots and parent components, but not a drive without a
separator. The accepted paths without a drive stay below every directory on both platforms.
-/

namespace RustFerry.Remote

open PathResolution

/-- Relative to a root, of the project or of the worker. -/
def ProtocolPath.IsRelative (path : ProtocolPath) : Prop :=
  path.semantics = .projectRelative ∨ path.semantics = .workerRelative

instance (path : ProtocolPath) : Decidable path.IsRelative :=
  inferInstanceAs (Decidable (_ ∨ _))

/-- On POSIX and on Windows, joining to any directory leads to a location inside it. -/
def ProtocolPath.StaysInside (path : ProtocolPath) : Prop :=
  (∀ root, root <+: Posix.join root path.value.toList) ∧
    ∀ currentDirectory (root : Windows.Location),
      root.Inside (Windows.join currentDirectory root path.value.toList)

theorem names_eq {value : List Char} :
    ((value.splitOnP fun c => c == '/' || c == '\\').any fun component =>
      component == [] || component == ['.'] || component == ['.', '.']) = false ↔
      ∀ c ∈ value.splitOnP Windows.isSeparator, IsName c := by
  have hseparator : (fun c => c == '/' || c == '\\') = Windows.isSeparator := rfl
  simp [hseparator, IsName, and_assoc]

/-- The accepted relative paths. -/
theorem validate_relative_eq_ok {parseUrl : ParseUrl} {path : ProtocolPath}
    (hrelative : path.IsRelative) : path.validate parseUrl = .ok () ↔
      validateSafeText "path" path.value 4096 = .ok () ∧ isAbsolutePathText path.value = false ∧
        ∀ c ∈ path.value.toList.splitOnP Windows.isSeparator, IsName c := by
  obtain ⟨semantics, value⟩ := path
  rw [← names_eq]
  -- Both kinds of relative path have the same checks.
  have hsame : ProtocolPath.validate parseUrl ⟨semantics, value⟩ =
      ProtocolPath.validate parseUrl ⟨.projectRelative, value⟩ := by
    cases hrelative with
    | inl hproject =>
      change semantics = .projectRelative at hproject
      subst hproject
      rfl
    | inr hworker =>
      change semantics = .workerRelative at hworker
      subst hworker
      rfl
  rw [hsame, ProtocolPath.validate]
  cases htext : validateSafeText "path" value 4096 with
  | error error => simp [bind, Except.bind]
  | ok =>
    simp only [bind, Except.bind, true_and]
    by_cases habsolute : isAbsolutePathText value
    · simp [habsolute, throw, throwThe, MonadExceptOf.throw]
    · rw [if_neg habsolute]
      by_cases hcomponents : ((value.toList.splitOnP fun c => c == '/' || c == '\\').any
          fun component => component == [] || component == ['.'] || component == ['.', '.']) = true
      · simp only [hcomponents, if_true]
        simp [throw, throwThe, MonadExceptOf.throw]
      · simp only [Bool.eq_false_iff.mpr hcomponents]
        simp [habsolute, pure, Except.pure]

/-- An accepted relative path stays inside every directory exactly if it begins with no drive. -/
theorem relative_inside_iff (parseUrl : ParseUrl) {path : ProtocolPath}
    (hrelative : path.IsRelative) (h : path.validate parseUrl = .ok ()) :
    path.StaysInside ↔ Windows.startsWithDrive path.value.toList = false := by
  obtain ⟨-, -, hnames⟩ := (validate_relative_eq_ok hrelative).mp h
  constructor
  · intro hinside
    by_contra hdrive
    -- The path leads to its drive, also from a directory on a share.
    obtain ⟨letter, hvolume⟩ := Windows.join_volume_of_drive (eq_true_of_ne_false hdrive)
    have hother := (hinside.2 (fun _ => []) ⟨.share ['s'] ['d'], []⟩).1
    rw [hvolume] at hother
    cases hother
  · intro hdrive
    constructor
    · intro root
      have hposix : ∀ c, Posix.isSeparator c → Windows.isSeparator c := by
        intro c hc
        simp [Windows.isSeparator, eq_of_beq hc]
      rw [Posix.join_of_names (isName_of_finer hposix (by decide) hnames)]
      exact List.prefix_append _ _
    · intro currentDirectory root
      rw [Windows.join_of_names hnames hdrive]
      exact ⟨rfl, List.prefix_append _ _⟩

def sourcePath : ProtocolPath := ⟨.projectRelative, "src\\app/main.rs"⟩

theorem relative_inside_sourcePath :
    sourcePath.StaysInside ↔ Windows.startsWithDrive sourcePath.value.toList = false :=
  relative_inside_iff (fun _ => none) (by decide) (by decide)

def driveRelativePath : ProtocolPath := ⟨.workerRelative, "C:foo"⟩

/-- A file in the current directory of the drive is accepted as a relative path. -/
theorem validate_driveRelative :
    driveRelativePath.IsRelative ∧ driveRelativePath.validate (fun _ => none) = .ok () ∧
      Windows.join (fun _ => ["Users".toList]) ⟨.drive 'D', ["jobs".toList]⟩
        driveRelativePath.value.toList = ⟨.drive 'C', ["Users".toList, "foo".toList]⟩ ∧
      ¬ driveRelativePath.StaysInside := by
  have hjoin : Windows.join (fun _ => ["Users".toList]) ⟨.drive 'D', ["jobs".toList]⟩
      driveRelativePath.value.toList = ⟨.drive 'C', ["Users".toList, "foo".toList]⟩ := by
    decide
  refine ⟨by decide, by decide, hjoin, ?_⟩
  intro hinside
  have hvolume := (hinside.2 (fun _ => ["Users".toList]) ⟨.drive 'D', ["jobs".toList]⟩).1
  rw [hjoin] at hvolume
  cases hvolume

end RustFerry.Remote
