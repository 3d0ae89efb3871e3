import Mathlib.Data.List.Basic
import Mathlib.Data.UInt

/-!
# Resolution of paths

Where the text of a path leads when a program joins it to a directory, under the rules of POSIX and
of Windows. A directory is the list of its components below the root of a volume.
-/

namespace PathResolution

/-! ## Components -/

/-- A component that is neither empty nor made of one or two dots. -/
def IsName (component : List Char) : Prop :=
  component ≠ [] ∧ component ≠ ['.'] ∧ component ≠ ['.', '.']

/-- The directory after one component. -/
def push (directory : List (List Char)) (component : List Char) : List (List Char) :=
  if component = [] ∨ component = ['.'] then directory
  else if component = ['.', '.'] then directory.dropLast
  else directory ++ [component]

def walk (directory components : List (List Char)) : List (List Char) :=
  components.foldl push directory

theorem push_of_isName {component : List Char} (h : IsName component)
    (directory : List (List Char)) : push directory component = directory ++ [component] := by
  obtain ⟨hempty, hdot, hdots⟩ := h
  simp [push, hempty, hdot, hdots]

/-- Names lead below the directory. -/
theorem walk_eq_append {components : List (List Char)} (h : ∀ c ∈ components, IsName c)
    (directory : List (List Char)) : walk directory components = directory ++ components := by
  induction components generalizing directory with
  | nil => simp [walk]
  | cons component rest ih =>
    have hfirst := push_of_isName (h component (by simp)) directory
    have hrest := ih (fun c hc => h c (List.mem_cons_of_mem _ hc)) (directory ++ [component])
    rw [walk, List.foldl_cons, hfirst]
    rw [walk] at hrest
    rw [hrest, List.append_assoc, List.singleton_append]

/-! ## Splitting -/

/-- A splitting at more separators splits the parts. -/
theorem splitOnP_eq_flatMap {p q : Char → Bool} (h : ∀ c, p c → q c) (text : List Char) :
    text.splitOnP q = (text.splitOnP p).flatMap (List.splitOnP q) := by
  induction text with
  | nil => simp
  | cons c rest ih =>
    rw [List.splitOnP_cons_eq_if_modifyHead, List.splitOnP_cons_eq_if_modifyHead]
    by_cases hp : p c
    · rw [if_pos (h c hp), if_pos hp, List.flatMap_cons, ih]
      simp
    · -- The character goes to the first part, which exists.
      obtain ⟨first, others, hparts⟩ := List.exists_cons_of_ne_nil (List.splitOnP_ne_nil p rest)
      obtain ⟨head, tail, hfirst⟩ := List.exists_cons_of_ne_nil (List.splitOnP_ne_nil q first)
      rw [if_neg hp, hparts, List.modifyHead_cons, List.flatMap_cons,
        List.splitOnP_cons_eq_if_modifyHead, ih, hparts, List.flatMap_cons, hfirst]
      by_cases hq : q c <;> simp [hq]

/-- Names stay names when fewer characters separate them. -/
theorem isName_of_finer {p q : Char → Bool} (h : ∀ c, p c → q c) (hdot : ¬ q '.')
    {text : List Char} (hnames : ∀ c ∈ text.splitOnP q, IsName c) :
    ∀ c ∈ text.splitOnP p, IsName c := by
  intro component hmem
  rw [splitOnP_eq_flatMap h] at hnames
  have hself : (∀ c ∈ component, ¬ q c) → IsName component := by
    intro hplain
    apply hnames
    apply List.mem_flatMap_of_mem hmem
    rw [List.splitOnP_eq_singleton (by simpa using hplain)]
    exact List.mem_singleton_self component
  by_cases hplain : ∀ c ∈ component, ¬ q c
  · exact hself hplain
  · -- A component with a separator of the finer splitting is not made of dots.
    refine ⟨?_, ?_, ?_⟩ <;>
    · intro heq
      apply hplain
      simp [heq, hdot]

/-- Names begin without a separator. -/
theorem head?_of_names {p : Char → Bool} {text : List Char}
    (h : ∀ c ∈ text.splitOnP p, IsName c) : text.head?.any p = false := by
  cases text with
  | nil => rfl
  | cons c rest =>
    by_cases hc : p c
    · rw [List.splitOnP_cons_eq_if_modifyHead, if_pos hc] at h
      exact absurd rfl (h [] (by simp)).1
    · simp [hc]

/-! ## POSIX -/

def Posix.isSeparator (c : Char) : Bool := c == '/'

/-- The directory that a text leads to from a directory. -/
def Posix.join (root : List (List Char)) (text : List Char) : List (List Char) :=
  let start := if text.head?.any isSeparator then [] else root
  walk start (text.splitOnP isSeparator)

theorem Posix.join_of_names {text : List Char}
    (h : ∀ c ∈ text.splitOnP isSeparator, IsName c) (root : List (List Char)) :
    join root text = root ++ text.splitOnP isSeparator := by
  simp only [join, head?_of_names h, Bool.false_eq_true, if_false]
  exact walk_eq_append h root

/-! ## Windows -/

namespace Windows

/-- A drive, or a share of a server. -/
inductive Volume where
  | drive (letter : Char)
  | share (server name : List Char)
  deriving DecidableEq

structure Location where
  volume : Volume
  components : List (List Char)
  deriving DecidableEq

def isSeparator (c : Char) : Bool := c == '/' || c == '\\'

/-- A letter and a colon. -/
def startsWithDrive : List Char → Bool
  | letter :: colon :: _ => letter.isAlpha && colon == ':'
  | _ => false

/-- The volume at the beginning of a text, and the rest of the text. Texts that begin with two
separators name a server and a share. -/
def splitVolume (text : List Char) : Option Volume × List Char :=
  match text with
  | first :: second :: rest =>
    if isSeparator first && isSeparator second then
      let server := rest.takeWhile fun c => !isSeparator c
      let rest := (rest.drop server.length).drop 1
      let name := rest.takeWhile fun c => !isSeparator c
      (some (.share server name), rest.drop name.length)
    else if first.isAlpha && second == ':' then (some (.drive first.toUpper), rest)
    else (none, text)
  | _ => (none, text)

/-- Where a text leads from a directory. A drive without a separator after it stands for the current
directory of this drive. -/
def join (currentDirectory : Char → List (List Char)) (root : Location) (text : List Char) :
    Location :=
  let (volume, rest) := splitVolume text
  let rooted := rest.head?.any isSeparator
  let components := rest.splitOnP isSeparator
  match volume with
  | some (.drive letter) =>
    ⟨.drive letter, walk (if rooted then [] else currentDirectory letter) components⟩
  | some (.share server name) => ⟨.share server name, walk [] components⟩
  | none => ⟨root.volume, walk (if rooted then [] else root.components) components⟩

/-- The directory itself, or below it. -/
def Location.Inside (root location : Location) : Prop :=
  location.volume = root.volume ∧ root.components <+: location.components

/-- There is no volume. -/
theorem splitVolume_eq_none {text : List Char} (hdrive : startsWithDrive text = false)
    (hroot : text.head?.any isSeparator = false) : splitVolume text = (none, text) := by
  unfold splitVolume
  split
  · rename_i first second rest
    have hfirst : isSeparator first = false := by simpa using hroot
    have hletter : (first.isAlpha && second == ':') = false := hdrive
    simp [hfirst, hletter]
  · rfl

/-- Names without a drive lead below the directory. -/
theorem join_of_names {text : List Char} (h : ∀ c ∈ text.splitOnP isSeparator, IsName c)
    (hdrive : startsWithDrive text = false) (currentDirectory : Char → List (List Char))
    (root : Location) :
    join currentDirectory root text =
      ⟨root.volume, root.components ++ text.splitOnP isSeparator⟩ := by
  have hroot := head?_of_names h
  simp only [join, splitVolume_eq_none hdrive hroot, hroot, Bool.false_eq_true, if_false]
  rw [walk_eq_append h]

/-- A drive replaces the volume of the directory. -/
theorem join_volume_of_drive {text : List Char} (hdrive : startsWithDrive text = true) :
    ∃ letter, ∀ currentDirectory root,
      (join currentDirectory root text).volume = .drive letter := by
  unfold startsWithDrive at hdrive
  split at hdrive
  · rename_i letter colon rest
    obtain ⟨hletter, hcolon⟩ := Bool.and_eq_true_iff.mp hdrive
    have hseparator : (isSeparator letter && isSeparator colon) = false := by
      simp [isSeparator, eq_of_beq hcolon]
    have hvolume : splitVolume (letter :: colon :: rest) =
        (some (.drive letter.toUpper), rest) := by
      simp [splitVolume, hseparator, hletter, hcolon]
    refine ⟨letter.toUpper, ?_⟩
    intro currentDirectory root
    rw [join, hvolume]
  · cases hdrive

end Windows

end PathResolution
