import Mathlib.Data.List.Nodup
import Mathlib.Data.UInt
import RustFerry.ForStd.BTreeMap
import RustFerry.ForStd.Except

/-!
# A directory of files

The regular files of one directory by name, on a file system without input or output errors whose
file names have at most 255 bytes. Only a name that is too long, missing or taken is an error.
-/

/-- The files of a directory. -/
structure Directory where
  files : List (String × List UInt8)
  nodup : (files.map Prod.fst).Nodup

inductive FileError where
  | notFound
  | alreadyExists
  | nameTooLong
  deriving DecidableEq

namespace Directory

def maxNameBytes : Nat := 255

def empty : Directory := ⟨[], List.nodup_nil⟩

def names (self : Directory) : List String := self.files.map Prod.fst

/-- The contents of a file. -/
def find (self : Directory) (name : String) : Option (List UInt8) := self.files.lookup name

theorem erase_nodup (self : Directory) (name : String) :
    ((self.files.filter fun file => file.1 != name).map Prod.fst).Nodup :=
  self.nodup.sublist (List.filter_sublist.map _)

/-- The directory without a file. -/
def erase (self : Directory) (name : String) : Directory :=
  ⟨self.files.filter fun file => file.1 != name, self.erase_nodup name⟩

/-- An erased name is gone. -/
theorem not_mem_names_erase (self : Directory) (name : String) : name ∉ (self.erase name).names := by
  intro h
  obtain ⟨file, hfile, hname⟩ := List.mem_map.mp h
  have hne := (List.mem_filter.mp hfile).2
  rw [hname] at hne
  simp at hne

theorem put_nodup (self : Directory) (name : String) (bytes : List UInt8) :
    (((name, bytes) :: (self.erase name).files).map Prod.fst).Nodup :=
  List.nodup_cons.mpr ⟨self.not_mem_names_erase name, (self.erase name).nodup⟩

/-- The directory with these contents of a file. -/
def put (self : Directory) (name : String) (bytes : List UInt8) : Directory :=
  ⟨(name, bytes) :: (self.erase name).files, self.put_nodup name bytes⟩

/-! ## Operations -/

/-- Look a name up. -/
def resolve (self : Directory) (name : String) : Except FileError (List UInt8) :=
  if name.utf8ByteSize > maxNameBytes then .error .nameTooLong
  else match self.find name with
    | none => .error .notFound
    | some bytes => .ok bytes

/-- Create an empty file; it is an error if the name is taken. -/
def createNew (self : Directory) (name : String) : Except FileError Directory :=
  match self.resolve name with
  | .ok _ => .error .alreadyExists
  | .error .notFound => .ok (self.put name [])
  | .error failure => .error failure

/-- Rename a file and replace the file that has the name. -/
def rename (self : Directory) (source target : String) : Except FileError Directory :=
  match self.resolve source with
  | .error failure => .error failure
  | .ok bytes =>
    if target.utf8ByteSize > maxNameBytes then .error .nameTooLong
    else .ok ((self.erase source).put target bytes)

def remove (self : Directory) (name : String) : Except FileError Directory :=
  match self.resolve name with
  | .error failure => .error failure
  | .ok _ => .ok (self.erase name)

def isFile (self : Directory) (name : String) : Bool := (self.resolve name).toBool

/-! ## What is found -/

theorem find_erase (self : Directory) (name other : String) :
    (self.erase name).find other = if other = name then none else self.find other :=
  BTreeMap.lookup_remove name other self.files

/-- Writing changes one name. -/
theorem find_put (self : Directory) (name other : String) (bytes : List UInt8) :
    (self.put name bytes).find other = if other = name then some bytes else self.find other := by
  show List.lookup other ((name, bytes) :: (self.erase name).files) = _
  rw [List.lookup_cons]
  by_cases hother : other = name
  · simp [hother]
  · have hne : (other == name) = false := by simpa using hother
    rw [hne, if_neg hother]
    have herase := self.find_erase name other
    rw [if_neg hother] at herase
    exact herase

/-- The names are those of files. -/
theorem mem_names_iff (self : Directory) (name : String) :
    name ∈ self.names ↔ ∃ bytes, self.find name = some bytes := by
  unfold names find
  induction self.files with
  | nil => simp
  | cons file files ih =>
    obtain ⟨first, bytes⟩ := file
    rw [List.map_cons, List.mem_cons, List.lookup_cons]
    by_cases hname : name = first
    · simp [hname]
    · have hne : (name == first) = false := by simpa using hname
      rw [hne, ih]
      simp [hname]

theorem resolve_of_find {self : Directory} {name : String} {bytes : List UInt8}
    (hname : name.utf8ByteSize ≤ maxNameBytes) (h : self.find name = some bytes) :
    self.resolve name = .ok bytes := by
  rw [resolve, if_neg (Nat.not_lt.mpr hname), h]

theorem resolve_of_find_none {self : Directory} {name : String}
    (hname : name.utf8ByteSize ≤ maxNameBytes) (h : self.find name = none) :
    self.resolve name = .error .notFound := by
  rw [resolve, if_neg (Nat.not_lt.mpr hname), h]

theorem resolve_of_long {self : Directory} {name : String}
    (hname : maxNameBytes < name.utf8ByteSize) : self.resolve name = .error .nameTooLong := by
  rw [resolve, if_pos hname]

/-- Creation is exclusive. -/
theorem createNew_of_short (self : Directory) {name : String}
    (hname : name.utf8ByteSize ≤ maxNameBytes) :
    self.createNew name =
      if self.find name = none then .ok (self.put name []) else .error .alreadyExists := by
  unfold createNew
  cases hfind : self.find name with
  | none => rw [resolve_of_find_none hname hfind, if_pos rfl]
  | some bytes =>
    rw [resolve_of_find hname hfind, if_neg (by simp)]

end Directory
