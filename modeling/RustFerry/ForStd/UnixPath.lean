import RustFerry.ForStd.Text

/-!
# Unix paths

Components of a path as Rust's `std::path` yields them on Unix. Texts are lists of
characters.
-/

namespace UnixPath

/-- One component of a path. -/
inductive Component where
  | rootDir
  | curDir
  | parentDir
  | normal (name : List Char)
  deriving DecidableEq

/-- A piece between two separators; empty pieces and `.` are no components. -/
def ofPiece : List Char → Option Component
  | [] => none
  | ['.'] => none
  | ['.', '.'] => some .parentDir
  | name => some (.normal name)

/-- The first piece: an empty one is the root, and `.` is kept. -/
def ofFirst : List Char → Component
  | [] => .rootDir
  | ['.'] => .curDir
  | ['.', '.'] => .parentDir
  | name => .normal name

/-- `Path::components`. -/
def components (path : List Char) : List Component :=
  if path = [] then []
  else match Text.split '/' path with
    | [] => []
    | first :: rest => ofFirst first :: rest.filterMap ofPiece

/-- `Path::is_absolute`. -/
def isAbsolute (path : List Char) : Bool := path.head? == some '/'

/-- `Path::file_name` finds a name. -/
def hasFileName (path : List Char) : Bool :=
  match (components path).getLast? with
  | some (.normal _) => true
  | _ => false

def Component.isNormal : Component → Bool
  | .normal _ => true
  | _ => false

/-- `Component::as_os_str`. -/
def Component.text : Component → List Char
  | .rootDir => ['/']
  | .curDir => ['.']
  | .parentDir => ['.', '.']
  | .normal name => name

end UnixPath
