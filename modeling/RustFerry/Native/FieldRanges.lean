import RustFerry.ForStd.ChunkedLines
import RustFerry.Native.FerryConfig

/-!
# Places of configuration diagnostics

`cargo-ferry/src/ide/service.rs`: where a diagnostic about a field points in the source of
`ferry.toml`. Lines and columns are counted in 32 bits.
-/

namespace RustFerry.Ide

def u32Max : Nat := 4294967295

/-- A source position using zero-based line and UTF-16 character offsets. -/
structure Position where
  line : Nat
  character : Nat

/-- Half-open source range. -/
structure SourceRange where
  start : Position
  stop : Position

/-! ## Text -/

/-- `text.len()`. -/
def byteLength (text : List Char) : Nat := (text.map Char.utf8Size).sum

/-- `char::len_utf16`. -/
def utf16Size (c : Char) : Nat := if c.toNat < 0x10000 then 1 else 2

/-- `text.trim_start()`. -/
def trimStart (text : List Char) : List Char := text.dropWhile Text.isWhitespace

/-- The characters that end at the last character boundary up to the offset. -/
def charsUpTo : List Char → Nat → List Char
  | [], _ => []
  | c :: rest, offset =>
    if c.utf8Size ≤ offset then c :: charsUpTo rest (offset - c.utf8Size) else []

/-! ## Ranges -/

/-- One character of the loop of `position_at`, with saturating additions. -/
def Position.advance (self : Position) (c : Char) : Position :=
  if c = '\n' then { line := min (self.line + 1) u32Max, character := 0 }
  else { self with character := min (self.character + utf16Size c) u32Max }

def positionAt (source : List Char) (byteOffset : Nat) : Position :=
  (charsUpTo source byteOffset).foldl Position.advance ⟨0, 0⟩

def spanRange (source : List Char) (span : Option (Nat × Nat)) : SourceRange :=
  let span := span.getD (0, 0)
  { start := positionAt source span.1, stop := positionAt source span.2 }

/-- The loop of `find_field_range` over the lines from an offset on. -/
def findKey (source key : List Char) : Nat → List (List Char) → SourceRange
  | _, [] => spanRange source none
  | byteOffset, line :: lines =>
    let trimmed := trimStart line
    let indentation := byteLength line - byteLength trimmed
    -- the first line that sets a key of this name, in any table
    if (Text.stripFront key trimmed).any fun rest => (trimStart rest).head? == some '=' then
      let start := byteOffset + indentation
      spanRange source (some (start, start + byteLength key))
    else findKey source key (byteOffset + byteLength line) lines

/-- The last component of the path of a field. -/
def fieldKey (field : String) : List Char :=
  match Text.rsplitOnce '.' field.toList with
  | some (_, key) => key
  | none => field.toList

def findFieldRange (source : List Char) (field : String) : SourceRange :=
  findKey source (fieldKey field) 0 (Text.splitInclusive source)

end RustFerry.Ide
