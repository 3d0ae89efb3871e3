import RustFerry.Native.SourcePath

/-!
# Credentials in source files

The signatures that a selected file must not contain (`crates/rustferry-remote/src/source.rs`):
private keys in PEM and PuTTY form and access tokens. The scans of the source advance an
offset into the contents; here they run on what is left after the offset, on fuel for its
length.
-/

namespace RustFerry.Source

open Except

/-- `find_bytes(haystack, needle)`: where the first window equal to the needle starts. -/
def findBytes (needle : List UInt8) : List UInt8 → Option Nat
  | [] => none
  | byte :: rest =>
    if needle.isPrefixOf (byte :: rest) then some 0 else (findBytes needle rest).map (· + 1)

def isAsciiAlphanumeric (byte : UInt8) : Bool :=
  (0x30 ≤ byte && byte ≤ 0x39) || (0x41 ≤ byte && byte ≤ 0x5a) || (0x61 ≤ byte && byte ≤ 0x7a)

/-- A digit, a letter, `_`, `-` or `.`. -/
def isTokenByte (byte : UInt8) : Bool :=
  isAsciiAlphanumeric byte || byte == 0x5f || byte == 0x2d || byte == 0x2e

/-- A digit, a letter, `+`, `/` or `=`. -/
def isBase64Byte (byte : UInt8) : Bool :=
  isAsciiAlphanumeric byte || byte == 0x2b || byte == 0x2f || byte == 0x3d

/-! ## PuTTY keys -/

def isPuttyPrivateKeyHeader (line : List UInt8) : Bool :=
  let front := Text.utf8 "PuTTY-User-Key-File-"
  front.isPrefixOf line &&
    match line.drop front.length with
    | version :: separator :: blank :: name =>
      !name.isEmpty && (version == 0x31 || version == 0x32 || version == 0x33) &&
        separator == 0x3a && blank == 0x20 && name.all fun byte => 0x21 ≤ byte && byte ≤ 0x7e
    | _ => false

/-- The number of a `Private-Lines` field, unless it does not fit a machine word. -/
def puttyPrivateLineCount (line : List UInt8) : Option Nat :=
  let front := Text.utf8 "Private-Lines: "
  if front.isPrefixOf line && !(line.drop front.length).isEmpty then
    (line.drop front.length).foldlM (fun count byte =>
      if 0x30 ≤ byte && byte ≤ 0x39 && count * 10 + (byte.toNat - 0x30) < 2 ^ 64 then
        some (count * 10 + (byte.toNat - 0x30))
      else none) 0
  else none

/-- What reading the lines of one private field finds out. -/
structure PrivateLines where
  encodedBytes : Nat
  complete : Bool
  nextHeader : Bool
  rest : List (List UInt8)

def readPrivateLines (encodedBytes : Nat) : Nat → List (List UInt8) → PrivateLines
  | 0, lines => ⟨encodedBytes, true, false, lines⟩
  | _ + 1, [] => ⟨encodedBytes, false, false, []⟩
  | count + 1, line :: lines =>
    if isPuttyPrivateKeyHeader line then ⟨encodedBytes, false, true, lines⟩
    else if line.isEmpty || !line.all isBase64Byte then ⟨encodedBytes, false, false, lines⟩
    else readPrivateLines (encodedBytes + (line.filter (· != 0x3d)).length) count lines

def containsPuttyPrivateKeyFrom : (fuel : Nat) → (sawHeader : Bool) → List (List UInt8) → Bool
  | _, _, [] => false
  | 0, _, _ :: _ => false
  | fuel + 1, sawHeader, line :: lines =>
    if isPuttyPrivateKeyHeader line then containsPuttyPrivateKeyFrom fuel true lines
    else if !sawHeader then containsPuttyPrivateKeyFrom fuel false lines
    else
      match puttyPrivateLineCount line with
      | none => containsPuttyPrivateKeyFrom fuel true lines
      | some count =>
        let read := readPrivateLines 0 count lines
        if 0 < count && read.complete && 32 ≤ read.encodedBytes then true
        else containsPuttyPrivateKeyFrom fuel read.nextHeader read.rest

def containsPuttyPrivateKey (contents : List UInt8) : Bool :=
  let lines := (contents.splitOnP fun byte => byte == 0x0d || byte == 0x0a).filter (!·.isEmpty)
  containsPuttyPrivateKeyFrom lines.length false lines

/-! ## PEM keys -/

def containsPemPrivateKeyFrom : (fuel : Nat) → List UInt8 → Bool
  | 0, _ => false
  | fuel + 1, contents =>
    match findBytes (Text.utf8 "-----BEGIN ") contents with
    | none => false
    | some start =>
      let header := contents.drop (start + 11)
      match findBytes (Text.utf8 "PRIVATE KEY-----") (header.take 64) with
      -- the search goes on behind what was read
      | none => containsPemPrivateKeyFrom fuel header
      | some suffix =>
        let body := header.drop (suffix + 16)
        match findBytes (Text.utf8 "-----END ") body with
        | none => containsPemPrivateKeyFrom fuel body
        | some length =>
          if 128 ≤ ((body.take length).filter isAsciiAlphanumeric).length then true
          else containsPemPrivateKeyFrom fuel body

def containsPrivateKey (contents : List UInt8) : Bool :=
  containsPuttyPrivateKey contents || containsPemPrivateKeyFrom (contents.length + 1) contents

/-! ## Access tokens -/

/-- The start of a token with the least and the greatest length of the rest. -/
def tokenSignatures : List (String × Nat × Nat) :=
  [("ghp_", 36, 64), ("github_pat_", 40, 128), ("gho_", 36, 128), ("ghu_", 36, 128),
    ("ghs_", 36, 128), ("ghr_", 36, 128), ("npm_", 36, 64), ("sk_live_", 24, 96),
    ("xoxb-", 20, 160), ("xoxp-", 20, 160), ("ya29.", 20, 160), ("AKIA", 16, 16),
    ("ASIA", 16, 16)]

/-- The scan for one signature; `previous` is the byte before what is left. -/
def containsTokenFrom (front : List UInt8) (minimum maximum : Nat) :
    (fuel : Nat) → (previous : Option UInt8) → List UInt8 → Bool
  | 0, _, _ => false
  | fuel + 1, previous, contents =>
    match findBytes front contents with
    | none => false
    | some start =>
      -- the byte before this rest, at its start
      let before := if start = 0 then previous else contents[start - 1]?
      let tail := contents.drop (start + front.length)
      let tailLength := (tail.takeWhile isTokenByte).length
      if before.all (!isTokenByte ·) && (tail.drop tailLength).head?.all (!isTokenByte ·) &&
          minimum ≤ tailLength && tailLength ≤ maximum then true
      else containsTokenFrom front minimum maximum fuel front.getLast? tail

def containsAccessToken (contents : List UInt8) : Bool :=
  tokenSignatures.any fun (front, minimum, maximum) =>
    containsTokenFrom (Text.utf8 front) minimum maximum (contents.length + 1) none contents

def rejectSensitiveContents (path : String) (contents : List UInt8) : SourceResult Unit :=
  rejectIf (containsPrivateKey contents || containsAccessToken contents) (.sensitiveContent path)

end RustFerry.Source
