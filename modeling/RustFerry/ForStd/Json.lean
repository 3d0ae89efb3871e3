import Mathlib.Data.List.Basic
import Mathlib.Data.UInt

/-!
# JSON texts

JSON values, the compact printer (escapes and digits as `serde_json` writes them)
and a parser for the whole grammar with a limit on nesting. Members of an object
keep their order and may repeat; numbers that are no 64-bit integers keep their
lexeme. Texts are lists of characters.
-/

/-- A JSON number: an integer of 64 bits, or any other lexeme. -/
inductive JsonNumber where
  | unsigned (n : Nat)
  | negative (n : Nat)
  | float (lexeme : List Char)
  deriving DecidableEq

inductive Json where
  | null
  | bool (b : Bool)
  | number (n : JsonNumber)
  | string (s : String)
  | array (items : List Json)
  | object (members : List (String × Json))

namespace Json

/-! ## Equality -/

mutual

/-- Equality of values is decided along their structure. -/
def decEq : (a b : Json) → Decidable (a = b)
  | .null, b => match b with
    | .null => isTrue rfl
    | .bool _ | .number _ | .string _ | .array _ | .object _ => isFalse (by simp)
  | .bool x, b => match b with
    | .bool y => if h : x = y then isTrue (by rw [h]) else isFalse (by simp [h])
    | .null | .number _ | .string _ | .array _ | .object _ => isFalse (by simp)
  | .number x, b => match b with
    | .number y => if h : x = y then isTrue (by rw [h]) else isFalse (by simp [h])
    | .null | .bool _ | .string _ | .array _ | .object _ => isFalse (by simp)
  | .string x, b => match b with
    | .string y => if h : x = y then isTrue (by rw [h]) else isFalse (by simp [h])
    | .null | .bool _ | .number _ | .array _ | .object _ => isFalse (by simp)
  | .array x, b => match b with
    | .array y => match decEqItems x y with
      | isTrue h => isTrue (by rw [h])
      | isFalse h => isFalse (by simp [h])
    | .null | .bool _ | .number _ | .string _ | .object _ => isFalse (by simp)
  | .object x, b => match b with
    | .object y => match decEqMembers x y with
      | isTrue h => isTrue (by rw [h])
      | isFalse h => isFalse (by simp [h])
    | .null | .bool _ | .number _ | .string _ | .array _ => isFalse (by simp)

def decEqItems : (a b : List Json) → Decidable (a = b)
  | [], [] => isTrue rfl
  | [], _ :: _ => isFalse (by simp)
  | _ :: _, [] => isFalse (by simp)
  | x :: xs, y :: ys => match decEq x y, decEqItems xs ys with
    | isTrue h, isTrue h' => isTrue (by rw [h, h'])
    | isFalse h, _ => isFalse (by simp [h])
    | _, isFalse h => isFalse (by simp [h])

def decEqMembers : (a b : List (String × Json)) → Decidable (a = b)
  | [], [] => isTrue rfl
  | [], _ :: _ => isFalse (by simp)
  | _ :: _, [] => isFalse (by simp)
  | (k, x) :: xs, (l, y) :: ys =>
    if hk : k = l then
      match decEq x y, decEqMembers xs ys with
      | isTrue h, isTrue h' => isTrue (by rw [hk, h, h'])
      | isFalse h, _ => isFalse (by simp [h])
      | _, isFalse h => isFalse (by simp [h])
    else isFalse (by simp [hk])

end

instance : DecidableEq Json := decEq

/-! ## Printer -/

/-- Decimal or hexadecimal digit. -/
def digitChar (n : Nat) : Char :=
  if n < 10 then Char.ofNat (48 + n) else Char.ofNat (87 + n)

def decimal (n : Nat) : List Char :=
  if n < 10 then [digitChar n] else decimal (n / 10) ++ [digitChar (n % 10)]
termination_by n
decreasing_by omega

/-- The escape of one character inside a string. -/
def escapeChar (c : Char) : List Char :=
  if c = '"' then ['\\', '"']
  else if c = '\\' then ['\\', '\\']
  else if c.toNat = 0x08 then ['\\', 'b']
  else if c.toNat = 0x09 then ['\\', 't']
  else if c.toNat = 0x0a then ['\\', 'n']
  else if c.toNat = 0x0c then ['\\', 'f']
  else if c.toNat = 0x0d then ['\\', 'r']
  else if c.toNat < 0x20 then
    ['\\', 'u', '0', '0', digitChar (c.toNat / 16), digitChar (c.toNat % 16)]
  else [c]

def printString (s : String) : List Char :=
  '"' :: (s.toList.flatMap escapeChar ++ ['"'])

def printNumber : JsonNumber → List Char
  | .unsigned n => decimal n
  | .negative n => '-' :: decimal n
  | .float lexeme => lexeme

mutual

/-- Compact text of a value. -/
def print : Json → List Char
  | .null => ['n', 'u', 'l', 'l']
  | .bool true => ['t', 'r', 'u', 'e']
  | .bool false => ['f', 'a', 'l', 's', 'e']
  | .number n => printNumber n
  | .string s => printString s
  | .array items => '[' :: (printItems items ++ [']'])
  | .object members => '{' :: (printMembers members ++ ['}'])

def printItems : List Json → List Char
  | [] => []
  | v :: rest => print v ++ printItemsTail rest

def printItemsTail : List Json → List Char
  | [] => []
  | v :: rest => ',' :: (print v ++ printItemsTail rest)

def printMembers : List (String × Json) → List Char
  | [] => []
  | (k, v) :: rest => printString k ++ ':' :: (print v ++ printMembersTail rest)

def printMembersTail : List (String × Json) → List Char
  | [] => []
  | (k, v) :: rest => ',' :: (printString k ++ ':' :: (print v ++ printMembersTail rest))

end

/-! ## Values of a program -/

/-- An integer of 64 bits, or no integer. -/
def isInteger64 : JsonNumber → Bool
  | .unsigned n => n < 2 ^ 64
  | .negative n => 0 < n && n ≤ 2 ^ 63
  | .float _ => true

mutual

/-- A value that a program holds: its integers have 64 bits, and each object is an ordered
    map, so its keys ascend. -/
def isValue : Json → Bool
  | .null | .bool _ | .string _ => true
  | .number n => isInteger64 n
  | .array items => areValues items
  | .object members => areMembers none members

def areValues : List Json → Bool
  | [] => true
  | v :: rest => isValue v && areValues rest

/-- Members whose keys ascend, from after the key `previous`. -/
def areMembers (previous : Option String) : List (String × Json) → Bool
  | [] => true
  | (k, v) :: rest =>
    previous.all (fun p => decide (p < k)) && isValue v && areMembers (some k) rest

end

/-! ## Parser -/

def isWhitespace (c : Char) : Bool :=
  c = ' ' || c = '\n' || c = '\t' || c = '\r'

def skipWhitespace : List Char → List Char
  | [] => []
  | c :: cs => if isWhitespace c then skipWhitespace cs else c :: cs

def digitValue (c : Char) : Nat := c.toNat - 48

def hexValue (c : Char) : Option Nat :=
  if c.isDigit then some (c.toNat - 48)
  else if 'a' ≤ c ∧ c ≤ 'f' then some (c.toNat - 87)
  else if 'A' ≤ c ∧ c ≤ 'F' then some (c.toNat - 55)
  else none

/-- Four hexadecimal digits. -/
def parseHex : List Char → Option (Nat × List Char)
  | a :: b :: c :: d :: cs => do
    let a ← hexValue a
    let b ← hexValue b
    let c ← hexValue c
    let d ← hexValue d
    return (((a * 16 + b) * 16 + c) * 16 + d, cs)
  | _ => none

/-- After `\u`: a code point, or a pair of surrogates; a lone surrogate is refused. -/
def parseUnicodeEscape (cs : List Char) : Option (Char × List Char) := do
  let (n, cs) ← parseHex cs
  if 0xDC00 ≤ n ∧ n ≤ 0xDFFF then none
  else if 0xD800 ≤ n ∧ n ≤ 0xDBFF then
    match cs with
    | '\\' :: 'u' :: cs => do
      let (low, cs) ← parseHex cs
      if 0xDC00 ≤ low ∧ low ≤ 0xDFFF then
        return (Char.ofNat (0x10000 + (n - 0xD800) * 0x400 + (low - 0xDC00)), cs)
      else none
    | _ => none
  else return (Char.ofNat n, cs)

/-- The character after a backslash. -/
def parseEscape : List Char → Option (Char × List Char)
  | [] => none
  | c :: cs =>
    if c = '"' then some ('"', cs)
    else if c = '\\' then some ('\\', cs)
    else if c = '/' then some ('/', cs)
    else if c = 'b' then some (Char.ofNat 0x08, cs)
    else if c = 'f' then some (Char.ofNat 0x0c, cs)
    else if c = 'n' then some ('\n', cs)
    else if c = 'r' then some ('\r', cs)
    else if c = 't' then some ('\t', cs)
    else if c = 'u' then parseUnicodeEscape cs
    else none

/-- The rest of a string up to its closing quote; raw control characters are refused. -/
def parseStringBody : (fuel : Nat) → List Char → Option (List Char × List Char)
  | 0, _ => none
  | _ + 1, [] => none
  | fuel + 1, c :: cs =>
    if c = '"' then some ([], cs)
    else if c = '\\' then do
      let (c, cs) ← parseEscape cs
      let (text, cs) ← parseStringBody fuel cs
      return (c :: text, cs)
    else if c.toNat < 0x20 then none
    else do
      let (text, cs) ← parseStringBody fuel cs
      return (c :: text, cs)

/-- After the opening quote. -/
def parseString (cs : List Char) : Option (String × List Char) := do
  let (text, cs) ← parseStringBody (cs.length + 1) cs
  return (String.ofList text, cs)

/-- The longest prefix of digits. -/
def spanDigits : List Char → List Char × List Char
  | [] => ([], [])
  | c :: cs =>
    if c.isDigit then
      let (digits, cs) := spanDigits cs
      (c :: digits, cs)
    else ([], c :: cs)

def ofDigits (digits : List Char) : Nat :=
  digits.foldl (fun n c => n * 10 + digitValue c) 0

/-- `.` and digits, if they are there. -/
def parseFraction : List Char → Option (List Char × List Char)
  | '.' :: cs =>
    match spanDigits cs with
    | ([], _) => none
    | (digits, cs) => some ('.' :: digits, cs)
  | cs => some ([], cs)

/-- `e` or `E`, a sign and digits, if they are there. -/
def parseExponent : List Char → Option (List Char × List Char)
  | [] => some ([], [])
  | c :: cs =>
    if c = 'e' ∨ c = 'E' then
      let (sign, cs) := match cs with
        | '+' :: cs => (['+'], cs)
        | '-' :: cs => (['-'], cs)
        | cs => ([], cs)
      match spanDigits cs with
      | ([], _) => none
      | (digits, cs) => some (c :: (sign ++ digits), cs)
    else some ([], c :: cs)

/-- The number of a lexeme: integers beyond 64 bits and `-0` are floats. -/
def classifyNumber (negative : Bool) (digits rest : List Char) : JsonNumber :=
  let lexeme := (if negative then ['-'] else []) ++ digits ++ rest
  if rest ≠ [] then .float lexeme
  else if negative then
    if 0 < ofDigits digits ∧ ofDigits digits ≤ 2 ^ 63 then .negative (ofDigits digits)
    else .float lexeme
  else if ofDigits digits < 2 ^ 64 then .unsigned (ofDigits digits)
  else .float lexeme

def parseUnsigned (negative : Bool) (cs : List Char) : Option (JsonNumber × List Char) :=
  match spanDigits cs with
  | ([], _) => none
  | (digits, cs) =>
    -- a leading zero stands alone
    if digits.head? = some '0' ∧ digits.length ≠ 1 then none
    else do
      let (fraction, cs) ← parseFraction cs
      let (exponent, cs) ← parseExponent cs
      return (classifyNumber negative digits (fraction ++ exponent), cs)

def parseNumber : List Char → Option (JsonNumber × List Char)
  | '-' :: cs => parseUnsigned true cs
  | cs => parseUnsigned false cs

/-- The rest of a literal name. -/
def parseLiteral (word : List Char) (v : Json) (cs : List Char) : Option (Json × List Char) :=
  if word.isPrefixOf cs then some (v, cs.drop word.length) else none

mutual

/-- One value; `depth` arrays and objects may be open at a time, less one. -/
def parseValue : (fuel depth : Nat) → List Char → Option (Json × List Char)
  | 0, _, _ => none
  | fuel + 1, depth, cs =>
    match skipWhitespace cs with
    | [] => none
    | c :: cs =>
      if c = '"' then do
        let (s, cs) ← parseString cs
        return (.string s, cs)
      else if c = '[' then
        if depth ≤ 1 then none
        else do
          let (items, cs) ← parseItems fuel (depth - 1) cs
          return (.array items, cs)
      else if c = '\x7b' then
        if depth ≤ 1 then none
        else do
          let (members, cs) ← parseMembers fuel (depth - 1) cs
          return (.object members, cs)
      else if c = 'n' then parseLiteral ['u', 'l', 'l'] .null cs
      else if c = 't' then parseLiteral ['r', 'u', 'e'] (.bool true) cs
      else if c = 'f' then parseLiteral ['a', 'l', 's', 'e'] (.bool false) cs
      else do
        let (n, cs) ← parseNumber (c :: cs)
        return (.number n, cs)

/-- After `[`. -/
def parseItems : (fuel depth : Nat) → List Char → Option (List Json × List Char)
  | 0, _, _ => none
  | fuel + 1, depth, cs =>
    match skipWhitespace cs with
    | ']' :: cs => some ([], cs)
    | cs => do
      let (v, cs) ← parseValue fuel depth cs
      let (rest, cs) ← parseItemsTail fuel depth cs
      return (v :: rest, cs)

/-- After an item. -/
def parseItemsTail : (fuel depth : Nat) → List Char → Option (List Json × List Char)
  | 0, _, _ => none
  | fuel + 1, depth, cs =>
    match skipWhitespace cs with
    | ']' :: cs => some ([], cs)
    | ',' :: cs => do
      let (v, cs) ← parseValue fuel depth cs
      let (rest, cs) ← parseItemsTail fuel depth cs
      return (v :: rest, cs)
    | _ => none

/-- After an opening brace. -/
def parseMembers : (fuel depth : Nat) → List Char → Option (List (String × Json) × List Char)
  | 0, _, _ => none
  | fuel + 1, depth, cs =>
    match skipWhitespace cs with
    | [] => none
    | c :: cs =>
      if c = '\x7d' then some ([], cs)
      else if c = '"' then parseMember fuel depth cs
      else none

/-- After the opening quote of a key. -/
def parseMember : (fuel depth : Nat) → List Char → Option (List (String × Json) × List Char)
  | 0, _, _ => none
  | fuel + 1, depth, cs => do
    let (k, cs) ← parseString cs
    match skipWhitespace cs with
    | ':' :: cs => do
      let (v, cs) ← parseValue fuel depth cs
      let (rest, cs) ← parseMembersTail fuel depth cs
      return ((k, v) :: rest, cs)
    | _ => none

/-- After a member. -/
def parseMembersTail : (fuel depth : Nat) → List Char → Option (List (String × Json) × List Char)
  | 0, _, _ => none
  | fuel + 1, depth, cs =>
    match skipWhitespace cs with
    | [] => none
    | c :: cs =>
      if c = '\x7d' then some ([], cs)
      else if c = ',' then
        match skipWhitespace cs with
        | '"' :: cs => parseMember fuel depth cs
        | _ => none
      else none

end

/-- Nesting limit of the parser. -/
def recursionLimit : Nat := 128

/-- A text that holds one value and whitespace. -/
def parse (cs : List Char) : Option Json :=
  match parseValue (3 * cs.length + 3) recursionLimit cs with
  | some (v, rest) => if skipWhitespace rest = [] then some v else none
  | none => none

end Json
