/-!
# String literals

Between its quotes a JSON string literal is a sequence of pieces: characters as they stand or
behind a backslash, and code units given by number. Code units need not make up a text: two of
them are one character beyond the first plane, and half of such a pair is none.

* `Json.scan` splits a literal into its pieces, `Json.text?` puts them together;
* `Json.quote` writes a text as a literal: what must be escaped is escaped in the shortest way.
-/

namespace QuerySession.Json

/-- A piece of a string literal. -/
inductive Piece where
  /-- A character. -/
  | char (c : Char)
  /-- A code unit of sixteen bits, given by number. -/
  | unit (code : Nat)
  deriving DecidableEq, Repr

/-- The value of a hexadecimal digit of either case. -/
def hexDigit? (c : Char) : Option Nat :=
  if '0' ≤ c ∧ c ≤ '9' then some (c.toNat - '0'.toNat)
  else if 'a' ≤ c ∧ c ≤ 'f' then some (c.toNat - 'a'.toNat + 10)
  else if 'A' ≤ c ∧ c ≤ 'F' then some (c.toNat - 'A'.toNat + 10)
  else none

/-- The code unit with the four given digits. -/
def codeUnit? (a b c d : Char) : Option Nat := do
  let a ← hexDigit? a
  let b ← hexDigit? b
  let c ← hexDigit? c
  let d ← hexDigit? d
  return ((a * 16 + b) * 16 + c) * 16 + d

/-- The character that a letter stands for behind a backslash. -/
def unescape? : Char → Option Char
  | '"' => some '"'
  | '\\' => some '\\'
  | '/' => some '/'
  | 'b' => some '\x08'
  | 'f' => some '\x0c'
  | 'n' => some '\n'
  | 'r' => some '\r'
  | 't' => some '\t'
  | _ => none

/-- The pieces up to the closing quote, and what follows it. A control character must be escaped,
and nothing may be escaped that has no escape. -/
def scan : List Char → Option (List Piece × List Char)
  | [] => none
  | '"' :: rest => some ([], rest)
  | '\\' :: 'u' :: a :: b :: c :: d :: rest => do
    let code ← codeUnit? a b c d
    let (pieces, rest) ← scan rest
    return (.unit code :: pieces, rest)
  | '\\' :: letter :: rest => do
    let c ← unescape? letter
    let (pieces, rest) ← scan rest
    return (.char c :: pieces, rest)
  | c :: rest =>
    if c.toNat < 0x20 ∨ c = '\\' then none
    else do
      let (pieces, rest) ← scan rest
      return (.char c :: pieces, rest)

/-- A code unit that opens a pair. -/
def isHighHalf (code : Nat) : Bool := 0xd800 ≤ code && code < 0xdc00

/-- A code unit that closes a pair. -/
def isLowHalf (code : Nat) : Bool := 0xdc00 ≤ code && code < 0xe000

/-- The characters that pieces make up. Half of a pair alone makes up none. -/
def chars? : List Piece → Option (List Char)
  | [] => some []
  | .char c :: rest => (chars? rest).map (c :: ·)
  | .unit high :: .unit low :: rest =>
    if isHighHalf high then
      if isLowHalf low then
        (chars? rest).map (.ofNat (0x10000 + (high - 0xd800) * 0x400 + (low - 0xdc00)) :: ·)
      else none
    else if isLowHalf high then none
    else (chars? (.unit low :: rest)).map (.ofNat high :: ·)
  | .unit code :: rest =>
    if isHighHalf code || isLowHalf code then none
    else (chars? rest).map (.ofNat code :: ·)

/-- The text that pieces make up. -/
def text? (pieces : List Piece) : Option String := (chars? pieces).map .ofList

/-! ## Writing -/

/-- The pieces of a text. -/
def pieces (s : String) : List Piece := s.toList.map .char

theorem chars?_map_char (cs : List Char) : chars? (cs.map .char) = some cs := by
  induction cs with
  | nil => rfl
  | cons c cs ih => simp [chars?, ih]

/-- A text is made up of its pieces. -/
@[simp] theorem text?_pieces (s : String) : text? (pieces s) = some s := by
  rw [text?, pieces, chars?_map_char, Option.map_some, String.ofList_toList]

/-- The letter that stands for a character behind a backslash, where one must. -/
def escapeLetter? : Char → Option Char
  | '"' => some '"'
  | '\\' => some '\\'
  | '\x08' => some 'b'
  | '\x0c' => some 'f'
  | '\n' => some 'n'
  | '\r' => some 'r'
  | '\t' => some 't'
  | _ => none

/-- A code unit with its number, four small hexadecimal digits. -/
def writeUnit (code : Nat) : List Char :=
  ['\\', 'u', Nat.digitChar (code / 4096 % 16), Nat.digitChar (code / 256 % 16),
    Nat.digitChar (code / 16 % 16), Nat.digitChar (code % 16)]

/-- A piece as it is written. -/
def Piece.write : Piece → List Char
  | .char c =>
    match escapeLetter? c with
    | some letter => ['\\', letter]
    | none => if c.toNat < 0x20 then writeUnit c.toNat else [c]
  | .unit code => writeUnit code

/-- Pieces between quotes. -/
def quote (ps : List Piece) : List Char := '"' :: ps.flatMap Piece.write ++ ['"']

end QuerySession.Json
