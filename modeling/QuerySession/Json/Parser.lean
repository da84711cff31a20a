import QuerySession.Json.Basic

/-!
# Reading JSON

`Json.parse?` reads a text that holds one JSON value and nothing else but blanks. It follows the
grammar to the letter: no comma at the end, no zero in front of other digits, no control
character in a string. Values may be nested to any depth and numbers may have any size.

Every value takes at least one character, so the length of the text bounds how deep the reader
has to go.
-/

namespace QuerySession.Json

/-- The blanks between tokens. -/
def isBlank (c : Char) : Bool := c = ' ' || c = '\n' || c = '\t' || c = '\r'

/-- Drops the blanks in front. -/
def skipBlanks (s : List Char) : List Char := s.dropWhile isBlank

/-- The digits in front, at least one, and the rest. -/
def digits? (s : List Char) : Option (List Char × List Char) :=
  if (s.takeWhile Char.isDigit).isEmpty then none
  else some (s.takeWhile Char.isDigit, s.dropWhile Char.isDigit)

/-- The digits before the point: a zero stands alone. -/
def whole? : List Char → Option (List Char × List Char)
  | '0' :: rest => some (['0'], rest)
  | s => digits? s

/-- The point and what follows it, if there is one. -/
def fraction? : List Char → Option (List Char × List Char)
  | '.' :: rest => (digits? rest).map fun (ds, rest) => ('.' :: ds, rest)
  | s => some ([], s)

/-- The digits of an exponent behind their sign. -/
def signedDigits? : List Char → Option (List Char × List Char)
  | '+' :: rest => (digits? rest).map fun (ds, rest) => ('+' :: ds, rest)
  | '-' :: rest => (digits? rest).map fun (ds, rest) => ('-' :: ds, rest)
  | s => digits? s

/-- The exponent, if there is one. -/
def exponent? : List Char → Option (List Char × List Char)
  | 'e' :: rest => (signedDigits? rest).map fun (ds, rest) => ('e' :: ds, rest)
  | 'E' :: rest => (signedDigits? rest).map fun (ds, rest) => ('E' :: ds, rest)
  | s => some ([], s)

/-- A number without its sign. -/
def magnitude? (s : List Char) : Option (List Char × List Char) := do
  let (whole, s) ← whole? s
  let (fraction, s) ← fraction? s
  let (exponent, s) ← exponent? s
  return (whole ++ fraction ++ exponent, s)

/-- A number. -/
def number? : List Char → Option (List Char × List Char)
  | '-' :: rest => (magnitude? rest).map fun (literal, rest) => ('-' :: literal, rest)
  | s => magnitude? s

/-- Things with commas between them, at least one, up to a closing character. -/
def separated {α : Type} (thing : List Char → Option (α × List Char)) (close : Char) :
    Nat → List Char → Option (List α × List Char)
  | 0, _ => none
  | fuel + 1, s => do
    let (first, s) ← thing s
    match skipBlanks s with
    | c :: s =>
      if c = close then some ([first], s)
      else if c = ',' then
        let (rest, s) ← separated thing close fuel s
        return (first :: rest, s)
      else none
    | [] => none

/-- Things with commas between them, perhaps none, up to a closing character. -/
def enclosed {α : Type} (thing : List Char → Option (α × List Char)) (close : Char) (fuel : Nat)
    (s : List Char) : Option (List α × List Char) :=
  match skipBlanks s with
  | c :: rest => if c = close then some ([], rest) else separated thing close fuel (c :: rest)
  | [] => none

/-- A member of an object: a key, a colon and a value. -/
def member? (value : List Char → Option (Json × List Char)) (s : List Char) :
    Option ((List Piece × Json) × List Char) :=
  match skipBlanks s with
  | '"' :: s => do
    let (key, s) ← scan s
    match skipBlanks s with
    | ':' :: s =>
      let (v, s) ← value s
      return ((key, v), s)
    | _ => none
  | _ => none

/-- The value in front, blanks before it skipped, and the rest. -/
def value? : Nat → List Char → Option (Json × List Char)
  | 0, _ => none
  | fuel + 1, s =>
    match skipBlanks s with
    | 'n' :: 'u' :: 'l' :: 'l' :: rest => some (null, rest)
    | 't' :: 'r' :: 'u' :: 'e' :: rest => some (bool true, rest)
    | 'f' :: 'a' :: 'l' :: 's' :: 'e' :: rest => some (bool false, rest)
    | '"' :: rest => (scan rest).map fun (ps, rest) => (string ps, rest)
    | '[' :: rest =>
      (enclosed (value? fuel) ']' fuel rest).map fun (items, rest) => (array items, rest)
    | '\x7b' :: rest =>
      (enclosed (member? (value? fuel)) '\x7d' fuel rest).map fun (members, rest) =>
        (object members, rest)
    | s => (number? s).map fun (literal, rest) => (number literal, rest)

/-- The value that a text holds, if it holds one value and nothing else. -/
def parse? (text : String) : Option Json :=
  match value? (text.length + 1) text.toList with
  | some (j, rest) => if (skipBlanks rest).isEmpty then some j else none
  | none => none

end QuerySession.Json
