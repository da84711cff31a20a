import QuerySession.Json.Text

/-!
# JSON values

A JSON value as it is written: numbers keep their digits, and an object keeps its members in
their order, repeated ones included. What a member given twice means is for the reader to say.
-/

namespace QuerySession

/-- A JSON value. -/
inductive Json where
  | null
  | bool (truth : Bool)
  /-- A number, in the characters it is written with. -/
  | number (literal : List Char)
  | string (pieces : List Json.Piece)
  | array (items : List Json)
  | object (members : List (List Json.Piece × Json))
  deriving Inhabited

namespace Json

/-- The string with a text. -/
def ofString (s : String) : Json := string (pieces s)

/-- The text of a string, if it has one. -/
def string? : Json → Option String
  | string ps => text? ps
  | _ => none

/-- The number of a count. -/
def ofNat (n : Nat) : Json := number (Nat.toDigits 10 n)

/-- The count that is written without sign, fraction or exponent. -/
def nat? : Json → Option Nat
  | number literal =>
    if literal.all Char.isDigit then some (Nat.ofDigitChars 10 literal 0) else none
  | _ => none

@[simp] theorem nat?_ofNat (n : Nat) : (ofNat n).nat? = some n := by
  have hall : (Nat.toDigits 10 n).all Char.isDigit = true :=
    List.all_eq_true.2 fun _ h => Nat.isDigit_of_mem_toDigits (by decide) (by decide) h
  rw [ofNat, nat?, if_pos hall, Nat.ofDigitChars_toDigits (by decide) (by decide)]

@[simp] theorem string?_ofString (s : String) : (ofString s).string? = some s := text?_pieces s

/-- The name of one of several alternatives without content: a string, or the only member of an
object, whose value is null. -/
def tag? : Json → Option String
  | string ps => text? ps
  | object [(key, null)] => text? key
  | _ => none

/-! ## Writing -/

mutual

/-- A value in writing, without blanks. -/
def write : Json → List Char
  | null => "null".toList
  | bool true => "true".toList
  | bool false => "false".toList
  | number literal => literal
  | string ps => quote ps
  | array items => '[' :: writeItems items ++ [']']
  | object members => '\x7b' :: writeMembers members ++ ['\x7d']

/-- Items with commas between them. -/
def writeItems : List Json → List Char
  | [] => []
  | [item] => item.write
  | item :: rest => item.write ++ ',' :: writeItems rest

/-- Members with commas between them. -/
def writeMembers : List (List Piece × Json) → List Char
  | [] => []
  | [(key, value)] => quote key ++ ':' :: value.write
  | (key, value) :: rest => quote key ++ ':' :: value.write ++ ',' :: writeMembers rest

end

/-- A value as a text. -/
def render (j : Json) : String := .ofList j.write

end Json
end QuerySession
