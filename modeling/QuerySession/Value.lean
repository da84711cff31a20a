import QuerySession.Binary64
import QuerySession.Dictionary

/-!
# Values

Parameters, options, metadata and record fields are values: plain data, nested to any depth.

* A map holds its entries in ascending order of the keys, as a `Dictionary` gives them, so two
  maps with the same entries have one form. `Value.map?_ofDictionary` reads a map back.
* `Value.beq` compares two values of one kind part by part, floats by their numeric equality.
-/

namespace QuerySession

/-- A decoded value. The entries of a map are in ascending order of the keys. -/
inductive Value where
  | null
  | boolean (truth : Bool)
  | integer (number : Int64)
  | float (number : Binary64)
  | bytes (content : List UInt8)
  | text (content : String)
  | list (items : List Value)
  | map (entries : List (String × Value))
  | struct (tag : UInt8) (fields : List Value)
  deriving Inhabited

namespace Value

/-! ## Equality -/

mutual

/-- Equality part by part. Values of different kinds are never equal, and floats are compared as
numbers, so a value that holds a NaN differs from itself. -/
protected def beq : Value → Value → Bool
  | null, null => true
  | boolean a, boolean b => a == b
  | integer a, integer b => a == b
  | float a, float b => a == b
  | bytes a, bytes b => a == b
  | text a, text b => a == b
  | list as, list bs => beqItems as bs
  | map as, map bs => beqEntries as bs
  | struct t as, struct u bs => t == u && beqItems as bs
  | _, _ => false

/-- Equality of lists, item by item. -/
def beqItems : List Value → List Value → Bool
  | [], [] => true
  | a :: as, b :: bs => a.beq b && beqItems as bs
  | _, _ => false

/-- Equality of entry lists, key by key and value by value. -/
def beqEntries : List (String × Value) → List (String × Value) → Bool
  | [], [] => true
  | (k, a) :: as, (l, b) :: bs => k == l && a.beq b && beqEntries as bs
  | _, _ => false

end

instance : BEq Value := ⟨Value.beq⟩

instance : BEq (Dictionary Value) := ⟨fun d e => beqEntries d.entries e.entries⟩

/-! ## Building -/

/-- A map with the entries of a dictionary. -/
def ofDictionary (d : Dictionary Value) : Value := map d.entries

/-- A list of texts. -/
def texts (items : List String) : Value := list (items.map text)

/-! ## Reading one kind -/

/-- The truth value of a boolean. -/
def boolean? : Value → Option Bool
  | boolean truth => some truth
  | _ => none

/-- The number of an integer. -/
def integer? : Value → Option Int64
  | integer number => some number
  | _ => none

/-- The content of a text. -/
def text? : Value → Option String
  | text content => some content
  | _ => none

/-- The items of a list. -/
def list? : Value → Option (List Value)
  | list items => some items
  | _ => none

/-- The texts of a list. Items of another kind are skipped. -/
def texts? (v : Value) : Option (List String) := v.list?.map (·.filterMap text?)

/-- The entries of a map. -/
def map? : Value → Option (Dictionary Value)
  | map entries => some (.ofList entries)
  | _ => none

@[simp] theorem map?_ofDictionary (d : Dictionary Value) : (ofDictionary d).map? = some d :=
  congrArg some d.ofList_entries

@[simp] theorem texts?_texts (items : List String) : (texts items).texts? = some items := by
  simp [texts, texts?, list?, List.filterMap_map, Function.comp_def, text?]

end Value

/-! ## Conversions -/

/-- Data that has a form as a value. -/
class ToValue (α : Type) where
  toValue : α → Value

export ToValue (toValue)

namespace ToValue

instance : ToValue Value := ⟨id⟩
instance : ToValue Bool := ⟨Value.boolean⟩
instance : ToValue Int64 := ⟨Value.integer⟩
instance : ToValue Binary64 := ⟨Value.float⟩
instance : ToValue String := ⟨Value.text⟩
instance : ToValue (List UInt8) := ⟨Value.bytes⟩
instance : ToValue (List Value) := ⟨Value.list⟩
instance : ToValue (Dictionary Value) := ⟨Value.ofDictionary⟩

/-- A shorter integer keeps its number. -/
instance : ToValue Int32 := ⟨fun n => Value.integer n.toInt64⟩

/-- An absent datum is null. -/
instance {α : Type} [ToValue α] : ToValue (Option α) := ⟨fun x => x.elim Value.null toValue⟩

end ToValue
end QuerySession
