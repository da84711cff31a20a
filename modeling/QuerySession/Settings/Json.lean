import QuerySession.Json.Parser
import QuerySession.Settings

/-!
# Settings in JSON

Settings are written as an object with one member for each field. They are read from an object
with any of these members in any order, or from an array of the first few fields in their order;
what is not given keeps its default. Members that are no fields are skipped, but no field may be
given twice. Lengths are read as they are given, zero included.
-/

namespace QuerySession.Settings

/-- A field of the settings. -/
inductive Field where
  | connectionId
  | serverAgent
  | defaultDatabase
  | requestCapacity
  | responseCapacity
  deriving DecidableEq, Repr

namespace Field

/-- The key of a field's member. -/
def key : Field → String
  | connectionId => "connection_id"
  | serverAgent => "server_agent"
  | defaultDatabase => "default_database"
  | requestCapacity => "request_queue_size"
  | responseCapacity => "response_queue_size"

/-- The fields in their order. -/
def all : List Field :=
  [connectionId, serverAgent, defaultDatabase, requestCapacity, responseCapacity]

/-- The field of a key. -/
def ofKey? (key : String) : Option Field := all.find? (·.key == key)

@[simp] theorem ofKey?_key (field : Field) : ofKey? field.key = some field := by
  cases field <;> simp [ofKey?, all, key]

/-- What a field holds. -/
def get (s : Settings) : Field → Json
  | connectionId => .ofString s.connectionId
  | serverAgent => .ofString s.serverAgent
  | defaultDatabase => .ofString s.defaultDatabase
  | requestCapacity => .ofNat s.requestCapacity.toNat
  | responseCapacity => .ofNat s.responseCapacity.toNat

/-- A length that fits into its field. -/
def capacity? (j : Json) : Option UInt64 :=
  j.nat?.bind fun n => if n < UInt64.size then some (.ofNat n) else none

/-- Sets a field, if it can hold the value. -/
def set? (s : Settings) (field : Field) (j : Json) : Option Settings :=
  match field with
  | connectionId => j.string?.map s.withConnectionId
  | serverAgent => j.string?.map s.withServerAgent
  | defaultDatabase => j.string?.map s.withDefaultDatabase
  | requestCapacity => (capacity? j).map fun requestCapacity => { s with requestCapacity }
  | responseCapacity => (capacity? j).map fun responseCapacity => { s with responseCapacity }

/-- The member of a field. -/
def member (s : Settings) (field : Field) : List Json.Piece × Json :=
  (Json.pieces field.key, get s field)

end Field

/-- The settings as an object of all fields. -/
def toJson (s : Settings) : Json := .object (Field.all.map (Field.member s))

/-- The settings as a text. -/
def render (s : Settings) : String := s.toJson.render

/-- Reads members into settings. The fields that were read already may not come again. -/
def setMembers? : List (List Json.Piece × Json) → List Field → Settings → Option Settings
  | [], _, s => some s
  | (key, value) :: rest, seen, s => do
    match Field.ofKey? (← Json.text? key) with
    | none => setMembers? rest seen s
    | some field =>
      if field ∈ seen then none
      else setMembers? rest (field :: seen) (← Field.set? s field value)

/-- Reads values into fields, one after the other. There may be fewer values than fields. -/
def setInOrder? : List Json → List Field → Settings → Option Settings
  | [], _, s => some s
  | _ :: _, [], _ => none
  | value :: values, field :: fields, s => do setInOrder? values fields (← Field.set? s field value)

/-- The settings that a value describes. -/
def ofJson? : Json → Option Settings
  | .object members => setMembers? members [] {}
  | .array items => setInOrder? items Field.all {}
  | _ => none

/-- The settings that a text describes. -/
def parse? (text : String) : Option Settings := (Json.parse? text).bind ofJson?

end QuerySession.Settings
