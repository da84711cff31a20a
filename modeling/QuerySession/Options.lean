import QuerySession.Duration
import QuerySession.Value

/-!
# Options of a request

Optional entries travel in a dictionary, and a client may send any entry it likes. An option is
read by its key and kind: an entry of another kind reads like a missing one, and no entry affects
another option. `Extra.options` gathers what concerns a transaction.
-/

namespace QuerySession

/-- Whether a transaction may write. -/
inductive AccessMode where
  | write
  | read
  deriving DecidableEq, Repr, Inhabited

namespace AccessMode

/-- The letter that stands for a mode. -/
def letter : AccessMode → String
  | write => "w"
  | read => "r"

/-- Reading is asked for by name or by letter, in capitals or not; all else is writing. Only the
letters of ASCII have capitals here. -/
def ofText (mode : String) : AccessMode :=
  if mode.toList.map Char.toLower ∈ [['r'], ['r', 'e', 'a', 'd']] then read else write

@[simp] theorem ofText_letter (mode : AccessMode) : ofText mode.letter = mode := by
  cases mode <;> decide

end AccessMode

/-- What a client asks of a transaction. -/
structure TransactionOptions where
  /-- Earlier transactions whose effects must be visible. -/
  bookmarks : List String := []
  /-- The time after which the transaction is terminated. -/
  timeout : Option Duration := none
  mode : AccessMode := .write
  /-- Data of the client that is kept beside the transaction. -/
  metadata : Dictionary Value := ∅
  deriving BEq, Inhabited

/-- The optional entries of a request. -/
abbrev Extra := Dictionary Value

namespace Extra

/-- The database that is asked for. -/
def database? (extra : Extra) : Option String := (extra.get? "db").bind Value.text?

/-- The bookmarks to wait for. -/
def bookmarks (extra : Extra) : List String :=
  ((extra.get? "bookmarks").bind Value.texts?).getD []

/-- The timeout in milliseconds; a negative one stands for none. -/
def timeout? (extra : Extra) : Option Duration :=
  ((extra.get? "tx_timeout").bind Value.integer?).bind fun n =>
    if n < 0 then none else some (.ofMilliseconds n.toInt.toNat)

/-- The access mode. -/
def mode (extra : Extra) : AccessMode :=
  ((extra.get? "mode").bind Value.text?).elim .write AccessMode.ofText

/-- The data to keep beside the transaction. -/
def metadata (extra : Extra) : Dictionary Value :=
  ((extra.get? "tx_metadata").bind Value.map?).getD ∅

/-- The options of the transaction. -/
def options (extra : Extra) : TransactionOptions where
  bookmarks := extra.bookmarks
  timeout := extra.timeout?
  mode := extra.mode
  metadata := extra.metadata

/-- Adds one entry. -/
def add {α : Type} [ToValue α] (extra : Extra) (key : String) (value : α) : Extra :=
  extra.insert key (toValue value)

/-- Asks for a database. -/
def withDatabase (extra : Extra) (database : String) : Extra := extra.add "db" database

/-! ## Entries of HELLO -/

/-- How the client calls itself. -/
def userAgent (extra : Extra) : String := ((extra.get? "user_agent").bind Value.text?).getD ""

/-- The authentication scheme. -/
def scheme (extra : Extra) : String := ((extra.get? "scheme").bind Value.text?).getD "none"

/-- The routing context of a client that knows about clusters. -/
def routing? (extra : Extra) : Option (Dictionary Value) :=
  (extra.get? "routing").bind Value.map?

/-- The entries of a client that only says how it calls itself. -/
def ofUserAgent (userAgent : String) : Extra := (∅ : Extra).add "user_agent" userAgent

end Extra
end QuerySession
