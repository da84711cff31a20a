import QuerySession.Options

/-!
# Requests

What a client may ask of a session. Requests arrive decoded; their optional entries are kept as
the client sent them.
-/

namespace QuerySession

/-- What becomes of the rows of a batch. -/
inductive BatchMode where
  /-- They are sent to the client. -/
  | pull
  /-- They are dropped. -/
  | discard
  deriving DecidableEq, Repr

/-- A part of an open result: how many rows, and of which statement. -/
structure Batch where
  /-- The number of rows, negative for all that are left. -/
  size : Int64 := -1
  /-- The statement, negative for the latest. -/
  statement : Int64 := -1
  deriving DecidableEq, Repr, Inhabited

/-- A statement to run. -/
structure Run where
  query : String
  parameters : Dictionary Value := ∅
  extra : Extra := ∅
  deriving BEq

namespace Run

/-- Adds one parameter. -/
def withParameter {α : Type} [ToValue α] (run : Run) (key : String) (value : α) : Run :=
  { run with parameters := run.parameters.insert key (toValue value) }

/-- Adds one optional entry. -/
def withExtra {α : Type} [ToValue α] (run : Run) (key : String) (value : α) : Run :=
  { run with extra := run.extra.add key value }

/-- Asks for a database. -/
def withDatabase (run : Run) (database : String) : Run :=
  { run with extra := run.extra.withDatabase database }

end Run

/-- A request of a client. -/
inductive Request where
  /-- Opens the session. -/
  | hello (extra : Extra)
  /-- Ends the session. -/
  | goodbye
  /-- Answers an interrupt and asks for a clean session. -/
  | reset
  /-- Starts a statement. -/
  | run (run : Run)
  /-- Takes rows of an open statement. -/
  | stream (mode : BatchMode) (batch : Batch)
  /-- Opens a transaction. -/
  | begin (extra : Extra)
  /-- Commits the open transaction. -/
  | commit
  /-- Rolls the open transaction back. -/
  | rollback

namespace Request

/-- The name of a request in messages. -/
def name : Request → String
  | hello _ => "HELLO"
  | goodbye => "GOODBYE"
  | reset => "RESET"
  | run _ => "RUN"
  | stream .pull _ => "PULL"
  | stream .discard _ => "DISCARD"
  | begin _ => "BEGIN"
  | commit => "COMMIT"
  | rollback => "ROLLBACK"

/-- Only RESET answers interrupts. -/
def isReset : Request → Bool
  | reset => true
  | _ => false

/-- A client that wants to leave may do so even while an earlier failure is unreported. -/
def isAlwaysSafe : Request → Bool
  | goodbye => true
  | _ => false

end Request
end QuerySession
