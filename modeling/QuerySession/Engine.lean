import QuerySession.Dialogue

/-!
# Engines

An engine does the work of a session: it provides a processor for a database, and processors run
statements, stream their results and manage a transaction. Only the engine knows what a processor
is, so `σ` is the engine's state, `P` its names for processors and `ρ` its open results.

`Engine.orIdle` adds the idle processor, `none`, which stands in while no other is bound: it
refuses all work, has nothing to give up and nothing to report.
-/

namespace QuerySession

/-- What a processor says about a statement that it started. -/
structure StatementInfo where
  columns : List String
  /-- The number of the statement within its transaction. -/
  statement : Int64
  /-- The time until the first row was there. -/
  firstRow : Duration := ⟨0⟩
  deriving DecidableEq, Repr

/-- How a batch ended. -/
structure BatchEnd where
  /-- Rows are left. -/
  hasMore : Bool := false
  /-- The bookmark of the statement's own transaction, once it is committed. -/
  bookmark : Option String := none
  deriving DecidableEq, Repr, Inhabited

/-- What a session can ask for. A call may fail, and may change the engine's state even then. -/
structure Engine (σ P ρ : Type) where
  /-- Opens a processor for a database. -/
  provide : String → EStateM Fault σ P
  /-- The database of a processor. -/
  database? : P → σ → Option String
  /-- A transaction is open. -/
  inTransaction : P → σ → Bool
  /-- Some statement has rows left. -/
  isStreaming : P → σ → Bool
  /-- Opens a transaction. -/
  begin : P → TransactionOptions → EStateM Fault σ Unit
  /-- Starts a statement. The options are those of a transaction of its own, if it needs one. -/
  run : P → String → Dictionary Value → Option TransactionOptions → EStateM Fault σ StatementInfo
  /-- Shows a sink the result of a statement, the latest one if its number is negative. -/
  stream : P → Int64 → BatchMode → Int64 → σ → Dialogue ρ (EStateM.Result Fault σ BatchEnd)
  /-- Commits the transaction and returns its bookmark. -/
  commit : P → EStateM Fault σ String
  /-- Rolls the transaction back. -/
  rollback : P → EStateM Fault σ Unit
  /-- Gives up every statement and transaction. -/
  reset : P → EStateM Fault σ Unit
  /-- Asks the transaction to stop soon. -/
  abort : P → σ → σ
  /-- Says why the transaction was torn down, if it was. -/
  validate : P → σ → Option Status × σ

namespace Engine

variable {σ P ρ : Type}

/-- The same engine with the idle processor added. -/
def orIdle (E : Engine σ P ρ) : Engine σ (Option P) ρ where
  provide database := some <$> E.provide database
  database?
    | some p, s => E.database? p s
    | none, _ => none
  inTransaction
    | some p, s => E.inTransaction p s
    | none, _ => false
  isStreaming
    | some p, s => E.isStreaming p s
    | none, _ => false
  begin
    | some p, options => E.begin p options
    | none, _ => throw .noProcessor
  run
    | some p, query, parameters, options => E.run p query parameters options
    | none, _, _, _ => throw .noProcessor
  stream
    | some p, statement, mode, size, s => E.stream p statement mode size s
    | none, _, _, _, s => .done (.error .noProcessor s)
  commit
    | some p => E.commit p
    | none => throw .noProcessor
  rollback
    | some p => E.rollback p
    | none => throw .noProcessor
  reset
    | some p => E.reset p
    | none => pure ()
  abort
    | some p, s => E.abort p s
    | none, s => s
  validate
    | some p, s => E.validate p s
    | none, s => (none, s)

end Engine
end QuerySession
