import QuerySession.Connection
import QuerySession.Settings

/-!
# Phases

The phase of a session decides what a request may do and which phase comes next.

```text
           HELLO              RUN               last batch
connected -------> ready ------------> streaming ----------> ready
                   ready --BEGIN-----> transactionReady --COMMIT, ROLLBACK--> ready
        transactionReady --RUN-------> transactionStreaming --last batch--> transactionReady
          failed, interrupted --RESET, the last one due--> ready
```

`Phase.answer` is the whole table. It says what is done with the connection and answers with the
next phase or a fault; what a fault means for the session is not decided here.
-/

namespace QuerySession

/-- The stages of a session. -/
inductive Phase where
  /-- Waiting for HELLO. -/
  | connected
  /-- Idle. -/
  | ready
  /-- A statement outside of any transaction has rows left. -/
  | streaming
  /-- A transaction is open. -/
  | transactionReady
  /-- A transaction is open and has rows left. -/
  | transactionStreaming
  /-- A request failed; waiting for RESET. -/
  | failed
  /-- An interrupt came; waiting for RESET. -/
  | interrupted
  /-- Of no more use. -/
  | defunct
  deriving DecidableEq, Repr, Inhabited

namespace Phase

/-- The name of a phase in messages. -/
def name : Phase → String
  | connected => "CONNECTED"
  | ready => "READY"
  | streaming => "STREAMING"
  | transactionReady => "TX_READY"
  | transactionStreaming => "TX_STREAMING"
  | failed => "FAILED"
  | interrupted => "INTERRUPTED"
  | defunct => "DEFUNCT"

variable {σ P ρ H : Type} [Sink H]

/-! ## Steps that several requests share -/

/-- Reports something. -/
def report (r : Report) : Action σ P H Unit := fun c => .ok () (c.tell r)

/-- Puts an entry into the summary. -/
def mention {α : Type} [ToValue α] (key : String) (value : α) : Action σ P H Unit :=
  report (.metadata key (toValue value))

/-- Puts an entry into the summary, if there is something to say. -/
def mention? {α : Type} [ToValue α] (key : String) : Option α → Action σ P H Unit
  | some value => mention key value
  | none => pure ()

/-- The time until the first row, as clients see it: whole milliseconds, cut at the largest
number there is. -/
def clientMilliseconds (d : Duration) : Int64 :=
  if d.milliseconds ≤ Int64.maxValue.toInt.toNat then .ofNat d.milliseconds else .maxValue

/-- Tells the client about a statement that was started. -/
def describe (info : StatementInfo) : Action σ P H Unit := do
  report (.metadata "fields" (.texts info.columns))
  mention "t_first" (clientMilliseconds info.firstRow)

/-- Refuses a request in a phase that has no use for it. -/
def refuse (phase : Phase) (request : Request) : Action σ P H Phase :=
  throw (.invalidRequest request.name phase.name)

/-- Skips a request. -/
def skip (next : Phase) : Action σ P H Phase := do
  report .ignored
  return next

/-- Tells the client that rows are left, and stays. -/
def awaitMore (phase : Phase) : Action σ P H Phase := do
  mention "has_more" true
  return phase

/-- Leaves the bound processor, whose work is done. -/
def becomeIdle : Action σ P H Phase := do
  modify Connection.dismiss
  return .ready

/-- Binds a new processor for the database that is asked for. It is opened first, and lost if a
notice is pending. -/
def provideFor (E : Engine σ P ρ) (self : Identity) (extra : Extra) : Action σ P H Unit := do
  let p ← Connection.onEngine (E.orIdle.provide (extra.database?.getD self.defaultDatabase))
  Connection.engage p

/-- Runs a statement within the open transaction. -/
def runInTransaction (E : Engine σ P ρ) (run : Run) : Action σ P H Phase := do
  let info ← Connection.call fun p => E.orIdle.run p run.query run.parameters none
  describe info
  mention "qid" info.statement
  return .transactionStreaming

/-! ## The table -/

/-- HELLO is answered with what the session says about itself. Nothing else may come first. -/
def answerConnected (self : Identity) : Request → Action σ P H Phase
  | .hello _ => do
    mention "server" self.serverAgent
    mention "connection_id" self.connectionId
    return .ready
  | request => throw (.fatal ("Message " ++ request.name ++ " cannot be handled before HELLO"))

/-- RESET answers one interrupt. The last one makes a clean session: whatever was kept for a later
report is forgotten, and the processor gives up its work and is left. -/
def answerReset (E : Engine σ P ρ) : Action σ P H Phase := do
  let left ← Connection.acknowledge
  if 0 < left then
    skip .interrupted
  else
    modify Connection.forget
    Connection.giveUp E
    return .ready

/-- RUN opens a processor and runs a statement on its own; BEGIN opens one and a transaction. -/
def answerReady (E : Engine σ P ρ) (self : Identity) : Request → Action σ P H Phase
  | .run run => do
    provideFor E self run.extra
    let info ← Connection.call fun p =>
      E.orIdle.run p run.query run.parameters (some run.extra.options)
    describe info
    return .streaming
  | .begin extra => do
    provideFor E self extra
    Connection.call fun p => E.orIdle.begin p extra.options
    return .transactionReady
  | request => refuse .ready request

/-- The end of a statement without a transaction: the client hears the bookmark and the
database. -/
def endStatement (E : Engine σ P ρ) (bookmark : Option String) : Action σ P H Phase := do
  mention? "bookmark" bookmark
  mention? "db" (← Connection.database? E)
  becomeIdle

/-- The end of a statement within a transaction: others may have rows left. -/
def endTransactionStatement (E : Engine σ P ρ) : Action σ P H Phase := do
  if ← Connection.isStreaming E then
    return .transactionStreaming
  else
    return .transactionReady

/-- A batch of the only statement. -/
def answerStreaming [RecordSource ρ] (E : Engine σ P ρ) : Request → Action σ P H Phase
  | .stream mode b => do
    let outcome ← Connection.stream E (-1) mode b.size
    if outcome.hasMore then awaitMore .streaming else endStatement E outcome.bookmark
  | request => refuse .streaming request

/-- Within a transaction: another statement, or its end. -/
def answerTransactionReady (E : Engine σ P ρ) : Request → Action σ P H Phase
  | .run run => runInTransaction E run
  | .commit => do
    mention "bookmark" (← Connection.call E.orIdle.commit)
    becomeIdle
  | .rollback => do
    Connection.call E.orIdle.rollback
    becomeIdle
  | request => refuse .transactionReady request

/-- A batch of some statement of the transaction, or another statement. -/
def answerTransactionStreaming [RecordSource ρ] (E : Engine σ P ρ) : Request → Action σ P H Phase
  | .run run => runInTransaction E run
  | .stream mode b => do
    let outcome ← Connection.stream E b.statement mode b.size
    if outcome.hasMore then awaitMore .transactionStreaming else endTransactionStatement E
  | request => refuse .transactionStreaming request

/-- What a request does in a phase, and the phase after it. -/
def answer [RecordSource ρ] (E : Engine σ P ρ) (self : Identity) :
    Phase → Request → Action σ P H Phase
  | connected, request => answerConnected self request
  | defunct, _ => throw .connectionClosed
  | _, .reset => answerReset E
  | failed, _ => skip failed
  | interrupted, _ => skip interrupted
  | ready, request => answerReady E self request
  | streaming, request => answerStreaming E request
  | transactionReady, request => answerTransactionReady E request
  | transactionStreaming, request => answerTransactionStreaming E request

end Phase
end QuerySession
