import QuerySession.Engine

/-!
# Journals

A journal records what a session asks of an engine: which processors were provided, and every
call on one with what came of it. Processors are numbered as they are provided, so two of them
are told apart even where the engine gives them one name. `Engine.journaled` keeps a journal and
is otherwise the engine it is made from. Questions that change nothing leave no entry: the
database, whether a transaction is open, and whether a statement has rows left. What the last of
them would say after a batch is kept with the batch.
-/

namespace QuerySession

/-- A processor and its number among those provided. -/
structure Numbered (P : Type) where
  number : Nat
  processor : P
  deriving DecidableEq, Repr

/-- A call on a processor. -/
inductive Call where
  | begin (options : TransactionOptions)
  | run (query : String) (parameters : Dictionary Value) (options : Option TransactionOptions)
  | stream (statement : Int64) (mode : BatchMode) (size : Int64)
  | commit
  | rollback
  | reset
  | abort
  | validate

/-- What came of a call. -/
inductive CallResult where
  | done
  | failed (fault : Fault)
  /-- A batch was streamed; rows are left, and some statement of the processor has rows left. -/
  | streamed (hasMore stillOpen : Bool)
  /-- A transaction was found torn down. -/
  | terminated (status : Status)
  deriving DecidableEq, Repr

/-- An entry of a journal. -/
inductive Event (P : Type) where
  /-- A processor was asked for. -/
  | provided (database : String) (processor : Except Fault (Numbered P))
  /-- A processor was called. -/
  | called (processor : Numbered P) (call : Call) (result : CallResult)

/-- An engine's state, with what was asked of it so far. -/
structure Journal (σ P : Type) where
  state : σ
  events : List (Event P) := []
  /-- The number of processors so far. -/
  processors : Nat := 0

namespace Journal

variable {σ P α : Type}

/-- Gives a processor its number. -/
def enrol (j : Journal σ P) (processor : P) : Numbered P × Journal σ P :=
  (⟨j.processors, processor⟩, { j with processors := j.processors + 1 })

/-- Enters what came of a call. -/
def enter (j : Journal σ P) (p : Numbered P) (call : Call) (read : α → σ → CallResult) :
    EStateM.Result Fault σ α → EStateM.Result Fault (Journal σ P) α
  | .ok a s => .ok a { j with state := s, events := j.events ++ [.called p call (read a s)] }
  | .error fault s =>
    .error fault { j with state := s, events := j.events ++ [.called p call (.failed fault)] }

/-- Makes a call and enters what came of it. -/
def call (p : Numbered P) (call : Call) (act : EStateM Fault σ α) :
    EStateM Fault (Journal σ P) α := fun j => j.enter p call (fun _ _ => .done) (act j.state)

/-- Asks for a processor and numbers it. -/
def provide (database : String) (act : EStateM Fault σ P) :
    EStateM Fault (Journal σ P) (Numbered P) := fun j =>
  match act j.state with
  | .ok processor s =>
    let (p, j) := { j with state := s }.enrol processor
    .ok p { j with events := j.events ++ [.provided database (.ok p)] }
  | .error fault s =>
    .error fault { j with state := s, events := j.events ++ [.provided database (.error fault)] }

end Journal

/-- The same engine, keeping a journal. -/
def Engine.journaled {σ P ρ : Type} (E : Engine σ P ρ) : Engine (Journal σ P) (Numbered P) ρ where
  provide database := Journal.provide database (E.provide database)
  database? p j := E.database? p.processor j.state
  inTransaction p j := E.inTransaction p.processor j.state
  isStreaming p j := E.isStreaming p.processor j.state
  begin p options := Journal.call p (.begin options) (E.begin p.processor options)
  run p query parameters options :=
    Journal.call p (.run query parameters options) (E.run p.processor query parameters options)
  stream p statement mode size j :=
    (E.stream p.processor statement mode size j.state).map
      (j.enter p (.stream statement mode size) fun outcome s =>
        .streamed outcome.hasMore (E.isStreaming p.processor s))
  commit p := Journal.call p .commit (E.commit p.processor)
  rollback p := Journal.call p .rollback (E.rollback p.processor)
  reset p := Journal.call p .reset (E.reset p.processor)
  abort p j :=
    { j with
      state := E.abort p.processor j.state
      events := j.events ++ [.called p .abort .done] }
  validate p j :=
    let (status, s) := E.validate p.processor j.state
    (status,
      { j with
        state := s
        events := j.events ++ [.called p .validate (status.elim .done .terminated)] })

end QuerySession
