import QuerySession.Engine
import QuerySession.Relay
import QuerySession.Signals

/-!
# Connections

A connection holds together what a session works with: the relay to whoever hears its answers,
the processor bound to it, the signals from outside, and the state of the engine.

A transaction may be torn down behind the client's back. When the connection finds that out it
drops the processor and keeps a *notice*, which the next access to the binding raises, once.
While a notice is pending the bound processor is left alone.
-/

namespace QuerySession

/-- The working parts of a session. -/
structure Connection (σ P H : Type) where
  relay : Relay H := {}
  /-- The bound processor; the idle one is bound while there is none. -/
  bound : Option P := none
  /-- Why an earlier transaction was torn down, as long as nobody was told. -/
  notice : Option Status := none
  signals : Signals := {}
  engine : σ

/-- Something to do on a connection that may fail. What was done before a fault stays done. -/
abbrev Action (σ P H α : Type) := EStateM Fault (Connection σ P H) α

namespace Connection

variable {σ P ρ H α : Type}

/-- Requests may be worked on: the connection is open and nothing waits to be reported. -/
def canProceed (c : Connection σ P H) : Bool := !c.signals.closed && c.relay.isSettled

/-! ## The binding -/

/-- The bound processor. A pending notice is raised instead, and is gone then. -/
def access : Action σ P H (Option P) := fun c =>
  match c.notice with
  | some status => .error (.transactionTerminated status) { c with notice := none }
  | none => .ok c.bound c

theorem access_of_notice {c : Connection σ P H} {status : Status} (h : c.notice = some status) :
    access c = .error (.transactionTerminated status) { c with notice := none } := by
  simp [access, h]

theorem access_of_no_notice {c : Connection σ P H} (h : c.notice = none) :
    access c = .ok c.bound c := by
  simp [access, h]

/-- Binds another processor, or the idle one. It is an access, so a notice prevents it. -/
def engage (p : Option P) : Action σ P H Unit := do
  let _ ← access
  modify fun c => { c with bound := p }

/-- Binds the idle processor. A notice stays. -/
def dismiss (c : Connection σ P H) : Connection σ P H := { c with bound := none }

/-- Lets the engine work. -/
def onEngine (act : EStateM Fault σ α) : Action σ P H α := fun c =>
  match act c.engine with
  | .ok a engine => .ok a { c with engine }
  | .error fault engine => .error fault { c with engine }

/-- Accesses the bound processor and lets the engine work with it. -/
def call (act : Option P → EStateM Fault σ α) : Action σ P H α := do
  onEngine (act (← access))

/-- The database of the bound processor. -/
def database? (E : Engine σ P ρ) : Action σ P H (Option String) :=
  call fun p s => .ok (E.orIdle.database? p s) s

/-- The bound processor has a transaction open. -/
def inTransaction (E : Engine σ P ρ) : Action σ P H Bool :=
  call fun p s => .ok (E.orIdle.inTransaction p s) s

/-- The bound processor has a statement with rows left. -/
def isStreaming (E : Engine σ P ρ) : Action σ P H Bool :=
  call fun p s => .ok (E.orIdle.isStreaming p s) s

/-- Lets the bound processor give up its work. The idle one is bound in its place even if that
fails. -/
def giveUp (E : Engine σ P ρ) : Action σ P H Unit := fun c =>
  match call E.orIdle.reset c with
  | .ok () c => .ok () c.dismiss
  | .error fault c => .error fault c.dismiss

/-- Gives up all work and does not ask what came of it. -/
def release (E : Engine σ P ρ) (c : Connection σ P H) : Connection σ P H :=
  match giveUp E c with
  | .ok () c => c
  | .error _ c => c

/-! ## Transactions that are torn down -/

/-- Asks the bound processor whether its transaction is alive. If it is not, the processor is
dropped and a notice is left. -/
def validate (E : Engine σ P ρ) (c : Connection σ P H) : Connection σ P H :=
  match c.notice with
  | some _ => c
  | none =>
    match E.orIdle.validate c.bound c.engine with
    | (none, engine) => { c with engine }
    | (some status, engine) => { c with engine, bound := none, notice := some status }

/-- Asks the transaction of the bound processor to stop soon. -/
def abort (E : Engine σ P ρ) (c : Connection σ P H) : Connection σ P H :=
  match c.notice with
  | some _ => c
  | none => { c with engine := E.orIdle.abort c.bound c.engine }

/-! ## Signals -/

/-- Answers an interrupt and says how many are left. -/
def acknowledge : Action σ P H Nat := fun c =>
  match c.signals.acknowledge with
  | .ok left signals => .ok left { c with signals }
  | .error fault signals => .error fault { c with signals }

/-- Marks the connection as ended. -/
def markClosed (c : Connection σ P H) : Connection σ P H := { c with signals := c.signals.close }

/-! ## Answering -/

/-- Forgets what was reported to nobody. -/
def forget (c : Connection σ P H) : Connection σ P H := { c with relay := c.relay.forget }

section
variable [Sink H]

/-- Reports something to the relay. -/
def tell (report : Report) (c : Connection σ P H) : Connection σ P H :=
  { c with relay := c.relay.tell report }

/-- Hands a result to the relay. -/
def batch [RecordSource ρ] (mode : BatchMode) (size : Int64) :
    EStateM Fault (Connection σ P H × ρ) Bool := fun (c, result) =>
  match Relay.batch mode size (c.relay, result) with
  | .ok more (relay, rest) => .ok more ({ c with relay }, rest)
  | .error fault (relay, rest) => .error fault ({ c with relay }, rest)

instance : Sink (Connection σ P H) where
  tell := tell
  batch := batch

/-- Lets the bound processor show a result to the relay. -/
def stream [RecordSource ρ] (E : Engine σ P ρ) (statement : Int64) (mode : BatchMode)
    (size : Int64) : Action σ P H BatchEnd := do
  let p ← access
  fun c =>
    match (E.orIdle.stream p statement mode size c.engine).play c.relay with
    | (.ok outcome engine, relay) => .ok outcome { c with engine, relay }
    | (.error fault engine, relay) => .error fault { c with engine, relay }

end

end Connection
end QuerySession
