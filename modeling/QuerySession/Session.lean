import QuerySession.Phase

/-!
# Sessions

A session takes requests one at a time. `Session.serve` handles one in three steps, between
which signals may arrive:

* `Session.accept` heeds the signals that came since the last request, asks after the
  transaction, and attaches the handler of the request;
* `Session.perform` answers the request by the table of its phase, unless the session is closed or
  something waits to be reported first;
* `Session.conclude` reports what waited, lets the handler finish, and detaches it.

A fault moves the session to `failed` and is reported; a fatal one closes the session as well,
and only such a fault is returned. A closed session answers nothing but the request that closed it
by a fault.
-/

namespace QuerySession

/-- A conversation with a client. -/
structure Session (σ P H : Type) where
  self : Identity
  connection : Connection σ P H
  phase : Phase := .connected

/-- A request that was handled. -/
structure Served (σ P H : Type) where
  /-- The fault that ended the session, if one did. -/
  outcome : Except Fault Unit
  /-- The handler, as the request left it. -/
  handler : Option H
  session : Session σ P H

namespace Session

variable {σ P ρ H : Type}

/-- A new session over an engine in some state. -/
def start (self : Identity) (engine : σ) : Session σ P H where
  self := self
  connection := { engine }

/-- The session has ended. -/
def isClosed (s : Session σ P H) : Bool := s.connection.signals.closed

/-- Changes the signals from outside. -/
def signal (f : Signals → Signals) (s : Session σ P H) : Session σ P H :=
  { s with connection := { s.connection with signals := f s.connection.signals } }

/-- Adds an interrupt. -/
def interrupt (s : Session σ P H) : Session σ P H := s.signal Signals.interrupt

/-- Gives up all work and ends. -/
def close (E : Engine σ P ρ) (s : Session σ P H) : Session σ P H :=
  { s with connection := (s.connection.release E).markClosed, phase := .defunct }

/-! ## Before a request -/

/-- An interrupt counts between HELLO and the end, and once. -/
def canBeInterrupted : Phase → Bool
  | .connected | .interrupted | .defunct => false
  | _ => true

/-- Closes a session that was asked to end; otherwise lets an interrupt take effect, which also
asks the transaction to stop. -/
def heedSignals (E : Engine σ P ρ) (s : Session σ P H) : Session σ P H :=
  if s.connection.signals.terminated then
    if s.isClosed then s else s.close E
  else if s.connection.signals.isInterrupted && canBeInterrupted s.phase then
    { s with connection := s.connection.abort E, phase := .interrupted }
  else s

/-- Makes ready for a request. -/
def accept (E : Engine σ P ρ) (handler : H) (s : Session σ P H) : Session σ P H :=
  let s := s.heedSignals E
  let c := if s.isClosed then s.connection else s.connection.validate E
  { s with connection := { c with relay := (c.relay.attach (some handler)).2 } }

/-! ## The request itself -/

section
variable [Sink H] [RecordSource ρ]

/-- Reports a fault. A fatal one closes the session and is returned. -/
def fail (E : Engine σ P ρ) (fault : Fault) (s : Session σ P H) :
    EStateM.Result Fault (Session σ P H) Unit :=
  let s := { s with connection := s.connection.tell (.failed (.ofFault fault)) }
  if fault.isFatal then .error fault (s.close E) else .ok () { s with phase := .failed }

/-- Answers a request by the table of the phase. GOODBYE closes the session in any phase. -/
def dispatch (E : Engine σ P ρ) (request : Request) : EStateM Fault (Session σ P H) Unit :=
  fun s =>
    match request with
    | .goodbye => .ok () (s.close E)
    | request =>
      match s.phase.answer E s.self request s.connection with
      | .ok next c => .ok () { s with connection := c, phase := next }
      | .error fault c => fail E fault { s with connection := c }

/-- Answers a request, unless the session is closed or something must be reported first. RESET and
GOODBYE do not wait for that. -/
def perform (E : Engine σ P ρ) (request : Request) : EStateM Fault (Session σ P H) Unit :=
  fun s =>
    if s.isClosed then .ok () s
    else if request.isReset || request.isAlwaysSafe || s.connection.canProceed then
      dispatch E request s
    else .ok () s

/-! ## After the request -/

/-- A failure that waited fails the session, unless an interrupt or the end came first. -/
def phaseAfterFailure : Phase → Phase
  | .interrupted => .interrupted
  | .defunct => .defunct
  | _ => .failed

/-- Reports what waited, lets the handler finish if the client is to get an answer, and detaches
it. -/
def conclude (reply : Bool) (s : Session σ P H) : Option H × Session σ P H :=
  let waiting := s.connection.relay
  let s := match waiting.failure with
    | none => s
    | some failure =>
      { s with
        connection := s.connection.tell (.failed failure)
        phase := phaseAfterFailure s.phase }
  let c := if waiting.ignored then s.connection.tell .ignored else s.connection
  let c := c.forget
  let c := if reply then c.tell .finished else c
  let (handler, relay) := c.relay.detach
  (handler, { s with connection := { c with relay } })

/-- Handles one request. -/
def serve (E : Engine σ P ρ) (request : Request) (handler : H) (s : Session σ P H) :
    Served σ P H :=
  match perform E request (s.accept E handler) with
  | .ok () s =>
    let (handler, s) := s.conclude (!s.isClosed)
    ⟨.ok (), handler, s⟩
  | .error fault s =>
    let (handler, s) := s.conclude true
    ⟨.error fault, handler, s⟩

end

end Session
end QuerySession
