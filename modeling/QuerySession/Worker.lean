import QuerySession.Reply
import QuerySession.Session

/-!
# Workers

A worker drains a queue of requests through a session and writes the answers to an outlet. It
stops at a request that ends the session, or once nobody can send any more; then it closes the
session. Requests behind that point are lost. Whoever reads the outlet keeps up with the worker, so
the length of the queue of responses never holds a worker back and plays no part here.

* `Worker.serveAll`: the loop, over a given queue;
* `Worker.enqueue`, `Worker.advance`, `Worker.finish`: a worker that is fed step by step.
-/

namespace QuerySession

/-- The answers to a request on their way out. None gets through once nobody reads. -/
structure Outlet where
  connected : Bool := true
  sent : List Response := []

instance : ResponseWriter Outlet where
  write response outlet :=
    if outlet.connected then .ok () { outlet with sent := outlet.sent ++ [response] }
    else .error .connectionClosed outlet

/-- What became of a request that was sent to a worker. -/
inductive Delivery where
  | queued
  /-- The queue has no room. -/
  | full
  deriving DecidableEq, Repr

/-- The session of a worker. -/
abbrev WorkerSession (σ P : Type) := Session σ P (Reply Outlet)

/-- A session, its queue and what it answered. -/
structure Worker (σ P : Type) where
  session : WorkerSession σ P
  /-- How many requests may wait. -/
  capacity : Nat
  queue : List Request := []
  /-- Somebody reads the answers. -/
  connected : Bool := true
  /-- The answers so far. -/
  answers : List Response := []
  /-- The worker serves no more requests. -/
  stopped : Bool := false

namespace Worker

variable {σ P ρ : Type}

/-- A worker for a session. At least one request may wait. -/
def new (session : WorkerSession σ P) (settings : Settings) : Worker σ P where
  session := session
  capacity := max settings.requestCapacity.toNat 1

/-- Sends a request. RESET interrupts the session at once, even if there is no room for it. A
worker that has stopped takes none. -/
def enqueue (request : Request) : EStateM Fault (Worker σ P) Delivery := fun w =>
  if w.stopped then .error .connectionClosed w
  else
    let w := if request.isReset then { w with session := w.session.interrupt } else w
    if w.queue.length < w.capacity then .ok .queued { w with queue := w.queue ++ [request] }
    else .ok .full w

section
variable [RecordSource ρ]

/-- Serves one request with a reply of its own, and gives what it was answered. -/
def serveOne (E : Engine σ P ρ) (connected : Bool) (request : Request) (s : WorkerSession σ P) :
    Except Fault Unit × WorkerSession σ P × List Response :=
  let served := s.serve E request { output := { connected } }
  (served.outcome, served.session, served.handler.elim [] fun reply => reply.output.sent)

/-- Serves requests in turn, up to one that ends the session. Says whether one did. -/
def serveAll (E : Engine σ P ρ) (connected : Bool) :
    List Request → WorkerSession σ P → Bool × WorkerSession σ P × List Response
  | [], s => (false, s, [])
  | request :: rest, s =>
    match serveOne E connected request s with
    | (.error _, s, answers) => (true, s, answers)
    | (.ok (), s, answers) =>
      if s.isClosed then (true, s, answers)
      else
        let (ended, s, more) := serveAll E connected rest s
        (ended, s, answers ++ more)

/-- Closes the session for good. -/
def stop (E : Engine σ P ρ) (w : Worker σ P) : Worker σ P :=
  { w with session := w.session.close E, queue := [], stopped := true }

/-- Serves what waits in the queue, and stops if the session ended. -/
def advance (E : Engine σ P ρ) (w : Worker σ P) : Worker σ P :=
  if w.stopped then w
  else
    let (ended, session, answers) := serveAll E w.connected w.queue w.session
    let w := { w with session, answers := w.answers ++ answers, queue := [] }
    if ended then w.stop E else w

/-- Serves what waits in the queue and stops. -/
def finish (E : Engine σ P ρ) (w : Worker σ P) : Worker σ P :=
  let w := w.advance E
  if w.stopped then w else w.stop E

end

end Worker
end QuerySession
