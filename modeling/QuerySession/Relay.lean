import QuerySession.Sink

/-!
# Relays

Whoever answers requests speaks to a relay. While a handler is attached the relay passes
everything on to it. While none is, the relay remembers the first failure and whether anything
was ignored, for the next request to report; it drops all else and takes no rows.
-/

namespace QuerySession

/-- A sink that passes on to another one, when there is one. -/
structure Relay (H : Type) where
  handler : Option H := none
  /-- The first failure that was reported to nobody. -/
  failure : Option Failure := none
  /-- Something was ignored while nobody listened. -/
  ignored : Bool := false
  deriving Inhabited

namespace Relay

variable {H : Type}

/-- Puts another handler, or none, into the place of the present one, which is returned. What is
remembered stays, and the new handler does not hear it. -/
def attach (handler : Option H) (r : Relay H) : Option H × Relay H :=
  (r.handler, { r with handler })

/-- Removes and returns the handler. -/
def detach (r : Relay H) : Option H × Relay H := r.attach none

/-- Forgets what was reported to nobody. -/
def forget (r : Relay H) : Relay H := { r with failure := none, ignored := false }

/-- Nothing is remembered that was not reported yet. -/
def isSettled (r : Relay H) : Bool := r.failure.isNone && !r.ignored

variable [Sink H]

/-- Passes a report on, or remembers it. -/
def tell (report : Report) (r : Relay H) : Relay H :=
  match r.handler, report with
  | some handler, report => { r with handler := some (Sink.tell report handler) }
  | none, .failed failure => { r with failure := r.failure.or (some failure) }
  | none, .ignored => { r with ignored := true }
  | none, _ => r

/-- Passes a result on. Without a handler no row is taken. -/
def batch {ρ : Type} [RecordSource ρ] (mode : BatchMode) (size : Int64) :
    EStateM Fault (Relay H × ρ) Bool := fun (r, result) =>
  match r.handler with
  | none => .ok false (r, result)
  | some handler =>
    match Sink.batch mode size (handler, result) with
    | .ok more (handler, rest) => .ok more ({ r with handler := some handler }, rest)
    | .error fault (handler, rest) => .error fault ({ r with handler := some handler }, rest)

/-- Without a handler no row is taken, and the client is promised no more. -/
theorem batch_of_detached {ρ : Type} [RecordSource ρ] {r : Relay H} (h : r.handler = none)
    (mode : BatchMode) (size : Int64) (result : ρ) :
    batch mode size (r, result) = .ok false (r, result) := by
  simp [batch, h]

theorem tell_of_attached {r : Relay H} {handler : H} (h : r.handler = some handler)
    (report : Report) :
    r.tell report = { r with handler := some (Sink.tell report handler) } := by
  simp [tell, h]

instance : Sink (Relay H) where
  tell := tell
  batch := batch

end Relay
end QuerySession
