import QuerySession.Fault

/-!
# Signals

The part of a connection that others may touch while it works: the number of interrupts that no
RESET has answered yet, the wish to end, and the end. Neither flag is ever taken back. The counter
has no largest value here; one that is kept in a word of 64 bits says the same as long as fewer
than 2^64 interrupts are made, and starts again from zero at the next one.
-/

namespace QuerySession

/-- What others tell a connection, and what it tells them. -/
structure Signals where
  /-- Interrupts without an answer. -/
  interrupts : Nat := 0
  /-- The connection was asked to end. -/
  terminated : Bool := false
  /-- The connection has ended. -/
  closed : Bool := false
  deriving DecidableEq, Repr, Inhabited

namespace Signals

/-- Some interrupt has no answer yet. -/
def isInterrupted (s : Signals) : Bool := 0 < s.interrupts

/-- Adds an interrupt. -/
def interrupt (s : Signals) : Signals := { s with interrupts := s.interrupts + 1 }

/-- Answers an interrupt and says how many are left. Without one the signals stay as they are. -/
def acknowledge : EStateM Fault Signals Nat := fun s =>
  match s.interrupts with
  | 0 => .error .counterUnderflow s
  | left + 1 => .ok left { s with interrupts := left }

/-- The answer to an interrupt takes back what the interrupt did. -/
theorem acknowledge_interrupt (s : Signals) : acknowledge s.interrupt = .ok s.interrupts s := rfl

/-- Asks the connection to end. -/
def terminate (s : Signals) : Signals := { s with terminated := true }

/-- Ends the connection. -/
def close (s : Signals) : Signals := { s with closed := true }

end Signals
end QuerySession
