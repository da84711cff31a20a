/-!
# Durations

Lengths of time, exact to the nanosecond and without an upper bound. Clients see whole
milliseconds; a fraction of one is dropped.
-/

namespace QuerySession

/-- A length of time in nanoseconds. -/
structure Duration where
  nanoseconds : Nat
  deriving DecidableEq, Repr, Inhabited

namespace Duration

/-- The duration of a count of milliseconds. -/
def ofMilliseconds (n : Nat) : Duration := ⟨n * 1000000⟩

/-- The duration of a count of seconds and a count of nanoseconds. -/
def ofSeconds (seconds nanoseconds : Nat) : Duration := ⟨seconds * 1000000000 + nanoseconds⟩

/-- The whole milliseconds in a duration. -/
def milliseconds (d : Duration) : Nat := d.nanoseconds / 1000000

@[simp] theorem milliseconds_ofMilliseconds (n : Nat) : (ofMilliseconds n).milliseconds = n :=
  Nat.mul_div_cancel n (by decide)

end Duration
end QuerySession
