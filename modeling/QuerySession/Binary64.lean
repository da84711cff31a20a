/-!
# Binary floating-point numbers

A 64-bit float is held as its bits, so that it can be stored and shown exactly. Numeric equality
is a comparison of bits with two exceptions: the two zeros are equal, and a NaN equals nothing.

* `Binary64.beq_comm` and `Binary64.beq_trans`: numeric equality is symmetric and transitive;
* `Binary64.beq_self`: it is reflexive exactly off the NaNs.
-/

namespace QuerySession

/-- A binary64 number, given by its IEEE-754 bits. -/
structure Binary64 where
  bits : UInt64
  deriving DecidableEq, Repr, Inhabited

namespace Binary64

/-- The bits without the sign. -/
def magnitude (x : Binary64) : UInt64 := x.bits &&& 0x7fffffffffffffff

/-- All exponent bits set and a payload left over. -/
def isNaN (x : Binary64) : Bool := 0x7ff0000000000000 < x.magnitude

/-- Zero of either sign. -/
def isZero (x : Binary64) : Bool := x.magnitude = 0

/-- Numeric equality: the zeros are equal, and a NaN equals nothing. -/
protected def beq (x y : Binary64) : Bool :=
  !x.isNaN && !y.isNaN && (decide (x = y) || x.isZero && y.isZero)

instance : BEq Binary64 := ⟨Binary64.beq⟩

theorem beq_iff {x y : Binary64} :
    (x == y) = true ↔
      x.isNaN = false ∧ y.isNaN = false ∧ (x = y ∨ x.isZero = true ∧ y.isZero = true) := by
  simp only [BEq.beq, Binary64.beq, Bool.and_eq_true, Bool.or_eq_true, Bool.not_eq_true',
    decide_eq_true_eq, and_assoc]

/-- A number equals itself unless it is a NaN. -/
@[simp] theorem beq_self (x : Binary64) : (x == x) = !x.isNaN := by
  cases h : x.isNaN
  · simpa using beq_iff.2 ⟨h, h, Or.inl rfl⟩
  · simpa [h] using mt (fun e => (beq_iff.1 e).1) (by simp [h])

theorem beq_comm (x y : Binary64) : (x == y) = (y == x) := by
  rw [Bool.eq_iff_iff, beq_iff, beq_iff]
  constructor
  · exact fun ⟨hx, hy, h⟩ => ⟨hy, hx, h.imp Eq.symm And.symm⟩
  · exact fun ⟨hy, hx, h⟩ => ⟨hx, hy, h.imp Eq.symm And.symm⟩

theorem beq_trans {x y z : Binary64} (hxy : (x == y) = true) (hyz : (y == z) = true) :
    (x == z) = true := by
  obtain ⟨hx, _, h⟩ := beq_iff.1 hxy
  obtain ⟨_, hz, h'⟩ := beq_iff.1 hyz
  refine beq_iff.2 ⟨hx, hz, ?_⟩
  rcases h with rfl | ⟨zx, zy⟩
  · exact h'
  · rcases h' with rfl | ⟨_, zz⟩
    · exact Or.inr ⟨zx, zy⟩
    · exact Or.inr ⟨zx, zz⟩

end Binary64
end QuerySession
