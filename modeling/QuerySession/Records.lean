import QuerySession.Request
import QuerySession.Response

/-!
# Open results

An open result hands out its rows one after the other, front to back, and may fail at any of
them. `takeRows` is the one loop that empties a result: it takes rows until a budget is used up,
no row is left, the result fails, or a row cannot be delivered.

* `RecordSource`: what can be read like an open result; a row taken leaves fewer to take, so
  every loop over rows ends;
* `RowBuffer`: a result held in memory;
* `rowLimit`, `rowBudget`: how many rows a batch of a given size may take.
-/

namespace QuerySession

/-- An open result with finitely many rows. -/
class RecordSource (ρ : Type) where
  /-- The column names, in the order of a row's fields. -/
  columns : ρ → List String
  /-- Takes the next row, or nothing once there is none. -/
  next : EStateM Fault ρ (Option Record)
  /-- At least one more row can be taken. -/
  hasMore : ρ → Bool
  /-- A bound on the number of rows that can still be taken. -/
  rowsLeft : ρ → Nat
  /-- A row taken leaves fewer. -/
  rowsLeft_next : ∀ {result rest : ρ} {row : Record},
    next result = .ok (some row) rest → rowsLeft rest < rowsLeft result

/-! ## Batches -/

/-- The number of rows that a batch size stands for; a negative size sets no limit. -/
def rowLimit (size : Int64) : Option Nat := if size < 0 then none else some size.toInt.toNat

theorem rowLimit_eq_none_iff {size : Int64} : rowLimit size = none ↔ size < 0 := by
  simp [rowLimit]

section
variable {ρ α : Type} [RecordSource ρ]

/-- How often a batch may ask for a row. Without a limit it asks once more than there are rows,
which is when it finds none. -/
def rowBudget (size : Int64) (result : ρ) : Nat :=
  (rowLimit size).getD (RecordSource.rowsLeft result + 1)

/-- Takes rows and delivers each in turn, until the budget is used up, no row is left, the result
fails or a delivery fails. A row that could not be delivered is taken nevertheless. -/
def takeRows (deliver : Record → EStateM Fault α Unit) : Nat → EStateM Fault (α × ρ) Unit
  | 0, s => .ok () s
  | budget + 1, (out, result) =>
    match RecordSource.next result with
    | .error fault rest => .error fault (out, rest)
    | .ok none rest => .ok () (out, rest)
    | .ok (some row) rest =>
      match deliver row out with
      | .error fault out => .error fault (out, rest)
      | .ok () out => takeRows deliver budget (out, rest)

end

/-! ## Results in memory -/

/-- A result whose rows are all at hand. -/
structure RowBuffer where
  columns : List String := []
  rows : List Record := []
  deriving Inhabited

namespace RowBuffer

/-- The number of rows not yet taken. -/
def remaining (b : RowBuffer) : Nat := b.rows.length

/-- Takes the first row. -/
def next : EStateM Fault RowBuffer (Option Record) := fun b =>
  match b.rows with
  | [] => .ok none b
  | row :: rest => .ok (some row) { b with rows := rest }

theorem remaining_next {b rest : RowBuffer} {row : Record} (h : next b = .ok (some row) rest) :
    rest.remaining < b.remaining := by
  obtain ⟨names, rows⟩ := b
  cases rows with
  | nil => simp [next] at h
  | cons r rows =>
    simp only [next, EStateM.Result.ok.injEq] at h
    simp [← h.2, remaining]

instance : RecordSource RowBuffer where
  columns := columns
  next := next
  hasMore b := !b.rows.isEmpty
  rowsLeft := remaining
  rowsLeft_next := remaining_next

end RowBuffer
end QuerySession
