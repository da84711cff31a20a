import QuerySession.Sink

/-!
# Dialogues

While it streams, a processor speaks to a sink: it reports, and it offers a result to take a
batch from and hears what came of it. A dialogue is what the processor will say, as far as it
depends on what it hears; it ends with an answer. `Dialogue.play` holds it with a given sink.
A processor can learn nothing about the sink but what it hears, so a statement about all
dialogues is one about all processors.
-/

namespace QuerySession

/-- The side of a processor in its conversation with a sink. -/
inductive Dialogue (ρ α : Type) where
  /-- The conversation is over. -/
  | done (answer : α)
  /-- Reports something. -/
  | tell (report : Report) (rest : Dialogue ρ α)
  /-- Offers a result, and goes on with what the sink answered and the rows it left. -/
  | batch (mode : BatchMode) (size : Int64) (result : ρ)
      (rest : Except Fault Bool → ρ → Dialogue ρ α)

namespace Dialogue

variable {ρ α β H : Type}

/-- Holds a dialogue with a sink. -/
def play [RecordSource ρ] [Sink H] : Dialogue ρ α → H → α × H
  | done answer, sink => (answer, sink)
  | tell report rest, sink => rest.play (Sink.tell report sink)
  | batch mode size result rest, sink =>
    match Sink.batch mode size (sink, result) with
    | .ok more (sink, result) => (rest (.ok more) result).play sink
    | .error fault (sink, result) => (rest (.error fault) result).play sink

/-- Changes the answer and nothing of what is said. -/
def map (f : α → β) : Dialogue ρ α → Dialogue ρ β
  | done answer => done (f answer)
  | tell report rest => tell report (rest.map f)
  | batch mode size result rest => batch mode size result fun heard left => (rest heard left).map f

/-- A dialogue with another answer leaves every sink as it was left before. -/
theorem play_map [RecordSource ρ] [Sink H] (f : α → β) (d : Dialogue ρ α) (sink : H) :
    (d.map f).play sink = ((d.play sink).map f id) := by
  induction d generalizing sink with
  | done answer => rfl
  | tell report rest ih => exact ih _
  | batch mode size result rest ih =>
    rw [map, play, play]
    split
    · exact ih ..
    · exact ih ..

end Dialogue
end QuerySession
