import QuerySession.Records

/-!
# Result sinks

A processor does not answer the client itself. It shows its open result to a sink, which takes
rows from it, and it reports to the sink what else belongs into the answer. A sink serves one
request.
-/

namespace QuerySession

/-- What a sink is told besides rows. -/
inductive Report where
  /-- An entry for the summary. -/
  | metadata (key : String) (value : Value)
  /-- The request was skipped. -/
  | ignored
  /-- The request failed. -/
  | failed (failure : Failure)
  /-- Nothing more will come. -/
  | finished

/-- A receiver of rows and reports. -/
class Sink (H : Type) where
  /-- Hears a report. -/
  tell : Report → H → H
  /-- Takes a batch from an open result and says whether rows are left. -/
  batch : {ρ : Type} → [RecordSource ρ] → BatchMode → Int64 → EStateM Fault (H × ρ) Bool

end QuerySession
