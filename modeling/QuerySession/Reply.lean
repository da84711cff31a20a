import QuerySession.Sink

/-!
# Replies

A reply is the sink that answers a client. It writes a record for every row that it pulls, keeps
what it is told, and writes one summary when it is told that nothing more will come: the first
failure if there was one, else that the request was ignored if it was, else success with the
metadata. A summary that cannot be written is lost without a trace.
-/

namespace QuerySession

/-- Where responses are written. A write may fail, for instance once nobody reads. -/
class ResponseWriter (O : Type) where
  write : Response → EStateM Fault O Unit

/-- A list takes every response. -/
instance : ResponseWriter (List Response) where
  write response sent := .ok () (sent ++ [response])

/-- The answer to one request while it is put together. -/
structure Reply (O : Type) where
  output : O
  metadata : Metadata := ∅
  /-- The first failure that was reported. -/
  failure : Option Failure := none
  ignored : Bool := false

namespace Reply

variable {O : Type}

/-- The summary that would be written now. -/
def summary (r : Reply O) : Response :=
  match r.failure with
  | some failure => failure.toResponse
  | none => if r.ignored then .ignored else .success r.metadata

variable [ResponseWriter O]

/-- Writes the summary and starts afresh. The metadata is kept unless the summary spent it. -/
def finish (r : Reply O) : Reply O where
  output :=
    match ResponseWriter.write r.summary r.output with
    | .ok () output => output
    | .error _ output => output
  metadata := if r.summary.isSuccess then ∅ else r.metadata

/-- Hears a report. -/
def tell : Report → Reply O → Reply O
  | .metadata key value, r => { r with metadata := r.metadata.insert key value }
  | .ignored, r => { r with ignored := true }
  | .failed failure, r => { r with failure := r.failure.or (some failure) }
  | .finished, r => r.finish

/-- Writes a record for a row that is pulled, and nothing for one that is discarded. -/
def deliver : BatchMode → Record → EStateM Fault O Unit
  | .pull, row => ResponseWriter.write (.record row)
  | .discard, _ => pure ()

/-- Takes a batch of rows. -/
def batch {ρ : Type} [RecordSource ρ] (mode : BatchMode) (size : Int64) :
    EStateM Fault (Reply O × ρ) Bool := fun (r, result) =>
  match takeRows (deliver mode) (rowBudget size result) (r.output, result) with
  | .ok () (output, rest) => .ok (RecordSource.hasMore rest) ({ r with output }, rest)
  | .error fault (output, rest) => .error fault ({ r with output }, rest)

instance : Sink (Reply O) where
  tell := tell
  batch := batch

end Reply
end QuerySession
