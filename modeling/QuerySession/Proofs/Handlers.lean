import QuerySession.Proofs.Run
import QuerySession.Reply

/-!
# Handlers that show what they are told

The handlers of a session are arbitrary. To say what was answered, the theorems look at handlers
that show it: a reply among handlers of another kind, or any handler together with a transcript of
what it is told.
-/

namespace QuerySession

variable {H K σ P ρ : Type}

/-! ## Handlers of two kinds -/

section
variable [Sink H] [Sink K]

/-- A batch is taken by the handler that is there. -/
def batchEither [RecordSource ρ] (mode : BatchMode) (size : Int64) :
    EStateM Fault ((H ⊕ K) × ρ) Bool
  | (.inl handler, result) =>
    match Sink.batch mode size (handler, result) with
    | .ok more (handler, rest) => .ok more (.inl handler, rest)
    | .error fault (handler, rest) => .error fault (.inl handler, rest)
  | (.inr handler, result) =>
    match Sink.batch mode size (handler, result) with
    | .ok more (handler, rest) => .ok more (.inr handler, rest)
    | .error fault (handler, rest) => .error fault (.inr handler, rest)

instance : Sink (H ⊕ K) where
  tell report := Sum.map (Sink.tell report) (Sink.tell report)
  batch := batchEither

end

/-- A handler of any kind, or a reply. -/
abbrev OrReply (H : Type) : Type := H ⊕ Reply (List Response)

/-- A reply to which nothing was said yet. -/
def OrReply.blank : OrReply H := .inr { output := [] }

/-- What the handler of a request answered, if it was a reply. -/
def Served.answered (served : Served σ P (OrReply H)) : Option (List Response) :=
  match served.handler with
  | some (.inr reply) => some reply.output
  | _ => none

/-! ## Transcripts -/

/-- A handler, and what it was told. -/
structure Transcribed (H : Type) where
  handler : H
  heard : List Report := []

namespace Transcribed

variable [Sink H]

/-- Takes a batch; the transcript is about reports alone. -/
def batch [RecordSource ρ] (mode : BatchMode) (size : Int64) :
    EStateM Fault (Transcribed H × ρ) Bool := fun (t, result) =>
  match Sink.batch mode size (t.handler, result) with
  | .ok more (handler, rest) => .ok more ({ t with handler }, rest)
  | .error fault (handler, rest) => .error fault ({ t with handler }, rest)

instance : Sink (Transcribed H) where
  tell report t := { handler := Sink.tell report t.handler, heard := t.heard ++ [report] }
  batch := batch

omit [Sink H] in
/-- What a client is sent by a reply that is told the same. -/
def sent (t : Transcribed H) : List Response :=
  (t.heard.foldl (fun reply report => Sink.tell report reply)
    ({ output := [] } : Reply (List Response))).output

end Transcribed

/-- The same input, with a transcript of what its handler is told. -/
def Input.transcribed : Input H → Input (Transcribed H)
  | .request asked handler interrupts => .request asked { handler } interrupts
  | .interrupt => .interrupt
  | .terminate => .terminate
  | .close => .close
  | .report told => .report told

/-! ## An engine -/

/-- An engine without data, whose transactions are torn down as soon as they are asked to stop.
Its state is why that happened, as long as nobody asked. -/
def Engine.frail (status : Status) : Engine (Option Status) Unit RowBuffer where
  provide _ := pure ()
  database? _ _ := none
  inTransaction _ _ := false
  isStreaming _ _ := false
  begin _ _ := pure ()
  run _ _ _ _ := pure { columns := [], statement := -1 }
  stream _ _ mode size s :=
    .batch mode size {} fun heard _ =>
      .done (match heard with
        | .ok hasMore => .ok { hasMore } s
        | .error fault => .error fault s)
  commit _ := pure ""
  rollback _ := pure ()
  reset _ := pure ()
  abort _ _ := some status
  validate _ s := (s, none)

end QuerySession
