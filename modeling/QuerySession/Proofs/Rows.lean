import QuerySession.Proofs.Agreement

/-!
# The rows that a client is sent

A reply refuses no row. So what a processor hears of it, and what the client is sent, is settled by
the results that are offered, whatever the reply was told before.

* `haul`, `Reply.batch_eq`: what a batch takes off a result, and that a reply does so;
* `Dialogue.outcome`, `Dialogue.pulled`: how a dialogue with a reply ends, and the rows that the
  client is sent in it;
* `Dialogue.play_relay`: a relay changes nothing about this;
* `Phase.wp_answer_notes`: what an answer of the table leaves of the reply.
-/

namespace QuerySession

variable {σ P ρ H α β : Type}

/-! ## Batches -/

/-- What a batch took off a result. -/
structure Haul (ρ : Type) where
  rows : List Record := []
  /-- The result without these rows. -/
  rest : ρ
  /-- The fault at which reading stopped, if one did. -/
  outcome : Except Fault Unit := .ok ()

/-- Takes rows off a result, each of which is delivered. -/
def haul [RecordSource ρ] : Nat → ρ → Haul ρ
  | 0, result => { rest := result }
  | budget + 1, result =>
    match RecordSource.next result with
    | .error fault rest => { rest, outcome := .error fault }
    | .ok none rest => { rest }
    | .ok (some row) rest =>
      let taken := haul budget rest
      { taken with rows := row :: taken.rows }

/-- What is heard of a batch: rows are left, or a fault. -/
def Haul.heard [RecordSource ρ] (taken : Haul ρ) : Except Fault Bool :=
  taken.outcome.map fun _ => RecordSource.hasMore taken.rest

/-- The rows of a batch that the client is sent. -/
def BatchMode.sent : BatchMode → List Record → List Record
  | .pull, rows => rows
  | .discard, _ => []

lemma BatchMode.sent_cons (mode : BatchMode) (row : Record) (rows : List Record) :
    mode.sent (row :: rows) = mode.sent [row] ++ mode.sent rows := by
  cases mode <;> rfl

/-- Some outcome, and the state that goes with it. -/
def resultOf {s : Type} : Except Fault α → s → EStateM.Result Fault s α
  | .ok a, s => .ok a s
  | .error fault, s => .error fault s

lemma finalState_resultOf {s : Type} (outcome : Except Fault α) (state : s) :
    finalState (resultOf outcome state) = state := by
  cases outcome <;> rfl

/-- With a budget, the rows of a buffer are taken front to back. -/
lemma haul_buffer (budget : Nat) (b : RowBuffer) :
    haul budget b =
      { rows := b.rows.take budget, rest := { b with rows := b.rows.drop budget } } := by
  obtain ⟨columns, rows⟩ := b
  induction budget generalizing rows with
  | zero => rfl
  | succ budget ih =>
    cases rows with
    | nil => rfl
    | cons row rows =>
      have hnext : haul (budget + 1) (⟨columns, row :: rows⟩ : RowBuffer) =
          { haul budget (⟨columns, rows⟩ : RowBuffer) with
            rows := row :: (haul budget (⟨columns, rows⟩ : RowBuffer)).rows } := rfl
      rw [hnext, ih]
      rfl

namespace Reply

/-- The reply once some rows were written. -/
def withRecords (reply : Reply (List Response)) (rows : List Record) : Reply (List Response) :=
  { reply with output := reply.output ++ rows.map .record }

variable [RecordSource ρ]

/-- A reply takes rows until its budget is used up or the result is, and writes those it is to
send. -/
lemma takeRows_deliver (mode : BatchMode) (budget : Nat) (output : List Response) (result : ρ) :
    takeRows (deliver mode) budget (output, result) =
      resultOf (haul budget result).outcome
        (output ++ (mode.sent (haul budget result).rows).map .record,
          (haul budget result).rest) := by
  -- the output is general here, as every row that is sent extends what the rest starts from
  induction budget generalizing output result with
  | zero =>
    have hnothing : (mode.sent []).map Response.record = [] := by cases mode <;> rfl
    show EStateM.Result.ok () (output, result) =
      .ok () (output ++ (mode.sent []).map .record, result)
    rw [hnothing, List.append_nil]
  | succ budget ih =>
    have hnothing : (mode.sent []).map Response.record = [] := by cases mode <;> rfl
    unfold takeRows haul
    cases hnext : RecordSource.next result with
    | error fault rest =>
      dsimp only [resultOf]
      rw [hnothing, List.append_nil]
    | ok row? rest =>
      cases row? with
      | none =>
        dsimp only [resultOf]
        rw [hnothing, List.append_nil]
      | some row =>
        have hdeliver : deliver mode row output =
            .ok () (output ++ (mode.sent [row]).map .record) := by
          cases mode with
          | pull => rfl
          | discard => exact congrArg (EStateM.Result.ok ()) (List.append_nil _).symm
        dsimp only
        rw [hdeliver, BatchMode.sent_cons mode row (haul budget rest).rows, List.map_append,
          ← List.append_assoc]
        exact ih _ _

/-- A batch of a reply. Nothing that it was told before has a part in it. -/
theorem batch_eq (mode : BatchMode) (size : Int64) (reply : Reply (List Response)) (result : ρ) :
    Reply.batch mode size (reply, result) =
      resultOf (haul (rowBudget size result) result).heard
        (reply.withRecords (mode.sent (haul (rowBudget size result) result).rows),
          (haul (rowBudget size result) result).rest) := by
  unfold Reply.batch
  dsimp only
  rw [takeRows_deliver]
  unfold Haul.heard
  cases (haul (rowBudget size result) result).outcome <;> rfl

end Reply

/-! ## Dialogues -/

namespace Dialogue

variable [RecordSource ρ]

/-- How a dialogue with a reply ends. -/
def outcome : Dialogue ρ α → α
  | done answer => answer
  | tell _ rest => rest.outcome
  | batch _ size result rest =>
    let taken := haul (rowBudget size result) result
    (rest taken.heard taken.rest).outcome

/-- The rows that the client is sent in a dialogue with a reply. -/
def pulled : Dialogue ρ α → List Record
  | done _ => []
  | tell _ rest => rest.pulled
  | batch mode size result rest =>
    let taken := haul (rowBudget size result) result
    mode.sent taken.rows ++ (rest taken.heard taken.rest).pulled

/-- The ways in which a processor asks a reply to take rows. -/
def asked : Dialogue ρ α → List BatchMode
  | done _ => []
  | tell _ rest => rest.asked
  | batch mode size result rest =>
    let taken := haul (rowBudget size result) result
    mode :: (rest taken.heard taken.rest).asked

/-- Whoever lets rows be dropped only does not send any. -/
lemma pulled_of_asked {d : Dialogue ρ α} (h : .pull ∉ d.asked) : d.pulled = [] := by
  induction d with
  | done answer => rfl
  | tell report rest ih => exact ih h
  | batch mode size result rest ih =>
    rw [asked, List.mem_cons, not_or] at h
    cases mode with
    | pull => exact absurd rfl h.1
    | discard => exact ih _ _ h.2

/-- A batch in a dialogue with a reply. -/
lemma play_batch (mode : BatchMode) (size : Int64) (result : ρ)
    (rest : Except Fault Bool → ρ → Dialogue ρ α) (reply : Reply (List Response)) :
    (batch mode size result rest).play reply =
      (rest (haul (rowBudget size result) result).heard
        (haul (rowBudget size result) result).rest).play
        (reply.withRecords (mode.sent (haul (rowBudget size result) result).rows)) := by
  have hbatch : (Sink.batch mode size (reply, result) :
      EStateM.Result Fault (Reply (List Response) × ρ) Bool) = _ :=
    Reply.batch_eq mode size reply result
  rw [play, hbatch]
  cases (haul (rowBudget size result) result).heard <;> rfl

/-- What is said after a batch in a dialogue with a reply. -/
lemma said_batch (mode : BatchMode) (size : Int64) (result : ρ)
    (rest : Except Fault Bool → ρ → Dialogue ρ α) (reply : Reply (List Response)) :
    (batch mode size result rest).said reply =
      (rest (haul (rowBudget size result) result).heard
        (haul (rowBudget size result) result).rest).said
        (reply.withRecords (mode.sent (haul (rowBudget size result) result).rows)) := by
  have hbatch : (Sink.batch mode size (reply, result) :
      EStateM.Result Fault (Reply (List Response) × ρ) Bool) = _ :=
    Reply.batch_eq mode size reply result
  rw [said, hbatch]
  cases (haul (rowBudget size result) result).heard <;> rfl

/-- A dialogue with a reply ends in the same way, whatever the reply was told before. -/
theorem answer_play (d : Dialogue ρ α) (reply : Reply (List Response)) :
    (d.play reply).1 = d.outcome := by
  induction d generalizing reply with
  | done answer => rfl
  | tell report rest ih => exact ih _
  | batch mode size result rest ih =>
    rw [play_batch]
    exact ih _ _ _

/-- The client is sent the rows that are pulled, unless the reply is ended before its time. -/
theorem output_play {d : Dialogue ρ α} {reply : Reply (List Response)}
    (hfinish : .finished ∉ d.said reply) :
    (d.play reply).2.output = (reply.withRecords d.pulled).output := by
  induction d generalizing reply with
  | done answer => exact (List.append_nil _).symm
  | tell report rest ih =>
    have hsaid : (tell report rest).said reply = report :: rest.said (reply.tell report) := rfl
    rw [hsaid, List.mem_cons, not_or] at hfinish
    have hwritten : (reply.tell report).output = reply.output := by
      cases report with
      | finished => exact absurd rfl hfinish.1
      | _ => rfl
    have hrest := ih hfinish.2
    unfold Reply.withRecords at hrest ⊢
    rwa [hwritten] at hrest
  | batch mode size result rest ih =>
    rw [said_batch] at hfinish
    rw [play_batch, ih _ _ hfinish]
    unfold Reply.withRecords
    rw [pulled, List.map_append, List.append_assoc]

/-- A reply hears of no failure that is not reported. -/
theorem failure_play {d : Dialogue ρ α} {reply : Reply (List Response)}
    (hfailed : ∀ failure, .failed failure ∉ d.said reply) (h : reply.failure = none) :
    (d.play reply).2.failure = none := by
  induction d generalizing reply with
  | done answer => exact h
  | tell report rest ih =>
    have hsaid : (tell report rest).said reply = report :: rest.said (reply.tell report) := rfl
    rw [hsaid] at hfailed
    refine ih (fun failure hmem => hfailed failure (List.mem_cons_of_mem _ hmem)) ?_
    cases report with
    | failed failure => exact absurd List.mem_cons_self (hfailed failure)
    | finished => rfl
    | _ => exact h
  | batch mode size result rest ih =>
    rw [said_batch] at hfailed
    rw [play_batch]
    exact ih _ _ hfailed h

/-! ### Relays -/

variable [Sink H]

/-- A batch in a dialogue with a relay to a reply. -/
lemma batch_relay (mode : BatchMode) (size : Int64) (result : ρ) (reply : Reply (List Response))
    (waiting : Option Failure) (skipped : Bool) :
    (Sink.batch mode size
      (({ handler := some (.inr reply), failure := waiting, ignored := skipped } :
        Relay (OrReply H)), result) : EStateM.Result Fault (Relay (OrReply H) × ρ) Bool) =
      resultOf (haul (rowBudget size result) result).heard
        ({ handler := some (.inr
             (reply.withRecords (mode.sent (haul (rowBudget size result) result).rows)))
           failure := waiting, ignored := skipped },
          (haul (rowBudget size result) result).rest) := by
  have hbatch : (Sink.batch mode size (reply, result) :
      EStateM.Result Fault (Reply (List Response) × ρ) Bool) = _ :=
    Reply.batch_eq mode size reply result
  have hsum : (Sink.batch mode size ((.inr reply : OrReply H), result) :
      EStateM.Result Fault (OrReply H × ρ) Bool) = batchEither mode size (.inr reply, result) := rfl
  have hrelay : (Sink.batch mode size
      (({ handler := some (.inr reply), failure := waiting, ignored := skipped } :
        Relay (OrReply H)), result) : EStateM.Result Fault (Relay (OrReply H) × ρ) Bool) =
      Relay.batch mode size (_, result) := rfl
  unfold batchEither at hsum
  dsimp only at hsum
  rw [hrelay]
  unfold Relay.batch
  dsimp only
  rw [hsum, hbatch]
  cases (haul (rowBudget size result) result).heard <;> rfl

/-- A relay passes everything on to the reply, and keeps nothing. -/
theorem play_relay (d : Dialogue ρ α) (reply : Reply (List Response)) (waiting : Option Failure)
    (skipped : Bool) :
    d.play ({ handler := some (.inr reply), failure := waiting, ignored := skipped } :
        Relay (OrReply H)) =
      ((d.play reply).1,
        { handler := some (.inr (d.play reply).2), failure := waiting, ignored := skipped }) := by
  induction d generalizing reply with
  | done answer => rfl
  | tell report rest ih => exact ih _
  | batch mode size result rest ih =>
    rw [play, batch_relay, play_batch]
    cases hheard : (haul (rowBudget size result) result).heard with
    | ok more => exact ih _ _ _
    | error fault => exact ih _ _ _

/-- To a relay a processor says what it would say to the reply. -/
theorem said_relay (d : Dialogue ρ α) (reply : Reply (List Response)) (waiting : Option Failure)
    (skipped : Bool) :
    d.said ({ handler := some (.inr reply), failure := waiting, ignored := skipped } :
        Relay (OrReply H)) = d.said reply := by
  induction d generalizing reply with
  | done answer => rfl
  | tell report rest ih => exact congrArg (report :: ·) (ih _)
  | batch mode size result rest ih =>
    rw [said, batch_relay, said_batch]
    cases hheard : (haul (rowBudget size result) result).heard with
    | ok more => exact ih _ _ _
    | error fault => exact ih _ _ _

end Dialogue

/-! ## Answers of the table -/

section
variable [Sink H] {E : Engine σ P ρ}

/-- The dialogue that a request holds with its reply. -/
def Phase.dialogue? (E : Engine σ P ρ) (phase : Phase) (request : Request)
    (c : Connection σ P H) : Option (Dialogue ρ (EStateM.Result Fault σ BatchEnd)) :=
  match request, c.notice, c.bound with
  | .stream mode batch, none, some p =>
    (phase.streamed? batch).map fun number => E.stream p number mode batch.size c.engine
  | _, _, _ => none

section
omit [Sink H]
variable {phase : Phase} {mode : BatchMode} {batch : Batch} {c : Connection σ P H}

lemma Phase.dialogue?_of_bound {number : Int64} {p : P} (hnotice : c.notice = none)
    (hbound : c.bound = some p) (hnumber : phase.streamed? batch = some number) :
    phase.dialogue? E (.stream mode batch) c =
      some (E.stream p number mode batch.size c.engine) := by
  unfold dialogue?
  rw [hnotice, hbound]
  dsimp only
  rw [hnumber]
  rfl

/-- Without a processor at hand no dialogue is held. -/
lemma Phase.dialogue?_of_idle {request : Request} (h : c.notice ≠ none ∨ c.bound = none) :
    phase.dialogue? E request c = none := by
  unfold dialogue?
  split
  · rename_i hnotice hbound
    rcases h with h | h
    · exact absurd hnotice h
    · rw [hbound] at h
      cases h
  · rfl

/-- A request that takes no rows holds no dialogue. -/
lemma Phase.dialogue?_of_not_streamed {request : Request}
    (h : ∀ mode batch, request = .stream mode batch → phase.streamed? batch = none) :
    phase.dialogue? E request c = none := by
  unfold dialogue?
  split
  · rw [h _ _ rfl]
    rfl
  · rfl

end

/-- A reply once the dialogue of its request was held, if there is one. -/
def Phase.heard [RecordSource ρ] (E : Engine σ P ρ) (phase : Phase) (request : Request)
    (c : Connection σ P H) (reply : Reply (List Response)) : Reply (List Response) :=
  (phase.dialogue? E request c).elim reply fun d => (d.play reply).2

/-- The rows that the client is sent for a request. -/
def Phase.pulled [RecordSource ρ] (E : Engine σ P ρ) (phase : Phase) (request : Request)
    (c : Connection σ P H) : List Record :=
  (phase.dialogue? E request c).elim [] Dialogue.pulled

/-- What a reply has written, and the failure that it heard of. -/
def OrReply.noted? : OrReply H → Option (List Response × Option Failure)
  | .inr reply => some (reply.output, reply.failure)
  | .inl _ => none

/-- What the reply of a relay has noted, besides entries of the summary, and what the relay
keeps. -/
def Relay.noted (r : Relay (OrReply H)) :
    Option (List Response × Option Failure) × Option Failure × Bool :=
  (r.handler.bind OrReply.noted?, r.failure, r.ignored)

lemma Relay.noted_mention (r : Relay (OrReply H)) (key : String) (value : Value) :
    (r.tell (.metadata key value)).noted = r.noted := by
  obtain ⟨handler, failure, ignored⟩ := r
  rcases handler with - | (other | reply) <;> rfl

/-- The relay notes what a reply does, and keeps something only if it did so before. -/
def Relay.Notes (reply : Reply (List Response)) (settled : Prop) (r : Relay (OrReply H)) : Prop :=
  ∃ told : Reply (List Response), r.handler = some (.inr told) ∧ told.output = reply.output ∧
    told.failure = reply.failure ∧ (settled → r.failure = none ∧ r.ignored = false)

variable {settled : Prop} {reply : Reply (List Response)}

omit [Sink H] in
lemma Relay.Notes.congr {r r' : Relay (OrReply H)} (h : r.Notes reply settled)
    (hnoted : r'.noted = r.noted) : r'.Notes reply settled := by
  obtain ⟨told, hhandler, houtput, hfailure, hsettled⟩ := h
  obtain ⟨handler, failure, ignored⟩ := r
  obtain ⟨handler', failure', ignored'⟩ := r'
  obtain rfl : handler = _ := hhandler
  obtain ⟨hreply, hkept⟩ := Prod.mk.inj hnoted
  obtain ⟨rfl, rfl⟩ := Prod.mk.inj hkept
  rcases handler' with - | (other | told')
  · cases hreply
  · cases hreply
  · obtain ⟨houtput', hfailure'⟩ := Prod.mk.inj (Option.some.inj hreply)
    exact ⟨told', rfl, houtput'.trans houtput, hfailure'.trans hfailure, hsettled⟩

variable [RecordSource ρ] {waiting : Option Failure} {skipped : Bool}
  {c : Connection σ P (OrReply H)}

omit [RecordSource ρ] in
/-- RESET writes nothing, and hears of no failure. -/
lemma Phase.wp_answerReset_notes
    (hrelay : c.relay = { handler := some (.inr reply), failure := waiting, ignored := skipped }) :
    wp (answerReset E)
      (fun _ d => d.relay.Notes reply (waiting = none ∧ skipped = false))
      (fun _ d => d.relay.Notes reply (waiting = none ∧ skipped = false)) c := by
  unfold answerReset
  rw [wp_bind, wp_acknowledge]
  cases c.signals.interrupts with
  | zero => exact ⟨reply, by rw [hrelay], rfl, rfl, fun h => by rwa [hrelay]⟩
  | succ left =>
    dsimp only
    rw [wp_ite]
    split
    · rw [wp_skip]
      show (c.relay.tell .ignored).Notes reply _
      rw [hrelay]
      exact ⟨_, rfl, rfl, rfl, fun h => h⟩
    · rw [wp_bind, wp_modify, wp_bind, wp_giveUp]
      have hforgotten : c.relay.forget.Notes reply (waiting = none ∧ skipped = false) := by
        rw [hrelay]
        exact ⟨_, rfl, rfl, rfl, fun _ => ⟨rfl, rfl⟩⟩
      split
      · exact Meets.always (fun _ _ => hforgotten) (fun _ _ => hforgotten) _
      · exact hforgotten

omit [Sink H] in
/-- Without a dialogue a reply hears nothing. -/
lemma Phase.heard_of_silent {phase : Phase} {request : Request}
    (h : phase.dialogue? E request c = none) : phase.heard E request c reply = reply := by
  unfold heard
  rw [h]
  rfl

/-- A batch and plain work after it leave what the dialogue makes the reply note. -/
lemma Phase.wp_batch_notes {phase : Phase} {mode : BatchMode} {batch : Batch} {number : Int64}
    (hnumber : phase.streamed? batch = some number)
    {rest : BatchEnd → Action σ P (OrReply H) Phase}
    (hrest : ∀ outcome, Plain E (fun next => next.isUsable) (rest outcome))
    (hrelay : c.relay = { handler := some (.inr reply), failure := waiting, ignored := skipped }) :
    wp (Connection.stream E number mode batch.size >>= rest)
      (fun _ d => d.relay.Notes (phase.heard E (.stream mode batch) c reply)
        (waiting = none ∧ skipped = false))
      (fun _ d => d.relay.Notes (phase.heard E (.stream mode batch) c reply)
        (waiting = none ∧ skipped = false)) c := by
  have hplainly := PlainSteps.ofRelay E (H := OrReply H) Relay.noted Relay.noted_mention
  have hstart : c.relay.Notes reply (waiting = none ∧ skipped = false) := by
    rw [hrelay]
    exact ⟨reply, rfl, rfl, rfl, fun h => h⟩
  rw [wp_bind, wp_stream]
  cases hnotice : c.notice with
  | some status =>
    have hidle : c.notice ≠ none ∨ c.bound = none :=
      Or.inl (by rw [hnotice]; exact Option.some_ne_none _)
    rw [heard_of_silent (dialogue?_of_idle hidle)]
    exact hstart
  | none =>
    cases hbound : c.bound with
    | none =>
      rw [heard_of_silent (dialogue?_of_idle (Or.inr hbound))]
      exact hstart
    | some p =>
      have hheard : phase.heard E (.stream mode batch) c reply =
          ((E.stream p number mode batch.size c.engine).play reply).2 := by
        unfold heard
        rw [dialogue?_of_bound hnotice hbound hnumber]
        rfl
      have horIdle : E.orIdle.stream (some p) number mode batch.size c.engine =
          E.stream p number mode batch.size c.engine := rfl
      dsimp only
      rw [horIdle, hrelay, Dialogue.play_relay, hheard]
      generalize (E.stream p number mode batch.size c.engine).play reply = played
      obtain ⟨answer, told⟩ := played
      cases answer with
      | error fault engine => exact ⟨told, rfl, rfl, rfl, fun h => h⟩
      | ok outcome engine =>
        show wp (rest outcome) _ _ _
        refine wp_mono ((hrest outcome).leads hplainly _) ?_ ?_
        · intro next d hafter
          exact Relay.Notes.congr ⟨told, rfl, rfl, rfl, fun h => h⟩ hafter.2
        · intro fault d hkept
          exact Relay.Notes.congr ⟨told, rfl, rfl, rfl, fun h => h⟩ hkept

/-- A reply notes what its dialogue makes it note, and nothing else. -/
theorem Phase.wp_answer_notes (self : Identity) (phase : Phase) (request : Request)
    (hrelay : c.relay = { handler := some (.inr reply), failure := waiting, ignored := skipped }) :
    wp (phase.answer E self request)
      (fun _ d =>
        d.relay.Notes (phase.heard E request c reply) (waiting = none ∧ skipped = false))
      (fun _ d =>
        d.relay.Notes (phase.heard E request c reply) (waiting = none ∧ skipped = false)) c := by
  -- RESET, what is skipped, what takes rows, and the rest, which is plain work
  rcases answer_cases (H := OrReply H) E self phase request with
    ⟨rfl, -, -, heq⟩ | ⟨-, hphase, heq⟩ | ⟨mode, batch, number, rest, rfl, hnumber, heq, hrest⟩ |
    ⟨hunstreamed, hplain⟩
  · rw [heq, heard_of_silent rfl]
    exact wp_answerReset_notes hrelay
  · have hunstreamed : ∀ mode batch, request = .stream mode batch → phase.streamed? batch = none :=
      fun _ _ _ => by rcases hphase with rfl | rfl <;> rfl
    rw [heq, heard_of_silent (dialogue?_of_not_streamed hunstreamed), wp_skip]
    show (c.relay.tell .ignored).Notes reply _
    rw [hrelay]
    exact ⟨_, rfl, rfl, rfl, fun h => h⟩
  · rw [heq]
    exact wp_batch_notes hnumber hrest hrelay
  · have hplainly := PlainSteps.ofRelay E (H := OrReply H) Relay.noted Relay.noted_mention
    have hstart : c.relay.Notes reply (waiting = none ∧ skipped = false) := by
      rw [hrelay]
      exact ⟨reply, rfl, rfl, rfl, fun h => h⟩
    rw [heard_of_silent (dialogue?_of_not_streamed hunstreamed)]
    refine wp_mono (hplain.leads hplainly c) ?_ ?_
    · intro next d hafter
      exact hstart.congr hafter.2
    · intro fault d hkept
      exact hstart.congr hkept

end

end QuerySession
