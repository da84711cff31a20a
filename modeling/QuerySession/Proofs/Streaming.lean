import QuerySession.Proofs.Rows
import QuerySession.Proofs.Typestate.Run

/-!
# A result is handed out once and in order

A statement outside of any transaction leaves a result, which a client takes in as many batches as
it likes. Here the processor keeps the rows in one buffer and offers what is left of it whenever it
is asked for a batch; all else about the processor is open.

* `Take.taken`, `Take.left`: the share of a request, and what it leaves;
* `Engine.HandsOut`: the processor with its buffer;
* `Session.IsStreaming`: a session with rows left, which every batch but the last preserves;
* `Session.rows_handed_out`: the run from RUN to the last batch.
-/

namespace QuerySession

variable {σ P H : Type}

/-! ## Shares -/

/-- A request for rows of the open statement. -/
structure Take where
  mode : BatchMode
  batch : Batch := {}

namespace Take

/-- The request itself. -/
def request (t : Take) : Request := .stream t.mode t.batch

/-- The request as an input. No signal arrives meanwhile. -/
def input (t : Take) : Input (OrReply H) := .request t.request .blank 0

/-- The rows that a request takes: all if its size is negative, and else as many as its size says,
as far as there are so many. -/
def taken (t : Take) (rows : List Record) : List Record :=
  if t.batch.size < 0 then rows else rows.take t.batch.size.toInt.toNat

/-- The rows that a request leaves. -/
def left (t : Take) (rows : List Record) : List Record :=
  if t.batch.size < 0 then [] else rows.drop t.batch.size.toInt.toNat

/-- The rows that some requests leave. -/
def remaining (rows : List Record) (takes : List Take) : List Record :=
  takes.foldl (fun rows t => t.left rows) rows

/-- The rows that each of some requests takes. -/
def slices : List Record → List Take → List (List Record)
  | _, [] => []
  | rows, t :: takes => t.taken rows :: slices (t.left rows) takes

variable (t : Take) (rows : List Record)

lemma taken_append_left : t.taken rows ++ t.left rows = rows := by
  unfold taken left
  split
  · exact List.append_nil rows
  · exact List.take_append_drop _ rows

/-- What is taken and what is left make up the result. -/
lemma flatten_slices (takes : List Take) :
    (slices rows takes).flatten ++ remaining rows takes = rows := by
  induction takes generalizing rows with
  | nil => rfl
  | cons t takes ih =>
    calc (t.taken rows ++ (slices (t.left rows) takes).flatten) ++ remaining (t.left rows) takes
        = t.taken rows ++ ((slices (t.left rows) takes).flatten ++
            remaining (t.left rows) takes) := List.append_assoc ..
      _ = t.taken rows ++ t.left rows := by rw [ih]
      _ = rows := t.taken_append_left rows

/-- A batch of a buffer takes the share of the request. -/
lemma haul_rowBudget (columns : List String) :
    haul (rowBudget t.batch.size (⟨columns, rows⟩ : RowBuffer)) (⟨columns, rows⟩ : RowBuffer) =
      { rows := t.taken rows, rest := ⟨columns, t.left rows⟩ } := by
  rw [haul_buffer]
  unfold rowBudget rowLimit taken left
  split
  · -- without a limit the budget is one more than there are rows
    have hbudget : (none : Option Nat).getD
        (RecordSource.rowsLeft (⟨columns, rows⟩ : RowBuffer) + 1) = rows.length + 1 := rfl
    rw [hbudget, List.take_of_length_le (Nat.le_succ _), List.drop_of_length_le (Nat.le_succ _)]
  · rfl

end Take

/-! ## The processor -/

/-- A processor whose statement hands out the rows of one buffer. Asked for a batch, it offers the
buffer once, in the way and the size it was asked for, and answers that rows are left just if it
was told so. Its transaction is not torn down. `Holds rows` are the states in which the buffer has
these rows left. It is always asked for the latest statement: outside of a transaction the number
that a client gives plays no part. -/
structure Engine.HandsOut (E : Engine σ P RowBuffer) (p : P) (Holds : List Record → σ → Prop) :
    Prop where
  alive : ∀ {rows engine}, Holds rows engine →
    ∃ engine', E.validate p engine = (none, engine') ∧ Holds rows engine'
  offers : ∀ {rows engine} mode size, Holds rows engine →
    ∃ columns, ∃ answer : Except Fault Bool → RowBuffer → EStateM.Result Fault σ BatchEnd,
    E.stream p (-1) mode size engine =
      .batch mode size ⟨columns, rows⟩ (fun heard rest => .done (answer heard rest)) ∧
    ∀ more left, left <:+ rows → ∃ bookmark engine',
      answer (.ok more) ⟨columns, left⟩ = .ok { hasMore := more, bookmark } engine' ∧
      Holds left engine'

/-- What the client hears of a batch that leaves rows. -/
def Metadata.awaiting : Metadata := .ofList [("has_more", toValue true)]

/-- What the client hears of the last batch. -/
def Metadata.ended (bookmark database : Option String) : Metadata :=
  .ofList ((bookmark.map fun b => ("bookmark", toValue b)).toList ++
    (database.map fun d => ("db", toValue d)).toList)

section
variable [Sink H] {E : Engine σ P RowBuffer} {p : P} {Holds : List Record → σ → Prop}
  {rows : List Record} {t : Take}

/-- The answer of a processor to a request for rows, as the reply hears it. -/
lemma Engine.HandsOut.play (hhands : E.HandsOut p Holds) {engine : σ} (hholds : Holds rows engine)
    (t : Take) (reply : Reply (List Response)) :
    ∃ bookmark engine', Holds (t.left rows) engine' ∧
      (E.stream p (-1) t.mode t.batch.size engine).outcome =
        .ok { hasMore := !(t.left rows).isEmpty, bookmark } engine' ∧
      (E.stream p (-1) t.mode t.batch.size engine).play reply =
        (.ok { hasMore := !(t.left rows).isEmpty, bookmark } engine',
          reply.withRecords (t.mode.sent (t.taken rows))) := by
  obtain ⟨columns, answer, hstream, hanswer⟩ := hhands.offers t.mode t.batch.size hholds
  have hsuffix : t.left rows <:+ rows := ⟨t.taken rows, t.taken_append_left rows⟩
  obtain ⟨bookmark, engine', hend, hholds'⟩ := hanswer (!(t.left rows).isEmpty) _ hsuffix
  have hplay : (E.stream p (-1) t.mode t.batch.size engine).play reply =
      (.ok { hasMore := !(t.left rows).isEmpty, bookmark } engine',
        reply.withRecords (t.mode.sent (t.taken rows))) := by
    rw [hstream, Dialogue.play_batch, t.haul_rowBudget rows columns]
    exact Prod.ext hend rfl
  refine ⟨bookmark, engine', hholds', ?_, hplay⟩
  rw [← Dialogue.answer_play _ reply, hplay]

end

namespace Reply

variable {O : Type}

/-- The entry of a summary, if there is something to say. -/
def mention? [ResponseWriter O] (key : String) (value : Option String) (reply : Reply O) :
    Reply O :=
  value.elim reply fun value => reply.tell (.metadata key (toValue value))

/-- A reply that has sent some rows and is told the end of the statement. -/
lemma mention?_ended (rows : List Record) (bookmark database : Option String) :
    ((({ output := [] } : Reply (List Response)).withRecords rows).mention? "bookmark"
      bookmark).mention? "db" database =
      { output := rows.map .record, metadata := .ended bookmark database } := by
  cases bookmark <;> cases database <;> rfl

end Reply

/-- A connection whose reply and engine have come so far, with nothing waiting. -/
def Connection.replying (reply : Reply (List Response)) (engine : σ)
    (c : Connection σ P (OrReply H)) : Connection σ P (OrReply H) :=
  { c with relay := { handler := some (.inr reply) }, engine }

namespace Phase

variable [Sink H] {E : Engine σ P RowBuffer} {c : Connection σ P (OrReply H)}
  {reply : Reply (List Response)} {engine : σ}

lemma wp_mention? {done : Unit → Connection σ P (OrReply H) → Prop}
    {failed : Fault → Connection σ P (OrReply H) → Prop} (key : String) (value : Option String) :
    wp (mention? key value) done failed (c.replying reply engine) ↔
      done () (c.replying (reply.mention? key value) engine) := by
  cases value <;> rfl

/-- The end of a statement tells the client the bookmark and the database, and leaves the
processor. -/
lemma answer_endStatement (hnotice : c.notice = none) (bookmark : Option String) :
    endStatement E bookmark (c.replying reply engine) = .ok .ready
      (c.replying ((reply.mention? "bookmark" bookmark).mention? "db"
        (E.orIdle.database? c.bound engine)) engine).dismiss := by
  apply eq_ok_of_wp
  unfold endStatement
  rw [wp_bind, wp_mention?, wp_bind, wp_database? E (by exact hnotice), wp_bind]
  refine (wp_mention? "db" _).mpr ?_
  rw [wp_becomeIdle]
  exact ⟨rfl, rfl⟩

/-- A request for rows, where the buffer of the processor has some left. -/
lemma answer_take {p : P} {Holds : List Record → σ → Prop} (hhands : E.HandsOut p Holds)
    {rows : List Record} (self : Identity) (hnotice : c.notice = none) (hbound : c.bound = some p)
    (hrelay : c.relay = { handler := some .blank }) (hholds : Holds rows c.engine) (t : Take) :
    ∃ bookmark engine, Holds (t.left rows) engine ∧
      (E.stream p (-1) t.mode t.batch.size c.engine).outcome =
        .ok { hasMore := !(t.left rows).isEmpty, bookmark } engine ∧
      (t.left rows ≠ [] → answer E self .streaming t.request c = .ok .streaming
        (c.replying { output := (t.mode.sent (t.taken rows)).map .record, metadata := .awaiting }
          engine)) ∧
      (t.left rows = [] → answer E self .streaming t.request c = .ok .ready
        (c.replying
          { output := (t.mode.sent (t.taken rows)).map .record
            metadata := .ended bookmark (E.database? p engine) } engine).dismiss) := by
  obtain ⟨bookmark, engine, hleft, houtcome, hplay⟩ := hhands.play hholds t { output := [] }
  have horIdle : E.orIdle.stream (some p) (-1) t.mode t.batch.size c.engine =
      E.stream p (-1) t.mode t.batch.size c.engine := rfl
  have hanswer {next : Phase} {d : Connection σ P (OrReply H)}
      (h : (if !(t.left rows).isEmpty then awaitMore .streaming else endStatement E bookmark)
        (c.replying (({ output := [] } : Reply (List Response)).withRecords
          (t.mode.sent (t.taken rows))) engine) = .ok next d) :
      answer E self .streaming t.request c = .ok next d := by
    refine eq_ok_of_wp ((wp_bind _ _).mpr ((wp_stream_of_bound hnotice hbound _ _ _).mpr ?_))
    dsimp only
    rw [horIdle, hrelay, OrReply.blank, Dialogue.play_relay, hplay]
    exact (wp_of_ok h).mpr ⟨rfl, rfl⟩
  refine ⟨bookmark, engine, hleft, houtcome, fun hmore => hanswer ?_, fun hlast => hanswer ?_⟩
  · rw [List.isEmpty_eq_false_iff.mpr hmore]
    rfl
  · rw [hlast]
    refine (answer_endStatement hnotice bookmark).trans ?_
    rw [Reply.mention?_ended, hbound]
    rfl

/-- RUN binds the processor that is provided, and tells the client about the statement. -/
lemma answer_run {p : P} {self : Identity} {run : Run} {info : StatementInfo} {opened started : σ}
    (hnotice : c.notice = none)
    (hprovide : E.provide (run.extra.database?.getD self.defaultDatabase) engine = .ok p opened)
    (hrun : E.run p run.query run.parameters (some run.extra.options) opened = .ok info started) :
    answer E self .ready (.run run) (c.replying { output := [] } engine) = .ok .streaming
      ({ c with bound := some p }.replying
        { output := []
          metadata := .ofList [("fields", .texts info.columns),
            ("t_first", toValue (clientMilliseconds info.firstRow))] } started) := by
  have hopen : wp (E.orIdle.provide (run.extra.database?.getD self.defaultDatabase))
      (fun bound engine' => bound = some p ∧ engine' = opened) (fun _ _ => False) engine :=
    (wp_map _ _).mpr ((wp_of_ok hprovide).mpr ⟨rfl, rfl⟩)
  obtain ⟨relay, bound, notice, signals, unused⟩ := c
  obtain rfl : notice = none := hnotice
  apply eq_ok_of_wp
  rw [answer_of_ne _ _ _ Request.noConfusion]
  unfold answerReady provideFor
  rw [wp_bind, wp_bind, wp_onEngine]
  refine wp_mono hopen ?_ (fun _ _ h => h)
  rintro _ _ ⟨rfl, rfl⟩
  rw [wp_engage]
  refine (wp_bind _ _).mpr ((wp_call_of_bound rfl rfl _).mpr ((wp_of_ok hrun).mpr ?_))
  exact ⟨rfl, rfl⟩

end Phase

/-! ## A session with rows left -/

namespace Session

variable {E : Engine σ P RowBuffer} {p : P} {Holds : List Record → σ → Prop} {rows : List Record}
  {s : Session σ P (OrReply H)}

/-- Nothing disturbs the session: it is not to end, no interrupt waits for an answer, and nothing
waits to be reported. -/
structure IsCalm (s : Session σ P (OrReply H)) : Prop where
  opened : s.isClosed = false
  stays : s.connection.signals.terminated = false
  uninterrupted : s.connection.signals.interrupts = 0
  settled : s.connection.relay.failure = none ∧ s.connection.relay.ignored = false
  notice : s.connection.notice = none

/-- Some rows are left in the buffer of the bound processor. -/
structure IsStreaming (p : P) (Holds : List Record → σ → Prop) (rows : List Record)
    (s : Session σ P (OrReply H)) : Prop where
  calm : s.IsCalm
  phase : s.phase = .streaming
  bound : s.connection.bound = some p
  holds : Holds rows s.connection.engine

/-- A calm session only asks after the transaction before a request. -/
lemma accept_of_calm (h : s.IsCalm) {engine : σ}
    (hvalid : E.orIdle.validate s.connection.bound s.connection.engine = (none, engine)) :
    s.accept E .blank =
      { s with connection := s.connection.replying { output := [] } engine } := by
  have hvalidated : s.connection.validate E = { s.connection with engine } := by
    rw [Connection.validate_of_bound h.notice rfl, hvalid]
  rw [accept_of_undisturbed E h.opened h.stays h.uninterrupted (Relay.isSettled_iff.mpr h.settled),
    hvalidated]
  rfl

section
variable [Sink H]

/-- What a reply comes to that was told of nothing but success. -/
lemma answered_of_told (told : Reply (List Response)) (hfailure : told.failure = none)
    (hignored : told.ignored = false) (s : Session σ P (OrReply H)) :
    (⟨.ok (), some (Sink.tell .finished (.inr told)), s⟩ : Served σ P (OrReply H)).answered =
      some (told.output ++ [.success told.metadata]) := by
  obtain ⟨output, metadata, failure, ignored⟩ := told
  obtain rfl : failure = none := hfailure
  obtain rfl : ignored = false := hignored
  rfl

/-- A request that a calm session answers well. -/
lemma serve_of_calm (h : s.IsCalm) {request : Request} (hrequest : request ≠ .goodbye)
    {engine engine' : σ} {told : Reply (List Response)} {next : Phase}
    {c : Connection σ P (OrReply H)}
    (hvalid : E.orIdle.validate s.connection.bound s.connection.engine = (none, engine))
    (hanswer : s.phase.answer E s.self request (s.connection.replying { output := [] } engine) =
      .ok next (c.replying told engine'))
    (hsignals : c.signals = s.connection.signals) :
    s.serveAmid E 0 request .blank = ⟨.ok (), some (Sink.tell .finished (.inr told)),
      { s with connection := { c with relay := {}, engine := engine' }, phase := next }⟩ := by
  have hfound : s.serveAmid E 0 request .blank = settle (perform E request (s.accept E .blank)) :=
    rfl
  rw [hfound, accept_of_calm h hvalid]
  have hstill : (c.replying told engine').signals.closed = false := by
    show c.signals.closed = false
    rw [hsignals]
    exact h.opened
  refine settle_of_answer ?_ ?_ hrequest hanswer hstill rfl
  · exact h.opened
  · exact passes_of_settled request h.opened rfl

end

/-- A request for rows is answered with its share of the rows that are left, and leaves the rest. As
long as rows are left, the client is told so, and the session waits for the next request. Otherwise
the client is told the bookmark and the database, and the session is ready. -/
structure HandsOver [Sink H] (E : Engine σ P RowBuffer) (p : P) (Holds : List Record → σ → Prop)
    (rows : List Record) (t : Take) (s : Session σ P (OrReply H)) : Prop where
  outcome : (s.serveAmid E 0 t.request .blank).outcome = .ok ()
  holds : Holds (t.left rows) (s.serveAmid E 0 t.request .blank).session.connection.engine
  goesOn : t.left rows ≠ [] →
    (s.serveAmid E 0 t.request .blank).answered =
      some ((t.mode.sent (t.taken rows)).map .record ++ [.success .awaiting]) ∧
    (s.serveAmid E 0 t.request .blank).session.phase = .streaming ∧
    (s.serveAmid E 0 t.request .blank).session.connection.bound = some p
  ends : t.left rows = [] →
    (∃ bookmark engine,
      (E.stream p (-1) t.mode t.batch.size (s.found E .blank 0).connection.engine).outcome =
        .ok { hasMore := false, bookmark } engine ∧
      (s.serveAmid E 0 t.request .blank).answered =
        some ((t.mode.sent (t.taken rows)).map .record ++
          [.success (.ended bookmark (E.database? p engine))])) ∧
    (s.serveAmid E 0 t.request .blank).session.phase = .ready ∧
    (s.serveAmid E 0 t.request .blank).session.connection.bound = none

variable [Sink H]

/-- A request for rows, and the session after it. -/
lemma handsOver_of_isStreaming (hhands : E.HandsOut p Holds) (h : s.IsStreaming p Holds rows)
    (t : Take) :
    HandsOver E p Holds rows t s ∧
      (t.left rows ≠ [] → (s.receive E t.input).IsStreaming p Holds (t.left rows)) := by
  obtain ⟨engine, hvalid, hholds⟩ := hhands.alive h.holds
  have hasked : E.orIdle.validate s.connection.bound s.connection.engine = (none, engine) := by
    rw [h.bound]
    exact hvalid
  have hfound : (s.found E .blank 0).connection.engine = engine :=
    congrArg (fun s => s.connection.engine) (accept_of_calm h.calm hasked)
  have hrequest : t.request ≠ .goodbye := Request.noConfusion
  obtain ⟨bookmark, engine', hleft, houtcome, hmore, hlast⟩ :=
    Phase.answer_take hhands (c := s.connection.replying { output := [] } engine) s.self
      h.calm.notice h.bound rfl hholds t
  rw [← h.phase] at hmore hlast
  by_cases hend : t.left rows = []
  · -- the last batch leaves the processor, and nothing more is claimed of what comes later
    have hserved :=
      serve_of_calm h.calm (c := s.connection.dismiss) hrequest hasked (hlast hend) rfl
    refine ⟨⟨by rw [hserved], by rw [hserved]; exact hleft, fun hsome => absurd hend hsome,
      fun _ => ⟨⟨bookmark, engine', ?_, ?_⟩, by rw [hserved], by rw [hserved]; rfl⟩⟩,
      fun hsome => absurd hend hsome⟩
    · rw [hfound]
      rw [hend] at houtcome
      exact houtcome
    · rw [hserved]
      exact answered_of_told _ rfl rfl _
  · have hserved := serve_of_calm h.calm (c := s.connection) hrequest hasked (hmore hend) rfl
    refine ⟨⟨by rw [hserved], by rw [hserved]; exact hleft,
      fun _ => ⟨?_, by rw [hserved]; exact h.phase, by rw [hserved]; exact h.bound⟩,
      fun hnone => absurd hnone hend⟩, fun _ => ?_⟩
    · rw [hserved]
      exact answered_of_told _ rfl rfl _
    · have hreceived : s.receive E t.input = (s.serveAmid E 0 t.request .blank).session := rfl
      rw [hreceived, hserved]
      exact ⟨⟨h.calm.opened, h.calm.stays, h.calm.uninterrupted, ⟨rfl, rfl⟩, h.calm.notice⟩,
        h.phase, h.bound, hleft⟩

/-- As long as requests leave rows, the session has them left. -/
lemma isStreaming_after (hhands : E.HandsOut p Holds) (h : s.IsStreaming p Holds rows)
    {takes : List Take}
    (hleft : ∀ n, 0 < n → n ≤ takes.length → Take.remaining rows (takes.take n) ≠ []) :
    (s.after E (takes.map Take.input)).IsStreaming p Holds (Take.remaining rows takes) := by
  -- the invariant goes through the first request, and the induction is on those behind it
  induction takes generalizing s rows with
  | nil => exact h
  | cons t takes ih =>
    have hfirst : t.left rows ≠ [] := hleft 1 Nat.one_pos (Nat.succ_le_succ (Nat.zero_le _))
    refine ih ((handsOver_of_isStreaming hhands h t).2 hfirst) fun n _ hn => ?_
    exact hleft (n + 1) (Nat.succ_pos n) (Nat.succ_le_succ hn)

/-- RUN, and the session after it. -/
lemma isStreaming_of_run (h : s.IsCalm) (hready : s.phase = .ready)
    (hidle : s.connection.bound = none) {run : Run} {info : StatementInfo} {opened started : σ}
    (hprovide : E.provide (run.extra.database?.getD s.self.defaultDatabase) s.connection.engine =
      .ok p opened)
    (hrun : E.run p run.query run.parameters (some run.extra.options) opened = .ok info started)
    (hholds : Holds rows started) :
    (s.serveAmid E 0 (.run run) .blank).outcome = .ok () ∧
    (s.serveAmid E 0 (.run run) .blank).answered = some [.success (.ofList
      [("fields", .texts info.columns),
        ("t_first", toValue (Phase.clientMilliseconds info.firstRow))])] ∧
    (s.serveAmid E 0 (.run run) .blank).session.IsStreaming p Holds rows := by
  -- no processor is bound yet, so nobody is asked after the transaction
  have hasked : E.orIdle.validate s.connection.bound s.connection.engine =
      (none, s.connection.engine) := by
    rw [hidle]
    rfl
  have hanswer := Phase.answer_run (c := s.connection) h.notice hprovide hrun
  rw [← hready] at hanswer
  have hserved := serve_of_calm h (c := { s.connection with bound := some p })
    Request.noConfusion hasked hanswer rfl
  refine ⟨by rw [hserved], ?_, ?_⟩
  · rw [hserved]
    exact answered_of_told _ rfl rfl _
  · rw [hserved]
    exact ⟨⟨h.opened, h.stays, h.uninterrupted, ⟨rfl, rfl⟩, h.notice⟩, rfl, rfl, hholds⟩

/-! ## The run -/

/-- A ready session that nothing disturbs from outside is calm, and no processor is bound. -/
lemma isCalm_of_ready {self : Identity} {engine : σ} {inputs : List (Input (OrReply H))}
    (hreached : s = (start self engine).after E inputs) (hready : s.phase = .ready)
    (hstays : s.connection.signals.terminated = false)
    (huninterrupted : s.connection.signals.interrupts = 0)
    (hsettled : s.connection.relay.isSettled) :
    s.IsCalm ∧ s.connection.bound = none := by
  have hfits := Typestate.fitsAccepted_after (T := Typestate.bare E) inputs
    (s := start (H := OrReply H) self engine) (Or.inl ⟨⟨rfl, trivial⟩, rfl⟩)
  have hend : s.EndShown := by
    rw [hreached]
    exact endShown_after inputs ⟨nofun, nofun⟩
  rw [← hreached, hready] at hfits
  have hopen : s.isClosed = false := by
    rw [← Bool.not_eq_true]
    intro hclosed
    have hdefunct := hend.mpr hclosed
    rw [hready] at hdefunct
    cases hdefunct
  rcases hfits with ⟨⟨hbound, -⟩, hnotice⟩ | ⟨-, -, hlost⟩
  · exact ⟨⟨hopen, hstays, huninterrupted, Relay.isSettled_iff.mp hsettled, hnotice⟩, hbound⟩
  · cases hlost

/-- RUN leaves a result, and the requests for rows hand it out: each takes its share off the front
of what the ones before it left, a PULL sends its share and a DISCARD sends nothing, and the session
is ready as soon as no row is left. All shares together, and what is left in the end, are the
result. -/
theorem rows_handed_out (E : Engine σ P RowBuffer) {p : P} {Holds : List Record → σ → Prop}
    (hhands : E.HandsOut p Holds) (self : Identity) (engine : σ)
    (inputs : List (Input (OrReply H))) {s : Session σ P (OrReply H)}
    (hreached : s = (start self engine).after E inputs) (hready : s.phase = .ready)
    (hstays : s.connection.signals.terminated = false)
    (huninterrupted : s.connection.signals.interrupts = 0)
    (hsettled : s.connection.relay.isSettled)
    (run : Run) {info : StatementInfo} {opened started : σ}
    (hprovide : E.provide (run.extra.database?.getD s.self.defaultDatabase) s.connection.engine =
      .ok p opened)
    (hrun : E.run p run.query run.parameters (some run.extra.options) opened = .ok info started)
    {rows : List Record} (hholds : Holds rows started) (takes : List Take)
    (hleft : ∀ n, 0 < n → n < takes.length → Take.remaining rows (takes.take n) ≠ []) :
    (s.serveAmid E 0 (.run run) .blank).outcome = .ok () ∧
    (∃ metadata, (s.serveAmid E 0 (.run run) .blank).answered = some [.success metadata]) ∧
    (s.serveAmid E 0 (.run run) .blank).session.phase = .streaming ∧
    (∀ n (hn : n < takes.length),
      HandsOver E p Holds (Take.remaining rows (takes.take n)) takes[n]
        ((s.serveAmid E 0 (.run run) .blank).session.after E
          ((takes.take n).map Take.input))) ∧
    (Take.slices rows takes).flatten ++ Take.remaining rows takes = rows := by
  obtain ⟨hcalm, hidle⟩ := isCalm_of_ready hreached hready hstays huninterrupted hsettled
  obtain ⟨houtcome, hanswered, hstreaming⟩ :=
    isStreaming_of_run hcalm hready hidle hprovide hrun hholds
  refine ⟨houtcome, ⟨_, hanswered⟩, hstreaming.phase, ?_, Take.flatten_slices rows takes⟩
  intro n hn
  have hshorter : (takes.take n).length = n := List.length_take_of_le (Nat.le_of_lt hn)
  refine (handsOver_of_isStreaming hhands (isStreaming_after hhands hstreaming ?_) takes[n]).1
  intro early hearly hle
  rw [hshorter] at hle
  rw [List.take_take, Nat.min_eq_left hle]
  exact hleft early hearly (Nat.lt_of_le_of_lt hle hn)

end Session

/-! ## An engine -/

/-- An engine with one result, whose state is what is left of it. -/
def Engine.shelf (rows : List Record) : Engine (List Record) Unit RowBuffer where
  provide _ := pure ()
  database? _ _ := some "shelf"
  inTransaction _ _ := false
  isStreaming _ left := !left.isEmpty
  begin _ _ := pure ()
  run _ _ _ _ := fun _ => .ok { columns := ["n"], statement := -1 } rows
  stream _ _ mode size left :=
    .batch mode size { columns := ["n"], rows := left } fun heard rest =>
      .done (match heard with
        | .ok hasMore => .ok { hasMore } rest.rows
        | .error fault => .error fault rest.rows)
  commit _ := pure ""
  rollback _ := pure ()
  reset _ := fun _ => .ok () []
  abort _ left := left
  validate _ left := (none, left)

lemma handsOut_shelf (rows : List Record) :
    (Engine.shelf rows).HandsOut () (fun rows left => left = rows) where
  alive {_ engine} h := ⟨engine, rfl, h⟩
  offers {rows engine} mode size h := by
    subst h
    exact ⟨["n"], _, rfl, fun more left _ => ⟨none, left, rfl, rfl⟩⟩

namespace Session

/-- Three rows. -/
def threeRows : List Record := [[.integer 1], [.integer 2], [.integer 3]]

/-- One row is pulled, one is dropped, and one is asked for that is the last. -/
def threeTakes : List Take :=
  [⟨.pull, { size := 1 }⟩, ⟨.discard, { size := 1, statement := 7 }⟩, ⟨.pull, { size := 1 }⟩]

/-- A session that was greeted. -/
def greeted (engine : Engine (List Record) Unit RowBuffer) :
    Session (List Record) Unit (OrReply (Reply (List Response))) :=
  (start {} []).after engine [.request (.hello ∅) .blank 0]

/-- The last of three rows goes with the third request, which ends the statement. -/
theorem rows_handed_out_shelf :
    HandsOver (Engine.shelf threeRows) () (fun rows left => left = rows) [[.integer 3]]
      ⟨.pull, { size := 1 }⟩
      ((((greeted (Engine.shelf threeRows)).serveAmid (Engine.shelf threeRows) 0
        (.run { query := "" }) .blank).session).after (Engine.shelf threeRows)
          ((threeTakes.take 2).map Take.input)) := by
  have hleft : ∀ n, 0 < n → n < threeTakes.length →
      Take.remaining threeRows (threeTakes.take n) ≠ [] := by
    intro n hpos hn
    have hcases : n = 1 ∨ n = 2 := by
      have hlength : threeTakes.length = 3 := rfl
      omega
    rcases hcases with rfl | rfl
    · decide +kernel
    · decide +kernel
  obtain ⟨-, -, -, hshares, -⟩ := rows_handed_out (Engine.shelf threeRows)
    (handsOut_shelf threeRows) {} [] _ (s := greeted (Engine.shelf threeRows)) rfl
    (by decide +kernel) (by decide +kernel) (by decide +kernel) (by decide +kernel)
    { query := "" } rfl rfl rfl threeTakes hleft
  exact hshares 2 (Nat.lt_succ_self 2)

end Session
end QuerySession
