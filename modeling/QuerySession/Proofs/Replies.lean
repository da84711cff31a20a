import QuerySession.Proofs.Rows

/-!
# One reply for each request

A client reads one stream of responses. It can tell which of them belong to which of its requests
because every request that is answered is answered by a block: any number of records and then one
summary. Only GOODBYE, and what comes once the session is to end, is not answered.

This takes processors that keep to their part: they leave the end of the reply to the session, and
send no rows when they are asked to discard them.

* `Response.split`, `split_flatten`: how the client finds the blocks, and that it finds them;
* `Session.answered_of_silent`, `Session.answered_of_open`: what becomes of one request;
* `Session.one_reply_each`: the rule, for one request and for any run.
-/

namespace QuerySession

variable {σ P ρ H : Type}

/-! ## Blocks -/

namespace Response

/-- Any number of records, and then a summary. -/
def IsBlock (responses : List Response) : Prop :=
  ∃ (rows : List Record) (summary : Response),
    responses = rows.map .record ++ [summary] ∧ summary.isRecord = false

/-- Cuts a stream of responses behind every summary. -/
def split : List Response → List (List Response)
  | [] => []
  | response :: rest =>
    if response.isRecord then
      match split rest with
      | [] => [[response]]
      | block :: blocks => (response :: block) :: blocks
    else [response] :: split rest

/-- The first cut is behind the first block. -/
lemma split_append {block : List Response} (h : IsBlock block) (rest : List Response) :
    split (block ++ rest) = block :: split rest := by
  obtain ⟨rows, summary, rfl, hsummary⟩ := h
  -- the induction is on the records in front of the summary
  induction rows with
  | nil =>
    show split (summary :: rest) = [summary] :: split rest
    rw [split, hsummary, if_neg Bool.false_ne_true]
  | cons row rows ih =>
    show split (.record row :: (rows.map .record ++ [summary] ++ rest)) = _
    rw [split, ih]
    rfl

/-- The cuts are behind the blocks. -/
lemma split_flatten {blocks : List (List Response)} (h : ∀ block ∈ blocks, IsBlock block) :
    split blocks.flatten = blocks := by
  induction blocks with
  | nil => rfl
  | cons block blocks ih =>
    rw [List.forall_mem_cons] at h
    rw [List.flatten_cons, split_append h.1, ih h.2]

/-- A stream of responses is cut into blocks in one way at most. -/
theorem blocks_unique {blocks blocks' : List (List Response)} (h : ∀ block ∈ blocks, IsBlock block)
    (h' : ∀ block ∈ blocks', IsBlock block) (hstream : blocks.flatten = blocks'.flatten) :
    blocks = blocks' := by
  rw [← split_flatten h, hstream, split_flatten h']

end Response

lemma Reply.isRecord_summary {O : Type} (reply : Reply O) : reply.summary.isRecord = false := by
  obtain ⟨output, metadata, failure, ignored⟩ := reply
  cases failure <;> cases ignored <;> rfl

/-! ## The rows of a request -/

/-- No processor sends rows that it is asked to discard. -/
def Engine.PullsForPull [RecordSource ρ] (E : Engine σ P ρ) : Prop :=
  ∀ p number size engine, .pull ∉ (E.stream p number .discard size engine).asked

namespace Phase

variable {E : Engine σ P ρ} {phase : Phase} {request : Request}

lemma dialogue?_eq_some {c : Connection σ P H}
    {d : Dialogue ρ (EStateM.Result Fault σ BatchEnd)}
    (h : phase.dialogue? E request c = some d) :
    ∃ mode batch number p, request = .stream mode batch ∧ phase.streamed? batch = some number ∧
      c.notice = none ∧ c.bound = some p ∧ d = E.stream p number mode batch.size c.engine := by
  unfold dialogue? at h
  split at h
  · rename_i hnotice hbound
    obtain ⟨number, hnumber, rfl⟩ := Option.map_eq_some_iff.mp h
    exact ⟨_, _, number, _, rfl, hnumber, hnotice, hbound, rfl⟩
  · cases h

variable [RecordSource ρ]

/-- Rows are sent for a PULL, and where a statement has rows. -/
theorem pulled_ne_nil (hpulls : E.PullsForPull) {c : Connection σ P H}
    (h : phase.pulled E request c ≠ []) :
    (∃ batch, request = .stream .pull batch) ∧
      (phase = .streaming ∨ phase = .transactionStreaming) := by
  unfold pulled at h
  cases hdialogue : phase.dialogue? E request c with
  | none =>
    rw [hdialogue] at h
    exact absurd rfl h
  | some d =>
    rw [hdialogue] at h
    obtain ⟨mode, batch, number, p, rfl, hnumber, -, -, rfl⟩ := dialogue?_eq_some hdialogue
    have hphase : phase = .streaming ∨ phase = .transactionStreaming :=
      (streamed?_eq_some hnumber).imp And.left And.left
    cases mode with
    | pull => exact ⟨⟨batch, rfl⟩, hphase⟩
    | discard => exact absurd (Dialogue.pulled_of_asked (hpulls _ _ _ _)) h

variable [Sink H]

/-- A processor that leaves the end of the reply to the session only makes it write rows. -/
theorem output_heard (hfinish : E.NeverFinishes (Relay (OrReply H)))
    (c : Connection σ P (OrReply H)) (reply : Reply (List Response)) :
    (phase.heard E request c reply).output =
      (reply.withRecords (phase.pulled E request c)).output := by
  unfold heard pulled
  cases hdialogue : phase.dialogue? E request c with
  | none => exact (List.append_nil _).symm
  | some d =>
    obtain ⟨mode, batch, number, p, rfl, hnumber, -, -, rfl⟩ := dialogue?_eq_some hdialogue
    -- the session holds the dialogue through a relay, to which the same is said
    have hsaid := hfinish p number mode batch.size c.engine { handler := some (.inr reply) }
    rw [Dialogue.said_relay] at hsaid
    exact Dialogue.output_play hsaid

end Phase

namespace Session

variable [RecordSource ρ] [Sink H] {E : Engine σ P ρ} {request : Request} {rows : List Record}
  {s : Session σ P (OrReply H)}

/-- The reply to a request has written these rows, and nothing else. -/
def Wrote (rows : List Record) (s : Session σ P (OrReply H)) : Prop :=
  ∃ reply : Reply (List Response), s.connection.relay.handler = some (.inr reply) ∧
    reply.output = rows.map .record

omit [RecordSource ρ] in
/-- A fault is noted, and not written yet. -/
lemma wrote_fail (fault : Fault) (h : s.Wrote rows) (hopen : s.isClosed = false) :
    Meets (fun _ d => Wrote rows d ∧ d.isClosed = false) (fun _ d => Wrote rows d)
      (fail E fault s) := by
  obtain ⟨reply, hhandler, houtput⟩ := h
  have htold : ({ s with connection := s.connection.tell (.failed (.ofFault fault)) } :
      Session σ P (OrReply H)).Wrote rows := by
    refine ⟨reply.tell (.failed (.ofFault fault)), ?_, houtput⟩
    show (s.connection.relay.tell _).handler = _
    rw [Relay.tell_of_attached hhandler]
    rfl
  unfold fail
  dsimp only
  split
  · obtain ⟨told, hhandler, houtput⟩ := htold
    exact ⟨told, by rwa [relay_close], houtput⟩
  · exact ⟨htold, hopen⟩

/-- The table leaves an open session open, or raises a fault. -/
lemma isClosed_answer (self : Identity) (phase : Phase) (request : Request)
    (c : Connection σ P H) :
    wp (phase.answer E self request) (fun _ d => d.signals.closed = c.signals.closed)
      (fun _ d => d.signals.closed = c.signals.closed) c := by
  by_cases hphase : phase = .defunct
  · subst hphase
    exact rfl
  · exact wp_mono (flags_answer self hphase request c) (fun _ _ h => h.2.1) (fun _ _ h => h.1)

/-- A request that comes to the table makes the reply write the rows that are pulled. -/
lemma wrote_dispatch (hfinish : E.NeverFinishes (Relay (OrReply H))) (hrequest : request ≠ .goodbye)
    {waiting : Option Failure} {skipped : Bool}
    (hrelay : s.connection.relay =
      { handler := some .blank, failure := waiting, ignored := skipped })
    (hopen : s.isClosed = false) :
    wp (dispatch E request)
      (fun _ d => Wrote (s.phase.pulled E request s.connection) d ∧ d.isClosed = false)
      (fun _ d => Wrote (s.phase.pulled E request s.connection) d) s := by
  have hwrote {d : Connection σ P (OrReply H)} {settled : Prop}
      (h : d.relay.Notes (s.phase.heard E request s.connection { output := [] }) settled) :
      ∃ reply : Reply (List Response), d.relay.handler = some (.inr reply) ∧
        reply.output = (s.phase.pulled E request s.connection).map .record := by
    obtain ⟨told, hhandler, houtput, -, -⟩ := h
    exact ⟨told, hhandler, houtput.trans (Phase.output_heard hfinish _ _)⟩
  apply wp_dispatch_of_ne hrequest
  refine wp_mono (wp_and (Phase.wp_answer_notes s.self s.phase request hrelay)
    (isClosed_answer s.self s.phase request s.connection)) ?_ ?_
  · intro next d hafter
    exact ⟨hwrote hafter.1, hafter.2.trans hopen⟩
  · intro fault d hafter
    exact wrote_fail fault (hwrote hafter.1) (hafter.2.trans hopen)

/-- A request that finds the session open is answered by a block, unless it is GOODBYE. The rows in
it are those that were pulled. -/
theorem answered_of_open (hfinish : E.NeverFinishes (Relay (OrReply H)))
    (hrequest : request ≠ .goodbye) {waiting : Option Failure} {skipped : Bool}
    (hrelay : s.connection.relay =
      { handler := some .blank, failure := waiting, ignored := skipped })
    (hopen : s.isClosed = false) :
    ∃ rows summary,
      (settle (perform E request s)).answered = some (rows.map .record ++ [summary]) ∧
      summary.isRecord = false ∧
      (rows ≠ [] → s.passes request ∧ rows = s.phase.pulled E request s.connection) := by
  obtain ⟨rows, hperformed, hrows⟩ : ∃ rows,
      Meets (fun _ d => Wrote rows d ∧ d.isClosed = false) (fun _ d => Wrote rows d)
        (perform E request s) ∧
      (rows ≠ [] → s.passes request ∧ rows = s.phase.pulled E request s.connection) := by
    -- a request that is kept from the table writes nothing, and what keeps it is its summary
    by_cases hpasses : s.passes request
    · rw [perform_of_passes hopen hpasses]
      exact ⟨_, wrote_dispatch hfinish hrequest hrelay hopen, fun _ => ⟨hpasses, rfl⟩⟩
    · rw [perform_of_kept hpasses]
      exact ⟨[], ⟨⟨{ output := [] }, by rw [hrelay]; rfl, rfl⟩, hopen⟩, fun h => absurd rfl h⟩
  obtain ⟨d, ⟨reply, hhandler, houtput⟩, hserved, -⟩ := settle_of_answered hperformed
  obtain ⟨-, hwritten⟩ := Reply.foldl_tell
    (finished_not_mem_pending d.connection.relay.failure d.connection.relay.ignored) reply
  refine ⟨rows, ((pending d.connection.relay.failure d.connection.relay.ignored).foldl
    (fun r report => r.tell report) reply).summary, ?_, Reply.isRecord_summary _, hrows⟩
  unfold Served.answered
  rw [hserved, conclude_of_reply hhandler, conclusion_of_answered, List.foldl_append, ← houtput,
    ← hwritten]
  rfl

/-- The session is over, or will be with this request, so nothing is answered. -/
def isSilent (request : Request) (s : Session σ P H) : Bool :=
  s.isClosed || s.connection.signals.terminated || request.isAlwaysSafe

/-- Nothing is answered. -/
theorem answered_of_silent (hsilent : s.isSilent request = true) (interrupts : Nat) :
    (s.serveAmid E interrupts request .blank).answered = some [] := by
  have hhandler : (s.found E .blank interrupts).connection.relay.handler = some .blank :=
    congrArg Relay.handler (relay_accept E (OrReply.blank : OrReply H) s)
  show (settle (perform E request (s.found E .blank interrupts))).answered = some []
  by_cases hended : (s.found E .blank interrupts).isClosed = true
  · rw [perform_of_closed request hended]
    exact answered_of_closed hended hhandler
  · -- an open session is silent for GOODBYE only, which ends it
    rw [Bool.not_eq_true] at hended
    have hgoodbye : request = .goodbye := by
      unfold isSilent at hsilent
      rw [Bool.or_eq_true, Bool.or_eq_true] at hsilent
      rcases hsilent with hends | hsafe
      · exact absurd (hended.symm.trans (isClosed_found hends _ _)) Bool.false_ne_true
      · cases request <;> first | rfl | cases hsafe
    subst hgoodbye
    have hperform : perform E .goodbye (s.found E .blank interrupts) =
        .ok () ((s.found E .blank interrupts).close E) := by
      rw [perform_of_passes hended rfl]
      rfl
    rw [hperform]
    exact answered_of_closed rfl (by rwa [relay_close])

/-! ## Runs -/

/-- What the client is sent for an input. -/
def sent (E : Engine σ P ρ) (s : Session σ P (OrReply H)) : Input (OrReply H) → List Response
  | .request asked handler arrivals => (s.serveAmid E arrivals asked handler).answered.getD []
  | .interrupt | .terminate | .close | .report _ => []

/-- What the client is sent in a run. -/
def transcript (E : Engine σ P ρ) (s : Session σ P (OrReply H)) :
    List (Input (OrReply H)) → List Response
  | [] => []
  | input :: inputs => s.sent E input ++ (s.receive E input).transcript E inputs

/-- An input that the client is to get an answer to. -/
def isAnswered (s : Session σ P H) : Input H → Bool
  | .request asked _ _ => !s.isSilent asked
  | .interrupt | .terminate | .close | .report _ => false

/-- What the client is sent for each request of a run that it is to get an answer to. -/
def replies (E : Engine σ P ρ) (s : Session σ P (OrReply H)) :
    List (Input (OrReply H)) → List (List Response)
  | [] => []
  | input :: inputs =>
    let later := (s.receive E input).replies E inputs
    if s.isAnswered input then s.sent E input :: later else later

/-- A request is answered by a block. It has records only if it is a PULL that came to the table
where a statement has rows left. -/
def IsReplied (E : Engine σ P ρ) (s : Session σ P (OrReply H)) (interrupts : Nat)
    (request : Request) : Prop :=
  ∃ rows summary,
    (s.serveAmid E interrupts request .blank).answered = some (rows.map .record ++ [summary]) ∧
    summary.isRecord = false ∧
    (rows ≠ [] →
      (∃ batch, request = .stream .pull batch) ∧
      (s.found E .blank interrupts).isClosed = false ∧
      (s.found E .blank interrupts).passes request ∧
      ((s.found E .blank interrupts).phase = .streaming ∨
        (s.found E .blank interrupts).phase = .transactionStreaming))

omit [RecordSource ρ] [Sink H] in
lemma not_silent (h : ¬ s.isSilent request) :
    s.isClosed = false ∧ s.connection.signals.terminated = false ∧ request ≠ .goodbye := by
  unfold isSilent at h
  rw [Bool.or_eq_true, Bool.or_eq_true, not_or, not_or, Bool.not_eq_true, Bool.not_eq_true] at h
  obtain ⟨⟨hopen, hstays⟩, hsafe⟩ := h
  refine ⟨hopen, hstays, ?_⟩
  rintro rfl
  exact hsafe rfl

/-- A request of a session that goes on is replied to. -/
lemma isReplied_of_not_silent (hfinish : E.NeverFinishes (Relay (OrReply H)))
    (hpulls : E.PullsForPull) (h : ¬ s.isSilent request) (interrupts : Nat) :
    s.IsReplied E interrupts request := by
  obtain ⟨hopen, hstays, hrequest⟩ := not_silent h
  have hfound : (s.found E .blank interrupts).isClosed = false := by
    show (s.accept E .blank).connection.signals.closed = false
    rw [signals_accept_of_stays _ hstays]
    exact hopen
  have hrelay : (s.found E .blank interrupts).connection.relay =
      { handler := some .blank, failure := s.connection.relay.failure,
        ignored := s.connection.relay.ignored } := relay_accept E (OrReply.blank : OrReply H) s
  obtain ⟨rows, summary, hanswered, hsummary, hrows⟩ :=
    answered_of_open hfinish hrequest hrelay hfound
  refine ⟨rows, summary, hanswered, hsummary, fun hsome => ?_⟩
  obtain ⟨hpasses, hpulled⟩ := hrows hsome
  rw [hpulled] at hsome
  obtain ⟨hrequest, hphase⟩ := Phase.pulled_ne_nil hpulls hsome
  exact ⟨hrequest, hfound, hpasses, hphase⟩

/-- A step of a run: an input that is to be answered is sent a block, any other is sent nothing. -/
lemma sent_cases (hfinish : E.NeverFinishes (Relay (OrReply H))) (hpulls : E.PullsForPull)
    (input : Input (OrReply H))
    (hinput : ∀ asked handler arrivals, input = .request asked handler arrivals →
      handler = .blank) :
    (s.isAnswered input = true → Response.IsBlock (s.sent E input)) ∧
      (s.isAnswered input = false → s.sent E input = []) := by
  cases input with
  | request asked handler arrivals =>
    obtain rfl := hinput asked handler arrivals rfl
    have hsent : s.sent E (.request asked .blank arrivals) =
        (s.serveAmid E arrivals asked .blank).answered.getD [] := rfl
    have hanswers : s.isAnswered (.request asked (.blank : OrReply H) arrivals) =
        !s.isSilent asked := rfl
    rw [hsent, hanswers]
    cases hsilent : s.isSilent asked with
    | true => exact ⟨nofun, fun _ => by rw [answered_of_silent hsilent]; rfl⟩
    | false =>
      refine ⟨fun _ => ?_, nofun⟩
      obtain ⟨rows, summary, hreply, hsummary, -⟩ :=
        isReplied_of_not_silent hfinish hpulls (Bool.eq_false_iff.mp hsilent) arrivals
      exact ⟨rows, summary, by rw [hreply]; rfl, hsummary⟩
  | _ => exact ⟨nofun, fun _ => rfl⟩

/-- The transcript of a run is made of the replies. -/
lemma transcript_eq (hfinish : E.NeverFinishes (Relay (OrReply H))) (hpulls : E.PullsForPull)
    {inputs : List (Input (OrReply H))}
    (hinputs : ∀ asked handler arrivals, .request asked handler arrivals ∈ inputs →
      handler = .blank) :
    s.transcript E inputs = (s.replies E inputs).flatten ∧
      ∀ reply ∈ s.replies E inputs, Response.IsBlock reply := by
  induction inputs generalizing s with
  | nil => exact ⟨rfl, nofun⟩
  | cons input inputs ih =>
    obtain ⟨hlater, hblocks⟩ := ih (s := s.receive E input) fun asked handler arrivals hmem =>
      hinputs asked handler arrivals (List.mem_cons_of_mem _ hmem)
    obtain ⟨hblock, hnothing⟩ := sent_cases (s := s) hfinish hpulls input
      fun asked handler arrivals heq => hinputs asked handler arrivals (heq ▸ List.mem_cons_self)
    unfold transcript replies
    dsimp only
    rw [hlater]
    cases hanswered : s.isAnswered input with
    | true =>
      rw [if_pos rfl, List.flatten_cons]
      exact ⟨rfl, List.forall_mem_cons.mpr ⟨hblock hanswered, hblocks⟩⟩
    | false =>
      rw [if_neg Bool.false_ne_true, hnothing hanswered]
      exact ⟨rfl, hblocks⟩

/-- GOODBYE, and any request once the session has ended or is to end, is not answered. Any other
request is answered by a block, in which records come first and one summary last. So the transcript
of a run is cut into blocks in one way, and these are the replies to the requests that are
answered. -/
theorem one_reply_each (E : Engine σ P ρ) (hfinish : E.NeverFinishes (Relay (OrReply H)))
    (hpulls : E.PullsForPull) (s : Session σ P (OrReply H)) :
    (∀ request interrupts,
      (s.isSilent request →
        (s.serveAmid E interrupts request .blank).answered = some []) ∧
      (¬ s.isSilent request → s.IsReplied E interrupts request)) ∧
    (∀ inputs : List (Input (OrReply H)),
      (∀ asked handler arrivals, .request asked handler arrivals ∈ inputs → handler = .blank) →
      s.transcript E inputs = (s.replies E inputs).flatten ∧
      (∀ reply ∈ s.replies E inputs, Response.IsBlock reply) ∧
      ∀ blocks, (∀ block ∈ blocks, Response.IsBlock block) →
        blocks.flatten = s.transcript E inputs → blocks = s.replies E inputs) := by
  refine ⟨fun request interrupts => ⟨fun hsilent => answered_of_silent hsilent interrupts,
    fun hopen => isReplied_of_not_silent hfinish hpulls hopen interrupts⟩, fun inputs hinputs => ?_⟩
  obtain ⟨htranscript, hreplies⟩ := transcript_eq (s := s) hfinish hpulls hinputs
  refine ⟨htranscript, hreplies, fun blocks hblocks hstream => ?_⟩
  exact Response.blocks_unique hblocks hreplies (hstream.trans htranscript)

end Session

/-! ## A run -/

lemma neverFinishes_frail [Sink H] (status : Status) : (Engine.frail status).NeverFinishes H := by
  intro p number mode size engine sink
  have hsaid : ((Engine.frail status).stream p number mode size engine).said sink = [] :=
    Dialogue.said_batch_done mode size ({} : RowBuffer) _ sink
  rw [hsaid]
  exact List.not_mem_nil

lemma pullsForPull_frail (status : Status) : (Engine.frail status).PullsForPull := by
  intro p number size engine hasked
  cases List.mem_singleton.mp hasked

namespace Session

/-- Requests around an interrupt, and two more after the end. -/
def farewell : List (Input (OrReply (Reply (List Response)))) :=
  [.request (.hello ∅) .blank 0, .interrupt, .request (.run { query := "" }) .blank 0,
    .request .reset .blank 0, .request (.run { query := "" }) .blank 0,
    .request (.stream .pull {}) .blank 0, .request .goodbye .blank 0, .request .reset .blank 0]

/-- Five of the seven requests are answered, and there is no other way to read what was sent. -/
theorem one_reply_each_farewell :
    ∃ replies : List (List Response), replies.length = 5 ∧
      ∀ blocks, (∀ block ∈ blocks, Response.IsBlock block) →
        blocks.flatten = (start {} none).transcript (Engine.frail .transactionTerminated) farewell →
        blocks = replies := by
  refine ⟨_, ?_, ((one_reply_each (Engine.frail .transactionTerminated)
    (neverFinishes_frail _) (pullsForPull_frail _) (start {} none)).2 farewell ?_).2.2⟩
  · decide +kernel
  · intro asked handler arrivals hmem
    simp only [farewell, List.mem_cons, Input.request.injEq, List.not_mem_nil, or_false,
      reduceCtorEq, false_or] at hmem
    rcases hmem with h | h | h | h | h | h | h <;> exact h.2.1

end Session
end QuerySession
