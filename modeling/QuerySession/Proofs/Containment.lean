import QuerySession.Proofs.FailingCalls
import QuerySession.Proofs.Loss
import QuerySession.Proofs.Replies

/-!
# Faults are reported and contained

A request may hit a fault at many points: before it calls anything, at a call, or at a row that
cannot be read. Whichever it is, the client gets the rows that were sent so far and one failure
that tells about the fault, and the session is failed or over. What the fault leaves does not
depend on where it was hit, but on whether it is fatal.

* `Session.Hits`: the faults that a request hits;
* `Session.raises_of_hits`: the table raises them;
* `Session.reported_of_answer`: what becomes of a fault that the table raises;
* `Session.fault_contained`: the rule.
-/

namespace QuerySession

variable {σ P ρ H α β : Type}

/-! ## Dialogues -/

namespace Dialogue

/-- The first fault that a processor hears of in a dialogue with a reply. -/
def readFault? [RecordSource ρ] : Dialogue ρ α → Option Fault
  | done _ => none
  | tell _ rest => rest.readFault?
  | batch _ size result rest =>
    let taken := haul (rowBudget size result) result
    match taken.heard with
    | .error fault => some fault
    | .ok more => (rest (.ok more) taken.rest).readFault?

/-- A dialogue with another answer says the same. -/
lemma said_map [RecordSource ρ] [Sink H] (f : α → β) (d : Dialogue ρ α) (sink : H) :
    (d.map f).said sink = d.said sink := by
  induction d generalizing sink with
  | done answer => rfl
  | tell report rest ih => exact congrArg (report :: ·) (ih _)
  | batch mode size result rest ih =>
    rw [map, said, said]
    split
    · exact ih ..
    · exact ih ..

end Dialogue

namespace Engine

variable [RecordSource ρ] [Sink H] {E : Engine σ P ρ}

/-- Processors report faults by what they return, and not to the sink of a batch. -/
def ReportsByReturn (E : Engine σ P ρ) (H : Type) [Sink H] : Prop :=
  ∀ p number mode size engine (sink : H) failure,
    .failed failure ∉ (E.stream p number mode size engine).said sink

lemma said_journaled (p : Numbered P) (number : Int64) (mode : BatchMode) (size : Int64)
    (journal : Journal σ P) (sink : H) :
    (E.journaled.stream p number mode size journal).said sink =
      (E.stream p.processor number mode size journal.state).said sink :=
  Dialogue.said_map _ _ sink

lemma NeverFinishes.journaled (h : E.NeverFinishes H) : E.journaled.NeverFinishes H := by
  intro p number mode size journal sink
  rw [said_journaled]
  exact h _ _ _ _ _ _

lemma ReportsByReturn.journaled (h : E.ReportsByReturn H) : E.journaled.ReportsByReturn H := by
  intro p number mode size journal sink failure
  rw [said_journaled]
  exact h _ _ _ _ _ _ _

end Engine

/-- A reply hears of no failure from processors that report by what they return. -/
lemma Phase.failure_heard [RecordSource ρ] [Sink H] {E : Engine σ P ρ} {phase : Phase}
    {request : Request} (hreports : E.ReportsByReturn (Relay (OrReply H)))
    (c : Connection σ P (OrReply H)) {reply : Reply (List Response)} (h : reply.failure = none) :
    (phase.heard E request c reply).failure = none := by
  unfold heard
  cases hdialogue : phase.dialogue? E request c with
  | none => exact h
  | some d =>
    obtain ⟨mode, batch, number, p, rfl, hnumber, -, -, rfl⟩ := dialogue?_eq_some hdialogue
    refine Dialogue.failure_play (fun failure => ?_) h
    have hsaid :=
      hreports p number mode batch.size c.engine { handler := some (.inr reply) } failure
    rwa [Dialogue.said_relay] at hsaid

/-! ## A fault of the table -/

/-- A reply that heard of no failure before ends with the one that it is told of. -/
lemma Reply.output_failed {reply : Reply (List Response)} (h : reply.failure = none)
    (failure : Failure) :
    ((reply.tell (.failed failure)).tell .finished).output =
      reply.output ++ [.failure failure.status.code failure.message] := by
  obtain ⟨output, metadata, heard, ignored⟩ := reply
  obtain rfl : heard = none := h
  rfl

namespace Session

section
variable [RecordSource ρ] [Sink H] {E : Engine σ P ρ} {request : Request} {fault : Fault}
  {s : Session σ P (OrReply H)} {c : Connection σ P (OrReply H)} {written : List Response}

/-- A fault was told to the client, after what was written before. One that is not fatal fails the
session and leaves the connection alone; a fatal one is returned and ends the session. -/
structure Reported (E : Engine σ P ρ) (fault : Fault) (written : List Response)
    (c : Connection σ P (OrReply H)) (served : Served σ P (OrReply H)) : Prop where
  outcome : served.outcome = if fault.isFatal then .error fault else .ok ()
  answered : served.answered =
    some (written ++ [.failure fault.status.code (Failure.ofFault fault).message])
  recoverable : fault.isFatal = false → served.session.phase = .failed ∧
    served.session.connection = { c with relay := {} }
  fatal : fault.isFatal = true → served.session.phase = .defunct ∧
    served.session.connection = { (c.release E).markClosed with relay := {} }

omit [RecordSource ρ] [Sink H] in
/-- With nothing waiting, a relay that notes what a reply does is that of its reply alone. -/
lemma eq_of_notes {r : Relay (OrReply H)} {reply : Reply (List Response)}
    (h : r.Notes reply True) :
    ∃ told : Reply (List Response), r = { handler := some (.inr told) } ∧
      told.output = reply.output ∧ told.failure = reply.failure := by
  obtain ⟨told, hhandler, houtput, hfailure, hsettled⟩ := h
  obtain ⟨handler, failure, ignored⟩ := r
  obtain rfl : handler = _ := hhandler
  obtain ⟨rfl, rfl⟩ : failure = none ∧ ignored = false := hsettled trivial
  exact ⟨told, rfl, houtput, hfailure⟩

/-- A fault of the table is reported, and is the only one that the client hears of. -/
theorem reported_of_answer (hopen : s.isClosed = false) (hpasses : s.passes request)
    (hrequest : request ≠ .goodbye)
    (hanswer : s.phase.answer E s.self request s.connection = .error fault c)
    (hstill : c.signals.closed = false) {reply : Reply (List Response)}
    (hnotes : c.relay.Notes reply True) (hfailure : reply.failure = none) :
    Reported E fault reply.output c (settle (perform E request s)) := by
  obtain ⟨told, hrelay, houtput, hfailed⟩ := eq_of_notes hnotes
  rw [← houtput]
  have hwritten := Reply.output_failed (hfailed.trans hfailure) (.ofFault fault)
  cases hfatal : fault.isFatal with
  | false =>
    rw [settle_of_fault hopen hpasses hrequest hfatal hanswer hstill hrelay]
    refine ⟨by rw [hfatal]; rfl, congrArg some hwritten, fun _ => ⟨rfl, rfl⟩, fun h => ?_⟩
    exact absurd (hfatal.symm.trans h) Bool.false_ne_true
  | true =>
    rw [settle_of_fatal hopen hpasses hrequest hfatal hanswer hrelay]
    refine ⟨by rw [hfatal]; rfl, congrArg some hwritten, fun h => ?_, fun _ => ⟨rfl, rfl⟩⟩
    exact absurd (h.symm.trans hfatal) Bool.false_ne_true

/-- A request that the table answers leaves the connection as the table did. -/
lemma connection_of_answer (hopen : s.isClosed = false) (hpasses : s.passes request)
    (hrequest : request ≠ .goodbye) {next : Phase}
    (hanswer : s.phase.answer E s.self request s.connection = .ok next c) :
    (settle (perform E request s)).session.connection = { c with relay := {} } := by
  rw [perform_of_passes hopen hpasses, dispatch_of_ne E hrequest, hanswer]
  exact connection_conclude _ ({ s with connection := c, phase := next } : Session σ P (OrReply H))

end

/-! ## Where a fault comes from -/

section
variable {E : Engine σ P ρ} {s : Session (Journal σ P) (Numbered P) H} {request : Request}

/-- Before a request the bound processor is only asked to stop, and after its transaction, unless
the request finds that the session was asked to end. -/
lemma enters_found
    (hstays : s.connection.signals.terminated = false ∨ s.isClosed = true) (handler : H)
    (arrivals : Nat) :
    Connection.Enters Event.isInquiry s.connection
      (s.found E.journaled handler arrivals).connection := by
  have hheed : Connection.Enters Event.isInquiry s.connection
      (s.heedSignals E.journaled).connection := by
    rcases heedSignals_cases E.journaled s with ⟨hends, hopen, -⟩ | ⟨-, -, -, heq⟩ | ⟨-, -, heq⟩
    · rcases hstays with hstays | hclosed
      · exact absurd (hstays.symm.trans hends) Bool.false_ne_true
      · exact absurd (hopen.symm.trans hclosed) Bool.false_ne_true
    · rw [heq]
      obtain ⟨-, hengine | ⟨p, state, hengine⟩⟩ := Connection.abort_cases E s.connection
      · exact Connection.enters_of_eq (congrArg Journal.events hengine)
      · exact Connection.enters_singleton (.called p .abort .done) rfl
          (congrArg Journal.events hengine)
    · rw [heq]
      exact Connection.enters_of_eq rfl
  show Connection.Enters Event.isInquiry s.connection (s.accept E.journaled handler).connection
  unfold accept
  dsimp only
  split
  · exact hheed
  · rcases Connection.validate_cases E (s.heedSignals E.journaled).connection with
      ⟨-, heq⟩ | ⟨p, state, -, -, heq⟩ | ⟨p, status, state, -, -, heq⟩
    · rw [heq]
      exact hheed
    · rw [heq]
      exact hheed.trans (Connection.enters_singleton (.called p .validate .done) rfl rfl)
    · rw [heq]
      exact hheed.trans
        (Connection.enters_singleton (.called p .validate (.terminated status)) rfl rfl)

/-- A request that was accepted hits a fault, with some processor bound as the fault is raised.
`added` is what the request enters in the journal. What comes of giving up a processor at the end
of the session is asked by nobody, so it is no fault of the request: GOODBYE hits none, and a
fatal fault is the only one of its request. -/
inductive Hits [RecordSource ρ] (E : Engine σ P ρ) (request : Request)
    (s : Session (Journal σ P) (Numbered P) H) (added : List (Event P)) :
    Fault → Option (Numbered P) → Prop
  /-- The request is not allowed in the phase. -/
  | refused (h : ¬ s.phase.takes request) :
    Hits E request s added (s.phase.refusal request) s.connection.bound
  /-- RESET takes an interrupt off the counter, and there is none. -/
  | undue (h : IsUndue request s) (htakes : s.phase.takes request) :
    Hits E request s added .counterUnderflow s.connection.bound
  /-- A notice is pending as the request gets to the processor. -/
  | noticed {status : Status} (h : s.connection.notice = some status)
    (hreaches : s.Reaches request) :
    Hits E request s added (.transactionTerminated status) none
  /-- A processor cannot be provided, or a call on one fails. RESET has left its processor then. -/
  | called {event : Event P} {fault : Fault} (htakes : s.phase.takes request)
    (hgoodbye : request ≠ .goodbye) (hdue : ¬ IsUndue request s)
    (hfirst : added.find? (fun event => !event.succeeds) = some event)
    (hfault : event.fault? = some fault) :
    Hits E request s added fault event.left?
  /-- A row cannot be read, and the processor returns the fault that it hears of. -/
  | read {d : Dialogue ρ (EStateM.Result Fault (Journal σ P) BatchEnd)} {fault : Fault}
    {engine : Journal σ P} (hdialogue : s.phase.dialogue? E.journaled request s.connection = some d)
    (hread : d.readFault? = some fault) (hreturned : d.outcome = .error fault engine) :
    Hits E request s added fault s.connection.bound

/-- The table raises a fault, and leaves some processor bound. No processor was reset, or RESET
failed for the one that it reset. -/
structure Raises [Sink H] [RecordSource ρ] (E : Engine σ P ρ) (request : Request)
    (s : Session (Journal σ P) (Numbered P) H) (fault : Fault)
    (c : Connection (Journal σ P) (Numbered P) H) : Prop where
  answer : s.phase.answer E.journaled s.self request s.connection = .error fault c
  resets : fault.isFatal = true →
    ((∃ added, c.engine.events = s.connection.engine.events ++ added ∧
        ∀ event ∈ added, event.isReset = false) ∧
      (request = .reset → c.bound = s.connection.bound)) ∨
    request = .reset ∧ Connection.FailsAtReset s.connection fault c

variable [Sink H] [RecordSource ρ] {fault : Fault}
  {c : Connection (Journal σ P) (Numbered P) H}

/-- A fault that a request hits before it calls anything. -/
lemma raises_of_answer_eq
    (hanswer : s.phase.answer E.journaled s.self request s.connection = .error fault c)
    (hevents : c.engine.events = s.connection.engine.events)
    (hbound : fault.isFatal = true → c.bound = s.connection.bound) :
    Raises E request s fault c :=
  ⟨hanswer, fun hfatal => Or.inl
    ⟨⟨[], by rw [hevents, List.append_nil], fun _ hmem => absurd hmem List.not_mem_nil⟩,
      fun _ => hbound hfatal⟩⟩

/-- A fault that a request hits at a call. -/
lemma raises_of_fails
    (hanswer : s.phase.answer E.journaled s.self request s.connection = .error fault c)
    (hfails : Connection.FailsFor request s.connection fault c) : Raises E request s fault c := by
  refine ⟨hanswer, fun hfatal => ?_⟩
  -- a fatal fault comes from the last call, and that of a RESET from the reset it makes
  rcases hfails with ⟨hfails, hreset⟩ | hreset
  · left
    refine ⟨?_, fun heq => absurd (hfatal.symm.trans (hreset heq)) Bool.false_ne_true.symm⟩
    rcases hfails with ⟨hsafe, -⟩ | ⟨event, -, hevent, ⟨before, hevents, hcalm⟩, -⟩
    · exact absurd (hfatal.symm.trans hsafe) Bool.false_ne_true.symm
    · refine ⟨before ++ [event], by rw [hevents, List.append_assoc], fun other hmem => ?_⟩
      rcases List.mem_append.mp hmem with hmem | hmem
      · exact Bool.not_eq_true' _ |>.mp (Bool.and_eq_true_iff.mp (hcalm other hmem)).2
      · rwa [List.mem_singleton.mp hmem]
  · exact Or.inr hreset

lemma failsFor_of_answer (htakes : s.phase.takes request) (hgoodbye : request ≠ .goodbye)
    (hdue : ¬ IsUndue request s) (hidle : s.phase = .ready → s.connection.bound = none)
    (hanswer : s.phase.answer E.journaled s.self request s.connection = .error fault c) :
    Connection.FailsFor request s.connection fault c := by
  have hfails := Connection.wp_answer_fails (E := E) (c := s.connection) s.self htakes hgoodbye
    (fun heq hzero => hdue ⟨heq, hzero⟩) hidle
  unfold wp at hfails
  rwa [hanswer] at hfails

end

section
variable [Sink H] [RecordSource ρ] {E : Engine σ P ρ}
  {s : Session (Journal σ P) (Numbered P) (OrReply H)} {request : Request} {fault : Fault}

/-- A fault that a processor hears of and returns is raised. -/
lemma raises_of_read {waiting : Option Failure} {skipped : Bool}
    (hrelay : s.connection.relay =
      { handler := some .blank, failure := waiting, ignored := skipped })
    {d : Dialogue ρ (EStateM.Result Fault (Journal σ P) BatchEnd)}
    (hdialogue : s.phase.dialogue? E.journaled request s.connection = some d)
    {engine : Journal σ P} (hreturned : d.outcome = .error fault engine) :
    ∃ c, Raises E request s fault c ∧ c.bound = s.connection.bound := by
  obtain ⟨mode, batch, number, p, rfl, hnumber, hnotice, hbound, rfl⟩ :=
    Phase.dialogue?_eq_some hdialogue
  have hplayed : ((E.journaled.stream p number mode batch.size s.connection.engine).play
      s.connection.relay).1 = .error fault engine := by
    rw [hrelay]
    unfold OrReply.blank
    rw [Dialogue.play_relay]
    exact (Dialogue.answer_play _ _).trans hreturned
  have hstream (next : BatchEnd → Action (Journal σ P) (Numbered P) (OrReply H) Phase) :
      ∃ c, (Connection.stream E.journaled number mode batch.size >>= next) s.connection =
        .error fault c ∧ c.bound = s.connection.bound := by
    refine ⟨{ s.connection with
      engine := engine
      relay := ((E.journaled.stream p number mode batch.size s.connection.engine).play
        s.connection.relay).2 }, eq_error_of_wp ?_, rfl⟩
    refine (wp_bind _ _).mpr ((wp_stream_of_bound hnotice hbound _ _ _).mpr ?_)
    have horIdle : E.journaled.orIdle.stream (some p) number mode batch.size s.connection.engine =
        E.journaled.stream p number mode batch.size s.connection.engine := rfl
    dsimp only
    rw [horIdle, hplayed]
    exact ⟨rfl, rfl⟩
  obtain ⟨c, hanswer, hc⟩ : ∃ c, s.phase.answer E.journaled s.self (.stream mode batch)
      s.connection = .error fault c ∧ c.bound = s.connection.bound := by
    rcases Phase.streamed?_eq_some hnumber with ⟨hphase, rfl⟩ | ⟨hphase, rfl⟩
    · rw [hphase]
      exact hstream _
    · rw [hphase]
      exact hstream _
  have htakes : s.phase.takes (.stream mode batch) ∧ s.phase ≠ .ready := by
    rcases Phase.streamed?_eq_some hnumber with ⟨hphase, -⟩ | ⟨hphase, -⟩
    · rw [hphase]
      exact ⟨rfl, nofun⟩
    · rw [hphase]
      exact ⟨rfl, nofun⟩
  refine ⟨c, raises_of_fails hanswer (failsFor_of_answer htakes.1 nofun ?_ ?_ hanswer), hc⟩
  · rintro ⟨heq, -⟩
    cases heq
  · exact fun hready => absurd hready htakes.2

/-- The first failing entry, after entries of calls that succeed. -/
lemma find?_failing {before : List (Event P)} (h : ∀ event ∈ before, event.succeeds)
    (rest : List (Event P)) :
    (before ++ rest).find? (fun event => !event.succeeds) =
      rest.find? fun event => !event.succeeds := by
  have hnone : before.find? (fun event => !event.succeeds) = none := by
    rw [List.find?_eq_none]
    intro event hmem hfails
    rw [h event hmem] at hfails
    cases hfails
  rw [List.find?_append, hnone, Option.none_or]

/-- An entry that fails is the first to do so after calm ones. -/
lemma find?_first {before last : List (Event P)} {event : Event P}
    (hbefore : ∀ other ∈ before, other.isCalm) (hfault : event.fault? = some fault) :
    (before ++ [event] ++ last).find? (fun event => !event.succeeds) = some event := by
  have hfails : (!event.succeeds) = true := by
    unfold Event.succeeds
    rw [hfault]
    rfl
  rw [List.append_assoc,
    find?_failing fun other hmem => Event.succeeds_of_isCalm (hbefore other hmem)]
  exact List.find?_cons_of_pos (p := fun event : Event P => !event.succeeds) hfails

omit [RecordSource ρ] [Sink H] in
/-- After a fault nothing is entered but the end of the session, if the fault is fatal. -/
lemma Reported.events {written : List Response}
    {c : Connection (Journal σ P) (Numbered P) (OrReply H)}
    {served : Served (Journal σ P) (Numbered P) (OrReply H)}
    (h : Reported E.journaled fault written c served) :
    ∃ last, served.session.connection.engine.events = c.engine.events ++ last ∧
      (fault.isFatal = false → last = []) := by
  cases hfatal : fault.isFatal with
  | false =>
    rw [(h.recoverable hfatal).2]
    exact ⟨[], (List.append_nil _).symm, fun _ => rfl⟩
  | true =>
    obtain ⟨last, hlast⟩ := Connection.continues_release E c
    rw [(h.fatal hfatal).2]
    exact ⟨last, hlast.events, nofun⟩

/-- The fault of the first call that fails is raised. -/
lemma raises_of_called (hopen : s.isClosed = false) (hpasses : s.passes request)
    (hgoodbye : request ≠ .goodbye) (htakes : s.phase.takes request) (hdue : ¬ IsUndue request s)
    (hidle : s.phase = .ready → s.connection.bound = none) {written : List Response}
    (hreported : ∀ fault c,
      s.phase.answer E.journaled s.self request s.connection = .error fault c →
      Reported E.journaled fault written c (settle (perform E.journaled request s)))
    {added : List (Event P)}
    (hadded : (settle (perform E.journaled request s)).session.connection.engine.events =
      s.connection.engine.events ++ added)
    {event : Event P} (hfirst : added.find? (fun event => !event.succeeds) = some event)
    (hfault : event.fault? = some fault) :
    ∃ c, Raises E request s fault c ∧ c.bound = event.left? := by
  have hclean {more : List (Event P)} (hmore : ∀ event ∈ more, event.succeeds)
      (heq : (settle (perform E.journaled request s)).session.connection.engine.events =
        s.connection.engine.events ++ more) : False := by
    obtain rfl := List.append_cancel_left (hadded.symm.trans heq)
    have hnone := find?_failing hmore []
    rw [List.append_nil, hfirst] at hnone
    cases hnone
  cases hanswer : s.phase.answer E.journaled s.self request s.connection with
  | ok next d =>
    have hsucceeds := Connection.wp_answer_fails (E := E) (c := s.connection) s.self htakes
      hgoodbye (fun heq hzero => hdue ⟨heq, hzero⟩) hidle
    unfold wp at hsucceeds
    rw [hanswer] at hsucceeds
    obtain ⟨more, hevents, hmore⟩ := hsucceeds
    -- an answer enters calls that succeed only, and among them there is none to be found
    refine absurd (hclean hmore ?_) id
    rw [connection_of_answer hopen hpasses hgoodbye hanswer]
    exact hevents
  | error fault' c =>
    have hfails := failsFor_of_answer htakes hgoodbye hdue hidle hanswer
    obtain ⟨last, hlast, hnothing⟩ := (hreported fault' c hanswer).events
    -- the last entry before the end is the first that fails
    have hthis (other : Event P) (before : List (Event P))
        (hevents : c.engine.events = s.connection.engine.events ++ before ++ [other])
        (hcalm : ∀ event ∈ before, event.isCalm) (hother : other.fault? = some fault')
        (hbound : c.bound = other.left?) : fault' = fault ∧ c.bound = event.left? := by
      rw [hlast, hevents, List.append_assoc, List.append_assoc] at hadded
      obtain rfl := List.append_cancel_left hadded
      rw [← List.append_assoc, find?_first hcalm hother] at hfirst
      obtain rfl := Option.some.inj hfirst
      exact ⟨Option.some.inj (hother.symm.trans hfault), hbound⟩
    have hmatch : fault' = fault ∧ c.bound = event.left? := by
      rcases hfails with
        ⟨⟨hsafe, more, hevents, hmore⟩ | ⟨other, hother, -, ⟨before, hevents, hcalm⟩, hbound⟩, -⟩ |
        ⟨-, p, -, hbound, hevents⟩
      · refine absurd (hclean (fun event hmem => Event.succeeds_of_isCalm (hmore event hmem)) ?_) id
        rw [hlast, hnothing hsafe, List.append_nil]
        exact hevents
      · exact hthis other before hevents hcalm hother hbound
      · refine hthis (.called p .reset (.failed fault')) [] ?_
          (fun _ hmem => absurd hmem List.not_mem_nil) rfl hbound
        rw [List.append_nil]
        exact hevents
    obtain ⟨rfl, hbound⟩ := hmatch
    exact ⟨c, raises_of_fails hanswer hfails, hbound⟩

/-- What a request hits, the table raises, with the processor bound that was so then. -/
theorem raises_of_hits (hfits : (discipline E).FitsAccepted s.phase s.connection)
    (hopen : s.isClosed = false) (hrelay : s.connection.relay = { handler := some .blank })
    {written : List Response}
    (hreported : ∀ fault c,
      s.phase.answer E.journaled s.self request s.connection = .error fault c →
      Reported E.journaled fault written c (settle (perform E.journaled request s)))
    {added : List (Event P)}
    (hadded : (settle (perform E.journaled request s)).session.connection.engine.events =
      s.connection.engine.events ++ added)
    {bound : Option (Numbered P)} (hhits : Hits E request s added fault bound) :
    ∃ c, Raises E request s fault c ∧ c.bound = bound := by
  cases hhits with
  | refused hrefused =>
    exact ⟨_, raises_of_answer_eq (Phase.answer_of_refused s.self hrefused _) rfl fun _ => rfl, rfl⟩
  | undue hundue htakes =>
    obtain ⟨rfl, hzero⟩ := hundue
    have hreset := Phase.answer_of_reset (H := OrReply H) E.journaled s.self
      (Phase.ne_of_takes htakes)
    have hanswer := (congrFun hreset s.connection).trans (Phase.answerReset_undue hzero)
    exact ⟨_, raises_of_answer_eq hanswer rfl fun _ => rfl, rfl⟩
  | noticed hnotice hreaches =>
    obtain ⟨hbound, hphase⟩ := hfits.bound_of_notice (by rw [hnotice]; exact Option.some_ne_none _)
    rcases hreaches with hreaches | ⟨rfl, hdue⟩
    · have hanswer := Phase.answer_of_reaches (E := E.journaled) s.self hnotice hphase hreaches
      exact ⟨_, raises_of_answer_eq hanswer rfl nofun, hbound⟩
    · have hreset := Phase.answer_of_reset (H := OrReply H) E.journaled s.self
        (Phase.ne_of_isNoticed hphase)
      have hanswer := (congrFun hreset s.connection).trans
        (Phase.answerReset_noticed hdue hnotice)
      exact ⟨_, raises_of_answer_eq hanswer rfl nofun, rfl⟩
  | called htakes hgoodbye hdue hfirst hfault =>
    have hpasses : s.passes request :=
      passes_of_settled request hopen (by rw [hrelay]; rfl)
    have hidle : s.phase = .ready → s.connection.bound = none := by
      intro hready
      rcases hfits with hfits | ⟨-, -, hlost⟩
      · rw [hready] at hfits
        exact hfits.1.1
      · rw [hready] at hlost
        cases hlost
    exact raises_of_called hopen hpasses hgoodbye htakes hdue hidle hreported hadded hfirst hfault
  | read hdialogue hread hreturned => exact raises_of_read hrelay hdialogue hreturned

omit [Sink H] in
/-- GOODBYE hits no fault. -/
lemma Hits.ne_goodbye {added : List (Event P)} {bound : Option (Numbered P)}
    (h : Hits E request s added fault bound) : request ≠ .goodbye := by
  rintro rfl
  cases h with
  | refused hrefused => cases s.phase <;> exact hrefused rfl
  | undue hundue => cases hundue.1
  | noticed hnotice hreaches =>
    rcases hreaches with hreaches | ⟨hreset, -⟩
    · cases hphase : s.phase <;> rw [hphase] at hreaches <;> cases hreaches
    · cases hreset
  | called htakes hgoodbye => exact hgoodbye rfl
  | read hdialogue =>
    obtain ⟨mode, batch, number, p, heq, -⟩ := Phase.dialogue?_eq_some hdialogue
    cases heq

omit [Sink H] in
/-- Entries of calls that succeed have no part in what is hit. -/
lemma Hits.of_append {calm added : List (Event P)} {bound : Option (Numbered P)}
    (h : Hits E request s (calm ++ added) fault bound) (hcalm : ∀ event ∈ calm, event.succeeds) :
    Hits E request s added fault bound := by
  cases h with
  | refused hrefused => exact .refused hrefused
  | undue hundue htakes => exact .undue hundue htakes
  | noticed hnotice hreaches => exact .noticed hnotice hreaches
  | called htakes hgoodbye hdue hfirst hfault =>
    rw [find?_failing hcalm] at hfirst
    exact .called htakes hgoodbye hdue hfirst hfault
  | read hdialogue hread hreturned => exact .read hdialogue hread hreturned

/-! ## The rule -/

/-- The fault that a request hit was reported and contained. The request finds a session `found`,
which was `before` then; `bound` is the processor that is bound as the fault is raised. -/
structure Contained (E : Engine σ P ρ) (request : Request) (fault : Fault)
    (bound : Option (Numbered P))
    (before found : Session (Journal σ P) (Numbered P) (OrReply H))
    (served : Served (Journal σ P) (Numbered P) (OrReply H)) : Prop where
  /-- Only a fatal fault is returned. -/
  outcome : served.outcome = if fault.isFatal then .error fault else .ok ()
  /-- The client gets what was written for the batch, and one failure, which is about the fault. -/
  answered : served.answered =
    some ((found.phase.heard E.journaled request found.connection { output := [] }).output ++
      [.failure fault.status.code (Failure.ofFault fault).message])
  /-- What was written for the batch are its rows. -/
  written : E.NeverFinishes (Relay (OrReply H)) →
    (found.phase.heard E.journaled request found.connection { output := [] }).output =
      (found.phase.pulled E.journaled request found.connection).map .record
  settled : served.session.connection.relay = {}
  /-- The session goes on after a RESET, with the same processor. -/
  recoverable : fault.isFatal = false →
    served.session.phase = .failed ∧ served.session.isClosed = false ∧
      served.session.connection.bound = bound
  /-- The session is over, and its processor was reset once. -/
  fatal : fault.isFatal = true →
    served.session.phase = .defunct ∧ served.session.isClosed = true ∧
      served.session.connection.bound = none ∧
      ∀ p, bound = some p ∨ (request = .reset ∧ found.connection.bound = some p) →
        resetCount (served.session.connection.engine.entriesOf p.number) =
          resetCount (before.connection.engine.entriesOf p.number) + 1

/-- A fatal fault makes the session reset its processor, unless RESET has done so before. -/
lemma resetCount_of_raises {c : Connection (Journal σ P) (Numbered P) (OrReply H)}
    (hfits : (discipline E).FitsAccepted s.phase s.connection)
    (hraises : Raises E request s fault c) (hfatal : fault.isFatal = true) {p : Numbered P}
    (hp : c.bound = some p ∨ (request = .reset ∧ s.connection.bound = some p)) :
    resetCount ((c.release E.journaled).engine.entriesOf p.number) =
      resetCount (s.connection.engine.entriesOf p.number) + 1 := by
  have hafter : (discipline E).Fits .failed c := by
    have hfailed := Typestate.fits_answer (T := discipline E) s.self request hfits
    unfold wp at hfailed
    rwa [hraises.answer] at hfailed
  have hnotice (hp : c.bound = some p) : c.notice = none := by
    rcases hafter with hidle | hwork
    · rw [hidle.1] at hp
      cases hp
    · exact hwork.1
  rcases hraises.resets hfatal with ⟨⟨added, hevents, hadded⟩, hreset⟩ |
    ⟨hreset, q, hq, hleft, hevents⟩
  · have hbound : c.bound = some p := by
      rcases hp with hp | ⟨heq, hp⟩
      · exact hp
      · rw [hreset heq, hp]
    obtain ⟨result, hreleased⟩ := Connection.events_release (E := E) (hnotice hbound) hbound
    rw [Connection.resetCount_of_reset hreleased,
      Connection.resetCount_of_not_reset p.number hevents hadded]
  · -- RESET has left its processor, so there is nothing to reset at the end
    obtain rfl : q = p := by
      rcases hp with hp | ⟨-, hp⟩
      · rw [hleft] at hp
        cases hp
      · exact Option.some.inj (hq.symm.trans hp)
    rw [Connection.engine_release_of_idle hleft]
    exact Connection.resetCount_of_reset hevents

/-- A fault that the table raises in an open session with nothing buffered is reported. -/
lemma reported_of_found (hreports : E.ReportsByReturn (Relay (OrReply H)))
    (hopen : s.isClosed = false) (hgoodbye : request ≠ .goodbye)
    (hrelay : s.connection.relay = { handler := some .blank })
    {c : Connection (Journal σ P) (Numbered P) (OrReply H)}
    (hanswer : s.phase.answer E.journaled s.self request s.connection = .error fault c) :
    c.signals.closed = false ∧
      Reported E.journaled fault
        (s.phase.heard E.journaled request s.connection { output := [] }).output c
        (settle (perform E.journaled request s)) := by
  have hnotes := wp_and (Phase.wp_answer_notes (E := E.journaled) s.self s.phase request hrelay)
    (isClosed_answer s.self s.phase request s.connection)
  unfold wp at hnotes
  rw [hanswer] at hnotes
  obtain ⟨⟨told, hhandler, houtput, hfailure, hsettled⟩, hkept⟩ := hnotes
  have hstill : c.signals.closed = false := hkept.trans hopen
  have hpasses : s.passes request := passes_of_settled request hopen (by rw [hrelay]; rfl)
  exact ⟨hstill, reported_of_answer hopen hpasses hgoodbye hanswer hstill
    ⟨told, hhandler, houtput, hfailure, fun _ => hsettled ⟨rfl, rfl⟩⟩
    (Phase.failure_heard hreports.journaled s.connection rfl)⟩

/-- A fault that is raised and reported is contained, if nothing but calm calls were made before the
request was performed. -/
lemma contained_of_reported {before : Session (Journal σ P) (Numbered P) (OrReply H)}
    {c : Connection (Journal σ P) (Numbered P) (OrReply H)}
    (hbefore : Connection.Enters Event.isCalm before.connection s.connection)
    (hfits : (discipline E).FitsAccepted s.phase s.connection)
    (hraises : Raises E request s fault c) (hstill : c.signals.closed = false)
    (hreported : Reported E.journaled fault
      (s.phase.heard E.journaled request s.connection { output := [] }).output c
      (settle (perform E.journaled request s))) :
    Contained E request fault c.bound before s (settle (perform E.journaled request s)) := by
  refine ⟨hreported.outcome, hreported.answered, fun hfinish => ?_, relay_settle _, fun hsafe => ?_,
    fun hfatal => ?_⟩
  · exact Phase.output_heard hfinish.journaled s.connection { output := [] }
  · obtain ⟨hphase, hconnection⟩ := hreported.recoverable hsafe
    refine ⟨hphase, ?_, ?_⟩
    · unfold isClosed
      rw [hconnection]
      exact hstill
    · rw [hconnection]
  · obtain ⟨hphase, hconnection⟩ := hreported.fatal hfatal
    unfold isClosed
    rw [hconnection]
    refine ⟨hphase, rfl, bound_close ({ s with connection := c } : Session _ _ _), fun p hp => ?_⟩
    have hreleased := resetCount_of_raises hfits hraises hfatal hp
    obtain ⟨calm, hevents, hcalm⟩ := hbefore
    have hsame := Connection.resetCount_of_not_reset p.number hevents fun event hmem =>
      (Bool.not_eq_true' _).mp (Bool.and_eq_true_iff.mp (hcalm event hmem)).2
    rw [← hsame, ← hreleased]
    rfl

/-- Whatever a request hits in an open session with nothing buffered, the client gets the rows that
were sent before and then one failure, which is about the fault. A fatal fault is returned; it ends
the session, and the processor that was bound is reset once. Any other fails the session, which
stays open with the processor that was bound as the fault was raised. -/
theorem fault_contained (E : Engine σ P ρ) (hreports : E.ReportsByReturn (Relay (OrReply H)))
    (self : Identity) (engine : σ) {inputs : List (Input (OrReply H))}
    (hinputs : ∀ report, .report report ∉ inputs)
    (hreached : s = (start self { state := engine }).after E.journaled inputs)
    (hopen : s.isClosed = false) (hstays : s.connection.signals.terminated = false)
    {arrivals : Nat} {added : List (Event P)}
    (hadded : (s.serveAmid E.journaled arrivals request .blank).session.connection.engine.events =
      s.connection.engine.events ++ added)
    {bound : Option (Numbered P)}
    (hhits : Hits E request (s.found E.journaled .blank arrivals) added fault bound) :
    Contained E request fault bound s (s.found E.journaled .blank arrivals)
      (s.serveAmid E.journaled arrivals request .blank) := by
  have hregular : s.Regular E := by
    rw [hreached]
    exact (regular_start self engine).after hinputs
  have hfound := (enters_found (E := E) (Or.inl hstays) (OrReply.blank : OrReply H) arrivals).mono
    fun _ => Event.isCalm_of_isInquiry
  have hfits := hregular.fitsAccepted_found (OrReply.blank : OrReply H) arrivals
  have hrelay := hregular.relay_found (OrReply.blank : OrReply H) arrivals
  have hopen' : (s.found E.journaled .blank arrivals).isClosed = false := by
    show (s.accept E.journaled .blank).connection.signals.closed = false
    rw [signals_accept_of_stays _ hstays]
    exact hopen
  have hserved : s.serveAmid E.journaled arrivals request .blank =
      settle (perform E.journaled request (s.found E.journaled .blank arrivals)) := rfl
  rw [hserved] at hadded ⊢
  generalize s.found E.journaled .blank arrivals = found at *
  have hgoodbye := hhits.ne_goodbye
  -- what the request enters before it is performed is calm
  obtain ⟨calm, hcalm, hcalls⟩ := hfound
  obtain ⟨more, hmore, -⟩ := settle_adds (E := E) (s := found) request
  have hsplit : added = calm ++ more := by
    have hevents := hmore.events
    rw [hadded, hcalm, List.append_assoc] at hevents
    exact List.append_cancel_left hevents
  rw [hsplit] at hhits
  have hhits := hhits.of_append fun event hmem => Event.succeeds_of_isCalm (hcalls event hmem)
  obtain ⟨c, hraises, rfl⟩ := raises_of_hits hfits hopen' hrelay
    (fun _ _ hanswer => (reported_of_found hreports hopen' hgoodbye hrelay hanswer).2)
    hmore.events hhits
  obtain ⟨hstill, hreported⟩ :=
    reported_of_found hreports hopen' hgoodbye hrelay hraises.answer
  exact contained_of_reported ⟨calm, hcalm, hcalls⟩ hfits hraises hstill hreported

end

end Session

/-! ## An engine -/

/-- An engine that loses every result at its first row. -/
def Engine.torn : Engine (Option Status) Unit RowBuffer :=
  { Engine.frail .transactionTerminated with
    stream := fun _ _ mode size s =>
      .batch mode size { rows := [[]] } fun _ _ => .done (.error (.fatal "disk lost") s) }

lemma said_torn [Sink H] (p : Unit) (number : Int64) (mode : BatchMode) (size : Int64)
    (engine : Option Status) (sink : H) :
    (Engine.torn.stream p number mode size engine).said sink = [] :=
  Dialogue.said_batch_done mode size ({ rows := [[]] } : RowBuffer) _ sink

lemma reportsByReturn_torn [Sink H] : Engine.torn.ReportsByReturn H := by
  intro p number mode size engine sink failure
  rw [said_torn]
  exact List.not_mem_nil

lemma neverFinishes_torn [Sink H] : Engine.torn.NeverFinishes H := by
  intro p number mode size engine sink
  rw [said_torn]
  exact List.not_mem_nil

namespace Session

/-- A session with a statement whose rows are due. -/
def streamingTorn : Session (Journal (Option Status) Unit) (Numbered Unit)
    (OrReply (Reply (List Response))) :=
  (start {} { state := none }).after Engine.torn.journaled
    [.request (.hello ∅) .blank 0, .request (.run { query := "" }) .blank 0]

/-- The client gets the row and the failure, and the processor is reset. -/
theorem fault_contained_torn :
    (streamingTorn.serveAmid Engine.torn.journaled 0 (.stream .pull {}) .blank).answered =
        some [.record [], .failure Status.generalError.code "Fatal error: disk lost"] ∧
      (streamingTorn.serveAmid Engine.torn.journaled 0 (.stream .pull {}) .blank).session.phase =
        .defunct ∧
      resetCount ((streamingTorn.serveAmid Engine.torn.journaled 0 (.stream .pull {})
        .blank).session.connection.engine.entriesOf 0) = 1 := by
  have hadded : (streamingTorn.serveAmid Engine.torn.journaled 0 (.stream .pull {})
      .blank).session.connection.engine.events = streamingTorn.connection.engine.events ++
        [.called ⟨0, ()⟩ .validate .done,
          .called ⟨0, ()⟩ (.stream (-1) .pull (-1)) (.failed (.fatal "disk lost")),
          .called ⟨0, ()⟩ .reset .done] := rfl
  have hinputs : ∀ report, .report report ∉
      ([.request (.hello ∅) .blank 0, .request (.run { query := "" }) .blank 0] :
        List (Input (OrReply (Reply (List Response))))) := by
    intro report hmem
    rcases List.mem_cons.mp hmem with h | hmem
    · cases h
    · cases List.mem_singleton.mp hmem
  have hcontained := fault_contained Engine.torn reportsByReturn_torn {} none hinputs
    (s := streamingTorn) rfl (by decide +kernel) (by decide +kernel) hadded
    (.called (by decide +kernel) nofun (fun hundue => by cases hundue.1) rfl rfl)
  obtain ⟨hphase, -, -, hresets⟩ := hcontained.fatal rfl
  -- the row that was sent is the one that the processor handed out
  have hanswered := hcontained.answered
  rw [hcontained.written neverFinishes_torn] at hanswered
  exact ⟨hanswered, hphase, hresets ⟨0, ()⟩ (Or.inl rfl)⟩

end Session
end QuerySession
