import QuerySession.Proofs.FastForward
import QuerySession.Proofs.FailingCalls

/-!
# A failed session is sealed until RESET

However a session came to fail, nothing is worked on until RESET: every request is skipped, and all
that is called is the bound processor, which is asked after its transaction. A RESET has to be
announced by an interrupt; one that is not ends the session.

* `Connection.Checked`: nothing was asked but whether the transaction is alive;
* `Session.IsSealed`: a failed session with nothing due;
* `Session.serveAmid_of_isSealed`, `Session.isUndueReset_serveAmid`: how a request fares;
* `Session.isSealed_after`: a queue of requests leaves the session sealed;
* `Session.sealed_until_reset`: the rule.
-/

namespace QuerySession

variable {σ P ρ H : Type}

/-! ## Nothing but checks -/

namespace Connection

variable {E : Engine σ P ρ} {c d e : Connection (Journal σ P) (Numbered P) H}
  {checks more : List (Event P)}

/-- Nothing was called but the bound processor, which was asked after its transaction. The binding
and the notice are as they were, unless the processor reported why the transaction was torn down:
then it was dropped for a notice of that. -/
structure Checked (checks : List (Event P)) (c d : Connection (Journal σ P) (Numbered P) H) :
    Prop where
  events : d.engine.events = c.engine.events ++ checks
  asked : ∀ event ∈ checks, ∃ p result, c.bound = some p ∧ event = .called p .validate result
  kept_or_lost :
    ((∀ event ∈ checks, event.isReport = false) ∧ d.bound = c.bound ∧ d.notice = c.notice) ∨
    ∃ p status, .called p .validate (.terminated status) ∈ checks ∧ d.bound = none ∧
      d.notice = some status

lemma Checked.of_eq (hengine : d.engine = c.engine) (hbound : d.bound = c.bound)
    (hnotice : d.notice = c.notice) : Checked [] c d where
  events := by rw [hengine, List.append_nil]
  asked _ hmem := absurd hmem List.not_mem_nil
  kept_or_lost := Or.inl ⟨fun _ hmem => absurd hmem List.not_mem_nil, hbound, hnotice⟩

lemma Checked.trans (h : Checked checks c d) (h' : Checked more d e) :
    Checked (checks ++ more) c e where
  events := by rw [h'.events, h.events, List.append_assoc]
  asked event hmem := by
    rcases List.mem_append.mp hmem with hmem | hmem
    · exact h.asked event hmem
    · obtain ⟨p, result, hp, heq⟩ := h'.asked event hmem
      rcases h.kept_or_lost with ⟨-, hbound, -⟩ | ⟨-, -, -, hbound, -⟩
      · exact ⟨p, result, hbound.symm.trans hp, heq⟩
      · rw [hbound] at hp
        cases hp
  kept_or_lost := by
    rcases h.kept_or_lost with ⟨hsilent, hbound, hnotice⟩ | ⟨p, status, hmem, hbound, hnotice⟩
    · rcases h'.kept_or_lost with ⟨hsilent', hbound', hnotice'⟩ | ⟨p, status, hmem, hlost⟩
      · refine Or.inl ⟨fun event hmem => ?_, hbound'.trans hbound, hnotice'.trans hnotice⟩
        exact (List.mem_append.mp hmem).elim (hsilent event) (hsilent' event)
      · exact Or.inr ⟨p, status, List.mem_append_right _ hmem, hlost⟩
    · -- once the processor is lost there is none to ask
      rcases h'.kept_or_lost with ⟨-, hbound', hnotice'⟩ | ⟨_, _, hlater, -⟩
      · exact Or.inr ⟨p, status, List.mem_append_left _ hmem, hbound'.trans hbound,
          hnotice'.trans hnotice⟩
      · obtain ⟨_, _, hq, -⟩ := h'.asked _ hlater
        rw [hbound] at hq
        cases hq

lemma checked_validate (E : Engine σ P ρ) (c : Connection (Journal σ P) (Numbered P) H) :
    ∃ checks, Checked checks c (c.validate E.journaled) := by
  rcases validate_cases E c with ⟨-, heq⟩ | ⟨p, state, -, hp, heq⟩ | ⟨p, status, state, -, hp, heq⟩
  · rw [heq]
    exact ⟨[], .of_eq rfl rfl rfl⟩
  · rw [heq]
    refine ⟨[.called p .validate .done], rfl, fun event hmem => ?_, Or.inl ⟨fun event hmem => ?_,
      rfl, rfl⟩⟩
    · exact ⟨p, .done, hp, List.mem_singleton.mp hmem⟩
    · rw [List.mem_singleton.mp hmem]
      rfl
  · rw [heq]
    refine ⟨[.called p .validate (.terminated status)], rfl, fun event hmem => ?_,
      Or.inr ⟨p, status, List.mem_singleton.mpr rfl, rfl, rfl⟩⟩
    exact ⟨p, .terminated status, hp, List.mem_singleton.mp hmem⟩

end Connection

namespace Session

/-! ## A sealed session -/

/-- The session has failed, goes on, and has nothing due but a RESET. -/
structure IsSealed (s : Session σ P H) : Prop where
  phase : s.phase = .failed
  isOpen : s.isClosed = false
  stays : s.connection.signals.terminated = false
  undue : s.connection.signals.interrupts = 0
  settled : s.connection.relay.isSettled

section
variable {E : Engine σ P ρ} {s : Session σ P H}

/-- Before a request a sealed session only asks after the transaction. -/
lemma accept_of_isSealed (h : s.IsSealed) (handler : H) :
    s.accept E handler =
      { s with connection := { s.connection.validate E with
        relay := { handler := some handler } } } :=
  accept_of_undisturbed E h.isOpen h.stays h.undue h.settled handler

/-- The accepted session still goes on, failed, with nothing due, and is to answer this request
alone. -/
lemma accepted_of_isSealed (h : s.IsSealed) (handler : H) :
    (s.accept E handler).isClosed = false ∧ (s.accept E handler).phase = .failed ∧
      (s.accept E handler).connection.signals.interrupts = 0 ∧
      (s.accept E handler).connection.relay = { handler := some handler } := by
  have hsignals : (s.connection.validate E).signals = s.connection.signals :=
    Connection.signals_validate
  rw [accept_of_isSealed h]
  exact ⟨(congrArg Signals.closed hsignals).trans h.isOpen, h.phase,
    (congrArg Signals.interrupts hsignals).trans h.undue, rfl⟩

variable [Sink H] [RecordSource ρ] {request : Request}

/-- A sealed session skips a request, and only asks after the transaction. -/
theorem serveAmid_of_isSealed (h : s.IsSealed) (hreset : request ≠ .reset)
    (hgoodbye : request ≠ .goodbye) (handler : H) :
    s.serveAmid E 0 request handler =
      ⟨.ok (), some (Sink.tell .finished (Sink.tell .ignored handler)),
        { s with connection := { s.connection.validate E with relay := {} } }⟩ := by
  obtain ⟨hopen, hphase, -, hrelay⟩ := accepted_of_isSealed (E := E) h handler
  show settle (perform E request (s.accept E handler)) = _
  rw [settle_of_skip hopen (Or.inl hphase) hreset hgoodbye hrelay, accept_of_isSealed h]

/-- After a request the session is sealed as before. -/
lemma isSealed_serveAmid (h : s.IsSealed) (hreset : request ≠ .reset)
    (hgoodbye : request ≠ .goodbye) (handler : H) :
    (s.serveAmid E 0 request handler).session.IsSealed := by
  have hsignals : (s.connection.validate E).signals = s.connection.signals :=
    Connection.signals_validate
  rw [serveAmid_of_isSealed h hreset hgoodbye]
  refine ⟨h.phase, ?_, ?_, ?_, rfl⟩
  · show (s.connection.validate E).signals.closed = false
    rw [hsignals]
    exact h.isOpen
  · show (s.connection.validate E).signals.terminated = false
    rw [hsignals]
    exact h.stays
  · show (s.connection.validate E).signals.interrupts = 0
    rw [hsignals]
    exact h.undue

/-- A RESET that nothing announced ends a sealed session. -/
theorem serveAmid_undue (h : s.IsSealed) (handler : H) :
    s.serveAmid E 0 .reset handler =
      ⟨.error .counterUnderflow,
        some (Sink.tell .finished (Sink.tell (.failed (.ofFault .counterUnderflow)) handler)),
        { s with
          connection := { ((s.connection.validate E).release E).markClosed with relay := {} }
          phase := .defunct }⟩ := by
  obtain ⟨hopen, hphase, hundue, hrelay⟩ := accepted_of_isSealed (E := E) h handler
  have hanswer : (s.accept E handler).phase.answer E (s.accept E handler).self .reset
      (s.accept E handler).connection =
        .error .counterUnderflow (s.accept E handler).connection := by
    rw [hphase, Phase.answer_of_reset E _ ⟨Phase.noConfusion, Phase.noConfusion⟩]
    exact Phase.answerReset_undue hundue
  have hserved := settle_of_fatal hopen rfl Request.noConfusion rfl hanswer hrelay
  show settle (perform E .reset (s.accept E handler)) = _
  rw [hserved, accept_of_isSealed h]
  dsimp only
  rw [release_relay]
  rfl

end

/-! ## A queue -/

section
variable [Sink H] [RecordSource ρ] {E : Engine σ P ρ}
  {s : Session (Journal σ P) (Numbered P) (OrReply H)} {request : Request}

/-- A request was skipped, and nothing was called but the bound processor, which was asked after
its transaction. No interrupt came up. -/
structure IsSealedOff (s : Session (Journal σ P) (Numbered P) (OrReply H))
    (served : Served (Journal σ P) (Numbered P) (OrReply H)) : Prop where
  outcome : served.outcome = .ok ()
  answered : served.answered = some [.ignored]
  phase : served.session.phase = .failed
  interrupts : served.session.connection.signals.interrupts = 0
  calls : ∃ checks, Connection.Checked checks s.connection served.session.connection

lemma isSealedOff_serveAmid (h : s.IsSealed) (hreset : request ≠ .reset)
    (hgoodbye : request ≠ .goodbye) :
    IsSealedOff s (s.serveAmid E.journaled 0 request .blank) := by
  have hserved := serveAmid_of_isSealed (E := E.journaled) h hreset hgoodbye
    (OrReply.blank : OrReply H)
  have hnext := isSealed_serveAmid (E := E.journaled) h hreset hgoodbye
    (OrReply.blank : OrReply H)
  obtain ⟨checks, hchecks⟩ := Connection.checked_validate E s.connection
  refine ⟨by rw [hserved], by rw [hserved]; rfl, hnext.phase, hnext.undue, checks, ?_⟩
  rw [hserved]
  exact ⟨hchecks.events, hchecks.asked, hchecks.kept_or_lost⟩

/-- Requests that come one after the other, each with a reply for itself, and no interrupt. -/
def undisturbed (requests : List Request) : List (Input (OrReply H)) :=
  requests.map fun request => .request request .blank 0

/-- A queue of requests leaves a session sealed, and only asks after the transaction. -/
theorem isSealed_after (h : s.IsSealed) {requests : List Request}
    (hrequests : ∀ request ∈ requests, request ≠ .reset ∧ request ≠ .goodbye) :
    (s.after E.journaled (undisturbed requests)).IsSealed ∧
      ∃ checks, Connection.Checked checks s.connection
        (s.after E.journaled (undisturbed requests)).connection := by
  induction requests generalizing s with
  | nil => exact ⟨h, [], .of_eq rfl rfl rfl⟩
  | cons request requests ih =>
    obtain ⟨hreset, hgoodbye⟩ := hrequests request List.mem_cons_self
    have hnext := isSealed_serveAmid (E := E.journaled) h hreset hgoodbye
      (OrReply.blank : OrReply H)
    obtain ⟨hsealed, more, hmore⟩ :=
      ih hnext fun later hlater => hrequests later (List.mem_cons_of_mem _ hlater)
    obtain ⟨checks, hchecks⟩ := (isSealedOff_serveAmid (E := E) h hreset hgoodbye).calls
    exact ⟨hsealed, checks ++ more, hchecks.trans hmore⟩

/-- A RESET that nothing announced was told so and ended the session. -/
structure IsUndueReset (served : Served (Journal σ P) (Numbered P) (OrReply H)) : Prop where
  outcome : served.outcome = .error .counterUnderflow
  answered : served.answered =
    some [.failure Status.generalError.code (Failure.ofFault .counterUnderflow).message]
  phase : served.session.phase = .defunct
  closed : served.session.isClosed = true
  interrupts : served.session.connection.signals.interrupts = 0

lemma isUndueReset_serveAmid (h : s.IsSealed) :
    IsUndueReset (s.serveAmid E.journaled 0 .reset .blank) := by
  rw [serveAmid_undue h]
  refine ⟨rfl, rfl, rfl, rfl, ?_⟩
  show ((s.connection.validate E.journaled).release E.journaled).signals.interrupts = 0
  rw [signals_release, Connection.signals_validate]
  exact h.undue

/-- In a session that has failed, with nothing due or waiting to be reported, every request is
skipped up to the next RESET or GOODBYE, however many there are and whatever they ask for: each is
answered that it was ignored and leaves the session failed. All that is called is the bound
processor, which is asked after its transaction; the binding and the notice are kept, unless it
reports that the transaction was torn down. A RESET that no interrupt announced then ends the
session. -/
theorem sealed_until_reset (E : Engine σ P ρ)
    {s : Session (Journal σ P) (Numbered P) (OrReply H)} (hsealed : s.IsSealed)
    {requests : List Request}
    (hrequests : ∀ request ∈ requests, request ≠ .reset ∧ request ≠ .goodbye) :
    (∀ before request rest, requests = before ++ request :: rest →
      IsSealedOff (s.after E.journaled (undisturbed before))
        ((s.after E.journaled (undisturbed before)).serveAmid E.journaled 0 request .blank)) ∧
    (∃ checks, Connection.Checked checks s.connection
      (s.after E.journaled (undisturbed requests)).connection) ∧
    IsUndueReset
      ((s.after E.journaled (undisturbed requests)).serveAmid E.journaled 0 .reset .blank) := by
  obtain ⟨hlast, hchecked⟩ := isSealed_after (E := E) hsealed hrequests
  refine ⟨?_, hchecked, isUndueReset_serveAmid hlast⟩
  rintro before request rest rfl
  have hbefore : ∀ earlier ∈ before, earlier ≠ .reset ∧ earlier ≠ .goodbye :=
    fun earlier hearlier => hrequests earlier (List.mem_append_left _ hearlier)
  obtain ⟨hstill, -⟩ := isSealed_after (E := E) hsealed hbefore
  obtain ⟨hreset, hgoodbye⟩ :=
    hrequests request (List.mem_append_right _ List.mem_cons_self)
  exact isSealedOff_serveAmid hstill hreset hgoodbye

/-- A session that has failed in a transaction, at a request that is not allowed there. -/
def failedFrail : Session (Journal (Option Status) Unit) (Numbered Unit)
    (OrReply (Reply (List Response))) :=
  (start {} { state := none }).after (Engine.frail .transactionTerminated).journaled
    (undisturbed [.hello ∅, .begin ∅, .hello ∅])

/-- A statement and COMMIT are skipped, and a RESET that nothing announced ends the session. -/
theorem sealed_until_reset_failed :
    IsSealedOff (failedFrail.after (Engine.frail .transactionTerminated).journaled
        (undisturbed [.run { query := "" }]))
      ((failedFrail.after (Engine.frail .transactionTerminated).journaled
        (undisturbed [.run { query := "" }])).serveAmid
          (Engine.frail .transactionTerminated).journaled 0 .commit .blank) ∧
    IsUndueReset ((failedFrail.after (Engine.frail .transactionTerminated).journaled
      (undisturbed [.run { query := "" }, .commit])).serveAmid
        (Engine.frail .transactionTerminated).journaled 0 .reset .blank) := by
  have hsealed : failedFrail.IsSealed :=
    ⟨by decide +kernel, by decide +kernel, by decide +kernel, by decide +kernel, by decide +kernel⟩
  have hrequests : ∀ request ∈ ([.run { query := "" }, .commit] : List Request),
      request ≠ .reset ∧ request ≠ .goodbye := by
    intro request hmem
    rcases List.mem_cons.mp hmem with rfl | hmem
    · exact ⟨nofun, nofun⟩
    · rw [List.mem_singleton.mp hmem]
      exact ⟨nofun, nofun⟩
  obtain ⟨hskipped, -, hreset⟩ :=
    sealed_until_reset (Engine.frail .transactionTerminated) hsealed hrequests
  exact ⟨hskipped [.run { query := "" }] .commit [] rfl, hreset⟩

end
end Session
end QuerySession
