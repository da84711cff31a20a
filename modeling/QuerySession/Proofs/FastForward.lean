import QuerySession.Proofs.Exchange
import QuerySession.Proofs.Loss

/-!
# From an interrupt to its RESET

An interrupt makes a session skip every request up to the RESET that answers it, however many there
are and whatever they ask for. On the way the interrupt takes effect once, at the first of them: the
transaction of the bound processor is asked to stop. From then on the session only asks whether the
transaction is alive.

* `Session.stopWord`: what goes out when an interrupt takes effect;
* `Session.serveAmid_of_awaitsResets`: how one request is skipped;
* `Session.queue_fast_forwarded`: the rule, for any queue.
-/

namespace QuerySession

variable {σ P ρ H : Type}

/-! ## What may wait for a RESET -/

namespace Input

/-- The interrupts that come with an input. -/
def interrupts : Input H → Nat
  | .request _ _ arrivals => arrivals
  | .interrupt => 1
  | .terminate | .close | .report _ => 0

/-- The interrupts that come with some inputs. -/
def arriving : List (Input H) → Nat
  | [] => 0
  | input :: inputs => input.interrupts + arriving inputs

/-- The input is a request. -/
def isRequest : Input H → Bool
  | .request .. => true
  | _ => false

/-- An input that comes before the RESET: a request that has a reply for itself and neither answers
an interrupt nor ends the session, or another interrupt. -/
def IsQueued : Input (OrReply H) → Prop
  | .request asked handler _ => handler = .blank ∧ asked ≠ .reset ∧ asked ≠ .goodbye
  | .interrupt => True
  | .terminate | .close | .report _ => False

end Input

namespace Session

/-! ## One request -/

section
variable [Sink H] [RecordSource ρ] {E : Engine σ P ρ} {s : Session σ P H} {left : Nat}
  {request : Request}

omit [Sink H] in
/-- Interrupts that arrive are due as well. -/
lemma AwaitsResets.signal (h : s.AwaitsResets left) (arrivals : Nat) :
    (s.signal (Signals.interruptBy arrivals)).AwaitsResets (left + arrivals) where
  stays := h.stays
  greeted := h.greeted
  settled := h.settled
  due := congrArg (fun due => due + arrivals) h.due

/-- A request that finds an interrupt is skipped. -/
theorem serveAmid_of_awaitsResets (h : s.AwaitsResets (left + 1)) (hreset : request ≠ .reset)
    (hgoodbye : request ≠ .goodbye) (handler : H) (arrivals : Nat) :
    s.serveAmid E arrivals request handler =
      ⟨.ok (), some (Sink.tell .finished (Sink.tell .ignored handler)),
        { s.found E handler arrivals with
          connection := { (s.found E handler arrivals).connection with relay := {} } }⟩ := by
  obtain ⟨hphase, hopen, -, hrelay, -⟩ := accept_of_awaitsResets (E := E) h handler
  exact settle_of_skip (s := s.found E handler arrivals) hopen (Or.inr hphase) hreset hgoodbye
    hrelay

/-- After a request the interrupts are still due. -/
lemma awaitsResets_serveAmid (h : s.AwaitsResets (left + 1)) (hreset : request ≠ .reset)
    (hgoodbye : request ≠ .goodbye) (handler : H) (arrivals : Nat) :
    (s.serveAmid E arrivals request handler).session.AwaitsResets (left + arrivals + 1) ∧
      (s.serveAmid E arrivals request handler).session.phase = .interrupted := by
  obtain ⟨hphase, -, hsignals, -, -⟩ := accept_of_awaitsResets (E := E) h handler
  have hfound : (s.found E handler arrivals).phase = .interrupted := hphase
  have hkept : (s.found E handler arrivals).connection.signals =
      s.connection.signals.interruptBy arrivals := congrArg (Signals.interruptBy arrivals) hsignals
  rw [serveAmid_of_awaitsResets h hreset hgoodbye]
  refine ⟨⟨?_, ?_, ⟨rfl, rfl⟩, ?_⟩, hfound⟩
  · show (s.found E handler arrivals).connection.signals.closed = false ∧
      (s.found E handler arrivals).connection.signals.terminated = false
    rw [hkept]
    exact h.stays
  · show (s.found E handler arrivals).phase ≠ .connected ∧
      (s.found E handler arrivals).phase ≠ .defunct
    rw [hfound]
    exact ⟨nofun, nofun⟩
  · show (s.found E handler arrivals).connection.signals.interrupts = left + arrivals + 1
    rw [hkept]
    show s.connection.signals.interrupts + arrivals = left + arrivals + 1
    rw [h.due]
    omega

end

/-! ## What is called meanwhile -/

section
variable {E : Engine σ P ρ} {s : Session (Journal σ P) (Numbered P) H} {left : Nat}

/-- What goes out when an interrupt takes effect: the bound processor is asked to stop, unless an
interrupt has taken effect before or a notice is pending. -/
def stopWord (s : Session (Journal σ P) (Numbered P) H) : List (Event P) :=
  if s.phase = .interrupted ∨ s.connection.notice.isSome then []
  else (s.connection.bound.map fun p => .called p .abort .done).toList

lemma stopWord_of_interrupted (h : s.phase = .interrupted) : s.stopWord = [] := if_pos (Or.inl h)

/-- An interrupt that takes effect asks the bound processor to stop. -/
lemma events_abort (hphase : s.phase ≠ .interrupted) :
    (s.connection.abort E.journaled).engine.events = s.connection.engine.events ++ s.stopWord ∧
      (s.connection.abort E.journaled).bound = s.connection.bound := by
  unfold stopWord
  rcases Option.eq_none_or_eq_some s.connection.notice with hnotice | ⟨status, hnotice⟩
  · rw [Connection.abort_of_bound hnotice rfl, hnotice, if_neg (by simpa using hphase)]
    cases s.connection.bound with
    | none => exact ⟨(List.append_nil _).symm, rfl⟩
    | some p => exact ⟨rfl, rfl⟩
  · have hpending : s.connection.notice.isSome := by rw [hnotice]; rfl
    rw [Connection.abort_of_notice hnotice, if_pos (Or.inr hpending), List.append_nil]
    exact ⟨rfl, rfl⟩

/-- Before a request an interrupt takes effect, unless it has done so before. -/
lemma events_heedSignals (h : s.AwaitsResets (left + 1)) :
    (s.heedSignals E.journaled).connection.engine.events =
        s.connection.engine.events ++ s.stopWord ∧
      (s.heedSignals E.journaled).connection.bound = s.connection.bound := by
  rcases heedSignals_cases E.journaled s with ⟨hends, -, -⟩ | ⟨-, -, hphase, heq⟩ | ⟨-, -, heq⟩
  · exact absurd (h.stays.2.symm.trans hends) Bool.false_ne_true
  · rw [heq]
    refine events_abort fun hinterrupted => ?_
    rw [hinterrupted] at hphase
    cases hphase
  · -- the signals were left alone, so the interrupt has taken effect already
    obtain ⟨hphase, -, -⟩ := heedSignals_of_awaitsResets (E := E.journaled) h
    rw [heq] at hphase ⊢
    rw [stopWord_of_interrupted hphase, List.append_nil]
    exact ⟨rfl, rfl⟩

/-- An entry that says what the bound processor answered when it was asked after its transaction. -/
def IsCheck (s : Session (Journal σ P) (Numbered P) H) (event : Event P) : Prop :=
  ∃ p result, s.connection.bound = some p ∧ event = .called p .validate result

/-- A request that finds an interrupt calls nothing but the bound processor, which it asks to stop
if the interrupt takes effect, and then after its transaction. -/
theorem events_found (h : s.AwaitsResets (left + 1)) (handler : H) (arrivals : Nat) :
    (∃ checks, (s.found E.journaled handler arrivals).connection.engine.events =
        s.connection.engine.events ++ s.stopWord ++ checks ∧
        ∀ event ∈ checks, s.IsCheck event) ∧
      ∀ p, (s.found E.journaled handler arrivals).connection.bound = some p →
        s.connection.bound = some p := by
  obtain ⟨hevents, hbound⟩ := events_heedSignals (E := E) h
  obtain ⟨-, hopen, -, -, -⟩ := accept_of_awaitsResets (E := E.journaled) h handler
  have hheeded : (s.heedSignals E.journaled).isClosed = false := by
    unfold isClosed at hopen ⊢
    rwa [signals_accept] at hopen
  have hengine : (s.found E.journaled handler arrivals).connection.engine =
      ((s.heedSignals E.journaled).connection.validate E.journaled).engine := by
    show (s.accept E.journaled handler).connection.engine = _
    rw [accept_of_open hheeded handler]
  have hasked : (s.found E.journaled handler arrivals).connection.bound =
      ((s.heedSignals E.journaled).connection.validate E.journaled).bound := by
    show (s.accept E.journaled handler).connection.bound = _
    rw [accept_of_open hheeded handler]
  rw [hengine, hasked]
  rcases Connection.validate_cases E (s.heedSignals E.journaled).connection with
    ⟨-, heq⟩ | ⟨p, state, -, hp, heq⟩ | ⟨p, status, state, -, hp, heq⟩
  · rw [heq, hevents, hbound]
    exact ⟨⟨[], (List.append_nil _).symm, fun _ hmem => absurd hmem List.not_mem_nil⟩,
      fun _ hq => hq⟩
  · rw [heq]
    refine ⟨⟨[.called p .validate .done], congrArg (fun events => events ++ _) hevents, ?_⟩, ?_⟩
    · intro event hmem
      exact ⟨p, .done, hbound.symm.trans hp, List.mem_singleton.mp hmem⟩
    · intro q hq
      exact hbound.symm.trans hq
  · rw [heq]
    refine ⟨⟨[.called p .validate (.terminated status)],
      congrArg (fun events => events ++ _) hevents, ?_⟩, nofun⟩
    intro event hmem
    exact ⟨p, .terminated status, hbound.symm.trans hp, List.mem_singleton.mp hmem⟩

end

/-! ## A queue -/

section
variable [Sink H] [RecordSource ρ] {E : Engine σ P ρ}
  {s : Session (Journal σ P) (Numbered P) (OrReply H)} {left : Nat}

/-- A queue was gone through: the interrupts are all still due, and nothing was called but the bound
processor. -/
structure FastForwards (queue : List (Input (OrReply H)))
    (s t : Session (Journal σ P) (Numbered P) (OrReply H)) : Prop where
  awaits : t.AwaitsResets (s.connection.signals.interrupts + Input.arriving queue)
  bound : ∀ p, t.connection.bound = some p → s.connection.bound = some p
  events : ∃ checks, t.connection.engine.events = s.connection.engine.events ++
      (if queue.any Input.isRequest then s.stopWord else []) ++ checks ∧
    ∀ event ∈ checks, s.IsCheck event

variable {t : Session (Journal σ P) (Numbered P) (OrReply H)} {queue : List (Input (OrReply H))}

/-- Another interrupt in front of a queue is due as well, and leaves the word to stop to the first
request. -/
lemma FastForwards.interrupt (h : FastForwards queue (s.receive E.journaled .interrupt) t) :
    FastForwards (.interrupt :: queue) s t := by
  obtain ⟨hawaits, hbound, checks, hevents, hchecks⟩ := h
  refine ⟨?_, hbound, checks, hevents, hchecks⟩
  have hsum : (s.receive E.journaled .interrupt).connection.signals.interrupts +
      Input.arriving queue = s.connection.signals.interrupts +
        Input.arriving (.interrupt :: queue : List (Input (OrReply H))) := by
    show s.connection.signals.interrupts + 1 + _ = s.connection.signals.interrupts + (1 + _)
    omega
  rw [← hsum]
  exact hawaits

/-- A request in front of a queue gives the word to stop, and none is left to those behind it. -/
lemma FastForwards.request (hawaits : s.AwaitsResets (left + 1)) {request : Request}
    (hreset : request ≠ .reset) (hgoodbye : request ≠ .goodbye) {arrivals : Nat}
    (h : FastForwards queue (s.serveAmid E.journaled arrivals request .blank).session t) :
    FastForwards (.request request .blank arrivals :: queue) s t := by
  obtain ⟨hlast, hbound, later, hevents, hlater⟩ := h
  obtain ⟨hnext, hphase⟩ :=
    awaitsResets_serveAmid (E := E.journaled) hawaits hreset hgoodbye .blank arrivals
  obtain ⟨⟨checks, hfirst, hchecks⟩, hkept⟩ := events_found (E := E) hawaits .blank arrivals
  have hserved := serveAmid_of_awaitsResets (E := E.journaled) hawaits hreset hgoodbye
    (OrReply.blank : OrReply H) arrivals
  have hengine : (s.serveAmid E.journaled arrivals request .blank).session.connection.engine =
      (s.found E.journaled .blank arrivals).connection.engine := by rw [hserved]
  have hsame : ∀ p,
      (s.serveAmid E.journaled arrivals request .blank).session.connection.bound = some p →
        s.connection.bound = some p := by
    rw [hserved]
    exact hkept
  refine ⟨?_, fun p hp => hsame p (hbound p hp), checks ++ later, ?_, ?_⟩
  · have hsum : (s.serveAmid E.journaled arrivals request
          .blank).session.connection.signals.interrupts + Input.arriving queue =
        s.connection.signals.interrupts +
          Input.arriving (.request request .blank arrivals :: queue) := by
      rw [hnext.due, hawaits.due]
      show left + arrivals + 1 + _ = left + 1 + (arrivals + _)
      omega
    rw [← hsum]
    exact hlast
  -- the request leaves the session interrupted, so those behind it have no word to give
  · have hnone : (s.serveAmid E.journaled arrivals request .blank).session.stopWord = [] :=
      stopWord_of_interrupted hphase
    rw [hnone, ite_self, List.append_nil, hengine, hfirst, List.append_assoc] at hevents
    exact hevents
  · intro event hmem
    rcases List.mem_append.mp hmem with hmem | hmem
    · exact hchecks event hmem
    · obtain ⟨p, result, hp, heq⟩ := hlater event hmem
      exact ⟨p, result, hsame p hp, heq⟩

/-- A session on which interrupts wait goes through every queue in this way. -/
theorem fastForwards_after (hqueue : ∀ input ∈ queue, input.IsQueued)
    (h : s.AwaitsResets (left + 1)) : FastForwards queue s (s.after E.journaled queue) := by
  -- the induction is on the queue: an interrupt is due as well, a request leaves all that are due
  induction queue generalizing s left with
  | nil =>
    refine ⟨?_, fun _ hp => hp, [], ?_, fun _ hmem => absurd hmem List.not_mem_nil⟩
    · rw [h.due]
      exact h
    · exact ((List.append_nil _).trans (List.append_nil _)).symm
  | cons input queue ih =>
    have hrest : ∀ later ∈ queue, later.IsQueued :=
      fun later hlater => hqueue later (List.mem_cons_of_mem _ hlater)
    have hinput := hqueue input List.mem_cons_self
    rw [after_cons]
    cases input with
    | terminate => exact hinput.elim
    | close => exact hinput.elim
    | report report => exact hinput.elim
    | interrupt =>
      have hnext : (s.receive E.journaled .interrupt).AwaitsResets (left + 1 + 1) := h.signal 1
      exact (ih hrest hnext).interrupt
    | request request handler arrivals =>
      obtain ⟨rfl, hreset, hgoodbye⟩ := hinput
      obtain ⟨hnext, -⟩ :=
        awaitsResets_serveAmid (E := E.journaled) h hreset hgoodbye .blank arrivals
      exact .request h hreset hgoodbye (ih hrest hnext)

/-- The requests between an interrupt and its RESET are all skipped: each gets the one answer that
it was ignored and leaves the session interrupted, and no interrupt is taken off the counter. No
processor is provided, and the bound one is given no work and is not reset. It is asked to stop
once, by the first request, unless an interrupt has taken effect before or a notice is pending; else
it is only asked whether its transaction is alive. -/
theorem queue_fast_forwarded (E : Engine σ P ρ) (self : Identity) (engine : σ)
    (inputs : List (Input (OrReply H))) {s : Session (Journal σ P) (Numbered P) (OrReply H)}
    (hreached : s = (start self { state := engine }).after E.journaled inputs)
    (hopen : s.isClosed = false) (hstays : s.connection.signals.terminated = false)
    (hgreeted : s.phase ≠ .connected) (hsettled : s.connection.relay.isSettled)
    (hinterrupted : 0 < s.connection.signals.interrupts) {queue : List (Input (OrReply H))}
    (hqueue : ∀ input ∈ queue, input.IsQueued) :
    (∀ before request arrivals rest, queue = before ++ .request request .blank arrivals :: rest →
      IsSkipped ((s.after E.journaled before).serveAmid E.journaled arrivals request .blank)) ∧
    (∀ before rest, queue = before ++ rest →
      (s.after E.journaled before).connection.signals.interrupts =
        s.connection.signals.interrupts + Input.arriving before) ∧
    ∃ checks, (s.after E.journaled queue).connection.engine.events =
        s.connection.engine.events ++ (if queue.any Input.isRequest then s.stopWord else []) ++
          checks ∧
      ∀ event ∈ checks, s.IsCheck event := by
  obtain ⟨left, hleft⟩ := Nat.exists_eq_add_of_le' hinterrupted
  have hawaits : s.AwaitsResets (left + 1) := by
    -- a defunct session would show that it is closed
    refine ⟨⟨hopen, hstays⟩, ⟨hgreeted, fun hdefunct => ?_⟩, Relay.isSettled_iff.mp hsettled, hleft⟩
    have hend : s.EndShown := by
      rw [hreached]
      exact endShown_after inputs ⟨nofun, nofun⟩
    exact absurd (hopen.symm.trans (hend.mp hdefunct)) Bool.false_ne_true
  have hforward : ∀ before rest, queue = before ++ rest →
      FastForwards before s (s.after E.journaled before) := by
    rintro before rest rfl
    exact fastForwards_after (fun input hmem => hqueue input (List.mem_append_left _ hmem)) hawaits
  refine ⟨?_, ?_, (fastForwards_after hqueue hawaits).events⟩
  · intro before request arrivals rest heq
    have hrequest : (Input.request request .blank arrivals : Input (OrReply H)) ∈ queue := by
      rw [heq]
      exact List.mem_append_right _ List.mem_cons_self
    obtain ⟨-, hreset, hgoodbye⟩ := hqueue _ hrequest
    have hwaits := (hforward before _ heq).awaits
    obtain ⟨more, hmore⟩ : ∃ more,
        s.connection.signals.interrupts + Input.arriving before = more + 1 :=
      Nat.exists_eq_add_of_le' (by omega)
    rw [hmore] at hwaits
    obtain ⟨-, hphase⟩ :=
      awaitsResets_serveAmid (E := E.journaled) hwaits hreset hgoodbye .blank arrivals
    have hserved := serveAmid_of_awaitsResets (E := E.journaled) hwaits hreset hgoodbye
      (OrReply.blank : OrReply H) arrivals
    refine ⟨?_, ?_, hphase⟩
    · rw [hserved]
    · rw [hserved]
      rfl
  · intro before rest heq
    exact (hforward before rest heq).awaits.due

/-- Requests that wait behind an interrupt, and another interrupt among them. -/
def commitAndRun : List (Input (OrReply (Reply (List Response)))) :=
  [.request .commit .blank 0, .interrupt, .request (.run { query := "" }) .blank 0]

/-- The transaction is asked to stop once, and the statement behind COMMIT is not run. -/
theorem queue_fast_forwarded_interrupted :
    IsSkipped ((interruptedFrail.after (Engine.frail .transactionTerminated).journaled
        [.request .commit .blank 0, .interrupt]).serveAmid
          (Engine.frail .transactionTerminated).journaled 0 (.run { query := "" }) .blank) ∧
      (interruptedFrail.after (Engine.frail .transactionTerminated).journaled
        commitAndRun).connection.signals.interrupts = 2 ∧
      ∃ checks, (interruptedFrail.after (Engine.frail .transactionTerminated).journaled
          commitAndRun).connection.engine.events =
        interruptedFrail.connection.engine.events ++ [.called ⟨0, ()⟩ .abort .done] ++ checks ∧
        ∀ event ∈ checks, interruptedFrail.IsCheck event := by
  have hqueue : ∀ input ∈ commitAndRun, input.IsQueued := by
    intro input hmem
    rcases List.mem_cons.mp hmem with rfl | hmem
    · exact ⟨rfl, nofun, nofun⟩
    rcases List.mem_cons.mp hmem with rfl | hmem
    · trivial
    · rw [List.mem_singleton.mp hmem]
      exact ⟨rfl, nofun, nofun⟩
  obtain ⟨hskipped, hcounted, hcalled⟩ := queue_fast_forwarded
    (Engine.frail .transactionTerminated) {} none _ (s := interruptedFrail) rfl (by decide +kernel)
    (by decide +kernel) (by decide +kernel) (by decide +kernel) (by decide +kernel) hqueue
  exact ⟨hskipped [.request .commit .blank 0, .interrupt] (.run { query := "" }) 0 [] rfl,
    hcounted commitAndRun [] rfl, hcalled⟩

end
end Session
end QuerySession
