import QuerySession.Proofs.Closing
import QuerySession.Proofs.Recovery

/-!
# What is given up

Four things make a session give up its processor: it is closed, GOODBYE ends it, a fatal fault ends
it, or the last RESET makes it a clean session. The processor is to drop what it has open, so it is
reset, and then left. The way to it is that of any access, though: a notice that is pending when the
teardown begins keeps it from being reset, and it is left all the same.

* `Connection.wp_answerReset_givesUp`: the last RESET gives up a processor as the end does;
* `Connection.AsksAndGivesUp`: how a request does so;
* `Session.asksAndGivesUp_of_found`: what comes before such a request is performed;
* `Session.teardown_resets`: the rule.
-/

namespace QuerySession

variable {σ P ρ H : Type}

namespace Connection

lemma not_spared {c : Connection σ P H} {p : P} (hnotice : c.notice = none)
    (hp : c.bound = some p) : ¬ (c.notice ≠ none ∨ c.bound = none) := by
  rintro (hpending | hidle)
  · exact hpending hnotice
  · rw [hp] at hidle
    cases hidle

/-- A connection asks after its transaction, and then gives up its processor. The processor is reset
once, unless it has answered that the transaction was torn down. With a notice pending it is left
without being called. -/
structure AsksAndGivesUp (c d : Connection (Journal σ P) (Numbered P) H) : Prop where
  reset : c.notice = none → ∀ p, c.bound = some p →
    ∃ inquiries : List (Event P), (∀ event ∈ inquiries, event.isInquiry ∧ ¬ event.isReport) ∧
      ((∃ result, d.engine.events =
          c.engine.events ++ inquiries ++ [.called p .reset result]) ∨
        ∃ status, d.engine.events =
          c.engine.events ++ inquiries ++ [.called p .validate (.terminated status)])
  spared : c.notice ≠ none ∨ c.bound = none → d.engine = c.engine
  bound : d.bound = none
  notice : d.notice = none

section
variable {E : Engine σ P ρ} {c d e : Connection (Journal σ P) (Numbered P) H}

/-! ## The last RESET -/

/-- Once a processor was given up, the end adds nothing. -/
lemma GivesUp.release (h : c.GivesUp d) : c.GivesUp (d.release E.journaled) := by
  have hreleased := givesUp_release E d
  exact h.congr (engine_release_of_idle h.bound) (hreleased.bound.trans h.bound.symm)
    (hreleased.notice.trans h.notice.symm)

/-- The last RESET resets the bound processor, too. -/
lemma wp_answerReset_givesUp [Sink H] (E : Engine σ P ρ) (hdue : c.signals.interrupts = 1) :
    wp (Phase.answerReset E.journaled) (fun _ => c.GivesUp) (fun _ => c.GivesUp) c := by
  unfold Phase.answerReset
  rw [wp_bind, wp_acknowledge, hdue]
  dsimp only
  rw [wp_ite, if_neg (Nat.lt_irrefl 0), wp_bind, wp_modify, wp_bind]
  -- no interrupt is left, so the processor is given up, by an access that a notice keeps from it
  rcases Option.eq_none_or_eq_some c.notice with hnotice | ⟨status, hnotice⟩
  · rcases Option.eq_none_or_eq_some c.bound with hp | ⟨p, hp⟩
    · rw [wp_giveUp_of_bound (by exact hnotice) (by exact hp)]
      refine ⟨fun _ p hbound => ?_, fun _ => rfl, rfl, hnotice⟩
      rw [hp] at hbound
      cases hbound
    · rw [wp_giveUp_of_bound (by exact hnotice) (by exact hp)]
      have hentered (result : CallResult) (state : σ) :
          c.GivesUp { c with
            relay := c.relay.forget
            signals.interrupts := 0
            bound := none
            engine := c.engine.record (.called p .reset result) state } := by
        refine ⟨fun _ q hq => ?_, fun hspared => absurd hspared (not_spared hnotice hp), rfl,
          hnotice⟩
        obtain rfl := Option.some.inj (hp.symm.trans hq)
        exact ⟨result, Journal.events_record _ _ _⟩
      refine (wp_journalCall _ _ _).mpr (Meets.always ?_ ?_ _)
      · intro _ state
        exact hentered .done state
      · intro fault state
        exact hentered (.failed fault) state
  · rw [wp_giveUp_of_notice (by exact hnotice)]
    refine ⟨fun hnone => ?_, fun _ => rfl, rfl, rfl⟩
    rw [hnotice] at hnone
    cases hnone

/-! ## The start of a request -/

lemma GivesUp.asks (h : c.GivesUp d) : c.AsksAndGivesUp d := by
  refine ⟨fun hnotice p hp => ?_, h.spared, h.bound, h.notice⟩
  obtain ⟨result, hevents⟩ := h.reset hnotice p hp
  refine ⟨[], fun _ hmem => absurd hmem List.not_mem_nil, Or.inl ⟨result, ?_⟩⟩
  rw [hevents, List.append_nil]

/-- A question about the transaction may come first. -/
lemma AsksAndGivesUp.of_inquiry {p : Numbered P} (event : Event P) (h : d.AsksAndGivesUp e)
    (hevent : event.isInquiry ∧ ¬ event.isReport) (hnotice : c.notice = none)
    (hp : c.bound = some p) (hevents : d.engine.events = c.engine.events ++ [event])
    (hnotice' : d.notice = none) (hp' : d.bound = some p) : c.AsksAndGivesUp e := by
  refine ⟨fun _ q hq => ?_, fun hspared => absurd hspared (not_spared hnotice hp), h.bound,
    h.notice⟩
  obtain rfl := Option.some.inj (hp.symm.trans hq)
  obtain ⟨inquiries, hinquiries, hentered⟩ := h.reset hnotice' p hp'
  refine ⟨event :: inquiries, List.forall_mem_cons.mpr ⟨hevent, hinquiries⟩, ?_⟩
  have hsplit : c.engine.events ++ [event] ++ inquiries =
      c.engine.events ++ (event :: inquiries) := List.append_assoc _ _ _
  rwa [hevents, hsplit] at hentered

lemma AsksAndGivesUp.of_abort (h : (c.abort E.journaled).AsksAndGivesUp e) :
    c.AsksAndGivesUp e := by
  rcases Option.eq_none_or_eq_some c.notice with hnotice | ⟨status, hnotice⟩
  · rcases Option.eq_none_or_eq_some c.bound with hp | ⟨p, hp⟩
    · rwa [abort_of_bound hnotice hp] at h
    · rw [abort_of_bound hnotice hp] at h
      exact h.of_inquiry (.called p .abort .done) ⟨rfl, Bool.false_ne_true⟩ hnotice hp rfl hnotice
        hp
  · rwa [abort_of_notice hnotice] at h

lemma AsksAndGivesUp.of_validate (h : (c.validate E.journaled).AsksAndGivesUp e) :
    c.AsksAndGivesUp e := by
  rcases validate_cases E c with ⟨-, heq⟩ | ⟨p, state, hnotice, hp, heq⟩ |
    ⟨p, status, state, hnotice, hp, heq⟩
  · rwa [heq] at h
  · rw [heq] at h
    exact h.of_inquiry (.called p .validate .done) ⟨rfl, Bool.false_ne_true⟩ hnotice hp rfl hnotice
      hp
  · -- the report has left a notice behind, and with it nothing is reset any more
    rw [heq] at h
    have hengine := h.spared (Or.inl (Option.some_ne_none status))
    refine ⟨fun _ q hq => ?_, fun hspared => absurd hspared (not_spared hnotice hp),
      h.bound, h.notice⟩
    obtain rfl := Option.some.inj (hp.symm.trans hq)
    refine ⟨[], fun _ hmem => absurd hmem List.not_mem_nil, Or.inr ⟨status, ?_⟩⟩
    rw [hengine, List.append_nil]
    rfl

end

end Connection

namespace Session

open Connection

section
variable {E : Engine σ P ρ} {s : Session (Journal σ P) (Numbered P) H}

/-- A session that goes on asks after its transaction before a request is performed, and may ask it
to stop. -/
lemma asksAndGivesUp_of_found (hopen : s.isClosed = false)
    (hstays : s.connection.signals.terminated = false) {handler : H} {arrivals : Nat}
    {e : Connection (Journal σ P) (Numbered P) H}
    (h : (s.found E.journaled handler arrivals).connection.GivesUp e) :
    s.connection.AsksAndGivesUp e := by
  have hheeded : (s.heedSignals E.journaled).isClosed = false := by
    unfold isClosed
    rw [← signals_accept handler, signals_accept_of_stays handler hstays]
    exact hopen
  have hvalidated : ((s.heedSignals E.journaled).connection.validate E.journaled).GivesUp e := by
    unfold found at h
    rw [accept_of_open hheeded] at h
    exact ⟨h.reset, h.spared, h.bound, h.notice⟩
  have hheard := hvalidated.asks.of_validate
  rcases heedSignals_cases E.journaled s with ⟨hends, -, -⟩ | ⟨-, -, -, heq⟩ | ⟨-, -, heq⟩
  · exact absurd (hstays.symm.trans hends) Bool.false_ne_true
  · rw [heq] at hheard
    exact hheard.of_abort
  · rwa [heq] at hheard

variable [Sink H] [RecordSource ρ]

/-- A session that was asked to end gives up its processor before a request is performed. -/
lemma givesUp_of_terminated (hopen : s.isClosed = false)
    (hends : s.connection.signals.terminated = true) (request : Request) (handler : H)
    (arrivals : Nat) :
    s.connection.GivesUp (s.serveAmid E.journaled arrivals request handler).session.connection := by
  rw [connection_serveAmid_of_terminated hopen hends]
  exact (givesUp_close E s).congr rfl rfl rfl

omit [RecordSource ρ] in
/-- What is done about a fault does not reach a processor that was given up. -/
lemma givesUp_fail {c d : Connection (Journal σ P) (Numbered P) H} (h : c.GivesUp d)
    (fault : Fault) :
    Meets (fun _ t => c.GivesUp t.connection) (fun _ t => c.GivesUp t.connection)
      (fail E.journaled fault { s with connection := d }) := by
  have htold : c.GivesUp (d.tell (.failed (.ofFault fault))) := h.congr rfl rfl rfl
  unfold fail
  dsimp only
  split
  · exact (htold.release (E := E)).congr rfl rfl rfl
  · exact htold

lemma givesUp_conclude {c : Connection (Journal σ P) (Numbered P) H}
    {t : Session (Journal σ P) (Numbered P) H} (h : c.GivesUp t.connection) (reply : Bool) :
    c.GivesUp (t.conclude reply).2.connection := by
  rw [connection_conclude]
  exact h.congr rfl rfl rfl

lemma givesUp_settle {c : Connection (Journal σ P) (Numbered P) H}
    {r : EStateM.Result Fault (Session (Journal σ P) (Numbered P) H) Unit}
    (h : Meets (fun _ t => c.GivesUp t.connection) (fun _ t => c.GivesUp t.connection) r) :
    c.GivesUp (settle r).session.connection :=
  session_settle h fun reply _ ht => givesUp_conclude ht reply

/-- A session that performs GOODBYE resets its processor. -/
lemma givesUp_goodbye (hopen : s.isClosed = false) :
    s.connection.GivesUp (settle (perform E.journaled .goodbye s)).session.connection := by
  apply givesUp_settle
  rw [perform_of_passes hopen rfl]
  exact givesUp_close E s

/-- A session that performs the last RESET resets its processor. -/
lemma givesUp_reset (hopen : s.isClosed = false)
    (hphase : s.phase ≠ .connected ∧ s.phase ≠ .defunct)
    (hdue : s.connection.signals.interrupts = 1) :
    s.connection.GivesUp (settle (perform E.journaled .reset s)).session.connection := by
  have hanswer := wp_answerReset_givesUp E hdue
  rw [← Phase.answer_of_reset E.journaled s.self hphase] at hanswer
  apply givesUp_settle
  rw [perform_of_passes hopen rfl]
  have hreset : Request.reset ≠ .goodbye := Request.noConfusion
  refine wp_dispatch_of_ne hreset (wp_mono hanswer (fun _ _ h => h) ?_)
  intro fault d h
  exact givesUp_fail h fault

/-- A fault that is returned was raised by the table, and ends the session. -/
lemma givesUp_fatal {request : Request} {fault : Fault}
    (houtcome : (settle (perform E.journaled request s)).outcome = .error fault) :
    ∃ c, s.phase.answer E.journaled s.self request s.connection = .error fault c ∧
      c.GivesUp (settle (perform E.journaled request s)).session.connection := by
  have hperform : wp (perform E.journaled request) (fun _ _ => True) (fun fault t =>
      ∃ c, s.phase.answer E.journaled s.self request s.connection = .error fault c ∧
        c.GivesUp t.connection) s := by
    refine wp_perform trivial fun _ => ?_
    by_cases hgoodbye : request = .goodbye
    · subst hgoodbye
      exact trivial
    refine wp_dispatch_of_ne hgoodbye (Meets.intro (fun _ _ _ => trivial) ?_)
    intro raised c hraised
    unfold fail
    dsimp only
    split
    · -- to report the fault does not touch the processor
      have hclosed := givesUp_close E { s with connection := c.tell (.failed (.ofFault raised)) }
      exact ⟨c, hraised, hclosed.reset, hclosed.spared, hclosed.bound, hclosed.notice⟩
    · exact trivial
  unfold wp at hperform
  generalize perform E.journaled request s = result at hperform houtcome ⊢
  cases result with
  | ok _ t => cases houtcome
  | error raised t =>
    cases houtcome
    obtain ⟨c, hraised, hreleased⟩ := hperform
    exact ⟨c, hraised, givesUp_conclude hreleased true⟩

/-- Whichever way a session is torn down, its processor is given up. -/
structure GivesUp (E : Engine σ P ρ) (s : Session (Journal σ P) (Numbered P) H) : Prop where
  close : s.connection.GivesUp (s.close E.journaled).connection
  goodbye : ∀ handler arrivals, s.connection.AsksAndGivesUp
    (s.serveAmid E.journaled arrivals .goodbye handler).session.connection
  /-- The last RESET that is due. -/
  reset : ∀ handler arrivals, s.connection.signals.interrupts + arrivals = 1 →
    s.connection.AsksAndGivesUp
      (s.serveAmid E.journaled arrivals .reset handler).session.connection
  /-- A fault that is returned is one that the table raised, and the processor is given up that was
  bound then. -/
  fatal : ∀ request handler arrivals fault,
    (s.serveAmid E.journaled arrivals request handler).outcome = .error fault →
    let found := s.found E.journaled handler arrivals
    ∃ c, found.phase.answer E.journaled found.self request found.connection = .error fault c ∧
      c.GivesUp (s.serveAmid E.journaled arrivals request handler).session.connection

/-- A session between HELLO and its end, whatever is bound to it and whether or not a notice is
pending, gives up its processor when it is torn down: the processor is reset once, unless a notice
is pending or it reports that its transaction was torn down. -/
theorem teardown_resets (E : Engine σ P ρ) (s : Session (Journal σ P) (Numbered P) H)
    (hopen : s.isClosed = false) (hphase : s.phase ≠ .connected ∧ s.phase ≠ .defunct) :
    s.GivesUp E := by
  refine ⟨givesUp_close E s, fun handler arrivals => ?_, fun handler arrivals hdue => ?_, ?_⟩
  · cases hends : s.connection.signals.terminated with
    | true => exact (givesUp_of_terminated hopen hends .goodbye handler arrivals).asks
    | false =>
      exact asksAndGivesUp_of_found hopen hends
        (givesUp_goodbye (isOpen_found hopen hends handler arrivals))
  · cases hends : s.connection.signals.terminated with
    | true => exact (givesUp_of_terminated hopen hends .reset handler arrivals).asks
    | false =>
      have hdue' := (interrupts_found (E := E.journaled) hends handler arrivals).trans hdue
      have hphase' := isGreeted_found (E := E.journaled) hends hphase handler arrivals
      exact asksAndGivesUp_of_found hopen hends
        (givesUp_reset (isOpen_found hopen hends handler arrivals) hphase' hdue')
  · intro request handler arrivals fault houtcome
    exact givesUp_fatal houtcome

/-- A session in a transaction, with or without a notice. -/
def transactionFrail (notice : Option Status) :
    Session (Journal (Option Status) Unit) (Numbered Unit) (OrReply (Reply (List Response))) :=
  let s := (start {} { state := none }).after (Engine.frail .transactionTerminated).journaled
    [.request (.hello ∅) .blank 0, .request (.begin ∅) .blank 0]
  { s with connection := { s.connection with notice } }

/-- A session that is closed within a transaction resets the processor, but leaves it with the
transaction open if a notice is pending. -/
theorem teardown_resets_transaction :
    (∃ result, ((transactionFrail none).close
        (Engine.frail .transactionTerminated).journaled).connection.engine.events =
      (transactionFrail none).connection.engine.events ++ [.called ⟨0, ()⟩ .reset result]) ∧
    (transactionFrail (some .transactionTerminated)).connection.bound = some ⟨0, ()⟩ ∧
    ((transactionFrail (some .transactionTerminated)).close
        (Engine.frail .transactionTerminated).journaled).connection.engine =
      (transactionFrail (some .transactionTerminated)).connection.engine := by
  have hgivesUp (notice : Option Status) := teardown_resets (Engine.frail .transactionTerminated)
    (transactionFrail notice) rfl ⟨Phase.noConfusion, Phase.noConfusion⟩
  exact ⟨(hgivesUp none).close.reset rfl ⟨0, ()⟩ rfl, rfl,
    (hgivesUp (some .transactionTerminated)).close.spared (Or.inl (Option.some_ne_none _))⟩

end

end Session

end QuerySession
