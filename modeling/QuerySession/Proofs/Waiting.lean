import QuerySession.Proofs.Containment

/-!
# What waits is reported first

Between two requests nobody listens, and what is reported then is kept: the first failure, and the
word that something was ignored. The next request hears of it instead of being performed, whatever
it asks for, and nothing is kept any longer. Only the RESET that answers the last interrupt has it
forgotten, and is served as if nothing had been reported.

* `Relay.foldl_tell_of_detached`: what is kept of some reports;
* `Session.handler_after`: between two requests nobody listens;
* `Session.IsKeptBack`: how a request fares in whose place something is reported;
* `Session.serveAmid_forget`: what is kept has no part in the last RESET;
* `Session.waiting_reported_first`: the rule.
-/

namespace QuerySession

variable {σ P ρ H : Type}

/-! ## What is kept while nobody listens -/

namespace Report

/-- The failure that a report tells of. -/
def failure? : Report → Option Failure
  | failed failure => some failure
  | metadata .. | ignored | finished => none

/-- The report tells that a request was ignored. -/
def isIgnored : Report → Bool
  | ignored => true
  | metadata .. | failed _ | finished => false

/-- A report that is kept while nobody listens. -/
def isKept (report : Report) : Bool := report.failure?.isSome || report.isIgnored

end Report

namespace Relay

variable [Sink H] {r : Relay H}

/-- While nobody listens the first failure is kept, and the word that something was ignored. -/
lemma tell_of_detached (h : r.handler = none) (report : Report) :
    r.tell report =
      { failure := r.failure.or report.failure?, ignored := r.ignored || report.isIgnored } := by
  obtain ⟨handler, failure, ignored⟩ := r
  obtain rfl : handler = none := h
  cases report with
  | failed other => exact congrArg (Relay.mk none _) (Bool.or_false ignored).symm
  | ignored =>
    show Relay.mk none failure true = Relay.mk none (failure.or none) (ignored || true)
    rw [Option.or_none, Bool.or_true]
  | _ =>
    show Relay.mk none failure ignored = Relay.mk none (failure.or none) (ignored || false)
    rw [Option.or_none, Bool.or_false]

/-- Of several reports the first failure is kept. -/
lemma foldl_tell_of_detached (h : r.handler = none) (reports : List Report) :
    reports.foldl (fun r report => r.tell report) r =
      { failure := r.failure.or (reports.findSome? Report.failure?)
        ignored := r.ignored || reports.any Report.isIgnored } := by
  induction reports generalizing r with
  | nil =>
    obtain ⟨handler, failure, ignored⟩ := r
    obtain rfl : handler = none := h
    show Relay.mk none failure ignored = Relay.mk none (failure.or none) (ignored || false)
    rw [Option.or_none, Bool.or_false]
  | cons report reports ih =>
    have hfirst : (report :: reports).findSome? Report.failure? =
        report.failure?.or (reports.findSome? Report.failure?) := by
      rw [List.findSome?_cons]
      cases report.failure? <;> rfl
    rw [List.foldl_cons, tell_of_detached h, ih rfl, hfirst, List.any_cons]
    dsimp only
    rw [Option.or_assoc, Bool.or_assoc]

/-- A report that is kept leaves something to be reported. -/
lemma not_isSettled_foldl_tell (h : r.handler = none) {reports : List Report}
    (hreports : reports ≠ []) (hkept : ∀ report ∈ reports, report.isKept) :
    ¬ (reports.foldl (fun r report => r.tell report) r).isSettled := by
  rw [foldl_tell_of_detached h, isSettled_iff]
  rintro ⟨hfailure, hignored⟩
  obtain ⟨report, hmem⟩ := List.exists_mem_of_ne_nil reports hreports
  rcases Bool.or_eq_true_iff.mp (hkept report hmem) with hsome | hskipped
  · rw [Option.or_eq_none_iff, List.findSome?_eq_none_iff] at hfailure
    rw [hfailure.2 report hmem] at hsome
    cases hsome
  · rw [Bool.or_eq_false_iff, List.any_eq_false] at hignored
    exact hignored.2 report hmem hskipped

end Relay

/-- An interrupt that has taken effect is due as long as the session shows it. -/
lemma Typestate.FitsAccepted.due [RecordSource ρ] {E : Engine σ P ρ} {T : Typestate E}
    {c : Connection σ P H} (h : T.FitsAccepted .interrupted c) : 0 < c.signals.interrupts := by
  rcases h with hfits | ⟨-, -, hlost⟩
  · exact hfits.2
  · cases hlost

namespace Session

section
variable [Sink H] [RecordSource ρ] {s : Session σ P H}

/-- Reports between two requests do not reach beyond the relay. -/
lemma after_reports (E : Engine σ P ρ) (reports : List Report) (s : Session σ P H) :
    s.after E (reports.map .report) =
      { s with connection := { s.connection with
        relay := reports.foldl (fun r report => r.tell report) s.connection.relay } } := by
  induction reports generalizing s with
  | nil => rfl
  | cons report reports ih =>
    rw [List.map_cons, after_cons, ih]
    rfl

lemma handler_receive (E : Engine σ P ρ) (input : Input H)
    (h : s.connection.relay.handler = none) :
    (s.receive E input).connection.relay.handler = none := by
  cases input with
  | request request handler interrupts =>
    show (settle _).session.connection.relay.handler = none
    rw [relay_settle]
  | interrupt => exact h
  | terminate => exact h
  | close =>
    show (s.close E).connection.relay.handler = none
    rw [relay_close]
    exact h
  | report report =>
    show (s.connection.relay.tell report).handler = none
    rw [Relay.tell_of_detached h]

/-- Between two requests nobody listens. -/
lemma handler_after (E : Engine σ P ρ) (inputs : List (Input H))
    (h : s.connection.relay.handler = none) :
    (s.after E inputs).connection.relay.handler = none :=
  after_induction (motive := fun s => s.connection.relay.handler = none) h
    fun input _ _ => handler_receive E input

end

/-! ## A request that is kept back -/

/-- The one response to a request in whose place something is reported. -/
def responseFor : Option Failure → Response
  | some failure => failure.toResponse
  | none => .ignored

/-- The phase in which a session is left that reports what waited: an interrupt comes first, and
a failure fails the session. -/
def phaseReporting (waiting : Option Failure) (s : Session σ P H) : Phase :=
  if 0 < s.connection.signals.interrupts ∧ s.phase ≠ .connected then .interrupted
  else if waiting.isSome then .failed
  else s.phase

/-- A request was not performed, and what waited was reported in its place. The bound processor was
asked to stop at most, and after its transaction. -/
structure IsKeptBack (waiting : Option Failure) (s : Session (Journal σ P) (Numbered P) (OrReply H))
    (served : Served (Journal σ P) (Numbered P) (OrReply H)) : Prop where
  outcome : served.outcome = .ok ()
  answered : served.answered = some [responseFor waiting]
  phase : served.session.phase = s.phaseReporting waiting
  settled : served.session.connection.relay = {}
  calls : Connection.Enters Event.isInquiry s.connection served.session.connection

section
variable [Sink H] [RecordSource ρ] {E : Engine σ P ρ}

/-- A reply in whose place something is reported is told nothing else. -/
lemma answered_of_kept {s : Session σ P (OrReply H)} (hopen : s.isClosed = false)
    {waiting : Option Failure} {skipped : Bool}
    (hrelay : s.connection.relay =
      { handler := some .blank, failure := waiting, ignored := skipped })
    (hwaits : waiting ≠ none ∨ skipped = true) :
    (settle (.ok () s)).answered = some [responseFor waiting] := by
  have hconclude : (settle (.ok () s)).handler = (s.conclude true).1 := by
    show (s.conclude !s.isClosed).1 = _
    rw [hopen]
    rfl
  have hhandler : s.connection.relay.handler = some (.inr { output := [] }) := by
    rw [hrelay]
    rfl
  unfold Served.answered
  rw [hconclude, conclude_of_reply hhandler, conclusion_of_answered, hrelay]
  cases waiting with
  | some failure => cases skipped <;> rfl
  | none =>
    obtain rfl := hwaits.resolve_left (absurd rfl)
    rfl

/-- What waits is reported in the place of any request but RESET and GOODBYE. -/
lemma isKeptBack_serveAmid {s : Session (Journal σ P) (Numbered P) (OrReply H)}
    (hopen : s.isClosed = false) (hstays : s.connection.signals.terminated = false)
    (hdefunct : s.phase ≠ .defunct)
    (hdue : s.phase = .interrupted → 0 < s.connection.signals.interrupts)
    (hwaits : ¬ s.connection.relay.isSettled) {request : Request} (hreset : request ≠ .reset)
    (hgoodbye : request ≠ .goodbye) (arrivals : Nat) :
    IsKeptBack s.connection.relay.failure s
      (s.serveAmid E.journaled arrivals request .blank) := by
  have hrelay : (s.found E.journaled .blank arrivals).connection.relay =
      { s.connection.relay with handler := some .blank } :=
    relay_accept E.journaled (OrReply.blank : OrReply H) s
  have hfound := isOpen_found (E := E.journaled) hopen hstays (OrReply.blank : OrReply H) arrivals
  have hkept : ¬ (s.found E.journaled .blank arrivals).passes request := by
    have hstill : ¬ (s.found E.journaled .blank arrivals).connection.relay.isSettled := by
      rw [hrelay]
      exact hwaits
    rw [passes_of_unsettled hstill, not_or]
    exact ⟨hreset, hgoodbye⟩
  have hphase : (s.found E.journaled .blank arrivals).phase = _ :=
    phase_heedSignals_of_stays E.journaled hstays hdefunct
  have hcalls := enters_found (E := E) (Or.inl hstays) (OrReply.blank : OrReply H) arrivals
  have hserved : s.serveAmid E.journaled arrivals request .blank =
      settle (.ok () (s.found E.journaled .blank arrivals)) :=
    congrArg settle (perform_of_kept hkept)
  rw [hserved]
  refine ⟨rfl, ?_, ?_, relay_settle _, ?_⟩
  · refine answered_of_kept hfound hrelay ?_
    rwa [Relay.isSettled_iff, not_and_or, Bool.not_eq_false] at hwaits
  · rw [phase_settle_ok, hrelay, hphase]
    unfold phaseReporting
    by_cases hinterrupted : 0 < s.connection.signals.interrupts ∧ s.phase ≠ .connected
    · rw [if_pos hinterrupted, if_pos hinterrupted]
      exact ite_self Phase.interrupted
    · rw [if_neg hinterrupted, if_neg hinterrupted]
      -- without an interrupt the session does not wait for its RESET
      have hfails : phaseAfterFailure s.phase = .failed := by
        cases hp : s.phase with
        | interrupted => exact absurd ⟨hdue hp, by rw [hp]; exact Phase.noConfusion⟩ hinterrupted
        | defunct => exact absurd hp hdefunct
        | _ => rfl
      rw [hfails]
  · rw [connection_settle_ok]
    exact hcalls

end

/-! ## The last RESET -/

/-- The session with nothing waiting to be reported. -/
def forget (s : Session σ P H) : Session σ P H := { s with connection := s.connection.forget }

section
variable {E : Engine σ P ρ} {s : Session σ P H}

lemma abort_forget (c : Connection σ P H) : c.forget.abort E = (c.abort E).forget := by
  rcases Option.eq_none_or_eq_some c.notice with hnotice | ⟨status, hnotice⟩
  · rw [Connection.abort_of_bound (c := c) hnotice rfl,
      Connection.abort_of_bound (c := c.forget) hnotice rfl]
    rfl
  · rw [Connection.abort_of_notice (c := c) hnotice,
      Connection.abort_of_notice (c := c.forget) hnotice]

lemma validate_forget (c : Connection σ P H) : c.forget.validate E = (c.validate E).forget := by
  rcases Option.eq_none_or_eq_some c.notice with hnotice | ⟨status, hnotice⟩
  · rw [Connection.validate_of_bound (c := c) hnotice rfl,
      Connection.validate_of_bound (c := c.forget) hnotice rfl]
    have hbinding : c.forget.bound = c.bound ∧ c.forget.engine = c.engine := ⟨rfl, rfl⟩
    rw [hbinding.1, hbinding.2]
    split <;> rfl
  · rw [Connection.validate_of_notice (c := c) hnotice,
      Connection.validate_of_notice (c := c.forget) hnotice]

/-- What waits has no part in how an interrupt takes effect. -/
lemma accept_forget (hstays : s.connection.signals.terminated = false) (handler : H) :
    s.forget.accept E handler = (s.accept E handler).forget := by
  have hheed : s.forget.heedSignals E = (s.heedSignals E).forget := by
    have hkept : s.forget.connection.signals = s.connection.signals ∧
        s.forget.phase = s.phase := ⟨rfl, rfl⟩
    unfold heedSignals
    rw [hkept.1, hkept.2, hstays, if_neg Bool.false_ne_true, if_neg Bool.false_ne_true]
    split
    · show (⟨s.self, s.connection.forget.abort E, .interrupted⟩ : Session σ P H) = _
      rw [abort_forget]
      rfl
    · rfl
  have hclosed : (s.heedSignals E).forget.isClosed = (s.heedSignals E).isClosed := rfl
  unfold accept
  rw [hheed]
  dsimp only
  rw [hclosed]
  split
  · rfl
  · have hvalidate : (s.heedSignals E).forget.connection.validate E =
        ((s.heedSignals E).connection.validate E).forget := validate_forget _
    rw [hvalidate]
    rfl

variable [Sink H]

/-- The last RESET forgets what waits by itself. -/
lemma answerReset_forget {c : Connection σ P H} (hdue : c.signals.interrupts = 1) :
    Phase.answerReset E c.forget = Phase.answerReset E c := by
  obtain ⟨relay, bound, notice, ⟨interrupts, terminated, closed⟩, engine⟩ := c
  obtain rfl : interrupts = 1 := hdue
  rfl

variable [RecordSource ρ]

/-- What waits has no part in the last RESET. -/
theorem serveAmid_forget (hopen : s.isClosed = false)
    (hstays : s.connection.signals.terminated = false)
    (hgreeted : s.phase ≠ .connected ∧ s.phase ≠ .defunct) {arrivals : Nat}
    (hlast : s.connection.signals.interrupts + arrivals = 1) (handler : H) :
    s.forget.serveAmid E arrivals .reset handler = s.serveAmid E arrivals .reset handler := by
  have hfound : s.forget.found E handler arrivals = (s.found E handler arrivals).forget :=
    congrArg (signal (Signals.interruptBy arrivals)) (accept_forget hstays handler)
  have hopen' := isOpen_found (E := E) hopen hstays handler arrivals
  have hdue := (interrupts_found (E := E) hstays handler arrivals).trans hlast
  have hphase := isGreeted_found (E := E) hstays hgreeted handler arrivals
  show settle (perform E .reset (s.forget.found E handler arrivals)) =
    settle (perform E .reset (s.found E handler arrivals))
  rw [hfound]
  generalize s.found E handler arrivals = found at hopen' hdue hphase
  have hforgotten : perform E .reset found.forget = _ :=
    perform_reset (s := found.forget) hphase hopen'
  have hanswer : Phase.answerReset E found.forget.connection = _ := answerReset_forget hdue
  rw [perform_reset hphase hopen', hforgotten, hanswer]
  rfl

end

/-! ## The rule -/

section
variable [Sink H] [RecordSource ρ] {E : Engine σ P ρ}

/-- Between two requests some failures are reported, or requests that were ignored. Unless it is
RESET or GOODBYE, the next request is not performed, whatever it asks for: no processor is provided,
and the bound one is only asked to stop and after its transaction. Its one response is the first
failure that was reported, or that it was ignored if there was none. A failure fails the session,
unless an interrupt takes effect, and then nothing is kept any longer. The RESET that answers the
last interrupt is served as if nothing had been reported. -/
theorem waiting_reported_first (E : Engine σ P ρ) (self : Identity) (engine : σ)
    (inputs : List (Input (OrReply H))) {s t : Session (Journal σ P) (Numbered P) (OrReply H)}
    (hreached : s = (start self { state := engine }).after E.journaled inputs)
    (hopen : s.isClosed = false) (hstays : s.connection.signals.terminated = false)
    {marks : List Report} (hmarks : marks ≠ []) (hkept : ∀ mark ∈ marks, mark.isKept)
    (hmarked : t = s.after E.journaled (marks.map .report)) :
    (∀ request, request ≠ .reset → request ≠ .goodbye → ∀ arrivals,
      IsKeptBack (s.connection.relay.failure.or (marks.findSome? Report.failure?)) t
        (t.serveAmid E.journaled arrivals request .blank)) ∧
    (t.phase ≠ .connected → ∀ arrivals, t.connection.signals.interrupts + arrivals = 1 →
      ∀ handler, (t.serveAmid E.journaled arrivals .reset handler).session.connection.relay = {} ∧
        t.serveAmid E.journaled arrivals .reset handler =
          s.forget.serveAmid E.journaled arrivals .reset handler) := by
  have hdetached : s.connection.relay.handler = none := by
    rw [hreached]
    exact handler_after E.journaled inputs rfl
  rw [after_reports, Relay.foldl_tell_of_detached hdetached] at hmarked
  have hopen' : t.isClosed = false := by
    rw [hmarked]
    exact hopen
  have hstays' : t.connection.signals.terminated = false := by
    rw [hmarked]
    exact hstays
  have hdefunct : t.phase ≠ .defunct := by
    have hend : s.EndShown := by
      rw [hreached]
      exact endShown_after inputs ⟨nofun, nofun⟩
    rw [hmarked]
    exact fun hdefunct => absurd (hopen.symm.trans (hend.mp hdefunct)) Bool.false_ne_true
  constructor
  · intro request hreset hgoodbye arrivals
    have hdue : t.phase = .interrupted → 0 < t.connection.signals.interrupts := by
      have hfits : (Typestate.bare E.journaled).FitsAccepted s.phase s.connection := by
        rw [hreached]
        exact Typestate.fitsAccepted_after (T := Typestate.bare E.journaled) inputs
          (Or.inl ⟨⟨rfl, trivial⟩, rfl⟩)
      rw [hmarked]
      intro hphase
      rw [show s.phase = .interrupted from hphase] at hfits
      exact hfits.due
    have hwaits : ¬ t.connection.relay.isSettled := by
      rw [hmarked, ← Relay.foldl_tell_of_detached hdetached]
      exact Relay.not_isSettled_foldl_tell hdetached hmarks hkept
    have hwaiting : t.connection.relay.failure =
        s.connection.relay.failure.or (marks.findSome? Report.failure?) := by
      rw [hmarked]
    rw [← hwaiting]
    exact isKeptBack_serveAmid hopen' hstays' hdefunct hdue hwaits hreset hgoodbye arrivals
  · intro hgreeted arrivals hlast handler
    have hsame : t.forget = s.forget := by
      rw [hmarked]
      unfold forget Connection.forget Relay.forget
      dsimp only
      rw [hdetached]
    rw [← hsame]
    exact ⟨relay_settle _,
      (serveAmid_forget hopen' hstays' ⟨hgreeted, hdefunct⟩ hlast handler).symm⟩

/-- A session in whose transaction a statement has rows left. -/
def midwayFrail : Session (Journal (Option Status) Unit) (Numbered Unit)
    (OrReply (Reply (List Response))) :=
  (start {} { state := none }).after (Engine.frail .transactionTerminated).journaled
    [.request (.hello ∅) .blank 0, .request (.begin ∅) .blank 0,
      .request (.run { query := "" }) .blank 0]

/-- Something was ignored and two failures were reported, and nobody listened. -/
def markedFrail : Session (Journal (Option Status) Unit) (Numbered Unit)
    (OrReply (Reply (List Response))) :=
  midwayFrail.after (Engine.frail .transactionTerminated).journaled
    ([.ignored, .failed (.ofFault .connectionClosed), .failed (.ofFault .noProcessor)].map
      .report)

/-- The second failure is not heard of, and the batch is not streamed. -/
theorem waiting_reported_first_midway :
    (markedFrail.serveAmid (Engine.frail .transactionTerminated).journaled 0 (.stream .pull {})
        .blank).answered = some [(Failure.ofFault .connectionClosed).toResponse] ∧
      (markedFrail.serveAmid (Engine.frail .transactionTerminated).journaled 0 (.stream .pull {})
        .blank).session.phase = .failed ∧
      markedFrail.serveAmid (Engine.frail .transactionTerminated).journaled 1 .reset .blank =
        midwayFrail.forget.serveAmid (Engine.frail .transactionTerminated).journaled 1 .reset
          .blank := by
  obtain ⟨hnext, hreset⟩ := waiting_reported_first (Engine.frail .transactionTerminated) {} none _
    (s := midwayFrail) (t := markedFrail) rfl (by decide +kernel) (by decide +kernel)
    (List.cons_ne_nil _ _) (by decide +kernel) rfl
  have hbatch := hnext (.stream .pull {}) Request.noConfusion Request.noConfusion 0
  refine ⟨hbatch.answered, ?_, (hreset (by decide +kernel) 1 (by decide +kernel) .blank).2⟩
  rw [hbatch.phase]
  decide +kernel

end

end Session
end QuerySession
