import QuerySession.Proofs.Waiting

/-!
# The end goes before everything else

A session that has ended drops whatever it receives, and one that was asked to end does so at the
next request, whatever else is due or waits to be reported. Others may mark a session as ended
while it is in any phase; it is only `defunct` once it has given up its processor.

* `Session.meet`, `Session.afterAll`: runs in which others may mark the session as ended;
* `Session.IsUnanswered`, `Session.IsDropped`, `Session.IsTheLast`: how a request fares then;
* `Session.isClosed_afterAll`: the end is never taken back;
* `Connection.GivesUp`: how a processor is given up;
* `Session.isOver_afterAll`: in the phase `defunct` nothing is left to be given up;
* `Session.end_dominates`: the rule.
-/

namespace QuerySession

variable {σ P ρ H K : Type}

/-! ## What the end gives up -/

namespace Connection

/-- A connection gives up its processor and becomes another one. The processor is reset once. With a
notice pending it is left without being called. -/
structure GivesUp (c : Connection (Journal σ P) (Numbered P) H)
    (d : Connection (Journal σ P) (Numbered P) K) : Prop where
  reset : c.notice = none → ∀ p, c.bound = some p →
    ∃ result, d.engine.events = c.engine.events ++ [.called p .reset result]
  spared : c.notice ≠ none ∨ c.bound = none → d.engine = c.engine
  bound : d.bound = none
  notice : d.notice = none

/-- The relay and the signals have no part in it. -/
lemma GivesUp.congr {L : Type} {c : Connection (Journal σ P) (Numbered P) H}
    {d : Connection (Journal σ P) (Numbered P) K} {e : Connection (Journal σ P) (Numbered P) L}
    (h : c.GivesUp d) (hengine : e.engine = d.engine) (hbound : e.bound = d.bound)
    (hnotice : e.notice = d.notice) : c.GivesUp e := by
  refine ⟨?_, ?_, hbound.trans h.bound, hnotice.trans h.notice⟩
  · rw [hengine]
    exact h.reset
  · rw [hengine]
    exact h.spared

/-- The end resets the bound processor. -/
lemma givesUp_release (E : Engine σ P ρ) (c : Connection (Journal σ P) (Numbered P) H) :
    c.GivesUp (c.release E.journaled) := by
  refine ⟨fun hnotice p hp => ?_, fun hspared => ?_, ?_, (release_cases E c).1⟩
  · exact events_release hnotice hp
  · rcases hspared with hpending | hidle
    · obtain ⟨status, hnotice⟩ := Option.ne_none_iff_exists'.mp hpending
      rw [release_of_notice hnotice]
    · exact engine_release_of_idle hidle
  · rcases Option.eq_none_or_eq_some c.notice with hnotice | ⟨status, hnotice⟩
    · rw [release_of_bound hnotice rfl]
    · rw [release_of_notice hnotice]

end Connection

/-- A session that is closed gives up its processor. -/
lemma Session.givesUp_close (E : Engine σ P ρ) (s : Session (Journal σ P) (Numbered P) H) :
    s.connection.GivesUp (s.close E.journaled).connection :=
  (Connection.givesUp_release E s.connection).congr rfl rfl rfl

/-! ## Runs in which others may end the session -/

/-- What can happen to a session whose signals are shared. -/
inductive Occurrence (H : Type) where
  | input (input : Input H)
  /-- The session is marked as ended, and does nothing itself. -/
  | shut

namespace Session

section
variable [Sink H] [RecordSource ρ]

/-- Lets something happen to a session. -/
def meet (E : Engine σ P ρ) (s : Session σ P H) : Occurrence H → Session σ P H
  | .input input => s.receive E input
  | .shut => s.signal Signals.close

/-- Lets several things happen in turn. -/
def afterAll (E : Engine σ P ρ) (occurrences : List (Occurrence H)) (s : Session σ P H) :
    Session σ P H := occurrences.foldl (meet E) s

/-- What nothing that happens can spoil holds after a run. -/
lemma afterAll_induction {E : Engine σ P ρ} {motive : Session σ P H → Prop}
    (step : ∀ occurrence s, motive s → motive (s.meet E occurrence))
    (occurrences : List (Occurrence H)) {s : Session σ P H} (start : motive s) :
    motive (s.afterAll E occurrences) := by
  induction occurrences generalizing s with
  | nil => exact start
  | cons occurrence occurrences ih => exact ih (step occurrence s start)

end

/-! ## A request that finds the end -/

/-- A request was not answered. Its handler was told what waited to be reported at most, but not
that this was all, and was detached; so a reply says nothing. -/
structure IsUnanswered [Sink H] (handler : OrReply H) (served : Served σ P (OrReply H)) : Prop where
  outcome : served.outcome = .ok ()
  told : ∃ reports : List Report, .finished ∉ reports ∧ served.handler =
    some (reports.foldl (fun handler report => Sink.tell report handler) handler)
  silent : handler = .blank → served.answered = some []
  detached : served.session.connection.relay = {}
  closed : served.session.isClosed = true

/-- A request found the session ended, and was dropped. The bound processor was asked to stop at
most. -/
structure IsDropped [Sink H] (handler : OrReply H)
    (s : Session (Journal σ P) (Numbered P) (OrReply H))
    (served : Served (Journal σ P) (Numbered P) (OrReply H)) : Prop
    extends IsUnanswered handler served where
  calls : Connection.Enters Event.isInquiry s.connection served.session.connection

/-- A request found a session that was asked to end, and ended it. Nothing is left, and nothing was
called but the bound processor, which was reset once, unless a notice was pending. -/
structure IsTheLast [Sink H] (handler : OrReply H)
    (s : Session (Journal σ P) (Numbered P) (OrReply H))
    (served : Served (Journal σ P) (Numbered P) (OrReply H)) : Prop
    extends IsUnanswered handler served where
  phase : served.session.phase = .defunct
  bound : served.session.connection.bound = none
  notice : served.session.connection.notice = none
  reset : ∀ p, s.connection.notice = none → s.connection.bound = some p →
    ∃ result, served.session.connection.engine.events =
      s.connection.engine.events ++ [.called p .reset result]
  spared : s.connection.notice ≠ none ∨ s.connection.bound = none →
    served.session.connection.engine = s.connection.engine

lemma heedSignals_of_terminated {E : Engine σ P ρ} {s : Session σ P H} (hopen : s.isClosed = false)
    (hends : s.connection.signals.terminated = true) : s.heedSignals E = s.close E := by
  unfold heedSignals
  rw [if_pos hends, if_neg (Bool.eq_false_iff.mp hopen)]

/-- A request that finds the session ended is not performed. -/
lemma serveAmid_of_closed [Sink H] [RecordSource ρ] {E : Engine σ P ρ} {s : Session σ P H}
    (hends : s.isClosed = true ∨ s.connection.signals.terminated = true) (request : Request)
    (handler : H) (arrivals : Nat) :
    s.serveAmid E arrivals request handler = settle (.ok () (s.found E handler arrivals)) :=
  congrArg settle (perform_of_closed request (isClosed_found hends handler arrivals))

/-- A session that was asked to end is closed before the request, and left so. -/
lemma connection_serveAmid_of_terminated [Sink H] [RecordSource ρ] {E : Engine σ P ρ}
    {s : Session σ P H} (hopen : s.isClosed = false)
    (hends : s.connection.signals.terminated = true) (request : Request) (handler : H)
    (arrivals : Nat) :
    (s.serveAmid E arrivals request handler).session.connection =
      { ((s.close E).signal (Signals.interruptBy arrivals)).connection with relay := {} } := by
  have hheed := heedSignals_of_terminated (E := E) hopen hends
  have hclosed : (s.heedSignals E).isClosed = true := by
    rw [hheed]
    rfl
  rw [serveAmid_of_closed (Or.inr hends), connection_settle_ok]
  unfold found
  rw [accept_of_closed hclosed, hheed]
  rfl

section
variable [Sink H] [RecordSource ρ] {E : Engine σ P ρ} {s : Session σ P (OrReply H)}

lemma isUnanswered_serveAmid (hends : s.isClosed = true ∨ s.connection.signals.terminated = true)
    (request : Request) (handler : OrReply H) (arrivals : Nat) :
    IsUnanswered handler (s.serveAmid E arrivals request handler) := by
  have hclosed := isClosed_found (E := E) hends handler arrivals
  have hrelay : (s.found E handler arrivals).connection.relay =
      { s.connection.relay with handler := some handler } := relay_accept E handler s
  rw [serveAmid_of_closed hends]
  refine ⟨rfl, ⟨pending s.connection.relay.failure s.connection.relay.ignored,
    finished_not_mem_pending _ _, ?_⟩, ?_, relay_settle _, ?_⟩
  · have hconclude : (settle (.ok () (s.found E handler arrivals))).handler =
        ((s.found E handler arrivals).conclude false).1 := by
      show ((s.found E handler arrivals).conclude !(s.found E handler arrivals).isClosed).1 = _
      rw [hclosed]
      rfl
    rw [hconclude, handler_conclude, conclusion_of_silent, hrelay]
    rfl
  · rintro rfl
    exact answered_of_closed hclosed (by rw [hrelay])
  · unfold isClosed
    rw [connection_settle_ok]
    exact hclosed

end

/-! ## The end is never taken back -/

section
variable [Sink H] [RecordSource ρ] {E : Engine σ P ρ} {s : Session σ P (OrReply H)}

lemma isClosed_meet (occurrence : Occurrence (OrReply H)) (hclosed : s.isClosed = true) :
    (s.meet E occurrence).isClosed = true := by
  cases occurrence with
  | shut => rfl
  | input input =>
    cases input with
    | request request handler arrivals =>
      exact (isUnanswered_serveAmid (Or.inl hclosed) request handler arrivals).closed
    | interrupt => exact hclosed
    | terminate => exact hclosed
    | close => rfl
    | report report => exact hclosed

/-- A session that has ended stays so, whatever happens to it. -/
theorem isClosed_afterAll (occurrences : List (Occurrence (OrReply H)))
    (hclosed : s.isClosed = true) : (s.afterAll E occurrences).isClosed = true :=
  afterAll_induction (motive := fun s => s.isClosed = true)
    (fun occurrence _ => isClosed_meet occurrence) occurrences hclosed

end

/-! ## Nothing is left in the phase `defunct` -/

/-- The session has given up its processor. -/
structure IsOver (s : Session σ P H) : Prop where
  bound : s.connection.bound = none
  notice : s.connection.notice = none
  phase : s.phase = .defunct
  closed : s.isClosed = true

section
variable {E : Engine σ P ρ} {s : Session σ P H}

lemma IsOver.isIdle (h : s.IsOver) : s.connection.IsIdle s.connection.engine :=
  ⟨h.bound, h.notice, rfl⟩

lemma notice_close : (s.close E).connection.notice = none := by
  show (s.connection.release E).notice = none
  rcases Option.eq_none_or_eq_some s.connection.notice with hnotice | ⟨status, hnotice⟩
  · rw [release_of_bound hnotice rfl]
    exact hnotice
  · rw [release_of_notice hnotice]

lemma isOver_close : (s.close E).IsOver := ⟨bound_close s, notice_close, rfl, rfl⟩

lemma IsOver.heedSignals (h : s.IsOver) : s.heedSignals E = s := by
  rcases heedSignals_cases E s with ⟨-, hopen, -⟩ | ⟨-, -, hcounts, -⟩ | ⟨-, -, heq⟩
  · exact absurd (hopen.symm.trans h.closed) Bool.false_ne_true
  · rw [h.phase] at hcounts
    cases hcounts
  · exact heq

/-- A request finds nothing else than what was left. -/
lemma IsOver.found (h : s.IsOver) (handler : H) (arrivals : Nat) :
    (s.found E handler arrivals).IsOver ∧
      (s.found E handler arrivals).connection.engine = s.connection.engine := by
  have hclosed : (s.heedSignals E).isClosed = true := by
    rw [h.heedSignals]
    exact h.closed
  unfold Session.found
  rw [accept_of_closed hclosed, h.heedSignals]
  exact ⟨⟨h.bound, h.notice, h.phase, h.closed⟩, rfl⟩

variable [Sink H] [RecordSource ρ]

/-- What happens to a session that has given up its processor reaches no processor. -/
lemma IsOver.meet (h : s.IsOver) (occurrence : Occurrence H) :
    (s.meet E occurrence).IsOver ∧
      (s.meet E occurrence).connection.engine = s.connection.engine := by
  cases occurrence with
  | shut => exact ⟨⟨h.bound, h.notice, h.phase, rfl⟩, rfl⟩
  | input input =>
    cases input with
    | request request handler arrivals =>
      obtain ⟨hfound, hengine⟩ := h.found (E := E) handler arrivals
      show (s.serveAmid E arrivals request handler).session.IsOver ∧
        (s.serveAmid E arrivals request handler).session.connection.engine = _
      rw [serveAmid_of_closed (Or.inl h.closed)]
      have hconnection := connection_settle_ok (s.found E handler arrivals)
      have hphase := phase_settle_ok (s.found E handler arrivals)
      rw [hfound.phase] at hphase
      refine ⟨⟨?_, ?_, hphase.trans (ite_self Phase.defunct), ?_⟩, ?_⟩
      · rw [hconnection]
        exact hfound.bound
      · rw [hconnection]
        exact hfound.notice
      · unfold isClosed
        rw [hconnection]
        exact hfound.closed
      · rw [hconnection]
        exact hengine
    | interrupt => exact ⟨⟨h.bound, h.notice, h.phase, h.closed⟩, rfl⟩
    | terminate => exact ⟨⟨h.bound, h.notice, h.phase, h.closed⟩, rfl⟩
    | close => exact ⟨isOver_close, h.isIdle.release.engine_eq⟩
    | report report => exact ⟨⟨h.bound, h.notice, h.phase, h.closed⟩, rfl⟩

/-- Whatever happens to it, a session that has given up its processor reaches none any more. -/
theorem isOver_afterAll (h : s.IsOver) (occurrences : List (Occurrence H)) :
    (s.afterAll E occurrences).IsOver ∧
      (s.afterAll E occurrences).connection.engine = s.connection.engine := by
  refine afterAll_induction
    (motive := fun t => t.IsOver ∧ t.connection.engine = s.connection.engine) ?_ occurrences
    ⟨h, rfl⟩
  rintro occurrence t ⟨hover, hengine⟩
  obtain ⟨hover, hsame⟩ := hover.meet (E := E) occurrence
  exact ⟨hover, hsame.trans hengine⟩

end

/-- The phase `defunct` shows that the session has given up its processor. -/
def DefunctIsOver (s : Session σ P H) : Prop := s.phase = .defunct → s.IsOver

section
variable {E : Engine σ P ρ} {s : Session σ P H}

lemma defunctIsOver_found (h : s.DefunctIsOver) (handler : H) (arrivals : Nat) :
    (s.found E handler arrivals).DefunctIsOver := by
  intro hdefunct
  have hheed : (s.heedSignals E).phase = .defunct := hdefunct
  rcases heedSignals_cases E s with ⟨-, -, heq⟩ | ⟨-, -, -, heq⟩ | ⟨-, -, heq⟩
  · have hclosed : (s.heedSignals E).isClosed = true := by
      rw [heq]
      rfl
    have hover : (s.close E).IsOver := isOver_close
    unfold found
    rw [accept_of_closed hclosed, heq]
    exact ⟨hover.bound, hover.notice, hover.phase, hover.closed⟩
  · rw [heq] at hheed
    cases hheed
  · rw [heq] at hheed
    exact ((h hheed).found handler arrivals).1

variable [Sink H] [RecordSource ρ]

lemma defunctIsOver_perform (request : Request) (h : s.DefunctIsOver) :
    wp (perform E request) (fun _ => DefunctIsOver) (fun _ => DefunctIsOver) s := by
  refine wp_perform h fun hopen => wp_dispatch (fun _ => isOver_close) ?_
  have hphase : s.phase ≠ .defunct := fun hdefunct =>
    absurd (hopen.symm.trans (h hdefunct).closed) Bool.false_ne_true
  -- no answer leads to the phase, so only a fatal fault does
  refine wp_mono (flags_answer s.self hphase request s.connection) ?_ ?_
  · intro next c hafter hdefunct
    exact absurd hdefunct hafter.1
  · intro fault c _
    unfold fail
    dsimp only
    split
    · exact fun _ => isOver_close
    · exact nofun

lemma defunctIsOver_conclude (reply : Bool) (h : s.DefunctIsOver) :
    (s.conclude reply).2.DefunctIsOver := by
  have hphase : (s.conclude reply).2.phase = .defunct → s.phase = .defunct := by
    rw [phase_conclude]
    split
    · cases s.phase <;> first | exact id | exact nofun
    · exact id
  have hconnection := connection_conclude reply s
  intro hdefunct
  have hover := h (hphase hdefunct)
  refine ⟨?_, ?_, hdefunct, ?_⟩
  · rw [hconnection]
    exact hover.bound
  · rw [hconnection]
    exact hover.notice
  · unfold isClosed
    rw [hconnection]
    exact hover.closed

lemma defunctIsOver_meet (occurrence : Occurrence H) (h : s.DefunctIsOver) :
    (s.meet E occurrence).DefunctIsOver := by
  cases occurrence with
  | shut => exact fun hphase => ((h hphase).meet (E := E) .shut).1
  | input input =>
    cases input with
    | request request handler arrivals =>
      have hfound := defunctIsOver_found (E := E) h handler arrivals
      exact session_settle (defunctIsOver_perform request hfound) fun reply _ =>
        defunctIsOver_conclude reply
    | interrupt => exact fun hphase => ((h hphase).meet (E := E) (.input .interrupt)).1
    | terminate => exact fun hphase => ((h hphase).meet (E := E) (.input .terminate)).1
    | close => exact fun _ => isOver_close
    | report report => exact fun hphase => ((h hphase).meet (E := E) (.input (.report report))).1

/-- However a session came to be defunct, it has given up its processor. -/
theorem defunctIsOver_afterAll (h : s.DefunctIsOver) (occurrences : List (Occurrence H)) :
    (s.afterAll E occurrences).DefunctIsOver :=
  afterAll_induction (fun occurrence _ => defunctIsOver_meet occurrence) occurrences h

end

/-! ## The rule -/

section
variable [Sink H] [RecordSource ρ] {E : Engine σ P ρ}
  {s : Session (Journal σ P) (Numbered P) (OrReply H)}

lemma isDropped_serveAmid (hclosed : s.isClosed = true) (request : Request) (handler : OrReply H)
    (arrivals : Nat) : IsDropped handler s (s.serveAmid E.journaled arrivals request handler) := by
  refine ⟨isUnanswered_serveAmid (Or.inl hclosed) request handler arrivals, ?_⟩
  have hcalls := enters_found (E := E) (Or.inr hclosed) handler arrivals
  rw [serveAmid_of_closed (Or.inl hclosed), connection_settle_ok]
  exact hcalls

lemma isTheLast_serveAmid (hopen : s.isClosed = false)
    (hends : s.connection.signals.terminated = true) (request : Request) (handler : OrReply H)
    (arrivals : Nat) : IsTheLast handler s (s.serveAmid E.journaled arrivals request handler) := by
  have hheed := heedSignals_of_terminated (E := E.journaled) hopen hends
  have hserved := serveAmid_of_closed (E := E.journaled) (Or.inr hends) request handler arrivals
  have hconnection :=
    connection_serveAmid_of_terminated (E := E.journaled) hopen hends request handler arrivals
  have hgivesUp := givesUp_close E s
  refine ⟨isUnanswered_serveAmid (Or.inr hends) request handler arrivals, ?_, ?_, ?_, ?_, ?_⟩
  · rw [hserved, phase_settle_ok]
    have hphase : (s.found E.journaled handler arrivals).phase = .defunct :=
      congrArg Session.phase hheed
    rw [hphase]
    exact ite_self Phase.defunct
  · rw [hconnection]
    exact hgivesUp.bound
  · rw [hconnection]
    exact hgivesUp.notice
  · intro p hnotice hp
    rw [hconnection]
    exact hgivesUp.reset hnotice p hp
  · intro hspared
    rw [hconnection]
    exact hgivesUp.spared hspared

/-- A session that has ended, whoever ended it, stays so: it takes no request any more, and drops
each that comes. A session that was asked to end does so at the next request, whichever that is and
whatever else is due: it gives up its processor and says nothing. The phase `defunct` is not left
again, and no processor is called in it. -/
theorem end_dominates (E : Engine σ P ρ) (self : Identity) (engine : σ)
    (occurrences : List (Occurrence (OrReply H)))
    (hreached : s = (start self { state := engine }).afterAll E.journaled occurrences) :
    (s.isClosed = true → ∀ more, (s.afterAll E.journaled more).isClosed = true ∧
      (s.afterAll E.journaled more).connection.canProceed = false ∧
      ∀ request handler arrivals, IsDropped handler (s.afterAll E.journaled more)
        ((s.afterAll E.journaled more).serveAmid E.journaled arrivals request handler)) ∧
    (s.isClosed = false → s.connection.signals.terminated = true →
      ∀ request handler arrivals, IsTheLast handler s
        (s.serveAmid E.journaled arrivals request handler)) ∧
    (s.phase = .defunct → ∀ more, (s.afterAll E.journaled more).phase = .defunct ∧
      (s.afterAll E.journaled more).connection.engine = s.connection.engine) := by
  refine ⟨fun hclosed more => ?_, isTheLast_serveAmid, fun hdefunct more => ?_⟩
  · have hstill := isClosed_afterAll (E := E.journaled) more hclosed
    have hproceed : (s.afterAll E.journaled more).connection.canProceed = false := by
      unfold isClosed at hstill
      unfold Connection.canProceed
      rw [hstill]
      rfl
    exact ⟨hstill, hproceed, isDropped_serveAmid hstill⟩
  · have hover : s.DefunctIsOver := by
      rw [hreached]
      exact defunctIsOver_afterAll (fun hstart => Phase.noConfusion hstart) occurrences
    obtain ⟨hlater, hengine⟩ := isOver_afterAll (E := E.journaled) (hover hdefunct) more
    exact ⟨hlater.phase, hengine⟩

/-- A session in a transaction that was interrupted, and to which a failure was reported, before
something else happens to it. -/
def troubledFrail (last : Occurrence (OrReply (Reply (List Response)))) :
    Session (Journal (Option Status) Unit) (Numbered Unit) (OrReply (Reply (List Response))) :=
  (start {} { state := none }).afterAll (Engine.frail .transactionTerminated).journaled
    [.input (.request (.hello ∅) .blank 0), .input (.request (.begin ∅) .blank 0),
      .input .interrupt, .input (.report (.failed (.ofFault .noProcessor))), last]

/-- If the session was asked to end, it resets the processor and says nothing of the failure. If it
was marked as ended, the processor is only asked to stop. -/
theorem end_dominates_troubled :
    IsTheLast .blank (troubledFrail (.input .terminate))
        ((troubledFrail (.input .terminate)).serveAmid
          (Engine.frail .transactionTerminated).journaled 0 .commit .blank) ∧
      IsDropped .blank (troubledFrail .shut)
        ((troubledFrail .shut).serveAmid (Engine.frail .transactionTerminated).journaled 0 .commit
          .blank) := by
  obtain ⟨-, hlast, -⟩ := end_dominates (Engine.frail .transactionTerminated) {} none _
    (s := troubledFrail (.input .terminate)) rfl
  obtain ⟨hdropped, -, -⟩ := end_dominates (Engine.frail .transactionTerminated) {} none _
    (s := troubledFrail .shut) rfl
  obtain ⟨-, -, hrequest⟩ := hdropped (by decide +kernel) []
  exact ⟨hlast (by decide +kernel) (by decide +kernel) .commit .blank 0,
    hrequest .commit .blank 0⟩

end
end Session
end QuerySession
