import QuerySession.Proofs.Run

/-!
# Who touches the signals

Others set the signals of a session; the session itself answers interrupts and ends. This file
shows that it does so in two places only.

* `signals_answer`: of the table of phases only RESET touches the signals, and
  `signals_answerReset` says how;
* `Session.endShown_receive`, `Session.endShown_after`: a session is closed exactly in the phase
  `defunct`, whatever it receives.
-/

namespace QuerySession

variable {σ P ρ H α β : Type}

/-- An action leaves the signals alone, and what it returns is of some kind. -/
def KeepsSignals (kind : α → Prop) (act : Action σ P H α) : Prop :=
  ∀ c, wp act (fun a c' => kind a ∧ c'.signals = c.signals) (fun _ c' => c'.signals = c.signals) c

/-- Anything may be returned. -/
def anything (_ : α) : Prop := True

namespace KeepsSignals

lemma bind {kind : β → Prop} {act : Action σ P H α} {next : α → Action σ P H β}
    (hact : KeepsSignals anything act) (hnext : ∀ a, KeepsSignals kind (next a)) :
    KeepsSignals kind (act >>= next) := by
  intro c
  rw [wp_bind]
  refine wp_mono (hact c) ?_ (fun _ _ hsignals => hsignals)
  intro a c' hafter
  obtain ⟨_, hsignals⟩ := hafter
  rw [← hsignals]
  exact hnext a c'

lemma onEngine (act : EStateM Fault σ α) :
    KeepsSignals anything (Connection.onEngine act : Action σ P H α) := by
  intro c
  rw [wp_onEngine]
  unfold wp
  cases act c.engine with
  | ok a engine => exact ⟨trivial, rfl⟩
  | error fault engine => rfl

lemma engage (p : Option P) :
    KeepsSignals anything (Connection.engage p : Action σ P H Unit) := by
  intro c
  rw [wp_engage]
  split
  · exact ⟨trivial, rfl⟩
  · rfl

lemma call (act : Option P → EStateM Fault σ α) :
    KeepsSignals anything (Connection.call act : Action σ P H α) := by
  intro c
  cases hnotice : c.notice with
  | some status => rw [wp_call_of_notice hnotice]
  | none =>
    rw [wp_call_of_bound hnotice rfl]
    unfold wp
    cases act c.bound c.engine with
    | ok a engine => exact ⟨trivial, rfl⟩
    | error fault engine => rfl

lemma giveUp (E : Engine σ P ρ) :
    KeepsSignals anything (Connection.giveUp E : Action σ P H Unit) := by
  intro c
  cases hnotice : c.notice with
  | some status => rw [wp_giveUp_of_notice hnotice]
  | none =>
    rw [wp_giveUp_of_bound hnotice rfl]
    unfold wp
    cases E.orIdle.reset c.bound c.engine with
    | ok _ engine => exact ⟨trivial, rfl⟩
    | error fault engine => rfl

section
variable [Sink H]

lemma stream [RecordSource ρ] (E : Engine σ P ρ) (statement : Int64) (mode : BatchMode)
    (size : Int64) :
    KeepsSignals anything (Connection.stream E statement mode size : Action σ P H BatchEnd) := by
  intro c
  cases hnotice : c.notice with
  | some status => rw [wp_stream_of_notice hnotice]
  | none =>
    rw [wp_stream_of_bound hnotice rfl]
    dsimp only
    cases ((E.orIdle.stream c.bound statement mode size c.engine).play c.relay).1 with
    | ok a engine => exact ⟨trivial, rfl⟩
    | error fault engine => rfl

lemma mention? [ToValue α] (key : String) (value : Option α) :
    KeepsSignals anything (Phase.mention? key value : Action σ P H Unit) := by
  intro c
  cases value <;> exact ⟨trivial, rfl⟩

lemma describe (info : StatementInfo) :
    KeepsSignals anything (Phase.describe info : Action σ P H Unit) :=
  fun _ => ⟨trivial, rfl⟩

/-! The parts of the table lead to a phase in which the session goes on. -/

lemma runInTransaction (E : Engine σ P ρ) (run : Run) :
    KeepsSignals (· ≠ .defunct) (Phase.runInTransaction E run : Action σ P H Phase) :=
  bind (call _) fun info => bind (describe info) fun _ _ => ⟨nofun, rfl⟩

lemma endStatement (E : Engine σ P ρ) (bookmark : Option String) :
    KeepsSignals (· ≠ .defunct) (Phase.endStatement E bookmark : Action σ P H Phase) :=
  bind (mention? _ _) fun _ => bind (call _) fun _ => bind (mention? _ _) fun _ _ => ⟨nofun, rfl⟩

end

lemma endTransactionStatement (E : Engine σ P ρ) :
    KeepsSignals (· ≠ .defunct) (Phase.endTransactionStatement E : Action σ P H Phase) := by
  refine bind (call _) fun streaming => ?_
  cases streaming <;> exact fun _ => ⟨nofun, rfl⟩

lemma provideFor (E : Engine σ P ρ) (self : Identity) (extra : Extra) :
    KeepsSignals anything (Phase.provideFor E self extra : Action σ P H Unit) :=
  bind (onEngine _) engage

end KeepsSignals

variable [Sink H] [RecordSource ρ] {E : Engine σ P ρ}

/-- Only RESET touches the signals, and no answer ends the session. -/
theorem signals_answer (self : Identity) {phase : Phase} (hphase : phase ≠ .defunct)
    {request : Request} (hrequest : request ≠ .reset) :
    KeepsSignals (· ≠ .defunct) (phase.answer E self request : Action σ P H Phase) := by
  have hnext {next : Phase} (h : next ≠ .defunct) (c : Connection σ P H) :
      next ≠ .defunct ∧ c.signals = c.signals := ⟨h, rfl⟩
  cases phase with
  | connected => cases request <;> first | exact hnext nofun | exact fun _ => rfl
  | defunct => exact absurd rfl hphase
  | ready =>
    cases request with
    | reset => exact absurd rfl hrequest
    | run run =>
      exact .bind (.provideFor E self _) fun _ =>
        .bind (.call _) fun info => .bind (.describe info) fun _ => hnext nofun
    | begin extra =>
      exact .bind (.provideFor E self _) fun _ => .bind (.call _) fun _ => hnext nofun
    | _ => exact fun _ => rfl
  | streaming =>
    cases request with
    | reset => exact absurd rfl hrequest
    | stream mode batch =>
      refine .bind (.stream E _ _ _) fun outcome => ?_
      split
      · exact hnext nofun
      · exact .endStatement E _
    | _ => exact fun _ => rfl
  | transactionReady =>
    cases request with
    | reset => exact absurd rfl hrequest
    | run run => exact .runInTransaction E run
    | commit => exact .bind (.call _) fun _ => hnext nofun
    | rollback => exact .bind (.call _) fun _ => hnext nofun
    | _ => exact fun _ => rfl
  | transactionStreaming =>
    cases request with
    | reset => exact absurd rfl hrequest
    | run run => exact .runInTransaction E run
    | stream mode batch =>
      refine .bind (.stream E _ _ _) fun outcome => ?_
      split
      · exact hnext nofun
      · exact .endTransactionStatement E
    | _ => exact fun _ => rfl
  | failed =>
    cases request with
    | reset => exact absurd rfl hrequest
    | _ => exact hnext nofun
  | interrupted =>
    cases request with
    | reset => exact absurd rfl hrequest
    | _ => exact hnext nofun

omit [RecordSource ρ] in
/-- RESET takes one interrupt off, if there is one, and leaves the flags alone. -/
theorem signals_answerReset (c : Connection σ P H) :
    wp (Phase.answerReset E)
      (fun next c' => next ≠ .defunct ∧
        c'.signals = { c.signals with interrupts := c.signals.interrupts - 1 })
      (fun _ c' => c'.signals = { c.signals with interrupts := c.signals.interrupts - 1 }) c := by
  unfold Phase.answerReset
  rw [wp_bind, wp_acknowledge]
  cases hinterrupts : c.signals.interrupts with
  | zero =>
    have hkept : { c.signals with interrupts := 0 } = c.signals := by rw [← hinterrupts]
    exact hkept.symm
  | succ left =>
    dsimp only
    rw [wp_ite]
    split
    · exact ⟨nofun, rfl⟩
    · rw [wp_bind, wp_modify, wp_bind]
      refine wp_mono (KeepsSignals.giveUp E _) ?_ (fun _ _ hsignals => hsignals)
      intro _ c' hafter
      obtain ⟨_, hsignals⟩ := hafter
      exact ⟨nofun, hsignals⟩

/-- No answer touches the flags, and none ends the session. -/
theorem flags_answer (self : Identity) {phase : Phase} (hphase : phase ≠ .defunct)
    (request : Request) (c : Connection σ P H) :
    wp (phase.answer E self request)
      (fun next c' => next ≠ .defunct ∧ c'.signals.closed = c.signals.closed ∧
        c'.signals.terminated = c.signals.terminated)
      (fun _ c' => c'.signals.closed = c.signals.closed ∧
        c'.signals.terminated = c.signals.terminated) c := by
  -- RESET is answered alike in all phases but the first and the last
  by_cases hreset : request = .reset
  · subst hreset
    have hflags : wp (Phase.answerReset E)
        (fun next c' => next ≠ .defunct ∧ c'.signals.closed = c.signals.closed ∧
          c'.signals.terminated = c.signals.terminated)
        (fun _ c' => c'.signals.closed = c.signals.closed ∧
          c'.signals.terminated = c.signals.terminated) c := by
      refine wp_mono (signals_answerReset c) ?_ ?_
      · intro next c' hafter
        obtain ⟨hnext, hsignals⟩ := hafter
        rw [hsignals]
        exact ⟨hnext, rfl, rfl⟩
      · intro _ c' hsignals
        rw [hsignals]
        exact ⟨rfl, rfl⟩
    cases phase with
    | connected => exact ⟨rfl, rfl⟩
    | defunct => exact absurd rfl hphase
    | _ => exact hflags
  · refine wp_mono (signals_answer self hphase hreset c) ?_ ?_
    · intro next c' hafter
      obtain ⟨hnext, hsignals⟩ := hafter
      rw [hsignals]
      exact ⟨hnext, rfl, rfl⟩
    · intro _ c' hsignals
      rw [hsignals]
      exact ⟨rfl, rfl⟩

/-! ## Closed means defunct -/

namespace Session

/-- The phase says whether the session has ended. -/
def EndShown (s : Session σ P H) : Prop := s.phase = .defunct ↔ s.isClosed

variable {s : Session σ P H}

section
omit [Sink H] [RecordSource ρ]

lemma endShown_close : (s.close E).EndShown := ⟨fun _ => rfl, fun _ => rfl⟩

lemma endShown_heedSignals (h : s.EndShown) : (s.heedSignals E).EndShown := by
  rcases heedSignals_cases E s with ⟨-, -, heq⟩ | ⟨-, -, hphase, heq⟩ | ⟨-, -, heq⟩
  · rw [heq]
    exact endShown_close
  · rw [heq]
    have hopen : ¬ s.isClosed := by
      intro hclosed
      rw [h.mpr hclosed] at hphase
      exact absurd hphase Bool.false_ne_true
    refine ⟨nofun, fun hclosed => ?_⟩
    unfold isClosed at hopen hclosed
    rw [Connection.signals_abort] at hclosed
    exact absurd hclosed hopen
  · rwa [heq]

lemma phase_accept (handler : H) : (s.accept E handler).phase = (s.heedSignals E).phase := rfl

lemma signals_accept (handler : H) :
    (s.accept E handler).connection.signals = (s.heedSignals E).connection.signals := by
  unfold accept
  dsimp only
  split
  · rfl
  · exact Connection.signals_validate

/-- Before a request the signals of a session that goes on are left alone. -/
lemma signals_accept_of_stays (handler : H) (hstays : s.connection.signals.terminated = false) :
    (s.accept E handler).connection.signals = s.connection.signals := by
  rw [signals_accept]
  rcases heedSignals_cases E s with ⟨hends, -, -⟩ | ⟨-, -, -, heq⟩ | ⟨-, -, heq⟩
  · exact absurd (hstays.symm.trans hends) Bool.false_ne_true
  · rw [heq]
    exact Connection.signals_abort
  · rw [heq]

/-- A session that goes on is open for a request. -/
lemma isOpen_found (hopen : s.isClosed = false)
    (hstays : s.connection.signals.terminated = false) (handler : H) (arrivals : Nat) :
    (s.found E handler arrivals).isClosed = false := by
  show (s.accept E handler).connection.signals.closed = false
  rw [signals_accept_of_stays handler hstays]
  exact hopen

lemma interrupts_found (hstays : s.connection.signals.terminated = false) (handler : H)
    (arrivals : Nat) :
    (s.found E handler arrivals).connection.signals.interrupts =
      s.connection.signals.interrupts + arrivals := by
  show (s.accept E handler).connection.signals.interrupts + arrivals = _
  rw [signals_accept_of_stays handler hstays]

/-- Between HELLO and the end a session that goes on may at most be interrupted. -/
lemma isGreeted_found (hstays : s.connection.signals.terminated = false)
    (hgreeted : s.phase ≠ .connected ∧ s.phase ≠ .defunct) (handler : H) (arrivals : Nat) :
    (s.found E handler arrivals).phase ≠ .connected ∧
      (s.found E handler arrivals).phase ≠ .defunct := by
  show (s.heedSignals E).phase ≠ .connected ∧ (s.heedSignals E).phase ≠ .defunct
  rw [phase_heedSignals_of_stays E hstays hgreeted.2]
  split
  · exact ⟨Phase.noConfusion, Phase.noConfusion⟩
  · exact hgreeted

/-- The end of a session, or the wish to end it, is heeded before a request. -/
lemma isClosed_found (hends : s.isClosed = true ∨ s.connection.signals.terminated = true)
    (handler : H) (arrivals : Nat) : (s.found E handler arrivals).isClosed = true := by
  show (s.accept E handler).connection.signals.closed = true
  rw [signals_accept]
  rcases heedSignals_cases E s with ⟨-, -, heq⟩ | ⟨hstays, -, -, heq⟩ | ⟨hended, -, heq⟩
  · rw [heq]
    rfl
  · rw [heq]
    show (s.connection.abort E).signals.closed = true
    rw [Connection.signals_abort]
    exact hends.resolve_right fun hends => absurd (hstays.symm.trans hends) Bool.false_ne_true
  · rw [heq]
    exact hends.elim id hended

lemma endShown_accept (handler : H) (h : s.EndShown) : (s.accept E handler).EndShown := by
  have hheed : (s.heedSignals E).EndShown := endShown_heedSignals h
  unfold EndShown isClosed at hheed ⊢
  rwa [signals_accept, phase_accept]

end

omit [RecordSource ρ] in
lemma endShown_fail (fault : Fault) (hopen : s.isClosed = false) :
    Meets (fun _ => EndShown) (fun _ => EndShown) (fail E fault s) := by
  unfold fail
  dsimp only
  split
  · exact endShown_close
  · refine ⟨nofun, fun hclosed => ?_⟩
    rw [show s.isClosed = true from hclosed] at hopen
    exact absurd hopen.symm Bool.false_ne_true

lemma endShown_dispatch (request : Request) (h : s.EndShown) (hopen : s.isClosed = false) :
    wp (dispatch E request) (fun _ => EndShown) (fun _ => EndShown) s := by
  have hphase : s.phase ≠ .defunct := by
    intro hdefunct
    rw [h.mp hdefunct] at hopen
    exact absurd hopen.symm Bool.false_ne_true
  refine wp_dispatch endShown_close ?_
  -- the table leaves the flags alone, so only a fatal fault ends the session
  refine wp_mono (flags_answer s.self hphase request s.connection) ?_ ?_
  · intro next c hafter
    obtain ⟨hnext, hkept, -⟩ := hafter
    refine ⟨fun hdefunct => absurd hdefunct hnext, fun hclosed => ?_⟩
    have hended : s.isClosed = true := hkept.symm.trans hclosed
    rw [hended] at hopen
    exact absurd hopen.symm Bool.false_ne_true
  · intro fault c hafter
    exact endShown_fail fault (hafter.1.trans hopen)

lemma endShown_perform (request : Request) (h : s.EndShown) :
    wp (perform E request) (fun _ => EndShown) (fun _ => EndShown) s :=
  wp_perform h (endShown_dispatch request h)

lemma endShown_conclude (reply : Bool) (h : s.EndShown) : (s.conclude reply).2.EndShown := by
  unfold EndShown isClosed at h ⊢
  rw [connection_conclude, phase_conclude]
  split
  · -- a failure that waited neither ends a session nor revives it
    refine Iff.trans ?_ h
    cases s.phase <;> simp [phaseAfterFailure]
  · exact h

/-- A session is closed exactly in the phase `defunct`, whatever it receives. -/
theorem endShown_receive (input : Input H) (h : s.EndShown) : (s.receive E input).EndShown := by
  cases input with
  | request request handler interrupts =>
    -- interrupts that arrive meanwhile do not end a session
    have haccepted : ((s.accept E handler).signal (Signals.interruptBy interrupts)).EndShown :=
      endShown_accept handler h
    exact session_settle (endShown_perform request haccepted) fun reply _ =>
      endShown_conclude reply
  | interrupt => exact h
  | terminate => exact h
  | close => exact endShown_close
  | report report => exact h

theorem endShown_after (inputs : List (Input H)) (h : s.EndShown) :
    (s.after E inputs).EndShown :=
  after_induction h fun input _ _ => endShown_receive input

end Session

end QuerySession
