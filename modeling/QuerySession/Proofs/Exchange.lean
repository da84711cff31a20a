import QuerySession.Proofs.Custody
import QuerySession.Proofs.Entries
import QuerySession.Proofs.Recovery

/-!
# RESETs of several clients

Any number of clients send requests to one worker. A client that sends RESET interrupts the session
first and puts the RESET in the queue at some later moment, or never. The worker takes one request
after the other, and clients may act at any moment in between, also while a request is handled.

An interrupt is counted before its RESET can be taken, so the counter never falls short of the
RESETs that are still to come, and no RESET misses its interrupt. As long as there is one to come,
no request is worked on. The fault that an interrupt is missing may come up all the same: a
processor is free to return it.

* `Exchange`: the clients, the queue and the session;
* `Exchange.IsAccounted`, `Exchange.isAccounted_act`, `Exchange.isSound_move`: what the counter
  says;
* `Session.rests_of_held`, `Session.wasSkipped_of_held`: how a request is answered as long as a
  RESET is to come;
* `Exchange.raised_of_underflow`: who raises the fault that an interrupt is missing;
* `Exchange.resets_accounted`: the rule;
* `Exchange.resets_accounted_miscounting`: a processor that returns the fault;
* `Worker.playedBy_after`: a worker is one course that an exchange can take.
-/

namespace QuerySession

variable {σ P ρ H : Type}

/-- A session with the queue of its worker. -/
structure Exchange (σ P H : Type) where
  session : Session σ P H
  queue : List Request := []
  /-- The RESETs that interrupted the session and are not in the queue yet. Some never will be. -/
  announced : Nat := 0
  /-- The interrupts so far. -/
  increments : Nat := 0
  /-- The RESETs that the worker has taken so far. -/
  taken : Nat := 0

/-- What a client does. -/
inductive ClientMove where
  /-- Interrupts the session for a RESET. -/
  | announce
  /-- Puts a RESET in the queue that has interrupted the session. -/
  | post
  /-- Puts another request in the queue. -/
  | send (request : Request) (plain : request ≠ .reset)
  /-- Interrupts the session for nothing. -/
  | interrupt
  | terminate

/-- What can happen. -/
inductive ExchangeMove (H : Type) where
  | client (move : ClientMove)
  /-- The worker takes a request and handles it. Clients act once it is accepted. -/
  | process (handler : H) (meanwhile : List ClientMove)
  /-- The worker ends. -/
  | stop

namespace Exchange

/-- A client acts. -/
def act (x : Exchange σ P H) : ClientMove → Exchange σ P H
  | .announce =>
    { x with
      session := x.session.interrupt
      announced := x.announced + 1
      increments := x.increments + 1 }
  | .post =>
    if 0 < x.announced then
      { x with announced := x.announced - 1, queue := x.queue ++ [.reset] }
    else x
  | .send request _ => { x with queue := x.queue ++ [request] }
  | .interrupt => { x with session := x.session.interrupt, increments := x.increments + 1 }
  | .terminate => { x with session := x.session.signal Signals.terminate }

/-- The RESETs that interrupted the session and were not taken yet. -/
def outstanding (x : Exchange σ P H) : Nat := x.announced + x.queue.countP Request.isReset

/-- A request was taken from the queue and accepted, and clients have acted since. -/
def accepted (E : Engine σ P ρ) (x : Exchange σ P H) (rest : List Request) (handler : H)
    (meanwhile : List ClientMove) : Exchange σ P H :=
  meanwhile.foldl act { x with session := x.session.accept E handler, queue := rest }

section
variable [Sink H] [RecordSource ρ]

/-- What comes of a request that was accepted. -/
def served (E : Engine σ P ρ) (request : Request) (x : Exchange σ P H) : Served σ P H :=
  Session.settle (Session.perform E request x.session)

/-- A request that was accepted is handled to its end. -/
def handle (E : Engine σ P ρ) (request : Request) (x : Exchange σ P H) : Exchange σ P H :=
  { x with
    session := (x.served E request).session
    taken := x.taken + if request.isReset then 1 else 0 }

/-- Goes through a move. A worker whose session is closed takes no request. -/
def move (E : Engine σ P ρ) (x : Exchange σ P H) : ExchangeMove H → Exchange σ P H
  | .client move => x.act move
  | .process handler meanwhile =>
    match x.queue with
    | [] => x
    | request :: rest =>
      if x.session.isClosed then x else (x.accepted E rest handler meanwhile).handle E request
  | .stop => { x with session := x.session.close E, queue := [] }

/-- Goes through moves in turn. -/
def after (E : Engine σ P ρ) (moves : List (ExchangeMove H)) (x : Exchange σ P H) :
    Exchange σ P H := moves.foldl (move E) x

lemma after_append (E : Engine σ P ρ) (first rest : List (ExchangeMove H)) (x : Exchange σ P H) :
    x.after E (first ++ rest) = (x.after E first).after E rest :=
  List.foldl_append

end

/-! ## What the counter says -/

/-- Every interrupt was counted, and every RESET that was taken answered one. So what the counter
says covers the RESETs that are still to come, and the one that is being handled. -/
structure IsAccounted (handling : Nat) (x : Exchange σ P H) : Prop where
  balance : x.session.connection.signals.interrupts + x.taken = x.increments
  covered : x.outstanding + handling ≤ x.session.connection.signals.interrupts

variable {x : Exchange σ P H} {handling : Nat}

lemma isReset_of_ne {request : Request} (h : request ≠ .reset) : request.isReset = false := by
  cases request <;> first | exact absurd rfl h | rfl

@[simp] lemma interrupts_interrupt (s : Session σ P H) :
    s.interrupt.connection.signals.interrupts = s.connection.signals.interrupts + 1 := rfl

lemma outstanding_append (queue : List Request) (request : Request) :
    (queue ++ [request]).countP Request.isReset =
      queue.countP Request.isReset + if request.isReset then 1 else 0 := by
  rw [List.countP_append, List.countP_singleton]

/-- Clients count an interrupt before they put its RESET in the queue. -/
lemma isAccounted_act (h : x.IsAccounted handling) (move : ClientMove) :
    (x.act move).IsAccounted handling := by
  obtain ⟨hbalance, hcovered⟩ := h
  unfold outstanding at hcovered
  cases move with
  | announce =>
    constructor
    · simp only [act, interrupts_interrupt]
      omega
    · simp only [act, outstanding, interrupts_interrupt]
      omega
  | interrupt =>
    constructor
    · simp only [act, interrupts_interrupt]
      omega
    · simp only [act, outstanding, interrupts_interrupt]
      omega
  | terminate => exact ⟨hbalance, hcovered⟩
  | send request hplain =>
    refine ⟨hbalance, ?_⟩
    simp only [act, outstanding, outstanding_append, isReset_of_ne hplain]
    simpa using hcovered
  | post =>
    unfold act
    dsimp only
    split
    · refine ⟨hbalance, ?_⟩
      have hreset : Request.reset.isReset = true := rfl
      simp only [outstanding, outstanding_append, hreset, if_true]
      omega
    · exact ⟨hbalance, hcovered⟩

/-- Of the session, clients touch the signals alone, and neither end it nor take interrupts back. -/
structure IsSignalled (s t : Session σ P H) : Prop where
  eq : t = s.signal fun _ => t.connection.signals
  closed : t.connection.signals.closed = s.connection.signals.closed
  interrupts : s.connection.signals.interrupts ≤ t.connection.signals.interrupts

lemma isSignalled_act (move : ClientMove) : IsSignalled x.session (x.act move).session := by
  cases move with
  | post =>
    unfold act
    dsimp only
    split
    · exact ⟨rfl, rfl, Nat.le_refl _⟩
    · exact ⟨rfl, rfl, Nat.le_refl _⟩
  | announce => exact ⟨rfl, rfl, Nat.le_succ _⟩
  | interrupt => exact ⟨rfl, rfl, Nat.le_succ _⟩
  | send request plain => exact ⟨rfl, rfl, Nat.le_refl _⟩
  | terminate => exact ⟨rfl, rfl, Nat.le_refl _⟩

lemma IsSignalled.trans {s t u : Session σ P H} (h : IsSignalled s t) (h' : IsSignalled t u) :
    IsSignalled s u where
  eq := by
    rw [h'.eq, h.eq]
    rfl
  closed := h'.closed.trans h.closed
  interrupts := Nat.le_trans h.interrupts h'.interrupts

lemma isSignalled_acts (meanwhile : List ClientMove) :
    IsSignalled x.session (meanwhile.foldl act x).session := by
  induction meanwhile generalizing x with
  | nil => exact ⟨rfl, rfl, Nat.le_refl _⟩
  | cons move meanwhile ih => exact (isSignalled_act move).trans ih

end Exchange

/-! ## What a request does to the counter -/

namespace Session

variable [Sink H] {E : Engine σ P ρ} {s : Session σ P H} {request : Request}

/-- The session has ended, or so many interrupts were answered. -/
def EndsOrAnswers (n : Nat) (s d : Session σ P H) : Prop :=
  d.isClosed = true ∨
    d.connection.signals.interrupts + n = s.connection.signals.interrupts

lemma endsOrAnswers_fail {n : Nat} {d : Session σ P H} (fault : Fault)
    (h : d.connection.signals.interrupts + n = s.connection.signals.interrupts) :
    Meets (fun _ => EndsOrAnswers n s) (fun _ => EndsOrAnswers n s) (fail E fault d) := by
  unfold fail
  dsimp only
  split
  · exact Or.inl rfl
  · exact Or.inr h

variable [RecordSource ρ]

/-- RESET answers one interrupt, whatever comes of it. -/
lemma wp_answer_reset (hphase : s.phase ≠ .defunct) (hdue : s.connection.signals.interrupts ≠ 0) :
    wp (s.phase.answer E s.self .reset)
      (fun next c => EndsOrAnswers 1 s { s with connection := c, phase := next })
      (fun fault c => Meets (fun _ => EndsOrAnswers 1 s) (fun _ => EndsOrAnswers 1 s)
        (fail E fault { s with connection := c })) s.connection := by
  have hanswer : wp (Phase.answerReset E)
      (fun next c => EndsOrAnswers 1 s { s with connection := c, phase := next })
      (fun fault c => Meets (fun _ => EndsOrAnswers 1 s) (fun _ => EndsOrAnswers 1 s)
        (fail E fault { s with connection := c })) s.connection := by
    have hanswered (c : Connection σ P H)
        (hsignals : c.signals =
          { s.connection.signals with interrupts := s.connection.signals.interrupts - 1 }) :
        c.signals.interrupts + 1 = s.connection.signals.interrupts := by
      rw [hsignals]
      dsimp only
      omega
    refine wp_mono (signals_answerReset s.connection) ?_ ?_
    · intro next c hafter
      exact Or.inr (hanswered c hafter.2)
    · intro fault c hsignals
      exact endsOrAnswers_fail fault (hanswered c hsignals)
  cases hp : s.phase with
  | connected => exact Or.inl rfl
  | defunct => exact absurd hp hphase
  | _ => exact hanswer

/-- A request that does not end the session answers one interrupt if it is RESET, and none
otherwise. -/
theorem endsOrAnswers_settle (hend : s.EndShown)
    (hdue : s.isClosed = false → request.isReset → s.connection.signals.interrupts ≠ 0) :
    EndsOrAnswers (if request.isReset then 1 else 0) s
      (settle (perform E request s)).session := by
  have hperformed : wp (perform E request)
      (fun _ => EndsOrAnswers (if request.isReset then 1 else 0) s)
      (fun _ => EndsOrAnswers (if request.isReset then 1 else 0) s) s := by
    unfold wp
    cases hopen : s.isClosed with
    | true =>
      rw [perform_of_closed request hopen]
      exact Or.inl hopen
    | false =>
      have hphase : s.phase ≠ .defunct := fun hdefunct =>
        absurd (hopen.symm.trans (hend.mp hdefunct)) Bool.false_ne_true
      by_cases hreset : request = .reset
      · subst hreset
        rw [perform_of_passes hopen rfl]
        exact wp_dispatch (Or.inl rfl) (wp_answer_reset hphase (hdue hopen rfl))
      · rw [Exchange.isReset_of_ne hreset]
        refine wp_perform (Or.inr rfl) fun _ => wp_dispatch (Or.inl rfl) ?_
        refine wp_mono (signals_answer s.self hphase hreset s.connection) ?_ ?_
        · intro next c hafter
          exact Or.inr (congrArg Signals.interrupts hafter.2)
        · intro fault c hsignals
          exact endsOrAnswers_fail fault (congrArg Signals.interrupts hsignals)
  refine session_settle hperformed fun reply d hd => ?_
  unfold EndsOrAnswers isClosed at hd ⊢
  rw [connection_conclude]
  exact hd

end Session

/-! ## Whatever happens -/

namespace Exchange

variable {E : Engine σ P ρ} {x : Exchange σ P H} {handling : Nat} {request : Request}
  {rest : List Request}

/-- As long as the session is open, every interrupt is accounted for, also those of the request
that is being handled. -/
structure IsSound (handling : Nat) (x : Exchange σ P H) : Prop where
  ended : x.session.EndShown
  accounted : x.session.isClosed = false → x.IsAccounted handling

lemma isSound_act (h : x.IsSound handling) (move : ClientMove) :
    (x.act move).IsSound handling := by
  obtain ⟨heq, hclosed, -⟩ := isSignalled_act (x := x) move
  have hphase : (x.act move).session.phase = x.session.phase := by
    rw [heq]
    rfl
  constructor
  · have hend := h.ended
    unfold Session.EndShown Session.isClosed at hend ⊢
    rwa [hphase, hclosed]
  · intro hopen
    exact isAccounted_act (h.accounted (hclosed.symm.trans hopen)) move

/-- A request that was accepted is accounted for, whatever clients do meanwhile. -/
lemma isSound_accepted (h : x.IsSound 0) (hopen : x.session.isClosed = false)
    (hqueue : x.queue = request :: rest) (handler : H) (meanwhile : List ClientMove) :
    (x.accepted E rest handler meanwhile).IsSound (if request.isReset then 1 else 0) := by
  have haccepted : ({ x with session := x.session.accept E handler, queue := rest } :
      Exchange σ P H).IsSound (if request.isReset then 1 else 0) := by
    refine ⟨Session.endShown_accept handler h.ended, fun hafter => ?_⟩
    have hsignals := Session.signals_accept_of_stays (E := E) handler
      (Session.stays_of_accept hafter).2
    obtain ⟨hbalance, hcovered⟩ := h.accounted hopen
    unfold outstanding at hcovered
    rw [hqueue, List.countP_cons] at hcovered
    constructor
    · rw [hsignals]
      exact hbalance
    · rw [hsignals]
      simp only [outstanding]
      omega
  unfold accepted
  generalize ({ x with session := x.session.accept E handler, queue := rest } :
    Exchange σ P H) = found at haccepted
  induction meanwhile generalizing found with
  | nil => exact haccepted
  | cons move meanwhile ih => exact ih _ (isSound_act haccepted move)

variable [Sink H] [RecordSource ρ]

omit [Sink H] [RecordSource ρ] in
/-- A RESET that was accounted for finds an interrupt. -/
lemma IsSound.due (h : x.IsSound (if request.isReset then 1 else 0)) (hreset : request.isReset)
    (hopen : x.session.isClosed = false) : 0 < x.session.connection.signals.interrupts := by
  have hcovered := (h.accounted hopen).covered
  rw [hreset, if_pos rfl] at hcovered
  omega

/-- A request answers the interrupt that it was accounted for. -/
lemma isSound_handle (h : x.IsSound (if request.isReset then 1 else 0)) :
    (x.handle E request).IsSound 0 := by
  have hend : (x.served E request).session.EndShown :=
    Session.session_settle (Session.endShown_perform request h.ended) fun reply _ =>
      Session.endShown_conclude reply
  refine ⟨hend, fun hopen => ?_⟩
  have hfound : x.session.isClosed = false := by
    refine Bool.eq_false_iff.mpr fun hclosed => ?_
    exact absurd (hopen.symm.trans (Session.isClosed_settle request hclosed)) Bool.false_ne_true
  obtain ⟨hbalance, hcovered⟩ := h.accounted hfound
  have hanswered := Session.endsOrAnswers_settle (E := E) h.ended fun hopen hreset =>
    Nat.ne_of_gt (h.due hreset hopen)
  -- the counter goes down by what the request was accounted for
  rcases hanswered with hclosed | hanswered
  · exact absurd (hopen.symm.trans hclosed) Bool.false_ne_true
  · constructor
    · simp only [handle, served]
      omega
    · simp only [handle, served, outstanding] at hcovered ⊢
      omega

/-- Every interrupt stays accounted for, whatever happens. -/
theorem isSound_move (h : x.IsSound 0) (move : ExchangeMove H) : (x.move E move).IsSound 0 := by
  cases move with
  | client move => exact isSound_act h move
  | stop => exact ⟨Session.endShown_close, nofun⟩
  | process handler meanwhile =>
    unfold Exchange.move
    dsimp only
    split
    · exact h
    · rename_i request rest hqueue
      split
      · exact h
      · rename_i hclosed
        rw [Bool.not_eq_true] at hclosed
        exact isSound_handle (isSound_accepted h hclosed hqueue handler meanwhile)

theorem isSound_after (h : x.IsSound 0) (moves : List (ExchangeMove H)) :
    (x.after E moves).IsSound 0 := by
  induction moves generalizing x with
  | nil => exact h
  | cons move moves ih => exact ih (isSound_move h move)

end Exchange

/-! ## As long as a RESET is to come -/

/-- An interrupted session skips every request for which it does not run out of interrupts. -/
lemma Phase.answer_of_interrupted [Sink H] [RecordSource ρ] (E : Engine σ P ρ) (self : Identity)
    {request : Request} {c : Connection σ P H}
    (hdue : request = .reset → 2 ≤ c.signals.interrupts) :
    ∃ left, Phase.interrupted.answer E self request c =
      .ok .interrupted (({ c with signals.interrupts := left } : Connection σ P H).tell
        .ignored) := by
  by_cases hreset : request = .reset
  · subst hreset
    obtain ⟨left, hleft⟩ := Nat.exists_eq_add_of_le' (hdue rfl)
    exact ⟨left + 1, answerReset_more hleft⟩
  · refine ⟨c.signals.interrupts, ?_⟩
    cases request <;> first | exact absurd rfl hreset | rfl

namespace Session

/-- The session has ended, waits for HELLO, or is interrupted with more interrupts than the request
answers. -/
def IsHeld (request : Request) (s : Session σ P H) : Prop :=
  s.isClosed = true ∨ s.phase = .connected ∨
    (s.phase = .interrupted ∧ (request = .reset → 2 ≤ s.connection.signals.interrupts))

variable {E : Engine σ P ρ} {request : Request}

/-- A session that is accepted with more interrupts than the request answers is held. -/
lemma isHeld_accept {s : Session σ P H} (hend : s.EndShown)
    (hdue : (if request.isReset then 2 else 1) ≤ s.connection.signals.interrupts) (handler : H) :
    (s.accept E handler).IsHeld request := by
  have hinterrupted : s.connection.signals.isInterrupted = true := by
    refine decide_eq_true ?_
    split at hdue <;> omega
  have hreset : request = .reset → 2 ≤ s.connection.signals.interrupts := by
    rintro rfl
    exact hdue
  unfold IsHeld
  by_cases hclosed : (s.accept E handler).isClosed = true
  · exact Or.inl hclosed
  · rw [Bool.not_eq_true] at hclosed
    obtain ⟨hopen, hstays⟩ := stays_of_accept hclosed
    right
    rw [signals_accept_of_stays handler hstays, phase_accept]
    rcases heedSignals_cases E s with ⟨hends, -, -⟩ | ⟨-, -, -, heq⟩ | ⟨-, hcannot, heq⟩
    · exact absurd (hstays.symm.trans hends) Bool.false_ne_true
    · rw [heq]
      exact Or.inr ⟨rfl, hreset⟩
    · rw [heq]
      -- an interrupt has taken effect already, or does not count yet
      have hcannot := hcannot hstays hinterrupted
      cases hphase : s.phase with
      | connected => exact Or.inl rfl
      | interrupted => exact Or.inr ⟨rfl, hreset⟩
      | defunct => exact absurd (hopen.symm.trans (hend.mp hphase)) Bool.false_ne_true
      | _ =>
        rw [hphase] at hcannot
        cases hcannot

variable [Sink H] [RecordSource ρ]

/-- A held session does not work on the request. -/
theorem rests_of_held {s : Session (Journal σ P) (Numbered P) H} (h : s.IsHeld request) :
    Connection.Rests s.connection
      (settle (perform E.journaled request s)).session.connection := by
  have hrests : ∀ c : Connection (Journal σ P) (Numbered P) H, c.engine = s.connection.engine →
      Connection.Rests s.connection (c.release E.journaled) := fun c hengine =>
    (Connection.rests_of_eq hengine).trans (Connection.rests_release E c)
  have hperformed : wp (perform E.journaled request)
      (fun _ d => Connection.Rests s.connection d.connection)
      (fun _ d => Connection.Rests s.connection d.connection) s := by
    refine wp_perform (Connection.rests_of_eq rfl) fun hopen => ?_
    refine wp_dispatch (hrests s.connection rfl) ?_
    rcases h with hclosed | hphase | ⟨hphase, hdue⟩
    · exact absurd (hopen.symm.trans hclosed) Bool.false_ne_true
    · rw [hphase]
      cases request with
      | hello extra => exact Connection.rests_of_eq rfl
      | _ => exact hrests _ rfl
    · obtain ⟨left, hanswer⟩ := Phase.answer_of_interrupted E.journaled s.self hdue
      rw [hphase]
      exact (wp_of_ok hanswer).mpr (Connection.rests_of_eq rfl)
  refine session_settle hperformed fun reply d hd => ?_
  rw [connection_conclude]
  exact hd

/-- A request that an interrupted session does not work on was skipped. -/
structure WasSkipped (handler : H) (served : Served σ P H) : Prop where
  outcome : served.outcome = .ok ()
  handler : served.handler = some (Sink.tell .finished (Sink.tell .ignored handler))
  phase : served.session.phase = .interrupted

/-- A held session that is open for the request skips it, unless it still waits for HELLO. GOODBYE
ends it all the same. -/
theorem wasSkipped_of_held {s : Session σ P H} (h : s.IsHeld request)
    (hopen : s.isClosed = false) (hgreeted : s.phase ≠ .connected) (hrequest : request ≠ .goodbye)
    {handler : H} (hrelay : s.connection.relay = { handler := some handler }) :
    WasSkipped handler (settle (perform E request s)) := by
  rcases h with hclosed | hphase | ⟨hphase, hdue⟩
  · exact absurd (hopen.symm.trans hclosed) Bool.false_ne_true
  · exact absurd hphase hgreeted
  · have hsettled : s.connection.relay.isSettled := by
      rw [hrelay]
      rfl
    obtain ⟨left, hanswer⟩ := Phase.answer_of_interrupted E s.self hdue
    rw [← hphase] at hanswer
    have htold : (({ s.connection with signals.interrupts := left } : Connection σ P H).tell
        .ignored).relay = { handler := some (Sink.tell .ignored handler) } := by
      show s.connection.relay.tell .ignored = _
      rw [hrelay]
      rfl
    rw [settle_of_answer hopen (passes_of_settled request hopen hsettled) hrequest hanswer hopen
      htold]
    exact ⟨rfl, rfl, hphase⟩

end Session

/-! ## The rule -/

namespace Exchange

variable [Sink H] [RecordSource ρ]

/-- How a request is handled that the worker takes. Once it is accepted the exchange is as
`found`. -/
structure IsHandled (E : Engine σ P ρ) (x found : Exchange (Journal σ P) (Numbered P) H)
    (request : Request) (rest : List Request) (handler : H) (added : List (Event P)) : Prop where
  /-- The journal is continued. -/
  events : (found.served E.journaled request).session.connection.engine.events =
    x.session.connection.engine.events ++ added
  /-- RESET finds its interrupt, -/
  due : request.isReset → found.session.isClosed = false →
    0 < found.session.connection.signals.interrupts
  /-- so that the fault that there is none is only raised if the provider, or a processor that the
  request called, returned it. -/
  raised : (found.served E.journaled request).outcome = .error .counterUnderflow →
    ∃ event ∈ added, event.fault? = some .counterUnderflow
  /-- As long as a RESET is to come, no work is asked for, -/
  rests : 0 < ({ x with queue := rest }).outstanding → ∀ event ∈ added, event.isWork = false
  /-- and the request is skipped, unless it ends the session or comes before HELLO. -/
  skipped : 0 < ({ x with queue := rest }).outstanding → x.session.phase ≠ .connected →
    x.session.connection.signals.terminated = false → x.session.connection.relay.isSettled →
    request ≠ .goodbye → Session.WasSkipped handler (found.served E.journaled request)

omit [Sink H] [RecordSource ρ] in
lemma isSignalled_accepted (E : Engine σ P ρ) (x : Exchange σ P H) (rest : List Request)
    (handler : H) (meanwhile : List ClientMove) :
    IsSignalled (x.session.accept E handler) (x.accepted E rest handler meanwhile).session :=
  isSignalled_acts (x := { x with session := x.session.accept E handler, queue := rest }) meanwhile

omit [Sink H] [RecordSource ρ] in
/-- As long as a RESET is to come, a request that is taken finds the session held. -/
lemma isHeld_accepted {E : Engine σ P ρ} {x : Exchange σ P H} (h : x.IsSound 0)
    (hopen : x.session.isClosed = false) {request : Request} {rest : List Request}
    (hqueue : x.queue = request :: rest) (hcome : 0 < ({ x with queue := rest }).outstanding)
    (handler : H) (meanwhile : List ClientMove) :
    (x.accepted E rest handler meanwhile).session.IsHeld request := by
  obtain ⟨-, hcovered⟩ := h.accounted hopen
  have hdue : (if request.isReset then 2 else 1) ≤ x.session.connection.signals.interrupts := by
    unfold outstanding at hcovered hcome
    rw [hqueue, List.countP_cons] at hcovered
    dsimp only at hcome
    cases hreset : request.isReset with
    | true =>
      rw [hreset, if_pos rfl] at hcovered
      rw [if_pos rfl]
      omega
    | false =>
      rw [hreset, if_neg Bool.false_ne_true] at hcovered
      rw [if_neg Bool.false_ne_true]
      omega
  obtain ⟨heq, hclosed, hinterrupts⟩ := isSignalled_accepted E x rest handler meanwhile
  have hphase : (x.accepted E rest handler meanwhile).session.phase =
      (x.session.accept E handler).phase := by
    rw [heq]
    rfl
  rcases Session.isHeld_accept (E := E) h.ended hdue handler with hended | hearly | ⟨hheld, hleft⟩
  · exact Or.inl (hclosed.trans hended)
  · exact Or.inr (Or.inl (hphase.trans hearly))
  · refine Or.inr (Or.inr ⟨hphase.trans hheld, fun hreset => ?_⟩)
    exact Nat.le_trans (hleft hreset) hinterrupts

/-- The fault that an interrupt is missing comes from the engine alone. -/
lemma raised_of_underflow {E : Engine σ P ρ} {x : Exchange (Journal σ P) (Numbered P) H}
    {request : Request} (h : x.IsSound (if request.isReset then 1 else 0)) {added : List (Event P)}
    (hsource : ∀ fault, (x.served E.journaled request).outcome = .error fault →
      Connection.Source (x.session.IsUndue request) x.session.connection added fault)
    (hunderflow : (x.served E.journaled request).outcome = .error .counterUnderflow) :
    ∃ event ∈ added, event.fault? = some .counterUnderflow := by
  cases hsource _ hunderflow with
  | refusal hrefusal => cases hrefusal
  | engine hmem hfault => exact ⟨_, hmem, hfault⟩
  | undue hundue =>
    obtain ⟨rfl, hzero⟩ := hundue
    have hopen : x.session.isClosed = false := by
      refine Bool.eq_false_iff.mpr fun hclosed => ?_
      unfold served at hunderflow
      rw [Session.perform_of_closed _ hclosed] at hunderflow
      cases hunderflow
    exact absurd (h.due rfl hopen) (by omega)

/-- Every request that is taken is handled as it should be. -/
theorem isHandled_of_isSound {E : Engine σ P ρ} {x : Exchange (Journal σ P) (Numbered P) H}
    (h : x.IsSound 0) (hopen : x.session.isClosed = false) {request : Request} {rest : List Request}
    (hqueue : x.queue = request :: rest) (handler : H) (meanwhile : List ClientMove) :
    ∃ added, x.IsHandled E (x.accepted E.journaled rest handler meanwhile) request rest handler
      added := by
  have hsound := isSound_accepted (E := E.journaled) h hopen hqueue handler meanwhile
  have hheld := fun hcome =>
    isHeld_accepted (E := E.journaled) h hopen hqueue hcome handler meanwhile
  obtain ⟨heq, hclosed, -⟩ := isSignalled_accepted E.journaled x rest handler meanwhile
  obtain ⟨first, hfirst, hquiet⟩ := Session.rests_accept (E := E) (s := x.session) handler
  generalize x.accepted E.journaled rest handler meanwhile = found at hsound hheld heq hclosed
  obtain ⟨more, hadds, hsource⟩ := Session.settle_adds (E := E) (s := found.session) request
  have hengine : found.session.connection.engine =
      (x.session.accept E.journaled handler).connection.engine := by
    rw [heq]
    rfl
  refine ⟨first ++ more, ?_, hsound.due, ?_, ?_, ?_⟩
  · show _ = _
    unfold served
    rw [hadds.events, hengine, hfirst, List.append_assoc]
  · intro hunderflow
    obtain ⟨event, hmem, hfault⟩ := raised_of_underflow hsound hsource hunderflow
    exact ⟨event, List.mem_append_right _ hmem, hfault⟩
  · intro hcome event hmem
    obtain ⟨later, hlater, hrests⟩ := Session.rests_of_held (E := E) (hheld hcome)
    rw [hadds.events] at hlater
    obtain rfl := List.append_cancel_left hlater
    exact (List.mem_append.mp hmem).elim (hquiet event) (hrests event)
  · intro hcome hgreeted hstays hsettled hrequest
    have hsignals := Session.signals_accept_of_stays (E := E.journaled) handler hstays
    refine Session.wasSkipped_of_held (hheld hcome) ?_ ?_ hrequest ?_
    · refine hclosed.trans ?_
      rw [hsignals]
      exact hopen
    · have hphase : found.session.phase = (x.session.heedSignals E.journaled).phase := by
        rw [heq]
        rfl
      rw [hphase]
      rcases Session.heedSignals_cases E.journaled x.session with
        ⟨-, -, hheed⟩ | ⟨-, -, -, hheed⟩ | ⟨-, -, hheed⟩
      · rw [hheed]
        exact Phase.noConfusion
      · rw [hheed]
        exact Phase.noConfusion
      · rw [hheed]
        exact hgreeted
    · rw [heq]
      exact Session.relay_accept_of_settled E.journaled handler (Relay.isSettled_iff.mp hsettled)

/-- The interrupts of a session are those that were made less the RESETs that its worker has taken,
so they cover the RESETs that are still to come. No RESET misses its interrupt: the fault that there
is none comes from nowhere but the engine. As long as a RESET is to come no request that is taken is
worked on. -/
theorem resets_accounted (E : Engine σ P ρ) (self : Identity) (engine : σ)
    (inputs : List (Input H)) {s : Session (Journal σ P) (Numbered P) H}
    (hs : s = (Session.start self { state := engine }).after E.journaled inputs)
    (hzero : s.connection.signals.interrupts = 0) (moves : List (ExchangeMove H))
    {x : Exchange (Journal σ P) (Numbered P) H}
    (hx : x = ({ session := s } : Exchange _ _ _).after E.journaled moves)
    (hopen : x.session.isClosed = false) :
    x.session.connection.signals.interrupts = x.increments - x.taken ∧
    x.taken ≤ x.increments ∧ x.outstanding ≤ x.session.connection.signals.interrupts ∧
    ∀ request rest, x.queue = request :: rest → ∀ handler meanwhile, ∃ added,
      x.IsHandled E (x.accepted E.journaled rest handler meanwhile) request rest handler added := by
  have hend : s.EndShown := by
    rw [hs]
    exact Session.endShown_after inputs ⟨nofun, nofun⟩
  have hstart : ({ session := s } : Exchange (Journal σ P) (Numbered P) H).IsSound 0 :=
    ⟨hend, fun _ => ⟨hzero, Nat.zero_le _⟩⟩
  have hsound : x.IsSound 0 := by
    rw [hx]
    exact isSound_after hstart moves
  obtain ⟨hbalance, hcovered⟩ := hsound.accounted hopen
  refine ⟨by omega, by omega, hcovered, ?_⟩
  intro request rest hqueue handler meanwhile
  exact isHandled_of_isSound hsound hopen hqueue handler meanwhile

/-- A session that was greeted. -/
def greeted (E : Engine (Option Status) Unit RowBuffer) :
    Session (Journal (Option Status) Unit) (Numbered Unit) (Reply (List Response)) :=
  (Session.start {} { state := none }).after E.journaled [.request (.hello ∅) { output := [] } 0]

/-- A client asks for a transaction, and another one announces a RESET. -/
def beginAndAnnounce : List (ExchangeMove (Reply (List Response))) :=
  [.client (.send (.begin ∅) Request.noConfusion), .client .announce]

/-- The worker has taken neither yet. -/
def announcedFirst :
    Exchange (Journal (Option Status) Unit) (Numbered Unit) (Reply (List Response)) :=
  ({ session := greeted (Engine.frail .transactionTerminated) } : Exchange _ _ _).after
    (Engine.frail .transactionTerminated).journaled beginAndAnnounce

/-- The interrupt is counted, and the transaction is not opened. -/
theorem resets_accounted_announced :
    announcedFirst.session.connection.signals.interrupts = 1 ∧
    Session.WasSkipped { output := [] }
      ((announcedFirst.accepted (Engine.frail .transactionTerminated).journaled []
        { output := [] } []).served (Engine.frail .transactionTerminated).journaled
          (.begin ∅)) := by
  have hzero : (greeted (Engine.frail .transactionTerminated)).connection.signals.interrupts = 0 :=
    by decide +kernel
  have hopen : announcedFirst.session.isClosed = false := by decide +kernel
  obtain ⟨hbalance, -, -, hhandled⟩ := resets_accounted (Engine.frail .transactionTerminated) {}
    none _ rfl hzero beginAndAnnounce (x := announcedFirst) rfl hopen
  obtain ⟨added, hbegin⟩ := hhandled (.begin ∅) [] rfl { output := [] } []
  exact ⟨hbalance, hbegin.skipped (by decide +kernel) (by decide +kernel) (by decide +kernel)
    (by decide +kernel) Request.noConfusion⟩

end Exchange

/-- An engine whose processors return the fault that an interrupt is missing for every query. -/
def Engine.miscounting : Engine (Option Status) Unit RowBuffer :=
  { Engine.frail .transactionTerminated with run := fun _ _ _ _ => throw .counterUnderflow }

namespace Exchange

/-- A client asks for a query, and the worker has not taken it yet. -/
def askedMiscounting :
    Exchange (Journal (Option Status) Unit) (Numbered Unit) (Reply (List Response)) :=
  ({ session := greeted Engine.miscounting } : Exchange _ _ _).after Engine.miscounting.journaled
    [.client (.send (.run { query := "" }) Request.noConfusion)]

/-- Nobody has made an interrupt, or sent a RESET. The request fails for want of an interrupt all
the same, because its processor says so. -/
theorem resets_accounted_miscounting :
    (greeted Engine.miscounting).connection.signals.interrupts = 0 ∧
    askedMiscounting.increments = 0 ∧ askedMiscounting.session.isClosed = false ∧
    askedMiscounting.queue = [.run { query := "" }] ∧
    ((askedMiscounting.accepted Engine.miscounting.journaled [] { output := [] } []).served
      Engine.miscounting.journaled (.run { query := "" })).outcome = .error .counterUnderflow :=
  ⟨by decide +kernel, by decide +kernel, by decide +kernel, rfl, rfl⟩

end Exchange

/-! ## Workers

A worker that is fed step by step puts a RESET in the queue as soon as it has interrupted the
session, if there is room.
-/

namespace Worker

variable [RecordSource ρ] {E : Engine σ P ρ} {w : Worker σ P} {x : Exchange σ P (Reply Outlet)}

/-- A worker is where an exchange has come to. -/
structure IsPlayedBy (w : Worker σ P) (x : Exchange σ P (Reply Outlet)) : Prop where
  session : x.session = w.session
  queue : w.stopped = false → x.queue = w.queue
  isOpen : w.stopped = false → w.session.isClosed = false

/-- A queue is served by taking one request after the other. -/
lemma exists_after_serveAll (connected : Bool) (hopen : x.session.isClosed = false) :
    ∃ moves, (x.after E moves).session = (serveAll E connected x.queue x.session).2.1 ∧
      ((serveAll E connected x.queue x.session).1 = false →
        (x.after E moves).queue = [] ∧
          (serveAll E connected x.queue x.session).2.1.isClosed = false) := by
  obtain ⟨session, queue, announced, increments, taken⟩ := x
  -- the induction is on the queue, which is left alone once a request fails or ends the session
  induction queue generalizing session taken with
  | nil => exact ⟨[], rfl, fun _ => ⟨rfl, hopen⟩⟩
  | cons request queue ih =>
    have hmove : Exchange.move E ⟨session, request :: queue, announced, increments, taken⟩
          (.process { output := { connected } } []) =
        ⟨(session.serve E request { output := { connected } }).session, queue, announced,
          increments, taken + if request.isReset then 1 else 0⟩ := by
      rw [← Session.serveAmid_zero]
      exact if_neg (Bool.eq_false_iff.mp hopen)
    dsimp only
    unfold serveAll serveOne
    generalize session.serve E request { output := { connected } } = served at hmove
    obtain ⟨outcome, handler, next⟩ := served
    cases outcome with
    | error fault =>
      refine ⟨[.process { output := { connected } } []], ?_, fun hgone => Bool.noConfusion hgone⟩
      exact congrArg Exchange.session hmove
    | ok _ =>
      dsimp only
      split
      · refine ⟨[.process { output := { connected } } []], ?_, fun hgone => Bool.noConfusion hgone⟩
        exact congrArg Exchange.session hmove
      · rename_i hnext
        rw [Bool.not_eq_true] at hnext
        obtain ⟨moves, hrest⟩ := ih next _ hnext
        refine ⟨.process { output := { connected } } [] :: moves, ?_⟩
        show ((Exchange.move E _ _).after E moves).session = _ ∧
          (_ → ((Exchange.move E _ _).after E moves).queue = [] ∧ _)
        rw [hmove]
        exact hrest

lemma IsPlayedBy.enqueue (h : w.IsPlayedBy x) (request : Request) :
    ∃ moves, (finalState (w.enqueue request)).IsPlayedBy (x.after E moves) := by
  obtain ⟨hsession, hqueue, hopen⟩ := h
  unfold Worker.enqueue
  split
  · exact ⟨[], hsession, hqueue, hopen⟩
  rename_i hstopped
  rw [Bool.not_eq_true] at hstopped
  by_cases hreset : request = .reset
  · -- RESET interrupts the session even if there is no room for it
    subst hreset
    have hsession : x.session.interrupt = w.session.interrupt := congrArg Session.interrupt hsession
    show ∃ moves, (finalState (if w.queue.length < w.capacity then
        .ok .queued { w with session := w.session.interrupt, queue := w.queue ++ [.reset] }
      else .ok .full { w with session := w.session.interrupt } :
        EStateM.Result Fault (Worker σ P) Delivery)).IsPlayedBy (x.after E moves)
    split
    · refine ⟨[.client .announce, .client .post], hsession, fun _ => ?_, hopen⟩
      exact congrArg (fun queue => queue ++ [Request.reset]) (hqueue hstopped)
    · exact ⟨[.client .announce], hsession, hqueue, hopen⟩
  · rw [Exchange.isReset_of_ne hreset]
    show ∃ moves, (finalState (if w.queue.length < w.capacity then
        .ok .queued { w with queue := w.queue ++ [request] }
      else .ok .full w : EStateM.Result Fault (Worker σ P) Delivery)).IsPlayedBy (x.after E moves)
    split
    · refine ⟨[.client (.send request hreset)], hsession, fun _ => ?_, hopen⟩
      exact congrArg (fun queue => queue ++ [request]) (hqueue hstopped)
    · exact ⟨[], hsession, hqueue, hopen⟩

lemma IsPlayedBy.advance (h : w.IsPlayedBy x) :
    ∃ moves, (w.advance E).IsPlayedBy (x.after E moves) := by
  obtain ⟨hsession, hqueue, hopen⟩ := h
  unfold Worker.advance
  split
  · exact ⟨[], hsession, hqueue, hopen⟩
  rename_i hstopped
  rw [Bool.not_eq_true] at hstopped
  have hplayed : x.session.isClosed = false := by
    rw [hsession]
    exact hopen hstopped
  obtain ⟨moves, hserved, hrest⟩ := exists_after_serveAll (E := E) w.connected hplayed
  rw [hsession, hqueue hstopped] at hserved hrest
  generalize serveAll E w.connected w.queue w.session = result at hserved hrest
  obtain ⟨ended, session, answers⟩ := result
  cases ended with
  | false =>
    obtain ⟨hempty, hstill⟩ := hrest rfl
    exact ⟨moves, hserved, fun _ => hempty, fun _ => hstill⟩
  | true =>
    refine ⟨moves ++ [.stop], ?_, nofun, nofun⟩
    rw [Exchange.after_append]
    exact congrArg (Session.close E) hserved

/-- Whatever a worker does is done by moves of the exchange. -/
lemma IsPlayedBy.move (h : w.IsPlayedBy x) (next : WorkerMove) :
    ∃ moves, (w.move E next).IsPlayedBy (x.after E moves) := by
  cases next with
  | enqueue request => exact h.enqueue request
  | advance => exact h.advance
  | abandon => exact ⟨[], h.session, h.queue, h.isOpen⟩
  | interrupt =>
    exact ⟨[.client .interrupt], congrArg Session.interrupt h.session, h.queue, h.isOpen⟩
  | terminate =>
    exact ⟨[.client .terminate], congrArg (Session.signal Signals.terminate) h.session, h.queue,
      h.isOpen⟩

/-- Every run of a worker is one that an exchange can take. -/
theorem playedBy_after (E : Engine σ P ρ) {s : WorkerSession σ P} (hopen : s.isClosed = false)
    (settings : Settings) (inputs : List WorkerMove) :
    ∃ moves, (inputs.foldl (Worker.move E) (.new s settings)).IsPlayedBy
      (({ session := s } : Exchange _ _ _).after E moves) := by
  have hnew : (Worker.new s settings).IsPlayedBy { session := s } :=
    ⟨rfl, fun _ => rfl, fun _ => hopen⟩
  -- any exchange that plays the worker will do, so that the induction can go on from the next one
  generalize ({ session := s } : Exchange σ P (Reply Outlet)) = x at hnew
  generalize Worker.new s settings = w at hnew
  induction inputs generalizing w x with
  | nil => exact ⟨[], hnew⟩
  | cons next inputs ih =>
    obtain ⟨first, hfirst⟩ := hnew.move (E := E) next
    obtain ⟨moves, hrest⟩ := ih _ _ hfirst
    refine ⟨first ++ moves, ?_⟩
    rw [Exchange.after_append]
    exact hrest

end Worker
end QuerySession
