import QuerySession.Proofs.Precondition
import QuerySession.Session

/-!
# Runs of a session

A run is a list of inputs: requests with their handlers, signals from outside, the end, and
reports that are made while no request is handled. `Session.after` lets a session receive them in
turn; it is a function, since all that is open about the world stands in the engine and in the
inputs.

Interrupts may arrive while a request is handled. Only two steps of a request read the counter:
`Session.accept` does first of all, and RESET does when the request is performed. So
`Session.serveAmid` lets interrupts arrive between the two, and any other moment of a request is
like one before or after it.

* `Session.after_induction`: what every input preserves holds after a run;
* `Session.heedSignals_cases`: what the signals lead to before a request;
* `Session.perform_of_passes`, `Session.perform_of_kept`: which requests come to the table;
* `Session.connection_conclude`, `Session.phase_conclude`, `Session.handler_conclude`: what the
  last step of a request leaves.
-/

namespace QuerySession

/-- Adds several interrupts. -/
def Signals.interruptBy (n : Nat) (s : Signals) : Signals :=
  { s with interrupts := s.interrupts + n }

/-- What can reach a session. -/
inductive Input (H : Type) where
  /-- A request with its handler. While it is handled, some interrupts arrive. -/
  | request (request : Request) (handler : H) (interrupts : Nat)
  | interrupt
  | terminate
  | close
  /-- A report while no request is handled. -/
  | report (report : Report)

lemma Relay.isSettled_iff {H : Type} {r : Relay H} :
    r.isSettled ↔ r.failure = none ∧ r.ignored = false := by
  unfold isSettled
  rw [Bool.and_eq_true, Bool.not_eq_true', Option.isNone_iff_eq_none]

namespace Session

variable {σ P ρ H : Type} [Sink H] [RecordSource ρ]

/-- What a performed request comes to once what waits is reported and the handler detached. -/
def settle : EStateM.Result Fault (Session σ P H) Unit → Served σ P H
  | .ok () s => ⟨.ok (), (s.conclude !s.isClosed).1, (s.conclude !s.isClosed).2⟩
  | .error fault s => ⟨.error fault, (s.conclude true).1, (s.conclude true).2⟩

/-- Handles one request while interrupts arrive. -/
def serveAmid (E : Engine σ P ρ) (interrupts : Nat) (request : Request) (handler : H)
    (s : Session σ P H) : Served σ P H :=
  settle (perform E request ((s.accept E handler).signal (Signals.interruptBy interrupts)))

/-- The session as a request finds it, once it was accepted and some interrupts have arrived. -/
def found (E : Engine σ P ρ) (handler : H) (interrupts : Nat) (s : Session σ P H) :
    Session σ P H := (s.accept E handler).signal (Signals.interruptBy interrupts)

/-- A request that is left alone is served. -/
theorem serveAmid_zero (E : Engine σ P ρ) (request : Request) (handler : H)
    (s : Session σ P H) : s.serveAmid E 0 request handler = s.serve E request handler := by
  have haccept : (s.accept E handler).signal (Signals.interruptBy 0) = s.accept E handler := rfl
  rw [serveAmid, haccept, serve]
  cases perform E request (s.accept E handler) <;> rfl

/-- Receives an input. -/
def receive (E : Engine σ P ρ) (s : Session σ P H) : Input H → Session σ P H
  | .request request handler interrupts => (s.serveAmid E interrupts request handler).session
  | .interrupt => s.interrupt
  | .terminate => s.signal Signals.terminate
  | .close => s.close E
  | .report report => { s with connection := s.connection.tell report }

/-- Receives inputs in turn. -/
def after (E : Engine σ P ρ) (inputs : List (Input H)) (s : Session σ P H) : Session σ P H :=
  inputs.foldl (receive E) s

@[simp] lemma after_nil (E : Engine σ P ρ) (s : Session σ P H) : s.after E [] = s := rfl

@[simp] lemma after_cons (E : Engine σ P ρ) (input : Input H) (inputs : List (Input H))
    (s : Session σ P H) : s.after E (input :: inputs) = (s.receive E input).after E inputs := rfl

@[simp] lemma after_append (E : Engine σ P ρ) (first rest : List (Input H))
    (s : Session σ P H) : s.after E (first ++ rest) = (s.after E first).after E rest :=
  List.foldl_append

/-- What every input of a run preserves holds after the run. -/
theorem after_induction {E : Engine σ P ρ} {motive : Session σ P H → Prop}
    {inputs : List (Input H)} {s : Session σ P H} (start : motive s)
    (step : ∀ input ∈ inputs, ∀ s, motive s → motive (s.receive E input)) :
    motive (s.after E inputs) := by
  induction inputs generalizing s with
  | nil => exact start
  | cons input inputs ih =>
    rw [after_cons]
    apply ih
    · exact step input List.mem_cons_self s start
    · intro later hlater
      exact step later (List.mem_cons_of_mem _ hlater)

/-! ## The start of a request -/

omit [RecordSource ρ] [Sink H] in
@[simp] lemma relay_close (E : Engine σ P ρ) (s : Session σ P H) :
    (s.close E).connection.relay = s.connection.relay := relay_release E

omit [RecordSource ρ] [Sink H] in
/-- The signals end a session, interrupt it, or leave it alone. -/
theorem heedSignals_cases (E : Engine σ P ρ) (s : Session σ P H) :
    (s.connection.signals.terminated = true ∧ s.isClosed = false ∧
      s.heedSignals E = s.close E) ∨
    (s.connection.signals.terminated = false ∧ s.connection.signals.isInterrupted = true ∧
      canBeInterrupted s.phase = true ∧
      s.heedSignals E =
        { s with connection := s.connection.abort E, phase := .interrupted }) ∨
    ((s.connection.signals.terminated = true → s.isClosed = true) ∧
      (s.connection.signals.terminated = false → s.connection.signals.isInterrupted = true →
        canBeInterrupted s.phase = false) ∧
      s.heedSignals E = s) := by
  unfold heedSignals
  cases s.connection.signals.terminated with
  | true =>
    rw [if_pos rfl]
    cases s.isClosed with
    | true => exact Or.inr (Or.inr ⟨fun _ => rfl, nofun, if_pos rfl⟩)
    | false => exact Or.inl ⟨rfl, rfl, if_neg Bool.false_ne_true⟩
  | false =>
    rw [if_neg Bool.false_ne_true]
    right
    by_cases hinterrupted :
        (s.connection.signals.isInterrupted && canBeInterrupted s.phase) = true
    · rw [if_pos hinterrupted]
      rw [Bool.and_eq_true] at hinterrupted
      exact Or.inl ⟨rfl, hinterrupted.1, hinterrupted.2, rfl⟩
    · rw [if_neg hinterrupted]
      refine Or.inr ⟨nofun, fun _ hwaiting => ?_, rfl⟩
      rw [hwaiting, Bool.true_and] at hinterrupted
      exact Bool.eq_false_iff.mpr hinterrupted

omit [RecordSource ρ] [Sink H] in
/-- Without a signal nothing happens before a request. -/
lemma heedSignals_of_undisturbed (E : Engine σ P ρ) {s : Session σ P H}
    (hstays : s.connection.signals.terminated = false)
    (hnone : s.connection.signals.interrupts = 0) : s.heedSignals E = s := by
  unfold heedSignals Signals.isInterrupted
  rw [hstays, hnone]
  rfl

omit [RecordSource ρ] [Sink H] in
/-- A session that goes on is interrupted before a request, if an interrupt is due. -/
lemma phase_heedSignals_of_stays (E : Engine σ P ρ) {s : Session σ P H}
    (hstays : s.connection.signals.terminated = false) (hdefunct : s.phase ≠ .defunct) :
    (s.heedSignals E).phase =
      if 0 < s.connection.signals.interrupts ∧ s.phase ≠ .connected then .interrupted
      else s.phase := by
  rcases heedSignals_cases E s with ⟨hends, -, -⟩ | ⟨-, hpending, hcounts, heq⟩ | ⟨-, hwaits, heq⟩
  · exact absurd (hstays.symm.trans hends) Bool.false_ne_true
  · have hconnected : s.phase ≠ .connected := by
      intro hphase
      rw [hphase] at hcounts
      cases hcounts
    rw [heq, if_pos ⟨of_decide_eq_true hpending, hconnected⟩]
  · rw [heq]
    split
    · -- only an interrupt that has taken effect before leaves such a session alone
      rename_i hinterrupted
      have hcounts := hwaits hstays (decide_eq_true hinterrupted.1)
      cases hphase : s.phase with
      | connected => exact absurd hphase hinterrupted.2
      | defunct => exact absurd hphase hdefunct
      | interrupted => rfl
      | _ =>
        rw [hphase] at hcounts
        cases hcounts
    · rfl

omit [RecordSource ρ] [Sink H] in
lemma relay_heedSignals (E : Engine σ P ρ) (s : Session σ P H) :
    (s.heedSignals E).connection.relay = s.connection.relay := by
  rcases heedSignals_cases E s with ⟨-, -, heq⟩ | ⟨-, -, -, heq⟩ | ⟨-, -, heq⟩
  · rw [heq]
    exact relay_close E s
  · rw [heq]
    exact Connection.relay_abort
  · rw [heq]

omit [RecordSource ρ] [Sink H] in
/-- The handler is attached, and hears nothing of what waits. -/
theorem relay_accept (E : Engine σ P ρ) (handler : H) (s : Session σ P H) :
    (s.accept E handler).connection.relay =
      { s.connection.relay with handler := some handler } := by
  unfold accept
  dsimp only
  split
  · rw [relay_heedSignals]
    rfl
  · rw [Connection.relay_validate, relay_heedSignals]
    rfl

omit [RecordSource ρ] [Sink H] in
/-- A session that has ended asks after no transaction. -/
lemma accept_of_closed {E : Engine σ P ρ} {s : Session σ P H}
    (hclosed : (s.heedSignals E).isClosed = true) (handler : H) :
    s.accept E handler =
      { s.heedSignals E with connection := { (s.heedSignals E).connection with
        relay := { s.connection.relay with handler := some handler } } } := by
  rw [← relay_heedSignals E s]
  unfold accept
  dsimp only
  rw [if_pos hclosed]
  rfl

omit [RecordSource ρ] [Sink H] in
/-- A session that goes on asks whether its transaction is alive. -/
lemma accept_of_open {E : Engine σ P ρ} {s : Session σ P H}
    (hopen : (s.heedSignals E).isClosed = false) (handler : H) :
    s.accept E handler =
      { s.heedSignals E with connection := { (s.heedSignals E).connection.validate E with
        relay := { s.connection.relay with handler := some handler } } } := by
  have hrelay := relay_accept E handler s
  unfold accept at hrelay ⊢
  dsimp only at hrelay ⊢
  rw [if_neg (Bool.eq_false_iff.mp hopen)] at hrelay ⊢
  rw [hrelay]

omit [RecordSource ρ] [Sink H] in
/-- With nothing waiting, the relay of a request is that of its handler alone. -/
lemma relay_accept_of_settled (E : Engine σ P ρ) (handler : H) {s : Session σ P H}
    (h : s.connection.relay.failure = none ∧ s.connection.relay.ignored = false) :
    (s.accept E handler).connection.relay = { handler := some handler } := by
  rw [relay_accept]
  generalize s.connection.relay = relay at h ⊢
  obtain ⟨old, failure, ignored⟩ := relay
  obtain ⟨rfl, rfl⟩ := h
  rfl

omit [RecordSource ρ] [Sink H] in
/-- With no signal to heed and nothing waiting, a session only asks after the transaction before a
request. -/
lemma accept_of_undisturbed (E : Engine σ P ρ) {s : Session σ P H} (hopen : s.isClosed = false)
    (hstays : s.connection.signals.terminated = false)
    (hnone : s.connection.signals.interrupts = 0) (hsettled : s.connection.relay.isSettled)
    (handler : H) :
    s.accept E handler =
      { s with connection := { s.connection.validate E with
        relay := { handler := some handler } } } := by
  have hheed := heedSignals_of_undisturbed E hstays hnone
  have hheeded : (s.heedSignals E).isClosed = false := by
    rw [hheed]
    exact hopen
  have hrelay : ({ s.connection.relay with handler := some handler } : Relay H) =
      { handler := some handler } :=
    (relay_accept E handler s).symm.trans
      (relay_accept_of_settled E handler (Relay.isSettled_iff.mp hsettled))
  rw [accept_of_open hheeded handler, hheed, hrelay]

/-! ## The gate

A request comes to the table if nothing waits to be reported, or if it does not wait for that. -/

omit [RecordSource ρ] [Sink H] in
/-- A request that is not kept back. -/
def passes (request : Request) (s : Session σ P H) : Bool :=
  request.isReset || request.isAlwaysSafe || s.connection.canProceed

omit [RecordSource ρ] [Sink H] in
lemma passes_of_settled (request : Request) {s : Session σ P H} (hopen : s.isClosed = false)
    (hsettled : s.connection.relay.isSettled) : s.passes request := by
  have hproceed : s.connection.canProceed = true := by
    unfold Connection.canProceed
    rw [hsettled, Bool.and_true, Bool.not_eq_true']
    exact hopen
  unfold passes
  rw [hproceed, Bool.or_true]

omit [RecordSource ρ] [Sink H] in
/-- Only RESET and GOODBYE pass what waits to be reported. -/
lemma passes_of_unsettled {request : Request} {s : Session σ P H}
    (hwaits : ¬ s.connection.relay.isSettled) :
    s.passes request ↔ request = .reset ∨ request = .goodbye := by
  have hproceed : s.connection.canProceed = false := by
    unfold Connection.canProceed
    rw [Bool.eq_false_iff.mpr hwaits, Bool.and_false]
  unfold passes
  rw [hproceed, Bool.or_false]
  cases request <;> simp [Request.isReset, Request.isAlwaysSafe]

lemma perform_of_closed {E : Engine σ P ρ} (request : Request) {s : Session σ P H}
    (hclosed : s.isClosed = true) : perform E request s = .ok () s := by
  unfold perform
  rw [if_pos hclosed]

lemma perform_of_kept {E : Engine σ P ρ} {request : Request} {s : Session σ P H}
    (hkept : ¬ s.passes request) : perform E request s = .ok () s := by
  unfold perform
  split
  · rfl
  · exact if_neg hkept

lemma perform_of_passes {E : Engine σ P ρ} {request : Request} {s : Session σ P H}
    (hopen : s.isClosed = false) (hpasses : s.passes request) :
    perform E request s = dispatch E request s := by
  unfold perform
  rw [hopen, if_neg Bool.false_ne_true]
  exact if_pos hpasses

/-- A request leaves the session alone unless it comes to the table, which it does only in an open
session. -/
theorem wp_perform {E : Engine σ P ρ} {request : Request} {s : Session σ P H}
    {done : Unit → Session σ P H → Prop} {failed : Fault → Session σ P H → Prop}
    (kept : done () s)
    (answered : s.isClosed = false → wp (dispatch E request) done failed s) :
    wp (perform E request) done failed s := by
  unfold wp
  by_cases hpasses : s.passes request
  · cases hclosed : s.isClosed with
    | true =>
      rw [perform_of_closed request hclosed]
      exact kept
    | false =>
      rw [perform_of_passes hclosed hpasses]
      exact answered hclosed
  · rw [perform_of_kept hpasses]
    exact kept

/-- Any request but GOODBYE leads to the next phase of the table, or to a fault. -/
theorem dispatch_of_ne (E : Engine σ P ρ) {request : Request} (hrequest : request ≠ .goodbye)
    (s : Session σ P H) :
    dispatch E request s =
      match s.phase.answer E s.self request s.connection with
      | .ok next c => .ok () { s with connection := c, phase := next }
      | .error fault c => fail E fault { s with connection := c } := by
  cases request with
  | goodbye => exact absurd rfl hrequest
  | _ => rfl

theorem wp_dispatch_of_ne {E : Engine σ P ρ} {request : Request} (hrequest : request ≠ .goodbye)
    {s : Session σ P H} {done : Unit → Session σ P H → Prop}
    {failed : Fault → Session σ P H → Prop}
    (answered : wp (s.phase.answer E s.self request)
      (fun next c => done () { s with connection := c, phase := next })
      (fun fault c => Meets done failed (fail E fault { s with connection := c })) s.connection) :
    wp (dispatch E request) done failed s := by
  unfold wp at answered ⊢
  rw [dispatch_of_ne E hrequest]
  cases hanswer : s.phase.answer E s.self request s.connection with
  | ok next c =>
    rw [hanswer] at answered
    exact answered
  | error fault c =>
    rw [hanswer] at answered
    exact answered

/-- GOODBYE ends the session. Any other request leads to the next phase of the table, or to a
fault. -/
theorem wp_dispatch {E : Engine σ P ρ} {request : Request} {s : Session σ P H}
    {post : Session σ P H → Prop} (ended : post (s.close E))
    (answered : wp (s.phase.answer E s.self request)
      (fun next c => post { s with connection := c, phase := next })
      (fun fault c => Meets (fun _ => post) (fun _ => post)
        (fail E fault { s with connection := c })) s.connection) :
    wp (dispatch E request) (fun _ => post) (fun _ => post) s := by
  by_cases hgoodbye : request = .goodbye
  · subst hgoodbye
    exact ended
  · exact wp_dispatch_of_ne hgoodbye answered

/-! ## The end of a request -/

/-- After a request the relay is as it was at the start, and nothing else of the connection
changes. -/
theorem connection_conclude (reply : Bool) (s : Session σ P H) :
    (s.conclude reply).2.connection = { s.connection with relay := {} } := by
  obtain ⟨self, ⟨⟨handler, failure, ignored⟩, bound, notice, signals, engine⟩, phase⟩ := s
  cases handler <;> cases failure <;> cases ignored <;> cases reply <;> rfl

/-- A failure that waited fails the session. -/
theorem phase_conclude (reply : Bool) (s : Session σ P H) :
    (s.conclude reply).2.phase =
      if s.connection.relay.failure.isSome then phaseAfterFailure s.phase else s.phase := by
  obtain ⟨self, ⟨⟨handler, failure, ignored⟩, bound, notice, signals, engine⟩, phase⟩ := s
  cases handler <;> cases failure <;> cases ignored <;> cases reply <;> rfl

/-- What a handler is told at the end of a request: what waited, and that this was all. -/
def conclusion (reply : Bool) (r : Relay H) : List Report :=
  (r.failure.map Report.failed).toList ++ (if r.ignored then [.ignored] else []) ++
    if reply then [.finished] else []

/-- The handler is returned, and was told the conclusion. -/
theorem handler_conclude (reply : Bool) (s : Session σ P H) :
    (s.conclude reply).1 =
      s.connection.relay.handler.map
        ((conclusion reply s.connection.relay).foldl fun handler report =>
          Sink.tell report handler) := by
  obtain ⟨self, ⟨⟨handler, failure, ignored⟩, bound, notice, signals, engine⟩, phase⟩ := s
  cases handler <;> cases failure <;> cases ignored <;> cases reply <;> rfl

/-! A request that was performed without a fault, or not at all, is only concluded. -/

lemma connection_settle_ok (s : Session σ P H) :
    (settle (.ok () s)).session.connection = { s.connection with relay := {} } :=
  connection_conclude _ s

lemma phase_settle_ok (s : Session σ P H) :
    (settle (.ok () s)).session.phase =
      if s.connection.relay.failure.isSome then phaseAfterFailure s.phase else s.phase :=
  phase_conclude _ s

/-- With nothing waiting, the handler only hears that this was all. -/
lemma settle_of_told {s : Session σ P H} {told : H} (hopen : s.isClosed = false)
    (hrelay : s.connection.relay = { handler := some told }) :
    settle (.ok () s) =
      ⟨.ok (), some (Sink.tell .finished told),
        { s with connection := { s.connection with relay := {} } }⟩ := by
  unfold settle
  dsimp only
  rw [hopen]
  obtain ⟨self, ⟨relay, bound, notice, signals, engine⟩, phase⟩ := s
  obtain rfl : relay = _ := hrelay
  rfl

section
variable {E : Engine σ P ρ} {request : Request} {s : Session σ P H} {c : Connection σ P H}
  {told : H}

/-- A request that the table answers leads to the next phase. -/
theorem settle_of_answer (hopen : s.isClosed = false) (hpasses : s.passes request)
    (hrequest : request ≠ .goodbye) {next : Phase}
    (hanswer : s.phase.answer E s.self request s.connection = .ok next c)
    (hstill : c.signals.closed = false) (hrelay : c.relay = { handler := some told }) :
    settle (perform E request s) =
      ⟨.ok (), some (Sink.tell .finished told),
        { s with connection := { c with relay := {} }, phase := next }⟩ := by
  rw [perform_of_passes hopen hpasses, dispatch_of_ne E hrequest, hanswer]
  exact settle_of_told (s := { s with connection := c, phase := next }) hstill hrelay

/-- A session that waits for RESET skips every other request but GOODBYE. -/
theorem settle_of_skip (hopen : s.isClosed = false)
    (hphase : s.phase = .failed ∨ s.phase = .interrupted) (hreset : request ≠ .reset)
    (hgoodbye : request ≠ .goodbye) (hrelay : s.connection.relay = { handler := some told }) :
    settle (perform E request s) =
      ⟨.ok (), some (Sink.tell .finished (Sink.tell .ignored told)),
        { s with connection := { s.connection with relay := {} } }⟩ := by
  have hanswer : s.phase.answer E s.self request s.connection =
      .ok s.phase (s.connection.tell .ignored) := by
    rw [Phase.answer_of_ne _ _ _ hreset]
    rcases hphase with hphase | hphase
    · rw [hphase]
      rfl
    · rw [hphase]
      rfl
  have htold : (s.connection.tell .ignored).relay =
      { handler := some (Sink.tell .ignored told) } := by
    show s.connection.relay.tell .ignored = _
    rw [hrelay]
    rfl
  have hsettled : s.connection.relay.isSettled := by
    rw [hrelay]
    rfl
  have hserved := settle_of_answer hopen (passes_of_settled request hopen hsettled) hgoodbye
    hanswer hopen htold
  exact hserved

/-- A request at which the table fails is told so, and fails the session. -/
theorem settle_of_fault (hopen : s.isClosed = false) (hpasses : s.passes request)
    (hrequest : request ≠ .goodbye) {fault : Fault} (hfault : fault.isFatal = false)
    (hanswer : s.phase.answer E s.self request s.connection = .error fault c)
    (hstill : c.signals.closed = false) (hrelay : c.relay = { handler := some told }) :
    settle (perform E request s) =
      ⟨.ok (), some (Sink.tell .finished (Sink.tell (.failed (.ofFault fault)) told)),
        { s with connection := { c with relay := {} }, phase := .failed }⟩ := by
  have hfail : fail E fault { s with connection := c } =
      .ok () { s with connection := c.tell (.failed (.ofFault fault)), phase := .failed } := by
    unfold fail
    dsimp only
    rw [if_neg (Bool.eq_false_iff.mp hfault)]
  have htold : (c.tell (.failed (.ofFault fault))).relay =
      { handler := some (Sink.tell (.failed (.ofFault fault)) told) } := by
    show c.relay.tell _ = _
    rw [hrelay]
    rfl
  rw [perform_of_passes hopen hpasses, dispatch_of_ne E hrequest, hanswer]
  dsimp only
  rw [hfail]
  exact settle_of_told
    (s := { s with connection := c.tell (.failed (.ofFault fault)), phase := .failed }) hstill htold

omit [RecordSource ρ] [Sink H] in
/-- The relay has no part in the end. -/
lemma release_relay (E : Engine σ P ρ) (c : Connection σ P H) (relay : Relay H) :
    ({ c with relay } : Connection σ P H).release E = { c.release E with relay } := by
  rcases Option.eq_none_or_eq_some c.notice with hnotice | ⟨status, hnotice⟩
  · rw [release_of_bound (c := c) hnotice rfl,
      release_of_bound (c := { c with relay }) hnotice rfl]
  · rw [release_of_notice (c := c) hnotice,
      release_of_notice (c := { c with relay }) hnotice]

/-- A request at which the table fails fatally is told so, and ends the session. -/
theorem settle_of_fatal (hopen : s.isClosed = false) (hpasses : s.passes request)
    (hrequest : request ≠ .goodbye) {fault : Fault} (hfatal : fault.isFatal)
    (hanswer : s.phase.answer E s.self request s.connection = .error fault c)
    (hrelay : c.relay = { handler := some told }) :
    settle (perform E request s) =
      ⟨.error fault, some (Sink.tell .finished (Sink.tell (.failed (.ofFault fault)) told)),
        { s with
          connection := { (c.release E).markClosed with relay := {} }
          phase := .defunct }⟩ := by
  have hfail : fail E fault { s with connection := c } =
      .error fault (({ s with
        connection := c.tell (.failed (.ofFault fault)) } : Session σ P H).close E) := by
    unfold fail
    dsimp only
    rw [if_pos hfatal]
  have htold : c.tell (.failed (.ofFault fault)) =
      { c with relay := { handler := some (Sink.tell (.failed (.ofFault fault)) told) } } := by
    show ({ c with relay := c.relay.tell _ } : Connection σ P H) = _
    rw [hrelay]
    rfl
  rw [perform_of_passes hopen hpasses, dispatch_of_ne E hrequest, hanswer]
  dsimp only
  rw [hfail, htold]
  unfold Session.close settle
  dsimp only
  rw [release_relay]
  rfl

/-- A fatal fault ends the session. -/
theorem isClosed_settle_of_fatal (hopen : s.isClosed = false) (hpasses : s.passes request)
    (hrequest : request ≠ .goodbye) {fault : Fault} (hfault : fault.isFatal)
    (hanswer : s.phase.answer E s.self request s.connection = .error fault c) :
    (settle (perform E request s)).session.isClosed = true := by
  have hfail : fail E fault { s with connection := c } =
      .error fault (({ s with
        connection := c.tell (.failed (.ofFault fault)) } : Session σ P H).close E) := by
    unfold fail
    dsimp only
    rw [if_pos hfault]
  rw [perform_of_passes hopen hpasses, dispatch_of_ne E hrequest, hanswer]
  dsimp only
  rw [hfail]
  unfold isClosed
  show (Session.conclude true _).2.connection.signals.closed = true
  rw [connection_conclude]
  rfl

/-- GOODBYE ends the session. -/
theorem isClosed_settle_of_goodbye (hopen : s.isClosed = false) :
    (settle (perform E .goodbye s)).session.isClosed = true := by
  have hgoodbye : dispatch E .goodbye s = .ok () (s.close E) := rfl
  rw [perform_of_passes hopen rfl, hgoodbye]
  unfold isClosed
  show (Session.conclude _ _).2.connection.signals.closed = true
  rw [connection_conclude]
  rfl

/-- A session that has ended stays so. -/
theorem isClosed_settle (request : Request) (hclosed : s.isClosed = true) :
    (settle (perform E request s)).session.isClosed = true := by
  rw [perform_of_closed request hclosed]
  unfold isClosed at hclosed ⊢
  show (s.conclude _).2.connection.signals.closed = true
  rw [connection_conclude]
  exact hclosed

end

/-- What holds after a request was performed, and is not spoilt by its conclusion, holds once the
request is over. -/
theorem session_settle {post : Session σ P H → Prop}
    {r : EStateM.Result Fault (Session σ P H) Unit}
    (performed : Meets (fun _ => post) (fun _ => post) r)
    (concluded : ∀ reply s, post s → post (s.conclude reply).2) : post (settle r).session := by
  cases r with
  | ok _ s => exact concluded _ s performed
  | error _ s => exact concluded _ s performed

/-! ## Nothing is buffered between requests

Only a report while no request is handled is kept for later. -/

lemma relay_settle (r : EStateM.Result Fault (Session σ P H) Unit) :
    (settle r).session.connection.relay = {} := by
  cases r with
  | ok _ s => exact congrArg Connection.relay (connection_conclude (!s.isClosed) s)
  | error _ s => exact congrArg Connection.relay (connection_conclude true s)

lemma relay_receive (E : Engine σ P ρ) {s : Session σ P H} {input : Input H}
    (hinput : ∀ report, input ≠ .report report) (h : s.connection.relay = {}) :
    (s.receive E input).connection.relay = {} := by
  cases input with
  | request request handler interrupts => exact relay_settle _
  | interrupt => exact h
  | terminate => exact h
  | close => exact (relay_close E s).trans h
  | report report => exact absurd rfl (hinput report)

end Session
end QuerySession
