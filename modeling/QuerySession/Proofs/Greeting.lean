import Mathlib.Data.List.Induction
import QuerySession.Proofs.Invariant
import QuerySession.Proofs.Recovery

/-!
# Nothing happens before HELLO

Until a HELLO has succeeded, a session does not get to work, and its engine is asked for nothing.
There is one way around: a failure that was reported to nobody is handed to the next request, and
fails the session even if it still waits for HELLO. RESET makes such a session ready.

* `Session.untouched_or_after`: a session is untouched until a HELLO succeeds or a waiting failure
  is handed to a request;
* `Session.gate_after`: the rule, and that the way around is one.
-/

namespace QuerySession

variable {σ P ρ H : Type} {E : Engine σ P ρ}

/-- The phases in which a client can have statements run. -/
def Phase.isUsable : Phase → Bool
  | ready | streaming | transactionReady | transactionStreaming => true
  | connected | failed | interrupted | defunct => false

namespace Connection

/-- No processor is bound, none was lost, and the engine is in a given state. -/
structure IsIdle (engine : σ) (c : Connection σ P H) : Prop where
  bound : c.bound = none
  notice : c.notice = none
  engine_eq : c.engine = engine

variable {engine : σ} {c : Connection σ P H}

/-! The idle processor neither is changed by anything nor changes anything. -/

lemma IsIdle.validate (h : c.IsIdle engine) : (c.validate E).IsIdle engine := by
  rw [validate_of_bound h.notice h.bound]
  exact ⟨h.bound, h.notice, h.engine_eq⟩

lemma IsIdle.abort (h : c.IsIdle engine) : (c.abort E).IsIdle engine := by
  rw [abort_of_bound h.notice h.bound]
  exact ⟨h.bound, h.notice, h.engine_eq⟩

lemma IsIdle.release (h : c.IsIdle engine) : (c.release E).IsIdle engine := by
  rw [release_of_bound h.notice h.bound]
  exact ⟨rfl, h.notice, h.engine_eq⟩

lemma IsIdle.relay (h : c.IsIdle engine) (relay : Relay H) : ({ c with relay }).IsIdle engine :=
  ⟨h.bound, h.notice, h.engine_eq⟩

end Connection

namespace Session

variable {engine : σ} {s : Session σ P H}

lemma isIdle_heedSignals (h : s.connection.IsIdle engine) :
    (s.heedSignals E).connection.IsIdle engine := by
  rcases heedSignals_cases E s with ⟨-, -, heq⟩ | ⟨-, -, -, heq⟩ | ⟨-, -, heq⟩
  · rw [heq]
    have hreleased := h.release (E := E)
    exact ⟨hreleased.bound, hreleased.notice, hreleased.engine_eq⟩
  · rw [heq]
    exact h.abort
  · rwa [heq]

lemma isIdle_accept (handler : H) (h : s.connection.IsIdle engine) :
    (s.accept E handler).connection.IsIdle engine := by
  have hheed : (s.heedSignals E).connection.IsIdle engine := isIdle_heedSignals h
  unfold accept
  dsimp only
  split
  · exact hheed.relay _
  · exact hheed.validate.relay _

/-- Nothing has happened to the session, except that it may have ended. -/
def IsUntouched (engine : σ) (s : Session σ P H) : Prop :=
  s.connection.IsIdle engine ∧ (s.phase = .connected ∨ s.phase = .defunct)

lemma isUntouched_signal (f : Signals → Signals) (h : s.IsUntouched engine) :
    (s.signal f).IsUntouched engine :=
  ⟨⟨h.1.bound, h.1.notice, h.1.engine_eq⟩, h.2⟩

lemma isUntouched_close (h : s.connection.IsIdle engine) : (s.close E).IsUntouched engine := by
  have hreleased := h.release (E := E)
  exact ⟨⟨hreleased.bound, hreleased.notice, hreleased.engine_eq⟩, Or.inr rfl⟩

lemma isUntouched_accept (handler : H) (h : s.IsUntouched engine) :
    (s.accept E handler).IsUntouched engine := by
  refine ⟨isIdle_accept handler h.1, ?_⟩
  show (s.heedSignals E).phase = .connected ∨ (s.heedSignals E).phase = .defunct
  rcases heedSignals_cases E s with ⟨-, -, heq⟩ | ⟨-, -, hcounts, -⟩ | ⟨-, -, heq⟩
  · rw [heq]
    exact Or.inr rfl
  · -- an interrupt counts neither before HELLO nor after the end
    rcases h.2 with hphase | hphase
    · rw [hphase] at hcounts
      exact absurd hcounts Bool.false_ne_true
    · rw [hphase] at hcounts
      exact absurd hcounts Bool.false_ne_true
  · rw [heq]
    exact h.2

/-- A session that is open for a request was not asked to end. -/
lemma stays_of_accept {handler : H} (hopen : (s.accept E handler).isClosed = false) :
    s.isClosed = false ∧ s.connection.signals.terminated = false := by
  unfold isClosed at hopen
  rw [signals_accept] at hopen
  rcases heedSignals_cases E s with ⟨-, -, heq⟩ | ⟨hstays, -, -, heq⟩ | ⟨hended, -, heq⟩
  · rw [heq] at hopen
    cases hopen
  · rw [heq] at hopen
    have hkept : (s.connection.abort E).signals = s.connection.signals :=
      Connection.signals_abort
    exact ⟨(congrArg Signals.closed hkept).symm.trans hopen, hstays⟩
  · rw [heq] at hopen
    refine ⟨hopen, Bool.eq_false_iff.mpr fun hterminated => ?_⟩
    exact absurd (hopen.symm.trans (hended hterminated)) Bool.false_ne_true

variable [Sink H]

/-- Nothing has happened to the session, and nothing waits that could fail it. -/
def IsQuiet (engine : σ) (s : Session σ P H) : Prop :=
  s.IsUntouched engine ∧ (s.phase = .defunct ∨ s.connection.relay.failure = none)

lemma isQuiet_conclude (reply : Bool) (h : s.IsQuiet engine) :
    (s.conclude reply).2.IsQuiet engine := by
  unfold IsQuiet IsUntouched
  rw [connection_conclude, phase_conclude]
  refine ⟨⟨h.1.1.relay _, ?_⟩, Or.inr rfl⟩
  rcases h.2 with hphase | hnone
  · -- a failure does not revive a session that has ended
    rw [hphase]
    split
    · exact Or.inr rfl
    · exact Or.inr rfl
  · rw [hnone, if_neg (by exact Bool.false_ne_true)]
    exact h.1.2

/-! ## What a request can do before HELLO -/

variable [RecordSource ρ]

/-- Other requests than HELLO end the session. -/
lemma isQuiet_dispatch {request : Request} (hhello : ∀ extra, request ≠ .hello extra)
    (hphase : s.phase = .connected) (h : s.connection.IsIdle engine) :
    wp (dispatch E request) (fun _ s => s.IsQuiet engine) (fun _ s => s.IsQuiet engine) s := by
  have hfatal : ∀ message, wp (fun s => fail E (.fatal message) s)
      (fun _ s => s.IsQuiet engine) (fun _ s => s.IsQuiet engine) s := by
    intro message
    have htold : (s.connection.tell (.failed (.ofFault (.fatal message)))).IsIdle engine :=
      h.relay _
    exact ⟨isUntouched_close
      (s := { s with connection := s.connection.tell (.failed (.ofFault (.fatal message))) })
      htold, Or.inl rfl⟩
  unfold wp dispatch
  cases request with
  | goodbye => exact ⟨isUntouched_close h, Or.inl rfl⟩
  | hello extra => exact absurd rfl (hhello extra)
  | _ =>
    rw [hphase]
    exact hfatal _

/-- A HELLO that is not kept back makes the session ready. -/
lemma perform_hello (extra : Extra) (hphase : s.phase = .connected) (hopen : s.isClosed = false)
    (hsettled : s.connection.relay.isSettled) :
    perform E (.hello extra) s =
      .ok () { s with
        connection := (s.connection.tell (.metadata "server" (toValue s.self.serverAgent))).tell
          (.metadata "connection_id" (toValue s.self.connectionId))
        phase := .ready } := by
  rw [perform_of_passes hopen (passes_of_settled _ hopen hsettled)]
  unfold dispatch
  rw [hphase]
  rfl

/-- A failure waits to be reported, and a request other than RESET and GOODBYE comes to a session
that goes on and still waits for HELLO. -/
structure LeaksInto (request : Request) (s : Session σ P H) : Prop where
  phase : s.phase = .connected
  stays : s.isClosed = false ∧ s.connection.signals.terminated = false
  request : request ≠ .reset ∧ request ≠ .goodbye
  failure : s.connection.relay.failure ≠ none

omit [Sink H] [RecordSource ρ] in
/-- An untouched session that is open for a request waits for HELLO. -/
lemma phase_of_accept {handler : H} (h : s.IsUntouched engine) (hend : s.EndShown)
    (hopen : (s.accept E handler).isClosed = false) :
    s.phase = .connected ∧ (s.accept E handler).phase = .connected := by
  constructor
  · rcases h.2 with hphase | hphase
    · exact hphase
    · have hstays : s.isClosed = false := (stays_of_accept hopen).1
      exact absurd (hstays.symm.trans (hend.mp hphase)) Bool.false_ne_true
  · rcases (isUntouched_accept (E := E) handler h).2 with hphase | hphase
    · exact hphase
    · have hclosed : (s.accept E handler).isClosed := (endShown_accept handler hend).mp hphase
      exact absurd (hopen.symm.trans hclosed) Bool.false_ne_true

/-- A request that is performed on an untouched session leaves it so, unless it is a HELLO that
finds nothing waiting, or a failure leaks into it. -/
lemma isQuiet_perform (request : Request) (handler : H) (interrupts : Nat)
    (h : s.IsUntouched engine) (hend : s.EndShown) :
    wp (perform E request) (fun _ s => s.IsQuiet engine) (fun _ s => s.IsQuiet engine)
      ((s.accept E handler).signal (Signals.interruptBy interrupts)) ∨
    ((∃ extra, request = .hello extra) ∧ (s.accept E handler).phase = .connected ∧
      (s.accept E handler).isClosed = false ∧ s.connection.relay.isSettled) ∨
    s.LeaksInto request := by
  have haccepted : ((s.accept E handler).signal
      (Signals.interruptBy interrupts)).IsUntouched engine :=
    isUntouched_signal _ (isUntouched_accept handler h)
  have hrelay : (s.accept E handler).connection.relay =
      { s.connection.relay with handler := some handler } := relay_accept E handler s
  -- the gate of `perform`: the end, what waits to be reported, and then the table
  by_cases hclosed : ((s.accept E handler).signal (Signals.interruptBy interrupts)).isClosed
  · left
    have hphase := (endShown_accept handler hend).mpr hclosed
    unfold wp
    rw [perform_of_closed request hclosed]
    exact ⟨haccepted, Or.inl hphase⟩
  have hopen : (s.accept E handler).isClosed = false := Bool.eq_false_iff.mpr hclosed
  obtain ⟨hphase, hconnected⟩ := phase_of_accept h hend hopen
  by_cases hpasses : ((s.accept E handler).signal
      (Signals.interruptBy interrupts)).passes request
  · by_cases hhello : ∃ extra, request = .hello extra
    · right; left
      refine ⟨hhello, hconnected, hopen, ?_⟩
      obtain ⟨extra, rfl⟩ := hhello
      have hproceed : (s.accept E handler).connection.canProceed = true := hpasses
      unfold Connection.canProceed at hproceed
      rw [Bool.and_eq_true, hrelay] at hproceed
      exact hproceed.2
    · left
      unfold wp
      rw [perform_of_passes (Bool.eq_false_iff.mpr hclosed) hpasses]
      exact isQuiet_dispatch (fun extra heq => hhello ⟨extra, heq⟩) hconnected haccepted.1
  · -- the request is kept back
    by_cases hfailure : s.connection.relay.failure = none
    · left
      unfold wp
      rw [perform_of_kept hpasses]
      refine ⟨haccepted, Or.inr ?_⟩
      show (s.accept E handler).connection.relay.failure = none
      rw [hrelay]
      exact hfailure
    · right; right
      refine ⟨hphase, stays_of_accept hopen, ⟨?_, ?_⟩, hfailure⟩
      · intro heq
        subst heq
        exact hpasses rfl
      · intro heq
        subst heq
        exact hpasses rfl

/-! ## The two ways to get past -/

section
variable {s : Session σ P (Transcribed H)}

/-- A HELLO that is answered with SUCCESS. -/
def IsGreeting (E : Engine σ P ρ) (s : Session σ P (Transcribed H)) (input : Input H) : Prop :=
  ∃ extra handler interrupts, input = .request (.hello extra) handler interrupts ∧
    ∃ metadata, (s.serveAmid E interrupts (.hello extra) { handler }).handler.map
      Transcribed.sent = some [.success metadata]

/-- A request that a failure leaks into. -/
def IsLeak (s : Session σ P (Transcribed H)) (input : Input H) : Prop :=
  ∃ request handler interrupts, input = .request request handler interrupts ∧ s.LeaksInto request

/-- A HELLO that finds nothing waiting is answered with SUCCESS. -/
lemma isGreeting_of_settled (extra : Extra) (handler : H) (interrupts : Nat)
    (hphase : (s.accept E { handler }).phase = .connected)
    (hopen : (s.accept E { handler }).isClosed = false)
    (hsettled : s.connection.relay.isSettled) :
    s.IsGreeting E (.request (.hello extra) handler interrupts) := by
  have hrelay : (s.accept E { handler }).connection.relay = { handler := some { handler } } :=
    relay_accept_of_settled E _ (Relay.isSettled_iff.mp hsettled)
  refine ⟨extra, handler, interrupts, rfl, ?_⟩
  unfold serveAmid
  generalize s.accept E { handler } = accepted at hphase hopen hrelay
  have hwaiting : accepted.connection.relay.isSettled := by
    rw [hrelay]
    rfl
  have hperform := perform_hello (E := E)
    (s := accepted.signal (Signals.interruptBy interrupts)) extra hphase hopen hwaiting
  rw [hperform]
  unfold settle
  dsimp only
  rw [handler_conclude]
  obtain ⟨self, ⟨relay, bound, notice, ⟨count, terminated, closed⟩, engine⟩, phase⟩ := accepted
  obtain rfl : relay = _ := hrelay
  obtain rfl : closed = false := hopen
  exact ⟨_, rfl⟩

/-- Until a session is greeted, or a failure leaks into it, no input does anything but end it. -/
theorem isUntouched_receive (h : s.IsUntouched engine) (hend : s.EndShown) (input : Input H) :
    (s.receive E input.transcribed).IsUntouched engine ∨ s.IsGreeting E input ∨
      s.IsLeak input := by
  cases input with
  | interrupt => exact Or.inl (isUntouched_signal _ h)
  | terminate => exact Or.inl (isUntouched_signal _ h)
  | close => exact Or.inl (isUntouched_close h.1)
  | report report => exact Or.inl ⟨h.1.relay _, h.2⟩
  | request request handler interrupts =>
    rcases isQuiet_perform (E := E) request { handler } interrupts h hend
      with hquiet | ⟨⟨extra, rfl⟩, hphase, hopen, hsettled⟩ | hleak
    · left
      have hover : (settle (perform E request ((s.accept E { handler }).signal
          (Signals.interruptBy interrupts)))).session.IsQuiet engine :=
        session_settle hquiet fun reply _ => isQuiet_conclude reply
      exact hover.1
    · exact Or.inr (Or.inl (isGreeting_of_settled extra handler interrupts hphase hopen hsettled))
    · exact Or.inr (Or.inr ⟨request, handler, interrupts, rfl, hleak⟩)

/-! ## Runs -/

/-- Some input of a run was one that the session, as it received it, allows to tell. -/
def Sometime (E : Engine σ P ρ) (event : Session σ P (Transcribed H) → Input H → Prop)
    (s : Session σ P (Transcribed H)) (inputs : List (Input H)) : Prop :=
  ∃ before input later, inputs = before ++ input :: later ∧
    event (s.after E (before.map Input.transcribed)) input

variable {event : Session σ P (Transcribed H) → Input H → Prop} {inputs more : List (Input H)}

lemma Sometime.append (h : s.Sometime E event inputs) (more : List (Input H)) :
    s.Sometime E event (inputs ++ more) := by
  obtain ⟨before, input, later, rfl, hevent⟩ := h
  refine ⟨before, input, later ++ more, ?_, hevent⟩
  rw [List.append_assoc, List.cons_append]

lemma sometime_snoc {input : Input H}
    (hevent : event (s.after E (inputs.map Input.transcribed)) input) :
    s.Sometime E event (inputs ++ [input]) :=
  ⟨inputs, input, [], rfl, hevent⟩

/-- What comes later and is nothing of the kind does not matter. -/
lemma Sometime.of_append (h : s.Sometime E event (inputs ++ more))
    (hmore : ∀ input ∈ more, ∀ s, ¬ event s input) : s.Sometime E event inputs := by
  obtain ⟨before, input, later, heq, hevent⟩ := h
  rcases List.append_eq_append_iff.mp heq with ⟨between, rfl, hlater⟩ | ⟨between, rfl, hlater⟩
  · refine absurd hevent (hmore input ?_ _)
    rw [hlater]
    exact List.mem_append_right _ List.mem_cons_self
  · cases between with
    | nil =>
      rw [List.nil_append] at hlater
      refine absurd hevent (hmore input ?_ _)
      rw [← hlater]
      exact List.mem_cons_self
    | cons first between =>
      obtain ⟨rfl, -⟩ := List.cons.inj hlater
      exact ⟨before, _, between, rfl, hevent⟩

/-- After every run a session is untouched, unless it was greeted or a failure leaked into it. -/
theorem untouched_or_after (hstart : s.IsUntouched engine) (hend : s.EndShown)
    (inputs : List (Input H)) :
    (s.after E (inputs.map Input.transcribed)).IsUntouched engine ∨
      s.Sometime E (IsGreeting E) inputs ∨ s.Sometime E IsLeak inputs := by
  -- from the end of the run, since what an input is depends on the session that it reaches
  induction inputs using List.reverseRecOn with
  | nil => exact Or.inl hstart
  | append_singleton inputs input ih =>
    rcases ih with huntouched | hgreeted | hleaked
    · have hshown : (s.after E (inputs.map Input.transcribed)).EndShown := endShown_after _ hend
      rw [List.map_append, after_append]
      rcases isUntouched_receive (E := E) huntouched hshown input with hnext | hgreeting | hleak
      · exact Or.inl hnext
      · exact Or.inr (Or.inl (sometime_snoc hgreeting))
      · exact Or.inr (Or.inr (sometime_snoc hleak))
    · exact Or.inr (Or.inl (hgreeted.append _))
    · exact Or.inr (Or.inr (hleaked.append _))

end

/-! ## The way around -/

/-- A request that is kept back is not performed. -/
lemma perform_of_leaksInto {request : Request} (h : s.LeaksInto request) (handler : H)
    (interrupts : Nat) :
    perform E request ((s.accept E handler).signal (Signals.interruptBy interrupts)) =
      .ok () ((s.accept E handler).signal (Signals.interruptBy interrupts)) := by
  have hwaits : ¬ (s.accept E handler).connection.relay.isSettled := by
    rw [Relay.isSettled_iff, relay_accept]
    exact fun hsettled => h.failure hsettled.1
  have hkept : ¬ (s.accept E handler).passes request := by
    rw [passes_of_unsettled hwaits, not_or]
    exact h.request
  exact perform_of_kept hkept

/-- A failure that leaks into a request fails the session. -/
lemma awaitsResets_of_leaksInto {request : Request} (h : s.LeaksInto request)
    (hidle : s.connection.IsIdle engine) (handler : H) (interrupts : Nat) :
    ∃ due, (s.serveAmid E interrupts request handler).session.interrupt.AwaitsResets (due + 1) ∧
      (s.serveAmid E interrupts request handler).session.connection.IsIdle engine := by
  have hheed : s.heedSignals E = s := by
    rcases heedSignals_cases E s with ⟨hends, -, -⟩ | ⟨-, -, hcounts, -⟩ | ⟨-, -, heq⟩
    · exact absurd (h.stays.2.symm.trans hends) Bool.false_ne_true
    · rw [h.phase] at hcounts
      exact absurd hcounts Bool.false_ne_true
    · exact heq
  have hsignals : (s.accept E handler).connection.signals = s.connection.signals := by
    rw [signals_accept, hheed]
  have hphase : (s.accept E handler).phase = .connected := by
    rw [phase_accept, hheed]
    exact h.phase
  have haccepted : (s.accept E handler).connection.IsIdle engine := isIdle_accept handler hidle
  obtain ⟨failure, hfailure⟩ := Option.ne_none_iff_exists'.mp h.failure
  have hrelay : (s.accept E handler).connection.relay.failure = some failure := by
    rw [relay_accept]
    exact hfailure
  unfold serveAmid
  rw [perform_of_leaksInto h handler interrupts]
  unfold settle
  dsimp only
  -- the request leaves the session as it was accepted, and the conclusion fails it
  generalize s.accept E handler = accepted at hsignals hphase haccepted hrelay
  generalize (!(accepted.signal (Signals.interruptBy interrupts)).isClosed) = reply
  have hfailed : ((accepted.signal (Signals.interruptBy interrupts)).conclude reply).2.phase =
      .failed := by
    have hwaits : (accepted.signal (Signals.interruptBy interrupts)).connection.relay.failure =
      some failure := hrelay
    rw [phase_conclude, hwaits]
    show phaseAfterFailure accepted.phase = .failed
    rw [hphase]
    rfl
  have hkept := connection_conclude reply (accepted.signal (Signals.interruptBy interrupts))
  generalize ((accepted.signal (Signals.interruptBy interrupts)).conclude reply).2 = next
    at hfailed hkept
  refine ⟨next.connection.signals.interrupts, ⟨?_, ?_, ?_, rfl⟩, ?_⟩
  · show next.connection.signals.closed = false ∧ next.connection.signals.terminated = false
    rw [hkept]
    show accepted.connection.signals.closed = false ∧
      accepted.connection.signals.terminated = false
    rw [hsignals]
    exact h.stays
  · show next.phase ≠ .connected ∧ next.phase ≠ .defunct
    rw [hfailed]
    exact ⟨nofun, nofun⟩
  · show next.connection.relay.failure = none ∧ next.connection.relay.ignored = false
    rw [hkept]
    exact ⟨rfl, rfl⟩
  · rw [hkept]
    exact ⟨haccepted.bound, haccepted.notice, haccepted.engine_eq⟩

/-- RESETs that are due leave an idle session idle. -/
lemma isIdle_after_resets {due : Nat} (h : s.AwaitsResets (due + 1))
    (hidle : s.connection.IsIdle engine) (handler : H) :
    ∀ n ≤ due, (s.after E (resets handler n)).connection.IsIdle engine := by
  intro n
  induction n with
  | zero =>
    intro _
    exact hidle
  | succ n ih =>
    intro hn
    obtain ⟨left, hleft⟩ : ∃ left, n + (left + 1) = due := ⟨due - n - 1, by omega⟩
    obtain ⟨hwaits, -⟩ := awaitsResets_after (E := E) h handler n (left + 1) hleft
    have haccepted : ((s.after E (resets handler n)).accept E handler).connection.IsIdle engine :=
      isIdle_accept handler (ih (by omega))
    rw [after_resets_succ, serve_reset_more hwaits]
    exact ⟨haccepted.bound, haccepted.notice, haccepted.engine_eq⟩

/-- An idle session is ready once all RESETs that are due have come. -/
lemma ready_after_resets {due : Nat} (h : s.AwaitsResets (due + 1))
    (hidle : s.connection.IsIdle engine) (handler : H) :
    (s.after E (resets handler (due + 1))).phase = .ready := by
  obtain ⟨hlast, -⟩ := awaitsResets_after (E := E) h handler due 0 (Nat.add_zero due)
  have haccepted : ((s.after E (resets handler due)).accept E handler).connection.IsIdle engine :=
    isIdle_accept handler (isIdle_after_resets h hidle handler due (Nat.le_refl due))
  have hreset : E.orIdle.reset ((s.after E (resets handler due)).accept E handler).connection.bound
      ((s.after E (resets handler due)).accept E handler).connection.engine = .ok () engine := by
    rw [haccepted.bound, haccepted.engine_eq]
    rfl
  rw [after_resets_succ, serve_reset_last hlast handler haccepted.notice hreset]

/-! ## The rule -/

/-- A new session whose engine keeps a journal, and whose handlers keep transcripts. -/
def observed (self : Identity) (engine : σ) :
    Session (Journal σ P) (Numbered P) (Transcribed H) := start self { state := engine }

/-- While a session waits for HELLO no processor is bound, and none was lost. -/
lemma isIdle_of_connected (E : Engine σ P ρ) (self : Identity) (engine : σ)
    (inputs : List (Input (Transcribed H))) {s : Session (Journal σ P) (Numbered P) (Transcribed H)}
    (hs : s = (observed self engine).after E.journaled inputs) (hphase : s.phase = .connected) :
    s.connection.IsIdle s.connection.engine := by
  have hstart : (provenance E).Fits .connected
      (observed (P := P) (H := H) self engine).connection := ⟨⟨rfl, trivial⟩, rfl⟩
  have hfits := Typestate.fitsAccepted_after (T := provenance E) inputs (s := observed self engine)
    (Or.inl hstart)
  rw [← hs, hphase] at hfits
  rcases hfits with hfits | ⟨-, -, hlost⟩
  · exact ⟨hfits.1.1, hfits.2, rfl⟩
  · cases hlost

/-- A session that is usable, or has asked its engine for anything, was greeted before, or a
failure leaked into it before it was. And wherever a failure leaks into a session that was not
greeted, some further inputs make the session ready without a greeting. -/
theorem gate_after (E : Engine σ P ρ) (self : Identity) (engine : σ) (inputs : List (Input H))
    {s : Session (Journal σ P) (Numbered P) (Transcribed H)}
    (hs : s = (observed self engine).after E.journaled (inputs.map Input.transcribed)) :
    (s.phase.isUsable ∨ s.connection.engine.events ≠ [] →
      (observed (P := P) self engine).Sometime E.journaled (IsGreeting E.journaled) inputs ∨
      (observed (P := P) self engine).Sometime E.journaled IsLeak inputs) ∧
    ∀ input, s.IsLeak input →
      ¬ (observed (P := P) self engine).Sometime E.journaled (IsGreeting E.journaled)
        (inputs ++ [input]) →
      ∃ more, ((observed (P := P) self engine).after E.journaled
          ((inputs ++ [input] ++ more).map Input.transcribed)).phase = .ready ∧
        ¬ (observed (P := P) self engine).Sometime E.journaled (IsGreeting E.journaled)
          (inputs ++ [input] ++ more) := by
  constructor
  · intro hused
    have hstart : (observed (P := P) (H := H) self engine).IsUntouched { state := engine } :=
      ⟨⟨rfl, rfl, rfl⟩, Or.inl rfl⟩
    rcases untouched_or_after (E := E.journaled) hstart ⟨nofun, nofun⟩ inputs with
      ⟨hidle, hphase⟩ | hpast
    · rw [← hs] at hidle hphase
      rcases hused with husable | hevents
      · rcases hphase with hphase | hphase
        · rw [hphase] at husable
          cases husable
        · rw [hphase] at husable
          cases husable
      · rw [hidle.engine_eq] at hevents
        exact absurd rfl hevents
    · exact hpast
  · intro input hafter hungreeted
    obtain ⟨request, handler, interrupts, rfl, hleak⟩ := hafter
    -- an interrupt makes one more RESET due, and RESETs take a failed session to `ready`
    have hidle := isIdle_of_connected E self engine _ hs hleak.phase
    obtain ⟨due, hwaits, hstill⟩ :=
      awaitsResets_of_leaksInto (E := E.journaled) hleak hidle { handler } interrupts
    refine ⟨.interrupt :: resets handler (due + 1), ?_, fun hgreeted => hungreeted ?_⟩
    · have hready := ready_after_resets (E := E.journaled) hwaits
        ⟨hstill.bound, hstill.notice, hstill.engine_eq⟩ { handler }
      rw [List.map_append, List.map_append, after_append, after_append, ← hs]
      unfold resets at hready ⊢
      rw [List.map_cons, List.map_replicate]
      exact hready
    · apply hgreeted.of_append
      intro input hmem s hafter
      obtain ⟨extra, handler, interrupts, rfl, -⟩ := hafter
      rcases List.mem_cons.mp hmem with heq | hmem
      · cases heq
      · cases List.eq_of_mem_replicate hmem

/-- A failure that is reported before the first request. -/
def earlyFailure : Input (Reply (List Response)) :=
  .report (.failed (.ofFault (.statement .databaseUnavailable "offline")))

/-- A BEGIN where HELLO is due. -/
def earlyBegin : Input (Reply (List Response)) := .request (.begin ∅) { output := [] } 0

/-- Together they let a client get to work that never greets. -/
theorem gate_after_earlyFailure :
    ∃ more, ((observed {} none).after (Engine.frail .transactionTerminated).journaled
        (([earlyFailure] ++ [earlyBegin] ++ more).map Input.transcribed)).phase = .ready ∧
      ¬ (observed {} none).Sometime (Engine.frail .transactionTerminated).journaled
        (IsGreeting (Engine.frail .transactionTerminated).journaled)
        ([earlyFailure] ++ [earlyBegin] ++ more) := by
  apply (gate_after (Engine.frail .transactionTerminated) {} none [earlyFailure] rfl).2 earlyBegin
  · exact ⟨_, _, _, rfl, rfl, ⟨rfl, rfl⟩, ⟨nofun, nofun⟩, nofun⟩
  · intro hafter
    obtain ⟨before, input, later, heq, extra, handler, interrupts, rfl, -⟩ := hafter
    have hmem : .request (.hello extra) handler interrupts ∈ [earlyFailure] ++ [earlyBegin] := by
      rw [heq]
      exact List.mem_append_right _ List.mem_cons_self
    rcases List.mem_cons.mp hmem with hreport | hmem
    · cases hreport
    · cases List.mem_singleton.mp hmem

end Session
end QuerySession
