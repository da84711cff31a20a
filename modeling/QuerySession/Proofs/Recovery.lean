import QuerySession.Proofs.Handlers
import QuerySession.Proofs.Signals

/-!
# Recovery by RESET

Every interrupt of a session is answered by a RESET of its own. All but the last are ignored; the
last one resets the bound processor and leaves the session without one. The session is ready then,
unless the processor was lost before: the notice of that is raised by the last RESET, so that the
client hears a failure and has to reset the session again.

* `Session.serve_reset_more`, `Session.serve_reset_last`, `Session.serve_reset_noticed`: what one
  RESET does;
* `Session.resets_answered`: what the RESETs for all interrupts do.
-/

namespace QuerySession

variable {σ P ρ H : Type} {E : Engine σ P ρ}

/-! ## The answer to RESET -/

namespace Phase

variable [Sink H] {c : Connection σ P H}

/-- Another RESET is due. -/
lemma answerReset_more {left : Nat} (hdue : c.signals.interrupts = left + 2) :
    answerReset E c =
      .ok .interrupted (({ c with signals.interrupts := left + 1 } : Connection σ P H).tell
        .ignored) := by
  apply eq_ok_of_wp
  unfold answerReset
  rw [wp_bind, wp_acknowledge]
  simp only [hdue]
  rw [wp_ite, if_pos (Nat.succ_pos left), wp_skip]
  exact ⟨rfl, rfl⟩

/-- The last RESET resets the bound processor and leaves it. -/
lemma answerReset_last (hdue : c.signals.interrupts = 1) (hnotice : c.notice = none) {engine : σ}
    (hreset : E.orIdle.reset c.bound c.engine = .ok () engine) :
    answerReset E c =
      .ok .ready { c with
        relay := c.relay.forget, bound := none, signals.interrupts := 0, engine } := by
  apply eq_ok_of_wp
  unfold answerReset
  rw [wp_bind, wp_acknowledge]
  simp only [hdue]
  rw [wp_ite, if_neg (Nat.lt_irrefl 0), wp_bind, wp_modify, wp_bind,
    wp_giveUp_of_bound (by exact hnotice) rfl]
  exact (wp_of_ok hreset).mpr ⟨rfl, rfl⟩

/-- A notice keeps the last RESET from the processor, and is raised. -/
lemma answerReset_noticed (hdue : c.signals.interrupts = 1) {status : Status}
    (hnotice : c.notice = some status) :
    answerReset E c =
      .error (.transactionTerminated status) { c with
        relay := c.relay.forget, bound := none, notice := none, signals.interrupts := 0 } := by
  apply eq_error_of_wp
  unfold answerReset
  rw [wp_bind, wp_acknowledge]
  simp only [hdue]
  rw [wp_ite, if_neg (Nat.lt_irrefl 0), wp_bind, wp_modify, wp_bind,
    wp_giveUp_of_notice (by exact hnotice)]
  exact ⟨rfl, rfl⟩

end Phase

namespace Session

variable {s : Session σ P H} {left : Nat}

/-- Some RESETs are due, and nothing stands in their way. -/
structure AwaitsResets (left : Nat) (s : Session σ P H) : Prop where
  stays : s.connection.signals.closed = false ∧ s.connection.signals.terminated = false
  greeted : s.phase ≠ .connected ∧ s.phase ≠ .defunct
  settled : s.connection.relay.failure = none ∧ s.connection.relay.ignored = false
  due : s.connection.signals.interrupts = left

/-! ## How a RESET is accepted -/

lemma heedSignals_of_awaitsResets (h : s.AwaitsResets (left + 1)) :
    (s.heedSignals E).phase = .interrupted ∧
      (s.heedSignals E).connection.signals = s.connection.signals ∧
      (s.connection.notice ≠ none →
        (s.heedSignals E).connection.notice = s.connection.notice) := by
  have hdue : 0 < s.connection.signals.interrupts := by
    rw [h.due]
    exact Nat.succ_pos left
  have hphase := phase_heedSignals_of_stays E h.stays.2 h.greeted.2
  rw [if_pos ⟨hdue, h.greeted.1⟩] at hphase
  refine ⟨hphase, ?_⟩
  rcases heedSignals_cases E s with ⟨hends, -, -⟩ | ⟨-, -, -, heq⟩ | ⟨-, -, heq⟩
  · exact absurd (h.stays.2.symm.trans hends) Bool.false_ne_true
  · rw [heq]
    refine ⟨Connection.signals_abort, fun hnotice => ?_⟩
    obtain ⟨status, hstatus⟩ := Option.ne_none_iff_exists'.mp hnotice
    show (s.connection.abort E).notice = s.connection.notice
    rw [Connection.abort_of_notice hstatus]
  · rw [heq]
    exact ⟨rfl, fun _ => rfl⟩

lemma notice_accept_of_notice (handler : H)
    (hnotice : (s.heedSignals E).connection.notice ≠ none) :
    (s.accept E handler).connection.notice = (s.heedSignals E).connection.notice := by
  obtain ⟨status, hstatus⟩ := Option.ne_none_iff_exists'.mp hnotice
  unfold accept
  dsimp only
  split
  · rfl
  · rw [Connection.validate_of_notice hstatus]

/-- A RESET that is due finds the session interrupted. A notice stays for it. -/
lemma accept_of_awaitsResets (h : s.AwaitsResets (left + 1)) (handler : H) :
    (s.accept E handler).phase = .interrupted ∧ (s.accept E handler).isClosed = false ∧
      (s.accept E handler).connection.signals = s.connection.signals ∧
      (s.accept E handler).connection.relay = { handler := some handler } ∧
      (s.connection.notice ≠ none →
        (s.accept E handler).connection.notice = s.connection.notice) := by
  obtain ⟨hphase, hsignals, hnotice⟩ := heedSignals_of_awaitsResets (E := E) h
  have hkept : (s.accept E handler).connection.signals = s.connection.signals :=
    (signals_accept handler).trans hsignals
  have hopen : (s.accept E handler).isClosed = false := by
    unfold isClosed
    rw [hkept]
    exact h.stays.1
  refine ⟨hphase, hopen, hkept, relay_accept_of_settled E handler h.settled, fun hpending => ?_⟩
  have hheeded := hnotice hpending
  rw [notice_accept_of_notice handler (by rwa [hheeded]), hheeded]

/-! ## How a RESET is served -/

variable [Sink H] [RecordSource ρ]

omit [Sink H] [RecordSource ρ] in
lemma ne_of_interrupted (h : s.phase = .interrupted) :
    s.phase ≠ .connected ∧ s.phase ≠ .defunct := by
  rw [h]
  exact ⟨Phase.noConfusion, Phase.noConfusion⟩

lemma perform_reset (hphase : s.phase ≠ .connected ∧ s.phase ≠ .defunct)
    (hopen : s.isClosed = false) :
    perform E .reset s =
      match Phase.answerReset E s.connection with
      | .ok next c => .ok () { s with connection := c, phase := next }
      | .error fault c => fail E fault { s with connection := c } := by
  have hpasses : s.passes .reset := rfl
  have hdispatch : dispatch E .reset s = _ := dispatch_of_ne E Request.noConfusion s
  rw [Phase.answer_of_reset E s.self hphase] at hdispatch
  exact (perform_of_passes hopen hpasses).trans hdispatch

/-- A request that ends well, with nothing waiting, leaves the handler to finish. -/
lemma serve_of_perform {request : Request} {handler told : H} {performed : Session σ P H}
    (hperform : perform E request (s.accept E handler) = .ok () performed)
    (hopen : performed.isClosed = false)
    (hrelay : performed.connection.relay = { handler := some told }) :
    s.serve E request handler =
      ⟨.ok (), some (Sink.tell .finished told),
        { performed with connection := { performed.connection with relay := {} } }⟩ := by
  rw [← serveAmid_zero]
  show settle (perform E request (s.accept E handler)) = _
  rw [hperform]
  exact settle_of_told hopen hrelay

/-- A RESET that is not the last one is ignored. -/
theorem serve_reset_more (h : s.AwaitsResets (left + 2)) (handler : H) :
    s.serve E .reset handler =
      ⟨.ok (), some (Sink.tell .finished (Sink.tell .ignored handler)),
        { s.accept E handler with
          connection := { (s.accept E handler).connection with
            relay := {}, signals.interrupts := left + 1 }
          phase := .interrupted }⟩ := by
  obtain ⟨hphase, hopen, hsignals, hrelay, -⟩ := accept_of_awaitsResets (E := E) h handler
  have hperform := perform_reset (E := E) (ne_of_interrupted hphase) hopen
  rw [Phase.answerReset_more (by rw [hsignals]; exact h.due)] at hperform
  refine serve_of_perform hperform hopen ?_
  show (Relay.tell .ignored (s.accept E handler).connection.relay) = _
  rw [hrelay]
  rfl

/-- The last RESET leaves no processor, and the session is ready. -/
theorem serve_reset_last (h : s.AwaitsResets 1) (handler : H)
    (hnotice : (s.accept E handler).connection.notice = none) {engine : σ}
    (hreset : E.orIdle.reset (s.accept E handler).connection.bound
      (s.accept E handler).connection.engine = .ok () engine) :
    s.serve E .reset handler =
      ⟨.ok (), some (Sink.tell .finished handler),
        { s.accept E handler with
          connection := { (s.accept E handler).connection with
            relay := {}, bound := none, signals.interrupts := 0, engine }
          phase := .ready }⟩ := by
  obtain ⟨hphase, hopen, hsignals, hrelay, -⟩ := accept_of_awaitsResets (E := E) h handler
  have hperform := perform_reset (E := E) (ne_of_interrupted hphase) hopen
  rw [Phase.answerReset_last (by rw [hsignals]; exact h.due) hnotice hreset] at hperform
  refine serve_of_perform hperform hopen ?_
  show (s.accept E handler).connection.relay.forget = _
  rw [hrelay]
  rfl

/-- A notice makes the last RESET fail, and is gone then. -/
theorem serve_reset_noticed (h : s.AwaitsResets 1) (handler : H) {status : Status}
    (hnotice : (s.accept E handler).connection.notice = some status) :
    s.serve E .reset handler =
      ⟨.ok (), some (Sink.tell .finished (Sink.tell
          (.failed (.ofFault (.transactionTerminated status))) handler)),
        { s.accept E handler with
          connection := { (s.accept E handler).connection with
            relay := {}, bound := none, notice := none, signals.interrupts := 0 }
          phase := .failed }⟩ := by
  obtain ⟨hphase, hopen, hsignals, hrelay, -⟩ := accept_of_awaitsResets (E := E) h handler
  have hperform := perform_reset (E := E) (ne_of_interrupted hphase) hopen
  rw [Phase.answerReset_noticed (by rw [hsignals]; exact h.due) hnotice] at hperform
  refine serve_of_perform hperform hopen ?_
  show (Relay.tell _ (s.accept E handler).connection.relay.forget) = _
  rw [hrelay]
  rfl

/-! ## RESETs in a row -/

/-- So many RESETs, with no interrupt in between. -/
def resets (handler : H) (n : Nat) : List (Input H) :=
  List.replicate n (.request .reset handler 0)

lemma after_resets_succ (E : Engine σ P ρ) (handler : H) (n : Nat) (s : Session σ P H) :
    s.after E (resets handler (n + 1)) =
      ((s.after E (resets handler n)).serve E .reset handler).session := by
  unfold resets
  rw [List.replicate_succ', after_append, after_cons, after_nil, ← serveAmid_zero]
  rfl

/-- A RESET that is not the last one leaves the others due, and a notice stays for them. -/
lemma awaitsResets_serve (h : s.AwaitsResets (left + 2)) (handler : H) :
    (s.serve E .reset handler).session.AwaitsResets (left + 1) ∧
      (s.connection.notice ≠ none →
        (s.serve E .reset handler).session.connection.notice = s.connection.notice) := by
  obtain ⟨-, -, hsignals, -, hnotice⟩ := accept_of_awaitsResets (E := E) h handler
  rw [serve_reset_more h handler]
  refine ⟨⟨?_, ⟨nofun, nofun⟩, ⟨rfl, rfl⟩, rfl⟩, hnotice⟩
  show (s.accept E handler).connection.signals.closed = false ∧
    (s.accept E handler).connection.signals.terminated = false
  rw [hsignals]
  exact h.stays

/-- As long as another RESET is due, the session waits for it. -/
lemma awaitsResets_after {due : Nat} (h : s.AwaitsResets (due + 1)) (handler : H) :
    ∀ n left, n + left = due → (s.after E (resets handler n)).AwaitsResets (left + 1) ∧
      (s.connection.notice ≠ none →
        (s.after E (resets handler n)).connection.notice = s.connection.notice) := by
  -- induction on the RESETs that have come; each takes one off what is left
  intro n
  induction n with
  | zero =>
    intro left hleft
    rw [Nat.zero_add] at hleft
    subst hleft
    exact ⟨h, fun _ => rfl⟩
  | succ n ih =>
    intro left hleft
    obtain ⟨hwaits, hnotice⟩ := ih (left + 1) (by omega)
    obtain ⟨hnext, hkept⟩ := awaitsResets_serve (E := E) hwaits handler
    rw [after_resets_succ]
    refine ⟨hnext, fun hpending => ?_⟩
    have hbefore := hnotice hpending
    rw [hkept (by rwa [hbefore]), hbefore]

/-! ## What a client hears -/

variable {H : Type} [Sink H]

/-- The next RESET, after so many. -/
def resetAfter (E : Engine σ P ρ) (n : Nat) (s : Session σ P (OrReply H)) :
    Served σ P (OrReply H) := (s.after E (resets .blank n)).serve E .reset .blank

/-- The connection as the next RESET finds it, after so many. -/
def foundAfter (E : Engine σ P ρ) (n : Nat) (s : Session σ P (OrReply H)) :
    Connection σ P (OrReply H) := ((s.after E (resets .blank n)).accept E .blank).connection

/-- A RESET was ignored, and others are due. -/
structure IsSkipped (served : Served σ P (OrReply H)) : Prop where
  outcome : served.outcome = .ok ()
  answered : served.answered = some [.ignored]
  phase : served.session.phase = .interrupted

/-- A RESET was the last one that was due. It got an answer and led to a phase, and left neither an
interrupt nor a processor nor a notice. -/
structure IsLast (answer : Response) (phase : Phase) (served : Served σ P (OrReply H)) : Prop where
  outcome : served.outcome = .ok ()
  answered : served.answered = some [answer]
  phase : served.session.phase = phase
  interrupts : served.session.connection.signals.interrupts = 0
  bound : served.session.connection.bound = none
  notice : served.session.connection.notice = none

/-- The RESETs for all interrupts of a session, however it came to them. All but the last are
ignored. If the bound processor lets itself be reset, the last one succeeds and leaves the session
ready, except while a notice is pending when it comes: then it fails with the notice and leaves the
session failed, with no interrupt left. A notice that is pending at first is pending at last. -/
theorem resets_answered (E : Engine σ P ρ) (self : Identity) (engine : σ)
    (inputs : List (Input (OrReply H))) {s : Session σ P (OrReply H)} {more : Nat}
    (hreached : s = (start self engine).after E inputs) (hopen : s.isClosed = false)
    (hstays : s.connection.signals.terminated = false) (hgreeted : s.phase ≠ .connected)
    (hsettled : s.connection.relay.isSettled)
    (hdue : s.connection.signals.interrupts = more + 1)
    (hreset : ∀ p, (foundAfter E more s).bound = some p →
      ∃ left, E.reset p (foundAfter E more s).engine = .ok () left) :
    (∀ n < more, IsSkipped (resetAfter E n s)) ∧
    ((foundAfter E more s).notice = none →
      IsLast (.success ∅) .ready (resetAfter E more s)) ∧
    (∀ status, (foundAfter E more s).notice = some status →
      IsLast (Failure.ofFault (.transactionTerminated status)).toResponse .failed
        (resetAfter E more s)) ∧
    (s.connection.notice ≠ none → (foundAfter E more s).notice = s.connection.notice) := by
  have hend : s.EndShown := by
    rw [hreached]
    exact endShown_after inputs ⟨nofun, nofun⟩
  have hwaits : s.AwaitsResets (more + 1) := by
    refine ⟨⟨hopen, hstays⟩, ⟨hgreeted, fun hdefunct => ?_⟩, ?_, hdue⟩
    · rw [hend.mp hdefunct] at hopen
      cases hopen
    · exact Relay.isSettled_iff.mp hsettled
  obtain ⟨hlast, hkept⟩ := awaitsResets_after (E := E) hwaits .blank more 0 (Nat.add_zero more)
  -- the idle processor lets itself be reset too
  have hbound : ∃ left, E.orIdle.reset (foundAfter E more s).bound (foundAfter E more s).engine =
      .ok () left := by
    cases hp : (foundAfter E more s).bound with
    | none => exact ⟨_, rfl⟩
    | some p => exact hreset p hp
  refine ⟨?_, ?_, ?_, ?_⟩
  · intro n hn
    obtain ⟨hnext, -⟩ := awaitsResets_after (E := E) hwaits .blank n (more - n) (by omega)
    obtain ⟨left, hleft⟩ : ∃ left, more - n = left + 1 := ⟨more - n - 1, by omega⟩
    rw [hleft] at hnext
    unfold resetAfter
    rw [serve_reset_more hnext]
    exact ⟨rfl, rfl, rfl⟩
  · intro hnotice
    obtain ⟨left, hleft⟩ := hbound
    have hserved := serve_reset_last hlast .blank hnotice hleft
    unfold resetAfter
    rw [hserved]
    exact ⟨rfl, rfl, rfl, rfl, rfl, hnotice⟩
  · intro status hnotice
    have hserved := serve_reset_noticed hlast .blank hnotice
    unfold resetAfter
    rw [hserved]
    exact ⟨rfl, rfl, rfl, rfl, rfl, rfl⟩
  · intro hnotice
    obtain ⟨-, -, -, -, haccepted⟩ := accept_of_awaitsResets (E := E) hlast .blank
    have hbefore := hkept hnotice
    exact (haccepted (by rwa [hbefore])).trans hbefore

end Session

/-! ## An engine -/

/-- An engine whose transactions are not torn down when they are asked to stop. -/
def Engine.steady : Engine (Option Status) Unit RowBuffer :=
  { Engine.frail .transactionTerminated with abort := fun _ s => s }

namespace Session

/-- A session that was interrupted twice after some requests. -/
def interruptedTwice (E : Engine (Option Status) Unit RowBuffer) (requests : List Request) :
    Session (Option Status) Unit (OrReply (Reply (List Response))) :=
  (start {} none).after E
    (requests.map (fun request => .request request .blank 0) ++ [.interrupt, .interrupt])

/-- There is no transaction to tear down. -/
def interruptedIdle : Session (Option Status) Unit (OrReply (Reply (List Response))) :=
  interruptedTwice (.frail .transactionTerminated) [.hello ∅]

/-- The transaction is torn down as the first RESET comes. -/
def interruptedLost : Session (Option Status) Unit (OrReply (Reply (List Response))) :=
  interruptedTwice (.frail .transactionTerminated) [.hello ∅, .begin ∅]

/-- The transaction is still open as the last RESET comes. -/
def interruptedOpen : Session (Option Status) Unit (OrReply (Reply (List Response))) :=
  interruptedTwice .steady [.hello ∅, .begin ∅]

/-- The first of two RESETs is ignored. The second one succeeds if there was no transaction, and
fails if it was torn down. It also succeeds if the transaction is still open: then it resets the
processor that is bound. -/
theorem resets_answered_interruptedTwice :
    (IsSkipped (resetAfter (.frail .transactionTerminated) 0 interruptedIdle) ∧
      IsLast (.success ∅) .ready
        (resetAfter (.frail .transactionTerminated) 1 interruptedIdle)) ∧
    (IsSkipped (resetAfter (.frail .transactionTerminated) 0 interruptedLost) ∧
      IsLast (Failure.ofFault (.transactionTerminated .transactionTerminated)).toResponse .failed
        (resetAfter (.frail .transactionTerminated) 1 interruptedLost)) ∧
    (foundAfter .steady 1 interruptedOpen).bound = some () ∧
    IsSkipped (resetAfter .steady 0 interruptedOpen) ∧
    IsLast (.success ∅) .ready (resetAfter .steady 1 interruptedOpen) := by
  have hidle : (foundAfter (.frail .transactionTerminated) 1 interruptedIdle).bound = none := by
    decide +kernel
  have hlost : (foundAfter (.frail .transactionTerminated) 1 interruptedLost).bound = none := by
    decide +kernel
  have hbound : (foundAfter .steady 1 interruptedOpen).bound = some () := by decide +kernel
  have hnothing := resets_answered (.frail .transactionTerminated) {} none _
    (s := interruptedIdle) rfl (by decide +kernel) (by decide +kernel) (by decide +kernel)
    (by decide +kernel) (show _ = 1 + 1 by decide +kernel)
    (by intro p hp; rw [hidle] at hp; cases hp)
  have hnoticed := resets_answered (.frail .transactionTerminated) {} none _
    (s := interruptedLost) rfl (by decide +kernel) (by decide +kernel) (by decide +kernel)
    (by decide +kernel) (show _ = 1 + 1 by decide +kernel)
    (by intro p hp; rw [hlost] at hp; cases hp)
  have hreset := resets_answered .steady {} none _ (s := interruptedOpen) rfl (by decide +kernel)
    (by decide +kernel) (by decide +kernel) (by decide +kernel) (show _ = 1 + 1 by decide +kernel)
    (fun _ _ => ⟨_, rfl⟩)
  refine ⟨⟨hnothing.1 0 Nat.one_pos, ?_⟩, ⟨hnoticed.1 0 Nat.one_pos, ?_⟩, hbound,
    hreset.1 0 Nat.one_pos, ?_⟩
  · apply hnothing.2.1
    decide +kernel
  · apply hnoticed.2.2.1
    decide +kernel
  · apply hreset.2.1
    decide +kernel

end Session
end QuerySession
