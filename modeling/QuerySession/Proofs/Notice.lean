import QuerySession.Proofs.Handlers
import QuerySession.Proofs.Recovery
import QuerySession.Proofs.Typestate

/-!
# While a notice is pending

A processor that lost its transaction was dropped for a notice. A request that would have reached
it is answered with the notice instead, which fails the session, and nothing is left of the notice
then. Any other request is skipped or refused, unless it ends the session, and leaves the notice
alone. Neither calls anything.

* `Phase.reaches`: the requests that work with the bound processor;
* `Session.surfaces_of_reaches`, `Session.carries_of_not_reaches`, `Session.isClosed_of_ends`: the
  three things that can become of a request.
-/

namespace QuerySession

variable {σ P ρ H : Type}

/-- In a phase, a request works with the bound processor. RESET does so in any phase, but only if it
is the last one due. -/
def Phase.reaches : Phase → Request → Bool
  | .ready, .run _ | .ready, .begin _ => true
  | .streaming, .stream .. => true
  | .transactionReady, .run _ | .transactionReady, .commit | .transactionReady, .rollback => true
  | .transactionStreaming, .run _ | .transactionStreaming, .stream .. => true
  | _, _ => false

/-- A phase in which a notice may be pending. -/
def Phase.isNoticed : Phase → Bool
  | .connected | .ready | .defunct => false
  | .streaming | .transactionReady | .transactionStreaming | .failed | .interrupted => true

/-! ## While a notice is pending -/

/-- A notice is only pending where a processor was lost. -/
lemma Typestate.FitsAccepted.bound_of_notice [RecordSource ρ] {E : Engine σ P ρ} {T : Typestate E}
    {phase : Phase} {c : Connection σ P H} (h : T.FitsAccepted phase c)
    (hnotice : c.notice ≠ none) : c.bound = none ∧ phase.isNoticed := by
  rcases h with hfits | ⟨hidle, -, hphase⟩
  · have hidle (h : T.Idle c ∨ T.Working .halted c) : c.bound = none :=
      h.elim (fun hidle => hidle.1) fun hwork => absurd hwork.1 hnotice
    cases phase with
    | failed => exact ⟨hidle hfits, rfl⟩
    | interrupted => exact ⟨hidle hfits.1, rfl⟩
    | connected => exact absurd hfits.2 hnotice
    | ready => exact absurd hfits.2 hnotice
    | defunct => exact absurd hfits.2 hnotice
    | streaming => exact absurd hfits.1 hnotice
    | transactionReady => exact absurd hfits.1 hnotice
    | transactionStreaming => exact absurd hfits.1 hnotice
  · refine ⟨hidle.1, ?_⟩
    cases phase <;> first | rfl | cases hphase

section
variable [Sink H] [RecordSource ρ] {E : Engine σ P ρ} {c : Connection σ P H} {status : Status}
  {phase : Phase} {request : Request}

namespace Phase

/-- A request that would reach the processor raises the notice. -/
lemma answer_of_reaches (self : Identity) (hnotice : c.notice = some status)
    (hphase : phase.isNoticed) (hreaches : phase.reaches request) :
    phase.answer E self request c =
      .error (.transactionTerminated status) { c with notice := none } := by
  have hcall {α : Type} (act : Option P → EStateM Fault σ α) (next : α → Action σ P H Phase) :
      (Connection.call act >>= next) c =
        .error (.transactionTerminated status) { c with notice := none } :=
    eq_error_of_wp ((wp_bind _ _).mpr ((wp_call_of_notice hnotice _).mpr ⟨rfl, rfl⟩))
  have hstream (number : Int64) (mode : BatchMode) (size : Int64)
      (next : BatchEnd → Action σ P H Phase) :
      (Connection.stream E number mode size >>= next) c =
        .error (.transactionTerminated status) { c with notice := none } :=
    eq_error_of_wp ((wp_bind _ _).mpr ((wp_stream_of_notice hnotice _ _ _).mpr ⟨rfl, rfl⟩))
  cases phase with
  | streaming =>
    cases request with
    | stream mode batch => exact hstream _ _ _ _
    | _ => cases hreaches
  | transactionReady =>
    cases request with
    | run run => exact hcall _ _
    | commit => exact hcall _ _
    | rollback => exact hcall _ _
    | _ => cases hreaches
  | transactionStreaming =>
    cases request with
    | run run => exact hcall _ _
    | stream mode batch => exact hstream _ _ _ _
    | _ => cases hreaches
  | ready => cases hphase
  | _ => cases hreaches

/-- Any other request, but RESET, is skipped or refused. -/
lemma answer_of_not_reaches (self : Identity) (hreset : request ≠ .reset)
    (hphase : phase.isNoticed) (hreaches : ¬ phase.reaches request) :
    phase.answer E self request c = .ok phase (c.tell .ignored) ∨
      phase.answer E self request c = .error (.invalidRequest request.name phase.name) c := by
  cases phase with
  | connected => cases hphase
  | ready => cases hphase
  | defunct => cases hphase
  | failed => left; cases request <;> first | exact absurd rfl hreset | rfl
  | interrupted => left; cases request <;> first | exact absurd rfl hreset | rfl
  | _ =>
    right
    cases request <;> first | exact absurd rfl hreset | exact absurd rfl hreaches | rfl

omit [Sink H] [RecordSource ρ] in
/-- A notice is only pending between HELLO and the end. -/
lemma ne_of_isNoticed (hphase : phase.isNoticed) : phase ≠ .connected ∧ phase ≠ .defunct := by
  cases phase with
  | connected => cases hphase
  | defunct => cases hphase
  | _ => exact ⟨Phase.noConfusion, Phase.noConfusion⟩

omit [RecordSource ρ] in
/-- RESET without an interrupt is a fatal fault. -/
lemma answerReset_undue (hdue : c.signals.interrupts = 0) :
    answerReset E c = .error .counterUnderflow c := by
  apply eq_error_of_wp
  unfold answerReset
  rw [wp_bind, wp_acknowledge]
  simp only [hdue]
  exact ⟨trivial, trivial⟩

end Phase
end

namespace Session

/-- A request that was accepted gets to the bound processor. While a notice is pending these are
the requests that raise it. -/
def Reaches (request : Request) (s : Session σ P H) : Prop :=
  s.phase.reaches request ∨ (request = .reset ∧ s.connection.signals.interrupts = 1)

/-- A request that was accepted finds the session ended, or ends it. -/
def Ends (request : Request) (s : Session σ P H) : Prop :=
  s.isClosed = true ∨ request = .goodbye ∨
    (request = .reset ∧ s.connection.signals.interrupts = 0)

/-- The answer to a request that was told of a loss. -/
def lossOf (status : Status) : Response :=
  .failure status.code (Fault.transactionTerminated status).text

/-- A request was answered with a notice, and the session is left without it. Nothing was called. -/
structure Surfaces (status : Status) (s : Session σ P (OrReply H))
    (served : Served σ P (OrReply H)) : Prop where
  outcome : served.outcome = .ok ()
  answered : served.answered = some [lossOf status]
  phase : served.session.phase = .failed
  notice : served.session.connection.notice = none
  bound : served.session.connection.bound = none
  engine : served.session.connection.engine = s.connection.engine

/-- A request left a notice pending. Nothing was called, and no processor was bound. -/
structure Carries (status : Status) (s : Session σ P H) (served : Served σ P H) : Prop where
  outcome : served.outcome = .ok ()
  isOpen : served.session.isClosed = false
  notice : served.session.connection.notice = some status
  bound : served.session.connection.bound = none
  engine : served.session.connection.engine = s.connection.engine

/-- A request that was accepted finds a notice pending. -/
structure Noticed (status : Status) (handler : H) (s : Session σ P H) : Prop where
  isOpen : s.isClosed = false
  phase : s.phase.isNoticed
  notice : s.connection.notice = some status
  bound : s.connection.bound = none
  relay : s.connection.relay = { handler := some handler }

variable [Sink H] [RecordSource ρ] {E : Engine σ P ρ} {request : Request} {status : Status}
  {handler : H} {s : Session σ P H}

omit [Sink H] in
lemma Noticed.passes (h : s.Noticed status handler) (request : Request) : s.passes request := by
  refine passes_of_settled request h.isOpen ?_
  rw [h.relay]
  rfl

/-- A request that ends the session is not told of the loss. -/
theorem isClosed_of_ends (h : s.Noticed status handler) (hends : s.Ends request) :
    (settle (perform E request s)).session.isClosed = true := by
  rcases hends with hclosed | rfl | ⟨rfl, hdue⟩
  · exact absurd (h.isOpen.symm.trans hclosed) Bool.false_ne_true
  · exact isClosed_settle_of_goodbye h.isOpen
  · have hanswer : s.phase.answer E s.self .reset s.connection =
        .error .counterUnderflow s.connection := by
      rw [Phase.answer_of_reset E s.self (Phase.ne_of_isNoticed h.phase),
        Phase.answerReset_undue hdue]
    exact isClosed_settle_of_fatal h.isOpen rfl Request.noConfusion rfl hanswer

/-- A request that does not get to the processor carries the notice over. -/
theorem carries_of_not_reaches (h : s.Noticed status handler) (hreaches : ¬ s.Reaches request)
    (hends : ¬ s.Ends request) : Carries status s (settle (perform E request s)) := by
  unfold Ends at hends
  unfold Reaches at hreaches
  rw [not_or] at hreaches
  rw [not_or, not_or] at hends
  obtain ⟨-, hrequest, hdue⟩ := hends
  have htold : s.connection.relay.tell .ignored =
      { handler := some (Sink.tell .ignored handler) } := by
    rw [h.relay]
    rfl
  by_cases hreset : request = .reset
  · -- another RESET is due, so this one is skipped before it gets to the processor
    subst hreset
    obtain ⟨left, hleft⟩ : ∃ left, s.connection.signals.interrupts = left + 2 := by
      have hone : s.connection.signals.interrupts ≠ 1 := fun heq => hreaches.2 ⟨rfl, heq⟩
      have hzero : s.connection.signals.interrupts ≠ 0 := fun heq => hdue ⟨rfl, heq⟩
      exact Nat.exists_eq_add_of_le' (by omega)
    have hreset := Phase.answer_of_reset (H := H) E s.self (Phase.ne_of_isNoticed h.phase)
    have hanswer := (congrFun hreset s.connection).trans (Phase.answerReset_more hleft)
    rw [settle_of_answer h.isOpen (h.passes _) hrequest hanswer h.isOpen htold]
    exact ⟨rfl, h.isOpen, h.notice, h.bound, rfl⟩
  · rcases Phase.answer_of_not_reaches (E := E) (c := s.connection) s.self hreset h.phase
      hreaches.1 with hanswer | hanswer
    · rw [settle_of_answer h.isOpen (h.passes _) hrequest hanswer h.isOpen htold]
      exact ⟨rfl, h.isOpen, h.notice, h.bound, rfl⟩
    · rw [settle_of_fault h.isOpen (h.passes _) hrequest rfl hanswer h.isOpen h.relay]
      exact ⟨rfl, h.isOpen, h.notice, h.bound, rfl⟩

/-- A request that gets to the processor is told of the loss. -/
theorem surfaces_of_reaches {s : Session σ P (OrReply H)} (h : s.Noticed status .blank)
    (hreaches : s.Reaches request) (hends : ¬ s.Ends request) :
    Surfaces status s (settle (perform E request s)) := by
  have hrequest : request ≠ .goodbye := fun hgoodbye => hends (Or.inr (Or.inl hgoodbye))
  rcases hreaches with hreaches | ⟨rfl, hdue⟩
  · have hanswer := Phase.answer_of_reaches (E := E) s.self h.notice h.phase hreaches
    rw [settle_of_fault h.isOpen (h.passes _) hrequest rfl hanswer h.isOpen h.relay]
    exact ⟨rfl, rfl, rfl, rfl, h.bound, rfl⟩
  · -- the last RESET is due, and forgets what waits before it gets to the processor
    have hreset := Phase.answer_of_reset (H := OrReply H) E s.self
      (Phase.ne_of_isNoticed h.phase)
    have hanswer := (congrFun hreset s.connection).trans (Phase.answerReset_noticed hdue h.notice)
    have hforgotten : s.connection.relay.forget = { handler := some .blank } := by
      rw [h.relay]
      rfl
    rw [settle_of_fault h.isOpen (h.passes _) hrequest rfl hanswer h.isOpen hforgotten]
    exact ⟨rfl, rfl, rfl, rfl, rfl, rfl⟩

end Session
end QuerySession
