import QuerySession.Proofs.Precondition

/-!
# Typestates

A session calls a processor in a certain order, and the phase says how far the order has come. A
`Typestate` of an engine follows the processor side by side with the session: it says what is true
of the engine while no processor is bound, and what is true of the bound processor at each stage of
its work. Its proof fields ask, call by call, for what is true afterwards, and they ask only for
the calls that a session makes at the stage. In return `Typestate.fits_answer` shows that every
answer of the table of phases leads to a phase that goes with the stage.

Every statement about the order of calls is an instance. What a single instance has to show are
facts about one call at a time; runs, phases, faults and signals are dealt with here.
-/

namespace QuerySession

/-- How far the work of a bound processor has come. -/
inductive Stage where
  /-- A statement outside of any transaction has rows left. -/
  | statement
  /-- A transaction is open. -/
  | transaction
  /-- A transaction is open and has rows left. -/
  | transactionStatement
  /-- The processor only waits to be given up. -/
  | halted
  deriving DecidableEq, Repr

/-- What is true of an engine while a session works with it, stage by stage. -/
structure Typestate {σ P ρ : Type} [RecordSource ρ] (E : Engine σ P ρ) where
  /-- No processor is bound. -/
  unbound : σ → Prop
  /-- A processor was just opened. -/
  opened : P → σ → Prop
  /-- A processor is bound, and its work has come to a stage. -/
  holds : Stage → P → σ → Prop
  provide : ∀ {s} database, unbound s →
    wp (E.provide database) opened (fun _ => unbound) s
  begin : ∀ {p s} options, opened p s →
    wp (E.begin p options) (fun _ => holds .transaction p) (fun _ => holds .halted p) s
  run : ∀ {p s} query parameters options, opened p s →
    wp (E.run p query parameters (some options)) (fun _ => holds .statement p)
      (fun _ => holds .halted p) s
  runWithin : ∀ {stage p s} query parameters,
    stage = .transaction ∨ stage = .transactionStatement → holds stage p s →
    wp (E.run p query parameters none) (fun _ => holds .transactionStatement p)
      (fun _ => holds .halted p) s
  stream : ∀ {p s} mode size {H : Type} [Sink H] (sink : H), holds .statement p s →
    Meets (fun outcome s => if outcome.hasMore then holds .statement p s else unbound s)
      (fun _ => holds .halted p) ((E.stream p (-1) mode size s).play sink).1
  streamWithin : ∀ {p s} number mode size {H : Type} [Sink H] (sink : H),
    holds .transactionStatement p s →
    Meets (fun outcome s =>
        if outcome.hasMore || E.isStreaming p s then holds .transactionStatement p s
        else holds .transaction p s)
      (fun _ => holds .halted p) ((E.stream p number mode size s).play sink).1
  commit : ∀ {p s}, holds .transaction p s →
    wp (E.commit p) (fun _ => unbound) (fun _ => holds .halted p) s
  rollback : ∀ {p s}, holds .transaction p s →
    wp (E.rollback p) (fun _ => unbound) (fun _ => holds .halted p) s
  reset : ∀ {stage p s}, holds stage p s →
    wp (E.reset p) (fun _ => unbound) (fun _ => unbound) s
  abort : ∀ {stage p s}, holds stage p s → holds .halted p (E.abort p s)
  validate : ∀ {stage p s}, holds stage p s →
    match E.validate p s with
    | (none, s) => holds stage p s
    | (some _, s) => unbound s
  halt : ∀ {stage p s}, holds stage p s → holds .halted p s

namespace Typestate

variable {σ P ρ H : Type} [RecordSource ρ] {E : Engine σ P ρ} (T : Typestate E)

/-- No processor is bound. -/
def Idle (c : Connection σ P H) : Prop := c.bound = none ∧ T.unbound c.engine

/-- A processor is bound, and a call will reach it. -/
def Working (stage : Stage) (c : Connection σ P H) : Prop :=
  c.notice = none ∧ ∃ p, c.bound = some p ∧ T.holds stage p c.engine

/-- The connection is as it should be in a phase. -/
def Fits : Phase → Connection σ P H → Prop
  | .connected, c | .ready, c | .defunct, c => T.Idle c ∧ c.notice = none
  | .streaming, c => T.Working .statement c
  | .transactionReady, c => T.Working .transaction c
  | .transactionStreaming, c => T.Working .transactionStatement c
  | .failed, c => T.Idle c ∨ T.Working .halted c
  | .interrupted, c => (T.Idle c ∨ T.Working .halted c) ∧ 0 < c.signals.interrupts

/-- A phase in which a processor may be lost to a torn down transaction. -/
def canLose : Phase → Bool
  | .streaming | .transactionReady | .transactionStreaming => true
  | _ => false

/-- The connection as a request finds it. Its processor may just have been lost, which the phase
does not show yet; then a notice is pending. -/
def FitsAccepted (phase : Phase) (c : Connection σ P H) : Prop :=
  T.Fits phase c ∨ (T.Idle c ∧ c.notice ≠ none ∧ canLose phase)

variable {T}

lemma Working.halt {stage : Stage} {c : Connection σ P H} (h : T.Working stage c) :
    T.Working .halted c := by
  obtain ⟨hnotice, p, hp, hstage⟩ := h
  exact ⟨hnotice, p, hp, T.halt hstage⟩

/-- Whatever the phase, either no processor is bound or a call will reach it. -/
lemma Fits.idle_or_working {phase : Phase} {c : Connection σ P H} (h : T.Fits phase c) :
    T.Idle c ∨ ∃ stage, T.Working stage c := by
  cases phase with
  | connected => exact Or.inl h.1
  | ready => exact Or.inl h.1
  | defunct => exact Or.inl h.1
  | streaming => exact Or.inr ⟨_, h⟩
  | transactionReady => exact Or.inr ⟨_, h⟩
  | transactionStreaming => exact Or.inr ⟨_, h⟩
  | failed => exact h.imp_right fun hwork => ⟨_, hwork⟩
  | interrupted => exact h.1.imp_right fun hwork => ⟨_, hwork⟩

lemma FitsAccepted.idle_or_working {phase : Phase} {c : Connection σ P H}
    (h : T.FitsAccepted phase c) : T.Idle c ∨ ∃ stage, T.Working stage c := by
  rcases h with hfits | hlost
  · exact hfits.idle_or_working
  · exact Or.inl hlost.1

/-- A session may fail at any time. -/
lemma fits_failed {c : Connection σ P H} (h : T.Idle c ∨ ∃ stage, T.Working stage c) :
    T.Fits .failed c := by
  rcases h with hidle | ⟨stage, hwork⟩
  · exact Or.inl hidle
  · exact Or.inr hwork.halt

/-! ## One row of the table at a time

The relay may change at will: no condition above looks at it. -/

section
variable [Sink H] {c : Connection σ P H}

omit [Sink H] in
/-- Giving up leaves no processor bound and no notice, whatever came of it. -/
lemma idle_giveUp (h : T.Idle c ∨ ∃ stage, T.Working stage c) :
    wp (Connection.giveUp E)
      (fun _ c => c.notice = none ∧ T.Idle c) (fun _ c => c.notice = none ∧ T.Idle c) c := by
  rcases h with ⟨hbound, hengine⟩ | ⟨stage, hnotice, p, hp, hstage⟩
  · -- the idle processor is not reset while a notice is pending, and does not mind
    cases hnotice : c.notice with
    | none =>
      rw [wp_giveUp_of_bound hnotice hbound]
      exact ⟨hnotice, rfl, hengine⟩
    | some status =>
      rw [wp_giveUp_of_notice hnotice]
      exact ⟨rfl, rfl, hengine⟩
  · rw [wp_giveUp_of_bound hnotice hp]
    refine wp_mono (T.reset hstage) ?_ ?_
    · intro _ engine hunbound
      exact ⟨hnotice, rfl, hunbound⟩
    · intro _ engine hunbound
      exact ⟨hnotice, rfl, hunbound⟩

lemma fits_answerReset (h : T.Idle c ∨ ∃ stage, T.Working stage c) :
    wp (Phase.answerReset E) T.Fits (fun _ => T.Fits .failed) c := by
  unfold Phase.answerReset
  rw [wp_bind, wp_acknowledge]
  cases hleft : c.signals.interrupts with
  | zero => exact fits_failed h
  | succ left =>
    dsimp only
    rw [wp_ite]
    split
    · -- another RESET is due
      rename_i hpos
      rw [wp_skip]
      exact ⟨fits_failed (c := c) h, hpos⟩
    · rw [wp_bind, wp_modify, wp_bind]
      refine wp_mono (idle_giveUp (c := Connection.forget _) h) ?_ ?_
      · intro _ c ⟨hnotice, hidle⟩
        exact ⟨hidle, hnotice⟩
      · intro _ c ⟨_, hidle⟩
        exact Or.inl hidle

lemma fits_answerConnected (self : Identity) (request : Request) (h : T.Idle c)
    (hnotice : c.notice = none) :
    wp (Phase.answerConnected self request) T.Fits (fun _ => T.Fits .failed) c := by
  cases request with
  | hello extra =>
    unfold Phase.answerConnected
    rw [wp_bind, wp_mention, wp_bind, wp_mention, wp_pure]
    exact ⟨h, hnotice⟩
  | _ => exact Or.inl h

omit [Sink H] in
/-- RUN and BEGIN find a new processor bound. -/
lemma fits_provideFor (self : Identity) (extra : Extra) (h : T.Idle c)
    (hnotice : c.notice = none) :
    wp (Phase.provideFor E self extra)
      (fun _ c => c.notice = none ∧ ∃ p, c.bound = some p ∧ T.opened p c.engine)
      (fun _ => T.Fits .failed) c := by
  unfold Phase.provideFor
  rw [wp_bind, wp_onEngine]
  have hprovide := T.provide (extra.database?.getD self.defaultDatabase) h.2
  have horIdle : wp (E.orIdle.provide (extra.database?.getD self.defaultDatabase))
      (fun p s => ∃ opened, p = some opened ∧ T.opened opened s) (fun _ => T.unbound)
      c.engine := by
    unfold wp at hprovide ⊢
    change Meets _ _ (EStateM.map _ _ _)
    unfold EStateM.map
    cases hresult : E.provide (extra.database?.getD self.defaultDatabase) c.engine with
    | ok p s => rw [hresult] at hprovide; exact ⟨p, rfl, hprovide⟩
    | error fault s => rw [hresult] at hprovide; exact hprovide
  refine wp_mono horIdle ?_ ?_
  · intro _ engine hafter
    obtain ⟨p, rfl, hopened⟩ := hafter
    rw [wp_engage]
    simp only [hnotice]
    exact ⟨trivial, p, rfl, hopened⟩
  · intro _ engine hunbound
    exact Or.inl ⟨h.1, hunbound⟩

lemma fits_answerReady (self : Identity) (request : Request) (h : T.Idle c)
    (hnotice : c.notice = none) :
    wp (Phase.answerReady E self request) T.Fits (fun _ => T.Fits .failed) c := by
  cases request with
  | run run =>
    unfold Phase.answerReady
    rw [wp_bind]
    refine wp_mono (fits_provideFor self run.extra h hnotice) ?_ (fun _ _ hfailed => hfailed)
    intro _ c hafter
    obtain ⟨hnotice, p, hp, hopened⟩ := hafter
    rw [wp_bind, wp_call_of_bound hnotice hp]
    refine wp_mono (T.run run.query run.parameters run.extra.options hopened) ?_ ?_
    · intro info engine hstage
      unfold Phase.describe
      rw [wp_bind, wp_bind, wp_report, wp_mention, wp_pure]
      exact ⟨hnotice, p, hp, hstage⟩
    · intro _ engine hstage
      exact Or.inr ⟨hnotice, p, hp, hstage⟩
  | begin extra =>
    unfold Phase.answerReady
    rw [wp_bind]
    refine wp_mono (fits_provideFor self extra h hnotice) ?_ (fun _ _ hfailed => hfailed)
    intro _ c hafter
    obtain ⟨hnotice, p, hp, hopened⟩ := hafter
    rw [wp_bind, wp_call_of_bound hnotice hp]
    refine wp_mono (T.begin extra.options hopened) ?_ ?_
    · intro _ engine hstage
      exact ⟨hnotice, p, hp, hstage⟩
    · intro _ engine hstage
      exact Or.inr ⟨hnotice, p, hp, hstage⟩
  | _ => exact Or.inl h

/-- A statement within the transaction keeps it open. -/
lemma fits_runInTransaction {stage : Stage} (run : Run)
    (hopen : stage = .transaction ∨ stage = .transactionStatement) (h : T.Working stage c) :
    wp (Phase.runInTransaction E run) T.Fits (fun _ => T.Fits .failed) c := by
  obtain ⟨hnotice, p, hp, hstage⟩ := h
  unfold Phase.runInTransaction
  rw [wp_bind, wp_call_of_bound hnotice hp]
  refine wp_mono (T.runWithin run.query run.parameters hopen hstage) ?_ ?_
  · intro info engine hstage
    unfold Phase.describe
    rw [wp_bind, wp_bind, wp_report, wp_mention, wp_bind, wp_mention, wp_pure]
    exact ⟨hnotice, p, hp, hstage⟩
  · intro _ engine hstage
    exact Or.inr ⟨hnotice, p, hp, hstage⟩

/-- The end of a statement outside of a transaction looks at the binding once more. -/
lemma fits_endStatement (bookmark : Option String) (hnotice : c.notice = none)
    (h : T.unbound c.engine) :
    wp (Phase.endStatement E bookmark) T.Fits (fun _ => T.Fits .failed) c := by
  have hmentioned : ∀ (key : String) (value : Option String) (c : Connection σ P H),
      c.notice = none → T.unbound c.engine →
      wp (Phase.mention? key value) (fun _ c => c.notice = none ∧ T.unbound c.engine)
        (fun _ => T.Fits .failed) c := by
    intro key value c hnotice hunbound
    cases value <;> exact ⟨hnotice, hunbound⟩
  unfold Phase.endStatement
  rw [wp_bind]
  refine wp_mono (hmentioned _ _ c hnotice h) ?_ (fun _ _ hfailed => hfailed)
  intro _ c hafter
  obtain ⟨hnotice, hunbound⟩ := hafter
  rw [wp_bind, wp_database? E hnotice, wp_bind]
  refine wp_mono (hmentioned _ _ c hnotice hunbound) ?_ (fun _ _ hfailed => hfailed)
  intro _ c hafter
  obtain ⟨hnotice, hunbound⟩ := hafter
  rw [wp_becomeIdle]
  exact ⟨⟨rfl, hunbound⟩, hnotice⟩

lemma fits_answerStreaming (request : Request) (h : T.Working .statement c) :
    wp (Phase.answerStreaming E request) T.Fits (fun _ => T.Fits .failed) c := by
  cases request with
  | stream mode batch =>
    obtain ⟨hnotice, p, hp, hstage⟩ := h
    unfold Phase.answerStreaming
    rw [wp_bind, wp_stream_of_bound hnotice hp]
    refine (T.stream mode batch.size c.relay hstage).mono ?_ ?_
    · intro outcome engine hafter
      rw [wp_ite]
      split at hafter
      · rename_i hmore
        rw [if_pos hmore, wp_awaitMore]
        exact ⟨hnotice, p, hp, hafter⟩
      · rename_i hmore
        rw [if_neg hmore]
        exact fits_endStatement _ hnotice hafter
    · intro _ engine hafter
      exact Or.inr ⟨hnotice, p, hp, hafter⟩
  | _ => exact fits_failed (Or.inr ⟨_, h⟩)

lemma fits_answerTransactionReady (request : Request) (h : T.Working .transaction c) :
    wp (Phase.answerTransactionReady E request) T.Fits (fun _ => T.Fits .failed) c := by
  cases request with
  | run run => exact fits_runInTransaction run (Or.inl rfl) h
  | commit =>
    obtain ⟨hnotice, p, hp, hstage⟩ := h
    unfold Phase.answerTransactionReady
    rw [wp_bind, wp_call_of_bound hnotice hp]
    refine wp_mono (T.commit hstage) ?_ ?_
    · intro bookmark engine hunbound
      rw [wp_bind, wp_mention, wp_becomeIdle]
      exact ⟨⟨rfl, hunbound⟩, hnotice⟩
    · intro _ engine hafter
      exact Or.inr ⟨hnotice, p, hp, hafter⟩
  | rollback =>
    obtain ⟨hnotice, p, hp, hstage⟩ := h
    unfold Phase.answerTransactionReady
    rw [wp_bind, wp_call_of_bound hnotice hp]
    refine wp_mono (T.rollback hstage) ?_ ?_
    · intro _ engine hunbound
      exact ⟨⟨rfl, hunbound⟩, hnotice⟩
    · intro _ engine hafter
      exact Or.inr ⟨hnotice, p, hp, hafter⟩
  | _ => exact fits_failed (Or.inr ⟨_, h⟩)

omit [Sink H] in
/-- The end of a statement in a transaction asks whether another one is open. -/
lemma fits_endTransactionStatement {p : P} (hnotice : c.notice = none) (hp : c.bound = some p)
    (h : if E.isStreaming p c.engine then T.holds .transactionStatement p c.engine
      else T.holds .transaction p c.engine) :
    wp (Phase.endTransactionStatement E) T.Fits (fun _ => T.Fits .failed) c := by
  unfold Phase.endTransactionStatement
  rw [wp_bind, wp_isStreaming E hnotice, wp_ite]
  have hasked : E.orIdle.isStreaming c.bound c.engine = E.isStreaming p c.engine := by
    rw [hp]
    rfl
  rw [hasked]
  split at h
  · rename_i hstreaming
    rw [if_pos hstreaming]
    exact ⟨hnotice, p, hp, h⟩
  · rename_i hstreaming
    rw [if_neg hstreaming]
    exact ⟨hnotice, p, hp, h⟩

lemma fits_answerTransactionStreaming (request : Request)
    (h : T.Working .transactionStatement c) :
    wp (Phase.answerTransactionStreaming E request) T.Fits (fun _ => T.Fits .failed) c := by
  cases request with
  | run run => exact fits_runInTransaction run (Or.inr rfl) h
  | stream mode batch =>
    obtain ⟨hnotice, p, hp, hstage⟩ := h
    unfold Phase.answerTransactionStreaming
    rw [wp_bind, wp_stream_of_bound hnotice hp]
    refine (T.streamWithin batch.statement mode batch.size c.relay hstage).mono ?_ ?_
    · intro outcome engine hafter
      rw [wp_ite]
      cases hmore : outcome.hasMore with
      | true =>
        rw [hmore, Bool.true_or, if_pos rfl] at hafter
        rw [if_pos rfl, wp_awaitMore]
        exact ⟨hnotice, p, hp, hafter⟩
      | false =>
        rw [hmore, Bool.false_or] at hafter
        rw [if_neg Bool.false_ne_true]
        exact fits_endTransactionStatement hnotice hp hafter
    · intro _ engine hafter
      exact Or.inr ⟨hnotice, p, hp, hafter⟩
  | _ => exact fits_failed (Or.inr ⟨_, h⟩)

/-- Every request that calls a lost processor hears of the loss; the others are refused. -/
lemma fits_answer_of_lost (self : Identity) (request : Request) {phase : Phase}
    (hphase : canLose phase) (hnotice : c.notice ≠ none) (h : T.Idle c) :
    wp (phase.answer E self request) T.Fits (fun _ => T.Fits .failed) c := by
  obtain ⟨status, hstatus⟩ := Option.ne_none_iff_exists'.mp hnotice
  have hraised : T.Fits .failed { c with notice := none } := Or.inl h
  cases phase <;> try cases hphase
  case streaming =>
    cases request with
    | reset => exact fits_answerReset (Or.inl h)
    | stream mode batch =>
      unfold Phase.answer Phase.answerStreaming
      exact (wp_bind _ _).mpr ((wp_stream_of_notice hstatus _ _ _).mpr hraised)
    | _ => exact Or.inl h
  case transactionReady =>
    cases request with
    | reset => exact fits_answerReset (Or.inl h)
    | run run => exact (wp_bind _ _).mpr ((wp_call_of_notice hstatus _).mpr hraised)
    | commit => exact (wp_bind _ _).mpr ((wp_call_of_notice hstatus _).mpr hraised)
    | rollback => exact (wp_bind _ _).mpr ((wp_call_of_notice hstatus _).mpr hraised)
    | _ => exact Or.inl h
  case transactionStreaming =>
    cases request with
    | reset => exact fits_answerReset (Or.inl h)
    | run run => exact (wp_bind _ _).mpr ((wp_call_of_notice hstatus _).mpr hraised)
    | stream mode batch =>
      unfold Phase.answer Phase.answerTransactionStreaming
      exact (wp_bind _ _).mpr ((wp_stream_of_notice hstatus _ _ _).mpr hraised)
    | _ => exact Or.inl h

/-- Whatever is asked in a phase, the answer leads to a phase that fits. A fault may fail the
session. -/
theorem fits_answer (self : Identity) (request : Request) {phase : Phase}
    (h : T.FitsAccepted phase c) :
    wp (phase.answer E self request) T.Fits (fun _ => T.Fits .failed) c := by
  rcases h with hfits | ⟨hidle, hnotice, hphase⟩
  · have hreset : wp (Phase.answerReset E) T.Fits (fun _ => T.Fits .failed) c :=
      fits_answerReset hfits.idle_or_working
    cases phase with
    | connected => exact fits_answerConnected self request hfits.1 hfits.2
    | defunct => exact Or.inl hfits.1
    | ready =>
      have hanswer := fits_answerReady self request hfits.1 hfits.2
      cases request <;> first | exact hreset | exact hanswer
    | streaming =>
      have hanswer := fits_answerStreaming request hfits
      cases request <;> first | exact hreset | exact hanswer
    | transactionReady =>
      have hanswer := fits_answerTransactionReady request hfits
      cases request <;> first | exact hreset | exact hanswer
    | transactionStreaming =>
      have hanswer := fits_answerTransactionStreaming request hfits
      cases request <;> first | exact hreset | exact hanswer
    | failed => cases request <;> first | exact hreset | exact hfits
    | interrupted => cases request <;> first | exact hreset | exact hfits
  · exact fits_answer_of_lost self request hphase hnotice hidle

end

end Typestate
end QuerySession
