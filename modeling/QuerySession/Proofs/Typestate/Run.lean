import QuerySession.Proofs.Run
import QuerySession.Proofs.Typestate

/-!
# Typestates along a run

What a typestate says in a phase survives the three steps of a request, and all else that can
reach a session. A processor may be lost before a request is performed; the phase shows it once
the request is over, unless something that waited to be reported kept the request back.

* `Typestate.fits_after`: without reports between the requests every loss is shown at once;
* `Typestate.fitsAccepted_after`: with them, it is shown by the next request that is performed.
-/

namespace QuerySession
namespace Typestate

variable {σ P ρ H : Type} [RecordSource ρ] {E : Engine σ P ρ} {T : Typestate E}

/-! ## Before the request -/


section
variable {c : Connection σ P H}

lemma idle_release (h : T.Idle c ∨ ∃ stage, T.Working stage c) :
    T.Idle (c.release E) ∧ (c.release E).notice = none := by
  have hgiven := idle_giveUp h
  unfold wp at hgiven
  unfold Connection.release
  cases hresult : Connection.giveUp E c with
  | ok _ c =>
    rw [hresult] at hgiven
    exact hgiven.symm
  | error _ c =>
    rw [hresult] at hgiven
    exact hgiven.symm

/-- Only a bound processor is asked whether its transaction is alive. -/
lemma idle_validate (h : T.Idle c) : T.Idle (c.validate E) := by
  cases hnotice : c.notice with
  | some status => rwa [Connection.validate_of_notice hnotice]
  | none => rwa [Connection.validate_of_bound hnotice h.1]

lemma notice_validate_of_idle (h : T.Idle c) : (c.validate E).notice = c.notice := by
  cases hnotice : c.notice with
  | some status => rw [Connection.validate_of_notice hnotice, hnotice]
  | none => rw [Connection.validate_of_bound hnotice h.1]; exact hnotice

/-- A processor is lost with a notice, or goes on as before. -/
lemma working_validate {stage : Stage} (h : T.Working stage c) :
    T.Working stage (c.validate E) ∨ (T.Idle (c.validate E) ∧ (c.validate E).notice ≠ none) := by
  obtain ⟨hnotice, p, hp, hstage⟩ := h
  have hvalidate := T.validate hstage
  have horIdle : E.orIdle.validate (some p) c.engine = E.validate p c.engine := rfl
  rw [Connection.validate_of_bound hnotice hp, horIdle]
  generalize E.validate p c.engine = found at hvalidate ⊢
  obtain ⟨status, engine⟩ := found
  cases status with
  | none => exact Or.inl ⟨hnotice, p, hp, hvalidate⟩
  | some status => exact Or.inr ⟨⟨rfl, hvalidate⟩, Option.some_ne_none _⟩

lemma fitsAccepted_validate {phase : Phase} (h : T.FitsAccepted phase c) :
    T.FitsAccepted phase (c.validate E) := by
  rcases h with hfits | ⟨hidle, hnotice, hphase⟩
  · have hidle (hidle : T.Idle c) := idle_validate hidle
    cases phase with
    | connected => exact Or.inl ⟨hidle hfits.1, (notice_validate_of_idle hfits.1).trans hfits.2⟩
    | ready => exact Or.inl ⟨hidle hfits.1, (notice_validate_of_idle hfits.1).trans hfits.2⟩
    | defunct => exact Or.inl ⟨hidle hfits.1, (notice_validate_of_idle hfits.1).trans hfits.2⟩
    | streaming => exact (working_validate hfits).imp_right fun h => ⟨h.1, h.2, rfl⟩
    | transactionReady => exact (working_validate hfits).imp_right fun h => ⟨h.1, h.2, rfl⟩
    | transactionStreaming => exact (working_validate hfits).imp_right fun h => ⟨h.1, h.2, rfl⟩
    | failed =>
      rcases hfits with h | h
      · exact Or.inl (Or.inl (hidle h))
      · exact Or.inl ((working_validate h).symm.imp_left fun h => h.1)
    | interrupted =>
      refine Or.inl ⟨?_, by rw [Connection.signals_validate]; exact hfits.2⟩
      rcases hfits.1 with h | h
      · exact Or.inl (hidle h)
      · exact (working_validate h).symm.imp_left fun h => h.1
  · exact Or.inr ⟨idle_validate hidle, by rwa [notice_validate_of_idle hidle], hphase⟩

end

/-! Neither the relay nor further interrupts matter. -/

section
variable {c : Connection σ P H} {phase : Phase}

lemma fits_relay (relay : Relay H) (h : T.Fits phase c) : T.Fits phase { c with relay } := by
  cases phase <;> exact h

lemma fitsAccepted_relay (relay : Relay H) (h : T.FitsAccepted phase c) :
    T.FitsAccepted phase { c with relay } :=
  h.imp_left (fits_relay relay)

lemma fits_signals {signals : Signals} (hle : c.signals.interrupts ≤ signals.interrupts)
    (h : T.Fits phase c) : T.Fits phase { c with signals } := by
  cases phase with
  | interrupted => exact ⟨h.1, Nat.lt_of_lt_of_le h.2 hle⟩
  | _ => exact h

lemma fitsAccepted_signals {signals : Signals} (hle : c.signals.interrupts ≤ signals.interrupts)
    (h : T.FitsAccepted phase c) : T.FitsAccepted phase { c with signals } :=
  h.imp_left (fits_signals hle)

end

section
variable [Sink H] {s : Session σ P H}

omit [Sink H] in
/-- The end leaves no processor bound. -/
lemma fits_close (h : T.Idle s.connection ∨ ∃ stage, T.Working stage s.connection) :
    T.Fits (s.close E).phase (s.close E).connection :=
  idle_release h

omit [Sink H] in
/-- A signal that takes effect leads to a phase that fits. -/
lemma fits_heedSignals (h : T.Idle s.connection ∨ ∃ stage, T.Working stage s.connection) :
    s.heedSignals E = s ∨ T.Fits (s.heedSignals E).phase (s.heedSignals E).connection := by
  rcases Session.heedSignals_cases E s with
    ⟨-, -, heq⟩ | ⟨-, hinterrupted, -, heq⟩ | ⟨-, -, heq⟩
  · rw [heq]
    exact Or.inr (fits_close h)
  · rw [heq]
    right
    have hpos : 0 < s.connection.signals.interrupts := of_decide_eq_true hinterrupted
    rcases h with hidle | ⟨stage, hnotice, p, hp, hstage⟩
    · cases hnotice : s.connection.notice with
      | none =>
        rw [Connection.abort_of_bound hnotice hidle.1]
        exact ⟨Or.inl hidle, hpos⟩
      | some status =>
        rw [Connection.abort_of_notice hnotice]
        exact ⟨Or.inl hidle, hpos⟩
    · rw [Connection.abort_of_bound hnotice hp]
      exact ⟨Or.inr ⟨hnotice, p, hp, T.abort hstage⟩, hpos⟩
  · exact Or.inl heq

omit [Sink H] in
lemma fitsAccepted_accept (handler : H) (h : T.FitsAccepted s.phase s.connection) :
    T.FitsAccepted (s.accept E handler).phase (s.accept E handler).connection := by
  have hheed : T.FitsAccepted (s.heedSignals E).phase (s.heedSignals E).connection := by
    rcases fits_heedSignals (E := E) h.idle_or_working with heq | hfits
    · rwa [heq]
    · exact Or.inl hfits
  unfold Session.accept
  dsimp only
  split
  · exact fitsAccepted_relay _ hheed
  · exact fitsAccepted_relay _ (fitsAccepted_validate hheed)

omit [Sink H] in
/-- A closed session asks no processor before a request. -/
lemma fits_accept_of_closed (handler : H) (h : T.Fits s.phase s.connection)
    (hclosed : (s.accept E handler).isClosed) :
    T.Fits (s.accept E handler).phase (s.accept E handler).connection := by
  have hheed : T.Fits (s.heedSignals E).phase (s.heedSignals E).connection := by
    rcases fits_heedSignals (E := E) h.idle_or_working with heq | hfits
    · rwa [heq]
    · exact hfits
  unfold Session.isClosed Session.accept at hclosed
  unfold Session.accept
  dsimp only at hclosed ⊢
  split
  · exact fits_relay _ hheed
  · rename_i hopen
    rw [if_neg hopen] at hclosed
    rw [Connection.signals_validate] at hclosed
    exact absurd hclosed hopen

lemma fits_fail (fault : Fault) (h : T.Fits .failed s.connection) :
    Meets (fun _ s => T.Fits s.phase s.connection) (fun _ s => T.Fits s.phase s.connection)
      (Session.fail E fault s) := by
  unfold Session.fail
  dsimp only
  split
  · exact fits_close (s := { s with connection := s.connection.tell _ }) h.idle_or_working
  · exact fits_relay _ h

lemma fits_dispatch (request : Request) (h : T.FitsAccepted s.phase s.connection) :
    wp (Session.dispatch E request) (fun _ s => T.Fits s.phase s.connection)
      (fun _ s => T.Fits s.phase s.connection) s := by
  refine Session.wp_dispatch (fits_close h.idle_or_working) ?_
  refine wp_mono (fits_answer s.self request h) (fun _ _ hfits => hfits) ?_
  intro fault c hfits
  exact fits_fail fault hfits

/-- A request that is not kept from the table leads to a phase that fits. -/
lemma fits_perform (request : Request) (h : T.FitsAccepted s.phase s.connection)
    (hclosed : s.isClosed → T.Fits s.phase s.connection)
    (hsettled : s.connection.relay.isSettled) :
    wp (Session.perform E request) (fun _ s => T.Fits s.phase s.connection)
      (fun _ s => T.Fits s.phase s.connection) s := by
  unfold wp
  cases hopen : s.isClosed with
  | true =>
    rw [Session.perform_of_closed request hopen]
    exact hclosed hopen
  | false =>
    rw [Session.perform_of_passes hopen (Session.passes_of_settled request hopen hsettled)]
    exact fits_dispatch request h

/-- What waits to be reported may keep a request from the table. -/
lemma fitsAccepted_perform (request : Request) (h : T.FitsAccepted s.phase s.connection) :
    wp (Session.perform E request) (fun _ s => T.FitsAccepted s.phase s.connection)
      (fun _ s => T.FitsAccepted s.phase s.connection) s := by
  refine Session.wp_perform h fun _ => ?_
  exact wp_mono (fits_dispatch request h) (fun _ _ hfits => Or.inl hfits)
    (fun _ _ hfits => Or.inl hfits)

omit [Sink H] in
lemma fits_phaseAfterFailure {phase : Phase} {c : Connection σ P H} (h : T.Fits phase c) :
    T.Fits (Session.phaseAfterFailure phase) c := by
  cases phase with
  | interrupted => exact h
  | defunct => exact h
  | _ => exact fits_failed h.idle_or_working

lemma fits_conclude (reply : Bool) (h : T.Fits s.phase s.connection) :
    T.Fits (s.conclude reply).2.phase (s.conclude reply).2.connection := by
  rw [Session.connection_conclude, Session.phase_conclude]
  split
  · exact fits_relay _ (fits_phaseAfterFailure h)
  · exact fits_relay _ h

lemma fitsAccepted_conclude (reply : Bool) (h : T.FitsAccepted s.phase s.connection) :
    T.FitsAccepted (s.conclude reply).2.phase (s.conclude reply).2.connection := by
  rcases h with hfits | ⟨hidle, hnotice, hphase⟩
  · exact Or.inl (fits_conclude reply hfits)
  · rw [Session.connection_conclude, Session.phase_conclude]
    split
    · -- the phase shows the loss now
      left
      cases hp : s.phase <;> rw [hp] at hphase <;> first | exact Or.inl hidle | cases hphase
    · exact Or.inr ⟨hidle, hnotice, hphase⟩

/-- Every input preserves that the connection fits the phase, up to a loss that no request has
shown yet. -/
theorem fitsAccepted_receive (input : Input H) (h : T.FitsAccepted s.phase s.connection) :
    T.FitsAccepted (s.receive E input).phase (s.receive E input).connection := by
  cases input with
  | request request handler interrupts =>
    have haccepted : T.FitsAccepted (s.accept E handler).phase
        ((s.accept E handler).signal (Signals.interruptBy interrupts)).connection :=
      fitsAccepted_signals (Nat.le_add_right _ _) (fitsAccepted_accept handler h)
    have hperformed := fitsAccepted_perform
      (s := (s.accept E handler).signal (Signals.interruptBy interrupts)) request haccepted
    exact Session.session_settle hperformed fun reply _ => fitsAccepted_conclude reply
  | interrupt => exact fitsAccepted_signals (Nat.le_succ _) h
  | terminate => exact fitsAccepted_signals (Nat.le_refl _) h
  | close => exact Or.inl (fits_close h.idle_or_working)
  | report report => exact fitsAccepted_relay _ h

/-- Without reports between the requests every loss is shown at once. -/
theorem fits_receive {input : Input H} (hinput : ∀ report, input ≠ .report report)
    (hrelay : s.connection.relay = {}) (h : T.Fits s.phase s.connection) :
    T.Fits (s.receive E input).phase (s.receive E input).connection := by
  cases input with
  | request request handler interrupts =>
    have haccepted : T.FitsAccepted (s.accept E handler).phase
        ((s.accept E handler).signal (Signals.interruptBy interrupts)).connection :=
      fitsAccepted_signals (Nat.le_add_right _ _) (fitsAccepted_accept handler (Or.inl h))
    have hclosed : (s.accept E handler).isClosed →
        T.Fits (s.accept E handler).phase ((s.accept E handler).signal
          (Signals.interruptBy interrupts)).connection := fun hclosed =>
      fits_signals (Nat.le_add_right _ _) (fits_accept_of_closed handler h hclosed)
    have hsettled : (s.accept E handler).connection.relay.isSettled := by
      rw [Session.relay_accept, hrelay]
      rfl
    have hperformed := fits_perform
      (s := (s.accept E handler).signal (Signals.interruptBy interrupts)) request haccepted
      hclosed hsettled
    exact Session.session_settle hperformed fun reply _ => fits_conclude reply
  | interrupt => exact fits_signals (Nat.le_succ _) h
  | terminate => exact fits_signals (Nat.le_refl _) h
  | close => exact fits_close h.idle_or_working
  | report report => exact absurd rfl (hinput report)

/-- After every run the connection fits the phase, up to a loss that no request has shown yet. -/
theorem fitsAccepted_after (inputs : List (Input H)) (h : T.FitsAccepted s.phase s.connection) :
    T.FitsAccepted (s.after E inputs).phase (s.after E inputs).connection :=
  Session.after_induction (motive := fun s => T.FitsAccepted s.phase s.connection) h
    fun input _ _ => fitsAccepted_receive input

/-- After every run without reports between the requests, nothing is buffered and the connection
fits the phase. -/
theorem fits_after {inputs : List (Input H)} (hinputs : ∀ report, .report report ∉ inputs)
    (hrelay : s.connection.relay = {}) (h : T.Fits s.phase s.connection) :
    (s.after E inputs).connection.relay = {} ∧
      T.Fits (s.after E inputs).phase (s.after E inputs).connection := by
  refine Session.after_induction
    (motive := fun s => s.connection.relay = {} ∧ T.Fits s.phase s.connection) ⟨hrelay, h⟩ ?_
  intro input hmem s hafter
  obtain ⟨hrelay, h⟩ := hafter
  have hinput : ∀ report, input ≠ .report report := by
    intro report heq
    subst heq
    exact hinputs report hmem
  exact ⟨Session.relay_receive E hinput hrelay, fits_receive hinput hrelay h⟩

end

/-! ## Every engine -/

/-- The typestate that asks nothing of the engine. What it says of a session is about the binding
and the notice alone. -/
def bare (E : Engine σ P ρ) : Typestate E where
  unbound _ := True
  opened _ _ := True
  holds _ _ _ := True
  provide _ _ := Meets.always (fun _ _ => trivial) (fun _ _ => trivial) _
  begin _ _ := Meets.always (fun _ _ => trivial) (fun _ _ => trivial) _
  run _ _ _ _ := Meets.always (fun _ _ => trivial) (fun _ _ => trivial) _
  runWithin _ _ _ _ := Meets.always (fun _ _ => trivial) (fun _ _ => trivial) _
  stream _ _ _ _ _ _ := Meets.always (fun outcome _ => by cases outcome.hasMore <;> trivial)
    (fun _ _ => trivial) _
  streamWithin _ _ _ _ _ _ _ := Meets.always (fun _ _ => by split <;> trivial)
    (fun _ _ => trivial) _
  commit _ := Meets.always (fun _ _ => trivial) (fun _ _ => trivial) _
  rollback _ := Meets.always (fun _ _ => trivial) (fun _ _ => trivial) _
  reset _ := Meets.always (fun _ _ => trivial) (fun _ _ => trivial) _
  abort _ := trivial
  validate {_ p s} _ := by
    cases hreport : E.validate p s with
    | mk status state => cases status <;> trivial
  halt _ := trivial

end Typestate
end QuerySession
