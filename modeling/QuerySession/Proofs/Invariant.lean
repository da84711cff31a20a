import QuerySession.Proofs.Handlers
import QuerySession.Proofs.History
import QuerySession.Proofs.Signals
import QuerySession.Proofs.Typestate.Run

/-!
# What holds between two requests

A session that only receives requests and signals is in good order whenever it waits for the next
request: nothing of the last one is left over, the phase says whether the session has ended, and
the binding and the notice are what the phase says they are. `Session.Coherent` lists it all, and
`Session.coherent_after` shows that it holds after every run, whatever the engine does.

The clauses on the binding are a typestate, `provenance`, whose only condition is that the bound
processor was provided. The clause on the end is about the signals alone.
-/

namespace QuerySession

variable {σ P ρ H : Type} [RecordSource ρ]

/-- A bound processor was provided. -/
def provenance (E : Engine σ P ρ) : Typestate E.journaled where
  unbound _ := True
  opened p j := j.Provided p
  holds _ p j := j.Provided p
  provide database _ := by
    rw [wp_journalProvide]
    apply Meets.always
    · intro p s
      exact Journal.provided_withProvided _ database p s
    · intro fault s
      trivial
  begin options h := (wp_journalCall _ _ _).mpr
    (Meets.always (fun _ _ => h.record _ _) (fun _ _ => h.record _ _) _)
  run query parameters options h := (wp_journalCall _ _ _).mpr
    (Meets.always (fun _ _ => h.record _ _) (fun _ _ => h.record _ _) _)
  runWithin query parameters _ h := (wp_journalCall _ _ _).mpr
    (Meets.always (fun _ _ => h.record _ _) (fun _ _ => h.record _ _) _)
  stream mode size H _ sink h := by
    rw [meets_journalStream]
    apply Meets.always
    · intro outcome s
      split
      · exact h.record _ _
      · trivial
    · intro fault s
      exact h.record _ _
  streamWithin number mode size H _ sink h := by
    rw [meets_journalStream]
    apply Meets.always
    · intro outcome s
      split
      · exact h.record _ _
      · exact h.record _ _
    · intro fault s
      exact h.record _ _
  commit h := (wp_journalCall _ _ _).mpr
    (Meets.always (fun _ _ => trivial) (fun _ _ => h.record _ _) _)
  rollback h := (wp_journalCall _ _ _).mpr
    (Meets.always (fun _ _ => trivial) (fun _ _ => h.record _ _) _)
  reset _ := (wp_journalCall _ _ _).mpr
    (Meets.always (fun _ _ => trivial) (fun _ _ => trivial) _)
  abort h := h.record _ _
  validate {stage p j} h := by
    have hrecorded : ∀ event s, (j.record event s).Provided p := fun event s => h.record event s
    unfold Engine.journaled
    dsimp only
    cases (E.validate p.processor j.state).1 with
    | none => exact hrecorded _ _
    | some status => trivial
  halt h := h

namespace Session

/-- The session waits for the next request. -/
structure Coherent (s : Session (Journal σ P) (Numbered P) H) : Prop where
  /-- No handler is attached. -/
  detached : s.connection.relay.handler = none
  /-- No failure is buffered, -/
  settled : s.connection.relay.failure = none
  /-- and neither is the word that a request was ignored. -/
  unignored : s.connection.relay.ignored = false
  ended : s.phase = .defunct ↔ s.isClosed
  /-- Before HELLO, between statements and after the end no processor is bound. -/
  idle : s.phase = .connected ∨ s.phase = .ready ∨ s.phase = .defunct →
    s.connection.bound = none ∧ s.connection.notice = none
  /-- While there is work, the processor for it was provided. -/
  working : s.phase = .streaming ∨ s.phase = .transactionReady ∨ s.phase = .transactionStreaming →
    (∃ p, s.connection.bound = some p ∧ s.connection.engine.Provided p) ∧
      s.connection.notice = none
  interrupted : s.phase = .interrupted → 0 < s.connection.signals.interrupts
  noticed : s.connection.notice ≠ none →
    s.connection.bound = none ∧ (s.phase = .failed ∨ s.phase = .interrupted)

/-- The clauses on the binding and the notice, read off the typestate. -/
lemma coherent_of_fits {E : Engine σ P ρ} {s : Session (Journal σ P) (Numbered P) H}
    (hrelay : s.connection.relay = {}) (hend : s.EndShown)
    (hfits : (provenance E).Fits s.phase s.connection) : s.Coherent where
  detached := by rw [hrelay]
  settled := by rw [hrelay]
  unignored := by rw [hrelay]
  ended := hend
  idle hphase := by
    rcases hphase with hphase | hphase | hphase
    all_goals
      rw [hphase] at hfits
      exact ⟨hfits.1.1, hfits.2⟩
  working hphase := by
    rcases hphase with hphase | hphase | hphase
    all_goals
      rw [hphase] at hfits
      obtain ⟨hnotice, p, hbound, hprovided⟩ := hfits
      exact ⟨⟨p, hbound, hprovided⟩, hnotice⟩
  interrupted hphase := by
    rw [hphase] at hfits
    exact hfits.2
  noticed hnotice := by
    -- a processor that a call will reach excludes a notice, and so do the phases that rest
    have hidle (h : (provenance E).Idle s.connection ∨
        (provenance E).Working .halted s.connection) : s.connection.bound = none := by
      rcases h with hidle | hwork
      · exact hidle.1
      · exact absurd hwork.1 hnotice
    cases hphase : s.phase with
    | failed =>
      rw [hphase] at hfits
      exact ⟨hidle hfits, Or.inl rfl⟩
    | interrupted =>
      rw [hphase] at hfits
      exact ⟨hidle hfits.1, Or.inr rfl⟩
    | connected => rw [hphase] at hfits; exact absurd hfits.2 hnotice
    | ready => rw [hphase] at hfits; exact absurd hfits.2 hnotice
    | defunct => rw [hphase] at hfits; exact absurd hfits.2 hnotice
    | streaming => rw [hphase] at hfits; exact absurd hfits.1 hnotice
    | transactionReady => rw [hphase] at hfits; exact absurd hfits.1 hnotice
    | transactionStreaming => rw [hphase] at hfits; exact absurd hfits.1 hnotice

variable [Sink H]

/-- Whatever requests and signals a session receives, and whatever its engine does, the session is
in good order after each of them. -/
theorem coherent_after (E : Engine σ P ρ) (self : Identity) (engine : σ) {inputs : List (Input H)}
    (hinputs : ∀ report, .report report ∉ inputs) :
    ((start self { state := engine }).after E.journaled inputs).Coherent := by
  have hstart : (provenance E).Fits .connected
      (start (H := H) self { state := engine }).connection := ⟨⟨rfl, trivial⟩, rfl⟩
  have hfits := Typestate.fits_after (T := provenance E) hinputs (s := start self _) rfl hstart
  have hend : ((start self { state := engine }).after E.journaled inputs).EndShown :=
    endShown_after inputs ⟨nofun, nofun⟩
  exact coherent_of_fits hfits.1 hend hfits.2

/-- A transaction that is interrupted and given up leaves a session in good order. -/
theorem coherent_after_givenUp :
    ((start {} { state := none }).after (Engine.frail .transactionTerminated).journaled
      [.request (.hello ∅) ({ output := [] } : Reply (List Response)) 0,
        .request (.begin ∅) { output := [] } 0, .interrupt,
        .request .reset { output := [] } 0]).Coherent :=
  coherent_after (Engine.frail .transactionTerminated) {} none (by
    intro report hmem
    rcases List.mem_cons.mp hmem with h | hmem
    · cases h
    rcases List.mem_cons.mp hmem with h | hmem
    · cases h
    rcases List.mem_cons.mp hmem with h | hmem
    · cases h
    · cases List.mem_singleton.mp hmem)

end Session
end QuerySession
