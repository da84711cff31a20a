import QuerySession.Proofs.CallProtocol
import QuerySession.Proofs.History
import QuerySession.Proofs.Typestate.Run

/-!
# Every processor is called in order

A session calls the processors that it is provided with by the protocol of
`QuerySession.Proofs.CallProtocol`, in every run and whatever the engine answers:
`Session.isOrderly_after`.

The proof is a typestate, `discipline`. The machine of the protocol reads the history of every
processor; what a session does at a stage of its work is what the machine allows in the state that
goes with the stage.
-/

namespace QuerySession

variable {σ P ρ : Type}

/-- The call on the processor with a number, if the event is one. -/
def Event.entry? (number : Nat) : Event P → Option Entry
  | .called p call result => if p.number = number then some (call, result) else none
  | .provided .. => none

namespace Journal

variable {j : Journal σ P} {p : Numbered P} {call : Call} {result : CallResult} {state : σ}

/-- The history of the processor with a number. -/
def entriesOf (number : Nat) (j : Journal σ P) : List Entry :=
  j.events.filterMap (Event.entry? number)

lemma entriesOf_record (number : Nat) (event : Event P) :
    (j.record event state).entriesOf number =
      j.entriesOf number ++ (event.entry? number).toList := by
  unfold entriesOf
  rw [events_record, List.filterMap_append]
  cases hentry : event.entry? number with
  | none => rw [List.filterMap_cons_none hentry]; rfl
  | some entry => rw [List.filterMap_cons_some hentry]; rfl

lemma entriesOf_called : (j.record (.called p call result) state).entriesOf p.number =
    j.entriesOf p.number ++ [(call, result)] := by
  rw [entriesOf_record]
  show _ ++ (if p.number = p.number then some (call, result) else none).toList = _
  rw [if_pos rfl]
  rfl

lemma entriesOf_called_of_ne {number : Nat} (h : p.number ≠ number) :
    (j.record (.called p call result) state).entriesOf number = j.entriesOf number := by
  rw [entriesOf_record]
  show _ ++ (if p.number = number then some (call, result) else none).toList = _
  rw [if_neg h]
  exact List.append_nil _

lemma entriesOf_provided (number : Nat) (database : String) (answer : Except Fault (Numbered P))
    (state : σ) : (j.record (.provided database answer) state).entriesOf number = j.entriesOf number := by
  rw [entriesOf_record]
  exact List.append_nil _

/-- Every history can be read, and processors that are still to come have none. -/
structure IsReadable (j : Journal σ P) : Prop where
  follow : ∀ number, ∃ progress, Progress.follow (j.entriesOf number) = some progress
  untouched : ∀ number, j.processors ≤ number → j.entriesOf number = []

/-- The calls on a processor have come to a state. -/
structure IsAt (progress : Progress) (p : Numbered P) (j : Journal σ P) : Prop where
  readable : j.IsReadable
  provided : p.number < j.processors
  follow : Progress.follow (j.entriesOf p.number) = some progress

/-- A call in order moves the processor that it is made on, and no other. -/
lemma IsAt.record {progress : Progress} (h : j.IsAt progress p) {call : Call}
    (hallows : progress.allows call) (result : CallResult) (state : σ) :
    (j.record (.called p call result) state).IsAt (progress.move call result) p := by
  have hfollow : Progress.follow ((j.record (.called p call result) state).entriesOf p.number) =
      some (progress.move call result) := by
    rw [entriesOf_called, Progress.follow_snoc h.follow, Progress.next_eq_some]
    exact ⟨hallows, rfl⟩
  refine ⟨⟨?_, ?_⟩, h.provided, hfollow⟩
  -- the histories of other processors are as they were
  · intro number
    by_cases hnumber : p.number = number
    · subst hnumber
      exact ⟨_, hfollow⟩
    · rw [entriesOf_called_of_ne hnumber]
      exact h.readable.follow number
  · intro number hnumber
    -- a processor that is still to come is none that was provided
    have hne : p.number ≠ number := by
      have hprovided := h.provided
      rw [processors_record] at hnumber
      omega
    rw [entriesOf_called_of_ne hne]
    exact h.readable.untouched number hnumber

lemma IsReadable.refuse (h : j.IsReadable) (database : String) (fault : Fault) (state : σ) :
    (j.record (.provided database (.error fault)) state).IsReadable := by
  refine ⟨?_, ?_⟩
  · intro number
    rw [entriesOf_provided]
    exact h.follow number
  · intro number hnumber
    rw [entriesOf_provided]
    exact h.untouched number hnumber

/-- A new processor starts with an empty history. -/
lemma IsReadable.withProvided (h : j.IsReadable) (database : String) (processor : P) (state : σ) :
    (j.withProvided database processor state).IsAt .opened (j.fresh processor) := by
  have hentries : ∀ number,
      (j.withProvided database processor state).entriesOf number = j.entriesOf number :=
    fun number => entriesOf_provided number database (.ok (j.fresh processor)) state
  refine ⟨⟨?_, ?_⟩, Nat.lt_succ_self _, ?_⟩
  · intro number
    rw [hentries]
    exact h.follow number
  · intro number hnumber
    rw [hentries]
    exact h.untouched number (Nat.le_of_succ_le hnumber)
  · have hnone : j.entriesOf j.processors = [] := h.untouched _ (Nat.le_refl _)
    rw [hentries]
    show Progress.follow (j.entriesOf j.processors) = some .opened
    rw [hnone]
    rfl

end Journal

/-! ## The stages -/

/-- The states of the protocol that go with a stage of the work. -/
def Stage.Permits : Stage → Progress → Prop
  | .statement, progress => progress = .statement
  | .transaction, progress => progress = .transaction false
  | .transactionStatement, progress => progress = .transaction true
  | .halted, progress => progress ≠ .opened ∧ progress ≠ .gone

lemma Stage.Permits.halted {stage : Stage} {progress : Progress} (h : stage.Permits progress) :
    Stage.halted.Permits progress := by
  cases stage with
  | halted => exact h
  | _ =>
    obtain rfl := h
    exact ⟨nofun, nofun⟩

/-- A processor that was put to work may be reset, stopped, or asked after its work. -/
lemma Stage.Permits.allows {stage : Stage} {progress : Progress} (h : stage.Permits progress) :
    progress.allows .reset ∧ progress.allows .abort ∧ progress.allows .validate := by
  obtain ⟨hopened, hgone⟩ := h.halted
  cases progress with
  | opened => exact absurd rfl hopened
  | gone => exact absurd rfl hgone
  | _ => exact ⟨rfl, rfl, rfl⟩

/-- The work on a processor has come to a stage. -/
def Journal.HasReached (stage : Stage) (p : Numbered P) (j : Journal σ P) : Prop :=
  ∃ progress, stage.Permits progress ∧ j.IsAt progress p

/-- A failed call ends the work. -/
lemma Journal.hasReached_failed {j : Journal σ P} {p : Numbered P} {progress : Progress}
    {call : Call} (h : j.IsAt progress p) (hallows : progress.allows call)
    (hreset : call ≠ .reset) (fault : Fault) (state : σ) :
    (j.record (.called p call (.failed fault)) state).HasReached .halted p := by
  have hmove : progress.move call (.failed fault) = .ended := by
    cases call with
    | reset => exact absurd rfl hreset
    | _ => cases progress <;> rfl
  refine ⟨.ended, ⟨nofun, nofun⟩, ?_⟩
  rw [← hmove]
  exact h.record hallows _ state

variable [RecordSource ρ]

/-- The stages of the work are states of the protocol. -/
def discipline (E : Engine σ P ρ) : Typestate E.journaled where
  unbound j := j.IsReadable
  opened p j := j.IsAt .opened p
  holds stage p j := j.HasReached stage p
  provide database h := by
    rw [wp_journalProvide]
    apply Meets.always
    · intro processor state
      exact h.withProvided database processor state
    · intro fault state
      exact h.refuse database fault state
  begin options h := by
    refine (wp_journalCall _ _ _).mpr (Meets.always ?_ ?_ _)
    · intro _ state
      have hallows : Progress.opened.allows (.begin options) := rfl
      exact ⟨_, rfl, h.record hallows .done state⟩
    · exact Journal.hasReached_failed h rfl nofun
  run query parameters options h := by
    refine (wp_journalCall _ _ _).mpr (Meets.always ?_ ?_ _)
    · intro _ state
      have hallows : Progress.opened.allows (.run query parameters (some options)) := rfl
      exact ⟨_, rfl, h.record hallows .done state⟩
    · exact Journal.hasReached_failed h rfl nofun
  runWithin {stage p j} query parameters hstage h := by
    obtain ⟨progress, hpermits, hat⟩ := h
    -- a statement may follow another one that is still open
    have hopen : ∃ streamable, progress = .transaction streamable := by
      rcases hstage with rfl | rfl
      · exact ⟨false, hpermits⟩
      · exact ⟨true, hpermits⟩
    obtain ⟨streamable, rfl⟩ := hopen
    refine (wp_journalCall _ _ _).mpr (Meets.always ?_ ?_ _)
    · intro _ state
      have hallows : (Progress.transaction streamable).allows (.run query parameters none) := rfl
      exact ⟨_, rfl, hat.record hallows .done state⟩
    · exact Journal.hasReached_failed hat rfl nofun
  stream {p j} mode size H _ sink h := by
    obtain ⟨progress, hpermits, hat⟩ := h
    obtain rfl : progress = .statement := hpermits
    rw [meets_journalStream]
    apply Meets.always
    · intro outcome state
      have hallows : Progress.statement.allows (.stream (-1) mode size) := rfl
      have hnext := hat.record hallows
        (.streamed outcome.hasMore (E.isStreaming p.processor state)) state
      -- the last batch ends the work, and the processor is left
      split
      · rename_i hmore
        rw [hmore] at hnext ⊢
        exact ⟨_, rfl, hnext⟩
      · exact hnext.readable
    · exact Journal.hasReached_failed hat rfl nofun
  streamWithin {p j} number mode size H _ sink h := by
    obtain ⟨progress, hpermits, hat⟩ := h
    obtain rfl : progress = .transaction true := hpermits
    rw [meets_journalStream]
    apply Meets.always
    · intro outcome state
      have hallows : (Progress.transaction true).allows (.stream number mode size) := rfl
      have hnext := hat.record hallows
        (.streamed outcome.hasMore (E.isStreaming p.processor state)) state
      split
      · rename_i hopen
        have hleft : outcome.hasMore || E.isStreaming p.processor state := hopen
        exact ⟨_, congrArg Progress.transaction hleft, hnext⟩
      · rename_i hdone
        have hleft : (outcome.hasMore || E.isStreaming p.processor state) = false :=
          Bool.eq_false_iff.mpr hdone
        exact ⟨_, congrArg Progress.transaction hleft, hnext⟩
    · exact Journal.hasReached_failed hat rfl nofun
  commit h := by
    obtain ⟨progress, hpermits, hat⟩ := h
    obtain rfl : progress = .transaction false := hpermits
    refine (wp_journalCall _ _ _).mpr (Meets.always ?_ ?_ _)
    · intro _ state
      exact (hat.record rfl .done state).readable
    · exact Journal.hasReached_failed hat rfl nofun
  rollback h := by
    obtain ⟨progress, hpermits, hat⟩ := h
    obtain rfl : progress = .transaction false := hpermits
    refine (wp_journalCall _ _ _).mpr (Meets.always ?_ ?_ _)
    · intro _ state
      exact (hat.record rfl .done state).readable
    · exact Journal.hasReached_failed hat rfl nofun
  reset h := by
    obtain ⟨progress, hpermits, hat⟩ := h
    refine (wp_journalCall _ _ _).mpr (Meets.always ?_ ?_ _)
    · intro _ state
      exact (hat.record hpermits.allows.1 .done state).readable
    · intro fault state
      exact (hat.record hpermits.allows.1 (.failed fault) state).readable
  abort {stage p j} h := by
    obtain ⟨progress, hpermits, hat⟩ := h
    have hnext := hat.record hpermits.allows.2.1 .done (E.abort p.processor j.state)
    have hmove : progress.move .abort .done = .ended := by cases progress <;> rfl
    rw [hmove] at hnext
    exact ⟨.ended, ⟨nofun, nofun⟩, hnext⟩
  validate {stage p j} h := by
    obtain ⟨progress, hpermits, hat⟩ := h
    have hnext : ∀ result state, (j.record (.called p .validate result) state).IsAt
        (progress.move .validate result) p :=
      fun result state => hat.record hpermits.allows.2.2 result state
    unfold Engine.journaled
    dsimp only
    cases (E.validate p.processor j.state).1 with
    | none =>
      have hmove : progress.move .validate .done = progress := by cases progress <;> rfl
      have hkept := hnext .done (E.validate p.processor j.state).2
      rw [hmove] at hkept
      exact ⟨progress, hpermits, hkept⟩
    | some status => exact (hnext (.terminated status) _).readable
  halt h := by
    obtain ⟨progress, hpermits, hat⟩ := h
    exact ⟨progress, hpermits.halted, hat⟩

/-- Bound or not, the histories of an engine can be read. -/
lemma isReadable_of_idle_or_working {H : Type} {E : Engine σ P ρ}
    {c : Connection (Journal σ P) (Numbered P) H}
    (h : (discipline E).Idle c ∨ ∃ stage, (discipline E).Working stage c) :
    c.engine.IsReadable := by
  rcases h with hidle | ⟨stage, -, p, -, progress, -, hat⟩
  · exact hidle.2
  · exact hat.readable

/-- In every run, every processor is called in order: it is given one statement or one
transaction, is asked for nothing after its work has ended, and is reset once at most. -/
theorem Session.isOrderly_after {H : Type} [Sink H] (E : Engine σ P ρ) (self : Identity)
    (engine : σ) (inputs : List (Input H)) (number : Nat) :
    IsOrderly (((start self { state := engine }).after E.journaled inputs).connection.engine.entriesOf
      number) := by
  have hstart : (discipline E).Fits .connected
      (start (H := H) self { state := engine }).connection :=
    ⟨⟨rfl, fun _ => ⟨.opened, rfl⟩, fun _ _ => rfl⟩, rfl⟩
  have hfits := Typestate.fitsAccepted_after (T := discipline E) inputs (s := start self _)
    (Or.inl hstart)
  generalize (start self { state := engine }).after E.journaled inputs = s at hfits ⊢
  -- bound or not, the engine's journal can be read
  have hreadable : s.connection.engine.IsReadable := by
    rcases hfits.idle_or_working with hidle | ⟨stage, -, p, -, progress, -, hat⟩
    · exact hidle.2
    · exact hat.readable
  obtain ⟨progress, hfollow⟩ := hreadable.follow number
  exact Progress.isOrderly_of_follow hfollow

end QuerySession
