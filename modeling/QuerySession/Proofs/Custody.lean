import QuerySession.Proofs.CallHistory
import QuerySession.Worker

/-!
# No work is abandoned

A processor that was given a statement or a transaction stays bound until its work is disposed of:
committed, rolled back, streamed to its end, reset, or found torn down. So nothing is left on any
processor but the bound one, and nothing at all is left once a session has been closed.

* `Journal.IsClear`: nothing is left on any processor, one perhaps excepted;
* `custody`: the typestate that keeps it so;
* `Worker.reached_after`: whatever a worker does, its session has come to by some run;
* `Session.work_disposedOf`: the rule, for sessions and for workers.
-/

namespace QuerySession

/-! ## Work and its end -/

/-- A transaction is opened or a statement started. -/
def Call.startsWork : Call → Bool
  | begin _ | run .. => true
  | _ => false

/-- The processor was given work. -/
def HasWork (entries : List Entry) : Prop := ∃ entry ∈ entries, entry.1.startsWork

/-- No transaction was ever opened on the processor. -/
def BeginsNothing (entries : List Entry) : Prop :=
  ∀ options result, (Call.begin options, result) ∉ entries

/-- Calls after which nothing is left on a processor. -/
inductive Disposes (before : List Entry) : Entry → Prop
  | commit : Disposes before (.commit, .done)
  | rollback : Disposes before (.rollback, .done)
  /-- The last batch of a statement outside of any transaction. -/
  | lastBatch (number : Int64) (mode : BatchMode) (size : Int64) (stillOpen : Bool)
      (own : BeginsNothing before) :
      Disposes before (.stream number mode size, .streamed false stillOpen)
  | reset (result : CallResult) : Disposes before (.reset, result)
  /-- The transaction was found torn down. -/
  | tornDown (status : Status) : Disposes before (.validate, .terminated status)

/-- The work on a processor has come to its end, and nothing was asked of the processor since. -/
def IsDisposed (entries : List Entry) : Prop :=
  ∃ before entry, entries = before ++ [entry] ∧ Disposes before entry

/-- Nothing is left on the processor. -/
def IsSettled (entries : List Entry) : Prop := HasWork entries → IsDisposed entries

/-- How often the processor was reset. -/
def resetCount (entries : List Entry) : Nat := entries.countP fun entry => entry.1 matches .reset

lemma not_hasWork_nil : ¬ HasWork [] := by
  intro hwork
  obtain ⟨entry, hmem, -⟩ := hwork
  cases hmem

lemma isDisposed_snoc {before : List Entry} {entry : Entry} (h : Disposes before entry) :
    IsDisposed (before ++ [entry]) := ⟨before, entry, rfl, h⟩

lemma BeginsNothing.snoc {entries : List Entry} (h : BeginsNothing entries) {call : Call}
    (hcall : ∀ options, call ≠ .begin options) (result : CallResult) :
    BeginsNothing (entries ++ [(call, result)]) := by
  intro options other hmem
  rcases List.mem_append.mp hmem with hold | hnew
  · exact h options other hold
  · have heq := List.mem_singleton.mp hnew
    exact hcall options (congrArg Prod.fst heq).symm

/-- An orderly history has one reset at most, and that at its end. -/
lemma resetCount_le_one {entries : List Entry} (h : IsWellFormed (counted entries)) :
    resetCount entries ≤ 1 := by
  have hcounted : resetCount entries = (counted entries).countP (· matches .reset) := by
    have hkept : ∀ entry ∈ entries, ((entry.1 matches .reset) = true ↔
        ((entry.1 matches .reset) && entry.1.isCounted) = true) := by
      intro entry _
      cases entry.1 <;> simp [Call.isCounted]
    unfold resetCount counted
    rw [List.countP_filter, List.countP_map]
    exact List.countP_congr hkept
  have hstatement : ∀ calls, IsStatement calls → calls.countP (· matches .reset) = 0 := by
    intro calls hcalls
    obtain ⟨query, parameters, options, batches, rfl, hbatches⟩ := hcalls
    rw [List.countP_eq_zero]
    intro call hmem
    rcases List.mem_cons.mp hmem with rfl | hmem
    · simp
    · obtain ⟨mode, size, rfl⟩ := hbatches call hmem
      simp
  have htransaction : ∀ calls, IsTransaction calls → calls.countP (· matches .reset) = 0 := by
    intro calls hcalls
    obtain ⟨options, inner, ending, rfl, hinner, hending⟩ := hcalls
    rw [List.countP_eq_zero]
    intro call hmem
    rcases List.mem_append.mp hmem with hmem | hmem
    · rcases List.mem_cons.mp hmem with rfl | hmem
      · simp
      · rcases hinner call hmem with ⟨query, parameters, rfl⟩ | ⟨number, mode, size, rfl⟩
        · simp
        · simp
    · rcases hending with rfl | rfl | rfl
      · cases hmem
      · simp [List.mem_singleton.mp hmem]
      · simp [List.mem_singleton.mp hmem]
  rw [hcounted]
  rcases h with hnone | ⟨work, ending, hsplit, hwork, hending⟩
  · rw [hnone]
    exact Nat.zero_le 1
  · have hzero : work.countP (· matches .reset) = 0 := hwork.elim (hstatement _) (htransaction _)
    have hlast : ending.countP (· matches .reset) ≤ 1 := by
      rcases hending with rfl | rfl
      · exact Nat.zero_le 1
      · exact Nat.le_refl 1
    rw [hsplit, List.countP_append]
    omega

/-! ## What is left on the processors -/

namespace Journal

variable {σ P : Type} {j : Journal σ P} {p : Numbered P} {call : Call} {result : CallResult}

/-- Nothing is left on any processor, one perhaps excepted. -/
structure IsClear (kept : Option Nat) (j : Journal σ P) : Prop where
  settled : ∀ number, kept ≠ some number → IsSettled (j.entriesOf number)
  provided : ∀ number, kept = some number → number < j.processors
  untouched : ∀ number, j.processors ≤ number → j.entriesOf number = []

/-- A call on the excepted processor is no matter of the others. -/
lemma IsClear.record (h : j.IsClear (some p.number)) (call : Call) (result : CallResult)
    (state : σ) : (j.record (.called p call result) state).IsClear (some p.number) := by
  refine ⟨?_, h.provided, ?_⟩
  · intro number hother
    have hne : p.number ≠ number := fun heq => hother (congrArg some heq)
    rw [entriesOf_called_of_ne hne]
    exact h.settled number hother
  · intro number hnumber
    have hlt : p.number < j.processors := h.provided p.number rfl
    have hle : j.processors ≤ number := hnumber
    have hne : p.number ≠ number := by omega
    rw [entriesOf_called_of_ne hne]
    exact h.untouched number hle

/-- A processor that was disposed of needs to be excepted no more. -/
lemma IsClear.dispose (h : j.IsClear (some p.number))
    (hdisposes : Disposes (j.entriesOf p.number) (call, result)) (state : σ) :
    (j.record (.called p call result) state).IsClear none := by
  have hrecorded := h.record call result state
  refine ⟨?_, nofun, hrecorded.untouched⟩
  intro number _
  by_cases hnumber : p.number = number
  · intro _
    rw [← hnumber, entriesOf_called]
    exact isDisposed_snoc hdisposes
  · exact hrecorded.settled number (fun heq => hnumber (Option.some.inj heq))

lemma IsClear.refuse (h : j.IsClear none) (database : String) (fault : Fault) (state : σ) :
    (j.record (.provided database (.error fault)) state).IsClear none := by
  refine ⟨?_, nofun, ?_⟩
  · intro number hnumber
    rw [entriesOf_provided]
    exact h.settled number hnumber
  · intro number hnumber
    rw [entriesOf_provided]
    exact h.untouched number hnumber

/-- A processor that was just provided has no work yet. -/
lemma IsClear.withProvided (h : j.IsClear none) (database : String) (processor : P) (state : σ) :
    (j.withProvided database processor state).IsClear (some (j.fresh processor).number) ∧
      (j.withProvided database processor state).entriesOf (j.fresh processor).number = [] := by
  have hentries : ∀ number,
      (j.withProvided database processor state).entriesOf number = j.entriesOf number :=
    fun number => entriesOf_provided number database (.ok (j.fresh processor)) state
  refine ⟨⟨?_, ?_, ?_⟩, ?_⟩
  · intro number _
    rw [hentries]
    exact h.settled number nofun
  · intro number heq
    rw [← Option.some.inj heq]
    exact Nat.lt_succ_self _
  · intro number hnumber
    rw [hentries]
    exact h.untouched number (Nat.le_of_succ_le hnumber)
  · rw [hentries]
    exact h.untouched _ (Nat.le_refl _)

/-- Nothing is left on any processor but one. That one has no transaction, as long as it runs a
statement of its own. -/
def IsKept (stage : Stage) (p : Numbered P) (j : Journal σ P) : Prop :=
  j.IsClear (some p.number) ∧ (stage = .statement → BeginsNothing (j.entriesOf p.number))

lemma IsClear.isKept {stage : Stage} (h : j.IsClear (some p.number)) (hstage : stage ≠ .statement)
    (call : Call) (result : CallResult) (state : σ) :
    (j.record (.called p call result) state).IsKept stage p :=
  ⟨h.record call result state, fun heq => absurd heq hstage⟩

/-- Within a transaction, and once the work only waits for its end, no call changes what is left on
which processor. -/
lemma wp_call_of_isClear {α : Type} {stage later : Stage} (h : j.IsClear (some p.number))
    (hstage : stage ≠ .statement) (hlater : later ≠ .statement) (call : Call)
    (act : EStateM Fault σ α) :
    wp (Journal.call p call act) (fun _ j => j.IsKept stage p) (fun _ j => j.IsKept later p) j := by
  rw [wp_journalCall]
  apply Meets.always
  · intro _ state
    exact h.isKept hstage call _ state
  · intro fault state
    exact h.isKept hlater call _ state

/-- A call that disposes of the work if it succeeds. -/
lemma wp_call_of_disposes {α : Type} (h : j.IsClear (some p.number)) {call : Call}
    (hdisposes : Disposes (j.entriesOf p.number) (call, .done)) (act : EStateM Fault σ α) :
    wp (Journal.call p call act) (fun _ j => j.IsClear none) (fun _ j => j.IsKept .halted p) j := by
  rw [wp_journalCall]
  apply Meets.always
  · intro _ state
    exact h.dispose hdisposes state
  · intro fault state
    exact h.isKept Stage.noConfusion call _ state

end Journal

variable {σ P ρ : Type} [RecordSource ρ]

/-- Nothing is left on any processor that is not bound. -/
def custody (E : Engine σ P ρ) : Typestate E.journaled where
  unbound j := j.IsClear none
  opened p j := j.IsClear (some p.number) ∧ j.entriesOf p.number = []
  holds stage p j := j.IsKept stage p
  provide database h := by
    rw [wp_journalProvide]
    apply Meets.always
    · intro processor state
      exact h.withProvided database processor state
    · intro fault state
      exact h.refuse database fault state
  begin options h :=
    Journal.wp_call_of_isClear h.1 Stage.noConfusion Stage.noConfusion (.begin options) _
  run {p j} query parameters options h := by
    obtain ⟨hclear, hempty⟩ := h
    refine (wp_journalCall _ _ _).mpr (Meets.always ?_ ?_ _)
    · intro _ state
      have hfirst : BeginsNothing (j.entriesOf p.number) := by
        rw [hempty]
        exact fun _ _ => List.not_mem_nil
      refine ⟨hclear.record _ _ _, fun _ => ?_⟩
      rw [Journal.entriesOf_called]
      exact hfirst.snoc (fun _ => Call.noConfusion) _
    · intro fault state
      exact hclear.isKept Stage.noConfusion _ _ _
  runWithin query parameters _ h :=
    Journal.wp_call_of_isClear h.1 Stage.noConfusion Stage.noConfusion
      (.run query parameters none) _
  stream {p j} mode size H _ sink h := by
    obtain ⟨hclear, hown⟩ := h
    have hbegins : BeginsNothing (j.entriesOf p.number) := hown rfl
    rw [meets_journalStream]
    apply Meets.always
    · intro outcome state
      split
      · refine ⟨hclear.record _ _ _, fun _ => ?_⟩
        rw [Journal.entriesOf_called]
        exact hbegins.snoc (fun _ => Call.noConfusion) _
      · -- the last batch disposes of the statement
        rename_i hlast
        rw [Bool.not_eq_true] at hlast
        rw [hlast]
        exact hclear.dispose (.lastBatch _ _ _ _ hbegins) state
    · intro fault state
      exact hclear.isKept Stage.noConfusion _ _ _
  streamWithin number mode size H _ sink h := by
    rw [meets_journalStream]
    apply Meets.always
    · intro outcome state
      split
      · exact h.1.isKept Stage.noConfusion _ _ _
      · exact h.1.isKept Stage.noConfusion _ _ _
    · intro fault state
      exact h.1.isKept Stage.noConfusion _ _ _
  commit h := Journal.wp_call_of_disposes h.1 .commit _
  rollback h := Journal.wp_call_of_disposes h.1 .rollback _
  reset h := (wp_journalCall _ _ _).mpr (Meets.always
    (fun _ state => h.1.dispose (.reset _) state)
    (fun _ state => h.1.dispose (.reset _) state) _)
  abort h := h.1.isKept Stage.noConfusion .abort .done _
  validate {stage p j} h := by
    obtain ⟨hclear, hown⟩ := h
    have halive : ∀ state, (j.record (.called p .validate .done) state).IsKept stage p := by
      intro state
      refine ⟨hclear.record _ _ _, fun hstage => ?_⟩
      rw [Journal.entriesOf_called]
      exact (hown hstage).snoc (fun _ => Call.noConfusion) _
    unfold Engine.journaled
    dsimp only
    cases (E.validate p.processor j.state).1 with
    | none => exact halive _
    | some status => exact hclear.dispose (.tornDown status) _
  halt h := ⟨h.1, nofun⟩

/-! ## Runs of a session -/

namespace Session

variable {H : Type} [Sink H]

/-- Nothing is left on any processor that is not bound, and none was reset twice. -/
structure KeepsWork (s : Session (Journal σ P) (Numbered P) H) : Prop where
  bound_or_disposed : ∀ number, HasWork (s.connection.engine.entriesOf number) →
    (∃ p, s.connection.bound = some p ∧ p.number = number) ∨
      IsDisposed (s.connection.engine.entriesOf number)
  resetCount_le_one : ∀ number, resetCount (s.connection.engine.entriesOf number) ≤ 1

lemma keepsWork_after (E : Engine σ P ρ) (self : Identity) (engine : σ) (inputs : List (Input H)) :
    ((start self { state := engine }).after E.journaled inputs).KeepsWork := by
  have hclear : (custody E).Fits .connected
      (start (H := H) self { state := engine }).connection :=
    ⟨⟨rfl, fun _ _ hwork => absurd hwork not_hasWork_nil, nofun, fun _ _ => rfl⟩, rfl⟩
  have hread : (discipline E).Fits .connected
      (start (H := H) self { state := engine }).connection :=
    ⟨⟨rfl, fun _ => ⟨.opened, rfl⟩, fun _ _ => rfl⟩, rfl⟩
  have hkept := Typestate.fitsAccepted_after (T := custody E) inputs (s := start self _)
    (Or.inl hclear)
  have hordered := Typestate.fitsAccepted_after (T := discipline E) inputs (s := start self _)
    (Or.inl hread)
  generalize (start self { state := engine }).after E.journaled inputs = s at hkept hordered ⊢
  refine ⟨?_, ?_⟩
  · intro number hwork
    rcases hkept.idle_or_working with ⟨-, hidle⟩ | ⟨stage, -, p, hp, hholds⟩
    · exact Or.inr (hidle.settled number nofun hwork)
    · by_cases hnumber : p.number = number
      · exact Or.inl ⟨p, hp, hnumber⟩
      · have hother : some p.number ≠ some number := fun heq => hnumber (Option.some.inj heq)
        exact Or.inr (hholds.1.settled number hother hwork)
  · intro number
    have hreadable := isReadable_of_idle_or_working hordered.idle_or_working
    obtain ⟨progress, hfollow⟩ := hreadable.follow number
    exact QuerySession.resetCount_le_one (Progress.isOrderly_of_follow hfollow).wellFormed

omit [RecordSource ρ] [Sink H] in
/-- The end leaves no processor bound, even where one was lost before. -/
lemma bound_close {E : Engine σ P ρ} (s : Session σ P H) : (s.close E).connection.bound = none := by
  show (s.connection.release E).bound = none
  cases hnotice : s.connection.notice with
  | some status => rw [release_of_notice hnotice]
  | none => rw [release_of_bound hnotice rfl]

end Session

/-! ## Runs of a worker -/

/-- What can happen to a worker. -/
inductive WorkerMove where
  | enqueue (request : Request)
  | interrupt
  | terminate
  /-- Nobody reads the answers any more. -/
  | abandon
  /-- The queue is served. -/
  | advance

namespace Worker

variable {w : Worker σ P} {E : Engine σ P ρ} {s : WorkerSession σ P}

/-- Goes through a move. -/
def move (E : Engine σ P ρ) (w : Worker σ P) : WorkerMove → Worker σ P
  | .enqueue request => finalState (w.enqueue request)
  | .interrupt => { w with session := w.session.interrupt }
  | .terminate => { w with session := w.session.signal Signals.terminate }
  | .abandon => { w with connected := false }
  | .advance => w.advance E

/-- The session of the worker came to its state by a run, and has no processor once the worker has
stopped. -/
structure Reached (E : Engine σ P ρ) (s : WorkerSession σ P) (w : Worker σ P) : Prop where
  run : ∃ inputs, w.session = s.after E inputs
  stopped : w.stopped → w.session.connection.bound = none

/-- A queue that is served is a run. -/
lemma session_serveAll (E : Engine σ P ρ) (connected : Bool) (queue : List Request)
    (s : WorkerSession σ P) : ∃ inputs, (serveAll E connected queue s).2.1 = s.after E inputs := by
  induction queue generalizing s with
  | nil => exact ⟨[], rfl⟩
  | cons request queue ih =>
    have hone : (serveOne E connected request s).2.1 =
        s.after E [.request request { output := { connected } } 0] := by
      rw [Session.after_cons, Session.after_nil, Session.receive, Session.serveAmid_zero]
      rfl
    unfold serveAll
    generalize serveOne E connected request s = served at hone
    obtain ⟨outcome, next, answers⟩ := served
    cases outcome with
    | error fault => exact ⟨_, hone⟩
    | ok _ =>
      dsimp only at hone ⊢
      split
      · exact ⟨_, hone⟩
      · obtain ⟨inputs, hinputs⟩ := ih next
        refine ⟨.request request { output := { connected } } 0 :: inputs, ?_⟩
        rw [Session.after_cons, ← Session.after_nil E (s.receive E _), ← Session.after_cons,
          ← hone]
        exact hinputs

lemma Reached.stop (h : w.Reached E s) : (w.stop E).Reached E s := by
  obtain ⟨inputs, hrun⟩ := h.run
  refine ⟨⟨inputs ++ [.close], ?_⟩, fun _ => Session.bound_close w.session⟩
  rw [Session.after_append, ← hrun]
  rfl

lemma Reached.advance (h : w.Reached E s) : (w.advance E).Reached E s := by
  obtain ⟨inputs, hrun⟩ := h.run
  unfold Worker.advance
  split
  · exact h
  · rename_i hstopped
    obtain ⟨served, hserved⟩ := session_serveAll E w.connected w.queue w.session
    generalize serveAll E w.connected w.queue w.session = result at hserved
    obtain ⟨ended, session, answers⟩ := result
    have hnext : ({ w with session, answers := w.answers ++ answers, queue := [] } :
        Worker σ P).Reached E s := by
      refine ⟨⟨inputs ++ served, ?_⟩, fun hafter => absurd hafter hstopped⟩
      rw [Session.after_append, ← hrun]
      exact hserved
    dsimp only
    split
    · exact hnext.stop
    · exact hnext

lemma Reached.enqueue (h : w.Reached E s) (request : Request) :
    (finalState (w.enqueue request)).Reached E s := by
  obtain ⟨inputs, hrun⟩ := h.run
  unfold Worker.enqueue
  split
  · exact h
  · rename_i hstopped
    have hcounted : (if request.isReset then { w with session := w.session.interrupt } else w :
        Worker σ P).Reached E s := by
      split
      · refine ⟨⟨inputs ++ [.interrupt], ?_⟩, fun hafter => absurd hafter hstopped⟩
        rw [Session.after_append, ← hrun]
        rfl
      · exact h
    dsimp only
    generalize (if request.isReset then { w with session := w.session.interrupt } else w :
      Worker σ P) = counted at hcounted
    split
    · exact ⟨hcounted.run, hcounted.stopped⟩
    · exact hcounted

/-- Whatever happens to a worker, its session has come to by some run. -/
theorem reached_after (moves : List WorkerMove) (h : w.Reached E s) :
    (moves.foldl (move E) w).Reached E s := by
  induction moves generalizing w with
  | nil => exact h
  | cons next moves ih =>
    obtain ⟨inputs, hrun⟩ := h.run
    apply ih
    cases next with
    | enqueue request => exact h.enqueue request
    | advance => exact h.advance
    | abandon => exact ⟨h.run, h.stopped⟩
    | interrupt =>
      refine ⟨⟨inputs ++ [.interrupt], ?_⟩, h.stopped⟩
      rw [Session.after_append, ← hrun]
      rfl
    | terminate =>
      refine ⟨⟨inputs ++ [.terminate], ?_⟩, h.stopped⟩
      rw [Session.after_append, ← hrun]
      rfl

/-- A worker that has finished has stopped. -/
lemma Reached.finish (h : w.Reached E s) :
    (w.finish E).Reached E s ∧ (w.finish E).session.connection.bound = none := by
  have hadvanced : (w.advance E).Reached E s := h.advance
  unfold Worker.finish
  dsimp only
  split
  · rename_i hstopped
    exact ⟨hadvanced, hadvanced.stopped hstopped⟩
  · exact ⟨hadvanced.stop, hadvanced.stop.stopped rfl⟩

end Worker

/-! ## The rule -/

/-- In every run, a processor that was given work stays bound until its work is disposed of, and is
reset once at most. No processor is bound to a session that was closed, or to that of a worker
that has finished; so the work on every processor is disposed of then. -/
theorem Session.work_disposedOf {H : Type} [Sink H] (E : Engine σ P ρ) (self : Identity)
    (engine : σ) :
    (∀ inputs : List (Input H),
      ((start self { state := engine }).after E.journaled inputs).KeepsWork ∧
      (((start self { state := engine }).after E.journaled inputs).close
        E.journaled).connection.bound = none) ∧
    ∀ settings (moves : List WorkerMove),
      ((moves.foldl (Worker.move E.journaled)
        (.new (start self { state := engine }) settings)).finish E.journaled).session.KeepsWork ∧
      ((moves.foldl (Worker.move E.journaled)
        (.new (start self { state := engine }) settings)).finish
          E.journaled).session.connection.bound = none := by
  refine ⟨fun inputs => ⟨keepsWork_after E self engine inputs, bound_close _⟩, ?_⟩
  intro settings moves
  have hnew : (Worker.new (start self { state := engine }) settings).Reached E.journaled
      (start (P := Numbered P) self { state := engine }) := ⟨⟨[], rfl⟩, nofun⟩
  obtain ⟨hreached, hbound⟩ := (Worker.reached_after moves hnew).finish
  obtain ⟨inputs, hrun⟩ := hreached.run
  refine ⟨?_, hbound⟩
  rw [hrun]
  exact keepsWork_after E self engine inputs

end QuerySession
