import QuerySession.Journal
import QuerySession.Proofs.Precondition

/-!
# What a journal records

Every call of an engine that keeps a journal adds one entry, and no entry is ever taken back. The
rules below say which entry it is, in the form in which the rules for actions take it up.

* `wp_journalCall`, `wp_journalProvide`, `meets_journalStream`: the calls that may fail;
* `wp_provideFor`: how a session opens a processor;
* `Journal.Provided`: a processor was obtained from the engine, and not made up.
-/

namespace QuerySession

namespace Journal

variable {σ P : Type}

/-- The journal with one more entry. -/
def record (j : Journal σ P) (event : Event P) (state : σ) : Journal σ P :=
  { j with state, events := j.events ++ [event] }

@[simp] lemma events_record (j : Journal σ P) (event : Event P) (state : σ) :
    (j.record event state).events = j.events ++ [event] := rfl

@[simp] lemma processors_record (j : Journal σ P) (event : Event P) (state : σ) :
    (j.record event state).processors = j.processors := rfl

/-- A processor was obtained from the engine. -/
def Provided (p : Numbered P) (j : Journal σ P) : Prop :=
  ∃ database, Event.provided database (.ok p) ∈ j.events

/-- Entries stay. -/
lemma Provided.record {p : Numbered P} {j : Journal σ P} (h : j.Provided p) (event : Event P)
    (state : σ) : (j.record event state).Provided p := by
  obtain ⟨database, hmem⟩ := h
  exact ⟨database, List.mem_append_left _ hmem⟩

/-- The processor that is provided next. -/
def fresh (j : Journal σ P) (processor : P) : Numbered P := ⟨j.processors, processor⟩

/-- The journal once a processor was provided. -/
def withProvided (j : Journal σ P) (database : String) (processor : P) (state : σ) : Journal σ P :=
  { j.record (.provided database (.ok (j.fresh processor))) state with
    processors := j.processors + 1 }

lemma provided_withProvided (j : Journal σ P) (database : String) (processor : P) (state : σ) :
    (j.withProvided database processor state).Provided (j.fresh processor) :=
  ⟨database, List.mem_append_right _ List.mem_cons_self⟩

end Journal

variable {σ P ρ α : Type} {j : Journal σ P} {failed : Fault → Journal σ P → Prop}

/-- A call is entered with what came of it. -/
lemma wp_journalCall {done : α → Journal σ P → Prop} (p : Numbered P) (call : Call)
    (act : EStateM Fault σ α) :
    wp (Journal.call p call act) done failed j ↔
      wp act (fun a s => done a (j.record (.called p call .done) s))
        (fun fault s => failed fault (j.record (.called p call (.failed fault)) s)) j.state := by
  unfold wp Journal.call
  cases act j.state <;> rfl

/-- A processor is numbered and entered; a refusal is entered too. -/
lemma wp_journalProvide {done : Numbered P → Journal σ P → Prop} (E : Engine σ P ρ)
    (database : String) :
    wp (E.journaled.provide database) done failed j ↔
      wp (E.provide database) (fun p s => done (j.fresh p) (j.withProvided database p s))
        (fun fault s => failed fault (j.record (.provided database (.error fault)) s))
        j.state := by
  have hprovide : E.journaled.provide database = Journal.provide database (E.provide database) :=
    rfl
  rw [hprovide]
  unfold wp Journal.provide
  cases E.provide database j.state <;> rfl

/-- Opening a processor is to ask for one, which is entered, and to bind it. -/
lemma wp_provideFor {H : Type} {done : Unit → Connection (Journal σ P) (Numbered P) H → Prop}
    {failed : Fault → Connection (Journal σ P) (Numbered P) H → Prop}
    {c : Connection (Journal σ P) (Numbered P) H} (E : Engine σ P ρ) (self : Identity)
    (extra : Extra) :
    wp (Phase.provideFor E.journaled self extra) done failed c ↔
      wp (E.provide (extra.database?.getD self.defaultDatabase))
        (fun processor state =>
          wp (Connection.engage (some (c.engine.fresh processor))) done failed
            { c with
              engine := c.engine.withProvided (extra.database?.getD self.defaultDatabase)
                processor state })
        (fun fault state =>
          failed fault { c with
            engine := c.engine.record
              (.provided (extra.database?.getD self.defaultDatabase) (.error fault)) state })
        c.engine.state := by
  have horIdle (database : String) :
      E.journaled.orIdle.provide database = some <$> E.journaled.provide database := rfl
  unfold Phase.provideFor
  rw [wp_bind, wp_onEngine, horIdle, wp_map, wp_journalProvide]

/-- A batch is entered with what it left. What the sink hears is what it heard without a
journal. -/
lemma meets_journalStream [RecordSource ρ] {H : Type} [Sink H]
    {done : BatchEnd → Journal σ P → Prop} (E : Engine σ P ρ) (p : Numbered P)
    (statement : Int64) (mode : BatchMode) (size : Int64) (sink : H) :
    Meets done failed ((E.journaled.stream p statement mode size j).play sink).1 ↔
      Meets
        (fun outcome s => done outcome
          (j.record (.called p (.stream statement mode size)
            (.streamed outcome.hasMore (E.isStreaming p.processor s))) s))
        (fun fault s => failed fault
          (j.record (.called p (.stream statement mode size) (.failed fault)) s))
        ((E.stream p.processor statement mode size j.state).play sink).1 := by
  -- the journal only changes the answer of the dialogue, and no sink hears that
  have hstream : (E.journaled.stream p statement mode size j).play sink =
      Prod.map (j.enter p (.stream statement mode size) fun outcome s =>
          .streamed outcome.hasMore (E.isStreaming p.processor s)) id
        ((E.stream p.processor statement mode size j.state).play sink) :=
    Dialogue.play_map _ _ _
  rw [hstream]
  generalize (E.stream p.processor statement mode size j.state).play sink = played
  obtain ⟨result, left⟩ := played
  cases result <;> rfl

end QuerySession
