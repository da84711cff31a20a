import QuerySession.Proofs.Answers
import QuerySession.Reply

/-!
# Handlers that cannot be told apart

All that a session learns from a handler is what came of the batches that it handed to it. So with
handlers that answer every batch alike, and keep to that whatever they are told, a session does the
same: it calls the engine in the same way, raises the same faults and comes to the same state. For
handlers that answer alike only until one of them goes bad, this holds of the requests over which
none of them did.

* `Agree`: results that return the same and leave related states;
* `Sink.Alike`, `Sink.AlikeUnless`: handlers of two kinds that answer alike;
* `Reply.alike`: replies are such handlers, if their outputs fail at the same rows;
* `Simulates`: actions that do the same with such handlers;
* `Phase.simulates_answer`: apart from batches, the table of phases consists of such actions;
* `Session.Same.serveAmid`, `Session.Same.serveAmid_unless`: a request leads to the same, whichever
  of the handlers it came with.
-/

namespace QuerySession

variable {σ P ρ H K α β : Type}

/-! ## Results and handlers -/

/-- Two results return the same, or raise the same fault, and leave related states. -/
inductive Agree {ε s t α : Type} (S : s → t → Prop) :
    EStateM.Result ε s α → EStateM.Result ε t α → Prop
  | ok {a : α} {c : s} {d : t} (left : S c d) : Agree S (.ok a c) (.ok a d)
  | error {fault : ε} {c : s} {d : t} (left : S c d) : Agree S (.error fault c) (.error fault d)

lemma Agree.finalState {ε s t α : Type} {S : s → t → Prop} {x : EStateM.Result ε s α}
    {y : EStateM.Result ε t α} (h : Agree S x y) : S (finalState x) (finalState y) := by
  cases h with
  | ok left => exact left
  | error left => exact left

/-- Handlers of two kinds that are related stay so, whatever they are told. -/
structure Sink.TellsAlike [Sink H] [Sink K] (R : H → K → Prop) : Prop where
  tell : ∀ {handler : H} {other : K} (report : Report), R handler other →
    R (Sink.tell report handler) (Sink.tell report other)

/-- Handlers of two kinds that answer every batch alike and keep to it, whatever they are told. -/
structure Sink.Alike [Sink H] [Sink K] (R : H → K → Prop) : Prop extends Sink.TellsAlike R where
  batch : ∀ {ρ : Type} [RecordSource ρ] {handler : H} {other : K} (mode : BatchMode)
    (size : Int64) (result : ρ), R handler other →
    Agree (fun x y => R x.1 y.1 ∧ x.2 = y.2) (Sink.batch mode size (handler, result))
      (Sink.batch mode size (other, result))

/-- What a handler does not recover from, whatever it is told and whichever rows it is handed. -/
structure Sink.Absorbing [Sink H] (bad : H → Prop) : Prop where
  tell : ∀ {handler : H} (report : Report), bad handler → bad (Sink.tell report handler)
  batch : ∀ {ρ : Type} [RecordSource ρ] {handler : H} (mode : BatchMode) (size : Int64)
    (result : ρ), bad handler → bad (finalState (Sink.batch mode size (handler, result))).1

/-- Handlers of two kinds that answer a batch alike, unless one of them goes bad over it. -/
structure Sink.AlikeUnless [Sink H] [Sink K] (bad : H → Prop) (bad' : K → Prop)
    (R : H → K → Prop) : Prop extends Sink.TellsAlike R where
  absorbing : Sink.Absorbing bad
  absorbing' : Sink.Absorbing bad'
  batch : ∀ {ρ : Type} [RecordSource ρ] {handler : H} {other : K} (mode : BatchMode)
    (size : Int64) (result : ρ), R handler other →
    ¬ bad (finalState (Sink.batch mode size (handler, result))).1 →
    ¬ bad' (finalState (Sink.batch mode size (other, result))).1 →
    Agree (fun x y => R x.1 y.1 ∧ x.2 = y.2) (Sink.batch mode size (handler, result))
      (Sink.batch mode size (other, result))

section
variable [Sink H] [Sink K] {bad : H → Prop} {bad' : K → Prop} {R : H → K → Prop}

/-- Handlers that answer every batch alike never go bad. -/
lemma Sink.Alike.unless (hR : Sink.Alike R) :
    Sink.AlikeUnless (fun _ => False) (fun _ => False) R where
  tell := hR.tell
  absorbing := ⟨fun _ h => h, fun _ _ _ h => h⟩
  absorbing' := ⟨fun _ h => h, fun _ _ _ h => h⟩
  batch mode size result h _ _ := hR.batch mode size result h

/-- Related handlers are so after any number of reports. -/
lemma Sink.TellsAlike.foldl (hR : Sink.TellsAlike R) (reports : List Report) {handler : H}
    {other : K} (h : R handler other) :
    R (reports.foldl (fun handler report => Sink.tell report handler) handler)
      (reports.foldl (fun other report => Sink.tell report other) other) := by
  induction reports generalizing handler other with
  | nil => exact h
  | cons report reports ih => exact ih (hR.tell report h)

omit [Sink K] in
lemma Sink.Absorbing.foldl (h : Sink.Absorbing bad) (reports : List Report) {handler : H}
    (hbad : bad handler) :
    bad (reports.foldl (fun handler report => Sink.tell report handler) handler) := by
  induction reports generalizing handler with
  | nil => exact hbad
  | cons report reports ih => exact ih (h.tell report hbad)

omit [Sink K] in
/-- A handler that goes bad in the middle of a dialogue is so at its end. -/
lemma Dialogue.play_absorbing [RecordSource ρ] (h : Sink.Absorbing bad) (d : Dialogue ρ α)
    {handler : H} (hbad : bad handler) : bad (d.play handler).2 := by
  induction d generalizing handler with
  | done answer => exact hbad
  | tell report rest ih => exact ih (h.tell report hbad)
  | batch mode size result rest ih =>
    have hheard := h.batch mode size result hbad
    unfold Dialogue.play
    generalize Sink.batch mode size (handler, result) = heard at hheard
    cases heard with
    | ok more left => exact ih _ _ hheard
    | error fault left => exact ih _ _ hheard

/-- A dialogue comes to the same end with handlers that answer alike, if none of them goes bad. -/
lemma Dialogue.play_unless [RecordSource ρ] (hR : Sink.AlikeUnless bad bad' R) (d : Dialogue ρ α)
    {handler : H} {other : K} (h : R handler other) (hgood : ¬ bad (d.play handler).2)
    (hgood' : ¬ bad' (d.play other).2) :
    (d.play handler).1 = (d.play other).1 ∧ R (d.play handler).2 (d.play other).2 := by
  induction d generalizing handler other with
  | done answer => exact ⟨rfl, h⟩
  | tell report rest ih => exact ih (hR.tell report h) hgood hgood'
  | batch mode size result rest ih =>
    have hbatch := hR.batch mode size result h
    unfold Dialogue.play at hgood hgood' ⊢
    generalize Sink.batch mode size (handler, result) = heard at *
    generalize Sink.batch mode size (other, result) = heard' at *
    -- a handler that goes bad over the batch is so at the end
    have hstill : ¬ bad (finalState heard).1 := by
      intro hbad
      cases heard with
      | ok more left => exact hgood (play_absorbing hR.absorbing _ hbad)
      | error fault left => exact hgood (play_absorbing hR.absorbing _ hbad)
    have hstill' : ¬ bad' (finalState heard').1 := by
      intro hbad
      cases heard' with
      | ok more left => exact hgood' (play_absorbing hR.absorbing' _ hbad)
      | error fault left => exact hgood' (play_absorbing hR.absorbing' _ hbad)
    cases hbatch hstill hstill' with
    | @ok more left left' hleft =>
      obtain ⟨handler, rows⟩ := left
      obtain ⟨other, rows'⟩ := left'
      obtain ⟨hhandler, rfl⟩ : R handler other ∧ rows = rows' := hleft
      exact ih _ _ hhandler hgood hgood'
    | @error fault left left' hleft =>
      obtain ⟨handler, rows⟩ := left
      obtain ⟨other, rows'⟩ := left'
      obtain ⟨hhandler, rfl⟩ : R handler other ∧ rows = rows' := hleft
      exact ih _ _ hhandler hgood hgood'

end

/-! ## Replies -/

/-- The same rows are taken if they are delivered with the same success. -/
lemma takeRows_alike [RecordSource ρ] {W : α → β → Prop} {deliver : Record → EStateM Fault α Unit}
    {deliver' : Record → EStateM Fault β Unit}
    (hdeliver : ∀ row {out out'}, W out out' → Agree W (deliver row out) (deliver' row out'))
    (budget : Nat) (result : ρ) {out : α} {out' : β} (h : W out out') :
    Agree (fun x y => W x.1 y.1 ∧ x.2 = y.2) (takeRows deliver budget (out, result))
      (takeRows deliver' budget (out', result)) := by
  induction budget generalizing out out' result with
  | zero => exact .ok ⟨h, rfl⟩
  | succ budget ih =>
    unfold takeRows
    cases RecordSource.next result with
    | error fault rest => exact .error ⟨h, rfl⟩
    | ok row? rest =>
      cases row? with
      | none => exact .ok ⟨h, rfl⟩
      | some row =>
        have hrow := hdeliver row h
        dsimp only
        generalize deliver row out = written at hrow
        generalize deliver' row out' = written' at hrow
        cases hrow with
        | ok hleft => exact ih rest hleft
        | error hleft => exact .error ⟨hleft, rfl⟩

/-- Outputs of two kinds that take a record with the same success. Of a summary only what it leaves
counts, as nobody hears whether it was written. -/
structure ResponseWriter.Alike {O O' : Type} [ResponseWriter O] [ResponseWriter O']
    (W : O → O' → Prop) : Prop where
  record : ∀ (row : Record) {output : O} {output' : O'}, W output output' →
    Agree W (ResponseWriter.write (.record row) output)
      (ResponseWriter.write (.record row) output')
  summary : ∀ (response : Response) {output : O} {output' : O'}, W output output' →
    W (finalState (ResponseWriter.write response output))
      (finalState (ResponseWriter.write response output'))

namespace Reply

variable {O O' : Type}

/-- Two replies were told the same, and their outputs are related. -/
structure Alike (W : O → O' → Prop) (r : Reply O) (r' : Reply O') : Prop where
  output : W r.output r'.output
  metadata : r.metadata = r'.metadata
  failure : r.failure = r'.failure
  ignored : r.ignored = r'.ignored

lemma output_finish [ResponseWriter O] (r : Reply O) :
    r.finish.output = finalState (ResponseWriter.write r.summary r.output) := by
  unfold finish
  dsimp only
  cases ResponseWriter.write r.summary r.output <;> rfl

variable {W : O → O' → Prop} {r : Reply O} {r' : Reply O'}

lemma Alike.summary (h : r.Alike W r') : r.summary = r'.summary := by
  unfold Reply.summary
  rw [h.failure, h.ignored, h.metadata]

variable [ResponseWriter O] [ResponseWriter O']

lemma Alike.tell
    (hsummary : ∀ (response : Response) {output : O} {output' : O'}, W output output' →
      W (finalState (ResponseWriter.write response output))
        (finalState (ResponseWriter.write response output')))
    (h : r.Alike W r') (report : Report) : (r.tell report).Alike W (r'.tell report) := by
  cases report with
  | metadata key value => exact { h with metadata := congrArg (·.insert key value) h.metadata }
  | ignored => exact { h with ignored := rfl }
  | failed failure => exact { h with failure := congrArg (·.or (some failure)) h.failure }
  | finished =>
    refine ⟨?_, ?_, rfl, rfl⟩
    · show W r.finish.output r'.finish.output
      rw [output_finish, output_finish, h.summary]
      exact hsummary _ h.output
    · show (if r.summary.isSuccess then ∅ else r.metadata) =
        if r'.summary.isSuccess then ∅ else r'.metadata
      rw [h.summary, h.metadata]

/-- Rows are delivered with the same success to outputs that are alike. -/
lemma deliver_alike (hW : ResponseWriter.Alike W) (mode : BatchMode) (row : Record) {output : O}
    {output' : O'} (h : W output output') :
    Agree W (deliver mode row output) (deliver mode row output') := by
  cases mode with
  | pull => exact hW.record row h
  | discard => exact .ok h

omit [ResponseWriter O'] in
/-- A batch leaves of a reply and a result what the loop leaves of the output and the result. -/
lemma finalState_batch [RecordSource ρ] (mode : BatchMode) (size : Int64) (r : Reply O)
    (result : ρ) :
    finalState (batch mode size (r, result)) =
      ({ r with output := (finalState (takeRows (deliver mode) (rowBudget size result)
          (r.output, result))).1 },
        (finalState (takeRows (deliver mode) (rowBudget size result) (r.output, result))).2) := by
  unfold batch
  dsimp only
  cases takeRows (deliver mode) (rowBudget size result) (r.output, result) <;> rfl

/-- Batches agree if the loops over the rows do. -/
lemma Alike.batch [RecordSource ρ] (h : r.Alike W r') {mode : BatchMode} {size : Int64} {result : ρ}
    (htaken : Agree (fun x y => W x.1 y.1 ∧ x.2 = y.2)
      (takeRows (deliver mode) (rowBudget size result) (r.output, result))
      (takeRows (deliver mode) (rowBudget size result) (r'.output, result))) :
    Agree (fun x y => x.1.Alike W y.1 ∧ x.2 = y.2) (Reply.batch mode size (r, result))
      (Reply.batch mode size (r', result)) := by
  unfold Reply.batch
  dsimp only
  generalize takeRows (deliver mode) (rowBudget size result) (r.output, result) = taken at htaken
  generalize takeRows (deliver mode) (rowBudget size result) (r'.output, result) = taken' at htaken
  cases htaken with
  | @ok _ left left' hleft =>
    obtain ⟨output, rest⟩ := left
    obtain ⟨output', rest'⟩ := left'
    obtain ⟨houtput, rfl⟩ : W output output' ∧ rest = rest' := hleft
    exact .ok ⟨{ h with output := houtput }, rfl⟩
  | @error _ left left' hleft =>
    obtain ⟨output, rest⟩ := left
    obtain ⟨output', rest'⟩ := left'
    obtain ⟨houtput, rfl⟩ : W output output' ∧ rest = rest' := hleft
    exact .error ⟨{ h with output := houtput }, rfl⟩

/-- Replies whose outputs are alike answer alike. -/
theorem alike (hW : ResponseWriter.Alike W) : Sink.Alike (Reply.Alike W) where
  tell report h := h.tell hW.summary report
  batch mode size result h :=
    h.batch (takeRows_alike (deliver_alike hW mode) (rowBudget size result) result h.output)

end Reply

/-! ## Relays -/

namespace Relay

/-- Two relays remember the same. -/
structure SameMemory (r : Relay H) (r' : Relay K) : Prop where
  failure : r.failure = r'.failure
  ignored : r.ignored = r'.ignored

/-- Two relays remember the same, and their handlers are related. -/
structure Alike (R : H → K → Prop) (r : Relay H) (r' : Relay K) : Prop
    extends SameMemory r r' where
  handler : Option.Rel R r.handler r'.handler

lemma SameMemory.isSettled {r : Relay H} {r' : Relay K} (h : r.SameMemory r') :
    r.isSettled = r'.isSettled := by
  unfold Relay.isSettled
  rw [h.failure, h.ignored]

lemma Alike.forget {R : H → K → Prop} {r : Relay H} {r' : Relay K} (h : r.Alike R r') :
    r.forget.Alike R r'.forget := ⟨⟨rfl, rfl⟩, h.handler⟩

variable [Sink H] [Sink K] {R : H → K → Prop}

lemma Alike.tell (hR : Sink.TellsAlike R) {r : Relay H} {r' : Relay K} (h : r.Alike R r')
    (report : Report) : (r.tell report).Alike R (r'.tell report) := by
  obtain ⟨handler, failure, ignored⟩ := r
  obtain ⟨other, failure', ignored'⟩ := r'
  obtain ⟨⟨rfl, rfl⟩, hhandler⟩ := h
  dsimp only at hhandler
  cases hhandler with
  | some hrelated => exact ⟨⟨rfl, rfl⟩, .some (hR.tell report hrelated)⟩
  | none => cases report <;> exact ⟨⟨rfl, rfl⟩, .none⟩

/-- The handler of a relay is bad. -/
def Has (bad : H → Prop) (r : Relay H) : Prop := ∃ handler, r.handler = some handler ∧ bad handler

variable {bad : H → Prop} {bad' : K → Prop}

omit [Sink K] in
lemma Has.tell (h : Sink.Absorbing bad) {r : Relay H} (hbad : r.Has bad) (report : Report) :
    (r.tell report).Has bad := by
  obtain ⟨handler, failure, ignored⟩ := r
  obtain ⟨handler, rfl, hbad⟩ := hbad
  exact ⟨_, rfl, h.tell report hbad⟩

omit [Sink K] in
lemma finalState_batch {ρ : Type} [RecordSource ρ] (mode : BatchMode) (size : Int64)
    (handler : H) (failure : Option Failure) (ignored : Bool) (result : ρ) :
    finalState (Relay.batch mode size
      ({ handler := some handler, failure, ignored }, result)) =
      ({ handler := some (finalState (Sink.batch mode size (handler, result))).1,
         failure, ignored }, (finalState (Sink.batch mode size (handler, result))).2) := by
  unfold Relay.batch
  dsimp only
  cases Sink.batch mode size (handler, result) <;> rfl

omit [Sink K] in
/-- A relay is as bad as its handler. -/
lemma absorbing (h : Sink.Absorbing bad) : Sink.Absorbing (Relay.Has bad) where
  tell report hbad := hbad.tell h report
  batch mode size result hbad := by
    rename_i r
    obtain ⟨handler, failure, ignored⟩ := r
    obtain ⟨handler, rfl, hbad⟩ := hbad
    show Has bad (finalState (Relay.batch mode size _)).1
    rw [finalState_batch]
    exact ⟨_, rfl, h.batch mode size result hbad⟩

/-- Relays answer like their handlers. -/
lemma alikeUnless (hR : Sink.AlikeUnless bad bad' R) :
    Sink.AlikeUnless (Relay.Has bad) (Relay.Has bad') (Relay.Alike R) where
  tell report h := h.tell hR.toTellsAlike report
  absorbing := absorbing hR.absorbing
  absorbing' := absorbing hR.absorbing'
  batch mode size result h := by
    rename_i r r'
    obtain ⟨handler, failure, ignored⟩ := r
    obtain ⟨other, failure', ignored'⟩ := r'
    obtain ⟨⟨rfl, rfl⟩, hhandler⟩ := h
    dsimp only at hhandler
    cases hhandler with
    | none => exact fun _ _ => .ok ⟨⟨⟨rfl, rfl⟩, .none⟩, rfl⟩
    | @some handler other hrelated =>
      intro hgood hgood'
      have hbatch := hR.batch mode size result hrelated
      change ¬ Has bad (finalState (Relay.batch mode size _)).1 at hgood
      change ¬ Has bad' (finalState (Relay.batch mode size _)).1 at hgood'
      rw [finalState_batch] at hgood hgood'
      have hheard := hbatch (fun hbad => hgood ⟨_, rfl, hbad⟩) (fun hbad => hgood' ⟨_, rfl, hbad⟩)
      show Agree _ (Relay.batch mode size _) (Relay.batch mode size _)
      unfold Relay.batch
      dsimp only
      generalize Sink.batch mode size (handler, result) = heard at hheard
      generalize Sink.batch mode size (other, result) = heard' at hheard
      cases hheard with
      | ok hleft => exact .ok ⟨⟨⟨rfl, rfl⟩, .some hleft.1⟩, hleft.2⟩
      | error hleft => exact .error ⟨⟨⟨rfl, rfl⟩, .some hleft.1⟩, hleft.2⟩

end Relay

/-! ## Connections -/

namespace Connection

/-- Two connections have related relays, and are the same otherwise. -/
structure Alike (S : Relay H → Relay K → Prop) (c : Connection σ P H) (d : Connection σ P K) :
    Prop where
  relay : S c.relay d.relay
  bound : c.bound = d.bound
  notice : c.notice = d.notice
  signals : c.signals = d.signals
  engine : c.engine = d.engine

variable {S : Relay H → Relay K → Prop} {c : Connection σ P H} {d : Connection σ P K}
  {E : Engine σ P ρ}

lemma Alike.validate (h : c.Alike S d) : (c.validate E).Alike S (d.validate E) := by
  rcases Option.eq_none_or_eq_some c.notice with hnotice | ⟨status, hnotice⟩
  · rw [validate_of_bound hnotice h.bound, validate_of_bound (h.notice ▸ hnotice) rfl, h.engine]
    cases E.orIdle.validate d.bound d.engine with
    | mk status engine =>
      cases status with
      | none => exact ⟨h.relay, h.bound, h.notice, h.signals, rfl⟩
      | some status => exact ⟨h.relay, rfl, rfl, h.signals, rfl⟩
  · rw [validate_of_notice hnotice, validate_of_notice (h.notice ▸ hnotice)]
    exact h

lemma Alike.abort (h : c.Alike S d) : (c.abort E).Alike S (d.abort E) := by
  rcases Option.eq_none_or_eq_some c.notice with hnotice | ⟨status, hnotice⟩
  · rw [abort_of_bound hnotice h.bound, abort_of_bound (h.notice ▸ hnotice) rfl, h.engine]
    exact ⟨h.relay, h.bound, h.notice, h.signals, rfl⟩
  · rw [abort_of_notice hnotice, abort_of_notice (h.notice ▸ hnotice)]
    exact h

lemma Alike.release (h : c.Alike S d) : (c.release E).Alike S (d.release E) := by
  rcases Option.eq_none_or_eq_some c.notice with hnotice | ⟨status, hnotice⟩
  · rw [release_of_bound hnotice h.bound, release_of_bound (h.notice ▸ hnotice) rfl, h.engine]
    exact ⟨h.relay, rfl, h.notice, h.signals, rfl⟩
  · rw [release_of_notice hnotice, release_of_notice (h.notice ▸ hnotice)]
    exact ⟨h.relay, rfl, rfl, h.signals, h.engine⟩

end Connection

/-! ## Actions -/

/-- Two actions do the same on connections that are alike. -/
def Simulates (S : Relay H → Relay K → Prop) (act : Action σ P H α) (act' : Action σ P K α) :
    Prop :=
  ∀ ⦃c d⦄, Connection.Alike S c d → Agree (Connection.Alike S) (act c) (act' d)

/-- Actions that do the same may be followed by others that do. -/
lemma Agree.bind {S : Relay H → Relay K → Prop} {act : Action σ P H α} {act' : Action σ P K α}
    {next : α → Action σ P H β} {next' : α → Action σ P K β} {c : Connection σ P H}
    {d : Connection σ P K} (first : Agree (Connection.Alike S) (act c) (act' d))
    (rest : ∀ a, Simulates S (next a) (next' a)) :
    Agree (Connection.Alike S) ((act >>= next) c) ((act' >>= next') d) := by
  show Agree _ (EStateM.bind act next c) (EStateM.bind act' next' d)
  unfold EStateM.bind
  generalize act c = r at first
  generalize act' d = r' at first
  cases first with
  | ok hleft => exact rest _ hleft
  | error hleft => exact .error hleft

namespace Simulates

section
variable {S : Relay H → Relay K → Prop}

lemma pure (a : α) : Simulates S (pure a : Action σ P H α) (pure a) := fun _ _ h => .ok h

lemma raise (fault : Fault) : Simulates S (throw fault : Action σ P H α) (throw fault) :=
  fun _ _ h => .error h

lemma bind {act : Action σ P H α} {act' : Action σ P K α} {next : α → Action σ P H β}
    {next' : α → Action σ P K β} (first : Simulates S act act')
    (rest : ∀ a, Simulates S (next a) (next' a)) :
    Simulates S (act >>= next) (act' >>= next') := fun _ _ h => (first h).bind rest

lemma ite {b : Prop} [Decidable b] {x y : Action σ P H α} {x' y' : Action σ P K α}
    (hx : Simulates S x x') (hy : Simulates S y y') :
    Simulates S (if b then x else y) (if b then x' else y') := by
  split
  · exact hx
  · exact hy

lemma dismiss :
    Simulates S (modify Connection.dismiss : Action σ P H Unit) (modify Connection.dismiss) :=
  fun _ _ h => .ok ⟨h.relay, rfl, h.notice, h.signals, h.engine⟩

lemma onEngine (act : EStateM Fault σ α) :
    Simulates S (Connection.onEngine act : Action σ P H α) (Connection.onEngine act) := by
  intro c d h
  unfold Connection.onEngine
  rw [h.engine]
  cases act d.engine with
  | ok a engine => exact .ok ⟨h.relay, h.bound, h.notice, h.signals, rfl⟩
  | error fault engine => exact .error ⟨h.relay, h.bound, h.notice, h.signals, rfl⟩

lemma access :
    Simulates S (Connection.access : Action σ P H (Option P)) Connection.access := by
  intro c d h
  rcases Option.eq_none_or_eq_some c.notice with hnotice | ⟨status, hnotice⟩
  · rw [Connection.access_of_no_notice hnotice,
      Connection.access_of_no_notice (h.notice ▸ hnotice), h.bound]
    exact .ok h
  · rw [Connection.access_of_notice hnotice, Connection.access_of_notice (h.notice ▸ hnotice)]
    exact .error ⟨h.relay, h.bound, rfl, h.signals, h.engine⟩

lemma engage (p : Option P) :
    Simulates S (Connection.engage p : Action σ P H Unit) (Connection.engage p) :=
  access.bind fun _ _ _ h => .ok ⟨h.relay, rfl, h.notice, h.signals, h.engine⟩

lemma call (act : Option P → EStateM Fault σ α) :
    Simulates S (Connection.call act : Action σ P H α) (Connection.call act) :=
  access.bind fun p => onEngine (act p)

lemma giveUp (E : Engine σ P ρ) :
    Simulates S (Connection.giveUp E : Action σ P H Unit) (Connection.giveUp E) := by
  intro c d h
  have hcall := call (S := S) E.orIdle.reset h
  unfold Connection.giveUp
  generalize Connection.call E.orIdle.reset c = r at hcall
  generalize Connection.call E.orIdle.reset d = r' at hcall
  cases hcall with
  | ok hleft => exact .ok ⟨hleft.relay, rfl, hleft.notice, hleft.signals, hleft.engine⟩
  | error hleft => exact .error ⟨hleft.relay, rfl, hleft.notice, hleft.signals, hleft.engine⟩

lemma acknowledge :
    Simulates S (Connection.acknowledge : Action σ P H Nat) Connection.acknowledge := by
  intro c d h
  unfold Connection.acknowledge
  rw [h.signals]
  cases d.signals.acknowledge with
  | ok left signals => exact .ok ⟨h.relay, h.bound, h.notice, rfl, h.engine⟩
  | error fault signals => exact .error ⟨h.relay, h.bound, h.notice, rfl, h.engine⟩

end

lemma forget {R : H → K → Prop} :
    Simulates (Relay.Alike R) (modify Connection.forget : Action σ P H Unit)
    (modify Connection.forget) :=
  fun _ _ h => .ok ⟨h.relay.forget, h.bound, h.notice, h.signals, h.engine⟩

lemma report [Sink H] [Sink K] {R : H → K → Prop} (hR : Sink.TellsAlike R) (r : Report) :
    Simulates (Relay.Alike R) (Phase.report r : Action σ P H Unit) (Phase.report r) :=
  fun _ _ h => .ok ⟨h.relay.tell hR r, h.bound, h.notice, h.signals, h.engine⟩

end Simulates

/-! ## The table -/

namespace Phase

section
variable {S : Relay H → Relay K → Prop}

lemma simulates_provideFor (E : Engine σ P ρ) (self : Identity) (extra : Extra) :
    Simulates S (provideFor E self extra : Action σ P H Unit) (provideFor E self extra) :=
  (Simulates.onEngine _).bind fun p => .engage p

lemma simulates_becomeIdle : Simulates S (becomeIdle : Action σ P H Phase) becomeIdle :=
  Simulates.dismiss.bind fun _ => .pure _

end

variable [Sink H] [Sink K] {R : H → K → Prop}

section
variable (hR : Sink.TellsAlike R) (E : Engine σ P ρ)

include hR

lemma simulates_mention [ToValue α] (key : String) (value : α) :
    Simulates (Relay.Alike R) (mention key value : Action σ P H Unit) (mention key value) :=
  .report hR _

lemma simulates_mention? [ToValue α] (key : String) (value : Option α) :
    Simulates (Relay.Alike R) (mention? key value : Action σ P H Unit) (mention? key value) := by
  cases value with
  | none => exact .pure ()
  | some value => exact simulates_mention hR key value

lemma simulates_describe (info : StatementInfo) :
    Simulates (Relay.Alike R) (describe info : Action σ P H Unit) (describe info) :=
  (Simulates.report hR _).bind fun _ => simulates_mention hR _ _

lemma simulates_skip (next : Phase) :
    Simulates (Relay.Alike R) (skip next : Action σ P H Phase) (skip next) :=
  (Simulates.report hR _).bind fun _ => .pure next

lemma simulates_awaitMore (phase : Phase) :
    Simulates (Relay.Alike R) (awaitMore phase : Action σ P H Phase) (awaitMore phase) :=
  (simulates_mention hR _ _).bind fun _ => .pure phase

lemma simulates_runInTransaction (run : Run) :
    Simulates (Relay.Alike R) (runInTransaction E run : Action σ P H Phase)
      (runInTransaction E run) :=
  (Simulates.call _).bind fun info => (simulates_describe hR info).bind fun _ =>
    (simulates_mention hR _ _).bind fun _ => .pure _

lemma simulates_answerConnected (self : Identity) (request : Request) :
    Simulates (Relay.Alike R) (answerConnected self request : Action σ P H Phase)
      (answerConnected self request) := by
  cases request with
  | hello extra =>
    exact (simulates_mention hR _ _).bind fun _ => (simulates_mention hR _ _).bind fun _ => .pure _
  | _ => exact .raise _

lemma simulates_answerReset :
    Simulates (Relay.Alike R) (answerReset E : Action σ P H Phase) (answerReset E) :=
  Simulates.acknowledge.bind fun _ => .ite (simulates_skip hR _)
    (Simulates.forget.bind fun _ => (Simulates.giveUp E).bind fun _ => .pure _)

lemma simulates_answerReady (self : Identity) (request : Request) :
    Simulates (Relay.Alike R) (answerReady E self request : Action σ P H Phase)
      (answerReady E self request) := by
  cases request with
  | run run =>
    exact (simulates_provideFor E self _).bind fun _ => (Simulates.call _).bind fun info =>
      (simulates_describe hR info).bind fun _ => .pure _
  | begin extra =>
    exact (simulates_provideFor E self _).bind fun _ => (Simulates.call _).bind fun _ => .pure _
  | _ => exact .raise _

lemma simulates_endStatement (bookmark : Option String) :
    Simulates (Relay.Alike R) (endStatement E bookmark : Action σ P H Phase)
      (endStatement E bookmark) :=
  (simulates_mention? hR _ _).bind fun _ => (Simulates.call _).bind fun database =>
    (simulates_mention? hR _ database).bind fun _ => simulates_becomeIdle

lemma simulates_answerTransactionReady (request : Request) :
    Simulates (Relay.Alike R) (answerTransactionReady E request : Action σ P H Phase)
      (answerTransactionReady E request) := by
  cases request with
  | run run => exact simulates_runInTransaction hR E run
  | commit =>
    exact (Simulates.call _).bind fun _ => (simulates_mention hR _ _).bind fun _ =>
      simulates_becomeIdle
  | rollback => exact (Simulates.call _).bind fun _ => simulates_becomeIdle
  | _ => exact .raise _

lemma simulates_afterBatch (phase : Phase) (outcome : BatchEnd) :
    Simulates (Relay.Alike R) (phase.afterBatch E outcome : Action σ P H Phase)
      (phase.afterBatch E outcome) := by
  unfold afterBatch
  split
  · exact .ite (simulates_awaitMore hR _)
      ((Simulates.call _).bind fun _ => .ite (.pure _) (.pure _))
  · exact .ite (simulates_awaitMore hR _) (simulates_endStatement hR E _)

/-- Unless rows are taken, the table does the same for handlers that are told the same. -/
theorem simulates_answer [RecordSource ρ] (self : Identity) (phase : Phase) (request : Request)
    (h : ∀ mode batch, request = .stream mode batch → phase.streamed? batch = none) :
    Simulates (Relay.Alike R) (phase.answer E self request : Action σ P H Phase)
      (phase.answer E self request) := by
  by_cases hreset : request = .reset
  · subst hreset
    cases phase with
    | connected => exact simulates_answerConnected hR self .reset
    | defunct => exact .raise _
    | _ => exact simulates_answerReset hR E
  · rw [answer_of_ne E self phase hreset, answer_of_ne E self phase hreset]
    cases phase with
    | connected => exact simulates_answerConnected hR self request
    | ready => exact simulates_answerReady hR E self request
    | transactionReady => exact simulates_answerTransactionReady hR E request
    | failed => exact simulates_skip hR _
    | interrupted => exact simulates_skip hR _
    | defunct => exact .raise _
    | streaming =>
      cases request with
      | stream mode batch => exact absurd (h mode batch rfl) (Option.some_ne_none _)
      | _ => exact .raise _
    | transactionStreaming =>
      cases request with
      | stream mode batch => exact absurd (h mode batch rfl) (Option.some_ne_none _)
      | run run => exact simulates_runInTransaction hR E run
      | _ => exact .raise _

end

/-! ### Batches -/

section
variable [RecordSource ρ] {E : Engine σ P ρ} {bad : H → Prop} {c : Connection σ P H}

omit [Sink K] in
/-- A batch over which a handler goes bad leaves it so to whatever follows. -/
lemma has_of_stream (h : Sink.Absorbing bad) {number : Int64} {mode : BatchMode} {size : Int64}
    {kind : Phase → Prop} {rest : BatchEnd → Action σ P H Phase}
    (hrest : ∀ outcome, Plain E kind (rest outcome))
    (hbad : (finalState (Connection.stream E number mode size c)).relay.Has bad) :
    (finalState ((Connection.stream E number mode size >>= rest) c)).relay.Has bad := by
  have hplainly := PlainSteps.ofPreorder E (fun r r' : Relay H => r.Has bad → r'.Has bad)
    (fun _ hr => hr) (fun hfirst hsecond hr => hsecond (hfirst hr))
    (fun _ key value hr => hr.tell h (.metadata key value))
  cases hstreamed : Connection.stream E number mode size c with
  | error fault d =>
    rw [hstreamed] at hbad
    rw [bind_of_error hstreamed]
    exact hbad
  | ok outcome d =>
    rw [hstreamed] at hbad
    rw [bind_of_ok hstreamed]
    have hafter : wp (rest outcome) (fun _ e => e.relay.Has bad) (fun _ e => e.relay.Has bad) d :=
      wp_mono ((hrest outcome).leads hplainly d) (fun _ _ hkept => hkept.2 hbad)
        (fun _ _ hkept => hkept hbad)
    exact finalState_of_wp hafter

omit [Sink K] in
lemma stream_of_no_notice (hnotice : c.notice = none) (number : Int64) (mode : BatchMode)
    (size : Int64) :
    Connection.stream E number mode size c =
      let played := (E.orIdle.stream c.bound number mode size c.engine).play c.relay
      match played.1 with
      | .ok outcome engine => .ok outcome { c with engine, relay := played.2 }
      | .error fault engine => .error fault { c with engine, relay := played.2 } := by
  unfold Connection.stream
  refine (bind_of_ok (Connection.access_of_no_notice hnotice)).trans ?_
  dsimp only
  generalize (E.orIdle.stream c.bound number mode size c.engine).play c.relay = played
  obtain ⟨answer, relay⟩ := played
  cases answer <;> rfl

omit [Sink K] in
lemma stream_of_notice {status : Status} (hnotice : c.notice = some status) (number : Int64)
    (mode : BatchMode) (size : Int64) :
    Connection.stream E number mode size c =
      .error (.transactionTerminated status) { c with notice := none } := by
  unfold Connection.stream
  exact bind_of_error (Connection.access_of_notice hnotice)

variable {bad' : K → Prop} {d : Connection σ P K}

/-- A batch does the same for handlers that answer alike, if none of them goes bad over it. -/
theorem stream_unless (hR : Sink.AlikeUnless bad bad' R) (h : c.Alike (Relay.Alike R) d)
    {number : Int64} {mode : BatchMode} {size : Int64}
    (hgood : ¬ (finalState (Connection.stream E number mode size c)).relay.Has bad)
    (hgood' : ¬ (finalState (Connection.stream E number mode size d)).relay.Has bad') :
    Agree (Connection.Alike (Relay.Alike R)) (Connection.stream E number mode size c)
      (Connection.stream E number mode size d) := by
  rcases Option.eq_none_or_eq_some c.notice with hnotice | ⟨status, hnotice⟩
  · have hplayed := Dialogue.play_unless (Relay.alikeUnless hR)
      (E.orIdle.stream c.bound number mode size c.engine) h.relay
    rw [stream_of_no_notice hnotice] at hgood ⊢
    rw [stream_of_no_notice (h.notice ▸ hnotice), ← h.bound, ← h.engine] at hgood' ⊢
    generalize (E.orIdle.stream c.bound number mode size c.engine).play c.relay = played at *
    generalize (E.orIdle.stream c.bound number mode size c.engine).play d.relay = played' at *
    obtain ⟨answer, relay⟩ := played
    obtain ⟨answer', relay'⟩ := played'
    have hstill : ¬ relay.Has bad := by cases answer <;> exact hgood
    have hstill' : ¬ relay'.Has bad' := by cases answer' <;> exact hgood'
    obtain ⟨hanswer, hleft⟩ := hplayed hstill hstill'
    obtain rfl : answer = answer' := hanswer
    cases answer with
    | ok outcome engine => exact .ok ⟨hleft, rfl, h.notice, h.signals, rfl⟩
    | error fault engine => exact .error ⟨hleft, rfl, h.notice, h.signals, rfl⟩
  · rw [stream_of_notice hnotice, stream_of_notice (h.notice ▸ hnotice)]
    exact .error ⟨h.relay, h.bound, rfl, h.signals, h.engine⟩

/-- The table does the same for handlers that answer alike, if none of them has gone bad when the
answer is over. -/
theorem answer_unless (hR : Sink.AlikeUnless bad bad' R) (self : Identity) (phase : Phase)
    (request : Request) (h : c.Alike (Relay.Alike R) d)
    (hgood : ¬ (finalState (phase.answer E self request c)).relay.Has bad)
    (hgood' : ¬ (finalState (phase.answer E self request d)).relay.Has bad') :
    Agree (Connection.Alike (Relay.Alike R)) (phase.answer E self request c)
      (phase.answer E self request d) := by
  by_cases hsilent : ∀ mode batch, request = .stream mode batch → phase.streamed? batch = none
  · exact simulates_answer hR.toTellsAlike E self phase request hsilent h
  · push Not at hsilent
    obtain ⟨mode, batch, rfl, hstreamed⟩ := hsilent
    obtain ⟨number, hnumber⟩ := Option.ne_none_iff_exists'.mp hstreamed
    rw [answer_stream self hnumber] at hgood hgood' ⊢
    rw [answer_stream self hnumber]
    have hstream := stream_unless hR h
      (fun hbad => hgood (has_of_stream hR.absorbing (Plain.afterBatch phase) hbad))
      (fun hbad => hgood' (has_of_stream hR.absorbing' (Plain.afterBatch phase) hbad))
    exact hstream.bind fun outcome => simulates_afterBatch hR.toTellsAlike E phase outcome

end

end Phase

/-! ## Requests -/

namespace Session

/-- Two sessions have related relays, and are the same otherwise. -/
structure Alike (S : Relay H → Relay K → Prop) (s : Session σ P H) (t : Session σ P K) :
    Prop where
  self : s.self = t.self
  phase : s.phase = t.phase
  connection : s.connection.Alike S t.connection

/-- Two sessions are the same but for their handlers. -/
abbrev Same (s : Session σ P H) (t : Session σ P K) : Prop := s.Alike Relay.SameMemory t

section
variable {S : Relay H → Relay K → Prop} {s : Session σ P H} {t : Session σ P K}
  {E : Engine σ P ρ}

lemma Alike.isClosed (h : s.Alike S t) : s.isClosed = t.isClosed :=
  congrArg Signals.closed h.connection.signals

lemma Alike.signal (h : s.Alike S t) (f : Signals → Signals) :
    (s.signal f).Alike S (t.signal f) where
  self := h.self
  phase := h.phase
  connection := { h.connection with signals := congrArg f h.connection.signals }

lemma Alike.close (h : s.Alike S t) : (s.close E).Alike S (t.close E) where
  self := h.self
  phase := rfl
  connection :=
    let hreleased := h.connection.release (E := E)
    { hreleased with signals := congrArg Signals.close hreleased.signals }

lemma Alike.heedSignals (h : s.Alike S t) : (s.heedSignals E).Alike S (t.heedSignals E) := by
  unfold Session.heedSignals
  rw [← h.connection.signals, ← h.isClosed, ← h.phase]
  split
  · split
    · exact h
    · exact h.close
  · split
    · exact ⟨h.self, rfl, h.connection.abort⟩
    · exact h

/-- Whatever handlers two sessions had, a request finds them alike if it brings handlers that
are. -/
lemma Same.accept (h : s.Same t) {R : H → K → Prop} {handler : H} {other : K}
    (hhandler : R handler other) :
    (s.accept E handler).Alike (Relay.Alike R) (t.accept E other) := by
  have hheeded : (s.heedSignals E).Same (t.heedSignals E) := h.heedSignals
  unfold Session.accept
  dsimp only
  rw [← hheeded.isClosed]
  have hconnection : ((if (s.heedSignals E).isClosed then (s.heedSignals E).connection
      else (s.heedSignals E).connection.validate E)).Alike Relay.SameMemory
      (if (s.heedSignals E).isClosed then (t.heedSignals E).connection
      else (t.heedSignals E).connection.validate E) := by
    split
    · exact hheeded.connection
    · exact hheeded.connection.validate
  exact ⟨hheeded.self, hheeded.phase,
    { hconnection with
      relay := ⟨⟨hconnection.relay.failure, hconnection.relay.ignored⟩, .some hhandler⟩ }⟩

end

/-- The name of a session is never changed. -/
lemma self_conclude [Sink H] (reply : Bool) (s : Session σ P H) :
    (s.conclude reply).2.self = s.self := by
  obtain ⟨self, ⟨⟨handler, failure, ignored⟩, bound, notice, signals, engine⟩, phase⟩ := s
  cases handler <;> cases failure <;> cases ignored <;> cases reply <;> rfl

section
variable [Sink H] [Sink K] {R : H → K → Prop} {s : Session σ P H} {t : Session σ P K}
  {E : Engine σ P ρ}

lemma Alike.tell (h : s.Alike (Relay.Alike R) t) (hR : Sink.TellsAlike R) (report : Report) :
    ({ s with connection := s.connection.tell report } : Session σ P H).Alike (Relay.Alike R)
      { t with connection := t.connection.tell report } where
  self := h.self
  phase := h.phase
  connection := { h.connection with relay := h.connection.relay.tell hR report }

lemma Alike.fail (h : s.Alike (Relay.Alike R) t) (hR : Sink.TellsAlike R) (fault : Fault) :
    Agree (Session.Alike (Relay.Alike R)) (fail E fault s) (fail E fault t) := by
  have htold := h.tell hR (.failed (.ofFault fault))
  unfold Session.fail
  dsimp only
  split
  · exact .error htold.close
  · exact .ok ⟨h.self, rfl, htold.connection⟩

variable [RecordSource ρ]

/-- Two sessions that answer a request alike, if they come to that. -/
def Answers (E : Engine σ P ρ) (R : H → K → Prop) (request : Request) (s : Session σ P H)
    (t : Session σ P K) : Prop :=
  Agree (Connection.Alike (Relay.Alike R)) (s.phase.answer E s.self request s.connection)
    (t.phase.answer E t.self request t.connection)

lemma Alike.dispatch (h : s.Alike (Relay.Alike R) t) (hR : Sink.TellsAlike R) {request : Request}
    (hanswer : request ≠ .goodbye → Answers E R request s t) :
    Agree (Alike (Relay.Alike R)) (dispatch E request s) (dispatch E request t) := by
  by_cases hgoodbye : request = .goodbye
  · subst hgoodbye
    exact .ok h.close
  · have hagree := hanswer hgoodbye
    unfold Answers at hagree
    rw [dispatch_of_ne E hgoodbye, dispatch_of_ne E hgoodbye]
    generalize s.phase.answer E s.self request s.connection = r at hagree
    generalize t.phase.answer E t.self request t.connection = r' at hagree
    cases hagree with
    | ok hleft => exact .ok ⟨h.self, rfl, hleft⟩
    | @error fault c d hleft =>
      have hraised : Session.Alike (Relay.Alike R) { s with connection := c }
          { t with connection := d } := ⟨h.self, h.phase, hleft⟩
      exact hraised.fail hR fault

omit [Sink H] [Sink K] [RecordSource ρ] in
lemma Alike.passes (h : s.Alike (Relay.Alike R) t) (request : Request) :
    s.passes request = t.passes request := by
  unfold Session.passes Connection.canProceed
  rw [h.connection.signals, h.connection.relay.isSettled]

lemma Alike.perform (h : s.Alike (Relay.Alike R) t) (hR : Sink.TellsAlike R) {request : Request}
    (hanswer : s.isClosed = false → s.passes request → request ≠ .goodbye →
      Answers E R request s t) :
    Agree (Alike (Relay.Alike R)) (perform E request s) (perform E request t) := by
  by_cases hpasses : s.passes request
  · cases hclosed : s.isClosed with
    | true =>
      rw [perform_of_closed request hclosed, perform_of_closed request (h.isClosed ▸ hclosed)]
      exact .ok h
    | false =>
      rw [perform_of_passes hclosed hpasses,
        perform_of_passes (h.isClosed ▸ hclosed) (h.passes request ▸ hpasses)]
      exact h.dispatch hR (hanswer hclosed hpasses)
  · rw [perform_of_kept hpasses, perform_of_kept (h.passes request ▸ hpasses)]
    exact .ok h

omit [RecordSource ρ] in
/-- What a request leaves once it is over: handlers that are related still, and sessions that are
the same but for them. -/
lemma Alike.conclude (h : s.Alike (Relay.Alike R) t) (hR : Sink.TellsAlike R) (reply : Bool) :
    Option.Rel R (s.conclude reply).1 (t.conclude reply).1 ∧
      (s.conclude reply).2.Same (t.conclude reply).2 := by
  have hrelay := h.connection.relay
  have hconclusion : conclusion reply s.connection.relay = conclusion reply t.connection.relay := by
    unfold conclusion
    rw [hrelay.failure, hrelay.ignored]
  refine ⟨?_, ?_, ?_, ?_⟩
  · have hhandler := hrelay.handler
    rw [handler_conclude, handler_conclude, hconclusion]
    generalize s.connection.relay.handler = handler? at hhandler
    generalize t.connection.relay.handler = other? at hhandler
    cases hhandler with
    | some hrelated => exact .some (hR.foldl _ hrelated)
    | none => exact .none
  · rw [self_conclude, self_conclude, h.self]
  · rw [phase_conclude, phase_conclude, hrelay.failure, h.phase]
  · rw [connection_conclude, connection_conclude]
    exact { h.connection with relay := ⟨rfl, rfl⟩ }

/-- Requests whose handlers answer alike come to the same end. -/
structure SameEnd (R : H → K → Prop) (served : Served σ P H) (served' : Served σ P K) : Prop where
  outcome : served.outcome = served'.outcome
  handler : Option.Rel R served.handler served'.handler
  session : served.session.Same served'.session

omit [Sink H] [Sink K] [RecordSource ρ] in
/-- A request finds two sessions alike that are the same. -/
lemma Same.found (h : s.Same t) {handler : H} {other : K} (hhandler : R handler other)
    (arrivals : Nat) :
    (s.found E handler arrivals).Alike (Relay.Alike R) (t.found E other arrivals) :=
  (h.accept hhandler).signal (Signals.interruptBy arrivals)

/-- A request leads to the same, whichever of two handlers it came with, if it is answered alike
where it comes to the table. -/
theorem Same.serveAmid_of_answers (h : s.Same t) (hR : Sink.TellsAlike R) {arrivals : Nat}
    {request : Request} {handler : H} {other : K} (hhandler : R handler other)
    (hanswer : (s.found E handler arrivals).isClosed = false →
      (s.found E handler arrivals).passes request → request ≠ .goodbye →
      Answers E R request (s.found E handler arrivals) (t.found E other arrivals)) :
    SameEnd R (s.serveAmid E arrivals request handler) (t.serveAmid E arrivals request other) := by
  have hperformed := (h.found hhandler arrivals).perform hR hanswer
  show SameEnd R (settle (perform E request (s.found E handler arrivals)))
    (settle (perform E request (t.found E other arrivals)))
  generalize perform E request (s.found E handler arrivals) = r at hperformed
  generalize perform E request (t.found E other arrivals) = r' at hperformed
  cases hperformed with
  | @ok _ u v hleft =>
    have hconcluded := hleft.conclude hR !u.isClosed
    unfold settle
    dsimp only
    rw [← hleft.isClosed]
    exact ⟨rfl, hconcluded.1, hconcluded.2⟩
  | error hleft =>
    obtain ⟨hhandler, hsame⟩ := hleft.conclude hR true
    exact ⟨rfl, hhandler, hsame⟩

omit [Sink K] in
/-- A handler that has gone bad when its request is answered is returned so. -/
lemma has_settle {bad : H → Prop} (h : Sink.Absorbing bad) {request : Request}
    (hopen : s.isClosed = false) (hpasses : s.passes request) (hrequest : request ≠ .goodbye)
    (hbad : (finalState (s.phase.answer E s.self request s.connection)).relay.Has bad) :
    ∃ handler, (settle (perform E request s)).handler = some handler ∧ bad handler := by
  have hconclude (reply : Bool) {u : Session σ P H} (hu : u.connection.relay.Has bad) :
      ∃ handler, (u.conclude reply).1 = some handler ∧ bad handler := by
    obtain ⟨handler, hhandler, hbad⟩ := hu
    rw [handler_conclude, hhandler]
    exact ⟨_, rfl, h.foldl _ hbad⟩
  rw [perform_of_passes hopen hpasses, dispatch_of_ne E hrequest]
  generalize s.phase.answer E s.self request s.connection = answered at hbad
  cases answered with
  | ok next c => exact hconclude _ hbad
  | error fault c =>
    have htold : (c.tell (.failed (.ofFault fault))).relay.Has bad := hbad.tell h _
    dsimp only [Session.fail]
    split
    · refine hconclude true ?_
      rw [relay_close]
      exact htold
    · exact hconclude _ htold

/-- A request leads to the same, whichever of two handlers it came with that answer alike, if none
of them went bad over it. -/
theorem Same.serveAmid_unless (h : s.Same t) {bad : H → Prop} {bad' : K → Prop}
    (hR : Sink.AlikeUnless bad bad' R) (arrivals : Nat) (request : Request) {handler : H}
    {other : K} (hhandler : R handler other)
    (hgood : ∀ told, (s.serveAmid E arrivals request handler).handler = some told → ¬ bad told)
    (hgood' : ∀ told, (t.serveAmid E arrivals request other).handler = some told → ¬ bad' told) :
    SameEnd R (s.serveAmid E arrivals request handler) (t.serveAmid E arrivals request other) := by
  have hfound := h.found (E := E) hhandler arrivals
  refine h.serveAmid_of_answers hR.toTellsAlike hhandler fun hopen hpasses hrequest => ?_
  have hstill : ¬ (finalState ((s.found E handler arrivals).phase.answer E
      (s.found E handler arrivals).self request
      (s.found E handler arrivals).connection)).relay.Has bad := by
    intro hbad
    obtain ⟨told, htold, hbad⟩ := has_settle hR.absorbing hopen hpasses hrequest hbad
    exact hgood told htold hbad
  have hstill' : ¬ (finalState ((t.found E other arrivals).phase.answer E
      (t.found E other arrivals).self request
      (t.found E other arrivals).connection)).relay.Has bad' := by
    intro hbad
    obtain ⟨told, htold, hbad⟩ := has_settle hR.absorbing' (hfound.isClosed ▸ hopen)
      (hfound.passes request ▸ hpasses) hrequest hbad
    exact hgood' told htold hbad
  unfold Answers
  rw [← hfound.self, ← hfound.phase] at hstill' ⊢
  exact Phase.answer_unless hR _ _ request hfound.connection hstill hstill'

/-- A request leads to the same, whichever of two handlers it came with that answer alike. -/
theorem Same.serveAmid (h : s.Same t) (hR : Sink.Alike R) (arrivals : Nat) (request : Request)
    {handler : H} {other : K} (hhandler : R handler other) :
    SameEnd R (s.serveAmid E arrivals request handler) (t.serveAmid E arrivals request other) :=
  h.serveAmid_unless hR.unless arrivals request hhandler (fun _ _ hbad => hbad)
    (fun _ _ hbad => hbad)

end
end Session
end QuerySession
