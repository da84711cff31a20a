import QuerySession.Proofs.Greeting

/-!
# What answers are made of

Every answer of the table of phases is one of four kinds: RESET, a request that is skipped, a
batch of rows and what follows it, and plain work. Plain work consists of a few steps only: calls
on the bound processor, a new processor, entries of the summary, and the end of the work. Of all
steps, a batch is the only one in which somebody else speaks to the handler.

* `Phase.answer_cases`: the table, cut along these lines;
* `Plain.leads`, `Steps.answer`: a relation that every step keeps holds between the connection
  before an answer and the one after it.
-/

namespace QuerySession

variable {σ P ρ H α β : Type}

/-- The calls on the bound processor, other than batches and resets. -/
inductive Engine.Asks (E : Engine σ P ρ) : {α : Type} → (Option P → EStateM Fault σ α) → Prop
  | database : E.Asks fun p s => .ok (E.orIdle.database? p s) s
  | isStreaming : E.Asks fun p s => .ok (E.orIdle.isStreaming p s) s
  | begin (options : TransactionOptions) : E.Asks fun p => E.orIdle.begin p options
  | run (query : String) (parameters : Dictionary Value) (options : Option TransactionOptions) :
    E.Asks fun p => E.orIdle.run p query parameters options
  | commit : E.Asks E.orIdle.commit
  | rollback : E.Asks E.orIdle.rollback

/-- The faults by which the table itself turns a request down. -/
def Fault.isRefusal : Fault → Bool
  | invalidRequest .. | connectionClosed | fatal _ => true
  | _ => false

/-- Actions that are made of plain steps, and what they return. -/
inductive Plain [Sink H] (E : Engine σ P ρ) : {α : Type} → (α → Prop) → Action σ P H α → Prop
  | pure {α : Type} {kind : α → Prop} {a : α} (h : kind a) : Plain E kind (pure a)
  /-- A request is refused. -/
  | refuse {α : Type} {kind : α → Prop} {fault : Fault} (h : fault.isRefusal) :
    Plain E kind (throw fault : Action σ P H α)
  | mention (key : String) (value : Value) :
    Plain E anything (Phase.report (.metadata key value))
  | dismiss : Plain E anything (modify Connection.dismiss)
  | call {α : Type} {act : Option P → EStateM Fault σ α} (h : E.Asks act) :
    Plain E anything (Connection.call act)
  | provideFor (self : Identity) (extra : Extra) : Plain E anything (Phase.provideFor E self extra)
  | bind {α β : Type} {kind : α → Prop} {kind' : β → Prop} {act : Action σ P H α}
    {next : α → Action σ P H β} (first : Plain E kind act) (rest : ∀ a, Plain E kind' (next a)) :
    Plain E kind' (act >>= next)

/-- The statement whose rows a batch takes in a phase. -/
def Phase.streamed? : Phase → Batch → Option Int64
  | .streaming, _ => some (-1)
  | .transactionStreaming, b => some b.statement
  | _, _ => none

/-- What follows a batch in a phase in which there are rows to take. -/
def Phase.afterBatch [Sink H] (E : Engine σ P ρ) : Phase → BatchEnd → Action σ P H Phase
  | .transactionStreaming, outcome =>
    if outcome.hasMore then awaitMore .transactionStreaming else endTransactionStatement E
  | _, outcome =>
    if outcome.hasMore then awaitMore .streaming else endStatement E outcome.bookmark

/-! ## The table -/

section
variable [Sink H] {E : Engine σ P ρ}

/-- A request for rows is answered by a batch and what follows it. -/
lemma Phase.answer_stream [RecordSource ρ] (self : Identity) {phase : Phase} {batch : Batch}
    {number : Int64} (hnumber : phase.streamed? batch = some number) (mode : BatchMode) :
    (phase.answer E self (.stream mode batch) : Action σ P H Phase) =
      Connection.stream E number mode batch.size >>= phase.afterBatch E := by
  cases phase with
  | streaming =>
    obtain rfl : -1 = number := Option.some.inj hnumber
    rfl
  | transactionStreaming =>
    obtain rfl : batch.statement = number := Option.some.inj hnumber
    rfl
  | _ => cases hnumber

namespace Plain

lemma mention? [ToValue α] (key : String) (value : Option α) :
    Plain E anything (Phase.mention? key value : Action σ P H Unit) := by
  cases value with
  | none => exact .pure trivial
  | some value => exact .mention key (toValue value)

lemma describe (info : StatementInfo) :
    Plain E anything (Phase.describe info : Action σ P H Unit) :=
  .bind (.mention _ _) fun _ => .mention _ _

lemma becomeIdle :
    Plain E (fun next => next.isUsable) (Phase.becomeIdle : Action σ P H Phase) :=
  .bind .dismiss fun _ => .pure rfl

lemma runInTransaction (run : Run) :
    Plain E (fun next => next.isUsable) (Phase.runInTransaction E run : Action σ P H Phase) :=
  .bind (.call (.run _ _ _)) fun info => .bind (describe info) fun _ =>
    .bind (.mention _ _) fun _ => .pure rfl

lemma awaitMore {phase : Phase} (h : phase.isUsable) :
    Plain E (fun next => next.isUsable) (Phase.awaitMore phase : Action σ P H Phase) :=
  .bind (.mention _ _) fun _ => .pure h

lemma endStatement (bookmark : Option String) :
    Plain E (fun next => next.isUsable) (Phase.endStatement E bookmark : Action σ P H Phase) :=
  .bind (mention? _ _) fun _ => .bind (.call .database) fun _ =>
    .bind (mention? _ _) fun _ => becomeIdle

lemma endTransactionStatement :
    Plain E (fun next => next.isUsable) (Phase.endTransactionStatement E : Action σ P H Phase) := by
  refine .bind (.call .isStreaming) fun streaming => ?_
  cases streaming with
  | true => exact .pure rfl
  | false => exact .pure rfl

lemma afterBatch (phase : Phase) (outcome : BatchEnd) :
    Plain E (fun next => next.isUsable) (phase.afterBatch E outcome : Action σ P H Phase) := by
  unfold Phase.afterBatch
  split <;> split
  · exact awaitMore rfl
  · exact endTransactionStatement
  · exact awaitMore rfl
  · exact endStatement _

end Plain

/-- An answer is that to RESET, a skip, a batch and what follows it, or plain work alone. -/
theorem Phase.answer_cases [RecordSource ρ] (E : Engine σ P ρ) (self : Identity) (phase : Phase)
    (request : Request) :
    (request = .reset ∧ phase ≠ .connected ∧ phase ≠ .defunct ∧
      (phase.answer E self request : Action σ P H Phase) = answerReset E) ∨
    (request ≠ .reset ∧ (phase = .failed ∨ phase = .interrupted) ∧
      (phase.answer E self request : Action σ P H Phase) = skip phase) ∨
    (∃ mode batch number rest, request = .stream mode batch ∧
      phase.streamed? batch = some number ∧
      (phase.answer E self request : Action σ P H Phase) =
        Connection.stream E number mode batch.size >>= rest ∧
      ∀ outcome, Plain E (fun next => next.isUsable) (rest outcome)) ∨
    ((∀ mode batch, request = .stream mode batch → phase.streamed? batch = none) ∧
      Plain E (fun next => next.isUsable)
        (phase.answer E self request : Action σ P H Phase)) := by
  by_cases hreset : request = .reset
  · subst hreset
    cases phase with
    | connected => exact Or.inr (Or.inr (Or.inr ⟨nofun, .refuse rfl⟩))
    | defunct => exact Or.inr (Or.inr (Or.inr ⟨nofun, .refuse rfl⟩))
    | _ => exact Or.inl ⟨rfl, nofun, nofun, rfl⟩
  right
  cases phase with
  | failed =>
    left
    cases request <;> first | exact absurd rfl hreset | exact ⟨hreset, Or.inl rfl, rfl⟩
  | interrupted =>
    left
    cases request <;> first | exact absurd rfl hreset | exact ⟨hreset, Or.inr rfl, rfl⟩
  | defunct => exact Or.inr (Or.inr ⟨fun _ _ _ => rfl, .refuse rfl⟩)
  | connected =>
    refine Or.inr (Or.inr ⟨fun _ _ _ => rfl, ?_⟩)
    cases request with
    | hello extra => exact .bind (.mention _ _) fun _ => .bind (.mention _ _) fun _ => .pure rfl
    | _ => exact .refuse rfl
  | ready =>
    refine Or.inr (Or.inr ⟨fun _ _ _ => rfl, ?_⟩)
    cases request with
    | reset => exact absurd rfl hreset
    | run run =>
      exact .bind (.provideFor self _) fun _ => .bind (.call (.run _ _ _)) fun info =>
        .bind (.describe info) fun _ => .pure rfl
    | begin extra =>
      exact .bind (.provideFor self _) fun _ => .bind (.call (.begin _)) fun _ => .pure rfl
    | _ => exact .refuse rfl
  | streaming =>
    right
    cases request with
    | reset => exact absurd rfl hreset
    | stream mode batch =>
      exact Or.inl ⟨mode, batch, -1, _, rfl, rfl, answer_stream self rfl mode, .afterBatch _⟩
    | _ => exact Or.inr ⟨nofun, .refuse rfl⟩
  | transactionReady =>
    refine Or.inr (Or.inr ⟨fun _ _ _ => rfl, ?_⟩)
    cases request with
    | reset => exact absurd rfl hreset
    | run run => exact .runInTransaction run
    | commit => exact .bind (.call .commit) fun _ => .bind (.mention _ _) fun _ => .becomeIdle
    | rollback => exact .bind (.call .rollback) fun _ => .becomeIdle
    | _ => exact .refuse rfl
  | transactionStreaming =>
    right
    cases request with
    | reset => exact absurd rfl hreset
    | run run => exact Or.inr ⟨nofun, .runInTransaction run⟩
    | stream mode batch =>
      exact Or.inl
        ⟨mode, batch, batch.statement, _, rfl, rfl, answer_stream self rfl mode, .afterBatch _⟩
    | _ => exact Or.inr ⟨nofun, .refuse rfl⟩

end

/-! ## Along the steps -/

section
variable [Sink H] {E : Engine σ P ρ} {along : Connection σ P H → Connection σ P H → Prop}
  {raises : Connection σ P H → Fault → Connection σ P H → Prop}

/-- Every plain step leads along a relation, or to a fault that it allows. -/
structure PlainSteps (E : Engine σ P ρ) (along : Connection σ P H → Connection σ P H → Prop)
    (raises : Connection σ P H → Fault → Connection σ P H → Prop) : Prop where
  refl : ∀ c, along c c
  trans : ∀ {c d e}, along c d → along d e → along c e
  raise : ∀ {c d e fault}, along c d → raises d fault e → raises c fault e
  refuse : ∀ {fault} c, fault.isRefusal → raises c fault c
  mention : ∀ c key value, along c (c.tell (.metadata key value))
  dismiss : ∀ c, along c c.dismiss
  call : ∀ {α : Type} {act : Option P → EStateM Fault σ α} c, E.Asks act →
    wp (Connection.call act) (fun _ => along c) (raises c) c
  provideFor : ∀ self extra c,
    wp (Phase.provideFor E self extra) (fun _ => along c) (raises c) c

/-- Every step of the table leads along a relation, or to a fault that it allows. -/
structure Steps [RecordSource ρ] (E : Engine σ P ρ)
    (along : Connection σ P H → Connection σ P H → Prop)
    (raises : Connection σ P H → Fault → Connection σ P H → Prop) : Prop
    extends PlainSteps E along raises where
  ignore : ∀ c, along c (c.tell .ignored)
  forget : ∀ c, along c c.forget
  acknowledge : ∀ c left, along c { c with signals.interrupts := left }
  giveUp : ∀ c, wp (Connection.giveUp E) (fun _ => along c) (raises c) c
  stream : ∀ number mode size c,
    wp (Connection.stream E number mode size) (fun _ => along c) (raises c) c

lemma PlainSteps.bind (h : PlainSteps E along raises) {kind : β → Prop} {act : Action σ P H α}
    {next : α → Action σ P H β} {c : Connection σ P H}
    (first : wp act (fun _ => along c) (raises c) c)
    (rest : ∀ a d, wp (next a) (fun b e => kind b ∧ along d e) (raises d) d) :
    wp (act >>= next) (fun b e => kind b ∧ along c e) (raises c) c := by
  rw [wp_bind]
  refine wp_mono first ?_ (fun _ _ hraised => hraised)
  intro a d hfirst
  refine wp_mono (rest a d) ?_ ?_
  · intro b e hrest
    exact ⟨hrest.1, h.trans hfirst hrest.2⟩
  · intro fault e hraised
    exact h.raise hfirst hraised

/-- Plain work leads along every relation that its steps keep. -/
theorem Plain.leads {kind : α → Prop} {act : Action σ P H α} (hact : Plain E kind act)
    (h : PlainSteps E along raises) (c : Connection σ P H) :
    wp act (fun a d => kind a ∧ along c d) (raises c) c := by
  -- one case for each step, and the relation is carried through `bind`
  induction hact generalizing c with
  | pure hkind => exact ⟨hkind, h.refl c⟩
  | refuse hfault => exact h.refuse c hfault
  | mention key value => exact ⟨trivial, h.mention c key value⟩
  | dismiss => exact ⟨trivial, h.dismiss c⟩
  | call hasks => exact wp_mono (h.call c hasks) (fun _ _ hd => ⟨trivial, hd⟩) fun _ _ hd => hd
  | provideFor self extra =>
    exact wp_mono (h.provideFor self extra c) (fun _ _ hd => ⟨trivial, hd⟩) fun _ _ hd => hd
  | bind first rest ihfirst ihrest =>
    exact h.bind (wp_mono (ihfirst c) (fun _ _ hd => hd.2) fun _ _ hd => hd) ihrest

/-- Plain work does nothing to a relay but to mention entries of the summary. -/
lemma PlainSteps.ofPreorder (E : Engine σ P ρ) (along : Relay H → Relay H → Prop)
    (hrefl : ∀ r, along r r) (htrans : ∀ {r r' r''}, along r r' → along r' r'' → along r r'')
    (hmention : ∀ r key value, along r (r.tell (.metadata key value))) :
    PlainSteps E (H := H) (fun c d => along c.relay d.relay)
      (fun c _ d => along c.relay d.relay) where
  refl _ := hrefl _
  trans hcd hde := htrans hcd hde
  raise hcd hde := htrans hcd hde
  refuse _ _ := hrefl _
  mention c key value := hmention c.relay key value
  dismiss _ := hrefl _
  call c _ := by
    rw [wp_call]
    split
    · exact Meets.always (fun _ _ => hrefl _) (fun _ _ => hrefl _) _
    · exact hrefl _
  provideFor self extra c := by
    unfold Phase.provideFor
    rw [wp_bind, wp_onEngine]
    refine Meets.always ?_ (fun _ _ => hrefl _) _
    intro p engine
    rw [wp_engage]
    split
    · exact hrefl _
    · exact hrefl _

/-- What mentioning an entry of the summary leaves alone is left alone by plain work. -/
lemma PlainSteps.ofRelay {γ : Type} (E : Engine σ P ρ) (view : Relay H → γ)
    (hmention : ∀ r key value, view (r.tell (.metadata key value)) = view r) :
    PlainSteps E (H := H) (fun c d => view d.relay = view c.relay)
      (fun c _ d => view d.relay = view c.relay) :=
  .ofPreorder E (fun r r' => view r' = view r) (fun _ => rfl)
    (fun hfirst hsecond => hsecond.trans hfirst) hmention

/-- The answer to a RESET that is due leads along the relation. -/
lemma Steps.answerReset [RecordSource ρ] (h : Steps E along raises) {c : Connection σ P H}
    (hdue : c.signals.interrupts ≠ 0 ∨ raises c .counterUnderflow c) :
    wp (Phase.answerReset E) (fun _ d => along c d) (raises c) c := by
  unfold Phase.answerReset
  rw [wp_bind, wp_acknowledge]
  cases hleft : c.signals.interrupts with
  | zero =>
    rcases hdue with hdue | hraised
    · exact absurd hleft hdue
    · exact hraised
  | succ left =>
    have hfirst := h.acknowledge c left
    dsimp only
    rw [wp_ite]
    split
    · rw [wp_skip]
      exact h.trans hfirst (h.ignore _)
    · rw [wp_bind, wp_modify, wp_bind]
      have hforgotten := h.trans hfirst (h.forget _)
      refine wp_mono (h.giveUp _) ?_ ?_
      · intro _ d hd
        exact h.trans hforgotten hd
      · intro fault d hd
        exact h.raise hforgotten hd

/-- Every answer leads along a relation that all steps keep. RESET without an interrupt is the one
fault that is not raised by a step. -/
theorem Steps.answer [RecordSource ρ] (h : Steps E along raises) (self : Identity) (phase : Phase)
    (request : Request) (c : Connection σ P H)
    (hdue : request = .reset → c.signals.interrupts ≠ 0 ∨ raises c .counterUnderflow c) :
    wp (phase.answer E self request) (fun _ d => along c d) (raises c) c := by
  rcases Phase.answer_cases (H := H) E self phase request with
    ⟨hreset, -, -, heq⟩ | ⟨-, -, heq⟩ | ⟨mode, batch, number, rest, -, -, heq, hrest⟩ | ⟨-, hplain⟩
  · rw [heq]
    exact h.answerReset (hdue hreset)
  · rw [heq, wp_skip]
    exact h.ignore c
  · have hanswer := h.bind (h.stream number mode batch.size c) fun outcome =>
      (hrest outcome).leads h.toPlainSteps
    rw [heq]
    exact wp_mono hanswer (fun _ _ hd => hd.2) (fun _ _ hd => hd)
  · exact wp_mono (hplain.leads h.toPlainSteps c) (fun _ _ hd => hd.2) (fun _ _ hd => hd)

end

end QuerySession
