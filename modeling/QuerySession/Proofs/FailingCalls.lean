import QuerySession.Proofs.Custody
import QuerySession.Proofs.Entries
import QuerySession.Proofs.Notice

/-!
# Which call fails

A request stops at the first call that fails, and the fault of this call is the one that the table
of phases raises. So the journal shows at which call a request failed: it is the last entry that
was made, and nothing failed before it. The processor that was called stays bound, unless RESET
was to reset it.

* `Phase.answer_of_refused`: the requests that fail without a call;
* `Connection.Traces`: actions that stop at the first call that fails;
* `Connection.wp_answer_fails`: every answer of the table does;
* `Connection.resetCount_of_not_reset`, `Connection.events_release`: which entries are resets.
-/

namespace QuerySession

variable {σ P ρ H α β : Type}

/-! ## Requests that are not allowed -/

namespace Phase

/-- A phase has a use for a request. GOODBYE is good in any. -/
def takes : Phase → Request → Bool
  | _, .goodbye => true
  | .connected, .hello _ => true
  | .connected, _ | .defunct, _ => false
  | _, .reset | .failed, _ | .interrupted, _ => true
  | phase, request => phase.reaches request

/-- The fault of a request that a phase has no use for. -/
def refusal (phase : Phase) (request : Request) : Fault :=
  match phase with
  | .connected => .fatal ("Message " ++ request.name ++ " cannot be handled before HELLO")
  | .defunct => .connectionClosed
  | phase => .invalidRequest request.name phase.name

/-- A request that a phase has no use for is refused. -/
lemma answer_of_refused [Sink H] [RecordSource ρ] {E : Engine σ P ρ} (self : Identity)
    {phase : Phase} {request : Request} (h : ¬ phase.takes request) (c : Connection σ P H) :
    phase.answer E self request c = .error (phase.refusal request) c := by
  cases phase <;> cases request <;> first | exact absurd rfl h | rfl

/-- RESET is only of use between HELLO and the end. -/
lemma ne_of_takes {phase : Phase} (h : phase.takes .reset) :
    phase ≠ .connected ∧ phase ≠ .defunct := by
  cases phase with
  | connected => cases h
  | defunct => cases h
  | _ => exact ⟨Phase.noConfusion, Phase.noConfusion⟩

end Phase

/-! ## What a fault leaves -/

namespace Event

/-- A processor is reset. -/
def isReset : Event P → Bool
  | .called _ .reset _ => true
  | _ => false

/-- Nothing fails. -/
def succeeds (event : Event P) : Bool := event.fault?.isNone

/-- Nothing fails, and no processor is reset. -/
def isCalm (event : Event P) : Bool := event.succeeds && !event.isReset

lemma succeeds_of_isCalm {event : Event P} (h : event.isCalm) : event.succeeds :=
  (Bool.and_eq_true_iff.mp h).1

/-- A processor is asked to stop, or after its transaction. -/
def isInquiry : Event P → Bool
  | .called _ .abort .done | .called _ .validate .done | .called _ .validate (.terminated _) => true
  | _ => false

/-- An inquiry neither fails nor resets a processor. -/
lemma isCalm_of_isInquiry {event : Event P} (h : event.isInquiry) : event.isCalm := by
  unfold isInquiry at h
  split at h
  · rfl
  · rfl
  · rfl
  · cases h

/-- The processor that stays bound if a call fails. None is bound yet when one is provided, and
RESET leaves the processor before it says what came of it. -/
def left? : Event P → Option (Numbered P)
  | .provided .. => none
  | .called _ .reset _ => none
  | .called p _ _ => some p

end Event

namespace Connection

variable {E : Engine σ P ρ} {c d e : Connection (Journal σ P) (Numbered P) H}
  {kind : Event P → Bool}

/-- A journal was continued by entries of some kind. -/
def Enters (kind : Event P → Bool) (c d : Connection (Journal σ P) (Numbered P) H) : Prop :=
  ∃ added, d.engine.events = c.engine.events ++ added ∧ ∀ event ∈ added, kind event

lemma enters_of_eq (h : d.engine.events = c.engine.events) : Enters kind c d :=
  ⟨[], by rw [h, List.append_nil], fun _ hmem => absurd hmem List.not_mem_nil⟩

lemma enters_singleton (event : Event P) (hkind : kind event)
    (h : d.engine.events = c.engine.events ++ [event]) : Enters kind c d := by
  refine ⟨[event], h, fun other hmem => ?_⟩
  rwa [List.mem_singleton.mp hmem]

lemma Enters.trans (h : Enters kind c d) (h' : Enters kind d e) : Enters kind c e := by
  obtain ⟨added, hevents, hkind⟩ := h
  obtain ⟨more, hmore, hkind'⟩ := h'
  refine ⟨added ++ more, by rw [hmore, hevents, List.append_assoc], fun event hmem => ?_⟩
  exact (List.mem_append.mp hmem).elim (hkind event) (hkind' event)

lemma Enters.mono {kind' : Event P → Bool} (h : Enters kind c d)
    (hkind : ∀ event, kind event → kind' event) : Enters kind' c d := by
  obtain ⟨added, hevents, hadded⟩ := h
  exact ⟨added, hevents, fun event hmem => hkind event (hadded event hmem)⟩

/-- The last call failed, and nothing before it. -/
structure FailsAt (event : Event P) (c d : Connection (Journal σ P) (Numbered P) H) : Prop where
  calm : ∃ before, d.engine.events = c.engine.events ++ before ++ [event] ∧
    ∀ other ∈ before, other.isCalm
  bound : d.bound = event.left?

/-- A fault was raised by the last call, or it is not fatal and no call failed. No processor was
reset. -/
def Fails (c : Connection (Journal σ P) (Numbered P) H) (fault : Fault)
    (d : Connection (Journal σ P) (Numbered P) H) : Prop :=
  (fault.isFatal = false ∧ Enters Event.isCalm c d) ∨
    ∃ event, event.fault? = some fault ∧ event.isReset = false ∧ FailsAt event c d

/-- A fault was raised by the reset of the bound processor, which was left. -/
def FailsAtReset (c : Connection (Journal σ P) (Numbered P) H) (fault : Fault)
    (d : Connection (Journal σ P) (Numbered P) H) : Prop :=
  ∃ p, c.bound = some p ∧ d.bound = none ∧
    d.engine.events = c.engine.events ++ [.called p .reset (.failed fault)]

variable {fault : Fault}

lemma Enters.fails (h : Enters Event.isCalm c d) (h' : Fails d fault e) : Fails c fault e := by
  rcases h' with ⟨hfault, hcalm⟩ | ⟨event, hfault, hreset, ⟨before, hevents, hcalm⟩, hbound⟩
  · exact Or.inl ⟨hfault, h.trans hcalm⟩
  · obtain ⟨added, hadded, hbefore⟩ := h
    refine Or.inr ⟨event, hfault, hreset, ⟨added ++ before, ?_, fun other hmem => ?_⟩, hbound⟩
    · rw [hevents, hadded, List.append_assoc c.engine.events]
    · exact (List.mem_append.mp hmem).elim (hbefore other) (hcalm other)

/-- A call that fails is entered last. -/
lemma fails_of_last (event : Event P) (hfault : event.fault? = some fault)
    (hreset : event.isReset = false) (hevents : d.engine.events = c.engine.events ++ [event])
    (hbound : d.bound = event.left?) : Fails c fault d := by
  have hbefore : ∀ other ∈ ([] : List (Event P)), other.isCalm :=
    fun _ hmem => absurd hmem List.not_mem_nil
  refine Or.inr ⟨event, hfault, hreset, ⟨[], ?_, hbefore⟩, hbound⟩
  rw [hevents, List.append_nil]

/-- An action enters calls, up to one that fails. -/
def Traces (act : Action (Journal σ P) (Numbered P) H α) : Prop :=
  ∀ c, wp act (fun _ d => Enters Event.isCalm c d) (Fails c) c

namespace Traces

lemma pure (a : α) : Traces (pure a : Action (Journal σ P) (Numbered P) H α) :=
  fun _ => enters_of_eq rfl

lemma dismiss : Traces (modify dismiss : Action (Journal σ P) (Numbered P) H Unit) :=
  fun _ => enters_of_eq rfl

lemma bind {act : Action (Journal σ P) (Numbered P) H α}
    {next : α → Action (Journal σ P) (Numbered P) H β} (first : Traces act)
    (rest : ∀ a, Traces (next a)) : Traces (act >>= next) := by
  intro c
  rw [wp_bind]
  refine wp_mono (first c) ?_ (fun _ _ h => h)
  intro a d hcalm
  exact wp_mono (rest a d) (fun _ _ h => hcalm.trans h) (fun _ _ h => hcalm.fails h)

/-- A pending notice is raised. -/
lemma fails_of_notice {status : Status} (h : d.engine.events = c.engine.events) :
    Fails c (.transactionTerminated status) d :=
  Or.inl ⟨rfl, enters_of_eq h⟩

/-- A call of work is entered with what came of it. -/
lemma call (E : Engine σ P ρ) {act : Option (Numbered P) → EStateM Fault (Journal σ P) α}
    (hact : E.journaled.Asks act) :
    Traces (Connection.call act : Action (Journal σ P) (Numbered P) H α) := by
  intro c
  have hcalled (p : Numbered P) (hp : c.bound = some p) (call : Call)
      (hcall : (Event.called p call .done).isCalm)
      (hleft : ∀ fault, (Event.called p call (.failed fault)).left? = some p)
      (hreset : ∀ fault, (Event.called p call (.failed fault)).isReset = false)
      (work : EStateM Fault σ α) :
      wp (Journal.call p call work) (fun _ engine => Enters Event.isCalm c { c with engine })
        (fun fault engine => Fails c fault { c with engine }) c.engine := by
    refine (wp_journalCall _ _ _).mpr (Meets.always ?_ ?_ _)
    · intro _ state
      exact enters_singleton _ hcall rfl
    · intro fault state
      exact fails_of_last (.called p call (.failed fault)) rfl (hreset fault) rfl
        (hp.trans (hleft fault).symm)
  -- a pending notice is raised without a call, and without a processor there is none to call
  rcases Option.eq_none_or_eq_some c.notice with hnotice | ⟨status, hnotice⟩
  · rcases Option.eq_none_or_eq_some c.bound with hp | ⟨p, hp⟩
    · rw [wp_call_of_bound hnotice hp]
      cases hact with
      | database => exact enters_of_eq rfl
      | isStreaming => exact enters_of_eq rfl
      | _ => exact Or.inl ⟨rfl, enters_of_eq rfl⟩
    · rw [wp_call_of_bound hnotice hp]
      cases hact with
      | database => exact enters_of_eq rfl
      | isStreaming => exact enters_of_eq rfl
      | begin options => exact hcalled p hp (.begin options) rfl (fun _ => rfl) (fun _ => rfl) _
      | run query parameters options =>
        exact hcalled p hp (.run query parameters options) rfl (fun _ => rfl) (fun _ => rfl) _
      | commit => exact hcalled p hp .commit rfl (fun _ => rfl) (fun _ => rfl) _
      | rollback => exact hcalled p hp .rollback rfl (fun _ => rfl) (fun _ => rfl) _
  · rw [wp_call_of_notice hnotice]
    exact fails_of_notice rfl

lemma becomeIdle : Traces (Phase.becomeIdle : Action (Journal σ P) (Numbered P) H Phase) :=
  bind dismiss fun _ => pure _

lemma endTransactionStatement (E : Engine σ P ρ) :
    Traces (Phase.endTransactionStatement E.journaled :
      Action (Journal σ P) (Numbered P) H Phase) := by
  refine bind (call E .isStreaming) fun streaming => ?_
  cases streaming with
  | true => exact pure _
  | false => exact pure _

variable [Sink H]

lemma report (r : Report) :
    Traces (Phase.report r : Action (Journal σ P) (Numbered P) H Unit) :=
  fun _ => enters_of_eq rfl

lemma mention? [ToValue α] (key : String) (value : Option α) :
    Traces (Phase.mention? key value : Action (Journal σ P) (Numbered P) H Unit) := by
  cases value with
  | none => exact pure ()
  | some value => exact report _

/-- A batch is entered with what came of it. -/
lemma stream [RecordSource ρ] (E : Engine σ P ρ) (number : Int64) (mode : BatchMode)
    (size : Int64) :
    Traces (Connection.stream E.journaled number mode size :
      Action (Journal σ P) (Numbered P) H BatchEnd) := by
  intro c
  rcases Option.eq_none_or_eq_some c.notice with hnotice | ⟨status, hnotice⟩
  · rcases Option.eq_none_or_eq_some c.bound with hp | ⟨p, hp⟩
    · rw [wp_stream_of_bound hnotice hp]
      exact Or.inl ⟨rfl, enters_of_eq rfl⟩
    · rw [wp_stream_of_bound hnotice hp]
      refine (meets_journalStream _ _ _ _ _ _).mpr (Meets.always ?_ ?_ _)
      · intro outcome state
        exact enters_singleton _ rfl rfl
      · intro fault state
        exact fails_of_last (.called p (.stream number mode size) (.failed fault)) rfl rfl rfl hp
  · rw [wp_stream_of_notice hnotice]
    exact fails_of_notice rfl

lemma describe (info : StatementInfo) :
    Traces (Phase.describe info : Action (Journal σ P) (Numbered P) H Unit) :=
  bind (report _) fun _ => report _

lemma runInTransaction (E : Engine σ P ρ) (run : Run) :
    Traces (Phase.runInTransaction E.journaled run :
      Action (Journal σ P) (Numbered P) H Phase) :=
  bind (call E (.run _ _ _)) fun info => bind (describe info) fun _ =>
    bind (report _) fun _ => pure _

lemma endStatement (E : Engine σ P ρ) (bookmark : Option String) :
    Traces (Phase.endStatement E.journaled bookmark :
      Action (Journal σ P) (Numbered P) H Phase) :=
  bind (mention? _ _) fun _ => bind (call E .database) fun _ =>
    bind (mention? _ _) fun _ => becomeIdle

/-! ### The rows of the table -/

omit [Sink H] in
lemma refuse (phase : Phase) (request : Request) :
    Traces (Phase.refuse phase request : Action (Journal σ P) (Numbered P) H Phase) :=
  fun _ => Or.inl ⟨rfl, enters_of_eq rfl⟩

lemma answerStreaming [RecordSource ρ] (E : Engine σ P ρ) (request : Request) :
    Traces (Phase.answerStreaming E.journaled request :
      Action (Journal σ P) (Numbered P) H Phase) := by
  cases request with
  | stream mode batch =>
    refine bind (stream E _ _ _) fun outcome => ?_
    split
    · exact bind (report _) fun _ => pure _
    · exact endStatement E _
  | _ => exact refuse _ _

lemma answerTransactionReady (E : Engine σ P ρ) (request : Request) :
    Traces (Phase.answerTransactionReady E.journaled request :
      Action (Journal σ P) (Numbered P) H Phase) := by
  cases request with
  | run run => exact runInTransaction E run
  | commit => exact bind (call E .commit) fun _ => bind (report _) fun _ => becomeIdle
  | rollback => exact bind (call E .rollback) fun _ => becomeIdle
  | _ => exact refuse _ _

lemma answerTransactionStreaming [RecordSource ρ] (E : Engine σ P ρ) (request : Request) :
    Traces (Phase.answerTransactionStreaming E.journaled request :
      Action (Journal σ P) (Numbered P) H Phase) := by
  cases request with
  | run run => exact runInTransaction E run
  | stream mode batch =>
    refine bind (stream E _ _ _) fun outcome => ?_
    split
    · exact bind (report _) fun _ => pure _
    · exact endTransactionStatement E
  | _ => exact refuse _ _

end Traces

section
variable [Sink H]

omit [Sink H] in
/-- A processor that cannot be provided is not bound. -/
lemma wp_provideFor_fails (self : Identity) (extra : Extra) (hidle : c.bound = none) :
    wp (Phase.provideFor E.journaled self extra) (fun _ d => Enters Event.isCalm c d) (Fails c)
      c := by
  refine (wp_provideFor E self extra).mpr (Meets.always ?_ ?_ _)
  · intro processor state
    rw [wp_engage]
    split
    · exact enters_singleton _ rfl rfl
    · exact Or.inl ⟨rfl, enters_singleton _ rfl rfl⟩
  · intro fault state
    exact fails_of_last (.provided _ (.error fault)) rfl rfl rfl hidle

/-- In a session that is ready, what fails first is the provider. -/
lemma wp_answerReady_fails (self : Identity) (request : Request) (hidle : c.bound = none) :
    wp (Phase.answerReady E.journaled self request) (fun _ d => Enters Event.isCalm c d) (Fails c)
      c := by
  have hprovided (extra : Extra) {next : Unit → Action (Journal σ P) (Numbered P) H Phase}
      (hnext : ∀ a, Traces (next a)) :
      wp (Phase.provideFor E.journaled self extra >>= next)
        (fun _ d => Enters Event.isCalm c d) (Fails c) c := by
    rw [wp_bind]
    refine wp_mono (wp_provideFor_fails self extra hidle) ?_ (fun _ _ h => h)
    intro a d hcalm
    exact wp_mono (hnext a d) (fun _ _ h => hcalm.trans h) (fun _ _ h => hcalm.fails h)
  cases request with
  | run run =>
    exact hprovided _ fun _ => .bind (.call E (.run _ _ _)) fun info =>
      .bind (.describe info) fun _ => .pure _
  | begin extra => exact hprovided _ fun _ => .bind (.call E (.begin _)) fun _ => .pure _
  | _ => exact Traces.refuse _ _ c

/-- A RESET that is due fails for a notice, or for the processor that it resets. -/
lemma wp_answerReset_fails (hdue : c.signals.interrupts ≠ 0) :
    wp (Phase.answerReset E.journaled) (fun _ d => Enters Event.succeeds c d)
      (fun fault d => (fault.isFatal = false ∧ Enters Event.isCalm c d) ∨ FailsAtReset c fault d)
      c := by
  unfold Phase.answerReset
  rw [wp_bind, wp_acknowledge]
  cases hleft : c.signals.interrupts with
  | zero => exact absurd hleft hdue
  | succ left =>
    dsimp only
    rw [wp_ite]
    -- the processor is given up for the last RESET of several only
    split
    · rw [wp_skip]
      exact enters_of_eq rfl
    · rw [wp_bind, wp_modify, wp_bind]
      rcases Option.eq_none_or_eq_some c.notice with hnotice | ⟨status, hnotice⟩
      · rcases Option.eq_none_or_eq_some c.bound with hp | ⟨p, hp⟩
        · rw [wp_giveUp_of_bound (by exact hnotice) (by exact hp)]
          exact enters_of_eq rfl
        · rw [wp_giveUp_of_bound (by exact hnotice) (by exact hp)]
          refine (wp_journalCall _ _ _).mpr (Meets.always ?_ ?_ _)
          · intro _ state
            exact enters_singleton _ rfl rfl
          · intro fault state
            exact Or.inr ⟨p, hp, rfl, rfl⟩
      · rw [wp_giveUp_of_notice (by exact hnotice)]
        exact Or.inl ⟨rfl, enters_of_eq rfl⟩

/-- How a request fails in a phase that has a use for it. -/
def FailsFor (request : Request) (c : Connection (Journal σ P) (Numbered P) H) (fault : Fault)
    (d : Connection (Journal σ P) (Numbered P) H) : Prop :=
  (Fails c fault d ∧ (request = .reset → fault.isFatal = false)) ∨
    request = .reset ∧ FailsAtReset c fault d

/-- A request that a phase has a use for is answered, or fails at a call. -/
theorem wp_answer_fails [RecordSource ρ] (self : Identity) {phase : Phase} {request : Request}
    (htakes : phase.takes request) (hgoodbye : request ≠ .goodbye)
    (hdue : request = .reset → c.signals.interrupts ≠ 0)
    (hidle : phase = .ready → c.bound = none) :
    wp (phase.answer E.journaled self request) (fun _ d => Enters Event.succeeds c d)
      (FailsFor request c) c := by
  by_cases hreset : request = .reset
  · subst hreset
    have hanswer := wp_answerReset_fails (E := E) (hdue rfl)
    unfold wp at hanswer ⊢
    rw [Phase.answer_of_reset _ self (Phase.ne_of_takes htakes)]
    refine hanswer.mono (fun _ _ h => h) ?_
    intro fault d h
    exact h.imp (fun h => ⟨Or.inl h, fun _ => h.1⟩) fun h => ⟨rfl, h⟩
  -- any other request stops at the first call that fails
  have htraced {act : Action (Journal σ P) (Numbered P) H Phase}
      (h : wp act (fun _ d => Enters Event.isCalm c d) (Fails c) c) :
      wp act (fun _ d => Enters Event.succeeds c d) (FailsFor request c) c :=
    wp_mono h (fun _ _ hcalm => hcalm.mono fun _ => Event.succeeds_of_isCalm)
      (fun _ _ h => Or.inl ⟨h, fun heq => absurd heq hreset⟩)
  rw [Phase.answer_of_ne _ _ _ hreset]
  cases phase with
  | connected =>
    cases request with
    | hello extra => exact enters_of_eq rfl
    | goodbye => exact absurd rfl hgoodbye
    | _ => cases htakes
  | defunct => cases request <;> first | exact absurd rfl hgoodbye | cases htakes
  | failed => exact enters_of_eq rfl
  | interrupted => exact enters_of_eq rfl
  | ready => exact htraced (wp_answerReady_fails self request (hidle rfl))
  | streaming => exact htraced (Traces.answerStreaming E request c)
  | transactionReady => exact htraced (Traces.answerTransactionReady E request c)
  | transactionStreaming => exact htraced (Traces.answerTransactionStreaming E request c)

end

/-! ### Resets -/

/-- How often a processor was reset does not depend on calm entries. -/
lemma resetCount_of_not_reset {added : List (Event P)} (number : Nat)
    (hevents : d.engine.events = c.engine.events ++ added)
    (hadded : ∀ event ∈ added, event.isReset = false) :
    resetCount (d.engine.entriesOf number) = resetCount (c.engine.entriesOf number) := by
  have hnone : resetCount (added.filterMap (Event.entry? number)) = 0 := by
    unfold resetCount
    rw [List.countP_eq_zero]
    intro entry hmem hreset
    obtain ⟨event, hevent, hentry⟩ := List.mem_filterMap.mp hmem
    have hcalm := hadded event hevent
    cases event with
    | provided database processor => cases hentry
    | called p call result =>
      obtain ⟨-, hsome⟩ := Option.ite_none_right_eq_some.mp hentry
      obtain rfl := Option.some.inj hsome
      cases call <;> first
        | exact absurd hreset Bool.false_ne_true
        | exact absurd hcalm.symm Bool.false_ne_true
  unfold Journal.entriesOf
  rw [hevents, List.filterMap_append]
  unfold resetCount at hnone ⊢
  rw [List.countP_append, hnone, Nat.add_zero]

/-- A reset is counted for the processor that it is made on. -/
lemma resetCount_of_reset {p : Numbered P} {result : CallResult}
    (hevents : d.engine.events = c.engine.events ++ [.called p .reset result]) :
    resetCount (d.engine.entriesOf p.number) = resetCount (c.engine.entriesOf p.number) + 1 := by
  have hentry : Event.entry? p.number (.called p .reset result) = some (.reset, result) :=
    if_pos rfl
  unfold Journal.entriesOf
  rw [hevents, List.filterMap_append, List.filterMap_cons_some hentry, List.filterMap_nil]
  unfold resetCount
  rw [List.countP_append]
  rfl

/-- The end resets the bound processor once. -/
lemma events_release {p : Numbered P} (hnotice : c.notice = none) (hp : c.bound = some p) :
    ∃ result, (c.release E.journaled).engine.events =
      c.engine.events ++ [.called p .reset result] := by
  have hentered : E.journaled.orIdle.reset (some p) c.engine =
      c.engine.enter p .reset (fun _ _ => .done) (E.reset p.processor c.engine.state) := rfl
  rw [release_of_bound hnotice hp, hentered]
  cases E.reset p.processor c.engine.state with
  | ok _ state => exact ⟨_, rfl⟩
  | error fault state => exact ⟨_, rfl⟩

/-- Without a processor nothing is reset at the end. -/
lemma engine_release_of_idle {E : Engine σ P ρ} {c : Connection σ P H} (hp : c.bound = none) :
    (c.release E).engine = c.engine := by
  rcases Option.eq_none_or_eq_some c.notice with hnotice | ⟨status, hnotice⟩
  · rw [release_of_bound hnotice hp]
    rfl
  · rw [release_of_notice hnotice]

end Connection

end QuerySession
