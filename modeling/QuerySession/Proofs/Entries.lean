import QuerySession.Proofs.Answers
import QuerySession.Proofs.CallProtocol
import QuerySession.Proofs.History

/-!
# What a request enters in the journal

Whatever is done with a connection, its journal is only ever continued. While a request is
performed no transaction is found torn down, since nobody asks; so no notice comes up either. And
where a fault comes from can be read off the journal: the engine raised it in one of the new
entries, unless it is the table's own, or that of a notice.

* `Connection.validate_cases`: the one step at which a notice comes up;
* `Connection.release_cases`, `Connection.abort_cases`: what else is entered before a request is
  performed, and at the end;
* `Connection.Adds`: a journal was continued by some entries;
* `Connection.steps_adds`, `Session.settle_adds`: what a request adds;
* `Session.rests_accept`: that no work is asked for before a request is performed.
-/

namespace QuerySession

variable {σ P ρ H α : Type}

namespace Event

/-- The transaction of a processor was found torn down. -/
def isReport : Event P → Bool
  | .called _ .validate (.terminated _) => true
  | _ => false

/-- Work is asked for, or a processor for it. -/
def isWork : Event P → Bool
  | .provided .. => true
  | .called _ call _ => call.isWork

/-- The fault that the engine raised. -/
def fault? : Event P → Option Fault
  | .provided _ (.error fault) => some fault
  | .called _ _ (.failed fault) => some fault
  | _ => none

lemma isReport_done (p : Numbered P) (call : Call) : (called p call .done).isReport = false := by
  cases call <;> rfl

lemma isReport_failed (p : Numbered P) (call : Call) (fault : Fault) :
    (called p call (.failed fault)).isReport = false := by
  cases call <;> rfl

end Event

namespace Connection

variable {E : Engine σ P ρ} {c d e : Connection (Journal σ P) (Numbered P) H}
  {added more : List (Event P)}

/-! ## The question whether a transaction is alive -/

/-- Only a bound processor is asked, and only while no notice is pending. If its transaction was
torn down it is dropped for a notice. -/
theorem validate_cases (E : Engine σ P ρ) (c : Connection (Journal σ P) (Numbered P) H) :
    ((c.notice ≠ none ∨ c.bound = none) ∧ c.validate E.journaled = c) ∨
    (∃ p state, c.notice = none ∧ c.bound = some p ∧
      c.validate E.journaled =
        { c with engine := c.engine.record (.called p .validate .done) state }) ∨
    ∃ p status state, c.notice = none ∧ c.bound = some p ∧
      c.validate E.journaled =
        { c with
          engine := c.engine.record (.called p .validate (.terminated status)) state
          bound := none
          notice := some status } := by
  rcases Option.eq_none_or_eq_some c.notice with hnotice | ⟨status, hnotice⟩
  · rcases Option.eq_none_or_eq_some c.bound with hbound | ⟨p, hbound⟩
    · exact Or.inl ⟨Or.inr hbound, validate_of_bound hnotice hbound⟩
    · right
      have hvalidate := validate_of_bound (E := E.journaled) hnotice hbound
      have hasked : E.journaled.orIdle.validate (some p) c.engine =
          ((E.validate p.processor c.engine.state).1,
            c.engine.record
              (.called p .validate
                ((E.validate p.processor c.engine.state).1.elim .done .terminated))
              (E.validate p.processor c.engine.state).2) := rfl
      rw [hasked] at hvalidate
      generalize E.validate p.processor c.engine.state = found at hvalidate
      obtain ⟨status, state⟩ := found
      cases status with
      | none => exact Or.inl ⟨p, state, hnotice, hbound, hvalidate⟩
      | some status => exact Or.inr ⟨p, status, state, hnotice, hbound, hvalidate⟩
  · have hpending : c.notice ≠ none := by
      rw [hnotice]
      exact Option.some_ne_none status
    exact Or.inl ⟨Or.inl hpending, validate_of_notice hnotice⟩

/-! ## Giving up, and the word to stop -/

/-- The end resets the bound processor, unless a notice is pending. No notice is left. -/
theorem release_cases (E : Engine σ P ρ) (c : Connection (Journal σ P) (Numbered P) H) :
    (c.release E.journaled).notice = none ∧
      ((c.release E.journaled).engine = c.engine ∨
        ∃ p result state, (result = .done ∨ ∃ fault, result = .failed fault) ∧
          (c.release E.journaled).engine = c.engine.record (.called p .reset result) state) := by
  rcases Option.eq_none_or_eq_some c.notice with hnotice | ⟨status, hnotice⟩
  · rw [release_of_bound hnotice rfl]
    refine ⟨hnotice, ?_⟩
    cases c.bound with
    | none => exact Or.inl rfl
    | some p =>
      right
      have hentered : E.journaled.orIdle.reset (some p) c.engine =
          c.engine.enter p .reset (fun _ _ => .done) (E.reset p.processor c.engine.state) := rfl
      rw [hentered]
      cases E.reset p.processor c.engine.state with
      | ok _ state => exact ⟨p, .done, state, Or.inl rfl, rfl⟩
      | error fault state => exact ⟨p, .failed fault, state, Or.inr ⟨fault, rfl⟩, rfl⟩
  · rw [release_of_notice hnotice]
    exact ⟨rfl, Or.inl rfl⟩

/-- The word to stop reaches a bound processor, unless a notice is pending. -/
theorem abort_cases (E : Engine σ P ρ) (c : Connection (Journal σ P) (Numbered P) H) :
    (c.abort E.journaled).notice = c.notice ∧
      ((c.abort E.journaled).engine = c.engine ∨
        ∃ p state, (c.abort E.journaled).engine =
          c.engine.record (.called p .abort .done) state) := by
  rcases Option.eq_none_or_eq_some c.notice with hnotice | ⟨status, hnotice⟩
  · rw [abort_of_bound hnotice rfl]
    refine ⟨rfl, ?_⟩
    cases c.bound with
    | none => exact Or.inl rfl
    | some p => exact Or.inr ⟨p, _, rfl⟩
  · rw [abort_of_notice hnotice]
    exact ⟨rfl, Or.inl rfl⟩

/-! ## Entries that a request adds -/

/-- A journal was continued by some entries, none of which reports the loss of a transaction, and no
notice came up. -/
structure Adds (added : List (Event P)) (c d : Connection (Journal σ P) (Numbered P) H) : Prop where
  events : d.engine.events = c.engine.events ++ added
  unreported : ∀ event ∈ added, event.isReport = false
  notice_of : ∀ status, d.notice = some status → c.notice = some status

lemma Adds.of_engine_eq (hengine : d.engine = c.engine)
    (hnotice : ∀ status, d.notice = some status → c.notice = some status) : Adds [] c d where
  events := by rw [hengine, List.append_nil]
  unreported _ hmem := absurd hmem List.not_mem_nil
  notice_of := hnotice

lemma Adds.refl (c : Connection (Journal σ P) (Numbered P) H) : Adds [] c c :=
  .of_engine_eq rfl fun _ h => h

lemma Adds.trans (h : Adds added c d) (h' : Adds more d e) : Adds (added ++ more) c e where
  events := by rw [h'.events, h.events, List.append_assoc]
  unreported event hmem := (List.mem_append.mp hmem).elim (h.unreported event) (h'.unreported event)
  notice_of status hstatus := h.notice_of status (h'.notice_of status hstatus)

lemma Adds.record {event : Event P} (hevent : event.isReport = false)
    (hevents : d.engine.events = c.engine.events ++ [event]) (hnotice : d.notice = c.notice) :
    Adds [event] c d where
  events := hevents
  unreported other hmem := by rwa [List.mem_singleton.mp hmem]
  notice_of status hstatus := by rwa [← hnotice]

/-- Where a fault comes from. -/
inductive Source (undue : Prop) (c : Connection (Journal σ P) (Numbered P) H)
    (added : List (Event P)) : Fault → Prop
  | refusal {fault : Fault} (h : fault.isRefusal) : Source undue c added fault
  /-- No processor is bound. -/
  | unbound : Source undue c added .noProcessor
  /-- RESET came without an interrupt. -/
  | undue (h : undue) : Source undue c added .counterUnderflow
  | notice {status : Status} (h : c.notice = some status) :
    Source undue c added (.transactionTerminated status)
  /-- The engine raised it. -/
  | engine {fault : Fault} {event : Event P} (hmem : event ∈ added)
    (h : event.fault? = some fault) : Source undue c added fault

variable {undue : Prop} {fault : Fault}

lemma Source.after (h : Adds added c d) (hsource : Source undue d more fault) :
    Source undue c (added ++ more) fault := by
  cases hsource with
  | refusal hrefusal => exact .refusal hrefusal
  | unbound => exact .unbound
  | undue hundue => exact .undue hundue
  | notice hnotice => exact .notice (h.notice_of _ hnotice)
  | engine hmem hfault => exact .engine (List.mem_append_right _ hmem) hfault

lemma Source.append (hsource : Source undue c added fault) (more : List (Event P)) :
    Source undue c (added ++ more) fault := by
  cases hsource with
  | refusal hrefusal => exact .refusal hrefusal
  | unbound => exact .unbound
  | undue hundue => exact .undue hundue
  | notice hnotice => exact .notice hnotice
  | engine hmem hfault => exact .engine (List.mem_append_left _ hmem) hfault

/-- A step leads to a connection with more entries. -/
def Continues (c d : Connection (Journal σ P) (Numbered P) H) : Prop := ∃ added, Adds added c d

/-- A step raises a fault whose source is known. -/
def Breaks (undue : Prop) (c : Connection (Journal σ P) (Numbered P) H) (fault : Fault)
    (d : Connection (Journal σ P) (Numbered P) H) : Prop :=
  ∃ added, Adds added c d ∧ Source undue c added fault

/-- A call is entered, and so is the fault that it raised. -/
lemma wp_call_adds (p : Numbered P) (call : Call) (act : EStateM Fault σ α)
    (c : Connection (Journal σ P) (Numbered P) H) :
    wp (Journal.call p call act) (fun _ engine => Continues c { c with engine })
      (fun fault engine => Breaks undue c fault { c with engine }) c.engine := by
  refine (wp_journalCall _ _ _).mpr (Meets.always ?_ ?_ _)
  · intro _ state
    exact ⟨_, .record (Event.isReport_done p call) rfl rfl⟩
  · intro fault state
    exact ⟨_, .record (Event.isReport_failed p call fault) rfl rfl,
      .engine List.mem_cons_self rfl⟩

lemma wp_asks_adds {act : Option (Numbered P) → EStateM Fault (Journal σ P) α}
    (hact : E.journaled.Asks act) (p : Option (Numbered P))
    (c : Connection (Journal σ P) (Numbered P) H) :
    wp (act p) (fun _ engine => Continues c { c with engine })
      (fun fault engine => Breaks undue c fault { c with engine }) c.engine := by
  have hunbound : Breaks undue c .noProcessor c := ⟨[], .refl c, .unbound⟩
  cases hact with
  | database => exact ⟨[], .refl c⟩
  | isStreaming => exact ⟨[], .refl c⟩
  | _ =>
    cases p with
    | none => exact hunbound
    | some p => exact wp_call_adds p _ _ c

/-- A pending notice is raised. -/
lemma breaks_of_notice {status : Status} (hnotice : c.notice = some status)
    (hengine : d.engine = c.engine) (hgone : d.notice = none) :
    Breaks undue c (.transactionTerminated status) d := by
  refine ⟨[], .of_engine_eq hengine ?_, .notice hnotice⟩
  intro other hother
  rw [hgone] at hother
  cases hother

lemma Continues.trans (h : Continues c d) (h' : Continues d e) : Continues c e := by
  obtain ⟨added, hadds⟩ := h
  obtain ⟨more, hmore⟩ := h'
  exact ⟨added ++ more, hadds.trans hmore⟩

lemma Continues.breaks (h : Continues c d) (h' : Breaks undue d fault e) :
    Breaks undue c fault e := by
  obtain ⟨added, hadds⟩ := h
  obtain ⟨more, hmore, hsource⟩ := h'
  exact ⟨added ++ more, hadds.trans hmore, hsource.after hadds⟩

lemma Breaks.continues (h : Breaks undue c fault d) (h' : Continues d e) :
    Breaks undue c fault e := by
  obtain ⟨added, hadds, hsource⟩ := h
  obtain ⟨more, hmore⟩ := h'
  exact ⟨added ++ more, hadds.trans hmore, hsource.append more⟩

/-- What leaves the engine and the notice alone enters nothing. -/
lemma continues_of_eq (hengine : d.engine = c.engine) (hnotice : d.notice = c.notice) :
    Continues c d := by
  refine ⟨[], .of_engine_eq hengine ?_⟩
  rw [hnotice]
  exact fun _ h => h

lemma wp_reset_adds (undue : Prop) (p : Option (Numbered P))
    (c : Connection (Journal σ P) (Numbered P) H) :
    wp (E.journaled.orIdle.reset p) (fun _ engine => Continues c { c with engine })
      (fun fault engine => Breaks undue c fault { c with engine }) c.engine := by
  cases p with
  | none => exact ⟨[], .refl c⟩
  | some p => exact wp_call_adds p .reset _ c

lemma meets_stream_adds [RecordSource ρ] [Sink H] (p : Option (Numbered P)) (number : Int64)
    (mode : BatchMode) (size : Int64) (relay : Relay H)
    (c : Connection (Journal σ P) (Numbered P) H) :
    Meets (fun _ engine => Continues c { c with engine, relay })
      (fun fault engine => Breaks undue c fault { c with engine, relay })
      ((E.journaled.orIdle.stream p number mode size c.engine).play c.relay).1 := by
  cases p with
  | none => exact ⟨[], .of_engine_eq rfl fun _ h => h, .unbound⟩
  | some p =>
    refine (meets_journalStream _ _ _ _ _ _).mpr (Meets.always ?_ ?_ _)
    · intro outcome state
      exact ⟨_, .record rfl rfl rfl⟩
    · intro fault state
      exact ⟨_, .record rfl rfl rfl, .engine List.mem_cons_self rfl⟩

/-- Every step of the table only adds entries. -/
theorem steps_adds [RecordSource ρ] [Sink H] (E : Engine σ P ρ) (undue : Prop) :
    Steps E.journaled (Continues (H := H)) (Breaks undue) where
  refl _ := continues_of_eq rfl rfl
  trans h h' := h.trans h'
  raise h h' := h.breaks h'
  refuse c h := ⟨[], .refl c, .refusal h⟩
  mention _ _ _ := continues_of_eq rfl rfl
  dismiss _ := continues_of_eq rfl rfl
  ignore _ := continues_of_eq rfl rfl
  forget _ := continues_of_eq rfl rfl
  acknowledge _ _ := continues_of_eq rfl rfl
  call c hact := by
    rw [wp_call]
    split
    · exact wp_asks_adds hact _ c
    · rename_i hnotice
      exact breaks_of_notice hnotice rfl rfl
  provideFor self extra c := by
    refine (wp_provideFor E self extra).mpr (Meets.always ?_ ?_ _)
    · intro processor state
      have hprovided : Continues c { c with
          engine := c.engine.withProvided (extra.database?.getD self.defaultDatabase) processor
            state } := ⟨_, .record rfl rfl rfl⟩
      rw [wp_engage]
      split
      · exact hprovided.trans (continues_of_eq rfl rfl)
      · rename_i hnotice
        exact hprovided.breaks (breaks_of_notice hnotice rfl rfl)
    · intro fault state
      exact ⟨_, .record rfl rfl rfl, .engine List.mem_cons_self rfl⟩
  giveUp c := by
    rw [wp_giveUp]
    split
    · refine wp_mono (wp_reset_adds undue _ c) ?_ ?_
      · intro _ engine hreset
        exact hreset.trans (continues_of_eq rfl rfl)
      · intro fault engine hreset
        exact hreset.continues (continues_of_eq rfl rfl)
    · rename_i hnotice
      exact breaks_of_notice hnotice rfl rfl
  stream number mode size c := by
    rw [wp_stream]
    split
    · exact meets_stream_adds _ number mode size _ c
    · rename_i hnotice
      exact breaks_of_notice hnotice rfl rfl

/-- The end enters a reset at most. -/
lemma continues_release (E : Engine σ P ρ) (c : Connection (Journal σ P) (Numbered P) H) :
    Continues c (c.release E.journaled) := by
  obtain ⟨hgone, hentered⟩ := release_cases E c
  have hnotice : ∀ status, (c.release E.journaled).notice = some status →
      c.notice = some status := by
    intro status hstatus
    rw [hgone] at hstatus
    cases hstatus
  rcases hentered with hengine | ⟨p, result, state, hresult, hengine⟩
  · exact ⟨[], .of_engine_eq hengine hnotice⟩
  · refine ⟨_, by rw [hengine, Journal.events_record], fun event hmem => ?_, hnotice⟩
    rw [List.mem_singleton.mp hmem]
    rcases hresult with rfl | ⟨fault, rfl⟩
    · exact Event.isReport_done p .reset
    · exact Event.isReport_failed p .reset fault

/-- The word to stop is entered if it reaches a processor. -/
lemma continues_abort (E : Engine σ P ρ) (c : Connection (Journal σ P) (Numbered P) H) :
    Continues c (c.abort E.journaled) := by
  obtain ⟨hnotice, hengine | ⟨p, state, hengine⟩⟩ := abort_cases E c
  · exact continues_of_eq hengine hnotice
  · refine ⟨_, .record (Event.isReport_done p .abort) ?_ hnotice⟩
    rw [hengine, Journal.events_record]

/-! ## Steps that ask for no work -/

/-- A journal was continued, and not by a call that asks for work. -/
def Rests (c d : Connection (Journal σ P) (Numbered P) H) : Prop :=
  ∃ added, d.engine.events = c.engine.events ++ added ∧ ∀ event ∈ added, event.isWork = false

lemma rests_of_eq (hengine : d.engine = c.engine) : Rests c d :=
  ⟨[], by rw [hengine, List.append_nil], fun _ hmem => absurd hmem List.not_mem_nil⟩

lemma Rests.trans (h : Rests c d) (h' : Rests d e) : Rests c e := by
  obtain ⟨added, hevents, hrests⟩ := h
  obtain ⟨more, hmore, hrests'⟩ := h'
  refine ⟨added ++ more, by rw [hmore, hevents, List.append_assoc], fun event hmem => ?_⟩
  exact (List.mem_append.mp hmem).elim (hrests event) (hrests' event)

lemma rests_of_called {p : Numbered P} (call : Call) {result : CallResult}
    (hcall : call.isWork = false)
    (hevents : d.engine.events = c.engine.events ++ [.called p call result]) : Rests c d := by
  refine ⟨_, hevents, fun event hmem => ?_⟩
  rw [List.mem_singleton.mp hmem]
  exact hcall

lemma rests_release (E : Engine σ P ρ) (c : Connection (Journal σ P) (Numbered P) H) :
    Rests c (c.release E.journaled) := by
  obtain ⟨-, hengine | ⟨p, result, state, -, hengine⟩⟩ := release_cases E c
  · exact rests_of_eq hengine
  · exact rests_of_called .reset rfl (by rw [hengine, Journal.events_record])

lemma rests_abort (E : Engine σ P ρ) (c : Connection (Journal σ P) (Numbered P) H) :
    Rests c (c.abort E.journaled) := by
  obtain ⟨-, hengine | ⟨p, state, hengine⟩⟩ := abort_cases E c
  · exact rests_of_eq hengine
  · exact rests_of_called .abort rfl (by rw [hengine, Journal.events_record])

lemma rests_validate (E : Engine σ P ρ) (c : Connection (Journal σ P) (Numbered P) H) :
    Rests c (c.validate E.journaled) := by
  rcases validate_cases E c with ⟨-, heq⟩ | ⟨p, state, -, -, heq⟩ | ⟨p, status, state, -, -, heq⟩
  · rw [heq]
    exact rests_of_eq rfl
  · rw [heq]
    exact rests_of_called .validate rfl rfl
  · rw [heq]
    exact rests_of_called .validate rfl rfl

end Connection

/-! ## A request -/

namespace Session

variable [Sink H] {E : Engine σ P ρ} {s : Session (Journal σ P) (Numbered P) H}

open Connection

/-- A fault that fails the session stays what it was. -/
lemma continues_fail (fault : Fault) :
    Meets (fun _ d => Continues s.connection d.connection)
      (fun fault' d => fault' = fault ∧ Continues s.connection d.connection)
      (fail E.journaled fault s) := by
  unfold fail
  dsimp only
  split
  · have htold : Continues s.connection (s.connection.tell (.failed (.ofFault fault))) :=
      continues_of_eq rfl rfl
    exact ⟨rfl, htold.trans ((continues_release E _).trans (continues_of_eq rfl rfl))⟩
  · exact continues_of_eq rfl rfl

variable [RecordSource ρ]

/-- A RESET that finds no interrupt. -/
def IsUndue (request : Request) (s : Session (Journal σ P) (Numbered P) H) : Prop :=
  request = .reset ∧ s.connection.signals.interrupts = 0

/-- What the table answers to a request only adds entries. -/
lemma wp_answer_adds (request : Request) :
    wp (s.phase.answer E.journaled s.self request) (fun _ => Continues s.connection)
      (Breaks (s.IsUndue request) s.connection) s.connection := by
  refine (steps_adds E _).answer s.self s.phase request s.connection fun hreset => ?_
  by_cases hdue : s.connection.signals.interrupts = 0
  · exact Or.inr ⟨[], .refl _, .undue ⟨hreset, hdue⟩⟩
  · exact Or.inl hdue

/-- A request that is performed only adds entries. -/
theorem wp_perform_adds (request : Request) :
    wp (perform E.journaled request) (fun _ d => Continues s.connection d.connection)
      (fun fault d => Breaks (s.IsUndue request) s.connection fault d.connection) s := by
  refine wp_perform ⟨[], .refl _⟩ fun _ => ?_
  by_cases hgoodbye : request = .goodbye
  · subst hgoodbye
    exact (continues_release E s.connection).trans (continues_of_eq rfl rfl)
  refine wp_dispatch_of_ne hgoodbye (wp_mono (wp_answer_adds request) (fun _ _ h => h) ?_)
  intro fault d hbreaks
  refine (continues_fail fault).mono ?_ ?_
  · intro _ e hcontinues
    obtain ⟨added, hadds, -⟩ := hbreaks
    exact Continues.trans ⟨added, hadds⟩ hcontinues
  · rintro fault e ⟨rfl, hcontinues⟩
    exact hbreaks.continues hcontinues

/-- A request adds entries to the journal once it is accepted. A fault that ends the session comes
from one of them, or from the request itself. -/
theorem settle_adds (request : Request) :
    ∃ added, Adds added s.connection (settle (perform E.journaled request s)).session.connection ∧
      ∀ fault, (settle (perform E.journaled request s)).outcome = .error fault →
        Source (s.IsUndue request) s.connection added fault := by
  have hperform := wp_perform_adds (E := E) (s := s) request
  unfold wp at hperform
  cases hresult : perform E.journaled request s with
  | ok _ d =>
    rw [hresult] at hperform
    obtain ⟨added, hadds⟩ := hperform
    refine ⟨added, ?_, nofun⟩
    show Adds added s.connection (d.conclude _).2.connection
    rw [connection_conclude]
    exact ⟨hadds.events, hadds.unreported, hadds.notice_of⟩
  | error fault d =>
    rw [hresult] at hperform
    obtain ⟨added, hadds, hsource⟩ := hperform
    refine ⟨added, ?_, ?_⟩
    · show Adds added s.connection (d.conclude true).2.connection
      rw [connection_conclude]
      exact ⟨hadds.events, hadds.unreported, hadds.notice_of⟩
    · rintro fault' heq
      cases heq
      exact hsource

omit [Sink H] [RecordSource ρ] in
/-- Before a request is performed no work is asked for. -/
theorem rests_accept (handler : H) :
    Rests s.connection (s.accept E.journaled handler).connection := by
  have hheed : Rests s.connection (s.heedSignals E.journaled).connection := by
    rcases heedSignals_cases E.journaled s with ⟨-, -, heq⟩ | ⟨-, -, -, heq⟩ | ⟨-, -, heq⟩
    · rw [heq]
      exact (rests_release E s.connection).trans (rests_of_eq rfl)
    · rw [heq]
      exact rests_abort E s.connection
    · rw [heq]
      exact rests_of_eq rfl
  unfold accept
  dsimp only
  split
  · exact hheed.trans (rests_of_eq rfl)
  · exact (hheed.trans (rests_validate E _)).trans (rests_of_eq rfl)

end Session
end QuerySession
