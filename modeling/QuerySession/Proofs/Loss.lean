import QuerySession.Proofs.CallHistory
import QuerySession.Proofs.Entries
import QuerySession.Proofs.Notice

/-!
# A lost transaction is reported once

When a processor says that its transaction was torn down, the session drops it and keeps a notice.
The first request that would have reached the processor is answered with the notice and fails the
session; until then no request calls anything, and afterwards nothing is left of the loss.

* `Session.reveals_accept`: the one way in which a loss comes to light;
* `Journal.IsReadable.entriesOf_of_gone`: a processor that was lost is not called again;
* `Session.forgets_of_notice`: without a notice, no request fails for a loss that came to light
  before;
* `Session.Pending.after`: a notice stays pending until a request gets to the processor;
* `Session.loss_surfaces_once`: the rule.
-/

namespace QuerySession

variable {σ P ρ H : Type}

/-! ## A processor that was lost -/

namespace Journal

variable {i j : Journal σ P} {p : Numbered P} {number : Nat} {status : Status}

/-- A journal that ends with the loss of a processor has come to the end of its calls. -/
lemma IsReadable.follow_of_report (h : j.IsReadable) {before : List (Event P)}
    (hevents : j.events = before ++ [.called p .validate (.terminated status)]) :
    Progress.follow (j.entriesOf p.number) = some .gone := by
  have hentries : j.entriesOf p.number =
      before.filterMap (Event.entry? p.number) ++ [(.validate, .terminated status)] := by
    unfold entriesOf
    rw [hevents, List.filterMap_append]
    have hentry : Event.entry? p.number (.called p .validate (.terminated status)) =
        some (.validate, .terminated status) := if_pos rfl
    rw [List.filterMap_cons_some hentry, List.filterMap_nil]
  obtain ⟨progress, hfollow⟩ := h.follow p.number
  rw [hentries] at hfollow ⊢
  obtain ⟨first, second, -, hnext, hlast⟩ := Progress.follow_split hfollow
  obtain ⟨-, hmove⟩ := Progress.next_eq_some.mp hnext
  -- the report ends the calls, however far they had come
  have hgone : second = .gone := by
    rw [← hmove]
    cases first <;> rfl
  have hend : second = progress := Option.some.inj hlast
  rw [hfollow, ← hend, hgone]

/-- A processor whose calls have come to their end is not called again. -/
theorem IsReadable.entriesOf_of_gone (h : j.IsReadable) {more : List (Event P)}
    (hevents : j.events = i.events ++ more)
    (hgone : Progress.follow (i.entriesOf number) = some .gone) :
    j.entriesOf number = i.entriesOf number := by
  have hentries : j.entriesOf number =
      i.entriesOf number ++ more.filterMap (Event.entry? number) := by
    unfold entriesOf
    rw [hevents, List.filterMap_append]
  obtain ⟨progress, hfollow⟩ := h.follow number
  rw [hentries] at hfollow ⊢
  -- the protocol has no place for another call
  cases hmore : more.filterMap (Event.entry? number) with
  | nil => exact List.append_nil _
  | cons entry later =>
    rw [hmore] at hfollow
    obtain ⟨first, second, hfirst, hnext, -⟩ := Progress.follow_split hfollow
    obtain rfl : Progress.gone = first := Option.some.inj (hgone.symm.trans hfirst)
    obtain ⟨hallows, -⟩ := Progress.next_eq_some.mp hnext
    obtain ⟨call, result⟩ := entry
    cases call <;> cases hallows

end Journal

/-! ## How a loss comes to light -/

/-- The status with which the engine said that a transaction was lost. -/
def Event.loss? : Event P → Option Status
  | .called _ .validate (.terminated status) => some status
  | .called _ _ (.failed (.transactionTerminated status)) => some status
  | .provided _ (.error (.transactionTerminated status)) => some status
  | _ => none

lemma Event.loss?_of_fault? {event : Event P} {status : Status}
    (h : event.fault? = some (.transactionTerminated status)) : event.loss? = some status := by
  cases event with
  | provided database processor =>
    cases processor with
    | ok p => cases h
    | error fault =>
      obtain rfl : fault = _ := Option.some.inj h
      rfl
  | called p call result =>
    cases result with
    | failed fault =>
      obtain rfl : fault = _ := Option.some.inj h
      cases call <;> rfl
    | _ => cases h

namespace Connection

variable {p : Numbered P} {status : Status}
  {c d e : Connection (Journal σ P) (Numbered P) H}

/-- The bound processor reported the loss of its transaction. It was dropped for a notice. -/
structure Reveals (p : Numbered P) (status : Status)
    (c d : Connection (Journal σ P) (Numbered P) H) : Prop where
  bound : c.bound = some p
  dropped : d.bound = none
  notice : d.notice = some status
  events : ∃ added, (∀ event ∈ added, event.isReport = false) ∧
    d.engine.events = c.engine.events ++ (added ++ [.called p .validate (.terminated status)])

/-- A journal was continued. A notice that came up meanwhile goes back to a loss that was entered
meanwhile. -/
def Traced (c d : Connection (Journal σ P) (Numbered P) H) : Prop :=
  ∃ added, d.engine.events = c.engine.events ++ added ∧
    ∀ status, d.notice = some status →
      c.notice = some status ∨ ∃ event ∈ added, event.loss? = some status

lemma Continues.traced (h : Continues c d) : Traced c d := by
  obtain ⟨added, hadds⟩ := h
  exact ⟨added, hadds.events, fun status hnotice => Or.inl (hadds.notice_of status hnotice)⟩

lemma Reveals.traced (h : Reveals p status c d) : Traced c d := by
  obtain ⟨added, -, hevents⟩ := h.events
  refine ⟨_, hevents, fun other hother => Or.inr ?_⟩
  obtain rfl : status = other := Option.some.inj (h.notice.symm.trans hother)
  exact ⟨_, List.mem_append_right _ List.mem_cons_self, rfl⟩

lemma Traced.trans (h : Traced c d) (h' : Traced d e) : Traced c e := by
  obtain ⟨added, hevents, hnotice⟩ := h
  obtain ⟨more, hmore, hlater⟩ := h'
  refine ⟨added ++ more, by rw [hmore, hevents, List.append_assoc], fun status hstatus => ?_⟩
  rcases hlater status hstatus with hbefore | ⟨event, hmem, hloss⟩
  · rcases hnotice status hbefore with hfirst | ⟨event, hmem, hloss⟩
    · exact Or.inl hfirst
    · exact Or.inr ⟨event, List.mem_append_left _ hmem, hloss⟩
  · exact Or.inr ⟨event, List.mem_append_right _ hmem, hloss⟩

end Connection

namespace Session

open Connection

variable {E : Engine σ P ρ} {p : Numbered P} {status : Status}

section
variable {s : Session (Journal σ P) (Numbered P) H}

/-- The signals of a session report no loss. -/
lemma continues_heedSignals :
    Continues s.connection (s.heedSignals E.journaled).connection := by
  rcases heedSignals_cases E.journaled s with ⟨-, -, heq⟩ | ⟨-, -, -, heq⟩ | ⟨-, -, heq⟩
  · rw [heq]
    exact (continues_release E s.connection).trans (continues_of_eq rfl rfl)
  · rw [heq]
    exact continues_abort E s.connection
  · rw [heq]
    exact continues_of_eq rfl rfl

/-- A session that goes on keeps its processor when it heeds its signals. -/
lemma bound_heedSignals (hopen : (s.heedSignals E.journaled).isClosed = false) :
    (s.heedSignals E.journaled).connection.bound = s.connection.bound := by
  rcases heedSignals_cases E.journaled s with ⟨-, -, heq⟩ | ⟨-, -, -, heq⟩ | ⟨-, -, heq⟩
  · rw [heq] at hopen
    cases hopen
  · rw [heq]
    show (s.connection.abort E.journaled).bound = s.connection.bound
    rcases Option.eq_none_or_eq_some s.connection.notice with hnotice | ⟨status, hnotice⟩
    · rw [abort_of_bound hnotice rfl]
    · rw [abort_of_notice hnotice]
  · rw [heq]

/-- A loss comes to light when a request is accepted, and only in an open session. -/
theorem reveals_accept (E : Engine σ P ρ) (handler : H)
    (s : Session (Journal σ P) (Numbered P) H) :
    Continues s.connection (s.accept E.journaled handler).connection ∨
      ∃ p status, (s.accept E.journaled handler).isClosed = false ∧
        Reveals p status s.connection (s.accept E.journaled handler).connection := by
  have hheed : Continues s.connection (s.heedSignals E.journaled).connection :=
    continues_heedSignals
  have hkept : (s.heedSignals E.journaled).isClosed = false →
      (s.heedSignals E.journaled).connection.bound = s.connection.bound := bound_heedSignals
  unfold accept
  dsimp only
  generalize s.heedSignals E.journaled = d at hheed hkept
  cases hopen : d.isClosed with
  | true =>
    rw [if_pos rfl]
    exact Or.inl (hheed.trans (continues_of_eq rfl rfl))
  | false =>
    rw [if_neg Bool.false_ne_true]
    -- of the three things that asking can come to, only the last one is a report
    rcases validate_cases E d.connection with
      ⟨-, heq⟩ | ⟨p, state, -, -, heq⟩ | ⟨p, status, state, -, hbound, heq⟩
    · rw [heq]
      exact Or.inl (hheed.trans (continues_of_eq rfl rfl))
    · rw [heq]
      exact Or.inl (hheed.trans ⟨_, .record (Event.isReport_done p .validate) rfl rfl⟩)
    · rw [heq]
      obtain ⟨added, hadds⟩ := hheed
      refine Or.inr ⟨p, status, hopen, (hkept hopen).symm.trans hbound, rfl, rfl, added,
        hadds.unreported, ?_⟩
      show d.connection.engine.events ++ [_] = _
      rw [hadds.events, List.append_assoc]

end

variable [Sink H] [RecordSource ρ] {s : Session (Journal σ P) (Numbered P) H}

/-! ## Nothing is left of a loss -/

omit [Sink H] [RecordSource ρ] in
lemma traced_found (E : Engine σ P ρ) (handler : H) (arrivals : Nat)
    (s : Session (Journal σ P) (Numbered P) H) :
    Traced s.connection (s.found E.journaled handler arrivals).connection := by
  rcases reveals_accept E handler s with hcontinues | ⟨p, status, -, hreveals⟩
  · exact hcontinues.traced
  · exact hreveals.traced

/-- A notice that a session has after an input was there before, or its loss was entered. -/
lemma traced_receive (input : Input H) :
    Traced s.connection (s.receive E.journaled input).connection := by
  cases input with
  | request request handler arrivals =>
    obtain ⟨added, hadds, -⟩ :=
      settle_adds (E := E) (s := s.found E.journaled handler arrivals) request
    have hserved : Continues (s.found E.journaled handler arrivals).connection
        (s.receive E.journaled (.request request handler arrivals)).connection := ⟨added, hadds⟩
    exact (traced_found E handler arrivals s).trans hserved.traced
  | interrupt => exact (continues_of_eq rfl rfl).traced
  | terminate => exact (continues_of_eq rfl rfl).traced
  | close => exact ((continues_release E s.connection).trans (continues_of_eq rfl rfl)).traced
  | report report => exact (continues_of_eq rfl rfl).traced

lemma traced_after (inputs : List (Input H)) :
    Traced s.connection (s.after E.journaled inputs).connection :=
  after_induction (motive := fun d => Traced s.connection d.connection)
    (continues_of_eq rfl rfl).traced fun input _ _ h => h.trans (traced_receive input)

/-- From now on, a request fails for a loss only if the loss was entered since. -/
def Forgets (E : Engine σ P ρ) (s : Session (Journal σ P) (Numbered P) H) : Prop :=
  ∀ later request handler arrivals status d,
    let found := (s.after E.journaled later).found E.journaled handler arrivals
    found.phase.answer E.journaled found.self request found.connection =
        .error (.transactionTerminated status) d →
      ∃ added, d.engine.events = s.connection.engine.events ++ added ∧
        ∃ event ∈ added, event.loss? = some status

/-- A session without a notice has nothing left to say of a loss. -/
theorem forgets_of_notice (hnotice : s.connection.notice = none) : s.Forgets E := by
  intro later request handler arrivals status d found hanswer
  have hfound := traced_found E handler arrivals (s.after E.journaled later)
  obtain ⟨added, hevents, htraced⟩ := (traced_after (E := E) later).trans hfound
  have hbreaks := wp_answer_adds (E := E) (s := found) request
  unfold wp at hbreaks
  rw [hanswer] at hbreaks
  obtain ⟨more, hadds, hsource⟩ := hbreaks
  refine ⟨added ++ more, by rw [hadds.events, hevents, List.append_assoc], ?_⟩
  -- the table itself raises no such fault, so it is that of a notice or the engine's own
  cases hsource with
  | refusal hrefusal => cases hrefusal
  | notice hpending =>
    rcases htraced status hpending with hbefore | ⟨event, hmem, hloss⟩
    · rw [hnotice] at hbefore
      cases hbefore
    · exact ⟨event, List.mem_append_left _ hmem, hloss⟩
  | engine hmem hfault =>
    exact ⟨_, List.mem_append_right _ hmem, Event.loss?_of_fault? hfault⟩

/-! ## Sessions between two requests -/

/-- Nothing waits to be reported, and the phase shows the end and how far the work has come. -/
structure Regular (E : Engine σ P ρ) (s : Session (Journal σ P) (Numbered P) H) : Prop where
  relay : s.connection.relay = {}
  ended : s.EndShown
  fits : (discipline E).Fits s.phase s.connection

omit [Sink H] in
lemma regular_start (self : Identity) (engine : σ) :
    (start (H := H) self { state := engine }).Regular E where
  relay := rfl
  ended := ⟨nofun, nofun⟩
  fits := ⟨⟨rfl, fun _ => ⟨.opened, rfl⟩, fun _ _ => rfl⟩, rfl⟩

lemma Regular.receive (h : s.Regular E) {input : Input H}
    (hinput : ∀ report, input ≠ .report report) : (s.receive E.journaled input).Regular E where
  relay := relay_receive E.journaled hinput h.relay
  ended := endShown_receive input h.ended
  fits := Typestate.fits_receive hinput h.relay h.fits

lemma Regular.request (h : s.Regular E) (request : Request) (handler : H) (arrivals : Nat) :
    (s.receive E.journaled (.request request handler arrivals)).Regular E :=
  h.receive fun _ heq => by cases heq

lemma Regular.after (h : s.Regular E) {inputs : List (Input H)}
    (hinputs : ∀ report, .report report ∉ inputs) : (s.after E.journaled inputs).Regular E := by
  refine after_induction h fun input hmem s hs => hs.receive fun report heq => ?_
  subst heq
  exact hinputs report hmem

omit [Sink H] in
/-- A session that has ended keeps no notice. -/
lemma Regular.notice_of_closed (h : s.Regular E) (hclosed : s.isClosed = true) :
    s.connection.notice = none := by
  have hfits := h.fits
  rw [h.ended.mpr hclosed] at hfits
  exact hfits.2

omit [Sink H] in
/-- A processor whose calls have come to their end is neither called nor bound again. -/
theorem Regular.left (h : s.Regular E) {number : Nat} {journal : Journal σ P}
    (hgone : Progress.follow (journal.entriesOf number) = some .gone) {more : List (Event P)}
    (hevents : s.connection.engine.events = journal.events ++ more) :
    s.connection.engine.entriesOf number = journal.entriesOf number ∧
      ∀ q, s.connection.bound = some q → q.number ≠ number := by
  have hreadable := isReadable_of_idle_or_working h.fits.idle_or_working
  have hkept := hreadable.entriesOf_of_gone hevents hgone
  refine ⟨hkept, ?_⟩
  rintro q hq rfl
  rcases h.fits.idle_or_working with hidle | ⟨stage, -, p, hp, progress, hpermits, hat⟩
  · rw [hidle.1] at hq
    cases hq
  · obtain rfl : p = q := Option.some.inj (hp.symm.trans hq)
    have hfollow := hat.follow
    rw [hkept] at hfollow
    exact hpermits.halted.2 (Option.some.inj (hfollow.symm.trans hgone))

omit [Sink H] in
lemma Regular.relay_found (h : s.Regular E) (handler : H) (arrivals : Nat) :
    (s.found E.journaled handler arrivals).connection.relay = { handler := some handler } := by
  refine relay_accept_of_settled E.journaled handler ?_
  rw [h.relay]
  exact ⟨rfl, rfl⟩

omit [Sink H] in
lemma Regular.fitsAccepted_found (h : s.Regular E) (handler : H) (arrivals : Nat) :
    (discipline E).FitsAccepted (s.found E.journaled handler arrivals).phase
      (s.found E.journaled handler arrivals).connection :=
  Typestate.fitsAccepted_signals (Nat.le_add_right _ _)
    (Typestate.fitsAccepted_accept handler (Or.inl h.fits))

/-! ## Until a request gets to the processor -/

/-- A notice is pending, no processor is bound, and the engine has come so far. -/
structure Pending (E : Engine σ P ρ) (status : Status) (engine : Journal σ P)
    (s : Session (Journal σ P) (Numbered P) H) : Prop where
  regular : s.Regular E
  notice : s.connection.notice = some status
  bound : s.connection.bound = none
  engine : s.connection.engine = engine

/-- An input neither gets to the processor nor ends the session. -/
def Spares (E : Engine σ P ρ) (s : Session σ P H) : Input H → Prop
  | .request request handler arrivals =>
    ¬ (s.found E handler arrivals).Reaches request ∧ ¬ (s.found E handler arrivals).Ends request
  | .interrupt | .terminate => True
  | .close | .report _ => False

/-- None of the inputs does. -/
def SparesAll (E : Engine σ P ρ) (s : Session σ P H) : List (Input H) → Prop
  | [] => True
  | input :: inputs => s.Spares E input ∧ (s.receive E input).SparesAll E inputs

variable {engine : Journal σ P} {request : Request} {handler : H} {arrivals : Nat}

omit [Sink H] [RecordSource ρ] in
/-- A pending notice keeps a request from the processor while it is accepted. -/
lemma accept_of_notice (handler : H) (hnotice : s.connection.notice = some status) :
    (s.accept E.journaled handler).isClosed = true ∨
      (s.accept E.journaled handler).connection =
        { s.connection with relay := { s.connection.relay with handler := some handler } } := by
  have hheed : (s.heedSignals E.journaled).isClosed = true ∨
      (s.heedSignals E.journaled).connection = s.connection := by
    rcases heedSignals_cases E.journaled s with ⟨-, -, heq⟩ | ⟨-, -, -, heq⟩ | ⟨-, -, heq⟩
    · rw [heq]
      exact Or.inl rfl
    · rw [heq]
      exact Or.inr (abort_of_notice hnotice)
    · rw [heq]
      exact Or.inr rfl
  unfold accept
  dsimp only
  rcases hheed with hclosed | hkept
  · rw [if_pos hclosed]
    exact Or.inl hclosed
  · rw [hkept, validate_of_notice hnotice, ite_self]
    exact Or.inr rfl

omit [Sink H] in
/-- As long as a notice is pending, every request finds it so, or the session ended. -/
lemma Pending.found (h : s.Pending E status engine) (handler : H) (arrivals : Nat) :
    (s.found E.journaled handler arrivals).isClosed = true ∨
      ((s.found E.journaled handler arrivals).Noticed status handler ∧
        (s.found E.journaled handler arrivals).connection.engine = engine) := by
  rcases accept_of_notice (E := E) handler h.notice with hclosed | hkept
  · exact Or.inl hclosed
  cases hopen : (s.found E.journaled handler arrivals).isClosed with
  | true => exact Or.inl rfl
  | false =>
    have hnotice : (s.found E.journaled handler arrivals).connection.notice = some status := by
      show (s.accept E.journaled handler).connection.notice = some status
      rw [hkept]
      exact h.notice
    have hengine : (s.found E.journaled handler arrivals).connection.engine = engine := by
      show (s.accept E.journaled handler).connection.engine = engine
      rw [hkept]
      exact h.engine
    obtain ⟨hbound, hphase⟩ := (h.regular.fitsAccepted_found handler arrivals).bound_of_notice
      (by rw [hnotice]; exact Option.some_ne_none status)
    exact Or.inr ⟨⟨hopen, hphase, hnotice, hbound, h.regular.relay_found handler arrivals⟩, hengine⟩

/-- A request that finds a notice and is spared leaves it pending. -/
lemma Noticed.pending (h : (s.found E.journaled handler arrivals).Noticed status handler)
    (hregular : s.Regular E) (hspares : s.Spares E.journaled (.request request handler arrivals)) :
    (s.receive E.journaled (.request request handler arrivals)).Pending E status
      (s.found E.journaled handler arrivals).connection.engine := by
  have hcarries := carries_of_not_reaches (E := E.journaled) h hspares.1 hspares.2
  have hafter := hregular.request request handler arrivals
  exact ⟨hafter, hcarries.notice, hcarries.bound, hcarries.engine⟩

lemma Pending.receive (h : s.Pending E status engine) {input : Input H}
    (hspares : s.Spares E.journaled input) :
    (s.receive E.journaled input).Pending E status engine := by
  cases input with
  | request request handler arrivals =>
    rcases h.found handler arrivals with hclosed | ⟨hnoticed, hengine⟩
    · exact absurd (Or.inl hclosed) hspares.2
    · have hnext := hnoticed.pending h.regular hspares
      rwa [hengine] at hnext
  | interrupt =>
    have hregular : (s.receive E.journaled .interrupt).Regular E :=
      h.regular.receive fun _ heq => by cases heq
    exact ⟨hregular, h.notice, h.bound, h.engine⟩
  | terminate =>
    have hregular : (s.receive E.journaled .terminate).Regular E :=
      h.regular.receive fun _ heq => by cases heq
    exact ⟨hregular, h.notice, h.bound, h.engine⟩
  | close => exact hspares.elim
  | report report => exact hspares.elim

/-- A notice stays pending until a request gets to the processor or ends the session. Nothing is
called until then, and no processor is bound. -/
theorem Pending.after (h : s.Pending E status engine) {inputs : List (Input H)}
    (hspares : s.SparesAll E.journaled inputs) :
    (s.after E.journaled inputs).Pending E status engine := by
  induction inputs generalizing s with
  | nil => exact h
  | cons input inputs ih => exact ih (h.receive hspares.1) hspares.2

/-! ## The rule -/

section
variable {s : Session (Journal σ P) (Numbered P) (OrReply H)}

/-- What becomes of a request while a notice is pending. -/
structure Treats (E : Engine σ P ρ) (status : Status) (request : Request)
    (s : Session (Journal σ P) (Numbered P) (OrReply H))
    (served : Served (Journal σ P) (Numbered P) (OrReply H)) : Prop where
  surfaces : s.Reaches request → ¬ s.Ends request → Surfaces status s served
  carries : ¬ s.Reaches request → ¬ s.Ends request → Carries status s served
  ends : s.Ends request → served.session.isClosed = true
  forgets : s.Reaches request ∨ s.Ends request → served.session.Forgets E

lemma Regular.treats (h : s.Regular E) (request : Request)
    (hfound : (s.found E.journaled .blank arrivals).isClosed = true ∨
      (s.found E.journaled .blank arrivals).Noticed status .blank) :
    Treats E status request (s.found E.journaled .blank arrivals)
      (s.serveAmid E.journaled arrivals request .blank) := by
  have hserved := h.request request .blank arrivals
  have hsurfaces : (s.found E.journaled .blank arrivals).Reaches request →
      ¬ (s.found E.journaled .blank arrivals).Ends request →
      Surfaces status (s.found E.journaled .blank arrivals)
        (s.serveAmid E.journaled arrivals request .blank) := by
    intro hreaches hends
    rcases hfound with hclosed | hnoticed
    · exact absurd (Or.inl hclosed) hends
    · exact surfaces_of_reaches hnoticed hreaches hends
  have hcloses : (s.found E.journaled .blank arrivals).Ends request →
      (s.serveAmid E.journaled arrivals request .blank).session.isClosed = true := by
    intro hends
    rcases hfound with hclosed | hnoticed
    · exact isClosed_settle request hclosed
    · exact isClosed_of_ends hnoticed hends
  refine ⟨hsurfaces, ?_, hcloses, ?_⟩
  · intro hreaches hends
    rcases hfound with hclosed | hnoticed
    · exact absurd (Or.inl hclosed) hends
    · exact carries_of_not_reaches hnoticed hreaches hends
  · intro hgone
    by_cases hends : (s.found E.journaled .blank arrivals).Ends request
    · exact forgets_of_notice (hserved.notice_of_closed (hcloses hends))
    · exact forgets_of_notice (hsurfaces (hgone.resolve_right hends) hends).notice

/-- A loss is dealt with, from the request at which it comes to light on. -/
structure SurfacesOnce (E : Engine σ P ρ) (p : Numbered P) (status : Status) (request : Request)
    (arrivals : Nat) (s : Session (Journal σ P) (Numbered P) (OrReply H)) : Prop where
  /-- The bound processor was lost, and dropped for a notice. -/
  reveals : Reveals p status s.connection (s.found E.journaled .blank arrivals).connection
  /-- It is neither called nor bound again. -/
  left : ∀ later, (∀ report, .report report ∉ later) →
    let t := (s.receive E.journaled (.request request .blank arrivals)).after E.journaled later
    t.connection.engine.entriesOf p.number =
        (s.found E.journaled .blank arrivals).connection.engine.entriesOf p.number ∧
      ∀ q, t.connection.bound = some q → q.number ≠ p.number
  /-- The request may be told of it. -/
  treats : Treats E status request (s.found E.journaled .blank arrivals)
    (s.serveAmid E.journaled arrivals request .blank)
  /-- Otherwise a later one is. Nothing is called until then, and no processor is bound. -/
  waits : ∀ waiting, s.SparesAll E.journaled (.request request .blank arrivals :: waiting) →
    let t := s.after E.journaled (.request request .blank arrivals :: waiting)
    t.connection.notice = some status ∧ t.connection.bound = none ∧
      t.connection.engine = (s.found E.journaled .blank arrivals).connection.engine ∧
      ∀ next arrivals, Treats E status next (t.found E.journaled .blank arrivals)
        (t.serveAmid E.journaled arrivals next .blank)

/-- A report that a request enters is the one at which the bound processor is dropped. -/
lemma reveals_of_report {added : List (Event P)}
    (hserved : (s.serveAmid E.journaled arrivals request .blank).session.connection.engine.events =
      s.connection.engine.events ++ added)
    (hreport : .called p .validate (.terminated status) ∈ added) :
    (s.found E.journaled .blank arrivals).isClosed = false ∧
      Reveals p status s.connection (s.found E.journaled .blank arrivals).connection := by
  obtain ⟨more, hmore, -⟩ :=
    settle_adds (E := E) (s := s.found E.journaled .blank arrivals) request
  have hafter : (s.found E.journaled .blank arrivals).connection.engine.events ++ more =
      s.connection.engine.events ++ added := hmore.events.symm.trans hserved
  -- what a request enters once it was accepted is no report
  have hbefore : .called p .validate (.terminated status) ∉ more := fun hmem =>
    absurd (hmore.unreported _ hmem) Bool.false_ne_true.symm
  rcases reveals_accept E .blank s with ⟨first, hfirst⟩ | ⟨q, other, hopen, hreveals⟩
  · have hadded : first ++ more = added := by
      have hfound : (s.found E.journaled .blank arrivals).connection.engine.events =
          s.connection.engine.events ++ first := hfirst.events
      rw [hfound, List.append_assoc] at hafter
      exact List.append_cancel_left hafter
    rw [← hadded] at hreport
    rcases List.mem_append.mp hreport with hmem | hmem
    · exact absurd (hfirst.unreported _ hmem) Bool.false_ne_true.symm
    · exact absurd hmem hbefore
  · obtain ⟨first, hfirst, hevents⟩ := hreveals.events
    have hadded : first ++ [.called q .validate (.terminated other)] ++ more = added := by
      have hfound : (s.found E.journaled .blank arrivals).connection.engine.events =
          s.connection.engine.events ++ (first ++ [.called q .validate (.terminated other)]) :=
        hevents
      rw [hfound, List.append_assoc] at hafter
      exact List.append_cancel_left hafter
    rw [← hadded] at hreport
    rcases List.mem_append.mp hreport with hmem | hmem
    · rcases List.mem_append.mp hmem with hmem | hmem
      · exact absurd (hfirst _ hmem) Bool.false_ne_true.symm
      · cases List.mem_singleton.mp hmem
        exact ⟨hopen, hreveals.bound, hreveals.dropped, hreveals.notice, hreveals.events⟩
    · exact absurd hmem hbefore

/-- The loss of a transaction is told once. When the bound processor reports it during a request,
the processor is dropped, and neither called nor bound again. The first request from then on that
gets to the processor, and does not end the session, is answered with the notice and fails the
session; until then nothing is called, no processor is provided or bound, and the notice stays. Once
it was told, or the session ended, no request fails for a loss that was not entered since. -/
theorem loss_surfaces_once (E : Engine σ P ρ) (self : Identity) (engine : σ)
    {inputs : List (Input (OrReply H))} (hinputs : ∀ report, .report report ∉ inputs)
    (hreached : s = (start self { state := engine }).after E.journaled inputs)
    {request : Request} {arrivals : Nat} {added : List (Event P)}
    (hserved : (s.serveAmid E.journaled arrivals request .blank).session.connection.engine.events =
      s.connection.engine.events ++ added)
    (hreport : .called p .validate (.terminated status) ∈ added) :
    s.SurfacesOnce E p status request arrivals := by
  have hregular : s.Regular E := by
    rw [hreached]
    exact (regular_start self engine).after hinputs
  obtain ⟨hopen, hreveals⟩ := reveals_of_report hserved hreport
  have hnoticed : (s.found E.journaled .blank arrivals).Noticed status .blank := by
    obtain ⟨-, hphase⟩ := (hregular.fitsAccepted_found .blank arrivals).bound_of_notice
      (by rw [hreveals.notice]; exact Option.some_ne_none status)
    exact ⟨hopen, hphase, hreveals.notice, hreveals.dropped, hregular.relay_found .blank arrivals⟩
  refine ⟨hreveals, ?_, hregular.treats request (Or.inr hnoticed), ?_⟩
  · intro later hlater
    -- the report is the last entry as the request finds the journal, and nothing is taken back
    obtain ⟨before, -, hevents⟩ := hreveals.events
    rw [← List.append_assoc] at hevents
    have hfound := (hregular.fitsAccepted_found .blank arrivals).idle_or_working
    have hgone := (isReadable_of_idle_or_working hfound).follow_of_report hevents
    obtain ⟨more, hmore, -⟩ :=
      settle_adds (E := E) (s := s.found E.journaled .blank arrivals) request
    obtain ⟨rest, hrest, -⟩ := traced_after (E := E)
      (s := s.receive E.journaled (.request request .blank arrivals)) later
    have hentered := hrest.trans (congrArg (fun events => events ++ rest) hmore.events)
    rw [List.append_assoc] at hentered
    exact ((hregular.request request .blank arrivals).after hlater).left hgone hentered
  · intro waiting hspares
    have hpending := (hnoticed.pending hregular hspares.1).after hspares.2
    refine ⟨hpending.notice, hpending.bound, hpending.engine, fun next arrivals => ?_⟩
    exact hpending.regular.treats next ((hpending.found .blank arrivals).imp_right And.left)

/-- A transaction that was interrupted, and will be found torn down. -/
def interruptedFrail : Session (Journal (Option Status) Unit) (Numbered Unit)
    (OrReply (Reply (List Response))) :=
  (start {} { state := none }).after (Engine.frail .transactionTerminated).journaled
    [.request (.hello ∅) .blank 0, .request (.begin ∅) .blank 0, .interrupt]

/-- The loss comes to light with COMMIT, which is skipped, and is told to the RESET after it. -/
theorem loss_surfaces_once_interrupted :
    (interruptedFrail.receive (Engine.frail .transactionTerminated).journaled
        (.request .commit .blank 0)).connection.notice = some .transactionTerminated ∧
      ((interruptedFrail.receive (Engine.frail .transactionTerminated).journaled
          (.request .commit .blank 0)).serveAmid (Engine.frail .transactionTerminated).journaled 0
        .reset .blank).answered = some [lossOf .transactionTerminated] := by
  have hserved : (interruptedFrail.serveAmid (Engine.frail .transactionTerminated).journaled 0
      .commit .blank).session.connection.engine.events =
        interruptedFrail.connection.engine.events ++
          [.called ⟨0, ()⟩ .abort .done,
            .called ⟨0, ()⟩ .validate (.terminated .transactionTerminated)] := rfl
  have hreport : .called ⟨0, ()⟩ .validate (.terminated .transactionTerminated) ∈
      [Event.called (⟨0, ()⟩ : Numbered Unit) .abort .done,
        .called ⟨0, ()⟩ .validate (.terminated .transactionTerminated)] :=
    List.mem_cons_of_mem _ List.mem_cons_self
  obtain ⟨-, -, -, hwaits⟩ := loss_surfaces_once (Engine.frail .transactionTerminated) {} none
    (by
      intro report hmem
      rcases List.mem_cons.mp hmem with h | hmem
      · cases h
      rcases List.mem_cons.mp hmem with h | hmem
      · cases h
      · cases List.mem_singleton.mp hmem)
    (s := interruptedFrail) rfl hserved hreport
  have hspares : interruptedFrail.Spares (Engine.frail .transactionTerminated).journaled
      (.request .commit .blank 0) := by
    constructor
    · rintro (hreaches | ⟨hreset, -⟩)
      · exact absurd hreaches (by decide +kernel)
      · cases hreset
    · rintro (hclosed | hgoodbye | ⟨hreset, -⟩)
      · exact absurd hclosed (by decide +kernel)
      · cases hgoodbye
      · cases hreset
  obtain ⟨hnotice, -, -, htreats⟩ := hwaits [] ⟨hspares, trivial⟩
  refine ⟨hnotice, ((htreats .reset 0).surfaces (Or.inr ⟨rfl, by decide +kernel⟩) ?_).answered⟩
  rintro (hclosed | hgoodbye | ⟨-, hundue⟩)
  · exact absurd hclosed (by decide +kernel)
  · cases hgoodbye
  · exact absurd hundue (by decide +kernel)

end
end Session
end QuerySession
