import QuerySession.Proofs.Entries
import QuerySession.Proofs.Streaming

/-!
# RUN and BEGIN are passed on

RUN and BEGIN ask a session for work, and the session asks a processor for it. Nothing is lost or
added on the way: neither of what the client asks, nor of what the processor says about the
statement. Here the session starts out in any state in which it attends to its requests, and the
engine keeps a journal, which tells what it was asked.

* `Extra.Targets`, `Extra.Asks`: what the optional entries of a request stand for, entry by entry;
* `Session.IsFree`: nothing keeps a session from attending to a request;
* `Session.Begun`, `Session.FailedAt`: the two ways in which such a request ends;
* `Session.Executes`, `Session.Opens`: one call on a processor, and one on a new processor;
* `Session.Forwards`, `Session.work_forwarded`: the rule.
-/

namespace QuerySession

variable {σ P ρ H α : Type}

/-! ## What the entries stand for -/

namespace Value

lemma text?_eq_some {v : Value} {content : String} :
    v.text? = some content ↔ v = .text content := by
  cases v <;> simp [text?]

lemma integer?_eq_some {v : Value} {number : Int64} :
    v.integer? = some number ↔ v = .integer number := by
  cases v <;> simp [integer?]

end Value

/-- The texts are the same but for the case of letters, where only those of ASCII have one. -/
def SameButCase (a b : String) : Prop := a.toList.map Char.toLower = b.toList.map Char.toLower

namespace Extra

variable {extra extra' : Extra} {key : String}

/-- The database of a request is the text under its key, even an empty one, and the standard one if
there is no text. -/
def Targets (extra : Extra) (standard database : String) : Prop :=
  (∀ name, extra.get? "db" = some (.text name) → database = name) ∧
  ((∀ name, extra.get? "db" ≠ some (.text name)) → database = standard)

/-- The options that the entries of a request stand for. Each of them depends on one entry alone,
and has its standard value if the entry is of another kind. -/
structure Asks (extra : Extra) (options : TransactionOptions) : Prop where
  bookmarks : ∀ items, extra.get? "bookmarks" = some (.list items) →
    options.bookmarks = items.filterMap Value.text?
  no_bookmarks : (∀ items, extra.get? "bookmarks" ≠ some (.list items)) → options.bookmarks = []
  timeout : ∀ n, extra.get? "tx_timeout" = some (.integer n) → 0 ≤ n.toInt →
    options.timeout = some (.ofMilliseconds n.toInt.toNat)
  no_timeout : (∀ n, extra.get? "tx_timeout" = some (.integer n) → n.toInt < 0) →
    options.timeout = none
  mode : options.mode = .read ↔ ∃ mode, extra.get? "mode" = some (.text mode) ∧
    (SameButCase mode "r" ∨ SameButCase mode "read")
  metadata : ∀ entries, extra.get? "tx_metadata" = some (.map entries) →
    options.metadata = .ofList entries
  /-- The entries of a map that is in order are kept as they are. -/
  metadata_kept : ∀ d, extra.get? "tx_metadata" = some (.ofDictionary d) → options.metadata = d
  no_metadata : (∀ entries, extra.get? "tx_metadata" ≠ some (.map entries)) →
    options.metadata = ∅

lemma targets_database (extra : Extra) (standard : String) :
    extra.Targets standard (extra.database?.getD standard) := by
  unfold database?
  refine ⟨fun name hname => ?_, fun hnone => ?_⟩
  · rw [hname]
    rfl
  · have hread : (extra.get? "db").bind Value.text? = none := by
      refine Option.bind_eq_none_iff.mpr fun v hv => ?_
      cases v with
      | text name => exact absurd hv (hnone name)
      | _ => rfl
    rw [hread]
    rfl

lemma mode_eq_read : extra.mode = .read ↔ ∃ mode, extra.get? "mode" = some (.text mode) ∧
    (SameButCase mode "r" ∨ SameButCase mode "read") := by
  have hletters (mode : String) : AccessMode.ofText mode = .read ↔
      SameButCase mode "r" ∨ SameButCase mode "read" := by
    unfold AccessMode.ofText SameButCase
    have hshort : "r".toList.map Char.toLower = ['r'] := by decide
    have hlong : "read".toList.map Char.toLower = ['r', 'e', 'a', 'd'] := by decide
    rw [hshort, hlong]
    split <;> simp_all
  unfold Extra.mode
  constructor
  · intro hmode
    cases htext : (extra.get? "mode").bind Value.text? with
    | none =>
      rw [htext] at hmode
      cases hmode
    | some mode =>
      rw [htext] at hmode
      obtain ⟨v, hv, hread⟩ := Option.bind_eq_some_iff.mp htext
      rw [Value.text?_eq_some.mp hread] at hv
      exact ⟨mode, hv, (hletters mode).mp hmode⟩
  · rintro ⟨mode, hentry, hsame⟩
    rw [hentry]
    exact (hletters mode).mpr hsame

/-- The options of a request are those that its entries stand for. -/
theorem asks_options (extra : Extra) : extra.Asks extra.options where
  bookmarks items hitems := by
    show extra.bookmarks = _
    unfold Extra.bookmarks
    rw [hitems]
    rfl
  no_bookmarks hnone := by
    have hread : (extra.get? "bookmarks").bind Value.texts? = none := by
      refine Option.bind_eq_none_iff.mpr fun v hv => ?_
      cases v with
      | list items => exact absurd hv (hnone items)
      | _ => rfl
    show extra.bookmarks = _
    unfold Extra.bookmarks
    rw [hread]
    rfl
  timeout n hn hpos := by
    have hnotneg : ¬ n < 0 := by
      rw [Int64.lt_iff_toInt_lt]
      exact Int.not_lt.mpr hpos
    show extra.timeout? = _
    unfold Extra.timeout?
    rw [hn]
    exact if_neg hnotneg
  no_timeout hneg := by
    show extra.timeout? = _
    unfold Extra.timeout?
    refine Option.bind_eq_none_iff.mpr fun n hn => if_pos ?_
    obtain ⟨v, hv, hread⟩ := Option.bind_eq_some_iff.mp hn
    rw [Value.integer?_eq_some.mp hread] at hv
    exact Int64.lt_iff_toInt_lt.mpr (hneg n hv)
  mode := mode_eq_read
  metadata entries hentries := by
    show extra.metadata = _
    unfold Extra.metadata
    rw [hentries]
    rfl
  metadata_kept d hd := by
    show extra.metadata = _
    unfold Extra.metadata
    rw [hd]
    exact d.ofList_entries
  no_metadata hnone := by
    have hread : (extra.get? "tx_metadata").bind Value.map? = none := by
      refine Option.bind_eq_none_iff.mpr fun v hv => ?_
      cases v with
      | map entries => exact absurd hv (hnone entries)
      | _ => rfl
    show extra.metadata = _
    unfold Extra.metadata
    rw [hread]
    rfl

/-- The keys of the entries that are read from RUN and BEGIN. -/
def keys : List String := ["db", "bookmarks", "tx_timeout", "mode", "tx_metadata"]

/-- Entries under other keys are not read. -/
lemma options_eq (h : ∀ key ∈ keys, extra.get? key = extra'.get? key) :
    extra.database? = extra'.database? ∧ extra.options = extra'.options := by
  have hdatabase : extra.get? "db" = extra'.get? "db" := h _ (by decide)
  have hbookmarks : extra.get? "bookmarks" = extra'.get? "bookmarks" := h _ (by decide)
  have htimeout : extra.get? "tx_timeout" = extra'.get? "tx_timeout" := h _ (by decide)
  have hmode : extra.get? "mode" = extra'.get? "mode" := h _ (by decide)
  have hmetadata : extra.get? "tx_metadata" = extra'.get? "tx_metadata" := h _ (by decide)
  unfold database? options Extra.bookmarks timeout? Extra.mode Extra.metadata
  rw [hdatabase, hbookmarks, htimeout, hmode, hmetadata]
  exact ⟨rfl, rfl⟩

end Extra

/-- A transaction is open. -/
def Phase.isTransactional : Phase → Bool
  | .transactionReady | .transactionStreaming => true
  | _ => false

/-! ## What the client hears of a statement -/

/-- The entries of a summary that tell a client of a statement: its columns, and the time until the
first row in milliseconds, or the largest number there is if they are more. -/
def StatementInfo.reports (info : StatementInfo) : List Report :=
  [.metadata "fields" (.texts info.columns),
    .metadata "t_first"
      (.integer (.ofInt (min info.firstRow.milliseconds Int64.maxValue.toInt)))]

lemma Phase.clientMilliseconds_eq (d : Duration) :
    clientMilliseconds d = .ofInt (min d.milliseconds Int64.maxValue.toInt) := by
  have hmax : (Int64.maxValue.toInt.toNat : Int) = Int64.maxValue.toInt := rfl
  unfold clientMilliseconds
  split
  · rw [Int.min_eq_left (by omega)]
    exact Int64.ofInt_eq_ofNat.symm
  · rw [Int.min_eq_right (by omega)]
    exact (Int64.ofInt_toInt _).symm

/-- What a sink becomes that is told some reports. -/
def Sink.tellAll [Sink H] (reports : List Report) (handler : H) : H :=
  reports.foldl (fun handler report => Sink.tell report handler) handler

lemma Sink.tellAll_snoc [Sink H] (reports : List Report) (report : Report) (handler : H) :
    Sink.tellAll (reports ++ [report]) handler =
      Sink.tell report (Sink.tellAll reports handler) := List.foldl_append

/-- A statement is described to the handler that is attached. -/
lemma describe_of_attached [Sink H] {c : Connection σ P H} {handler : H}
    (hrelay : c.relay = { handler := some handler }) (info : StatementInfo) :
    Phase.describe info c =
      .ok () { c with relay := { handler := some (Sink.tellAll info.reports handler) } } := by
  obtain ⟨relay, bound, notice, signals, engine⟩ := c
  obtain rfl : relay = _ := hrelay
  unfold StatementInfo.reports
  rw [← Phase.clientMilliseconds_eq]
  rfl

/-! ## Steps that pass something on -/

section
variable {E : Engine σ P ρ} {c : Connection (Journal σ P) (Numbered P) H}

/-- A processor that is provided is entered and bound. -/
lemma provideFor_of_ok {self : Identity} {extra : Extra} {processor : P} {state : σ}
    (hnotice : c.notice = none)
    (hprovide : E.provide (extra.database?.getD self.defaultDatabase) c.engine.state =
      .ok processor state) :
    Phase.provideFor E.journaled self extra c =
      .ok () { c with
        bound := some (c.engine.fresh processor)
        engine := c.engine.withProvided (extra.database?.getD self.defaultDatabase) processor
          state } := by
  apply eq_ok_of_wp
  rw [wp_provideFor, wp_of_ok hprovide, wp_engage, hnotice]
  exact ⟨rfl, rfl⟩

/-- A refusal to provide a processor is entered and raised. -/
lemma provideFor_of_error {self : Identity} {extra : Extra} {fault : Fault} {state : σ}
    (hprovide : E.provide (extra.database?.getD self.defaultDatabase) c.engine.state =
      .error fault state) :
    Phase.provideFor E.journaled self extra c =
      .error fault { c with
        engine := c.engine.record
          (.provided (extra.database?.getD self.defaultDatabase) (.error fault)) state } := by
  apply eq_error_of_wp
  rw [wp_provideFor, wp_of_error hprovide]
  exact ⟨rfl, rfl⟩

variable {p : Numbered P} {call : Call} {act : Option (Numbered P) → EStateM Fault (Journal σ P) α}
  {work : EStateM Fault σ α} {state : σ}

/-- A call of the bound processor that is done is entered. -/
lemma call_of_ok {a : α} (hnotice : c.notice = none) (hbound : c.bound = some p)
    (hact : act (some p) = Journal.call p call work) (hwork : work c.engine.state = .ok a state) :
    Connection.call act c =
      .ok a { c with engine := c.engine.record (.called p call .done) state } := by
  apply eq_ok_of_wp
  rw [wp_call_of_bound hnotice hbound, hact, wp_journalCall, wp_of_ok hwork]
  exact ⟨rfl, rfl⟩

/-- A call of the bound processor that fails is entered, and the fault is raised. -/
lemma call_of_error {fault : Fault} (hnotice : c.notice = none) (hbound : c.bound = some p)
    (hact : act (some p) = Journal.call p call work)
    (hwork : work c.engine.state = .error fault state) :
    Connection.call act c =
      .error fault { c with
        engine := c.engine.record (.called p call (.failed fault)) state } := by
  apply eq_error_of_wp
  rw [wp_call_of_bound hnotice hbound, hact, wp_journalCall, wp_of_error hwork]
  exact ⟨rfl, rfl⟩

end

/-! ## A session that is free -/

namespace Session

/-- Nothing keeps the session from attending to a request: it goes on, no interrupt waits for an
answer, nothing waits to be reported, and the transaction of the bound processor is alive. -/
structure IsFree (E : Engine σ P ρ) (s : Session (Journal σ P) (Numbered P) H) : Prop where
  isOpen : s.isClosed = false
  stays : s.connection.signals.terminated = false
  uninterrupted : s.connection.signals.interrupts = 0
  settled : s.connection.relay.isSettled
  notice : s.connection.notice = none
  alive : ∀ p, s.connection.bound = some p →
    (E.validate p.processor s.connection.engine.state).1 = none

/-- The journal once a bound processor was asked after its transaction. -/
def checked (E : Engine σ P ρ) (s : Session (Journal σ P) (Numbered P) H) : Journal σ P :=
  (s.connection.validate E.journaled).engine

/-- The connection with a handler attached and the processor asked, while interrupts have
arrived. -/
def attending (E : Engine σ P ρ) (handler : H) (arrivals : Nat)
    (s : Session (Journal σ P) (Numbered P) H) : Connection (Journal σ P) (Numbered P) H :=
  { s.connection with
    relay := { handler := some handler }
    signals := s.connection.signals.interruptBy arrivals
    engine := s.checked E }

section
variable {E : Engine σ P ρ} {s : Session (Journal σ P) (Numbered P) H}

/-- A free session asks the bound processor after its transaction, if there is one, and learns
nothing that changes it. -/
lemma validate_of_isFree (h : s.IsFree E) :
    s.connection.validate E.journaled = { s.connection with engine := s.checked E } ∧
      (s.checked E).events = s.connection.engine.events ++
        (s.connection.bound.map fun p => .called p .validate .done).toList := by
  unfold checked
  cases hbound : s.connection.bound with
  | none =>
    have hasked : s.connection.validate E.journaled = s.connection :=
      Connection.validate_of_bound h.notice hbound
    rw [hasked]
    exact ⟨rfl, (List.append_nil _).symm⟩
  | some p =>
    have hasked : E.journaled.orIdle.validate (some p) s.connection.engine =
        ((E.validate p.processor s.connection.engine.state).1,
          s.connection.engine.record
            (.called p .validate
              ((E.validate p.processor s.connection.engine.state).1.elim .done .terminated))
            (E.validate p.processor s.connection.engine.state).2) := rfl
    have hvalidate := Connection.validate_of_bound (E := E.journaled) h.notice hbound
    rw [hasked, h.alive p hbound] at hvalidate
    rw [hvalidate]
    exact ⟨rfl, rfl⟩

/-- A request finds the session with its handler attached. -/
lemma found_of_isFree (h : s.IsFree E) (handler : H) (arrivals : Nat) :
    s.found E.journaled handler arrivals =
      { s with connection := s.attending E handler arrivals } := by
  unfold found
  rw [accept_of_undisturbed E.journaled h.isOpen h.stays h.uninterrupted h.settled,
    (validate_of_isFree h).1]
  rfl

end

/-! ## How a request ends that is passed on -/

/-- Work was begun on a processor, which is bound now. The journal has come so far, and the handler
was told these reports and that this was all. -/
structure Begun [Sink H] (j : Journal σ P) (p : Numbered P) (reports : List Report) (next : Phase)
    (handler : H) (served : Served (Journal σ P) (Numbered P) H) : Prop where
  outcome : served.outcome = .ok ()
  heard : served.handler = some (Sink.tellAll (reports ++ [.finished]) handler)
  phase : served.session.phase = next
  bound : served.session.connection.bound = some p
  journal : served.session.connection.engine = j

/-- The request failed when the journal had come so far, and the handler was told why. Then nothing
more was called, unless the fault ended the session: at the end a processor may be reset, but no
work is asked for. -/
structure FailedAt [Sink H] (j : Journal σ P) (fault : Fault) (handler : H)
    (served : Served (Journal σ P) (Numbered P) H) : Prop where
  heard : served.handler = some (Sink.tellAll [.failed (.ofFault fault), .finished] handler)
  curable : fault.isFatal = false → served.outcome = .ok () ∧
    served.session.phase = .failed ∧ served.session.connection.engine = j
  fatal : fault.isFatal → served.outcome = .error fault ∧ served.session.isClosed = true ∧
    ∃ added, served.session.connection.engine.events = j.events ++ added ∧
      ∀ event ∈ added, event.isWork = false

/-- The request makes one call on a processor. -/
def Executes [Sink H] (j : Journal σ P) (p : Numbered P) (call : Call) (work : EStateM Fault σ α)
    (reports : α → List Report) (next : Phase) (handler : H)
    (served : Served (Journal σ P) (Numbered P) H) : Prop :=
  wp work
    (fun a state => Begun (j.record (.called p call .done) state) p (reports a) next handler served)
    (fun fault state =>
      FailedAt (j.record (.called p call (.failed fault)) state) fault handler served) j.state

/-- The request asks for a processor for a database, once, and makes one call on that. -/
def Opens [Sink H] (E : Engine σ P ρ) (j : Journal σ P) (database : String) (call : Call)
    (work : P → EStateM Fault σ α) (reports : α → List Report) (next : Phase) (handler : H)
    (served : Served (Journal σ P) (Numbered P) H) : Prop :=
  wp (E.provide database)
    (fun processor state => Executes (j.withProvided database processor state) (j.fresh processor)
      call (work processor) reports next handler served)
    (fun fault state =>
      FailedAt (j.record (.provided database (.error fault)) state) fault handler served) j.state

section
variable [Sink H] [RecordSource ρ] {E : Engine σ P ρ} {s : Session (Journal σ P) (Numbered P) H}
  {request : Request} {handler : H} {arrivals : Nat} {j : Journal σ P}

/-- A free session comes to the table with its handler attached. -/
lemma serveAmid_of_isFree (h : s.IsFree E) :
    s.serveAmid E.journaled arrivals request handler =
      settle (perform E.journaled request
        { s with connection := s.attending E handler arrivals }) :=
  congrArg (fun t => settle (perform E.journaled request t)) (found_of_isFree h handler arrivals)

omit [Sink H] [RecordSource ρ] in
lemma isOpen_attending (h : s.IsFree E) :
    ({ s with connection := s.attending E handler arrivals } : Session _ _ H).isClosed = false :=
  h.isOpen

omit [Sink H] [RecordSource ρ] in
lemma passes_attending (h : s.IsFree E) (request : Request) :
    ({ s with connection := s.attending E handler arrivals } : Session _ _ H).passes request :=
  passes_of_settled request (isOpen_attending h) rfl

/-- The table answers, once the handler was told some reports. -/
lemma begun_of_answer (h : s.IsFree E) (hrequest : request ≠ .goodbye) {p : Numbered P}
    {reports : List Report} {next : Phase}
    (hanswer : s.phase.answer E.journaled s.self request (s.attending E handler arrivals) =
      .ok next { s.attending E handler arrivals with
        relay := { handler := some (Sink.tellAll reports handler) }
        bound := some p
        engine := j }) :
    Begun j p reports next handler (s.serveAmid E.journaled arrivals request handler) := by
  have hsettled := settle_of_answer (isOpen_attending h) (passes_attending h request) hrequest
    hanswer h.isOpen rfl
  rw [serveAmid_of_isFree h, hsettled]
  exact ⟨rfl, congrArg some (Sink.tellAll_snoc reports _ handler).symm, rfl, rfl, rfl⟩

/-- The table raises a fault before the handler was told anything. -/
lemma failedAt_of_answer (h : s.IsFree E) (hrequest : request ≠ .goodbye) {fault : Fault}
    (bound : Option (Numbered P))
    (hanswer : s.phase.answer E.journaled s.self request (s.attending E handler arrivals) =
      .error fault { s.attending E handler arrivals with bound, engine := j }) :
    FailedAt j fault handler (s.serveAmid E.journaled arrivals request handler) := by
  rw [serveAmid_of_isFree h]
  cases hfatal : fault.isFatal with
  | false =>
    have hsettled := settle_of_fault (isOpen_attending h) (passes_attending h request) hrequest
      hfatal hanswer h.isOpen rfl
    rw [hsettled]
    exact ⟨rfl, fun _ => ⟨rfl, rfl, rfl⟩, fun hends =>
      absurd (hfatal.symm.trans hends) Bool.false_ne_true⟩
  | true =>
    have hsettled := settle_of_fatal (isOpen_attending h) (passes_attending h request) hrequest
      hfatal hanswer rfl
    rw [hsettled]
    -- the end of the session enters a reset at most
    refine ⟨rfl, fun hstays => absurd (hstays.symm.trans hfatal) Bool.false_ne_true,
      fun _ => ⟨rfl, rfl, ?_⟩⟩
    exact Connection.rests_release E _

/-- A request that comes to one call on a bound processor. -/
lemma executes_of_answer (h : s.IsFree E) (hrequest : request ≠ .goodbye) {p : Numbered P}
    {call : Call} {act : Option (Numbered P) → EStateM Fault (Journal σ P) α}
    {work : EStateM Fault σ α} {reports : α → List Report} {next : Phase}
    {finish : α → Action (Journal σ P) (Numbered P) H Phase}
    (hanswer : s.phase.answer E.journaled s.self request (s.attending E handler arrivals) =
      (Connection.call act >>= finish)
        { s.attending E handler arrivals with bound := some p, engine := j })
    (hact : act (some p) = Journal.call p call work)
    (hfinish : ∀ a d, d.relay = { handler := some handler } → finish a d =
      .ok next { d with relay := { handler := some (Sink.tellAll (reports a) handler) } }) :
    Executes j p call work reports next handler
      (s.serveAmid E.journaled arrivals request handler) := by
  have hnotice : (s.attending E handler arrivals).notice = none := h.notice
  -- the processor decides how the request ends
  refine Meets.intro (fun a state hwork => ?_) (fun fault state hwork => ?_)
  · have hcalled := call_of_ok (c := { s.attending E handler arrivals with
      bound := some p, engine := j }) hnotice rfl hact hwork
    exact begun_of_answer h hrequest
      (hanswer.trans ((bind_of_ok hcalled).trans (hfinish a _ rfl)))
  · have hcalled := call_of_error (c := { s.attending E handler arrivals with
      bound := some p, engine := j }) hnotice rfl hact hwork
    exact failedAt_of_answer h hrequest _ (hanswer.trans (bind_of_error hcalled))

/-- A request that first comes to the question for a processor. -/
lemma opens_of_answer (h : s.IsFree E) (hrequest : request ≠ .goodbye) {extra : Extra}
    {call : Call} {act : Option (Numbered P) → EStateM Fault (Journal σ P) α}
    {work : P → EStateM Fault σ α} {reports : α → List Report} {next : Phase}
    {finish : α → Action (Journal σ P) (Numbered P) H Phase}
    (hanswer : s.phase.answer E.journaled s.self request =
      (Phase.provideFor E.journaled s.self extra >>= fun _ => Connection.call act >>= finish))
    (hact : ∀ p, act (some p) = Journal.call p call (work p.processor))
    (hfinish : ∀ a d, d.relay = { handler := some handler } → finish a d =
      .ok next { d with relay := { handler := some (Sink.tellAll (reports a) handler) } }) :
    Opens E (s.checked E) (extra.database?.getD s.self.defaultDatabase) call work reports next
      handler (s.serveAmid E.journaled arrivals request handler) := by
  have hnotice : (s.attending E handler arrivals).notice = none := h.notice
  -- without a processor there is no call
  refine Meets.intro (fun processor state hprovide => ?_) (fun fault state hprovide => ?_)
  · have hprovided := provideFor_of_ok (c := s.attending E handler arrivals) hnotice hprovide
    refine executes_of_answer h hrequest ?_ (hact _) hfinish
    rw [hanswer]
    exact bind_of_ok hprovided
  · have hprovided := provideFor_of_error (c := s.attending E handler arrivals) hprovide
    refine failedAt_of_answer h hrequest s.connection.bound ?_
    rw [hanswer]
    exact bind_of_error hprovided

end

/-! ## What the table reads -/

section
variable [Sink H] [RecordSource ρ] (E : Engine σ P ρ) (self : Identity) {phase : Phase}

/-- Within a transaction RUN is answered in one way. -/
lemma answer_run_of_isTransactional (h : phase.isTransactional) (run : Run) :
    (phase.answer E self (.run run) : Action σ P H Phase) = Phase.runInTransaction E run := by
  cases phase <;> first | rfl | cases h

lemma answer_run_congr {run : Run} {extra : Extra}
    (h : phase.isTransactional ∨ ∀ key ∈ Extra.keys, extra.get? key = run.extra.get? key) :
    (phase.answer E self (.run { run with extra }) : Action σ P H Phase) =
      phase.answer E self (.run run) := by
  rcases h with htransactional | hread
  · rw [answer_run_of_isTransactional E self htransactional,
      answer_run_of_isTransactional E self htransactional]
    rfl
  · -- only a session that is ready reads entries, and those are the database and the options
    obtain ⟨hdatabase, hoptions⟩ := Extra.options_eq hread
    cases phase with
    | ready =>
      show (Phase.answerReady E self (.run { run with extra }) : Action σ P H Phase) =
        Phase.answerReady E self (.run run)
      unfold Phase.answerReady Phase.provideFor
      dsimp only
      rw [hdatabase, hoptions]
    | _ => rfl

lemma answer_begin_congr {extra extra' : Extra}
    (h : ∀ key ∈ Extra.keys, extra.get? key = extra'.get? key) :
    (phase.answer E self (.begin extra) : Action σ P H Phase) =
      phase.answer E self (.begin extra') := by
  obtain ⟨hdatabase, hoptions⟩ := Extra.options_eq h
  cases phase with
  | ready =>
    show (Phase.answerReady E self (.begin extra) : Action σ P H Phase) =
      Phase.answerReady E self (.begin extra')
    unfold Phase.answerReady Phase.provideFor
    dsimp only
    rw [hdatabase, hoptions]
  | _ => rfl

end

/-! ## The rule -/

/-- RUN and BEGIN are passed on faithfully. -/
structure Forwards [Sink H] [RecordSource ρ] (E : Engine σ P ρ) (arrivals : Nat) (handler : H)
    (s : Session (Journal σ P) (Numbered P) H) : Prop where
  /-- At first nothing is asked but whether the transaction of the bound processor is alive. -/
  checked : (s.checked E).events = s.connection.engine.events ++
    (s.connection.bound.map fun p => .called p .validate .done).toList
  run : s.phase = .ready → ∀ run : Run, ∃ database options,
    run.extra.Targets s.self.defaultDatabase database ∧ run.extra.Asks options ∧
    Opens E (s.checked E) database (.run run.query run.parameters (some options))
      (fun processor => E.run processor run.query run.parameters (some options))
      StatementInfo.reports .streaming handler
      (s.serveAmid E.journaled arrivals (.run run) handler)
  begin : s.phase = .ready → ∀ extra : Extra, ∃ database options,
    extra.Targets s.self.defaultDatabase database ∧ extra.Asks options ∧
    Opens E (s.checked E) database (.begin options)
      (fun processor => E.begin processor options) (fun _ => []) .transactionReady handler
      (s.serveAmid E.journaled arrivals (.begin extra) handler)
  /-- Within a transaction no processor is asked for, and the statement has no options. -/
  statement : s.phase.isTransactional → ∀ p, s.connection.bound = some p → ∀ run : Run,
    Executes (s.checked E) p (.run run.query run.parameters none)
      (E.run p.processor run.query run.parameters none)
      (fun info => info.reports ++ [.metadata "qid" (.integer info.statement)])
      .transactionStreaming handler (s.serveAmid E.journaled arrivals (.run run) handler)
  unbound : s.phase.isTransactional → s.connection.bound = none → ∀ run : Run,
    FailedAt (s.checked E) .noProcessor handler
      (s.serveAmid E.journaled arrivals (.run run) handler)
  /-- Entries that nobody reads change nothing, and a transaction reads none. -/
  run_unread : ∀ (run : Run) (extra : Extra),
    s.phase.isTransactional ∨ (∀ key ∈ Extra.keys, extra.get? key = run.extra.get? key) →
    s.serveAmid E.journaled arrivals (.run { run with extra }) handler =
      s.serveAmid E.journaled arrivals (.run run) handler
  begin_unread : ∀ extra extra' : Extra,
    (∀ key ∈ Extra.keys, extra.get? key = extra'.get? key) →
    s.serveAmid E.journaled arrivals (.begin extra) handler =
      s.serveAmid E.journaled arrivals (.begin extra') handler

section
variable [Sink H] [RecordSource ρ] {E : Engine σ P ρ} {s : Session (Journal σ P) (Numbered P) H}
  {handler : H} {arrivals : Nat}

/-- Requests that the table answers alike are performed alike. -/
lemma perform_congr {E : Engine σ P ρ} {s : Session σ P H}
    {request request' : Request} (hopen : s.isClosed = false) (hpasses : s.passes request)
    (hpasses' : s.passes request') (hrequest : request ≠ .goodbye) (hrequest' : request' ≠ .goodbye)
    (hanswer : s.phase.answer E s.self request s.connection =
      s.phase.answer E s.self request' s.connection) :
    perform E request s = perform E request' s := by
  rw [perform_of_passes hopen hpasses, perform_of_passes hopen hpasses',
    dispatch_of_ne E hrequest, dispatch_of_ne E hrequest', hanswer]

/-- Requests that the table answers alike are served alike. -/
lemma serveAmid_congr (h : s.IsFree E) {request request' : Request} (hrequest : request ≠ .goodbye)
    (hrequest' : request' ≠ .goodbye)
    (hanswer : (s.phase.answer E.journaled s.self request :
      Action (Journal σ P) (Numbered P) H Phase) = s.phase.answer E.journaled s.self request') :
    s.serveAmid E.journaled arrivals request handler =
      s.serveAmid E.journaled arrivals request' handler := by
  have hperform := perform_congr (s := { s with connection := s.attending E handler arrivals })
    (isOpen_attending h) (passes_attending h request) (passes_attending h request') hrequest
    hrequest' (congrFun hanswer _)
  rw [serveAmid_of_isFree h, serveAmid_of_isFree h]
  exact congrArg settle hperform

/-- A statement outside of any transaction. -/
lemma opens_run (h : s.IsFree E) (hready : s.phase = .ready) (run : Run) :
    Opens E (s.checked E) (run.extra.database?.getD s.self.defaultDatabase)
      (.run run.query run.parameters (some run.extra.options))
      (fun processor => E.run processor run.query run.parameters (some run.extra.options))
      StatementInfo.reports .streaming handler
      (s.serveAmid E.journaled arrivals (.run run) handler) := by
  have hanswer : (s.phase.answer E.journaled s.self (.run run) :
      Action (Journal σ P) (Numbered P) H Phase) =
      (Phase.provideFor E.journaled s.self run.extra >>= fun _ =>
        (Connection.call fun p =>
          E.journaled.orIdle.run p run.query run.parameters (some run.extra.options)) >>=
        fun info => Phase.describe info >>= fun _ => pure .streaming) := by
    rw [hready]
    rfl
  exact opens_of_answer h Request.noConfusion hanswer (fun _ => rfl)
    fun info d hrelay => bind_of_ok (describe_of_attached hrelay info)

/-- A transaction. -/
lemma opens_begin (h : s.IsFree E) (hready : s.phase = .ready) (extra : Extra) :
    Opens E (s.checked E) (extra.database?.getD s.self.defaultDatabase) (.begin extra.options)
      (fun processor => E.begin processor extra.options) (fun _ => []) .transactionReady handler
      (s.serveAmid E.journaled arrivals (.begin extra) handler) := by
  have hanswer : (s.phase.answer E.journaled s.self (.begin extra) :
      Action (Journal σ P) (Numbered P) H Phase) =
      (Phase.provideFor E.journaled s.self extra >>= fun _ =>
        (Connection.call fun p => E.journaled.orIdle.begin p extra.options) >>=
        fun _ => pure .transactionReady) := by
    rw [hready]
    rfl
  refine opens_of_answer h Request.noConfusion hanswer (fun _ => rfl) ?_
  rintro ⟨⟩ ⟨relay, bound, notice, signals, engine⟩ hrelay
  obtain rfl : relay = _ := hrelay
  rfl

/-- A statement within a transaction. -/
lemma executes_run (h : s.IsFree E) (htransactional : s.phase.isTransactional) {p : Numbered P}
    (hbound : s.connection.bound = some p) (run : Run) :
    Executes (s.checked E) p (.run run.query run.parameters none)
      (E.run p.processor run.query run.parameters none)
      (fun info => info.reports ++ [.metadata "qid" (.integer info.statement)])
      .transactionStreaming handler (s.serveAmid E.journaled arrivals (.run run) handler) := by
  have hattending : s.attending E handler arrivals =
      { s.attending E handler arrivals with bound := some p, engine := s.checked E } := by
    rw [← hbound]
    rfl
  have hanswer := congrFun (answer_run_of_isTransactional (H := H) E.journaled s.self
    htransactional run) (s.attending E handler arrivals)
  refine executes_of_answer h Request.noConfusion (hanswer.trans (congrArg _ hattending)) rfl ?_
  intro info d hrelay
  refine (bind_of_ok (describe_of_attached hrelay info)).trans ?_
  rw [Sink.tellAll_snoc]
  rfl

/-- A statement within a transaction that has no processor. -/
lemma failedAt_run (h : s.IsFree E) (htransactional : s.phase.isTransactional)
    (hbound : s.connection.bound = none) (run : Run) :
    FailedAt (s.checked E) .noProcessor handler
      (s.serveAmid E.journaled arrivals (.run run) handler) := by
  have hanswer := congrFun (answer_run_of_isTransactional (H := H) E.journaled s.self
    htransactional run) (s.attending E handler arrivals)
  have hcalled : Connection.call
      (fun p => E.journaled.orIdle.run p run.query run.parameters none)
      (s.attending E handler arrivals) = .error .noProcessor (s.attending E handler arrivals) := by
    have hnotice : (s.attending E handler arrivals).notice = none := h.notice
    apply eq_error_of_wp
    rw [wp_call_of_bound hnotice hbound]
    exact ⟨rfl, rfl⟩
  exact failedAt_of_answer h Request.noConfusion s.connection.bound
    (hanswer.trans (bind_of_error hcalled))

/-- A session that nothing keeps from it passes on every RUN and BEGIN as the client means it, and
tells the client what the processor says about a statement. -/
theorem work_forwarded (E : Engine σ P ρ) {s : Session (Journal σ P) (Numbered P) H}
    (h : s.IsFree E) (arrivals : Nat) (handler : H) : s.Forwards E arrivals handler where
  checked := (validate_of_isFree h).2
  run hready run :=
    ⟨_, _, run.extra.targets_database _, run.extra.asks_options, opens_run h hready run⟩
  begin hready extra :=
    ⟨_, _, extra.targets_database _, extra.asks_options, opens_begin h hready extra⟩
  statement htransactional _ hbound run := executes_run h htransactional hbound run
  unbound htransactional hbound run := failedAt_run h htransactional hbound run
  run_unread _ _ hread :=
    serveAmid_congr h Request.noConfusion Request.noConfusion (answer_run_congr _ _ hread)
  begin_unread _ _ hread :=
    serveAmid_congr h Request.noConfusion Request.noConfusion (answer_begin_congr _ _ hread)

/-- A session that was greeted. -/
def attentive : Session (Journal (List Record) Unit) (Numbered Unit) (Reply (List Response)) :=
  (start {} { state := [] }).after (Engine.shelf threeRows).journaled
    [.request (.hello ∅) { output := [] } 0]

/-- A statement with many options, of which some say nothing. -/
def particular : Run where
  query := "q"
  extra := .ofList [("db", .text ""), ("bookmarks", .list [.text "a", .null, .text "b"]),
    ("tx_timeout", .integer 5), ("mode", .text "READ"), ("tx_metadata", .text "none"),
    ("other", .boolean true)]

/-- The empty text names a database, and what is no option is skipped. -/
theorem work_forwarded_particular :
    attentive.IsFree (Engine.shelf threeRows) ∧
    attentive.Forwards (Engine.shelf threeRows) 0 { output := [] } ∧
    (attentive.serveAmid (Engine.shelf threeRows).journaled 0 (.run particular)
      { output := [] }).session.connection.engine.events =
      [.provided "" (.ok ⟨0, ()⟩),
        .called ⟨0, ()⟩
          (.run "q" ∅ (some
            { bookmarks := ["a", "b"], timeout := some (.ofMilliseconds 5), mode := .read }))
          .done] := by
  have hfree : attentive.IsFree (Engine.shelf threeRows) :=
    ⟨rfl, rfl, rfl, rfl, rfl, fun _ _ => rfl⟩
  have hforwards := work_forwarded (Engine.shelf threeRows) hfree 0 { output := [] }
  refine ⟨hfree, hforwards, ?_⟩
  obtain ⟨database, ⟨bookmarks, timeout, mode, metadata⟩, htargets, hasks, hopens⟩ :=
    hforwards.run rfl particular
  obtain rfl : database = "" := htargets.1 "" rfl
  obtain rfl : bookmarks = ["a", "b"] := hasks.bookmarks _ rfl
  obtain rfl : timeout = some (.ofMilliseconds 5) := hasks.timeout 5 rfl (by decide)
  obtain rfl : mode = .read := hasks.mode.mpr ⟨"READ", rfl, .inr rfl⟩
  obtain rfl : metadata = ∅ := hasks.no_metadata nofun
  exact congrArg Journal.events hopens.journal

end

end Session

end QuerySession
