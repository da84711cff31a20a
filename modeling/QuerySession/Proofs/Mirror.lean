import QuerySession.Proofs.Handlers
import QuerySession.Proofs.Signals
import QuerySession.Proofs.Typestate.Run

/-!
# The phase mirrors the processor

A session and its processor only meet through what calls return. If the processor keeps its side of
the bargain, the two never drift apart: the phase says whether the processor has a transaction open
and whether some statement has rows left, however many statements are streamed in whatever order.
So COMMIT never comes while rows are left.

* `Engine.KeepsContract`: what a processor says about itself after each call;
* `Engine.watched`: the same engine, with a note whether COMMIT ever came too early;
* `mirror`: the typestate that says stage by stage what the processor says about itself;
* `Session.phase_mirrors_processor`: the rule.
-/

namespace QuerySession

variable {σ P ρ H α : Type}

/-! ## What a processor says about itself -/

namespace Engine

/-- Whether a transaction is open on a processor, and whether some statement has rows left. -/
def answers (E : Engine σ P ρ) (p : P) (s : σ) : Bool × Bool :=
  (E.inTransaction p s, E.isStreaming p s)

/-- A processor says what can be expected of it. Nothing is open on a new one. BEGIN opens a
transaction, without a statement. A statement has rows left once it is run, and as long as a batch
says so, and neither touches the transaction. The question whether a transaction is alive changes
nothing if it is. -/
structure KeepsContract [RecordSource ρ] (E : Engine σ P ρ) : Prop where
  provide : ∀ {database s p t}, E.provide database s = .ok p t → E.answers p t = (false, false)
  begin : ∀ {p options s t}, E.begin p options s = .ok () t → E.answers p t = (true, false)
  run : ∀ {p query parameters options s info t},
    E.run p query parameters options s = .ok info t → E.answers p t = (E.inTransaction p s, true)
  stream : ∀ {p number mode size s} {H : Type} [Sink H] {sink : H} {outcome t},
    ((E.stream p number mode size s).play sink).1 = .ok outcome t →
      E.inTransaction p t = E.inTransaction p s ∧ (outcome.hasMore → E.isStreaming p t)
  validate : ∀ {p s t}, E.validate p s = (none, t) → E.answers p t = E.answers p s

end Engine

/-! ## A note on early COMMITs -/

/-- An engine's state, and whether some COMMIT came while rows were left. -/
structure Watched (σ : Type) where
  state : σ
  spoiled : Bool := false

namespace Watched

/-- Makes a call. -/
def call (act : EStateM Fault σ α) : EStateM Fault (Watched σ) α := fun w =>
  match act w.state with
  | .ok a state => .ok a { w with state }
  | .error fault state => .error fault { w with state }

/-- What came of a batch. -/
def outcome (w : Watched σ) : EStateM.Result Fault σ α → EStateM.Result Fault (Watched σ) α
  | .ok a state => .ok a { w with state }
  | .error fault state => .error fault { w with state }

end Watched

/-- The same engine, watched for a COMMIT that comes while rows are left. -/
def Engine.watched (E : Engine σ P ρ) : Engine (Watched σ) P ρ where
  provide database := Watched.call (E.provide database)
  database? p w := E.database? p w.state
  inTransaction p w := E.inTransaction p w.state
  isStreaming p w := E.isStreaming p w.state
  begin p options := Watched.call (E.begin p options)
  run p query parameters options := Watched.call (E.run p query parameters options)
  stream p statement mode size w := (E.stream p statement mode size w.state).map w.outcome
  commit p w := Watched.call (E.commit p) { w with spoiled := w.spoiled || E.isStreaming p w.state }
  rollback p := Watched.call (E.rollback p)
  reset p := Watched.call (E.reset p)
  abort p w := { w with state := E.abort p w.state }
  validate p w := (E.validate p w.state).map id fun state => { w with state }

namespace Watched

variable {w : Watched σ} {failed : Fault → Watched σ → Prop}

/-- A call keeps the note. -/
lemma wp_call {done : α → Watched σ → Prop} (act : EStateM Fault σ α) :
    wp (Watched.call act) done failed w ↔
      wp act (fun a state => done a { w with state })
        (fun fault state => failed fault { w with state }) w.state := by
  unfold wp Watched.call
  cases act w.state <;> rfl

lemma meets_stream [RecordSource ρ] [Sink H] {done : BatchEnd → Watched σ → Prop}
    (E : Engine σ P ρ) (p : P) (number : Int64) (mode : BatchMode) (size : Int64) (sink : H) :
    Meets done failed ((E.watched.stream p number mode size w).play sink).1 ↔
      Meets (fun outcome state => done outcome { w with state })
        (fun fault state => failed fault { w with state })
        ((E.stream p number mode size w.state).play sink).1 := by
  have hstream : (E.watched.stream p number mode size w).play sink =
      Prod.map w.outcome id ((E.stream p number mode size w.state).play sink) :=
    Dialogue.play_map _ _ _
  rw [hstream]
  generalize (E.stream p number mode size w.state).play sink = played
  obtain ⟨result, left⟩ := played
  cases result <;> rfl

end Watched

/-! ## The typestate -/

/-- What a processor says about itself at a stage of its work. -/
def Stage.answers? : Stage → Option (Bool × Bool)
  | statement => some (false, true)
  | transaction => some (true, false)
  | transactionStatement => some (true, true)
  | halted => none

/-- No COMMIT came too early, and the processor says what goes with the stage. -/
def Mirrored (E : Engine σ P ρ) (stage : Stage) (p : P) (w : Watched σ) : Prop :=
  w.spoiled = false ∧ ∀ answers, stage.answers? = some answers → E.answers p w.state = answers

section
variable {E : Engine σ P ρ} {p : P} {w : Watched σ}

lemma mirrored_of_answers {stage : Stage} {answers : Bool × Bool} (hw : w.spoiled = false)
    (hstage : stage.answers? = some answers) (h : E.answers p w.state = answers) :
    Mirrored E stage p w := by
  refine ⟨hw, fun other hother => ?_⟩
  rw [h]
  exact Option.some.inj (hstage.symm.trans hother)

lemma mirrored_halted (hw : w.spoiled = false) : Mirrored E .halted p w := ⟨hw, nofun⟩

end

/-- What a processor that keeps its contract says about itself, stage by stage. -/
def mirror [RecordSource ρ] (E : Engine σ P ρ) (hcontract : E.KeepsContract) :
    Typestate E.watched where
  unbound w := w.spoiled = false
  opened p w := w.spoiled = false ∧ E.answers p w.state = (false, false)
  holds := Mirrored E
  provide database hw := (Watched.wp_call _).mpr
    (.intro (fun _ _ heq => ⟨hw, hcontract.provide heq⟩) fun _ _ _ => hw)
  begin options h := (Watched.wp_call _).mpr
    (.intro (fun _ _ heq => mirrored_of_answers h.1 rfl (hcontract.begin heq))
      fun _ _ _ => mirrored_halted h.1)
  run {p w} query parameters options h := by
    refine (Watched.wp_call _).mpr (.intro (fun info t heq => ?_) fun _ _ _ => mirrored_halted h.1)
    have htransaction : E.inTransaction p w.state = false := congrArg Prod.fst h.2
    have hanswers := hcontract.run heq
    rw [htransaction] at hanswers
    exact mirrored_of_answers h.1 rfl hanswers
  runWithin {stage p w} query parameters hstage h := by
    refine (Watched.wp_call _).mpr (.intro (fun info t heq => ?_) fun _ _ _ => mirrored_halted h.1)
    have htransaction : E.inTransaction p w.state = true := by
      rcases hstage with rfl | rfl
      · exact congrArg Prod.fst (h.2 _ rfl)
      · exact congrArg Prod.fst (h.2 _ rfl)
    have hanswers := hcontract.run heq
    rw [htransaction] at hanswers
    exact mirrored_of_answers h.1 rfl hanswers
  stream {p w} mode size H _ sink h := by
    refine (Watched.meets_stream E p _ mode size sink).mpr
      (.intro (fun outcome t heq => ?_) fun _ _ _ => mirrored_halted h.1)
    obtain ⟨htransaction, hmore⟩ := hcontract.stream heq
    split
    · rename_i hhas
      have hnone : E.inTransaction p w.state = false := congrArg Prod.fst (h.2 _ rfl)
      exact mirrored_of_answers h.1 rfl (Prod.ext (htransaction.trans hnone) (hmore hhas))
    · exact h.1
  streamWithin {p w} number mode size H _ sink h := by
    refine (Watched.meets_stream E p _ mode size sink).mpr
      (.intro (fun outcome t heq => ?_) fun _ _ _ => mirrored_halted h.1)
    obtain ⟨hkept, hmore⟩ := hcontract.stream heq
    have htransaction : E.inTransaction p t = true :=
      hkept.trans (congrArg Prod.fst (h.2 _ rfl))
    -- only a batch without rows left makes the session ask for other statements
    have hstreaming : (outcome.hasMore || E.isStreaming p t) = E.isStreaming p t := by
      cases hhas : outcome.hasMore with
      | false => exact Bool.false_or _
      | true => rw [Bool.true_or, hmore hhas]
    have hasked : E.watched.isStreaming p { w with state := t } = E.isStreaming p t := rfl
    rw [hasked, hstreaming]
    split
    · rename_i hrows
      exact mirrored_of_answers h.1 rfl (Prod.ext htransaction hrows)
    · rename_i hnone
      exact mirrored_of_answers h.1 rfl
        (Prod.ext htransaction (Bool.eq_false_iff.mpr hnone))
  commit {p w} h := by
    have hrows : E.isStreaming p w.state = false := congrArg Prod.snd (h.2 _ rfl)
    have hspoiled : (w.spoiled || E.isStreaming p w.state) = false := by
      rw [hrows, Bool.or_false]
      exact h.1
    exact (Watched.wp_call (w := { w with spoiled := w.spoiled || E.isStreaming p w.state }) _).mpr
      (.intro (fun _ _ _ => hspoiled) fun _ _ _ => mirrored_halted hspoiled)
  rollback h := (Watched.wp_call _).mpr
    (.intro (fun _ _ _ => h.1) fun _ _ _ => mirrored_halted h.1)
  reset h := (Watched.wp_call _).mpr (.intro (fun _ _ _ => h.1) fun _ _ _ => h.1)
  abort h := mirrored_halted h.1
  validate {stage p w} h := by
    have hasked : E.watched.validate p w =
        ((E.validate p w.state).1, { w with state := (E.validate p w.state).2 }) := rfl
    rw [hasked]
    cases hfound : (E.validate p w.state).1 with
    | none =>
      refine ⟨h.1, fun answers hanswers => ?_⟩
      have hkept := hcontract.validate (Prod.ext hfound rfl)
      exact hkept.trans (h.2 answers hanswers)
    | some status => exact h.1
  halt h := mirrored_halted h.1

/-! ## The rule -/

namespace Session

/-- The phase says what the bound processor says about itself. -/
structure Mirrors (E : Engine σ P ρ) (s : Session (Watched σ) P H) : Prop where
  ready : s.phase = .ready → s.connection.bound = none
  streaming : s.phase = .streaming → ∃ p, s.connection.bound = some p ∧
    E.inTransaction p s.connection.engine.state = false ∧
    E.isStreaming p s.connection.engine.state = true
  transactionReady : s.phase = .transactionReady → ∃ p, s.connection.bound = some p ∧
    E.inTransaction p s.connection.engine.state = true ∧
    E.isStreaming p s.connection.engine.state = false
  transactionStreaming : s.phase = .transactionStreaming → ∃ p, s.connection.bound = some p ∧
    E.inTransaction p s.connection.engine.state = true ∧
    E.isStreaming p s.connection.engine.state = true

section
variable [RecordSource ρ] {E : Engine σ P ρ} {hcontract : E.KeepsContract}
  {s : Session (Watched σ) P H}

lemma answers_of_working {stage : Stage} (h : (mirror E hcontract).Working stage s.connection)
    {transaction rows : Bool} (hstage : stage.answers? = some (transaction, rows)) :
    ∃ p, s.connection.bound = some p ∧
      E.inTransaction p s.connection.engine.state = transaction ∧
      E.isStreaming p s.connection.engine.state = rows := by
  obtain ⟨-, p, hp, -, hanswers⟩ := h
  have hsays := hanswers _ hstage
  exact ⟨p, hp, congrArg Prod.fst hsays, congrArg Prod.snd hsays⟩

lemma mirrors_of_fits (h : (mirror E hcontract).Fits s.phase s.connection) : s.Mirrors E where
  ready hphase := by
    rw [hphase] at h
    exact h.1.1
  streaming hphase := by
    rw [hphase] at h
    exact answers_of_working h rfl
  transactionReady hphase := by
    rw [hphase] at h
    exact answers_of_working h rfl
  transactionStreaming hphase := by
    rw [hphase] at h
    exact answers_of_working h rfl

lemma spoiled_of_fits (h : (mirror E hcontract).FitsAccepted s.phase s.connection) :
    s.connection.engine.spoiled = false := by
  rcases h.idle_or_working with hidle | ⟨stage, -, p, -, hmirrored⟩
  · exact hidle.2
  · exact hmirrored.1

variable [Sink H]

/-- As long as processors keep their contract, the phase mirrors what the bound one says about
itself, whatever a session receives; and no COMMIT ever comes while a statement has rows left. What
is reported between two requests may keep the loss of a processor from being shown, but then a
notice is pending. -/
theorem phase_mirrors_processor (E : Engine σ P ρ) (hcontract : E.KeepsContract) (self : Identity)
    (engine : σ) (inputs : List (Input H)) {s : Session (Watched σ) P H}
    (hreached : s = (start self { state := engine }).after E.watched inputs) :
    ((∀ report, .report report ∉ inputs) ∨ s.connection.notice = none → s.Mirrors E) ∧
      s.connection.engine.spoiled = false := by
  have hstart : (mirror E hcontract).Fits .connected
      (start (H := H) self ({ state := engine } : Watched σ)).connection := ⟨⟨rfl, rfl⟩, rfl⟩
  have haccepted : (mirror E hcontract).FitsAccepted s.phase s.connection := by
    rw [hreached]
    exact Typestate.fitsAccepted_after inputs (Or.inl hstart)
  refine ⟨fun hshown => ?_, spoiled_of_fits haccepted⟩
  rcases hshown with hinputs | hnotice
  · have hfits := Typestate.fits_after (T := mirror E hcontract) hinputs
      (s := start self { state := engine }) rfl hstart
    rw [← hreached] at hfits
    exact mirrors_of_fits hfits.2
  · exact mirrors_of_fits (haccepted.resolve_right fun hlost => hlost.2.1 hnotice)

end
end Session

/-! ## An engine -/

/-- An engine whose statements have one row each. Its state is whether a transaction is open, and
how many rows are left. -/
def Engine.tally : Engine (Bool × Nat) Unit RowBuffer where
  provide _ := fun _ => .ok () (false, 0)
  database? _ _ := none
  inTransaction _ s := s.1
  isStreaming _ s := 0 < s.2
  begin _ _ := fun _ => .ok () (true, 0)
  run _ _ _ _ := fun s => .ok { columns := [], statement := .ofNat s.2 } (s.1, s.2 + 1)
  stream _ _ mode size s :=
    .batch mode size { rows := [[]] } fun _ _ => .done (.ok {} (s.1, s.2 - 1))
  commit _ := fun _ => .ok "" (false, 0)
  rollback _ := fun _ => .ok () (false, 0)
  reset _ := fun _ => .ok () (false, 0)
  abort _ s := s
  validate _ s := (none, s)

lemma keepsContract_tally : Engine.tally.KeepsContract where
  provide h := by cases h; rfl
  begin h := by cases h; rfl
  run {p query parameters options s info t} h := by
    cases h
    exact Prod.ext rfl (decide_eq_true (Nat.succ_pos s.2))
  stream {p number mode size s H _ sink outcome t} h := by
    have hplayed : ((Engine.tally.stream p number mode size s).play sink).1 =
        .ok {} (s.1, s.2 - 1) := by
      show (Dialogue.play (.batch mode size ({ rows := [[]] } : RowBuffer) _) sink).1 = _
      unfold Dialogue.play
      split <;> rfl
    rw [hplayed] at h
    cases h
    exact ⟨rfl, nofun⟩
  validate h := by cases h; rfl

namespace Session

/-- A session with two statements in one transaction, and some batches. -/
def twoStatements (batches : Nat) :
    Session (Watched (Bool × Nat)) Unit (OrReply (Reply (List Response))) :=
  (start {} { state := (false, 0) }).after Engine.tally.watched
    ([.request (.hello ∅) .blank 0, .request (.begin ∅) .blank 0,
      .request (.run { query := "" }) .blank 0, .request (.run { query := "" }) .blank 0] ++
      List.replicate batches (.request (.stream .pull {}) .blank 0))

/-- The first batch leaves the rows of the other statement, the second one leaves none. -/
theorem phase_mirrors_processor_twoStatements :
    (∃ p, (twoStatements 1).connection.bound = some p ∧
      Engine.tally.inTransaction p (twoStatements 1).connection.engine.state = true ∧
      Engine.tally.isStreaming p (twoStatements 1).connection.engine.state = true) ∧
    ∃ p, (twoStatements 2).connection.bound = some p ∧
      Engine.tally.inTransaction p (twoStatements 2).connection.engine.state = true ∧
      Engine.tally.isStreaming p (twoStatements 2).connection.engine.state = false := by
  obtain ⟨hfirst, -⟩ := phase_mirrors_processor Engine.tally keepsContract_tally {} (false, 0) _
    (s := twoStatements 1) rfl
  obtain ⟨hsecond, -⟩ := phase_mirrors_processor Engine.tally keepsContract_tally {} (false, 0) _
    (s := twoStatements 2) rfl
  exact ⟨(hfirst (Or.inr (by decide +kernel))).transactionStreaming (by decide +kernel),
    (hsecond (Or.inr (by decide +kernel))).transactionReady (by decide +kernel)⟩

end Session
end QuerySession
