import QuerySession.Proofs.Bounds
import QuerySession.Proofs.Draining
import QuerySession.Proofs.Streaming

/-!
# Summaries that are lost

A client may go away while its requests are served. As long as it takes the rows that it asked for,
this makes no difference to the session: whether a summary could be written is heard by nobody.

* `Session.servings`, `Served.seen`: the requests of a run, and what can be seen of them;
* `Session.Idle.course_eq`: two runs take the same course whose handlers answer alike, if none of
  them goes bad;
* `Audited`: an output that keeps account of whether it refused a record;
* `Session.lost_summaries`: the rule.
-/

namespace QuerySession

variable {σ P ρ H K O O' α β : Type}

/-! ## Runs -/

/-- The same input, with another handler. -/
def Input.map (f : α → β) : Input α → Input β
  | .request asked handler interrupts => .request asked (f handler) interrupts
  | .interrupt => .interrupt
  | .terminate => .terminate
  | .close => .close
  | .report told => .report told

lemma Input.map_map {γ : Type} (f : α → β) (g : β → γ) (inputs : List (Input α)) :
    (inputs.map (Input.map f)).map (Input.map g) = inputs.map (Input.map (g ∘ f)) := by
  have hmap : Input.map g ∘ Input.map f = Input.map (g ∘ f) := by
    funext input
    cases input <;> rfl
  rw [List.map_map, hmap]

/-- What can be seen of a request: what it returned, and the session after it, but for handlers. -/
def Served.seen (served : Served σ P H) : Except Fault Unit × Session σ P Empty :=
  (served.outcome, served.session.detached)

namespace Session

/-- What every request of a run came to, one after the other. -/
def servings [Sink H] [RecordSource ρ] (E : Engine σ P ρ) :
    List (Input H) → Session σ P H → List (Served σ P H)
  | [], _ => []
  | .request asked handler interrupts :: inputs, s =>
    let served := s.serveAmid E interrupts asked handler
    served :: servings E inputs served.session
  | input :: inputs, s => servings E inputs (s.receive E input)

/-- What can be seen of a run: of its requests, and at its end. -/
def course [Sink H] [RecordSource ρ] (E : Engine σ P ρ) (inputs : List (Input H))
    (s : Session σ P H) : List (Except Fault Unit × Session σ P Empty) × Session σ P Empty :=
  ((s.servings E inputs).map Served.seen, (s.after E inputs).detached)

lemma Same.detached_eq {s : Session σ P H} {t : Session σ P K} (h : s.Same t) :
    (s.detached : Session σ P α) = t.detached := by
  obtain ⟨self, ⟨⟨handler, failure, ignored⟩, bound, notice, signals, engine⟩, phase⟩ := s
  obtain ⟨self', ⟨⟨handler', failure', ignored'⟩, bound', notice', signals', engine'⟩, phase'⟩ := t
  obtain ⟨rfl, rfl, ⟨⟨rfl, rfl⟩, rfl, rfl, rfl, rfl⟩⟩ := h
  rfl

/-- Two sessions are the same, and have no handlers. -/
abbrev Idle (s : Session σ P H) (t : Session σ P K) : Prop :=
  s.Alike (Relay.Alike fun _ _ => False) t

lemma Idle.same {s : Session σ P H} {t : Session σ P K} (h : s.Idle t) : s.Same t :=
  ⟨h.self, h.phase, { h.connection with relay := h.connection.relay.toSameMemory }⟩

lemma Same.idle {s : Session σ P H} {t : Session σ P K} (h : s.Same t)
    (hs : s.connection.relay = {}) (ht : t.connection.relay = {}) : s.Idle t := by
  refine ⟨h.self, h.phase, { h.connection with relay := ?_ }⟩
  rw [hs, ht]
  exact ⟨⟨rfl, rfl⟩, .none⟩

section
variable [Sink H] [Sink K] [RecordSource ρ] {E : Engine σ P ρ} {R : H → K → Prop}
  {bad : H → Prop} {bad' : K → Prop}

/-- Two runs take the same course whose handlers answer alike, if none of them goes bad. -/
theorem Idle.course_eq (hR : Sink.AlikeUnless bad bad' R) {f : α → H} {g : α → K}
    (hfg : ∀ x, R (f x) (g x)) (inputs : List (Input α)) {s : Session σ P H} {t : Session σ P K}
    (h : s.Idle t)
    (hgood : ∀ served ∈ s.servings E (inputs.map (Input.map f)), ∀ told,
      served.handler = some told → ¬ bad told)
    (hgood' : ∀ served ∈ t.servings E (inputs.map (Input.map g)), ∀ told,
      served.handler = some told → ¬ bad' told) :
    s.course E (inputs.map (Input.map f)) = t.course E (inputs.map (Input.map g)) := by
  induction inputs generalizing s t with
  | nil => exact congrArg (Prod.mk []) h.same.detached_eq
  | cons input inputs ih =>
    -- between requests no handler is attached, so any relation between handlers will do
    have hnever : Sink.TellsAlike (fun (_ : H) (_ : K) => False) := ⟨fun _ h => h⟩
    cases input with
    | request asked x interrupts =>
      have hserved := h.same.serveAmid_unless hR interrupts asked (hfg x)
        (hgood _ List.mem_cons_self) (hgood' _ List.mem_cons_self)
      have hnext : (s.serveAmid E interrupts asked (f x)).session.Idle
          (t.serveAmid E interrupts asked (g x)).session :=
        hserved.session.idle (relay_settle _) (relay_settle _)
      have hrest := ih hnext (fun served hmem => hgood served (List.mem_cons_of_mem _ hmem))
        (fun served hmem => hgood' served (List.mem_cons_of_mem _ hmem))
      have hseen : (s.serveAmid E interrupts asked (f x)).seen =
          (t.serveAmid E interrupts asked (g x)).seen :=
        Prod.ext hserved.outcome hserved.session.detached_eq
      obtain ⟨hlater, hend⟩ := Prod.mk.inj hrest
      exact Prod.ext (congrArg₂ List.cons hseen hlater) hend
    | interrupt => exact ih (h.signal _) hgood hgood'
    | terminate => exact ih (h.signal _) hgood hgood'
    | close => exact ih h.close hgood hgood'
    | report told => exact ih (h.tell hnever told) hgood hgood'

end

end Session

/-! ## Outputs that are audited -/

/-- An output that keeps account of whether it refused a record. -/
structure Audited (O : Type) where
  output : O
  refused : Bool := false

namespace Audited

variable [ResponseWriter O] [ResponseWriter O']

/-- An audited output takes what it would take otherwise. -/
def write (response : Response) : EStateM Fault (Audited O) Unit := fun w =>
  match ResponseWriter.write response w.output with
  | .ok () output => .ok () { w with output }
  | .error fault output => .error fault { output, refused := w.refused || response.isRecord }

instance : ResponseWriter (Audited O) where
  write := write

omit [ResponseWriter O'] in
/-- Nobody notices that an output is audited. -/
lemma alike : ResponseWriter.Alike (fun (output : O) (w : Audited O) => w.output = output) where
  record row {output w} h := by
    subst h
    show Agree _ _ (write (.record row) w)
    unfold write
    cases ResponseWriter.write (.record row) w.output with
    | ok _ after => exact .ok rfl
    | error fault after => exact .error rfl
  summary response {output w} h := by
    subst h
    show (finalState (write response w)).output = _
    unfold write
    cases ResponseWriter.write response w.output <;> rfl

omit [ResponseWriter O'] in
/-- What an output has refused stays so. -/
lemma refused_write (response : Response) {w : Audited O} (h : w.refused = true) :
    (finalState (ResponseWriter.write response w)).refused = true := by
  show (finalState (write response w)).refused = true
  unfold write
  rw [h]
  cases ResponseWriter.write response w.output <;> rfl

end Audited

namespace Reply

variable [ResponseWriter O] [ResponseWriter O'] [RecordSource ρ]

/-- A reply whose output has refused a record. -/
def Refused (r : Reply (Audited O)) : Prop := r.output.refused = true

omit [ResponseWriter O'] in
lemma refused_takeRows (mode : BatchMode) (budget : ℕ) (result : ρ) {out : Audited O}
    (h : out.refused = true) :
    (finalState (takeRows (deliver mode) budget (out, result))).1.refused = true := by
  induction budget generalizing out result with
  | zero => exact h
  | succ budget ih =>
    unfold takeRows
    cases RecordSource.next result with
    | error fault rest => exact h
    | ok row? rest =>
      cases row? with
      | none => exact h
      | some row =>
        have hdelivered : (finalState (deliver mode row out)).refused = true := by
          cases mode with
          | pull => exact Audited.refused_write (.record row) h
          | discard => exact h
        dsimp only
        generalize deliver mode row out = delivered at hdelivered
        cases delivered with
        | ok _ after => exact ih rest hdelivered
        | error fault after => exact hdelivered

omit [ResponseWriter O'] [RecordSource ρ] in
/-- A row is delivered, or refused. -/
lemma deliver_cases (mode : BatchMode) (row : Record) (w : Audited O) :
    (∃ after, deliver mode row w = .ok () after) ∨
      ∃ fault after, deliver mode row w = .error fault after ∧ after.refused = true := by
  cases mode with
  | discard => exact .inl ⟨w, rfl⟩
  | pull =>
    have hdeliver : deliver .pull row w = Audited.write (.record row) w := rfl
    rw [hdeliver]
    unfold Audited.write
    cases ResponseWriter.write (.record row) w.output with
    | ok _ after => exact .inl ⟨_, rfl⟩
    | error fault after => exact .inr ⟨_, _, rfl, Bool.or_true _⟩

/-- Outputs that refuse no record leave the same of a result. -/
lemma takeRows_unless (mode : BatchMode) (budget : ℕ) (result : ρ) {out : Audited O}
    {out' : Audited O'}
    (hgood : ¬ (finalState (takeRows (deliver mode) budget (out, result))).1.refused = true)
    (hgood' : ¬ (finalState (takeRows (deliver mode) budget (out', result))).1.refused = true) :
    Agree (fun x y => True ∧ x.2 = y.2) (takeRows (deliver mode) budget (out, result))
      (takeRows (deliver mode) budget (out', result)) := by
  induction budget generalizing out out' result with
  | zero => exact .ok ⟨trivial, rfl⟩
  | succ budget ih =>
    unfold takeRows at hgood hgood' ⊢
    cases hnext : RecordSource.next result with
    | error fault rest => exact .error ⟨trivial, rfl⟩
    | ok row? rest =>
      cases row? with
      | none => exact .ok ⟨trivial, rfl⟩
      | some row =>
        rw [hnext] at hgood hgood'
        dsimp only at hgood hgood' ⊢
        -- an output that refuses the row would have been good no longer
        rcases deliver_cases mode row out with ⟨after, htaken⟩ | ⟨fault, after, hrefused, hbad⟩
        · rcases deliver_cases mode row out' with
            ⟨after', htaken'⟩ | ⟨fault', after', hrefused', hbad'⟩
          · rw [htaken] at hgood ⊢
            rw [htaken'] at hgood' ⊢
            exact ih rest hgood hgood'
          · rw [hrefused'] at hgood'
            exact absurd hbad' hgood'
        · rw [hrefused] at hgood
          exact absurd hbad hgood

omit [ResponseWriter O'] in
/-- A reply does not forget that its output has refused a record. -/
lemma absorbing_refused : Sink.Absorbing (Refused (O := O)) where
  tell report hrefused := by
    rename_i r
    cases report with
    | finished =>
      show r.finish.output.refused = true
      rw [output_finish]
      exact Audited.refused_write _ hrefused
    | _ => exact hrefused
  batch mode size result hrefused := by
    rename_i r
    show (finalState (Reply.batch mode size (r, result))).1.output.refused = true
    rw [finalState_batch]
    exact refused_takeRows mode _ result hrefused

/-- Replies that refuse no record answer alike, whatever becomes of their summaries. -/
lemma alikeUnless : Sink.AlikeUnless (Refused (O := O)) (Refused (O := O'))
    (Reply.Alike fun _ _ => True) where
  tell report h := h.tell (fun _ _ _ _ => trivial) report
  absorbing := absorbing_refused
  absorbing' := absorbing_refused
  batch mode size result h hgood hgood' := by
    rename_i r r'
    change ¬ (finalState (Reply.batch mode size (r, result))).1.output.refused = true at hgood
    change ¬ (finalState (Reply.batch mode size (r', result))).1.output.refused = true at hgood'
    rw [finalState_batch] at hgood hgood'
    exact h.batch (takeRows_unless mode _ result hgood hgood')

end Reply

/-! ## The rule -/

/-- A request that is answered by a new reply to an output. -/
def Input.replying : Input O → Input (Reply O) := Input.map fun output => { output }

/-- A request that is answered by a new reply to an output, which is audited. -/
def Input.audited : Input O → Input (Reply (Audited O)) :=
  Input.map fun output => { output := { output } }

namespace Session

variable [RecordSource ρ] [ResponseWriter O] [ResponseWriter O']

/-- In a run every record is taken that is written to an output of its requests. -/
def TakesEveryRecord (E : Engine σ P ρ) (inputs : List (Input O)) (s : Session σ P H) : Prop :=
  ∀ served ∈ (s.detached : Session σ P (Reply (Audited O))).servings E (inputs.map Input.audited),
    ∀ reply, served.handler = some reply → reply.output.refused = false

omit [RecordSource ρ] [ResponseWriter O] [ResponseWriter O'] in
lemma idle_detached (s : Session σ P H) : (s.detached : Session σ P α).Idle
    (s.detached : Session σ P β) :=
  ⟨rfl, rfl, ⟨⟨⟨rfl, rfl⟩, .none⟩, rfl, rfl, rfl, rfl⟩⟩

omit [ResponseWriter O'] in
/-- A run takes its course, whether or not its outputs are audited. -/
lemma course_audited (E : Engine σ P ρ) (inputs : List (Input O)) (s : Session σ P H) :
    s.detached.course E (inputs.map Input.replying) =
      s.detached.course E (inputs.map Input.audited) := by
  have hfg (output : O) : Reply.Alike (fun (output : O) (w : Audited O) => w.output = output)
      { output } { output := { output } } := ⟨rfl, rfl, rfl, rfl⟩
  exact s.idle_detached.course_eq (Reply.alike Audited.alike).unless hfg inputs
    (fun _ _ _ _ hbad => hbad) (fun _ _ _ _ hbad => hbad)

/-- A run takes the same course for any two choices of the outputs that the replies to its requests
write to, as long as both take every record. The summaries may be written in the one run and lost
in the other: the requests return the same, the sessions after them are the same, and so are the
calls on processors, which the journal keeps. -/
theorem lost_summaries (E : Engine σ P ρ) (s : Session (Journal σ P) (Numbered P) H)
    (inputs : List (Input (O × O')))
    (htaken : s.TakesEveryRecord E.journaled (inputs.map (Input.map Prod.fst)))
    (htaken' : s.TakesEveryRecord E.journaled (inputs.map (Input.map Prod.snd))) :
    s.detached.course E.journaled ((inputs.map (Input.map Prod.fst)).map Input.replying) =
      s.detached.course E.journaled ((inputs.map (Input.map Prod.snd)).map Input.replying) := by
  have hfg (outputs : O × O') : Reply.Alike (fun (_ : Audited O) (_ : Audited O') => True)
      { output := { output := outputs.1 } } { output := { output := outputs.2 } } :=
    ⟨trivial, rfl, rfl, rfl⟩
  have hfirst : (inputs.map (Input.map Prod.fst)).map Input.audited =
      inputs.map (Input.map fun outputs : O × O' => { output := { output := outputs.1 } }) :=
    Input.map_map _ _ _
  have hsecond : (inputs.map (Input.map Prod.snd)).map Input.audited =
      inputs.map (Input.map fun outputs : O × O' => { output := { output := outputs.2 } }) :=
    Input.map_map _ _ _
  unfold TakesEveryRecord at htaken htaken'
  rw [course_audited, course_audited]
  rw [hfirst] at htaken ⊢
  rw [hsecond] at htaken' ⊢
  refine s.idle_detached.course_eq Reply.alikeUnless hfg inputs ?_ ?_
  · intro served hmem reply hreply hrefused
    exact absurd hrefused (Bool.eq_false_iff.mp (htaken served hmem reply hreply))
  · intro served hmem reply hreply hrefused
    exact absurd hrefused (Bool.eq_false_iff.mp (htaken' served hmem reply hreply))

omit [ResponseWriter O'] in
/-- Whether every record is taken can be computed. -/
lemma takesEveryRecord_of_all {E : Engine σ P ρ} {inputs : List (Input O)} {s : Session σ P H}
    (h : ((s.detached : Session σ P (Reply (Audited O))).servings E
      (inputs.map Input.audited)).all fun served =>
        served.handler.all fun reply => !reply.output.refused) :
    s.TakesEveryRecord E inputs := by
  intro served hmem reply hreply
  have hserved := List.all_eq_true.mp h served hmem
  rw [hreply] at hserved
  exact Bool.not_eq_true' _ |>.mp hserved

/-- Two rows are pulled. Of two outputs the one takes everything, and the other nothing but the two
records, so that it loses every summary. -/
def departing : List (Input (List Response × NarrowOutput)) :=
  [.request (.hello ∅) ([], ⟨[], 0⟩) 0, .request (.run { query := "" }) ([], ⟨[], 0⟩) 0,
    .request (.stream .pull { size := 2 }) ([], ⟨[], 2⟩) 0]

/-- The session before these requests. -/
def shelved : Session (Journal (List Record) Unit) (Numbered Unit) Empty := start {} { state := [] }

/-- The summaries are lost, and this changes nothing for the session. -/
theorem lost_summaries_departing :
    (shelved.detached.course (Engine.shelf threeRows).journaled
        ((departing.map (Input.map Prod.fst)).map Input.replying) =
      shelved.detached.course (Engine.shelf threeRows).journaled
        ((departing.map (Input.map Prod.snd)).map Input.replying)) ∧
    (shelved.detached.servings (Engine.shelf threeRows).journaled
        ((departing.map (Input.map Prod.snd)).map Input.replying)).map
      (fun served => served.handler.map fun reply => reply.output.written) =
      [some [], some [], some [.record [.integer 1], .record [.integer 2]]] := by
  constructor
  · exact lost_summaries (Engine.shelf threeRows) shelved departing
      (takesEveryRecord_of_all (by decide +kernel)) (takesEveryRecord_of_all (by decide +kernel))
  · rfl

end Session

end QuerySession
