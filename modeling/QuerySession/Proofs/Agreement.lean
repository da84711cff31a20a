import QuerySession.Proofs.Answers
import QuerySession.Proofs.Verdict

/-!
# The summary and the phase agree

The summary of a request is decided by all that its reply is told, and the phase after it by what
the table of phases returns. The two agree, but for one case: a processor may report a failure to
the sink of a batch and then end the batch as if nothing had happened. The client hears FAILURE
then, while the session goes on.

* `Phase.IsOverruled`: that case;
* `Phase.wp_answer_standing`, `Phase.wp_answer_of_overruled`: the verdict after an answer;
* `Session.summary_agrees`: the rule, and that the exception is one.
-/

namespace QuerySession

variable {σ P ρ H : Type}

/-- A phase in which a session only waits for RESET or the end. -/
def Phase.isStuck : Phase → Bool
  | failed | interrupted | defunct => true
  | connected | ready | streaming | transactionReady | transactionStreaming => false

/-- No processor tells the sink of a batch that nothing more will come. -/
def Engine.NeverFinishes [RecordSource ρ] (E : Engine σ P ρ) (H : Type) [Sink H] : Prop :=
  ∀ p number mode size engine (sink : H),
    .finished ∉ (E.stream p number mode size engine).said sink

/-- The bound processor reports a failure while it streams a batch, and the batch ends well. -/
structure Phase.IsOverruled [RecordSource ρ] [Sink H] (E : Engine σ P ρ) (phase : Phase)
    (request : Request) (c : Connection σ P H) : Prop where
  settled : c.relay.isSettled
  notice : c.notice = none
  overrules : ∃ mode batch number p, request = .stream mode batch ∧
    phase.streamed? batch = some number ∧ c.bound = some p ∧
    (∃ outcome engine,
      ((E.stream p number mode batch.size c.engine).play c.relay).1 = .ok outcome engine) ∧
    ∃ failure, .failed failure ∈ (E.stream p number mode batch.size c.engine).said c.relay

/-! ## The verdict after an answer -/

section
variable [Sink H] {E : Engine σ P ρ} {c : Connection σ P (OrReply H)}

/-- An entry of the summary does not touch the verdict. -/
lemma Relay.standing_mention (r : Relay (OrReply H)) (key : String) (value : Value) :
    (r.tell (.metadata key value)).standing = r.standing := by
  obtain ⟨handler, failure, ignored⟩ := r
  cases handler with
  | none => rfl
  | some handler =>
    cases handler with
    | inl other => rfl
    | inr reply =>
      have hreport : Report.metadata key value ≠ .finished := Report.noConfusion
      have hverdict := Reply.verdict_tell hreport reply
      rw [Report.verdict, Verdict.graver_success] at hverdict
      exact congrArg (fun verdict => (some verdict, failure, ignored)) hverdict

lemma Relay.standing_ignored {r : Relay (OrReply H)} {waiting : Option Failure} {skipped : Bool}
    (h : r.standing = (some .success, waiting, skipped)) :
    (r.tell .ignored).standing = (some .ignored, waiting, skipped) :=
  Relay.standing_tell Report.noConfusion h

/-- Plain work does not touch the verdict. -/
lemma plainSteps_standing (E : Engine σ P ρ) :
    PlainSteps E (H := OrReply H) (fun c d => d.relay.standing = c.relay.standing)
      (fun c _ d => d.relay.standing = c.relay.standing) :=
  .ofRelay E Relay.standing Relay.standing_mention

namespace Phase

lemma streamed?_eq_some {phase : Phase} {batch : Batch} {number : Int64}
    (h : phase.streamed? batch = some number) :
    (phase = .streaming ∧ number = -1) ∨
      (phase = .transactionStreaming ∧ number = batch.statement) := by
  cases phase with
  | streaming => exact Or.inl ⟨rfl, (Option.some.inj h).symm⟩
  | transactionStreaming => exact Or.inr ⟨rfl, (Option.some.inj h).symm⟩
  | _ => cases h

variable {waiting : Option Failure} {skipped : Bool}

/-- RESET is answered without a failure, or raises one. -/
lemma wp_answerReset_standing (h : c.relay.standing = (some .success, waiting, skipped)) :
    wp (answerReset E)
      (fun next d => ∃ v waiting skipped, d.relay.standing = (some v, waiting, skipped) ∧
        (v = .success → next.isUsable) ∧ v ≠ .failure)
      (fun _ d => ∃ v waiting skipped, d.relay.standing = (some v, waiting, skipped)) c := by
  unfold answerReset
  rw [wp_bind, wp_acknowledge]
  cases c.signals.interrupts with
  | zero => exact ⟨_, _, _, h⟩
  | succ left =>
    dsimp only
    rw [wp_ite]
    split
    · rw [wp_skip]
      exact ⟨.ignored, _, _, Relay.standing_ignored h, nofun, nofun⟩
    · rw [wp_bind, wp_modify, wp_bind, wp_giveUp]
      have hforgotten : c.relay.forget.standing = (some .success, none, false) := by
        obtain ⟨reply, heq, hverdict⟩ := Relay.exists_reply_of_standing h
        rw [heq]
        exact congrArg (fun verdict => (some verdict, none, false)) hverdict
      split
      · apply Meets.always
        · intro _ engine
          exact ⟨.success, _, _, hforgotten, fun _ => rfl, nofun⟩
        · intro fault engine
          exact ⟨.success, _, _, hforgotten⟩
      · exact ⟨.success, _, _, hforgotten⟩

/-- An answer that ends well was a success, was ignored, or was overruled. -/
theorem wp_answer_standing [RecordSource ρ] (self : Identity) (phase : Phase) (request : Request)
    (hfinish : E.NeverFinishes (Relay (OrReply H)))
    (h : c.relay.standing = (some .success, waiting, skipped))
    (hsettled : ∀ mode batch, request = .stream mode batch → c.relay.isSettled) :
    wp (phase.answer E self request)
      (fun next d => ∃ v waiting skipped, d.relay.standing = (some v, waiting, skipped) ∧
        (v = .success → next.isUsable) ∧
        (v = .failure → next.isUsable ∧ phase.IsOverruled E request c))
      (fun _ d => ∃ v waiting skipped, d.relay.standing = (some v, waiting, skipped)) c := by
  rcases answer_cases (H := OrReply H) E self phase request with
    ⟨-, -, -, heq⟩ | ⟨-, -, heq⟩ |
    ⟨mode, batch, number, rest, hrequest, hnumber, heq, hrest⟩ | ⟨-, hplain⟩
  · rw [heq]
    refine wp_mono (wp_answerReset_standing h) ?_ (fun _ _ hd => hd)
    rintro next d ⟨v, waiting, skipped, hstanding, hsuccess, hfailure⟩
    exact ⟨v, waiting, skipped, hstanding, hsuccess, fun hv => absurd hv hfailure⟩
  · rw [heq, wp_skip]
    exact ⟨.ignored, _, _, Relay.standing_ignored h, nofun, nofun⟩
  · rw [heq, wp_bind, wp_stream]
    cases hnotice : c.notice with
    | some status => exact ⟨.success, _, _, h⟩
    | none =>
      cases hbound : c.bound with
      | none => exact ⟨.success, _, _, h⟩
      | some p =>
        have hplayed := Dialogue.standing_play (E.stream p number mode batch.size c.engine) h
          (hfinish p number mode batch.size c.engine c.relay)
        have horIdle : E.orIdle.stream (some p) number mode batch.size c.engine =
            E.stream p number mode batch.size c.engine := rfl
        dsimp only
        rw [horIdle]
        cases hresult : ((E.stream p number mode batch.size c.engine).play c.relay).1 with
        | error fault engine => exact ⟨_, _, _, hplayed⟩
        | ok outcome engine =>
          have hleads := (hrest outcome).leads (plainSteps_standing E)
          show wp (rest outcome) _ _ _
          refine wp_mono (hleads _) ?_ ?_
          · intro next d hafter
            obtain ⟨husable, hkept⟩ := hafter
            refine ⟨_, _, _, hkept.trans hplayed, fun _ => husable, fun hfailure => ?_⟩
            refine ⟨husable, hsettled mode batch hrequest, hnotice, mode, batch, number, p,
              hrequest, hnumber, hbound, ⟨outcome, engine, hresult⟩, ?_⟩
            exact (gravest_eq_failure.mp hfailure).resolve_left nofun
          · intro fault d hkept
            exact ⟨_, _, _, Eq.trans hkept hplayed⟩
  · refine wp_mono (hplain.leads (plainSteps_standing E) c) ?_ ?_
    · intro next d hafter
      exact ⟨.success, _, _, hafter.2.trans h, fun _ => hafter.1, nofun⟩
    · intro fault d hkept
      exact ⟨.success, _, _, hkept.trans h⟩

/-- The end of a statement raises nothing of its own. -/
lemma wp_endStatement_standing (bookmark : Option String) (hnotice : c.notice = none) :
    wp (endStatement E bookmark)
      (fun next d => next.isUsable ∧ d.relay.standing = c.relay.standing)
      (fun _ _ => False) c := by
  have hmentioned : ∀ (key : String) (value : Option String) (d : Connection σ P (OrReply H)),
      wp (mention? key value)
        (fun _ e => e.notice = d.notice ∧ e.relay.standing = d.relay.standing)
        (fun _ _ => False) d := by
    intro key value d
    cases value with
    | none => exact ⟨rfl, rfl⟩
    | some value => exact ⟨rfl, Relay.standing_mention d.relay key (toValue value)⟩
  unfold endStatement
  rw [wp_bind]
  refine wp_mono (hmentioned _ _ c) ?_ (fun _ _ hd => hd)
  intro _ d hd
  rw [wp_bind, wp_database? E (hd.1.trans hnotice), wp_bind]
  refine wp_mono (hmentioned _ _ d) ?_ (fun _ _ he => he)
  intro _ e he
  rw [wp_becomeIdle]
  exact ⟨rfl, he.2.trans hd.2⟩

/-- An overruled failure is the verdict, and the session goes on. -/
theorem wp_answer_of_overruled [RecordSource ρ] (self : Identity) {phase : Phase}
    {request : Request} (hfinish : E.NeverFinishes (Relay (OrReply H)))
    (h : c.relay.standing = (some .success, waiting, skipped))
    (hoverruled : phase.IsOverruled E request c) :
    wp (phase.answer E self request)
      (fun next d => next.isUsable ∧ d.relay.standing = (some .failure, waiting, skipped))
      (fun _ _ => False) c := by
  obtain ⟨mode, batch, number, p, rfl, hnumber, hbound, ⟨outcome, engine, hresult⟩, hfailed⟩ :=
    hoverruled.overrules
  have hplayed := Dialogue.standing_play (E.stream p number mode batch.size c.engine) h
    (hfinish p number mode batch.size c.engine c.relay)
  rw [gravest_eq_failure.mpr (Or.inr hfailed)] at hplayed
  have horIdle : E.orIdle.stream (some p) number mode batch.size c.engine =
      E.stream p number mode batch.size c.engine := rfl
  rcases streamed?_eq_some hnumber with ⟨rfl, rfl⟩ | ⟨rfl, rfl⟩
  · refine (wp_bind _ _).mpr ((wp_stream_of_bound hoverruled.notice hbound _ _ _).mpr ?_)
    dsimp only
    rw [horIdle, hresult]
    refine (wp_ite _ _).mpr ?_
    split
    · exact ⟨rfl, (Relay.standing_mention _ _ _).trans hplayed⟩
    · refine wp_mono (wp_endStatement_standing _ hoverruled.notice) ?_ (fun _ _ hd => hd)
      intro next d hd
      exact ⟨hd.1, hd.2.trans hplayed⟩
  · refine (wp_bind _ _).mpr ((wp_stream_of_bound hoverruled.notice hbound _ _ _).mpr ?_)
    dsimp only
    rw [horIdle, hresult]
    refine (wp_ite _ _).mpr ?_
    split
    · exact ⟨rfl, (Relay.standing_mention _ _ _).trans hplayed⟩
    · unfold endTransactionStatement
      rw [wp_bind, wp_isStreaming E (by exact hoverruled.notice), wp_ite]
      split
      · exact ⟨rfl, hplayed⟩
      · exact ⟨rfl, hplayed⟩

end Phase
end

/-! ## The request as a whole -/

/-- The summary of a request that was answered by a reply. -/
def Served.summary? (served : Served σ P (OrReply H)) : Option Response :=
  served.answered.bind List.getLast?

namespace Session

variable [Sink H] {E : Engine σ P ρ} {s : Session σ P (OrReply H)}

/-- The reports that wait for the end of a request. -/
def pending (waiting : Option Failure) (skipped : Bool) : List Report :=
  (waiting.map Report.failed).toList ++ if skipped then [.ignored] else []

lemma finished_not_mem_pending (waiting : Option Failure) (skipped : Bool) :
    .finished ∉ pending waiting skipped := by
  cases waiting <;> cases skipped <;> simp [pending]

lemma foldl_tell_reply (reports : List Report) (reply : Reply (List Response)) :
    reports.foldl (fun handler report => Sink.tell report handler) (.inr reply : OrReply H) =
      .inr (reports.foldl (fun r report => r.tell report) reply) := by
  induction reports generalizing reply with
  | nil => rfl
  | cons report reports ih => exact ih _

/-- A reply is told the conclusion. -/
lemma conclude_of_reply {reply : Reply (List Response)}
    (h : s.connection.relay.handler = some (.inr reply)) (answered : Bool) :
    (s.conclude answered).1 = some (.inr
      ((conclusion answered s.connection.relay).foldl (fun r report => r.tell report) reply)) := by
  rw [handler_conclude, h]
  exact congrArg some (foldl_tell_reply _ reply)

omit [Sink H] in
/-- The conclusion of a request that is answered ends the reply. -/
lemma conclusion_of_answered (r : Relay H) :
    conclusion true r = pending r.failure r.ignored ++ [.finished] := rfl

omit [Sink H] in
/-- Once the session has ended, what waited is told, but the reply is not. -/
lemma conclusion_of_silent (r : Relay H) :
    conclusion false r = pending r.failure r.ignored := List.append_nil _

/-- Nothing is written for a request that leaves the session ended, without a fault. -/
lemma answered_of_closed (hclosed : s.isClosed = true)
    (hhandler : s.connection.relay.handler = some .blank) :
    (settle (.ok () s)).answered = some [] := by
  have hconclude : (settle (.ok () s)).handler = (s.conclude false).1 := by
    show (s.conclude !s.isClosed).1 = _
    rw [hclosed]
    rfl
  obtain ⟨-, hwritten⟩ := Reply.foldl_tell
    (finished_not_mem_pending s.connection.relay.failure s.connection.relay.ignored)
    ({ output := [] } : Reply (List Response))
  unfold Served.answered
  rw [hconclude, conclude_of_reply hhandler, conclusion_of_silent]
  exact congrArg some hwritten

/-- The summary is the verdict on all that was told, what waited included. -/
lemma summary_conclude {v : Verdict} {waiting : Option Failure} {skipped : Bool}
    (h : s.connection.relay.standing = (some v, waiting, skipped)) :
    ∃ reply : Reply (List Response), (s.conclude true).1 = some (.inr reply) ∧
      ∃ summary, reply.output.getLast? = some summary ∧
        (summary.isSuccess → v = .success ∧ waiting = none ∧ skipped = false) ∧
        (summary.isFailure ↔ v = .failure ∨ waiting ≠ none) := by
  obtain ⟨reply, hrelay, rfl⟩ := Relay.exists_reply_of_standing h
  obtain ⟨hverdict, -⟩ := Reply.foldl_tell (finished_not_mem_pending waiting skipped) reply
  have hhandler : s.connection.relay.handler = some (.inr reply) := by rw [hrelay]
  rw [conclude_of_reply hhandler, conclusion_of_answered, hrelay]
  refine ⟨_, rfl,
    ((pending waiting skipped).foldl (fun r report => r.tell report) reply).summary, ?_, ?_, ?_⟩
  · rw [List.foldl_append]
    exact Reply.getLast?_finish _
  · rw [Reply.isSuccess_summary, hverdict, gravest_eq_success]
    intro hsuccess
    refine ⟨hsuccess.1, ?_⟩
    cases waiting with
    | some failure => cases hsuccess.2 (.failed failure) List.mem_cons_self
    | none =>
      cases skipped with
      | true => cases hsuccess.2 .ignored List.mem_cons_self
      | false => exact ⟨rfl, rfl⟩
  · rw [Reply.isFailure_summary, hverdict, gravest_eq_failure]
    cases waiting <;> cases skipped <;> simp [pending]

/-- A verdict agrees with a phase, or something waits that will decide both, or the verdict is
excused. -/
def IsJudged (excused : Prop) (s : Session σ P (OrReply H)) : Prop :=
  ∃ v waiting skipped, s.connection.relay.standing = (some v, waiting, skipped) ∧
    (v = .success → s.phase.isUsable ∨ waiting ≠ none ∨ skipped = true) ∧
    (v = .failure → s.phase.isStuck ∨ excused)

/-- A fault fails the session, and is the verdict. -/
lemma judged_fail (excused : Prop) (fault : Fault) {v : Verdict} {waiting : Option Failure}
    {skipped : Bool} (h : s.connection.relay.standing = (some v, waiting, skipped))
    (hopen : s.isClosed = false) :
    Meets (fun _ d => IsJudged excused d ∧ d.isClosed = false) (fun _ d => IsJudged excused d)
      (fail E fault s) := by
  have hreport : Report.failed (.ofFault fault) ≠ .finished := Report.noConfusion
  have htold := Relay.standing_tell hreport h
  have hfailure : v.graver .failure = .failure := Verdict.graver_eq_failure.mpr (Or.inr rfl)
  rw [Report.verdict, hfailure] at htold
  unfold fail
  dsimp only
  split
  · refine ⟨.failure, waiting, skipped, ?_, Verdict.noConfusion, fun _ => Or.inl rfl⟩
    rw [relay_close]
    exact htold
  · exact ⟨⟨.failure, waiting, skipped, htold, Verdict.noConfusion, fun _ => Or.inl rfl⟩, hopen⟩

variable [RecordSource ρ]

/-- A request that is answered gets its verdict, and only a fault ends the session for it. -/
lemma judged_dispatch (hfinish : E.NeverFinishes (Relay (OrReply H))) {request : Request}
    (hrequest : request ≠ .goodbye) {waiting : Option Failure} {skipped : Bool}
    (h : s.connection.relay.standing = (some .success, waiting, skipped))
    (hsettled : ∀ mode batch, request = .stream mode batch → s.connection.relay.isSettled)
    (hphase : s.phase ≠ .defunct) (hopen : s.isClosed = false) :
    wp (dispatch E request)
      (fun _ d => IsJudged (s.phase.IsOverruled E request s.connection) d ∧ d.isClosed = false)
      (fun _ d => IsJudged (s.phase.IsOverruled E request s.connection) d) s := by
  apply wp_dispatch_of_ne hrequest
  refine wp_mono (wp_and (Phase.wp_answer_standing s.self s.phase request hfinish h hsettled)
    (flags_answer s.self hphase request s.connection)) ?_ ?_
  · intro next d hafter
    obtain ⟨⟨v, waiting, skipped, hstanding, hsuccess, hfailure⟩, -, hkept, -⟩ := hafter
    exact ⟨⟨v, waiting, skipped, hstanding, fun hv => Or.inl (hsuccess hv),
      fun hv => Or.inr (hfailure hv).2⟩, hkept.trans hopen⟩
  · intro fault d hafter
    obtain ⟨⟨v, waiting, skipped, hstanding⟩, hkept, -⟩ := hafter
    exact judged_fail _ fault hstanding (hkept.trans hopen)

/-- A request that is kept back is judged by what keeps it. -/
lemma judged_perform (hfinish : E.NeverFinishes (Relay (OrReply H))) {request : Request}
    (hrequest : request ≠ .goodbye) {waiting : Option Failure} {skipped : Bool}
    (h : s.connection.relay.standing = (some .success, waiting, skipped))
    (hphase : s.phase ≠ .defunct) (hopen : s.isClosed = false) :
    wp (perform E request)
      (fun _ d => IsJudged (s.phase.IsOverruled E request s.connection) d ∧ d.isClosed = false)
      (fun _ d => IsJudged (s.phase.IsOverruled E request s.connection) d) s := by
  unfold wp
  by_cases hpasses : s.passes request
  · rw [perform_of_passes hopen hpasses]
    refine judged_dispatch hfinish hrequest h ?_ hphase hopen
    -- a batch passes only with nothing waiting
    rintro mode batch rfl
    have hproceed : s.connection.canProceed = true := hpasses
    exact (Bool.and_eq_true_iff.mp hproceed).2
  · rw [perform_of_kept hpasses]
    refine ⟨⟨.success, waiting, skipped, h, fun _ => ?_, nofun⟩, hopen⟩
    have hwaits : ¬ s.connection.relay.isSettled := fun hsettled =>
      hpasses (passes_of_settled request hopen hsettled)
    obtain ⟨reply, hrelay, -⟩ := Relay.exists_reply_of_standing h
    rw [hrelay, Relay.isSettled_iff, not_and_or, Bool.not_eq_false] at hwaits
    exact Or.inr hwaits

/-- What waited fails the session, so that the phase still agrees. -/
lemma summary_of_judged {excused : Prop} (h : IsJudged excused s) :
    ∃ reply : Reply (List Response), (s.conclude true).1 = some (.inr reply) ∧
      ∃ summary, reply.output.getLast? = some summary ∧
        (summary.isSuccess → (s.conclude true).2.phase.isUsable) ∧
        (summary.isFailure → (s.conclude true).2.phase.isStuck ∨ excused) := by
  obtain ⟨v, waiting, skipped, hstanding, hsuccess, hfailure⟩ := h
  obtain ⟨reply, hhandler, summary, hlast, hgood, hbad⟩ := summary_conclude hstanding
  have hwaiting : s.connection.relay.failure = waiting := congrArg (fun r => r.2.1) hstanding
  have hstuck : waiting ≠ none → (s.conclude true).2.phase.isStuck := by
    intro hwaits
    rw [phase_conclude, hwaiting, if_pos (Option.isSome_iff_ne_none.mpr hwaits)]
    cases s.phase <;> rfl
  have hkept : waiting = none → (s.conclude true).2.phase = s.phase := by
    intro hnone
    rw [phase_conclude, hwaiting, hnone]
    exact if_neg Bool.false_ne_true
  refine ⟨reply, hhandler, summary, hlast, fun h => ?_, fun h => ?_⟩
  · obtain ⟨hv, hnone, hunskipped⟩ := hgood h
    rw [hkept hnone]
    rcases hsuccess hv with husable | hwaits | hskips
    · exact husable
    · exact absurd hnone hwaits
    · rw [hunskipped] at hskips
      cases hskips
  · by_cases hnone : waiting = none
    · rw [hkept hnone]
      rcases hbad.mp h with hv | hwaits
      · exact hfailure hv
      · exact absurd hnone hwaits
    · exact Or.inl (hstuck hnone)

/-- A request that is overruled is answered with a failure, and the session goes on. -/
lemma perform_of_overruled (hfinish : E.NeverFinishes (Relay (OrReply H))) {request : Request}
    (h : s.connection.relay.standing = (some .success, none, false)) (hphase : s.phase ≠ .defunct)
    (hopen : s.isClosed = false) (hoverruled : s.phase.IsOverruled E request s.connection) :
    wp (perform E request)
      (fun _ d => (d.connection.relay.standing = (some .failure, none, false) ∧ d.phase.isUsable) ∧
        d.isClosed = false)
      (fun _ _ => False) s := by
  have hpasses := passes_of_settled request hopen hoverruled.settled
  have hrequest : request ≠ .goodbye := by
    obtain ⟨mode, batch, number, p, rfl, -⟩ := hoverruled.overrules
    exact Request.noConfusion
  unfold wp
  rw [perform_of_passes hopen hpasses]
  apply wp_dispatch_of_ne hrequest
  refine wp_mono (wp_and (Phase.wp_answer_of_overruled s.self hfinish h hoverruled)
    (flags_answer s.self hphase request s.connection)) ?_ (fun _ _ hd => hd.1.elim)
  intro next d hafter
  obtain ⟨⟨husable, hstanding⟩, -, hkept, -⟩ := hafter
  exact ⟨⟨hstanding, husable⟩, hkept.trans hopen⟩

/-- The end of a request that is answered in any case. -/
lemma settle_of_answered {post : Session σ P (OrReply H) → Prop}
    {r : EStateM.Result Fault (Session σ P (OrReply H)) Unit}
    (h : Meets (fun _ d => post d ∧ d.isClosed = false) (fun _ => post) r) :
    ∃ d, post d ∧ (settle r).handler = (d.conclude true).1 ∧
      (settle r).session = (d.conclude true).2 := by
  cases r with
  | error fault d => exact ⟨d, h, rfl, rfl⟩
  | ok _ d =>
    have hreply : (!d.isClosed) = true := by rw [h.2]; rfl
    refine ⟨d, h.1, ?_, ?_⟩
    · show (d.conclude !d.isClosed).1 = _
      rw [hreply]
    · show (d.conclude !d.isClosed).2 = _
      rw [hreply]

omit [RecordSource ρ] [Sink H] in
lemma summary?_of_handler {served : Served σ P (OrReply H)} {reply : Reply (List Response)}
    (h : served.handler = some (.inr reply)) : served.summary? = reply.output.getLast? := by
  unfold Served.summary? Served.answered
  rw [h]
  rfl

/-- GOODBYE is not answered. -/
lemma summary?_of_goodbye (hopen : s.isClosed = false) {waiting : Option Failure} {skipped : Bool}
    (hrelay : s.connection.relay =
      { handler := some .blank, failure := waiting, ignored := skipped }) :
    (settle (perform E .goodbye s)).summary? = none := by
  have hperform : perform E .goodbye s = .ok () (s.close E) := by
    rw [perform_of_passes hopen rfl]
    rfl
  have hhandler : (s.close E).connection.relay.handler = some .blank := by
    rw [relay_close, hrelay]
  unfold Served.summary?
  rw [hperform, answered_of_closed rfl hhandler]
  rfl

/-! ## The rule -/

omit [RecordSource ρ] [Sink H] in
/-- A session that goes on is open for the next request, whose reply was told nothing yet. -/
lemma found_of_stays (hend : s.EndShown) (hopen : s.isClosed = false)
    (hstays : s.connection.signals.terminated = false) (interrupts : Nat) :
    (s.found E .blank interrupts).isClosed = false ∧
      (s.found E .blank interrupts).phase ≠ .defunct ∧
      ∃ waiting skipped, (s.found E .blank interrupts).connection.relay =
        { handler := some .blank, failure := waiting, ignored := skipped } := by
  have hfound := isOpen_found (E := E) hopen hstays (OrReply.blank : OrReply H) interrupts
  refine ⟨hfound, fun hdefunct => ?_, s.connection.relay.failure, s.connection.relay.ignored,
    relay_accept E (OrReply.blank : OrReply H) s⟩
  have hclosed := (endShown_accept (E := E) (OrReply.blank : OrReply H) hend).mp hdefunct
  exact absurd (hfound.symm.trans hclosed) Bool.false_ne_true

/-- The summary of a request and the phase after it agree: after SUCCESS the session is usable,
after FAILURE it waits for RESET or has ended, unless a processor reported a failure and then ended
its batch well. In that case the client hears FAILURE and the session is usable. Only GOODBYE is
not answered. -/
theorem summary_agrees (E : Engine σ P ρ) (hfinish : E.NeverFinishes (Relay (OrReply H)))
    (self : Identity) (engine : σ) (inputs : List (Input (OrReply H)))
    {s : Session σ P (OrReply H)} (hreached : s = (start self engine).after E inputs)
    (hopen : s.isClosed = false) (hstays : s.connection.signals.terminated = false)
    (request : Request) (interrupts : Nat) :
    (request = .goodbye → (s.serveAmid E interrupts request .blank).summary? = none) ∧
    (request ≠ .goodbye → ∃ summary,
      (s.serveAmid E interrupts request .blank).summary? = some summary ∧
      (summary.isSuccess → (s.serveAmid E interrupts request .blank).session.phase.isUsable) ∧
      (summary.isFailure → (s.serveAmid E interrupts request .blank).session.phase.isStuck ∨
        (s.found E .blank interrupts).phase.IsOverruled E request
          (s.found E .blank interrupts).connection) ∧
      ((s.found E .blank interrupts).phase.IsOverruled E request
          (s.found E .blank interrupts).connection →
        summary.isFailure ∧
          (s.serveAmid E interrupts request .blank).session.phase.isUsable)) := by
  have hend : s.EndShown := by
    rw [hreached]
    exact endShown_after inputs ⟨nofun, nofun⟩
  obtain ⟨hfound, hphase, waiting, skipped, hrelay⟩ :=
    found_of_stays (E := E) hend hopen hstays interrupts
  have hserved : s.serveAmid E interrupts request .blank =
      settle (perform E request (s.found E .blank interrupts)) := rfl
  rw [hserved]
  generalize s.found E .blank interrupts = found at hfound hphase hrelay
  refine ⟨?_, fun hrequest => ?_⟩
  · rintro rfl
    exact summary?_of_goodbye hfound hrelay
  have hstanding : found.connection.relay.standing = (some .success, waiting, skipped) := by
    rw [hrelay]
    rfl
  obtain ⟨d, hjudged, hhandler, hsession⟩ :=
    settle_of_answered (judged_perform hfinish hrequest hstanding hphase hfound)
  obtain ⟨reply, hreply, summary, hlast, hgood, hbad⟩ := summary_of_judged hjudged
  have hsummary : (settle (perform E request found)).summary? = some summary := by
    rw [summary?_of_handler (hhandler.trans hreply), hlast]
  refine ⟨summary, hsummary, ?_, ?_, fun hoverruled => ?_⟩
  · rwa [hsession]
  · rwa [hsession]
  -- nothing else waits while a failure is overruled
  have hsettled := hoverruled.settled
  rw [hrelay, Relay.isSettled_iff] at hsettled
  obtain ⟨rfl, rfl⟩ : waiting = none ∧ skipped = false := hsettled
  obtain ⟨d, ⟨hfailed, husable⟩, hhandler, hsession⟩ := settle_of_answered
    (wp_mono (perform_of_overruled hfinish hstanding hphase hfound hoverruled)
      (fun _ _ hd => hd) (fun _ _ hd => hd.elim))
  obtain ⟨reply, hreply, other, hlast, -, hverdict⟩ := summary_conclude hfailed
  rw [summary?_of_handler (hhandler.trans hreply), hlast] at hsummary
  obtain rfl : other = summary := Option.some.inj hsummary
  refine ⟨hverdict.mpr (Or.inl rfl), ?_⟩
  have hnone : d.connection.relay.failure = none := congrArg (fun r => r.2.1) hfailed
  rw [hsession, phase_conclude, hnone]
  exact husable

end Session

/-! ## An engine -/

/-- An engine whose processors report a failure in every batch and end it well. -/
def Engine.lossy (failure : Failure) : Engine (Option Status) Unit RowBuffer :=
  { Engine.frail .transactionTerminated with
    stream := fun _ _ _ _ s => .tell (.failed failure) (.done (.ok {} s)) }

lemma neverFinishes_lossy [Sink H] (failure : Failure) :
    (Engine.lossy failure).NeverFinishes H := by
  intro p number mode size engine sink hmem
  cases List.mem_singleton.mp hmem

namespace Session

/-- What a processor may report of a row. -/
def rowLost : Failure := .ofFault (.statement .executionFailed "row lost")

/-- A session with a statement whose rows are due. -/
def streamingLossy : Session (Option Status) Unit (OrReply (Reply (List Response))) :=
  (start {} none).after (Engine.lossy rowLost)
    [.request (.hello ∅) .blank 0, .request (.run { query := "" }) .blank 0]

/-- The batch in which a failure was reported is answered with a failure, and the session is
usable. -/
theorem summary_agrees_lossy :
    ∃ summary,
      (streamingLossy.serveAmid (Engine.lossy rowLost) 0 (.stream .pull {}) .blank).summary? =
        some summary ∧ summary.isFailure ∧
      (streamingLossy.serveAmid (Engine.lossy rowLost) 0 (.stream .pull {})
        .blank).session.phase.isUsable := by
  obtain ⟨-, hanswered⟩ := summary_agrees (Engine.lossy rowLost) (neverFinishes_lossy rowLost) {}
    none _ (s := streamingLossy) rfl (by decide +kernel) (by decide +kernel) (.stream .pull {}) 0
  obtain ⟨summary, hsummary, -, -, hoverruled⟩ := hanswered Request.noConfusion
  refine ⟨summary, hsummary, hoverruled ⟨by decide +kernel, by decide +kernel, .pull, {}, -1, (),
    rfl, by decide +kernel, by decide +kernel, ⟨_, _, rfl⟩, rowLost, List.mem_singleton_self _⟩⟩

end Session
end QuerySession
