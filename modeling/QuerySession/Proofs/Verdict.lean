import QuerySession.Proofs.Handlers

/-!
# The verdict of a reply

What a reply is told decides which summary it writes: a failure outweighs the word that the request
was ignored, and both outweigh success. So the verdict on a request is the gravest of all reports,
in whatever order they come, and rows and metadata have no part in it.

* `Reply.isFailure_summary`, `Reply.isSuccess_summary`: the summary shows the verdict;
* `Relay.standing_tell`, `Relay.standing_batch`: what one report, or a batch, does to the verdict;
* `Dialogue.standing_play`: what all that a processor says does to it.
-/

namespace QuerySession

/-- How a request went, by the summary it gets. -/
inductive Verdict where
  | success
  | ignored
  | failure
  deriving DecidableEq, Repr

namespace Verdict

/-- The graver one of two verdicts. -/
def graver : Verdict → Verdict → Verdict
  | failure, _ | _, failure => failure
  | ignored, _ | _, ignored => ignored
  | success, success => success

@[simp] lemma graver_success (v : Verdict) : v.graver success = v := by cases v <;> rfl

lemma graver_eq_failure {v w : Verdict} : v.graver w = failure ↔ v = failure ∨ w = failure := by
  cases v <;> cases w <;> decide

lemma graver_eq_success {v w : Verdict} : v.graver w = success ↔ v = success ∧ w = success := by
  cases v <;> cases w <;> decide

end Verdict

/-- What a report says about the request. -/
def Report.verdict : Report → Verdict
  | .failed _ => .failure
  | .ignored => .ignored
  | .metadata .. | .finished => .success

/-- The gravest of some reports and an earlier verdict. -/
def gravest (v : Verdict) (reports : List Report) : Verdict :=
  reports.foldl (fun v report => v.graver report.verdict) v

/-- A failure is the verdict exactly if some failure was reported. -/
lemma gravest_eq_failure {v : Verdict} {reports : List Report} :
    gravest v reports = .failure ↔ v = .failure ∨ ∃ failure, .failed failure ∈ reports := by
  induction reports generalizing v with
  | nil => simp [gravest]
  | cons report reports ih =>
    have hreport : report.verdict = .failure ↔ ∃ failure, .failed failure = report := by
      cases report <;> simp [Report.verdict]
    show gravest (v.graver report.verdict) reports = .failure ↔ _
    rw [ih, Verdict.graver_eq_failure, hreport]
    simp only [List.mem_cons, exists_or, or_assoc]

/-- Success is the verdict exactly if every report says so. -/
lemma gravest_eq_success {v : Verdict} {reports : List Report} :
    gravest v reports = .success ↔
      v = .success ∧ ∀ report ∈ reports, report.verdict = .success := by
  induction reports generalizing v with
  | nil => simp [gravest]
  | cons report reports ih =>
    show gravest (v.graver report.verdict) reports = .success ↔ _
    rw [ih, Verdict.graver_eq_success, List.forall_mem_cons, and_assoc]

/-! ## Replies -/

namespace Reply

variable {O : Type}

/-- The verdict on the request, as far as the reply knows. -/
def verdict (r : Reply O) : Verdict :=
  if r.failure.isSome then .failure else if r.ignored then .ignored else .success

lemma isFailure_summary (r : Reply O) : r.summary.isFailure ↔ r.verdict = .failure := by
  obtain ⟨output, metadata, failure, ignored⟩ := r
  cases failure <;> cases ignored <;> simp [summary, verdict, Response.isFailure,
    Failure.toResponse, Response.ofStatus]

lemma isSuccess_summary (r : Reply O) : r.summary.isSuccess ↔ r.verdict = .success := by
  obtain ⟨output, metadata, failure, ignored⟩ := r
  cases failure <;> cases ignored <;> simp [summary, verdict, Response.isSuccess,
    Failure.toResponse, Response.ofStatus]

variable [ResponseWriter O]

/-- A report makes the verdict graver or leaves it. -/
lemma verdict_tell {report : Report} (h : report ≠ .finished) (r : Reply O) :
    (r.tell report).verdict = r.verdict.graver report.verdict := by
  obtain ⟨output, metadata, failure, ignored⟩ := r
  cases report with
  | finished => exact absurd rfl h
  | _ => cases failure <;> cases ignored <;> rfl

/-- Reports make the verdict as grave as the gravest of them, and nothing is written for them. -/
lemma foldl_tell {reports : List Report} (h : .finished ∉ reports) (r : Reply O) :
    (reports.foldl (fun r report => r.tell report) r).verdict = gravest r.verdict reports ∧
      (reports.foldl (fun r report => r.tell report) r).output = r.output := by
  induction reports generalizing r with
  | nil => exact ⟨rfl, rfl⟩
  | cons report reports ih =>
    have hreport : report ≠ .finished := fun heq => h (heq ▸ List.mem_cons_self)
    obtain ⟨hverdict, houtput⟩ := ih (fun hmem => h (List.mem_cons_of_mem _ hmem)) (r.tell report)
    have hwritten : (r.tell report).output = r.output := by
      cases report with
      | finished => exact absurd rfl hreport
      | _ => rfl
    rw [List.foldl_cons, hverdict, houtput, verdict_tell hreport, hwritten]
    exact ⟨rfl, rfl⟩

/-- Rows have no part in the verdict. -/
lemma verdict_batch {ρ : Type} [RecordSource ρ] (mode : BatchMode) (size : Int64) (r : Reply O)
    (result : ρ) : (finalState (Reply.batch mode size (r, result))).1.verdict = r.verdict := by
  unfold batch
  dsimp only
  split <;> rfl

/-- The summary is the last that is written. -/
lemma getLast?_finish (r : Reply (List Response)) : r.finish.output.getLast? = some r.summary := by
  show (r.output ++ [r.summary]).getLast? = some r.summary
  exact List.getLast?_concat

end Reply

/-! ## Relays to a reply -/

/-- The verdict on the request, if the handler is a reply. -/
def OrReply.verdict? {H : Type} : OrReply H → Option Verdict
  | .inr reply => some reply.verdict
  | .inl _ => none

namespace Relay

variable {H : Type}

/-- What the handler of a relay will say about the request, and what waits to be reported. -/
def standing (r : Relay (OrReply H)) : Option Verdict × Option Failure × Bool :=
  (r.handler.bind OrReply.verdict?, r.failure, r.ignored)

variable {r : Relay (OrReply H)} {v : Verdict} {waiting : Option Failure} {skipped : Bool}

lemma exists_reply_of_standing (h : r.standing = (some v, waiting, skipped)) :
    ∃ reply, r = { handler := some (.inr reply), failure := waiting, ignored := skipped } ∧
      reply.verdict = v := by
  obtain ⟨handler, failure, ignored⟩ := r
  obtain ⟨hverdict, hrest⟩ := Prod.mk.inj h
  obtain ⟨rfl, rfl⟩ := Prod.mk.inj hrest
  cases handler with
  | none => cases hverdict
  | some handler =>
    cases handler with
    | inl other => cases hverdict
    | inr reply => exact ⟨reply, rfl, Option.some.inj hverdict⟩

variable [Sink H]

/-- A report makes the verdict graver or leaves it. -/
lemma standing_tell {report : Report} (hreport : report ≠ .finished)
    (h : r.standing = (some v, waiting, skipped)) :
    (r.tell report).standing = (some (v.graver report.verdict), waiting, skipped) := by
  obtain ⟨reply, rfl, rfl⟩ := exists_reply_of_standing h
  show (some (reply.tell report).verdict, waiting, skipped) = _
  rw [Reply.verdict_tell hreport]

/-- A batch does not touch the verdict. -/
lemma standing_batch {ρ : Type} [RecordSource ρ] (mode : BatchMode) (size : Int64) (result : ρ)
    (h : r.standing = (some v, waiting, skipped)) :
    (finalState (Relay.batch mode size (r, result))).1.standing = (some v, waiting, skipped) := by
  obtain ⟨reply, rfl, rfl⟩ := exists_reply_of_standing h
  have hbatch := Reply.verdict_batch mode size reply result
  have hsum : (Sink.batch mode size ((.inr reply : OrReply H), result) :
      EStateM.Result Fault (OrReply H × ρ) Bool) = batchEither mode size (.inr reply, result) := rfl
  have hreply : (Sink.batch mode size (reply, result) :
      EStateM.Result Fault (Reply (List Response) × ρ) Bool) =
      Reply.batch mode size (reply, result) := rfl
  unfold batchEither at hsum
  dsimp only at hsum
  unfold Relay.batch
  dsimp only
  rw [hsum, hreply]
  generalize Reply.batch mode size (reply, result) = taken at hbatch
  cases taken with
  | ok more after => exact congrArg (fun verdict => (some verdict, waiting, skipped)) hbatch
  | error fault after => exact congrArg (fun verdict => (some verdict, waiting, skipped)) hbatch

end Relay

/-! ## Dialogues -/

namespace Dialogue

variable {ρ α H : Type} [RecordSource ρ]

/-- What a processor reports to a sink in a dialogue. -/
def said [Sink H] : Dialogue ρ α → H → List Report
  | done _, _ => []
  | tell report rest, sink => report :: rest.said (Sink.tell report sink)
  | batch mode size result rest, sink =>
    match Sink.batch mode size (sink, result) with
    | .ok more (sink, result) => (rest (.ok more) result).said sink
    | .error fault (sink, result) => (rest (.error fault) result).said sink

/-- In a dialogue of one batch nothing else is said. -/
lemma said_batch_done [Sink H] (mode : BatchMode) (size : Int64) (result : ρ)
    (ends : Except Fault Bool → ρ → α) (sink : H) :
    (batch mode size result fun heard rest => done (ends heard rest)).said sink = [] := by
  unfold said
  split
  · rfl
  · rfl

variable [Sink H] {r : Relay (OrReply H)} {v : Verdict} {waiting : Option Failure} {skipped : Bool}

/-- After a dialogue the verdict is the gravest of what was said in it. -/
theorem standing_play (d : Dialogue ρ α) (h : r.standing = (some v, waiting, skipped))
    (hfinish : .finished ∉ d.said r) :
    (d.play r).2.standing = (some (gravest v (d.said r)), waiting, skipped) := by
  induction d generalizing r v with
  | done answer => exact h
  | tell report rest ih =>
    have hsaid : (tell report rest).said r = report :: rest.said (r.tell report) := rfl
    rw [hsaid] at hfinish ⊢
    have hreport : report ≠ .finished := by
      intro heq
      rw [heq] at hfinish
      exact hfinish List.mem_cons_self
    exact ih (Relay.standing_tell hreport h) fun hmem => hfinish (List.mem_cons_of_mem _ hmem)
  | batch mode size result rest ih =>
    have hbatch := Relay.standing_batch mode size result h
    have hsink : (Sink.batch mode size (r, result) :
        EStateM.Result Fault (Relay (OrReply H) × ρ) Bool) =
        Relay.batch mode size (r, result) := rfl
    unfold said at hfinish ⊢
    unfold play
    rw [hsink] at hfinish ⊢
    generalize Relay.batch mode size (r, result) = taken at hbatch hfinish ⊢
    cases taken with
    | ok more after => exact ih _ _ hbatch hfinish
    | error fault after => exact ih _ _ hbatch hfinish

end Dialogue
end QuerySession
