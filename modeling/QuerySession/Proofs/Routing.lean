import QuerySession.Proofs.Waiting

/-!
# Who hears what

Handlers come and go at a connection, and what is said to it is heard by the one that is there, or
by nobody. Of what nobody hears, the first failure and the word that something was ignored are kept
until that is forgotten, and as long as they are kept no request is performed. The two never mix: a
handler does not hear what was kept before it came, and what is kept does not change while a handler
is there.

* `RelayMove`, `Sight`: what can be done, and what the caller sees of it;
* `RelayMove.attached`, `RelayMove.missed`: what a history says about the handler and what is kept;
* `Connection.isAccounted_route`: one move;
* `Connection.relay_follows_history`: the rule.
-/

namespace QuerySession

variable {σ P ρ H α : Type}

/-- The part of a list behind the last member of some kind. -/
def since (isLast : α → Bool) (as : List α) : List α :=
  (as.reverse.takeWhile fun a => !isLast a).reverse

lemma since_snoc (isLast : α → Bool) (as : List α) (a : α) :
    since isLast (as ++ [a]) = if isLast a then [] else since isLast as ++ [a] := by
  unfold since
  rw [List.reverse_append, List.reverse_singleton, List.singleton_append, List.takeWhile_cons]
  cases isLast a with
  | true => rfl
  | false => exact List.reverse_cons

/-- Every member of a list, with those before it. -/
def withPast : List α → List α → List (List α × α)
  | _, [] => []
  | past, a :: as => (past, a) :: withPast (past ++ [a]) as

lemma withPast_snoc (past as : List α) (a : α) :
    withPast past (as ++ [a]) = withPast past as ++ [(past ++ as, a)] := by
  induction as generalizing past with
  | nil =>
    rw [List.append_nil]
    rfl
  | cons first as ih =>
    show (past, first) :: withPast (past ++ [first]) (as ++ [a]) = _
    rw [ih, List.append_assoc]
    rfl

/-! ## Moves and what is seen of them -/

/-- What can be done with the relay of a connection, and the end. -/
inductive RelayMove (ρ H : Type) where
  /-- Puts a handler, or none, into the place of the present one. -/
  | attach (handler : Option H)
  /-- Removes the handler. -/
  | detach
  | tell (report : Report)
  | batch (mode : BatchMode) (size : Int64) (result : ρ)
  /-- Forgets what was reported to nobody. -/
  | forget
  /-- Marks the connection as ended. -/
  | close

/-- What the caller sees of a move. -/
inductive Sight (ρ H : Type) where
  /-- The handler that was there. -/
  | handler (previous : Option H)
  /-- What a batch came to, and what is left of the result. -/
  | batch (outcome : Except Fault Bool) (rest : ρ)
  | nothing

/-- What is seen of a batch. -/
def Sight.ofBatch : EStateM.Result Fault (α × ρ) Bool → Sight ρ H
  | .ok more (_, rest) => .batch (.ok more) rest
  | .error fault (_, rest) => .batch (.error fault) rest

/-- Makes a move. -/
def Connection.route [Sink H] [RecordSource ρ] (c : Connection σ P H) :
    RelayMove ρ H → Sight ρ H × Connection σ P H
  | .attach handler =>
    (.handler (c.relay.attach handler).1, { c with relay := (c.relay.attach handler).2 })
  | .detach => (.handler c.relay.detach.1, { c with relay := c.relay.detach.2 })
  | .tell report => (.nothing, c.tell report)
  | .batch mode size result =>
    (.ofBatch (batch mode size (c, result)), (finalState (batch mode size (c, result))).1)
  | .forget => (.nothing, c.forget)
  | .close => (.nothing, c.markClosed)

/-! ## What a history says -/

namespace RelayMove

/-- What is put into the place of the handler. -/
def attached? : RelayMove ρ H → Option (Option H)
  | attach handler => some handler
  | detach => some none
  | _ => none

/-- The handler is replaced or removed. -/
def isSwap (move : RelayMove ρ H) : Bool := move.attached?.isSome

def isForget : RelayMove ρ H → Bool
  | forget => true
  | _ => false

def isClose : RelayMove ρ H → Bool
  | close => true
  | _ => false

def report? : RelayMove ρ H → Option Report
  | tell report => some report
  | _ => none

section
variable [Sink H] [RecordSource ρ]

/-- What a handler becomes that is there during a move. -/
def hear (handler : H) : RelayMove ρ H → H
  | tell report => Sink.tell report handler
  | batch mode size result => (finalState (Sink.batch mode size (handler, result))).1
  | _ => handler

/-- What the caller is to see of a move, given the handler that is there. -/
def sight (handler : Option H) : RelayMove ρ H → Sight ρ H
  | attach _ | detach => .handler handler
  | batch mode size result =>
    match handler with
    | some handler => .ofBatch (Sink.batch mode size (handler, result))
    | none => .batch (.ok false) result
  | _ => .nothing

/-- The handler that was attached last, unless it was removed, after it has heard all that was said
since. -/
def attached (moves : List (RelayMove ρ H)) : Option H :=
  (moves.reverse.findSome? attached?).join.map fun handler =>
    (since isSwap moves).foldl hear handler

/-- What was reported while no handler was attached, since that was forgotten last. -/
def missed (moves : List (RelayMove ρ H)) : List Report :=
  (since (fun entry => entry.2.isForget) (withPast [] moves)).filterMap fun entry =>
    if (attached entry.1).isSome then none else entry.2.report?

lemma attached_snoc (moves : List (RelayMove ρ H)) (move : RelayMove ρ H) :
    attached (moves ++ [move]) =
      move.attached?.getD ((attached moves).map fun handler => hear handler move) := by
  unfold attached isSwap
  rw [List.reverse_append, List.reverse_singleton, List.singleton_append, List.findSome?_cons,
    since_snoc]
  cases move.attached? with
  | some handler => cases handler <;> rfl
  | none =>
    show Option.map (fun handler => List.foldl hear handler (_ ++ [move])) _ = Option.map _ _
    rw [Option.map_map]
    exact congrArg (Option.map · _) (funext fun handler => List.foldl_append)

lemma missed_snoc (moves : List (RelayMove ρ H)) (move : RelayMove ρ H) :
    missed (moves ++ [move]) =
      if move.isForget then []
      else missed moves ++ (if (attached moves).isSome then none else move.report?).toList := by
  unfold missed
  rw [withPast_snoc, since_snoc]
  cases move.isForget with
  | true => rfl
  | false =>
    show List.filterMap _ (_ ++ [_]) = _ ++ _
    rw [List.filterMap_append]
    rfl

end

end RelayMove

/-! ## One move -/

namespace Connection

open RelayMove

variable [Sink H] [RecordSource ρ]

/-- The history says who is attached, what is kept, and whether the connection has ended. -/
structure IsAccounted (moves : List (RelayMove ρ H)) (c : Connection σ P H) : Prop where
  handler : c.relay.handler = attached moves
  failure : c.relay.failure = (missed moves).findSome? Report.failure?
  ignored : c.relay.ignored = (missed moves).any Report.isIgnored
  closed : c.signals.closed = moves.any isClose

section
variable {moves : List (RelayMove ρ H)} {c : Connection σ P H}

/-- A move that leaves what is kept only concerns the handler. -/
lemma IsAccounted.keep (h : IsAccounted moves c) {move : RelayMove ρ H} {handler : Option H}
    (hmissed : missed (moves ++ [move]) = missed moves) (hclose : move.isClose = false)
    (hhandler : attached (moves ++ [move]) = handler) :
    IsAccounted (moves ++ [move]) { c with relay := { c.relay with handler } } := by
  refine ⟨hhandler.symm, ?_, ?_, ?_⟩
  · rw [hmissed]
    exact h.failure
  · rw [hmissed]
    exact h.ignored
  · rw [List.any_append, ← h.closed, List.any_cons, hclose]
    exact (Bool.or_false _).symm

lemma isAccounted_tell (h : IsAccounted moves c) (report : Report) :
    IsAccounted (moves ++ [RelayMove.tell report]) (c.tell report) := by
  have hattached := attached_snoc moves (RelayMove.tell report)
  have hmissed := missed_snoc moves (RelayMove.tell report)
  cases hhandler : attached moves with
  | some handler =>
    -- what the handler hears is not kept
    rw [hhandler] at hattached hmissed
    have htold : c.tell report =
        { c with relay := { c.relay with handler := some (Sink.tell report handler) } } :=
      congrArg (fun relay => { c with relay })
        (Relay.tell_of_attached (h.handler.trans hhandler) report)
    rw [htold]
    exact h.keep (hmissed.trans (List.append_nil _)) rfl hattached
  | none =>
    -- what nobody hears is kept behind what was kept before, so the first failure stays the first
    rw [hhandler] at hattached hmissed
    have htold := Relay.tell_of_detached (h.handler.trans hhandler) report
    refine ⟨?_, ?_, ?_, ?_⟩
    · show (c.relay.tell report).handler = _
      rw [htold, hattached]
      rfl
    · show (c.relay.tell report).failure = List.findSome? _ _
      rw [htold, hmissed, h.failure]
      show _ = List.findSome? _ (missed moves ++ [report])
      rw [List.findSome?_append, List.findSome?_singleton]
    · show (c.relay.tell report).ignored = List.any _ _
      rw [htold, hmissed, h.ignored]
      show _ = List.any (missed moves ++ [report]) _
      rw [List.any_append, List.any_cons, List.any_nil, Bool.or_false]
    · rw [List.any_append, ← show c.signals.closed = _ from h.closed]
      exact (Bool.or_false _).symm

/-- A batch is the handler's own, and nobody's while there is none. -/
lemma route_batch (c : Connection σ P H) (mode : BatchMode) (size : Int64) (result : ρ) :
    c.route (.batch mode size result) =
      (RelayMove.sight c.relay.handler (.batch mode size result),
        { c with relay := { c.relay with
          handler := c.relay.handler.map fun handler =>
            hear handler (.batch mode size result) } }) := by
  obtain ⟨⟨handler, failure, ignored⟩, bound, notice, signals, engine⟩ := c
  cases handler with
  | none => rfl
  | some handler =>
    show _ = (Sight.ofBatch (Sink.batch mode size (handler, result)),
      (⟨⟨some (finalState (Sink.batch mode size (handler, result))).1, failure, ignored⟩,
        bound, notice, signals, engine⟩ : Connection σ P H))
    unfold route batch Relay.batch
    dsimp only
    generalize Sink.batch mode size (handler, result) = taken
    cases taken <;> rfl

theorem isAccounted_route (h : IsAccounted moves c) (move : RelayMove ρ H) :
    IsAccounted (moves ++ [move]) (c.route move).2 := by
  have hattached := attached_snoc moves move
  have hmissed := missed_snoc moves move
  -- only reports and the word to forget have to do with what is kept
  have hsilent (hforget : move.isForget = false) (hreport : move.report? = none) :
      missed (moves ++ [move]) = missed moves := by
    rw [hmissed, hforget, hreport, ite_self]
    exact List.append_nil _
  cases move with
  | attach handler => exact h.keep (hsilent rfl rfl) rfl hattached
  | detach => exact h.keep (hsilent rfl rfl) rfl hattached
  | tell report => exact isAccounted_tell h report
  | batch mode size result =>
    rw [route_batch, h.handler]
    exact h.keep (hsilent rfl rfl) rfl hattached
  | forget =>
    refine ⟨?_, ?_, ?_, ?_⟩
    · rw [hattached, ← h.handler]
      exact (Option.map_id_apply).symm
    · rw [hmissed]
      rfl
    · rw [hmissed]
      rfl
    · rw [List.any_append, ← show c.signals.closed = _ from h.closed]
      exact (Bool.or_false _).symm
  | close =>
    refine ⟨?_, ?_, ?_, ?_⟩
    · rw [hattached, ← h.handler]
      exact (Option.map_id_apply).symm
    · rw [hsilent rfl rfl]
      exact h.failure
    · rw [hsilent rfl rfl]
      exact h.ignored
    · rw [List.any_append]
      exact (Bool.or_true _).symm

lemma isAccounted_foldl (h : IsAccounted moves c) (later : List (RelayMove ρ H)) :
    IsAccounted (moves ++ later) (later.foldl (fun c move => (c.route move).2) c) := by
  -- the induction is on the moves to come, with those made so far
  induction later generalizing moves c with
  | nil => rwa [List.append_nil]
  | cons move later ih =>
    have hnext := ih (isAccounted_route h move)
    rwa [List.append_assoc] at hnext

/-- What the caller sees of a move is what the handler that is there makes of it. -/
lemma sight_route (c : Connection σ P H) (move : RelayMove ρ H) :
    (c.route move).1 = move.sight c.relay.handler := by
  cases move with
  | batch mode size result => rw [route_batch]
  | _ => rfl

/-- Requests are performed unless the connection has ended or something is kept. -/
lemma IsAccounted.canProceed_iff (h : IsAccounted moves c) :
    c.canProceed ↔ (∀ move ∈ moves, move.isClose = false) ∧
      ∀ report ∈ missed moves, report.isKept = false := by
  have hgate : c.canProceed ↔ c.signals.closed = false ∧ c.relay.isSettled := by
    unfold canProceed
    rw [Bool.and_eq_true, Bool.not_eq_true']
  have hkept : (∀ report ∈ missed moves, report.isKept = false) ↔
      c.relay.failure = none ∧ c.relay.ignored = false := by
    rw [h.failure, h.ignored, List.findSome?_eq_none_iff, List.any_eq_false]
    simp only [Report.isKept, Bool.or_eq_false_iff, Option.isSome_eq_false_iff,
      Option.isNone_iff_eq_none, Bool.not_eq_true, forall_and]
  rw [hgate, hkept, Relay.isSettled_iff, h.closed, List.any_eq_false]
  simp only [Bool.not_eq_true]

end

/-- After some moves the relay is as the history says, and so is what the caller sees of the next
one. -/
structure FollowsHistory (moves : List (RelayMove ρ H)) (c : Connection σ P H) : Prop where
  /-- The handler that is attached has heard all that was said since, in order. -/
  handler : c.relay.handler = attached moves
  /-- The first failure is kept of those that nobody heard. -/
  failure : c.relay.failure = (missed moves).findSome? Report.failure?
  ignored : c.relay.ignored ↔ ∃ report ∈ missed moves, report.isIgnored
  canProceed : c.canProceed ↔ (∀ move ∈ moves, move.isClose = false) ∧
    ∀ report ∈ missed moves, report.isKept = false
  /-- The caller sees what the handler makes of a move; without a handler no row is taken. -/
  sight : ∀ move : RelayMove ρ H, (c.route move).1 = move.sight (attached moves)
  /-- What is kept neither is changed by the coming of a handler, nor reaches it. -/
  attach : ∀ handler : Option H, (c.route (.attach handler : RelayMove ρ H)).2.relay =
    { c.relay with handler }

/-- Whatever is done with the relay of a new connection, in whatever order, the handler, what is
kept, the gate for requests and all that the caller sees are as the history says. -/
theorem relay_follows_history (bound : Option P) (notice : Option Status) (engine : σ)
    (moves : List (RelayMove ρ H)) :
    FollowsHistory moves
      (moves.foldl (fun c move => (c.route move).2) { bound, notice, engine }) := by
  have hstart : IsAccounted ([] : List (RelayMove ρ H))
      ({ bound, notice, engine } : Connection σ P H) := ⟨rfl, rfl, rfl, rfl⟩
  have h := isAccounted_foldl hstart moves
  rw [List.nil_append] at h
  refine ⟨h.handler, h.failure, ?_, h.canProceed_iff, ?_, fun handler => rfl⟩
  · rw [h.ignored, List.any_eq_true]
  · intro move
    rw [sight_route, h.handler]

end Connection

end QuerySession
