import QuerySession.Proofs.Entries

/-!
# A notice guards the binding

The binding of a connection and its notice are worked on by seven operations, in whatever order
somebody chooses. Two rules say all of what they do, in terms of what has happened before: a notice
is pending if one was recorded since an access failed last, and the processor is bound that was
bound last, unless it was left or lost since.

* `BindingMove`, `Happening`: the operations, and what each comes to;
* `Happening.pending`, `Happening.binding`: what a history says about notice and binding;
* `Account.isTold_make`: one more operation;
* `Account.notice_guards_binding`: the rule.
-/

namespace QuerySession

variable {σ P ρ H : Type}

/-- What can be done with the binding and the notice of a connection. The first three are
accesses. -/
inductive BindingMove (σ P : Type) where
  /-- Gets the bound processor and works with it, in any way. -/
  | call (work : Option P → EStateM Fault σ Unit)
  /-- Gets the bound processor and lets it show a result to the relay. -/
  | stream (statement : Int64) (mode : BatchMode) (size : Int64)
  /-- Binds a processor, or the idle one. -/
  | engage (p : Option P)
  /-- Leaves the bound processor. -/
  | dismiss
  /-- Records why the last transaction was torn down. -/
  | record (status : Status)
  /-- Asks the bound processor whether its transaction is alive. -/
  | validate
  /-- Asks the transaction of the bound processor to stop. -/
  | abort

/-- The move is an access to the binding. -/
def BindingMove.isAccess : BindingMove σ P → Bool
  | call _ | stream .. | engage _ => true
  | dismiss | record _ | validate | abort => false

/-- What a move came to. -/
inductive Happening (P : Type) where
  /-- An access was given the bound processor. -/
  | granted (p : Option (Numbered P))
  /-- A processor was bound, which is an access too. -/
  | engaged (p : Option (Numbered P))
  /-- An access failed. -/
  | refused (fault : Fault)
  | dismissed
  | recorded (status : Status)
  /-- The connection asked after the transaction, by these calls. -/
  | validated (calls : List (Event P))
  /-- The connection asked the transaction to stop, by these calls. -/
  | aborted (calls : List (Event P))

namespace Happening

/-- The fault with which an access failed. -/
def fault? : Happening P → Option Fault
  | refused fault => some fault
  | _ => none

/-- The status with which a processor reported that its transaction was torn down. -/
def reported? : Happening P → Option Status
  | validated [.called _ .validate (.terminated status)] => some status
  | _ => none

/-- The notice that was recorded, by hand or for a report. -/
def recorded? : Happening P → Option Status
  | recorded status => some status
  | h => h.reported?

/-- What is bound since, if the binding was touched: a processor that was bound, or the idle one
once a processor was left, or reported that its transaction was torn down. -/
def rebound? : Happening P → Option (Option (Numbered P))
  | engaged p => some p
  | dismissed => some none
  | h => h.reported?.map fun _ => none

/-- The notice that was recorded last, since an access failed last. -/
def pending (history : List (Happening P)) : Option Status :=
  (history.reverse.takeWhile fun h => h.fault?.isNone).findSome? recorded?

/-- What was bound last. At the start it is the idle processor. -/
def binding (history : List (Happening P)) : Option (Numbered P) :=
  (history.reverse.findSome? rebound?).getD none

lemma pending_snoc (history : List (Happening P)) (h : Happening P) :
    pending (history ++ [h]) =
      if h.fault?.isSome then none else h.recorded?.or (pending history) := by
  unfold pending
  rw [List.reverse_append, List.reverse_singleton, List.singleton_append, List.takeWhile_cons]
  cases h.fault? with
  | some fault => rfl
  | none =>
    show List.findSome? recorded? (h :: _) = h.recorded?.or _
    rw [List.findSome?_cons]
    cases h.recorded? <;> rfl

lemma binding_snoc (history : List (Happening P)) (h : Happening P) :
    binding (history ++ [h]) = h.rebound?.getD (binding history) := by
  unfold binding
  rw [List.reverse_append, List.reverse_singleton, List.singleton_append, List.findSome?_cons]
  cases h.rebound? <;> rfl

/-- Nothing is pending after an access that failed, until another notice is recorded. -/
lemma pending_of_refused (before between : List (Happening P)) (fault : Fault)
    (hquiet : ∀ h ∈ between, h.recorded? = none) :
    pending (before ++ refused fault :: between) = none := by
  -- the induction is on what happened since, from the end
  induction between using List.reverseRecOn with
  | nil => rw [pending_snoc]; rfl
  | append_singleton between h ih =>
    have hsplit : before ++ refused fault :: (between ++ [h]) =
        before ++ refused fault :: between ++ [h] := by simp
    rw [hsplit, pending_snoc, hquiet h (List.mem_append_right _ List.mem_cons_self),
      ih fun other hmem => hquiet other (List.mem_append_left _ hmem)]
    exact ite_self none

lemma rebound_of_fault {h : Happening P} (hfailed : h.fault?.isSome) : h.rebound? = none := by
  cases h with
  | refused fault => rfl
  | _ => cases hfailed

/-- What an access comes to. -/
def ofAccess {τ α : Type} (given : α → Happening P) : EStateM.Result Fault τ α → Happening P
  | .ok a _ => given a
  | .error fault _ => refused fault

end Happening

namespace Connection

/-- The entries that a journal has more than it had before. -/
def entriesSince (c d : Connection (Journal σ P) (Numbered P) H) : List (Event P) :=
  d.engine.events.drop c.engine.events.length

/-- Makes a move. -/
def happen [Sink H] [RecordSource ρ] (E : Engine σ P ρ)
    (c : Connection (Journal σ P) (Numbered P) H) :
    BindingMove (Journal σ P) (Numbered P) →
      Happening P × Connection (Journal σ P) (Numbered P) H
  | .call work => (.ofAccess .granted (access c), finalState (call work c))
  | .stream number mode size =>
    (.ofAccess .granted (access c), finalState (stream E.journaled number mode size c))
  | .engage p => (.ofAccess (fun _ => .engaged p) (engage p c), finalState (engage p c))
  | .dismiss => (.dismissed, c.dismiss)
  | .record status => (.recorded status, { c with notice := some status })
  | .validate => (.validated (c.entriesSince (c.validate E.journaled)), c.validate E.journaled)
  | .abort => (.aborted (c.entriesSince (c.abort E.journaled)), c.abort E.journaled)

/-! ## One move -/

section
variable {E : Engine σ P ρ} {c d : Connection (Journal σ P) (Numbered P) H}
  {move : BindingMove (Journal σ P) (Numbered P)}

lemma entriesSince_of_append (added : List (Event P))
    (h : d.engine.events = c.engine.events ++ added) : c.entriesSince d = added := by
  unfold entriesSince
  rw [h]
  exact List.drop_left

/-- Working with a processor leaves the binding and the notice, unless the notice is raised. -/
lemma binding_call (hnotice : c.notice = none)
    (work : Option (Numbered P) → EStateM Fault (Journal σ P) Unit) :
    (finalState (call work c)).notice = none ∧ (finalState (call work c)).bound = c.bound := by
  have hcall : wp (call work) (fun _ d => d.notice = none ∧ d.bound = c.bound)
      (fun _ d => d.notice = none ∧ d.bound = c.bound) c := by
    rw [wp_call_of_bound hnotice rfl]
    exact Meets.always (fun _ _ => ⟨hnotice, rfl⟩) (fun _ _ => ⟨hnotice, rfl⟩) _
  exact finalState_of_wp hcall

variable [Sink H] [RecordSource ρ]

lemma binding_stream (hnotice : c.notice = none) (number : Int64) (mode : BatchMode)
    (size : Int64) :
    (finalState (stream E.journaled number mode size c)).notice = none ∧
      (finalState (stream E.journaled number mode size c)).bound = c.bound := by
  have hstream : wp (stream E.journaled number mode size)
      (fun _ d => d.notice = none ∧ d.bound = c.bound)
      (fun _ d => d.notice = none ∧ d.bound = c.bound) c := by
    rw [wp_stream_of_bound hnotice rfl]
    exact Meets.always (fun _ _ => ⟨hnotice, rfl⟩) (fun _ _ => ⟨hnotice, rfl⟩) _
  exact finalState_of_wp hstream

/-- A pending notice makes an access fail and is used up by that. -/
lemma happen_of_notice {status : Status} (hnotice : c.notice = some status)
    (haccess : move.isAccess) :
    c.happen E move = (.refused (.transactionTerminated status), { c with notice := none }) := by
  -- whatever an access is for, the notice comes up before that is done
  have hlost {α : Type} {act : Action (Journal σ P) (Numbered P) H α}
      (h : wp act (fun _ _ => False) (fun fault d =>
        fault = .transactionTerminated status ∧ d = { c with notice := none }) c) :
      act c = .error (.transactionTerminated status) { c with notice := none } := eq_error_of_wp h
  cases move with
  | call work =>
    have hcall := hlost ((wp_call_of_notice hnotice work).mpr ⟨rfl, rfl⟩)
    show (Happening.ofAccess .granted (access c), finalState (call work c)) = _
    rw [access_of_notice hnotice, hcall]
    rfl
  | stream number mode size =>
    have hstream := hlost
      ((wp_stream_of_notice (E := E.journaled) hnotice number mode size).mpr ⟨rfl, rfl⟩)
    show (Happening.ofAccess .granted (access c),
      finalState (stream E.journaled number mode size c)) = _
    rw [access_of_notice hnotice, hstream]
    rfl
  | engage p =>
    have hengage : engage p c = _ := hlost (by
      rw [wp_engage, hnotice]
      exact ⟨rfl, rfl⟩)
    show (Happening.ofAccess _ (engage p c), finalState (engage p c)) = _
    rw [hengage]
    rfl
  | dismiss | record | validate | abort => cases haccess

/-- Without a notice an access succeeds. -/
lemma happen_of_no_notice (hnotice : c.notice = none) (haccess : move.isAccess) :
    ∃ h d, c.happen E move = (h, d) ∧ h.fault? = none ∧ h.recorded? = none ∧ d.notice = none ∧
      d.bound = h.rebound?.getD c.bound ∧ ∀ p, h = .granted p → p = c.bound := by
  cases move with
  | call work =>
    have hhappen : c.happen E (.call work) = (.granted c.bound, finalState (call work c)) := by
      show (Happening.ofAccess .granted (access c), _) = _
      rw [access_of_no_notice hnotice]
      rfl
    obtain ⟨hleft, hbound⟩ := binding_call hnotice work
    exact ⟨_, _, hhappen, rfl, rfl, hleft, hbound, fun p hp => (Happening.granted.inj hp).symm⟩
  | stream number mode size =>
    have hhappen : c.happen E (.stream number mode size) =
        (.granted c.bound, finalState (stream E.journaled number mode size c)) := by
      show (Happening.ofAccess .granted (access c), _) = _
      rw [access_of_no_notice hnotice]
      rfl
    obtain ⟨hleft, hbound⟩ := binding_stream (E := E) hnotice number mode size
    exact ⟨_, _, hhappen, rfl, rfl, hleft, hbound, fun p hp => (Happening.granted.inj hp).symm⟩
  | engage p =>
    have hengage : engage p c = .ok () { c with bound := p } := eq_ok_of_wp (by
      rw [wp_engage, hnotice]
      exact ⟨rfl, rfl⟩)
    have hhappen : c.happen E (.engage p) = (.engaged p, { c with bound := p }) := by
      show (Happening.ofAccess _ (engage p c), finalState (engage p c)) = _
      rw [hengage]
      rfl
    exact ⟨_, _, hhappen, rfl, rfl, hnotice, rfl, nofun⟩
  | dismiss | record | validate | abort => cases haccess

/-- What a move came to says what it has changed. -/
structure Tells (c : Connection (Journal σ P) (Numbered P) H) (h : Happening P)
    (d : Connection (Journal σ P) (Numbered P) H) : Prop where
  notice : d.notice = if h.fault?.isSome then none else h.recorded?.or c.notice
  bound : d.bound = h.rebound?.getD c.bound
  granted : ∀ p, h = .granted p → p = c.bound

omit [Sink H] [RecordSource ρ] in
/-- The question after a transaction enters whether it was torn down. -/
lemma tells_validate (E : Engine σ P ρ) (c : Connection (Journal σ P) (Numbered P) H) :
    c.Tells (.validated (c.entriesSince (c.validate E.journaled))) (c.validate E.journaled) := by
  rcases validate_cases E c with ⟨-, heq⟩ | ⟨p, state, hnotice, -, heq⟩ |
    ⟨p, status, state, -, -, heq⟩
  · have hentries : c.entriesSince c = [] := entriesSince_of_append [] (List.append_nil _).symm
    rw [heq, hentries]
    exact ⟨rfl, rfl, nofun⟩
  · rw [heq, entriesSince_of_append [.called p .validate .done] rfl]
    exact ⟨rfl, rfl, nofun⟩
  · rw [heq, entriesSince_of_append [.called p .validate (.terminated status)] rfl]
    exact ⟨rfl, rfl, nofun⟩

/-- Every move tells what it has changed. -/
theorem tells_happen (E : Engine σ P ρ) (c : Connection (Journal σ P) (Numbered P) H)
    (move : BindingMove (Journal σ P) (Numbered P)) :
    c.Tells (c.happen E move).1 (c.happen E move).2 := by
  -- only accesses fail, so the others are told by what they record and bind
  cases haccess : move.isAccess with
  | true =>
    rcases Option.eq_none_or_eq_some c.notice with hnotice | ⟨status, hnotice⟩
    · obtain ⟨h, d, heq, hfault, hrecorded, hleft, hbound, hgranted⟩ :=
        happen_of_no_notice (E := E) hnotice haccess
      rw [heq]
      refine ⟨?_, hbound, hgranted⟩
      rw [hfault, hrecorded, hnotice, hleft]
      rfl
    · rw [happen_of_notice hnotice haccess]
      exact ⟨rfl, rfl, nofun⟩
  | false =>
    cases move with
    | call | stream | engage => cases haccess
    | dismiss => exact ⟨rfl, rfl, nofun⟩
    | record status => exact ⟨rfl, rfl, nofun⟩
    | validate => exact tells_validate E c
    | abort =>
      rcases Option.eq_none_or_eq_some c.notice with hnotice | ⟨status, hnotice⟩
      · show c.Tells (.aborted _) (c.abort E.journaled)
        rw [abort_of_bound hnotice rfl]
        exact ⟨rfl, rfl, nofun⟩
      · show c.Tells (.aborted _) (c.abort E.journaled)
        rw [abort_of_notice hnotice]
        exact ⟨rfl, rfl, nofun⟩

/-- An access fails if a notice is pending, and for no other reason. -/
lemma fault_happen :
    (c.happen E move).1.fault? =
      if move.isAccess then c.notice.map .transactionTerminated else none := by
  cases haccess : move.isAccess with
  | true =>
    rcases Option.eq_none_or_eq_some c.notice with hnotice | ⟨status, hnotice⟩
    · obtain ⟨h, d, heq, hfault, -⟩ := happen_of_no_notice (E := E) hnotice haccess
      rw [heq, hnotice]
      exact hfault
    · rw [happen_of_notice hnotice haccess, hnotice]
      rfl
  | false =>
    cases move with
    | call | stream | engage => cases haccess
    | dismiss | record | validate | abort => rfl

/-- While a notice is pending no processor is asked after its transaction, nor to stop it. -/
lemma happen_spares {status : Status} (hnotice : c.notice = some status)
    (hmove : move = .validate ∨ move = .abort) : (c.happen E move).2 = c := by
  rcases hmove with rfl | rfl
  · exact validate_of_notice hnotice
  · exact abort_of_notice hnotice

/-- While a notice is pending the bound processor can be left, and that is all. -/
lemma bound_happen_of_notice {status : Status} (hnotice : c.notice = some status) :
    (c.happen E move).2.bound = c.bound ∨
      move = .dismiss ∧ (c.happen E move).2.bound = none := by
  cases haccess : move.isAccess with
  | true =>
    rw [happen_of_notice hnotice haccess]
    exact Or.inl rfl
  | false =>
    cases move with
    | call | stream | engage => cases haccess
    | dismiss => exact Or.inr ⟨rfl, rfl⟩
    | record => exact Or.inl rfl
    | validate =>
      rw [happen_spares hnotice (Or.inl rfl)]
      exact Or.inl rfl
    | abort =>
      rw [happen_spares hnotice (Or.inr rfl)]
      exact Or.inl rfl

end

end Connection

/-- What has happened so far, and the connection that it has led to. -/
structure Account (σ P H : Type) where
  history : List (Happening P) := []
  connection : Connection (Journal σ P) (Numbered P) H

namespace Account

variable [Sink H] [RecordSource ρ]

/-- Makes a move and keeps what it came to. -/
def make (E : Engine σ P ρ) (x : Account σ P H)
    (move : BindingMove (Journal σ P) (Numbered P)) : Account σ P H :=
  let (h, d) := x.connection.happen E move
  { history := x.history ++ [h], connection := d }

/-- Makes moves in turn. -/
def after (E : Engine σ P ρ) (moves : List (BindingMove (Journal σ P) (Numbered P)))
    (x : Account σ P H) : Account σ P H :=
  moves.foldl (make E) x

/-- The history says what is pending and what is bound. -/
structure IsTold (x : Account σ P H) : Prop where
  notice : x.connection.notice = Happening.pending x.history
  bound : x.connection.bound = Happening.binding x.history

section
variable {E : Engine σ P ρ} {x : Account σ P H}
  {move : BindingMove (Journal σ P) (Numbered P)}

lemma isTold_make (h : x.IsTold) : (x.make E move).IsTold := by
  have htells := Connection.tells_happen E x.connection move
  refine ⟨?_, ?_⟩
  · show (x.connection.happen E move).2.notice =
      Happening.pending (x.history ++ [(x.connection.happen E move).1])
    rw [htells.notice, h.notice, Happening.pending_snoc]
  · show (x.connection.happen E move).2.bound =
      Happening.binding (x.history ++ [(x.connection.happen E move).1])
    rw [htells.bound, h.bound, Happening.binding_snoc]

lemma isTold_after (h : x.IsTold) (moves : List (BindingMove (Journal σ P) (Numbered P))) :
    (x.after E moves).IsTold := by
  unfold after
  -- the induction is on the moves to come, from whatever was told so far
  induction moves generalizing x with
  | nil => exact h
  | cons move moves ih => exact ih (isTold_make h)

end

/-- A move keeps to the rules, after a history and for what it comes to and leads to. -/
structure IsGuarded (x : Account σ P H) (move : BindingMove (Journal σ P) (Numbered P))
    (h : Happening P) (d : Connection (Journal σ P) (Numbered P) H) : Prop where
  /-- An access fails exactly if a notice was recorded since an access failed last, and says the
  status that was recorded last. -/
  refused : move.isAccess → h.fault? = (Happening.pending x.history).map .transactionTerminated
  /-- The next access succeeds, unless another notice was recorded. -/
  once : ∀ before fault between, x.history = before ++ .refused fault :: between →
    (∀ other ∈ between, other.recorded? = none) → h.fault? = none
  /-- An access is given the processor that was bound last. -/
  granted : ∀ p, h = .granted p → p = Happening.binding x.history
  /-- Where an access fails, nothing is bound. -/
  unbound : h.fault?.isSome → d.bound = x.connection.bound
  /-- While a notice is pending, no processor is asked about its transaction or told to stop it. -/
  spared : x.connection.notice ≠ none → move = .validate ∨ move = .abort → d = x.connection
  /-- While a notice is pending, the bound processor can be left, and that is all. -/
  kept : x.connection.notice ≠ none →
    d.bound = x.connection.bound ∨ move = .dismiss ∧ d.bound = none
  dismissed : move = .dismiss → d.notice = x.connection.notice

/-- Whatever is done with the binding and the notice of a new connection, in whatever order, the
history says what is pending and what is bound, and the next move keeps to the rules. -/
theorem notice_guards_binding (E : Engine σ P ρ) (relay : Relay H) (signals : Signals)
    (journal : Journal σ P) (moves : List (BindingMove (Journal σ P) (Numbered P)))
    (move : BindingMove (Journal σ P) (Numbered P)) :
    let x := after E moves { connection := { relay, signals, engine := journal } }
    x.IsTold ∧ x.IsGuarded move (x.connection.happen E move).1 (x.connection.happen E move).2 := by
  intro x
  have htold : x.IsTold := isTold_after ⟨rfl, rfl⟩ moves
  have htells := Connection.tells_happen E x.connection move
  refine ⟨htold, ?_, ?_, ?_, ?_, ?_, ?_, ?_⟩
  · intro haccess
    rw [Connection.fault_happen, if_pos haccess, htold.notice]
  · intro before fault between hhistory hquiet
    rw [Connection.fault_happen, htold.notice, hhistory,
      Happening.pending_of_refused before between fault hquiet]
    exact ite_self none
  · intro p hp
    rw [htells.granted p hp, htold.bound]
  · intro hfailed
    rw [htells.bound, Happening.rebound_of_fault hfailed]
    rfl
  · intro hpending hmove
    obtain ⟨status, hnotice⟩ := Option.ne_none_iff_exists'.mp hpending
    exact Connection.happen_spares hnotice hmove
  · intro hpending
    obtain ⟨status, hnotice⟩ := Option.ne_none_iff_exists'.mp hpending
    exact Connection.bound_happen_of_notice hnotice
  · rintro rfl
    rfl

end Account

end QuerySession
