import QuerySession.Proofs.Alike
import QuerySession.Proofs.Closing

/-!
# What a worker makes of its queue

A worker is a loop around its session. It adds nothing of its own: up to the first request that
ends the session it serves its queue as if the requests were handed to the session one by one, each
with a fresh reply that writes to a list which all of them share. Then it closes the session, and
the requests that are left come to nothing.

* `Conversation`, `Conversation.after`: requests that are handed to a session one by one;
* `Worker.finish_eq`: what remains of a worker, by its loop;
* `Worker.exists_drained`: the loop against the requests one by one;
* `Worker.drains_queue`: the rule.
-/

namespace QuerySession

variable {σ P ρ H K : Type}

/-! ## Requests one by one -/

/-- A session, and the list that all its replies write to. -/
structure Conversation (σ P : Type) where
  session : Session σ P (Reply (List Response))
  responses : List Response := []
  /-- The last request was returned a fault, or found or left the session closed. -/
  ended : Bool := false

namespace Conversation

variable [RecordSource ρ]

/-- Hands a request to the session. -/
def serve (E : Engine σ P ρ) (x : Conversation σ P) (request : Request) : Conversation σ P :=
  let served := x.session.serve E request { output := x.responses }
  { session := served.session
    responses := served.handler.elim x.responses fun reply => reply.output
    ended := served.outcome matches .error _ || served.session.isClosed }

/-- Hands requests to the session, one after the other and to the last. -/
def after (E : Engine σ P ρ) (requests : List Request) (x : Conversation σ P) : Conversation σ P :=
  requests.foldl (serve E) x

/-- Some requests are the shortest start of a queue that ends with a request which ends the
session. If there is no such request they are the whole queue. -/
structure IsShortest (E : Engine σ P ρ) (x : Conversation σ P) (served lost : List Request) :
    Prop where
  goes_on : ∀ first rest, served = first ++ rest → rest ≠ [] → (x.after E first).ended = false
  ends : (x.after E served).ended = true ∨ lost = []

end Conversation

/-- The same session without its handler, for handlers of another kind. -/
def Session.detached (s : Session σ P H) : Session σ P K where
  self := s.self
  connection :=
    { relay := { failure := s.connection.relay.failure, ignored := s.connection.relay.ignored }
      bound := s.connection.bound
      notice := s.connection.notice
      signals := s.connection.signals
      engine := s.connection.engine }
  phase := s.phase

lemma Session.same_detached (s : Session σ P H) : s.Same (s.detached : Session σ P K) :=
  ⟨rfl, rfl, ⟨⟨rfl, rfl⟩, rfl, rfl, rfl, rfl⟩⟩

/-! ## Outlets and lists -/

/-- A list has what an outlet has sent, behind what it had before. -/
structure Outlet.Continues (before : List Response) (outlet : Outlet) (list : List Response) :
    Prop where
  connected : outlet.connected = true
  list_eq : list = before ++ outlet.sent

/-- As long as somebody reads, an outlet takes whatever a list takes. -/
lemma Outlet.alike (before : List Response) : ResponseWriter.Alike (Outlet.Continues before) := by
  have hwrite (response : Response) {outlet : Outlet} {list : List Response}
      (h : outlet.Continues before list) :
      Agree (Outlet.Continues before) (ResponseWriter.write response outlet)
        (ResponseWriter.write response list) := by
    have hsent : ResponseWriter.write response outlet =
        .ok () { outlet with sent := outlet.sent ++ [response] } := if_pos h.connected
    rw [hsent]
    refine .ok ⟨h.connected, ?_⟩
    rw [h.list_eq, List.append_assoc]
  refine ⟨fun row => hwrite (.record row), fun response outlet list h => ?_⟩
  have hwritten := hwrite response h
  generalize ResponseWriter.write response outlet = r at hwritten
  generalize ResponseWriter.write response list = r' at hwritten
  cases hwritten with
  | ok hleft => exact hleft
  | error hleft => exact hleft

/-! ## The loop -/

namespace Worker

variable [RecordSource ρ] {E : Engine σ P ρ}

/-- A worker that finishes serves what waits in its queue and closes the session. -/
lemma finish_eq {w : Worker σ P} (hruns : w.stopped = false) :
    w.finish E =
      { w with
        session := (serveAll E w.connected w.queue w.session).2.1.close E
        queue := []
        answers := w.answers ++ (serveAll E w.connected w.queue w.session).2.2
        stopped := true } := by
  unfold finish advance
  rw [hruns, if_neg Bool.false_ne_true]
  generalize serveAll E w.connected w.queue w.session = result
  obtain ⟨ended, session, answers⟩ := result
  cases ended <;> rfl

/-- A request ended the session: it was returned a fault, or found or left the session closed. -/
def ended (served : Except Fault Unit × WorkerSession σ P × List Response) : Bool :=
  served.1 matches .error _ || served.2.1.isClosed

lemma serveAll_of_ended {connected : Bool} {request : Request} {s : WorkerSession σ P}
    (h : ended (serveOne E connected request s) = true) (queue : List Request) :
    (serveAll E connected (request :: queue) s).2 = (serveOne E connected request s).2 := by
  unfold serveAll
  generalize serveOne E connected request s = served at h
  obtain ⟨outcome, next, answers⟩ := served
  cases outcome with
  | error fault => rfl
  | ok _ =>
    have hclosed : next.isClosed = true := h
    dsimp only
    rw [if_pos hclosed]

lemma serveAll_of_not_ended {connected : Bool} {request : Request} {s : WorkerSession σ P}
    (h : ended (serveOne E connected request s) = false) (queue : List Request) :
    (serveAll E connected (request :: queue) s).2 =
      ((serveAll E connected queue (serveOne E connected request s).2.1).2.1,
        (serveOne E connected request s).2.2 ++
          (serveAll E connected queue (serveOne E connected request s).2.1).2.2) := by
  rw [serveAll]
  generalize serveOne E connected request s = served at h
  obtain ⟨outcome, next, answers⟩ := served
  cases outcome with
  | error fault => cases h
  | ok _ =>
    have hopen : next.isClosed = false := h
    dsimp only
    rw [if_neg (Bool.eq_false_iff.mp hopen)]

section
variable {s : WorkerSession σ P} {x : Conversation σ P}

/-- A request that a worker serves is handed to its session. -/
lemma serveOne_same (hsame : s.Same x.session) (request : Request) :
    (serveOne E true request s).2.1.Same (x.serve E request).session ∧
      (x.serve E request).responses = x.responses ++ (serveOne E true request s).2.2 ∧
      (x.serve E request).ended = ended (serveOne E true request s) := by
  have hfresh : Reply.Alike (Outlet.Continues x.responses)
      { output := { connected := true } } { output := x.responses } :=
    ⟨⟨rfl, (List.append_nil _).symm⟩, rfl, rfl, rfl⟩
  have hserved := hsame.serveAmid (E := E) (Reply.alike (Outlet.alike x.responses)) 0 request hfresh
  rw [Session.serveAmid_zero, Session.serveAmid_zero] at hserved
  unfold ended serveOne Conversation.serve
  dsimp only
  refine ⟨hserved.session, ?_, ?_⟩
  · have hreply := hserved.handler
    generalize (s.serve E request _).handler = reply? at hreply
    generalize (x.session.serve E request _).handler = other? at hreply
    cases hreply with
    | some hreply => exact hreply.output.list_eq
    | none => exact (List.append_nil _).symm
  · rw [hserved.outcome, hserved.session.isClosed]

/-- The loop serves the shortest start of the queue that ends the session, as if its requests were
handed to the session one by one. -/
theorem exists_drained (queue : List Request) (hsame : s.Same x.session) (hgoes : x.ended = false) :
    ∃ served lost, queue = served ++ lost ∧ x.IsShortest E served lost ∧
      (serveAll E true queue s).2.1.Same (x.after E served).session ∧
      (x.after E served).responses = x.responses ++ (serveAll E true queue s).2.2 := by
  -- the induction is on the queue, from whatever the requests before have led to
  induction queue generalizing s x with
  | nil =>
    refine ⟨[], [], rfl, ⟨?_, Or.inr rfl⟩, hsame, (List.append_nil _).symm⟩
    intro first rest hnil hrest
    exact absurd (List.append_eq_nil_iff.mp hnil.symm).2 hrest
  | cons request queue ih =>
    obtain ⟨hnext, hresponses, hended⟩ := serveOne_same (E := E) hsame request
    cases hends : ended (serveOne E true request s) with
    | true =>
      refine ⟨[request], queue, rfl, ⟨?_, Or.inl (hended.trans hends)⟩, ?_, ?_⟩
      · -- before the only request nothing was served
        intro first rest hsplit hrest
        have hfirst : first = [] := by
          cases first with
          | nil => rfl
          | cons other first =>
            have htail := congrArg List.tail hsplit
            exact absurd (List.append_eq_nil_iff.mp htail.symm).2 hrest
        rw [hfirst]
        exact hgoes
      · rw [serveAll_of_ended hends]
        exact hnext
      · rw [serveAll_of_ended hends]
        exact hresponses
    | false =>
      obtain ⟨served, lost, rfl, hshortest, hsession, hlater⟩ := ih hnext (hended.trans hends)
      refine ⟨request :: served, lost, rfl, ⟨?_, hshortest.ends⟩, ?_, ?_⟩
      · intro first rest hsplit hrest
        cases first with
        | nil => exact hgoes
        | cons other first =>
          obtain ⟨rfl, htail⟩ := List.cons.inj hsplit
          exact hshortest.goes_on first rest htail hrest
      · rw [serveAll_of_not_ended hends]
        exact hsession
      · rw [serveAll_of_not_ended hends]
        show ((x.serve E request).after E served).responses = _
        rw [hlater, hresponses, List.append_assoc]

end

/-! ## The rule -/

/-- A worker has served the shortest start of its queue that ends the session, as the requests were
served one by one, and nothing else. -/
structure IsDrained (E : Engine σ P ρ) (x : Conversation (Journal σ P) (Numbered P))
    (served lost : List Request) (w : Worker (Journal σ P) (Numbered P)) : Prop where
  shortest : x.IsShortest E.journaled served lost
  /-- What was sent is what the requests write to the list. -/
  answers : w.answers = (x.after E.journaled served).responses
  /-- The session is where the requests have led to, and was closed there. -/
  session : w.session.Same ((x.after E.journaled served).session.close E.journaled)
  /-- Behind these requests the session gave up the processor that was bound still, and called
  nothing else. -/
  calls : (x.after E.journaled served).session.connection.GivesUp w.session.connection
  isOver : w.session.IsOver

/-- A worker whose answers are read serves the shortest start of its queue that ends with a request
which ends the session, or else the whole queue. What it sends is what these requests write, each
with a reply of its own, to a list that they share; of the others neither the client hears nor any
processor; and the session is closed at the end and has given up its processor. -/
theorem drains_queue (E : Engine σ P ρ) (s : WorkerSession (Journal σ P) (Numbered P))
    (capacity : Nat) (queue : List Request) :
    ∃ served lost, queue = served ++ lost ∧
      IsDrained E { session := s.detached } served lost
        (({ session := s, capacity, queue } : Worker _ _).finish E.journaled) := by
  obtain ⟨served, lost, hqueue, hshortest, hsession, hresponses⟩ :=
    exists_drained (E := E.journaled) (x := { session := s.detached }) queue s.same_detached rfl
  refine ⟨served, lost, hqueue, ?_⟩
  rw [finish_eq rfl]
  have hclosed := hsession.close (E := E.journaled)
  have hgivesUp := Session.givesUp_close E
    (({ session := s.detached } : Conversation _ _).after E.journaled served).session
  exact ⟨hshortest, (hresponses.trans (List.nil_append _)).symm, hclosed,
    hgivesUp.congr hclosed.connection.engine hclosed.connection.bound hclosed.connection.notice,
    Session.isOver_close⟩

end Worker
end QuerySession
