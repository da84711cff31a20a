import Mathlib.Tactic.Lemma
import QuerySession.Phase

/-!
# Weakest preconditions of actions

`wp act done failed c` says that the action `act`, started on `c`, ends with `done`, or with
`failed` if it raises a fault. Every step that the table of phases is made of has one lemma that
moves `wp` into the engine, so a statement about a row of the table becomes one about the calls
on the engine, and what the relay hears plays a part only where the statement mentions it.

* `wp_mono`: weaker conclusions;
* `wp_access`, `wp_call`, `wp_stream`: the three ways to the bound processor, each of which
  raises a pending notice instead.
-/

namespace QuerySession

/-- What came of an action, judged by one condition for its end and one for its faults. -/
def Meets {ε s α : Type} (done : α → s → Prop) (failed : ε → s → Prop) :
    EStateM.Result ε s α → Prop
  | .ok a c => done a c
  | .error fault c => failed fault c

/-- What must hold before an action for `done` to hold after it, or `failed` after a fault. -/
def wp {ε s α : Type} (act : EStateM ε s α) (done : α → s → Prop) (failed : ε → s → Prop)
    (c : s) : Prop := Meets done failed (act c)

/-- The state that an action leaves, whether it ends well or not. -/
def finalState {ε s α : Type} : EStateM.Result ε s α → s
  | .ok _ c => c
  | .error _ c => c

/-! ## The rules of the monad -/

section
variable {ε s α β : Type} {done : α → s → Prop} {failed : ε → s → Prop} {c : s}

lemma Meets.mono {done' : α → s → Prop} {failed' : ε → s → Prop} {r : EStateM.Result ε s α}
    (h : Meets done failed r) (hdone : ∀ a c, done a c → done' a c)
    (hfailed : ∀ fault c, failed fault c → failed' fault c) : Meets done' failed' r := by
  cases r with
  | ok a c => exact hdone a c h
  | error fault c => exact hfailed fault c h

/-- Each outcome may be judged by itself. -/
lemma Meets.intro {r : EStateM.Result ε s α} (hdone : ∀ a c, r = .ok a c → done a c)
    (hfailed : ∀ fault c, r = .error fault c → failed fault c) : Meets done failed r := by
  cases r with
  | ok a c => exact hdone a c rfl
  | error fault c => exact hfailed fault c rfl

/-- What holds of any outcome holds of the one there is. -/
lemma Meets.always (hdone : ∀ a c, done a c) (hfailed : ∀ fault c, failed fault c)
    (r : EStateM.Result ε s α) : Meets done failed r := by
  cases r with
  | ok a c => exact hdone a c
  | error fault c => exact hfailed fault c

lemma wp_mono {done' : α → s → Prop} {failed' : ε → s → Prop} {act : EStateM ε s α}
    (h : wp act done failed c) (hdone : ∀ a c, done a c → done' a c)
    (hfailed : ∀ fault c, failed fault c → failed' fault c) : wp act done' failed' c :=
  Meets.mono h hdone hfailed

lemma wp_and {done' : α → s → Prop} {failed' : ε → s → Prop} {act : EStateM ε s α}
    (h : wp act done failed c) (h' : wp act done' failed' c) :
    wp act (fun a c => done a c ∧ done' a c) (fun fault c => failed fault c ∧ failed' fault c)
      c := by
  unfold wp at h h' ⊢
  cases hresult : act c with
  | ok a d =>
    rw [hresult] at h h'
    exact ⟨h, h'⟩
  | error fault d =>
    rw [hresult] at h h'
    exact ⟨h, h'⟩

lemma wp_of_ok {act : EStateM ε s α} {a : α} {d : s} (h : act c = .ok a d) :
    wp act done failed c ↔ done a d := by
  unfold wp
  rw [h]
  rfl

lemma wp_of_error {act : EStateM ε s α} {fault : ε} {d : s} (h : act c = .error fault d) :
    wp act done failed c ↔ failed fault d := by
  unfold wp
  rw [h]
  rfl

/-- An action that ends in one way only has that result. -/
lemma eq_ok_of_wp {act : EStateM ε s α} {a : α} {d : s}
    (h : wp act (fun a' c' => a' = a ∧ c' = d) (fun _ _ => False) c) : act c = .ok a d := by
  unfold wp at h
  cases hresult : act c with
  | ok a' c' =>
    rw [hresult] at h
    obtain ⟨rfl, rfl⟩ := h
    rfl
  | error fault c' =>
    rw [hresult] at h
    exact h.elim

/-- An action that can only raise one fault raises it. -/
lemma eq_error_of_wp {act : EStateM ε s α} {fault : ε} {d : s}
    (h : wp act (fun _ _ => False) (fun fault' c' => fault' = fault ∧ c' = d) c) :
    act c = .error fault d := by
  unfold wp at h
  cases hresult : act c with
  | ok a' c' =>
    rw [hresult] at h
    exact h.elim
  | error fault' c' =>
    rw [hresult] at h
    obtain ⟨rfl, rfl⟩ := h
    rfl

/-- What holds after an action in any case holds of the state that it leaves. -/
lemma finalState_of_wp {act : EStateM ε s α} {post : s → Prop}
    (h : wp act (fun _ => post) (fun _ => post) c) : post (finalState (act c)) := by
  unfold wp at h
  cases hresult : act c with
  | ok a d =>
    rw [hresult] at h
    exact h
  | error fault d =>
    rw [hresult] at h
    exact h

@[simp] lemma wp_pure (a : α) : wp (pure a) done failed c ↔ done a c := Iff.rfl

@[simp] lemma wp_bind {done : β → s → Prop} (act : EStateM ε s α) (next : α → EStateM ε s β) :
    wp (act >>= next) done failed c ↔ wp act (fun a => wp (next a) done failed) failed c := by
  have hbind : (act >>= next) c = EStateM.bind act next c := rfl
  unfold wp
  rw [hbind, EStateM.bind]
  cases act c <;> rfl

lemma bind_of_ok {act : EStateM ε s α} {next : α → EStateM ε s β} {a : α} {d : s}
    (h : act c = .ok a d) : (act >>= next) c = next a d := by
  have hbind : (act >>= next) c = EStateM.bind act next c := rfl
  rw [hbind, EStateM.bind, h]

lemma bind_of_error {act : EStateM ε s α} {next : α → EStateM ε s β} {fault : ε} {d : s}
    (h : act c = .error fault d) : (act >>= next) c = .error fault d := by
  have hbind : (act >>= next) c = EStateM.bind act next c := rfl
  rw [hbind, EStateM.bind, h]

@[simp] lemma wp_map {done : β → s → Prop} (f : α → β) (act : EStateM ε s α) :
    wp (f <$> act) done failed c ↔ wp act (fun a => done (f a)) failed c := by
  have hmap : (f <$> act) c = EStateM.map f act c := rfl
  unfold wp
  rw [hmap, EStateM.map]
  cases act c <;> rfl

@[simp] lemma wp_modify {done : PUnit → s → Prop} (f : s → s) :
    wp (modify f) done failed c ↔ done ⟨⟩ (f c) := Iff.rfl

@[simp] lemma wp_ite {b : Prop} [Decidable b] (x y : EStateM ε s α) :
    wp (if b then x else y) done failed c ↔
      if b then wp x done failed c else wp y done failed c := by
  split <;> rfl

end

section
variable {σ P ρ H α : Type} [Sink H]

/-! ## A pending notice keeps the bound processor from being asked -/

namespace Connection

variable {E : Engine σ P ρ} {c : Connection σ P H} {p : Option P} {status : Status}

omit [Sink H]

lemma validate_of_notice (hnotice : c.notice = some status) : c.validate E = c := by
  unfold validate
  rw [hnotice]

lemma validate_of_bound (hnotice : c.notice = none) (hp : c.bound = p) :
    c.validate E =
      match E.orIdle.validate p c.engine with
      | (none, engine) => { c with engine }
      | (some status, engine) => { c with engine, bound := none, notice := some status } := by
  subst hp
  unfold validate
  split
  · rename_i status hstatus
    rw [hnotice] at hstatus
    cases hstatus
  · rfl

@[simp] lemma relay_validate : (c.validate E).relay = c.relay := by
  unfold validate
  split
  · rfl
  · split <;> rfl

@[simp] lemma signals_validate : (c.validate E).signals = c.signals := by
  unfold validate
  split
  · rfl
  · split <;> rfl

@[simp] lemma relay_abort : (c.abort E).relay = c.relay := by
  unfold abort
  split <;> rfl

@[simp] lemma signals_abort : (c.abort E).signals = c.signals := by
  unfold abort
  split <;> rfl

lemma abort_of_notice (hnotice : c.notice = some status) : c.abort E = c := by
  unfold abort
  rw [hnotice]

lemma abort_of_bound (hnotice : c.notice = none) (hp : c.bound = p) :
    c.abort E = { c with engine := E.orIdle.abort p c.engine } := by
  subst hp
  unfold abort
  simp only [hnotice]

end Connection

/-! ## The steps of the connection -/

section
variable {done : α → Connection σ P H → Prop} {failed : Fault → Connection σ P H → Prop}
  {c : Connection σ P H}

omit [Sink H] in
@[simp] lemma wp_onEngine (act : EStateM Fault σ α) :
    wp (Connection.onEngine act) done failed c ↔
      wp act (fun a engine => done a { c with engine })
        (fun fault engine => failed fault { c with engine }) c.engine := by
  unfold wp Connection.onEngine
  cases act c.engine <;> rfl

omit [Sink H] in
/-- An access ends with the bound processor, or with the fault of a pending notice. -/
lemma wp_access {done : Option P → Connection σ P H → Prop} :
    wp Connection.access done failed c ↔
      match c.notice with
      | none => done c.bound c
      | some status => failed (.transactionTerminated status) { c with notice := none } := by
  unfold wp Connection.access
  cases c.notice <;> rfl

omit [Sink H] in
/-- Binding is an access. -/
lemma wp_engage {done : Unit → Connection σ P H → Prop} (p : Option P) :
    wp (Connection.engage p) done failed c ↔
      match c.notice with
      | none => done () { c with bound := p }
      | some status => failed (.transactionTerminated status) { c with notice := none } := by
  unfold Connection.engage
  rw [wp_bind, wp_access]
  rfl

omit [Sink H] in
/-- A call is an access, and then changes nothing but the engine. -/
lemma wp_call (act : Option P → EStateM Fault σ α) :
    wp (Connection.call act) done failed c ↔
      match c.notice with
      | none =>
        wp (act c.bound) (fun a engine => done a { c with engine })
          (fun fault engine => failed fault { c with engine }) c.engine
      | some status => failed (.transactionTerminated status) { c with notice := none } := by
  obtain ⟨relay, bound, notice, signals, engine⟩ := c
  unfold Connection.call
  rw [wp_bind, wp_access]
  cases notice with
  | none => exact wp_onEngine _
  | some status => rfl

omit [Sink H] in
lemma wp_call_of_bound {p : Option P} (hnotice : c.notice = none) (hp : c.bound = p)
    (act : Option P → EStateM Fault σ α) :
    wp (Connection.call act) done failed c ↔
      wp (act p) (fun a engine => done a { c with engine })
        (fun fault engine => failed fault { c with engine }) c.engine := by
  subst hp
  rw [wp_call]
  simp only [hnotice]

omit [Sink H] in
lemma wp_call_of_notice {status : Status} (hnotice : c.notice = some status)
    (act : Option P → EStateM Fault σ α) :
    wp (Connection.call act) done failed c ↔
      failed (.transactionTerminated status) { c with notice := none } := by
  rw [wp_call]
  simp only [hnotice]

omit [Sink H] in
/-- Asking for the database changes nothing. -/
lemma wp_database? {done : Option String → Connection σ P H → Prop} (E : Engine σ P ρ)
    (hnotice : c.notice = none) :
    wp (Connection.database? E) done failed c ↔ done (E.orIdle.database? c.bound c.engine) c :=
  wp_call_of_bound hnotice rfl _

omit [Sink H] in
/-- Asking for open statements changes nothing. -/
lemma wp_isStreaming {done : Bool → Connection σ P H → Prop} (E : Engine σ P ρ)
    (hnotice : c.notice = none) :
    wp (Connection.isStreaming E) done failed c ↔ done (E.orIdle.isStreaming c.bound c.engine) c :=
  wp_call_of_bound hnotice rfl _

/-- A batch is an access, and then changes nothing but the engine and the relay. -/
lemma wp_stream [RecordSource ρ] {done : BatchEnd → Connection σ P H → Prop} (E : Engine σ P ρ)
    (statement : Int64) (mode : BatchMode) (size : Int64) :
    wp (Connection.stream E statement mode size) done failed c ↔
      match c.notice with
      | none =>
        let played := (E.orIdle.stream c.bound statement mode size c.engine).play c.relay
        Meets (fun outcome engine => done outcome { c with engine, relay := played.2 })
          (fun fault engine => failed fault { c with engine, relay := played.2 }) played.1
      | some status => failed (.transactionTerminated status) { c with notice := none } := by
  obtain ⟨relay, bound, notice, signals, engine⟩ := c
  refine (wp_bind _ _).trans ?_
  rw [wp_access]
  cases notice with
  | none =>
    dsimp only [wp]
    generalize (E.orIdle.stream bound statement mode size engine).play relay = played
    obtain ⟨result, relay⟩ := played
    cases result <;> rfl
  | some status => rfl

lemma wp_stream_of_bound [RecordSource ρ] {done : BatchEnd → Connection σ P H → Prop}
    {E : Engine σ P ρ} {p : Option P} (hnotice : c.notice = none) (hp : c.bound = p)
    (statement : Int64) (mode : BatchMode) (size : Int64) :
    wp (Connection.stream E statement mode size) done failed c ↔
      let played := (E.orIdle.stream p statement mode size c.engine).play c.relay
      Meets (fun outcome engine => done outcome { c with engine, relay := played.2 })
        (fun fault engine => failed fault { c with engine, relay := played.2 }) played.1 := by
  subst hp
  rw [wp_stream]
  simp only [hnotice]

lemma wp_stream_of_notice [RecordSource ρ] {done : BatchEnd → Connection σ P H → Prop}
    {E : Engine σ P ρ} {status : Status} (hnotice : c.notice = some status) (statement : Int64)
    (mode : BatchMode) (size : Int64) :
    wp (Connection.stream E statement mode size) done failed c ↔
      failed (.transactionTerminated status) { c with notice := none } := by
  rw [wp_stream]
  simp only [hnotice]

omit [Sink H] in
/-- The bound processor gives up its work, and the idle one takes its place in any case. -/
lemma wp_giveUp {done : Unit → Connection σ P H → Prop} (E : Engine σ P ρ) :
    wp (Connection.giveUp E) done failed c ↔
      match c.notice with
      | none =>
        wp (E.orIdle.reset c.bound)
          (fun _ engine => done () { c with engine, bound := none })
          (fun fault engine => failed fault { c with engine, bound := none }) c.engine
      | some status =>
        failed (.transactionTerminated status) { c with notice := none, bound := none } := by
  have hcall : wp (Connection.giveUp E) done failed c ↔
      wp (Connection.call E.orIdle.reset) (fun _ c => done () c.dismiss)
        (fun fault c => failed fault c.dismiss) c := by
    unfold wp Connection.giveUp
    cases Connection.call E.orIdle.reset c <;> rfl
  rw [hcall, wp_call]
  rfl

omit [Sink H] in
lemma wp_giveUp_of_bound {done : Unit → Connection σ P H → Prop} {E : Engine σ P ρ}
    {p : Option P} (hnotice : c.notice = none) (hp : c.bound = p) :
    wp (Connection.giveUp E) done failed c ↔
      wp (E.orIdle.reset p) (fun _ engine => done () { c with engine, bound := none })
        (fun fault engine => failed fault { c with engine, bound := none }) c.engine := by
  subst hp
  rw [wp_giveUp]
  simp only [hnotice]

omit [Sink H] in
lemma wp_giveUp_of_notice {done : Unit → Connection σ P H → Prop} {E : Engine σ P ρ}
    {status : Status} (hnotice : c.notice = some status) :
    wp (Connection.giveUp E) done failed c ↔
      failed (.transactionTerminated status) { c with notice := none, bound := none } := by
  rw [wp_giveUp]
  simp only [hnotice]

omit [Sink H] in
/-- The end consumes a notice. -/
lemma release_of_notice {E : Engine σ P ρ} {status : Status} (hnotice : c.notice = some status) :
    c.release E = { c with notice := none, bound := none } := by
  have hgiven : wp (Connection.giveUp E) (fun _ _ => False)
      (fun _ c' => c' = { c with notice := none, bound := none }) c :=
    (wp_giveUp_of_notice hnotice).mpr rfl
  unfold wp at hgiven
  unfold Connection.release
  cases hresult : Connection.giveUp E c with
  | ok _ c' => rw [hresult] at hgiven; exact hgiven.elim
  | error _ c' => rw [hresult] at hgiven; exact hgiven

omit [Sink H] in
/-- The end resets the bound processor, and goes on if that fails. -/
lemma release_of_bound {E : Engine σ P ρ} {p : Option P} (hnotice : c.notice = none)
    (hp : c.bound = p) :
    c.release E = { c with engine := finalState (E.orIdle.reset p c.engine), bound := none } := by
  have hgiven : wp (Connection.giveUp E)
      (fun _ c' => c' = { c with engine := finalState (E.orIdle.reset p c.engine), bound := none })
      (fun _ c' => c' = { c with engine := finalState (E.orIdle.reset p c.engine), bound := none })
      c := by
    rw [wp_giveUp_of_bound hnotice hp]
    unfold wp
    cases E.orIdle.reset p c.engine <;> rfl
  unfold wp at hgiven
  unfold Connection.release
  cases hresult : Connection.giveUp E c with
  | ok _ c' => rw [hresult] at hgiven; exact hgiven
  | error _ c' => rw [hresult] at hgiven; exact hgiven

omit [Sink H] in
@[simp] lemma relay_release (E : Engine σ P ρ) : (c.release E).relay = c.relay := by
  cases hnotice : c.notice with
  | some status => rw [release_of_notice hnotice]
  | none => rw [release_of_bound hnotice rfl]

omit [Sink H] in
@[simp] lemma signals_release (E : Engine σ P ρ) : (c.release E).signals = c.signals := by
  cases hnotice : c.notice with
  | some status => rw [release_of_notice hnotice]
  | none => rw [release_of_bound hnotice rfl]

omit [Sink H] in
/-- RESET takes one interrupt off the counter, and fails if there is none. -/
lemma wp_acknowledge {done : Nat → Connection σ P H → Prop} :
    wp Connection.acknowledge done failed c ↔
      match c.signals.interrupts with
      | 0 => failed .counterUnderflow c
      | left + 1 => done left { c with signals.interrupts := left } := by
  unfold wp Connection.acknowledge Signals.acknowledge
  cases hc : c.signals.interrupts <;> rfl

end

/-! ## The steps of the table -/

section
variable {done : α → Connection σ P H → Prop} {failed : Fault → Connection σ P H → Prop}
  {c : Connection σ P H}

@[simp] lemma wp_report {done : Unit → Connection σ P H → Prop} (r : Report) :
    wp (Phase.report r) done failed c ↔ done () (c.tell r) := Iff.rfl

@[simp] lemma wp_mention [ToValue β] {done : Unit → Connection σ P H → Prop} (key : String)
    (value : β) :
    wp (Phase.mention key value) done failed c ↔
      done () (c.tell (.metadata key (toValue value))) := Iff.rfl

@[simp] lemma wp_skip {done : Phase → Connection σ P H → Prop} (next : Phase) :
    wp (Phase.skip next) done failed c ↔ done next (c.tell .ignored) := Iff.rfl

@[simp] lemma wp_awaitMore {done : Phase → Connection σ P H → Prop} (phase : Phase) :
    wp (Phase.awaitMore phase) done failed c ↔
      done phase (c.tell (.metadata "has_more" (toValue true))) := Iff.rfl

omit [Sink H] in
@[simp] lemma wp_becomeIdle {done : Phase → Connection σ P H → Prop} :
    wp Phase.becomeIdle done failed c ↔ done .ready c.dismiss := Iff.rfl

end

/-! ## The rows of the table -/

section
variable [RecordSource ρ] (E : Engine σ P ρ) (self : Identity)

/-- Between HELLO and the end RESET is answered by the interrupts that are due. -/
theorem Phase.answer_of_reset {phase : Phase} (h : phase ≠ .connected ∧ phase ≠ .defunct) :
    (phase.answer E self .reset : Action σ P H Phase) = answerReset E := by
  obtain ⟨hconnected, hdefunct⟩ := h
  cases phase with
  | connected => exact absurd rfl hconnected
  | defunct => exact absurd rfl hdefunct
  | _ => rfl

/-- Any other request is answered by the row of the phase. -/
theorem Phase.answer_of_ne (phase : Phase) {request : Request} (h : request ≠ .reset) :
    (phase.answer E self request : Action σ P H Phase) =
      match phase with
      | connected => answerConnected self request
      | ready => answerReady E self request
      | streaming => answerStreaming E request
      | transactionReady => answerTransactionReady E request
      | transactionStreaming => answerTransactionStreaming E request
      | failed => skip failed
      | interrupted => skip interrupted
      | defunct => throw .connectionClosed := by
  cases phase <;> cases request <;> first | exact absurd rfl h | rfl

end

end
end QuerySession
