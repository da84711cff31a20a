import Mathlib.Tactic.Lemma
import QuerySession.Journal

/-!
# The order of calls on a processor

A processor may count on being called in a certain order. It runs one statement and streams its
result, or it opens a transaction in which statements are run and streamed until it is committed
or rolled back; in the end it may be reset, once. A call that fails ends its work, and so does the
word that its transaction should stop.

`Progress.next` is this protocol as a machine that reads one call after the other. The file says
what a history is like that the machine reads to its end:

* `IsOrderly`: its calls form a statement or a transaction and perhaps a reset, no work is asked
  for once the work has ended, and in a transaction only what was left open is streamed;
* `Progress.isOrderly_of_follow`: that a history which can be read is orderly.
-/

namespace QuerySession

/-- A call and what came of it. -/
abbrev Entry := Call × CallResult

namespace Call

/-- Work is asked for. -/
def isWork : Call → Bool
  | begin _ | run .. | stream .. | commit | rollback => true
  | reset | abort | validate => false

/-- Work is asked for, or the end of it. -/
def isCounted (call : Call) : Bool := call.isWork || call matches reset

end Call

/-- Something can be streamed after a batch. -/
def CallResult.leavesOpen : CallResult → Bool
  | streamed hasMore stillOpen => hasMore || stillOpen
  | _ => false

/-- How far the calls on a processor have come. -/
inductive Progress where
  | opened
  /-- A statement of its own has rows left. -/
  | statement
  /-- A transaction is open, in which something can be streamed or not. -/
  | transaction (streamable : Bool)
  /-- The work has ended. -/
  | ended
  /-- The processor was left. -/
  | gone
  deriving DecidableEq, Repr

namespace Progress

/-- The calls that are in order. -/
def allows : Progress → Call → Bool
  -- work
  | opened, .begin _ => true
  | opened, .run _ _ options => options.isSome
  | statement, .stream number _ _ => number = -1
  | transaction _, .run _ _ options => options.isNone
  | transaction streamable, .stream .. => streamable
  | transaction streamable, .commit | transaction streamable, .rollback => !streamable
  -- a processor that was given no work is not asked anything else
  | opened, _ | gone, _ => false
  | _, .reset | _, .abort | _, .validate => true
  | _, _ => false

/-- What a call leads to. -/
def move : Progress → Call → CallResult → Progress
  | _, .reset, _ => gone
  | _, .abort, _ | _, .commit, _ | _, .rollback, _ | _, _, .failed _ => ended
  | _, .validate, .terminated _ => gone
  -- a call that went well
  | _, .begin _, _ => transaction false
  | transaction _, .run .., _ => transaction true
  | _, .run .., _ => statement
  | transaction _, .stream .., result => transaction result.leavesOpen
  | progress, .stream .., .streamed hasMore _ => if hasMore then progress else ended
  | progress, _, _ => progress

/-- Reads a call, unless it is out of order. -/
def next (progress : Progress) (entry : Entry) : Option Progress :=
  if progress.allows entry.1 then some (progress.move entry.1 entry.2) else none

/-- Reads a history from the start. -/
def follow (entries : List Entry) : Option Progress := entries.foldlM next opened

lemma next_eq_some {progress progress' : Progress} {entry : Entry} :
    progress.next entry = some progress' ↔
      progress.allows entry.1 ∧ progress.move entry.1 entry.2 = progress' := by
  unfold next
  split
  · rename_i hallows
    rw [Option.some.injEq]
    exact ⟨fun hmove => ⟨hallows, hmove⟩, fun h => h.2⟩
  · rename_i hallows
    exact ⟨nofun, fun h => absurd h.1 hallows⟩

lemma follow_snoc {entries : List Entry} {entry : Entry} {progress : Progress}
    (h : follow entries = some progress) : follow (entries ++ [entry]) = progress.next entry := by
  unfold follow at h ⊢
  rw [List.foldlM_append, h]
  show [entry].foldlM next progress = progress.next entry
  rw [List.foldlM_cons]
  cases progress.next entry <;> rfl

/-- A history that can be read can be read up to any of its calls. -/
lemma follow_split {before later : List Entry} {entry : Entry} {last : Progress}
    (h : follow (before ++ entry :: later) = some last) :
    ∃ first second, follow before = some first ∧ first.next entry = some second ∧
      later.foldlM next second = some last := by
  unfold follow at h ⊢
  rw [List.foldlM_append] at h
  cases hfirst : before.foldlM next opened with
  | none => rw [hfirst] at h; cases h
  | some first =>
    rw [hfirst] at h
    change (entry :: later).foldlM next first = some last at h
    rw [List.foldlM_cons] at h
    cases hsecond : first.next entry with
    | none => rw [hsecond] at h; cases h
    | some second =>
      rw [hsecond] at h
      exact ⟨first, second, rfl, hsecond, h⟩

end Progress

/-! ## The shape of a history -/

/-- The calls of a history that ask for work or for its end. -/
def counted (entries : List Entry) : List Call := (entries.map Prod.fst).filter Call.isCounted

/-- One statement with a transaction of its own, and batches of its result. -/
def IsStatement (calls : List Call) : Prop :=
  ∃ query parameters options batches, calls = .run query parameters (some options) :: batches ∧
    ∀ call ∈ batches, ∃ mode size, call = .stream (-1) mode size

/-- A statement within a transaction, or a batch. -/
def IsInner (call : Call) : Prop :=
  (∃ query parameters, call = .run query parameters none) ∨
    ∃ number mode size, call = .stream number mode size

/-- The calls of a transaction that was not ended. -/
def IsOpenTransaction (calls : List Call) : Prop :=
  ∃ options inner, calls = .begin options :: inner ∧ ∀ call ∈ inner, IsInner call

/-- A transaction, perhaps up to its end. -/
def IsTransaction (calls : List Call) : Prop :=
  ∃ options inner ending, calls = .begin options :: inner ++ ending ∧
    (∀ call ∈ inner, IsInner call) ∧ (ending = [] ∨ ending = [.commit] ∨ ending = [.rollback])

/-- A statement or a transaction, and a reset at most. -/
def IsWellFormed (calls : List Call) : Prop :=
  calls = [] ∨ ∃ work ending, calls = work ++ ending ∧ (IsStatement work ∨ IsTransaction work) ∧
    (ending = [] ∨ ending = [.reset])

/-- The last call that asked for work. -/
def lastWork (entries : List Entry) : Option Entry :=
  (entries.filter fun entry => entry.1.isWork).getLast?

/-- A statement was run, or rows are left or another statement is open after a batch. -/
def LeavesOpen : Entry → Prop
  | (.run .., _) => True
  | (.stream .., result) => result.leavesOpen
  | _ => False

namespace Progress

/-- What the machine knows about the history it has read. -/
def Describes (progress : Progress) (entries : List Entry) : Prop :=
  match progress with
  | opened => counted entries = []
  | statement => IsStatement (counted entries)
  | transaction streamable =>
    IsOpenTransaction (counted entries) ∧
      (streamable → ∃ entry, lastWork entries = some entry ∧ LeavesOpen entry)
  | ended => IsStatement (counted entries) ∨ IsTransaction (counted entries)
  | gone => IsWellFormed (counted entries)

end Progress

/-! ### What one more call adds -/

section
variable {entries : List Entry} {call : Call} {result : CallResult}

lemma counted_snoc (h : call.isCounted) :
    counted (entries ++ [(call, result)]) = counted entries ++ [call] := by
  unfold counted
  rw [List.map_append, List.filter_append]
  show _ ++ [call].filter Call.isCounted = _
  rw [List.filter_cons_of_pos h, List.filter_nil]

lemma counted_snoc_of_not (h : ¬ call.isCounted) :
    counted (entries ++ [(call, result)]) = counted entries := by
  unfold counted
  rw [List.map_append, List.filter_append]
  show _ ++ [call].filter Call.isCounted = _
  rw [List.filter_cons_of_neg h, List.filter_nil, List.append_nil]

lemma lastWork_snoc (h : call.isWork) :
    lastWork (entries ++ [(call, result)]) = some (call, result) := by
  unfold lastWork
  rw [List.filter_append, List.filter_cons_of_pos (by exact h), List.filter_nil]
  exact List.getLast?_concat

lemma lastWork_snoc_of_not (h : ¬ call.isWork) :
    lastWork (entries ++ [(call, result)]) = lastWork entries := by
  unfold lastWork
  rw [List.filter_append, List.filter_cons_of_neg (by exact h), List.filter_nil, List.append_nil]

end

lemma IsStatement.snoc {calls : List Call} (h : IsStatement calls) (mode : BatchMode)
    (size : Int64) : IsStatement (calls ++ [.stream (-1) mode size]) := by
  obtain ⟨query, parameters, options, batches, rfl, hbatches⟩ := h
  refine ⟨query, parameters, options, batches ++ [.stream (-1) mode size], rfl, ?_⟩
  intro call hcall
  rcases List.mem_append.mp hcall with hold | hnew
  · exact hbatches call hold
  · exact ⟨mode, size, List.mem_singleton.mp hnew⟩

lemma IsOpenTransaction.snoc {calls : List Call} (h : IsOpenTransaction calls) {call : Call}
    (hcall : IsInner call) : IsOpenTransaction (calls ++ [call]) := by
  obtain ⟨options, inner, rfl, hinner⟩ := h
  refine ⟨options, inner ++ [call], rfl, ?_⟩
  intro other hother
  rcases List.mem_append.mp hother with hold | hnew
  · exact hinner other hold
  · rwa [List.mem_singleton.mp hnew]

lemma IsOpenTransaction.isTransaction {calls : List Call} (h : IsOpenTransaction calls) :
    IsTransaction calls := by
  obtain ⟨options, inner, rfl, hinner⟩ := h
  exact ⟨options, inner, [], (List.append_nil _).symm, hinner, Or.inl rfl⟩

lemma IsOpenTransaction.close {calls : List Call} (h : IsOpenTransaction calls) {call : Call}
    (hcall : call = .commit ∨ call = .rollback) : IsTransaction (calls ++ [call]) := by
  obtain ⟨options, inner, rfl, hinner⟩ := h
  refine ⟨options, inner, [call], rfl, hinner, Or.inr ?_⟩
  rcases hcall with rfl | rfl
  · exact Or.inl rfl
  · exact Or.inr rfl

namespace Progress

variable {progress progress' : Progress} {entries : List Entry} {call : Call}
  {result : CallResult}

/-- A processor that is at work or has ended it was asked for a statement or a transaction. -/
lemma Describes.isWork (h : progress.Describes entries) (hopened : progress ≠ opened)
    (hgone : progress ≠ gone) : IsStatement (counted entries) ∨ IsTransaction (counted entries) := by
  cases progress with
  | opened => exact absurd rfl hopened
  | statement => exact Or.inl h
  | transaction streamable => exact Or.inr (IsOpenTransaction.isTransaction h.1)
  | ended => exact h
  | gone => exact absurd rfl hgone

/-- Only a processor that was asked for work is reset, stopped or asked after its work. -/
lemma ne_of_allows (hcall : ¬ call.isWork) (hallows : progress.allows call) :
    progress ≠ opened ∧ progress ≠ gone := by
  constructor
  · intro heq
    subst heq
    cases call <;> first | exact absurd rfl hcall | cases hallows
  · intro heq
    subst heq
    cases call <;> cases hallows

/-- A call that is left aside changes nothing of what was counted. -/
lemma Describes.snoc_of_not (h : progress.Describes entries) (hcall : ¬ call.isCounted) :
    progress.Describes (entries ++ [(call, result)]) := by
  have hwork : ¬ call.isWork := by
    intro hwork
    apply hcall
    unfold Call.isCounted
    rw [hwork, Bool.true_or]
  unfold Describes at h ⊢
  rw [counted_snoc_of_not hcall, lastWork_snoc_of_not hwork]
  exact h

/-- A batch of the only statement. -/
lemma describes_stream_statement (mode : BatchMode) (size : Int64)
    (h : statement.Describes entries) :
    (statement.move (.stream (-1) mode size) result).Describes
      (entries ++ [(.stream (-1) mode size, result)]) := by
  have hcalls : IsStatement (counted (entries ++ [(.stream (-1) mode size, result)])) := by
    rw [counted_snoc rfl]
    exact IsStatement.snoc h mode size
  cases result with
  | failed fault => exact Or.inl hcalls
  | streamed hasMore stillOpen =>
    show (if hasMore then statement else ended).Describes _
    split
    · exact hcalls
    · exact Or.inl hcalls
  | done => exact hcalls
  | terminated status => exact hcalls

/-- A statement or a batch in a transaction. -/
lemma describes_inner {streamable : Bool} (hcall : IsInner call)
    (h : (transaction streamable).Describes entries) :
    ((transaction streamable).move call result).Describes (entries ++ [(call, result)]) := by
  have hwork : call.isWork := by
    rcases hcall with ⟨query, parameters, rfl⟩ | ⟨number, mode, size, rfl⟩ <;> rfl
  have hcounted : call.isCounted := by unfold Call.isCounted; rw [hwork, Bool.true_or]
  have hcalls : IsOpenTransaction (counted (entries ++ [(call, result)])) := by
    rw [counted_snoc hcounted]
    exact h.1.snoc hcall
  have hlast : lastWork (entries ++ [(call, result)]) = some (call, result) :=
    lastWork_snoc hwork
  rcases hcall with ⟨query, parameters, rfl⟩ | ⟨number, mode, size, rfl⟩
  · cases result with
    | failed fault => exact Or.inr hcalls.isTransaction
    | _ => exact ⟨hcalls, fun _ => ⟨_, hlast, trivial⟩⟩
  · cases result with
    | failed fault => exact Or.inr hcalls.isTransaction
    | _ => exact ⟨hcalls, fun hopen => ⟨_, hlast, hopen⟩⟩

/-- What the machine knows stays true with every call it reads. -/
lemma describes_next {entry : Entry} (h : progress.Describes entries)
    (hnext : progress.next entry = some progress') : progress'.Describes (entries ++ [entry]) := by
  obtain ⟨call, result⟩ := entry
  obtain ⟨hallows, rfl⟩ := next_eq_some.mp hnext
  -- the table of calls decides, and within a row the states that allow the call
  cases call with
  | reset =>
    obtain ⟨hopened, hgone⟩ := ne_of_allows (by exact Bool.false_ne_true) hallows
    show IsWellFormed (counted (entries ++ [(.reset, result)]))
    rw [counted_snoc rfl]
    exact Or.inr ⟨_, [.reset], rfl, h.isWork hopened hgone, Or.inr rfl⟩
  | abort =>
    obtain ⟨hopened, hgone⟩ := ne_of_allows (by exact Bool.false_ne_true) hallows
    have hended : ended.Describes entries := h.isWork hopened hgone
    exact hended.snoc_of_not Bool.false_ne_true
  | validate =>
    obtain ⟨hopened, hgone⟩ := ne_of_allows (by exact Bool.false_ne_true) hallows
    have hended : ended.Describes entries := h.isWork hopened hgone
    have hleft : gone.Describes entries :=
      Or.inr ⟨_, [], (List.append_nil _).symm, hended, Or.inl rfl⟩
    cases result with
    | failed fault => exact hended.snoc_of_not Bool.false_ne_true
    | terminated status => exact hleft.snoc_of_not Bool.false_ne_true
    | done => exact h.snoc_of_not Bool.false_ne_true
    | streamed hasMore stillOpen => exact h.snoc_of_not Bool.false_ne_true
  | begin options =>
    cases progress with
    | opened =>
      have hcalls : IsOpenTransaction (counted (entries ++ [(.begin options, result)])) := by
        rw [counted_snoc rfl, show counted entries = [] from h]
        exact ⟨options, [], rfl, nofun⟩
      cases result with
      | failed fault => exact Or.inr hcalls.isTransaction
      | _ => exact ⟨hcalls, nofun⟩
    | _ => cases hallows
  | run query parameters options =>
    cases progress with
    | opened =>
      obtain ⟨options, rfl⟩ := Option.isSome_iff_exists.mp hallows
      have hcalls :
          IsStatement (counted (entries ++ [(.run query parameters (some options), result)])) := by
        rw [counted_snoc rfl, show counted entries = [] from h]
        exact ⟨query, parameters, options, [], rfl, nofun⟩
      cases result with
      | failed fault => exact Or.inl hcalls
      | _ => exact hcalls
    | transaction streamable =>
      have hnone : options = none := Option.isNone_iff_eq_none.mp hallows
      subst hnone
      exact describes_inner (Or.inl ⟨query, parameters, rfl⟩) h
    | _ => cases hallows
  | stream number mode size =>
    cases progress with
    | statement =>
      have hnumber : number = -1 := of_decide_eq_true hallows
      subst hnumber
      exact describes_stream_statement mode size h
    | transaction streamable => exact describes_inner (Or.inr ⟨number, mode, size, rfl⟩) h
    | _ => cases hallows
  | commit =>
    cases progress with
    | transaction streamable =>
      have hcalls : IsTransaction (counted (entries ++ [(.commit, result)])) := by
        rw [counted_snoc rfl]
        exact IsOpenTransaction.close h.1 (Or.inl rfl)
      exact Or.inr hcalls
    | _ => cases hallows
  | rollback =>
    cases progress with
    | transaction streamable =>
      have hcalls : IsTransaction (counted (entries ++ [(.rollback, result)])) := by
        rw [counted_snoc rfl]
        exact IsOpenTransaction.close h.1 (Or.inr rfl)
      exact Or.inr hcalls
    | _ => cases hallows

/-- What the machine knows about a history that it has read is true. -/
theorem describes_of_follow (h : follow entries = some progress) :
    progress.Describes entries := by
  -- generalized over what was read before, since the machine is somewhere on its way
  have hread : ∀ (later read : List Entry) (current last : Progress), current.Describes read →
      later.foldlM next current = some last → last.Describes (read ++ later) := by
    intro later
    induction later with
    | nil =>
      intro read current last hdescribes hfold
      cases hfold
      rwa [List.append_nil]
    | cons entry later ih =>
      intro read current last hdescribes hfold
      rw [List.foldlM_cons] at hfold
      cases hnext : current.next entry with
      | none => rw [hnext] at hfold; cases hfold
      | some following =>
        rw [hnext] at hfold
        have hfollowing := ih (read ++ [entry]) following last (describes_next hdescribes hnext) hfold
        rwa [List.append_assoc] at hfollowing
  exact hread entries [] opened progress rfl h

end Progress

/-! ## What a history that was read is like -/

/-- Calls after which no more work may be asked for. -/
inductive EndsWork (before : List Entry) : Entry → Prop
  | failed (call : Call) (fault : Fault) : EndsWork before (call, .failed fault)
  | abort (result : CallResult) : EndsWork before (.abort, result)
  /-- The transaction was found torn down. -/
  | tornDown (status : Status) : EndsWork before (.validate, .terminated status)
  /-- The last batch of a statement outside of any transaction. -/
  | lastBatch (number : Int64) (mode : BatchMode) (size : Int64) (stillOpen : Bool)
      (own : ∀ options, .begin options ∉ counted before) :
      EndsWork before (.stream number mode size, .streamed false stillOpen)
  | commit (result : CallResult) : EndsWork before (.commit, result)
  | rollback (result : CallResult) : EndsWork before (.rollback, result)

/-- The calls on a processor came in order. -/
structure IsOrderly (entries : List Entry) : Prop where
  wellFormed : IsWellFormed (counted entries)
  /-- Nothing more is asked for once the work has ended. -/
  quiet : ∀ {before entry later}, entries = before ++ entry :: later → EndsWork before entry →
    ∀ other ∈ later, ¬ other.1.isWork
  /-- In a transaction, only what was left open is streamed. -/
  streamed : ∀ {before later number mode size result options},
    entries = before ++ (.stream number mode size, result) :: later →
    .begin options ∈ counted before →
    ∃ entry, lastWork before = some entry ∧ LeavesOpen entry

namespace Progress

variable {progress progress' : Progress} {entries : List Entry}

lemma Describes.isWellFormed (h : progress.Describes entries) :
    IsWellFormed (counted entries) := by
  have hwork (h : IsStatement (counted entries) ∨ IsTransaction (counted entries)) :
      IsWellFormed (counted entries) :=
    Or.inr ⟨_, [], (List.append_nil _).symm, h, Or.inl rfl⟩
  cases progress with
  | opened => exact Or.inl h
  | gone => exact h
  | statement => exact hwork (Or.inl h)
  | transaction streamable => exact hwork (Or.inr (IsOpenTransaction.isTransaction h.1))
  | ended => exact hwork h

/-- A statement of its own opens no transaction. -/
lemma begin_not_mem_of_isStatement {calls : List Call} (h : IsStatement calls)
    (options : TransactionOptions) : .begin options ∉ calls := by
  obtain ⟨query, parameters, own, batches, rfl, hbatches⟩ := h
  intro hmem
  rcases List.mem_cons.mp hmem with heq | hmem
  · cases heq
  · obtain ⟨mode, size, heq⟩ := hbatches _ hmem
    cases heq

/-- No work is asked for once the work has ended. -/
lemma not_isWork_of_ended (hended : progress = ended ∨ progress = gone) {later : List Entry}
    {last : Progress} (h : later.foldlM next progress = some last) :
    ∀ other ∈ later, ¬ other.1.isWork := by
  induction later generalizing progress with
  | nil =>
    intro other hother
    cases hother
  | cons entry later ih =>
    rw [List.foldlM_cons] at h
    cases hnext : progress.next entry with
    | none => rw [hnext] at h; cases h
    | some following =>
      rw [hnext] at h
      obtain ⟨call, result⟩ := entry
      obtain ⟨hallows, hmove⟩ := next_eq_some.mp hnext
      -- neither of the two last states allows work, and no call leads out of them
      have hcall : ¬ call.isWork := by
        rcases hended with rfl | rfl
        · cases call <;> first | exact Bool.false_ne_true | cases hallows
        · cases call <;> cases hallows
      have hfollowing : following = ended ∨ following = gone := by
        subst hmove
        rcases hended with rfl | rfl
        · cases call <;> first | (cases result <;> first | exact Or.inl rfl | exact Or.inr rfl) |
            cases hallows
        · cases call <;> cases hallows
      intro other hother
      rcases List.mem_cons.mp hother with rfl | hmem
      · exact hcall
      · exact ih hfollowing h other hmem

/-- A call that ends the work leads to the end. -/
lemma ended_of_endsWork {before : List Entry} {entry : Entry} (h : progress.Describes before)
    (hnext : progress.next entry = some progress') (hends : EndsWork before entry) :
    progress' = ended ∨ progress' = gone := by
  obtain ⟨hallows, hmove⟩ := next_eq_some.mp hnext
  subst hmove
  cases hends with
  | failed call fault =>
    cases progress <;> cases call <;> first | exact Or.inl rfl | exact Or.inr rfl
  | abort result => exact Or.inl (by cases progress <;> rfl)
  | tornDown status => exact Or.inr (by cases progress <;> rfl)
  | lastBatch number mode size stillOpen own =>
    cases progress with
    | statement => exact Or.inl rfl
    | transaction streamable =>
      -- a transaction would have begun before
      obtain ⟨options, inner, hcounted, _⟩ := h.1
      refine absurd ?_ (own options)
      rw [hcounted]
      exact List.mem_cons_self
    | _ => cases hallows
  | commit result => exact Or.inl (by cases progress <;> rfl)
  | rollback result => exact Or.inl (by cases progress <;> rfl)

/-- A history that can be read to its end is in order. -/
theorem isOrderly_of_follow (h : follow entries = some progress) : IsOrderly entries where
  wellFormed := (describes_of_follow h).isWellFormed
  quiet := by
    intro before entry later heq hends
    subst heq
    obtain ⟨first, second, hfirst, hsecond, hlater⟩ := follow_split h
    have hended := ended_of_endsWork (describes_of_follow hfirst) hsecond hends
    exact not_isWork_of_ended hended hlater
  streamed := by
    intro before later number mode size result options heq hbegin
    subst heq
    obtain ⟨first, second, hfirst, hsecond, -⟩ := follow_split h
    obtain ⟨hallows, -⟩ := next_eq_some.mp hsecond
    have hdescribes := describes_of_follow hfirst
    -- only two states allow a batch, and one of them knows that there was no BEGIN
    cases first with
    | statement => exact absurd hbegin (begin_not_mem_of_isStatement hdescribes options)
    | transaction streamable =>
      have hstreamable : streamable := hallows
      exact hdescribes.2 hstreamable
    | _ => cases hallows

end Progress
end QuerySession
