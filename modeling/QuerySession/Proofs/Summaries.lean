import QuerySession.Proofs.Alike
import QuerySession.Proofs.Bounds

/-!
# What a reply sums up

A reply may be told things and be handed batches in any order, by the session and by a processor.
What it writes in the end does not depend on how these interleave: the rows that were pulled, and a
summary of the first failure, of the word that the request was ignored, or of the last value of
each entry.

* `Callback`, `Reply.hear`: what a reply may hear before it is ended;
* `Reply.pulled`, `SumsUp`: the rows that it writes for that, and the summary;
* `Reply.metadata_foldl`, `Reply.failure_foldl`, `Reply.ignored_foldl`, `Reply.served_foldl`: each
  part of a reply depends on callbacks of one kind;
* `Reply.collected_eq`: the rule, and that the order in which kinds interleave does not matter.
-/

namespace QuerySession

variable {O ι α : Type} {ρ : ι → Type}

/-- What a reply hears for its request before it is ended. A batch is taken from one of several open
results. -/
inductive Callback (ι : Type) where
  | batch (mode : BatchMode) (size : Int64) (of : ι)
  | metadata (key : String) (value : Value)
  | ignored
  | failed (failure : Failure)

namespace Callback

/-- The failure that is marked. -/
def failure? : Callback ι → Option Failure
  | failed failure => some failure
  | batch .. | metadata .. | ignored => none

/-- The value that is given to a key. -/
def value? (key : String) : Callback ι → Option Value
  | metadata key' value => if key = key' then some value else none
  | batch .. | ignored | failed _ => none

/-- The batch that is asked for. -/
def request? : Callback ι → Option (BatchMode × Int64 × ι)
  | batch mode size result => some (mode, size, result)
  | metadata .. | ignored | failed _ => none

end Callback

/-- The summary of a request: the first failure, else that it was ignored, else success with the
last value of every entry. -/
structure SumsUp (callbacks : List (Callback ι)) (summary : Response) : Prop where
  failure : ∀ {first others}, callbacks.filterMap Callback.failure? = first :: others →
    summary = .failure first.status.code first.message
  ignored : callbacks.filterMap Callback.failure? = [] → .ignored ∈ callbacks → summary = .ignored
  success : callbacks.filterMap Callback.failure? = [] → .ignored ∉ callbacks →
    ∃ metadata, summary = .success metadata ∧
      ∀ key, metadata.get? key = (callbacks.filterMap (Callback.value? key)).getLast?

namespace Reply

variable [∀ i, RecordSource (ρ i)] [DecidableEq ι]

/-- The rows that are pulled in a number of batches. -/
def pulled : List (BatchMode × Int64 × ι) → (∀ i, ρ i) → List Record
  | [], _ => []
  | (mode, size, i) :: requests, results =>
    let taken := haul (rowBudget size (results i)) (results i)
    mode.sent taken.rows ++ pulled requests (Function.update results i taken.rest)

variable [ResponseWriter O]

/-- A reply hears a callback. The fault of a batch concerns only whoever asked for it. -/
def hear : Reply O × (∀ i, ρ i) → Callback ι → Reply O × (∀ i, ρ i)
  | (reply, results), .batch mode size i =>
    let after := finalState (Sink.batch mode size (reply, results i))
    (after.1, Function.update results i after.2)
  | (reply, results), .metadata key value => (Sink.tell (.metadata key value) reply, results)
  | (reply, results), .ignored => (Sink.tell .ignored reply, results)
  | (reply, results), .failed failure => (Sink.tell (.failed failure) reply, results)

/-- A new reply once it heard some callbacks and was ended. -/
def collected (callbacks : List (Callback ι)) (results : ∀ i, ρ i) (output : O) : Reply O :=
  Sink.tell .finished (callbacks.foldl hear ({ output }, results)).1

/-- What a batch leaves of an output and of the open results. -/
def serve : O × (∀ i, ρ i) → BatchMode × Int64 × ι → O × (∀ i, ρ i)
  | (output, results), (mode, size, i) =>
    let after :=
      finalState (takeRows (deliver mode) (rowBudget size (results i)) (output, results i))
    (after.1, Function.update results i after.2)

/-! ## The parts of a reply -/

lemma hear_batch (reply : Reply O) (results : ∀ i, ρ i) (mode : BatchMode) (size : Int64) (i : ι) :
    hear (reply, results) (.batch mode size i) =
      ({ reply with output := (serve (reply.output, results) (mode, size, i)).1 },
        (serve (reply.output, results) (mode, size, i)).2) := by
  show ((finalState (batch mode size (reply, results i))).1,
    Function.update results i (finalState (batch mode size (reply, results i))).2) = _
  rw [finalState_batch]
  rfl

variable (callbacks : List (Callback ι)) (reply : Reply O) (results : ∀ i, ρ i)

/-- The failure of a reply is the first that was marked. -/
lemma failure_foldl :
    (callbacks.foldl hear (reply, results)).1.failure =
      reply.failure.or (callbacks.filterMap Callback.failure?).head? := by
  induction callbacks generalizing reply results with
  | nil => exact (Option.or_none).symm
  | cons callback callbacks ih =>
    rw [List.foldl_cons]
    cases callback with
    | batch mode size i =>
      rw [hear_batch]
      exact ih _ _
    | failed failure =>
      have hrest := ih (reply.tell (.failed failure)) results
      have hfailure : (reply.tell (.failed failure)).failure =
          reply.failure.or (some failure) := rfl
      rw [hfailure, Option.or_assoc] at hrest
      exact hrest
    | _ => exact ih _ _

/-- A reply is marked as ignored once it was told so. -/
lemma ignored_foldl :
    (callbacks.foldl hear (reply, results)).1.ignored = true ↔
      reply.ignored = true ∨ .ignored ∈ callbacks := by
  induction callbacks generalizing reply results with
  | nil => simp
  | cons callback callbacks ih =>
    rw [List.foldl_cons, List.mem_cons]
    cases callback with
    | batch mode size i =>
      rw [hear_batch, ih]
      simp
    | ignored =>
      have hignored : (hear (reply, results) .ignored).1.ignored = true := rfl
      rw [ih]
      simp [hignored]
    | metadata key value =>
      have hignored : (hear (reply, results) (.metadata key value)).1.ignored = reply.ignored := rfl
      rw [ih, hignored]
      simp
    | failed failure =>
      have hignored : (hear (reply, results) (.failed failure)).1.ignored = reply.ignored := rfl
      rw [ih, hignored]
      simp

/-- Of the values that a key was given the last one counts. -/
lemma metadata_foldl (key : String) :
    (callbacks.foldl hear (reply, results)).1.metadata.get? key =
      (callbacks.filterMap (Callback.value? key)).getLast?.or (reply.metadata.get? key) := by
  induction callbacks generalizing reply results with
  | nil => rfl
  | cons callback callbacks ih =>
    rw [List.foldl_cons]
    cases callback with
    | batch mode size i =>
      rw [hear_batch]
      exact ih _ _
    | metadata key' value =>
      have hrest := ih (reply.tell (.metadata key' value)) results
      have hmetadata : (reply.tell (.metadata key' value)).metadata.get? key =
          if key = key' then some value else reply.metadata.get? key :=
        Dictionary.get?_insert reply.metadata key' key value
      rw [hmetadata] at hrest
      by_cases hkey : key = key'
      · have hentry : (Callback.metadata key' value : Callback ι).value? key = some value :=
          if_pos hkey
        rw [if_pos hkey, Option.or_some] at hrest
        rw [List.filterMap_cons_some hentry, List.getLast?_cons, Option.some_or]
        exact hrest
      · have hentry : (Callback.metadata key' value : Callback ι).value? key = none := if_neg hkey
        rw [List.filterMap_cons_none hentry]
        rwa [if_neg hkey] at hrest
    | _ => exact ih _ _

/-- The output and the open results depend on the batches alone. -/
lemma served_foldl :
    ((callbacks.foldl hear (reply, results)).1.output, (callbacks.foldl hear (reply, results)).2) =
      (callbacks.filterMap Callback.request?).foldl serve (reply.output, results) := by
  induction callbacks generalizing reply results with
  | nil => rfl
  | cons callback callbacks ih =>
    rw [List.foldl_cons]
    cases callback with
    | batch mode size i =>
      rw [hear_batch]
      exact ih _ _
    | _ => exact ih _ _

/-- A reply that heard of the same failures, entries and batches in other places is the same. -/
lemma foldl_hear_of_perm {callbacks callbacks' : List (Callback ι)}
    (hperm : callbacks'.Perm callbacks)
    (hfailures : callbacks'.filterMap Callback.failure? = callbacks.filterMap Callback.failure?)
    (hentries : ∀ key, callbacks'.filterMap (Callback.value? key) =
      callbacks.filterMap (Callback.value? key))
    (hrequests : callbacks'.filterMap Callback.request? = callbacks.filterMap Callback.request?) :
    callbacks'.foldl hear (reply, results) = callbacks.foldl hear (reply, results) := by
  -- each part of the reply is decided by callbacks that keep their order
  have hserved := served_foldl callbacks' reply results
  rw [hrequests, ← served_foldl callbacks reply results] at hserved
  have hfailure := failure_foldl callbacks' reply results
  rw [hfailures, ← failure_foldl callbacks reply results] at hfailure
  have hignored := ignored_foldl callbacks' reply results
  rw [hperm.mem_iff, ← ignored_foldl callbacks reply results] at hignored
  have hmetadata : (callbacks'.foldl hear (reply, results)).1.metadata =
      (callbacks.foldl hear (reply, results)).1.metadata := by
    refine Dictionary.ext_get? fun key => ?_
    rw [metadata_foldl, metadata_foldl, hentries]
  generalize callbacks'.foldl hear (reply, results) = after' at *
  generalize callbacks.foldl hear (reply, results) = after at *
  obtain ⟨⟨output', metadata', failure', ignored'⟩, left'⟩ := after'
  obtain ⟨⟨output, metadata, failure, ignored⟩, left⟩ := after
  obtain ⟨rfl, rfl⟩ := Prod.mk.inj hserved
  obtain rfl : failure' = failure := hfailure
  obtain rfl : metadata' = metadata := hmetadata
  obtain rfl : ignored' = ignored := Bool.eq_iff_iff.mpr hignored
  rfl

/-! ## The rows and the summary -/

/-- A reply that was told something sums it up. -/
lemma sumsUp_summary (output : O) :
    SumsUp callbacks (callbacks.foldl hear (({ output } : Reply O), results)).1.summary := by
  have hfailure := failure_foldl callbacks ({ output } : Reply O) results
  have hignored := ignored_foldl callbacks ({ output } : Reply O) results
  have hmetadata := metadata_foldl callbacks ({ output } : Reply O) results
  generalize callbacks.foldl hear (({ output } : Reply O), results) = after at *
  unfold Reply.summary
  rw [hfailure]
  constructor
  · intro first others hfirst
    rw [hfirst]
    rfl
  · intro hnone hmem
    have hmarked : after.1.ignored = true := hignored.mpr (.inr hmem)
    rw [hnone]
    exact if_pos hmarked
  · intro hnone hmem
    have hunmarked : ¬after.1.ignored = true := by
      rw [hignored]
      simp [hmem]
    rw [hnone]
    refine ⟨after.1.metadata, if_neg hunmarked, fun key => ?_⟩
    rw [hmetadata key]
    exact Option.or_none

variable {Holds : List Response → ℕ∞ → O → Prop} {refused : Fault}

/-- An output with room for everything is like a list. -/
lemma alike_of_accepts (haccepts : Accepts ResponseWriter.write Holds refused) :
    ResponseWriter.Alike (fun (items : List Response) (output : O) => Holds items ⊤ output) where
  record row {items output} h := by
    obtain ⟨after, hwrite, hafter⟩ := haccepts.takes_of_top (.record row) h
    rw [hwrite]
    exact .ok hafter
  summary response {items output} h := by
    obtain ⟨after, hwrite, hafter⟩ := haccepts.takes_of_top response h
    rw [hwrite]
    exact hafter

/-- A batch puts the rows that are pulled into such an output. -/
lemma serve_eq (haccepts : Accepts ResponseWriter.write Holds refused) {items : List Response}
    {output : O} (hholds : Holds items ⊤ output) (mode : BatchMode) (size : Int64) (i : ι) :
    ∃ after,
      serve (output, results) (mode, size, i) =
        (after, Function.update results i (haul (rowBudget size (results i)) (results i)).rest) ∧
      Holds (items ++ (mode.sent (haul (rowBudget size (results i)) (results i)).rows).map .record)
        ⊤ after := by
  have htaken := takeRows_alike (deliver_alike (alike_of_accepts haccepts) mode)
    (rowBudget size (results i)) (results i) hholds
  rw [takeRows_deliver] at htaken
  have hagree := htaken.finalState
  rw [finalState_resultOf] at hagree
  obtain ⟨hafter, hrest⟩ := hagree
  refine ⟨_, ?_, hafter⟩
  exact congrArg (Prod.mk _) (congrArg (Function.update results i) hrest.symm)

/-- Callbacks put the rows that are pulled into such an output, and nothing else. -/
lemma holds_foldl (haccepts : Accepts ResponseWriter.write Holds refused)
    (requests : List (BatchMode × Int64 × ι)) {items : List Response} {output : O}
    (hholds : Holds items ⊤ output) :
    Holds (items ++ (pulled requests results).map .record) ⊤
      (requests.foldl serve (output, results)).1 := by
  induction requests generalizing items output results with
  | nil => rwa [pulled, List.map_nil, List.append_nil]
  | cons request requests ih =>
    obtain ⟨mode, size, i⟩ := request
    obtain ⟨after, hserved, hafter⟩ := serve_eq results haccepts hholds mode size i
    rw [List.foldl_cons, hserved, pulled, List.map_append, ← List.append_assoc]
    exact ih _ hafter

/-- A new reply whose output has room for everything writes the rows that are pulled, in order, and
then one summary of what it was told. Callbacks in another order come to the same if the failures,
the entries of each key and the batches keep theirs. -/
theorem collected_eq (haccepts : Accepts ResponseWriter.write Holds refused)
    {sent : List Response} {output : O} (hholds : Holds sent ⊤ output) :
    (∃ summary, SumsUp callbacks summary ∧
      Holds
        (sent ++ (pulled (callbacks.filterMap Callback.request?) results).map .record ++ [summary])
        ⊤ (collected callbacks results output).output) ∧
    ∀ callbacks' : List (Callback ι), callbacks'.Perm callbacks →
      callbacks'.filterMap Callback.failure? = callbacks.filterMap Callback.failure? →
      (∀ key, callbacks'.filterMap (Callback.value? key) =
        callbacks.filterMap (Callback.value? key)) →
      callbacks'.filterMap Callback.request? = callbacks.filterMap Callback.request? →
      (collected callbacks' results output).output =
        (collected callbacks results output).output := by
  constructor
  · have hserved := served_foldl callbacks ({ output } : Reply O) results
    have hrows := holds_foldl results haccepts (callbacks.filterMap Callback.request?) hholds
    rw [← hserved] at hrows
    have hsummary := sumsUp_summary callbacks results output
    obtain ⟨after, hwrite, hafter⟩ := haccepts.takes_of_top
      (callbacks.foldl hear (({ output } : Reply O), results)).1.summary hrows
    refine ⟨_, hsummary, ?_⟩
    show Holds _ ⊤ (callbacks.foldl hear (({ output } : Reply O), results)).1.finish.output
    rw [output_finish, hwrite]
    exact hafter
  · intro callbacks' hperm hfailures hentries hrequests
    unfold collected
    rw [foldl_hear_of_perm _ _ hperm hfailures hentries hrequests]

/-- A list has room for everything. -/
lemma accepts_list (refused : Fault) :
    Accepts ResponseWriter.write
      (fun items room (output : List Response) => room = ⊤ ∧ output = items) refused where
  takes response {items room output} h := by
    obtain ⟨htop, rfl⟩ := h
    exact ⟨output ++ [response], rfl, eq_top_of_add_one htop, rfl⟩
  refuses response {items output} h := absurd h.1 ENat.zero_ne_top

/-- Two failures, of which the first counts, and a row that is pulled last. -/
def troubled : List (Callback Unit) :=
  [.ignored, .failed (.ofFault (.statement .syntaxError "first")),
    .failed (.ofFault (.statement .generalError "second")), .batch .pull 1 ()]

/-- A failure overrules the word that a request was ignored. -/
theorem collected_eq_troubled :
    (collected troubled (fun _ => ({ rows := [[], []] } : RowBuffer)) ([] : List Response)).output =
      [.record [], .failure Status.syntaxError.code "first"] := by
  have hnew : (⊤ : ℕ∞) = ⊤ ∧ ([] : List Response) = [] := ⟨rfl, rfl⟩
  obtain ⟨⟨summary, hsums, -, hwritten⟩, -⟩ := collected_eq troubled
    (fun _ => ({ rows := [[], []] } : RowBuffer)) (accepts_list .connectionClosed) hnew
  obtain rfl := hsums.failure rfl
  exact hwritten

end Reply

end QuerySession
