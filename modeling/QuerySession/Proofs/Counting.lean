import Mathlib.Data.List.Induction
import Mathlib.Order.Bounds.Basic
import Mathlib.Tactic.Ring
import QuerySession.Proofs.Precondition

/-!
# What the counter counts

Interrupts and the answers to them come from anyone and in any order. An answer that finds no
interrupt is refused, so the counter is not simply the interrupts less the answers: it is the most
by which the interrupts outnumber the answers since some moment. What it differs by from the plain
difference is the number of answers that were refused.

* `SignalCall`, `Signals.after`, `Signals.outcomes`: what can be done to signals, and what comes of
  it;
* `SignalCall.balance`: interrupts less answers;
* `Signals.isGreatest_after`, `Signals.refusals_eq`: the two rules for the counter;
* `Signals.follows_calls`: all that some calls come to on new signals.
-/

namespace QuerySession

/-- What can be done to signals. The calls of several callers take effect one after the other. -/
inductive SignalCall where
  | interrupt
  | acknowledge
  | terminate
  | close
  deriving DecidableEq

namespace SignalCall

/-- Makes a call. An interrupt, and an answer to one, says how many interrupts have no answer. -/
def make : SignalCall → EStateM Fault Signals (Option Nat)
  | interrupt => fun s => .ok (some (s.interrupts + 1)) s.interrupt
  | acknowledge => some <$> Signals.acknowledge
  | terminate => fun s => .ok none s.terminate
  | close => fun s => .ok none s.close

/-- An answer that found no interrupt was refused. -/
def isRefusal : EStateM.Result Fault Signals (Option Nat) → Bool
  | .error .counterUnderflow _ => true
  | _ => false

/-- The interrupts among some calls less the answers. -/
def balance (calls : List SignalCall) : ℤ := calls.count interrupt - calls.count acknowledge

lemma balance_snoc (calls : List SignalCall) (call : SignalCall) :
    balance (calls ++ [call]) = balance calls + balance [call] := by
  unfold balance
  rw [List.count_append, List.count_append]
  push_cast
  ring

/-- No call takes off more than one. -/
lemma neg_one_le_balance (call : SignalCall) : -1 ≤ balance [call] := by
  cases call <;> decide

/-! ## One call -/

variable (call : SignalCall) {s : Signals}

lemma make_acknowledge_of_zero (h : s.interrupts = 0) :
    acknowledge.make s = .error .counterUnderflow s := by
  obtain ⟨interrupts, terminated, closed⟩ := s
  obtain rfl : interrupts = 0 := h
  rfl

lemma make_acknowledge_of_succ {left : ℕ} (h : s.interrupts = left + 1) :
    acknowledge.make s = .ok (some left) { s with interrupts := left } := by
  obtain ⟨interrupts, terminated, closed⟩ := s
  obtain rfl : interrupts = left + 1 := h
  rfl

/-- A call moves the counter by its balance. If that led below zero the call is refused, and the
counter stays at zero. -/
lemma counted_make (s : Signals) :
    ((finalState (call.make s)).interrupts : ℤ) = max 0 (s.interrupts + balance [call]) ∧
      (isRefusal (call.make s) ↔ s.interrupts + balance [call] < 0) := by
  cases call with
  | acknowledge =>
    show _ = max 0 ((s.interrupts : ℤ) + -1) ∧ (_ ↔ (s.interrupts : ℤ) + -1 < 0)
    cases hcount : s.interrupts with
    | zero =>
      rw [make_acknowledge_of_zero hcount]
      refine ⟨?_, by simp [isRefusal]⟩
      show (s.interrupts : ℤ) = _
      omega
    | succ left =>
      rw [make_acknowledge_of_succ hcount]
      refine ⟨?_, by simp [isRefusal]⟩
      show (left : ℤ) = _
      omega
  | interrupt =>
    have hcount : ((s.interrupts + 1 : ℕ) : ℤ) = max 0 (s.interrupts + 1) := by omega
    have hgain : ¬ (s.interrupts : ℤ) + 1 < 0 := by omega
    exact ⟨hcount, iff_of_false Bool.false_ne_true hgain⟩
  | terminate | close =>
    have hcount : (s.interrupts : ℤ) = max 0 (s.interrupts + 0) := by omega
    have hgain : ¬ (s.interrupts : ℤ) + 0 < 0 := by omega
    exact ⟨hcount, iff_of_false Bool.false_ne_true hgain⟩

/-- A call marks what it is to mark, and leaves the other flag alone. -/
lemma flags_make (s : Signals) :
    ((finalState (call.make s)).terminated ↔ s.terminated ∨ call = terminate) ∧
      ((finalState (call.make s)).closed ↔ s.closed ∨ call = close) := by
  cases call with
  | acknowledge =>
    cases hcount : s.interrupts with
    | zero =>
      rw [make_acknowledge_of_zero hcount]
      simp [finalState]
    | succ left =>
      rw [make_acknowledge_of_succ hcount]
      simp [finalState]
  | interrupt => simp [make, finalState, Signals.interrupt]
  | terminate => simp [make, finalState, Signals.terminate]
  | close => simp [make, finalState, Signals.close]

end SignalCall

namespace Signals

open SignalCall

/-- New signals after some calls. -/
def after (calls : List SignalCall) : Signals :=
  calls.foldl (fun s call => finalState (call.make s)) {}

/-- What comes of each of some calls. -/
def outcomes : List SignalCall → Signals → List (EStateM.Result Fault Signals (Option Nat))
  | [], _ => []
  | call :: calls, s => call.make s :: outcomes calls (finalState (call.make s))

/-- The number of answers that are refused among some calls on new signals. -/
def refusals (calls : List SignalCall) : ℕ := (outcomes calls {}).countP isRefusal

section
variable (calls : List SignalCall) (call : SignalCall)

lemma after_snoc : after (calls ++ [call]) = finalState (call.make (after calls)) :=
  List.foldl_append

lemma outcomes_snoc (s : Signals) :
    outcomes (calls ++ [call]) s =
      outcomes calls s ++ [call.make (calls.foldl (fun s call => finalState (call.make s)) s)] := by
  induction calls generalizing s with
  | nil => rfl
  | cons first calls ih => exact congrArg (first.make s :: ·) (ih (finalState (first.make s)))

lemma refusals_snoc :
    refusals (calls ++ [call]) =
      refusals calls + if isRefusal (call.make (after calls)) then 1 else 0 := by
  unfold refusals
  rw [outcomes_snoc, List.countP_append, List.countP_singleton]
  rfl

end

/-! ## All calls -/

section
variable (calls : List SignalCall)

/-- The counter is the most by which interrupts outnumber answers since some moment. -/
theorem isGreatest_after :
    IsGreatest {gain : ℤ | ∃ recent, recent <:+ calls ∧ gain = balance recent}
      (after calls).interrupts := by
  induction calls using List.reverseRecOn with
  | nil =>
    refine ⟨⟨[], List.suffix_refl [], rfl⟩, ?_⟩
    rintro gain ⟨recent, hrecent, rfl⟩
    rw [List.suffix_nil.mp hrecent]
    exact le_rfl
  | append_singleton calls call ih =>
    obtain ⟨⟨most, hmost, hgain⟩, hbound⟩ := ih
    obtain ⟨hcount, -⟩ := counted_make call (after calls)
    rw [after_snoc, hcount]
    constructor
    · -- either nothing counts any more, or what counted before does so together with the new call
      rcases le_total 0 ((after calls).interrupts + balance [call]) with hpos | hneg
      · refine ⟨most ++ [call], (List.suffix_append_self_iff).mpr hmost, ?_⟩
        rw [max_eq_right hpos, hgain, balance_snoc]
      · exact ⟨[], List.nil_suffix, max_eq_left hneg⟩
    · rintro gain ⟨recent, hrecent, rfl⟩
      rcases List.suffix_concat_iff.mp hrecent with rfl | ⟨earlier, rfl, hearlier⟩
      · exact le_max_left 0 _
      · have hle : balance earlier ≤ (after calls).interrupts := hbound ⟨earlier, hearlier, rfl⟩
        rw [balance_snoc]
        exact (add_le_add_left hle _).trans (le_max_right 0 _)

/-- The counter exceeds the interrupts less the answers by the answers that were refused. -/
theorem refusals_eq : (refusals calls : ℤ) = (after calls).interrupts - balance calls := by
  induction calls using List.reverseRecOn with
  | nil => rfl
  | append_singleton calls call ih =>
    obtain ⟨hcount, hrefused⟩ := counted_make call (after calls)
    have hone := neg_one_le_balance call
    rw [refusals_snoc, after_snoc, balance_snoc]
    by_cases hcall : isRefusal (call.make (after calls)) = true
    · have hbelow := hrefused.mp hcall
      rw [if_pos hcall]
      omega
    · have habove := mt hrefused.mpr hcall
      rw [if_neg hcall]
      omega

/-- There is no more to answer than there were interrupts. -/
lemma interrupts_after_le : (after calls).interrupts ≤ calls.count .interrupt := by
  obtain ⟨recent, hrecent, hgain⟩ := (isGreatest_after calls).1
  have hsome : recent.count .interrupt ≤ calls.count .interrupt := hrecent.sublist.count_le _
  unfold balance at hgain
  omega

/-- A flag is set once it was marked, whatever else was called. -/
lemma flags_after :
    ((after calls).terminated ↔ .terminate ∈ calls) ∧ ((after calls).closed ↔ .close ∈ calls) := by
  induction calls using List.reverseRecOn with
  | nil => exact ⟨iff_of_false nofun nofun, iff_of_false nofun nofun⟩
  | append_singleton calls call ih =>
    obtain ⟨hterminated, hclosed⟩ := flags_make call (after calls)
    rw [after_snoc, hterminated, hclosed, ih.1, ih.2]
    simp [eq_comm]

end

/-- What some calls come to on new signals. -/
structure FollowsCalls (calls : List SignalCall) : Prop where
  /-- The counter is the largest balance of the calls since any moment. -/
  counter : IsGreatest {gain : ℤ | ∃ recent, recent <:+ calls ∧ gain = balance recent}
    (after calls).interrupts
  refusals : (refusals calls : ℤ) = (after calls).interrupts - balance calls
  /-- An interrupt says how many there are right after it. -/
  interrupt : ∀ past, past ++ [.interrupt] <+: calls →
    SignalCall.interrupt.make (after past) =
      .ok (some (after (past ++ [.interrupt])).interrupts) (after (past ++ [.interrupt]))
  /-- So does an answer to one. -/
  acknowledge : ∀ past, past ++ [.acknowledge] <+: calls → (after past).interrupts ≠ 0 →
    SignalCall.acknowledge.make (after past) =
      .ok (some (after (past ++ [.acknowledge])).interrupts) (after (past ++ [.acknowledge]))
  /-- Without one there is nothing to answer, and nothing changes. -/
  undue : ∀ past, past ++ [.acknowledge] <+: calls → (after past).interrupts = 0 →
    SignalCall.acknowledge.make (after past) = .error .counterUnderflow (after past) ∧
      after (past ++ [.acknowledge]) = after past
  isInterrupted : (after calls).isInterrupted ↔ 0 < (after calls).interrupts
  terminated : (after calls).terminated ↔ .terminate ∈ calls
  closed : (after calls).closed ↔ .close ∈ calls
  /-- At no moment is the counter too large for a word. -/
  fits : ∀ past, past <+: calls → (after past).interrupts < UInt64.size

/-- Whatever is called on new signals, in whatever order, the counter, the flags and all answers are
as the calls say, as long as no more interrupts come than a word can count. -/
theorem follows_calls (calls : List SignalCall) (hcalls : calls.count .interrupt < UInt64.size) :
    FollowsCalls calls where
  counter := isGreatest_after calls
  refusals := refusals_eq calls
  interrupt past _ := by
    rw [after_snoc]
    rfl
  acknowledge past _ hdue := by
    obtain ⟨left, hleft⟩ := Nat.exists_eq_succ_of_ne_zero hdue
    rw [after_snoc, make_acknowledge_of_succ hleft]
    rfl
  undue past _ hundue := by
    rw [after_snoc, make_acknowledge_of_zero hundue]
    exact ⟨rfl, rfl⟩
  isInterrupted := decide_eq_true_iff
  terminated := (flags_after calls).1
  closed := (flags_after calls).2
  fits past hpast := by
    calc (after past).interrupts
      _ ≤ past.count .interrupt := interrupts_after_le past
      _ ≤ calls.count .interrupt := hpast.sublist.count_le _
      _ < UInt64.size := hcalls

/-- Answers that come too early. -/
def hasty : List SignalCall :=
  [.acknowledge, .interrupt, .acknowledge, .acknowledge, .interrupt, .interrupt, .terminate]

/-- Two of the three answers are refused, so two interrupts are left of three. -/
theorem follows_calls_hasty :
    hasty.count .interrupt < UInt64.size ∧ FollowsCalls hasty ∧
      (after hasty).interrupts = 2 ∧ Signals.refusals hasty = 2 :=
  ⟨by decide, follows_calls hasty (by decide), by decide, by decide⟩

end Signals

end QuerySession
