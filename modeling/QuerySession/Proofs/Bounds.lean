import Mathlib.Data.ENat.Lattice
import QuerySession.Proofs.Rows

/-!
# The bounds of a batch

Four bounds race in the loop over rows: the size of the batch, the rows that there are, the row at
which reading fails, and the row that the output refuses. The least of them says how far the batch
gets, and which of them it is says how the batch ends.

* `RecordSource.HandsOut`, `Accepts`: a result that fails after some of its rows, and an output
  that refuses what it has no room for;
* `Bounds.reach`, `Bounds.Ends`: how far a batch gets, and how it ends there;
* `takeRows_kept`: the loop keeps to its bounds;
* `Reply.batch_bounded`: so do pulling and discarding, and two batches amount to one.
-/

namespace QuerySession

variable {ι ρ α O : Type}

/-! ## Results and outputs that fail -/

/-- A result fails with `fault` whenever it is asked for a row after a certain number of them.
`Left rows breaks result` says that `rows` are left to take and that `breaks` of them can be taken
before it fails; for a result that never fails this is `⊤`. -/
structure RecordSource.HandsOut [RecordSource ρ] (Left : List Record → ℕ∞ → ρ → Prop)
    (fault : Fault) : Prop where
  fails : ∀ {rows result}, Left rows 0 result →
    ∃ rest, RecordSource.next result = .error fault rest ∧ Left rows 0 rest
  gives : ∀ {row rows breaks result}, Left (row :: rows) (breaks + 1) result →
    ∃ rest, RecordSource.next result = .ok (some row) rest ∧ Left rows breaks rest
  ends : ∀ {breaks result}, Left [] (breaks + 1) result →
    ∃ rest, RecordSource.next result = .ok none rest ∧ Left [] (breaks + 1) rest

/-- An output takes items as long as it has room and refuses the others with `fault`.
`Holds items room out` says that it was given `items` so far and has room for `room` more. -/
structure Accepts (put : ι → EStateM Fault α Unit) (Holds : List ι → ℕ∞ → α → Prop)
    (fault : Fault) : Prop where
  takes : ∀ (item : ι) {items room out}, Holds items (room + 1) out →
    ∃ after, put item out = .ok () after ∧ Holds (items ++ [item]) room after
  refuses : ∀ (item : ι) {items out}, Holds items 0 out →
    ∃ after, put item out = .error fault after ∧ Holds items 0 after

/-- There is always room for one more if there is no end of it. -/
lemma Accepts.takes_of_top {put : ι → EStateM Fault α Unit} {Holds : List ι → ℕ∞ → α → Prop}
    {fault : Fault} (h : Accepts put Holds fault) (item : ι) {items : List ι} {out : α}
    (hout : Holds items ⊤ out) :
    ∃ after, put item out = .ok () after ∧ Holds (items ++ [item]) ⊤ after := by
  have hroom : Holds items (⊤ + 1) out := hout
  exact h.takes item hroom

/-- A bound that is not used up was one more than what is left of it. -/
lemma eq_zero_or_add_one (bound : ℕ∞) : bound = 0 ∨ ∃ left, bound = left + 1 := by
  by_cases h : bound = 0
  · exact .inl h
  · have hpos : 1 ≤ bound := Order.one_le_iff_ne_zero.mpr h
    obtain ⟨left, hleft⟩ := exists_add_of_le hpos
    exact .inr ⟨left, by rw [hleft, add_comm]⟩

lemma eq_top_of_add_one {bound : ℕ∞} (h : bound + 1 = ⊤) : bound = ⊤ := by
  by_contra hne
  exact WithTop.add_ne_top.mpr ⟨hne, ENat.one_ne_top⟩ h

/-- What is left of a bound, once a row more was counted on both sides. -/
lemma add_one_sub_add_one (bound : ℕ∞) (taken : ℕ) :
    bound + 1 - (taken + 1 : ℕ) = bound - taken := by
  cases bound using ENat.recTopCoe with
  | top => simp
  | coe bound =>
    norm_cast
    omega

/-! ## Bounds -/

/-- What may end a batch. -/
structure Bounds where
  /-- The size of the batch; a negative size sets no limit. -/
  limit : ℕ∞
  /-- The rows that there are. -/
  rows : ℕ
  /-- The rows that can be taken before reading fails. -/
  breaks : ℕ∞
  /-- The responses that the output has room for. -/
  room : ℕ∞

namespace Bounds

/-- The number of rows that are taken and delivered. -/
noncomputable def reach (b : Bounds) : ℕ := (min (min b.limit b.breaks) (min b.rows b.room)).toNat

/-- How a batch ends, and how many rows it took. The limit comes before a fault of the result, and
the end of the rows after it; a row that the output refuses is taken nevertheless. -/
structure Ends (b : Bounds) (broken refused : Fault) (taken : ℕ) (outcome : Except Fault Unit) :
    Prop where
  done : b.reach = b.limit ∨ b.reach < b.breaks ∧ b.reach = b.rows →
    outcome = .ok () ∧ taken = b.reach
  broken : b.reach < b.limit → b.reach = b.breaks → outcome = .error broken ∧ taken = b.reach
  refused : b.reach < b.limit → b.reach < b.breaks → b.reach < b.rows →
    outcome = .error refused ∧ taken = b.reach + 1

/-- The bounds with room for one more row. -/
def next (b : Bounds) : Bounds := ⟨b.limit + 1, b.rows + 1, b.breaks + 1, b.room + 1⟩

lemma coe_reach (b : Bounds) : (b.reach : ℕ∞) = min (min b.limit b.breaks) (min b.rows b.room) := by
  have hrows : min (b.rows : ℕ∞) b.room ≤ b.rows := min_le_left _ _
  have hle : min (min b.limit b.breaks) (min (b.rows : ℕ∞) b.room) ≤ b.rows :=
    (min_le_right _ _).trans hrows
  exact ENat.natCast_toNat (ne_top_of_le_ne_top (ENat.natCast_ne_top b.rows) hle)

lemma reach_next (b : Bounds) : b.next.reach = b.reach + 1 := by
  have h : (b.next.reach : ℕ∞) = (b.reach : ℕ∞) + 1 := by
    rw [coe_reach, coe_reach]
    simp only [next, Nat.cast_add, Nat.cast_one, min_add_add_right]
  exact_mod_cast h

/-- A batch that is out of bounds from the start takes nothing that it can deliver. -/
lemma reach_eq_zero {b : Bounds} (h : b.limit = 0 ∨ b.breaks = 0 ∨ b.rows = 0 ∨ b.room = 0) :
    b.reach = 0 := by
  have hreach : (b.reach : ℕ∞) = 0 := by
    rw [coe_reach]
    rcases h with h | h | h | h <;> simp [h]
  exact_mod_cast hreach

lemma Ends.next {b : Bounds} {broken refused : Fault} {taken : ℕ} {outcome : Except Fault Unit}
    (h : b.Ends broken refused taken outcome) : b.next.Ends broken refused (taken + 1) outcome := by
  have hreach : (b.next.reach : ℕ∞) = (b.reach : ℕ∞) + 1 := by
    rw [reach_next, Nat.cast_add, Nat.cast_one]
  have heq : ∀ x : ℕ∞, (b.reach : ℕ∞) + 1 = x + 1 ↔ (b.reach : ℕ∞) = x := fun x =>
    WithTop.add_right_inj ENat.one_ne_top
  have hlt : ∀ x : ℕ∞, (b.reach : ℕ∞) + 1 < x + 1 ↔ (b.reach : ℕ∞) < x := fun x =>
    ENat.add_lt_add_iff_right ENat.one_ne_top
  have hrows : b.next.rows = b.rows + 1 := rfl
  constructor
  · intro hdone
    rw [hreach, reach_next, hrows, Nat.add_right_cancel_iff] at hdone
    obtain ⟨houtcome, htaken⟩ := h.done (hdone.imp (heq _).mp (And.imp_left (hlt _).mp))
    exact ⟨houtcome, by rw [htaken, reach_next]⟩
  · intro hlimit hbreaks
    rw [hreach] at hlimit hbreaks
    obtain ⟨houtcome, htaken⟩ := h.broken ((hlt _).mp hlimit) ((heq _).mp hbreaks)
    exact ⟨houtcome, by rw [htaken, reach_next]⟩
  · intro hlimit hbreaks hleft
    rw [hreach] at hlimit hbreaks
    rw [reach_next, hrows, Nat.add_lt_add_iff_right] at hleft
    obtain ⟨houtcome, htaken⟩ := h.refused ((hlt _).mp hlimit) ((hlt _).mp hbreaks) hleft
    exact ⟨houtcome, by rw [htaken, reach_next]⟩

/-- A budget with which a batch gets as far as its bounds allow. Without a limit it has to be enough
for the look that finds the end or the fault. -/
def Suffices (b : Bounds) (budget : ℕ) : Prop :=
  b.limit = budget ∨ b.limit = ⊤ ∧ min (b.rows : ℕ∞) b.breaks < budget

lemma Suffices.limit_eq_zero {b : Bounds} (h : b.Suffices 0) : b.limit = 0 := by
  rcases h with h | ⟨-, h⟩
  · exact h
  · exact absurd h not_lt_zero

lemma Suffices.limit_pos {b : Bounds} {budget : ℕ} (h : b.Suffices (budget + 1)) : 0 < b.limit := by
  rcases h with h | ⟨h, -⟩
  · rw [h]
    exact_mod_cast Nat.succ_pos budget
  · rw [h]
    exact ENat.top_pos

lemma Suffices.of_next {b : Bounds} {budget : ℕ} (h : b.next.Suffices (budget + 1)) :
    b.Suffices budget := by
  unfold Suffices at h
  simp only [next, Nat.cast_add, Nat.cast_one, min_add_add_right] at h
  rcases h with h | ⟨htop, hmin⟩
  · exact .inl ((WithTop.add_right_inj ENat.one_ne_top).mp h)
  · exact .inr ⟨eq_top_of_add_one htop, (ENat.add_lt_add_iff_right ENat.one_ne_top).mp hmin⟩

end Bounds

/-! ## The loop -/

section
variable [RecordSource ρ] {Left : List Record → ℕ∞ → ρ → Prop} {broken refused : Fault}
  {put : Record → EStateM Fault α Unit} {Holds : List Record → ℕ∞ → α → Prop}

/-- What a run of the loop has to show for itself. -/
def Bounds.Kept (b : Bounds) (Left : List Record → ℕ∞ → ρ → Prop)
    (Holds : List Record → ℕ∞ → α → Prop) (broken refused : Fault) (rows items : List Record)
    (run : EStateM.Result Fault (α × ρ) Unit) : Prop :=
  ∃ after rest taken outcome, run = resultOf outcome (after, rest) ∧
    Holds (items ++ rows.take b.reach) (b.room - b.reach) after ∧
    Left (rows.drop taken) (b.breaks - taken) rest ∧ b.Ends broken refused taken outcome

omit [RecordSource ρ] in
/-- A loop that ends before it takes a row. -/
lemma Bounds.kept_of_reach_eq_zero {b : Bounds} {rows items : List Record} {out : α} {rest : ρ}
    (outcome : Except Fault Unit) {run : EStateM.Result Fault (α × ρ) Unit} (hreach : b.reach = 0)
    (hrun : run = resultOf outcome (out, rest)) (hout : Holds items b.room out)
    (hleft : Left rows b.breaks rest) (hends : b.Ends broken refused 0 outcome) :
    b.Kept Left Holds broken refused rows items run := by
  refine ⟨out, rest, 0, outcome, hrun, ?_, ?_, hends⟩
  · rwa [hreach, List.take_zero, List.append_nil, Nat.cast_zero, tsub_zero]
  · rwa [List.drop_zero, Nat.cast_zero, tsub_zero]

omit [RecordSource ρ] in
/-- A loop that delivers a row and goes on. -/
lemma Bounds.Kept.next {b : Bounds} {row : Record} {rows items : List Record}
    {run : EStateM.Result Fault (α × ρ) Unit}
    (h : b.Kept Left Holds broken refused rows (items ++ [row]) run) :
    b.next.Kept Left Holds broken refused (row :: rows) items run := by
  obtain ⟨after, rest, taken, outcome, hrun, hheld, hleft, hends⟩ := h
  have hroom : b.next.room - b.next.reach = b.room - b.reach := by
    rw [reach_next]
    exact add_one_sub_add_one _ _
  have hbreaks : b.next.breaks - (taken + 1 : ℕ) = b.breaks - taken := add_one_sub_add_one _ _
  refine ⟨after, rest, taken + 1, outcome, hrun, ?_, ?_, hends.next⟩
  · rwa [hroom, reach_next, List.take_succ_cons, List.append_cons]
  · rwa [hbreaks, List.drop_succ_cons]

omit [RecordSource ρ] in
/-- A loop that takes a row in vain. -/
lemma Bounds.kept_of_refused {b : Bounds} {row : Record} {rows items : List Record} {after : α}
    {rest : ρ} (hcount : b.rows = rows.length + 1) (hlimit : 0 < b.limit) (hbreaks : 0 < b.breaks)
    (hroom : b.room = 0) (hafter : Holds items 0 after) (hleft : Left rows (b.breaks - 1) rest) :
    b.Kept Left Holds broken refused (row :: rows) items
      (resultOf (.error refused) (after, rest)) := by
  have hreach := reach_eq_zero (.inr (.inr (.inr hroom)))
  refine ⟨after, rest, 1, .error refused, rfl, ?_, ?_, ?_⟩
  · rwa [hreach, hroom, List.take_zero, List.append_nil, Nat.cast_zero, tsub_zero]
  · rwa [Nat.cast_one, List.drop_one, List.tail_cons]
  · constructor <;> simp [hreach, hlimit.ne, hbreaks.ne, hcount]

/-- The loop delivers as many rows as its bounds allow, and ends as they say. -/
theorem takeRows_kept (hsource : RecordSource.HandsOut Left broken)
    (hput : Accepts put Holds refused) {budget : ℕ} {b : Bounds} {rows : List Record}
    (items : List Record) {result : ρ} {out : α} (hrows : b.rows = rows.length)
    (hbudget : b.Suffices budget) (hleft : Left rows b.breaks result)
    (hout : Holds items b.room out) :
    b.Kept Left Holds broken refused rows items (takeRows put budget (out, result)) := by
  -- each row uses up one of every bound, so all of them are general here
  induction budget generalizing b rows items result out with
  | zero =>
    have hlimit := hbudget.limit_eq_zero
    have hreach := Bounds.reach_eq_zero (.inl hlimit)
    refine Bounds.kept_of_reach_eq_zero (.ok ()) hreach rfl hout hleft ?_
    constructor <;> simp [hreach, hlimit]
  | succ budget ih =>
    have hlimit := hbudget.limit_pos
    unfold takeRows
    rcases eq_zero_or_add_one b.breaks with hbreaks | ⟨breaks, hbreaks⟩
    · -- reading fails, whether or not there are rows left
      rw [hbreaks] at hleft
      obtain ⟨rest, hnext, hrest⟩ := hsource.fails hleft
      have hreach := Bounds.reach_eq_zero (.inr (.inl hbreaks))
      rw [hnext]
      rw [← hbreaks] at hrest
      refine Bounds.kept_of_reach_eq_zero (.error broken) hreach rfl hout hrest ?_
      constructor <;> simp [hreach, hbreaks, hlimit.ne]
    · have hpos : 0 < b.breaks := by
        rw [hbreaks]
        exact add_pos_of_right one_pos breaks
      rw [hbreaks] at hleft
      cases rows with
      | nil =>
        obtain ⟨rest, hnext, hrest⟩ := hsource.ends hleft
        have hreach := Bounds.reach_eq_zero (.inr (.inr (.inl hrows)))
        rw [hnext]
        rw [← hbreaks] at hrest
        refine Bounds.kept_of_reach_eq_zero (.ok ()) hreach rfl hout hrest ?_
        constructor <;> simp [hreach, hpos, hpos.ne, hrows]
      | cons row rows =>
        obtain ⟨rest, hnext, hrest⟩ := hsource.gives hleft
        rw [hnext]
        dsimp only
        rcases eq_zero_or_add_one b.room with hroom | ⟨room, hroom⟩
        · -- the row is taken before the output refuses it
          rw [hroom] at hout
          obtain ⟨after, hrefused, hafter⟩ := hput.refuses row hout
          have hless : b.breaks - 1 = breaks := by
            rw [hbreaks]
            simpa using add_one_sub_add_one breaks 0
          rw [hrefused]
          refine Bounds.kept_of_refused hrows hlimit hpos hroom hafter ?_
          rwa [hless]
        · rw [hroom] at hout
          obtain ⟨after, htaken, hafter⟩ := hput.takes row hout
          -- none of the bounds is reached, so the rest of the loop has one less of each
          obtain ⟨limit, hless⟩ := (eq_zero_or_add_one b.limit).resolve_left hlimit.ne'
          have hb : b = Bounds.next ⟨limit, rows.length, breaks, room⟩ := by
            obtain ⟨limit', count, breaks', room'⟩ := b
            simp only [Bounds.next, Bounds.mk.injEq]
            exact ⟨hless, hrows, hbreaks, hroom⟩
          subst hb
          rw [htaken]
          exact (ih (items ++ [row]) rfl hbudget.of_next hrest hafter).next

/-- A result has as many rows left as can be taken from it. -/
lemma RecordSource.HandsOut.le_rowsLeft (hsource : HandsOut Left broken) {rows : List Record}
    {breaks : ℕ∞} {result : ρ} (hleft : Left rows breaks result) :
    min (rows.length : ℕ∞) breaks ≤ rowsLeft result := by
  induction rows generalizing breaks result with
  | nil => simp
  | cons row rows ih =>
    rcases eq_zero_or_add_one breaks with rfl | ⟨breaks, rfl⟩
    · simp
    · obtain ⟨rest, hnext, hrest⟩ := hsource.gives hleft
      have hless : rowsLeft rest + 1 ≤ rowsLeft result := rowsLeft_next hnext
      calc min ((row :: rows).length : ℕ∞) (breaks + 1)
          = min (rows.length : ℕ∞) breaks + 1 := by
            rw [List.length_cons, Nat.cast_add, Nat.cast_one, min_add_add_right]
        _ ≤ (rowsLeft rest : ℕ∞) + 1 := by gcongr; exact ih hrest
        _ ≤ rowsLeft result := by exact_mod_cast hless

end

/-! ## Batches of a reply -/

/-- The bounds of a batch of a given size. -/
def Bounds.ofBatch (size : Int64) (rows : List Record) (breaks room : ℕ∞) : Bounds where
  limit := if size < 0 then ⊤ else (size.toInt.toNat : ℕ∞)
  rows := rows.length
  breaks := breaks
  room := room

namespace Reply

variable [RecordSource ρ] [ResponseWriter O] {Left : List Record → ℕ∞ → ρ → Prop}
  {broken refused : Fault} {Holds : List Response → ℕ∞ → O → Prop}

/-- A batch has the budget that it needs. -/
lemma suffices_rowBudget (hsource : RecordSource.HandsOut Left broken) (size : Int64)
    {rows : List Record} {breaks : ℕ∞} (room : ℕ∞) {result : ρ} (hleft : Left rows breaks result) :
    (Bounds.ofBatch size rows breaks room).Suffices (rowBudget size result) := by
  unfold rowBudget rowLimit
  by_cases hsize : size < 0
  · have hle := hsource.le_rowsLeft hleft
    have hlt : (RecordSource.rowsLeft result : ℕ∞) < (RecordSource.rowsLeft result + 1 : ℕ) := by
      exact_mod_cast Nat.lt_succ_self _
    rw [if_pos hsize]
    exact .inr ⟨if_pos hsize, hle.trans_lt hlt⟩
  · rw [if_neg hsize]
    exact .inl (if_neg hsize)

/-- Rows that are pulled are put into the output. -/
lemma accepts_pull (houtput : Accepts ResponseWriter.write Holds refused) (sent : List Response) :
    Accepts (deliver .pull) (fun rows room output => Holds (sent ++ rows.map .record) room output)
      refused where
  takes row {rows room output} hholds := by
    obtain ⟨after, hwrite, hafter⟩ := houtput.takes (.record row) hholds
    refine ⟨after, hwrite, ?_⟩
    rwa [List.map_append, List.map_singleton, ← List.append_assoc]
  refuses row {rows output} hholds := houtput.refuses (.record row) hholds

/-- Rows that are discarded leave the output alone, which hence has room for all of them. -/
lemma accepts_discard (output : O) :
    Accepts (deliver .discard) (fun _ room out => room = ⊤ ∧ out = output) refused where
  takes _ _ _ out hout := ⟨out, rfl, eq_top_of_add_one hout.1, hout.2⟩
  refuses _ _ _ hout := absurd hout.1 ENat.zero_ne_top

/-- A batch does what the loop does to the output and the result. -/
lemma batch_of_takeRows {mode : BatchMode} {size : Int64} {reply : Reply O} {result rest : ρ}
    {output : O} {outcome : Except Fault Unit}
    (h : takeRows (deliver mode) (rowBudget size result) (reply.output, result) =
      resultOf outcome (output, rest)) :
    batch mode size (reply, result) =
      resultOf (outcome.map fun _ => RecordSource.hasMore rest) ({ reply with output }, rest) := by
  unfold batch
  dsimp only
  rw [h]
  cases outcome <;> rfl

/-- A batch that is pulled keeps to its bounds. -/
lemma pull_bounded (hsource : RecordSource.HandsOut Left broken)
    (houtput : Accepts ResponseWriter.write Holds refused) (size : Int64) {rows : List Record}
    {breaks room : ℕ∞} {sent : List Response} {reply : Reply O} {result : ρ}
    (hleft : Left rows breaks result) (hholds : Holds sent room reply.output) :
    ∃ output rest taken outcome,
      batch .pull size (reply, result) =
        resultOf (outcome.map fun _ => RecordSource.hasMore rest) ({ reply with output }, rest) ∧
      Holds (sent ++ (rows.take (Bounds.ofBatch size rows breaks room).reach).map .record)
        (room - (Bounds.ofBatch size rows breaks room).reach) output ∧
      Left (rows.drop taken) (breaks - taken) rest ∧
      (Bounds.ofBatch size rows breaks room).Ends broken refused taken outcome := by
  have hstart : Holds (sent ++ ([] : List Record).map .record) room reply.output := by
    rwa [List.map_nil, List.append_nil]
  obtain ⟨output, rest, taken, outcome, hrun, hafter, hrest, hends⟩ :=
    takeRows_kept hsource (accepts_pull houtput sent) [] rfl
      (suffices_rowBudget hsource size room hleft) hleft hstart
  exact ⟨output, rest, taken, outcome, batch_of_takeRows hrun, hafter, hrest, hends⟩

/-- A batch that is discarded keeps to the bounds of an output with room for all of it, and leaves
the reply alone. -/
lemma discard_bounded (hsource : RecordSource.HandsOut Left broken) (refused : Fault)
    (size : Int64) {rows : List Record} {breaks : ℕ∞} (reply : Reply O) {result : ρ}
    (hleft : Left rows breaks result) :
    ∃ rest taken outcome,
      batch .discard size (reply, result) =
        resultOf (outcome.map fun _ => RecordSource.hasMore rest) (reply, rest) ∧
      Left (rows.drop taken) (breaks - taken) rest ∧
      (Bounds.ofBatch size rows breaks ⊤).Ends broken refused taken outcome := by
  obtain ⟨output, rest, taken, outcome, hrun, ⟨-, rfl⟩, hrest, hends⟩ :=
    takeRows_kept hsource (accepts_discard reply.output) [] rfl
      (suffices_rowBudget hsource size ⊤ hleft) hleft ⟨rfl, rfl⟩
  exact ⟨rest, taken, outcome, batch_of_takeRows hrun, hrest, hends⟩

/-! ### Batches without faults -/

/-- What a batch without faults leaves behind that took a number of rows. -/
structure Took (Left : List Record → ℕ∞ → ρ → Prop) (Holds : List Response → ℕ∞ → O → Prop)
    (mode : BatchMode) (rows : List Record) (sent : List Response) (reply : Reply O) (taken : ℕ)
    (after : Reply O × ρ) : Prop where
  reply : after.1 = { reply with output := after.1.output }
  output : Holds (sent ++ (mode.sent (rows.take taken)).map .record) ⊤ after.1.output
  left : Left (rows.drop taken) ⊤ after.2

/-- Without faults the size of a batch and the rows that there are decide how far it gets. -/
lemma reach_of_unbroken {size : Int64} (hsize : 0 ≤ size) (rows : List Record) :
    (Bounds.ofBatch size rows ⊤ ⊤).reach = min size.toInt.toNat rows.length := by
  have hlimit : (Bounds.ofBatch size rows ⊤ ⊤).limit = (size.toInt.toNat : ℕ∞) :=
    if_neg (Int64.not_lt.mpr hsize)
  have hreach : ((Bounds.ofBatch size rows ⊤ ⊤).reach : ℕ∞) =
      (min size.toInt.toNat rows.length : ℕ) := by
    rw [Bounds.coe_reach, hlimit]
    show min (min (size.toInt.toNat : ℕ∞) ⊤) (min (rows.length : ℕ∞) ⊤) = _
    rw [min_top_right, min_top_right]
    norm_cast
  exact_mod_cast hreach

lemma ends_of_unbroken {size : Int64} (hsize : 0 ≤ size) {rows : List Record} {taken : ℕ}
    {outcome : Except Fault Unit}
    (hends : (Bounds.ofBatch size rows ⊤ ⊤).Ends broken refused taken outcome) :
    outcome = .ok () ∧ taken = min size.toInt.toNat rows.length := by
  have hreach := reach_of_unbroken hsize rows
  rw [← hreach]
  refine hends.done ?_
  rcases Nat.le_total size.toInt.toNat rows.length with hle | hle
  · left
    rw [hreach, Nat.min_eq_left hle]
    exact (if_neg (Int64.not_lt.mpr hsize)).symm
  · right
    rw [hreach, Nat.min_eq_right hle]
    exact ⟨ENat.natCast_lt_top _, rfl⟩

/-- Without faults a batch takes as many rows as its size says, if there are so many. -/
lemma batch_took (hsource : RecordSource.HandsOut Left broken)
    (houtput : Accepts ResponseWriter.write Holds refused) (mode : BatchMode) {size : Int64}
    (hsize : 0 ≤ size) {rows : List Record} {sent : List Response} {reply : Reply O} {result : ρ}
    (hleft : Left rows ⊤ result) (hholds : Holds sent ⊤ reply.output) :
    ∃ after, batch mode size (reply, result) = .ok (RecordSource.hasMore after.2) after ∧
      Took Left Holds mode rows sent reply size.toInt.toNat after := by
  have hdrop : rows.drop (min size.toInt.toNat rows.length) = rows.drop size.toInt.toNat := by
    rw [← List.drop_eq_drop_min]
  have htop : ∀ taken : ℕ, (⊤ : ℕ∞) - taken = ⊤ := fun taken => ENat.top_sub_natCast taken
  cases mode with
  | pull =>
    obtain ⟨output, rest, taken, outcome, hbatch, houtput, hrest, hends⟩ :=
      pull_bounded hsource houtput size hleft hholds
    obtain ⟨rfl, rfl⟩ := ends_of_unbroken hsize hends
    rw [htop, hdrop] at hrest
    rw [htop, reach_of_unbroken hsize, ← List.take_eq_take_min] at houtput
    exact ⟨({ reply with output }, rest), hbatch, rfl, houtput, hrest⟩
  | discard =>
    obtain ⟨rest, taken, outcome, hbatch, hrest, hends⟩ :=
      discard_bounded hsource refused size reply hleft
    obtain ⟨rfl, rfl⟩ := ends_of_unbroken hsize hends
    rw [htop, hdrop] at hrest
    refine ⟨(reply, rest), hbatch, rfl, ?_, hrest⟩
    rwa [BatchMode.sent, List.map_nil, List.append_nil]

omit [RecordSource ρ] [ResponseWriter O] in
/-- Two batches without faults take what one batch does. -/
lemma Took.trans {mode : BatchMode} {rows : List Record} {sent : List Response} {reply : Reply O}
    {first second : ℕ} {between after : Reply O × ρ}
    (h : Took Left Holds mode rows sent reply first between)
    (h' : Took Left Holds mode (rows.drop first)
      (sent ++ (mode.sent (rows.take first)).map .record) between.1 second after) :
    Took Left Holds mode rows sent reply (first + second) after where
  reply := by
    rw [h'.reply, h.reply]
  output := by
    have hsent : mode.sent (rows.take (first + second)) =
        mode.sent (rows.take first) ++ mode.sent ((rows.drop first).take second) := by
      cases mode with
      | pull => exact List.take_add
      | discard => rfl
    rw [hsent, List.map_append, ← List.append_assoc]
    exact h'.output
  left := by
    rw [← List.drop_drop]
    exact h'.left

/-- Sizes add up as long as their sum is a size. -/
lemma toNat_toInt_add {first second : Int64} (hfirst : 0 ≤ first) (hsecond : 0 ≤ second)
    (hsum : first.toInt + second.toInt ≤ Int64.maxValue.toInt) :
    0 ≤ first + second ∧
      (first + second).toInt.toNat = first.toInt.toNat + second.toInt.toNat := by
  have hfirst' : 0 ≤ first.toInt := Int64.le_iff_toInt_le.mp hfirst
  have hsecond' : 0 ≤ second.toInt := Int64.le_iff_toInt_le.mp hsecond
  have hmax : Int64.maxValue.toInt = 2 ^ 63 - 1 := by decide
  have hadd : (first + second).toInt = first.toInt + second.toInt := by
    rw [Int64.toInt_add, Int.bmod_eq_of_le] <;> omega
  refine ⟨Int64.le_iff_toInt_le.mpr ?_, ?_⟩
  · rw [hadd]
    exact Int.add_nonneg hfirst' hsecond'
  · rw [hadd]
    omega

/-- A batch is decided by its bounds, the least of which says how far it gets.

* A batch that is pulled sends the rows that it reaches, in order. It ends well at its size, or at
  the end of the rows if reading does not fail there first; it fails with the fault of the result
  where reading fails, and with the fault of the output, one row later, where that is full.
* A batch that is discarded takes rows and ends like one whose output has room for all of them, and
  does not touch the reply.
* Without faults two batches take and send what one batch of both sizes does, and hear the same if
  the rows that are left decide whether there are more. -/
theorem batch_bounded (hsource : RecordSource.HandsOut Left broken)
    (houtput : Accepts ResponseWriter.write Holds refused) :
    (∀ (size : Int64) (rows : List Record) (breaks room : ℕ∞) (sent : List Response)
        (reply : Reply O) (result : ρ), Left rows breaks result → Holds sent room reply.output →
      ∃ output rest taken outcome,
        batch .pull size (reply, result) =
          resultOf (outcome.map fun _ => RecordSource.hasMore rest) ({ reply with output }, rest) ∧
        Holds (sent ++ (rows.take (Bounds.ofBatch size rows breaks room).reach).map .record)
          (room - (Bounds.ofBatch size rows breaks room).reach) output ∧
        Left (rows.drop taken) (breaks - taken) rest ∧
        (Bounds.ofBatch size rows breaks room).Ends broken refused taken outcome) ∧
    (∀ (size : Int64) (rows : List Record) (breaks : ℕ∞) (reply : Reply O) (result : ρ),
        Left rows breaks result →
      ∃ rest taken outcome,
        batch .discard size (reply, result) =
          resultOf (outcome.map fun _ => RecordSource.hasMore rest) (reply, rest) ∧
        Left (rows.drop taken) (breaks - taken) rest ∧
        (Bounds.ofBatch size rows breaks ⊤).Ends broken refused taken outcome) ∧
    (∀ (mode : BatchMode) (first second : Int64), 0 ≤ first → 0 ≤ second →
        first.toInt + second.toInt ≤ Int64.maxValue.toInt →
        ∀ (rows : List Record) (sent : List Response) (reply : Reply O) (result : ρ),
        Left rows ⊤ result → Holds sent ⊤ reply.output →
      ∃ between after whole,
        batch mode first (reply, result) = .ok (RecordSource.hasMore between.2) between ∧
        batch mode second between = .ok (RecordSource.hasMore after.2) after ∧
        batch mode (first + second) (reply, result) = .ok (RecordSource.hasMore whole.2) whole ∧
        Took Left Holds mode rows sent reply (first.toInt.toNat + second.toInt.toNat) after ∧
        Took Left Holds mode rows sent reply (first.toInt.toNat + second.toInt.toNat) whole ∧
        ((∀ (rows : List Record) (x y : ρ), Left rows ⊤ x → Left rows ⊤ y →
            RecordSource.hasMore x = RecordSource.hasMore y) →
          RecordSource.hasMore after.2 = RecordSource.hasMore whole.2)) := by
  refine ⟨fun size _ _ _ _ _ _ => pull_bounded hsource houtput size,
    fun size _ _ reply _ => discard_bounded hsource refused size reply, ?_⟩
  intro mode first second hfirst hsecond hsum rows sent reply result hleft hholds
  obtain ⟨hboth, hadd⟩ := toNat_toInt_add hfirst hsecond hsum
  obtain ⟨between, hbatch, htook⟩ := batch_took hsource houtput mode hfirst hleft hholds
  obtain ⟨after, hbatch', htook'⟩ :=
    batch_took hsource houtput mode hsecond htook.left htook.output
  obtain ⟨whole, hwhole, hall⟩ := batch_took hsource houtput mode hboth hleft hholds
  have hafter := htook.trans htook'
  rw [hadd] at hall
  exact ⟨between, after, whole, hbatch, hbatch', hwhole, hafter, hall,
    fun hmore => hmore _ _ _ hafter.left hall.left⟩

end Reply

/-! ### A result and an output that fail -/

/-- A result held in memory that fails once a number of its rows are taken. -/
structure FrailRows where
  rows : List Record
  breaks : ℕ∞

/-- What a broken result fails with. -/
def FrailRows.fault : Fault := .statement .generalError "the result broke off"

/-- Takes the first row, unless the result is broken. -/
def FrailRows.next : EStateM Fault FrailRows (Option Record) := fun r =>
  if r.breaks = 0 then .error FrailRows.fault r
  else match r.rows with
    | [] => .ok none r
    | row :: rows => .ok (some row) { rows, breaks := r.breaks - 1 }

instance : RecordSource FrailRows where
  columns _ := []
  next := FrailRows.next
  hasMore r := !r.rows.isEmpty
  rowsLeft r := r.rows.length
  rowsLeft_next {r rest row} h := by
    obtain ⟨rows, breaks⟩ := r
    unfold FrailRows.next at h
    split at h
    · cases h
    · cases rows with
      | nil => cases h
      | cons first rows =>
        obtain rfl : _ = rest := (EStateM.Result.ok.inj h).2
        exact Nat.lt_succ_self rows.length

lemma FrailRows.handsOut :
    RecordSource.HandsOut (fun rows breaks r => r = FrailRows.mk rows breaks) FrailRows.fault where
  fails {rows r} h := by
    subst h
    have hnext : FrailRows.next ⟨rows, 0⟩ = .error FrailRows.fault ⟨rows, 0⟩ := if_pos rfl
    exact ⟨⟨rows, 0⟩, hnext, rfl⟩
  gives {row rows breaks r} h := by
    subst h
    have hbreaks : breaks + 1 ≠ 0 := (add_pos_of_right one_pos breaks).ne'
    have hless : breaks + 1 - 1 = breaks := by simpa using add_one_sub_add_one breaks 0
    refine ⟨⟨rows, breaks + 1 - 1⟩, if_neg hbreaks, ?_⟩
    rw [hless]
  ends {breaks r} h := by
    subst h
    have hbreaks : breaks + 1 ≠ 0 := (add_pos_of_right one_pos breaks).ne'
    exact ⟨_, if_neg hbreaks, rfl⟩

/-- An output with room for a number of responses. -/
structure NarrowOutput where
  written : List Response
  room : ℕ∞

/-- A full output is closed. -/
instance : ResponseWriter NarrowOutput where
  write response out :=
    if out.room = 0 then .error .connectionClosed out
    else .ok () { written := out.written ++ [response], room := out.room - 1 }

lemma NarrowOutput.accepts :
    Accepts ResponseWriter.write (fun items room out => out = NarrowOutput.mk items room)
      .connectionClosed where
  takes response {items room out} h := by
    subst h
    have hroom : room + 1 ≠ 0 := (add_pos_of_right one_pos room).ne'
    have hless : room + 1 - 1 = room := by simpa using add_one_sub_add_one room 0
    refine ⟨⟨items ++ [response], room + 1 - 1⟩, if_neg hroom, ?_⟩
    rw [hless]
  refuses response {items out} h := by
    subst h
    exact ⟨⟨items, 0⟩, if_pos (Eq.refl (0 : ℕ∞)), rfl⟩

/-- Of two rows that can be read the output has room for one. The other one is lost, and the fault
of the result is not met. -/
theorem Reply.batch_bounded_narrow :
    Reply.batch .pull (-1)
        (({ output := ⟨[], 1⟩ } : Reply NarrowOutput), FrailRows.mk [[], [], []] 2) =
      .error .connectionClosed ({ output := ⟨[.record []], 0⟩ }, FrailRows.mk [[]] 0) := by
  obtain ⟨output, rest, taken, outcome, hbatch, houtput, hrest, hends⟩ :=
    (Reply.batch_bounded FrailRows.handsOut NarrowOutput.accepts).1 (-1) [[], [], []] 2 1 []
      { output := ⟨[], 1⟩ } ⟨[[], [], []], 2⟩ rfl rfl
  have hreach : (Bounds.ofBatch (-1) [[], [], []] 2 1).reach = 1 := by
    have h : ((Bounds.ofBatch (-1) [[], [], []] 2 1).reach : ℕ∞) = 1 := by
      rw [Bounds.coe_reach]
      show min (min ⊤ 2) (min ((3 : ℕ) : ℕ∞) 1) = 1
      decide
    exact_mod_cast h
  have hlimit : ((1 : ℕ) : ℕ∞) < ⊤ := ENat.natCast_lt_top 1
  have hbreaks : ((1 : ℕ) : ℕ∞) < 2 := by decide
  rw [hreach] at houtput
  obtain ⟨rfl, rfl⟩ := hends.refused (by rwa [hreach]) (by rwa [hreach]) (by rw [hreach]; decide)
  rw [hreach] at hrest
  obtain rfl : output = ⟨[.record []], 0⟩ := houtput
  obtain rfl : rest = ⟨[[]], 0⟩ := hrest
  exact hbatch

end QuerySession
