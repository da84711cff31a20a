import Mathlib.Data.List.Forall2
import Mathlib.Data.List.Perm.Subperm
import Mathlib.Data.List.Sort
import QuerySession.Value

/-!
# Equal values

Equality of values is decided part by part. It is symmetric and transitive, but a value that holds a
NaN, at whatever depth, is not equal to itself. Maps are equal if there are as many entries in one
as in the other and every entry of the one has an equal in the other; it does not matter in which
order the entries were inserted.

* `Value.parts`, `Value.SameTop`: what a value is directly made of, and what is compared besides;
* `Value.beq_iff`: equality is that of the tops and of the parts, so what it obeys follows by
  `Value.partsInduction`;
* `Value.ofDictionary_beq_iff`: equality of maps by looking up the entries of one in the other;
* `Value.equality_laws`: the laws.
-/

namespace QuerySession

open List (Forall₂)

/-! ## Keys -/

namespace Dictionary

variable {α : Type}

lemma mem_keys_iff {es : List (String × α)} {key : String} :
    key ∈ es.map Prod.fst ↔ ∃ v, es.lookup key = some v := by
  rw [← Option.isSome_iff_exists, List.lookup_isSome_iff, List.mem_map]
  refine exists_congr fun e => and_congr_right fun _ => ?_
  rw [beq_iff_eq, eq_comm]

lemma keys_ascending (d : Dictionary α) : (d.entries.map Prod.fst).Pairwise (· < ·) :=
  List.pairwise_map.mpr d.ascending

lemma keys_nodup (d : Dictionary α) : (d.entries.map Prod.fst).Nodup := by
  refine List.nodup_iff_pairwise_ne.mpr (d.keys_ascending.imp ?_)
  rintro key _ hlt rfl
  exact String.lt_irrefl key hlt

/-- Of two dictionaries of one size, neither has a key more than the other. -/
lemma keys_eq_of_subset {d e : Dictionary α} (hsize : d.entries.length = e.entries.length)
    (hkeys : d.entries.map Prod.fst ⊆ e.entries.map Prod.fst) :
    d.entries.map Prod.fst = e.entries.map Prod.fst := by
  -- no key comes twice, so there is no room for other keys among those of `e`
  have hlength : (e.entries.map Prod.fst).length ≤ (d.entries.map Prod.fst).length := by
    rw [List.length_map, List.length_map, hsize]
  have hperm := (d.keys_nodup.subperm hkeys).perm_of_length_le hlength
  exact hperm.eq_of_pairwise (fun k l _ _ hkl hlk => absurd hlk (String.lt_asymm hkl))
    d.keys_ascending e.keys_ascending

/-! Insertions -/

lemma lookup_reverse (es : List (String × α)) (key : String) :
    es.reverse.lookup key = (es.filter (·.1 = key)).getLast?.map Prod.snd := by
  induction es with
  | nil => rfl
  | cons e es ih =>
    rw [List.reverse_cons, List.lookup_append, ih, lookup_cons, List.filter_cons]
    by_cases hkey : e.1 = key
    · simp [hkey, List.getLast?_cons]
    · simp [hkey, Ne.symm hkey]

/-- Insertions in another order build the same dictionary if those of each key keep theirs. -/
theorem ofList_eq_of_filter {es es' : List (String × α)}
    (h : ∀ key, es'.filter (·.1 = key) = es.filter (·.1 = key)) : ofList es' = ofList es := by
  refine ext_get? fun key => ?_
  rw [get?_ofList, get?_ofList, lookup_reverse, lookup_reverse, h]

/-- If no key comes twice, the insertions of each keep their order in any case. -/
lemma filter_eq_of_perm {es es' : List (String × α)} (hperm : es'.Perm es)
    (hkeys : (es.map Prod.fst).Nodup) (key : String) :
    es'.filter (·.1 = key) = es.filter (·.1 = key) := by
  have hfound := hperm.filter (·.1 = key)
  have hdistinct : ((es.filter (·.1 = key)).map Prod.fst).Nodup :=
    hkeys.sublist (List.filter_sublist.map Prod.fst)
  have hsame : ∀ e ∈ es.filter (·.1 = key), e.1 = key := by simp
  generalize es.filter (·.1 = key) = found at hfound hdistinct hsame ⊢
  match found with
  | [] => exact hfound.eq_nil
  | [e] => exact List.perm_singleton.mp hfound
  | e :: f :: _ =>
    have heq : e.1 = f.1 := (hsame e (by simp)).trans (hsame f (by simp)).symm
    have hne := (List.nodup_cons.mp hdistinct).1
    rw [List.map_cons, ← heq] at hne
    exact absurd List.mem_cons_self hne

end Dictionary

namespace Value

/-! ## What values are made of -/

/-- The kinds of values. -/
inductive Kind where
  | null
  | boolean
  | integer
  | float
  | bytes
  | text
  | list
  | map
  | struct
  deriving DecidableEq

/-- The kind of a value. -/
def kind : Value → Kind
  | null => .null
  | boolean _ => .boolean
  | integer _ => .integer
  | float _ => .float
  | bytes _ => .bytes
  | text _ => .text
  | list _ => .list
  | map _ => .map
  | struct .. => .struct

/-- The values that a value is directly made of. -/
def parts : Value → List Value
  | list items => items
  | map entries => entries.map Prod.snd
  | struct _ fields => fields
  | null | boolean _ | integer _ | float _ | bytes _ | text _ => []

lemma sizeOf_part {whole part : Value} (h : part ∈ whole.parts) : sizeOf part < sizeOf whole := by
  cases whole with
  | list items =>
    have hitem := List.sizeOf_lt_of_mem (show part ∈ items from h)
    rw [list.sizeOf_spec]
    omega
  | map entries =>
    obtain ⟨⟨key, value⟩, hentry, rfl⟩ := List.mem_map.mp h
    have hlt := List.sizeOf_lt_of_mem hentry
    rw [Prod.mk.sizeOf_spec] at hlt
    rw [map.sizeOf_spec]
    dsimp only
    omega
  | struct tag fields =>
    have hfield := List.sizeOf_lt_of_mem (show part ∈ fields from h)
    rw [struct.sizeOf_spec]
    omega
  | _ => exact absurd h List.not_mem_nil

/-- What holds of a value if it holds of its parts holds of all values. -/
@[elab_as_elim]
theorem partsInduction {motive : Value → Prop}
    (whole : ∀ v : Value, (∀ part ∈ v.parts, motive part) → motive v) (v : Value) : motive v :=
  whole v fun part _ => partsInduction whole part
termination_by sizeOf v
decreasing_by exact sizeOf_part ‹_›

/-- A value is found in another one, at any depth. -/
inductive Inside (v : Value) : Value → Prop
  | whole : Inside v v
  | part {part whole : Value} : part ∈ whole.parts → Inside v part → Inside v whole

/-- A NaN is found in a value. -/
def HoldsNaN (v : Value) : Prop := ∃ x : Binary64, x.isNaN ∧ Inside (float x) v

lemma holdsNaN_iff (v : Value) :
    v.HoldsNaN ↔ (∃ x : Binary64, x.isNaN ∧ v = float x) ∨ ∃ part ∈ v.parts, part.HoldsNaN := by
  constructor
  · rintro ⟨x, hx, hinside⟩
    cases hinside with
    | whole => exact .inl ⟨x, hx, rfl⟩
    | part hpart hinside => exact .inr ⟨_, hpart, x, hx, hinside⟩
  · rintro (⟨x, hx, rfl⟩ | ⟨part, hpart, x, hx, hinside⟩)
    · exact ⟨x, hx, .whole⟩
    · exact ⟨x, hx, .part hpart hinside⟩

/-- Two values agree in all but their parts: in their kind and in what else there is to compare. -/
def SameTop : Value → Value → Prop
  | null, null => True
  | boolean a, boolean b => a = b
  | integer a, integer b => a = b
  | float a, float b => a == b
  | bytes a, bytes b => a = b
  | text a, text b => a = b
  | list _, list _ => True
  | map as, map bs => as.map Prod.fst = bs.map Prod.fst
  | struct t _, struct u _ => t = u
  | _, _ => False

section
variable {a b c : Value}

lemma SameTop.kind (h : SameTop a b) : a.kind = b.kind := by
  cases a <;> cases b <;> first | rfl | exact h.elim

lemma SameTop.symm (h : SameTop a b) : SameTop b a := by
  cases a <;> cases b <;> first
    | exact h.elim
    | trivial
    | exact Eq.symm h
    | exact (Binary64.beq_comm _ _).trans h

lemma SameTop.trans (h : SameTop a b) (h' : SameTop b c) : SameTop a c := by
  cases a <;> cases b <;> first
    | exact h.elim
    | cases c <;> first
      | exact h'.elim
      | trivial
      | exact Eq.trans h h'
      | exact Binary64.beq_trans h h'

/-- Only a NaN differs from itself at the top. -/
lemma sameTop_self : SameTop a a ↔ ¬ ∃ x : Binary64, x.isNaN ∧ a = float x := by
  cases a with
  | float x =>
    show (x == x) = true ↔ _
    simp
  | _ => simp [SameTop]

end

/-! ## Equality by parts -/

lemma forall₂_comp {α : Type} {R S T : α → α → Prop} {as bs cs : List α} (h : Forall₂ R as bs)
    (h' : Forall₂ S bs cs) (hcomp : ∀ a b c, R a b → S b c → T a c) : Forall₂ T as cs := by
  induction h generalizing cs with
  | nil =>
    cases h'
    exact .nil
  | cons hab _ ih =>
    cases h' with
    | cons hbc hrest => exact .cons (hcomp _ _ _ hab hbc) (ih hrest)

lemma beqItems_iff (as bs : List Value) :
    beqItems as bs ↔ Forall₂ (fun a b => a == b) as bs := by
  induction as generalizing bs with
  | nil => cases bs <;> simp [beqItems]
  | cons a as ih =>
    cases bs with
    | nil => simp [beqItems]
    | cons b bs =>
      rw [beqItems, Bool.and_eq_true, ih, List.forall₂_cons]
      rfl

lemma beqEntries_iff (as bs : List (String × Value)) :
    beqEntries as bs ↔
      as.map Prod.fst = bs.map Prod.fst ∧
        Forall₂ (fun a b => a == b) (as.map Prod.snd) (bs.map Prod.snd) := by
  induction as generalizing bs with
  | nil => cases bs <;> simp [beqEntries]
  | cons a as ih =>
    cases bs with
    | nil => simp [beqEntries]
    | cons b bs =>
      obtain ⟨k, a⟩ := a
      obtain ⟨l, b⟩ := b
      rw [beqEntries, Bool.and_eq_true, Bool.and_eq_true, ih, beq_iff_eq]
      simp only [List.map_cons, List.cons.injEq, List.forall₂_cons]
      constructor
      · rintro ⟨⟨hkey, hvalue⟩, hkeys, hvalues⟩
        exact ⟨⟨hkey, hkeys⟩, hvalue, hvalues⟩
      · rintro ⟨⟨hkey, hkeys⟩, hvalue, hvalues⟩
        exact ⟨⟨hkey, hvalue⟩, hkeys, hvalues⟩

/-- Values are equal if they agree at the top and in their parts. -/
theorem beq_iff (a b : Value) :
    a == b ↔ SameTop a b ∧ Forall₂ (fun v w => v == w) a.parts b.parts := by
  show Value.beq a b ↔ _
  cases a <;> cases b <;>
    simp [Value.beq, SameTop, parts, beqItems_iff, beqEntries_iff]

section
variable {a b c : Value}

/-- Parts that are compared are found in the value on the left. -/
lemma beq_parts (h : a == b) :
    Forall₂ (fun v w => v ∈ a.parts ∧ v == w) a.parts b.parts :=
  (List.forall₂_and_left _ _).mpr ⟨fun _ hpart => hpart, ((beq_iff a b).mp h).2⟩

theorem beq_symm (h : a == b) : b == a := by
  induction a using partsInduction generalizing b with
  | whole a ih =>
    have htop : SameTop b a := ((beq_iff a b).mp h).1.symm
    have hturned : Forall₂ (fun v w => w == v) a.parts b.parts :=
      (beq_parts h).imp fun v w ⟨hv, heq⟩ => ih v hv heq
    exact (beq_iff b a).mpr ⟨htop, hturned.flip⟩

theorem beq_trans (h : a == b) (h' : b == c) : a == c := by
  induction a using partsInduction generalizing b c with
  | whole a ih =>
    obtain ⟨htop, hparts⟩ := (beq_iff b c).mp h'
    have hchained : Forall₂ (fun v w => v == w) a.parts c.parts :=
      forall₂_comp (beq_parts h) hparts fun v _ _ ⟨hv, heq⟩ heq' => ih v hv heq heq'
    exact (beq_iff a c).mpr ⟨((beq_iff a b).mp h).1.trans htop, hchained⟩

/-- Only what holds a NaN differs from itself. -/
theorem beq_self_iff : a == a ↔ ¬ a.HoldsNaN := by
  induction a using partsInduction with
  | whole a ih =>
    have hparts : (∀ part ∈ a.parts, part == part) ↔ ¬ ∃ part ∈ a.parts, part.HoldsNaN := by
      rw [forall₂_congr ih]
      exact ⟨fun hall ⟨part, hpart, hnan⟩ => hall part hpart hnan,
        fun hnone part hpart hnan => hnone ⟨part, hpart, hnan⟩⟩
    rw [beq_iff, sameTop_self, List.forall₂_same, hparts, holdsNaN_iff, not_or]

theorem kind_eq_of_beq (h : a == b) : a.kind = b.kind := ((beq_iff a b).mp h).1.kind

end

/-! ## Maps -/

section
variable {as bs : List (String × Value)}

/-- An entry of one map has an equal in a map that is equal. -/
lemma lookup_of_beqEntries (h : beqEntries as bs) {key : String} {v : Value}
    (hv : as.lookup key = some v) : ∃ w, bs.lookup key = some w ∧ v == w := by
  induction as generalizing bs with
  | nil => cases hv
  | cons a as ih =>
    cases bs with
    | nil => cases h
    | cons b bs =>
      obtain ⟨k, a⟩ := a
      obtain ⟨l, b⟩ := b
      rw [beqEntries, Bool.and_eq_true, Bool.and_eq_true, beq_iff_eq] at h
      obtain ⟨⟨rfl, hvalue⟩, hrest⟩ := h
      rw [Dictionary.lookup_cons] at hv ⊢
      by_cases hkey : key = k
      · rw [if_pos hkey] at hv ⊢
        obtain rfl := Option.some.inj hv
        exact ⟨b, rfl, hvalue⟩
      · rw [if_neg hkey] at hv ⊢
        exact ih hrest hv

/-- Entries with the same keys are equal if each has an equal among the others. -/
lemma beqEntries_of_lookup (hkeys : as.map Prod.fst = bs.map Prod.fst)
    (hdistinct : (as.map Prod.fst).Nodup)
    (h : ∀ key v, as.lookup key = some v → ∃ w, bs.lookup key = some w ∧ v == w) :
    beqEntries as bs := by
  induction as generalizing bs with
  | nil =>
    obtain rfl := List.map_eq_nil_iff.mp hkeys.symm
    rfl
  | cons a as ih =>
    cases bs with
    | nil => cases hkeys
    | cons b bs =>
      obtain ⟨k, a⟩ := a
      obtain ⟨l, b⟩ := b
      obtain ⟨rfl, hrest⟩ := List.cons.inj hkeys
      obtain ⟨hnew, hdistinct⟩ := List.nodup_cons.mp hdistinct
      have hvalue : a == b := by
        obtain ⟨w, hw, heq⟩ := h k a List.lookup_cons_self
        obtain rfl := Option.some.inj (List.lookup_cons_self.symm.trans hw)
        exact heq
      have htail : beqEntries as bs := by
        refine ih hrest hdistinct fun key v hv => ?_
        have hkey : key ≠ k := by
          rintro rfl
          exact hnew (Dictionary.mem_keys_iff.mpr ⟨v, hv⟩)
        have hfound := h key v (by rwa [Dictionary.lookup_cons, if_neg hkey])
        rwa [Dictionary.lookup_cons, if_neg hkey] at hfound
      rw [beqEntries, Bool.and_eq_true, Bool.and_eq_true, beq_iff_eq]
      exact ⟨⟨rfl, hvalue⟩, htail⟩

end

/-- Maps are equal if there are as many entries in one as in the other, and each entry of the one
has an equal in the other. -/
theorem ofDictionary_beq_iff (d e : Dictionary Value) :
    ofDictionary d == ofDictionary e ↔
      d.entries.length = e.entries.length ∧
        ∀ key v, d.get? key = some v → ∃ w, e.get? key = some w ∧ v == w := by
  constructor
  · intro h
    have hkeys := ((beqEntries_iff _ _).mp h).1
    refine ⟨?_, fun key v hv => lookup_of_beqEntries h hv⟩
    rw [← List.length_map Prod.fst, hkeys, List.length_map]
  · rintro ⟨hsize, h⟩
    have hfound : d.entries.map Prod.fst ⊆ e.entries.map Prod.fst := by
      intro key hkey
      obtain ⟨v, hv⟩ := Dictionary.mem_keys_iff.mp hkey
      obtain ⟨w, hw, -⟩ := h key v hv
      exact Dictionary.mem_keys_iff.mpr ⟨w, hw⟩
    exact beqEntries_of_lookup (Dictionary.keys_eq_of_subset hsize hfound) d.keys_nodup h

/-- What equality of values obeys: it is symmetric and transitive, and reflexive off the NaNs; it
tells kinds apart, and does not tell in which order the entries of a map were inserted. -/
theorem equality_laws (a b c : Value) :
    (a == b → b == a) ∧ (a == b → b == c → a == c) ∧ (a == a ↔ ¬ a.HoldsNaN) ∧
    (a.kind ≠ b.kind → (a == b) = false) ∧
    (∀ d e : Dictionary Value, ofDictionary d == ofDictionary e ↔
      d.entries.length = e.entries.length ∧
        ∀ key v, d.get? key = some v → ∃ w, e.get? key = some w ∧ v == w) ∧
    ∀ es es' : List (String × Value),
      (∀ key, es'.filter (·.1 = key) = es.filter (·.1 = key)) →
      (ofDictionary (.ofList es') == a) = (ofDictionary (.ofList es) == a) ∧
        (a == ofDictionary (.ofList es')) = (a == ofDictionary (.ofList es)) := by
  refine ⟨beq_symm, beq_trans, beq_self_iff, ?_, ofDictionary_beq_iff, ?_⟩
  · intro hkind
    exact Bool.eq_false_iff.mpr fun h => hkind (kind_eq_of_beq h)
  · intro es es' h
    rw [Dictionary.ofList_eq_of_filter h]
    exact ⟨rfl, rfl⟩

/-- The entries of a point. -/
def coordinates (x y : Binary64) : List (String × Value) := [("x", float x), ("y", float y)]

/-- A path of one point. -/
def path (x y : Binary64) : Value := list [ofDictionary (.ofList (coordinates x y))]

/-- Zero, with a sign. -/
def minusZero : Binary64 := ⟨0x8000000000000000⟩

/-- Zeros of either sign make equal points, whichever coordinate is set first. -/
theorem equality_laws_zeros :
    path ⟨0⟩ minusZero == path minusZero ⟨0⟩ ∧ path minusZero ⟨0⟩ == path ⟨0⟩ ⟨0⟩ ∧
      path ⟨0⟩ minusZero == path ⟨0⟩ ⟨0⟩ ∧
      ∀ v, (ofDictionary (.ofList (coordinates ⟨0⟩ minusZero).reverse) == v) =
        (ofDictionary (.ofList (coordinates ⟨0⟩ minusZero)) == v) := by
  have hab : path ⟨0⟩ minusZero == path minusZero ⟨0⟩ := by decide
  have hbc : path minusZero ⟨0⟩ == path ⟨0⟩ ⟨0⟩ := by decide
  obtain ⟨-, htrans, -⟩ := equality_laws (path ⟨0⟩ minusZero) (path minusZero ⟨0⟩) (path ⟨0⟩ ⟨0⟩)
  refine ⟨hab, hbc, htrans hab hbc, fun v => ?_⟩
  obtain ⟨-, -, -, -, -, horder⟩ := equality_laws v null null
  exact (horder _ _ (Dictionary.filter_eq_of_perm (List.reverse_perm _) (by decide))).1

end Value

end QuerySession
