/-!
# Dictionaries

A dictionary maps texts to values. Its entries are kept in ascending order of their keys, so a
dictionary has one form whatever the order in which it was built, and equality of dictionaries
is equality of their entries.

* `Dictionary.get?_insert`: an insertion changes the value of its own key and no other;
* `Dictionary.ext_get?`: dictionaries that answer every key alike are equal;
* `Dictionary.ofList_entries`: a dictionary is rebuilt from its entries.
-/

namespace QuerySession

/-- A finite map from texts, its entries in strictly ascending order of the keys. -/
@[ext] structure Dictionary (α : Type) where
  entries : List (String × α)
  ascending : entries.Pairwise (fun a b => a.1 < b.1)

namespace Dictionary

variable {α : Type}

/-! ## Entry lists -/

/-- Puts an entry into its place, replacing the one of the same key. -/
def insertEntry (key : String) (value : α) : List (String × α) → List (String × α)
  | [] => [(key, value)]
  | e :: rest =>
    if key < e.1 then (key, value) :: e :: rest
    else if key = e.1 then (key, value) :: rest
    else e :: insertEntry key value rest

theorem lookup_cons (key : String) (e : String × α) (es : List (String × α)) :
    (e :: es).lookup key = if key = e.1 then some e.2 else es.lookup key := by
  obtain ⟨k, v⟩ := e
  rw [List.lookup_cons]
  by_cases h : key = k
  · simp [h]
  · simp [beq_false_of_ne h, h]

theorem key_of_mem_insertEntry {key : String} {value : α} {es : List (String × α)}
    {e : String × α} (h : e ∈ insertEntry key value es) : e.1 = key ∨ e ∈ es := by
  induction es with
  | nil => simp_all [insertEntry]
  | cons d rest ih =>
    rw [insertEntry] at h
    split at h
    · exact (List.mem_cons.1 h).imp_left (congrArg Prod.fst)
    · split at h
      · exact (List.mem_cons.1 h).imp (congrArg Prod.fst) (List.mem_cons_of_mem _)
      · rcases List.mem_cons.1 h with rfl | h
        · exact Or.inr List.mem_cons_self
        · exact (ih h).imp_right (List.mem_cons_of_mem _)

theorem pairwise_insertEntry (key : String) (value : α) {es : List (String × α)}
    (h : es.Pairwise (fun a b => a.1 < b.1)) :
    (insertEntry key value es).Pairwise (fun a b => a.1 < b.1) := by
  induction es with
  | nil => simp [insertEntry]
  | cons e rest ih =>
    obtain ⟨hall, hrest⟩ := List.pairwise_cons.1 h
    rw [insertEntry]
    split
    · rename_i hlt
      refine List.pairwise_cons.2 ⟨fun d hd => ?_, h⟩
      rcases List.mem_cons.1 hd with heq | hd
      · exact heq ▸ hlt
      · exact String.lt_trans hlt (hall d hd)
    · split
      · rename_i heq
        exact List.pairwise_cons.2 ⟨fun d hd => heq ▸ hall d hd, hrest⟩
      · rename_i hnlt hne
        refine List.pairwise_cons.2 ⟨fun d hd => ?_, ih hrest⟩
        rcases key_of_mem_insertEntry hd with hk | hd
        · have hgt : e.1 < key := (Std.lt_trichotomy key e.1).elim (fun h => absurd h hnlt)
            (fun h => h.elim (fun h => absurd h hne) id)
          exact hk ▸ hgt
        · exact hall d hd

/-! ## Operations -/

/-- No entries. -/
def empty : Dictionary α := ⟨[], List.Pairwise.nil⟩

instance : EmptyCollection (Dictionary α) := ⟨empty⟩

instance : Inhabited (Dictionary α) := ⟨∅⟩

/-- Sets one entry, replacing an earlier value of the key. -/
def insert (d : Dictionary α) (key : String) (value : α) : Dictionary α :=
  ⟨insertEntry key value d.entries, pairwise_insertEntry key value d.ascending⟩

/-- The value of a key. -/
def get? (d : Dictionary α) (key : String) : Option α := d.entries.lookup key

/-- The entries of a list, a later one replacing an earlier one of the same key. -/
def ofList (es : List (String × α)) : Dictionary α :=
  es.foldl (fun d e => d.insert e.1 e.2) ∅

/-! ## Reading back -/

theorem lookup_insertEntry (key key' : String) (value : α) (es : List (String × α)) :
    (insertEntry key value es).lookup key' =
      if key' = key then some value else es.lookup key' := by
  induction es with
  | nil => simp [insertEntry, lookup_cons]
  | cons e rest ih =>
    rw [insertEntry]
    split
    · rw [lookup_cons]
    · split
      · rename_i heq
        rw [lookup_cons, lookup_cons, ← heq]
        split <;> rfl
      · rename_i hne
        rw [lookup_cons, ih, lookup_cons]
        by_cases h : key' = key
        · subst h
          rw [if_neg hne, if_pos rfl, if_pos rfl]
        · rw [if_neg h, if_neg h]

@[simp] theorem get?_empty (key : String) : (∅ : Dictionary α).get? key = none := rfl

/-- An insertion changes the value of its own key and no other. -/
theorem get?_insert (d : Dictionary α) (key key' : String) (value : α) :
    (d.insert key value).get? key' = if key' = key then some value else d.get? key' :=
  lookup_insertEntry key key' value d.entries

theorem lookup_eq_none_of_lt {key : String} {es : List (String × α)}
    (h : ∀ e ∈ es, key < e.1) : es.lookup key = none := by
  induction es with
  | nil => rfl
  | cons e rest ih =>
    have hne : key ≠ e.1 := fun he => String.lt_irrefl _ (he ▸ h e List.mem_cons_self)
    rw [lookup_cons, if_neg hne, ih fun d hd => h d (List.mem_cons_of_mem _ hd)]

private theorem head_key_not_lt {e e' : String × α} {rest rest' : List (String × α)}
    (hall' : ∀ d ∈ rest', e'.1 < d.1)
    (hl : (e :: rest).lookup e.1 = (e' :: rest').lookup e.1) : ¬ e.1 < e'.1 := by
  intro hlt
  have hn : (e' :: rest').lookup e.1 = none := lookup_eq_none_of_lt fun d hd => by
    rcases List.mem_cons.1 hd with heq | hd
    · exact heq ▸ hlt
    · exact String.lt_trans hlt (hall' d hd)
  rw [hn, lookup_cons, if_pos rfl] at hl
  exact Option.some_ne_none _ hl

theorem entries_eq_of_lookup {es es' : List (String × α)}
    (h : es.Pairwise (fun a b => a.1 < b.1)) (h' : es'.Pairwise (fun a b => a.1 < b.1))
    (hl : ∀ key, es.lookup key = es'.lookup key) : es = es' := by
  induction es generalizing es' with
  | nil =>
    cases es' with
    | nil => rfl
    | cons e _ => exact absurd (hl e.1) (by rw [lookup_cons, if_pos rfl]; exact nofun)
  | cons e rest ih =>
    cases es' with
    | nil => exact absurd (hl e.1) (by rw [lookup_cons, if_pos rfl]; exact nofun)
    | cons e' rest' =>
      obtain ⟨hall, hrest⟩ := List.pairwise_cons.1 h
      obtain ⟨hall', hrest'⟩ := List.pairwise_cons.1 h'
      have hkey : e.1 = e'.1 := (Std.lt_trichotomy e.1 e'.1).elim
        (fun hlt => absurd hlt (head_key_not_lt hall' (hl e.1)))
        (fun h => h.elim id
          fun hgt => absurd hgt (head_key_not_lt hall (hl e'.1).symm))
      have hvalue : e.2 = e'.2 := by
        have := hl e.1
        rw [lookup_cons, if_pos rfl, lookup_cons, if_pos hkey] at this
        exact Option.some.inj this
      obtain rfl : e = e' := Prod.ext hkey hvalue
      refine congrArg (e :: ·) (ih hrest hrest' fun key => ?_)
      by_cases hk : key = e.1
      · rw [hk, lookup_eq_none_of_lt hall, lookup_eq_none_of_lt hall']
      · simpa [lookup_cons, hk] using hl key

/-- Dictionaries that answer every key alike are equal. -/
theorem ext_get? {d d' : Dictionary α} (h : ∀ key, d.get? key = d'.get? key) : d = d' :=
  Dictionary.ext (entries_eq_of_lookup d.ascending d'.ascending h)

theorem get?_foldl_insert (es : List (String × α)) (d : Dictionary α) (key : String) :
    (es.foldl (fun d e => d.insert e.1 e.2) d).get? key =
      (es.reverse.lookup key).or (d.get? key) := by
  induction es generalizing d with
  | nil => rfl
  | cons e rest ih =>
    rw [List.foldl_cons, ih, get?_insert, List.reverse_cons, List.lookup_append, Option.or_assoc,
      lookup_cons]
    by_cases h : key = e.1 <;> simp [h]

/-- Of the entries with a key, the last one counts. -/
theorem get?_ofList (es : List (String × α)) (key : String) :
    (ofList es).get? key = es.reverse.lookup key := by
  rw [ofList, get?_foldl_insert, get?_empty, Option.or_none]

theorem lookup_reverse_of_pairwise {es : List (String × α)}
    (h : es.Pairwise (fun a b => a.1 < b.1)) (key : String) :
    es.reverse.lookup key = es.lookup key := by
  induction es with
  | nil => rfl
  | cons e rest ih =>
    obtain ⟨hall, hrest⟩ := List.pairwise_cons.1 h
    rw [List.reverse_cons, List.lookup_append, ih hrest, lookup_cons, lookup_cons]
    by_cases hk : key = e.1
    · subst hk
      rw [lookup_eq_none_of_lt hall]
      rfl
    · simp [hk]

/-- A dictionary is rebuilt from its entries. -/
@[simp] theorem ofList_entries (d : Dictionary α) : ofList d.entries = d :=
  ext_get? fun key => (get?_ofList d.entries key).trans (lookup_reverse_of_pairwise d.ascending key)

end Dictionary
end QuerySession
