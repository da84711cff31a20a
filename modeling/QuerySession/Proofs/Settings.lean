import QuerySession.Proofs.Json
import QuerySession.Settings.Json

/-!
# Settings read back

Settings that were written are read back as they were, whatever characters their names have and
however long their queues are. So are some of their members alone, in any order: the other fields
keep their defaults.

* `Settings.ofJson?_reread`: what a value describes does not depend on how its strings are spelled;
* `Settings.setMembers?_members`: members of other settings replace the fields they are of;
* `Settings.render_round_trip`: the settings behind their text, and behind any part of it.
-/

namespace QuerySession

namespace Json

lemma text?_reread (ps : List Piece) : text? (ps.map Piece.reread) = text? ps := by
  rw [text?, chars?_reread, text?]

lemma string?_reread (j : Json) : j.reread.string? = j.string? := by
  cases j with
  | string ps => exact text?_reread ps
  | _ => rfl

lemma nat?_reread (j : Json) : j.reread.nat? = j.nat? := by
  cases j <;> rfl

lemma isWritable_pieces (s : String) : ∀ p ∈ pieces s, p.IsWritable := by
  intro p hp
  obtain ⟨c, -, rfl⟩ := List.mem_map.mp hp
  trivial

lemma isWritable_ofString (s : String) : IsWritable (ofString s) := .string (isWritable_pieces s)

lemma isWritable_ofNat (n : ℕ) : IsWritable (ofNat n) := .number (isLiteral_toDigits n)

end Json

namespace Settings

open Json

/-! ## Spelling -/

lemma Field.set?_reread (s : Settings) (field : Field) (j : Json) :
    Field.set? s field j.reread = Field.set? s field j := by
  cases field <;> simp only [Field.set?, Field.capacity?, string?_reread, nat?_reread]

lemma setMembers?_reread (members : List (List Piece × Json)) (seen : List Field) (s : Settings) :
    setMembers? (rereadMembers members) seen s = setMembers? members seen s := by
  induction members generalizing seen s with
  | nil => rfl
  | cons m members ih =>
    simp only [rereadMembers, setMembers?, text?_reread, Field.set?_reread, ih]

lemma setInOrder?_reread (items : List Json) (fields : List Field) (s : Settings) :
    setInOrder? (rereadItems items) fields s = setInOrder? items fields s := by
  induction items generalizing fields s with
  | nil => rfl
  | cons item items ih =>
    cases fields with
    | nil => rfl
    | cons field fields => simp only [rereadItems, setInOrder?, Field.set?_reread, ih]

/-- How its strings are spelled does not matter to the settings that a value describes. -/
theorem ofJson?_reread (j : Json) : ofJson? j.reread = ofJson? j := by
  cases j with
  | object members => exact setMembers?_reread members [] {}
  | array items => exact setInOrder?_reread items Field.all {}
  | _ => rfl

/-- A value in writing describes what the value describes. -/
lemma parse?_render_eq {j : Json} (hj : IsWritable j) : parse? j.render = ofJson? j := by
  rw [parse?, parse?_render hj, Option.bind_some, ofJson?_reread]

/-! ## Fields taken over -/

/-- Settings with some fields taken over from others. -/
def overlay (base s : Settings) (fields : List Field) : Settings where
  connectionId := if .connectionId ∈ fields then s.connectionId else base.connectionId
  serverAgent := if .serverAgent ∈ fields then s.serverAgent else base.serverAgent
  defaultDatabase := if .defaultDatabase ∈ fields then s.defaultDatabase else base.defaultDatabase
  requestCapacity := if .requestCapacity ∈ fields then s.requestCapacity else base.requestCapacity
  responseCapacity :=
    if .responseCapacity ∈ fields then s.responseCapacity else base.responseCapacity

section
variable (base s : Settings)

lemma overlay_all : overlay base s Field.all = s := rfl

/-- Fields can be taken over one after the other. -/
lemma overlay_overlay (field : Field) (fields : List Field) :
    overlay (overlay base s [field]) s fields = overlay base s (field :: fields) := by
  have hpick {α : Type} (f : Field) (mine yours : α) :
      (if f ∈ fields then mine else if f ∈ [field] then mine else yours) =
        if f ∈ field :: fields then mine else yours := by
    by_cases hmem : f ∈ fields
    · rw [if_pos hmem, if_pos (List.mem_cons_of_mem field hmem)]
    · by_cases heq : f = field <;> simp [hmem, heq]
  simp only [overlay, hpick]

lemma capacity?_ofNat (size : UInt64) : Field.capacity? (.ofNat size.toNat) = some size := by
  rw [Field.capacity?, nat?_ofNat, Option.bind_some, if_pos size.toNat_lt, UInt64.ofNat_toNat]

/-- A field can hold what it holds elsewhere. -/
lemma Field.set?_get (field : Field) :
    Field.set? base field (Field.get s field) = some (overlay base s [field]) := by
  cases field
  case requestCapacity => rw [Field.get, Field.set?, capacity?_ofNat]; rfl
  case responseCapacity => rw [Field.get, Field.set?, capacity?_ofNat]; rfl
  all_goals rw [Field.get, Field.set?, string?_ofString]; rfl

/-- A member of other settings replaces the field it is of, if that was not given before. -/
lemma setMembers?_member {field : Field} {seen : List Field} (hseen : field ∉ seen)
    (rest : List (List Piece × Json)) :
    setMembers? (Field.member s field :: rest) seen base =
      setMembers? rest (field :: seen) (overlay base s [field]) := by
  simp only [Field.member, setMembers?, text?_pieces, Option.bind_eq_bind, Option.bind_some,
    Field.ofKey?_key, if_neg hseen, Field.set?_get]

/-- Members of other settings replace the fields they are of, in whatever order they come. -/
theorem setMembers?_members {fields : List Field} (hnodup : fields.Nodup) {seen : List Field}
    (hseen : ∀ field ∈ fields, field ∉ seen) :
    setMembers? (fields.map (Field.member s)) seen base = some (overlay base s fields) := by
  induction hnodup generalizing seen base with
  | nil => rfl
  | @cons field fields hne _ ih =>
    have hrest : ∀ f ∈ fields, f ∉ field :: seen := by
      intro f hf hmem
      rcases List.mem_cons.mp hmem with rfl | hmem
      · exact hne f hf rfl
      · exact hseen f (List.mem_cons_of_mem field hf) hmem
    -- what was taken over already is the base for the rest
    rw [List.map_cons, setMembers?_member base s (hseen field List.mem_cons_self),
      ih (overlay base s [field]) hrest, overlay_overlay]

end

/-! ## The text of settings -/

lemma isWritable_members (s : Settings) (fields : List Field) :
    IsWritable (.object (fields.map (Field.member s))) := by
  refine .object ?_ ?_
  · intro m hm
    obtain ⟨field, -, rfl⟩ := List.mem_map.mp hm
    exact isWritable_pieces field.key
  · intro m hm
    obtain ⟨field, -, rfl⟩ := List.mem_map.mp hm
    cases field <;> first | exact isWritable_ofString _ | exact isWritable_ofNat _

/-- Some members of settings describe the settings with the other fields at their defaults. -/
lemma parse?_members (s : Settings) {fields : List Field} (hnodup : fields.Nodup) :
    parse? (Json.object (fields.map (Field.member s))).render = some (overlay {} s fields) := by
  rw [parse?_render_eq (isWritable_members s fields)]
  exact setMembers?_members {} s hnodup fun _ _ => List.not_mem_nil

/-- Settings are read back from their text. Of a text with some of their members, in any order,
those fields are read back, and the others are the default ones. -/
theorem render_round_trip (s : Settings) :
    parse? s.render = some s ∧
      ∀ fields : List Field, fields.Nodup →
        parse? (Json.object (fields.map (Field.member s))).render =
          some (overlay {} s fields) := by
  refine ⟨?_, fun _ hnodup => parse?_members s hnodup⟩
  have hall : Field.all.Nodup := by decide
  have hparse := parse?_members s hall
  rw [overlay_all] at hparse
  exact hparse

/-- Settings with every kind of character in their names, and the least and the largest size. -/
def spelled : Settings where
  connectionId := "\"\\/\x01𝄞"
  serverAgent := ""
  defaultDatabase := "café\r\n"
  requestCapacity := 0
  responseCapacity := 18446744073709551615

theorem render_round_trip_spelled :
    parse? spelled.render = some spelled ∧
      [Field.responseCapacity, .connectionId].Nodup ∧
      parse? (Json.object ([Field.responseCapacity, .connectionId].map
        (Field.member spelled))).render =
          some { connectionId := "\"\\/\x01𝄞", responseCapacity := 18446744073709551615 } :=
  ⟨(render_round_trip spelled).1, by decide, (render_round_trip spelled).2 _ (by decide)⟩

end Settings
end QuerySession
