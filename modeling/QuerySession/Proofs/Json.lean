import Mathlib.Data.List.TakeWhile
import Mathlib.Data.Nat.Notation
import Mathlib.Tactic.Lemma
import QuerySession.Json.Parser

/-!
# Reading what was written

A value in writing is read back, whatever follows it. Only the spelling of its strings may differ:
a control character without a letter of its own is written by number, and comes back as a code
unit.

* `Json.scan_quote`, `Json.stopsAtEnd_number`: literals are read up to where they end;
* `Json.chars?_reread`: the spelling does not matter to a text;
* `Json.IsWritable.readsBack`: a value is read back in front of whatever ends it, given as much
  fuel as it is long;
* `Json.parse?_render`: a value in writing is read back as a whole.
-/

namespace QuerySession.Json

/-! ## String literals -/

/-- A piece that a literal can hold: a code unit has sixteen bits. -/
def Piece.IsWritable : Piece → Prop
  | .char _ => True
  | .unit code => code < 0x10000

/-- A piece as it is read after it was written. A control character comes back as a code unit,
unless there is a letter for it. -/
def Piece.reread : Piece → Piece
  | .char c =>
    match escapeLetter? c with
    | some _ => .char c
    | none => if c.toNat < 0x20 then .unit c.toNat else .char c
  | .unit code => .unit code

section
variable {s rest : List Char} {ps : List Piece}

lemma hexDigit?_digitChar : ∀ d < 16, hexDigit? (Nat.digitChar d) = some d := by decide

lemma scan_writeUnit {code : ℕ} (hcode : code < 0x10000) (h : scan s = some (ps, rest)) :
    scan (writeUnit code ++ s) = some (.unit code :: ps, rest) := by
  have hdigits : codeUnit? (Nat.digitChar (code / 4096 % 16)) (Nat.digitChar (code / 256 % 16))
      (Nat.digitChar (code / 16 % 16)) (Nat.digitChar (code % 16)) = some code := by
    have hdigit (n : ℕ) : hexDigit? (Nat.digitChar (n % 16)) = some (n % 16) :=
      hexDigit?_digitChar _ (Nat.mod_lt n (by decide))
    have hsum : ((code / 4096 % 16 * 16 + code / 256 % 16) * 16 + code / 16 % 16) * 16 +
        code % 16 = code := by omega
    unfold codeUnit?
    rw [hdigit, hdigit, hdigit, hdigit]
    exact congrArg some hsum
  show scan ('\\' :: 'u' :: _ :: _ :: _ :: _ :: s) = _
  rw [scan, hdigits, h]
  rfl

lemma unescape?_escapeLetter? {c letter : Char} (h : escapeLetter? c = some letter) :
    unescape? letter = some c ∧ letter ≠ 'u' := by
  unfold escapeLetter? at h
  split at h <;> cases h <;> exact ⟨rfl, by decide⟩

lemma scan_escaped {c letter : Char} (hletter : escapeLetter? c = some letter)
    (h : scan s = some (ps, rest)) :
    scan ('\\' :: letter :: s) = some (.char c :: ps, rest) := by
  obtain ⟨hunescape, hu⟩ := unescape?_escapeLetter? hletter
  rw [scan.eq_4 _ _ fun _ _ _ _ _ heq _ => hu heq, hunescape, h]
  rfl

lemma scan_plain {c : Char} (hletter : escapeLetter? c = none) (hc : ¬ c.toNat < 0x20)
    (h : scan s = some (ps, rest)) : scan (c :: s) = some (.char c :: ps, rest) := by
  have hquote : c ≠ '"' := by
    rintro rfl
    cases hletter
  have hslash : c ≠ '\\' := by
    rintro rfl
    cases hletter
  rw [scan.eq_5 _ _ hquote (fun _ _ _ _ _ heq _ => hslash heq) (fun _ _ heq _ => hslash heq),
    if_neg (not_or.mpr ⟨hc, hslash⟩), h]
  rfl

/-- A piece that was written is read back, up to its spelling. -/
lemma scan_write {p : Piece} (hp : p.IsWritable) (h : scan s = some (ps, rest)) :
    scan (p.write ++ s) = some (p.reread :: ps, rest) := by
  cases p with
  | unit code => exact scan_writeUnit hp h
  | char c =>
    rw [Piece.write, Piece.reread]
    cases hletter : escapeLetter? c with
    | some letter => exact scan_escaped hletter h
    | none =>
      dsimp only
      by_cases hc : c.toNat < 0x20
      · have hsmall : c.toNat < 0x10000 := by omega
        rw [if_pos hc, if_pos hc]
        exact scan_writeUnit hsmall h
      · rw [if_neg hc, if_neg hc]
        exact scan_plain hletter hc h

/-- Pieces that were written are read back behind the opening quote. -/
lemma scan_quote (hps : ∀ p ∈ ps, p.IsWritable) (rest : List Char) :
    scan (ps.flatMap Piece.write ++ '"' :: rest) = some (ps.map Piece.reread, rest) := by
  induction ps with
  | nil => rfl
  | cons p ps ih =>
    rw [List.flatMap_cons, List.append_assoc]
    exact scan_write (hps p List.mem_cons_self) (ih fun q hq => hps q (List.mem_cons_of_mem p hq))

end

/-! ## Texts -/

section
variable {code : ℕ}

/-- A code unit that is no half of a pair is a character of its own, whatever follows. -/
lemma chars?_unit (hhigh : isHighHalf code = false) (hlow : isLowHalf code = false)
    (ps : List Piece) : chars? (.unit code :: ps) = (chars? ps).map (.ofNat code :: ·) := by
  match ps with
  | [] | .char _ :: _ | .unit _ :: _ => simp [chars?, hhigh, hlow]

/-- Half of a pair is no character without the other half. -/
lemma chars?_half (hhalf : (isHighHalf code || isLowHalf code) = true) {ps : List Piece}
    (hps : ∀ low rest, ps = .unit low :: rest → isLowHalf low = false) :
    chars? (.unit code :: ps) = none := by
  rcases ps with _ | ⟨c | low, rest⟩
  · simp [chars?, hhalf]
  · simp [chars?, hhalf]
  · have hlow := hps low rest rfl
    rw [Bool.or_eq_true] at hhalf
    rw [chars?]
    by_cases hhigh : isHighHalf code = true
    · simp [hhigh, hlow]
    · simp [hhigh, hhalf.resolve_left hhigh]

/-- A control character is no half of a pair. -/
lemma not_half_of_control {c : Char} (hc : c.toNat < 0x20) :
    isHighHalf c.toNat = false ∧ isLowHalf c.toNat = false := by
  constructor
  · simp [isHighHalf]
    omega
  · simp [isLowHalf]
    omega

lemma reread_char_eq_unit {c : Char} (h : (Piece.char c).reread = .unit code) :
    isLowHalf code = false := by
  rw [Piece.reread] at h
  split at h
  · cases h
  · split at h
    · cases h
      exact (not_half_of_control ‹_›).2
    · cases h

end

/-- A character is the same by number. -/
lemma chars?_reread_char (c : Char) (ps : List Piece) :
    chars? ((Piece.char c).reread :: ps) = (chars? ps).map (c :: ·) := by
  rw [Piece.reread]
  split
  · rfl
  · split
    · obtain ⟨hhigh, hlow⟩ := not_half_of_control ‹_›
      rw [chars?_unit hhigh hlow, Char.ofNat_toNat]
    · rfl

/-- How its control characters are spelled does not matter to a text. -/
theorem chars?_reread (ps : List Piece) : chars? (ps.map Piece.reread) = chars? ps := by
  induction ps using chars?.induct with
  | case1 => rfl
  | case2 c rest ih => rw [List.map_cons, chars?_reread_char, ih, chars?]
  | case3 high low rest hhigh hlow ih => simp [Piece.reread, chars?, hhigh, hlow, ih]
  | case4 high low rest hhigh hlow => simp [Piece.reread, chars?, hhigh, hlow]
  | case5 high low rest hhigh hlow => simp [Piece.reread, chars?, hhigh, hlow]
  | case6 high low rest hhigh hlow ih =>
    have hhigh : isHighHalf high = false := Bool.eq_false_iff.mpr hhigh
    have hlow : isLowHalf high = false := Bool.eq_false_iff.mpr hlow
    rw [List.map_cons, Piece.reread, chars?_unit hhigh hlow, ih, chars?_unit hhigh hlow]
  | case7 code rest hrest hhalf =>
    rw [List.map_cons, Piece.reread,
      chars?_half hhalf fun low rest' heq => absurd heq (hrest low rest')]
    -- a unit may follow now, but it stands for a control character
    refine chars?_half hhalf fun low rest' heq => ?_
    rcases rest with _ | ⟨c | low', rest⟩
    · cases heq
    · exact reread_char_eq_unit (List.cons.inj heq).1
    · exact absurd rfl (hrest low' rest)
  | case8 code rest hrest hhalf ih =>
    obtain ⟨hhigh, hlow⟩ := Bool.or_eq_false_iff.mp (Bool.eq_false_iff.mpr hhalf)
    rw [List.map_cons, Piece.reread, chars?_unit hhigh hlow, ih, chars?_unit hhigh hlow]

/-! ## Numbers -/

/-- What cannot go on with a number that stands in front of it. -/
def Ends (s : List Char) : Prop :=
  ∀ c rest, s = c :: rest → c.isDigit = false ∧ c ≠ '.' ∧ c ≠ 'e' ∧ c ≠ 'E'

lemma ends_nil : Ends [] := nofun

lemma ends_cons {c : Char} {rest : List Char}
    (hc : c.isDigit = false ∧ c ≠ '.' ∧ c ≠ 'e' ∧ c ≠ 'E') : Ends (c :: rest) := by
  rintro _ _ ⟨⟩
  exact hc

/-- What follows an item or a member ends the number it may be. -/
lemma ends_separator {c close : Char} (hclose : close = ']' ∨ close = '\x7d')
    (hc : c = close ∨ c = ',') (rest : List Char) : Ends (c :: rest) := by
  refine ends_cons ?_
  rcases hc with rfl | rfl
  · rcases hclose with rfl | rfl <;> decide
  · decide

/-- A reader of numbers, or of parts of them, reads the same in front of anything that ends them. -/
def StopsAtEnd (read : List Char → Option (List Char × List Char)) : Prop :=
  ∀ {s literal left rest}, Ends rest → read s = some (literal, left) →
    read (s ++ rest) = some (literal, left ++ rest)

lemma span_append (s : List Char) {rest : List Char} (hrest : Ends rest) :
    (s ++ rest).takeWhile Char.isDigit = s.takeWhile Char.isDigit ∧
      (s ++ rest).dropWhile Char.isDigit = s.dropWhile Char.isDigit ++ rest := by
  induction s with
  | nil =>
    cases rest with
    | nil => exact ⟨rfl, rfl⟩
    | cons c rest =>
      obtain ⟨hc, -⟩ := hrest c rest rfl
      simp [hc]
  | cons c s ih =>
    rw [List.cons_append, List.takeWhile_cons, List.takeWhile_cons, List.dropWhile_cons,
      List.dropWhile_cons, ih.1, ih.2]
    cases c.isDigit <;> exact ⟨rfl, rfl⟩

lemma stopsAtEnd_digits : StopsAtEnd digits? := by
  intro s literal left rest hrest h
  obtain ⟨htake, hdrop⟩ := span_append s hrest
  unfold digits? at h ⊢
  rw [htake, hdrop]
  split at h
  · cases h
  · rw [if_neg ‹_›]
    cases h
    rfl

lemma stopsAtEnd_whole : StopsAtEnd whole? := by
  intro s literal left rest hrest h
  match s with
  | [] => cases h
  | c :: s =>
    by_cases hc : c = '0'
    · subst hc
      cases h
      rfl
    · have hplain (t : List Char) : ∀ rest, c :: t = '0' :: rest → False :=
        fun _ heq => hc (List.cons.inj heq).1
      rw [whole?.eq_2 _ (hplain s)] at h
      rw [List.cons_append, whole?.eq_2 _ (hplain _)]
      exact stopsAtEnd_digits hrest h

/-- Nothing is read of a fraction where a number ends. -/
lemma fraction?_of_ends {s : List Char} (hs : Ends s) : fraction? s = some ([], s) := by
  refine fraction?.eq_2 s fun rest heq => ?_
  exact (hs '.' rest heq).2.1 rfl

lemma exponent?_of_ends {s : List Char} (hs : Ends s) : exponent? s = some ([], s) := by
  refine exponent?.eq_3 s (fun rest heq => ?_) fun rest heq => ?_
  · exact (hs 'e' rest heq).2.2.1 rfl
  · exact (hs 'E' rest heq).2.2.2 rfl

/-- A sign, or whatever character, in front of what a reader reads. -/
lemma StopsAtEnd.behind {read : List Char → Option (List Char × List Char)}
    (h : StopsAtEnd read) (sign : Char) :
    StopsAtEnd fun s => (read s).map fun (literal, left) => (sign :: literal, left) := by
  intro s literal left rest hrest hread
  obtain ⟨⟨ds, after⟩, hds, heq⟩ := Option.map_eq_some_iff.mp hread
  cases heq
  show (read (s ++ rest)).map _ = _
  rw [h hrest hds]
  rfl

lemma stopsAtEnd_fraction : StopsAtEnd fraction? := by
  intro s literal left rest hrest h
  match s with
  | [] =>
    cases h
    exact fraction?_of_ends hrest
  | c :: s =>
    by_cases hc : c = '.'
    · subst hc
      exact stopsAtEnd_digits.behind '.' hrest h
    · have hplain (t : List Char) : ∀ rest, c :: t = '.' :: rest → False :=
        fun _ heq => hc (List.cons.inj heq).1
      rw [fraction?.eq_2 _ (hplain s)] at h
      cases h
      exact fraction?.eq_2 _ (hplain _)

lemma stopsAtEnd_signedDigits : StopsAtEnd signedDigits? := by
  intro s literal left rest hrest h
  match s with
  | [] => cases h
  | c :: s =>
    by_cases hplus : c = '+'
    · subst hplus
      exact stopsAtEnd_digits.behind '+' hrest h
    · by_cases hminus : c = '-'
      · subst hminus
        exact stopsAtEnd_digits.behind '-' hrest h
      · have hplain (t : List Char) : signedDigits? (c :: t) = digits? (c :: t) :=
          signedDigits?.eq_3 _ (fun _ heq => hplus (List.cons.inj heq).1)
            fun _ heq => hminus (List.cons.inj heq).1
        rw [hplain] at h
        rw [List.cons_append, hplain]
        exact stopsAtEnd_digits hrest h

lemma stopsAtEnd_exponent : StopsAtEnd exponent? := by
  intro s literal left rest hrest h
  match s with
  | [] =>
    cases h
    exact exponent?_of_ends hrest
  | c :: s =>
    by_cases hsmall : c = 'e'
    · subst hsmall
      exact stopsAtEnd_signedDigits.behind 'e' hrest h
    · by_cases hlarge : c = 'E'
      · subst hlarge
        exact stopsAtEnd_signedDigits.behind 'E' hrest h
      · have hplain (t : List Char) : exponent? (c :: t) = some ([], c :: t) :=
          exponent?.eq_3 _ (fun _ heq => hsmall (List.cons.inj heq).1)
            fun _ heq => hlarge (List.cons.inj heq).1
        rw [hplain] at h
        cases h
        exact hplain _

lemma stopsAtEnd_magnitude : StopsAtEnd magnitude? := by
  intro s literal left rest hrest h
  obtain ⟨⟨whole, s₁⟩, hwhole, h⟩ := Option.bind_eq_some_iff.mp h
  obtain ⟨⟨fraction, s₂⟩, hfraction, h⟩ := Option.bind_eq_some_iff.mp h
  obtain ⟨⟨exponent, s₃⟩, hexponent, h⟩ := Option.bind_eq_some_iff.mp h
  cases h
  unfold magnitude?
  rw [stopsAtEnd_whole hrest hwhole]
  dsimp only [bind, Option.bind]
  rw [stopsAtEnd_fraction hrest hfraction]
  dsimp only
  rw [stopsAtEnd_exponent hrest hexponent]
  rfl

/-- A number is read as it stands, in front of anything that ends it. -/
theorem stopsAtEnd_number : StopsAtEnd number? := by
  intro s literal left rest hrest h
  match s with
  | [] => cases h
  | c :: s =>
    by_cases hminus : c = '-'
    · subst hminus
      exact stopsAtEnd_magnitude.behind '-' hrest h
    · have hplain (t : List Char) : number? (c :: t) = magnitude? (c :: t) :=
        number?.eq_2 _ fun _ heq => hminus (List.cons.inj heq).1
      rw [hplain] at h
      rw [List.cons_append, hplain]
      exact stopsAtEnd_magnitude hrest h

/-- The characters of a number. -/
def IsLiteral (literal : List Char) : Prop := number? literal = some (literal, [])

/-- A character that a number can start with. -/
def startsNumber (c : Char) : Bool := c.isDigit || c = '-'

lemma isBlank_of_startsNumber {c : Char} (hc : startsNumber c = true) : isBlank c = false := by
  cases hblank : isBlank c with
  | false => rfl
  | true =>
    simp only [isBlank, Bool.or_eq_true, decide_eq_true_eq] at hblank
    rcases hblank with ((rfl | rfl) | rfl) | rfl <;> cases hc

/-- A number starts with a digit or a sign. -/
lemma IsLiteral.head {literal : List Char} (h : IsLiteral literal) :
    ∃ c rest, literal = c :: rest ∧ startsNumber c = true := by
  match literal with
  | [] => cases h
  | c :: rest =>
    refine ⟨c, rest, rfl, ?_⟩
    rw [startsNumber, Bool.or_eq_true, decide_eq_true_eq]
    by_cases hminus : c = '-'
    · exact .inr hminus
    · unfold IsLiteral at h
      rw [number?.eq_2 _ fun _ heq => hminus (List.cons.inj heq).1] at h
      obtain ⟨whole, hwhole, -⟩ := Option.bind_eq_some_iff.mp h
      by_cases hzero : c = '0'
      · exact .inl (hzero ▸ rfl)
      · rw [whole?.eq_2 _ fun _ heq => hzero (List.cons.inj heq).1, digits?,
          List.takeWhile_cons] at hwhole
        by_cases hdigit : c.isDigit = true
        · exact .inl hdigit
        · rw [if_neg hdigit] at hwhole
          cases hwhole

/-- A count other than zero has no zero in front. -/
lemma toDigits_ne_zero_cons {n : ℕ} (hn : 0 < n) : ∀ rest, Nat.toDigits 10 n ≠ '0' :: rest := by
  induction n using Nat.strongRecOn with
  | ind n ih =>
    intro rest
    rw [Nat.toDigits_eq_if (by decide)]
    by_cases hsmall : n < 10
    · have hdigit : ∀ d < 10, 0 < d → Nat.digitChar d ≠ '0' := by decide
      rw [if_pos hsmall]
      exact fun heq => hdigit n hsmall hn (List.cons.inj heq).1
    · have hless : n / 10 < n := by omega
      have hpos : 0 < n / 10 := by omega
      -- the first digit is the first digit of all but the last
      rw [if_neg hsmall]
      intro heq
      have hne : Nat.toDigits 10 (n / 10) ≠ [] := Nat.toDigits_ne_nil
      obtain ⟨c, digits, hdigits⟩ := List.exists_cons_of_ne_nil hne
      rw [hdigits] at heq
      obtain ⟨rfl, -⟩ := List.cons.inj heq
      exact ih (n / 10) hless hpos digits hdigits

/-- A count is written as a number. -/
lemma isLiteral_toDigits (n : ℕ) : IsLiteral (Nat.toDigits 10 n) := by
  rcases Nat.eq_zero_or_pos n with rfl | hn
  · rfl
  · have hall : ∀ c ∈ Nat.toDigits 10 n, c.isDigit = true := fun c hc =>
      Nat.isDigit_of_mem_toDigits (by decide) (by decide) hc
    have hzero := toDigits_ne_zero_cons hn
    have hne : Nat.toDigits 10 n ≠ [] := Nat.toDigits_ne_nil
    generalize Nat.toDigits 10 n = literal at hall hzero hne ⊢
    have hdigits : digits? literal = some (literal, []) := by
      rw [digits?, List.takeWhile_eq_self_iff.mpr hall, List.dropWhile_eq_nil_iff.mpr hall,
        List.isEmpty_eq_false_iff.mpr hne]
      rfl
    have hminus : ∀ rest, literal ≠ '-' :: rest := by
      rintro rest rfl
      exact absurd (hall '-' List.mem_cons_self) (by decide)
    unfold IsLiteral
    rw [number?.eq_2 _ hminus, magnitude?, whole?.eq_2 _ hzero, hdigits]
    show some (literal ++ [] ++ [], []) = _
    rw [List.append_nil, List.append_nil]

/-! ## Values -/

/-- A value that can be written: its numbers are such, and its code units have sixteen bits. -/
inductive IsWritable : Json → Prop
  | null : IsWritable null
  | bool (truth : Bool) : IsWritable (bool truth)
  | number {literal : List Char} : IsLiteral literal → IsWritable (number literal)
  | string {ps : List Piece} : (∀ p ∈ ps, p.IsWritable) → IsWritable (string ps)
  | array {items : List Json} : (∀ item ∈ items, IsWritable item) → IsWritable (array items)
  | object {members : List (List Piece × Json)} :
    (∀ m ∈ members, ∀ p ∈ m.1, p.IsWritable) → (∀ m ∈ members, IsWritable m.2) →
    IsWritable (object members)

mutual

/-- A value as it is read after it was written. -/
def reread : Json → Json
  | null => null
  | bool truth => bool truth
  | number literal => number literal
  | string ps => string (ps.map Piece.reread)
  | array items => array (rereadItems items)
  | object members => object (rereadMembers members)

/-- Items as they are read after they were written. -/
def rereadItems : List Json → List Json
  | [] => []
  | item :: items => item.reread :: rereadItems items

/-- Members as they are read after they were written. -/
def rereadMembers : List (List Piece × Json) → List (List Piece × Json)
  | [] => []
  | (key, value) :: members => (key.map Piece.reread, value.reread) :: rereadMembers members

end

lemma rereadItems_eq (items : List Json) : rereadItems items = items.map reread := by
  induction items with
  | nil => rfl
  | cons item items ih => exact congrArg (item.reread :: ·) ih

lemma rereadMembers_eq (members : List (List Piece × Json)) :
    rereadMembers members = members.map fun m => (m.1.map Piece.reread, m.2.reread) := by
  induction members with
  | nil => rfl
  | cons m members ih => exact congrArg ((m.1.map Piece.reread, m.2.reread) :: ·) ih

/-- Texts with commas between them. -/
def withCommas : List (List Char) → List Char
  | [] => []
  | [text] => text
  | text :: texts => text ++ ',' :: withCommas texts

/-- A member as it is written. -/
def writeMember (m : List Piece × Json) : List Char := quote m.1 ++ ':' :: m.2.write

lemma writeItems_eq (items : List Json) : writeItems items = withCommas (items.map write) := by
  induction items with
  | nil => rfl
  | cons item items ih =>
    cases items with
    | nil => rfl
    | cons next items => exact congrArg (item.write ++ ',' :: ·) ih

lemma writeMembers_eq (members : List (List Piece × Json)) :
    writeMembers members = withCommas (members.map writeMember) := by
  induction members with
  | nil => rfl
  | cons m members ih =>
    cases members with
    | nil => rfl
    | cons next members =>
      show quote m.1 ++ ':' :: m.2.write ++ ',' :: writeMembers (next :: members) = _
      rw [ih]
      rfl

lemma write_array (items : List Json) :
    (array items).write = '[' :: withCommas (items.map write) ++ [']'] := by
  rw [← writeItems_eq]
  rfl

lemma write_object (members : List (List Piece × Json)) :
    (object members).write = '\x7b' :: withCommas (members.map writeMember) ++ ['\x7d'] := by
  rw [← writeMembers_eq]
  rfl

/-! ## Things between brackets -/

lemma skipBlanks_cons {c : Char} (hc : isBlank c = false) (s : List Char) :
    skipBlanks (c :: s) = c :: s :=
  List.dropWhile_cons_of_neg (by rw [hc]; exact Bool.false_ne_true)

lemma length_withCommas_cons (first next : List Char) (texts : List (List Char)) :
    (withCommas (first :: next :: texts)).length =
      first.length + (withCommas (next :: texts)).length + 1 := by
  show (first ++ ',' :: withCommas (next :: texts)).length = _
  rw [List.length_append, List.length_cons, Nat.add_assoc]

lemma length_le_withCommas {text : List Char} {texts : List (List Char)} (h : text ∈ texts) :
    text.length ≤ (withCommas texts).length := by
  induction texts with
  | nil => cases h
  | cons first texts ih =>
    cases texts with
    | nil =>
      cases List.mem_singleton.mp h
      exact Nat.le_refl _
    | cons next texts =>
      rw [length_withCommas_cons]
      rcases List.mem_cons.mp h with rfl | h
      · omega
      · have hrest := ih h
        omega

lemma length_texts_le (texts : List (List Char)) :
    texts.length ≤ (withCommas texts).length + 1 := by
  induction texts with
  | nil => exact Nat.zero_le _
  | cons first texts ih =>
    cases texts with
    | nil => exact Nat.le_add_left _ _
    | cons next texts =>
      rw [length_withCommas_cons, List.length_cons]
      omega

section
variable {ι α : Type} {thing : List Char → Option (α × List Char)} {close : Char}
  {written : ι → List Char} {meant : ι → α} {things : List ι}

/-- Things with commas between them are read one after the other, if each can be read in front of a
comma and of the closing character. -/
lemma separated_withCommas (hclose : isBlank close = false) (hcomma : close ≠ ',')
    (hthings : ∀ i ∈ things, ∀ c rest, c = close ∨ c = ',' →
      thing (written i ++ c :: rest) = some (meant i, c :: rest))
    (hsome : things ≠ []) {fuel : ℕ} (hfuel : things.length ≤ fuel) (rest : List Char) :
    separated thing close fuel (withCommas (things.map written) ++ close :: rest) =
      some (things.map meant, rest) := by
  induction things generalizing fuel with
  | nil => exact absurd rfl hsome
  | cons i things ih =>
    match fuel with
    | 0 => cases hfuel
    | fuel + 1 =>
      rw [separated]
      cases things with
      | nil =>
        -- the last thing stands in front of the closing character, the others of a comma
        show (thing (written i ++ close :: rest)).bind _ = _
        rw [hthings i List.mem_cons_self close rest (.inl rfl), Option.bind_some]
        dsimp only
        rw [skipBlanks_cons hclose]
        exact if_pos rfl
      | cons next things =>
        have hrest := ih (fun j hj => hthings j (List.mem_cons_of_mem i hj)) (List.cons_ne_nil _ _)
          (Nat.le_of_succ_le_succ hfuel)
        show (thing ((written i ++ ',' :: withCommas _) ++ close :: rest)).bind _ = _
        rw [List.append_assoc, List.cons_append, hthings i List.mem_cons_self ',' _ (.inr rfl),
          Option.bind_some]
        dsimp only
        rw [skipBlanks_cons (show isBlank ',' = false from rfl)]
        dsimp only
        rw [if_neg hcomma.symm, if_pos rfl]
        show (separated thing close fuel _).bind _ = _
        rw [hrest]
        rfl

/-- Things between brackets are read, if each of them can be, given as much fuel as it is long. -/
lemma enclosed_withCommas (hclose : isBlank close = false) (hcomma : close ≠ ',') {fuel : ℕ}
    (hfuel : (withCommas (things.map written)).length < fuel)
    (hheads : ∀ i ∈ things, ∃ c rest, written i = c :: rest ∧ isBlank c = false ∧ c ≠ close)
    (hthings : ∀ i ∈ things, (written i).length ≤ fuel → ∀ c rest, c = close ∨ c = ',' →
      thing (written i ++ c :: rest) = some (meant i, c :: rest)) (rest : List Char) :
    enclosed thing close fuel (withCommas (things.map written) ++ close :: rest) =
      some (things.map meant, rest) := by
  cases things with
  | nil =>
    show enclosed thing close fuel (close :: rest) = _
    rw [enclosed, skipBlanks_cons hclose]
    exact if_pos rfl
  | cons i things =>
    obtain ⟨c, text, hwritten, hblank, hne⟩ := hheads i List.mem_cons_self
    have hcount : (i :: things).length ≤ fuel := by
      have hle := length_texts_le ((i :: things).map written)
      rw [List.length_map] at hle
      omega
    have hlengths (j : ι) (hj : j ∈ i :: things) : (written j).length ≤ fuel :=
      Nat.le_trans (length_le_withCommas (List.mem_map_of_mem hj)) (Nat.le_of_lt hfuel)
    have hall := separated_withCommas hclose hcomma (fun j hj => hthings j hj (hlengths j hj))
      (List.cons_ne_nil i things) hcount rest
    obtain ⟨behind, hbehind⟩ : ∃ behind,
        withCommas ((i :: things).map written) ++ close :: rest = c :: behind := by
      cases things <;> simp [withCommas, hwritten]
    rw [hbehind] at hall ⊢
    rw [enclosed, skipBlanks_cons hblank]
    exact (if_neg hne).trans hall

end

/-! ## Values read back -/

/-- A writable value starts with a character that is no blank and closes no array. -/
lemma IsWritable.head {j : Json} (hj : IsWritable j) :
    ∃ c rest, j.write = c :: rest ∧ isBlank c = false ∧ c ≠ ']' := by
  cases hj with
  | null => exact ⟨'n', _, rfl, rfl, by decide⟩
  | bool truth =>
    cases truth
    · exact ⟨'f', _, rfl, rfl, by decide⟩
    · exact ⟨'t', _, rfl, rfl, by decide⟩
  | string => exact ⟨'"', _, rfl, rfl, by decide⟩
  | array => exact ⟨'[', _, rfl, rfl, by decide⟩
  | object => exact ⟨'\x7b', _, rfl, rfl, by decide⟩
  | number hliteral =>
    obtain ⟨c, rest, rfl, hc⟩ := hliteral.head
    refine ⟨c, rest, rfl, isBlank_of_startsNumber hc, ?_⟩
    rintro rfl
    cases hc

/-- A value that starts with a digit or a sign is a number. -/
lemma value?_of_startsNumber {c : Char} (hc : startsNumber c = true) (fuel : ℕ) (s : List Char) :
    value? (fuel + 1) (c :: s) =
      (number? (c :: s)).map fun (literal, rest) => (number literal, rest) := by
  rw [value?, skipBlanks_cons (isBlank_of_startsNumber hc)]
  split
  -- no other value starts like a number
  any_goals
    rename_i heq
    obtain ⟨rfl, -⟩ := List.cons.inj heq
    cases hc
  rfl

lemma member?_writeMember {value : List Char → Option (Json × List Char)}
    {m : List Piece × Json} (hkey : ∀ p ∈ m.1, p.IsWritable) {s : List Char}
    (hvalue : value (m.2.write ++ s) = some (m.2.reread, s)) :
    member? value (writeMember m ++ s) = some ((m.1.map Piece.reread, m.2.reread), s) := by
  have hwritten : writeMember m ++ s =
      '"' :: (m.1.flatMap Piece.write ++ '"' :: ':' :: (m.2.write ++ s)) := by
    simp [writeMember, quote]
  rw [hwritten, member?, skipBlanks_cons rfl]
  show (scan (_ ++ '"' :: _)).bind _ = _
  rw [scan_quote hkey]
  show (value (m.2.write ++ s)).bind _ = _
  rw [hvalue]
  rfl

/-- A value is read back where it was written, given as much fuel as it is long. -/
def ReadsBack (j : Json) : Prop :=
  ∀ {fuel : ℕ}, j.write.length ≤ fuel → ∀ {rest : List Char}, Ends rest →
    value? fuel (j.write ++ rest) = some (j.reread, rest)

lemma readsBack_null : ReadsBack null := by
  intro fuel hfuel rest _
  match fuel, hfuel with
  | fuel + 1, _ => rfl

lemma readsBack_bool (truth : Bool) : ReadsBack (bool truth) := by
  intro fuel hfuel rest _
  match truth, fuel, hfuel with
  | true, fuel + 1, _ => rfl
  | false, fuel + 1, _ => rfl

lemma readsBack_number {literal : List Char} (h : IsLiteral literal) :
    ReadsBack (number literal) := by
  intro fuel hfuel rest hrest
  obtain ⟨c, digits, rfl, hc⟩ := h.head
  match fuel, hfuel with
  | fuel + 1, _ =>
    show value? (fuel + 1) (c :: (digits ++ rest)) = _
    rw [value?_of_startsNumber hc, ← List.cons_append, stopsAtEnd_number hrest h]
    rfl

lemma readsBack_string {ps : List Piece} (hps : ∀ p ∈ ps, p.IsWritable) :
    ReadsBack (string ps) := by
  intro fuel hfuel rest _
  have hwritten : (string ps).write ++ rest =
      '"' :: (ps.flatMap Piece.write ++ '"' :: rest) := by
    show quote ps ++ rest = _
    simp [quote]
  match fuel, hfuel with
  | fuel + 1, _ =>
    rw [hwritten]
    show (scan _).map _ = _
    rw [scan_quote hps]
    rfl

lemma readsBack_array {items : List Json} (hitems : ∀ item ∈ items, IsWritable item)
    (hback : ∀ item ∈ items, ReadsBack item) : ReadsBack (array items) := by
  intro fuel hfuel rest _
  have hwritten : (array items).write ++ rest =
      '[' :: (withCommas (items.map write) ++ ']' :: rest) := by
    simp [write_array]
  match fuel, hfuel with
  | fuel + 1, hfuel =>
    have hinside : (withCommas (items.map write)).length < fuel := by
      simp only [write_array, List.length_append, List.length_cons] at hfuel
      omega
    have hthings : ∀ item ∈ items, item.write.length ≤ fuel → ∀ c rest, c = ']' ∨ c = ',' →
        value? fuel (item.write ++ c :: rest) = some (item.reread, c :: rest) := by
      intro item hitem hlength c rest hc
      exact hback item hitem hlength (ends_separator (.inl rfl) hc rest)
    rw [hwritten, reread, rereadItems_eq]
    show (enclosed (value? fuel) ']' fuel _).map _ = _
    rw [enclosed_withCommas rfl (by decide) hinside (fun item hitem => (hitems item hitem).head)
      hthings]
    rfl

lemma readsBack_object {members : List (List Piece × Json)}
    (hkeys : ∀ m ∈ members, ∀ p ∈ m.1, p.IsWritable)
    (hback : ∀ m ∈ members, ReadsBack m.2) : ReadsBack (object members) := by
  intro fuel hfuel rest _
  have hwritten : (object members).write ++ rest =
      '\x7b' :: (withCommas (members.map writeMember) ++ '\x7d' :: rest) := by
    simp [write_object]
  match fuel, hfuel with
  | fuel + 1, hfuel =>
    have hinside : (withCommas (members.map writeMember)).length < fuel := by
      simp only [write_object, List.length_append, List.length_cons] at hfuel
      omega
    have hvalue (m : List Piece × Json) : m.2.write.length ≤ (writeMember m).length := by
      simp only [writeMember, List.length_append, List.length_cons]
      omega
    have hthings : ∀ m ∈ members, (writeMember m).length ≤ fuel → ∀ c rest,
        c = '\x7d' ∨ c = ',' → member? (value? fuel) (writeMember m ++ c :: rest) =
          some ((m.1.map Piece.reread, m.2.reread), c :: rest) := by
      intro m hm hlength c rest hc
      have hends := ends_separator (.inr rfl) hc rest
      exact member?_writeMember (hkeys m hm) (hback m hm (Nat.le_trans (hvalue m) hlength) hends)
    rw [hwritten, reread, rereadMembers_eq]
    show (enclosed (member? (value? fuel)) '\x7d' fuel _).map _ = _
    rw [enclosed_withCommas rfl (by decide) hinside
      (fun m _ => ⟨'"', _, rfl, rfl, by decide⟩) hthings]
    rfl

/-- What was written is read back, up to the spelling of control characters. -/
theorem IsWritable.readsBack {j : Json} (hj : IsWritable j) : ReadsBack j := by
  induction hj with
  | null => exact readsBack_null
  | bool truth => exact readsBack_bool truth
  | number hliteral => exact readsBack_number hliteral
  | string hps => exact readsBack_string hps
  | array hitems ih => exact readsBack_array hitems ih
  | object hkeys hvalues ih => exact readsBack_object hkeys ih

/-- A value in writing is read back as a whole. -/
theorem parse?_render {j : Json} (hj : IsWritable j) : parse? j.render = some j.reread := by
  have hlength : j.write.length ≤ j.render.length + 1 := by
    rw [render, String.length_ofList]
    omega
  have hback := hj.readsBack hlength ends_nil
  rw [List.append_nil] at hback
  have hvalue : value? (j.render.length + 1) j.render.toList = some (j.reread, []) := by
    rw [← hback, render, String.toList_ofList]
  rw [parse?, hvalue]
  rfl

end QuerySession.Json
