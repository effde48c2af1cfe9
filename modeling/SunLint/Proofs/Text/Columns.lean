import Mathlib.Order.GaloisConnection.Basic
import SunLint.Text.Utf16

/-!
# Columns of characters and of units

A line is encoded in UTF-16 (`utf16`), where a character beyond the first plane becomes a pair of
surrogates. The column in units of a character is the length of what is encoded in front of it, and
the character of a unit is the last one that does not start behind it. So the two maps are a Galois
connection, from which all the rest follows: from characters to units and back nothing is lost, and
from units to characters and back only a unit inside a pair is moved, to the start of the pair.

Counted along the line in 32 bits, the columns are the same as long as no sum is too large
(`unitColumn?_eq_some_iff`, `eq_charColumn_of_eq_some`). In a line of fewer than `2 ^ 32` units every
unit has its character, but behind a pair the last columns have no unit (`last_column_unanswered`).

* `gc_columns`: the Galois connection;
* `columns_inverse`: what both columns are of each other, in every line, and when there is none.
-/

namespace SunLint.Text

variable {l : List Char} {c : Char} {n u : Nat}

/-! ## Units -/

/-- The units of a character: its code point, or a pair of surrogates. -/
def units (c : Char) : List Nat :=
  if c.toNat < 0x10000 then [c.toNat]
  else [0xD800 + (c.toNat - 0x10000) / 0x400, 0xDC00 + (c.toNat - 0x10000) % 0x400]

/-- The text in UTF-16. -/
def utf16 (cs : List Char) : List Nat := cs.flatMap units

theorem utf16_cons (c : Char) (cs : List Char) : utf16 (c :: cs) = units c ++ utf16 cs :=
  List.flatMap_cons

/-- A surrogate that opens a pair. -/
def IsHigh (x : Nat) : Prop := 0xD800 ≤ x ∧ x < 0xDC00

/-- A surrogate that closes a pair. -/
def IsLow (x : Nat) : Prop := 0xDC00 ≤ x ∧ x < 0xE000

theorem IsHigh.not_isLow {x : Nat} (h : IsHigh x) : ¬ IsLow x := fun h' =>
  absurd h.2 (Nat.not_lt.2 h'.1)

/-- A pair of surrogates starts at the unit. -/
structure IsPairAt (l : List Char) (u : Nat) : Prop where
  high : ∃ x ∈ (utf16 l)[u]?, IsHigh x
  low : ∃ x ∈ (utf16 l)[u + 1]?, IsLow x

/-- A character is one unit, which is no surrogate, or a pair of them. -/
theorem units_cases (c : Char) :
    (unitWidth c = 1 ∧ ∃ x, units c = [x] ∧ ¬ IsHigh x ∧ ¬ IsLow x) ∨
      (unitWidth c = 2 ∧ ∃ high low, units c = [high, low] ∧ IsHigh high ∧ IsLow low) := by
  have hvalid : c.toNat < 0xD800 ∨ 0xDFFF < c.toNat ∧ c.toNat < 0x110000 := c.valid
  unfold unitWidth units IsHigh IsLow
  split
  · exact .inl ⟨rfl, _, rfl, by omega, by omega⟩
  · exact .inr ⟨rfl, _, _, rfl, by omega, by omega⟩

theorem length_units (c : Char) : (units c).length = unitWidth c := by
  obtain ⟨hwidth, x, hx, -⟩ | ⟨hwidth, high, low, hpair, -⟩ := units_cases c
  · rw [hwidth, hx]
    rfl
  · rw [hwidth, hpair]
    rfl

/-! ## From characters to units -/

theorem unitColumn_zero (l : List Char) : unitColumn l 0 = 0 := by cases l <;> rfl

/-- A column in units is what is encoded in front of it, and what it is behind the end. -/
theorem unitColumn_eq_length (l : List Char) (n : Nat) :
    unitColumn l n = (utf16 (l.take n)).length + (n - l.length) := by
  induction l generalizing n with
  | nil => cases n <;> simp [unitColumn, utf16]
  | cons c cs ih =>
    cases n with
    | zero => simp [unitColumn_zero, utf16]
    | succ n =>
      rw [unitColumn, ih, List.take_succ_cons, utf16_cons, List.length_append, length_units,
        List.length_cons, Nat.add_sub_add_right, Nat.add_assoc]

/-- Of a line in two parts, the second one starts behind the units of the first. -/
theorem unitColumn_append (front back : List Char) :
    unitColumn (front ++ back) front.length = (utf16 front).length := by
  rw [unitColumn_eq_length, List.take_left, List.length_append,
    Nat.sub_eq_zero_of_le (Nat.le_add_right _ _), Nat.add_zero]

theorem charColumn_append (front back : List Char) :
    charColumn (front ++ back) (utf16 front).length = front.length := by
  rw [← unitColumn_append front back, charColumn_unitColumn]

/-- Two parts of a line that start with as many units are the same. -/
theorem eq_of_length_utf16 {front back front' back' : List Char}
    (h : front ++ back = front' ++ back') (hlength : (utf16 front).length = (utf16 front').length) :
    front = front' := by
  refine (List.append_inj h ?_).1
  rw [← charColumn_append front back, hlength, h, charColumn_append]

/-- Behind a character the column is further by its width. -/
theorem unitColumn_succ (h : l[n]? = some c) :
    unitColumn l (n + 1) = unitColumn l n + unitWidth c := by
  induction l generalizing n with
  | nil => cases h
  | cons d cs ih =>
    cases n with
    | zero =>
      obtain rfl := Option.some.inj h
      rw [unitColumn_zero, unitColumn, unitColumn_zero, Nat.add_comm]
    | succ n => rw [unitColumn, unitColumn, ih h, Nat.add_assoc]

/-- Behind the end of the line the column is further by one. -/
theorem unitColumn_succ_of_le (h : l.length ≤ n) :
    unitColumn l (n + 1) = unitColumn l n + 1 := by
  rw [unitColumn_eq_length, unitColumn_eq_length, List.take_of_length_le h,
    List.take_of_length_le (Nat.le_succ_of_le h), Nat.sub_add_comm h, Nat.add_assoc]

/-! ## From units to characters -/

/-- The character of a unit is the last one that does not start behind it. -/
theorem gc_columns (l : List Char) : GaloisConnection (unitColumn l) (charColumn l) := by
  intro n u
  induction l generalizing n u with
  | nil => cases n <;> exact Iff.rfl
  | cons c cs ih =>
    cases n with
    | zero => simp [unitColumn_zero]
    | succ n =>
      have hcs := ih n (u - unitWidth c)
      rw [unitColumn, charColumn]
      split <;> omega

/-- The character of a unit takes it if the next one starts behind it. -/
theorem charColumn_eq (h : unitColumn l n ≤ u) (hsucc : u < unitColumn l (n + 1)) :
    charColumn l u = n :=
  le_antisymm (Nat.lt_succ_iff.1 ((gc_columns l).lt_iff_lt.1 hsucc))
    ((gc_columns l).le_u h)

theorem lt_unitColumn_succ (l : List Char) (u : Nat) :
    u < unitColumn l (charColumn l u + 1) :=
  (gc_columns l).lt_iff_lt.2 (Nat.lt_succ_self _)

/-- A pair of surrogates is the first character, or it is in the rest of the line. -/
theorem isPairAt_cons {cs : List Char} : IsPairAt (c :: cs) u ↔
    (unitWidth c = 2 ∧ u = 0) ∨ ∃ v, u = v + unitWidth c ∧ IsPairAt cs v := by
  obtain ⟨hwidth, x, hx, hhigh, -⟩ | ⟨hwidth, high, low, hpair, hhigh, hlow⟩ := units_cases c
  · have hutf16 : utf16 (c :: cs) = x :: utf16 cs := by rw [utf16_cons, hx]; rfl
    rw [hwidth]
    constructor
    · rintro ⟨⟨y, hy, hy'⟩, hrest⟩
      rw [hutf16] at hy hrest
      cases u with
      | zero =>
        obtain rfl := Option.some.inj hy
        exact absurd hy' hhigh
      | succ v => exact .inr ⟨v, rfl, ⟨y, hy, hy'⟩, hrest⟩
    · rintro (⟨hne, -⟩ | ⟨v, rfl, hv⟩)
      · cases hne
      · exact ⟨hutf16 ▸ hv.high, hutf16 ▸ hv.low⟩
  · have hutf16 : utf16 (c :: cs) = high :: low :: utf16 cs := by rw [utf16_cons, hpair]; rfl
    rw [hwidth]
    constructor
    · rintro ⟨⟨y, hy, hy'⟩, hrest⟩
      rw [hutf16] at hy hrest
      rcases u with _ | _ | v
      · exact .inl ⟨rfl, rfl⟩
      · obtain rfl := Option.some.inj hy
        exact absurd hlow hy'.not_isLow
      · exact .inr ⟨v, rfl, ⟨y, hy, hy'⟩, hrest⟩
    · rintro (⟨-, rfl⟩ | ⟨v, rfl, hv⟩)
      · exact ⟨⟨high, by rw [hutf16]; rfl, hhigh⟩, low, by rw [hutf16]; rfl, hlow⟩
      · exact ⟨hutf16 ▸ hv.high, hutf16 ▸ hv.low⟩

/-- Pairs of surrogates start where characters start that take two units. -/
theorem isPairAt_iff : IsPairAt l u ↔
    ∃ n c, l[n]? = some c ∧ unitWidth c = 2 ∧ u = unitColumn l n := by
  induction l generalizing u with
  | nil => exact iff_of_false (fun h => by simpa [utf16] using h.high) nofun
  | cons c cs ih =>
    rw [isPairAt_cons]
    constructor
    · rintro (⟨hwidth, rfl⟩ | ⟨v, rfl, hv⟩)
      · exact ⟨0, c, rfl, hwidth, (unitColumn_zero _).symm⟩
      · obtain ⟨n, d, hd, hwidth, rfl⟩ := ih.1 hv
        exact ⟨n + 1, d, hd, hwidth, Nat.add_comm _ _⟩
    · rintro ⟨n, d, hd, hwidth, rfl⟩
      cases n with
      | zero =>
        obtain rfl := Option.some.inj hd
        exact .inl ⟨hwidth, unitColumn_zero _⟩
      | succ n => exact .inr ⟨_, Nat.add_comm _ _, ih.2 ⟨n, d, hd, hwidth, rfl⟩⟩

/-- From a unit to its character and back, unless the unit is inside a pair. -/
theorem unitColumn_charColumn (h : ∀ v, IsPairAt l v → u ≠ v + 1) :
    unitColumn l (charColumn l u) = u := by
  have hle := (gc_columns l).l_u_le u
  have hlt := lt_unitColumn_succ l u
  generalize charColumn l u = n at hle hlt
  cases hc : l[n]? with
  | none =>
    rw [unitColumn_succ_of_le (List.getElem?_eq_none_iff.1 hc)] at hlt
    omega
  | some c =>
    rw [unitColumn_succ hc] at hlt
    obtain ⟨hwidth, -⟩ | ⟨hwidth, -⟩ := units_cases c
    · omega
    · have hne := h _ (isPairAt_iff.2 ⟨n, c, hc, hwidth, rfl⟩)
      omega

/-- From inside a pair one comes back to its start. -/
theorem unitColumn_charColumn_of_isPairAt (h : IsPairAt l u) :
    unitColumn l (charColumn l (u + 1)) = u := by
  obtain ⟨n, c, hc, hwidth, rfl⟩ := isPairAt_iff.1 h
  rw [charColumn_eq (n := n) (Nat.le_succ _)]
  rw [unitColumn_succ hc, hwidth]
  omega

/-! ## Counting in 32 bits -/

theorem length_utf16_cons (c : Char) (cs : List Char) :
    (utf16 (c :: cs)).length = unitWidth c + (utf16 cs).length := by
  rw [utf16_cons, List.length_append, length_units]

/-- As long as the units fit, so do the characters. -/
theorem countUnits?_eq_some {units seen : Nat} (hseen : seen ≤ units)
    (h : units + unitWidth c < Count.bound) :
    countUnits? (units, seen) c = some (units + unitWidth c, seen + 1) := by
  have hpos := unitWidth_pos c
  rw [countUnits?, Count.add?_eq_some_iff.2 ⟨h, rfl⟩, Count.add?_eq_some_iff.2 ⟨by omega, rfl⟩]
  rfl

theorem countUnits?_eq_none {units seen : Nat} (h : Count.bound ≤ units + unitWidth c) :
    countUnits? (units, seen) c = none := by
  rw [countUnits?, Count.add?_eq_none_iff.2 h]
  rfl

/-- The characters of a text are counted if all of its units fit, whichever comes first. -/
theorem foldlM_countUnits? {units seen : Nat} (hseen : seen ≤ units) (hunits : units < Count.bound)
    (cs : List Char) : cs.foldlM countUnits? (units, seen) =
      if units + (utf16 cs).length < Count.bound then
        some (units + (utf16 cs).length, seen + cs.length) else none := by
  induction cs generalizing units seen with
  | nil => exact (if_pos hunits).symm
  | cons c cs ih =>
    have hpos := unitWidth_pos c
    rw [List.foldlM_cons, length_utf16_cons, ← Nat.add_assoc, List.length_cons, ← Nat.add_assoc,
      Nat.add_right_comm seen]
    by_cases hlt : units + unitWidth c < Count.bound
    · rw [countUnits?_eq_some hseen hlt]
      exact ih (by omega) hlt
    · -- The count breaks off here, and the units of the whole text are too many as well.
      rw [countUnits?_eq_none (by omega), if_neg (by omega)]
      rfl

theorem unitColumn?_eq (l : List Char) (n : Nat) : unitColumn? l n =
    if unitColumn l n < Count.bound then some (unitColumn l n) else none := by
  have hseen : n - (l.take n).length = n - l.length := by
    rw [List.length_take]
    omega
  rw [unitColumn?, foldlM_countUnits? (Nat.zero_le 0) (by decide), Nat.zero_add, Nat.zero_add,
    unitColumn_eq_length]
  by_cases hunits : (utf16 (l.take n)).length < Count.bound
  · simp only [if_pos hunits, Option.bind_eq_bind, Option.bind_some,
      Count.sub?_of_le (l.length_take_le n), hseen]
    rfl
  · rw [if_neg hunits, if_neg (by omega)]
    rfl

theorem unitColumn?_eq_some_iff :
    unitColumn? l n = some u ↔ unitColumn l n < Count.bound ∧ unitColumn l n = u := by
  rw [unitColumn?_eq, Option.ite_none_right_eq_some, Option.some.injEq]

theorem unitColumn?_eq_none_iff : unitColumn? l n = none ↔ Count.bound ≤ unitColumn l n := by
  rw [unitColumn?_eq, ite_eq_right_iff]
  simp

/-- What is found is the character of the unit. -/
theorem charColumnFrom?_eq_some {units seen m : Nat} (h : units ≤ u)
    (hm : charColumnFrom? u units seen l = some m) : m = seen + charColumn l (u - units) := by
  induction l generalizing units seen with
  | nil =>
    rw [charColumnFrom?, Count.sub?_of_le h] at hm
    exact (Option.some.inj hm).symm
  | cons c cs ih =>
    obtain ⟨next, hnext, hm⟩ := Option.bind_eq_some_iff.1 hm
    obtain ⟨-, rfl⟩ := Count.add?_eq_some_iff.1 hnext
    rw [charColumn]
    split at hm
    · rw [if_pos (by omega)]
      exact (Option.some.inj hm).symm
    · rw [if_neg (by omega), ih (by omega) hm, Nat.sub_add_eq]
      omega

/-- Nothing is found if a character that starts at the unit or before it ends too far. -/
theorem charColumnFrom?_eq_none_iff {units seen : Nat} (h : units ≤ u) :
    charColumnFrom? u units seen l = none ↔
      ∃ n < l.length, units + unitColumn l n ≤ u ∧ Count.bound ≤ units + unitColumn l (n + 1) := by
  induction l generalizing units seen with
  | nil =>
    rw [charColumnFrom?, Count.sub?_of_le h]
    exact iff_of_false nofun (by simp)
  | cons c cs ih =>
    have hcons (n : Nat) : unitColumn (c :: cs) (n + 1) = unitWidth c + unitColumn cs n := rfl
    have hzero := unitColumn_zero cs
    rw [charColumnFrom?]
    by_cases hnext : units + unitWidth c < Count.bound
    · rw [Count.add?_eq_some_iff.2 ⟨hnext, rfl⟩, Option.bind_eq_bind, Option.bind_some]
      split
      · -- The unit is inside of the first character, so nothing behind it is counted.
        refine iff_of_false nofun ?_
        rintro ⟨_ | n, hn, hstart, hstop⟩
        · rw [hcons] at hstop
          omega
        · rw [hcons] at hstart
          omega
      · rw [ih (by omega)]
        constructor
        · rintro ⟨n, hn, hstart, hstop⟩
          refine ⟨n + 1, Nat.succ_lt_succ hn, ?_⟩
          rw [hcons, hcons]
          omega
        · rintro ⟨_ | n, hn, hstart, hstop⟩
          · rw [hcons] at hstop
            omega
          · rw [hcons] at hstart hstop
            exact ⟨n, Nat.lt_of_succ_lt_succ hn, by omega, by omega⟩
    · rw [Count.add?_eq_none_iff.2 (by omega)]
      refine iff_of_true rfl ⟨0, Nat.succ_pos _, h, ?_⟩
      rw [hcons]
      omega

theorem eq_charColumn_of_eq_some (h : charColumn? l u = some n) : n = charColumn l u := by
  rw [charColumnFrom?_eq_some (Nat.zero_le u) h, Nat.zero_add, Nat.sub_zero]

theorem charColumn?_eq_none_iff : charColumn? l u = none ↔
    ∃ n < l.length, unitColumn l n ≤ u ∧ Count.bound ≤ unitColumn l (n + 1) := by
  rw [charColumn?, charColumnFrom?_eq_none_iff (Nat.zero_le u)]
  simp only [Nat.zero_add]

/-- The same, said of what is encoded. -/
theorem charColumn?_eq_none_iff_length : charColumn? l u = none ↔ ∃ n < l.length,
    (utf16 (l.take n)).length ≤ u ∧ Count.bound ≤ (utf16 (l.take (n + 1))).length := by
  rw [charColumn?_eq_none_iff]
  refine exists_congr fun n => and_congr_right fun hn => ?_
  rw [unitColumn_eq_length, unitColumn_eq_length, Nat.sub_eq_zero_of_le hn.le,
    Nat.sub_eq_zero_of_le hn, Nat.add_zero, Nat.add_zero]

/-! ### Short lines -/

theorem unitColumn_le (l : List Char) (n : Nat) : unitColumn l n ≤ 2 * n := by
  induction l generalizing n with
  | nil => cases n <;> simp only [unitColumn] <;> omega
  | cons c cs ih =>
    cases n with
    | zero => exact Nat.le_refl 0
    | succ n =>
      have hrest := ih n
      have hwidth : unitWidth c ≤ 2 := by
        unfold unitWidth
        split <;> omega
      rw [unitColumn]
      omega

/-- A column that is not too far to the right has its unit, which is the same without a bound. -/
theorem unitColumn?_eq_unitColumn (h : 2 * n < Count.bound) :
    unitColumn? l n = some (unitColumn l n) :=
  unitColumn?_eq_some_iff.2 ⟨Nat.lt_of_le_of_lt (unitColumn_le l n) h, rfl⟩

/-- In a line that is not too long every unit has its character, which is the same without a
    bound. -/
theorem charColumn?_eq_charColumn (h : 2 * l.length < Count.bound) :
    charColumn? l u = some (charColumn l u) := by
  cases hchar : charColumn? l u with
  | none =>
    obtain ⟨n, hn, -, hbound⟩ := charColumn?_eq_none_iff.1 hchar
    have hle := unitColumn_le l (n + 1)
    omega
  | some n => rw [eq_charColumn_of_eq_some hchar]

/-! ### Both columns -/

/-- The characters that are counted are those of the text. -/
theorem seen_of_foldlM_countUnits? {cs : List Char} {units seen : Nat}
    (h : cs.foldlM countUnits? (0, 0) = some (units, seen)) : seen = cs.length := by
  rw [foldlM_countUnits? (Nat.zero_le 0) (by decide), Option.ite_none_right_eq_some,
    Option.some.injEq, Prod.mk.injEq, Nat.zero_add, Nat.zero_add] at h
  exact h.2.2.symm

/-- The character that is found for a unit has a column again, which is the unit, or the start of
    the pair that the unit is inside of. -/
theorem exists_unitColumn?_of_charColumn? (hu : u < Count.bound) (h : charColumn? l u = some n) :
    ∃ v, unitColumn? l n = some v ∧ v ≤ u ∧ ((∀ w, IsPairAt l w → u ≠ w + 1) → v = u) ∧
      ∀ w, IsPairAt l w → u = w + 1 → v = w := by
  obtain rfl := eq_charColumn_of_eq_some h
  have hle := (gc_columns l).l_u_le u
  refine ⟨_, unitColumn?_eq_some_iff.2 ⟨by omega, rfl⟩, hle, unitColumn_charColumn, ?_⟩
  rintro w hw rfl
  exact unitColumn_charColumn_of_isPairAt hw

/-- A column has no answer in 32 bits if the units in front of it are too many, and a unit has none
    if a character that starts in front of it or at it ends behind too many. Apart from that, the
    column in units of a character belongs to the character, also behind the end of the line. The
    character of a unit starts at the unit, or one unit before if the unit is inside a pair of
    surrogates. Both columns grow with each other, and no more characters are counted in a line
    than the column that they are subtracted from. -/
theorem columns_inverse (l : List Char) :
    (∀ n, unitColumn? l n = none ↔ Count.bound ≤ (utf16 (l.take n)).length + (n - l.length)) ∧
      (∀ u, charColumn? l u = none ↔ ∃ n < l.length,
        (utf16 (l.take n)).length ≤ u ∧ Count.bound ≤ (utf16 (l.take (n + 1))).length) ∧
      (∀ n u m, unitColumn? l n = some u → charColumn? l u = some m → m = n) ∧
      (∀ u n, u < Count.bound → charColumn? l u = some n →
        ∃ v, unitColumn? l n = some v ∧ v ≤ u ∧ ((∀ w, IsPairAt l w → u ≠ w + 1) → v = u) ∧
          ∀ w, IsPairAt l w → u = w + 1 → v = w) ∧
      (∀ n n' u u', unitColumn? l n = some u → unitColumn? l n' = some u' → n ≤ n' → u ≤ u') ∧
      (∀ u u' n n', charColumn? l u = some n → charColumn? l u' = some n' → u ≤ u' → n ≤ n') ∧
      ∀ n units seen, (l.take n).foldlM countUnits? (0, 0) = some (units, seen) →
        Count.sub? n seen = some (n - seen) := by
  refine ⟨fun n => ?_, fun u => charColumn?_eq_none_iff_length, fun n u m hunit hchar => ?_,
    fun u n => exists_unitColumn?_of_charColumn?, fun n n' u u' hunit hunit' hle => ?_,
    fun u u' n n' hchar hchar' hle => ?_, fun n units seen hcount => Count.sub?_of_le ?_⟩
  · rw [unitColumn?_eq_none_iff, unitColumn_eq_length]
  · obtain ⟨-, rfl⟩ := unitColumn?_eq_some_iff.1 hunit
    rw [eq_charColumn_of_eq_some hchar, charColumn_unitColumn]
  · obtain ⟨-, rfl⟩ := unitColumn?_eq_some_iff.1 hunit
    obtain ⟨-, rfl⟩ := unitColumn?_eq_some_iff.1 hunit'
    exact (gc_columns l).monotone_l hle
  · rw [eq_charColumn_of_eq_some hchar, eq_charColumn_of_eq_some hchar']
    exact (gc_columns l).monotone_u hle
  · rw [seen_of_foldlM_countUnits? hcount]
    exact l.length_take_le n

/-- Before, inside and behind a pair of surrogates, and behind the end of the line. -/
theorem columns_inverse_of_pair :
    let l := "a😀b".toList
    IsPairAt l 1 ∧ charColumn? l 2 = some 1 ∧ unitColumn? l 1 = some 1 ∧
      (∀ v, IsPairAt l v → 3 ≠ v + 1) ∧ charColumn? l 3 = some 2 ∧ unitColumn? l 2 = some 3 ∧
      unitColumn? l 5 = some 6 ∧ charColumn? l 6 = some 5 := by
  intro l
  obtain ⟨-, -, hchar, hunit, -⟩ := columns_inverse l
  have hstart : IsPairAt l 1 :=
    ⟨⟨0xD83D, rfl, by decide, by decide⟩, 0xDE00, rfl, by decide, by decide⟩
  have hbehind : ∀ v, IsPairAt l v → 3 ≠ v + 1 := by
    rintro v ⟨⟨x, hx, hhigh⟩, -⟩ hv
    obtain rfl : v = 2 := by omega
    obtain rfl : 0xDE00 = x := Option.some.inj hx
    exact absurd hhigh.2 (by decide)
  obtain ⟨v, hv, -, -, hpair⟩ := hunit 2 1 (by decide) rfl
  obtain rfl := hpair 1 hstart rfl
  obtain ⟨w, hw, -, hsame, -⟩ := hunit 3 2 (by decide) rfl
  obtain rfl := hsame hbehind
  obtain ⟨m, hm⟩ : ∃ m, charColumn? l 6 = some m := ⟨_, rfl⟩
  obtain rfl := hchar 5 6 m rfl hm
  exact ⟨hstart, rfl, hv, hbehind, rfl, hw, rfl, hm⟩

/-- Behind a pair of surrogates the last column of 32 bits has no column in units. -/
theorem last_column_unanswered :
    let l := "😀".toList
    4294967295 < Count.bound ∧ unitColumn? l 4294967295 = none ∧
      ¬ ∃ u, unitColumn? l 4294967295 = some u ∧ charColumn? l u = some 4294967295 := by
  intro l
  have hnone : unitColumn? l 4294967295 = none := by
    rw [unitColumn?_eq_none_iff, unitColumn_eq_length, List.take_of_length_le (by decide)]
    decide
  refine ⟨by decide, hnone, ?_⟩
  rintro ⟨u, hu, -⟩
  rw [hnone] at hu
  cases hu

end SunLint.Text
