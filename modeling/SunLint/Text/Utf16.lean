import SunLint.Count

/-!
# Columns in UTF-16

Editors count the columns of a line in units of UTF-16, where a character beyond
the first plane takes two; everything else in this library counts characters.
Behind the end of a line both counts go on in steps of one.

A column that is sent or received may be any number of 32 bits, and it is
converted in such numbers, along the line from left to right (`unitColumn?`,
`charColumn?`). `unitColumn` and `charColumn` have no bound. They are for columns
within a text.

* `charColumn_unitColumn`: from a character to its first unit and back.
-/

namespace SunLint.Text

/-- The number of units that the character takes. -/
def unitWidth (c : Char) : Nat := if c.toNat < 0x10000 then 1 else 2

/-- The number of units in the text. -/
def unitCount (cs : List Char) : Nat := cs.foldr (fun c n => unitWidth c + n) 0

/-- The column in units at which the given character of the line starts. -/
def unitColumn : List Char → Nat → Nat
  | _, 0 => 0
  | [], n + 1 => n + 1
  | c :: cs, n + 1 => unitWidth c + unitColumn cs n

/-- The character of the line that takes the given unit. -/
def charColumn : List Char → Nat → Nat
  | [], unit => unit
  | c :: cs, unit => if unit < unitWidth c then 0 else charColumn cs (unit - unitWidth c) + 1

/-- A character takes a unit at least. -/
theorem unitWidth_pos (c : Char) : 0 < unitWidth c := by
  unfold unitWidth
  split <;> omega

/-- From a character to its first unit and back. -/
@[simp]
theorem charColumn_unitColumn (cs : List Char) (n : Nat) :
    charColumn cs (unitColumn cs n) = n := by
  induction cs generalizing n with
  | nil => cases n <;> rfl
  | cons c cs ih =>
    cases n with
    | zero => simp [unitColumn, charColumn, unitWidth_pos]
    | succ n => simp [unitColumn, charColumn, ih]

/-! ## In 32 bits -/

/-- The units and the characters that are counted, with one more character. -/
def countUnits? : Nat × Nat → Char → Option (Nat × Nat)
  | (units, seen), c => return (← Count.add? units (unitWidth c), ← Count.add? seen 1)

/-- The column in units at which the character of the line starts, counted along
    the line. Every column behind the end of the line counts as a unit. -/
def unitColumn? (cs : List Char) (n : Nat) : Option Nat := do
  let (units, seen) ← (cs.take n).foldlM countUnits? (0, 0)
  Count.add? units (← Count.sub? n seen)

/-- The character of the unit, with so many units and characters counted in front
    of the rest of the line. Every unit behind the end of the line counts as a
    character. -/
def charColumnFrom? (unit units seen : Nat) : List Char → Option Nat
  | [] => return seen + (← Count.sub? unit units)
  | c :: cs => do
    let next ← Count.add? units (unitWidth c)
    if unit < next then return seen else charColumnFrom? unit next (seen + 1) cs

/-- The character of the line that takes the unit. -/
def charColumn? (cs : List Char) (unit : Nat) : Option Nat := charColumnFrom? unit 0 0 cs

end SunLint.Text
